/-
  Texts for a terminal: styles, and texts without control sequences.

  A style is switched on by a control sequence that starts with an escape
  character.  `plainText` leaves such sequences out, and with them the control
  characters that are no blanks.
-/

namespace ProfileSync

/-! ## Styles -/

/-- A text with the styles of the given codes, which are left out without
    `color`. -/
def emphasized (color : Bool) (codes : List String) (text : String) : String :=
  if color then
    String.join (codes.map fun code => "\x1b[" ++ code ++ "m") ++ text ++ "\x1b[0m"
  else text

/-! ## Control sequences -/

/-- Where a text is with regard to control sequences. -/
inductive ControlState where
  /-- Outside of them. -/
  | ground
  /-- After an escape character. -/
  | escape
  /-- After an escape character and more that does not end the sequence. -/
  | escapeIntermediate
  /-- In a sequence that a letter ends. -/
  | sequence
  /-- In a string that a bell ends. -/
  | command
  /-- In a string that goes on up to the next escape character. -/
  | string
deriving Repr, Inhabited, BEq, DecidableEq

/-- Whether a character is a blank that is shown wherever it stands. -/
def isShownBlank (c : Char) : Bool :=
  c = '\t' || c = '\n' || c = '\x0c' || c = '\r'

namespace ControlState

/-- Whether a character is shown. -/
def shows (s : ControlState) (c : Char) : Bool :=
  match s with
  | ground => isShownBlank c || ('\x20' ≤ c && c != '\x7f')
  | escape | escapeIntermediate | sequence => isShownBlank c
  | command | string => false

/-- Where a text is after a character that is not shown. -/
def next (s : ControlState) (c : Char) : ControlState :=
  if c = '\x1b' then escape
  else if c = '\x18' || c = '\x1a' then ground
  else match s with
    | ground => ground
    | escape =>
      if '\x20' ≤ c && c ≤ '/' then escapeIntermediate
      else if c = '[' then sequence
      else if c = ']' then command
      else if c = 'P' || c = 'X' || c = '^' || c = '_' then string
      else if '0' ≤ c && c ≤ '~' then ground
      else escape
    | escapeIntermediate => if '0' ≤ c && c ≤ '~' then ground else escapeIntermediate
    | sequence => if '@' ≤ c && c ≤ '~' then ground else sequence
    | command => if c = '\x07' then ground else command
    | string => string

/-- The characters of a text that are shown. -/
def shown (s : ControlState) : List Char → List Char
  | [] => []
  | c :: cs => if s.shows c then c :: ground.shown cs else (s.next c).shown cs

end ControlState

/-- A text without control sequences. -/
def plainText (text : String) : String :=
  String.ofList (ControlState.ground.shown text.toList)

end ProfileSync
