/-
  A place in a YAML text, and the characters by which the text is divided.
-/

namespace ProfileSync.Yaml

/-! ## Characters -/

/-- Whether a character ends a line. -/
def isBreak (c : Char) : Bool :=
  c == '\n' || c == '\r' || c == '\u0085' || c == '\u2028' || c == '\u2029'

/-- Whether a character is a space or a tab. -/
def isSpacing (c : Char) : Bool := c == ' ' || c == '\t'

/-- Whether a character is a space, a tab or the end of a line. -/
def isGap (c : Char) : Bool := isSpacing c || isBreak c

/-- Whether a text begins with a gap or is at its end. -/
def atGap : List Char → Bool
  | [] => true
  | c :: _ => isGap c

/-- Whether a text begins with the end of a line or is at its end. -/
def atBreak : List Char → Bool
  | [] => true
  | c :: _ => isBreak c

/-- Whether a character may stand in a name. -/
def isNameChar (c : Char) : Bool := c.isAlphanum || c == '_' || c == '-'

/-- Whether a character may stand in a text at all. -/
def isAllowed (c : Char) : Bool :=
  let n := c.toNat
  n == 0x09 || n == 0x0a || n == 0x0d || (0x20 ≤ n && n ≤ 0x7e) || n == 0x85 ||
    (0xa0 ≤ n && n ≤ 0xd7ff) || (0xe000 ≤ n && n ≤ 0xfffd) || 0x10000 ≤ n

/-- The ends of lines in a text; each that is one of ASCII or of Latin 1
    stands for a line feed, also a pair of carriage return and line feed. -/
def breaksIn : List Char → List Char
  | '\r' :: '\n' :: cs => '\n' :: breaksIn cs
  | c :: cs =>
    if c == '\u2028' || c == '\u2029' then c :: breaksIn cs
    else if isBreak c then '\n' :: breaksIn cs
    else breaksIn cs
  | [] => []

/-- The length of the end of line at the front of a text. -/
def breakLength : List Char → Nat
  | '\r' :: '\n' :: _ => 2
  | c :: _ => if isBreak c then 1 else 0
  | [] => 0

/-! ## Places -/

/-- A place in a text; all three count from zero. -/
structure Mark where
  index : Nat
  line : Nat
  column : Nat
deriving Repr, Inhabited, BEq, DecidableEq

/-- A place in a text with the text that follows it. -/
structure Cursor where
  rest : List Char
  mark : Mark
deriving Repr, Inhabited

namespace Cursor

/-- The place after the next character.  A carriage return ends a line only
    with the line feed that may follow it. -/
def next (c : Cursor) : Cursor :=
  match c.rest with
  | [] => c
  | ch :: rest =>
    let m := c.mark
    if isBreak ch && !(ch == '\r' && rest.head? == some '\n') then
      ⟨rest, ⟨m.index + 1, m.line + 1, 0⟩⟩
    else ⟨rest, ⟨m.index + 1, m.line, m.column + 1⟩⟩

/-- The place `n` characters on. -/
def advance (c : Cursor) : Nat → Cursor
  | 0 => c
  | n + 1 => c.next.advance n

/-- The place after the characters of a class. -/
def skipWhile (c : Cursor) (p : Char → Bool) : Cursor :=
  c.advance (c.rest.takeWhile p).length

/-- Whether three of `mark` stand at the start of the line, with a gap after
    them. -/
def atDocumentMark (c : Cursor) (mark : Char) : Bool :=
  c.mark.column == 0 && c.rest.take 3 == [mark, mark, mark] && atGap (c.rest.drop 3)

/-- Whether a document begins or ends here by a mark of its own. -/
def atDocumentEdge (c : Cursor) : Bool := c.atDocumentMark '-' || c.atDocumentMark '.'

end Cursor

end ProfileSync.Yaml
