/-
  The texts of scalars: how a plain, a quoted or a block scalar writes a text.

  Inside a plain or a quoted scalar a gap with the ends of lines in it folds
  (`folded`): a single end of line is a space, of several all but the first
  remain.  A block scalar keeps its lines or folds those that do not begin
  with a blank.
-/
import ProfileSync.Yaml.Cursor
import ProfileSync.Text.Digits

namespace ProfileSync.Yaml

/-- What a gap inside a scalar stands for. -/
def folded (gap : List Char) : List Char :=
  match breaksIn gap with
  | [] => gap
  | [b] => if b == '\n' then [' '] else [b]
  | b :: bs => if b == '\n' then bs else b :: bs

/-! ## Plain scalars -/

/-- The length of the next word of a plain scalar.  A colon ends the scalar
    before a gap; between flow brackets a comma or a bracket does as well, and
    a colon must not stand right before one. -/
def plainWordLength (flow : Bool) : List Char → Option Nat
  | [] => some 0
  | c :: rest =>
    if isGap c then some 0
    else if flow && c == ':' && (rest.head?.any ",?[]\x7b\x7d".toList.contains) then none
    else if c == ':' && atGap rest then some 0
    else if flow && ",[]\x7b\x7d".toList.contains c then some 0
    else (plainWordLength flow rest).map (· + 1)

/-- Whether a tab stands in the indentation of a line that begins in a gap;
    `column` is that of the character at the front. -/
def hasTabIndent (indent : Int) (started : Bool) (column : Nat) : List Char → Bool
  | [] => false
  | c :: rest =>
    if isBreak c then hasTabIndent indent true 0 rest
    else (started && c == '\t' && column < indent) || hasTabIndent indent started (column + 1) rest

/-- A plain scalar that has been read. -/
structure PlainText where
  text : List Char
  after : Cursor
  /-- Whether ends of lines were passed after the last word. -/
  crossed : Bool

/-- Read a plain scalar from `c` on, after the words `text` and the gap `gap`;
    `indent` is the least column of its lines outside flow brackets. -/
def plainFrom (flow : Bool) (indent : Int) : Nat → Cursor → List Char → List Char → Option PlainText
  | 0, c, text, gap => some ⟨text, c, gap.any isBreak⟩
  | steps + 1, c, text, gap =>
    if c.atDocumentEdge || c.rest.head? == some '#' then some ⟨text, c, gap.any isBreak⟩
    else
      match plainWordLength flow c.rest with
      | none => none
      | some 0 => some ⟨text, c, gap.any isBreak⟩
      | some n =>
        let text := text ++ folded gap ++ c.rest.take n
        let c := c.advance n
        let gap := c.rest.takeWhile isGap
        let after := c.advance gap.length
        if gap.isEmpty then some ⟨text, c, false⟩
        else if hasTabIndent indent false c.mark.column gap then none
        else if !flow && (after.mark.column : Int) < indent then some ⟨text, after, gap.any isBreak⟩
        else plainFrom flow indent steps after text gap

/-- The plain scalar at a place. -/
def plainText? (flow : Bool) (indent : Int) (c : Cursor) : Option PlainText :=
  plainFrom flow indent (c.rest.length + 1) c [] []

/-! ## Quoted scalars -/

/-- The character that a letter stands for after a backslash. -/
def escaped? : Char → Option Char
  | '0' => some '\x00'
  | 'a' => some '\x07'
  | 'b' => some '\x08'
  | 't' | '\t' => some '\t'
  | 'n' => some '\n'
  | 'v' => some '\x0b'
  | 'f' => some '\x0c'
  | 'r' => some '\r'
  | 'e' => some '\x1b'
  | ' ' => some ' '
  | '\x22' => some '\x22'
  | '/' => some '/'
  | '\\' => some '\\'
  | 'N' => some '\u0085'
  | '_' => some '\u00a0'
  | 'L' => some '\u2028'
  | 'P' => some '\u2029'
  | _ => none

/-- How many digits follow a letter that writes a code point. -/
def escapeDigits : Char → Nat
  | 'x' => 2
  | 'u' => 4
  | 'U' => 8
  | _ => 0

/-- What a backslash and the characters after it stand for, and how many those
    are. -/
def escape? : List Char → Option (Char × Nat)
  | [] => none
  | c :: rest =>
    match escapeDigits c with
    | 0 => (escaped? c).map (·, 1)
    | n =>
      let ds := rest.take n
      let code := numberOfDigits 16 ds
      if ds.length == n && ds.all (isDigitOf 16) && code.isValidChar then
        some (Char.ofNat code, n + 1)
      else none

/-- What the next piece of a quoted scalar stands for, and its length: a gap, an
    escape or a character. -/
def quotedPiece? (double : Bool) : List Char → Option (List Char × Nat)
  | [] => none
  | c :: rest =>
    let gap := (c :: rest).takeWhile isGap
    if !gap.isEmpty then some (folded gap, gap.length)
    else if !double && c == '\x27' && rest.head? == some '\x27' then some (['\x27'], 2)
    else if double && c == '\\' then
      match breakLength rest with
      | 0 => (escape? rest).map fun (ch, n) => ([ch], n + 1)
      | n =>
        let gap := (rest.drop n).takeWhile isGap
        some (breaksIn gap, n + gap.length + 1)
    else some ([c], 1)

/-- Read a quoted scalar after the text `text`, up to its closing quote. -/
def quotedFrom (double : Bool) : Nat → Cursor → List Char → Option (List Char × Cursor)
  | 0, _, _ => none
  | steps + 1, c, text =>
    let closes := match c.rest with
      | q :: rest =>
        if double then q == '\x22' else q == '\x27' && rest.head? != some '\x27'
      | [] => false
    if c.atDocumentEdge then none
    else if closes then some (text, c.next)
    else
      match quotedPiece? double c.rest with
      | some (piece, n) => quotedFrom double steps (c.advance n) (text ++ piece)
      | none => none

/-- The quoted scalar at a place. -/
def quotedText? (double : Bool) (c : Cursor) : Option (List Char × Cursor) :=
  quotedFrom double (c.rest.length + 1) c.next []

/-! ## Block scalars -/

/-- What becomes of the ends of lines after the last line. -/
inductive Chomping where
  | clip
  | strip
  | keep
deriving Repr, Inhabited, BEq, DecidableEq

/-- The signs after the mark of a block scalar: how its end is chomped, its
    indentation if that is given, and how many signs there are. -/
def blockHeader? (cs : List Char) : Option (Chomping × Nat × Nat) :=
  let chomping? : Char → Option Chomping := fun c =>
    if c == '+' then some .keep else if c == '-' then some .strip else none
  match cs with
  | [] => some (.clip, 0, 0)
  | c :: rest =>
    match chomping? c with
    | some chomping =>
      match rest.head? with
      | some d =>
        if d == '0' then none
        else if d.isDigit then some (chomping, (digitValue? d).getD 0, 2)
        else some (chomping, 0, 1)
      | none => some (chomping, 0, 1)
    | none =>
      if c == '0' then none
      else if c.isDigit then
        match rest.head?.bind chomping? with
        | some chomping => some (chomping, (digitValue? c).getD 0, 2)
        | none => some (.clip, (digitValue? c).getD 0, 1)
      else some (.clip, 0, 0)

/-- The empty lines from a place on: their ends, the place after them with the
    indentation of the next line passed, and the widest indentation.  An
    `indent` of zero is not known yet.  A tab must not stand in it. -/
def emptyLines (indent : Nat) : Nat → Cursor → List Char → Nat → Option (List Char × Cursor × Nat)
  | 0, _, _, _ => none
  | steps + 1, c, breaks, widest =>
    let spaces := (c.rest.takeWhile (· == ' ')).length
    let c := c.advance (if indent == 0 then spaces else min spaces (indent - c.mark.column))
    let widest := max widest c.mark.column
    if (indent == 0 || c.mark.column < indent) && c.rest.head? == some '\t' then none
    else
      match breakLength c.rest with
      | 0 => some (breaks, c, widest)
      | n => emptyLines indent steps (c.advance n) (breaks ++ breaksIn (c.rest.take n)) widest

/-- A block scalar in the course of reading: its text, the end of the line last
    read, whether that line began with a blank, and the ends of the empty lines
    after it. -/
structure BlockText where
  text : List Char
  lineEnd : List Char
  blankLine : Bool
  breaks : List Char

/-- Append a line.  A folded line end between two lines that do not begin with a
    blank is a space, or nothing if empty lines stand between them. -/
def BlockText.append (b : BlockText) (fold : Bool) (line lineEnd breaks : List Char) : BlockText :=
  let blank := line.head?.any isSpacing
  let joint :=
    if fold && b.lineEnd == ['\n'] && !b.blankLine && !blank then
      if b.breaks.isEmpty then [' '] else b.breaks
    else b.lineEnd ++ b.breaks
  ⟨b.text ++ joint ++ line, lineEnd, blank, breaks⟩

/-- Read the lines of a block scalar. -/
def blockLines (fold : Bool) (indent : Nat) : Nat → Cursor → BlockText → Option (BlockText × Cursor)
  | 0, c, b => some (b, c)
  | steps + 1, c, b =>
    if c.mark.column != indent || c.rest.isEmpty then some (b, c)
    else
      let line := c.rest.takeWhile (!isBreak ·)
      let c := c.advance line.length
      let n := breakLength c.rest
      match emptyLines indent (c.rest.length + 1) (c.advance n) [] 0 with
      | none => none
      | some (breaks, after, _) =>
        blockLines fold indent steps after (b.append fold line (breaksIn (c.rest.take n)) breaks)

/-- The text of a block scalar with its end chomped. -/
def BlockText.chomped (b : BlockText) : Chomping → List Char
  | .strip => b.text
  | .clip => b.text ++ b.lineEnd
  | .keep => b.text ++ b.lineEnd ++ b.breaks

/-- The block scalar at a place, inside a block that stands at the column
    `parent`. -/
def blockText? (fold : Bool) (parent : Int) (c : Cursor) : Option (List Char × Cursor) :=
  let c := c.next
  match blockHeader? c.rest with
  | none => none
  | some (chomping, step, n) =>
    let c := (c.advance n).skipWhile isSpacing
    let c := if c.rest.head? == some '#' then c.skipWhile (!isBreak ·) else c
    if !atBreak c.rest then none
    else
      let c := c.advance (breakLength c.rest)
      let given := if step == 0 then 0 else (max parent 0).toNat + step
      match emptyLines given (c.rest.length + 1) c [] 0 with
      | none => none
      | some (breaks, c, widest) =>
        let indent := if given == 0 then max (max widest (parent + 1).toNat) 1 else given
        (blockLines fold indent (c.rest.length + 1) c ⟨[], [], false, breaks⟩).map fun (b, c) =>
          (b.chomped chomping, c)

end ProfileSync.Yaml
