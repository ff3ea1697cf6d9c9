/-
  TOML documents: `Document.ofText?` reads a text as the table that it writes.
-/
import ProfileSync.Toml.Scalar

namespace ProfileSync.Toml

/-- What is left of a text, and how many characters stand before it. -/
structure Input where
  rest : List Char
  index : Nat

/-- A reader of text; it refuses by `none`. -/
abbrev Parser := StateT Input Option

namespace Parser

/-! ## Characters -/

/-- What is left of the text. -/
def rest : Parser (List Char) := do return (← get).rest

/-- How many characters have been passed. -/
def index : Parser Nat := do return (← get).index

/-- Pass `n` characters. -/
def advance (n : Nat) : Parser Unit := modify fun i => ⟨i.rest.drop n, i.index + n⟩

/-- Whether the next character is `c`. -/
def isNext (c : Char) : Parser Bool := do return (← rest).head? == some c

/-- Pass the character `c`. -/
def expect (c : Char) : Parser Unit := do
  if ← isNext c then advance 1 else failure

/-- Pass blanks inside a line. -/
def spaces : Parser Unit := do advance ((← rest).takeWhile isSpace).length

/-- Pass a comment if there is one, up to the end of the line. -/
def comment : Parser Unit := do
  if ← isNext '#' then advance ((← rest).takeWhile isPrintable).length

/-- Pass the end of a line, with blanks and a comment before it. -/
def lineEnd : Parser Unit := do
  spaces
  comment
  match ← rest with
  | [] => return
  | cs => if lineEndLength cs == 0 then failure else advance (lineEndLength cs)

/-- Pass blanks, comments and line ends. -/
def gap : Nat → Parser Unit
  | 0 => return
  | steps + 1 => do
    spaces
    comment
    match lineEndLength (← rest) with
    | 0 => return
    | n => advance n; gap steps

/-- Pass blanks, comments and line ends, as many as there are. -/
def anyGap : Parser Unit := do gap ((← rest).length + 1)

/-! ## Keys -/

/-- Whether a character may stand in a key without quotes. -/
def isBare (c : Char) : Bool := c.isAlphanum || c == '_' || c == '-'

/-- Read a part of a key. -/
def key : Parser Key := do
  let start ← index
  let cs ← rest
  let bare := cs.takeWhile isBare
  if !bare.isEmpty then
    advance bare.length
    return ⟨String.ofList bare, ⟨start, start + bare.length⟩⟩
  match string? false cs with
  | some (text, n) =>
    advance n
    return ⟨String.ofList text, ⟨start, start + n⟩⟩
  | none => failure

/-- Read the rest of a dotted key. -/
def keyTail : Nat → Key → Parser (List Key × Key)
  | 0, _ => failure
  | steps + 1, first => do
    spaces
    if ← isNext '.' then
      advance 1
      spaces
      let (path, last) ← keyTail steps (← key)
      return (first :: path, last)
    return ([], first)

/-- Read a dotted key: its last part, after the path to it. -/
def dottedKey : Parser (List Key × Key) := do
  spaces
  keyTail ((← rest).length + 1) (← key)

/-! ## Values -/

/-- How deep arrays and tables between braces may be nested. -/
def deepest : Nat := 80

/-- Read something with the place where it stands. -/
def spanned {α : Type} (p : Parser α) : Parser (Span × α) := do
  let start ← index
  let a ← p
  return (⟨start, ← index⟩, a)

/-- Read items with commas between them, and perhaps one after the last, up to
    the bracket `close`. -/
def listed {α : Type} (close : Char) (item : α → Parser α) : Nat → α → Parser α
  | 0, _ => failure
  | steps + 1, a => do
    anyGap
    if ← isNext close then
      advance 1
      return a
    let a ← item a
    anyGap
    if ← isNext ',' then
      advance 1
      listed close item steps a
    else
      expect close
      return a

/-- Read a dotted key and its value. -/
def assignment (value : Parser Value) : Parser (List Key × Key × Span × Value) := do
  let (path, last) ← dottedKey
  expect '='
  spaces
  let (span, v) ← spanned value
  return (path, last, span, v)

/-- Read a value, in which `depth` arrays and tables may be nested. -/
def value : Nat → Parser Value
  | 0 => scalar
  | depth + 1 => do
    if ← isNext '[' then
      advance 1
      let items ← listed ']' (fun items => do return (← spanned (value depth)) :: items)
        ((← rest).length + 1) []
      return .array false items.reverse
    if ← isNext '\x7b' then
      advance 1
      let entry (t : Table) : Parser Table := do
        let (path, last, span, v) ← assignment (value depth)
        match t.assign path last span v with
        | some t => return t
        | none => failure
      let t ← listed '\x7d' entry ((← rest).length + 1) ⟨.inline, []⟩
      return t.toValue
    scalar
where
  /-- Read a scalar. -/
  scalar : Parser Value := do
    let cs ← rest
    match string? true cs with
    | some (text, n) => advance n; return .text (String.ofList text)
    | none =>
      let raw := unquoted cs
      match unquotedValue? raw with
      | some v => advance raw.length; return v
      | none => failure

/-! ## Statements -/

/-- Read the header of a table: whether it is a repeated one, and its key. -/
def header : Parser (Bool × List Key × Key) := do
  expect '['
  let repeated ← isNext '['
  if repeated then advance 1
  let (path, last) ← dottedKey
  expect ']'
  if repeated then expect ']'
  return (repeated, path, last)

/-- Read the lines of a document.  `current` is the path to the table that the
    last header opened, `root` the table of all that was read. -/
def lines : Nat → List Key → Table → Parser Table
  | 0, _, _ => failure
  | steps + 1, current, root => do
    spaces
    match ← rest with
    | [] => return root
    | c :: cs =>
      if c == '#' || lineEndLength (c :: cs) != 0 then
        lineEnd
        lines steps current root
      else if c == '[' then
        let (span, repeated, path, last) ← spanned header
        lineEnd
        match if repeated then root.openItem path last span else root.openTable path last span with
        | some root => lines steps (path ++ [last]) root
        | none => failure
      else
        let (path, last, span, v) ← assignment (value deepest)
        lineEnd
        match root.change false (fun t => t.assign path last span v) current with
        | some root => lines steps current root
        | none => failure

end Parser

/-- The table that a text writes, `none` if it is no document.  A byte order
    mark may stand before it. -/
def Document.ofText? (cs : List Char) : Option Table :=
  let n := if cs.head? == some '\ufeff' then 1 else 0
  (Parser.lines (cs.length + 1) [] ⟨.header, []⟩).run' ⟨cs.drop n, n⟩

end ProfileSync.Toml
