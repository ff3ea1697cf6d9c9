/-
  The tokens of a YAML text.

  A key of a mapping is known as one only at the colon after it.  A scanner
  therefore remembers where the last token that can begin a key stands, and
  holds back the tokens from there on until that is settled
  (`Scanner.release`).

  `tokensOf` lists the tokens of a text.  The end of the text is a token; if
  the text cannot be divided into tokens, the list ends before it.
-/
import ProfileSync.Yaml.Scalar

namespace ProfileSync.Yaml

/-- What a token is. -/
inductive TokenKind where
  /-- A directive with the version of the language. -/
  | version (major minor : Nat)
  /-- A directive that abbreviates tags. -/
  | tagHandle (handle abbreviated : String)
  | documentStart
  | documentEnd
  | streamEnd
  | blockSequence
  | blockMapping
  | blockEnd
  | flowSequence
  | flowSequenceEnd
  | flowMapping
  | flowMappingEnd
  | blockEntry
  | flowEntry
  | key
  | value
  | reference (name : String)
  | anchor (name : String)
  /-- A tag: what stands for its beginning, and the rest of it. -/
  | tag (handle suffix : String)
  | scalar (text : String) (plain : Bool)
deriving Repr, Inhabited, BEq

/-- A token and the place where it begins. -/
structure Token where
  kind : TokenKind
  mark : Mark
deriving Repr, Inhabited, BEq

/-! ## Directives, anchors and tags -/

/-- The name at the front of a text. -/
def nameOf (cs : List Char) : List Char := cs.takeWhile isNameChar

/-- Whether a character may stand in a tag. -/
def isTagChar (inDirective : Bool) (c : Char) : Bool :=
  isNameChar c || ";/?:@&=+$.%!~*'()".toList.contains c ||
    (inDirective && ",[]".toList.contains c)

/-- The octets at the front of a text, each written as `%` and two digits. -/
def percentOctets : List Char → List Nat
  | '%' :: a :: b :: rest =>
    if isDigitOf 16 a && isDigitOf 16 b then numberOfDigits 16 [a, b] :: percentOctets rest else []
  | _ => []

/-- The character that octets encode, and how many of them do. -/
def octetsChar? : List Nat → Option (Char × Nat)
  | [] => none
  | o :: rest =>
    let more? : Option (Nat × Nat) :=
      if o < 0x80 then some (0, o)
      else if o / 32 == 6 then some (1, o % 32)
      else if o / 16 == 14 then some (2, o % 16)
      else if o / 8 == 30 then some (3, o % 8)
      else none
    match more? with
    | none => none
    | some (n, first) =>
      let others := rest.take n
      if others.length == n && others.all (· / 64 == 2) then
        let code := others.foldl (fun code o => code * 64 + o % 64) first
        some (if code.isValidChar then Char.ofNat code else '\ufffd', n + 1)
      else none

/-- The characters of a tag at the front of a text, and their length. -/
def tagChars? (inDirective : Bool) : Nat → List Char → Option (List Char × Nat)
  | 0, _ => some ([], 0)
  | _, [] => some ([], 0)
  | steps + 1, c :: rest =>
    if c == '%' then
      match octetsChar? (percentOctets (c :: rest)) with
      | some (ch, n) =>
        (tagChars? inDirective steps (rest.drop (3 * n - 1))).map fun (cs, m) =>
          (ch :: cs, m + 3 * n)
      | none => none
    else if isTagChar inDirective c then
      (tagChars? inDirective steps rest).map fun (cs, m) => (c :: cs, m + 1)
    else some ([], 0)

/-- The text of a tag; a null character ends it. -/
def tagText (cs : List Char) : String := String.ofList (cs.takeWhile (· != '\x00'))

/-- The rest of a tag at a place, after the characters `before`.  It must not be
    empty unless something stands before it. -/
def tagSuffix? (inDirective : Bool) (before : List Char) (c : Cursor) :
    Option (String × Cursor) :=
  match tagChars? inDirective c.rest.length c.rest with
  | some (cs, n) =>
    if before.isEmpty && n == 0 then none
    else some (tagText (before.drop 1 ++ cs), c.advance n)
  | none => none

/-- The length of the handle of a tag at the front of a text: an exclamation
    mark, alone or with a name and another one after it.  In the second case,
    and only then, the handle is closed. -/
def tagHandleLength? : List Char → Option (Nat × Bool)
  | '!' :: rest =>
    let n := (nameOf rest).length
    if (rest.drop n).head? == some '!' then some (n + 2, true) else some (n + 1, false)
  | _ => none

/-- The tag at a place. -/
def tag? (flow : Bool) (c : Cursor) : Option (TokenKind × Cursor) :=
  let read : Option (TokenKind × Cursor) :=
    if c.rest.drop 1 |>.head? |>.any (· == '<') then
      match tagSuffix? true [] (c.advance 2) with
      | some (suffix, c) =>
        if c.rest.head? == some '>' then some (.tag "" suffix, c.next) else none
      | none => none
    else
      match tagHandleLength? c.rest with
      | some (n, true) =>
        (tagSuffix? false [] (c.advance n)).map fun (suffix, after) =>
          (.tag (String.ofList (c.rest.take n)) suffix, after)
      | some (n, false) =>
        (tagSuffix? false (c.rest.take n) (c.advance n)).map fun (suffix, after) =>
          (if suffix.isEmpty then .tag "" "!" else .tag "!" suffix, after)
      | none => none
  match read with
  | some (kind, c) =>
    if atGap c.rest || (flow && c.rest.head? == some ',') then some (kind, c) else none
  | none => none

/-- The name of an anchor at a place, or of one that is referred to. -/
def anchor? (c : Cursor) : Option (String × Cursor) :=
  let name := nameOf (c.rest.drop 1)
  let c := c.advance (name.length + 1)
  if !name.isEmpty && (atGap c.rest || c.rest.head?.any "?:,]\x7d%@\x60".toList.contains) then
    some (String.ofList name, c)
  else none

/-- The number of a version at a place, of nine digits at most. -/
def versionNumber? (c : Cursor) : Option (Nat × Cursor) :=
  let ds := c.rest.takeWhile Char.isDigit
  if ds.isEmpty || 9 < ds.length then none
  else some (numberOfDigits 10 ds, c.advance ds.length)

/-- What follows the name of a directive. -/
def directiveValue? (name : String) (c : Cursor) : Option (TokenKind × Cursor) :=
  match name with
  | "YAML" =>
    match versionNumber? (c.skipWhile isSpacing) with
    | some (major, c) =>
      if c.rest.head? == some '.' then
        (versionNumber? c.next).map fun (minor, c) => (.version major minor, c)
      else none
    | none => none
  | "TAG" =>
    let c := c.skipWhile isSpacing
    match tagHandleLength? c.rest with
    | some (n, closed) =>
      let handle := String.ofList (c.rest.take n)
      let c := c.advance n
      if !closed && n != 1 then none
      else if !c.rest.head?.any isSpacing then none
      else
        match tagSuffix? true [] (c.skipWhile isSpacing) with
        | some (abbreviated, c) =>
          if atGap c.rest then some (.tagHandle handle abbreviated, c) else none
        | none => none
    | none => none
  | _ => none

/-- The directive at a place; a comment may follow it on its line. -/
def directive? (c : Cursor) : Option (TokenKind × Cursor) :=
  let name := nameOf (c.rest.drop 1)
  let c := c.advance (name.length + 1)
  if name.isEmpty || !atGap c.rest then none
  else
    match directiveValue? (String.ofList name) c with
    | some (kind, c) =>
      let c := c.skipWhile isSpacing
      let c := if c.rest.head? == some '#' then c.skipWhile (!isBreak ·) else c
      if atBreak c.rest then some (kind, c.advance (breakLength c.rest)) else none
    | none => none

/-! ## The scanner -/

/-- A token that can begin a key: its number, its place, and whether it must
    begin one. -/
structure Candidate where
  number : Nat
  mark : Mark
  required : Bool

/-- How far a key can reach. -/
def keyReach : Nat := 1024

/-- A scanner in the course of its work. -/
structure Scanner where
  cursor : Cursor
  /-- The column of the innermost block, below zero outside of all. -/
  indent : Int
  /-- The columns of the blocks around it. -/
  outer : List Int
  /-- Whether a key can begin at the cursor. -/
  keyAllowed : Bool
  /-- The candidate of the innermost flow brackets, or of the blocks. -/
  candidate : Option Candidate
  /-- The candidates outside of the innermost flow brackets. -/
  outerCandidates : List (Option Candidate)
  /-- How many tokens have been released. -/
  released : Nat
  /-- The tokens that are held back. -/
  held : List Token

namespace Scanner

/-- A scanner at the start of a text. -/
def start (cs : List Char) : Scanner :=
  ⟨⟨cs, ⟨0, 0, 0⟩⟩, -1, [], true, none, [], 0, []⟩

/-- Whether the scanner stands between flow brackets. -/
def inFlow (s : Scanner) : Bool := !s.outerCandidates.isEmpty

/-- Append a token that begins at the cursor. -/
def push (s : Scanner) (kind : TokenKind) : Scanner :=
  { s with held := s.held ++ [⟨kind, s.cursor.mark⟩] }

/-- Append the token at the cursor and pass `n` characters. -/
def take (s : Scanner) (n : Nat) (kind : TokenKind) : Scanner :=
  { s.push kind with cursor := s.cursor.advance n }

/-- Append the token at the cursor, which ends at `after`. -/
def takeTo (s : Scanner) (read : TokenKind × Cursor) : Scanner :=
  { s.push read.1 with cursor := read.2 }

/-- Insert a token before the one with the given number. -/
def insertAt (s : Scanner) (number : Nat) (t : Token) : Scanner :=
  let n := number - s.released
  { s with held := s.held.take n ++ t :: s.held.drop n }

/-- Whether a candidate is too far behind the cursor. -/
def isStale (s : Scanner) (k : Candidate) : Bool :=
  k.mark.line < s.cursor.mark.line || k.mark.index + keyReach < s.cursor.mark.index

/-- Give up a candidate that is stale; one that must begin a key cannot be. -/
def freshen? (s : Scanner) : Option Candidate → Option (Option Candidate)
  | none => some none
  | some k => if s.isStale k then if k.required then none else some none else some (some k)

/-- Give up all candidates that are stale. -/
def dropStale? (s : Scanner) : Option Scanner :=
  match s.freshen? s.candidate, s.outerCandidates.mapM s.freshen? with
  | some k, some ks => some { s with candidate := k, outerCandidates := ks }
  | _, _ => none

/-- Give up the innermost candidate. -/
def dropCandidate? (s : Scanner) : Option Scanner :=
  if s.candidate.any (·.required) then none else some { s with candidate := none }

/-- Make the token at the cursor a candidate if a key can begin there. -/
def noteCandidate? (s : Scanner) : Option Scanner :=
  if s.keyAllowed then
    (dropCandidate? s).map fun s =>
      let required := !s.inFlow && s.indent == s.cursor.mark.column
      { s with candidate := some ⟨s.released + s.held.length, s.cursor.mark, required⟩ }
  else some s

/-- Open a block at the column `mark.column` if it is further in than the
    innermost one; its token is inserted before that with the given number. -/
def openBlock (s : Scanner) (kind : TokenKind) (number : Nat) (mark : Mark) : Scanner :=
  if !s.inFlow && s.indent < mark.column then
    { s.insertAt number ⟨kind, mark⟩ with indent := mark.column, outer := s.indent :: s.outer }
  else s

/-- Open a block at the cursor. -/
def openBlockHere (s : Scanner) (kind : TokenKind) : Scanner :=
  s.openBlock kind (s.released + s.held.length) s.cursor.mark

/-- Close the blocks further in than a column. -/
def closeBlocks (column : Int) (s : Scanner) : List Int → Scanner
  | [] => s
  | indent :: outer =>
    if column < s.indent then
      closeBlocks column { s.push .blockEnd with indent, outer } outer
    else s

/-- Close the blocks further in than a column, outside of flow brackets. -/
def closeTo (s : Scanner) (column : Int) : Scanner :=
  if s.inFlow then s else closeBlocks column s s.outer

/-- Pass blanks, comments and empty lines.  Outside of flow brackets a key can
    begin on each new line, and a tab must not stand before it. -/
def skipBlanks : Nat → Scanner → Scanner
  | 0, s => s
  | steps + 1, s =>
    let c := s.cursor
    let c := if c.mark.index == 0 && c.rest.head? == some '\ufeff' then
        ⟨c.rest.drop 1, ⟨1, c.mark.line, c.mark.column + 1⟩⟩ else c
    let c := c.skipWhile fun ch => ch == ' ' || (ch == '\t' && (s.inFlow || !s.keyAllowed))
    let c := if c.rest.head? == some '#' then c.skipWhile (!isBreak ·) else c
    match breakLength c.rest with
    | 0 => { s with cursor := c }
    | n => skipBlanks steps { s with cursor := c.advance n, keyAllowed := s.keyAllowed || !s.inFlow }

/-! ### Kinds of tokens -/

/-- The end of the text, which ends its last line as well. -/
def takeEnd? (s : Scanner) : Option Scanner :=
  let m := s.cursor.mark
  let m := if m.column == 0 then m else ⟨m.index, m.line + 1, 0⟩
  (dropCandidate? (closeTo { s with cursor := ⟨s.cursor.rest, m⟩ } (-1))).map fun s =>
    { s.push .streamEnd with keyAllowed := false }

/-- A directive. -/
def takeDirective? (s : Scanner) : Option Scanner :=
  match dropCandidate? (s.closeTo (-1)) with
  | some s => (directive? s.cursor).map fun read => { s.takeTo read with keyAllowed := false }
  | none => none

/-- The mark at the start or at the end of a document. -/
def takeEdge? (s : Scanner) (kind : TokenKind) : Option Scanner :=
  (dropCandidate? (s.closeTo (-1))).map fun s => { s.take 3 kind with keyAllowed := false }

/-- An opening flow bracket. -/
def takeOpen? (s : Scanner) (kind : TokenKind) : Option Scanner :=
  (noteCandidate? s).map fun s =>
    { s.take 1 kind with
        keyAllowed := true, candidate := none, outerCandidates := s.candidate :: s.outerCandidates }

/-- A closing flow bracket. -/
def takeClose? (s : Scanner) (kind : TokenKind) : Option Scanner :=
  (dropCandidate? s).map fun s =>
    let s := { s.take 1 kind with keyAllowed := false }
    match s.outerCandidates with
    | k :: ks => { s with candidate := k, outerCandidates := ks }
    | [] => s

/-- A comma between flow brackets. -/
def takeComma? (s : Scanner) : Option Scanner :=
  (dropCandidate? s).map fun s => { s.take 1 .flowEntry with keyAllowed := true }

/-- A dash before an entry. -/
def takeDash? (s : Scanner) : Option Scanner :=
  if !s.inFlow && !s.keyAllowed then none
  else
    (dropCandidate? (s.openBlockHere .blockSequence)).map fun s =>
      { s.take 1 .blockEntry with keyAllowed := true }

/-- A question mark before a key. -/
def takeKey? (s : Scanner) : Option Scanner :=
  if !s.inFlow && !s.keyAllowed then none
  else
    (dropCandidate? (s.openBlockHere .blockMapping)).map fun s =>
      { s.take 1 .key with keyAllowed := !s.inFlow }

/-- A colon before a value; it makes a key of the candidate. -/
def takeValue? (s : Scanner) : Option Scanner :=
  match s.candidate with
  | some k =>
    let s := s.insertAt k.number ⟨.key, k.mark⟩
    let s := s.openBlock .blockMapping k.number k.mark
    some { s.take 1 .value with candidate := none, keyAllowed := false }
  | none =>
    if !s.inFlow && !s.keyAllowed then none
    else
      let s := s.openBlockHere .blockMapping
      some { s.take 1 .value with keyAllowed := !s.inFlow }

/-- A token with a text of its own; it can begin a key. -/
def takeText? (s : Scanner) (read : Option (TokenKind × Cursor)) : Option Scanner :=
  match noteCandidate? s, read with
  | some s, some read => some { s.takeTo read with keyAllowed := false }
  | _, _ => none

/-- A block scalar. -/
def takeBlockScalar? (s : Scanner) (fold : Bool) : Option Scanner :=
  match dropCandidate? s, blockText? fold s.indent s.cursor with
  | some s, some (text, c) =>
    some { s.takeTo (.scalar (String.ofList text) false, c) with keyAllowed := true }
  | _, _ => none

/-- A plain scalar; a key can begin after it if it ends before a new line. -/
def takePlain? (s : Scanner) : Option Scanner :=
  match noteCandidate? s, plainText? s.inFlow (s.indent + 1) s.cursor with
  | some s, some p =>
    some { s.takeTo (.scalar (String.ofList p.text) true, p.after) with keyAllowed := p.crossed }
  | _, _ => none

/-- Whether a plain scalar begins at the front of a text: its first character is
    no mark, or a mark that something follows. -/
def beginsPlain (flow : Bool) : List Char → Bool
  | [] => false
  | c :: rest =>
    (!isGap c && !"-?:,[]\x7b\x7d#&*!|>'\x22%@\x60".toList.contains c) ||
      (c == '-' && !rest.head?.any isSpacing) ||
      (!flow && (c == '?' || c == ':') && !atGap rest)

/-- The next token, with those that it brings about. -/
def step? (s : Scanner) : Option Scanner :=
  match dropStale? (skipBlanks (s.cursor.rest.length + 1) s) with
  | none => none
  | some s =>
    let s := s.closeTo s.cursor.mark.column
    let c := s.cursor
    match c.rest with
    | [] => s.takeEnd?
    | ch :: rest =>
      let marks := s.inFlow || atGap rest
      if c.mark.column == 0 && ch == '%' then s.takeDirective?
      else if c.atDocumentMark '-' then s.takeEdge? .documentStart
      else if c.atDocumentMark '.' then s.takeEdge? .documentEnd
      else if ch == '[' then s.takeOpen? .flowSequence
      else if ch == '\x7b' then s.takeOpen? .flowMapping
      else if ch == ']' then s.takeClose? .flowSequenceEnd
      else if ch == '\x7d' then s.takeClose? .flowMappingEnd
      else if ch == ',' then s.takeComma?
      else if ch == '-' && atGap rest then s.takeDash?
      else if ch == '?' && marks then s.takeKey?
      else if ch == ':' && marks then s.takeValue?
      else if ch == '*' then s.takeText? ((anchor? c).map fun (name, c) => (.reference name, c))
      else if ch == '&' then s.takeText? ((anchor? c).map fun (name, c) => (.anchor name, c))
      else if ch == '!' then s.takeText? (tag? s.inFlow c)
      else if ch == '|' && !s.inFlow then s.takeBlockScalar? false
      else if ch == '>' && !s.inFlow then s.takeBlockScalar? true
      else if ch == '\x27' || ch == '\x22' then
        s.takeText? ((quotedText? (ch == '\x22') c).map fun (text, c) =>
          (.scalar (String.ofList text) false, c))
      else if beginsPlain s.inFlow c.rest then s.takePlain?
      else none

/-- The tokens that need not be held back: those before the first candidate. -/
def release (s : Scanner) : List Token × Scanner :=
  let numbers := (s.candidate :: s.outerCandidates).filterMap (·.map (·.number))
  let first := numbers.foldl min (s.released + s.held.length)
  let n := first - s.released
  (s.held.take n, { s with released := first, held := s.held.drop n })

/-- The tokens from a scanner on.  Each step passes a character at least, the
    last one the end of the text. -/
def run : Nat → Scanner → List Token
  | 0, _ => []
  | steps + 1, s =>
    match s.step? with
    | none => []
    | some s =>
      match dropStale? s with
      | none => []
      | some s =>
        let (tokens, s) := s.release
        if tokens.getLast?.any (·.kind == .streamEnd) then tokens
        else tokens ++ run steps s

end Scanner

/-- The tokens of a text. -/
def tokensOf (cs : List Char) : List Token :=
  if cs.all isAllowed then Scanner.run (cs.length + 1) (.start cs) else []

end ProfileSync.Yaml
