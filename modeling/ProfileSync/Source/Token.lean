/-
  The tokens of Rust source, as trees: what stands between a pair of
  delimiters is one token.

  `Token.ofText?` reads a text; documentation comments become the attributes
  that they abbreviate.
-/
import ProfileSync.Source.Lexeme

namespace ProfileSync

/-- A pair of delimiters. -/
inductive Delimiter where
  | paren
  | bracket
  | brace
deriving Repr, Inhabited, BEq, DecidableEq

/-- What a literal is, as far as the grammar tells literals apart. -/
inductive Literal where
  /-- A string. -/
  | text
  /-- A whole number; a suffix may follow its digits. -/
  | whole (value : Nat) (suffixed : Bool)
  /-- A number with a point or an exponent, as written. -/
  | decimal (written : List Char)
  /-- Any other literal. -/
  | other
deriving Repr, Inhabited, BEq

/-- A token of a source text. -/
inductive Token where
  /-- A word, with the line that it stands on; a raw word has its `r#`. -/
  | word (text : String) (line : Nat)
  /-- A mark, and whether another mark follows at once. -/
  | mark (char : Char) (joint : Bool)
  /-- A lifetime or a label. -/
  | lifetime
  | literal (literal : Literal)
  | group (delimiter : Delimiter) (content : List Token)
deriving Repr, Inhabited, BEq

namespace Token

/-! ## Literals -/

/-- Whether an exponent follows the letter of a written number: digits and
    underscores, with a suffix at most; a sign counts as one. -/
def hasExponent (digit : Bool) : List Char → Bool
  | [] => digit
  | c :: cs =>
    if c == '_' then hasExponent digit cs
    else if c.isDigit then hasExponent true cs
    else c == '+' || c == '-' || (digit && isIdentStart c)

/-- The value and the suffix of a whole number; `none` for any other. -/
def wholeNumber (base : Nat) (met : Bool) (value : Nat) : List Char → Option (Nat × Bool)
  | [] => if met then some (value, false) else none
  | c :: cs =>
    if c == '_' then wholeNumber base met value cs
    else if base == 10 && c == '.' then none
    else if base == 10 && (c == 'e' || c == 'E') && hasExponent false cs then none
    else if isDigitOf (if base == 16 then 16 else 10) c then
      let d := (digitValue? c).getD 0
      if d < base then wholeNumber base true (value * base + d) cs else none
    else if met then some (value, true) else none

/-- What the literal with the given characters is. -/
def literalOf (cs : List Char) (isText : Bool) : Literal :=
  if isText then .text
  else if cs.head?.any Char.isDigit then
    let (base, sign) := numberBase cs
    match wholeNumber base false 0 (cs.drop sign) with
    | some (value, suffixed) => .whole value suffixed
    | none => .decimal cs
  else .other

/-! ## Reading -/

/-- A word that the start of a literal rules out. -/
def looksQuoted (cs : List Char) : Bool :=
  ["r\x22", "r#\x22", "r##", "b\x22", "b'", "br\x22", "br#", "c\x22", "cr\x22", "cr#"].any
    (startsWith cs)

/-- What is written for a literal that could not be shown; it is no group. -/
def errorLiteral : String := "(/*ERROR*/)"

/-- The token at the front of a text on a line, delimiters apart, and its
    length.  A quote before a literal is a mark, before a word a lifetime. -/
def leaf? (line : Nat) (cs : List Char) : Option (Token × Nat) :=
  match quotedLiteralLength cs with
  | some (n, isText) => some (.literal (literalOf (cs.take n) isText), n)
  | none =>
    match numberLength cs with
    | some n => some (.literal (literalOf (cs.take n) false), n)
    | none =>
      match markAt cs with
      | some '\x27' =>
        match wordLength (cs.drop 1) with
        | some n =>
          let next := (cs.drop (n + 1)).head?
          if next == some '\x27' || (next == some '#' && !startsWith (cs.drop 1) "r#") then none
          else if looksQuoted (cs.drop 1) then some (.mark '\x27' true, 1)
          else some (.lifetime, n + 1)
        | none => none
      | some c => some (.mark c (markAt (cs.drop 1)).isSome, 1)
      | none =>
        if looksQuoted cs then none
        else if startsWith cs errorLiteral then some (.literal .other, errorLiteral.length)
        else (wordLength cs).map fun n => (.word (String.ofList (cs.take n)) line, n)

/-- The attribute that a documentation comment abbreviates. -/
def documentation (line : Nat) (inner : Bool) : List Token :=
  let bracket := .group .bracket [.word "doc" line, .mark '=' false, .literal .text]
  if inner then [.mark '#' false, .mark '!' false, bracket] else [.mark '#' false, bracket]

/-- The delimiter that the first character of a text opens. -/
def opened? (cs : List Char) : Option Delimiter :=
  if startsWith cs "(" then if startsWith cs errorLiteral then none else some .paren
  else if startsWith cs "[" then some .bracket
  else if startsWith cs "\x7b" then some .brace
  else none

/-- The delimiter that a character closes. -/
def closed? (c : Char) : Option Delimiter :=
  if c == ')' then some .paren
  else if c == ']' then some .bracket
  else if c == '\x7d' then some .brace
  else none

/-- What a reader of tokens has met: the line that it stands on, the tokens of
    the innermost open group, the last first, and the groups around it. -/
structure Reading where
  line : Nat
  tokens : List Token
  outer : List (Delimiter × List Token)

/-- Take the piece of text at the front: its length, and what was met after
    it.  `none` if no piece begins there. -/
def piece? (r : Reading) (cs : List Char) : Option (Nat × Reading) :=
  match blankLength cs with
  | some n => some (n, r)
  | none =>
    match docLength cs with
    | some (n, inner) =>
      some (n, { r with tokens := (documentation r.line inner).reverse ++ r.tokens })
    | none =>
      match cs.head? with
      | none => none
      | some c =>
        match opened? cs with
        | some d => some (1, { r with tokens := [], outer := (d, r.tokens) :: r.outer })
        | none =>
          match closed? c with
          | some d =>
            match r.outer with
            | (d', tokens) :: outer =>
              if d == d' then
                some (1, { r with tokens := .group d r.tokens.reverse :: tokens, outer })
              else none
            | [] => none
          | none =>
            (leaf? r.line cs).map fun (t, n) => (n, { r with tokens := t :: r.tokens })

/-- Take pieces of text until its end; each has a character at least, so that
    as many steps as the text has characters suffice. -/
def readPieces : Nat → Reading → List Char → Option (List Token)
  | _, r, [] => if r.outer.isEmpty then some r.tokens.reverse else none
  | 0, _, _ :: _ => none
  | steps + 1, r, cs =>
    match piece? r cs with
    | some (n, r') =>
      readPieces steps { r' with line := r.line + (cs.take n).count '\n' } (cs.drop n)
    | none => none

/-- The tokens of a text, `none` if it has none. -/
def ofText? (cs : List Char) : Option (List Token) :=
  let cs := if cs.head? == some '\ufeff' then cs.drop 1 else cs
  readPieces cs.length ⟨1, [], []⟩ cs

end Token

end ProfileSync
