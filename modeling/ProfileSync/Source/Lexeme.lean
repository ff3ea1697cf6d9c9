/-
  Lexemes of Rust source: how far the comment, literal or word at the front of
  a text reaches.

  Each function here gives the number of characters of a lexeme, or `none` if
  the text does not begin with one.
-/
import ProfileSync.Source.Identifier
import ProfileSync.Text.Digits

namespace ProfileSync

/-- Whether a text begins with the given one. -/
def startsWith (cs : List Char) (begin : String) : Bool :=
  begin.toList.isPrefixOf cs

/-! ## Comments -/

/-- The characters up to the end of a line, a carriage return before the line
    feed left out. -/
def lineLength : List Char → Nat
  | [] => 0
  | '\n' :: _ => 0
  | '\r' :: '\n' :: _ => 0
  | _ :: cs => 1 + lineLength cs

/-- A block comment, of which `depth` are open. -/
def blockCommentLength (depth : Nat) : List Char → Option Nat
  | '/' :: '*' :: cs => (blockCommentLength (depth + 1) cs).map (· + 2)
  | '*' :: '/' :: cs =>
    if depth ≤ 1 then some 2 else (blockCommentLength (depth - 1) cs).map (· + 2)
  | _ :: cs => (blockCommentLength depth cs).map (· + 1)
  | [] => none

/-- A comment that is no documentation. -/
def commentLength (cs : List Char) : Option Nat :=
  if startsWith cs "//" && (!startsWith cs "///" || startsWith cs "////") && !startsWith cs "//!" then
    some (lineLength cs)
  else if startsWith cs "/**/" then some 4
  else if startsWith cs "/*" && (!startsWith cs "/**" || startsWith cs "/***") &&
      !startsWith cs "/*!" then
    blockCommentLength 0 cs
  else none

/-- A blank character or a comment that is no documentation. -/
def blankLength (cs : List Char) : Option Nat :=
  match commentLength cs with
  | some n => some n
  | none =>
    match cs with
    | c :: _ => if isSourceBlank c then some 1 else none
    | [] => none

/-- Whether each carriage return has a line feed after it. -/
def noBareReturn : List Char → Bool
  | [] => true
  | '\r' :: '\n' :: cs => noBareReturn cs
  | '\r' :: _ => false
  | _ :: cs => noBareReturn cs

/-- A documentation comment, and whether it belongs to what it stands in. -/
def docLength (cs : List Char) : Option (Nat × Bool) :=
  let found :=
    if startsWith cs "//!" then some (lineLength cs, true)
    else if startsWith cs "/*!" then (blockCommentLength 0 cs).map (·, true)
    else if startsWith cs "///" then
      if startsWith cs "////" then none else some (lineLength cs, false)
    else if startsWith cs "/**" && !startsWith cs "/***" then
      (blockCommentLength 0 cs).map (·, false)
    else none
  match found with
  | some (n, inner) => if noBareReturn (cs.take n) then some (n, inner) else none
  | none => none

/-! ## Quoted literals -/

/-- What a kind of quoted literal may hold. -/
structure QuoteRules where
  /-- Whether `\u` escapes stand in it. -/
  unicode : Bool
  /-- Whether it may hold a null character. -/
  null : Bool
  /-- Whether a code in hexadecimal is at most `7f`. -/
  asciiCodes : Bool
  /-- Whether only ASCII characters stand in it as they are. -/
  asciiText : Bool

/-- The rules of a string and of a character. -/
def QuoteRules.text : QuoteRules := ⟨true, true, true, false⟩

/-- The rules of a byte string and of a byte. -/
def QuoteRules.bytes : QuoteRules := ⟨false, true, false, true⟩

/-- The rules of a string that ends with a null character. -/
def QuoteRules.terminated : QuoteRules := ⟨true, false, false, false⟩

/-- Where a reader stands inside a quoted literal. -/
inductive QuoteState where
  | text
  /-- After a carriage return. -/
  | carriage
  /-- After a backslash. -/
  | escape
  /-- Before the first digit of a code. -/
  | code
  /-- Before the second digit of a code. -/
  | codeEnd (first : Nat)
  /-- Before the brace of a `\u` escape. -/
  | unicodeOpen
  /-- Inside the braces of a `\u` escape, after some digits. -/
  | unicode (value digits : Nat)
  /-- In the blanks after a backslash at the end of a line. -/
  | gap
  /-- After a carriage return in those blanks. -/
  | gapCarriage

/-- Whether a number is the code of a character. -/
def isScalar (n : Nat) : Bool := n < 0xd800 || (0xdfff < n && n < 0x110000)

/-- The state after a character inside a quoted literal; `none` if the
    character cannot stand there. -/
def QuoteState.step (rules : QuoteRules) (c : Char) : QuoteState → Option QuoteState
  | .carriage => if c == '\n' then some .text else none
  | .escape =>
    if c == 'x' then some .code
    else if c == 'u' then if rules.unicode then some .unicodeOpen else none
    else if c == '\n' then some .gap
    else if c == '\r' then some .gapCarriage
    else if c == '0' then if rules.null then some .text else none
    else if c == 'n' || c == 'r' || c == 't' || c == '\\' || c == '\x27' || c == '\x22' then
      some .text
    else none
  | .code =>
    match digitValue? c with
    | some d => if d < (if rules.asciiCodes then 8 else 16) then some (.codeEnd d) else none
    | none => none
  | .codeEnd first =>
    match digitValue? c with
    | some d => if d < 16 && (rules.null || first + d != 0) then some .text else none
    | none => none
  | .unicodeOpen => if c == '\x7b' then some (.unicode 0 0) else none
  | .unicode value digits =>
    if c == '_' && digits > 0 then some (.unicode value digits)
    else if c == '\x7d' && digits > 0 then
      if isScalar value && (rules.null || value != 0) then some .text else none
    else
      match digitValue? c with
      | some d => if d < 16 && digits < 6 then some (.unicode (value * 16 + d) (digits + 1)) else none
      | none => none
  | .gapCarriage => if c == '\n' then some .gap else none
  | .gap =>
    if c == ' ' || c == '\t' || c == '\n' then some .gap
    else if c == '\r' then some .gapCarriage
    else plain
  | .text => plain
where
  plain : Option QuoteState :=
    if c == '\\' then some .escape
    else if c == '\r' then some .carriage
    else if (c == '\x00' && !rules.null) || (rules.asciiText && c.toNat ≥ 0x80) then none
    else some .text

/-- The rest of a quoted literal, its closing double quote included. -/
def quotedLength (rules : QuoteRules) : QuoteState → List Char → Option Nat
  | _, [] => none
  | state, c :: cs =>
    match state, c == '\x22' with
    | .text, true => some 1
    | .gap, true => some 1
    | state, _ =>
      match state.step rules c with
      | some next => (quotedLength rules next cs).map (· + 1)
      | none => none

/-- The rest of a raw literal, up to a double quote with as many `#` after it
    as stand before the literal. -/
def rawLength (rules : QuoteRules) (hashes : Nat) : List Char → Option Nat
  | [] => none
  | '\r' :: '\n' :: cs => (rawLength rules hashes cs).map (· + 2)
  | c :: cs =>
    if c == '\x22' && (List.replicate hashes '#').isPrefixOf cs then some (1 + hashes)
    else if c == '\r' || (c == '\x00' && !rules.null) || (rules.asciiText && c.toNat ≥ 0x80) then
      none
    else (rawLength rules hashes cs).map (· + 1)

/-- A raw literal after its letters: `#` signs, a double quote and the rest. -/
def rawLiteralLength (rules : QuoteRules) (cs : List Char) : Option Nat :=
  let hashes := (cs.takeWhile (· == '#')).length
  match cs.drop hashes with
  | '\x22' :: rest =>
    if hashes > 255 then none else (rawLength rules hashes rest).map (· + (hashes + 1))
  | _ => none

/-- An escape sequence with the closing quote after it, up to which `met`
    characters were read. -/
def escapedLength (rules : QuoteRules) (met : Nat) : QuoteState → List Char → Option Nat
  | _, [] => none
  | state, c :: cs =>
    match state.step rules c with
    | some .text => if cs.head? == some '\x27' then some (met + 2) else none
    | some next => escapedLength rules (met + 1) next cs
    | none => none

/-- The rest of a character or byte literal after its opening quote. -/
def singleLength (rules : QuoteRules) : List Char → Option Nat
  | '\\' :: c :: cs =>
    if c == '\n' || c == '\r' then none else escapedLength rules 1 .escape (c :: cs)
  | c :: '\x27' :: _ => if rules.asciiText && c.toNat ≥ 0x80 then none else some 2
  | _ => none

/-- A literal with a suffix, if an identifier follows at once. -/
def withSuffix (cs : List Char) : Option Nat → Option Nat
  | some n => some (n + identifierLength (cs.drop n))
  | none => none

/-- A quoted literal of any kind, and whether it is a plain string. -/
def quotedLiteralLength (cs : List Char) : Option (Nat × Bool) :=
  let after (n : Nat) (rest : Option Nat) : Option Nat := withSuffix cs (rest.map (· + n))
  if startsWith cs "\x22" then (after 1 (quotedLength .text .text (cs.drop 1))).map (·, true)
  else if startsWith cs "b\x22" then (after 2 (quotedLength .bytes .text (cs.drop 2))).map (·, false)
  else if startsWith cs "c\x22" then
    (after 2 (quotedLength .terminated .text (cs.drop 2))).map (·, false)
  else if startsWith cs "b'" then (after 2 (singleLength .bytes (cs.drop 2))).map (·, false)
  else if startsWith cs "'" then (after 1 (singleLength .text (cs.drop 1))).map (·, false)
  else
    match startsWith cs "r", startsWith cs "br", startsWith cs "cr" with
    | true, _, _ => (after 1 (rawLiteralLength .text (cs.drop 1))).map (·, true)
    | _, true, _ => (after 2 (rawLiteralLength .bytes (cs.drop 2))).map (·, false)
    | _, _, true => (after 2 (rawLiteralLength .terminated (cs.drop 2))).map (·, false)
    | _, _, _ => none

/-! ## Numbers -/

/-- The exponent of a number after its letter, given whether a sign and a digit
    were met; `none` if it has no digit. -/
def exponentLength (sign digit : Bool) : List Char → Option Nat
  | [] => if digit then some 0 else none
  | c :: cs =>
    if c.isDigit then (exponentLength sign true cs).map (· + 1)
    else if c == '_' then (exponentLength sign digit cs).map (· + 1)
    else if (c == '+' || c == '-') && !digit then
      if sign then none else (exponentLength true digit cs).map (· + 1)
    else if digit then some 0 else none

/-- The digits of a number with a point or an exponent. -/
def floatDigitsLength (cs : List Char) : Option Nat :=
  let isDigitPart := fun c : Char => c.isDigit || c == '_'
  match cs with
  | c :: _ =>
    if !c.isDigit then none
    else
      let whole := (cs.takeWhile isDigitPart).length
      match cs.drop whole with
      | '.' :: rest =>
        if rest.head?.any fun c => c == '.' || isIdentStart c then none
        else
          let fraction := (rest.takeWhile isDigitPart).length
          let point := whole + 1 + fraction
          match rest.drop fraction with
          | e :: rest =>
            if e == 'e' || e == 'E' then
              match exponentLength false false rest with
              | some n => some (point + 1 + n)
              | none => some point
            else some point
          | [] => some point
      | e :: rest =>
        if e == 'e' || e == 'E' then (exponentLength false false rest).map (· + (whole + 1))
        else none
      | [] => none
  | [] => none

/-- The digits of a whole number in `base` after the sign of the base, given
    whether one was met. -/
def baseDigitsLength (base : Nat) (met : Bool) : List Char → Option Nat
  | [] => if met then some 0 else none
  | c :: cs =>
    let finish := if met then some 0 else none
    if c == '_' then
      if !met && base == 10 then none else (baseDigitsLength base met cs).map (· + 1)
    else
      match digitValue? c with
      | some d =>
        if d < base then (baseDigitsLength base true cs).map (· + 1)
        else if d < 10 then none
        else finish
      | none => finish

/-- The base that a number is written in, and the length of its sign. -/
def numberBase (cs : List Char) : Nat × Nat :=
  if startsWith cs "0x" then (16, 2)
  else if startsWith cs "0o" then (8, 2)
  else if startsWith cs "0b" then (2, 2)
  else (10, 0)

/-- A number with its suffix, given the length of its digits. -/
def numberEnd (cs : List Char) : Option Nat → Option Nat
  | none => none
  | some n =>
    let n := n + identifierLength (cs.drop n)
    if (cs.drop n).head?.any isIdentPart then none else some n

/-- A number. -/
def numberLength (cs : List Char) : Option Nat :=
  match numberEnd cs (floatDigitsLength cs) with
  | some n => some n
  | none =>
    let (base, sign) := numberBase cs
    numberEnd cs ((baseDigitsLength base false (cs.drop sign)).map (· + sign))

/-! ## Words and marks -/

/-- A word: an identifier, perhaps a raw one. -/
def wordLength (cs : List Char) : Option Nat :=
  let raw := startsWith cs "r#"
  let rest := if raw then cs.drop 2 else cs
  let n := identifierLength rest
  if n = 0 then none
  else if !raw then some n
  else if ["_", "super", "self", "Self", "crate"].any fun w => w.toList == rest.take n then none
  else some (n + 2)

/-- Whether a character is a mark of punctuation. -/
def isMark (c : Char) : Bool :=
  "~!@#$%^&*-=+|;:,<.>/?'".toList.contains c

/-- The mark at the front of a text; a comment begins with none. -/
def markAt (cs : List Char) : Option Char :=
  if startsWith cs "//" || startsWith cs "/*" then none
  else cs.head?.filter isMark

end ProfileSync
