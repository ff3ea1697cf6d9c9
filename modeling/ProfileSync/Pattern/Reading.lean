/-
  Reading patterns.

  `Pattern.ofText?` reads a pattern from its text.  Flags in parentheses hold up
  to the end of the group in which they stand; what they change is settled while
  the pattern is read, so that a pattern itself has none.
-/
import ProfileSync.Pattern.Basic
import ProfileSync.Pattern.Property
import ProfileSync.Text.Blank

namespace ProfileSync

/-! ## Flags -/

/-- How a pattern is read. -/
structure PatternFlags where
  /-- Case makes no difference. -/
  ignoreCase : Bool
  /-- The marks of a text's ends match the ends of lines. -/
  multiLine : Bool
  /-- A dot matches the end of a line as well. -/
  dotAll : Bool
  /-- A carriage return ends a line as well. -/
  crlf : Bool
  /-- Classes hold characters beyond ASCII. -/
  unicode : Bool
  /-- Blanks and comments in the pattern are passed over. -/
  blanks : Bool
deriving Repr, Inhabited, BEq, DecidableEq

namespace PatternFlags

/-- How a pattern is read at its start. -/
def initial : PatternFlags := ⟨false, false, false, false, true, false⟩

/-- The flags with the one of a letter set. -/
def set (f : PatternFlags) (letter : Char) (on : Bool) : PatternFlags :=
  match letter with
  | 'i' => { f with ignoreCase := on }
  | 'm' => { f with multiLine := on }
  | 's' => { f with dotAll := on }
  | 'R' => { f with crlf := on }
  | 'u' => { f with unicode := on }
  | 'x' => { f with blanks := on }
  | _ => f

/-- Set the flags that letters name, those after a hyphen to off. -/
def setAll (f : PatternFlags) (on : Bool) : List Char → PatternFlags
  | [] => f
  | c :: cs => if c == '-' then f.setAll false cs else (f.set c on).setAll on cs

/-- Whether letters name flags, each once at most; one hyphen can stand before
    a letter. -/
def areWritten (letters : List Char) : Bool :=
  letters.all "imsURux-".toList.contains && letters.eraseDups.length == letters.length &&
    letters.getLast? != some '-'

/-- The words that the conditions on words look at. -/
def words (f : PatternFlags) : WordKind := if f.unicode then .unicode else .ascii

/-- A class as it is read: with the case that makes no difference. -/
def fold (f : PatternFlags) (a : CharClass) : CharClass :=
  if f.ignoreCase then .folded (!f.unicode) a else a

/-- The complement of a class if it is negated.  Without characters beyond ASCII
    there is none, for it would hold parts of characters. -/
def negate? (f : PatternFlags) (negated : Bool) (a : CharClass) : Option CharClass :=
  if !negated then some a else if f.unicode then some (.compl a) else none

end PatternFlags

/-! ## The text of a pattern -/

/-- What is left of a pattern to be read, how it is read, and the names of groups
    that have been met. -/
structure PatternInput where
  rest : List Char
  flags : PatternFlags
  names : List (List Char)

/-- A reader of patterns; it refuses by `none`. -/
abbrev PatternParser := StateT PatternInput Option

namespace PatternParser

/-- A text after its blanks and comments; a comment ends with its line. -/
def afterBlanks (inComment : Bool) : List Char → List Char
  | [] => []
  | c :: cs =>
    if inComment then afterBlanks (c != '\n') cs
    else if isBlank c then afterBlanks false cs
    else if c == '#' then afterBlanks true cs
    else c :: cs

/-- The flags. -/
def flags : PatternParser PatternFlags := do return (← get).flags

/-- Set the flags. -/
def setFlags (f : PatternFlags) : PatternParser Unit := modify fun i => { i with flags := f }

/-- What is left of the text. -/
def rest : PatternParser (List Char) := do return (← get).rest

/-- The next character. -/
def peek : PatternParser (Option Char) := do return (← rest).head?

/-- Whether the text goes on in a certain way. -/
def isNext (s : String) : PatternParser Bool := do return s.toList.isPrefixOf (← rest)

/-- Pass `n` characters. -/
def advance (n : Nat) : PatternParser Unit := modify fun i => { i with rest := i.rest.drop n }

/-- Pass blanks and comments where the flags say so. -/
def skipBlanks : PatternParser Unit := do
  if (← flags).blanks then modify fun i => { i with rest := afterBlanks false i.rest }

/-- Pass a character, and the blanks and comments after it. -/
def bump : PatternParser Unit := do
  advance 1
  skipBlanks

/-- The next character; there must be one. -/
def char : PatternParser Char := do
  match ← peek with
  | some c => return c
  | none => failure

/-- Pass a certain character. -/
def expect (c : Char) : PatternParser Unit := do
  if (← peek) == some c then advance 1 else failure

/-- Read characters up to `close`, which is left, with blanks and comments
    between them passed over.  All must be of the kind that `p` tells. -/
def upTo (close : Char) (p : Char → Bool) : Nat → PatternParser (List Char)
  | 0 => failure
  | steps + 1 => do
    let c ← char
    if c == close then return []
    if !p c then failure
    bump
    return c :: (← upTo close p steps)

/-! ## Escapes -/

/-- What a single part of a pattern is. -/
inductive Part where
  /-- A character; a part of one if it is written as a byte beyond ASCII. -/
  | literal (c : Char) (byte : Bool)
  | chars (a : CharClass)
  | look (l : Look)
  | dot
deriving Inhabited

/-- The marks of patterns, which a backslash makes characters. -/
def marks : List Char := "\\.+*?()|[]\x7b\x7d^$#&-~".toList

/-- Whether a character can follow a backslash to stand for itself. -/
def isEscapable (c : Char) : Bool :=
  marks.contains c || (c.toNat < 0x80 && !c.isAlphanum && c != '<' && c != '>')

/-- Read `n` hexadecimal digits. -/
def hexDigits : Nat → PatternParser (List Char)
  | 0 => return []
  | n + 1 => do
    let c ← char
    if !isDigitOf 16 c then failure
    bump
    return c :: (← hexDigits n)

/-- Read a character by its code point, after the letter of the escape. -/
def codePoint (letter : Char) : PatternParser Part := do
  bump
  let braced := (← char) == '\x7b'
  let ds ← if braced then do
      bump
      let ds ← upTo '\x7d' (isDigitOf 16) ((← rest).length + 1)
      bump
      pure ds
    else hexDigits (if letter == 'x' then 2 else if letter == 'u' then 4 else 8)
  let code := numberOfDigits 16 ds
  if ds.isEmpty || !code.isValidChar then failure
  return .literal (Char.ofNat code) (letter == 'x' && !braced)

/-- Read a class by its name, after the letter of the escape. -/
def namedClass (letter : Char) : PatternParser Part := do
  let f ← flags
  bump
  let c ← char
  let (differs, found?) ← if c == '\x7b' then do
      bump
      let name ← upTo '\x7d' (fun _ => true) ((← rest).length + 1)
      advance 1
      let (before, after) := name.span (· != '!')
      if after.take 2 == ['!', '='] then pure (true, CharClass.valued? before (after.drop 2))
      else
        let colon := name.span (· != ':')
        let equals := name.span (· != '=')
        if !colon.2.isEmpty then pure (false, CharClass.valued? colon.1 (colon.2.drop 1))
        else if !equals.2.isEmpty then pure (false, CharClass.valued? equals.1 (equals.2.drop 1))
        else pure (false, CharClass.named? name)
    else if c == '\\' then failure
    else do
      bump
      pure (false, CharClass.named? [c])
  match found? with
  | some a =>
    if !f.unicode then failure
    match f.negate? ((letter == 'P') != differs) (f.fold a) with
    | some a => return .chars a
    | none => failure
  | none => failure

/-- The class of a letter after a backslash. -/
def letterClass? (f : PatternFlags) (letter : Char) : Option CharClass :=
  let base? := match letter.toLower with
    | 'd' => some (if f.unicode then CharClass.digit else CharClass.asciiDigit)
    | 's' => some (if f.unicode then CharClass.space else CharClass.asciiSpace)
    | 'w' => some (if f.unicode then CharClass.word else CharClass.asciiWord)
    | _ => none
  base?.bind fun a => f.negate? letter.isUpper a

/-- Read what can follow the edge of a word in braces: which edge it is.  What
    does not begin like a name is left to be read as a repetition. -/
def wordEdge (k : WordKind) : PatternParser Look := do
  let start ← get
  if !(← isNext "\x7b") then return .wordEdge k
  let isPart (c : Char) : Bool := c.isAlpha || c == '-'
  bump
  if !isPart (← char) then
    set start
    return .wordEdge k
  let name ← upTo '\x7d' isPart ((← rest).length + 1)
  advance 1
  match String.ofList name with
  | "start" => return .wordStart k
  | "end" => return .wordEnd k
  | "start-half" => return .noWordBefore k
  | "end-half" => return .noWordAfter k
  | _ => failure

/-- Read an escape. -/
def escape : PatternParser Part := do
  let f ← flags
  advance 1
  let c ← char
  if c == 'x' || c == 'u' || c == 'U' then return ← codePoint c
  if c == 'p' || c == 'P' then return ← namedClass c
  if "dswDSW".toList.contains c then
    advance 1
    match letterClass? f c with
    | some a => return .chars a
    | none => failure
  advance 1
  if isEscapable c then return .literal c false
  match c with
  | 'a' => return .literal '\x07' false
  | 'f' => return .literal '\x0c' false
  | 't' => return .literal '\t' false
  | 'n' => return .literal '\n' false
  | 'r' => return .literal '\r' false
  | 'v' => return .literal '\x0b' false
  | 'A' => return .look .textStart
  | 'z' => return .look .textEnd
  | 'b' => return .look (← wordEdge f.words)
  | 'B' => return .look (.noWordEdge f.words)
  | '<' => return .look (.wordStart f.words)
  | '>' => return .look (.wordEnd f.words)
  | _ => failure

/-! ## Classes in brackets -/

/-- A class in the course of reading, with the depth to which it is nested. -/
structure NestedClass where
  chars : CharClass
  depth : Nat
deriving Inhabited

/-- The operations between classes. -/
def classOperation? (s : List Char) : Option (CharClass → CharClass → CharClass) :=
  match s.take 2 with
  | ['&', '&'] => some .inter
  | ['-', '-'] => some .diff
  | ['~', '~'] => some .symmDiff
  | _ => none

/-- The class of items that stand side by side. -/
def unionOf : List NestedClass → NestedClass
  | [] => ⟨.empty, 0⟩
  | [a] => a
  | items =>
    ⟨items.foldr (fun a u => .union a.chars u) .empty, (items.map (·.depth)).foldl max 0 + 1⟩

/-- Apply the operation that stands before a class. -/
def applyOperation (f : PatternFlags) (a : NestedClass) :
    Option (NestedClass × (CharClass → CharClass → CharClass)) → NestedClass
  | none => a
  | some (left, op) => ⟨op (f.fold left.chars) (f.fold a.chars), max left.depth a.depth + 1⟩

/-- Read a class by a name between colons, if there is one. -/
def asciiClass? : PatternParser (Option CharClass) := do
  let f ← flags
  let cs ← rest
  if cs.take 2 != ['[', ':'] then return none
  let negated := (cs.drop 2).head? == some '^'
  let body := cs.drop (if negated then 3 else 2)
  let name := body.takeWhile (· != ':')
  if (body.drop name.length).take 2 != [':', ']'] then return none
  match CharClass.namedAscii.lookup (String.ofList name) with
  | none => return none
  | some a =>
    match f.negate? negated (f.fold a) with
    | some a =>
      modify fun i => { i with rest := body.drop (name.length + 2) }
      return some a
    | none => failure

/-- A character that can be the end of a range. -/
def rangeEnd (f : PatternFlags) : Part → PatternParser Char
  | .literal c _ => if f.unicode || c.toNat < 0x80 then return c else failure
  | _ => failure

/-- Read a single character of a class, or an escape in it. -/
def classPart : PatternParser Part := do
  if ← isNext "\\" then escape
  else
    let c ← char
    advance 1
    return .literal c false

/-- What follows the next character, with blanks and the start of a comment
    passed over where the flags say so. -/
def peekAfter : PatternParser (Option Char) := do
  let cs := (← rest).drop 1
  if !(← flags).blanks then return cs.head?
  let cs := cs.dropWhile isBlank
  if cs.head? == some '#' then return ((cs.drop 1).dropWhile isBlank).head?
  return cs.head?

/-- Read an item of a class: a range, a character or an escape. -/
def classItem : PatternParser CharClass := do
  let f ← flags
  let first ← classPart
  skipBlanks
  let next ← char
  let after ← peekAfter
  if next != '-' || after == some ']' || after == some '-' then
    match first with
    | .chars a => return a
    | p => return .single (← rangeEnd f p)
  bump
  let _ ← char
  let last ← rangeEnd f (← classPart)
  let first ← rangeEnd f first
  if last < first then failure
  return .range first.toNat last.toNat

/-- Pass hyphens at the start of a class, which stand for themselves. -/
def leadingHyphens : Nat → PatternParser (List NestedClass)
  | 0 => return []
  | steps + 1 => do
    if (← char) == '-' then
      bump
      return ⟨.single '-', 0⟩ :: (← leadingHyphens steps)
    return []

mutual

/-- Read a class after its opening bracket.  A closing bracket that comes first
    stands for itself. -/
def bracketed : Nat → PatternParser NestedClass
  | 0 => failure
  | steps + 1 => do
    let f ← flags
    bump
    let negated := (← char) == '^'
    if negated then bump
    let hyphens ← leadingHyphens ((← rest).length + 1)
    let first ← if hyphens.isEmpty && (← char) == ']' then do
        bump
        let _ ← char
        pure [⟨CharClass.single ']', 0⟩]
      else pure hyphens
    let a ← classItems steps first none
    match f.negate? negated (f.fold a.chars) with
    | some chars => return ⟨chars, a.depth + 1⟩
    | none => failure

/-- Read the items of a class up to its closing bracket.  `items` are those that
    stand side by side since the operation `op`, the last first. -/
def classItems : Nat → List NestedClass →
    Option (NestedClass × (CharClass → CharClass → CharClass)) → PatternParser NestedClass
  | 0, _, _ => failure
  | steps + 1, items, op => do
    let f ← flags
    skipBlanks
    let c ← char
    let cs ← rest
    if c == '[' then
      match ← asciiClass? with
      | some a => classItems steps (⟨a, 0⟩ :: items) op
      | none =>
        let a ← bracketed steps
        classItems steps (a :: items) op
    else if c == ']' then
      advance 1
      return applyOperation f (unionOf items) op
    else
      match classOperation? cs with
      | some next =>
        advance 2
        classItems steps [] (some (applyOperation f (unionOf items) op, next))
      | none =>
        let a ← classItem
        classItems steps (⟨a, 0⟩ :: items) op

end

/-! ## Groups and repetitions -/

/-- A pattern in the course of reading, with the depth to which it is nested, and
    whether it can be repeated. -/
structure NestedPattern where
  pattern : Pattern
  depth : Nat
  repeatable : Bool
deriving Inhabited

/-- Whether a character can stand in the name of a group. -/
def isNameChar (first : Bool) (c : Char) : Bool :=
  c == '_' || CharClass.alphabetic.contains c ||
    (!first && (c == '.' || c == '[' || c == ']' || CharClass.numeric.contains c))

/-- Read the name of a group, which must be new. -/
def groupName : PatternParser Unit := do
  let cs ← rest
  let name := cs.takeWhile (· != '>')
  if name.isEmpty || name.length == cs.length then failure
  if !name.head?.any (isNameChar true) || !name.all (isNameChar false) then failure
  if (← get).names.contains name then failure
  modify fun i => { i with names := name :: i.names }
  advance (name.length + 1)

/-- Read a number of repetitions. -/
def count? : PatternParser (Option Nat) := do
  modify fun i => { i with rest := i.rest.dropWhile isBlank }
  let ds ← digits ((← rest).length)
  modify fun i => { i with rest := i.rest.dropWhile isBlank }
  skipBlanks
  if ds.isEmpty then return none
  let n := numberOfDigits 10 ds
  if n < wordLimit 32 then return some n else failure
where
  /-- Read digits. -/
  digits : Nat → PatternParser (List Char)
    | 0 => return []
    | steps + 1 => do
      match ← peek with
      | some c =>
        if c.isDigit then
          bump
          return c :: (← digits steps)
        else return []
      | none => return []

/-- Read how often a pattern is repeated, between braces. -/
def counts : PatternParser (Nat × Option Nat) := do
  bump
  let _ ← char
  let least? ← count?
  let c ← char
  let found ← if c == ',' then do
      bump
      match least? with
      | none => failure
      | some least =>
        if (← char) == '\x7d' then pure (least, none)
        else
          match ← count? with
          | none => failure
          | some most => pure (least, some most)
    else
      match least? with
      | none => failure
      | some n => pure (n, some n)
  if (← peek) != some '\x7d' then failure
  bump
  if (← peek) == some '?' then advance 1
  if found.2.any (· < found.1) then failure
  return found

/-- Repeat the last of some patterns, which there must be. -/
def repeatLast (least : Nat) (most : Option Nat) :
    List NestedPattern → PatternParser (List NestedPattern)
  | [] => failure
  | p :: ps =>
    if p.repeatable then return ⟨.rep p.pattern least most, p.depth + 1, true⟩ :: ps else failure

/-- Read the sign of a repetition without counts. -/
def uncounted (least : Nat) (most : Option Nat) (ps : List NestedPattern) :
    PatternParser (List NestedPattern) := do
  advance 1
  if (← peek) == some '?' then advance 1
  repeatLast least most ps

/-- The pattern of a single part. -/
def patternOf (f : PatternFlags) : Part → PatternParser Pattern
  | .literal c byte =>
    if f.unicode then return .char (f.fold (.single c))
    else if byte && 0x80 ≤ c.toNat then failure
    else if c.toNat < 0x80 then return .char (f.fold (.single c))
    else return .char (.single c)
  | .chars a => return .char a
  | .look l => return .look l
  | .dot =>
    if !f.unicode then failure
    else if f.dotAll then return .char (.compl .empty)
    else return .char (.compl (.ofChars (if f.crlf then ['\n', '\r'] else ['\n'])))

/-- Read a single part outside of classes. -/
def part : PatternParser Part := do
  let f ← flags
  let c ← char
  if c == '\\' then return ← escape
  advance 1
  match c with
  | '.' => return .dot
  | '^' => return .look (if !f.multiLine then .textStart else if f.crlf then .lineStartCr else .lineStart)
  | '$' => return .look (if !f.multiLine then .textEnd else if f.crlf then .lineEndCr else .lineEnd)
  | c => return .literal c false

/-- The pattern of parts that stand one after the other, given the last first. -/
def sequenceOf : List NestedPattern → NestedPattern
  | [] => ⟨.empty, 0, false⟩
  | [p] => p
  | ps =>
    ⟨ps.foldl (fun q p => .seq p.pattern q) .empty, (ps.map (·.depth)).foldl max 0 + 1, true⟩

/-- The pattern of alternatives, given the last first. -/
def choiceOf : List NestedPattern → NestedPattern
  | [] => ⟨.empty, 0, false⟩
  | [p] => p
  | p :: ps =>
    ⟨ps.foldl (fun q p => .alt p.pattern q) p.pattern,
      ((p :: ps).map (·.depth)).foldl max 0 + 1, true⟩

mutual

/-- Read a group, or flags for the rest of the group around it. -/
def group : Nat → PatternParser NestedPattern
  | 0 => failure
  | steps + 1 => do
    let outer ← flags
    bump
    if (← isNext "?=") || (← isNext "?!") || (← isNext "?<=") || (← isNext "?<!") then failure
    if ← isNext "?P<" then
      advance 3
      groupName
    else if ← isNext "?<" then
      advance 2
      groupName
    else if ← isNext "?" then
      advance 1
      let cs ← rest
      let letters := cs.takeWhile fun c => c != ':' && c != ')'
      if letters.length == cs.length || !PatternFlags.areWritten letters then failure
      advance letters.length
      let closes ← isNext ")"
      advance 1
      setFlags (outer.setAll true letters)
      if closes then
        if letters.isEmpty then failure
        return ⟨.empty, 0, false⟩
    let p ← alternatives steps [] []
    expect ')'
    setFlags outer
    return ⟨p.pattern, p.depth + 1, true⟩

/-- Read alternatives, up to the end of their group.  `done` are those that have
    been read, and `parts` the parts of the next one, both the last first. -/
def alternatives : Nat → List NestedPattern → List NestedPattern → PatternParser NestedPattern
  | 0, _, _ => failure
  | steps + 1, done, parts => do
    let f ← flags
    skipBlanks
    match ← peek with
    | none | some ')' => return choiceOf (sequenceOf parts :: done)
    | some '|' =>
      advance 1
      alternatives steps (sequenceOf parts :: done) []
    | some '(' =>
      let p ← group steps
      alternatives steps done (p :: parts)
    | some '[' =>
      let a ← bracketed steps
      alternatives steps done (⟨.char a.chars, a.depth, true⟩ :: parts)
    | some '?' => alternatives steps done (← uncounted 0 (some 1) parts)
    | some '*' => alternatives steps done (← uncounted 0 none parts)
    | some '+' => alternatives steps done (← uncounted 1 none parts)
    | some '\x7b' =>
      let (least, most) ← counts
      alternatives steps done (← repeatLast least most parts)
    | some _ =>
      let p ← patternOf f (← part)
      alternatives steps done (⟨p, 0, true⟩ :: parts)

end

end PatternParser

namespace Pattern

/-- How deep a pattern can be nested. -/
def deepest : Nat := 250

/-- How large a pattern can be, by the estimate `Pattern.size`.  It stands for a
    limit of ten mebibytes on the compiled pattern; near the limit a pattern may
    be accepted here that does not fit into it, or the other way round. -/
def largest : Nat := 327680

/-- Read a pattern. -/
def ofText? (s : String) : Option Pattern :=
  let cs := s.toList
  match (PatternParser.alternatives (2 * cs.length + 2) [] []).run ⟨cs, .initial, []⟩ with
  | some (p, input) =>
    if input.rest.isEmpty && p.depth ≤ deepest && p.pattern.size ≤ largest then some p.pattern
    else none
  | none => none

end Pattern

end ProfileSync
