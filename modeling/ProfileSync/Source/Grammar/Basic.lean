/-
  Reading the grammar of Rust: what a reader of tokens sees and does.

  A reader keeps the tokens that are left and the items that it has met.  The
  rules of the grammar that call each other are named by `Rule`; a reader
  calls one with `Grammar.rule`, so that each rule is written on its own and
  all are tied together in one place.
-/
import ProfileSync.Source.Token
import ProfileSync.Source.Tree

namespace ProfileSync

/-! ## Looking at the next tokens -/

/-- The words that are no names. -/
def keywords : List String :=
  ["_", "abstract", "as", "async", "await", "become", "box", "break", "const", "continue", "crate",
   "do", "dyn", "else", "enum", "extern", "false", "final", "fn", "for", "if", "impl", "in", "let",
   "loop", "macro", "match", "mod", "move", "mut", "override", "priv", "pub", "ref", "return",
   "Self", "self", "static", "struct", "super", "trait", "true", "try", "type", "typeof", "unsafe",
   "unsized", "use", "virtual", "where", "while", "yield"]

/-- Whether the next token is the given word. -/
def atWord (w : String) : List Token → Bool
  | .word text _ :: _ => text == w
  | _ => false

/-- Whether the next token is one of the given words. -/
def atOneOf (ws : List String) (ts : List Token) : Bool :=
  ws.any fun w => atWord w ts

/-- Whether the next token is a word. -/
def atAnyWord : List Token → Bool
  | .word _ _ :: _ => true
  | _ => false

/-- Whether the next token is a name. -/
def atName : List Token → Bool
  | .word text _ :: _ => !keywords.contains text
  | _ => false

/-- Whether the next tokens are the given marks, each but the last with the
    next one directly after it. -/
def atChars : List Char → List Token → Bool
  | [c], .mark d _ :: _ => c == d
  | c :: cs, .mark d joint :: ts => c == d && joint && atChars cs ts
  | _, _ => false

/-- Whether the next tokens are the given marks. -/
def atMarks (marks : String) (ts : List Token) : Bool :=
  atChars marks.toList ts

/-- Whether the next token is a group. -/
def atGroup (d : Delimiter) : List Token → Bool
  | .group d' _ :: _ => d == d'
  | _ => false

/-- Whether the next token is a lifetime. -/
def atLifetime : List Token → Bool
  | .lifetime :: _ => true
  | _ => false

/-- The number of tokens of the literal that comes next, a sign included; `0`
    if none does. -/
def literalSize : List Token → Nat
  | .literal _ :: _ => 1
  | .word text _ :: _ => if text == "true" || text == "false" then 1 else 0
  | .mark '-' _ :: .literal (.whole _ _) :: _ => 2
  | .mark '-' _ :: .literal (.decimal _) :: _ => 2
  | _ => 0

/-- Whether a literal comes next. -/
def atLiteral (ts : List Token) : Bool := literalSize ts > 0

/-- Whether a string comes next. -/
def atText : List Token → Bool
  | .literal .text :: _ => true
  | _ => false

/-- Whether a dot comes next that is not the first of two. -/
def atSingleDot (ts : List Token) : Bool := atMarks "." ts && !atMarks ".." ts

/-- Whether a colon comes next that is not the first of two. -/
def atSingleColon (ts : List Token) : Bool := atMarks ":" ts && !atMarks "::" ts

/-- Whether an exclamation mark comes next that is no inequality. -/
def atBang (ts : List Token) : Bool := atMarks "!" ts && !atMarks "!=" ts

/-! ## Readers -/

/-- What a piece of syntax is, as far as what may follow it depends on that. -/
inductive Form where
  | plain
  /-- An operand or a pattern that is kept as it is written, or operators after
      such an operand. -/
  | verbatim
  /-- A range. -/
  | range
  /-- A comparison of two operands, and whether the first of all its operands is
      kept as it is written. -/
  | comparison (verbatim : Bool)
  /-- An expression that ends a statement by itself. -/
  | blockLike
  /-- The invocation of a macro, and whether its argument is in braces. -/
  | invocation (braces : Bool)
  /-- A type that is one name, perhaps with arguments. -/
  | typeName
  /-- A type that is a path. -/
  | typePath
  /-- A type that is a single bound. -/
  | singleBound
  /-- A range pattern without a start or an end. -/
  | openRange
  /-- A bound that names a trait. -/
  | traitBound
  /-- A bound that names a trait for constant evaluation. -/
  | constBound
  /-- A bound that names a lifetime. -/
  | lifetimeBound
  /-- A bound that lists captured parameters. -/
  | captureBound
deriving BEq

/-- A piece of syntax that was read. -/
structure Piece where
  form : Form
  /-- Whether its last token is a group in braces, as far as that decides what
      may follow. -/
  endsInBrace : Bool

/-- A piece of which nothing is to be known. -/
def Piece.plain : Piece := ⟨.plain, false⟩

/-- Whether a piece begins with something that is kept as it is written. -/
def Piece.isVerbatim (p : Piece) : Bool := p.form == .verbatim || p.form == .comparison true

/-- Whether a piece is a comparison. -/
def Piece.isComparison (p : Piece) : Bool :=
  p.form == .comparison true || p.form == .comparison false

/-- A piece and an operator after it with its own right operand. -/
def Piece.extended (left : Piece) (compares endsInBrace : Bool) : Piece :=
  ⟨if compares then .comparison left.isVerbatim else if left.isVerbatim then .verbatim else .plain,
    endsInBrace⟩

/-- The rules that call each other. -/
inductive Rule where
  /-- An expression; a path with braces is one only where that is allowed. -/
  | expression (allowStruct : Bool)
  /-- An expression that ends early, as a statement does. -/
  | statementExpression
  /-- An operand with the operators in front of it. -/
  | operand (allowStruct : Bool)
  /-- The operators after an operand that bind at least as tightly as given. -/
  | operators (left : Piece) (allowStruct : Bool) (least : Nat)
  /-- The statements of a block, up to its end. -/
  | statements
  /-- A type, perhaps a sum of bounds. -/
  | type (allowPlus : Bool)
  /-- A bound of a type. -/
  | bound (allowCapture allowConst : Bool)
  /-- A pattern without alternatives. -/
  | pattern
  /-- A pattern, perhaps of several alternatives. -/
  | alternatives
  /-- The fields of a structure with names. -/
  | fields
  /-- A tree of imported names. -/
  | imports (allowRoot : Bool)
  /-- An item; it is added to the items that were met. -/
  | item

/-- What a reader has left and what it has met. -/
structure Scan where
  tokens : List Token
  /-- The items that were met, the last first. -/
  met : List Item

/-- What reading comes to from a scan: a value, and the scan after it.  The
    tokens left are the last of those before. -/
structure Reached (s : Scan) (α : Type) where
  value : α
  scan : Scan
  suffix : scan.tokens <:+ s.tokens

/-- A way to read from a scan, unless that is refused. -/
abbrev Reader (α : Type) := (s : Scan) → Option (Reached s α)

/-- Reading in a grammar whose rules are given. -/
def Grammar (α : Type) := (Rule → Reader Piece) → Reader α

namespace Grammar

variable {α β : Type}

/-- Read nothing. -/
def pure (a : α) : Grammar α := fun _ s => some ⟨a, s, List.suffix_refl _⟩

/-- Read one thing and then another. -/
def bind (p : Grammar α) (f : α → Grammar β) : Grammar β := fun rules s =>
  match p rules s with
  | none => none
  | some r =>
    match f r.value rules r.scan with
    | none => none
    | some r' => some ⟨r'.value, r'.scan, r'.suffix.trans r.suffix⟩

instance : Monad Grammar where
  pure := pure
  bind := bind

/-- Refuse to read. -/
def failure : Grammar α := fun _ _ => none

/-- Read by a rule. -/
def rule (r : Rule) : Grammar Piece := fun rules => rules r

/-- The tokens left. -/
def tokens : Grammar (List Token) := fun _ s => some ⟨s.tokens, s, List.suffix_refl _⟩

/-- What a predicate says of the tokens left. -/
def sees (p : List Token → Bool) : Grammar Bool := return p (← tokens)

/-- Leave out the next `n` tokens. -/
def advance (n : Nat) : Grammar Unit := fun _ s =>
  some ⟨(), { s with tokens := s.tokens.drop n }, List.drop_suffix n s.tokens⟩

/-- Go on only if a predicate holds of the tokens left. -/
def expect (p : List Token → Bool) : Grammar Unit := do
  unless ← sees p do failure

/-- Read the given word. -/
def word (w : String) : Grammar Unit := do expect (atWord w); advance 1

/-- Read the given marks. -/
def marks (m : String) : Grammar Unit := do expect (atMarks m); advance m.length

/-- Read the given word if it comes next. -/
def optionalWord (w : String) : Grammar Bool := do
  if ← sees (atWord w) then advance 1; return true
  return false

/-- Read the given marks if they come next. -/
def optionalMarks (m : String) : Grammar Bool := do
  if ← sees (atMarks m) then advance m.length; return true
  return false

/-- Read a name. -/
def name : Grammar Unit := do expect atName; advance 1

/-- Read a name, or the given word instead of one. -/
def nameOr (w : String) : Grammar Unit := do
  unless ← optionalWord w do name

/-- Read a word, be it a name or not. -/
def anyWord : Grammar Unit := do expect atAnyWord; advance 1

/-- Read a lifetime. -/
def lifetime : Grammar Unit := do expect atLifetime; advance 1

/-- Read a lifetime if it comes next. -/
def optionalLifetime : Grammar Bool := do
  if ← sees atLifetime then advance 1; return true
  return false

/-- Read a literal. -/
def literal : Grammar Unit := do
  expect atLiteral
  advance (literalSize (← tokens))

/-- Read a group, all of it by the given reader. -/
def group (d : Delimiter) (p : Grammar α) : Grammar α := fun rules s =>
  match h : s.tokens with
  | .group d' content :: rest =>
    if d != d' then none
    else
      match p rules { s with tokens := content } with
      | some r =>
        if r.scan.tokens.isEmpty then
          some ⟨r.value, { r.scan with tokens := rest }, h ▸ List.suffix_cons _ rest⟩
        else none
      | none => none
  | _ => none

/-- Read a group whatever is in it; whether it is in braces. -/
def anyGroup : Grammar Bool := do
  match ← tokens with
  | .group d _ :: _ => advance 1; return d == .brace
  | _ => failure

/-- Leave out all tokens left. -/
def anything : Grammar Unit := fun _ s =>
  some ⟨(), { s with tokens := [] }, List.nil_suffix⟩

/-- Read something if that succeeds; otherwise nothing is read. -/
def attempt (p : Grammar α) : Grammar (Option α) := fun rules s =>
  match p rules s with
  | some r => some ⟨some r.value, r.scan, r.suffix⟩
  | none => some ⟨none, s, List.suffix_refl _⟩

/-- The result of reading something, of which nothing is kept. -/
def ahead (p : Grammar α) : Grammar (Option α) := fun rules s =>
  some ⟨(p rules s).map Reached.value, s, List.suffix_refl _⟩

/-- The items that are met by reading something; they are not kept. -/
def itemsOf (p : Grammar α) : Grammar (α × List Item) := fun rules s =>
  match p rules { s with met := [] } with
  | some r => some ⟨(r.value, r.scan.met.reverse), { r.scan with met := s.met }, r.suffix⟩
  | none => none

/-- Read something whose items are not met. -/
def hidden (p : Grammar α) : Grammar α := return (← itemsOf p).1

/-- Meet items. -/
def meet (items : List Item) : Grammar Unit := fun _ s =>
  some ⟨(), { s with met := items.reverse ++ s.met }, List.suffix_refl _⟩

/-- Read as long as a predicate holds of the tokens left, at most `n` times. -/
def repeatUpTo (more : List Token → Bool) (p : Grammar α) : Nat → Grammar (List α)
  | 0 => return []
  | n + 1 => do
    if ← sees more then
      let a ← p
      return a :: (← repeatUpTo more p n)
    else return []

/-- Read as long as a predicate holds of the tokens left; each time at least
    one token is read. -/
def many (more : List Token → Bool) (p : Grammar α) : Grammar (List α) := do
  repeatUpTo more p ((← tokens).length + 1)

/-- The rest of a list with separators, read `n` times at most. -/
def separatedUpTo (stop : List Token → Bool) (separator : String) (strict : Bool) (p : Grammar α) :
    Nat → Grammar (List α)
  | 0 => return []
  | n + 1 => do
    if ← sees stop then return []
    let a ← p
    if ← sees (if strict then stop else fun ts => !atMarks separator ts) then return [a]
    marks separator
    return a :: (← separatedUpTo stop separator strict p n)

/-- Read a list up to the place that a predicate tells, with a separator after
    each element but perhaps the last. -/
def listUntil (stop : List Token → Bool) (separator : String) (p : Grammar α) : Grammar (List α) := do
  separatedUpTo stop separator true p ((← tokens).length + 1)

/-- Read a list as far as separators go; at the place that a predicate tells it
    may end with one. -/
def listWhile (stop : List Token → Bool) (separator : String) (p : Grammar α) : Grammar (List α) := do
  separatedUpTo stop separator false p ((← tokens).length + 1)

/-- Read a list with commas up to the end of a group. -/
def commaList (p : Grammar α) : Grammar (List α) := listUntil List.isEmpty "," p

/-! ## Paths without arguments, macros and visibility -/

/-- Whether a segment of a path without arguments comes next. -/
def atPlainSegment (ts : List Token) : Bool :=
  atName ts || atOneOf ["super", "self", "Self", "crate"] ts

/-- Read a path without arguments. -/
def plainPath : Grammar Unit := do
  let segment : Grammar Unit := do expect atPlainSegment; anyWord
  let _ ← optionalMarks "::"
  segment
  let _ ← many (atMarks "::") do marks "::"; segment

/-- Read the invocation of a macro after its path; whether in braces. -/
def invocation : Grammar Bool := do
  marks "!"
  anyGroup

/-- Read who may see an item; whether nothing is said. -/
def visibility : Grammar Bool := do
  unless ← optionalWord "pub" do return true
  if ← sees (atGroup .paren) then
    let narrow : Grammar Unit := group .paren do
      expect (atOneOf ["crate", "self", "super"])
      anyWord
    match ← tokens with
    | .group _ content :: _ =>
      if atWord "in" content then
        group .paren do
          word "in"
          plainPath
      else
        let _ ← attempt narrow
    | _ => failure
  return false

end Grammar

end ProfileSync
