/-
  The grammar of expressions.
-/
import ProfileSync.Source.Grammar.Pattern

namespace ProfileSync.Grammar

/-! ## Operators -/

namespace Precedence

/-- What binds least tightly. -/
def least : Nat := 0

def assign : Nat := 1

def range : Nat := 2

def compare : Nat := 6

def cast : Nat := 13

end Precedence

/-- The binary operators and how tightly they bind, a longer one before its
    beginnings. -/
def binaryOperators : List (String × Nat) :=
  [("+=", 1), ("-=", 1), ("*=", 1), ("/=", 1), ("%=", 1), ("^=", 1), ("&=", 1), ("|=", 1),
   ("<<=", 1), (">>=", 1), ("&&", 4), ("||", 3), ("<<", 10), (">>", 10), ("==", 6), ("<=", 6),
   ("!=", 6), (">=", 6), ("+", 11), ("-", 11), ("*", 12), ("/", 12), ("%", 12), ("^", 8), ("&", 9),
   ("|", 7), ("<", 6), (">", 6)]

/-- The binary operator that comes next. -/
def binaryOperator? (ts : List Token) : Option (String × Nat) :=
  binaryOperators.find? fun o => atMarks o.1 ts

/-- Whether an assignment comes next. -/
def atAssign (ts : List Token) : Bool := atMarks "=" ts && !atMarks "=>" ts

/-- How tightly the operator binds that comes next. -/
def nextPrecedence (ts : List Token) : Nat :=
  match binaryOperator? ts with
  | some (_, p) => p
  | none =>
    if atAssign ts then Precedence.assign
    else if atMarks ".." ts then Precedence.range
    else if atWord "as" ts then Precedence.cast
    else Precedence.least

/-- The operators after the right operand of one that binds as tightly as
    given, `n` times at most. -/
def rightOperators (allowStruct : Bool) (precedence : Nat) (right : Piece) : Nat → Grammar Piece
  | 0 => return right
  | n + 1 => do
    let ts ← tokens
    let next := nextPrecedence ts
    if next > precedence || (next == precedence && precedence == Precedence.assign) then
      let right ← rule (.operators right allowStruct next)
      -- an operator that cannot follow is left for others to find
      if (← tokens).length == ts.length then return right
      rightOperators allowStruct precedence right n
    else return right

/-- Read the right operand of an operator. -/
def rightOperand (allowStruct : Bool) (precedence : Nat) : Grammar Piece := do
  let right ← rule (.operand allowStruct)
  rightOperators allowStruct precedence right ((← tokens).length + 1)

/-- Whether a range without an end ends here. -/
def atRangeEnd (allowStruct : Bool) (ts : List Token) : Bool :=
  ts.isEmpty || atMarks "," ts || atMarks ";" ts || atSingleDot ts || atMarks "?" ts ||
    atMarks "=>" ts || (!allowStruct && atGroup .brace ts) || atMarks "=" ts || atMarks "+" ts ||
    atMarks "/" ts || atMarks "%" ts || atMarks "^" ts || atMarks ">" ts || atMarks "<=" ts ||
    atMarks "!=" ts || atMarks "-=" ts || atMarks "*=" ts || atMarks "&=" ts || atMarks "|=" ts ||
    atMarks "<<=" ts || atWord "as" ts

/-- Read the dots and the end of a range. -/
def rangeTail (allowStruct : Bool) : Grammar Piece := do
  let closed ← rangeDots false
  if !closed && (← sees (atRangeEnd allowStruct)) then return ⟨.range, false⟩
  let finish ← rightOperand allowStruct Precedence.range
  return ⟨.range, finish.endsInBrace⟩

/-- Whether something comes next that cannot follow a cast. -/
def atAfterCast (ts : List Token) : Bool :=
  atSingleDot ts || atMarks "?" ts || atGroup .bracket ts || atGroup .paren ts

/-- Read the operators after an operand that bind at least as tightly as
    given. -/
def operators (left : Piece) (allowStruct : Bool) (least : Nat) : Grammar Piece := do
  let ts ← tokens
  -- a range is no operand of a further operator
  if left.form == .range then return left
  match binaryOperator? ts with
  | some (mark, precedence) =>
    if precedence < least then return left
    let compares := precedence == Precedence.compare
    -- comparisons do not follow each other
    if compares && left.isComparison then failure
    marks mark
    let right ← rightOperand allowStruct precedence
    rule (.operators (left.extended compares right.endsInBrace) allowStruct least)
  | none =>
    if Precedence.assign ≥ least && atAssign ts then
      marks "="
      let right ← rightOperand allowStruct Precedence.assign
      rule (.operators (left.extended false right.endsInBrace) allowStruct least)
    else if Precedence.range ≥ least && atMarks ".." ts then
      let range ← rangeTail allowStruct
      rule (.operators range allowStruct least)
    else if Precedence.cast ≥ least && atWord "as" ts then
      advance 1
      let t ← rule (.type false)
      if ← sees atAfterCast then failure
      rule (.operators (left.extended false t.endsInBrace) allowStruct least)
    else return left

/-- Read an expression. -/
def expression (allowStruct : Bool) : Grammar Piece := do
  let first ← rule (.operand allowStruct)
  rule (.operators first allowStruct Precedence.least)

/-- Read an expression in which a path with braces may stand. -/
def expressionHere : Grammar Unit := do let _ ← rule (.expression true)

/-! ## Blocks and conditions -/

/-- Read a condition and the block after it, whose own attributes are met
    before the condition. -/
def conditionAndBody (condition : Grammar Unit) : Grammar Unit := do
  let (_, conditionItems) ← itemsOf condition
  let (inner, bodyItems) ← itemsOf bodyOf
  meetAll inner
  meet conditionItems
  meet bodyItems

/-- Read an expression that a block follows. -/
def beforeBlock : Grammar Unit := do let _ ← rule (.expression false)

/-- Read a chain of conditions, `n` at most. -/
def ifChain : Nat → Grammar Unit
  | 0 => failure
  | n + 1 => do
    word "if"
    beforeBlock
    block
    if ← optionalWord "else" then
      if ← sees (atWord "if") then ifChain n else block

/-- Whether an arm with this result needs a comma after it. -/
def Piece.needsComma (p : Piece) : Bool := p.form != .blockLike

/-- Read an arm of a case distinction. -/
def arm : Grammar Unit := do
  attributes
  alternativesHere
  if ← optionalWord "if" then expressionHere
  marks "=>"
  let result ← rule .statementExpression
  if Piece.needsComma result && !(← sees List.isEmpty) then marks ","
  else
    let _ ← optionalMarks ","

/-- Read a case distinction. -/
def matchArms : Grammar Unit := do
  word "match"
  let (_, subject) ← itemsOf beforeBlock
  let (inner, arms) ← itemsOf do
    group .brace do
      let inner ← innerAttributes
      let _ ← many (fun ts => !ts.isEmpty) arm
      return inner
  meetAll inner
  meet subject
  meet arms

/-- An expression that ends a statement by itself. -/
def blockLike (p : Grammar Unit) : Grammar Piece := do
  p
  return ⟨.blockLike, true⟩

/-- Read a `while` loop. -/
def whileLoop : Grammar Piece := blockLike do
  word "while"
  conditionAndBody beforeBlock

/-- Read a `for` loop. -/
def forLoop : Grammar Piece := blockLike do
  word "for"
  conditionAndBody do
    alternativesHere
    word "in"
    beforeBlock

/-- Read a loop without a condition. -/
def endlessLoop : Grammar Piece := blockLike do word "loop"; body

/-- Read a block with a word before it. -/
def wordBlock (w : String) : Grammar Piece := blockLike do word w; body

/-- Read a block that catches what is thrown in it. -/
def tryBlock : Grammar Piece := blockLike do word "try"; block

/-- Read a loop or a block with a label. -/
def labeled : Grammar Piece := do
  lifetime
  marks ":"
  let ts ← tokens
  if atWord "while" ts then whileLoop
  else if atWord "for" ts then forLoop
  else if atWord "loop" ts then endlessLoop
  else blockLike body

/-! ## Closures and jumps -/

/-- Whether a `for` begins the parameters of a closure and no loop. -/
def atClosureBinder (ts : List Token) : Bool := atWord "for" ts && startsGenerics (ts.drop 1)

/-- Read a parameter of a closure. -/
def closureParameter : Grammar Unit := do
  let outer ← outerAttributes
  let _ ← attributed outer do
    let p ← rule .pattern
    if ← optionalMarks ":" then
      typeHere
      return .plain
    else return p

/-- Read a closure. -/
def closure (allowStruct : Bool) : Grammar Piece := do
  let _ ← boundLifetimes
  let _ ← optionalWord "const"
  let _ ← optionalWord "static"
  let _ ← optionalWord "async"
  let _ ← optionalWord "move"
  marks "|"
  let _ ← listUntil (atMarks "|") "," closureParameter
  marks "|"
  if ← optionalMarks "->" then
    typeHere
    body
    return ⟨.plain, true⟩
  else
    let result ← rule (.expression allowStruct)
    return ⟨.plain, result.endsInBrace⟩

/-- Whether an expression can begin here. -/
def atExpression (ts : List Token) : Bool :=
  atAnyWord ts || atGroup .paren ts || atGroup .bracket ts || atGroup .brace ts || atLiteral ts ||
    atBang ts || (atMarks "-" ts && !atMarks "-=" ts && !atMarks "->" ts) ||
    (atMarks "*" ts && !atMarks "*=" ts) || (atMarks "|" ts && !atMarks "|=" ts) ||
    (atMarks "&" ts && !atMarks "&=" ts) || atMarks ".." ts ||
    (atMarks "<" ts && !atMarks "<=" ts && !atMarks "<<=" ts) || atMarks "::" ts ||
    atLifetime ts || atMarks "#" ts

/-- Read what is handed on by a jump. -/
def handedOn : Grammar Piece := do
  return ⟨.plain, (← rule (.expression true)).endsInBrace⟩

/-- Read a `break`. -/
def breakJump (allowStruct : Bool) : Grammar Piece := do
  word "break"
  if ← sees fun ts => atLifetime ts && atMarks ":" (ts.drop 1) then failure
  let _ ← optionalLifetime
  if ← sees fun ts => atExpression ts && (allowStruct || !atGroup .brace ts) then handedOn
  else return .plain

/-- Read a `return`. -/
def returnJump : Grammar Piece := do
  word "return"
  if ← sees atExpression then handedOn else return .plain

/-- Read a `yield`. -/
def yieldJump : Grammar Piece := do
  word "yield"
  if ← sees fun ts => ts.isEmpty || atMarks "," ts || atMarks ";" ts then return .plain else handedOn

/-- Read a tail call; it is kept as it is written. -/
def becomeJump : Grammar Piece := do
  word "become"
  let before ← tokens
  let _ ← hidden (rule (.expression true))
  let read := before.take (before.length - (← tokens).length)
  return ⟨.verbatim, read.getLast?.any fun t => atGroup .brace [t]⟩

/-! ## Operands -/

/-- The member of a value: whether it has a name. -/
def member : Grammar Bool := do
  match ← tokens with
  | .literal (.whole value suffixed) :: _ =>
    if suffixed || value ≥ wordLimit 32 then failure
    advance 1
    return false
  | _ =>
    name
    return true

/-- Read the value of a field. -/
def fieldValue : Grammar Unit := do
  attributes
  let named ← member
  if !named then
    marks ":"
    expressionHere
  else if ← optionalMarks ":" then expressionHere

/-- Read the fields of a structure, `n` at most. -/
def fieldValues : Nat → Grammar Unit
  | 0 => return
  | n + 1 => do
    if ← sees List.isEmpty then return
    if ← optionalMarks ".." then
      unless ← sees List.isEmpty do expressionHere
    else
      fieldValue
      unless ← sees List.isEmpty do
        marks ","
        fieldValues n

/-- Read an operand that begins with a path: the path, the invocation of a macro
    or a structure. -/
def pathOperand (allowStruct : Bool) : Grammar Piece := do
  let p ← qualifiedPath true
  if !p.qualified && p.bare && (← sees atBang) then
    let braces ← invocation
    return ⟨.invocation braces, braces⟩
  if allowStruct && (← sees (atGroup .brace)) then
    group .brace do fieldValues ((← tokens).length + 1)
    return ⟨.plain, true⟩
  return .plain

/-- Read a list or a repeated element in brackets. -/
def bracketOperand : Grammar Unit := group .bracket do
  unless ← sees List.isEmpty do
    expressionHere
    if ← optionalMarks ";" then expressionHere
    else unless ← sees List.isEmpty do
      marks ","
      let _ ← commaList expressionHere

/-- Read a condition that a pattern matches. -/
def letCondition (allowStruct : Bool) : Grammar Piece := do
  word "let"
  alternativesHere
  marks "="
  let first ← rule (.operand allowStruct)
  let value ← rule (.operators first allowStruct Precedence.compare)
  return ⟨.plain, value.endsInBrace⟩

/-- Whether an asynchronous block comes next. -/
def atAsyncBlock (ts : List Token) : Bool :=
  atWord "async" ts && (atGroup .brace (ts.drop 1) ||
    (atWord "move" (ts.drop 1) && atGroup .brace (ts.drop 2)))

/-- Whether a closure comes next. -/
def atClosure (ts : List Token) : Bool :=
  let second := ts.drop 1
  atMarks "|" ts || atWord "move" ts || atClosureBinder ts ||
    (atWord "const" ts && !atGroup .brace second) || atWord "static" ts ||
    (atWord "async" ts && (atMarks "|" second || atWord "move" second))

/-- Whether an operand comes next that begins with a path. -/
def atPathOperand (ts : List Token) : Bool :=
  let second := ts.drop 1
  atName ts || atMarks "::" ts || atMarks "<" ts || atOneOf ["self", "Self", "super", "crate"] ts ||
    (atWord "try" ts && (atMarks "!" second || atMarks "::" second))

/-- Read an operand without the operators in front of it and after it. -/
def atom (allowStruct : Bool) : Grammar Piece := do
  let ts ← tokens
  let second := ts.drop 1
  if atLiteral ts then
    literal
    return .plain
  else if atAsyncBlock ts then
    word "async"
    let _ ← optionalWord "move"
    block
    return ⟨.plain, true⟩
  else if atWord "try" ts && atGroup .brace second then tryBlock
  else if atClosure ts then closure allowStruct
  else if atWord "builtin" ts && atMarks "#" second then
    advance 2
    name
    group .paren anything
    return ⟨.verbatim, false⟩
  else if atPathOperand ts then pathOperand allowStruct
  else if atGroup .paren ts then
    group .paren do
      let _ ← commaList expressionHere
    return .plain
  else if atWord "break" ts then breakJump allowStruct
  else if atWord "continue" ts then
    advance 1
    let _ ← optionalLifetime
    return .plain
  else if atWord "return" ts then returnJump
  else if atWord "become" ts then becomeJump
  else if atGroup .bracket ts then
    bracketOperand
    return .plain
  else if atWord "let" ts then letCondition allowStruct
  else if atWord "if" ts then blockLike (ifChain ts.length)
  else if atWord "while" ts then whileLoop
  else if atWord "for" ts then forLoop
  else if atWord "loop" ts then endlessLoop
  else if atWord "match" ts then blockLike matchArms
  else if atWord "yield" ts then yieldJump
  else if atWord "unsafe" ts then wordBlock "unsafe"
  else if atWord "const" ts then wordBlock "const"
  else if atGroup .brace ts then blockLike body
  else if atMarks ".." ts then rangeTail allowStruct
  else if atWord "_" ts then
    advance 1
    return .plain
  else if atLifetime ts then labeled
  else failure

/-- The indices that a number with a point stands for after a dot: whether one
    point follows the last of them. -/
def splitIndices (written : List Char) : Option Bool :=
  let trailing := written.getLast? == some '.'
  let written := if trailing then written.dropLast else written
  let isIndex := fun (part : List Char) =>
    match Token.ofText? part with
    | some [.literal (.whole value false)] => value < wordLimit 32
    | _ => false
  if (written.splitOn '.').all isIndex then some trailing else none

/-- Read what follows the dot after an operand: a member or the call of a
    method. -/
def afterDot : Grammar Unit := do
  if ← optionalWord "await" then return
  let named ← member
  let turbofish ← if named then optionalMarks "::" else pure false
  if turbofish then
    let _ ← angleArguments
  if named && (turbofish || (← sees (atGroup .paren))) then
    group .paren do
      let _ ← commaList expressionHere

/-- Read the calls, indices and members after an operand, `n` at most. -/
def trailers (p : Piece) : Nat → Grammar Piece
  | 0 => return p
  | n + 1 => do
    let ts ← tokens
    if atGroup .paren ts then
      group .paren do
        let _ ← commaList expressionHere
      trailers .plain n
    else if atSingleDot ts && p.form != .range then
      advance 1
      match ← tokens with
      | .literal (.decimal written) :: _ =>
        advance 1
        match splitIndices written with
        | none => failure
        | some false => trailers .plain n
        | some true =>
          afterDot
          trailers .plain n
      | _ =>
        afterDot
        trailers .plain n
    else if atGroup .bracket ts then
      group .bracket expressionHere
      trailers .plain n
    else if atMarks "?" ts && p.form != .range then
      advance 1
      trailers .plain n
    else return p

/-- Read the calls, indices and members after an operand. -/
def allTrailers (p : Piece) : Grammar Piece := do
  trailers p ((← tokens).length + 1)

/-- Read an operand with the operators in front of it, but without attributes. -/
def unattributed (allowStruct : Bool) : Grammar Piece := do
  let ts ← tokens
  if atMarks "&" ts then
    advance 1
    let raw ← sees fun ts =>
      atWord "raw" ts && (atWord "mut" (ts.drop 1) || atWord "const" (ts.drop 1))
    if raw then
      advance 2
    else
      let _ ← optionalWord "mut"
    return { ← rule (.operand allowStruct) with form := .plain }
  else if atMarks "*" ts || atMarks "!" ts || atMarks "-" ts then
    advance 1
    return { ← rule (.operand allowStruct) with form := .plain }
  else allTrailers (← atom allowStruct)

/-- Read an operand with the attributes and the operators in front of it. -/
def operand (allowStruct : Bool) : Grammar Piece := do
  let outer ← outerAttributes
  let p ← attributed outer (unattributed allowStruct)
  -- a range that begins with its dots takes no attribute
  if p.form == .range && !outer.isEmpty then failure
  return p

/-- Read the first operand of a statement: one in braces ends there. -/
def firstOperand : Grammar Piece := do
  let ts ← tokens
  let second := ts.drop 1
  if atWord "if" ts then blockLike (ifChain ts.length)
  else if atWord "while" ts then whileLoop
  else if atWord "for" ts && !atClosureBinder ts then forLoop
  else if atWord "loop" ts then endlessLoop
  else if atWord "match" ts then blockLike matchArms
  else if atWord "try" ts && atGroup .brace second then tryBlock
  else if atWord "unsafe" ts then wordBlock "unsafe"
  else if atWord "const" ts && atGroup .brace second then wordBlock "const"
  else if atGroup .brace ts then blockLike body
  else if atLifetime ts then labeled
  else rule (.operand true)

/-- Read an expression that ends early, as a statement does: one in braces is
    no operand unless a member of it is asked for. -/
def statementExpression : Grammar Piece := do
  let first ← attributed (← outerAttributes) firstOperand
  if first.form != .blockLike then rule (.operators first true Precedence.least)
  else if ← sees fun ts => atSingleDot ts || atMarks "?" ts then
    let p ← allTrailers first
    rule (.operators p true Precedence.least)
  else return first

end ProfileSync.Grammar
