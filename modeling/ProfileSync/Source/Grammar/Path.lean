/-
  The grammar of paths, of their arguments, and of blocks, which stand in
  those arguments as constants.
-/
import ProfileSync.Source.Grammar.Attribute

namespace ProfileSync.Grammar

/-! ## Blocks -/

/-- Read the inside of a block that may begin with attributes of its own. -/
def bodyOf : Grammar (List Attribute) := group .brace do
  let inner ← innerAttributes
  let _ ← rule .statements
  return inner

/-- Read a block whose attributes are met before its statements. -/
def body : Grammar Unit := do
  let (inner, items) ← itemsOf bodyOf
  meetAll inner
  meet items

/-- Read a block without attributes of its own. -/
def block : Grammar Unit := group .brace do
  let _ ← rule .statements

/-! ## Arguments -/

/-- Read a type that may be a sum of bounds. -/
def typeHere : Grammar Unit := do let _ ← rule (.type true)

/-- Read a constant argument: a literal, a name or a block. -/
def constantArgument : Grammar Unit := do
  if ← sees atLiteral then literal
  else if ← sees atName then name
  else body

/-- Read bounds with `+` between them up to a place that a predicate tells. -/
def boundsUntil (stop : List Token → Bool) : Grammar Unit := do
  let _ ← listWhile stop "+" (rule (.bound false true))

/-- Read an argument of a path. -/
def argument : Grammar Unit := do
  if ← sees fun ts => atLifetime ts && !atMarks "+" (ts.drop 1) then lifetime
  else if ← sees fun ts => atLiteral ts || atGroup .brace ts then constantArgument
  else
    let t ← rule (.type true)
    if t.form == .typeName then
      if ← optionalMarks "=" then
        if ← sees fun ts => atLiteral ts || atGroup .brace ts then constantArgument else typeHere
      else if ← optionalMarks ":" then
        boundsUntil fun ts => atMarks "," ts || atMarks ">" ts

/-- Read arguments in angle brackets; whether there are any. -/
def angleArguments : Grammar Bool := do
  marks "<"
  let args ← listUntil (atMarks ">") "," argument
  marks ">"
  return !args.isEmpty

/-- Read what a function returns, if that is said; whether it ends in a
    brace. -/
def returnType (allowPlus : Bool) : Grammar (Option Bool) := do
  if ← optionalMarks "->" then
    return some (← rule (.type allowPlus)).endsInBrace
  else return none

/-- Read arguments in parentheses with what is returned for them: whether
    anything stands there, what is known of the type returned. -/
def parenArguments : Grammar (Bool × Option Bool) := do
  let inputs ← group .paren (commaList typeHere)
  let output ← returnType false
  return (!inputs.isEmpty || output.isSome, output)

/-! ## Paths -/

/-- What was read of a path. -/
structure PathSeen where
  /-- The number of segments. -/
  segments : Nat
  /-- Whether no segment has arguments, be they empty. -/
  bare : Bool
  /-- Whether the last segment has no argument in its brackets. -/
  lastEmpty : Bool
  /-- Whether the last segment has parentheses. -/
  lastParen : Bool
  /-- Whether it begins with a separator. -/
  rooted : Bool
  /-- Whether it begins with a type in angle brackets. -/
  qualified : Bool
  endsInBrace : Bool

/-- Whether a separator comes next that has angle brackets after it. -/
def atTurbofish (ts : List Token) : Bool := atMarks "::" ts && atMarks "<" (ts.drop 2)

/-- Read a segment of a path: whether it has arguments, and whether there is
    any in them.  In an expression arguments follow a separator. -/
def segment (inExpression : Bool) : Grammar (Bool × Bool) := do
  if ← sees (atOneOf ["super", "self", "crate", "try"]) then
    anyWord
    return (false, false)
  if ← sees (atWord "Self") then anyWord else name
  let angle := fun ts => !inExpression && atMarks "<" ts && !atMarks "<=" ts && !atMarks "<<=" ts
  if ← sees fun ts => angle ts || atTurbofish ts then
    let _ ← optionalMarks "::"
    return (true, ← angleArguments)
  else return (false, false)

/-- Read the segments after the first as far as no parentheses follow a
    separator. -/
def moreSegments (inExpression : Bool) (p : PathSeen) : Grammar PathSeen := do
  let rest ← many (fun ts => atMarks "::" ts && !atGroup .paren (ts.drop 2)) do
    marks "::"
    segment inExpression
  match rest.getLast? with
  | none => return p
  | some (_, filled) =>
    return { p with
      segments := p.segments + rest.length
      bare := p.bare && rest.all fun s => !s.1
      lastEmpty := !filled
      lastParen := false
      endsInBrace := false }

/-- Read a path. -/
def path (inExpression : Bool) : Grammar PathSeen := do
  let rooted ← optionalMarks "::"
  let (angled, filled) ← segment inExpression
  moreSegments inExpression
    { segments := 1, bare := !angled, lastEmpty := !filled, lastParen := false, rooted,
      qualified := false, endsInBrace := false }

/-- Read a path that may begin with a type in angle brackets. -/
def qualifiedPath (inExpression : Bool) : Grammar PathSeen := do
  unless ← sees (atMarks "<") do return ← path inExpression
  marks "<"
  typeHere
  if ← optionalWord "as" then
    let _ ← path false
  marks ">"
  marks "::"
  let (angled, filled) ← segment inExpression
  let rest ← many (atMarks "::") do
    marks "::"
    segment inExpression
  let last := (rest.getLast?.map Prod.snd).getD filled
  return { segments := 2 + rest.length, bare := !angled && rest.all fun s => !s.1,
           lastEmpty := !last, lastParen := false, rooted := false, qualified := true,
           endsInBrace := false }

/-- Whether parentheses with arguments come next, perhaps after a separator. -/
def atParenArguments (ts : List Token) : Bool :=
  atGroup .paren ts || (atMarks "::" ts && atGroup .paren (ts.drop 2))

end ProfileSync.Grammar
