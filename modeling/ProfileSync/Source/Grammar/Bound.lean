/-
  The grammar of bounds, of generic parameters and of `where` clauses.
-/
import ProfileSync.Source.Grammar.Path

namespace ProfileSync.Grammar

/-! ## Generic parameters -/

/-- Read a lifetime parameter. -/
def lifetimeParameter : Grammar Unit := do
  lifetime
  if ← optionalMarks ":" then
    let _ ← listWhile (fun ts => ts.isEmpty || atMarks "," ts || atMarks ">" ts) "+" lifetime

/-- Read a type parameter. -/
def typeParameter : Grammar Unit := do
  name
  if ← optionalMarks ":" then
    boundsUntil fun ts => ts.isEmpty || atMarks "," ts || atMarks ">" ts || atMarks "=" ts
  if ← optionalMarks "=" then typeHere

/-- Read a constant parameter. -/
def constantParameter : Grammar Unit := do
  word "const"
  name
  marks ":"
  typeHere
  if ← optionalMarks "=" then constantArgument

/-- Read a generic parameter; one of a function or a type may be `_`. -/
def parameter (allowBlank : Bool) : Grammar Unit := do
  attributes
  if ← sees atLifetime then lifetimeParameter
  else if ← sees atName then typeParameter
  else if ← sees (atWord "const") then constantParameter
  else if allowBlank then word "_"
  else failure

/-- Read the generic parameters of an item, if it has any; whether it does. -/
def generics : Grammar Bool := do
  unless ← optionalMarks "<" do return false
  let _ ← listUntil (atMarks ">") "," (parameter true)
  marks ">"
  return true

/-- Read the lifetimes that a `for` introduces, if it comes next; whether it
    does. -/
def boundLifetimes : Grammar Bool := do
  unless ← optionalWord "for" do return false
  marks "<"
  let _ ← listUntil (atMarks ">") "," (parameter false)
  marks ">"
  return true

/-- Whether a `<` begins generic parameters and not a type in brackets. -/
def startsGenerics (ts : List Token) : Bool :=
  let second := ts.drop 1
  let third := ts.drop 2
  atMarks "<" ts &&
    (atMarks ">" second || atMarks "#" second ||
      ((atLifetime second || atName second) &&
        (atMarks ">" third || atMarks "," third || atSingleColon third || atMarks "=" third)) ||
      atWord "const" second)

/-! ## Bounds -/

/-- Read a list of captured parameters. -/
def capture : Grammar Unit := do
  word "use"
  marks "<"
  let _ ← listUntil (atMarks ">") "," do
    if ← sees atLifetime then lifetime
    else
      expect fun ts => atName ts || atWord "Self" ts
      anyWord
  marks ">"

/-- Read a bound that names a trait. -/
def traitBound (allowConst : Bool) : Grammar Piece := do
  let binder ← boundLifetimes
  let constant ←
    if ← sees (atGroup .bracket) then
      group .bracket (word "const")
      pure true
    else optionalWord "const"
  if constant && !allowConst then failure
  let maybe ← optionalMarks "?"
  let binder ← if maybe && !binder then boundLifetimes else pure binder
  if binder && maybe then failure
  let p ← path false
  let brace ←
    if p.lastEmpty && (← sees atParenArguments) then
      let _ ← optionalMarks "::"
      pure ((← parenArguments).2.getD false)
    else pure false
  return if constant then ⟨.constBound, false⟩ else ⟨.traitBound, brace⟩

/-- Read a bound. -/
def bound (allowCapture allowConst : Bool) : Grammar Piece := do
  if ← sees atLifetime then
    lifetime
    return ⟨.lifetimeBound, false⟩
  if ← sees (atWord "use") then
    if !allowCapture then failure
    capture
    return ⟨.captureBound, false⟩
  let (b, items) ← itemsOf do
    if ← sees (atGroup .paren) then group .paren (traitBound allowConst)
    else traitBound allowConst
  -- what a constant bound holds is not looked into
  if b.form != .constBound then meet items
  return b

/-- Whether a further bound can come after a `+`. -/
def atFurtherBound (allowConst : Bool) (ts : List Token) : Bool :=
  atAnyWord ts || atMarks "::" ts || atMarks "?" ts || atLifetime ts || atGroup .paren ts ||
    (allowConst && atGroup .bracket ts)

/-- The bounds after the first `n` times at most, as far as a `+` goes before
    them. -/
def furtherBounds (allowCapture allowConst : Bool) : Nat → Grammar (List Piece)
  | 0 => return []
  | n + 1 => do
    unless ← optionalMarks "+" do return []
    unless ← sees (atFurtherBound allowConst) do return []
    let b ← rule (.bound allowCapture allowConst)
    return b :: (← furtherBounds allowCapture allowConst n)

/-- Read the bounds of a type of which only bounds are known; more than one
    only where that is allowed. -/
def bounds (allowPlus allowCapture allowConst : Bool) : Grammar (List Piece) := do
  let first ← rule (.bound allowCapture allowConst)
  let rest ←
    if allowPlus then furtherBounds allowCapture allowConst ((← tokens).length + 1) else pure []
  return first :: rest

/-! ## Conditions -/

/-- Whether a `where` clause ends here. -/
def atWhereEnd (ts : List Token) : Bool :=
  ts.isEmpty || atGroup .brace ts || atMarks "," ts || atMarks ";" ts || atSingleColon ts ||
    atMarks "=" ts

/-- Read a condition of a `where` clause. -/
def condition : Grammar Unit := do
  if ← sees fun ts => atLifetime ts && atMarks ":" (ts.drop 1) then
    lifetime
    marks ":"
    let _ ← listWhile (fun ts => atWhereEnd ts || atMarks ":" ts) "+" lifetime
  else
    let _ ← boundLifetimes
    typeHere
    marks ":"
    boundsUntil atWhereEnd

/-- Read a `where` clause, if one comes next; whether it does. -/
def whereClause : Grammar Bool := do
  unless ← optionalWord "where" do return false
  let _ ← listWhile atWhereEnd "," condition
  return true

end ProfileSync.Grammar
