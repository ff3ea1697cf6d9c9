/-
  The grammar of types.
-/
import ProfileSync.Source.Grammar.Bound

namespace ProfileSync.Grammar

/-! ## Paths as types -/

/-- Read the arguments in parentheses after the last segment of a type's path,
    and the segments after those, `n` times at most. -/
def parenSegments (p : PathSeen) : Nat → Grammar PathSeen
  | 0 => return p
  | n + 1 => do
    unless p.lastEmpty && (← sees atParenArguments) do return p
    let _ ← optionalMarks "::"
    let (filled, output) ← parenArguments
    let p := { p with bare := false, lastEmpty := !filled, lastParen := true,
                      endsInBrace := output.getD false }
    let p ← if output.isNone && (← sees (atMarks "::")) then moreSegments false p else pure p
    parenSegments p n

/-- Read a path as a type. -/
def typePath : Grammar PathSeen := do
  let p ← qualifiedPath false
  parenSegments p ((← tokens).length + 1)

/-! ## Types of functions -/

/-- Read the name of an interface to other languages, if it comes next. -/
def abi : Grammar Unit := do
  if ← optionalWord "extern" then
    if ← sees atText then advance 1

/-- Read a parameter of a function type; only the first can be the receiver. -/
def functionTypeParameter (isFirst : Bool) : Grammar Unit := do
  attributes
  let (drop, items) ← itemsOf do
    let mutSelf ←
      sees fun ts => isFirst && atWord "mut" ts && atWord "self" (ts.drop 1)
    if mutSelf then advance 1
    let named ← sees fun ts =>
      (atName ts || atWord "_" ts || (isFirst && atWord "self" ts)) && atSingleColon (ts.drop 1)
    let selfNamed ← sees fun ts => isFirst && atWord "self" ts && !atName ts && !atWord "_" ts
    if named then anyWord; marks ":"
    if ← sees fun ts =>
        isFirst && !(named && selfNamed) && atWord "mut" ts && atWord "self" (ts.drop 1) then
      advance 2
      return true
    else if mutSelf && !named then
      word "self"
      return true
    else
      typeHere
      return mutSelf
  -- a receiver that may change is kept as it is written
  if !drop then meet items

/-- Read the parameters of a function type, `n` at most; `first` tells whether
    none was read yet. -/
def functionTypeParameters (first : Bool) : Nat → Grammar Unit
  | 0 => return
  | n + 1 => do
    if ← sees List.isEmpty then return
    attributes
    let dots ← sees fun ts => atMarks "..." ts ||
      ((atName ts || atWord "_" ts) && atMarks ":" (ts.drop 1) && atMarks "..." (ts.drop 2))
    if dots then
      if ← sees fun ts => atName ts || atWord "_" ts then anyWord; marks ":"
      marks "..."
      let _ ← optionalMarks ","
    else
      functionTypeParameter first
      unless ← sees List.isEmpty do
        marks ","
        functionTypeParameters false n

/-- Read a function type; whether it ends in a brace. -/
def functionType : Grammar Bool := do
  let _ ← boundLifetimes
  let _ ← optionalWord "unsafe"
  abi
  word "fn"
  group .paren do functionTypeParameters true ((← tokens).length + 1)
  return (← returnType false).getD false

/-! ## Types in general -/

/-- A type that consists of bounds. -/
def boundsType (bs : List Piece) (plain : Bool) : Piece :=
  let form := match bs with
    | [b] => if plain && b.form != .constBound then Form.singleBound else .plain
    | _ => .plain
  ⟨form, (bs.getLast?.map Piece.endsInBrace).getD false⟩

/-- Read the bounds of a type that stands for any value of some traits; a trait
    must be among them. -/
def objectBounds (allowPlus : Bool) : Grammar (List Piece) := do
  let bs ← bounds allowPlus false false
  if bs.any (·.form == .traitBound) then return bs else failure

/-- Read further bounds of a sum in which the first stands in parentheses. -/
def sumBounds : Grammar (List Piece) := many (atMarks "+") do
  marks "+"
  rule (.bound false false)

/-- Read a type in parentheses: a tuple, a type or the first of some bounds. -/
def parenType (allowPlus : Bool) : Grammar Piece := do
  let ts ← tokens
  let content := match ts with
    | .group _ content :: _ => content
    | _ => []
  if content.isEmpty then
    advance 1
    return .plain
  if atLifetime content then
    group .paren do
      let _ ← optionalWord "dyn"
      let _ ← objectBounds true
    return .plain
  if atMarks "?" content then
    let first ← group .paren (traitBound true)
    return boundsType (first :: (← sumBounds)) false
  let (first, isTuple) ← group .paren do
    let first ← rule (.type true)
    if ← sees (atMarks ",") then
      marks ","
      let _ ← commaList typeHere
      return (first, true)
    return (first, false)
  if isTuple then return .plain
  let isBound := first.form == .typeName || first.form == .typePath || first.form == .singleBound
  if allowPlus && isBound && (← sees (atMarks "+")) then
    return boundsType (first :: (← sumBounds)) false
  return .plain

/-- Read a type that begins with a path: the path itself, the invocation of a
    macro, or a sum of bounds. -/
def pathType (hasBinder allowPlus : Bool) : Grammar Piece := do
  let p ← typePath
  let brace := p.endsInBrace
  if p.qualified then return ⟨.plain, brace⟩
  if p.bare && (← sees atBang) then return ⟨.plain, ← invocation⟩
  let isSum := allowPlus && (← sees (atMarks "+"))
  if hasBinder || isSum then
    let rest ← if isSum then furtherBounds false false ((← tokens).length + 1) else pure []
    return boundsType (⟨.traitBound, brace⟩ :: rest) (!isSum)
  let isName := p.segments == 1 && !p.rooted && !p.lastParen
  return ⟨if isName then .typeName else .typePath, brace⟩

/-- Read a type. -/
def type (allowPlus : Bool) : Grammar Piece := do
  let binder ← boundLifetimes
  if binder then
    expect fun ts => atName ts ||
      atOneOf ["fn", "unsafe", "extern", "super", "self", "Self", "crate", "dyn"] ts
  let ts ← tokens
  if atGroup .paren ts then parenType allowPlus
  else if atOneOf ["fn", "unsafe", "extern"] ts then return ⟨.plain, ← functionType⟩
  else if atName ts || atOneOf ["super", "self", "Self", "crate"] ts || atMarks "::" ts ||
      atMarks "<" ts then
    pathType binder allowPlus
  else if atWord "dyn" ts then
    advance 1
    let (starred, (bs, items)) ← do
      let starred ← optionalMarks "*"
      pure (starred, ← itemsOf (objectBounds allowPlus))
    if starred then return .plain
    meet items
    return { boundsType bs false with form := .plain }
  else if atGroup .bracket ts then
    group .bracket do
      typeHere
      if ← optionalMarks ";" then
        let _ ← rule (.expression true)
    return .plain
  else if atMarks "*" ts then
    advance 1
    unless ← optionalWord "const" do word "mut"
    return { ← rule (.type false) with form := .plain }
  else if atMarks "&" ts then
    advance 1
    let _ ← optionalLifetime
    let _ ← optionalWord "mut"
    return { ← rule (.type false) with form := .plain }
  else if atMarks "!" ts && !atMarks "=" ts then
    advance 1
    return .plain
  else if atWord "impl" ts then
    advance 1
    let bs ← bounds allowPlus true true
    unless bs.any fun b => b.form == .traitBound || b.form == .constBound do failure
    return { boundsType bs false with form := .plain }
  else if atWord "_" ts then
    advance 1
    return .plain
  else if atLifetime ts then
    return boundsType (← objectBounds true) true
  else failure

end ProfileSync.Grammar
