/-
  The grammar of patterns.
-/
import ProfileSync.Source.Grammar.Type

namespace ProfileSync.Grammar

/-- Whether an alternative follows. -/
def atAlternative (ts : List Token) : Bool :=
  atMarks "|" ts && !atMarks "||" ts && !atMarks "|=" ts

/-- Read a pattern of one or more alternatives, perhaps with a bar before the
    first. -/
def alternatives : Grammar Piece := do
  let leading ← optionalMarks "|"
  let first ← rule .pattern
  let rest ← many atAlternative do
    marks "|"
    rule .pattern
  return if leading || !rest.isEmpty then .plain else first

/-- Read the end of a range pattern, if there is one; whether there is. -/
def rangeBound : Grammar Bool := do
  let ts ← tokens
  if ts.isEmpty || atMarks "|" ts || atMarks "=" ts || atSingleColon ts || atMarks "," ts ||
      atMarks ";" ts || atWord "if" ts then
    return false
  if atLiteral ts then literal
  else if atName ts || atMarks "::" ts || atMarks "<" ts ||
      atOneOf ["self", "Self", "super", "crate"] ts then
    let _ ← qualifiedPath true
  else
    word "const"
    body
  return true

/-- Read the dots of a range; whether its end belongs to it.  Three dots, an
    old way to write that, only where they are allowed. -/
def rangeDots (allowThree : Bool) : Grammar Bool := do
  if ← optionalMarks "..=" then return true
  if ← sees (atMarks "...") then
    if !allowThree then failure
    advance 3
    return true
  marks ".."
  return false

/-- Read the rest of a range pattern after its start. -/
def rangeRest : Grammar Piece := do
  let closed ← rangeDots true
  let bounded ← rangeBound
  if closed && !bounded then failure
  return ⟨if bounded then .plain else .openRange, false⟩

/-- Read the patterns in a group, with commas between them. -/
def patternList (p : Grammar Unit) : Grammar Unit := do
  let _ ← commaList p

/-- Read a pattern of one or more alternatives. -/
def alternativesHere : Grammar Unit := do let _ ← rule .alternatives

/-- Read a field in the pattern of a structure. -/
def fieldPattern : Grammar Unit := do
  attributes
  let boxed ← optionalWord "box"
  let byRef ← optionalWord "ref"
  let mutable ← optionalWord "mut"
  if boxed || byRef || mutable then name
  else
    let ts ← tokens
    match ts with
    | .literal (.whole value suffixed) :: _ =>
      if suffixed || value ≥ wordLimit 32 then failure
      advance 1
      marks ":"
      alternativesHere
    | _ =>
      name
      if ← optionalMarks ":" then alternativesHere

/-- Read the fields in the pattern of a structure, `n` at most. -/
def fieldPatterns : Nat → Grammar Unit
  | 0 => return
  | n + 1 => do
    if ← sees List.isEmpty then return
    let rest ← ahead do
      let _ ← outerAttributes
      marks ".."
    if rest.isSome then
      attributes
      marks ".."
    else
      fieldPattern
      unless ← sees List.isEmpty do
        marks ","
        fieldPatterns n

/-- Read a pattern that begins with a path. -/
def pathPattern : Grammar Piece := do
  let p ← qualifiedPath true
  if !p.qualified && p.bare && (← sees atBang) then
    let _ ← invocation
    return .plain
  if ← sees (atGroup .brace) then
    group .brace do fieldPatterns ((← tokens).length + 1)
    return .plain
  if ← sees (atGroup .paren) then
    group .paren (patternList alternativesHere)
    return .plain
  if ← sees (atMarks "..") then rangeRest
  else return .plain

/-- Read a pattern that binds a name. -/
def namePattern : Grammar Unit := do
  let _ ← optionalWord "ref"
  let _ ← optionalWord "mut"
  nameOr "self"
  if ← optionalMarks "@" then
    let _ ← rule .pattern

/-- Whether a pattern begins with a path. -/
def atPathPattern (ts : List Token) : Bool :=
  let second := ts.drop 1
  (atName ts && (atMarks "::" second || atMarks "!" second || atGroup .brace second ||
    atGroup .paren second || atMarks ".." second)) ||
  (atWord "self" ts && atMarks "::" second) || atMarks "::" ts || atMarks "<" ts ||
  atOneOf ["Self", "super", "crate"] ts

/-- Read a pattern without alternatives. -/
def pattern : Grammar Piece := do
  let ts ← tokens
  if atPathPattern ts then pathPattern
  else if atWord "_" ts then
    advance 1
    return .plain
  else if atWord "box" ts then
    advance 1
    let _ ← hidden (rule .pattern)
    return ⟨.verbatim, false⟩
  else if atMarks "-" ts || atLiteral ts || atWord "const" ts then
    unless ← rangeBound do failure
    if ← sees (atMarks "..") then rangeRest else return .plain
  else if atOneOf ["ref", "mut", "self"] ts || atName ts then
    namePattern
    return .plain
  else if atMarks "&" ts then
    advance 1
    let _ ← optionalWord "mut"
    let _ ← rule .pattern
    return .plain
  else if atGroup .paren ts then
    group .paren (patternList alternativesHere)
    return .plain
  else if atGroup .bracket ts then
    group .bracket (patternList do
      let p ← rule .alternatives
      if p.form == .openRange then failure)
    return .plain
  else if atMarks ".." ts && !atMarks "..." ts then
    let closed ← rangeDots false
    let bounded ← rangeBound
    if closed && !bounded then failure
    -- two dots alone stand for the rest
    return ⟨if bounded then .openRange else .plain, false⟩
  else failure

end ProfileSync.Grammar
