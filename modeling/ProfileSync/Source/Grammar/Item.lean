/-
  The grammar of statements and of items.
-/
import ProfileSync.Source.Grammar.Expression

namespace ProfileSync.Grammar

/-! ## Functions -/

/-- Whether the head of a function comes next; a word that calls it safe is
    allowed only among foreign items. -/
def atFunction (allowSafe : Bool) (ts : List Token) : Bool :=
  let skip := fun w (ts : List Token) => if atWord w ts then ts.drop 1 else ts
  let ts := skip "async" (skip "const" ts)
  let ts := if allowSafe && atWord "safe" ts then ts.drop 1 else skip "unsafe" ts
  let ts :=
    if atWord "extern" ts then
      let ts := ts.drop 1
      if atText ts then ts.drop 1 else ts
    else ts
  atWord "fn" ts

/-- Read the receiver of a method. -/
def receiver : Grammar Unit := do
  if ← optionalMarks "&" then
    let _ ← optionalLifetime
    let _ ← optionalWord "mut"
    word "self"
  else
    let _ ← optionalWord "mut"
    word "self"
    if ← optionalMarks ":" then typeHere

/-- Read the parameters of a function, `n` at most; `first` tells whether none
    was read yet. -/
def parameters (first : Bool) : Nat → Grammar Unit
  | 0 => return
  | n + 1 => do
    if ← sees List.isEmpty then return
    attributes
    let last : Grammar Unit := do
      let _ ← optionalMarks ","
    let next : Grammar Unit := do
      unless ← sees List.isEmpty do
        marks ","
        parameters false n
    if ← optionalMarks "..." then last
    else if (← attempt receiver).isSome then
      if !first then failure
      next
    else if ← sees fun ts => atName ts && atMarks "<" (ts.drop 1) then
      typeHere
      next
    else
      let _ ← rule .pattern
      marks ":"
      if ← optionalMarks "..." then last
      else
        typeHere
        next

/-- Read what stands before the word for functions. -/
def qualifiers (allowSafe : Bool) : Grammar Unit := do
  let _ ← optionalWord "const"
  let _ ← optionalWord "async"
  let isUnsafe ← optionalWord "unsafe"
  if allowSafe && !isUnsafe then
    let _ ← optionalWord "safe"
  abi

/-- Read the head of a function: its name and the line of the name. -/
def signature (allowSafe : Bool) : Grammar (String × Nat) := do
  qualifiers allowSafe
  word "fn"
  match ← tokens with
  | .word text line :: _ =>
    name
    let _ ← generics
    group .paren do parameters true ((← tokens).length + 1)
    let _ ← returnType true
    let _ ← whereClause
    return (text, line)
  | _ => failure

/-! ## Types, constants and imports -/

/-- Where a type's definition may have its `where` clause. -/
inductive WherePlace where
  | beforeDefinition
  | afterDefinition
  | either
deriving BEq

/-- Read the definition of a type, its visibility included. -/
def typeItem (place : WherePlace) (allowDefault : Bool) : Grammar Unit := do
  let _ ← visibility
  if allowDefault then
    let _ ← optionalWord "default"
  word "type"
  name
  let _ ← generics
  let stop := fun ts => atWord "where" ts || atMarks "=" ts || atMarks ";" ts
  if ← optionalMarks ":" then
    let _ ← listUntil stop "+" (rule (.bound false true))
  let before ← if place != .afterDefinition then whereClause else pure false
  if ← optionalMarks "=" then typeHere
  if place != .beforeDefinition && !before then
    let _ ← whereClause
  marks ";"

/-- Read a constant after its visibility. -/
def constantItem : Grammar Unit := do
  word "const"
  nameOr "_"
  let _ ← generics
  marks ":"
  typeHere
  if ← optionalMarks "=" then expressionHere
  let _ ← whereClause
  marks ";"

/-- Read a static variable after its visibility. -/
def staticItem : Grammar Unit := do
  word "static"
  let _ ← optionalWord "mut"
  name
  if ← optionalMarks ":" then
    typeHere
    if ← optionalMarks "=" then expressionHere
  else
    marks "="
    expressionHere
  marks ";"

/-- Read a static variable of a foreign library. -/
def foreignStatic : Grammar Unit := do
  let _ ← visibility
  unless ← optionalWord "unsafe" do
    let _ ← optionalWord "safe"
  word "static"
  let _ ← optionalWord "mut"
  name
  marks ":"
  typeHere
  if ← optionalMarks "=" then expressionHere
  marks ";"

/-- Read a name given instead of another, or `_`. -/
def newName : Grammar Unit := nameOr "_"

/-- Read a tree of imported names; inside braces it may begin at the root of
    all packages where that is allowed. -/
def imports (allowRoot : Bool) : Grammar Piece := do
  if ← sees fun ts => atName ts || atOneOf ["self", "super", "crate", "try"] ts then
    anyWord
    if ← optionalMarks "::" then rule (.imports false)
    else
      if ← optionalWord "as" then newName
      return .plain
  else if ← optionalMarks "*" then return .plain
  else
    group .brace do
      let _ ← commaList do
        let rooted ← if allowRoot then optionalMarks "::" else pure false
        rule (.imports (allowRoot && !rooted))
    return .plain

/-- Read an import. -/
def useItem : Grammar Unit := do
  let _ ← visibility
  word "use"
  let rooted ← optionalMarks "::"
  let _ ← rule (.imports (!rooted))
  marks ";"

/-- Read the declaration of another package. -/
def packageItem : Grammar Unit := do
  let _ ← visibility
  word "extern"
  word "crate"
  nameOr "self"
  if ← optionalWord "as" then newName
  marks ";"

/-! ## Structures -/

/-- Read the fields of a structure with names; the type of a field without one
    may be a structure or a union itself. -/
def namedFields : Grammar Piece := group .brace do
  let _ ← commaList do
    attributes
    let _ ← visibility
    let blank ← optionalWord "_"
    unless blank do name
    marks ":"
    if ← sees fun ts =>
        blank && (atWord "struct" ts || (atWord "union" ts && atGroup .brace (ts.drop 1))) then
      anyWord
      let _ ← rule .fields
    else typeHere
  return .plain

/-- Read the fields of a structure with names. -/
def fields : Grammar Unit := do let _ ← rule .fields

/-- Read the fields of a structure without names. -/
def tupleFields : Grammar Unit := group .paren do
  let _ ← commaList do
    attributes
    let _ ← visibility
    typeHere

/-- Read a structure. -/
def structItem : Grammar Unit := do
  let _ ← visibility
  word "struct"
  name
  let _ ← generics
  let restricted ← whereClause
  if !restricted && (← sees (atGroup .paren)) then
    tupleFields
    let _ ← whereClause
    marks ";"
  else if ← sees (atGroup .brace) then fields
  else marks ";"

/-- Read a union. -/
def unionItem : Grammar Unit := do
  let _ ← visibility
  word "union"
  name
  let _ ← generics
  let _ ← whereClause
  fields

/-- Read a type with variants. -/
def enumItem : Grammar Unit := do
  let _ ← visibility
  word "enum"
  name
  let _ ← generics
  let _ ← whereClause
  group .brace do
    let _ ← commaList do
      attributes
      let _ ← visibility
      name
      if ← sees (atGroup .brace) then fields
      else if ← sees (atGroup .paren) then tupleFields
      if ← optionalMarks "=" then expressionHere

/-! ## Members of traits, implementations and foreign libraries -/

/-- Whether the invocation of a macro can begin here. -/
def atMacroPath (ts : List Token) : Bool :=
  atName ts || atOneOf ["self", "super", "crate"] ts || atMarks "::" ts

/-- Read a macro among the members of something. -/
def memberMacro : Grammar Unit := do
  plainPath
  unless ← invocation do marks ";"

/-- Read the body of a function among the members of something. -/
def memberBody : Grammar Unit := body

/-- Read a member of a trait. -/
def traitMember : Grammar Unit := do
  attributes
  let inherited ← visibility
  let isDefault ← optionalWord "default"
  let ts ← tokens
  if atFunction false ts then
    let _ ← signature false
    unless ← optionalMarks ";" do memberBody
  else if atWord "const" ts then constantItem
  else if atWord "type" ts then typeItem .afterDefinition false
  else if inherited && !isDefault && atMacroPath ts then memberMacro
  else failure

/-- Read a member of an implementation. -/
def implMember : Grammar Unit := do
  attributes
  let inherited ← ahead visibility
  let after := (← ahead do let _ ← visibility; tokens).getD []
  let isDefault := atWord "default" after && !atMarks "!" (after.drop 1)
  let ts := if isDefault then after.drop 1 else after
  if atFunction false ts then
    let _ ← visibility
    let _ ← optionalWord "default"
    let _ ← signature false
    unless ← optionalMarks ";" do memberBody
  else if atWord "const" ts then
    let _ ← visibility
    if isDefault then advance 1
    constantItem
  else if atWord "type" ts then typeItem .afterDefinition true
  else if inherited == some true && !isDefault && atMacroPath ts then memberMacro
  else failure

/-- Read a member of a foreign library. -/
def foreignMember : Grammar Unit := do
  attributes
  let inherited ← ahead visibility
  let ts := (← ahead do let _ ← visibility; tokens).getD []
  if atFunction true ts then
    let _ ← visibility
    let _ ← signature true
    if ← sees (atGroup .brace) then memberBody else marks ";"
  else if atWord "static" ts ||
      ((atWord "unsafe" ts || atWord "safe" ts) && atWord "static" (ts.drop 1)) then
    foreignStatic
  else if atWord "type" ts then typeItem .either false
  else if inherited == some true && atMacroPath ts then memberMacro
  else failure

/-- Read members in braces, attributes of the whole before them. -/
def members (p : Grammar Unit) : Grammar Unit := group .brace do
  meetAll (← innerAttributes)
  let _ ← many (fun ts => !ts.isEmpty) p

/-- Read the declarations of a foreign library. -/
def foreignItem : Grammar Unit := do
  let _ ← optionalWord "unsafe"
  expect (atWord "extern")
  abi
  members foreignMember

/-- Read a trait after its name and parameters. -/
def traitRest : Grammar Unit := do
  if ← optionalMarks ":" then
    let stop := fun ts => atWord "where" ts || atGroup .brace ts
    let _ ← listUntil stop "+" (rule (.bound false true))
  let _ ← whereClause
  members traitMember

/-- Read a trait or another name for some traits. -/
def traitItem : Grammar Unit := do
  let _ ← visibility
  let isUnsafe ← optionalWord "unsafe"
  let isAuto ← optionalWord "auto"
  word "trait"
  name
  let _ ← generics
  if !isUnsafe && !isAuto && (← sees (atMarks "=")) then
    marks "="
    let stop := fun ts => atWord "where" ts || atMarks ";" ts
    let _ ← listUntil stop "+" (rule (.bound false true))
    let _ ← whereClause
    marks ";"
  else traitRest

/-- Read an implementation. -/
def implItem : Grammar Unit := do
  let _ ← visibility
  let _ ← optionalWord "default"
  let _ ← optionalWord "unsafe"
  word "impl"
  if ← sees startsGenerics then
    let _ ← generics
  if ← sees fun ts => atWord "const" ts || (atMarks "?" ts && atWord "const" (ts.drop 1)) then
    let _ ← optionalMarks "?"
    word "const"
  if ← sees fun ts => atMarks "!" ts && !atGroup .brace (ts.drop 1) then marks "!"
  typeHere
  if ← optionalWord "for" then typeHere
  let _ ← whereClause
  members implMember

/-! ## Macros and modules -/

/-- Read a macro that is declared like a function. -/
def macroItem : Grammar Unit := do
  let _ ← visibility
  word "macro"
  name
  if ← sees (atGroup .paren) then advance 1
  group .brace anything

/-- Read the invocation of a macro as an item. -/
def invocationItem : Grammar Unit := do
  plainPath
  marks "!"
  unless ← optionalWord "try" do
    if ← sees atName then advance 1
  unless ← anyGroup do marks ";"

/-- Read what a file or a module holds: the attributes that belong to it, and
    then its items. -/
def contents : Grammar (List Attribute × List Item) := do
  let attributes ← innerAttributes
  let (_, items) ← itemsOf (many (fun ts => !ts.isEmpty) (rule .item))
  return (attributes, items)

/-- Read a module after the attributes in front of it. -/
def moduleItem (outer : List Attribute) : Grammar Item := do
  let _ ← visibility
  let _ ← optionalWord "unsafe"
  word "mod"
  nameOr "try"
  if ← optionalMarks ";" then return .module outer []
  let (inner, items) ← group .brace contents
  return .module (outer ++ inner) items

/-- Read a function as an item; one without a body counts for nothing. -/
def functionItem : Grammar Item := do
  let _ ← visibility
  let (name, line) ← signature false
  if ← optionalMarks ";" then return .other
  body
  return .function name line

/-- Read an item that is neither a function nor a module. -/
def otherItem (p : Grammar Unit) : Grammar Item := do
  p
  return .other

/-- Read an item after the attributes in front of it. -/
def itemAfter (outer : List Attribute) : Grammar Item := do
  let inherited := (← ahead visibility).getD true
  let ts := (← ahead do let _ ← visibility; tokens).getD []
  let second := ts.drop 1
  if atFunction false ts then functionItem
  else if atWord "extern" ts then
    if atWord "crate" second then otherItem packageItem else otherItem foreignItem
  else if atWord "use" ts then otherItem useItem
  else if atWord "static" ts then otherItem do let _ ← visibility; staticItem
  else if atWord "const" ts then otherItem do let _ ← visibility; constantItem
  else if atWord "unsafe" ts then
    if atWord "trait" second || (atWord "auto" second && atWord "trait" (ts.drop 2)) then
      otherItem traitItem
    else if atWord "impl" second then otherItem implItem
    else if atWord "extern" second then otherItem foreignItem
    else if atWord "mod" second then moduleItem outer
    else failure
  else if atWord "mod" ts then moduleItem outer
  else if atWord "type" ts then otherItem (typeItem .beforeDefinition false)
  else if atWord "struct" ts then otherItem structItem
  else if atWord "enum" ts then otherItem enumItem
  else if atWord "union" ts && atName second then otherItem unionItem
  else if atWord "trait" ts || (atWord "auto" ts && atWord "trait" second) then otherItem traitItem
  else if atWord "impl" ts || (atWord "default" ts && !atMarks "!" second) then otherItem implItem
  else if atWord "macro" ts then otherItem macroItem
  else if inherited && atMacroPath ts then otherItem invocationItem
  else failure

/-- Read an item. -/
def item : Grammar Piece := do
  -- what is met on the way stands in the item, not beside it
  let i ← hidden do itemAfter (← outerAttributes)
  meet [i]
  return .plain

/-! ## Statements -/

/-- Whether the invocation of a macro that declares a name comes next. -/
def atNamedMacro (after : List Token) : Bool :=
  atMarks "!" after && (atName (after.drop 1) || atWord "try" (after.drop 1))

/-- Whether the invocation of a macro comes next that is a statement, its
    argument being in braces. -/
def atMacroStatement (after : List Token) : Bool :=
  atMarks "!" after && atGroup .brace (after.drop 1) &&
    !(atSingleDot (after.drop 2) || atMarks "?" (after.drop 2))

/-- Whether an item comes next among statements. -/
def atItem (ts : List Token) : Bool :=
  let second := ts.drop 1
  let third := ts.drop 2
  atWord "pub" ts || (atWord "crate" ts && !atMarks "::" second) || atWord "extern" ts ||
    atWord "use" ts ||
    (atWord "static" ts && (atWord "mut" second || (atName second &&
      !(atWord "async" second && (atWord "move" third || atMarks "|" third))))) ||
    (atWord "const" ts && !(atGroup .brace second || atWord "static" second ||
      (atWord "async" second && !atOneOf ["unsafe", "extern", "fn"] third) ||
      atWord "move" second || atMarks "|" second)) ||
    (atWord "unsafe" ts && !atGroup .brace second) ||
    (atWord "async" ts && atOneOf ["unsafe", "extern", "fn"] second) ||
    atOneOf ["fn", "mod", "type", "struct", "enum"] ts || (atWord "union" ts && atName second) ||
    (atWord "auto" ts && atWord "trait" second) || atWord "trait" ts ||
    (atWord "default" ts && atOneOf ["unsafe", "impl"] second) || atWord "impl" ts ||
    atWord "macro" ts

/-- Read the declaration of a variable. -/
def letStatement : Grammar Unit := do
  word "let"
  let _ ← rule .pattern
  if ← optionalMarks ":" then typeHere
  if ← optionalMarks "=" then
    let value ← rule (.expression true)
    if !value.endsInBrace && (← sees (atWord "else")) then
      word "else"
      block
  marks ";"

/-- Read a statement: whether nothing can follow it, for want of a
    semicolon. -/
def statement : Grammar Bool := do
  let outer ← outerAttributes
  let ts ← tokens
  let afterPath := (← ahead do plainPath; tokens).getD []
  if atMacroStatement afterPath && !atNamedMacro afterPath then
    meetAll outer
    plainPath
    let _ ← invocation
    let _ ← optionalMarks ";"
    return false
  else if atWord "let" ts then
    meetAll outer
    letStatement
    return false
  else if atItem ts || atNamedMacro afterPath then
    meet [← hidden (itemAfter outer)]
    return false
  else
    let e ← attributed outer (rule .statementExpression)
    if ← optionalMarks ";" then return false
    return e.form != .blockLike && e.form != .invocation true

/-- Read the statements of a block up to its end, `n` at most. -/
def statementsUpTo : Nat → Grammar Unit
  | 0 => failure
  | n + 1 => do
    let _ ← many (atMarks ";") (marks ";")
    unless ← sees List.isEmpty do
      let last ← statement
      unless ← sees List.isEmpty do
        if last then failure
        statementsUpTo n

/-- Read the statements of a block up to its end. -/
def statements : Grammar Piece := do
  statementsUpTo ((← tokens).length + 1)
  return .plain

end ProfileSync.Grammar
