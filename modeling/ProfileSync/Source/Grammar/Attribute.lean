/-
  The grammar of attributes.
-/
import ProfileSync.Source.Grammar.Basic

namespace ProfileSync.Grammar

/-- Read what stands in the brackets of an attribute: a path, perhaps with
    arguments or a value. -/
def attributeBody : Grammar Attribute := do
  if ← sees (atWord "unsafe") then advance 1 else plainPath
  if ← sees fun ts => atGroup .paren ts || atGroup .bracket ts || atGroup .brace ts then
    let _ ← anyGroup
    return .plain
  else if ← optionalMarks "=" then
    let ts ← tokens
    let size := literalSize ts
    if size > 0 && ts.length == size then
      advance size
      return .plain
    else if atMarks "#" ts && atGroup .bracket (ts.drop 1) then failure
    else
      let (_, items) ← itemsOf (rule (.expression true))
      return .valued items
  else return .plain

/-- Read an attribute of what follows it. -/
def outerAttribute : Grammar Attribute := do
  marks "#"
  group .bracket attributeBody

/-- Read the attributes of what follows them. -/
def outerAttributes : Grammar (List Attribute) := many (atMarks "#") outerAttribute

/-- Whether an attribute comes next that belongs to what it stands in. -/
def atInnerAttribute (ts : List Token) : Bool := atMarks "#" ts && atMarks "!" (ts.drop 1)

/-- Read the attributes at the front of a group that belong to it. -/
def innerAttributes : Grammar (List Attribute) := many atInnerAttribute do
  marks "#"
  marks "!"
  group .bracket attributeBody

/-- Meet the items that stand in the values of attributes. -/
def meetAll (attributes : List Attribute) : Grammar Unit :=
  meet (attributes.flatMap Attribute.items)

/-- Read the attributes of what follows them and meet their items. -/
def attributes : Grammar Unit := do meetAll (← outerAttributes)

/-- Read what some attributes stand in front of.  Their items are met before its
    own, but what is kept as it is written keeps its attributes so as well. -/
def attributed (outer : List Attribute) (p : Grammar Piece) : Grammar Piece := do
  let (piece, items) ← itemsOf p
  meetAll (if piece.isVerbatim then [] else outer)
  meet items
  return piece

end ProfileSync.Grammar
