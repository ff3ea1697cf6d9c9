/-
  The classes of characters that have a name in the Unicode standard.

  A name is compared without regard to case, blanks, underscores and hyphens,
  and to a leading `is`.
-/
import ProfileSync.Pattern.CharClass
import ProfileSync.Text.Unicode.Age
import ProfileSync.Text.Unicode.Break
import ProfileSync.Text.Unicode.Script
import ProfileSync.Text.Unicode.ScriptExtension

namespace ProfileSync.CharClass

/-- A name as it is compared. -/
def comparedName (name : List Char) : String :=
  let name := name.map Char.toLower
  let isStart := name.take 2 == ['i', 's']
  let kept := (if isStart then name.drop 2 else name).filter fun c =>
    c.toNat < 0x80 && c != ' ' && c != '_' && c != '-'
  String.ofList (if isStart && kept == ['c'] then "isc".toList else kept)

/-- The characters of a table with a name. -/
def fromTables? (tables : List Unicode.Table) (name : String) : Option CharClass :=
  (Unicode.chars? tables name).map .table

/-- The characters of a general category. -/
def category? (name : String) : Option CharClass :=
  match name with
  | "any" => some (.range 0 0x10ffff)
  | "ascii" => some (.range 0 0x7f)
  | "assigned" => (fromTables? Unicode.categories "unassigned").map .compl
  | _ => fromTables? Unicode.categories name

/-- The characters of a script. -/
def script? (name : String) : Option CharClass := fromTables? Unicode.scripts name

/-- The characters that are used in a script. -/
def scriptExtension? (name : String) : Option CharClass :=
  (fromTables? Unicode.scriptExtensions name).orElse fun _ => script? name

/-- The characters of an age: those that came with it or with an earlier one. -/
def age? (name : String) : Option CharClass :=
  (Unicode.ages.findIdx? (·.names.contains name)).map fun i =>
    .table (.read ((Unicode.ages.take (i + 1)).flatMap (·.ranges)))

/-- The characters with a property, of a category or of a script.  Three short
    names of categories are those of properties as well, and mean the
    categories. -/
def named? (name : List Char) : Option CharClass :=
  let name := comparedName name
  let property := if ["cf", "sc", "lc"].contains name then none
    else fromTables? Unicode.properties name
  (property.orElse fun _ => category? name).orElse fun _ => script? name

/-- The characters that have a value of a property. -/
def valued? (property value : List Char) : Option CharClass :=
  let value := comparedName value
  match comparedName property with
  | "gc" | "generalcategory" => category? value
  | "sc" | "script" => script? value
  | "scx" | "scriptextensions" => scriptExtension? value
  | "age" => age? value
  | "gcb" | "graphemeclusterbreak" => fromTables? Unicode.graphemeBreaks value
  | "wb" | "wordbreak" => fromTables? Unicode.wordBreaks value
  | "sb" | "sentencebreak" => fromTables? Unicode.sentenceBreaks value
  | _ => none

end ProfileSync.CharClass
