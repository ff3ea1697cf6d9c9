/-
  The tree of a source file, as far as functions can be met in it.

  A file and a module hold items.  An attribute with a value that is an
  expression can hold items too, in the blocks of that expression.

  * `SourceFile.testFunctions` lists the functions that a reader meets who goes
    through the attributes and the items of the file and of its modules;
  * `SourceFile.declared` is the set of those that take part in a comparison.
-/
import ProfileSync.Declared
import ProfileSync.Profile.Basic

namespace ProfileSync

mutual

/-- An item of a source file. -/
inductive Item where
  /-- A function with a body, and the line of its name. -/
  | function (name : String) (line : Nat)
  /-- A module; one whose items stand in another file has none here. -/
  | module (attributes : List Attribute) (items : List Item)
  /-- Any other item. -/
  | other

/-- An attribute of a file or of an item. -/
inductive Attribute where
  /-- A path, alone, with arguments or with a literal as its value. -/
  | plain
  /-- A path with another expression as its value, and the items that stand in
      the blocks of the expression. -/
  | valued (items : List Item)

end

instance : Inhabited Item := ⟨.other⟩
instance : Inhabited Attribute := ⟨.plain⟩

/-- The items that stand in the value of an attribute. -/
def Attribute.items : Attribute → List Item
  | plain => []
  | valued items => items

/-- A source file. -/
structure SourceFile where
  attributes : List Attribute
  items : List Item

mutual

/-- The functions that are met in an item: itself, or those in the attributes
    and then among the items of a module. -/
def Item.functions : Item → List (String × Nat)
  | .function name line => [(name, line)]
  | .module attributes items => Attribute.functionsOf attributes ++ Item.functionsOf items
  | .other => []

/-- The functions that are met in several items, one after the other. -/
def Item.functionsOf : List Item → List (String × Nat)
  | [] => []
  | i :: rest => i.functions ++ Item.functionsOf rest

/-- The functions that are met in an attribute. -/
def Attribute.functions : Attribute → List (String × Nat)
  | .plain => []
  | .valued items => Item.functionsOf items

/-- The functions that are met in several attributes, one after the other. -/
def Attribute.functionsOf : List Attribute → List (String × Nat)
  | [] => []
  | a :: rest => a.functions ++ Attribute.functionsOf rest

end

/-- The functions that are met in a file. -/
def SourceFile.functions (f : SourceFile) : List (String × Nat) :=
  Attribute.functionsOf f.attributes ++ Item.functionsOf f.items

/-- Add a function to a set if its name is that of a test or a benchmark. -/
def Declared.collect (d : Declared) (f : String × Nat) : Declared :=
  if isTestName f.1 then d.insert f.1 (some f.2) else d

/-- The tests and benchmarks of a file, each with the line where it is met
    first. -/
def SourceFile.declared (f : SourceFile) : Declared :=
  f.functions.foldl Declared.collect .empty

end ProfileSync
