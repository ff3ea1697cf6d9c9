/-
  Tables of characters, as the Unicode standard names them.  They are those of its
  version 15.0, but for the ages, which go on to version 16.0.
-/
import ProfileSync.Text.CharSet

namespace ProfileSync.Unicode

/-- A set of characters with its names, in lower case and without separators,
    and the ranges of its code points as text. -/
structure Table where
  names : List String
  ranges : List String
deriving Repr, Inhabited

/-- The set of characters of a table. -/
def Table.chars (t : Table) : CharSet := .read t.ranges

/-- The set of characters with a name. -/
def chars? (tables : List Table) (name : String) : Option CharSet :=
  (tables.find? (·.names.contains name)).map Table.chars

end ProfileSync.Unicode
