/-
  Shapes: what a reader of structured text expects at a place, and what it
  found there instead.
-/
import ProfileSync.Text.Binary64
import ProfileSync.Text.Quoted

namespace ProfileSync

/-- What was found at a place. -/
inductive Found where
  | unit
  | boolean (value : Bool)
  | integer (value : Int)
  /-- An integer of more than 64 bits, in a signed or an unsigned type. -/
  | wideInteger (value : Int) (signed : Bool)
  | real (value : Binary64)
  | text (value : String)
  | sequence
  | map
deriving Repr, Inhabited, BEq, DecidableEq

/-- The description of what was found. -/
def Found.describe : Found → String
  | unit => "unit value"
  | boolean value => s!"boolean `{value}`"
  | integer value => s!"integer `{value}`"
  | wideInteger value signed => s!"integer `{value}` as " ++ (if signed then "i128" else "u128")
  | real value => s!"floating point `{value.text}`"
  | text value => s!"string {quoted value}"
  | sequence => "sequence"
  | map => "map"

/-- A way in which a place differs from what is expected there. -/
inductive ShapeFault where
  /-- Something else than the expected. -/
  | invalidType (found : Found) (expected : String)
  /-- A text that does not write a value of the expected type. -/
  | invalidValue (text expected : String)
  /-- A field that is there already. -/
  | duplicateField (name : String)
  /-- A field that no field of the record is. -/
  | unknownField (name : String) (fields : List String)
  /-- A variant that no variant of the choice is. -/
  | unknownVariant (name : String) (variants : List String)
deriving Repr, Inhabited, BEq, DecidableEq

/-- Names between back quotes, separated by commas. -/
def listedNames (names : List String) : String :=
  ", ".intercalate (names.map fun name => s!"`{name}`")

/-- The text of a fault. -/
def ShapeFault.message : ShapeFault → String
  | invalidType found expected => s!"invalid type: {found.describe}, expected {expected}"
  | invalidValue text expected => s!"invalid value: string {quoted text}, expected {expected}"
  | duplicateField name => s!"duplicate field `{name}`"
  | unknownField name fields =>
    s!"unknown field `{name}`, expected one of {listedNames fields}"
  | unknownVariant name variants =>
    s!"unknown variant `{name}`, expected one of {listedNames variants}"

end ProfileSync
