/-
  The values of a TOML document, with the places where they stand.
-/
import ProfileSync.Shape

namespace ProfileSync.Toml

/-- A stretch of a text, by the characters before its start and its end. -/
structure Span where
  start : Nat
  stop : Nat
deriving Repr, Inhabited, BEq, DecidableEq

/-- A part of a key. -/
structure Key where
  name : String
  span : Span
deriving Repr, Inhabited, BEq, DecidableEq

/-- How a table came about; this decides in which ways it can be extended. -/
inductive TableForm where
  /-- By its own header. -/
  | header
  /-- On the way to a header of a table inside it. -/
  | implicit
  /-- On the way to a value with a dotted key. -/
  | dotted
  /-- Between braces. -/
  | inline
deriving Repr, Inhabited, BEq, DecidableEq

/-- A value. -/
inductive Value where
  | text (value : String)
  | integer (value : Int)
  | real (value : Binary64)
  | boolean (value : Bool)
  /-- A date, a time of day or both. -/
  | moment
  /-- An array, between brackets or of the tables of repeated headers. -/
  | array (ofTables : Bool) (items : List (Span × Value))
  | table (form : TableForm) (entries : List (Key × Span × Value))
deriving Repr, Inhabited, BEq

/-- A table. -/
structure Table where
  form : TableForm
  entries : List (Key × Span × Value)
deriving Repr, Inhabited, BEq

namespace Table

/-- The value of a key. -/
def get? (t : Table) (name : String) : Option (Span × Value) :=
  (t.entries.find? (·.1.name == name)).map (·.2)

/-- The table with the value of a key set.  A new key is the last, and one that
    is there stays where it stands. -/
def set (t : Table) (key : Key) (span : Span) (value : Value) : Table :=
  if t.entries.any (·.1.name == key.name) then
    { t with entries := t.entries.map fun e =>
        if e.1.name == key.name then (e.1, span, value) else e }
  else { t with entries := t.entries ++ [(key, span, value)] }

/-- A table as a value. -/
def toValue (t : Table) : Value := .table t.form t.entries

/-! ## Extending a table

Tables are extended by the statements of a document, one after the other.  What
a statement cannot extend makes the document invalid. -/

/-- Change the table at the end of a path.  Tables that are not there yet are
    made on the way.  An array of tables stands for the last of them.  A dotted
    key does not lead through a table with a header, and nothing leads into a
    table between braces. -/
def change (t : Table) (byDottedKey : Bool) (f : Table → Option Table) :
    List Key → Option Table
  | [] => f t
  | key :: path =>
    match t.get? key.name with
    | none =>
      (change ⟨if byDottedKey then .dotted else .implicit, []⟩ byDottedKey f path).map fun inner =>
        t.set key key.span inner.toValue
    | some (span, .table form entries) =>
      if form == .inline || (byDottedKey && form == .header) then none
      else (change ⟨form, entries⟩ byDottedKey f path).map fun inner => t.set key span inner.toValue
    | some (span, .array true items) =>
      match items.getLast? with
      | some (last, .table form entries) =>
        (change ⟨form, entries⟩ byDottedKey f path).map fun inner =>
          t.set key span (.array true (items.dropLast ++ [(last, inner.toValue)]))
      | _ => none
    | some _ => none

/-- Add the value of a dotted key.  The key must be new, and the table that it
    stands in must have come about by dotted keys, unless the key has no dot. -/
def assign (t : Table) (path : List Key) (key : Key) (span : Span) (value : Value) : Option Table :=
  t.change true
    (fun t =>
      if (t.form == .dotted) == path.isEmpty || (t.get? key.name).isSome then none
      else some (t.set key span value))
    path

/-- Add the table of a header.  One that is there must have come about on the
    way to the header of another. -/
def openTable (t : Table) (path : List Key) (key : Key) (span : Span) : Option Table :=
  t.change false
    (fun t =>
      match t.get? key.name with
      | none => some (t.set key span (.table .header []))
      | some (_, .table .implicit entries) => some (t.set key span (.table .header entries))
      | some _ => none)
    path

/-- Add a table to the array of a repeated header. -/
def openItem (t : Table) (path : List Key) (key : Key) (span : Span) : Option Table :=
  t.change false
    (fun t =>
      let item := (span, .table .header [])
      match t.get? key.name with
      | none => some (t.set key span (.array true [item]))
      | some (first, .array true items) => some (t.set key first (.array true (items ++ [item])))
      | some _ => none)
    path

end Table

end ProfileSync.Toml
