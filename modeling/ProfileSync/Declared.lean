/-
  The functions that a test file declares: each name once, in the order of
  the first declarations, with the line of the first declaration if it is
  known.

  * `Declared.insert` adds a declaration; a name that is there already keeps
    its place and its line, and `Declared.insertNew` tells whether it is;
  * `Declared.sameAs` compares two sets regardless of order;
  * `Declared.names_insert` and `Declared.lookup_insert` say what an insertion
    changes.
-/
import ProfileSync.Text.Quoted

namespace ProfileSync

/-- The functions that a test file declares. -/
structure Declared where
  /-- Names and lines, in the order of the first declarations. -/
  entries : List (String × Option Nat)
  nodup : (entries.map Prod.fst).Nodup := by decide

namespace Declared

/-- No function at all. -/
def empty : Declared := { entries := [] }

instance : Inhabited Declared := ⟨empty⟩

/-- The names, in the order of the first declarations. -/
def names (d : Declared) : List String := d.entries.map Prod.fst

/-- Whether a name is declared. -/
def contains (d : Declared) (name : String) : Bool := d.names.contains name

/-- The number of functions. -/
def size (d : Declared) : Nat := d.entries.length

/-- Whether nothing is declared. -/
def isEmpty (d : Declared) : Bool := d.entries.isEmpty

/-- The line of the first declaration of a name. -/
def lineOf (d : Declared) (name : String) : Option Nat := (d.entries.lookup name).join

/-- Add a declaration at the end, unless the name is there already. -/
def insert (d : Declared) (name : String) (line : Option Nat) : Declared :=
  if h : name ∈ d.names then d
  else
    { entries := d.entries ++ [(name, line)]
      nodup := by
        rw [List.map_append, List.nodup_append]
        refine ⟨d.nodup, by simp, ?_⟩
        intro a ha b hb heq
        simp only [List.map_cons, List.map_nil, List.mem_singleton] at hb
        exact h (by rw [← hb, ← heq]; exact ha) }

/-- Add a declaration, and answer whether its name is new.  If it is not, nothing
    changes. -/
def insertNew (d : Declared) (name : String) (line : Option Nat) : Bool × Declared :=
  if d.contains name then (false, d) else (true, d.insert name line)

/-- Insert declarations one after the other. -/
def ofList (declarations : List (String × Option Nat)) : Declared :=
  declarations.foldl (fun d e => d.insert e.1 e.2) empty

/-- The functions with the given names, on unknown lines. -/
def ofNames (names : List String) : Declared :=
  ofList (names.map fun name => (name, none))

/-- Whether two sets hold the same names with the same lines, in whatever
    order. -/
def sameAs (d₁ d₂ : Declared) : Bool :=
  d₁.size == d₂.size && d₁.entries.all fun e => d₂.entries.lookup e.1 == some e.2

/-- The names in brackets, as a message shows them. -/
def render (d : Declared) : String :=
  "[" ++ ", ".intercalate (d.names.map quoted) ++ "]"

/-! ## What an insertion changes -/

/-- A new name comes after the others; a known one changes nothing. -/
theorem names_insert (d : Declared) (name : String) (line : Option Nat) :
    (d.insert name line).names = if name ∈ d.names then d.names else d.names ++ [name] := by
  unfold insert
  split <;> rename_i h
  · rfl
  · simp [names]

theorem entries_insert {d : Declared} {name : String} (h : name ∉ d.names) (line : Option Nat) :
    (d.insert name line).entries = d.entries ++ [(name, line)] := by
  rw [insert, dif_neg h]

theorem contains_iff {d : Declared} {name : String} : d.contains name = true ↔ name ∈ d.names := by
  simp [contains]

/-- A name that is there already changes nothing. -/
theorem insert_of_mem {d : Declared} {name : String} (h : name ∈ d.names) (line : Option Nat) :
    d.insert name line = d := by
  rw [insert, dif_pos h]

/-- The answer is left out by `insert`, which changes the set in the same way. -/
theorem insertNew_eq (d : Declared) (name : String) (line : Option Nat) :
    d.insertNew name line = (!d.contains name, d.insert name line) := by
  unfold insertNew
  split <;> rename_i h
  · rw [insert_of_mem (contains_iff.1 h), h]
    rfl
  · simp [h]

theorem nodup_names (d : Declared) : d.names.Nodup := d.nodup

theorem length_names (d : Declared) : d.names.length = d.size := by simp [names, size]

/-- A name has an entry iff it is among the names. -/
theorem lookup_isSome {d : Declared} {name : String} :
    (d.entries.lookup name).isSome ↔ name ∈ d.names := by
  simp [names]

/-- An insertion is seen at its own name only, and there only if the name is
    new. -/
theorem lookup_insert (d : Declared) (name : String) (line : Option Nat) (other : String) :
    (d.insert name line).entries.lookup other =
      (d.entries.lookup other).or ([(name, line)].lookup other) := by
  unfold insert
  split <;> rename_i h
  · by_cases heq : other = name
    · subst heq
      obtain ⟨l, hl⟩ := Option.isSome_iff_exists.1 (lookup_isSome.2 h)
      rw [hl, Option.some_or]
    · simp [List.lookup_cons, beq_false_of_ne heq]
  · rw [List.lookup_append]

end Declared

end ProfileSync
