/-
  The tree of a file system.

  * `Entry.WellFormed`: in each directory the names are those that entries can
    have, and none occurs twice;
  * `Entry.at?_append`: locations are gone through name by name;
  * `Entry.finite_locations`: there are finitely many of them;
  * `FileSystem.locate_eq`: a path is followed name by name, and
    `FileSystem.find_wellFormed`: what it leads to is well-formed.
-/
import Mathlib.Data.Set.Finite.Lattice
import ProfileSync.Proofs.Paths

namespace ProfileSync

/-! ## Entries -/

theorem lookup_eq_some_iff_mem {κ α : Type} [BEq κ] [LawfulBEq κ] {entries : List (κ × α)}
    {name : κ} {a : α} (h : (entries.map Prod.fst).Nodup) :
    entries.lookup name = some a ↔ (name, a) ∈ entries := by
  induction entries with
  | nil => simp
  | cons e entries ih =>
    obtain ⟨key, value⟩ := e
    obtain ⟨hnew, hnodup⟩ := List.nodup_cons.1 (List.map_cons ▸ h)
    rw [List.lookup_cons, List.mem_cons]
    by_cases heq : name = key
    · subst heq
      have hnot : (name, a) ∉ entries := fun hmem =>
        hnew (List.mem_map.2 ⟨_, hmem, rfl⟩)
      simp [hnot, eq_comm]
    · rw [beq_false_of_ne heq, ih hnodup]
      simp [heq]

namespace Entry

/-- Whether an entry is a directory. -/
def IsDirectory : Entry → Prop
  | .directory _ => True
  | _ => False

/-- Entries are treated after all entries in them. -/
@[elab_as_elim, induction_eliminator]
theorem inductionOn {motive : Entry → Prop} (file : ∀ text, motive (.file text))
    (link : ∀ path, motive (.link path))
    (directory : ∀ entries, (∀ e ∈ entries, motive e.2) → motive (.directory entries)) :
    ∀ e, motive e
  | .file text => file text
  | .link path => link path
  | .directory entries => directory entries fun e he =>
      have : sizeOf e.2 < 1 + sizeOf entries := by
        have hlt := List.sizeOf_lt_of_mem he
        have hpair : sizeOf e = 1 + sizeOf e.1 + sizeOf e.2 := by cases e; rfl
        omega
      inductionOn file link directory e.2
termination_by e => sizeOf e

/-- An entry in which each directory has names that can be taken apart from each
    other, and only such as entries can have. -/
inductive WellFormed : Entry → Prop
  | file {text} : WellFormed (.file text)
  | link {path} : WellFormed (.link path)
  | directory {entries} : (entries.map Prod.fst).Nodup → (∀ e ∈ entries, ValidName e.1) →
      (∀ e ∈ entries, WellFormed e.2) → WellFormed (.directory entries)

/-! ## Locations -/

@[simp] theorem at?_nil (e : Entry) : e.at? [] = some e := by cases e <;> rfl

@[simp] theorem at?_directory (entries : List (String × Entry)) (name : String) (l : Location) :
    (Entry.directory entries).at? (name :: l) = (entries.lookup name).bind (·.at? l) := by
  rw [at?]
  cases entries.lookup name <;> rfl

theorem at?_of_not_directory {e : Entry} (h : ¬ e.IsDirectory) (name : String) (l : Location) :
    e.at? (name :: l) = none := by
  cases e with
  | file text => rfl
  | link path => rfl
  | directory entries => exact absurd trivial h

theorem at?_append (e : Entry) (l l' : Location) : e.at? (l ++ l') = (e.at? l).bind (·.at? l') := by
  induction l generalizing e with
  | nil => simp
  | cons name l ih =>
    rw [List.cons_append]
    cases e with
    | file text => rfl
    | link path => rfl
    | directory entries =>
      rw [at?_directory, at?_directory]
      cases entries.lookup name with
      | none => rfl
      | some e => exact ih e

theorem WellFormed.at? {e e' : Entry} {l : Location} (h : e.WellFormed) (hat : e.at? l = some e') :
    e'.WellFormed ∧ ∀ name ∈ l, ValidName name := by
  induction l generalizing e with
  | nil =>
    rw [at?_nil] at hat
    cases hat
    exact ⟨h, by simp⟩
  | cons name l ih =>
    cases h with
    | file => cases hat
    | link => cases hat
    | @directory entries hnodup hvalid hinner =>
      rw [at?_directory] at hat
      obtain ⟨inner, hlookup, hat⟩ := Option.bind_eq_some_iff.1 hat
      have hmem := (lookup_eq_some_iff_mem hnodup).1 hlookup
      obtain ⟨hwell, hnames⟩ := ih (hinner _ hmem) hat
      exact ⟨hwell, List.forall_mem_cons.2 ⟨hvalid _ hmem, hnames⟩⟩

/-- Below an entry there are finitely many locations. -/
theorem finite_locations (e : Entry) : {l | (e.at? l).isSome}.Finite := by
  induction e with
  | file text =>
    refine (Set.finite_singleton []).subset fun l hl => ?_
    cases l with
    | nil => rfl
    | cons name l => cases hl
  | link path =>
    refine (Set.finite_singleton []).subset fun l hl => ?_
    cases l with
    | nil => rfl
    | cons name l => cases hl
  | directory entries ih =>
    have hfinite : (⋃ e ∈ {e | e ∈ entries}, (e.1 :: ·) '' {l | (e.2.at? l).isSome}).Finite :=
      Set.Finite.biUnion (List.finite_toSet entries) fun e he => (ih e he).image _
    refine (hfinite.insert []).subset fun l hl => ?_
    cases l with
    | nil => exact Set.mem_insert _ _
    | cons name l =>
      rw [Set.mem_ofPred_eq, at?_directory] at hl
      obtain ⟨e', he'⟩ := Option.isSome_iff_exists.1 hl
      obtain ⟨e, hlookup, hat⟩ := Option.bind_eq_some_iff.1 he'
      obtain ⟨front, back, hentries, -⟩ := List.lookup_eq_some_iff.1 hlookup
      refine Set.mem_insert_of_mem _ (Set.mem_biUnion (x := (name, e)) (by simp [hentries]) ?_)
      exact ⟨l, by simp [hat], rfl⟩

end Entry

/-! ## Paths -/

namespace FileSystem

variable {fs : FileSystem} {through : Bool} {path : String} {e : Entry}

/-- A path that can be looked up is followed name by name. -/
theorem locate_eq (hempty : path ≠ "") (hnull : '\x00' ∉ path.toList)
    (hlength : path.utf8ByteSize ≤ maxPathLength) :
    fs.locate through path =
      fs.locateFrom through maxLinks (pathStart fs.workingDirectory path) (pathNames path) := by
  simp [locate, hempty, hnull, Nat.not_lt.2 hlength]

theorem locate_of_null (hempty : path ≠ "") (hnull : '\x00' ∈ path.toList) :
    fs.locate through path = .error .nullInPath := by
  simp [locate, hempty, hnull]

theorem locate_of_long (hnull : '\x00' ∉ path.toList)
    (hlong : maxPathLength < path.utf8ByteSize) :
    fs.locate through path = .error .nameTooLong := by
  have hempty : path ≠ "" := by
    rintro rfl
    exact absurd hlong (by decide)
  simp [locate, hempty, hnull, hlong]

/-- What can be read of a path is what the path leads to. -/
theorem find_of_openEntry (h : fs.openEntry path = .ok e) : fs.find path = .ok e := by
  unfold openEntry at h
  unfold find
  cases hlocate : fs.locate true path with
  | error fault => rw [hlocate] at h; cases h
  | ok here =>
    rw [hlocate] at h
    dsimp only at h ⊢
    split at h
    · cases h
    · cases h
    · rename_i hat _
      cases h
      rw [hat]

theorem find_wellFormed (hwell : fs.root.WellFormed) (h : fs.find path = .ok e) :
    e.WellFormed := by
  unfold find at h
  split at h
  · cases h
  · split at h
    · rename_i hat
      cases h
      exact (hwell.at? hat).1
    · cases h

end FileSystem

end ProfileSync
