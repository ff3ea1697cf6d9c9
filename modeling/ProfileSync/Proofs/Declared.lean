/-
  Sets of declared functions as their insertions leave them.

  * `firstNames` and `firstLine` read the names and the lines off the
    insertions: a name counts where it occurs first, with the line that it has
    there;
  * `Declared.names_ofList` and `Declared.lineOf_ofList`: the set that the
    insertions build holds just these names and lines;
  * `length_eraseDups_lt`: repetitions make the set smaller.
-/
import Mathlib.Data.List.Induction
import Mathlib.Data.List.Nodup
import ProfileSync.Declared

namespace ProfileSync

/-! ## First occurrences -/

section
variable {α : Type} [BEq α] [LawfulBEq α]

theorem eraseDups_concat (l : List α) (a : α) :
    (l ++ [a]).eraseDups = if a ∈ l then l.eraseDups else l.eraseDups ++ [a] := by
  rw [List.eraseDups_append]
  split <;> rename_i h
  · simp [List.removeAll, h]
  · simp [List.removeAll, h, List.eraseDups_cons]

theorem eraseDups_sublist (l : List α) : l.eraseDups.Sublist l := by
  induction l using List.reverseRecOn with
  | nil => exact List.Sublist.refl _
  | append_singleton l a ih =>
    rw [eraseDups_concat]
    split
    · exact ih.trans (List.sublist_append_left l [a])
    · exact ih.append (List.Sublist.refl [a])

theorem eraseDups_eq_self_iff {l : List α} : l.eraseDups = l ↔ l.Nodup := by
  induction l using List.reverseRecOn with
  | nil => simp
  | append_singleton l a ih =>
    rw [eraseDups_concat, List.nodup_append_comm, List.singleton_append, List.nodup_cons, ← ih]
    split <;> rename_i h
    · -- the last element is a repetition, so the list without it is too long to be equal
      have hlen := (eraseDups_sublist l).length_le
      have hne : l.eraseDups ≠ l ++ [a] := by
        intro heq
        rw [heq, List.length_append, List.length_singleton] at hlen
        omega
      simp [hne, h]
    · simp [h]

/-- Leaving out repetitions makes a list shorter if it has any. -/
theorem length_eraseDups_lt {l : List α} (h : ¬ l.Nodup) : l.eraseDups.length < l.length := by
  refine Nat.lt_of_le_of_ne (eraseDups_sublist l).length_le fun heq => h ?_
  exact eraseDups_eq_self_iff.1 ((eraseDups_sublist l).eq_of_length heq)

end

/-! ## Insertions one after the other -/

/-- The names among declarations, in the order in which they occur first. -/
def firstNames (declarations : List (String × Option Nat)) : List String :=
  (declarations.map Prod.fst).eraseDups

/-- The line in the first declaration of a name, if there is one and if it is
    known. -/
def firstLine (declarations : List (String × Option Nat)) (name : String) : Option Nat :=
  (declarations.lookup name).join

theorem map_fst_onLines (names : List String) (lineOf : String → Option Nat) :
    (names.map fun name => (name, lineOf name)).map Prod.fst = names := by
  simp [List.map_map, Function.comp_def]

theorem mem_firstNames {declarations : List (String × Option Nat)} {name : String} :
    name ∈ firstNames declarations ↔ name ∈ declarations.map Prod.fst :=
  List.mem_eraseDups

theorem firstNames_concat (declarations : List (String × Option Nat)) (e : String × Option Nat) :
    firstNames (declarations ++ [e]) =
      if e.1 ∈ firstNames declarations then firstNames declarations
      else firstNames declarations ++ [e.1] := by
  simp only [mem_firstNames]
  rw [firstNames, List.map_append, List.map_singleton, eraseDups_concat]
  rfl

namespace Declared

theorem ofList_concat (declarations : List (String × Option Nat)) (e : String × Option Nat) :
    ofList (declarations ++ [e]) = (ofList declarations).insert e.1 e.2 := by
  simp [ofList]

/-- **The names** of a set are the first occurrences among its insertions. -/
theorem names_ofList (declarations : List (String × Option Nat)) :
    (ofList declarations).names = firstNames declarations := by
  induction declarations using List.reverseRecOn with
  | nil => rfl
  | append_singleton declarations e ih =>
    rw [ofList_concat, names_insert, ih, firstNames_concat]

/-- Declarations of different names are kept as they are. -/
theorem entries_ofList {declarations : List (String × Option Nat)}
    (h : (declarations.map Prod.fst).Nodup) : (ofList declarations).entries = declarations := by
  induction declarations using List.reverseRecOn with
  | nil => rfl
  | append_singleton declarations e ih =>
    rw [List.map_append, List.map_singleton, List.nodup_append_comm, List.singleton_append,
      List.nodup_cons] at h
    have hnew : e.1 ∉ (ofList declarations).names := by
      rw [names_ofList, mem_firstNames]
      exact h.1
    rw [ofList_concat, entries_insert hnew, ih h.2]

/-- A name is looked up in a set as in the list of its insertions. -/
theorem lookup_ofList (declarations : List (String × Option Nat)) (name : String) :
    (ofList declarations).entries.lookup name = declarations.lookup name := by
  induction declarations using List.reverseRecOn with
  | nil => rfl
  | append_singleton declarations e ih =>
    rw [ofList_concat, lookup_insert, ih, List.lookup_append]

/-- **The line** of a name is the one that its first insertion gave. -/
theorem lineOf_ofList (declarations : List (String × Option Nat)) (name : String) :
    (ofList declarations).lineOf name = firstLine declarations name := by
  rw [lineOf, lookup_ofList, firstLine]

end Declared

end ProfileSync
