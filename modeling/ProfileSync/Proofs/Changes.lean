/-
  Sets of declared functions through changes of every kind.

  * `Declared.Change`: an insertion, a set built anew from names, or a set that is
    emptied;
  * `Declared.insertions`: what has been inserted since the set was last built anew
    or emptied, the names that it was built from included;
  * `Declared.run_eq`: changes leave the set that these insertions build;
  * `Declared.run_holds`: so its names are those that were inserted, in the order
    and with the lines of their first insertions.
-/
import Mathlib.Data.Finset.Card
import ProfileSync.Proofs.Declared

namespace ProfileSync

/-! ## Places of first occurrences -/

/-- First occurrences are in the order of their places. -/
theorem pairwise_idxOf_eraseDups {α : Type} [BEq α] [LawfulBEq α] (l : List α) :
    l.eraseDups.Pairwise fun a b => l.idxOf a < l.idxOf b := by
  induction l using List.reverseRecOn with
  | nil => exact .nil
  | append_singleton l a ih =>
    -- what stands in `l` keeps its place
    have hkeep : (l.eraseDups).Pairwise fun b c => (l ++ [a]).idxOf b < (l ++ [a]).idxOf c := by
      refine ih.imp_of_mem fun {b c} hb hc hlt => ?_
      rwa [List.idxOf_append_of_mem (List.mem_eraseDups.1 hb),
        List.idxOf_append_of_mem (List.mem_eraseDups.1 hc)]
    rw [eraseDups_concat]
    split <;> rename_i ha
    · exact hkeep
    · refine List.pairwise_append.2 ⟨hkeep, List.pairwise_singleton _ _, fun b hb c hc => ?_⟩
      have hmem : b ∈ l := List.mem_eraseDups.1 hb
      rw [List.mem_singleton.1 hc, List.idxOf_append_of_mem hmem, List.idxOf_append_of_notMem ha]
      exact Nat.lt_add_right _ (List.idxOf_lt_length_iff.2 hmem)

/-- There are as many first occurrences as different members. -/
theorem length_eraseDups_eq_card {α : Type} [DecidableEq α] (l : List α) :
    l.eraseDups.length = l.toFinset.card := by
  have hnodup : l.eraseDups.Nodup := (pairwise_idxOf_eraseDups l).imp fun {a b} hlt heq => by
    rw [heq] at hlt
    exact Nat.lt_irrefl _ hlt
  have hset : l.eraseDups.toFinset = l.toFinset := by
    ext a
    rw [List.mem_toFinset, List.mem_toFinset, List.mem_eraseDups]
  rw [← hset, List.toFinset_card_of_nodup hnodup]

/-! ## Lines of first occurrences -/

/-- The line in the declaration of a name that has none before it. -/
theorem firstLine_append {before : List (String × Option Nat)} {name : String}
    (h : name ∉ before.map Prod.fst) (line : Option Nat) (after : List (String × Option Nat)) :
    firstLine (before ++ (name, line) :: after) name = line := by
  have hnone : before.lookup name = none := by
    rw [List.lookup_eq_none_iff]
    intro e he
    have hne : name ≠ e.1 := fun heq => h (heq ▸ List.mem_map_of_mem he)
    simpa using hne
  rw [firstLine, List.lookup_append, hnone, Option.none_or, List.lookup_cons_self]
  rfl

theorem firstLine_of_notMem {declarations : List (String × Option Nat)} {name : String}
    (h : name ∉ declarations.map Prod.fst) : firstLine declarations name = none := by
  have hnone : declarations.lookup name = none := by
    rw [← Option.not_isSome_iff_eq_none]
    simpa using h
  rw [firstLine, hnone]
  rfl

namespace Declared

/-! ## What a set holds -/

/-- A set holds what has been inserted: each name once, at the place and with the
    line of its first insertion, and a name is new only as long as it has not been
    inserted. -/
structure Holds (d : Declared) (inserted : List (String × Option Nat)) : Prop where
  nodup : d.names.Nodup
  ordered : d.names.Pairwise fun a b =>
    (inserted.map Prod.fst).idxOf a < (inserted.map Prod.fst).idxOf b
  size : d.size = (inserted.map Prod.fst).toFinset.card
  contains : ∀ name, d.contains name = true ↔ name ∈ inserted.map Prod.fst
  lineOf_first : ∀ before name line after, inserted = before ++ (name, line) :: after →
    name ∉ before.map Prod.fst → d.lineOf name = line
  lineOf_other : ∀ name, name ∉ inserted.map Prod.fst → d.lineOf name = none
  insertNew_true : ∀ name line, (d.insertNew name line).1 = true ↔ name ∉ inserted.map Prod.fst
  insertNew_false : ∀ name line, (d.insertNew name line).1 = false → (d.insertNew name line).2 = d

theorem holds_ofList (inserted : List (String × Option Nat)) :
    (ofList inserted).Holds inserted := by
  have hnames : (ofList inserted).names = (inserted.map Prod.fst).eraseDups := names_ofList inserted
  have hmem : ∀ name, (ofList inserted).contains name = true ↔ name ∈ inserted.map Prod.fst := by
    intro name
    rw [contains_iff, hnames, List.mem_eraseDups]
  constructor
  case nodup => exact (ofList inserted).nodup
  case ordered =>
    rw [hnames]
    exact pairwise_idxOf_eraseDups _
  case size => rw [← length_names, hnames, length_eraseDups_eq_card]
  case contains => exact hmem
  case lineOf_first =>
    intro before name line after heq hfirst
    rw [lineOf_ofList, heq, firstLine_append hfirst]
  case lineOf_other =>
    intro name hname
    rw [lineOf_ofList, firstLine_of_notMem hname]
  case insertNew_true =>
    intro name line
    rw [insertNew_eq, Bool.not_eq_true', ← hmem, Bool.not_eq_true]
  case insertNew_false =>
    intro name line hfalse
    rw [insertNew_eq] at hfalse ⊢
    exact insert_of_mem (contains_iff.1 (by simpa using hfalse)) line

/-! ## Changes one after the other -/

/-- A change of a set. -/
inductive Change where
  | insert (name : String) (line : Option Nat)
  /-- A new set from names, whose lines are not known. -/
  | rebuild (names : List String)
  | clear

namespace Change

/-- The set after a change. -/
def apply (d : Declared) : Change → Declared
  | insert name line => (d.insertNew name line).2
  | rebuild names => .ofNames names
  | clear => .empty

/-- What has been inserted after a change, if `inserted` was so before it. -/
def record (inserted : List (String × Option Nat)) : Change → List (String × Option Nat)
  | insert name line => inserted ++ [(name, line)]
  | rebuild names => names.map fun name => (name, none)
  | clear => []

/-- **A change** leaves the set that its record builds. -/
theorem apply_ofList (change : Change) (inserted : List (String × Option Nat)) :
    change.apply (ofList inserted) = ofList (change.record inserted) := by
  cases change with
  | insert name line => rw [apply, record, insertNew_eq, ofList_concat]
  | rebuild names => rfl
  | clear => rfl

end Change

/-- The set that changes leave of the empty one. -/
def run (changes : List Change) : Declared := changes.foldl Change.apply .empty

/-- What has been inserted since the set was last built anew or emptied. -/
def insertions (changes : List Change) : List (String × Option Nat) :=
  changes.foldl Change.record []

theorem run_eq (changes : List Change) : run changes = ofList (insertions changes) := by
  induction changes using List.reverseRecOn with
  | nil => rfl
  | append_singleton changes change ih =>
    rw [run, List.foldl_concat, ← run, ih, Change.apply_ofList, insertions, insertions,
      List.foldl_concat]

/-- **A set holds what was inserted** since it was last built anew or emptied,
    whatever the changes. -/
theorem run_holds (changes : List Change) : (run changes).Holds (insertions changes) := by
  rw [run_eq]
  exact holds_ofList (insertions changes)

/-- A line that was not known when a name was inserted is not learned later. -/
theorem run_holds_unknown_line :
    let changes : List Change := [.insert "TestA" (some 3), .clear, .rebuild ["TestB", "TestB"],
      .insert "TestA" (some 7), .insert "TestC" none, .insert "TestC" (some 9)]
    (run changes).lineOf "TestA" = some 7 ∧ (run changes).lineOf "TestC" = none ∧
      ((run changes).insertNew "TestC" (some 9)).1 = false ∧
      ((run changes).insertNew "TestC" (some 9)).2 = run changes := by
  intro changes
  have h := run_holds changes
  have hknown : ((run changes).insertNew "TestC" (some 9)).1 = false := by
    rw [← Bool.not_eq_true, h.insertNew_true]
    decide
  exact ⟨h.lineOf_first [("TestB", none), ("TestB", none)] _ _ _ rfl (by decide),
    h.lineOf_first [("TestB", none), ("TestB", none), ("TestA", some 7)] _ _ _ rfl (by decide),
    hknown, h.insertNew_false _ _ hknown⟩

end Declared

end ProfileSync
