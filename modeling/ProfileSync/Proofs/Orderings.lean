/-
  Declared functions in other orders.

  * `Declared.inOrder` declares functions in a given order and on given lines;
  * `Declared.perm_entries_iff`: the sets that hold the functions of a set are those
    that declare its names in some order, each on its line;
  * `exists_stray`: if an expected function is missing, some declared one is not
    expected;
  * `checkCases_of_perm`: if the expected functions are the declared ones in some
    order, the order is all that can be reported;
  * `checkCases_orderings` adds that exactly one order passes.
-/
import Mathlib.Data.List.Perm.Subperm
import ProfileSync.Proofs.Comparison
import ProfileSync.Proofs.Files

namespace ProfileSync

namespace Declared

/-! ## Functions in a given order -/

/-- The set that declares names in the order of a list, each on the line that it is
    given. -/
def inOrder (names : List String) (lineOf : String → Option Nat) : Declared :=
  ofList (names.map fun name => (name, lineOf name))

section
variable {names : List String} (h : names.Nodup) (lineOf : String → Option Nat)
include h

theorem entries_inOrder :
    (inOrder names lineOf).entries = names.map fun name => (name, lineOf name) :=
  entries_ofList (by rwa [map_fst_onLines])

theorem names_inOrder : (inOrder names lineOf).names = names := by
  rw [Declared.names, entries_inOrder h lineOf, map_fst_onLines]

end

/-! ## Sets that hold the same functions -/

variable {d d' : Declared}

theorem eq_of_entries (h : d.entries = d'.entries) : d = d' := by
  cases d
  cases d'
  cases h
  rfl

theorem lineOf_of_mem {e : String × Option Nat} (h : e ∈ d.entries) : d.lineOf e.1 = e.2 := by
  rw [lineOf, (lookup_eq_some_iff_mem d.nodup).2 h]
  rfl

/-- A set that holds the functions of another declares them on the same lines. -/
theorem eq_inOrder_of_perm (h : d'.entries.Perm d.entries) : d' = inOrder d'.names d.lineOf := by
  apply eq_of_entries
  rw [entries_inOrder d'.nodup_names, names, List.map_map]
  have hlines : ∀ e ∈ d'.entries, ((fun name => (name, d.lineOf name)) ∘ Prod.fst) e = e :=
    fun e he => Prod.ext rfl (lineOf_of_mem (h.subset he))
  rw [List.map_congr_left hlines, List.map_id']

/-- **The sets that hold the functions of a set** declare its names in some order,
    each on its line. -/
theorem perm_entries_iff : d'.entries.Perm d.entries ↔
    ∃ names, names.Perm d.names ∧ d' = inOrder names d.lineOf := by
  constructor
  · exact fun h => ⟨d'.names, h.map Prod.fst, eq_inOrder_of_perm h⟩
  · rintro ⟨names, hperm, rfl⟩
    have hself := congrArg entries (eq_inOrder_of_perm (List.Perm.refl d.entries))
    rw [entries_inOrder d.nodup_names] at hself
    rw [entries_inOrder (hperm.nodup_iff.2 d.nodup_names), hself]
    exact hperm.map _

end Declared

/-! ## Comparing them -/

section
variable {d : Declared} {expected : List ExpectedFunction}

/-- **A missing function leaves a stray one**: there are as many declared functions as
    expected ones, and no two of them are the same, so they cannot all be expected. -/
theorem exists_stray {name : String} {position : Nat}
    (h : checkCases d expected = .error (.missing name position)) :
    ∃ stray ∈ d.names, stray ∉ expected.map (·.name) := by
  have hcompares := compares_checkCases d expected
  rw [h] at hcompares
  cases hcompares with
  | @missing common a as f fs hlen _ hexpected hf =>
    by_contra hnone
    push Not at hnone
    have hsub : d.names.Subperm (expected.map (·.name)) := List.subperm_of_subset d.nodup_names hnone
    have hperm : d.names.Perm (expected.map (·.name)) :=
      hsub.perm_of_length_le (by rw [List.length_map, hlen])
    have hmem : f.name ∈ expected.map (·.name) := List.mem_map_of_mem (by simp [hexpected])
    exact hf (hperm.mem_iff.2 hmem)

/-- Functions that are the expected ones in some order can only be misplaced. -/
theorem checkCases_of_perm (h : (expected.map (·.name)).Perm d.names) :
    checkCases d expected = .ok () ∨ ∃ actual name position line,
      checkCases d expected = .error (.misplaced actual name position line) := by
  have hcompares := compares_checkCases d expected
  generalize checkCases d expected = result at hcompares ⊢
  cases hcompares with
  | same _ => exact .inl rfl
  | count hlen => exact absurd (by simpa using h.length_eq.symm) hlen
  | @missing common a as f fs _ _ hexpected hf =>
    have hmem : f.name ∈ expected.map (·.name) := List.mem_map_of_mem (by simp [hexpected])
    exact absurd (h.subset hmem) hf
  | misplaced _ _ _ _ _ => exact .inr ⟨_, _, _, _, rfl⟩

end

/-- **A missing function shows that another is not expected.**  If the expected
    functions are the declared ones in some order, neither their number nor a missing
    function is reported, and of all orders of the declared functions exactly one
    passes. -/
theorem checkCases_orderings (declarations : List (String × Option Nat))
    (expected : List ExpectedFunction) :
    let d := Declared.ofList declarations
    let wanted := expected.map (·.name)
    (∀ name position, checkCases d expected = .error (.missing name position) →
        ∃ stray ∈ d.names, stray ∉ wanted) ∧
      (wanted.Perm d.names →
        (∀ inFile inProfile, checkCases d expected ≠ .error (.count inFile inProfile)) ∧
        (∀ name position, checkCases d expected ≠ .error (.missing name position)) ∧
        ∃! d' : Declared, d'.entries.Perm d.entries ∧ checkCases d' expected = .ok ()) := by
  intro d wanted
  refine ⟨fun name position => exists_stray, fun hperm => ⟨?_, ?_, ?_⟩⟩
  · intro inFile inProfile hcount
    obtain hok | ⟨_, _, _, _, hmisplaced⟩ := checkCases_of_perm hperm
    · cases hcount.symm.trans hok
    · cases hcount.symm.trans hmisplaced
  · intro name position hmissing
    obtain hok | ⟨_, _, _, _, hmisplaced⟩ := checkCases_of_perm hperm
    · cases hmissing.symm.trans hok
    · cases hmissing.symm.trans hmisplaced
  · have hnodup : wanted.Nodup := hperm.nodup_iff.2 d.nodup_names
    have hnames := Declared.names_inOrder hnodup d.lineOf
    refine ⟨.inOrder wanted d.lineOf, ⟨?_, checkCases_of_names_eq hnames⟩, ?_⟩
    · exact Declared.perm_entries_iff.2 ⟨wanted, hperm, rfl⟩
    · rintro d' ⟨hsame, hok⟩
      rw [Declared.eq_inOrder_of_perm hsame, checkCases_eq_ok_iff.1 hok]

/-- A function is missing although another is expected twice, and two functions pass in
    one order, on the lines that they have. -/
theorem checkCases_orderings_swapped :
    let renamed : List (String × Option Nat) := [("TestA", some 1), ("TestB", none), ("TestD", some 4)]
    let doubled : List ExpectedFunction :=
      [⟨"TestA", .test, ""⟩, ⟨"TestC", .test, ""⟩, ⟨"TestA", .test, ""⟩]
    let swapped : List (String × Option Nat) := [("TestB", some 2), ("TestA", none), ("TestB", some 8)]
    let expected : List ExpectedFunction := [⟨"TestA", .test, ""⟩, ⟨"TestB", .test, ""⟩]
    checkCases (.ofList renamed) doubled = .error (.missing "TestC" 2) ∧
      (∃ stray ∈ (Declared.ofList renamed).names, stray ∉ doubled.map (·.name)) ∧
      (expected.map (·.name)).Perm (Declared.ofList swapped).names ∧
      ∃! d' : Declared, d'.entries.Perm [("TestB", some 2), ("TestA", none)] ∧
        checkCases d' expected = .ok () := by
  intro renamed doubled swapped expected
  have hmissing : checkCases (.ofList renamed) doubled = .error (.missing "TestC" 2) := by decide
  have hperm : (expected.map (·.name)).Perm (Declared.ofList swapped).names := by decide
  exact ⟨hmissing, (checkCases_orderings renamed doubled).1 _ _ hmissing, hperm,
    ((checkCases_orderings swapped expected).2 hperm).2.2⟩

end ProfileSync
