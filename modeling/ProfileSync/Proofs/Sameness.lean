/-
  When two sets of declared functions are the same.

  * `Declared.sameAs_iff_perm`: looking each function of one set up in the other, after
    comparing their sizes, tells whether they hold the same functions in some order;
  * `Declared.sameAs_iff`: that is, the same names on the same lines;
  * `Declared.sameAs_ofList`: so sets are compared by the first insertions of their
    names, whatever their order, and of all sets that are the same one order passes.
-/
import ProfileSync.Proofs.Changes
import ProfileSync.Proofs.Orderings

namespace ProfileSync

namespace Declared

section
variable {d d' : Declared}

theorem nodup_entries (d : Declared) : d.entries.Nodup := List.Nodup.of_map _ d.nodup

theorem mem_entries_iff {e : String × Option Nat} :
    e ∈ d.entries ↔ e.1 ∈ d.names ∧ d.lineOf e.1 = e.2 := by
  constructor
  · exact fun h => ⟨List.mem_map_of_mem h, lineOf_of_mem h⟩
  · rintro ⟨hname, hline⟩
    obtain ⟨e', he', heq⟩ := List.mem_map.1 hname
    rw [← heq, lineOf_of_mem he'] at hline
    rwa [← Prod.ext heq hline]

/-- **Sets are the same** just if they hold the same functions.  Functions are looked up
    one way only, but none occurs twice, so as many as are found are all that there
    are. -/
theorem sameAs_iff_perm : d.sameAs d' = true ↔ d.entries.Perm d'.entries := by
  have hfound : ∀ e : String × Option Nat,
      (d'.entries.lookup e.1 == some e.2) = true ↔ e ∈ d'.entries := fun e => by
    rw [beq_iff_eq, lookup_eq_some_iff_mem d'.nodup]
  rw [sameAs, Bool.and_eq_true, beq_iff_eq, List.all_eq_true]
  simp only [hfound]
  constructor
  · rintro ⟨hsize, hsub⟩
    have hsubperm : d.entries.Subperm d'.entries := List.subperm_of_subset d.nodup_entries hsub
    exact hsubperm.perm_of_length_le hsize.ge
  · exact fun hperm => ⟨hperm.length_eq, fun e he => hperm.subset he⟩

theorem equivalence_sameAs : Equivalence fun d d' : Declared => d.sameAs d' = true := by
  simp only [sameAs_iff_perm]
  exact ⟨fun d => .refl _, fun h => h.symm, fun h h' => h.trans h'⟩

/-- Sets are the same if they hold the same names, each on the same line. -/
theorem sameAs_iff : d.sameAs d' = true ↔
    (∀ name, name ∈ d.names ↔ name ∈ d'.names) ∧ ∀ name ∈ d.names, d.lineOf name = d'.lineOf name := by
  rw [sameAs_iff_perm]
  constructor
  · intro hperm
    refine ⟨fun name => (hperm.map Prod.fst).mem_iff, fun name hname => ?_⟩
    have hmem : (name, d.lineOf name) ∈ d.entries := mem_entries_iff.2 ⟨hname, rfl⟩
    exact (mem_entries_iff.1 (hperm.subset hmem)).2.symm
  · rintro ⟨hnames, hlines⟩
    refine (List.perm_ext_iff_of_nodup d.nodup_entries d'.nodup_entries).2 fun e => ?_
    rw [mem_entries_iff, mem_entries_iff, ← hnames]
    exact and_congr_right fun hname => by rw [hlines _ hname]

/-- Of two sets that are the same, both pass only if they are in the same order. -/
theorem checkCases_of_sameAs {expected : List ExpectedFunction} (hsame : d.sameAs d' = true)
    (hpasses : checkCases d expected = .ok ()) : checkCases d' expected = .ok () ↔ d' = d := by
  rw [checkCases_eq_ok_iff] at hpasses ⊢
  constructor
  · intro hpasses'
    have hself := eq_inOrder_of_perm (List.Perm.refl d.entries)
    rw [eq_inOrder_of_perm (sameAs_iff_perm.1 hsame).symm, hpasses', ← hpasses, ← hself]
  · rintro rfl
    exact hpasses

end

/-- An insertion of a name that came before makes no difference, whatever follows it. -/
theorem ofList_repeated {before after : List (String × Option Nat)} {e : String × Option Nat}
    (h : e.1 ∈ before.map Prod.fst) : ofList (before ++ e :: after) = ofList (before ++ after) := by
  induction after using List.reverseRecOn with
  | nil =>
    rw [List.append_nil, ofList_concat]
    exact insert_of_mem (by rwa [names_ofList, mem_firstNames]) e.2
  | append_singleton after e' ih =>
    rw [← List.cons_append, ← List.append_assoc, ofList_concat, ih, ← List.append_assoc,
      ofList_concat]

/-- **Sets of functions are compared** by their names and by the line in the first
    insertion of each, known or not, and not by their order.  This is an equivalence, and
    a repeated insertion makes no difference to it.  The order counts only where functions
    are expected: of the sets that are the same as one that passes, no other one does, so
    all that pass have one order of names. -/
theorem sameAs_ofList (inserted inserted' : List (String × Option Nat)) :
    ((ofList inserted).sameAs (ofList inserted') = true ↔
        (∀ name, name ∈ inserted.map Prod.fst ↔ name ∈ inserted'.map Prod.fst) ∧
          ∀ name ∈ inserted.map Prod.fst, firstLine inserted name = firstLine inserted' name) ∧
      (Equivalence fun d d' : Declared => d.sameAs d' = true) ∧
      (∀ before e after, inserted = before ++ e :: after → e.1 ∈ before.map Prod.fst →
        ∀ d, (ofList inserted).sameAs d = (ofList (before ++ after)).sameAs d) ∧
      ∀ expected, (ofList inserted).sameAs (ofList inserted') = true →
        checkCases (ofList inserted) expected = .ok () →
        (checkCases (ofList inserted') expected = .ok () ↔ ofList inserted' = ofList inserted) := by
  refine ⟨?_, equivalence_sameAs, ?_, fun expected => checkCases_of_sameAs⟩
  · rw [sameAs_iff]
    simp only [names_ofList, mem_firstNames, lineOf_ofList]
  · rintro before e after rfl hrepeated d
    rw [ofList_repeated hrepeated]

example : (ofList [("TestA", none), ("TestB", some 2), ("TestA", some 3)]).sameAs
    (ofList [("TestB", some 2), ("TestA", none)]) = true := by decide

end Declared

end ProfileSync
