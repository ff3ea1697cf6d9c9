/-
  The tests and benchmarks of a source file, in the order in which they are met.

  * `testsAmong` keeps the functions that are tests or benchmarks;
  * `SourceFile.declared_eq_ofList`: the set of a file is built by inserting
    them one after the other;
  * `SourceFile.names_declared`: so it holds each name where it is met first.
-/
import ProfileSync.Proofs.Declared
import ProfileSync.Source.Tree

namespace ProfileSync

/-! ## Names of tests and benchmarks -/

theorem isTestName_stem_append (kind : CaseKind) (name : String) :
    isTestName (kind.stem ++ name) = true := by
  have hstem : kind.stem.toList.isPrefixOf (kind.stem ++ name).toList = true := by
    rw [String.toList_append, List.isPrefixOf_iff_prefix]
    exact List.prefix_append _ _
  unfold isTestName
  cases kind with
  | test => rw [hstem, Bool.true_or]
  | benchmark => rw [hstem, Bool.or_true]

/-- The tests and benchmarks among functions. -/
def testsAmong (fs : List (String × Nat)) : List (String × Nat) :=
  fs.filter fun f => isTestName f.1

theorem testsAmong_append (fs gs : List (String × Nat)) :
    testsAmong (fs ++ gs) = testsAmong fs ++ testsAmong gs :=
  List.filter_append ..

theorem testsAmong_cons_of_test {f : String × Nat} (h : isTestName f.1 = true)
    (fs : List (String × Nat)) : testsAmong (f :: fs) = f :: testsAmong fs :=
  List.filter_cons_of_pos h

theorem testsAmong_eq_nil {fs : List (String × Nat)} (h : ∀ f ∈ fs, isTestName f.1 = false) :
    testsAmong fs = [] :=
  List.filter_eq_nil_iff.2 fun f hf => by simp [h f hf]

/-! ## The set of a file -/

namespace SourceFile

/-- **The set of a file** comes from inserting its tests and benchmarks. -/
theorem declared_eq_ofList (file : SourceFile) :
    file.declared = .ofList ((testsAmong file.functions).map fun f => (f.1, some f.2)) := by
  rw [Declared.ofList, List.foldl_map, testsAmong, List.foldl_filter]
  rfl

theorem names_declared (file : SourceFile) :
    file.declared.names = ((testsAmong file.functions).map Prod.fst).eraseDups := by
  rw [declared_eq_ofList, Declared.names_ofList, firstNames, List.map_map]
  rfl

end SourceFile

end ProfileSync
