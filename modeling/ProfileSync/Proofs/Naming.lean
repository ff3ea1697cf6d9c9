/-
  The names of tests and benchmarks, as they are made and as they are told from other
  names.

  * `functionName` puts the stem of a kind before a name, and `splitName?` takes it
    away;
  * `functionName_bijOn`: each name that is that of a test or a benchmark is made in
    one way;
  * `Profile.ofFunctions` is the profile that expects functions with given names;
  * `expectedNames_determined`: so the functions of a source file have one profile, but
    for its categories and for how its kinds are written.
-/
import Mathlib.Data.Set.Function
import ProfileSync.Proofs.Comparison
import ProfileSync.Proofs.Tests
import ProfileSync.Source.File

namespace ProfileSync

/-! ## Making names and taking them apart -/

/-- The name of the function of a kind and a name. -/
def functionName (x : CaseKind × String) : String := x.1.stem ++ x.2

/-- The kind and the name that a function is named for. -/
def splitName? (name : String) : Option (CaseKind × String) :=
  match name.toList.dropPrefix? CaseKind.test.stem.toList with
  | some rest => some (.test, String.ofList rest)
  | none => (name.toList.dropPrefix? CaseKind.benchmark.stem.toList).map fun rest =>
      (.benchmark, String.ofList rest)

theorem dropPrefix?_stem_eq_some_iff {kind : CaseKind} {name : String} {rest : List Char} :
    name.toList.dropPrefix? kind.stem.toList = some rest ↔
      functionName (kind, String.ofList rest) = name := by
  rw [List.dropPrefix?_eq_some_iff, functionName, ← String.toList_inj, String.toList_append,
    String.toList_ofList]
  constructor
  · rintro ⟨front, hname, hfront⟩
    rw [hname, eq_of_beq hfront]
  · exact fun h => ⟨_, h.symm, beq_self_eq_true _⟩

/-- Stems of different kinds begin with different letters, so no name has both. -/
theorem functionName_injective : Function.Injective functionName := by
  rintro ⟨kind, name⟩ ⟨kind', name'⟩ h
  have hlist : kind.stem.toList ++ name.toList = kind'.stem.toList ++ name'.toList := by
    rw [← String.toList_append, ← String.toList_append]
    exact congrArg String.toList h
  have hletter : ∀ (kind : CaseKind) (cs : List Char),
      (kind.stem.toList ++ cs).head? = kind.stem.toList.head? := fun kind cs => by
    cases kind <;> rfl
  have hletters : ∀ kind kind' : CaseKind, kind.stem.toList.head? = kind'.stem.toList.head? →
      kind = kind' := fun kind kind' => by
    cases kind <;> cases kind' <;> decide
  obtain rfl := hletters kind kind' (by rw [← hletter kind name.toList, hlist, hletter])
  rw [String.toList_inj.1 (List.append_cancel_left hlist)]

/-- Some stem can be taken away from a name just if it is that of a test or a
    benchmark. -/
theorem isSome_splitName? (name : String) : (splitName? name).isSome = isTestName name := by
  have hstem : ∀ kind : CaseKind, (name.toList.dropPrefix? kind.stem.toList).isSome =
      kind.stem.toList.isPrefixOf name.toList := by
    intro kind
    rw [Bool.eq_iff_iff, Option.isSome_iff_exists, List.isPrefixOf_iff_prefix]
    simp only [List.dropPrefix?_eq_some_iff]
    constructor
    · rintro ⟨rest, front, hname, hfront⟩
      exact ⟨rest, by rw [hname, eq_of_beq hfront]⟩
    · rintro ⟨rest, hname⟩
      exact ⟨rest, _, hname.symm, beq_self_eq_true _⟩
  rw [isTestName, ← hstem, ← hstem, splitName?]
  cases name.toList.dropPrefix? CaseKind.test.stem.toList with
  | some rest => rfl
  | none => rw [Option.isSome_map]; rfl

theorem splitName?_eq_some_iff {name : String} {x : CaseKind × String} :
    splitName? name = some x ↔ functionName x = name := by
  have hmade : ∀ x, splitName? name = some x → functionName x = name := by
    intro x h
    unfold splitName? at h
    split at h
    · rename_i rest hrest
      cases h
      exact dropPrefix?_stem_eq_some_iff.1 hrest
    · obtain ⟨rest, hrest, rfl⟩ := Option.map_eq_some_iff.1 h
      exact dropPrefix?_stem_eq_some_iff.1 hrest
  refine ⟨hmade x, fun h => ?_⟩
  obtain ⟨y, hy⟩ : ∃ y, splitName? name = some y := by
    rw [← Option.isSome_iff_exists, isSome_splitName?, ← h]
    exact isTestName_stem_append x.1 x.2
  rw [hy, functionName_injective ((hmade y hy).trans h.symm)]

theorem isTestName_iff {name : String} : isTestName name = true ↔ ∃ x, functionName x = name := by
  rw [← isSome_splitName?, Option.isSome_iff_exists]
  simp only [splitName?_eq_some_iff]

/-- **Making names is a bijection** onto the names of tests and benchmarks. -/
theorem functionName_bijOn :
    Set.BijOn functionName Set.univ {name | isTestName name = true} :=
  ⟨fun x _ => isTestName_iff.2 ⟨x, rfl⟩, functionName_injective.injOn,
    fun _ h => (isTestName_iff.1 h).imp fun _ hx => ⟨trivial, hx⟩⟩

/-! ## Profiles for given functions -/

/-- A way to write a kind. -/
def CaseKind.word : CaseKind → String
  | test => "test"
  | benchmark => "benchmark"

theorem CaseKind.read_word (kind : CaseKind) : CaseKind.read kind.word = .ok kind := by
  cases kind <;> decide

/-- The case that a function is expected for. -/
def Case.ofFunction? (name : String) : Option Case :=
  (splitName? name).map fun x => ⟨x.2, x.1.word, ""⟩

/-- The kind and the name that a case gives. -/
def Case.kindAndName (c : Case) : Except Mismatch CaseKind × String :=
  (CaseKind.read c.kind, c.name)

/-- The profile without categories that expects functions with the given names. -/
def Profile.ofFunctions (names : List String) : Profile :=
  { Profile.empty with cases := names.filterMap Case.ofFunction? }

theorem Case.standsFor_iff {c : Case} {name : String} :
    c.StandsFor name ↔ ∃ x, splitName? name = some x ∧ c.kindAndName = (.ok x.1, x.2) := by
  simp only [splitName?_eq_some_iff]
  constructor
  · rintro ⟨kind, hkind, rfl⟩
    exact ⟨(kind, c.name), rfl, by rw [kindAndName, hkind]⟩
  · rintro ⟨x, rfl, hc⟩
    obtain ⟨hkind, hname⟩ := Prod.mk.inj hc
    exact ⟨x.1, hkind, by rw [hname, functionName]⟩

/-- Cases that stand for given functions give their kinds and their names. -/
theorem map_kindAndName {cs : List Case} {names : List String}
    (h : List.Forall₂ Case.StandsFor cs names) :
    cs.map Case.kindAndName =
      (names.filterMap splitName?).map fun x => (Except.ok x.1, x.2) := by
  induction h with
  | nil => rfl
  | cons hc _ ih =>
    obtain ⟨x, hx, hgives⟩ := Case.standsFor_iff.1 hc
    rw [List.map_cons, hgives, ih, List.filterMap_cons, hx]
    rfl

theorem Case.ofFunction?_standsFor {name : String} (h : isTestName name = true) :
    ∃ c, ofFunction? name = some c ∧ c.StandsFor name := by
  obtain ⟨x, rfl⟩ := isTestName_iff.1 h
  have hsplit : splitName? (functionName x) = some x := splitName?_eq_some_iff.2 rfl
  refine ⟨⟨x.2, x.1.word, ""⟩, by rw [ofFunction?, hsplit]; rfl, x.1, x.1.read_word, rfl⟩

theorem Profile.ofFunctions_standsFor {names : List String}
    (h : ∀ name ∈ names, isTestName name = true) :
    List.Forall₂ Case.StandsFor (Profile.ofFunctions names).allCases names := by
  have hcases : (Profile.ofFunctions names).allCases = names.filterMap Case.ofFunction? :=
    List.append_nil _
  rw [hcases]
  clear hcases
  induction names with
  | nil => exact .nil
  | cons name names ih =>
    obtain ⟨hname, hnames⟩ := List.forall_mem_cons.1 h
    obtain ⟨c, hc, hstands⟩ := Case.ofFunction?_standsFor hname
    rw [List.filterMap_cons, hc]
    exact .cons hstands (ih hnames)

/-- The functions of a source text have the names of tests and benchmarks. -/
theorem isTestName_of_testFunctions? {text : String} {d : Declared}
    (h : testFunctions? text = some d) : ∀ name ∈ d.names, isTestName name = true := by
  obtain ⟨file, -, rfl⟩ := Option.map_eq_some_iff.1 h
  intro name hname
  rw [SourceFile.names_declared, List.mem_eraseDups] at hname
  obtain ⟨f, hf, rfl⟩ := List.mem_map.1 hname
  simpa using (List.mem_filter.1 hf).2

/-- **A function is named for one kind and one name**, and each test or benchmark is
    named for some.  So the functions of a source text have a profile: the one without
    categories that gives their kinds and their names passes, and every profile that
    passes gives the same kinds and names in the same order. -/
theorem expectedNames_determined :
    (∀ (c : Case) kind, CaseKind.read c.kind = .ok kind →
      ExpectedFunction.ofCase c = .ok ⟨functionName (kind, c.name), kind, c.description⟩) ∧
    Set.BijOn functionName Set.univ {name | isTestName name = true} ∧
    ∀ text d, testFunctions? text = some d →
      validate (.ofFunctions d.names) d = .ok () ∧
        ∀ p, validate p d = .ok () →
          p.allCases.map Case.kindAndName =
            (Profile.ofFunctions d.names).allCases.map Case.kindAndName := by
  refine ⟨fun c kind hkind => ExpectedFunction.ofCase_eq_ok_iff.2 ⟨kind, hkind, rfl⟩,
    functionName_bijOn, fun text d hd => ?_⟩
  have hflat := Profile.ofFunctions_standsFor (isTestName_of_testFunctions? hd)
  refine ⟨validate_eq_ok_iff_standsFor.2 hflat, fun p hp => ?_⟩
  rw [map_kindAndName (validate_eq_ok_iff_standsFor.1 hp), map_kindAndName hflat]

/-- Modules are searched, a name that is met again is left out, and only the first stem
    of a name is taken away. -/
theorem expectedNames_determined_nested :
    ∃ d, testFunctions? "mod a { fn TestB() {} } fn BenchmarkTest() {} fn TestB() {}" = some d ∧
      d.names = ["TestB", "BenchmarkTest"] ∧
      (Profile.ofFunctions d.names).allCases =
        [⟨"B", "test", ""⟩, ⟨"Test", "benchmark", ""⟩] ∧
      validate (.ofFunctions d.names) d = .ok () := by
  have hnames : (testFunctions? "mod a { fn TestB() {} } fn BenchmarkTest() {} fn TestB() {}").map
      Declared.names = some ["TestB", "BenchmarkTest"] := by
    decide +kernel
  obtain ⟨d, hd, hnames⟩ := Option.map_eq_some_iff.1 hnames
  refine ⟨d, hd, hnames, ?_, (expectedNames_determined.2.2 _ d hd).1⟩
  rw [hnames]
  decide

end ProfileSync
