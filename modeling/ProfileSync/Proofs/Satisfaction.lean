/-
  Which profiles declared functions can satisfy.

  * `Declared.names_ofNames`: a set that is built from names holds each of them
    once;
  * `checkCases_ofNames`: so functions that are compared with their own names pass
    just if all names differ, and are otherwise fewer than expected;
  * `nodup_names_iff`: the names that cases stand for differ just if no two cases
    share one (`Case.SharesName`);
  * `exists_validate_iff`: so a profile can be satisfied just if its cases have kinds
    and no two of them share a name.
-/
import ProfileSync.Proofs.Changes
import ProfileSync.Proofs.Comparison

namespace ProfileSync

/-! ## Functions against their own names -/

theorem Declared.names_ofNames (names : List String) :
    (Declared.ofNames names).names = names.eraseDups := by
  rw [ofNames, names_ofList, firstNames, map_fst_onLines]

/-- Repeated names are declared once, so functions that are compared with their own
    names pass unless a name is repeated, and are too few then. -/
theorem checkCases_ofNames (expected : List ExpectedFunction) :
    checkCases (.ofNames (expected.map (·.name))) expected =
      if (expected.map (·.name)).Nodup then .ok ()
      else .error (.count (expected.map (·.name)).toFinset.card expected.length) := by
  have hnames := Declared.names_ofNames (expected.map (·.name))
  split <;> rename_i hnodup
  · rw [eraseDups_eq_self_iff.2 hnodup] at hnames
    exact checkCases_of_names_eq hnames
  · have hlt := length_eraseDups_lt hnodup
    rw [List.length_map, ← hnames] at hlt
    rw [checkCases_of_length_ne (Nat.ne_of_lt hlt), hnames, length_eraseDups_eq_card]

/-! ## Cases that share a name -/

/-- Two cases stand for one function. -/
def Case.SharesName (c c' : Case) : Prop := ∃ name, c.StandsFor name ∧ c'.StandsFor name

theorem Case.StandsFor.unique {c : Case} {name name' : String} (h : c.StandsFor name)
    (h' : c.StandsFor name') : name = name' := by
  obtain ⟨kind, hkind, rfl⟩ := h
  obtain ⟨kind', hkind', rfl⟩ := h'
  cases hkind.symm.trans hkind'
  rfl

section
variable {cs : List Case} {names : List String}

theorem mem_names_iff (h : List.Forall₂ Case.StandsFor cs names) {name : String} :
    name ∈ names ↔ ∃ c ∈ cs, c.StandsFor name := by
  induction h with
  | nil => simp
  | @cons c name' cs names hc _ ih =>
    have hhead : name = name' ↔ c.StandsFor name :=
      ⟨fun heq => heq ▸ hc, fun hname => hname.unique hc⟩
    rw [List.mem_cons, List.exists_mem_cons_iff, ih, hhead]

/-- The names that cases stand for differ just if no two cases share one. -/
theorem nodup_names_iff (h : List.Forall₂ Case.StandsFor cs names) :
    names.Nodup ↔ cs.Pairwise fun c c' => ¬ c.SharesName c' := by
  induction h with
  | nil => simp
  | @cons c name cs names hc hcs ih =>
    have hshares : ∀ c', c.SharesName c' ↔ c'.StandsFor name := fun c' =>
      ⟨fun ⟨_, hname, hname'⟩ => hname.unique hc ▸ hname', fun hname' => ⟨name, hc, hname'⟩⟩
    rw [List.nodup_cons, List.pairwise_cons, ih, mem_names_iff hcs]
    simp only [hshares, not_exists, not_and]

end

/-! ## Profiles -/

/-- A profile that some set satisfies has no two cases that share a name. -/
theorem pairwise_of_validate {p : Profile} {d : Declared} (h : validate p d = .ok ()) :
    p.allCases.Pairwise fun c c' => ¬ c.SharesName c' :=
  (nodup_names_iff (validate_eq_ok_iff_standsFor.1 h)).1 d.nodup

/-- **A profile can be satisfied** just if its cases have kinds and no two of them
    share a name. -/
theorem exists_validate_iff {p : Profile} :
    (∃ declarations, validate p (.ofList declarations) = .ok ()) ↔
      (∀ c ∈ p.allCases, c.HasKind) ∧ p.allCases.Pairwise fun c c' => ¬ c.SharesName c' := by
  constructor
  · rintro ⟨declarations, hok⟩
    obtain ⟨fs, hfs, -⟩ := validate_eq_ok_iff.1 hok
    exact ⟨Profile.exists_expectedFunctions_iff.1 ⟨fs, hfs⟩, pairwise_of_validate hok⟩
  · rintro ⟨hkinds, hpairwise⟩
    obtain ⟨fs, hfs⟩ := Profile.exists_expectedFunctions_iff.2 hkinds
    have hstands := Profile.exists_names_iff.1 ⟨fs, hfs, rfl⟩
    refine ⟨(fs.map (·.name)).map fun name => (name, none), ?_⟩
    rw [validate_of_ok hfs, ← Declared.ofNames, checkCases_ofNames,
      if_pos ((nodup_names_iff hstands).2 hpairwise)]

/-- **The comparison is reflexive up to repetition.**  Functions that are declared
    by the names of the expected ones pass just if these names differ; otherwise as
    many are declared as there are different names.  So a profile that has two cases
    for one function, wherever they stand in it, is satisfied by no declarations,
    while one whose cases have kinds and share no name is satisfied by some. -/
theorem checkCases_reflexive_iff_nodup :
    (∀ expected : List ExpectedFunction,
      let names := expected.map (·.name)
      (checkCases (.ofNames names) expected = .ok () ↔ names.Nodup) ∧
        (¬ names.Nodup → checkCases (.ofNames names) expected =
          .error (.count names.toFinset.card expected.length))) ∧
    ∀ p : Profile,
      (∀ (i j : Nat) (c c' : Case) name, i < j → p.allCases[i]? = some c →
        p.allCases[j]? = some c' → c.StandsFor name → c'.StandsFor name →
          ∀ declarations, ∃ e, validate p (.ofList declarations) = .error e) ∧
      ((∃ declarations, validate p (.ofList declarations) = .ok ()) ↔
        (∀ c ∈ p.allCases, c.HasKind) ∧
          p.allCases.Pairwise fun c c' => ¬ c.SharesName c') := by
  refine ⟨fun expected => ?_, fun p => ⟨?_, exists_validate_iff⟩⟩
  · intro names
    rw [checkCases_ofNames]
    refine ⟨⟨fun hok => ?_, fun hnodup => if_pos hnodup⟩, fun hrepeated => if_neg hrepeated⟩
    by_contra hrepeated
    rw [if_neg hrepeated] at hok
    cases hok
  · intro i j c c' name hij hi hj hname hname' declarations
    cases hvalidate : validate p (.ofList declarations) with
    | error e => exact ⟨e, rfl⟩
    | ok _ =>
      obtain ⟨hilt, rfl⟩ := List.getElem?_eq_some_iff.1 hi
      obtain ⟨hjlt, rfl⟩ := List.getElem?_eq_some_iff.1 hj
      have hdiffer := List.pairwise_iff_getElem.1 (pairwise_of_validate hvalidate) i j hilt hjlt hij
      exact absurd ⟨name, hname, hname'⟩ hdiffer

/-- Three functions with two names, and a profile that asks for one function at two
    depths, with its kind written in two ways. -/
theorem checkCases_reflexive_iff_nodup_repeated :
    let expected : List ExpectedFunction :=
      [⟨"TestA", .test, "first"⟩, ⟨"BenchmarkA", .benchmark, ""⟩, ⟨"TestA", .test, "again"⟩]
    let p : Profile :=
      { source := "", test := "", description := "",
        cases := [⟨"A", "", ""⟩, ⟨"A", "benchmark", ""⟩],
        categories := [.mk "outer" "" [] [.mk "inner" "" [⟨"A", "TEST", ""⟩] []]] }
    checkCases (.ofNames (expected.map (·.name))) expected = .error (.count 2 3) ∧
      ∀ declarations, ∃ e, validate p (.ofList declarations) = .error e := by
  intro expected p
  have hcases : p.allCases = [⟨"A", "", ""⟩, ⟨"A", "benchmark", ""⟩, ⟨"A", "TEST", ""⟩] := rfl
  have hrepeated : ¬ (expected.map (·.name)).Nodup := by decide
  obtain ⟨hreflexive, hprofiles⟩ := checkCases_reflexive_iff_nodup
  exact ⟨(hreflexive expected).2 hrepeated,
    (hprofiles p).1 0 2 _ _ "TestA" (by decide) (by rw [hcases]; rfl) (by rw [hcases]; rfl)
      (by decide) (by decide)⟩

end ProfileSync
