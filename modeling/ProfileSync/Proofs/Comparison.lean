/-
  What the comparison of a profile with declared functions finds.

  * `IsLongestCommonPrefix`: how far two lists of names agree;
  * `comparePlaces_append` and `comparePlaces_of_ne`: places that agree are
    passed over, and the first that does not decides;
  * `Compares` lists the ways in which a comparison can come out, and
    `compares_checkCases` says that there are no others;
  * `checkCases_diagnosis`: the mismatch that `checkCases` reports, for all
    insertions and all expected functions;
  * `validate_sound_complete`: which profiles are validated, and which mismatch
    a kind that is none leads to.
-/
import ProfileSync.Check.Compare
import ProfileSync.Proofs.Declared
import ProfileSync.Proofs.Flattening

namespace ProfileSync

/-! ## The first difference -/

/-- A list is the longest that both of two lists begin with. -/
def IsLongestCommonPrefix (common l₁ l₂ : List String) : Prop :=
  common.IsPrefix l₁ ∧ common.IsPrefix l₂ ∧
    ∀ l : List String, l.IsPrefix l₁ → l.IsPrefix l₂ → l.length ≤ common.length

theorem isLongestCommonPrefix_of_ne {common as bs : List String} {a b : String} (h : a ≠ b) :
    IsLongestCommonPrefix common (common ++ a :: as) (common ++ b :: bs) := by
  refine ⟨List.prefix_append _ _, List.prefix_append _ _, ?_⟩
  rintro l ⟨as', ha⟩ ⟨bs', hb⟩
  by_contra hlt
  -- a longer prefix would hold both members of the first difference at one place
  have hat : (l ++ as')[common.length]? = some a := by rw [ha]; simp
  have hbt : (l ++ bs')[common.length]? = some b := by rw [hb]; simp
  rw [List.getElem?_append_left (Nat.lt_of_not_le hlt)] at hat hbt
  exact h (Option.some.inj (hat.symm.trans hbt))

/-- Names that differ from the expected ones, being as many, do so first at some
    place. -/
theorem exists_first_difference {names : List String} {expected : List ExpectedFunction}
    (hlen : names.length = expected.length) (hne : names ≠ expected.map (·.name)) :
    ∃ common a as f fs, names = common.map (·.name) ++ a :: as ∧ expected = common ++ f :: fs ∧
      a ≠ f.name := by
  induction names generalizing expected with
  | nil =>
    rw [List.eq_nil_of_length_eq_zero hlen.symm] at hne
    exact absurd rfl hne
  | cons a as ih =>
    cases expected with
    | nil => simp at hlen
    | cons f fs =>
      by_cases ha : a = f.name
      · subst ha
        have hlen' : as.length = fs.length := by simpa using hlen
        have hne' : as ≠ fs.map (·.name) := by simpa using hne
        obtain ⟨common, b, bs, g, gs, hnames, hfs, hbg⟩ := ih hlen' hne'
        exact ⟨f :: common, b, bs, g, gs, by simp [hnames], by simp [hfs], hbg⟩
      · exact ⟨[], a, as, f, fs, rfl, rfl, ha⟩

/-! ## Going through the places -/

/-- Places that agree are passed over. -/
theorem comparePlaces_append (d : Declared) (position : Nat) {common : List ExpectedFunction}
    (h : ∀ f ∈ common, f.name ∈ d.names) (actuals : List String) (fs : List ExpectedFunction) :
    comparePlaces d position (common.map (·.name) ++ actuals) (common ++ fs) =
      comparePlaces d (position + common.length) actuals fs := by
  induction common generalizing position with
  | nil => rfl
  | cons f common ih =>
    have hf : d.contains f.name = true := Declared.contains_iff.2 (h f (by simp))
    rw [List.map_cons, List.cons_append, List.cons_append, comparePlaces, hf]
    simp only [Bool.not_true, Bool.false_eq_true, if_false, ne_eq, not_true_eq_false]
    rw [ih (position + 1) fun g hg => h g (by simp [hg]), List.length_cons]
    congr 1
    omega

/-- A place that does not agree is reported, as missing if the function that is
    expected there is declared nowhere. -/
theorem comparePlaces_of_ne (d : Declared) (position : Nat) {a : String} {f : ExpectedFunction}
    (h : a ≠ f.name) (actuals : List String) (fs : List ExpectedFunction) :
    comparePlaces d position (a :: actuals) (f :: fs) =
      .error (if f.name ∈ d.names then .misplaced a f.name position (d.lineOf a)
        else .missing f.name position) := by
  rw [comparePlaces]
  by_cases hf : f.name ∈ d.names
  · simp [Declared.contains_iff.2 hf, hf, h]
  · have hc : d.contains f.name = false := by
      rw [← Bool.not_eq_true, Declared.contains_iff]
      exact hf
    simp [hc, hf]

/-! ## Comparing all functions -/

theorem checkCases_of_length_ne {d : Declared} {expected : List ExpectedFunction}
    (h : d.names.length ≠ expected.length) :
    checkCases d expected = .error (.count d.names.length expected.length) := by
  rw [Declared.length_names] at h ⊢
  rw [checkCases, if_pos h]

theorem checkCases_of_length_eq {d : Declared} {expected : List ExpectedFunction}
    (h : d.names.length = expected.length) :
    checkCases d expected = comparePlaces d 1 d.names expected := by
  rw [Declared.length_names] at h
  rw [checkCases, if_neg (not_not.2 h)]

/-- **The first difference decides**, whatever comes after it. -/
theorem checkCases_of_first_difference {d : Declared} {expected common : List ExpectedFunction}
    {a : String} {as : List String} {f : ExpectedFunction} {fs : List ExpectedFunction}
    (hlen : d.names.length = expected.length) (hnames : d.names = common.map (·.name) ++ a :: as)
    (hexpected : expected = common ++ f :: fs) (h : a ≠ f.name) :
    checkCases d expected =
      .error (if f.name ∈ d.names then .misplaced a f.name (common.length + 1) (d.lineOf a)
        else .missing f.name (common.length + 1)) := by
  have hcommon : ∀ g ∈ common, g.name ∈ d.names := by
    intro g hg
    rw [hnames]
    exact List.mem_append_left _ (List.mem_map_of_mem hg)
  rw [checkCases_of_length_eq hlen, hexpected]
  conv_lhs => rw [hnames]
  rw [comparePlaces_append d 1 hcommon, comparePlaces_of_ne d _ h, Nat.add_comm]

theorem checkCases_of_names_eq {d : Declared} {expected : List ExpectedFunction}
    (h : d.names = expected.map (·.name)) : checkCases d expected = .ok () := by
  have hmem : ∀ f ∈ expected, f.name ∈ d.names := by
    intro f hf
    rw [h]
    exact List.mem_map_of_mem hf
  have happ := comparePlaces_append d 1 hmem [] []
  rw [List.append_nil, List.append_nil] at happ
  rw [checkCases_of_length_eq (by simp [h]), h, happ]
  rfl

/-- Names that are as many as the expected ones, and not the same, are reported
    where they first differ. -/
theorem checkCases_of_ne {d : Declared} {expected : List ExpectedFunction}
    (hlen : d.names.length = expected.length) (hne : d.names ≠ expected.map (·.name)) :
    ∃ common a as f fs, d.names = common.map (·.name) ++ a :: as ∧ expected = common ++ f :: fs ∧
      a ≠ f.name ∧ checkCases d expected =
        .error (if f.name ∈ d.names then .misplaced a f.name (common.length + 1) (d.lineOf a)
          else .missing f.name (common.length + 1)) := by
  obtain ⟨common, a, as, f, fs, hnames, hexpected, h⟩ := exists_first_difference hlen hne
  exact ⟨common, a, as, f, fs, hnames, hexpected, h,
    checkCases_of_first_difference hlen hnames hexpected h⟩

theorem checkCases_eq_ok_iff {d : Declared} {expected : List ExpectedFunction} :
    checkCases d expected = .ok () ↔ d.names = expected.map (·.name) := by
  refine ⟨fun hok => ?_, checkCases_of_names_eq⟩
  by_cases hlen : d.names.length = expected.length
  · by_contra hne
    obtain ⟨common, a, as, f, fs, -, -, -, hcheck⟩ := checkCases_of_ne hlen hne
    rw [hcheck] at hok
    cases hok
  · rw [checkCases_of_length_ne hlen] at hok
    cases hok

/-- How a comparison can come out: the names are the expected ones, or not as many,
    or they differ first at a place where another function is expected, which is
    declared nowhere or elsewhere. -/
inductive Compares (d : Declared) (expected : List ExpectedFunction) :
    Except Mismatch Unit → Prop where
  | same (hnames : d.names = expected.map (·.name)) : Compares d expected (.ok ())
  | count (hlen : d.names.length ≠ expected.length) :
    Compares d expected (.error (.count d.names.length expected.length))
  | missing {common a as f fs} (hlen : d.names.length = expected.length)
    (hnames : d.names = common.map (·.name) ++ a :: as) (hexpected : expected = common ++ f :: fs)
    (hf : f.name ∉ d.names) : Compares d expected (.error (.missing f.name (common.length + 1)))
  | misplaced {common a as f fs} (hlen : d.names.length = expected.length)
    (hnames : d.names = common.map (·.name) ++ a :: as) (hexpected : expected = common ++ f :: fs)
    (h : a ≠ f.name) (hf : f.name ∈ d.names) :
    Compares d expected (.error (.misplaced a f.name (common.length + 1) (d.lineOf a)))

/-- **Every comparison** comes out in one of these ways. -/
theorem compares_checkCases (d : Declared) (expected : List ExpectedFunction) :
    Compares d expected (checkCases d expected) := by
  by_cases hlen : d.names.length = expected.length
  · by_cases hsame : d.names = expected.map (·.name)
    · rw [checkCases_of_names_eq hsame]
      exact .same hsame
    · obtain ⟨common, a, as, f, fs, hnames, hexpected, h, hcheck⟩ := checkCases_of_ne hlen hsame
      rw [hcheck]
      split <;> rename_i hf
      · exact .misplaced hlen hnames hexpected h hf
      · exact .missing hlen hnames hexpected hf
  · rw [checkCases_of_length_ne hlen]
    exact .count hlen

/-- A function is reported as missing only if all places before its own agree. -/
theorem getElem?_of_missing {d : Declared} {expected : List ExpectedFunction} {name : String}
    {position : Nat} (h : checkCases d expected = .error (.missing name position)) {k : Nat}
    (hk : k + 1 < position) : d.names[k]? = (expected.map (·.name))[k]? := by
  have hcompares := compares_checkCases d expected
  rw [h] at hcompares
  cases hcompares with
  | @missing common a as f fs _ hnames hexpected _ =>
    have hkc : k < common.length := by omega
    rw [hnames, hexpected]
    simp [List.getElem?_append_left, hkc]

/-! ## Profiles -/

theorem validate_eq_ok_iff {p : Profile} {d : Declared} :
    validate p d = .ok () ↔ ∃ fs, p.expectedFunctions = .ok fs ∧ checkCases d fs = .ok () := by
  unfold validate
  cases p.expectedFunctions <;> simp

theorem validate_of_error {p : Profile} {e : Mismatch} (h : p.expectedFunctions = .error e)
    (d : Declared) : validate p d = .error e := by
  rw [validate, h]

theorem validate_of_ok {p : Profile} {fs : List ExpectedFunction} (h : p.expectedFunctions = .ok fs)
    (d : Declared) : validate p d = checkCases d fs := by
  rw [validate, h]

/-- A profile passes just if its cases stand for the declared functions one by one. -/
theorem validate_eq_ok_iff_standsFor {p : Profile} {d : Declared} :
    validate p d = .ok () ↔ List.Forall₂ Case.StandsFor p.allCases d.names := by
  rw [validate_eq_ok_iff, ← Profile.exists_names_iff]
  simp only [checkCases_eq_ok_iff]
  constructor <;> rintro ⟨fs, hfs, hnames⟩ <;> exact ⟨fs, hfs, hnames.symm⟩

/-- **Which difference is reported.**  Different counts come first, whatever the
    names are.  Otherwise equal names pass, and others are reported at the end of
    what they have in common: the expected function as missing if it is declared
    nowhere, else the function that stands there, with the line of its first
    declaration.  So a missing function is reported only if all places before
    its own agree. -/
theorem checkCases_diagnosis (declarations : List (String × Option Nat))
    (expected : List ExpectedFunction) :
    let d := Declared.ofList declarations
    let actual := firstNames declarations
    let wanted := expected.map (·.name)
    (actual.length ≠ expected.length →
        checkCases d expected = .error (.count actual.length expected.length)) ∧
      (checkCases d expected = .ok () ↔ actual = wanted) ∧
      (actual.length = expected.length → actual ≠ wanted →
        ∃ common a f, IsLongestCommonPrefix common actual wanted ∧
          actual[common.length]? = some a ∧ expected[common.length]? = some f ∧
          checkCases d expected =
            .error (if f.name ∈ declarations.map Prod.fst then
                .misplaced a f.name (common.length + 1) (firstLine declarations a)
              else .missing f.name (common.length + 1))) ∧
      (∀ name position, checkCases d expected = .error (.missing name position) →
        ∀ k, k + 1 < position → actual[k]? = wanted[k]?) := by
  intro d actual wanted
  have hd : d.names = actual := Declared.names_ofList declarations
  rw [← hd]
  refine ⟨checkCases_of_length_ne, checkCases_eq_ok_iff, fun hlen hne => ?_,
    fun name position hmissing k hk => getElem?_of_missing hmissing hk⟩
  obtain ⟨common, a, as, f, fs, hnames, hexpected, h, hcheck⟩ := checkCases_of_ne hlen hne
  refine ⟨common.map (·.name), a, f, ?_, ?_, ?_, ?_⟩
  · rw [hnames, show wanted = _ from congrArg (List.map (·.name)) hexpected, List.map_append]
    exact isLongestCommonPrefix_of_ne h
  · simp [hnames]
  · simp [hexpected]
  · rw [hcheck, List.length_map, Declared.lineOf_ofList]
    simp only [hd, actual, mem_firstNames]

/-- A function out of order is reported although one that is expected later is
    missing, with the line of its first declaration. -/
theorem checkCases_diagnosis_out_of_order :
    let declarations := [("TestB", some 4), ("TestA", none), ("TestB", some 9)]
    let expected : List ExpectedFunction := [⟨"TestA", .test, ""⟩, ⟨"TestX", .test, ""⟩]
    (firstNames declarations).length = expected.length ∧
      firstNames declarations ≠ expected.map (·.name) ∧
      checkCases (.ofList declarations) expected =
        .error (.misplaced "TestB" "TestA" 1 (some 4)) := by
  intro declarations expected
  have hnames : firstNames declarations = ["TestB", "TestA"] := by decide
  have hlen : (firstNames declarations).length = expected.length := by rw [hnames]; rfl
  have hne : firstNames declarations ≠ expected.map (·.name) := by rw [hnames]; decide
  obtain ⟨common, a, f, ⟨hactual, hwanted, -⟩, ha, hf, hcheck⟩ :=
    (checkCases_diagnosis declarations expected).2.2.1 hlen hne
  have hcommon : common = [] := by
    cases common with
    | nil => rfl
    | cons name names =>
      rw [hnames, List.cons_prefix_cons] at hactual
      have h := (List.cons_prefix_cons.1 hwanted).1
      rw [hactual.1] at h
      exact absurd h (by decide)
  subst hcommon
  rw [hnames] at ha
  cases ha
  cases hf
  exact ⟨hlen, hne, hcheck⟩

/-- **Validation is sound and complete.**  It passes iff every case of the
    profile has a kind and the functions are declared, in the order of their
    first declarations, as the cases stand for them one by one.  If some case has
    no kind, the kind of the first such case is reported, whatever is declared. -/
theorem validate_sound_complete (p : Profile) (declarations : List (String × Option Nat)) :
    (validate p (.ofList declarations) = .ok () ↔
        (∀ c ∈ p.allCases, c.HasKind) ∧
          List.Forall₂ Case.StandsFor p.allCases (firstNames declarations)) ∧
      ((∃ c ∈ p.allCases, ¬ c.HasKind) →
        ∃ before c after, p.allCases = before ++ c :: after ∧ (∀ b ∈ before, b.HasKind) ∧
          ¬ c.HasKind ∧ ∀ d, validate p d = .error (.invalidKind c.kind)) := by
  constructor
  · rw [validate_eq_ok_iff, ← Profile.exists_names_iff, ← Profile.exists_expectedFunctions_iff]
    simp only [checkCases_eq_ok_iff, Declared.names_ofList]
    constructor
    · rintro ⟨fs, hfs, hnames⟩
      exact ⟨⟨fs, hfs⟩, fs, hfs, hnames.symm⟩
    · rintro ⟨-, fs, hfs, hnames⟩
      exact ⟨fs, hfs, hnames.symm⟩
  · rintro ⟨c, hc, hkind⟩
    cases hfs : p.expectedFunctions with
    | ok fs => exact absurd (Profile.exists_expectedFunctions_iff.1 ⟨fs, hfs⟩ c hc) hkind
    | error e =>
      obtain ⟨before, c', after, hcases, hbefore, hc', rfl⟩ :=
        Profile.expectedFunctions_eq_error_iff.1 hfs
      exact ⟨before, c', after, hcases, hbefore, hc', validate_of_error hfs⟩

/-- The first of two unknown kinds is reported, behind a case that has a kind. -/
theorem validate_sound_complete_unknown_kind :
    let p : Profile :=
      { source := "", test := "", description := "", cases := [⟨"A", "TEST", ""⟩],
        categories := [.mk "" "" [] [.mk "" "" [⟨"B", "Fuzz", ""⟩] []],
          .mk "" "" [⟨"C", "bench", ""⟩] []] }
    (∃ c ∈ p.allCases, ¬ c.HasKind) ∧ ∀ d, validate p d = .error (.invalidKind "Fuzz") := by
  intro p
  have hA : Case.HasKind ⟨"A", "TEST", ""⟩ := by decide
  have hB : ¬ Case.HasKind ⟨"B", "Fuzz", ""⟩ := by decide
  have hcases : p.allCases = [⟨"A", "TEST", ""⟩, ⟨"B", "Fuzz", ""⟩, ⟨"C", "bench", ""⟩] := rfl
  have hunknown : ∃ c ∈ p.allCases, ¬ c.HasKind := ⟨_, by simp [hcases], hB⟩
  obtain ⟨before, c, after, hsplit, hbefore, hc, hvalidate⟩ :=
    (validate_sound_complete p []).2 hunknown
  rw [hcases] at hsplit
  rcases before with _ | ⟨b, _ | ⟨b', before⟩⟩
  · cases hsplit
    exact absurd hA hc
  · cases hsplit
    exact ⟨hunknown, hvalidate⟩
  · simp only [List.cons_append, List.cons.injEq] at hsplit
    exact absurd (hbefore b' (by simp)) (hsplit.2.1 ▸ hB)

end ProfileSync
