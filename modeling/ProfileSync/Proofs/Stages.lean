/-
  The stages of a validation.

  * `Stage` and `FailsAt`: the stages in their order, and the failure of each of them,
    whatever comes of the others;
  * `validateFile_outcome`: a validation passes if no stage fails, and ends with the
    failure of the first one that does otherwise;
  * `AgreesOn` and `AgreesOn.validateFile_eq`: what a validation looks at in the files;
  * `validateFile_stages`: both, so that no text matters but that of the profile and
    that of its test file.
-/
import ProfileSync.Proofs.Frame
import ProfileSync.Proofs.Spelling

namespace ProfileSync

/-! ## Stages -/

/-- A stage of a validation. -/
inductive Stage where
  | readProfile
  | parseProfile
  | findSource
  | readTest
  | parseTest
  | compare
deriving Repr, Inhabited, DecidableEq

/-- The place of a stage in their order. -/
def Stage.place : Stage → Nat
  | readProfile => 0
  | parseProfile => 1
  | findSource => 2
  | readTest => 3
  | parseTest => 4
  | compare => 5

theorem Stage.place_injective {stage stage' : Stage} (h : stage.place = stage'.place) :
    stage = stage' := by
  cases stage <;> cases stage' <;> first | rfl | cases h

/-- A stage fails.  A later stage needs what an earlier one gives, but it may fail as
    well where the earlier one only looks for something. -/
inductive FailsAt (fs : FileSystem) (path : String) : Stage → Failure → Prop
  | readProfile {fault} : fs.readText path = .error fault →
      FailsAt fs path .readProfile (.unreadableProfile path fault)
  | parseProfile {text e} : fs.readText path = .ok text → Profile.ofText text = .error e →
      FailsAt fs path .parseProfile (.invalidProfile path e)
  | findSource {p} : loadProfile fs path = .ok p → fs.find (sourceOf path p) = .error .notFound →
      FailsAt fs path .findSource (.missingSource (sourceOf path p) path)
  | readTest {p fault} : loadProfile fs path = .ok p → fs.readText (testOf path p) = .error fault →
      FailsAt fs path .readTest (.unreadableTest (testOf path p) fault)
  | parseTest {p text} : loadProfile fs path = .ok p → fs.readText (testOf path p) = .ok text →
      testFunctions? text = none → FailsAt fs path .parseTest (.invalidTest (testOf path p))
  | compare {p text d m} : loadProfile fs path = .ok p → fs.readText (testOf path p) = .ok text →
      testFunctions? text = some d → validate p d = .error m →
      FailsAt fs path .compare (.mismatch path m)

section
variable {fs fs' : FileSystem} {path : String} {stage : Stage} {e : Failure}

theorem loadProfile_eq_ok_iff {p : Profile} : loadProfile fs path = .ok p ↔
    ∃ text, fs.readText path = .ok text ∧ Profile.ofText text = .ok p := by
  unfold loadProfile
  cases fs.readText path with
  | error fault => simp
  | ok text => cases hp : Profile.ofText text <;> simp [hp]

/-- A stage fails in one way only. -/
theorem FailsAt.unique {e' : Failure} (h : FailsAt fs path stage e) (h' : FailsAt fs path stage e') :
    e = e' := by
  cases h with
  | readProfile hread => cases h' with | readProfile hread' => grind
  | parseProfile hread hparse => cases h' with | parseProfile hread' hparse' => grind
  | findSource hload _ => cases h' with | findSource hload' _ => grind
  | readTest hload hread => cases h' with | readTest hload' hread' => grind
  | parseTest hload _ _ => cases h' with | parseTest hload' _ _ => grind
  | compare hload hread htest hvalidate =>
    cases h' with | compare hload' hread' htest' hvalidate' => grind

/-- No stage before a place fails. -/
def PassesUpTo (fs : FileSystem) (path : String) (place : Nat) : Prop :=
  ∀ stage e, stage.place < place → ¬ FailsAt fs path stage e

theorem PassesUpTo.next (stage : Stage) (h : PassesUpTo fs path stage.place)
    (hstage : ∀ e, ¬ FailsAt fs path stage e) : PassesUpTo fs path (stage.place + 1) := by
  intro stage' e hplace
  rcases Nat.lt_succ_iff_lt_or_eq.1 hplace with hplace | hplace
  · exact h stage' e hplace
  · rw [Stage.place_injective hplace]
    exact hstage e

theorem passesUpTo_zero : PassesUpTo fs path 0 := fun _ _ h => absurd h (Nat.not_lt_zero _)

theorem passesUpTo_of_read {text : String} (h : fs.readText path = .ok text) :
    PassesUpTo fs path 1 := by
  refine PassesUpTo.next .readProfile passesUpTo_zero fun e hfails => ?_
  cases hfails with
  | readProfile hread => rw [h] at hread; cases hread

theorem passesUpTo_of_load {p : Profile} (h : loadProfile fs path = .ok p) :
    PassesUpTo fs path 2 := by
  obtain ⟨text, hread, hparse⟩ := loadProfile_eq_ok_iff.1 h
  refine PassesUpTo.next .parseProfile (passesUpTo_of_read hread) fun e hfails => ?_
  cases hfails with
  | parseProfile hread' hparse' => grind

theorem passesUpTo_of_find {p : Profile} (h : loadProfile fs path = .ok p)
    (hfind : fs.find (sourceOf path p) ≠ .error .notFound) : PassesUpTo fs path 3 := by
  refine PassesUpTo.next .findSource (passesUpTo_of_load h) fun e hfails => ?_
  cases hfails with
  | findSource hload hmissing => grind

theorem passesUpTo_of_readTest {p : Profile} {text : String} (h : loadProfile fs path = .ok p)
    (hfind : fs.find (sourceOf path p) ≠ .error .notFound)
    (hread : fs.readText (testOf path p) = .ok text) : PassesUpTo fs path 4 := by
  refine PassesUpTo.next .readTest (passesUpTo_of_find h hfind) fun e hfails => ?_
  cases hfails with
  | readTest hload hread' => grind

theorem passesUpTo_of_parseTest {p : Profile} {text : String} {d : Declared}
    (h : loadProfile fs path = .ok p) (hfind : fs.find (sourceOf path p) ≠ .error .notFound)
    (hread : fs.readText (testOf path p) = .ok text) (htest : testFunctions? text = some d) :
    PassesUpTo fs path 5 := by
  refine PassesUpTo.next .parseTest (passesUpTo_of_readTest h hfind hread)
    fun e hfails => ?_
  cases hfails with
  | parseTest hload hread' htest' => grind

/-! ## What comes of a validation -/

theorem result_readTestFile_of_unreadable {fault : FileFault}
    (h : fs.readText path = .error fault) :
    (readTestFile fs path).result = .error (.unreadableTest path fault) := by
  rw [readTestFile, h]
  rfl

theorem result_readTestFile_of_text {text : String} (h : fs.readText path = .ok text) :
    (readTestFile fs path).result =
      match testFunctions? text with
      | none => .error (.invalidTest path)
      | some d => .ok d := by
  rw [readTestFile, h]
  dsimp only
  cases testFunctions? text <;> rfl

/-- **A validation passes** if no stage fails, and ends with the failure of the first
    stage that does otherwise. -/
theorem validateFile_outcome (fs : FileSystem) (path : String) :
    ((validateFile fs path).result = .ok () ∧ PassesUpTo fs path 6) ∨
      ∃ stage e, (validateFile fs path).result = .error e ∧ FailsAt fs path stage e ∧
        PassesUpTo fs path stage.place := by
  cases hread : fs.readText path with
  | error fault =>
    have hload : loadProfile fs path = .error (.unreadableProfile path fault) := by
      rw [loadProfile, hread]
    exact .inr ⟨.readProfile, _, result_of_load_error hload, .readProfile hread, passesUpTo_zero⟩
  | ok text =>
  cases hparse : Profile.ofText text with
  | error error =>
    have hload : loadProfile fs path = .error (.invalidProfile path error) := by
      simp only [loadProfile, hread, hparse]
    exact .inr ⟨.parseProfile, _, result_of_load_error hload, .parseProfile hread hparse,
      passesUpTo_of_read hread⟩
  | ok p =>
  have hload := loadProfile_eq_ok_iff.2 ⟨text, hread, hparse⟩
  by_cases hfind : fs.find (sourceOf path p) = .error .notFound
  · exact .inr ⟨.findSource, _, verdictOf_of_missing hload hfind, .findSource hload hfind,
      passesUpTo_of_load hload⟩
  rw [result_validateFile, result_checkProfile hload hfind]
  cases hread : fs.readText (testOf path p) with
  | error fault =>
    rw [result_readTestFile_of_unreadable hread]
    exact .inr ⟨.readTest, _, rfl, .readTest hload hread, passesUpTo_of_find hload hfind⟩
  | ok text =>
  rw [result_readTestFile_of_text hread]
  cases htest : testFunctions? text with
  | none =>
    exact .inr ⟨.parseTest, _, rfl, .parseTest hload hread htest,
      passesUpTo_of_readTest hload hfind hread⟩
  | some d =>
  have hpasses := passesUpTo_of_parseTest hload hfind hread htest
  cases hvalidate : validate p d with
  | error m =>
    refine .inr ⟨.compare, .mismatch path m, ?_, .compare hload hread htest hvalidate, hpasses⟩
    change (validate p d).mapError (Failure.mismatch path) = _
    rw [hvalidate]
    rfl
  | ok u =>
    refine .inl ⟨?_, PassesUpTo.next .compare hpasses fun e hfails => ?_⟩
    · change (validate p d).mapError (Failure.mismatch path) = _
      rw [hvalidate]
      rfl
    · cases hfails with
      | compare hload' hread' htest' hvalidate' => grind

/-! ## What a validation looks at -/

/-- Two file systems give the same for a profile: its text or why it cannot be read,
    and, if it can be loaded, whether its source file is missed and what is read of its
    test file. -/
structure AgreesOn (fs fs' : FileSystem) (path : String) : Prop where
  profile : fs'.readText path = fs.readText path
  source : ∀ p, loadProfile fs path = .ok p →
    (fs'.find (sourceOf path p) = .error .notFound ↔ fs.find (sourceOf path p) = .error .notFound)
  test : ∀ p, loadProfile fs path = .ok p →
    fs'.readText (testOf path p) = fs.readText (testOf path p)

theorem checkSource_eq_of_iff {source : String}
    (h : fs'.find source = .error .notFound ↔ fs.find source = .error .notFound) :
    checkSource fs' path source = checkSource fs path source := by
  by_cases hfind : fs.find source = .error .notFound
  · rw [checkSource_eq_error_iff.2 ⟨hfind, rfl⟩, checkSource_eq_error_iff.2 ⟨h.2 hfind, rfl⟩]
  · rw [checkSource_eq_ok_iff.2 hfind, checkSource_eq_ok_iff.2 (mt h.1 hfind)]

/-- **A validation** says and answers the same in file systems that agree. -/
theorem AgreesOn.validateFile_eq (h : AgreesOn fs fs' path) :
    validateFile fs' path = validateFile fs path := by
  have hload : loadProfile fs' path = loadProfile fs path := by
    unfold loadProfile
    rw [h.profile]
  have hcheck : checkProfile fs' path = checkProfile fs path := by
    cases hp : loadProfile fs path with
    | error e =>
      unfold checkProfile
      rw [hload, hp]
      rfl
    | ok p =>
      have htest : readTestFile fs' (testOf path p) = readTestFile fs (testOf path p) := by
        unfold readTestFile
        rw [h.test p hp]
      rw [checkProfile_of_load hp, checkProfile_of_load (hload.trans hp), htest,
        checkSource_eq_of_iff (h.source p hp)]
  unfold validateFile
  rw [hcheck]

/-- **The stages of a validation.**  It passes if and only if no stage fails, and its
    failure is that of the first stage that does.  It says and answers the same
    wherever the profile reads the same, its source file is missed or not alike, and
    its test file reads the same; so of all texts only those of the profile and of its
    test file matter. -/
theorem validateFile_stages (fs : FileSystem) (path : String) :
    ((validateFile fs path).result = .ok () ↔ ∀ stage e, ¬ FailsAt fs path stage e) ∧
    (∀ e, (validateFile fs path).result = .error e ↔
      ∃ stage, FailsAt fs path stage e ∧
        ∀ stage' e', stage'.place < stage.place → ¬ FailsAt fs path stage' e') ∧
    (∀ fs', AgreesOn fs fs' path → validateFile fs' path = validateFile fs path) ∧
    ∀ changed fs', fs.SameBut changed fs' → (∀ l, ReadsAt fs path l → ¬ changed l) →
      validateFile fs' path = validateFile fs path := by
  refine ⟨?_, fun e => ?_, fun fs' h => h.validateFile_eq,
    fun changed fs' hsame hreads => validateFile_congr hsame hreads⟩
  · rcases validateFile_outcome fs path with ⟨hok, hpasses⟩ | ⟨stage, e, herror, hfails, -⟩
    · exact iff_of_true hok fun stage e => hpasses stage e (by cases stage <;> decide)
    · rw [herror]
      exact iff_of_false (by simp) fun h => h stage e hfails
  · rcases validateFile_outcome fs path with ⟨hok, hpasses⟩ | ⟨stage, e', herror, hfails, hfirst⟩
    · rw [hok]
      refine iff_of_false (by simp) ?_
      rintro ⟨stage, hfails, -⟩
      exact hpasses stage e (by cases stage <;> decide) hfails
    · rw [herror]
      constructor
      · intro h
        cases h
        exact ⟨stage, hfails, hfirst⟩
      · rintro ⟨stage', hfails', hfirst'⟩
        -- of two stages that fail first neither comes before the other
        have hplace : stage'.place = stage.place :=
          Nat.le_antisymm (Nat.not_lt.1 fun hlt => hfirst' stage e' hlt hfails)
            (Nat.not_lt.1 fun hlt => hfirst stage' e hlt hfails')
        rw [Stage.place_injective hplace] at hfails'
        rw [hfails.unique hfails']

theorem exists_load_of_files {source test : String}
    (h : (loadProfile fs path).map (fun p => (sourceOf path p, testOf path p)) =
      .ok (source, test)) :
    ∃ p, loadProfile fs path = .ok p ∧ sourceOf path p = source ∧ testOf path p = test := by
  cases hload : loadProfile fs path with
  | error e => rw [hload] at h; cases h
  | ok p =>
    rw [hload] at h
    obtain ⟨hsource, htest⟩ := Prod.mk.inj (Except.ok.inj h)
    exact ⟨p, rfl, hsource, htest⟩

end

/-- A directory with a profile and its two files. -/
def withSourceText (text : String) : FileSystem :=
  ⟨.directory [("lib.rs", .file (some text)), ("tests.rs", .file (some "fn TestA() {}")),
    ("a_utprofile.yml", .file (some
      "source: lib.rs\ntest: tests.rs\ncases:\n- name: A\n"))], [], []⟩

/-- Of a source file and a test file that are both missing the former is told; and
    what stands in a source file does not matter. -/
theorem validateFile_stages_both_missing :
    let fs := withReferences "source: gone.rs\ntest: gone_tests.rs\n"
    (∃ e, FailsAt fs "a_utprofile.yml" .findSource e) ∧
    (∃ e, FailsAt fs "a_utprofile.yml" .readTest e) ∧
    (validateFile fs "a_utprofile.yml").result =
      .error (.missingSource "gone.rs" "a_utprofile.yml") ∧
    AgreesOn (withSourceText "fn f() {}") (withSourceText "fn (") "a_utprofile.yml" ∧
    validateFile (withSourceText "fn (") "a_utprofile.yml" =
      validateFile (withSourceText "fn f() {}") "a_utprofile.yml" := by
  intro fs
  obtain ⟨-, hfirst, -, -⟩ := validateFile_stages fs "a_utprofile.yml"
  obtain ⟨p, hload, hsource, htest⟩ := exists_load_of_files
    (show (loadProfile fs "a_utprofile.yml").map
      (fun p => (sourceOf "a_utprofile.yml" p, testOf "a_utprofile.yml" p)) =
        .ok ("gone.rs", "gone_tests.rs") by decide +kernel)
  have hmissing : FailsAt fs "a_utprofile.yml" .findSource
      (.missingSource (sourceOf "a_utprofile.yml" p) "a_utprofile.yml") :=
    .findSource hload (by rw [hsource]; rfl)
  have hunread : FailsAt fs "a_utprofile.yml" .readTest
      (.unreadableTest (testOf "a_utprofile.yml" p) .notFound) :=
    .readTest hload (by rw [htest]; rfl)
  rw [hsource] at hmissing
  obtain ⟨p', hload', hsource', htest'⟩ := exists_load_of_files
    (show (loadProfile (withSourceText "fn f() {}") "a_utprofile.yml").map
      (fun p => (sourceOf "a_utprofile.yml" p, testOf "a_utprofile.yml" p)) =
        .ok ("lib.rs", "tests.rs") by decide +kernel)
  have hagrees : AgreesOn (withSourceText "fn f() {}") (withSourceText "fn (") "a_utprofile.yml" := by
    refine ⟨rfl, fun q hq => ?_, fun q hq => ?_⟩
    · cases hload'.symm.trans hq
      rw [hsource']
      exact iff_of_false nofun nofun
    · cases hload'.symm.trans hq
      rw [htest']
      rfl
  refine ⟨⟨_, hmissing⟩, ⟨_, hunread⟩, ?_, hagrees, ?_⟩
  · refine (hfirst _).2 ⟨.findSource, hmissing, fun stage e hplace => ?_⟩
    exact passesUpTo_of_load hload stage e hplace
  · obtain ⟨-, -, hsame, -⟩ := validateFile_stages (withSourceText "fn f() {}") "a_utprofile.yml"
    exact hsame _ hagrees

end ProfileSync
