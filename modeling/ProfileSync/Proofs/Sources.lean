/-
  The source file of a profile.

  * `sourceOf` is the path of the source file of the profile at a path;
  * `checkProfile_of_missing` and `find_of_missingSource`: a profile is rejected for
    its source file just when nothing is found at this path;
  * `validateFile_source`: so what passes has its source file, unless the look-up of
    its path is broken off;
  * `validateFile_passes_without_source`: then it passes without one.
-/
import ProfileSync.Files.Edit
import ProfileSync.Proofs.LookUp
import ProfileSync.Proofs.Messages

namespace ProfileSync

/-- The path of the source file of the profile at `path`. -/
def sourceOf (path : String) (p : Profile) : String := joinPath (profileDirectory path) p.source

/-- The path of its test file. -/
def testOf (path : String) (p : Profile) : String := joinPath (profileDirectory path) p.test

section
variable {fs : FileSystem} {path : String} {p : Profile}

/-! ## The check of the source file -/

theorem checkSource_eq_error_iff {source : String} {e : Failure} :
    checkSource fs path source = .error e ↔
      fs.find source = .error .notFound ∧ e = .missingSource source path := by
  unfold checkSource
  cases fs.find source with
  | ok entry => simp
  | error fault => cases fault <;> simp [eq_comm]

theorem checkSource_eq_ok_iff {source : String} :
    checkSource fs path source = .ok () ↔ fs.find source ≠ .error .notFound := by
  cases h : checkSource fs path source with
  | ok u =>
    refine iff_of_true rfl fun hfind => ?_
    rw [checkSource_eq_error_iff.2 ⟨hfind, rfl⟩] at h
    cases h
  | error e => simp [(checkSource_eq_error_iff.1 h).1]

/-- What is left of the check of a profile once it has been loaded. -/
theorem checkProfile_of_load (hload : loadProfile fs path = .ok p) :
    checkProfile fs path = Logged.ofExcept (checkSource fs path (sourceOf path p)) >>= fun _ =>
      readTestFile fs (testOf path p) >>= fun d =>
        .ofExcept ((validate p d).mapError (.mismatch path)) := by
  unfold checkProfile
  rw [hload, Logged.bind_of_ok rfl]
  rfl

/-- Nothing else is looked at once the source file is missed. -/
theorem checkProfile_of_missing (hload : loadProfile fs path = .ok p)
    (hfind : fs.find (sourceOf path p) = .error .notFound) :
    checkProfile fs path = ⟨[], .error (.missingSource (sourceOf path p) path)⟩ := by
  rw [checkProfile_of_load hload, checkSource_eq_error_iff.2 ⟨hfind, rfl⟩, Logged.bind_of_error rfl]
  rfl

/-- A profile whose source file is not missed is compared with its test file. -/
theorem result_checkProfile (hload : loadProfile fs path = .ok p)
    (hfind : fs.find (sourceOf path p) ≠ .error .notFound) :
    (checkProfile fs path).result = (readTestFile fs (testOf path p)).result.bind fun d =>
      (validate p d).mapError (Failure.mismatch path) := by
  rw [checkProfile_of_load hload, checkSource_eq_ok_iff.2 hfind, Logged.bind_of_ok rfl]
  cases htest : (readTestFile fs (testOf path p)).result with
  | error e => rw [Logged.bind_of_error htest]; rfl
  | ok d => rw [Logged.bind_of_ok htest]; rfl

theorem result_readTestFile_ne (source profile : String) :
    (readTestFile fs path).result ≠ .error (.missingSource source profile) := by
  unfold readTestFile
  split
  · simp [Logged.fail]
  · split
    · simp [Logged.fail]
    · rw [Logged.bind_of_ok rfl]
      simp [Pure.pure, Logged.pure]

/-- A profile is rejected for its source file only if nothing is found there. -/
theorem find_of_missingSource (hload : loadProfile fs path = .ok p) {source profile : String}
    (h : (checkProfile fs path).result = .error (.missingSource source profile)) :
    fs.find (sourceOf path p) = .error .notFound := by
  by_contra hfind
  rw [result_checkProfile hload hfind] at h
  cases htest : (readTestFile fs (testOf path p)).result with
  | error e =>
    rw [htest] at h
    cases h
    exact result_readTestFile_ne source profile htest
  | ok d =>
    rw [htest] at h
    change (validate p d).mapError (Failure.mismatch path) = _ at h
    cases hvalidate : validate p d with
    | error m => rw [hvalidate] at h; cases h
    | ok u => rw [hvalidate] at h; cases h

theorem exists_load_of_ok (h : (checkProfile fs path).result = .ok ()) :
    ∃ p, loadProfile fs path = .ok p := by
  unfold checkProfile at h
  obtain ⟨p, hload, -⟩ := Logged.bind_result_eq_ok_iff.1 h
  exact ⟨p, hload⟩

end

/-! ## Profiles that pass -/

/-- **A profile that passes has its source file**, unless the look-up of this is
    broken off.  If it is not, and nothing is there, then a profile that can be
    loaded is rejected with its paths, and nothing is said of it but that it was
    begun; and it is rejected so only if nothing is there. -/
theorem validateFile_source (fs : FileSystem) (path : String) :
    ((validateFile fs path).result = .ok () → ∃ p, loadProfile fs path = .ok p ∧
      ((∃ e, fs.LeadsTo (sourceOf path p) e) ∨ fs.Blocked (sourceOf path p))) ∧
    ∀ p, loadProfile fs path = .ok p →
      ((¬ ∃ e, fs.LeadsTo (sourceOf path p) e) → ¬ fs.Blocked (sourceOf path p) →
        validateFile fs path =
          ⟨[beginMessage path], .error (.missingSource (sourceOf path p) path)⟩) ∧
      ∀ source profile, (validateFile fs path).result = .error (.missingSource source profile) →
        (¬ ∃ e, fs.LeadsTo (sourceOf path p) e) ∧ ¬ fs.Blocked (sourceOf path p) := by
  have hmissing : ∀ p, loadProfile fs path = .ok p → (¬ ∃ e, fs.LeadsTo (sourceOf path p) e) →
      ¬ fs.Blocked (sourceOf path p) → validateFile fs path =
        ⟨[beginMessage path], .error (.missingSource (sourceOf path p) path)⟩ := by
    intro p hload hnone hblocked
    have hcheck := checkProfile_of_missing hload
      (FileSystem.find_eq_notFound_iff.2 ⟨hblocked, hnone⟩)
    rw [validateFile_of_error (by rw [hcheck]), hcheck]
  refine ⟨fun hok => ?_, fun p hload => ⟨hmissing p hload, fun source profile h => ?_⟩⟩
  · rw [result_validateFile] at hok
    obtain ⟨p, hload⟩ := exists_load_of_ok hok
    refine ⟨p, hload, ?_⟩
    by_contra hnot
    obtain ⟨hnone, hblocked⟩ := not_or.1 hnot
    rw [← result_validateFile, hmissing p hload hnone hblocked] at hok
    cases hok
  · rw [result_validateFile] at h
    exact (FileSystem.find_eq_notFound_iff.1 (find_of_missingSource hload h)).symm

/-- A profile passes though there is nothing where its source file should be. -/
structure PassesWithoutSource (fs : FileSystem) (path : String) (p : Profile) : Prop where
  load : loadProfile fs path = .ok p
  nothing : ¬ ∃ e, fs.LeadsTo (sourceOf path p) e
  passes : (validateFile fs path).result = .ok ()

/-- A profile with a source file at a path, with its test file and two links: one
    that leads to nothing and one that leads to itself. -/
def withSource (source : String) : FileSystem :=
  ⟨.directory [("tests.rs", .file (some "fn TestA() {}")), ("gone.rs", .link "nowhere.rs"),
    ("loop.rs", .link "loop.rs"),
    ("a_utprofile.yml", .file (some
      ("source: " ++ source ++ "\ntest: tests.rs\ncases:\n- name: A\n")))], [], []⟩

/-- What stands in it where its source file should be, and the path of that. -/
theorem exists_load_withSource (source : String) (fault : FileFault)
    (hload : (loadProfile (withSource source) "a_utprofile.yml").map (sourceOf "a_utprofile.yml") =
      .ok source)
    (hfind : ((withSource source).find source).map (fun _ => ()) = .error fault) :
    ∃ p, loadProfile (withSource source) "a_utprofile.yml" = .ok p ∧
      sourceOf "a_utprofile.yml" p = source ∧ (withSource source).find source = .error fault := by
  cases hp : loadProfile (withSource source) "a_utprofile.yml" with
  | error e => rw [hp] at hload; cases hload
  | ok p =>
    rw [hp] at hload
    cases hf : (withSource source).find source with
    | ok e => rw [hf] at hfind; cases hfind
    | error fault' =>
      rw [hf] at hfind
      cases hfind
      exact ⟨p, rfl, Except.ok.inj hload, rfl⟩

/-- A link that leads to nothing is no source file. -/
theorem validateFile_source_dangling :
    ∃ p, loadProfile (withSource "gone.rs") "a_utprofile.yml" = .ok p ∧
      sourceOf "a_utprofile.yml" p = "gone.rs" ∧
      (¬ ∃ e, (withSource "gone.rs").LeadsTo "gone.rs" e) ∧
      ¬ (withSource "gone.rs").Blocked "gone.rs" ∧
      validateFile (withSource "gone.rs") "a_utprofile.yml" =
        ⟨[beginMessage "a_utprofile.yml"], .error (.missingSource "gone.rs" "a_utprofile.yml")⟩ := by
  obtain ⟨p, hload, hsource, hfind⟩ :=
    exists_load_withSource "gone.rs" .notFound (by decide +kernel) (by decide +kernel)
  obtain ⟨hblocked, hnone⟩ := FileSystem.find_eq_notFound_iff.1 hfind
  obtain ⟨hmissing, -⟩ := (validateFile_source (withSource "gone.rs") "a_utprofile.yml").2 p hload
  rw [hsource] at hmissing
  exact ⟨p, hload, hsource, hnone, hblocked, hmissing hnone hblocked⟩

theorem passesWithoutSource_of_find (source : String) (fault : FileFault)
    (hload : (loadProfile (withSource source) "a_utprofile.yml").map (sourceOf "a_utprofile.yml") =
      .ok source)
    (hfind : ((withSource source).find source).map (fun _ => ()) = .error fault)
    (hpass : (validateFile (withSource source) "a_utprofile.yml").result = .ok ()) :
    ∃ p, PassesWithoutSource (withSource source) "a_utprofile.yml" p := by
  obtain ⟨p, hload, hsource, hfind⟩ := exists_load_withSource source fault hload hfind
  refine ⟨p, hload, ?_, hpass⟩
  rintro ⟨e, he⟩
  rw [hsource, ← FileSystem.find_eq_ok_iff, hfind] at he
  cases he

/-- **A profile can pass without a source file**: on the way to it there may be a
    file instead of a directory, or a link that leads to itself. -/
theorem validateFile_passes_without_source :
    (∃ p, PassesWithoutSource (withSource "tests.rs/a.rs") "a_utprofile.yml" p) ∧
      ∃ p, PassesWithoutSource (withSource "loop.rs") "a_utprofile.yml" p :=
  ⟨passesWithoutSource_of_find "tests.rs/a.rs" .notDirectory (by decide +kernel)
      (by decide +kernel) (by decide +kernel),
    passesWithoutSource_of_find "loop.rs" .tooManyLinks (by decide +kernel) (by decide +kernel)
      (by decide +kernel)⟩

/-- It passes as well if no name may be looked up in a directory on the way. -/
example : (validateFile ((withSource "locked/a.rs").applyAll
    [.makeDirectory "locked", .refuse "locked" .search .denied]) "a_utprofile.yml").result =
      .ok () := by decide +kernel

end ProfileSync
