/-
  Directories that pass.

  * `Selector.validateDirectory_covers`: a directory passes if each profile does
    that it is searched for, and the answer lists just these, in order.
-/
import ProfileSync.Check.Validation
import ProfileSync.Proofs.Walk

namespace ProfileSync

/-! ## The profiles of a directory -/

theorem result_validateMet_of_ok {fs : FileSystem} {directory path : String}
    (h : (validateFile fs path).result = .ok ()) :
    (validateMet fs directory (.ok path)).result = .ok path := by
  change (validateFile fs path >>= fun _ => Logged.pure path).result = _
  rw [Logged.bind_of_ok h]
  rfl

theorem validateMet_of_error {fs : FileSystem} {directory path : String} {e : Failure}
    (h : (validateFile fs path).result = .error e) :
    validateMet fs directory (.ok path) = ⟨(validateFile fs path).messages, .error e⟩ := by
  change (validateFile fs path >>= fun _ => Logged.pure path) = _
  rw [Logged.bind_of_error h]

theorem messages_validateMet (fs : FileSystem) (directory path : String) :
    (validateMet fs directory (.ok path)).messages = (validateFile fs path).messages := by
  change (validateFile fs path >>= fun _ => Logged.pure path).messages = _
  cases h : (validateFile fs path).result with
  | error e => rw [Logged.bind_of_error h]
  | ok u => rw [Logged.bind_of_ok h]; simp [Logged.pure]

namespace Selector

variable {s : Selector} {fs : FileSystem} {directory : String} {recursive : Bool}
  {entries entries' : List (String × Entry)} {l : Location}

theorem profilesBelow_eq (h : fs.find directory = .ok (.directory entries)) :
    s.profilesBelow fs directory recursive = s.walk fs recursive directory entries := by
  rw [profilesBelow, h]

theorem result_validateDirectory : (s.validateDirectory fs directory recursive).result =
    (Logged.each (validateMet fs directory) (s.profilesBelow fs directory recursive)).result := by
  unfold validateDirectory
  cases h : (Logged.each (validateMet fs directory) (s.profilesBelow fs directory recursive)).result with
  | error e => rw [Logged.bind_of_error h]
  | ok paths => rw [Logged.bind_of_ok h]; rfl

/-- What is met passes if it is a list of profiles, and each of them does. -/
theorem result_each_validateMet_eq_ok_iff {found : List Met} {paths : List String} :
    (Logged.each (validateMet fs directory) found).result = .ok paths ↔
      found = paths.map .ok ∧ ∀ path ∈ paths, (validateFile fs path).result = .ok () := by
  constructor
  · intro h
    induction found generalizing paths with
    | nil =>
      cases h
      exact ⟨rfl, by simp⟩
    | cons m found ih =>
      rw [Logged.each_cons, Logged.bind_result_eq_ok_iff] at h
      obtain ⟨path, hpath, h⟩ := h
      obtain ⟨rest, hrest, h⟩ := Logged.bind_result_eq_ok_iff.1 h
      cases h
      obtain ⟨rfl, hpass⟩ := ih hrest
      cases m with
      | error place => cases hpath
      | ok path' =>
        obtain ⟨_, hfile, hreturn⟩ := Logged.bind_result_eq_ok_iff.1 hpath
        cases hreturn
        exact ⟨rfl, List.forall_mem_cons.2 ⟨hfile, hpass⟩⟩
  · rintro ⟨rfl, hpass⟩
    rw [Logged.each_map]
    have heach := Logged.each_result_of_ok (f := fun path => validateMet fs directory (.ok path))
      (g := id) fun path hpath => result_validateMet_of_ok (hpass path hpath)
    rwa [List.map_id] at heach

/-- A directory passes with a list of profiles if these are met below it, nothing
    else is, and each of them passes. -/
theorem result_validateDirectory_eq_ok_iff {paths : List String} :
    (s.validateDirectory fs directory recursive).result = .ok paths ↔
      s.profilesBelow fs directory recursive = paths.map .ok ∧
        ∀ path ∈ paths, (validateFile fs path).result = .ok () := by
  rw [result_validateDirectory, result_each_validateMet_eq_ok_iff]

/-- **Validating a directory covers the right files.**  If each directory below it
    that is to be searched can be read, then it passes if and only if each profile
    does that it is searched for.  The answer lists these, each once, in the order
    of their paths. -/
theorem validateDirectory_covers (hwell : fs.root.WellFormed)
    (hdir : fs.find directory = .ok (.directory entries))
    (hread : ∀ l, ¬ s.Unreadable fs directory entries recursive l) :
    ((∃ paths, (s.validateDirectory fs directory recursive).result = .ok paths) ↔
      ∀ l, s.Selects entries recursive l →
        (validateFile fs (pathBelow directory l)).result = .ok ()) ∧
    ∀ paths, (s.validateDirectory fs directory recursive).result = .ok paths →
      paths.Pairwise PathBefore ∧
        ∃ ls : List Location, ls.Nodup ∧ (∀ l, l ∈ ls ↔ s.Selects entries recursive l) ∧
          paths = ls.map (pathBelow directory) := by
  have hentries : (Entry.directory entries).WellFormed := FileSystem.find_wellFormed hwell hdir
  obtain ⟨ls, hsorted, hselects, hwalk⟩ := exists_walk_eq hentries hread
  rw [result_validateDirectory, profilesBelow_eq hdir, hwalk, Logged.each_map]
  have hpass : (∀ l ∈ ls, (validateFile fs (pathBelow directory l)).result = .ok ()) →
      (Logged.each (fun l => validateMet fs directory (.ok (pathBelow directory l))) ls).result =
        .ok (ls.map (pathBelow directory)) := fun hall =>
    Logged.each_result_of_ok fun l hl => result_validateMet_of_ok (hall l hl)
  have hall : ∀ paths, (Logged.each (fun l => validateMet fs directory
      (.ok (pathBelow directory l))) ls).result = .ok paths →
        ∀ l ∈ ls, (validateFile fs (pathBelow directory l)).result = .ok () := by
    intro paths hpaths l hl
    obtain ⟨path, hpath⟩ := Logged.exists_of_each_result_ok hpaths l hl
    cases h : (validateFile fs (pathBelow directory l)).result with
    | ok u => rfl
    | error e =>
      rw [validateMet_of_error h] at hpath
      cases hpath
  refine ⟨⟨fun ⟨paths, hpaths⟩ l hl => hall paths hpaths l ((hselects l).2 hl), fun h =>
    ⟨_, hpass fun l hl => h l ((hselects l).1 hl)⟩⟩, fun paths hpaths => ?_⟩
  have heq : paths = ls.map (pathBelow directory) :=
    Except.ok.inj (hpaths.symm.trans (hpass (hall paths hpaths)))
  refine ⟨?_, ls, hsorted.imp ne_of_lt, hselects, heq⟩
  rw [heq, List.pairwise_map]
  exact hsorted.imp_of_mem fun {l l'} hl hl' hlt =>
    (((hselects l).1 hl).pathBefore_iff ((hselects l').1 hl') hentries).2 hlt

/-- The selector of the default configuration. -/
def standard : Selector :=
  ⟨(Pattern.ofText? defaultProfilePattern).get (by decide +kernel), Config.default.skipDirs⟩

theorem ofConfig_default : ofConfig .default = .ok standard := by
  have hpattern : Pattern.ofText? Config.default.profilePattern = some standard.pattern :=
    Option.eq_some_of_isSome (by decide)
  rw [ofConfig, hpattern]
  rfl

/-- A directory with a profile, its files, and another profile in a directory
    that is skipped. -/
def projectEntries : List (String × Entry) :=
  [("tests.rs", .file (some "fn TestA() {}")),
    ("a_utprofile.yml", .file (some "source: tests.rs\ntest: tests.rs\ncases:\n- name: A\n")),
    ("target", .directory [("b_utprofile.yml", .file none)])]

/-- A file system with this directory as its root. -/
def project : FileSystem := ⟨.directory projectEntries, [], []⟩

theorem project_wellFormed : project.root.WellFormed := by
  refine .directory (by decide) (by decide) ?_
  simp only [projectEntries, List.forall_mem_cons]
  exact ⟨.file, .file, .directory (by decide) (by decide)
    (by simp [Entry.WellFormed.file]), by simp⟩

theorem project_flat (name : String) (inner : List (String × Entry))
    (h : (name, Entry.directory inner) ∈ projectEntries) (_ : true = true) :
    name ∈ standard.skipDirs := by
  simp only [projectEntries, List.mem_cons, Prod.mk.injEq, reduceCtorEq, and_false, false_or,
    List.not_mem_nil, or_false] at h
  rw [h.1]
  decide

theorem selects_project_iff {l : Location} :
    standard.Selects projectEntries true l ↔ l = ["a_utprofile.yml"] := by
  rw [selects_iff_of_flat project_wellFormed project_flat]
  constructor
  · rintro ⟨name, e, rfl, hmem, hdir, hmatches⟩
    simp only [projectEntries, List.mem_cons, Prod.mk.injEq, List.not_mem_nil, or_false] at hmem
    rcases hmem with ⟨rfl, -⟩ | ⟨rfl, -⟩ | ⟨-, rfl⟩
    · exact absurd hmatches (by decide)
    · rfl
    · exact absurd trivial hdir
  · rintro rfl
    exact ⟨_, _, rfl, .tail _ (.head _), id, by decide⟩

theorem validateDirectory_covers_project : project.root.WellFormed ∧
    project.find "." = .ok (.directory projectEntries) ∧
    (∀ l, ¬ standard.Unreadable project "." projectEntries true l) ∧
    (standard.validateDirectory project "." true).result = .ok ["./a_utprofile.yml"] := by
  have hfind : project.find "." = .ok (.directory projectEntries) := rfl
  have hread : ∀ l, ¬ standard.Unreadable project "." projectEntries true l := fun l =>
    not_unreadable_of_flat project_wellFormed project_flat ⟨projectEntries, rfl⟩
  obtain ⟨hiff, hlist⟩ := validateDirectory_covers project_wellFormed hfind hread
  have hpass : ∀ l, standard.Selects projectEntries true l →
      (validateFile project (pathBelow "." l)).result = .ok () := by
    intro l hl
    rw [selects_project_iff.1 hl]
    decide +kernel
  obtain ⟨paths, hpaths⟩ := hiff.2 hpass
  obtain ⟨-, ls, hnodup, hmem, rfl⟩ := hlist paths hpaths
  have hls : ls = [["a_utprofile.yml"]] := by
    refine List.perm_singleton.1 ((List.perm_ext_iff_of_nodup hnodup (List.nodup_singleton _)).2 ?_)
    intro l
    rw [hmem, selects_project_iff, List.mem_singleton]
  subst hls
  exact ⟨project_wellFormed, hfind, hread, hpaths⟩

end Selector

end ProfileSync
