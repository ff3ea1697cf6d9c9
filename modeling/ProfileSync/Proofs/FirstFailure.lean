/-
  The first profile of a directory that fails.

  * `Selector.FirstFailure.validateDirectory_eq`: the run ends with it;
  * `Selector.validateDirectory_first_failure`: its failure is the answer, what is
    written ends with the line that begins it, and what only other profiles read
    does not matter.
-/
import Mathlib.Data.Set.Finite.Lemmas
import ProfileSync.Proofs.Frame
import ProfileSync.Proofs.Messages

namespace ProfileSync

namespace Selector

variable {s : Selector} {fs : FileSystem} {directory : String} {recursive : Bool}
  {entries entries' : List (String × Entry)} {l : Location}

/-! ## The first failure -/

theorem Covers.congr {e : Entry} (hshape : SameShape entries entries')
    (h : s.Covers entries recursive l e) :
    ∃ e', s.Covers entries' recursive l e' ∧ (e.IsDirectory ↔ e'.IsDirectory) := by
  have hl := hshape l
  rw [h.found] at hl
  generalize hat : (Entry.directory entries').at? l = found at hl
  cases hl with
  | @some _ e' hdir => exact ⟨e', ⟨hat, h.below, h.depth, h.entered⟩, hdir⟩

theorem Selects.congr (hshape : SameShape entries entries') (h : s.Selects entries recursive l) :
    s.Selects entries' recursive l := by
  obtain ⟨e, hcovers, hdir, hname⟩ := h
  obtain ⟨e', hcovers', hiff⟩ := hcovers.congr hshape
  exact ⟨e', hcovers', fun hdir' => hdir (hiff.2 hdir'), hname⟩

theorem Enters.congr (hshape : SameShape entries entries') (h : s.Enters entries recursive l) :
    s.Enters entries' recursive l := by
  rcases h with rfl | ⟨hrecursive, e, hcovers, hdir, hnames⟩
  · exact .inl rfl
  · obtain ⟨e', hcovers', hiff⟩ := hcovers.congr hshape
    exact .inr ⟨hrecursive, e', hcovers', hiff.1 hdir, hnames⟩

/-- In two file systems that differ in texts only the same directories cannot be
    read. -/
theorem Unreadable.of_sameBut {changed : Location → Prop} {fs' : FileSystem}
    (hsame : fs.SameBut changed fs') (hshape : SameShape entries entries')
    (h : s.Unreadable fs' directory entries' recursive l) :
    s.Unreadable fs directory entries recursive l := by
  obtain ⟨henters, fault, hopen⟩ := h
  exact ⟨henters.congr hshape.symm, fault, hsame.openDirectory_eq_error_iff.1 hopen⟩

/-- At a location there is the first profile that fails of those that a directory
    is searched for. -/
structure FirstFailure (s : Selector) (fs : FileSystem) (directory : String)
    (entries : List (String × Entry)) (recursive : Bool) (l : Location) (e : Failure) : Prop where
  selects : s.Selects entries recursive l
  fails : (validateFile fs (pathBelow directory l)).result = .error e
  first : ∀ l', s.Selects entries recursive l' →
    PathBefore (pathBelow directory l') (pathBelow directory l) →
      (validateFile fs (pathBelow directory l')).result = .ok ()

/-- Among the profiles that fail there is a first one. -/
theorem exists_firstFailure (hentries : (Entry.directory entries).WellFormed)
    (h : ∃ l, s.Selects entries recursive l ∧
      (validateFile fs (pathBelow directory l)).result ≠ .ok ()) :
    ∃ l e, s.FirstFailure fs directory entries recursive l e := by
  have hfinite : {l | s.Selects entries recursive l ∧
      (validateFile fs (pathBelow directory l)).result ≠ .ok ()}.Finite := by
    refine (Entry.finite_locations (.directory entries)).subset fun l hl => ?_
    obtain ⟨⟨e, hcovers, -⟩, -⟩ := hl
    exact Option.isSome_iff_exists.2 ⟨e, hcovers.found⟩
  obtain ⟨l, ⟨hl, hfail⟩, hfirst⟩ := Set.exists_min_image _ id hfinite h
  cases hresult : (validateFile fs (pathBelow directory l)).result with
  | ok u => exact absurd hresult hfail
  | error e =>
    refine ⟨l, e, hl, hresult, fun l' hl' hbefore => ?_⟩
    by_contra hfail'
    refine absurd (hfirst l' ⟨hl', hfail'⟩) (not_le_of_gt ?_)
    exact (hl'.pathBefore_iff hl hentries).1 hbefore

/-- Profiles that pass have two lines each. -/
theorem output_passed {ls : List Location}
    (hpass : ∀ l ∈ ls, (validateFile fs (pathBelow directory l)).result = .ok ()) :
    Output.ofMessages .normal false
        (ls.flatMap fun l => (validateFile fs (pathBelow directory l)).messages) =
      ⟨String.join ((ls.map (pathBelow directory)).map fun p => beginLine p ++ passLine p), ""⟩ := by
  induction ls with
  | nil => rfl
  | cons l ls ih =>
    obtain ⟨hl, hls⟩ := List.forall_mem_cons.1 hpass
    have hhead := output_validateFile_of_ok hl
    rw [Logged.output] at hhead
    rw [List.flatMap_cons, Output.ofMessages_append, hhead, ih hls]
    simp only [List.map_cons, String.join_cons]
    rfl

namespace FirstFailure

variable {e : Failure}

/-- The same profile is the first that fails if those up to it are validated as
    before. -/
theorem congr {fs' : FileSystem} (h : s.FirstFailure fs directory entries recursive l e)
    (hshape : SameShape entries entries')
    (hvalidate : ∀ l', s.Selects entries recursive l' →
      ¬ PathBefore (pathBelow directory l) (pathBelow directory l') →
        validateFile fs' (pathBelow directory l') = validateFile fs (pathBelow directory l')) :
    s.FirstFailure fs' directory entries' recursive l e where
  selects := h.selects.congr hshape
  fails := by rw [hvalidate l h.selects (PathBefore.irrefl _), h.fails]
  first := by
    intro l' hl' hbefore
    have hselects := hl'.congr hshape.symm
    rw [hvalidate l' hselects fun hafter => PathBefore.irrefl _ (hafter.trans hbefore)]
    exact h.first l' hselects hbefore

/-- **The run ends with the first profile that fails.** -/
theorem validateDirectory_eq (h : s.FirstFailure fs directory entries recursive l e)
    (hentries : (Entry.directory entries).WellFormed)
    (hdir : fs.find directory = .ok (.directory entries))
    (hread : ∀ l', s.Unreadable fs directory entries recursive l' →
      ¬ PathBefore (pathBelow directory l') (pathBelow directory l)) :
    ∃ ls : List Location, ls.Pairwise (· < ·) ∧
      (∀ l', l' ∈ ls ↔ s.Selects entries recursive l' ∧ l' < l) ∧
        s.validateDirectory fs directory recursive =
          ⟨(ls.flatMap fun l' => (validateFile fs (pathBelow directory l')).messages) ++
            (validateFile fs (pathBelow directory l)).messages, .error e⟩ := by
  obtain ⟨ls, after, hsorted, hmem, hwalk⟩ := h.selects.exists_walk_eq hentries
    fun l' hlt hunreadable => hread l' hunreadable (pathBefore_of_lt directory
      (hunreadable.validName hentries) (h.selects.validName hentries) hlt)
  refine ⟨ls, hsorted, hmem, ?_⟩
  have hpass : ∀ m ∈ ls.map fun l' => Except.ok (pathBelow directory l'),
      ∃ path, (validateMet fs directory m).result = .ok path := by
    intro m hm
    obtain ⟨l', hl', rfl⟩ := List.mem_map.1 hm
    obtain ⟨hselects, hlt⟩ := (hmem l').1 hl'
    exact ⟨_, result_validateMet_of_ok (h.first l' hselects
      ((hselects.pathBefore_iff h.selects hentries).2 hlt))⟩
  have hmet : (validateMet fs directory (.ok (pathBelow directory l))).result = .error e := by
    rw [validateMet_of_error h.fails]
  unfold validateDirectory
  rw [profilesBelow_eq hdir, hwalk, Logged.each_of_error hpass hmet, Logged.bind_of_error rfl,
    List.flatMap_map]
  simp only [messages_validateMet]

/-- Two lines for each profile before the first failure, and one for it. -/
theorem exists_output_eq (h : s.FirstFailure fs directory entries recursive l e)
    (hentries : (Entry.directory entries).WellFormed)
    (hdir : fs.find directory = .ok (.directory entries))
    (hread : ∀ l', s.Unreadable fs directory entries recursive l' →
      ¬ PathBefore (pathBelow directory l') (pathBelow directory l)) :
    ∃ before : List String, before.Pairwise PathBefore ∧
      (∀ p, p ∈ before ↔ ∃ l', s.Selects entries recursive l' ∧ pathBelow directory l' = p ∧
        PathBefore p (pathBelow directory l)) ∧
      (s.validateDirectory fs directory recursive).output .normal false =
        ⟨String.join (before.map fun p => beginLine p ++ passLine p) ++
          beginLine (pathBelow directory l), ""⟩ := by
  obtain ⟨ls, hsorted, hmem, hrun⟩ := h.validateDirectory_eq hentries hdir hread
  refine ⟨ls.map (pathBelow directory), ?_, fun p => ?_, ?_⟩
  · rw [List.pairwise_map]
    exact hsorted.imp_of_mem fun {a b} ha hb hlt =>
      (((hmem a).1 ha).1.pathBefore_iff ((hmem b).1 hb).1 hentries).2 hlt
  · rw [List.mem_map]
    constructor
    · rintro ⟨l', hl', rfl⟩
      obtain ⟨hselects, hlt⟩ := (hmem l').1 hl'
      exact ⟨l', hselects, rfl, (hselects.pathBefore_iff h.selects hentries).2 hlt⟩
    · rintro ⟨l', hselects, rfl, hpath⟩
      exact ⟨l', (hmem l').2 ⟨hselects, (hselects.pathBefore_iff h.selects hentries).1 hpath⟩, rfl⟩
  · have hpass : ∀ l' ∈ ls, (validateFile fs (pathBelow directory l')).result = .ok () := by
      intro l' hl'
      obtain ⟨hselects, hlt⟩ := (hmem l').1 hl'
      exact h.first l' hselects ((hselects.pathBefore_iff h.selects hentries).2 hlt)
    have hlast := output_validateFile_of_error h.fails
    rw [Logged.output] at hlast
    rw [hrun, Logged.output, Output.ofMessages_append, output_passed hpass, hlast]
    rfl

/-- The run is the same if the profiles up to the first failure are validated as
    before. -/
theorem validateDirectory_congr {changed : Location → Prop} {fs' : FileSystem}
    (hsame : fs.SameBut changed fs')
    (h : s.FirstFailure fs directory entries recursive l e)
    (hentries : (Entry.directory entries).WellFormed)
    (hentries' : (Entry.directory entries').WellFormed)
    (hdir : fs.find directory = .ok (.directory entries))
    (hdir' : fs'.find directory = .ok (.directory entries')) (hshape : SameShape entries entries')
    (hread : ∀ l', s.Unreadable fs directory entries recursive l' →
      ¬ PathBefore (pathBelow directory l') (pathBelow directory l))
    (hvalidate : ∀ l', s.Selects entries recursive l' →
      ¬ PathBefore (pathBelow directory l) (pathBelow directory l') →
        validateFile fs' (pathBelow directory l') = validateFile fs (pathBelow directory l')) :
    s.validateDirectory fs' directory recursive = s.validateDirectory fs directory recursive := by
  obtain ⟨ls, hsorted, hmem, hrun⟩ := h.validateDirectory_eq hentries hdir hread
  obtain ⟨ls', hsorted', hmem', hrun'⟩ := (h.congr hshape hvalidate).validateDirectory_eq hentries'
    hdir' fun l' hunreadable => hread l' (hunreadable.of_sameBut hsame hshape)
  have hls : ls' = ls := by
    refine List.Pairwise.eq_of_mem_iff hsorted' hsorted fun l' => ?_
    rw [hmem', hmem]
    exact and_congr_left fun _ => ⟨fun h => h.congr hshape.symm, fun h => h.congr hshape⟩
  have hmessages : ∀ l' ∈ ls, (validateFile fs' (pathBelow directory l')).messages =
      (validateFile fs (pathBelow directory l')).messages := by
    intro l' hl'
    obtain ⟨hselects, hlt⟩ := (hmem l').1 hl'
    have hpath : PathBefore (pathBelow directory l') (pathBelow directory l) :=
      (hselects.pathBefore_iff h.selects hentries).2 hlt
    rw [hvalidate l' hselects fun hafter => PathBefore.irrefl _ (hafter.trans hpath)]
  rw [hrun', hrun, hls, hvalidate l h.selects (PathBefore.irrefl _), List.flatMap_congr hmessages]

end FirstFailure

/-- **The first failure ends the run.**  If some profile fails, then there is a
    first one, and if each directory before it can be read, the answer is its
    failure.  At the normal level there are two lines for each profile before it,
    in order, and the line that begins it.  Nothing of this depends on the text of
    a file that neither it nor a profile before it reads. -/
theorem validateDirectory_first_failure (hwell : fs.root.WellFormed)
    (hdir : fs.find directory = .ok (.directory entries))
    (hfail : ∃ l, s.Selects entries recursive l ∧
      (validateFile fs (pathBelow directory l)).result ≠ .ok ()) :
    ∃ l e, s.FirstFailure fs directory entries recursive l e ∧
      ((∀ l', s.Unreadable fs directory entries recursive l' →
          ¬ PathBefore (pathBelow directory l') (pathBelow directory l)) →
        (s.validateDirectory fs directory recursive).result = .error e ∧
        (∃ before : List String, before.Pairwise PathBefore ∧
          (∀ p, p ∈ before ↔ ∃ l', s.Selects entries recursive l' ∧ pathBelow directory l' = p ∧
            PathBefore p (pathBelow directory l)) ∧
          (s.validateDirectory fs directory recursive).output .normal false =
            ⟨String.join (before.map fun p => beginLine p ++ passLine p) ++
              beginLine (pathBelow directory l), ""⟩) ∧
        ∀ changed fs', fs'.root.WellFormed → fs.SameBut changed fs' →
          (∀ l', s.Selects entries recursive l' →
            ¬ PathBefore (pathBelow directory l) (pathBelow directory l') →
              ∀ place, ReadsAt fs (pathBelow directory l') place → ¬ changed place) →
          s.validateDirectory fs' directory recursive =
            s.validateDirectory fs directory recursive) := by
  have hentries : (Entry.directory entries).WellFormed := FileSystem.find_wellFormed hwell hdir
  obtain ⟨l, e, hfirst⟩ := exists_firstFailure hentries hfail
  refine ⟨l, e, hfirst, fun hread => ⟨?_, hfirst.exists_output_eq hentries hdir hread, ?_⟩⟩
  · obtain ⟨ls, -, -, hrun⟩ := hfirst.validateDirectory_eq hentries hdir hread
    rw [hrun]
  · intro changed fs' hwell' hsame hchanged
    obtain ⟨entries', hdir', hshape⟩ := hsame.find_directory hdir
    have hentries' : (Entry.directory entries').WellFormed :=
      FileSystem.find_wellFormed hwell' hdir'
    exact hfirst.validateDirectory_congr hsame hentries hentries' hdir hdir' hshape hread
      fun l' hl' hnot => validateFile_congr hsame (hchanged l' hl' hnot)

/-! ## A run that ends with a failure -/

/-- The text of a profile with one case. -/
def profileOf (test case : String) : String :=
  "source: " ++ test ++ "\ntest: " ++ test ++ "\ncases:\n- name: " ++ case ++ "\n"

/-- A directory with a profile that passes, one that does not, and a third one. -/
def failingEntries (third : Option String) : List (String × Entry) :=
  [("tests.rs", .file (some "fn TestA() {}")),
    ("a_utprofile.yml", .file (some (profileOf "tests.rs" "A"))),
    ("b_utprofile.yml", .file (some (profileOf "tests.rs" "B"))),
    ("c_utprofile.yml", .file third)]

/-- A file system with this directory as its root. -/
def failing (third : Option String) : FileSystem := ⟨.directory (failingEntries third), [], []⟩

theorem failing_wellFormed (third : Option String) : (failing third).root.WellFormed := by
  refine .directory ?_ ?_ (by simp [failingEntries, Entry.WellFormed.file])
  · change ["tests.rs", "a_utprofile.yml", "b_utprofile.yml", "c_utprofile.yml"].Nodup
    decide
  · simp only [failingEntries, List.forall_mem_cons]
    exact ⟨by decide, by decide, by decide, by decide, by simp⟩

theorem selects_failing_iff {third : Option String} {l : Location} :
    standard.Selects (failingEntries third) false l ↔
      l = ["a_utprofile.yml"] ∨ l = ["b_utprofile.yml"] ∨ l = ["c_utprofile.yml"] := by
  rw [selects_iff_of_flat (failing_wellFormed third) fun _ _ _ h => absurd h (by simp)]
  constructor
  · rintro ⟨name, e, rfl, hmem, hdir, hmatches⟩
    simp only [failingEntries, List.mem_cons, Prod.mk.injEq, List.not_mem_nil, or_false] at hmem
    rcases hmem with ⟨rfl, -⟩ | ⟨rfl, -⟩ | ⟨rfl, -⟩ | ⟨rfl, -⟩
    · exact absurd hmatches (by decide)
    · exact .inl rfl
    · exact .inr (.inl rfl)
    · exact .inr (.inr rfl)
  · rintro (rfl | rfl | rfl)
    · exact ⟨_, _, rfl, .tail _ (.head _), id, by decide⟩
    · exact ⟨_, _, rfl, .tail _ (.tail _ (.head _)), id, by decide⟩
    · exact ⟨_, _, rfl, .tail _ (.tail _ (.tail _ (.head _))), id, by decide⟩

/-- Both file systems are the same but for the third profile. -/
theorem failing_sameBut (third third' : Option String) :
    (failing third).SameBut (· = ["c_utprofile.yml"]) (failing third') where
  workingDirectory := rfl
  refusals := rfl
  alike := by
    intro l
    cases l with
    | nil => exact .some .directory
    | cons name l =>
      rw [failing, failing, Entry.at?_directory, Entry.at?_directory]
      by_cases hname : name = "c_utprofile.yml"
      · have hthird : ∀ t, (failingEntries t).lookup name = some (.file t) := by
          intro t
          rw [hname]
          rfl
        rw [hthird, hthird, Option.bind_some, Option.bind_some]
        cases l with
        | nil => exact .some (.file fun hnot => absurd (by rw [hname]) hnot)
        | cons => exact .none
      · have hsame : (failingEntries third').lookup name = (failingEntries third).lookup name := by
          simp [failingEntries, List.lookup_cons, beq_false_of_ne hname]
        rw [hsame]
        cases ((failingEntries third).lookup name).bind (·.at? l) with
        | none => exact .none
        | some e => exact .some (.refl e)

/-- Neither of the first two profiles reads the third one. -/
theorem not_readsAt_third {path : String} {place : Location}
    (hpath : path = "./a_utprofile.yml" ∨ path = "./b_utprofile.yml")
    (h : ReadsAt (failing none) path place) : place ≠ ["c_utprofile.yml"] := by
  have hplace : (failing none).locate true path = .ok place →
      place = ["a_utprofile.yml"] ∨ place = ["b_utprofile.yml"] := by
    have ha : (failing none).locate true "./a_utprofile.yml" = .ok ["a_utprofile.yml"] := by
      decide
    have hb : (failing none).locate true "./b_utprofile.yml" = .ok ["b_utprofile.yml"] := by
      decide
    intro hlocate
    rcases hpath with rfl | rfl
    · exact .inl (Except.ok.inj (hlocate.symm.trans ha))
    · exact .inr (Except.ok.inj (hlocate.symm.trans hb))
  have htest : ∀ p, loadProfile (failing none) path = .ok p →
      joinPath (profileDirectory path) p.test = "./tests.rs" := by
    have ha : (loadProfile (failing none) "./a_utprofile.yml").map
        (fun p => joinPath (profileDirectory "./a_utprofile.yml") p.test) = .ok "./tests.rs" := by
      decide +kernel
    have hb : (loadProfile (failing none) "./b_utprofile.yml").map
        (fun p => joinPath (profileDirectory "./b_utprofile.yml") p.test) = .ok "./tests.rs" := by
      decide +kernel
    intro p hload
    rcases hpath with rfl | rfl
    · rw [hload] at ha
      exact Except.ok.inj ha
    · rw [hload] at hb
      exact Except.ok.inj hb
  rcases h with hlocate | ⟨p, hload, hlocate⟩
  · rcases hplace hlocate with rfl | rfl <;> decide
  · have htests : (failing none).locate true "./tests.rs" = .ok ["tests.rs"] := by decide
    rw [htest p hload, htests] at hlocate
    rw [← Except.ok.inj hlocate]
    decide

theorem validateDirectory_first_failure_second :
    (failing none).root.WellFormed ∧
    (failing none).find "." = .ok (.directory (failingEntries none)) ∧
    (∃ l, standard.Selects (failingEntries none) false l ∧
      (validateFile (failing none) (pathBelow "." l)).result ≠ .ok ()) ∧
    (standard.validateDirectory (failing none) "." false).result =
      .error (.mismatch "./b_utprofile.yml" (.missing "TestB" 1)) ∧
    (standard.validateDirectory (failing none) "." false).output .normal false =
      ⟨"[INFO] Validating ./a_utprofile.yml\n[OK] Validating ./a_utprofile.yml passed\n" ++
        "[INFO] Validating ./b_utprofile.yml\n", ""⟩ ∧
    ∀ third, standard.validateDirectory (failing third) "." false =
      standard.validateDirectory (failing none) "." false := by
  have hfind : (failing none).find "." = .ok (.directory (failingEntries none)) := rfl
  have ha : (validateFile (failing none) (pathBelow "." ["a_utprofile.yml"])).result = .ok () := by
    decide +kernel
  have hb : (validateFile (failing none) (pathBelow "." ["b_utprofile.yml"])).result =
      .error (.mismatch "./b_utprofile.yml" (.missing "TestB" 1)) := by decide +kernel
  have hsecond : standard.Selects (failingEntries none) false ["b_utprofile.yml"] :=
    selects_failing_iff.2 (.inr (.inl rfl))
  have hfails : ∃ l, standard.Selects (failingEntries none) false l ∧
      (validateFile (failing none) (pathBelow "." l)).result ≠ .ok () :=
    ⟨_, hsecond, by rw [hb]; simp⟩
  obtain ⟨l, e, hfirst, hrun⟩ :=
    validateDirectory_first_failure (failing_wellFormed none) hfind hfails
  have hl : l = ["b_utprofile.yml"] := by
    rcases selects_failing_iff.1 hfirst.selects with rfl | rfl | rfl
    · exact absurd (ha.symm.trans hfirst.fails) (by simp)
    · rfl
    · exact absurd (hb.symm.trans (hfirst.first _ hsecond (by decide))) (by simp)
  subst hl
  have he : e = .mismatch "./b_utprofile.yml" (.missing "TestB" 1) :=
    Except.error.inj (hfirst.fails.symm.trans hb)
  obtain ⟨hresult, ⟨before, hsorted, hmem, houtput⟩, hframe⟩ := hrun fun l' hunreadable =>
    absurd hunreadable (not_unreadable_of_flat (failing_wellFormed none)
      (fun _ _ _ h => absurd h (by simp)) ⟨_, rfl⟩)
  have hbefore : before = ["./a_utprofile.yml"] := by
    refine List.perm_singleton.1 ((List.perm_ext_iff_of_nodup (hsorted.imp PathBefore.ne)
      (List.nodup_singleton _)).2 ?_)
    intro p
    rw [hmem, List.mem_singleton]
    constructor
    · rintro ⟨l', hl', rfl, hpath⟩
      rcases selects_failing_iff.1 hl' with rfl | rfl | rfl
      · rfl
      · exact absurd hpath (by decide)
      · exact absurd hpath (by decide)
    · rintro rfl
      exact ⟨_, selects_failing_iff.2 (.inl rfl), rfl, by decide⟩
  refine ⟨failing_wellFormed none, hfind, hfails, by rw [hresult, he], ?_, fun third => ?_⟩
  · rw [houtput, hbefore]
    decide
  · refine hframe _ (failing third) (failing_wellFormed third) (failing_sameBut none third) ?_
    intro l' hl' hnot place hplace
    rcases selects_failing_iff.1 hl' with rfl | rfl | rfl
    · exact not_readsAt_third (.inl rfl) hplace
    · exact not_readsAt_third (.inr rfl) hplace
    · exact absurd (by decide) hnot

/-! ## Where the first failure does not decide -/

/-- A path of a directory, with slashes at its end. -/
def slashes : Nat → String
  | 0 => "."
  | n + 1 => slashes n ++ "/"

theorem toList_slashes (n : Nat) : (slashes n).toList = '.' :: List.replicate n '/' := by
  induction n with
  | zero => rfl
  | succ n ih => rw [slashes, String.toList_append, ih, List.replicate_succ']; rfl

theorem utf8ByteSize_slashes (n : Nat) : (slashes n).utf8ByteSize = n + 1 := by
  induction n with
  | zero => rfl
  | succ n ih => rw [slashes, String.utf8ByteSize_append, ih]; rfl

theorem partsAtSlashes_replicate (n : Nat) (cs : List Char) :
    partsAtSlashes (List.replicate n '/' ++ cs) = List.replicate n [] ++ partsAtSlashes cs := by
  induction n with
  | zero => rfl
  | succ n ih =>
    rw [List.replicate_succ, List.cons_append, partsAtSlashes, if_pos rfl, ih]
    rfl

theorem partsAtSlashes_slashes (n : Nat) (cs : List Char) :
    partsAtSlashes ((slashes (n + 1)).toList ++ cs) =
      ['.'] :: List.replicate n [] ++ partsAtSlashes cs := by
  have hsplit : (slashes (n + 1)).toList ++ cs = ['.'] ++ '/' :: (List.replicate n '/' ++ cs) := by
    rw [toList_slashes, List.replicate_succ]
    rfl
  rw [hsplit, partsAtSlashes_append_slash, partsAtSlashes_replicate]
  rfl

theorem pathNames_slashes (n : Nat) : pathNames (slashes (n + 1)) = [".", ""] := by
  have hparts := partsAtSlashes_slashes n []
  rw [List.append_nil] at hparts
  rw [pathNames, hparts]
  simp [partsAtSlashes, List.getLast?_cons, List.getLast?_append]

theorem pathNames_slashes_append (n : Nat) {name : String} (h : ValidName name) :
    pathNames (slashes (n + 1) ++ name) = [".", name] := by
  have hne : name.toList ≠ [] := h.toList_ne_nil
  rw [pathNames, String.toList_append, partsAtSlashes_slashes, partsAtSlashes_of_no_slash h.no_slash]
  simp [List.getLast?_cons, List.getLast?_append, hne]

theorem toList_slashes_append (n : Nat) (name : String) :
    (slashes n ++ name).toList = '.' :: (List.replicate n '/' ++ name.toList) := by
  rw [String.toList_append, toList_slashes]
  rfl

theorem slashes_append_ne_empty (n : Nat) (name : String) : slashes n ++ name ≠ "" := by
  intro hempty
  have hchars := toList_slashes_append n name
  rw [hempty] at hchars
  cases hchars

theorem null_not_mem_slashes_append (n : Nat) {name : String} (hnull : '\x00' ∉ name.toList) :
    '\x00' ∉ (slashes n ++ name).toList := by
  rw [toList_slashes_append]
  simp [hnull]

/-- How far a path leads that begins with a dot and slashes. -/
theorem locate_slashes {n : Nat} {name : String} (entries : List (String × Entry))
    (hnull : '\x00' ∉ name.toList) (hlength : n + 2 + name.utf8ByteSize ≤ maxPathLength) :
    FileSystem.locate ⟨.directory entries, [], []⟩ true (slashes (n + 1) ++ name) =
      FileSystem.locateFrom ⟨.directory entries, [], []⟩ true maxLinks []
        (pathNames (slashes (n + 1) ++ name)) := by
  rw [FileSystem.locate_eq (slashes_append_ne_empty _ _) (null_not_mem_slashes_append _ hnull)]
  · rw [pathStart, toList_slashes_append]
    rfl
  · rw [String.utf8ByteSize_append, utf8ByteSize_slashes]
    exact hlength

/-- Such a path leads nowhere if it is too long. -/
theorem openDirectory_slashes {n : Nat} {name : String} (hnull : '\x00' ∉ name.toList)
    (hlength : maxPathLength < n + 1 + name.utf8ByteSize) :
    fs.openDirectory (slashes n ++ name) = .error .nameTooLong := by
  have hlong : maxPathLength < (slashes n ++ name).utf8ByteSize := by
    rwa [String.utf8ByteSize_append, utf8ByteSize_slashes]
  rw [FileSystem.openDirectory, FileSystem.openEntry,
    FileSystem.locate_of_long (null_not_mem_slashes_append _ hnull) hlong]

/-- A name as long as the rest of a path may not be after many slashes. -/
def longName : String := String.ofList (List.replicate 200 'a')

theorem toList_longName : longName.toList = List.replicate 200 'a' := String.toList_ofList

/-- A name of another length is another name. -/
theorem longName_ne {name : String} (h : name.toList.length ≠ 200) : longName ≠ name := by
  rintro rfl
  rw [toList_longName, List.length_replicate] at h
  exact h rfl

theorem longName_valid : ValidName longName where
  ne_empty := longName_ne (by decide)
  ne_dot := longName_ne (by decide)
  ne_dots := longName_ne (by decide)
  no_slash := by
    rw [toList_longName]
    exact fun hmem => absurd (List.eq_of_mem_replicate hmem) (by decide)

theorem utf8ByteSize_longName : longName.utf8ByteSize = 200 := by
  have hsize : ∀ n, (String.ofList (List.replicate n 'a')).utf8ByteSize = n := by
    intro n
    induction n with
    | zero => rfl
    | succ n ih =>
      rw [List.replicate_succ', String.ofList_append, String.utf8ByteSize_append, ih]
      rfl
  exact hsize 200

theorem longName_lt : longName < "z_utprofile.yml" := by
  rw [String.lt_iff_toList_lt, toList_longName]
  exact .rel (by decide)

/-- A directory that is before a profile that fails. -/
def blockedEntries : List (String × Entry) :=
  [(longName, .directory []), ("z_utprofile.yml", .file none)]

/-- A file system with the two in its root. -/
def blocked : FileSystem := ⟨.directory blockedEntries, [], []⟩

theorem blocked_wellFormed : blocked.root.WellFormed := by
  refine .directory ?_ ?_ ?_
  · simp [blockedEntries, longName_ne]
  · simp only [blockedEntries, List.forall_mem_cons]
    exact ⟨longName_valid, by decide, by simp⟩
  · simp only [blockedEntries, List.forall_mem_cons]
    exact ⟨.directory (by simp) (by simp) (by simp), .file, by simp⟩

theorem selects_blocked {l : Location} (h : standard.Selects blockedEntries true l) :
    l = ["z_utprofile.yml"] := by
  obtain ⟨e, hcovers, hdir, -⟩ := h
  rcases hcovers.cases blocked_wellFormed with ⟨name, rfl, hmem⟩ |
    ⟨name, inner, l', rfl, hmem, -, -, hinner⟩
  · simp only [blockedEntries, List.mem_cons, Prod.mk.injEq, List.not_mem_nil, or_false] at hmem
    rcases hmem with ⟨-, rfl⟩ | ⟨rfl, -⟩
    · exact absurd trivial hdir
    · rfl
  · simp only [blockedEntries, List.mem_cons, Prod.mk.injEq, Entry.directory.injEq, reduceCtorEq,
      and_false, List.not_mem_nil, or_false] at hmem
    obtain ⟨name', l'', rfl⟩ := List.exists_cons_of_ne_nil hinner.below
    have hfound := hinner.found
    rw [hmem.2, Entry.at?_directory] at hfound
    cases hfound

theorem locate_blocked : blocked.locate true (slashes 4000) = .ok [] := by
  have h : blocked.locate true (slashes 4000 ++ "") =
      blocked.locateFrom true maxLinks [] (pathNames (slashes 4000 ++ "")) :=
    locate_slashes blockedEntries (by simp) (by decide)
  rwa [String.append_empty, pathNames_slashes] at h

theorem find_blocked : blocked.find (slashes 4000) = .ok (.directory blockedEntries) := by
  rw [FileSystem.find, locate_blocked]
  rfl

theorem readable_blocked : blocked.Readable (slashes 4000) := by
  refine ⟨blockedEntries, ?_⟩
  rw [FileSystem.openDirectory, FileSystem.openEntry, locate_blocked]
  rfl

theorem joinPath_slashes (n : Nat) {name : String} (h : ValidName name) :
    joinPath (slashes (n + 1)) name = slashes (n + 1) ++ name := by
  have hhead : name.toList.head? ≠ some '/' := fun hc => h.no_slash (List.mem_of_head? hc)
  have hlast : (slashes (n + 1)).toList.getLast? = some '/' := by
    rw [slashes, String.toList_append]
    simp
  rw [joinPath, if_neg hhead, hlast]
  simp

theorem validateFile_blocked : (validateFile blocked (slashes 4000 ++ "z_utprofile.yml")).result =
    .error (.unreadableProfile (slashes 4000 ++ "z_utprofile.yml") .notText) := by
  have hlocate : blocked.locate true (slashes 4000 ++ "z_utprofile.yml") =
      .ok ["z_utprofile.yml"] := by
    rw [blocked, locate_slashes blockedEntries (by decide) (by decide),
      pathNames_slashes_append 3999 (by decide)]
    decide +kernel
  have hread : blocked.readText (slashes 4000 ++ "z_utprofile.yml") = .error .notText := by
    rw [FileSystem.readText, FileSystem.openEntry, hlocate]
    decide +kernel
  rw [result_validateFile, checkProfile, loadProfile, hread]
  rfl

theorem openDirectory_longName : blocked.openDirectory (joinPath (slashes 4000) longName) =
    .error .nameTooLong := by
  rw [joinPath_slashes 3999 longName_valid]
  refine openDirectory_slashes ?_ ?_
  · rw [toList_longName]
    exact fun hmem => absurd (List.eq_of_mem_replicate hmem) (by decide)
  · rw [utf8ByteSize_longName]
    decide

/-- The run does not come to the profile that fails. -/
theorem validateDirectory_blocked : (standard.validateDirectory blocked (slashes 4000) true).result =
    .error (.walk (slashes 4000) (joinPath (slashes 4000) longName) .nameTooLong) := by
  have hlengths : ∀ name ∈ standard.skipDirs, name.toList.length ≠ 200 := by decide
  have hskip : longName ∉ standard.skipDirs := fun hmem => longName_ne (hlengths _ hmem) rfl
  rw [result_validateDirectory, profilesBelow_eq find_blocked, walk,
    ifReadable_of_readable readable_blocked, metAmong_eq_map, inNameOrder, blockedEntries,
    List.mergeSort_of_pairwise (by simpa using longName_lt.le), List.map_cons, List.flatMap_cons,
    met_directory, if_pos ⟨rfl, hskip⟩, walk, ifReadable_of_error openDirectory_longName]
  rfl

/-- A profile that is compared with the text of the profile after it. -/
def readingEntries (text : String) : List (String × Entry) :=
  [("a_utprofile.yml", .file (some (profileOf "b_utprofile.yml" "A"))),
    ("b_utprofile.yml", .file (some text))]

/-- A file system with the two in its root. -/
def reading (text : String) : FileSystem := ⟨.directory (readingEntries text), [], []⟩

theorem reading_wellFormed (text : String) : (reading text).root.WellFormed := by
  refine .directory ?_ ?_ (by simp [readingEntries, Entry.WellFormed.file])
  · change ["a_utprofile.yml", "b_utprofile.yml"].Nodup
    decide
  · simp only [readingEntries, List.forall_mem_cons]
    exact ⟨by decide, by decide, by simp⟩

/-- The first profile fails as the text of the second one says. -/
theorem firstFailure_reading {text : String} {e : Failure}
    (h : (validateFile (reading text) "./a_utprofile.yml").result = .error e) :
    standard.FirstFailure (reading text) "." (readingEntries text) false ["a_utprofile.yml"] e where
  selects := ⟨_, .here (reading_wellFormed text) (.head _), id, _, rfl, by decide⟩
  fails := h
  first := by
    intro l hl hbefore
    rw [selects_iff_of_flat (reading_wellFormed text) fun _ _ _ h => absurd h (by simp)] at hl
    obtain ⟨name, e, rfl, hmem, -, -⟩ := hl
    simp only [readingEntries, List.mem_cons, Prod.mk.injEq, List.not_mem_nil, or_false] at hmem
    rcases hmem with ⟨rfl, -⟩ | ⟨rfl, -⟩
    · exact absurd hbefore (PathBefore.irrefl _)
    · exact absurd hbefore (by decide)

theorem validateDirectory_reading {text : String} {e : Failure}
    (h : (validateFile (reading text) "./a_utprofile.yml").result = .error e) :
    (standard.validateDirectory (reading text) "." false).result = .error e := by
  obtain ⟨ls, -, -, hrun⟩ := (firstFailure_reading h).validateDirectory_eq (reading_wellFormed text)
    rfl fun l hunreadable => absurd hunreadable (not_unreadable_of_flat (reading_wellFormed text)
      (fun _ _ _ h => absurd h (by simp)) ⟨_, rfl⟩)
  rw [hrun]

/-- **The first failure does not always decide.**  A directory before it that
    cannot be read ends the run with another failure; and the text of a profile
    after it decides with which failure it fails, if that is the test file of the
    first one. -/
theorem validateDirectory_not_first_failure :
    (standard.FirstFailure blocked (slashes 4000) blockedEntries true ["z_utprofile.yml"]
        (.unreadableProfile (joinPath (slashes 4000) "z_utprofile.yml") .notText) ∧
      (standard.validateDirectory blocked (slashes 4000) true).result =
        .error (.walk (slashes 4000) (joinPath (slashes 4000) longName) .nameTooLong)) ∧
    (standard.FirstFailure (reading "fn TestB() {}") "." (readingEntries "fn TestB() {}") false
        ["a_utprofile.yml"] (.mismatch "./a_utprofile.yml" (.missing "TestA" 1)) ∧
      PathBefore "./a_utprofile.yml" "./b_utprofile.yml" ∧
      (standard.validateDirectory (reading "fn TestB() {}") "." false).result =
        .error (.mismatch "./a_utprofile.yml" (.missing "TestA" 1)) ∧
      (standard.validateDirectory (reading "") "." false).result =
        .error (.mismatch "./a_utprofile.yml" (.count 0 1))) := by
  have hjoin : joinPath (slashes 4000) "z_utprofile.yml" = slashes 4000 ++ "z_utprofile.yml" :=
    joinPath_slashes 3999 (by decide)
  have hb : (validateFile (reading "fn TestB() {}") "./a_utprofile.yml").result =
      .error (.mismatch "./a_utprofile.yml" (.missing "TestA" 1)) := by decide +kernel
  have hempty : (validateFile (reading "") "./a_utprofile.yml").result =
      .error (.mismatch "./a_utprofile.yml" (.count 0 1)) := by decide +kernel
  refine ⟨⟨⟨?_, ?_, ?_⟩, validateDirectory_blocked⟩, firstFailure_reading hb, by decide,
    validateDirectory_reading hb, validateDirectory_reading hempty⟩
  · exact ⟨_, .here blocked_wellFormed (.tail _ (.head _)), id, _, rfl, by decide⟩
  · rw [pathBelow_cons, pathBelow_nil, hjoin]
    exact validateFile_blocked
  · intro l hl hbefore
    rw [selects_blocked hl] at hbefore
    exact absurd hbefore (PathBefore.irrefl _)

end Selector

end ProfileSync
