/-
  Narrower searches of a directory.

  * `Selector.Narrows`: a search that wants the same profiles as another one and
    enters no directory that the other does not;
  * `Selector.Reaches`: the locations that a search comes to, if it finds something
    there;
  * `Selector.Narrows.widen` and `Selector.Narrows.narrow`: what the narrower search
    meets is what the wider one meets at the locations that the narrower one reaches;
  * `Selector.Narrows.result_validateDirectory`: so it passes with a part of the
    profiles that the wider one passes with;
  * `Selector.validateDirectory_narrowed`: without the directories in a directory, or
    with more of them skipped.
-/
import ProfileSync.Proofs.FirstFailure

namespace ProfileSync.Selector

variable {s s' : Selector} {fs : FileSystem} {directory : String} {recursive recursive' : Bool}
  {entries : List (String × Entry)} {l : Location}

/-- A search wants the same profiles as another one, skips what that skips, and
    enters directories only if that does. -/
structure Narrows (s' : Selector) (recursive' : Bool) (s : Selector) (recursive : Bool) : Prop where
  pattern : s'.pattern = s.pattern
  skipDirs : s.skipDirs ⊆ s'.skipDirs
  recursive : recursive' = true → recursive = true

/-- A location is no deeper than a search goes, and no directory on the way to it has
    a name that is skipped. -/
structure Reaches (s : Selector) (recursive : Bool) (l : Location) : Prop where
  depth : recursive = false → l.length = 1
  entered : ∀ name ∈ l.dropLast, name ∉ s.skipDirs

instance (s : Selector) (recursive : Bool) (l : Location) : Decidable (s.Reaches recursive l) :=
  decidable_of_iff ((recursive = false → l.length = 1) ∧ ∀ name ∈ l.dropLast, name ∉ s.skipDirs)
    ⟨fun ⟨hdepth, hentered⟩ => ⟨hdepth, hentered⟩, fun h => ⟨h.depth, h.entered⟩⟩

/-! ## What is met -/

/-- A profile that is met is below the directory, where the search reaches. -/
theorem Walks.ne_nil_and_reaches {path p : String}
    (h : s.Walks fs recursive path entries l (.ok p)) : l ≠ [] ∧ s.Reaches recursive l := by
  generalize hm : (Except.ok p : Met) = m at h
  induction h with
  | unreadable => cases hm
  | profile => exact ⟨by simp, fun _ => rfl, by simp⟩
  | inside _ _ hrecursive hskip _ ih =>
    obtain ⟨hne, hreaches⟩ := ih hm
    refine ⟨by simp, by simp [hrecursive], ?_⟩
    rw [List.dropLast_cons_of_ne_nil hne]
    exact List.forall_mem_cons.2 ⟨hskip, hreaches.entered⟩

namespace Narrows

variable {path : String} {m : Met} (hnarrow : s'.Narrows recursive' s recursive)
include hnarrow

theorem isProfile_eq (path : String) : s'.isProfile path = s.isProfile path := by
  unfold isProfile
  rw [hnarrow.pattern]

/-- The wider search meets what the narrower one meets. -/
theorem widen (h : s'.Walks fs recursive' path entries l m) :
    s.Walks fs recursive path entries l m := by
  induction h with
  | unreadable hopen => exact .unreadable hopen
  | profile hread he hdir hprofile =>
    exact .profile hread he hdir ((hnarrow.isProfile_eq _).symm.trans hprofile)
  | inside hread he hrecursive hskip _ ih =>
    exact .inside hread he (hnarrow.recursive hrecursive) (fun h => hskip (hnarrow.skipDirs h)) ih

/-- The narrower search meets the profiles that the wider one meets where it
    comes. -/
theorem narrow {p : String} (h : s.Walks fs recursive path entries l (.ok p))
    (hreaches : s'.Reaches recursive' l) : s'.Walks fs recursive' path entries l (.ok p) := by
  generalize hm : (Except.ok p : Met) = m at h
  induction h with
  | unreadable => cases hm
  | profile hread he hdir hprofile =>
    exact .profile hread he hdir ((hnarrow.isProfile_eq _).trans hprofile)
  | inside hread he hrecursive hskip hinner ih =>
    subst hm
    have hne := hinner.ne_nil_and_reaches.1
    have hrecursive' : recursive' = true := by
      by_contra hnot
      have hlast := hreaches.depth (by simpa using hnot)
      exact hne (by simpa using hlast)
    have hentered := hreaches.entered
    rw [List.dropLast_cons_of_ne_nil hne, List.forall_mem_cons] at hentered
    exact .inside hread he hrecursive' hentered.1
      (ih ⟨by simp [hrecursive'], hentered.2⟩ rfl)

end Narrows

/-! ## What passes -/

/-- The locations of what a walk meets, if it meets profiles only. -/
theorem mem_iff_walks {ls : List Location} (hwell : (Entry.directory entries).WellFormed)
    (hselects : ∀ l ∈ ls, s.Selects entries recursive l)
    (hwalk : s.walk fs recursive directory entries =
      ls.map fun l => .ok (pathBelow directory l)) :
    l ∈ ls ↔ s.Walks fs recursive directory entries l (.ok (pathBelow directory l)) := by
  constructor
  · intro hl
    have hmem : Except.ok (pathBelow directory l) ∈
        s.walk fs recursive directory entries := by
      rw [hwalk]
      exact List.mem_map.2 ⟨l, hl, rfl⟩
    obtain ⟨l', hl'⟩ := mem_walk.1 hmem
    have heq : l' = l := pathBelow_injective directory (hl'.validName hwell)
      ((hselects l hl).validName hwell) hl'.metPath_eq.symm
    rwa [heq] at hl'
  · intro h
    have hmem := mem_walk.2 ⟨l, h⟩
    rw [hwalk, List.mem_map] at hmem
    obtain ⟨l', hl', heq⟩ := hmem
    rwa [← pathBelow_injective directory ((hselects l' hl').validName hwell) (h.validName hwell)
      (Except.ok.inj heq)]

/-- **A narrower search passes** if the wider one does, with what of its profiles it
    reaches, in the same order. -/
theorem Narrows.result_validateDirectory (hnarrow : s'.Narrows recursive' s recursive)
    (hwell : (Entry.directory entries).WellFormed)
    (hdir : fs.find directory = .ok (.directory entries)) {ls : List Location}
    (hsorted : ls.Pairwise (· < ·)) (hselects : ∀ l ∈ ls, s.Selects entries recursive l)
    (hpass : (s.validateDirectory fs directory recursive).result =
      .ok (ls.map (pathBelow directory))) :
    (s'.validateDirectory fs directory recursive').result =
      .ok ((ls.filter fun l => s'.Reaches recursive' l).map (pathBelow directory)) := by
  rw [result_validateDirectory_eq_ok_iff, profilesBelow_eq hdir, List.map_map] at hpass
  obtain ⟨hwalk, hpass⟩ := hpass
  have hmet : ∀ m ∈ s'.walk fs recursive' directory entries, ∃ p, m = .ok p := by
    intro m hm
    obtain ⟨l, hl⟩ := mem_walk.1 hm
    have hwide := mem_walk.2 ⟨l, hnarrow.widen hl⟩
    rw [hwalk] at hwide
    obtain ⟨l', -, rfl⟩ := List.mem_map.1 hwide
    exact ⟨_, rfl⟩
  obtain ⟨ls', hsorted', hselects', hwalk'⟩ := exists_locations hwell (List.Sublist.refl _) hmet
  have hls : ls' = ls.filter fun l => s'.Reaches recursive' l := by
    refine List.Pairwise.eq_of_mem_iff hsorted' (hsorted.filter _) fun l => ?_
    rw [List.mem_filter, decide_eq_true_eq, mem_iff_walks hwell hselects' hwalk',
      mem_iff_walks hwell hselects hwalk]
    exact ⟨fun h => ⟨hnarrow.widen h, h.ne_nil_and_reaches.2⟩,
      fun ⟨hwalks, hreaches⟩ => hnarrow.narrow hwalks hreaches⟩
  rw [result_validateDirectory_eq_ok_iff, profilesBelow_eq hdir, hwalk', hls, List.map_map]
  refine ⟨rfl, fun path hpath => hpass path ?_⟩
  exact List.map_subset _ (List.filter_subset_self _) hpath

/-- What a directory passes with are the profiles at some locations, in order. -/
theorem exists_locations_of_ok {paths : List String} (hwell : (Entry.directory entries).WellFormed)
    (hdir : fs.find directory = .ok (.directory entries))
    (hpass : (s.validateDirectory fs directory recursive).result = .ok paths) :
    ∃ ls : List Location, ls.Pairwise (· < ·) ∧ (∀ l ∈ ls, s.Selects entries recursive l) ∧
      paths = ls.map (pathBelow directory) := by
  obtain ⟨hwalk, -⟩ := result_validateDirectory_eq_ok_iff.1 hpass
  rw [profilesBelow_eq hdir] at hwalk
  obtain ⟨ls, hsorted, hselects, hls⟩ := exists_locations hwell (List.Sublist.refl _)
    fun m hm => by
      rw [hwalk] at hm
      obtain ⟨p, -, rfl⟩ := List.mem_map.1 hm
      exact ⟨p, rfl⟩
  have hinj : Function.Injective (Except.ok : String → Met) := fun _ _ => Except.ok.inj
  refine ⟨ls, hsorted, hselects, List.map_injective_iff.2 hinj ?_⟩
  rw [← hwalk, hls, List.map_map]
  rfl

/-- If a narrower search fails, then the wider one does. -/
theorem Narrows.exists_error (hnarrow : s'.Narrows recursive' s recursive) {e : Failure}
    (hwell : (Entry.directory entries).WellFormed)
    (hdir : fs.find directory = .ok (.directory entries))
    (hfail : (s'.validateDirectory fs directory recursive').result = .error e) :
    ∃ e', (s.validateDirectory fs directory recursive).result = .error e' := by
  cases hresult : (s.validateDirectory fs directory recursive).result with
  | error e' => exact ⟨e', rfl⟩
  | ok paths =>
    obtain ⟨ls, hsorted, hselects, rfl⟩ := exists_locations_of_ok hwell hdir hresult
    rw [hnarrow.result_validateDirectory hwell hdir hsorted hselects hresult] at hfail
    cases hfail

/-- **What a search that passes is narrowed to.**  A directory that passes with the
    profiles at some locations passes without the directories in it with those that
    lie directly there, and with more names skipped with those on the way to which no
    directory is skipped, always in the same order.  So if a narrower search fails, the
    wider one does. -/
theorem validateDirectory_narrowed (hwell : fs.root.WellFormed)
    (hdir : fs.find directory = .ok (.directory entries)) :
    (∀ recursive paths, (s.validateDirectory fs directory recursive).result = .ok paths →
      ∃ ls : List Location, (∀ l ∈ ls, s.Selects entries recursive l) ∧
        paths = ls.map (pathBelow directory) ∧
        (s.validateDirectory fs directory false).result =
          .ok ((ls.filter fun l => l.length = 1).map (pathBelow directory)) ∧
        ∀ s' : Selector, s'.pattern = s.pattern → s.skipDirs ⊆ s'.skipDirs →
          (s'.validateDirectory fs directory recursive).result =
            .ok ((ls.filter fun l => ∀ name ∈ l.dropLast, name ∉ s'.skipDirs).map
              (pathBelow directory))) ∧
    (∀ e, (s.validateDirectory fs directory false).result = .error e →
      ∃ e', (s.validateDirectory fs directory true).result = .error e') ∧
    ∀ (s' : Selector) (recursive : Bool) (e : Failure), s'.pattern = s.pattern →
      s.skipDirs ⊆ s'.skipDirs → (s'.validateDirectory fs directory recursive).result = .error e →
        ∃ e', (s.validateDirectory fs directory recursive).result = .error e' := by
  have hentries : (Entry.directory entries).WellFormed := FileSystem.find_wellFormed hwell hdir
  have hflat : ∀ recursive, s.Narrows false s recursive := fun _ => ⟨rfl, fun _ => id, by simp⟩
  have hskip : ∀ (s' : Selector) (recursive : Bool), s'.pattern = s.pattern →
      s.skipDirs ⊆ s'.skipDirs → s'.Narrows recursive s recursive :=
    fun _ _ hpattern hskip => ⟨hpattern, hskip, id⟩
  refine ⟨fun recursive paths hpass => ?_, fun e => (hflat true).exists_error hentries hdir,
    fun s' recursive e hpattern hsub =>
      (hskip s' recursive hpattern hsub).exists_error hentries hdir⟩
  obtain ⟨ls, hsorted, hselects, rfl⟩ := exists_locations_of_ok hentries hdir hpass
  refine ⟨ls, hselects, rfl, ?_, fun s' hpattern hsub => ?_⟩
  · rw [(hflat recursive).result_validateDirectory hentries hdir hsorted hselects hpass]
    congr 2
    refine List.filter_congr fun l hl => decide_eq_decide.2 ⟨fun h => h.depth rfl, fun h => ?_⟩
    obtain ⟨name, rfl⟩ := List.length_eq_one_iff.1 h
    exact ⟨fun _ => rfl, by simp⟩
  · rw [(hskip s' recursive hpattern hsub).result_validateDirectory hentries hdir hsorted hselects
      hpass]
    congr 2
    refine List.filter_congr fun l hl => decide_eq_decide.2 ⟨fun h => h.entered, fun h => ?_⟩
    obtain ⟨e, hcovers, -⟩ := hselects l hl
    exact ⟨hcovers.depth, h⟩

/-! ## A directory in a directory -/

theorem inNameOrder_of_pairwise {found : List (String × List Met)}
    (h : found.Pairwise fun a b => a.1 ≤ b.1) : inNameOrder found = found.flatMap Prod.snd := by
  rw [inNameOrder, List.mergeSort_of_pairwise (h.imp fun hab => decide_eq_true hab)]

/-- A directory with a profile, its files, and a directory with another profile. -/
def nestedEntries : List (String × Entry) :=
  [("a_utprofile.yml", .file (some (profileOf "tests.rs" "A"))),
    ("sub", .directory [("b_utprofile.yml", .file (some (profileOf "../tests.rs" "A")))]),
    ("tests.rs", .file (some "fn TestA() {}"))]

/-- A file system with this directory as its root. -/
def nested : FileSystem := ⟨.directory nestedEntries, [], []⟩

theorem nested_wellFormed : nested.root.WellFormed := by
  refine .directory (by decide) (by decide) ?_
  simp only [nestedEntries, List.forall_mem_cons]
  exact ⟨.file, .directory (by decide) (by decide) (by simp [Entry.WellFormed.file]), .file,
    by simp⟩

theorem profilesBelow_nested : standard.profilesBelow nested "." true =
    ["./a_utprofile.yml", "./sub/b_utprofile.yml"].map .ok := by
  have hsub : standard.met nested true "./sub" "sub" (.directory
      [("b_utprofile.yml", .file (some (profileOf "../tests.rs" "A")))]) =
        [.ok "./sub/b_utprofile.yml"] := by
    rw [met_directory, if_pos (by decide), walk, ifReadable_of_readable ⟨_, rfl⟩,
      inNameOrder_of_pairwise (by simp [metAmong])]
    decide
  rw [profilesBelow_eq rfl, walk, ifReadable_of_readable ⟨_, rfl⟩, nestedEntries,
    inNameOrder_of_pairwise (by decide)]
  change _ ++ (standard.met nested true "./sub" "sub" _ ++ _) = _
  rw [hsub]
  decide

/-- The profile in the directory is left out if directories are not entered, or if
    this one is skipped. -/
theorem validateDirectory_narrowed_nested :
    let skipping : Selector := ⟨standard.pattern, "sub" :: standard.skipDirs⟩
    (standard.validateDirectory nested "." true).result =
      .ok ["./a_utprofile.yml", "./sub/b_utprofile.yml"] ∧
    (standard.validateDirectory nested "." false).result = .ok ["./a_utprofile.yml"] ∧
    (skipping.validateDirectory nested "." true).result = .ok ["./a_utprofile.yml"] := by
  intro skipping
  have hpass : (standard.validateDirectory nested "." true).result =
      .ok ["./a_utprofile.yml", "./sub/b_utprofile.yml"] :=
    result_validateDirectory_eq_ok_iff.2 ⟨profilesBelow_nested, by decide +kernel⟩
  have hdir : nested.find "." = .ok (.directory nestedEntries) := rfl
  obtain ⟨hnarrowed, -⟩ := validateDirectory_narrowed (s := standard) nested_wellFormed hdir
  obtain ⟨ls, hselects, hpaths, hflat, hskip⟩ := hnarrowed true _ hpass
  obtain ⟨l₁, rest, rfl, hl₁, hrest⟩ := List.map_eq_cons_iff.1 hpaths.symm
  obtain ⟨l₂, rest, rfl, hl₂, hrest⟩ := List.map_eq_cons_iff.1 hrest
  cases List.map_eq_nil_iff.1 hrest
  obtain ⟨hselects₁, hselects₂⟩ := List.forall_mem_cons.1 hselects
  have heq₁ : l₁ = ["a_utprofile.yml"] :=
    pathBelow_injective "." (hselects₁.validName nested_wellFormed) (by decide) hl₁
  have heq₂ : l₂ = ["sub", "b_utprofile.yml"] :=
    pathBelow_injective "." ((hselects₂ l₂ List.mem_cons_self).validName nested_wellFormed)
      (by decide) hl₂
  subst heq₁ heq₂
  exact ⟨hpass, hflat, hskip skipping rfl (List.subset_cons_self _ _)⟩

end ProfileSync.Selector
