/-
  The walk through a directory.

  * `Selector.Walks`: what the walk meets at a location below a directory;
  * `Selector.mem_walk`: the walk meets just that;
  * `Selector.inPathOrder_walk`: in the order of paths;
  * `Selector.Selects` and `Selector.Unreadable`: the profiles that a directory
    is searched for, and the directories that the search cannot enter;
  * `Selector.Walks.selects_or_unreadable`: the walk meets nothing else;
  * `Selector.Selects.walks`: it meets each of the former, unless one of the
    latter is on the way;
  * `Selector.exists_walk_eq` and `Selector.Selects.exists_walk_eq`: the walk as a
    list of locations, all of it or up to a profile.
-/
import ProfileSync.Check.Selection
import ProfileSync.Proofs.Files

namespace ProfileSync

/-- A path leads to a directory that can be read. -/
def FileSystem.Readable (fs : FileSystem) (path : String) : Prop :=
  ∃ entries, fs.openDirectory path = .ok entries

theorem FileSystem.not_readable_iff {fs : FileSystem} {path : String} :
    ¬ fs.Readable path ↔ ∃ fault, fs.openDirectory path = .error fault := by
  unfold FileSystem.Readable
  cases fs.openDirectory path <;> simp

end ProfileSync

namespace ProfileSync.Selector

variable {s : Selector} {fs : FileSystem} {recursive : Bool}

/-- What is met at a location below the directory at a path with the given
    entries. -/
inductive Walks (s : Selector) (fs : FileSystem) (recursive : Bool) :
    String → List (String × Entry) → Location → Met → Prop
  | unreadable {path entries fault} : fs.openDirectory path = .error fault →
      Walks s fs recursive path entries [] (.error (path, fault))
  | profile {path entries name e} : fs.Readable path → (name, e) ∈ entries → ¬ e.IsDirectory →
      s.isProfile (joinPath path name) = true →
      Walks s fs recursive path entries [name] (.ok (joinPath path name))
  | inside {path entries name inner l m} : fs.Readable path →
      (name, Entry.directory inner) ∈ entries → recursive = true → name ∉ s.skipDirs →
      Walks s fs recursive (joinPath path name) inner l m →
      Walks s fs recursive path entries (name :: l) m

/-! ## What is met -/

theorem mem_inNameOrder {found : List (String × List Met)} {m : Met} :
    m ∈ inNameOrder found ↔ ∃ e ∈ found, m ∈ e.2 := by
  simp [inNameOrder, List.mem_flatMap]

theorem ifReadable_of_readable {path : String} (h : fs.Readable path)
    (found : List (String × List Met)) : ifReadable fs path found = inNameOrder found := by
  obtain ⟨entries, hopen⟩ := h
  rw [ifReadable, hopen]

theorem ifReadable_of_error {path : String} {fault : FileFault}
    (h : fs.openDirectory path = .error fault) (found : List (String × List Met)) :
    ifReadable fs path found = [.error (path, fault)] := by
  rw [ifReadable, h]

theorem metAmong_eq_map (s : Selector) (fs : FileSystem) (recursive : Bool) (path : String)
    (entries : List (String × Entry)) :
    s.metAmong fs recursive path entries =
      entries.map fun e => (e.1, s.met fs recursive (joinPath path e.1) e.1 e.2) := by
  induction entries with
  | nil => rfl
  | cons e entries ih => rw [metAmong, ih, List.map_cons]

theorem met_of_not_directory {e : Entry} (he : ¬ e.IsDirectory) (path name : String) :
    s.met fs recursive path name e = if s.isProfile path then [.ok path] else [] := by
  cases e with
  | file text => simp [met]
  | link target => simp [met]
  | directory entries => exact absurd trivial he

theorem met_directory (path name : String) (entries : List (String × Entry)) :
    s.met fs recursive path name (.directory entries) =
      if recursive = true ∧ name ∉ s.skipDirs then s.walk fs recursive path entries else [] := by
  have hguard : (!recursive || s.skipDirs.contains name) = true ↔
      ¬ (recursive = true ∧ name ∉ s.skipDirs) := by
    rw [Bool.or_eq_true, Bool.not_eq_true', List.contains_iff_mem, not_and, not_not]
    cases recursive <;> simp
  rw [met, walk]
  by_cases hentered : recursive = true ∧ name ∉ s.skipDirs
  · rw [if_neg fun h => hguard.1 h hentered, if_pos hentered]
  · rw [if_pos (hguard.2 hentered), if_neg hentered]

/-- At an entry something is met, or in it if it is entered. -/
theorem mem_met {path name : String} {e : Entry} {m : Met} :
    m ∈ s.met fs recursive path name e ↔
      (¬ e.IsDirectory ∧ s.isProfile path = true ∧ m = .ok path) ∨
        ∃ entries, e = .directory entries ∧ recursive = true ∧ name ∉ s.skipDirs ∧
          m ∈ s.walk fs recursive path entries := by
  by_cases he : e.IsDirectory
  · obtain ⟨text⟩ | ⟨target⟩ | ⟨entries⟩ := e
    · exact he.elim
    · exact he.elim
    rw [met_directory]
    constructor
    · intro hm
      split at hm
      · rename_i hentered
        exact .inr ⟨entries, rfl, hentered.1, hentered.2, hm⟩
      · cases hm
    · rintro (⟨hnot, -⟩ | ⟨_, heq, hrecursive, hskip, hm⟩)
      · exact absurd he hnot
      · cases heq
        rwa [if_pos ⟨hrecursive, hskip⟩]
  · rw [met_of_not_directory he]
    constructor
    · intro hm
      split at hm
      · exact .inl ⟨he, by assumption, List.mem_singleton.1 hm⟩
      · cases hm
    · rintro (⟨-, hprofile, rfl⟩ | ⟨_, rfl, -⟩)
      · simp [hprofile]
      · exact absurd trivial he

/-- In a directory its own fault is met, or what is met at and in its entries, one
    by one. -/
theorem mem_walk_cases {path : String} {entries : List (String × Entry)} {m : Met} :
    m ∈ s.walk fs recursive path entries ↔
      (∃ fault, fs.openDirectory path = .error fault ∧ m = .error (path, fault)) ∨
        (fs.Readable path ∧ ∃ name e, (name, e) ∈ entries ∧
          m ∈ s.met fs recursive (joinPath path name) name e) := by
  by_cases hread : fs.Readable path
  · have hnone : ¬ ∃ fault, fs.openDirectory path = .error fault ∧ m = .error (path, fault) :=
      fun ⟨fault, hopen, _⟩ => FileSystem.not_readable_iff.2 ⟨fault, hopen⟩ hread
    rw [walk, ifReadable_of_readable hread, mem_inNameOrder, metAmong_eq_map]
    simp [hread, hnone]
  · obtain ⟨fault, hopen⟩ := FileSystem.not_readable_iff.1 hread
    rw [walk, ifReadable_of_error hopen]
    simp [hread, hopen]

/-- What is met at an entry of a directory or in it. -/
theorem exists_walks_of_mem_met {path name : String} {entries : List (String × Entry)} {e : Entry}
    {m : Met} (hread : fs.Readable path) (he : (name, e) ∈ entries)
    (hm : m ∈ s.met fs recursive (joinPath path name) name e) :
    ∃ l, s.Walks fs recursive path entries (name :: l) m := by
  induction e generalizing path name entries m with
  | file text =>
    rcases mem_met.1 hm with ⟨hdir, hprofile, rfl⟩ | ⟨_, heq, -⟩
    · exact ⟨[], .profile hread he hdir hprofile⟩
    · cases heq
  | link target =>
    rcases mem_met.1 hm with ⟨hdir, hprofile, rfl⟩ | ⟨_, heq, -⟩
    · exact ⟨[], .profile hread he hdir hprofile⟩
    · cases heq
  | directory inner ih =>
    rcases mem_met.1 hm with ⟨hdir, -⟩ | ⟨_, heq, hrecursive, hskip, hm⟩
    · exact absurd trivial hdir
    · cases heq
      rcases mem_walk_cases.1 hm with ⟨fault, hopen, rfl⟩ | ⟨hread', name', e', he', hm⟩
      · exact ⟨[], .inside hread he hrecursive hskip (.unreadable hopen)⟩
      · obtain ⟨l, hl⟩ := ih _ he' hread' he' hm
        exact ⟨name' :: l, .inside hread he hrecursive hskip hl⟩

/-- **The walk** meets what there is to meet. -/
theorem mem_walk {path : String} {entries : List (String × Entry)} {m : Met} :
    m ∈ s.walk fs recursive path entries ↔ ∃ l, s.Walks fs recursive path entries l m := by
  constructor
  · intro hm
    rcases mem_walk_cases.1 hm with ⟨fault, hopen, rfl⟩ | ⟨hread, name, e, he, hm⟩
    · exact ⟨[], .unreadable hopen⟩
    · obtain ⟨l, hl⟩ := exists_walks_of_mem_met hread he hm
      exact ⟨name :: l, hl⟩
  · rintro ⟨l, hl⟩
    induction hl with
    | unreadable hopen => exact mem_walk_cases.2 (.inl ⟨_, hopen, rfl⟩)
    | profile hread he hdir hprofile =>
      exact mem_walk_cases.2 (.inr ⟨hread, _, _, he, mem_met.2 (.inl ⟨hdir, hprofile, rfl⟩)⟩)
    | inside hread he hrecursive hskip _ ih =>
      exact mem_walk_cases.2
        (.inr ⟨hread, _, _, he, mem_met.2 (.inr ⟨_, rfl, hrecursive, hskip, ih⟩)⟩)

/-- A directory that may not be read is all that is met. -/
example : s.walk ⟨.directory [], [], [(([], .read), .denied)]⟩ recursive "." [] =
    [.error (".", .refused .denied)] := rfl

/-! ## The order -/

/-- Where something is met. -/
def metPath : Met → String
  | .ok path => path
  | .error (path, _) => path

theorem Walks.metPath_eq {path : String} {entries : List (String × Entry)} {l : Location} {m : Met}
    (h : s.Walks fs recursive path entries l m) : metPath m = pathBelow path l := by
  induction h with
  | unreadable => rfl
  | profile => rfl
  | inside _ _ _ _ _ ih => exact ih

theorem Walks.validName {path : String} {entries : List (String × Entry)} {l : Location} {m : Met}
    (h : s.Walks fs recursive path entries l m) (hwell : (Entry.directory entries).WellFormed) :
    ∀ name ∈ l, ValidName name := by
  induction h with
  | unreadable => exact List.forall_mem_nil _
  | profile _ he _ _ =>
    cases hwell with
    | directory _ hvalid _ => exact List.forall_mem_singleton.2 (hvalid _ he)
  | inside _ he _ _ _ ih =>
    cases hwell with
    | directory _ hvalid hinner => exact List.forall_mem_cons.2 ⟨hvalid _ he, ih (hinner _ he)⟩

/-- Names are sorted where what is met among entries is put in order. -/
theorem pairwise_mergeSort_fst {α : Type} {found : List (String × α)}
    (h : (found.map Prod.fst).Nodup) :
    (found.mergeSort fun a b => a.1 ≤ b.1).Pairwise fun a b => a.1 < b.1 := by
  have htrans : ∀ a b c : String × α, decide (a.1 ≤ b.1) = true → decide (b.1 ≤ c.1) = true →
      decide (a.1 ≤ c.1) = true := fun a b c hab hbc =>
    decide_eq_true (le_trans (of_decide_eq_true hab) (of_decide_eq_true hbc))
  have htotal : ∀ a b : String × α, (decide (a.1 ≤ b.1) || decide (b.1 ≤ a.1)) = true := by
    intro a b
    simpa only [Bool.or_eq_true, decide_eq_true_eq] using le_total a.1 b.1
  have hsorted := List.pairwise_mergeSort htrans htotal found
  have hdistinct : (found.mergeSort fun a b => a.1 ≤ b.1).Pairwise fun a b => a.1 ≠ b.1 := by
    rw [← List.pairwise_map]
    exact ((List.mergeSort_perm _ _).map Prod.fst).nodup_iff.2 h
  exact (hsorted.and hdistinct).imp fun hab => lt_of_le_of_ne (of_decide_eq_true hab.1) hab.2

/-- Things met, each before those after it by its path. -/
def InPathOrder (ms : List Met) : Prop :=
  ms.Pairwise fun m m' => PathBefore (metPath m) (metPath m')

theorem inPathOrder_walk_of_met {path : String} {entries : List (String × Entry)}
    (hwell : (Entry.directory entries).WellFormed)
    (h : ∀ e ∈ entries, InPathOrder (s.met fs recursive (joinPath path e.1) e.1 e.2)) :
    InPathOrder (s.walk fs recursive path entries) := by
  by_cases hread : fs.Readable path
  case neg =>
    obtain ⟨fault, hopen⟩ := FileSystem.not_readable_iff.1 hread
    rw [walk, ifReadable_of_error hopen]
    exact List.pairwise_singleton _ _
  have hfst : ((s.metAmong fs recursive path entries).map Prod.fst).Nodup := by
    rw [metAmong_eq_map, List.map_map]
    cases hwell with
    | directory hnodup _ _ => exact hnodup
  have hfound : ∀ found ∈ (s.metAmong fs recursive path entries).mergeSort fun a b => a.1 ≤ b.1,
      ∃ e ∈ entries, found = (e.1, s.met fs recursive (joinPath path e.1) e.1 e.2) := by
    intro found hmem
    rw [List.mem_mergeSort, metAmong_eq_map, List.mem_map] at hmem
    obtain ⟨e, he, rfl⟩ := hmem
    exact ⟨e, he, rfl⟩
  rw [InPathOrder, walk, ifReadable_of_readable hread, inNameOrder, List.pairwise_flatMap]
  constructor
  · intro found hmem
    obtain ⟨e, he, rfl⟩ := hfound found hmem
    exact h e he
  · -- paths that go through different names are ordered as these are
    refine (pairwise_mergeSort_fst hfst).imp_of_mem fun {a b} ha hb hab x hx y hy => ?_
    obtain ⟨e, he, rfl⟩ := hfound a ha
    obtain ⟨e', he', rfl⟩ := hfound b hb
    obtain ⟨l, hl⟩ := exists_walks_of_mem_met hread he hx
    obtain ⟨l', hl'⟩ := exists_walks_of_mem_met hread he' hy
    rw [hl.metPath_eq, hl'.metPath_eq]
    exact pathBefore_of_lt path (hl.validName hwell) (hl'.validName hwell)
      (List.cons_lt_cons_iff.2 (.inl hab))

theorem inPathOrder_met_of_not_directory {e : Entry} (he : ¬ e.IsDirectory) (path name : String) :
    InPathOrder (s.met fs recursive path name e) := by
  rw [met_of_not_directory he]
  split
  · exact List.pairwise_singleton _ _
  · exact List.Pairwise.nil

theorem inPathOrder_met {e : Entry} (hwell : e.WellFormed) (path name : String) :
    InPathOrder (s.met fs recursive path name e) := by
  induction e generalizing path name with
  | file text => exact inPathOrder_met_of_not_directory id path name
  | link target => exact inPathOrder_met_of_not_directory id path name
  | directory entries ih =>
    rw [met_directory]
    split
    · refine inPathOrder_walk_of_met hwell fun e he => ?_
      cases hwell with
      | directory _ _ hinner => exact ih e he (hinner e he) _ _
    · exact List.Pairwise.nil

/-- **The walk goes in the order of paths.** -/
theorem inPathOrder_walk {path : String} {entries : List (String × Entry)}
    (hwell : (Entry.directory entries).WellFormed) :
    InPathOrder (s.walk fs recursive path entries) := by
  refine inPathOrder_walk_of_met hwell fun e he => ?_
  cases hwell with
  | directory _ _ hinner => exact inPathOrder_met (hinner e he) _ _

/-! ## Profiles below a directory -/

/-- The entry at a location is one that the walk through a directory comes to,
    if it is not stopped before: it is no deeper than wanted, and no directory on
    the way to it has a name that is skipped. -/
structure Covers (s : Selector) (entries : List (String × Entry)) (recursive : Bool) (l : Location)
    (e : Entry) : Prop where
  found : (Entry.directory entries).at? l = some e
  below : l ≠ []
  depth : recursive = false → l.length = 1
  entered : ∀ name ∈ l.dropLast, name ∉ s.skipDirs

/-- At a location there is a profile that the directory is searched for: no
    directory, and its name is that of a profile. -/
def Selects (s : Selector) (entries : List (String × Entry)) (recursive : Bool) (l : Location) :
    Prop :=
  ∃ e, s.Covers entries recursive l e ∧ ¬ e.IsDirectory ∧
    ∃ name, l.getLast? = some name ∧ s.pattern.matchesText name.toList = true

/-- The search goes into the directory at a location: it is the one that is
    searched, or directories are searched as well and no name on the way to it,
    nor its own, is skipped. -/
def Enters (s : Selector) (entries : List (String × Entry)) (recursive : Bool) (l : Location) :
    Prop :=
  l = [] ∨ recursive = true ∧ ∃ e, s.Covers entries recursive l e ∧ e.IsDirectory ∧
    ∀ name ∈ l, name ∉ s.skipDirs

/-- At a location there is a directory that the search would go into and that
    cannot be read: it cannot be opened by the path that leads there through the
    directory at `path`. -/
def Unreadable (s : Selector) (fs : FileSystem) (path : String) (entries : List (String × Entry))
    (recursive : Bool) (l : Location) : Prop :=
  s.Enters entries recursive l ∧ ∃ fault, fs.openDirectory (pathBelow path l) = .error fault

section
variable {path name : String} {entries inner : List (String × Entry)} {l : Location} {e : Entry}

theorem isProfile_joinPath (s : Selector) (path : String) {name : String} (h : ValidName name) :
    s.isProfile (joinPath path name) = s.pattern.matchesText name.toList := by
  rw [isProfile, fileName?_joinPath path h]

theorem Covers.here (hwell : (Entry.directory entries).WellFormed) (he : (name, e) ∈ entries) :
    s.Covers entries recursive [name] e where
  found := by
    cases hwell with
    | directory hnodup _ _ => simp [(lookup_eq_some_iff_mem hnodup).2 he]
  below := by simp
  depth := by simp
  entered := by simp

theorem Covers.inside (hwell : (Entry.directory entries).WellFormed)
    (he : (name, Entry.directory inner) ∈ entries) (hrecursive : recursive = true)
    (hskip : name ∉ s.skipDirs) (h : s.Covers inner recursive l e) :
    s.Covers entries recursive (name :: l) e where
  found := by
    cases hwell with
    | directory hnodup _ _ => simp [(lookup_eq_some_iff_mem hnodup).2 he, h.found]
  below := by simp
  depth := by simp [hrecursive]
  entered := by
    rw [List.dropLast_cons_of_ne_nil h.below]
    exact List.forall_mem_cons.2 ⟨hskip, h.entered⟩

/-- An entry that the walk comes to stands in the directory, or it is one that
    the walk comes to in a directory there. -/
theorem Covers.cases (hwell : (Entry.directory entries).WellFormed)
    (h : s.Covers entries recursive l e) :
    (∃ name, l = [name] ∧ (name, e) ∈ entries) ∨
      ∃ name inner l', l = name :: l' ∧ (name, Entry.directory inner) ∈ entries ∧
        recursive = true ∧ name ∉ s.skipDirs ∧ s.Covers inner recursive l' e := by
  cases hwell with
  | directory hnodup hvalid hinner =>
    match l with
    | [] => exact absurd rfl h.below
    | name :: l =>
      have hfound := h.found
      rw [Entry.at?_directory] at hfound
      obtain ⟨e', hlookup, hat⟩ := Option.bind_eq_some_iff.1 hfound
      have hmem := (lookup_eq_some_iff_mem hnodup).1 hlookup
      match l with
      | [] =>
        rw [Entry.at?_nil] at hat
        cases hat
        exact .inl ⟨name, rfl, hmem⟩
      | name' :: l =>
        have hrecursive : recursive = true := by
          by_contra hnot
          simpa using h.depth (by simpa using hnot)
        have hentered := h.entered
        rw [List.dropLast_cons_of_ne_nil (by simp), List.forall_mem_cons] at hentered
        have hdir : e'.IsDirectory := by
          by_contra hnot
          rw [Entry.at?_of_not_directory hnot] at hat
          cases hat
        obtain ⟨text⟩ | ⟨target⟩ | ⟨inner⟩ := e'
        · exact hdir.elim
        · exact hdir.elim
        exact .inr ⟨name, inner, name' :: l, rfl, hmem, hrecursive, hentered.1, hat, by simp,
          by simp [hrecursive], hentered.2⟩

theorem Enters.inside (hwell : (Entry.directory entries).WellFormed)
    (he : (name, Entry.directory inner) ∈ entries) (hrecursive : recursive = true)
    (hskip : name ∉ s.skipDirs) (h : s.Enters inner recursive l) :
    s.Enters entries recursive (name :: l) := by
  rcases h with rfl | ⟨-, e, hcovers, hdir, hnames⟩
  · exact .inr ⟨hrecursive, _, .here hwell he, trivial, List.forall_mem_singleton.2 hskip⟩
  · exact .inr ⟨hrecursive, e, hcovers.inside hwell he hrecursive hskip, hdir,
      List.forall_mem_cons.2 ⟨hskip, hnames⟩⟩

/-- What the walk meets is a profile that the directory is searched for, or a
    directory that cannot be read. -/
theorem Walks.selects_or_unreadable {m : Met} (h : s.Walks fs recursive path entries l m)
    (hwell : (Entry.directory entries).WellFormed) :
    (m = .ok (pathBelow path l) ∧ s.Selects entries recursive l) ∨
      ((∃ fault, m = .error (pathBelow path l, fault)) ∧
        s.Unreadable fs path entries recursive l) := by
  induction h with
  | unreadable hopen => exact .inr ⟨⟨_, rfl⟩, .inl rfl, _, hopen⟩
  | @profile path entries name e _ he hdir hprofile =>
    have hcovers : s.Covers entries recursive [name] e := .here hwell he
    have hvalid : ValidName name := (hwell.at? hcovers.found).2 name (by simp)
    rw [isProfile_joinPath s path hvalid] at hprofile
    exact .inl ⟨rfl, e, hcovers, hdir, name, rfl, hprofile⟩
  | @inside path entries name inner l m _ he hrecursive hskip _ ih =>
    have hinner : (Entry.directory inner).WellFormed := by
      cases hwell with
      | directory _ _ hinner => exact hinner _ he
    rcases ih hinner with ⟨rfl, e, hcovers, hdir, last, hlast, hprofile⟩ |
      ⟨hm, henters, hopen⟩
    · refine .inl ⟨rfl, e, .inside hwell he hrecursive hskip hcovers, hdir, last, ?_, hprofile⟩
      rw [List.getLast?_cons, hlast]
      rfl
    · exact .inr ⟨hm, henters.inside hwell he hrecursive hskip, hopen⟩

/-- A profile that the directory is searched for is met, unless a directory on
    the way to it cannot be read. -/
theorem Selects.walks (h : s.Selects entries recursive l)
    (hwell : (Entry.directory entries).WellFormed)
    (hread : ∀ front, front.IsPrefix l → front ≠ l →
      ¬ s.Unreadable fs path entries recursive front) :
    s.Walks fs recursive path entries l (.ok (pathBelow path l)) := by
  obtain ⟨e, hcovers, hdir, last, hlast, hprofile⟩ := h
  induction l generalizing path entries with
  | nil => exact absurd rfl hcovers.below
  | cons name l ih =>
    have hvalid : ValidName name := (hwell.at? hcovers.found).2 name (by simp)
    have hhere : fs.Readable path := by
      by_contra hnot
      exact hread [] List.nil_prefix (List.cons_ne_nil _ _).symm
        ⟨.inl rfl, FileSystem.not_readable_iff.1 hnot⟩
    rcases hcovers.cases hwell with ⟨_, heq, he⟩ | ⟨_, inner, _, heq, he, hrecursive, hskip, hinner⟩
    · cases heq
      cases hlast
      exact .profile hhere he hdir ((isProfile_joinPath s path hvalid).trans hprofile)
    · cases heq
      have hwell' : (Entry.directory inner).WellFormed := by
        cases hwell with
        | directory _ _ hinner => exact hinner _ he
      refine .inside hhere he hrecursive hskip (ih hwell' ?_ hinner ?_)
      · rintro front ⟨back, rfl⟩ hfront ⟨henters, hopen⟩
        exact hread (name :: front) ⟨back, rfl⟩ (by simpa using hfront)
          ⟨henters.inside hwell he hrecursive hskip, hopen⟩
      · obtain ⟨name', l', rfl⟩ := List.exists_cons_of_ne_nil hinner.below
        rwa [List.getLast?_cons_cons] at hlast

theorem Selects.validName (h : s.Selects entries recursive l)
    (hwell : (Entry.directory entries).WellFormed) : ∀ name ∈ l, ValidName name := by
  obtain ⟨e, hcovers, -⟩ := h
  exact (hwell.at? hcovers.found).2

theorem Unreadable.validName (h : s.Unreadable fs path entries recursive l)
    (hwell : (Entry.directory entries).WellFormed) : ∀ name ∈ l, ValidName name := by
  rcases h with ⟨rfl | ⟨-, e, hcovers, -⟩, -⟩
  · exact List.forall_mem_nil _
  · exact (hwell.at? hcovers.found).2

/-- Profiles that the directory is searched for come in the order of their
    locations. -/
theorem Selects.pathBefore_iff {l' : Location} (h : s.Selects entries recursive l)
    (h' : s.Selects entries recursive l') (hwell : (Entry.directory entries).WellFormed) :
    PathBefore (pathBelow path l) (pathBelow path l') ↔ l < l' :=
  pathBefore_pathBelow_iff path (h.validName hwell) (h'.validName hwell)

/-- If no directory among the entries is entered, the walk comes to these only. -/
theorem Covers.mem_of_flat (hwell : (Entry.directory entries).WellFormed)
    (hflat : ∀ name inner, (name, Entry.directory inner) ∈ entries → recursive = true →
      name ∈ s.skipDirs) (h : s.Covers entries recursive l e) :
    ∃ name, l = [name] ∧ (name, e) ∈ entries := by
  rcases h.cases hwell with h | ⟨name, inner, _, -, hmem, hrecursive, hskip, -⟩
  · exact h
  · exact absurd (hflat name inner hmem hrecursive) hskip

theorem selects_iff_of_flat (hwell : (Entry.directory entries).WellFormed)
    (hflat : ∀ name inner, (name, Entry.directory inner) ∈ entries → recursive = true →
      name ∈ s.skipDirs) :
    s.Selects entries recursive l ↔ ∃ name e, l = [name] ∧ (name, e) ∈ entries ∧
      ¬ e.IsDirectory ∧ s.pattern.matchesText name.toList = true := by
  constructor
  · rintro ⟨e, hcovers, hdir, name, hname, hmatches⟩
    obtain ⟨name, rfl, hmem⟩ := hcovers.mem_of_flat hwell hflat
    cases hname
    exact ⟨name, e, rfl, hmem, hdir, hmatches⟩
  · rintro ⟨name, e, rfl, hmem, hdir, hmatches⟩
    exact ⟨e, .here hwell hmem, hdir, name, rfl, hmatches⟩

theorem not_unreadable_of_flat (hwell : (Entry.directory entries).WellFormed)
    (hflat : ∀ name inner, (name, Entry.directory inner) ∈ entries → recursive = true →
      name ∈ s.skipDirs) (hread : fs.Readable path) :
    ¬ s.Unreadable fs path entries recursive l := by
  rintro ⟨rfl | ⟨hrecursive, e, hcovers, hdir, hskip⟩, hopen⟩
  · exact FileSystem.not_readable_iff.2 hopen hread
  obtain ⟨name, rfl, hmem⟩ := hcovers.mem_of_flat hwell hflat
  obtain ⟨text⟩ | ⟨target⟩ | ⟨inner⟩ := e
  · exact hdir
  · exact hdir
  exact hskip name (by simp) (hflat name inner hmem hrecursive)

/-! ## The walk, location by location -/

/-- Profiles that the walk meets are at locations that go up as their paths. -/
theorem exists_locations {ms : List Met} (hwell : (Entry.directory entries).WellFormed)
    (hms : ms.Sublist (s.walk fs recursive path entries))
    (hok : ∀ m ∈ ms, ∃ p, m = .ok p) :
    ∃ ls : List Location, ls.Pairwise (· < ·) ∧ (∀ l ∈ ls, s.Selects entries recursive l) ∧
      ms = ls.map fun l => .ok (pathBelow path l) := by
  have hmet : ∀ m ∈ ms, ∃ l, s.Walks fs recursive path entries l m := fun m hm =>
    mem_walk.1 (hms.subset hm)
  choose! place hplace using hmet
  have hselects : ∀ m ∈ ms, m = .ok (pathBelow path (place m)) ∧
      s.Selects entries recursive (place m) := by
    intro m hm
    rcases (hplace m hm).selects_or_unreadable hwell with h | ⟨⟨fault, h⟩, -⟩
    · exact h
    · obtain ⟨p, hp⟩ := hok m hm
      exact absurd (hp.symm.trans h) (by simp)
  refine ⟨ms.map place, ?_, fun l hl => ?_, ?_⟩
  · rw [List.pairwise_map]
    refine ((inPathOrder_walk hwell).sublist hms).imp_of_mem fun {m m'} hm hm' hbefore => ?_
    rw [(hplace m hm).metPath_eq, (hplace m' hm').metPath_eq] at hbefore
    exact (pathBefore_pathBelow_iff path ((hplace m hm).validName hwell)
      ((hplace m' hm').validName hwell)).1 hbefore
  · obtain ⟨m, hm, rfl⟩ := List.mem_map.1 hl
    exact (hselects m hm).2
  · rw [List.map_map]
    conv_lhs => rw [← List.map_id ms]
    exact List.map_congr_left fun m hm => (hselects m hm).1

/-- **The walk without a directory that cannot be read** meets the profiles that
    the directory is searched for, each once. -/
theorem exists_walk_eq (hwell : (Entry.directory entries).WellFormed)
    (hread : ∀ l, ¬ s.Unreadable fs path entries recursive l) :
    ∃ ls : List Location, ls.Pairwise (· < ·) ∧ (∀ l, l ∈ ls ↔ s.Selects entries recursive l) ∧
      s.walk fs recursive path entries = ls.map fun l => .ok (pathBelow path l) := by
  have hok : ∀ m ∈ s.walk fs recursive path entries, ∃ p, m = .ok p := by
    intro m hm
    obtain ⟨l, hl⟩ := mem_walk.1 hm
    rcases hl.selects_or_unreadable hwell with ⟨h, -⟩ | ⟨-, h⟩
    · exact ⟨_, h⟩
    · exact absurd h (hread l)
  obtain ⟨ls, hsorted, hselects, hwalk⟩ := exists_locations hwell (List.Sublist.refl _) hok
  refine ⟨ls, hsorted, fun l => ⟨hselects l, fun hl => ?_⟩, hwalk⟩
  have hmet := mem_walk.2 ⟨l, hl.walks hwell fun front _ _ => hread front⟩
  rw [hwalk, List.mem_map] at hmet
  obtain ⟨l', hl', heq⟩ := hmet
  rwa [← pathBelow_injective path ((hselects l' hl').validName hwell) (hl.validName hwell)
    (Except.ok.inj heq)]

theorem lt_of_isPrefix {front l : Location} (h : front.IsPrefix l) (hne : front ≠ l) :
    front < l := by
  obtain ⟨back, rfl⟩ := h
  cases back with
  | nil => exact absurd (List.append_nil _).symm hne
  | cons name back =>
    conv_lhs => rw [← List.append_nil front]
    exact List.append_left_lt (List.nil_lt_cons _ _)

/-- **The walk up to a profile** meets the profiles before it, if the directories
    before it can be read. -/
theorem Selects.exists_walk_eq (h : s.Selects entries recursive l)
    (hwell : (Entry.directory entries).WellFormed)
    (hread : ∀ l', l' < l → ¬ s.Unreadable fs path entries recursive l') :
    ∃ (ls : List Location) (after : List Met), ls.Pairwise (· < ·) ∧
      (∀ l', l' ∈ ls ↔ s.Selects entries recursive l' ∧ l' < l) ∧
        s.walk fs recursive path entries =
          (ls.map fun l' => .ok (pathBelow path l')) ++ .ok (pathBelow path l) :: after := by
  have hmet : ∀ l', s.Selects entries recursive l' → l' ≤ l →
      .ok (pathBelow path l') ∈ s.walk fs recursive path entries := by
    intro l' hl' hle
    refine mem_walk.2 ⟨l', hl'.walks hwell fun front hfront hne => ?_⟩
    exact hread front (lt_of_lt_of_le (lt_of_isPrefix hfront hne) hle)
  obtain ⟨before, after, hwalk⟩ := List.append_of_mem (hmet l h le_rfl)
  have hsorted : InPathOrder (s.walk fs recursive path entries) :=
    inPathOrder_walk hwell
  rw [hwalk, InPathOrder, List.pairwise_append] at hsorted
  obtain ⟨-, hafter, hbefore⟩ := hsorted
  have hlt : ∀ l' m, s.Walks fs recursive path entries l' m → m ∈ before → l' < l := by
    intro l' m hl' hm
    have hpath := hbefore m hm _ List.mem_cons_self
    rw [hl'.metPath_eq] at hpath
    exact (pathBefore_pathBelow_iff path (hl'.validName hwell) (h.validName hwell)).1 hpath
  have hsub : before.Sublist (s.walk fs recursive path entries) := by
    rw [hwalk]
    exact List.sublist_append_left _ _
  have hok : ∀ m ∈ before, ∃ p, m = .ok p := by
    intro m hm
    obtain ⟨l', hl'⟩ := mem_walk.1 (hsub.subset hm)
    rcases hl'.selects_or_unreadable hwell with ⟨hm', -⟩ | ⟨-, hunreadable⟩
    · exact ⟨_, hm'⟩
    · exact absurd hunreadable (hread l' (hlt l' m hl' hm))
  obtain ⟨ls, hls, hselects, rfl⟩ := exists_locations hwell hsub hok
  refine ⟨ls, after, hls, fun l' => ⟨fun hl' => ?_, fun ⟨hl', hlt'⟩ => ?_⟩, hwalk⟩
  · refine ⟨hselects l' hl', ?_⟩
    have hpath := hbefore _ (List.mem_map.2 ⟨l', hl', rfl⟩) _ List.mem_cons_self
    exact ((hselects l' hl').pathBefore_iff h hwell).1 hpath
  · have hmem := hmet l' hl' hlt'.le
    rw [hwalk, List.mem_append] at hmem
    rcases hmem with hmem | hmem
    · obtain ⟨l'', hl'', heq⟩ := List.mem_map.1 hmem
      rwa [← pathBelow_injective path ((hselects l'' hl'').validName hwell) (hl'.validName hwell)
        (Except.ok.inj heq)]
    · -- what is met from the profile on has no path before that of the profile
      have hpath : PathBefore (pathBelow path l') (pathBelow path l) :=
        (hl'.pathBefore_iff h hwell).2 hlt'
      rcases List.mem_cons.1 hmem with heq | hmem
      · rw [Except.ok.inj heq] at hpath
        exact absurd hpath (PathBefore.irrefl _)
      · exact absurd (((List.pairwise_cons.1 hafter).1 _ hmem).trans hpath) (PathBefore.irrefl _)

end

end ProfileSync.Selector
