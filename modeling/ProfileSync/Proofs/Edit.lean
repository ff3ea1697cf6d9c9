/-
  File systems stay well-formed.

  * `FileSystem.WellFormed`: each name in the tree, on the way to the working
    directory and in the locations of refusals is one that an entry can have;
  * `Entry.WellFormed.set` and `Entry.WellFormed.erase`: an entry stays so if
    another is put into it or taken away;
  * `FileSystem.WellFormed.locate`: paths lead to locations with such names;
  * `FileSystem.WellFormed.apply`: a change leaves a well-formed file system so;
  * `FileSystem.wellFormed_applyAll_empty`: each file system is well-formed that
    changes make of an empty one, and by `FileSystem.WellFormed.find` so is each
    entry that is found in it.
-/
import ProfileSync.Files.Edit
import ProfileSync.Proofs.Files

namespace ProfileSync

/-! ## Entries -/

namespace Entry.WellFormed

variable {e new : Entry} {name : String}

/-- A directory with nothing in it. -/
theorem empty : (Entry.directory []).WellFormed := .directory (by simp) (by simp) (by simp)

theorem entries (h : e.WellFormed) : (e.entries.map Prod.fst).Nodup ∧
    (∀ e' ∈ e.entries, ValidName e'.1) ∧ ∀ e' ∈ e.entries, e'.2.WellFormed := by
  cases h with
  | file => simp [Entry.entries]
  | link => simp [Entry.entries]
  | directory hnodup hvalid hinner => exact ⟨hnodup, hvalid, hinner⟩

theorem lookup (h : e.WellFormed) (hlookup : e.entries.lookup name = some new) :
    new.WellFormed := by
  obtain ⟨hnodup, -, hinner⟩ := h.entries
  exact hinner _ ((lookup_eq_some_iff_mem hnodup).1 hlookup)

theorem replaced (h : e.WellFormed) (hname : ValidName name) (hnew : new.WellFormed) :
    (Entry.directory (setEntry e.entries name new)).WellFormed := by
  obtain ⟨hnodup, hvalid, hinner⟩ := h.entries
  rw [setEntry]
  refine .directory ?_ ?_ ?_
  · rw [List.map_append, List.nodup_append]
    refine ⟨hnodup.sublist (List.filter_sublist.map _), by simp, ?_⟩
    intro a ha b hb heq
    obtain ⟨e', he', rfl⟩ := List.mem_map.1 ha
    simp only [List.map_cons, List.map_nil, List.mem_singleton] at hb
    simpa [heq, hb] using (List.mem_filter.1 he').2
  · intro e' he'
    rcases List.mem_append.1 he' with he' | he'
    · exact hvalid e' (List.mem_filter.1 he').1
    · rw [List.mem_singleton.1 he']
      exact hname
  · intro e' he'
    rcases List.mem_append.1 he' with he' | he'
    · exact hinner e' (List.mem_filter.1 he').1
    · rw [List.mem_singleton.1 he']
      exact hnew

/-- Putting an entry at a location. -/
theorem set {l : Location} (h : e.WellFormed) (hnew : new.WellFormed)
    (hl : ∀ name ∈ l, ValidName name) : (e.set l new).WellFormed := by
  induction l generalizing e with
  | nil => rwa [Entry.set]
  | cons name l ih =>
    obtain ⟨hname, hl⟩ := List.forall_mem_cons.1 hl
    rw [Entry.set]
    refine h.replaced hname (ih ?_ hl)
    cases hlookup : e.entries.lookup name with
    | none => exact .empty
    | some inner => exact h.lookup hlookup

/-- Taking the entry at a location away. -/
theorem erase {l : Location} (h : e.WellFormed) (hl : ∀ name ∈ l, ValidName name) :
    (e.erase l).WellFormed := by
  induction l generalizing e with
  | nil => exact .empty
  | cons name l ih =>
    obtain ⟨hname, hl⟩ := List.forall_mem_cons.1 hl
    cases l with
    | nil =>
      obtain ⟨hnodup, hvalid, hinner⟩ := h.entries
      rw [Entry.erase]
      exact .directory (hnodup.sublist (List.filter_sublist.map _))
        (fun e' he' => hvalid e' (List.mem_filter.1 he').1)
        fun e' he' => hinner e' (List.mem_filter.1 he').1
    | cons name' l =>
      rw [Entry.erase]
      split
      · rename_i inner hlookup
        exact h.replaced hname (ih (h.lookup hlookup) hl)
      · exact h
      · intro hnil
        cases hnil

end Entry.WellFormed

/-! ## Locations that paths lead to -/

theorem no_slash_of_mem_partsAtSlashes {cs part : List Char} (h : part ∈ partsAtSlashes cs) :
    '/' ∉ part := by
  induction cs generalizing part with
  | nil =>
    rw [List.mem_singleton.1 h]
    simp
  | cons c cs ih =>
    rw [partsAtSlashes] at h
    split at h
    · rcases List.mem_cons.1 h with rfl | h
      · simp
      · exact ih h
    · rename_i hc
      split at h
      · rename_i first parts hparts
        rcases List.mem_cons.1 h with rfl | h
        · rw [List.mem_cons]
          rintro (heq | hmem)
          · exact hc heq.symm
          · exact ih (by rw [hparts]; exact List.mem_cons_self) hmem
        · exact ih (by rw [hparts]; exact List.mem_cons_of_mem _ h)
      · rw [List.mem_singleton.1 h]
        simpa using fun heq : '/' = c => hc heq.symm

theorem no_slash_of_mem_pathNames {path name : String} (h : name ∈ pathNames path) :
    '/' ∉ name.toList := by
  have hparts : ∀ name ∈ ((partsAtSlashes path.toList).filter (· != [])).map String.ofList,
      '/' ∉ name.toList := by
    intro name hname
    obtain ⟨part, hpart, rfl⟩ := List.mem_map.1 hname
    rw [String.toList_ofList]
    exact no_slash_of_mem_partsAtSlashes (List.mem_filter.1 hpart).1
  unfold pathNames at h
  dsimp only at h
  split at h
  · rcases List.mem_append.1 h with h | h
    · exact hparts name h
    · rw [List.mem_singleton.1 h]
      decide
  · exact hparts name h

/-- Names that are those of entries. -/
def ValidLocation (l : Location) : Prop := ∀ name ∈ l, ValidName name

theorem ValidLocation.concat {l : Location} {name : String} (h : ValidLocation l)
    (hname : ValidName name) : ValidLocation (l ++ [name]) := by
  intro n hn
  rcases List.mem_append.1 hn with hn | hn
  · exact h n hn
  · rw [List.mem_singleton.1 hn]
    exact hname

theorem ValidLocation.dropLast {l : Location} (h : ValidLocation l) : ValidLocation l.dropLast :=
  fun name hname => h name (List.dropLast_subset l hname)

theorem ValidLocation.start {directory : Location} (h : ValidLocation directory) (path : String) :
    ValidLocation (pathStart directory path) := by
  rw [pathStart]
  split
  · exact fun n hn => nomatch hn
  · exact h

/-- A reach whose locations have names of entries, with names of paths left. -/
def Reach.Valid : Reach → Prop
  | .entry here => ValidLocation here
  | .link directory name _ rest =>
    ValidLocation (directory ++ [name]) ∧ ValidLocation directory ∧ ∀ n ∈ rest, '/' ∉ n.toList

theorem valid_of_follow {fs : FileSystem} {here : Location} {names : List String} {reach : Reach}
    (hhere : ValidLocation here) (hnames : ∀ name ∈ names, '/' ∉ name.toList)
    (h : fs.follow here names = .ok reach) : reach.Valid := by
  induction names generalizing here with
  | nil =>
    cases h
    exact hhere
  | cons name names ih =>
    obtain ⟨hname, hrest⟩ := List.forall_mem_cons.1 hnames
    rw [FileSystem.follow] at h
    split at h
    · exact ih hhere hrest h
    rename_i hempty
    split at h
    · cases h
    split at h
    · exact ih hhere hrest h
    rename_i hdot
    split at h
    · exact ih hhere.dropLast hrest h
    rename_i hdots
    have hnext : ValidLocation (here ++ [name]) := hhere.concat ⟨hempty, hdot, hdots, hname⟩
    split at h
    · cases h
    split at h
    · cases h
    · exact ih hnext hrest h
    · split at h
      · cases h
        exact hnext
      · cases h
    · cases h
      exact ⟨hnext, hhere, hrest⟩

theorem validLocation_locateFrom {fs : FileSystem} {through : Bool} {links : Nat}
    {here place : Location} {names : List String} (hhere : ValidLocation here)
    (hnames : ∀ name ∈ names, '/' ∉ name.toList)
    (h : fs.locateFrom through links here names = .ok place) : ValidLocation place := by
  induction links generalizing here names with
  | zero =>
    unfold FileSystem.locateFrom at h
    split at h
    · cases h
    · rename_i hfollow
      cases h
      exact valid_of_follow hhere hnames hfollow
    · rename_i hfollow
      obtain ⟨hlink, -⟩ := valid_of_follow hhere hnames hfollow
      split at h
      · cases h
        exact hlink
      · cases h
  | succ links ih =>
    unfold FileSystem.locateFrom at h
    split at h
    · cases h
    · rename_i hfollow
      cases h
      exact valid_of_follow hhere hnames hfollow
    · rename_i hfollow
      obtain ⟨hlink, hdirectory, hrest⟩ := valid_of_follow hhere hnames hfollow
      split at h
      · cases h
        exact hlink
      · refine ih (hdirectory.start _) (fun n hn => ?_) h
        rcases List.mem_append.1 hn with hn | hn
        · exact no_slash_of_mem_pathNames hn
        · exact hrest n hn

/-! ## Changes -/

namespace FileSystem

/-- Each name in a file system is one that an entry can have. -/
structure WellFormed (fs : FileSystem) : Prop where
  root : fs.root.WellFormed
  workingDirectory : ValidLocation fs.workingDirectory
  refusals : ∀ r ∈ fs.refusals, ValidLocation r.1.1

namespace WellFormed

variable {fs : FileSystem}

theorem unrestricted (h : fs.WellFormed) : fs.unrestricted.WellFormed :=
  ⟨h.root, h.workingDirectory, List.forall_mem_nil _⟩

theorem withRoot {root : Entry} (h : fs.WellFormed) (hroot : root.WellFormed) :
    FileSystem.WellFormed { fs with root } :=
  ⟨hroot, h.workingDirectory, h.refusals⟩

theorem locate {through : Bool} {path : String} {place : Location} (h : fs.WellFormed)
    (hlocate : fs.locate through path = .ok place) : ValidLocation place := by
  unfold FileSystem.locate at hlocate
  split_ifs at hlocate
  exact validLocation_locateFrom (h.workingDirectory.start path)
    (fun _ => no_slash_of_mem_pathNames) hlocate

theorem find {path : String} {e : Entry} (h : fs.WellFormed) (hfind : fs.find path = .ok e) :
    e.WellFormed :=
  find_wellFormed h.root hfind

/-- A directory that is entered or made. -/
theorem enter {here : Location} {name : String} (h : fs.WellFormed) (hhere : ValidLocation here)
    (hname : '/' ∉ name.toList) : (FileSystem.enter (fs, here) name).1.WellFormed ∧
      ValidLocation (FileSystem.enter (fs, here) name).2 := by
  unfold FileSystem.enter
  dsimp only
  split
  · rename_i place hlocate
    exact ⟨h, validLocation_locateFrom hhere (by simpa using hname) hlocate⟩
  · rename_i fault hlocate
    -- an empty name and dots lead somewhere, so the name is one of an entry
    have hvalid : ValidName name := by
      refine ⟨?_, ?_, ?_, hname⟩
      · rintro rfl
        cases hlocate
      · rintro rfl
        cases hlocate
      · rintro rfl
        cases hlocate
    have hinner := hhere.concat hvalid
    exact ⟨h.withRoot (h.root.set .empty hinner), hinner⟩

theorem foldl_enter {here : Location} {names : List String} (h : fs.WellFormed)
    (hhere : ValidLocation here) (hnames : ∀ name ∈ names, '/' ∉ name.toList) :
    (names.foldl FileSystem.enter (fs, here)).1.WellFormed ∧
      ValidLocation (names.foldl FileSystem.enter (fs, here)).2 := by
  induction names generalizing fs here with
  | nil => exact ⟨h, hhere⟩
  | cons name names ih =>
    obtain ⟨hname, hrest⟩ := List.forall_mem_cons.1 hnames
    obtain ⟨hfs, hplace⟩ := enter h hhere hname
    exact ih hfs hplace hrest

theorem makeDirectory (h : fs.WellFormed) (path : String) : (fs.makeDirectory path).WellFormed :=
  (foldl_enter h (h.workingDirectory.start path) fun _ => no_slash_of_mem_pathNames).1

/-- A file or a link that is written, be it through links. -/
theorem putFrom {e : Entry} {links : Nat} {start : Location} {path : String} (h : fs.WellFormed)
    (he : e.WellFormed) (hstart : ValidLocation start) :
    (FileSystem.putFrom e links fs start path).WellFormed := by
  induction links using Nat.strong_induction_on generalizing fs start path with
  | _ links ih =>
    have hnames : ∀ name ∈ (pathNames path).dropLast, '/' ∉ name.toList := fun name hname =>
      no_slash_of_mem_pathNames (List.dropLast_subset _ hname)
    obtain ⟨hfs, hhere⟩ := foldl_enter h (hstart.start path) hnames
    unfold FileSystem.putFrom
    dsimp only
    generalize (pathNames path).dropLast.foldl FileSystem.enter
      (fs, pathStart start path) = state at *
    split
    · exact hfs
    · rename_i name hlast
      have hname : '/' ∉ name.toList := no_slash_of_mem_pathNames (List.mem_of_getLast? hlast)
      split
      · exact hfs
      · rename_i hdots
        obtain ⟨hempty, hdot, hdots⟩ : name ≠ "" ∧ name ≠ "." ∧ name ≠ ".." := by
          simpa only [not_or] using hdots
        have hplain := hfs.withRoot (hfs.root.set he (hhere.concat ⟨hempty, hdot, hdots, hname⟩))
        split
        · exact ih _ (Nat.lt_succ_self _) hfs hhere
        · exact hplain

theorem putFile (h : fs.WellFormed) (path : String) (text : Option String) :
    (fs.putFile path text).WellFormed :=
  putFrom h .file h.workingDirectory

theorem putLink (h : fs.WellFormed) (path target : String) : (fs.putLink path target).WellFormed :=
  putFrom h .link h.workingDirectory

theorem remove (h : fs.WellFormed) (path : String) : (fs.remove path).WellFormed := by
  unfold FileSystem.remove
  split
  · rename_i place hlocate
    exact ⟨h.root.erase (h.unrestricted.locate hlocate), h.workingDirectory,
      fun r hr => h.refusals r (List.mem_filter.1 hr).1⟩
  · exact h

theorem refuse (h : fs.WellFormed) (path : String) (access : Access) (why : Refusal) :
    (fs.refuse path access why).WellFormed := by
  unfold FileSystem.refuse
  dsimp only
  split
  · rename_i place hlocate
    have hplace : ValidLocation place :=
      validLocation_locateFrom (h.workingDirectory.start path) (fun _ => no_slash_of_mem_pathNames)
        hlocate
    exact ⟨h.root, h.workingDirectory, List.forall_mem_cons.2 ⟨hplace, h.refusals⟩⟩
  · exact h

/-- **A change** leaves a well-formed file system well-formed. -/
theorem apply (h : fs.WellFormed) (change : FileChange) : (fs.apply change).WellFormed := by
  cases change with
  | makeDirectory path => exact h.makeDirectory path
  | putFile path text => exact h.putFile path text
  | putLink path target => exact h.putLink path target
  | remove path => exact h.remove path
  | refuse path access why => exact h.refuse path access why

theorem applyAll (h : fs.WellFormed) (changes : List FileChange) :
    (fs.applyAll changes).WellFormed := by
  induction changes generalizing fs with
  | nil => exact h
  | cons change changes ih => exact ih (h.apply change)

end WellFormed

/-- **Any sequence of changes** of an empty file system makes a well-formed one. -/
theorem wellFormed_applyAll_empty {workingDirectory : Location}
    (h : ValidLocation workingDirectory) (changes : List FileChange) :
    ((empty workingDirectory).applyAll changes).WellFormed :=
  WellFormed.applyAll ⟨.empty, h, List.forall_mem_nil _⟩ changes

example : ((empty []).applyAll [.putFile "a/b" none, .refuse "a" .search .denied]).locate true
    "a/b" = .error (.refused .denied) := by decide +kernel

end FileSystem

end ProfileSync
