/-
  What a validation reads.

  * `FileSystem.SameBut`: two file systems that differ in the texts of some
    files only;
  * `FileSystem.SameBut.locate`: in both a path leads to the same place, so links
    and names decide it, and no text;
  * `ReadsAt`: the places whose texts a validation of a profile looks at;
  * `validateFile_congr`: if these texts are the same, so is what it answers.
-/
import ProfileSync.Check.Validation
import ProfileSync.Proofs.Files

namespace ProfileSync

/-- Two entries that differ at most in the text of a file, and only if this may
    be changed. -/
inductive Entry.Alike (changed : Prop) : Entry → Entry → Prop
  | file {text text'} : (¬ changed → text = text') → Alike changed (.file text) (.file text')
  | link {path} : Alike changed (.link path) (.link path)
  | directory {entries entries'} : Alike changed (.directory entries) (.directory entries')

theorem Entry.Alike.refl {changed : Prop} (e : Entry) : e.Alike changed e := by
  cases e with
  | file text => exact .file fun _ => rfl
  | link path => exact .link
  | directory entries => exact .directory

theorem Entry.Alike.isDirectory_iff {changed : Prop} {e e' : Entry} (h : e.Alike changed e') :
    e.IsDirectory ↔ e'.IsDirectory := by
  cases h <;> exact Iff.rfl

namespace FileSystem

/-- Two file systems with the same directories and links in the same places, and
    with the same files but for the texts of those at `changed` places.  Of both
    the same is refused. -/
structure SameBut (changed : Location → Prop) (fs fs' : FileSystem) : Prop where
  workingDirectory : fs'.workingDirectory = fs.workingDirectory
  refusals : fs'.refusals = fs.refusals
  alike : ∀ l, Option.Rel (Entry.Alike (changed l)) (fs.root.at? l) (fs'.root.at? l)

namespace SameBut

variable {changed : Location → Prop} {fs fs' : FileSystem}

/-! ## Look-up -/

theorem refusal? (h : fs.SameBut changed fs') (l : Location) (access : Access) :
    fs'.refusal? l access = fs.refusal? l access := by
  rw [FileSystem.refusal?, FileSystem.refusal?, h.refusals]

theorem follow (h : fs.SameBut changed fs') (here : Location) (names : List String) :
    fs'.follow here names = fs.follow here names := by
  induction names generalizing here with
  | nil => rfl
  | cons name names ih =>
    rw [FileSystem.follow, FileSystem.follow, ih here, ih here.dropLast, h.refusal?]
    have halike := h.alike (here ++ [name])
    generalize fs.root.at? (here ++ [name]) = e at *
    generalize fs'.root.at? (here ++ [name]) = e' at *
    cases halike with
    | none => rfl
    | some halike =>
      cases halike with
      | file => rfl
      | link => rfl
      | directory => simp only [ih (here ++ [name])]

theorem locateFrom (h : fs.SameBut changed fs') (through : Bool) (links : Nat) (here : Location)
    (names : List String) :
    fs'.locateFrom through links here names = fs.locateFrom through links here names := by
  induction links generalizing here names with
  | zero =>
    unfold FileSystem.locateFrom
    rw [h.follow]
  | succ links ih =>
    unfold FileSystem.locateFrom
    simp only [h.follow, ih]

theorem locate (h : fs.SameBut changed fs') (through : Bool) (path : String) :
    fs'.locate through path = fs.locate through path := by
  simp only [FileSystem.locate, h.locateFrom, h.workingDirectory]

/-- In both file systems a path leads nowhere, or to entries that are alike. -/
theorem find (h : fs.SameBut changed fs') (path : String) :
    (∃ fault, fs.find path = .error fault ∧ fs'.find path = .error fault) ∨
      ∃ l e e', fs.locate true path = .ok l ∧ e.Alike (changed l) e' ∧
        fs.root.at? l = some e ∧ fs'.root.at? l = some e' ∧
          fs.find path = .ok e ∧ fs'.find path = .ok e' := by
  unfold FileSystem.find
  rw [h.locate]
  cases fs.locate true path with
  | error fault => exact .inl ⟨fault, rfl, rfl⟩
  | ok l =>
    have halike := h.alike l
    cases he : fs.root.at? l with
    | none =>
      cases he' : fs'.root.at? l with
      | none => exact .inl ⟨.notFound, by simp only [he], by simp only [he']⟩
      | some e' => rw [he, he'] at halike; cases halike
    | some e =>
      cases he' : fs'.root.at? l with
      | none => rw [he, he'] at halike; cases halike
      | some e' =>
        rw [he, he'] at halike
        cases halike with
        | some halike =>
          exact .inr ⟨l, e, e', rfl, halike, he, he', by simp only [he], by simp only [he']⟩

/-- In both file systems a path leads to nothing that can be read, or to entries
    that are alike. -/
theorem openEntry (h : fs.SameBut changed fs') (path : String) :
    (∃ fault, fs.openEntry path = .error fault ∧ fs'.openEntry path = .error fault) ∨
      ∃ l e e', fs.locate true path = .ok l ∧ e.Alike (changed l) e' ∧
        fs.openEntry path = .ok e ∧ fs'.openEntry path = .ok e' := by
  unfold FileSystem.openEntry
  rw [h.locate]
  cases fs.locate true path with
  | error fault => exact .inl ⟨fault, rfl, rfl⟩
  | ok l =>
    dsimp only
    rw [h.refusal?]
    have halike := h.alike l
    generalize fs.root.at? l = e at *
    generalize fs'.root.at? l = e' at *
    cases halike with
    | none => exact .inl ⟨.notFound, rfl, rfl⟩
    | some halike =>
      cases fs.refusal? l .read with
      | some why => exact .inl ⟨.refused why, rfl, rfl⟩
      | none => exact .inr ⟨l, _, _, rfl, halike, rfl, rfl⟩

theorem readText (h : fs.SameBut changed fs') {path : String}
    (hpath : ∀ l, fs.locate true path = .ok l → ¬ changed l) :
    fs'.readText path = fs.readText path := by
  unfold FileSystem.readText
  rcases h.openEntry path with ⟨fault, hopen, hopen'⟩ | ⟨l, e, e', hlocate, halike, hopen, hopen'⟩
  · rw [hopen, hopen']
  · rw [hopen, hopen']
    cases halike with
    | file htext => rw [htext (hpath l hlocate)]
    | link => rfl
    | directory => rfl

/-- In both file systems a path leads to a directory that can be read, or the same
    fault shows that it does not. -/
theorem openDirectory_eq_error_iff (h : fs.SameBut changed fs') {path : String}
    {fault : FileFault} :
    fs'.openDirectory path = .error fault ↔ fs.openDirectory path = .error fault := by
  unfold FileSystem.openDirectory
  rcases h.openEntry path with ⟨fault', hopen, hopen'⟩ | ⟨l, e, e', -, halike, hopen, hopen'⟩
  · rw [hopen, hopen']
  · rw [hopen, hopen']
    cases halike with
    | file => exact Iff.rfl
    | link => exact Iff.rfl
    | directory => simp

end SameBut

end FileSystem

/-! ## Validation -/

/-- A place whose text the validation of the profile at a path looks at: that of
    the profile, and that of its test file. -/
def ReadsAt (fs : FileSystem) (path : String) (l : Location) : Prop :=
  fs.locate true path = .ok l ∨ ∃ p, loadProfile fs path = .ok p ∧
    fs.locate true (joinPath (profileDirectory path) p.test) = .ok l

section
variable {changed : Location → Prop} {fs fs' : FileSystem} {path : String}

theorem loadProfile_congr (h : fs.SameBut changed fs')
    (hpath : ∀ l, ReadsAt fs path l → ¬ changed l) : loadProfile fs' path = loadProfile fs path := by
  unfold loadProfile
  rw [h.readText fun l hl => hpath l (.inl hl)]

/-- Of a source file only its place matters. -/
theorem checkSource_congr (h : fs.SameBut changed fs') (source : String) :
    checkSource fs' path source = checkSource fs path source := by
  unfold checkSource
  rcases h.find source with ⟨fault, hfind, hfind'⟩ | ⟨_, _, _, -, -, -, -, hfind, hfind'⟩ <;>
    rw [hfind, hfind']

theorem readTestFile_congr (h : fs.SameBut changed fs')
    (hpath : ∀ l, fs.locate true path = .ok l → ¬ changed l) :
    readTestFile fs' path = readTestFile fs path := by
  unfold readTestFile
  rw [h.readText hpath]

theorem checkProfile_congr (h : fs.SameBut changed fs')
    (hpath : ∀ l, ReadsAt fs path l → ¬ changed l) :
    checkProfile fs' path = checkProfile fs path := by
  unfold checkProfile
  rw [loadProfile_congr h hpath]
  cases hload : loadProfile fs path with
  | error e => rfl
  | ok p =>
    have htest := readTestFile_congr h fun l hl => hpath l (.inr ⟨p, hload, hl⟩)
    have hok : (Logged.ofExcept (.ok p)).result = .ok p := rfl
    simp only [Logged.bind_of_ok hok, checkSource_congr h, htest]

/-- **A validation** depends on no text but that of the profile and that of its
    test file. -/
theorem validateFile_congr (h : fs.SameBut changed fs')
    (hpath : ∀ l, ReadsAt fs path l → ¬ changed l) :
    validateFile fs' path = validateFile fs path := by
  unfold validateFile
  rw [checkProfile_congr h hpath]

end

/-! ## Directories -/

/-- In two directories there is something at the same locations, and a directory
    at the same ones. -/
def SameShape (entries entries' : List (String × Entry)) : Prop :=
  ∀ l, Option.Rel (fun e e' => e.IsDirectory ↔ e'.IsDirectory) ((Entry.directory entries).at? l)
    ((Entry.directory entries').at? l)

theorem SameShape.symm {entries entries' : List (String × Entry)} (h : SameShape entries entries') :
    SameShape entries' entries := by
  intro l
  have hl := h l
  generalize (Entry.directory entries).at? l = e at *
  generalize (Entry.directory entries').at? l = e' at *
  cases hl with
  | some hdir => exact .some hdir.symm
  | none => exact .none

/-- In both file systems a directory has the same shape. -/
theorem FileSystem.SameBut.find_directory {changed : Location → Prop} {fs fs' : FileSystem}
    {directory : String} {entries : List (String × Entry)} (h : fs.SameBut changed fs')
    (hdir : fs.find directory = .ok (.directory entries)) :
    ∃ entries', fs'.find directory = .ok (.directory entries') ∧ SameShape entries entries' := by
  rcases h.find directory with ⟨fault, hfind, -⟩ | ⟨here, e, e', -, halike, hat, hat', hfind, hfind'⟩
  · rw [hdir] at hfind
    cases hfind
  · rw [hdir] at hfind
    cases hfind
    cases halike with
    | @directory _ entries' =>
      refine ⟨entries', hfind', fun l => ?_⟩
      have hl := h.alike (here ++ l)
      rw [Entry.at?_append, Entry.at?_append, hat, hat', Option.bind_some, Option.bind_some] at hl
      generalize (Entry.directory entries).at? l = e at *
      generalize (Entry.directory entries').at? l = e' at *
      cases hl with
      | some hl => exact .some hl.isDirectory_iff
      | none => exact .none

end ProfileSync
