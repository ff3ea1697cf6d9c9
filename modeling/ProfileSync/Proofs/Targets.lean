/-
  Targets that are no directory.

  * `FileSystem.find_eq_error_iff`: a look-up fails if the path leads to nothing;
  * `Selector.validateDirectory_of_nothing`: then the validation fails with the path;
  * `Options.code_of_error`: and a run that is asked for it ends with the code 1;
  * `Selector.validateDirectory_off_directory`: so a path that leads to no directory
    passes only if it leads to something else, and no profile is validated then;
  * `Selector.validateDirectory_passes_on_file`: it does pass if it leads to a file.
-/
import ProfileSync.Proofs.LookUp
import ProfileSync.Proofs.Verdict

namespace ProfileSync

/-- A look-up fails just when the path leads to nothing. -/
theorem FileSystem.find_eq_error_iff {fs : FileSystem} {path : String} :
    (∃ fault, fs.find path = .error fault) ↔ ¬ ∃ e, fs.LeadsTo path e := by
  simp only [← find_eq_ok_iff]
  cases fs.find path with
  | ok e => simp
  | error fault => simp

/-- A run ends with the code 1 if the directory that it is asked for does not pass,
    whatever the configuration. -/
theorem Options.code_of_error {o : Options} {fs : FileSystem} {directory : String}
    {recursive : Bool} (htarget : o.target = .directory directory recursive)
    (hfail : ∀ s : Selector, ∃ e, (s.validateDirectory fs directory recursive).result = .error e)
    (color : Bool) : (o.run fs color).code = 1 := by
  rcases o.passes_or_fails fs with ⟨log, said, count, hpass⟩ | ⟨log, said, text, h⟩
  · cases hpass with
    | file _ _ hfile => rw [htarget] at hfile; cases hfile
    | @directory _ s _ _ _ _ _ hdirectory hresult =>
      rw [htarget] at hdirectory
      cases hdirectory
      obtain ⟨e, he⟩ := hfail s
      rw [he] at hresult
      cases hresult
  · rw [run_of_fails h]

namespace Selector

variable {fs : FileSystem} {directory : String}

theorem validateDirectory_of_nothing {fault : FileFault} (h : fs.find directory = .error fault)
    (s : Selector) (recursive : Bool) : s.validateDirectory fs directory recursive =
      ⟨[], .error (.walk directory directory fault)⟩ := by
  have hbelow : s.profilesBelow fs directory recursive = [.error (directory, fault)] := by
    rw [profilesBelow, h]
  unfold validateDirectory
  rw [hbelow, Logged.each_cons, Logged.bind_of_error rfl, Logged.bind_of_error rfl]
  rfl

/-- **What is no directory** fails with its path if nothing is there, and then the
    command fails that is asked for it.  If something is there, it can only pass
    without a profile. -/
theorem validateDirectory_off_directory
    (hnot : ¬ ∃ entries, fs.LeadsTo directory (.directory entries)) (s : Selector)
    (recursive : Bool) :
    ((¬ ∃ e, fs.LeadsTo directory e) →
      (∃ fault, s.validateDirectory fs directory recursive =
        ⟨[], .error (.walk directory directory fault)⟩) ∧
      ∀ arguments o color, Request.ofArguments arguments = .ok (.run o) →
        o.target = .directory directory recursive → (runCommand fs arguments color).code = 1) ∧
    ∀ paths, (s.validateDirectory fs directory recursive).result = .ok paths →
      paths = [] ∧ ∃ e, fs.LeadsTo directory e := by
  constructor
  · intro hnothing
    obtain ⟨fault, hfault⟩ := FileSystem.find_eq_error_iff.2 hnothing
    refine ⟨⟨fault, validateDirectory_of_nothing hfault s recursive⟩,
      fun arguments o color hrequest htarget => ?_⟩
    rw [runCommand, hrequest]
    refine Options.code_of_error htarget (fun s => ?_) color
    exact ⟨_, by rw [validateDirectory_of_nothing hfault s recursive]⟩
  · intro paths hpass
    cases hfind : fs.find directory with
    | error fault =>
      rw [validateDirectory_of_nothing hfind s recursive] at hpass
      cases hpass
    | ok e =>
      refine ⟨?_, e, FileSystem.find_eq_ok_iff.1 hfind⟩
      obtain ⟨hbelow, -⟩ := result_validateDirectory_eq_ok_iff.1 hpass
      rw [profilesBelow, hfind] at hbelow
      cases e with
      | directory entries => exact absurd ⟨entries, FileSystem.find_eq_ok_iff.1 hfind⟩ hnot
      | file text => exact List.map_eq_nil_iff.1 hbelow.symm
      | link target => exact List.map_eq_nil_iff.1 hbelow.symm

/-- A directory with a profile that cannot be read as one, a link to this, and a link
    to nothing. -/
def brokenEntries : List (String × Entry) :=
  [("a_utprofile.yml", .file (some "cases: [")), ("gone", .link "nowhere"),
    ("link", .link "a_utprofile.yml")]

/-- A file system with this directory as its root. -/
def broken : FileSystem := ⟨.directory brokenEntries, [], []⟩

/-- A link that leads to nothing is no directory. -/
theorem validateDirectory_off_directory_dangling :
    (¬ ∃ e, broken.LeadsTo "gone" e) ∧
      (∃ fault, standard.validateDirectory broken "gone" true =
        ⟨[], .error (.walk "gone" "gone" fault)⟩) ∧
      (runCommand broken ["-rd", "gone"] false).code = 1 := by
  have hnothing : ¬ ∃ e, broken.LeadsTo "gone" e :=
    FileSystem.find_eq_error_iff.1 ⟨.notFound, rfl⟩
  obtain ⟨hfail, -⟩ := validateDirectory_off_directory
    (fun ⟨entries, h⟩ => hnothing ⟨_, h⟩) standard true
  obtain ⟨hwalk, hcommand⟩ := hfail hnothing
  exact ⟨hnothing, hwalk, hcommand ["-rd", "gone"] ⟨.directory "gone" true, none, none⟩ false
    (by decide +kernel) rfl⟩

/-- **The path of a file passes**, and that of a link to one, though no profile is
    validated, not even the one in the file. -/
theorem validateDirectory_passes_on_file :
    (∃ text, broken.LeadsTo "a_utprofile.yml" (.file text)) ∧
      (∃ text, broken.LeadsTo "link" (.file text)) ∧
      (standard.validateDirectory broken "a_utprofile.yml" false).result = .ok [] ∧
      (standard.validateDirectory broken "link" true).result = .ok [] ∧
      runCommand broken ["--dir", "a_utprofile.yml"] false =
        ⟨0, ⟨"0 profile(s) validated\n", ""⟩⟩ := by
  refine ⟨⟨_, FileSystem.find_eq_ok_iff.1 rfl⟩, ⟨_, FileSystem.find_eq_ok_iff.1 rfl⟩, rfl, rfl, ?_⟩
  decide +kernel

end Selector

end ProfileSync
