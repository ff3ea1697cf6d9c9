/-
  The verdict of a run of the command.

  * `Options.Passes` and `Options.Fails`: how a run comes out, with the level of its
    log and what is said before the verdict;
  * `Options.run_of_passes` and `Options.run_of_fails`: the verdict is said last, at
    the level that every log shows, and decides the code;
  * `runCommand_verdict`: so a run says once what came out, on the standard output
    if it passes and on the standard error if it does not.
-/
import ProfileSync.Command.Run
import ProfileSync.Proofs.Messages

namespace ProfileSync

/-! ## The validation of a target -/

namespace Target

variable {fs : FileSystem} {s : Selector} {path : String} {recursive : Bool}

theorem validate_file_of_ok (h : (validateFile fs path).result = .ok ()) :
    (file path).validate fs s = ⟨(validateFile fs path).messages, .ok 1⟩ := by
  rw [validate, Logged.bind_of_ok h]
  exact congrArg (Logged.mk · _) (List.append_nil _)

theorem validate_file_of_error {e : Failure} (h : (validateFile fs path).result = .error e) :
    (file path).validate fs s = ⟨(validateFile fs path).messages, .error e⟩ := by
  rw [validate, Logged.bind_of_error h]

theorem validate_directory_of_ok {paths : List String}
    (h : (s.validateDirectory fs path recursive).result = .ok paths) :
    (directory path recursive).validate fs s =
      ⟨(s.validateDirectory fs path recursive).messages, .ok paths.length⟩ := by
  rw [validate, Logged.bind_of_ok h]
  exact congrArg (Logged.mk · _) (List.append_nil _)

theorem validate_directory_of_error {e : Failure}
    (h : (s.validateDirectory fs path recursive).result = .error e) :
    (directory path recursive).validate fs s =
      ⟨(s.validateDirectory fs path recursive).messages, .error e⟩ := by
  rw [validate, Logged.bind_of_error h]

end Target

namespace Options

/-! ## How a run comes out -/

/-- A run passes with a number of profiles: there is a configuration, whose pattern
    is one, and the profile or the directory that is asked for is validated. -/
inductive Passes (o : Options) (fs : FileSystem) : LogLevel → List Message → Nat → Prop
  | file {c s path} : Config.loadOrDefault fs o.config = .ok c → Selector.ofConfig c = .ok s →
      o.target = .file path → (validateFile fs path).result = .ok () →
      Passes o fs (o.level c) (validateFile fs path).messages 1
  | directory {c s path recursive paths} : Config.loadOrDefault fs o.config = .ok c →
      Selector.ofConfig c = .ok s → o.target = .directory path recursive →
      (s.validateDirectory fs path recursive).result = .ok paths →
      Passes o fs (o.level c) (s.validateDirectory fs path recursive).messages paths.length

/-- A run fails with a text: that of the first failure, with words before it if
    this is one of the validation. -/
inductive Fails (o : Options) (fs : FileSystem) : LogLevel → List Message → String → Prop
  | config {e} : Config.loadOrDefault fs o.config = .error e → Fails o fs .normal [] e.message
  | pattern {c e} : Config.loadOrDefault fs o.config = .ok c → Selector.ofConfig c = .error e →
      Fails o fs (o.level c) [] e.message
  | file {c s path e} : Config.loadOrDefault fs o.config = .ok c → Selector.ofConfig c = .ok s →
      o.target = .file path → (validateFile fs path).result = .error e →
      Fails o fs (o.level c) (validateFile fs path).messages
        s!"Error validating file, {path}: {e.message}"
  | directory {c s path recursive e} : Config.loadOrDefault fs o.config = .ok c →
      Selector.ofConfig c = .ok s → o.target = .directory path recursive →
      (s.validateDirectory fs path recursive).result = .error e →
      Fails o fs (o.level c) (s.validateDirectory fs path recursive).messages
        s!"Error validating dir, {path}: {e.message}"

variable {o : Options} {fs : FileSystem} {log : LogLevel} {said : List Message}

theorem passes_or_fails (o : Options) (fs : FileSystem) :
    (∃ log said count, o.Passes fs log said count) ∨ ∃ log said text, o.Fails fs log said text := by
  cases hconfig : Config.loadOrDefault fs o.config with
  | error e => exact .inr ⟨_, _, _, .config hconfig⟩
  | ok c =>
    cases hselector : Selector.ofConfig c with
    | error e => exact .inr ⟨_, _, _, .pattern hconfig hselector⟩
    | ok s =>
      cases htarget : o.target with
      | file path =>
        cases hresult : (validateFile fs path).result with
        | error e => exact .inr ⟨_, _, _, .file hconfig hselector htarget hresult⟩
        | ok u => exact .inl ⟨_, _, _, .file hconfig hselector htarget hresult⟩
      | directory path recursive =>
        cases hresult : (s.validateDirectory fs path recursive).result with
        | error e => exact .inr ⟨_, _, _, .directory hconfig hselector htarget hresult⟩
        | ok paths => exact .inl ⟨_, _, _, .directory hconfig hselector htarget hresult⟩

/-! ## What is said before the verdict -/

theorem Passes.isProgress {count : Nat} (h : o.Passes fs log said count) :
    ∀ m ∈ said, m.IsProgress := by
  cases h with
  | file => exact fun _ => isProgress_validateFile
  | directory => exact fun _ => Selector.isProgress_validateDirectory

theorem Fails.isProgress {text : String} (h : o.Fails fs log said text) :
    ∀ m ∈ said, m.IsProgress := by
  cases h with
  | config => exact fun _ hm => nomatch hm
  | pattern => exact fun _ hm => nomatch hm
  | file => exact fun _ => isProgress_validateFile
  | directory => exact fun _ => Selector.isProgress_validateDirectory

/-- As many profiles are told to have passed as the verdict counts. -/
theorem Passes.passedAmong_eq {count : Nat} (h : o.Passes fs log said count) :
    passedAmong said = count := by
  cases h with
  | file _ _ _ hresult => exact passedAmong_validateFile hresult
  | directory _ _ _ hresult => exact Selector.passedAmong_validateDirectory hresult

/-! ## The verdict -/

/-- The verdict on a run that passes. -/
def passVerdict (count : Nat) : Message := ⟨.brief, .critical, s!"{count} profile(s) validated"⟩

/-- The verdict on a run that fails. -/
def failVerdict (text : String) : Message := ⟨.brief, .error, text⟩

/-- With a configuration a run says what the validation of its target says, and
    then the verdict on it. -/
theorem run_eq {c : Config} {s : Selector} {result : Except Failure Nat}
    (hconfig : Config.loadOrDefault fs o.config = .ok c) (hselector : Selector.ofConfig c = .ok s)
    (htarget : o.target.validate fs s = ⟨said, result⟩) (color : Bool) :
    o.run fs color = ⟨(o.target.verdict result).2,
      .ofMessages (o.level c) color (said ++ [(o.target.verdict result).1])⟩ := by
  simp only [run, messages, hconfig, hselector, htarget]

theorem run_of_passes {count : Nat} (h : o.Passes fs log said count) (color : Bool) :
    o.run fs color = ⟨0, .ofMessages log color (said ++ [passVerdict count])⟩ := by
  cases h with
  | file hconfig hselector htarget hresult =>
    rw [run_eq hconfig hselector (by rw [htarget, Target.validate_file_of_ok hresult])]
    rfl
  | directory hconfig hselector htarget hresult =>
    rw [run_eq hconfig hselector (by rw [htarget, Target.validate_directory_of_ok hresult])]
    rfl

theorem run_of_fails {text : String} (h : o.Fails fs log said text) (color : Bool) :
    o.run fs color = ⟨1, .ofMessages log color (said ++ [failVerdict text])⟩ := by
  cases h with
  | config hconfig => rw [run, hconfig]; rfl
  | pattern hconfig hselector => simp only [run, messages, hconfig, hselector]; rfl
  | file hconfig hselector htarget hresult =>
    rw [run_eq hconfig hselector (by rw [htarget, Target.validate_file_of_error hresult]), htarget]
    rfl
  | directory hconfig hselector htarget hresult =>
    rw [run_eq hconfig hselector (by rw [htarget, Target.validate_directory_of_error hresult]),
      htarget]
    rfl

/-- What is written by messages of progress and a verdict on a run that passes. -/
theorem ofMessages_passVerdict (hsaid : ∀ m ∈ said, m.IsProgress) (log : LogLevel) (color : Bool)
    (count : Nat) : Output.ofMessages log color (said ++ [passVerdict count]) =
      ⟨(Output.ofMessages log color said).out ++
        (styled color "1" s!"{count} profile(s) validated" ++ "\n"), ""⟩ := by
  have herr := Output.err_ofMessages (fun m hm => (hsaid m hm).kind_ne.1) log color
  have hverdict : (passVerdict count).output log color =
      ⟨styled color "1" s!"{count} profile(s) validated" ++ "\n", ""⟩ := by
    cases log <;> rfl
  rw [Output.ofMessages_append, Output.ofMessages_singleton, hverdict]
  change Output.mk (_ ++ _) (_ ++ "") = _
  rw [herr, String.append_empty]

/-- What is written by messages of progress and a verdict on a run that fails. -/
theorem ofMessages_failVerdict (hsaid : ∀ m ∈ said, m.IsProgress) (log : LogLevel) (color : Bool)
    (text : String) : Output.ofMessages log color (said ++ [failVerdict text]) =
      ⟨(Output.ofMessages log color said).out,
        styled color "1;31" "[ERROR]" ++ " " ++ styled color "31" text ++ "\n"⟩ := by
  have herr := Output.err_ofMessages (fun m hm => (hsaid m hm).kind_ne.1) log color
  have hverdict : (failVerdict text).output log color =
      ⟨"", styled color "1;31" "[ERROR]" ++ " " ++ styled color "31" text ++ "\n"⟩ := by
    cases log <;> rfl
  rw [Output.ofMessages_append, Output.ofMessages_singleton, hverdict]
  change Output.mk (_ ++ "") (_ ++ _) = _
  rw [herr, String.append_empty, String.empty_append]

/-- A configuration that cannot be used fails before anything else is looked at. -/
theorem fails_of_broken {e : Failure}
    (h : (Config.loadOrDefault fs o.config).bind Selector.ofConfig = .error e) :
    ∃ log, o.Fails fs log [] e.message := by
  cases hconfig : Config.loadOrDefault fs o.config with
  | error e' =>
    rw [hconfig] at h
    cases h
    exact ⟨_, .config hconfig⟩
  | ok c =>
    rw [hconfig] at h
    exact ⟨_, .pattern hconfig h⟩

theorem run_congr_of_broken {fs' : FileSystem} {e : Failure}
    (h : (Config.loadOrDefault fs o.config).bind Selector.ofConfig = .error e)
    (hsame : Config.loadOrDefault fs' o.config = Config.loadOrDefault fs o.config) (color : Bool) :
    o.run fs' color = o.run fs color := by
  cases hconfig : Config.loadOrDefault fs o.config with
  | error e' => rw [run, run, hsame, hconfig]
  | ok c =>
    rw [hconfig] at h hsame
    have hselector : Selector.ofConfig c = .error e := h
    simp only [run, hsame, hconfig, messages, hselector]

end Options

/-! ## Runs of the command -/

/-- **A run says once what came out.**  Its code is 0 if there is a configuration,
    its pattern is one and what is asked for is validated.  Then the last line on
    the standard output tells how many profiles have passed, and nothing is on the
    standard error.  Otherwise the code is 1, a single error is on the standard
    error, at whatever level, and on the standard output there is no more than the
    progress; there is nothing, and no profile is looked at, if it is the
    configuration that cannot be used. -/
theorem runCommand_verdict {arguments : List String} {o : Options}
    (h : Request.ofArguments arguments = .ok (.run o)) (fs : FileSystem) (color : Bool) :
    let report := runCommand fs arguments color
    let errorLine := fun text => styled color "1;31" "[ERROR]" ++ " " ++ styled color "31" text ++ "\n"
    (report.code = 0 ↔ ∃ log said count, o.Passes fs log said count) ∧
    (report.code ≠ 0 → report.code = 1 ∧ ∃ log said text, o.Fails fs log said text) ∧
    (∀ log said count, o.Passes fs log said count →
      (∀ m ∈ said, m.IsProgress) ∧ passedAmong said = count ∧
        report.output = ⟨(Output.ofMessages log color said).out ++
          (styled color "1" s!"{count} profile(s) validated" ++ "\n"), ""⟩) ∧
    (∀ log said text, o.Fails fs log said text →
      (∀ m ∈ said, m.IsProgress) ∧
        report.output = ⟨(Output.ofMessages log color said).out, errorLine text⟩) ∧
    ∀ e, (Config.loadOrDefault fs o.config).bind Selector.ofConfig = .error e →
      report.output = ⟨"", errorLine e.message⟩ ∧
        ∀ fs', Config.loadOrDefault fs' o.config = Config.loadOrDefault fs o.config →
          runCommand fs' arguments color = report := by
  intro report errorLine
  have hrun : ∀ fs, runCommand fs arguments color = o.run fs color := fun fs => by
    rw [runCommand, h]
  have hpass : ∀ log said count, o.Passes fs log said count →
      report = ⟨0, .ofMessages log color (said ++ [Options.passVerdict count])⟩ :=
    fun log said count hp => (hrun fs).trans (Options.run_of_passes hp color)
  have hfail : ∀ log said text, o.Fails fs log said text →
      report = ⟨1, .ofMessages log color (said ++ [Options.failVerdict text])⟩ :=
    fun log said text hf => (hrun fs).trans (Options.run_of_fails hf color)
  refine ⟨⟨fun hcode => ?_, ?_⟩, fun hcode => ?_, fun log said count hp => ?_,
    fun log said text hf => ?_, fun e hbroken => ⟨?_, fun fs' hsame => ?_⟩⟩
  · refine (o.passes_or_fails fs).resolve_right ?_
    rintro ⟨log, said, text, hf⟩
    rw [hfail _ _ _ hf] at hcode
    cases hcode
  · rintro ⟨log, said, count, hp⟩
    rw [hpass _ _ _ hp]
  · have hnot : ¬ ∃ log said count, o.Passes fs log said count := by
      rintro ⟨log, said, count, hp⟩
      exact hcode (by rw [hpass _ _ _ hp])
    obtain ⟨log, said, text, hf⟩ := (o.passes_or_fails fs).resolve_left hnot
    exact ⟨by rw [hfail _ _ _ hf], log, said, text, hf⟩
  · exact ⟨hp.isProgress, hp.passedAmong_eq,
      by rw [hpass _ _ _ hp, Options.ofMessages_passVerdict hp.isProgress]⟩
  · exact ⟨hf.isProgress, by rw [hfail _ _ _ hf, Options.ofMessages_failVerdict hf.isProgress]⟩
  · obtain ⟨log, hf⟩ := Options.fails_of_broken hbroken
    rw [hfail _ _ _ hf, Options.ofMessages_failVerdict hf.isProgress]
    rfl
  · rw [hrun fs', Options.run_congr_of_broken hbroken hsame, ← hrun fs]

/-- A quiet run that passes, and one that does not. -/
theorem runCommand_verdict_quiet :
    let options := fun path => Options.mk (.file path) none (some .brief)
    Request.ofArguments ["-qf", "a_utprofile.yml"] = .ok (.run (options "a_utprofile.yml")) ∧
    (runCommand Selector.project ["-qf", "a_utprofile.yml"] false).output =
      ⟨"1 profile(s) validated\n", ""⟩ ∧
    Request.ofArguments ["--file=b.yml", "-q"] = .ok (.run (options "b.yml")) ∧
    (runCommand Selector.project ["--file=b.yml", "-q"] false).output = ⟨"", "[ERROR] Error " ++
      "validating file, b.yml: failed to read profile \"b.yml\": " ++
      "No such file or directory (os error 2)\n"⟩ := by
  intro options
  have ha : Request.ofArguments ["-qf", "a_utprofile.yml"] =
      .ok (.run (options "a_utprofile.yml")) := by decide +kernel
  have hb : Request.ofArguments ["--file=b.yml", "-q"] = .ok (.run (options "b.yml")) := by
    decide +kernel
  obtain ⟨-, -, hpass, -⟩ := runCommand_verdict ha Selector.project false
  obtain ⟨-, -, -, hfail, -⟩ := runCommand_verdict hb Selector.project false
  obtain ⟨-, -, hout⟩ := hpass _ _ _
    (.file (c := .default) rfl Selector.ofConfig_default rfl (by decide +kernel))
  obtain ⟨-, herr⟩ := hfail _ _ _ (.file (c := .default) (e := .unreadableProfile "b.yml" .notFound)
    rfl Selector.ofConfig_default rfl (by decide +kernel))
  refine ⟨ha, ?_, hb, ?_⟩
  · rw [hout]
    decide +kernel
  · rw [herr]
    decide +kernel

end ProfileSync
