/-
  Runs of the command.

  A run answers an exit code and what it writes.  The code is 0 if what was
  asked for is done, 1 if a validation fails or cannot begin, and 2 if the
  arguments are wrong.
-/
import ProfileSync.Check.Validation
import ProfileSync.Command.Request

namespace ProfileSync

/-- What a run answers. -/
structure Report where
  code : Nat
  output : Output
deriving Repr, Inhabited, BEq, DecidableEq

/-! ## Validation -/

/-- Validate a target, and answer how many profiles there are. -/
def Target.validate (fs : FileSystem) (s : Selector) : Target → Logged Nat
  | .file path => do
    validateFile fs path
    return 1
  | .directory path recursive => do
    let paths ← s.validateDirectory fs path recursive
    return paths.length

/-- The words before the failure of a target. -/
def Target.failureStart : Target → String
  | file path => s!"Error validating file, {path}: "
  | directory path _ => s!"Error validating dir, {path}: "

/-- The verdict on a target: a message, and the code of the run. -/
def Target.verdict (t : Target) : Except Failure Nat → Message × Nat
  | .ok count => (⟨.brief, .critical, s!"{count} profile(s) validated"⟩, 0)
  | .error e => (⟨.brief, .error, t.failureStart ++ e.message⟩, 1)

namespace Options

/-- The messages of a run with a configuration, and its code. -/
def messages (o : Options) (fs : FileSystem) (c : Config) : List Message × Nat :=
  match Selector.ofConfig c with
  | .error e => ([⟨.brief, .error, e.message⟩], 1)
  | .ok s =>
    let run := o.target.validate fs s
    let (verdict, code) := o.target.verdict run.result
    (run.messages ++ [verdict], code)

/-- The level of the log. -/
def level (o : Options) (c : Config) : LogLevel := o.logLevel.getD c.logLevel

/-- Run with options. -/
def run (o : Options) (fs : FileSystem) (color : Bool) : Report :=
  match Config.loadOrDefault fs o.config with
  | .error e => ⟨1, .ofMessages .normal color [⟨.brief, .error, e.message⟩]⟩
  | .ok c =>
    let (messages, code) := o.messages fs c
    ⟨code, .ofMessages (o.level c) color messages⟩

end Options

/-! ## The command -/

/-- Run the command with its arguments. -/
def runCommand (fs : FileSystem) (arguments : List String) (color : Bool) : Report :=
  match Request.ofArguments arguments with
  | .error e => ⟨2, ⟨"", e.message color⟩⟩
  | .ok .help => ⟨0, ⟨helpText color, ""⟩⟩
  | .ok .version => ⟨0, ⟨versionText, ""⟩⟩
  | .ok (.run o) => o.run fs color

end ProfileSync
