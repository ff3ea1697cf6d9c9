/-
  Failures: why a profile, a directory or a configuration is rejected.
-/
import ProfileSync.Check.Mismatch
import ProfileSync.Config
import ProfileSync.Files.Fault
import ProfileSync.Profile.Reading

namespace ProfileSync

/-- Why a configuration file is rejected. -/
inductive ConfigFileFault where
  | unreadable (fault : FileFault)
  /-- Its text is no configuration. -/
  | invalid (text : String) (fault : ConfigFault)
deriving Repr, Inhabited, BEq, DecidableEq

/-- The text of a fault in a configuration file. -/
def ConfigFileFault.message : ConfigFileFault → String
  | unreadable fault => fault.message
  | invalid text fault => fault.message text

/-- A failure. -/
inductive Failure where
  /-- A profile cannot be read. -/
  | unreadableProfile (path : String) (fault : FileFault)
  /-- The text of a profile is no profile. -/
  | invalidProfile (path : String) (error : DocumentError)
  /-- The source file of a profile is not there. -/
  | missingSource (source profile : String)
  /-- A test file cannot be read. -/
  | unreadableTest (path : String) (fault : FileFault)
  /-- The text of a test file is no source. -/
  | invalidTest (path : String)
  /-- A profile and its test file differ. -/
  | mismatch (profile : String) (mismatch : Mismatch)
  /-- A directory cannot be walked through, because of the entry at `place`. -/
  | walk (directory place : String) (fault : FileFault)
  | config (path : String) (fault : ConfigFileFault)
  /-- The pattern of the names of profiles is none. -/
  | pattern (pattern : String)
deriving Repr, Inhabited, BEq, DecidableEq

/-- The text of a failure.  What the readers of source files and of patterns say
    themselves is left out: `<syn>` stands for the one, `<regex>` for the other. -/
def Failure.message : Failure → String
  | unreadableProfile path fault => s!"failed to read profile {quoted path}: {fault.message}"
  | invalidProfile path error =>
    s!"failed to unmarshal ut profile {quoted path}: {error.message}"
  | missingSource source profile =>
    s!"the source file {quoted source} defined in {quoted profile} doesn't exist"
  | unreadableTest path fault => s!"failed to read test file {quoted path}: {fault.message}"
  | invalidTest path => s!"failed to parse test file {quoted path}: <syn>"
  | mismatch profile m => s!"{quoted profile}: {m.message}"
  | walk directory place fault =>
    s!"error walking through the path {quoted directory}: " ++
      s!"IO error for operation on {place}: {fault.message}"
  | config path fault => s!"invalid config {quoted path}: {fault.message}"
  | pattern p => s!"invalid profile pattern {quoted p}: <regex>"

end ProfileSync
