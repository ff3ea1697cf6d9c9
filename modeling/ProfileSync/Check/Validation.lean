/-
  Validation of the profiles in files.

  `validateFile` reads a profile, looks for its source file, reads the test
  functions of its test file and compares both; `validateDirectory` does so for
  each profile below a directory until one fails.
-/
import ProfileSync.Check.Compare
import ProfileSync.Check.Logged
import ProfileSync.Check.Selection
import ProfileSync.Source.File

namespace ProfileSync

/-! ## The files of a profile -/

/-- The profile in a file. -/
def loadProfile (fs : FileSystem) (path : String) : Except Failure Profile :=
  match fs.readText path with
  | .error fault => .error (.unreadableProfile path fault)
  | .ok text =>
    match Profile.ofText text with
    | .ok p => .ok p
    | .error e => .error (.invalidProfile path e)

/-- Where paths start that a profile gives. -/
def profileDirectory (path : String) : String := (parentPath? path).getD "."

/-- Fails if there is nothing where the source file of the profile at `path`
    should be. -/
def checkSource (fs : FileSystem) (path source : String) : Except Failure Unit :=
  match fs.find source with
  | .error .notFound => .error (.missingSource source path)
  | _ => .ok ()

/-- The test functions in a file. -/
def readTestFile (fs : FileSystem) (path : String) : Logged Declared :=
  match fs.readText path with
  | .error fault => .fail (.unreadableTest path fault)
  | .ok text =>
    match testFunctions? text with
    | none => .fail (.invalidTest path)
    | some d => do
      .say .verbose .simple s!"  {path} declares {d.render}"
      return d

/-! ## Profiles -/

/-- Check the profile at a path against its files. -/
def checkProfile (fs : FileSystem) (path : String) : Logged Unit := do
  let p ← .ofExcept (loadProfile fs path)
  let directory := profileDirectory path
  .ofExcept (checkSource fs path (joinPath directory p.source))
  let d ← readTestFile fs (joinPath directory p.test)
  .ofExcept ((validate p d).mapError (.mismatch path))

/-- Validate the profile at a path. -/
def validateFile (fs : FileSystem) (path : String) : Logged Unit := do
  .say .normal .info s!"Validating {path}"
  checkProfile fs path
  .say .normal .ok s!"Validating {path} passed"

/-- Validate what is met below `directory`. -/
def validateMet (fs : FileSystem) (directory : String) : Selector.Met → Logged String
  | .error (place, fault) => .fail (.walk directory place fault)
  | .ok path => do
    validateFile fs path
    return path

/-- Validate the profiles below a directory, and answer their paths. -/
def Selector.validateDirectory (s : Selector) (fs : FileSystem) (directory : String)
    (recursive : Bool) : Logged (List String) := do
  let paths ← Logged.each (validateMet fs directory) (s.profilesBelow fs directory recursive)
  .say .verbose .info s!"{paths.length} profile(s) validated in {directory}"
  return paths

/-! ## Configurations -/

/-- The configuration in a file. -/
def Config.load (fs : FileSystem) (path : String) : Except Failure Config :=
  match fs.readText path with
  | .error fault => .error (.config path (.unreadable fault))
  | .ok text =>
    match Config.ofText text with
    | .ok c => .ok c
    | .error fault => .error (.config path (.invalid text fault))

/-- The file where a configuration is looked for if none is named. -/
def defaultConfigFile : String := "utprofile.toml"

/-- The configuration in the file at a path.  Without a path it is that of the
    working directory, if there is a file for it. -/
def Config.loadOrDefault (fs : FileSystem) : Option String → Except Failure Config
  | some path => Config.load fs path
  | none => if fs.isFile defaultConfigFile then Config.load fs defaultConfigFile else .ok .default

end ProfileSync
