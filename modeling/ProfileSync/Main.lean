/-
  The command line.

  The command runs on a picture of the files that it may look at: a file system
  with the entries on the paths to the configuration, the profiles, and the
  files that these name.  Each path is followed name by name, as it would be in
  a run, and what is met on it is put into the picture.
-/
import ProfileSync.Command.Run
import ProfileSync.Files.Edit

namespace ProfileSync

/-! ## Entries -/

/-- The path from the root to a location. -/
def Location.path (l : Location) : String := "/" ++ "/".intercalate l

/-- Why an access is refused that fails with an error, if that is what it tells. -/
def Refusal.of? : IO.Error → Option Refusal
  | .permissionDenied .. => some .denied
  | .hardwareFault .. => some .failed
  | _ => none

/-- What an access to an entry gives.  If it is refused, that is put into the
    picture. -/
def accessing {α : Type} (fs : FileSystem) (l : Location) (access : Access) (act : IO α) :
    IO (FileSystem × Option α) := do
  try
    return (fs, some (← act))
  catch e =>
    match Refusal.of? e with
    | some why => return (fs.apply (.refuse l.path access why), none)
    | none => return (fs, none)

/-- The names of the entries of a directory. -/
def namesIn (path : String) : IO (List String) := do
  let directory ← IO.FS.realPath ⟨path⟩
  return (← directory.readDir).toList.map (·.fileName)

/-- The type of an entry. -/
def typeAt (path : String) : IO IO.FS.FileType := do
  let root ← IO.FS.realPath ⟨"/"⟩
  let file := root / path
  return (← file.symlinkMetadata).type

/-- The text of a file, if its bytes are one. -/
def textAt? (path : String) : IO (Option String) :=
  return String.fromUTF8? (← IO.FS.readBinFile ⟨path⟩)

/-- Put a link at a location into the picture, and answer its path.  This is one
    without links to what the link leads to.  A link that leads to nothing leads to
    a name that no entry has, one on the way of which an access is refused leads
    through a directory of which the same is refused, and another one to itself. -/
def lookAtLink (fs : FileSystem) (l : Location) : IO (FileSystem × String) := do
  let put (fs : FileSystem) (target : String) := (fs.apply (.putLink l.path target), target)
  try
    let root ← IO.FS.realPath ⟨"/"⟩
    let file := root / l.path
    let _ ← file.metadata
    return put fs (← IO.FS.realPath file).toString
  catch e =>
    match e, Refusal.of? e with
    | .noFileOrDirectory .., _ => return put fs "\x00"
    | _, some why =>
      let locked := "/" ++ why.message ++ "\x00"
      return put (fs.applyAll [.makeDirectory locked, .refuse locked .search why]) (locked ++ "/.")
    | _, none => return put fs l.path

/-! ## The picture -/

/-- Put a file into the picture, with its text if it can be read. -/
def lookAtFile (fs : FileSystem) (l : Location) : IO FileSystem := do
  let (fs', text) ← accessing (fs.apply (.putFile l.path none)) l .read (textAt? l.path)
  return match text with
    | some text => fs'.apply (.putFile l.path text)
    | none => fs'

/-- Put into the picture what names from a directory lead through. -/
partial def lookAlong (fs : FileSystem) (here : Location) : List String → IO FileSystem
  | [] => return fs
  | "" :: rest => lookAlong fs here rest
  | name :: rest => do
    let inner : Location := here ++ [name]
    let (fs, type) ← accessing fs here .search (typeAt inner.path)
    match type, name with
    | none, _ => return fs
    | some _, "." => lookAlong fs here rest
    | some _, ".." => lookAlong fs here.dropLast rest
    | some .dir, _ => lookAlong (fs.apply (.makeDirectory inner.path)) inner rest
    | some .file, _ => lookAtFile fs inner
    | some .symlink, _ =>
      let (fs, target) ← lookAtLink fs inner
      if target = inner.path then return fs else lookAlong fs [] (pathNames target ++ rest)
    | some .other, _ => return fs.apply (.putFile inner.path none)

/-- Put into the picture what a path leads through. -/
def lookAt (fs : FileSystem) (path : String) : IO FileSystem :=
  lookAlong fs (pathStart fs.workingDirectory path) (pathNames path)

/-- Put into the picture the profiles below a directory. -/
partial def lookBelow (s : Selector) (recursive : Bool) (fs : FileSystem) (here : Location) :
    IO FileSystem := do
  let (fs, names) ← accessing fs here .read (namesIn here.path)
  (names.getD []).foldlM
    (fun fs name => do
      let inner : Location := here ++ [name]
      let (fs, type) ← accessing fs here .search (typeAt inner.path)
      match type with
      | some .dir =>
        let fs := fs.apply (.makeDirectory inner.path)
        if recursive && !s.skipDirs.contains name then lookBelow s recursive fs inner else return fs
      | _ => if s.isProfile name then lookAlong fs here [name] else return fs)
    fs

/-- Put into the picture a profile and its files. -/
def lookAtProfile (fs : FileSystem) (path : String) : IO FileSystem := do
  let fs ← lookAt fs path
  match loadProfile fs path with
  | .error _ => return fs
  | .ok p =>
    let fs ← lookAt fs (joinPath (profileDirectory path) p.source)
    lookAt fs (joinPath (profileDirectory path) p.test)

/-- The picture for a run. -/
def pictureFor (o : Options) : IO FileSystem := do
  let here := (← IO.currentDir).toString
  let empty := FileSystem.empty ((pathNames here).filter (· != ""))
  let fs ← lookAt (empty.apply (.makeDirectory here)) (o.config.getD defaultConfigFile)
  match (Config.loadOrDefault fs o.config).bind Selector.ofConfig, o.target with
  | .error _, _ => return fs
  | .ok _, .file path => lookAtProfile fs path
  | .ok s, .directory path recursive =>
    let fs ← lookAt fs path
    match fs.locate true path with
    | .error _ => return fs
    | .ok inner =>
      let fs ← lookBelow s recursive fs inner
      (s.profilesBelow fs path recursive).foldlM
        (fun fs met =>
          match met with
          | .ok profile => lookAtProfile fs profile
          | .error _ => return fs)
        fs

/-! ## Running -/

/-- Run the command, in colour if the environment asks for it. -/
def runHere (arguments : List String) : IO UInt32 := do
  let color := match ← IO.getEnv "CLICOLOR_FORCE" with
    | some value => value != "0"
    | none => false
  let fs ← match Request.ofArguments arguments with
    | .ok (.run o) => pictureFor o
    | _ => pure default
  let report := runCommand fs arguments color
  IO.print report.output.out
  IO.eprint report.output.err
  return report.code.toUInt32

end ProfileSync

/-- The command. -/
def main (arguments : List String) : IO UInt32 := ProfileSync.runHere arguments
