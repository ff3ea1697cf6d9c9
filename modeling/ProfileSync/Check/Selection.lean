/-
  Which files are profiles.

  A `Selector` tells profiles by their names and knows the directories that are
  not entered.  `Selector.profilesBelow` finds the profiles below a directory:
  the entries of a directory in the order of their names, those of a directory
  among them in its place.  Links below the directory are not followed.  A
  directory is opened by its path; if that fails, this is all that is met there.
-/
import ProfileSync.Failure
import ProfileSync.Files.Basic
import ProfileSync.Paths
import ProfileSync.Pattern.Reading

namespace ProfileSync

/-- What tells profiles from other files. -/
structure Selector where
  /-- The pattern of the names of profiles. -/
  pattern : Pattern
  /-- The names of directories that are not entered. -/
  skipDirs : List String
deriving Inhabited

namespace Selector

/-- The selector of a configuration. -/
def ofConfig (c : Config) : Except Failure Selector :=
  match Pattern.ofText? c.profilePattern with
  | some pattern => .ok ⟨pattern, c.skipDirs⟩
  | none => .error (.pattern c.profilePattern)

/-- Whether the name at the end of a path is that of a profile. -/
def isProfile (s : Selector) (path : String) : Bool :=
  match fileName? path with
  | some name => s.pattern.matchesText name.toList
  | none => false

/-! ## Walking through directories -/

/-- What is met on the way through a directory: a profile, or a directory that
    cannot be read. -/
abbrev Met := Except (String × FileFault) String

/-- What is met among entries, one after the other in the order of their
    names. -/
def inNameOrder (found : List (String × List Met)) : List Met :=
  (found.mergeSort fun a b => a.1 ≤ b.1).flatMap Prod.snd

/-- What is met in the directory at `path`, with `found` among its entries: they
    are met if it can be read. -/
def ifReadable (fs : FileSystem) (path : String) (found : List (String × List Met)) : List Met :=
  match fs.openDirectory path with
  | .ok _ => inNameOrder found
  | .error fault => [.error (path, fault)]

section
variable (s : Selector) (fs : FileSystem) (recursive : Bool)

mutual

/-- What is met at an entry called `name`, if it is found at `path`; directories
    are entered if `recursive`. -/
def met (path name : String) : Entry → List Met
  | .directory entries =>
    if !recursive || s.skipDirs.contains name then []
    else ifReadable fs path (metAmong path entries)
  | _ => if s.isProfile path then [.ok path] else []

/-- What is met at each of the entries of the directory at `directory`. -/
def metAmong (directory : String) : List (String × Entry) → List (String × List Met)
  | [] => []
  | (name, e) :: rest =>
    (name, met (joinPath directory name) name e) :: metAmong directory rest

end

/-- What is met in the directory at `path` with the given entries. -/
def walk (path : String) (entries : List (String × Entry)) : List Met :=
  ifReadable fs path (s.metAmong fs recursive path entries)

end

/-- What is met below the entry that a path leads to.  Nothing is below a
    file. -/
def profilesBelow (s : Selector) (fs : FileSystem) (directory : String) (recursive : Bool) :
    List Met :=
  match fs.find directory with
  | .ok (.directory entries) => s.walk fs recursive directory entries
  | .ok _ => []
  | .error fault => [.error (directory, fault)]

end Selector

end ProfileSync
