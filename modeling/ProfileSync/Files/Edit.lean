/-
  Changes of a file system.

  An entry is written at the location where its path leads.  The directories that
  are missing on the way are made, and a file that is written to a link becomes
  what the link leads to.  Nothing is refused to the one who makes changes.

  * `FileChange` is a change, and `FileSystem.applyAll` makes several, one after
    the other.
-/
import ProfileSync.Files.Basic

namespace ProfileSync

/-! ## Entries at locations -/

/-- Entries with one of them replaced or added. -/
def setEntry (entries : List (String × Entry)) (name : String) (e : Entry) :
    List (String × Entry) :=
  entries.filter (·.1 != name) ++ [(name, e)]

namespace Entry

/-- The entries of a directory. -/
def entries : Entry → List (String × Entry)
  | directory es => es
  | _ => []

/-- Put an entry at a location, with directories on the way to it. -/
def set : Entry → Location → Entry → Entry
  | _, [], new => new
  | e, name :: names, new =>
    .directory (setEntry e.entries name
      (((e.entries.lookup name).getD (.directory [])).set names new))

/-- Take the entry away that is at a location. -/
def erase : Entry → Location → Entry
  | _, [] => .directory []
  | e, [name] => .directory (e.entries.filter (·.1 != name))
  | e, name :: names =>
    match e.entries.lookup name with
    | some inner => .directory (setEntry e.entries name (inner.erase names))
    | none => e

end Entry

/-! ## Writing along paths -/

namespace FileSystem

/-- A file system of which nothing is refused. -/
def unrestricted (fs : FileSystem) : FileSystem := { fs with refusals := [] }

/-- The directory of a name in a directory, made if there is none. -/
def enter (state : FileSystem × Location) (name : String) : FileSystem × Location :=
  let (fs, here) := state
  match fs.unrestricted.locateFrom true maxLinks here [name] with
  | .ok inner => (fs, inner)
  | .error _ =>
    ({ fs with root := fs.root.set (here ++ [name]) (.directory []) }, here ++ [name])

/-- Make the directories on a path. -/
def makeDirectory (fs : FileSystem) (path : String) : FileSystem :=
  ((pathNames path).foldl enter (fs, pathStart fs.workingDirectory path)).1

/-- Write an entry that is no directory along a path from a directory.  A file
    goes through at most `links` links.  Where a path ends with dots or a slash
    there is nothing to write. -/
def putFrom (e : Entry) : Nat → FileSystem → Location → String → FileSystem
  | links, fs, start, path =>
    let names := pathNames path
    let (fs, here) := names.dropLast.foldl enter (fs, pathStart start path)
    match names.getLast? with
    | none => fs
    | some name =>
      let inner := here ++ [name]
      let plain : FileSystem := { fs with root := fs.root.set inner e }
      if name = "" ∨ name = "." ∨ name = ".." then fs
      else match e, fs.root.at? inner, links with
        | .file _, some (.link target), links + 1 => putFrom e links fs here target
        | _, _, _ => plain

/-- Write a file, whose text is left out if its bytes are none. -/
def putFile (fs : FileSystem) (path : String) (text : Option String) : FileSystem :=
  putFrom (.file text) maxLinks fs fs.workingDirectory path

/-- Write a link to a path. -/
def putLink (fs : FileSystem) (path target : String) : FileSystem :=
  putFrom (.link target) maxLinks fs fs.workingDirectory path

/-- Take the entry away that a path leads to, if there is one, with what is
    refused of it and of the entries in it. -/
def remove (fs : FileSystem) (path : String) : FileSystem :=
  match fs.unrestricted.locate false path with
  | .ok here =>
    { fs with
      root := fs.root.erase here
      refusals := fs.refusals.filter fun r => !here.isPrefixOf r.1.1 }
  | .error _ => fs

/-- Refuse an access to the entry that the names in a path lead to, if there is
    one. -/
def refuse (fs : FileSystem) (path : String) (access : Access) (why : Refusal) : FileSystem :=
  let start := pathStart fs.workingDirectory path
  match fs.unrestricted.locateFrom true maxLinks start (pathNames path) with
  | .ok here => { fs with refusals := ((here, access), why) :: fs.refusals }
  | .error _ => fs

end FileSystem

/-! ## Changes -/

/-- A change of a file system. -/
inductive FileChange where
  | makeDirectory (path : String)
  | putFile (path : String) (text : Option String)
  | putLink (path target : String)
  | remove (path : String)
  | refuse (path : String) (access : Access) (why : Refusal)
deriving Repr, Inhabited, DecidableEq

namespace FileSystem

/-- Make a change. -/
def apply (fs : FileSystem) : FileChange → FileSystem
  | .makeDirectory path => fs.makeDirectory path
  | .putFile path text => fs.putFile path text
  | .putLink path target => fs.putLink path target
  | .remove path => fs.remove path
  | .refuse path access why => fs.refuse path access why

/-- Make changes, one after the other. -/
def applyAll (fs : FileSystem) (changes : List FileChange) : FileSystem := changes.foldl apply fs

/-- A file system with nothing in it, in which paths start in a directory that is
    not there yet. -/
def empty (workingDirectory : Location) : FileSystem := ⟨.directory [], workingDirectory, []⟩

end FileSystem

end ProfileSync
