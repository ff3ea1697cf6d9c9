/-
  File systems, as values, and where paths lead in them.

  A file system is a tree of entries.  The location of an entry is the list of
  the names from the root to it.  A path is looked up name by name: a dot stays,
  two dots go up, and a link puts the names of its own path before those that
  are left.  Beside the tree there is what is refused of its entries.

  * `Entry.at?` is the entry at a location;
  * `FileSystem.follow` goes through names up to the first link, and
    `FileSystem.locateFrom` through links as well;
  * `FileSystem.find` is the entry that a path leads to; `FileSystem.readText` and
    `FileSystem.openDirectory` are what can be read of it.
-/
import ProfileSync.Files.Fault

namespace ProfileSync

/-! ## Entries and locations -/

/-- What stands under a name. -/
inductive Entry where
  /-- A file with its text, which it has unless its bytes are none. -/
  | file (text : Option String)
  /-- A link to the entry that a path leads to. -/
  | link (path : String)
  | directory (entries : List (String × Entry))
deriving Inhabited

/-- The names from the root to an entry. -/
abbrev Location := List String

/-- The entry at a location below an entry. -/
def Entry.at? : Entry → Location → Option Entry
  | e, [] => some e
  | .directory entries, name :: names =>
    match entries.lookup name with
    | some e => e.at? names
    | none => none
  | _, _ :: _ => none

/-- How an entry is accessed. -/
inductive Access where
  /-- A name is looked up in a directory. -/
  | search
  /-- The text of a file is read, or the names in a directory. -/
  | read
deriving Repr, Inhabited, BEq, DecidableEq

/-- A file system, with the directory where paths start that do not start at
    the root. -/
structure FileSystem where
  root : Entry
  workingDirectory : Location
  /-- The accesses that are refused at locations. -/
  refusals : List ((Location × Access) × Refusal)
deriving Inhabited

/-- Why an access is refused at a location, if it is. -/
def FileSystem.refusal? (fs : FileSystem) (l : Location) (access : Access) : Option Refusal :=
  fs.refusals.lookup (l, access)

/-! ## The names in a path -/

/-- The parts of a text between its slashes. -/
def partsAtSlashes : List Char → List (List Char)
  | [] => [[]]
  | c :: cs =>
    if c = '/' then [] :: partsAtSlashes cs
    else match partsAtSlashes cs with
      | part :: parts => (c :: part) :: parts
      | [] => [[c]]

/-- The names in a path.  A slash at its end leaves an empty name, which asks for
    a directory. -/
def pathNames (path : String) : List String :=
  let parts := partsAtSlashes path.toList
  let names := (parts.filter (· != [])).map String.ofList
  if parts.getLast? = some [] then names ++ [""] else names

/-- The location where a path starts that is followed from a directory. -/
def pathStart (directory : Location) (path : String) : Location :=
  if path.toList.head? = some '/' then [] else directory

/-- The greatest length of a name, in bytes. -/
def maxNameLength : Nat := 255

/-- The greatest length of a path, in bytes. -/
def maxPathLength : Nat := 4095

/-- How many links a path may lead through. -/
def maxLinks : Nat := 40

/-! ## Look-up -/

/-- How far names lead. -/
inductive Reach where
  /-- To an entry that is no link. -/
  | entry (here : Location)
  /-- To a link to `path`, the entry `name` of a directory; the names `rest`
      are left. -/
  | link (directory : Location) (name path : String) (rest : List String)
deriving Repr, Inhabited

namespace FileSystem

/-- Go through names from the directory at `here`, up to the first link.  Each
    name is looked up in a directory, dots as well, but not an empty one. -/
def follow (fs : FileSystem) : Location → List String → Except FileFault Reach
  | here, [] => .ok (.entry here)
  | here, name :: rest =>
    if name = "" then fs.follow here rest
    else match fs.refusal? here .search with
      | some why => .error (.refused why)
      | none =>
        if name = "." then fs.follow here rest
        else if name = ".." then fs.follow here.dropLast rest
        else if maxNameLength < name.utf8ByteSize then .error .nameTooLong
        else match fs.root.at? (here ++ [name]) with
          | none => .error .notFound
          | some (.directory _) => fs.follow (here ++ [name]) rest
          | some (.file _) =>
            if rest.isEmpty then .ok (.entry (here ++ [name])) else .error .notDirectory
          | some (.link path) => .ok (.link here name path rest)

/-- Go through names from the directory at `here` and through at most `links`
    links on the way.  A link at the end counts as an entry of its own unless
    `through`. -/
def locateFrom (fs : FileSystem) (through : Bool) :
    Nat → Location → List String → Except FileFault Location
  | links, here, names =>
    match fs.follow here names with
    | .error fault => .error fault
    | .ok (.entry here) => .ok here
    | .ok (.link directory name path rest) =>
      if !through && rest.isEmpty then .ok (directory ++ [name])
      else match links with
        | 0 => .error .tooManyLinks
        | links + 1 =>
          fs.locateFrom through links (pathStart directory path) (pathNames path ++ rest)

/-- The location that a path leads to. -/
def locate (fs : FileSystem) (through : Bool) (path : String) : Except FileFault Location :=
  if path.isEmpty then .error .notFound
  else if path.toList.contains '\x00' then .error .nullInPath
  else if maxPathLength < path.utf8ByteSize then .error .nameTooLong
  else fs.locateFrom through maxLinks (pathStart fs.workingDirectory path) (pathNames path)

/-- The entry that a path leads to, through links. -/
def find (fs : FileSystem) (path : String) : Except FileFault Entry :=
  match fs.locate true path with
  | .error fault => .error fault
  | .ok here =>
    match fs.root.at? here with
    | some e => .ok e
    | none => .error .notFound

/-- The entry that a path leads to, if it can be read. -/
def openEntry (fs : FileSystem) (path : String) : Except FileFault Entry :=
  match fs.locate true path with
  | .error fault => .error fault
  | .ok here =>
    match fs.root.at? here, fs.refusal? here .read with
    | none, _ => .error .notFound
    | some _, some why => .error (.refused why)
    | some e, none => .ok e

/-- The text of the file that a path leads to. -/
def readText (fs : FileSystem) (path : String) : Except FileFault String :=
  match fs.openEntry path with
  | .error fault => .error fault
  | .ok (.file (some text)) => .ok text
  | .ok (.file none) => .error .notText
  | .ok (.directory _) => .error .isDirectory
  | .ok (.link _) => .error .notFound

/-- The entries of the directory that a path leads to. -/
def openDirectory (fs : FileSystem) (path : String) :
    Except FileFault (List (String × Entry)) :=
  match fs.openEntry path with
  | .error fault => .error fault
  | .ok (.directory entries) => .ok entries
  | .ok (.file _) | .ok (.link _) => .error .notDirectory

/-- Whether a path leads to a file. -/
def isFile (fs : FileSystem) (path : String) : Bool :=
  match fs.find path with
  | .ok (.file _) => true
  | _ => false

end FileSystem

end ProfileSync
