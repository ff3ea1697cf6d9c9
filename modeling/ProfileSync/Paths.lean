/-
  Paths, as texts.

  The names in a path are separated by slashes.  At the end of a path slashes
  and names that are a single dot say nothing.
-/

namespace ProfileSync

/-- The path that `path` is from the directory `dir`.  A path from the root
    stays as it is; a separator comes between the two unless the directory ends
    with one or is empty. -/
def joinPath (dir path : String) : String :=
  if path.toList.head? = some '/' then path
  else if dir.isEmpty || dir.toList.getLast? = some '/' then dir ++ path
  else dir ++ "/" ++ path

/-- A path, its last character first, without what says nothing at its end.  The
    root is a single slash, and a dot that is all there is stays. -/
def trimmedEnd : List Char → List Char
  | '/' :: rest => if rest.isEmpty then ['/'] else trimmedEnd rest
  | '.' :: '/' :: rest => trimmedEnd ('/' :: rest)
  | cs => cs

/-- The last name of a path, if it has one and that is no dot or two. -/
def fileName? (path : String) : Option String :=
  let name := ((trimmedEnd path.toList.reverse).takeWhile (· != '/')).reverse
  if name = [] ∨ name = ['.'] ∨ name = ['.', '.'] then none else some (String.ofList name)

/-- The path without its last name, `none` if it has no name. -/
def parentPath? (path : String) : Option String :=
  let cs := trimmedEnd path.toList.reverse
  if cs = [] ∨ cs = ['/'] then none
  else some (String.ofList (trimmedEnd (cs.dropWhile (· != '/'))).reverse)

end ProfileSync
