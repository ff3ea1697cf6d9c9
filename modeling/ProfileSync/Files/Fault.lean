/-
  The ways in which a look-up in a file system fails.
-/

namespace ProfileSync

/-- Why an entry cannot be accessed though it is there. -/
inductive Refusal where
  /-- The access is not permitted. -/
  | denied
  /-- The device fails on which the entry is kept. -/
  | failed
deriving Repr, Inhabited, BEq, DecidableEq

/-- Why a path leads to nothing, or not to a text. -/
inductive FileFault where
  | notFound
  /-- Something on the way is no directory. -/
  | notDirectory
  /-- A text was wanted of a directory. -/
  | isDirectory
  /-- A name or the whole path is too long. -/
  | nameTooLong
  /-- Too many links lead from one to the next. -/
  | tooManyLinks
  /-- The path holds a null character. -/
  | nullInPath
  /-- Something on the way, or at its end, cannot be accessed. -/
  | refused (why : Refusal)
  /-- The bytes of a file are no text. -/
  | notText
deriving Repr, Inhabited, BEq, DecidableEq

/-- The text of a refusal. -/
def Refusal.message : Refusal → String
  | denied => "Permission denied (os error 13)"
  | failed => "Input/output error (os error 5)"

/-- The text of a fault. -/
def FileFault.message : FileFault → String
  | notFound => "No such file or directory (os error 2)"
  | notDirectory => "Not a directory (os error 20)"
  | isDirectory => "Is a directory (os error 21)"
  | nameTooLong => "File name too long (os error 36)"
  | tooManyLinks => "Too many levels of symbolic links (os error 40)"
  | nullInPath => "file name contained an unexpected NUL byte"
  | refused why => why.message
  | notText => "stream did not contain valid UTF-8"

end ProfileSync
