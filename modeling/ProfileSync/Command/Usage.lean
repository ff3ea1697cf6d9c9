/-
  What the command says of its own use: its help, its version, and the errors in
  the arguments that it is given.
-/
import ProfileSync.Command.Argument
import ProfileSync.Text.Terminal

namespace ProfileSync

/-! ## Help -/

/-- The name of the command. -/
def commandName : String := "utprofile-check"

/-- The version of the command. -/
def commandVersion : String := "0.1.0"

/-- What the command is for. -/
def commandPurpose : String :=
  "Validate unit test profiles against the test functions of their test files"

/-- The codes of the style of headings. -/
def headingStyle : List String := ["1", "4"]

/-- The codes of the style of what is typed as it stands. -/
def literalStyle : List String := ["1"]

/-- The codes of the style of what is wrong. -/
def wrongStyle : List String := ["33"]

/-- The codes of the style of the word before an error. -/
def errorStyle : List String := ["1", "31"]

/-- The width of the left column of the help, where the arguments stand. -/
def helpColumnWidth : Nat :=
  (Argument.all.map fun a => a.shown.length).foldl max 0 + "-f, ".length

/-- The line of an argument in the help. -/
def Argument.helpLine (color : Bool) (a : Argument) : String :=
  let used := "-f, ".length + a.shown.length
  let margin := String.ofList (List.replicate (helpColumnWidth - used + 2) ' ')
  "  " ++ emphasized color literalStyle (String.ofList ['-', a.letter]) ++ ", " ++
    emphasized color literalStyle ("--" ++ a.name) ++ a.valueSuffix ++ margin ++ a.purpose ++ "\n"

/-- The help of the command. -/
def helpText (color : Bool) : String :=
  let targets := s!"<{Argument.file.shown}|{Argument.dir.shown}>"
  commandPurpose ++ "\n\n" ++
    emphasized color headingStyle "Usage:" ++ " " ++
    emphasized color literalStyle commandName ++ " [OPTIONS] " ++ targets ++ "\n\n" ++
    emphasized color headingStyle "Options:" ++ "\n" ++
    String.join (Argument.all.map (·.helpLine color))

/-- The text that tells the version. -/
def versionText : String := s!"{commandName} {commandVersion}\n"

/-! ## Errors -/

/-- What is wrong with arguments. -/
inductive UsageError where
  /-- An option has no value, or an empty one. -/
  | valueMissing (a : Argument)
  /-- An argument is given twice. -/
  | repeated (a : Argument)
  /-- A text is no argument. -/
  | unexpected (text : String)
  /-- A flag is given a value. -/
  | unneededValue (a : Argument) (value : String)
  /-- An argument cannot be used with the others, of which there is at least
      one. -/
  | conflict (a : Argument) (others : List Argument)
  /-- Neither a file nor a directory is given. -/
  | targetMissing
deriving Repr, Inhabited, BEq, DecidableEq

namespace UsageError

/-- What is wrong, in words; more arguments than one stand on lines of their
    own. -/
def reason (color : Bool) : UsageError → String
  | valueMissing a => s!"a value is required for '{wrong a.shown}' but none was supplied"
  | repeated a => s!"the argument '{wrong a.shown}' cannot be used multiple times"
  | unexpected text => s!"unexpected argument '{wrong text}' found"
  | unneededValue a value =>
    s!"unexpected value '{wrong value}' for '{emphasized color literalStyle a.shown}' found; " ++
      "no more were expected"
  | conflict a [other] =>
    s!"the argument '{wrong a.shown}' cannot be used with '{wrong other.shown}'"
  | conflict a others =>
    s!"the argument '{wrong a.shown}' cannot be used with:" ++
      String.join (others.map fun other => "\n  " ++ wrong other.shown)
  | targetMissing =>
    "the following required arguments were not provided:\n  " ++
      emphasized color ["32"] s!"<{Argument.file.shown}|{Argument.dir.shown}>"
where
  /-- What is wrong, in its style. -/
  wrong (text : String) : String := emphasized color wrongStyle text

/-- The message for an error. -/
def message (color : Bool) (e : UsageError) : String :=
  let text := emphasized color errorStyle "error:" ++ " " ++ e.reason color ++ "\n"
  if color then text else plainText text

end UsageError

end ProfileSync
