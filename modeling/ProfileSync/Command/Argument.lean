/-
  The arguments that the command knows.

  Each has a long name and a letter; an option takes a value, a flag does not.
  Two arguments conflict if they cannot be given together.
-/

namespace ProfileSync

/-- An argument of the command. -/
inductive Argument where
  | file
  | dir
  | recursive
  | config
  | verbose
  | quiet
  | help
  | version
deriving Repr, Inhabited, BEq, DecidableEq

namespace Argument

/-- All arguments, in the order in which they are listed. -/
def all : List Argument := [file, dir, recursive, config, verbose, quiet, help, version]

/-- The name of an argument, as it stands after two dashes. -/
def name : Argument → String
  | file => "file"
  | dir => "dir"
  | recursive => "recursive"
  | config => "config"
  | verbose => "verbose"
  | quiet => "quiet"
  | help => "help"
  | version => "version"

/-- The letter of an argument, as it stands after a single dash. -/
def letter : Argument → Char
  | file => 'f'
  | dir => 'd'
  | recursive => 'r'
  | config => 'c'
  | verbose => 'v'
  | quiet => 'q'
  | help => 'h'
  | version => 'V'

/-- The name of the value that an argument takes. -/
def valueName? : Argument → Option String
  | file => some "FILE"
  | dir => some "DIR"
  | config => some "CONFIG"
  | _ => none

/-- Whether an argument takes a value. -/
def takesValue (a : Argument) : Bool := a.valueName?.isSome

/-- What an argument does, for the help. -/
def purpose : Argument → String
  | file => "Profile to be validated"
  | dir => "Directory to be validated"
  | recursive => "Validate sub-directories as well (only with --dir)"
  | config => "Config file [default: ./utprofile.toml if present]"
  | verbose => "Print scanned functions and other details"
  | quiet => "Only print failures and the final verdict"
  | help => "Print help"
  | version => "Print version"

/-- The name of the value after a blank, if there is one. -/
def valueSuffix (a : Argument) : String :=
  match a.valueName? with
  | some value => s!" <{value}>"
  | none => ""

/-- An argument as messages show it. -/
def shown (a : Argument) : String := "--" ++ a.name ++ a.valueSuffix

/-- The argument of a name. -/
def ofName? (name : String) : Option Argument := all.find? (·.name == name)

/-- The argument of a letter. -/
def ofLetter? (c : Char) : Option Argument := all.find? (·.letter == c)

/-- Whether two arguments cannot be given together. -/
def conflictsWith : Argument → Argument → Bool
  | file, dir | dir, file => true
  | file, recursive | recursive, file => true
  | verbose, quiet | quiet, verbose => true
  | _, _ => false

end Argument

end ProfileSync
