/-
  What is asked of the command by its arguments.

  The arguments are read one after the other.  The value of an option stands
  behind its name, after an equals sign or as the next argument; flags may share
  a dash with each other and with a last option.  An option counts as given when
  the next argument is, so that an argument nobody knows is the first error.

  * `Request.ofArguments` is the request, or the error in the arguments;
  * `Reading.takeAll` adds arguments to those that have been read.
-/
import ProfileSync.Command.Usage
import ProfileSync.Log

namespace ProfileSync

/-! ## Requests -/

/-- What is validated. -/
inductive Target where
  /-- The profile in a file. -/
  | file (path : String)
  /-- The profiles of a directory, with those of the directories in it if
      `recursive`. -/
  | directory (path : String) (recursive : Bool)
deriving Repr, Inhabited, BEq, DecidableEq

/-- The options of a run. -/
structure Options where
  target : Target
  /-- The path of the configuration. -/
  config : Option String
  /-- The level of the log, if it is not left to the configuration. -/
  logLevel : Option LogLevel
deriving Repr, Inhabited, BEq, DecidableEq

/-- What the command shall do. -/
inductive Request where
  | help
  | version
  | run (options : Options)
deriving Repr, Inhabited, BEq, DecidableEq

/-! ## Reading arguments -/

/-- Why no more arguments are read. -/
inductive Stop where
  /-- The help or the version is asked for. -/
  | request (r : Request)
  | error (e : UsageError)
deriving Repr, Inhabited, BEq, DecidableEq

/-- The arguments that have been read. -/
structure Reading where
  /-- The arguments, with the values of the options, in order. -/
  given : List (Argument × String)
  /-- The last option, if its value stands or may stand in an argument of its
      own. -/
  pending : Option (Argument × Option String)
deriving Repr, Inhabited, BEq, DecidableEq

namespace Reading

/-- No arguments. -/
def empty : Reading := ⟨[], none⟩

/-- Whether an argument has been given. -/
def has (r : Reading) (a : Argument) : Bool := r.given.any (·.1 == a)

/-- The value of an option. -/
def value? (r : Reading) (a : Argument) : Option String := r.given.lookup a

/-- Add an argument with its value. -/
def record (r : Reading) (a : Argument) (value : Option String) : Except Stop Reading :=
  match a with
  | .help => .error (.request .help)
  | .version => .error (.request .version)
  | a =>
    if a.takesValue && value.isNone then .error (.error (.valueMissing a))
    else if r.has a then .error (.error (.repeated a))
    else if a.takesValue && value = some "" then .error (.error (.valueMissing a))
    else .ok { r with given := r.given ++ [(a, value.getD "")] }

/-- Add the pending option. -/
def settle (r : Reading) : Except Stop Reading :=
  match r.pending with
  | none => .ok r
  | some (a, value) => { r with pending := none }.record a value

/-- Take an argument, with the value that is attached to it. -/
def take (r : Reading) (a : Argument) (value : Option String) : Except Stop Reading := do
  let r ← r.settle
  if a.takesValue && value.isNone then .ok { r with pending := some (a, none) }
  else r.record a value

/-- Take what stands after two dashes: a name, and a value after an equals
    sign. -/
def takeLong (r : Reading) (text : List Char) : Except Stop Reading :=
  let name := String.ofList (text.takeWhile (· != '='))
  let value :=
    match text.dropWhile (· != '=') with
    | [] => none
    | _ :: cs => some (String.ofList cs)
  match Argument.ofName? name with
  | none => .error (.error (.unexpected ("--" ++ name)))
  | some a =>
    match value with
    | none => r.take a none
    | some v =>
      if a.takesValue then r.take a (some v) else .error (.error (.unneededValue a v))

/-- The value that stands behind the letter of an option, maybe after an equals
    sign. -/
def attachedValue? : List Char → Option String
  | [] => none
  | '=' :: cs => some (String.ofList cs)
  | cs => some (String.ofList cs)

/-- Take what stands after a single dash: letters up to that of an option. -/
def takeLetters (r : Reading) : List Char → Except Stop Reading
  | [] => .ok r
  | c :: cs =>
    match Argument.ofLetter? c with
    | none => .error (.error (.unexpected (String.ofList ['-', c])))
    | some a =>
      if a.takesValue then r.take a (attachedValue? cs)
      else match r.take a none with
        | .ok r => r.takeLetters cs
        | .error stop => .error stop

/-- Take a text that is neither a name nor letters: the value of the pending
    option, if that has none yet. -/
def takeText (r : Reading) (text : String) : Except Stop Reading :=
  match r.pending with
  | some (a, none) => .ok { r with pending := some (a, some text) }
  | _ => .error (.error (.unexpected text))

/-- Take the next argument, which is not two dashes on their own. -/
def takeArgument (r : Reading) (text : String) : Except Stop Reading :=
  match text.toList with
  | '-' :: '-' :: cs => r.takeLong cs
  | '-' :: c :: cs => r.takeLetters (c :: cs)
  | _ => r.takeText text

/-- Read arguments.  After two dashes on their own no argument is known. -/
def takeAll (r : Reading) : List String → Except Stop Reading
  | [] => r.settle
  | text :: rest =>
    if text = "--" then
      match rest with
      | [] => r.settle
      | next :: _ => .error (.error (.unexpected next))
    else
      match r.takeArgument text with
      | .ok r => r.takeAll rest
      | .error stop => .error stop

/-- The first conflict between arguments. -/
def conflict? (r : Reading) : Option UsageError :=
  let arguments := r.given.map Prod.fst
  arguments.findSome? fun a =>
    let others := arguments.filter a.conflictsWith
    if others.isEmpty then none else some (.conflict a others)

/-- The options that the arguments give. -/
def options (r : Reading) : Except UsageError Options :=
  match r.conflict? with
  | some e => .error e
  | none =>
    let target? :=
      match r.value? .file, r.value? .dir with
      | some path, _ => some (Target.file path)
      | none, some path => some (.directory path (r.has .recursive))
      | none, none => none
    match target? with
    | none => .error .targetMissing
    | some target =>
      let logLevel :=
        if r.has .verbose then some LogLevel.verbose
        else if r.has .quiet then some .brief
        else none
      .ok ⟨target, r.value? .config, logLevel⟩

end Reading

/-- What arguments ask for. -/
def Request.ofArguments (arguments : List String) : Except UsageError Request :=
  match Reading.empty.takeAll arguments with
  | .ok r => r.options.map .run
  | .error (.request request) => .ok request
  | .error (.error e) => .error e

end ProfileSync
