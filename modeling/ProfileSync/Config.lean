/-
  Configurations.

  `Config.ofText` reads a configuration as a TOML document.  A field that is
  left out has its default, and there are no other fields.  The fields of a
  table are read in the order of their names, whatever their order in the text.
-/
import ProfileSync.Log
import ProfileSync.Toml.Document

namespace ProfileSync

/-- The configuration of a run. -/
structure Config where
  /-- The pattern of the names of profiles. -/
  profilePattern : String
  /-- The names of directories that are not entered. -/
  skipDirs : List String
  logLevel : LogLevel
deriving Repr, BEq, DecidableEq

/-- The pattern of the names of profiles if none is given. -/
def defaultProfilePattern : String := "_utprofile\\.ya?ml$"

/-- The configuration if none is given. -/
def Config.default : Config := ⟨defaultProfilePattern, [".git", "target"], .normal⟩

instance : Inhabited Config := ⟨.default⟩

/-! ## Errors -/

/-- Why a text is no configuration. -/
inductive ConfigFault where
  /-- The text is no document, or a choice is none. -/
  | malformed
  /-- A value is not of the expected shape. -/
  | shape (span : Toml.Span) (fault : ShapeFault)
deriving Repr, Inhabited, BEq, DecidableEq

/-- How many bytes characters have in UTF-8. -/
def byteLength (cs : List Char) : Nat := cs.foldl (fun n c => n + c.utf8Size) 0

/-- A fault in a text, with the line where it stands.  The line is marked under
    the first character of the place, with as many marks as the place has bytes,
    but not more than the line has. -/
def faultReport (text : List Char) (span : Toml.Span) (fault : ShapeFault) : String :=
  let before := text.take span.start
  let row := before.count '\n' + 1
  let column := (before.reverse.takeWhile (· != '\n')).length
  let line := (text.drop (span.start - column)).takeWhile (· != '\n')
  let place := (text.drop span.start).take (span.stop - span.start)
  let marks := max 1 (min (byteLength place) (byteLength line))
  let number := toString row
  let margin := String.ofList (List.replicate (number.length + 1) ' ') ++ "|"
  s!"TOML parse error at line {row}, column {column + 1}\n{margin}\n" ++
    s!"{number} | {String.ofList line}\n" ++
    margin ++ String.ofList (List.replicate (column + 1) ' ' ++ List.replicate marks '^') ++ "\n" ++
    fault.message ++ "\n"

/-- The text of a fault in a text.  What the reader of documents says about a
    malformed text is left out: `<toml>` stands for it. -/
def ConfigFault.message (text : String) : ConfigFault → String
  | malformed => "<toml>"
  | shape span fault => faultReport text.toList span fault

/-! ## Reading values -/

/-- What a value is; `none` for an integer of more than 128 bits. -/
def Toml.Value.found? : Toml.Value → Option Found
  | .text s => some (.text s)
  | .integer n =>
    if -wordLimit 63 ≤ n ∧ n < wordLimit 64 then some (.integer n)
    else if -wordLimit 127 ≤ n ∧ n < wordLimit 127 then some (.wideInteger n true)
    else if 0 ≤ n ∧ n < wordLimit 128 then some (.wideInteger n false)
    else none
  | .real x => some (.real x)
  | .boolean b => some (.boolean b)
  | .moment => some .map
  | .array _ _ => some .sequence
  | .table _ _ => some .map

namespace Config

/-- A value that should be something else. -/
def unexpected {α : Type} (span : Toml.Span) (v : Toml.Value) (expected : String) :
    Except ConfigFault α :=
  match v.found? with
  | some found => .error (.shape span (.invalidType found expected))
  | none => .error .malformed

/-- Read a text. -/
def readText (span : Toml.Span) : Toml.Value → Except ConfigFault String
  | .text s => .ok s
  | v => unexpected span v "a string"

/-- Read an array of texts. -/
def readTexts (span : Toml.Span) : Toml.Value → Except ConfigFault (List String)
  | .array _ items => items.mapM fun (span, v) => readText span v
  | v => unexpected span v "a sequence"

/-- Read the name of a level. -/
def readLevelName (span : Toml.Span) (name : String) : Except ConfigFault LogLevel :=
  match LogLevel.names.lookup name with
  | some level => .ok level
  | none => .error (.shape span (.unknownVariant name (LogLevel.names.map (·.1))))

/-- Read a level: its name, or a table with the name as its only key and
    nothing in it. -/
def readLevel (span : Toml.Span) : Toml.Value → Except ConfigFault LogLevel
  | .text s => readLevelName span s
  | .table _ [(key, _, v)] =>
    match readLevelName key.span key.name with
    | .ok level =>
      match v with
      | .array _ [] | .table _ [] => .ok level
      | _ => .error .malformed
    | .error e => .error e
  | _ => .error .malformed

/-- The names of the fields. -/
def fieldNames : List String := ["profile_pattern", "skip_dirs", "log_level"]

/-- Set a field. -/
def setField (c : Config) (key : Toml.Key) (span : Toml.Span) (v : Toml.Value) :
    Except ConfigFault Config :=
  match key.name with
  | "profile_pattern" => (readText span v).map fun s => { c with profilePattern := s }
  | "skip_dirs" => (readTexts span v).map fun ss => { c with skipDirs := ss }
  | "log_level" => (readLevel span v).map fun l => { c with logLevel := l }
  | name => .error (.shape key.span (.unknownField name fieldNames))

/-- Read a configuration. -/
def ofText (text : String) : Except ConfigFault Config :=
  match Toml.Document.ofText? text.toList with
  | none => .error .malformed
  | some table =>
    (table.entries.mergeSort fun a b => a.1.name ≤ b.1.name).foldlM
      (fun c (key, span, v) => c.setField key span v) .default

end Config

end ProfileSync
