/-
  Profiles as YAML documents.

  `Profile.ofText` reads a profile.  A record is written as a mapping; unknown
  keys are passed over, a known one must not stand twice, and a field that is
  left out or null has its default.  An alias stands for the node that it
  refers to.
-/
import ProfileSync.Profile.Basic
import ProfileSync.Text.Blank
import ProfileSync.Yaml.Document
import ProfileSync.Yaml.Value

namespace ProfileSync

open Yaml (Node Mark)

/-! ## Errors -/

/-- A place in a document: the path to it from the root, and where in the text
    it begins. -/
structure Place where
  path : String
  mark : Mark
deriving Repr, Inhabited, BEq, DecidableEq

/-- The path to a field. -/
def fieldPath (path name : String) : String :=
  if path.isEmpty then name else path ++ "." ++ name

/-- The path to an item. -/
def itemPath (path : String) (index : Nat) : String := s!"{path}[{index}]"

/-- Why a text is no profile. -/
inductive DocumentError where
  /-- The text is no document, or its nodes lie too deep or are too many. -/
  | malformed
  /-- A node is not of the expected shape. -/
  | shape (place : Place) (fault : ShapeFault)
deriving Repr, Inhabited, BEq, DecidableEq

/-- The text of an error.  The very start of the text is not named as a place.
    What the reader of documents says about a malformed text is left out: `<yaml>`
    stands for it. -/
def DocumentError.message : DocumentError → String
  | malformed => "<yaml>"
  | shape place fault =>
    let path := if place.path.isEmpty then "" else place.path ++ ": "
    let position :=
      if place.mark.line = 0 ∧ place.mark.column = 0 then ""
      else s!" at line {place.mark.line + 1} column {place.mark.column + 1}"
    path ++ fault.message ++ position

/-! ## Reading nodes -/

/-- The anchored nodes of a document and its size. -/
structure Anchors where
  nodes : List (Nat × Node)
  size : Nat

/-- A reading of nodes; it counts the aliases that it follows. -/
abbrev Decoder := StateT Nat (Except DocumentError)

namespace Decoder

/-- How often aliases may be followed, for each unit of the document's size. -/
def aliasFactor : Nat := 100

/-- How deep mappings and sequences may be nested. -/
def deepest : Nat := 128

/-- The node that a node stands for; of several with the anchor the last one. -/
def resolve (anchors : Anchors) : Node → Decoder Node
  | .reference _ target => do
    let count := (← get) + 1
    set count
    if anchors.size * aliasFactor < count then throw .malformed
    else
      match anchors.nodes.reverse.lookup target with
      | some n => return n
      | none => throw .malformed
  | n => return n

/-- A node that should be something else. -/
def unexpected {α : Type} (path : String) (n : Node) (expected : String) : Decoder α :=
  match n with
  | .scalar mark _ tag plain text =>
    throw (.shape ⟨path, mark⟩ (Yaml.scalarFault tag plain text expected))
  | .sequence mark _ _ => throw (.shape ⟨path, mark⟩ (.invalidType .sequence expected))
  | .mapping mark _ _ => throw (.shape ⟨path, mark⟩ (.invalidType .map expected))
  | _ => throw .malformed

/-- A text: any scalar, as it is written. -/
def text (expected : String) (anchors : Anchors) (path : String) (n : Node) : Decoder String := do
  match ← resolve anchors n with
  | .scalar _ _ _ _ s => return s
  | n => unexpected path n expected

/-- The node that a field has as its value, `none` if that is null.  A null tag
    on anything else is a fault of the record at `place`. -/
def present (anchors : Anchors) (place : Place) (n : Node) : Decoder (Option Node) := do
  match ← resolve anchors n with
  | .cut => throw .malformed
  | .scalar mark a tag true s =>
    match tag with
    | none => return if s.isEmpty || Yaml.isNullText s then none else some (.scalar mark a tag true s)
    | some t =>
      if t = Yaml.standardTag "null" then
        if Yaml.isNullText s then return none
        else throw (.shape place (.invalidValue s "null"))
      else return some (.scalar mark a tag true s)
  | n => return some n

/-- A sequence.  `item` reads an item; without it the sequence lies too deep. -/
def items {α : Type} (item : Option (String → Node → Decoder α)) (path : String) :
    Node → Decoder (List α)
  | .sequence _ _ nodes =>
    match item with
    | some item => nodes.zipIdx.mapM fun (n, i) => item (itemPath path i) n
    | none => throw .malformed
  | .scalar mark a tag plain s =>
    if plain && s.isEmpty then return [] else unexpected path (.scalar mark a tag plain s) "a sequence"
  | n => unexpected path n "a sequence"

/-- A field of a record: its name, and how a value at a path is put into the
    record. -/
structure RecordField (σ : Type) where
  name : String
  put : String → Node → σ → Decoder σ

/-- The step of a path to the value of a key. -/
def keyStep : Node → String
  | .scalar _ _ _ _ s => s
  | _ => "?"

/-- The entries of a record at `place`, put into `record` one after the other;
    `met` are the names of the fields that have been met. -/
def entries {σ : Type} (anchors : Anchors) (fields : List (RecordField σ)) (place : Place) :
    List (Node × Node) → List String → σ → Decoder σ
  | [], _, record => return record
  | (key, value) :: rest, met, record => do
    let name ← text "field identifier" anchors place.path key
    match fields.find? (·.name == name) with
    | some field =>
      if met.contains name then throw (.shape place (.duplicateField name))
      match ← present anchors place value with
      | some n =>
        let record ← field.put (fieldPath place.path (keyStep key)) n record
        entries anchors fields place rest (name :: met) record
      | none => entries anchors fields place rest (name :: met) record
    | none =>
      if value.isWhole then entries anchors fields place rest met record else throw .malformed

/-- A record, with the fields that are not written as in `default`.  Without
    fields the record lies too deep. -/
def record {σ : Type} (anchors : Anchors) (expected : String) (default : σ)
    (fields : Option (List (RecordField σ))) (path : String) (n : Node) : Decoder σ := do
  match ← resolve anchors n with
  | .mapping mark _ es =>
    match fields with
    | some fields => entries anchors fields ⟨path, mark⟩ es [] default
    | none => throw .malformed
  | .scalar mark a tag plain s =>
    if plain && s.isEmpty then return default
    else unexpected path (.scalar mark a tag plain s) expected
  | n => unexpected path n expected

/-- A field with a text. -/
def textField {σ : Type} (anchors : Anchors) (name : String) (put : String → σ → σ) :
    RecordField σ :=
  ⟨name, fun path n record => return put (← text "a string" anchors path n) record⟩

/-- A field with a sequence. -/
def itemsField {σ α : Type} (name : String) (item : Option (String → Node → Decoder α))
    (put : List α → σ → σ) : RecordField σ :=
  ⟨name, fun path n record => return put (← items item path n) record⟩

end Decoder

/-! ## Profiles -/

open Decoder

/-- A case, where `depth` mappings and sequences may still be nested. -/
def Case.decode (anchors : Anchors) (depth : Nat) : String → Node → Decoder Case :=
  record anchors "struct Case" ⟨"", "", ""⟩ <|
    if depth = 0 then none
    else some
      [textField anchors "name" fun s c => { c with name := s },
       textField anchors "type" fun s c => { c with kind := s },
       textField anchors "description" fun s c => { c with description := s }]

/-- The fields of a category. -/
def Category.fields (anchors : Anchors) (case : Option (String → Node → Decoder Case))
    (category : Option (String → Node → Decoder Category)) : List (RecordField Category) :=
  [textField anchors "name" fun s (Category.mk _ d cs gs) => Category.mk s d cs gs,
   textField anchors "description" fun s (Category.mk n _ cs gs) => Category.mk n s cs gs,
   itemsField "cases" case fun cs (Category.mk n d _ gs) => Category.mk n d cs gs,
   itemsField "categories" category fun gs (Category.mk n d cs _) => Category.mk n d cs gs]

/-- A category, where `depth` mappings and sequences may still be nested. -/
def Category.decode (anchors : Anchors) : Nat → String → Node → Decoder Category
  | 0 => record anchors "struct Category" (.mk "" "" [] []) none
  | 1 => record anchors "struct Category" (.mk "" "" [] []) (some (fields anchors none none))
  | depth + 2 =>
    record anchors "struct Category" (.mk "" "" [] []) <|
      some (fields anchors (some (Case.decode anchors depth)) (some (Category.decode anchors depth)))

/-- A profile as the root of a document. -/
def Profile.decode (anchors : Anchors) : Node → Decoder Profile :=
  let depth := deepest - 2
  record anchors "struct Profile" .empty
    (some
      [textField anchors "source" fun s p => { p with source := s },
       textField anchors "test" fun s p => { p with test := s },
       textField anchors "description" fun s p => { p with description := s },
       itemsField "cases" (some (Case.decode anchors depth)) fun cs p => { p with cases := cs },
       itemsField "categories" (some (Category.decode anchors depth)) fun gs p =>
         { p with categories := gs }])
    ""

/-- The profile that a node writes. -/
def Profile.ofNode (n : Node) : Except DocumentError Profile :=
  (Profile.decode ⟨n.anchored, n.size⟩ n).run' 0

/-- Read a profile.  A text without a document is the empty profile; anything
    that follows the document is an error, but not before those in it. -/
def Profile.ofText (s : String) : Except DocumentError Profile :=
  if isBlankText s.toList then .ok .empty
  else
    let document := Yaml.Document.ofText s.toList
    match document.root with
    | none => .ok .empty
    | some n =>
      match Profile.ofNode n with
      | .error e => .error e
      | .ok p => if document.isAlone then .ok p else .error .malformed

end ProfileSync
