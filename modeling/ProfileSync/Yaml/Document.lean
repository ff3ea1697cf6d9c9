/-
  The document of a YAML text.

  `Document.ofText` reads the tokens of the text by the rules of the language,
  each of which looks at one token ahead.  It always gives a document, cut off
  at the first error.
-/
import ProfileSync.Yaml.Node
import ProfileSync.Yaml.Token

namespace ProfileSync.Yaml

/-- A document, or what there is in its place. -/
structure Document where
  /-- The node of the document; `none` if the text has none at all. -/
  root : Option Node
  /-- Whether the text ends after the document, without an error. -/
  isAlone : Bool

/-- The tokens that are left to be read, the abbreviations of tags, and the
    number of the anchor of each name. -/
structure Feed where
  tokens : List Token
  handles : List (String × String)
  anchors : List (String × Nat)

/-- A reader of tokens. -/
abbrev Reader := StateM Feed

namespace Reader

/-! ## Tokens -/

/-- The next token. -/
def peek : Reader (Option Token) := do return (← get).tokens.head?

/-- Pass the next token. -/
def skip : Reader Unit := modify fun f => { f with tokens := f.tokens.drop 1 }

/-- The kind of the next token. -/
def peekKind : Reader (Option TokenKind) := do return (← peek).map (·.kind)

/-- There is an error: nothing more is read. -/
def fail : Reader Node := do
  modify fun f => { f with tokens := [] }
  return .cut

/-- The node that is left out before the next token. -/
def leaveOut : Reader Node := do
  match ← peek with
  | some t => return .absent t.mark
  | none => return .cut

/-! ## Anchors and tags -/

/-- The number of a new anchor: that of the names that there are.  A name that
    is anchored again refers to the later node. -/
def newAnchor : Option String → Reader (Option Nat)
  | none => return none
  | some name => do
    let anchors := (← get).anchors
    let n := anchors.length
    modify fun f => { f with anchors := (name, n) :: anchors.filter (·.1 != name) }
    return some n

/-- The anchor and the tag before a node, in either order. -/
structure Properties where
  mark : Option Mark
  anchor : Option String
  tag : Option (String × String)

/-- Read an anchor if there is one. -/
def anchor? : Reader (Option String) := do
  match ← peekKind with
  | some (.anchor name) => skip; return some name
  | _ => return none

/-- Read a tag if there is one. -/
def tag? : Reader (Option (String × String)) := do
  match ← peekKind with
  | some (.tag handle suffix) => skip; return some (handle, suffix)
  | _ => return none

/-- Read the anchor and the tag before a node. -/
def properties : Reader Properties := do
  let start ← peek
  let anchor ← anchor?
  let tag ← tag?
  let anchor ← if anchor.isNone then anchor? else pure anchor
  return ⟨if anchor.isSome || tag.isSome then start.map (·.mark) else none, anchor, tag⟩

/-- The whole of a tag; `none` if its handle abbreviates nothing. -/
def expand? (handles : List (String × String)) : String × String → Option String
  | (handle, suffix) => if handle.isEmpty then some suffix else (handles.lookup handle).map (· ++ suffix)

/-! ## Nodes -/

/-- Whether there is a next token, of one of the given kinds. -/
def isOneOf (kinds : List TokenKind) (k : Option TokenKind) : Bool := k.any kinds.contains

mutual

/-- Read a node.  A block begins in a block only, and a sequence of dashes that
    are not indented only as the key or the value of a mapping. -/
def node (inBlock unindented : Bool) : Nat → Reader Node
  | 0 => fail
  | steps + 1 => do
    match ← peek with
    | some ⟨.reference name, mark⟩ =>
      match (← get).anchors.lookup name with
      | some n => skip; return .reference mark n
      | none => fail
    | _ =>
      let p ← properties
      match ← peek with
      | none => fail
      | some ⟨kind, mark⟩ =>
        let mark := p.mark.getD mark
        match p.tag.map (expand? (← get).handles) with
        | some none => fail
        | tag? =>
          let tag := tag?.bind id
          match kind with
          | .scalar text plain =>
            skip
            return .scalar mark (← newAnchor p.anchor) tag plain text
          | .blockEntry =>
            if unindented then
              let a ← newAnchor p.anchor
              return .sequence mark a (← unindentedItems steps)
            else emptyNode mark p tag
          | .flowSequence =>
            skip
            let a ← newAnchor p.anchor
            return .sequence mark a (← flowItems true steps)
          | .flowMapping =>
            skip
            let a ← newAnchor p.anchor
            return .mapping mark a (← flowEntries true steps)
          | .blockSequence =>
            if inBlock then
              skip
              let a ← newAnchor p.anchor
              return .sequence mark a (← blockItems steps)
            else emptyNode mark p tag
          | .blockMapping =>
            if inBlock then
              skip
              let a ← newAnchor p.anchor
              return .mapping mark a (← blockEntries steps)
            else emptyNode mark p tag
          | _ => emptyNode mark p tag

/-- The node that is left out after its anchor or its tag. -/
def emptyNode (mark : Mark) (p : Properties) (tag : Option String) : Reader Node := do
  if p.mark.isSome then return .scalar mark (← newAnchor p.anchor) tag true "" else fail

/-- The items of a sequence whose dashes are indented. -/
def blockItems : Nat → Reader (List Node)
  | 0 => return [← fail]
  | steps + 1 => do
    match ← peekKind with
    | some .blockEntry =>
      skip
      let item ← if isOneOf [.blockEntry, .blockEnd] (← peekKind) then leaveOut
        else node true false steps
      return item :: (← blockItems steps)
    | some .blockEnd => skip; return []
    | _ => return [← fail]

/-- The items of a sequence whose dashes are not indented. -/
def unindentedItems : Nat → Reader (List Node)
  | 0 => return [← fail]
  | steps + 1 => do
    match ← peekKind with
    | some .blockEntry =>
      skip
      let item ← if isOneOf [.blockEntry, .key, .value, .blockEnd] (← peekKind) then leaveOut
        else node true false steps
      return item :: (← unindentedItems steps)
    | some _ => return []
    | none => return [← fail]

/-- The entries of a mapping in a block. -/
def blockEntries : Nat → Reader (List (Node × Node))
  | 0 => return [(← fail, .cut)]
  | steps + 1 => do
    match ← peekKind with
    | some .blockEnd => skip; return []
    | some .key =>
      skip
      let follows := isOneOf [.key, .value, .blockEnd]
      let key ← if follows (← peekKind) then leaveOut else node true true steps
      let value ← if isOneOf [.value] (← peekKind) then do
          skip
          if follows (← peekKind) then leaveOut else node true true steps
        else leaveOut
      return (key, value) :: (← blockEntries steps)
    | _ => return [(← fail, .cut)]

/-- The items of a sequence between brackets; `first` says that none has been
    read.  A key begins a mapping of a single entry, and the token after it is
    passed if that cannot be part of the key. -/
def flowItems (first : Bool) : Nat → Reader (List Node)
  | 0 => return [← fail]
  | steps + 1 => do
    if isOneOf [.flowSequenceEnd] (← peekKind) then
      skip
      return []
    if !first && !isOneOf [.flowEntry] (← peekKind) then
      return [← fail]
    if !first then skip
    match ← peek with
    | none => return [← fail]
    | some ⟨.flowSequenceEnd, _⟩ => skip; return []
    | some ⟨.key, mark⟩ =>
      skip
      let key ← if isOneOf [.value, .flowEntry, .flowSequenceEnd] (← peekKind) then do
          let key ← leaveOut
          skip
          pure key
        else node false false steps
      let value ← flowValue .flowSequenceEnd steps
      return .mapping mark none [(key, value)] :: (← flowItems false steps)
    | some _ =>
      let item ← node false false steps
      return item :: (← flowItems false steps)

/-- The value of an entry between brackets that `close` closes. -/
def flowValue (close : TokenKind) : Nat → Reader Node
  | 0 => fail
  | steps + 1 => do
    if isOneOf [.value] (← peekKind) then
      skip
      if isOneOf [.flowEntry, close] (← peekKind) then leaveOut else node false false steps
    else leaveOut

/-- The entries of a mapping between brackets; `first` says that none has been
    read. -/
def flowEntries (first : Bool) : Nat → Reader (List (Node × Node))
  | 0 => return [(← fail, .cut)]
  | steps + 1 => do
    if isOneOf [.flowMappingEnd] (← peekKind) then
      skip
      return []
    if !first && !isOneOf [.flowEntry] (← peekKind) then
      return [(← fail, .cut)]
    if !first then skip
    match ← peekKind with
    | none => return [(← fail, .cut)]
    | some .flowMappingEnd => skip; return []
    | some .key =>
      skip
      let key ← if isOneOf [.value, .flowEntry, .flowMappingEnd] (← peekKind) then leaveOut
        else node false false steps
      let value ← flowValue .flowMappingEnd steps
      return (key, value) :: (← flowEntries false steps)
    | some _ =>
      let key ← node false false steps
      let value ← leaveOut
      return (key, value) :: (← flowEntries false steps)

end

/-! ## Documents -/

/-- The tags that are abbreviated everywhere. -/
def standardHandles : List (String × String) :=
  [("!", "!"), ("!!", "tag:yaml.org,2002:")]

/-- Read the directives before a document: the version at most once, no other
    than 1.1 and 1.2, and the abbreviations of tags, each at most once. -/
def directives (versioned : Bool) (handles : List (String × String)) :
    List Token → Option (List Token × List (String × String))
  | ⟨.version major minor, _⟩ :: rest =>
    if versioned || major != 1 || (minor != 1 && minor != 2) then none
    else directives true handles rest
  | ⟨.tagHandle handle abbreviated, _⟩ :: rest =>
    if handles.any (·.1 == handle) then none
    else directives versioned (handles ++ [(handle, abbreviated)]) rest
  | tokens => some (tokens, handles ++ standardHandles)

/-- How many steps suffice to read a document of so many tokens. -/
def steps (tokens : List Token) : Nat := 4 * tokens.length + 8

/-- Read the node of the document that the tokens begin with, and the tokens
    after it. -/
def document (tokens : List Token) : Node × List Token :=
  let run (handles : List (String × String)) (tokens : List Token) : Node × List Token :=
    let (n, f) := (node true false (steps tokens)).run ⟨tokens, handles, []⟩
    (n, f.tokens)
  match tokens with
  | ⟨.version .., _⟩ :: _ | ⟨.tagHandle .., _⟩ :: _ | ⟨.documentStart, _⟩ :: _ =>
    match directives false [] tokens with
    | some (⟨.documentStart, _⟩ :: rest, handles) =>
      match rest with
      | ⟨.version .., mark⟩ :: _ | ⟨.tagHandle .., mark⟩ :: _ | ⟨.documentStart, mark⟩ :: _
      | ⟨.documentEnd, mark⟩ :: _ | ⟨.streamEnd, mark⟩ :: _ => (.absent mark, rest)
      | _ => run handles rest
    | _ => (.cut, [])
  | _ => run standardHandles tokens

end Reader

/-- The document of a text. -/
def Document.ofText (cs : List Char) : Document :=
  match tokensOf cs with
  | ⟨.streamEnd, _⟩ :: _ => ⟨none, true⟩
  | tokens =>
    let (n, rest) := Reader.document tokens
    let rest := rest.dropWhile (·.kind == .documentEnd)
    ⟨some n, (rest.head?.map (·.kind)) == some .streamEnd⟩

end ProfileSync.Yaml
