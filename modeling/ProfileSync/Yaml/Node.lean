/-
  The nodes of a YAML document.

  A document is known up to the first error in its text; what would follow is
  cut off.  Whoever reads the document meets the error only on coming to the
  cut (`Node.cut`), after whatever is wrong before it.
-/
import ProfileSync.Yaml.Cursor

namespace ProfileSync.Yaml

/-- A node of a document, with the place where it begins and the number of its
    anchor. -/
inductive Node where
  /-- A scalar, with its tag and whether it is written plainly. -/
  | scalar (mark : Mark) (anchor : Option Nat) (tag : Option String) (plain : Bool) (text : String)
  | sequence (mark : Mark) (anchor : Option Nat) (items : List Node)
  /-- A mapping with its keys and values in the order of the document. -/
  | mapping (mark : Mark) (anchor : Option Nat) (entries : List (Node × Node))
  /-- A reference to the node with an anchor. -/
  | reference (mark : Mark) (target : Nat)
  /-- The place where the text has an error. -/
  | cut
deriving Repr, Inhabited, BEq

namespace Node

/-- The place where a node begins. -/
def mark : Node → Mark
  | scalar m _ _ _ _ | sequence m _ _ | mapping m _ _ | reference m _ => m
  | cut => ⟨0, 0, 0⟩

/-- The node that is left out at a place. -/
def absent (mark : Mark) : Node := .scalar mark none none true ""

mutual

/-- Whether nothing is cut off inside a node. -/
def isWhole : Node → Bool
  | .scalar .. => true
  | .sequence _ _ items => allWhole items
  | .mapping _ _ entries => allEntriesWhole entries
  | .reference .. => true
  | .cut => false

/-- Whether nothing is cut off inside several nodes. -/
def allWhole : List Node → Bool
  | [] => true
  | n :: rest => n.isWhole && allWhole rest

/-- Whether nothing is cut off inside the entries of a mapping. -/
def allEntriesWhole : List (Node × Node) → Bool
  | [] => true
  | (k, v) :: rest => k.isWhole && v.isWhole && allEntriesWhole rest

end

mutual

/-- The size of a node: each scalar and alias counts, and both ends of each
    sequence and mapping do. -/
def size : Node → Nat
  | .scalar .. => 1
  | .sequence _ _ items => 1 + sizes items + if allWhole items then 1 else 0
  | .mapping _ _ entries => 1 + entrySizes entries + if allEntriesWhole entries then 1 else 0
  | .reference .. => 1
  | .cut => 0

/-- The size of several nodes. -/
def sizes : List Node → Nat
  | [] => 0
  | n :: rest => n.size + sizes rest

/-- The size of the entries of a mapping. -/
def entrySizes : List (Node × Node) → Nat
  | [] => 0
  | (k, v) :: rest => k.size + v.size + entrySizes rest

end

mutual

/-- The anchored nodes of a node, in the order of the document. -/
def anchored : Node → List (Nat × Node)
  | .scalar m a t p s => a.toList.map (·, .scalar m a t p s)
  | .sequence m a items => a.toList.map (·, .sequence m a items) ++ anchoredOf items
  | .mapping m a entries => a.toList.map (·, .mapping m a entries) ++ anchoredEntries entries
  | .reference .. => []
  | .cut => []

/-- The anchored nodes of several nodes. -/
def anchoredOf : List Node → List (Nat × Node)
  | [] => []
  | n :: rest => n.anchored ++ anchoredOf rest

/-- The anchored nodes of the entries of a mapping. -/
def anchoredEntries : List (Node × Node) → List (Nat × Node)
  | [] => []
  | (k, v) :: rest => k.anchored ++ v.anchored ++ anchoredEntries rest

end

end Node

end ProfileSync.Yaml
