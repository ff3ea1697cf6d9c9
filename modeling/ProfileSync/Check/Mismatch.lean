/-
  Mismatches: how a profile and the functions of its test file can differ.
-/
import ProfileSync.Text.Quoted

namespace ProfileSync

/-- A difference between a profile and the functions of its test file. -/
inductive Mismatch where
  /-- A case has a kind that is none. -/
  | invalidKind (kind : String)
  /-- There are not as many functions as cases. -/
  | count (inFile inProfile : Nat)
  /-- The function of the case at `position` is declared nowhere. -/
  | missing (name : String) (position : Nat)
  /-- At `position` stands `actual`, declared at `line` if that is known. -/
  | misplaced (actual expected : String) (position : Nat) (line : Option Nat)
deriving Repr, Inhabited, BEq, DecidableEq

/-- The line of a declaration in a message. -/
def lineNote : Option Nat → String
  | none => ""
  | some line => s!" (line {line})"

/-- The text of a mismatch. -/
def Mismatch.message : Mismatch → String
  | invalidKind kind => s!"invalid test case type: {kind}"
  | count inFile inProfile =>
    s!"there are {inFile} cases in test file, but there are {inProfile} cases in ut profile"
  | missing name position =>
    s!"the case {quoted name} (position {position}) in ut profile doesn't exist in the test file"
  | misplaced actual expected position line =>
    s!"the case {quoted actual}{lineNote line} in test file doesn't match the case " ++
      s!"{quoted expected} in profile at position {position}"

end ProfileSync
