/-
  Sets of characters, given as the ranges of their code points.

  The tables of the Unicode standard are written as text: code points in
  hexadecimal, a range as `first-last`, the entries separated by blanks,
  in as many lines as wanted (`CharSet.read`).
-/
import ProfileSync.Text.Digits

namespace ProfileSync

/-- A set of code points, as closed ranges. -/
structure CharSet where
  /-- First and last code point of each range. -/
  ranges : Array (Nat × Nat)
deriving Repr, Inhabited, BEq

namespace CharSet

/-- Membership of a code point. -/
def containsCode (s : CharSet) (n : Nat) : Bool :=
  s.ranges.any fun r => r.1 ≤ n && n ≤ r.2

/-- Membership of a character. -/
def contains (s : CharSet) (c : Char) : Bool :=
  s.containsCode c.toNat

/-- One entry of a written table, `first` or `first-last`. -/
def readEntry (cs : List Char) : Nat × Nat :=
  match cs.span (· != '-') with
  | (lo, []) => (numberOfDigits 16 lo, numberOfDigits 16 lo)
  | (lo, _ :: hi) => (numberOfDigits 16 lo, numberOfDigits 16 hi)

/-- The set that the lines of a written table describe. -/
def read (lines : List String) : CharSet :=
  ⟨(lines.flatMap fun line => line.toList.splitOn ' ').toArray.map readEntry⟩

end CharSet

end ProfileSync
