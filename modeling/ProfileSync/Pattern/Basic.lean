/-
  Patterns of text, and what they match.

  A pattern matches a stretch between two places of a text.  `Pattern.run` finds
  the places to which a pattern leads from given ones, and
  `Pattern.matchesText` whether it leads from anywhere to anywhere: that is
  whether the text holds a stretch that matches.
-/
import ProfileSync.Pattern.CharClass

namespace ProfileSync

/-! ## Places -/

/-- A place in a text: what stands before it, the nearest character first, and
    what stands after it. -/
structure TextPlace where
  before : List Char
  after : List Char
deriving Repr, Inhabited, BEq, DecidableEq

namespace TextPlace

/-- How many characters stand before a place. -/
def index (p : TextPlace) : Nat := p.before.length

/-- How many characters the text has. -/
def textLength (p : TextPlace) : Nat := p.before.length + p.after.length

/-- The place after the next character, if that is in a class. -/
def step? (p : TextPlace) (a : CharClass) : Option TextPlace :=
  match p.after with
  | [] => none
  | c :: cs => if a.contains c then some ⟨c :: p.before, cs⟩ else none

/-- The places from one to the end of the text. -/
def onward (before : List Char) : List Char → List TextPlace
  | [] => [⟨before, []⟩]
  | c :: cs => ⟨before, c :: cs⟩ :: onward (c :: before) cs

/-- The places of a text. -/
def all (text : List Char) : List TextPlace := onward [] text

/-- Add a place to places in order, each with its index, unless it is there. -/
def insert (p : Nat × TextPlace) : List (Nat × TextPlace) → List (Nat × TextPlace)
  | [] => [p]
  | q :: qs =>
    if p.1 < q.1 then p :: q :: qs else if p.1 = q.1 then q :: qs else q :: insert p qs

/-- Places of one text in their order, each once. -/
def distinct (ps : List TextPlace) : List TextPlace :=
  ((ps.map fun p => (p.index, p)).foldr insert []).map (·.2)

end TextPlace

/-! ## Conditions on a place -/

/-- Which characters make words. -/
inductive WordKind where
  | ascii
  | unicode
deriving Repr, Inhabited, BEq, DecidableEq

/-- Whether a character makes words. -/
def WordKind.contains : WordKind → Char → Bool
  | ascii, c => CharClass.asciiWord.contains c
  | unicode, c => CharClass.word.contains c

/-- A condition on a place. -/
inductive Look where
  | textStart
  | textEnd
  | lineStart
  | lineEnd
  /-- The start of a line, where a carriage return ends a line as well. -/
  | lineStartCr
  /-- The end of a line, where a carriage return ends a line as well. -/
  | lineEndCr
  /-- A word begins or ends. -/
  | wordEdge (kind : WordKind)
  | noWordEdge (kind : WordKind)
  | wordStart (kind : WordKind)
  | wordEnd (kind : WordKind)
  /-- No character of a word stands before. -/
  | noWordBefore (kind : WordKind)
  /-- No character of a word stands after. -/
  | noWordAfter (kind : WordKind)
deriving Repr, Inhabited, BEq, DecidableEq

/-- Whether a condition holds at a place. -/
def Look.holds (p : TextPlace) : Look → Bool
  | textStart => p.before.isEmpty
  | textEnd => p.after.isEmpty
  | lineStart => p.before.isEmpty || p.before.head? == some '\n'
  | lineEnd => p.after.isEmpty || p.after.head? == some '\n'
  | lineStartCr =>
    p.before.isEmpty || p.before.head? == some '\n' ||
      (p.before.head? == some '\r' && p.after.head? != some '\n')
  | lineEndCr =>
    p.after.isEmpty || p.after.head? == some '\r' ||
      (p.after.head? == some '\n' && p.before.head? != some '\r')
  | wordEdge k => p.before.head?.any k.contains != p.after.head?.any k.contains
  | noWordEdge k => p.before.head?.any k.contains == p.after.head?.any k.contains
  | wordStart k => !p.before.head?.any k.contains && p.after.head?.any k.contains
  | wordEnd k => p.before.head?.any k.contains && !p.after.head?.any k.contains
  | noWordBefore k => !p.before.head?.any k.contains
  | noWordAfter k => !p.after.head?.any k.contains

/-! ## Patterns -/

/-- A pattern. -/
inductive Pattern where
  /-- Matches nothing between a place and itself. -/
  | empty
  /-- Matches a character of a class. -/
  | char (a : CharClass)
  /-- Matches nothing at a place where the condition holds. -/
  | look (l : Look)
  /-- Matches one after the other. -/
  | seq (a b : Pattern)
  /-- Matches one or the other. -/
  | alt (a b : Pattern)
  /-- Matches several times, at most `most` times if that is given. -/
  | rep (a : Pattern) (least : Nat) (most : Option Nat)
deriving Repr, Inhabited, BEq

namespace Pattern

/-- Go on from places `n` times, or until that leads to the same places. -/
def rounds (f : List TextPlace → List TextPlace) : Nat → List TextPlace → List TextPlace
  | 0, ps => ps
  | n + 1, ps =>
    let qs := TextPlace.distinct (f ps)
    if qs.map (·.index) == ps.map (·.index) then ps else rounds f n qs

/-- How many rounds of a repetition lead to all places that any number leads to:
    one for each character, and two in which the pattern matches nothing. -/
def roundsFor (ps : List TextPlace) : Nat :=
  match ps with
  | [] => 0
  | p :: _ => p.textLength + 2

/-- The places to which a pattern leads from given places of one text. -/
def run : Pattern → List TextPlace → List TextPlace
  | empty, ps => ps
  | char a, ps => ps.filterMap (·.step? a)
  | look l, ps => ps.filter (l.holds ·)
  | seq a b, ps => run b (run a ps)
  | alt a b, ps => TextPlace.distinct (run a ps ++ run b ps)
  | rep a least most, ps =>
    let enough := roundsFor ps
    let extra := match most with
      | some m => min (m - least) enough
      | none => enough
    rounds (fun qs => qs ++ run a qs) extra (rounds (run a) (min least enough) ps)

/-- Whether a text holds a stretch that a pattern matches. -/
def matchesText (p : Pattern) (text : List Char) : Bool := !(p.run (TextPlace.all text)).isEmpty

/-- An estimate of the size of a pattern with its repetitions written out, in
    steps of a machine that matches it.  It is not the size of the machine that
    a matcher compiles a pattern to: that depends on how the ranges of a class
    are encoded, so the estimate is too large for some classes and too small
    for others. -/
def size : Pattern → Nat
  | empty => 0
  | char a => if a.size ≤ 4 then 1 else 2 * a.size
  | look _ => 1
  | seq a b => a.size + b.size
  | alt a b => a.size + b.size + 1
  | rep a least most =>
    match most with
    | some m => least * a.size + (m - least) * (a.size + 1)
    | none => max least 1 * a.size + 1

end Pattern

end ProfileSync
