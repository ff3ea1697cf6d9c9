/-
  Classes of characters, as a pattern writes them: from ranges and tables by
  the operations on sets.
-/
import ProfileSync.Text.Unicode.CaseFolding
import ProfileSync.Text.Unicode.Category
import ProfileSync.Text.Unicode.Property

namespace ProfileSync

/-- A class of characters. -/
inductive CharClass where
  | empty
  /-- The code points from the first to the last. -/
  | range (first last : Nat)
  | table (chars : CharSet)
  | union (a b : CharClass)
  | inter (a b : CharClass)
  | diff (a b : CharClass)
  | symmDiff (a b : CharClass)
  | compl (a : CharClass)
  /-- The characters that differ from one of the class in case at most; with
      `ascii` only the letters of ASCII have a case. -/
  | folded (ascii : Bool) (a : CharClass)
deriving Repr, Inhabited, BEq

namespace CharClass

/-- The code points that differ from `n` in case at most. -/
def sameCase (ascii : Bool) (n : Nat) : List Nat :=
  if ascii then
    if 0x41 ≤ n && n ≤ 0x5a then [n, n + 32] else if 0x61 ≤ n && n ≤ 0x7a then [n, n - 32] else [n]
  else n :: Unicode.sameFolding n

/-- Membership of a code point. -/
def containsCode : CharClass → Nat → Bool
  | empty, _ => false
  | range first last, n => first ≤ n && n ≤ last
  | table chars, n => chars.containsCode n
  | union a b, n => a.containsCode n || b.containsCode n
  | inter a b, n => a.containsCode n && b.containsCode n
  | diff a b, n => a.containsCode n && !b.containsCode n
  | symmDiff a b, n => a.containsCode n != b.containsCode n
  | compl a, n => !a.containsCode n
  | folded ascii a, n => (sameCase ascii n).any a.containsCode

/-- Membership of a character. -/
def contains (a : CharClass) (c : Char) : Bool := a.containsCode c.toNat

/-- The class of a single character. -/
def single (c : Char) : CharClass := .range c.toNat c.toNat

/-- The class of some characters. -/
def ofChars (cs : List Char) : CharClass := cs.foldr (fun c a => .union (single c) a) .empty

/-- How many ranges a class is written with, about. -/
def size : CharClass → Nat
  | empty => 0
  | range _ _ => 1
  | table chars => chars.ranges.size
  | union a b | inter a b | diff a b | symmDiff a b => a.size + b.size
  | compl a => a.size + 1
  | folded _ a => 2 * a.size

/-! ## Named classes -/

/-- Decimal digits. -/
def digit : CharClass := .table ((Unicode.chars? Unicode.categories "nd").getD ⟨#[]⟩)

/-- White space. -/
def space : CharClass := .table ((Unicode.chars? Unicode.properties "whitespace").getD ⟨#[]⟩)

/-- Letters and what stands for letters. -/
def alphabetic : CharClass := .table ((Unicode.chars? Unicode.properties "alphabetic").getD ⟨#[]⟩)

/-- Numbers of all kinds. -/
def numeric : CharClass := .table ((Unicode.chars? Unicode.categories "n").getD ⟨#[]⟩)

/-- The characters of words: letters, marks, digits, connecting punctuation and
    the characters that control joining. -/
def word : CharClass :=
  let mark := (Unicode.chars? Unicode.categories "m").getD ⟨#[]⟩
  let connector := (Unicode.chars? Unicode.categories "pc").getD ⟨#[]⟩
  .union alphabetic (.union (.table mark) (.union digit (.union (.table connector) (.range 0x200c 0x200d))))

/-- Decimal digits of ASCII. -/
def asciiDigit : CharClass := .range 0x30 0x39

/-- White space of ASCII. -/
def asciiSpace : CharClass := .union (.range 0x09 0x0d) (.range 0x20 0x20)

/-- Letters of ASCII. -/
def asciiAlpha : CharClass := .union (.range 0x41 0x5a) (.range 0x61 0x7a)

/-- The characters of words in ASCII. -/
def asciiWord : CharClass := .union asciiDigit (.union asciiAlpha (.range 0x5f 0x5f))

/-- The classes of ASCII that have names between colons. -/
def namedAscii : List (String × CharClass) :=
  [("alnum", .union asciiDigit asciiAlpha), ("alpha", asciiAlpha), ("ascii", .range 0x00 0x7f),
   ("blank", ofChars ['\t', ' ']), ("cntrl", .union (.range 0x00 0x1f) (.range 0x7f 0x7f)),
   ("digit", asciiDigit), ("graph", .range 0x21 0x7e), ("lower", .range 0x61 0x7a),
   ("print", .range 0x20 0x7e), ("punct", .diff (.range 0x21 0x7e) (.union asciiDigit asciiAlpha)),
   ("space", asciiSpace), ("upper", .range 0x41 0x5a), ("word", asciiWord),
   ("xdigit", .union asciiDigit (.union (.range 0x41 0x46) (.range 0x61 0x66)))]

end CharClass

end ProfileSync
