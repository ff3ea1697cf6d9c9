/-
  Profiles: the test cases that a test file is to declare.

  A profile names a source file and its test file and lists cases, directly
  and in categories that nest.  Each case stands for one function of the test
  file, whose name is the stem of the case's kind followed by the case's name.

  * `CaseKind.read` reads a kind as a profile writes it;
  * `ExpectedFunction.ofCase` is the function that a case stands for;
  * `Profile.allCases` lists the cases in declaration order: those of a node
    first, then those of its categories from left to right.
-/
import ProfileSync.Check.Mismatch
import ProfileSync.Text.Unicode.Lowercase

namespace ProfileSync

/-! ## The tree of cases -/

/-- A single test or benchmark case. -/
structure Case where
  name : String
  /-- The kind as written; it is read when the profile is compared. -/
  kind : String
  description : String
deriving Repr, Inhabited, BEq, DecidableEq

/-- A named group of cases, possibly with groups inside. -/
inductive Category where
  | mk (name description : String) (cases : List Case) (categories : List Category)
deriving Repr, Inhabited, BEq

namespace Category

/-- The name of a category. -/
def name : Category → String
  | mk name _ _ _ => name

/-- The description of a category. -/
def description : Category → String
  | mk _ description _ _ => description

/-- The cases that stand directly in a category. -/
def cases : Category → List Case
  | mk _ _ cases _ => cases

/-- The categories that stand directly in a category. -/
def categories : Category → List Category
  | mk _ _ _ categories => categories

end Category

/-- The profile of one source file. -/
structure Profile where
  /-- The source file under test, relative to the profile unless absolute. -/
  source : String
  /-- The test file, relative to the profile unless absolute. -/
  test : String
  description : String
  cases : List Case
  categories : List Category
deriving Repr, BEq

/-- The empty profile. -/
def Profile.empty : Profile := ⟨"", "", "", [], []⟩

instance : Inhabited Profile := ⟨.empty⟩

/-! ## Declaration order -/

mutual

/-- The cases of a category and of those inside it, in declaration order. -/
def Category.allCases : Category → List Case
  | .mk _ _ cases categories => cases ++ Category.allCasesOf categories

/-- The cases of several categories, one after the other. -/
def Category.allCasesOf : List Category → List Case
  | [] => []
  | c :: rest => c.allCases ++ Category.allCasesOf rest

end

/-- The cases of a profile, in declaration order. -/
def Profile.allCases (p : Profile) : List Case :=
  p.cases ++ Category.allCasesOf p.categories

/-! ## Kinds and expected functions -/

/-- The kind of a case. -/
inductive CaseKind where
  | test
  | benchmark
deriving Repr, Inhabited, BEq, DecidableEq

namespace CaseKind

/-- What the functions of a kind begin with. -/
def stem : CaseKind → String
  | test => "Test"
  | benchmark => "Benchmark"

/-- Read a kind: a text whose lower case is the word `test` or `benchmark`, and
    nothing at all for a test. -/
def read (text : String) : Except Mismatch CaseKind :=
  let word := Unicode.lowercase text.toList
  if word = [] ∨ word = "test".toList then .ok test
  else if word = "benchmark".toList then .ok benchmark
  else .error (.invalidKind text)

end CaseKind

/-- A function that the test file is to declare. -/
structure ExpectedFunction where
  /-- The name of the function, its stem included. -/
  name : String
  kind : CaseKind
  description : String
deriving Repr, Inhabited, BEq, DecidableEq

/-- The function that a case stands for. -/
def ExpectedFunction.ofCase (c : Case) : Except Mismatch ExpectedFunction :=
  match CaseKind.read c.kind with
  | .ok kind => .ok ⟨kind.stem ++ c.name, kind, c.description⟩
  | .error e => .error e

/-- Whether a function takes part in the comparison, by its name. -/
def isTestName (name : String) : Bool :=
  CaseKind.test.stem.toList.isPrefixOf name.toList ||
    CaseKind.benchmark.stem.toList.isPrefixOf name.toList

end ProfileSync
