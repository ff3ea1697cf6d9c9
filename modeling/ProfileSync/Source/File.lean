/-
  Reading a source file.

  `SourceFile.ofText?` reads the tree of a file from its text, `none` if the
  text is not one; `testFunctions?` gives the tests and benchmarks in it.
-/
import ProfileSync.Source.Grammar.Item

namespace ProfileSync

/-! ## The rules tied together -/

/-- How a rule reads. -/
def Rule.read : Rule → Grammar Piece
  | .expression allowStruct => Grammar.expression allowStruct
  | .statementExpression => Grammar.statementExpression
  | .operand allowStruct => Grammar.operand allowStruct
  | .operators left allowStruct least => Grammar.operators left allowStruct least
  | .statements => Grammar.statements
  | .type allowPlus => Grammar.type allowPlus
  | .bound allowCapture allowConst => Grammar.bound allowCapture allowConst
  | .pattern => Grammar.pattern
  | .alternatives => Grammar.alternatives
  | .fields => Grammar.namedFields
  | .imports allowRoot => Grammar.imports allowRoot
  | .item => Grammar.item

/-- Read by a rule where at most `depth` rules stand inside each other. -/
def Rule.run : Nat → Rule → Reader Piece
  | 0, _ => fun _ => none
  | depth + 1, r => r.read (Rule.run depth)

/-! ## Files -/

/-- The comments and blanks at the front of a text left out, `n` of them at
    most. -/
def dropBlanks : Nat → List Char → List Char
  | 0, cs => cs
  | n + 1, cs =>
    match blankLength cs with
    | some k => dropBlanks n (cs.drop k)
    | none => cs

/-- A text without its first line, if that names an interpreter; the end of
    the line stays. -/
def dropInterpreter (cs : List Char) : List Char :=
  if startsWith cs "#!" && (dropBlanks cs.length (cs.drop 2)).head? != some '[' then
    cs.dropWhile (· != '\n')
  else cs

/-- The tokens of a source file. -/
def SourceFile.tokens? (text : String) : Option (List Token) :=
  let cs := text.toList
  let cs := if cs.head? == some '\ufeff' then cs.drop 1 else cs
  Token.ofText? (dropInterpreter cs)

/-- How many rules may stand inside each other in a text: each reads a token or
    calls another one, few of which read none. -/
def depthFor (text : String) : Nat := 16 * text.toList.length + 64

/-- The tree of a source file. -/
def SourceFile.ofText? (text : String) : Option SourceFile := do
  let tokens ← SourceFile.tokens? text
  let r ← Grammar.contents (Rule.run (depthFor text)) ⟨tokens, []⟩
  return ⟨r.value.1, r.value.2⟩

/-- The tests and benchmarks of a source text, `none` if it is no file. -/
def testFunctions? (text : String) : Option Declared :=
  (SourceFile.ofText? text).map SourceFile.declared

end ProfileSync
