/-
  The places of functions in a source file, in the order of its text.

  * `FunctionAt`: a function stands at a place, which counts the items on the way
    to it from the outermost module on;
  * `Item.mem_placedFrom`, `Item.pairwise_placedFrom`: the functions of items with
    their places, in the order of these;
  * `Declared.exists_first`: of declarations that are inserted in order the first
    ones of their names remain;
  * `testFunctions?_first_occurrences`: so the tests and benchmarks of a file
    are those at the first places of their names, if no attribute holds others.
-/
import Mathlib.Data.List.Lex
import ProfileSync.Proofs.Items

namespace ProfileSync

/-! ## Places -/

/-- At a place among items stands a function: it is one of them, or it stands in
    a module. -/
inductive FunctionAt : List Item → List Nat → String → Nat → Prop
  | here {items k name line} : items[k]? = some (.function name line) →
      FunctionAt items [k] name line
  | inside {items k attributes inner place name line} :
      items[k]? = some (.module attributes inner) → FunctionAt inner place name line →
      FunctionAt items (k :: place) name line

/-- A function and its place. -/
abbrev Placed := List Nat × String × Nat

mutual

/-- The functions of an item with their places, if it is the one numbered `k`. -/
def Item.placed (k : Nat) : Item → List Placed
  | .function name line => [([k], name, line)]
  | .module _ items => (Item.placedFrom 0 items).map fun p => (k :: p.1, p.2)
  | .other => []

/-- The functions of items that are numbered from `k` on. -/
def Item.placedFrom (k : Nat) : List Item → List Placed
  | [] => []
  | i :: rest => i.placed k ++ Item.placedFrom (k + 1) rest

end

/-- The items before a function count for its place. -/
theorem functionAt_succ {i : Item} {rest : List Item} {k : Nat} {place : List Nat} {name : String}
    {line : Nat} :
    FunctionAt (i :: rest) ((k + 1) :: place) name line ↔
      FunctionAt rest (k :: place) name line := by
  constructor
  · intro h
    cases h with
    | here hk => exact .here hk
    | inside hk hin => exact .inside hk hin
  · intro h
    cases h with
    | here hk => exact .here hk
    | inside hk hin => exact .inside hk hin

section
variable {rest inner : List Item} {attributes : List Attribute} {place : List Nat} {n name : String}
  {l line : Nat}

theorem functionAt_function : FunctionAt (.function n l :: rest) (0 :: place) name line ↔
    place = [] ∧ name = n ∧ line = l := by
  constructor
  · intro h
    cases h with
    | here h => cases h; exact ⟨rfl, rfl, rfl⟩
    | inside h => cases h
  · rintro ⟨rfl, rfl, rfl⟩
    exact .here rfl

theorem functionAt_module : FunctionAt (.module attributes inner :: rest) (0 :: place) name line ↔
    FunctionAt inner place name line := by
  constructor
  · intro h
    cases h with
    | here h => cases h
    | inside h hin => cases h; exact hin
  · exact .inside rfl

theorem not_functionAt_other : ¬ FunctionAt (.other :: rest) (0 :: place) name line := by
  intro h
  cases h with
  | here h => cases h
  | inside h => cases h

end

theorem FunctionAt.exists_cons {items : List Item} {place : List Nat} {name : String} {line : Nat}
    (h : FunctionAt items place name line) : ∃ k tail, place = k :: tail := by
  cases h with
  | here => exact ⟨_, _, rfl⟩
  | inside => exact ⟨_, _, rfl⟩

namespace Item

/-- With their places left out, these are the functions of the items. -/
theorem map_placedFrom (k : Nat) (items : List Item) :
    (placedFrom k items).map Prod.snd = ownOf items := by
  induction items using Item.inductionOn generalizing k with
  | nil => rfl
  | function name line rest ih =>
    rw [placedFrom, ownOf, List.map_append, ih]
    rfl
  | module attributes inner rest ihinner ih =>
    rw [placedFrom, ownOf, List.map_append, ih, placed, own, List.map_map, ← ihinner 0]
    rfl
  | other rest ih =>
    rw [placedFrom, ownOf, List.map_append, ih]
    rfl

/-- A function stands at a place among items, if these are numbered from `k`
    on. -/
def StandsAt (k : Nat) (items : List Item) (p : Placed) : Prop :=
  ∃ j tail, p.1 = (k + j) :: tail ∧ FunctionAt items (j :: tail) p.2.1 p.2.2

theorem standsAt_cons {k : Nat} {i : Item} {rest : List Item} {p : Placed} :
    StandsAt k (i :: rest) p ↔
      (∃ tail, p.1 = k :: tail ∧ FunctionAt (i :: rest) (0 :: tail) p.2.1 p.2.2) ∨
        StandsAt (k + 1) rest p := by
  constructor
  · rintro ⟨j, tail, hplace, hat⟩
    cases j with
    | zero => exact .inl ⟨tail, hplace, hat⟩
    | succ j => exact .inr ⟨j, tail, by rw [hplace, Nat.add_assoc, Nat.add_comm 1], functionAt_succ.1 hat⟩
  · rintro (⟨tail, hplace, hat⟩ | ⟨j, tail, hplace, hat⟩)
    · exact ⟨0, tail, hplace, hat⟩
    · exact ⟨j + 1, tail, by rw [hplace, Nat.add_assoc, Nat.add_comm 1], functionAt_succ.2 hat⟩

/-- **Each function stands at its place,** and none is left out. -/
theorem mem_placedFrom {k : Nat} {items : List Item} {p : Placed} :
    p ∈ placedFrom k items ↔ StandsAt k items p := by
  induction items using Item.inductionOn generalizing k p with
  | nil =>
    constructor
    · intro h
      cases h
    · rintro ⟨j, place, -, hat⟩
      cases hat with
      | here hj => cases hj
      | inside hj => cases hj
  | function n l rest ih =>
    rw [placedFrom, placed, List.mem_append, ih, standsAt_cons, List.mem_singleton]
    refine or_congr_left ⟨?_, ?_⟩
    · rintro rfl
      exact ⟨[], rfl, .here rfl⟩
    · rintro ⟨tail, hplace, hat⟩
      obtain ⟨rfl, hname, hline⟩ := functionAt_function.1 hat
      exact Prod.ext hplace (Prod.ext hname hline)
  | module attributes inner rest ihinner ih =>
    rw [placedFrom, placed, List.mem_append, ih, standsAt_cons, List.mem_map]
    refine or_congr_left ⟨?_, ?_⟩
    · rintro ⟨q, hq, rfl⟩
      obtain ⟨j, tail, hplace, hat⟩ := ihinner.1 hq
      refine ⟨q.1, rfl, functionAt_module.2 ?_⟩
      rw [hplace, Nat.zero_add]
      exact hat
    · rintro ⟨place, hplace, hat⟩
      have hin := functionAt_module.1 hat
      obtain ⟨j, tail, rfl⟩ := hin.exists_cons
      refine ⟨(j :: tail, p.2), ihinner.2 ⟨j, tail, by rw [Nat.zero_add], hin⟩, ?_⟩
      exact Prod.ext hplace.symm rfl
  | other rest ih =>
    rw [placedFrom, placed, List.nil_append, ih, standsAt_cons]
    refine ⟨.inr, ?_⟩
    rintro (⟨tail, -, hat⟩ | h)
    · exact absurd hat not_functionAt_other
    · exact h

/-- **The functions come in the order of their places.** -/
theorem pairwise_placedFrom (k : Nat) (items : List Item) :
    (placedFrom k items).Pairwise fun p q => p.1 < q.1 := by
  induction items using Item.inductionOn generalizing k with
  | nil => exact List.Pairwise.nil
  | function n l rest ih =>
    rw [placedFrom, placed, List.singleton_append, List.pairwise_cons]
    refine ⟨fun q hq => ?_, ih (k + 1)⟩
    obtain ⟨j, tail, hplace, -⟩ := mem_placedFrom.1 hq
    rw [hplace]
    exact List.cons_lt_cons_iff.2 (.inl (by omega))
  | module attributes inner rest ihinner ih =>
    rw [placedFrom, placed, List.pairwise_append, List.pairwise_map]
    refine ⟨(ihinner 0).imp fun hlt => List.cons_lt_cons_iff.2 (.inr ⟨rfl, hlt⟩), ih (k + 1), ?_⟩
    intro p hp q hq
    obtain ⟨p, -, rfl⟩ := List.mem_map.1 hp
    obtain ⟨j, tail, hplace, -⟩ := mem_placedFrom.1 hq
    rw [hplace]
    exact List.cons_lt_cons_iff.2 (.inl (by omega))
  | other rest ih =>
    rw [placedFrom, placed, List.nil_append]
    exact ih (k + 1)

end Item

/-- The functions of a file with their places, in textual order. -/
def SourceFile.placed (file : SourceFile) : List Placed := Item.placedFrom 0 file.items

theorem SourceFile.mem_placed {file : SourceFile} {p : Placed} :
    p ∈ file.placed ↔ FunctionAt file.items p.1 p.2.1 p.2.2 := by
  rw [placed, Item.mem_placedFrom]
  constructor
  · rintro ⟨j, tail, hplace, hat⟩
    rwa [hplace, Nat.zero_add]
  · intro hat
    obtain ⟨j, tail, hplace⟩ := hat.exists_cons
    exact ⟨j, tail, by rw [hplace, Nat.zero_add], hplace ▸ hat⟩

/-! ## First places -/

/-- The declaration that a function makes. -/
def Placed.declaration (p : Placed) : String × Option Nat := (p.2.1, some p.2.2)

/-- **Of declarations in order the first ones of their names remain.** -/
theorem Declared.exists_first {ps : List Placed} (h : ps.Pairwise fun p q => p.1 < q.1) :
    ∃ firsts : List Placed, firsts.Sublist ps ∧
      (ofList (ps.map Placed.declaration)).entries = firsts.map Placed.declaration ∧
        ∀ p ∈ firsts, ∀ q ∈ ps, q.2.1 = p.2.1 → p.1 ≤ q.1 := by
  induction ps using List.reverseRecOn with
  | nil => exact ⟨[], List.Sublist.refl _, rfl, by simp⟩
  | append_singleton ps e ih =>
    obtain ⟨hps, -, hlast⟩ := List.pairwise_append.1 h
    obtain ⟨firsts, hsub, hentries, hfirst⟩ := ih hps
    have hnames : ∀ name, name ∈ (ofList (ps.map Placed.declaration)).names ↔
        ∃ q ∈ ps, q.2.1 = name := by
      intro name
      rw [names_ofList, mem_firstNames, List.map_map, List.mem_map]
      rfl
    rw [List.map_append, List.map_singleton, ofList_concat, Declared.insert]
    split
    · -- the name is there already, so the function is a later one
      refine ⟨firsts, hsub.trans (List.sublist_append_left _ _), hentries, fun p hp q hq hname => ?_⟩
      rcases List.mem_append.1 hq with hq | hq
      · exact hfirst p hp q hq hname
      · rw [List.mem_singleton.1 hq]
        exact le_of_lt (hlast p (hsub.subset hp) e (List.mem_singleton_self e))
    · rename_i hnew
      refine ⟨firsts ++ [e], hsub.append (List.Sublist.refl _), by simp [hentries],
        fun p hp q hq hname => ?_⟩
      have hother : ∀ q ∈ ps, q.2.1 ≠ e.2.1 := fun q hq heq => hnew ((hnames _).2 ⟨q, hq, heq⟩)
      rcases List.mem_append.1 hp with hp | hp <;> rcases List.mem_append.1 hq with hq | hq
      · exact hfirst p hp q hq hname
      · rw [List.mem_singleton.1 hq] at hname
        exact absurd hname.symm (hother p (hsub.subset hp))
      · rw [List.mem_singleton.1 hp] at hname
        exact absurd hname (hother q hq)
      · rw [List.mem_singleton.1 hp, List.mem_singleton.1 hq]

/-! ## The functions of a file -/

theorem SourceFile.map_placed (file : SourceFile) :
    file.placed.map Prod.snd = Item.ownOf file.items :=
  Item.map_placedFrom 0 file.items

theorem FunctionAt.mem_ownOf {file : SourceFile} {place : List Nat} {name : String} {line : Nat}
    (h : FunctionAt file.items place name line) : (name, line) ∈ Item.ownOf file.items := by
  rw [← SourceFile.map_placed]
  exact List.mem_map.2 ⟨(place, name, line), SourceFile.mem_placed.2 h, rfl⟩

/-- The tests and benchmarks of a file with their places. -/
def SourceFile.placedTests (file : SourceFile) : List Placed :=
  file.placed.filter fun p => isTestName p.2.1

theorem SourceFile.mem_placedTests {file : SourceFile} {p : Placed} :
    p ∈ file.placedTests ↔ FunctionAt file.items p.1 p.2.1 p.2.2 ∧ isTestName p.2.1 = true := by
  rw [placedTests, List.mem_filter, mem_placed]

/-- If all attributes are plain, these are declared, one after the other. -/
theorem SourceFile.declared_of_isPlain {file : SourceFile} (h : file.isPlain = true) :
    file.declared = .ofList (file.placedTests.map Placed.declaration) := by
  have htests : testsAmong file.functions = file.placedTests.map Prod.snd := by
    rw [functions_of_isPlain h, ← map_placed, testsAmong, placedTests, List.filter_map]
    rfl
  rw [declared_eq_ofList, htests, List.map_map]
  rfl

/-- **The tests and benchmarks of a file** are collected from the first places of
    their names, in textual order and with the lines that they have there, if no
    attribute holds a function.  All of them are declared by the tokens of the
    file or of a module. -/
theorem testFunctions?_first_occurrences {text : String} {file : SourceFile}
    (hfile : SourceFile.ofText? text = some file) (hplain : file.isPlain = true) :
    ∃ d ts, testFunctions? text = some d ∧ SourceFile.tokens? text = some ts ∧
      (∃ places : List (List Nat), places.Pairwise (· < ·) ∧
        List.Forall₂ (fun place e => isTestName e.1 = true ∧
          (∃ line, FunctionAt file.items place e.1 line ∧ e.2 = some line) ∧
          ∀ place' line', FunctionAt file.items place' e.1 line' → place ≤ place') places d.entries) ∧
      (∀ place name line, FunctionAt file.items place name line → isTestName name = true →
        name ∈ d.names) ∧
      ∀ place name line, FunctionAt file.items place name line → Declares ts name line := by
  have hcollected : testFunctions? text = some file.declared := by
    rw [testFunctions?, hfile]
    rfl
  obtain ⟨ts, file', hts, hfile', -⟩ := exists_of_testFunctions? hcollected
  have hsorted : file.placedTests.Pairwise fun p q => p.1 < q.1 :=
    (Item.pairwise_placedFrom 0 file.items).filter _
  obtain ⟨firsts, hsub, hentries, hfirst⟩ := Declared.exists_first hsorted
  refine ⟨file.declared, ts, hcollected, hts, ⟨firsts.map Prod.fst, ?_, ?_⟩, ?_, ?_⟩
  · rw [List.pairwise_map]
    exact hsorted.sublist hsub
  · rw [SourceFile.declared_of_isPlain hplain, hentries, List.forall₂_map_left_iff,
      List.forall₂_map_right_iff, List.forall₂_same]
    intro p hp
    obtain ⟨hat, htest⟩ := SourceFile.mem_placedTests.1 (hsub.subset hp)
    refine ⟨htest, ⟨p.2.2, hat, rfl⟩, fun place' line' hat' => ?_⟩
    exact hfirst p hp (place', p.2.1, line') (SourceFile.mem_placedTests.2 ⟨hat', htest⟩) rfl
  · intro place name line hat htest
    rw [SourceFile.declared_of_isPlain hplain, Declared.names_ofList, mem_firstNames, List.map_map]
    exact List.mem_map.2 ⟨(place, name, line), SourceFile.mem_placedTests.2 ⟨hat, htest⟩, rfl⟩
  · intro place name line hat
    exact SourceFile.declares_own hfile hts (name, line) hat.mem_ownOf

theorem testFunctions?_first_occurrences_repeated :
    ∃ file d ts, SourceFile.ofText? "mod a { fn TestA() {} }\nfn TestA() {}" = some file ∧
      file.isPlain = true ∧
      testFunctions? "mod a { fn TestA() {} }\nfn TestA() {}" = some d ∧
      d.entries = [("TestA", some 1)] ∧
      SourceFile.tokens? "mod a { fn TestA() {} }\nfn TestA() {}" = some ts ∧
      ∃ place, FunctionAt file.items place "TestA" 1 ∧ Declares ts "TestA" 1 := by
  have hentries : (testFunctions? "mod a { fn TestA() {} }\nfn TestA() {}").map (·.entries) =
      some [("TestA", some 1)] := by decide +kernel
  have hplain : (SourceFile.ofText? "mod a { fn TestA() {} }\nfn TestA() {}").map (·.isPlain) =
      some true := by decide +kernel
  obtain ⟨file, hfile, hplain⟩ := Option.map_eq_some_iff.1 hplain
  obtain ⟨d, ts, hd, hts, ⟨places, -, hplaces⟩, -, hdeclares⟩ :=
    testFunctions?_first_occurrences hfile hplain
  rw [hd] at hentries
  have he : d.entries = [("TestA", some 1)] := Option.some.inj hentries
  rw [he] at hplaces
  obtain ⟨place, _, ⟨-, ⟨line, hat, hline⟩, -⟩, -, -⟩ := List.forall₂_cons_right_iff.1 hplaces
  cases hline
  exact ⟨file, d, ts, hfile, hplain, hd, he, hts, place, hat, hdeclares place _ _ hat⟩

/-- **A function in the value of an attribute of a module** that stands in another
    file is collected as well: no function stands at a place of the file, the file
    has no attribute, and none of its modules is in braces. -/
theorem testFunctions?_in_module_attribute :
    ∃ d ts file, testFunctions? "#[a = { fn TestA() {} }] mod x;" = some d ∧
      SourceFile.tokens? "#[a = { fn TestA() {} }] mod x;" = some ts ∧
      SourceFile.ofText? "#[a = { fn TestA() {} }] mod x;" = some file ∧
      ("TestA", some 1) ∈ d.entries ∧ file.attributes = [] ∧
      (∀ content, .group .brace content ∉ ts) ∧ (∀ name line, ¬ Declares ts name line) ∧
      ∀ place name line, ¬ FunctionAt file.items place name line := by
  have hentries : (testFunctions? "#[a = { fn TestA() {} }] mod x;").map (·.entries) =
      some [("TestA", some 1)] := by decide +kernel
  have htokens : (SourceFile.tokens? "#[a = { fn TestA() {} }] mod x;").map
      (·.any Token.mayDeclare) = some false := by decide +kernel
  have hfile : (SourceFile.ofText? "#[a = { fn TestA() {} }] mod x;").map
      (fun file => (file.attributes.length, Item.ownOf file.items)) = some (0, []) := by
    decide +kernel
  obtain ⟨d, hd, he⟩ := Option.map_eq_some_iff.1 hentries
  obtain ⟨ts, hts, hbraces, hnone⟩ := SourceFile.exists_tokens_not_declares htokens
  obtain ⟨file, hfile, hheld⟩ := Option.map_eq_some_iff.1 hfile
  obtain ⟨hattributes, hown⟩ := Prod.mk.inj hheld
  refine ⟨d, ts, file, hd, hts, hfile, by rw [he]; simp, List.length_eq_zero_iff.1 hattributes,
    hbraces, hnone, fun place name line hat => ?_⟩
  have hmem := hat.mem_ownOf
  rw [hown] at hmem
  cases hmem

end ProfileSync
