/-
  Source files that mirror a profile.

  * `Mirrors`: items that hold a function for each case and then a module for
    each category, with other items among them;
  * `exists_mirrors`: cases that have kinds can be mirrored;
  * `Mirrors.standsFor_tests`: the tests met among the items are those that the
    cases stand for, in declaration order;
  * `validate_mirror`: a mirror of a profile is validated, unless two
    of its functions have the same name.
-/
import ProfileSync.Proofs.Comparison
import ProfileSync.Proofs.Tests

namespace ProfileSync

/-- Neither a module nor a test or benchmark. -/
def Item.Neutral : Item → Prop
  | .function name _ => isTestName name = false
  | .module _ _ => False
  | .other => True

/-- Attributes whose values hold no test and no benchmark. -/
def Attribute.Neutral (attributes : List Attribute) : Prop :=
  ∀ f ∈ Attribute.functionsOf attributes, isTestName f.1 = false

theorem Attribute.neutral_nil : Attribute.Neutral [] := fun _ hf => nomatch hf

/-- Items that mirror cases and categories: first a function for each case,
    then a module for each category, which mirrors the cases and the categories
    in it.  Neutral items may stand anywhere. -/
inductive Mirrors : List Case → List Category → List Item → Prop
  | nil : Mirrors [] [] []
  | neutral {cases categories item items} : item.Neutral → Mirrors cases categories items →
      Mirrors cases categories (item :: items)
  | function {c cases categories name line items} : c.StandsFor name →
      Mirrors cases categories items →
      Mirrors (c :: cases) categories (.function name line :: items)
  | module {name description own inside categories attributes inner items} :
      Attribute.Neutral attributes → Mirrors own inside inner → Mirrors [] categories items →
      Mirrors [] (.mk name description own inside :: categories) (.module attributes inner :: items)

/-- A file that mirrors a profile. -/
def SourceFile.Mirrors (file : SourceFile) (p : Profile) : Prop :=
  Attribute.Neutral file.attributes ∧ ProfileSync.Mirrors p.cases p.categories file.items

/-- Cases that have kinds can be mirrored. -/
theorem exists_mirrors : ∀ (cases : List Case) (categories : List Category),
    (∀ c ∈ cases ++ Category.allCasesOf categories, c.HasKind) →
      ∃ items, Mirrors cases categories items
  | [], [], _ => ⟨[], .nil⟩
  | c :: cases, categories, h => by
    obtain ⟨kind, hkind⟩ := h c (by simp)
    obtain ⟨items, hitems⟩ := exists_mirrors cases categories fun c' hc' => h c' (by simp_all)
    exact ⟨.function _ 1 :: items, .function ⟨kind, hkind, rfl⟩ hitems⟩
  | [], .mk _ _ own inside :: categories, h => by
    rw [List.nil_append, Category.allCasesOf, Category.allCases] at h
    obtain ⟨inner, hinner⟩ := exists_mirrors own inside fun c hc => h c (List.mem_append_left _ hc)
    obtain ⟨items, hitems⟩ := exists_mirrors [] categories fun c hc => h c (List.mem_append_right _ hc)
    exact ⟨.module [] inner :: items, .module Attribute.neutral_nil hinner hitems⟩
termination_by cases categories => (Category.countOf categories, cases.length)
decreasing_by
  all_goals simp [Category.countOf, Category.count, Prod.lex_def]
  all_goals omega

namespace Mirrors

/-- **The tests of a mirror** are the functions that the cases stand for, in
    declaration order. -/
theorem standsFor_tests {cases : List Case} {categories : List Category} {items : List Item}
    (h : Mirrors cases categories items) :
    List.Forall₂ Case.StandsFor (cases ++ Category.allCasesOf categories)
      ((testsAmong (Item.functionsOf items)).map Prod.fst) := by
  induction h with
  | nil => exact .nil
  | @neutral cases categories item items hitem _ ih =>
    have hnone : testsAmong item.functions = [] := by
      cases item with
      | function name line =>
        exact testsAmong_eq_nil fun f hf => by rw [List.mem_singleton.1 hf]; exact hitem
      | module attributes items => exact hitem.elim
      | other => rfl
    rw [Item.functionsOf, testsAmong_append, hnone, List.nil_append]
    exact ih
  | @function c cases categories name line items hname _ ih =>
    have htest : isTestName name = true := by
      obtain ⟨kind, -, rfl⟩ := hname
      exact isTestName_stem_append kind c.name
    rw [Item.functionsOf, Item.functions, List.singleton_append, testsAmong_cons_of_test htest]
    exact .cons hname ih
  | @module name description own inside categories attributes inner items hattributes _ _ ihinner ih =>
    rw [Item.functionsOf, Item.functions, testsAmong_append, testsAmong_append,
      testsAmong_eq_nil hattributes, List.nil_append, List.map_append, Category.allCasesOf,
      Category.allCases]
    exact List.rel_append ihinner ih

end Mirrors

theorem SourceFile.Mirrors.standsFor_tests {file : SourceFile} {p : Profile}
    (h : file.Mirrors p) :
    List.Forall₂ Case.StandsFor p.allCases ((testsAmong file.functions).map Prod.fst) := by
  rw [SourceFile.functions, testsAmong_append, testsAmong_eq_nil h.1, List.nil_append]
  exact h.2.standsFor_tests

/-- **Profiles and source files are gone through in the same order.**  A profile
    whose cases have kinds has a mirror, and the tests of a mirror are its
    expected functions in their order, those with a name that came before left
    out.  So a mirror is validated if all names differ, and has too few
    functions if not. -/
theorem validate_mirror (p : Profile) (hkinds : ∀ c ∈ p.allCases, c.HasKind) :
    (∃ file : SourceFile, file.Mirrors p) ∧
      ∀ file : SourceFile, file.Mirrors p →
        ∃ expected, p.expectedFunctions = .ok expected ∧
          file.declared.names = (expected.map (·.name)).eraseDups ∧
          ((expected.map (·.name)).Nodup → file.declared.names = expected.map (·.name) ∧
            validate p file.declared = .ok ()) ∧
          (¬ (expected.map (·.name)).Nodup →
            validate p file.declared =
              .error (.count (expected.map (·.name)).eraseDups.length expected.length)) := by
  constructor
  · obtain ⟨items, hitems⟩ := exists_mirrors p.cases p.categories hkinds
    exact ⟨⟨[], items⟩, Attribute.neutral_nil, hitems⟩
  · intro file hfile
    obtain ⟨expected, hexpected, hnames⟩ := Profile.exists_names_iff.2 hfile.standsFor_tests
    have hdeclared : file.declared.names = (expected.map (·.name)).eraseDups := by
      rw [SourceFile.names_declared, hnames]
    refine ⟨expected, hexpected, hdeclared, fun hnodup => ?_, fun hrepeated => ?_⟩
    · rw [eraseDups_eq_self_iff.2 hnodup] at hdeclared
      refine ⟨hdeclared, ?_⟩
      rw [validate_of_ok hexpected]
      exact checkCases_of_names_eq hdeclared
    · have hlt := length_eraseDups_lt hrepeated
      rw [List.length_map, ← hdeclared] at hlt
      rw [validate_of_ok hexpected, checkCases_of_length_ne (Nat.ne_of_lt hlt), hdeclared]

/-- A mirror with other items among the tests, of a profile whose only category
    has no cases itself. -/
theorem validate_mirror_nested :
    let p : Profile :=
      { source := "", test := "", description := "", cases := [⟨"A", "", ""⟩],
        categories := [.mk "" "" [] [.mk "" "" [⟨"B", "benchmark", ""⟩] []]] }
    let file : SourceFile :=
      ⟨[.plain], [.other, .function "TestA" 3, .function "helper" 4,
        .module [] [.module [.plain] [.other, .function "BenchmarkB" 9]], .other]⟩
    (∀ c ∈ p.allCases, c.HasKind) ∧ file.Mirrors p ∧ validate p file.declared = .ok () := by
  intro p file
  have hcases : p.allCases = [⟨"A", "", ""⟩, ⟨"B", "benchmark", ""⟩] := rfl
  have hkinds : ∀ c ∈ p.allCases, c.HasKind := by
    rw [hcases]
    decide
  have hplain : Attribute.Neutral [.plain] := fun f hf => nomatch hf
  have hB : Mirrors [⟨"B", "benchmark", ""⟩] [] [.other, .function "BenchmarkB" 9] :=
    .neutral trivial (.function (by decide) .nil)
  have hmirror : file.Mirrors p :=
    ⟨hplain, .neutral trivial (.function (by decide)
      (.neutral (by decide : isTestName "helper" = false)
        (.module Attribute.neutral_nil (.module hplain hB .nil) (.neutral trivial .nil))))⟩
  obtain ⟨expected, hexpected, -, hnodup, -⟩ := (validate_mirror p hkinds).2 file hmirror
  have hfunctions : p.expectedFunctions =
      .ok [⟨"TestA", .test, ""⟩, ⟨"BenchmarkB", .benchmark, ""⟩] := by
    rw [Profile.expectedFunctions_eq]
    decide
  rw [hfunctions] at hexpected
  cases hexpected
  exact ⟨hkinds, hmirror, (hnodup (by decide)).2⟩

end ProfileSync
