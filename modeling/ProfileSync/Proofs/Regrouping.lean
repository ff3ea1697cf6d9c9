/-
  Profiles whose cases are grouped in other ways.

  * `Category.Regroups` and `Profile.Regroups`: one edit of the categories, at any
    depth, that keeps the cases and their order;
  * `Profile.Regroups.allCases_eq`: an edit keeps the cases in declaration order;
  * `Category.eqvGen_gathered`: edits gather the cases of all categories in one;
  * `Profile.eqvGen_iff`: so edits lead from a profile to just those that list the same
    cases, `Profile.flat` among them, which has no categories;
  * `regrouping_keeps_functions`: all of these give the same cases call by call, expect
    the same functions and come out in the same way.
-/
import Mathlib.Logic.Relation
import ProfileSync.Proofs.Comparison

namespace ProfileSync

/-- A map that takes steps to steps takes what steps and their inverses connect to what
    steps and their inverses connect. -/
theorem eqvGen_map {α β : Type} {r : α → α → Prop} {s : β → β → Prop} {f : α → β}
    (hstep : ∀ a b, r a b → s (f a) (f b)) {a b : α} (h : Relation.EqvGen r a b) :
    Relation.EqvGen s (f a) (f b) := by
  induction h with
  | rel a b hab => exact .rel _ _ (hstep a b hab)
  | refl a => exact .refl _
  | symm a b _ ih => exact .symm _ _ ih
  | trans a b c _ _ ih₁ ih₂ => exact .trans _ _ _ ih₁ ih₂

/-! ## Edits of categories -/

namespace Category

/-- A category without cases, in it or anywhere inside it. -/
inductive IsHollow : Category → Prop where
  | mk {name description categories} (h : ∀ c ∈ categories, IsHollow c) :
    IsHollow (.mk name description [] categories)

/-- One edit of a list of categories. -/
inductive Regroups : List Category → List Category → Prop where
  /-- A category without cases is left out. -/
  | delete {c rest} (h : c.IsHollow) : Regroups (c :: rest) rest
  /-- A category without cases is added. -/
  | insert {c rest} (h : c.IsHollow) : Regroups rest (c :: rest)
  /-- The categories in a category come to stand behind it. -/
  | splice {name description cases inside rest} :
    Regroups (.mk name description cases inside :: rest)
      (.mk name description cases [] :: (inside ++ rest))
  /-- Two categories share out the cases of one in order; those inside it go to the
      second. -/
  | split {name description front back inside rest name₁ description₁ name₂ description₂} :
    Regroups (.mk name description (front ++ back) inside :: rest)
      (.mk name₁ description₁ front [] :: .mk name₂ description₂ back inside :: rest)
  /-- A category has another name or description. -/
  | rename {name description cases inside rest name' description'} :
    Regroups (.mk name description cases inside :: rest)
      (.mk name' description' cases inside :: rest)
  /-- The categories in a category are edited. -/
  | within {name description cases inside inside' rest} (h : Regroups inside inside') :
    Regroups (.mk name description cases inside :: rest)
      (.mk name description cases inside' :: rest)
  /-- The categories after a category are edited. -/
  | later {c rest rest'} (h : Regroups rest rest') : Regroups (c :: rest) (c :: rest')

theorem allCasesOf_eq_nil {categories : List Category} (h : ∀ c ∈ categories, c.allCases = []) :
    allCasesOf categories = [] := by
  induction categories with
  | nil => rfl
  | cons c rest ih =>
    obtain ⟨hc, hrest⟩ := List.forall_mem_cons.1 h
    rw [allCasesOf, hc, ih hrest, List.nil_append]

theorem IsHollow.allCases_eq {c : Category} (h : c.IsHollow) : c.allCases = [] := by
  induction h with
  | mk _ ih => rw [allCases, allCasesOf_eq_nil ih, List.nil_append]

/-- **An edit keeps the cases** of the categories in declaration order. -/
theorem Regroups.allCasesOf_eq {cs cs' : List Category} (h : Regroups cs cs') :
    allCasesOf cs = allCasesOf cs' := by
  induction h with
  | delete h => rw [allCasesOf, h.allCases_eq, List.nil_append]
  | insert h => rw [allCasesOf, h.allCases_eq, List.nil_append]
  | splice => simp [allCasesOf, allCases, allCasesOf_append]
  | split => simp [allCasesOf, allCases]
  | rename => simp [allCasesOf, allCases]
  | within _ ih => rw [allCasesOf, allCasesOf, allCases, allCases, ih]
  | later _ ih => rw [allCasesOf, allCasesOf, ih]

/-- Edits gather the cases of all categories in one: the categories inside the first
    come out of it, the others are gathered, and the first is joined with what they
    come to. -/
theorem eqvGen_gathered : ∀ categories : List Category,
    Relation.EqvGen Regroups categories [.mk "" "" (allCasesOf categories) []]
  | [] => .rel _ _ (.insert (.mk nofun))
  | .mk name description cases inside :: rest => by
    have hsplice : Relation.EqvGen Regroups (.mk name description cases inside :: rest)
        (.mk name description cases [] :: (inside ++ rest)) := .rel _ _ .splice
    have hgather : Relation.EqvGen Regroups (.mk name description cases [] :: (inside ++ rest))
        [.mk name description cases [], .mk "" "" (allCasesOf (inside ++ rest)) []] :=
      eqvGen_map (fun _ _ => .later) (eqvGen_gathered (inside ++ rest))
    have hjoin : Relation.EqvGen Regroups
        [.mk name description cases [], .mk "" "" (allCasesOf (inside ++ rest)) []]
        [.mk "" "" (cases ++ allCasesOf (inside ++ rest)) []] := .symm _ _ (.rel _ _ .split)
    have hcases : allCasesOf (.mk name description cases inside :: rest) =
        cases ++ allCasesOf (inside ++ rest) := by
      simp [allCasesOf, allCases, allCasesOf_append]
    rw [hcases]
    exact .trans _ _ _ hsplice (.trans _ _ _ hgather hjoin)
termination_by categories => countOf categories
decreasing_by simp [countOf_append, countOf, count]

end Category

/-! ## Edits of profiles -/

namespace Profile

/-- One edit of a profile. -/
inductive Regroups : Profile → Profile → Prop where
  /-- Its categories are edited. -/
  | categories {p : Profile} {categories} (h : Category.Regroups p.categories categories) :
    Regroups p { p with categories := categories }
  /-- Its own cases go to a new category before the others. -/
  | enclose {p : Profile} {name description} :
    Regroups p
      { p with cases := [], categories := .mk name description p.cases [] :: p.categories }

/-- The profile that lists all cases in declaration order, without categories. -/
def flat (p : Profile) : Profile := { p with cases := p.allCases, categories := [] }

variable {p q : Profile}

theorem Regroups.flat_eq (h : Regroups p q) : p.flat = q.flat := by
  cases h with
  | categories h => simp [flat, allCases, h.allCasesOf_eq]
  | enclose => simp [flat, allCases, Category.allCasesOf, Category.allCases]

theorem flat_eq_of_eqvGen (h : Relation.EqvGen Regroups p q) : p.flat = q.flat := by
  induction h with
  | rel p q h => exact h.flat_eq
  | refl p => rfl
  | symm p q _ ih => exact ih.symm
  | trans p q r _ _ ih₁ ih₂ => exact ih₁.trans ih₂

/-- Edits take the cases out of all categories. -/
theorem eqvGen_flat (p : Profile) : Relation.EqvGen Regroups p p.flat := by
  let gathered : List Category → Profile := fun categories =>
    { p with cases := [], categories := categories }
  have henclose : Relation.EqvGen Regroups p (gathered (.mk "" "" p.cases [] :: p.categories)) :=
    .rel _ _ .enclose
  have hgather := eqvGen_map (s := Regroups) (f := gathered)
    (fun _ _ h => Regroups.categories (p := gathered _) h)
    (Category.eqvGen_gathered (.mk "" "" p.cases [] :: p.categories))
  have hflat : Relation.EqvGen Regroups p.flat (gathered [.mk "" "" p.allCases []]) :=
    .rel _ _ .enclose
  have hcases : Category.allCasesOf (.mk "" "" p.cases [] :: p.categories) = p.allCases := by
    simp [Category.allCasesOf, Category.allCases, allCases]
  rw [hcases] at hgather
  exact .trans _ _ _ henclose (.trans _ _ _ hgather (.symm _ _ hflat))

/-- **Edits connect profiles** that list the same cases, and no others. -/
theorem eqvGen_iff : Relation.EqvGen Regroups p q ↔ p.flat = q.flat := by
  refine ⟨flat_eq_of_eqvGen, fun h => ?_⟩
  exact .trans _ _ _ (eqvGen_flat p) (h ▸ .symm _ _ (eqvGen_flat q))

theorem allCases_eq_of_eqvGen (h : Relation.EqvGen Regroups p q) : p.allCases = q.allCases :=
  congrArg cases (flat_eq_of_eqvGen h)

/-! ## What depends on the cases alone -/

theorem given_congr (h : p.allCases = q.allCases) (n : Nat) :
    (CaseCursor.start p).given n = (CaseCursor.start q).given n := by
  rw [CaseCursor.given_eq, CaseCursor.given_eq, CaseCursor.remaining_start,
    CaseCursor.remaining_start, h]

theorem expectedFunctions_congr (h : p.allCases = q.allCases) :
    p.expectedFunctions = q.expectedFunctions := by
  rw [expectedFunctions_eq, expectedFunctions_eq, h]

theorem validate_congr (h : p.allCases = q.allCases) (d : Declared) :
    validate p d = validate q d := by
  rw [validate, validate, expectedFunctions_congr h]

end Profile

/-- **Regrouping keeps what a profile demands.**  Whatever edits lead from one profile to
    another, both give the same cases with each call, expect the same functions and
    compare in the same way with all declared functions.  Such edits lead from every
    profile to the one that lists its cases in declaration order without categories, and
    two profiles are connected by them just if they have this one in common. -/
theorem regrouping_keeps_functions (p q : Profile) :
    (Relation.EqvGen Profile.Regroups p q →
      (∀ n, (CaseCursor.start p).given n = (CaseCursor.start q).given n) ∧
        p.expectedFunctions = q.expectedFunctions ∧ ∀ d, validate p d = validate q d) ∧
      Relation.EqvGen Profile.Regroups p p.flat ∧
      (Relation.EqvGen Profile.Regroups p q ↔ p.flat = q.flat) := by
  refine ⟨fun h => ?_, p.eqvGen_flat, Profile.eqvGen_iff⟩
  have hcases : p.allCases = q.allCases := Profile.allCases_eq_of_eqvGen h
  exact ⟨Profile.given_congr hcases, Profile.expectedFunctions_congr hcases,
    Profile.validate_congr hcases⟩

/-- Four edits at three depths: a hollow category is left out, the one around it is
    split, the parts come out of their category, and the profile's own case goes to a
    category. -/
theorem regrouping_keeps_functions_nested :
    let p : Profile :=
      { source := "a.rs", test := "b.rs", description := "", cases := [⟨"A", "", ""⟩],
        categories := [.mk "outer" "" []
          [.mk "inner" "" [⟨"B", "benchmark", ""⟩, ⟨"C", "fuzz", ""⟩] [.mk "deep" "" [] []]]] }
    let q : Profile :=
      { source := "a.rs", test := "b.rs", description := "", cases := [],
        categories := [.mk "own" "" [⟨"A", "", ""⟩] [], .mk "outer" "" [] [],
          .mk "first" "" [⟨"B", "benchmark", ""⟩] [], .mk "second" "" [⟨"C", "fuzz", ""⟩] []] }
    Relation.EqvGen Profile.Regroups p q ∧
      (∀ n, (CaseCursor.start p).given n = (CaseCursor.start q).given n) ∧
      p.expectedFunctions = q.expectedFunctions ∧ ∀ d, validate p d = validate q d := by
  intro p q
  let grouped (categories : List Category) : Profile := { p with categories := categories }
  let parts : List Category :=
    [.mk "first" "" [⟨"B", "benchmark", ""⟩] [], .mk "second" "" [⟨"C", "fuzz", ""⟩] []]
  have hdelete : p.Regroups (grouped [.mk "outer" "" []
      [.mk "inner" "" [⟨"B", "benchmark", ""⟩, ⟨"C", "fuzz", ""⟩] []]]) :=
    .categories (.within (.within (.delete (.mk nofun))))
  have hsplit : Profile.Regroups
      (grouped [.mk "outer" "" []
        [.mk "inner" "" ([⟨"B", "benchmark", ""⟩] ++ [⟨"C", "fuzz", ""⟩]) []]])
      (grouped [.mk "outer" "" [] parts]) :=
    .categories (.within .split)
  have hsplice : (grouped [.mk "outer" "" [] parts]).Regroups
      (grouped (.mk "outer" "" [] [] :: (parts ++ []))) :=
    .categories .splice
  have hregrouped : Relation.EqvGen Profile.Regroups p q :=
    .trans _ _ _ (.rel _ _ hdelete) (.trans _ _ _ (.rel _ _ hsplit)
      (.trans _ _ _ (.rel _ _ hsplice) (.rel _ _ .enclose)))
  exact ⟨hregrouped, (regrouping_keeps_functions p q).1 hregrouped⟩

end ProfileSync
