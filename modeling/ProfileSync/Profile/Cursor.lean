/-
  A cursor over the cases of a profile.

  The cursor holds the case list that it stands in, its place there, and a stack
  of the categories not yet entered.  An entered category puts its own categories
  on the stack, the first of them on top, so that they come before its later
  siblings; categories without cases are passed over.

  * `CaseCursor.next` gives the next case and the cursor after it;
  * `CaseCursor.remaining` is what a cursor still has to give;
  * `Flattening` gives the functions that the cases stand for and ends with
    the first case whose kind is none.
-/
import ProfileSync.Profile.Basic

namespace ProfileSync

/-- A place among the cases of a profile. -/
structure CaseCursor where
  /-- The case list that is being read. -/
  cases : List Case
  /-- The place of the next case in that list. -/
  index : Nat
  /-- The categories not yet entered, the next one on top. -/
  stack : List Category
deriving Repr, Inhabited

mutual

/-- The number of categories in a category, itself included. -/
def Category.count : Category → Nat
  | .mk _ _ _ categories => 1 + Category.countOf categories

/-- The number of categories in several categories. -/
def Category.countOf : List Category → Nat
  | [] => 0
  | c :: rest => c.count + Category.countOf rest

end

theorem Category.countOf_append (l₁ l₂ : List Category) :
    Category.countOf (l₁ ++ l₂) = Category.countOf l₁ + Category.countOf l₂ := by
  induction l₁ with
  | nil => simp [Category.countOf]
  | cons c rest ih => simp [Category.countOf, ih, Nat.add_assoc]

theorem Category.allCasesOf_append (l₁ l₂ : List Category) :
    Category.allCasesOf (l₁ ++ l₂) = Category.allCasesOf l₁ ++ Category.allCasesOf l₂ := by
  induction l₁ with
  | nil => simp [Category.allCasesOf]
  | cons c rest ih => simp [Category.allCasesOf, ih]

namespace CaseCursor

/-- The cursor before the first case of a profile. -/
def start (p : Profile) : CaseCursor := ⟨p.cases, 0, p.categories⟩

/-- Enter categories from the top of the stack on, until one has cases to read.
    If none has, the place in the old list is kept. -/
def enterPending (cases : List Case) (index : Nat) : List Category → CaseCursor
  | [] => ⟨cases, index, []⟩
  | .mk _ _ own categories :: rest =>
    if own.isEmpty then enterPending cases index (categories ++ rest)
    else ⟨own, 0, categories ++ rest⟩
termination_by stack => Category.countOf stack
decreasing_by simp [Category.countOf_append, Category.countOf, Category.count]

/-- The cursor, moved on to another case list if its own is used up. -/
def refilled (cursor : CaseCursor) : CaseCursor :=
  if cursor.cases.length ≤ cursor.index then
    enterPending cursor.cases cursor.index cursor.stack
  else cursor

/-- The next case, if there is one, and the cursor after it. -/
def next (cursor : CaseCursor) : Option Case × CaseCursor :=
  let place := cursor.refilled
  match place.cases[place.index]? with
  | some c => (some c, { place with index := place.index + 1 })
  | none => (none, place)

/-- The cases that a cursor has still to give, in declaration order: the rest of
    its list, then those of the categories on the stack. -/
def remaining (cursor : CaseCursor) : List Case :=
  cursor.cases.drop cursor.index ++ Category.allCasesOf cursor.stack

/-! ## What a step leaves -/

/-- Entering categories loses no case and keeps their order. -/
theorem remaining_enterPending {cases : List Case} {index : Nat} (h : cases.length ≤ index)
    (stack : List Category) :
    (enterPending cases index stack).remaining = Category.allCasesOf stack := by
  fun_induction enterPending cases index stack with
  | case1 => simp [remaining, h, Category.allCasesOf]
  | case2 name description own categories rest hown ih =>
    rw [ih, Category.allCasesOf_append, Category.allCasesOf, Category.allCases,
      List.isEmpty_iff.1 hown, List.nil_append]
  | case3 name description own categories rest hown =>
    simp [remaining, Category.allCasesOf_append, Category.allCasesOf, Category.allCases]

/-- A cursor that has nothing to read after entering categories has entered all
    of them. -/
theorem stack_enterPending {cases : List Case} {index : Nat} {stack : List Category}
    (h : (enterPending cases index stack).cases.length ≤ (enterPending cases index stack).index) :
    (enterPending cases index stack).stack = [] := by
  fun_induction enterPending cases index stack with
  | case1 => rfl
  | case2 name description own categories rest hown ih => exact ih h
  | case3 name description own categories rest hown =>
    exact absurd (List.eq_nil_of_length_eq_zero (Nat.le_zero.1 h)) (by simpa using hown)

theorem remaining_refilled (cursor : CaseCursor) : cursor.refilled.remaining = cursor.remaining := by
  unfold refilled
  split
  · rename_i h
    rw [remaining_enterPending h, remaining, List.drop_eq_nil_of_le h, List.nil_append]
  · rfl

/-- A cursor without anything to read has come to its end. -/
theorem stack_refilled {cursor : CaseCursor}
    (h : cursor.refilled.cases.length ≤ cursor.refilled.index) : cursor.refilled.stack = [] := by
  unfold refilled at h ⊢
  split at h
  · rename_i hend
    rw [if_pos hend]
    exact stack_enterPending h
  · contradiction

/-- **A step** gives the first of the remaining cases and leaves the others. -/
theorem next_spec (cursor : CaseCursor) :
    cursor.next.1 = cursor.remaining.head? ∧ cursor.next.2.remaining = cursor.remaining.tail := by
  rw [← remaining_refilled cursor]
  unfold next
  dsimp only
  split
  · rename_i c hc
    obtain ⟨hlt, rfl⟩ := List.getElem?_eq_some_iff.1 hc
    rw [remaining, remaining, List.drop_eq_getElem_cons hlt]
    exact ⟨rfl, rfl⟩
  · rename_i hnone
    have hend := List.getElem?_eq_none_iff.1 hnone
    rw [remaining, stack_refilled hend, List.drop_eq_nil_of_le hend]
    exact ⟨rfl, rfl⟩

/-- A cursor that gives a case has fewer cases left. -/
theorem length_remaining_next {cursor : CaseCursor} {c : Case} {rest : CaseCursor}
    (h : cursor.next = (some c, rest)) : rest.remaining.length < cursor.remaining.length := by
  obtain ⟨hc, hrest⟩ := cursor.next_spec
  rw [h] at hc hrest
  obtain ⟨cs, hcs⟩ := List.head?_eq_some_iff.1 hc.symm
  simp [hrest, hcs]

/-- All cases that a cursor gives, and the cursor after the last. -/
def drain (cursor : CaseCursor) : List Case × CaseCursor :=
  match _h : cursor.next with
  | (none, rest) => ([], rest)
  | (some c, rest) => let (cs, last) := rest.drain; (c :: cs, last)
termination_by cursor.remaining.length
decreasing_by exact length_remaining_next _h

end CaseCursor

/-! ## The functions of a profile, one by one -/

/-- A run over the functions that the cases of a profile stand for; it has
    ended once a case was met whose kind is none. -/
structure Flattening where
  cursor : CaseCursor
  failed : Bool
deriving Repr, Inhabited

namespace Flattening

/-- The run before the first case of a profile. -/
def start (p : Profile) : Flattening := ⟨.start p, false⟩

/-- The next function or the mismatch that ends the run, and the run after
    it. -/
def next (run : Flattening) : Option (Except Mismatch ExpectedFunction) × Flattening :=
  if run.failed then (none, run)
  else
    match run.cursor.next with
    | (none, cursor) => (none, ⟨cursor, false⟩)
    | (some c, cursor) =>
      match ExpectedFunction.ofCase c with
      | .ok f => (some (.ok f), ⟨cursor, false⟩)
      | .error e => (some (.error e), ⟨cursor, true⟩)

/-- A run that gives something has fewer cases left. -/
theorem length_remaining_next {run rest : Flattening} {r : Except Mismatch ExpectedFunction}
    (h : run.next = (some r, rest)) :
    rest.cursor.remaining.length < run.cursor.remaining.length := by
  unfold next at h
  split at h
  · simp at h
  · split at h
    · simp at h
    · rename_i c cursor hc
      have := CaseCursor.length_remaining_next hc
      split at h <;> simp only [Prod.mk.injEq] at h <;> rw [← h.2] <;> exact this

/-- All that a run gives, and the run after its end. -/
def drain (run : Flattening) : List (Except Mismatch ExpectedFunction) × Flattening :=
  match _h : run.next with
  | (none, rest) => ([], rest)
  | (some r, rest) => let (rs, last) := rest.drain; (r :: rs, last)
termination_by run.cursor.remaining.length
decreasing_by exact length_remaining_next _h

end Flattening

/-- The functions that the cases of a profile stand for, in declaration order,
    or the first kind that is none. -/
def Profile.expectedFunctions (p : Profile) : Except Mismatch (List ExpectedFunction) :=
  (Flattening.start p).drain.1.mapM id

end ProfileSync
