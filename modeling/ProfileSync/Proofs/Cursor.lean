/-
  The cursor over the cases of a profile, held against their recursive order.

  * `CaseCursor.after` is the cursor after some calls of `next`, and
    `CaseCursor.given` is what these calls gave;
  * `CaseCursor.enterWithin_countOf`: the loop of a call ends, after no more
    turns than there are categories below the stack;
  * `CaseCursor.remaining_after` and `CaseCursor.given_eq`: each call takes one
    case off those that remain, and gives nothing once none remains;
  * `CaseCursor.after_refines_allCases` puts this together for a profile.
-/
import ProfileSync.Profile.Cursor

namespace ProfileSync

namespace CaseCursor

/-! ## The loop that enters categories -/

/-- What `enterPending` comes to within a number of turns; `none` if its loop
    has not ended by then. -/
def enterWithin (cases : List Case) (index : Nat) : Nat → List Category → Option CaseCursor
  | _, [] => some ⟨cases, index, []⟩
  | 0, _ :: _ => none
  | turns + 1, .mk _ _ own categories :: rest =>
    if own.isEmpty then enterWithin cases index turns (categories ++ rest)
    else some ⟨own, 0, categories ++ rest⟩

/-- **The loop ends**: every turn takes one category off those that can still
    be entered. -/
theorem enterWithin_countOf (cases : List Case) (index : Nat) (stack : List Category) :
    enterWithin cases index (Category.countOf stack) stack =
      some (enterPending cases index stack) := by
  fun_induction enterPending cases index stack with
  | case1 => rfl
  | case2 name description own categories rest hown ih =>
    have hcount : Category.countOf (.mk name description own categories :: rest) =
        Category.countOf (categories ++ rest) + 1 := by
      rw [Category.countOf, Category.count, Category.countOf_append]
      omega
    rw [hcount, enterWithin, if_pos hown, ih]
  | case3 name description own categories rest hown =>
    rw [Category.countOf, Category.count, Nat.add_assoc, Nat.add_comm, enterWithin, if_neg hown]

/-! ## Calls one after the other -/

/-- The cursor after a number of calls of `next`. -/
def after (cursor : CaseCursor) : Nat → CaseCursor
  | 0 => cursor
  | n + 1 => (cursor.after n).next.2

/-- What a number of calls of `next` give. -/
def given (cursor : CaseCursor) : Nat → List (Option Case)
  | 0 => []
  | n + 1 => cursor.given n ++ [(cursor.after n).next.1]

theorem remaining_start (p : Profile) : (start p).remaining = p.allCases := by
  simp [start, remaining, Profile.allCases]

/-- Each call takes one case off those that remain. -/
theorem remaining_after (cursor : CaseCursor) (n : Nat) :
    (cursor.after n).remaining = cursor.remaining.drop n := by
  induction n with
  | zero => rfl
  | succ n ih => rw [after, (next_spec _).2, ih, List.tail_drop]

/-- A call gives the case at its own number among those that remained at
    first. -/
theorem next_after (cursor : CaseCursor) (n : Nat) :
    (cursor.after n).next.1 = cursor.remaining[n]? := by
  rw [(next_spec _).1, remaining_after, List.head?_drop]

theorem given_eq (cursor : CaseCursor) (n : Nat) :
    cursor.given n = (List.range n).map fun k => cursor.remaining[k]? := by
  induction n with
  | zero => rfl
  | succ n ih => rw [given, ih, next_after, List.range_succ, List.map_append, List.map_singleton]

/-- The cases that were given are the first of those that remained. -/
theorem filterMap_given (cursor : CaseCursor) (n : Nat) :
    (cursor.given n).filterMap id = cursor.remaining.take n := by
  induction n with
  | zero => rfl
  | succ n ih =>
    rw [given, List.filterMap_append, ih, next_after, List.take_add_one]
    cases cursor.remaining[n]? <;> rfl

/-- Draining a cursor gives all that remains. -/
theorem drain_eq (cursor : CaseCursor) : cursor.drain.1 = cursor.remaining := by
  fun_induction drain cursor with
  | case1 cursor rest h =>
    have hnone := (next_spec cursor).1
    rw [h] at hnone
    exact (List.head?_eq_none_iff.1 hnone.symm).symm
  | case2 cursor c rest h cs last hdrain ih =>
    obtain ⟨hc, hrest⟩ := next_spec cursor
    rw [h] at hc hrest
    obtain ⟨cs', hcs⟩ := List.head?_eq_some_iff.1 hc.symm
    rw [hdrain] at ih
    simp only at ih hrest
    simp [ih, hrest, hcs]

/-- **The cursor gives the cases of a profile in their recursive order.**  After
    any number of calls the loop of the next call ends; the cases given so far,
    the rest of the list that is being read and the cases of the categories on
    the stack, from its top down, are all cases of the profile in order.  So
    each call gives the case at its own number, and nothing is given once
    nothing was. -/
theorem after_refines_allCases (p : Profile) (n : Nat) :
    let cursor := (start p).after n
    enterWithin cursor.cases cursor.index (Category.countOf cursor.stack) cursor.stack =
        some (enterPending cursor.cases cursor.index cursor.stack) ∧
      ((start p).given n).filterMap id ++
        (cursor.cases.drop cursor.index ++ Category.allCasesOf cursor.stack) = p.allCases ∧
      (start p).given n = (List.range n).map (fun k => p.allCases[k]?) ∧
      (start p).drain.1 = p.allCases ∧
      (cursor.next.1 = none → ∀ m, ((start p).after (n + m)).next.1 = none) := by
  intro cursor
  have hstart := remaining_start p
  refine ⟨enterWithin_countOf _ _ _, ?_, ?_, ?_, ?_⟩
  · have hrest : cursor.remaining = p.allCases.drop n := by rw [remaining_after, hstart]
    rw [filterMap_given, hstart, ← remaining, hrest, List.take_append_drop]
  · rw [given_eq, hstart]
  · rw [drain_eq, hstart]
  · intro hnone m
    rw [next_after, hstart] at hnone ⊢
    have hlen := List.getElem?_eq_none_iff.1 hnone
    exact List.getElem?_eq_none_iff.2 (by omega)

/-- A cursor that has only categories without cases before it has come to its
    end, and stays there. -/
theorem after_refines_allCases_hollow :
    let p : Profile :=
      { source := "", test := "", description := "", cases := [⟨"A", "", ""⟩],
        categories := [.mk "outer" "" [] [.mk "inner" "" [] []], .mk "last" "" [] []] }
    ((start p).after 1).next.1 = none ∧ ((start p).after (1 + 2)).next.1 = none := by
  intro p
  have hnone : ((start p).after 1).next.1 = none := by
    rw [next_after, remaining_start]
    rfl
  exact ⟨hnone, (after_refines_allCases p 1).2.2.2.2 hnone 2⟩

end CaseCursor

end ProfileSync
