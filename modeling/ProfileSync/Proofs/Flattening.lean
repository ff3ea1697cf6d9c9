/-
  The functions that a profile expects, case by case in declaration order.

  * `Case.HasKind` and `Case.StandsFor`: a case has a kind, and stands for a
    function of the kind's stem and its own name;
  * `Flattening.drain_eq`: a run gives the functions of the remaining cases up
    to the first kind that is none, which is the last thing it gives;
  * `Profile.expectedFunctions_eq_ok_iff` and
    `Profile.expectedFunctions_eq_error_iff`: when a profile has expected
    functions, and which mismatch it has otherwise.
-/
import Mathlib.Data.List.Forall2
import ProfileSync.Proofs.Cursor

namespace ProfileSync

/-! ## Lists of results -/

section
variable {α β ε : Type}

theorem mapM_eq_ok_iff {f : α → Except ε β} {l : List α} {bs : List β} :
    l.mapM f = .ok bs ↔ List.Forall₂ (fun a b => f a = .ok b) l bs := by
  induction l generalizing bs with
  | nil => simp [pure, Except.pure, eq_comm]
  | cons a l ih =>
    have hcons : (a :: l).mapM f = .ok bs ↔
        ∃ b bs', f a = .ok b ∧ l.mapM f = .ok bs' ∧ bs = b :: bs' := by
      rw [List.mapM_cons]
      cases f a <;> cases l.mapM f <;> simp [bind, Except.bind, pure, Except.pure, eq_comm]
    rw [hcons, List.forall₂_cons_left_iff]
    simp only [ih]

/-- The error of a list of results is that of the first member that has one. -/
theorem mapM_eq_error_iff {f : α → Except ε β} {l : List α} {e : ε} :
    l.mapM f = .error e ↔ ∃ before a after, l = before ++ a :: after ∧
      (∀ a' ∈ before, ∃ b, f a' = .ok b) ∧ f a = .error e := by
  induction l with
  | nil => simp [pure, Except.pure]
  | cons a l ih =>
    have hcons : (a :: l).mapM f = .error e ↔
        f a = .error e ∨ ((∃ b, f a = .ok b) ∧ l.mapM f = .error e) := by
      rw [List.mapM_cons]
      cases f a <;> cases l.mapM f <;> simp [bind, Except.bind, pure, Except.pure]
    rw [hcons, ih]
    constructor
    · rintro (ha | ⟨ha, before, a', after, rfl, hbefore, ha'⟩)
      · exact ⟨[], a, l, rfl, by simp, ha⟩
      · exact ⟨a :: before, a', after, rfl, by simpa using ⟨ha, hbefore⟩, ha'⟩
    · rintro ⟨before, a', after, hl, hbefore, ha'⟩
      cases before with
      | nil =>
        obtain ⟨rfl, rfl⟩ := List.cons.inj hl
        exact Or.inl ha'
      | cons b before =>
        obtain ⟨rfl, rfl⟩ := List.cons.inj hl
        exact Or.inr ⟨hbefore a (by simp), before, a', after, rfl,
          fun c hc => hbefore c (by simp [hc]), ha'⟩

/-- The results up to the first error, that error included. -/
def throughFirstError : List (Except ε α) → List (Except ε α)
  | [] => []
  | .ok a :: rest => .ok a :: throughFirstError rest
  | .error e :: _ => [.error e]

/-- What comes after the first error does not count. -/
theorem mapM_throughFirstError (l : List (Except ε α)) :
    (throughFirstError l).mapM id = l.mapM id := by
  induction l with
  | nil => rfl
  | cons r l ih =>
    cases r with
    | error e => rfl
    | ok a => rw [throughFirstError, List.mapM_cons, List.mapM_cons, ih]

end

/-! ## The function of a case -/

/-- A case has a kind. -/
def Case.HasKind (c : Case) : Prop := ∃ kind, CaseKind.read c.kind = .ok kind

/-- A case stands for the function with a name: the stem of its kind and then
    its own name. -/
def Case.StandsFor (c : Case) (name : String) : Prop :=
  ∃ kind, CaseKind.read c.kind = .ok kind ∧ name = kind.stem ++ c.name

instance (c : Case) : Decidable c.HasKind :=
  match h : CaseKind.read c.kind with
  | .ok kind => .isTrue ⟨kind, h⟩
  | .error _ => .isFalse fun ⟨_, hkind⟩ => nomatch h.symm.trans hkind

instance (c : Case) (name : String) : Decidable (c.StandsFor name) :=
  match h : CaseKind.read c.kind with
  | .ok kind =>
    decidable_of_iff (name = kind.stem ++ c.name) ⟨fun hname => ⟨kind, h, hname⟩,
      fun ⟨_, hkind, hname⟩ => by cases h.symm.trans hkind; exact hname⟩
  | .error _ => .isFalse fun ⟨_, hkind, _⟩ => nomatch h.symm.trans hkind

/-- A text that is no kind is reported as it was written. -/
theorem CaseKind.read_eq_error {text : String} {e : Mismatch} (h : CaseKind.read text = .error e) :
    e = .invalidKind text := by
  simp only [CaseKind.read] at h
  split_ifs at h
  exact (Except.error.inj h).symm

namespace ExpectedFunction

theorem ofCase_eq_ok_iff {c : Case} {f : ExpectedFunction} :
    ofCase c = .ok f ↔ ∃ kind, CaseKind.read c.kind = .ok kind ∧
      f = ⟨kind.stem ++ c.name, kind, c.description⟩ := by
  unfold ofCase
  cases CaseKind.read c.kind <;> simp [eq_comm]

theorem exists_ofCase_iff {c : Case} : (∃ f, ofCase c = .ok f) ↔ c.HasKind := by
  simp [ofCase_eq_ok_iff, Case.HasKind]

theorem exists_ofCase_name_iff {c : Case} {name : String} :
    (∃ f, ofCase c = .ok f ∧ f.name = name) ↔ c.StandsFor name := by
  constructor
  · rintro ⟨f, hf, rfl⟩
    obtain ⟨kind, hkind, rfl⟩ := ofCase_eq_ok_iff.1 hf
    exact ⟨kind, hkind, rfl⟩
  · rintro ⟨kind, hkind, rfl⟩
    exact ⟨_, ofCase_eq_ok_iff.2 ⟨kind, hkind, rfl⟩, rfl⟩

theorem ofCase_eq_error_iff {c : Case} {e : Mismatch} :
    ofCase c = .error e ↔ ¬ c.HasKind ∧ e = .invalidKind c.kind := by
  unfold ofCase Case.HasKind
  cases h : CaseKind.read c.kind with
  | ok kind => simp
  | error e' => simp [CaseKind.read_eq_error h, eq_comm]

end ExpectedFunction

/-! ## Runs over the cases -/

namespace Flattening

theorem next_of_none {cursor : CaseCursor} (h : cursor.next.1 = none) :
    (Flattening.mk cursor false).next = (none, ⟨cursor.next.2, false⟩) := by
  rcases hn : cursor.next with ⟨r, rest⟩
  rw [hn] at h
  subst h
  simp [next, hn]

/-- A run ends with the first case whose kind is none. -/
theorem next_of_some {cursor : CaseCursor} {c : Case} (h : cursor.next.1 = some c) :
    (Flattening.mk cursor false).next =
      (some (ExpectedFunction.ofCase c), ⟨cursor.next.2, !(ExpectedFunction.ofCase c).isOk⟩) := by
  rcases hn : cursor.next with ⟨r, rest⟩
  rw [hn] at h
  subst h
  simp only [next, hn, Bool.false_eq_true, if_false]
  cases ExpectedFunction.ofCase c <;> rfl

theorem drain_of_next_none {run rest : Flattening} (h : run.next = (none, rest)) :
    run.drain = ([], rest) := by
  rw [drain]
  split <;> simp_all

theorem drain_of_next_some {run rest : Flattening} {r : Except Mismatch ExpectedFunction}
    (h : run.next = (some r, rest)) : run.drain = (r :: rest.drain.1, rest.drain.2) := by
  rw [drain]
  split <;> rename_i h'
  · simp_all
  · rw [h'] at h
    cases h
    rfl

/-- A run that has met a kind that is none gives nothing more. -/
theorem drain_failed {run : Flattening} (h : run.failed = true) : run.drain = ([], run) :=
  drain_of_next_none (by simp [next, h])

/-- **A run** gives the functions of the remaining cases, up to the first case
    whose kind is none. -/
theorem drain_eq (cursor : CaseCursor) :
    (Flattening.mk cursor false).drain.1 =
      throughFirstError (cursor.remaining.map ExpectedFunction.ofCase) := by
  -- each step leaves the tail of the remaining cases
  induction hl : cursor.remaining generalizing cursor with
  | nil =>
    have hnone : cursor.next.1 = none := by rw [cursor.next_spec.1, hl]; rfl
    rw [drain_of_next_none (next_of_none hnone)]
    rfl
  | cons c cs ih =>
    have hsome : cursor.next.1 = some c := by rw [cursor.next_spec.1, hl]; rfl
    have hrest : cursor.next.2.remaining = cs := by rw [cursor.next_spec.2, hl]; rfl
    rw [drain_of_next_some (next_of_some hsome), List.map_cons]
    cases hc : ExpectedFunction.ofCase c with
    | error e => rw [drain_failed rfl, throughFirstError]
    | ok f => rw [throughFirstError, ← ih cursor.next.2 hrest]; rfl

end Flattening

/-! ## The functions of a profile -/

namespace Profile

theorem expectedFunctions_eq (p : Profile) :
    p.expectedFunctions = p.allCases.mapM ExpectedFunction.ofCase := by
  rw [expectedFunctions, Flattening.start, Flattening.drain_eq, mapM_throughFirstError,
    List.mapM_map, CaseCursor.remaining_start]
  rfl

theorem expectedFunctions_eq_ok_iff {p : Profile} {fs : List ExpectedFunction} :
    p.expectedFunctions = .ok fs ↔
      List.Forall₂ (fun c f => ExpectedFunction.ofCase c = .ok f) p.allCases fs := by
  rw [expectedFunctions_eq, mapM_eq_ok_iff]

/-- The mismatch of a profile is the kind of its first case without one. -/
theorem expectedFunctions_eq_error_iff {p : Profile} {e : Mismatch} :
    p.expectedFunctions = .error e ↔ ∃ before c after, p.allCases = before ++ c :: after ∧
      (∀ b ∈ before, b.HasKind) ∧ ¬ c.HasKind ∧ e = .invalidKind c.kind := by
  rw [expectedFunctions_eq, mapM_eq_error_iff]
  simp only [ExpectedFunction.exists_ofCase_iff, ExpectedFunction.ofCase_eq_error_iff]

theorem exists_expectedFunctions_iff {p : Profile} :
    (∃ fs, p.expectedFunctions = .ok fs) ↔ ∀ c ∈ p.allCases, c.HasKind := by
  constructor
  · rintro ⟨fs, hfs⟩
    have hkinds := (expectedFunctions_eq_ok_iff.1 hfs).imp
      fun c f hf => And.intro (ExpectedFunction.exists_ofCase_iff.1 ⟨f, hf⟩) hf
    exact ((List.forall₂_and_left _ _).1 hkinds).1
  · intro hkinds
    cases hfs : p.expectedFunctions with
    | ok fs => exact ⟨fs, rfl⟩
    | error e =>
      obtain ⟨before, c, after, hcases, -, hc, -⟩ := expectedFunctions_eq_error_iff.1 hfs
      exact absurd (hkinds c (by simp [hcases])) hc

/-- The cases of a profile stand for the names of its expected functions, and
    for no others. -/
theorem exists_names_iff {p : Profile} {names : List String} :
    (∃ fs, p.expectedFunctions = .ok fs ∧ fs.map (·.name) = names) ↔
      List.Forall₂ Case.StandsFor p.allCases names := by
  simp only [expectedFunctions_eq_ok_iff]
  induction p.allCases generalizing names with
  | nil => cases names <;> simp
  | cons c cs ih =>
    cases names with
    | nil => simp
    | cons name names =>
      rw [List.forall₂_cons, ← ih, ← ExpectedFunction.exists_ofCase_name_iff]
      constructor
      · rintro ⟨_, hfs, hnames⟩
        cases hfs with
        | @cons _ f _ fs hf hfs =>
          obtain ⟨hname, hnames⟩ := List.cons.inj hnames
          exact ⟨⟨f, hf, hname⟩, fs, hfs, hnames⟩
      · rintro ⟨⟨f, hf, rfl⟩, fs, hfs, rfl⟩
        exact ⟨f :: fs, .cons hf hfs, rfl⟩

end Profile

end ProfileSync
