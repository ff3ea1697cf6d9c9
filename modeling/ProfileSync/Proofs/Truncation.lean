/-
  The functions of a profile, call by call.

  * `Flattening.after` is the run after some calls of `next`, and `Flattening.call`
    is what the next call gives then;
  * `Flattening.after_of_hasKind` and `Flattening.after_of_not_hasKind`: a run
    takes one case with each call, and stays where it is once it has met a case
    without a kind;
  * `Flattening.call_eq`: so a call gives the function of the case at its own
    number, and nothing if a case before that has no kind;
  * `Flattening.call_ends_with_first_error` holds this against the list of all
    functions.
-/
import ProfileSync.Proofs.Flattening

namespace ProfileSync

namespace Flattening

/-! ## Calls one after the other -/

/-- The run after a number of calls of `next`. -/
def after (run : Flattening) : Nat → Flattening
  | 0 => run
  | n + 1 => (run.after n).next.2

/-- What `next` gives after a number of calls. -/
def call (run : Flattening) (n : Nat) : Option (Except Mismatch ExpectedFunction) :=
  (run.after n).next.1

theorem after_add (run : Flattening) (n m : Nat) : run.after (n + m) = (run.after n).after m := by
  induction m with
  | zero => rfl
  | succ m ih => rw [← Nat.add_assoc, after, ih, after]

/-! ## One call -/

/-- A run that has not failed takes the first of the remaining cases. -/
theorem next_spec {run : Flattening} (h : run.failed = false) :
    run.next.1 = run.cursor.remaining.head?.map ExpectedFunction.ofCase ∧
      run.next.2.cursor.remaining = run.cursor.remaining.tail ∧
      (run.next.2.failed = true ↔ ∃ c, run.cursor.remaining.head? = some c ∧ ¬ c.HasKind) := by
  obtain ⟨cursor, failed⟩ := run
  subst h
  obtain ⟨hhead, htail⟩ := cursor.next_spec
  rw [← hhead, ← htail]
  cases hc : cursor.next.1 with
  | none => simp [next_of_none hc]
  | some c =>
    rw [next_of_some hc]
    refine ⟨rfl, rfl, ?_⟩
    cases hf : ExpectedFunction.ofCase c with
    | ok f => simpa [Except.isOk, Except.toBool] using ExpectedFunction.exists_ofCase_iff.1 ⟨f, hf⟩
    | error e =>
      simpa [Except.isOk, Except.toBool] using (ExpectedFunction.ofCase_eq_error_iff.1 hf).1

/-- A run that has failed gives nothing and stays as it is. -/
theorem next_of_failed {run : Flattening} (h : run.failed = true) : run.next = (none, run) := by
  rw [next, if_pos h]

theorem after_of_failed {run : Flattening} (h : run.failed = true) (n : Nat) :
    run.after n = run := by
  induction n with
  | zero => rfl
  | succ n ih => rw [after, ih, next_of_failed h]

/-! ## Where a run stands -/

section
variable {p : Profile} {n : Nat} {c : Case}

theorem mem_take_succ (hc : p.allCases[n]? = some c) : c ∈ p.allCases.take (n + 1) :=
  List.mem_of_getElem? (i := n) (by rw [List.getElem?_take_of_lt (Nat.lt_succ_self n), hc])

/-- As long as all cases have kinds a run takes one of them with each call. -/
theorem after_of_hasKind (h : ∀ b ∈ p.allCases.take n, b.HasKind) :
    ((start p).after n).failed = false ∧
      ((start p).after n).cursor.remaining = p.allCases.drop n := by
  induction n with
  | zero => exact ⟨rfl, CaseCursor.remaining_start p⟩
  | succ n ih =>
    obtain ⟨hfailed, hremaining⟩ := ih fun b hb =>
      h b ((List.take_prefix_take_left (Nat.le_succ n)).subset hb)
    obtain ⟨-, htail, hfails⟩ := next_spec hfailed
    rw [hremaining, List.head?_drop] at hfails
    refine ⟨?_, by rw [after, htail, hremaining, List.tail_drop]⟩
    rw [after, ← Bool.not_eq_true, hfails]
    rintro ⟨c, hc, hnone⟩
    exact hnone (h c (mem_take_succ hc))

/-- Once a run has met a case without a kind it stays at the cases after it. -/
theorem after_of_not_hasKind (h : ∀ b ∈ p.allCases.take n, b.HasKind)
    (hc : p.allCases[n]? = some c) (hkind : ¬ c.HasKind) {m : Nat} (hm : n < m) :
    ((start p).after m).failed = true ∧
      ((start p).after m).cursor.remaining = p.allCases.drop (n + 1) := by
  obtain ⟨hfailed, hremaining⟩ := after_of_hasKind h
  obtain ⟨-, htail, hfails⟩ := next_spec hfailed
  have hnow : ((start p).after (n + 1)).failed = true :=
    hfails.2 ⟨c, by rw [hremaining, List.head?_drop, hc], hkind⟩
  obtain ⟨k, rfl⟩ := Nat.exists_eq_add_of_le hm
  rw [Nat.succ_eq_add_one, after_add, after_of_failed hnow]
  exact ⟨hnow, by rw [after, htail, hremaining, List.tail_drop]⟩

/-- Before a place all cases have kinds, or there is a first one that has none. -/
theorem exists_first_not_hasKind (cases : List Case) (n : Nat) :
    (∀ b ∈ cases.take n, b.HasKind) ∨ ∃ k c, k < n ∧ (∀ b ∈ cases.take k, b.HasKind) ∧
      cases[k]? = some c ∧ ¬ c.HasKind := by
  induction n with
  | zero => simp
  | succ n ih =>
    rcases ih with hall | ⟨k, c, hk, hfirst⟩
    · cases hc : cases[n]? with
      | none =>
        have hlen := List.getElem?_eq_none_iff.1 hc
        rw [List.take_of_length_le hlen] at hall
        rw [List.take_of_length_le (Nat.le_succ_of_le hlen)]
        exact .inl hall
      | some c =>
        by_cases hkind : c.HasKind
        · refine .inl fun b hb => ?_
          rw [List.take_add_one, hc, Option.toList_some, List.mem_append, List.mem_singleton] at hb
          exact hb.elim (hall b) fun heq => heq ▸ hkind
        · exact .inr ⟨n, c, Nat.lt_succ_self n, hall, hc, hkind⟩
    · exact .inr ⟨k, c, Nat.lt_succ_of_lt hk, hfirst⟩

/-- **A call** gives the function of the case at its own number, or its mismatch,
    as long as the cases before that have kinds, and nothing afterwards. -/
theorem call_eq (p : Profile) (n : Nat) :
    (start p).call n = if ∀ b ∈ p.allCases.take n, b.HasKind then
      p.allCases[n]?.map ExpectedFunction.ofCase else none := by
  split <;> rename_i hall
  · obtain ⟨hfailed, hremaining⟩ := after_of_hasKind hall
    rw [call, (next_spec hfailed).1, hremaining, List.head?_drop]
  · obtain ⟨k, c, hk, hfirst, hc, hkind⟩ := (exists_first_not_hasKind _ n).resolve_left hall
    rw [call, next_of_failed (after_of_not_hasKind hfirst hc hkind hk).1]

theorem call_of_length_le (h : p.allCases.length ≤ n) : (start p).call n = none := by
  rw [call_eq, List.getElem?_eq_none_iff.2 h]
  simp

theorem call_eq_error_iff {e : Mismatch} : (start p).call n = some (.error e) ↔
    ∃ c, (∀ b ∈ p.allCases.take n, b.HasKind) ∧ p.allCases[n]? = some c ∧ ¬ c.HasKind ∧
      e = .invalidKind c.kind := by
  rw [call_eq]
  split <;> rename_i hall
  · simp only [Option.map_eq_some_iff, ExpectedFunction.ofCase_eq_error_iff]
    exact ⟨fun ⟨c, hc, he⟩ => ⟨c, hall, hc, he⟩, fun ⟨c, _, hc, he⟩ => ⟨c, hc, he⟩⟩
  · simp only [reduceCtorEq, false_iff, not_exists]
    exact fun c h => hall h.1

end

/-! ## All functions at once -/

/-- The mismatch of a profile is the one that a call gives. -/
theorem expectedFunctions_eq_error_iff_call {p : Profile} {e : Mismatch} :
    p.expectedFunctions = .error e ↔ ∃ n, (start p).call n = some (.error e) := by
  simp only [Profile.expectedFunctions_eq_error_iff, call_eq_error_iff]
  constructor
  · rintro ⟨before, c, after, hcases, hbefore, hkind, he⟩
    refine ⟨before.length, c, ?_, ?_, hkind, he⟩
    · rw [hcases, List.take_left]
      exact hbefore
    · rw [hcases, List.getElem?_append_right (Nat.le_refl _), Nat.sub_self, List.getElem?_cons_zero]
  · rintro ⟨n, c, hbefore, hc, hkind, he⟩
    obtain ⟨hlt, rfl⟩ := List.getElem?_eq_some_iff.1 hc
    refine ⟨p.allCases.take n, p.allCases[n], p.allCases.drop (n + 1), ?_, hbefore, hkind, he⟩
    rw [← List.drop_eq_getElem_cons hlt, List.take_append_drop]

/-- The functions of a profile are those that the calls give. -/
theorem call_of_expectedFunctions {p : Profile} {fs : List ExpectedFunction}
    (h : p.expectedFunctions = .ok fs) :
    fs.length = p.allCases.length ∧ ∀ n, (start p).call n = fs[n]?.map .ok := by
  have hkinds : ∀ c ∈ p.allCases, c.HasKind := Profile.exists_expectedFunctions_iff.1 ⟨fs, h⟩
  have hfs := Profile.expectedFunctions_eq_ok_iff.1 h
  refine ⟨hfs.length_eq.symm, fun n => ?_⟩
  rw [call_eq, if_pos fun b hb => hkinds b (List.mem_of_mem_take hb)]
  rcases Nat.lt_or_ge n p.allCases.length with hlt | hge
  · have hlt' : n < fs.length := hfs.length_eq ▸ hlt
    rw [List.getElem?_eq_getElem hlt, List.getElem?_eq_getElem hlt', Option.map_some,
      Option.map_some]
    exact congrArg some (hfs.get hlt hlt')
  · rw [List.getElem?_eq_none_iff.2 hge, List.getElem?_eq_none_iff.2 (hfs.length_eq ▸ hge)]
    rfl

/-- **A run ends with the first error.**  Each call gives the function of the next
    case, up to the first case whose kind is none; that call gives the kind as it
    was written, and the calls after it nothing, whatever cases remain.  The list of
    all functions is complete if no call gives an error, and otherwise it is that
    error. -/
theorem call_ends_with_first_error (p : Profile) :
    let run := start p
    (∀ n c, p.allCases[n]? = some c → (∀ b ∈ p.allCases.take n, b.HasKind) →
      (∀ kind, CaseKind.read c.kind = .ok kind →
        run.call n = some (.ok ⟨kind.stem ++ c.name, kind, c.description⟩)) ∧
      (¬ c.HasKind → run.call n = some (.error (.invalidKind c.kind)) ∧
        ∀ m, n < m → run.call m = none ∧
          (run.after m).cursor.remaining = p.allCases.drop (n + 1))) ∧
    (∀ n, p.allCases.length ≤ n → run.call n = none) ∧
    ((∀ n e, run.call n ≠ some (.error e)) ↔ ∃ fs, p.expectedFunctions = .ok fs ∧
      fs.length = p.allCases.length ∧ ∀ n, run.call n = fs[n]?.map .ok) ∧
    ∀ e, p.expectedFunctions = .error e ↔ ∃ n, run.call n = some (.error e) := by
  intro run
  refine ⟨fun n c hc hbefore => ⟨fun kind hkind => ?_, fun hkind => ⟨?_, fun m hm => ?_⟩⟩,
    fun n hn => call_of_length_le hn, ⟨fun hnone => ?_, ?_⟩,
    fun e => expectedFunctions_eq_error_iff_call⟩
  · rw [call_eq, if_pos hbefore, hc, Option.map_some,
      ExpectedFunction.ofCase_eq_ok_iff.2 ⟨kind, hkind, rfl⟩]
  · exact call_eq_error_iff.2 ⟨c, hbefore, hc, hkind, rfl⟩
  · obtain ⟨hfailed, hremaining⟩ := after_of_not_hasKind hbefore hc hkind hm
    exact ⟨by rw [call, next_of_failed hfailed], hremaining⟩
  · cases hfs : p.expectedFunctions with
    | ok fs => exact ⟨fs, rfl, call_of_expectedFunctions hfs⟩
    | error e =>
      obtain ⟨n, hn⟩ := expectedFunctions_eq_error_iff_call.1 hfs
      exact absurd hn (hnone n e)
  · rintro ⟨fs, -, -, hcalls⟩ n e herror
    rw [hcalls n] at herror
    obtain ⟨f, -, hf⟩ := Option.map_eq_some_iff.1 herror
    cases hf

/-- A kind that is none ends the run in the middle of a profile. -/
theorem call_ends_with_first_error_nested :
    let p : Profile :=
      { source := "", test := "", description := "", cases := [⟨"A", "TEST", "first"⟩],
        categories := [.mk "inner" "" [⟨"B", " Test", ""⟩] [], .mk "last" "" [⟨"C", "", ""⟩] []] }
    (start p).call 0 = some (.ok ⟨"TestA", .test, "first"⟩) ∧
      (start p).call 1 = some (.error (.invalidKind " Test")) ∧ (start p).call 2 = none ∧
      ((start p).after 2).cursor.remaining = [⟨"C", "", ""⟩] ∧
      p.expectedFunctions = .error (.invalidKind " Test") := by
  intro p
  obtain ⟨hcalls, -, -, herror⟩ := call_ends_with_first_error p
  have hcases : p.allCases = [⟨"A", "TEST", "first"⟩, ⟨"B", " Test", ""⟩, ⟨"C", "", ""⟩] := by
    simp [p, Profile.allCases, Category.allCasesOf, Category.allCases]
  have hfirst :=
    (hcalls 0 ⟨"A", "TEST", "first"⟩ (by rw [hcases]; rfl) (by simp)).1 .test (by decide)
  obtain ⟨hsecond, hrest⟩ := (hcalls 1 ⟨"B", " Test", ""⟩ (by rw [hcases]; rfl)
    (by rw [hcases]; decide)).2 (by decide)
  obtain ⟨hnone, hremaining⟩ := hrest 2 (by decide)
  exact ⟨hfirst, hsecond, hnone, by rw [hremaining, hcases]; rfl, (herror _).2 ⟨1, hsecond⟩⟩

end Flattening

end ProfileSync
