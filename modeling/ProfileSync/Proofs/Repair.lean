/-
  Repairing the order of declared functions.

  A misplaced function is repaired by moving the function that is expected at its
  place there; the others keep their order, and all may come to stand on other lines.

  * `moveTo` and `Declared.move`: moving a name and a declaration;
  * `AgreesTo`: the first names are the expected ones, so that a mismatch is reported
    behind them (`AgreesTo.reported_behind`);
  * `Displaced.agreesTo_move`: a repair makes the names agree up to the place that it
    repairs;
  * `agreesTo_repairs`: so after a number of repairs at least as many names agree, if
    the functions are the expected ones in some order;
  * `repairs_reach_agreement`: they come to an end, and the functions pass then.
-/
import ProfileSync.Proofs.Orderings

namespace ProfileSync

/-! ## Moving a name -/

/-- A list after one of its members is moved to a place, the others keeping their
    order. -/
def moveTo (names : List String) (name : String) (place : Nat) : List String :=
  (names.erase name).take place ++ name :: (names.erase name).drop place

theorem perm_moveTo {names : List String} {name : String} (h : name ∈ names) (place : Nat) :
    (moveTo names name place).Perm names :=
  calc (moveTo names name place).Perm
        (name :: ((names.erase name).take place ++ (names.erase name).drop place)) :=
        List.perm_middle
    _ = name :: names.erase name := by rw [List.take_append_drop]
    List.Perm _ names := (List.perm_cons_erase h).symm

/-- A name that does not stand before a place is moved there over what stands between. -/
theorem moveTo_append {before rest : List String} {name : String} (h : name ∉ before) :
    moveTo (before ++ rest) name before.length = before ++ name :: rest.erase name := by
  rw [moveTo, List.erase_append_right _ h, List.take_left, List.drop_left]

/-- The set after a function is moved to a place.  The lines are those on which the
    functions stand afterwards. -/
def Declared.move (d : Declared) (name : String) (place : Nat) (lineOf : String → Option Nat) :
    Declared :=
  .inOrder (moveTo d.names name place) lineOf

theorem Declared.names_move {d : Declared} {name : String} (h : name ∈ d.names) (place : Nat)
    (lineOf : String → Option Nat) : (d.move name place lineOf).names = moveTo d.names name place :=
  names_inOrder ((perm_moveTo h place).nodup_iff.2 d.nodup_names) lineOf

/-! ## Names that agree up to a place -/

/-- The place that a mismatch reports, if it reports one. -/
def Mismatch.position? : Mismatch → Option Nat
  | missing _ position | misplaced _ _ position _ => some position
  | invalidKind _ | count _ _ => none

section
variable {d : Declared} {expected : List ExpectedFunction}

/-- The first names are the expected ones. -/
def AgreesTo (n : Nat) (d : Declared) (expected : List ExpectedFunction) : Prop :=
  d.names.take n = (expected.map (·.name)).take n

theorem AgreesTo.mono {n m : Nat} (h : AgreesTo m d expected) (hle : n ≤ m) :
    AgreesTo n d expected := by
  have htake := congrArg (List.take n) h
  rwa [List.take_take, List.take_take, Nat.min_eq_left hle] at htake

/-- Names agree no further than to their first difference. -/
theorem AgreesTo.le_length {n : Nat} (h : AgreesTo n d expected) {common : List ExpectedFunction}
    {a : String} {as : List String} {f : ExpectedFunction} {fs : List ExpectedFunction}
    (hnames : d.names = common.map (·.name) ++ a :: as) (hexpected : expected = common ++ f :: fs)
    (hne : a ≠ f.name) : n ≤ common.length := by
  have hwanted : expected.map (·.name) = common.map (·.name) ++ f.name :: fs.map (·.name) := by
    simp [hexpected]
  have hlongest : IsLongestCommonPrefix (common.map (·.name)) d.names (expected.map (·.name)) := by
    rw [hnames, hwanted]
    exact isLongestCommonPrefix_of_ne hne
  have hle : (d.names.take n).length ≤ (common.map (·.name)).length :=
    hlongest.2.2 _ (List.take_prefix _ _) (h ▸ List.take_prefix _ _)
  have hlength : common.length < d.names.length := by simp [hnames]
  rw [List.length_take, List.length_map] at hle
  omega

/-- What is reported of as many names as are expected stands behind those that agree. -/
theorem AgreesTo.reported_behind {n : Nat} (h : AgreesTo n d expected)
    (hlen : d.names.length = expected.length) :
    checkCases d expected = .ok () ∨ ∃ e position, checkCases d expected = .error e ∧
      e.position? = some position ∧ n < position := by
  have hcompares := compares_checkCases d expected
  generalize checkCases d expected = result at hcompares ⊢
  cases hcompares with
  | same _ => exact .inl rfl
  | count hne => exact absurd hlen hne
  | @missing common a as f fs _ hnames hexpected hf =>
    have hne : a ≠ f.name := fun heq => hf (by simp [hnames, heq])
    exact .inr ⟨_, _, rfl, rfl, Nat.lt_succ_of_le (h.le_length hnames hexpected hne)⟩
  | @misplaced common a as f fs _ hnames hexpected hne _ =>
    exact .inr ⟨_, _, rfl, rfl, Nat.lt_succ_of_le (h.le_length hnames hexpected hne)⟩

end

/-! ## One repair -/

/-- The first difference between declared and expected functions, at which the function
    `f` is expected, which is declared elsewhere. -/
structure Displaced (d : Declared) (expected common : List ExpectedFunction) (a : String)
    (as : List String) (f : ExpectedFunction) (fs : List ExpectedFunction) : Prop where
  length : d.names.length = expected.length
  names : d.names = common.map (·.name) ++ a :: as
  wanted : expected = common ++ f :: fs
  ne : a ≠ f.name
  mem : f.name ∈ d.names
  distinct : (expected.map (·.name)).Nodup

/-- A misplaced function stands at the first difference. -/
theorem exists_displaced {d : Declared} {expected : List ExpectedFunction} {actual name : String}
    {position : Nat} {line : Option Nat} (hdistinct : (expected.map (·.name)).Nodup)
    (h : checkCases d expected = .error (.misplaced actual name position line)) :
    ∃ common as f fs, Displaced d expected common actual as f fs ∧ f.name = name ∧
      position = common.length + 1 := by
  have hcompares := compares_checkCases d expected
  rw [h] at hcompares
  cases hcompares with
  | @misplaced common a as f fs hlen hnames hexpected hne hf =>
    exact ⟨common, as, f, fs, ⟨hlen, hnames, hexpected, hne, hf, hdistinct⟩, rfl, rfl⟩

namespace Displaced
variable {d : Declared} {expected common fs : List ExpectedFunction} {a : String}
  {as : List String} {f : ExpectedFunction} (h : Displaced d expected common a as f fs)
include h

theorem notMem_common : f.name ∉ common.map (·.name) := by
  have hdistinct := h.distinct
  rw [h.wanted, List.map_append, List.map_cons] at hdistinct
  exact fun hmem => List.disjoint_of_nodup_append hdistinct hmem (List.mem_cons_self ..)

/-- The function that is expected comes after the one that stands at its place. -/
theorem length_lt_idxOf : common.length < d.names.idxOf f.name := by
  have hplace : d.names.idxOf f.name = common.length + (as.idxOf f.name + 1) := by
    rw [h.names, List.idxOf_append_of_notMem h.notMem_common, List.idxOf_cons_ne _ h.ne,
      List.length_map]
  omega

/-- The function that stands at the place is expected neither there nor before. -/
theorem actual_notMem : a ∉ (expected.map (·.name)).take (common.length + 1) := by
  have htake : (expected.map (·.name)).take (common.length + 1) =
      common.map (·.name) ++ [f.name] := by
    simp [h.wanted, List.take_append]
  have hnodup : (common.map (·.name) ++ a :: as).Nodup := h.names ▸ d.nodup_names
  rw [htake, List.mem_append, List.mem_singleton, not_or]
  exact ⟨fun hmem => List.disjoint_of_nodup_append hnodup hmem (List.mem_cons_self ..), h.ne⟩

/-- **A repair** makes the names agree up to the place that it repairs. -/
theorem agreesTo_move (lineOf : String → Option Nat) :
    AgreesTo (common.length + 1) (d.move f.name common.length lineOf) expected := by
  have hmoved : moveTo d.names f.name common.length =
      common.map (·.name) ++ f.name :: (a :: as).erase f.name := by
    rw [h.names, ← List.length_map (f := (·.name)), moveTo_append h.notMem_common]
  rw [AgreesTo, Declared.names_move h.mem, hmoved, h.wanted]
  simp [List.take_append]

/-- What is reported after a repair stands behind the place that it repaired. -/
theorem reported_behind (lineOf : String → Option Nat) :
    checkCases (d.move f.name common.length lineOf) expected = .ok () ∨ ∃ e position,
      checkCases (d.move f.name common.length lineOf) expected = .error e ∧
        e.position? = some position ∧ common.length + 1 < position := by
  refine (h.agreesTo_move lineOf).reported_behind ?_
  rw [Declared.names_move h.mem, (perm_moveTo h.mem _).length_eq, h.length]

end Displaced

/-! ## Repairs one after the other -/

namespace Declared

/-- The set after a repair, if a misplaced function is reported: the function that is
    expected at its place is moved there. -/
def repair (expected : List ExpectedFunction) (lineOf : String → Option Nat) (d : Declared) :
    Declared :=
  match checkCases d expected with
  | .error (.misplaced _ name position _) => d.move name (position - 1) lineOf
  | _ => d

/-- The set after some repairs.  Each of them has its own lines on which the functions
    stand afterwards. -/
def repairs (d : Declared) (expected : List ExpectedFunction) (lines : Nat → String → Option Nat) :
    Nat → Declared
  | 0 => d
  | n + 1 => (d.repairs expected lines n).repair expected (lines n)

end Declared

section
variable {d : Declared} {expected : List ExpectedFunction}

/-- **A repair** of functions that are the expected ones in some order makes one more
    of them agree. -/
theorem agreesTo_repair (hperm : (expected.map (·.name)).Perm d.names) {n : Nat}
    (h : AgreesTo n d expected) (lineOf : String → Option Nat) :
    (expected.map (·.name)).Perm (d.repair expected lineOf).names ∧
      AgreesTo (n + 1) (d.repair expected lineOf) expected := by
  rw [Declared.repair]
  obtain hok | ⟨actual, name, position, line, hmisplaced⟩ := checkCases_of_perm hperm
  · have hsame : d.names = expected.map (·.name) := checkCases_eq_ok_iff.1 hok
    rw [hok]
    exact ⟨hperm, congrArg (List.take (n + 1)) hsame⟩
  · have hdistinct : (expected.map (·.name)).Nodup := hperm.nodup_iff.2 d.nodup_names
    obtain ⟨common, as, f, fs, hfirst, rfl, rfl⟩ := exists_displaced hdistinct hmisplaced
    rw [hmisplaced]
    refine ⟨?_, ?_⟩
    · rw [Declared.names_move hfirst.mem]
      exact hperm.trans (perm_moveTo hfirst.mem _).symm
    · have hlater : n ≤ common.length := h.le_length hfirst.names hfirst.wanted hfirst.ne
      exact (hfirst.agreesTo_move lineOf).mono (Nat.succ_le_succ hlater)

/-- After a number of repairs at least as many functions agree. -/
theorem agreesTo_repairs (hperm : (expected.map (·.name)).Perm d.names)
    (lines : Nat → String → Option Nat) (n : Nat) :
    (expected.map (·.name)).Perm (d.repairs expected lines n).names ∧
      AgreesTo n (d.repairs expected lines n) expected := by
  induction n with
  | zero => exact ⟨hperm, rfl⟩
  | succ n ih =>
    obtain ⟨hperm', hagrees⟩ := ih
    exact agreesTo_repair hperm' hagrees (lines n)

/-- As many repairs as there are functions make all of them agree. -/
theorem checkCases_repairs (hperm : (expected.map (·.name)).Perm d.names)
    (lines : Nat → String → Option Nat) :
    checkCases (d.repairs expected lines d.size) expected = .ok () := by
  obtain ⟨hperm', hagrees⟩ := agreesTo_repairs hperm lines d.size
  have hsize : (expected.map (·.name)).length = d.size := by
    rw [hperm.length_eq, Declared.length_names]
  rw [AgreesTo, List.take_of_length_le (by rw [← hperm'.length_eq, hsize]),
    List.take_of_length_le hsize.le] at hagrees
  exact checkCases_of_names_eq hagrees

end

/-- **Repairs bring about the expected order.**  If all expected names differ and a
    function is misplaced, the one that is expected at its place is declared later, and
    it is itself expected neither there nor before; and once the former is moved to the
    place, on whatever lines the functions then stand, they pass, or the next mismatch
    is reported further on.  So if the functions are the expected ones in some order, no
    more such repairs than there are functions lead to functions that pass. -/
theorem repairs_reach_agreement (declarations : List (String × Option Nat))
    {expected : List ExpectedFunction} (hdistinct : (expected.map (·.name)).Nodup) :
    let d := Declared.ofList declarations
    let wanted := expected.map (·.name)
    (∀ actual name position line,
      checkCases d expected = .error (.misplaced actual name position line) →
        (name ∈ d.names ∧ position < d.names.idxOf name + 1) ∧
        actual ∉ wanted.take position ∧
        ∀ lineOf, checkCases (d.move name (position - 1) lineOf) expected = .ok () ∨
          ∃ e later, checkCases (d.move name (position - 1) lineOf) expected = .error e ∧
            e.position? = some later ∧ position < later) ∧
      (wanted.Perm d.names → ∀ lines, ∃ n ≤ d.size,
        checkCases (d.repairs expected lines n) expected = .ok () ∧
          ∀ m < n, ∃ actual name position line, checkCases (d.repairs expected lines m) expected =
            .error (.misplaced actual name position line)) := by
  intro d wanted
  refine ⟨fun actual name position line hmisplaced => ?_, fun hperm lines => ?_⟩
  · obtain ⟨common, as, f, fs, hfirst, rfl, rfl⟩ := exists_displaced hdistinct hmisplaced
    exact ⟨⟨hfirst.mem, Nat.succ_lt_succ hfirst.length_lt_idxOf⟩, hfirst.actual_notMem,
      hfirst.reported_behind⟩
  · have hreached : ∃ n, checkCases (d.repairs expected lines n) expected = .ok () :=
      ⟨d.size, checkCases_repairs hperm lines⟩
    -- the first number of repairs after which the functions pass
    refine ⟨Nat.find hreached, Nat.find_min' hreached (checkCases_repairs hperm lines),
      Nat.find_spec hreached, fun m hm => ?_⟩
    exact (checkCases_of_perm (agreesTo_repairs hperm lines m).1).resolve_left
      (Nat.find_min hreached hm)

/-- Three functions that are declared in a cycle; the line of one is not known. -/
theorem repairs_reach_agreement_cycle :
    let d := Declared.ofList [("TestC", some 3), ("TestA", none), ("BenchmarkB", some 9)]
    let expected : List ExpectedFunction :=
      [⟨"TestA", .test, ""⟩, ⟨"BenchmarkB", .benchmark, ""⟩, ⟨"TestC", .test, ""⟩]
    (expected.map (·.name)).Nodup ∧ (expected.map (·.name)).Perm d.names ∧
      checkCases d expected = .error (.misplaced "TestC" "TestA" 1 (some 3)) ∧
      1 < d.names.idxOf "TestA" + 1 ∧ "TestC" ∉ (expected.map (·.name)).take 1 ∧
      ∀ lines, ∃ n ≤ d.size, checkCases (d.repairs expected lines n) expected = .ok () := by
  intro d expected
  have hdistinct : (expected.map (·.name)).Nodup := by decide
  have hperm : (expected.map (·.name)).Perm d.names := by decide
  have hmisplaced : checkCases d expected = .error (.misplaced "TestC" "TestA" 1 (some 3)) := by
    decide
  obtain ⟨hrepair, hreached⟩ := repairs_reach_agreement
    [("TestC", some 3), ("TestA", none), ("BenchmarkB", some 9)] hdistinct
  obtain ⟨⟨-, hlater⟩, hnot, -⟩ := hrepair _ _ _ _ hmisplaced
  refine ⟨hdistinct, hperm, hmisplaced, hlater, hnot, fun lines => ?_⟩
  obtain ⟨n, hn, hok, -⟩ := hreached hperm lines
  exact ⟨n, hn, hok⟩

end ProfileSync
