/-
  What patterns match.

  * `Pattern.Leads`: from one place of a text a pattern leads to another, said without
    the order in which places are found and without a bound on repetitions;
  * `Pattern.times_min`: more repetitions than a text has characters lead nowhere else;
  * `Pattern.finds_run`: the places that are found from given ones are just those to which
    the pattern leads, so `Pattern.matchesText_iff`: a text matches if the pattern leads
    from any place of it to any other.
-/
import Mathlib.Tactic.Common
import ProfileSync.Pattern.Basic

namespace ProfileSync

/-! ## Places of a text -/

namespace TextPlace

variable {p q : TextPlace} {text : List Char}

/-- A place is one of a text. -/
def IsIn (p : TextPlace) (text : List Char) : Prop := p.before.reverse ++ p.after = text

theorem IsIn.textLength (h : p.IsIn text) : p.textLength = text.length := by
  rw [← h, TextPlace.textLength, List.length_append, List.length_reverse]

theorem IsIn.index_le (h : p.IsIn text) : p.index ≤ text.length := by
  rw [← h.textLength, TextPlace.textLength, index]
  omega

/-- A text has one place for each number of characters before it. -/
theorem IsIn.eq_of_index (hp : p.IsIn text) (hq : q.IsIn text) (h : p.index = q.index) : p = q := by
  have hparts := List.append_inj (hp.trans hq.symm) (by simpa [index] using h)
  cases p
  cases q
  cases List.reverse_inj.1 hparts.1
  cases hparts.2
  rfl

theorem mem_onward {before after : List Char} :
    p ∈ onward before after ↔ ∃ cs, p.before = cs.reverse ++ before ∧ after = cs ++ p.after := by
  induction after generalizing before with
  | nil =>
    rw [onward, List.mem_singleton]
    constructor
    · rintro rfl
      exact ⟨[], rfl, rfl⟩
    · rintro ⟨cs, hbefore, hafter⟩
      obtain ⟨rfl, hnil⟩ := List.append_eq_nil_iff.1 hafter.symm
      cases p
      cases hbefore
      cases hnil
      rfl
  | cons c after ih =>
    rw [onward, List.mem_cons, ih]
    constructor
    · rintro (rfl | ⟨cs, hbefore, hafter⟩)
      · exact ⟨[], rfl, rfl⟩
      · exact ⟨c :: cs, by simp [hbefore], by simp [hafter]⟩
    · rintro ⟨cs, hbefore, hafter⟩
      cases cs with
      | nil =>
        cases p
        cases hbefore
        cases hafter
        exact .inl rfl
      | cons d cs =>
        obtain ⟨rfl, htail⟩ := List.cons.inj hafter
        exact .inr ⟨cs, by simp [hbefore], htail⟩

theorem mem_all : p ∈ all text ↔ p.IsIn text := by
  rw [all, mem_onward, IsIn]
  constructor
  · rintro ⟨cs, hbefore, rfl⟩
    rw [hbefore, List.append_nil, List.reverse_reverse]
  · intro h
    exact ⟨p.before.reverse, by simp, h.symm⟩

theorem step?_eq_some_iff {a : CharClass} : p.step? a = some q ↔
    ∃ c, a.contains c = true ∧ p.after = c :: q.after ∧ q.before = c :: p.before := by
  obtain ⟨before, after⟩ := p
  cases after with
  | nil => simp [step?]
  | cons c after =>
    by_cases hc : a.contains c = true
    · simp only [step?, if_pos hc, Option.some.injEq]
      constructor
      · rintro rfl
        exact ⟨c, hc, rfl, rfl⟩
      · rintro ⟨d, -, hafter, hbefore⟩
        obtain ⟨rfl, rfl⟩ := List.cons.inj hafter
        rw [← hbefore]
    · simp only [step?, if_neg hc]
      constructor
      · intro h
        cases h
      · rintro ⟨d, hd, hafter, -⟩
        rw [(List.cons.inj hafter).1] at hc
        exact absurd hd hc

/-! ### Places in order, each once -/

theorem mem_of_mem_insert {x y : Nat × TextPlace} {ps : List (Nat × TextPlace)}
    (h : x ∈ insert y ps) : x = y ∨ x ∈ ps := by
  induction ps with
  | nil => exact .inl (List.mem_singleton.1 h)
  | cons z ps ih =>
    rw [insert] at h
    split_ifs at h
    · exact List.mem_cons.1 h
    · exact .inr h
    · rcases List.mem_cons.1 h with rfl | h
      · exact .inr (List.mem_cons_self ..)
      · exact (ih h).imp_right (List.mem_cons_of_mem z)

theorem subset_insert (y : Nat × TextPlace) (ps : List (Nat × TextPlace)) : ps ⊆ insert y ps := by
  induction ps with
  | nil => exact List.nil_subset _
  | cons z ps ih =>
    rw [insert]
    split_ifs
    · exact List.subset_cons_self ..
    · exact List.Subset.refl _
    · exact List.cons_subset_cons z ih

theorem exists_mem_insert (y : Nat × TextPlace) (ps : List (Nat × TextPlace)) :
    ∃ x ∈ insert y ps, x.1 = y.1 := by
  induction ps with
  | nil => exact ⟨y, List.mem_singleton_self y, rfl⟩
  | cons z ps ih =>
    rw [insert]
    split_ifs with hlt heq
    · exact ⟨y, List.mem_cons_self .., rfl⟩
    · exact ⟨z, List.mem_cons_self .., heq.symm⟩
    · exact ih.imp fun x hx => ⟨List.mem_cons_of_mem z hx.1, hx.2⟩

theorem mem_distinct {ps : List TextPlace} (h : ∀ p ∈ ps, p.IsIn text) :
    q ∈ distinct ps ↔ q ∈ ps := by
  have hkept : ∀ x ∈ (ps.map fun p => (p.index, p)).foldr insert [],
      x.2 ∈ ps ∧ x.1 = x.2.index := by
    clear h
    induction ps with
    | nil => simp
    | cons p ps ih =>
      intro x hx
      rcases mem_of_mem_insert hx with rfl | hx
      · exact ⟨List.mem_cons_self .., rfl⟩
      · exact (ih x hx).imp_left (List.mem_cons_of_mem p)
  have hfound : ∀ p ∈ ps, ∃ x ∈ (ps.map fun p => (p.index, p)).foldr insert [], x.1 = p.index := by
    clear h hkept
    induction ps with
    | nil => simp
    | cons p ps ih =>
      intro r hr
      rcases List.mem_cons.1 hr with rfl | hr
      · exact exists_mem_insert _ _
      · exact (ih r hr).imp fun x hx => ⟨subset_insert _ _ hx.1, hx.2⟩
  rw [distinct, List.mem_map]
  constructor
  · rintro ⟨x, hx, rfl⟩
    exact (hkept x hx).1
  · intro hq
    obtain ⟨x, hx, hindex⟩ := hfound q hq
    obtain ⟨hmem, hx2⟩ := hkept x hx
    exact ⟨x, hx, (h _ hmem).eq_of_index (h q hq) (hx2.symm.trans hindex)⟩

/-- Lists with the same indices hold the same places. -/
theorem subset_of_map_index {ps qs : List TextPlace} (hps : ∀ p ∈ ps, p.IsIn text)
    (hqs : ∀ q ∈ qs, q.IsIn text) (h : qs.map (·.index) = ps.map (·.index)) : qs ⊆ ps := by
  intro q hq
  have hmem : q.index ∈ ps.map (·.index) := by
    rw [← h]
    exact List.mem_map_of_mem hq
  obtain ⟨p, hp, hindex⟩ := List.mem_map.1 hmem
  rwa [← (hps p hp).eq_of_index (hqs q hq) hindex]

end TextPlace

namespace Pattern

/-! ## Where a pattern leads -/

/-- Steps of a relation, `n` of them, lead from one place to another. -/
def Times (R : TextPlace → TextPlace → Prop) : Nat → TextPlace → TextPlace → Prop
  | 0, p, q => p = q
  | n + 1, p, q => ∃ r, R p r ∧ Times R n r q

/-- From a place a pattern leads to another. -/
def Leads : Pattern → TextPlace → TextPlace → Prop
  | empty, p, q => p = q
  | char a, p, q => p.step? a = some q
  | look l, p, q => p = q ∧ l.holds p = true
  | seq a b, p, q => ∃ r, a.Leads p r ∧ b.Leads r q
  | alt a b, p, q => a.Leads p q ∨ b.Leads p q
  | rep a least most, p, q =>
    ∃ extra, (∀ m, most = some m → extra ≤ m - least) ∧ Times a.Leads (least + extra) p q

/-- A relation goes on in a text: its steps stay in the text and do not go back. -/
structure GoesOn (R : TextPlace → TextPlace → Prop) (text : List Char) : Prop where
  isIn : ∀ {p q}, R p q → p.IsIn text → q.IsIn text
  index_le : ∀ {p q}, R p q → p.index ≤ q.index

section
variable {R : TextPlace → TextPlace → Prop} {text : List Char} {m n : Nat} {p q : TextPlace}

theorem times_add : Times R (m + n) p q ↔ ∃ r, Times R m p r ∧ Times R n r q := by
  induction m generalizing p with
  | zero => simp [Times]
  | succ m ih =>
    rw [Nat.add_right_comm]
    simp only [Times, ih]
    constructor
    · rintro ⟨r, hr, r', hm, hn⟩
      exact ⟨r', ⟨r, hr, hm⟩, hn⟩
    · rintro ⟨r', ⟨r, hr, hm⟩, hn⟩
      exact ⟨r, hr, r', hm, hn⟩

theorem GoesOn.times (h : GoesOn R text) (n : Nat) : GoesOn (Times R n) text := by
  induction n with
  | zero => exact ⟨fun heq hp => heq ▸ hp, fun heq => heq ▸ Nat.le_refl _⟩
  | succ n ih =>
    refine ⟨?_, ?_⟩
    · rintro p q ⟨r, hr, hn⟩ hp
      exact ih.isIn hn (h.isIn hr hp)
    · rintro p q ⟨r, hr, hn⟩
      exact Nat.le_trans (h.index_le hr) (ih.index_le hn)

/-- Of more steps than characters are passed one stays where it is. -/
theorem GoesOn.exists_stay (h : GoesOn R text) (hp : p.IsIn text) (hn : Times R n p q)
    (hlt : q.index < p.index + n) :
    ∃ i j r, i + j + 1 = n ∧ Times R i p r ∧ R r r ∧ Times R j r q := by
  induction n generalizing p with
  | zero =>
    cases hn
    omega
  | succ n ih =>
    obtain ⟨r, hr, hn⟩ := hn
    rcases Nat.lt_or_eq_of_le (h.index_le hr) with hpast | hsame
    · obtain ⟨i, j, s, rfl, hi, hs, hj⟩ := ih (h.isIn hr hp) hn (by omega)
      exact ⟨i + 1, j, s, by omega, ⟨r, hr, hi⟩, hs, hj⟩
    · have heq := hp.eq_of_index (h.isIn hr hp) hsame
      subst heq
      exact ⟨0, n, p, by omega, rfl, hr, hn⟩

/-- From there on one step more or less leads to the same places. -/
theorem GoesOn.times_succ_iff (h : GoesOn R text) (hp : p.IsIn text) (hn : text.length < n) :
    Times R (n + 1) p q ↔ Times R n p q := by
  have hstay : ∀ {k}, text.length < k → Times R k p q →
      ∃ i j r, i + j + 1 = k ∧ Times R i p r ∧ R r r ∧ Times R j r q := by
    intro k hk hsteps
    have hq := ((h.times k).isIn hsteps hp).index_le
    exact h.exists_stay hp hsteps (by omega)
  constructor
  · intro hsteps
    obtain ⟨i, j, r, hk, hi, -, hj⟩ := hstay (by omega) hsteps
    obtain rfl : i + j = n := by omega
    exact times_add.2 ⟨r, hi, hj⟩
  · intro hsteps
    obtain ⟨i, j, r, rfl, hi, hr, hj⟩ := hstay hn hsteps
    have hsplit : i + j + 1 + 1 = i + (j + 2) := by omega
    rw [hsplit]
    exact times_add.2 ⟨r, hi, r, hr, r, hr, hj⟩

/-- **More steps than a text has characters** lead nowhere else. -/
theorem GoesOn.times_min (h : GoesOn R text) (hp : p.IsIn text) (n : Nat) :
    Times R (min n (text.length + 2)) p q ↔ Times R n p q := by
  induction n with
  | zero => rw [Nat.zero_min]
  | succ n ih =>
    by_cases hn : n + 1 ≤ text.length + 2
    · rw [Nat.min_eq_left hn]
    · rw [h.times_succ_iff hp (by omega), ← ih, Nat.min_eq_right (by omega),
        Nat.min_eq_right (by omega)]

/-- From places that a relation leads just to themselves no number of steps leads
    elsewhere. -/
theorem exists_times_iff_of_stable {ps : List TextPlace}
    (h : ∀ {r}, r ∈ ps ↔ ∃ p ∈ ps, R p r) (n : Nat) : (∃ p ∈ ps, Times R n p q) ↔ q ∈ ps := by
  induction n with
  | zero => simp [Times]
  | succ n ih =>
    rw [← ih]
    constructor
    · rintro ⟨p, hp, r, hr, hn⟩
      exact ⟨r, h.2 ⟨p, hp, hr⟩, hn⟩
    · rintro ⟨r, hr, hn⟩
      obtain ⟨p, hp, hpr⟩ := h.1 hr
      exact ⟨p, hp, r, hpr, hn⟩

/-- A relation that may also stay goes on as well. -/
theorem GoesOn.orStay (h : GoesOn R text) : GoesOn (fun p q => p = q ∨ R p q) text := by
  refine ⟨?_, ?_⟩
  · rintro p q (rfl | hr) hp
    · exact hp
    · exact h.isIn hr hp
  · rintro p q (rfl | hr)
    · exact Nat.le_refl _
    · exact h.index_le hr

/-- As many steps as wanted are those of a relation that may also stay. -/
theorem times_or_stay : Times (fun p q => p = q ∨ R p q) n p q ↔ ∃ k ≤ n, Times R k p q := by
  induction n generalizing p with
  | zero => simp [Times]
  | succ n ih =>
    simp only [Times, ih]
    constructor
    · rintro ⟨r, rfl | hr, k, hk, hsteps⟩
      · exact ⟨k, by omega, hsteps⟩
      · exact ⟨k + 1, by omega, r, hr, hsteps⟩
    · rintro ⟨k, hk, hsteps⟩
      cases k with
      | zero => exact ⟨p, .inl rfl, 0, by omega, hsteps⟩
      | succ k =>
        obtain ⟨r, hr, hsteps⟩ := hsteps
        exact ⟨r, .inr hr, k, by omega, hsteps⟩

end

theorem goesOn_leads (a : Pattern) (text : List Char) : GoesOn a.Leads text := by
  induction a with
  | empty => exact ⟨fun heq hp => heq ▸ hp, fun heq => heq ▸ Nat.le_refl _⟩
  | char a =>
    refine ⟨?_, ?_⟩
    · intro p q h hp
      obtain ⟨c, -, hafter, hbefore⟩ := TextPlace.step?_eq_some_iff.1 h
      rw [← hp, TextPlace.IsIn, hafter, hbefore]
      simp
    · intro p q h
      obtain ⟨c, -, -, hbefore⟩ := TextPlace.step?_eq_some_iff.1 h
      simp [TextPlace.index, hbefore]
  | look l => exact ⟨fun h hp => h.1 ▸ hp, fun h => h.1 ▸ Nat.le_refl _⟩
  | seq a b iha ihb =>
    refine ⟨?_, ?_⟩
    · rintro p q ⟨r, ha, hb⟩ hp
      exact ihb.isIn hb (iha.isIn ha hp)
    · rintro p q ⟨r, ha, hb⟩
      exact Nat.le_trans (iha.index_le ha) (ihb.index_le hb)
  | alt a b iha ihb =>
    refine ⟨?_, ?_⟩
    · rintro p q (ha | hb) hp
      · exact iha.isIn ha hp
      · exact ihb.isIn hb hp
    · rintro p q (ha | hb)
      · exact iha.index_le ha
      · exact ihb.index_le hb
  | rep a least most ih =>
    refine ⟨?_, ?_⟩
    · rintro p q ⟨extra, -, hsteps⟩ hp
      exact (ih.times _).isIn hsteps hp
    · rintro p q ⟨extra, -, hsteps⟩
      exact (ih.times _).index_le hsteps

/-! ## The places that are found -/

section
variable {text : List Char} {ps : List TextPlace} {q : TextPlace}

/-- A way to go on from places finds those to which a relation leads. -/
def Finds (f : List TextPlace → List TextPlace) (R : TextPlace → TextPlace → Prop)
    (text : List Char) : Prop :=
  ∀ ⦃ps q⦄, (∀ p ∈ ps, p.IsIn text) → (q ∈ f ps ↔ ∃ p ∈ ps, R p q)

theorem Finds.isIn {f : List TextPlace → List TextPlace} {R : TextPlace → TextPlace → Prop}
    (h : Finds f R text) (hR : GoesOn R text) (hps : ∀ p ∈ ps, p.IsIn text) :
    ∀ q ∈ f ps, q.IsIn text := by
  intro q hq
  obtain ⟨p, hp, hpq⟩ := (h hps).1 hq
  exact hR.isIn hpq (hps p hp)

/-- **Rounds** find the places to which as many steps lead; a round that finds the
    places from which it began can be the last. -/
theorem finds_rounds {f : List TextPlace → List TextPlace} {R : TextPlace → TextPlace → Prop}
    (h : Finds f R text) (hR : GoesOn R text) (n : Nat) : Finds (rounds f n) (Times R n) text := by
  induction n with
  | zero => simp [Finds, rounds, Times]
  | succ n ih =>
    intro ps q hps
    have hfound : ∀ {r}, r ∈ TextPlace.distinct (f ps) ↔ ∃ p ∈ ps, R p r := by
      intro r
      rw [TextPlace.mem_distinct (h.isIn hR hps), h hps]
    have hin : ∀ r ∈ TextPlace.distinct (f ps), r.IsIn text := by
      intro r hr
      obtain ⟨p, hp, hpr⟩ := hfound.1 hr
      exact hR.isIn hpr (hps p hp)
    simp only [rounds]
    split
    · rename_i hsame
      have hindex := eq_of_beq hsame
      have hstable : ∀ {r}, r ∈ ps ↔ ∃ p ∈ ps, R p r := by
        intro r
        rw [← hfound]
        exact ⟨fun hr => TextPlace.subset_of_map_index hin hps hindex.symm hr,
          fun hr => TextPlace.subset_of_map_index hps hin hindex hr⟩
      exact (exists_times_iff_of_stable hstable (n + 1)).symm
    · rw [ih hin]
      constructor
      · rintro ⟨r, hr, hsteps⟩
        obtain ⟨p, hp, hpr⟩ := hfound.1 hr
        exact ⟨p, hp, r, hpr, hsteps⟩
      · rintro ⟨p, hp, r, hpr, hsteps⟩
        exact ⟨r, hfound.2 ⟨p, hp, hpr⟩, hsteps⟩

theorem Finds.orStay {f : List TextPlace → List TextPlace} {R : TextPlace → TextPlace → Prop}
    (h : Finds f R text) : Finds (fun qs => qs ++ f qs) (fun p q => p = q ∨ R p q) text := by
  intro qs r hqs
  rw [List.mem_append, h hqs]
  simp only [and_or_left, exists_or, exists_eq_right]

/-- After the least number of rounds there are so many more that any number of further
    steps that is of use is tried, if it is not too large. -/
theorem exists_run_rep_eq (a : Pattern) (least : Nat) (most : Option Nat) {first : TextPlace}
    (rest : List TextPlace) (hfirst : first.IsIn text) :
    ∃ extra, run (rep a least most) (first :: rest) = rounds (fun qs => qs ++ run a qs) extra
        (rounds (run a) (min least (text.length + 2)) (first :: rest)) ∧
      (∀ k ≤ extra, ∀ m, most = some m → k ≤ m - least) ∧
      ∀ k, (∀ m, most = some m → k ≤ m - least) → min k (text.length + 2) ≤ extra := by
  have henough : roundsFor (first :: rest) = text.length + 2 := by
    rw [roundsFor, hfirst.textLength]
  simp only [run, henough]
  cases most with
  | none => exact ⟨_, rfl, by simp, fun k _ => Nat.min_le_right _ _⟩
  | some m =>
    refine ⟨_, rfl, ?_, ?_⟩
    · rintro k hk _ ⟨⟩
      exact Nat.le_trans hk (Nat.min_le_left _ _)
    · intro k hk
      exact Nat.le_min.2
        ⟨Nat.le_trans (Nat.min_le_left _ _) (hk m rfl), Nat.min_le_right _ _⟩

/-- A repetition finds the places to which its steps lead, the least number of them and
    then as many more as there may be. -/
theorem finds_rep {a : Pattern} (h : Finds a.run a.Leads text) (least : Nat) (most : Option Nat) :
    Finds (run (rep a least most)) (rep a least most).Leads text := by
  intro ps q hps
  cases ps with
  | nil => cases most <;> simp [run, roundsFor, rounds]
  | cons first rest =>
    have hgoes := goesOn_leads a text
    have hleast := finds_rounds h hgoes (min least (text.length + 2))
    obtain ⟨extra, hrun, hbound, hreach⟩ :=
      exists_run_rep_eq a least most rest (hps first (List.mem_cons_self ..))
    generalize first :: rest = start at hps hrun
    rw [hrun, finds_rounds h.orStay hgoes.orStay extra (hleast.isIn (hgoes.times _) hps)]
    simp only [hleast hps, times_or_stay, Leads]
    constructor
    · rintro ⟨r, ⟨p, hp, hfirst⟩, k, hk, hsteps⟩
      exact ⟨p, hp, k, hbound k hk,
        times_add.2 ⟨r, (hgoes.times_min (hps p hp) least).1 hfirst, hsteps⟩⟩
    · rintro ⟨p, hp, e, he, hsteps⟩
      obtain ⟨r, hfirst, hsteps⟩ := times_add.1 hsteps
      have hr := (hgoes.times least).isIn hfirst (hps p hp)
      exact ⟨r, ⟨p, hp, (hgoes.times_min (hps p hp) least).2 hfirst⟩, _, hreach e he,
        (hgoes.times_min hr e).2 hsteps⟩

/-- **The places that are found** from given ones are those to which the pattern
    leads. -/
theorem finds_run (a : Pattern) (text : List Char) : Finds a.run a.Leads text := by
  induction a with
  | empty => simp [Finds, run, Leads]
  | char a => simp [Finds, run, Leads]
  | look l =>
    intro ps q hps
    simp only [run, Leads, List.mem_filter]
    constructor
    · rintro ⟨hq, hholds⟩
      exact ⟨q, hq, rfl, hholds⟩
    · rintro ⟨p, hp, rfl, hholds⟩
      exact ⟨hp, hholds⟩
  | seq a b iha ihb =>
    intro ps q hps
    rw [run, ihb (iha.isIn (goesOn_leads a text) hps)]
    simp only [iha hps, Leads]
    constructor
    · rintro ⟨r, ⟨p, hp, ha⟩, hb⟩
      exact ⟨p, hp, r, ha, hb⟩
    · rintro ⟨p, hp, r, ha, hb⟩
      exact ⟨r, ⟨p, hp, ha⟩, hb⟩
  | alt a b iha ihb =>
    intro ps q hps
    have hin : ∀ r ∈ run a ps ++ run b ps, r.IsIn text := by
      intro r hr
      rcases List.mem_append.1 hr with hr | hr
      · exact iha.isIn (goesOn_leads a text) hps r hr
      · exact ihb.isIn (goesOn_leads b text) hps r hr
    rw [run, TextPlace.mem_distinct hin, List.mem_append, iha hps, ihb hps]
    simp only [Leads, and_or_left, exists_or]
  | rep a least most ih => exact finds_rep ih least most

end

/-- **A text matches** if the pattern leads from some place of it to another. -/
theorem matchesText_iff {a : Pattern} {text : List Char} :
    a.matchesText text = true ↔ ∃ p q : TextPlace, p.IsIn text ∧ a.Leads p q := by
  have hfound := fun q => @finds_run a text _ q fun p hp => TextPlace.mem_all.1 hp
  rw [matchesText, Bool.not_eq_true', List.isEmpty_eq_false_iff_exists_mem, exists_comm]
  simp only [hfound, TextPlace.mem_all]

end Pattern

end ProfileSync
