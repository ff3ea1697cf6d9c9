/-
  What readers read.

  * `Grammar.Reads`: a reader reads a value from a scan and leaves another scan;
  * `Grammar.Reads.suffix`: the tokens that are left are the last ones;
  * `Grammar.reads_bind`, `Grammar.reads_group` and the like: what is read by
    readers that are put together, and by those for a word or a group.
-/
import ProfileSync.Source.Grammar.Item

namespace ProfileSync.Grammar

variable {α β : Type} {rules : Rule → Reader Piece} {s s' : Scan}

/-- A reader reads `a` from a scan and leaves another one. -/
def Reads (rules : Rule → Reader Piece) (p : Grammar α) (s : Scan) (a : α) (s' : Scan) : Prop :=
  ∃ r, p rules s = some r ∧ r.value = a ∧ r.scan = s'

/-- **Nothing is put in front** of the tokens that are left. -/
theorem Reads.suffix {p : Grammar α} {a : α} (h : Reads rules p s a s') :
    s'.tokens <:+ s.tokens := by
  obtain ⟨r, -, -, rfl⟩ := h
  exact r.suffix

/-! ## Readers that are put together -/

theorem reads_pure {a b : α} : Reads rules (Pure.pure a) s b s' ↔ b = a ∧ s' = s := by
  constructor
  · rintro ⟨r, hr, rfl, rfl⟩
    cases hr
    exact ⟨rfl, rfl⟩
  · rintro ⟨rfl, rfl⟩
    exact ⟨_, rfl, rfl, rfl⟩

theorem reads_bind {p : Grammar α} {f : α → Grammar β} {b : β} :
    Reads rules (p >>= f) s b s' ↔ ∃ a s₁, Reads rules p s a s₁ ∧ Reads rules (f a) s₁ b s' := by
  constructor
  · rintro ⟨r, hr, rfl, rfl⟩
    change bind p f rules s = some r at hr
    unfold bind at hr
    split at hr
    · cases hr
    · rename_i r₁ hp
      split at hr
      · cases hr
      · rename_i r₂ hf
        cases hr
        exact ⟨r₁.value, r₁.scan, ⟨r₁, hp, rfl, rfl⟩, ⟨r₂, hf, rfl, rfl⟩⟩
  · rintro ⟨a, s₁, ⟨r₁, hp, rfl, rfl⟩, ⟨r₂, hf, rfl, rfl⟩⟩
    refine ⟨⟨r₂.value, r₂.scan, r₂.suffix.trans r₁.suffix⟩, ?_, rfl, rfl⟩
    change bind p f rules s = _
    simp only [bind, hp, hf]

theorem Reads.of_ite {c : Prop} [Decidable c] {p q : Grammar α} {a : α}
    (h : Reads rules (if c then p else q) s a s') : Reads rules p s a s' ∨ Reads rules q s a s' := by
  split at h
  · exact .inl h
  · exact .inr h

theorem not_reads_failure {a : α} : ¬ Reads rules failure s a s' := by
  rintro ⟨r, hr, -⟩
  cases hr

theorem reads_tokens {ts : List Token} :
    Reads rules tokens s ts s' ↔ ts = s.tokens ∧ s' = s := by
  constructor
  · rintro ⟨r, hr, rfl, rfl⟩
    cases hr
    exact ⟨rfl, rfl⟩
  · rintro ⟨rfl, rfl⟩
    exact ⟨_, rfl, rfl, rfl⟩

theorem reads_sees {p : List Token → Bool} {b : Bool} :
    Reads rules (sees p) s b s' ↔ b = p s.tokens ∧ s' = s := by
  rw [sees, reads_bind]
  constructor
  · rintro ⟨ts, s₁, hts, hb⟩
    obtain ⟨rfl, rfl⟩ := reads_tokens.1 hts
    exact reads_pure.1 hb
  · intro hb
    exact ⟨_, _, reads_tokens.2 ⟨rfl, rfl⟩, reads_pure.2 hb⟩

theorem reads_advance {n : Nat} {u : Unit} :
    Reads rules (advance n) s u s' ↔ s' = { s with tokens := s.tokens.drop n } := by
  constructor
  · rintro ⟨r, hr, rfl, rfl⟩
    cases hr
    rfl
  · rintro rfl
    exact ⟨_, rfl, rfl, rfl⟩

theorem reads_meet {items : List Item} {u : Unit} :
    Reads rules (meet items) s u s' ↔ s' = { s with met := items.reverse ++ s.met } := by
  constructor
  · rintro ⟨r, hr, rfl, rfl⟩
    cases hr
    rfl
  · rintro rfl
    exact ⟨_, rfl, rfl, rfl⟩

theorem reads_itemsOf {p : Grammar α} {a : α} {items : List Item} :
    Reads rules (itemsOf p) s (a, items) s' ↔ ∃ s₁, Reads rules p { s with met := [] } a s₁ ∧
      items = s₁.met.reverse ∧ s' = { s₁ with met := s.met } := by
  constructor
  · rintro ⟨r, hr, hvalue, rfl⟩
    unfold itemsOf at hr
    split at hr
    · rename_i r₁ hp
      cases hr
      cases hvalue
      exact ⟨r₁.scan, ⟨r₁, hp, rfl, rfl⟩, rfl, rfl⟩
    · cases hr
  · rintro ⟨s₁, ⟨r₁, hp, rfl, rfl⟩, rfl, rfl⟩
    exact ⟨⟨(r₁.value, r₁.scan.met.reverse), { r₁.scan with met := s.met }, r₁.suffix⟩,
      by simp only [itemsOf, hp], rfl, rfl⟩

theorem reads_hidden {p : Grammar α} {a : α} :
    Reads rules (hidden p) s a s' ↔ ∃ s₁, Reads rules p { s with met := [] } a s₁ ∧
      s' = { s₁ with met := s.met } := by
  rw [hidden, reads_bind]
  constructor
  · rintro ⟨⟨b, items⟩, s₁, hb, ha⟩
    obtain ⟨rfl, rfl⟩ := reads_pure.1 ha
    obtain ⟨s₂, hb, -, hs⟩ := reads_itemsOf.1 hb
    exact ⟨s₂, hb, hs⟩
  · rintro ⟨s₁, ha, rfl⟩
    exact ⟨_, _, reads_itemsOf.2 ⟨s₁, ha, rfl, rfl⟩, reads_pure.2 ⟨rfl, rfl⟩⟩

/-! ## Words and groups -/

theorem atWord_iff {w : String} {ts : List Token} :
    atWord w ts = true ↔ ∃ line rest, ts = .word w line :: rest := by
  constructor
  · intro h
    unfold atWord at h
    split at h
    · rename_i text line rest
      exact ⟨line, rest, by rw [eq_of_beq h]⟩
    · cases h
  · rintro ⟨line, rest, rfl⟩
    simp [atWord]

theorem atName_iff {ts : List Token} : atName ts = true ↔
    ∃ text line rest, ts = .word text line :: rest ∧ keywords.contains text = false := by
  constructor
  · intro h
    unfold atName at h
    split at h
    · rename_i text line rest
      exact ⟨text, line, rest, rfl, by simpa using h⟩
    · cases h
  · rintro ⟨text, line, rest, rfl, h⟩
    simpa [atName] using h

theorem reads_expect {p : List Token → Bool} {u : Unit} :
    Reads rules (expect p) s u s' ↔ p s.tokens = true ∧ s' = s := by
  rw [expect, reads_bind]
  constructor
  · rintro ⟨b, s₁, hb, hu⟩
    obtain ⟨rfl, rfl⟩ := reads_sees.1 hb
    split at hu
    · rename_i hp
      exact ⟨hp, (reads_pure.1 hu).2⟩
    · exact absurd hu not_reads_failure
  · rintro ⟨hp, rfl⟩
    exact ⟨_, _, reads_sees.2 ⟨rfl, rfl⟩, by rw [if_pos hp]; exact reads_pure.2 ⟨rfl, rfl⟩⟩

/-- A word is the first of the tokens. -/
theorem Reads.word {w : String} {u : Unit} (h : Reads rules (word w) s u s') :
    ∃ line, s.tokens = .word w line :: s'.tokens ∧ s'.met = s.met := by
  rw [Grammar.word, reads_bind] at h
  obtain ⟨_, s₁, hexpect, hadvance⟩ := h
  obtain ⟨hword, rfl⟩ := reads_expect.1 hexpect
  obtain ⟨line, rest, hts⟩ := atWord_iff.1 hword
  rw [reads_advance.1 hadvance, hts]
  exact ⟨line, rfl, rfl⟩

/-- A name is the first of the tokens. -/
theorem Reads.name {u : Unit} (h : Reads rules name s u s') :
    ∃ text line, s.tokens = .word text line :: s'.tokens ∧ s'.met = s.met := by
  rw [Grammar.name, reads_bind] at h
  obtain ⟨_, s₁, hexpect, hadvance⟩ := h
  obtain ⟨hname, rfl⟩ := reads_expect.1 hexpect
  obtain ⟨text, line, rest, hts, -⟩ := atName_iff.1 hname
  rw [reads_advance.1 hadvance, hts]
  exact ⟨text, line, rfl, rfl⟩

/-- A word that may be left out is the first of the tokens, or it is left out. -/
theorem Reads.optionalWord {w : String} {b : Bool} (h : Reads rules (optionalWord w) s b s') :
    (b = true ∧ ∃ line, s.tokens = .word w line :: s'.tokens ∧ s'.met = s.met) ∨
      (b = false ∧ s' = s) := by
  rw [Grammar.optionalWord, reads_bind] at h
  obtain ⟨seen, s₁, hseen, h⟩ := h
  obtain ⟨rfl, rfl⟩ := reads_sees.1 hseen
  split at h
  · rename_i hword
    obtain ⟨_, s₂, hadvance, hb⟩ := reads_bind.1 h
    obtain ⟨rfl, rfl⟩ := reads_pure.1 hb
    obtain ⟨line, rest, hts⟩ := atWord_iff.1 hword
    rw [reads_advance.1 hadvance, hts]
    exact .inl ⟨rfl, line, rfl, rfl⟩
  · exact .inr (reads_pure.1 h)

/-- Either way a word is the first of the tokens. -/
theorem Reads.nameOr {w : String} {u : Unit} (h : Reads rules (nameOr w) s u s') :
    ∃ text line, s.tokens = .word text line :: s'.tokens ∧ s'.met = s.met := by
  rw [Grammar.nameOr, reads_bind] at h
  obtain ⟨b, s₁, hword, h⟩ := h
  rcases hword.optionalWord with ⟨rfl, line, hts, hmet⟩ | ⟨rfl, rfl⟩
  · rw [if_pos rfl] at h
    rw [(reads_pure.1 h).2]
    exact ⟨w, line, hts, hmet⟩
  · rw [if_neg Bool.false_ne_true] at h
    exact h.name

/-- Marks that do not come next are left out. -/
theorem Reads.optionalMarks_false {m : String} (h : Reads rules (optionalMarks m) s false s') :
    s' = s := by
  rw [optionalMarks, reads_bind] at h
  obtain ⟨seen, s₁, hseen, h⟩ := h
  obtain ⟨rfl, rfl⟩ := reads_sees.1 hseen
  split at h
  · obtain ⟨_, s₂, -, hb⟩ := reads_bind.1 h
    exact absurd (reads_pure.1 hb).1 (by simp)
  · exact (reads_pure.1 h).2

/-- A group is the first of the tokens, and all that is in it is read. -/
theorem Reads.group {d : Delimiter} {p : Grammar α} {a : α} (h : Reads rules (group d p) s a s') :
    ∃ content s₁, s.tokens = .group d content :: s'.tokens ∧
      Reads rules p { s with tokens := content } a s₁ ∧ s₁.tokens = [] ∧ s'.met = s₁.met := by
  obtain ⟨r, hr, rfl, rfl⟩ := h
  unfold Grammar.group at hr
  split at hr
  · rename_i d' content rest hts
    split at hr
    · cases hr
    · rename_i hsame
      have hd : d = d' := by
        revert hsame
        cases d <;> cases d' <;> decide
      subst hd
      split at hr
      · rename_i r₁ hp
        split at hr
        · rename_i hempty
          cases hr
          exact ⟨content, r₁.scan, hts, ⟨r₁, hp, rfl, rfl⟩, List.isEmpty_iff.1 hempty, rfl⟩
        · cases hr
      · cases hr
  · cases hr

/-! ## Repetition -/

/-- What one reading adds, several readings add one after the other. -/
theorem Reads.repeatUpTo {p : Grammar α} {more : List Token → Bool} {as : List α} {n : Nat}
    (Adds : Item → List Token → Prop)
    (hsuffix : ∀ {i ts ts'}, ts' <:+ ts → Adds i ts' → Adds i ts)
    (hp : ∀ s a s', Reads rules p s a s' → ∃ i, s'.met = i :: s.met ∧ Adds i s.tokens)
    (h : Reads rules (repeatUpTo more p n) s as s') :
    ∃ items, s'.met = items ++ s.met ∧ ∀ i ∈ items, Adds i s.tokens := by
  induction n generalizing s s' as with
  | zero =>
    rw [(reads_pure.1 h).2]
    exact ⟨[], rfl, by simp⟩
  | succ n ih =>
    rw [Grammar.repeatUpTo, reads_bind] at h
    obtain ⟨seen, s₁, hseen, h⟩ := h
    obtain ⟨-, rfl⟩ := reads_sees.1 hseen
    split at h
    · obtain ⟨a, s₁, ha, h⟩ := reads_bind.1 h
      obtain ⟨as', s₂, has, h⟩ := reads_bind.1 h
      rw [(reads_pure.1 h).2]
      obtain ⟨i, hmet, hi⟩ := hp _ _ _ ha
      obtain ⟨items, hmet', hitems⟩ := ih has
      refine ⟨items ++ [i], by rw [hmet', hmet]; simp, fun j hj => ?_⟩
      rcases List.mem_append.1 hj with hj | hj
      · exact hsuffix ha.suffix (hitems j hj)
      · rw [List.mem_singleton.1 hj]
        exact hi
    · rw [(reads_pure.1 h).2]
      exact ⟨[], rfl, by simp⟩

end ProfileSync.Grammar
