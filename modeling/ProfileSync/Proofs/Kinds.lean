/-
  The texts that are read as kinds.

  * `Unicode.lowerOf_eq_iff`: the characters that have a given letter of ASCII as
    their lower case are that letter in either case and, for a `k`, the Kelvin sign;
  * `Unicode.lowercase_eq_iff`: a text has a word of ASCII letters as its lower case
    just if its characters have the letters of the word as theirs, one by one;
  * `CaseKind.read_language`: so a kind is nothing but one of two words with its
    letters in either case, the last of `benchmark` perhaps a Kelvin sign.
-/
import Mathlib.Data.List.Forall2
import Mathlib.Tactic.Common
import ProfileSync.Proofs.Flattening
import ProfileSync.Text.Blank

namespace ProfileSync

namespace Unicode

/-! ## Lower case of single characters -/

/-- A property of all characters of ASCII, checked one by one. -/
theorem forall_ascii {P : Char → Prop} (h : ∀ n < 0x80, P (Char.ofNat n)) {c : Char}
    (hc : c.toNat < 0x80) : P c := by
  have hn := h c.toNat hc
  rwa [Char.ofNat_toNat] at hn

theorem isLower_iff {c : Char} : c.isLower = true ↔ 0x61 ≤ c.toNat ∧ c.toNat ≤ 0x7a := by
  unfold Char.isLower
  simp [UInt32.le_iff_toNat_le, ← Char.toNat_val]

theorem toNat_lt_of_isLower {c : Char} (h : c.isLower = true) : c.toNat < 0x80 := by
  have hletter := isLower_iff.1 h
  omega

/-- A number is the code of its character, unless no character has it as its code. -/
theorem toNat_ofNat_cases (n : Nat) : (Char.ofNat n).toNat = n ∨ (Char.ofNat n).toNat = 0 := by
  unfold Char.ofNat
  by_cases h : n.isValidChar
  · rw [dif_pos h]
    exact .inl rfl
  · rw [dif_neg h]
    exact .inr rfl

/-- Of the characters beyond ASCII only the Kelvin sign is mapped into ASCII. -/
theorem le_mapCode {n : Nat} (hn : 0x80 ≤ n) (hkelvin : n ≠ 0x212a) :
    0x80 ≤ mapCode loweringRanges n := by
  have htable : ∀ r ∈ loweringRanges,
      0x80 ≤ r.first + r.offset ∨ (r.first = 0x212a ∧ r.last = 0x212a) := by decide +kernel
  unfold mapCode
  split
  · rename_i r hfound
    have hcontains := List.find?_some hfound
    simp only [CaseRange.contains, Bool.and_eq_true, decide_eq_true_eq] at hcontains
    rcases htable r (List.mem_of_find?_eq_some hfound) with h | h <;> omega
  · exact hn

theorem lowerOf_ascii {c : Char} (h : c.toNat < 0x80) : lowerOf c = [c.toLower] := if_pos h

/-- A character that is no letter of ASCII stays none, the Kelvin sign apart. -/
theorem not_isLower_lowerOf {c d : Char} (hc : 0x80 ≤ c.toNat) (hkelvin : c ≠ '\u212a')
    (h : lowerOf c = [d]) : d.isLower = false := by
  rw [lowerOf, if_neg (by omega)] at h
  split at h
  · cases h
  · rw [← List.singleton_inj.1 h]
    have hcode : c.toNat ≠ 0x212a := fun heq => hkelvin (Char.toNat_inj.1 heq)
    have hle := le_mapCode hc hcode
    by_contra hletter
    rw [Bool.not_eq_false, isLower_iff] at hletter
    rcases toNat_ofNat_cases (mapCode loweringRanges c.toNat) with heq | heq <;> omega

/-- **A letter of ASCII is the lower case** of the letter in either case, and a `k`
    that of the Kelvin sign as well. -/
theorem lowerOf_eq_iff {c w : Char} (hw : w.isLower = true) :
    lowerOf c = [w] ↔ c = w ∨ c = w.toUpper ∨ (c = '\u212a' ∧ w = 'k') := by
  constructor
  · intro h
    by_cases hc : c.toNat < 0x80
    · rw [lowerOf_ascii hc, List.singleton_inj] at h
      subst h
      have hletter : c = c.toLower ∨ c = c.toLower.toUpper :=
        forall_ascii (P := fun c => c.toLower.isLower = true → c = c.toLower ∨ c = c.toLower.toUpper)
          (by decide) hc hw
      exact hletter.imp_right .inl
    · by_cases hkelvin : c = '\u212a'
      · subst hkelvin
        have hk : lowerOf '\u212a' = ['k'] := by decide
        rw [hk, List.singleton_inj] at h
        exact .inr (.inr ⟨rfl, h.symm⟩)
      · exact absurd hw (by simp [not_isLower_lowerOf (by omega) hkelvin h])
  · rintro (rfl | rfl | ⟨rfl, rfl⟩)
    · exact forall_ascii (P := fun c => c.isLower = true → lowerOf c = [c]) (by decide)
        (toNat_lt_of_isLower hw) hw
    · exact forall_ascii (P := fun c => c.isLower = true → lowerOf c.toUpper = [c]) (by decide)
        (toNat_lt_of_isLower hw) hw
    · decide

/-- White space has no letter as its lower case. -/
theorem not_isBlank_of_lowerOf {c w : Char} (hw : w.isLower = true) (h : lowerOf c = [w]) :
    isBlank c = false := by
  rcases (lowerOf_eq_iff hw).1 h with rfl | rfl | ⟨rfl, -⟩
  · exact forall_ascii (P := fun c => c.isLower = true → isBlank c = false) (by decide)
      (toNat_lt_of_isLower hw) hw
  · exact forall_ascii (P := fun c => c.isLower = true → isBlank c.toUpper = false) (by decide)
      (toNat_lt_of_isLower hw) hw
  · decide

/-! ## Lower case of texts -/

/-- Where a letter of ASCII is the lower case, the place makes no difference. -/
theorem lowerAt_eq_iff {before after : List Char} {c w : Char} (hw : w.isLower = true) :
    lowerAt before c after = [w] ↔ lowerOf c = [w] := by
  unfold lowerAt
  split
  · rename_i hsigma
    subst hsigma
    have hsmall : ∀ d, d = '\u03c2' ∨ d = '\u03c3' → d ≠ w := by
      rintro d hd rfl
      rcases hd with rfl | rfl <;> exact absurd hw (by decide)
    have hlower : lowerOf '\u03a3' = ['\u03c3'] := by decide
    rw [hlower]
    split
    · simp only [List.singleton_inj]
      exact iff_of_false (hsmall _ (by simp)) (hsmall _ (by simp))
    · rfl
  · rfl

/-- The lower case of a character is one character, or it has a mark after it. -/
theorem lowerAt_cases (before : List Char) (c : Char) (after : List Char) :
    (∃ d, lowerAt before c after = [d]) ∨
      (c = '\u0130' ∧ lowerAt before c after = ['i', '\u0307']) := by
  unfold lowerAt lowerOf
  split_ifs
  all_goals first
    | exact .inl ⟨_, rfl⟩
    | exact .inr ⟨‹_›, rfl⟩

/-- **A word of ASCII letters is the lower case of a text** just if its letters are
    the lower case of the characters, one by one. -/
theorem lowercaseFrom_eq_iff {before text word : List Char} (hword : ∀ w ∈ word, w.isLower = true) :
    lowercaseFrom before text = word ↔ List.Forall₂ (fun c w => lowerOf c = [w]) text word := by
  induction text generalizing before word with
  | nil => rw [lowercaseFrom, List.forall₂_nil_left_iff, eq_comm]
  | cons c after ih =>
    rw [lowercaseFrom, List.forall₂_cons_left_iff]
    constructor
    · intro h
      rcases lowerAt_cases before c after with ⟨w, hw⟩ | ⟨rfl, hmark⟩
      · rw [hw, List.singleton_append] at h
        subst h
        exact ⟨w, _, (lowerAt_eq_iff (hword w (by simp))).1 hw,
          (ih fun d hd => hword d (List.mem_cons_of_mem _ hd)).1 rfl, rfl⟩
      · -- the mark is no letter of the word
        rw [hmark] at h
        exact absurd (hword '\u0307' (by simp [← h])) (by decide)
    · rintro ⟨w, rest, hw, hrest, rfl⟩
      rw [(lowerAt_eq_iff (hword w (by simp))).2 hw,
        (ih fun d hd => hword d (List.mem_cons_of_mem _ hd)).2 hrest, List.singleton_append]

theorem lowercase_eq_iff {text word : List Char} (hword : ∀ w ∈ word, w.isLower = true) :
    lowercase text = word ↔ List.Forall₂ (fun c w => lowerOf c = [w]) text word :=
  lowercaseFrom_eq_iff hword

end Unicode

/-! ## Words in either case -/

/-- A text is a word of small letters, but each letter stands in either case. -/
def InEitherCase (text word : List Char) : Prop :=
  List.Forall₂ (fun c w => c = w ∨ c = w.toUpper) text word

theorem isLower_test : ∀ w ∈ "test".toList, w.isLower = true := List.all_eq_true.1 (by decide)

theorem isLower_benchmark : ∀ w ∈ "benchmark".toList, w.isLower = true :=
  List.all_eq_true.1 (by decide)

theorem isLower_front : ∀ w ∈ "benchmar".toList, w.isLower = true := List.all_eq_true.1 (by decide)

/-- Without a `k` in the word there are no other texts with that lower case. -/
theorem forall₂_lowerOf_iff {text word : List Char}
    (hword : ∀ w ∈ word, w.isLower = true) (hk : 'k' ∉ word) :
    List.Forall₂ (fun c w => Unicode.lowerOf c = [w]) text word ↔ InEitherCase text word := by
  unfold InEitherCase
  induction text generalizing word with
  | nil => simp only [List.forall₂_nil_left_iff]
  | cons c text ih =>
    cases word with
    | nil => simp only [List.forall₂_nil_right_iff]
    | cons w word =>
      have hne : w ≠ 'k' := fun heq => hk (by simp [heq])
      rw [List.forall₂_cons, List.forall₂_cons, Unicode.lowerOf_eq_iff (hword w (by simp)),
        ih (fun d hd => hword d (List.mem_cons_of_mem _ hd)) fun hmem =>
          hk (List.mem_cons_of_mem _ hmem)]
      simp [hne]

theorem lowercase_eq_test_iff {text : List Char} :
    Unicode.lowercase text = "test".toList ↔ InEitherCase text "test".toList := by
  rw [Unicode.lowercase_eq_iff isLower_test, forall₂_lowerOf_iff isLower_test (by decide)]

/-- The last letter of the other word is the one that the Kelvin sign can stand for. -/
theorem lowercase_eq_benchmark_iff {text : List Char} :
    Unicode.lowercase text = "benchmark".toList ↔
      ∃ front last, text = front ++ [last] ∧ InEitherCase front "benchmar".toList ∧
        (last = 'k' ∨ last = 'K' ∨ last = '\u212a') := by
  have hword : "benchmark".toList = "benchmar".toList ++ ['k'] := by decide
  have hlast : ∀ c, Unicode.lowerOf c = ['k'] ↔ c = 'k' ∨ c = 'K' ∨ c = '\u212a' := fun c => by
    rw [Unicode.lowerOf_eq_iff (by decide), show 'k'.toUpper = 'K' by decide]
    simp
  rw [Unicode.lowercase_eq_iff isLower_benchmark, hword]
  constructor
  · intro h
    obtain ⟨last, hlastText, hk⟩ : ∃ last, text.drop "benchmar".toList.length = [last] ∧
        Unicode.lowerOf last = ['k'] := by
      obtain ⟨last, rest, hk, hrest, heq⟩ :=
        List.forall₂_cons_right_iff.1 (List.forall₂_drop_append _ _ _ h)
      rw [List.forall₂_nil_right_iff.1 hrest] at heq
      exact ⟨last, heq, hk⟩
    refine ⟨text.take "benchmar".toList.length, last, ?_, ?_, (hlast last).1 hk⟩
    · rw [← hlastText, List.take_append_drop]
    · exact (forall₂_lowerOf_iff isLower_front (by decide)).1 (List.forall₂_take_append _ _ _ h)
  · rintro ⟨front, last, rfl, hfront, hk⟩
    exact List.rel_append ((forall₂_lowerOf_iff isLower_front (by decide)).2 hfront)
      (.cons ((hlast last).2 hk) .nil)

/-! ## Kinds -/

namespace CaseKind

theorem read_eq_test_iff {text : String} :
    read text = .ok .test ↔ text = "" ∨ InEitherCase text.toList "test".toList := by
  have hempty : Unicode.lowercase text.toList = [] ↔ text = "" := by
    rw [Unicode.lowercase_eq_iff (by simp), List.forall₂_nil_right_iff, String.toList_eq_nil_iff]
  rw [← hempty, ← lowercase_eq_test_iff, read]
  split_ifs with htest hbenchmark
  · exact iff_of_true rfl htest
  · exact iff_of_false (by simp) htest
  · exact iff_of_false (by simp) htest

theorem read_eq_benchmark_iff {text : String} :
    read text = .ok .benchmark ↔
      ∃ front last, text.toList = front ++ [last] ∧ InEitherCase front "benchmar".toList ∧
        (last = 'k' ∨ last = 'K' ∨ last = '\u212a') := by
  rw [← lowercase_eq_benchmark_iff, read]
  split_ifs with htest hbenchmark
  · refine iff_of_false (by simp) ?_
    rcases htest with h | h <;> rw [h] <;> decide
  · exact iff_of_true rfl hbenchmark
  · exact iff_of_false (by simp) hbenchmark

/-- Whatever a character of a kind is, it has a letter of ASCII as its lower case. -/
theorem exists_lowerOf_of_read {text : String} {kind : CaseKind} (h : read text = .ok kind) :
    ∀ c ∈ text.toList, ∃ w, w.isLower = true ∧ Unicode.lowerOf c = [w] := by
  have hword : ∃ word, (∀ w ∈ word, w.isLower = true) ∧ Unicode.lowercase text.toList = word := by
    simp only [read] at h
    split_ifs at h with htest hbenchmark
    · rcases htest with h | h
      · exact ⟨_, by simp, h⟩
      · exact ⟨_, isLower_test, h⟩
    · exact ⟨_, isLower_benchmark, hbenchmark⟩
  obtain ⟨word, hletters, hlower⟩ := hword
  rw [Unicode.lowercase_eq_iff hletters] at hlower
  clear h
  generalize text.toList = cs at hlower
  induction hlower with
  | nil => simp
  | @cons c w cs word hcw _ ih =>
    rw [List.forall_mem_cons] at hletters ⊢
    exact ⟨⟨w, hletters.1, hcw⟩, ih hletters.2⟩

/-- **The texts that are kinds.**  Nothing at all and the word `test` with each letter
    in either case are one kind, the word `benchmark` in either case, perhaps with a
    Kelvin sign at its end, is the other, and any other text is reported as it stands:
    one with white space, with another character beyond ASCII, or with a character whose
    lower case is longer than one. -/
theorem read_language (text : String) :
    (read text = .ok .test ↔ text = "" ∨ InEitherCase text.toList "test".toList) ∧
      (read text = .ok .benchmark ↔
        ∃ front last, text.toList = front ++ [last] ∧ InEitherCase front "benchmar".toList ∧
          (last = 'k' ∨ last = 'K' ∨ last = '\u212a')) ∧
      (∀ e, read text = .error e ↔ (∀ kind, read text ≠ .ok kind) ∧ e = .invalidKind text) ∧
      ∀ c ∈ text.toList, (isBlank c = true ∨ (0x80 ≤ c.toNat ∧ c ≠ '\u212a') ∨
        (Unicode.lowerOf c).length ≠ 1) → read text = .error (.invalidKind text) := by
  have herror : ∀ e, read text = .error e ↔
      (∀ kind, read text ≠ .ok kind) ∧ e = .invalidKind text := by
    intro e
    constructor
    · intro h
      exact ⟨fun kind hkind => (by cases h.symm.trans hkind), read_eq_error h⟩
    · rintro ⟨hnone, rfl⟩
      cases hread : read text with
      | ok kind => exact absurd hread (hnone kind)
      | error e => rw [read_eq_error hread]
  refine ⟨read_eq_test_iff, read_eq_benchmark_iff, herror, fun c hc hbad => ?_⟩
  refine (herror _).2 ⟨fun kind hkind => ?_, rfl⟩
  obtain ⟨w, hw, hlower⟩ := exists_lowerOf_of_read hkind c hc
  rcases hbad with hblank | ⟨hbeyond, hkelvin⟩ | hlength
  · exact absurd hblank (by simp [Unicode.not_isBlank_of_lowerOf hw hlower])
  · exact absurd hw (by simp [Unicode.not_isLower_lowerOf hbeyond hkelvin hlower])
  · exact hlength (by rw [hlower, List.length_singleton])

example : read "bEnchmar\u212a" = .ok .benchmark := by decide

end CaseKind

end ProfileSync
