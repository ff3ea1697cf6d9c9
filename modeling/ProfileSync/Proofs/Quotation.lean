/-
  Quoted texts and numbers at the front of a longer text.

  * `numberOfDigits_toDigits`: the digits of a number are read as that number, in every
    base up to 16;
  * `readQuotedChar?` reads a character of a quoted text, whatever comes after it
    (`readQuotedChar?_quoteChar`), and none at the quote that ends the text;
  * `quoted_append_inj`: so what is quoted and where it ends can be told from any text
    that begins with it;
  * `toString_append_inj`: of a number the same can be told if no digit comes after it;
  * `Apart.append_ne`: texts that part ways do so however they go on.
-/
import Mathlib.Data.List.Infix
import ProfileSync.Text.Quoted

namespace ProfileSync

/-! ## Digits -/

section
variable {b n : Nat}

theorem digitValue?_digitChar : ∀ d < 16, digitValue? (Nat.digitChar d) = some d := by decide

theorem exists_of_mem_toDigits (hb : 1 < b) {c : Char} (h : c ∈ Nat.toDigits b n) :
    ∃ d < b, c = Nat.digitChar d := by
  induction n using Nat.strong_induction_on with
  | h n ih =>
    rw [Nat.toDigits_eq_if hb] at h
    split at h
    · rename_i hlt
      exact ⟨n, hlt, List.mem_singleton.1 h⟩
    · rcases List.mem_append.1 h with h | h
      · exact ih (n / b) (Nat.div_lt_self (by omega) hb) h
      · exact ⟨n % b, Nat.mod_lt n (by omega), List.mem_singleton.1 h⟩

theorem numberOfDigits_concat (cs : List Char) (c : Char) :
    numberOfDigits b (cs ++ [c]) = numberOfDigits b cs * b + (digitValue? c).getD 0 :=
  List.foldl_concat ..

/-- The digits of a number are read as that number. -/
theorem numberOfDigits_toDigits (hb : 1 < b) (hle : b ≤ 16) :
    numberOfDigits b (Nat.toDigits b n) = n := by
  induction n using Nat.strong_induction_on with
  | h n ih =>
    have hlast : ∀ d < b, (digitValue? (Nat.digitChar d)).getD 0 = d := fun d hd => by
      rw [digitValue?_digitChar d (by omega), Option.getD_some]
    rw [Nat.toDigits_eq_if hb]
    split
    · rename_i hlt
      rw [← List.nil_append [_], numberOfDigits_concat, hlast n hlt]
      simp [numberOfDigits]
    · rw [numberOfDigits_concat, ih (n / b) (Nat.div_lt_self (by omega) hb),
        hlast _ (Nat.mod_lt n (by omega)), Nat.mul_comm]
      exact Nat.div_add_mod n b

theorem toDigits_injective (hb : 1 < b) (hle : b ≤ 16) : Function.Injective (Nat.toDigits b) :=
  Function.LeftInverse.injective fun _ => numberOfDigits_toDigits hb hle

/-- The hexadecimal digits of a code end before its closing brace. -/
theorem ne_brace_of_mem_hexDigits {c : Char} (h : c ∈ hexDigits n) : c ≠ '\x7d' := by
  obtain ⟨d, hd, rfl⟩ := exists_of_mem_toDigits (by decide) h
  have hbrace : ∀ d < 16, Nat.digitChar d ≠ '\x7d' := by decide
  exact hbrace d hd

end

/-! ## Quoted texts -/

/-- The first character that a quoted text shows, and what comes after it; `none` where
    the text ends.  A character after a backslash stands for itself, the letters of
    hidden characters apart. -/
def readQuotedChar? : List Char → Option (Char × List Char)
  | [] => none
  | '\x22' :: _ => none
  | '\\' :: 'n' :: rest => some ('\n', rest)
  | '\\' :: 'r' :: rest => some ('\r', rest)
  | '\\' :: 't' :: rest => some ('\t', rest)
  | '\\' :: '0' :: rest => some ('\x00', rest)
  | '\\' :: 'u' :: '\x7b' :: rest =>
    some (Char.ofNat (numberOfDigits 16 (rest.takeWhile (· != '\x7d'))),
      (rest.dropWhile (· != '\x7d')).tail)
  | '\\' :: c :: rest => some (c, rest)
  | c :: rest => some (c, rest)

theorem readQuotedChar?_cons {c : Char} (hquote : c ≠ '\x22') (hbackslash : c ≠ '\\')
    (rest : List Char) : readQuotedChar? (c :: rest) = some (c, rest) := by
  simp [readQuotedChar?, hbackslash]

theorem readQuotedChar?_code (c : Char) (rest : List Char) :
    readQuotedChar? (['\\', 'u', '\x7b'] ++ hexDigits c.toNat ++ ['\x7d'] ++ rest) =
      some (c, rest) := by
  have hdigits : ∀ d ∈ hexDigits c.toNat, (d != '\x7d') = true := fun d hd =>
    bne_iff_ne.2 (ne_brace_of_mem_hexDigits hd)
  have hnumber : numberOfDigits 16 (hexDigits c.toNat) = c.toNat :=
    numberOfDigits_toDigits (by decide) (by decide)
  rw [List.append_assoc, List.append_assoc]
  simp only [List.cons_append, List.nil_append, readQuotedChar?,
    List.takeWhile_append_of_pos hdigits, List.dropWhile_append_of_pos hdigits]
  simp [hnumber]

/-- A quoted character is read back, whatever comes after it. -/
theorem readQuotedChar?_quoteChar (c : Char) (rest : List Char) :
    readQuotedChar? (quoteChar c ++ rest) = some (c, rest) := by
  unfold quoteChar
  split_ifs with hmark hline hreturn htab hnull hshown
  · rcases hmark with rfl | rfl <;> rfl
  · subst hline; rfl
  · subst hreturn; rfl
  · subst htab; rfl
  · subst hnull; rfl
  · obtain ⟨hquote, hbackslash⟩ := not_or.1 hmark
    exact readQuotedChar?_cons hquote hbackslash rest
  · exact readQuotedChar?_code c rest

theorem readQuotedChar?_flatMap_cons (c : Char) (cs rest : List Char) :
    readQuotedChar? ((c :: cs).flatMap quoteChar ++ rest) =
      some (c, cs.flatMap quoteChar ++ rest) := by
  rw [List.flatMap_cons, List.append_assoc, readQuotedChar?_quoteChar]

/-- Quoted characters up to the closing quote tell what is quoted and what comes after
    it. -/
theorem flatMap_quoteChar_append_inj {cs ds rest rest' : List Char}
    (h : cs.flatMap quoteChar ++ '\x22' :: rest = ds.flatMap quoteChar ++ '\x22' :: rest') :
    cs = ds ∧ rest = rest' := by
  -- read one character on both sides at a time; the closing quote reads as none
  induction cs generalizing ds with
  | nil =>
    cases ds with
    | nil => exact ⟨rfl, (List.cons.inj h).2⟩
    | cons d ds =>
      have hread := congrArg readQuotedChar? h
      rw [readQuotedChar?_flatMap_cons] at hread
      cases hread
  | cons c cs ih =>
    have hread := congrArg readQuotedChar? h
    rw [readQuotedChar?_flatMap_cons] at hread
    cases ds with
    | nil => cases hread
    | cons d ds =>
      rw [readQuotedChar?_flatMap_cons] at hread
      obtain ⟨rfl, htail⟩ := Prod.mk.inj (Option.some.inj hread)
      obtain ⟨rfl, hrest⟩ := ih htail
      exact ⟨rfl, hrest⟩

theorem toList_quoted_append (s t : String) :
    (quoted s ++ t).toList = '\x22' :: (s.toList.flatMap quoteChar ++ '\x22' :: t.toList) := by
  rw [String.toList_append, quoted, String.toList_ofList, quoteChars, List.cons_append,
    List.cons_append, List.append_assoc]
  rfl

/-- **A quoted text tells where it ends:** no text begins with two quoted texts. -/
theorem quoted_append_inj {s s' t t' : String} :
    quoted s ++ t = quoted s' ++ t' ↔ s = s' ∧ t = t' := by
  constructor
  · intro h
    have hlist := congrArg String.toList h
    rw [toList_quoted_append, toList_quoted_append] at hlist
    obtain ⟨hs, ht⟩ := flatMap_quoteChar_append_inj (List.cons.inj hlist).2
    exact ⟨String.toList_inj.1 hs, String.toList_inj.1 ht⟩
  · rintro ⟨rfl, rfl⟩
    rfl

/-! ## Numbers -/

theorem toDigits_append_inj {n n' : Nat} {c : Char} {rest rest' : List Char}
    (hc : c.isDigit = false)
    (h : Nat.toDigits 10 n ++ c :: rest = Nat.toDigits 10 n' ++ c :: rest') :
    n = n' ∧ rest = rest' := by
  have htake : ∀ (n : Nat) (rest : List Char),
      (Nat.toDigits 10 n ++ c :: rest).takeWhile Char.isDigit = Nat.toDigits 10 n := fun n rest => by
    rw [List.takeWhile_append_of_pos fun d hd =>
        Nat.isDigit_of_mem_toDigits (by decide) (by decide) hd,
      List.takeWhile_cons_of_neg (by simp [hc]), List.append_nil]
  have hn : n = n' := toDigits_injective (b := 10) (by decide) (by decide) (by
    rw [← htake n rest, h, htake])
  subst hn
  exact ⟨rfl, (List.cons.inj (List.append_cancel_left h)).2⟩

/-- A number tells where it ends if what comes after it begins with no digit. -/
theorem toString_append_inj {n n' : Nat} {between t t' : String}
    (h : between.toList.head?.any (!·.isDigit) = true) :
    toString n ++ (between ++ t) = toString n' ++ (between ++ t') ↔ n = n' ∧ t = t' := by
  obtain ⟨c, hhead, hc⟩ := (Option.any_eq_true ..).1 h
  obtain ⟨cs, hcs⟩ := List.head?_eq_some_iff.1 hhead
  constructor
  · intro heq
    have hlist := congrArg String.toList heq
    simp only [String.toList_append, Nat.toString_eq_ofList_toDigits, String.toList_ofList, hcs,
      List.cons_append] at hlist
    obtain ⟨hn, ht⟩ := toDigits_append_inj (by simpa using hc) hlist
    exact ⟨hn, String.toList_inj.1 (List.append_cancel_left ht)⟩
  · rintro ⟨rfl, rfl⟩
    rfl

theorem toString_nat_inj {n n' : Nat} : toString n = toString n' ↔ n = n' := by
  rw [Nat.toString_eq_ofList_toDigits, Nat.toString_eq_ofList_toDigits, String.ofList_inj]
  exact (toDigits_injective (by decide) (by decide)).eq_iff

/-! ## Texts that part ways -/

/-- Neither of two texts begins with the other. -/
def Apart (s t : String) : Prop := ¬s.toList <+: t.toList ∧ ¬t.toList <+: s.toList

instance (s t : String) : Decidable (Apart s t) := inferInstanceAs (Decidable (_ ∧ _))

/-- Texts that part ways differ however they go on. -/
theorem Apart.append_ne {s t : String} (h : Apart s t) (x y : String) : s ++ x ≠ t ++ y := by
  intro heq
  have hs : s.toList <+: (s ++ x).toList := by
    rw [String.toList_append]
    exact List.prefix_append ..
  have ht : t.toList <+: (s ++ x).toList := by
    rw [heq, String.toList_append]
    exact List.prefix_append ..
  rcases List.prefix_or_prefix_of_prefix hs ht with hst | hts
  · exact h.1 hst
  · exact h.2 hts

theorem Apart.append_ne_quoted {s : String} (h : Apart s "\x22") (x name t : String) :
    s ++ x ≠ quoted name ++ t := by
  have hquoted : ∃ rest, quoted name ++ t = "\x22" ++ rest := by
    refine ⟨String.ofList (name.toList.flatMap quoteChar ++ '\x22' :: t.toList), ?_⟩
    rw [← String.toList_inj, toList_quoted_append]
    simp
  obtain ⟨rest, hrest⟩ := hquoted
  rw [hrest]
  exact h.append_ne x rest

end ProfileSync
