/-
  The lines that the words of a source text stand on.

  * `lineCount` and `StandsOn`: the lines of a text, and the line of a name in it;
  * `Token.wordsOf`: the words among tokens with their lines, those in groups at the
    place of the group;
  * `Reading.InOrder`: what holds of the words that were met after some characters;
    `InOrder.piece` is one step, `inOrder_readPieces` all of them;
  * `SourceFile.wordsStand`: so the lines of words never decrease, and each word stands
    on its line, but for those that documentation comments stand for.
-/
import Mathlib.Data.List.TakeWhile
import ProfileSync.Source.File

namespace ProfileSync

/-! ## Lines of a text -/

/-- The number of lines of a text; where the last line is ended no other begins. -/
def lineCount (cs : List Char) : Nat :=
  cs.count '\n' + if cs.getLast?.all (· == '\n') then 0 else 1

/-- A name stands on a line of a text. -/
def StandsOn (name : List Char) (line : Nat) (cs : List Char) : Prop :=
  ∃ before after, cs = before ++ name ++ after ∧ line = before.count '\n' + 1

/-- A text has a last character, which ends no line. -/
def EndsInLine (cs : List Char) : Prop := ∃ c ∈ cs.getLast?, c ≠ '\n'

section
variable {name cs ds : List Char} {line : Nat}

theorem StandsOn.append (h : StandsOn name line cs) (ds : List Char) :
    StandsOn name line (cs ++ ds) := by
  obtain ⟨before, after, rfl, hline⟩ := h
  exact ⟨before, after ++ ds, by simp, hline⟩

/-- What ends no line in front of a text changes none. -/
theorem StandsOn.prepend (h : StandsOn name line cs) (hds : '\n' ∉ ds) :
    StandsOn name line (ds ++ cs) := by
  obtain ⟨before, after, rfl, hline⟩ := h
  refine ⟨ds ++ before, after, by simp, ?_⟩
  rw [List.count_append, List.count_eq_zero.2 hds, hline, Nat.zero_add]

/-- **A name stands on one of the lines** that a text has. -/
theorem StandsOn.le_lineCount (h : StandsOn name line cs) (hname : EndsInLine name) :
    1 ≤ line ∧ line ≤ lineCount cs := by
  obtain ⟨before, after, rfl, rfl⟩ := h
  obtain ⟨c, hc, hne⟩ := hname
  refine ⟨Nat.le_add_left .., ?_⟩
  rw [lineCount, List.count_append, List.count_append]
  split
  · rename_i hlast
    -- the end of the last line comes after the name
    cases hafter : after.getLast? with
    | none =>
      rw [List.getLast?_append, hafter, Option.none_or, List.getLast?_append, hc,
        Option.some_or] at hlast
      exact absurd (by simpa using hlast) hne
    | some d =>
      rw [List.getLast?_append, hafter, Option.some_or] at hlast
      have hd : d = '\n' := by simpa using hlast
      have hpos : 0 < after.count '\n' :=
        List.count_pos_iff.2 (hd ▸ List.mem_of_getLast? hafter)
      omega
  · omega

/-- Words with their lines stand in a text in order; a documentation comment stands for
    one that is not there. -/
structure WordsStand (ws : List (String × Nat)) (cs : List Char) : Prop where
  pairwise : ws.Pairwise fun w w' => w.2 ≤ w'.2
  stands : ∀ w ∈ ws, w.1 = "doc" ∨ EndsInLine w.1.toList ∧ StandsOn w.1.toList w.2 cs

theorem WordsStand.prepend {ws : List (String × Nat)} (h : WordsStand ws cs) (hds : '\n' ∉ ds) :
    WordsStand ws (ds ++ cs) :=
  ⟨h.pairwise, fun w hw =>
    (h.stands w hw).imp_right fun ⟨hends, hstands⟩ => ⟨hends, hstands.prepend hds⟩⟩

end

/-! ## The words among tokens -/

namespace Token

mutual

/-- The words in a token, each with its line. -/
def words : Token → List (String × Nat)
  | .word text line => [(text, line)]
  | .group _ content => wordsOf content
  | _ => []

/-- The words in several tokens, one after the other. -/
def wordsOf : List Token → List (String × Nat)
  | [] => []
  | t :: rest => t.words ++ wordsOf rest

end

theorem wordsOf_append (ts ts' : List Token) : wordsOf (ts ++ ts') = wordsOf ts ++ wordsOf ts' := by
  induction ts with
  | nil => rfl
  | cons t ts ih => rw [List.cons_append, wordsOf, wordsOf, ih, List.append_assoc]

@[simp] theorem wordsOf_singleton (t : Token) : wordsOf [t] = t.words := by
  rw [wordsOf, wordsOf, List.append_nil]

/-! ## Reading pieces -/

namespace Reading

/-- The words that were met, in the order of the text. -/
def words (r : Reading) : List (String × Nat) :=
  (r.outer.reverse.flatMap fun g => wordsOf g.2.reverse) ++ wordsOf r.tokens.reverse

theorem words_push (r : Reading) (t : Token) :
    words { r with tokens := t :: r.tokens } = r.words ++ t.words := by
  simp [words, wordsOf_append]

/-- The words that were met in a text stand in it in order, up to the line that was
    reached. -/
structure InOrder (r : Reading) (met : List Char) : Prop extends WordsStand r.words met where
  line : r.line = met.count '\n' + 1
  le_line : ∀ w ∈ r.words, w.2 ≤ r.line

end Reading

end Token

/-! ## Words of a text -/

/-- No character of an identifier ends a line. -/
theorem not_mem_take_identifierLength (cs : List Char) : '\n' ∉ cs.take (identifierLength cs) := by
  cases cs with
  | nil => exact List.not_mem_nil
  | cons c cs =>
    rw [identifierLength]
    split
    · rename_i hc
      rw [Nat.add_comm, List.take_succ_cons, List.mem_cons, not_or,
        ← List.prefix_iff_eq_take.1 (List.takeWhile_prefix isIdentPart)]
      constructor
      · rintro rfl
        exact absurd hc (by decide)
      · intro hmem
        exact absurd (List.mem_takeWhile_imp hmem) (by decide)
    · exact List.not_mem_nil

theorem take_identifierLength_ne_nil {cs : List Char} (h : identifierLength cs ≠ 0) :
    cs.take (identifierLength cs) ≠ [] := by
  cases cs with
  | nil => exact absurd rfl h
  | cons c cs =>
    obtain ⟨n, hn⟩ := Nat.exists_eq_succ_of_ne_zero h
    rw [hn]
    exact List.cons_ne_nil _ _

/-- A word has a character, and none of them ends a line. -/
theorem endsInLine_take_wordLength {cs : List Char} {n : Nat} (h : wordLength cs = some n) :
    EndsInLine (cs.take n) := by
  have hword : cs.take n ≠ [] ∧ '\n' ∉ cs.take n := by
    unfold wordLength at h
    by_cases hraw : startsWith cs "r#" = true
    · obtain ⟨rest, rfl⟩ := List.isPrefixOf_iff_prefix.1 hraw
      simp only [hraw, if_true, Bool.not_true, Bool.false_eq_true, if_false] at h
      split_ifs at h
      obtain rfl := Option.some.inj h
      have hrest := not_mem_take_identifierLength rest
      exact ⟨List.cons_ne_nil _ _, by simpa using hrest⟩
    · simp only [hraw, Bool.false_eq_true, if_false, Bool.not_false, if_true] at h
      split_ifs at h with hzero
      obtain rfl := Option.some.inj h
      exact ⟨take_identifierLength_ne_nil hzero, not_mem_take_identifierLength cs⟩
  obtain ⟨c, hc⟩ := Option.isSome_iff_exists.1 (List.getLast?_isSome.2 hword.1)
  exact ⟨c, hc, fun heq => hword.2 (heq ▸ List.mem_of_getLast? hc)⟩

namespace Token

theorem words_leaf? {line : Nat} {cs : List Char} {t : Token} {n : Nat}
    (h : leaf? line cs = some (t, n)) :
    t.words = [] ∨ wordLength cs = some n ∧ t.words = [(String.ofList (cs.take n), line)] := by
  unfold leaf? at h
  split at h
  · cases h
    exact .inl rfl
  · split at h
    · cases h
      exact .inl rfl
    · split at h
      · split at h
        · dsimp only at h
          split_ifs at h
          · cases h
            exact .inl rfl
          · cases h
            exact .inl rfl
        · cases h
      · cases h
        exact .inl rfl
      · split_ifs at h
        · cases h
          exact .inl rfl
        · obtain ⟨k, hk, heq⟩ := Option.map_eq_some_iff.1 h
          cases heq
          exact .inr ⟨hk, rfl⟩

/-- What is met in a piece of text: no word, that of a comment or the piece itself. -/
theorem words_piece? {r r' : Reading} {cs : List Char} {n : Nat}
    (h : piece? r cs = some (n, r')) :
    r'.words = r.words ∨ r'.words = r.words ++ [("doc", r.line)] ∨
      wordLength cs = some n ∧ r'.words = r.words ++ [(String.ofList (cs.take n), r.line)] := by
  unfold piece? at h
  split at h
  · cases h
    exact .inl rfl
  · split at h
    · rename_i n' inner hdoc
      cases h
      refine .inr (.inl ?_)
      rw [Reading.words, List.reverse_append, List.reverse_reverse, wordsOf_append, Reading.words,
        List.append_assoc]
      cases inner <;> rfl
    · split at h
      · cases h
      · split at h
        · cases h
          refine .inl ?_
          simp [Reading.words, wordsOf]
        · split at h
          · split at h
            · rename_i _ d _ _ _ outer houter
              split at h
              · cases h
                refine .inl ?_
                simp [Reading.words, houter, wordsOf_append, words]
              · cases h
            · cases h
          · obtain ⟨⟨t, n'⟩, hleaf, heq⟩ := Option.map_eq_some_iff.1 h
            cases heq
            rw [Reading.words_push]
            rcases words_leaf? hleaf with hnone | ⟨hlength, hword⟩
            · exact .inl (by rw [hnone, List.append_nil])
            · exact .inr (.inr ⟨hlength, by rw [hword]⟩)

section
variable {r r' : Reading} {met cs : List Char}

theorem Reading.InOrder.line_append (h : r.InOrder met) (cs : List Char) :
    r.line + cs.count '\n' = (met ++ cs).count '\n' + 1 := by
  rw [h.line, List.count_append]
  omega

theorem Reading.InOrder.stands_append (h : r.InOrder met) (cs : List Char) : ∀ w ∈ r.words,
    w.1 = "doc" ∨ EndsInLine w.1.toList ∧ StandsOn w.1.toList w.2 (met ++ cs) := fun w hw =>
  (h.stands w hw).imp_right fun ⟨hends, hstands⟩ => ⟨hends, hstands.append cs⟩

/-- The line goes on, and there is no other word. -/
theorem Reading.InOrder.keep (h : r.InOrder met) (hwords : r'.words = r.words) (cs : List Char) :
    Reading.InOrder { r' with line := r.line + cs.count '\n' } (met ++ cs) := by
  change Reading.words { r' with line := r.line + cs.count '\n' } = r.words at hwords
  refine ⟨⟨?_, ?_⟩, h.line_append cs, ?_⟩ <;> rw [hwords]
  · exact h.pairwise
  · exact h.stands_append cs
  · exact fun w hw => Nat.le_add_right_of_le (h.le_line w hw)

/-- The line goes on, and there is a word on the line that was reached. -/
theorem Reading.InOrder.add (h : r.InOrder met) {name : String}
    (hwords : r'.words = r.words ++ [(name, r.line)]) (hname : name = "doc" ∨
      EndsInLine name.toList ∧ StandsOn name.toList r.line (met ++ cs)) :
    Reading.InOrder { r' with line := r.line + cs.count '\n' } (met ++ cs) := by
  change Reading.words { r' with line := r.line + cs.count '\n' } = _ at hwords
  refine ⟨⟨?_, ?_⟩, h.line_append cs, ?_⟩ <;> rw [hwords]
  · refine List.pairwise_append.2 ⟨h.pairwise, List.pairwise_singleton _ _, fun w hw w' hw' => ?_⟩
    rw [List.mem_singleton.1 hw']
    exact h.le_line w hw
  · intro w hw
    rcases List.mem_append.1 hw with hw | hw
    · exact h.stands_append cs w hw
    · rw [List.mem_singleton.1 hw]
      exact hname
  · intro w hw
    rcases List.mem_append.1 hw with hw | hw
    · exact Nat.le_add_right_of_le (h.le_line w hw)
    · rw [List.mem_singleton.1 hw]
      exact Nat.le_add_right _ _

/-- **One piece** that is read leaves the words in order. -/
theorem Reading.InOrder.piece {n : Nat} (h : r.InOrder met) (hpiece : piece? r cs = some (n, r')) :
    Reading.InOrder { r' with line := r.line + (cs.take n).count '\n' } (met ++ cs.take n) := by
  rcases words_piece? hpiece with hsame | hdoc | ⟨hlength, hword⟩
  · exact h.keep hsame _
  · exact h.add hdoc (.inl rfl)
  · refine h.add hword (.inr ?_)
    rw [String.toList_ofList]
    exact ⟨endsInLine_take_wordLength hlength, met, [], by rw [List.append_nil], h.line⟩

end

/-- **All pieces** that are read leave the words in order. -/
theorem inOrder_readPieces {steps : Nat} {r : Reading} {met cs : List Char} {ts : List Token}
    (h : r.InOrder met) (hts : readPieces steps r cs = some ts) :
    ∃ r' : Reading, r'.InOrder (met ++ cs) ∧ r'.words = wordsOf ts := by
  induction steps, r, cs using readPieces.induct generalizing met with
  | case1 steps r hclosed =>
    rw [readPieces, if_pos hclosed] at hts
    cases hts
    refine ⟨r, by rwa [List.append_nil], ?_⟩
    simp [Reading.words, List.isEmpty_iff.1 hclosed]
  | case2 steps r hopen =>
    rw [readPieces, if_neg hopen] at hts
    cases hts
  | case3 r c cs => cases hts
  | case4 steps r cs hcs n r' hpiece ih =>
    rw [readPieces.eq_3 _ _ _ hcs, hpiece] at hts
    obtain ⟨last, hlast, hwords⟩ := ih (h.piece hpiece) hts
    rw [List.append_assoc, List.take_append_drop] at hlast
    exact ⟨last, hlast, hwords⟩
  | case5 steps r cs hcs hpiece =>
    rw [readPieces.eq_3 _ _ _ hcs, hpiece] at hts
    cases hts

/-- A text without the mark at its front that tells how it is encoded. -/
theorem exists_append_of_mark (cs : List Char) :
    ∃ front, cs = front ++ (if cs.head? == some '\ufeff' then cs.drop 1 else cs) ∧ '\n' ∉ front := by
  split
  · rename_i hmark
    cases cs with
    | nil => exact ⟨[], rfl, List.not_mem_nil⟩
    | cons c cs =>
      obtain rfl : c = '\ufeff' := by simpa using hmark
      exact ⟨['\ufeff'], rfl, by decide⟩
  · exact ⟨[], rfl, List.not_mem_nil⟩

/-- The words of a text stand in it in order. -/
theorem wordsStand_ofText? {cs : List Char} {ts : List Token} (h : ofText? cs = some ts) :
    WordsStand (wordsOf ts) cs := by
  obtain ⟨front, hfront, hnone⟩ := exists_append_of_mark cs
  have hstart : Reading.InOrder ⟨1, [], []⟩ [] :=
    ⟨⟨List.Pairwise.nil, by simp [Reading.words, wordsOf]⟩, rfl, by simp [Reading.words, wordsOf]⟩
  obtain ⟨r, hr, hwords⟩ := inOrder_readPieces hstart h
  rw [← hwords, hfront]
  exact hr.toWordsStand.prepend hnone

end Token

theorem exists_append_dropInterpreter (cs : List Char) :
    ∃ front, cs = front ++ dropInterpreter cs ∧ '\n' ∉ front := by
  unfold dropInterpreter
  split
  · refine ⟨cs.takeWhile (· != '\n'), (List.takeWhile_append_dropWhile).symm, fun hmem => ?_⟩
    simpa using List.mem_takeWhile_imp hmem
  · exact ⟨[], rfl, List.not_mem_nil⟩

/-- **The words of a source file** stand in its text in order. -/
theorem SourceFile.wordsStand {text : String} {ts : List Token}
    (h : SourceFile.tokens? text = some ts) : WordsStand (Token.wordsOf ts) text.toList := by
  obtain ⟨mark, hmark, hnone⟩ := Token.exists_append_of_mark text.toList
  obtain ⟨front, hfront, hnone'⟩ := exists_append_dropInterpreter
    (if text.toList.head? == some '\ufeff' then text.toList.drop 1 else text.toList)
  rw [hmark, hfront]
  exact ((Token.wordsStand_ofText? h).prepend hnone').prepend hnone

end ProfileSync
