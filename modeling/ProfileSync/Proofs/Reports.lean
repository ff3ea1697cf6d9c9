/-
  What can be told from the text of a mismatch.

  * `Mismatch.opening`: the words that a text begins with, which tell its kind, but for a
    function that is missing and one at another place;
  * `Mismatch.message_inj`: mismatches with one text are the same, whatever names stand
    in them;
  * `Failure.message_eq_mismatch_iff`: and so is a failure with the text of a mismatch of
    some profile, for no other kind of failure has a text that begins with a path;
  * `mismatch_messages_unambiguous`: so the text of a report tells all that is reported.
-/
import ProfileSync.Failure
import ProfileSync.Proofs.Quotation

namespace ProfileSync

/-! ## The line of a declaration -/

theorem lineNote_none_append (t : String) : lineNote none ++ t = t := String.empty_append

theorem lineNote_some_append (line : Nat) (t : String) :
    lineNote (some line) ++ t = " (line " ++ (toString line ++ (")" ++ t)) := by
  simp only [lineNote, toString, String.append_assoc]

/-- After a line, if there is one, a text goes on with words that show that no line is
    left out. -/
theorem lineNote_append_inj {line line' : Option Nat} {after t t' : String}
    (h : Apart " (line " after) :
    lineNote line ++ (after ++ t) = lineNote line' ++ (after ++ t') ↔ line = line' ∧ t = t' := by
  cases line with
  | none =>
    cases line' with
    | none => simp only [lineNote_none_append, String.append_right_inj, true_and]
    | some line' =>
      rw [lineNote_none_append, lineNote_some_append]
      simp [(h.append_ne _ _).symm]
  | some line =>
    cases line' with
    | none =>
      rw [lineNote_none_append, lineNote_some_append]
      simp [h.append_ne]
    | some line' =>
      rw [lineNote_some_append, lineNote_some_append, String.append_right_inj,
        toString_append_inj (by decide), String.append_right_inj, Option.some_inj]

theorem append_ne_lineNote_append {s after : String} (hline : Apart s " (line ")
    (hafter : Apart s after) (line : Option Nat) (x t : String) :
    s ++ x ≠ lineNote line ++ (after ++ t) := by
  cases line with
  | none =>
    rw [lineNote_none_append]
    exact hafter.append_ne x t
  | some line =>
    rw [lineNote_some_append]
    exact hline.append_ne x _

namespace Mismatch

/-! ## Texts of one kind -/

theorem message_count (inFile inProfile : Nat) : (count inFile inProfile).message =
    "there are " ++ (toString inFile ++ (" cases in test file, but there are " ++
      (toString inProfile ++ " cases in ut profile"))) := by
  unfold message
  simp only [toString, String.append_assoc]

theorem message_missing (name : String) (position : Nat) : (missing name position).message =
    "the case " ++ (quoted name ++ (" (position " ++ (toString position ++
      ") in ut profile doesn't exist in the test file"))) := by
  unfold message
  simp only [toString, String.append_assoc]

theorem message_misplaced (actual expected : String) (position : Nat) (line : Option Nat) :
    (misplaced actual expected position line).message =
      "the case " ++ (quoted actual ++ (lineNote line ++ (" in test file doesn't match the case " ++
        (quoted expected ++ (" in profile at position " ++ toString position))))) := by
  unfold message
  simp only [toString, String.append_assoc]

theorem message_invalidKind_inj {kind kind' : String} :
    (invalidKind kind).message = (invalidKind kind').message ↔ kind = kind' :=
  String.append_right_inj _

theorem message_count_inj {inFile inFile' inProfile inProfile' : Nat} :
    (count inFile inProfile).message = (count inFile' inProfile').message ↔
      inFile = inFile' ∧ inProfile = inProfile' := by
  rw [message_count, message_count, String.append_right_inj, toString_append_inj (by decide),
    String.append_left_inj, toString_nat_inj]

theorem message_missing_inj {name name' : String} {position position' : Nat} :
    (missing name position).message = (missing name' position').message ↔
      name = name' ∧ position = position' := by
  rw [message_missing, message_missing, String.append_right_inj, quoted_append_inj,
    String.append_right_inj, String.append_left_inj, toString_nat_inj]

theorem message_misplaced_inj {actual actual' expected expected' : String}
    {position position' : Nat} {line line' : Option Nat} :
    (misplaced actual expected position line).message =
        (misplaced actual' expected' position' line').message ↔
      actual = actual' ∧ line = line' ∧ expected = expected' ∧ position = position' := by
  rw [message_misplaced, message_misplaced, String.append_right_inj, quoted_append_inj,
    lineNote_append_inj (by decide), quoted_append_inj, String.append_right_inj, toString_nat_inj]

/-! ## Texts of different kinds -/

/-- How the text of a mismatch begins. -/
def opening : Mismatch → String
  | invalidKind _ => "invalid test case type: "
  | count _ _ => "there are "
  | missing _ _ | misplaced _ _ _ _ => "the case "

theorem exists_message_eq (m : Mismatch) : ∃ rest, m.message = m.opening ++ rest := by
  cases m with
  | invalidKind kind => exact ⟨_, rfl⟩
  | count inFile inProfile => exact ⟨_, message_count ..⟩
  | missing name position => exact ⟨_, message_missing ..⟩
  | misplaced actual expected position line => exact ⟨_, message_misplaced ..⟩

/-- All the words that texts begin with. -/
def openings : List String := ["invalid test case type: ", "there are ", "the case "]

theorem opening_mem (m : Mismatch) : m.opening ∈ openings := by
  cases m <;> simp [opening, openings]

theorem eq_or_apart_of_mem_openings : ∀ s ∈ openings, ∀ t ∈ openings, s = t ∨ Apart s t := by
  decide

theorem opening_eq_of_message {m m' : Mismatch} (h : m.message = m'.message) :
    m.opening = m'.opening := by
  obtain ⟨rest, hm⟩ := m.exists_message_eq
  obtain ⟨rest', hm'⟩ := m'.exists_message_eq
  rw [hm, hm'] at h
  have hwords := eq_or_apart_of_mem_openings _ m.opening_mem _ m'.opening_mem
  exact hwords.resolve_right fun hapart => hapart.append_ne rest rest' h

/-- After the name of a missing function comes its position at once. -/
theorem message_missing_ne_misplaced (name : String) (position : Nat) (actual expected : String)
    (position' : Nat) (line : Option Nat) :
    (missing name position).message ≠ (misplaced actual expected position' line).message := by
  intro h
  rw [message_missing, message_misplaced, String.append_right_inj, quoted_append_inj] at h
  exact append_ne_lineNote_append (by decide) (by decide) line _ _ h.2

/-- **Mismatches with one text are the same.** -/
theorem message_inj {m m' : Mismatch} : m.message = m'.message ↔ m = m' := by
  refine ⟨fun h => ?_, congrArg message⟩
  have hopening := opening_eq_of_message h
  cases m with
  | invalidKind kind =>
    cases m' with
    | invalidKind kind' => rw [message_invalidKind_inj.1 h]
    | _ => simp [opening] at hopening
  | count inFile inProfile =>
    cases m' with
    | count inFile' inProfile' =>
      obtain ⟨rfl, rfl⟩ := message_count_inj.1 h
      rfl
    | _ => simp [opening] at hopening
  | missing name position =>
    cases m' with
    | missing name' position' =>
      obtain ⟨rfl, rfl⟩ := message_missing_inj.1 h
      rfl
    | misplaced actual expected position' line =>
      exact (message_missing_ne_misplaced _ _ _ _ _ _ h).elim
    | _ => simp [opening] at hopening
  | misplaced actual expected position line =>
    cases m' with
    | missing name' position' =>
      exact (message_missing_ne_misplaced _ _ _ _ _ _ h.symm).elim
    | misplaced actual' expected' position' line' =>
      obtain ⟨rfl, rfl, rfl, rfl⟩ := message_misplaced_inj.1 h
      rfl
    | _ => simp [opening] at hopening

end Mismatch

/-! ## Reports -/

namespace Failure

theorem message_mismatch (profile : String) (m : Mismatch) :
    (mismatch profile m).message = quoted profile ++ (": " ++ m.message) := by
  unfold message
  simp only [toString, String.append_assoc]

theorem message_mismatch_inj {profile profile' : String} {m m' : Mismatch} :
    (mismatch profile m).message = (mismatch profile' m').message ↔ profile = profile' ∧ m = m' := by
  rw [message_mismatch, message_mismatch, quoted_append_inj, String.append_right_inj,
    Mismatch.message_inj]

/-- Only the text of a mismatch begins with a path, all others begin with a word. -/
theorem message_ne_mismatch {f : Failure} (h : ∀ profile m, f ≠ mismatch profile m)
    (profile : String) (m : Mismatch) : f.message ≠ (mismatch profile m).message := by
  rw [message_mismatch]
  cases f
  case mismatch profile' m' => exact absurd rfl (h profile' m')
  all_goals
    unfold message
    simp only [toString, String.append_assoc]
    apply Apart.append_ne_quoted
    decide

theorem message_eq_mismatch_iff {f : Failure} {profile : String} {m : Mismatch} :
    f.message = (mismatch profile m).message ↔ f = mismatch profile m := by
  refine ⟨fun h => ?_, congrArg message⟩
  by_cases hf : ∃ profile' m', f = mismatch profile' m'
  · obtain ⟨profile', m', rfl⟩ := hf
    obtain ⟨rfl, rfl⟩ := message_mismatch_inj.1 h
    rfl
  · exact absurd h (message_ne_mismatch (fun profile' m' heq => hf ⟨profile', m', heq⟩) profile m)

end Failure

/-- **The text of a report tells all that is reported:** two mismatches with one text are
    the same, and a failure with the text of a mismatch of a profile is that mismatch of
    that profile.  This is so for all names, kinds and paths, also for those that hold
    quotes, hidden characters or words of other texts. -/
theorem mismatch_messages_unambiguous :
    (∀ m m' : Mismatch, m.message = m'.message ↔ m = m') ∧
      ∀ (f : Failure) (profile : String) (m : Mismatch),
        f.message = (Failure.mismatch profile m).message ↔ f = .mismatch profile m :=
  ⟨fun _ _ => Mismatch.message_inj, fun _ _ _ => Failure.message_eq_mismatch_iff⟩

example : (Mismatch.missing "A\x22 (position 1) in ut profile" 2).message =
    "the case \x22A\\\x22 (position 1) in ut profile\x22 (position 2) in ut profile doesn't " ++
      "exist in the test file" := by decide

end ProfileSync
