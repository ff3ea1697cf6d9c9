/-
  How arguments are written, and how they are read.

  * `Spells`: the ways to write given arguments, with their names or letters and with
    their values behind an equals sign, attached, or as arguments of their own;
  * `Reading.recordAll`: given arguments are added one after the other;
  * `Spells.takeAll_eq`: however they are written, to read them is to add them.
-/
import Mathlib.Data.List.TakeWhile
import ProfileSync.Command.Request

namespace ProfileSync

/-! ## Writing arguments -/

namespace Argument

/-- Whether an argument is a flag of a run. -/
def isFlag : Argument → Bool
  | recursive | verbose | quiet => true
  | _ => false

theorem takesValue_of_isFlag {a : Argument} (h : a.isFlag = true) : a.takesValue = false := by
  cases a <;> first | rfl | cases h

theorem ofName?_name (a : Argument) : ofName? a.name = some a := by cases a <;> rfl

theorem ofLetter?_letter (a : Argument) : ofLetter? a.letter = some a := by cases a <;> rfl

theorem letter_ne_dash (a : Argument) : a.letter ≠ '-' := by cases a <;> decide

theorem name_ne_equals (a : Argument) : ∀ c ∈ a.name.toList, (c != '=') = true := by
  rw [← List.all_eq_true]
  cases a <;> rfl

end Argument

/-- Flags, as they are given. -/
def flags (as : List Argument) : List (Argument × String) := as.map (·, "")

/-- Letters behind a single dash, and what stands behind them. -/
def dashed (as : List Argument) (cs : List Char) : String :=
  String.ofList ('-' :: (as.map Argument.letter ++ cs))

/-- The ways to write given arguments. -/
inductive Spells : List (Argument × String) → List String → Prop
  | nil : Spells [] []
  /-- The name of a flag. -/
  | flag {a given args} : a.isFlag = true → Spells given args →
      Spells ((a, "") :: given) (("--" ++ a.name) :: args)
  /-- The name of an option, and its value as the next argument. -/
  | detached {a v given args} : a.takesValue = true → v.toList.head? ≠ some '-' →
      Spells given args → Spells ((a, v) :: given) (("--" ++ a.name) :: v :: args)
  /-- The name of an option, and its value behind an equals sign. -/
  | equals {a v given args} : a.takesValue = true → Spells given args →
      Spells ((a, v) :: given) (("--" ++ a.name ++ "=" ++ v) :: args)
  /-- The letters of flags. -/
  | letters {a as given args} : (∀ b ∈ a :: as, b.isFlag = true) → Spells given args →
      Spells (flags (a :: as) ++ given) (dashed (a :: as) [] :: args)
  /-- The letter of an option after those of flags, and its value as the next
      argument. -/
  | lettersDetached {as a v given args} : (∀ b ∈ as, b.isFlag = true) → a.takesValue = true →
      v.toList.head? ≠ some '-' → Spells given args →
      Spells (flags as ++ (a, v) :: given) (dashed as [a.letter] :: v :: args)
  /-- The letter of an option after those of flags, and its value attached to it. -/
  | lettersAttached {as a v given args} : (∀ b ∈ as, b.isFlag = true) → a.takesValue = true →
      v ≠ "" → v.toList.head? ≠ some '=' → Spells given args →
      Spells (flags as ++ (a, v) :: given) (dashed as (a.letter :: v.toList) :: args)
  /-- The letter of an option after those of flags, and its value behind an equals
      sign. -/
  | lettersEquals {as a v given args} : (∀ b ∈ as, b.isFlag = true) → a.takesValue = true →
      Spells given args →
      Spells (flags as ++ (a, v) :: given) (dashed as (a.letter :: '=' :: v.toList) :: args)

namespace Reading

/-! ## Adding arguments -/

/-- Add given arguments one after the other. -/
def recordAll (r : Reading) (given : List (Argument × String)) : Except Stop Reading :=
  given.foldlM (fun r g => r.record g.1 (some g.2)) r

/-- No option waits for its value. -/
def IsComplete (r : Reading) : Prop := ∀ a, r.pending ≠ some (a, none)

variable {r r' : Reading} {a : Argument} {v : String} {given : List (Argument × String)}
  {args : List String}

theorem recordAll_cons : r.recordAll ((a, v) :: given) =
    r.record a (some v) >>= (·.recordAll given) := List.foldlM_cons

theorem recordAll_append {given' : List (Argument × String)} :
    r.recordAll (given ++ given') = r.recordAll given >>= (·.recordAll given') := List.foldlM_append

theorem record_eq (ha : a.isFlag = true ∨ a.takesValue = true) :
    r.record a (some v) =
      if r.has a then .error (.error (.repeated a))
      else if a.takesValue && some v = some "" then .error (.error (.valueMissing a))
      else .ok { r with given := r.given ++ [(a, v)] } := by
  cases a with
  | help => simp [Argument.isFlag, Argument.takesValue, Argument.valueName?] at ha
  | version => simp [Argument.isFlag, Argument.takesValue, Argument.valueName?] at ha
  | _ => simp [record]

/-- An argument is added if it is new and its value is not empty. -/
theorem record_eq_ok_iff (ha : a.isFlag = true ∨ a.takesValue = true) :
    r.record a (some v) = .ok r' ↔ r.has a = false ∧ (a.takesValue = true → v ≠ "") ∧
      r' = { r with given := r.given ++ [(a, v)] } := by
  rw [record_eq ha]
  cases r.has a with
  | true => simp
  | false => cases a.takesValue <;> by_cases hv : v = "" <;> simp [hv, eq_comm]

theorem record_flag (h : a.isFlag = true) : r.record a none = r.record a (some "") := by
  cases a <;> first | rfl | cases h

theorem pending_record {value : Option String} (h : r.record a value = .ok r') :
    r'.pending = r.pending := by
  unfold record at h
  split at h
  · cases h
  · cases h
  · split_ifs at h
    cases h
    rfl

theorem pending_settle (h : r.settle = .ok r') : r'.pending = none := by
  unfold settle at h
  split at h
  · cases h
    assumption
  · exact pending_record h

theorem settle_of_settled (h : r.pending = none) : r.settle = .ok r := by
  rw [settle, h]

theorem isComplete_of_settled (h : r.pending = none) : r.IsComplete := by
  simp [IsComplete, h]

/-- What follows a settled reading may rely on nothing being left over. -/
theorem settle_bind_congr {f g : Reading → Except Stop Reading}
    (h : ∀ r', r'.pending = none → f r' = g r') : (r.settle >>= f) = r.settle >>= g := by
  cases hsettle : r.settle with
  | error stop => rfl
  | ok r' => exact h r' (pending_settle hsettle)

theorem record_bind_congr {value : Option String} {f g : Reading → Except Stop Reading}
    (hr : r.pending = none) (h : ∀ r', r'.pending = none → f r' = g r') :
    (r.record a value >>= f) = r.record a value >>= g := by
  cases hrecord : r.record a value with
  | error stop => rfl
  | ok r' => exact h r' ((pending_record hrecord).trans hr)

/-! ## Reading what is written -/

theorem take_flag (h : a.isFlag = true) :
    r.take a none = r.settle >>= (·.record a (some "")) := by
  rw [take]
  simp [Argument.takesValue_of_isFlag h, record_flag h]

theorem take_value (h : a.takesValue = true) :
    r.take a (some v) = r.settle >>= (·.record a (some v)) := by
  rw [take]
  simp [h]

theorem take_option (h : a.takesValue = true) :
    r.take a none = r.settle >>= fun r => .ok { r with pending := some (a, none) } := by
  rw [take]
  simp [h]

theorem takeAll_eq_bind {text : String} (h : text ≠ "--") :
    r.takeAll (text :: args) = r.takeArgument text >>= (·.takeAll args) := by
  rw [takeAll.eq_def]
  simp only [if_neg h]
  cases r.takeArgument text <;> rfl

theorem takeLetters_flag (h : a.isFlag = true) (cs : List Char) :
    r.takeLetters (a.letter :: cs) = r.take a none >>= (·.takeLetters cs) := by
  rw [takeLetters, Argument.ofLetter?_letter]
  simp only [Argument.takesValue_of_isFlag h]
  cases r.take a none <;> rfl

theorem takeLetters_option (h : a.takesValue = true) (cs : List Char) :
    r.takeLetters (a.letter :: cs) = r.take a (attachedValue? cs) := by
  rw [takeLetters, Argument.ofLetter?_letter]
  simp only [h, if_true]

theorem attachedValue?_toList (hne : v ≠ "") (hv : v.toList.head? ≠ some '=') :
    attachedValue? v.toList = some v := by
  unfold attachedValue?
  split
  · rename_i heq
    exact absurd (String.toList_eq_nil_iff.1 heq) hne
  · rename_i heq
    rw [heq] at hv
    exact absurd rfl hv
  · rw [String.ofList_toList]

theorem attachedValue?_equals : attachedValue? ('=' :: v.toList) = some v := by
  rw [attachedValue?, String.ofList_toList]

/-- The letters of flags add these, whatever stands behind them. -/
theorem takeLetters_bind {as : List Argument} {cs : List Char} {f k : Reading → Except Stop Reading}
    (has : ∀ b ∈ as, b.isFlag = true)
    (hcs : ∀ r : Reading, r.IsComplete → (r.takeLetters cs >>= f) = r.settle >>= k) (hr : r.IsComplete) :
    (r.takeLetters (as.map Argument.letter ++ cs) >>= f) =
      r.settle >>= fun r => r.recordAll (flags as) >>= k := by
  induction as generalizing r with
  | nil => exact hcs r hr
  | cons a as ih =>
    obtain ⟨ha, has⟩ := List.forall_mem_cons.1 has
    rw [List.map_cons, List.cons_append, takeLetters_flag ha, take_flag ha]
    simp only [bind_assoc]
    refine settle_bind_congr fun r₁ hr₁ => ?_
    rw [flags, List.map_cons, recordAll_cons, bind_assoc]
    refine record_bind_congr hr₁ fun r₂ hr₂ => ?_
    rw [ih has (isComplete_of_settled hr₂), settle_of_settled hr₂]
    rfl

theorem takeLong_name (a : Argument) : r.takeLong a.name.toList = r.take a none := by
  rw [takeLong, List.takeWhile_eq_self_iff.2 a.name_ne_equals,
    List.dropWhile_eq_nil_iff.2 a.name_ne_equals,
    String.ofList_toList, Argument.ofName?_name]

theorem takeLong_equals (h : a.takesValue = true) :
    r.takeLong (a.name.toList ++ '=' :: v.toList) = r.take a (some v) := by
  rw [takeLong, List.takeWhile_append_of_pos a.name_ne_equals,
    List.dropWhile_append_of_pos a.name_ne_equals]
  simp [Argument.ofName?_name, h]

theorem takeAll_name (a : Argument) :
    r.takeAll (("--" ++ a.name) :: args) = r.take a none >>= (·.takeAll args) := by
  have htext : ("--" ++ a.name).toList = '-' :: '-' :: a.name.toList := by simp
  have hne : "--" ++ a.name ≠ "--" := by cases a <;> decide
  rw [takeAll_eq_bind hne, takeArgument, htext]
  simp only [takeLong_name]

theorem takeAll_equals (h : a.takesValue = true) :
    r.takeAll (("--" ++ a.name ++ "=" ++ v) :: args) =
      r.take a (some v) >>= (·.takeAll args) := by
  have htext : ("--" ++ a.name ++ "=" ++ v).toList = '-' :: '-' :: (a.name.toList ++ '=' :: v.toList) := by
    simp
  have hne : "--" ++ a.name ++ "=" ++ v ≠ "--" := fun heq => by
    rw [heq] at htext
    simp at htext
  rw [takeAll_eq_bind hne, takeArgument, htext]
  simp only [takeLong_equals h]

theorem takeAll_letters (a : Argument) (cs : List Char) :
    r.takeAll (String.ofList ('-' :: a.letter :: cs) :: args) =
      r.takeLetters (a.letter :: cs) >>= (·.takeAll args) := by
  have hdash := a.letter_ne_dash
  have hne : String.ofList ('-' :: a.letter :: cs) ≠ "--" := fun heq => by
    have htext := congrArg String.toList heq
    simp [hdash] at htext
  have htake : r.takeArgument (String.ofList ('-' :: a.letter :: cs)) =
      r.takeLetters (a.letter :: cs) := by
    rw [takeArgument, String.toList_ofList]
    cases a <;> rfl
  rw [takeAll_eq_bind hne, htake]

theorem takeAll_value (hr : r.pending = some (a, none)) (h : v.toList.head? ≠ some '-') :
    r.takeAll (v :: args) = Reading.takeAll { r with pending := some (a, some v) } args := by
  have hne : v ≠ "--" := by
    rintro rfl
    exact h rfl
  have htake : r.takeArgument v = .ok { r with pending := some (a, some v) } := by
    rw [takeArgument]
    split
    · rename_i heq
      rw [heq] at h
      exact absurd rfl h
    · rename_i heq
      rw [heq] at h
      exact absurd rfl h
    · rw [takeText, hr]
  rw [takeAll_eq_bind hne, htake]
  rfl

section
variable {k : Reading → Except Stop Reading}
  (hargs : ∀ r : Reading, r.IsComplete → r.takeAll args = r.settle >>= k)
include hargs

/-- An argument with its value is added before anything else. -/
theorem settle_record_bind : ((r.settle >>= (·.record a (some v))) >>= (·.takeAll args)) =
    r.settle >>= fun r => r.record a (some v) >>= k := by
  rw [bind_assoc]
  refine settle_bind_congr fun r₁ hr₁ => record_bind_congr hr₁ fun r₂ hr₂ => ?_
  rw [hargs r₂ (isComplete_of_settled hr₂), settle_of_settled hr₂]
  rfl

/-- An option whose value is the next argument waits for it, and is added before
    anything else. -/
theorem take_detached (ha : a.takesValue = true) (hv : v.toList.head? ≠ some '-') :
    (r.take a none >>= (·.takeAll (v :: args))) =
      r.settle >>= fun r => r.record a (some v) >>= k := by
  rw [take_option ha, bind_assoc]
  refine settle_bind_congr fun r' hr' => ?_
  change Reading.takeAll { r' with pending := some (a, none) } (v :: args) = _
  rw [takeAll_value rfl hv, hargs _ (by simp [IsComplete])]
  change Reading.record { r' with pending := none } a (some v) >>= k = _
  rw [← hr']

end

/-- **Letters** of flags, and what stands behind them. -/
theorem takeAll_dashed {b : Argument} {as : List Argument} {cs ds : List Char}
    {k : Reading → Except Stop Reading} (has : ∀ b ∈ as, b.isFlag = true)
    (hhead : as.map Argument.letter ++ cs = b.letter :: ds)
    (hcs : ∀ r : Reading, r.IsComplete →
      (r.takeLetters cs >>= (·.takeAll args)) = r.settle >>= k) (hr : r.IsComplete) :
    r.takeAll (dashed as cs :: args) = r.settle >>= fun r => r.recordAll (flags as) >>= k := by
  rw [← takeLetters_bind has hcs hr, hhead, dashed, hhead, takeAll_letters]

/-- The letters of flags and that of an option. -/
theorem takeAll_dashed_option {as : List Argument} {cs : List Char}
    {k : Reading → Except Stop Reading} (has : ∀ b ∈ as, b.isFlag = true)
    (ha : a.takesValue = true)
    (hcs : ∀ r : Reading, r.IsComplete →
      (r.take a (attachedValue? cs) >>= (·.takeAll args)) = r.settle >>= k) (hr : r.IsComplete) :
    r.takeAll (dashed as (a.letter :: cs) :: args) =
      r.settle >>= fun r => r.recordAll (flags as) >>= k := by
  have hletter : ∀ r : Reading, r.IsComplete →
      (r.takeLetters (a.letter :: cs) >>= (·.takeAll args)) = r.settle >>= k := fun r hr => by
    rw [takeLetters_option ha, hcs r hr]
  cases as with
  | nil => exact takeAll_dashed has rfl hletter hr
  | cons b as => exact takeAll_dashed has rfl hletter hr

end Reading

open Reading in
/-- **To read written arguments** is to add them, after an option that is left over. -/
theorem Spells.takeAll_eq {given : List (Argument × String)} {args : List String}
    (h : Spells given args) : ∀ r : Reading, r.IsComplete →
      r.takeAll args = r.settle >>= (·.recordAll given) := by
  induction h with
  | nil =>
    intro r _
    rw [takeAll]
    cases r.settle <;> rfl
  | flag ha _ ih =>
    intro r _
    rw [takeAll_name, take_flag ha, settle_record_bind ih]
    rfl
  | detached ha hv _ ih =>
    intro r _
    rw [takeAll_name, take_detached ih ha hv]
    rfl
  | equals ha _ ih =>
    intro r _
    rw [takeAll_equals ha, take_value ha, settle_record_bind ih]
    rfl
  | letters has _ ih =>
    intro r hr
    simp only [recordAll_append]
    exact takeAll_dashed has rfl (fun r hr => by rw [takeLetters]; exact ih r hr) hr
  | lettersDetached has ha hv _ ih =>
    intro r hr
    simp only [recordAll_append, recordAll_cons]
    exact takeAll_dashed_option has ha (fun r _ => take_detached ih ha hv) hr
  | lettersAttached has ha hne hv _ ih =>
    intro r hr
    simp only [recordAll_append, recordAll_cons]
    refine takeAll_dashed_option has ha (fun r _ => ?_) hr
    rw [attachedValue?_toList hne hv, take_value ha, settle_record_bind ih]
  | lettersEquals has ha _ ih =>
    intro r hr
    simp only [recordAll_append, recordAll_cons]
    refine takeAll_dashed_option has ha (fun r _ => ?_) hr
    rw [attachedValue?_equals, take_value ha, settle_record_bind ih]

end ProfileSync
