/-
  What is said during a validation.

  * `mem_messages_checkProfile`: while a profile is checked there are only details;
  * `messages_validateFile_of_ok` and `validateFile_of_error`: one message begins a
    profile, and another ends it if it passes;
  * `output_validateFile_of_ok` and `output_validateFile_of_error`: the lines that
    these are at the normal level;
  * `Selector.isProgress_validateDirectory` and
    `Selector.passedAmong_validateDirectory`: the messages of a directory tell the
    progress only, and as many profiles have passed as its answer lists.
-/
import ProfileSync.Proofs.Directory

namespace ProfileSync

/-! ## Kinds of messages -/

/-- A message that tells the progress: neither an error nor a verdict. -/
def Message.IsProgress (m : Message) : Prop := m.kind = .info ∨ m.kind = .ok ∨ m.kind = .simple

theorem Message.IsProgress.kind_ne {m : Message} (h : m.IsProgress) :
    m.kind ≠ .error ∧ m.kind ≠ .critical := by
  rcases h with h | h | h <;> simp [h]

/-- How many of the messages tell that something has passed. -/
def passedAmong (ms : List Message) : Nat := ms.countP fun m => m.kind = .ok

theorem passedAmong_append (ms ms' : List Message) :
    passedAmong (ms ++ ms') = passedAmong ms + passedAmong ms' := List.countP_append

/-! ## Profiles -/

section
variable {fs : FileSystem} {path : String}

/-- The message that begins a profile. -/
def beginMessage (path : String) : Message := ⟨.normal, .info, s!"Validating {path}"⟩

/-- The message that ends a profile that passes. -/
def passMessage (path : String) : Message := ⟨.normal, .ok, s!"Validating {path} passed"⟩

/-- Of a test file its functions are told, as a detail. -/
theorem mem_messages_readTestFile {m : Message} (h : m ∈ (readTestFile fs path).messages) :
    m.level = .verbose ∧ m.kind = .simple := by
  unfold readTestFile at h
  split at h
  · cases h
  · split at h
    · cases h
    · rcases Logged.mem_messages_bind.1 h with h | ⟨_, -, h⟩
      · rw [List.mem_singleton.1 h]
        exact ⟨rfl, rfl⟩
      · cases h

/-- While a profile is checked, only details are given. -/
theorem mem_messages_checkProfile {m : Message} (h : m ∈ (checkProfile fs path).messages) :
    m.level = .verbose ∧ m.kind = .simple := by
  unfold checkProfile at h
  rcases Logged.mem_messages_bind.1 h with h | ⟨p, -, h⟩
  · cases h
  rcases Logged.mem_messages_bind.1 h with h | ⟨_, -, h⟩
  · cases h
  rcases Logged.mem_messages_bind.1 h with h | ⟨d, -, h⟩
  · exact mem_messages_readTestFile h
  · cases h

theorem output_checkProfile (color : Bool) :
    (checkProfile fs path).output .normal color = .empty :=
  Output.ofMessages_of_hidden (fun m hm => by rw [(mem_messages_checkProfile hm).1]; rfl) color

theorem result_validateFile : (validateFile fs path).result = (checkProfile fs path).result := by
  unfold validateFile
  rw [Logged.bind_of_ok rfl]
  cases h : (checkProfile fs path).result with
  | error e => rw [Logged.bind_of_error h]
  | ok u => rw [Logged.bind_of_ok h]; rfl

theorem messages_validateFile_of_ok (h : (validateFile fs path).result = .ok ()) :
    (validateFile fs path).messages =
      beginMessage path :: ((checkProfile fs path).messages ++ [passMessage path]) := by
  rw [result_validateFile] at h
  unfold validateFile
  rw [Logged.bind_of_ok rfl, Logged.bind_of_ok h]
  rfl

theorem validateFile_of_error {e : Failure} (h : (checkProfile fs path).result = .error e) :
    validateFile fs path = ⟨beginMessage path :: (checkProfile fs path).messages, .error e⟩ := by
  unfold validateFile
  rw [Logged.bind_of_ok rfl, Logged.bind_of_error h]
  rfl

theorem isProgress_validateFile {m : Message} (h : m ∈ (validateFile fs path).messages) :
    m.IsProgress := by
  have hdetail : ∀ m ∈ (checkProfile fs path).messages, m.IsProgress := fun m hm =>
    .inr (.inr (mem_messages_checkProfile hm).2)
  cases hresult : (checkProfile fs path).result with
  | error e =>
    rw [validateFile_of_error hresult] at h
    rcases List.mem_cons.1 h with rfl | h
    · exact .inl rfl
    · exact hdetail m h
  | ok u =>
    rw [messages_validateFile_of_ok (result_validateFile.trans hresult)] at h
    rcases List.mem_cons.1 h with rfl | h
    · exact .inl rfl
    · rcases List.mem_append.1 h with h | h
      · exact hdetail m h
      · rw [List.mem_singleton.1 h]
        exact .inr (.inl rfl)

theorem passedAmong_checkProfile : passedAmong (checkProfile fs path).messages = 0 := by
  refine List.countP_eq_zero.2 fun m hm => ?_
  rw [(mem_messages_checkProfile hm).2]
  decide

/-- A profile that passes is told to have passed once. -/
theorem passedAmong_validateFile (h : (validateFile fs path).result = .ok ()) :
    passedAmong (validateFile fs path).messages = 1 := by
  rw [messages_validateFile_of_ok h, ← List.singleton_append, passedAmong_append, passedAmong_append,
    passedAmong_checkProfile]
  rfl

/-! ## Their lines -/

/-- The line that begins a profile. -/
def beginLine (path : String) : String := "[INFO] " ++ s!"Validating {path}" ++ "\n"

/-- The line that ends a profile that passes. -/
def passLine (path : String) : String := "[OK] " ++ s!"Validating {path} passed" ++ "\n"

theorem output_begin (path : String) :
    (Logged.say .normal .info s!"Validating {path}").output .normal false = ⟨beginLine path, ""⟩ := by
  rw [Logged.output_say]
  rfl

theorem output_pass (path : String) :
    (Logged.say .normal .ok s!"Validating {path} passed").output .normal false =
      ⟨passLine path, ""⟩ := by
  rw [Logged.output_say]
  rfl

theorem output_validateFile_of_ok (h : (validateFile fs path).result = .ok ()) :
    (validateFile fs path).output .normal false = ⟨beginLine path ++ passLine path, ""⟩ := by
  rw [result_validateFile] at h
  unfold validateFile
  rw [Logged.output_bind_of_ok rfl, Logged.output_bind_of_ok h, output_checkProfile, output_begin,
    output_pass, Output.empty_append]
  rfl

theorem output_validateFile_of_error {e : Failure} (h : (validateFile fs path).result = .error e) :
    (validateFile fs path).output .normal false = ⟨beginLine path, ""⟩ := by
  rw [result_validateFile] at h
  unfold validateFile
  rw [Logged.output_bind_of_ok rfl, Logged.output_bind_of_error h, output_checkProfile,
    output_begin, Output.append_empty]

end

/-! ## Directories -/

section
variable {fs : FileSystem} {directory : String}

theorem isProgress_validateMet {found : Selector.Met} {m : Message}
    (h : m ∈ (validateMet fs directory found).messages) : m.IsProgress := by
  cases found with
  | error place => cases h
  | ok path =>
    rw [messages_validateMet] at h
    exact isProgress_validateFile h

theorem passedAmong_validateMet {found : Selector.Met} {path : String}
    (h : (validateMet fs directory found).result = .ok path) :
    passedAmong (validateMet fs directory found).messages = 1 := by
  cases found with
  | error place => cases h
  | ok path' =>
    rw [messages_validateMet]
    cases hfile : (validateFile fs path').result with
    | error e =>
      rw [validateMet_of_error hfile] at h
      cases h
    | ok u => exact passedAmong_validateFile hfile

theorem passedAmong_each {found : List Selector.Met} {paths : List String}
    (h : (Logged.each (validateMet fs directory) found).result = .ok paths) :
    passedAmong (Logged.each (validateMet fs directory) found).messages = paths.length := by
  induction found generalizing paths with
  | nil =>
    cases h
    rfl
  | cons m found ih =>
    rw [Logged.each_cons, Logged.bind_result_eq_ok_iff] at h
    obtain ⟨path, hpath, h⟩ := h
    obtain ⟨rest, hrest, h⟩ := Logged.bind_result_eq_ok_iff.1 h
    cases h
    rw [Logged.each_cons, Logged.bind_of_ok hpath, Logged.bind_of_ok hrest, passedAmong_append,
      passedAmong_validateMet hpath, passedAmong_append, ih hrest, List.length_cons]
    exact Nat.add_comm _ _

namespace Selector

variable {s : Selector} {recursive : Bool}

theorem isProgress_validateDirectory {m : Message}
    (h : m ∈ (s.validateDirectory fs directory recursive).messages) : m.IsProgress := by
  unfold validateDirectory at h
  rcases Logged.mem_messages_bind.1 h with h | ⟨paths, -, h⟩
  · obtain ⟨found, -, hm⟩ := Logged.mem_messages_each h
    exact isProgress_validateMet hm
  · rcases Logged.mem_messages_bind.1 h with h | ⟨_, -, h⟩
    · rw [List.mem_singleton.1 h]
      exact .inl rfl
    · cases h

/-- As many profiles are told to have passed as the answer lists. -/
theorem passedAmong_validateDirectory {paths : List String}
    (h : (s.validateDirectory fs directory recursive).result = .ok paths) :
    passedAmong (s.validateDirectory fs directory recursive).messages = paths.length := by
  have heach := result_validateDirectory.symm.trans h
  unfold validateDirectory
  rw [Logged.bind_of_ok heach, Logged.bind_of_ok rfl, passedAmong_append, passedAmong_each heach]
  rfl

end Selector

end

end ProfileSync
