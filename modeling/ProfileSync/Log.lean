/-
  Log messages: what is said at which level, and how it is written.

  A message is written if its level is not above the level of the log, on the
  standard output or, an error, on the standard error.  Its kind decides the tag
  before its text and the colours of both.  `Output.ofMessages_eq` says what
  several messages write on each stream.
-/

namespace ProfileSync

/-! ## Messages -/

/-- How much is said. -/
inductive LogLevel where
  /-- Verdicts and failures only. -/
  | brief
  /-- The progress from profile to profile as well. -/
  | normal
  /-- Everything. -/
  | verbose
deriving Repr, Inhabited, BEq, DecidableEq

namespace LogLevel

/-- The place of a level in their order. -/
def rank : LogLevel → Nat
  | brief => 0
  | normal => 1
  | verbose => 2

/-- Whether a message of level `message` is written in a log of level `log`. -/
def shows (log message : LogLevel) : Bool := message.rank ≤ log.rank

/-- The names of the levels. -/
def names : List (String × LogLevel) :=
  [("brief", brief), ("normal", normal), ("verbose", verbose)]

end LogLevel

/-- What a message is. -/
inductive MessageKind where
  /-- A verdict. -/
  | critical
  | error
  | warning
  | info
  | ok
  /-- A detail, written as it is. -/
  | simple
deriving Repr, Inhabited, BEq, DecidableEq

/-- A message. -/
structure Message where
  level : LogLevel
  kind : MessageKind
  text : String
deriving Repr, Inhabited, BEq, DecidableEq

/-! ## Colours -/

/-- The sequence that ends all styles. -/
def styleEnd : List Char := ['\x1b', '[', '0', 'm']

/-- The sequence that begins a style, given by its codes. -/
def styleStart (codes : String) : List Char := '\x1b' :: '[' :: codes.toList ++ ['m']

/-- A text with a style begun again wherever the text ends all styles; `skip`
    counts the characters of such an end that are still to be passed. -/
def restyled (start : List Char) : Nat → List Char → List Char
  | _, [] => []
  | 0, c :: cs =>
    if styleEnd.isPrefixOf (c :: cs) then c :: restyled start (styleEnd.length - 1) cs
    else c :: restyled start 0 cs
  | 1, c :: cs => c :: start ++ restyled start 0 cs
  | skip + 2, c :: cs => c :: restyled start (skip + 1) cs

/-- A text in a style, which is left out without `color`. -/
def styled (color : Bool) (codes text : String) : String :=
  if color then
    String.ofList (styleStart codes ++ restyled (styleStart codes) 0 text.toList ++ styleEnd)
  else text

/-! ## Written messages -/

/-- What has been written on the standard output and on the standard error. -/
structure Output where
  out : String
  err : String
deriving Repr, Inhabited, BEq, DecidableEq

namespace Output

/-- Nothing written. -/
def empty : Output := ⟨"", ""⟩

/-- One output after another. -/
def append (a b : Output) : Output := ⟨a.out ++ b.out, a.err ++ b.err⟩

instance : Append Output := ⟨append⟩

end Output

namespace Message

/-- The line that a message is. -/
def line (color : Bool) (m : Message) : String :=
  match m.kind with
  | .critical => styled color "1" m.text
  | .error => styled color "1;31" "[ERROR]" ++ " " ++ styled color "31" m.text
  | .warning => styled color "1;33" "[WARN]" ++ " " ++ m.text
  | .info => styled color "36" "[INFO]" ++ " " ++ m.text
  | .ok => styled color "1;32" "[OK]" ++ " " ++ m.text
  | .simple => m.text

/-- What a message writes in a log of the given level. -/
def output (log : LogLevel) (color : Bool) (m : Message) : Output :=
  if log.shows m.level then
    let line := m.line color ++ "\n"
    if m.kind = .error then ⟨"", line⟩ else ⟨line, ""⟩
  else .empty

end Message

namespace Output

/-- What messages write, one after the other. -/
def ofMessages (log : LogLevel) (color : Bool) (ms : List Message) : Output :=
  (ms.map (Message.output log color)).foldl (· ++ ·) .empty

/-! ## The output of several messages -/

@[simp] theorem out_append (a b : Output) : (a ++ b).out = a.out ++ b.out := rfl

@[simp] theorem err_append (a b : Output) : (a ++ b).err = a.err ++ b.err := rfl

@[simp] theorem append_empty (a : Output) : a ++ empty = a := by
  change Output.mk (a.out ++ "") (a.err ++ "") = a
  rw [String.append_empty, String.append_empty]

@[simp] theorem empty_append (a : Output) : empty ++ a = a := by
  change Output.mk ("" ++ a.out) ("" ++ a.err) = a
  rw [String.empty_append, String.empty_append]

theorem foldl_append (a : Output) (os : List Output) :
    os.foldl (· ++ ·) a = ⟨a.out ++ String.join (os.map out), a.err ++ String.join (os.map err)⟩ := by
  induction os generalizing a with
  | nil => simp
  | cons o os ih => rw [List.foldl_cons, ih]; simp [String.append_assoc]

/-- Each stream has what the messages write on it. -/
theorem ofMessages_eq (log : LogLevel) (color : Bool) (ms : List Message) :
    ofMessages log color ms =
      ⟨String.join (ms.map fun m => (m.output log color).out),
        String.join (ms.map fun m => (m.output log color).err)⟩ := by
  rw [ofMessages, foldl_append]
  simp [empty, Function.comp_def]

theorem ofMessages_append (log : LogLevel) (color : Bool) (ms ms' : List Message) :
    ofMessages log color (ms ++ ms') = ofMessages log color ms ++ ofMessages log color ms' := by
  simp only [ofMessages_eq, List.map_append, String.join_append]
  rfl

@[simp] theorem ofMessages_singleton (log : LogLevel) (color : Bool) (m : Message) :
    ofMessages log color [m] = m.output log color := by
  simp [ofMessages_eq]

/-- Only errors are written on the standard error. -/
theorem err_ofMessages {ms : List Message} (h : ∀ m ∈ ms, m.kind ≠ .error) (log : LogLevel)
    (color : Bool) : (ofMessages log color ms).err = "" := by
  induction ms with
  | nil => rfl
  | cons m ms ih =>
    obtain ⟨hm, hms⟩ := List.forall_mem_cons.1 h
    have hone : (m.output log color).err = "" := by
      unfold Message.output
      dsimp only
      rw [if_neg hm]
      split <;> rfl
    rw [← List.singleton_append, ofMessages_append, err_append, ofMessages_singleton, hone, ih hms]
    rfl

/-- Messages that are not shown write nothing. -/
theorem ofMessages_of_hidden {log : LogLevel} {ms : List Message}
    (h : ∀ m ∈ ms, log.shows m.level = false) (color : Bool) : ofMessages log color ms = empty := by
  induction ms with
  | nil => rfl
  | cons m ms ih =>
    obtain ⟨hm, hms⟩ := List.forall_mem_cons.1 h
    rw [← List.singleton_append, ofMessages_append, ih hms, ofMessages_singleton, Message.output, hm]
    rfl

end Output

end ProfileSync
