/-
  Results with the messages that were given on the way to them.

  A `Logged` value is a result, or the failure that came instead, with messages.
  Steps follow one another until one fails; the messages of all steps up to that
  one are kept, the failure itself gives none (`Logged.each_of_error`).
-/
import ProfileSync.Failure
import ProfileSync.Log

namespace ProfileSync

/-- A result, or a failure, and the messages before it. -/
structure Logged (α : Type) where
  messages : List Message
  result : Except Failure α
deriving Inhabited

namespace Logged

variable {α β : Type}

/-- A result without messages. -/
def pure (a : α) : Logged α := ⟨[], .ok a⟩

/-- A failure. -/
def fail (e : Failure) : Logged α := ⟨[], .error e⟩

/-- A result or a failure, without messages. -/
def ofExcept (r : Except Failure α) : Logged α := ⟨[], r⟩

/-- A message. -/
def say (level : LogLevel) (kind : MessageKind) (text : String) : Logged Unit :=
  ⟨[⟨level, kind, text⟩], .ok ()⟩

/-- One step and, if it does not fail, the next. -/
def bind (x : Logged α) (f : α → Logged β) : Logged β :=
  match x.result with
  | .ok a => ⟨x.messages ++ (f a).messages, (f a).result⟩
  | .error e => ⟨x.messages, .error e⟩

instance : Monad Logged where
  pure := pure
  bind := bind

/-- A step for each of the members of a list, in order. -/
def each (f : α → Logged β) : List α → Logged (List β)
  | [] => pure []
  | a :: as => bind (f a) fun b => bind (each f as) fun bs => pure (b :: bs)

/-- What the messages of a result write. -/
def output (x : Logged α) (log : LogLevel) (color : Bool) : Output :=
  .ofMessages log color x.messages

/-! ## Steps that follow one another -/

theorem bind_of_ok {x : Logged α} {a : α} (h : x.result = .ok a) (f : α → Logged β) :
    x >>= f = ⟨x.messages ++ (f a).messages, (f a).result⟩ := by
  change bind x f = _
  rw [bind, h]

theorem bind_of_error {x : Logged α} {e : Failure} (h : x.result = .error e) (f : α → Logged β) :
    x >>= f = ⟨x.messages, .error e⟩ := by
  change bind x f = _
  rw [bind, h]

theorem bind_result_eq_ok_iff {x : Logged α} {f : α → Logged β} {b : β} :
    (x >>= f).result = .ok b ↔ ∃ a, x.result = .ok a ∧ (f a).result = .ok b := by
  cases h : x.result with
  | error e => simp [bind_of_error h]
  | ok a => simp [bind_of_ok h]

theorem output_bind_of_ok {x : Logged α} {a : α} (h : x.result = .ok a) (f : α → Logged β)
    (log : LogLevel) (color : Bool) :
    (x >>= f).output log color = x.output log color ++ (f a).output log color := by
  rw [bind_of_ok h, output, Output.ofMessages_append]
  rfl

theorem output_bind_of_error {x : Logged α} {e : Failure} (h : x.result = .error e)
    (f : α → Logged β) (log : LogLevel) (color : Bool) :
    (x >>= f).output log color = x.output log color := by
  rw [bind_of_error h]
  rfl

theorem output_say (level : LogLevel) (kind : MessageKind) (text : String) (log : LogLevel)
    (color : Bool) :
    (say level kind text).output log color = (Message.mk level kind text).output log color :=
  Output.ofMessages_singleton ..

theorem mem_messages_bind {x : Logged α} {f : α → Logged β} {m : Message} :
    m ∈ (x >>= f).messages ↔
      m ∈ x.messages ∨ ∃ a, x.result = .ok a ∧ m ∈ (f a).messages := by
  cases h : x.result with
  | error e => simp [bind_of_error h]
  | ok a => simp [bind_of_ok h]

theorem each_cons (f : α → Logged β) (a : α) (as : List α) :
    each f (a :: as) = f a >>= fun b => each f as >>= fun bs => pure (b :: bs) := rfl

theorem each_map {γ : Type} (f : β → Logged γ) (g : α → β) (as : List α) :
    each f (as.map g) = each (fun a => f (g a)) as := by
  induction as with
  | nil => rfl
  | cons a as ih => rw [List.map_cons, each_cons, ih, each_cons]

theorem mem_messages_each {f : α → Logged β} {as : List α} {m : Message}
    (h : m ∈ (each f as).messages) : ∃ a ∈ as, m ∈ (f a).messages := by
  induction as with
  | nil => cases h
  | cons a as ih =>
    rw [each_cons] at h
    rcases mem_messages_bind.1 h with ha | ⟨b, -, h⟩
    · exact ⟨a, List.mem_cons_self, ha⟩
    · rcases mem_messages_bind.1 h with has | ⟨bs, -, hnone⟩
      · obtain ⟨a', ha', hm⟩ := ih has
        exact ⟨a', List.mem_cons_of_mem a ha', hm⟩
      · cases hnone

/-- All steps succeed. -/
theorem each_result_of_ok {f : α → Logged β} {g : α → β} {as : List α}
    (h : ∀ a ∈ as, (f a).result = .ok (g a)) : (each f as).result = .ok (as.map g) := by
  induction as with
  | nil => rfl
  | cons a as ih =>
    obtain ⟨ha, has⟩ := List.forall_mem_cons.1 h
    rw [each_cons, bind_of_ok ha, bind_of_ok (ih has)]
    rfl

/-- If there is a result, then all steps have succeeded. -/
theorem exists_of_each_result_ok {f : α → Logged β} {as : List α} {bs : List β}
    (h : (each f as).result = .ok bs) : ∀ a ∈ as, ∃ b, (f a).result = .ok b := by
  induction as generalizing bs with
  | nil => simp
  | cons a as ih =>
    rw [each_cons, bind_result_eq_ok_iff] at h
    obtain ⟨b, hb, h⟩ := h
    obtain ⟨bs, hbs, -⟩ := bind_result_eq_ok_iff.1 h
    exact List.forall_mem_cons.2 ⟨⟨b, hb⟩, ih hbs⟩

/-- **The first failure** ends the steps; the messages up to it are kept. -/
theorem each_of_error {f : α → Logged β} {before after : List α} {a : α} {e : Failure}
    (hbefore : ∀ a ∈ before, ∃ b, (f a).result = .ok b) (ha : (f a).result = .error e) :
    each f (before ++ a :: after) =
      ⟨before.flatMap (fun a => (f a).messages) ++ (f a).messages, .error e⟩ := by
  induction before with
  | nil =>
    rw [List.nil_append, each_cons, bind_of_error ha]
    rfl
  | cons a' before ih =>
    obtain ⟨⟨b, hb⟩, hbefore⟩ := List.forall_mem_cons.1 hbefore
    rw [List.cons_append, each_cons, bind_of_ok hb, ih hbefore, bind_of_error rfl]
    simp [List.flatMap_cons, List.append_assoc]

end Logged

end ProfileSync
