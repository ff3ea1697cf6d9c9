/-
  What readers meet, in the order of the tokens.

  * `Grammar.Meets`: the functions that a reader meets, those that it still holds and the
    names among the tokens that are left come from what was held before and from the
    tokens;
  * `Grammar.RulesMeet`: rules as they should be, and `Grammar.Orderly`: with such rules a
    reader that holds nothing meets functions of the tokens that it reads;
  * an instance for each way to put readers together, so that those of the grammar are
    orderly because of their parts.
-/
import ProfileSync.Proofs.Grammar
import ProfileSync.Proofs.Heads

namespace ProfileSync

/-! ## Functions of items -/

theorem functionsOf_append (items items' : List Item) :
    Item.functionsOf (items ++ items') = Item.functionsOf items ++ Item.functionsOf items' := by
  induction items with
  | nil => rfl
  | cons i items ih =>
    rw [List.cons_append, Item.functionsOf, Item.functionsOf, ih, List.append_assoc]

theorem functionsOf_flatMap_items (attributes : List Attribute) :
    Item.functionsOf (attributes.flatMap Attribute.items) = Attribute.functionsOf attributes := by
  induction attributes with
  | nil => rfl
  | cons a attributes ih =>
    rw [List.flatMap_cons, functionsOf_append, ih, Attribute.functionsOf]
    cases a <;> rfl

namespace Grammar

open Token (heads)

variable {α β : Type} {calm : Prop} {rules : Rule → Reader Piece} {s s' : Scan}
  {find : List Token → List (String × Nat)}

/-- Unless something is disturbed, nothing is found among tokens. -/
def Free (calm : Prop) (find : List Token → List (String × Nat)) (ts : List Token) : Prop :=
  calm → Token.gathered find ts = []

theorem Free.suffix {ts ts' : List Token} (h : Free calm find ts) (hsuffix : ts' <:+ ts) :
    Free calm find ts' := fun hcalm =>
  List.sublist_nil.1 (h hcalm ▸ Token.gathered_suffix hsuffix)

theorem Free.content {d : Delimiter} {content rest : List Token}
    (h : Free calm find (.group d content :: rest)) : Free calm find content := fun hcalm =>
  List.sublist_nil.1 (h hcalm ▸ Token.gathered_content d content rest)

theorem Free.nested {ts : List Token} (h : Free calm Token.innerAt ts) :
    Free calm Token.nestedAt ts := fun hcalm => Token.nestedHeads_eq_nil (h hcalm)

/-- A reader that holds some functions meets functions and holds others; these and the
    names that are left come from those held before and from the tokens. -/
def Meets (calm : Prop) (find : List Token → List (String × Nat)) (rules : Rule → Reader Piece)
    (held : List (String × Nat)) (p : Grammar α) (holds : α → List (String × Nat)) : Prop :=
  ∀ ⦃s a s'⦄, Free calm find s.tokens → Reads rules p s a s' →
    ∃ met, s'.met = met ++ s.met ∧
      Among calm (Item.functionsOf met.reverse ++ (holds a ++ heads s'.tokens))
        (held ++ heads s.tokens)

/-- A reader meets nothing, and what it holds is found in the tokens that it reads. -/
def Holds (calm : Prop) (find found : List Token → List (String × Nat))
    (rules : Rule → Reader Piece) (p : Grammar α) (holds : α → List (String × Nat)) : Prop :=
  ∀ ⦃s a s'⦄, Free calm find s.tokens → Reads rules p s a s' → s'.met = s.met ∧
    Among calm (holds a ++ Token.gathered found s'.tokens) (Token.gathered found s.tokens)

/-! ## Readers that hold functions -/

section
variable {held held' : List (String × Nat)} {holds : α → List (String × Nat)}
  {holds' : β → List (String × Nat)} {p : Grammar α} {f : α → Grammar β}

theorem Holds.meets (h : Holds calm find Token.headAt rules p holds) (held : List (String × Nat)) :
    Meets calm find rules held p fun a => held ++ holds a := by
  intro s a s' hfree hread
  obtain ⟨hmet, hamong⟩ := h hfree hread
  refine ⟨[], hmet, ?_⟩
  rw [List.append_assoc]
  exact (Among.refl held).append hamong

theorem Meets.pure {a : α} (h : Among calm (holds a) held) :
    Meets calm find rules held (Pure.pure a) holds := by
  intro s b s' _ hread
  obtain ⟨rfl, rfl⟩ := reads_pure.1 hread
  exact ⟨[], rfl, h.append (Among.refl _)⟩

theorem Meets.bind (hp : Meets calm find rules held p holds)
    (hf : ∀ a, Meets calm find rules (holds a) (f a) holds') :
    Meets calm find rules held (p >>= f) holds' := by
  intro s b s' hfree hread
  obtain ⟨a, s₁, hread, hread'⟩ := reads_bind.1 hread
  obtain ⟨met, hmet, hamong⟩ := hp hfree hread
  obtain ⟨met', hmet', hamong'⟩ := hf a (hfree.suffix hread.suffix) hread'
  refine ⟨met' ++ met, by rw [hmet', hmet, List.append_assoc], ?_⟩
  rw [List.reverse_append, functionsOf_append, List.append_assoc]
  exact ((Among.refl _).append hamong').trans hamong

theorem Meets.ite {c : Prop} [Decidable c] {p q : Grammar α}
    (hp : Meets calm find rules held p holds) (hq : Meets calm find rules held q holds) :
    Meets calm find rules held (if c then p else q) holds := by
  split
  · exact hp
  · exact hq

/-- Readers that go on in the same way. -/
theorem Meets.join {c : Prop} [Decidable c] {p q : Grammar α}
    (hp : Meets calm find rules held p holds) (hq : Meets calm find rules held q holds)
    (hf : ∀ a, Meets calm find rules (holds a) (f a) holds') :
    Meets calm find rules held (if c then p >>= f else q >>= f) holds' :=
  .ite (hp.bind hf) (hq.bind hf)

theorem Meets.failure : Meets calm find rules held failure holds := fun _ _ _ _ hread =>
  absurd hread not_reads_failure

theorem Meets.of_among (h : Meets calm find rules held p holds) (hheld : Among calm held held') :
    Meets calm find rules held' p holds := by
  intro s a s' hfree hread
  obtain ⟨met, hmet, hamong⟩ := h hfree hread
  exact ⟨met, hmet, hamong.trans (hheld.append (Among.refl _))⟩

/-- Items that are held are met. -/
theorem Meets.meet (items : List Item) (rest : List (String × Nat)) :
    Meets calm find rules (Item.functionsOf items ++ rest) (meet items) fun _ => rest := by
  intro s a s' _ hread
  rw [reads_meet.1 hread]
  refine ⟨items.reverse, rfl, ?_⟩
  rw [List.reverse_reverse, List.append_assoc]
  exact Among.refl _

theorem Meets.meetAll (attributes : List Attribute) (rest : List (String × Nat)) :
    Meets calm find rules (Attribute.functionsOf attributes ++ rest) (meetAll attributes)
      fun _ => rest := by
  rw [Grammar.meetAll, ← functionsOf_flatMap_items]
  exact .meet _ rest

theorem Meets.meet_last (items : List Item) :
    Meets calm find rules (Item.functionsOf items) (Grammar.meet items) fun _ => [] := by
  rw [← List.append_nil (Item.functionsOf items)]
  exact .meet items []

theorem Meets.meetAll_last (attributes : List Attribute) :
    Meets calm find rules (Attribute.functionsOf attributes) (Grammar.meetAll attributes)
      fun _ => [] := by
  rw [Grammar.meetAll, ← functionsOf_flatMap_items]
  exact .meet_last _

/-- All that is left of a group are the tokens after it. -/
theorem Meets.group (h : Meets calm find rules held p holds) (d : Delimiter) :
    Meets calm find rules held (group d p) holds := by
  intro s a s' hfree hread
  obtain ⟨content, s₁, htokens, hread, hnil, hmet⟩ := hread.group
  rw [htokens] at hfree ⊢
  obtain ⟨met, hmet', hamong⟩ := h (s := { s with tokens := content }) hfree.content hread
  refine ⟨met, by rw [hmet, hmet'], ?_⟩
  rw [hnil, Token.heads_nil, List.append_nil] at hamong
  rw [Token.heads_group, ← List.append_assoc, ← List.append_assoc]
  exact hamong.append (Among.refl _)

/-- The items that are met by reading something are held. -/
theorem Meets.itemsOf (h : Meets calm find rules [] p holds) :
    Holds calm find Token.headAt rules (itemsOf p) fun x => Item.functionsOf x.2 ++ holds x.1 := by
  rintro s ⟨a, items⟩ s' hfree hread
  obtain ⟨s₁, hinside, rfl, rfl⟩ := reads_itemsOf.1 hread
  obtain ⟨met, hmet, hamong⟩ := h (s := { s with met := [] }) hfree hinside
  refine ⟨rfl, ?_⟩
  rw [hmet, List.append_nil, List.append_assoc]
  exact hamong

end

/-! ## Readers that meet nothing -/

/-- A reader leaves the items that were met as they are. -/
class Silent (p : Grammar α) : Prop where
  met : ∀ ⦃rules s a s'⦄, Reads rules p s a s' → s'.met = s.met

section
variable {p q : Grammar α} {f : α → Grammar β} {held : List (String × Nat)}

/-- What was held before is still held. -/
theorem Silent.meets [Silent p] : Meets calm find rules held p fun _ => held :=
  fun _ _ _ _ hread =>
    ⟨[], met hread, (Among.refl held).append (.of_sublist (Token.gathered_suffix hread.suffix))⟩

instance (a : α) : Silent (Pure.pure a : Grammar α) := ⟨fun _ _ _ _ h => by rw [(reads_pure.1 h).2]⟩

instance (a : α) : Silent (Grammar.pure a) := inferInstanceAs (Silent (Pure.pure a : Grammar α))

instance Silent.bind [Silent p] [∀ a, Silent (f a)] : Silent (p >>= f) := by
  refine ⟨fun rules s b s' h => ?_⟩
  obtain ⟨a, s₁, hp, hf⟩ := reads_bind.1 h
  rw [met hf, met hp]

/-- A pair that is read is taken apart. -/
instance {γ : Type} {p : Grammar (α × β)} {f : α × β → Grammar γ} [Silent p]
    [∀ a b, Silent (f (a, b))] : Silent (p >>= f) :=
  @Silent.bind _ _ _ _ _ fun (a, b) => inferInstanceAs (Silent (f (a, b)))

instance {c : Prop} [Decidable c] [Silent p] [Silent q] : Silent (if c then p else q) :=
  ⟨fun _ _ _ _ h => h.of_ite.elim (Silent.met ·) (Silent.met ·)⟩

instance : Silent (failure : Grammar α) := ⟨fun _ _ _ _ h => absurd h not_reads_failure⟩

instance : Silent tokens := ⟨fun _ _ _ _ h => by rw [(reads_tokens.1 h).2]⟩

instance {n : Nat} : Silent (advance n) := ⟨fun _ _ _ _ h => by rw [reads_advance.1 h]⟩

instance : Silent anything := by
  refine ⟨?_⟩
  rintro _ _ _ _ ⟨r, hr, -, rfl⟩
  cases hr
  rfl

instance {d : Delimiter} [Silent p] : Silent (group d p) := by
  refine ⟨fun rules s a s' h => ?_⟩
  obtain ⟨content, s₁, -, hp, -, hmet⟩ := h.group
  rw [hmet, Silent.met hp]

instance : Silent (itemsOf p) := by
  refine ⟨?_⟩
  rintro _ _ ⟨a, items⟩ _ h
  obtain ⟨s₁, -, -, rfl⟩ := reads_itemsOf.1 h
  rfl

instance : Silent (hidden p) := ⟨fun _ _ _ _ h => by
  obtain ⟨s₁, -, rfl⟩ := reads_hidden.1 h
  rfl⟩

instance : Silent (ahead p) := by
  refine ⟨?_⟩
  rintro _ _ _ _ ⟨r, hr, -, rfl⟩
  cases hr
  rfl

instance [Silent p] : Silent (attempt p) := by
  refine ⟨fun rules s a s' h => ?_⟩
  obtain ⟨r, hr, -, rfl⟩ := h
  unfold attempt at hr
  split at hr
  · rename_i r₁ hp
    cases hr
    exact Silent.met ⟨r₁, hp, rfl, rfl⟩
  · cases hr
    rfl

instance {more : List Token → Bool} {n : Nat} [Silent p] : Silent (repeatUpTo more p n) := by
  induction n with
  | zero => unfold repeatUpTo; infer_instance
  | succ n ih => unfold repeatUpTo sees; infer_instance

instance {more : List Token → Bool} [Silent p] : Silent (many more p) := by
  unfold many; infer_instance

end

/-! ### Words, marks and paths without arguments -/

instance {see : List Token → Bool} : Silent (sees see) := by unfold sees; infer_instance

instance {see : List Token → Bool} : Silent (expect see) := by unfold expect; infer_instance

instance {w : String} : Silent (word w) := by unfold word; infer_instance

instance {m : String} : Silent (marks m) := by unfold marks; infer_instance

instance {w : String} : Silent (optionalWord w) := by unfold optionalWord; infer_instance

instance {m : String} : Silent (optionalMarks m) := by unfold optionalMarks; infer_instance

instance : Silent name := by unfold name; infer_instance

instance {w : String} : Silent (nameOr w) := by unfold nameOr; infer_instance

instance : Silent newName := by unfold newName; infer_instance

instance : Silent anyWord := by unfold anyWord; infer_instance

instance : Silent lifetime := by unfold lifetime; infer_instance

instance : Silent optionalLifetime := by unfold optionalLifetime; infer_instance

instance : Silent literal := by unfold literal; infer_instance

instance : Silent anyGroup := by
  unfold anyGroup
  refine @Silent.bind _ _ _ _ _ fun ts => ?_
  split <;> infer_instance

instance : Silent plainPath := by unfold plainPath; infer_instance

instance : Silent invocation := by unfold invocation; infer_instance

instance : Silent visibility := by
  unfold visibility
  refine @Silent.bind _ _ _ _ _ fun isPublic => ?_
  split
  · refine @Silent.bind _ _ _ _ _ fun narrowed => ?_
    dsimp only
    split
    · refine @Silent.bind _ _ _ _ _ fun ts => ?_
      split <;> infer_instance
    · infer_instance
  · infer_instance

/-! ### Repetition -/

section
variable {p : Grammar α} {holds : α → List (String × Nat)}

/-- A reader that meets nothing can be used while something is held. -/
theorem Meets.holds_of_silent [Silent p] (h : Meets calm find rules [] p holds) :
    Holds calm find Token.headAt rules p holds := by
  intro s a s' hfree hread
  obtain ⟨met, hmet, hamong⟩ := h hfree hread
  have hnone : met = [] := by
    rw [Silent.met hread] at hmet
    exact List.append_left_eq_self.1 hmet.symm
  rw [hnone] at hamong
  exact ⟨Silent.met hread, hamong⟩

theorem Meets.repeatUpTo (h : Meets calm find rules [] p fun _ => []) (more : List Token → Bool)
    (n : Nat) : Meets calm find rules [] (repeatUpTo more p n) fun _ => [] := by
  induction n with
  | zero => exact .pure (.refl [])
  | succ n ih =>
    exact Silent.meets.bind fun seen =>
      .ite (h.bind fun _ => ih.bind fun _ => .pure (.refl [])) (.pure (.refl []))

theorem Meets.many (h : Meets calm find rules [] p fun _ => []) (more : List Token → Bool) :
    Meets calm find rules [] (many more p) fun _ => [] :=
  Silent.meets.bind fun _ => h.repeatUpTo more _

end

/-! ## Orderly readers -/

/-- Rules as they should be: what they meet comes from the tokens that they read.  For an
    item only names in attributes within attributes disturb the order, for other things
    those in any attribute of what they stand in. -/
structure RulesMeet (calm : Prop) (rules : Rule → Reader Piece) : Prop where
  rule : ∀ r, Meets calm Token.innerAt rules [] (Grammar.rule r) fun _ => []
  item : Meets calm Token.nestedAt rules [] (Grammar.rule .item) fun _ => []

/-- With such rules the functions that a reader meets come from the tokens that it
    reads. -/
class Orderly (p : Grammar α) : Prop where
  meets : ∀ {calm : Prop} {rules : Rule → Reader Piece}, RulesMeet calm rules →
    Meets calm Token.innerAt rules [] p fun _ => []

section
variable {p q : Grammar α} {f : α → Grammar β}

instance (priority := low) [Silent p] : Orderly p := ⟨fun _ => Silent.meets⟩

instance Orderly.bind [Orderly p] [∀ a, Orderly (f a)] : Orderly (p >>= f) :=
  ⟨fun h => (Orderly.meets h).bind fun _ => Orderly.meets h⟩

/-- A pair that is read is taken apart. -/
instance {γ : Type} {p : Grammar (α × β)} {f : α × β → Grammar γ} [Orderly p]
    [∀ a b, Orderly (f (a, b))] : Orderly (p >>= f) :=
  @Orderly.bind _ _ _ _ _ fun (a, b) => inferInstanceAs (Orderly (f (a, b)))

instance {c : Prop} [Decidable c] [Orderly p] [Orderly q] : Orderly (if c then p else q) :=
  ⟨fun h => .ite (Orderly.meets h) (Orderly.meets h)⟩

theorem Orderly.of_ite {c : Prop} [Decidable c] (hp : Orderly p) (hq : Orderly q) :
    Orderly (if c then p else q) := inferInstance

/-- Readers that go on in the same way. -/
theorem Orderly.join {c : Prop} [Decidable c] {p : Grammar Unit} {f : Unit → Grammar α} [Orderly p]
    (hf : ∀ u, Orderly (f u)) : Orderly (if c then p >>= f else f ()) := inferInstance

instance {r : Rule} : Orderly (rule r) := ⟨fun h => h.rule r⟩

instance {d : Delimiter} [Orderly p] : Orderly (group d p) := ⟨fun h => (Orderly.meets h).group d⟩

instance {more : List Token → Bool} [Orderly p] : Orderly (many more p) :=
  ⟨fun h => (Orderly.meets h).many more⟩

instance {stop : List Token → Bool} {separator : String} {strict : Bool} {n : Nat} [Orderly p] :
    Orderly (separatedUpTo stop separator strict p n) := by
  induction n with
  | zero => unfold separatedUpTo; infer_instance
  | succ n ih => unfold separatedUpTo; infer_instance

instance {stop : List Token → Bool} {separator : String} [Orderly p] :
    Orderly (listUntil stop separator p) := by
  unfold listUntil; infer_instance

instance {stop : List Token → Bool} {separator : String} [Orderly p] :
    Orderly (listWhile stop separator p) := by
  unfold listWhile; infer_instance

instance [Orderly p] : Orderly (commaList p) := by unfold commaList; infer_instance

end

end Grammar

end ProfileSync
