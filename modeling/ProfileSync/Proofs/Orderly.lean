/-
  The grammar is orderly.

  * `Grammar.holds_outerAttributes`, `Grammar.holds_innerAttributes`: what attributes
    hold comes from their brackets;
  * `Grammar.meets_itemsOf_inner`: the attributes of a body are met before what stands
    in front of it, and only there is the order disturbed;
  * an instance of `Grammar.Orderly` for each reader of the grammar, and
    `Rule.rulesMeet_run`: so the rules are as they should be, however deep they stand
    inside each other.
-/
import ProfileSync.Proofs.Items
import ProfileSync.Proofs.Meeting

namespace ProfileSync

theorem Attribute.functionsOf_eq_flatMap :
    Attribute.functionsOf = List.flatMap Attribute.functions := by
  funext attributes
  induction attributes with
  | nil => rfl
  | cons a attributes ih => rw [Attribute.functionsOf, ih, List.flatMap_cons]

namespace Grammar

open Token (heads)

-- some readers have many parts, and an instance is needed for each
set_option synthInstance.maxSize 100000

variable {α β : Type} {calm : Prop} {rules : Rule → Reader Piece} {s s' : Scan}
  {find found : List Token → List (String × Nat)} {held : List (String × Nat)}

/-! ## Attributes -/

theorem Reads.mark {m : String} {c : Char} {u : Unit} (hm : m.toList = [c])
    (h : Reads rules (marks m) s u s') : ∃ joint, s.tokens = .mark c joint :: s'.tokens := by
  rw [marks, reads_bind] at h
  obtain ⟨_, s₁, hexpect, hadvance⟩ := h
  obtain ⟨hmarks, rfl⟩ := reads_expect.1 hexpect
  rw [atMarks, hm] at hmarks
  have hlength : m.length = 1 := by rw [← String.length_toList, hm]; rfl
  rw [reads_advance.1 hadvance, hlength]
  cases htokens : s₁.tokens with
  | nil => rw [htokens] at hmarks; cases hmarks
  | cons t rest =>
    rw [htokens] at hmarks
    cases t with
    | mark d joint => exact ⟨joint, by rw [eq_of_beq hmarks]; rfl⟩
    | _ => cases hmarks

instance : Silent attributeBody := by unfold attributeBody; infer_instance

instance : Silent outerAttribute := by unfold outerAttribute; infer_instance

/-- What an attribute holds comes from what stands in its brackets. -/
theorem meets_attributeBody (h : RulesMeet calm rules) :
    Meets calm Token.innerAt rules [] attributeBody Attribute.functions := by
  unfold attributeBody
  refine (Orderly.meets h).bind fun _ => .join (Orderly.meets h) (Orderly.meets h) fun _ => ?_
  refine (Orderly.meets h).bind fun _ => .ite ((Orderly.meets h).bind fun _ => .pure (.refl [])) ?_
  refine (Orderly.meets h).bind fun _ => .ite ?_ (.pure (.refl []))
  refine (Orderly.meets h).bind fun ts => .ite ((Orderly.meets h).bind fun _ => .pure (.refl [])) ?_
  refine .ite .failure (((h.rule _).itemsOf.meets []).bind fun x => ?_)
  obtain ⟨b, items⟩ := x
  refine .pure ?_
  rw [List.nil_append, List.append_nil]
  exact .refl _

theorem holds_bracket (h : RulesMeet calm rules) {content rest : List Token} {a : Attribute}
    (hfree : Free calm Token.innerAt content) (hs : s.tokens = .group .bracket content :: rest)
    (hread : Reads rules (group .bracket attributeBody) s a s') :
    Among calm a.functions (heads content) := by
  obtain ⟨content', s₁, htokens, hinside, hnil, -⟩ := hread.group
  rw [hs] at htokens
  cases htokens
  have hbody := (meets_attributeBody h).holds_of_silent
  obtain ⟨-, hamong⟩ := hbody (s := { s with tokens := content }) hfree hinside
  rw [hnil] at hamong
  exact (Among.of_sublist (List.sublist_append_left _ _)).trans hamong

theorem holds_outerAttribute (h : RulesMeet calm rules) :
    Holds calm Token.nestedAt Token.headAt rules outerAttribute Attribute.functions := by
  intro s a s' hfree hread
  obtain ⟨_, s₁, hmark, hbracket⟩ := reads_bind.1 hread
  obtain ⟨joint, htokens⟩ := hmark.mark rfl
  obtain ⟨content, s₂, hgroup, -⟩ := hbracket.group
  rw [htokens, hgroup] at hfree ⊢
  have hcontent : Free calm Token.innerAt content := fun hcalm =>
    (List.append_eq_nil_iff.1 (hfree hcalm)).1
  exact ⟨Silent.met hread, (holds_bracket h hcontent hgroup hbracket).append (.refl _)⟩

/-- An attribute of what it stands in. -/
def innerAttribute : Grammar Attribute := do
  marks "#"
  marks "!"
  group .bracket attributeBody

theorem innerAttributes_eq : innerAttributes = many atInnerAttribute innerAttribute := rfl

instance : Silent innerAttribute := by unfold innerAttribute; infer_instance

/-- The names in such an attribute are gathered both among all names and among those in
    attributes of this kind. -/
theorem holds_innerAttribute (h : RulesMeet calm rules) :
    Holds calm Token.nestedAt Token.headAt rules innerAttribute Attribute.functions ∧
      Holds calm Token.nestedAt Token.innerAt rules innerAttribute Attribute.functions := by
  have hread : ∀ {s a s'}, Free calm Token.nestedAt s.tokens → Reads rules innerAttribute s a s' →
      ∃ joint joint' content, s.tokens = .mark '#' joint :: .mark '!' joint' ::
        .group .bracket content :: s'.tokens ∧ Among calm a.functions (heads content) := by
    intro s a s' hfree hread
    obtain ⟨_, s₁, hmark, hread⟩ := reads_bind.1 hread
    obtain ⟨_, s₂, hmark', hbracket⟩ := reads_bind.1 hread
    obtain ⟨joint, htokens⟩ := hmark.mark rfl
    obtain ⟨joint', htokens'⟩ := hmark'.mark rfl
    obtain ⟨content, s₃, hgroup, -⟩ := hbracket.group
    rw [htokens, htokens', hgroup] at hfree ⊢
    have hcontent : Free calm Token.innerAt content := fun hcalm =>
      (List.append_eq_nil_iff.1 (hfree hcalm)).1
    exact ⟨joint, joint', content, rfl, holds_bracket h hcontent hgroup hbracket⟩
  constructor
  · intro s a s' hfree hs
    obtain ⟨joint, joint', content, htokens, hamong⟩ := hread hfree hs
    rw [htokens]
    exact ⟨Silent.met hs, hamong.append (.refl _)⟩
  · intro s a s' hfree hs
    obtain ⟨joint, joint', content, htokens, hamong⟩ := hread hfree hs
    refine ⟨Silent.met hs, ?_⟩
    rw [htokens]
    refine hamong.append (.of_sublist ?_)
    exact Token.gathered_suffix ⟨[_, _], rfl⟩

theorem Holds.repeatUpTo {p : Grammar α} {holds : α → List (String × Nat)}
    (h : Holds calm find found rules p holds) (more : List Token → Bool) (n : Nat) :
    Holds calm find found rules (repeatUpTo more p n) (List.flatMap holds) := by
  induction n with
  | zero =>
    intro s as s' _ hread
    obtain ⟨rfl, rfl⟩ := reads_pure.1 hread
    exact ⟨rfl, .refl _⟩
  | succ n ih =>
    intro s as s' hfree hread
    rw [Grammar.repeatUpTo, reads_bind] at hread
    obtain ⟨seen, s₁, hseen, hread⟩ := hread
    obtain ⟨-, rfl⟩ := reads_sees.1 hseen
    split at hread
    · obtain ⟨a, s₂, ha, hread⟩ := reads_bind.1 hread
      obtain ⟨as', s₃, has, hpure⟩ := reads_bind.1 hread
      obtain ⟨rfl, rfl⟩ := reads_pure.1 hpure
      obtain ⟨hmet, hamong⟩ := h hfree ha
      obtain ⟨hmet', hamong'⟩ := ih (hfree.suffix ha.suffix) has
      refine ⟨hmet'.trans hmet, ?_⟩
      rw [List.flatMap_cons, List.append_assoc]
      exact ((Among.refl _).append hamong').trans hamong
    · obtain ⟨rfl, rfl⟩ := reads_pure.1 hread
      exact ⟨rfl, .refl _⟩

theorem Holds.many {p : Grammar α} {holds : α → List (String × Nat)}
    (h : Holds calm find found rules p holds) (more : List Token → Bool) :
    Holds calm find found rules (many more p) (List.flatMap holds) := by
  intro s as s' hfree hread
  obtain ⟨ts, s₁, hts, hrepeat⟩ := reads_bind.1 hread
  obtain ⟨-, rfl⟩ := reads_tokens.1 hts
  exact h.repeatUpTo more _ hfree hrepeat

/-- **What attributes hold** comes from their brackets. -/
theorem holds_outerAttributes (h : RulesMeet calm rules) :
    Holds calm Token.nestedAt Token.headAt rules outerAttributes Attribute.functionsOf := by
  rw [Attribute.functionsOf_eq_flatMap]
  exact (holds_outerAttribute h).many _

theorem holds_innerAttributes (h : RulesMeet calm rules) :
    Holds calm Token.nestedAt Token.headAt rules innerAttributes Attribute.functionsOf ∧
      Holds calm Token.nestedAt Token.innerAt rules innerAttributes Attribute.functionsOf := by
  rw [Attribute.functionsOf_eq_flatMap]
  exact ⟨(holds_innerAttribute h).1.many _, (holds_innerAttribute h).2.many _⟩

/-- Attributes of what follows them are met before that. -/
theorem Orderly.after_outerAttributes {f : List Attribute → Grammar α}
    (hf : ∀ {calm rules} as, RulesMeet calm rules →
      Meets calm Token.innerAt rules (Attribute.functionsOf as) (f as) fun _ => []) :
    Orderly (outerAttributes >>= f) := by
  refine ⟨fun h => ?_⟩
  have hnested : Holds _ Token.innerAt Token.headAt _ outerAttributes Attribute.functionsOf :=
    fun s as s' hfree hread => holds_outerAttributes h hfree.nested hread
  exact (hnested.meets []).bind fun as => hf as h

/-- What is met by reading something is held, and then met or left out. -/
theorem Orderly.after_itemsOf {p : Grammar α} [Orderly p] {f : α × List Item → Grammar β}
    (hf : ∀ {calm rules} a items, RulesMeet calm rules →
      Meets calm Token.innerAt rules (Item.functionsOf items) (f (a, items)) fun _ => []) :
    Orderly (itemsOf p >>= f) := by
  refine ⟨fun h => ((Orderly.meets h).itemsOf.meets []).bind fun x => ?_⟩
  obtain ⟨a, items⟩ := x
  rw [List.nil_append, List.append_nil]
  exact hf a items h

/-- What is held is left out. -/
theorem Meets.drop (h : RulesMeet calm rules) {p : Grammar α} [Orderly p] :
    Meets calm Token.innerAt rules held p fun _ => [] :=
  (Orderly.meets h).of_among (.of_sublist (List.nil_sublist held))

instance : Orderly attributes := .after_outerAttributes fun as _ => .meetAll_last as

/-- Attributes of what follows them are met before that, or left out. -/
theorem meets_attributed (h : RulesMeet calm rules) (outer : List Attribute) {p : Grammar Piece}
    [Orderly p] : Meets calm Token.innerAt rules (Attribute.functionsOf outer) (attributed outer p)
      fun _ => [] := by
  refine ((Orderly.meets h).itemsOf.meets _).bind fun x => ?_
  obtain ⟨piece, items⟩ := x
  rw [List.append_nil]
  have hkept : Meets calm Token.innerAt rules (Attribute.functionsOf outer ++ Item.functionsOf items)
      (meetAll (if piece.isVerbatim then [] else outer)) fun _ => Item.functionsOf items := by
    split
    · exact (Meets.meetAll [] _).of_among (.of_sublist (List.sublist_append_right _ _))
    · exact .meetAll outer _
  exact hkept.bind fun _ => (Meets.meet_last items).bind fun _ => .pure (.refl [])

/-! ## Blocks -/

/-- **The attributes of a body are met first,** whatever is held already.  Where none of
    them holds a function that leaves the order as it is. -/
theorem meets_itemsOf_inner (h : RulesMeet calm rules) (d : Delimiter) {p : Grammar α} [Orderly p] :
    Meets calm Token.innerAt rules held
      (itemsOf (group d do let inner ← innerAttributes; let _ ← p; return inner))
      fun x => Attribute.functionsOf x.1 ++ (held ++ Item.functionsOf x.2) := by
  rintro s ⟨inner, items⟩ s' hfree hread
  obtain ⟨s₁, hgroup, rfl, rfl⟩ := reads_itemsOf.1 hread
  obtain ⟨content, s₂, htokens, hinside, hnil, hmet⟩ := hgroup.group
  obtain ⟨inner', s₃, hinner, hrest⟩ := reads_bind.1 hinside
  obtain ⟨a, s₄, hp, hpure⟩ := reads_bind.1 hrest
  obtain ⟨rfl, rfl⟩ := reads_pure.1 hpure
  rw [htokens] at hfree ⊢
  obtain ⟨hattributes, hinnerHeads⟩ := holds_innerAttributes h
  have hcontent : Free calm Token.innerAt content := hfree.content
  obtain ⟨hnone, hamong⟩ := hattributes hcontent.nested hinner
  obtain ⟨met, hmet', hamong'⟩ := Orderly.meets h (hcontent.suffix hinner.suffix) hp
  have hitems : Among calm (Attribute.functionsOf inner ++ Item.functionsOf s₁.met.reverse)
      (heads content) := by
    rw [hnil, Token.heads_nil, List.append_nil, List.append_nil, List.nil_append] at hamong'
    rw [hmet, hmet', hnone, List.append_nil]
    exact ((Among.refl _).append hamong').trans hamong
  have hempty : calm → Attribute.functionsOf inner = [] := by
    intro hcalm
    have hsubset := (hinnerHeads hcontent.nested hinner).2.subset
    rw [hcontent hcalm] at hsubset
    exact (List.append_eq_nil_iff.1 (List.subset_nil.1 hsubset)).1
  have hswap : Among calm (Attribute.functionsOf inner ++ (held ++ Item.functionsOf s₁.met.reverse))
      (held ++ (Attribute.functionsOf inner ++ Item.functionsOf s₁.met.reverse)) := by
    rw [← List.append_assoc, ← List.append_assoc]
    exact (Among.swap hempty).append (.refl _)
  refine ⟨[], rfl, ?_⟩
  rw [Token.heads_group, ← List.append_assoc held]
  exact (hswap.trans ((Among.refl held).append hitems)).append (.refl _)

instance : Orderly body := by
  refine ⟨fun h => ?_⟩
  refine (meets_itemsOf_inner h .brace (p := rule .statements)).bind fun x => ?_
  obtain ⟨inner, items⟩ := x
  exact (Meets.meetAll inner _).bind fun _ => .meet_last items

instance {p : Grammar Unit} [Orderly p] : Orderly (conditionAndBody p) := by
  refine ⟨fun h => ?_⟩
  refine ((Orderly.meets h).itemsOf.meets []).bind fun x => ?_
  obtain ⟨_, condition⟩ := x
  rw [List.nil_append, List.append_nil]
  refine (meets_itemsOf_inner h .brace (p := rule .statements)).bind fun x => ?_
  obtain ⟨inner, items⟩ := x
  exact (Meets.meetAll inner _).bind fun _ => (Meets.meet condition _).bind fun _ => .meet_last items

instance : Orderly block := by unfold block; infer_instance

/-! ## Paths -/

instance : Orderly typeHere := by unfold typeHere; infer_instance

instance : Orderly constantArgument := by unfold constantArgument; infer_instance

instance {stop : List Token → Bool} : Orderly (boundsUntil stop) := by
  unfold boundsUntil; infer_instance

instance : Orderly argument := by unfold argument; infer_instance

instance : Orderly angleArguments := by unfold angleArguments; infer_instance

instance {allowPlus : Bool} : Orderly (returnType allowPlus) := by unfold returnType; infer_instance

instance : Orderly parenArguments := by unfold parenArguments; infer_instance

instance {inExpression : Bool} : Orderly (segment inExpression) := by
  unfold segment; infer_instance

instance {inExpression : Bool} {seen : PathSeen} : Orderly (moreSegments inExpression seen) := by
  unfold moreSegments
  refine @Orderly.bind _ _ _ _ _ fun rest => ?_
  split <;> infer_instance

instance {inExpression : Bool} : Orderly (path inExpression) := by unfold path; infer_instance

instance {inExpression : Bool} : Orderly (qualifiedPath inExpression) := by
  unfold qualifiedPath; infer_instance

/-! ## Bounds -/

instance : Orderly lifetimeParameter := by unfold lifetimeParameter; infer_instance

instance : Orderly typeParameter := by unfold typeParameter; infer_instance

instance : Orderly constantParameter := by unfold constantParameter; infer_instance

instance {allowBlank : Bool} : Orderly (parameter allowBlank) := by unfold parameter; infer_instance

instance : Orderly boundLifetimes := by unfold boundLifetimes; infer_instance

instance : Orderly capture := by unfold capture; infer_instance

instance {allowConst : Bool} : Orderly (traitBound allowConst) := by
  unfold traitBound; infer_instance

instance {allowCapture allowConst : Bool} : Orderly (bound allowCapture allowConst) := by
  unfold bound
  refine @Orderly.bind _ _ _ _ _ fun isLifetime => ?_
  split
  · infer_instance
  · refine @Orderly.bind _ _ _ _ _ fun isCapture => ?_
    split
    · infer_instance
    · exact .after_itemsOf fun b items h =>
        .ite ((Meets.meet_last items).bind fun _ => .drop h) (.drop h)

instance {allowCapture allowConst : Bool} {n : Nat} :
    Orderly (furtherBounds allowCapture allowConst n) := by
  induction n with
  | zero => unfold furtherBounds; infer_instance
  | succ n ih => unfold furtherBounds; infer_instance

instance {allowPlus allowCapture allowConst : Bool} :
    Orderly (bounds allowPlus allowCapture allowConst) := by
  unfold bounds; infer_instance

/-! ## Types -/

instance {seen : PathSeen} {n : Nat} : Orderly (parenSegments seen n) := by
  induction n generalizing seen with
  | zero => unfold parenSegments; infer_instance
  | succ n ih => unfold parenSegments; infer_instance

instance : Orderly typePath := by unfold typePath; infer_instance

instance : Orderly abi := by unfold abi; infer_instance

instance {isFirst : Bool} : Orderly (functionTypeParameter isFirst) := by
  unfold functionTypeParameter
  refine @Orderly.bind _ _ _ _ _ fun _ => ?_
  exact .after_itemsOf fun b items h => .ite (.meet_last items) (.drop h)

instance {first : Bool} {n : Nat} : Orderly (functionTypeParameters first n) := by
  induction n generalizing first with
  | zero => unfold functionTypeParameters; infer_instance
  | succ n ih => unfold functionTypeParameters; infer_instance

instance : Orderly functionType := by unfold functionType; infer_instance

instance {allowPlus : Bool} : Orderly (objectBounds allowPlus) := by
  unfold objectBounds; infer_instance

instance : Orderly sumBounds := by unfold sumBounds; infer_instance

instance {allowPlus : Bool} : Orderly (parenType allowPlus) := by
  unfold parenType
  infer_instance

instance {hasBinder allowPlus : Bool} : Orderly (pathType hasBinder allowPlus) := by
  unfold pathType
  infer_instance

instance {allowPlus : Bool} : Orderly (type allowPlus) := by
  unfold type
  refine @Orderly.bind _ _ _ _ _ fun binder => .join fun _ => ?_
  refine @Orderly.bind _ _ _ _ _ fun ts => ?_
  refine .of_ite inferInstance (.of_ite inferInstance (.of_ite inferInstance (.of_ite ?_ ?_)))
  · -- the bounds of an object are met only if no star stands in front of them
    refine @Orderly.bind _ _ _ _ _ fun _ => @Orderly.bind _ _ _ _ _ fun starred =>
      .after_itemsOf fun bs items h => ?_
    refine @Meets.bind _ _ _ _ _ _ (fun x => Item.functionsOf x.2.2) _ _ _ (.pure (.refl _))
      fun x => ?_
    obtain ⟨starred, bs, items⟩ := x
    exact .ite (.drop h) ((Meets.meet_last items).bind fun _ => .drop h)
  · infer_instance

/-! ## Patterns -/

instance : Orderly alternatives := by unfold alternatives; infer_instance

instance : Orderly rangeBound := by unfold rangeBound; infer_instance

instance {allowThree : Bool} : Orderly (rangeDots allowThree) := by unfold rangeDots; infer_instance

instance : Orderly rangeRest := by unfold rangeRest; infer_instance

instance {p : Grammar Unit} [Orderly p] : Orderly (patternList p) := by
  unfold patternList; infer_instance

instance : Orderly alternativesHere := by unfold alternativesHere; infer_instance

instance : Orderly fieldPattern := by
  unfold fieldPattern
  refine @Orderly.bind _ _ _ _ _ fun _ => @Orderly.bind _ _ _ _ _ fun boxed =>
    @Orderly.bind _ _ _ _ _ fun byRef => @Orderly.bind _ _ _ _ _ fun mutable => ?_
  refine .of_ite inferInstance (@Orderly.bind _ _ _ _ _ fun ts => ?_)
  split <;> infer_instance

instance {n : Nat} : Orderly (fieldPatterns n) := by
  induction n with
  | zero => unfold fieldPatterns; infer_instance
  | succ n ih => unfold fieldPatterns; infer_instance

instance : Orderly pathPattern := by unfold pathPattern; infer_instance

instance : Orderly namePattern := by unfold namePattern; infer_instance

instance : Orderly pattern := by unfold pattern; infer_instance

/-! ## Expressions -/

instance {allowStruct : Bool} {precedence : Nat} {right : Piece} {n : Nat} :
    Orderly (rightOperators allowStruct precedence right n) := by
  induction n generalizing right with
  | zero => unfold rightOperators; infer_instance
  | succ n ih => unfold rightOperators; infer_instance

instance {allowStruct : Bool} {precedence : Nat} : Orderly (rightOperand allowStruct precedence) := by
  unfold rightOperand; infer_instance

instance {allowStruct : Bool} : Orderly (rangeTail allowStruct) := by
  unfold rangeTail; infer_instance

instance {left : Piece} {allowStruct : Bool} {least : Nat} :
    Orderly (operators left allowStruct least) := by
  unfold operators
  refine @Orderly.bind _ _ _ _ _ fun ts => .of_ite inferInstance ?_
  split <;> infer_instance

instance {allowStruct : Bool} : Orderly (expression allowStruct) := by
  unfold expression; infer_instance

instance : Orderly expressionHere := by unfold expressionHere; infer_instance

instance : Orderly beforeBlock := by unfold beforeBlock; infer_instance

instance {n : Nat} : Orderly (ifChain n) := by
  induction n with
  | zero => unfold ifChain; infer_instance
  | succ n ih => unfold ifChain; infer_instance

instance : Orderly arm := by unfold arm; infer_instance

instance : Orderly matchArms := by
  unfold matchArms
  refine @Orderly.bind _ _ _ _ _ fun _ => .after_itemsOf fun _ subject h => ?_
  refine (meets_itemsOf_inner h .brace).bind fun x => ?_
  obtain ⟨inner, arms⟩ := x
  exact (Meets.meetAll inner _).bind fun _ => (Meets.meet subject _).bind fun _ => .meet_last arms

instance {p : Grammar Unit} [Orderly p] : Orderly (blockLike p) := by
  unfold blockLike; infer_instance

instance : Orderly whileLoop := by unfold whileLoop; infer_instance

instance : Orderly forLoop := by unfold forLoop; infer_instance

instance : Orderly endlessLoop := by unfold endlessLoop; infer_instance

instance {w : String} : Orderly (wordBlock w) := by unfold wordBlock; infer_instance

instance : Orderly tryBlock := by unfold tryBlock; infer_instance

instance : Orderly labeled := by unfold labeled; infer_instance

instance : Orderly closureParameter :=
  .after_outerAttributes fun as h => (meets_attributed h as).bind fun _ => .pure (.refl [])

instance {allowStruct : Bool} : Orderly (closure allowStruct) := by unfold closure; infer_instance

instance : Orderly handedOn := by unfold handedOn; infer_instance

instance {allowStruct : Bool} : Orderly (breakJump allowStruct) := by
  unfold breakJump; infer_instance

instance : Orderly returnJump := by unfold returnJump; infer_instance

instance : Orderly yieldJump := by unfold yieldJump; infer_instance

instance : Orderly becomeJump := by unfold becomeJump; infer_instance

instance : Orderly member := by
  unfold member
  refine @Orderly.bind _ _ _ _ _ fun ts => ?_
  split <;> infer_instance

instance : Orderly fieldValue := by unfold fieldValue; infer_instance

instance {n : Nat} : Orderly (fieldValues n) := by
  induction n with
  | zero => unfold fieldValues; infer_instance
  | succ n ih => unfold fieldValues; infer_instance

instance {allowStruct : Bool} : Orderly (pathOperand allowStruct) := by
  unfold pathOperand; infer_instance

instance : Orderly bracketOperand := by unfold bracketOperand; infer_instance

instance {allowStruct : Bool} : Orderly (letCondition allowStruct) := by
  unfold letCondition; infer_instance

instance {allowStruct : Bool} : Orderly (atom allowStruct) := by unfold atom; infer_instance

instance : Orderly afterDot := by unfold afterDot; infer_instance

instance {left : Piece} {n : Nat} : Orderly (trailers left n) := by
  induction n generalizing left with
  | zero => unfold trailers; infer_instance
  | succ n ih =>
    unfold trailers
    refine @Orderly.bind _ _ _ _ _ fun ts => .of_ite inferInstance (.of_ite ?_ inferInstance)
    refine @Orderly.bind _ _ _ _ _ fun _ => @Orderly.bind _ _ _ _ _ fun after => ?_
    split
    · refine @Orderly.bind _ _ _ _ _ fun _ => ?_
      split <;> infer_instance
    · infer_instance

instance {left : Piece} : Orderly (allTrailers left) := by unfold allTrailers; infer_instance

instance {allowStruct : Bool} : Orderly (unattributed allowStruct) := by
  unfold unattributed; infer_instance

instance {allowStruct : Bool} : Orderly (operand allowStruct) :=
  .after_outerAttributes fun as h => (meets_attributed h as).bind fun _ => Orderly.meets h

instance : Orderly firstOperand := by unfold firstOperand; infer_instance

instance : Orderly statementExpression :=
  .after_outerAttributes fun as h => (meets_attributed h as).bind fun _ => Orderly.meets h

/-! ## Items -/

/-- What a reader holds comes from what was held before and from the tokens, whatever it
    meets. -/
def Yields (calm : Prop) (rules : Rule → Reader Piece) (held : List (String × Nat))
    (p : Grammar α) (holds : α → List (String × Nat)) : Prop :=
  ∀ ⦃s a s'⦄, Free calm Token.nestedAt s.tokens → Reads rules p s a s' →
    Among calm (holds a ++ heads s'.tokens) (held ++ heads s.tokens)

section
variable {p : Grammar α} {holds : α → List (String × Nat)}

theorem Meets.yields (h : Meets calm Token.nestedAt rules held p holds) :
    Yields calm rules held p holds := by
  intro s a s' hfree hread
  obtain ⟨met, -, hamong⟩ := h hfree hread
  exact (Among.of_sublist (List.sublist_append_right _ _)).trans hamong

/-- What is met inside is left out. -/
theorem Yields.hidden (h : Yields calm rules held p holds) :
    Meets calm Token.nestedAt rules held (hidden p) holds := by
  intro s a s' hfree hread
  obtain ⟨s₁, hinside, rfl⟩ := reads_hidden.1 hread
  have hamong := h (s := { s with met := [] }) hfree hinside
  exact ⟨[], rfl, hamong⟩

end

theorem yields_functionItem : Yields calm rules held functionItem Item.functions := by
  intro s i s' _ hread
  have hsuffix := hread.suffix
  rw [functionItem, reads_bind] at hread
  obtain ⟨_, s₁, hvisibility, hread⟩ := hread
  obtain ⟨⟨name, line⟩, s₂, hsignature, hread⟩ := reads_bind.1 hread
  have hafter := hread.suffix
  refine .of_sublist (.trans ?_ (List.sublist_append_right _ _))
  obtain ⟨semicolon, s₃, -, hread⟩ := reads_bind.1 hread
  split at hread
  · rw [(reads_pure.1 hread).1]
    exact Token.gathered_suffix hsuffix
  · obtain ⟨_, _, -, hpure⟩ := reads_bind.1 hread
    rw [(reads_pure.1 hpure).1]
    obtain ⟨wordLine, rest, hhead, hrest⟩ := hsignature.signature_suffix
    have hname : (heads rest).Sublist (heads (.word name line :: rest)) :=
      Token.gathered_suffix (List.suffix_cons _ _)
    have hleft : (heads s'.tokens).Sublist (heads rest) :=
      Token.gathered_suffix (hafter.trans hrest)
    have hall : (heads (.word "fn" wordLine :: .word name line :: rest)).Sublist (heads s.tokens) :=
      Token.gathered_suffix (hhead.trans hvisibility.suffix)
    rw [Token.heads_function] at hall
    exact ((hleft.trans hname).cons_cons (name, line)).trans hall

theorem yields_otherItem (p : Grammar Unit) :
    Yields calm rules held (otherItem p) Item.functions := by
  intro s i s' _ hread
  have hsuffix := hread.suffix
  obtain ⟨_, _, -, hpure⟩ := reads_bind.1 hread
  rw [(reads_pure.1 hpure).1]
  exact .of_sublist ((Token.gathered_suffix hsuffix).trans (List.sublist_append_right _ _))

instance : Silent innerAttributes := by rw [innerAttributes_eq]; infer_instance

instance : Silent contents := by unfold contents; infer_instance

/-- What a file or a module holds comes from its tokens. -/
theorem meets_contents (h : RulesMeet calm rules) : Meets calm Token.nestedAt rules [] contents
    fun x => Attribute.functionsOf x.1 ++ Item.functionsOf x.2 := by
  refine ((holds_innerAttributes h).1.meets []).bind fun as => ?_
  refine ((h.item.many _).itemsOf.meets _).bind fun x => ?_
  obtain ⟨_, items⟩ := x
  refine .pure ?_
  rw [List.nil_append, List.append_nil]
  exact .refl _

theorem meets_moduleItem (h : RulesMeet calm rules) (outer : List Attribute) :
    Meets calm Token.nestedAt rules (Attribute.functionsOf outer) (moduleItem outer)
      Item.functions := by
  refine Silent.meets.bind fun _ => Silent.meets.bind fun _ => Silent.meets.bind fun _ =>
    Silent.meets.bind fun _ => Silent.meets.bind fun semicolon => .ite (.pure ?_) ?_
  · rw [Item.functions, Item.functionsOf, List.append_nil]
    exact .refl _
  · refine (((meets_contents h).holds_of_silent.meets _).group .brace).bind fun x => ?_
    obtain ⟨inner, items⟩ := x
    refine .pure ?_
    rw [Item.functions, Attribute.functionsOf_eq_flatMap, List.flatMap_append, List.append_assoc]
    exact .refl _

/-- **Whatever an item is,** its functions come from its attributes and its tokens. -/
theorem yields_itemAfter (h : RulesMeet calm rules) (outer : List Attribute) :
    Yields calm rules (Attribute.functionsOf outer) (itemAfter outer) Item.functions := by
  intro s i s' hfree hread
  rw [Grammar.itemAfter, reads_bind] at hread
  obtain ⟨inherited, s₁, hinherited, hread⟩ := hread
  obtain ⟨ts, s₂, hts, hread⟩ := reads_bind.1 hread
  have hsuffix := hts.suffix.trans hinherited.suffix
  refine Among.trans ?_ ((Among.refl _).append (.of_sublist (Token.gathered_suffix hsuffix)))
  have hmodule := (meets_moduleItem h outer).yields
  -- one case for each kind of item
  repeat' first
    | exact yields_functionItem (hfree.suffix hsuffix) hread
    | exact hmodule (hfree.suffix hsuffix) hread
    | exact yields_otherItem _ (hfree.suffix hsuffix) hread
    | exact absurd hread not_reads_failure
    | rcases hread.of_ite with hread | hread

theorem Meets.meet_one (i : Item) :
    Meets calm find rules i.functions (Grammar.meet [i]) fun _ => [] := by
  rw [← List.append_nil i.functions]
  exact .meet_last [i]

theorem meets_item (h : RulesMeet calm rules) :
    Meets calm Token.nestedAt rules [] item fun _ => [] := by
  have hitem : Yields calm rules [] (outerAttributes >>= fun outer => itemAfter outer)
      Item.functions := by
    intro s i s' hfree hread
    obtain ⟨outer, s₁, houter, hread⟩ := reads_bind.1 hread
    exact (yields_itemAfter h outer (hfree.suffix houter.suffix) hread).trans
      (holds_outerAttributes h hfree houter).2
  exact hitem.hidden.bind fun i => (Meets.meet_one i).bind fun _ => .pure (.refl [])

instance : Orderly item := ⟨fun h _ _ _ hfree hread => meets_item h hfree.nested hread⟩

/-! ## Statements and parts of items -/

instance : Orderly letStatement := by unfold letStatement; infer_instance

instance : Orderly statement := by
  unfold statement
  refine .after_outerAttributes fun outer h =>
    Silent.meets.bind fun ts => Silent.meets.bind fun after => ?_
  refine .ite ((Meets.meetAll_last outer).bind fun _ => Orderly.meets h) ?_
  refine .ite ((Meets.meetAll_last outer).bind fun _ => Orderly.meets h) ?_
  refine .ite ?_ ((meets_attributed h outer).bind fun _ => Orderly.meets h)
  have hitem : Meets _ Token.innerAt _ (Attribute.functionsOf outer) (hidden (itemAfter outer))
      Item.functions := fun s i s' hfree hread =>
    (yields_itemAfter h outer).hidden hfree.nested hread
  exact hitem.bind fun i => (Meets.meet_one i).bind fun _ => .pure (.refl [])

instance {n : Nat} : Orderly (statementsUpTo n) := by
  induction n with
  | zero => unfold statementsUpTo; infer_instance
  | succ n ih => unfold statementsUpTo; infer_instance

instance : Orderly statements := by unfold statements; infer_instance

instance {allowRoot : Bool} : Orderly (imports allowRoot) := by unfold imports; infer_instance

instance : Orderly namedFields := by unfold namedFields; infer_instance

end Grammar

/-! ## The rules -/

instance (r : Rule) : Grammar.Orderly r.read := by
  cases r <;> unfold Rule.read <;> infer_instance

/-- **However deep rules stand inside each other,** what they meet comes from the tokens
    that they read. -/
theorem Rule.rulesMeet_run (calm : Prop) (depth : Nat) : Grammar.RulesMeet calm (Rule.run depth) := by
  induction depth with
  | zero =>
    refine ⟨fun r => ?_, ?_⟩ <;>
    · rintro s a s' - ⟨r, hr, -⟩
      cases hr
  | succ depth ih =>
    refine ⟨fun r => ?_, ?_⟩
    · rintro s a s' hfree ⟨reached, hr, rfl, rfl⟩
      exact (Grammar.Orderly.meets ih : Grammar.Meets calm _ _ [] r.read _) hfree
        ⟨reached, hr, rfl, rfl⟩
    · rintro s a s' hfree ⟨reached, hr, rfl, rfl⟩
      exact Grammar.meets_item ih hfree ⟨reached, hr, rfl, rfl⟩

end ProfileSync
