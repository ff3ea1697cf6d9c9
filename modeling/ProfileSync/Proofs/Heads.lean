/-
  The names of functions among the tokens of a source text.

  * `Token.gathered` gathers what is found at each place of tokens, groups included;
  * `Token.heads` gathers the names that follow the word for functions, and
    `Token.sublist_words`: these are words of the text in its order;
  * `Token.innerHeads` gathers those in the attributes of what tokens stand in, and
    `Token.nestedHeads` those in such attributes within attributes;
  * `Among`: functions are among others, and unless these are disturbed they stand in
    their order.
-/
import ProfileSync.Proofs.Lines

namespace ProfileSync

namespace Token

variable {α : Type}

/-! ## Gathering -/

mutual

/-- What is found at each place in a token. -/
def gatheredIn (find : List Token → List α) : Token → List α
  | .group _ content => gathered find content
  | _ => []

/-- What is found at each place of some tokens and in them. -/
def gathered (find : List Token → List α) : List Token → List α
  | [] => []
  | t :: rest => find (t :: rest) ++ (t.gatheredIn find ++ gathered find rest)

end

/-- A group is treated after what is in it and what follows it. -/
@[elab_as_elim]
theorem inductionOn {motive : List Token → Prop} (nil : motive [])
    (leaf : ∀ t rest, (∀ d content, t ≠ .group d content) → motive rest → motive (t :: rest))
    (group : ∀ d content rest, motive content → motive rest → motive (.group d content :: rest)) :
    ∀ ts, motive ts
  | [] => nil
  | .word text line :: rest =>
    leaf (.word text line) rest (fun _ _ h => by cases h) (inductionOn nil leaf group rest)
  | .mark c joint :: rest =>
    leaf (.mark c joint) rest (fun _ _ h => by cases h) (inductionOn nil leaf group rest)
  | .lifetime :: rest =>
    leaf .lifetime rest (fun _ _ h => by cases h) (inductionOn nil leaf group rest)
  | .literal l :: rest =>
    leaf (.literal l) rest (fun _ _ h => by cases h) (inductionOn nil leaf group rest)
  | .group d content :: rest =>
    group d content rest (inductionOn nil leaf group content) (inductionOn nil leaf group rest)

section
variable {find find' : List Token → List α} {ts ts' content : List Token}

theorem gatheredIn_leaf {t : Token} (h : ∀ d content, t ≠ .group d content) :
    t.gatheredIn find = [] := by
  cases t with
  | group d content => exact absurd rfl (h d content)
  | _ => rfl

theorem gathered_suffix (h : ts' <:+ ts) : (gathered find ts').Sublist (gathered find ts) := by
  obtain ⟨front, rfl⟩ := h
  induction front with
  | nil => exact List.Sublist.refl _
  | cons t front ih =>
    rw [List.cons_append, gathered]
    exact ih.trans ((List.sublist_append_right _ _).trans (List.sublist_append_right _ _))

theorem gathered_content (d : Delimiter) (content rest : List Token) :
    (gathered find content).Sublist (gathered find (.group d content :: rest)) := by
  rw [gathered, gatheredIn]
  exact (List.sublist_append_left _ _).trans (List.sublist_append_right _ _)

/-- What is found at any place among things that are gathered is among these as well. -/
theorem gathered_subset (h : ∀ ts, find ts ⊆ gathered find' ts) (ts : List Token) :
    gathered find ts ⊆ gathered find' ts := by
  induction ts using inductionOn with
  | nil => exact List.nil_subset _
  | leaf t rest ht ih =>
    rw [gathered, gatheredIn_leaf ht, List.nil_append]
    refine List.append_subset.2 ⟨h _, ?_⟩
    exact List.Subset.trans ih (gathered_suffix (List.suffix_cons _ _)).subset
  | group d content rest ihcontent ih =>
    refine List.append_subset.2 ⟨h _, List.append_subset.2 ⟨?_, ?_⟩⟩
    · exact List.Subset.trans ihcontent (gathered_content d content rest).subset
    · exact List.Subset.trans ih (gathered_suffix (List.suffix_cons _ _)).subset

end

/-! ## Names after the word for functions -/

/-- The name after the word for functions, if these are the next tokens. -/
def headAt : List Token → List (String × Nat)
  | .word text _ :: .word name line :: _ => if text = "fn" then [(name, line)] else []
  | _ => []

/-- The names after the word for functions, with their lines. -/
def heads (ts : List Token) : List (String × Nat) := gathered headAt ts

/-- Those in the next tokens, if these are an attribute of what they stand in. -/
def innerAt : List Token → List (String × Nat)
  | .mark '#' _ :: .mark '!' _ :: .group .bracket content :: _ => heads content
  | _ => []

/-- The names in attributes of what tokens stand in. -/
def innerHeads (ts : List Token) : List (String × Nat) := gathered innerAt ts

/-- Those in the next tokens, if these are an attribute. -/
def nestedAt : List Token → List (String × Nat)
  | .mark '#' _ :: .group .bracket content :: _ => innerHeads content
  | .mark '#' _ :: .mark '!' _ :: .group .bracket content :: _ => innerHeads content
  | _ => []

/-- The names in attributes of what tokens stand in, as far as that is itself in an
    attribute. -/
def nestedHeads (ts : List Token) : List (String × Nat) := gathered nestedAt ts

theorem nestedAt_subset (ts : List Token) : nestedAt ts ⊆ innerHeads ts := by
  have hinside : ∀ content rest, innerHeads content ⊆ innerHeads (.group .bracket content :: rest) :=
    fun content rest => (gathered_content .bracket content rest).subset
  unfold nestedAt
  split
  · exact List.Subset.trans (hinside _ _) (gathered_suffix ⟨[_], rfl⟩).subset
  · exact List.Subset.trans (hinside _ _) (gathered_suffix ⟨[_, _], rfl⟩).subset
  · exact List.nil_subset _

/-- Where no name is in an attribute of what tokens stand in, none is nested. -/
theorem nestedHeads_eq_nil {ts : List Token} (h : innerHeads ts = []) : nestedHeads ts = [] :=
  List.subset_nil.1 (h ▸ gathered_subset nestedAt_subset ts)

@[simp] theorem heads_nil : heads [] = [] := rfl

@[simp] theorem heads_group (d : Delimiter) (content rest : List Token) :
    heads (.group d content :: rest) = heads content ++ heads rest := rfl

theorem heads_function (wordLine : Nat) (name : String) (line : Nat) (rest : List Token) :
    heads (.word "fn" wordLine :: .word name line :: rest) =
      (name, line) :: heads (.word name line :: rest) := by
  simp [heads, gathered, gatheredIn, headAt]

/-- **The names of functions are words** of the text in its order.  A name comes after the
    word before it, so the first word is not needed. -/
theorem sublist_words (ts : List Token) : (heads ts).Sublist (wordsOf ts) ∧
    ∀ text line rest, ts = .word text line :: rest → (heads ts).Sublist (wordsOf rest) := by
  induction ts using inductionOn with
  | nil => exact ⟨List.Sublist.refl _, fun _ _ _ h => by cases h⟩
  | leaf t rest ht ih =>
    have hheads : heads (t :: rest) = headAt (t :: rest) ++ heads rest := by
      rw [heads, gathered, gatheredIn_leaf ht, List.nil_append, ← heads]
    have hrest : ∀ text line, t = .word text line →
        (heads (t :: rest)).Sublist (wordsOf rest) := by
      rintro text line rfl
      rw [hheads]
      unfold headAt
      split
      · rename_i _ name l after heq
        obtain ⟨-, rfl⟩ := List.cons.inj heq
        split
        · exact (ih.2 name l after rfl).cons_cons (name, l)
        · exact ih.1
      · exact ih.1
    refine ⟨?_, ?_⟩
    · cases t with
      | word text line => exact (hrest text line rfl).cons (text, line)
      | group d content => exact absurd rfl (ht d content)
      | mark c joint => exact ih.1
      | lifetime => exact ih.1
      | literal l => exact ih.1
    · rintro text line rest' heq
      obtain ⟨rfl, rfl⟩ := List.cons.inj heq
      exact hrest text line rfl
  | group d content rest ihcontent ih =>
    exact ⟨ihcontent.1.append ih.1, fun _ _ _ h => by cases h⟩

end Token

/-! ## Functions among others -/

/-- Functions are among others; unless something is disturbed they stand in their order. -/
structure Among (calm : Prop) (fs gs : List (String × Nat)) : Prop where
  subset : fs ⊆ gs
  sublist : calm → fs.Sublist gs

namespace Among

variable {calm : Prop} {fs fs' gs gs' hs : List (String × Nat)}

theorem of_sublist (h : fs.Sublist gs) : Among calm fs gs := ⟨h.subset, fun _ => h⟩

theorem refl (fs : List (String × Nat)) : Among calm fs fs := of_sublist (List.Sublist.refl fs)

theorem trans (h : Among calm fs gs) (h' : Among calm gs hs) : Among calm fs hs :=
  ⟨List.Subset.trans h.subset h'.subset, fun hcalm => (h.sublist hcalm).trans (h'.sublist hcalm)⟩

theorem append (h : Among calm fs gs) (h' : Among calm fs' gs') :
    Among calm (fs ++ fs') (gs ++ gs') :=
  ⟨List.append_subset.2 ⟨List.subset_append_of_subset_left _ h.subset,
      List.subset_append_of_subset_right _ h'.subset⟩,
    fun hcalm => (h.sublist hcalm).append (h'.sublist hcalm)⟩

/-- What changes its place disturbs the order, unless there is nothing of it. -/
theorem swap (h : calm → fs = []) : Among calm (fs ++ gs) (gs ++ fs) := by
  refine ⟨(List.perm_append_comm).subset, fun hcalm => ?_⟩
  rw [h hcalm, List.append_nil]
  exact List.Sublist.refl gs

end Among

end ProfileSync
