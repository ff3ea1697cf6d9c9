/-
  Documents that say the same.

  * `Edit`: the mapping of a record, at any depth, has its entries in another order,
    one more entry that is passed over, or a null written or left out;
  * `Edit.content?`: a step keeps what a node says, and `content?_of_edits`: so does any
    number of steps;
  * `Profile.ofText_edited`: documents that differ by steps write the same profile.
-/
import Mathlib.Logic.Relation
import ProfileSync.Check.Compare
import ProfileSync.Proofs.Entries
import ProfileSync.Proofs.Repetition

namespace ProfileSync

open Yaml (Node Mark)

/-! ## Steps -/

open ContentField RecordKind

/-- Whether a node is null and written plainly: as nothing, as a word for it or as
    `~`. -/
def Yaml.Node.isPlainNull : Node → Bool
  | scalar _ _ none true s => s.isEmpty || isNullText s
  | _ => false

theorem Yaml.Node.present?_of_isPlainNull {n : Node} (h : n.isPlainNull = true) :
    n.present? = some none := by
  cases n with
  | scalar mark a tag plain s =>
    cases plain with
    | false => cases tag <;> cases h
    | true =>
      cases tag with
      | none =>
        have hs : (s.isEmpty || isNullText s) = true := h
        rw [present?, if_pos hs]
      | some t => cases h
  | _ => cases h

/-- A step from a node that writes a record of a kind to another one.  Entries are added
    and taken away at the front of a mapping; where they stand is for `permute`. -/
inductive Edit : RecordKind → Node → Node → Prop
  /-- The nodes stand at other places of the text. -/
  | move {kind n n'} : n.placeless = n'.placeless → Edit kind n n'
  /-- The entries stand in another order. -/
  | permute {kind mark a es es'} : es.Perm es' →
      Edit kind (.mapping mark a es) (.mapping mark a es')
  /-- An entry is added whose key names no field. -/
  | addUnknown {kind mark a es key value name} : key.text? = some name → name ∉ kind.names →
      value.isWhole = true →
      Edit kind (.mapping mark a es) (.mapping mark a ((key, value) :: es))
  /-- A field that is null is left out. -/
  | removeNull {kind mark a es key value name} : key.text? = some name → name ∈ kind.names →
      value.isPlainNull = true →
      Edit kind (.mapping mark a ((key, value) :: es)) (.mapping mark a es)
  /-- A field that was left out is written as null. -/
  | addNull {kind mark a es key value name} : key.text? = some name → name ∈ kind.names →
      (∀ e ∈ es, e.1.text? ≠ some name) → value.isPlainNull = true →
      Edit kind (.mapping mark a es) (.mapping mark a ((key, value) :: es))
  /-- A record among the items of a field is edited. -/
  | within {kind inside mark a es key name mark' a' before after n n'} :
      key.text? = some name → kind.inside? name = some inside → Edit inside n n' →
      Edit kind (.mapping mark a ((key, .sequence mark' a' (before ++ n :: after)) :: es))
        (.mapping mark a ((key, .sequence mark' a' (before ++ n' :: after)) :: es))

/-- One item may be written in another way. -/
theorem mapM_replace {α β : Type} {f : α → Option β} {a a' : α}
    (h : ∀ b, f a = some b → f a' = some b) {before after : List α} {bs : List β}
    (hbs : (before ++ a :: after).mapM f = some bs) : (before ++ a' :: after).mapM f = some bs := by
  induction before generalizing bs with
  | nil =>
    simp only [List.nil_append, List.mapM_cons, Option.bind_eq_bind,
      Option.bind_eq_some_iff] at hbs ⊢
    obtain ⟨b, hb, hrest⟩ := hbs
    exact ⟨b, h b hb, hrest⟩
  | cons c before ih =>
    simp only [List.cons_append, List.mapM_cons, Option.bind_eq_bind,
      Option.bind_eq_some_iff] at hbs ⊢
    obtain ⟨b, hb, rest, hrest, heq⟩ := hbs
    exact ⟨b, hb, rest, ih hrest, heq⟩

/-- **A step keeps what a node says.** -/
theorem Edit.content? {kind : RecordKind} {n n' : Node} (h : Edit kind n n') {depth : Nat}
    {r : kind.Record} (hr : kind.content? depth n = some r) : kind.content? depth n' = some r := by
  induction h generalizing depth with
  | @move kind n n' hmove => rw [← content?_placeless, ← hmove, content?_placeless, hr]
  | @permute kind _ _ es es' hperm =>
    obtain ⟨below, rfl, hnodup, effect, hes, rfl⟩ := content?_mapping_eq_some_iff.1 hr
    exact content?_mapping_eq_some_iff.2 ⟨below, rfl, (namesAmong_perm hperm).nodup hnodup, effect,
      effects?_perm kind.independent_fields hperm hnodup hes, rfl⟩
  | addUnknown hkey hname hvalue =>
    obtain ⟨below, rfl, hnodup, effect, hes, rfl⟩ := content?_mapping_eq_some_iff.1 hr
    have hfind := find?_of_notMem (contentBelow? below) hname
    exact content?_mapping_eq_some_iff.2 ⟨below, rfl, by rwa [namesAmong_of_unknown hkey hfind],
      effect, effects?_unknown hkey hfind hvalue hes, rfl⟩
  | removeNull hkey hname hvalue =>
    obtain ⟨below, rfl, hnodup, effect, hes, rfl⟩ := content?_mapping_eq_some_iff.1 hr
    obtain ⟨field, hfind⟩ := find?_of_mem (contentBelow? below) hname
    rw [effects?_null hkey hfind (Node.present?_of_isPlainNull hvalue)] at hes
    rw [namesAmong_of_known hkey hfind] at hnodup
    exact content?_mapping_eq_some_iff.2 ⟨below, rfl, hnodup.of_cons, effect, hes, rfl⟩
  | addNull hkey hname habsent hvalue =>
    obtain ⟨below, rfl, hnodup, effect, hes, rfl⟩ := content?_mapping_eq_some_iff.1 hr
    obtain ⟨field, hfind⟩ := find?_of_mem (contentBelow? below) hname
    refine content?_mapping_eq_some_iff.2 ⟨below, rfl, ?_, effect, ?_, rfl⟩
    · rw [namesAmong_of_known hkey hfind]
      refine List.nodup_cons.2 ⟨fun hmem => ?_, hnodup⟩
      obtain ⟨e, he, hname⟩ := List.mem_filterMap.1 (List.mem_filter.1 hmem).1
      exact habsent e he hname
    · rw [effects?_null hkey hfind (Node.present?_of_isPlainNull hvalue), hes]
  | @within kind inside _ _ es key name _ _ before after n n' hkey hinside _ ih =>
    obtain ⟨below, rfl, hnodup, effect, hes, rfl⟩ := content?_mapping_eq_some_iff.1 hr
    obtain ⟨put, hfind⟩ := find?_of_inside? (contentBelow? below) hinside
    rw [namesAmong_of_known hkey hfind] at hnodup
    refine content?_mapping_eq_some_iff.2 ⟨below, rfl, ?_, effect, ?_, rfl⟩
    · rwa [namesAmong_of_known hkey hfind]
    · refine effects?_value (fun own hown => ?_) hes
      rw [effect?_of_known hkey hfind] at hown ⊢
      obtain ⟨items, hitems, rfl⟩ := Option.map_eq_some_iff.1 hown
      obtain ⟨read?, hread, hmap⟩ := Option.bind_eq_some_iff.1 hitems
      have hitem : ∀ record, read? n = some record → read? n' = some record := by
        cases below with
        | zero => cases hread
        | succ depth =>
          obtain rfl := Option.some.inj hread
          exact fun record => ih
      exact Option.map_eq_some_iff.2
        ⟨items, Option.bind_eq_some_iff.2 ⟨read?, hread, mapM_replace hitem hmap⟩, rfl⟩

/-- Any number of steps keeps what a node says. -/
theorem content?_of_edits {kind : RecordKind} {n n' : Node}
    (h : Relation.ReflTransGen (Edit kind) n n') {depth : Nat} {r : kind.Record}
    (hr : kind.content? depth n = some r) : kind.content? depth n' = some r := by
  induction h with
  | refl => exact hr
  | tail _ hstep ih => exact hstep.content? ih

/-! ## Documents -/

/-- The text has a document, and the node is the root of that. -/
structure Writes (text : String) (n : Node) : Prop where
  notBlank : isBlankText text.toList = false
  root : (Yaml.Document.ofText text.toList).root = some n

/-- Whether nothing but a document stands in a text. -/
def isOneDocument (text : String) : Bool := (Yaml.Document.ofText text.toList).isAlone

theorem Writes.ofText_eq_ok_iff {text : String} {n : Node} {p : Profile} (h : Writes text n) :
    Profile.ofText text = .ok p ↔ Profile.ofNode n = .ok p ∧ isOneDocument text = true := by
  simp only [Profile.ofText, h.notBlank, Bool.false_eq_true, if_false, h.root, isOneDocument]
  cases Profile.ofNode n with
  | error e => simp
  | ok p' => cases (Yaml.Document.ofText text.toList).isAlone <;> simp

theorem Writes.ofText_eq_error {text : String} {n : Node} {e : DocumentError} (h : Writes text n)
    (he : Profile.ofNode n = .error e) : Profile.ofText text = .error e := by
  simp only [Profile.ofText, h.notBlank, Bool.false_eq_true, if_false, h.root, he]

/-- **Documents that differ by edits write the same profile**, and so they have the same
    verdicts; a document that repeats a field writes none. -/
theorem Profile.ofText_edited :
    (∀ {text text' : String} {n n' : Node} {p : Profile},
      Writes text n → n.isUnaliased = true → Profile.ofText text = .ok p →
      Relation.ReflTransGen (Edit .profile) n n' →
      Writes text' n' → isOneDocument text' = true →
        Profile.ofText text' = .ok p ∧ ∀ d,
          (Profile.ofText text').map (validate · d) = (Profile.ofText text).map (validate · d)) ∧
    ∀ {text : String} {n : Node}, Writes text n → Repeats .profile n →
      ∃ e, Profile.ofText text = .error e := by
  constructor
  · intro text text' n n' p hn hunaliased hp hedits hn' hone
    have hnode := (hn.ofText_eq_ok_iff.1 hp).1
    have hcontent := content?_of_edits hedits ((Profile.ofNode_eq_ok_iff hunaliased).1 hnode)
    have hp' := hn'.ofText_eq_ok_iff.2 ⟨Profile.ofNode_of_content? hcontent, hone⟩
    exact ⟨hp', fun d => by rw [hp', hp]⟩
  · intro text n hn hrepeats
    obtain ⟨e, he⟩ := hrepeats.ofNode
    exact ⟨e, hn.ofText_eq_error he⟩

/-! ## A case with and without what is passed over -/

namespace Yaml.Node

/-- A word written plainly, at no place. -/
def word (s : String) : Node := .scalar ⟨0, 0, 0⟩ none none true s

/-- A sequence at no place. -/
def list (items : List Node) : Node := .sequence ⟨0, 0, 0⟩ none items

/-- A mapping at no place. -/
def record (es : List (String × Node)) : Node :=
  .mapping ⟨0, 0, 0⟩ none (es.map fun e => (word e.1, e.2))

end Yaml.Node

open Yaml.Node (word list record)

/-- A profile with a single case. -/
def plainCase : Node := record [("cases", list [record [("name", word "A")]])]

/-- The same profile with nulls and an unknown field. -/
def editedCase : Node :=
  record [("cases", list [record [("type", word ""), ("name", word "A")]]),
    ("categories", word "~"), ("x", list [word "1"])]

/-- A profile with a single case, which has a null beside its name. -/
def repeatedCase : Node :=
  .mapping ⟨0, 0, 0⟩ none
    [(.scalar ⟨0, 0, 0⟩ none none true "cases", .sequence ⟨7, 1, 0⟩ none
      [.mapping ⟨9, 1, 2⟩ none
        [(.scalar ⟨9, 1, 2⟩ none none true "name", .scalar ⟨15, 1, 8⟩ none none true "A"),
          (.scalar ⟨19, 2, 2⟩ none none true "name", .absent ⟨25, 3, 0⟩)]])]

theorem plainCase_edits : Relation.ReflTransGen (Edit .profile) plainCase editedCase := by
  have hcase : Edit .case (record [("name", word "A")])
      (record [("type", word ""), ("name", word "A")]) :=
    .addNull rfl (by decide) (by decide) (by decide)
  have hwithin : Edit .profile plainCase
      (record [("cases", list [record [("type", word ""), ("name", word "A")]])]) :=
    @Edit.within _ _ _ _ [] _ _ _ _ [] [] _ _ rfl rfl hcase
  have hnull : Edit .profile _ (record [("categories", word "~"),
      ("cases", list [record [("type", word ""), ("name", word "A")]])]) :=
    .addNull rfl (by decide) (by decide) (by decide)
  have hunknown : Edit .profile _ (record [("x", list [word "1"]), ("categories", word "~"),
      ("cases", list [record [("type", word ""), ("name", word "A")]])]) :=
    .addUnknown rfl (by decide) (by decide)
  have hperm : Edit .profile (record [("x", list [word "1"]), ("categories", word "~"),
      ("cases", list [record [("type", word ""), ("name", word "A")]])]) editedCase :=
    .permute ((List.reverse_perm [_, _, _]).map _)
  exact (((Relation.ReflTransGen.single hwithin).tail hnull).tail hunknown).tail hperm

theorem repeatedCase_repeats : Repeats .profile repeatedCase :=
  .within rfl rfl List.mem_cons_self List.mem_cons_self
    (.here rfl rfl (by decide) (List.Sublist.refl _))

/-- A profile with a case in it, with and without what is passed over and what is null,
    and with a null beside the name of the case. -/
theorem Profile.ofText_edited_nested :
    (∃ p, Profile.ofText "cases:\n- name: A\n" = .ok p ∧
      Profile.ofText "cases:\n- type:\n  name: A\ncategories: ~\nx: [1]\n" = .ok p ∧
      p.cases = [⟨"A", "", ""⟩]) ∧
    ∃ e, Profile.ofText "cases:\n- name: A\n  name:\n" = .error e := by
  constructor
  · have hplain : (Yaml.Document.ofText "cases:\n- name: A\n".toList).root.map Node.placeless =
        some plainCase := by decide +kernel
    have hedited : (Yaml.Document.ofText
        "cases:\n- type:\n  name: A\ncategories: ~\nx: [1]\n".toList).root.map Node.placeless =
        some editedCase := by decide +kernel
    obtain ⟨n, hn, hmove⟩ := Option.map_eq_some_iff.1 hplain
    obtain ⟨n', hn', hmove'⟩ := Option.map_eq_some_iff.1 hedited
    have hunaliased : (Yaml.Document.ofText "cases:\n- name: A\n".toList).root.map
        Node.isUnaliased = some true := by decide +kernel
    have hcases : (Profile.ofText "cases:\n- name: A\n").map (·.cases) = .ok [⟨"A", "", ""⟩] := by
      decide +kernel
    rw [hn] at hunaliased
    cases hp : Profile.ofText "cases:\n- name: A\n" with
    | error e =>
      rw [hp] at hcases
      cases hcases
    | ok p =>
      have hedits : Relation.ReflTransGen (Edit .profile) n n' :=
        ((Relation.ReflTransGen.single (.move (by rw [hmove]; rfl))).trans plainCase_edits).tail
          (.move (by rw [hmove']; rfl))
      rw [hp] at hcases
      exact ⟨p, rfl, (Profile.ofText_edited.1 ⟨by decide, hn⟩ (Option.some.inj hunaliased) hp hedits
        ⟨by decide, hn'⟩ (by decide +kernel)).1, Except.ok.inj hcases⟩
  · have hrepeated : (Yaml.Document.ofText "cases:\n- name: A\n  name:\n".toList).root =
        some repeatedCase := by decide +kernel
    exact Profile.ofText_edited.2 ⟨by decide, hrepeated⟩ repeatedCase_repeats

end ProfileSync
