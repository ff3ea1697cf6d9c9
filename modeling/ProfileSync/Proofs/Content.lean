/-
  What a document says of a profile, apart from where it says it.

  The decoders carry the path to a node, the places of errors and the anchors with
  them, and none of these decides what is read.

  * `RecordKind.content?` reads a node as a record without them: a mapping is read if
    each of its entries is and no field stands twice, and then each entry is put into
    the record;
  * `Decoder.Agrees` compares a decoder with such a reading, and `agrees_entries`,
    `agrees_record` and the lemmas before them say it of each decoder;
  * `Profile.ofNode_eq_ok_iff`: so a profile is the content of its node, if that has no
    aliases.
-/
import Mathlib.Data.List.Forall2
import Mathlib.Data.List.Nodup
import ProfileSync.Profile.Reading

namespace ProfileSync

open Yaml (Node Mark)

namespace Yaml.Node

/-! ## Nodes as values -/

/-- The text of a scalar. -/
def text? : Node → Option String
  | scalar _ _ _ _ s => some s
  | _ => none

/-- The value that a field has by a node: `some none` if that is null, and `none` if it
    cannot be told without following an alias or is tagged as null and is not. -/
def present? : Node → Option (Option Node)
  | reference .. | cut => none
  | scalar mark a tag true s =>
    match tag with
    | none => some (if s.isEmpty || isNullText s then none else some (.scalar mark a none true s))
    | some t =>
      if t = standardTag "null" then if isNullText s then some none else none
      else some (some (.scalar mark a (some t) true s))
  | n => some (some n)

/-- A sequence of which each item can be read. -/
def items? {α : Type} (item : Option (Node → Option α)) : Node → Option (List α)
  | sequence _ _ nodes => item.bind (nodes.mapM ·)
  | scalar _ _ _ plain s => if plain && s.isEmpty then some [] else none
  | _ => none

mutual

/-- Whether there is no alias inside a node. -/
def isUnaliased : Node → Bool
  | .scalar .. => true
  | .sequence _ _ items => allUnaliased items
  | .mapping _ _ entries => allEntriesUnaliased entries
  | .reference .. => false
  | .cut => true

/-- Whether there is no alias inside several nodes. -/
def allUnaliased : List Node → Bool
  | [] => true
  | n :: rest => n.isUnaliased && allUnaliased rest

/-- Whether there is no alias inside the entries of a mapping. -/
def allEntriesUnaliased : List (Node × Node) → Bool
  | [] => true
  | (k, v) :: rest => k.isUnaliased && v.isUnaliased && allEntriesUnaliased rest

end

/-- A value that is not null is the node itself. -/
theorem eq_of_present? {n n' : Node} (h : n.present? = some (some n')) : n' = n := by
  cases n with
  | scalar mark a tag plain s =>
    cases plain with
    | false => exact (Option.some.inj (Option.some.inj h)).symm
    | true =>
      cases tag with
      | none =>
        have hvalue := Option.some.inj h
        split at hvalue
        · cases hvalue
        · exact (Option.some.inj hvalue).symm
      | some t =>
        simp only [present?] at h
        split at h
        · split at h <;> cases h
        · exact (Option.some.inj (Option.some.inj h)).symm
  | sequence mark a items => exact (Option.some.inj (Option.some.inj h)).symm
  | mapping mark a es => exact (Option.some.inj (Option.some.inj h)).symm
  | reference mark target => cases h
  | cut => cases h

/-! ## Equality of nodes -/

mutual

/-- Whether two nodes are the same. -/
def same : Node → Node → Bool
  | .scalar m a tag p s, .scalar m' a' tag' p' s' =>
    decide (m = m') && a == a' && tag == tag' && p == p' && s == s'
  | .sequence m a items, .sequence m' a' items' =>
    decide (m = m') && a == a' && allSame items items'
  | .mapping m a es, .mapping m' a' es' => decide (m = m') && a == a' && entriesSame es es'
  | .reference m target, .reference m' target' => decide (m = m') && target == target'
  | .cut, .cut => true
  | _, _ => false

/-- Whether several nodes are the same. -/
def allSame : List Node → List Node → Bool
  | [], [] => true
  | n :: rest, n' :: rest' => same n n' && allSame rest rest'
  | _, _ => false

/-- Whether the entries of two mappings are the same. -/
def entriesSame : List (Node × Node) → List (Node × Node) → Bool
  | [], [] => true
  | (k, v) :: rest, (k', v') :: rest' => same k k' && same v v' && entriesSame rest rest'
  | _, _ => false

end

mutual

theorem same_iff (n n' : Node) : same n n' = true ↔ n = n' := by
  cases n with
  | sequence m a items => cases n' <;> simp [same, allSame_iff items, and_assoc]
  | mapping m a es => cases n' <;> simp [same, entriesSame_iff es, and_assoc]
  | _ => cases n' <;> simp [same, and_assoc]

theorem allSame_iff (ns ns' : List Node) : allSame ns ns' = true ↔ ns = ns' := by
  cases ns with
  | nil => cases ns' <;> simp [allSame]
  | cons n rest => cases ns' <;> simp [allSame, same_iff n, allSame_iff rest]

theorem entriesSame_iff (es es' : List (Node × Node)) : entriesSame es es' = true ↔ es = es' := by
  cases es with
  | nil => cases es' <;> simp [entriesSame]
  | cons e rest =>
    obtain ⟨k, v⟩ := e
    cases es' <;> simp [entriesSame, same_iff k, same_iff v, entriesSame_iff rest, Prod.ext_iff]

end

instance : DecidableEq Node := fun n n' => decidable_of_iff _ (same_iff n n')
end Yaml.Node

/-! ## Records as the content of nodes -/

/-- A field of a record without regard to places: its name, the values that nodes have
    for it, and how a value is put into the record. -/
structure ContentField (σ : Type) where
  name : String
  Value : Type
  read? : Node → Option Value
  put : Value → σ → σ

namespace ContentField

variable {σ : Type}

/-- A field with a text. -/
def ofText (name : String) (put : String → σ → σ) : ContentField σ :=
  ⟨name, String, Node.text?, put⟩

/-- A field with a sequence. -/
def ofItems {α : Type} (name : String) (item : Option (Node → Option α))
    (put : List α → σ → σ) : ContentField σ :=
  ⟨name, List α, Node.items? item, put⟩

/-- What an entry of a mapping changes in a record. -/
def effect? (fields : List (ContentField σ)) (key value : Node) : Option (σ → σ) :=
  key.text?.bind fun name =>
    match fields.find? (·.name == name) with
    | some field => value.present?.bind fun n? =>
        n?.elim (some id) fun n => (field.read? n).map field.put
    | none => if value.isWhole then some id else none

/-- What the entries of a mapping change in a record, one after the other. -/
def effects? (fields : List (ContentField σ)) : List (Node × Node) → Option (σ → σ)
  | [] => some id
  | (key, value) :: rest =>
    (effect? fields key value).bind fun effect => (effects? fields rest).map (· ∘ effect)

/-- The names of fields among the keys of a mapping. -/
def namesAmong (fields : List (ContentField σ)) (es : List (Node × Node)) : List String :=
  (es.filterMap (·.1.text?)).filter fun name => (fields.find? (·.name == name)).isSome

section Entries

variable {fields : List (ContentField σ)} {field : ContentField σ} {key value : Node}
  {name : String} {rest : List (Node × Node)}

theorem effects?_cons_eq_some_iff {effect : σ → σ} :
    effects? fields ((key, value) :: rest) = some effect ↔ ∃ own others,
      effect? fields key value = some own ∧ effects? fields rest = some others ∧
        effect = others ∘ own := by
  simp only [effects?, Option.bind_eq_some_iff, Option.map_eq_some_iff]
  constructor
  · rintro ⟨own, hown, others, hothers, rfl⟩
    exact ⟨own, others, hown, hothers, rfl⟩
  · rintro ⟨own, others, hown, hothers, rfl⟩
    exact ⟨own, hown, others, hothers, rfl⟩

theorem effect?_of_known (hkey : key.text? = some name)
    (hfind : fields.find? (·.name == name) = some field) :
    effect? fields key value = value.present?.bind fun n? =>
      n?.elim (some id) fun n => (field.read? n).map field.put := by
  rw [effect?, hkey, Option.bind_some, hfind]

theorem effect?_of_unknown (hkey : key.text? = some name)
    (hfind : fields.find? (·.name == name) = none) :
    effect? fields key value = if value.isWhole then some id else none := by
  rw [effect?, hkey, Option.bind_some, hfind]

theorem namesAmong_of_known (hkey : key.text? = some name)
    (hfind : fields.find? (·.name == name) = some field) :
    namesAmong fields ((key, value) :: rest) = name :: namesAmong fields rest := by
  rw [namesAmong, List.filterMap_cons, hkey, List.filter_cons_of_pos (by simp [hfind]), namesAmong]

theorem namesAmong_of_unknown (hkey : key.text? = some name)
    (hfind : fields.find? (·.name == name) = none) :
    namesAmong fields ((key, value) :: rest) = namesAmong fields rest := by
  rw [namesAmong, List.filterMap_cons, hkey, List.filter_cons_of_neg (by simp [hfind]), namesAmong]

end Entries

/-- A record, with the fields that are not written as in `default`. -/
def record? (default : σ) (fields? : Option (List (ContentField σ))) : Node → Option σ
  | .mapping _ _ es => fields?.bind fun fields =>
      (if (namesAmong fields es).Nodup then effects? fields es else none).map (· default)
  | .scalar _ _ _ plain s => if plain && s.isEmpty then some default else none
  | _ => none

end ContentField

/-- The kinds of records that a profile is written with. -/
inductive RecordKind where
  | profile
  | category
  | case
deriving DecidableEq

namespace RecordKind

/-- The records of a kind. -/
abbrev Record : RecordKind → Type
  | profile => Profile
  | category => Category
  | case => Case

/-- The names of the fields of a kind of records. -/
def names : RecordKind → List String
  | profile => ["source", "test", "description", "cases", "categories"]
  | category => ["name", "description", "cases", "categories"]
  | case => ["name", "type", "description"]

/-- The kind of the records that a field of a kind of records holds. -/
def inside? : RecordKind → String → Option RecordKind
  | case, _ => none
  | _, "cases" => some case
  | _, "categories" => some category
  | _, _ => none

theorem inside?_eq_some {kind inside : RecordKind} {name : String}
    (h : kind.inside? name = some inside) :
    name = "cases" ∧ inside = case ∨ name = "categories" ∧ inside = category := by
  unfold inside? at h
  split at h <;> cases h
  · exact .inl ⟨rfl, rfl⟩
  · exact .inr ⟨rfl, rfl⟩

/-- The record of a kind that nothing is written of. -/
def default : (kind : RecordKind) → kind.Record
  | profile => Profile.empty
  | category => Category.mk "" "" [] []
  | case => Case.mk "" "" ""

/-- The fields of a profile. -/
def profileFields (case : Option (Node → Option Case))
    (category : Option (Node → Option Category)) : List (ContentField Profile) :=
  [.ofText "source" fun s p => { p with source := s },
   .ofText "test" fun s p => { p with test := s },
   .ofText "description" fun s p => { p with description := s },
   .ofItems "cases" case fun cs p => { p with cases := cs },
   .ofItems "categories" category fun gs p => { p with categories := gs }]

/-- The fields of a category. -/
def categoryFields (case : Option (Node → Option Case))
    (category : Option (Node → Option Category)) : List (ContentField Category) :=
  [.ofText "name" fun s (Category.mk _ d cs gs) => Category.mk s d cs gs,
   .ofText "description" fun s (Category.mk n _ cs gs) => Category.mk n s cs gs,
   .ofItems "cases" case fun cs (Category.mk n d _ gs) => Category.mk n d cs gs,
   .ofItems "categories" category fun gs (Category.mk n d cs _) => Category.mk n d cs gs]

/-- The fields of a case. -/
def caseFields : List (ContentField Case) :=
  [.ofText "name" fun s c => { c with name := s },
   .ofText "type" fun s c => { c with kind := s },
   .ofText "description" fun s c => { c with description := s }]

/-- How the records of each kind are read. -/
abbrev Readings : Type := (kind : RecordKind) → Node → Option kind.Record

/-- The fields of a kind of records, with how those inside are read. -/
def fields (inner : Option Readings) :
    (kind : RecordKind) → List (ContentField kind.Record)
  | profile => profileFields (inner.map (· case)) (inner.map (· category))
  | category => categoryFields (inner.map (· case)) (inner.map (· category))
  | case => caseFields

/-- A record of a kind, where `depth` mappings and sequences may still be nested. -/
def content? : Nat → (kind : RecordKind) → Node → Option kind.Record
  | 0, kind => ContentField.record? kind.default none
  | 1, kind => ContentField.record? kind.default (some (fields none kind))
  | depth + 2, kind =>
    ContentField.record? kind.default (some (fields (some (content? depth)) kind))

end RecordKind

/-! ## Decoders against content -/

namespace Decoder

variable {α β σ : Type} {strict strict' : Prop} {m : Decoder α} {f : α → Decoder β}

/-- A decoder that fails. -/
def Fails (m : Decoder α) : Prop := ∀ count, ∃ e, m.run count = .error e

theorem Fails.bind (h : m.Fails) (f : α → Decoder β) : (m >>= f).Fails := fun count => by
  obtain ⟨e, he⟩ := h count
  exact ⟨e, by rw [StateT.run_bind, he]; rfl⟩

theorem fails_bind (m : Decoder α) (h : ∀ a, (f a).Fails) : (m >>= f).Fails := fun count => by
  rw [StateT.run_bind]
  cases m.run count with
  | error e => exact ⟨e, rfl⟩
  | ok r => exact h r.1 r.2

theorem fails_bind_of_gives {a : α} (hm : ∀ count, m.run count = .ok (a, count))
    (h : (f a).Fails) : (m >>= f).Fails := fun count => by
  rw [StateT.run_bind, hm]
  exact h count

theorem fails_throw (e : DocumentError) : (throw e : Decoder α).Fails := fun _ => ⟨e, rfl⟩

theorem fails_unexpected (path : String) (n : Node) (expected : String) :
    (unexpected path n expected : Decoder α).Fails := by
  cases n <;> exact fails_throw _

/-- The decoder gives what there is, and in the `strict` case fails if there is
    nothing. -/
structure Agrees (strict : Prop) (m : Decoder α) (o : Option α) : Prop where
  gives : ∀ a, o = some a → ∀ count, m.run count = .ok (a, count)
  fails : strict → o = none → m.Fails

namespace Agrees

theorem weaken {o : Option α} (h : Agrees strict m o) (himp : strict' → strict) :
    Agrees strict' m o :=
  ⟨h.gives, fun hs => h.fails (himp hs)⟩

theorem some (a : α) : Agrees strict (pure a) (some a) :=
  ⟨fun _ h _ => by cases h; rfl, nofun⟩

theorem none (h : strict → m.Fails) : Agrees strict m none := ⟨nofun, fun hs _ => h hs⟩

theorem bind_some {a : α} {o : Option β} (h : Agrees strict m (.some a))
    (hf : Agrees strict (f a) o) : Agrees strict (m >>= f) o where
  gives b hb count := by
    rw [StateT.run_bind, h.gives a rfl count]
    exact hf.gives b hb count
  fails hs ho := fails_bind_of_gives (h.gives a rfl) (hf.fails hs ho)

theorem bind_none (h : Agrees strict m .none) : Agrees strict (m >>= f) .none :=
  none fun hs => (h.fails hs rfl).bind f

theorem map {o : Option α} (h : Agrees strict m o) (g : α → β) :
    Agrees strict (m >>= fun a => pure (g a)) (o.map g) := by
  cases o with
  | none => exact h.bind_none
  | some a => exact h.bind_some (some (g a))

end Agrees

/-- An alias is not read here, and a decoder may follow it. -/
theorem agrees_reference (mark : Mark) (target : Nat) (m : Decoder α) :
    Agrees ((Node.reference mark target).isUnaliased = true) m none :=
  .none fun h => (Bool.false_ne_true h).elim

theorem agrees_text (expected : String) (anchors : Anchors) (path : String) (n : Node) :
    Agrees (n.isUnaliased = true) (text expected anchors path n) n.text? := by
  cases n with
  | scalar mark a tag plain s => exact .some s
  | reference mark target => exact agrees_reference mark target _
  | sequence mark a items =>
    exact .none fun _ => fails_unexpected path (.sequence mark a items) expected
  | mapping mark a entries =>
    exact .none fun _ => fails_unexpected path (.mapping mark a entries) expected
  | cut => exact .none fun _ => fails_unexpected path .cut expected

theorem agrees_present (anchors : Anchors) (place : Place) (n : Node) :
    Agrees (n.isUnaliased = true) (present anchors place n) n.present? := by
  cases n with
  | scalar mark a tag plain s =>
    cases plain with
    | false => exact .some _
    | true =>
      cases tag with
      | none => exact .some _
      | some t =>
        simp only [present, Node.present?, resolve, pure_bind]
        split
        · split
          · exact .some _
          · exact .none fun _ => fails_throw _
        · exact .some _
  | reference mark target => exact agrees_reference mark target _
  | sequence mark a items => exact .some _
  | mapping mark a entries => exact .some _
  | cut => exact .none fun _ => fails_throw _

/-- Items are read one after the other, each at a path of its own. -/
theorem agrees_mapM {item : String → Node → Decoder α} {content : Node → Option α}
    (hitem : ∀ path n, Agrees (n.isUnaliased = true) (item path n) (content n)) (path : String)
    (nodes : List Node) (k : Nat) :
    Agrees (Node.allUnaliased nodes = true)
      ((nodes.zipIdx k).mapM fun (n, i) => item (itemPath path i) n) (nodes.mapM content) := by
  induction nodes generalizing k with
  | nil => exact .some []
  | cons n rest ih =>
    rw [List.zipIdx_cons, List.mapM_cons, List.mapM_cons]
    simp only [Option.bind_eq_bind, Option.pure_def]
    have hunaliased : Node.allUnaliased (n :: rest) = true →
        n.isUnaliased = true ∧ Node.allUnaliased rest = true := Bool.and_eq_true_iff.1
    have hn := (hitem (itemPath path k) n).weaken fun h => (hunaliased h).1
    have hrest := (ih (k + 1)).weaken fun h => (hunaliased h).2
    cases hc : content n with
    | none =>
      rw [hc] at hn
      exact hn.bind_none
    | some a =>
      rw [hc] at hn
      refine hn.bind_some ?_
      have hall := hrest.map (a :: ·)
      rw [Option.map_eq_bind] at hall
      exact hall

/-- A decoder agrees with a reading at each path and each node, or there is neither. -/
abbrev AgreeOn (item : Option (String → Node → Decoder α)) (content : Option (Node → Option α)) :
    Prop :=
  Option.Rel (fun m o => ∀ path n, Agrees (n.isUnaliased = true) (m path n) (o n)) item content

variable {item : Option (String → Node → Decoder α)} {content : Option (Node → Option α)}

theorem agrees_items (hitem : AgreeOn item content) (path : String) (n : Node) :
    Agrees (n.isUnaliased = true) (items item path n) (n.items? content) := by
  cases n with
  | scalar mark a tag plain s =>
    simp only [items, Node.items?]
    split
    · exact .some []
    · exact .none fun _ => fails_unexpected _ _ _
  | sequence mark a nodes =>
    cases hitem with
    | none => exact .none fun _ => fails_throw _
    | some h => exact agrees_mapM h path nodes 0
  | reference mark target => exact agrees_reference mark target _
  | mapping mark a entries =>
    exact .none fun _ => fails_unexpected path (.mapping mark a entries) "a sequence"
  | cut => exact .none fun _ => fails_unexpected path .cut "a sequence"

/-! ### Fields and records -/

open ContentField

/-- A field is decoded as its content is read. -/
structure FieldAgrees (field : RecordField σ) (content : ContentField σ) : Prop where
  name : field.name = content.name
  put : ∀ path n record, Agrees (n.isUnaliased = true) (field.put path n record)
    ((content.read? n).map (content.put · record))

theorem agrees_textField (anchors : Anchors) (name : String) (put : String → σ → σ) :
    FieldAgrees (textField anchors name put) (.ofText name put) where
  name := rfl
  put path n record := (agrees_text "a string" anchors path n).map (put · record)

theorem agrees_itemsField (hitem : AgreeOn item content) (name : String)
    (put : List α → σ → σ) :
    FieldAgrees (itemsField name item put) (.ofItems name content put) where
  name := rfl
  put path n record := (agrees_items hitem path n).map (put · record)

variable {fields : List (RecordField σ)} {contents : List (ContentField σ)}

theorem find?_agrees (h : List.Forall₂ FieldAgrees fields contents) (name : String) :
    Option.Rel FieldAgrees (fields.find? (·.name == name)) (contents.find? (·.name == name)) := by
  induction h with
  | nil => exact .none
  | @cons field content _ _ hfield _ ih =>
    rw [List.find?_cons, List.find?_cons, hfield.name]
    cases content.name == name with
    | true => exact .some hfield
    | false => exact ih

/-- The value of a field is put into the record before what comes after it is read. -/
theorem agrees_value {field : RecordField σ} {content : ContentField σ}
    (hagrees : FieldAgrees field content) {value : Node}
    (hvalue : strict → value.isUnaliased = true) {rest : σ → Decoder σ} {after? : Option (σ → σ)}
    (hrest : ∀ record, Agrees strict (rest record) (after?.map (· record))) (anchors : Anchors)
    (place : Place) (path : String) (record : σ) :
    Agrees strict
      (present anchors place value >>= fun
        | some n => field.put path n record >>= rest
        | none => rest record)
      (((value.present?.bind fun n? =>
          n?.elim (some id) fun n => (content.read? n).map content.put).bind fun own =>
        after?.map (· ∘ own)).map (· record)) := by
  have hpresent := (agrees_present anchors place value).weaken hvalue
  cases hn : value.present? with
  | none =>
    rw [hn] at hpresent
    exact hpresent.bind_none
  | some n? =>
    rw [hn] at hpresent
    refine hpresent.bind_some ?_
    cases n? with
    | none => simpa using hrest record
    | some n =>
      obtain rfl := Node.eq_of_present? hn
      have hput := (hagrees.put path n record).weaken hvalue
      cases hread : content.read? n with
      | none =>
        rw [hread] at hput
        simpa [hread] using hput.bind_none
      | some a =>
        rw [hread] at hput
        simpa [hread, Function.comp_def] using hput.bind_some (hrest _)

/-- The entries are read in the order of the mapping, and a field that stands twice is
    found out at its second entry. -/
theorem agrees_entries (hfields : List.Forall₂ FieldAgrees fields contents) (anchors : Anchors)
    (place : Place) (es : List (Node × Node)) (met : List String) (hmet : met.Nodup)
    (record : σ) :
    Agrees (Node.allEntriesUnaliased es = true) (entries anchors fields place es met record)
      ((if (met ++ namesAmong contents es).Nodup then effects? contents es else none).map
        (· record)) := by
  induction es generalizing met record with
  | nil =>
    rw [namesAmong, List.filterMap_nil, List.filter_nil, List.append_nil, if_pos hmet]
    exact .some record
  | cons e rest ih =>
    obtain ⟨key, value⟩ := e
    have hunaliased : Node.allEntriesUnaliased ((key, value) :: rest) = true →
        key.isUnaliased = true ∧ value.isUnaliased = true ∧
          Node.allEntriesUnaliased rest = true := fun h => by
      simpa [Node.allEntriesUnaliased, and_assoc] using h
    have hkey := (agrees_text "field identifier" anchors place.path key).weaken
      fun h => (hunaliased h).1
    have hrest := fun met hmet record => (ih met hmet record).weaken fun h => (hunaliased h).2.2
    simp only [entries, effects?]
    cases htext : key.text? with
    | none =>
      rw [htext] at hkey
      rw [effect?, htext, Option.bind_none, Option.bind_none, ite_self]
      exact hkey.bind_none
    | some name =>
      rw [htext] at hkey
      refine hkey.bind_some ?_
      have hfind := find?_agrees hfields name
      generalize hfield : fields.find? (·.name == name) = field?,
        hcontent : contents.find? (·.name == name) = content? at hfind
      cases hfind with
      | none =>
        rw [effect?_of_unknown htext hcontent, namesAmong_of_unknown htext hcontent]
        dsimp only
        split
        · simpa using hrest met hmet record
        · simpa using .none fun _ => fails_throw _
      | @some field content hagrees =>
        rw [effect?_of_known htext hcontent, namesAmong_of_known htext hcontent]
        dsimp only
        split
        · rename_i hmem
          have hnodup : ¬ (met ++ name :: namesAmong contents rest).Nodup := fun h =>
            (List.nodup_cons.1 (List.nodup_middle.1 h)).1
              (List.mem_append_left _ (by simpa using hmem))
          rw [if_neg hnodup]
          exact .none fun _ => (fails_throw _).bind _
        · rename_i hmem
          have hthen := hrest (name :: met) (List.nodup_cons.2 ⟨by simpa using hmem, hmet⟩)
          simp only [List.cons_append, ← List.nodup_middle] at hthen
          have hvalue := agrees_value hagrees (fun h => (hunaliased h).2.1) hthen anchors place
            (fieldPath place.path (keyStep key)) record
          split
          · rename_i hnodup
            rw [if_pos hnodup] at hvalue
            exact hvalue
          · rename_i hnodup
            simp only [if_neg hnodup, Option.map_none, Option.bind_fun_none] at hvalue
            exact hvalue

/-! ### Kinds of records -/

theorem agrees_record {fields? : Option (List (RecordField σ))}
    {contents? : Option (List (ContentField σ))}
    (hfields : Option.Rel (List.Forall₂ FieldAgrees) fields? contents?) (anchors : Anchors)
    (expected : String) (default : σ) (path : String) (n : Node) :
    Agrees (n.isUnaliased = true) (record anchors expected default fields? path n)
      (record? default contents? n) := by
  cases n with
  | scalar mark a tag plain s =>
    simp only [record, resolve, pure_bind, record?]
    split
    · exact .some default
    · exact .none fun _ => fails_unexpected _ _ _
  | mapping mark a es =>
    cases hfields with
    | none => exact .none fun _ => fails_throw _
    | some h => exact agrees_entries h anchors ⟨path, mark⟩ es [] List.nodup_nil default
  | reference mark target => exact agrees_reference mark target _
  | sequence mark a items =>
    exact .none fun _ => fails_unexpected path (.sequence mark a items) expected
  | cut => exact .none fun _ => fails_unexpected path .cut expected

end Decoder

namespace RecordKind

open Decoder

theorem agrees_case (anchors : Anchors) (depth : Nat) (path : String) (n : Node) :
    Agrees (n.isUnaliased = true) (Case.decode anchors depth path n) (content? depth case n) := by
  have hfields : List.Forall₂ FieldAgrees
      [textField anchors "name" fun s (c : Case) => { c with name := s },
       textField anchors "type" fun s c => { c with kind := s },
       textField anchors "description" fun s c => { c with description := s }] caseFields :=
    .cons (agrees_textField _ _ _) <| .cons (agrees_textField _ _ _) <|
      .cons (agrees_textField _ _ _) .nil
  match depth with
  | 0 => exact agrees_record .none anchors _ _ path n
  | 1 => exact agrees_record (.some hfields) anchors _ _ path n
  | depth + 2 => exact agrees_record (.some hfields) anchors _ _ path n

theorem agrees_category (anchors : Anchors) (depth : Nat) (path : String) (n : Node) :
    Agrees (n.isUnaliased = true) (Category.decode anchors depth path n)
      (content? depth category n) := by
  have hfields : ∀ {case case? category category?}, AgreeOn case case? →
      AgreeOn category category? →
      List.Forall₂ FieldAgrees (Category.fields anchors case category)
        (categoryFields case? category?) := fun hcase hcategory =>
    .cons (agrees_textField _ _ _) <| .cons (agrees_textField _ _ _) <|
      .cons (agrees_itemsField hcase _ _) <| .cons (agrees_itemsField hcategory _ _) .nil
  induction depth using Nat.strongRecOn generalizing path n with
  | ind depth ih =>
    match depth with
    | 0 => exact agrees_record .none anchors _ _ path n
    | 1 => exact agrees_record (.some (hfields .none .none)) anchors _ _ path n
    | depth + 2 =>
      exact agrees_record (.some (hfields (.some (agrees_case anchors depth))
        (.some (ih depth (by omega))))) anchors _ _ path n

end RecordKind

namespace Profile

open Decoder

theorem agrees_decode (anchors : Anchors) (n : Node) :
    Agrees (n.isUnaliased = true) (Profile.decode anchors n)
      (RecordKind.profile.content? deepest n) := by
  have hcase := RecordKind.agrees_case anchors 126
  have hcategory := RecordKind.agrees_category anchors 126
  exact agrees_record (.some <| .cons (agrees_textField _ _ _) <| .cons (agrees_textField _ _ _) <|
    .cons (agrees_textField _ _ _) <| .cons (agrees_itemsField (.some hcase) _ _) <|
    .cons (agrees_itemsField (.some hcategory) _ _) .nil) anchors "struct Profile" _ "" n

variable {n : Node} {p : Profile}

theorem ofNode_of_content? (h : RecordKind.profile.content? Decoder.deepest n = some p) :
    Profile.ofNode n = .ok p := by
  rw [ofNode, StateT.run'_eq, (agrees_decode _ n).gives p h]
  rfl

/-- **A profile is the content of its node**, if that has no aliases. -/
theorem ofNode_eq_ok_iff (hn : n.isUnaliased = true) :
    Profile.ofNode n = .ok p ↔ RecordKind.profile.content? Decoder.deepest n = some p := by
  refine ⟨fun h => ?_, ofNode_of_content?⟩
  cases hcontent : RecordKind.profile.content? Decoder.deepest n with
  | none =>
    obtain ⟨e, he⟩ := (agrees_decode ⟨n.anchored, n.size⟩ n).fails hn hcontent 0
    rw [ofNode, StateT.run'_eq, he] at h
    cases h
  | some p' =>
    rw [ofNode_of_content? hcontent] at h
    exact congrArg some (Except.ok.inj h)

end Profile

end ProfileSync
