/-
  Entries that may be written in another way.

  * `ContentField.effects?_perm`: the order of the entries of a mapping decides nothing, if
    no field stands twice;
  * `ContentField.effects?_unknown` and `ContentField.effects?_null`: an entry of another key
    and a null effect nothing;
  * `RecordKind.content?_placeless`: a node says the same at every place.
-/
import Mathlib.Data.List.Pairwise
import ProfileSync.Proofs.Content

namespace ProfileSync

open Yaml (Node Mark)

/-! ## Places -/

namespace Yaml.Node

mutual

/-- A node without the places in it. -/
def placeless : Node → Node
  | .scalar _ a tag plain s => .scalar ⟨0, 0, 0⟩ a tag plain s
  | .sequence _ a items => .sequence ⟨0, 0, 0⟩ a (allPlaceless items)
  | .mapping _ a entries => .mapping ⟨0, 0, 0⟩ a (entriesPlaceless entries)
  | .reference _ target => .reference ⟨0, 0, 0⟩ target
  | .cut => .cut

/-- Several nodes without the places in them. -/
def allPlaceless : List Node → List Node
  | [] => []
  | n :: rest => n.placeless :: allPlaceless rest

/-- The entries of a mapping without the places in them. -/
def entriesPlaceless : List (Node × Node) → List (Node × Node)
  | [] => []
  | (k, v) :: rest => (k.placeless, v.placeless) :: entriesPlaceless rest

end

theorem text?_placeless (n : Node) : n.placeless.text? = n.text? := by
  cases n <;> rfl

theorem present?_placeless (n : Node) :
    n.placeless.present? = n.present?.map (·.map placeless) := by
  cases n with
  | scalar mark a tag plain s =>
    cases plain with
    | false => rfl
    | true =>
      cases tag with
      | none =>
        simp only [placeless, present?]
        split <;> rfl
      | some t =>
        simp only [placeless, present?]
        split
        · split <;> rfl
        · rfl
  | _ => rfl

mutual

theorem isWhole_placeless : (n : Node) → n.placeless.isWhole = n.isWhole
  | .scalar .. | .reference .. | .cut => rfl
  | .sequence _ _ items => allWhole_placeless items
  | .mapping _ _ entries => allEntriesWhole_placeless entries

theorem allWhole_placeless : (ns : List Node) → allWhole (allPlaceless ns) = allWhole ns
  | [] => rfl
  | n :: rest => by
    rw [allPlaceless, allWhole, allWhole, isWhole_placeless n, allWhole_placeless rest]

theorem allEntriesWhole_placeless : (es : List (Node × Node)) →
    allEntriesWhole (entriesPlaceless es) = allEntriesWhole es
  | [] => rfl
  | (k, v) :: rest => by
    rw [entriesPlaceless, allEntriesWhole, allEntriesWhole, isWhole_placeless k,
      isWhole_placeless v, allEntriesWhole_placeless rest]

end

theorem items?_placeless {α : Type} {item : Option (Node → Option α)}
    (hitem : ∀ read? ∈ item, ∀ n : Node, read? n.placeless = read? n) (n : Node) :
    n.placeless.items? item = n.items? item := by
  cases n with
  | sequence mark a nodes =>
    cases item with
    | none => rfl
    | some read? =>
      have hread := hitem read? rfl
      simp only [placeless, items?, Option.bind_some]
      induction nodes with
      | nil => rfl
      | cons n rest ih => rw [allPlaceless, List.mapM_cons, List.mapM_cons, hread, ih]
  | _ => rfl

end Yaml.Node

namespace ContentField

variable {σ : Type} {fields : List (ContentField σ)} {key value : Node} {effect : σ → σ}
  {es es' : List (Node × Node)}

/-! ## Entries in another order -/

/-- The fields are different parts of a record. -/
def Independent (f g : ContentField σ) : Prop :=
  ∀ a b record, f.put a (g.put b record) = g.put b (f.put a record)

instance : Std.Symm (Independent (σ := σ)) where
  symm _ _ h a b record := (h b a record).symm

/-- An entry has no effect or one on a field, the one that its key names. -/
theorem effect?_cases (h : effect? fields key value = some effect) :
    effect = id ∨ ∃ name field a, key.text? = some name ∧
      fields.find? (·.name == name) = some field ∧ effect = field.put a := by
  obtain ⟨name, hname, h⟩ := Option.bind_eq_some_iff.1 h
  cases hfind : fields.find? (·.name == name) with
  | none =>
    rw [hfind] at h
    exact .inl (Option.some.inj (Option.ite_none_right_eq_some.1 h).2).symm
  | some field =>
    rw [hfind] at h
    obtain ⟨n?, -, h⟩ := Option.bind_eq_some_iff.1 h
    cases n? with
    | none => exact .inl (Option.some.inj h).symm
    | some n =>
      obtain ⟨a, -, rfl⟩ := Option.map_eq_some_iff.1 h
      exact .inr ⟨name, field, a, hname, hfind, rfl⟩

theorem namesAmong_sublist (h : es.Sublist es') :
    (namesAmong fields es).Sublist (namesAmong fields es') :=
  (h.filterMap _).filter _

theorem namesAmong_perm (h : es.Perm es') : (namesAmong fields es).Perm (namesAmong fields es') :=
  (h.filterMap _).filter _

/-- Entries for different fields change a record in either order alike. -/
theorem effect?_comm (hfields : fields.Pairwise Independent) {key' value' : Node}
    {effect' : σ → σ} (hnodup : (namesAmong fields [(key, value), (key', value')]).Nodup)
    (h : effect? fields key value = some effect)
    (h' : effect? fields key' value' = some effect') : effect' ∘ effect = effect ∘ effect' := by
  obtain rfl | ⟨name, f, a, hname, hf, rfl⟩ := effect?_cases h
  · rfl
  obtain rfl | ⟨name', g, b, hname', hg, rfl⟩ := effect?_cases h'
  · rfl
  have hne : f ≠ g := by
    rintro rfl
    have hsame : name = name' :=
      (beq_iff_eq.1 (List.find?_eq_some_iff_append.1 hf).1).symm.trans
        (beq_iff_eq.1 (List.find?_eq_some_iff_append.1 hg).1)
    rw [namesAmong_of_known hname hf, namesAmong_of_known hname' hg] at hnodup
    exact (List.nodup_cons.1 hnodup).1 (hsame ▸ List.mem_cons_self)
  have hindependent := hfields.forall (List.mem_of_find?_eq_some hf)
    (List.mem_of_find?_eq_some hg) hne
  exact funext fun record => (hindependent a b record).symm

/-- **The order of entries** decides nothing, if no field stands twice. -/
theorem effects?_perm (hfields : fields.Pairwise Independent) (h : es.Perm es')
    (hnodup : (namesAmong fields es).Nodup) (hes : effects? fields es = some effect) :
    effects? fields es' = some effect := by
  induction h generalizing effect with
  | nil => exact hes
  | cons e h ih =>
    obtain ⟨own, others, hown, hothers, rfl⟩ := effects?_cons_eq_some_iff.1 hes
    have hrest := hnodup.sublist (namesAmong_sublist (List.sublist_cons_self _ _))
    exact effects?_cons_eq_some_iff.2 ⟨own, others, hown, ih hrest hothers, rfl⟩
  | swap e e' rest =>
    obtain ⟨first, _, hfirst, hrest, rfl⟩ := effects?_cons_eq_some_iff.1 hes
    obtain ⟨second, others, hsecond, hothers, rfl⟩ := effects?_cons_eq_some_iff.1 hrest
    have hpair : (namesAmong fields [e', e]).Nodup :=
      hnodup.sublist (namesAmong_sublist (by simp))
    refine effects?_cons_eq_some_iff.2 ⟨second, others ∘ first, hsecond,
      effects?_cons_eq_some_iff.2 ⟨first, others, hfirst, hothers, rfl⟩, ?_⟩
    rw [Function.comp_assoc, Function.comp_assoc, effect?_comm hfields hpair hfirst hsecond]
  | trans h _ ih ih' => exact ih' ((namesAmong_perm h).nodup hnodup) (ih hnodup hes)

/-! ## Entries at other places -/

/-- The values of a field are read wherever they stand. -/
def Placeless (field : ContentField σ) : Prop := ∀ n : Node, field.read? n.placeless = field.read? n

theorem effect?_placeless (hfields : ∀ field ∈ fields, field.Placeless) (key value : Node) :
    effect? fields key.placeless value.placeless = effect? fields key value := by
  rw [effect?, effect?, Node.text?_placeless]
  refine congrArg (Option.bind key.text?) (funext fun name => ?_)
  cases hfind : fields.find? (·.name == name) with
  | none =>
    dsimp only
    rw [Node.isWhole_placeless]
  | some field =>
    dsimp only
    rw [Node.present?_placeless]
    cases value.present? with
    | none => rfl
    | some n? =>
      cases n? with
      | none => rfl
      | some n =>
        have hread := hfields field (List.mem_of_find?_eq_some hfind) n
        simp [hread]

theorem effects?_placeless (hfields : ∀ field ∈ fields, field.Placeless)
    (es : List (Node × Node)) :
    effects? fields (Node.entriesPlaceless es) = effects? fields es := by
  induction es with
  | nil => rfl
  | cons e rest ih => rw [Node.entriesPlaceless, effects?, effects?, effect?_placeless hfields, ih]

theorem namesAmong_placeless (es : List (Node × Node)) :
    namesAmong fields (Node.entriesPlaceless es) = namesAmong fields es := by
  have htexts : (Node.entriesPlaceless es).filterMap (·.1.text?) = es.filterMap (·.1.text?) := by
    induction es with
    | nil => rfl
    | cons e rest ih =>
      rw [Node.entriesPlaceless, List.filterMap_cons, List.filterMap_cons, ih,
        Node.text?_placeless]
  rw [namesAmong, htexts, namesAmong]

theorem record?_placeless {fields? : Option (List (ContentField σ))}
    (hfields : ∀ fields ∈ fields?, ∀ field ∈ fields, field.Placeless) (default : σ) (n : Node) :
    record? default fields? n.placeless = record? default fields? n := by
  cases n with
  | mapping mark a es =>
    cases fields? with
    | none => rfl
    | some fields =>
      simp only [Node.placeless, record?, Option.bind_some, namesAmong_placeless,
        effects?_placeless (hfields fields rfl)]
  | _ => rfl

/-! ## Entries more and entries less -/

variable {name : String} {rest : List (Node × Node)} {field : ContentField σ}

/-- An entry that is passed over changes nothing. -/
theorem effects?_unknown (hkey : key.text? = some name)
    (hfind : fields.find? (·.name == name) = none) (hvalue : value.isWhole = true)
    (h : effects? fields rest = some effect) :
    effects? fields ((key, value) :: rest) = some effect :=
  effects?_cons_eq_some_iff.2
    ⟨id, effect, by rw [effect?_of_unknown hkey hfind, if_pos hvalue], h, rfl⟩

theorem effect?_null (hkey : key.text? = some name)
    (hfind : fields.find? (·.name == name) = some field) (hvalue : value.present? = some none) :
    effect? fields key value = some id := by
  rw [effect?_of_known hkey hfind, hvalue]
  rfl

/-- A null changes nothing. -/
theorem effects?_null (hkey : key.text? = some name)
    (hfind : fields.find? (·.name == name) = some field) (hvalue : value.present? = some none) :
    effects? fields ((key, value) :: rest) = effects? fields rest := by
  rw [effects?, effect?_null hkey hfind hvalue]
  simp

/-- What an entry says may be written in another way. -/
theorem effects?_value {value' : Node}
    (h : ∀ own, effect? fields key value = some own → effect? fields key value' = some own)
    (hes : effects? fields ((key, value) :: rest) = some effect) :
    effects? fields ((key, value') :: rest) = some effect := by
  obtain ⟨own, others, hown, hothers, rfl⟩ := effects?_cons_eq_some_iff.1 hes
  exact effects?_cons_eq_some_iff.2 ⟨own, others, h own hown, hothers, rfl⟩

end ContentField

theorem Category.forall_mk {P : Category → Prop} :
    (∀ g, P g) ↔ ∀ name description cases categories, P (.mk name description cases categories) :=
  ⟨fun h _ _ _ _ => h _, fun h g => by cases g; exact h _ _ _ _⟩

namespace RecordKind

open ContentField

variable {kind inside : RecordKind} {name : String} {inner : Option Readings}

/-! ## Fields of the kinds -/

theorem names_fields (inner : Option Readings) (kind : RecordKind) :
    (kind.fields inner).map (·.name) = kind.names := by
  cases kind <;> rfl

theorem find?_of_mem (inner : Option Readings) (h : name ∈ kind.names) :
    ∃ field, (kind.fields inner).find? (·.name == name) = some field := by
  rw [← names_fields inner, List.mem_map] at h
  obtain ⟨field, hfield, rfl⟩ := h
  exact Option.isSome_iff_exists.1 (List.find?_isSome.2 ⟨field, hfield, beq_self_eq_true _⟩)

theorem find?_of_notMem (inner : Option Readings) (h : name ∉ kind.names) :
    (kind.fields inner).find? (·.name == name) = none := by
  rw [List.find?_eq_none]
  rintro field hfield hname
  rw [← names_fields inner] at h
  exact h (List.mem_map.2 ⟨field, hfield, beq_iff_eq.1 hname⟩)

theorem find?_of_inside? (inner : Option Readings) (h : kind.inside? name = some inside) :
    ∃ put : List inside.Record → kind.Record → kind.Record,
      (kind.fields inner).find? (·.name == name) =
        some (.ofItems name (inner.map (· inside)) put) := by
  cases kind with
  | case => cases h
  | _ => obtain ⟨rfl, rfl⟩ | ⟨rfl, rfl⟩ := inside?_eq_some h <;> exact ⟨_, rfl⟩

theorem independent_fields (kind : RecordKind) : (kind.fields inner).Pairwise Independent := by
  cases kind with
  | profile => simp [fields, profileFields, Independent, ofText, ofItems]
  | category => simp [fields, categoryFields, Independent, ofText, ofItems, Category.forall_mk]
  | case => simp [fields, caseFields, Independent, ofText]

theorem placeless_fields (hinner : ∀ content? ∈ inner, ∀ kind, ∀ n : Node,
      content? kind n.placeless = content? kind n) (kind : RecordKind) :
    ∀ field ∈ kind.fields inner, field.Placeless := by
  have htext : ∀ {σ : Type} (name : String) (put : String → σ → σ), (ofText name put).Placeless :=
    fun _ _ n => n.text?_placeless
  have hitems : ∀ {σ : Type} (inside : RecordKind) (name : String)
      (put : List inside.Record → σ → σ),
      (ofItems name (inner.map (· inside)) put).Placeless := fun inside _ _ n =>
    Node.items?_placeless (fun read? hread => by
      obtain ⟨content?, hcontent, rfl⟩ := Option.map_eq_some_iff.1 hread
      exact hinner content? hcontent inside) n
  cases kind with
  | profile =>
    simpa [fields, profileFields] using
      ⟨htext _ _, htext _ _, htext _ _, hitems case _ _, hitems category _ _⟩
  | category =>
    simpa [fields, categoryFields] using
      ⟨htext _ _, htext _ _, hitems case _ _, hitems category _ _⟩
  | case => simpa [fields, caseFields] using ⟨htext _ _, htext _ _, htext _ _⟩

/-- The readings of the records inside a record that has a depth to spare. -/
def contentBelow? : Nat → Option Readings
  | 0 => none
  | depth + 1 => some (content? depth)

theorem content?_succ (depth : Nat) (kind : RecordKind) :
    content? (depth + 1) kind =
      ContentField.record? kind.default (some (kind.fields (contentBelow? depth))) := by
  cases depth <;> rfl

/-- What a mapping says is what its entries say. -/
theorem content?_mapping_eq_some_iff {depth : Nat} {mark : Mark} {a : Option Nat}
    {es : List (Node × Node)} {r : kind.Record} :
    kind.content? depth (.mapping mark a es) = some r ↔ ∃ below, depth = below + 1 ∧
      (namesAmong (kind.fields (contentBelow? below)) es).Nodup ∧
        ∃ effect, effects? (kind.fields (contentBelow? below)) es = some effect ∧
          effect kind.default = r := by
  cases depth with
  | zero => simp [content?, record?]
  | succ below =>
    simp only [content?_succ, record?, Option.bind_some, Option.ite_none_right_eq_some,
      Option.map_eq_some_iff, Nat.add_right_cancel_iff, exists_eq_left', and_assoc, exists_and_left]

theorem content?_placeless (depth : Nat) (kind : RecordKind) (n : Node) :
    kind.content? depth n.placeless = kind.content? depth n := by
  induction depth using Nat.strongRecOn generalizing kind n with
  | ind depth ih =>
    cases depth with
    | zero => exact ContentField.record?_placeless (fun _ h => by cases h) _ n
    | succ below =>
      rw [content?_succ]
      refine ContentField.record?_placeless (fun fields hfields => ?_) _ n
      obtain rfl := Option.some.inj hfields
      refine placeless_fields (fun read? hread kind n => ?_) kind
      cases below with
      | zero => cases hread
      | succ depth =>
        obtain rfl := Option.some.inj hread
        exact ih depth (by omega) kind n

end RecordKind

end ProfileSync
