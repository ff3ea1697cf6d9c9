/-
  Fields that stand twice.

  * `Repeats`: in the mapping of a record, at any depth, the key of a field stands
    twice;
  * `Decoder.fails_entries_of_twice`: the entries of such a mapping cannot be read, whatever
    stands between the two;
  * `RecordKind.fails_decode_mapping`: the decoders of the three kinds of records are one,
    with fields of their own;
  * `Repeats.fails_decode`: a node that repeats a field is no record.
-/
import ProfileSync.Proofs.Content

namespace ProfileSync

open Yaml (Node Mark)

namespace Decoder

variable {α σ : Type} {anchors : Anchors} {fields : List (RecordField σ)} {place : Place}
  {es : List (Node × Node)} {key value : Node} {name : String}

/-! ## Entries that cannot be read -/

/-- What fails after an entry fails with it.  An entry can only add to the fields that
    have been met. -/
theorem fails_entries_cons {met : List String}
    (h : ∀ met' record, met ⊆ met' → (entries anchors fields place es met' record).Fails)
    (e : Node × Node) (record : σ) : (entries anchors fields place (e :: es) met record).Fails := by
  unfold entries
  refine fails_bind _ fun name => ?_
  cases fields.find? (·.name == name) with
  | none =>
    dsimp only
    split
    · exact h met record (List.Subset.refl _)
    · exact fails_throw _
  | some field =>
    have hmet := List.subset_cons_self name met
    dsimp only
    split
    · exact (fails_throw _).bind _
    · refine fails_bind _ fun n? => ?_
      cases n? with
      | none => exact h _ record hmet
      | some n => exact fails_bind _ fun record => h _ record hmet

/-- What fails after a field has been met fails with its entry. -/
theorem fails_entries_known (hkey : key.text? = some name)
    (hfind : (fields.find? (·.name == name)).isSome) {met : List String}
    (h : name ∉ met → ∀ record, (entries anchors fields place es (name :: met) record).Fails)
    (record : σ) : (entries anchors fields place ((key, value) :: es) met record).Fails := by
  obtain ⟨field, hfind⟩ := Option.isSome_iff_exists.1 hfind
  unfold entries
  refine fails_bind_of_gives ((agrees_text _ _ _ key).gives name hkey) ?_
  rw [hfind]
  dsimp only
  split
  · exact (fails_throw _).bind _
  · rename_i hmet
    have hrest := h (by simpa using hmet)
    refine fails_bind _ fun n? => ?_
    cases n? with
    | none => exact hrest record
    | some n => exact fails_bind _ hrest

/-- A field that has been met already is not met again. -/
theorem fails_entries_of_met (hkey : key.text? = some name)
    (hfind : (fields.find? (·.name == name)).isSome) (hmem : (key, value) ∈ es)
    {met : List String} (hmet : name ∈ met) (record : σ) :
    (entries anchors fields place es met record).Fails := by
  induction es generalizing met record with
  | nil => cases hmem
  | cons e rest ih =>
    obtain rfl | hmem := List.mem_cons.1 hmem
    · exact fails_entries_known hkey hfind (fun hnew => absurd hmet hnew) record
    · exact fails_entries_cons (fun met' record hsub => ih hmem (hsub hmet) record) e record

theorem fails_entries_of_twice {key' value' : Node} (hkey : key.text? = some name)
    (hkey' : key'.text? = some name) (hfind : (fields.find? (·.name == name)).isSome)
    (htwice : [(key, value), (key', value')].Sublist es) (met : List String) (record : σ) :
    (entries anchors fields place es met record).Fails := by
  induction es generalizing met record with
  | nil => cases htwice
  | cons e rest ih =>
    cases htwice with
    | cons _ hrest => exact fails_entries_cons (fun met' record _ => ih hrest met' record) e record
    | cons_cons _ hrest =>
      have hmem : (key', value') ∈ rest := List.singleton_sublist.1 hrest
      exact fails_entries_known hkey hfind
        (fun _ => fails_entries_of_met hkey' hfind hmem List.mem_cons_self) record

/-- A value that cannot be put into the record is found out, whatever stands before
    it. -/
theorem fails_entries_of_value {field : RecordField σ} (hkey : key.text? = some name)
    (hfind : fields.find? (·.name == name) = some field) (hmem : (key, value) ∈ es)
    (hvalue : present anchors place value = pure (some value))
    (hput : ∀ path record, (field.put path value record).Fails) (met : List String)
    (record : σ) : (entries anchors fields place es met record).Fails := by
  induction es generalizing met record with
  | nil => cases hmem
  | cons e rest ih =>
    obtain rfl | hmem := List.mem_cons.1 hmem
    · unfold entries
      refine fails_bind_of_gives ((agrees_text _ _ _ key).gives name hkey) ?_
      rw [hfind, hvalue]
      dsimp only
      split
      · exact (fails_throw _).bind _
      · exact (hput _ record).bind _
    · exact fails_entries_cons (fun met' record _ => ih hmem met' record) e record

theorem fails_items {item : Option (String → Node → Decoder α)} {nodes : List Node} {n : Node}
    (hmem : n ∈ nodes) (h : ∀ read ∈ item, ∀ path, (read path n).Fails) (path : String)
    (mark : Mark) (a : Option Nat) : (items item path (.sequence mark a nodes)).Fails := by
  cases item with
  | none => exact fails_throw _
  | some read =>
    have hread := h read rfl
    have hall : ∀ k, ((nodes.zipIdx k).mapM fun (n, i) => read (itemPath path i) n).Fails := by
      induction nodes with
      | nil => cases hmem
      | cons n' rest ih =>
        intro k
        rw [List.zipIdx_cons, List.mapM_cons]
        obtain rfl | hmem := List.mem_cons.1 hmem
        · exact (hread _).bind _
        · exact fails_bind _ fun _ => (ih hmem (k + 1)).bind _
    exact hall 0

end Decoder

namespace RecordKind

open Decoder

/-! ## The decoders of the kinds -/

/-- The decoder of a kind of records.  Profiles are decoded at the root of a document
    only. -/
def decode (anchors : Anchors) (depth : Nat) :
    (kind : RecordKind) → String → Node → Decoder kind.Record
  | profile => fun _ => Profile.decode anchors
  | category => Category.decode anchors depth
  | case => Case.decode anchors depth

/-- The fields of a decoder are those of its kind, and what they hold is decoded by the
    decoders of the kinds inside. -/
structure DecodesFields (anchors : Anchors) (kind : RecordKind)
    (fields : List (RecordField kind.Record)) : Prop where
  names : fields.map (·.name) = kind.names
  inside : ∀ {name inside}, kind.inside? name = some inside → ∃ item put,
    fields.find? (·.name == name) = some (itemsField name item put) ∧
      ∀ read ∈ item, ∃ depth, read = inside.decode anchors depth

/-- The decoders of the three kinds are one, each with fields of its own. -/
theorem fails_decode_mapping {anchors : Anchors} {kind : RecordKind} {es : List (Node × Node)}
    (h : ∀ fields, DecodesFields anchors kind fields →
      ∀ place, (entries anchors fields place es [] kind.default).Fails)
    (depth : Nat) (path : String) (mark : Mark) (a : Option Nat) :
    (kind.decode anchors depth path (.mapping mark a es)).Fails := by
  have hcategory : ∀ {item : Option (String → Node → Decoder Case)}
      {group : Option (String → Node → Decoder Category)},
      (∀ read ∈ item, ∃ depth, read = decode anchors depth case) →
      (∀ read ∈ group, ∃ depth, read = decode anchors depth category) →
      DecodesFields anchors category (Category.fields anchors item group) :=
    fun hitem hgroup => ⟨rfl, fun hinside => by
      obtain ⟨rfl, rfl⟩ | ⟨rfl, rfl⟩ := inside?_eq_some hinside
      · exact ⟨_, _, rfl, hitem⟩
      · exact ⟨_, _, rfl, hgroup⟩⟩
  cases kind with
  | profile =>
    unfold decode Profile.decode
    refine h _ ⟨rfl, fun hinside => ?_⟩ _
    obtain ⟨rfl, rfl⟩ | ⟨rfl, rfl⟩ := inside?_eq_some hinside
    · exact ⟨_, _, rfl, fun read hread => ⟨deepest - 2, (Option.some.inj hread).symm⟩⟩
    · exact ⟨_, _, rfl, fun read hread => ⟨deepest - 2, (Option.some.inj hread).symm⟩⟩
  | category =>
    match depth with
    | 0 => exact fails_throw _
    | 1 => exact h _ (hcategory (by simp) (by simp)) _
    | depth + 2 =>
      exact h _ (hcategory (fun read hread => ⟨depth, (Option.some.inj hread).symm⟩)
        fun read hread => ⟨depth, (Option.some.inj hread).symm⟩) _
  | case =>
    cases depth with
    | zero => exact fails_throw _
    | succ depth => exact h _ ⟨rfl, nofun⟩ _

end RecordKind

/-! ## Nodes with repetitions -/

open Decoder RecordKind

/-- In the mapping of a record, or in that of one inside it, the key of a field stands
    twice. -/
inductive Repeats : RecordKind → Node → Prop
  | here {kind mark a es key value key' value' name} : key.text? = some name →
      key'.text? = some name → name ∈ kind.names →
      [(key, value), (key', value')].Sublist es → Repeats kind (.mapping mark a es)
  | within {kind inside mark a es key name mark' a' nodes n} : key.text? = some name →
      kind.inside? name = some inside → (key, .sequence mark' a' nodes) ∈ es → n ∈ nodes →
      Repeats inside n → Repeats kind (.mapping mark a es)

/-- **A node that repeats a field is no record**, whatever its aliases are. -/
theorem Repeats.fails_decode {kind : RecordKind} {n : Node} (h : Repeats kind n)
    (anchors : Anchors) (depth : Nat) (path : String) :
    (kind.decode anchors depth path n).Fails := by
  induction h generalizing depth path with
  | here hkey hkey' hname htwice =>
    refine fails_decode_mapping (fun fields hfields place => ?_) depth path _ _
    rw [← hfields.names, List.mem_map] at hname
    obtain ⟨field, hfield, rfl⟩ := hname
    have hfind : (fields.find? (·.name == field.name)).isSome :=
      List.find?_isSome.2 ⟨field, hfield, beq_self_eq_true _⟩
    exact fails_entries_of_twice hkey hkey' hfind htwice [] _
  | within hkey hinside hmem hnode _ ih =>
    refine fails_decode_mapping (fun fields hfields place => ?_) depth path _ _
    obtain ⟨item, put, hfind, hitem⟩ := hfields.inside hinside
    refine fails_entries_of_value hkey hfind hmem rfl (fun path record => ?_) [] _
    refine (fails_items hnode (fun read hread path => ?_) path _ _).bind _
    obtain ⟨depth, rfl⟩ := hitem read hread
    exact ih depth path

theorem Repeats.ofNode {n : Node} (h : Repeats .profile n) :
    ∃ e, Profile.ofNode n = .error e := by
  obtain ⟨e, he⟩ := h.fails_decode ⟨n.anchored, n.size⟩ 0 "" 0
  exact ⟨e, by rw [Profile.ofNode, StateT.run'_eq]; exact congrArg _ he⟩

end ProfileSync
