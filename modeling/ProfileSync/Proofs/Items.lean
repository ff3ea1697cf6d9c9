/-
  Where the functions of a source file stand in its text.

  * `Declares`: tokens declare a function themselves, or in a module in braces;
  * `Item.own` and `Item.attributed`: the functions that stand among the items of
    a module, and those in the values of attributes;
  * `Grammar.Reads.contents`: functions of the first kind are declared by the
    tokens that are read, not in a group of another kind.
-/
import ProfileSync.Proofs.Files
import ProfileSync.Proofs.Grammar
import ProfileSync.Proofs.Tests
import ProfileSync.Source.File

namespace ProfileSync

/-! ## Functions that tokens declare -/

/-- A function is declared by tokens: its name comes after the word for
    functions.  Of the groups among the tokens only the braces of modules are
    looked into. -/
inductive Declares : List Token → String → Nat → Prop
  | function {before wordLine name line after} :
      Declares (before ++ .word "fn" wordLine :: .word name line :: after) name line
  | module {before wordLine title titleLine content after name line} :
      Declares content name line →
      Declares (before ++ .word "mod" wordLine :: .word title titleLine ::
        .group .brace content :: after) name line

theorem Declares.of_suffix {ts ts' : List Token} {name : String} {line : Nat}
    (h : Declares ts name line) (hsuffix : ts <:+ ts') : Declares ts' name line := by
  obtain ⟨front, rfl⟩ := hsuffix
  cases h with
  | function =>
    rw [← List.append_assoc]
    exact .function
  | module h =>
    rw [← List.append_assoc]
    exact .module h

/-! ## Functions of items and of attributes -/

mutual

/-- The functions that stand among the items of a module, or the function
    itself. -/
def Item.own : Item → List (String × Nat)
  | .function name line => [(name, line)]
  | .module _ items => Item.ownOf items
  | .other => []

/-- Those of several items, one after the other. -/
def Item.ownOf : List Item → List (String × Nat)
  | [] => []
  | i :: rest => i.own ++ Item.ownOf rest

end

/-- The functions of an item are declared by tokens. -/
def Item.DeclaredIn (i : Item) (ts : List Token) : Prop := ∀ f ∈ i.own, Declares ts f.1 f.2

theorem Item.DeclaredIn.of_suffix {i : Item} {ts ts' : List Token} (hsuffix : ts <:+ ts')
    (h : i.DeclaredIn ts) : i.DeclaredIn ts' := fun f hf => (h f hf).of_suffix hsuffix

mutual

/-- The functions that stand in the values of the attributes of a module, or of
    a module in it. -/
def Item.attributed : Item → List (String × Nat)
  | .module attributes items => Attribute.functionsOf attributes ++ Item.attributedOf items
  | _ => []

/-- Those of several items, one after the other. -/
def Item.attributedOf : List Item → List (String × Nat)
  | [] => []
  | i :: rest => i.attributed ++ Item.attributedOf rest

end

/-- Items are treated after those that follow them and those in them. -/
@[elab_as_elim]
theorem Item.inductionOn {motive : List Item → Prop} (nil : motive [])
    (function : ∀ name line rest, motive rest → motive (.function name line :: rest))
    (module : ∀ attributes inner rest, motive inner → motive rest →
      motive (.module attributes inner :: rest))
    (other : ∀ rest, motive rest → motive (.other :: rest)) : ∀ items, motive items
  | [] => nil
  | .function name line :: rest =>
    function name line rest (inductionOn nil function module other rest)
  | .module attributes inner :: rest =>
    module attributes inner rest (inductionOn nil function module other inner)
      (inductionOn nil function module other rest)
  | .other :: rest => other rest (inductionOn nil function module other rest)

theorem mem_ownOf {items : List Item} {f : String × Nat} :
    f ∈ Item.ownOf items ↔ ∃ i ∈ items, f ∈ i.own := by
  induction items with
  | nil => simp [Item.ownOf]
  | cons i items ih => simp [Item.ownOf, ih]

/-- A function that is met in items stands among them or in an attribute. -/
theorem mem_functionsOf {items : List Item} {f : String × Nat} :
    f ∈ Item.functionsOf items ↔ f ∈ Item.ownOf items ∨ f ∈ Item.attributedOf items := by
  induction items using Item.inductionOn with
  | nil => simp [Item.functionsOf, Item.ownOf, Item.attributedOf]
  | function name line rest ih =>
    simp [Item.functionsOf, Item.ownOf, Item.attributedOf, Item.functions, Item.own,
      Item.attributed, ih, or_assoc]
  | module attributes inner rest ihinner ih =>
    simp only [Item.functionsOf, Item.ownOf, Item.attributedOf, Item.functions, Item.own,
      Item.attributed, List.mem_append, ihinner, ih]
    tauto
  | other rest ih =>
    simp [Item.functionsOf, Item.ownOf, Item.attributedOf, Item.functions, Item.own,
      Item.attributed, ih]

/-- The functions that stand in the attributes of a file and of its modules. -/
def SourceFile.attributed (file : SourceFile) : List (String × Nat) :=
  Attribute.functionsOf file.attributes ++ Item.attributedOf file.items

theorem SourceFile.mem_functions {file : SourceFile} {f : String × Nat} :
    f ∈ file.functions ↔ f ∈ Item.ownOf file.items ∨ f ∈ file.attributed := by
  rw [SourceFile.functions, SourceFile.attributed, List.mem_append, List.mem_append,
    mem_functionsOf]
  tauto

/-- Whether an attribute is a path, alone, with arguments or with a literal as its
    value. -/
def Attribute.isPlain : Attribute → Bool
  | .plain => true
  | .valued _ => false

mutual

/-- Whether the attributes of a module are plain, those of modules in it as
    well. -/
def Item.isPlain : Item → Bool
  | .module attributes items => attributes.all Attribute.isPlain && Item.arePlain items
  | _ => true

/-- Whether those of all modules among items are. -/
def Item.arePlain : List Item → Bool
  | [] => true
  | i :: rest => i.isPlain && Item.arePlain rest

end

/-- Whether the attributes of a file and of its modules are plain. -/
def SourceFile.isPlain (file : SourceFile) : Bool :=
  file.attributes.all Attribute.isPlain && Item.arePlain file.items

theorem Attribute.functionsOf_of_isPlain {attributes : List Attribute}
    (h : attributes.all Attribute.isPlain = true) : Attribute.functionsOf attributes = [] := by
  induction attributes with
  | nil => rfl
  | cons a attributes ih =>
    rw [List.all_cons, Bool.and_eq_true] at h
    rw [Attribute.functionsOf, ih h.2]
    cases a with
    | plain => rfl
    | valued items => cases h.1

theorem functionsOf_of_arePlain {items : List Item} (h : Item.arePlain items = true) :
    Item.functionsOf items = Item.ownOf items := by
  induction items using Item.inductionOn with
  | nil => rfl
  | function name line rest ih =>
    rw [Item.functionsOf, Item.ownOf, ih h]
    rfl
  | module attributes inner rest ihinner ih =>
    rw [Item.arePlain, Item.isPlain, Bool.and_eq_true, Bool.and_eq_true] at h
    rw [Item.functionsOf, Item.ownOf, Item.functions, Item.own, ihinner h.1.2, ih h.2,
      Attribute.functionsOf_of_isPlain h.1.1, List.nil_append]
  | other rest ih =>
    rw [Item.functionsOf, Item.ownOf, ih h]
    rfl

/-- If all attributes are plain, only functions among items are met. -/
theorem SourceFile.functions_of_isPlain {file : SourceFile} (h : file.isPlain = true) :
    file.functions = Item.ownOf file.items := by
  rw [SourceFile.isPlain, Bool.and_eq_true] at h
  rw [SourceFile.functions, Attribute.functionsOf_of_isPlain h.1, functionsOf_of_arePlain h.2,
    List.nil_append]

/-! ## Reading items -/

namespace Grammar

variable {rules : Rule → Reader Piece} {s s' : Scan}

/-- The name of a function is one of the tokens; what is left stands after it. -/
theorem Reads.signature_suffix {allowSafe : Bool} {name : String} {line : Nat}
    (h : Reads rules (signature allowSafe) s (name, line) s') :
    ∃ wordLine rest, .word "fn" wordLine :: .word name line :: rest <:+ s.tokens ∧
      s'.tokens <:+ rest := by
  rw [Grammar.signature, reads_bind] at h
  obtain ⟨_, s₁, hfront, h⟩ := h
  obtain ⟨_, s₂, hword, h⟩ := reads_bind.1 h
  obtain ⟨ts, s₃, hts, h⟩ := reads_bind.1 h
  obtain ⟨rfl, rfl⟩ := reads_tokens.1 hts
  obtain ⟨wordLine, hword, -⟩ := hword.word
  split at h
  · rename_i text line' rest htokens
    obtain ⟨_, s₄, hname, h⟩ := reads_bind.1 h
    have hrest : s'.tokens <:+ s₄.tokens := h.suffix
    obtain ⟨_, _, -, h⟩ := reads_bind.1 h
    obtain ⟨_, _, -, h⟩ := reads_bind.1 h
    obtain ⟨_, _, -, h⟩ := reads_bind.1 h
    obtain ⟨_, _, -, h⟩ := reads_bind.1 h
    cases (reads_pure.1 h).1
    obtain ⟨_, _, hcons, -⟩ := hname.name
    rw [htokens] at hword hcons
    obtain ⟨-, rfl⟩ := List.cons.inj hcons
    exact ⟨wordLine, s₄.tokens, hword ▸ hfront.suffix, hrest⟩
  · exact absurd h not_reads_failure

/-- The head of a function declares it. -/
theorem Reads.signature {allowSafe : Bool} {name : String} {line : Nat}
    (h : Reads rules (signature allowSafe) s (name, line) s') : Declares s.tokens name line := by
  obtain ⟨wordLine, rest, hhead, -⟩ := h.signature_suffix
  refine Declares.of_suffix ?_ hhead
  exact (.function : Declares ([] ++ .word "fn" wordLine :: .word name line :: rest) name line)

/-- A function as an item is declared by its tokens. -/
theorem Reads.functionItem {i : Item} (h : Reads rules functionItem s i s') :
    i.DeclaredIn s.tokens := by
  rw [Grammar.functionItem, reads_bind] at h
  obtain ⟨_, s₁, hvisibility, h⟩ := h
  obtain ⟨⟨name, line⟩, s₂, hsignature, h⟩ := reads_bind.1 h
  obtain ⟨semicolon, s₃, -, h⟩ := reads_bind.1 h
  split at h
  · rw [(reads_pure.1 h).1]
    simp [Item.DeclaredIn, Item.own]
  · obtain ⟨_, _, -, h⟩ := reads_bind.1 h
    rw [(reads_pure.1 h).1]
    intro f hf
    rw [List.mem_singleton.1 hf]
    exact hsignature.signature.of_suffix hvisibility.suffix

/-- Readers of items as they should be: one item is met, and its functions are
    declared by the tokens. -/
def ReadsItems (rules : Rule → Reader Piece) : Prop :=
  ∀ s a s', Reads rules (rule .item) s a s' →
    ∃ i, s'.met = i :: s.met ∧ i.DeclaredIn s.tokens

/-- What a file or a module holds is declared by the tokens. -/
theorem Reads.contents (hrules : ReadsItems rules) {held : List Attribute × List Item}
    (h : Reads rules contents s held s') :
    ∀ f ∈ Item.ownOf held.2, Declares s.tokens f.1 f.2 := by
  rw [Grammar.contents, reads_bind] at h
  obtain ⟨attributes, s₁, hattributes, h⟩ := h
  obtain ⟨⟨as, items⟩, s₂, hitems, h⟩ := reads_bind.1 h
  rw [(reads_pure.1 h).1]
  obtain ⟨s₃, hmany, rfl, -⟩ := reads_itemsOf.1 hitems
  obtain ⟨ts, s₄, hts, hmany⟩ := reads_bind.1 hmany
  obtain ⟨-, rfl⟩ := reads_tokens.1 hts
  obtain ⟨items, hmet, hdeclares⟩ :=
    hmany.repeatUpTo Item.DeclaredIn Item.DeclaredIn.of_suffix hrules
  intro f hf
  obtain ⟨i, hi, hf⟩ := mem_ownOf.1 hf
  rw [hmet, List.append_nil, List.mem_reverse] at hi
  exact (hdeclares i hi f hf).of_suffix hattributes.suffix

/-- A module holds what is declared in its braces. -/
theorem Reads.moduleItem (hrules : ReadsItems rules) {outer : List Attribute} {i : Item}
    (h : Reads rules (moduleItem outer) s i s') : i.DeclaredIn s.tokens := by
  rw [Grammar.moduleItem, reads_bind] at h
  obtain ⟨_, s₁, hvisibility, h₁⟩ := h
  obtain ⟨_, s₂, hqualifier, h₂⟩ := reads_bind.1 h₁
  obtain ⟨_, s₃, hword, h₃⟩ := reads_bind.1 h₂
  obtain ⟨_, s₄, htitle, h₄⟩ := reads_bind.1 h₃
  obtain ⟨semicolon, s₅, hsemicolon, h₅⟩ := reads_bind.1 h₄
  cases semicolon with
  | true =>
    rw [if_pos rfl] at h₅
    rw [(reads_pure.1 h₅).1]
    intro f hf
    cases hf
  | false =>
    rw [if_neg Bool.false_ne_true] at h₅
    obtain ⟨⟨inner, items⟩, s₆, hgroup, h₆⟩ := reads_bind.1 h₅
    obtain ⟨wordLine, hword, -⟩ := hword.word
    obtain ⟨title, titleLine, htitle, -⟩ := htitle.nameOr
    obtain ⟨content, s₇, htokens, hcontents, -, -⟩ := hgroup.group
    rw [hsemicolon.optionalMarks_false] at htokens
    rw [(reads_pure.1 h₆).1]
    intro f hf
    have hinside : Declares content f.1 f.2 := hcontents.contents hrules f hf
    refine Declares.of_suffix ?_ (hqualifier.suffix.trans hvisibility.suffix)
    rw [hword, htitle, htokens]
    exact (.module hinside : Declares ([] ++ .word "mod" wordLine :: .word title titleLine ::
      .group .brace content :: s₆.tokens) f.1 f.2)

theorem Reads.otherItem {p : Grammar Unit} {i : Item} {ts : List Token}
    (h : Reads rules (otherItem p) s i s') : i.DeclaredIn ts := by
  obtain ⟨_, _, -, h⟩ := reads_bind.1 h
  rw [(reads_pure.1 h).1]
  intro f hf
  cases hf

/-- Whatever an item is, its functions are declared by its tokens. -/
theorem Reads.itemAfter (hrules : ReadsItems rules) {outer : List Attribute} {i : Item}
    (h : Reads rules (itemAfter outer) s i s') : i.DeclaredIn s.tokens := by
  rw [Grammar.itemAfter, reads_bind] at h
  obtain ⟨inherited, s₁, hinherited, h⟩ := h
  obtain ⟨ts, s₂, hts, h⟩ := reads_bind.1 h
  refine Item.DeclaredIn.of_suffix (hts.suffix.trans hinherited.suffix) ?_
  -- one case for each kind of item
  repeat' first
    | exact h.functionItem
    | exact h.moduleItem hrules
    | exact h.otherItem
    | exact absurd h not_reads_failure
    | rcases h.of_ite with h | h

theorem Reads.item (hrules : ReadsItems rules) {a : Piece} (h : Reads rules item s a s') :
    ∃ i, s'.met = i :: s.met ∧ i.DeclaredIn s.tokens := by
  rw [Grammar.item, reads_bind] at h
  obtain ⟨i, s₁, hhidden, h₁⟩ := h
  obtain ⟨_, s₂, hmeet, h₂⟩ := reads_bind.1 h₁
  obtain ⟨s₃, hread, rfl⟩ := reads_hidden.1 hhidden
  obtain ⟨outer, s₄, houter, hitem⟩ := reads_bind.1 hread
  rw [(reads_pure.1 h₂).2, reads_meet.1 hmeet]
  exact ⟨i, rfl, (hitem.itemAfter hrules).of_suffix houter.suffix⟩

end Grammar

/-- However deep rules stand inside each other, items are read as they should
    be. -/
theorem Rule.readsItems_run (depth : Nat) : Grammar.ReadsItems (Rule.run depth) := by
  induction depth with
  | zero =>
    rintro s a s' ⟨r, hr, -⟩
    cases hr
  | succ depth ih =>
    rintro s a s' ⟨r, hr, rfl, rfl⟩
    exact Grammar.Reads.item ih ⟨r, hr, rfl, rfl⟩

/-- **The functions of a file** that stand among its items are declared by its
    tokens. -/
theorem SourceFile.declares_own {text : String} {file : SourceFile} {ts : List Token}
    (hfile : SourceFile.ofText? text = some file) (hts : SourceFile.tokens? text = some ts) :
    ∀ f ∈ Item.ownOf file.items, Declares ts f.1 f.2 := by
  unfold SourceFile.ofText? at hfile
  rw [hts, Option.bind_eq_bind, Option.bind_some, Option.bind_eq_bind] at hfile
  obtain ⟨r, hr, hvalue⟩ := Option.bind_eq_some_iff.1 hfile
  cases hvalue
  exact Grammar.Reads.contents (Rule.readsItems_run _) ⟨r, hr, rfl, rfl⟩

/-! ## What is collected -/

theorem exists_of_testFunctions? {text : String} {d : Declared} (h : testFunctions? text = some d) :
    ∃ ts file, SourceFile.tokens? text = some ts ∧ SourceFile.ofText? text = some file ∧
      file.declared = d := by
  obtain ⟨file, hfile, hd⟩ := Option.map_eq_some_iff.1 h
  cases hts : SourceFile.tokens? text with
  | none =>
    unfold SourceFile.ofText? at hfile
    rw [hts] at hfile
    cases hfile
  | some ts => exact ⟨ts, file, rfl, hfile, hd⟩

theorem SourceFile.mem_entries {file : SourceFile} {e : String × Option Nat}
    (h : e ∈ file.declared.entries) :
    ∃ line, e.2 = some line ∧ isTestName e.1 = true ∧ (e.1, line) ∈ file.functions := by
  have hlookup : file.declared.entries.lookup e.1 = some e.2 :=
    (lookup_eq_some_iff_mem file.declared.nodup).2 h
  rw [declared_eq_ofList, Declared.lookup_ofList] at hlookup
  obtain ⟨front, back, hsplit, -⟩ := List.lookup_eq_some_iff.1 hlookup
  have hmem : (e.1, e.2) ∈ (testsAmong file.functions).map fun f => (f.1, some f.2) := by
    rw [hsplit]
    simp
  obtain ⟨⟨name, line⟩, hf, heq⟩ := List.mem_map.1 hmem
  obtain ⟨hfunctions, htest⟩ := List.mem_filter.1 hf
  obtain ⟨hname, hline⟩ := Prod.mk.inj heq
  exact ⟨line, hline.symm, hname ▸ htest, hname ▸ hfunctions⟩

/-- **What is collected** from a text is a function that its tokens declare, or
    one that stands in the value of an attribute of the file or of a module. -/
theorem testFunctions?_declares_or_attributed {text : String} {d : Declared}
    (h : testFunctions? text = some d) :
    ∃ ts file, SourceFile.tokens? text = some ts ∧ SourceFile.ofText? text = some file ∧
      ∀ e ∈ d.entries, ∃ line, e.2 = some line ∧ isTestName e.1 = true ∧
        (Declares ts e.1 line ∨ (e.1, line) ∈ file.attributed) := by
  obtain ⟨ts, file, hts, hfile, rfl⟩ := exists_of_testFunctions? h
  refine ⟨ts, file, hts, hfile, fun e he => ?_⟩
  obtain ⟨line, hline, htest, hmem⟩ := SourceFile.mem_entries he
  refine ⟨line, hline, htest, ?_⟩
  rcases SourceFile.mem_functions.1 hmem with hown | hattributed
  · exact .inl (SourceFile.declares_own hfile hts _ hown)
  · exact .inr hattributed

theorem testFunctions?_declares_or_attributed_nested :
    ∃ d, testFunctions? "mod a { fn TestA() {} }" = some d ∧
      d.entries = [("TestA", some 1)] ∧
      ∃ ts file, SourceFile.tokens? "mod a { fn TestA() {} }" = some ts ∧
        SourceFile.ofText? "mod a { fn TestA() {} }" = some file ∧
        (Declares ts "TestA" 1 ∨ ("TestA", 1) ∈ file.attributed) := by
  have hentries : (testFunctions? "mod a { fn TestA() {} }").map (·.entries) =
      some [("TestA", some 1)] := by decide +kernel
  obtain ⟨d, hd, he⟩ := Option.map_eq_some_iff.1 hentries
  obtain ⟨ts, file, hts, hfile, hall⟩ := testFunctions?_declares_or_attributed hd
  obtain ⟨line, hline, -, hdeclares⟩ := hall ("TestA", some 1) (by rw [he]; simp)
  cases hline
  exact ⟨d, hd, he, ts, file, hts, hfile, hdeclares⟩

/-- Whether a token can stand at the front of a function or hold one. -/
def Token.mayDeclare : Token → Bool
  | .word text _ => text == "fn"
  | .group d _ => d == .brace
  | _ => false

theorem Declares.any_mayDeclare {ts : List Token} {name : String} {line : Nat}
    (h : Declares ts name line) : ts.any Token.mayDeclare = true := by
  rw [List.any_eq_true]
  cases h with
  | @function _ wordLine => exact ⟨.word "fn" wordLine, by simp, rfl⟩
  | @module _ _ _ _ content => exact ⟨.group .brace content, by simp, rfl⟩

/-- A text with no such token has no braces and declares nothing. -/
theorem SourceFile.exists_tokens_not_declares {text : String}
    (h : (SourceFile.tokens? text).map (·.any Token.mayDeclare) = some false) :
    ∃ ts, SourceFile.tokens? text = some ts ∧ (∀ content, .group .brace content ∉ ts) ∧
      ∀ name line, ¬ Declares ts name line := by
  obtain ⟨ts, hts, hnone⟩ := Option.map_eq_some_iff.1 h
  have hnot : ¬ ts.any Token.mayDeclare = true := by
    rw [hnone]
    exact Bool.false_ne_true
  exact ⟨ts, hts, fun content hmem => hnot (List.any_eq_true.2 ⟨_, hmem, rfl⟩),
    fun name line hdeclares => hnot hdeclares.any_mayDeclare⟩

/-- **A function in the value of an attribute** is collected, and it is not
    declared by the tokens. -/
theorem testFunctions?_in_attribute :
    ∃ d ts, testFunctions? "#![x = { fn TestA() {} }]" = some d ∧
      SourceFile.tokens? "#![x = { fn TestA() {} }]" = some ts ∧
      ("TestA", some 1) ∈ d.entries ∧ ¬ Declares ts "TestA" 1 := by
  have hentries : (testFunctions? "#![x = { fn TestA() {} }]").map (·.entries) =
      some [("TestA", some 1)] := by decide +kernel
  have htokens : (SourceFile.tokens? "#![x = { fn TestA() {} }]").map (·.any Token.mayDeclare) =
      some false := by decide +kernel
  obtain ⟨d, hd, he⟩ := Option.map_eq_some_iff.1 hentries
  obtain ⟨ts, hts, -, hnone⟩ := SourceFile.exists_tokens_not_declares htokens
  exact ⟨d, ts, hd, hts, by rw [he]; simp, hnone _ _⟩

end ProfileSync
