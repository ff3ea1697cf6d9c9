/-
  The lines of the tests and benchmarks of a source text.

  * `SourceFile.functions_among`: the functions of a file are names that follow the word
    for functions among its tokens, in their order unless a name is nested in attributes;
  * `Declared.Ascends`: the lines of declared functions never decrease, and
    `Declared.Ascends.idxOf_lt`: so of two functions the one on the smaller line comes
    first;
  * `testFunctions?_lines`: each line is known, it is one of the text and the name stands
    on it, and the lines never decrease, again unless a name is nested in attributes.
-/
import ProfileSync.Proofs.Orderly

namespace ProfileSync

/-! ## Lines that never decrease -/

namespace Declared

/-- First insertions are insertions, in their order. -/
theorem entries_ofList_sublist (declarations : List (String × Option Nat)) :
    (ofList declarations).entries.Sublist declarations := by
  induction declarations using List.reverseRecOn with
  | nil => exact List.Sublist.refl _
  | append_singleton declarations e ih =>
    rw [ofList_concat]
    by_cases hmem : e.1 ∈ (ofList declarations).names
    · rw [insert_of_mem hmem]
      exact ih.trans (List.sublist_append_left _ _)
    · rw [entries_insert hmem]
      exact ih.append (List.Sublist.refl [e])

/-- The lines of functions never decrease, as far as they are known. -/
def Ascends (d : Declared) : Prop :=
  d.entries.Pairwise fun e e' => ∀ line line', e.2 = some line → e'.2 = some line' → line ≤ line'

theorem mem_entries_of_lineOf {d : Declared} {name : String} {line : Nat}
    (h : d.lineOf name = some line) : (name, some line) ∈ d.entries := by
  rw [lineOf, Option.join_eq_some_iff] at h
  exact (lookup_eq_some_iff_mem d.nodup).1 h

/-- **Of two functions the one on the smaller line comes first.** -/
theorem Ascends.idxOf_lt {d : Declared} (h : d.Ascends) {name name' : String} {line line' : Nat}
    (hline : d.lineOf name = some line) (hline' : d.lineOf name' = some line') (hlt : line < line') :
    d.names.idxOf name < d.names.idxOf name' := by
  obtain ⟨i, hi, hentry⟩ := List.mem_iff_getElem.1 (mem_entries_of_lineOf hline)
  obtain ⟨j, hj, hentry'⟩ := List.mem_iff_getElem.1 (mem_entries_of_lineOf hline')
  have hplace : ∀ {k name line} (hk : k < d.entries.length), d.entries[k] = (name, line) →
      d.names.idxOf name = k := by
    intro k name line hk hentry
    have hlength : k < d.names.length := by rwa [names, List.length_map]
    have hname : d.names[k] = name := by simp [names, hentry]
    rw [← hname]
    exact d.nodup_names.idxOf_getElem k hlength
  rw [hplace hi hentry, hplace hj hentry']
  rcases Nat.lt_trichotomy i j with hbefore | rfl | hafter
  · exact hbefore
  · rw [hentry] at hentry'
    cases hentry'
    exact absurd hlt (Nat.lt_irrefl _)
  · have hle := List.pairwise_iff_getElem.1 h j i hj hi hafter line' line
      (by rw [hentry']) (by rw [hentry])
    omega

end Declared

/-! ## The functions of a file -/

/-- **The functions of a file** are among the names that follow the word for functions in
    its tokens, and they stand in their order if none is nested in attributes. -/
theorem SourceFile.functions_among {text : String} {file : SourceFile} {ts : List Token}
    (hfile : SourceFile.ofText? text = some file) (hts : SourceFile.tokens? text = some ts) :
    Among (Token.nestedHeads ts = []) file.functions (Token.heads ts) := by
  unfold SourceFile.ofText? at hfile
  rw [hts, Option.bind_eq_bind, Option.bind_some, Option.bind_eq_bind] at hfile
  obtain ⟨r, hr, hvalue⟩ := Option.bind_eq_some_iff.1 hfile
  cases hvalue
  obtain ⟨met, -, hamong⟩ := Grammar.meets_contents (Rule.rulesMeet_run _ (depthFor text))
    (s := ⟨ts, []⟩) id ⟨r, hr, rfl, rfl⟩
  have hfunctions : (SourceFile.functions ⟨r.value.1, r.value.2⟩).Sublist
      (Item.functionsOf met.reverse ++ (Attribute.functionsOf r.value.1 ++
        Item.functionsOf r.value.2 ++ Token.heads r.scan.tokens)) :=
    (List.sublist_append_left _ _).trans (List.sublist_append_right _ _)
  exact (Among.of_sublist hfunctions).trans hamong

/-- The first tests and benchmarks among the functions of a file are those that it
    declares. -/
theorem SourceFile.exists_firsts (file : SourceFile) :
    ∃ firsts : List (String × Nat), firsts.Sublist file.functions ∧
      (∀ f ∈ firsts, isTestName f.1 = true) ∧
        file.declared.entries = firsts.map fun f => (f.1, some f.2) := by
  obtain ⟨firsts, hfirsts, hentries⟩ := List.sublist_map_iff.1
    (Declared.entries_ofList_sublist ((testsAmong file.functions).map fun f => (f.1, some f.2)))
  refine ⟨firsts, hfirsts.trans List.filter_sublist, fun f hf => ?_, ?_⟩
  · exact (List.mem_filter.1 (hfirsts.subset hf)).2
  · rw [SourceFile.declared_eq_ofList, hentries]

/-- **The lines of the tests and benchmarks of a text** are known; each is one of its
    lines, and the name stands on it.  Unless a name is nested in attributes they never
    decrease, so of two functions the one on the smaller line comes first. -/
theorem testFunctions?_lines {text : String} {d : Declared} (h : testFunctions? text = some d) :
    (∀ e ∈ d.entries, ∃ line, e.2 = some line ∧ 1 ≤ line ∧ line ≤ lineCount text.toList ∧
      StandsOn e.1.toList line text.toList) ∧
    ∃ ts, SourceFile.tokens? text = some ts ∧ (Token.nestedHeads ts = [] → d.Ascends ∧
      ∀ name name' line line', d.lineOf name = some line → d.lineOf name' = some line' →
        line < line' → d.names.idxOf name < d.names.idxOf name') := by
  obtain ⟨ts, file, hts, hfile, rfl⟩ := exists_of_testFunctions? h
  obtain ⟨firsts, hfirsts, htests, hentries⟩ := file.exists_firsts
  have hamong := SourceFile.functions_among hfile hts
  have hwords := SourceFile.wordsStand hts
  have hheads := (Token.sublist_words ts).1
  refine ⟨fun e he => ?_, ts, hts, fun hcalm => ?_⟩
  · rw [hentries] at he
    obtain ⟨f, hf, rfl⟩ := List.mem_map.1 he
    refine ⟨f.2, rfl, ?_⟩
    have hword : f ∈ Token.wordsOf ts := hheads.subset (hamong.subset (hfirsts.subset hf))
    rcases hwords.stands f hword with hdoc | ⟨hends, hstands⟩
    · -- the word that a comment stands for is no name of a test
      have htest := htests f hf
      rw [hdoc] at htest
      exact absurd htest (by decide)
    · exact ⟨(hstands.le_lineCount hends).1, (hstands.le_lineCount hends).2, hstands⟩
  · have hascends : file.declared.Ascends := by
      rw [Declared.Ascends, hentries, List.pairwise_map]
      refine (hwords.pairwise.sublist (hfirsts.trans ((hamong.sublist hcalm).trans hheads))).imp ?_
      rintro f f' hle _ _ ⟨⟩ ⟨⟩
      exact hle
    exact ⟨hascends, fun _ _ _ _ hline hline' hlt => hascends.idxOf_lt hline hline' hlt⟩

/-- A function in an attribute, one in a module, and one of the same name after them: the
    first two remain, each on its line. -/
theorem testFunctions?_lines_repeated :
    ∃ d, testFunctions? "#![x = { fn TestB() {} }]\nmod a { fn TestA() {} }\nfn TestB() {}" = some d ∧
      d.lineOf "TestB" = some 1 ∧ d.lineOf "TestA" = some 2 ∧ d.Ascends ∧
        d.names.idxOf "TestB" < d.names.idxOf "TestA" := by
  have hentries : (testFunctions?
      "#![x = { fn TestB() {} }]\nmod a { fn TestA() {} }\nfn TestB() {}").map (·.entries) =
        some [("TestB", some 1), ("TestA", some 2)] := by decide +kernel
  have htokens : (SourceFile.tokens?
      "#![x = { fn TestB() {} }]\nmod a { fn TestA() {} }\nfn TestB() {}").map Token.nestedHeads =
        some [] := by decide +kernel
  obtain ⟨d, hd, he⟩ := Option.map_eq_some_iff.1 hentries
  obtain ⟨-, ts, hts, hordered⟩ := testFunctions?_lines hd
  rw [hts] at htokens
  obtain ⟨hascends, hfirst⟩ := hordered (Option.some.inj htokens)
  have hb : d.lineOf "TestB" = some 1 := by rw [Declared.lineOf, he]; rfl
  have ha : d.lineOf "TestA" = some 2 := by rw [Declared.lineOf, he]; rfl
  exact ⟨d, hd, hb, ha, hascends, hfirst _ _ _ _ hb ha (by decide)⟩

/-- **The attributes of the body of a loop** are met before what it loops over.  In the
    value of an attribute functions stand in both, and the later one comes first. -/
theorem testFunctions?_not_ascends :
    ∃ d, testFunctions? "#![x = for _ in { fn TestA() {} 0..1 }\n{ #![y = { fn TestB() {} }] }]" =
        some d ∧
      d.lineOf "TestA" = some 1 ∧ d.lineOf "TestB" = some 2 ∧
        d.names.idxOf "TestB" < d.names.idxOf "TestA" ∧ ¬ d.Ascends := by
  have hentries : (testFunctions?
      "#![x = for _ in { fn TestA() {} 0..1 }\n{ #![y = { fn TestB() {} }] }]").map (·.entries) =
        some [("TestB", some 2), ("TestA", some 1)] := by decide +kernel
  obtain ⟨d, hd, he⟩ := Option.map_eq_some_iff.1 hentries
  have ha : d.lineOf "TestA" = some 1 := by rw [Declared.lineOf, he]; rfl
  have hb : d.lineOf "TestB" = some 2 := by rw [Declared.lineOf, he]; rfl
  have hfirst : d.names.idxOf "TestB" < d.names.idxOf "TestA" := by
    rw [Declared.names, he]
    decide
  exact ⟨d, hd, ha, hb, hfirst, fun hascends =>
    absurd (hascends.idxOf_lt ha hb (by decide)) (Nat.lt_asymm hfirst)⟩

end ProfileSync
