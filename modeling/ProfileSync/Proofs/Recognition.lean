/-
  Which paths are those of profiles, if nothing else is configured.

  * `lastName?` is the last name of a path, single dots and slashes after it left out;
    `fileName?_eq_some_iff`: it is what a path is told by, unless it is two dots;
  * `Pattern.leads_literal`: a pattern of single characters matches these one after the
    other;
  * `matchesText_profilePattern`: so a name matches the pattern for profiles just if it
    ends as their names do;
  * `Selector.isProfile_default`: the two together, for all paths.
-/
import Mathlib.Data.List.TakeWhile
import ProfileSync.Check.Selection
import ProfileSync.Proofs.Matching
import ProfileSync.Proofs.Paths

namespace ProfileSync

/-! ## The last name of a path -/

/-- The last name of a path; names that are a single dot do not count. -/
def lastName? (path : String) : Option String := ((pathParts path).filter (· != ".")).getLast?

/-- Whether a part of a path is a name: not empty and no single dot. -/
def isNamed (part : List Char) : Bool := part != [] && part != ['.']

/-- The last name between the slashes of a text. -/
def lastPart? (cs : List Char) : Option (List Char) := ((partsAtSlashes cs).filter isNamed).getLast?

theorem lastName?_eq (path : String) : lastName? path = (lastPart? path.toList).map String.ofList := by
  have hdot : ∀ part : List Char, (String.ofList part != ".") = (part != ['.']) := by
    intro part
    rw [Bool.eq_iff_iff, bne_iff_ne, bne_iff_ne, ne_eq, ne_eq, ← String.toList_inj,
      String.toList_ofList]
    exact Iff.rfl
  have hnamed : isNamed = fun part => part != [] && part != ['.'] := rfl
  rw [lastName?, lastPart?, pathParts, List.filter_map, List.getLast?_map, List.filter_filter,
    hnamed]
  simp only [Function.comp_def, hdot, Bool.and_comm]

theorem eq_slash_of_dropWhile {cs rest : List Char} {c : Char}
    (h : cs.dropWhile (· != '/') = c :: rest) : c = '/' := by
  have hhead := List.head?_dropWhile_not (· != '/') cs
  rw [h] at hhead
  simpa using hhead

/-- The last part between slashes is what stands after the last of these; if there are
    none it is all that there is. -/
theorem exists_partsAtSlashes (cs : List Char) :
    ∃ parts, partsAtSlashes cs = parts ++ [(cs.reverse.takeWhile (· != '/')).reverse] ∧
      (cs.reverse.dropWhile (· != '/') = [] → parts = []) := by
  have hsplit : cs = (cs.reverse.dropWhile (· != '/')).reverse ++
      (cs.reverse.takeWhile (· != '/')).reverse := by
    rw [← List.reverse_append, List.takeWhile_append_dropWhile, List.reverse_reverse]
  have hname : '/' ∉ (cs.reverse.takeWhile (· != '/')).reverse := by
    intro hmem
    simpa using List.mem_takeWhile_imp (List.mem_reverse.1 hmem)
  generalize (cs.reverse.takeWhile (· != '/')).reverse = name at hsplit hname ⊢
  cases hrest : cs.reverse.dropWhile (· != '/') with
  | nil =>
    rw [hrest, List.reverse_nil, List.nil_append] at hsplit
    exact ⟨[], by rw [hsplit]; exact partsAtSlashes_of_no_slash hname, fun _ => rfl⟩
  | cons c rest =>
    obtain rfl := eq_slash_of_dropWhile hrest
    rw [hrest, List.reverse_cons, List.append_assoc, List.singleton_append] at hsplit
    refine ⟨partsAtSlashes rest.reverse, ?_, fun h => by cases h⟩
    rw [hsplit, partsAtSlashes_append_slash, partsAtSlashes_of_no_slash hname]

/-- What is left out at the end of a path has no influence on its last name. -/
theorem lastPart?_reverse (cs : List Char) : lastPart? cs.reverse =
    (some ((trimmedEnd cs).takeWhile (· != '/')).reverse).filter isNamed := by
  induction cs using trimmedEnd.induct with
  | case1 rest hempty =>
    obtain rfl := List.isEmpty_iff.1 hempty
    decide
  | case2 rest hempty ih =>
    rw [trimmedEnd, if_neg hempty, ← ih, List.reverse_cons, lastPart?, lastPart?,
      partsAtSlashes_append_slash]
    simp [partsAtSlashes, isNamed]
  | case3 rest ih =>
    rw [trimmedEnd, ← ih, List.reverse_cons, List.reverse_cons, lastPart?, lastPart?,
      List.append_assoc, List.singleton_append, partsAtSlashes_append_slash,
      partsAtSlashes_append_slash]
    simp [partsAtSlashes, isNamed]
  | case4 cs hslash hdot =>
    obtain ⟨parts, hparts, hall⟩ := exists_partsAtSlashes cs.reverse
    rw [List.reverse_reverse] at hparts hall
    rw [trimmedEnd.eq_3 cs hslash hdot, lastPart?, hparts, List.filter_append]
    cases hnamed : isNamed (cs.takeWhile (· != '/')).reverse with
    | true => simp [hnamed, Option.filter]
    | false =>
      -- a slash before it would have been left out, so there is nothing else
      have hnone : cs.dropWhile (· != '/') = [] := by
        have hsplit := List.takeWhile_append_dropWhile (p := (· != '/')) (l := cs)
        cases hrest : cs.dropWhile (· != '/') with
        | nil => rfl
        | cons c rest =>
          rw [hrest, eq_slash_of_dropWhile hrest] at hsplit
          have hshape : cs.takeWhile (· != '/') = [] ∨ cs.takeWhile (· != '/') = ['.'] := by
            simpa [isNamed, Classical.or_iff_not_imp_left] using hnamed
          rcases hshape with hempty | hsingle
          · rw [hempty] at hsplit
            exact (hslash rest hsplit.symm).elim
          · rw [hsingle] at hsplit
            exact (hdot rest hsplit.symm).elim
      simp [hall hnone, hnamed, Option.filter]

/-- **A path is told by its last name,** which two dots are not. -/
theorem fileName?_eq_some_iff {path name : String} :
    fileName? path = some name ↔ lastName? path = some name ∧ name ≠ ".." := by
  have hlast := lastPart?_reverse path.toList.reverse
  rw [List.reverse_reverse] at hlast
  rw [fileName?, lastName?_eq, hlast]
  generalize ((trimmedEnd path.toList.reverse).takeWhile (· != '/')).reverse = part
  have hdots : String.ofList part = ".." ↔ part = ['.', '.'] := by
    rw [← String.toList_inj, String.toList_ofList]
    exact Iff.rfl
  by_cases hnamed : isNamed part = true
  · have hname : part ≠ [] ∧ part ≠ ['.'] := by simpa [isNamed] using hnamed
    simp only [hname.1, hname.2, false_or, Option.filter, hnamed, if_true, Option.map_some,
      Option.some.injEq]
    constructor
    · intro h
      split_ifs at h with htwo
      obtain rfl := Option.some.inj h
      exact ⟨rfl, mt hdots.1 htwo⟩
    · rintro ⟨rfl, hne⟩
      rw [if_neg (mt hdots.2 hne)]
  · have hname : part = [] ∨ part = ['.'] := by
      simpa [isNamed, Classical.or_iff_not_imp_left] using hnamed
    rcases hname with rfl | rfl <;> simp [isNamed]

/-! ## The pattern for the names of profiles -/

@[simp] theorem CharClass.contains_single {c d : Char} : (single c).contains d = true ↔ d = c := by
  rw [single, contains, containsCode, Bool.and_eq_true, decide_eq_true_iff, decide_eq_true_iff,
    ← le_antisymm_iff, eq_comm, Char.toNat_inj]

namespace Pattern

/-- Some characters one after the other, and then a pattern. -/
def literal (cs : List Char) (a : Pattern) : Pattern :=
  cs.foldr (fun c b => seq (char (.single c)) b) a

theorem leads_literal {cs : List Char} {a : Pattern} {p q : TextPlace} :
    (literal cs a).Leads p q ↔
      ∃ r : TextPlace, p.after = cs ++ r.after ∧ r.before = cs.reverse ++ p.before ∧ a.Leads r q := by
  induction cs generalizing p with
  | nil =>
    constructor
    · exact fun h => ⟨p, rfl, rfl, h⟩
    · rintro ⟨r, hafter, hbefore, h⟩
      cases p
      cases r
      cases hafter
      cases hbefore
      exact h
  | cons c cs ih =>
    change (∃ s, p.step? (.single c) = some s ∧ (literal cs a).Leads s q) ↔ _
    simp only [ih, TextPlace.step?_eq_some_iff]
    constructor
    · rintro ⟨s, ⟨d, hd, hafter, hbefore⟩, r, hafter', hbefore', h⟩
      obtain rfl : d = c := CharClass.contains_single.1 hd
      exact ⟨r, by rw [hafter, hafter']; rfl, by simp [hbefore', hbefore], h⟩
    · rintro ⟨r, hafter, hbefore, h⟩
      exact ⟨⟨c :: p.before, cs ++ r.after⟩, ⟨c, CharClass.contains_single.2 rfl, hafter, rfl⟩,
        r, rfl, by simp [hbefore], h⟩

/-- Some characters up to the end of the text match just where they are what is left. -/
theorem exists_leads_ending {cs : List Char} {p : TextPlace} :
    (∃ q, (literal cs (seq (look .textEnd) empty)).Leads p q) ↔ p.after = cs := by
  simp only [leads_literal]
  constructor
  · rintro ⟨q, r, hafter, -, s, ⟨rfl, hend⟩, rfl⟩
    rw [hafter, List.isEmpty_iff.1 hend, List.append_nil]
  · intro hafter
    refine ⟨⟨cs.reverse ++ p.before, []⟩, ⟨cs.reverse ++ p.before, []⟩, ?_, rfl, _, ⟨rfl, rfl⟩, rfl⟩
    rw [hafter, List.append_nil]

/-- A pattern that need not match matches or is left out. -/
theorem leads_optional {a : Pattern} {p q : TextPlace} :
    (rep a 0 (some 1)).Leads p q ↔ p = q ∨ a.Leads p q := by
  constructor
  · rintro ⟨extra, hextra, hsteps⟩
    rw [Nat.zero_add] at hsteps
    match extra, hextra 1 rfl with
    | 0, _ => exact .inl hsteps
    | 1, _ =>
      obtain ⟨r, ha, rfl⟩ := hsteps
      exact .inr ha
  · rintro (rfl | ha)
    · exact ⟨0, by simp, rfl⟩
    · exact ⟨1, by rintro _ ⟨⟩; exact Nat.le_refl 1, q, ha, rfl⟩

end Pattern

/-- The pattern for the names of profiles, as it is read. -/
def profilePattern : Pattern :=
  .literal "_utprofile.y".toList (.seq (.rep (.char (.single 'a')) 0 (some 1))
    (.literal "ml".toList (.seq (.look .textEnd) .empty)))

theorem ofText?_defaultProfilePattern :
    Pattern.ofText? defaultProfilePattern = some profilePattern := by
  rfl

/-- What is left where the pattern for the names of profiles leads anywhere. -/
theorem exists_leads_profilePattern {p : TextPlace} :
    (∃ q, profilePattern.Leads p q) ↔
      p.after = "_utprofile.yml".toList ∨ p.after = "_utprofile.yaml".toList := by
  constructor
  · rintro ⟨q, hleads⟩
    obtain ⟨r, hafter, -, s, hletter, hending⟩ := Pattern.leads_literal.1 hleads
    have hlast : s.after = "ml".toList := Pattern.exists_leads_ending.1 ⟨q, hending⟩
    rcases Pattern.leads_optional.1 hletter with rfl | hletter
    · exact .inl (by rw [hafter, hlast]; rfl)
    · obtain ⟨c, hc, hmiddle, -⟩ := TextPlace.step?_eq_some_iff.1 hletter
      obtain rfl := CharClass.contains_single.1 hc
      exact .inr (by rw [hafter, hmiddle, hlast]; rfl)
  · have hending : ∀ before, ∃ q, (Pattern.literal "ml".toList (.seq (.look .textEnd) .empty)).Leads
        ⟨before, "ml".toList⟩ q := fun before => Pattern.exists_leads_ending.2 rfl
    rintro (hafter | hafter)
    · obtain ⟨q, hq⟩ := hending ("_utprofile.y".toList.reverse ++ p.before)
      exact ⟨q, Pattern.leads_literal.2
        ⟨⟨_, "ml".toList⟩, hafter.trans rfl, rfl, _, Pattern.leads_optional.2 (.inl rfl), hq⟩⟩
    · obtain ⟨q, hq⟩ := hending ('a' :: ("_utprofile.y".toList.reverse ++ p.before))
      have hletter : (Pattern.char (.single 'a')).Leads
          ⟨"_utprofile.y".toList.reverse ++ p.before, "aml".toList⟩
          ⟨'a' :: ("_utprofile.y".toList.reverse ++ p.before), "ml".toList⟩ :=
        TextPlace.step?_eq_some_iff.2 ⟨'a', CharClass.contains_single.2 rfl, rfl, rfl⟩
      exact ⟨q, Pattern.leads_literal.2
        ⟨⟨_, "aml".toList⟩, hafter.trans rfl, rfl, _, Pattern.leads_optional.2 (.inr hletter), hq⟩⟩

/-- **A name matches the pattern for the names of profiles** just if it ends as they do. -/
theorem matchesText_profilePattern {name : List Char} : profilePattern.matchesText name = true ↔
    "_utprofile.yml".toList <:+ name ∨ "_utprofile.yaml".toList <:+ name := by
  have hends : ∀ cs : List Char,
      (∃ p : TextPlace, p.IsIn name ∧ p.after = cs) ↔ cs <:+ name := by
    intro cs
    constructor
    · rintro ⟨p, hp, rfl⟩
      exact ⟨_, hp⟩
    · rintro ⟨front, rfl⟩
      exact ⟨⟨front.reverse, cs⟩, by simp [TextPlace.IsIn], rfl⟩
  rw [Pattern.matchesText_iff, ← hends, ← hends, ← exists_or]
  simp only [exists_and_left, exists_leads_profilePattern, and_or_left]

example : profilePattern.matchesText "a\nb_utprofile.yaml".toList = true ∧
    profilePattern.matchesText "a_utprofile.yml\n".toList = false := by
  decide +kernel

/-! ## Profiles -/

/-- **With the pattern for the names of profiles** a path is that of a profile just if its
    last name, which is not two dots, ends with `_utprofile.yml` or `_utprofile.yaml`; so
    nothing else of the path has any influence. -/
theorem Selector.isProfile_default (skipDirs : List String) (level : LogLevel) :
    ∃ s, Selector.ofConfig ⟨defaultProfilePattern, skipDirs, level⟩ = .ok s ∧
      s.skipDirs = skipDirs ∧
        (∀ path, s.isProfile path = true ↔ ∃ name, lastName? path = some name ∧ name ≠ ".." ∧
          ("_utprofile.yml".toList <:+ name.toList ∨ "_utprofile.yaml".toList <:+ name.toList)) ∧
          ∀ path path', lastName? path = lastName? path' → s.isProfile path = s.isProfile path' := by
  have hprofile : ∀ path, (Selector.mk profilePattern skipDirs).isProfile path = true ↔
      ∃ name, lastName? path = some name ∧ name ≠ ".." ∧
        ("_utprofile.yml".toList <:+ name.toList ∨ "_utprofile.yaml".toList <:+ name.toList) := by
    intro path
    simp only [← and_assoc, ← fileName?_eq_some_iff, isProfile]
    cases fileName? path with
    | none => simp
    | some name => simp [matchesText_profilePattern]
  refine ⟨⟨profilePattern, skipDirs⟩, ?_, rfl, hprofile, ?_⟩
  · rw [ofConfig, ofText?_defaultProfilePattern]
  · intro path path' hlast
    rw [Bool.eq_iff_iff, hprofile, hprofile, hlast]

end ProfileSync
