/-
  What is asked of the command by arguments that are written.

  * `Acceptable`: the arguments that are accepted;
  * `Options.Gives`: the options that arguments give, and no others;
  * `Reading.recordAll_eq_ok_iff` and `Reading.options_eq_ok_iff`: when arguments can
    be added, and when they give options;
  * `ofArguments_grammar`: so arguments are accepted for what they give, and not for
    how they are written.
-/
import ProfileSync.Proofs.Arguments
import ProfileSync.Proofs.Verdict

namespace ProfileSync

deriving instance ReflBEq, LawfulBEq for Argument

/-- Whether an argument is among those that are given. -/
def Argument.OccursIn (a : Argument) (given : List (Argument × String)) : Prop :=
  a ∈ given.map Prod.fst

instance (a : Argument) (given : List (Argument × String)) : Decidable (a.OccursIn given) :=
  inferInstanceAs (Decidable (a ∈ given.map Prod.fst))

/-- Arguments that are accepted. -/
structure Acceptable (given : List (Argument × String)) : Prop where
  /-- There is a file or a directory, and not both. -/
  target : Xor (Argument.file.OccursIn given) (Argument.dir.OccursIn given)
  once : (given.map Prod.fst).Nodup
  recursive : ¬ (Argument.recursive.OccursIn given ∧ Argument.file.OccursIn given)
  level : ¬ (Argument.verbose.OccursIn given ∧ Argument.quiet.OccursIn given)
  values : ∀ g ∈ given, g.1.takesValue = true → g.2 ≠ ""

/-- The options that arguments give. -/
structure Options.Gives (o : Options) (given : List (Argument × String)) : Prop where
  file (path : String) : o.target = .file path ↔ (.file, path) ∈ given
  directory (path : String) (recursive : Bool) : o.target = .directory path recursive ↔
    (.dir, path) ∈ given ∧ (recursive = true ↔ Argument.recursive.OccursIn given)
  config (path : String) : o.config = some path ↔ (.config, path) ∈ given
  verbose : o.logLevel = some .verbose ↔ Argument.verbose.OccursIn given
  quiet : o.logLevel = some .brief ↔ Argument.quiet.OccursIn given
  normal : o.logLevel ≠ some .normal

variable {given given' : List (Argument × String)} {args : List String} {a : Argument}

theorem Spells.known (h : Spells given args) :
    ∀ g ∈ given, g.1.isFlag = true ∨ g.1.takesValue = true := by
  have hflags : ∀ {as : List Argument}, (∀ b ∈ as, b.isFlag = true) →
      ∀ g ∈ flags as, g.1.isFlag = true ∨ g.1.takesValue = true := fun has g hg => by
    obtain ⟨b, hb, rfl⟩ := List.mem_map.1 hg
    exact .inl (has b hb)
  induction h with
  | nil => exact fun g hg => nomatch hg
  | flag ha _ ih => exact List.forall_mem_cons.2 ⟨.inl ha, ih⟩
  | detached ha _ _ ih => exact List.forall_mem_cons.2 ⟨.inr ha, ih⟩
  | equals ha _ ih => exact List.forall_mem_cons.2 ⟨.inr ha, ih⟩
  | letters has _ ih => exact List.forall_mem_append.2 ⟨hflags has, ih⟩
  | lettersDetached has ha _ _ ih =>
    exact List.forall_mem_append.2 ⟨hflags has, List.forall_mem_cons.2 ⟨.inr ha, ih⟩⟩
  | lettersAttached has ha _ _ _ ih =>
    exact List.forall_mem_append.2 ⟨hflags has, List.forall_mem_cons.2 ⟨.inr ha, ih⟩⟩
  | lettersEquals has ha _ ih =>
    exact List.forall_mem_append.2 ⟨hflags has, List.forall_mem_cons.2 ⟨.inr ha, ih⟩⟩

namespace Argument

theorem occursIn_iff : a.OccursIn given ↔ ∃ v, (a, v) ∈ given := by
  simp [OccursIn]

theorem occursIn_congr (h : ∀ g, g ∈ given ↔ g ∈ given') :
    a.OccursIn given ↔ a.OccursIn given' := by
  simp only [occursIn_iff, h]

end Argument

namespace Reading

variable {r r' : Reading} {o : Options}

theorem has_iff : r.has a = true ↔ a.OccursIn r.given := by
  simp only [has, Argument.OccursIn, List.any_eq_true, List.mem_map, beq_iff_eq]

theorem has_eq_false_iff : r.has a = false ↔ ¬ a.OccursIn r.given := by
  rw [← has_iff, Bool.not_eq_true]

theorem value?_eq_none_iff : r.value? a = none ↔ ¬ a.OccursIn r.given := by
  simp only [value?, List.lookup_eq_none_iff, Argument.OccursIn, List.mem_map, not_exists, not_and,
    bne_iff_ne]
  exact forall₂_congr fun _ _ => ne_comm

/-! ## Adding arguments -/

/-- Arguments are added if none is given twice then and no value is empty. -/
theorem recordAll_eq_ok_iff (hknown : ∀ g ∈ given, g.1.isFlag = true ∨ g.1.takesValue = true)
    (hr : (r.given.map Prod.fst).Nodup) :
    r.recordAll given = .ok r' ↔ ((r.given ++ given).map Prod.fst).Nodup ∧
      (∀ g ∈ given, g.1.takesValue = true → g.2 ≠ "") ∧
        r' = { r with given := r.given ++ given } := by
  induction given generalizing r with
  | nil =>
    change Except.ok r = .ok r' ↔ _
    rw [List.append_nil, Except.ok.injEq]
    exact ⟨fun h => ⟨hr, List.forall_mem_nil _, h.symm⟩, fun h => h.2.2.symm⟩
  | cons g given ih =>
    obtain ⟨a, v⟩ := g
    obtain ⟨ha, hknown⟩ := List.forall_mem_cons.1 hknown
    have hfresh : ((r.given ++ [(a, v)]).map Prod.fst).Nodup ↔ r.has a = false := by
      rw [List.map_append, List.map_singleton, ← List.concat_eq_append, List.nodup_concat,
        has_eq_false_iff]
      exact and_iff_left hr
    rw [recordAll_cons, List.append_cons, List.forall_mem_cons]
    constructor
    · intro h
      cases hrecord : r.record a (some v) with
      | error stop => rw [hrecord] at h; cases h
      | ok r₁ =>
        rw [hrecord] at h
        obtain ⟨hnew, hvalue, rfl⟩ := (record_eq_ok_iff ha).1 hrecord
        obtain ⟨hnodup, hvalues, rfl⟩ := (ih hknown (hfresh.2 hnew)).1 h
        exact ⟨hnodup, ⟨hvalue, hvalues⟩, rfl⟩
    · rintro ⟨hnodup, ⟨hvalue, hvalues⟩, rfl⟩
      have hfirst : ((r.given ++ [(a, v)]).map Prod.fst).Nodup := by
        rw [List.map_append] at hnodup
        exact hnodup.of_append_left
      rw [(record_eq_ok_iff ha).2 ⟨hfresh.1 hfirst, hvalue, rfl⟩]
      exact (ih hknown hfirst).2 ⟨hnodup, hvalues, rfl⟩

theorem bind_ne_error {x : Except Stop Reading} {f : Reading → Except Stop Reading} {stop : Stop}
    (hx : x ≠ .error stop) (hf : ∀ r, f r ≠ .error stop) : (x >>= f) ≠ .error stop := by
  cases x with
  | error stop' => exact hx
  | ok r => exact hf r

/-- Neither the help nor the version is asked for by other arguments. -/
theorem recordAll_ne_request {request : Request}
    (hknown : ∀ g ∈ given, g.1.isFlag = true ∨ g.1.takesValue = true) :
    r.recordAll given ≠ .error (.request request) := by
  induction given generalizing r with
  | nil => exact nofun
  | cons g given ih =>
    obtain ⟨ha, hknown⟩ := List.forall_mem_cons.1 hknown
    rw [recordAll_cons]
    refine bind_ne_error ?_ fun _ => ih hknown
    rw [record_eq ha]
    split_ifs <;> simp

/-! ## Options -/

/-- Arguments do not conflict if these of them are not given together. -/
theorem conflict?_eq_none_iff : r.conflict? = none ↔
    ¬ (Argument.file.OccursIn r.given ∧ Argument.dir.OccursIn r.given) ∧
    ¬ (Argument.recursive.OccursIn r.given ∧ Argument.file.OccursIn r.given) ∧
    ¬ (Argument.verbose.OccursIn r.given ∧ Argument.quiet.OccursIn r.given) := by
  have hpairs : r.conflict? = none ↔ ∀ a : Argument, a.OccursIn r.given →
      ∀ b : Argument, b.OccursIn r.given → a.conflictsWith b = false := by
    simp only [conflict?, List.findSome?_eq_none_iff, Argument.OccursIn]
    refine forall₂_congr fun a _ => ?_
    rw [ite_eq_left_iff]
    simp
  rw [hpairs]
  constructor
  · intro h
    refine ⟨?_, ?_, ?_⟩ <;> (rintro ⟨ha, hb⟩; cases h _ ha _ hb)
  · rintro ⟨htarget, hrecursive, hlevel⟩ a ha b hb
    by_contra hconflict
    cases a <;> cases b <;> first
      | exact hconflict rfl
      | exact htarget ⟨ha, hb⟩
      | exact htarget ⟨hb, ha⟩
      | exact hrecursive ⟨ha, hb⟩
      | exact hrecursive ⟨hb, ha⟩
      | exact hlevel ⟨ha, hb⟩
      | exact hlevel ⟨hb, ha⟩

/-- The target that is given. -/
def target? (r : Reading) : Option Target :=
  match r.value? .file, r.value? .dir with
  | some path, _ => some (.file path)
  | none, some path => some (.directory path (r.has .recursive))
  | none, none => none

/-- The level that is given. -/
def level? (r : Reading) : Option LogLevel :=
  if r.has .verbose then some .verbose else if r.has .quiet then some .brief else none

/-- Options are those of a target, a configuration and a level. -/
theorem options_eq_ok_iff : r.options = .ok o ↔ r.conflict? = none ∧ r.target? = some o.target ∧
    o.config = r.value? .config ∧ o.logLevel = r.level? := by
  obtain ⟨target, config, level⟩ := o
  rw [options, target?, level?, @eq_comm _ config, @eq_comm _ level]
  cases r.conflict? with
  | some e => simp
  | none =>
    cases r.value? .file with
    | some path => simp
    | none => cases r.value? .dir <;> simp

theorem target?_eq_file_iff {path : String} :
    r.target? = some (.file path) ↔ r.value? .file = some path := by
  rw [target?]
  cases r.value? .file with
  | some path => simp
  | none => cases r.value? .dir <;> simp

theorem target?_eq_directory_iff {path : String} {recursive : Bool} :
    r.target? = some (.directory path recursive) ↔
      r.value? .file = none ∧ r.value? .dir = some path ∧ r.has .recursive = recursive := by
  rw [target?]
  cases r.value? .file with
  | some path => simp
  | none => cases r.value? .dir <;> simp

theorem target?_eq_none_iff : r.target? = none ↔
    ¬ Argument.file.OccursIn r.given ∧ ¬ Argument.dir.OccursIn r.given := by
  rw [← value?_eq_none_iff, ← value?_eq_none_iff, target?]
  cases r.value? .file with
  | some path => simp
  | none => cases r.value? .dir <;> simp

theorem exists_options_iff : (∃ o, r.options = .ok o) ↔
    Xor (Argument.file.OccursIn r.given) (Argument.dir.OccursIn r.given) ∧
    ¬ (Argument.recursive.OccursIn r.given ∧ Argument.file.OccursIn r.given) ∧
    ¬ (Argument.verbose.OccursIn r.given ∧ Argument.quiet.OccursIn r.given) := by
  have hoptions : (∃ o, r.options = .ok o) ↔ r.conflict? = none ∧ r.target? ≠ none := by
    constructor
    · rintro ⟨o, h⟩
      obtain ⟨hconflict, htarget, -⟩ := options_eq_ok_iff.1 h
      exact ⟨hconflict, by simp [htarget]⟩
    · rintro ⟨hconflict, htarget⟩
      obtain ⟨t, ht⟩ := Option.ne_none_iff_exists'.1 htarget
      exact ⟨⟨t, r.value? .config, r.level?⟩, options_eq_ok_iff.2 ⟨hconflict, ht, rfl, rfl⟩⟩
  rw [hoptions, conflict?_eq_none_iff, Ne, target?_eq_none_iff, xor_iff_or_and_not_and]
  tauto

theorem level?_eq_verbose_iff :
    r.level? = some .verbose ↔ Argument.verbose.OccursIn r.given := by
  rw [level?, ← has_iff]
  cases r.has .verbose <;> cases r.has .quiet <;> decide

theorem level?_eq_brief_iff
    (h : ¬ (Argument.verbose.OccursIn r.given ∧ Argument.quiet.OccursIn r.given)) :
    r.level? = some .brief ↔ Argument.quiet.OccursIn r.given := by
  rw [← has_iff, ← has_iff] at h
  rw [level?, ← has_iff]
  revert h
  cases r.has .verbose <;> cases r.has .quiet <;> decide

theorem level?_ne_normal : r.level? ≠ some .normal := by
  rw [level?]
  cases r.has .verbose <;> cases r.has .quiet <;> decide

/-- Options are what the arguments give. -/
theorem gives_of_options (hnodup : (r.given.map Prod.fst).Nodup) (h : r.options = .ok o) :
    o.Gives r.given := by
  obtain ⟨hconflict, htarget, hconfig, hlevel⟩ := options_eq_ok_iff.1 h
  obtain ⟨hfileDir, -, hverboseQuiet⟩ := conflict?_eq_none_iff.1 hconflict
  have hvalue : ∀ {a : Argument} {v : String}, r.value? a = some v ↔ (a, v) ∈ r.given :=
    lookup_eq_some_iff_mem hnodup
  have htargetIs : ∀ t, o.target = t ↔ r.target? = some t := fun t => by
    rw [htarget, Option.some.injEq]
  refine ⟨fun path => ?_, fun path recursive => ?_, fun path => ?_, ?_, ?_, ?_⟩
  · rw [htargetIs, target?_eq_file_iff, hvalue]
  · have hrecursive : r.has .recursive = recursive ↔
        (recursive = true ↔ Argument.recursive.OccursIn r.given) := by
      rw [← has_iff, Bool.eq_iff_iff]
      exact Iff.comm
    rw [htargetIs, target?_eq_directory_iff, hvalue, value?_eq_none_iff, hrecursive]
    -- no file has to be excluded, as none can be given with a directory
    refine and_iff_right_of_imp fun ⟨hdir, _⟩ hfile => hfileDir ⟨hfile, ?_⟩
    exact Argument.occursIn_iff.2 ⟨path, hdir⟩
  · rw [hconfig, hvalue]
  · rw [hlevel, level?_eq_verbose_iff]
  · rw [hlevel, level?_eq_brief_iff hverboseQuiet]
  · rw [hlevel]
    exact level?_ne_normal

end Reading

/-! ## Arguments that are written -/

/-- The same arguments give the same options, in whatever order. -/
theorem Options.Gives.unique {o o' : Options} (h : o.Gives given) (h' : o'.Gives given')
    (hsame : ∀ g, g ∈ given ↔ g ∈ given') : o = o' := by
  have htarget : ∀ t, o.target = t ↔ o'.target = t := fun t => by
    cases t with
    | file path => rw [h.file, h'.file, hsame]
    | directory path recursive =>
      rw [h.directory, h'.directory, hsame, Argument.occursIn_congr hsame]
  have hconfig : ∀ path, o.config = some path ↔ o'.config = some path := fun path => by
    rw [h.config, h'.config, hsame]
  have hlevel : ∀ l, o.logLevel = some l ↔ o'.logLevel = some l := fun l => by
    cases l with
    | verbose => rw [h.verbose, h'.verbose, Argument.occursIn_congr hsame]
    | brief => rw [h.quiet, h'.quiet, Argument.occursIn_congr hsame]
    | normal => exact iff_of_false h.normal h'.normal
  obtain ⟨target, config, level⟩ := o
  obtain ⟨target', config', level'⟩ := o'
  rw [Options.mk.injEq]
  exact ⟨((htarget _).1 rfl).symm, Option.ext hconfig, Option.ext hlevel⟩

/-- Written arguments are accepted if they can be added and give options. -/
theorem Spells.ofArguments_eq_ok_iff {request : Request} (h : Spells given args) :
    Request.ofArguments args = .ok request ↔ (given.map Prod.fst).Nodup ∧
      (∀ g ∈ given, g.1.takesValue = true → g.2 ≠ "") ∧
        ∃ o, (Reading.mk given none).options = .ok o ∧ request = .run o := by
  have htake : Reading.empty.takeAll args = Reading.empty.recordAll given :=
    h.takeAll_eq _ (Reading.isComplete_of_settled rfl)
  have hrecord : ∀ r, Reading.empty.recordAll given = .ok r ↔ (given.map Prod.fst).Nodup ∧
      (∀ g ∈ given, g.1.takesValue = true → g.2 ≠ "") ∧ r = ⟨given, none⟩ := fun r =>
    Reading.recordAll_eq_ok_iff h.known List.nodup_nil
  rw [Request.ofArguments, htake]
  cases hresult : Reading.empty.recordAll given with
  | error stop =>
    cases stop with
    | request q => exact absurd hresult (Reading.recordAll_ne_request h.known)
    | error e =>
      refine iff_of_false nofun fun ⟨hnodup, hvalues, _⟩ => ?_
      rw [(hrecord _).2 ⟨hnodup, hvalues, rfl⟩] at hresult
      cases hresult
  | ok r =>
    obtain ⟨hnodup, hvalues, rfl⟩ := (hrecord r).1 hresult
    dsimp only
    cases (Reading.mk given none).options with
    | error e => exact iff_of_false nofun fun ⟨_, _, _, heq, _⟩ => nomatch heq
    | ok o =>
      change Except.ok (Request.run o) = .ok request ↔ _
      rw [Except.ok.injEq]
      refine ⟨fun heq => ⟨hnodup, hvalues, o, rfl, heq.symm⟩, ?_⟩
      rintro ⟨-, -, o, ⟨⟩, rfl⟩
      rfl

theorem Spells.exists_request_iff (h : Spells given args) :
    (∃ request, Request.ofArguments args = .ok request) ↔ Acceptable given := by
  simp only [h.ofArguments_eq_ok_iff]
  constructor
  · rintro ⟨_, hnodup, hvalues, o, hoptions, -⟩
    obtain ⟨htarget, hrecursive, hlevel⟩ := Reading.exists_options_iff.1 ⟨o, hoptions⟩
    exact ⟨htarget, hnodup, hrecursive, hlevel, hvalues⟩
  · rintro ⟨htarget, hnodup, hrecursive, hlevel, hvalues⟩
    obtain ⟨o, hoptions⟩ := (Reading.exists_options_iff (r := ⟨given, none⟩)).2
      ⟨htarget, hrecursive, hlevel⟩
    exact ⟨.run o, hnodup, hvalues, o, hoptions, rfl⟩

theorem Spells.gives {request : Request} (h : Spells given args)
    (hrequest : Request.ofArguments args = .ok request) : ∃ o, request = .run o ∧ o.Gives given := by
  obtain ⟨hnodup, -, o, hoptions, rfl⟩ := h.ofArguments_eq_ok_iff.1 hrequest
  exact ⟨o, rfl, Reading.gives_of_options hnodup hoptions⟩

/-! ## Arguments of any kind -/

namespace Reading

variable {r : Reading} {o : Options}

theorem record_ne_run {value : Option String} : r.record a value ≠ .error (.request (.run o)) := by
  unfold record
  split
  · simp
  · simp
  · split_ifs <;> simp

theorem settle_ne_run : r.settle ≠ .error (.request (.run o)) := by
  unfold settle
  split
  · simp
  · exact record_ne_run

theorem take_ne_run {value : Option String} : r.take a value ≠ .error (.request (.run o)) := by
  rw [take]
  refine bind_ne_error settle_ne_run fun r' => ?_
  split_ifs
  · simp
  · exact record_ne_run

theorem takeLetters_ne_run {cs : List Char} : r.takeLetters cs ≠ .error (.request (.run o)) := by
  induction cs generalizing r with
  | nil => simp [takeLetters]
  | cons c cs ih =>
    rw [takeLetters]
    split
    · simp
    · split_ifs
      · exact take_ne_run
      · split
        · exact ih
        · rename_i hstop
          rintro ⟨⟩
          exact take_ne_run hstop

theorem takeLong_ne_run {cs : List Char} : r.takeLong cs ≠ .error (.request (.run o)) := by
  unfold takeLong
  dsimp only
  split
  · simp
  · split
    · exact take_ne_run
    · split_ifs
      · exact take_ne_run
      · simp

theorem takeArgument_ne_run {text : String} :
    r.takeArgument text ≠ .error (.request (.run o)) := by
  unfold takeArgument
  split
  · exact takeLong_ne_run
  · exact takeLetters_ne_run
  · unfold takeText
    split <;> simp

/-- No run is asked for before the arguments are read to their end. -/
theorem takeAll_ne_run : r.takeAll args ≠ .error (.request (.run o)) := by
  induction args generalizing r with
  | nil =>
    rw [takeAll]
    exact settle_ne_run
  | cons text args ih =>
    by_cases htext : text = "--"
    · rw [takeAll.eq_def]
      simp only [if_pos htext]
      split
      · exact settle_ne_run
      · simp
    · rw [takeAll_eq_bind htext]
      exact bind_ne_error takeArgument_ne_run fun _ => ih

/-- Options have a file or a directory, and not both. -/
theorem target_of_options (h : r.options = .ok o) :
    (∃ path, r.value? .file = some path ∧ r.value? .dir = none ∧ o.target = .file path) ∨
      ∃ path, r.value? .file = none ∧ r.value? .dir = some path ∧
        o.target = .directory path (r.has .recursive) := by
  obtain ⟨hconflict, htarget, -⟩ := options_eq_ok_iff.1 h
  obtain ⟨hnotBoth, -⟩ := conflict?_eq_none_iff.1 hconflict
  cases ht : o.target with
  | file path =>
    rw [ht, target?_eq_file_iff] at htarget
    have hfile : Argument.file.OccursIn r.given := by
      by_contra hnone
      rw [value?_eq_none_iff.2 hnone] at htarget
      cases htarget
    exact .inl ⟨path, htarget, value?_eq_none_iff.2 fun hdir => hnotBoth ⟨hfile, hdir⟩, rfl⟩
  | directory path recursive =>
    rw [ht, target?_eq_directory_iff] at htarget
    obtain ⟨hfile, hdir, rfl⟩ := htarget
    exact .inr ⟨path, hfile, hdir, rfl⟩

end Reading

theorem Request.exists_reading {o : Options} (h : Request.ofArguments args = .ok (.run o)) :
    ∃ r, Reading.empty.takeAll args = .ok r ∧ r.options = .ok o := by
  rw [ofArguments] at h
  cases hread : Reading.empty.takeAll args with
  | error stop =>
    rw [hread] at h
    cases stop with
    | request request =>
      cases h
      exact absurd hread Reading.takeAll_ne_run
    | error e => cases h
  | ok r =>
    rw [hread] at h
    cases hoptions : r.options with
    | error e => simp [hoptions, Except.map] at h
    | ok o' =>
      simp only [hoptions, Except.map, Except.ok.injEq, Request.run.injEq] at h
      exact ⟨r, rfl, h ▸ hoptions⟩

/-! ## What is accepted -/

/-- **Arguments are accepted for what they give.**  Written in any way and order, they
    are accepted if there is a file or a directory and not both, none is given twice,
    no two conflict and no value is empty; the options are then those they give, and the
    same for all arguments that give the same.  Whatever the arguments are, a run with
    them has a file or a directory and not both, and passes only if that is
    validated. -/
theorem ofArguments_grammar :
    (∀ given args, Spells given args →
      ((∃ request, Request.ofArguments args = .ok request) ↔ Acceptable given) ∧
      ∀ request, Request.ofArguments args = .ok request →
        (∃ o, request = .run o ∧ o.Gives given) ∧
        ∀ given' args' request', Spells given' args' → (∀ g, g ∈ given ↔ g ∈ given') →
          Request.ofArguments args' = .ok request' → request' = request) ∧
    ∀ args o, Request.ofArguments args = .ok (.run o) →
      (∃ r, Reading.empty.takeAll args = .ok r ∧
        ((∃ path, r.value? .file = some path ∧ r.value? .dir = none ∧ o.target = .file path) ∨
          ∃ path, r.value? .file = none ∧ r.value? .dir = some path ∧
            o.target = .directory path (r.has .recursive))) ∧
      ∀ fs color, (runCommand fs args color).code = 0 →
        ∃ log said count, o.Passes fs log said count := by
  refine ⟨fun given args h => ⟨h.exists_request_iff, fun request hrequest => ⟨h.gives hrequest, ?_⟩⟩,
    fun args o h => ⟨?_, fun fs color hcode => ?_⟩⟩
  · intro given' args' request' h' hsame hrequest'
    obtain ⟨o, rfl, ho⟩ := h.gives hrequest
    obtain ⟨o', rfl, ho'⟩ := h'.gives hrequest'
    rw [ho.unique ho' hsame]
  · obtain ⟨r, hread, hoptions⟩ := Request.exists_reading h
    exact ⟨r, hread, Reading.target_of_options hoptions⟩
  · refine (o.passes_or_fails fs).resolve_right ?_
    rintro ⟨log, said, text, hfails⟩
    rw [runCommand, h] at hcode
    dsimp only at hcode
    rw [Options.run_of_fails hfails] at hcode
    cases hcode

/-- The same options, with letters that share a dash, and in another order. -/
theorem ofArguments_grammar_respelled :
    let options := Options.mk (.directory "tests" true) (some "c.toml") (some .verbose)
    Acceptable [(.recursive, ""), (.verbose, ""), (.dir, "tests"), (.config, "c.toml")] ∧
    Request.ofArguments ["-rvdtests", "--config=c.toml"] = .ok (.run options) ∧
    Request.ofArguments ["-c", "c.toml", "--dir", "tests", "--verbose", "-r"] =
      .ok (.run options) := by
  intro options
  have hshared : Spells (flags [.recursive, .verbose] ++ [(.dir, "tests"), (.config, "c.toml")])
      ["-rvdtests", "--config=c.toml"] :=
    show Spells _ [dashed [.recursive, .verbose] (Argument.dir.letter :: "tests".toList),
        "--" ++ Argument.config.name ++ "=" ++ "c.toml"] from
      .lettersAttached (by decide) rfl (by decide) (by decide) (.equals rfl .nil)
  have hapart : Spells (flags [] ++ (.config, "c.toml") :: (.dir, "tests") :: (.verbose, "") ::
        (flags [.recursive] ++ [])) ["-c", "c.toml", "--dir", "tests", "--verbose", "-r"] :=
    show Spells _ [dashed [] [Argument.config.letter], "c.toml", "--" ++ Argument.dir.name, "tests",
        "--" ++ Argument.verbose.name, dashed [.recursive] []] from
      .lettersDetached (by decide) rfl (by decide) (.detached rfl (by decide)
        (.flag rfl (.letters (by decide) .nil)))
  have hrun : Request.ofArguments ["-rvdtests", "--config=c.toml"] = .ok (.run options) := by
    decide +kernel
  obtain ⟨hgrammar, -⟩ := ofArguments_grammar
  obtain ⟨haccepted, hsame⟩ := hgrammar _ _ hshared
  obtain ⟨request, hrequest⟩ := (hgrammar _ _ hapart).1.2
    ⟨.inr ⟨by decide, by decide⟩, by decide, by decide, by decide, by decide⟩
  have heq := (hsame _ hrun).2 _ _ _ hapart (fun g => by simp [flags]; tauto) hrequest
  exact ⟨haccepted.1 ⟨_, hrun⟩, hrun, heq ▸ hrequest⟩

end ProfileSync
