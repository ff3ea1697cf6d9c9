/-
  The level of the log, and what does not depend on it.

  * `Output.ofMessages_eq_lines`: of messages the standard output has the lines of those
    that are shown and no errors, and the standard error has those of the others;
  * `Options.outcome`: what a run says at whatever level, and its code; of this the
    level of the log (`Options.logLevelOf`) only chooses what is shown (`Options.told`);
  * `Options.level_of_error`: errors are shown at every level;
  * `runCommand_verbosity`: so two runs that differ in this level come out alike, and on
    the standard output the one with the lower level leaves out what is above it.
-/
import ProfileSync.Proofs.Verdict

namespace ProfileSync

/-! ## The lines on each stream -/

/-- The lines of messages, one after the other. -/
def linesOf (color : Bool) (ms : List Message) : String :=
  String.join (ms.map fun m => m.line color ++ "\n")

theorem linesOf_append (color : Bool) (ms ms' : List Message) :
    linesOf color (ms ++ ms') = linesOf color ms ++ linesOf color ms' := by
  rw [linesOf, List.map_append, String.join_append]
  rfl

/-- The messages that a log of a level shows on the standard output. -/
def toldAt (log : LogLevel) (ms : List Message) : List Message :=
  ms.filter fun m => log.shows m.level ∧ m.kind ≠ .error

/-- The messages that a log of a level shows on the standard error. -/
def errorsAt (log : LogLevel) (ms : List Message) : List Message :=
  ms.filter fun m => log.shows m.level ∧ m.kind = .error

theorem toldAt_append (log : LogLevel) (ms ms' : List Message) :
    toldAt log (ms ++ ms') = toldAt log ms ++ toldAt log ms' := List.filter_append ..

theorem errorsAt_append (log : LogLevel) (ms ms' : List Message) :
    errorsAt log (ms ++ ms') = errorsAt log ms ++ errorsAt log ms' := List.filter_append ..

theorem Output.ofMessages_eq_lines (log : LogLevel) (color : Bool) (ms : List Message) :
    Output.ofMessages log color ms =
      ⟨linesOf color (toldAt log ms), linesOf color (errorsAt log ms)⟩ := by
  induction ms with
  | nil => rfl
  | cons m ms ih =>
    have hone : m.output log color =
        ⟨linesOf color (toldAt log [m]), linesOf color (errorsAt log [m])⟩ := by
      unfold Message.output toldAt errorsAt
      by_cases hshown : log.shows m.level = true
      · by_cases herror : m.kind = .error <;> simp [hshown, herror, linesOf]
      · simp [hshown, linesOf, Output.empty]
    rw [← List.singleton_append, ofMessages_append, ofMessages_singleton, hone, ih, toldAt_append,
      errorsAt_append, linesOf_append, linesOf_append]
    rfl

/-- What a lower level shows is what it shows of what a higher one does. -/
theorem toldAt_toldAt {log log' : LogLevel} (h : log.rank ≤ log'.rank) (ms : List Message) :
    (toldAt log' ms).filter (fun m => log.shows m.level) = toldAt log ms := by
  rw [toldAt, toldAt, List.filter_filter]
  refine List.filter_congr fun m _ => ?_
  by_cases hshown : log.shows m.level = true
  · have hhigher : log'.shows m.level = true := by
      simp only [LogLevel.shows, decide_eq_true_eq] at hshown ⊢
      omega
    simp [hshown, hhigher]
  · simp [hshown]

/-- Errors of the lowest level are shown by all logs. -/
theorem errorsAt_congr {ms : List Message} (h : ∀ m ∈ ms, m.kind = .error → m.level = .brief)
    (log log' : LogLevel) : errorsAt log ms = errorsAt log' ms := by
  refine List.filter_congr fun m hm => ?_
  by_cases herror : m.kind = .error
  · have hall : ∀ log : LogLevel, log.shows .brief = true := fun log => by cases log <;> rfl
    simp [h m hm herror, hall]
  · simp [herror]

namespace Options

/-! ## What a run says -/

/-- What a run says, whatever the level of its log, and its code. -/
def outcome (o : Options) (fs : FileSystem) : List Message × Nat :=
  match Config.loadOrDefault fs o.config with
  | .error e => ([⟨.brief, .error, e.message⟩], 1)
  | .ok c => o.messages fs c

/-- The level of the log of a run: the normal one as long as no configuration has been
    loaded, and then that of the options or else of the configuration. -/
def logLevelOf (o : Options) (fs : FileSystem) : LogLevel :=
  match Config.loadOrDefault fs o.config with
  | .error _ => .normal
  | .ok c => o.level c

/-- The messages of a run on its standard output. -/
def told (o : Options) (fs : FileSystem) : List Message := toldAt (o.logLevelOf fs) (o.outcome fs).1

theorem run_eq_outcome (o : Options) (fs : FileSystem) (color : Bool) :
    o.run fs color =
      ⟨(o.outcome fs).2, .ofMessages (o.logLevelOf fs) color (o.outcome fs).1⟩ := by
  unfold run outcome logLevelOf
  cases Config.loadOrDefault fs o.config <;> rfl

theorem isProgress_validate {t : Target} {fs : FileSystem} {s : Selector} {m : Message}
    (h : m ∈ (t.validate fs s).messages) : m.IsProgress := by
  cases t with
  | file path =>
    rcases Logged.mem_messages_bind.1 h with h | ⟨_, -, h⟩
    · exact isProgress_validateFile h
    · cases h
  | directory path recursive =>
    rcases Logged.mem_messages_bind.1 h with h | ⟨_, -, h⟩
    · exact Selector.isProgress_validateDirectory h
    · cases h

/-- **An error** of a run is of the level that every log shows. -/
theorem level_of_error {o : Options} {fs : FileSystem} {m : Message} (h : m ∈ (o.outcome fs).1)
    (hm : m.kind = .error) : m.level = .brief := by
  unfold outcome messages at h
  split at h
  · rw [List.mem_singleton.1 h]
  · split at h
    · rw [List.mem_singleton.1 h]
    · rename_i s _
      rcases List.mem_append.1 h with h | h
      · exact absurd hm (isProgress_validate h).kind_ne.1
      · rw [List.mem_singleton.1 h]
        cases (o.target.validate fs s).result <;> rfl

/-! ## Runs that differ in the level -/

/-- Two configurations are the same but for the level of the log, or there is none for
    the same reason. -/
def SameButLevel : Except Failure Config → Except Failure Config → Prop
  | .ok c, .ok c' => { c with logLevel := c'.logLevel } = c'
  | .error e, .error e' => e = e'
  | _, _ => False

/-- The level does not take part in what is said. -/
theorem messages_congr {o o' : Options} (htarget : o.target = o'.target) (fs : FileSystem)
    {c c' : Config} (hconfig : { c with logLevel := c'.logLevel } = c') :
    o.messages fs c = o'.messages fs c' := by
  rw [← hconfig, messages, messages, htarget]
  rfl

theorem outcome_congr {o o' : Options} {fs : FileSystem} (htarget : o.target = o'.target)
    (hconfig : SameButLevel (Config.loadOrDefault fs o.config)
      (Config.loadOrDefault fs o'.config)) :
    o.outcome fs = o'.outcome fs := by
  unfold outcome
  cases hload : Config.loadOrDefault fs o.config with
  | error e =>
    cases hload' : Config.loadOrDefault fs o'.config with
    | error e' => rw [hload, hload'] at hconfig; rw [show e = e' from hconfig]
    | ok c' => rw [hload, hload'] at hconfig; cases hconfig
  | ok c =>
    cases hload' : Config.loadOrDefault fs o'.config with
    | error e' => rw [hload, hload'] at hconfig; cases hconfig
    | ok c' =>
      rw [hload, hload'] at hconfig
      exact messages_congr htarget fs hconfig

end Options

/-- **The level of the log never changes the verdict.**  Two runs that differ only in
    this level have the same code and write the same on the standard error.  On the
    standard output the one with the lower level writes the lines of just those
    messages of the other that are not above its level, in the same order. -/
theorem runCommand_verbosity {arguments arguments' : List String} {o o' : Options}
    (h : Request.ofArguments arguments = .ok (.run o))
    (h' : Request.ofArguments arguments' = .ok (.run o')) {fs : FileSystem}
    (htarget : o.target = o'.target)
    (hconfig : Options.SameButLevel (Config.loadOrDefault fs o.config)
      (Config.loadOrDefault fs o'.config)) (color : Bool) :
    let low := runCommand fs arguments color
    let high := runCommand fs arguments' color
    low.code = high.code ∧ low.output.err = high.output.err ∧
      low.output.out = linesOf color (o.told fs) ∧ high.output.out = linesOf color (o'.told fs) ∧
      ((o.logLevelOf fs).rank ≤ (o'.logLevelOf fs).rank →
        (o.told fs).Sublist (o'.told fs) ∧
          o.told fs = (o'.told fs).filter fun m => (o.logLevelOf fs).shows m.level) := by
  have hrun : ∀ {arguments o}, Request.ofArguments arguments = .ok (.run o) →
      runCommand fs arguments color = ⟨(o.outcome fs).2, linesOf color (o.told fs),
        linesOf color (errorsAt (o.logLevelOf fs) (o.outcome fs).1)⟩ := by
    intro arguments o h
    rw [runCommand, h]
    dsimp only
    rw [Options.run_eq_outcome, Output.ofMessages_eq_lines]
    rfl
  have hsaid := Options.outcome_congr htarget hconfig
  intro low high
  have hlow : low = _ := hrun h
  have hhigh : high = _ := hrun h'
  rw [hlow, hhigh]
  refine ⟨by rw [hsaid], ?_, rfl, rfl, fun hlevel => ?_⟩
  · rw [hsaid, errorsAt_congr (fun m hm => Options.level_of_error hm) _ (o'.logLevelOf fs)]
  · have hfilter : o.told fs = (o'.told fs).filter fun m => (o.logLevelOf fs).shows m.level := by
      rw [Options.told, Options.told, hsaid, toldAt_toldAt hlevel]
    exact ⟨hfilter ▸ List.filter_sublist, hfilter⟩

/-- A profile and its test file, with configurations that differ in the level of the
    log. -/
def configured : FileSystem :=
  ⟨.directory (("quiet.toml", .file (some "log_level = 'brief'")) ::
    ("loud.toml", .file (some "# all of it\nlog_level = 'verbose'")) ::
      Selector.projectEntries), [], []⟩

/-- Of the four messages of a run a quiet configuration leaves one. -/
theorem runCommand_verbosity_configured :
    let options := fun config => Options.mk (.file "a_utprofile.yml") (some config) none
    Request.ofArguments ["-f", "a_utprofile.yml", "-c", "quiet.toml"] =
      .ok (.run (options "quiet.toml")) ∧
    Request.ofArguments ["--config=loud.toml", "-fa_utprofile.yml"] =
      .ok (.run (options "loud.toml")) ∧
    Options.SameButLevel (Config.loadOrDefault configured (some "quiet.toml"))
      (Config.loadOrDefault configured (some "loud.toml")) ∧
    (runCommand configured ["-f", "a_utprofile.yml", "-c", "quiet.toml"] false).code =
      (runCommand configured ["--config=loud.toml", "-fa_utprofile.yml"] false).code ∧
    ((options "quiet.toml").told configured).Sublist ((options "loud.toml").told configured) ∧
    ((options "quiet.toml").told configured).length = 1 ∧
    ((options "loud.toml").told configured).length = 4 := by
  intro options
  have hquiet : Request.ofArguments ["-f", "a_utprofile.yml", "-c", "quiet.toml"] =
      .ok (.run (options "quiet.toml")) := by decide +kernel
  have hloud : Request.ofArguments ["--config=loud.toml", "-fa_utprofile.yml"] =
      .ok (.run (options "loud.toml")) := by decide +kernel
  have hconfigs : Config.loadOrDefault configured (some "quiet.toml") =
        .ok { Config.default with logLevel := .brief } ∧
      Config.loadOrDefault configured (some "loud.toml") =
        .ok { Config.default with logLevel := .verbose } := by decide +kernel
  have hsame : Options.SameButLevel (Config.loadOrDefault configured (some "quiet.toml"))
      (Config.loadOrDefault configured (some "loud.toml")) := by
    rw [hconfigs.1, hconfigs.2]
    rfl
  have hlevel : ((options "quiet.toml").logLevelOf configured).rank ≤
      ((options "loud.toml").logLevelOf configured).rank := by
    simp only [Options.logLevelOf, options, hconfigs.1, hconfigs.2]
    decide
  obtain ⟨hcode, -, -, -, hlower⟩ := runCommand_verbosity hquiet hloud rfl hsame false
  exact ⟨hquiet, hloud, hsame, hcode, (hlower hlevel).1, by decide +kernel, by decide +kernel⟩

end ProfileSync
