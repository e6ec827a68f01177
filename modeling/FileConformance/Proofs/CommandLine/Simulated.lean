import FileConformance.CommandLine.Execution
import FileConformance.Proofs.Plain.Refinement
import FileConformance.Proofs.Procedure.Abreast
import FileConformance.Proofs.Scenario.Shape
import FileConformance.Proofs.Scenario.Verdict
import FileConformance.Proofs.Store.Handles
import FileConformance.Proofs.Store.ShutDown

/-!
# The command on the simulated store

The store that the command makes has no faults and only one limit, the one on
names, and that is the limit that is probed.  So a run passes unless the longest
test name exceeds it, whatever the other options are.

The process ends however the run came out.  The call made afterwards is refused
because of that, which is one more check that passes.  So the status tells only
whether the run passed, and only where that was asked for.

The store draws numbers when it is written to.  They decide when its files
become durable, and nothing that the command shows.

All this takes that no file, name or list of checks is too long for a process to
address.  Otherwise the run is given up, and nothing is shown.
-/

namespace FileConformance

/-! ## What the draws of a store decide -/

/-- A store that a plain file system looks like for good. -/
structure Undisturbed (store : Store) (plain : Plain) : Prop where
  mirrors : Mirrors plain store
  wf : store.WellFormed
  faultless : store.settings.Faultless
  unbounded : store.settings.capacity = none

namespace Undisturbed

theorem fresh {rules : StoreSettings} (faultless : rules.Faultless)
    (unbounded : rules.capacity = none) (generator : Generator) :
    Undisturbed (Store.fresh rules generator) (Plain.fresh rules) where
  mirrors := Mirrors.fresh rules generator
  wf := Store.WellFormed.fresh rules generator
  faultless := faultless
  unbounded := unbounded

theorem matched :
    Procedure.Matches Store.subsystem Plain.subsystem
      (fun _ answer other => answer = other) Undisturbed := by
  intro request store plain undisturbed
  have wf := undisturbed.wf
  have faultless := undisturbed.faultless
  have unbounded := undisturbed.unbounded
  rcases undisturbed.mirrors.respond wf faultless unbounded request with
    ⟨answered, later⟩
  have settled : (Store.subsystem.respond request store).state.settings =
      store.settings :=
    Store.settings_after store [.call request]
  refine ⟨answered, later, ?_, ?_, ?_⟩
  · exact wf.evolves (Store.act_evolves store (.call request))
  · rw [settled]
    exact faultless
  · rw [settled]
    exact unbounded

end Undisturbed

/-- The draws of a store have no part in how a procedure ends. -/
theorem Procedure.ending_fresh_eq {Result : Type} {rules : StoreSettings}
    (faultless : rules.Faultless) (unbounded : rules.capacity = none)
    (procedure : Procedure Result) (generator other : Generator) :
    (procedure.run Store.subsystem (Store.fresh rules generator)).ending =
      (procedure.run Store.subsystem (Store.fresh rules other)).ending := by
  have plainly := fun draws => Undisturbed.matched.ending_eq procedure
    (Undisturbed.fresh faultless unbounded draws)
  rw [plainly, plainly]

/-- What is made of a result does not change how it comes about. -/
theorem Procedure.ending_map {Result Next State : Type}
    {subsystem : Subsystem State} {procedure : Procedure Result}
    {state : State} {make : Result → Next} {result : Result}
    (ended : (procedure.run subsystem state).ending = .ok result) :
    ((make <$> procedure).run subsystem state).ending =
      .ok (make result) := by
  show ((procedure.bind fun value => .done (make value)).run subsystem
    state).ending = _
  rw [run_bind, Run.andThen, ended]
  rfl

/-! ## The end of a run -/

namespace Scenario

/-- Do the script, report the totals and end; the probe is told apart. -/
def finish (scenario : Scenario) : Procedure (Scenario × Check) := do
  let finished ← scenario.run
  Procedure.reportAll (Event.summaries finished.report)
  finished.terminate

theorem runToExit_eq (scenario : Scenario) :
    scenario.runToExit = Prod.fst <$> scenario.finish := by
  simp only [runToExit, finish, map_eq_pure_bind, bind_assoc]

/-- A process that has ended refuses the probe, as it should. -/
theorem probeAfterExit_yields {table : Table} {file : TrackedFile}
    (first : table.file? 0 = some file) {store : Store}
    (ended : store.exitStatus.isSome = true) :
    (probeAfterExit table).Yields Store.subsystem store fun probe _ =>
      probe.isFailure = false := by
  rcases Option.isSome_iff_exists.mp ended with ⟨status, halted⟩
  have refused := (Store.respond_of_ended halted (.openFile file.path)).2
    nofun
  rw [probeAfterExit, first]
  apply Procedure.yields_one_call
  revert refused
  generalize (Store.subsystem.respond (.openFile file.path) store).answer =
    answer
  intro refused
  cases answer with
  | ok handle => cases refused
  | error reason =>
      cases refused
      rfl

/-- However a run came out, its end is noticed. -/
theorem terminate_yields (scenario : Scenario) {file : TrackedFile}
    (first : scenario.table.file? 0 = some file) (store : Store) :
    scenario.terminate.Yields Store.subsystem store fun result _ =>
      result.1.settings = scenario.settings ∧
        result.1.report =
          scenario.report.push ⟨"terminate", [result.2]⟩ ∧
        result.2.isFailure = false := by
  unfold terminate
  apply Procedure.yields_bind
  apply Procedure.yields_reportAll
  apply Procedure.yields_bind
  apply Procedure.yields_request
  apply Procedure.yields_bind
  apply (probeAfterExit_yields first
    (Store.exitStatus_exit store scenario.exitCode)).mono
  intro probe later passed
  apply Procedure.yields_bind
  unfold record
  apply Procedure.yields_bind
  apply Procedure.yields_reportAll
  apply Procedure.yields_bind
  apply Procedure.yields_reportAll
  apply Procedure.yields_pure
  exact Procedure.yields_pure ⟨rfl, rfl, passed⟩

/-- What becomes of a scenario that was run once and ended. -/
structure Finished (settings : Settings) (condition : Prop)
    (ended : Scenario) (probe : Check) : Prop where
  settings_eq : ended.settings = settings
  suites_eq : ∃ suites : List Suite,
    ended.report.suites = suites ++ [⟨"terminate", [probe]⟩] ∧
      suites.map Suite.title = script.map TitledStep.title
  passed : probe.isFailure = false
  isSuccess_iff : ended.report.isSuccess = true ↔ condition

theorem finish_yields {settings : Settings} {rules : StoreSettings}
    {condition : Prop} {before after : Table → Store → Prop}
    (proceeds : Proceeds settings script before condition after)
    {generator : Generator}
    (here : before settings.table (Store.fresh rules generator)) :
    (start settings).finish.Yields Store.subsystem
      (Store.fresh rules generator) fun result _ =>
        Finished settings condition result.1 result.2 := by
  unfold finish
  apply Procedure.yields_bind
  rcases run_yields proceeds
    (show (start settings).settings = settings from rfl) here with
    ⟨finished, ended, decided, _⟩
  rcases (run_ensures (performAll_shapes script (start settings))).of_ended
    ended with ⟨_, ⟨settings_eq, same, left, _, suites, shapes⟩, _⟩
  refine ⟨finished, ended, ?_⟩
  apply Procedure.yields_bind
  apply Procedure.yields_reportAll
  -- There is a first file to probe, as there was at the start.
  have some_file : 0 < finished.table.files.length := by
    rw [← same.length_eq, start, Settings.table, Table.numbered,
      List.length_map, List.length_range]
    exact settings.fileCount_pos
  have titles : left.map (fun step => step.suite.title) =
      script.map TitledStep.title := by
    rw [← List.forall₂_eq_eq_eq, List.forall₂_map_left_iff,
      List.forall₂_map_right_iff]
    exact shapes.flip.imp fun _ _ kept => kept.title_eq
  apply (terminate_yields finished (List.getElem?_eq_getElem some_file)
    _).mono
  rintro ⟨last, probe⟩ _ ⟨kept, pushed, passed⟩
  refine ⟨kept.trans settings_eq, ⟨left.map Left.suite, ?_, ?_⟩, passed, ?_⟩
  · rw [pushed, Report.push, suites]
    rfl
  · rw [List.map_map]
    exact titles
  · rw [pushed, Report.isSuccess_push, decided]
    have clean : Clean [probe] := List.forall_mem_singleton.mpr passed
    exact ⟨fun both => both.1.2,
      fun holds => ⟨⟨Report.isSuccess_empty, holds⟩, clean⟩⟩

end Scenario

/-! ## The command -/

namespace CommandLine

variable {options : Options} {settings : Settings}

/-- What the command makes of a scenario that has ended, and of the probe. -/
def conclusionOf (format : Format) (result : Scenario × Check) :
    Conclusion where
  ending := {
    status :=
      if result.2.isFailure then 1 else statusOf result.1.exitCode
    output := format.render result.1.report
    complaint := if result.2.isFailure then some .notEnded else none
  }
  journal := result.1.journalText

theorem concludeOnStore_eq (format : Format)
    (ample : shortage? settings = none) :
    concludeOnStore settings format .spacious =
      conclusionOf format <$> (Scenario.start settings).finish := by
  simp only [concludeOnStore, ample, performScript, Procedure.journalledOn,
    Scenario.finish, conclusionOf, map_eq_pure_bind, bind_assoc]

/-- Where contents are too long, the run is given up when they are needed. -/
theorem giveUp_yields {State : Type} {subsystem : Subsystem State}
    (honest : subsystem.Honest) (settings : Settings) (state : State) :
    (giveUp settings .spacious .contents).Yields subsystem state
      fun conclusion _ => conclusion.ending = .abandoned := by
  apply Procedure.yields_bind
  apply Procedure.yields_reportAll
  apply Procedure.yields_bind
  apply ((Scenario.performAll_steadfast _ _).yields honest state).mono
  intro last later _
  exact Procedure.yields_pure rfl

/-- The limits of the simulated store. -/
def Options.rules (options : Options) : StoreSettings :=
  { StoreSettings.standard with nameLimit := options.nameLimit }

/--
Set up a scenario and a store from the common ones, one option after the other.
-/
def Options.configure (options : Options) :
    Except Abort (Settings × StoreSettings) := do
  let settings ← Settings.standard.withFileCount options.files
  let settings ← settings.withBufferLength options.bufferLength
  let settings ← settings.withStem options.stem
  let settings ← settings.withNameLimit options.nameLimit.bytes
  let settings := settings.withStrict options.strict
  let rules ← StoreSettings.standard.withNameLimit options.nameLimit.bytes
  return (settings, rules)

/-- Options that were read are in range, so no setter refuses. -/
theorem Options.configure_eq (unjournalled : options.journal = none)
    (chosen : options.settings = .ok settings) :
    options.configure = .ok (settings, options.rules) := by
  unfold Options.settings at chosen
  split at chosen
  · rename_i usable
    cases chosen
    have probed : NameLimit.ofBytes? options.nameLimit.bytes =
        some options.nameLimit :=
      dif_pos options.nameLimit.two_le
    simp only [configure, rules, Settings.withFileCount,
      Settings.withBufferLength, Settings.withStem, Settings.withNameLimit,
      Settings.withStrict, StoreSettings.withNameLimit,
      dif_pos options.files_pos, dif_pos options.bufferLength_pos,
      dif_pos usable, probed, unjournalled]
    rfl
  · cases chosen

/-- What a run takes from the options. -/
theorem Options.of_settings (chosen : options.settings = .ok settings) :
    settings.fileCount = options.files ∧
      settings.bufferLength = options.bufferLength ∧
      settings.stem = options.stem ∧
      settings.nameLimit = options.nameLimit ∧
      settings.strict = options.strict := by
  unfold Options.settings at chosen
  split at chosen
  · cases chosen
    exact ⟨rfl, rfl, rfl, rfl, rfl⟩
  · cases chosen

/-- The longest test name, its terminator included, is within the limit. -/
def Options.Fits (options : Options) : Prop :=
  options.stem.utf8ByteSize +
      (Nat.toDigits 10 (options.files - 1)).length + 1 ≤
    options.nameLimit.bytes

/--
The store of the command is faultless and takes every name that is probed as it
should, so a run depends on the test names alone.
-/
theorem Options.script_proceeds (options : Options)
    (chosen : options.settings = .ok settings) :
    Scenario.Proceeds settings Scenario.script
      (Stage options.rules settings
        (fun store => Handles 0 store ∧ store.usedBytes = 0)
        (fun _ _ => True))
      options.Fits
      (fun table store => Scenario.GivenBack settings table ∧
        Store.Running options.rules store) := by
  have faultless : options.rules.Faultless := ⟨rfl, rfl⟩
  apply (Scenario.script_proceeds faultless).of_iff
  rcases Options.of_settings chosen with ⟨files, _, stem, nameLimit, _⟩
  rw [files, stem, nameLimit]
  constructor
  · exact fun needed => needed.2.2.1
  · exact fun fits => ⟨rfl, rfl, fits, nofun, nofun⟩

/-- A scenario ends in the same way whatever its store draws. -/
theorem Options.exists_finished (chosen : options.settings = .ok settings) :
    ∃ ended probe,
      Scenario.Finished settings options.Fits ended probe ∧
        ∀ generator : Generator,
          ((Scenario.start settings).finish.run Store.subsystem
            (Store.fresh options.rules generator)).ending =
              .ok (ended, probe) := by
  rcases Scenario.finish_yields (options.script_proceeds chosen)
    (Scenario.start_stage settings options.rules (.ofSeed 0)) with
    ⟨⟨ended, probe⟩, returned, finished⟩
  refine ⟨ended, probe, finished, fun generator => ?_⟩
  rw [← returned]
  exact Procedure.ending_fresh_eq ⟨rfl, rfl⟩ rfl _ generator _

/-! ## What is shown -/

/-- A stem that is empty, or more than one path component. -/
def Options.Unusable (options : Options) : Prop :=
  options.stem = "" ∨ '/' ∈ options.stem.toList ∨
    '\x00' ∈ options.stem.toList

theorem Options.unusable_iff (options : Options) :
    options.Unusable ↔ Name.usableStem options.stem = false := by
  simp only [Unusable, Name.usableStem, Bool.and_eq_false_iff,
    Bool.not_eq_false', String.isEmpty_iff, List.all_eq_false,
    Bool.and_eq_true, bne_iff_ne, ne_eq, not_and_or, not_not]
  constructor
  · rintro (empty | separated | cut)
    · exact .inl empty
    · exact .inr ⟨_, separated, .inl rfl⟩
    · exact .inr ⟨_, cut, .inr rfl⟩
  · rintro (empty | ⟨_, member, rfl | rfl⟩)
    · exact .inl empty
    · exact .inr (.inl member)
    · exact .inr (.inr member)

/-- Such a stem is refused before anything else is done. -/
theorem execute_of_unusable {arguments : List String}
    (parsed : Invocation.ofArguments arguments = .ok (.run options))
    (unusable : options.Unusable) (surroundings : Surroundings) :
    execute arguments surroundings =
      (.refused (.unusableStem options.stem), surroundings.disk) := by
  have refused : options.settings =
      .error (.unusableStem options.stem) :=
    dif_neg (Bool.eq_false_iff.mp (options.unusable_iff.mp unusable))
  simp only [execute, parsed, Options.execute, refused]

theorem Options.exists_settings (usable : ¬options.Unusable) :
    ∃ settings, options.settings = .ok settings :=
  ⟨_, dif_pos (Bool.not_eq_false _ ▸ options.unusable_iff.not.mp usable)⟩

/--
No piece of memory has to be longer than a process can address: neither a list
of checks, each of which takes 96 bytes, nor the content of a file, nor a name.
-/
structure Options.WithinMemory (options : Options) : Prop where
  files_le : options.files * 96 ≤ 2 ^ 63 - 1
  bufferLength_le : options.bufferLength ≤ 2 ^ 63 - 1
  nameLimit_le : options.nameLimit.bytes ≤ 2 ^ 63 - 1

theorem Options.withinMemory_iff
    (chosen : options.settings = .ok settings) :
    options.WithinMemory ↔ shortage? settings = none := by
  rcases Options.of_settings chosen with
    ⟨files, bufferLength, _, nameLimit, _⟩
  have longest : longestPiece = 2 ^ 63 - 1 := by decide
  rw [shortage?, files, bufferLength, nameLimit, longest, checkSize]
  constructor
  · rintro ⟨files_le, bufferLength_le, nameLimit_le⟩
    rw [if_neg (Nat.not_lt.mpr files_le),
      if_neg (Nat.not_lt.mpr nameLimit_le),
      if_neg (Nat.not_lt.mpr bufferLength_le)]
  · intro ample
    split at ample
    · cases ample
    · split at ample
      · cases ample
      · split at ample
        · cases ample
        · rename_i files_le nameLimit_le bufferLength_le
          exact ⟨Nat.not_lt.mp files_le, Nat.not_lt.mp bufferLength_le,
            Nat.not_lt.mp nameLimit_le⟩

/-- A seed takes no memory. -/
theorem Options.withinMemory_reseed (seed : Option UInt64) :
    { options with seed }.WithinMemory ↔ options.WithinMemory := by
  constructor
  · rintro ⟨files_le, bufferLength_le, nameLimit_le⟩
    exact ⟨files_le, bufferLength_le, nameLimit_le⟩
  · rintro ⟨files_le, bufferLength_le, nameLimit_le⟩
    exact ⟨files_le, bufferLength_le, nameLimit_le⟩

/-- A run for which there is no memory is given up, and nothing is shown. -/
theorem execute_of_shortage {arguments : List String}
    (parsed : Invocation.ofArguments arguments = .ok (.run options))
    (simulated : options.backend = .simulated)
    (unjournalled : options.journal = none)
    (chosen : options.settings = .ok settings)
    (beyond : ¬options.WithinMemory) (surroundings : Surroundings) :
    execute arguments surroundings =
      (.abandoned, surroundings.disk) := by
  have spacious : surroundings.medium none = .spacious := rfl
  have given : ∃ shortage, shortage? settings = some shortage := by
    rw [← Option.isSome_iff_exists, Option.isSome_iff_ne_none]
    exact mt (Options.withinMemory_iff chosen).mpr beyond
  rcases given with ⟨shortage, short⟩
  have abandoned : ∀ disk, surroundings.conclude
      (options.simulate settings .spacious) none disk =
        (.abandoned, disk) := by
    intro disk
    rw [Options.simulate, concludeOnStore, short]
    cases shortage with
    | names => rfl
    | contents =>
        rcases giveUp_yields Store.honest settings options.store with
          ⟨conclusion, returned, ending_eq⟩
        dsimp only
        rw [returned, ← ending_eq]
        rfl
  simp only [execute, parsed, Options.execute, chosen, simulated,
    executeOnStore, Surroundings.makeJournal, unjournalled, spacious,
    abandoned]

/-- Without a journal nothing on the disk is touched. -/
theorem execute_of_finished {arguments : List String}
    (parsed : Invocation.ofArguments arguments = .ok (.run options))
    (simulated : options.backend = .simulated)
    (unjournalled : options.journal = none)
    (chosen : options.settings = .ok settings)
    (within : options.WithinMemory) {ended : Scenario} {probe : Check}
    (returned : ((Scenario.start settings).finish.run Store.subsystem
      options.store).ending = .ok (ended, probe))
    (surroundings : Surroundings) :
    execute arguments surroundings =
      ((conclusionOf options.format (ended, probe)).ending,
        surroundings.disk) := by
  have spacious : surroundings.medium none = .spacious := rfl
  have shown : options.simulate settings .spacious =
      .ok (conclusionOf options.format (ended, probe)) := by
    have ample := (Options.withinMemory_iff chosen).mp within
    rw [Options.simulate, concludeOnStore_eq options.format ample]
    exact Procedure.ending_map returned
  simp only [execute, parsed, Options.execute, chosen, simulated,
    executeOnStore, Surroundings.makeJournal, unjournalled, spacious, shown]
  rfl

/-- What the command shows of a scenario that was run and ended. -/
structure Options.Shows (options : Options) (settings : Settings)
    (ending : Ending) (ended : Scenario) (probe : Check) : Prop where
  /-- The scenario ends like this whatever the store draws. -/
  ended_eq : ∀ generator : Generator,
    ((Scenario.start settings).runToExit.run Store.subsystem
      (Store.fresh options.rules generator)).ending = .ok ended
  titles_eq : ended.report.suites.map Suite.title =
    Scenario.script.map Scenario.TitledStep.title ++ ["terminate"]
  length_eq : ended.report.suites.length = 19
  /-- The call after the end is the whole last suite. -/
  getLast?_eq : ended.report.suites.getLast? =
    some ⟨"terminate", [probe]⟩
  passed : probe.isFailure = false
  /-- A report is shown as JSON with a line end behind it, or as text. -/
  output_eq : ending.output =
    match options.format with
    | .json => ended.report.jsonText ++ "\n"
    | .human => ended.report.text
  complaint_eq : ending.complaint = none
  status_eq : ending.status =
    if options.strict = true ∧ options.nameLimit.bytes <
        options.stem.utf8ByteSize +
          (Nat.toDigits 10 (options.files - 1)).length + 1
    then 1 else 0

theorem Options.shows_of_finished
    (chosen : options.settings = .ok settings)
    {ended : Scenario} {probe : Check}
    (finished : Scenario.Finished settings options.Fits ended probe)
    (returned : ∀ generator : Generator,
      ((Scenario.start settings).finish.run Store.subsystem
        (Store.fresh options.rules generator)).ending =
          .ok (ended, probe)) :
    options.Shows settings
      (conclusionOf options.format (ended, probe)).ending ended probe := by
  rcases finished.suites_eq with ⟨suites, suites_eq, titles⟩
  have strict : ended.settings.strict = options.strict := by
    rw [finished.settings_eq]
    exact (Options.of_settings chosen).2.2.2.2
  have titles_eq : ended.report.suites.map Suite.title =
      Scenario.script.map Scenario.TitledStep.title ++ ["terminate"] := by
    rw [suites_eq, List.map_append, titles]
    rfl
  refine {
    ended_eq := fun generator => ?_
    titles_eq := titles_eq
    length_eq := ?_
    getLast?_eq := ?_
    passed := finished.passed
    output_eq := rfl
    complaint_eq := ?_
    status_eq := ?_ }
  · rw [Scenario.runToExit_eq]
    exact Procedure.ending_map (returned generator)
  · rw [← List.length_map, titles_eq]
    rfl
  · rw [suites_eq]
    exact List.getLast?_concat
  · rw [conclusionOf, finished.passed]
    rfl
  · -- The status is that of the run, since the probe is not held against it.
    have failed : (options.strict && !ended.report.isSuccess) = true ↔
        options.strict = true ∧ ¬options.Fits := by
      rw [Bool.and_eq_true, Bool.not_eq_true', ← Bool.not_eq_true,
        finished.isSuccess_iff]
    simp only [conclusionOf, finished.passed, Scenario.exitCode, strict,
      failed, Options.Fits, Nat.not_le]
    exact apply_ite statusOf _ 1 0

/--
Whatever arguments choose the simulated store and no journal, the disk stays as
it is.  A stem that is no single path component ends the command with status 2,
and nothing is shown.  With any other stem no setter refuses its option.  If
there is memory for the run, what is shown is the report of a scenario that was
run and ended, whatever the store draws: the suites of the script, and one suite
more, in which the call after the end passes.  The status is 1 if failed checks
are to decide it and the longest test name exceeds the limit, and else 0.  If
there is not, the status is 101, and nothing is shown.  The seed changes
nothing.
-/
theorem execute_simulated {arguments : List String} {options : Options}
    (parsed : Invocation.ofArguments arguments = .ok (.run options))
    (simulated : options.backend = .simulated)
    (unjournalled : options.journal = none) (surroundings : Surroundings) :
    let outcome := execute arguments surroundings
    outcome.2 = surroundings.disk ∧
      (options.Unusable →
        outcome.1.status = 2 ∧ outcome.1.output = "" ∧
          outcome.1.complaint = some (.unusableStem options.stem)) ∧
      (¬options.Unusable → ∃ settings,
        options.configure = .ok (settings, options.rules) ∧
          (options.WithinMemory → ∃ ended probe,
            options.Shows settings outcome.1 ended probe) ∧
          (¬options.WithinMemory →
            outcome.1.status = 101 ∧ outcome.1.output = "" ∧
              outcome.1.complaint = none)) ∧
      ∀ (others : List String) (seed : Option UInt64),
        Invocation.ofArguments others = .ok (.run { options with seed }) →
          execute others surroundings = outcome := by
  intro outcome
  by_cases unusable : options.Unusable
  · have refused := execute_of_unusable parsed unusable surroundings
    simp only [outcome, refused]
    refine ⟨trivial, fun _ => ⟨rfl, rfl, rfl⟩, fun usable => ?_, ?_⟩
    · exact absurd unusable usable
    · intro others seed parsedToo
      exact execute_of_unusable parsedToo unusable surroundings
  rcases Options.exists_settings unusable with ⟨settings, chosen⟩
  have configured := Options.configure_eq unjournalled chosen
  by_cases within : options.WithinMemory
  · rcases Options.exists_finished chosen with
      ⟨ended, probe, finished, returned⟩
    have shown := execute_of_finished parsed simulated unjournalled chosen
      within (returned _) surroundings
    simp only [outcome, shown]
    refine ⟨trivial, fun impossible => absurd impossible unusable,
      fun _ => ⟨settings, configured, fun _ => ?_, fun beyond => ?_⟩, ?_⟩
    · exact ⟨ended, probe,
        Options.shows_of_finished chosen finished returned⟩
    · exact absurd within beyond
    · intro others seed parsedToo
      exact execute_of_finished parsedToo simulated unjournalled chosen
        ((Options.withinMemory_reseed seed).mpr within) (returned _)
        surroundings
  · have given := execute_of_shortage parsed simulated unjournalled chosen
      within surroundings
    simp only [outcome, given]
    refine ⟨trivial, fun impossible => absurd impossible unusable,
      fun _ => ⟨settings, configured, fun ample => ?_, fun _ => ?_⟩, ?_⟩
    · exact absurd ample within
    · exact ⟨rfl, rfl, rfl⟩
    · intro others seed parsedToo
      exact execute_of_shortage parsedToo simulated unjournalled chosen
        (mt (Options.withinMemory_reseed seed).mp within) surroundings

/-- Eleven files under the usual stem are one too many for six bytes. -/
theorem execute_simulated_eleven_files :
    let arguments := ["--backend", "sim", "--files", "11", "--name-limit", "6",
      "--seed", "7", "--strict"]
    let unseeded := ["--strict", "--files=11", "--backend=sim",
      "--name-limit=6"]
    let surroundings : Surroundings :=
      { disk := .empty, working := 0, temporary := "/tmp" }
    (execute arguments surroundings).1.status = 1 ∧
      execute unseeded surroundings = execute arguments surroundings := by
  intro arguments unseeded surroundings
  let options : Options := { Options.standard with
    backend := .simulated
    files := 11
    files_pos := by decide
    nameLimit := ⟨6, by decide⟩
    seed := some 7
    strict := true }
  have parsed : Invocation.ofArguments arguments = .ok (.run options) := rfl
  have parsedToo : Invocation.ofArguments unseeded =
      .ok (.run { options with seed := none }) := rfl
  rcases execute_simulated parsed rfl rfl surroundings with
    ⟨_, _, shown, alike⟩
  refine ⟨?_, alike unseeded none parsedToo⟩
  have usable : ¬options.Unusable := by
    rw [Options.unusable_iff]
    decide
  rcases shown usable with ⟨_, _, shows, _⟩
  rcases shows ⟨by decide, by decide, by decide⟩ with ⟨_, _, shows⟩
  exact shows.status_eq.trans (if_pos ⟨rfl, by decide⟩)

/-- No process can address the contents of a file of 2 ^ 63 bytes. -/
theorem execute_beyond_memory :
    let arguments := ["--backend", "sim", "--files", "1", "--buffer-len",
      "9223372036854775808"]
    let options : Options := { Options.standard with
      backend := .simulated
      files := 1
      files_pos := by decide
      bufferLength := 2 ^ 63
      bufferLength_pos := by decide }
    let surroundings : Surroundings :=
      { disk := .empty, working := 0, temporary := "/tmp" }
    Invocation.ofArguments arguments = .ok (.run options) ∧
      ¬options.Unusable ∧
      (execute arguments surroundings).1.status = 101 ∧
      (execute arguments surroundings).1.output = "" := by
  intro arguments options surroundings
  refine ⟨rfl, ?_, ?_⟩
  · rw [Options.unusable_iff]
    decide
  · decide +kernel

end CommandLine

end FileConformance
