import FileConformance.Proofs.Ideal.Residue
import FileConformance.Proofs.Scenario.Records
import FileConformance.Proofs.Scenario.Shape
import FileConformance.Proofs.Scenario.Verdict
import Mathlib.Algebra.GroupWithZero.Nat

/-!
# What repeated runs leave behind

A run that passes has made the exchanges of the ideal script, and these tell
what the run did to the store.  So the state between two runs is described once:
the store is settled and has no names, every run so far has left a handle for
every file and two for the probes, and the scenario has passed all its checks.
A fresh store and a scenario that has not run are in this state after no runs,
and a run leads from the state after some runs to that after one more.

Handles that were left open are the reason why the store must not limit them:
nothing takes them back, and whatever the limit is, some run would exceed it.
-/

namespace FileConformance

open Store

/-- Between two steps a table is that of the settings but for its bindings. -/
theorem Stage.exists_tableBound {rules : StoreSettings}
    {settings : Settings} {whole : Store → Prop}
    {each : TrackedFile → Store → Prop} {table : Table} {store : Store}
    (stage : Stage rules settings whole each table store) :
    ∃ bindings, table = settings.tableBound bindings := by
  rcases stage.numbered.exists_bindings with ⟨bindings, files⟩
  rw [stage.length_eq, ← List.range_eq_range'] at files
  refine ⟨bindings, ?_⟩
  rcases table with ⟨tracked, pattern, length⟩
  cases files
  cases stage.pattern_eq
  cases stage.bufferLength_eq
  rfl

namespace Scenario

variable {settings : Settings} {rules : StoreSettings}

/-- A run that leaves a success has followed the ideal script. -/
theorem exists_ideal_of_reaches {scenario finished : Scenario}
    {bindings : Nat → Binding} {exchanges : List Exchange}
    (settings_eq : scenario.settings = settings)
    (table_eq : scenario.table = settings.tableBound bindings)
    (reached : scenario.run.Reaches exchanges finished)
    (passed : finished.report.isSuccess = true) :
    ∃ choices, exchanges = settings.idealExchanges choices := by
  rw [run] at reached
  simp only [Procedure.report, Procedure.reaches_reportAll_bind_iff]
    at reached
  have passes := (performAll_passes_iff.mp ⟨finished, reached, passed⟩).2
  rw [settings_eq, table_eq] at passes
  exact Step.script_passes_iff.mp passes

/--
A run that passes leaves a settled store without names as such, with one handle
more for every file and two for the probes.
-/
theorem run_leaves {scenario finished : Scenario} {store : Store}
    {bindings : Nat → Binding} (settings_eq : scenario.settings = settings)
    (table_eq : scenario.table = settings.tableBound bindings)
    (settled : store.Settled) (bare : store.Bare)
    (ended : (scenario.run.run subsystem store).ending = .ok finished)
    (passed : finished.report.isSuccess = true) :
    let done := scenario.run.run subsystem store
    done.state.Settled ∧ done.state.Bare ∧
      done.state.nextHandle =
        store.nextHandle + (6 * settings.fileCount + 2) ∧
      done.state.handles.size =
        store.handles.size + (settings.fileCount + 2) := by
  intro done
  rcases exists_ideal_of_reaches settings_eq table_eq
    (Procedure.reaches_of_ended ended) passed with ⟨choices, ideal⟩
  replace ideal : done.exchanges = settings.idealExchanges choices := ideal
  rcases (run_ensures (performAll_within script scenario)).of_ended ended
    with ⟨_, ⟨within, _⟩, _⟩
  -- What is left behind follows from the exchanges, which are ideal.
  have answered : done.exchanges = _ := scenario.run.run_exchanges store
  have state : done.state = _ := scenario.run.run_state store
  rw [ideal] at answered within state
  rw [state]
  exact Settings.ideal_leaves settled bare
    (fun exchange made => (within exchange made).returns) answered.symm

/-- What a scenario needs of a store to pass any number of times. -/
structure Ample (settings : Settings) (rules : StoreSettings) : Prop where
  faultless : rules.Faultless
  allow : rules.deleteOpen = .allow
  limit_eq : settings.nameLimit.bytes = rules.nameLimit.bytes
  fits : settings.stem.utf8ByteSize +
      (Nat.toDigits 10 (settings.fileCount - 1)).length + 1 ≤
    rules.nameLimit.bytes
  space : ∀ capacity, rules.capacity = some capacity →
    settings.fileCount * settings.bufferLength ≤ capacity
  unlimited : rules.handleLimit = none

/-- How many checks the suites of a run hold, one suite after the other. -/
def checkCounts (files : Nat) : List Nat :=
  List.replicate 15 files ++ List.replicate 3 2

/-- The scenario and the store after so many runs. -/
structure Between (settings : Settings) (rules : StoreSettings)
    (runs : Nat) (scenario : Scenario) (store : Store) : Prop where
  settings_eq : scenario.settings = settings
  passed : scenario.report.isSuccess = true
  counts_eq : scenario.report.suites.map (fun suite => suite.checks.length) =
    (List.replicate runs (checkCounts settings.fileCount)).flatten
  stage : Stage rules settings
    (Handles (runs * (settings.fileCount + 2))) (fun _ _ => True)
    scenario.table store
  settled : store.Settled
  bare : store.Bare
  nextHandle_eq : store.nextHandle =
    firstHandle + runs * (6 * settings.fileCount + 2)
  released : 0 < runs → ∀ file ∈ scenario.table.files,
    ∃ handle, file.binding = .released handle

theorem Between.start (settings : Settings) (rules : StoreSettings)
    (generator : Generator) :
    Between settings rules 0 (Scenario.start settings)
      (Store.fresh rules generator) where
  settings_eq := rfl
  passed := Report.isSuccess_empty
  counts_eq := rfl
  stage := (start_stage settings rules generator).mono
    (fun here => by rw [Nat.zero_mul]; exact here.1) fun _ _ => id
  settled := Settled.fresh rules generator
  bare := bare_fresh rules generator
  nextHandle_eq := by rw [Nat.zero_mul]; rfl
  released := fun none => (Nat.lt_irrefl 0 none).elim

/-- A run adds its suites to those that are there. -/
theorem run_counts (scenario : Scenario) :
    scenario.run.Ensures fun _ _ finished =>
      finished.report.suites.map (fun suite => suite.checks.length) =
        scenario.report.suites.map (fun suite => suite.checks.length) ++
          checkCounts scenario.table.files.length := by
  apply (run_targets scenario).mono
  rintro _ _ finished ⟨suites, reported, targets⟩
  have counts := congrArg (List.map List.length) targets
  rw [reported, List.map_append]
  refine congrArg _ ?_
  simpa [checkCounts, Function.comp_def, NameLimit.probed] using counts

/-- A run from one such state ends in the next. -/
theorem Between.run {runs : Nat} {scenario : Scenario} {store : Store}
    (between : Between settings rules runs scenario store)
    (ample : Ample settings rules) :
    scenario.run.Yields Store.subsystem store
      (Between settings rules (runs + 1)) := by
  have here : Stage rules settings
      (fun store => Handles (runs * (settings.fileCount + 2)) store ∧
        store.usedBytes = 0)
      (fun _ _ => True) scenario.table store :=
    between.stage.mono
      (fun handles => ⟨handles, between.settled.usedBytes_eq⟩)
      fun _ _ => id
  have unlimited : ∀ limit, rules.handleLimit = some limit →
      runs * (settings.fileCount + 2) +
          max (2 * settings.fileCount) (settings.fileCount + 2) ≤ limit := by
    intro limit limited
    rw [ample.unlimited] at limited
    cases limited
  rcases run_yields (script_proceeds_from ample.faultless)
    between.settings_eq here with ⟨finished, ended, decided, result⟩
  have enough := And.intro ample.allow (And.intro ample.limit_eq
    (And.intro ample.fits (And.intro ample.space unlimited)))
  have passed := decided.mpr ⟨between.passed, enough⟩
  rcases result enough with ⟨settings_eq, given, running⟩
  rcases between.stage.exists_tableBound with ⟨bindings, table_eq⟩
  rcases run_leaves between.settings_eq table_eq between.settled
    between.bare ended passed with ⟨settled, bare, number, size⟩
  rcases (run_counts scenario).of_ended ended with ⟨_, counts, _⟩
  refine ⟨finished, ended, ?_⟩
  exact {
    settings_eq := settings_eq
    passed := passed
    counts_eq := by
      rw [counts, between.counts_eq, between.stage.length_eq,
        List.replicate_succ', List.flatten_append, List.flatten_singleton]
    stage := {
      toRunning := running
      whole := by
        rw [Handles, size, between.stage.whole, Nat.succ_mul runs]
      numbered := given.numbered
      length_eq := given.length_eq
      pattern_eq := given.pattern_eq
      bufferLength_eq := given.bufferLength_eq
      each := fun _ _ => trivial }
    settled := settled
    bare := bare
    nextHandle_eq := by
      rw [number, between.nextHandle_eq, Nat.succ_mul runs, Nat.add_assoc]
    released := fun _ => given.released }

/-- Any number of runs leads on from one such state to another. -/
theorem Between.runs {runs : Nat} {scenario : Scenario} {store : Store}
    (between : Between settings rules runs scenario store)
    (ample : Ample settings rules) (more : Nat) :
    (scenario.takeAll (List.replicate more .run)).Yields Store.subsystem
      store (Between settings rules (runs + more)) := by
  induction more generalizing runs scenario store with
  | zero => exact Procedure.yields_pure between
  | succ more ih =>
      rw [List.replicate_succ, takeAll]
      apply Procedure.yields_bind
      apply (between.run ample).mono
      intro next middle reached
      rw [Nat.add_comm more 1, ← Nat.add_assoc]
      exact ih reached

/-! ## The report -/

/-- Every run adds eighteen suites. -/
theorem length_counts (runs files : Nat) :
    (List.replicate runs (checkCounts files)).flatten.length =
      18 * runs := by
  simp [checkCounts, Nat.mul_comm]

/-- Every run adds fifteen checks for each file, and six more. -/
theorem sum_counts (runs files : Nat) :
    (List.replicate runs (checkCounts files)).flatten.sum =
      runs * (15 * files + 6) := by
  rw [List.sum_flatten, List.map_replicate, List.sum_replicate_nat,
    checkCounts, List.sum_append, List.sum_replicate_nat,
    List.sum_replicate_nat]

/-- A report that is a success has passed all its checks. -/
theorem passed_of_isSuccess {report : Report}
    (success : report.isSuccess = true) :
    report.failed = 0 ∧
      report.passed =
        (report.suites.map fun suite => suite.checks.length).sum := by
  have clean := report.isSuccess_iff.mp success
  refine ⟨beq_iff_eq.mp success, ?_⟩
  have all : report.passed = report.checks.length := by
    rw [Report.passed, List.countP_eq_length]
    intro check member
    rw [clean check member]
    rfl
  rw [all, Report.checks, List.length_flatMap]

/--
On a faultless store that lets open files be deleted, has the limit on names of
the scenario, and has room for the names, the contents and any number of
handles, a scenario passes as often as it is run.  It leaves no name, no byte and
nothing that waits, every file of its table is released, and of the handles that
were issued those of the first step on descriptors and of the probes stay open.
-/
theorem repeated_runs_leave (settings : Settings) (rules : StoreSettings)
    (faultless : rules.Faultless) (allow : rules.deleteOpen = .allow)
    (sameLimit : settings.nameLimit.bytes = rules.nameLimit.bytes)
    (fits : settings.stem.utf8ByteSize +
        (Nat.toDigits 10 (settings.fileCount - 1)).length + 1 ≤
      rules.nameLimit.bytes)
    (space : ∀ capacity, rules.capacity = some capacity →
      settings.fileCount * settings.bufferLength ≤ capacity)
    (unlimited : rules.handleLimit = none) (generator : Generator)
    {runs : Nat} (some_run : 0 < runs) :
    let done := ((start settings).takeAll (List.replicate runs .run)).run
      Store.subsystem (Store.fresh rules generator)
    let issued := runs * (6 * settings.fileCount + 2)
    ∃ finished, done.ending = .ok finished ∧
      finished.report.suites.length = 18 * runs ∧
      (finished.report.suites.map fun suite => suite.checks.length) =
        (List.replicate runs (List.replicate 15 settings.fileCount ++
          List.replicate 3 2)).flatten ∧
      finished.report.passed = runs * (15 * settings.fileCount + 6) ∧
      finished.report.failed = 0 ∧
      finished.table.files.length = settings.fileCount ∧
      (∀ file ∈ finished.table.files, ∃ handle,
        file.binding = .released handle) ∧
      (∀ name, done.state.hasName name = false) ∧
      done.state.openHandles = runs * (settings.fileCount + 2) ∧
      done.state.pendingCount = 0 ∧
      done.state.usedBytes = 0 ∧
      (issuedIn done.exchanges).length = issued ∧
      done.state.nextHandle = firstHandle + issued := by
  intro done issued
  have ample : Ample settings rules :=
    ⟨faultless, allow, sameLimit, fits, space, unlimited⟩
  rcases (Between.start settings rules generator).runs ample runs with
    ⟨finished, ended, between⟩
  rw [Nat.zero_add] at between
  rcases passed_of_isSuccess between.passed with ⟨failed, passed⟩
  have suites := congrArg List.length between.counts_eq
  rw [List.length_map, length_counts] at suites
  rw [between.counts_eq, sum_counts] at passed
  refine ⟨finished, ended, suites, between.counts_eq, passed, failed,
    between.stage.length_eq, between.released some_run, ?_,
    between.stage.whole, ?_, between.settled.usedBytes_eq, ?_,
    between.nextHandle_eq⟩
  · intro name
    rw [hasName, Std.ExtTreeMap.contains_eq_isSome_getElem?,
      between.bare name trivial]
    rfl
  · rw [pendingCount, between.settled.pending_eq]
    rfl
  · have number := nextHandle_run
      ((start settings).takeAll (List.replicate runs .run))
      (Store.fresh rules generator)
    rw [between.nextHandle_eq] at number
    exact (Nat.add_left_cancel number).symm

/-- Two runs with two files of three bytes, on a store that just holds them. -/
theorem repeated_runs_leave_two_files :
    let settings : Settings := { fileCount := 2, bufferLength := 3 }
    let rules : StoreSettings :=
      { sync := .sometimes 9223372036854775808
        capacity := some 6 }
    let done := ((start settings).takeAll (List.replicate 2 .run)).run
      Store.subsystem (Store.fresh rules (.ofSeed 0))
    rules.Faultless ∧ rules.deleteOpen = .allow ∧
      settings.nameLimit.bytes = rules.nameLimit.bytes ∧
      rules.handleLimit = none ∧
      done.ending.map (fun finished =>
        (finished.report.passed, finished.report.failed)) = .ok (72, 0) ∧
      done.state.openHandles = 8 ∧ done.state.nextHandle = 30 := by
  intro settings rules
  have faultless : rules.Faultless := ⟨rfl, rfl⟩
  rcases repeated_runs_leave settings rules faultless rfl rfl (by decide)
    (by rintro _ ⟨⟩; decide) rfl (.ofSeed 0) (show 0 < 2 by decide) with
    ⟨finished, ended, _, _, passed, failed, _, _, _, left, _, _, _, number⟩
  refine ⟨faultless, rfl, rfl, rfl, ?_, left, number⟩
  rw [ended]
  exact congrArg Except.ok (Prod.ext passed failed)

end Scenario

end FileConformance
