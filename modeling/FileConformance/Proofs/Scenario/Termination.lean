import FileConformance.Proofs.Scenario.Records
import FileConformance.Proofs.Scenario.Scripts
import FileConformance.Proofs.Scenario.Shape
import FileConformance.Proofs.Store.ShutDown

/-!
# How a scenario ends

Ending a scenario takes two calls.  The first hands the verdict on all checks so
far to the subsystem, and the second is a probe: it must be refused because the
process has ended.  The probe is one more check, so it may change the verdict
after the verdict was given.  On a store it never does.

Steps rebind the files of a table and never rename them, so whatever happened to
a scenario since it was built there is a first file to probe with, and its name
is the one it got at the start.
-/

namespace FileConformance

open Procedure

namespace Scenario

/-! ## Scenarios that were built -/

/-- The table still tracks the files that the settings name. -/
def Built (scenario : Scenario) : Prop :=
  List.Forall₂ TrackedFile.Same scenario.settings.table.files
    scenario.table.files

namespace Built

variable {scenario later : Scenario}

theorem start (settings : Settings) : (Scenario.start settings).Built :=
  List.forall₂_same.mpr fun file _ => .refl file

theorem of_same (built : scenario.Built)
    (settings_eq : later.settings = scenario.settings)
    (same : List.Forall₂ TrackedFile.Same scenario.table.files
      later.table.files) : later.Built := by
  rw [Built, settings_eq]
  exact TrackedFile.same_trans built same

/-- The first file has the name that it got at the start. -/
theorem exists_first (built : scenario.Built) :
    ∃ file, scenario.table.file? 0 = some file ∧
      file.name = Name.numbered scenario.settings.stem 0 := by
  have some_file : 0 < scenario.settings.table.files.length := by
    rw [Settings.table, Table.numbered, List.length_map,
      List.length_range]
    exact scenario.settings.fileCount_pos
  have same := built.get some_file (built.length_eq ▸ some_file)
  refine ⟨_, List.getElem?_eq_getElem (built.length_eq ▸ some_file),
    same.name_eq.trans ?_⟩
  simp [Settings.table, Table.numbered]

end Built

/-- Ending a scenario keeps its settings and its table. -/
theorem terminate_keeps (scenario : Scenario) :
    scenario.terminate.Ensures fun _ _ result =>
      result.1.settings = scenario.settings ∧
        result.1.table = scenario.table := by
  refine ensures_bind (ensures_reportAll ?_)
  refine ensures_request_bind fun _ => ?_
  refine ensures_bind ((probeAfterExit_silent scenario.table).mono ?_)
  rintro _ _ probe _
  refine ensures_bind (ensures_bind (ensures_reportAll ?_))
  refine ensures_bind (ensures_reportAll (ensures_pure ?_))
  exact ensures_pure ⟨rfl, rfl⟩

/-- A scenario that was built stays so, whatever is done with it. -/
theorem take_built {scenario : Scenario} (built : scenario.Built)
    (turn : Turn) :
    (scenario.take turn).Ensures fun _ _ later => later.Built := by
  have ended : ∀ {last : Scenario}, last.Built →
      (last.take .terminate).Ensures fun _ _ later => later.Built := by
    intro last built
    refine ensures_bind ((terminate_keeps last).mono ?_)
    rintro _ _ ⟨later, _⟩ ⟨settings_eq, table_eq⟩
    refine ensures_pure (built.of_same settings_eq ?_)
    rw [table_eq]
    exact List.forall₂_same.mpr fun file _ => .refl file
  have ran : scenario.run.Ensures fun _ _ later => later.Built := by
    refine (run_ensures (performAll_shapes script scenario)).mono ?_
    rintro _ _ later ⟨settings_eq, same, _⟩
    exact built.of_same settings_eq same
  cases turn with
  | run => exact ran
  | runToExit =>
      refine ensures_bind (ran.mono ?_)
      intro _ _ finished builtToo
      exact ensures_bind (ensures_reportAll (ended builtToo))
  | terminate => exact ended built

theorem takeAll_built {scenario : Scenario} (built : scenario.Built)
    (turns : List Turn) :
    (scenario.takeAll turns).Ensures fun _ _ later => later.Built := by
  induction turns generalizing scenario with
  | nil => exact ensures_pure built
  | cons turn rest ih =>
      refine ensures_bind ((take_built built turn).mono ?_)
      intro _ _ next builtToo
      exact ih builtToo

/-! ## The verdict -/

/-- The code is one only if it may be and a check failed. -/
theorem exitCode_eq (scenario : Scenario) :
    scenario.exitCode =
      if scenario.settings.strict = true ∧
        ∃ check ∈ scenario.report.checks, check.isFailure = true
      then 1 else 0 := by
  have failed : (!scenario.report.isSuccess) = true ↔
      ∃ check ∈ scenario.report.checks, check.isFailure = true := by
    rw [Bool.not_eq_true', ← Bool.not_eq_true, Report.isSuccess_iff, Clean]
    simp only [not_forall, Bool.not_eq_false, exists_prop]
  rw [exitCode]
  simp only [Bool.and_eq_true, failed]

/-- Checks that pass do not change the verdict. -/
theorem exitCode_recording (scenario : Scenario) (title : String)
    {checks : List Check} (clean : Clean checks) :
    (scenario.recording title checks).exitCode = scenario.exitCode := by
  have same : (scenario.report.push ⟨title, checks⟩).isSuccess =
      scenario.report.isSuccess := by
    rw [Bool.eq_iff_iff, Report.isSuccess_push]
    exact and_iff_left clean
  show (if scenario.settings.strict &&
    !(scenario.report.push ⟨title, checks⟩).isSuccess then 1 else 0) = _
  rw [same]
  rfl

/-- How the probe comes out, going by the answer to its call. -/
def probeOutcome : Except CallError Handle → Outcome
  | .error .terminated => .expectedFailure
  | .error _ => .unexpectedFailure
  | .ok _ => .unexpectedSuccess

theorem outcome_probeCheck (name : String)
    (answer : Except CallError Handle) :
    (probeCheck name answer).outcome = probeOutcome answer := by
  cases answer with
  | ok handle => rfl
  | error reason => cases reason <;> rfl

/-- Only the end of the process is a reason that the probe may get. -/
theorem probeOutcome_passes_iff {answer : Except CallError Handle} :
    (probeOutcome answer).isFailure = false ↔
      answer = .error .terminated := by
  cases answer with
  | ok handle => exact iff_of_false nofun nofun
  | error reason => cases reason <;> simp [probeOutcome, Outcome.isFailure]

/-! ## The end -/

/-- What becomes of a scenario that is ended, going by the probe's answer. -/
structure Terminates (scenario : Scenario)
    (answer : Except CallError Handle) (ended : Scenario)
    (probe : Check) : Prop where
  settings_eq : ended.settings = scenario.settings
  table_eq : ended.table = scenario.table
  suites_eq : ended.report.suites =
    scenario.report.suites ++ [⟨"terminate", [probe]⟩]
  outcome_eq : probe.outcome = probeOutcome answer
  passes_iff : probe.isFailure = false ↔ answer = .error .terminated
  /-- A probe that passes leaves the verdict as it was given. -/
  exitCode_eq : probe.isFailure = false → ended.exitCode = scenario.exitCode

section

variable {State : Type} {scenario : Scenario} {file : TrackedFile}

/-- The calls at the end and what comes of them. -/
theorem terminate_run (first : scenario.table.file? 0 = some file)
    (subsystem : Subsystem State) (state : State) :
    let halted := subsystem.respond (.exit scenario.exitCode) state
    let reply := subsystem.respond (.openFile file.path) halted.state
    let probe := probeCheck file.name reply.answer
    let run := scenario.terminate.run subsystem state
    run.ending = .ok (scenario.recording "terminate" [probe], probe) ∧
      run.exchanges = [⟨.exit scenario.exitCode, ()⟩,
        ⟨.openFile file.path, reply.answer⟩] ∧
      run.state = reply.state := by
  intro halted reply probe run
  have probed : probeAfterExit scenario.table = (do
      let answer ← Procedure.request (.openFile file.path)
      return probeCheck file.name answer) := by
    rw [probeAfterExit, first]
  have planned : scenario.terminate = (do
      Procedure.report (.exit scenario.exitCode)
      Procedure.request (.exit scenario.exitCode)
      let answer ← Procedure.request (.openFile file.path)
      let check := probeCheck file.name answer
      let ended ← scenario.record "terminate" [check]
      return (ended, check)) := by
    rw [terminate, probed]
    rfl
  have followed : run = _ := congrArg (Procedure.run subsystem · state)
    planned
  rw [followed]
  exact ⟨rfl, rfl, rfl⟩

/-- Recording the probe is all that is done besides the calls. -/
theorem terminates_recording (scenario : Scenario) (name : String)
    (answer : Except CallError Handle) :
    scenario.Terminates answer
      (scenario.recording "terminate" [probeCheck name answer])
      (probeCheck name answer) where
  settings_eq := rfl
  table_eq := rfl
  suites_eq := rfl
  outcome_eq := outcome_probeCheck name answer
  passes_iff := by
    rw [Check.isFailure, outcome_probeCheck, probeOutcome_passes_iff]
  exitCode_eq := fun passed =>
    exitCode_recording scenario "terminate"
      (List.forall_mem_singleton.mpr passed)

end

/-- A running store ends with the code it is given, and then stays ended. -/
theorem probe_of_alive {store : Store} (alive : store.exitStatus = none)
    (code : Int32) (name : Bytes) :
    let halted := (store.exit code).state
    (halted.openFile name).answer = .error .terminated ∧
      (halted.openFile name).state.exitStatus = some code := by
  intro halted
  have status : halted.exitStatus = some code := by
    simp only [halted, Store.exit, alive]
  have ended := Store.respond_of_ended status (.openFile name)
  have same : (halted.openFile name).state = halted := ended.1
  have refused : Call.failure? (.openFile name)
      (halted.openFile name).answer = some .terminated := by
    apply ended.2
    intro exits
    cases exits
  refine ⟨?_, (congrArg Store.exitStatus same).trans status⟩
  cases answered : (halted.openFile name).answer with
  | ok handle =>
      rw [answered] at refused
      cases refused
  | error reason =>
      rw [answered] at refused
      exact congrArg Except.error (Option.some.inj refused)

/--
However a scenario that was built has come along, its end passes the verdict on
all checks so far to the subsystem, tries to open the first test file, and makes
no other call.  The answer to that is judged and recorded in a suite of its own,
and neither the settings nor a binding changes.  On a store that is running the
probe passes, whatever the settings of the store are; the store keeps the code,
and the verdict afterwards is still the same.  If there is a journal, it is on a
medium that accepts every line: on a full one the lines that wait cannot be
written before the end, and nothing is ended.
-/
theorem terminate_probes_once {scenario : Scenario}
    (built : scenario.Built) :
    let code := scenario.exitCode
    let first := Bytes.ofString (Name.numbered scenario.settings.stem 0)
    (code = if scenario.settings.strict = true ∧
        ∃ check ∈ scenario.report.checks, check.isFailure = true
      then 1 else 0) ∧
      (∀ {State : Type} (subsystem : Subsystem State) (state : State),
        let run := scenario.terminate.run subsystem state
        ∃ answer ended probe, run.ending = .ok (ended, probe) ∧
          run.exchanges =
            [⟨.exit code, ()⟩, ⟨.openFile first, answer⟩] ∧
          scenario.Terminates answer ended probe) ∧
      ∀ store : Store, store.exitStatus = none →
        let run := scenario.terminate.run Store.subsystem store
        ∃ ended probe, run.ending = .ok (ended, probe) ∧
          probe.isFailure = false ∧
          run.state.exitStatus = some code ∧ ended.exitCode = code := by
  intro code first
  rcases built.exists_first with ⟨file, there, name_eq⟩
  refine ⟨scenario.exitCode_eq, ?_, ?_⟩
  · intro State subsystem state run
    rcases terminate_run there subsystem state with
      ⟨ended, exchanges, _⟩
    have named : file.path = first := congrArg Bytes.ofString name_eq
    refine ⟨_, _, _, ended, ?_, scenario.terminates_recording _ _⟩
    rw [← named]
    exact exchanges
  · intro store alive run
    rcases terminate_run there Store.subsystem store with
      ⟨ended, _, state⟩
    rcases probe_of_alive alive code file.path with ⟨refused, status⟩
    have terminates := scenario.terminates_recording file.name
      ((store.exit code).state.openFile file.path).answer
    have passed := terminates.passes_iff.mpr refused
    refine ⟨_, _, ended, passed, ?_, terminates.exitCode_eq passed⟩
    rw [show run.state = _ from state]
    exact status

/--
A strict scenario is run on a store that has no room for the second file, and
then it is ended there.
-/
theorem terminate_probes_once_strict :
    let settings : Settings :=
      { fileCount := 2, bufferLength := 2, strict := true }
    let store := Store.fresh { capacity := some 3 } (.ofSeed 0)
    let done := ((start settings).takeAll [.run]).run Store.subsystem store
    ∃ scenario, done.ending = .ok scenario ∧
      scenario.Built ∧ done.state.exitStatus = none ∧
      let run := scenario.terminate.run Store.subsystem done.state
      ∃ ended probe, run.ending = .ok (ended, probe) ∧
        probe.isFailure = false ∧
        run.state.exitStatus = some 1 ∧ ended.exitCode = 1 := by
  intro settings store done
  rcases (takeAll_steadfast [.run] (start settings)).exists_ended
    Store.honest store with ⟨scenario, returned⟩
  rcases (takeAll_built (Built.start settings) [.run]).of_ended returned
    with ⟨_, built, _⟩
  replace returned : done.ending = .ok scenario := returned
  have alive : done.state.exitStatus = none := by decide +kernel
  have code : scenario.exitCode = 1 := by
    have failed : done.ending.map exitCode = .ok 1 := by decide +kernel
    rw [returned] at failed
    exact Except.ok.inj failed
  refine ⟨scenario, returned, built, alive, ?_⟩
  have ended := (terminate_probes_once built).2.2 done.state alive
  rw [code] at ended
  exact ended

end Scenario

end FileConformance
