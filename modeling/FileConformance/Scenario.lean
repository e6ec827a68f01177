import FileConformance.Journal
import FileConformance.Settings
import FileConformance.Step

/-!
# Scenarios

A scenario takes a subsystem through a fixed script.  First every file makes a
round trip.  Then handles are created, reopened and closed in every order that
a table of descriptors has to survive, including a second close and an open
after the delete, which must fail.  Last come the names on either side of the
limit.  A failed check never stops the script.

Terminating goes through the subsystem as well.  Afterwards one more call is
made, and it must be refused because the process has ended.

Each step becomes a suite of the report; its checks are reported as events and
journalled in the same order.  A scenario by itself takes it that the journal is
on a medium that accepts every line; on one without space it is given up, by
`Procedure.journalledOn`.
-/

namespace FileConformance

/-- A scenario between two steps. -/
structure Scenario where
  settings : Settings
  table : Table
  report : Report
  /-- How many checks were recorded so far. -/
  recorded : Nat
  /-- The lines of the journal, oldest first. -/
  journal : List String

namespace Scenario

/-- A scenario that has not begun. -/
def start (settings : Settings) : Scenario where
  settings := settings
  table := settings.table
  report := .empty
  recorded := 0
  journal := []

/-! ## Recording -/

/-- The text of the journal, each of its lines ended. -/
def journalText (scenario : Scenario) : String :=
  Journal.text scenario.journal

/-- The scenario with the checks of one more step. -/
def recording (scenario : Scenario) (title : String)
    (checks : List Check) : Scenario :=
  { scenario with
    report := scenario.report.push { title, checks }
    recorded := scenario.recorded + checks.length
    journal :=
      if scenario.settings.journal then
        scenario.journal ++ Journal.lines scenario.recorded title checks
      else scenario.journal }

/--
Report and record the checks of a step.  If there is a journal, it accepts their
lines.
-/
def record (scenario : Scenario) (title : String) (checks : List Check) :
    Procedure Scenario := do
  Procedure.report (.step title)
  Procedure.reportAll (checks.map (.check title))
  return scenario.recording title checks

/-! ## The script -/

/-- A step of the script with the title of its suite. -/
structure TitledStep where
  title : String
  step : Step

/-- The round trip of every file, and its clean-up. -/
def roundTripSteps : List TitledStep :=
  [⟨"round trip / create-all", .bulk .create .success⟩,
    ⟨"round trip / round-trip-all", .roundTrip⟩,
    ⟨"round trip / delete-all", .bulk .delete .success⟩,
    ⟨"round trip / close-all", .bulk .close .success⟩]

/-- What a table of descriptors has to survive. -/
def descriptorSteps : List TitledStep :=
  [⟨"descriptor table / create-all", .bulk .create .success⟩,
    ⟨"descriptor table / open-all", .bulk .openFile .success⟩,
    ⟨"descriptor table / close-all", .bulk .close .success⟩,
    ⟨"descriptor table / reopen-all", .bulk .openFile .success⟩,
    ⟨"descriptor table / close-all (after reopen)", .bulk .close .success⟩,
    ⟨"descriptor table / close-all (double close)", .bulk .close .failure⟩,
    ⟨"descriptor table / delete-all", .bulk .delete .success⟩,
    ⟨"descriptor table / open-all (after delete)", .bulk .openFile .failure⟩,
    ⟨"descriptor table / create-all (after delete)",
      .bulk .create .success⟩,
    ⟨"descriptor table / delete-all (cleanup)", .bulk .delete .success⟩,
    ⟨"descriptor table / close-all (cleanup)", .bulk .close .success⟩]

/-- The names on either side of the limit. -/
def boundarySteps : List TitledStep :=
  [⟨"boundary / create", .boundary .create⟩,
    ⟨"boundary / open", .boundary .openFile⟩,
    ⟨"boundary / delete", .boundary .delete⟩]

/-- The whole script. -/
def script : List TitledStep :=
  roundTripSteps ++ descriptorSteps ++ boundarySteps

/-- Do one step of the script and record it. -/
def perform (scenario : Scenario) (titled : TitledStep) :
    Procedure Scenario := do
  let (checks, table) ←
    titled.step.perform scenario.settings.nameLimit scenario.table
  { scenario with table }.record titled.title checks

/-- Do the steps of a script in order. -/
def performAll (scenario : Scenario) : List TitledStep → Procedure Scenario
  | [] => return scenario
  | titled :: rest => do
      let next ← scenario.perform titled
      next.performAll rest

/--
Do the whole script once, from whatever state the table is in, with a journal
that accepts every line.  On a full medium the run is given up instead.
-/
def run (scenario : Scenario) : Procedure Scenario := do
  Procedure.report (.start scenario.table.files.length
    scenario.table.bufferLength scenario.settings.nameLimit.bytes
    scenario.settings.journal)
  scenario.performAll script

/-! ## The end -/

/-- One if the scenario is strict and a check failed, else zero. -/
def exitCode (scenario : Scenario) : Int32 :=
  if scenario.settings.strict && !scenario.report.isSuccess then 1 else 0

/-- The verdict on a call made after the process has ended. -/
def probeCheck (name : String) (answer : Except CallError Handle) : Check :=
  let check : Check :=
    .ofAnswer .exit name .failure answer.toOption answer
  match answer with
  | .error .terminated => check
  | .error _ =>
      { check with
        outcome := .unexpectedFailure
        detail := some "calls after exit must report termination" }
  | .ok _ => check.withDetail "process did not terminate"

/-- Open the first file after the process has ended. -/
def probeAfterExit (table : Table) : Procedure Check :=
  match table.file? 0 with
  | none =>
      return .notIssued .exit "" .failure "no file to probe"
  | some file => do
      let answer ← Procedure.request (.openFile file.path)
      return probeCheck file.name answer

/--
End through the subsystem, and check that it has ended.  The journal, if there
is one, has accepted every line so far and accepts the one of the probe.
-/
def terminate (scenario : Scenario) : Procedure (Scenario × Check) := do
  Procedure.report (.exit scenario.exitCode)
  Procedure.request (.exit scenario.exitCode)
  let probe ← probeAfterExit scenario.table
  let ended ← scenario.record "terminate" [probe]
  return (ended, probe)

/-- Do the script, report the totals and end. -/
def runToExit (scenario : Scenario) : Procedure Scenario := do
  let finished ← scenario.run
  Procedure.reportAll (Event.summaries finished.report)
  let (ended, _) ← finished.terminate
  return ended

end Scenario

end FileConformance
