import FileConformance.Proofs.Report.Reading
import FileConformance.Proofs.Scenario.Scope
import FileConformance.Proofs.Scenario.Steadfast
import FileConformance.Proofs.Store.Conduct

/-!
# Report, journal and events tell the same story

Each check leaves three traces: it goes into the suite of its step, its line
goes into the journal, and it is reported as an event.  The journal numbers its
lines by a counter of its own.

A caller may run a scenario again and again and end it in between.  Whatever the
subsystem answers, the report then lists the checks that were reported as
events, in their order, and the journal has one line for each of them, numbered
from zero, from which it can be read back.

The journal is on a medium that takes every line: on one without space the
scenario is given up, and what it did is not on record.
-/

namespace FileConformance

open Procedure

/-! ## The checks of a report and of events -/

namespace Report

/-- All checks, each with the title of its suite. -/
def entries (report : Report) : List (String × Check) :=
  report.suites.flatMap fun suite => suite.checks.map (Prod.mk suite.title)

theorem map_snd_entries (report : Report) :
    report.entries.map Prod.snd = report.checks := by
  simp only [entries, checks, List.map_flatMap, List.map_map]
  refine congrArg (List.flatMap · report.suites) (funext fun suite => ?_)
  exact List.map_id _

theorem length_entries (report : Report) :
    report.entries.length = report.checks.length := by
  rw [← map_snd_entries, List.length_map]

theorem entries_push (report : Report) (title : String)
    (checks : List Check) :
    (report.push ⟨title, checks⟩).entries =
      report.entries ++ checks.map (Prod.mk title) := by
  simp [entries, push]

/-- The checks that failed, counted with their titles. -/
theorem length_filter_entries (report : Report) :
    (report.entries.filter fun entry => entry.2.isFailure).length =
      report.failed := by
  rw [failed, ← map_snd_entries, List.countP_map,
    List.countP_eq_length_filter]
  rfl

end Report

namespace Event

/-- The check that an event reports, with the title of its step. -/
def checked? : Event → Option (String × Check)
  | .check title verdict => some (title, verdict)
  | _ => none

theorem filterMap_check (title : String) (checks : List Check) :
    (checks.map (Event.check title)).filterMap checked? =
      checks.map (Prod.mk title) := by
  rw [List.filterMap_map]
  exact congrFun List.filterMap_eq_map' checks

/-- The totals report no check. -/
theorem filterMap_summaries (report : Report) :
    (summaries report).filterMap checked? = [] := by
  rw [List.filterMap_eq_nil_iff]
  intro event member
  rcases List.mem_append.mp member with inSuites | last
  · rcases List.mem_map.mp inSuites with ⟨suite, _, rfl⟩
    rfl
  · rw [List.mem_singleton.mp last]
    rfl

/-- An event is a warning exactly if it reports a failing check. -/
theorem level_eq_warn_iff (event : Event) :
    event.level = .warn ↔
      ∃ title check, event = .check title check ∧
        check.isFailure = true := by
  constructor
  · intro warns
    cases event with
    | check title verdict =>
        refine ⟨title, verdict, rfl, ?_⟩
        cases failing : verdict.isFailure with
        | true => rfl
        | false => simp [level, failing] at warns
    | call event => cases event <;> cases warns
    | _ => cases warns
  · rintro ⟨title, check, rfl, failing⟩
    simp [level, failing]

/-- The warnings are the failing checks that were reported, in their order. -/
theorem filter_warnings (events : List Event) :
    events.filter (fun event => event.level = .warn) =
      ((events.filterMap checked?).filter fun entry =>
        entry.2.isFailure).map fun entry => .check entry.1 entry.2 := by
  induction events with
  | nil => rfl
  | cons event rest ih =>
      have warns := level_eq_warn_iff event
      rw [List.filter_cons, List.filterMap_cons, ih]
      cases event with
      | check title verdict =>
          cases failing : verdict.isFailure <;>
            simp [checked?, level, failing]
      | call event => cases event <;> simp [checked?, level, CallEvent.level]
      | _ => simp [checked?, level]

end Event

/-- The lines of a step, as lines of checks with their title. -/
theorem Journal.lines_eq (position : Nat) (title : String)
    (checks : List Check) :
    lines position title checks =
      (checks.map (Prod.mk title)).mapIdx fun offset entry =>
        line (offset + position) entry.1 entry.2 := by
  rw [lines, List.mapIdx_eq_iff]
  intro offset
  rw [List.getElem?_mapIdx, List.getElem?_map, Option.map_map,
    Nat.add_comm]
  rfl

/-! ## What recording does -/

namespace Scenario

/-- The journal has a line for each check of the report, in their order. -/
structure Recounts (scenario : Scenario) : Prop where
  recorded_eq : scenario.recorded = scenario.report.entries.length
  journal_eq : scenario.settings.journal = true →
    scenario.journal = scenario.report.entries.mapIdx fun position entry =>
      Journal.line position entry.1 entry.2

theorem Recounts.start (settings : Settings) :
    (Scenario.start settings).Recounts where
  recorded_eq := rfl
  journal_eq := fun _ => rfl

theorem Recounts.recording {scenario : Scenario}
    (recounts : scenario.Recounts) (title : String)
    (checks : List Check) : (scenario.recording title checks).Recounts where
  recorded_eq := by
    dsimp only [Scenario.recording]
    rw [Report.entries_push, List.length_append, List.length_map,
      recounts.recorded_eq]
  journal_eq := by
    intro journalled
    replace journalled : scenario.settings.journal = true := journalled
    dsimp only [Scenario.recording]
    rw [if_pos journalled, Report.entries_push, List.mapIdx_append,
      recounts.journal_eq journalled, Journal.lines_eq,
      recounts.recorded_eq]

/-- From one scenario to a later one, events tell which checks were added. -/
structure Tells (scenario : Scenario) (events : List Event)
    (later : Scenario) : Prop where
  settings_eq : later.settings = scenario.settings
  entries_eq : later.report.entries =
    scenario.report.entries ++ events.filterMap Event.checked?
  recounts : scenario.Recounts → later.Recounts

namespace Tells

variable {scenario middle later : Scenario} {events more : List Event}

/-- Without a check nothing is added. -/
theorem refl (scenario : Scenario)
    (silent : events.filterMap Event.checked? = []) :
    scenario.Tells events scenario where
  settings_eq := rfl
  entries_eq := by rw [silent, List.append_nil]
  recounts := id

theorem trans (first : scenario.Tells events middle)
    (second : middle.Tells more later) :
    scenario.Tells (events ++ more) later where
  settings_eq := second.settings_eq.trans first.settings_eq
  entries_eq := by
    rw [second.entries_eq, first.entries_eq, List.filterMap_append,
      List.append_assoc]
  recounts := second.recounts ∘ first.recounts

/-- A procedure that tells, followed by one that goes on telling. -/
theorem bind {Result : Type} {procedure : Procedure Result}
    {continuation : Result → Procedure Scenario}
    {reached : Result → Scenario}
    (first : procedure.Ensures fun _ events result =>
      scenario.Tells events (reached result))
    (second : ∀ result, (continuation result).Ensures
      fun _ events later => (reached result).Tells events later) :
    (procedure >>= continuation).Ensures fun _ events later =>
      scenario.Tells events later := by
  refine ensures_bind (first.mono fun _ _ result tells => ?_)
  exact (second result).mono fun _ _ _ tellsToo => tells.trans tellsToo

/-- Silent work changes nothing that is told. -/
theorem silent {Result : Type} {names : List Bytes}
    {described : Result → Prop} {procedure : Procedure Result}
    (keeps : procedure.KeepsTo names described) (scenario : Scenario) :
    procedure.Ensures fun _ events _ => scenario.Tells events scenario := by
  refine Ensures.mono keeps ?_
  rintro _ events _ ⟨_, rfl, _⟩
  exact refl scenario rfl

/-- The table has no part in what is told. -/
theorem withTable {table : Table}
    (tells : { scenario with table }.Tells events later) :
    scenario.Tells events later where
  settings_eq := tells.settings_eq
  entries_eq := tells.entries_eq
  recounts := fun recounts =>
    tells.recounts ⟨recounts.recorded_eq, recounts.journal_eq⟩

end Tells

/-- Recording checks tells of them. -/
theorem record_tells (scenario : Scenario) (title : String)
    (checks : List Check) :
    (scenario.record title checks).Ensures fun _ events later =>
      scenario.Tells events later := by
  refine ensures_bind (ensures_reportAll (ensures_bind
    (ensures_reportAll (ensures_pure ?_))))
  refine ⟨rfl, ?_, fun recounts => recounts.recording title checks⟩
  dsimp only [recording]
  rw [Report.entries_push, List.append_nil, List.filterMap_append,
    Event.filterMap_check]
  rfl

/-! ## Steps and turns -/

theorem perform_tells (scenario : Scenario) (titled : TitledStep) :
    (scenario.perform titled).Ensures fun _ events later =>
      scenario.Tells events later := by
  refine Tells.bind (Tells.silent
    (titled.step.perform_keepsTo _ scenario.table) scenario) ?_
  rintro ⟨checks, table⟩
  exact (record_tells _ titled.title checks).mono
    fun _ _ _ tells => tells.withTable

theorem performAll_tells (steps : List TitledStep) (scenario : Scenario) :
    (scenario.performAll steps).Ensures fun _ events later =>
      scenario.Tells events later := by
  induction steps generalizing scenario with
  | nil => exact ensures_pure (.refl scenario rfl)
  | cons titled rest ih =>
      exact Tells.bind (scenario.perform_tells titled) ih

theorem run_tells (scenario : Scenario) :
    scenario.run.Ensures fun _ events later =>
      scenario.Tells events later :=
  Tells.bind (ensures_reportAll (.refl scenario rfl))
    fun _ => performAll_tells script scenario

/-- What a caller can do with a scenario. -/
inductive Turn where
  | run
  | runToExit
  | terminate
deriving DecidableEq

/-- Do one thing with a scenario. -/
def take (scenario : Scenario) : Turn → Procedure Scenario
  | .run => scenario.run
  | .runToExit => scenario.runToExit
  | .terminate => do
      let (ended, _) ← scenario.terminate
      return ended

/-- Do several things with a scenario, one after the other. -/
def takeAll (scenario : Scenario) : List Turn → Procedure Scenario
  | [] => return scenario
  | turn :: rest => do
      let next ← scenario.take turn
      next.takeAll rest

theorem record_steadfast (scenario : Scenario) (title : String)
    (checks : List Check) : (scenario.record title checks).Steadfast := by
  apply (steadfast_reportAll _).bind
  intro _
  apply (steadfast_reportAll _).bind
  intro _
  exact steadfast_pure _

theorem probeAfterExit_steadfast (table : Table) :
    (probeAfterExit table).Steadfast := by
  unfold probeAfterExit
  split
  · exact steadfast_pure _
  · exact steadfast_request_bind fun _ _ => steadfast_pure _

/-- The probe after the end makes a call and reports nothing itself. -/
theorem probeAfterExit_silent (table : Table) :
    (probeAfterExit table).Ensures fun _ events _ => events = [] := by
  unfold probeAfterExit
  split
  · exact ensures_pure rfl
  · exact ensures_request_bind fun _ => ensures_pure rfl

theorem terminate_steadfast (scenario : Scenario) :
    scenario.terminate.Steadfast := by
  apply (steadfast_reportAll _).bind
  intro _
  apply steadfast_request_bind
  intro _ _
  apply (probeAfterExit_steadfast _).bind
  intro probe
  apply (record_steadfast _ _ _).bind
  intro _
  exact steadfast_pure _

theorem terminate_tells (scenario : Scenario) :
    scenario.terminate.Ensures fun _ events result =>
      scenario.Tells events result.1 := by
  refine ensures_bind (ensures_reportAll ?_)
  refine ensures_request_bind fun _ => ?_
  refine ensures_bind ((probeAfterExit_silent scenario.table).mono ?_)
  rintro _ _ probe rfl
  refine ensures_bind ((record_tells scenario "terminate" [probe]).mono ?_)
  intro _ events ended tells
  refine ensures_pure ?_
  rw [List.nil_append, List.append_nil]
  exact Tells.trans (.refl scenario rfl) tells

theorem take_steadfast (scenario : Scenario) (turn : Turn) :
    (scenario.take turn).Steadfast := by
  cases turn with
  | run => exact scenario.run_steadfast
  | runToExit =>
      apply scenario.run_steadfast.bind
      intro finished
      apply (steadfast_reportAll _).bind
      intro _
      exact (terminate_steadfast _).bind fun _ => steadfast_pure _
  | terminate =>
      exact (terminate_steadfast _).bind fun _ => steadfast_pure _

theorem take_tells (scenario : Scenario) (turn : Turn) :
    (scenario.take turn).Ensures fun _ events later =>
      scenario.Tells events later := by
  have ended : ∀ last : Scenario, (last.take .terminate).Ensures
      fun _ events later => last.Tells events later := by
    intro last
    refine Tells.bind last.terminate_tells fun result => ?_
    exact ensures_pure (.refl result.1 rfl)
  cases turn with
  | run => exact scenario.run_tells
  | runToExit =>
      refine Tells.bind scenario.run_tells fun finished => ?_
      refine Tells.bind (ensures_reportAll (.refl finished ?_))
        fun _ => ended finished
      exact Event.filterMap_summaries finished.report
  | terminate => exact ended scenario

theorem takeAll_steadfast (turns : List Turn) (scenario : Scenario) :
    (scenario.takeAll turns).Steadfast := by
  induction turns generalizing scenario with
  | nil => exact steadfast_pure scenario
  | cons turn rest ih => exact (scenario.take_steadfast turn).bind ih

theorem takeAll_tells (turns : List Turn) (scenario : Scenario) :
    (scenario.takeAll turns).Ensures fun _ events later =>
      scenario.Tells events later := by
  induction turns generalizing scenario with
  | nil => exact ensures_pure (.refl scenario rfl)
  | cons turn rest ih => exact Tells.bind (scenario.take_tells turn) ih

/-- What the journal has to tell about a report, line by line. -/
def accounts (scenario : Scenario) : List Journal.Entry :=
  scenario.report.entries.mapIdx fun position entry =>
    ⟨position, entry.1, entry.2⟩

theorem Recounts.journal_eq_map {scenario : Scenario}
    (recounts : scenario.Recounts)
    (journalled : scenario.settings.journal = true) :
    scenario.journal = scenario.accounts.map fun entry =>
      Journal.line entry.position entry.title entry.check := by
  rw [recounts.journal_eq journalled, accounts, List.mapIdx_eq_iff]
  intro position
  rw [List.getElem?_map, List.getElem?_mapIdx, Option.map_map]
  rfl

/--
However often a scenario is run and ended, with its journal on a medium that
takes every line: its turns return, and report, journal and events tell the same
story.  The journal is one line for each check of the report, in the report's
order.  Each line is valid JSON that is read in one way only, as the check with
its place in the whole report and the title of its suite.  No line is broken, so
cutting the journal at line ends gives back the lines.  The checks were reported
as events in the same order, those that failed as warnings and no other event as
one.
-/
theorem records_agree {State : Type} {subsystem : Subsystem State}
    (honest : subsystem.Honest) {settings : Settings}
    (journalled : settings.journal = true) (turns : List Turn)
    (state : State) :
    let done := (((start settings).takeAll turns).journalledOn
      .spacious).run subsystem state
    ∃ (ended : Scenario) (lines : List String), done.ending = .ok ended ∧
      let entries := ended.report.entries
      let warnings := done.events.filter fun event => event.level = .warn
      ended.journalText.toList =
          lines.flatMap (fun line => line.toList ++ ['\n']) ∧
        List.Forall₂ Journal.Entry.ToldBy
          (entries.mapIdx fun position entry =>
            ⟨position, entry.1, entry.2⟩) lines ∧
        (∀ line ∈ lines, '\n' ∉ line.toList ∧ '\r' ∉ line.toList) ∧
        ended.journalText.toList.splitOn '\n' =
          lines.map String.toList ++ [[]] ∧
        lines.length = ended.report.checks.length ∧
        done.events.filterMap Event.checked? = entries ∧
        warnings = (entries.filter fun entry => entry.2.isFailure).map
          (fun entry => .check entry.1 entry.2) ∧
        warnings.length = ended.report.failed := by
  intro done
  rcases (takeAll_steadfast turns (start settings)).exists_ended honest
    state with ⟨ended, returned⟩
  rcases (takeAll_tells turns (start settings)).of_ended returned with
    ⟨own, tells, seen⟩
  have told : done.events.filterMap Event.checked? = ended.report.entries :=
    (seen Event.checked? fun _ => rfl).trans tells.entries_eq.symm
  have kept : ended.settings.journal = true := by
    rw [tells.settings_eq]
    exact journalled
  have written :=
    (tells.recounts (Recounts.start settings)).journal_eq_map kept
  refine ⟨ended, ended.journal, returned, ?_⟩
  intro entries warnings
  have printable : ∀ line ∈ ended.journal, Json.Printable line.toList := by
    intro line member
    rw [written] at member
    rcases List.mem_map.mp member with ⟨entry, _, rfl⟩
    exact Journal.printable_line _ _ _
  have warned : warnings =
      (entries.filter fun entry => entry.2.isFailure).map
        (fun entry => .check entry.1 entry.2) := by
    have reported := Event.filter_warnings done.events
    rw [told] at reported
    exact reported
  refine ⟨Journal.toList_text _, ?_, fun line member => ⟨?_, ?_⟩,
    Journal.splitOn_text printable, ?_, told, warned, ?_⟩
  · show List.Forall₂ _ ended.accounts _
    rw [written, List.forall₂_map_right_iff, List.forall₂_same]
    exact fun entry _ => Journal.line_toldBy _ _ _
  · exact fun broken =>
      absurd (printable line member '\n' broken) (by decide)
  · exact fun broken =>
      absurd (printable line member '\r' broken) (by decide)
  · rw [written, List.length_map, accounts, List.length_mapIdx]
    exact ended.report.length_entries
  · rw [warned, List.length_map]
    exact ended.report.length_filter_entries

/--
A scenario is run on a store without space, run again, and ended twice.  The
last of the lines in its journal tells of the second end.
-/
theorem records_agree_two_runs :
    let settings : Settings :=
      { fileCount := 1, bufferLength := 2, journal := true }
    let store := Store.fresh { capacity := some 1 } (.ofSeed 0)
    let done := (((start settings).takeAll
      [.run, .runToExit, .terminate]).journalledOn .spacious).run
        Store.subsystem store
    Store.subsystem.Honest ∧ settings.journal = true ∧
      ∃ (ended : Scenario) (lines : List String) (last : String),
        done.ending = .ok ended ∧ ended.report.failed = 2 ∧
          (done.events.filter fun event => event.level = .warn).length = 2 ∧
          ended.journalText.toList =
            lines.flatMap (fun line => line.toList ++ ['\n']) ∧
          lines.length = 44 ∧ lines[43]? = some last ∧
          Journal.Entry.ToldBy
            ⟨43, "terminate", probeCheck "file0" (.error .terminated)⟩
            last := by
  intro settings store done
  have journalled : settings.journal = true := rfl
  rcases records_agree Store.honest journalled
    [.run, .runToExit, .terminate] store with
    ⟨ended, lines, returned, text_eq, told, _, _, _, _, _, warnings⟩
  replace returned : done.ending = .ok ended := returned
  have counted : done.ending.map (fun ended =>
      (ended.report.failed, ended.accounts.length, ended.accounts[43]?)) =
      .ok (2, 44, some ⟨43, "terminate",
        probeCheck "file0" (.error .terminated)⟩) := by
    decide +kernel
  rw [returned] at counted
  simp only [Except.map, Except.ok.injEq, Prod.mk.injEq] at counted
  rcases counted with ⟨failed, length, last⟩
  replace told : List.Forall₂ Journal.Entry.ToldBy ended.accounts lines :=
    told
  have whole : lines.length = 44 := told.length_eq.symm.trans length
  have within : 43 < lines.length := by omega
  rcases List.getElem?_eq_some_iff.mp last with ⟨accounted, same⟩
  refine ⟨Store.honest, journalled, ended, lines, lines[43], returned, failed,
    warnings.trans failed, text_eq, whole, List.getElem?_eq_getElem within,
    ?_⟩
  rw [← same]
  exact told.get accounted within

end Scenario

end FileConformance
