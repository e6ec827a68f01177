import FileConformance.Proofs.Ideal.Steps
import FileConformance.Proofs.Scenario.Scripts

/-!
# By which exchanges a script passes

A failed check never stops a script, and none is taken back.  So a script leaves
a success if and only if it left one before and each of its steps passes, and it
passes by the exchanges of its steps, one after the other.
-/

namespace FileConformance

/-! ## Probes -/

/-- What a probing call gives if it succeeds. -/
def BoundaryCall.Value : BoundaryCall → Type
  | .create => Handle
  | .openFile => Handle
  | .delete => Unit

/-- A probing call with its answer. -/
def BoundaryCall.exchange : (call : BoundaryCall) → Bytes →
    Except CallError call.Value → Exchange
  | .create, name, answer => ⟨.create name, answer⟩
  | .openFile, name, answer => ⟨.openFile name, answer⟩
  | .delete, name, answer => ⟨.delete name, answer⟩

/-- One thing for each probing call. -/
def BoundaryCall.each {Thing : BoundaryCall → Type}
    (create : Thing .create) (openFile : Thing .openFile)
    (delete : Thing .delete) : (call : BoundaryCall) → Thing call
  | .create => create
  | .openFile => openFile
  | .delete => delete

namespace Boundary

variable {call : BoundaryCall} {name : Bytes} {exchanges : List Exchange}

/-- A check that covers a call as the expectation says. -/
theorem isFailure_check {Value : Type} {operation : Operation}
    {expectation : Expectation} {handle : Option Handle}
    {answer : Except CallError Value} :
    (check operation name expectation handle answer).isFailure =
      (Outcome.classify expectation answer.isOk).isFailure := by
  cases answer <;> rfl

theorem one_call_passes_iff {request : Call}
    {check : request.Answer → Check} :
    (∃ made, (Procedure.request request >>= fun answer =>
        pure (check answer)).Reaches exchanges made ∧
          made.isFailure = false) ↔
      ∃ answer, exchanges = [⟨request, answer⟩] ∧
        (check answer).isFailure = false := by
  rw [exists_congr fun made =>
    and_congr_left' Procedure.reaches_one_call_iff]
  constructor
  · rintro ⟨_, ⟨answer, rfl, rfl⟩, passed⟩
    exact ⟨answer, rfl, passed⟩
  · rintro ⟨answer, rfl, passed⟩
    exact ⟨check answer, ⟨answer, rfl, rfl⟩, passed⟩

/-- A probe makes one call, which its check covers. -/
theorem probe_passes_iff {expectation : Expectation} :
    (∃ made, (probe call name expectation).Reaches exchanges made ∧
        made.isFailure = false) ↔
      ∃ answer, exchanges = [call.exchange name answer] ∧
        (Outcome.classify expectation answer.isOk).isFailure = false := by
  cases call with
  | create =>
      refine one_call_passes_iff.trans ?_
      simp only [isFailure_check]
      rfl
  | openFile =>
      refine one_call_passes_iff.trans ?_
      simp only [isFailure_check]
      rfl
  | delete =>
      refine one_call_passes_iff.trans ?_
      simp only [isFailure_check]
      rfl

theorem probe_passes_success_iff :
    (∃ check, (probe call name .success).Reaches exchanges check ∧
        check.isFailure = false) ↔
      ∃ value, exchanges = [call.exchange name (.ok value)] := by
  rw [probe_passes_iff]
  constructor
  · rintro ⟨answer, rfl, passed⟩
    cases answer with
    | error reason => cases passed
    | ok value => exact ⟨value, rfl⟩
  · rintro ⟨value, rfl⟩
    exact ⟨.ok value, rfl, rfl⟩

theorem probe_passes_failure_iff :
    (∃ check, (probe call name .failure).Reaches exchanges check ∧
        check.isFailure = false) ↔
      ∃ reason, exchanges = [call.exchange name (.error reason)] := by
  rw [probe_passes_iff]
  constructor
  · rintro ⟨answer, rfl, passed⟩
    cases answer with
    | error reason => exact ⟨reason, rfl⟩
    | ok value => cases passed
  · rintro ⟨reason, rfl⟩
    exact ⟨.error reason, rfl, rfl⟩

end Boundary

/-- A step that probes a limit accepts one name and refuses the other. -/
theorem Step.boundary_passesBy_iff {limit : NameLimit}
    {call : BoundaryCall} {table later : Table}
    {exchanges : List Exchange} :
    (Step.boundary call).PassesBy limit table exchanges later ↔
      ∃ value reason, exchanges = [
          call.exchange limit.longestAccepted (.ok value),
          call.exchange limit.shortestRejected (.error reason)] ∧
        later = table := by
  have accepted := fun exchanges => @Boundary.probe_passes_success_iff call
    limit.longestAccepted exchanges
  have rejected := fun exchanges => @Boundary.probe_passes_failure_iff call
    limit.shortestRejected exchanges
  simp only [PassesBy, perform, Boundary.checks,
    Procedure.reaches_bind_iff, Procedure.reaches_pure_iff]
  constructor
  · rintro ⟨checks, ⟨_, _, _, rfl, ⟨_, first, _, rfl, begun, _, second, _,
      rfl, ended, rfl, rfl⟩, rfl, same⟩, clean⟩
    cases same
    rw [Clean, List.forall_mem_cons, List.forall_mem_singleton] at clean
    rcases (accepted _).mp ⟨first, begun, clean.1⟩ with ⟨value, rfl⟩
    rcases (rejected _).mp ⟨second, ended, clean.2⟩ with ⟨reason, rfl⟩
    exact ⟨value, reason, rfl, rfl⟩
  · rintro ⟨value, reason, rfl, rfl⟩
    rcases (accepted _).mpr ⟨value, rfl⟩ with ⟨first, begun, passed⟩
    rcases (rejected _).mpr ⟨reason, rfl⟩ with ⟨second, ended, passedToo⟩
    refine ⟨[first, second], ⟨_, _, [], rfl, ⟨_, first, _, rfl, begun, _,
      second, [], rfl, ended, rfl, rfl⟩, rfl, rfl⟩, ?_⟩
    rw [Clean, List.forall_mem_cons, List.forall_mem_singleton]
    exact ⟨passed, passedToo⟩

/-! ## Scripts -/

/-- Steps pass by exchanges, one after the other. -/
def Step.AllPassBy (limit : NameLimit) :
    List Step → Table → List Exchange → Prop
  | [], _, exchanges => exchanges = []
  | step :: rest, table, exchanges =>
      ∃ first later second, exchanges = first ++ second ∧
        step.PassesBy limit table first later ∧
          AllPassBy limit rest later second

namespace Step

variable {limit : NameLimit} {step : Step} {rest : List Step}
  {table : Table} {exchanges : List Exchange}

/-- A first step that passes up to a choice leaves the others to pass. -/
theorem allPassBy_cons_iff {Choice : Type}
    {calls : Choice → List Exchange} {after : Choice → Table}
    (passes : ∀ exchanges later,
      step.PassesBy limit table exchanges later ↔
        ∃ choice, exchanges = calls choice ∧ later = after choice) :
    AllPassBy limit (step :: rest) table exchanges ↔
      ∃ choice second, exchanges = calls choice ++ second ∧
        AllPassBy limit rest (after choice) second := by
  constructor
  · rintro ⟨first, later, second, rfl, passed, others⟩
    rcases (passes first later).mp passed with ⟨choice, rfl, rfl⟩
    exact ⟨choice, second, rfl, others⟩
  · rintro ⟨choice, second, rfl, others⟩
    exact ⟨_, _, second, rfl, (passes _ _).mpr ⟨choice, rfl, rfl⟩, others⟩

/-- A first step that passes in one way only leaves the others to pass. -/
theorem allPassBy_cons_iff_fixed {calls : List Exchange} {after : Table}
    (passes : ∀ exchanges later,
      step.PassesBy limit table exchanges later ↔
        exchanges = calls ∧ later = after) :
    AllPassBy limit (step :: rest) table exchanges ↔
      ∃ second, exchanges = calls ++ second ∧
        AllPassBy limit rest after second := by
  constructor
  · rintro ⟨first, later, second, rfl, passed, others⟩
    rcases (passes first later).mp passed with ⟨rfl, rfl⟩
    exact ⟨second, rfl, others⟩
  · rintro ⟨second, rfl, others⟩
    exact ⟨_, _, second, rfl, (passes _ _).mpr ⟨rfl, rfl⟩, others⟩

end Step

namespace Scenario

variable {exchanges : List Exchange} {scenario : Scenario}

/-- A step of a script is done, and its checks are recorded. -/
theorem perform_reaches_iff {titled : TitledStep} {next : Scenario} :
    (scenario.perform titled).Reaches exchanges next ↔
      ∃ checks later,
        (titled.step.perform scenario.settings.nameLimit
            scenario.table).Reaches exchanges (checks, later) ∧
          next = { scenario with table := later }.recording titled.title
            checks := by
  rw [perform, Procedure.reaches_bind_iff]
  simp only [record, Procedure.report,
    Procedure.reaches_reportAll_bind_iff, Procedure.reaches_pure_iff]
  constructor
  · rintro ⟨first, ⟨checks, later⟩, _, rfl, reached, rfl, rfl⟩
    rw [List.append_nil]
    exact ⟨checks, later, reached, rfl⟩
  · rintro ⟨checks, later, reached, rfl⟩
    exact ⟨exchanges, (checks, later), [],
      (List.append_nil exchanges).symm, reached, rfl, rfl⟩

/-- A step leaves a success if it passes and there was one before. -/
theorem isSuccess_recording {title : String} {checks : List Check} :
    (scenario.recording title checks).report.isSuccess = true ↔
      scenario.report.isSuccess = true ∧ Clean checks :=
  Report.isSuccess_push scenario.report title checks

/-- A script leaves a success if there was one and all its steps pass. -/
theorem performAll_passes_iff {steps : List TitledStep} :
    (∃ finished, (scenario.performAll steps).Reaches exchanges finished ∧
        finished.report.isSuccess = true) ↔
      scenario.report.isSuccess = true ∧
        Step.AllPassBy scenario.settings.nameLimit
          (steps.map TitledStep.step) scenario.table exchanges := by
  induction steps generalizing scenario exchanges with
  | nil =>
      simp only [performAll, Procedure.reaches_pure_iff]
      constructor
      · rintro ⟨_, ⟨rfl, rfl⟩, passed⟩
        exact ⟨passed, rfl⟩
      · rintro ⟨passed, rfl⟩
        exact ⟨scenario, ⟨rfl, rfl⟩, passed⟩
  | cons titled rest ih =>
      simp only [performAll, Procedure.reaches_bind_iff,
        perform_reaches_iff]
      constructor
      · rintro ⟨finished, ⟨first, _, second, rfl, ⟨checks, later, begun,
          rfl⟩, ended⟩, passed⟩
        -- A success at the end was one after the first step already.
        rcases ih.mp ⟨finished, ended, passed⟩ with ⟨passedFirst, rests⟩
        rcases isSuccess_recording.mp passedFirst with ⟨before, clean⟩
        exact ⟨before, first, later, second, rfl, ⟨checks, begun, clean⟩,
          rests⟩
      · rintro ⟨before, first, later, second, rfl, ⟨checks, begun, clean⟩,
          rests⟩
        have passedFirst :
            ({ scenario with table := later }.recording titled.title
              checks).report.isSuccess = true :=
          isSuccess_recording.mpr ⟨before, clean⟩
        rcases ih.mpr ⟨passedFirst, rests⟩ with ⟨finished, ended, passed⟩
        exact ⟨finished, ⟨first, _, second, rfl, ⟨checks, later, begun,
          rfl⟩, ended⟩, passed⟩

end Scenario

end FileConformance
