import FileConformance.Proofs.Procedure.Steadfast
import FileConformance.Scenario

/-!
# A scenario never gives up

The only reason to give up is a read that claims more bytes than the buffer
takes.  So no visit, no step and no script ever gives up on an honest subsystem,
whatever state the table is in and whatever fails.
-/

namespace FileConformance

open Procedure

/-! ## Visits -/

namespace Bulk

theorem close_steadfast (expectation : Expectation) (file : TrackedFile) :
    (close expectation file).Steadfast := by
  unfold close
  split
  · exact steadfast_request_bind fun _ _ => steadfast_pure _
  · exact steadfast_request_bind fun _ _ => steadfast_pure _
  · exact steadfast_pure _

theorem visit_steadfast (call : BulkCall) (expectation : Expectation)
    (file : TrackedFile) : (visit call expectation file).Steadfast := by
  cases call with
  | create => exact steadfast_request_bind fun _ _ => steadfast_pure _
  | openFile => exact steadfast_request_bind fun _ _ => steadfast_pure _
  | close => exact close_steadfast expectation file
  | delete => exact steadfast_request_bind fun _ _ => steadfast_pure _

end Bulk

namespace RoundTrip

variable {file : TrackedFile} {handle : Handle} {expected : Bytes}

theorem readBack_steadfast :
    (readBack expected file handle).Steadfast := by
  apply steadfast_request_bind
  intro received honest
  split
  · exact steadfast_pure _
  · rename_i count counted
    -- The only place to give up is out of reach of honest counts.
    have fits := honest count counted
    rw [Bytes.length_zeros] at fits
    rw [if_pos fits]
    exact steadfast_pure _

theorem reopen_steadfast : (reopen expected file).Steadfast := by
  apply steadfast_request_bind
  intro answer _
  split
  · exact steadfast_pure _
  · exact readBack_steadfast

theorem closeWritten_steadfast :
    (closeWritten expected file handle).Steadfast := by
  apply steadfast_request_bind
  intro answer _
  split
  · exact steadfast_pure _
  · exact reopen_steadfast

theorem visit_steadfast (expected : Bytes) (file : TrackedFile) :
    (visit expected file).Steadfast := by
  unfold visit
  split
  · exact steadfast_pure _
  · apply steadfast_request_bind
    intro answer _
    split
    · exact steadfast_pure _
    · split
      · exact closeWritten_steadfast
      · exact steadfast_pure _

end RoundTrip

/-! ## Steps -/

namespace Walk

variable {visit : TrackedFile → Procedure Visit}

theorem files_steadfast (steadfast : ∀ file, (visit file).Steadfast)
    (tracked : List TrackedFile) : (files visit tracked).Steadfast := by
  induction tracked with
  | nil => exact steadfast_pure []
  | cons file rest ih =>
      rw [files_cons]
      apply (steadfast file).bind
      intro first
      apply ih.bind
      intro others
      exact steadfast_pure _

theorem table_steadfast (steadfast : ∀ file, (visit file).Steadfast)
    (table : Table) : (Walk.table visit table).Steadfast :=
  (files_steadfast steadfast table.files).bind fun _ => steadfast_pure _

end Walk

theorem Boundary.probe_steadfast (call : BoundaryCall) (name : Bytes)
    (expectation : Expectation) :
    (probe call name expectation).Steadfast := by
  cases call with
  | create => exact steadfast_request_bind fun _ _ => steadfast_pure _
  | openFile => exact steadfast_request_bind fun _ _ => steadfast_pure _
  | delete => exact steadfast_request_bind fun _ _ => steadfast_pure _

theorem Step.perform_steadfast (limit : NameLimit) (step : Step)
    (table : Table) : (step.perform limit table).Steadfast := by
  cases step with
  | bulk call expectation =>
      exact Walk.table_steadfast (Bulk.visit_steadfast call expectation)
        table
  | roundTrip =>
      exact Walk.table_steadfast (fun _ => RoundTrip.visit_steadfast _ _)
        table
  | boundary call =>
      apply Steadfast.bind
      · apply (Boundary.probe_steadfast call _ _).bind
        intro accepted
        apply (Boundary.probe_steadfast call _ _).bind
        intro rejected
        exact steadfast_pure _
      · intro checks
        exact steadfast_pure _

/-! ## Scripts -/

namespace Scenario

theorem perform_steadfast (scenario : Scenario) (titled : TitledStep) :
    (scenario.perform titled).Steadfast := by
  apply (titled.step.perform_steadfast _ _).bind
  rintro ⟨checks, table⟩
  apply (steadfast_reportAll _).bind
  intro _
  apply (steadfast_reportAll _).bind
  intro _
  exact steadfast_pure _

theorem performAll_steadfast (steps : List TitledStep)
    (scenario : Scenario) : (scenario.performAll steps).Steadfast := by
  induction steps generalizing scenario with
  | nil => exact steadfast_pure scenario
  | cons titled rest ih => exact (scenario.perform_steadfast titled).bind ih

theorem run_steadfast (scenario : Scenario) : scenario.run.Steadfast :=
  (steadfast_reportAll _).bind fun _ => performAll_steadfast script scenario

end Scenario

end FileConformance
