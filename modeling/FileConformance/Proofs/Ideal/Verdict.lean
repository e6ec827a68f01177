import FileConformance.Proofs.Ideal.Script
import FileConformance.Proofs.Scenario.Steadfast

/-!
# The ideal script

The report of a scenario is a success on exactly those exchanges that follow the
ideal script: every call is the one that is due, made for the right name or on
the right handle, and every answer is what it has to be.  The subsystem is free
only to choose the handles that it issues and the errors with which it refuses.

That holds of every subsystem that does not read more than there is room for,
even of one that answers at random.  So no wrong answer is ever masked.
-/

namespace FileConformance

/-! ## The ideal exchanges -/

/-- What a subsystem is free to choose in the round trips. -/
structure RoundTripChoices where
  created : Nat → Handle
  reopened : Nat → Handle

/-- What a subsystem is free to choose in the steps on descriptors. -/
structure DescriptorChoices where
  /-- These handles are never closed. -/
  abandoned : Nat → Handle
  opened : Nat → Handle
  openedAgain : Nat → Handle
  /-- Why a second close of a handle is refused. -/
  spent : Nat → CallError
  /-- Why a deleted file is not opened. -/
  missing : Nat → CallError
  recreated : Nat → Handle

/-- What a subsystem is free to choose in the ideal script. -/
structure Choices extends RoundTripChoices, DescriptorChoices where
  /-- What the calls give for the longest name that is accepted. -/
  accepted : (call : BoundaryCall) → call.Value
  /-- Why the calls refuse a longer name. -/
  rejected : BoundaryCall → CallError

namespace Settings

variable (settings : Settings)

/-- Every file makes its round trip, and is cleaned up. -/
def idealRoundTrips (choices : RoundTripChoices) : List Exchange :=
  settings.forFiles (fun index =>
    [⟨.create (settings.path index), .ok (choices.created index)⟩]) ++
  (settings.forFiles (fun index => [
    ⟨.write (choices.created index) (settings.expected index),
      .ok settings.bufferLength⟩,
    ⟨.close (choices.created index), .ok ()⟩,
    ⟨.openFile (settings.path index), .ok (choices.reopened index)⟩,
    RoundTrip.readWhole (choices.reopened index) (settings.expected index)
      settings.bufferLength (settings.length_expected index)]) ++
  (settings.forFiles (fun index =>
    [⟨.delete (settings.path index), .ok ()⟩]) ++
  settings.forFiles (fun index =>
    [⟨.close (choices.reopened index), .ok ()⟩])))

/-- Handles are created, opened and closed in every order. -/
def idealDescriptors (choices : DescriptorChoices) : List Exchange :=
  settings.forFiles (fun index =>
    [⟨.create (settings.path index), .ok (choices.abandoned index)⟩]) ++
  (settings.forFiles (fun index =>
    [⟨.openFile (settings.path index), .ok (choices.opened index)⟩]) ++
  (settings.forFiles (fun index =>
    [⟨.close (choices.opened index), .ok ()⟩]) ++
  (settings.forFiles (fun index =>
    [⟨.openFile (settings.path index), .ok (choices.openedAgain index)⟩]) ++
  (settings.forFiles (fun index =>
    [⟨.close (choices.openedAgain index), .ok ()⟩]) ++
  (settings.forFiles (fun index =>
    [⟨.close (choices.openedAgain index),
      .error (choices.spent index)⟩]) ++
  (settings.forFiles (fun index =>
    [⟨.delete (settings.path index), .ok ()⟩]) ++
  (settings.forFiles (fun index =>
    [⟨.openFile (settings.path index),
      .error (choices.missing index)⟩]) ++
  (settings.forFiles (fun index =>
    [⟨.create (settings.path index), .ok (choices.recreated index)⟩]) ++
  (settings.forFiles (fun index =>
    [⟨.delete (settings.path index), .ok ()⟩]) ++
  settings.forFiles (fun index =>
    [⟨.close (choices.recreated index), .ok ()⟩]))))))))))

/-- One call accepts the name at the limit and refuses the one above it. -/
def idealProbe (choices : Choices) (call : BoundaryCall) : List Exchange :=
  [call.exchange settings.nameLimit.longestAccepted
      (.ok (choices.accepted call)),
    call.exchange settings.nameLimit.shortestRejected
      (.error (choices.rejected call))]

/-- The ideal script. -/
def idealExchanges (choices : Choices) : List Exchange :=
  settings.idealRoundTrips choices.toRoundTripChoices ++
  (settings.idealDescriptors choices.toDescriptorChoices ++
  (settings.idealProbe choices .create ++
  (settings.idealProbe choices .openFile ++
  settings.idealProbe choices .delete)))

/-- The ideal script makes eighteen calls for every file, and six more. -/
theorem length_idealExchanges (choices : Choices) :
    (settings.idealExchanges choices).length =
      18 * settings.fileCount + 6 := by
  have one : ∀ {exchange : Nat → Exchange},
      (settings.forFiles fun index => [exchange index]).length =
        settings.fileCount * 1 :=
    settings.length_forFiles fun _ => rfl
  have four : ∀ {first second third fourth : Nat → Exchange},
      (settings.forFiles fun index =>
        [first index, second index, third index, fourth index]).length =
          settings.fileCount * 4 :=
    settings.length_forFiles fun _ => rfl
  simp only [idealExchanges, idealRoundTrips, idealDescriptors, idealProbe,
    List.length_append, one, four, List.length_cons, List.length_nil]
  omega

end Settings

/-! ## The script passes by the ideal exchanges -/

namespace Step

variable {settings : Settings} {limit : NameLimit} {rest : List Step}
  {before : Nat → Binding} {table : Table} {exchanges : List Exchange}

theorem roundTrips_pass_iff :
    AllPassBy limit
        (Scenario.roundTripSteps.map Scenario.TitledStep.step ++ rest)
        (settings.tableBound before) exchanges ↔
      ∃ choices second,
        exchanges = settings.idealRoundTrips choices ++ second ∧
          AllPassBy limit rest
            (settings.tableBound fun index =>
              .released (choices.reopened index)) second := by
  constructor
  · intro passes
    rcases (allPassBy_cons_iff fun _ _ => create_passesBy_iff).mp passes
      with ⟨created, _, split, roundTrips⟩
    rcases (allPassBy_cons_iff fun _ _ =>
      roundTrip_passesBy_iff).mp roundTrips
      with ⟨reopened, _, splitTrips, deletes⟩
    rcases (allPassBy_cons_iff_fixed fun _ _ =>
      delete_passesBy_iff).mp deletes with ⟨_, splitDeletes, closes⟩
    rcases (allPassBy_cons_iff_fixed fun _ _ =>
      close_passesBy_iff).mp closes with ⟨second, splitCloses, others⟩
    refine ⟨⟨created, reopened⟩, second, ?_, others⟩
    rw [split, splitTrips, splitDeletes, splitCloses]
    simp only [Settings.idealRoundTrips, List.append_assoc]
  · rintro ⟨choices, second, rfl, others⟩
    simp only [Settings.idealRoundTrips, List.append_assoc]
    refine (allPassBy_cons_iff fun _ _ => create_passesBy_iff).mpr
      ⟨choices.created, _, rfl, ?_⟩
    refine (allPassBy_cons_iff fun _ _ => roundTrip_passesBy_iff).mpr
      ⟨choices.reopened, _, rfl, ?_⟩
    refine (allPassBy_cons_iff_fixed fun _ _ => delete_passesBy_iff).mpr
      ⟨_, rfl, ?_⟩
    exact (allPassBy_cons_iff_fixed fun _ _ => close_passesBy_iff).mpr
      ⟨second, rfl, others⟩

theorem descriptors_pass_iff :
    AllPassBy limit
        (Scenario.descriptorSteps.map Scenario.TitledStep.step ++ rest)
        (settings.tableBound before) exchanges ↔
      ∃ choices second,
        exchanges = settings.idealDescriptors choices ++ second ∧
          AllPassBy limit rest
            (settings.tableBound fun index =>
              .released (choices.recreated index)) second := by
  constructor
  · intro passes
    rcases (allPassBy_cons_iff fun _ _ => create_passesBy_iff).mp passes
      with ⟨abandoned, _, split, opens⟩
    rcases (allPassBy_cons_iff fun _ _ => openFile_passesBy_iff).mp opens
      with ⟨opened, _, splitOpens, closes⟩
    rcases (allPassBy_cons_iff_fixed fun _ _ =>
      close_passesBy_iff).mp closes with ⟨_, splitCloses, reopens⟩
    rcases (allPassBy_cons_iff fun _ _ =>
      openFile_passesBy_iff).mp reopens
      with ⟨openedAgain, _, splitReopens, closesAgain⟩
    rcases (allPassBy_cons_iff_fixed fun _ _ =>
      close_passesBy_iff).mp closesAgain
      with ⟨_, splitClosesAgain, closesTwice⟩
    rcases (allPassBy_cons_iff fun _ _ =>
      close_passesBy_released_iff).mp closesTwice
      with ⟨spent, _, splitClosesTwice, deletes⟩
    rcases (allPassBy_cons_iff_fixed fun _ _ =>
      delete_passesBy_iff).mp deletes with ⟨_, splitDeletes, misses⟩
    rcases (allPassBy_cons_iff fun _ _ =>
      openFile_passesBy_failure_iff).mp misses
      with ⟨missing, _, splitMisses, recreates⟩
    rcases (allPassBy_cons_iff fun _ _ =>
      create_passesBy_iff).mp recreates
      with ⟨recreated, _, splitRecreates, deletesAgain⟩
    rcases (allPassBy_cons_iff_fixed fun _ _ =>
      delete_passesBy_iff).mp deletesAgain
      with ⟨_, splitDeletesAgain, closesLast⟩
    rcases (allPassBy_cons_iff_fixed fun _ _ =>
      close_passesBy_iff).mp closesLast
      with ⟨second, splitClosesLast, others⟩
    refine ⟨⟨abandoned, opened, openedAgain, spent, missing, recreated⟩,
      second, ?_, others⟩
    rw [split, splitOpens, splitCloses, splitReopens, splitClosesAgain,
      splitClosesTwice, splitDeletes, splitMisses, splitRecreates,
      splitDeletesAgain, splitClosesLast]
    simp only [Settings.idealDescriptors, List.append_assoc]
  · rintro ⟨choices, second, rfl, others⟩
    simp only [Settings.idealDescriptors, List.append_assoc]
    refine (allPassBy_cons_iff fun _ _ => create_passesBy_iff).mpr
      ⟨choices.abandoned, _, rfl, ?_⟩
    refine (allPassBy_cons_iff fun _ _ => openFile_passesBy_iff).mpr
      ⟨choices.opened, _, rfl, ?_⟩
    refine (allPassBy_cons_iff_fixed fun _ _ => close_passesBy_iff).mpr
      ⟨_, rfl, ?_⟩
    refine (allPassBy_cons_iff fun _ _ => openFile_passesBy_iff).mpr
      ⟨choices.openedAgain, _, rfl, ?_⟩
    refine (allPassBy_cons_iff_fixed fun _ _ => close_passesBy_iff).mpr
      ⟨_, rfl, ?_⟩
    refine (allPassBy_cons_iff fun _ _ =>
      close_passesBy_released_iff).mpr ⟨choices.spent, _, rfl, ?_⟩
    refine (allPassBy_cons_iff_fixed fun _ _ => delete_passesBy_iff).mpr
      ⟨_, rfl, ?_⟩
    refine (allPassBy_cons_iff fun _ _ =>
      openFile_passesBy_failure_iff).mpr ⟨choices.missing, _, rfl, ?_⟩
    refine (allPassBy_cons_iff fun _ _ => create_passesBy_iff).mpr
      ⟨choices.recreated, _, rfl, ?_⟩
    refine (allPassBy_cons_iff_fixed fun _ _ => delete_passesBy_iff).mpr
      ⟨_, rfl, ?_⟩
    exact (allPassBy_cons_iff_fixed fun _ _ => close_passesBy_iff).mpr
      ⟨second, rfl, others⟩

/-- A probe leaves the table alone, and the rest of the steps to pass. -/
theorem allPassBy_boundary_iff {call : BoundaryCall} :
    AllPassBy limit (.boundary call :: rest) table exchanges ↔
      ∃ value reason second, exchanges = [
          call.exchange limit.longestAccepted (.ok value),
          call.exchange limit.shortestRejected (.error reason)] ++ second ∧
        AllPassBy limit rest table second := by
  constructor
  · rintro ⟨_, later, second, rfl, passed, others⟩
    rcases boundary_passesBy_iff.mp passed with ⟨value, reason, rfl, rfl⟩
    exact ⟨value, reason, second, rfl, others⟩
  · rintro ⟨value, reason, second, rfl, others⟩
    exact ⟨_, table, second, rfl,
      boundary_passesBy_iff.mpr ⟨value, reason, rfl, rfl⟩, others⟩

theorem script_passes_iff :
    AllPassBy settings.nameLimit
        (Scenario.script.map Scenario.TitledStep.step)
        (settings.tableBound before) exchanges ↔
      ∃ choices, exchanges = settings.idealExchanges choices := by
  rw [Scenario.script, List.map_append, List.map_append, List.append_assoc,
    roundTrips_pass_iff]
  simp only [descriptors_pass_iff]
  constructor
  · rintro ⟨roundTrips, _, split, descriptors, _, splitToo, probes⟩
    rcases allPassBy_boundary_iff.mp probes with
      ⟨created, notCreated, _, splitCreate, probes⟩
    rcases allPassBy_boundary_iff.mp probes with
      ⟨opened, notOpened, _, splitOpen, probes⟩
    rcases allPassBy_boundary_iff.mp probes with
      ⟨deleted, notDeleted, _, splitDelete, rfl⟩
    refine ⟨{
      roundTrips, descriptors with
      accepted := BoundaryCall.each created opened deleted
      rejected := BoundaryCall.each notCreated notOpened notDeleted }, ?_⟩
    rw [split, splitToo, splitCreate, splitOpen, splitDelete]
    rfl
  · rintro ⟨choices, rfl⟩
    refine ⟨choices.toRoundTripChoices, _, rfl,
      choices.toDescriptorChoices, _, rfl, ?_⟩
    refine allPassBy_boundary_iff.mpr
      ⟨choices.accepted .create, choices.rejected .create, _, rfl, ?_⟩
    refine allPassBy_boundary_iff.mpr
      ⟨choices.accepted .openFile, choices.rejected .openFile, _, rfl, ?_⟩
    exact allPassBy_boundary_iff.mpr
      ⟨choices.accepted .delete, choices.rejected .delete, [], rfl, rfl⟩

end Step

namespace Scenario

/-- From a fresh scenario a success is reached by ideal exchanges only. -/
theorem run_reaches_success_iff {settings : Settings}
    {exchanges : List Exchange} :
    (∃ finished, (start settings).run.Reaches exchanges finished ∧
        finished.report.isSuccess = true) ↔
      ∃ choices, exchanges = settings.idealExchanges choices := by
  rw [← @Step.script_passes_iff settings fun _ => .unbound,
    Settings.tableBound_unbound, run]
  simp only [Procedure.report, Procedure.reaches_reportAll_bind_iff]
  rw [performAll_passes_iff]
  exact and_iff_right Report.isSuccess_empty

/--
On any subsystem that does not read more than there is room for, in any state,
the first run of a scenario ends, and its report is a success if and only if
the calls that were made and their answers are ideal exchanges, which are
eighteen for every file and six more.
-/
theorem run_isSuccess_iff_ideal {State : Type}
    (subsystem : Subsystem State) (honest : subsystem.Honest)
    (settings : Settings) (state : State) :
    ∃ finished,
      ((start settings).run.run subsystem state).ending = .ok finished ∧
        (finished.report.isSuccess = true ↔
          ∃ choices,
            ((start settings).run.run subsystem state).exchanges =
              settings.idealExchanges choices) ∧
        ∀ choices, (settings.idealExchanges choices).length =
          18 * settings.fileCount + 6 := by
  rcases (run_steadfast (start settings)).exists_ended honest state with
    ⟨finished, ended⟩
  have reached := Procedure.reaches_of_ended ended
  refine ⟨finished, ended, ?_, settings.length_idealExchanges⟩
  rw [← run_reaches_success_iff]
  constructor
  · intro passed
    exact ⟨finished, reached, passed⟩
  · rintro ⟨other, reachedToo, passed⟩
    rw [reached.result_eq reachedToo] at passed
    exact passed

/-- A store follows the ideal script, and one that is too small does not. -/
theorem run_isSuccess_iff_ideal_two_files :
    let settings : Settings := { fileCount := 2, bufferLength := 3 }
    let store := Store.fresh .standard (.ofSeed 0)
    let small := Store.fresh { capacity := some 5 } (.ofSeed 0)
    Store.subsystem.Honest ∧
      (∃ choices,
        ((start settings).run.run Store.subsystem store).exchanges =
          settings.idealExchanges choices) ∧
      ¬∃ choices,
        ((start settings).run.run Store.subsystem small).exchanges =
          settings.idealExchanges choices := by
  intro settings store small
  rcases run_isSuccess_iff_ideal Store.subsystem Store.honest settings store
    with ⟨finished, ended, decided, _⟩
  rcases run_isSuccess_iff_ideal Store.subsystem Store.honest settings small
    with ⟨spoiled, endedToo, decidedToo, _⟩
  have passed : ((start settings).run.run Store.subsystem
      store).ending.map (fun last => last.report.isSuccess) =
        .ok true := by
    decide +kernel
  have failed : ((start settings).run.run Store.subsystem
      small).ending.map (fun last => last.report.isSuccess) =
        .ok false := by
    decide +kernel
  rw [ended] at passed
  rw [endedToo] at failed
  refine ⟨Store.honest, decided.mp (Except.ok.inj passed), ?_⟩
  rw [← decidedToo, Bool.not_eq_true]
  exact Except.ok.inj failed

end Scenario

end FileConformance
