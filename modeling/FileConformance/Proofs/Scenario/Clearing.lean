import FileConformance.Proofs.Scenario.Scope
import FileConformance.Proofs.Scenario.Scripts

/-!
# What a script clears away

Whatever is answered, a script takes no names but those of its files and the two
that probe the limit, and it clears them all away: in the end each name is
deleted and not created again.  The files are deleted all together before the
last handles are closed; should one of them have a name that probes the limit,
that name is deleted once more.
-/

namespace FileConformance

open Procedure

/-! ## Clearing a name -/

/-- A name is deleted, and not created again. -/
def Clears (name : Bytes) (calls : List Call) : Prop :=
  ∃ earlier later, calls = earlier ++ .delete name :: later ∧
    .create name ∉ later

namespace Clears

variable {name : Bytes} {first second : List Call}

theorem prepend (clears : Clears name second) (first : List Call) :
    Clears name (first ++ second) := by
  rcases clears with ⟨earlier, later, rfl, spared⟩
  exact ⟨first ++ earlier, later, (List.append_assoc _ _ _).symm, spared⟩

theorem append (clears : Clears name first)
    (spared : .create name ∉ second) : Clears name (first ++ second) := by
  rcases clears with ⟨earlier, later, rfl, sparedToo⟩
  refine ⟨earlier, later ++ second, List.append_assoc _ _ _, ?_⟩
  rw [List.mem_append, not_or]
  exact ⟨sparedToo, spared⟩

theorem of_deletes {names : List Bytes} (member : name ∈ names) :
    Clears name (names.map Call.delete) := by
  rcases List.append_of_mem member with ⟨earlier, later, rfl⟩
  refine ⟨earlier.map .delete, later.map .delete, ?_, ?_⟩
  · rw [List.map_append, List.map_cons]
  · simp

end Clears

/-! ## Steps -/

/-- The calls of some exchanges, without the answers. -/
def callsOf (exchanges : List Exchange) : List Call :=
  exchanges.map Exchange.call

theorem callsOf_append (first second : List Exchange) :
    callsOf (first ++ second) = callsOf first ++ callsOf second :=
  List.map_append

theorem Table.paths_eq {table later : Table}
    (same : List.Forall₂ TrackedFile.Same table.files later.files) :
    later.paths = table.paths := by
  rw [Table.paths, Table.paths]
  generalize table.files = files, later.files = moved at same
  induction same with
  | nil => rfl
  | cons first _ ih => rw [List.map_cons, List.map_cons, ih, first.path_eq]

namespace Walk

/-- A walk that deletes files deletes all of them. -/
theorem files_delete_ensures (expectation : Expectation)
    (tracked : List TrackedFile) :
    (files (Bulk.delete expectation) tracked).Ensures
      fun exchanges _ _ => callsOf exchanges =
        (tracked.map TrackedFile.path).map Call.delete := by
  induction tracked with
  | nil => exact ensures_pure rfl
  | cons file rest ih =>
      rw [files_cons]
      refine ensures_bind (ensures_request_bind fun answer => ?_)
      refine ensures_pure (ensures_bind (ih.mono ?_))
      intro exchanges _ others calls
      refine ensures_pure ?_
      rw [List.append_nil, callsOf_append, calls]
      rfl

end Walk

namespace Step

variable {limit : NameLimit} {expectation : Expectation} {table : Table}

theorem deleteAll_ensures :
    ((bulk .delete expectation).perform limit table).Ensures
      fun exchanges _ _ =>
        callsOf exchanges = table.paths.map Call.delete := by
  refine ensures_bind
    ((Walk.files_delete_ensures expectation table.files).mono ?_)
  intro exchanges _ made calls
  refine ensures_pure ?_
  rw [List.append_nil, calls]
  rfl

theorem closeAll_ensures :
    ((bulk .close expectation).perform limit table).Ensures
      fun exchanges _ _ =>
        ∀ name, Call.create name ∉ callsOf exchanges := by
  have keeps : (Walk.table (Bulk.close expectation) table).KeepsTo [] _ :=
    Walk.table_keepsTo fun file _ => Bulk.close_keepsTo expectation file
  refine Ensures.mono keeps ?_
  rintro exchanges _ _ ⟨nameless, _, _⟩ name member
  rcases List.mem_map.mp member with ⟨exchange, made, same⟩
  have taken := (nameless exchange made).name_mem name
  rw [same] at taken
  exact List.not_mem_nil (taken rfl)

theorem probeDelete_ensures :
    ((boundary .delete).perform limit table).Ensures
      fun exchanges _ _ =>
        callsOf exchanges = limit.probed.map Call.delete :=
  fun _ _ => rfl

theorem probeOpen_ensures :
    ((boundary .openFile).perform limit table).Ensures
      fun exchanges _ _ =>
        callsOf exchanges = limit.probed.map Call.openFile :=
  fun _ _ => rfl

theorem probeCreate_ensures :
    ((boundary .create).perform limit table).Ensures
      fun exchanges _ _ =>
        callsOf exchanges = limit.probed.map Call.create :=
  fun _ _ => rfl

end Step

/-! ## Scripts -/

/-- The names that a scenario takes. -/
def Settings.names (settings : Settings) : List Bytes :=
  settings.table.paths ++ settings.nameLimit.probed

namespace Scenario

variable {scenario : Scenario}

/-- The names that the rest of a scenario takes. -/
def names (scenario : Scenario) : List Bytes :=
  scenario.table.paths ++ scenario.settings.nameLimit.probed

/-- Recording a step makes no calls, and changes nothing but the records. -/
theorem perform_ensures {titled : TitledStep}
    (described : List Exchange → Table → Prop)
    (step : (titled.step.perform scenario.settings.nameLimit
      scenario.table).Ensures fun exchanges _ result =>
        described exchanges result.2) :
    (scenario.perform titled).Ensures fun exchanges _ next =>
      next.settings = scenario.settings ∧
        described exchanges next.table := by
  refine ensures_bind (Ensures.mono step ?_)
  rintro exchanges _ ⟨checks, table⟩ holds
  refine ensures_bind (ensures_reportAll ?_)
  refine ensures_bind (ensures_reportAll (ensures_pure ⟨rfl, ?_⟩))
  rw [List.append_nil, List.append_nil, List.append_nil]
  exact holds

/-- What is known of the calls of a step is known when it is recorded. -/
theorem perform_calls {titled : TitledStep}
    {made : List Exchange → Prop}
    (step : (titled.step.perform scenario.settings.nameLimit
      scenario.table).Ensures fun exchanges _ _ => made exchanges) :
    (scenario.perform titled).Ensures fun exchanges _ next =>
      next.settings = scenario.settings ∧ made exchanges :=
  perform_ensures (fun exchanges _ => made exchanges) step

/-- A script takes no other names, and ends no process. -/
theorem performAll_within (steps : List TitledStep)
    (scenario : Scenario) :
    (scenario.performAll steps).Ensures fun exchanges _ finished =>
      (∀ exchange ∈ exchanges, exchange.call.Within scenario.names) ∧
        finished.names = scenario.names := by
  induction steps generalizing scenario with
  | nil => exact ensures_pure ⟨List.forall_mem_nil _, rfl⟩
  | cons titled rest ih =>
      have begun := perform_ensures (fun exchanges later =>
          (∀ exchange ∈ exchanges, exchange.call.Within scenario.names) ∧
            later.paths = scenario.table.paths)
        (Ensures.mono (titled.step.perform_keepsTo _ _)
          fun exchanges _ result kept =>
            ⟨kept.1, Table.paths_eq kept.2.2⟩)
      refine ensures_bind (begun.mono ?_)
      rintro first _ next ⟨sameSettings, within, samePaths⟩
      have sameNames : next.names = scenario.names := by
        rw [names, names, sameSettings, samePaths]
      refine (ih next).mono ?_
      rw [sameNames]
      rintro others _ finished ⟨withinToo, sameAgain⟩
      exact ⟨List.forall_mem_append.mpr ⟨within, withinToo⟩, sameAgain⟩

/-- The steps of the script from the last deletion of its files on. -/
def cleanUpSteps : List TitledStep :=
  descriptorSteps.drop 9 ++ boundarySteps

/-- The last steps delete each name and create none of them again. -/
theorem cleanUp_clears (scenario : Scenario) :
    (scenario.performAll cleanUpSteps).Ensures fun exchanges _ _ =>
      ∀ name ∈ scenario.names, Clears name (callsOf exchanges) := by
  refine ensures_bind ((perform_calls Step.deleteAll_ensures).mono ?_)
  rintro deletes _ deleted ⟨limitDeleted, callsDeleted⟩
  refine ensures_bind ((perform_calls Step.closeAll_ensures).mono ?_)
  rintro closes _ closed ⟨limitClosed, sparedClosed⟩
  refine ensures_bind ((perform_calls Step.probeCreate_ensures).mono ?_)
  rintro creates _ created ⟨limitCreated, callsCreated⟩
  refine ensures_bind ((perform_calls Step.probeOpen_ensures).mono ?_)
  rintro opens _ opened ⟨limitOpened, callsOpened⟩
  refine ensures_bind ((perform_calls Step.probeDelete_ensures).mono ?_)
  rintro probes _ probed ⟨_, callsProbed⟩
  refine ensures_pure ?_
  rw [limitOpened, limitCreated, limitClosed, limitDeleted] at callsProbed
  rw [limitClosed, limitDeleted] at callsCreated
  intro name member
  simp only [callsOf_append, List.append_nil, callsDeleted, callsCreated,
    callsOpened, callsProbed]
  by_cases atLimit : name ∈ scenario.settings.nameLimit.probed
  · exact (((Clears.of_deletes atLimit).prepend _).prepend _
      |>.prepend _).prepend _
  · -- What the probes create are other names.
    have inTable := (List.mem_append.mp member).resolve_right atLimit
    refine (Clears.of_deletes inTable).append ?_
    simp only [List.mem_append, List.mem_map, not_or]
    refine ⟨sparedClosed name, ?_, ?_, ?_⟩
    · rintro ⟨other, created, same⟩
      cases same
      exact atLimit created
    · rintro ⟨other, _, same⟩
      cases same
    · rintro ⟨other, _, same⟩
      cases same

theorem run_within (settings : Settings) :
    (start settings).run.Ensures fun exchanges _ _ =>
      ∀ exchange ∈ exchanges, exchange.call.Within settings.names := by
  refine ensures_bind (ensures_reportAll ?_)
  exact (performAll_within script _).mono fun _ _ _ kept => kept.1

/-- Whatever is answered, a run clears all its names away. -/
theorem run_clears (settings : Settings) :
    (start settings).run.Ensures fun exchanges _ _ =>
      ∀ name ∈ settings.names, Clears name (callsOf exchanges) := by
  have split : script =
      (roundTripSteps ++ descriptorSteps.take 9) ++ cleanUpSteps := rfl
  refine ensures_bind (ensures_reportAll ?_)
  rw [split, performAll_append]
  refine ensures_bind ((performAll_within _ _).mono ?_)
  rintro earlier _ middle ⟨_, sameNames⟩
  refine (cleanUp_clears middle).mono ?_
  intro exchanges _ _ clears name member
  rw [List.nil_append, callsOf_append]
  exact (clears name (sameNames ▸ member)).prepend _

end Scenario

end FileConformance
