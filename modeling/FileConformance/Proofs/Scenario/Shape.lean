import FileConformance.Proofs.Scenario.Clearing
import FileConformance.Proofs.Scenario.Steadfast
import Mathlib.Algebra.GroupWithZero.Nat

/-!
# The shape of a run

What is answered decides what is in the checks of a run, but not how many there
are, what they are about, or in which order they come.  A failure at one file
stops at most the rest of that file's round trip.  So every run adds the same
suites, each with one check for each file or with one check for each name that
is probed.

The calls have a shape as well.  A bulk step calls once for each file, except
that a file without a handle cannot be closed; a round trip is cut short by its
first failure; and nothing is tried again.
-/

namespace FileConformance

open Procedure

/-! ## The calls of a step -/

/-- The handle that a file was bound to last, whether it is live or not. -/
def Binding.latest? : Binding → Option Handle
  | .unbound => none
  | .bound handle => some handle
  | .released handle => some handle

/-- What a bulk step calls for a file; the answers have no part in it. -/
def BulkCall.calls : BulkCall → TrackedFile → List Call
  | .create, file => [.create file.path]
  | .openFile, file => [.openFile file.path]
  | .close, file => file.binding.latest?.toList.map .close
  | .delete, file => [.delete file.path]

/-- What a round trip calls for a file; it may be cut short anywhere. -/
def RoundTrip.Trip (file : TrackedFile) (calls : List Call) : Prop :=
  ∃ handle data reopened buffer,
    calls <+: [.write handle data, .close handle, .openFile file.path,
      .read reopened buffer]

/-- The call that probes a name. -/
def BoundaryCall.request : BoundaryCall → Bytes → Call
  | .create => .create
  | .openFile => .openFile
  | .delete => .delete

namespace Step

/-- What a step calls for the files of a table, one after the other. -/
def Makes (limit : NameLimit) (files : List TrackedFile) :
    Step → List Call → Prop
  | .bulk each _, calls => calls = files.flatMap each.calls
  | .roundTrip, calls => ∃ trips, calls = trips.flatten ∧
      List.Forall₂ RoundTrip.Trip files trips
  | .boundary probed, calls => calls = limit.probed.map probed.request

/-- What the checks of a step are about. -/
def targets (limit : NameLimit) (files : List TrackedFile) :
    Step → List String
  | .bulk _ _ => files.map TrackedFile.name
  | .roundTrip => files.map TrackedFile.name
  | .boundary _ => limit.probed.map Name.label

end Step

/-! ## Visits -/

namespace Check

variable {Value : Type} (operation : Operation) (target : String)
  (expectation : Expectation)

@[simp]
theorem target_ofAnswer (handle : Option Handle)
    (answer : Except CallError Value) :
    (ofAnswer operation target expectation handle answer).target =
      target := by
  cases answer <;> rfl

@[simp]
theorem target_notIssued (detail : String) :
    (notIssued operation target expectation detail).target = target := rfl

@[simp]
theorem target_withDetail (check : Check) (detail : String) :
    (check.withDetail detail).target = check.target := rfl

end Check

theorem Bulk.visit_ensures (call : BulkCall) (expectation : Expectation)
    (file : TrackedFile) :
    (visit call expectation file).Ensures fun exchanges _ made =>
      callsOf exchanges = call.calls file ∧
        made.check.target = file.name := by
  cases call with
  | create =>
      exact ensures_request_bind fun answer => ensures_pure ⟨rfl, by simp⟩
  | openFile =>
      exact ensures_request_bind fun answer => ensures_pure ⟨rfl, by simp⟩
  | delete =>
      exact ensures_request_bind fun answer => ensures_pure ⟨rfl, by simp⟩
  | close =>
      show (close expectation file).Ensures fun exchanges _ made =>
        callsOf exchanges = file.binding.latest?.toList.map .close ∧
          made.check.target = file.name
      unfold close
      cases file.binding with
      | unbound => exact ensures_pure ⟨rfl, rfl⟩
      | bound handle =>
          exact ensures_request_bind fun answer =>
            ensures_pure ⟨rfl, by simp⟩
      | released handle =>
          exact ensures_request_bind fun answer =>
            ensures_pure ⟨rfl, by simp⟩

namespace RoundTrip

theorem target_compared (file : TrackedFile) (handle : Handle)
    (expected actual : Bytes) :
    (compared file handle expected actual).target = file.name := by
  unfold compared
  split <;> rfl

variable {expected : Bytes} {file : TrackedFile} {handle : Handle}

theorem readBack_ensures :
    (readBack expected file handle).Ensures fun exchanges _ made =>
      callsOf exchanges =
          [.read handle (Bytes.zeros expected.length)] ∧
        made.check.target = file.name := by
  refine ensures_request_bind fun received => ?_
  split
  · exact ensures_pure ⟨rfl, rfl⟩
  · split
    · exact ensures_pure ⟨rfl, target_compared _ _ _ _⟩
    · trivial

theorem reopen_ensures :
    (reopen expected file).Ensures fun exchanges _ made =>
      (∃ reopened buffer,
        callsOf exchanges <+:
          [.openFile file.path, .read reopened buffer]) ∧
        made.check.target = file.name := by
  refine ensures_request_bind fun answer => ?_
  split
  · exact ensures_pure ⟨⟨⟨0⟩, [], [_], rfl⟩, rfl⟩
  · rename_i handle
    refine readBack_ensures.mono ?_
    rintro exchanges _ made ⟨read, about⟩
    refine ⟨⟨handle, Bytes.zeros expected.length, ?_⟩, about⟩
    rw [callsOf, List.map_cons, ← callsOf, read]

theorem closeWritten_ensures :
    (closeWritten expected file handle).Ensures fun exchanges _ made =>
      (∃ reopened buffer,
        callsOf exchanges <+:
          [.close handle, .openFile file.path, .read reopened buffer]) ∧
        made.check.target = file.name := by
  refine ensures_request_bind fun answer => ?_
  have released := file.same_release
  split
  · exact ensures_pure ⟨⟨⟨0⟩, [], [_, _], rfl⟩, rfl⟩
  · refine reopen_ensures.mono ?_
    rintro exchanges _ made ⟨⟨reopened, buffer, rest⟩, about⟩
    rw [released.path_eq] at rest
    rw [released.name_eq] at about
    exact ⟨⟨reopened, buffer, List.prefix_cons_inj _ |>.mpr rest⟩, about⟩

theorem visit_ensures (expected : Bytes) (file : TrackedFile) :
    (visit expected file).Ensures fun exchanges _ made =>
      Trip file (callsOf exchanges) ∧ made.check.target = file.name := by
  unfold visit
  split
  · exact ensures_pure ⟨⟨⟨0⟩, [], ⟨0⟩, [], List.nil_prefix⟩, rfl⟩
  · rename_i handle _
    refine ensures_request_bind fun answer => ?_
    have cut : Trip file [.write handle expected] :=
      ⟨handle, expected, ⟨0⟩, [], [_, _, _], rfl⟩
    split
    · exact ensures_pure ⟨cut, rfl⟩
    · split
      · refine closeWritten_ensures.mono ?_
        rintro exchanges _ made ⟨⟨reopened, buffer, rest⟩, about⟩
        exact ⟨⟨handle, expected, reopened, buffer,
          List.prefix_cons_inj _ |>.mpr rest⟩, about⟩
      · exact ensures_pure ⟨cut, rfl⟩

end RoundTrip

/-! ## Steps -/

/-- A walk makes the calls of its visits, and a check for each of them. -/
theorem Walk.table_ensures {visit : TrackedFile → Procedure Visit}
    {table : Table} (made : TrackedFile → List Call → Prop)
    (visits : ∀ file, (visit file).Ensures fun exchanges _ visited =>
      made file (callsOf exchanges) ∧
        visited.check.target = file.name) :
    (Walk.table visit table).Ensures fun exchanges _ result =>
      (∃ parts, callsOf exchanges = parts.flatten ∧
        List.Forall₂ made table.files parts) ∧
        result.1.map Check.target = table.files.map TrackedFile.name := by
  have walked : ∀ tracked : List TrackedFile,
      (files visit tracked).Ensures fun exchanges _ visited =>
        (∃ parts, callsOf exchanges = parts.flatten ∧
          List.Forall₂ made tracked parts) ∧
          (visited.map Visit.check).map Check.target =
            tracked.map TrackedFile.name := by
    intro tracked
    induction tracked with
    | nil => exact ensures_pure ⟨⟨[], rfl, .nil⟩, rfl⟩
    | cons file rest ih =>
        rw [files_cons]
        refine ensures_bind ((visits file).mono ?_)
        rintro first _ visited ⟨calls, about⟩
        refine ensures_bind (ih.mono ?_)
        rintro others _ more ⟨⟨parts, callsToo, each⟩, aboutToo⟩
        refine ensures_pure ⟨⟨callsOf first :: parts, ?_, ?_⟩, ?_⟩
        · rw [List.append_nil, callsOf_append, callsToo, List.flatten_cons]
        · exact .cons calls each
        · rw [List.map_cons, List.map_cons, about, aboutToo,
            List.map_cons]
  refine ensures_bind ((walked table.files).mono ?_)
  rintro exchanges _ visited ⟨calls, about⟩
  refine ensures_pure ⟨?_, about⟩
  rw [List.append_nil]
  exact calls

theorem Boundary.probe_ensures (call : BoundaryCall) (name : Bytes)
    (expectation : Expectation) :
    (probe call name expectation).Ensures fun exchanges _ verdict =>
      callsOf exchanges = [call.request name] ∧
        verdict.target = Name.label name := by
  cases call with
  | create =>
      exact ensures_request_bind fun answer =>
        ensures_pure ⟨rfl, by simp [check]⟩
  | openFile =>
      exact ensures_request_bind fun answer =>
        ensures_pure ⟨rfl, by simp [check]⟩
  | delete =>
      exact ensures_request_bind fun answer =>
        ensures_pure ⟨rfl, by simp [check]⟩

theorem Boundary.checks_ensures (limit : NameLimit)
    (call : BoundaryCall) :
    (checks limit call).Ensures fun exchanges _ verdicts =>
      callsOf exchanges = limit.probed.map call.request ∧
        verdicts.map Check.target = limit.probed.map Name.label := by
  refine ensures_bind ((probe_ensures call _ _).mono ?_)
  rintro first _ accepted ⟨called, about⟩
  refine ensures_bind ((probe_ensures call _ _).mono ?_)
  rintro second _ rejected ⟨calledToo, aboutToo⟩
  refine ensures_pure ⟨?_, ?_⟩
  · rw [List.append_nil, callsOf_append, called, calledToo]
    rfl
  · rw [List.map_cons, List.map_singleton, about, aboutToo]
    rfl

namespace Step

variable {limit : NameLimit} {files : List TrackedFile}

/-- Every step keeps its shape, whatever is answered. -/
theorem perform_shape (limit : NameLimit) (step : Step) (table : Table) :
    (step.perform limit table).Ensures fun exchanges _ result =>
      step.Makes limit table.files (callsOf exchanges) ∧
        result.1.map Check.target = step.targets limit table.files := by
  cases step with
  | bulk call expectation =>
      have visits := Bulk.visit_ensures call expectation
      refine (Walk.table_ensures
        (fun file calls => calls = call.calls file) visits).mono ?_
      rintro exchanges _ result ⟨⟨parts, calls, each⟩, about⟩
      have exact : parts = table.files.map call.calls := by
        rw [eq_comm, ← List.forall₂_eq_eq_eq, List.forall₂_map_left_iff]
        exact each.imp fun _ _ same => same.symm
      refine ⟨?_, about⟩
      rw [Makes, calls, exact, List.flatMap_def]
  | roundTrip =>
      exact Walk.table_ensures RoundTrip.Trip fun file =>
        RoundTrip.visit_ensures (table.expected file.index) file
  | boundary call =>
      refine ensures_bind ((Boundary.checks_ensures limit call).mono ?_)
      rintro exchanges _ verdicts ⟨calls, about⟩
      refine ensures_pure ⟨?_, about⟩
      rw [List.append_nil]
      exact calls

/-- The names of the files are all that the shape depends on. -/
theorem targets_eq {moved : List TrackedFile}
    (same : List.Forall₂ TrackedFile.Same files moved) (step : Step) :
    step.targets limit moved = step.targets limit files := by
  have names : moved.map TrackedFile.name = files.map TrackedFile.name := by
    induction same with
    | nil => rfl
    | cons first _ ih =>
        rw [List.map_cons, List.map_cons, ih, first.name_eq]
  cases step with
  | bulk kind expectation => exact names
  | roundTrip => exact names
  | boundary probed => rfl

end Step

/-! ## Runs -/

/-- Two tables with the same files before and after a third. -/
theorem TrackedFile.same_trans {first second third : List TrackedFile}
    (before : List.Forall₂ TrackedFile.Same first second)
    (after : List.Forall₂ TrackedFile.Same second third) :
    List.Forall₂ TrackedFile.Same first third := by
  induction before generalizing third with
  | nil => exact after
  | cons same _ ih =>
      cases after with
      | cons sameToo rest =>
          refine .cons ⟨?_, ?_⟩ (ih rest)
          · rw [sameToo.index_eq, same.index_eq]
          · rw [sameToo.name_eq, same.name_eq]

namespace Scenario

/-- What a step of a script leaves behind: its calls and its suite. -/
structure Left where
  calls : List Call
  suite : Suite

/-- A step left what it leaves whatever is answered. -/
structure TitledStep.Shapes (limit : NameLimit)
    (files : List TrackedFile) (titled : TitledStep) (left : Left) :
    Prop where
  /-- Its calls are for these files, however they were bound by then. -/
  calls : ∃ rebound, List.Forall₂ TrackedFile.Same files rebound ∧
    titled.step.Makes limit rebound left.calls
  title_eq : left.suite.title = titled.title
  targets_eq : left.suite.checks.map Check.target =
    titled.step.targets limit files

namespace TitledStep.Shapes

variable {limit : NameLimit} {files : List TrackedFile}
  {titled : TitledStep} {left : Left}

/-- The bindings have no part in the shape. -/
theorem of_same {moved : List TrackedFile}
    (shapes : titled.Shapes limit moved left)
    (same : List.Forall₂ TrackedFile.Same files moved) :
    titled.Shapes limit files left where
  calls := by
    rcases shapes.calls with ⟨rebound, more, makes⟩
    exact ⟨rebound, TrackedFile.same_trans same more, makes⟩
  title_eq := shapes.title_eq
  targets_eq := by
    rw [shapes.targets_eq, Step.targets_eq same]

end TitledStep.Shapes

/-- A step adds one suite and keeps the files. -/
theorem perform_shapes (scenario : Scenario) (titled : TitledStep) :
    (scenario.perform titled).Ensures fun exchanges _ next =>
      next.settings = scenario.settings ∧
        List.Forall₂ TrackedFile.Same scenario.table.files
          next.table.files ∧
        ∃ left, callsOf exchanges = left.calls ∧
          next.report.suites = scenario.report.suites ++ [left.suite] ∧
          titled.Shapes scenario.settings.nameLimit scenario.table.files
            left := by
  refine ensures_bind (((titled.step.perform_shape _ _).and
    (titled.step.perform_keepsTo _ _)).mono ?_)
  rintro exchanges _ ⟨checks, table⟩ ⟨⟨makes, about⟩, _, _, same⟩
  refine ensures_bind (ensures_reportAll ?_)
  refine ensures_bind (ensures_reportAll (ensures_pure ?_))
  have unmoved :
      List.Forall₂ TrackedFile.Same scenario.table.files
        scenario.table.files :=
    List.forall₂_same.mpr fun file _ => .refl file
  rw [List.append_nil, List.append_nil, List.append_nil]
  exact ⟨rfl, same, ⟨callsOf exchanges, ⟨titled.title, checks⟩⟩, rfl, rfl,
    ⟨_, unmoved, makes⟩, rfl, about⟩

/-- Steps add one suite each, in their order, and keep the files. -/
theorem performAll_shapes (steps : List TitledStep)
    (scenario : Scenario) :
    (scenario.performAll steps).Ensures fun exchanges _ finished =>
      finished.settings = scenario.settings ∧
        List.Forall₂ TrackedFile.Same scenario.table.files
          finished.table.files ∧
        ∃ left : List Left,
          callsOf exchanges = left.flatMap Left.calls ∧
            finished.report.suites =
              scenario.report.suites ++ left.map Left.suite ∧
            List.Forall₂ (TitledStep.Shapes scenario.settings.nameLimit
              scenario.table.files) steps left := by
  induction steps generalizing scenario with
  | nil =>
      exact ensures_pure ⟨rfl, List.forall₂_same.mpr fun _ _ => .refl _,
        [], rfl, (List.append_nil _).symm, .nil⟩
  | cons titled rest ih =>
      refine ensures_bind ((scenario.perform_shapes titled).mono ?_)
      rintro first _ next
        ⟨sameSettings, same, left, calls, suites, shapes⟩
      refine (ih next).mono ?_
      rintro others _ finished
        ⟨settingsToo, sameToo, more, callsToo, suitesToo, shapesToo⟩
      rw [sameSettings] at shapesToo
      refine ⟨settingsToo.trans sameSettings,
        TrackedFile.same_trans same sameToo, left :: more, ?_, ?_, ?_⟩
      · rw [callsOf_append, calls, callsToo, List.flatMap_cons]
      · rw [suitesToo, suites, List.append_assoc, List.map_cons]
        rfl
      · exact .cons shapes (shapesToo.imp fun _ _ kept => kept.of_same same)

/-- The checks of the suites are about what their steps are about. -/
theorem targets_eq {limit : NameLimit} {files : List TrackedFile}
    {steps : List TitledStep} {left : List Left}
    (shapes : List.Forall₂ (TitledStep.Shapes limit files) steps left) :
    (left.map fun step => step.suite.checks.map Check.target) =
      steps.map fun titled => titled.step.targets limit files := by
  induction shapes with
  | nil => rfl
  | cons first _ ih =>
      rw [List.map_cons, List.map_cons, first.targets_eq, ih]

/-- The script visits every file fifteen times, then it probes. -/
theorem script_targets (limit : NameLimit) (files : List TrackedFile) :
    (script.map fun titled => titled.step.targets limit files) =
      List.replicate 15 (files.map TrackedFile.name) ++
        List.replicate 3 (limit.probed.map Name.label) := rfl

/-- A run ensures what its script ensures. -/
theorem run_ensures {scenario : Scenario}
    {described : List Exchange → Scenario → Prop}
    (ensures : (scenario.performAll script).Ensures
      fun exchanges _ finished => described exchanges finished) :
    scenario.run.Ensures fun exchanges _ finished =>
      described exchanges finished :=
  ensures_bind (ensures_reportAll ensures)

/-- What the checks are about that a run adds to the report. -/
theorem run_targets (scenario : Scenario) :
    scenario.run.Ensures fun _ _ finished => ∃ suites,
      finished.report.suites = scenario.report.suites ++ suites ∧
        (suites.map fun suite => suite.checks.map Check.target) =
          List.replicate 15
              (scenario.table.files.map TrackedFile.name) ++
            List.replicate 3
              (scenario.settings.nameLimit.probed.map Name.label) := by
  refine (run_ensures (performAll_shapes script scenario)).mono ?_
  rintro _ _ finished ⟨_, _, left, _, suites, shapes⟩
  refine ⟨left.map Left.suite, suites, ?_⟩
  rw [List.map_map, ← script_targets, ← targets_eq shapes]
  rfl

end Scenario

end FileConformance
