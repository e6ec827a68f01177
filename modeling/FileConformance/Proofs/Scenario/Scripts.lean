import FileConformance.Proofs.Report.Account
import FileConformance.Proofs.Scenario.Probes

/-!
# What a script comes to

A script is done step by step, and a failed check never stops it.  If every
step passes under a condition and takes one stage to the next, then the script
leaves the report a success if and only if all conditions hold.  As soon as one
condition fails, nothing has to be known of the steps after it but that they
end: a check that counts against the subsystem is never taken back.
-/

namespace FileConformance

/-! ## Reports -/

namespace Report

theorem isSuccess_empty : empty.isSuccess = true := rfl

theorem isSuccess_iff (report : Report) :
    report.isSuccess = true ↔ Clean report.checks :=
  report.isSuccess_iff_forall

/-- A report stays a success if and only if nothing is held against a suite. -/
theorem isSuccess_push (report : Report) (title : String)
    (checks : List Check) :
    (report.push ⟨title, checks⟩).isSuccess = true ↔
      report.isSuccess = true ∧ Clean checks := by
  have extended :
      (report.push ⟨title, checks⟩).checks = report.checks ++ checks := by
    rw [Report.checks, push, List.flatMap_append, List.flatMap_singleton]
    rfl
  rw [isSuccess_iff, isSuccess_iff, extended, Clean,
    List.forall_mem_append]
  rfl

end Report

/-! ## Steps -/

/-- A step never gives up. -/
theorem Step.perform_total (limit : NameLimit) (step : Step)
    (table : Table) (store : Store) :
    (step.perform limit table).Yields Store.subsystem store
      fun _ _ => True :=
  (step.perform_steadfast limit table).yields Store.honest store

namespace Scenario

/-- A scenario goes on from another after one step. -/
structure Recorded (scenario : Scenario) (checks : List Check)
    (table : Table) (next : Scenario) : Prop where
  settings_eq : next.settings = scenario.settings
  table_eq : next.table = table
  isSuccess_iff : next.report.isSuccess = true ↔
    scenario.report.isSuccess = true ∧ Clean checks

/-- What a step yields is recorded. -/
theorem perform_yields {scenario : Scenario} {titled : TitledStep}
    {described : List Check × Table → Store → Prop} {store : Store}
    (stepped : (titled.step.perform scenario.settings.nameLimit
      scenario.table).Yields Store.subsystem store described) :
    (scenario.perform titled).Yields Store.subsystem store
      fun next later => ∃ outcome, described outcome later ∧
        scenario.Recorded outcome.1 outcome.2 next := by
  apply Procedure.yields_bind
  apply stepped.mono
  rintro ⟨checks, table⟩ later holds
  apply Procedure.yields_bind
  apply Procedure.yields_reportAll
  apply Procedure.yields_bind
  apply Procedure.yields_reportAll
  apply Procedure.yields_pure
  exact ⟨(checks, table), holds, rfl, rfl,
    Report.isSuccess_push scenario.report titled.title checks⟩

/-! ## Scripts -/

/-- A script always ends, and does not mend what was recorded before. -/
theorem performAll_total (steps : List TitledStep) (scenario : Scenario)
    (store : Store) :
    (scenario.performAll steps).Yields Store.subsystem store
      fun finished _ => finished.report.isSuccess = true →
        scenario.report.isSuccess = true := by
  induction steps generalizing scenario store with
  | nil => exact Procedure.yields_pure id
  | cons titled rest ih =>
      apply Procedure.yields_bind
      apply (perform_yields (titled.step.perform_total _ _ store)).mono
      rintro next middle ⟨outcome, _, recorded⟩
      apply (ih next middle).mono
      intro finished later kept passed
      exact (recorded.isSuccess_iff.mp (kept passed)).1

/-- Doing two scripts after one another is doing one script. -/
theorem performAll_append (first second : List TitledStep)
    (scenario : Scenario) :
    scenario.performAll (first ++ second) =
      scenario.performAll first >>= fun middle =>
        middle.performAll second := by
  induction first generalizing scenario with
  | nil => rw [List.nil_append, performAll, pure_bind]
  | cons titled rest ih =>
      rw [List.cons_append, performAll, performAll, bind_assoc]
      congr 1
      ext next
      exact ih next

/-- A script passes under a condition, and then takes one stage to another. -/
def Proceeds (settings : Settings) (steps : List TitledStep)
    (before : Table → Store → Prop) (condition : Prop)
    (after : Table → Store → Prop) : Prop :=
  ∀ (scenario : Scenario) (store : Store),
    scenario.settings = settings → before scenario.table store →
      (scenario.performAll steps).Yields Store.subsystem store
        fun finished later =>
          (finished.report.isSuccess = true ↔
            scenario.report.isSuccess = true ∧ condition) ∧
          (condition → finished.settings = settings ∧
            after finished.table later)

namespace Proceeds

variable {settings : Settings} {steps others : List TitledStep}
  {titled : TitledStep} {condition conditionToo : Prop}
  {before looser middle after : Table → Store → Prop}

theorem nil : Proceeds settings [] before True before := by
  intro scenario store settings_eq here
  apply Procedure.yields_pure
  constructor
  · rw [and_true]
  · intro _
    exact ⟨settings_eq, here⟩

/-- A part that fails decides the verdict, whatever comes after it. -/
theorem andThen {scenario between : Scenario} {store : Store}
    (decided : between.report.isSuccess = true ↔
      scenario.report.isSuccess = true ∧ condition)
    (reached : condition →
      between.settings = settings ∧ middle between.table store)
    (rest : condition →
      Proceeds settings steps middle conditionToo after) :
    (between.performAll steps).Yields Store.subsystem store
      fun finished later =>
        (finished.report.isSuccess = true ↔
          scenario.report.isSuccess = true ∧ condition ∧ conditionToo) ∧
        (condition ∧ conditionToo → finished.settings = settings ∧
          after finished.table later) := by
  by_cases holds : condition
  · rcases reached holds with ⟨settings_eq, here⟩
    apply (rest holds between store settings_eq here).mono
    rintro finished later ⟨decidedToo, result⟩
    constructor
    · rw [decidedToo, decided, and_assoc]
    · rintro ⟨_, holdsToo⟩
      exact result holdsToo
  · apply (performAll_total steps between store).mono
    intro finished later kept
    constructor
    · constructor
      · intro passed
        exact (holds (decided.mp (kept passed)).2).elim
      · rintro ⟨_, met, _⟩
        exact (holds met).elim
    · rintro ⟨met, _⟩
      exact (holds met).elim

theorem cons
    (first : Achieves settings titled.step before condition middle)
    (rest : condition →
      Proceeds settings steps middle conditionToo after) :
    Proceeds settings (titled :: steps) before
      (condition ∧ conditionToo) after := by
  intro scenario store settings_eq here
  have stepped := first scenario.table store here
  rw [← settings_eq] at stepped
  apply Procedure.yields_bind
  apply (perform_yields stepped).mono
  rintro next between ⟨outcome, ⟨clean, result⟩, recorded⟩
  refine andThen ?_ ?_ rest
  · rw [recorded.isSuccess_iff, clean]
  · intro holds
    rw [recorded.settings_eq, recorded.table_eq]
    exact ⟨settings_eq, result holds⟩

theorem append
    (first : Proceeds settings steps before condition middle)
    (rest : condition →
      Proceeds settings others middle conditionToo after) :
    Proceeds settings (steps ++ others) before
      (condition ∧ conditionToo) after := by
  intro scenario store settings_eq here
  rw [performAll_append]
  apply Procedure.yields_bind
  apply (first scenario store settings_eq here).mono
  rintro next between ⟨decided, reached⟩
  exact andThen decided reached rest

theorem of_stronger
    (proceeds : Proceeds settings steps looser condition after)
    (leads : ∀ {table : Table} {store : Store},
      before table store → looser table store) :
    Proceeds settings steps before condition after := by
  intro scenario store settings_eq here
  exact proceeds scenario store settings_eq (leads here)

theorem of_iff (proceeds : Proceeds settings steps before condition after)
    (same : condition ↔ conditionToo) :
    Proceeds settings steps before conditionToo after := by
  rw [← propext same]
  exact proceeds

end Proceeds

end Scenario

end FileConformance
