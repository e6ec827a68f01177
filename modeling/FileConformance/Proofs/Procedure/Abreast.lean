import FileConformance.Procedure

/-!
# Two procedures side by side

Two procedures go abreast if they make the same calls as long as their answers
are alike, and never give up.  What is alike is up to the caller: answers may be
the same, or differ in what the procedures do not look at before their end.

If two subsystems answer alike from states that are similar, and stay similar,
then both procedures end, and their results are related as described.  So two
runs are compared along the plan once, and the subsystems call by call.
-/

namespace FileConformance

namespace Procedure

variable {First Second Third Fourth : Type}
  {alike : (request : Call) → request.Answer → request.Answer → Prop}

/-- As long as the answers are alike, the same calls are made. -/
inductive Abreast
    (alike : (request : Call) → request.Answer → request.Answer → Prop)
    (described : First → Second → Prop) :
    Procedure First → Procedure Second → Prop where
  | done {first : First} {second : Second}
      (holds : described first second) :
      Abreast alike described (.done first) (.done second)
  | emit {events more : List Event} {first : Procedure First}
      {second : Procedure Second}
      (rest : Abreast alike described first second) :
      Abreast alike described (.emit events first) (.emit more second)
  | call {request : Call} {first : request.Answer → Procedure First}
      {second : request.Answer → Procedure Second}
      (rest : ∀ answer other, alike request answer other →
        Abreast alike described (first answer) (second other)) :
      Abreast alike described (.call request first) (.call request second)

/-! ## How procedures are built -/

theorem Abreast.mono {described weaker : First → Second → Prop}
    {first : Procedure First} {second : Procedure Second}
    (abreast : Abreast alike described first second)
    (follows : ∀ result other,
      described result other → weaker result other) :
    Abreast alike weaker first second := by
  induction abreast with
  | done holds => exact .done (follows _ _ holds)
  | emit _ ih => exact .emit ih
  | call _ ih => exact .call ih

theorem abreast_pure {described : First → Second → Prop} {first : First}
    {second : Second} (holds : described first second) :
    Abreast alike described (pure first) (pure second) :=
  .done holds

theorem abreast_reportAll (events more : List Event) :
    Abreast alike (fun _ _ => True) (reportAll events) (reportAll more) :=
  .emit (.done trivial)

theorem abreast_bind {described : First → Second → Prop}
    {later : Third → Fourth → Prop} {first : Procedure First}
    {second : Procedure Second} {third : First → Procedure Third}
    {fourth : Second → Procedure Fourth}
    (abreast : Abreast alike described first second)
    (rest : ∀ result other, described result other →
      Abreast alike later (third result) (fourth other)) :
    Abreast alike later (first >>= third) (second >>= fourth) := by
  show Abreast alike later (first.bind third) (second.bind fourth)
  induction abreast with
  | done holds => exact rest _ _ holds
  | emit _ ih => exact .emit ih
  | call _ ih => exact .call ih

/-- Procedures that begin with the same call depend on the answers. -/
theorem abreast_request_bind {request : Call}
    {later : Third → Fourth → Prop}
    {third : request.Answer → Procedure Third}
    {fourth : request.Answer → Procedure Fourth}
    (rest : ∀ answer other, alike request answer other →
      Abreast alike later (third answer) (fourth other)) :
    Abreast alike later (Procedure.request request >>= third)
      (Procedure.request request >>= fourth) :=
  .call rest

/-! ## Following both -/

section

variable {State Other : Type} {left : Subsystem State}
  {right : Subsystem Other}

/-- Two subsystems answer alike as long as their states are similar. -/
def Matches (left : Subsystem State) (right : Subsystem Other)
    (alike : (request : Call) → request.Answer → request.Answer → Prop)
    (similar : State → Other → Prop) : Prop :=
  ∀ (request : Call) (state : State) (other : Other),
    similar state other →
      alike request (left.respond request state).answer
          (right.respond request other).answer ∧
        similar (left.respond request state).state
          (right.respond request other).state

/-- Procedures that go abreast end, and their results are related. -/
theorem Abreast.exists_ended {similar : State → Other → Prop}
    (matched : Matches left right alike similar)
    {described : First → Second → Prop} {first : Procedure First}
    {second : Procedure Second}
    (abreast : Abreast alike described first second) {state : State}
    {other : Other} (start : similar state other) :
    ∃ result otherResult,
      (first.run left state).ending = .ok result ∧
        (second.run right other).ending = .ok otherResult ∧
        described result otherResult := by
  induction abreast generalizing state other with
  | done holds => exact ⟨_, _, rfl, rfl, holds⟩
  | emit _ ih =>
      rw [run_emit, run_emit]
      exact ih start
  | @call request _ _ _ ih =>
      rcases matched request state other start with ⟨answered, later⟩
      rw [run_call, run_call]
      exact ih _ _ answered later

/-- Where the answers are the same, so is the end of every procedure. -/
theorem Matches.ending_eq {similar : State → Other → Prop}
    (matched : Matches left right (fun _ answer other => answer = other)
      similar)
    (procedure : Procedure First) {state : State} {other : Other}
    (start : similar state other) :
    (procedure.run left state).ending =
      (procedure.run right other).ending := by
  induction procedure generalizing state other with
  | done result => rfl
  | abort reason => rfl
  | emit events next ih =>
      rw [run_emit, run_emit]
      exact ih start
  | call request next ih =>
      rcases matched request state other start with ⟨answered, later⟩
      rw [run_call, run_call]
      dsimp only
      rw [← answered]
      exact ih _ later

end

end Procedure

end FileConformance
