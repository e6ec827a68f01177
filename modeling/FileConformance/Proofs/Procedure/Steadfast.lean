import FileConformance.Proofs.Procedure.Yields

/-!
# Procedures that never give up

A subsystem is honest if it never claims to have read more bytes than the
buffer takes.  A procedure is steadfast if honest answers never make it give
up.  So a steadfast procedure ends with a result on every honest subsystem,
whatever else the answers are.
-/

namespace FileConformance

/-- No more bytes are claimed to have been read than the buffer takes. -/
def Call.Honest : (request : Call) → request.Answer → Prop
  | .read _ buffer, received =>
      ∀ count, received.count = .ok count → count ≤ buffer.length
  | _, _ => True

/-- A subsystem that gives honest answers only. -/
def Subsystem.Honest {State : Type} (subsystem : Subsystem State) : Prop :=
  ∀ (request : Call) (state : State),
    request.Honest (subsystem.respond request state).answer

namespace Procedure

/-- Honest answers never make a procedure give up. -/
inductive Steadfast {Result : Type} : Procedure Result → Prop where
  | done (result : Result) : Steadfast (.done result)
  | emit {events : List Event} {next : Procedure Result}
      (rest : Steadfast next) : Steadfast (.emit events next)
  | call {request : Call} {next : request.Answer → Procedure Result}
      (rest : ∀ answer, request.Honest answer → Steadfast (next answer)) :
      Steadfast (.call request next)

variable {Result Next State : Type}

/-! ## How procedures are built -/

theorem steadfast_pure (result : Result) :
    Steadfast (pure result : Procedure Result) :=
  .done result

theorem steadfast_reportAll (events : List Event) :
    Steadfast (reportAll events) :=
  .emit (.done ())

theorem Steadfast.bind {procedure : Procedure Result}
    {continuation : Result → Procedure Next}
    (first : Steadfast procedure)
    (second : ∀ result, Steadfast (continuation result)) :
    Steadfast (procedure >>= continuation) := by
  show Steadfast (procedure.bind continuation)
  induction first with
  | done result => exact second result
  | emit _ ih => exact .emit ih
  | call _ ih => exact .call ih

/-- A procedure that begins with a call depends on honest answers. -/
theorem steadfast_request_bind {request : Call}
    {continuation : request.Answer → Procedure Next}
    (rest : ∀ answer, request.Honest answer →
      Steadfast (continuation answer)) :
    Steadfast (Procedure.request request >>= continuation) :=
  .call rest

/-! ## Following a procedure on a subsystem -/

/-- On an honest subsystem a steadfast procedure ends with a result. -/
theorem Steadfast.exists_ended {procedure : Procedure Result}
    (steadfast : Steadfast procedure) {subsystem : Subsystem State}
    (honest : subsystem.Honest) (state : State) :
    ∃ result, (procedure.run subsystem state).ending = .ok result := by
  induction steadfast generalizing state with
  | done result => exact ⟨result, rfl⟩
  | emit _ ih =>
      rw [run_emit]
      exact ih state
  | @call request next _ ih =>
      rw [run_call]
      exact ih _ (honest request state) _

/-- So it yields a result, of which nothing else is said. -/
theorem Steadfast.yields {procedure : Procedure Result}
    (steadfast : Steadfast procedure) {subsystem : Subsystem State}
    (honest : subsystem.Honest) (state : State) :
    procedure.Yields subsystem state fun _ _ => True := by
  rcases steadfast.exists_ended honest state with ⟨result, ended⟩
  exact ⟨result, ended, trivial⟩

end Procedure

end FileConformance
