import FileConformance.Walk

/-!
# What a procedure yields

A procedure yields what is said of its result and of the state after it, if it
ends with a result at all.  There is one rule for each way to build a procedure,
so that what a plan yields is shown along the plan, call by call.
-/

namespace FileConformance

namespace Procedure

variable {Result Next State : Type} {subsystem : Subsystem State}
  {state : State}

/--
Followed from a state, a procedure ends with a result, and result and state are
as described.
-/
def Yields (subsystem : Subsystem State) (procedure : Procedure Result)
    (state : State) (described : Result → State → Prop) : Prop :=
  ∃ result, (procedure.run subsystem state).ending = .ok result ∧
    described result (procedure.run subsystem state).state

/-- What follows from a description is yielded, too. -/
theorem Yields.mono {procedure : Procedure Result}
    {described weaker : Result → State → Prop}
    (yields : procedure.Yields subsystem state described)
    (follows : ∀ result later,
      described result later → weaker result later) :
    procedure.Yields subsystem state weaker := by
  rcases yields with ⟨result, ended, holds⟩
  exact ⟨result, ended, follows result _ holds⟩

theorem yields_pure {result : Result}
    {described : Result → State → Prop} (holds : described result state) :
    Yields subsystem (pure result : Procedure Result) state described :=
  ⟨result, rfl, holds⟩

/-- A call yields its answer and the state after it. -/
theorem yields_request {call : Call}
    {described : call.Answer → State → Prop}
    (holds : described (subsystem.respond call state).answer
      (subsystem.respond call state).state) :
    (request call).Yields subsystem state described :=
  ⟨(subsystem.respond call state).answer, rfl, holds⟩

/-- A procedure of one call yields what it makes of the answer. -/
theorem yields_one_call {call : Call} {finish : call.Answer → Result}
    {described : Result → State → Prop}
    (holds : described (finish (subsystem.respond call state).answer)
      (subsystem.respond call state).state) :
    Yields subsystem (request call >>= fun answer => pure (finish answer))
      state described :=
  ⟨finish (subsystem.respond call state).answer, rfl, holds⟩

theorem yields_reportAll {events : List Event}
    {described : Unit → State → Prop} (holds : described () state) :
    (reportAll events).Yields subsystem state described :=
  ⟨(), rfl, holds⟩

/-- A sequence yields what its second part yields after the first. -/
theorem yields_bind {procedure : Procedure Result}
    {continuation : Result → Procedure Next}
    {described : Next → State → Prop}
    (first : procedure.Yields subsystem state fun result later =>
      (continuation result).Yields subsystem later described) :
    (procedure >>= continuation).Yields subsystem state described := by
  rcases first with ⟨result, ended, next, endedNext, holds⟩
  refine ⟨next, ?_, ?_⟩
  · show ((procedure.bind continuation).run subsystem state).ending =
      .ok next
    rw [run_bind, Run.andThen, ended]
    exact endedNext
  · show described next
      ((procedure.bind continuation).run subsystem state).state
    rw [run_bind, Run.andThen, ended]
    exact holds

/-- A sequence makes the calls of its parts one after the other. -/
theorem exchanges_bind {procedure : Procedure Result}
    {continuation : Result → Procedure Next} {result : Result}
    (ended : (procedure.run subsystem state).ending = .ok result) :
    ((procedure >>= continuation).run subsystem state).exchanges =
      (procedure.run subsystem state).exchanges ++
        ((continuation result).run subsystem
          (procedure.run subsystem state).state).exchanges := by
  show ((procedure.bind continuation).run subsystem state).exchanges = _
  rw [run_bind, Run.andThen, ended]
  rfl

end Procedure

end FileConformance
