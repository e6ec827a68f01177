import FileConformance.Procedure

/-!
# What a procedure ensures

A procedure ensures what holds at its end whatever is answered: of the exchanges
it made, of the events it reported itself, and of its result.  Giving up ensures
anything, so this says nothing about whether a procedure ends.

No subsystem has a part in this.  There is one rule for each way to build a
procedure, and at last what is ensured is found again in every run: the
exchanges are those of the run, and the events are what a run reports besides
the events of the subsystem.
-/

namespace FileConformance

namespace Procedure

/--
Whatever is answered, if the procedure ends then its exchanges, its own events
and its result are as described.
-/
def Ensures {Result : Type}
    (described : List Exchange → List Event → Result → Prop) :
    Procedure Result → Prop
  | .done result => described [] [] result
  | .abort _ => True
  | .emit events next =>
      next.Ensures fun exchanges later =>
        described exchanges (events ++ later)
  | .call request next =>
      ∀ answer, (next answer).Ensures fun exchanges =>
        described (⟨request, answer⟩ :: exchanges)

variable {Result Next : Type}

/-! ## How procedures are built -/

/-- What follows from a description is ensured, too. -/
theorem Ensures.mono {procedure : Procedure Result}
    {described weaker : List Exchange → List Event → Result → Prop}
    (ensures : procedure.Ensures described)
    (follows : ∀ exchanges events result,
      described exchanges events result →
        weaker exchanges events result) :
    procedure.Ensures weaker := by
  induction procedure generalizing described weaker with
  | done result => exact follows [] [] result ensures
  | abort reason => trivial
  | emit events next ih =>
      exact ih ensures fun exchanges later =>
        follows exchanges (events ++ later)
  | call request next ih =>
      exact fun answer => ih answer (ensures answer)
        fun exchanges => follows (⟨request, answer⟩ :: exchanges)

/-- What is ensured one by one is ensured together. -/
theorem Ensures.and {procedure : Procedure Result}
    {first second : List Exchange → List Event → Result → Prop}
    (ensures : procedure.Ensures first)
    (ensuresToo : procedure.Ensures second) :
    procedure.Ensures fun exchanges events result =>
      first exchanges events result ∧ second exchanges events result := by
  induction procedure generalizing first second with
  | done result => exact ⟨ensures, ensuresToo⟩
  | abort reason => trivial
  | emit events next ih => exact ih ensures ensuresToo
  | call request next ih =>
      exact fun answer => ih answer (ensures answer) (ensuresToo answer)

theorem ensures_pure {result : Result}
    {described : List Exchange → List Event → Result → Prop}
    (holds : described [] [] result) :
    (pure result : Procedure Result).Ensures described :=
  holds

theorem ensures_reportAll {events : List Event}
    {described : List Exchange → List Event → Unit → Prop}
    (holds : described [] events ()) :
    (reportAll events).Ensures described := by
  show described [] (events ++ []) ()
  rw [List.append_nil]
  exact holds

/-- A sequence ensures what its parts ensure together. -/
theorem ensures_bind {procedure : Procedure Result}
    {continuation : Result → Procedure Next}
    {described : List Exchange → List Event → Next → Prop}
    (ensures : procedure.Ensures fun exchanges events result =>
      (continuation result).Ensures fun more later =>
        described (exchanges ++ more) (events ++ later)) :
    (procedure >>= continuation).Ensures described := by
  show (procedure.bind continuation).Ensures described
  induction procedure generalizing described with
  | done result => exact ensures
  | abort reason => trivial
  | emit events next ih =>
      have after : next.Ensures fun exchanges own result =>
          (continuation result).Ensures fun more later =>
            described (exchanges ++ more) (events ++ own ++ later) :=
        ensures
      refine ih (after.mono fun exchanges own result rest => ?_)
      simpa only [List.append_assoc] using rest
  | call request next ih =>
      exact fun answer => ih answer (ensures answer)

/-- A procedure that begins with a call goes on with any answer. -/
theorem ensures_request_bind {request : Call}
    {continuation : request.Answer → Procedure Next}
    {described : List Exchange → List Event → Next → Prop}
    (holds : ∀ answer, (continuation answer).Ensures fun exchanges =>
      described (⟨request, answer⟩ :: exchanges)) :
    (Procedure.request request >>= continuation).Ensures described :=
  holds

/-! ## Following a procedure on a subsystem -/

section

variable {State : Type} {subsystem : Subsystem State}
  {procedure : Procedure Result} {state : State}

/--
What is ensured holds of a run that ends.  Seen through anything that does not
notice the subsystem's events, the events of the run are the procedure's own.
-/
theorem Ensures.of_ended
    {described : List Exchange → List Event → Result → Prop}
    (ensures : procedure.Ensures described) {result : Result}
    (ended : (procedure.run subsystem state).ending = .ok result) :
    ∃ own, described (procedure.run subsystem state).exchanges own result ∧
      ∀ {Value : Type} (see : Event → Option Value),
        (∀ event, see (.call event) = none) →
          (procedure.run subsystem state).events.filterMap see =
            own.filterMap see := by
  induction procedure generalizing state described with
  | done value =>
      rw [run_done] at ended ⊢
      cases ended
      exact ⟨[], ensures, fun _ _ => rfl⟩
  | abort reason => cases ended
  | emit events next ih =>
      rw [run_emit] at ended ⊢
      rcases ih ensures ended with ⟨own, holds, seen⟩
      refine ⟨events ++ own, holds, fun see blind => ?_⟩
      rw [List.filterMap_append, List.filterMap_append, seen see blind]
  | call request next ih =>
      rw [run_call] at ended ⊢
      rcases ih _ (ensures _) ended with ⟨own, holds, seen⟩
      refine ⟨own, holds, fun see blind => ?_⟩
      have unseen : ∀ events : List CallEvent,
          (events.map Event.call).filterMap see = [] := by
        intro events
        rw [List.filterMap_map, List.filterMap_eq_nil_iff]
        exact fun event _ => blind event
      dsimp only
      rw [List.filterMap_append, unseen, List.nil_append, seen see blind]

end

end Procedure

end FileConformance
