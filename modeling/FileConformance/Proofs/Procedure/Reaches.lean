import FileConformance.Procedure

/-!
# What a procedure reaches

Which branch a procedure takes depends on the answers alone.  A procedure
reaches a result by some exchanges if it makes these calls, in this order, and
ends with that result when they are answered so.  No subsystem has a part in
this: following a procedure on a subsystem is reaching a result by the answers
that the subsystem happens to give.

For each way to build a procedure one equivalence says by which exchanges it
reaches what.
-/

namespace FileConformance

namespace Procedure

/-- Given these exchanges, a procedure ends with a result. -/
inductive Reaches {Result : Type} :
    Procedure Result → List Exchange → Result → Prop where
  | done (result : Result) : Reaches (.done result) [] result
  | emit {events : List Event} {next : Procedure Result}
      {exchanges : List Exchange} {result : Result}
      (rest : Reaches next exchanges result) :
      Reaches (.emit events next) exchanges result
  | call {request : Call} {next : request.Answer → Procedure Result}
      (answer : request.Answer) {exchanges : List Exchange}
      {result : Result} (rest : Reaches (next answer) exchanges result) :
      Reaches (.call request next) (⟨request, answer⟩ :: exchanges) result

section

variable {Result Next : Type} {exchanges : List Exchange}

/-! ## How procedures are built -/

theorem reaches_pure_iff {value result : Result} :
    Reaches (pure value : Procedure Result) exchanges result ↔
      exchanges = [] ∧ result = value := by
  constructor
  · intro reached
    cases reached with
    | done _ => exact ⟨rfl, rfl⟩
  · rintro ⟨rfl, rfl⟩
    exact .done result

theorem reaches_call_iff {request : Call}
    {next : request.Answer → Procedure Result} {result : Result} :
    Reaches (.call request next) exchanges result ↔
      ∃ answer rest, exchanges = ⟨request, answer⟩ :: rest ∧
        Reaches (next answer) rest result := by
  constructor
  · intro reached
    cases reached with
    | call answer rest => exact ⟨answer, _, rfl, rest⟩
  · rintro ⟨answer, rest, rfl, reached⟩
    exact .call answer reached

/-- A sequence reaches its result by the exchanges of its parts. -/
theorem reaches_bind_iff {procedure : Procedure Result}
    {continuation : Result → Procedure Next} {result : Next} :
    Reaches (procedure >>= continuation) exchanges result ↔
      ∃ first middle second, exchanges = first ++ second ∧
        Reaches procedure first middle ∧
          Reaches (continuation middle) second result := by
  show Reaches (procedure.bind continuation) exchanges result ↔ _
  constructor
  · intro reached
    induction procedure generalizing exchanges with
    | done value => exact ⟨[], value, exchanges, rfl, .done value, reached⟩
    | abort reason => cases reached
    | emit events next ih =>
        cases reached with
        | emit rest =>
            rcases ih rest with ⟨first, middle, second, split, begun, ended⟩
            exact ⟨first, middle, second, split, .emit begun, ended⟩
    | call request next ih =>
        cases reached with
        | call answer rest =>
            rcases ih answer rest with
              ⟨first, middle, second, rfl, begun, ended⟩
            exact ⟨⟨request, answer⟩ :: first, middle, second, rfl,
              .call answer begun, ended⟩
  · rintro ⟨first, middle, second, rfl, begun, ended⟩
    induction begun with
    | done _ => exact ended
    | emit _ ih => exact .emit (ih ended)
    | call answer _ ih => exact .call answer (ih ended)

/-- A procedure that begins with a call branches on its answer. -/
theorem reaches_request_bind_iff {request : Call}
    {continuation : request.Answer → Procedure Next} {result : Next} :
    Reaches (Procedure.request request >>= continuation) exchanges result ↔
      ∃ answer rest, exchanges = ⟨request, answer⟩ :: rest ∧
        Reaches (continuation answer) rest result :=
  reaches_call_iff

/-- A procedure of one call reaches what it makes of the answer. -/
theorem reaches_one_call_iff {request : Call}
    {finish : request.Answer → Result} {result : Result} :
    Reaches (Procedure.request request >>= fun answer =>
        pure (finish answer)) exchanges result ↔
      ∃ answer, exchanges = [⟨request, answer⟩] ∧
        result = finish answer := by
  rw [reaches_request_bind_iff]
  constructor
  · rintro ⟨answer, rest, rfl, reached⟩
    rcases reaches_pure_iff.mp reached with ⟨rfl, rfl⟩
    exact ⟨answer, rfl, rfl⟩
  · rintro ⟨answer, rfl, rfl⟩
    exact ⟨answer, [], rfl, reaches_pure_iff.mpr ⟨rfl, rfl⟩⟩

/-- Reporting takes no exchanges. -/
theorem reaches_reportAll_bind_iff {events : List Event}
    {continuation : Unit → Procedure Next} {result : Next} :
    Reaches (reportAll events >>= continuation) exchanges result ↔
      Reaches (continuation ()) exchanges result := by
  constructor
  · intro reached
    cases reached with
    | emit rest => exact rest
  · exact .emit

/-- The exchanges decide the result. -/
theorem Reaches.result_eq {procedure : Procedure Result}
    {result other : Result}
    (reached : procedure.Reaches exchanges result)
    (reachedToo : procedure.Reaches exchanges other) : other = result := by
  induction reached with
  | done _ =>
      cases reachedToo with
      | done _ => rfl
  | emit _ ih =>
      cases reachedToo with
      | emit rest => exact ih rest
  | call answer _ ih =>
      cases reachedToo with
      | call _ rest => exact ih rest

end

/-! ## Following a procedure on a subsystem -/

section

variable {Result Next State : Type}

/-- A run that ends reaches its result by its exchanges. -/
theorem reaches_of_ended {subsystem : Subsystem State}
    {procedure : Procedure Result} {state : State} {result : Result}
    (ended : (procedure.run subsystem state).ending = .ok result) :
    procedure.Reaches (procedure.run subsystem state).exchanges result := by
  induction procedure generalizing state with
  | done value =>
      rw [run_done] at ended ⊢
      cases ended
      exact .done result
  | abort reason => cases ended
  | emit events next ih =>
      rw [run_emit] at ended ⊢
      exact .emit (ih ended)
  | call request next ih =>
      rw [run_call] at ended ⊢
      exact .call _ (ih _ ended)

end

end Procedure

end FileConformance
