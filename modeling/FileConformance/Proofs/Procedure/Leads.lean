import FileConformance.Proofs.Plain.Basic
import FileConformance.Proofs.Procedure.Reaches

/-!
# How a subsystem answers what a procedure asks

A subsystem is deterministic, so the calls that were made determine how they
were answered and the state they left.  If a procedure reaches a result by some
exchanges, and the subsystem gives just these answers, then these are the
exchanges of the run.

Whether a subsystem gives some answers is shown piece by piece: exchanges lead
from one condition on the state to another, and such steps are put together one
after the other.
-/

namespace FileConformance

variable {State Result : Type} {subsystem : Subsystem State} {state : State}

namespace Subsystem

/-! ## Sequences of calls -/

theorem exchanges_append (first second : List Call) :
    subsystem.exchanges (first ++ second) state =
      subsystem.exchanges first state ++
        subsystem.exchanges second (subsystem.after first state) := by
  induction first generalizing state with
  | nil => rfl
  | cons request rest ih =>
      rw [List.cons_append, exchanges, exchanges, ih]
      rfl

theorem after_append (first second : List Call) :
    subsystem.after (first ++ second) state =
      subsystem.after second (subsystem.after first state) :=
  List.foldl_append

/-- What every call of some kind keeps is kept by a sequence of them. -/
theorem after_keeps {kept : State → Prop} {calls : List Call}
    (step : ∀ request ∈ calls, ∀ state, kept state →
      kept (subsystem.respond request state).state)
    (holds : kept state) : kept (subsystem.after calls state) := by
  induction calls generalizing state with
  | nil => exact holds
  | cons request rest ih =>
      rw [List.forall_mem_cons] at step
      exact ih step.2 (step.1 state holds)

/-- Every exchange took place in a state that was reached. -/
theorem exists_of_mem_exchanges {kept : State → Prop} {calls : List Call}
    (step : ∀ request ∈ calls, ∀ state, kept state →
      kept (subsystem.respond request state).state)
    (holds : kept state) {exchange : Exchange}
    (member : exchange ∈ subsystem.exchanges calls state) :
    ∃ reached, kept reached ∧
      (subsystem.respond exchange.call reached).answer =
        exchange.answer := by
  induction calls generalizing state with
  | nil => cases member
  | cons request rest ih =>
      rw [List.forall_mem_cons] at step
      rcases List.mem_cons.mp member with rfl | later
      · exact ⟨state, holds, rfl⟩
      · exact ih step.2 (step.1 state holds) later

/-! ## Exchanges that lead somewhere -/

/-- Calls are answered like this, and lead from one condition to another. -/
def Leads (subsystem : Subsystem State) (before : State → Prop)
    (exchanges : List Exchange) (after : State → Prop) : Prop :=
  ∀ state, before state →
    subsystem.exchanges (exchanges.map Exchange.call) state = exchanges ∧
      after (subsystem.after (exchanges.map Exchange.call) state)

namespace Leads

variable {before middle after : State → Prop}
  {first second : List Exchange}

theorem nil (before : State → Prop) : subsystem.Leads before [] before :=
  fun _ holds => ⟨rfl, holds⟩

theorem append (begins : subsystem.Leads before first middle)
    (ends : subsystem.Leads middle second after) :
    subsystem.Leads before (first ++ second) after := by
  intro state holds
  rcases begins state holds with ⟨answered, held⟩
  rcases ends _ held with ⟨answeredToo, heldToo⟩
  rw [List.map_append, exchanges_append, after_append, answered,
    answeredToo]
  exact ⟨rfl, heldToo⟩

/-- A call is answered, and the others follow. -/
theorem cons {request : Call} {answer : request.Answer}
    (begins : ∀ state, before state →
      (subsystem.respond request state).answer = answer ∧
        middle (subsystem.respond request state).state)
    (ends : subsystem.Leads middle second after) :
    subsystem.Leads before (⟨request, answer⟩ :: second) after := by
  have single : subsystem.Leads before [⟨request, answer⟩] middle := by
    intro state holds
    rcases begins state holds with ⟨rfl, held⟩
    exact ⟨rfl, held⟩
  exact single.append ends

theorem one {request : Call} {answer : request.Answer}
    (answers : ∀ state, before state →
      (subsystem.respond request state).answer = answer ∧
        after (subsystem.respond request state).state) :
    subsystem.Leads before [⟨request, answer⟩] after :=
  cons answers (.nil after)

theorem mono {stronger weaker : State → Prop}
    (leads : subsystem.Leads before first after)
    (given : ∀ state, stronger state → before state)
    (follows : ∀ state, after state → weaker state) :
    subsystem.Leads stronger first weaker := by
  intro state holds
  rcases leads state (given state holds) with ⟨answered, held⟩
  exact ⟨answered, follows _ held⟩

/-- A loop leads as far as its invariant holds. -/
theorem range {invariant : Nat → State → Prop}
    {exchanges : Nat → List Exchange} {count : Nat}
    (round : ∀ index < count, subsystem.Leads (invariant index)
      (exchanges index) (invariant (index + 1))) :
    subsystem.Leads (invariant 0) ((List.range count).flatMap exchanges)
      (invariant count) := by
  induction count with
  | zero => exact .nil _
  | succ count ih =>
      rw [List.range_succ, List.flatMap_append, List.flatMap_singleton]
      exact (ih fun index below =>
        round index (Nat.lt_succ_of_lt below)).append
          (round count (Nat.lt_succ_self count))

end Leads

end Subsystem

/-! ## Runs -/

namespace Procedure

/-- A run leaves the state that its calls leave. -/
theorem run_state (procedure : Procedure Result) (state : State) :
    (procedure.run subsystem state).state =
      subsystem.after
        ((procedure.run subsystem state).exchanges.map Exchange.call)
        state := by
  induction procedure generalizing state with
  | done result => rfl
  | abort reason => rfl
  | emit events next ih =>
      rw [run_emit]
      exact ih state
  | call request next ih =>
      rw [run_call]
      exact ih _ _

/-- A run keeps the answers that its calls get. -/
theorem run_exchanges (procedure : Procedure Result) (state : State) :
    (procedure.run subsystem state).exchanges =
      subsystem.exchanges
        ((procedure.run subsystem state).exchanges.map Exchange.call)
        state := by
  induction procedure generalizing state with
  | done result => rfl
  | abort reason => rfl
  | emit events next ih =>
      rw [run_emit]
      exact ih state
  | call request next ih =>
      rw [run_call]
      exact congrArg _ (ih _ _)

/-- A procedure takes the way that the answers of the subsystem choose. -/
theorem Reaches.exchanges_eq {procedure : Procedure Result}
    {exchanges : List Exchange} {result : Result}
    (reached : procedure.Reaches exchanges result)
    (answered : subsystem.exchanges (exchanges.map Exchange.call) state =
      exchanges) :
    (procedure.run subsystem state).exchanges = exchanges := by
  induction reached generalizing state with
  | done result => rfl
  | emit rest ih =>
      rw [run_emit]
      exact ih answered
  | @call request next answer exchanges result rest ih =>
      rw [List.map_cons, Subsystem.exchanges] at answered
      rcases List.cons.inj answered with ⟨first, others⟩
      have same : (subsystem.respond request state).answer = answer :=
        eq_of_heq (Exchange.mk.inj first).2
      subst same
      rw [run_call]
      exact congrArg _ (ih others)

end Procedure

end FileConformance
