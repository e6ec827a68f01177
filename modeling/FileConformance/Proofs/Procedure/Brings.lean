import FileConformance.Proofs.Procedure.Leads

/-!
# What answered calls bring about

When it is known how some calls were answered, the answers tell what the calls
have done: a create that succeeded left its name behind, and one that failed
left nothing.  Exchanges bring a state from one condition to another if they do
so whenever a subsystem gives just these answers.

Whether it gives them is another question.  Exchanges that lead somewhere are
answered like this in any case; exchanges that bring something about may not be.
-/

namespace FileConformance

namespace Subsystem

variable {State : Type} {subsystem : Subsystem State}

/-- If calls are answered like this, they bring one condition to another. -/
def Brings (subsystem : Subsystem State) (before : State → Prop)
    (exchanges : List Exchange) (after : State → Prop) : Prop :=
  ∀ state, before state →
    subsystem.exchanges (exchanges.map Exchange.call) state = exchanges →
      after (subsystem.after (exchanges.map Exchange.call) state)

theorem length_exchanges (calls : List Call) (state : State) :
    (subsystem.exchanges calls state).length = calls.length := by
  induction calls generalizing state with
  | nil => rfl
  | cons request rest ih => exact congrArg Nat.succ (ih _)

namespace Brings

variable {before middle after beforeToo afterToo : State → Prop}
  {first second : List Exchange}

theorem append (begins : subsystem.Brings before first middle)
    (ends : subsystem.Brings middle second after) :
    subsystem.Brings before (first ++ second) after := by
  intro state holds answered
  rw [List.map_append, exchanges_append] at answered
  have cut : (subsystem.exchanges (first.map Exchange.call) state).length =
      first.length := by
    rw [length_exchanges, List.length_map]
  rcases List.append_inj answered cut with ⟨answeredFirst, answeredSecond⟩
  rw [List.map_append, after_append]
  exact ends _ (begins state holds answeredFirst) answeredSecond

theorem mono {stronger weaker : State → Prop}
    (brings : subsystem.Brings before first after)
    (given : ∀ state, stronger state → before state)
    (follows : ∀ state, after state → weaker state) :
    subsystem.Brings stronger first weaker :=
  fun state holds answered =>
    follows _ (brings state (given state holds) answered)

theorem and (brings : subsystem.Brings before first after)
    (bringsToo : subsystem.Brings beforeToo first afterToo) :
    subsystem.Brings (fun state => before state ∧ beforeToo state) first
      (fun state => after state ∧ afterToo state) :=
  fun state holds answered =>
    ⟨brings state holds.1 answered, bringsToo state holds.2 answered⟩

theorem nil (before : State → Prop) : subsystem.Brings before [] before :=
  fun _ holds _ => holds

theorem one {exchange : Exchange}
    (step : ∀ state, before state →
      (subsystem.respond exchange.call state).answer = exchange.answer →
        after (subsystem.respond exchange.call state).state) :
    subsystem.Brings before [exchange] after := by
  intro state holds answered
  rcases exchange with ⟨request, answer⟩
  rcases List.cons.inj answered with ⟨given, _⟩
  exact step state holds (eq_of_heq (Exchange.mk.inj given).2)

/-- What each exchange keeps is kept by all of them. -/
theorem keeps {exchanges : List Exchange} {kept : State → Prop}
    (step : ∀ exchange ∈ exchanges, ∀ state, kept state →
      kept (subsystem.respond exchange.call state).state) :
    subsystem.Brings kept exchanges kept :=
  fun _ holds _ => after_keeps (List.forall_mem_map.mpr step) holds

/-- A loop brings a state as far as its invariant holds. -/
theorem range {invariant : Nat → State → Prop}
    {exchanges : Nat → List Exchange} {count : Nat}
    (round : ∀ index < count, subsystem.Brings (invariant index)
      (exchanges index) (invariant (index + 1))) :
    subsystem.Brings (invariant 0) ((List.range count).flatMap exchanges)
      (invariant count) := by
  induction count with
  | zero => exact nil _
  | succ count ih =>
      rw [List.range_succ, List.flatMap_append, List.flatMap_singleton]
      exact (ih fun index below =>
        round index (Nat.lt_succ_of_lt below)).append
          (round count (Nat.lt_succ_self count))

end Brings

end Subsystem

end FileConformance
