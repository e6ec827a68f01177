import FileConformance.Abort
import FileConformance.Call
import FileConformance.Event

/-!
# Procedures

The harness decides what to call next from what was answered so far.  A
procedure is such a plan: a tree that ends, gives up, reports some events, or
makes a call and branches on the answer.

A subsystem is a state machine that answers calls.  Running a procedure on a
subsystem follows the branch that the answers choose, and keeps the exchanges
and the events in order.  The plan itself does not depend on the subsystem, so
what holds of the tree holds on every subsystem.
-/

namespace FileConformance

/-- A plan of calls that ends in a result. -/
inductive Procedure (Result : Type) where
  /-- End with a result. -/
  | done (result : Result)
  /-- Give up. -/
  | abort (reason : Abort)
  /-- Report events and go on. -/
  | emit (events : List Event) (next : Procedure Result)
  /-- Make a call and go on with its answer. -/
  | call (request : Call) (next : request.Answer → Procedure Result)

/-- What a subsystem gives back for a call. -/
structure Reply (State Answer : Type) where
  answer : Answer
  state : State
  events : List CallEvent

/-- A state machine that answers calls. -/
structure Subsystem (State : Type) where
  respond : (request : Call) → State → Reply State request.Answer

/-- What came of running a procedure. -/
structure Run (State Result : Type) where
  /-- The result, or why the procedure gave up. -/
  ending : Except Abort Result
  /-- The state of the subsystem afterwards. -/
  state : State
  /-- The calls that were made, with their answers. -/
  exchanges : List Exchange
  /-- The events of procedure and subsystem. -/
  events : List Event

namespace Procedure

variable {Result Next State : Type}

/-- Go on with a second procedure from the result of a first. -/
def bind (procedure : Procedure Result)
    (continuation : Result → Procedure Next) : Procedure Next :=
  match procedure with
  | .done result => continuation result
  | .abort reason => .abort reason
  | .emit events next => .emit events (next.bind continuation)
  | .call request next =>
      .call request fun answer => (next answer).bind continuation

instance : Monad Procedure where
  pure := .done
  bind := bind

/-- Make one call and end with its answer. -/
def request (call : Call) : Procedure call.Answer :=
  .call call .done

/-- Report events in order. -/
def reportAll (events : List Event) : Procedure Unit :=
  .emit events (.done ())

/-- Report one event. -/
def report (event : Event) : Procedure Unit :=
  reportAll [event]

/--
Follow a procedure on a subsystem from a state, after some exchanges and some
events, the latest of each first.
-/
def runAfter (subsystem : Subsystem State) (exchanges : List Exchange)
    (events : List Event) : Procedure Result → State → Run State Result
  | .done result, state =>
      ⟨.ok result, state, exchanges.reverse, events.reverse⟩
  | .abort reason, state =>
      ⟨.error reason, state, exchanges.reverse, events.reverse⟩
  | .emit reported next, state =>
      next.runAfter subsystem exchanges (reported.reverse ++ events) state
  | .call request next, state =>
      let reply := subsystem.respond request state
      (next reply.answer).runAfter subsystem
        (⟨request, reply.answer⟩ :: exchanges)
        ((reply.events.map .call).reverse ++ events) reply.state

/-- Follow a procedure on a subsystem from a state. -/
def run (subsystem : Subsystem State) (procedure : Procedure Result)
    (state : State) : Run State Result :=
  procedure.runAfter subsystem [] [] state

end Procedure

/-! ## Laws -/

namespace Run

variable {Result Next State : Type}

/-- Put what happened before in front of a run. -/
def after (earlier : Run State Result) (later : Run State Next) :
    Run State Next where
  ending := later.ending
  state := later.state
  exchanges := earlier.exchanges ++ later.exchanges
  events := earlier.events ++ later.events

/-- Go on from a run if it ended with a result. -/
def andThen (earlier : Run State Result)
    (later : Result → State → Run State Next) : Run State Next :=
  match earlier.ending with
  | .ok result => earlier.after (later result earlier.state)
  | .error reason =>
      ⟨.error reason, earlier.state, earlier.exchanges, earlier.events⟩

end Run

namespace Procedure

variable {Result Next Last State : Type}

@[simp]
theorem bind_done (procedure : Procedure Result) :
    procedure.bind .done = procedure := by
  induction procedure with
  | done result => rfl
  | abort reason => rfl
  | emit events next ih => simp only [bind, ih]
  | call request next ih => simp only [bind, ih]

theorem bind_assoc (procedure : Procedure Result)
    (first : Result → Procedure Next) (second : Next → Procedure Last) :
    (procedure.bind first).bind second =
      procedure.bind fun result => (first result).bind second := by
  induction procedure with
  | done result => rfl
  | abort reason => rfl
  | emit events next ih => simp only [bind, ih]
  | call request next ih => simp only [bind, ih]

instance : LawfulMonad Procedure :=
  LawfulMonad.mk' Procedure bind_done (fun _ _ => rfl) bind_assoc

/-- What happened before comes first and changes nothing else. -/
theorem runAfter_eq (subsystem : Subsystem State) (exchanges : List Exchange)
    (events : List Event) (procedure : Procedure Result) (state : State) :
    procedure.runAfter subsystem exchanges events state =
      { procedure.run subsystem state with
        exchanges :=
          exchanges.reverse ++ (procedure.run subsystem state).exchanges
        events :=
          events.reverse ++ (procedure.run subsystem state).events } := by
  induction procedure generalizing exchanges events state with
  | done result => simp [run, runAfter]
  | abort reason => simp [run, runAfter]
  | emit reported next ih =>
      simp only [run, runAfter]
      rw [ih, ih []]
      simp
  | call request next ih =>
      simp only [run, runAfter]
      rw [ih, ih _ [_]]
      simp

@[simp]
theorem run_done (subsystem : Subsystem State) (result : Result)
    (state : State) :
    (Procedure.done result).run subsystem state =
      ⟨.ok result, state, [], []⟩ := rfl

@[simp]
theorem run_abort (subsystem : Subsystem State) (reason : Abort)
    (state : State) :
    (Procedure.abort reason : Procedure Result).run subsystem state =
      ⟨.error reason, state, [], []⟩ := rfl

/-- Events are reported before the rest. -/
theorem run_emit (subsystem : Subsystem State) (events : List Event)
    (next : Procedure Result) (state : State) :
    (Procedure.emit events next).run subsystem state =
      { next.run subsystem state with
        events := events ++ (next.run subsystem state).events } := by
  simp [run, runAfter, runAfter_eq subsystem [] events.reverse]

/-- A call is answered, and its answer decides the rest. -/
theorem run_call (subsystem : Subsystem State) (request : Call)
    (next : request.Answer → Procedure Result) (state : State) :
    (Procedure.call request next).run subsystem state =
      let reply := subsystem.respond request state
      let rest := (next reply.answer).run subsystem reply.state
      { rest with
        exchanges := ⟨request, reply.answer⟩ :: rest.exchanges
        events := reply.events.map .call ++ rest.events } := by
  simp only [run, runAfter]
  rw [runAfter_eq]
  simp [run]

/-- Running a sequence runs its parts one after the other. -/
theorem run_bind (subsystem : Subsystem State)
    (procedure : Procedure Result) (continuation : Result → Procedure Next)
    (state : State) :
    (procedure.bind continuation).run subsystem state =
      (procedure.run subsystem state).andThen fun result later =>
        (continuation result).run subsystem later := by
  induction procedure generalizing state with
  | done result => simp [bind, Run.andThen, Run.after]
  | abort reason => simp [bind, Run.andThen]
  | emit events next ih =>
      simp only [bind, run_emit, ih, Run.andThen, Run.after]
      split <;> simp
  | call request next ih =>
      simp only [bind, run_call, ih, Run.andThen, Run.after]
      split <;> simp [List.append_assoc]

end Procedure

end FileConformance
