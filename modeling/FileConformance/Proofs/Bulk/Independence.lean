import FileConformance.Proofs.Handles.Ledger
import FileConformance.Proofs.Scenario.Shape
import FileConformance.Proofs.Store.Turnover

/-!
# Bulk steps visit every file by itself

A bulk step takes the files of a table in their order, and each of them has one
turn: at most one call, the check of it, and the file as it is afterwards.  The
call depends on the file alone; the check and the binding afterwards on the file
and on the answer of this call.  No answer ends the walk, and none has a part in
another turn, unless the subsystem itself makes it so.

All of this holds on any subsystem, and whatever the files are bound to.
-/

namespace FileConformance

open Procedure

/-- Why the call of an exchange failed, if it did. -/
def Exchange.failure? (exchange : Exchange) : Option CallError :=
  exchange.call.failure? exchange.answer

/--
What a binding becomes through an exchange: a handle that is handed out binds,
and the handle of a binding is released when it is taken back.
-/
def Binding.through (binding : Binding) (exchange : Exchange) : Binding :=
  match exchange.issued?, exchange.returned? with
  | some handle, _ => .bound handle
  | none, some handle =>
      if binding = .bound handle then .released handle else binding
  | none, none => binding

namespace BulkCall

/-- What a bulk call checks. -/
def operation : BulkCall → Operation
  | .create => .create
  | .openFile => .openFile
  | .close => .close
  | .delete => .delete

/-- What is expected of a file; without a live handle a close must fail. -/
def judges (call : BulkCall) (expectation : Expectation)
    (binding : Binding) : Expectation :=
  match call, binding with
  | .close, .bound _ => expectation
  | .close, _ => .failure
  | _, _ => expectation

/-- The handle that a check tells: the new one, or that of the file. -/
def tells? (call : BulkCall) (binding : Binding)
    (answered : Option Exchange) : Option Handle :=
  match call with
  | .create => answered.bind Exchange.issued?
  | .openFile => answered.bind Exchange.issued?
  | .close => binding.latest?
  | .delete => binding.live?

/-- What a check adds if there was no live handle to close. -/
def remark? (call : BulkCall) (binding : Binding) : Option String :=
  match call, binding with
  | .close, .released _ => some "handle already closed"
  | .close, .unbound => some "never bound, nothing to close"
  | _, _ => none

/-- How a call comes out that was to succeed or to fail, and did or did not. -/
def outcome (expectation : Expectation) (succeeded : Bool) : Outcome :=
  match expectation, succeeded with
  | .success, true => .pass
  | .success, false => .unexpectedFailure
  | .failure, true => .unexpectedSuccess
  | .failure, false => .expectedFailure

/--
The check of a file whose call was answered, or that there was none for.  What
was not called counts as a call that failed.
-/
def verdict (call : BulkCall) (expectation : Expectation)
    (file : TrackedFile) (answered : Option Exchange) : Check where
  operation := call.operation
  target := file.name
  expectation := call.judges expectation file.binding
  outcome := outcome (call.judges expectation file.binding)
    (answered.any fun exchange => exchange.failure?.isNone)
  handle := call.tells? file.binding answered
  error := answered.bind fun exchange =>
    exchange.failure?.map CallError.message
  detail := call.remark? file.binding

end BulkCall

namespace Bulk

/-! ## Turns -/

/-- What a bulk step did with one file. -/
structure Turn where
  file : TrackedFile
  /-- The call that was made, with its answer. -/
  answered : Option Exchange
  check : Check
  /-- The file as it is afterwards. -/
  moved : TrackedFile

namespace Turn

/-- What a turn leaves behind. -/
def visit (turn : Turn) : Visit :=
  ⟨turn.check, turn.moved⟩

/-- Everything in a turn comes of its file and of the answer for it. -/
structure Proper (call : BulkCall) (expectation : Expectation)
    (turn : Turn) : Prop where
  calls_eq : callsOf turn.answered.toList = call.calls turn.file
  check_eq : turn.check =
    call.verdict expectation turn.file turn.answered
  moved_eq : turn.moved = { turn.file with
    binding := turn.answered.elim turn.file.binding
      turn.file.binding.through }

/-- Deleting a file leaves its binding alone. -/
theorem Proper.unmoved {turn : Turn} {expectation : Expectation}
    (proper : turn.Proper .delete expectation) :
    turn.moved = turn.file := by
  rcases turn with ⟨file, answered, check, moved⟩
  have called := proper.calls_eq
  refine proper.moved_eq.trans ?_
  cases answered with
  | none => rfl
  | some exchange =>
      rcases exchange with ⟨request, answer⟩
      obtain rfl : request = .delete file.path :=
        List.singleton_inj.mp called
      rfl

end Turn

/-- Whatever is answered, a visit is a turn of its file. -/
def TakesTurn (call : BulkCall) (expectation : Expectation)
    (file : TrackedFile) (visit : Procedure Visit) : Prop :=
  visit.Ensures fun exchanges _ made =>
    ∃ turn : Turn, turn.Proper call expectation ∧ turn.file = file ∧
      exchanges = turn.answered.toList ∧ made = turn.visit

variable {call : BulkCall} {expectation : Expectation}
  {file : TrackedFile}

/-- A visit of one call is a turn if it is one with every answer. -/
theorem takesTurn_of_request {request : Call}
    {finish : request.Answer → Visit}
    (proper : ∀ answer, Turn.Proper call expectation
      ⟨file, some ⟨request, answer⟩, (finish answer).check,
        (finish answer).file⟩) :
    TakesTurn call expectation file
      (Procedure.request request >>= fun answer =>
        pure (finish answer)) :=
  ensures_request_bind fun answer =>
    ensures_pure ⟨_, proper answer, rfl, rfl, rfl⟩

theorem close_takesTurn (expectation : Expectation)
    (file : TrackedFile) :
    TakesTurn .close expectation file (close expectation file) := by
  rcases file with ⟨index, name, binding⟩
  cases binding with
  | unbound =>
      exact ensures_pure ⟨⟨⟨index, name, .unbound⟩, none, _, _⟩,
        ⟨rfl, rfl, rfl⟩, rfl, rfl, rfl⟩
  | bound handle =>
      refine takesTurn_of_request fun answer => ?_
      cases answer with
      | error reason => cases expectation <;> exact ⟨rfl, rfl, rfl⟩
      | ok _ =>
          refine ⟨rfl, by cases expectation <;> rfl, ?_⟩
          show _ = TrackedFile.mk index name
            (if Binding.bound handle = .bound handle then .released handle
              else .bound handle)
          rw [if_pos rfl]
          rfl
  | released handle =>
      refine takesTurn_of_request fun answer => ?_
      cases answer with
      | error reason => exact ⟨rfl, rfl, rfl⟩
      | ok _ =>
          refine ⟨rfl, rfl, ?_⟩
          show _ = TrackedFile.mk index name
            (if Binding.released handle = .bound handle then
              .released handle else .released handle)
          rw [ite_self]

theorem visit_takesTurn (call : BulkCall) (expectation : Expectation)
    (file : TrackedFile) :
    TakesTurn call expectation file (visit call expectation file) := by
  cases call with
  | create =>
      refine takesTurn_of_request fun answer => ?_
      cases answer <;> cases expectation <;> exact ⟨rfl, rfl, rfl⟩
  | openFile =>
      refine takesTurn_of_request fun answer => ?_
      cases answer <;> cases expectation <;> exact ⟨rfl, rfl, rfl⟩
  | close => exact close_takesTurn expectation file
  | delete =>
      refine takesTurn_of_request fun answer => ?_
      cases answer <;> cases expectation <;> exact ⟨rfl, rfl, rfl⟩

/-! ## Walks -/

/-- A walk is one turn after the other, each of them for the next file. -/
theorem files_takeTurns (call : BulkCall) (expectation : Expectation)
    (tracked : List TrackedFile) :
    (Walk.files (visit call expectation) tracked).Ensures
      fun exchanges _ made => ∃ turns : List Turn,
        (∀ turn ∈ turns, turn.Proper call expectation) ∧
          turns.map Turn.file = tracked ∧
          exchanges = turns.flatMap (fun turn => turn.answered.toList) ∧
          made = turns.map Turn.visit := by
  induction tracked with
  | nil =>
      exact ensures_pure ⟨[], List.forall_mem_nil _, rfl, rfl, rfl⟩
  | cons file rest ih =>
      rw [Walk.files_cons]
      refine ensures_bind
        ((visit_takesTurn call expectation file).mono ?_)
      rintro _ _ _ ⟨turn, proper, rfl, rfl, rfl⟩
      refine ensures_bind (ih.mono ?_)
      rintro _ _ _ ⟨turns, each, rfl, rfl, rfl⟩
      refine ensures_pure ⟨turn :: turns,
        List.forall_mem_cons.mpr ⟨proper, each⟩, rfl, ?_, rfl⟩
      rw [List.append_nil, List.flatMap_cons]

section

variable {State : Type} {subsystem : Subsystem State} {state : State}

/-- No answer makes a bulk visit give up, be it honest or not. -/
theorem visit_yields (call : BulkCall) (expectation : Expectation)
    (file : TrackedFile) :
    (visit call expectation file).Yields subsystem state
      fun _ _ => True := by
  cases call with
  | create => exact yields_one_call trivial
  | openFile => exact yields_one_call trivial
  | close =>
      show (close expectation file).Yields subsystem state fun _ _ => True
      unfold close
      split
      · exact yields_one_call trivial
      · exact yields_one_call trivial
      · exact yields_pure trivial
  | delete => exact yields_one_call trivial

theorem files_yields (call : BulkCall) (expectation : Expectation)
    (tracked : List TrackedFile) :
    (Walk.files (visit call expectation) tracked).Yields subsystem state
      fun _ _ => True := by
  induction tracked generalizing state with
  | nil => exact yields_pure trivial
  | cons file rest ih =>
      rw [Walk.files_cons]
      apply yields_bind
      apply (visit_yields call expectation file).mono
      intro first middle _
      apply yields_bind
      apply ih.mono
      intro others later _
      exact yields_pure trivial

end

/-- The calls of turns are those of their files, in their order. -/
theorem callsOf_turns {turns : List Turn}
    (each : ∀ turn ∈ turns, turn.Proper call expectation) :
    callsOf (turns.flatMap fun turn => turn.answered.toList) =
      (turns.map Turn.file).flatMap call.calls := by
  rw [callsOf, List.map_flatMap, List.flatMap_map]
  exact List.flatMap_congr fun turn member => (each turn member).calls_eq

/--
On any subsystem, a bulk step on any table makes the calls of its files in their
order, one for each file or none if there is nothing to close, and ends.  Every
file has a turn in which it gets its check and keeps its index and its name.
The check and the new binding come of the file and of the answer to its own
call: a create or an open that succeeded binds the file, the close of its live
handle releases it, and nothing else moves a binding, least of all a delete.
-/
theorem perform_takesTurns {State : Type} (subsystem : Subsystem State)
    (limit : NameLimit) (table : Table) (state : State) (call : BulkCall)
    (expectation : Expectation) :
    let run := ((Step.bulk call expectation).perform limit table).run
      subsystem state
    let calls := table.files.flatMap call.calls
    run.exchanges = subsystem.exchanges calls state ∧
      run.state = subsystem.after calls state ∧
      ∃ turns : List Turn,
        (∀ turn ∈ turns, turn.Proper call expectation) ∧
          turns.map Turn.file = table.files ∧
          run.exchanges =
            turns.flatMap (fun turn => turn.answered.toList) ∧
          run.ending = .ok (turns.map Turn.check,
            { table with files := turns.map Turn.moved }) ∧
          (call = .delete → turns.map Turn.moved = table.files) := by
  intro run calls
  have performed : ((Step.bulk call expectation).perform limit
      table).Ensures fun exchanges _ result => ∃ turns : List Turn,
        (∀ turn ∈ turns, turn.Proper call expectation) ∧
          turns.map Turn.file = table.files ∧
          exchanges = turns.flatMap (fun turn => turn.answered.toList) ∧
          result = (turns.map Turn.check,
            { table with files := turns.map Turn.moved }) := by
    refine ensures_bind
      ((files_takeTurns call expectation table.files).mono ?_)
    rintro _ _ _ ⟨turns, each, files, rfl, rfl⟩
    refine ensures_pure ⟨turns, each, files, List.append_nil _, ?_⟩
    rw [List.map_map, List.map_map]
    rfl
  have ends : ((Step.bulk call expectation).perform limit table).Yields
      subsystem state fun _ _ => True := by
    apply yields_bind
    apply (files_yields call expectation table.files).mono
    intro made later _
    exact yields_pure trivial
  rcases ends with ⟨result, ended, _⟩
  rcases performed.of_ended ended with
    ⟨_, ⟨turns, each, files, exchanges, rfl⟩, _⟩
  have made : run.exchanges.map Exchange.call = calls := by
    show callsOf run.exchanges = calls
    rw [exchanges, callsOf_turns each, files]
  refine ⟨?_, ?_, turns, each, files, exchanges, ended, ?_⟩
  · rw [← made]
    exact run_exchanges _ state
  · rw [← made]
    exact run_state _ state
  · rintro rfl
    rw [← files]
    exact List.map_congr_left fun turn member => (each turn member).unmoved

end Bulk

end FileConformance
