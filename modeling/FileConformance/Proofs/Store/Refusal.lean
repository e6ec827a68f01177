import FileConformance.Proofs.Store.Handles

/-!
# Calls that fail

Every call settles whether it is admitted before it changes anything, and only a
write finds out later that it does not fit.  So a call that fails leaves names,
files, queue, handles and numbers as they were, and a read that fails hands the
buffer back untouched.

One thing can move: the generator, by the draw for an input or output error
that a read or a write makes once its handle is admitted.  Where nothing is left
to chance the calls that fail could as well not have been made, and a run can do
without them.
-/

namespace FileConformance

/-- The buffer is handed back as it was, if there is one. -/
def Call.KeepsBuffer : (request : Call) → request.Answer → Prop
  | .read _ buffer, received => received.buffer = buffer
  | _, _ => True

namespace Store

/-- A call moves data through a handle that is open on a running store. -/
def Transfers (store : Store) (request : Call) : Prop :=
  (request.kind = .read ∨ request.kind = .write) ∧
    store.exitStatus = none ∧
      ∃ handle, request.handle? = some handle ∧
        (store.handles.find? handle).isSome = true

variable {store : Store} {reason : CallError}

theorem transfers_read {handle : Handle} {opened : StoreHandle}
    (admitted : store.admitHandle handle = .ok opened) (buffer : Bytes) :
    store.Transfers (.read handle buffer) := by
  rcases admitHandle_eq_ok_iff.mp admitted with ⟨alive, found⟩
  exact ⟨Or.inl rfl, alive, handle, rfl, Option.isSome_of_eq_some found⟩

theorem transfers_write {handle : Handle} {opened : StoreHandle}
    (admitted : store.admitHandle handle = .ok opened) (data : Bytes) :
    store.Transfers (.write handle data) := by
  rcases admitHandle_eq_ok_iff.mp admitted with ⟨alive, found⟩
  exact ⟨Or.inr rfl, alive, handle, rfl, Option.isSome_of_eq_some found⟩

/-! ## Where a failed call leaves the store -/

theorem read_of_failed {handle : Handle} {buffer : Bytes}
    (failed : (store.read handle buffer).answer.count = .error reason) :
    (store.read handle buffer).answer.buffer = buffer ∧
      ((store.read handle buffer).state = store ∨
        (store.Transfers (.read handle buffer) ∧
          (store.read handle buffer).state = store.drawn)) := by
  cases admitted : store.admitHandle handle with
  | error refusal =>
      simp only [read, admitted]
      exact ⟨rfl, Or.inl trivial⟩
  | ok opened =>
      have transfers := transfers_read admitted buffer
      cases drew : (store.chance store.settings.inputOutputError).1 with
      | true =>
          simp only [read, admitted, drew, if_true]
          exact ⟨rfl, Or.inr ⟨transfers, rfl⟩⟩
      | false =>
          simp only [read, admitted, drew, Bool.false_eq_true,
            if_false] at failed
          cases failed

theorem write_of_failure {handle : Handle} {data : Bytes}
    (failed : (store.write handle data).answer = .error reason) :
    (store.write handle data).state = store ∨
      (store.Transfers (.write handle data) ∧
        (store.write handle data).state = store.drawn) := by
  cases admitted : store.admitHandle handle with
  | error refusal =>
      rw [write_of_refused data admitted]
      exact Or.inl rfl
  | ok opened =>
      have transfers := transfers_write admitted data
      cases drew : (store.chance store.settings.inputOutputError).1 with
      | true =>
          rw [write_of_failed data admitted drew]
          exact Or.inr ⟨transfers, rfl⟩
      | false =>
          cases room :
              store.drawn.checkSpace (store.drawn.growth opened data) with
          | error full =>
              rw [write_of_full admitted drew room]
              exact Or.inr ⟨transfers, rfl⟩
          | ok _ =>
              rw [write_of_admitted admitted drew room] at failed
              cases failed

/-- A failed call leaves the store it found, at most after one draw. -/
theorem respond_of_failed {request : Call}
    (failed : request.failure? (subsystem.respond request store).answer =
      some reason) :
    request.KeepsBuffer (subsystem.respond request store).answer ∧
      ((subsystem.respond request store).state = store ∨
        (store.Transfers request ∧
          (subsystem.respond request store).state = store.drawn)) := by
  cases request with
  | create name =>
      refine ⟨trivial, Or.inl ?_⟩
      rcases create_handles store name with ⟨refusal, same⟩ | ⟨_, done, _⟩
      · simp only [subsystem, same]
        rfl
      · simp only [subsystem, done] at failed
        cases failed
  | openFile name =>
      refine ⟨trivial, Or.inl ?_⟩
      rcases openFile_handles store name with
        ⟨refusal, same⟩ | ⟨_, done, _⟩
      · simp only [subsystem, same]
        rfl
      · simp only [subsystem, done] at failed
        cases failed
  | close handle =>
      refine ⟨trivial, Or.inl ?_⟩
      rcases close_handles store handle with ⟨refusal, same⟩ | ⟨done, _⟩
      · simp only [subsystem, same]
        rfl
      · simp only [subsystem, done] at failed
        cases failed
  | read handle buffer =>
      have uncounted :
          (store.read handle buffer).answer.count = .error reason := by
        replace failed : Call.failure? (.read handle buffer)
          (store.read handle buffer).answer = some reason := failed
        rcases answered : (store.read handle buffer).answer with
          ⟨count, after, length⟩
        rw [answered] at failed
        cases count with
        | error refusal =>
            cases failed
            rfl
        | ok number => cases failed
      exact read_of_failed uncounted
  | write handle data =>
      have unwritten :
          (store.write handle data).answer = .error reason := by
        replace failed : Call.failure? (.write handle data)
          (store.write handle data).answer = some reason := failed
        cases answered : (store.write handle data).answer with
        | error refusal =>
            rw [answered] at failed
            cases failed
            rfl
        | ok number =>
            rw [answered] at failed
            cases failed
      exact ⟨trivial, write_of_failure unwritten⟩
  | delete name =>
      refine ⟨trivial, Or.inl ?_⟩
      cases admitted : store.admitDelete name with
      | error refusal =>
          simp only [subsystem, delete_of_refused admitted]
          rfl
      | ok file =>
          simp only [subsystem, delete_of_admitted admitted] at failed
          cases failed
  | exit code => cases failed

/--
A call that fails changes nothing but the generator, and hands a buffer back as
it was.  The generator moves only if data was to be moved through an open handle
of a running store on which input or output errors happen, and then by the one
draw that decides about such an error.
-/
theorem failed_call_changes_nothing {request : Call}
    (failed : request.failure? (subsystem.respond request store).answer =
      some reason) :
    let reply := subsystem.respond request store
    reply.state = { store with generator := reply.state.generator } ∧
      request.KeepsBuffer reply.answer ∧
      (reply.state.generator = store.generator ∨
        (store.Transfers request ∧
          store.settings.inputOutputError ≠ .never ∧
          reply.state.generator =
            (store.settings.inputOutputError.draw
              store.generator).2)) := by
  intro reply
  rcases respond_of_failed failed with ⟨kept, same | ⟨transfers, drew⟩⟩
  · refine ⟨?_, kept, Or.inl (congrArg Store.generator same)⟩
    rw [show reply.state = store from same]
  · refine ⟨?_, kept, ?_⟩
    · rw [show reply.state = store.drawn from drew]
      rfl
    · have moved : reply.state.generator = store.drawn.generator :=
        congrArg Store.generator drew
      by_cases calm : store.settings.inputOutputError = .never
      · left
        rw [moved, drawn, chance, calm, Probability.draw_never]
      · exact Or.inr ⟨transfers, calm, moved⟩

/-- A write that was spared an input or output error finds no space. -/
theorem failed_call_changes_nothing_full :
    let settings : StoreSettings :=
      { capacity := some 2
        inputOutputError := .sometimes 4611686018427387904 }
    let store := (fresh settings (.ofSeed 0)).after
      [.call (.create [97]), .call (.write ⟨2⟩ [1])]
    let request : Call := .write ⟨2⟩ [2, 3]
    let reply := subsystem.respond request store
    request.failure? reply.answer = some .noSpace ∧
      reply.state = { store with generator := reply.state.generator } ∧
      (reply.state.generator = store.generator ∨
        (store.Transfers request ∧
          store.settings.inputOutputError ≠ .never ∧
          reply.state.generator =
            (store.settings.inputOutputError.draw
              store.generator).2)) := by
  intro settings store request reply
  have failed : request.failure? reply.answer = some .noSpace := by
    decide +kernel
  clear_value store
  rcases failed_call_changes_nothing failed with ⟨same, _, moved⟩
  exact ⟨failed, same, moved⟩

/-! ## Runs without failures -/

/-- Whether an action is a call that fails. -/
def fails (store : Store) : Action → Bool
  | .call request =>
      (request.failure? (subsystem.respond request store).answer).isSome
  | .crash => false

/-- The actions of a run that do not fail. -/
def successes (store : Store) : List Action → List Action
  | [] => []
  | action :: rest =>
      if store.fails action then (store.act action).successes rest
      else action :: (store.act action).successes rest

/-- Where no error is left to chance, a failed call leaves the store alone. -/
theorem act_of_fails {action : Action}
    (certain : ∀ threshold,
      store.settings.inputOutputError ≠ .sometimes threshold)
    (failed : store.fails action = true) : store.act action = store := by
  cases action with
  | crash => cases failed
  | call request =>
      rw [fails, Option.isSome_iff_exists] at failed
      rcases failed with ⟨reason, failed⟩
      rcases respond_of_failed failed with ⟨_, same | ⟨_, drew⟩⟩
      · exact same
      · refine drew.trans ?_
        rw [drawn, chance]
        cases probability : store.settings.inputOutputError with
        | never => rfl
        | always => rfl
        | sometimes threshold =>
            exact (certain threshold probability).elim

/-- A run leads to the same store without the calls that fail. -/
theorem after_successes
    (certain : ∀ threshold,
      store.settings.inputOutputError ≠ .sometimes threshold)
    (actions : List Action) :
    store.after (store.successes actions) = store.after actions := by
  induction actions generalizing store with
  | nil => rfl
  | cons action rest ih =>
      have still : (store.act action).settings = store.settings :=
        settings_after store [action]
      have later := ih (still ▸ certain)
      rw [successes, after_cons, ← later]
      split
      · rename_i failed
        rw [act_of_fails certain failed]
      · rfl

end Store

end FileConformance
