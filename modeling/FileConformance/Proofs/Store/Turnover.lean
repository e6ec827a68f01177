import FileConformance.Proofs.Procedure.Brings
import FileConformance.Proofs.Store.Bystanders
import FileConformance.Proofs.Store.Handles

/-!
# The handles that calls hand out and take back

A call hands out one handle, takes one back, moves one, or leaves all of them
alone.  Which of these it does can be read off its answer, and so the answers of
a sequence of calls tell how many handles it issued and how many of these are
left open.
-/

namespace FileConformance

/-- The handle that a call takes back, if it takes one back. -/
def Call.returned? : (request : Call) → request.Answer → Option Handle
  | .close handle, .ok _ => some handle
  | _, _ => none

namespace Exchange

/-- The handle that was handed out. -/
def issued? (exchange : Exchange) : Option Handle :=
  exchange.call.issued? exchange.answer

/-- The handle that was taken back. -/
def returned? (exchange : Exchange) : Option Handle :=
  exchange.call.returned? exchange.answer

end Exchange

/-- The handles that were handed out, in their order. -/
def issuedIn (exchanges : List Exchange) : List Handle :=
  exchanges.filterMap Exchange.issued?

/-- The handles that were taken back, in their order. -/
def returnedIn (exchanges : List Exchange) : List Handle :=
  exchanges.filterMap Exchange.returned?

namespace Store

/-! ## One call -/

/--
What became of the handles in a call about some file that handed out and took
back some handles.
-/
inductive Turnover (store : Store) (concerned : Option Nat)
    (later : Store) : Option Handle → Option Handle → Prop where
  | keep (handles_eq : later.handles = store.handles)
      (nextHandle_eq : later.nextHandle = store.nextHandle) :
      Turnover store concerned later none none
  | move (handle : Handle) (count : Nat)
      (handles_eq : later.handles =
        store.handles.adjust handle fun opened =>
          { opened with position := opened.position + count })
      (nextHandle_eq : later.nextHandle = store.nextHandle) :
      Turnover store concerned later none none
  | issue {file : Nat} (name : Bytes) (about : concerned = some file)
      (handles_eq : later.handles =
        store.handles.insert ⟨store.nextHandle⟩ ⟨file, name, 0⟩)
      (nextHandle_eq : later.nextHandle = store.nextHandle + 1) :
      Turnover store concerned later (some ⟨store.nextHandle⟩) none
  | giveBack {handle : Handle} {opened : StoreHandle}
      (found : store.handles.find? handle = some opened)
      (handles_eq : later.handles = store.handles.remove handle)
      (nextHandle_eq : later.nextHandle = store.nextHandle) :
      Turnover store concerned later none (some handle)

variable {store : Store}

theorem create_turnover (store : Store) (name : Bytes) :
    Turnover store (store.concerned? (.create name))
      (store.create name).state
      (Call.issued? (.create name) (store.create name).answer) none := by
  cases admitted : store.admitCreate name with
  | error reason =>
      rw [create_of_refused admitted]
      exact .keep rfl rfl
  | ok _ =>
      have unhandled := fileToCreate_eq store name
      have number : (store.fileToCreate name).2.nextHandle =
          store.nextHandle := by
        rw [unhandled]
      rw [create_of_admitted admitted, number]
      refine .issue name rfl ?_ ?_
      · rw [openHandle, number, unhandled]
      · rw [openHandle, number]

theorem openFile_turnover (store : Store) (name : Bytes) :
    Turnover store (store.concerned? (.openFile name))
      (store.openFile name).state
      (Call.issued? (.openFile name) (store.openFile name).answer)
      none := by
  cases admitted : store.admitOpen name with
  | error reason =>
      rw [openFile_of_refused admitted]
      exact .keep rfl rfl
  | ok file =>
      rw [openFile_of_admitted admitted]
      exact .issue name (admitOpen_eq_ok_iff.mp admitted).2.2.1 rfl rfl

theorem close_turnover (store : Store) (concerned : Option Nat)
    (handle : Handle) :
    Turnover store concerned (store.close handle).state none
      (Call.returned? (.close handle) (store.close handle).answer) := by
  cases admitted : store.admitHandle handle with
  | error reason =>
      rw [close_of_refused admitted]
      exact .keep rfl rfl
  | ok opened =>
      rw [close_of_admitted admitted]
      refine .giveBack (admitHandle_eq_ok_iff.mp admitted).2 ?_ ?_
      · rw [surrender_eq]
      · rw [surrender_eq]

theorem read_turnover (store : Store) (concerned : Option Nat)
    (handle : Handle) (buffer : Bytes) :
    Turnover store concerned (store.read handle buffer).state none
      none := by
  rcases exists_read_eq store handle buffer with
    ⟨generator, same | ⟨opened, count, _, same⟩⟩
  · rw [same]
    exact .keep rfl rfl
  · rw [same]
    exact .move handle count rfl rfl

theorem write_turnover (store : Store) (concerned : Option Nat)
    (handle : Handle) (data : Bytes) :
    Turnover store concerned (store.write handle data).state none
      none := by
  cases admitted : store.admitHandle handle with
  | error reason =>
      rw [write_of_refused data admitted]
      exact .keep rfl rfl
  | ok opened =>
      cases drew : (store.chance store.settings.inputOutputError).1 with
      | true =>
          rw [write_of_failed data admitted drew]
          exact .keep rfl rfl
      | false =>
          cases room :
              store.drawn.checkSpace (store.drawn.growth opened data) with
          | error full =>
              rw [write_of_full admitted drew room]
              exact .keep rfl rfl
          | ok _ =>
              rw [write_of_admitted admitted drew room]
              refine .move handle data.length ?_ ?_
              · rw [writtenBack_eq, append_eq]
                rfl
              · rw [writtenBack_eq, append_eq]
                rfl

theorem delete_turnover (store : Store) (concerned : Option Nat)
    (name : Bytes) :
    Turnover store concerned (store.delete name).state none none := by
  cases admitted : store.admitDelete name with
  | error reason =>
      rw [delete_of_refused admitted]
      exact .keep rfl rfl
  | ok file =>
      rw [delete_of_admitted admitted]
      refine .keep ?_ ?_
      · rw [unlink_eq]
      · rw [unlink_eq]

/-- The answer of a call tells what became of the handles. -/
theorem respond_turnover (store : Store) {request : Call}
    (returns : request.kind ≠ .exit) :
    Turnover store (store.concerned? request)
      (subsystem.respond request store).state
      (request.issued? (subsystem.respond request store).answer)
      (request.returned? (subsystem.respond request store).answer) := by
  cases request with
  | create name => exact create_turnover store name
  | openFile name => exact openFile_turnover store name
  | close handle => exact close_turnover store _ handle
  | read handle buffer => exact read_turnover store _ handle buffer
  | write handle data => exact write_turnover store _ handle data
  | delete name => exact delete_turnover store _ name
  | exit code => exact (returns rfl).elim

namespace Turnover

variable {later : Store} {concerned : Option Nat}
  {issued returned : Option Handle}

theorem nextHandle_eq
    (turnover : Turnover store concerned later issued returned) :
    later.nextHandle = store.nextHandle + issued.toList.length := by
  cases turnover with
  | keep _ number => exact number
  | move handle count _ number => exact number
  | issue name about _ number => exact number
  | giveBack found _ number => exact number

theorem size_eq (wf : store.WellFormed)
    (turnover : Turnover store concerned later issued returned) :
    later.handles.size + returned.toList.length =
      store.handles.size + issued.toList.length := by
  cases turnover with
  | keep handles => rw [handles]
  | move handle count handles =>
      rw [handles, Registry.size_adjust]
  | issue name about handles =>
      rw [handles, Registry.size_insert wf.nextHandle_unused]
      rfl
  | giveBack found handles =>
      rw [handles]
      exact Registry.size_remove found

/-- A handle that is handed out is the next one. -/
theorem issued_eq (turnover : Turnover store concerned later issued returned)
    {handle : Handle} (handed : issued = some handle) :
    handle = ⟨store.nextHandle⟩ := by
  cases turnover with
  | issue name about => exact (Option.some.inj handed).symm
  | keep => cases handed
  | move => cases handed
  | giveBack => cases handed

/-- An open handle is on the file it was on, or on the one concerned. -/
theorem file_eq (turnover : Turnover store concerned later issued returned)
    {handle : Handle} {opened : StoreHandle}
    (found : later.handles.find? handle = some opened) :
    (∃ before, store.handles.find? handle = some before ∧
        before.file = opened.file) ∨
      concerned = some opened.file := by
  cases turnover with
  | keep handles =>
      rw [handles] at found
      exact Or.inl ⟨opened, found, rfl⟩
  | move moved count handles =>
      rw [handles, Registry.find?_adjust] at found
      split at found
      · rcases Option.map_eq_some_iff.mp found with ⟨before, there, rfl⟩
        exact Or.inl ⟨before, there, rfl⟩
      · exact Or.inl ⟨opened, found, rfl⟩
  | issue name about handles =>
      rw [handles, Registry.find?_insert] at found
      split at found
      · cases found
        exact Or.inr about
      · exact Or.inl ⟨opened, found, rfl⟩
  | giveBack _ handles =>
      rw [handles, Registry.find?_remove] at found
      split at found
      · cases found
      · exact Or.inl ⟨opened, found, rfl⟩

end Turnover

/-! ## Sequences of calls -/

theorem WellFormed.respond (wf : store.WellFormed) (request : Call) :
    (subsystem.respond request store).state.WellFormed :=
  wf.evolves (act_evolves store (.call request))

/-- A filtered list is longer by what its first element gives. -/
theorem length_filterMap_cons {Item Key : Type}
    (find? : Item → Option Key) (first : Item) (rest : List Item) :
    ((first :: rest).filterMap find?).length =
      (find? first).toList.length + (rest.filterMap find?).length := by
  rw [List.filterMap_cons]
  cases find? first with
  | none => exact (Nat.zero_add _).symm
  | some key => exact Nat.add_comm _ 1

/-- Every call moves the number of the next handle by what it hands out. -/
theorem nextHandle_respond (store : Store) (request : Call) :
    (subsystem.respond request store).state.nextHandle =
      store.nextHandle + (request.issued?
        (subsystem.respond request store).answer).toList.length := by
  by_cases ends : request.kind = .exit
  · cases request with
    | exit code => exact nextHandle_exit store code
    | _ => cases ends
  · exact (respond_turnover store ends).nextHandle_eq

/-- As many handles were issued as were handed out. -/
theorem nextHandle_after (calls : List Call) (store : Store) :
    (subsystem.after calls store).nextHandle = store.nextHandle +
      (issuedIn (subsystem.exchanges calls store)).length := by
  induction calls generalizing store with
  | nil => rfl
  | cons request rest ih =>
      let reply := subsystem.respond request store
      have issued :
          (issuedIn (subsystem.exchanges (request :: rest) store)).length =
            (request.issued? reply.answer).toList.length +
              (issuedIn (subsystem.exchanges rest reply.state)).length :=
        length_filterMap_cons Exchange.issued? _ _
      rw [issued, ← Nat.add_assoc, ← nextHandle_respond]
      exact ih reply.state

/-- Handles that were not taken back are open besides the others. -/
theorem size_after {calls : List Call}
    (returns : ∀ request ∈ calls, request.kind ≠ .exit)
    (wf : store.WellFormed) :
    (subsystem.after calls store).handles.size +
        (returnedIn (subsystem.exchanges calls store)).length =
      store.handles.size +
        (issuedIn (subsystem.exchanges calls store)).length := by
  induction calls generalizing store with
  | nil => rfl
  | cons request rest ih =>
      rw [List.forall_mem_cons] at returns
      let reply := subsystem.respond request store
      let others := subsystem.exchanges rest reply.state
      have size : reply.state.handles.size +
            (request.returned? reply.answer).toList.length =
          store.handles.size +
            (request.issued? reply.answer).toList.length :=
        (respond_turnover store returns.1).size_eq wf
      have rests : (subsystem.after rest reply.state).handles.size +
            (returnedIn others).length =
          reply.state.handles.size + (issuedIn others).length :=
        ih returns.2 (wf.respond request)
      have issued :
          (issuedIn (subsystem.exchanges (request :: rest) store)).length =
            (request.issued? reply.answer).toList.length +
              (issuedIn others).length :=
        length_filterMap_cons Exchange.issued? _ _
      have returned :
          (returnedIn (subsystem.exchanges (request :: rest) store)).length =
            (request.returned? reply.answer).toList.length +
              (returnedIn others).length :=
        length_filterMap_cons Exchange.returned? _ _
      rw [issued, returned]
      show (subsystem.after rest reply.state).handles.size + _ = _
      omega

/-- The exchanges of a run tell how many handles were issued. -/
theorem nextHandle_run {Result : Type} (procedure : Procedure Result)
    (store : Store) :
    (procedure.run subsystem store).state.nextHandle = store.nextHandle +
      (issuedIn (procedure.run subsystem store).exchanges).length := by
  rw [procedure.run_state, nextHandle_after, ← procedure.run_exchanges]

end Store

end FileConformance
