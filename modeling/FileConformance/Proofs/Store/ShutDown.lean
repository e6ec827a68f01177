import FileConformance.Proofs.Plain.Basic
import FileConformance.Proofs.Store.Backing
import FileConformance.Proofs.Store.Handles

/-!
# The end of the process

Ending the process closes the handles that are open, one after the other.  Each
close flushes a file and may drop it, so what is left could depend on the order
of the closes.  It does not: closing all handles in any order leaves the files
that have a name, each with all it holds made durable, and nothing that waits.

That store is written down here without any closing, and the end of the process
is shown to lead to it.  From then on, as long as power is not lost, every call
but a further end of the process is refused, and none changes anything.
-/

namespace FileConformance

namespace Store

/--
The store that the end of the process leaves.  The files with a name stay, all
they hold is durable, and nothing waits or is open.
-/
def shutDown (store : Store) (code : Int32) : Store :=
  { store with
    files := (store.files.filter fun _ stored => stored.linked).map
      fun file stored =>
        { stored with durable := store.live file, openHandles := 0 }
    pending := []
    handles := .empty
    exitStatus := some code }

/-- The process ends after the handles were closed in some order. -/
def exitInOrder (store : Store) (order : List Handle) (code : Int32) :
    Store :=
  { (closeAll order store).state with exitStatus := some code }

variable {store later : Store}

/-! ## What is left -/

theorem getElem?_files_shutDown (store : Store) (code : Int32)
    (file : Nat) :
    (store.shutDown code).files[file]? =
      ((store.files[file]?).filter StoredFile.linked).map fun stored =>
        { stored with durable := store.live file, openHandles := 0 } := by
  simp only [shutDown, Std.ExtTreeMap.getElem?_map,
    Std.ExtTreeMap.getElem?_filter']

/-- The files that stay are those that a name denotes. -/
theorem mem_files_shutDown (wf : store.WellFormed) (code : Int32)
    (file : Nat) :
    file ∈ (store.shutDown code).files ↔
      ∃ name : Bytes, store.names[name]? = some file := by
  rw [Std.ExtTreeMap.mem_iff_isSome_getElem?, getElem?_files_shutDown,
    Option.isSome_map, wf.isSome_filter_linked_iff]

/-- What a name held is durable. -/
theorem durableContent?_shutDown (wf : store.WellFormed) (code : Int32)
    (name : Bytes) :
    (store.shutDown code).durableContent? name = store.content? name := by
  have sameNames : (store.shutDown code).names = store.names := rfl
  rw [durableContent?, content?, sameNames]
  cases named : store.names[name]? with
  | none => rfl
  | some file =>
      rcases wf.named_linked named with ⟨stored, found, linked⟩
      have left := getElem?_files_shutDown store code file
      rw [found, Option.filter_some_pos linked] at left
      simp [left]

/-! ## Closing handles one after the other -/

/-- A store that another one becomes while its handles are closed. -/
structure ClosedFrom (store later : Store) : Prop
    extends Backed later where
  /-- Closing touches the files, the queue and the handles only. -/
  rest_eq : { later with
    files := store.files
    pending := store.pending
    handles := store.handles } = store
  /-- A file that is still there holds what it held. -/
  live_eq : ∀ {file : Nat}, file ∈ later.files →
    later.live file = store.live file

namespace ClosedFrom

theorem refl (backed : store.Backed) : ClosedFrom store store where
  toBacked := backed
  rest_eq := rfl
  live_eq := fun _ => rfl

theorem names_eq (closed : ClosedFrom store later) :
    later.names = store.names := by
  have rest := congrArg Store.names closed.rest_eq
  exact rest

theorem close (closed : ClosedFrom store later) (handle : Handle) :
    ClosedFrom store (later.close handle).state := by
  cases admitted : later.admitHandle handle with
  | error reason =>
      rw [close_of_refused admitted]
      exact closed
  | ok opened =>
      rw [close_of_admitted admitted]
      refine ⟨closed.toBacked.transition (.close admitted), ?_, ?_⟩
      · rw [surrender_eq]
        exact closed.rest_eq
      · intro file there
        rw [live_surrender there]
        exact closed.live_eq (mem_files_of_surrender there)

theorem closeAll (closed : ClosedFrom store later)
    (order : List Handle) :
    ClosedFrom store (Store.closeAll order later).state := by
  induction order generalizing later with
  | nil => exact closed
  | cons handle rest ih => exact ih (closed.close handle)

/-! ### When no handle is left -/

/-- Without handles no file counts any. -/
theorem unopened (closed : ClosedFrom store later)
    (vacant : later.handles.size = 0) {file : Nat} {stored : StoredFile}
    (there : later.files[file]? = some stored) :
    stored.openHandles = 0 := by
  rw [closed.openHandles_eq there, openCount]
  apply Nat.eq_zero_of_not_pos
  rw [Registry.count_pos_iff]
  rintro ⟨handle, opened, found, _⟩
  rw [Registry.size_eq_zero_iff.mp vacant handle] at found
  cases found

/-- A file that is still there is durable as it stands. -/
theorem durable_eq (closed : ClosedFrom store later)
    (vacant : later.handles.size = 0) {file : Nat} {stored : StoredFile}
    (there : later.files[file]? = some stored) :
    stored.durable = store.live file := by
  have idle : ¬later.Held file := by
    rintro ⟨handle, opened, found, _⟩
    rw [Registry.size_eq_zero_iff.mp vacant handle] at found
    cases found
  rw [← closed.live_eq (mem_files_iff.mpr ⟨stored, there⟩),
    closed.toBacked.live_eq_durable idle, durable_of_found there]

theorem getElem?_files (closed : ClosedFrom store later)
    (wf : store.WellFormed) (vacant : later.handles.size = 0)
    (file : Nat) :
    later.files[file]? =
      ((store.files[file]?).filter StoredFile.linked).map fun stored =>
        { stored with durable := store.live file, openHandles := 0 } := by
  cases there : later.files[file]? with
  | some stored =>
      -- Nothing is open, so the file is still there because of its name.
      have unopened := closed.unopened vacant there
      have linked : stored.linked = true :=
        (closed.linked_or_open there).resolve_right fun positive =>
          Nat.ne_of_gt positive unopened
      rcases closed.linked_named there linked with ⟨name, named⟩
      rw [closed.names_eq] at named
      rcases wf.named_linked named with ⟨before, found, wasLinked⟩
      rw [found, Option.filter_some_pos wasLinked, Option.map_some,
        ← closed.durable_eq vacant there, ← unopened, wasLinked, ← linked]
  | none =>
      symm
      rw [Option.map_eq_none_iff, Option.filter_eq_none_iff]
      intro before found linked
      rcases wf.linked_named found linked with ⟨name, named⟩
      rw [← closed.names_eq] at named
      rcases closed.named_linked named with ⟨stored, still, _⟩
      rw [there] at still
      cases still

/-- All that was to be closed is closed: one store is left, by any way. -/
theorem eq_shutDown (closed : ClosedFrom store later)
    (wf : store.WellFormed) (vacant : later.handles.size = 0)
    (code : Int32) :
    { later with exitStatus := some code } = store.shutDown code := by
  have files : later.files = (store.shutDown code).files := by
    apply Std.ExtTreeMap.ext_getElem?
    intro file
    rw [getElem?_files_shutDown, closed.getElem?_files wf vacant]
  have rest := congrArg
    (fun base : Store =>
      { base with
        files := later.files
        pending := later.pending
        handles := later.handles
        exitStatus := some code })
    closed.rest_eq
  refine rest.trans ?_
  simp only [files, closed.toBacked.pending_eq_nil vacant,
    Registry.eq_empty_of_size_eq_zero vacant]
  rfl

end ClosedFrom

/-- The order in which the handles are closed does not matter. -/
theorem exitInOrder_eq_shutDown (backed : store.Backed)
    (alive : store.exitStatus = none) {order : List Handle}
    (complete : ∀ handle ∈ store.handles.keys, handle ∈ order)
    (code : Int32) :
    store.exitInOrder order code = store.shutDown code := by
  have closed := (ClosedFrom.refl backed).closeAll order
  refine closed.eq_shutDown backed.toWellFormed ?_ code
  rw [Registry.size_eq_zero_iff]
  intro handle
  rw [(closeAll_alive order alive).2]
  split
  · rfl
  · rename_i missing
    rw [Registry.find?_eq_none_iff]
    exact fun registered => missing (complete handle registered)

theorem exit_eq_shutDown (backed : store.Backed)
    (alive : store.exitStatus = none) (code : Int32) :
    (store.exit code).state = store.shutDown code := by
  simp only [exit, alive]
  exact exitInOrder_eq_shutDown backed alive (fun _ listed => listed) code

/-! ## After the end -/

/-- A process that has ended refuses all calls but to end again. -/
theorem respond_of_ended {status : Int32}
    (ended : store.exitStatus = some status) (request : Call) :
    (subsystem.respond request store).state = store ∧
      (request.kind ≠ .exit →
        request.failure? (subsystem.respond request store).answer =
          some .terminated) := by
  have refused : store.checkAlive = .error .terminated := by
    simp only [checkAlive, ended]
  have refusedHandle : ∀ handle,
      store.admitHandle handle = .error .terminated := by
    intro handle
    simp only [admitHandle, refused]
    rfl
  cases request with
  | create name =>
      have admitted : store.admitCreate name = .error .terminated := by
        simp only [admitCreate, refused]
        rfl
      simp only [subsystem, create_of_refused admitted]
      exact ⟨rfl, fun _ => rfl⟩
  | openFile name =>
      have admitted : store.admitOpen name = .error .terminated := by
        simp only [admitOpen, refused]
        rfl
      simp only [subsystem, openFile_of_refused admitted]
      exact ⟨rfl, fun _ => rfl⟩
  | close handle =>
      simp only [subsystem, close_of_refused (refusedHandle handle)]
      exact ⟨rfl, fun _ => rfl⟩
  | read handle buffer =>
      simp only [subsystem, read, refusedHandle handle]
      exact ⟨trivial, fun _ => rfl⟩
  | write handle data =>
      simp only [subsystem, write_of_refused data (refusedHandle handle)]
      exact ⟨rfl, fun _ => rfl⟩
  | delete name =>
      have admitted : store.admitDelete name = .error .terminated := by
        simp only [admitDelete, refused]
        rfl
      simp only [subsystem, delete_of_refused admitted]
      exact ⟨rfl, fun _ => rfl⟩
  | exit code =>
      simp only [subsystem, exit, ended]
      exact ⟨trivial, fun different => (different rfl).elim⟩

/-- No sequence of calls gets anything out of a process that has ended. -/
theorem calls_of_ended {status : Int32}
    (ended : store.exitStatus = some status) (calls : List Call) :
    subsystem.after calls store = store ∧
      ∀ exchange ∈ subsystem.exchanges calls store,
        exchange.call.kind ≠ .exit →
          exchange.call.failure? exchange.answer = some .terminated := by
  induction calls with
  | nil => exact ⟨rfl, nofun⟩
  | cons request rest ih =>
      rcases respond_of_ended ended request with ⟨same, refused⟩
      rw [Subsystem.after, List.foldl_cons, Subsystem.exchanges, same]
      refine ⟨ih.1, ?_⟩
      intro exchange made
      rcases List.mem_cons.mp made with rfl | later
      · exact refused
      · exact ih.2 exchange later

/--
The end of a running process leaves the names and what they held, now durable,
the files that a name denotes and no others, no open handle and nothing that
waits.  The handles may be closed in any order.  A process that has ended stays
as it is through any calls, and refuses all but those that end it again.
-/
theorem exit_shuts_down (settings : StoreSettings) (generator : Generator)
    (actions : List Action)
    (alive : ((fresh settings generator).after actions).exitStatus = none)
    (code : Int32) :
    let store := (fresh settings generator).after actions
    let ended := (store.exit code).state
    (ended.openHandles = 0 ∧ ended.pendingCount = 0) ∧
      ended.names = store.names ∧
      (∀ name : Bytes,
        ended.durableContent? name = store.content? name) ∧
      (∀ file : Nat, file ∈ ended.files ↔
        ∃ name : Bytes, store.names[name]? = some file) ∧
      ended.exitStatus = some code ∧
      (∀ order : List Handle,
        (∀ handle ∈ store.handles.keys, handle ∈ order) →
          store.exitInOrder order code = ended) ∧
      ∀ (halted : Store) (status : Int32),
        halted.exitStatus = some status → ∀ calls : List Call,
          subsystem.after calls halted = halted ∧
            ∀ exchange ∈ subsystem.exchanges calls halted,
              exchange.call.kind ≠ .exit →
                exchange.call.failure? exchange.answer =
                  some .terminated := by
  intro store ended
  have backed : store.Backed :=
    (Backed.fresh settings generator).after actions
  have wf := backed.toWellFormed
  have same : ended = store.shutDown code :=
    exit_eq_shutDown backed alive code
  rw [same]
  refine ⟨⟨rfl, rfl⟩, rfl, ?_, ?_, rfl, ?_, ?_⟩
  · exact durableContent?_shutDown wf code
  · exact mem_files_shutDown wf code
  · intro order complete
    exact exitInOrder_eq_shutDown backed alive complete code
  · intro halted status halts
    exact calls_of_ended halts

/--
Two handles on a file that lost its name, a third on a file that was emptied
after it was made durable, closed in the opposite order.
-/
theorem exit_shuts_down_three_handles :
    let settings : StoreSettings :=
      { sync := .sometimes 9223372036854775808, capacity := some 9 }
    let actions : List Action :=
      [.call (.create [97]), .call (.openFile [97]),
        .call (.write ⟨3⟩ [1, 2, 3]), .call (.delete [97]),
        .call (.create [98]), .call (.write ⟨4⟩ [4, 5]),
        .call (.close ⟨4⟩), .call (.create [98]),
        .call (.write ⟨5⟩ [6])]
    let store := (fresh settings (.ofSeed 3)).after actions
    let ended := (store.exit 3).state
    let order : List Handle := [⟨5⟩, ⟨3⟩, ⟨2⟩]
    let calls : List Call := [.create [97], .exit 0, .read ⟨5⟩ [0]]
    store.exitStatus = none ∧
      (∀ handle ∈ store.handles.keys, handle ∈ order) ∧
      (ended.openHandles = 0 ∧ ended.pendingCount = 0) ∧
      ended.durableContent? [98] = store.content? [98] ∧
      store.exitInOrder order 3 = ended ∧
      subsystem.after calls ended = ended := by
  intro settings actions store ended order calls
  have alive : store.exitStatus = none := by decide +kernel
  have complete : ∀ handle ∈ store.handles.keys, handle ∈ order := by
    decide +kernel
  rcases exit_shuts_down settings (.ofSeed 3) actions alive 3 with
    ⟨empty, _, durable, _, status, ordered, halted⟩
  exact ⟨alive, complete, empty, durable [98], ordered order complete,
    (halted _ 3 status calls).1⟩

end Store

end FileConformance
