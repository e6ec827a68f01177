import FileConformance.Proofs.Handles.Ledger
import FileConformance.Proofs.Store.Frame

/-!
# What a call is not about

All files of a store share one queue, and a close or a lucky write takes one
file's operations out of it.  A call is about at most one file: the one its name
denotes or is to denote, or the one its handle is open on.  Every other file
keeps what is durable, its name, its handles and its waiting operations in their
order, so that it also holds what it held.  Only the name that is created or
deleted can change its file, and only the handle that is passed or handed out
can come, move or go.

Nothing is assumed about the store, so this holds in every state that a run can
reach.
-/

namespace FileConformance

namespace Call

/-- The name that may denote another file after a call. -/
def renamed? : Call → Option Bytes
  | .create name => some name
  | .delete name => some name
  | _ => none

/-- The handle that a call hands out, if it hands one out. -/
def issued? : (request : Call) → request.Answer → Option Handle
  | .create _, .ok handle => some handle
  | .openFile _, .ok handle => some handle
  | _, _ => none

end Call

namespace Store

/-- The file that a call is about. -/
def concerned? (store : Store) : Call → Option Nat
  | .create name => some (store.fileToCreate name).1
  | .openFile name => store.names[name]?
  | .close handle => (store.handles.find? handle).map StoreHandle.file
  | .read handle _ => (store.handles.find? handle).map StoreHandle.file
  | .write handle _ => (store.handles.find? handle).map StoreHandle.file
  | .delete name => store.names[name]?
  | .exit _ => none

/-! ## Files that nothing happens to -/

/-- From one store to a later one, nothing happened to a file. -/
structure Undisturbed (file : Nat) (store later : Store) : Prop where
  /-- Its durable content, its name and its handles are what they were. -/
  files_eq : later.files[file]? = store.files[file]?
  /-- The same operations wait on it, in the same order. -/
  pending_eq : Pending.onFile file later.pending =
    Pending.onFile file store.pending

namespace Undisturbed

variable {file other : Nat} {store middle later : Store}

theorem refl (file : Nat) (store : Store) : Undisturbed file store store where
  files_eq := rfl
  pending_eq := rfl

theorem trans (first : Undisturbed file store middle)
    (second : Undisturbed file middle later) :
    Undisturbed file store later where
  files_eq := second.files_eq.trans first.files_eq
  pending_eq := second.pending_eq.trans first.pending_eq

theorem durable_eq (undisturbed : Undisturbed file store later) :
    later.durable file = store.durable file := by
  rw [durable, durable, undisturbed.files_eq]

/-- A file that nothing happens to holds what it held. -/
theorem live_eq (undisturbed : Undisturbed file store later) :
    later.live file = store.live file :=
  live_congr undisturbed.durable_eq undisturbed.pending_eq

/-! ### One change -/

theorem flush (store : Store) (different : file ≠ other) :
    Undisturbed other store (store.flush file) where
  files_eq := by rw [getElem?_files_flush, if_neg different]
  pending_eq := Pending.onFile_onOthers different store.pending

theorem openHandle (store : Store) (name : Bytes)
    (different : file ≠ other) :
    Undisturbed other store (store.openHandle file name).2 where
  files_eq := by rw [getElem?_files_openHandle, if_neg different]
  pending_eq := rfl

theorem fileToCreate {name : Bytes}
    (different : (store.fileToCreate name).1 ≠ other) :
    Undisturbed other store (store.fileToCreate name).2 := by
  cases named : store.names[name]? with
  | some file =>
      rw [fileToCreate_of_named named] at different ⊢
      refine ⟨rfl, ?_⟩
      rw [Pending.onFile_append, Pending.onFile_singleton]
      exact (congrArg _ (if_neg different)).trans (List.append_nil _)
  | none =>
      rw [fileToCreate_of_free named] at different ⊢
      refine ⟨?_, rfl⟩
      simp only [Std.ExtTreeMap.getElem?_insert,
        Std.LawfulEqOrd.compare_eq_iff_eq, different, if_false]

theorem append (store : Store) (handle : Handle) {opened : StoreHandle}
    (data : Bytes) (different : opened.file ≠ other) :
    Undisturbed other store (store.append handle opened data) where
  files_eq := by rw [append_eq]
  pending_eq := by
    rw [pending_append]
    split
    · rfl
    · rw [Pending.onFile_append, Pending.onFile_singleton]
      exact (congrArg _ (if_neg different)).trans (List.append_nil _)

theorem surrender (store : Store) (handle : Handle)
    (different : file ≠ other) :
    Undisturbed other store (store.surrender handle file) where
  files_eq := by rw [getElem?_files_surrender, if_neg different]
  pending_eq :=
    (onFile_pending_reclaim _ different).trans
      (Pending.onFile_onOthers different store.pending)

theorem unlink (store : Store) (name : Bytes) (different : file ≠ other) :
    Undisturbed other store (store.unlink name file) where
  files_eq := by rw [getElem?_files_unlink, if_neg different]
  pending_eq := onFile_pending_reclaim _ different

theorem writtenBack (store : Store) (sync : Probability)
    (different : file ≠ other) :
    Undisturbed other store (store.writtenBack sync file) := by
  have drawn : Undisturbed other store (store.chance sync).2 := ⟨rfl, rfl⟩
  rw [Store.writtenBack]
  split
  · exact drawn.trans (flush _ different)
  · exact drawn

end Undisturbed

/-! ## One call -/

/-- A call changed nothing but what it is about. -/
structure Keeps (request : Call) (issued : Option Handle)
    (store later : Store) : Prop where
  /-- Nothing happened to the files it is not about. -/
  undisturbed : ∀ {other : Nat}, store.concerned? request ≠ some other →
    Undisturbed other store later
  /-- All other names denote what they denoted. -/
  names_eq : ∀ {other : Bytes}, request.renamed? ≠ some other →
    later.names[other]? = store.names[other]?
  /-- All other handles are where they were. -/
  find?_eq : ∀ {other : Handle}, request.handle? ≠ some other →
    issued ≠ some other →
      later.handles.find? other = store.handles.find? other

variable {store : Store}

/-- A store that only drew a number kept everything. -/
theorem keeps_draw (request : Call) (issued : Option Handle)
    (store : Store) (generator : Generator) :
    Keeps request issued store { store with generator } where
  undisturbed := fun _ => ⟨rfl, rfl⟩
  names_eq := fun _ => rfl
  find?_eq := fun _ _ => rfl

theorem keeps_refl (request : Call) (issued : Option Handle)
    (store : Store) : Keeps request issued store store :=
  keeps_draw request issued store store.generator

/-- A handle that is handed out is new among the handles. -/
theorem find?_openHandle_of_ne (store : Store) (file : Nat)
    (name : Bytes) {other : Handle}
    (different : some (Handle.mk store.nextHandle) ≠ some other) :
    (store.openHandle file name).2.handles.find? other =
      store.handles.find? other := by
  rw [openHandle, Registry.find?_insert, if_neg]
  exact fun same => different (congrArg some same)

/-- A name that is not created keeps its file. -/
theorem names_fileToCreate_of_ne (store : Store) {name other : Bytes}
    (different : some name ≠ some other) :
    (store.fileToCreate name).2.names[other]? = store.names[other]? := by
  have distinct : name ≠ other :=
    fun same => different (congrArg some same)
  cases named : store.names[name]? with
  | some file => rw [fileToCreate_of_named named]
  | none =>
      rw [fileToCreate_of_free named]
      simp only [Std.ExtTreeMap.getElem?_insert,
        Std.LawfulEqOrd.compare_eq_iff_eq, distinct, if_false]

theorem create_keeps (store : Store) (name : Bytes) :
    Keeps (.create name)
      (Call.issued? (.create name) (store.create name).answer) store
      (store.create name).state := by
  cases admitted : store.admitCreate name with
  | error reason =>
      rw [create_of_refused admitted]
      exact keeps_refl _ _ store
  | ok _ =>
      rw [create_of_admitted admitted]
      refine ⟨?_, fun different => ?_, fun _ different => ?_⟩
      · intro other unconcerned
        have different : (store.fileToCreate name).1 ≠ other :=
          fun same => unconcerned (congrArg some same)
        exact (Undisturbed.fileToCreate different).trans
          (Undisturbed.openHandle _ name different)
      · exact names_fileToCreate_of_ne store different
      · rw [find?_openHandle_of_ne _ _ _ different, fileToCreate_eq]

theorem openFile_keeps (store : Store) (name : Bytes) :
    Keeps (.openFile name)
      (Call.issued? (.openFile name) (store.openFile name).answer) store
      (store.openFile name).state := by
  cases admitted : store.admitOpen name with
  | error reason =>
      rw [openFile_of_refused admitted]
      exact keeps_refl _ _ store
  | ok file =>
      rcases admitOpen_eq_ok_iff.mp admitted with ⟨_, _, named, _⟩
      rw [openFile_of_admitted admitted]
      refine ⟨?_, fun _ => rfl, fun _ different => ?_⟩
      · intro other unconcerned
        rw [concerned?, named] at unconcerned
        exact Undisturbed.openHandle store name
          fun same => unconcerned (congrArg some same)
      · exact find?_openHandle_of_ne store file name different

/-- The file behind an admitted handle is not one a call is not about. -/
theorem file_ne_of_unconcerned {handle : Handle} {opened : StoreHandle}
    (admitted : store.admitHandle handle = .ok opened) {other : Nat}
    (unconcerned :
      (store.handles.find? handle).map StoreHandle.file ≠ some other) :
    opened.file ≠ other := by
  rw [(admitHandle_eq_ok_iff.mp admitted).2] at unconcerned
  exact fun same => unconcerned (congrArg some same)

theorem close_keeps (store : Store) (handle : Handle)
    (issued : Option Handle) :
    Keeps (.close handle) issued store (store.close handle).state := by
  cases admitted : store.admitHandle handle with
  | error reason =>
      rw [close_of_refused admitted]
      exact keeps_refl _ _ store
  | ok opened =>
      rw [close_of_admitted admitted]
      refine ⟨fun unconcerned => ?_, fun _ => ?_, fun different _ => ?_⟩
      · exact Undisturbed.surrender store handle
          (file_ne_of_unconcerned admitted unconcerned)
      · rw [surrender_eq]
      · rw [surrender_eq, Registry.find?_remove, if_neg]
        exact fun same => different (congrArg some same)

theorem read_keeps (store : Store) (handle : Handle) (buffer : Bytes)
    (issued : Option Handle) :
    Keeps (.read handle buffer) issued store
      (store.read handle buffer).state := by
  rcases exists_read_eq store handle buffer with
    ⟨generator, same | ⟨opened, count, _, same⟩⟩
  · rw [same]
    exact keeps_draw _ _ store generator
  · rw [same]
    refine ⟨fun _ => ⟨rfl, rfl⟩, fun _ => rfl, fun different _ => ?_⟩
    rw [advance, Registry.find?_adjust, if_neg]
    exact fun same => different (congrArg some same)

theorem write_keeps (store : Store) (handle : Handle) (data : Bytes)
    (issued : Option Handle) :
    Keeps (.write handle data) issued store
      (store.write handle data).state := by
  cases admitted : store.admitHandle handle with
  | error reason =>
      rw [write_of_refused data admitted]
      exact keeps_refl _ _ store
  | ok opened =>
      cases drew : (store.chance store.settings.inputOutputError).1 with
      | true =>
          rw [write_of_failed data admitted drew]
          exact keeps_draw _ _ store _
      | false =>
          cases room :
              store.drawn.checkSpace (store.drawn.growth opened data) with
          | error full =>
              rw [write_of_full admitted drew room]
              exact keeps_draw _ _ store _
          | ok _ =>
              rw [write_of_admitted admitted drew room]
              refine ⟨?_, fun _ => ?_, fun different _ => ?_⟩
              · intro other unconcerned
                have different :=
                  file_ne_of_unconcerned admitted unconcerned
                have unmoved : Undisturbed other store store.drawn :=
                  ⟨rfl, rfl⟩
                have queued :=
                  Undisturbed.append store.drawn handle data different
                exact (unmoved.trans queued).trans
                  (Undisturbed.writtenBack _ _ different)
              · rw [writtenBack_eq, append_eq]
                rfl
              · rw [writtenBack_eq, append_eq, Registry.find?_adjust, if_neg]
                · rfl
                · exact fun same => different (congrArg some same)

theorem delete_keeps (store : Store) (name : Bytes)
    (issued : Option Handle) :
    Keeps (.delete name) issued store (store.delete name).state := by
  cases admitted : store.admitDelete name with
  | error reason =>
      rw [delete_of_refused admitted]
      exact keeps_refl _ _ store
  | ok file =>
      rcases admitDelete_eq_ok_iff.mp admitted with ⟨_, _, named, _⟩
      rw [delete_of_admitted admitted]
      refine ⟨fun unconcerned => ?_, fun different => ?_, fun _ _ => ?_⟩
      · rw [concerned?, named] at unconcerned
        exact Undisturbed.unlink store name
          fun same => unconcerned (congrArg some same)
      · rw [unlink_eq, Std.ExtTreeMap.getElem?_erase, if_neg]
        intro same
        rw [Std.LawfulEqOrd.compare_eq_iff_eq] at same
        exact different (congrArg some same)
      · rw [unlink_eq]

/-- Every call but the one that ends the process keeps what it is not about. -/
theorem respond_keeps (store : Store) {request : Call}
    (returns : request.kind ≠ .exit) :
    Keeps request
      (request.issued? (subsystem.respond request store).answer) store
      (subsystem.respond request store).state := by
  cases request with
  | create name => exact create_keeps store name
  | openFile name => exact openFile_keeps store name
  | close handle => exact close_keeps store handle _
  | read handle buffer => exact read_keeps store handle buffer _
  | write handle data => exact write_keeps store handle data _
  | delete name => exact delete_keeps store name _
  | exit code => exact (returns rfl).elim

/--
A call on one file never disturbs another.  Every file that the call is not
about keeps its durable content, its name, its handles, what waits on it and
what it holds; every name that is not created or deleted keeps its file; and
every handle that is neither passed nor handed out stays where it is.
-/
theorem call_leaves_others_alone (store : Store) {request : Call}
    (returns : request.kind ≠ .exit) :
    let reply := subsystem.respond request store
    (∀ file : Nat, store.concerned? request ≠ some file →
      reply.state.files[file]? = store.files[file]? ∧
        reply.state.durable file = store.durable file ∧
        Pending.onFile file reply.state.pending =
          Pending.onFile file store.pending ∧
        reply.state.live file = store.live file) ∧
      (∀ name : Bytes, request.renamed? ≠ some name →
        reply.state.names[name]? = store.names[name]?) ∧
      (∀ handle : Handle, request.handle? ≠ some handle →
        request.issued? reply.answer ≠ some handle →
          reply.state.handles.find? handle =
            store.handles.find? handle) := by
  intro reply
  have keeps := respond_keeps store returns
  refine ⟨fun file unconcerned => ?_, fun name => keeps.names_eq,
    fun handle => keeps.find?_eq⟩
  have undisturbed := keeps.undisturbed unconcerned
  exact ⟨undisturbed.files_eq, undisturbed.durable_eq,
    undisturbed.pending_eq, undisturbed.live_eq⟩

/--
Of two handles on one file the first is closed: the other stays, and so does
what waits on the second file.
-/
theorem call_leaves_others_alone_two_files :
    let store := (fresh {} (.ofSeed 0)).after
      [.call (.create [97]), .call (.create [98]), .call (.openFile [97]),
        .call (.write ⟨3⟩ [5]), .call (.write ⟨2⟩ [6, 7]),
        .call (.write ⟨3⟩ [8]), .call (.write ⟨4⟩ [9])]
    let request : Call := .close ⟨2⟩
    let reply := subsystem.respond request store
    store.concerned? request = some 1 ∧
      Pending.onFile 2 store.pending =
        [.write 2 0 [5], .write 2 1 [8]] ∧
      (reply.state.files[2]? = store.files[2]? ∧
        reply.state.durable 2 = store.durable 2 ∧
        Pending.onFile 2 reply.state.pending =
          Pending.onFile 2 store.pending ∧
        reply.state.live 2 = store.live 2) ∧
      reply.state.names[([97] : Bytes)]? =
        store.names[([97] : Bytes)]? ∧
      reply.state.handles.find? ⟨4⟩ = store.handles.find? ⟨4⟩ := by
  intro store request reply
  have concerned : store.concerned? request = some 1 := by decide +kernel
  have waiting : Pending.onFile 2 store.pending =
      [.write 2 0 [5], .write 2 1 [8]] := by decide +kernel
  have unissued : request.issued? reply.answer = none := by decide +kernel
  have alone := call_leaves_others_alone store
    (show request.kind ≠ .exit by decide)
  refine ⟨concerned, waiting, alone.1 2 ?_, alone.2.1 [97] ?_,
    alone.2.2 ⟨4⟩ ?_ ?_⟩
  · rw [concerned]
    decide
  · decide
  · decide
  · rw [unissued]
    decide

/-! ## Runs -/

/-- None of some calls is about a file, and none ends the process. -/
def Avoids (file : Nat) (store : Store) : List Call → Prop
  | [] => True
  | request :: rest =>
      store.concerned? request ≠ some file ∧ request.kind ≠ .exit ∧
        Avoids file (store.act (.call request)) rest

/-- What waits on a file outlasts every run that avoids the file. -/
theorem undisturbed_after {file : Nat} {store : Store}
    {requests : List Call} (avoids : Avoids file store requests) :
    Undisturbed file store (store.after (requests.map .call)) := by
  induction requests generalizing store with
  | nil => exact Undisturbed.refl file store
  | cons request rest ih =>
      rcases avoids with ⟨unconcerned, returns, later⟩
      exact ((respond_keeps store returns).undisturbed unconcerned).trans
        (ih later)

end Store

end FileConformance
