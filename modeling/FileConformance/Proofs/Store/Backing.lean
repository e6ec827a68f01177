import FileConformance.Proofs.Store.WellFormed

/-!
# What waits has a handle behind it

An operation enters the queue through a handle: data is queued for the file of
an open handle, and a create that empties a file opens a handle on it in the
same call.  A handle leaves only by being closed, which flushes its file, or by
a crash, which empties the queue.  So as long as an operation waits on a file, a
handle is open on that file.

It follows that a file without handles is durable as it stands, and that a store
without handles has nothing left to flush.
-/

namespace FileConformance

namespace Store

/-- A handle is open on a file. -/
def Held (store : Store) (file : Nat) : Prop :=
  ∃ handle opened, store.handles.find? handle = some opened ∧
    opened.file = file

/-- The files of all operations that wait are held. -/
def QueueHeld (store : Store) : Prop :=
  ∀ operation ∈ store.pending, store.Held operation.file

/-- A well-formed store with a handle behind everything that waits. -/
structure Backed (store : Store) : Prop extends WellFormed store where
  queue_held : store.QueueHeld

variable {store : Store}

/-! ## What waits after a change -/

theorem mem_pending_of_reclaim {file : Nat} {operation : Pending}
    (waiting : operation ∈ (store.reclaim file).pending) :
    operation ∈ store.pending := by
  unfold reclaim at waiting
  split at waiting
  · split at waiting
    · exact (Pending.mem_onOthers.mp waiting).1
    · exact waiting
  · exact waiting

/-- What waits after a handle was surrendered waited before, elsewhere. -/
theorem mem_pending_of_surrender {handle : Handle} {file : Nat}
    {operation : Pending}
    (waiting : operation ∈ (store.surrender handle file).pending) :
    operation ∈ store.pending ∧ operation.file ≠ file :=
  Pending.mem_onOthers.mp (mem_pending_of_reclaim waiting)

theorem mem_pending_of_unlink {name : Bytes} {file : Nat}
    {operation : Pending}
    (waiting : operation ∈ (store.unlink name file).pending) :
    operation ∈ store.pending := by
  rw [unlink] at waiting
  have before := mem_pending_of_reclaim waiting
  exact before

/-! ## Which files are held after a change -/

theorem held_openHandle (store : Store) (file : Nat) (name : Bytes) :
    (store.openHandle file name).2.Held file := by
  refine ⟨⟨store.nextHandle⟩, ⟨file, name, 0⟩, ?_, rfl⟩
  rw [openHandle, Registry.find?_insert, if_pos rfl]

namespace Held

variable {file : Nat}

/-- A new handle takes no other handle's place. -/
theorem openHandle (held : store.Held file) (wf : store.WellFormed)
    (other : Nat) (name : Bytes) :
    (store.openHandle other name).2.Held file := by
  rcases held with ⟨handle, opened, found, same⟩
  have old : (⟨store.nextHandle⟩ : Handle) ≠ handle := by
    rintro rfl
    rw [wf.nextHandle_unused] at found
    cases found
  refine ⟨handle, opened, ?_, same⟩
  rw [Store.openHandle, Registry.find?_insert, if_neg old]
  exact found

/-- A handle that moves stays on its file. -/
theorem advance (held : store.Held file) (handle : Handle)
    (count : Nat) : (store.advance handle count).Held file := by
  rcases held with ⟨other, opened, found, same⟩
  by_cases moved : handle = other
  · refine ⟨other,
      { opened with position := opened.position + count }, ?_, same⟩
    rw [Store.advance, Registry.find?_adjust, if_pos moved, found]
    rfl
  · refine ⟨other, opened, ?_, same⟩
    rw [Store.advance, Registry.find?_adjust, if_neg moved]
    exact found

/-- Surrendering a handle on one file leaves the handles on the others. -/
theorem surrender (held : store.Held file) {handle : Handle}
    {opened : StoreHandle}
    (found : store.handles.find? handle = some opened)
    (different : opened.file ≠ file) :
    (store.surrender handle opened.file).Held file := by
  rcases held with ⟨other, holding, there, same⟩
  have unlike : handle ≠ other := by
    rintro rfl
    rw [found] at there
    cases there
    exact different same
  refine ⟨other, holding, ?_, same⟩
  rw [surrender_eq, Registry.find?_remove, if_neg unlike]
  exact there

end Held

/-! ## Changes that keep the queue held -/

namespace QueueHeld

/-- A create that empties a file opens a handle on that very file. -/
theorem create (queueHeld : store.QueueHeld) (wf : store.WellFormed)
    (name : Bytes) :
    ((store.fileToCreate name).2.openHandle
      (store.fileToCreate name).1 name).2.QueueHeld := by
  have prepared := wf.fileToCreate name
  have still : ∀ {file : Nat}, store.Held file →
      ((store.fileToCreate name).2.openHandle
        (store.fileToCreate name).1 name).2.Held file := by
    intro file held
    refine Held.openHandle ?_ prepared _ name
    rw [fileToCreate_eq]
    exact held
  intro operation waiting
  replace waiting : operation ∈ (store.fileToCreate name).2.pending :=
    waiting
  cases named : store.names[name]? with
  | some file =>
      rw [fileToCreate_of_named named] at waiting still ⊢
      rcases List.mem_append.mp waiting with before | queued
      · exact still (queueHeld operation before)
      · rw [List.mem_singleton.mp queued]
        exact held_openHandle _ file name
  | none =>
      rw [fileToCreate_of_free named] at waiting
      exact still (queueHeld operation waiting)

/-- With a handle goes all that waits on its file. -/
theorem surrender (queueHeld : store.QueueHeld) {handle : Handle}
    {opened : StoreHandle}
    (found : store.handles.find? handle = some opened) :
    (store.surrender handle opened.file).QueueHeld := by
  intro operation waiting
  rcases mem_pending_of_surrender waiting with ⟨before, different⟩
  exact (queueHeld operation before).surrender found different.symm

/-- Data is queued for the file of an open handle. -/
theorem append (queueHeld : store.QueueHeld) {handle : Handle}
    {opened : StoreHandle}
    (found : store.handles.find? handle = some opened) (data : Bytes) :
    (store.append handle opened data).QueueHeld := by
  have still : ∀ {file : Nat}, store.Held file →
      (store.append handle opened data).Held file := by
    intro file held
    have moved := held.advance handle data.length
    rw [append_eq]
    exact moved
  intro operation waiting
  rw [pending_append] at waiting
  split at waiting
  · exact still (queueHeld operation waiting)
  · rcases List.mem_append.mp waiting with before | queued
    · exact still (queueHeld operation before)
    · rw [List.mem_singleton.mp queued]
      exact still ⟨handle, opened, found, rfl⟩

theorem unlink (queueHeld : store.QueueHeld) (name : Bytes)
    (file : Nat) : (store.unlink name file).QueueHeld := by
  intro operation waiting
  have held := queueHeld operation (mem_pending_of_unlink waiting)
  rw [unlink_eq]
  exact held

end QueueHeld

namespace Backed

theorem fresh (settings : StoreSettings) (generator : Generator) :
    (Store.fresh settings generator).Backed where
  toWellFormed := WellFormed.fresh settings generator
  queue_held := by simp [QueueHeld, Store.fresh]

/-- Every transition keeps a store backed. -/
theorem transition {later : Store} (backed : store.Backed)
    (changed : Transition store later) : later.Backed := by
  have wf := backed.toWellFormed
  have queueHeld := backed.queue_held
  refine ⟨wf.transition changed, ?_⟩
  cases changed with
  | draw generator => exact queueHeld
  | @create name admitted => exact queueHeld.create wf name
  | openFile admitted =>
      exact fun operation waiting =>
        (queueHeld operation waiting).openHandle wf _ _
  | close admitted =>
      exact queueHeld.surrender (admitHandle_eq_ok_iff.mp admitted).2
  | advance count admitted =>
      exact fun operation waiting =>
        (queueHeld operation waiting).advance _ count
  | append admitted room =>
      exact queueHeld.append (admitHandle_eq_ok_iff.mp admitted).2 _
  | flush admitted =>
      exact fun operation waiting =>
        queueHeld operation (Pending.mem_onOthers.mp waiting).1
  | unlink admitted => exact queueHeld.unlink _ _
  | finish code vacant => exact queueHeld
  | crash =>
      intro operation waiting
      cases waiting

theorem evolves {later : Store} (backed : store.Backed)
    (evolved : Evolves store later) : later.Backed :=
  evolved.induction transition backed

/-- A run keeps a store backed. -/
theorem after (backed : store.Backed) (actions : List Action) :
    (store.after actions).Backed :=
  backed.evolves (after_evolves store actions)

/-! ## What follows -/

/-- Nothing waits on a file that is not held. -/
theorem onFile_pending (backed : store.Backed) {file : Nat}
    (idle : ¬store.Held file) :
    Pending.onFile file store.pending = [] := by
  apply Pending.onFile_eq_nil
  intro operation waiting same
  apply idle
  rw [← same]
  exact backed.queue_held operation waiting

/-- A file without handles is durable as it stands. -/
theorem live_eq_durable (backed : store.Backed) {file : Nat}
    (idle : ¬store.Held file) : store.live file = store.durable file :=
  live_of_settled (backed.onFile_pending idle)

/-- Without handles nothing waits. -/
theorem pending_eq_nil (backed : store.Backed)
    (vacant : store.handles.size = 0) : store.pending = [] := by
  rw [List.eq_nil_iff_forall_not_mem]
  intro operation waiting
  rcases backed.queue_held operation waiting with
    ⟨handle, opened, found, _⟩
  rw [Registry.size_eq_zero_iff.mp vacant handle] at found
  cases found

end Backed

/-- A held file counts a handle. -/
theorem handlesOn_pos (wf : store.WellFormed) {file : Nat}
    (held : store.Held file) : 0 < store.handlesOn file := by
  rcases held with ⟨handle, opened, found, rfl⟩
  rcases wf.openHandles_pos found with ⟨stored, there, positive⟩
  simp [handlesOn, there, positive]

/--
Whatever is done to a store that was made without files, an operation waits
only on a file that is held, and that file counts its handles.  So the name of a
file without handles has the same content before a crash and after it, and
without handles nothing waits at all.
-/
theorem pending_backed_after_fresh (settings : StoreSettings)
    (generator : Generator) (actions : List Action) :
    let store := (fresh settings generator).after actions
    (∀ operation ∈ store.pending,
      store.Held operation.file ∧ 0 < store.handlesOn operation.file) ∧
      (∀ name : Bytes,
        (∀ file, store.names[name]? = some file → ¬store.Held file) →
          store.content? name = store.durableContent? name) ∧
      (store.openHandles = 0 → store.pendingCount = 0) := by
  intro store
  have backed : store.Backed :=
    (Backed.fresh settings generator).after actions
  have wf := backed.toWellFormed
  refine ⟨?_, ?_, ?_⟩
  · intro operation waiting
    have held := backed.queue_held operation waiting
    exact ⟨held, handlesOn_pos wf held⟩
  · intro name idle
    rw [wf.durableContent?_eq, content?]
    cases named : store.names[name]? with
    | none => rfl
    | some file =>
        rw [Option.map_some, Option.map_some,
          backed.live_eq_durable (idle file named)]
  · intro vacant
    rw [pendingCount, backed.pending_eq_nil vacant]
    rfl

end Store

end FileConformance
