import FileConformance.Proofs.Procedure.Steadfast
import FileConformance.Proofs.Store.Frame
import FileConformance.Proofs.Store.Space

/-!
# What a running store does with a call

For each call this module says when a store whose process is running refuses it
and what is there after it was admitted: which handle was issued, what the name
denotes, how many handles are open and how much space is taken.  Everything
under other names is left alone.
-/

namespace FileConformance

/-- Nothing is written, and there is no gap to fill. -/
theorem Bytes.overwrite_empty {content : Bytes} {position : Nat}
    (inside : position ≤ content.length) :
    content.overwrite position [] = content := by
  simp [overwrite, zeros, Nat.sub_eq_zero_of_le inside]

namespace Store

/-- A well-formed store with known settings whose process is running. -/
structure Running (rules : StoreSettings) (store : Store) : Prop
    extends WellFormed store where
  alive : store.exitStatus = none
  settings_eq : store.settings = rules

/-- A store still runs later, and only what is under some names changed. -/
structure Follows (rules : StoreSettings) (names : List Bytes)
    (store later : Store) : Prop
    extends Running rules later, Spares names store later

/-- A call opened a handle on a file under a name. -/
structure Opens (rules : StoreSettings) (name : Bytes) (store : Store)
    (file : Nat) (reply : Reply Store (Except CallError Handle)) : Prop
    extends Follows rules [name] store reply.state where
  answer_eq : reply.answer = .ok ⟨store.nextHandle⟩
  size_eq : reply.state.handles.size = store.handles.size + 1
  found : reply.state.handles.find? ⟨store.nextHandle⟩ =
    some ⟨file, name, 0⟩
  named : reply.state.names[name]? = some file

variable {rules : StoreSettings} {store : Store}

theorem Opens.isOk {name : Bytes} {file : Nat}
    {reply : Reply Store (Except CallError Handle)}
    (opens : Opens rules name store file reply) :
    reply.answer.isOk = true := by
  rw [opens.answer_eq]
  rfl

theorem Running.fresh (rules : StoreSettings) (generator : Generator) :
    Running rules (Store.fresh rules generator) where
  toWellFormed := WellFormed.fresh rules generator
  alive := rfl
  settings_eq := rfl

namespace Follows

variable {name : Bytes} {middle later : Store}

theorem refl (running : Running rules store) (names : List Bytes) :
    Follows rules names store store where
  toRunning := running
  toSpares := Spares.refl names store

theorem again (first : Follows rules [name] store middle)
    (second : Follows rules [name] middle later) :
    Follows rules [name] store later where
  toRunning := second.toRunning
  toSpares := first.toSpares.again second.toSpares

end Follows

namespace Running

variable {name : Bytes} {handle : Handle} {opened : StoreHandle}
  {file : Nat}

/-! ## Creating and opening -/

theorem admitCreate_iff (running : Running rules store) :
    store.admitCreate name = .ok () ↔
      rules.Accepts name ∧ rules.HasRoom store.handles.size := by
  rw [admitCreate_eq_ok_iff, running.settings_eq]
  constructor
  · rintro ⟨_, accepted, room⟩
    exact ⟨accepted, room⟩
  · rintro ⟨accepted, room⟩
    exact ⟨running.alive, accepted, room⟩

theorem create_refused (running : Running rules store)
    (refused : ¬(rules.Accepts name ∧
      rules.HasRoom store.handles.size)) :
    ∃ reason, store.create name = store.refuse reason := by
  cases admitted : store.admitCreate name with
  | error reason => exact ⟨reason, create_of_refused admitted⟩
  | ok _ => exact (refused (running.admitCreate_iff.mp admitted)).elim

/-- A handle on a file that is there opens at its start. -/
theorem openHandle_opens (running : Running rules store)
    (present : file ∈ store.files)
    (room : rules.HasRoom store.handles.size)
    (named : store.names[name]? = some file) (events : List CallEvent) :
    Opens rules name store file
      ⟨.ok ⟨store.nextHandle⟩, (store.openHandle file name).2, events⟩ := by
  have wf := running.toWellFormed
  have admitted := room
  rw [← running.settings_eq] at admitted
  exact {
    toWellFormed := wf.openHandle present admitted name
    alive := running.alive
    settings_eq := running.settings_eq
    toSpares := wf.openHandle_spares file name
    answer_eq := rfl
    size_eq := Registry.size_insert wf.nextHandle_unused _
    found := by
      show (store.openHandle file name).2.handles.find?
        ⟨store.nextHandle⟩ = some ⟨file, name, 0⟩
      rw [openHandle, Registry.find?_insert, if_pos rfl]
    named := named }

/-- A created file is empty. -/
theorem create_opens (running : Running rules store)
    (accepted : rules.Accepts name)
    (room : rules.HasRoom store.handles.size) :
    ∃ file, Opens rules name store file (store.create name) ∧
      (store.create name).state.live file = [] ∧
      (store.usedBytes = 0 →
        (store.create name).state.usedBytes = 0) := by
  have wf := running.toWellFormed
  have admitted := running.admitCreate_iff.mpr ⟨accepted, room⟩
  have unhandled := fileToCreate_eq store name
  have prepared : Running rules (store.fileToCreate name).2 := by
    refine ⟨wf.fileToCreate name, ?_, ?_⟩
    · rw [unhandled]
      exact running.alive
    · rw [unhandled]
      exact running.settings_eq
  have sameHandles :
      (store.fileToCreate name).2.handles = store.handles := by
    rw [unhandled]
  have sameNumber :
      (store.fileToCreate name).2.nextHandle = store.nextHandle := by
    rw [unhandled]
  have named := names_fileToCreate_self store name
  have opens := prepared.openHandle_opens
    (wf.fileToCreate_present name) (by rw [sameHandles]; exact room)
    named [.created name ⟨(store.fileToCreate name).2.nextHandle⟩]
  have spares := (wf.fileToCreate_spares name).again opens.toSpares
  have contents := wf.live_fileToCreate name
  rw [create_of_admitted admitted]
  refine ⟨(store.fileToCreate name).1, ?_, ?_, ?_⟩
  · exact {
      opens with
      toSpares := spares
      answer_eq := by rw [sameNumber]
      size_eq := by rw [opens.size_eq, sameHandles]
      found := by rw [← sameNumber]; exact opens.found }
  · refine (live_openHandle _ _ name _).trans ?_
    rw [contents, if_pos rfl]
  · intro unused
    rw [usedBytes_openHandle, ← Nat.le_zero, ← unused]
    exact usedBytes_fileToCreate_le wf name

theorem admitOpen_iff (running : Running rules store) :
    store.admitOpen name = .ok file ↔
      rules.Accepts name ∧ store.names[name]? = some file ∧
        rules.HasRoom store.handles.size := by
  rw [admitOpen_eq_ok_iff, running.settings_eq]
  constructor
  · rintro ⟨_, accepted, named, room⟩
    exact ⟨accepted, named, room⟩
  · rintro ⟨accepted, named, room⟩
    exact ⟨running.alive, accepted, named, room⟩

theorem openFile_refused (running : Running rules store)
    (refused : ∀ file, ¬(rules.Accepts name ∧
      store.names[name]? = some file ∧
        rules.HasRoom store.handles.size)) :
    ∃ reason, store.openFile name = store.refuse reason := by
  cases admitted : store.admitOpen name with
  | error reason => exact ⟨reason, openFile_of_refused admitted⟩
  | ok file =>
      exact (refused file (running.admitOpen_iff.mp admitted)).elim

/-- An opened file holds what it held. -/
theorem openFile_opens (running : Running rules store)
    (accepted : rules.Accepts name)
    (named : store.names[name]? = some file)
    (room : rules.HasRoom store.handles.size) :
    Opens rules name store file (store.openFile name) ∧
      (store.openFile name).state.live file = store.live file ∧
      (store.openFile name).state.usedBytes = store.usedBytes := by
  have admitted := running.admitOpen_iff.mpr ⟨accepted, named, room⟩
  have present := running.present_of_named named
  rw [openFile_of_admitted admitted]
  exact ⟨running.openHandle_opens present room named _,
    live_openHandle store file name file,
    usedBytes_openHandle store file name⟩

/-! ## Closing -/

theorem admitHandle_iff (running : Running rules store) :
    store.admitHandle handle = .ok opened ↔
      store.handles.find? handle = some opened := by
  rw [admitHandle_eq_ok_iff]
  constructor
  · rintro ⟨_, found⟩
    exact found
  · intro found
    exact ⟨running.alive, found⟩

/-- A handle that is not open is not closed. -/
theorem close_refused (running : Running rules store)
    (missing : store.handles.find? handle = none) :
    ∃ reason, store.close handle = store.refuse reason := by
  cases admitted : store.admitHandle handle with
  | error reason => exact ⟨reason, close_of_refused admitted⟩
  | ok opened =>
      have found := running.admitHandle_iff.mp admitted
      rw [missing] at found
      cases found

theorem surrender_follows (running : Running rules store)
    (found : store.handles.find? handle = some opened) :
    Follows rules [opened.name] store
      (store.surrender handle opened.file) := by
  have wf := running.toWellFormed
  refine ⟨⟨wf.surrender found, ?_, ?_⟩, wf.surrender_spares found⟩
  · rw [surrender_eq]
    exact running.alive
  · rw [surrender_eq]
    exact running.settings_eq

/-- A call closed a handle. -/
structure Closes (rules : StoreSettings) (handle : Handle)
    (opened : StoreHandle) (store : Store)
    (reply : Reply Store (Except CallError Unit)) : Prop
    extends Follows rules [opened.name] store reply.state where
  answer_eq : reply.answer = .ok ()
  size_eq : reply.state.handles.size + 1 = store.handles.size
  gone : reply.state.handles.find? handle = none
  names_kept : reply.state.names = store.names
  number_issued : handle.number < reply.state.nextHandle

theorem Closes.isOk {reply : Reply Store (Except CallError Unit)}
    (closes : Closes rules handle opened store reply) :
    reply.answer.isOk = true := by
  rw [closes.answer_eq]
  rfl

theorem close_closes (running : Running rules store)
    (found : store.handles.find? handle = some opened) :
    Closes rules handle opened store (store.close handle) := by
  have admitted := running.admitHandle_iff.mpr found
  have follows := running.surrender_follows found
  rw [close_of_admitted admitted]
  have issued := running.handle_issued found
  exact {
    follows with
    answer_eq := rfl
    size_eq := by
      rw [surrender_eq]
      exact Registry.size_remove found
    gone := by
      rw [surrender_eq, Registry.find?_remove, if_pos rfl]
    names_kept := by rw [surrender_eq]
    number_issued := by
      rw [surrender_eq]
      exact issued.2 }

/-- A close leaves the files there that have a name. -/
theorem present_after_close (running : Running rules store)
    (found : store.handles.find? handle = some opened)
    (named : store.names[name]? = some file) :
    file ∈ (store.surrender handle opened.file).files := by
  have later := running.toWellFormed.surrender found
  apply later.present_of_named
  rw [surrender_eq]
  exact named

/-- A close moves no content that is there under a name. -/
theorem live_close (running : Running rules store)
    (found : store.handles.find? handle = some opened)
    (named : store.names[name]? = some file) :
    (store.close handle).state.live file = store.live file := by
  rw [close_of_admitted (running.admitHandle_iff.mpr found)]
  exact live_surrender (running.present_after_close found named)

/-- Closing a handle on a file with a name moves no content. -/
theorem close_contents (running : Running rules store)
    (found : store.handles.find? handle = some opened)
    (named : store.names[name]? = some opened.file) :
    (store.close handle).state.live opened.file =
        store.live opened.file ∧
      (store.close handle).state.usedBytes = store.usedBytes := by
  refine ⟨running.live_close found named, ?_⟩
  rw [close_of_admitted (running.admitHandle_iff.mpr found)]
  exact usedBytes_surrender (running.present_after_close found named)

/-! ## Deleting -/

theorem admitDelete_iff (running : Running rules store) :
    store.admitDelete name = .ok file ↔
      rules.Accepts name ∧ store.names[name]? = some file ∧
        (rules.deleteOpen = .reject → store.handlesOn file = 0) := by
  rw [admitDelete_eq_ok_iff, running.settings_eq]
  constructor
  · rintro ⟨_, accepted, named, idle⟩
    exact ⟨accepted, named, idle⟩
  · rintro ⟨accepted, named, idle⟩
    exact ⟨running.alive, accepted, named, idle⟩

theorem delete_refused (running : Running rules store)
    (refused : ∀ file, ¬(rules.Accepts name ∧
      store.names[name]? = some file ∧
        (rules.deleteOpen = .reject → store.handlesOn file = 0))) :
    ∃ reason, store.delete name = store.refuse reason := by
  cases admitted : store.admitDelete name with
  | error reason => exact ⟨reason, delete_of_refused admitted⟩
  | ok file =>
      exact (refused file (running.admitDelete_iff.mp admitted)).elim

/-- A call took a name from its file. -/
structure Deletes (rules : StoreSettings) (name : Bytes) (store : Store)
    (reply : Reply Store (Except CallError Unit)) : Prop
    extends Follows rules [name] store reply.state where
  answer_eq : reply.answer = .ok ()
  handles_eq : reply.state.handles = store.handles
  nextHandle_eq : reply.state.nextHandle = store.nextHandle
  unnamed : reply.state.names[name]? = none

theorem Deletes.isOk {reply : Reply Store (Except CallError Unit)}
    (deletes : Deletes rules name store reply) :
    reply.answer.isOk = true := by
  rw [deletes.answer_eq]
  rfl

theorem delete_deletes (running : Running rules store)
    (accepted : rules.Accepts name)
    (named : store.names[name]? = some file)
    (idle : rules.deleteOpen = .reject → store.handlesOn file = 0) :
    Deletes rules name store (store.delete name) := by
  have wf := running.toWellFormed
  have admitted := running.admitDelete_iff.mpr ⟨accepted, named, idle⟩
  rw [delete_of_admitted admitted]
  exact {
    toWellFormed := wf.unlink named
    alive := by
      rw [unlink_eq]
      exact running.alive
    settings_eq := by
      rw [unlink_eq]
      exact running.settings_eq
    toSpares := wf.unlink_spares named
    answer_eq := rfl
    handles_eq := by rw [unlink_eq]
    nextHandle_eq := by rw [unlink_eq]
    unnamed := by
      rw [unlink_eq]
      exact Std.ExtTreeMap.getElem?_erase_self }

/-! ## Writing and reading -/

/-- Nothing more fits. -/
theorem write_refused (running : Running rules store)
    (faultless : rules.Faultless) {data : Bytes}
    (found : store.handles.find? handle = some opened)
    (full : ¬rules.HasSpace store.usedBytes
      (store.growth opened data)) :
    ∃ reason, store.write handle data = store.refuse reason := by
  have admitted := running.admitHandle_iff.mpr found
  rw [← running.settings_eq] at faultless full
  cases room : store.checkSpace (store.growth opened data) with
  | error reason =>
      exact ⟨reason,
        write_of_full_faultless faultless admitted room⟩
  | ok _ => exact (full (checkSpace_eq_ok_iff.mp room)).elim

/-- Data was put into the file of a handle, and the handle is behind it. -/
structure Puts (handle : Handle) (opened : StoreHandle) (data : Bytes)
    (store : Store) (reply : Reply Store (Except CallError Nat)) :
    Prop where
  answer_eq : reply.answer = .ok data.length
  names_kept : reply.state.names = store.names
  found : reply.state.handles.find? handle =
    some { opened with position := opened.position + data.length }
  /-- A gap is not filled for nothing. -/
  live_opened :
    data ≠ [] ∨ opened.position ≤ (store.live opened.file).length →
      reply.state.live opened.file =
        (store.live opened.file).overwrite opened.position data

theorem write_puts (running : Running rules store)
    (faultless : rules.Faultless) {data : Bytes}
    (found : store.handles.find? handle = some opened)
    (space : rules.HasSpace store.usedBytes
      (store.growth opened data)) :
    Puts handle opened data store (store.write handle data) := by
  have admitted := running.admitHandle_iff.mpr found
  have present : opened.file ∈
      (store.append handle opened data).files := by
    rw [append_eq]
    exact running.handle_present found
  rw [← running.settings_eq] at faultless space
  rw [write_of_faultless faultless admitted
    (checkSpace_eq_ok_iff.mpr space)]
  refine ⟨rfl, ?_, ?_, ?_⟩
  · rw [writtenBack_eq, append_eq]
  · rw [writtenBack_eq, append_eq, Registry.find?_adjust, if_pos rfl,
      found]
    rfl
  · intro meets
    rw [live_writtenBack present, live_append]
    split
    · rfl
    · rename_i nothing
      rw [not_and, not_not] at nothing
      have inside := meets.resolve_left fun filled => filled (nothing rfl)
      rw [nothing rfl, Bytes.overwrite_empty inside]

/-- Data was written through a handle. -/
structure Writes (rules : StoreSettings) (handle : Handle)
    (opened : StoreHandle) (data : Bytes) (store : Store)
    (reply : Reply Store (Except CallError Nat)) : Prop
    extends Follows rules [opened.name] store reply.state where
  answer_eq : reply.answer = .ok data.length
  size_eq : reply.state.handles.size = store.handles.size
  found : reply.state.handles.find? handle =
    some { opened with position := opened.position + data.length }
  names_kept : reply.state.names = store.names
  live_opened : reply.state.live opened.file =
    (store.live opened.file).overwrite opened.position data
  usedBytes_eq : reply.state.usedBytes =
    store.usedBytes + store.growth opened data

theorem write_writes (running : Running rules store)
    (faultless : rules.Faultless) {data : Bytes} (nonempty : data ≠ [])
    (found : store.handles.find? handle = some opened)
    (named : store.names[opened.name]? = some opened.file)
    (space : rules.HasSpace store.usedBytes
      (store.growth opened data)) :
    Writes rules handle opened data store (store.write handle data) := by
  have wf := running.toWellFormed
  have admitted := running.admitHandle_iff.mpr found
  have appended := wf.append found data
  have puts := running.write_puts faultless found space
  rw [← running.settings_eq] at faultless space
  rw [write_of_faultless faultless admitted
    (checkSpace_eq_ok_iff.mpr space)] at puts ⊢
  exact {
    puts with
    toWellFormed := appended.writtenBack store.settings.sync opened.file
    alive := by
      rw [writtenBack_eq, append_eq]
      exact running.alive
    settings_eq := by
      rw [writtenBack_eq, append_eq]
      exact running.settings_eq
    toSpares := (wf.append_spares found named data).again
      (appended.writtenBack_spares _ store.settings.sync opened.file)
    size_eq := by
      rw [writtenBack_eq, append_eq]
      exact Registry.size_adjust store.handles handle _
    live_opened := puts.live_opened (.inl nonempty)
    usedBytes_eq := by
      rw [usedBytes_writtenBack]
      exact usedBytes_append wf found nonempty }

/-- Data was read through a handle into a buffer. -/
structure Reads (rules : StoreSettings) (opened : StoreHandle)
    (buffer : Bytes) (store : Store)
    (reply : Reply Store (Received buffer.length)) : Prop
    extends Follows rules [opened.name] store reply.state where
  count_eq : reply.answer.count =
    .ok ((store.live opened.file).slice opened.position
      buffer.length).length
  buffer_eq : reply.answer.buffer =
    buffer.place ((store.live opened.file).slice opened.position
      buffer.length)
  size_eq : reply.state.handles.size = store.handles.size
  names_kept : reply.state.names = store.names
  usedBytes_eq : reply.state.usedBytes = store.usedBytes

theorem read_reads (running : Running rules store)
    (faultless : rules.Faultless) (buffer : Bytes)
    (found : store.handles.find? handle = some opened) :
    Reads rules opened buffer store (store.read handle buffer) ∧
      ∃ position, (store.read handle buffer).state.handles.find? handle =
        some { opened with position } := by
  have wf := running.toWellFormed
  have admitted := running.admitHandle_iff.mpr found
  rw [← running.settings_eq] at faultless
  rw [read_of_faultless faultless admitted buffer]
  refine ⟨?_, ?_⟩
  · exact {
      toWellFormed := wf.advance handle _
      alive := running.alive
      settings_eq := running.settings_eq
      toSpares := WellFormed.advance_spares found _
      count_eq := rfl
      buffer_eq := rfl
      size_eq := Registry.size_adjust store.handles handle _
      names_kept := rfl
      usedBytes_eq := rfl }
  · refine ⟨opened.position +
      ((store.live opened.file).slice opened.position
        buffer.length).length, ?_⟩
    rw [advance, Registry.find?_adjust, if_pos rfl, found]
    rfl

end Running

/-! ## Honesty -/

/-- No store claims to have read more than the buffer takes. -/
theorem count_read_le {store : Store} {handle : Handle} {buffer : Bytes}
    {count : Nat}
    (counted : (store.read handle buffer).answer.count = .ok count) :
    count ≤ buffer.length := by
  unfold Store.read at counted
  split at counted
  · cases counted
  · dsimp only at counted
    split at counted
    · cases counted
    · cases counted
      exact Bytes.length_slice_le _ _ _

theorem honest : subsystem.Honest := by
  intro request store
  cases request with
  | read handle buffer => exact fun count => count_read_le
  | create name => exact trivial
  | openFile name => exact trivial
  | close handle => exact trivial
  | write handle data => exact trivial
  | delete name => exact trivial
  | exit code => exact trivial

end Store

end FileConformance
