import FileConformance.Proofs.Plain.Basic
import FileConformance.Proofs.Store.WellFormed

/-!
# A store without faults is a plain file system

A store queues what it has to do to its files and makes it durable at times of
its own choosing.  As long as nothing fails, no power is lost and space does not
run out, a caller cannot tell it from a plain file system, which changes its
files at once.

A plain file system mirrors a store if it has the same names and handles, and
if its contents are the live contents of the store.  Every change of a store is
mirrored by a change of the plain file system, and the flushes by none.
-/

namespace FileConformance

/-- What a plain file system keeps of a handle. -/
def StoreHandle.plain (opened : StoreHandle) : PlainHandle :=
  ⟨opened.file, opened.position⟩

/-- A plain file system looks like a store to the callers of both. -/
structure Mirrors (plain : Plain) (store : Store) : Prop where
  nameLimit : plain.nameLimit = store.settings.nameLimit
  handleLimit : plain.handleLimit = store.settings.handleLimit
  deleteOpen : plain.deleteOpen = store.settings.deleteOpen
  names : plain.names = store.names
  nextHandle : plain.nextHandle = store.nextHandle
  nextFile : plain.nextFile = store.nextFile
  exitStatus : plain.exitStatus = store.exitStatus
  handle : ∀ handle : Handle, plain.handles[handle]? =
    (store.handles.find? handle).map StoreHandle.plain
  content : ∀ file ∈ store.files,
    plain.contents[file]? = some (store.live file)

namespace Mirrors

variable {plain : Plain} {store : Store}

theorem fresh (settings : StoreSettings) (generator : Generator) :
    Mirrors (Plain.fresh settings) (Store.fresh settings generator) where
  nameLimit := rfl
  handleLimit := rfl
  deleteOpen := rfl
  names := rfl
  nextHandle := rfl
  nextFile := rfl
  exitStatus := rfl
  handle := by
    intro handle
    simp [Plain.fresh, Store.fresh]
  content := by simp [Store.fresh]

/-! ## Equal conditions -/

/-- As many handles are open here as there. -/
theorem size_handles (mirrors : Mirrors plain store) :
    plain.handles.size = store.handles.size := by
  have same : plain.handles.keys.Perm store.handles.keys := by
    apply (List.perm_ext_iff_of_nodup Std.ExtTreeMap.nodup_keys
      store.handles.nodup_keys).mpr
    intro handle
    rw [Std.ExtTreeMap.mem_keys, Registry.mem_keys,
      Std.ExtTreeMap.mem_iff_isSome_getElem?, mirrors.handle,
      Option.isSome_map]
  rw [← Std.ExtTreeMap.length_keys, ← Registry.length_keys]
  exact same.length_eq

theorem checkAlive_eq (mirrors : Mirrors plain store) :
    plain.checkAlive = store.checkAlive := by
  have same := mirrors.exitStatus
  cases status : store.exitStatus with
  | none =>
      rw [status] at same
      simp [Plain.checkAlive, Store.checkAlive, same, status]
  | some ended =>
      rw [status] at same
      simp [Plain.checkAlive, Store.checkAlive, same, status]

theorem checkName_eq (mirrors : Mirrors plain store) (name : Bytes) :
    plain.checkName name = store.checkName name := by
  have unusable : (name.isEmpty || name.contains 0) = true ↔
      name = [] ∨ 0 ∈ name := by
    simp
  simp only [Plain.checkName, Store.checkName, mirrors.nameLimit, unusable]
  split
  · rfl
  · split
    · rename_i fits
      rw [if_neg (Nat.not_lt.mpr fits)]
    · rename_i long
      rw [if_pos (Nat.not_le.mp long)]

theorem checkHandleLimit_eq (mirrors : Mirrors plain store) :
    plain.checkHandleLimit = store.checkHandleLimit := by
  simp only [Plain.checkHandleLimit, Store.checkHandleLimit,
    mirrors.handleLimit, mirrors.size_handles]
  cases store.settings.handleLimit with
  | none => rfl
  | some limit =>
      dsimp only
      split
      · rename_i room
        rw [if_neg (Nat.not_le.mpr room)]
      · rename_i full
        rw [if_pos (Nat.not_lt.mp full)]

theorem lookUp_eq (mirrors : Mirrors plain store) (name : Bytes) :
    plain.lookUp name = store.lookUp name := by
  cases named : store.names[name]? with
  | none => simp [Plain.lookUp, Store.lookUp, mirrors.names, named]
  | some file => simp [Plain.lookUp, Store.lookUp, mirrors.names, named]

/-- A handle is open on a file here if it counts handles there. -/
theorem isOpen_iff (mirrors : Mirrors plain store)
    (wf : store.WellFormed) {file : Nat} (present : file ∈ store.files) :
    plain.isOpen file = true ↔ 0 < store.handlesOn file := by
  rcases Store.mem_files_iff.mp present with ⟨stored, found⟩
  have counted : store.handlesOn file = store.openCount file := by
    rw [← wf.openHandles_eq found, Store.handlesOn, found]
    rfl
  rw [counted, Store.openCount, Registry.count_pos_iff, Plain.isOpen,
    List.any_eq_true]
  constructor
  · rintro ⟨⟨handle, opened⟩, member, same⟩
    rw [Std.ExtTreeMap.mem_toList_iff_getElem?_eq_some,
      mirrors.handle, Option.map_eq_some_iff] at member
    rcases member with ⟨held, holding, rfl⟩
    exact ⟨handle, held, holding, same⟩
  · rintro ⟨handle, held, holding, same⟩
    refine ⟨(handle, held.plain), ?_, same⟩
    rw [Std.ExtTreeMap.mem_toList_iff_getElem?_eq_some,
      mirrors.handle, holding, Option.map_some]

theorem admitCreate_eq (mirrors : Mirrors plain store) (name : Bytes) :
    plain.admitCreate name = store.admitCreate name := by
  rw [Plain.admitCreate, Store.admitCreate, mirrors.checkAlive_eq,
    mirrors.checkName_eq, mirrors.checkHandleLimit_eq]

theorem admitOpen_eq (mirrors : Mirrors plain store) (name : Bytes) :
    plain.admitOpen name = store.admitOpen name := by
  rw [Plain.admitOpen, Store.admitOpen, mirrors.checkAlive_eq,
    mirrors.checkName_eq, mirrors.checkHandleLimit_eq, mirrors.lookUp_eq]

theorem admitHandle_eq (mirrors : Mirrors plain store) (handle : Handle) :
    plain.admitHandle handle =
      (store.admitHandle handle).map StoreHandle.plain := by
  rw [Plain.admitHandle, Store.admitHandle, mirrors.checkAlive_eq,
    Plain.resolve, Store.resolve, mirrors.handle]
  cases store.checkAlive with
  | error reason => rfl
  | ok _ => cases store.handles.find? handle <;> rfl

theorem admitDelete_eq (mirrors : Mirrors plain store)
    (wf : store.WellFormed) (name : Bytes) :
    plain.admitDelete name = store.admitDelete name := by
  rw [Plain.admitDelete, Store.admitDelete, mirrors.checkAlive_eq,
    mirrors.checkName_eq, mirrors.lookUp_eq, mirrors.deleteOpen]
  cases named : store.names[name]? with
  | none =>
      have missing : store.lookUp name = .error .notFound := by
        rw [Store.lookUp, named]
      rw [missing]
      rfl
  | some file =>
      have found : store.lookUp name = .ok file := by
        rw [Store.lookUp, named]
      rcases wf.named_linked named with ⟨stored, there, _⟩
      have busy := mirrors.isOpen_iff wf
        (Store.mem_files_iff.mpr ⟨stored, there⟩)
      rw [found]
      show (store.checkAlive >>= fun _ => store.checkName name >>= fun _ =>
        if plain.isOpen file = true ∧ store.settings.deleteOpen = .reject
        then Except.error CallError.busy else Except.ok file) =
        (store.checkAlive >>= fun _ => store.checkName name >>= fun _ =>
        if 0 < store.handlesOn file ∧ store.settings.deleteOpen = .reject
        then Except.error CallError.busy else Except.ok file)
      simp only [busy]

/-! ## Mirrored changes -/

theorem draw (mirrors : Mirrors plain store) (generator : Generator) :
    Mirrors plain { store with generator } :=
  { mirrors with }

/-- What is flushed looks the same. -/
theorem flush (mirrors : Mirrors plain store) (file : Nat) :
    Mirrors plain (store.flush file) :=
  { mirrors with
    content := by
      intro other present
      have before : other ∈ store.files := by
        rw [Store.flush, Std.ExtTreeMap.mem_modify] at present
        exact present
      rw [Store.live_flush before]
      exact mirrors.content other before }

theorem writtenBack (mirrors : Mirrors plain store) (sync : Probability)
    (file : Nat) : Mirrors plain (store.writtenBack sync file) := by
  have drawn := mirrors.draw (sync.draw store.generator).2
  rw [Store.writtenBack]
  split
  · exact drawn.flush file
  · exact drawn

theorem fileToCreate (mirrors : Mirrors plain store)
    (wf : store.WellFormed) (name : Bytes) :
    (plain.fileToCreate name).1 = (store.fileToCreate name).1 ∧
      Mirrors (plain.fileToCreate name).2
        (store.fileToCreate name).2 := by
  have emptied : ∀ other ∈ (store.fileToCreate name).2.files,
      (plain.contents.insert (store.fileToCreate name).1 [])[other]? =
        some ((store.fileToCreate name).2.live other) := by
    intro other present
    rw [wf.live_fileToCreate]
    simp only [Std.ExtTreeMap.getElem?_insert,
      Std.LawfulEqOrd.compare_eq_iff_eq]
    split
    · rfl
    · rename_i different
      have old := (wf.mem_files_fileToCreate name other).mp present
      exact mirrors.content other (old.resolve_left different)
  cases found : store.names[name]? with
  | some file =>
      rw [Store.fileToCreate_of_named found] at emptied ⊢
      simp only [Plain.fileToCreate, mirrors.names, found]
      exact ⟨trivial, {
        mirrors with
        names := rfl
        content := emptied }⟩
  | none =>
      rw [Store.fileToCreate_of_free found] at emptied ⊢
      simp only [Plain.fileToCreate, mirrors.names, mirrors.nextFile,
        found]
      exact ⟨trivial, {
        mirrors with
        names := rfl
        nextFile := rfl
        content := emptied }⟩

theorem openHandle (mirrors : Mirrors plain store) (file : Nat)
    (name : Bytes) :
    Mirrors (plain.openHandle file) (store.openHandle file name).2 :=
  { mirrors with
    nextHandle := by
      simp only [Plain.openHandle, Store.openHandle, mirrors.nextHandle]
    handle := by
      intro handle
      simp only [Plain.openHandle, Store.openHandle,
        Std.ExtTreeMap.getElem?_insert, Registry.find?_insert,
        Std.LawfulEqOrd.compare_eq_iff_eq, mirrors.nextHandle,
        mirrors.handle]
      split
      · rfl
      · rfl
    content := by
      intro other present
      rw [Store.openHandle, Std.ExtTreeMap.mem_modify] at present
      rw [Store.live_openHandle]
      exact mirrors.content other present }

theorem advance (mirrors : Mirrors plain store) {handle : Handle}
    {opened : StoreHandle}
    (found : store.handles.find? handle = some opened) (count : Nat) :
    Mirrors (plain.advance handle opened.plain count)
      (store.advance handle count) :=
  { mirrors with
    handle := by
      intro other
      simp only [Plain.advance, Store.advance,
        Std.ExtTreeMap.getElem?_insert, Registry.find?_adjust,
        Std.LawfulEqOrd.compare_eq_iff_eq]
      split
      · rename_i same
        subst same
        rw [found]
        rfl
      · exact mirrors.handle other
    content := mirrors.content }

theorem content_eq (mirrors : Mirrors plain store) {file : Nat}
    (present : file ∈ store.files) :
    plain.content file = store.live file := by
  rw [Plain.content, Std.ExtTreeMap.getD_eq_getD_getElem?,
    mirrors.content file present, Option.getD_some]

theorem append (mirrors : Mirrors plain store) {handle : Handle}
    {opened : StoreHandle} (present : opened.file ∈ store.files)
    (found : store.handles.find? handle = some opened) (data : Bytes) :
    Mirrors ((plain.put opened.plain data).advance handle opened.plain
      data.length) (store.append handle opened data) := by
  simp only [Plain.put, Store.append, List.isEmpty_iff]
  split
  · exact mirrors.advance found data.length
  · have queued : Mirrors
        { plain with
          contents := plain.contents.insert opened.plain.file
            ((plain.content opened.plain.file).overwrite
              opened.plain.position data) }
        { store with
          pending := store.pending ++
            [.write opened.file opened.position data] } := by
      refine { mirrors with content := ?_ }
      intro other there
      rw [Store.live_queue]
      by_cases same : opened.file = other
      · subst same
        simp [StoreHandle.plain, Pending.file, Pending.apply,
          mirrors.content_eq present]
      · simp only [Std.ExtTreeMap.getElem?_insert, StoreHandle.plain,
          Std.LawfulEqOrd.compare_eq_iff_eq, Pending.file, same, if_false]
        exact mirrors.content other there
    exact queued.advance found data.length

theorem surrender (mirrors : Mirrors plain store) (handle : Handle)
    (file : Nat) :
    Mirrors { plain with handles := plain.handles.erase handle }
      (store.surrender handle file) := by
  have kept : ∀ other ∈ (store.surrender handle file).files,
      plain.contents[other]? =
        some ((store.surrender handle file).live other) := by
    intro other present
    rw [Store.live_surrender present]
    exact mirrors.content other (Store.mem_files_of_surrender present)
  have handles : ∀ other : Handle, (plain.handles.erase handle)[other]? =
      ((store.handles.remove handle).find? other).map
        StoreHandle.plain := by
    intro other
    simp only [Std.ExtTreeMap.getElem?_erase, Registry.find?_remove,
      Std.LawfulEqOrd.compare_eq_iff_eq]
    split
    · rfl
    · exact mirrors.handle other
  rw [Store.surrender_eq]
  exact { mirrors with handle := handles, content := kept }

theorem unlink (mirrors : Mirrors plain store) (name : Bytes)
    (file : Nat) :
    Mirrors { plain with names := plain.names.erase name }
      (store.unlink name file) := by
  have kept : ∀ other ∈ (store.unlink name file).files,
      plain.contents[other]? =
        some ((store.unlink name file).live other) := by
    intro other present
    rw [Store.live_unlink present]
    exact mirrors.content other (Store.mem_files_of_unlink present)
  rw [Store.unlink_eq]
  exact { mirrors with
    names := by simp only [mirrors.names]
    content := kept }

/-- Closing handles leaves the rest of a store as it looks. -/
theorem closeAll (mirrors : Mirrors plain store) (handles : List Handle) :
    ∃ left, Mirrors { plain with handles := left }
      (Store.closeAll handles store).state := by
  induction handles generalizing plain store with
  | nil => exact ⟨plain.handles, mirrors⟩
  | cons handle rest ih =>
      show ∃ left, Mirrors { plain with handles := left }
        (Store.closeAll rest (store.close handle).state).state
      cases admitted : store.admitHandle handle with
      | error reason =>
          rw [Store.close_of_refused admitted]
          exact ih mirrors
      | ok opened =>
          rw [Store.close_of_admitted admitted]
          rcases ih (mirrors.surrender handle opened.file) with
            ⟨left, later⟩
          exact ⟨left, later⟩

/-- The end of the process gives every handle back. -/
theorem exit (mirrors : Mirrors plain store) (code : Int32) :
    Mirrors (plain.exit code).state (store.exit code).state := by
  have same := mirrors.exitStatus
  cases status : store.exitStatus with
  | some ended =>
      rw [status] at same
      simp only [Plain.exit, Store.exit, same, status]
      exact mirrors
  | none =>
      rw [status] at same
      have closed := Store.closeAll_alive store.handles.keys status
      rcases mirrors.closeAll store.handles.keys with ⟨left, later⟩
      simp only [Plain.exit, Store.exit, same, status]
      refine { later with exitStatus := rfl, handle := ?_ }
      intro handle
      have gone : (Store.closeAll store.handles.keys
          store).state.handles.find? handle = none := by
        rw [closed.2]
        split
        · rfl
        · rename_i missing
          exact Registry.find?_eq_none_iff.mpr missing
      rw [gone]
      simp

/-! ## Mirrored calls -/

theorem create (mirrors : Mirrors plain store) (wf : store.WellFormed)
    (name : Bytes) :
    (store.create name).answer = (plain.create name).answer ∧
      Mirrors (plain.create name).state (store.create name).state := by
  have asked := mirrors.admitCreate_eq name
  cases admitted : store.admitCreate name with
  | error reason =>
      rw [Store.create_of_refused admitted]
      simp only [Plain.create, asked, admitted]
      exact ⟨rfl, mirrors⟩
  | ok _ =>
      rcases mirrors.fileToCreate wf name with ⟨sameFile, prepared⟩
      rw [Store.create_of_admitted admitted]
      simp only [Plain.create, asked, admitted, sameFile]
      refine ⟨?_, prepared.openHandle _ name⟩
      rw [prepared.nextHandle]

theorem openFile (mirrors : Mirrors plain store) (name : Bytes) :
    (store.openFile name).answer = (plain.openFile name).answer ∧
      Mirrors (plain.openFile name).state (store.openFile name).state := by
  have asked := mirrors.admitOpen_eq name
  cases admitted : store.admitOpen name with
  | error reason =>
      rw [Store.openFile_of_refused admitted]
      simp only [Plain.openFile, asked, admitted]
      exact ⟨rfl, mirrors⟩
  | ok file =>
      rw [Store.openFile_of_admitted admitted]
      simp only [Plain.openFile, asked, admitted]
      refine ⟨?_, mirrors.openHandle file name⟩
      rw [mirrors.nextHandle]

theorem close (mirrors : Mirrors plain store) (handle : Handle) :
    (store.close handle).answer = (plain.close handle).answer ∧
      Mirrors (plain.close handle).state (store.close handle).state := by
  have asked := mirrors.admitHandle_eq handle
  cases admitted : store.admitHandle handle with
  | error reason =>
      rw [Store.close_of_refused admitted]
      simp only [Plain.close, asked, admitted, Except.map]
      exact ⟨rfl, mirrors⟩
  | ok opened =>
      rw [Store.close_of_admitted admitted]
      simp only [Plain.close, asked, admitted, Except.map]
      exact ⟨trivial, mirrors.surrender handle opened.file⟩

theorem delete (mirrors : Mirrors plain store) (wf : store.WellFormed)
    (name : Bytes) :
    (store.delete name).answer = (plain.delete name).answer ∧
      Mirrors (plain.delete name).state (store.delete name).state := by
  have asked := mirrors.admitDelete_eq wf name
  cases admitted : store.admitDelete name with
  | error reason =>
      rw [Store.delete_of_refused admitted]
      simp only [Plain.delete, asked, admitted]
      exact ⟨rfl, mirrors⟩
  | ok file =>
      rw [Store.delete_of_admitted admitted]
      simp only [Plain.delete, asked, admitted]
      exact ⟨trivial, mirrors.unlink name file⟩

/-- Both answer a call alike, and look alike afterwards. -/
theorem respond (mirrors : Mirrors plain store) (wf : store.WellFormed)
    (faultless : store.settings.Faultless)
    (unbounded : store.settings.capacity = none) (request : Call) :
    (Store.subsystem.respond request store).answer =
        (Plain.subsystem.respond request plain).answer ∧
      Mirrors (Plain.subsystem.respond request plain).state
        (Store.subsystem.respond request store).state := by
  cases request with
  | create name => exact mirrors.create wf name
  | openFile name => exact mirrors.openFile name
  | close handle => exact mirrors.close handle
  | read handle buffer =>
      show (store.read handle buffer).answer =
          (plain.read handle buffer).answer ∧
        Mirrors (plain.read handle buffer).state
          (store.read handle buffer).state
      have asked := mirrors.admitHandle_eq handle
      cases admitted : store.admitHandle handle with
      | error reason =>
          simp only [Plain.read, Store.read, asked, admitted, Except.map]
          exact ⟨trivial, mirrors⟩
      | ok opened =>
          have found := (Store.admitHandle_eq_ok_iff.mp admitted).2
          have same := mirrors.content_eq (wf.handle_present found)
          rw [Store.read_of_faultless faultless admitted]
          simp only [Plain.read, asked, admitted, Except.map,
            StoreHandle.plain, same]
          exact ⟨trivial, mirrors.advance found _⟩
  | write handle data =>
      show (store.write handle data).answer =
          (plain.write handle data).answer ∧
        Mirrors (plain.write handle data).state
          (store.write handle data).state
      have asked := mirrors.admitHandle_eq handle
      cases admitted : store.admitHandle handle with
      | error reason =>
          rw [Store.write_of_refused data admitted]
          simp only [Plain.write, asked, admitted, Except.map]
          exact ⟨rfl, mirrors⟩
      | ok opened =>
          have found := (Store.admitHandle_eq_ok_iff.mp admitted).2
          have present := wf.handle_present found
          have room : store.checkSpace (store.growth opened data) =
              .ok () := by
            rw [Store.checkSpace, unbounded]
          rw [Store.write_of_faultless faultless admitted room]
          simp only [Plain.write, asked, admitted, Except.map]
          refine ⟨trivial, Mirrors.writtenBack ?_ _ _⟩
          exact mirrors.append present found data
  | delete name => exact mirrors.delete wf name
  | exit code => exact ⟨rfl, mirrors.exit code⟩

theorem content?_eq (mirrors : Mirrors plain store)
    (wf : store.WellFormed) (name : Bytes) :
    plain.content? name = store.content? name := by
  rw [Plain.content?, Store.content?, mirrors.names]
  cases named : store.names[name]? with
  | none => rfl
  | some file =>
      rcases wf.named_linked named with ⟨stored, found, _⟩
      exact mirrors.content file (Store.mem_files_iff.mpr ⟨stored, found⟩)

/-- Both answer a sequence of calls alike, and look alike afterwards. -/
theorem exchanges (mirrors : Mirrors plain store) (wf : store.WellFormed)
    (faultless : store.settings.Faultless)
    (unbounded : store.settings.capacity = none) (calls : List Call) :
    Store.subsystem.exchanges calls store =
        Plain.subsystem.exchanges calls plain ∧
      (Store.subsystem.after calls store).WellFormed ∧
      Mirrors (Plain.subsystem.after calls plain)
        (Store.subsystem.after calls store) := by
  induction calls generalizing plain store with
  | nil => exact ⟨rfl, wf, mirrors⟩
  | cons request rest ih =>
      rcases mirrors.respond wf faultless unbounded request with
        ⟨answered, later⟩
      have evolved := Store.act_evolves store (.call request)
      have settled : (Store.subsystem.respond request
          store).state.settings = store.settings :=
        Store.settings_after store [.call request]
      rw [← settled] at faultless unbounded
      rcases ih later (wf.evolves evolved) faultless unbounded with
        ⟨others, result⟩
      refine ⟨?_, result⟩
      rw [Subsystem.exchanges, Subsystem.exchanges, answered, others]

end Mirrors

/--
A caller cannot tell a store without faults and without a capacity from a plain
file system: every sequence of calls gets the same answers, and afterwards every
name has the same content.  When and how often the store makes its files
durable shows in neither.
-/
theorem store_refines_plain (settings : StoreSettings)
    (generator : Generator) (faultless : settings.Faultless)
    (unbounded : settings.capacity = none) (calls : List Call) :
    Store.subsystem.exchanges calls (Store.fresh settings generator) =
        Plain.subsystem.exchanges calls (Plain.fresh settings) ∧
      ∀ name : Bytes,
        (Store.subsystem.after calls
            (Store.fresh settings generator)).content? name =
          (Plain.subsystem.after calls
            (Plain.fresh settings)).content? name := by
  have start := Mirrors.fresh settings generator
  rcases start.exchanges (Store.WellFormed.fresh settings generator)
    faultless unbounded calls with ⟨answered, wf, later⟩
  refine ⟨answered, ?_⟩
  intro name
  exact (later.content?_eq wf name).symm

/--
Two handles on one file, a refused delete, and writes flushed by chance.  One
handle reads what was written through the other, and writes behind a gap after
the file was emptied.
-/
theorem store_refines_plain_two_handles :
    let settings : StoreSettings :=
      { sync := .sometimes 9223372036854775808
        handleLimit := some 2
        deleteOpen := .reject }
    let calls : List Call :=
      [.create [97], .write ⟨2⟩ [1, 2, 3], .openFile [97],
        .read ⟨3⟩ [0, 0, 0, 0], .create [97], .delete [97], .close ⟨2⟩,
        .create [97], .write ⟨3⟩ [4], .exit 0, .openFile [97]]
    let store := Store.fresh settings (.ofSeed 7)
    let plain := Plain.fresh settings
    let exchanges := Store.subsystem.exchanges calls store
    (settings.Faultless ∧ settings.capacity = none) ∧
      exchanges = Plain.subsystem.exchanges calls plain ∧
      (∀ name : Bytes, (Store.subsystem.after calls store).content? name =
        (Plain.subsystem.after calls plain).content? name) ∧
      exchanges.filterMap (fun exchange => match exchange with
        | ⟨.create _, answer⟩ => some answer
        | ⟨.openFile _, answer⟩ => some answer
        | _ => none) =
        [.ok ⟨2⟩, .ok ⟨3⟩, .error .tooManyOpenFiles, .ok ⟨4⟩,
          .error .terminated] ∧
      exchanges.filterMap (fun exchange => match exchange with
        | ⟨.read _ _, received⟩ => some received.buffer
        | _ => none) = [[1, 2, 3, 0]] ∧
      (Store.subsystem.after calls store).content? [97] =
        some [0, 0, 0, 4] := by
  intro settings calls store plain exchanges
  have faultless : settings.Faultless := ⟨rfl, rfl⟩
  have unbounded : settings.capacity = none := rfl
  rcases store_refines_plain settings (.ofSeed 7) faultless unbounded calls
    with ⟨answered, held⟩
  refine ⟨⟨faultless, unbounded⟩, answered, held, ?_, ?_, ?_⟩
  · rw [show exchanges = _ from answered]
    decide +kernel
  · rw [show exchanges = _ from answered]
    decide +kernel
  · rw [held]
    decide +kernel

end FileConformance
