import FileConformance.Proofs.Store.WellFormed

/-!
# Durability

A file is flushed when one of its handles is closed, and when a write to it
succeeds and the draw after it decides that the file is made durable at once.
Ending the process closes the handles that are open, one after the other.

The history of a run tells all of these points apart.  What is durable of a
file is what the file held right after it was flushed last, and a crash leaves
exactly that.
-/

namespace FileConformance

/-- An action that is about to be carried out on a store. -/
structure Moment where
  before : Store
  action : Action

namespace Moment

/-- The store right after a moment's action. -/
def after (moment : Moment) : Store :=
  moment.before.act moment.action

end Moment

namespace Store

/-- Whether a handle is open on a file. -/
def leadsTo (store : Store) (handle : Handle) (file : Nat) : Bool :=
  (store.handles.find? handle).any fun opened => opened.file == file

/--
Whether the next write, if it succeeds, is made durable at once.  The draw for
an input or output error comes before it.
-/
def drawsSync (store : Store) : Bool :=
  (store.settings.sync.draw
    (store.settings.inputOutputError.draw store.generator).2).1

end Store

/--
Whether a file is flushed: one of its handles is closed, or data is written to
it and made durable at once.
-/
def Moment.flushes (moment : Moment) (file : Nat) : Bool :=
  match moment.action with
  | .call (.close handle) =>
      moment.before.leadsTo handle file &&
        (moment.before.close handle).answer.isOk
  | .call (.write handle data) =>
      moment.before.leadsTo handle file &&
        (moment.before.write handle data).answer.isOk &&
        moment.before.drawsSync
  | _ => false

/--
The parts of an action that flush one file at most: before a process ends, the
handles that are still open are closed one after the other.
-/
def Action.parts (store : Store) : Action → List Action
  | .call (.exit code) =>
      match store.exitStatus with
      | some _ => [.call (.exit code)]
      | none =>
          (store.handles.keys.map fun handle => .call (.close handle)) ++
            [.call (.exit code)]
  | action => [action]

namespace Store

/-- The actions of a run, each in its parts. -/
def spelledOut (store : Store) : List Action → List Action
  | [] => []
  | action :: rest =>
      action.parts store ++ (store.act action).spelledOut rest

/-- The moments at which actions are carried out one after the other. -/
def moments (store : Store) : List Action → List Moment
  | [] => []
  | action :: rest => ⟨store, action⟩ :: (store.act action).moments rest

/-- The history of a run. -/
def history (store : Store) (actions : List Action) : List Moment :=
  store.moments (store.spelledOut actions)

/--
What a file held right after it was flushed last.  A file that was never
flushed held nothing then.
-/
def liveAtFlush (file : Nat) (history : List Moment) : Bytes :=
  match (history.filter fun moment => moment.flushes file).getLast? with
  | some moment => moment.after.live file
  | none => []

/-! ## Histories -/

theorem moments_append (store : Store) (earlier later : List Action) :
    store.moments (earlier ++ later) =
      store.moments earlier ++ (store.after earlier).moments later := by
  induction earlier generalizing store with
  | nil => rfl
  | cons action rest ih =>
      rw [List.cons_append, moments, moments, ih, after_cons,
        List.cons_append]

theorem liveAtFlush_append (file : Nat) (history : List Moment)
    (moment : Moment) :
    liveAtFlush file (history ++ [moment]) =
      if moment.flushes file then moment.after.live file
      else liveAtFlush file history := by
  by_cases flushed : moment.flushes file = true
  · simp [liveAtFlush, List.filter_append, flushed]
  · simp [liveAtFlush, List.filter_append, flushed]

/-- Closing handles in order is the run of these calls. -/
theorem closeAll_eq_after (handles : List Handle) (store : Store) :
    (closeAll handles store).state =
      store.after (handles.map fun handle => .call (.close handle)) := by
  induction handles generalizing store with
  | nil => rfl
  | cons handle rest ih =>
      rw [closeAll, List.map_cons, after_cons]
      exact ih _

/-- Ending a process that holds no handles ends it and changes nothing else. -/
theorem exit_of_vacant {store : Store} (alive : store.exitStatus = none)
    (vacant : store.handles.size = 0) (code : Int32) :
    (store.exit code).state = { store with exitStatus := some code } := by
  have none_left : store.handles.keys = [] := by
    rw [← List.length_eq_zero_iff, Registry.length_keys]
    exact vacant
  simp [exit, alive, none_left, closeAll]

/-- The parts of an action do what the action does. -/
theorem after_parts (store : Store) (action : Action) :
    store.after (action.parts store) = store.act action := by
  cases action with
  | crash => rfl
  | call request =>
      cases request with
      | exit code =>
          cases status : store.exitStatus with
          | some code =>
              simp only [Action.parts, status]
              rfl
          | none =>
              have ended := closeAll_alive store.handles.keys status
              have vacant := size_closeAll_keys status
              simp only [Action.parts, status, after_append,
                ← closeAll_eq_after, after_cons, after_nil]
              show ((closeAll store.handles.keys store).state.exit
                code).state = (store.exit code).state
              rw [exit_of_vacant ended.1 vacant]
              simp only [exit, status]
      | create name => rfl
      | openFile name => rfl
      | close handle => rfl
      | read handle buffer => rfl
      | write handle data => rfl
      | delete name => rfl

/-- A run does what its parts do. -/
theorem after_spelledOut (store : Store) (actions : List Action) :
    store.after (store.spelledOut actions) = store.after actions := by
  induction actions generalizing store with
  | nil => rfl
  | cons action rest ih =>
      rw [spelledOut, after_append, after_parts, ih, after_cons]

end Store

/-- No handle is open when the process ends. -/
def Moment.Spelled (moment : Moment) : Prop :=
  ∀ code : Int32, moment.action = .call (.exit code) →
    moment.before.exitStatus = none → moment.before.handles.size = 0

namespace Store

theorem spelled_closes (handles : List Handle) (store : Store) :
    ∀ moment ∈ store.moments
        (handles.map fun handle => .call (.close handle)),
      moment.Spelled := by
  induction handles generalizing store with
  | nil => simp [moments]
  | cons handle rest ih =>
      intro moment member
      rw [List.map_cons, moments] at member
      rcases List.mem_cons.mp member with rfl | later
      · intro code ending
        cases ending
      · exact ih _ moment later

theorem spelled_parts (store : Store) (action : Action) :
    ∀ moment ∈ store.moments (action.parts store), moment.Spelled := by
  have single : ∀ other : Action,
      (∀ code : Int32, other = .call (.exit code) →
        store.exitStatus ≠ none) →
      ∀ moment ∈ store.moments [other], moment.Spelled := by
    intro other ended moment member
    rw [List.mem_singleton.mp member]
    intro code same alive
    exact (ended code same alive).elim
  cases action with
  | crash => exact single .crash nofun
  | call request =>
      cases request with
      | exit code =>
          cases status : store.exitStatus with
          | some ended =>
              simp only [Action.parts, status]
              refine single _ ?_
              intro _ _
              rw [status]
              exact Option.some_ne_none ended
          | none =>
              simp only [Action.parts, status, moments_append]
              intro moment member
              rcases List.mem_append.mp member with closing | ending
              · exact spelled_closes _ _ moment closing
              · rw [List.mem_singleton.mp ending]
                intro _ _ _
                rw [← closeAll_eq_after]
                exact size_closeAll_keys status
      | create name => exact single _ nofun
      | openFile name => exact single _ nofun
      | close handle => exact single _ nofun
      | read handle buffer => exact single _ nofun
      | write handle data => exact single _ nofun
      | delete name => exact single _ nofun

theorem spelled_history (store : Store) (actions : List Action) :
    ∀ moment ∈ store.history actions, moment.Spelled := by
  induction actions generalizing store with
  | nil => simp [history, spelledOut, moments]
  | cons action rest ih =>
      intro moment member
      rw [history, spelledOut, moments_append, after_parts] at member
      rcases List.mem_append.mp member with first | later
      · exact spelled_parts store action moment first
      · exact ih _ moment later

/-! ## What is durable after one action -/

theorem durable_fileToCreate {store : Store} (wf : store.WellFormed)
    (name : Bytes) (file : Nat) :
    (store.fileToCreate name).2.durable file = store.durable file := by
  cases named : store.names[name]? with
  | some found =>
      rw [fileToCreate_of_named named]
      rfl
  | none =>
      rw [fileToCreate_of_free named]
      by_cases same : store.nextFile = file
      · subst same
        rw [durable_of_missing wf.nextFile_unused]
        simp [durable]
      · simp [durable, Std.ExtTreeMap.getElem?_insert, same]

theorem leadsTo_of_found {store : Store} {handle : Handle}
    {opened : StoreHandle}
    (found : store.handles.find? handle = some opened) (file : Nat) :
    store.leadsTo handle file = (opened.file == file) := by
  rw [leadsTo, found, Option.any_some]

theorem durable_close (store : Store) (handle : Handle) (file : Nat) :
    (store.close handle).state.durable file =
      if (Moment.mk store (.call (.close handle))).flushes file then
        (store.close handle).state.live file
      else store.durable file := by
  simp only [Moment.flushes]
  cases admitted : store.admitHandle handle with
  | error reason =>
      simp [close_of_refused admitted, refuse, Except.isOk, Except.toBool]
  | ok opened =>
      have found := (admitHandle_eq_ok_iff.mp admitted).2
      simp only [close_of_admitted admitted, leadsTo_of_found found,
        Except.isOk, Except.toBool, Bool.and_true, beq_iff_eq]
      split
      · rename_i same
        subst same
        have settled :=
          onFile_pending_surrender_self store handle opened.file
        exact (live_of_settled settled).symm
      · rename_i different
        exact durable_surrender_of_ne store handle different

theorem durable_read (store : Store) (handle : Handle) (buffer : Bytes)
    (file : Nat) :
    (store.read handle buffer).state.durable file = store.durable file := by
  rcases exists_read_eq store handle buffer with
    ⟨generator, same | ⟨opened, count, _, same⟩⟩
  · rw [same]
    rfl
  · rw [same]
    rfl

theorem durable_append (store : Store) (handle : Handle)
    (opened : StoreHandle) (data : Bytes) (file : Nat) :
    (store.append handle opened data).durable file =
      store.durable file := by
  rw [append_eq]
  rfl

/-- Between queueing data and the end of a write nothing becomes durable. -/
theorem durable_queued (store : Store) (handle : Handle)
    (opened : StoreHandle) (data : Bytes) (file : Nat) :
    ((store.drawn.append handle opened data).chance
      store.settings.sync).2.durable file = store.durable file :=
  durable_append store.drawn handle opened data file

/-- The second draw of a write is the one that was foretold. -/
theorem chance_sync (store : Store) (handle : Handle)
    (opened : StoreHandle) (data : Bytes) :
    ((store.drawn.append handle opened data).chance
      store.settings.sync).1 = store.drawsSync := by
  rw [append_eq]
  rfl

theorem durable_write {store : Store} (wf : store.WellFormed)
    (handle : Handle) (data : Bytes) (file : Nat) :
    (store.write handle data).state.durable file =
      if (Moment.mk store (.call (.write handle data))).flushes file then
        (store.write handle data).state.live file
      else store.durable file := by
  simp only [Moment.flushes]
  cases admitted : store.admitHandle handle with
  | error reason =>
      simp [write_of_refused data admitted, refuse, Except.isOk,
        Except.toBool]
  | ok opened =>
      have found := (admitHandle_eq_ok_iff.mp admitted).2
      cases failed : (store.chance store.settings.inputOutputError).1 with
      | true =>
          simp only [write_of_failed data admitted failed, refuse,
            Except.isOk, Except.toBool, Bool.and_false, Bool.false_and,
            Bool.false_eq_true, if_false]
          rfl
      | false =>
          cases room :
              store.drawn.checkSpace (store.drawn.growth opened data) with
          | error reason =>
              simp only [write_of_full admitted failed room, refuse,
                Except.isOk, Except.toBool, Bool.and_false,
                Bool.false_and, Bool.false_eq_true, if_false]
              rfl
          | ok _ =>
              have present : opened.file ∈
                  ((store.drawn.append handle opened data).chance
                    store.settings.sync).2.files := by
                rw [append_eq]
                exact wf.handle_present found
              simp only [write_of_admitted admitted failed room,
                writtenBack, leadsTo_of_found found, chance_sync, Except.isOk,
                Except.toBool, Bool.and_true, Bool.and_eq_true,
                beq_iff_eq]
              by_cases synced : store.drawsSync = true
              · by_cases same : opened.file = file
                · subst same
                  simp only [synced, and_self, if_true]
                  rw [durable_flush_self present, live_flush present]
                · simp only [synced, same, false_and, if_false, if_true]
                  rw [durable_flush_of_ne _ same]
                  exact durable_queued store handle opened data file
              · simp only [synced, and_false, if_false,
                  Bool.false_eq_true]
                exact durable_queued store handle opened data file

/--
After an action on a well-formed store, what is durable of a file that is still
there is what it holds if it was flushed, and what was durable before if not.
-/
theorem durable_act {store : Store} (wf : store.WellFormed)
    {action : Action} (spelled : (Moment.mk store action).Spelled)
    {file : Nat} (present : file ∈ (store.act action).files) :
    (store.act action).durable file =
      if (Moment.mk store action).flushes file then
        (store.act action).live file
      else store.durable file := by
  cases action with
  | crash => exact durable_crash present
  | call request =>
      cases request with
      | create name =>
          show (store.create name).state.durable file = store.durable file
          unfold create
          split
          · rfl
          · refine (durable_openHandle _ _ _ file).trans ?_
            exact durable_fileToCreate wf name file
      | openFile name =>
          show (store.openFile name).state.durable file =
            store.durable file
          unfold openFile
          split
          · rfl
          · exact durable_openHandle _ _ _ file
      | close handle => exact durable_close store handle file
      | read handle buffer => exact durable_read store handle buffer file
      | write handle data => exact durable_write wf handle data file
      | delete name =>
          have there : file ∈ (store.delete name).state.files := present
          show (store.delete name).state.durable file = store.durable file
          unfold delete at there ⊢
          split
          · rfl
          · rename_i found admitted
            rw [admitted] at there
            exact durable_unlink there
      | exit code =>
          show (store.exit code).state.durable file = store.durable file
          cases status : store.exitStatus with
          | some ended => simp only [exit, status]
          | none =>
              rw [exit_of_vacant status (spelled code rfl status)]
              rfl

/-- A file that is flushed is there. -/
theorem present_of_flushes {store : Store} (wf : store.WellFormed)
    {action : Action} {file : Nat}
    (flushed : (Moment.mk store action).flushes file = true) :
    file ∈ store.files := by
  have leads : ∃ handle, store.leadsTo handle file = true := by
    cases action with
    | crash => cases flushed
    | call request =>
        cases request with
        | close handle =>
            exact ⟨handle, (Bool.and_eq_true_iff.mp flushed).1⟩
        | write handle data =>
            have both := (Bool.and_eq_true_iff.mp flushed).1
            exact ⟨handle, (Bool.and_eq_true_iff.mp both).1⟩
        | create name => cases flushed
        | openFile name => cases flushed
        | read handle buffer => cases flushed
        | delete name => cases flushed
        | exit code => cases flushed
  rcases leads with ⟨handle, leads⟩
  rw [leadsTo, Option.any_eq_true] at leads
  rcases leads with ⟨opened, found, same⟩
  rw [← eq_of_beq same]
  exact wf.handle_present found

/-! ## What is durable after a run -/

/-- A number is unspent if its file is there or still to be made. -/
def Unspent (store : Store) (file : Nat) : Prop :=
  file ∈ store.files ∨ store.nextFile ≤ file

theorem Transition.nextFile_le {store later : Store}
    (changed : Transition store later) :
    store.nextFile ≤ later.nextFile := by
  cases changed with
  | draw generator => exact Nat.le_refl _
  | create admitted =>
      unfold fileToCreate
      split
      · exact Nat.le_refl _
      · exact Nat.le_succ _
  | openFile admitted => exact Nat.le_refl _
  | close admitted =>
      rw [surrender_eq]
  | advance count admitted => exact Nat.le_refl _
  | append admitted room =>
      rw [append_eq]
  | flush admitted => exact Nat.le_refl _
  | unlink admitted =>
      rw [unlink_eq]
  | finish code vacant => exact Nat.le_refl _
  | crash => exact Nat.le_refl _

/-- What is there after a transition was there, or was made by it. -/
theorem Transition.unspent {store later : Store}
    (changed : Transition store later) {file : Nat}
    (unspent : later.Unspent file) : store.Unspent file := by
  rcases unspent with present | unmade
  · cases changed with
    | draw generator => exact Or.inl present
    | @create name admitted =>
        rw [openHandle, Std.ExtTreeMap.mem_modify] at present
        cases named : store.names[name]? with
        | some found =>
            rw [fileToCreate_of_named named] at present
            exact Or.inl present
        | none =>
            rw [fileToCreate_of_free named] at present
            rcases Std.ExtTreeMap.mem_insert.mp present with made | old
            · exact Or.inr
                (Std.LawfulEqOrd.compare_eq_iff_eq.mp made).le
            · exact Or.inl old
    | openFile admitted =>
        rw [openHandle, Std.ExtTreeMap.mem_modify] at present
        exact Or.inl present
    | close admitted => exact Or.inl (mem_files_of_surrender present)
    | advance count admitted => exact Or.inl present
    | append admitted room =>
        rw [append_eq] at present
        exact Or.inl present
    | flush admitted =>
        rw [Store.flush, Std.ExtTreeMap.mem_modify] at present
        exact Or.inl present
    | unlink admitted => exact Or.inl (mem_files_of_unlink present)
    | finish code vacant => exact Or.inl present
    | crash =>
        rcases mem_files_iff.mp present with ⟨later, found⟩
        rcases exists_linked_of_crash found with ⟨stored, before, _⟩
        exact Or.inl (mem_files_iff.mpr ⟨stored, before⟩)
  · exact Or.inr (changed.nextFile_le.trans unmade)

theorem Evolves.nextFile_le {store later : Store}
    (evolved : Evolves store later) : store.nextFile ≤ later.nextFile :=
  evolved.induction
    (fun below changed => Nat.le_trans below changed.nextFile_le)
    (Nat.le_refl store.nextFile)

theorem Evolves.unspent {store later : Store}
    (evolved : Evolves store later) {file : Nat}
    (unspent : later.Unspent file) : store.Unspent file := by
  induction evolved with
  | refl => exact unspent
  | tail _ last ih => exact ih (last.unspent unspent)

/-- A store that came about by a history, as far as durability goes. -/
structure Recorded (history : List Moment) (store : Store) : Prop
    extends WellFormed store where
  /-- What is durable is what a file held when it was flushed last. -/
  durable_eq : ∀ {file : Nat}, store.Unspent file →
    store.durable file = liveAtFlush file history

theorem recorded_fresh (settings : StoreSettings) (generator : Generator) :
    Recorded [] (fresh settings generator) := by
  refine ⟨WellFormed.fresh settings generator, ?_⟩
  intro file _
  exact durable_of_missing rfl

namespace Recorded

variable {history : List Moment} {store : Store}

theorem act (recorded : Recorded history store) {action : Action}
    (spelled : (Moment.mk store action).Spelled) :
    Recorded (history ++ [⟨store, action⟩]) (store.act action) := by
  have wf := recorded.toWellFormed
  have evolved := act_evolves store action
  refine ⟨wf.evolves evolved, ?_⟩
  intro file unspent
  have before := recorded.durable_eq (evolved.unspent unspent)
  rw [liveAtFlush_append, ← before]
  by_cases present : file ∈ (store.act action).files
  · exact durable_act wf spelled present
  · have unmade := unspent.resolve_left present
    have never : file ∉ store.files := by
      intro there
      have below := wf.file_issued there
      have ordered := evolved.nextFile_le
      omega
    have idle : (Moment.mk store action).flushes file = false := by
      rw [← Bool.not_eq_true]
      exact fun flushed => never (present_of_flushes wf flushed)
    rw [idle, if_neg Bool.false_ne_true,
      durable_of_missing (Std.ExtTreeMap.getElem?_eq_none present),
      durable_of_missing (Std.ExtTreeMap.getElem?_eq_none never)]

theorem moments (recorded : Recorded history store)
    {actions : List Action}
    (spelled : ∀ moment ∈ store.moments actions, moment.Spelled) :
    Recorded (history ++ store.moments actions)
      (store.after actions) := by
  induction actions generalizing history store with
  | nil =>
      rw [Store.moments, List.append_nil]
      exact recorded
  | cons action rest ih =>
      have first : (Moment.mk store action).Spelled :=
        spelled _ List.mem_cons_self
      have later := ih (recorded.act first) fun moment member =>
        spelled moment (List.mem_cons_of_mem _ member)
      rw [List.append_assoc, List.singleton_append] at later
      exact later

end Recorded

theorem recorded_after_fresh (settings : StoreSettings)
    (generator : Generator) (actions : List Action) :
    Recorded ((fresh settings generator).history actions)
      ((fresh settings generator).after actions) := by
  have recorded := (recorded_fresh settings generator).moments
    (spelled_history (fresh settings generator) actions)
  rw [after_spelledOut] at recorded
  exact recorded

/-! ## What a crash leaves -/

/-- What a name denotes after a crash is what was durable of it. -/
theorem content?_crash {store : Store} (wf : store.WellFormed)
    (name : Bytes) :
    store.crash.state.content? name = store.durableContent? name := by
  show (store.names[name]?).map store.crash.state.live =
    store.durableContent? name
  rw [wf.durableContent?_eq]
  cases named : store.names[name]? with
  | none => rfl
  | some file =>
      rw [Option.map_some, Option.map_some,
        live_crash (wf.mem_files_crash_iff.mpr ⟨name, named⟩)]

/--
At any time what is durable of a file is what the file held right after it was
flushed last, and nothing if it never was; the history tells the closes of an
ending process apart, and leads to the same store.  A crash leaves of every
name what is durable of it, and it leaves no operation that waits and no open
handle.
-/
theorem durable_after_fresh (settings : StoreSettings)
    (generator : Generator) (actions : List Action) :
    let store := (fresh settings generator).after actions
    let history := (fresh settings generator).history actions
    let crashed := store.crash.state
    (fresh settings generator).after
        ((fresh settings generator).spelledOut actions) = store ∧
      (∀ file ∈ store.files,
        store.durable file = liveAtFlush file history) ∧
      crashed.names = store.names ∧
      (∀ name : Bytes,
        crashed.content? name = store.durableContent? name) ∧
      crashed.pending = [] ∧
      ∀ handle : Handle, crashed.handles.find? handle = none := by
  intro store history crashed
  have recorded : Recorded history store :=
    recorded_after_fresh settings generator actions
  refine ⟨after_spelledOut _ actions, ?_, rfl, ?_, rfl, ?_⟩
  · intro file present
    exact recorded.durable_eq (Or.inl present)
  · intro name
    exact content?_crash recorded.toWellFormed name
  · intro handle
    exact Registry.find?_empty handle

end Store

end FileConformance
