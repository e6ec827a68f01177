import FileConformance.Proofs.Registry.Counting
import FileConformance.Proofs.Store.Admission
import FileConformance.Proofs.Store.Change
import Mathlib.Logic.Relation

/-!
# Runs of a store

A store is acted on by calls and by losing power.  Every action is a sequence of
transitions: a draw of the generator, one of the changes a call makes after it
was admitted, the end of the process, or a crash.  Ending the process surrenders
the handles one after the other and ends only when none is left.

What every transition keeps is kept by every action and so by every run.
-/

namespace FileConformance

/-- What can happen to a store. -/
inductive Action where
  | call (request : Call)
  /-- Power is lost. -/
  | crash
deriving DecidableEq

namespace Store

/-- What an action makes of a store. -/
def act (store : Store) : Action → Store
  | .call request => (subsystem.respond request store).state
  | .crash => store.crash.state

/-- What actions make of a store, the first one first. -/
def after (store : Store) (actions : List Action) : Store :=
  actions.foldl act store

@[simp]
theorem after_nil (store : Store) : store.after [] = store := rfl

@[simp]
theorem after_cons (store : Store) (action : Action)
    (rest : List Action) :
    store.after (action :: rest) = (store.act action).after rest := rfl

theorem after_append (store : Store) (earlier later : List Action) :
    store.after (earlier ++ later) = (store.after earlier).after later := by
  rw [after, List.foldl_append]
  rfl

/-- One change of a store, with the condition under which a call makes it. -/
inductive Transition (store : Store) : Store → Prop where
  | draw (generator : Generator) :
      Transition store { store with generator }
  | create {name : Bytes}
      (admitted : store.admitCreate name = .ok ()) :
      Transition store
        ((store.fileToCreate name).2.openHandle
          (store.fileToCreate name).1 name).2
  | openFile {name : Bytes} {file : Nat}
      (admitted : store.admitOpen name = .ok file) :
      Transition store (store.openHandle file name).2
  | close {handle : Handle} {opened : StoreHandle}
      (admitted : store.admitHandle handle = .ok opened) :
      Transition store (store.surrender handle opened.file)
  | advance {handle : Handle} {opened : StoreHandle} (count : Nat)
      (admitted : store.admitHandle handle = .ok opened) :
      Transition store (store.advance handle count)
  | append {handle : Handle} {opened : StoreHandle} {data : Bytes}
      (admitted : store.admitHandle handle = .ok opened)
      (room : store.checkSpace (store.growth opened data) = .ok ()) :
      Transition store (store.append handle opened data)
  | flush {handle : Handle} {opened : StoreHandle}
      (admitted : store.admitHandle handle = .ok opened) :
      Transition store (store.flush opened.file)
  | unlink {name : Bytes} {file : Nat}
      (admitted : store.admitDelete name = .ok file) :
      Transition store (store.unlink name file)
  | finish (code : Int32) (vacant : store.handles.size = 0) :
      Transition store { store with exitStatus := some code }
  | crash : Transition store store.crash.state

/-- Some transitions, one after the other. -/
abbrev Evolves : Store → Store → Prop :=
  Relation.ReflTransGen Transition

/-- A transition keeps the settings. -/
theorem Transition.settings_eq {store later : Store}
    (changed : Transition store later) :
    later.settings = store.settings := by
  cases changed with
  | draw generator => rfl
  | create admitted =>
      unfold fileToCreate
      split <;> rfl
  | openFile admitted => rfl
  | close admitted =>
      rw [surrender_eq]
  | advance count admitted => rfl
  | append admitted room =>
      rw [append_eq]
  | flush admitted => rfl
  | unlink admitted =>
      rw [unlink_eq]
  | finish code vacant => rfl
  | crash => rfl

/-! ## Drawing -/

/-- Looking for damage moves the generator only. -/
theorem exists_drawDamage_eq (store : Store) (count : Nat) :
    ∃ generator, (store.drawDamage count).2 = { store with generator } := by
  unfold drawDamage chance
  split
  · exact ⟨store.generator, rfl⟩
  · dsimp only
    split
    · exact ⟨_, rfl⟩
    · exact ⟨_, rfl⟩

/-- A read moves the generator, and its handle if that is open. -/
theorem exists_read_eq (store : Store) (handle : Handle)
    (buffer : Bytes) :
    ∃ generator, (store.read handle buffer).state =
        { store with generator } ∨
      ∃ opened count, store.admitHandle handle = .ok opened ∧
        (store.read handle buffer).state =
          { store with generator }.advance handle count := by
  unfold read
  split
  · exact ⟨store.generator, Or.inl rfl⟩
  · rename_i opened admitted
    dsimp only
    split
    · exact ⟨_, Or.inl rfl⟩
    · rcases exists_drawDamage_eq
        (store.chance store.settings.inputOutputError).2
        (((store.chance store.settings.inputOutputError).2.live
          opened.file).slice opened.position buffer.length).length with
        ⟨generator, damaged⟩
      rw [damaged]
      exact ⟨generator, Or.inr ⟨opened, _, admitted, rfl⟩⟩

/-! ## Closing every handle -/

/-- A handle that was closed is gone, and all others are as they were. -/
theorem close_alive {store : Store} (alive : store.exitStatus = none)
    (handle : Handle) :
    (store.close handle).state.exitStatus = none ∧
      ∀ other, (store.close handle).state.handles.find? other =
        if handle = other then none else store.handles.find? other := by
  unfold close
  split
  · rename_i refused
    refine ⟨alive, fun other => ?_⟩
    split
    · rename_i same
      subst same
      cases found : store.handles.find? handle with
      | none => exact found
      | some opened =>
          rw [admitHandle_eq_ok_iff.mpr ⟨alive, found⟩] at refused
          cases refused
    · rfl
  · rename_i opened _
    rw [surrender_eq]
    exact ⟨alive, fun other => Registry.find?_remove _ _ other⟩

/-- Closing handles in order leaves the others. -/
theorem closeAll_alive (handles : List Handle) {store : Store}
    (alive : store.exitStatus = none) :
    (closeAll handles store).state.exitStatus = none ∧
      ∀ other, (closeAll handles store).state.handles.find? other =
        if other ∈ handles then none else store.handles.find? other := by
  induction handles generalizing store with
  | nil => exact ⟨alive, fun other => by simp [closeAll]⟩
  | cons handle rest ih =>
      rcases close_alive alive handle with ⟨stillAlive, closed⟩
      rcases ih stillAlive with ⟨ended, others⟩
      refine ⟨ended, fun other => ?_⟩
      simp only [closeAll, others, closed, List.mem_cons]
      grind

/-- No handle is left when all were closed. -/
theorem size_closeAll_keys {store : Store}
    (alive : store.exitStatus = none) :
    (closeAll store.handles.keys store).state.handles.size = 0 := by
  rw [Registry.size_eq_zero_iff]
  intro other
  rw [(closeAll_alive store.handles.keys alive).2]
  split
  · rfl
  · rename_i missing
    exact Registry.find?_eq_none_iff.mpr missing

/-! ## Actions are transitions -/

theorem close_evolves (store : Store) (handle : Handle) :
    Evolves store (store.close handle).state := by
  unfold close
  split
  · exact .refl
  · rename_i opened admitted
    exact .single (.close admitted)

theorem closeAll_evolves (handles : List Handle) (store : Store) :
    Evolves store (closeAll handles store).state := by
  induction handles generalizing store with
  | nil => exact .refl
  | cons handle rest ih =>
      exact (close_evolves store handle).trans (ih _)

theorem read_evolves (store : Store) (handle : Handle) (buffer : Bytes) :
    Evolves store (store.read handle buffer).state := by
  rcases exists_read_eq store handle buffer with
    ⟨generator, same | ⟨opened, count, admitted, same⟩⟩
  · rw [same]
    exact .single (.draw generator)
  · have drawn : Evolves store { store with generator } :=
      .single (.draw generator)
    rw [same]
    exact drawn.tail (.advance count admitted)

/-- A handle that data was queued for has moved on. -/
theorem admitHandle_append {store : Store} {handle : Handle}
    {opened : StoreHandle}
    (admitted : store.admitHandle handle = .ok opened) (data : Bytes) :
    (store.append handle opened data).admitHandle handle =
      .ok { opened with position := opened.position + data.length } := by
  rcases admitHandle_eq_ok_iff.mp admitted with ⟨alive, found⟩
  rw [admitHandle_eq_ok_iff, append_eq]
  refine ⟨alive, ?_⟩
  rw [Registry.find?_adjust, if_pos rfl, found]
  rfl

theorem write_evolves (store : Store) (handle : Handle) (data : Bytes) :
    Evolves store (store.write handle data).state := by
  unfold write
  split
  · exact .refl
  · rename_i opened admitted
    have drawn : Evolves store
        (store.chance store.settings.inputOutputError).2 :=
      .single (.draw _)
    have later : (store.chance
        store.settings.inputOutputError).2.admitHandle handle =
        .ok opened :=
      admitted
    dsimp only
    split
    · exact drawn
    · split
      · exact drawn
      · rename_i room
        have queued : Evolves store
            ((store.chance store.settings.inputOutputError).2.append handle
              opened data) :=
          drawn.tail (.append later room)
        have synced : Evolves store
            (((store.chance store.settings.inputOutputError).2.append handle
              opened data).chance store.settings.sync).2 :=
          queued.tail (.draw _)
        have still : (((store.chance
            store.settings.inputOutputError).2.append handle opened
            data).chance store.settings.sync).2.admitHandle handle =
            .ok { opened with position := opened.position + data.length } :=
          admitHandle_append later data
        have flushed := Transition.flush still
        dsimp only
        split
        · exact synced.tail flushed
        · exact synced

theorem exit_evolves (store : Store) (code : Int32) :
    Evolves store (store.exit code).state := by
  unfold exit
  split
  · exact .refl
  · rename_i alive
    exact (closeAll_evolves store.handles.keys store).tail
      (.finish code (size_closeAll_keys alive))

/-- Every action is a sequence of transitions. -/
theorem act_evolves (store : Store) (action : Action) :
    Evolves store (store.act action) := by
  cases action with
  | crash => exact .single .crash
  | call request =>
      cases request with
      | create name =>
          simp only [act, subsystem, create]
          split
          · exact .refl
          · rename_i admitted
            exact .single (.create admitted)
      | openFile name =>
          simp only [act, subsystem, openFile]
          split
          · exact .refl
          · rename_i file admitted
            exact .single (.openFile admitted)
      | close handle => exact close_evolves store handle
      | read handle buffer => exact read_evolves store handle buffer
      | write handle data => exact write_evolves store handle data
      | delete name =>
          simp only [act, subsystem, delete]
          split
          · exact .refl
          · rename_i file admitted
            exact .single (.unlink admitted)
      | exit code => exact exit_evolves store code

/-- What every transition keeps is kept by a sequence of them. -/
theorem Evolves.induction {invariant : Store → Prop}
    (kept : ∀ {store later : Store},
      invariant store → Transition store later → invariant later)
    {store later : Store} (evolved : Evolves store later)
    (start : invariant store) : invariant later := by
  induction evolved with
  | refl => exact start
  | tail _ last ih => exact kept ih last

/-- A run is a sequence of transitions. -/
theorem after_evolves (store : Store) (actions : List Action) :
    Evolves store (store.after actions) := by
  induction actions generalizing store with
  | nil => exact .refl
  | cons action rest ih => exact (act_evolves store action).trans (ih _)

/-- A run keeps the settings. -/
theorem settings_after (store : Store) (actions : List Action) :
    (store.after actions).settings = store.settings :=
  (after_evolves store actions).induction
    (fun kept changed => changed.settings_eq.trans kept) rfl

end Store

end FileConformance
