import FileConformance.Proofs.Store.Damage
import FileConformance.Proofs.Store.Transition

/-!
# Corruption stays in the bytes that a read hands back

Two stores that differ in how often reads are damaged, and in the numbers they
draw, cannot be told apart by anything but the bytes of a read.  A store is
recast if these two things are replaced.  Every change of a store commutes with
recasting, so every call on a recast store answers the same and leads to the
recast state, as long as nothing else is left to chance: a draw for an input or
output error or for an early flush would depend on how many numbers were drawn
for damage.

By induction two runs of the same calls and crashes stay in step.
-/

namespace FileConformance

/-- The same answer, but for the bytes that a read hands back. -/
def Call.SameButBytes : (request : Call) →
    request.Answer → request.Answer → Prop
  | .read _ _, answer, other => other.count = answer.count
  | .create _, answer, other => other = answer
  | .openFile _, answer, other => other = answer
  | .close _, answer, other => other = answer
  | .write _ _, answer, other => other = answer
  | .delete _, answer, other => other = answer
  | .exit _, answer, other => other = answer

/-- Nothing but damage is left to chance. -/
structure StoreSettings.Calm (settings : StoreSettings) : Prop where
  inputOutputError : settings.inputOutputError = .never
  sync : settings.sync = .never

namespace Store

/-- The store with another probability of damage and another generator. -/
def recast (store : Store) (corruption : Probability)
    (generator : Generator) : Store :=
  { store with
    settings := { store.settings with corruption }
    generator }

/-- A reply with its store recast. -/
def recastReply {Answer : Type} (reply : Reply Store Answer)
    (corruption : Probability) (generator : Generator) :
    Reply Store Answer :=
  { reply with state := reply.state.recast corruption generator }

variable (store : Store) (corruption : Probability)
  (generator : Generator)

/-! ## Changes -/

theorem reclaim_recast (file : Nat) :
    (store.recast corruption generator).reclaim file =
      (store.reclaim file).recast corruption generator := by
  simp only [reclaim, recast]
  cases store.files[file]? with
  | none => rfl
  | some stored =>
      dsimp only
      split <;> rfl

theorem surrender_recast (handle : Handle) (file : Nat) :
    (store.recast corruption generator).surrender handle file =
      (store.surrender handle file).recast corruption generator := by
  rw [surrender, surrender, ← reclaim_recast]
  rfl

theorem unlink_recast (name : Bytes) (file : Nat) :
    (store.recast corruption generator).unlink name file =
      (store.unlink name file).recast corruption generator := by
  rw [unlink, unlink, ← reclaim_recast]
  rfl

theorem fileToCreate_recast (name : Bytes) :
    (store.recast corruption generator).fileToCreate name =
      ((store.fileToCreate name).1,
        (store.fileToCreate name).2.recast corruption generator) := by
  simp only [fileToCreate, recast]
  cases store.names[name]? <;> rfl

theorem append_recast (handle : Handle) (opened : StoreHandle)
    (data : Bytes) :
    (store.recast corruption generator).append handle opened data =
      (store.append handle opened data).recast corruption generator := by
  simp only [append]
  split <;> rfl

/-! ## Calls -/

theorem create_recast (name : Bytes) :
    (store.recast corruption generator).create name =
      recastReply (store.create name) corruption generator := by
  have admission : (store.recast corruption generator).admitCreate name =
      store.admitCreate name := rfl
  simp only [create, admission]
  cases store.admitCreate name with
  | error reason => rfl
  | ok _ =>
      rw [fileToCreate_recast]
      rfl

theorem openFile_recast (name : Bytes) :
    (store.recast corruption generator).openFile name =
      recastReply (store.openFile name) corruption generator := by
  have admission : (store.recast corruption generator).admitOpen name =
      store.admitOpen name := rfl
  simp only [openFile, admission]
  cases store.admitOpen name <;> rfl

theorem close_recast (handle : Handle) :
    (store.recast corruption generator).close handle =
      recastReply (store.close handle) corruption generator := by
  have admission : (store.recast corruption generator).admitHandle handle =
      store.admitHandle handle := rfl
  simp only [close, admission]
  cases store.admitHandle handle with
  | error reason => rfl
  | ok opened =>
      dsimp only
      rw [surrender_recast]
      rfl

theorem delete_recast (name : Bytes) :
    (store.recast corruption generator).delete name =
      recastReply (store.delete name) corruption generator := by
  have admission : (store.recast corruption generator).admitDelete name =
      store.admitDelete name := rfl
  simp only [delete, admission]
  cases store.admitDelete name with
  | error reason => rfl
  | ok file =>
      dsimp only
      rw [unlink_recast]
      rfl

theorem closeAll_recast (handles : List Handle) :
    closeAll handles (store.recast corruption generator) =
      recastReply (closeAll handles store) corruption generator := by
  induction handles generalizing store with
  | nil => rfl
  | cons handle rest ih =>
      simp only [closeAll, close_recast]
      exact congrArg
        (fun others : Reply Store Unit =>
          (⟨(), others.state,
            (store.close handle).events ++ others.events⟩ :
              Reply Store Unit))
        (ih (store.close handle).state)

theorem exit_recast (code : Int32) :
    (store.recast corruption generator).exit code =
      recastReply (store.exit code) corruption generator := by
  have ended : (store.recast corruption generator).exitStatus =
      store.exitStatus := rfl
  have open_handles : (store.recast corruption generator).handles.keys =
      store.handles.keys := rfl
  simp only [exit, ended, open_handles]
  cases store.exitStatus with
  | some status => rfl
  | none =>
      dsimp only
      rw [closeAll_recast]
      rfl

section Calm

variable {store : Store} (calm : store.settings.Calm)

include calm

/-- What becomes of a write if nothing but damage is left to chance. -/
theorem write_of_calm (handle : Handle) (data : Bytes) :
    store.write handle data =
      match store.admitHandle handle with
      | .error reason => store.refuse reason
      | .ok opened =>
          match store.checkSpace (store.growth opened data) with
          | .error reason => store.refuse reason
          | .ok () =>
              ⟨.ok data.length, store.append handle opened data,
                [.written handle data.length]⟩ := by
  unfold write
  cases store.admitHandle handle with
  | error reason => rfl
  | ok opened =>
      have undrawn : store.chance store.settings.inputOutputError =
          (false, store) := by
        rw [calm.inputOutputError, chance_never]
      have unsynced : (store.append handle opened data).chance
          store.settings.sync =
            (false, store.append handle opened data) := by
        rw [calm.sync, chance_never]
      dsimp only
      rw [undrawn]
      dsimp only
      rw [if_neg Bool.false_ne_true]
      cases store.checkSpace (store.growth opened data) with
      | error reason => rfl
      | ok _ =>
          dsimp only
          rw [unsynced]
          rfl

theorem write_recast (handle : Handle) (data : Bytes) :
    (store.recast corruption generator).write handle data =
      recastReply (store.write handle data) corruption generator := by
  have calm_recast :
      (store.recast corruption generator).settings.Calm :=
    ⟨calm.inputOutputError, calm.sync⟩
  have admission : (store.recast corruption generator).admitHandle handle =
      store.admitHandle handle := rfl
  rw [write_of_calm calm, write_of_calm calm_recast, admission]
  cases store.admitHandle handle with
  | error reason => rfl
  | ok opened =>
      have space : (store.recast corruption generator).checkSpace
          ((store.recast corruption generator).growth opened data) =
          store.checkSpace (store.growth opened data) := rfl
      dsimp only
      rw [space]
      cases store.checkSpace (store.growth opened data) with
      | error reason => rfl
      | ok _ =>
          dsimp only
          rw [append_recast]
          rfl

/-- A read counts the same bytes and moves its handle by as many. -/
theorem read_recast (handle : Handle) (buffer : Bytes) :
    let other := (store.recast corruption generator).read handle buffer
    other.answer.count = (store.read handle buffer).answer.count ∧
      ∃ last, other.state =
        (store.read handle buffer).state.recast corruption last := by
  intro other
  have admission : (store.recast corruption generator).admitHandle handle =
      store.admitHandle handle := rfl
  cases admitted : store.admitHandle handle with
  | error reason =>
      simp only [other, read, admission, admitted]
      exact ⟨trivial, generator, rfl⟩
  | ok opened =>
      rcases count_read_of_calm calm.inputOutputError admitted buffer with
        ⟨counted, left, moved⟩
      have recalm : (store.recast corruption
          generator).settings.inputOutputError = .never :=
        calm.inputOutputError
      rcases count_read_of_calm recalm (admission.trans admitted) buffer with
        ⟨recounted, right, removed⟩
      refine ⟨recounted.trans counted.symm, right, removed.trans ?_⟩
      rw [moved]
      rfl

/-- A call on a recast store answers the same and stays in step. -/
theorem respond_recast (request : Call) :
    let reply := subsystem.respond request store
    let other :=
      subsystem.respond request (store.recast corruption generator)
    request.SameButBytes reply.answer other.answer ∧
      ∃ last, other.state = reply.state.recast corruption last := by
  intro reply other
  cases request with
  | create name =>
      have same : other = recastReply reply corruption generator :=
        create_recast store corruption generator name
      rw [same]
      exact ⟨rfl, generator, rfl⟩
  | openFile name =>
      have same : other = recastReply reply corruption generator :=
        openFile_recast store corruption generator name
      rw [same]
      exact ⟨rfl, generator, rfl⟩
  | close handle =>
      have same : other = recastReply reply corruption generator :=
        close_recast store corruption generator handle
      rw [same]
      exact ⟨rfl, generator, rfl⟩
  | read handle buffer =>
      exact read_recast corruption generator calm handle buffer
  | write handle data =>
      have same : other = recastReply reply corruption generator :=
        write_recast corruption generator calm handle data
      rw [same]
      exact ⟨rfl, generator, rfl⟩
  | delete name =>
      have same : other = recastReply reply corruption generator :=
        delete_recast store corruption generator name
      rw [same]
      exact ⟨rfl, generator, rfl⟩
  | exit code =>
      have same : other = recastReply reply corruption generator :=
        exit_recast store corruption generator code
      rw [same]
      exact ⟨rfl, generator, rfl⟩

theorem act_recast (action : Action) :
    ∃ last, (store.recast corruption generator).act action =
      (store.act action).recast corruption last := by
  cases action with
  | crash => exact ⟨generator, rfl⟩
  | call request =>
      exact (respond_recast corruption generator calm request).2

/-- Two runs of the same actions stay in step. -/
theorem after_recast (actions : List Action) :
    ∃ last, (store.recast corruption generator).after actions =
      (store.after actions).recast corruption last := by
  induction actions generalizing store generator with
  | nil => exact ⟨generator, rfl⟩
  | cons action rest ih =>
      rcases act_recast corruption generator calm action with
        ⟨middle, step⟩
      have still : (store.act action).settings.Calm := by
        rw [show (store.act action).settings = store.settings from
          settings_after store [action]]
        exact calm
      rw [after_cons, after_cons, step]
      exact ih middle still

end Calm

/-- What every successful read of a store hands back. -/
def ReadsUpToDamage (store : Store) : Prop :=
  ∀ (handle : Handle) (buffer : Bytes) (count : Nat),
    (store.read handle buffer).answer.count = .ok count →
      ∃ opened, store.handles.find? handle = some opened ∧
        let data := (store.live opened.file).slice opened.position count
        let after := (store.read handle buffer).answer.buffer
        data.length = count ∧
          after.drop count = buffer.drop count ∧
          (Bytes.differences (after.take count) data).length =
            if 0 < count ∧ store.drawsDamage = true then 1 else 0

/--
Corruption is confined to the bytes that a read hands back.  Two stores whose
settings differ only in how often reads are damaged are taken through the same
calls and crashes, with any numbers to draw.  They stay equal but for that
setting and the generator, and every next call answers the same on both, with
the same handle or the same count.  A successful read hands back what the file
holds but for one wrong byte if damage was drawn, and leaves the rest of the
buffer alone; where damage is certain it is drawn.
-/
theorem corruption_confined_to_reads {settings : StoreSettings}
    (calm : settings.Calm) (corruption : Probability)
    (left right : Generator) (actions : List Action) :
    let store := (fresh settings left).after actions
    let other := (fresh { settings with corruption } right).after actions
    other = { store with
        settings := { settings with corruption }
        generator := other.generator } ∧
      (∀ request : Call, request.SameButBytes
        (subsystem.respond request store).answer
        (subsystem.respond request other).answer) ∧
      store.ReadsUpToDamage ∧ other.ReadsUpToDamage ∧
      (settings.corruption = .always → store.drawsDamage = true) ∧
      (corruption = .always → other.drawsDamage = true) := by
  intro store other
  have kept : store.settings = settings := settings_after _ actions
  have calm_store : store.settings.Calm := by
    rw [kept]
    exact calm
  have other_kept : other.settings = { settings with corruption } :=
    settings_after _ actions
  have calm_fresh : (fresh settings left).settings.Calm := calm
  rcases after_recast corruption right calm_fresh actions with
    ⟨last, inStep⟩
  replace inStep : other = store.recast corruption last := inStep
  have drawn : other.generator = last := by rw [inStep]; rfl
  refine ⟨?_, fun request => ?_, fun handle buffer count received => ?_,
    fun handle buffer count received => ?_, fun certain => ?_,
    fun certain => ?_⟩
  · rw [drawn, inStep, recast, kept]
  · rw [inStep]
    exact (respond_recast corruption last calm_store request).1
  · exact read_differs_in_drawn_byte calm_store.inputOutputError received
  · refine read_differs_in_drawn_byte ?_ received
    rw [other_kept]
    exact calm.inputOutputError
  · rw [drawsDamage, kept, certain, Probability.draw_always]
  · rw [drawsDamage, other_kept, certain, Probability.draw_always]

/-- Three bytes are read where damage is certain and where there is none. -/
theorem corruption_confined_to_reads_three_bytes :
    let settings : StoreSettings := { corruption := .always }
    let actions : List Action :=
      [.call (.create [97]), .call (.write ⟨2⟩ [5, 6, 7]),
        .call (.close ⟨2⟩), .call (.openFile [97])]
    let store := (fresh settings (.ofSeed 0)).after actions
    let other :=
      (fresh { settings with corruption := .never } (.ofSeed 1)).after
        actions
    let reply := store.read ⟨3⟩ [0, 0, 0, 0]
    settings.Calm ∧
      other = { store with
        settings := { settings with corruption := .never }
        generator := other.generator } ∧
      reply.answer.count = .ok 3 ∧
      (Bytes.differences (reply.answer.buffer.take 3) [5, 6, 7]).length =
        1 ∧
      reply.answer.buffer.drop 3 = [0] := by
  intro settings actions store other reply
  have calm : settings.Calm := ⟨rfl, rfl⟩
  have received : reply.answer.count = .ok 3 := by decide +kernel
  have found : store.handles.find? ⟨3⟩ = some ⟨1, [97], 0⟩ := by
    decide +kernel
  have held : store.live 1 = [5, 6, 7] := by decide +kernel
  have confined := corruption_confined_to_reads calm .never (.ofSeed 0)
    (.ofSeed 1) actions
  have inStep : other = { store with
      settings := { settings with corruption := .never }
      generator := other.generator } := confined.1
  have reads : store.ReadsUpToDamage := confined.2.2.1
  have certain : store.drawsDamage = true := confined.2.2.2.2.1 rfl
  clear_value store other
  rcases reads ⟨3⟩ [0, 0, 0, 0] 3 received with
    ⟨opened, same, _, behind, damaged⟩
  rw [found, Option.some.injEq] at same
  rw [if_pos ⟨by decide, certain⟩, ← same, held] at damaged
  exact ⟨calm, inStep, received, damaged, behind⟩

end Store

end FileConformance
