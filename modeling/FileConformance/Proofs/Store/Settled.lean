import FileConformance.Proofs.Procedure.Brings
import FileConformance.Proofs.Store.Backing
import FileConformance.Proofs.Store.Bystanders
import FileConformance.Proofs.Store.Space

/-!
# Settled stores

A store is settled if nothing waits to become durable and no bytes are in use.
It stays settled as long as nothing is written and no file is emptied: a create
under a free name makes an empty file and queues nothing, a close flushes, and a
delete takes space away if it does anything.

Which names are free depends on what is created and deleted only.
-/

namespace FileConformance

/-- A call that queues nothing and takes no space, whatever it is answered. -/
def Call.Quiet : Call → Prop
  | .openFile _ => True
  | .close _ => True
  | .delete _ => True
  | _ => False

namespace Call.Quiet

variable {request : Call}

theorem returns (quiet : request.Quiet) : request.kind ≠ .exit := by
  rintro ended
  cases request with
  | exit code => exact quiet
  | _ => cases ended

theorem ne_create (quiet : request.Quiet) {name : Bytes} :
    request ≠ .create name := by
  rintro rfl
  exact quiet

end Call.Quiet

namespace Store

/-- None of some names denotes a file. -/
def Lacks (free : Bytes → Prop) (store : Store) : Prop :=
  ∀ name, free name → store.names[name]? = none

/-- No name exists. -/
abbrev Bare (store : Store) : Prop :=
  store.Lacks fun _ => True

/-- Nothing waits, and no bytes are in use. -/
structure Settled (store : Store) : Prop extends Backed store where
  pending_eq : store.pending = []
  usedBytes_eq : store.usedBytes = 0

/-- Settled, and without names. -/
abbrev Cleared (store : Store) : Prop :=
  store.Settled ∧ store.Bare

theorem bare_fresh (settings : StoreSettings) (generator : Generator) :
    (fresh settings generator).Bare :=
  fun _ _ => Std.ExtTreeMap.getElem?_empty

theorem Settled.fresh (settings : StoreSettings) (generator : Generator) :
    (fresh settings generator).Settled where
  toBacked := Backed.fresh settings generator
  pending_eq := rfl
  usedBytes_eq := rfl

variable {store : Store} {name : Bytes}

/-! ## Names -/

/-- After a delete that succeeds the name is free. -/
theorem unnamed_of_deleted (deleted : (store.delete name).answer = .ok ()) :
    (store.delete name).state.names[name]? = none := by
  cases admitted : store.admitDelete name with
  | error reason =>
      rw [delete_of_refused admitted] at deleted
      cases deleted
  | ok file =>
      rw [delete_of_admitted admitted]
      dsimp only
      rw [unlink_eq]
      exact Std.ExtTreeMap.getElem?_erase_self

/-- A name that is free stays free unless it is created. -/
theorem unnamed_respond {request : Call} (returns : request.kind ≠ .exit)
    (other : request ≠ .create name)
    (unnamed : store.names[name]? = none) :
    (subsystem.respond request store).state.names[name]? = none := by
  by_cases renamed : request.renamed? = some name
  · cases request with
    | create created =>
        cases renamed
        exact (other rfl).elim
    | delete deleted =>
        cases renamed
        cases admitted : store.admitDelete name with
        | error reason =>
            show (store.delete name).state.names[name]? = none
            rw [delete_of_refused admitted]
            exact unnamed
        | ok file =>
            apply unnamed_of_deleted
            rw [delete_of_admitted admitted]
    | _ => cases renamed
  · rw [(respond_keeps store returns).names_eq renamed]
    exact unnamed

/-- Names that are not created stay free. -/
theorem Lacks.respond {free : Bytes → Prop} (lacks : store.Lacks free)
    {request : Call} (returns : request.kind ≠ .exit)
    (others : ∀ name, free name → request ≠ .create name) :
    (subsystem.respond request store).state.Lacks free :=
  fun name among =>
    unnamed_respond returns (others name among) (lacks name among)

/-- A create that fails leaves everything as it was. -/
theorem state_create_of_error {reason : CallError}
    (failed : (store.create name).answer = .error reason) :
    (store.create name).state = store := by
  cases admitted : store.admitCreate name with
  | error other => rw [create_of_refused admitted]; rfl
  | ok _ =>
      rw [create_of_admitted admitted] at failed
      cases failed

/-! ## What keeps a store settled -/

namespace Settled

theorem create (settled : store.Settled)
    (unnamed : store.names[name]? = none) :
    (store.create name).state.Settled := by
  have backed := settled.toBacked.evolves
    (act_evolves store (.call (.create name)))
  replace backed : (store.create name).state.Backed := backed
  cases admitted : store.admitCreate name with
  | error reason =>
      rw [create_of_refused admitted]
      exact settled
  | ok _ =>
      rw [create_of_admitted admitted] at backed ⊢
      refine ⟨backed, ?_, ?_⟩
      · rw [fileToCreate_of_free unnamed]
        exact settled.pending_eq
      · rw [usedBytes_openHandle, ← Nat.le_zero, ← settled.usedBytes_eq]
        exact usedBytes_fileToCreate_le settled.toWellFormed name

theorem openFile (settled : store.Settled) (name : Bytes) :
    (store.openFile name).state.Settled := by
  have backed := settled.toBacked.evolves
    (act_evolves store (.call (.openFile name)))
  replace backed : (store.openFile name).state.Backed := backed
  cases admitted : store.admitOpen name with
  | error reason =>
      rw [openFile_of_refused admitted]
      exact settled
  | ok file =>
      rw [openFile_of_admitted admitted] at backed ⊢
      refine ⟨backed, settled.pending_eq, ?_⟩
      rw [usedBytes_openHandle]
      exact settled.usedBytes_eq

theorem close (settled : store.Settled) (handle : Handle) :
    (store.close handle).state.Settled := by
  have backed := settled.toBacked.evolves (close_evolves store handle)
  cases admitted : store.admitHandle handle with
  | error reason =>
      rw [close_of_refused admitted]
      exact settled
  | ok opened =>
      rw [close_of_admitted admitted] at backed ⊢
      refine ⟨backed, ?_, ?_⟩
      · rw [List.eq_nil_iff_forall_not_mem]
        intro operation waiting
        have before := (mem_pending_of_surrender waiting).1
        rw [settled.pending_eq] at before
        cases before
      · rw [← Nat.le_zero, ← settled.usedBytes_eq]
        exact usedBytes_surrender_le store handle opened.file

theorem delete (settled : store.Settled) (name : Bytes) :
    (store.delete name).state.Settled := by
  have backed := settled.toBacked.evolves
    (act_evolves store (.call (.delete name)))
  replace backed : (store.delete name).state.Backed := backed
  cases admitted : store.admitDelete name with
  | error reason =>
      rw [delete_of_refused admitted]
      exact settled
  | ok file =>
      rw [delete_of_admitted admitted] at backed ⊢
      refine ⟨backed, ?_, ?_⟩
      · rw [List.eq_nil_iff_forall_not_mem]
        intro operation waiting
        have before := mem_pending_of_unlink waiting
        rw [settled.pending_eq] at before
        cases before
      · rw [← Nat.le_zero, ← settled.usedBytes_eq]
        exact usedBytes_unlink_le store name file

theorem respond (settled : store.Settled) {request : Call}
    (quiet : request.Quiet) :
    (subsystem.respond request store).state.Settled := by
  cases request with
  | openFile name => exact settled.openFile name
  | close handle => exact settled.close handle
  | delete name => exact settled.delete name
  | create name => exact quiet.elim
  | read handle buffer => exact quiet.elim
  | write handle data => exact quiet.elim
  | exit code => exact quiet.elim

end Settled

/-- Quiet calls leave a settled store settled and free names free. -/
theorem quiet_brings {free : Bytes → Prop} {exchanges : List Exchange}
    (quiet : ∀ exchange ∈ exchanges, exchange.call.Quiet) :
    subsystem.Brings (fun store => store.Settled ∧ store.Lacks free)
      exchanges (fun store => store.Settled ∧ store.Lacks free) := by
  apply Subsystem.Brings.keeps
  rintro exchange made store ⟨settled, lacks⟩
  have silent := quiet exchange made
  exact ⟨settled.respond silent,
    lacks.respond silent.returns fun _ _ => silent.ne_create⟩

end Store

end FileConformance
