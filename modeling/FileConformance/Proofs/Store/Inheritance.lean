import FileConformance.Proofs.Store.Durability
import FileConformance.Proofs.Store.Settled
import FileConformance.Proofs.Store.Turnover

/-!
# What a store inherits

Take a store at a moment when no name exists.  Its files can only be reached by
the handles that are open on them.  As long as none of these handles is used,
all of them stay where they are and nothing happens to their files: whatever is
created from then on has a new number, and so has every handle that is issued.

Once all new handles are given back and all new names are deleted, nothing is
left but what was there before, for no file is kept without a name or a handle.
-/

namespace FileConformance

namespace Store

/-- What an elder store held is untouched, and all else came after it. -/
structure Inherits (elder store : Store) : Prop where
  nextHandle_le : elder.nextHandle ≤ store.nextHandle
  nextFile_le : elder.nextFile ≤ store.nextFile
  find?_eq : ∀ {handle : Handle}, handle.number < elder.nextHandle →
    store.handles.find? handle = elder.handles.find? handle
  undisturbed : ∀ {file : Nat}, file < elder.nextFile →
    Undisturbed file elder store
  /-- Names denote new files only. -/
  named_young : ∀ {name : Bytes} {file : Nat},
    store.names[name]? = some file → elder.nextFile ≤ file
  /-- New handles are open on new files only. -/
  held_young : ∀ {handle : Handle} {opened : StoreHandle},
    elder.nextHandle ≤ handle.number →
      store.handles.find? handle = some opened →
        elder.nextFile ≤ opened.file

namespace Inherits

variable {elder store : Store}

theorem refl (wf : elder.WellFormed) (bare : elder.Bare) :
    Inherits elder elder where
  nextHandle_le := Nat.le_refl elder.nextHandle
  nextFile_le := Nat.le_refl elder.nextFile
  find?_eq := fun _ => rfl
  undisturbed := fun _ => Undisturbed.refl _ elder
  named_young := by
    intro name file named
    rw [bare name trivial] at named
    cases named
  held_young := by
    intro handle opened young found
    exact (Nat.not_lt.mpr young (wf.handle_issued found).2).elim

/-! ## One call -/

/-- A call that does not pass an old handle is about a new file. -/
theorem concerned_young (inherits : Inherits elder store) {request : Call}
    (young : ∀ handle, request.handle? = some handle →
      elder.nextHandle ≤ handle.number)
    {file : Nat} (concerned : store.concerned? request = some file) :
    elder.nextFile ≤ file := by
  have through : ∀ {handle : Handle}, elder.nextHandle ≤ handle.number →
      (store.handles.find? handle).map StoreHandle.file = some file →
        elder.nextFile ≤ file := by
    intro handle new on
    rcases Option.map_eq_some_iff.mp on with ⟨opened, found, rfl⟩
    exact inherits.held_young new found
  cases request with
  | create name =>
      cases concerned
      cases named : store.names[name]? with
      | some file =>
          rw [fileToCreate_of_named named]
          exact inherits.named_young named
      | none =>
          rw [fileToCreate_of_free named]
          exact inherits.nextFile_le
  | openFile name => exact inherits.named_young concerned
  | delete name => exact inherits.named_young concerned
  | close handle => exact through (young handle rfl) concerned
  | read handle buffer => exact through (young handle rfl) concerned
  | write handle data => exact through (young handle rfl) concerned
  | exit code => cases concerned

/-- What a name denotes after a call, it denoted before or the call is about. -/
theorem named_respond {request : Call} (returns : request.kind ≠ .exit)
    {name : Bytes} {file : Nat}
    (named : (subsystem.respond request store).state.names[name]? =
      some file) :
    store.names[name]? = some file ∨
      store.concerned? request = some file := by
  by_cases renamed : request.renamed? = some name
  · cases request with
    | create created =>
        cases renamed
        replace named : (store.create name).state.names[name]? =
          some file := named
        cases admitted : store.admitCreate name with
        | error reason =>
            rw [create_of_refused admitted] at named
            exact Or.inl named
        | ok _ =>
            rw [create_of_admitted admitted] at named
            exact Or.inr ((names_fileToCreate_self store name).symm.trans
              named)
    | delete deleted =>
        cases renamed
        replace named : (store.delete name).state.names[name]? =
          some file := named
        cases admitted : store.admitDelete name with
        | error reason =>
            rw [delete_of_refused admitted] at named
            exact Or.inl named
        | ok _ =>
            rw [unnamed_of_deleted (by rw [delete_of_admitted admitted])]
              at named
            cases named
    | _ => cases renamed
  · rw [(respond_keeps store returns).names_eq renamed] at named
    exact Or.inl named

theorem respond (inherits : Inherits elder store) {request : Call}
    (returns : request.kind ≠ .exit)
    (young : ∀ handle, request.handle? = some handle →
      elder.nextHandle ≤ handle.number) :
    Inherits elder (subsystem.respond request store).state := by
  have keeps := respond_keeps store returns
  have turnover := respond_turnover store returns
  refine ⟨?_, ?_, ?_, ?_, ?_, ?_⟩
  · rw [turnover.nextHandle_eq]
    exact Nat.le_add_right_of_le inherits.nextHandle_le
  · exact inherits.nextFile_le.trans
      (act_evolves store (.call request)).nextFile_le
  · intro handle old
    have unpassed : request.handle? ≠ some handle :=
      fun passed => Nat.not_lt.mpr (young handle passed) old
    have unissued : request.issued?
        (subsystem.respond request store).answer ≠ some handle := by
      intro handed
      rw [turnover.issued_eq handed] at old
      exact Nat.not_lt.mpr inherits.nextHandle_le old
    rw [keeps.find?_eq unpassed unissued]
    exact inherits.find?_eq old
  · intro file old
    refine (inherits.undisturbed old).trans (keeps.undisturbed ?_)
    intro concerned
    exact Nat.not_lt.mpr (inherits.concerned_young young concerned) old
  · intro name file named
    rcases named_respond returns named with before | concerned
    · exact inherits.named_young before
    · exact inherits.concerned_young young concerned
  · intro handle opened new found
    rcases turnover.file_eq found with ⟨before, there, same⟩ | concerned
    · rw [← same]
      exact inherits.held_young new there
    · exact inherits.concerned_young young concerned

/-! ## What is left in the end -/

/-- With as many handles open as before, these are the ones. -/
theorem find?_of_size_eq (inherits : Inherits elder store)
    (wf : elder.WellFormed)
    (size_eq : store.handles.size = elder.handles.size)
    {handle : Handle} {opened : StoreHandle}
    (found : store.handles.find? handle = some opened) :
    elder.handles.find? handle = some opened := by
  have old : ∀ {other : Handle}, other ∈ elder.handles.keys →
      other.number < elder.nextHandle := by
    intro other member
    rcases Option.isSome_iff_exists.mp (Registry.mem_keys.mp member) with
      ⟨_, there⟩
    exact (wf.handle_issued there).2
  have kept : elder.handles.keys ⊆ store.handles.keys := by
    intro other member
    rw [Registry.mem_keys, inherits.find?_eq (old member),
      ← Registry.mem_keys]
    exact member
  have member : handle ∈ store.handles.keys :=
    Registry.mem_keys.mpr (Option.isSome_of_eq_some found)
  have all := Registry.mem_keys_of_size_le kept (Nat.le_of_eq size_eq) member
  rw [← inherits.find?_eq (old all)]
  exact found

/-- Without new handles, what is held was held by an elder handle. -/
theorem old_of_held (inherits : Inherits elder store)
    (wf : elder.WellFormed)
    (size_eq : store.handles.size = elder.handles.size) {file : Nat}
    (held : store.Held file) : file < elder.nextFile := by
  rcases held with ⟨handle, opened, found, rfl⟩
  exact wf.file_issued
    (wf.handle_present (inherits.find?_of_size_eq wf size_eq found))

/--
If the elder store was settled, then the store is settled again once no name
exists and no new handle is open.
-/
theorem settled (inherits : Inherits elder store)
    (before : elder.Settled) (backed : store.Backed) (bare : store.Bare)
    (size_eq : store.handles.size = elder.handles.size) :
    store.Settled where
  toBacked := backed
  pending_eq := by
    rw [List.eq_nil_iff_forall_not_mem]
    intro operation waiting
    have old := inherits.old_of_held before.toWellFormed size_eq
      (backed.queue_held operation waiting)
    have same := (inherits.undisturbed old).pending_eq
    rw [before.pending_eq] at same
    have member : operation ∈
        Pending.onFile operation.file store.pending :=
      List.mem_filter.mpr ⟨waiting, decide_eq_true rfl⟩
    rw [same] at member
    cases member
  usedBytes_eq := by
    rw [usedBytes_eq_zero_iff]
    intro file present
    have held : store.Held file := by
      rcases backed.reachable present with ⟨name, named⟩ | held
      · rw [bare name trivial] at named
        cases named
      · exact held
    have undisturbed := inherits.undisturbed
      (inherits.old_of_held before.toWellFormed size_eq held)
    have there : file ∈ elder.files := by
      rw [mem_files_iff, ← undisturbed.files_eq, ← mem_files_iff]
      exact present
    rw [undisturbed.live_eq]
    exact usedBytes_eq_zero_iff.mp before.usedBytes_eq file there

end Inherits

/-! ## Sequences of calls -/

/-- Calls pass only handles that were handed out to them. -/
def OwnHandles (exchanges : List Exchange) : Prop :=
  ∀ exchange ∈ exchanges, ∀ handle,
    exchange.call.handle? = some handle → handle ∈ issuedIn exchanges

variable {store : Store} {exchanges : List Exchange}

/-- No number is handed out that was handed out before. -/
theorem nextHandle_le_of_issued
    (returns : ∀ exchange ∈ exchanges, exchange.call.kind ≠ .exit)
    (answered : subsystem.exchanges (exchanges.map Exchange.call) store =
      exchanges)
    {handle : Handle} (issued : handle ∈ issuedIn exchanges) :
    store.nextHandle ≤ handle.number := by
  have step : ∀ request ∈ exchanges.map Exchange.call, ∀ reached : Store,
      store.nextHandle ≤ reached.nextHandle →
        store.nextHandle ≤
          (subsystem.respond request reached).state.nextHandle := by
    intro request _ reached below
    rw [nextHandle_respond]
    exact Nat.le_add_right_of_le below
  rcases List.mem_filterMap.mp issued with ⟨exchange, made, handed⟩
  rcases Subsystem.exists_of_mem_exchanges step (Nat.le_refl _)
    (answered.symm ▸ made) with ⟨reached, below, given⟩
  have turnover := respond_turnover reached (returns exchange made)
  rw [given] at turnover
  rw [turnover.issued_eq handed]
  exact below

theorem inherits_after
    (returns : ∀ exchange ∈ exchanges, exchange.call.kind ≠ .exit)
    (own : OwnHandles exchanges)
    (answered : subsystem.exchanges (exchanges.map Exchange.call) store =
      exchanges)
    (wf : store.WellFormed) (bare : store.Bare) :
    Inherits store
      (subsystem.after (exchanges.map Exchange.call) store) := by
  apply Subsystem.after_keeps _ (Inherits.refl wf bare)
  rw [List.forall_mem_map]
  intro exchange made reached inherits
  apply inherits.respond (returns exchange made)
  intro handle passed
  exact nextHandle_le_of_issued returns answered
    (own exchange made handle passed)

/--
Calls that use their own handles only leave a settled store settled if they
give back as many handles as they were handed out and no name is left.
-/
theorem settled_brings
    (returns : ∀ exchange ∈ exchanges, exchange.call.kind ≠ .exit)
    (own : OwnHandles exchanges)
    (balanced :
      (issuedIn exchanges).length = (returnedIn exchanges).length)
    (clears : subsystem.Brings Cleared exchanges Bare) :
    subsystem.Brings Cleared exchanges Cleared := by
  rintro store ⟨settled, bare⟩ answered
  have wf := settled.toWellFormed
  have inherits := inherits_after returns own answered wf bare
  have cleared := clears store ⟨settled, bare⟩ answered
  have size := size_after (List.forall_mem_map.mpr returns) wf
  rw [answered, balanced] at size
  have backed : (subsystem.after (exchanges.map Exchange.call)
      store).Backed :=
    Subsystem.after_keeps (fun request _ _ kept =>
      kept.evolves (act_evolves _ (.call request))) settled.toBacked
  exact ⟨inherits.settled settled backed cleared
    (Nat.add_right_cancel size), cleared⟩

end Store

end FileConformance
