import FileConformance.Proofs.Scenario.Steps

/-!
# What the probes of a limit come to

A step that probes a limit makes one call with a name that must be accepted and
one with a name that must be refused.  The step passes if both calls go as they
must.  How a store takes the second name depends on its own limit on names and,
since a name too many may also be refused for want of a handle, on how many
handles are open.
-/

namespace FileConformance

open Store

namespace Boundary

variable {rules : StoreSettings} {store : Store} {name : Bytes}

/-! ## Single probes -/

/-- After a probe that opened a handle the name is there. -/
structure Opened (rules : StoreSettings) (name : Bytes) (handles : Nat)
    (store : Store) : Prop extends Running rules store where
  size_eq : store.handles.size = handles
  named : ∃ number, store.names[name]? = some number

theorem opened_of_opens {number : Nat}
    {reply : Reply Store (Except CallError Handle)}
    (opens : Opens rules name store number reply) :
    Opened rules name (store.handles.size + 1) reply.state where
  toRunning := opens.toRunning
  size_eq := opens.size_eq
  named := ⟨number, opens.named⟩

theorem create_yields (running : Running rules store) (name : Bytes) :
    (probe .create name .success).Yields Store.subsystem store
      fun check later =>
        Judged check (rules.Accepts name ∧ rules.HasRoom store.handles.size)
          (Opened rules name (store.handles.size + 1) later) := by
  apply Procedure.yields_one_call
  apply Judged.withDetail
  apply Judged.of_success
  · rintro ⟨accepted, room⟩
    rcases running.create_opens accepted room with ⟨number, opens, _, _⟩
    exact ⟨opens.isOk, opened_of_opens opens⟩
  · intro refused
    rcases running.create_refused refused with ⟨reason, same⟩
    show (store.create name).answer.isOk = false
    rw [same]
    rfl

/-- A name that must be refused passes unless there is room for it. -/
theorem create_yields_refusal (running : Running rules store)
    (name : Bytes) :
    (probe .create name .failure).Yields Store.subsystem store
      fun check later =>
        Judged check
          (¬(rules.Accepts name ∧ rules.HasRoom store.handles.size))
          (later = store) := by
  apply Procedure.yields_one_call
  apply Judged.withDetail
  apply Judged.of_refusal
  · intro refused
    rcases running.create_refused refused with ⟨reason, same⟩
    show (store.create name).answer.isOk = false ∧
      (store.create name).state = store
    rw [same]
    exact ⟨rfl, rfl⟩
  · intro admitted
    rcases not_not.mp admitted with ⟨accepted, room⟩
    rcases running.create_opens accepted room with ⟨number, opens, _, _⟩
    exact opens.isOk

theorem openFile_yields {handles : Nat}
    (opened : Opened rules name handles store)
    (accepted : rules.Accepts name) :
    (probe .openFile name .success).Yields Store.subsystem store
      fun check later =>
        Judged check (rules.HasRoom handles)
          (Opened rules name (handles + 1) later) := by
  rcases opened.named with ⟨number, named⟩
  rw [← opened.size_eq]
  apply Procedure.yields_one_call
  apply Judged.withDetail
  apply Judged.of_success
  · intro room
    have opens := (opened.openFile_opens accepted named room).1
    exact ⟨opens.isOk, opened_of_opens opens⟩
  · intro full
    have inadmissible : ∀ other, ¬(rules.Accepts name ∧
        store.names[name]? = some other ∧
          rules.HasRoom store.handles.size) := by
      rintro other ⟨_, _, room⟩
      exact full room
    rcases opened.openFile_refused inadmissible with ⟨reason, same⟩
    show (store.openFile name).answer.isOk = false
    rw [same]
    rfl

theorem delete_yields (running : Running rules store) {number : Nat}
    (accepted : rules.Accepts name)
    (named : store.names[name]? = some number)
    (allow : rules.deleteOpen = .allow) :
    (probe .delete name .success).Yields Store.subsystem store
      fun check later => Judged check True (Running rules later) := by
  have idle : rules.deleteOpen = .reject →
      store.handlesOn number = 0 := by
    rw [allow]
    exact nofun
  have deletes := running.delete_deletes accepted named idle
  apply Procedure.yields_one_call
  apply Judged.withDetail
  apply Judged.of_success
  · intro _
    exact ⟨deletes.isOk, deletes.toRunning⟩
  · intro impossible
    exact (impossible trivial).elim

/-- No call takes a name that is not acceptable. -/
theorem probe_yields_unacceptable (running : Running rules store)
    (unacceptable : ¬rules.Accepts name) (call : BoundaryCall) :
    (probe call name .failure).Yields Store.subsystem store
      fun check later => Judged check True (later = store) := by
  cases call with
  | create =>
      have refused : ¬(rules.Accepts name ∧
          rules.HasRoom store.handles.size) :=
        fun admitted => unacceptable admitted.1
      apply (create_yields_refusal running name).mono
      intro check later judged
      exact judged.of_known refused
  | openFile =>
      have inadmissible : ∀ other, ¬(rules.Accepts name ∧
          store.names[name]? = some other ∧
            rules.HasRoom store.handles.size) :=
        fun _ admitted => unacceptable admitted.1
      rcases running.openFile_refused inadmissible with ⟨reason, same⟩
      apply Procedure.yields_one_call
      show Judged (check .openFile name .failure
        (store.openFile name).answer.toOption
        (store.openFile name).answer) True
          ((store.openFile name).state = store)
      rw [same]
      exact (Judged.of_failure rfl rfl).withDetail _
  | delete =>
      have inadmissible : ∀ other, ¬(rules.Accepts name ∧
          store.names[name]? = some other ∧
            (rules.deleteOpen = .reject →
              store.handlesOn other = 0)) :=
        fun _ admitted => unacceptable admitted.1
      rcases running.delete_refused inadmissible with ⟨reason, same⟩
      apply Procedure.yields_one_call
      show Judged (check .delete name .failure none
        (store.delete name).answer) True
          ((store.delete name).state = store)
      rw [same]
      exact (Judged.of_failure rfl rfl).withDetail _

/-- A probe makes one call, and never gives up. -/
theorem probe_total (call : BoundaryCall) (name : Bytes)
    (expectation : Expectation) (store : Store) :
    (probe call name expectation).Yields Store.subsystem store
      fun _ _ => True :=
  (probe_steadfast call name expectation).yields Store.honest store

/-! ## Both sides of a limit -/

variable {settings : Settings} {handles : Nat} {kept : Table → Prop}

theorem clean_pair_iff {first second : Check} :
    Clean [first, second] ↔
      first.isFailure = false ∧ second.isFailure = false := by
  rw [Clean, List.forall_mem_cons, List.forall_mem_singleton]

/--
The second probe counts only if the first has passed.  The table has no part in
either, and stays as it is.
-/
theorem achieves {call : BoundaryCall}
    {condition conditionToo : Prop} {before middle after : Store → Prop}
    (accepted : ∀ {store : Store}, before store →
      (probe call settings.nameLimit.longestAccepted .success).Yields
        Store.subsystem store fun check later =>
          Judged check condition (middle later))
    (rejected : condition → ∀ {store : Store}, middle store →
      (probe call settings.nameLimit.shortestRejected .failure).Yields
        Store.subsystem store fun check later =>
          Judged check conditionToo (after later)) :
    Achieves settings (.boundary call)
      (fun table store => kept table ∧ before store)
      (condition ∧ conditionToo)
      (fun table store => kept table ∧ after store) := by
  rintro table store ⟨same, here⟩
  apply Procedure.yields_bind
  apply Procedure.yields_bind
  apply (accepted here).mono
  rintro first between ⟨passes, result⟩
  apply Procedure.yields_bind
  by_cases holds : condition
  · apply (rejected holds (result holds)).mono
    rintro second later ⟨passesToo, resultToo⟩
    apply Procedure.yields_pure
    apply Procedure.yields_pure
    constructor
    · rw [clean_pair_iff, passes, passesToo]
    · rintro ⟨_, holdsToo⟩
      exact ⟨same, resultToo holdsToo⟩
  · apply (probe_total call _ .failure between).mono
    intro second later _
    apply Procedure.yields_pure
    apply Procedure.yields_pure
    constructor
    · rw [clean_pair_iff, passes]
      constructor
      · rintro ⟨met, _⟩
        exact (holds met).elim
      · rintro ⟨met, _⟩
        exact (holds met).elim
    · rintro ⟨met, _⟩
      exact (holds met).elim

/-- The limit shows in the create, or the handles run out after it. -/
theorem create_achieves :
    Achieves settings (.boundary .create)
      (fun table store => kept table ∧
        Running rules store ∧ store.handles.size = handles)
      ((rules.Accepts settings.nameLimit.longestAccepted ∧
          rules.HasRoom handles) ∧
        ¬(rules.Accepts settings.nameLimit.shortestRejected ∧
          rules.HasRoom (handles + 1)))
      (fun table store => kept table ∧
        Opened rules settings.nameLimit.longestAccepted (handles + 1)
          store) := by
  have created : ∀ {store : Store},
      Running rules store ∧ store.handles.size = handles →
        (probe .create settings.nameLimit.longestAccepted
            .success).Yields Store.subsystem store fun check later =>
          Judged check
            (rules.Accepts settings.nameLimit.longestAccepted ∧
              rules.HasRoom handles)
            (Opened rules settings.nameLimit.longestAccepted
              (handles + 1) later) := by
    rintro store ⟨running, size_eq⟩
    rw [← size_eq]
    exact create_yields running _
  apply achieves created
  intro _ store opened
  rw [← opened.size_eq]
  apply (create_yields_refusal opened.toRunning _).mono
  intro check later judged
  apply judged.mono
  intro _ same
  rw [same, opened.size_eq]
  exact opened

/-- Once handles have run out or the limit fits, only room is left to see. -/
theorem openFile_achieves
    (accepted : rules.Accepts settings.nameLimit.longestAccepted)
    (refused : ¬(rules.Accepts settings.nameLimit.shortestRejected ∧
      rules.HasRoom handles)) :
    Achieves settings (.boundary .openFile)
      (fun table store => kept table ∧
        Opened rules settings.nameLimit.longestAccepted handles store)
      (rules.HasRoom handles ∧ True)
      (fun table store => kept table ∧
        Opened rules settings.nameLimit.longestAccepted (handles + 1)
          store) := by
  apply achieves fun opened => openFile_yields opened accepted
  intro room store opened
  have unacceptable :
      ¬rules.Accepts settings.nameLimit.shortestRejected :=
    fun acceptable => refused ⟨acceptable, room⟩
  apply (probe_yields_unacceptable opened.toRunning unacceptable
    .openFile).mono
  intro check later judged
  apply judged.mono
  intro _ same
  rw [same]
  exact opened

theorem delete_achieves
    (accepted : rules.Accepts settings.nameLimit.longestAccepted)
    (unacceptable : ¬rules.Accepts settings.nameLimit.shortestRejected)
    (allow : rules.deleteOpen = .allow) :
    Achieves settings (.boundary .delete)
      (fun table store => kept table ∧
        Opened rules settings.nameLimit.longestAccepted handles store)
      (True ∧ True)
      (fun table store => kept table ∧ Running rules store) := by
  have deleted : ∀ {store : Store},
      Opened rules settings.nameLimit.longestAccepted handles store →
        (probe .delete settings.nameLimit.longestAccepted
            .success).Yields Store.subsystem store fun check later =>
          Judged check True (Running rules later) := by
    intro store opened
    rcases opened.named with ⟨number, named⟩
    exact delete_yields opened.toRunning accepted named allow
  apply achieves deleted
  intro _ store running
  apply (probe_yields_unacceptable running unacceptable .delete).mono
  intro check later judged
  apply judged.mono
  intro _ same
  rw [same]
  exact running

end Boundary

end FileConformance
