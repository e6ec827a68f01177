import FileConformance.Proofs.Directory.Handles
import FileConformance.Proofs.Store.Handles

/-!
# Handles are fresh, and stay dead once closed

Both subsystems honour the ledgers of their runs.  For a store this covers all
settings, all faults, crashes and the end of the process; for a directory any
disk, and a root that may not be there.
-/

namespace FileConformance

namespace Store

theorem incidents_append (store : Store) (earlier later : List Action) :
    store.incidents (earlier ++ later) =
      store.incidents earlier ++ (store.after earlier).incidents later := by
  induction earlier generalizing store with
  | nil => rfl
  | cons action rest ih =>
      rw [List.cons_append, incidents, incidents, ih, List.cons_append,
        after_cons]

/-- A store honours the ledger of any run. -/
theorem honoured_after_fresh (settings : StoreSettings)
    (generator : Generator) (actions : List Action) :
    (Ledger.ofIncidents
      ((fresh settings generator).incidents actions)).Honoured subsystem
        ((fresh settings generator).after actions) :=
  ((Tallies.fresh settings generator).after actions).honoured

/-- A store refuses to close a handle a second time, whatever happens. -/
theorem close_again_after_fresh (settings : StoreSettings)
    (generator : Generator) (actions : List Action) {handle : Handle}
    (closed : (((fresh settings generator).after actions).close
      handle).answer = .ok ()) (rest : List Action) :
    ∃ reason, (((fresh settings generator).after
      (actions ++ .call (.close handle) :: rest)).close handle).answer =
        .error reason := by
  have honoured := honoured_after_fresh settings generator actions
  have still := honoured_after_fresh settings generator
    (actions ++ .call (.close handle) :: rest)
  rw [incidents_append, incidents, incident] at still
  rw [show (subsystem.respond (.close handle)
    ((fresh settings generator).after actions)).answer = .ok () from closed]
    at still
  exact honoured.close_again closed still

end Store

namespace Directory

theorem incidents_cons (directory : Directory) (request : Call)
    (rest : List Call) :
    directory.incidents (request :: rest) =
      .exchange ⟨request, (subsystem.respond request directory).answer⟩ ::
        (subsystem.respond request directory).state.incidents rest := rfl

theorem incidents_append (directory : Directory)
    (earlier later : List Call) :
    directory.incidents (earlier ++ later) =
      directory.incidents earlier ++
        (subsystem.after earlier directory).incidents later := by
  induction earlier generalizing directory with
  | nil => rfl
  | cons request rest ih =>
      rw [List.cons_append, incidents_cons, incidents_cons, ih,
        List.cons_append]
      rfl

/-- A directory honours the ledger of any calls but the end of a process. -/
theorem honoured_after_fresh (disk : Disk) (root : Except SystemError Nat)
    (leading : Nat) {calls : List Call}
    (running : ∀ request ∈ calls, request.kind ≠ .exit) :
    (Ledger.ofIncidents
      ((fresh disk root leading).incidents calls)).Honoured subsystem
        (subsystem.after calls (fresh disk root leading)) :=
  ((Tallies.fresh disk root leading).after running).honoured

/-- A directory refuses to close a handle a second time. -/
theorem close_again_after_fresh (disk : Disk)
    (root : Except SystemError Nat) (leading : Nat) {calls : List Call}
    (running : ∀ request ∈ calls, request.kind ≠ .exit) {handle : Handle}
    (closed : ((subsystem.after calls (fresh disk root leading)).close
      handle).answer = .ok ()) {rest : List Call}
    (still_running : ∀ request ∈ rest, request.kind ≠ .exit) :
    ∃ reason, ((subsystem.after (calls ++ .close handle :: rest)
      (fresh disk root leading)).close handle).answer = .error reason := by
  have honoured := honoured_after_fresh disk root leading running
  have all_running : ∀ request ∈ calls ++ .close handle :: rest,
      request.kind ≠ .exit := by
    intro request among
    rw [List.mem_append, List.mem_cons] at among
    rcases among with earlier | same | later
    · exact running request earlier
    · rw [same]
      exact nofun
    · exact still_running request later
  have still := honoured_after_fresh disk root leading all_running
  rw [incidents_append, incidents_cons] at still
  rw [show (subsystem.respond (.close handle)
    (subsystem.after calls (fresh disk root leading))).answer = .ok ()
    from closed] at still
  exact honoured.close_again closed still

end Directory

/--
Both subsystems issue handles one after the other, never call an open handle
bad and refuse every other handle, at every point of every run: a store with
any settings through crashes and the end of its process, a directory of any
disk through any file calls.  A handle that was closed can then not be closed
again, whatever happens in between.
-/
theorem handles_fresh_and_spent (settings : StoreSettings)
    (generator : Generator) (actions : List Action) (disk : Disk)
    (root : Except SystemError Nat) (leading : Nat) {calls : List Call}
    (running : ∀ request ∈ calls, request.kind ≠ .exit) :
    (Ledger.ofIncidents ((Store.fresh settings generator).incidents
        actions)).Honoured Store.subsystem
          ((Store.fresh settings generator).after actions) ∧
      (∀ handle,
        (((Store.fresh settings generator).after actions).close
            handle).answer = .ok () →
          ∀ rest, ∃ reason, (((Store.fresh settings generator).after
            (actions ++ .call (.close handle) :: rest)).close
              handle).answer = .error reason) ∧
      (Ledger.ofIncidents ((Directory.fresh disk root leading).incidents
        calls)).Honoured Directory.subsystem
          (Directory.subsystem.after calls
            (Directory.fresh disk root leading)) ∧
      ∀ handle,
        ((Directory.subsystem.after calls
            (Directory.fresh disk root leading)).close handle).answer =
              .ok () →
          ∀ rest : List Call, (∀ request ∈ rest, request.kind ≠ .exit) →
            ∃ reason, ((Directory.subsystem.after
              (calls ++ .close handle :: rest)
                (Directory.fresh disk root leading)).close handle).answer =
                  .error reason := by
  refine ⟨Store.honoured_after_fresh settings generator actions, ?_,
    Directory.honoured_after_fresh disk root leading running, ?_⟩
  · intro handle closed rest
    exact Store.close_again_after_fresh settings generator actions closed
      rest
  · intro handle closed rest still_running
    exact Directory.close_again_after_fresh disk root leading running closed
      still_running

/-- A crash and the end of the process between two closes, and a truncation. -/
theorem handles_fresh_and_spent_three :
    let store := Store.fresh { handleLimit := some 1 } (.ofSeed 3)
    let actions : List Action :=
      [.call (.create [97]), .crash, .call (.create [98])]
    let rest : List Action := [.call (.create [98]), .call (.exit 0)]
    let directory := Directory.fresh .empty (.ok Disk.topmost) 5
    let calls : List Call := [.create [97], .openFile [97], .create [98]]
    let more : List Call := [.create [97], .write ⟨4⟩ [1]]
    (∀ request ∈ calls, request.kind ≠ .exit) ∧
      (∀ request ∈ more, request.kind ≠ .exit) ∧
      (Ledger.ofIncidents (store.incidents actions)).Honoured
        Store.subsystem (store.after actions) ∧
      ((store.after actions).close ⟨3⟩).answer = .ok () ∧
      (∃ reason, ((store.after (actions ++ .call (.close ⟨3⟩) ::
        rest)).close ⟨3⟩).answer = .error reason) ∧
      (Ledger.ofIncidents (directory.incidents calls)).Honoured
        Directory.subsystem (Directory.subsystem.after calls directory) ∧
      ((Directory.subsystem.after calls directory).close ⟨4⟩).answer =
        .ok () ∧
      ∃ reason, ((Directory.subsystem.after (calls ++ .close ⟨4⟩ :: more)
        directory).close ⟨4⟩).answer = .error reason := by
  intro store actions rest directory calls more
  have running : ∀ request ∈ calls, request.kind ≠ .exit := by decide
  have still_running : ∀ request ∈ more, request.kind ≠ .exit := by decide
  have closed : ((store.after actions).close ⟨3⟩).answer = .ok () := by
    decide +kernel
  have closed_here :
      ((Directory.subsystem.after calls directory).close ⟨4⟩).answer =
        .ok () := by
    decide +kernel
  rcases handles_fresh_and_spent { handleLimit := some 1 } (.ofSeed 3) actions
    .empty (.ok Disk.topmost) 5 running with
    ⟨honoured, again, honoured_here, again_here⟩
  exact ⟨running, still_running, honoured, closed, again ⟨3⟩ closed rest,
    honoured_here, closed_here,
    again_here ⟨4⟩ closed_here more still_running⟩

end FileConformance
