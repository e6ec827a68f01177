import FileConformance.Proofs.Store.Durability
import FileConformance.Proofs.Store.Frame
import FileConformance.Proofs.Store.Space

/-!
# The capacity of a store

Space is charged on live contents, and it is asked for once, when a write makes
a file longer.  So no call takes more space than there is: whatever is in use
after a call was in use before, or fits.

A crash asks for nothing.  What it leaves is what is durable under the names,
and that is more than was in use if a file was emptied and the truncation had
not reached the durable side: the crash brings back bytes whose space may have
been given to another file since.  Without such a truncation a file is never
longer durably than it is live, and a crash frees space at most.

So a run stays within the capacity up to the first crash that brings bytes back,
and at any time it takes no more than the capacity or what one of these crashes
left.
-/

namespace FileConformance

namespace Store

/-- A file that has a name waits to be emptied durably. -/
def AwaitsTruncation (store : Store) : Prop :=
  ∃ (name : Bytes) (file : Nat),
    store.names[name]? = some file ∧ .truncate file ∈ store.pending

/-- How many bytes are durable under the names. -/
def durableBytes (store : Store) : Nat :=
  store.names.keys.foldl
    (fun total name =>
      total + ((store.durableContent? name).getD []).length) 0

variable {store : Store}

/-! ## The space that calls take -/

theorem usedBytes_close_le (store : Store) (handle : Handle) :
    (store.close handle).state.usedBytes ≤ store.usedBytes := by
  cases admitted : store.admitHandle handle with
  | error reason =>
      rw [close_of_refused admitted]
      exact Nat.le_refl store.usedBytes
  | ok opened =>
      rw [close_of_admitted admitted]
      exact usedBytes_surrender_le store handle opened.file

theorem usedBytes_closeAll_le (handles : List Handle) (store : Store) :
    (closeAll handles store).state.usedBytes ≤ store.usedBytes := by
  induction handles generalizing store with
  | nil => exact Nat.le_refl store.usedBytes
  | cons handle rest ih =>
      exact (ih (store.close handle).state).trans
        (usedBytes_close_le store handle)

theorem usedBytes_read (store : Store) (handle : Handle)
    (buffer : Bytes) :
    (store.read handle buffer).state.usedBytes = store.usedBytes := by
  rcases exists_read_eq store handle buffer with
    ⟨generator, same | ⟨opened, count, _, same⟩⟩
  · rw [same]
    rfl
  · rw [same]
    rfl

/-- A write asks for the space it takes. -/
theorem usedBytes_write_le {capacity : Nat} (wf : store.WellFormed)
    (limited : store.settings.capacity = some capacity)
    (handle : Handle) (data : Bytes) :
    (store.write handle data).state.usedBytes ≤
      max store.usedBytes capacity := by
  have unmoved : store.usedBytes ≤ max store.usedBytes capacity :=
    Nat.le_max_left _ _
  cases admitted : store.admitHandle handle with
  | error reason =>
      rw [write_of_refused data admitted]
      exact unmoved
  | ok opened =>
      cases failed : (store.chance store.settings.inputOutputError).1 with
      | true =>
          rw [write_of_failed data admitted failed]
          exact unmoved
      | false =>
          cases room :
              store.drawn.checkSpace (store.drawn.growth opened data) with
          | error full =>
              rw [write_of_full admitted failed room]
              exact unmoved
          | ok _ =>
              have drawn : store.drawn.WellFormed :=
                wf.transition (.draw _)
              have fits : 0 < store.drawn.growth opened data →
                  store.usedBytes + store.drawn.growth opened data ≤
                    capacity :=
                checkSpace_eq_ok_iff.mp room capacity limited
              rw [write_of_admitted admitted failed room]
              refine (usedBytes_writtenBack _ _ _).trans_le ?_
              by_cases empty : data = []
              · rw [empty, usedBytes_append_nil]
                exact unmoved
              · have taken : (store.drawn.append handle opened
                    data).usedBytes =
                    store.usedBytes + store.drawn.growth opened data :=
                  usedBytes_append drawn
                    (admitHandle_eq_ok_iff.mp admitted).2 empty
                omega

/-- What is in use after a call was in use before, or fits. -/
theorem usedBytes_call_le {capacity : Nat} (wf : store.WellFormed)
    (limited : store.settings.capacity = some capacity)
    (request : Call) :
    (store.act (.call request)).usedBytes ≤
      max store.usedBytes capacity := by
  have within : ∀ {bytes : Nat}, bytes ≤ store.usedBytes →
      bytes ≤ max store.usedBytes capacity :=
    fun below => below.trans (Nat.le_max_left _ _)
  cases request with
  | create name =>
      apply within
      show (store.create name).state.usedBytes ≤ store.usedBytes
      cases admitted : store.admitCreate name with
      | error reason =>
          rw [create_of_refused admitted]
          exact Nat.le_refl store.usedBytes
      | ok _ =>
          rw [create_of_admitted admitted, usedBytes_openHandle]
          exact usedBytes_fileToCreate_le wf name
  | openFile name =>
      apply within
      show (store.openFile name).state.usedBytes ≤ store.usedBytes
      cases admitted : store.admitOpen name with
      | error reason =>
          rw [openFile_of_refused admitted]
          exact Nat.le_refl store.usedBytes
      | ok file =>
          rw [openFile_of_admitted admitted, usedBytes_openHandle]
  | close handle => exact within (usedBytes_close_le store handle)
  | read handle buffer =>
      exact within (usedBytes_read store handle buffer).le
  | write handle data => exact usedBytes_write_le wf limited handle data
  | delete name =>
      apply within
      show (store.delete name).state.usedBytes ≤ store.usedBytes
      cases admitted : store.admitDelete name with
      | error reason =>
          rw [delete_of_refused admitted]
          exact Nat.le_refl store.usedBytes
      | ok file =>
          rw [delete_of_admitted admitted]
          exact usedBytes_unlink_le store name file
  | exit code =>
      apply within
      show (store.exit code).state.usedBytes ≤ store.usedBytes
      unfold exit
      split
      · exact Nat.le_refl store.usedBytes
      · exact usedBytes_closeAll_le store.handles.keys store

/-! ## The space that a crash leaves -/

theorem durableBytes_eq_sum (store : Store) :
    store.durableBytes = ∑ name ∈ store.names.keys.toFinset,
      ((store.durableContent? name).getD []).length := by
  rw [List.sum_toFinset _ Std.ExtTreeMap.nodup_keys, List.sum_eq_foldl,
    List.foldl_map]
  rfl

theorem exists_file_of_mem_keys {name : Bytes}
    (member : name ∈ store.names.keys.toFinset) :
    ∃ file, store.names[name]? = some file := by
  rw [List.mem_toFinset, Std.ExtTreeMap.mem_keys,
    Std.ExtTreeMap.mem_iff_isSome_getElem?] at member
  exact Option.isSome_iff_exists.mp member

/-- After a crash the space in use is what was durable under the names. -/
theorem usedBytes_crash (wf : store.WellFormed) :
    store.crash.state.usedBytes = store.durableBytes := by
  rw [usedBytes_eq_sum, durableBytes_eq_sum]
  symm
  -- A name goes to the file it denotes, and no two names share a file.
  apply Finset.sum_nbij fun name => (store.names[name]?).getD 0
  · intro name member
    rcases exists_file_of_mem_keys member with ⟨file, named⟩
    rw [mem_present, named]
    exact wf.mem_files_crash_iff.mpr ⟨name, named⟩
  · intro left leftIn right rightIn same
    rcases exists_file_of_mem_keys leftIn with ⟨file, leftNamed⟩
    rcases exists_file_of_mem_keys rightIn with ⟨other, rightNamed⟩
    simp only [leftNamed, rightNamed, Option.getD_some] at same
    subst same
    exact wf.name_unique leftNamed rightNamed
  · intro file there
    rcases wf.mem_files_crash_iff.mp (mem_present.mp there) with
      ⟨name, named⟩
    refine ⟨name, ?_, by simp [named]⟩
    rw [Finset.mem_coe, List.mem_toFinset, Std.ExtTreeMap.mem_keys,
      Std.ExtTreeMap.mem_iff_isSome_getElem?, named]
    rfl
  · intro name member
    rcases exists_file_of_mem_keys member with ⟨file, named⟩
    rw [wf.durableContent?_eq, named, Option.map_some, Option.getD_some,
      Option.getD_some,
      live_crash (wf.mem_files_crash_iff.mpr ⟨name, named⟩)]

/-- Unless a truncation waits, no file is longer durably than it is live. -/
theorem length_durable_le {file : Nat}
    (steady : .truncate file ∉ store.pending) :
    (store.durable file).length ≤ (store.live file).length := by
  apply Pending.length_le_applyAll
  intro other waiting
  rw [Pending.onFile, List.mem_filter, decide_eq_true_eq] at waiting
  rcases waiting with ⟨queued, rfl⟩
  exact steady queued

/-- Unless a named file awaits truncation, a crash takes no space. -/
theorem usedBytes_crash_le (wf : store.WellFormed)
    (steady : ¬store.AwaitsTruncation) :
    store.crash.state.usedBytes ≤ store.usedBytes := by
  apply usedBytes_le
  intro file there
  rcases wf.mem_files_crash_iff.mp there with ⟨name, named⟩
  rw [live_crash there]
  exact Or.inr ⟨wf.present_of_named named, length_durable_le fun waiting =>
    steady ⟨name, file, named, waiting⟩⟩

/-! ## The space that a run takes -/

/-- Only a crash takes space that does not fit, and only bytes it restores. -/
theorem awaits_of_usedBytes_act {capacity : Nat} (wf : store.WellFormed)
    (limited : store.settings.capacity = some capacity) {action : Action}
    (beyond : max store.usedBytes capacity < (store.act action).usedBytes) :
    action = .crash ∧ store.AwaitsTruncation := by
  cases action with
  | call request =>
      have within := usedBytes_call_le wf limited request
      omega
  | crash =>
      refine ⟨rfl, ?_⟩
      by_contra steady
      have within : (store.act .crash).usedBytes ≤ store.usedBytes :=
        usedBytes_crash_le wf steady
      omega

/--
After a run no more is in use than was before, or fits, or was left by a crash
that found a named file awaiting truncation.
-/
theorem usedBytes_after_le {capacity : Nat} (wf : store.WellFormed)
    (limited : store.settings.capacity = some capacity)
    (actions : List Action) :
    (store.after actions).usedBytes ≤ max store.usedBytes capacity ∨
      ∃ moment ∈ store.moments actions,
        moment.action = .crash ∧ moment.before.AwaitsTruncation ∧
          (store.after actions).usedBytes ≤ moment.after.usedBytes := by
  induction actions generalizing store with
  | nil => exact Or.inl (Nat.le_max_left _ _)
  | cons action rest ih =>
      have still : (store.act action).settings = store.settings :=
        settings_after store [action]
      have wfLater : (store.act action).WellFormed := wf.after [action]
      rw [after_cons, moments]
      rcases ih wfLater (still ▸ limited) with
        below | ⟨moment, member, crashed, awaits, left⟩
      · by_cases beyond : max store.usedBytes capacity <
            (store.act action).usedBytes
        · rcases awaits_of_usedBytes_act wf limited beyond with
            ⟨crashed, awaits⟩
          refine Or.inr ⟨⟨store, action⟩, List.mem_cons_self, crashed,
            awaits, ?_⟩
          show ((store.act action).after rest).usedBytes ≤
            (store.act action).usedBytes
          omega
        · left
          omega
      · exact Or.inr ⟨moment, List.mem_cons_of_mem _ member, crashed,
          awaits, left⟩

/--
No call takes space that is not there, and a crash leaves what is durable under
the names, which is no more than was in use unless a named file awaits
truncation.  So a store of some capacity that was made without files takes no
more than its capacity, unless a crash found a named file awaiting truncation;
and then it takes no more than one of these crashes left.
-/
theorem within_capacity_after_fresh {settings : StoreSettings}
    {capacity : Nat} (limited : settings.capacity = some capacity)
    (generator : Generator) (actions : List Action) :
    let start := fresh settings generator
    let store := start.after actions
    (∀ request : Call, (store.act (.call request)).usedBytes ≤
      max store.usedBytes capacity) ∧
      store.crash.state.usedBytes = store.durableBytes ∧
      (¬store.AwaitsTruncation →
        store.durableBytes ≤ store.usedBytes) ∧
      (store.usedBytes ≤ capacity ∨
        ∃ moment ∈ start.moments actions,
          moment.action = .crash ∧ moment.before.AwaitsTruncation ∧
            store.usedBytes ≤ moment.after.usedBytes) := by
  intro start store
  have began : start.WellFormed := WellFormed.fresh settings generator
  have wf : store.WellFormed := began.after actions
  have rules : store.settings.capacity = some capacity := by
    rw [show store.settings = settings from settings_after start actions]
    exact limited
  have unused : start.usedBytes = 0 :=
    usedBytes_eq_zero_iff.mpr fun file there =>
      (Std.ExtTreeMap.not_mem_empty there).elim
  refine ⟨usedBytes_call_le wf rules, usedBytes_crash wf, ?_, ?_⟩
  · intro steady
    rw [← usedBytes_crash wf]
    exact usedBytes_crash_le wf steady
  · have run := usedBytes_after_le began limited actions
    rw [unused, Nat.zero_max] at run
    exact run

/--
A file of two bytes is emptied, three others take its place, and power is lost
before the handle is closed.  All five are there again, and nothing more fits.
-/
theorem within_capacity_after_fresh_restored :
    let settings : StoreSettings := { capacity := some 3 }
    let actions : List Action :=
      [.call (.create [97]), .call (.write ⟨2⟩ [1, 2]),
        .call (.close ⟨2⟩), .call (.create [97]), .call (.create [98]),
        .call (.write ⟨4⟩ [3, 4, 5]), .call (.close ⟨4⟩), .crash,
        .call (.create [99]), .call (.write ⟨5⟩ [6])]
    let start := fresh settings (.ofSeed 0)
    let store := start.after actions
    settings.capacity = some 3 ∧ store.usedBytes = 5 ∧
      ∃ moment ∈ start.moments actions,
        moment.action = .crash ∧ moment.before.AwaitsTruncation ∧
          store.usedBytes ≤ moment.after.usedBytes := by
  intro settings actions start store
  have full : store.usedBytes = 5 := by decide +kernel
  have beyond : ¬store.usedBytes ≤ 3 := by
    rw [full]
    decide
  have limited : settings.capacity = some 3 := rfl
  rcases within_capacity_after_fresh limited (.ofSeed 0) actions with
    ⟨_, _, _, run⟩
  exact ⟨limited, full, run.resolve_left beyond⟩

/--
A crash may leave more than fits: of a file that was emptied it brings back the
byte whose space was given to another file.
-/
theorem crash_exceeds_capacity :
    ¬∀ (settings : StoreSettings) (capacity : Nat) (generator : Generator)
        (actions : List Action), settings.capacity = some capacity →
          ((fresh settings generator).after actions).usedBytes ≤
            capacity := by
  intro within
  have bounded := within { capacity := some 1 } 1 (.ofSeed 0)
    [.call (.create [97]), .call (.write ⟨2⟩ [65]), .call (.close ⟨2⟩),
      .call (.create [97]), .call (.create [98]),
      .call (.write ⟨4⟩ [66]), .call (.close ⟨4⟩), .crash] rfl
  revert bounded
  decide +kernel

end Store

end FileConformance
