import FileConformance.Proofs.Store.Conduct
import FileConformance.Proofs.Store.Turnover

/-!
# Under which name a handle was opened

A file never has two names, not even one after the other: it gets its name when
it is created, and all that can happen to the name is that it is deleted.  So a
handle is open on the file that its name denotes, or on one without a name, and
never on a file that another name denotes.

A caller that keeps to one name, and to handles that were opened under it, can
therefore do nothing to the files that other names denote.  They keep what they
hold, what is durable of it and what waits on it.
-/

namespace FileConformance

namespace Call

/-- A call takes a name, or a handle that is closed or open under it. -/
structure Under (name : Bytes) (store : Store) (request : Call) :
    Prop where
  returns : request.kind ≠ .exit
  name_eq : ∀ other, request.name? = some other → other = name
  handle_under : ∀ handle opened, request.handle? = some handle →
    store.handles.find? handle = some opened → opened.name = name

variable {request : Call} {name : Bytes}

theorem under_of_name (taken : request.name? = some name)
    (store : Store) : request.Under name store where
  returns := by cases request <;> simp_all [name?, kind]
  name_eq := fun _ takes => Option.some.inj (takes.symm.trans taken)
  handle_under := by cases request <;> simp_all [name?, handle?]

theorem under_of_handle {store : Store} {handle : Handle}
    (passed : request.handle? = some handle)
    (under : ∀ other, store.nameOf? handle = some other →
      other = name) : request.Under name store where
  returns := by cases request <;> simp_all [handle?, kind]
  name_eq := by cases request <;> simp_all [name?, handle?]
  handle_under := by
    intro other opened passes found
    rw [passed] at passes
    cases passes
    exact under opened.name (by rw [Store.nameOf?, found]; rfl)

end Call

namespace Store

variable {store : Store}

/-! ## Names of open files -/

/-- A well-formed store where no handle leads to the file of another name. -/
structure Faithful (store : Store) : Prop extends WellFormed store where
  name_eq : ∀ {handle : Handle} {opened : StoreHandle} {name : Bytes},
    store.handles.find? handle = some opened →
      store.names[name]? = some opened.file → name = opened.name

namespace Faithful

/-- Neither new handles nor new names come. -/
theorem of_fewer {later : Store} (faithful : store.Faithful)
    (wf : later.WellFormed)
    (handles : ∀ {handle : Handle} {moved : StoreHandle},
      later.handles.find? handle = some moved →
        ∃ opened, store.handles.find? handle = some opened ∧
          opened.file = moved.file ∧ opened.name = moved.name)
    (names : ∀ {name : Bytes} {file : Nat},
      later.names[name]? = some file → store.names[name]? = some file) :
    later.Faithful where
  toWellFormed := wf
  name_eq := by
    intro handle moved name found named
    rcases handles found with ⟨opened, before, sameFile, sameName⟩
    rw [← sameFile] at named
    rw [← sameName]
    exact faithful.name_eq before (names named)

theorem fresh (settings : StoreSettings) (generator : Generator) :
    (Store.fresh settings generator).Faithful where
  toWellFormed := WellFormed.fresh settings generator
  name_eq := by
    intro handle opened name found
    cases found.symm.trans (Registry.find?_empty handle)

/-- The new name of a file is the name of no file that is open. -/
theorem fileToCreate (faithful : store.Faithful) (name : Bytes) :
    (store.fileToCreate name).2.Faithful where
  toWellFormed := faithful.toWellFormed.fileToCreate name
  name_eq := by
    intro handle opened other found denoted
    rw [fileToCreate_eq] at found
    by_cases same : name = other
    · subst same
      rw [names_fileToCreate_self] at denoted
      cases named : store.names[name]? with
      | some file =>
          rw [fileToCreate_of_named named] at denoted
          exact faithful.name_eq found (named.trans denoted)
      | none =>
          rw [fileToCreate_of_free named] at denoted
          have issued :=
            faithful.file_issued (faithful.handle_present found)
          rw [← Option.some.inj denoted] at issued
          exact (Nat.lt_irrefl _ issued).elim
    · rw [names_fileToCreate_of_ne store
        fun equal => same (Option.some.inj equal)] at denoted
      exact faithful.name_eq found denoted

/-- A new handle is open under the only name of its file. -/
theorem openHandle (faithful : store.Faithful) {name : Bytes}
    {file : Nat} (named : store.names[name]? = some file)
    (wf : (store.openHandle file name).2.WellFormed) :
    (store.openHandle file name).2.Faithful where
  toWellFormed := wf
  name_eq := by
    intro handle opened other found denoted
    rw [Store.openHandle, Registry.find?_insert] at found
    split at found
    · cases found
      exact faithful.name_unique denoted named
    · exact faithful.name_eq found denoted

theorem transition {later : Store} (faithful : store.Faithful)
    (changed : Transition store later) : later.Faithful := by
  have wf := faithful.toWellFormed.transition changed
  have moved : ∀ (handle other : Handle) (count : Nat)
      {opened : StoreHandle},
      (store.advance handle count).handles.find? other = some opened →
        ∃ before, store.handles.find? other = some before ∧
          before.file = opened.file ∧ before.name = opened.name := by
    intro handle other count opened found
    rw [advance, Registry.find?_adjust] at found
    split at found
    · rcases Option.map_eq_some_iff.mp found with ⟨before, there, rfl⟩
      exact ⟨before, there, rfl, rfl⟩
    · exact ⟨opened, found, rfl, rfl⟩
  cases changed with
  | draw generator =>
      exact faithful.of_fewer wf (fun found => ⟨_, found, rfl, rfl⟩) id
  | @create name admitted =>
      exact (faithful.fileToCreate name).openHandle
        (names_fileToCreate_self store name) wf
  | openFile admitted =>
      exact faithful.openHandle (admitOpen_eq_ok_iff.mp admitted).2.2.1 wf
  | close admitted =>
      rw [surrender_eq] at wf ⊢
      refine faithful.of_fewer wf (fun {handle opened} found => ?_) id
      rw [Registry.find?_remove] at found
      split at found
      · cases found
      · exact ⟨opened, found, rfl, rfl⟩
  | advance count admitted =>
      exact faithful.of_fewer wf (fun found => moved _ _ count found) id
  | @append handle opened data admitted room =>
      rw [append_eq] at wf ⊢
      exact faithful.of_fewer wf
        (fun found => moved handle _ data.length found) id
  | flush admitted =>
      exact faithful.of_fewer wf (fun found => ⟨_, found, rfl, rfl⟩) id
  | unlink admitted =>
      rw [unlink_eq] at wf ⊢
      refine faithful.of_fewer wf (fun found => ⟨_, found, rfl, rfl⟩) ?_
      intro name file named
      rw [Std.ExtTreeMap.getElem?_erase] at named
      split at named
      · cases named
      · exact named
  | finish code vacant =>
      exact faithful.of_fewer wf (fun found => ⟨_, found, rfl, rfl⟩) id
  | crash =>
      refine faithful.of_fewer wf (fun {handle opened} found => ?_) id
      cases found.symm.trans (Registry.find?_empty handle)

theorem evolves {later : Store} (faithful : store.Faithful)
    (evolved : Evolves store later) : later.Faithful :=
  evolved.induction transition faithful

theorem after (faithful : store.Faithful) (actions : List Action) :
    (store.after actions).Faithful :=
  faithful.evolves (after_evolves store actions)

end Faithful

/-! ## Keeping to a name -/

/-- A running store whose handles lead to files of their own names. -/
structure Sound (rules : StoreSettings) (store : Store) : Prop
    extends Running rules store, Faithful store

/-- Every store that can be reached and still runs is sound. -/
theorem Sound.reached (rules : StoreSettings) (generator : Generator)
    (actions : List Action)
    (alive : ((Store.fresh rules generator).after actions).exitStatus =
      none) :
    Sound rules ((Store.fresh rules generator).after actions) where
  toWellFormed := (WellFormed.fresh rules generator).after actions
  alive := alive
  settings_eq := settings_after (Store.fresh rules generator) actions
  name_eq := ((Faithful.fresh rules generator).after actions).name_eq

/-- Nothing happened to what is denoted by other names than some. -/
structure Isolates (rules : StoreSettings) (names : List Bytes)
    (store later : Store) : Prop
    extends Sound rules later, Spares names store later where
  undisturbed : ∀ {other : Bytes} {file : Nat}, other ∉ names →
    store.names[other]? = some file → Undisturbed file store later

namespace Isolates

variable {rules : StoreSettings} {names others : List Bytes}
  {middle later : Store} {name : Bytes}

theorem refl (sound : Sound rules store) (names : List Bytes) :
    Isolates rules names store store where
  toSound := sound
  toSpares := Spares.refl names store
  undisturbed := fun _ _ => Undisturbed.refl _ store

theorem trans (first : Isolates rules names store middle)
    (second : Isolates rules others middle later) :
    Isolates rules (names ++ others) store later where
  toSound := second.toSound
  toSpares := first.toSpares.trans second.toSpares
  undisturbed := by
    intro other file outside named
    rw [List.mem_append, not_or] at outside
    refine (first.undisturbed outside.1 named).trans
      (second.undisturbed outside.2 ?_)
    rw [first.names_eq outside.1]
    exact named

/-- Two calls under one name together leave the others alone. -/
theorem again (first : Isolates rules [name] store middle)
    (second : Isolates rules [name] middle later) :
    Isolates rules [name] store later where
  toSound := second.toSound
  toSpares := first.toSpares.again second.toSpares
  undisturbed := by
    intro other file outside named
    have twice : other ∉ [name] ++ [name] := by
      rw [List.mem_append, not_or]
      exact ⟨outside, outside⟩
    exact (first.trans second).undisturbed twice named

theorem content?_eq (isolates : Isolates rules names store later)
    (outside : name ∉ names) :
    later.content? name = store.content? name := by
  rw [content?, content?, isolates.names_eq outside]
  cases named : store.names[name]? with
  | none => rfl
  | some file =>
      exact congrArg some (isolates.undisturbed outside named).live_eq

theorem durableContent?_eq (isolates : Isolates rules names store later)
    (outside : name ∉ names) :
    later.durableContent? name = store.durableContent? name := by
  rw [durableContent?, durableContent?, isolates.names_eq outside]
  cases named : store.names[name]? with
  | none => rfl
  | some file =>
      show (later.files[file]? >>= fun stored => some stored.durable) = _
      rw [(isolates.undisturbed outside named).files_eq]
      rfl

end Isolates

theorem exitStatus_respond (store : Store) {request : Call}
    (returns : request.kind ≠ .exit) :
    (subsystem.respond request store).state.exitStatus =
      store.exitStatus := by
  cases request with
  | create name =>
      show (store.create name).state.exitStatus = _
      rcases create_handles store name with ⟨_, same⟩ | ⟨_, _, issues⟩
      · rw [same]
        rfl
      · exact issues.exitStatus_eq
  | openFile name =>
      show (store.openFile name).state.exitStatus = _
      rcases openFile_handles store name with ⟨_, same⟩ | ⟨_, _, issues⟩
      · rw [same]
        rfl
      · exact issues.exitStatus_eq
  | close handle =>
      show (store.close handle).state.exitStatus = _
      rcases close_handles store handle with ⟨_, same⟩ | ⟨_, given⟩
      · rw [same]
        rfl
      · exact given.exitStatus_eq
  | read handle buffer =>
      exact (read_handles store handle buffer).exitStatus_eq
  | write handle data => exact (write_handles store handle data).exitStatus_eq
  | delete name => exact (delete_handles store name).exitStatus_eq
  | exit code => exact (returns rfl).elim

namespace Turnover

variable {later : Store} {concerned : Option Nat}
  {issued returned : Option Handle}

/-- A number that was given back stays given back. -/
theorem find?_none
    (turnover : Turnover store concerned later issued returned)
    {handle : Handle} (below : handle.number < store.nextHandle)
    (missing : store.handles.find? handle = none) :
    later.handles.find? handle = none := by
  cases turnover with
  | keep handles =>
      rw [handles]
      exact missing
  | move moved count handles =>
      rw [handles, Registry.find?_adjust, missing]
      split <;> rfl
  | issue name about handles =>
      have old : (⟨store.nextHandle⟩ : Handle) ≠ handle := by
        rintro rfl
        exact Nat.lt_irrefl _ below
      rw [handles, Registry.find?_insert, if_neg old]
      exact missing
  | giveBack found handles =>
      rw [handles, Registry.find?_remove]
      split
      · rfl
      · exact missing

end Turnover

/-- A call under one name is not about the file of another. -/
theorem Faithful.concerned?_ne (faithful : store.Faithful)
    {request : Call} {name other : Bytes} {file : Nat}
    (under : request.Under name store) (different : other ≠ name)
    (named : store.names[other]? = some file) :
    store.concerned? request ≠ some file := by
  have denoted : ∀ taken : Bytes, request.name? = some taken →
      store.names[taken]? ≠ some file := by
    intro taken takes same
    rw [under.name_eq taken takes] at same
    exact different (faithful.name_unique named same)
  have led : ∀ handle : Handle, request.handle? = some handle →
      (store.handles.find? handle).map StoreHandle.file ≠ some file := by
    intro handle passed leads
    rcases Option.map_eq_some_iff.mp leads with ⟨opened, found, rfl⟩
    apply different
    rw [← under.handle_under handle opened passed found]
    exact faithful.name_eq found named
  cases request with
  | create taken =>
      intro concerned
      replace concerned := Option.some.inj concerned
      cases free : store.names[taken]? with
      | some found =>
          rw [fileToCreate_of_named free] at concerned
          exact denoted taken rfl (free.trans (congrArg some concerned))
      | none =>
          rw [fileToCreate_of_free free] at concerned
          have issued :=
            faithful.file_issued (faithful.present_of_named named)
          rw [← concerned] at issued
          exact Nat.lt_irrefl _ issued
  | openFile taken => exact denoted taken rfl
  | delete taken => exact denoted taken rfl
  | close handle => exact led handle rfl
  | read handle buffer => exact led handle rfl
  | write handle data => exact led handle rfl
  | exit code => exact (under.returns rfl).elim

/-- A call under one name leaves everything under other names alone. -/
theorem Sound.respond {rules : StoreSettings} (sound : Sound rules store)
    {request : Call} {name : Bytes}
    (under : request.Under name store) :
    Isolates rules [name] store
      (subsystem.respond request store).state := by
  have keeps := respond_keeps store under.returns
  have turnover := respond_turnover store under.returns
  have evolved : Evolves store (subsystem.respond request store).state :=
    act_evolves store (.call request)
  have undisturbed : ∀ {other : Bytes} {file : Nat}, other ∉ [name] →
      store.names[other]? = some file →
        Undisturbed file store (subsystem.respond request store).state := by
    intro other file outside named
    rw [List.mem_singleton] at outside
    exact keeps.undisturbed
      (sound.toFaithful.concerned?_ne under outside named)
  exact {
    sound.toFaithful.evolves evolved with
    alive := (exitStatus_respond store under.returns).trans sound.alive
    settings_eq :=
      (settings_after store [.call request]).trans sound.settings_eq
    names_eq := by
      intro other outside
      apply keeps.names_eq
      intro renamed
      apply outside
      rw [List.mem_singleton]
      apply under.name_eq
      cases request <;> first | exact renamed | cases renamed
    find?_eq := by
      intro handle opened outside found
      rw [keeps.find?_eq ?_ ?_]
      · exact found
      · intro passed
        apply outside
        rw [under.handle_under handle opened passed found]
        exact List.mem_singleton_self name
      · intro issued
        rw [turnover.issued_eq issued,
          sound.toFaithful.nextHandle_unused] at found
        cases found
    find?_none := turnover.find?_none
    nextHandle_le := by
      rw [turnover.nextHandle_eq]
      exact Nat.le_add_right _ _
    live_eq := fun outside named => (undisturbed outside named).live_eq
    undisturbed := undisturbed }

namespace Sound

variable {rules : StoreSettings} {name : Bytes}

theorem isolates_of_name (sound : Sound rules store) (request : Call)
    (taken : request.name? = some name) :
    Isolates rules [name] store (subsystem.respond request store).state :=
  sound.respond (Call.under_of_name taken store)

theorem isolates_of_handle (sound : Sound rules store) (request : Call)
    {handle : Handle} (passed : request.handle? = some handle)
    (isOpen : store.nameOf? handle = some name) :
    Isolates rules [name] store (subsystem.respond request store).state :=
  sound.respond (Call.under_of_handle passed fun _ same =>
    Option.some.inj (same.symm.trans isOpen))

end Sound

end Store

end FileConformance
