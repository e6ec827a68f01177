import FileConformance.Bulk
import FileConformance.Proofs.Store.Conduct

/-!
# How a test file stands

Between two steps of a scenario a test file stands in one of a few ways towards
the store: its name exists or not, and the handle it is bound to is open or
closed.  How a file stands depends on its own name and its own handle, so it
lasts through whatever is done to other files.
-/

namespace FileConformance

open Store

namespace TrackedFile

/-- The name of the file exists. -/
def Named (file : TrackedFile) (store : Store) : Prop :=
  ∃ number, store.names[file.path]? = some number

/-- The name of the file is free. -/
def Unnamed (file : TrackedFile) (store : Store) : Prop :=
  store.names[file.path]? = none

/-- The file is bound to a handle that was opened under its name. -/
def Holding (file : TrackedFile) (store : Store) : Prop :=
  ∃ handle opened, file.binding = .bound handle ∧
    store.handles.find? handle = some opened ∧ opened.name = file.path

/-- The file was bound to a handle that is closed now. -/
def Released (file : TrackedFile) (store : Store) : Prop :=
  ∃ handle, file.binding = .released handle ∧
    store.handles.find? handle = none ∧ handle.number < store.nextHandle

/-- The file is bound to a handle on what its name denotes. -/
def Attached (file : TrackedFile) (store : Store) : Prop :=
  ∃ handle opened, file.binding = .bound handle ∧
    store.handles.find? handle = some opened ∧ opened.name = file.path ∧
      store.names[file.path]? = some opened.file

/-- The file is empty and bound to a handle at its start. -/
def Blank (file : TrackedFile) (store : Store) : Prop :=
  ∃ handle number, file.binding = .bound handle ∧
    store.handles.find? handle = some ⟨number, file.path, 0⟩ ∧
      store.names[file.path]? = some number ∧ store.live number = []

variable {file : TrackedFile} {store : Store}

theorem Attached.named (attached : file.Attached store) :
    file.Named store := by
  rcases attached with ⟨handle, opened, _, _, _, named⟩
  exact ⟨opened.file, named⟩

theorem Attached.holding (attached : file.Attached store) :
    file.Holding store := by
  rcases attached with ⟨handle, opened, bound, found, under, _⟩
  exact ⟨handle, opened, bound, found, under⟩

theorem Blank.attached (blank : file.Blank store) :
    file.Attached store := by
  rcases blank with ⟨handle, number, bound, found, named, _⟩
  exact ⟨handle, ⟨number, file.path, 0⟩, bound, found, rfl, named⟩

end TrackedFile

/-! ## What lasts -/

/-- Something lasts if no call on other names can change it. -/
def Lasts (standing : TrackedFile → Store → Prop) : Prop :=
  ∀ {file : TrackedFile} {store later : Store} {names : List Bytes},
    file.path ∉ names → Spares names store later →
      standing file store → standing file later

namespace TrackedFile

theorem named_lasts : Lasts Named := by
  intro file store later names outside spares
  rintro ⟨number, named⟩
  refine ⟨number, ?_⟩
  rw [spares.names_eq outside]
  exact named

theorem unnamed_lasts : Lasts Unnamed := by
  intro file store later names outside spares unnamed
  rw [Unnamed, spares.names_eq outside]
  exact unnamed

theorem holding_lasts : Lasts Holding := by
  intro file store later names outside spares
  rintro ⟨handle, opened, bound, found, under⟩
  refine ⟨handle, opened, bound, spares.find?_eq ?_ found, under⟩
  rw [under]
  exact outside

theorem released_lasts : Lasts Released := by
  intro file store later names outside spares
  rintro ⟨handle, released, missing, issued⟩
  exact ⟨handle, released, spares.find?_none issued missing,
    Nat.lt_of_lt_of_le issued spares.nextHandle_le⟩

theorem attached_lasts : Lasts Attached := by
  intro file store later names outside spares
  rintro ⟨handle, opened, bound, found, under, named⟩
  refine ⟨handle, opened, bound, spares.find?_eq ?_ found, under, ?_⟩
  · rw [under]
    exact outside
  · rw [spares.names_eq outside]
    exact named

theorem blank_lasts : Lasts Blank := by
  intro file store later names outside spares
  rintro ⟨handle, number, bound, found, named, empty⟩
  refine ⟨handle, number, bound, spares.find?_eq outside found, ?_, ?_⟩
  · rw [spares.names_eq outside]
    exact named
  · rw [spares.live_eq outside named]
    exact empty

/-! ## What depends on names or on handles only -/

variable {file moved : TrackedFile} {store later : Store}

theorem path_eq_of_name_eq (name_eq : moved.name = file.name) :
    moved.path = file.path := congrArg Bytes.ofString name_eq

theorem named_of_same_names (name_eq : moved.name = file.name)
    (names_eq : later.names = store.names) (named : file.Named store) :
    moved.Named later := by
  rw [Named, path_eq_of_name_eq name_eq, names_eq]
  exact named

theorem unnamed_of_same_names (name_eq : moved.name = file.name)
    (names_eq : later.names = store.names)
    (unnamed : file.Unnamed store) : moved.Unnamed later := by
  rw [Unnamed, path_eq_of_name_eq name_eq, names_eq]
  exact unnamed

theorem holding_of_same_handles (handles_eq : later.handles = store.handles)
    (_ : later.nextHandle = store.nextHandle)
    (holding : file.Holding store) : file.Holding later := by
  rw [Holding, handles_eq]
  exact holding

theorem released_of_same_handles
    (handles_eq : later.handles = store.handles)
    (number_eq : later.nextHandle = store.nextHandle)
    (released : file.Released store) : file.Released later := by
  rw [Released, handles_eq, number_eq]
  exact released

end TrackedFile

theorem Lasts.and {left right : TrackedFile → Store → Prop}
    (first : Lasts left) (second : Lasts right) :
    Lasts fun file store => left file store ∧ right file store := by
  intro file store later names outside spares
  rintro ⟨holds, holdsToo⟩
  exact ⟨first outside spares holds, second outside spares holdsToo⟩

/-- Whether a name is acceptable lasts, for neither it nor the rules change. -/
theorem Lasts.accepted {rules : StoreSettings}
    {standing : TrackedFile → Store → Prop} (lasts : Lasts standing) :
    Lasts fun file store =>
      rules.Accepts file.path ∧ standing file store := by
  intro file store later names outside spares
  rintro ⟨accepted, holds⟩
  exact ⟨accepted, lasts outside spares holds⟩

end FileConformance
