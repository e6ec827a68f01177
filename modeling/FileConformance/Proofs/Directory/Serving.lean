import FileConformance.Proofs.Directory.Remains
import FileConformance.Proofs.Ideal.Steps
import FileConformance.Proofs.Scenario.RoundTrips

/-!
# How a directory serves one test file

A directory numbers its handles in the order in which they are issued.  So if
every file is given one handle in each turn, the turn and the index of a file
tell the number of its handle, and no two files ever share one.

Each call for a file leaves alone what is known of the other files: where they
are, what they hold and how the handles stand that were or will be theirs.  For
each call this module says what it answers and what becomes of its own file.
-/

namespace FileConformance

namespace Settings

variable {settings : Settings} {turn later index other : Nat}

/-- The number of the first handle that is issued in a turn. -/
def firstHandle (settings : Settings) (turn : Nat) : Nat :=
  2 + turn * settings.fileCount

/-- The handle that is issued for a file in a turn. -/
def handle (settings : Settings) (turn index : Nat) : Handle :=
  ⟨settings.firstHandle turn + index⟩

/-- A turn begins where the one before it ends. -/
theorem firstHandle_succ (settings : Settings) (turn : Nat) :
    settings.firstHandle (turn + 1) =
      settings.firstHandle turn + settings.fileCount := by
  rw [firstHandle, firstHandle, Nat.succ_mul, Nat.add_assoc]

/-- Whatever the turns, two files have different handles. -/
theorem eq_of_handle_eq (inside : index < settings.fileCount)
    (insideToo : other < settings.fileCount)
    (same : settings.handle turn index = settings.handle later other) :
    index = other := by
  have numbers : 2 + turn * settings.fileCount + index =
      2 + later * settings.fileCount + other :=
    congrArg Handle.number same
  have shifted : index + turn * settings.fileCount =
      other + later * settings.fileCount := by
    omega
  have reduced := congrArg (· % settings.fileCount) shifted
  simp only [Nat.add_mul_mod_self_right] at reduced
  rwa [Nat.mod_eq_of_lt inside, Nat.mod_eq_of_lt insideToo] at reduced

theorem path_mem_names (inside : index < settings.fileCount) :
    settings.path index ∈ settings.names :=
  mem_names_iff.mpr (Or.inl ⟨index, inside, rfl⟩)

end Settings

namespace Directory

/-! ## What is known of a file -/

/-- Where a name of the root leads. -/
def nodeOf (directory : Directory) (root : Nat) (name : Bytes) :
    Option Node :=
  directory.disk.nodes[Place.mk root name]?

section

variable {settings : Settings} {root : Nat}

/-- All that is known of a test file is as it was. -/
structure SameFile (settings : Settings) (root index : Nat)
    (directory later : Directory) : Prop where
  node_eq : later.nodeOf root (settings.path index) =
    directory.nodeOf root (settings.path index)
  content_eq : ∀ {file : Nat},
    directory.nodeOf root (settings.path index) = some (.file file) →
      later.disk.content file = directory.disk.content file
  handle_eq : ∀ turn, later.handles[settings.handle turn index]? =
    directory.handles[settings.handle turn index]?

/-- All other files are as they were. -/
def SparesOthers (settings : Settings) (root index : Nat)
    (directory later : Directory) : Prop :=
  ∀ other < settings.fileCount, other ≠ index →
    SameFile settings root other directory later

theorem SparesOthers.trans {index : Nat}
    {directory middle later : Directory}
    (first : SparesOthers settings root index directory middle)
    (second : SparesOthers settings root index middle later) :
    SparesOthers settings root index directory later := by
  intro other inside ne
  have begun := first other inside ne
  have ended := second other inside ne
  exact {
    node_eq := ended.node_eq.trans begun.node_eq
    content_eq := fun present =>
      (ended.content_eq (begun.node_eq.trans present)).trans
        (begun.content_eq present)
    handle_eq := fun turn =>
      (ended.handle_eq turn).trans (begun.handle_eq turn) }

/-- The name of the file denotes a file. -/
def Linked (settings : Settings) (root index : Nat)
    (directory : Directory) : Prop :=
  ∃ file, directory.nodeOf root (settings.path index) = some (.file file)

/-- The name of the file denotes nothing. -/
def Missing (settings : Settings) (root index : Nat)
    (directory : Directory) : Prop :=
  directory.nodeOf root (settings.path index) = none

/-- The handle of a turn is open. -/
def Holding (settings : Settings) (turn index : Nat)
    (directory : Directory) : Prop :=
  ∃ opened, directory.handles[settings.handle turn index]? = some opened

/-- The handle of a turn is closed. -/
def LetGo (settings : Settings) (turn index : Nat)
    (directory : Directory) : Prop :=
  directory.handles[settings.handle turn index]? = none

/-- The handle of a turn is at the start of the file, which holds the data. -/
def AtStart (settings : Settings) (root turn : Nat) (data : Bytes)
    (index : Nat) (directory : Directory) : Prop :=
  ∃ file, directory.nodeOf root (settings.path index) =
      some (.file file) ∧
    directory.handles[settings.handle turn index]? = some ⟨file, 0⟩ ∧
      directory.disk.content file = data

/-- What is said of a file depends on what is known of it. -/
def Lasts (settings : Settings) (root : Nat)
    (standing : Nat → Directory → Prop) : Prop :=
  ∀ {index : Nat} {directory later : Directory},
    SameFile settings root index directory later →
      standing index directory → standing index later

theorem lasts_true : Lasts settings root fun _ _ => True :=
  fun _ _ => trivial

theorem linked_lasts : Lasts settings root (Linked settings root) := by
  rintro index directory later same ⟨file, present⟩
  exact ⟨file, same.node_eq.trans present⟩

theorem missing_lasts : Lasts settings root (Missing settings root) :=
  fun same missing => same.node_eq.trans missing

theorem holding_lasts (turn : Nat) :
    Lasts settings root (Holding settings turn) := by
  rintro index directory later same ⟨opened, found⟩
  exact ⟨opened, (same.handle_eq turn).trans found⟩

theorem letGo_lasts (turn : Nat) :
    Lasts settings root (LetGo settings turn) :=
  fun same closed => (same.handle_eq turn).trans closed

theorem atStart_lasts (turn : Nat) (data : Bytes) :
    Lasts settings root (AtStart settings root turn data) := by
  rintro index directory later same ⟨file, present, found, holds⟩
  exact ⟨file, same.node_eq.trans present,
    (same.handle_eq turn).trans found,
    (same.content_eq present).trans holds⟩

theorem Lasts.and {first second : Nat → Directory → Prop}
    (lasts : Lasts settings root first)
    (lastsToo : Lasts settings root second) :
    Lasts settings root fun index directory =>
      first index directory ∧ second index directory :=
  fun same holds => ⟨lasts same holds.1, lastsToo same holds.2⟩

theorem AtStart.linked {turn index : Nat} {data : Bytes}
    {directory : Directory}
    (atStart : AtStart settings root turn data index directory) :
    Linked settings root index directory := by
  rcases atStart with ⟨file, present, _, _⟩
  exact ⟨file, present⟩

theorem AtStart.holding {turn index : Nat} {data : Bytes}
    {directory : Directory}
    (atStart : AtStart settings root turn data index directory) :
    Holding settings turn index directory := by
  rcases atStart with ⟨file, _, found, _⟩
  exact ⟨⟨file, 0⟩, found⟩

/-! ## Calls for a file -/

/-- A directory answers calls for a file like this, and spares the others. -/
structure Serves (settings : Settings) (root index : Nat)
    (directory : Directory) (exchanges : List Exchange)
    (later : Directory) : Prop where
  answered : subsystem.exchanges (callsOf exchanges) directory = exchanges
  after_eq : subsystem.after (callsOf exchanges) directory = later
  within : ∀ request ∈ callsOf exchanges, request.Within settings.names
  spares : SparesOthers settings root index directory later

namespace Serves

variable {index : Nat} {directory middle later : Directory}

theorem one {request : Call} {answer : request.Answer}
    (within : request.Within settings.names)
    (answered : (subsystem.respond request directory).answer = answer)
    (left : (subsystem.respond request directory).state = later)
    (spares : SparesOthers settings root index directory later) :
    Serves settings root index directory [⟨request, answer⟩] later where
  answered := by
    subst answered
    rfl
  after_eq := left
  within := List.forall_mem_singleton.mpr within
  spares := spares

theorem trans {first second : List Exchange}
    (begins : Serves settings root index directory first middle)
    (ends : Serves settings root index middle second later) :
    Serves settings root index directory (first ++ second) later where
  answered := by
    rw [callsOf_append, Subsystem.exchanges_append, begins.answered,
      begins.after_eq, ends.answered]
  after_eq := by
    rw [callsOf_append, Subsystem.after_append, begins.after_eq,
      ends.after_eq]
  within := by
    rw [callsOf_append, List.forall_mem_append]
    exact ⟨begins.within, ends.within⟩
  spares := begins.spares.trans ends.spares

theorem confined {disk : Disk} {leading : Nat}
    {exchanges : List Exchange}
    (serves : Serves settings root index directory exchanges later)
    (confined : Confined disk root leading settings.names directory) :
    Confined disk root leading settings.names later :=
  serves.after_eq ▸ confined.after serves.within

end Serves

variable {disk : Disk} {leading turn index : Nat} {directory : Directory}

/-! ### Handles of the file -/

section

variable {made : Disk} {file : Nat}
  (next : directory.nextHandle = settings.firstHandle turn + index)

include next

/-- The next handle is the one of the file. -/
theorem handle_of_next :
    (⟨directory.nextHandle⟩ : Handle) = settings.handle turn index :=
  congrArg Handle.mk next

theorem nextHandle_openHandle :
    (directory.openHandle made file).2.nextHandle =
      settings.firstHandle turn + (index + 1) := by
  show directory.nextHandle + 1 = _
  rw [next, Nat.add_assoc]

theorem handles_openHandle_self :
    (directory.openHandle made file).2.handles[
        settings.handle turn index]? = some ⟨file, 0⟩ := by
  rw [← handle_of_next next, openHandle]
  exact Std.ExtTreeMap.getElem?_insert_self

end

theorem Holding.advance (holding : Holding settings turn index directory)
    (handle : Handle) (count : Nat) :
    Holding settings turn index (directory.advance handle count) := by
  rcases holding with ⟨opened, found⟩
  have isOpen := isSome_advance directory handle
    (settings.handle turn index) count
  rw [found] at isOpen
  exact Option.isSome_iff_exists.mp isOpen

/-! ### Handles of other files -/

section

variable {later other : Nat} (inside : index < settings.fileCount)
  (insideToo : other < settings.fileCount) (ne : other ≠ index)

include inside insideToo ne

theorem compare_handle_ne :
    ¬compare (settings.handle turn index) (settings.handle later other) =
      .eq := by
  rw [Std.LawfulEqOrd.compare_eq_iff_eq]
  exact fun same =>
    ne (Settings.eq_of_handle_eq inside insideToo same).symm

theorem handles_openHandle_of_ne {made : Disk} {file : Nat}
    (next : directory.nextHandle = settings.firstHandle turn + index) :
    (directory.openHandle made file).2.handles[
        settings.handle later other]? =
      directory.handles[settings.handle later other]? := by
  rw [openHandle, handle_of_next next, Std.ExtTreeMap.getElem?_insert,
    if_neg (compare_handle_ne inside insideToo ne)]

theorem handles_erase_of_ne :
    (directory.handles.erase (settings.handle turn index))[
        settings.handle later other]? =
      directory.handles[settings.handle later other]? := by
  rw [Std.ExtTreeMap.getElem?_erase,
    if_neg (compare_handle_ne inside insideToo ne)]

theorem handles_advance_of_ne (count : Nat) :
    (directory.advance (settings.handle turn index) count).handles[
        settings.handle later other]? =
      directory.handles[settings.handle later other]? := by
  rw [advance, Std.ExtTreeMap.getElem?_modify,
    if_neg (compare_handle_ne inside insideToo ne)]

end

/-! ### Calls on a name -/

theorem place_ne {other : Nat} (ne : other ≠ index) :
    Place.mk root (settings.path other) ≠
      Place.mk root (settings.path index) := by
  intro same
  exact ne (settings.path_injective (congrArg Place.name same))

theorem within_of_path {request : Call}
    (inside : index < settings.fileCount)
    (taken : request.name? = some (settings.path index)) :
    request.Within settings.names :=
  Call.within_of_name taken (Settings.path_mem_names inside)

/-- A create empties the file or makes it, and opens the next handle on it. -/
theorem create_serves
    (confined : Confined disk root leading settings.names directory)
    (inside : index < settings.fileCount)
    (canHold : disk.CanHold root leading (settings.path index))
    (next : directory.nextHandle = settings.firstHandle turn + index) :
    ∃ later, Serves settings root index directory
        [⟨.create (settings.path index),
          .ok (settings.handle turn index)⟩] later ∧
      later.nextHandle = settings.firstHandle turn + (index + 1) ∧
        AtStart settings root turn [] index later := by
  have member := Settings.path_mem_names inside
  have component := Settings.isComponent_of_mem_names member
  rcases confined.create_of_canHold component member canHold with
    ⟨file, made, makes, answered, left⟩
  rw [handle_of_next next] at answered
  refine ⟨(directory.openHandle made file).2,
    .one (within_of_path inside rfl) answered left ?_,
    nextHandle_openHandle next, file, makes.present,
    handles_openHandle_self next, makes.empty⟩
  intro other insideToo ne
  exact {
    node_eq := makes.node_eq (place_ne ne)
    content_eq := by
      intro found present
      apply makes.content_eq
      rintro rfl
      exact place_ne ne (makes.here present)
    handle_eq := fun _ =>
      handles_openHandle_of_ne inside insideToo ne next }

theorem open_serves
    (confined : Confined disk root leading settings.names directory)
    (inside : index < settings.fileCount)
    (reach : Disk.WithinReach leading (settings.path index))
    (next : directory.nextHandle = settings.firstHandle turn + index)
    {file : Nat}
    (present : directory.nodeOf root (settings.path index) =
      some (.file file)) :
    ∃ later, Serves settings root index directory
        [⟨.openFile (settings.path index),
          .ok (settings.handle turn index)⟩] later ∧
      later.nextHandle = settings.firstHandle turn + (index + 1) ∧
        later.disk = directory.disk ∧
          later.handles[settings.handle turn index]? =
            some ⟨file, 0⟩ := by
  have component := Settings.isComponent_of_mem_names
    (Settings.path_mem_names inside)
  rcases confined.openFile_of_present component reach present with
    ⟨answered, left⟩
  rw [handle_of_next next] at answered
  refine ⟨(directory.openHandle directory.disk file).2,
    .one (within_of_path inside rfl) answered left ?_,
    nextHandle_openHandle next, rfl, handles_openHandle_self next⟩
  intro other insideToo ne
  exact {
    node_eq := rfl
    content_eq := fun _ => rfl
    handle_eq := fun _ =>
      handles_openHandle_of_ne inside insideToo ne next }

theorem delete_serves
    (confined : Confined disk root leading settings.names directory)
    (inside : index < settings.fileCount)
    (reach : Disk.WithinReach leading (settings.path index))
    (linked : Linked settings root index directory) :
    ∃ later, Serves settings root index directory
        [⟨.delete (settings.path index), .ok ()⟩] later ∧
      later.nextHandle = directory.nextHandle ∧
        later.handles = directory.handles ∧
          Missing settings root index later := by
  have component := Settings.isComponent_of_mem_names
    (Settings.path_mem_names inside)
  rcases linked with ⟨file, present⟩
  rcases confined.delete_of_present component reach present with
    ⟨answered, left⟩
  refine ⟨_, .one (within_of_path inside rfl) answered left ?_, rfl, rfl,
    Std.ExtTreeMap.getElem?_erase_self⟩
  intro other insideToo ne
  exact {
    node_eq := Disk.nodes_erase_of_ne _ (place_ne ne)
    content_eq := fun _ => rfl
    handle_eq := fun _ => rfl }

/-! ### Calls on a handle -/

theorem close_serves (inside : index < settings.fileCount)
    (holding : Holding settings turn index directory) :
    ∃ later, Serves settings root index directory
        [⟨.close (settings.handle turn index), .ok ()⟩] later ∧
      later.nextHandle = directory.nextHandle ∧
        later.disk = directory.disk ∧
          LetGo settings turn index later := by
  rcases holding with ⟨opened, found⟩
  have resolved := resolve_eq_ok_iff.mpr found
  refine ⟨{ directory with
      handles := directory.handles.erase (settings.handle turn index) },
    .one (Call.within_close _) ?_ ?_ ?_, rfl, rfl,
    Std.ExtTreeMap.getElem?_erase_self⟩
  · show (directory.close _).answer = _
    rw [close, resolved]
  · show (directory.close _).state = _
    rw [close, resolved]
  · intro other insideToo ne
    exact {
      node_eq := rfl
      content_eq := fun _ => rfl
      handle_eq := fun _ => handles_erase_of_ne inside insideToo ne }

/-- What is written to an empty file at its start is what it holds then. -/
theorem write_serves
    (confined : Confined disk root leading settings.names directory)
    (inside : index < settings.fileCount) {data : Bytes}
    (some_byte : data ≠ [])
    (atStart : AtStart settings root turn [] index directory) :
    ∃ later, Serves settings root index directory
        [⟨.write (settings.handle turn index) data,
          .ok data.length⟩] later ∧
      later.nextHandle = directory.nextHandle ∧
        Holding settings turn index later ∧
          ∃ file, later.nodeOf root (settings.path index) =
              some (.file file) ∧
            later.disk.content file = data := by
  rcases atStart with ⟨file, present, found, empty⟩
  have resolved := resolve_eq_ok_iff.mpr found
  have full : (directory.disk.writeFile file 0 data).content file =
      data := by
    rw [Disk.writeFile, List.isEmpty_eq_false_iff.mpr some_byte]
    show Disk.content { directory.disk with contents := _ } file = data
    rw [Disk.content_insert_self, empty, Bytes.overwrite_nil]
  have unmoved := Disk.nodes_writeFile directory.disk file 0 data
  refine ⟨({ directory with
      disk := directory.disk.writeFile file 0 data }.advance
        (settings.handle turn index) data.length),
    .one (Call.within_write _ _) ?_ ?_ ?_, rfl,
    Holding.advance ⟨_, found⟩ _ _, file, ?_, full⟩
  · show (directory.write _ _).answer = _
    rw [write, resolved]
  · show (directory.write _ _).state = _
    rw [write, resolved]
  · intro other insideToo ne
    exact {
      node_eq := congrArg (·[Place.mk root (settings.path other)]?) unmoved
      content_eq := by
        intro number presentToo
        apply Disk.content_writeFile_of_ne
        rintro rfl
        have own := confined.own (confined.held found present)
        exact place_ne ne (own.single present presentToo)
      handle_eq := fun _ =>
        handles_advance_of_ne inside insideToo ne data.length }
  · rw [← present]
    exact congrArg (·[Place.mk root (settings.path index)]?) unmoved

/-- From its start a file is read to its end. -/
theorem read_serves (inside : index < settings.fileCount) {data : Bytes}
    {length : Nat} (whole : data.length = length)
    (atStart : AtStart settings root turn data index directory) :
    ∃ later, Serves settings root index directory
        [RoundTrip.readWhole (settings.handle turn index) data length
          whole] later ∧
      later.nextHandle = directory.nextHandle ∧
        later.disk = directory.disk ∧
          Holding settings turn index later := by
  rcases atStart with ⟨file, present, found, holds⟩
  have resolved := resolve_eq_ok_iff.mpr found
  have slice : (directory.disk.content file).slice 0
      (Bytes.zeros length).length = data := by
    rw [holds, Bytes.length_zeros, ← whole, Bytes.slice_all]
  have replaced : (Bytes.zeros length).place data = data := by
    rw [Bytes.place, List.drop_of_length_le, List.append_nil]
    rw [Bytes.length_zeros, whole]
  refine ⟨directory.advance (settings.handle turn index) length,
    .one (Call.within_read _ _) ?_ ?_ ?_, rfl, rfl,
    Holding.advance ⟨_, found⟩ _ _⟩
  · show (directory.read _ _).answer = _
    rw [read, resolved]
    dsimp only
    congr 1
    · rw [slice, whole]
    · rw [slice, replaced]
  · show (directory.read _ _).state = _
    rw [read, resolved]
    dsimp only
    rw [slice, whole]
  · intro other insideToo ne
    exact {
      node_eq := rfl
      content_eq := fun _ => rfl
      handle_eq := fun _ =>
        handles_advance_of_ne inside insideToo ne length }

end

end Directory

end FileConformance
