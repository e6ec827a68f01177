import FileConformance.Proofs.Directory.Handles
import FileConformance.Proofs.Directory.Reach
import FileConformance.Proofs.Procedure.Leads
import FileConformance.Proofs.Scenario.Scope

/-!
# What calls on a directory leave alone

Calls that take some names only can change nothing on the disk but the files
that the directory has under those of these names that are within reach: every
other file stays where it is and keeps its content, and no directory comes or
goes.

What has such a name must be there by itself: a link would lead the calls
somewhere else, and a file with another name would change under that as well.
For handles that is an invariant of its own.  A write goes to a file and not to
a name, so a handle must not be open on a file that has a name out of scope.

Since directories stay where they are, it is known from the start which names
will be refused, and that no call changes that.
-/

namespace FileConformance

/-! ## What calls within some names keep -/

namespace Directory

/-- A place directly in the root, under one of some names within reach. -/
structure InScope (root leading : Nat) (names : List Bytes)
    (place : Place) : Prop where
  directory_eq : place.directory = root
  name_mem : place.name ∈ names
  reach : Disk.WithinReach leading place.name

/--
A directory is confined if it differs from a disk by nothing but the files in
scope.
-/
structure Confined (disk : Disk) (root leading : Nat)
    (names : List Bytes) (directory : Directory) : Prop where
  root_eq : directory.root = .ok root
  leading_eq : directory.leading = leading
  tree : directory.disk.Tree
  own : ∀ {place : Place}, InScope root leading names place →
    directory.disk.Own place
  directory_iff : ∀ {place : Place} {number : Nat},
    directory.disk.nodes[place]? = some (.directory number) ↔
      disk.nodes[place]? = some (.directory number)
  node_eq : ∀ {place : Place}, ¬InScope root leading names place →
    directory.disk.nodes[place]? = disk.nodes[place]?
  content_eq : ∀ {place : Place} {file : Nat},
    ¬InScope root leading names place →
      disk.nodes[place]? = some (.file file) →
        directory.disk.content file = disk.content file
  /-- Nobody holds a file that has a name out of scope. -/
  held : ∀ {handle : Handle} {opened : OpenFile} {place : Place},
    directory.handles[handle]? = some opened →
      directory.disk.nodes[place]? = some (.file opened.file) →
        InScope root leading names place

namespace Confined

variable {disk : Disk} {root leading : Nat} {names : List Bytes}
  {directory : Directory} {name : Bytes} {handle : Handle}

theorem fresh (tree : disk.Tree) (leading : Nat)
    (own : ∀ name ∈ names, disk.Own ⟨root, name⟩) :
    Confined disk root leading names
      (Directory.fresh disk (.ok root) leading) where
  root_eq := rfl
  leading_eq := rfl
  tree := tree
  own := by
    rintro ⟨inRoot, name⟩ ⟨rfl, member, _⟩
    exact own name member
  directory_iff := Iff.rfl
  node_eq := fun _ => rfl
  content_eq := fun _ _ => rfl
  held := by simp [Directory.fresh]

/-- Directories are where they were, and so is the room for files. -/
theorem canHold_iff (confined : Confined disk root leading names directory) :
    directory.disk.CanHold root leading name ↔
      disk.CanHold root leading name := by
  constructor
  · rintro ⟨reach, free⟩
    exact ⟨reach, fun number occupied =>
      free number (confined.directory_iff.mpr occupied)⟩
  · rintro ⟨reach, free⟩
    exact ⟨reach, fun number occupied =>
      free number (confined.directory_iff.mp occupied)⟩

theorem inScope_of_reach
    (confined : Confined disk root leading names directory)
    (member : name ∈ names)
    (reach : Disk.WithinReach directory.leading name) :
    InScope root leading names ⟨root, name⟩ :=
  ⟨rfl, member, confined.leading_eq ▸ reach⟩

/-! ### Handles -/

/-- Handles come to be open on files only that others were open on. -/
theorem withHandles (confined : Confined disk root leading names directory)
    {handles : Std.ExtTreeMap Handle OpenFile compare}
    (open_before : ∀ {handle : Handle} {opened : OpenFile},
      handles[handle]? = some opened →
        ∃ (other : Handle) (before : OpenFile),
          directory.handles[other]? = some before ∧
            before.file = opened.file) :
    Confined disk root leading names { directory with handles } :=
  { confined with
    held := by
      intro handle opened place found present
      rcases open_before found with ⟨other, before, foundBefore, same⟩
      exact confined.held foundBefore (same ▸ present) }

theorem advance (confined : Confined disk root leading names directory)
    (handle : Handle) (count : Nat) :
    Confined disk root leading names (directory.advance handle count) := by
  refine confined.withHandles ?_
  intro other opened found
  rw [Std.ExtTreeMap.getElem?_modify] at found
  split at found
  · rcases Option.map_eq_some_iff.mp found with ⟨before, present, rfl⟩
    exact ⟨handle, before, present, rfl⟩
  · exact ⟨other, opened, found, rfl⟩

theorem close (confined : Confined disk root leading names directory)
    (handle : Handle) :
    Confined disk root leading names (directory.close handle).state := by
  unfold Directory.close
  split
  · exact confined
  · refine confined.withHandles ?_
    intro other opened found
    rw [Std.ExtTreeMap.getElem?_erase] at found
    split at found
    · cases found
    · exact ⟨other, opened, found, rfl⟩

theorem read (confined : Confined disk root leading names directory)
    (handle : Handle) (buffer : Bytes) :
    Confined disk root leading names
      (directory.read handle buffer).state := by
  unfold Directory.read
  split
  · exact confined
  · exact confined.advance handle _

theorem write (confined : Confined disk root leading names directory)
    (handle : Handle) (data : Bytes) :
    Confined disk root leading names
      (directory.write handle data).state := by
  unfold Directory.write
  split
  · exact confined
  · rename_i opened resolved
    have found := Directory.resolve_eq_ok_iff.mp resolved
    refine advance ?_ handle data.length
    -- The file that is written to has no name out of scope.
    exact {
      root_eq := confined.root_eq
      leading_eq := confined.leading_eq
      tree := confined.tree.writeFile _ _ _
      own := by
        intro place inside
        have own := confined.own inside
        constructor
        · rw [Disk.nodes_writeFile]
          exact own.unlinked
        · rw [Disk.nodes_writeFile]
          exact own.single
      directory_iff := by
        rw [Disk.nodes_writeFile]
        exact confined.directory_iff
      node_eq := by
        rw [Disk.nodes_writeFile]
        exact confined.node_eq
      content_eq := by
        intro place file foreign present
        have unmoved := confined.node_eq foreign
        rw [Disk.content_writeFile_of_ne]
        · exact confined.content_eq foreign present
        · rintro rfl
          exact foreign (confined.held found (unmoved.trans present))
      held := by
        rw [Disk.nodes_writeFile]
        exact confined.held }

/-! ### Names -/

theorem openHandle {made : Disk} {file : Nat}
    (confined : Confined disk root leading names
      { directory with disk := made })
    (here : ∀ {place : Place}, made.nodes[place]? = some (.file file) →
      InScope root leading names place) :
    Confined disk root leading names (directory.openHandle made file).2 :=
  { confined with
    held := by
      intro handle opened place found present
      rw [Directory.openHandle, Std.ExtTreeMap.getElem?_insert] at found
      split at found
      · cases found
        exact here present
      · exact confined.held found present }

theorem create (confined : Confined disk root leading names directory)
    (member : name ∈ names) :
    Confined disk root leading names (directory.create name).state := by
  unfold Directory.create
  split
  · exact confined
  · rename_i file made success
    rcases (Directory.makeFile_eq_ok_iff confined.root_eq).mp success with
      ⟨_, reach, created⟩
    have inside := confined.inScope_of_reach member reach
    have makes := Disk.createFile_makes confined.tree.toNumbered
      (confined.own inside) created
    have elsewhere : ∀ {place : Place},
        ¬InScope root leading names place → place ≠ ⟨root, name⟩ := by
      rintro place foreign rfl
      exact foreign inside
    have here : ∀ {place : Place},
        made.nodes[place]? = some (.file file) → place = ⟨root, name⟩ := by
      intro place present
      by_contra ne
      rw [makes.node_eq ne] at present
      exact ne (makes.here present)
    refine openHandle ?_ fun present => here present ▸ inside
    exact {
      root_eq := confined.root_eq
      leading_eq := confined.leading_eq
      tree := confined.tree.createFile created
      own := fun scope => makes.own (confined.own scope)
      directory_iff := by
        intro place number
        rw [← confined.directory_iff]
        by_cases same : place = ⟨root, name⟩
        · subst same
          rw [makes.present]
          exact iff_of_false nofun (makes.free number)
        · rw [makes.node_eq same]
      node_eq := by
        intro place foreign
        rw [makes.node_eq (elsewhere foreign)]
        exact confined.node_eq foreign
      content_eq := by
        intro place other foreign present
        rw [makes.content_eq]
        · exact confined.content_eq foreign present
        · rintro rfl
          have unmoved := confined.node_eq foreign
          exact elsewhere foreign (makes.here (unmoved.trans present))
      held := by
        intro handle opened place found present
        by_cases same : place = ⟨root, name⟩
        · exact same ▸ inside
        · rw [makes.node_eq same] at present
          exact confined.held found present }

theorem openFile (confined : Confined disk root leading names directory)
    (member : name ∈ names) :
    Confined disk root leading names (directory.openFile name).state := by
  unfold Directory.openFile
  split
  · exact confined
  · rename_i file success
    rcases (Directory.findFile_eq_ok_iff confined.root_eq).mp success with
      ⟨_, reach, opened⟩
    have inside := confined.inScope_of_reach member reach
    have own := confined.own inside
    refine openHandle confined ?_
    intro place present
    rw [own.single ((Disk.openFile_of_unlinked own.unlinked).mp opened)
      present]
    exact inside

theorem delete (confined : Confined disk root leading names directory)
    (member : name ∈ names) :
    Confined disk root leading names (directory.delete name).state := by
  unfold Directory.delete
  split
  · exact confined
  · rename_i left success
    rcases (Directory.takeFile_eq_ok_iff confined.root_eq).mp success with
      ⟨_, reach, removed⟩
    have inside := confined.inScope_of_reach member reach
    have tree := confined.tree.removeFile removed
    rcases Disk.removeFile_eq_ok_iff.mp removed with
      ⟨⟨node, present, other⟩, rfl⟩
    exact {
      root_eq := confined.root_eq
      leading_eq := confined.leading_eq
      tree
      own := fun scope => (confined.own scope).erase _
      directory_iff := by
        intro place number
        rw [← confined.directory_iff]
        by_cases same : place = ⟨root, name⟩
        · subst same
          rw [present, Std.ExtTreeMap.getElem?_erase_self]
          refine iff_of_false nofun ?_
          rintro ⟨⟩
          exact other number rfl
        · rw [Disk.nodes_erase_of_ne _ same]
      node_eq := by
        intro place foreign
        rw [Disk.nodes_erase_of_ne]
        · exact confined.node_eq foreign
        · rintro rfl
          exact foreign inside
      content_eq := confined.content_eq
      held := by
        intro handle opened place found there
        rw [Std.ExtTreeMap.getElem?_erase] at there
        split at there
        · cases there
        · exact confined.held found there }

/-- A call that takes these names only keeps a directory confined. -/
theorem respond (confined : Confined disk root leading names directory)
    {request : Call} (within : request.Within names) :
    Confined disk root leading names
      (Directory.subsystem.respond request directory).state := by
  cases request with
  | create name => exact confined.create (within.name_mem name rfl)
  | openFile name => exact confined.openFile (within.name_mem name rfl)
  | close handle => exact confined.close handle
  | read handle buffer => exact confined.read handle buffer
  | write handle data => exact confined.write handle data
  | delete name => exact confined.delete (within.name_mem name rfl)
  | exit code => exact absurd rfl within.returns

/-! ### Which calls on names succeed -/

variable (confined : Confined disk root leading names directory)
  (component : Directory.isComponent name = true)

include confined component

theorem create_of_canHold (member : name ∈ names)
    (canHold : disk.CanHold root leading name) :
    ∃ file made, directory.disk.Makes ⟨root, name⟩ file made ∧
      (directory.create name).answer = .ok ⟨directory.nextHandle⟩ ∧
        (directory.create name).state =
          (directory.openHandle made file).2 := by
  have own : directory.disk.Own ⟨root, name⟩ :=
    confined.own ⟨rfl, member, canHold.reach⟩
  rcases Disk.exists_createFile own
    (confined.canHold_iff.mpr canHold).free with ⟨file, made, created⟩
  have success : directory.makeFile name = .ok (file, made) :=
    (Directory.makeFile_eq_ok_iff confined.root_eq).mpr
      ⟨component, confined.leading_eq ▸ canHold.reach, created⟩
  have makes := Disk.createFile_makes confined.tree.toNumbered own created
  refine ⟨file, made, makes, ?_, ?_⟩
  · rw [Directory.create, success]
    rfl
  · rw [Directory.create, success]

variable (reach : Disk.WithinReach leading name)

include reach

theorem locate_of_reach : directory.locate name = .ok ⟨root, name⟩ :=
  (Directory.locate_eq_ok_iff confined.root_eq).mpr
    ⟨component, confined.leading_eq ▸ reach, rfl⟩

theorem openFile_of_present {file : Nat}
    (present : directory.disk.nodes[Place.mk root name]? =
      some (.file file)) :
    (directory.openFile name).answer = .ok ⟨directory.nextHandle⟩ ∧
      (directory.openFile name).state =
        (directory.openHandle directory.disk file).2 := by
  have success : directory.findFile name = .ok file :=
    (Directory.findFile_eq_ok_iff confined.root_eq).mpr
      ⟨component, confined.leading_eq ▸ reach,
        Disk.openFile_eq_ok_iff.mpr (Disk.goal_of_file present)⟩
  rw [Directory.openFile, success]
  exact ⟨rfl, rfl⟩

theorem openFile_of_absent
    (absent : directory.disk.nodes[Place.mk root name]? = none) :
    directory.openFile name = directory.refuse .notFound := by
  have failed : directory.findFile name = .error .notFound := by
    rw [Directory.findFile, confined.locate_of_reach component reach]
    show (directory.disk.openFile ⟨root, name⟩).mapError _ = _
    rw [Disk.openFile, Disk.goal_of_missing absent]
    rfl
  rw [Directory.openFile, failed]

theorem delete_of_present {file : Nat}
    (present : directory.disk.nodes[Place.mk root name]? =
      some (.file file)) :
    (directory.delete name).answer = .ok () ∧
      (directory.delete name).state = { directory with
        disk := { directory.disk with
          nodes := directory.disk.nodes.erase ⟨root, name⟩ } } := by
  have success := (Directory.takeFile_eq_ok_iff confined.root_eq).mpr
    ⟨component, confined.leading_eq ▸ reach,
      Disk.removeFile_eq_ok_iff.mpr ⟨⟨_, present, nofun⟩, rfl⟩⟩
  rw [Directory.delete, success]
  exact ⟨rfl, rfl⟩

end Confined

variable {root : Nat} {name : Bytes}

/--
A name that the directory cannot have for a file is refused by all calls, and
always for the same reason.
-/
theorem exists_refusal {disk : Disk} {leading : Nat}
    (component : isComponent name = true)
    (cannot : ¬disk.CanHold root leading name) :
    ∃ reason, ∀ {names : List Bytes} {directory : Directory},
      Confined disk root leading names directory →
        directory.create name = directory.refuse reason ∧
          directory.openFile name = directory.refuse reason ∧
            directory.delete name = directory.refuse reason := by
  by_cases reach : Disk.WithinReach leading name
  · have occupied : ∃ number,
        disk.nodes[Place.mk root name]? = some (.directory number) := by
      by_contra free
      exact cannot ⟨reach, not_exists.mp free⟩
    rcases occupied with ⟨number, before⟩
    refine ⟨CallError.ofSystem .isDirectory, ?_⟩
    intro names directory confined
    have located := confined.locate_of_reach component reach
    have there := confined.directory_iff.mpr before
    have failed : ∀ {Value : Type}
        {operation : Place → Except SystemError Value},
        operation ⟨root, name⟩ = .error .isDirectory →
          (directory.locate name >>= fun place =>
              (operation place).mapError CallError.ofSystem) =
            .error (CallError.ofSystem .isDirectory) := by
      intro Value operation refused
      rw [located]
      show (operation ⟨root, name⟩).mapError _ = _
      rw [refused]
      rfl
    have notMade : directory.makeFile name = .error _ :=
      failed (by rw [Disk.createFile, Disk.goal_of_directory there]; rfl)
    have notFound : directory.findFile name = .error _ :=
      failed (by rw [Disk.openFile, Disk.goal_of_directory there]; rfl)
    have notTaken : directory.takeFile name = .error _ :=
      failed (by rw [Disk.removeFile, there])
    refine ⟨?_, ?_, ?_⟩
    · rw [create, notMade]
    · rw [openFile, notFound]
    · rw [delete, notTaken]
  · refine ⟨CallError.ofSystem .nameTooLong, ?_⟩
    intro names directory confined
    have refused := locate_of_outOfReach confined.root_eq component
      (confined.leading_eq ▸ reach)
    exact ⟨create_of_refused refused, openFile_of_refused refused,
      delete_of_refused refused⟩

end Directory

end FileConformance
