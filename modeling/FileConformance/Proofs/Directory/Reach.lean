import FileConformance.Proofs.Directory.Hosting
import FileConformance.Proofs.Disk.Changes

/-!
# Which names a directory can have for files

The operating system refuses a name that is too long, or that makes the path too
long, and it never makes a file where a directory is.  All other names are
looked up directly in the root, and a call on such a name does what the disk
does at that place.
-/

namespace FileConformance

namespace Disk

/-- Neither the name nor the path to it is too long for the system. -/
def WithinReach (leading : Nat) (name : Bytes) : Prop :=
  name.length ≤ longestName ∧ leading + name.length ≤ longestPath

instance (leading : Nat) (name : Bytes) :
    Decidable (WithinReach leading name) :=
  inferInstanceAs (Decidable (_ ∧ _))

/-- A directory can have a file of that name. -/
structure CanHold (disk : Disk) (root leading : Nat) (name : Bytes) :
    Prop where
  reach : WithinReach leading name
  /-- No directory has the name. -/
  free : ∀ number,
    disk.nodes[Place.mk root name]? ≠ some (.directory number)

end Disk

namespace Directory

variable {directory : Directory} {root : Nat} {name : Bytes}

/-! ## Which calls on names succeed -/

theorem locate_eq_ok_iff (root_eq : directory.root = .ok root)
    {place : Place} :
    directory.locate name = .ok place ↔
      isComponent name = true ∧
        Disk.WithinReach directory.leading name ∧
          place = ⟨root, name⟩ := by
  have placed : directory.place name = .ok place ↔
      Disk.WithinReach directory.leading name ∧ place = ⟨root, name⟩ := by
    unfold Directory.place
    split
    · rename_i long
      exact iff_of_false (by rintro ⟨⟩) fun reach =>
        absurd reach.1.2 (Nat.not_le.mpr long)
    · rename_i short
      rw [root_eq]
      show directory.disk.locate root [] name = .ok place ↔ _
      rw [Disk.locate, Disk.enter]
      show (if Disk.longestName < name.length
        then Except.error SystemError.nameTooLong
        else Except.ok (Place.mk root name)) = .ok place ↔ _
      split
      · rename_i long
        exact iff_of_false (by rintro ⟨⟩) fun reach =>
          absurd reach.1.1 (Nat.not_le.mpr long)
      · rename_i fits
        rw [Except.ok.injEq, eq_comm]
        exact (and_iff_right ⟨Nat.not_lt.mp fits, Nat.not_lt.mp short⟩).symm
  unfold locate
  split
  · rename_i component
    rw [and_iff_right component, ← placed]
    cases directory.place name with
    | error reason => exact iff_of_false (by rintro ⟨⟩) (by rintro ⟨⟩)
    | ok found => rw [Except.mapError, Except.ok.injEq, Except.ok.injEq]
  · rename_i other
    exact iff_of_false (by rintro ⟨⟩) fun located => other located.1

/-- A name or a path that is too long is refused as such. -/
theorem locate_of_outOfReach (root_eq : directory.root = .ok root)
    (component : isComponent name = true)
    (far : ¬Disk.WithinReach directory.leading name) :
    directory.locate name =
      .error (CallError.ofSystem SystemError.nameTooLong) := by
  have refused : directory.place name = .error .nameTooLong := by
    unfold place
    split
    · rfl
    · rename_i short
      have long : Disk.longestName < name.length := by
        by_contra fits
        exact far ⟨Nat.not_lt.mp fits, Nat.not_lt.mp short⟩
      rw [root_eq]
      show directory.disk.locate root [] name = _
      rw [Disk.locate, Disk.enter]
      exact if_pos long
  rw [locate, if_pos component, refused]
  rfl

/-- An operation at the place of a name succeeds if it does so there. -/
theorem atPlace_eq_ok_iff (root_eq : directory.root = .ok root)
    {Value : Type} {operation : Place → Except SystemError Value}
    {value : Value} :
    (directory.locate name >>= fun place =>
        (operation place).mapError CallError.ofSystem) = .ok value ↔
      isComponent name = true ∧ Disk.WithinReach directory.leading name ∧
        operation ⟨root, name⟩ = .ok value := by
  have mapped : ∀ {outcome : Except SystemError Value},
      outcome.mapError CallError.ofSystem = .ok value ↔
        outcome = .ok value := by
    intro outcome
    cases outcome with
    | error reason => exact iff_of_false nofun nofun
    | ok found => rw [Except.mapError, Except.ok.injEq, Except.ok.injEq]
  cases located : directory.locate name with
  | error reason =>
      refine iff_of_false nofun ?_
      rintro ⟨component, reach, _⟩
      rw [(locate_eq_ok_iff root_eq).mpr ⟨component, reach, rfl⟩] at located
      cases located
  | ok place =>
      rcases (locate_eq_ok_iff root_eq).mp located with
        ⟨component, reach, rfl⟩
      rw [and_iff_right component, and_iff_right reach]
      exact mapped

theorem makeFile_eq_ok_iff (root_eq : directory.root = .ok root)
    {file : Nat} {made : Disk} :
    directory.makeFile name = .ok (file, made) ↔
      isComponent name = true ∧ Disk.WithinReach directory.leading name ∧
        directory.disk.createFile ⟨root, name⟩ = .ok (file, made) :=
  atPlace_eq_ok_iff root_eq

theorem findFile_eq_ok_iff (root_eq : directory.root = .ok root)
    {file : Nat} :
    directory.findFile name = .ok file ↔
      isComponent name = true ∧ Disk.WithinReach directory.leading name ∧
        directory.disk.openFile ⟨root, name⟩ = .ok file :=
  atPlace_eq_ok_iff root_eq

theorem takeFile_eq_ok_iff (root_eq : directory.root = .ok root)
    {left : Disk} :
    directory.takeFile name = .ok left ↔
      isComponent name = true ∧ Disk.WithinReach directory.leading name ∧
        directory.disk.removeFile ⟨root, name⟩ = .ok left :=
  atPlace_eq_ok_iff root_eq

end Directory

/-! ## Operations of the disk -/

namespace Disk

variable {disk : Disk} {place : Place}

/-- What has become of a disk after a file was made, or an old one emptied. -/
structure Makes (disk : Disk) (place : Place) (file : Nat) (made : Disk) :
    Prop where
  /-- No directory was in the way. -/
  free : ∀ number, disk.nodes[place]? ≠ some (.directory number)
  present : made.nodes[place]? = some (.file file)
  empty : made.content file = []
  node_eq : ∀ {other : Place}, other ≠ place →
    made.nodes[other]? = disk.nodes[other]?
  content_eq : ∀ {other : Nat}, other ≠ file →
    made.content other = disk.content other
  /-- The file was here before or is new. -/
  here : ∀ {other : Place},
    disk.nodes[other]? = some (.file file) → other = place

/-- At a place of its own a file is made just there. -/
theorem createFile_makes (numbered : disk.Numbered) (own : disk.Own place)
    {file : Nat} {made : Disk}
    (created : disk.createFile place = .ok (file, made)) :
    disk.Makes place file made := by
  rcases createFile_eq_ok_iff.mp created with ⟨goal, led, done⟩
  cases present : disk.nodes[place]? with
  | none =>
      cases (goal_of_missing present).symm.trans led
      rcases makeFile_adds numbered present done with ⟨adds, rfl⟩
      exact {
        free := by
          rw [present]
          nofun
        present := adds.present
        empty := adds.empty
        node_eq := adds.node_eq
        content_eq := adds.content_eq
        here := fun found => absurd found adds.unused }
  | some node =>
      cases node with
      | directory number =>
          cases (goal_of_directory present).symm.trans led
          cases done
      | link target => exact absurd present (own.unlinked target)
      | file number =>
          cases (goal_of_file present).symm.trans led
          rcases makeFile_empties done with ⟨empties, rfl⟩
          exact {
            free := by
              rw [present]
              nofun
            present := empties.nodes_eq ▸ present
            empty := empties.empty
            node_eq := fun _ => by rw [empties.nodes_eq]
            content_eq := empties.content_eq
            here := own.single present }

/-- A file that was made is there by itself, like those beside it. -/
theorem Makes.own {file : Nat} {made : Disk} {other : Place}
    (makes : disk.Makes place file made) (own : disk.Own other) :
    made.Own other where
  unlinked := by
    intro target found
    by_cases same : other = place
    · rw [same, makes.present] at found
      cases found
    · rw [makes.node_eq same] at found
      exact own.unlinked target found
  single := by
    intro another number found foundToo
    by_cases same : other = place
    · subst same
      cases makes.present.symm.trans found
      by_contra ne
      rw [makes.node_eq ne] at foundToo
      exact ne (makes.here foundToo)
    · rw [makes.node_eq same] at found
      by_cases sameToo : another = place
      · subst sameToo
        cases makes.present.symm.trans foundToo
        exact absurd (makes.here found) same
      · rw [makes.node_eq sameToo] at foundToo
        exact own.single found foundToo

theorem exists_createFile (own : disk.Own place)
    (free : ∀ number, disk.nodes[place]? ≠ some (.directory number)) :
    ∃ file made, disk.createFile place = .ok (file, made) := by
  cases present : disk.nodes[place]? with
  | none =>
      exact ⟨_, _, createFile_eq_ok_iff.mpr
        ⟨_, goal_of_missing present, rfl⟩⟩
  | some node =>
      cases node with
      | directory number => exact absurd present (free number)
      | link target => exact absurd present (own.unlinked target)
      | file number =>
          exact ⟨_, _, createFile_eq_ok_iff.mpr
            ⟨_, goal_of_file present, rfl⟩⟩

/-- A file is opened at a place if it is there, and no link leads on. -/
theorem openFile_of_unlinked
    (unlinked : ∀ target, disk.nodes[place]? ≠ some (.link target))
    {file : Nat} :
    disk.openFile place = .ok file ↔
      disk.nodes[place]? = some (.file file) := by
  rw [openFile_eq_ok_iff]
  cases present : disk.nodes[place]? with
  | none =>
      rw [goal_of_missing present]
      exact iff_of_false nofun nofun
  | some node =>
      cases node with
      | directory number =>
          rw [goal_of_directory present]
          exact iff_of_false nofun nofun
      | link target => exact absurd present (unlinked target)
      | file number =>
          rw [goal_of_file present, Except.ok.injEq, Goal.file.injEq,
            Option.some.injEq, Node.file.injEq]

end Disk

end FileConformance
