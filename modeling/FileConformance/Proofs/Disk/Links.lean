import FileConformance.Disk.Basic

/-!
# Where names lead

Whoever walks from a directory, name by name, and goes on behind every link by
the names it holds, comes to one goal at most: a directory, a file, or a name
that is free.  The disk finds this goal or gives up, because there are too many
links on the way or a name is too long.

A name in a directory that is no link leads to what is there.  A file is made or
found where a name leads; what is removed is the name itself.
-/

namespace FileConformance

namespace Disk

variable {disk : Disk}

/-- A name that is looked up in a directory, and not walked as it is. -/
structure LookedUp (name : Bytes) : Prop where
  some_byte : name ≠ Location.nothing
  notSelf : name ≠ selfName
  notParent : name ≠ parentName

/-- What a name denotes in a directory, if it denotes anything. -/
def look (disk : Disk) (directory : Nat) (name : Bytes) : Option Node :=
  if name = Location.nothing ∨ name = selfName then
    some (.directory directory)
  else if name = parentName then some (.directory (disk.above directory))
  else disk.nodes[Place.mk directory name]?

theorem look_eq {directory : Nat} {name : Bytes}
    (lookedUp : LookedUp name) :
    disk.look directory name = disk.nodes[Place.mk directory name]? := by
  rw [look, if_neg, if_neg lookedUp.notParent]
  rintro (same | same)
  · exact lookedUp.some_byte same
  · exact lookedUp.notSelf same

/-- What is looked up as no directory has a name at a place. -/
theorem nodes_eq_of_look {directory : Nat} {name : Bytes}
    {node : Option Node}
    (found : disk.look directory name = node)
    (other : ∀ number, node ≠ some (.directory number)) :
    disk.nodes[Place.mk directory name]? = node := by
  unfold look at found
  split at found
  · exact absurd found.symm (other _)
  · split at found
    · exact absurd found.symm (other _)
    · exact found

/-- Where names lead from a directory, behind all links. -/
inductive Leads (disk : Disk) : Nat → List Bytes → Goal → Prop where
  | arrived {directory : Nat} :
      Leads disk directory [] (.directory directory)
  | down {directory next : Nat} {name : Bytes} {rest : List Bytes}
      {goal : Goal}
      (found : disk.look directory name = some (.directory next))
      (onward : Leads disk next rest goal) :
      Leads disk directory (name :: rest) goal
  | through {directory : Nat} {name target : Bytes} {rest : List Bytes}
      {goal : Goal} (found : disk.look directory name = some (.link target))
      (onward : Leads disk ((Location.ofBytes target).origin directory)
        ((Location.ofBytes target).way ++ rest) goal) :
      Leads disk directory (name :: rest) goal
  | file {directory number : Nat} {name : Bytes}
      (found : disk.look directory name = some (.file number)) :
      Leads disk directory [name] (.file number)
  | missing {directory : Nat} {name : Bytes}
      (free : disk.look directory name = none) :
      Leads disk directory [name] (.missing ⟨directory, name⟩)

namespace Leads

variable {directory : Nat} {name : Bytes} {names : List Bytes}
  {goal other : Goal}

/-- Names lead to one goal at most. -/
theorem unique (leads : disk.Leads directory names goal)
    (leadsToo : disk.Leads directory names other) : other = goal := by
  induction leads with
  | arrived =>
      cases leadsToo
      rfl
  | down found _ ih =>
      cases leadsToo with
      | down foundToo onward =>
          cases found.symm.trans foundToo
          exact ih onward
      | through foundToo | file foundToo | missing foundToo =>
          cases found.symm.trans foundToo
  | through found _ ih =>
      cases leadsToo with
      | through foundToo onward =>
          cases found.symm.trans foundToo
          exact ih onward
      | down foundToo | file foundToo | missing foundToo =>
          cases found.symm.trans foundToo
  | file found =>
      cases leadsToo with
      | file foundToo =>
          cases found.symm.trans foundToo
          rfl
      | down foundToo | through foundToo | missing foundToo =>
          cases found.symm.trans foundToo
  | missing free =>
      cases leadsToo with
      | missing => rfl
      | down found | through found | file found =>
          cases free.symm.trans found

/-- Nothing is at a place that is led to as free. -/
theorem free {place : Place}
    (leads : disk.Leads directory names (.missing place)) :
    disk.nodes[place]? = none := by
  generalize same : Goal.missing place = goal at leads
  induction leads with
  | arrived | file => cases same
  | down _ _ ih | through _ _ ih => exact ih same
  | missing free =>
      cases same
      exact nodes_eq_of_look free nofun

/-- A file that is led to has a name. -/
theorem named {file : Nat}
    (leads : disk.Leads directory names (.file file)) :
    ∃ place : Place, disk.nodes[place]? = some (.file file) := by
  generalize same : Goal.file file = goal at leads
  induction leads with
  | arrived | missing => cases same
  | down _ _ ih | through _ _ ih => exact ih same
  | file found =>
      cases same
      exact ⟨_, nodes_eq_of_look found nofun⟩

end Leads

/-! ## What the disk finds -/

variable {making : Bool} {directory : Nat} {names : List Bytes}
  {goal : Goal}

theorem walk_leads
    {onward : Nat → List Bytes → Except SystemError Goal}
    (further : ∀ {directory : Nat} {names : List Bytes},
      onward directory names = .ok goal → disk.Leads directory names goal)
    (walked : disk.walk making onward directory names = .ok goal) :
    disk.Leads directory names goal := by
  induction names generalizing directory with
  | nil =>
      cases walked
      exact .arrived
  | cons name rest ih =>
      rw [walk] at walked
      split at walked
      · rename_i here
        exact .down (if_pos here) (ih walked)
      rename_i notHere
      split at walked
      · rename_i up
        exact .down ((if_neg notHere).trans (if_pos up)) (ih walked)
      rename_i notUp
      split at walked
      · cases walked
      split at walked
      · cases walked
      have looked : disk.look directory name =
          disk.nodes[Place.mk directory name]? :=
        (if_neg notHere).trans (if_neg notUp)
      split at walked
      · rename_i found
        exact .down (looked.trans found) (ih walked)
      · rename_i found
        exact .through (looked.trans found) (further walked)
      · rename_i found
        split at walked
        · rename_i last
          cases walked
          cases List.isEmpty_iff.mp last
          exact .file (looked.trans found)
        · cases walked
      · rename_i free
        split at walked
        · rename_i last
          cases walked
          cases List.isEmpty_iff.mp last
          exact .missing (looked.trans free)
        · cases walked

/-- What the disk finds behind links is where the names lead. -/
theorem chase_leads {links : Nat}
    (chased : disk.chase making links directory names = .ok goal) :
    disk.Leads directory names goal := by
  induction links generalizing directory names with
  | zero => exact walk_leads (fun none => by cases none) chased
  | succ links ih => exact walk_leads ih chased

theorem goal_leads {name : Bytes} (lookedUp : LookedUp name)
    (found : disk.goal making ⟨directory, name⟩ = .ok goal) :
    disk.Leads directory [name] goal := by
  have looked : disk.look directory name =
      disk.nodes[Place.mk directory name]? := look_eq lookedUp
  unfold Disk.goal at found
  split at found
  · rename_i present
    cases found
    exact .down (looked.trans present) .arrived
  · rename_i present
    cases found
    exact .file (looked.trans present)
  · rename_i target present
    refine .through (looked.trans present) ?_
    rw [List.append_nil]
    exact chase_leads found
  · rename_i free
    cases found
    exact .missing (looked.trans free)

/-! ## Places that are no links -/

variable {place : Place}

theorem goal_of_file {file : Nat}
    (present : disk.nodes[place]? = some (.file file)) :
    disk.goal making place = .ok (.file file) := by
  rw [goal, present]

theorem goal_of_directory {number : Nat}
    (present : disk.nodes[place]? = some (.directory number)) :
    disk.goal making place = .ok (.directory number) := by
  rw [goal, present]

theorem goal_of_missing (free : disk.nodes[place]? = none) :
    disk.goal making place = .ok (.missing place) := by
  rw [goal, free]

/-! ## Operations -/

theorem createFile_eq_ok_iff {file : Nat} {made : Disk} :
    disk.createFile place = .ok (file, made) ↔
      ∃ goal, disk.goal true place = .ok goal ∧
        disk.makeFile goal = .ok (file, made) := by
  unfold createFile
  cases disk.goal true place with
  | error reason => exact iff_of_false nofun nofun
  | ok goal =>
      constructor
      · exact fun made => ⟨goal, rfl, made⟩
      · rintro ⟨_, ⟨⟩, made⟩
        exact made

theorem openFile_eq_ok_iff {file : Nat} :
    disk.openFile place = .ok file ↔
      disk.goal false place = .ok (.file file) := by
  unfold openFile
  cases disk.goal false place with
  | error reason => exact iff_of_false nofun nofun
  | ok goal =>
      cases goal with
      | directory number => exact iff_of_false nofun nofun
      | file number =>
          constructor
          · rintro ⟨⟩
            rfl
          · rintro ⟨⟩
            rfl
      | missing free => exact iff_of_false nofun nofun

theorem removeFile_eq_ok_iff {left : Disk} :
    disk.removeFile place = .ok left ↔
      (∃ node, disk.nodes[place]? = some node ∧
        ∀ number, node ≠ .directory number) ∧
        left = { disk with nodes := disk.nodes.erase place } := by
  unfold removeFile
  split
  · rename_i occupied
    rw [occupied]
    refine iff_of_false nofun ?_
    rintro ⟨⟨_, ⟨⟩, other⟩, _⟩
    exact other _ rfl
  · rename_i node other present
    rw [present, Except.ok.injEq, eq_comm]
    refine (and_iff_right ⟨node, rfl, ?_⟩).symm
    rintro number rfl
    exact other number rfl
  · rename_i missing
    rw [missing]
    exact iff_of_false nofun nofun

end Disk

end FileConformance
