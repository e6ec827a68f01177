import FileConformance.Proofs.Directory.Confinement
import FileConformance.Proofs.Directory.Hosting
import FileConformance.Proofs.Ideal.Steps
import FileConformance.Proofs.Scenario.Clearing
import FileConformance.Proofs.Table.Numbering

/-!
# What remains in a directory

A name that was deleted and not created again denotes no file, since only a
create makes one.  Where that holds of all names that were taken, what is left
of a confined directory is the disk it began with, without the files under those
names.
-/

namespace FileConformance

/-! ## The names of a scenario -/

namespace Settings

theorem paths_table (settings : Settings) :
    settings.table.paths =
      (List.range settings.fileCount).map settings.path := by
  rw [Table.paths, table, Table.numbered, List.map_map]
  rfl

theorem mem_names_iff {settings : Settings} {name : Bytes} :
    name ∈ settings.names ↔
      (∃ index < settings.fileCount, settings.path index = name) ∨
        name = settings.nameLimit.longestAccepted ∨
          name = settings.nameLimit.shortestRejected := by
  rw [names, List.mem_append, paths_table, List.mem_map,
    NameLimit.probed, List.mem_pair]
  simp only [List.mem_range]

theorem longestAccepted_mem_names (settings : Settings) :
    settings.nameLimit.longestAccepted ∈ settings.names :=
  mem_names_iff.mpr (Or.inr (Or.inl rfl))

theorem shortestRejected_mem_names (settings : Settings) :
    settings.nameLimit.shortestRejected ∈ settings.names :=
  mem_names_iff.mpr (Or.inr (Or.inr rfl))

theorem staysBelow_path (settings : Settings) (index : Nat) :
    StaysBelow (settings.path index) :=
  Name.staysBelow_numbered settings.usable_stem index

theorem usable_path (settings : Settings) (index : Nat) :
    ¬Unusable (settings.path index) :=
  Name.usable_numbered settings.usable_stem index

end Settings

namespace NameLimit

theorem staysBelow_cycle (length : Nat) : StaysBelow (cycle length) := by
  have dotless : (0x2e : UInt8) ∉ cycle length :=
    notMem_cycle (by decide) length
  refine ⟨notMem_cycle (by decide) length, ?_, ?_⟩
  · intro same
    exact dotless (same ▸ List.mem_cons_self)
  · intro same
    exact dotless (same ▸ List.mem_cons_self)

theorem usable_cycle {length : Nat} (positive : 0 < length) :
    ¬Unusable (cycle length) := by
  rintro (empty | zero)
  · rw [← List.length_eq_zero_iff, length_cycle] at empty
    exact Nat.ne_of_gt positive empty
  · exact zero_notMem_cycle length zero

end NameLimit

namespace Settings

variable {settings : Settings} {name : Bytes}

theorem staysBelow_of_mem_names (member : name ∈ settings.names) :
    StaysBelow name := by
  rcases mem_names_iff.mp member with ⟨index, _, rfl⟩ | rfl | rfl
  · exact settings.staysBelow_path index
  · exact NameLimit.staysBelow_cycle _
  · exact NameLimit.staysBelow_cycle _

/-- The system is asked for every name of a scenario. -/
theorem isComponent_of_mem_names (member : name ∈ settings.names) :
    Directory.isComponent name = true := by
  rw [Directory.isComponent_eq_true_iff (staysBelow_of_mem_names member)]
  have two_le := settings.nameLimit.two_le
  rcases mem_names_iff.mp member with ⟨index, _, rfl⟩ | rfl | rfl
  · exact settings.usable_path index
  · exact NameLimit.usable_cycle (by omega)
  · exact NameLimit.usable_cycle (by omega)

end Settings

/-! ## Names that denote no file -/

namespace Directory

variable {disk : Disk} {root leading : Nat} {names : List Bytes}
  {directory : Directory} {name : Bytes}

/-- The name denotes no file of the root. -/
def LacksFile (directory : Directory) (root : Nat) (name : Bytes) : Prop :=
  ∀ file, directory.disk.nodes[Place.mk root name]? ≠ some (.file file)

theorem lacksFile_delete (root_eq : directory.root = .ok root)
    (component : isComponent name = true)
    (reach : Disk.WithinReach directory.leading name) :
    (directory.delete name).state.LacksFile root name := by
  intro file
  unfold delete
  split
  · rename_i reason refused
    intro present
    rw [(takeFile_eq_ok_iff root_eq).mpr ⟨component, reach,
      Disk.removeFile_eq_ok_iff.mpr ⟨⟨_, present, nofun⟩, rfl⟩⟩] at refused
    cases refused
  · rename_i left success
    rcases (takeFile_eq_ok_iff root_eq).mp success with ⟨_, _, removed⟩
    rcases Disk.removeFile_eq_ok_iff.mp removed with ⟨_, rfl⟩
    dsimp only
    rw [Std.ExtTreeMap.getElem?_erase_self]
    nofun

section

variable (lacks : directory.LacksFile root name)

include lacks

/-- A create that follows no link makes a file of its own name only. -/
theorem LacksFile.create
    (confined : Confined disk root leading names directory)
    {created : Bytes} (member : created ∈ names) (other : created ≠ name) :
    (directory.create created).state.LacksFile root name := by
  unfold Directory.create
  split
  · exact lacks
  · rename_i file made success
    rcases (makeFile_eq_ok_iff confined.root_eq).mp success with
      ⟨_, reach, created⟩
    have makes := Disk.createFile_makes confined.tree.toNumbered
      (confined.own (confined.inScope_of_reach member reach)) created
    intro number present
    refine lacks number ((makes.node_eq ?_).symm.trans present)
    exact fun same => other (congrArg Place.name same).symm

theorem LacksFile.delete (root_eq : directory.root = .ok root)
    (deleted : Bytes) :
    (directory.delete deleted).state.LacksFile root name := by
  unfold Directory.delete
  split
  · exact lacks
  · rename_i left success
    rcases (takeFile_eq_ok_iff root_eq).mp success with ⟨_, _, removed⟩
    rcases Disk.removeFile_eq_ok_iff.mp removed with ⟨_, rfl⟩
    intro file present
    dsimp only at present
    rw [Std.ExtTreeMap.getElem?_erase] at present
    split at present
    · cases present
    · exact lacks file present

/-- A write changes what a file holds, and no name. -/
theorem LacksFile.write (handle : Handle) (data : Bytes) :
    (directory.write handle data).state.LacksFile root name := by
  unfold Directory.write
  split
  · exact lacks
  · rename_i opened _
    intro file
    show (directory.disk.writeFile opened.file opened.position
      data).nodes[Place.mk root name]? ≠ _
    rw [Disk.nodes_writeFile]
    exact lacks file

/-- Only a create of a name makes a file of that name. -/
theorem LacksFile.respond
    (confined : Confined disk root leading names directory)
    {request : Call} (within : request.Within names)
    (other : request ≠ .create name) :
    (subsystem.respond request directory).state.LacksFile root name := by
  cases request with
  | create created =>
      exact lacks.create confined (within.name_mem created rfl)
        fun same => other (same ▸ rfl)
  | openFile opened =>
      show (directory.openFile opened).state.LacksFile root name
      unfold openFile
      split
      · exact lacks
      · exact lacks
  | close handle =>
      show (directory.close handle).state.LacksFile root name
      unfold close
      split
      · exact lacks
      · exact lacks
  | read handle buffer =>
      show (directory.read handle buffer).state.LacksFile root name
      unfold read
      split
      · exact lacks
      · exact lacks
  | write handle data => exact lacks.write handle data
  | delete deleted => exact lacks.delete confined.root_eq deleted
  | exit code => exact lacks

end

end Directory

/-! ## What is left -/

namespace Disk

/-- Whether a line shows a file under one of some names within reach. -/
def isLeftover (leading : Nat) (names : List Bytes)
    (line : Bytes × Option Bytes) : Bool :=
  line.2.isSome && names.contains line.1 && WithinReach leading line.1

end Disk

namespace Directory

/-- The files in scope are those under the names within reach. -/
theorem isFileOf_file_iff {root leading : Nat} {names : List Bytes}
    {place : Place} {file : Nat} :
    Disk.isFileOf root (names.filter fun name =>
        Disk.WithinReach leading name) place (.file file) = true ↔
      InScope root leading names place := by
  rw [Disk.isFileOf, Bool.and_eq_true, beq_iff_eq, List.contains_iff_mem,
    List.mem_filter, decide_eq_true_eq]
  constructor
  · rintro ⟨inRoot, member, reach⟩
    exact ⟨inRoot, member, reach⟩
  · rintro ⟨inRoot, member, reach⟩
    exact ⟨inRoot, member, reach⟩

end Directory

namespace Directory.Confined

variable {disk : Disk} {root leading : Nat} {names : List Bytes}
  {directory : Directory} {name : Bytes} {calls : List Call}

theorem after (confined : Confined disk root leading names directory)
    (within : ∀ request ∈ calls, request.Within names) :
    Confined disk root leading names
      (Directory.subsystem.after calls directory) :=
  Subsystem.after_keeps
    (fun request member _ kept => kept.respond (within request member))
    confined

/-- A name that was cleared away denotes no file. -/
theorem lacksFile_after
    (confined : Confined disk root leading names directory)
    (within : ∀ request ∈ calls, request.Within names)
    (component : Directory.isComponent name = true)
    (reach : Disk.WithinReach leading name) (clears : Clears name calls) :
    (Directory.subsystem.after calls directory).LacksFile root name := by
  rcases clears with ⟨earlier, later, rfl, spared⟩
  rw [List.forall_mem_append, List.forall_mem_cons] at within
  have begun := confined.after within.1
  have deleted := begun.respond within.2.1
  have gone : ((Directory.subsystem.after earlier directory).delete
      name).state.LacksFile root name :=
    Directory.lacksFile_delete begun.root_eq component
      (begun.leading_eq ▸ reach)
  have step : ∀ request ∈ later, ∀ reached,
      Confined disk root leading names reached ∧
          reached.LacksFile root name →
        Confined disk root leading names
            (Directory.subsystem.respond request reached).state ∧
          (Directory.subsystem.respond request reached).state.LacksFile
            root name := by
    rintro request member reached ⟨kept, lacks⟩
    have named := within.2.2 request member
    refine ⟨kept.respond named, lacks.respond kept named ?_⟩
    rintro rfl
    exact spared member
  rw [Subsystem.after_append]
  exact (Subsystem.after_keeps step ⟨deleted, gone⟩).2

/-- Where no file is left and no directory was, there is nothing. -/
theorem node_eq_none
    (confined : Confined disk root leading names directory) {place : Place}
    (inside : InScope root leading names place)
    (lacks : ∀ file, directory.disk.nodes[place]? ≠ some (.file file))
    (free : ∀ number, disk.nodes[place]? ≠ some (.directory number)) :
    directory.disk.nodes[place]? = none := by
  cases now : directory.disk.nodes[place]? with
  | none => rfl
  | some node =>
      cases node with
      | directory number =>
          exact absurd (confined.directory_iff.mp now) (free number)
      | file file => exact absurd now (lacks file)
      | link target =>
          exact absurd now ((confined.own inside).unlinked target)

/-- The names on the disk are those at the start, without the files in scope. -/
theorem nodes_eq_without
    (confined : Confined disk root leading names directory)
    (own : ∀ name ∈ names, disk.Own ⟨root, name⟩)
    (gone : ∀ name ∈ names, Disk.WithinReach leading name →
      directory.LacksFile root name) :
    directory.disk.nodes = (disk.without root
      (names.filter fun name => Disk.WithinReach leading name)).nodes := by
  apply Std.ExtTreeMap.ext_getElem?
  intro place
  rw [Disk.without, Std.ExtTreeMap.getElem?_filter']
  by_cases inside : InScope root leading names place
  · have lacks : ∀ file,
        directory.disk.nodes[place]? ≠ some (.file file) := by
      rcases place with ⟨inRoot, name⟩
      cases inside.directory_eq
      exact gone name inside.name_mem inside.reach
    have absent := confined.node_eq_none inside lacks
    cases before : disk.nodes[place]? with
    | none =>
        rw [before] at absent
        rw [absent (by rintro number ⟨⟩), Option.filter_none]
    | some node =>
        cases node with
        | directory number =>
            rw [confined.directory_iff.mpr before, Option.filter_some]
            rfl
        | file file =>
            rw [before] at absent
            rw [absent (by rintro number ⟨⟩), Option.filter_some,
              isFileOf_file_iff.mpr inside]
            rfl
        | link target =>
            rcases place with ⟨inRoot, name⟩
            cases inside.directory_eq
            exact absurd before ((own name inside.name_mem).unlinked target)
  · rw [confined.node_eq inside]
    cases disk.nodes[place]? with
    | none => rfl
    | some node =>
        cases node with
        | directory number => rfl
        | link target => rfl
        | file file =>
            rw [Option.filter_some,
              Bool.eq_false_iff.mpr (mt isFileOf_file_iff.mp inside)]
            rfl

/--
What is below the root of a confined directory, once no name in scope denotes a
file, is what was below it at first without the files in scope.
-/
theorem below_eq (confined : Confined disk root leading names directory)
    (tree : disk.Tree) (own : ∀ name ∈ names, disk.Own ⟨root, name⟩)
    (whole : ∀ name ∈ names, 0x2f ∉ name)
    (gone : ∀ name ∈ names, Disk.WithinReach leading name →
      directory.LacksFile root name) (depth : Nat) :
    directory.disk.below depth root [] =
      (disk.below depth root []).filter fun line =>
        !Disk.isLeftover leading names line := by
  have nodes_eq := confined.nodes_eq_without own gone
  have listed : (fun line : Bytes × Option Bytes =>
      !(line.2.isSome && (names.filter fun name =>
        Disk.WithinReach leading name).contains line.1)) =
      fun line => !Disk.isLeftover leading names line := by
    funext line
    rw [Disk.isLeftover, Bool.and_assoc, List.contains_eq_mem,
      List.contains_eq_mem]
    simp only [List.mem_filter, decide_eq_true_eq, Bool.decide_and]
  rw [← listed, ← Disk.below_without tree]
  · refine Disk.below_congr nodes_eq ?_ depth root []
    intro place file present
    rw [← nodes_eq] at present
    -- A file that is still there is out of scope.
    have foreign : ¬InScope root leading names place := by
      rcases place with ⟨inRoot, name⟩
      rintro ⟨rfl, member, reach⟩
      exact gone name member reach file present
    rw [confined.node_eq foreign] at present
    exact confined.content_eq foreign present
  · intro name member
    exact whole name (List.mem_of_mem_filter member)
  · intro name member
    exact (own name (List.mem_of_mem_filter member)).unlinked

end Directory.Confined

end FileConformance
