import FileConformance.Directory
import FileConformance.Proofs.Plain.Basic

/-!
# A directory is a plain file system

A directory keeps its files on a disk that holds more than them, and leaves it
to the operating system to check names.  As long as names stay below the root, a
caller cannot tell it from a plain file system whose limit on names is that of
the operating system, but for the wording with which a long name is refused.

A directory hosts a plain file system if the names below its root are those of
the plain file system, and if files and handles correspond: the files that were
made since the beginning are numbered in the same order on both sides.
-/

namespace FileConformance

/-- A directory looks like a plain file system to the callers of both. -/
structure Hosts (root base : Nat) (directory : Directory) (plain : Plain) :
    Prop where
  root_eq : directory.root = .ok root
  /-- Every name that fits into the directory fits into a path. -/
  leading_le : directory.leading + Disk.longestName ≤ Disk.longestPath
  nameLimit_eq : plain.nameLimit.bytes = Disk.longestName + 1
  handleLimit_eq : plain.handleLimit = none
  deleteOpen_eq : plain.deleteOpen = .allow
  alive : plain.exitStatus = none
  nextHandle_eq : directory.nextHandle = plain.nextHandle
  nextNumber_eq : directory.disk.nextNumber = base + plain.nextFile
  node_eq : ∀ name : Bytes, directory.disk.nodes[Place.mk root name]? =
    (plain.names[name]?).map fun file => .file (base + file)
  handle_eq : ∀ handle : Handle, directory.handles[handle]? =
    (plain.handles[handle]?).map fun opened =>
      ⟨base + opened.file, opened.position⟩
  content_eq : ∀ file ∈ plain.contents,
    directory.disk.content (base + file) = plain.content file
  /-- A file with a name is there. -/
  named : ∀ {name : Bytes} {file : Nat}, plain.names[name]? = some file →
    file ∈ plain.contents
  /-- A file with a handle is there. -/
  held : ∀ {handle : Handle} {opened : PlainHandle},
    plain.handles[handle]? = some opened → opened.file ∈ plain.contents

/-! ## Names -/

/-- A name that cannot lead out of a directory. -/
structure StaysBelow (name : Bytes) : Prop where
  separator : 0x2f ∉ name
  notSelf : name ≠ Disk.selfName
  notParent : name ≠ Disk.parentName

/-- A name that the operating system is not asked for. -/
def Unusable (name : Bytes) : Prop :=
  name = [] ∨ 0 ∈ name

/-- A name for which there is no room in a directory. -/
def Overlong (name : Bytes) : Prop :=
  ¬Unusable name ∧ Disk.longestName < name.length

/-- A name that there can be in a directory. -/
def Fits (name : Bytes) : Prop :=
  ¬Unusable name ∧ name.length ≤ Disk.longestName

theorem unusable_or_overlong_or_fits (name : Bytes) :
    Unusable name ∨ Overlong name ∨ Fits name := by
  by_cases unusable : Unusable name
  · exact Or.inl unusable
  · rcases Nat.lt_or_ge Disk.longestName name.length with long | short
    · exact Or.inr (Or.inl ⟨unusable, long⟩)
    · exact Or.inr (Or.inr ⟨unusable, short⟩)

namespace Directory

variable {directory : Directory} {name : Bytes} {root : Nat}

theorem isComponent_eq_true_iff (stays : StaysBelow name) :
    isComponent name = true ↔ ¬Unusable name := by
  have separator := stays.separator
  have notSelf := stays.notSelf
  have notParent := stays.notParent
  simp only [isComponent, Bool.and_eq_true, Bool.not_eq_true',
    List.isEmpty_eq_false_iff, bne_iff_ne, List.contains_eq_mem,
    decide_eq_false_iff_not, Unusable, not_or]
  constructor
  · rintro ⟨⟨⟨⟨notEmpty, _⟩, _⟩, _⟩, noZero⟩
    exact ⟨notEmpty, noZero⟩
  · rintro ⟨notEmpty, noZero⟩
    exact ⟨⟨⟨⟨notEmpty, notSelf⟩, notParent⟩, separator⟩, noZero⟩

theorem locate_of_unusable (stays : StaysBelow name)
    (unusable : Unusable name) :
    directory.locate name = .error .invalidName := by
  rw [locate, if_neg]
  rw [isComponent_eq_true_iff stays]
  exact fun usable => usable unusable

/-- A long name is refused as such, whether it or the path is too long. -/
theorem locate_of_overlong (stays : StaysBelow name)
    (overlong : Overlong name) (root_eq : directory.root = .ok root) :
    directory.locate name =
      .error (CallError.ofSystem SystemError.nameTooLong) := by
  have refused : directory.place name = .error .nameTooLong := by
    unfold place
    split
    · rfl
    · rw [root_eq]
      show directory.disk.locate root [] name = _
      rw [Disk.locate, Disk.enter]
      exact if_pos overlong.2
  rw [locate, if_pos ((isComponent_eq_true_iff stays).mpr overlong.1),
    refused]
  rfl

theorem locate_of_fits (stays : StaysBelow name) (fits : Fits name)
    (root_eq : directory.root = .ok root)
    (leading_le :
      directory.leading + Disk.longestName ≤ Disk.longestPath) :
    directory.locate name = .ok ⟨root, name⟩ := by
  have short : ¬Disk.longestPath < directory.leading + name.length := by
    have := fits.2
    omega
  have found : directory.place name = .ok ⟨root, name⟩ := by
    rw [place, if_neg short, root_eq]
    show directory.disk.locate root [] name = _
    rw [Disk.locate, Disk.enter]
    exact if_neg (Nat.not_lt.mpr fits.2)
  rw [locate, if_pos ((isComponent_eq_true_iff stays).mpr fits.1), found]
  rfl

/-! ## Calls on names -/

variable {reason : CallError} {place : Place}

theorem create_of_refused (refused : directory.locate name = .error reason) :
    directory.create name = directory.refuse reason := by
  rw [create, makeFile, refused]
  rfl

theorem openFile_of_refused
    (refused : directory.locate name = .error reason) :
    directory.openFile name = directory.refuse reason := by
  rw [openFile, findFile, refused]
  rfl

theorem delete_of_refused
    (refused : directory.locate name = .error reason) :
    directory.delete name = directory.refuse reason := by
  rw [delete, takeFile, refused]
  rfl

end Directory

namespace Plain

variable {plain : Plain} {name : Bytes} {reason : CallError}

theorem checkName_of_unusable (unusable : Unusable name) :
    plain.checkName name = .error .invalidName :=
  if_pos unusable

theorem checkName_of_overlong
    (limit : plain.nameLimit.bytes = Disk.longestName + 1)
    (overlong : Overlong name) :
    plain.checkName name = .error
      (.nameTooLong (Name.encodedLength name) plain.nameLimit.bytes) := by
  have long : ¬Name.encodedLength name ≤ plain.nameLimit.bytes := by
    rw [Name.encodedLength, limit]
    exact Nat.not_le.mpr (Nat.succ_lt_succ overlong.2)
  have usable : ¬(name = [] ∨ 0 ∈ name) := overlong.1
  rw [checkName, if_neg usable, if_neg long]

theorem checkName_of_fits
    (limit : plain.nameLimit.bytes = Disk.longestName + 1)
    (fits : Fits name) : plain.checkName name = .ok () := by
  have short : Name.encodedLength name ≤ plain.nameLimit.bytes := by
    rw [Name.encodedLength, limit]
    exact Nat.succ_le_succ fits.2
  have usable : ¬(name = [] ∨ 0 ∈ name) := fits.1
  rw [checkName, if_neg usable, if_pos short]

theorem create_of_refused (alive : plain.exitStatus = none)
    (refused : plain.checkName name = .error reason) :
    plain.create name = plain.refuse reason := by
  rw [create, admitCreate, checkAlive, alive, refused]
  rfl

theorem openFile_of_refused (alive : plain.exitStatus = none)
    (refused : plain.checkName name = .error reason) :
    plain.openFile name = plain.refuse reason := by
  rw [openFile, admitOpen, checkAlive, alive, refused]
  rfl

theorem delete_of_refused (alive : plain.exitStatus = none)
    (refused : plain.checkName name = .error reason) :
    plain.delete name = plain.refuse reason := by
  rw [delete, admitDelete, checkAlive, alive, refused]
  rfl

/-! While nothing is limited but names, a name that fits is admitted. -/

theorem admitCreate_of_fits (alive : plain.exitStatus = none)
    (unlimited : plain.handleLimit = none)
    (fits : plain.checkName name = .ok ()) :
    plain.admitCreate name = .ok () := by
  rw [admitCreate, checkAlive, alive, fits, checkHandleLimit, unlimited]
  rfl

theorem admitOpen_of_fits (alive : plain.exitStatus = none)
    (unlimited : plain.handleLimit = none)
    (fits : plain.checkName name = .ok ()) :
    plain.admitOpen name = plain.lookUp name := by
  rw [admitOpen, checkAlive, alive, fits, checkHandleLimit, unlimited]
  cases plain.lookUp name with
  | error reason => rfl
  | ok file => rfl

theorem admitDelete_of_fits (alive : plain.exitStatus = none)
    (allowed : plain.deleteOpen = .allow)
    (fits : plain.checkName name = .ok ()) :
    plain.admitDelete name = plain.lookUp name := by
  rw [admitDelete, checkAlive, alive, fits, allowed]
  cases plain.lookUp name with
  | error reason => rfl
  | ok file => exact if_neg fun busy => DeletePolicy.noConfusion busy.2

theorem admitHandle_of_alive (alive : plain.exitStatus = none)
    (handle : Handle) :
    plain.admitHandle handle = plain.resolve handle := by
  rw [admitHandle, checkAlive, alive]
  rfl

theorem resolve_eq_ok_iff {handle : Handle} {opened : PlainHandle} :
    plain.resolve handle = .ok opened ↔
      plain.handles[handle]? = some opened := by
  rw [resolve]
  cases plain.handles[handle]? with
  | none => exact iff_of_false nofun nofun
  | some found => rw [Except.ok.injEq, Option.some.injEq]

/-- Putting data into a file moves no handle. -/
theorem handles_put (plain : Plain) (opened : PlainHandle)
    (data : Bytes) : (plain.put opened data).handles = plain.handles := by
  rw [put]
  split
  · rfl
  · rfl

end Plain

/-! ## Changes -/

namespace Hosts

variable {root base : Nat} {directory : Directory} {plain : Plain}

theorem openHandle {disk : Disk} {file : Nat}
    (hosts : Hosts root base { directory with disk } plain)
    (there : file ∈ plain.contents) :
    Hosts root base (directory.openHandle disk (base + file)).2
      (plain.openHandle file) :=
  { hosts with
    nextHandle_eq := congrArg Nat.succ hosts.nextHandle_eq
    handle_eq := by
      intro handle
      have next : directory.nextHandle = plain.nextHandle :=
        hosts.nextHandle_eq
      have before : directory.handles[handle]? = _ := hosts.handle_eq handle
      simp only [Directory.openHandle, Plain.openHandle, next,
        Std.ExtTreeMap.getElem?_insert, before]
      split
      · rfl
      · rfl
    held := by
      intro handle opened found
      simp only [Plain.openHandle, Std.ExtTreeMap.getElem?_insert] at found
      split at found
      · cases found
        exact there
      · exact hosts.held found }

/-- Corresponding files are given the same content. -/
theorem putContent (hosts : Hosts root base directory plain) {file : Nat}
    {content : Bytes} :
    ∀ other ∈ plain.contents.insert file content,
      ({ directory.disk with
          contents := directory.disk.contents.insert (base + file)
            content } : Disk).content (base + other) =
        ({ plain with
            contents := plain.contents.insert file content } : Plain).content
          other := by
  intro other present
  rw [Disk.content, Std.ExtTreeMap.getElem?_insert, Plain.content,
    Std.ExtTreeMap.getD_insert]
  simp only [Std.LawfulEqOrd.compare_eq_iff_eq, Nat.add_left_cancel_iff]
  by_cases same : file = other
  · rw [if_pos same, if_pos same]
    rfl
  · rw [if_neg same, if_neg same]
    refine hosts.content_eq other ?_
    rw [Std.ExtTreeMap.mem_insert,
      Std.LawfulEqOrd.compare_eq_iff_eq] at present
    exact present.resolve_left same

theorem mem_insert_of_mem {file other : Nat} {content : Bytes}
    (present : other ∈ plain.contents) :
    other ∈ plain.contents.insert file content :=
  Std.ExtTreeMap.mem_insert.mpr (Or.inr present)

/-- Creating a name gives corresponding files. -/
theorem createFile (hosts : Hosts root base directory plain)
    (name : Bytes) :
    ∃ disk, directory.disk.createFile ⟨root, name⟩ =
        .ok (base + (plain.fileToCreate name).1, disk) ∧
      (plain.fileToCreate name).1 ∈
        (plain.fileToCreate name).2.contents ∧
      Hosts root base { directory with disk }
        (plain.fileToCreate name).2 := by
  have node := hosts.node_eq name
  cases named : plain.names[name]? with
  | some file =>
      rw [named] at node
      simp only [Plain.fileToCreate, named]
      refine ⟨_, by rw [Disk.createFile, Disk.goal, node]; rfl,
        Std.ExtTreeMap.mem_insert_self, ?_⟩
      exact { hosts with
        content_eq := hosts.putContent
        named := fun found => mem_insert_of_mem (hosts.named found)
        held := fun found => mem_insert_of_mem (hosts.held found) }
  | none =>
      rw [named] at node
      simp only [Plain.fileToCreate, named]
      have goal : directory.disk.goal true ⟨root, name⟩ =
          .ok (.missing ⟨root, name⟩) := by
        rw [Disk.goal, node]
        rfl
      have created : directory.disk.createFile ⟨root, name⟩ =
          directory.disk.makeFile (.missing ⟨root, name⟩) := by
        rw [Disk.createFile, goal]
        rfl
      refine ⟨_, by rw [created, Disk.makeFile, hosts.nextNumber_eq],
        Std.ExtTreeMap.mem_insert_self, ?_⟩
      -- Both sides give the new file their next number.
      exact { hosts with
        nextNumber_eq := rfl
        node_eq := by
          intro other
          have before := hosts.node_eq other
          simp only [Std.ExtTreeMap.getElem?_insert, before,
            Std.LawfulEqOrd.compare_eq_iff_eq, Place.mk.injEq, true_and]
          split
          · rfl
          · rfl
        content_eq := hosts.putContent
        named := by
          intro other file found
          rw [Std.ExtTreeMap.getElem?_insert] at found
          split at found
          · cases found
            exact Std.ExtTreeMap.mem_insert_self
          · exact mem_insert_of_mem (hosts.named found)
        held := fun found => mem_insert_of_mem (hosts.held found) }

/-- A name is taken from both sides at once. -/
theorem unlink (hosts : Hosts root base directory plain) (name : Bytes) :
    Hosts root base
      { directory with
        disk := { directory.disk with
          nodes := directory.disk.nodes.erase ⟨root, name⟩ } }
      { plain with names := plain.names.erase name } :=
  { hosts with
    node_eq := by
      intro other
      have before := hosts.node_eq other
      simp only [Std.ExtTreeMap.getElem?_erase, before,
        Std.LawfulEqOrd.compare_eq_iff_eq, Place.mk.injEq, true_and]
      split
      · rfl
      · rfl
    named := by
      intro other file found
      rw [Std.ExtTreeMap.getElem?_erase] at found
      split at found
      · cases found
      · exact hosts.named found }

/-- A handle is given back on both sides. -/
theorem giveBack (hosts : Hosts root base directory plain)
    (handle : Handle) :
    Hosts root base
      { directory with handles := directory.handles.erase handle }
      { plain with handles := plain.handles.erase handle } :=
  { hosts with
    handle_eq := by
      intro other
      have before := hosts.handle_eq other
      simp only [Std.ExtTreeMap.getElem?_erase, before]
      split
      · rfl
      · rfl
    held := by
      intro other opened found
      rw [Std.ExtTreeMap.getElem?_erase] at found
      split at found
      · cases found
      · exact hosts.held found }

theorem advance (hosts : Hosts root base directory plain)
    {handle : Handle} {opened : PlainHandle}
    (found : plain.handles[handle]? = some opened) (count : Nat) :
    Hosts root base (directory.advance handle count)
      (plain.advance handle opened count) :=
  { hosts with
    handle_eq := by
      intro other
      have before := hosts.handle_eq other
      simp only [Directory.advance, Plain.advance,
        Std.ExtTreeMap.getElem?_modify, Std.ExtTreeMap.getElem?_insert,
        Std.LawfulEqOrd.compare_eq_iff_eq, before]
      split
      · rw [hosts.handle_eq handle, found]
        rfl
      · rfl
    held := by
      have there := hosts.held found
      intro other moved foundToo
      rw [Plain.advance, Std.ExtTreeMap.getElem?_insert] at foundToo
      split at foundToo
      · cases foundToo
        exact there
      · exact hosts.held foundToo }

theorem put (hosts : Hosts root base directory plain)
    (opened : PlainHandle) (there : opened.file ∈ plain.contents)
    (data : Bytes) :
    Hosts root base
      { directory with
        disk := directory.disk.writeFile (base + opened.file)
          opened.position data }
      (plain.put opened data) := by
  simp only [Disk.writeFile, Plain.put, List.isEmpty_iff]
  split
  · exact hosts
  · rw [hosts.content_eq opened.file there]
    exact { hosts with
      content_eq := hosts.putContent
      named := fun found => mem_insert_of_mem (hosts.named found)
      held := fun found => mem_insert_of_mem (hosts.held found) }

end Hosts

end FileConformance
