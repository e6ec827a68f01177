import FileConformance.Disk.Listing
import FileConformance.Proofs.Directory.Hosting
import FileConformance.Proofs.Handles.Ledger
import FileConformance.Proofs.Plain.Refinement

/-!
# A directory and a store agree

A store of the standard settings and a directory below an empty root answer all
calls alike, step by step, as long as names stay below the root; only a name
that is too long is refused in other words.  After every step the files below
the root are those of the store, with the contents that the store reports.

Both are compared with a plain file system: the store is mirrored by it, and the
directory hosts it.
-/

namespace FileConformance

/-! ## Answers that agree -/

/--
Two answers to a call agree: they are equal, unless the name of the call is too
long.  Then both refuse it, each in its own words.
-/
structure Call.Agree (request : Call) (answer other : request.Answer) :
    Prop where
  same : (∀ name, request.name? = some name → ¬Overlong name) →
    answer = other
  long : ∀ {name : Bytes}, request.name? = some name → Overlong name →
    request.failure? answer = some (.nameTooLong (name.length + 1) 256) ∧
      request.failure? other =
        some (.system (some 36) "File name too long (os error 36)")

namespace Call.Agree

variable {request : Call} {answer other : request.Answer} {name : Bytes}

theorem of_same (same : answer = other)
    (short : ∀ name, request.name? = some name → ¬Overlong name) :
    request.Agree answer other where
  same := fun _ => same
  long := fun about long => (short _ about long).elim

/-- A call without a name is answered in the same words. -/
theorem of_nameless (nameless : request.name? = none)
    (same : answer = other) : request.Agree answer other := by
  refine of_same same ?_
  intro name about
  rw [nameless] at about
  cases about

theorem of_long (about : request.name? = some name) (long : Overlong name)
    (refused : request.failure? answer =
      some (.nameTooLong (name.length + 1) 256))
    (refusedToo : request.failure? other =
      some (.ofSystem SystemError.nameTooLong)) :
    request.Agree answer other where
  same := fun short => (short name about long).elim
  long := by
    intro found aboutToo _
    rw [about] at aboutToo
    cases aboutToo
    exact ⟨refused, refusedToo⟩

end Call.Agree

theorem Unusable.not_overlong {name : Bytes} (unusable : Unusable name) :
    ¬Overlong name :=
  fun overlong => overlong.1 unusable

theorem Fits.not_overlong {name : Bytes} (fits : Fits name) :
    ¬Overlong name :=
  fun overlong => Nat.not_lt.mpr fits.2 overlong.2

namespace Hosts

variable {root base : Nat} {directory : Directory} {plain : Plain}
  {name : Bytes}

/-! ## Calls on names -/

/-- What is said of a call that both answer. -/
def Matches (root base : Nat) (request : Call)
    (reply : Reply Directory request.Answer)
    (expected : Reply Plain request.Answer) : Prop :=
  request.Agree expected.answer reply.answer ∧
    Hosts root base reply.state expected.state

/-- Both refuse a name, and agree on why unless it is too long. -/
structure Refuses (directory : Directory) (plain : Plain) (name : Bytes)
    (reason other : CallError) : Prop where
  here : plain.checkName name = .error reason
  there : directory.locate name = .error other
  agree_or_long : (¬Overlong name ∧ reason = other) ∨
    (Overlong name ∧ reason = .nameTooLong (name.length + 1) 256 ∧
      other = .ofSystem SystemError.nameTooLong)

theorem refuses_or_fits (hosts : Hosts root base directory plain)
    (stays : StaysBelow name) :
    (∃ reason other, Refuses directory plain name reason other) ∨
      Fits name := by
  rcases unusable_or_overlong_or_fits name with unusable | long | fits
  · exact Or.inl ⟨_, _, Plain.checkName_of_unusable unusable,
      Directory.locate_of_unusable stays unusable,
      Or.inl ⟨unusable.not_overlong, rfl⟩⟩
  · have here := Plain.checkName_of_overlong hosts.nameLimit_eq long
    rw [hosts.nameLimit_eq] at here
    exact Or.inl ⟨_, _, here,
      Directory.locate_of_overlong stays long hosts.root_eq,
      Or.inr ⟨long, rfl, rfl⟩⟩
  · exact Or.inr fits

/-- The answers to a call on a name that both refuse agree. -/
theorem Refuses.agree {reason other : CallError}
    (refuses : Refuses directory plain name reason other)
    {request : Call} {answer otherAnswer : request.Answer}
    (about : request.name? = some name)
    (failed : request.failure? answer = some reason)
    (failedToo : request.failure? otherAnswer = some other)
    (same : reason = other → answer = otherAnswer) :
    request.Agree answer otherAnswer := by
  rcases refuses.agree_or_long with ⟨short, equal⟩ | ⟨long, rfl, rfl⟩
  · refine .of_same (same equal) ?_
    intro found aboutToo
    rw [about] at aboutToo
    cases aboutToo
    exact short
  · exact .of_long about long failed failedToo

theorem create (hosts : Hosts root base directory plain)
    (stays : StaysBelow name) :
    Matches root base (.create name) (directory.create name)
      (plain.create name) := by
  rcases hosts.refuses_or_fits stays with ⟨reason, other, refuses⟩ | fits
  · rw [Directory.create_of_refused refuses.there,
      Plain.create_of_refused hosts.alive refuses.here]
    exact ⟨refuses.agree rfl rfl rfl (congrArg Except.error), hosts⟩
  · rcases hosts.createFile name with ⟨disk, created, there, prepared⟩
    have admitted := Plain.admitCreate_of_fits hosts.alive
      hosts.handleLimit_eq
      (Plain.checkName_of_fits hosts.nameLimit_eq fits)
    have made : directory.makeFile name =
        .ok (base + (plain.fileToCreate name).1, disk) := by
      rw [Directory.makeFile, Directory.locate_of_fits stays fits
        hosts.root_eq hosts.leading_le]
      show (directory.disk.createFile ⟨root, name⟩).mapError
        CallError.ofSystem = _
      rw [created]
      rfl
    rw [Directory.create, made, Plain.create, admitted]
    refine ⟨.of_same ?_ ?_, prepared.openHandle there⟩
    · exact congrArg (fun next => Except.ok (Handle.mk next))
        prepared.nextHandle_eq.symm
    · rintro _ ⟨⟩
      exact fits.not_overlong

theorem openFile (hosts : Hosts root base directory plain)
    (stays : StaysBelow name) :
    Matches root base (.openFile name) (directory.openFile name)
      (plain.openFile name) := by
  rcases hosts.refuses_or_fits stays with ⟨reason, other, refuses⟩ | fits
  · rw [Directory.openFile_of_refused refuses.there,
      Plain.openFile_of_refused hosts.alive refuses.here]
    exact ⟨refuses.agree rfl rfl rfl (congrArg Except.error), hosts⟩
  · have short : ∀ other, (Call.openFile name).name? = some other →
        ¬Overlong other := by
      rintro _ ⟨⟩
      exact fits.not_overlong
    have admitted := Plain.admitOpen_of_fits hosts.alive
      hosts.handleLimit_eq
      (Plain.checkName_of_fits hosts.nameLimit_eq fits)
    have found : directory.findFile name =
        (directory.disk.openFile ⟨root, name⟩).mapError
          CallError.ofSystem := by
      rw [Directory.findFile, Directory.locate_of_fits stays fits
        hosts.root_eq hosts.leading_le]
      rfl
    have node := hosts.node_eq name
    rw [Directory.openFile, found, Disk.openFile, Disk.goal, node,
      Plain.openFile, admitted, Plain.lookUp]
    cases named : plain.names[name]? with
    | none => exact ⟨.of_same rfl short, hosts⟩
    | some file =>
        refine ⟨.of_same ?_ short, hosts.openHandle (hosts.named named)⟩
        exact congrArg (fun next => Except.ok (Handle.mk next))
          hosts.nextHandle_eq.symm

theorem delete (hosts : Hosts root base directory plain)
    (stays : StaysBelow name) :
    Matches root base (.delete name) (directory.delete name)
      (plain.delete name) := by
  rcases hosts.refuses_or_fits stays with ⟨reason, other, refuses⟩ | fits
  · rw [Directory.delete_of_refused refuses.there,
      Plain.delete_of_refused hosts.alive refuses.here]
    exact ⟨refuses.agree rfl rfl rfl (congrArg Except.error), hosts⟩
  · have short : ∀ other, (Call.delete name).name? = some other →
        ¬Overlong other := by
      rintro _ ⟨⟩
      exact fits.not_overlong
    have admitted := Plain.admitDelete_of_fits hosts.alive
      hosts.deleteOpen_eq
      (Plain.checkName_of_fits hosts.nameLimit_eq fits)
    have taken : directory.takeFile name =
        (directory.disk.removeFile ⟨root, name⟩).mapError
          CallError.ofSystem := by
      rw [Directory.takeFile, Directory.locate_of_fits stays fits
        hosts.root_eq hosts.leading_le]
      rfl
    have node := hosts.node_eq name
    rw [Directory.delete, taken, Disk.removeFile, node, Plain.delete,
      admitted, Plain.lookUp]
    cases named : plain.names[name]? with
    | none => exact ⟨.of_same rfl short, hosts⟩
    | some file => exact ⟨.of_same rfl short, hosts.unlink name⟩

/-! ## Calls on handles -/

theorem resolve_eq (hosts : Hosts root base directory plain)
    (handle : Handle) :
    directory.resolve handle =
      (plain.admitHandle handle).map fun opened =>
        ⟨base + opened.file, opened.position⟩ := by
  rw [Plain.admitHandle_of_alive hosts.alive, Directory.resolve,
    Plain.resolve, hosts.handle_eq]
  cases plain.handles[handle]? with
  | none => rfl
  | some opened => rfl

theorem close (hosts : Hosts root base directory plain)
    (handle : Handle) :
    Matches root base (.close handle) (directory.close handle)
      (plain.close handle) := by
  rw [Directory.close, hosts.resolve_eq, Plain.close]
  cases plain.admitHandle handle with
  | error reason => exact ⟨.of_nameless rfl rfl, hosts⟩
  | ok opened => exact ⟨.of_nameless rfl rfl, hosts.giveBack handle⟩

theorem read (hosts : Hosts root base directory plain) (handle : Handle)
    (buffer : Bytes) :
    Matches root base (.read handle buffer) (directory.read handle buffer)
      (plain.read handle buffer) := by
  rw [Directory.read, hosts.resolve_eq, Plain.read]
  cases admitted : plain.admitHandle handle with
  | error reason => exact ⟨.of_nameless rfl rfl, hosts⟩
  | ok opened =>
      rw [Plain.admitHandle_of_alive hosts.alive] at admitted
      have found := Plain.resolve_eq_ok_iff.mp admitted
      have same := hosts.content_eq opened.file (hosts.held found)
      dsimp only [Except.map]
      simp only [same]
      exact ⟨.of_nameless rfl rfl, hosts.advance found _⟩

theorem write (hosts : Hosts root base directory plain) (handle : Handle)
    (data : Bytes) :
    Matches root base (.write handle data) (directory.write handle data)
      (plain.write handle data) := by
  rw [Directory.write, hosts.resolve_eq, Plain.write]
  cases admitted : plain.admitHandle handle with
  | error reason => exact ⟨.of_nameless rfl rfl, hosts⟩
  | ok opened =>
      rw [Plain.admitHandle_of_alive hosts.alive] at admitted
      have found := Plain.resolve_eq_ok_iff.mp admitted
      have put := hosts.put opened (hosts.held found) data
      have still : (plain.put opened data).handles[handle]? =
          some opened := by
        rw [Plain.handles_put]
        exact found
      exact ⟨.of_nameless rfl rfl, put.advance still data.length⟩

/-! ## Runs -/

/-- Both answer a call so that the answers agree, and look alike afterwards. -/
theorem respond (hosts : Hosts root base directory plain)
    {request : Call} (running : request.kind ≠ .exit)
    (stays : ∀ name, request.name? = some name → StaysBelow name) :
    Matches root base request
      (Directory.subsystem.respond request directory)
      (Plain.subsystem.respond request plain) := by
  cases request with
  | create name => exact hosts.create (stays name rfl)
  | openFile name => exact hosts.openFile (stays name rfl)
  | close handle => exact hosts.close handle
  | read handle buffer => exact hosts.read handle buffer
  | write handle data => exact hosts.write handle data
  | delete name => exact hosts.delete (stays name rfl)
  | exit code => exact (running rfl).elim

/-- Both look alike after any calls. -/
theorem after (hosts : Hosts root base directory plain)
    {calls : List Call} (running : ∀ request ∈ calls, request.kind ≠ .exit)
    (stays : ∀ request ∈ calls, ∀ name, request.name? = some name →
      StaysBelow name) :
    Hosts root base (Directory.subsystem.after calls directory)
      (Plain.subsystem.after calls plain) := by
  induction calls generalizing directory plain with
  | nil => exact hosts
  | cons request rest ih =>
      rw [List.forall_mem_cons] at running stays
      exact ih (hosts.respond running.1 stays.1).2 running.2 stays.2

/-! ## What is below the root -/

theorem mem_names_iff (hosts : Hosts root base directory plain)
    {name : Bytes} {node : Node} :
    (name, node) ∈ directory.disk.names root ↔
      ∃ file, plain.names[name]? = some file ∧
        node = .file (base + file) := by
  have listed : (name, node) ∈ directory.disk.names root ↔
      directory.disk.nodes[Place.mk root name]? = some node := by
    rw [Disk.names, List.mem_filterMap]
    constructor
    · rintro ⟨⟨⟨above, found⟩, leads⟩, member, kept⟩
      split at kept
      · rename_i here
        cases here
        cases kept
        exact Std.ExtTreeMap.mem_toList_iff_getElem?_eq_some.mp member
      · cases kept
    · intro found
      exact ⟨(⟨root, name⟩, node),
        Std.ExtTreeMap.mem_toList_iff_getElem?_eq_some.mpr found,
        if_pos rfl⟩
  rw [listed, hosts.node_eq, Option.map_eq_some_iff]
  exact exists_congr fun file => and_congr_right' eq_comm

/-- A name shows the content of the file on the disk. -/
theorem content?_eq (hosts : Hosts root base directory plain)
    {file : Nat} (named : plain.names[name]? = some file) :
    plain.content? name =
      some (directory.disk.content (base + file)) := by
  have there := hosts.named named
  rw [hosts.content_eq file there, Plain.content?, named, Plain.content,
    Std.ExtTreeMap.getD_eq_getD_getElem?]
  rcases Option.isSome_iff_exists.mp
    (Std.ExtTreeMap.isSome_getElem?_iff_mem.mpr there) with ⟨content, found⟩
  rw [found]
  exact found

/-- Below the root there are the files with their contents, and no more. -/
theorem mem_below_iff (hosts : Hosts root base directory plain)
    (depth : Nat) {path : Bytes} {entry : Option Bytes} :
    (path, entry) ∈ directory.disk.below (depth + 1) root [] ↔
      ∃ content, entry = some content ∧
        plain.content? path = some content := by
  rw [Disk.below, List.mem_flatMap]
  constructor
  · rintro ⟨⟨name, node⟩, member, shown⟩
    rcases hosts.mem_names_iff.mp member with ⟨file, named, rfl⟩
    rw [List.mem_singleton] at shown
    cases shown
    exact ⟨_, rfl, hosts.content?_eq named⟩
  · rintro ⟨content, rfl, found⟩
    cases named : plain.names[path]? with
    | none =>
        rw [Plain.content?, named] at found
        cases found
    | some file =>
        rw [hosts.content?_eq named] at found
        cases found
        exact ⟨(path, .file (base + file)),
          hosts.mem_names_iff.mpr ⟨file, named, rfl⟩,
          List.mem_singleton_self _⟩

theorem fresh {disk : Disk} {root leading : Nat}
    (made : root < disk.nextNumber)
    (empty : ∀ name, disk.nodes[Place.mk root name]? = none)
    (fits : leading + Disk.longestName ≤ Disk.longestPath) :
    Hosts root (disk.nextNumber - 1)
      (Directory.fresh disk (.ok root) leading)
      (Plain.fresh .standard) where
  root_eq := rfl
  leading_le := fits
  nameLimit_eq := rfl
  handleLimit_eq := rfl
  deleteOpen_eq := rfl
  alive := rfl
  nextHandle_eq := rfl
  nextNumber_eq := (Nat.sub_add_cancel (Nat.zero_lt_of_lt made)).symm
  node_eq := by
    intro name
    exact (empty name).trans (by simp [Plain.fresh])
  handle_eq := by
    intro handle
    simp [Directory.fresh, Plain.fresh]
  content_eq := by simp [Plain.fresh]
  named := by simp [Plain.fresh]
  held := by simp [Plain.fresh]

end Hosts

/-! ## Stores and directories -/

/-- A file call on nothing but what is below a root. -/
structure Call.StaysBelow (request : Call) : Prop where
  running : request.kind ≠ .exit
  name : ∀ name, request.name? = some name →
    FileConformance.StaysBelow name

namespace Store

/-- A store keeps its settings through any calls. -/
theorem settings_after_calls (calls : List Call) (store : Store) :
    (subsystem.after calls store).settings = store.settings := by
  have same : subsystem.after calls store =
      store.after (calls.map .call) := by
    rw [Subsystem.after, after, List.foldl_map]
    rfl
  rw [same, settings_after]

end Store

/--
After any calls on a fresh store of the standard settings and on a directory
below an empty root, the next call gets agreeing answers, and the files below
the root are those of the store.  The root may be anywhere on any disk, if the
way to it leaves room for every name.
-/
theorem directory_agrees_with_store (generator : Generator) {disk : Disk}
    {root leading : Nat} (made : root < disk.nextNumber)
    (empty : ∀ name, disk.nodes[Place.mk root name]? = none)
    (fits : leading + Disk.longestName ≤ Disk.longestPath)
    {calls : List Call} (below : ∀ request ∈ calls, request.StaysBelow) :
    (∀ request : Call, request.StaysBelow →
      request.Agree
        (Store.subsystem.respond request (Store.subsystem.after calls
          (Store.fresh .standard generator))).answer
        (Directory.subsystem.respond request (Directory.subsystem.after
          calls (Directory.fresh disk (.ok root) leading))).answer) ∧
      (∀ path entry,
        (path, entry) ∈ (Directory.subsystem.after calls
            (Directory.fresh disk (.ok root) leading)).disk.below
              ((Directory.subsystem.after calls
                (Directory.fresh disk (.ok root)
                  leading)).disk.parents.size + 1) root [] ↔
          ∃ content, entry = some content ∧
            (Store.subsystem.after calls
              (Store.fresh .standard generator)).content? path =
                some content) ∧
      ∀ path,
        (Store.subsystem.after calls
            (Store.fresh .standard generator)).hasName path =
          ((Store.subsystem.after calls
            (Store.fresh .standard generator)).content? path).isSome := by
  -- One plain file system mirrors the store and is hosted by the directory.
  have hosts := Hosts.fresh made empty fits
  have mirrors := Mirrors.fresh .standard generator
  rcases mirrors.exchanges (Store.WellFormed.fresh .standard generator)
    ⟨rfl, rfl⟩ rfl calls with ⟨_, wf, mirrorsLater⟩
  have hostsLater := hosts.after (fun request among =>
    (below request among).running) fun request among =>
      (below request among).name
  refine ⟨?_, ?_, ?_⟩
  · intro request here
    have settled := Store.settings_after_calls calls
      (Store.fresh .standard generator)
    rw [(mirrorsLater.respond wf (settled ▸ ⟨rfl, rfl⟩) (settled ▸ rfl)
      request).1]
    exact (hostsLater.respond here.running here.name).1
  · intro path entry
    rw [hostsLater.mem_below_iff]
    simp only [mirrorsLater.content?_eq wf]
  · intro path
    rw [Store.hasName, Store.content?, Option.isSome_map,
      Std.ExtTreeMap.contains_eq_isSome_getElem?]

/-- A file that is deleted while it is open, made again, and a long name. -/
theorem directory_agrees_with_store_recreated :
    let store := Store.fresh .standard (.ofSeed 1)
    let directory := Directory.fresh .empty (.ok Disk.topmost) 5
    let calls : List Call :=
      [.create [97], .write ⟨2⟩ [1, 2], .openFile [97], .delete [97],
        .create [97], .write ⟨3⟩ [3], .close ⟨2⟩, .delete [98]]
    let long : Bytes := List.replicate 256 97
    (Disk.topmost < Disk.empty.nextNumber ∧
        (∀ name, Disk.empty.nodes[Place.mk Disk.topmost name]? = none) ∧
        5 + Disk.longestName ≤ Disk.longestPath ∧
        ∀ request ∈ calls, request.StaysBelow) ∧
      ((Store.subsystem.after calls store).read ⟨3⟩ [0, 0]).answer =
        ((Directory.subsystem.after calls directory).read ⟨3⟩
          [0, 0]).answer ∧
      (Call.create long).failure?
          ((Store.subsystem.after calls store).create long).answer =
        some (.nameTooLong 257 256) ∧
      (Call.create long).failure?
          ((Directory.subsystem.after calls directory).create long).answer =
        some (.system (some 36) "File name too long (os error 36)") := by
  intro store directory calls long
  have empty : ∀ name,
      Disk.empty.nodes[Place.mk Disk.topmost name]? = none := by
    intro name
    simp [Disk.empty]
  have below : ∀ request ∈ calls, request.StaysBelow := by
    have simple : ∀ request ∈ calls, request.kind ≠ .exit ∧
        (request.name? = none ∨ request.name? = some [97] ∨
          request.name? = some [98]) := by
      decide
    have letter : StaysBelow [97] := ⟨by decide, by decide, by decide⟩
    have letterToo : StaysBelow [98] := ⟨by decide, by decide, by decide⟩
    intro request among
    rcases simple request among with ⟨running, about⟩
    refine ⟨running, ?_⟩
    intro name named
    rcases about with same | same | same
    · cases same.symm.trans named
    · cases same.symm.trans named
      exact letter
    · cases same.symm.trans named
      exact letterToo
  have length_eq : long.length = 256 := List.length_replicate
  have letters : ∀ byte ∈ long, byte = 97 :=
    fun _ => List.eq_of_mem_replicate
  have overlong : Overlong long := by
    constructor
    · rintro (nil | zero)
      · rw [nil] at length_eq
        cases length_eq
      · cases letters 0 zero
    · rw [length_eq]
      decide
  have longBelow : (Call.create long).StaysBelow := by
    refine ⟨nofun, ?_⟩
    rintro _ ⟨⟩
    refine ⟨fun separator => ?_, fun same => ?_, fun same => ?_⟩
    · cases letters 0x2f separator
    · cases length_eq.symm.trans (congrArg List.length same)
    · cases length_eq.symm.trans (congrArg List.length same)
  have readBelow : (Call.read ⟨3⟩ [0, 0]).StaysBelow := ⟨nofun, nofun⟩
  have made : Disk.topmost < Disk.empty.nextNumber := by decide
  have fits : 5 + Disk.longestName ≤ Disk.longestPath := by decide
  rcases directory_agrees_with_store (.ofSeed 1) made empty fits below with
    ⟨agree, _, _⟩
  have refused := (agree (.create long) longBelow).long rfl overlong
  rw [length_eq] at refused
  exact ⟨⟨made, empty, fits, below⟩,
    (agree (.read ⟨3⟩ [0, 0]) readBelow).same nofun, refused.1, refused.2⟩

end FileConformance
