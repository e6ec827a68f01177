import FileConformance.Proofs.Directory.Handles
import FileConformance.Proofs.Directory.Reach
import FileConformance.Proofs.Procedure.Leads

/-!
# What a call on a name touches

A create, an open and a delete take a name.  Either the name is no single path
component, and the call is refused before the system is asked, or it is looked
up directly in the root.  A delete takes away that name and no other.  A create
makes a file, or empties the one there is, where the name leads: the name itself
or, if it is a symbolic link, wherever that says, in the root or elsewhere.  An
open changes no file at all.

Everything else stays where it is and keeps what it holds, and so do the files
that are held without a name.  A directory of that name is left alone.
-/

namespace FileConformance

namespace Directory

variable {directory : Directory} {name : Bytes} {request : Call}

/-! ## Where a name leads -/

/-- Where a name leads that is looked up directly in the root. -/
def LeadsTo (directory : Directory) (name : Bytes) (goal : Disk.Goal) :
    Prop :=
  ∃ root, directory.root = .ok root ∧
    directory.disk.Leads root [name] goal

theorem LeadsTo.unique {goal other : Disk.Goal}
    (leads : directory.LeadsTo name goal)
    (leadsToo : directory.LeadsTo name other) : other = goal := by
  rcases leads with ⟨root, root_eq, led⟩
  rcases leadsToo with ⟨rootToo, root_eq_too, ledToo⟩
  cases root_eq.symm.trans root_eq_too
  exact led.unique ledToo

theorem lookedUp_of_isComponent (component : isComponent name = true) :
    Disk.LookedUp name := by
  have proper : isComponent name ≠ false := ne_false_of_eq_true component
  refine ⟨?_, ?_, ?_⟩
  · rintro rfl
    exact proper rfl
  · rintro rfl
    exact proper rfl
  · rintro rfl
    exact proper rfl

/-- What succeeds for a name was done directly in the root. -/
theorem exists_root {Value : Type}
    {operation : Place → Except SystemError Value} {value : Value}
    (success : (directory.locate name >>= fun place =>
      (operation place).mapError CallError.ofSystem) = .ok value) :
    ∃ root, directory.root = .ok root ∧ Disk.LookedUp name ∧
      operation ⟨root, name⟩ = .ok value := by
  cases root_eq : directory.root with
  | ok root =>
      rcases (atPlace_eq_ok_iff root_eq).mp success with
        ⟨component, _, done⟩
      exact ⟨root, rfl, lookedUp_of_isComponent component, done⟩
  | error reason =>
      -- Without a root no name has a place.
      have nowhere : ∃ refusal, directory.locate name = .error refusal := by
        unfold locate place
        rw [root_eq]
        split
        · split
          · exact ⟨_, rfl⟩
          · exact ⟨_, rfl⟩
        · exact ⟨_, rfl⟩
      rcases nowhere with ⟨refusal, refused⟩
      rw [refused] at success
      cases success

theorem isComponent_eq_false_iff :
    isComponent name = false ↔
      name = [] ∨ name = Disk.selfName ∨ name = Disk.parentName ∨
        0x2f ∈ name ∨ 0 ∈ name := by
  simp only [isComponent, Bool.and_eq_false_iff, Bool.not_eq_false',
    List.isEmpty_iff, bne_eq_false_iff_eq, List.contains_iff_mem, or_assoc]

/-- A name that has no place is refused by all calls that take it. -/
theorem respond_of_refused {reason : CallError}
    (takes : request.name? = some name)
    (refused : directory.locate name = .error reason) :
    request.failure? (subsystem.respond request directory).answer =
        some reason ∧
      (subsystem.respond request directory).state = directory := by
  cases request with
  | create name =>
      cases takes
      show Call.failure? (.create name) (directory.create name).answer = _ ∧
        (directory.create name).state = directory
      rw [create_of_refused refused]
      exact ⟨rfl, rfl⟩
  | openFile name =>
      cases takes
      show Call.failure? (.openFile name) (directory.openFile name).answer =
          _ ∧ (directory.openFile name).state = directory
      rw [openFile_of_refused refused]
      exact ⟨rfl, rfl⟩
  | delete name =>
      cases takes
      show Call.failure? (.delete name) (directory.delete name).answer = _ ∧
        (directory.delete name).state = directory
      rw [delete_of_refused refused]
      exact ⟨rfl, rfl⟩
  | close handle => cases takes
  | read handle buffer => cases takes
  | write handle data => cases takes
  | exit code => cases takes

/-! ## Directories as calls leave them -/

/--
A directory on whose disk the files are numbered, and whose handles were issued
here and are open on files that were made.
-/
structure Sound (directory : Directory) : Prop where
  numbered : directory.disk.Numbered
  held_lt : ∀ {handle : Handle} {opened : OpenFile},
    directory.handles[handle]? = some opened →
      opened.file < directory.disk.nextNumber
  issued_lt : ∀ {handle : Handle} {opened : OpenFile},
    directory.handles[handle]? = some opened →
      handle.number < directory.nextHandle

namespace Sound

theorem fresh {disk : Disk} (numbered : disk.Numbered)
    (root : Except SystemError Nat) (leading : Nat) :
    (Directory.fresh disk root leading).Sound where
  numbered := numbered
  held_lt := by simp [Directory.fresh]
  issued_lt := by simp [Directory.fresh]

theorem openHandle (sound : directory.Sound) {disk : Disk} {file : Nat}
    (numbered : disk.Numbered) (made : file < disk.nextNumber)
    (grown : directory.disk.nextNumber ≤ disk.nextNumber) :
    (directory.openHandle disk file).2.Sound where
  numbered := numbered
  held_lt := by
    intro handle opened found
    rw [Directory.openHandle, Std.ExtTreeMap.getElem?_insert] at found
    split at found
    · cases found
      exact made
    · exact Nat.lt_of_lt_of_le (sound.held_lt found) grown
  issued_lt := by
    intro handle opened found
    rw [Directory.openHandle, Std.ExtTreeMap.getElem?_insert] at found
    split at found
    · rename_i same
      rw [Std.LawfulEqOrd.compare_eq_iff_eq] at same
      subst same
      exact Nat.lt_succ_self _
    · exact Nat.lt_succ_of_lt (sound.issued_lt found)

theorem advance (sound : directory.Sound) (handle : Handle)
    (count : Nat) : (directory.advance handle count).Sound := by
  have before : ∀ {other : Handle} {opened : OpenFile},
      (directory.advance handle count).handles[other]? = some opened →
        ∃ held, directory.handles[other]? = some held ∧
          held.file = opened.file := by
    intro other opened found
    rw [Directory.advance, Std.ExtTreeMap.getElem?_modify] at found
    split at found
    · rename_i same
      rw [Std.LawfulEqOrd.compare_eq_iff_eq] at same
      subst same
      rcases Option.map_eq_some_iff.mp found with ⟨held, present, rfl⟩
      exact ⟨held, present, rfl⟩
    · exact ⟨opened, found, rfl⟩
  refine ⟨sound.numbered, ?_, ?_⟩
  · intro other opened found
    rcases before found with ⟨held, present, same⟩
    exact same ▸ sound.held_lt present
  · intro other opened found
    rcases before found with ⟨held, present, _⟩
    exact sound.issued_lt present

theorem create (sound : directory.Sound) (name : Bytes) :
    (directory.create name).state.Sound := by
  unfold Directory.create
  split
  · exact sound
  · rename_i success
    rcases exists_root success with ⟨root, _, lookedUp, created⟩
    rcases Disk.createFile_numbers sound.numbered lookedUp created with
      ⟨made, grown⟩
    exact sound.openHandle (sound.numbered.createFile created) made grown

theorem openFile (sound : directory.Sound) (name : Bytes) :
    (directory.openFile name).state.Sound := by
  unfold Directory.openFile
  split
  · exact sound
  · rename_i success
    rcases exists_root success with ⟨root, _, lookedUp, opened⟩
    have led := Disk.goal_leads lookedUp
      (Disk.openFile_eq_ok_iff.mp opened)
    rcases led.named with ⟨place, present⟩
    exact sound.openHandle sound.numbered (sound.numbered.file_lt present)
      (Nat.le_refl _)

theorem close (sound : directory.Sound) (handle : Handle) :
    (directory.close handle).state.Sound := by
  unfold Directory.close
  split
  · exact sound
  · have before : ∀ {other : Handle} {opened : OpenFile},
        (directory.handles.erase handle)[other]? = some opened →
          directory.handles[other]? = some opened := by
      intro other opened found
      rw [Std.ExtTreeMap.getElem?_erase] at found
      split at found
      · cases found
      · exact found
    exact ⟨sound.numbered, fun found => sound.held_lt (before found),
      fun found => sound.issued_lt (before found)⟩

theorem write (sound : directory.Sound) (handle : Handle)
    (data : Bytes) : (directory.write handle data).state.Sound := by
  unfold Directory.write
  split
  · exact sound
  · rename_i opened _
    let disk := directory.disk.writeFile opened.file opened.position data
    have same : disk.nextNumber = directory.disk.nextNumber :=
      Disk.nextNumber_writeFile directory.disk _ _ _
    have written : Sound { directory with disk } :=
      ⟨sound.numbered.writeFile _ _ _,
        fun found => same ▸ sound.held_lt found, sound.issued_lt⟩
    exact written.advance handle data.length

theorem delete (sound : directory.Sound) (name : Bytes) :
    (directory.delete name).state.Sound := by
  unfold Directory.delete
  split
  · exact sound
  · rename_i success
    rcases exists_root success with ⟨_, _, _, removed⟩
    have numbered := sound.numbered.removeFile removed
    rcases Disk.removeFile_eq_ok_iff.mp removed with ⟨_, rfl⟩
    exact ⟨numbered, sound.held_lt, sound.issued_lt⟩

theorem respond (sound : directory.Sound) (request : Call) :
    (subsystem.respond request directory).state.Sound := by
  cases request with
  | create name => exact sound.create name
  | openFile name => exact sound.openFile name
  | close handle => exact sound.close handle
  | read handle buffer =>
      show (directory.read handle buffer).state.Sound
      unfold Directory.read
      split
      · exact sound
      · exact sound.advance handle _
  | write handle data => exact sound.write handle data
  | delete name => exact sound.delete name
  | exit code => exact sound

theorem after (sound : directory.Sound) (calls : List Call) :
    (subsystem.after calls directory).Sound :=
  Subsystem.after_keeps (fun request _ _ kept => kept.respond request) sound

end Sound

/-! ## One file at most -/

/-- What a call that takes a name can make of the disk. -/
inductive Effect (before : Directory) (name : Bytes) :
    Call → Disk → Prop where
  | kept {request : Call} : Effect before name request before.disk
  /-- A file is made at the free place to which the name leads. -/
  | added {spot : Place} {after : Disk}
      (leads : before.LeadsTo name (.missing spot))
      (adds : before.disk.Adds spot after) :
      Effect before name (.create name) after
  /-- The file is emptied to which the name leads. -/
  | emptied {file : Nat} {after : Disk}
      (leads : before.LeadsTo name (.file file))
      (empties : before.disk.Empties file after) :
      Effect before name (.create name) after
  /-- The name itself is removed. -/
  | removed {root : Nat} {after : Disk} (root_eq : before.root = .ok root)
      (removes : before.disk.Removes ⟨root, name⟩ after) :
      Effect before name (.delete name) after

/-- What has become of a directory when a call took a name. -/
structure Touches (before : Directory) (name : Bytes) (request : Call)
    (after : Directory) : Prop where
  root_eq : after.root = before.root
  leading_eq : after.leading = before.leading
  /-- Where the root cannot be reached, nothing can. -/
  unreachable : ∀ {reason : SystemError},
    before.root = .error reason → after = before
  effect : before.Effect name request after.disk
  /-- Where the name is that of a directory, nothing changes at all. -/
  directory_kept : ∀ {root number : Nat}, before.root = .ok root →
    before.disk.nodes[Place.mk root name]? = some (.directory number) →
      after = before
  /-- Every handle is open where it was. -/
  handle_eq : ∀ {handle : Handle} {opened : OpenFile},
    before.handles[handle]? = some opened →
      after.handles[handle]? = some opened
  /-- And its file, with or without a name, holds what it held. -/
  held_eq : ∀ {handle : Handle} {opened : OpenFile},
    before.handles[handle]? = some opened →
      ¬before.LeadsTo name (.file opened.file) →
        after.disk.content opened.file = before.disk.content opened.file
  /-- A handle that was issued is at the start of the file of that name. -/
  issued : ∀ {handle : Handle} {opened : OpenFile},
    before.handles[handle]? = none →
      after.handles[handle]? = some opened →
        opened.position = 0 ∧ after.LeadsTo name (.file opened.file)

/-- A file that is held changes only if the name leads to it. -/
theorem Effect.held_eq (sound : directory.Sound) {after : Disk}
    (effect : directory.Effect name request after) {handle : Handle}
    {opened : OpenFile} (held : directory.handles[handle]? = some opened)
    (elsewhere : ¬directory.LeadsTo name (.file opened.file)) :
    after.content opened.file = directory.disk.content opened.file := by
  cases effect with
  | kept => rfl
  | added _ adds =>
      exact adds.content_eq (Nat.ne_of_lt (sound.held_lt held))
  | emptied leads empties =>
      apply empties.content_eq
      rintro rfl
      exact elsewhere leads
  | removed _ removes => exact removes.content_eq _

namespace Touches

theorem refl (directory : Directory) (name : Bytes) (request : Call) :
    directory.Touches name request directory where
  root_eq := rfl
  leading_eq := rfl
  unreachable := fun _ => rfl
  effect := .kept
  directory_kept := fun _ _ => rfl
  handle_eq := id
  held_eq := fun _ _ => rfl
  issued := by
    intro handle opened missing found
    rw [missing] at found
    cases found

/-- Opening the file to which a name leads by then, unless to a directory. -/
theorem openHandle (sound : directory.Sound) {root : Nat}
    (root_eq : directory.root = .ok root) {disk : Disk} {file : Nat}
    (effect : directory.Effect name request disk)
    (free : ∀ number, directory.disk.nodes[Place.mk root name]? ≠
      some (.directory number))
    (leads : disk.Leads root [name] (.file file)) :
    directory.Touches name request
      (directory.openHandle disk file).2 where
  root_eq := rfl
  leading_eq := rfl
  unreachable := by
    intro reason missing
    cases root_eq.symm.trans missing
  effect := effect
  directory_kept := by
    intro rootToo number root_eq_too occupied
    cases root_eq.symm.trans root_eq_too
    exact absurd occupied (free number)
  handle_eq := by
    intro handle opened found
    have old := sound.issued_lt found
    rw [Directory.openHandle, Std.ExtTreeMap.getElem?_insert, if_neg, found]
    rw [Std.LawfulEqOrd.compare_eq_iff_eq]
    rintro rfl
    exact Nat.lt_irrefl _ old
  held_eq := fun held elsewhere => effect.held_eq sound held elsewhere
  issued := by
    intro handle opened missing found
    rw [Directory.openHandle, Std.ExtTreeMap.getElem?_insert] at found
    split at found
    · cases found
      exact ⟨rfl, root, root_eq, leads⟩
    · rw [missing] at found
      cases found

theorem create (sound : directory.Sound) (name : Bytes) :
    directory.Touches name (.create name)
      (directory.create name).state := by
  unfold Directory.create
  split
  · exact refl directory name _
  · rename_i file disk success
    rcases exists_root success with ⟨root, root_eq, lookedUp, created⟩
    rcases Disk.createFile_eq_ok_iff.mp created with ⟨goal, found, made⟩
    have led := Disk.goal_leads lookedUp found
    have free : ∀ number, directory.disk.nodes[Place.mk root name]? ≠
        some (.directory number) := by
      intro number occupied
      cases (Disk.goal_of_directory occupied).symm.trans found
      cases made
    cases goal with
    | directory number => cases made
    | file known =>
        rcases Disk.makeFile_empties made with ⟨empties, rfl⟩
        exact openHandle sound root_eq
          (.emptied ⟨root, root_eq, led⟩ empties) free
          (led.congr empties.nodes_eq empties.parents_eq)
    | missing spot =>
        rcases Disk.makeFile_adds sound.numbered led.free made with
          ⟨adds, rfl⟩
        exact openHandle sound root_eq (.added ⟨root, root_eq, led⟩ adds)
          free (adds.leads led)

theorem openFile (sound : directory.Sound) (name : Bytes) :
    directory.Touches name (.openFile name)
      (directory.openFile name).state := by
  unfold Directory.openFile
  split
  · exact refl directory name _
  · rename_i file success
    rcases exists_root success with ⟨root, root_eq, lookedUp, opened⟩
    have found := Disk.openFile_eq_ok_iff.mp opened
    refine openHandle sound root_eq .kept ?_
      (Disk.goal_leads lookedUp found)
    intro number occupied
    cases (Disk.goal_of_directory occupied).symm.trans found

theorem delete (name : Bytes) :
    directory.Touches name (.delete name)
      (directory.delete name).state := by
  unfold Directory.delete
  split
  · exact refl directory name _
  · rename_i disk success
    rcases exists_root success with ⟨root, root_eq, _, removed⟩
    have removes := Disk.removeFile_removes removed
    exact {
      root_eq := rfl
      leading_eq := rfl
      unreachable := by
        intro reason missing
        cases root_eq.symm.trans missing
      effect := .removed root_eq removes
      directory_kept := by
        intro rootToo number root_eq_too occupied
        cases root_eq.symm.trans root_eq_too
        rcases removes.was with ⟨node, present, other⟩
        cases present.symm.trans occupied
        exact absurd rfl (other number)
      handle_eq := id
      held_eq := fun _ _ => removes.content_eq _
      issued := by
        intro handle opened missing found
        rw [missing] at found
        cases found }

theorem respond (sound : directory.Sound)
    (takes : request.name? = some name) :
    directory.Touches name request
      (subsystem.respond request directory).state := by
  cases request with
  | create name =>
      cases takes
      exact create sound name
  | openFile name =>
      cases takes
      exact openFile sound name
  | delete name =>
      cases takes
      exact delete name
  | close handle => cases takes
  | read handle buffer => cases takes
  | write handle data => cases takes
  | exit code => cases takes

end Touches

/--
Whatever byte string is taken as a name: if it is empty, denotes a directory by
its place in the tree, or has a separator or a null byte in it, the call is
refused as taking an invalid name, and nothing changes.  In any case a create
can only make an empty file or empty the one there is where the name leads that
is looked up in the root, an open changes no file, and a delete can only remove
that name in the root, of a file or a link.  Everything else is left alone.

A name leads out of the root only if it is a link: any other name is itself the
place at which a file is made, or the name of the file that is emptied.

A directory is sound to begin with if the files on its disk are numbered, and
calls keep it so.
-/
theorem named_call_touches_one_file (sound : directory.Sound)
    (takes : request.name? = some name) :
    let reply := subsystem.respond request directory
    (name = [] ∨ name = Disk.selfName ∨ name = Disk.parentName ∨
        0x2f ∈ name ∨ 0 ∈ name →
      request.failure? reply.answer = some .invalidName ∧
        reply.state = directory) ∧
      directory.Touches name request reply.state ∧
      ∀ {root : Nat}, directory.root = .ok root →
        (∀ target, directory.disk.nodes[Place.mk root name]? ≠
          some (.link target)) →
        (∀ {spot : Place}, directory.LeadsTo name (.missing spot) →
          spot = ⟨root, name⟩) ∧
        ∀ {file : Nat}, directory.LeadsTo name (.file file) →
          directory.disk.nodes[Place.mk root name]? =
            some (.file file) := by
  intro reply
  refine ⟨?_, Touches.respond sound takes, ?_⟩
  · intro unusable
    have invalid := isComponent_eq_false_iff.mpr unusable
    exact respond_of_refused takes (if_neg (Bool.eq_false_iff.mp invalid))
  · intro root root_eq unlinked
    constructor
    · rintro spot ⟨rootToo, root_eq_too, leads⟩
      cases root_eq.symm.trans root_eq_too
      exact leads.missing_of_unlinked unlinked
    · rintro file ⟨rootToo, root_eq_too, leads⟩
      cases root_eq.symm.trans root_eq_too
      exact leads.file_of_unlinked unlinked

/-- A file in the root that is held open, and a link to one beside the root. -/
theorem named_call_touches_one_file_held :
    let tree := ((Disk.empty.withDirectory ⟨0, [114]⟩).withFile ⟨0, [115]⟩
      [1]).withFile ⟨1, [97]⟩ [2, 3]
    let disk := tree.withNode ⟨1, [108]⟩ (.link [46, 46, 47, 115])
    let directory := subsystem.after [.openFile [97]] (fresh disk (.ok 1) 2)
    let after := fun request => (subsystem.respond request directory).state
    after (.create [46, 46]) = directory ∧
      (after (.create [108])).handles[Handle.mk 2]? = some ⟨3, 0⟩ ∧
      (after (.create [108])).disk.content 3 = [2, 3] ∧
      (after (.delete [108])).disk.content 3 = [2, 3] := by
  intro tree disk directory after
  have numbered : tree.Numbered :=
    (((Disk.Tree.empty.withDirectory (by decide)).withFile _ _).withFile
      _ _).toNumbered
  have linked : disk.Numbered := by
    refine numbered.withNode _ ?_
    nofun
  have sound : directory.Sound := (Sound.fresh linked (.ok 1) 2).after _
  have parent := named_call_touches_one_file sound
    (show (Call.create Disk.parentName).name? = some Disk.parentName from rfl)
  have created := (named_call_touches_one_file sound
    (show (Call.create [108]).name? = some [108] from rfl)).2.1
  have deleted := (named_call_touches_one_file sound
    (show (Call.delete [108]).name? = some [108] from rfl)).2.1
  have held : directory.handles[Handle.mk 2]? = some ⟨3, 0⟩ := by
    decide +kernel
  have holds : directory.disk.content 3 = [2, 3] := by decide +kernel
  have outside : directory.LeadsTo [108] (.file 2) :=
    ⟨1, rfl, Disk.goal_leads (lookedUp_of_isComponent (by decide))
      (by decide +kernel :
        directory.disk.goal false ⟨1, [108]⟩ = .ok (.file 2))⟩
  have elsewhere : ¬directory.LeadsTo [108] (.file 3) := by
    intro leads
    cases outside.unique leads
  exact ⟨(parent.1 (by decide)).2, created.handle_eq held,
    (created.held_eq held elsewhere).trans holds,
    (deleted.held_eq held elsewhere).trans holds⟩

/--
A create empties a file beside the root if a link in the root leads there, or if
the file has a second name in the root.
-/
theorem create_empties_outside_root :
    let tree := (Disk.empty.withDirectory ⟨0, [114]⟩).withFile ⟨0, [115]⟩ [1]
    let linked := tree.withNode ⟨1, [108]⟩ (.link [46, 46, 47, 115])
    let disk := linked.withNode ⟨1, [104]⟩ (.file 2)
    let after := fun name =>
      (subsystem.respond (.create name) (fresh disk (.ok 1) 2)).state.disk
    disk.nodes[Place.mk 0 [115]]? = some (.file 2) ∧
      disk.content 2 = [1] ∧
      ∀ name ∈ [[108], [104]], isComponent name = true ∧
        (after name).nodes[Place.mk 0 [115]]? = some (.file 2) ∧
          (after name).content 2 = [] := by
  decide +kernel

end Directory

end FileConformance
