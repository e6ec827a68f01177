import FileConformance.Proofs.Disk.Tree

/-!
# What becomes of a disk

A file that is made is new, and nothing else is.  A file that is emptied stays
where it is, under all its names, and a name that is removed leaves the file
alone.  In each case all other names, directories and files are as they were.

Nor does making or emptying a file lead anybody astray: a name that led to a
free place leads to the file that was made there.
-/

namespace FileConformance

namespace Disk

/-! ## Single entries -/

section

variable {disk : Disk} {place : Place}

/-! A file gets a content: it has this one then, and the others have theirs. -/

theorem content_insert_self (disk : Disk) (file : Nat) (data : Bytes) :
    ({ disk with contents := disk.contents.insert file data } : Disk).content
      file = data := by
  rw [content, Std.ExtTreeMap.getElem?_insert_self]
  rfl

theorem content_insert_of_ne (disk : Disk) {file other : Nat}
    (ne : other ≠ file) (data : Bytes) :
    ({ disk with contents := disk.contents.insert file data } : Disk).content
      other = disk.content other := by
  rw [content, Std.ExtTreeMap.getElem?_insert, if_neg]
  · rfl
  · rw [Std.LawfulEqOrd.compare_eq_iff_eq]
    exact ne.symm

theorem nodes_insert_of_ne (disk : Disk) {other : Place}
    (ne : other ≠ place) (node : Node) :
    (disk.nodes.insert place node)[other]? = disk.nodes[other]? := by
  rw [Std.ExtTreeMap.getElem?_insert, if_neg]
  rw [Std.LawfulEqOrd.compare_eq_iff_eq]
  exact ne.symm

theorem nodes_erase_of_ne (disk : Disk) {other : Place}
    (ne : other ≠ place) :
    (disk.nodes.erase place)[other]? = disk.nodes[other]? := by
  rw [Std.ExtTreeMap.getElem?_erase, if_neg]
  rw [Std.LawfulEqOrd.compare_eq_iff_eq]
  exact ne.symm

/-- Only the file that is written to has another content. -/
theorem content_writeFile_of_ne {file other : Nat} (ne : other ≠ file)
    (offset : Nat) (data : Bytes) :
    (disk.writeFile file offset data).content other =
      disk.content other := by
  unfold writeFile
  split
  · rfl
  · exact disk.content_insert_of_ne ne _

theorem nodes_writeFile (disk : Disk) (file offset : Nat) (data : Bytes) :
    (disk.writeFile file offset data).nodes = disk.nodes := by
  unfold writeFile
  split
  · rfl
  · rfl

theorem nextNumber_writeFile (disk : Disk) (file offset : Nat)
    (data : Bytes) :
    (disk.writeFile file offset data).nextNumber = disk.nextNumber := by
  unfold writeFile
  split
  · rfl
  · rfl

end

variable {before after : Disk} {directory : Nat} {name : Bytes}
  {names : List Bytes} {place spot : Place} {goal : Goal}

/-! ## Making, emptying and removing -/

/-- Where nothing was, there is a new and empty file. -/
structure Adds (before : Disk) (spot : Place) (after : Disk) : Prop where
  free : before.nodes[spot]? = none
  /-- No file had the number. -/
  unused : ∀ {place : Place},
    before.nodes[place]? ≠ some (.file before.nextNumber)
  present : after.nodes[spot]? = some (.file before.nextNumber)
  empty : after.content before.nextNumber = []
  node_eq : ∀ {other : Place}, other ≠ spot →
    after.nodes[other]? = before.nodes[other]?
  parents_eq : after.parents = before.parents
  content_eq : ∀ {file : Nat}, file ≠ before.nextNumber →
    after.content file = before.content file

/-- A file holds nothing any more, under any of its names. -/
structure Empties (before : Disk) (file : Nat) (after : Disk) : Prop where
  empty : after.content file = []
  nodes_eq : after.nodes = before.nodes
  parents_eq : after.parents = before.parents
  content_eq : ∀ {other : Nat}, other ≠ file →
    after.content other = before.content other

/-- A name is gone, of a file or of a link; all files hold what they held. -/
structure Removes (before : Disk) (place : Place) (after : Disk) :
    Prop where
  was : ∃ node, before.nodes[place]? = some node ∧
    ∀ number, node ≠ .directory number
  gone : after.nodes[place]? = none
  node_eq : ∀ {other : Place}, other ≠ place →
    after.nodes[other]? = before.nodes[other]?
  parents_eq : after.parents = before.parents
  content_eq : ∀ file, after.content file = before.content file

theorem makeFile_adds (numbered : before.Numbered)
    (free : before.nodes[spot]? = none) {file : Nat}
    (made : before.makeFile (.missing spot) = .ok (file, after)) :
    before.Adds spot after ∧ file = before.nextNumber := by
  cases made
  refine ⟨?_, rfl⟩
  exact {
    free
    unused := fun found => Nat.lt_irrefl _ (numbered.file_lt found)
    present := Std.ExtTreeMap.getElem?_insert_self
    empty := before.content_insert_self _ _
    node_eq := fun ne => before.nodes_insert_of_ne ne _
    parents_eq := rfl
    content_eq := fun ne => before.content_insert_of_ne ne _ }

theorem makeFile_empties {known file : Nat}
    (made : before.makeFile (.file known) = .ok (file, after)) :
    before.Empties known after ∧ file = known := by
  cases made
  refine ⟨?_, rfl⟩
  exact {
    empty := before.content_insert_self _ _
    nodes_eq := rfl
    parents_eq := rfl
    content_eq := fun ne => before.content_insert_of_ne ne _ }

theorem removeFile_removes (removed : before.removeFile place = .ok after) :
    before.Removes place after := by
  rcases removeFile_eq_ok_iff.mp removed with ⟨was, rfl⟩
  exact {
    was
    gone := Std.ExtTreeMap.getElem?_erase_self
    node_eq := before.nodes_erase_of_ne
    parents_eq := rfl
    content_eq := fun _ => rfl }

/-! ## Where names lead afterwards -/

theorem look_congr (nodes_eq : after.nodes = before.nodes)
    (parents_eq : after.parents = before.parents) :
    after.look directory name = before.look directory name := by
  rw [look, look, above, above, nodes_eq, parents_eq]

/-- Whoever empties a file leads nobody astray. -/
theorem Leads.congr (nodes_eq : after.nodes = before.nodes)
    (parents_eq : after.parents = before.parents)
    (leads : before.Leads directory names goal) :
    after.Leads directory names goal := by
  have looked : ∀ {directory : Nat} {name : Bytes},
      after.look directory name = before.look directory name :=
    look_congr nodes_eq parents_eq
  induction leads with
  | arrived => exact .arrived
  | down found _ ih => exact .down (looked.trans found) ih
  | through found _ ih => exact .through (looked.trans found) ih
  | file found => exact .file (looked.trans found)
  | missing free => exact .missing (looked.trans free)

namespace Adds

variable (adds : before.Adds spot after)

include adds

/-- What was found before is found in the same place. -/
theorem look_of_some {node : Node}
    (found : before.look directory name = some node) :
    after.look directory name = some node := by
  unfold look above at found ⊢
  rw [adds.parents_eq]
  split
  · rename_i here
    rwa [if_pos here] at found
  · rename_i notHere
    rw [if_neg notHere] at found
    split
    · rename_i up
      rwa [if_pos up] at found
    · rename_i notUp
      rw [if_neg notUp] at found
      rw [adds.node_eq, found]
      rintro rfl
      cases adds.free.symm.trans found

/-- What led to the free place leads to the file in it. -/
theorem leads (led : before.Leads directory names (.missing spot)) :
    after.Leads directory names (.file before.nextNumber) := by
  generalize same : Goal.missing spot = goal at led
  induction led with
  | arrived | file => cases same
  | down found _ ih => exact .down (adds.look_of_some found) (ih same)
  | through found _ ih => exact .through (adds.look_of_some found) (ih same)
  | @missing inside name free =>
      cases same
      refine .file ?_
      unfold look at free ⊢
      split at free
      · cases free
      · rename_i notHere
        split at free
        · cases free
        · rename_i notUp
          rw [if_neg notHere, if_neg notUp, adds.present]

end Adds

/-! ## Names that are no links -/

section

variable (unlinked : ∀ target,
  before.nodes[Place.mk directory name]? ≠ some (.link target))

include unlinked

theorem Leads.missing_of_unlinked
    (leads : before.Leads directory [name] (.missing spot)) :
    spot = ⟨directory, name⟩ := by
  cases leads with
  | down _ onward => cases onward
  | through found _ =>
      exact absurd (nodes_eq_of_look found nofun) (unlinked _)
  | missing => rfl

theorem Leads.file_of_unlinked {file : Nat}
    (leads : before.Leads directory [name] (.file file)) :
    before.nodes[Place.mk directory name]? = some (.file file) := by
  cases leads with
  | down _ onward => cases onward
  | through found _ =>
      exact absurd (nodes_eq_of_look found nofun) (unlinked _)
  | file found => exact nodes_eq_of_look found nofun

end

/-! ## Numbers -/

/-- A file that was made or emptied is numbered, and no number is taken back. -/
theorem createFile_numbers (numbered : before.Numbered)
    (lookedUp : LookedUp name) {file : Nat}
    (created : before.createFile ⟨directory, name⟩ = .ok (file, after)) :
    file < after.nextNumber ∧ before.nextNumber ≤ after.nextNumber := by
  rcases createFile_eq_ok_iff.mp created with ⟨goal, found, made⟩
  cases goal with
  | directory number => cases made
  | file known =>
      cases made
      rcases (goal_leads lookedUp found).named with ⟨place, present⟩
      exact ⟨numbered.file_lt present, Nat.le_refl _⟩
  | missing spot =>
      cases made
      exact ⟨Nat.lt_succ_self _, Nat.le_succ _⟩

end Disk

end FileConformance
