import FileConformance.Disk.Listing
import FileConformance.Proofs.Disk.Links
import Mathlib.Data.List.Basic

/-!
# Disks on which directories form a tree

A file gets a number that was not used before, and a directory is made after
the one above it.  So directories form a tree: no way down comes back to where
it started.  Every operation keeps this.

A file may have several names, and links may lead to it.  If it has one name
only, it can be taken from its directory without anything else below that
directory being another one.
-/

namespace FileConformance

namespace Disk

variable {disk : Disk} {place : Place}

/-! ## Numbers -/

/-- Every file on the disk has a number that was used up before. -/
structure Numbered (disk : Disk) : Prop where
  file_lt : ∀ {place : Place} {file : Nat},
    disk.nodes[place]? = some (.file file) → file < disk.nextNumber

/-- What is at a place once something was put at one. -/
theorem found_of_insert {new node : Node} {other : Place}
    (found : (disk.nodes.insert place new)[other]? = some node) :
    other = place ∧ node = new ∨ disk.nodes[other]? = some node := by
  rw [Std.ExtTreeMap.getElem?_insert] at found
  split at found
  · rename_i same
    cases found
    exact Or.inl ⟨(Std.LawfulEqOrd.eq_of_compare same).symm, rfl⟩
  · exact Or.inr found

theorem found_of_erase {node : Node} {other : Place}
    (found : (disk.nodes.erase place)[other]? = some node) :
    disk.nodes[other]? = some node := by
  rw [Std.ExtTreeMap.getElem?_erase] at found
  split at found
  · cases found
  · exact found

namespace Numbered

theorem empty : Disk.empty.Numbered where
  file_lt := by simp [Disk.empty]

/-- A file is numbered as it is made, whatever the links on the way. -/
theorem createFile (numbered : disk.Numbered) {file : Nat} {made : Disk}
    (created : disk.createFile place = .ok (file, made)) :
    made.Numbered := by
  rcases createFile_eq_ok_iff.mp created with ⟨goal, _, done⟩
  cases goal with
  | directory number => cases done
  | file number =>
      cases done
      exact ⟨numbered.file_lt⟩
  | missing free =>
      cases done
      constructor
      intro other number found
      rcases found_of_insert found with ⟨_, new⟩ | before
      · cases new
        exact Nat.lt_succ_self _
      · exact Nat.lt_succ_of_lt (numbered.file_lt before)

theorem removeFile (numbered : disk.Numbered) {left : Disk}
    (removed : disk.removeFile place = .ok left) : left.Numbered := by
  rcases removeFile_eq_ok_iff.mp removed with ⟨_, rfl⟩
  exact ⟨fun found => numbered.file_lt (found_of_erase found)⟩

theorem makeDirectory (numbered : disk.Numbered) {made : Disk}
    (created : disk.makeDirectory place = .ok made) : made.Numbered := by
  unfold Disk.makeDirectory at created
  split at created
  · cases created
  · cases created
    constructor
    intro other number found
    rcases found_of_insert found with ⟨_, new⟩ | before
    · cases new
    · exact Nat.lt_succ_of_lt (numbered.file_lt before)

theorem writeFile (numbered : disk.Numbered) (file offset : Nat)
    (data : Bytes) : (disk.writeFile file offset data).Numbered := by
  unfold Disk.writeFile
  split
  · exact numbered
  · exact ⟨numbered.file_lt⟩

end Numbered

/-! ## Trees -/

/-- On this disk directories form a tree. -/
structure Tree (disk : Disk) : Prop extends Numbered disk where
  /-- The directories in a directory are numbered later. -/
  descending : ∀ {place : Place} {inner : Nat},
    disk.nodes[place]? = some (.directory inner) → place.directory < inner

namespace Tree

theorem empty : Disk.empty.Tree where
  toNumbered := .empty
  descending := by simp [Disk.empty]

theorem createFile (tree : disk.Tree) {file : Nat} {made : Disk}
    (created : disk.createFile place = .ok (file, made)) : made.Tree where
  toNumbered := tree.toNumbered.createFile created
  descending := by
    intro other inner found
    rcases createFile_eq_ok_iff.mp created with ⟨goal, _, done⟩
    cases goal with
    | directory number => cases done
    | file number =>
        cases done
        exact tree.descending found
    | missing free =>
        cases done
        rcases found_of_insert found with ⟨_, new⟩ | before
        · cases new
        · exact tree.descending before

theorem removeFile (tree : disk.Tree) {left : Disk}
    (removed : disk.removeFile place = .ok left) : left.Tree where
  toNumbered := tree.toNumbered.removeFile removed
  descending := by
    intro other inner found
    rcases removeFile_eq_ok_iff.mp removed with ⟨_, rfl⟩
    exact tree.descending (found_of_erase found)

theorem makeDirectory (tree : disk.Tree) {made : Disk}
    (within : place.directory < disk.nextNumber)
    (created : disk.makeDirectory place = .ok made) : made.Tree where
  toNumbered := tree.toNumbered.makeDirectory created
  descending := by
    intro other inner found
    unfold Disk.makeDirectory at created
    split at created
    · cases created
    · cases created
      rcases found_of_insert found with ⟨rfl, new⟩ | before
      · cases new
        exact within
      · exact tree.descending before

theorem writeFile (tree : disk.Tree) (file offset : Nat) (data : Bytes) :
    (disk.writeFile file offset data).Tree where
  toNumbered := tree.toNumbered.writeFile file offset data
  descending := by
    unfold Disk.writeFile
    split
    · exact tree.descending
    · exact tree.descending

end Tree

/-! ## Files with one name -/

/--
What is at a place is there by itself: it is no link, and if it is a file, it
has no other name.
-/
structure Own (disk : Disk) (place : Place) : Prop where
  unlinked : ∀ target, disk.nodes[place]? ≠ some (.link target)
  single : ∀ {other : Place} {file : Nat},
    disk.nodes[place]? = some (.file file) →
      disk.nodes[other]? = some (.file file) → other = place

theorem Own.erase {other : Place} (own : disk.Own other) (place : Place) :
    Own { disk with nodes := disk.nodes.erase place } other where
  unlinked := fun target found =>
    own.unlinked target (found_of_erase found)
  single := fun found foundToo =>
    own.single (found_of_erase found) (found_of_erase foundToo)

/-! ## Disks to begin with -/

/-- The disk with a file that holds some data, where one can be made. -/
def withFile (disk : Disk) (place : Place) (data : Bytes) : Disk :=
  match disk.createFile place with
  | .ok (file, made) => made.writeFile file 0 data
  | .error _ => disk

/-- The disk with a directory, where one can be made. -/
def withDirectory (disk : Disk) (place : Place) : Disk :=
  match disk.makeDirectory place with
  | .ok made => made
  | .error _ => disk

/-- The disk with something else at a place. -/
def withNode (disk : Disk) (place : Place) (node : Node) : Disk :=
  { disk with nodes := disk.nodes.insert place node }

theorem Numbered.withNode (numbered : disk.Numbered) (place : Place)
    {node : Node}
    (used : ∀ file, node = .file file → file < disk.nextNumber) :
    (disk.withNode place node).Numbered := by
  constructor
  intro other file found
  rcases found_of_insert found with ⟨_, same⟩ | before
  · exact used file same.symm
  · exact numbered.file_lt before

theorem Tree.withFile (tree : disk.Tree) (place : Place) (data : Bytes) :
    (disk.withFile place data).Tree := by
  unfold Disk.withFile
  split
  · rename_i file made created
    exact (tree.createFile created).writeFile file 0 data
  · exact tree

theorem Tree.withDirectory (tree : disk.Tree)
    (within : place.directory < disk.nextNumber) :
    (disk.withDirectory place).Tree := by
  unfold Disk.withDirectory
  split
  · rename_i made created
    exact tree.makeDirectory within created
  · exact tree

/-! ## What is below a directory -/

theorem mem_names_iff {directory : Nat} {entry : Bytes × Node} :
    entry ∈ disk.names directory ↔
      disk.nodes[Place.mk directory entry.1]? = some entry.2 := by
  rw [names, List.mem_filterMap]
  constructor
  · rintro ⟨⟨⟨inside, name⟩, node⟩, member, listed⟩
    split at listed
    · rename_i same
      cases same
      cases listed
      exact Std.ExtTreeMap.mem_toList_iff_getElem?_eq_some.mp member
    · cases listed
  · intro found
    exact ⟨(⟨directory, entry.1⟩, entry.2),
      Std.ExtTreeMap.mem_toList_iff_getElem?_eq_some.mpr found,
      if_pos rfl⟩

/-- Every path continues the one by which its directory was reached. -/
theorem prefix_of_mem_below {depth directory : Nat} {path : Bytes}
    {line : Bytes × Option Bytes}
    (member : line ∈ disk.below depth directory path) :
    path <+: line.1 := by
  induction depth generalizing directory path with
  | zero => cases member
  | succ depth ih =>
      rw [below, List.mem_flatMap] at member
      rcases member with ⟨⟨name, node⟩, _, member⟩
      cases node with
      | file file =>
          cases List.mem_singleton.mp member
          exact List.prefix_append _ _
      | link target =>
          cases List.mem_singleton.mp member
          exact List.prefix_append _ _
      | directory inner =>
          have longer : path <+: path ++ name ++ [0x2f] := by
            rw [List.append_assoc]
            exact List.prefix_append _ _
          rcases List.mem_cons.mp member with rfl | deeper
          · exact longer
          · exact longer.trans (ih deeper)

/-- Only names and what their files hold are shown. -/
theorem below_congr {later : Disk} (nodes_eq : later.nodes = disk.nodes)
    (content_eq : ∀ {place : Place} {file : Nat},
      disk.nodes[place]? = some (.file file) →
        later.content file = disk.content file)
    (depth directory : Nat) (path : Bytes) :
    later.below depth directory path =
      disk.below depth directory path := by
  induction depth generalizing directory path with
  | zero => rfl
  | succ depth ih =>
      have sameNames : later.names directory = disk.names directory := by
        rw [names, names, nodes_eq]
      rw [below, below, sameNames]
      apply List.flatMap_congr
      rintro ⟨name, node⟩ member
      cases node with
      | file file =>
          dsimp only
          rw [content_eq (mem_names_iff.mp member)]
      | link target => rfl
      | directory inner =>
          dsimp only
          rw [ih]

/-! ## Taking files from a directory -/

/-- Whether a place is that of a file in a directory, under such a name. -/
def isFileOf (root : Nat) (names : List Bytes) (place : Place) :
    Node → Bool
  | .file _ => place.directory == root && names.contains place.name
  | _ => false

/-- The disk without the files in a directory that have some names. -/
def without (disk : Disk) (root : Nat) (names : List Bytes) : Disk :=
  { disk with
    nodes := disk.nodes.filter fun place node =>
      !isFileOf root names place node }

section

variable {root : Nat} {names : List Bytes}

theorem names_without (disk : Disk) (directory : Nat) :
    (disk.without root names).names directory =
      (disk.names directory).filter fun entry =>
        !isFileOf root names ⟨directory, entry.1⟩ entry.2 := by
  rw [Disk.names, Disk.names, without, Std.ExtTreeMap.toList_filter,
    List.filterMap_filter, List.filter_filterMap]
  congr 1
  funext ⟨⟨inside, name⟩, node⟩
  dsimp only
  by_cases same : inside = directory
  · subst same
    rw [if_pos rfl, Option.filter_some]
  · rw [if_neg same, ite_self, Option.filter_none]

/-- The names in another directory stay. -/
theorem names_without_of_ne {directory : Nat} (ne : directory ≠ root) :
    (disk.without root names).names directory = disk.names directory := by
  rw [names_without, List.filter_eq_self]
  rintro ⟨name, node⟩ _
  cases node with
  | file file =>
      rw [isFileOf, beq_eq_false_iff_ne.mpr ne]
      rfl
  | directory inner => rfl
  | link target => rfl

/-- No directory further down is the one from which files are taken. -/
theorem below_without_inside (tree : disk.Tree) {directory : Nat}
    (further : root < directory) (depth : Nat) (path : Bytes) :
    (disk.without root names).below depth directory path =
      disk.below depth directory path := by
  induction depth generalizing directory path with
  | zero => rfl
  | succ depth ih =>
      rw [below, below, names_without_of_ne (Nat.ne_of_gt further)]
      apply List.flatMap_congr
      rintro ⟨name, node⟩ member
      cases node with
      | file file => rfl
      | link target => rfl
      | directory inner =>
          have down := tree.descending (mem_names_iff.mp member)
          dsimp only
          rw [ih (Nat.lt_trans further down)]

/-- Taking out the sources of what is not kept keeps the rest in order. -/
theorem flatMap_filter_eq {Source Value : Type} {sources : List Source}
    {keeps : Source → Bool} {kept : Value → Bool}
    {before after : Source → List Value}
    (stays : ∀ source ∈ sources, keeps source = true →
      after source = (before source).filter kept)
    (goes : ∀ source ∈ sources, keeps source = false →
      (before source).filter kept = []) :
    (sources.filter keeps).flatMap after =
      (sources.flatMap before).filter kept := by
  induction sources with
  | nil => rfl
  | cons source rest ih =>
      rw [List.forall_mem_cons] at stays goes
      rw [List.flatMap_cons, List.filter_append,
        ← ih stays.2 goes.2, List.filter_cons]
      split
      · rename_i keep
        rw [List.flatMap_cons, stays.1 keep]
      · rename_i drop
        rw [goes.1 (Bool.not_eq_true _ ▸ drop), List.nil_append]

/--
What is below a directory without some of its files is what was below it, but
for the lines of these files.
-/
theorem below_without (tree : disk.Tree)
    (plain : ∀ name ∈ names, 0x2f ∉ name)
    (unlinked : ∀ name ∈ names, ∀ target,
      disk.nodes[Place.mk root name]? ≠ some (.link target))
    (depth : Nat) :
    (disk.without root names).below depth root [] =
      (disk.below depth root []).filter fun line =>
        !(line.2.isSome && names.contains line.1) := by
  cases depth with
  | zero => rfl
  | succ depth =>
      rw [below, below, names_without]
      apply flatMap_filter_eq
      · rintro ⟨name, node⟩ member keeps
        cases node with
        | file file =>
            rw [isFileOf, beq_self_eq_true, Bool.true_and] at keeps
            dsimp only
            rw [List.filter_singleton, Option.isSome_some, Bool.true_and,
              List.nil_append, keeps]
            rfl
        | link target =>
            have foreign : names.contains name = false := by
              rw [List.contains_eq_mem, decide_eq_false_iff_not]
              exact fun listed => unlinked name listed target
                (mem_names_iff.mp member)
            dsimp only
            rw [List.filter_singleton, List.nil_append, foreign,
              Bool.and_false]
            rfl
        | directory inner =>
            have down := tree.descending (mem_names_iff.mp member)
            dsimp only
            rw [below_without_inside tree down, List.filter_eq_self.mpr]
            -- All paths in here have the separator behind the name.
            intro line shown
            have separated : (0x2f : UInt8) ∈ line.1 := by
              rcases List.mem_cons.mp shown with rfl | deeper
              · exact List.mem_append_right _ List.mem_cons_self
              · exact (prefix_of_mem_below deeper).subset
                  (List.mem_append_right _ List.mem_cons_self)
            have foreign : names.contains line.1 = false := by
              rw [List.contains_eq_mem, decide_eq_false_iff_not]
              exact fun listed => plain line.1 listed separated
            rw [foreign, Bool.and_false]
            rfl
      · rintro ⟨name, node⟩ _ drops
        cases node with
        | file file =>
            rw [isFileOf, beq_self_eq_true, Bool.true_and] at drops
            dsimp only
            rw [List.filter_singleton, Option.isSome_some, Bool.true_and,
              List.nil_append, drops]
            rfl
        | directory inner => cases drops
        | link target => cases drops

end

end Disk

end FileConformance
