import FileConformance.Registry
import Mathlib.Data.Finset.Card

/-!
# Counting in a registry

Every key of a registry has one place, so the registered values can be listed
and counted.  The count of the values with a property goes up by at most one
when a new key is inserted, goes down by at most one when a key is removed, and
stays when a value is adjusted without touching the property.

The size of a registry is the count of all values.
-/

namespace FileConformance

namespace Registry

variable {Key Value : Type} [Ord Key] [Std.TransOrd Key]

/-- The registered values, in the order of their keys. -/
def values (registry : Registry Key Value) : List Value :=
  registry.keys.filterMap registry.find?

/-- How many registered values have a property. -/
def count (registry : Registry Key Value) (holds : Value → Bool) : Nat :=
  registry.values.countP holds

/-! ## Keys -/

/-- As many keys are listed as are registered. -/
theorem length_keys (registry : Registry Key Value) :
    registry.keys.length = registry.size := by
  have taken : ∀ place ∈ List.range registry.size,
      registry.order[place]?.isSome = true := by
    intro place below
    rw [registry.dense]
    exact List.mem_range.mp below
  rw [keys, List.length_filterMap_eq_countP,
    List.countP_eq_length.mpr taken, List.length_range]

theorem find?_eq_none_iff {registry : Registry Key Value} {key : Key} :
    registry.find? key = none ↔ key ∉ registry.keys := by
  rw [mem_keys, Bool.not_eq_true, Option.isSome_eq_false_iff,
    Option.isNone_iff_eq_none]

/-- A registry is empty exactly if nothing is found in it. -/
theorem size_eq_zero_iff {registry : Registry Key Value} :
    registry.size = 0 ↔ ∀ key, registry.find? key = none := by
  rw [← length_keys, List.length_eq_zero_iff,
    List.eq_nil_iff_forall_not_mem]
  simp only [find?_eq_none_iff]

/-- A registry that has the keys of one as large has no other keys. -/
theorem mem_keys_of_size_le {registry other : Registry Key Value}
    (subset : registry.keys ⊆ other.keys)
    (size_le : other.size ≤ registry.size) {key : Key}
    (member : key ∈ other.keys) : key ∈ registry.keys := by
  rw [← length_keys, ← length_keys] at size_le
  have all := (registry.nodup_keys.subperm subset).perm_of_length_le size_le
  exact all.mem_iff.mpr member

/-- There is only one registry without keys. -/
theorem eq_empty_of_size_eq_zero {registry : Registry Key Value}
    (vacant : registry.size = 0) : registry = empty := by
  have unregistered : registry.table = ∅ := by
    rw [Std.ExtTreeMap.eq_empty_iff_forall_not_mem]
    intro key member
    have missing := size_eq_zero_iff.mp vacant key
    rw [find?, Option.map_eq_none_iff] at missing
    rw [Std.ExtTreeMap.mem_iff_isSome_getElem?, missing] at member
    cases member
  have untaken : registry.order = ∅ := by
    rw [Std.ExtTreeMap.eq_empty_iff_forall_not_mem]
    intro place member
    rw [Std.ExtTreeMap.mem_iff_isSome_getElem?, registry.dense,
      vacant] at member
    exact Nat.not_lt_zero place member
  cases registry
  cases unregistered
  cases untaken
  cases vacant
  rfl

variable [DecidableEq Key]

/-- The keys whose values have a property. -/
def holders (registry : Registry Key Value) (holds : Value → Bool) :
    Finset Key :=
  (registry.keys.filter fun key =>
    (registry.find? key).any holds).toFinset

theorem mem_holders {registry : Registry Key Value} {holds : Value → Bool}
    {key : Key} :
    key ∈ registry.holders holds ↔
      ∃ value, registry.find? key = some value ∧ holds value = true := by
  simp only [holders, List.mem_toFinset, List.mem_filter, mem_keys,
    Option.any_eq_true]
  constructor
  · rintro ⟨_, value, found, held⟩
    exact ⟨value, found, held⟩
  · rintro ⟨value, found, held⟩
    exact ⟨by simp [found], value, found, held⟩

/-- Counting values is counting the keys they are found under. -/
theorem count_eq_card (registry : Registry Key Value)
    (holds : Value → Bool) :
    registry.count holds = (registry.holders holds).card := by
  rw [holders, List.toFinset_card_of_nodup
    (registry.nodup_keys.filter _), ← List.countP_eq_length_filter,
    count, values, List.countP_filterMap]
  congr 1
  funext key
  cases registry.find? key <;> rfl

/-- A value that is found is counted if it has the property. -/
theorem count_pos_iff {registry : Registry Key Value}
    {holds : Value → Bool} :
    0 < registry.count holds ↔
      ∃ key value, registry.find? key = some value ∧ holds value = true := by
  rw [count_eq_card, Finset.card_pos, Finset.Nonempty]
  simp only [mem_holders]

theorem count_true (registry : Registry Key Value) :
    (registry.count fun _ => true) = registry.size := by
  rw [count_eq_card, holders, ← length_keys,
    ← List.toFinset_card_of_nodup registry.nodup_keys]
  congr 2
  rw [List.filter_eq_self]
  intro key member
  rw [mem_keys] at member
  simp [Option.any_true, member]

/-! ## Operations -/

variable [Std.LawfulEqOrd Key] {registry : Registry Key Value} {key : Key}
  {holds : Value → Bool}

/-- A new key adds its value to the count. -/
theorem count_insert (absent : registry.find? key = none) (value : Value) :
    (registry.insert key value).count holds =
      registry.count holds + if holds value then 1 else 0 := by
  simp only [count_eq_card]
  have fresh : key ∉ registry.holders holds := by
    simp [mem_holders, absent]
  split
  · rename_i held
    rw [← Finset.card_insert_of_notMem fresh]
    congr 1
    ext other
    simp only [mem_holders, find?_insert, Finset.mem_insert]
    grind
  · rw [Nat.add_zero]
    congr 1
    ext other
    simp only [mem_holders, find?_insert]
    grind

/-- A removed key takes its value from the count. -/
theorem count_remove {value : Value}
    (found : registry.find? key = some value) :
    (registry.remove key).count holds +
        (if holds value then 1 else 0) =
      registry.count holds := by
  simp only [count_eq_card]
  have erased : (registry.remove key).holders holds =
      (registry.holders holds).erase key := by
    ext other
    simp only [mem_holders, find?_remove, Finset.mem_erase]
    grind
  rw [erased]
  split
  · rename_i held
    have member : key ∈ registry.holders holds :=
      mem_holders.mpr ⟨value, found, held⟩
    exact Finset.card_erase_add_one member
  · rename_i free
    have missing : key ∉ registry.holders holds := by
      simp [mem_holders, found, free]
    rw [Finset.erase_eq_of_notMem missing, Nat.add_zero]

/-- Adjusting a value without touching the property keeps the count. -/
theorem count_adjust {change : Value → Value}
    (kept : ∀ value, holds (change value) = holds value) :
    (registry.adjust key change).count holds = registry.count holds := by
  simp only [count_eq_card]
  congr 1
  ext other
  simp only [mem_holders, find?_adjust]
  split
  · simp only [Option.map_eq_some_iff]
    grind
  · rfl

theorem size_insert (absent : registry.find? key = none) (value : Value) :
    (registry.insert key value).size = registry.size + 1 := by
  rw [← count_true, count_insert absent, count_true]
  rfl

theorem size_remove {value : Value}
    (found : registry.find? key = some value) :
    (registry.remove key).size + 1 = registry.size := by
  rw [← count_true registry, ← count_remove found, count_true]
  rfl

omit [DecidableEq Key] in
@[simp]
theorem size_adjust (registry : Registry Key Value) (key : Key)
    (change : Value → Value) :
    (registry.adjust key change).size = registry.size := rfl

end Registry

end FileConformance
