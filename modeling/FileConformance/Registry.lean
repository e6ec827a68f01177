import Std.Data.ExtTreeMap

/-!
# Registries

A registry maps keys to values and remembers an order: a new key goes to the
end, a value put under an old key keeps the key's place, and when a key is
removed the last key moves into the gap.

The values are kept by key and the keys by place.  The two sides agree by
construction, so every key has exactly one place, and what is found under a
key is the only thing stored there.
-/

namespace FileConformance

namespace Registry

/-- What is stored under a key: its place in the order, and its value. -/
structure Entry (Value : Type) where
  place : Nat
  value : Value
deriving DecidableEq

namespace Entry

variable {Value : Type}

/-- The entry with its value changed. -/
def update (change : Value → Value) (entry : Entry Value) : Entry Value :=
  { entry with value := change entry.value }

/-- The entry at another place. -/
def moveTo (place : Nat) (entry : Entry Value) : Entry Value :=
  { entry with place }

end Entry

end Registry

/-- A table from keys to values that gives every key a place. -/
structure Registry (Key Value : Type) [Ord Key] [Std.TransOrd Key] where
  /-- The entry of each key. -/
  table : Std.ExtTreeMap Key (Registry.Entry Value) compare
  /-- The key at each place that is taken. -/
  order : Std.ExtTreeMap Nat Key compare
  /-- How many keys are registered. -/
  size : Nat
  /-- A key is at a place exactly if the place is the key's. -/
  agree : ∀ (place : Nat) (key : Key),
    order[place]? = some key ↔
      (table[key]?).map Registry.Entry.place = some place
  /-- The places that are taken are the first ones. -/
  dense : ∀ place : Nat, (order[place]?).isSome ↔ place < size

namespace Registry

variable {Key Value : Type} [Ord Key] [Std.TransOrd Key]

/-- The registry without entries. -/
def empty : Registry Key Value where
  table := ∅
  order := ∅
  size := 0
  agree := by simp
  dense := by simp

/-- The registered keys, in order. -/
def keys (registry : Registry Key Value) : List Key :=
  (List.range registry.size).filterMap fun place => registry.order[place]?

/-- The value registered under a key. -/
def find? (registry : Registry Key Value) (key : Key) : Option Value :=
  (registry.table[key]?).map Entry.value

/-! ## Keys and places -/

/-- The place behind all places that are taken is free. -/
theorem order_size (registry : Registry Key Value) :
    registry.order[registry.size]? = none := by
  rw [← Option.not_isSome_iff_eq_none, registry.dense]
  exact Nat.lt_irrefl registry.size

/-- A key that is not registered is at no place. -/
theorem order_ne {registry : Registry Key Value} {key : Key}
    (absent : registry.table[key]? = none) (place : Nat) :
    registry.order[place]? ≠ some key := by
  rw [Ne, registry.agree, absent]
  simp

/-- No key is at the place behind all places that are taken. -/
theorem place_ne_size (registry : Registry Key Value) (key : Key) :
    (registry.table[key]?).map Entry.place ≠ some registry.size := by
  rw [Ne, ← registry.agree, registry.order_size]
  simp

/-- The place of a registered key holds the key. -/
theorem order_place {registry : Registry Key Value} {key : Key}
    {entry : Entry Value} (found : registry.table[key]? = some entry) :
    registry.order[entry.place]? = some key := by
  rw [registry.agree, found]
  rfl

/-- The entry of the key at a place. -/
theorem table_order {registry : Registry Key Value} {place : Nat}
    {key : Key} (here : registry.order[place]? = some key) :
    ∃ entry, registry.table[key]? = some entry ∧ entry.place = place := by
  simpa using (registry.agree place key).mp here

theorem place_lt_size {registry : Registry Key Value} {key : Key}
    {entry : Entry Value} (found : registry.table[key]? = some entry) :
    entry.place < registry.size := by
  rw [← registry.dense, order_place found]
  rfl

/-- Where a key is registered there is a last key. -/
theorem last_isSome {registry : Registry Key Value} {key : Key}
    {entry : Entry Value} (found : registry.table[key]? = some entry) :
    (registry.order[registry.size - 1]?).isSome := by
  rw [registry.dense]
  have below := place_lt_size found
  omega

@[simp]
theorem find?_empty (key : Key) :
    (empty : Registry Key Value).find? key = none := by
  simp [find?, empty]

variable [Std.LawfulEqOrd Key]

/-! ## Operations -/

/-- Register a value under a key, replacing what was there. -/
def insert (registry : Registry Key Value) (key : Key) (value : Value) :
    Registry Key Value :=
  match found : registry.table[key]? with
  | some entry => {
      table := registry.table.insert key { entry with value }
      order := registry.order
      size := registry.size
      agree := by
        intro place other
        rw [registry.agree, Std.ExtTreeMap.getElem?_insert]
        split
        · rename_i same
          rw [← Std.compare_eq_iff_eq.mp same, found]
          simp
        · rfl
      dense := registry.dense
    }
  | none => {
      table := registry.table.insert key ⟨registry.size, value⟩
      order := registry.order.insert registry.size key
      size := registry.size + 1
      agree := by
        intro place other
        simp only [Std.ExtTreeMap.getElem?_insert,
          Std.LawfulEqOrd.compare_eq_iff_eq]
        by_cases here : registry.size = place
        · by_cases same : key = other
          · simp [here, same]
          · simpa [← here, same] using registry.place_ne_size other
        · by_cases same : key = other
          · simpa [here, ← same] using order_ne found place
          · simpa [here, same] using registry.agree place other
      dense := by
        intro place
        simp only [Std.ExtTreeMap.getElem?_insert,
          Std.LawfulEqOrd.compare_eq_iff_eq]
        split
        · simp only [Option.isSome_some, true_iff]
          omega
        · rw [registry.dense]
          omega
    }

/-- Change the value under a key; an unknown key changes nothing. -/
def adjust (registry : Registry Key Value) (key : Key)
    (change : Value → Value) : Registry Key Value where
  table := registry.table.modify key (Entry.update change)
  order := registry.order
  size := registry.size
  agree := by
    intro place other
    rw [registry.agree, Std.ExtTreeMap.getElem?_modify]
    split
    · rename_i same
      rw [Std.compare_eq_iff_eq.mp same, Option.map_map]
      rfl
    · rfl
  dense := registry.dense

/-- The last key moves to the place of a key that goes. -/
theorem agree_move {registry : Registry Key Value} {key mover : Key}
    {entry : Entry Value} {last : Nat}
    (found : registry.table[key]? = some entry)
    (moving : registry.order[last]? = some mover) (place : Nat)
    (other : Key) :
    ((registry.order.insert entry.place mover).erase last)[place]? =
        some other ↔
      ((((registry.table.modify mover
        (Entry.moveTo entry.place)).erase key)[other]?).map Entry.place) =
        some place := by
  have agreed := registry.agree
  have gap := order_place found
  obtain ⟨moved, movedFound, rfl⟩ := table_order moving
  simp only [Std.ExtTreeMap.getElem?_insert, Std.ExtTreeMap.getElem?_erase,
    Std.ExtTreeMap.getElem?_modify, Std.LawfulEqOrd.compare_eq_iff_eq]
  by_cases gone : key = other
  · grind
  · by_cases moves : mover = other
    · grind [Entry.moveTo]
    · grind

/-- Forget a key; an unknown key changes nothing. -/
def remove (registry : Registry Key Value) (key : Key) :
    Registry Key Value :=
  match found : registry.table[key]?,
      moving : registry.order[registry.size - 1]? with
  | some entry, some mover => {
      table :=
        (registry.table.modify mover (Entry.moveTo entry.place)).erase key
      order :=
        (registry.order.insert entry.place mover).erase (registry.size - 1)
      size := registry.size - 1
      agree := agree_move found moving
      dense := by
        intro place
        have below := place_lt_size found
        simp only [Std.ExtTreeMap.getElem?_insert,
          Std.ExtTreeMap.getElem?_erase, Std.LawfulEqOrd.compare_eq_iff_eq]
        split
        · simp only [Option.isSome_none, Bool.false_eq_true, false_iff]
          omega
        · split
          · simp only [Option.isSome_some, true_iff]
            omega
          · rw [registry.dense]
            omega
    }
  | _, _ => registry

variable [DecidableEq Key]

instance [DecidableEq Value] : DecidableEq (Registry Key Value) :=
  fun left right =>
    decidable_of_iff
      (left.table = right.table ∧ left.order = right.order ∧
        left.size = right.size) <| by
      cases left
      cases right
      simp

/-! ## What is found after each operation -/

theorem find?_insert (registry : Registry Key Value) (key other : Key)
    (value : Value) :
    (registry.insert key value).find? other =
      if key = other then some value else registry.find? other := by
  simp only [insert]
  split <;>
    simp only [find?, Std.ExtTreeMap.getElem?_insert,
      Std.LawfulEqOrd.compare_eq_iff_eq] <;>
    split <;> rfl

theorem find?_adjust (registry : Registry Key Value) (key other : Key)
    (change : Value → Value) :
    (registry.adjust key change).find? other =
      if key = other then (registry.find? other).map change
      else registry.find? other := by
  simp only [find?, adjust, Std.ExtTreeMap.getElem?_modify,
    Std.LawfulEqOrd.compare_eq_iff_eq]
  split
  · rename_i same
    rw [same, Option.map_map, Option.map_map]
    rfl
  · rfl

theorem find?_remove (registry : Registry Key Value) (key other : Key) :
    (registry.remove key).find? other =
      if key = other then none else registry.find? other := by
  simp only [remove]
  split
  · simp only [find?, Std.ExtTreeMap.getElem?_erase,
      Std.ExtTreeMap.getElem?_modify, Std.LawfulEqOrd.compare_eq_iff_eq]
    split
    · rfl
    · split
      · rename_i moves
        rw [moves, Option.map_map]
        rfl
      · rfl
  · rename_i missing
    cases found : registry.table[key]? with
    | none =>
        split
        · rename_i same
          rw [← same, find?, found]
          rfl
        · rfl
    | some entry =>
        obtain ⟨mover, moving⟩ :=
          Option.isSome_iff_exists.mp (last_isSome found)
        exact (missing entry mover found moving).elim

/-! ## The keys -/

omit [Std.LawfulEqOrd Key] [DecidableEq Key] in
theorem mem_keys {registry : Registry Key Value} {key : Key} :
    key ∈ registry.keys ↔ (registry.find? key).isSome := by
  rw [keys, List.mem_filterMap]
  constructor
  · rintro ⟨place, _, here⟩
    obtain ⟨entry, found, _⟩ := table_order here
    simp [find?, found]
  · intro registered
    rw [find?, Option.isSome_map, Option.isSome_iff_exists] at registered
    obtain ⟨entry, found⟩ := registered
    exact ⟨entry.place, List.mem_range.mpr (place_lt_size found),
      order_place found⟩

omit [Std.LawfulEqOrd Key] [DecidableEq Key] in
theorem nodup_keys (registry : Registry Key Value) :
    registry.keys.Nodup := by
  refine List.Pairwise.filterMap _ ?_ List.nodup_range
  intro left right different key atLeft other atRight same
  obtain ⟨entry, found, rfl⟩ := table_order atLeft
  obtain ⟨twin, twinFound, rfl⟩ := table_order atRight
  rw [← same, found] at twinFound
  exact different (congrArg Entry.place (Option.some.inj twinFound))

end Registry

end FileConformance
