import FileConformance.Proofs.Store.Transition

/-!
# What a damaged read hands back

A read places data in the buffer and may then flip bits of one of the bytes it
placed.  The place is drawn below the number of bytes read, and the mask that is
flipped is never zero, so a damaged read differs from the content in exactly one
byte and the rest of the buffer is untouched.
-/

namespace FileConformance

/-! ## Drawing a place -/

/-- Half a word is below the number of half words. -/
theorem Generator.half_lt (generator : Generator) :
    generator.half.1 < UInt32.size := by
  have whole : generator.word.1.toNat < UInt32.size * UInt32.size :=
    generator.word.1.toNat_lt_size
  exact Nat.div_lt_of_lt_mul whole

/-- A draw below a positive bound is below it. -/
theorem Generator.below_lt {bound : Nat} (positive : 0 < bound)
    (generator : Generator) :
    (Generator.below bound generator).1 < bound := by
  have small := generator.half_lt
  have divided := Nat.div_add_mod (generator.half.1 * bound) UInt32.size
  have product : generator.half.1 * bound + bound ≤ UInt32.size * bound := by
    rw [← Nat.succ_mul]
    exact Nat.mul_le_mul_right bound small
  have high : generator.half.1 * bound / UInt32.size < bound :=
    Nat.div_lt_of_lt_mul (by omega)
  -- The next place is taken only if the remainder is large, and then the
  -- product is too far from its bound for the place to be the last one.
  have next : UInt32.size - bound <
      generator.half.1 * bound % UInt32.size →
      generator.half.1 * bound / UInt32.size + 1 < bound := by
    intro large
    refine Nat.lt_of_le_of_ne high fun place => ?_
    have stretched : UInt32.size * bound =
        UInt32.size * (generator.half.1 * bound / UInt32.size) +
          UInt32.size := by
      rw [← Nat.mul_add_one, place]
    omega
  unfold Generator.below
  dsimp only
  split
  · rename_i large
    dsimp only
    split
    · exact next large
    · exact high
  · exact high

namespace Bytes

/-! ## Where contents differ -/

/-- The places where two contents differ. -/
def differences (left right : Bytes) : List Nat :=
  (List.range (max left.length right.length)).filter fun place =>
    left[place]? ≠ right[place]?

theorem differences_self (content : Bytes) :
    content.differences content = [] := by
  simp [differences]

/-- Flipping some bits changes a byte. -/
theorem xor_ne_self (byte : UInt8) {mask : UInt8} (some_bit : mask ≠ 0) :
    byte ^^^ mask ≠ byte := by
  intro same
  apply some_bit
  calc mask = byte ^^^ (byte ^^^ mask) := by
        rw [← UInt8.xor_assoc, UInt8.xor_self, UInt8.zero_xor]
    _ = 0 := by rw [same, UInt8.xor_self]

/-- A content with a flipped byte differs from what it was in that byte. -/
theorem differences_flip {content : Bytes} {place : Nat} {mask : UInt8}
    (inside : place < content.length) (some_bit : mask ≠ 0) :
    (content.flip place mask).differences content = [place] := by
  have differs : ∀ other, ((content.flip place mask)[other]? ≠
      content[other]?) ↔ other = place := by
    intro other
    rw [flip, List.getElem?_modify]
    by_cases same : place = other
    · subst same
      simp [List.getElem?_eq_getElem inside, xor_ne_self _ some_bit]
    · simp [same, Ne.symm same]
  have counted : (List.range content.length).count place = 1 := by
    rw [List.nodup_range.count, if_pos (List.mem_range.mpr inside)]
  simp only [differences, length_flip, Nat.max_self, differs]
  rw [List.filter_eq, counted]
  rfl

/-- As much as there was to slice is the same slice. -/
theorem slice_length (content : Bytes) (offset length : Nat) :
    content.slice offset (content.slice offset length).length =
      content.slice offset length := by
  rw [slice, length_slice, slice, List.take_eq_take_iff, List.length_drop]
  omega

end Bytes

namespace Store

/-! ## Delivering data -/

theorem take_deliver (buffer data : Bytes) (damage : Option Damage) :
    (deliver buffer data damage).take data.length =
      match damage with
      | none => data
      | some wrong => data.flip wrong.place wrong.mask := by
  have placed : (buffer.place data).take data.length = data :=
    List.take_left
  cases damage with
  | none => exact placed
  | some wrong =>
      dsimp only [deliver]
      rw [Bytes.flip, List.take_modify, placed, Bytes.flip]

/-- Behind the data the buffer is untouched. -/
theorem drop_deliver {buffer data : Bytes} {damage : Option Damage}
    (inside : ∀ wrong, damage = some wrong → wrong.place < data.length) :
    (deliver buffer data damage).drop data.length =
      buffer.drop data.length := by
  have placed : (buffer.place data).drop data.length =
      buffer.drop data.length :=
    List.drop_left
  cases damage with
  | none => exact placed
  | some wrong =>
      dsimp only [deliver]
      rw [Bytes.flip, List.drop_modify_of_lt _ _ _ _ (inside wrong rfl),
        placed]

variable {store : Store}

/-! ## Drawing damage -/

/-- What never happens needs no number. -/
theorem chance_never (store : Store) : store.chance .never = (false, store) :=
  rfl

/-- Whether damage is drawn next. -/
def drawsDamage (store : Store) : Bool :=
  (store.settings.corruption.draw store.generator).1

/-- Nothing is damaged if nothing is read or no damage is drawn. -/
theorem drawDamage_of_spared {count : Nat}
    (spared : ¬(0 < count ∧ store.drawsDamage = true)) :
    (store.drawDamage count).1 = none := by
  unfold drawDamage
  split
  · rfl
  · rename_i nonzero
    have calm : (store.chance store.settings.corruption).1 = false := by
      rw [← Bool.not_eq_true]
      exact fun drew => spared ⟨Nat.pos_of_ne_zero nonzero, drew⟩
    dsimp only
    rw [calm]
    rfl

/-- Damage that is drawn hits one of the bytes read. -/
theorem drawDamage_of_drawn {count : Nat} (positive : 0 < count)
    (drew : store.drawsDamage = true) :
    ∃ wrong, (store.drawDamage count).1 = some wrong ∧
      wrong.place < count ∧ wrong.mask ≠ 0 := by
  unfold drawDamage
  rw [if_neg (Nat.ne_of_gt positive)]
  have hit : (store.chance store.settings.corruption).1 = true := drew
  dsimp only
  rw [hit, if_pos rfl]
  refine ⟨_, rfl, Generator.below_lt positive _, ?_⟩
  dsimp only
  split
  · decide
  · assumption

/-- Damage never reaches beyond the bytes read. -/
theorem place_lt_of_drawDamage {count : Nat} {wrong : Damage}
    (damaged : (store.drawDamage count).1 = some wrong) :
    wrong.place < count := by
  by_cases hit : 0 < count ∧ store.drawsDamage = true
  · rcases drawDamage_of_drawn hit.1 hit.2 with ⟨same, drawn, inside, _⟩
    rw [damaged, Option.some.injEq] at drawn
    rw [drawn]
    exact inside
  · rw [drawDamage_of_spared hit] at damaged
    cases damaged

/-- What is handed back differs in the byte that was damaged, if any was. -/
theorem differences_deliver (buffer data : Bytes) :
    (Bytes.differences
      ((deliver buffer data (store.drawDamage data.length).1).take
        data.length) data).length =
      if 0 < data.length ∧ store.drawsDamage = true then 1 else 0 := by
  rw [take_deliver]
  by_cases hit : 0 < data.length ∧ store.drawsDamage = true
  · rcases drawDamage_of_drawn hit.1 hit.2 with
      ⟨wrong, drawn, inside, some_bit⟩
    rw [if_pos hit, drawn]
    dsimp only
    rw [Bytes.differences_flip inside some_bit]
    rfl
  · rw [if_neg hit, drawDamage_of_spared hit]
    dsimp only
    rw [Bytes.differences_self]
    rfl

/-! ## Reading -/

section Reading

variable {handle : Handle} {opened : StoreHandle}

/-- What becomes of a read where nothing fails by chance. -/
theorem read_of_calm (calm : store.settings.inputOutputError = .never)
    (admitted : store.admitHandle handle = .ok opened) (buffer : Bytes) :
    let data := (store.live opened.file).slice opened.position buffer.length
    let drawn := store.drawDamage data.length
    store.read handle buffer =
      ⟨⟨.ok data.length, deliver buffer data drawn.1,
          length_deliver (Bytes.length_slice_le _ _ _)⟩,
        drawn.2.advance handle data.length,
        readEvents handle opened.position data.length drawn.1⟩ := by
  simp only [read, admitted, calm, chance_never, Bool.false_eq_true,
    if_false]

/-- Where nothing fails by chance, a read moves its handle by what it counts. -/
theorem count_read_of_calm
    (calm : store.settings.inputOutputError = .never)
    (admitted : store.admitHandle handle = .ok opened) (buffer : Bytes) :
    let count :=
      ((store.live opened.file).slice opened.position buffer.length).length
    (store.read handle buffer).answer.count = .ok count ∧
      ∃ generator, (store.read handle buffer).state =
        { store with generator }.advance handle count := by
  intro count
  rcases exists_drawDamage_eq store count with ⟨generator, drawn⟩
  rw [read_of_calm calm admitted]
  exact ⟨rfl, generator, congrArg (advance · handle count) drawn⟩

/--
A successful read hands back what the file holds from the handle's position on,
in all bytes if no damage was drawn and in all bytes but one if it was.  Behind
the bytes read the buffer is what it was.
-/
theorem read_differs_in_drawn_byte
    (calm : store.settings.inputOutputError = .never) {buffer : Bytes}
    {count : Nat}
    (received : (store.read handle buffer).answer.count = .ok count) :
    ∃ opened, store.handles.find? handle = some opened ∧
      let data := (store.live opened.file).slice opened.position count
      let after := (store.read handle buffer).answer.buffer
      data.length = count ∧
        after.drop count = buffer.drop count ∧
        (Bytes.differences (after.take count) data).length =
          if 0 < count ∧ store.drawsDamage = true then 1 else 0 := by
  cases admitted : store.admitHandle handle with
  | error reason =>
      simp only [read, admitted, Received.refused] at received
      cases received
  | ok opened =>
      rw [read_of_calm calm admitted] at received ⊢
      dsimp only at received ⊢
      cases received
      refine ⟨opened, (admitHandle_eq_ok_iff.mp admitted).2, ?_, ?_, ?_⟩
      · rw [Bytes.slice_length]
      · exact drop_deliver fun wrong => place_lt_of_drawDamage
      · rw [Bytes.slice_length]
        exact differences_deliver buffer _

end Reading

end Store

end FileConformance
