import FileConformance.Proofs.Store.Admission
import FileConformance.Settings

/-!
# The names a scenario uses

The names of the test files are a stem and a decimal index, so different files
have different names and the last of them has the longest one.  The two names
that probe a limit are cut from the alphabet.  None of these names is empty or
holds a null, so a store accepts each of them exactly if it is short enough.
-/

namespace FileConformance

/-! ## Bytes of a text -/

namespace Bytes

theorem toByteArray_ofString (text : String) :
    (ofString text).toByteArray = text.toByteArray := by
  rw [← String.utf8Encode_toList]
  rfl

theorem length_ofString (text : String) :
    (ofString text).length = text.utf8ByteSize := by
  rw [← String.size_toByteArray, ← toByteArray_ofString,
    List.size_toByteArray]

theorem ofString_append (first second : String) :
    ofString (first ++ second) = ofString first ++ ofString second := by
  simp [ofString]

/-- Different texts have different bytes. -/
theorem ofString_injective : Function.Injective ofString := by
  intro left right same
  rw [← String.toByteArray_inj, ← toByteArray_ofString,
    ← toByteArray_ofString, same]

/-- A character with another code is encoded without an ASCII byte. -/
theorem notMem_utf8EncodeChar {character : Char} {byte : UInt8}
    (ascii : byte.toNat < 128) (other : character.val.toNat ≠ byte.toNat) :
    byte ∉ String.utf8EncodeChar character := by
  have differs : ∀ {number : Nat}, number < 256 → number ≠ byte.toNat →
      byte ≠ UInt8.ofNat number := by
    rintro number small ne rfl
    rw [UInt8.toNat_ofNat_of_lt' small] at ne
    exact ne rfl
  -- Every byte but a single one has its highest bit set.
  have marked : ∀ {low high : Nat}, 128 ≤ high → low + high < 256 →
      byte ≠ UInt8.ofNat (low + high) := by
    intro low high large small
    exact differs small (by omega)
  intro member
  simp only [String.utf8EncodeChar] at member
  split at member
  · exact differs (by omega) other (List.mem_singleton.mp member)
  · split at member
    · simp only [List.mem_cons, List.not_mem_nil, or_false] at member
      rcases member with same | same
      · exact marked (by decide) (by omega) same
      · exact marked (by decide) (by omega) same
    · split at member
      · simp only [List.mem_cons, List.not_mem_nil, or_false] at member
        rcases member with same | same | same
        · exact marked (by decide) (by omega) same
        · exact marked (by decide) (by omega) same
        · exact marked (by decide) (by omega) same
      · simp only [List.mem_cons, List.not_mem_nil, or_false] at member
        rcases member with same | same | same | same
        · exact marked (by decide) (by omega) same
        · exact marked (by decide) (by omega) same
        · exact marked (by decide) (by omega) same
        · exact marked (by decide) (by omega) same

/-- A text without a character is encoded without its ASCII byte. -/
theorem notMem_ofString {text : String} {byte : UInt8}
    (ascii : byte.toNat < 128)
    (others : ∀ character ∈ text.toList,
      character.val.toNat ≠ byte.toNat) : byte ∉ ofString text := by
  intro member
  rcases List.mem_flatMap.mp member with ⟨character, inText, inside⟩
  exact notMem_utf8EncodeChar ascii (others character inText) inside

end Bytes

/-! ## Numbered names -/

namespace Name

theorem length_numbered (stem : String) (index : Nat) :
    (Bytes.ofString (numbered stem index)).length =
      stem.utf8ByteSize + (Nat.toDigits 10 index).length := by
  have ascii : ∀ digits : List Char,
      (∀ digit ∈ digits, digit.isDigit = true) →
        (digits.flatMap String.utf8EncodeChar).length = digits.length := by
    intro digits decimal
    induction digits with
    | nil => rfl
    | cons digit rest ih =>
        have one : digit.utf8Size = 1 := by
          have isDigit := decimal digit List.mem_cons_self
          rw [Char.isDigit_iff_toNat] at isDigit
          rw [Char.utf8Size_eq_one_iff]
          rw [UInt32.le_iff_toNat_le]
          exact Nat.le_trans isDigit.2 (by decide)
        rw [List.flatMap_cons, List.length_append,
          String.length_utf8EncodeChar, one, List.length_cons,
          ih fun other member => decimal other
            (List.mem_cons_of_mem digit member)]
        omega
  have digits : Bytes.ofString (toString index) =
      (Nat.toDigits 10 index).flatMap String.utf8EncodeChar := by
    rw [Bytes.ofString, Nat.toString_eq_repr, Nat.toList_repr]
  rw [numbered, Bytes.ofString_append, List.length_append,
    Bytes.length_ofString, digits]
  congr 1
  exact ascii _ fun digit member =>
    Nat.isDigit_of_mem_toDigits (by decide) (by decide) member

/-- Files with different indices have different names. -/
theorem numbered_injective (stem : String) {left right : Nat}
    (same : Bytes.ofString (numbered stem left) =
      Bytes.ofString (numbered stem right)) : left = right := by
  rw [numbered, numbered, Bytes.ofString_append,
    Bytes.ofString_append] at same
  have texts := Bytes.ofString_injective (List.append_cancel_left same)
  have digits := congrArg String.toList texts
  simp only [Nat.toString_eq_repr, Nat.toList_repr] at digits
  have numbers := congrArg (fun word => Nat.ofDigitChars 10 word 0) digits
  simpa using numbers

/-- A later file has no shorter name. -/
theorem length_numbered_mono (stem : String) {left right : Nat}
    (ordered : left ≤ right) :
    (Bytes.ofString (numbered stem left)).length ≤
      (Bytes.ofString (numbered stem right)).length := by
  rw [length_numbered, length_numbered]
  apply Nat.add_le_add_left
  rw [Nat.length_toDigits_le_iff (by decide) Nat.length_toDigits_pos]
  apply Nat.lt_of_le_of_lt ordered
  exact (Nat.length_toDigits_le_iff (by decide)
    Nat.length_toDigits_pos).mp (Nat.le_refl _)

/-- The bytes of an index are those of digits. -/
theorem notMem_index {byte : UInt8} (ascii : byte.toNat < 128)
    (notDigit : ¬(48 ≤ byte.toNat ∧ byte.toNat ≤ 57)) (index : Nat) :
    byte ∉ Bytes.ofString (toString index) := by
  refine Bytes.notMem_ofString ascii ?_
  rw [Nat.toString_eq_repr, Nat.toList_repr]
  intro digit member same
  have decimal :=
    Nat.isDigit_of_mem_toDigits (by decide) (by decide) member
  rw [Char.isDigit_iff_toNat] at decimal
  exact notDigit (same ▸ decimal)

/-- What a stem must not hold, no byte of a numbered name is. -/
theorem notMem_numbered {stem : String} (usable : usableStem stem = true)
    {mark : Char} (forbidden : mark = '/' ∨ mark = '\x00')
    {byte : UInt8} (same : byte.toNat = mark.val.toNat) (index : Nat) :
    byte ∉ Bytes.ofString (numbered stem index) := by
  have small : mark.val.toNat < 48 := by
    rcases forbidden with rfl | rfl
    · decide
    · decide
  rw [usableStem, Bool.and_eq_true, List.all_eq_true] at usable
  rw [numbered, Bytes.ofString_append, List.mem_append, not_or]
  refine ⟨Bytes.notMem_ofString (by omega) ?_,
    notMem_index (by omega) (by omega) index⟩
  intro character inStem code
  have visible := usable.2 character inStem
  rw [Bool.and_eq_true, bne_iff_ne, bne_iff_ne] at visible
  have marked : character = mark :=
    Char.ext (UInt32.toNat_inj.mp (code.trans same))
  rcases forbidden with rfl | rfl
  · exact visible.1 marked
  · exact visible.2 marked

/-- No byte of a numbered name is zero. -/
theorem zero_notMem_numbered {stem : String}
    (usable : usableStem stem = true) (index : Nat) :
    0 ∉ Bytes.ofString (numbered stem index) :=
  notMem_numbered usable (.inr rfl) rfl index

/-- No numbered name is cut by a separator. -/
theorem separator_notMem_numbered {stem : String}
    (usable : usableStem stem = true) (index : Nat) :
    0x2f ∉ Bytes.ofString (numbered stem index) :=
  notMem_numbered usable (.inl rfl) rfl index

theorem numbered_ne_nil (stem : String) (index : Nat) :
    Bytes.ofString (numbered stem index) ≠ [] := by
  rw [← List.length_pos_iff, length_numbered]
  exact Nat.add_pos_right _ Nat.length_toDigits_pos

/-- A numbered name ends in a digit, so it does not consist of dots. -/
theorem numbered_ne_dots (stem : String) (index : Nat) {dots : Bytes}
    (all : ∀ byte ∈ dots, byte = 0x2e) :
    Bytes.ofString (numbered stem index) ≠ dots := by
  rintro rfl
  rw [numbered, Bytes.ofString_append] at all
  have none_left : Bytes.ofString (toString index) = [] := by
    rw [List.eq_nil_iff_forall_not_mem]
    intro byte member
    have dot := all byte (List.mem_append_right _ member)
    exact notMem_index (by decide) (by decide) index (dot ▸ member)
  have unnumbered := numbered_ne_nil "" index
  rw [numbered, Bytes.ofString_append, none_left] at unnumbered
  exact unnumbered rfl

end Name

namespace StoreSettings

variable {storeSettings : StoreSettings}

theorem accepts_numbered_iff {stem : String}
    (usable : Name.usableStem stem = true) (index : Nat) :
    storeSettings.Accepts (Bytes.ofString (Name.numbered stem index)) ↔
      stem.utf8ByteSize + (Nat.toDigits 10 index).length + 1 ≤
        storeSettings.nameLimit.bytes := by
  rw [Accepts, Name.encodedLength, Name.length_numbered]
  constructor
  · rintro ⟨_, _, short⟩
    exact short
  · intro short
    exact ⟨Name.numbered_ne_nil stem index,
      Name.zero_notMem_numbered usable index, short⟩

/-- All test files have an acceptable name if the last one has. -/
theorem accepts_all_iff {stem : String}
    (usable : Name.usableStem stem = true) {count : Nat}
    (positive : 0 < count) :
    (∀ index < count,
        storeSettings.Accepts
          (Bytes.ofString (Name.numbered stem index))) ↔
      stem.utf8ByteSize + (Nat.toDigits 10 (count - 1)).length + 1 ≤
        storeSettings.nameLimit.bytes := by
  rw [← accepts_numbered_iff usable]
  constructor
  · intro all
    exact all (count - 1) (Nat.sub_lt positive Nat.one_pos)
  · rintro ⟨_, _, short⟩ index below
    refine ⟨Name.numbered_ne_nil stem index,
      Name.zero_notMem_numbered usable index, ?_⟩
    have shorter := Name.length_numbered_mono stem
      (show index ≤ count - 1 by omega)
    rw [Name.encodedLength] at short ⊢
    omega

end StoreSettings

/-! ## Names at a limit -/

namespace NameLimit

theorem length_cycle (length : Nat) : (cycle length).length = length := by
  simp [cycle]

theorem notMem_cycle {byte : UInt8} (other : byte ∉ alphabet)
    (length : Nat) : byte ∉ cycle length := by
  intro member
  rcases List.mem_map.mp member with ⟨position, _, same⟩
  have inside : position % alphabet.length < alphabet.length :=
    Nat.mod_lt position (by decide)
  rw [List.getD_eq_getElem?_getD, List.getElem?_eq_getElem inside,
    Option.getD_some] at same
  exact other (same ▸ List.getElem_mem inside)

theorem zero_notMem_cycle (length : Nat) : 0 ∉ cycle length :=
  notMem_cycle (by decide) length

end NameLimit

namespace StoreSettings

variable {storeSettings : StoreSettings}

theorem accepts_cycle_iff {length : Nat} (positive : 0 < length) :
    storeSettings.Accepts (NameLimit.cycle length) ↔
      length + 1 ≤ storeSettings.nameLimit.bytes := by
  rw [Accepts, Name.encodedLength, NameLimit.length_cycle]
  constructor
  · rintro ⟨_, _, short⟩
    exact short
  · intro short
    refine ⟨?_, NameLimit.zero_notMem_cycle length, short⟩
    rw [← List.length_pos_iff, NameLimit.length_cycle]
    exact positive

theorem accepts_longestAccepted_iff (limit : NameLimit) :
    storeSettings.Accepts limit.longestAccepted ↔
      limit.bytes ≤ storeSettings.nameLimit.bytes := by
  have two_le := limit.two_le
  rw [NameLimit.longestAccepted, accepts_cycle_iff (by omega)]
  constructor
  · intro short
    omega
  · intro short
    omega

theorem accepts_shortestRejected_iff (limit : NameLimit) :
    storeSettings.Accepts limit.shortestRejected ↔
      limit.bytes < storeSettings.nameLimit.bytes := by
  have two_le := limit.two_le
  rw [NameLimit.shortestRejected, accepts_cycle_iff (by omega)]
  exact Nat.succ_le_iff

end StoreSettings

end FileConformance
