import Mathlib.Data.UInt

/-! # Words and their bytes

A sixteen-bit word travels as its high byte followed by its low byte. The code
that splits and joins words writes the masks and shifts in several spellings;
the lemmas here give them one normal form. Three bytes that travel the other way
round are joined in a word of thirty-two bits.
-/

namespace Prism.Bytes

/-- Masking a word to eight bits before narrowing it changes nothing. -/
theorem toUInt8_and_mask (word : UInt16) :
    (word &&& 0xFF).toUInt8 = word.toUInt8 := by
  apply UInt8.toNat_inj.mp
  simp only [UInt16.toNat_toUInt8, UInt16.toNat_and]
  change (word.toNat &&& 2 ^ 8 - 1) % 2 ^ 8 = word.toNat % 2 ^ 8
  rw [Nat.and_two_pow_sub_one_eq_mod, Nat.mod_mod]

theorem toNat_join (high low : UInt8) :
    ((high.toUInt16 <<< 8) ||| low.toUInt16).toNat =
      256 * high.toNat + low.toNat := by
  have highBound : high.toNat < 2 ^ 8 := high.toNat_lt
  have lowBound : low.toNat < 2 ^ 8 := low.toNat_lt
  have fits : high.toNat <<< 8 < 2 ^ 16 := by
    rw [Nat.shiftLeft_eq]
    omega
  have shifted : (high.toUInt16 <<< 8).toNat = high.toNat <<< 8 := by
    change high.toNat <<< 8 % 2 ^ 16 = high.toNat <<< 8
    exact Nat.mod_eq_of_lt fits
  rw [UInt16.toNat_or, shifted, UInt8.toNat_toUInt16,
    ← Nat.shiftLeft_add_eq_or_of_lt lowBound, Nat.shiftLeft_eq]
  omega

theorem toNat_highByte (word : UInt16) :
    (word >>> 8).toUInt8.toNat = word.toNat / 256 := by
  have bound : word.toNat < 2 ^ 16 := word.toNat_lt
  change word.toNat >>> 8 % 2 ^ 8 = word.toNat / 256
  rw [Nat.shiftRight_eq_div_pow]
  omega

theorem join_split (word : UInt16) :
    ((word >>> 8).toUInt8.toUInt16 <<< 8) ||| word.toUInt8.toUInt16 = word := by
  apply UInt16.toNat_inj.mp
  rw [toNat_join]
  have low : word.toUInt8.toNat = word.toNat % 256 := rfl
  rw [toNat_highByte, low]
  omega

theorem join_eq_iff (high low : UInt8) (word : UInt16) :
    ((high.toUInt16 <<< 8) ||| low.toUInt16) = word ↔
      high = (word >>> 8).toUInt8 ∧ low = word.toUInt8 := by
  have lowBound : low.toNat < 2 ^ 8 := low.toNat_lt
  have lowByte : word.toUInt8.toNat = word.toNat % 256 := rfl
  rw [← UInt16.toNat_inj, toNat_join, ← UInt8.toNat_inj, ← UInt8.toNat_inj,
    toNat_highByte, lowByte]
  constructor
  · intro joined
    constructor <;> omega
  · rintro ⟨isHigh, isLow⟩
    omega

theorem toNat_join24 (low middle high : UInt8) :
    (low.toUInt32 ||| (middle.toUInt32 <<< 8) ||| (high.toUInt32 <<< 16)).toNat =
      low.toNat + 256 * middle.toNat + 65536 * high.toNat := by
  have lowBound : low.toNat < 2 ^ 8 := low.toNat_lt
  have middleBound : middle.toNat < 2 ^ 8 := middle.toNat_lt
  have highBound : high.toNat < 2 ^ 8 := high.toNat_lt
  have middleShifted : (middle.toUInt32 <<< 8).toNat = middle.toNat <<< 8 := by
    change middle.toNat <<< 8 % 2 ^ 32 = middle.toNat <<< 8
    rw [Nat.shiftLeft_eq]
    omega
  have highShifted : (high.toUInt32 <<< 16).toNat = high.toNat <<< 16 := by
    change high.toNat <<< 16 % 2 ^ 32 = high.toNat <<< 16
    rw [Nat.shiftLeft_eq]
    omega
  have lower : low.toNat ||| middle.toNat <<< 8 =
      low.toNat + 256 * middle.toNat := by
    rw [Nat.or_comm, ← Nat.shiftLeft_add_eq_or_of_lt lowBound, Nat.shiftLeft_eq]
    omega
  have lowerBound : low.toNat + 256 * middle.toNat < 2 ^ 16 := by omega
  rw [UInt32.toNat_or, UInt32.toNat_or, middleShifted, highShifted,
    UInt8.toNat_toUInt32, lower, Nat.or_comm,
    ← Nat.shiftLeft_add_eq_or_of_lt lowerBound, Nat.shiftLeft_eq]
  omega

/-! ## Narrowing -/

theorem toNat_ofInt8_eq_iff (value : Int) :
    ((UInt8.ofInt value).toNat : Int) = value ↔ 0 ≤ value ∧ value < 256 := by
  have narrowed : (UInt8.ofInt value).toNat = (value % 2 ^ 8).toNat % 2 ^ 8 := rfl
  rw [narrowed]
  omega

theorem toNat_ofInt16_eq_iff (value : Int) :
    ((UInt16.ofInt value).toNat : Int) = value ↔ 0 ≤ value ∧ value < 65536 := by
  have narrowed : (UInt16.ofInt value).toNat = (value % 2 ^ 16).toNat % 2 ^ 16 := rfl
  rw [narrowed]
  omega

theorem ofInt8_eq_iff (value : Int) (byte : UInt8) :
    UInt8.ofInt value = byte ↔ value % 256 = byte.toNat := by
  have narrowed : (UInt8.ofInt value).toNat = (value % 2 ^ 8).toNat % 2 ^ 8 := rfl
  rw [← UInt8.toNat_inj, narrowed]
  omega

theorem ofInt16_eq_iff (value : Int) (word : UInt16) :
    UInt16.ofInt value = word ↔ value % 65536 = word.toNat := by
  have narrowed : (UInt16.ofInt value).toNat = (value % 2 ^ 16).toNat % 2 ^ 16 := rfl
  rw [← UInt16.toNat_inj, narrowed]
  omega

end Prism.Bytes
