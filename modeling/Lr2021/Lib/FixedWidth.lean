import Mathlib.Algebra.Group.Int.Defs
import Mathlib.Algebra.Group.Nat.Defs

set_option autoImplicit false

/-! Narrowing, widening and bit-field packing of machine words, as arithmetic. -/
namespace FixedWidth

/-- Two's complement truncation of a signed word to its low byte. -/
def asU8 (x : Int32) : UInt8 := x.toUInt32.toUInt8

/-- Two's complement truncation of a signed word to its low half. -/
def asU16 (x : Int32) : UInt16 := x.toUInt32.toUInt16

/-- Zero extension of a byte into a signed word. -/
def ofU8 (x : UInt8) : Int32 := x.toUInt32.toInt32

/-- Zero extension of a half word into a signed word. -/
def ofU16 (x : UInt16) : Int32 := x.toUInt32.toInt32

/-- The signed word of a truth value. -/
def ofBool (b : Bool) : Int32 := if b then 1 else 0

theorem toNat_toUInt32 (x : Int32) : x.toUInt32.toNat = (x.toInt % 2 ^ 32).toNat := by
  have small : x.toUInt32.toNat < 2 ^ 32 := x.toUInt32.toNat_lt
  have signed : x.toInt = Int.bmod x.toUInt32.toNat (2 ^ 32) :=
    BitVec.toInt_eq_toNat_bmod x.toBitVec
  have residue : Int.bmod (x.toUInt32.toNat : Int) (2 ^ 32) % ((2 ^ 32 : Nat) : Int) =
      (x.toUInt32.toNat : Int) % ((2 ^ 32 : Nat) : Int) := Int.bmod_emod
  rw [signed]
  omega

theorem toNat_toUInt32_of_nonneg (x : Int32) (nonneg : 0 ≤ x) :
    (x.toUInt32.toNat : Int) = x.toInt := by
  have lower : (0 : Int) ≤ x.toInt := Int32.le_iff_toInt_le.mp nonneg
  have upper := x.toInt_lt
  rw [toNat_toUInt32]
  omega

theorem toNat_asU8 (x : Int32) : ((asU8 x).toNat : Int) = x.toInt % 256 := by
  rw [asU8, UInt32.toNat_toUInt8, toNat_toUInt32]
  omega

/-- A word that is a byte is the same byte. -/
theorem toNat_asU8_of_byte {x : Int32} (byte : 0 ≤ x ∧ x ≤ 0xFF) :
    ((asU8 x).toNat : Int) = x.toInt := by
  have lower : (0 : Int) ≤ x.toInt := Int32.le_iff_toInt_le.mp byte.1
  have upper : x.toInt ≤ 255 := Int32.le_iff_toInt_le.mp byte.2
  rw [toNat_asU8]
  omega

/-- The low bits of a signed word as a natural, in two's complement. -/
def residue (width : Nat) (x : Int32) : Nat := x.toUInt32.toNat % 2 ^ width

/-- Reducing to fewer bits forgets what more bits would have kept. -/
theorem residue_mod (x : Int32) {narrow wide : Nat} (narrower : narrow ≤ wide) :
    residue wide x % 2 ^ narrow = residue narrow x :=
  Nat.mod_mod_of_dvd _ (Nat.pow_dvd_pow 2 narrower)

theorem toNat_toUInt32_eq_residue (x : Int32) : x.toUInt32.toNat = residue 32 x :=
  (Nat.mod_eq_of_lt x.toUInt32.toNat_lt).symm

theorem toNat_asU8_eq_residue (x : Int32) : (asU8 x).toNat = residue 8 x :=
  UInt32.toNat_toUInt8 x.toUInt32

theorem toNat_asU16_eq_residue (x : Int32) : (asU16 x).toNat = residue 16 x :=
  UInt32.toNat_toUInt16 x.toUInt32

theorem toInt_toInt32_of_lt (x : UInt32) (small : x.toNat < 2 ^ 31) :
    x.toInt32.toInt = x.toNat := by
  have signed : x.toInt32.toInt = Int.bmod x.toNat (2 ^ 32) :=
    BitVec.toInt_eq_toNat_bmod x.toBitVec
  rw [signed, Int.bmod_def]
  omega

@[simp] theorem toInt_ofU8 (x : UInt8) : (ofU8 x).toInt = x.toNat := by
  have small := x.toNat_lt
  rw [ofU8, toInt_toInt32_of_lt _ (by rw [UInt8.toNat_toUInt32]; omega), UInt8.toNat_toUInt32]

@[simp] theorem toInt_ofU16 (x : UInt16) : (ofU16 x).toInt = x.toNat := by
  have small := x.toNat_lt
  rw [ofU16, toInt_toInt32_of_lt _ (by rw [UInt16.toNat_toUInt32]; omega),
    UInt16.toNat_toUInt32]

@[simp] theorem toInt_ofBool (b : Bool) : (ofBool b).toInt = if b then 1 else 0 := by
  cases b <;> rfl

theorem ofU8_asU8 {x : Int32} (byte : 0 ≤ x ∧ x ≤ 0xFF) : ofU8 (asU8 x) = x := by
  apply Int32.toInt_inj.mp
  rw [toInt_ofU8, toNat_asU8_of_byte byte]

theorem ofU8_nonneg (x : UInt8) : 0 ≤ ofU8 x := by
  rw [Int32.le_iff_toInt_le, toInt_ofU8]
  exact Int.natCast_nonneg _

theorem ofU16_nonneg (x : UInt16) : 0 ≤ ofU16 x := by
  rw [Int32.le_iff_toInt_le, toInt_ofU16]
  exact Int.natCast_nonneg _

theorem ofU8_byte (x : UInt8) : 0 ≤ ofU8 x ∧ ofU8 x ≤ 0xFF := by
  have small := x.toNat_lt
  refine ⟨ofU8_nonneg x, ?_⟩
  rw [Int32.le_iff_toInt_le, toInt_ofU8]
  change (x.toNat : Int) ≤ 255
  omega

theorem asU8_ofU8 (x : UInt8) : asU8 (ofU8 x) = x := by
  apply UInt8.toNat_inj.mp
  have value := toNat_asU8_of_byte (ofU8_byte x)
  rw [toInt_ofU8] at value
  omega

/-- A signed word with a byte of some kind is a byte, of that kind. -/
theorem exists_ofU8_iff (P : UInt8 → Prop) (x : Int32) :
    (∃ code, x = ofU8 code ∧ P code) ↔ (0 ≤ x ∧ x ≤ 0xFF) ∧ P (asU8 x) := by
  constructor
  · rintro ⟨code, rfl, holds⟩
    rw [asU8_ofU8]
    exact ⟨ofU8_byte code, holds⟩
  · rintro ⟨byte, holds⟩
    exact ⟨asU8 x, (ofU8_asU8 byte).symm, holds⟩

/-- Without its top bit a word is a signed word that is not negative. -/
theorem toInt_dropTop (x : UInt32) :
    (x &&& 0x7FFFFFFF).toInt32.toInt = x.toNat % 2 ^ 31 := by
  have kept : (x &&& 0x7FFFFFFF).toNat = x.toNat % 2 ^ 31 := by
    rw [UInt32.toNat_and]
    exact Nat.and_two_pow_sub_one_eq_mod x.toNat 31
  rw [toInt_toInt32_of_lt _ (by omega), kept]
  omega

theorem ofU8_inj (x y : UInt8) : ofU8 x = ofU8 y ↔ x = y := by
  rw [← Int32.toInt_inj, toInt_ofU8, toInt_ofU8, Int.natCast_inj, UInt8.toNat_inj]

theorem ofU16_inj (x y : UInt16) : ofU16 x = ofU16 y ↔ x = y := by
  rw [← Int32.toInt_inj, toInt_ofU16, toInt_ofU16, Int.natCast_inj, UInt16.toNat_inj]

theorem toInt32_inj (x y : UInt32) : x.toInt32 = y.toInt32 ↔ x = y :=
  ⟨congrArg Int32.toUInt32, congrArg UInt32.toInt32⟩

/-- A property of every byte, checked value by value. -/
theorem forall_byte {P : UInt8 → Prop} (each : ∀ n < 256, P (UInt8.ofNat n)) (x : UInt8) : P x := by
  have at_x := each x.toNat x.toNat_lt
  rwa [UInt8.ofNat_toNat] at at_x

theorem and_allOnes (x : UInt8) : x &&& 0xFF = x := UInt8.and_neg_one

/-- A mask passes over exclusive or. -/
theorem xor_and (x y mask : UInt8) : (x ^^^ y) &&& mask = (x &&& mask) ^^^ (y &&& mask) := by
  apply UInt8.toBitVec_inj.mp
  apply BitVec.eq_of_getLsbD_eq
  intro i inside
  simp only [UInt8.toBitVec_and, UInt8.toBitVec_xor, BitVec.getLsbD_and, BitVec.getLsbD_xor]
  cases x.toBitVec.getLsbD i <;> cases y.toBitVec.getLsbD i <;>
    cases mask.toBitVec.getLsbD i <;> rfl

/-- A low mask of `width` ones keeps the residue modulo `2 ^ width`. -/
theorem toNat_lowMask (x : UInt8) (width : Nat) (fits : width ≤ 8) :
    (x &&& UInt8.ofNat (2 ^ width - 1)).toNat = x.toNat % 2 ^ width := by
  have bound : 2 ^ width ≤ 2 ^ 8 := Nat.pow_le_pow_right (by decide) fits
  rw [UInt8.toNat_and, UInt8.toNat_ofNat', Nat.mod_eq_of_lt (by omega),
    Nat.and_two_pow_sub_one_eq_mod]

/-- A low mask is the remainder by the next power of two. -/
theorem and_lowMask (x : UInt8) (width : Nat) (fits : width < 8) :
    x &&& UInt8.ofNat (2 ^ width - 1) = x % UInt8.ofNat (2 ^ width) := by
  have bound : 2 ^ width < 2 ^ 8 := Nat.pow_lt_pow_right (by decide) fits
  apply UInt8.toNat_inj.mp
  rw [toNat_lowMask x width (by omega), UInt8.toNat_mod, UInt8.toNat_ofNat',
    Nat.mod_eq_of_lt bound]

/-- Reducing a field to its width first changes nothing of what its mask keeps. -/
theorem mod_and_lowMask (x : UInt8) (width : Nat) (fits : width < 8) :
    (x % UInt8.ofNat (2 ^ width)) &&& UInt8.ofNat (2 ^ width - 1) =
      x &&& UInt8.ofNat (2 ^ width - 1) := by
  rw [and_lowMask _ width fits, and_lowMask x width fits]
  exact UInt8.toNat_inj.mp (Nat.mod_mod _ _)

/-- Nor does it change what a left shift leaves inside the byte. -/
theorem mod_shiftLeft (x : UInt8) (shift : Nat) (inside : shift < 8) (positive : 0 < shift) :
    (x % UInt8.ofNat (2 ^ (8 - shift))) <<< UInt8.ofNat shift = x <<< UInt8.ofNat shift := by
  have bound : 2 ^ (8 - shift) < 2 ^ 8 := Nat.pow_lt_pow_right (by decide) (by omega)
  have split : 2 ^ 8 = 2 ^ (8 - shift) * 2 ^ shift := by
    rw [← Nat.pow_add, Nat.sub_add_cancel (Nat.le_of_lt inside)]
  apply UInt8.toNat_inj.mp
  rw [UInt8.toNat_shiftLeft, UInt8.toNat_shiftLeft, UInt8.toNat_mod, UInt8.toNat_ofNat',
    UInt8.toNat_ofNat', Nat.mod_eq_of_lt bound, Nat.mod_eq_of_lt (show shift < 2 ^ 8 by omega),
    Nat.mod_eq_of_lt inside, Nat.shiftLeft_eq, Nat.shiftLeft_eq, split,
    Nat.mul_mod_mul_right, Nat.mul_mod_mul_right, Nat.mod_mod]

/-- A field shifted over a low field that fits beneath it: what does not fit above is
lost, and the rest is their sum. -/
theorem toNat_pack (high low : UInt8) (shift : Nat) (inside : shift < 8)
    (lowFits : low.toNat < 2 ^ shift) :
    ((high <<< UInt8.ofNat shift) ||| low).toNat =
      high.toNat % 2 ^ (8 - shift) * 2 ^ shift + low.toNat := by
  have split : 2 ^ 8 = 2 ^ (8 - shift) * 2 ^ shift := by
    rw [← Nat.pow_add, Nat.sub_add_cancel (Nat.le_of_lt inside)]
  rw [UInt8.toNat_or, UInt8.toNat_shiftLeft, UInt8.toNat_ofNat',
    Nat.mod_eq_of_lt (show shift < 2 ^ 8 by omega), Nat.mod_eq_of_lt inside,
    Nat.shiftLeft_eq, split, Nat.mul_mod_mul_right, ← Nat.shiftLeft_eq,
    Nat.shiftLeft_add_eq_or_of_lt lowFits]

/-- The high field of a packed byte comes back by the shift it was packed with. -/
theorem pack_shiftRight (high low : UInt8) (shift : Nat) (inside : shift < 8)
    (positive : 0 < shift) (lowFits : low.toNat < 2 ^ shift) :
    ((high <<< UInt8.ofNat shift) ||| low) >>> UInt8.ofNat shift =
      high % UInt8.ofNat (2 ^ (8 - shift)) := by
  have bound : 2 ^ (8 - shift) < 2 ^ 8 := Nat.pow_lt_pow_right (by decide) (by omega)
  apply UInt8.toNat_inj.mp
  rw [UInt8.toNat_shiftRight, toNat_pack high low shift inside lowFits,
    UInt8.toNat_ofNat', Nat.mod_eq_of_lt (show shift < 2 ^ 8 by omega),
    Nat.mod_eq_of_lt inside, Nat.shiftRight_eq_div_pow, Nat.mul_comm,
    Nat.mul_add_div (Nat.two_pow_pos shift), Nat.div_eq_of_lt lowFits, Nat.add_zero,
    UInt8.toNat_mod, UInt8.toNat_ofNat', Nat.mod_eq_of_lt bound]

/-- The low field of a packed byte comes back by any mask that reaches no further than
the field above it. -/
theorem pack_lowMask (high low : UInt8) (shift width : Nat) (inside : shift < 8)
    (below : width ≤ shift) (lowFits : low.toNat < 2 ^ width) :
    ((high <<< UInt8.ofNat shift) ||| low) &&& UInt8.ofNat (2 ^ width - 1) = low := by
  have fits : low.toNat < 2 ^ shift :=
    Nat.lt_of_lt_of_le lowFits (Nat.pow_le_pow_right (by decide) below)
  have multiple : 2 ^ width ∣ high.toNat % 2 ^ (8 - shift) * 2 ^ shift :=
    Nat.dvd_mul_left_of_dvd (Nat.pow_dvd_pow 2 below) _
  apply UInt8.toNat_inj.mp
  rw [toNat_lowMask _ width (by omega), toNat_pack high low shift inside fits,
    Nat.add_mod, Nat.mod_eq_zero_of_dvd multiple, Nat.zero_add, Nat.mod_mod,
    Nat.mod_eq_of_lt lowFits]

end FixedWidth
