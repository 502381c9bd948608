import Lr2021.Ffi

set_option autoImplicit false

/-! The goodput figure against its definition over the integers. -/
namespace Lr2021

open Flrc FixedWidth

namespace Flrc

/-- The product fits 64 bits, so the quotient is exact until it is narrowed. -/
theorem toNat_goodputBps (bytes elapsedMs : UInt32) (positive : elapsedMs ≠ 0) :
    (goodputBps bytes elapsedMs).toNat = bytes.toNat * 8000 / elapsedMs.toNat % 2 ^ 32 := by
  have small := bytes.toNat_lt
  rw [goodputBps, if_neg positive]
  simp only [UInt64.toNat_toUInt32, UInt64.toNat_div, UInt64.toNat_mul, UInt32.toNat_toUInt64,
    show (8 : UInt64).toNat = 8 from rfl, show (1000 : UInt64).toNat = 1000 from rfl]
  rw [Nat.mod_eq_of_lt (show bytes.toNat * 8 < 2 ^ 64 by omega),
    Nat.mod_eq_of_lt (show bytes.toNat * 8 * 1000 < 2 ^ 64 by omega), Nat.mul_assoc]

end Flrc

/-- The quotient over the integers as one over the naturals. -/
private theorem quotient_toNat {bytes elapsedMs : Int32} (counted : 0 ≤ bytes.toInt)
    (timed : 0 < elapsedMs.toInt) :
    bytes.toInt * 8000 / elapsedMs.toInt =
      (bytes.toInt.toNat * 8000 / elapsedMs.toInt.toNat : Nat) := by
  rw [Int.natCast_ediv, Int.natCast_mul, Int.toNat_of_nonneg counted,
    Int.toNat_of_nonneg (Int.le_of_lt timed)]
  rfl

/-- What the goodput should be: an error for a negative argument, nothing for no time, and
else the quotient over the integers, capped at the largest signed word. -/
def goodputSpec (bytes elapsedMs : Int32) : Int :=
  if bytes.toInt < 0 ∨ elapsedMs.toInt < 0 then errParam.toInt
  else if elapsedMs.toInt = 0 then 0
  else min (bytes.toInt * 8000 / elapsedMs.toInt) (2 ^ 31 - 1)

/-- The cap still tells that the quotient is too large: it has not been narrowed at all,
or what is left of it is above the cap too. -/
def CapSeesQuotient (bytes elapsedMs : Int32) : Prop :=
  bytes.toInt < 0 ∨ elapsedMs.toInt ≤ 0 ∨
    bytes.toInt * 8000 < 2 ^ 32 * elapsedMs.toInt ∨
    (2 ^ 31 - 1) * elapsedMs.toInt ≤ bytes.toInt * 8000 % (2 ^ 32 * elapsedMs.toInt)

namespace Ffi

theorem toNat_min (x y : UInt32) : (min x y).toNat = min x.toNat y.toNat := by
  rw [show min x y = if x ≤ y then x else y from rfl]
  split
  · rename_i le
    rw [Nat.min_eq_left (UInt32.le_iff_toNat_le.mp le)]
  · rename_i gt
    rw [Nat.min_eq_right (Nat.le_of_lt (UInt32.lt_iff_toNat_lt.mp (UInt32.not_le.mp gt)))]

/-- The entry point on arguments that are not negative, over the naturals. -/
theorem toInt_goodput (bytes elapsedMs : Int32) (counted : 0 ≤ bytes.toInt)
    (timed : 0 < elapsedMs.toInt) :
    (lr2021FlrcGoodputBps bytes elapsedMs).toInt =
      (min (bytes.toInt.toNat * 8000 / elapsedMs.toInt.toNat % 2 ^ 32) (2 ^ 31 - 1) : Nat) := by
  have admitted : ¬(bytes < 0 ∨ elapsedMs < 0) := by
    rintro (negative | negative)
    · have below : bytes.toInt < 0 := Int32.lt_iff_toInt_lt.mp negative
      omega
    · have below : elapsedMs.toInt < 0 := Int32.lt_iff_toInt_lt.mp negative
      omega
  have count : bytes.toUInt32.toNat = bytes.toInt.toNat := by
    have value := toNat_toUInt32_of_nonneg bytes (Int32.le_iff_toInt_le.mpr counted)
    omega
  have time : elapsedMs.toUInt32.toNat = elapsedMs.toInt.toNat := by
    have value := toNat_toUInt32_of_nonneg elapsedMs
      (Int32.le_iff_toInt_le.mpr (Int.le_of_lt timed))
    omega
  have positive : elapsedMs.toUInt32 ≠ 0 := by
    intro zero
    rw [zero] at time
    change 0 = elapsedMs.toInt.toNat at time
    omega
  have capped : (min (goodputBps bytes.toUInt32 elapsedMs.toUInt32) 0x7FFFFFFF).toNat =
      min (bytes.toInt.toNat * 8000 / elapsedMs.toInt.toNat % 2 ^ 32) (2 ^ 31 - 1) := by
    rw [toNat_min, toNat_goodputBps _ _ positive, count, time]
    rfl
  rw [lr2021FlrcGoodputBps, if_neg admitted, toInt_toInt32_of_lt _ (by omega), capped]

end Ffi

/-- Narrowing before capping is harmless exactly where the narrowed quotient is the
quotient or lies above the cap. -/
theorem min_mod_eq_iff (total time : Nat) (positive : 0 < time) :
    min (total / time % 2 ^ 32) (2 ^ 31 - 1) = min (total / time) (2 ^ 31 - 1) ↔
      total < 2 ^ 32 * time ∨ (2 ^ 31 - 1) * time ≤ total % (2 ^ 32 * time) := by
  have quotient : total / time % 2 ^ 32 = total % (2 ^ 32 * time) / time := by
    rw [Nat.mul_comm, Nat.mod_mul_right_div_self]
  have small : total < 2 ^ 32 * time ↔ total / time < 2 ^ 32 :=
    (Nat.div_lt_iff_lt_mul positive).symm
  have above : (2 ^ 31 - 1) * time ≤ total % (2 ^ 32 * time) ↔
      2 ^ 31 - 1 ≤ total / time % 2 ^ 32 := by
    rw [quotient, Nat.le_div_iff_mul_le positive]
  rw [small, above]
  have narrowed : total / time % 2 ^ 32 ≤ total / time := Nat.mod_le _ _
  omega

theorem goodput_eq_iff (bytes elapsedMs : Int32) :
    (Ffi.lr2021FlrcGoodputBps bytes elapsedMs).toInt = goodputSpec bytes elapsedMs ↔
      CapSeesQuotient bytes elapsedMs := by
  by_cases negative : bytes.toInt < 0 ∨ elapsedMs.toInt < 0
  · have refused : bytes < 0 ∨ elapsedMs < 0 :=
      negative.imp Int32.lt_iff_toInt_lt.mpr Int32.lt_iff_toInt_lt.mpr
    refine iff_of_true ?_ (negative.imp id fun below => Or.inl (Int.le_of_lt below))
    rw [Ffi.lr2021FlrcGoodputBps, if_pos refused, goodputSpec, if_pos negative]
  · have counted : 0 ≤ bytes.toInt := by omega
    by_cases zero : elapsedMs.toInt = 0
    · have stopped : elapsedMs = 0 := Int32.toInt_inj.mp zero
      have admitted : ¬(bytes < 0 ∨ elapsedMs < 0) := fun refused =>
        negative (refused.imp Int32.lt_iff_toInt_lt.mp Int32.lt_iff_toInt_lt.mp)
      refine iff_of_true ?_ (Or.inr (Or.inl (by omega)))
      rw [Ffi.lr2021FlrcGoodputBps, if_neg admitted, goodputSpec, if_neg negative, if_pos zero,
        stopped]
      rfl
    · have timed : 0 < elapsedMs.toInt := by omega
      have exact := min_mod_eq_iff (bytes.toInt.toNat * 8000) elapsedMs.toInt.toNat (by omega)
      have remainder : bytes.toInt * 8000 % (2 ^ 32 * elapsedMs.toInt) =
          (bytes.toInt.toNat * 8000 % (2 ^ 32 * elapsedMs.toInt.toNat) : Nat) := by
        rw [Int.natCast_emod, Int.natCast_mul, Int.natCast_mul, Int.toNat_of_nonneg counted,
          Int.toNat_of_nonneg (Int.le_of_lt timed)]
        rfl
      rw [Ffi.toInt_goodput bytes elapsedMs counted timed, goodputSpec, if_neg negative,
        if_neg zero, quotient_toNat counted timed, CapSeesQuotient, remainder]
      omega

/-- The figure as it should be never falls when more bytes arrive in the same time. -/
theorem goodputSpec_mono_bytes (bytes bytes' elapsedMs : Int32) (counted : 0 ≤ bytes.toInt)
    (timed : 0 ≤ elapsedMs.toInt) (more : bytes.toInt ≤ bytes'.toInt) :
    goodputSpec bytes elapsedMs ≤ goodputSpec bytes' elapsedMs := by
  by_cases zero : elapsedMs.toInt = 0
  · simp only [goodputSpec, zero]
    omega
  · have positive : 0 < elapsedMs.toInt := by omega
    have quotient : bytes.toInt.toNat * 8000 / elapsedMs.toInt.toNat ≤
        bytes'.toInt.toNat * 8000 / elapsedMs.toInt.toNat :=
      Nat.div_le_div_right (by omega)
    rw [goodputSpec, goodputSpec, if_neg (by omega), if_neg zero, if_neg (by omega),
      if_neg zero, quotient_toNat counted positive, quotient_toNat (by omega) positive]
    omega

/-- Nor does it rise when the same bytes take longer. -/
theorem goodputSpec_anti_elapsed (bytes elapsedMs elapsedMs' : Int32)
    (counted : 0 ≤ bytes.toInt) (timed : 1 ≤ elapsedMs.toInt)
    (longer : elapsedMs.toInt ≤ elapsedMs'.toInt) :
    goodputSpec bytes elapsedMs' ≤ goodputSpec bytes elapsedMs := by
  have quotient : bytes.toInt.toNat * 8000 / elapsedMs'.toInt.toNat ≤
      bytes.toInt.toNat * 8000 / elapsedMs.toInt.toNat :=
    Nat.div_le_div_left (by omega) (by omega)
  rw [goodputSpec, goodputSpec, if_neg (by omega), if_neg (by omega), if_neg (by omega),
    if_neg (by omega), quotient_toNat counted (by omega), quotient_toNat counted (by omega)]
  omega

/-- The figure is the exact one where the cap sees the quotient and nowhere else; and
among such arguments it follows the bytes up and the time down. -/
theorem goodput_exact_iff (bytes elapsedMs : Int32) :
    ((Ffi.lr2021FlrcGoodputBps bytes elapsedMs).toInt = goodputSpec bytes elapsedMs ↔
      CapSeesQuotient bytes elapsedMs) ∧
    (∀ bytes' : Int32, 0 ≤ bytes → 0 ≤ elapsedMs → bytes ≤ bytes' →
      CapSeesQuotient bytes elapsedMs → CapSeesQuotient bytes' elapsedMs →
        Ffi.lr2021FlrcGoodputBps bytes elapsedMs ≤ Ffi.lr2021FlrcGoodputBps bytes' elapsedMs) ∧
    (∀ elapsedMs' : Int32, 0 ≤ bytes → 1 ≤ elapsedMs → elapsedMs ≤ elapsedMs' →
      CapSeesQuotient bytes elapsedMs → CapSeesQuotient bytes elapsedMs' →
        Ffi.lr2021FlrcGoodputBps bytes elapsedMs' ≤
          Ffi.lr2021FlrcGoodputBps bytes elapsedMs) := by
  refine ⟨goodput_eq_iff bytes elapsedMs, ?_, ?_⟩
  · intro bytes' counted timed more sees sees'
    rw [Int32.le_iff_toInt_le, (goodput_eq_iff _ _).mpr sees, (goodput_eq_iff _ _).mpr sees']
    exact goodputSpec_mono_bytes bytes bytes' elapsedMs (Int32.le_iff_toInt_le.mp counted)
      (Int32.le_iff_toInt_le.mp timed) (Int32.le_iff_toInt_le.mp more)
  · intro elapsedMs' counted timed longer sees sees'
    rw [Int32.le_iff_toInt_le, (goodput_eq_iff _ _).mpr sees, (goodput_eq_iff _ _).mpr sees']
    exact goodputSpec_anti_elapsed bytes elapsedMs elapsedMs' (Int32.le_iff_toInt_le.mp counted)
      (Int32.le_iff_toInt_le.mp timed) (Int32.le_iff_toInt_le.mp longer)

/-- A burst of 255 kB in a second, and a larger one. -/
theorem goodput_exact_iff_burst :
    (Ffi.lr2021FlrcGoodputBps 255000 1000).toInt = 2040000 ∧
      Ffi.lr2021FlrcGoodputBps 255000 1000 ≤ Ffi.lr2021FlrcGoodputBps 256000 1000 := by
  obtain ⟨exactly, more, -⟩ := goodput_exact_iff 255000 1000
  have sees (bytes : Int32) (small : bytes.toInt * 8000 < 2 ^ 32 * 1000) :
      CapSeesQuotient bytes 1000 := Or.inr (Or.inr (Or.inl small))
  refine ⟨exactly.mpr (sees _ (by decide)), more 256000 (by decide) (by decide) (by decide) ?_ ?_⟩
  · exact sees _ (by decide)
  · exact sees _ (by decide)

/-- 536871 bytes in a millisecond are 4294968000 bits a second, reported as 704: less than
for one byte fewer. -/
theorem goodput_wraps :
    ¬((∀ bytes elapsedMs : Int32,
        (Ffi.lr2021FlrcGoodputBps bytes elapsedMs).toInt = goodputSpec bytes elapsedMs) ∧
      (∀ bytes bytes' elapsedMs : Int32, 0 ≤ bytes → 0 ≤ elapsedMs → bytes ≤ bytes' →
        Ffi.lr2021FlrcGoodputBps bytes elapsedMs ≤ Ffi.lr2021FlrcGoodputBps bytes' elapsedMs)) := by
  rintro ⟨exact, -⟩
  exact absurd (exact 536871 1) (by decide)

end Lr2021
