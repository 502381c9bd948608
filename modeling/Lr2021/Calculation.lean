import Lr2021.Goodput
import Lr2021.Lora
import Lr2021.Lib.OutcomeLogic
import Lr2021.Lib.FloorRatio

set_option autoImplicit false

/-! The entry points of the C ABI that only calculate, and how a return code carries
their outcomes. -/
namespace Lr2021

open Cmd Flrc FixedWidth OutcomeLogic FloorRatio

/-- The return code of an outcome: one `i32` for the error codes and the results. -/
def returnCode : Except Int32 Int → Int32
  | .error e => e
  | .ok v => Int32.ofInt v

/-- A check of an argument. -/
def refuseIf (bad : Prop) [Decidable bad] : Except Int32 Unit :=
  if bad then .error errParam else .ok ()

/-- A table lookup. -/
def found {α : Type} : Option α → Except Int32 α
  | some v => .ok v
  | none => .error errParam

/-- The results that a return code can carry. -/
def Fits (v : Int) : Prop := 0 ≤ v ∧ v < 2 ^ 31

theorem fits_natCast (n : Nat) (small : n < 2 ^ 31) : Fits n := by
  unfold Fits
  omega

theorem fits_u8 (x : UInt8) : Fits x.toNat := fits_natCast _ (by have := x.toNat_lt; omega)

theorem fits_u16 (x : UInt16) : Fits x.toNat := fits_natCast _ (by have := x.toNat_lt; omega)

theorem toInt_returnCode {v : Int} (fits : Fits v) : (returnCode (.ok v)).toInt = v := by
  obtain ⟨nonneg, small⟩ := fits
  exact Int32.toInt_ofInt_of_le (by omega) (by omega)

theorem returnCode_ok {x : Int32} {v : Int} (same : x.toInt = v) : returnCode (.ok v) = x := by
  rw [← same]
  exact Int32.ofInt_toInt x

theorem returnCode_u16 (x : UInt16) : returnCode (.ok (x.toNat : Int)) = ofU16 x :=
  returnCode_ok (toInt_ofU16 x)

theorem returnCode_u32 (x : UInt32) (small : x.toNat < 2 ^ 31) :
    returnCode (.ok (x.toNat : Int)) = x.toInt32 := returnCode_ok (toInt_toInt32_of_lt x small)

theorem refuseIf_allowed (bad : Prop) [Decidable bad] :
    Allowed (· < 0) (fun _ => ¬bad) (refuseIf bad) := by
  unfold refuseIf
  split
  · exact (by decide : errParam < 0)
  · assumption

theorem found_allowed {α : Type} (entry : Option α) :
    Allowed (· < 0) (fun v => entry = some v) (found entry) := by
  cases entry with
  | none => exact (by decide : errParam < 0)
  | some v => exact rfl

/-- The entry points that only calculate. -/
inductive Calculation where
  | flrcBitrateKbps (brBw : Int32)
  | flrcBandwidthKhz (brBw : Int32)
  | flrcModulationParams (brBw cr shaping : Int32)
  | flrcGoodputBps (bytes elapsedMs : Int32)
  | flrcPerPermille (sent received : Int32)
  | loraBwHz (bw : Int32)
  | loraLdroNeeded (sf bw : Int32)

namespace Calculation

/-- The entry point itself. -/
def run : Calculation → Int32
  | flrcBitrateKbps brBw => Ffi.lr2021FlrcBitrateKbps brBw
  | flrcBandwidthKhz brBw => Ffi.lr2021FlrcBandwidthKhz brBw
  | flrcModulationParams brBw cr shaping => Ffi.lr2021FlrcModulationParams brBw cr shaping
  | flrcGoodputBps bytes elapsedMs => Ffi.lr2021FlrcGoodputBps bytes elapsedMs
  | flrcPerPermille sent received => Ffi.lr2021FlrcPerPermille sent received
  | loraBwHz bw => Ffi.lr2021LoraBwHz bw
  | loraLdroNeeded sf bw => Ffi.lr2021LoraLdroNeeded sf bw

/-- The checks of the arguments, and then the result of the core over the integers. -/
def outcome : Calculation → Except Int32 Int
  | flrcBitrateKbps brBw => do
      refuseIf (¬(0 ≤ brBw ∧ brBw ≤ 0xFF))
      let kbps ← found (bitrateKbps (asU8 brBw))
      pure kbps.toNat
  | flrcBandwidthKhz brBw => do
      refuseIf (¬(0 ≤ brBw ∧ brBw ≤ 0xFF))
      let khz ← found (bandwidthKhz (asU8 brBw))
      pure khz.toNat
  | flrcModulationParams brBw cr shaping => do
      refuseIf (¬(0 ≤ brBw ∧ brBw ≤ 0xFF) ∨ ¬(0 ≤ cr ∧ cr ≤ 0xFF) ∨
        ¬(0 ≤ shaping ∧ shaping ≤ 0xFF))
      let (rate, coding) ← Flrc.modulationParams (asU8 brBw) (asU8 cr) (asU8 shaping)
      pure (rate.toNat * 256 + coding.toNat)
  | flrcGoodputBps bytes elapsedMs => do
      refuseIf (bytes < 0 ∨ elapsedMs < 0)
      pure (min (goodputBps bytes.toUInt32 elapsedMs.toUInt32).toNat (2 ^ 31 - 1))
  | flrcPerPermille sent received => do
      refuseIf (sent < 0 ∨ received < 0)
      pure (perPermille sent.toUInt32 received.toUInt32).toNat
  | loraBwHz bw => do
      refuseIf (¬(0 ≤ bw ∧ bw ≤ 0xFF))
      let hz ← found (Cmd.loraBwHz (asU8 bw))
      pure hz.toNat
  | loraLdroNeeded sf bw => do
      refuseIf (¬(0 ≤ sf ∧ sf ≤ 0xFF) ∨ ¬(0 ≤ bw ∧ bw ≤ 0xFF))
      pure (if Lora.ldroNeeded (asU8 sf) (asU8 bw) then 1 else 0)

theorem modulationParams_allowed (brBw cr shaping : UInt8) :
    Allowed (· < 0) (fun _ => True) (Flrc.modulationParams brBw cr shaping) := by
  unfold Flrc.modulationParams
  repeat' split
  all_goals first
    | exact trivial
    | exact (by decide : errParam < 0)

theorem loraBwHz_lt {bw : UInt8} {hz : UInt32} (known : Cmd.loraBwHz bw = some hz) :
    hz.toNat < 2 ^ 31 := by
  have bounds := Lora.loraBwHz_bounds known
  omega

theorem toNat_saturatingSub (left right : UInt32) :
    (saturatingSub left right).toNat = left.toNat - right.toNat := by
  unfold saturatingSub
  split
  · rename_i less
    have below := UInt32.le_iff_toNat_le.mp less
    change 0 = _
    omega
  · rename_i more
    exact UInt32.toNat_sub_of_le _ _ (UInt32.le_of_lt (UInt32.not_le.mp more))

/-- The product fits 64 bits and the quotient 32, so nothing is cut off. -/
theorem toNat_perPermille (sent received : UInt32) :
    (perPermille sent received).toNat = share 1000 (sent.toNat - received.toNat) sent.toNat := by
  unfold perPermille
  split
  · rename_i none
    rw [none]
    exact (Nat.div_zero _).symm
  · have small := sent.toNat_lt
    have limit : share 1000 (sent.toNat - received.toNat) sent.toNat ≤ 1000 :=
      share_le (Nat.sub_le _ _)
    simp only [UInt64.toNat_toUInt32, UInt64.toNat_div, UInt64.toNat_mul, UInt32.toNat_toUInt64,
      show (1000 : UInt64).toNat = 1000 from rfl, toNat_saturatingSub]
    rw [Nat.mod_eq_of_lt (show (sent.toNat - received.toNat) * 1000 < 2 ^ 64 by omega)]
    exact Nat.mod_eq_of_lt (Nat.lt_of_le_of_lt limit (by decide))

theorem perPermille_lt (sent received : UInt32) : (perPermille sent received).toNat < 2 ^ 31 := by
  rw [toNat_perPermille]
  exact Nat.lt_of_le_of_lt (share_le (Nat.sub_le _ _)) (by decide : 1000 < 2 ^ 31)

/-- Errors of a calculation are negative and its results fit. -/
theorem outcome_allowed (calculation : Calculation) :
    Allowed (· < 0) Fits calculation.outcome := by
  cases calculation with
  | flrcBitrateKbps brBw | flrcBandwidthKhz brBw =>
    apply (refuseIf_allowed _).bind
    intro _ _
    exact (found_allowed _).bind fun v _ => fits_u16 v
  | flrcModulationParams brBw cr shaping =>
    apply (refuseIf_allowed _).bind
    intro _ _
    apply (modulationParams_allowed _ _ _).bind
    intro p _
    have high := p.1.toNat_lt
    have low := p.2.toNat_lt
    exact fits_natCast (p.1.toNat * 256 + p.2.toNat) (by omega)
  | flrcGoodputBps bytes elapsedMs =>
    apply (refuseIf_allowed _).bind
    intro _ _
    change Fits _
    unfold Fits
    omega
  | flrcPerPermille sent received =>
    exact (refuseIf_allowed _).bind fun _ _ => fits_natCast _ (perPermille_lt _ _)
  | loraBwHz bw =>
    apply (refuseIf_allowed _).bind
    intro _ _
    exact (found_allowed _).bind fun hz known => fits_natCast _ (loraBwHz_lt known)
  | loraLdroNeeded sf bw =>
    apply (refuseIf_allowed _).bind
    intro _ _
    change Fits _
    unfold Fits
    split <;> omega

/-- A packed pair is the sum of its shifted bytes. -/
theorem toInt_pair (high low : UInt8) :
    ((ofU8 high <<< 8) ||| ofU8 low).toInt = high.toNat * 256 + low.toNat := by
  have h₁ := high.toNat_lt
  have h₂ := low.toNat_lt
  have value : (high.toUInt32 <<< 8 ||| low.toUInt32).toNat = high.toNat * 256 + low.toNat := by
    rw [UInt32.toNat_or, UInt32.toNat_shiftLeft, UInt8.toNat_toUInt32, UInt8.toNat_toUInt32,
      show (8 : UInt32).toNat % 32 = 8 from rfl, Nat.shiftLeft_eq,
      Nat.mod_eq_of_lt (show high.toNat * 2 ^ 8 < 2 ^ 32 by omega), ← Nat.shiftLeft_eq,
      ← Nat.shiftLeft_add_eq_or_of_lt h₂, Nat.shiftLeft_eq]
  change (high.toUInt32 <<< 8 ||| low.toUInt32).toInt32.toInt = _
  rw [toInt_toInt32_of_lt _ (by omega), value]
  omega

/-- A rate that is looked up before its code is checked. -/
theorem lookup_encodes (byte : Prop) [Decidable byte] (entry : Option UInt16) :
    (match entry with
      | some v => if byte then ofU16 v else errParam
      | none => errParam) =
      returnCode (do
        refuseIf (¬byte)
        let v ← found entry
        pure v.toNat) := by
  by_cases holds : byte
  · simp only [refuseIf, if_neg (not_not_intro holds), if_pos holds]
    cases entry with
    | none => rfl
    | some v => exact (returnCode_u16 v).symm
  · simp only [refuseIf, if_pos holds, if_neg holds]
    cases entry <;> rfl

theorem run_eq (calculation : Calculation) : calculation.run = returnCode calculation.outcome := by
  cases calculation with
  | flrcBitrateKbps brBw | flrcBandwidthKhz brBw => exact lookup_encodes _ _
  | flrcModulationParams brBw cr shaping =>
    simp only [run, outcome, Ffi.lr2021FlrcModulationParams, refuseIf]
    split
    · rfl
    · cases Flrc.modulationParams (asU8 brBw) (asU8 cr) (asU8 shaping) with
      | error e => rfl
      | ok p => exact (returnCode_ok (toInt_pair p.1 p.2)).symm
  | flrcGoodputBps bytes elapsedMs =>
    simp only [run, outcome, Ffi.lr2021FlrcGoodputBps, refuseIf]
    split
    · rfl
    · have capped := Ffi.toNat_min (goodputBps bytes.toUInt32 elapsedMs.toUInt32) 0x7FFFFFFF
      rw [show (0x7FFFFFFF : UInt32).toNat = 2 ^ 31 - 1 from rfl] at capped
      refine (returnCode_ok ?_).symm
      rw [toInt_toInt32_of_lt _ (by omega), capped]
      omega
  | flrcPerPermille sent received =>
    simp only [run, outcome, Ffi.lr2021FlrcPerPermille, refuseIf]
    split
    · rfl
    · exact (returnCode_u32 _ (perPermille_lt _ _)).symm
  | loraBwHz bw =>
    simp only [run, outcome, Ffi.lr2021LoraBwHz, refuseIf, found]
    split
    · rfl
    · cases known : Cmd.loraBwHz (asU8 bw) with
      | none => rfl
      | some hz => exact (returnCode_u32 hz (loraBwHz_lt known)).symm
  | loraLdroNeeded sf bw =>
    simp only [run, outcome, Ffi.lr2021LoraLdroNeeded, refuseIf]
    split
    · rfl
    · exact (returnCode_ok (toInt_ofBool _)).symm

end Calculation

end Lr2021
