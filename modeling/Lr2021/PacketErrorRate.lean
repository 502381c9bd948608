import Lr2021.Calculation

set_option autoImplicit false

/-! The packet error rate as a statistic of two counts. -/
namespace Lr2021

open Flrc FixedWidth FloorRatio

/-- The rate that the C ABI reports. -/
def errorRate (sent received : Int32) : Int := (Ffi.lr2021FlrcPerPermille sent received).toInt

/-- Counts that are not negative are rated by the share of what went missing. -/
theorem errorRate_eq {sent received : Int32} (counted : 0 ≤ sent) (counted' : 0 ≤ received) :
    errorRate sent received =
      share 1000 (sent.toInt.toNat - received.toInt.toNat) sent.toInt.toNat := by
  have admitted : ¬(sent < 0 ∨ received < 0) :=
    not_or.mpr ⟨Int32.not_lt.mpr counted, Int32.not_lt.mpr counted'⟩
  have total := toNat_toUInt32_of_nonneg sent counted
  have kept := toNat_toUInt32_of_nonneg received counted'
  rw [errorRate, Ffi.lr2021FlrcPerPermille, if_neg admitted,
    toInt_toInt32_of_lt _ (Calculation.perPermille_lt _ _), Calculation.toNat_perPermille,
    ← total, ← kept, Int.toNat_natCast, Int.toNat_natCast]

theorem errorRate_refused {sent received : Int32} (negative : sent < 0 ∨ received < 0) :
    Ffi.lr2021FlrcPerPermille sent received = errParam :=
  if_pos negative

/-- The losses that are rated, of counts as naturals. -/
theorem lost_eq {sent received : Int32} (counted : 0 ≤ sent) (counted' : 0 ≤ received) :
    max (sent.toInt - received.toInt) 0 = (sent.toInt.toNat - received.toInt.toNat : Nat) := by
  have total : (0 : Int) ≤ sent.toInt := Int32.le_iff_toInt_le.mp counted
  have kept : (0 : Int) ≤ received.toInt := Int32.le_iff_toInt_le.mp counted'
  omega

/-- A rate is the losses in thousandths of what was sent, rounded down. -/
theorem errorRate_bracket {sent received : Int32} (positive : 0 < sent) (counted : 0 ≤ received) :
    errorRate sent received * sent.toInt ≤ 1000 * max (sent.toInt - received.toInt) 0 ∧
      1000 * max (sent.toInt - received.toInt) 0 < (errorRate sent received + 1) * sent.toInt := by
  have total : (0 : Int) < sent.toInt := Int32.lt_iff_toInt_lt.mp positive
  have cast : (sent.toInt.toNat : Int) = sent.toInt := Int.toNat_of_nonneg (Int.le_of_lt total)
  rw [errorRate_eq (Int32.le_of_lt positive) counted, lost_eq (Int32.le_of_lt positive) counted]
  generalize sent.toInt.toNat - received.toInt.toNat = lost
  obtain ⟨lower, upper⟩ : share 1000 lost sent.toInt.toNat * sent.toInt.toNat ≤ lost * 1000 ∧ _ :=
    share_bracket (show 0 < sent.toInt.toNat by omega)
  constructor
  · have casted := Int.ofNat_le.mpr lower
    rw [Int.natCast_mul, Int.natCast_mul, cast] at casted
    omega
  · have casted := Int.ofNat_lt.mpr upper
    rw [Int.natCast_mul, Int.natCast_mul, Int.natCast_add, Int.natCast_one, cast] at casted
    omega

theorem errorRate_bounds {sent received : Int32} (counted : 0 ≤ sent) (counted' : 0 ≤ received) :
    0 ≤ errorRate sent received ∧ errorRate sent received ≤ 1000 := by
  have limit : share 1000 (sent.toInt.toNat - received.toInt.toNat) sent.toInt.toNat ≤ 1000 :=
    share_le (Nat.sub_le _ _)
  rw [errorRate_eq counted counted']
  omega

theorem errorRate_zero {received : Int32} (counted : 0 ≤ received) : errorRate 0 received = 0 := by
  rw [errorRate_eq (by decide) counted]
  exact congrArg Nat.cast (Nat.div_zero _)

/-- Everything is lost only where nothing arrived. -/
theorem errorRate_full_iff {sent received : Int32} (counted : 0 ≤ sent) (counted' : 0 ≤ received) :
    errorRate sent received = 1000 ↔ 0 < sent ∧ received = 0 := by
  have total : (0 : Int) ≤ sent.toInt := Int32.le_iff_toInt_le.mp counted
  have kept : (0 : Int) ≤ received.toInt := Int32.le_iff_toInt_le.mp counted'
  have positive_iff : 0 < sent ↔ 0 < sent.toInt.toNat := by
    rw [Int32.lt_iff_toInt_lt]
    change 0 < sent.toInt ↔ _
    omega
  have zero_iff : received = 0 ↔ received.toInt.toNat = 0 := by
    rw [← Int32.toInt_inj]
    change received.toInt = 0 ↔ _
    omega
  rw [errorRate_eq counted counted', positive_iff, zero_iff]
  rcases Nat.eq_zero_or_pos sent.toInt.toNat with none | positive
  · rw [none, share, Nat.div_zero]
    omega
  · have full := share_eq_scale_iff positive (show 0 < 1000 by decide)
      (Nat.sub_le sent.toInt.toNat received.toInt.toNat)
    omega

theorem errorRate_anti_received {sent received received' : Int32} (counted : 0 ≤ sent)
    (counted' : 0 ≤ received) (more : received ≤ received') :
    errorRate sent received' ≤ errorRate sent received := by
  have kept : received.toInt ≤ received'.toInt := Int32.le_iff_toInt_le.mp more
  rw [errorRate_eq counted counted', errorRate_eq counted (Int32.le_trans counted' more)]
  exact Int.ofNat_le.mpr (share_mono (by omega))

theorem errorRate_mono_sent {sent sent' received : Int32} (counted : 0 ≤ sent)
    (counted' : 0 ≤ received) (more : sent ≤ sent') :
    errorRate sent received ≤ errorRate sent' received := by
  have total : sent.toInt ≤ sent'.toInt := Int32.le_iff_toInt_le.mp more
  rw [errorRate_eq counted counted', errorRate_eq (Int32.le_trans counted more) counted']
  exact Int.ofNat_le.mpr (share_missing_mono (by omega))

/-- Counts that are `k` times as large. -/
theorem errorRate_scaled {sent received sent' received' : Int32} {k : Nat} (counted : 0 ≤ sent)
    (counted' : 0 ≤ received) (positive : 1 ≤ k) (total : sent'.toInt = k * sent.toInt)
    (kept : received'.toInt = k * received.toInt) :
    errorRate sent' received' = errorRate sent received := by
  have scaled {count count' : Int32} (nonneg : 0 ≤ count) (times : count'.toInt = k * count.toInt) :
      0 ≤ count' ∧ count'.toInt.toNat = k * count.toInt.toNat := by
    have counts : (0 : Int) ≤ count.toInt := Int32.le_iff_toInt_le.mp nonneg
    have value : count'.toInt = (k * count.toInt.toNat : Nat) := by
      rw [times, Int.natCast_mul, Int.toNat_of_nonneg counts]
    constructor
    · rw [Int32.le_iff_toInt_le, value]
      exact Int.natCast_nonneg _
    · rw [value, Int.toNat_natCast]
  obtain ⟨larger, totals⟩ := scaled counted total
  obtain ⟨larger', keeps⟩ := scaled counted' kept
  rw [errorRate_eq larger larger', errorRate_eq counted counted', totals, keeps,
    ← Nat.mul_sub, share_scaled k positive]

/-- The packet error rate is sound for all counts: it brackets the losses, follows what was
received down and what was sent up, is full only where nothing arrived, and does not depend
on the unit of the counts; and negative counts are refused. -/
theorem packet_error_rate_sound (sent received : Int32) :
    (sent < 0 ∨ received < 0 → Ffi.lr2021FlrcPerPermille sent received = errParam) ∧
    (0 ≤ sent → 0 ≤ received →
      (0 ≤ errorRate sent received ∧ errorRate sent received ≤ 1000) ∧
      (sent = 0 → errorRate sent received = 0) ∧
      (0 < sent →
        errorRate sent received * sent.toInt ≤ 1000 * max (sent.toInt - received.toInt) 0 ∧
          1000 * max (sent.toInt - received.toInt) 0 <
            (errorRate sent received + 1) * sent.toInt) ∧
      (∀ received', received ≤ received' → errorRate sent received' ≤ errorRate sent received) ∧
      (∀ sent', sent ≤ sent' → errorRate sent received ≤ errorRate sent' received) ∧
      (errorRate sent received = 1000 ↔ 0 < sent ∧ received = 0) ∧
      ∀ (k : Nat) (sent' received' : Int32), 1 ≤ k → sent'.toInt = k * sent.toInt →
        received'.toInt = k * received.toInt →
          errorRate sent' received' = errorRate sent received) := by
  refine ⟨errorRate_refused, ?_⟩
  intro counted counted'
  refine ⟨errorRate_bounds counted counted', ?_, ?_, ?_, ?_,
    errorRate_full_iff counted counted', ?_⟩
  · intro unsent
    subst unsent
    exact errorRate_zero counted'
  · intro positive
    exact errorRate_bracket positive counted'
  · intro received' more
    exact errorRate_anti_received counted counted' more
  · intro sent' more
    exact errorRate_mono_sent counted counted' more
  · intro k sent' received' positive total kept
    exact errorRate_scaled counted counted' positive total kept

/-- A third of six packets lost, and of six million. -/
theorem packet_error_rate_sound_third :
    errorRate 6 4 * 6 ≤ 2000 ∧ errorRate 6000000 4000000 = errorRate 6 4 := by
  obtain ⟨-, counted⟩ := packet_error_rate_sound 6 4
  obtain ⟨-, -, bracket, -, -, -, scaled⟩ := counted (by decide) (by decide)
  exact ⟨(bracket (by decide)).1, scaled 1000000 _ _ (by decide) (by decide) (by decide)⟩

end Lr2021
