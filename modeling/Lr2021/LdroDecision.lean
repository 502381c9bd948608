import Lr2021.ModulationSetup

set_option autoImplicit false

/-! The low data rate decision against its rule over the integers. -/
namespace Lr2021

open Cmd Flrc FixedWidth

/-- A symbol of `2 ^ sf / hz` seconds reaches 16 ms. -/
def LongSymbol (sf : Nat) (hz : Int) : Prop := 16 * hz ≤ (2 ^ sf * 1000 : Nat)

instance (sf : Nat) (hz : Int) : Decidable (LongSymbol sf hz) :=
  inferInstanceAs (Decidable (16 * hz ≤ (2 ^ sf * 1000 : Nat)))

theorem LongSymbol.mono {sf sf' : Nat} {hz : Int} (long : LongSymbol sf hz) (more : sf ≤ sf') :
    LongSymbol sf' hz := by
  have power : 2 ^ sf ≤ 2 ^ sf' := Nat.pow_le_pow_right (by decide) more
  exact Int.le_trans long (Int.ofNat_le.mpr (Nat.mul_le_mul_right 1000 power))

theorem LongSymbol.anti {sf : Nat} {hz hz' : Int} (long : LongSymbol sf hz') (wider : hz ≤ hz') :
    LongSymbol sf hz :=
  Int.le_trans (Int.mul_le_mul_of_nonneg_left wider (by decide)) long

/-- The shift and the two products of the test stay inside 32 bits. -/
structure TestFits (sf : Nat) (hz : Int) : Prop where
  shift : sf < 32
  symbol : 2 ^ sf * 1000 < 2 ^ 32
  threshold : 16 * hz < 2 ^ 32

theorem testFits_iff (sf : Nat) {hz : Int} (table : hz ≤ 1000000) : TestFits sf hz ↔ sf ≤ 22 := by
  constructor
  · intro fits
    have bound := fits.symbol
    apply Nat.le_of_lt_succ
    apply Decidable.byContradiction
    intro large
    have power : 2 ^ 23 ≤ 2 ^ sf := Nat.pow_le_pow_right (by decide) (Nat.not_lt.mp large)
    omega
  · intro small
    have power : 2 ^ sf ≤ 2 ^ 22 := Nat.pow_le_pow_right (by decide) small
    exact ⟨by omega, by omega, by omega⟩

/-- The symbol of a factor that the shift and the product leave room for. -/
theorem toNat_symbol {sf : UInt8} (small : sf.toNat ≤ 22) :
    (((1 : UInt32) <<< sf.toUInt32) * 1000).toNat = 2 ^ sf.toNat * 1000 := by
  have power : 2 ^ sf.toNat ≤ 2 ^ 22 := Nat.pow_le_pow_right (by decide) small
  have shift : sf.toNat % 32 = sf.toNat := Nat.mod_eq_of_lt (by omega)
  have shifted : 2 ^ sf.toNat % 2 ^ 32 = 2 ^ sf.toNat := Nat.mod_eq_of_lt (by omega)
  rw [UInt32.toNat_mul, UInt32.toNat_shiftLeft, UInt8.toNat_toUInt32, shift]
  change 1 <<< sf.toNat % 2 ^ 32 * 1000 % 2 ^ 32 = 2 ^ sf.toNat * 1000
  rw [Nat.one_shiftLeft, shifted]
  exact Nat.mod_eq_of_lt (by omega)

theorem toNat_threshold {hz : UInt32} (table : hz.toNat ≤ 1000000) :
    (16 * hz).toNat = 16 * hz.toNat := by
  rw [UInt32.toNat_mul]
  change 16 * hz.toNat % 2 ^ 32 = 16 * hz.toNat
  omega

/-- Where nothing overflows, the test over words is the rule. -/
theorem Lora.ldroNeeded_iff {sf bw : UInt8} {hz : UInt32} (known : loraBwHz bw = some hz)
    (small : sf.toNat ≤ 22) :
    ldroNeeded sf bw = true ↔ LongSymbol sf.toNat hz.toNat := by
  have bounds := loraBwHz_bounds known
  have threshold := toNat_threshold (show hz.toNat ≤ 1000000 by omega)
  rw [ldroNeeded, known]
  change decide (16 * hz ≤ ((1 : UInt32) <<< sf.toUInt32) * 1000) = true ↔ _
  rw [decide_eq_true_iff, UInt32.le_iff_toNat_le, toNat_symbol small, threshold, LongSymbol]
  omega

/-- The bandwidth of a code, or an error that is not one. -/
def bandwidth (bw : Int32) : Int := (Ffi.lr2021LoraBwHz bw).toInt

theorem bandwidth_pos_iff (bw : Int32) :
    0 < bandwidth bw ↔ (0 ≤ bw ∧ bw ≤ 0xFF) ∧ ∃ hz, loraBwHz (asU8 bw) = some hz := by
  rw [← Option.isSome_iff_exists, ← Encodable.bwHz_pos_iff, Int32.lt_iff_toInt_lt]
  rfl

theorem bandwidth_eq {bw : Int32} {hz : UInt32} (byte : 0 ≤ bw ∧ bw ≤ 0xFF)
    (known : loraBwHz (asU8 bw) = some hz) : bandwidth bw = hz.toNat := by
  have bounds := Lora.loraBwHz_bounds known
  rw [bandwidth, Ffi.lr2021LoraBwHz, if_neg (not_not_intro byte), known]
  exact toInt_toInt32_of_lt hz (by omega)

/-- The decision is refused, or exact with nothing overflowing on the way. -/
def LdroExact (sf bw : Int32) : Prop :=
  Ffi.lr2021LoraLdroNeeded sf bw = errParam ∨
    (0 < bandwidth bw →
      TestFits sf.toInt.toNat (bandwidth bw) ∧
        Ffi.lr2021LoraLdroNeeded sf bw = if LongSymbol sf.toInt.toNat (bandwidth bw) then 1 else 0)

/-- A spreading factor that the test can shift by, where it is made at all. -/
def Shiftable (sf bw : Int32) : Prop := 0 ≤ sf → sf ≤ 0xFF → 0 < bandwidth bw → sf ≤ 22

theorem ldro_refused (sf bw : Int32) (outside : ¬(0 ≤ sf ∧ sf ≤ 0xFF)) :
    Ffi.lr2021LoraLdroNeeded sf bw = errParam :=
  if_pos (Or.inl outside)

/-- On bytes the answer is a truth value. -/
theorem ldro_admitted {sf bw : Int32} (sfByte : 0 ≤ sf ∧ sf ≤ 0xFF) (bwByte : 0 ≤ bw ∧ bw ≤ 0xFF) :
    Ffi.lr2021LoraLdroNeeded sf bw = ofBool (Lora.ldroNeeded (asU8 sf) (asU8 bw)) :=
  if_neg (not_or.mpr ⟨not_not_intro sfByte, not_not_intro bwByte⟩)

theorem ofBool_ne_errParam (b : Bool) : ofBool b ≠ errParam := by
  cases b <;> decide

/-- Up to 22 the test is exact. -/
theorem ldroExact_of_small {sf bw : Int32} (sfByte : 0 ≤ sf ∧ sf ≤ 0xFF) (small : sf ≤ 22)
    (wide : 0 < bandwidth bw) :
    TestFits sf.toInt.toNat (bandwidth bw) ∧
      Ffi.lr2021LoraLdroNeeded sf bw =
        if LongSymbol sf.toInt.toNat (bandwidth bw) then 1 else 0 := by
  obtain ⟨bwByte, hz, known⟩ := (bandwidth_pos_iff bw).mp wide
  have bounds := Lora.loraBwHz_bounds known
  have factor := toNat_asU8_of_byte sfByte
  have limit : sf.toInt ≤ 22 := Int32.le_iff_toInt_le.mp small
  have decided := Lora.ldroNeeded_iff known (show (asU8 sf).toNat ≤ 22 by omega)
  rw [bandwidth_eq bwByte known, ← factor, Int.toNat_natCast, ldro_admitted sfByte bwByte]
  refine ⟨(testFits_iff _ (by omega)).mpr (by omega), ?_⟩
  by_cases long : LongSymbol (asU8 sf).toNat hz.toNat
  · rw [if_pos long, decided.mpr long]
    rfl
  · rw [if_neg long, Bool.eq_false_iff.mpr fun needed => long (decided.mp needed)]
    rfl

theorem ldroExact_iff (sf bw : Int32) : LdroExact sf bw ↔ Shiftable sf bw := by
  constructor
  · intro exact lower upper wide
    obtain ⟨bwByte, hz, known⟩ := (bandwidth_pos_iff bw).mp wide
    rcases exact with refused | exact
    · rw [ldro_admitted ⟨lower, upper⟩ bwByte] at refused
      exact absurd refused (ofBool_ne_errParam _)
    · have bounds := Lora.loraBwHz_bounds known
      have table : bandwidth bw ≤ 1000000 := by
        rw [bandwidth_eq bwByte known]
        omega
      have small := (testFits_iff _ table).mp (exact wide).1
      have nonneg : (0 : Int) ≤ sf.toInt := Int32.le_iff_toInt_le.mp lower
      rw [Int32.le_iff_toInt_le]
      change sf.toInt ≤ 22
      omega
  · intro shiftable
    by_cases sfByte : 0 ≤ sf ∧ sf ≤ 0xFF
    · exact Or.inr fun wide =>
        ldroExact_of_small sfByte (shiftable sfByte.1 sfByte.2 wide) wide
    · exact Or.inl (ldro_refused sf bw sfByte)

/-- A truth value follows an implication. -/
theorem indicator_mono {p q : Prop} [Decidable p] [Decidable q] (implies : p → q) :
    (if p then 1 else 0 : Int32) ≤ if q then 1 else 0 := by
  by_cases holds : p
  · rw [if_pos holds, if_pos (implies holds)]
    decide
  · rw [if_neg holds]
    split <;> decide

theorem ldro_mono_factor {sf sf' bw : Int32} (sfByte : 0 ≤ sf ∧ sf ≤ 0xFF)
    (sfByte' : 0 ≤ sf' ∧ sf' ≤ 0xFF) (small : sf ≤ 22) (small' : sf' ≤ 22)
    (wide : 0 < bandwidth bw) (more : sf ≤ sf') :
    Ffi.lr2021LoraLdroNeeded sf bw ≤ Ffi.lr2021LoraLdroNeeded sf' bw := by
  have factors : sf.toInt ≤ sf'.toInt := Int32.le_iff_toInt_le.mp more
  rw [(ldroExact_of_small sfByte small wide).2, (ldroExact_of_small sfByte' small' wide).2]
  apply indicator_mono
  intro long
  exact long.mono (by omega)

theorem ldro_anti_bandwidth {sf bw bw' : Int32} (sfByte : 0 ≤ sf ∧ sf ≤ 0xFF) (small : sf ≤ 22)
    (wide : 0 < bandwidth bw) (wider : bandwidth bw ≤ bandwidth bw') :
    Ffi.lr2021LoraLdroNeeded sf bw' ≤ Ffi.lr2021LoraLdroNeeded sf bw := by
  have wide' : 0 < bandwidth bw' := by omega
  rw [(ldroExact_of_small sfByte small wide').2, (ldroExact_of_small sfByte small wide).2]
  apply indicator_mono
  intro long
  exact long.anti wider

/-- The decision is exact for the spreading factors up to 22, and among these it follows the
spreading factor up and the bandwidth down. -/
theorem ldro_exact_iff (sf bw : Int32) :
    (LdroExact sf bw ↔ (0 ≤ sf → sf ≤ 0xFF → 0 < bandwidth bw → sf ≤ 22)) ∧
    (∀ sf' : Int32, Shiftable sf bw → Shiftable sf' bw → 0 < bandwidth bw →
      0 ≤ sf → sf ≤ sf' → sf' ≤ 0xFF →
        Ffi.lr2021LoraLdroNeeded sf bw ≤ Ffi.lr2021LoraLdroNeeded sf' bw) ∧
    (∀ bw' : Int32, Shiftable sf bw → Shiftable sf bw' → 0 ≤ sf → sf ≤ 0xFF →
      0 < bandwidth bw → bandwidth bw ≤ bandwidth bw' →
        Ffi.lr2021LoraLdroNeeded sf bw' ≤ Ffi.lr2021LoraLdroNeeded sf bw) := by
  refine ⟨ldroExact_iff sf bw, ?_, ?_⟩
  · intro sf' shiftable shiftable' wide lower more upper
    have sfByte : 0 ≤ sf ∧ sf ≤ 0xFF := ⟨lower, Int32.le_trans more upper⟩
    have sfByte' : 0 ≤ sf' ∧ sf' ≤ 0xFF := ⟨Int32.le_trans lower more, upper⟩
    have small := shiftable sfByte.1 sfByte.2 wide
    have small' := shiftable' sfByte'.1 sfByte'.2 wide
    exact ldro_mono_factor sfByte sfByte' small small' wide more
  · intro bw' shiftable _ lower upper wide wider
    have small := shiftable lower upper wide
    exact ldro_anti_bandwidth ⟨lower, upper⟩ small wide wider

/-- SF11 at 125 kHz needs the optimization, so SF12 does too, and so does SF11 at 83 kHz, a
higher code. -/
theorem ldro_exact_iff_sf11 :
    LdroExact 11 4 ∧ Ffi.lr2021LoraLdroNeeded 11 4 ≤ Ffi.lr2021LoraLdroNeeded 12 4 ∧
      Ffi.lr2021LoraLdroNeeded 11 4 ≤ Ffi.lr2021LoraLdroNeeded 11 0x0B := by
  obtain ⟨exactly, raise, -⟩ := ldro_exact_iff 11 4
  obtain ⟨-, -, widen⟩ := ldro_exact_iff 11 0x0B
  have shiftable (sf bw : Int32) (small : sf ≤ 22) : Shiftable sf bw := fun _ _ _ => small
  refine ⟨exactly.mpr (shiftable _ _ (by decide)), raise 12 ?_ ?_ ?_ ?_ ?_ ?_,
    widen 4 ?_ ?_ ?_ ?_ ?_ ?_⟩
  all_goals first | exact shiftable _ _ (by decide) | decide

/-- A spreading factor of 32 is shifted by nothing, and turns the optimization off. -/
theorem ldro_shift_wraps :
    ¬((∀ sf bw : Int32, LdroExact sf bw) ∧
      ∀ sf sf' bw : Int32, 0 < bandwidth bw → 0 ≤ sf → sf ≤ sf' → sf' ≤ 0xFF →
        Ffi.lr2021LoraLdroNeeded sf bw ≤ Ffi.lr2021LoraLdroNeeded sf' bw) := by
  rintro ⟨-, monotone⟩
  exact absurd (monotone 12 32 4 (by decide) (by decide) (by decide) (by decide)) (by decide)

end Lr2021
