import Lr2021.Calculation

set_option autoImplicit false

/-! The FLRC parameter word: which triples are packed, and that they come back. -/
namespace Lr2021

open Cmd Flrc FixedWidth

namespace Flrc

/-- The four defined pulse shapes. -/
def shapes : List UInt8 := [shapingNone, shapingGaussBt05, shapingGaussBt10, shapingRrcRolloff05]

theorem mem_shapes_iff (shaping : UInt8) :
    shaping ∈ shapes ↔ shaping = shapingNone ∨ shaping = shapingGaussBt05 ∨
      shaping = shapingGaussBt10 ∨ shaping = shapingRrcRolloff05 := by
  simp only [shapes, List.mem_cons, List.not_mem_nil, or_false]

theorem modulationParams_ok {brBw cr shaping : UInt8} (rate : brBw.toNat < 8)
    (coding : cr.toNat < 4) (shape : shaping ∈ shapes) :
    modulationParams brBw cr shaping = .ok (brBw, (cr <<< 4) ||| (shaping &&& 0x0F)) := by
  have inside : ¬(brBw.toNat ≥ rates.size ∨ cr.toNat ≥ codingRatios.size) := by
    change ¬(8 ≤ brBw.toNat ∨ 4 ≤ cr.toNat)
    omega
  unfold modulationParams
  rw [if_neg inside]
  rcases (mem_shapes_iff shaping).mp shape with rfl | rfl | rfl | rfl <;> rfl

theorem modulationParams_error {brBw cr shaping : UInt8}
    (outside : ¬(brBw.toNat < 8 ∧ cr.toNat < 4 ∧ shaping ∈ shapes)) :
    modulationParams brBw cr shaping = .error errParam := by
  unfold modulationParams
  split
  · rfl
  · rename_i inside
    change ¬(8 ≤ brBw.toNat ∨ 4 ≤ cr.toNat) at inside
    split
    case h_5 => rfl
    all_goals exact absurd ⟨by omega, by omega, by decide⟩ outside

end Flrc

/-- The triples that have codes: a rate both tables know, a coding rate that is defined, and
one of the shapes. -/
structure FlrcAccepted (brBw cr shaping : Int32) : Prop where
  bitrate : 0 ≤ Ffi.lr2021FlrcBitrateKbps brBw
  bandwidth : 0 ≤ Ffi.lr2021FlrcBandwidthKhz brBw
  coding : ∃ code, cr = ofU8 code ∧ (codingRatio code).isSome = true
  shape : shaping ∈ shapes.map ofU8

namespace FlrcAccepted

/-- The eight rate codes. -/
theorem rate_iff (brBw : Int32) :
    (0 ≤ brBw ∧ brBw ≤ 0xFF) ∧ (asU8 brBw).toNat < 8 ↔ 0 ≤ brBw ∧ brBw ≤ 7 := by
  constructor
  · rintro ⟨byte, small⟩
    have value := toNat_asU8_of_byte byte
    rw [Int32.le_iff_toInt_le, Int32.le_iff_toInt_le] at byte ⊢
    refine ⟨byte.1, ?_⟩
    change brBw.toInt ≤ 7
    omega
  · rintro ⟨lower, upper⟩
    have byte : 0 ≤ brBw ∧ brBw ≤ 0xFF := ⟨lower, Int32.le_trans upper (by decide)⟩
    have value := toNat_asU8_of_byte byte
    have bound : brBw.toInt ≤ 7 := Int32.le_iff_toInt_le.mp upper
    exact ⟨byte, by omega⟩

/-- A lookup of either column of the table answers for the eight codes, and has one error
for everything else. -/
theorem lookup_nonneg_iff (brBw : Int32) (column : UInt16 × UInt16 → UInt16) {rc : Int32}
    (looked : rc = returnCode (do
      refuseIf (¬(0 ≤ brBw ∧ brBw ≤ 0xFF))
      let v ← found (rates[(asU8 brBw).toNat]?.map column)
      pure v.toNat)) :
    (0 ≤ rc ↔ 0 ≤ brBw ∧ brBw ≤ 7) ∧ (¬0 ≤ rc → rc = errParam) := by
  have refused (noCode : ¬(0 ≤ brBw ∧ brBw ≤ 7)) (code : rc = errParam) :
      (0 ≤ rc ↔ 0 ≤ brBw ∧ brBw ≤ 7) ∧ (¬0 ≤ rc → rc = errParam) := by
    subst code
    exact ⟨iff_of_false (by decide) noCode, fun _ => rfl⟩
  rw [← rate_iff] at refused ⊢
  by_cases byte : 0 ≤ brBw ∧ brBw ≤ 0xFF
  · rw [refuseIf, if_neg (not_not_intro byte)] at looked
    have listed : (rates[(asU8 brBw).toNat]?.map column).isSome = true ↔
        (asU8 brBw).toNat < 8 := by
      rw [Option.isSome_map, isSome_getElem?]
    cases entry : rates[(asU8 brBw).toNat]?.map column with
    | none =>
      rw [entry] at looked listed
      exact refused (fun known => Bool.noConfusion (listed.mpr known.2)) looked
    | some v =>
      rw [entry] at looked listed
      have value : rc = ofU16 v := looked.trans (returnCode_u16 v)
      have nonneg : 0 ≤ rc := by
        rw [value]
        exact ofU16_nonneg v
      constructor
      · exact iff_of_true nonneg ⟨byte, listed.mp rfl⟩
      · intro negative
        exact absurd nonneg negative
  · rw [refuseIf, if_pos byte] at looked
    exact refused (fun known => byte known.1) looked

theorem bitrate_nonneg_iff (brBw : Int32) :
    (0 ≤ Ffi.lr2021FlrcBitrateKbps brBw ↔ 0 ≤ brBw ∧ brBw ≤ 7) ∧
      (¬0 ≤ Ffi.lr2021FlrcBitrateKbps brBw → Ffi.lr2021FlrcBitrateKbps brBw = errParam) :=
  lookup_nonneg_iff brBw Prod.fst (Calculation.run_eq (.flrcBitrateKbps brBw))

theorem bandwidth_nonneg_iff (brBw : Int32) :
    (0 ≤ Ffi.lr2021FlrcBandwidthKhz brBw ↔ 0 ≤ brBw ∧ brBw ≤ 7) ∧
      (¬0 ≤ Ffi.lr2021FlrcBandwidthKhz brBw → Ffi.lr2021FlrcBandwidthKhz brBw = errParam) :=
  lookup_nonneg_iff brBw Prod.snd (Calculation.run_eq (.flrcBandwidthKhz brBw))

theorem coding_iff (cr : Int32) :
    (∃ code, cr = ofU8 code ∧ (codingRatio code).isSome = true) ↔
      (0 ≤ cr ∧ cr ≤ 0xFF) ∧ (asU8 cr).toNat < 4 := by
  rw [exists_ofU8_iff, codingRatio, isSome_getElem?]

theorem shape_iff (shaping : Int32) :
    shaping ∈ shapes.map ofU8 ↔ (0 ≤ shaping ∧ shaping ≤ 0xFF) ∧ asU8 shaping ∈ shapes := by
  rw [← exists_ofU8_iff, List.mem_map]
  simp only [eq_comm, and_comm]

/-- Bytes that the packing takes. -/
theorem iff_bytes (brBw cr shaping : Int32) :
    FlrcAccepted brBw cr shaping ↔
      ((0 ≤ brBw ∧ brBw ≤ 0xFF) ∧ (0 ≤ cr ∧ cr ≤ 0xFF) ∧ (0 ≤ shaping ∧ shaping ≤ 0xFF)) ∧
        (asU8 brBw).toNat < 8 ∧ (asU8 cr).toNat < 4 ∧ asU8 shaping ∈ shapes := by
  constructor
  · intro accepted
    obtain ⟨brByte, rate⟩ := (rate_iff brBw).mpr ((bitrate_nonneg_iff brBw).1.mp accepted.bitrate)
    obtain ⟨crByte, coding⟩ := (coding_iff cr).mp accepted.coding
    obtain ⟨shapeByte, shape⟩ := (shape_iff shaping).mp accepted.shape
    exact ⟨⟨brByte, crByte, shapeByte⟩, rate, coding, shape⟩
  · rintro ⟨⟨brByte, crByte, shapeByte⟩, rate, coding, shape⟩
    have code := (rate_iff brBw).mp ⟨brByte, rate⟩
    exact ⟨(bitrate_nonneg_iff brBw).1.mpr code, (bandwidth_nonneg_iff brBw).1.mpr code,
      (coding_iff cr).mpr ⟨crByte, coding⟩, (shape_iff shaping).mpr ⟨shapeByte, shape⟩⟩

/-- The fields of an accepted triple: a rate code, and two nibbles. -/
theorem bounds {brBw cr shaping : Int32} (accepted : FlrcAccepted brBw cr shaping) :
    (0 ≤ brBw.toInt ∧ brBw.toInt < 8) ∧ (0 ≤ cr.toInt ∧ cr.toInt < 4) ∧
      (0 ≤ shaping.toInt ∧ shaping.toInt < 16) := by
  obtain ⟨⟨brByte, crByte, shapeByte⟩, rate, coding, shape⟩ :=
    (iff_bytes brBw cr shaping).mp accepted
  have nibble : (asU8 shaping).toNat < 16 := by
    rcases (mem_shapes_iff _).mp shape with same | same | same | same <;> rw [same] <;> decide
  have high := toNat_asU8_of_byte brByte
  have middle := toNat_asU8_of_byte crByte
  have bottom := toNat_asU8_of_byte shapeByte
  omega

end FlrcAccepted

/-- What a packed word holds: the three fields, and nothing above them. -/
structure FlrcFields (packed brBw cr shaping : Int32) : Prop where
  above : packed.toInt / 65536 = 0
  rate : packed.toInt / 256 % 256 = brBw.toInt
  coding : packed.toInt % 256 / 16 = cr.toInt
  shape : packed.toInt % 16 = shaping.toInt

/-- A word has one reading. -/
theorem FlrcFields.unique {packed brBw cr shaping brBw' cr' shaping' : Int32}
    (fields : FlrcFields packed brBw cr shaping)
    (fields' : FlrcFields packed brBw' cr' shaping') :
    brBw = brBw' ∧ cr = cr' ∧ shaping = shaping' :=
  ⟨Int32.toInt_inj.mp (fields.rate.symm.trans fields'.rate),
    Int32.toInt_inj.mp (fields.coding.symm.trans fields'.coding),
    Int32.toInt_inj.mp (fields.shape.symm.trans fields'.shape)⟩

/-- The lower byte of a packed word: two nibbles side by side. -/
theorem toNat_codeByte {cr shaping : UInt8} (coding : cr.toNat < 4) (shape : shaping.toNat < 16) :
    ((cr <<< 4) ||| (shaping &&& 0x0F)).toNat = cr.toNat * 16 + shaping.toNat := by
  have masked : shaping &&& 0x0F = shaping := by
    apply (and_lowMask shaping 4 (by decide)).trans
    exact UInt8.toNat_inj.mp (Nat.mod_eq_of_lt shape)
  have packed : ((cr <<< 4) ||| shaping).toNat = cr.toNat % 16 * 16 + shaping.toNat :=
    toNat_pack cr shaping 4 (by decide) shape
  rw [masked, packed]
  omega

/-- A triple that is accepted is packed as its codes, the two lower in a byte of their own. -/
theorem toInt_flrcModulationParams {brBw cr shaping : Int32}
    (accepted : FlrcAccepted brBw cr shaping) :
    (Ffi.lr2021FlrcModulationParams brBw cr shaping).toInt =
      brBw.toInt * 256 + (cr.toInt * 16 + shaping.toInt) := by
  obtain ⟨⟨brByte, crByte, shapeByte⟩, rate, coding, shape⟩ :=
    (FlrcAccepted.iff_bytes brBw cr shaping).mp accepted
  have bounds := accepted.bounds
  have high := toNat_asU8_of_byte brByte
  have middle := toNat_asU8_of_byte crByte
  have bottom := toNat_asU8_of_byte shapeByte
  have low := toNat_codeByte coding (show (asU8 shaping).toNat < 16 by omega)
  rw [Ffi.lr2021FlrcModulationParams, if_neg (by simp only [brByte, crByte, shapeByte]; decide),
    modulationParams_ok rate coding shape]
  change ((ofU8 (asU8 brBw) <<< 8) |||
    ofU8 ((asU8 cr <<< 4) ||| (asU8 shaping &&& 0x0F))).toInt = _
  rw [Calculation.toInt_pair, low]
  omega

/-- All other triples come back with one code. -/
theorem flrcModulationParams_refused {brBw cr shaping : Int32}
    (refused : ¬FlrcAccepted brBw cr shaping) :
    Ffi.lr2021FlrcModulationParams brBw cr shaping = errParam := by
  rw [FlrcAccepted.iff_bytes] at refused
  unfold Ffi.lr2021FlrcModulationParams
  split
  · rfl
  · rename_i inside
    simp only [not_or, Decidable.not_not] at inside
    rw [modulationParams_error fun codes => refused ⟨inside, codes⟩]

/-- An accepted triple is what its word holds. -/
theorem flrcFields_of_accepted {brBw cr shaping : Int32}
    (accepted : FlrcAccepted brBw cr shaping) :
    FlrcFields (Ffi.lr2021FlrcModulationParams brBw cr shaping) brBw cr shaping := by
  have value := toInt_flrcModulationParams accepted
  have bounds := accepted.bounds
  constructor <;> omega

theorem flrcModulationParams_nonneg_iff (brBw cr shaping : Int32) :
    0 ≤ Ffi.lr2021FlrcModulationParams brBw cr shaping ↔ FlrcAccepted brBw cr shaping := by
  constructor
  · intro nonneg
    apply Classical.byContradiction
    intro refused
    rw [flrcModulationParams_refused refused] at nonneg
    exact absurd nonneg (by decide)
  · intro accepted
    have bounds := accepted.bounds
    rw [Int32.le_iff_toInt_le, toInt_flrcModulationParams accepted]
    change 0 ≤ _
    omega

/-- The packing validates exactly the triples of codes, its result gives them back, and
everything else, in the lookups too, is the one error. -/
theorem flrc_packing_exact (brBw cr shaping : Int32) :
    (0 ≤ Ffi.lr2021FlrcModulationParams brBw cr shaping ↔ FlrcAccepted brBw cr shaping) ∧
    (FlrcAccepted brBw cr shaping →
      FlrcFields (Ffi.lr2021FlrcModulationParams brBw cr shaping) brBw cr shaping) ∧
    (∀ brBw' cr' shaping', FlrcAccepted brBw cr shaping → FlrcAccepted brBw' cr' shaping' →
      Ffi.lr2021FlrcModulationParams brBw cr shaping =
        Ffi.lr2021FlrcModulationParams brBw' cr' shaping' →
          brBw = brBw' ∧ cr = cr' ∧ shaping = shaping') ∧
    (¬FlrcAccepted brBw cr shaping →
      Ffi.lr2021FlrcModulationParams brBw cr shaping = errParam) ∧
    (¬(0 ≤ brBw ∧ brBw ≤ 7) → Ffi.lr2021FlrcBitrateKbps brBw = errParam ∧
      Ffi.lr2021FlrcBandwidthKhz brBw = errParam) := by
  refine ⟨flrcModulationParams_nonneg_iff brBw cr shaping, flrcFields_of_accepted, ?_,
    flrcModulationParams_refused, ?_⟩
  · intro brBw' cr' shaping' accepted accepted' same
    have fields := flrcFields_of_accepted accepted
    rw [same] at fields
    exact fields.unique (flrcFields_of_accepted accepted')
  · intro noCode
    obtain ⟨bitrate, bitrateCode⟩ := FlrcAccepted.bitrate_nonneg_iff brBw
    obtain ⟨bandwidth, bandwidthCode⟩ := FlrcAccepted.bandwidth_nonneg_iff brBw
    constructor
    · exact bitrateCode fun known => noCode (bitrate.mp known)
    · exact bandwidthCode fun known => noCode (bandwidth.mp known)

/-- The codes 2, 1 and 5 are packed, and 258 is not taken for 2. -/
theorem flrc_packing_exact_alias :
    0 ≤ Ffi.lr2021FlrcModulationParams 2 1 5 ∧
      Ffi.lr2021FlrcModulationParams 258 1 5 = errParam := by
  obtain ⟨accepts, -⟩ := flrc_packing_exact 2 1 5
  obtain ⟨-, -, -, refuses, -⟩ := flrc_packing_exact 258 1 5
  refine ⟨accepts.mpr ⟨by decide, by decide, ⟨1, rfl, rfl⟩, by decide⟩, refuses ?_⟩
  intro accepted
  exact absurd accepted.bitrate (by decide)

end Lr2021
