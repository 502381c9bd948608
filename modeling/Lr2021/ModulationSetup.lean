import Lr2021.ArgumentTruncation
import Lr2021.Refusal

set_option autoImplicit false

/-! Setting up a LoRa modulation through the C ABI, from the arguments to the frame. -/
namespace Lr2021

open Cmd FixedWidth TraceLogic

/-- The bandwidths that only the 2.4 GHz path has. -/
def highBandWidths : List UInt8 :=
  [loraBw41, loraBw83, loraBw101, loraBw203, loraBw406, loraBw812]

/-- The arguments that the chip can encode. -/
structure Encodable (sf bw cr highBand : Int32) : Prop where
  factor : 5 ≤ sf ∧ sf ≤ 12
  width : 0 < Ffi.lr2021LoraBwHz bw
  rate : 1 ≤ cr ∧ cr ≤ 9
  band : bw ∈ highBandWidths.map ofU8 → highBand ≠ 0

namespace Encodable

/-- A byte that lies between two bounds, as a signed word and as a byte. -/
theorem byte_between {x : Int32} (byte : 0 ≤ x ∧ x ≤ 0xFF) (low high : UInt8) :
    ofU8 low ≤ x ∧ x ≤ ofU8 high ↔ low ≤ asU8 x ∧ asU8 x ≤ high := by
  have value := toNat_asU8_of_byte byte
  rw [Int32.le_iff_toInt_le, Int32.le_iff_toInt_le, toInt_ofU8, toInt_ofU8,
    UInt8.le_iff_toNat_le, UInt8.le_iff_toNat_le]
  omega

theorem bwHz_pos_iff (bw : Int32) :
    0 < Ffi.lr2021LoraBwHz bw ↔ (0 ≤ bw ∧ bw ≤ 0xFF) ∧ (loraBwHz (asU8 bw)).isSome = true := by
  rw [Ffi.lr2021LoraBwHz]
  split
  · rename_i outside
    exact iff_of_false (by decide) fun known => outside known.1
  · rename_i inside
    rw [and_iff_right (Decidable.not_not.mp inside)]
    cases known : loraBwHz (asU8 bw) with
    | none => decide
    | some hz =>
      have bounds := Lora.loraBwHz_bounds known
      refine iff_of_true ?_ rfl
      rw [Int32.lt_iff_toInt_lt, toInt_toInt32_of_lt hz (by omega)]
      change (0 : Int) < hz.toNat
      omega

theorem needsHighBand_iff {bw : Int32} (byte : 0 ≤ bw ∧ bw ≤ 0xFF) :
    bwNeedsHighBand (asU8 bw) = true ↔ bw ∈ highBandWidths.map ofU8 := by
  have listed (width : UInt8) : bwNeedsHighBand width = true ↔ width ∈ highBandWidths := by
    unfold bwNeedsHighBand
    split <;> simp_all [highBandWidths, loraBw41, loraBw83, loraBw101, loraBw203, loraBw406,
      loraBw812]
  have coded := exists_ofU8_iff (· ∈ highBandWidths) bw
  rw [and_iff_right byte] at coded
  rw [listed, ← coded, List.mem_map]
  simp only [eq_comm, and_comm]

theorem byte_of_between {x low high : Int32} (inside : low ≤ x ∧ x ≤ high) (lower : 0 ≤ low)
    (upper : high ≤ 0xFF) : 0 ≤ x ∧ x ≤ 0xFF :=
  ⟨Int32.le_trans lower inside.1, Int32.le_trans inside.2 upper⟩

theorem rate_iff (cr : UInt8) : cr ≠ 0 ∧ cr ≤ loraCrMax ↔ 1 ≤ cr ∧ cr ≤ 9 := by
  have positive : cr ≠ 0 ↔ 1 ≤ cr := by
    rw [Ne, ← UInt8.toNat_inj, UInt8.le_iff_toNat_le]
    change ¬cr.toNat = 0 ↔ 1 ≤ cr.toNat
    omega
  rw [positive]
  rfl

/-- The arguments that pass every check are the encodable ones. -/
theorem accepted_iff (sf bw cr ldro highBand : Int32) :
    ConfigEntry.loraSetModulationParams.accepted (sf, bw, cr, ldro, highBand) ↔
      Encodable sf bw cr highBand := by
  have flag : (highBand != 0) = true ↔ highBand ≠ 0 := bne_iff_ne
  change (0 ≤ sf ∧ sf ≤ 0xFF) ∧ (0 ≤ bw ∧ bw ≤ 0xFF) ∧ (0 ≤ cr ∧ cr ≤ 0xFF) ∧ _ ↔ _
  rw [Lora.validate_isOk_iff, flag, rate_iff]
  constructor
  · rintro ⟨sfByte, bwByte, crByte, factor, width, band, rate⟩
    rw [needsHighBand_iff bwByte] at band
    exact ⟨(byte_between sfByte 5 12).mpr factor, (bwHz_pos_iff bw).mpr ⟨bwByte, width⟩,
      (byte_between crByte 1 9).mpr rate, band⟩
  · rintro ⟨factor, width, rate, band⟩
    have sfByte := byte_of_between factor (by decide) (by decide)
    have crByte := byte_of_between rate (by decide) (by decide)
    obtain ⟨bwByte, known⟩ := (bwHz_pos_iff bw).mp width
    rw [← needsHighBand_iff bwByte] at band
    exact ⟨sfByte, bwByte, crByte, (byte_between sfByte 5 12).mp factor, known, band,
      (byte_between crByte 1 9).mp rate⟩

end Encodable

/-- The fields of the two parameter bytes, as the arguments they were packed from. -/
def Encodes (bytes : List UInt8) (sf bw cr : Int32) : Prop :=
  ∃ rate coding, bytes = frame cmdSetLoraModulationParams [rate, coding] ∧
    ((rate >>> 4).toNat : Int) = sf.toInt ∧ ((rate &&& 0x0F).toNat : Int) = bw.toInt ∧
    ((coding >>> 4).toNat : Int) = cr.toInt

theorem Encodes.unique {bytes : List UInt8} {sf bw cr sf' bw' cr' : Int32}
    (encodes : Encodes bytes sf bw cr) (encodes' : Encodes bytes sf' bw' cr') :
    sf = sf' ∧ bw = bw' ∧ cr = cr' := by
  obtain ⟨rate, coding, framed, factor, width, codingRate⟩ := encodes
  obtain ⟨rate', coding', framed', factor', width', codingRate'⟩ := encodes'
  have same := (CoreCall.frame_injective (framed.symm.trans framed')).2
  simp only [List.cons.injEq, and_true] at same
  obtain ⟨rfl, rfl⟩ := same
  exact ⟨Int32.toInt_inj.mp (factor.symm.trans factor'),
    Int32.toInt_inj.mp (width.symm.trans width'),
    Int32.toInt_inj.mp (codingRate.symm.trans codingRate')⟩

namespace ModulationSetup

/-- The entry point with its arguments. -/
def call (sf bw cr ldro highBand : Int32) : AbiCommand :=
  .loraSetModulationParams sf bw cr ldro highBand

variable {sf bw cr highBand : Int32}

theorem plan_encodes (ldro : Int32) (encodable : Encodable sf bw cr highBand) :
    ∃ script, (call sf bw cr ldro highBand).plan = .ok script ∧
      ∃ bytes, script.frames = [bytes] ∧ Encodes bytes sf bw cr := by
  have accepts := (Encodable.accepted_iff sf bw cr ldro highBand).mpr encodable
  obtain ⟨script, planned⟩ := (ConfigEntry.accepted_iff _ _).mp accepts
  refine ⟨script, planned, ?_⟩
  obtain ⟨sfByte, bwByte, crByte, -⟩ := accepts
  change (if _ then _ else _) = _ at planned
  split at planned
  · cases planned
  · obtain ⟨admitted, calls⟩ := Script.checked_ok planned
    obtain ⟨sfFits, bwFits, crFits⟩ := CoreCall.modulation_fits admitted
    obtain ⟨factor, width⟩ := CoreCall.nibblePair (asU8 sf) (asU8 bw)
    obtain ⟨rate, -⟩ := CoreCall.nibblePair (asU8 cr) (asU8 ldro)
    rw [CoreCall.mod_eq_self sfFits] at factor
    rw [CoreCall.mod_eq_self bwFits] at width
    rw [CoreCall.mod_eq_self crFits] at rate
    refine ⟨_, congrArg _ calls, ⟨_, _, rfl, ?_, ?_, ?_⟩⟩
    · rw [factor, toNat_asU8_of_byte sfByte]
    · rw [width, toNat_asU8_of_byte bwByte]
    · rw [rate, toNat_asU8_of_byte crByte]

theorem plan_refused (ldro : Int32) (unencodable : ¬Encodable sf bw cr highBand) :
    ∃ e, (call sf bw cr ldro highBand).plan = .error e := by
  cases planned : (call sf bw cr ldro highBand).plan with
  | error e => exact ⟨e, rfl⟩
  | ok script =>
    have accepts := (ConfigEntry.accepted_iff .loraSetModulationParams
      (sf, bw, cr, ldro, highBand)).mpr ⟨script, planned⟩
    exact absurd ((Encodable.accepted_iff ..).mp accepts) unencodable

section Bus

variable {σ : Type} {hal : Hal (StateM σ)} {trace : σ → List Ev}

/-- Encodable arguments go out as one frame, which gives them back. -/
theorem sends (obs : Observes hal trace) (never : NeverFails hal) (ldro : Int32) (s : σ)
    (encodable : Encodable sf bw cr highBand) :
    ((call sf bw cr ldro highBand).run (some hal) s).1 = Hal.ok ∧
      ∃ bytes, commands (emitted trace ((call sf bw cr ldro highBand).run (some hal)) s) = [bytes] ∧
        Encodes bytes sf bw cr := by
  obtain ⟨script, planned, bytes, frames, encodes⟩ := plan_encodes ldro encodable
  obtain ⟨returned, session⟩ := AbiCommand.run_of_neverFails obs never _ script planned s
  exact ⟨returned, bytes, session.commands_eq.trans frames, encodes⟩

/-- Arguments that cannot be encoded come back from any host with an error, and the host is
not asked for anything. -/
theorem refuses (ldro : Int32) (unencodable : ¬Encodable sf bw cr highBand) :
    ∃ e < 0, ∀ {m : Type → Type} [Monad m] [LawfulMonad m] (hal : Hal m),
      (call sf bw cr ldro highBand).run (some hal) = pure e := by
  obtain ⟨e, planned⟩ := plan_refused ldro unencodable
  have negative : e < 0 := by
    rcases AbiCommand.plan_error planned with rfl | rfl <;> decide
  refine ⟨e, negative, ?_⟩
  intro m _ _ hal
  rw [AbiCommand.run_eq, planned]
  rfl

/-- The bus sees a frame only of arguments that can be encoded. -/
theorem encodable_of_sent {ldro : Int32} {s : σ}
    (something : commands (emitted trace ((call sf bw cr ldro highBand).run (some hal)) s) ≠ []) :
    Encodable sf bw cr highBand := by
  apply Classical.byContradiction
  intro unencodable
  obtain ⟨e, planned⟩ := plan_refused ldro unencodable
  exact something (AbiCommand.commands_of_error _ planned s)

theorem sent_iff (obs : Observes hal trace) (never : NeverFails hal) (ldro : Int32) (s : σ) :
    commands (emitted trace ((call sf bw cr ldro highBand).run (some hal)) s) ≠ [] ↔
      Encodable sf bw cr highBand := by
  constructor
  · exact encodable_of_sent
  · intro encodable nothing
    obtain ⟨-, bytes, single, -⟩ := sends obs never ldro s encodable
    rw [nothing] at single
    exact List.cons_ne_nil bytes [] single.symm

/-- Two modulations that were sent as one frame are the same. -/
theorem sent_unique {sf' bw' cr' highBand' : Int32} (obs : Observes hal trace)
    (never : NeverFails hal) {ldro ldro' : Int32} {s s' : σ}
    (something : commands (emitted trace ((call sf bw cr ldro highBand).run (some hal)) s) ≠ [])
    (same : commands (emitted trace ((call sf bw cr ldro highBand).run (some hal)) s) =
      commands (emitted trace ((call sf' bw' cr' ldro' highBand').run (some hal)) s')) :
    sf = sf' ∧ bw = bw' ∧ cr = cr' := by
  have encodable := encodable_of_sent something
  have encodable' := encodable_of_sent (same ▸ something)
  obtain ⟨-, bytes, single, encodes⟩ := sends obs never ldro s encodable
  obtain ⟨-, bytes', single', encodes'⟩ := sends obs never ldro' s' encodable'
  have sameBytes : [bytes] = [bytes'] := single.symm.trans (same.trans single')
  rw [List.cons.injEq] at sameBytes
  rw [sameBytes.1] at encodes
  exact encodes.unique encodes'

end Bus
end ModulationSetup

/-- A modulation is sent exactly when it can be encoded, as one frame that gives it back;
otherwise the call fails on every host without a callback; and two modulations that are
sent share no frame. -/
theorem lora_modulation_faithful {σ : Type} {hal : Hal (StateM σ)} {trace : σ → List Ev}
    (obs : Observes hal trace) (never : NeverFails hal) (sf bw cr ldro highBand : Int32) (s : σ) :
    let sent := commands
      (emitted trace (Ffi.lr2021LoraSetModulationParams (some hal) sf bw cr ldro highBand) s)
    (sent ≠ [] ↔ Encodable sf bw cr highBand) ∧
    (Encodable sf bw cr highBand →
      (Ffi.lr2021LoraSetModulationParams (some hal) sf bw cr ldro highBand s).1 = Hal.ok ∧
        ∃ bytes, sent = [bytes] ∧ Encodes bytes sf bw cr) ∧
    (¬Encodable sf bw cr highBand →
      ∃ e < 0, ∀ {m : Type → Type} [Monad m] [LawfulMonad m] (hal : Hal m),
        Ffi.lr2021LoraSetModulationParams (some hal) sf bw cr ldro highBand = pure e) ∧
    ∀ (sf' bw' cr' ldro' highBand' : Int32) (s' : σ), sent ≠ [] →
      sent = commands (emitted trace
        (Ffi.lr2021LoraSetModulationParams (some hal) sf' bw' cr' ldro' highBand') s') →
      sf = sf' ∧ bw = bw' ∧ cr = cr' := by
  intro sent
  refine ⟨ModulationSetup.sent_iff obs never ldro s, ModulationSetup.sends obs never ldro s,
    ModulationSetup.refuses ldro, ?_⟩
  intro sf' bw' cr' ldro' highBand' s' something same
  exact ModulationSetup.sent_unique obs never something same

/-- On the rig: SF7 at 812 kHz goes out for the 2.4 GHz path, and not for the other. -/
theorem lora_modulation_faithful_rig :
    commands (emitted Mock.log
        (Ffi.lr2021LoraSetModulationParams (some Mock.hal) 7 0x0F 1 0 1) (Mock.fresh [])) ≠ [] ∧
      ∃ e < 0, Ffi.lr2021LoraSetModulationParams (some Mock.hal) 7 0x0F 1 0 0 = pure e := by
  constructor
  · apply (lora_modulation_faithful Mock.observes Mock.neverFails 7 0x0F 1 0 1 _).1.mpr
    exact ⟨by decide, by decide, by decide, by decide⟩
  · obtain ⟨-, -, refuses, -⟩ :=
      lora_modulation_faithful Mock.observes Mock.neverFails 7 0x0F 1 0 0 (Mock.fresh [])
    obtain ⟨e, negative, quiet⟩ := refuses fun encodable =>
      absurd (encodable.band (by decide)) (by decide)
    exact ⟨e, negative, quiet Mock.hal⟩

end Lr2021
