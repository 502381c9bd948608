import Lr2021.AbiCommand
import Lr2021.CommandCodec
import Lr2021.Rig

set_option autoImplicit false

/-! Which argument tuples the configuration entry points tell apart. The module comment
of `ffi.rs` gives the wide parameters the purpose that a range check can fail loudly
where a narrow one would truncate. -/
namespace Lr2021

open Cmd FixedWidth TraceLogic

/-- The entry points that narrow their arguments to fields of at most 16 bits. -/
inductive ConfigEntry where
  | setStandby
  | calibrate
  | setSleep
  | setDioFunction
  | setDioRfSwitchConfig
  | setRfSwitch
  | setPacketType
  | setRxPath
  | setPowerDbm
  | setDioIrqConfig
  | loraSetModulationParams
  | loraSetPacketParams
  | loraSetSyncWord
  | loraSetSynchTimeout
  | loraSetCadParams
  deriving DecidableEq, Repr

namespace ConfigEntry

/-- The argument tuple of an entry point. The shim passes `crc` and `invertIq` of the
packet parameters as truth values. -/
abbrev Args : ConfigEntry → Type
  | setStandby | calibrate | setPacketType | loraSetSyncWord => Int32
  | setSleep | setDioFunction | setDioRfSwitchConfig | setRxPath | setPowerDbm
  | setDioIrqConfig | loraSetSynchTimeout => Int32 × Int32
  | setRfSwitch => Int32 × Int32 × Int32 × Int32
  | loraSetModulationParams => Int32 × Int32 × Int32 × Int32 × Int32
  | loraSetPacketParams => Int32 × Int32 × Int32 × Bool × Bool
  | loraSetCadParams => Int32 × Int32 × Int32 × Int32 × Int32 × Int32

def command : (entry : ConfigEntry) → entry.Args → AbiCommand
  | setStandby, mode => .setStandby mode
  | calibrate, blocks => .calibrate blocks
  | setSleep, (config, wakeupTicks) => .setSleep config wakeupTicks
  | setDioFunction, (dio, function) => .setDioFunction dio function
  | setDioRfSwitchConfig, (dio, modes) => .setDioRfSwitchConfig dio modes
  | setRfSwitch, (txDio, txPull, rxDio, rxPull) => .setRfSwitch txDio txPull rxDio rxPull
  | setPacketType, packetType => .setPacketType packetType
  | setRxPath, (path, boost) => .setRxPath path boost
  | setPowerDbm, (dbm, ramp) => .setPowerDbm dbm ramp
  | setDioIrqConfig, (dio, irq) => .setDioIrqConfig dio irq
  | loraSetModulationParams, (sf, bw, cr, ldro, highBand) =>
      .loraSetModulationParams sf bw cr ldro highBand
  | loraSetPacketParams, (preambleLen, headerType, payloadLen, crc, invertIq) =>
      .loraSetPacketParams preambleLen headerType payloadLen (ofBool crc) (ofBool invertIq)
  | loraSetSyncWord, syncWord => .loraSetSyncWord syncWord
  | loraSetSynchTimeout, (symbols, mantExp) => .loraSetSynchTimeout symbols mantExp
  | loraSetCadParams, (symNum, preambleOnly, pnrDelta, exitMode, timeout, detPeak) =>
      .loraSetCadParams symNum preambleOnly pnrDelta exitMode timeout detPeak

/-- The arguments as they are to be told apart: not the ticks of a sleep, nor the band a
modulation is for, and flags as the truth values they stand for. -/
def compared : (entry : ConfigEntry) → entry.Args → List Int32
  | setStandby, mode => [mode]
  | calibrate, blocks => [blocks]
  | setSleep, (config, _) => [config]
  | setDioFunction, (dio, function) => [dio, function]
  | setDioRfSwitchConfig, (dio, modes) => [dio, modes]
  | setRfSwitch, (txDio, txPull, rxDio, rxPull) => [txDio, txPull, rxDio, rxPull]
  | setPacketType, packetType => [packetType]
  | setRxPath, (path, boost) => [path, boost]
  | setPowerDbm, (dbm, ramp) => [dbm, ramp]
  | setDioIrqConfig, (dio, irq) => [dio, irq]
  | loraSetModulationParams, (sf, bw, cr, ldro, _) => [sf, bw, cr, ldro]
  | loraSetPacketParams, (preambleLen, headerType, payloadLen, crc, invertIq) =>
      [preambleLen, headerType, payloadLen, ofBool crc, ofBool invertIq]
  | loraSetSyncWord, syncWord => [syncWord]
  | loraSetSynchTimeout, (symbols, mantExp) => [symbols, ofBool (mantExp != 0)]
  | loraSetCadParams, (symNum, preambleOnly, pnrDelta, exitMode, timeout, detPeak) =>
      [symNum, ofBool (preambleOnly != 0), pnrDelta, exitMode, timeout, detPeak]

/-- The arguments as far as the entry point keeps them: how many low bits of each. The
sleep pulls of an RF switch lose one more bit, to the function code they are joined
with. -/
def residues : (entry : ConfigEntry) → entry.Args → List Nat
  | setStandby, mode => [residue 8 mode]
  | calibrate, blocks => [residue 8 blocks]
  | setSleep, (config, wakeupTicks) => [residue 8 config, residue 24 wakeupTicks]
  | setDioFunction, (dio, function) => [residue 8 dio, residue 8 function]
  | setDioRfSwitchConfig, (dio, modes) => [residue 8 dio, residue 8 modes]
  | setRfSwitch, (txDio, txPull, rxDio, rxPull) =>
      [residue 8 txDio, 0x20 ||| residue 8 txPull, residue 8 rxDio, 0x20 ||| residue 8 rxPull]
  | setPacketType, packetType => [residue 8 packetType]
  | setRxPath, (path, boost) => [residue 1 path, residue 3 boost]
  | setPowerDbm, (dbm, ramp) => [residue 32 dbm, residue 8 ramp]
  | setDioIrqConfig, (dio, irq) => [residue 8 dio, residue 32 irq]
  | loraSetModulationParams, (sf, bw, cr, ldro, _) =>
      [residue 8 sf, residue 8 bw, residue 8 cr, residue 4 ldro]
  | loraSetPacketParams, (preambleLen, headerType, payloadLen, crc, invertIq) =>
      [residue 16 preambleLen, residue 1 headerType, residue 8 payloadLen, crc.toNat,
        invertIq.toNat]
  | loraSetSyncWord, syncWord => [residue 8 syncWord]
  | loraSetSynchTimeout, (symbols, mantExp) => [residue 8 symbols, (mantExp != 0).toNat]
  | loraSetCadParams, (symNum, preambleOnly, pnrDelta, exitMode, timeout, detPeak) =>
      [residue 8 symNum, (preambleOnly != 0).toNat, residue 4 pnrDelta, residue 8 exitMode,
        residue 32 timeout, residue 7 detPeak]

/-- The argument tuples that pass every range check there is. -/
def accepted : (entry : ConfigEntry) → entry.Args → Prop
  | setPowerDbm, (dbm, _) => -9 ≤ dbm ∧ dbm ≤ 22
  | loraSetModulationParams, (sf, bw, cr, _, highBand) =>
      (0 ≤ sf ∧ sf ≤ 0xFF) ∧ (0 ≤ bw ∧ bw ≤ 0xFF) ∧ (0 ≤ cr ∧ cr ≤ 0xFF) ∧
        (Lora.validate (asU8 sf) (asU8 bw) (asU8 cr) (highBand != 0)).isOk = true
  | loraSetPacketParams, (preambleLen, _, payloadLen, _, _) =>
      (0 ≤ preambleLen ∧ preambleLen ≤ 0xFFFF) ∧ (0 ≤ payloadLen ∧ payloadLen ≤ 0xFF)
  | loraSetCadParams, (_, _, _, _, timeout, _) => 0 ≤ timeout ∧ timeout ≤ 0xFFFFFF
  | _, _ => True

/- Equality of what is sent, as equality of residues. -/

private theorem byte_eq_iff (x y : Int32) : asU8 x = asU8 y ↔ residue 8 x = residue 8 y := by
  rw [← UInt8.toNat_inj, toNat_asU8_eq_residue, toNat_asU8_eq_residue]

private theorem half_eq_iff (x y : Int32) :
    asU16 x = asU16 y ↔ residue 16 x = residue 16 y := by
  rw [← UInt16.toNat_inj, toNat_asU16_eq_residue, toNat_asU16_eq_residue]

private theorem word_eq_iff (x y : Int32) :
    x.toUInt32 = y.toUInt32 ↔ residue 32 x = residue 32 y := by
  rw [← UInt32.toNat_inj, toNat_toUInt32_eq_residue, toNat_toUInt32_eq_residue]

private theorem ticks_eq_iff (x y : Int32) :
    x.toUInt32 % 0x1000000 = y.toUInt32 % 0x1000000 ↔ residue 24 x = residue 24 y := by
  rw [← UInt32.toNat_inj]
  rfl

private theorem field_eq_iff (x y : Int32) (width : Nat) (fits : width < 8) :
    asU8 x % UInt8.ofNat (2 ^ width) = asU8 y % UInt8.ofNat (2 ^ width) ↔
      residue width x = residue width y := by
  have bound : 2 ^ width < 2 ^ 8 := Nat.pow_lt_pow_right (by decide) fits
  rw [← UInt8.toNat_inj, UInt8.toNat_mod, UInt8.toNat_mod, UInt8.toNat_ofNat',
    Nat.mod_eq_of_lt bound, toNat_asU8_eq_residue, toNat_asU8_eq_residue,
    residue_mod x (Nat.le_of_lt fits), residue_mod y (Nat.le_of_lt fits)]

private theorem pull_eq_iff (x y : Int32) :
    dioFunctionRfSwitch ||| asU8 x = dioFunctionRfSwitch ||| asU8 y ↔
      0x20 ||| residue 8 x = 0x20 ||| residue 8 y := by
  rw [← UInt8.toNat_inj, UInt8.toNat_or, UInt8.toNat_or, toNat_asU8_eq_residue,
    toNat_asU8_eq_residue]
  rfl

private theorem flag_eq_iff (p q : Bool) : p = q ↔ p.toNat = q.toNat := by
  cases p <;> cases q <;> decide

private theorem bit_eq_iff (x y : Int32) : asU8 x % 2 = asU8 y % 2 ↔ residue 1 x = residue 1 y :=
  field_eq_iff x y 1 (by decide)

private theorem nibble_eq_iff (x y : Int32) :
    asU8 x % 16 = asU8 y % 16 ↔ residue 4 x = residue 4 y :=
  field_eq_iff x y 4 (by decide)

private theorem ofBool_flag (b : Bool) : asU8 (ofBool b) % 2 = b.toUInt8 := by
  cases b <;> rfl

private theorem toUInt8_eq_iff (p q : Bool) : p.toUInt8 = q.toUInt8 ↔ p.toNat = q.toNat := by
  cases p <;> cases q <;> decide

/-- A power that fits eight bits is the same word in them. -/
theorem toInt_toInt8 {dbm : Int32} (fits : -128 ≤ dbm ∧ dbm ≤ 127) :
    dbm.toInt8.toInt = dbm.toInt := by
  have lower : (-128 : Int) ≤ dbm.toInt := Int32.le_iff_toInt_le.mp fits.1
  have upper : dbm.toInt ≤ 127 := Int32.le_iff_toInt_le.mp fits.2
  rw [Int32.toInt_toInt8, Int.bmod_def]
  omega

open CoreCall in
/-- The three commands of a power determine it: no two rows agree in all they set. -/
theorem powerCalls_eq_iff (dbm dbm' : Int8) (ramp ramp' : UInt8)
    (admitted : Radio.lfPowerMin ≤ dbm ∧ dbm ≤ Radio.lfPowerMax)
    (admitted' : Radio.lfPowerMin ≤ dbm' ∧ dbm' ≤ Radio.lfPowerMax) :
    (Script.powerCalls dbm ramp admitted).map transmitted =
        (Script.powerCalls dbm' ramp' admitted').map transmitted ↔
      dbm = dbm' ∧ ramp = ramp' := by
  constructor
  · intro same
    simp only [Script.powerCalls, List.map_cons, List.map_nil, transmitted, masked,
      List.cons.injEq, and_true, true_and, setPaConfig.injEq, setTxParams.injEq,
      (Radio.paLfTable_fits _).1, (Radio.paLfTable_fits _).2] at same
    obtain ⟨⟨duty, slices⟩, val, sameRamp⟩ := same
    have row := Radio.PaEntry.ext duty slices val
    exact ⟨Radio.dbm_of_row admitted admitted' row, sameRamp⟩
  · rintro ⟨rfl, rfl⟩
    rfl

open CoreCall in
/-- What two plans of one entry point transmit is the same exactly when the residues of
their arguments are. -/
theorem transmitted_eq_iff (entry : ConfigEntry) (a b : entry.Args) (script script' : Script)
    (planned : (entry.command a).plan = .ok script)
    (planned' : (entry.command b).plan = .ok script') :
    script.calls.map transmitted = script'.calls.map transmitted ↔
      entry.residues a = entry.residues b := by
  cases entry with
  | setStandby | calibrate | setPacketType | loraSetSyncWord =>
    cases planned
    cases planned'
    simp only [Script.single, List.map_cons, List.map_nil, transmitted, masked, residues,
      List.cons.injEq, and_true, setStandby.injEq, calibrate.injEq, setPacketType.injEq,
      setSyncWord.injEq, byte_eq_iff]
  | setDioFunction | setDioRfSwitchConfig =>
    cases planned
    cases planned'
    simp only [Script.single, List.map_cons, List.map_nil, transmitted, masked, residues,
      List.cons.injEq, and_true, setDioFunction.injEq, setDioRfSwitchConfig.injEq, byte_eq_iff]
  | setSleep =>
    cases planned
    cases planned'
    simp only [Script.single, List.map_cons, List.map_nil, transmitted, masked, residues,
      List.cons.injEq, and_true, setSleep.injEq, byte_eq_iff, ticks_eq_iff]
  | setRfSwitch =>
    cases planned
    cases planned'
    simp only [Script.rfSwitch, List.map_cons, List.map_nil, transmitted, masked, residues,
      List.cons.injEq, and_true, setDioFunction.injEq, setDioRfSwitchConfig.injEq, byte_eq_iff,
      pull_eq_iff]
    constructor
    · rintro ⟨⟨txDio, txPull⟩, -, ⟨rxDio, rxPull⟩, -⟩
      exact ⟨txDio, txPull, rxDio, rxPull⟩
    · rintro ⟨txDio, txPull, rxDio, rxPull⟩
      exact ⟨⟨txDio, txPull⟩, txDio, ⟨rxDio, rxPull⟩, rxDio⟩
  | setRxPath =>
    cases planned
    cases planned'
    have boost (x y : Int32) : asU8 x % 8 = asU8 y % 8 ↔ residue 3 x = residue 3 y :=
      field_eq_iff x y 3 (by decide)
    simp only [Script.single, List.map_cons, List.map_nil, transmitted, masked, residues,
      List.cons.injEq, and_true, setRxPath.injEq, bit_eq_iff, boost]
  | setDioIrqConfig =>
    cases planned
    cases planned'
    simp only [Script.single, List.map_cons, List.map_nil, transmitted, masked, residues,
      List.cons.injEq, and_true, setDioIrqConfig.injEq, byte_eq_iff, word_eq_iff]
  | loraSetSynchTimeout =>
    cases planned
    cases planned'
    simp only [Script.single, List.map_cons, List.map_nil, transmitted, masked, residues,
      List.cons.injEq, and_true, setSynchTimeout.injEq, byte_eq_iff, flag_eq_iff]
  | setPowerDbm =>
    obtain ⟨dbm, ramp⟩ := a
    obtain ⟨dbm', ramp'⟩ := b
    simp only [command, AbiCommand.plan] at planned planned'
    split at planned
    · cases planned
    split at planned'
    · cases planned'
    rename_i fits fits'
    obtain ⟨admitted, calls⟩ := Script.power_ok planned
    obtain ⟨admitted', calls'⟩ := Script.power_ok planned'
    have power : dbm.toInt8 = dbm'.toInt8 ↔ residue 32 dbm = residue 32 dbm' := by
      rw [← Int8.toInt_inj, toInt_toInt8 (Decidable.not_not.mp fits),
        toInt_toInt8 (Decidable.not_not.mp fits'), Int32.toInt_inj, ← word_eq_iff]
      exact ⟨congrArg Int32.toUInt32, congrArg UInt32.toInt32⟩
    rw [calls, calls', powerCalls_eq_iff, power, byte_eq_iff]
    simp only [residues, List.cons.injEq, and_true]
  | loraSetModulationParams =>
    simp only [command, AbiCommand.plan] at planned planned'
    split at planned
    · cases planned
    split at planned'
    · cases planned'
    rw [(Script.checked_ok planned).2, (Script.checked_ok planned').2]
    simp only [List.map_cons, List.map_nil, transmitted, masked, residues,
      List.cons.injEq, and_true, setModulationParams.injEq, byte_eq_iff, nibble_eq_iff]
  | loraSetPacketParams =>
    simp only [command, AbiCommand.plan] at planned planned'
    split at planned
    · cases planned
    split at planned'
    · cases planned'
    cases planned
    cases planned'
    simp only [Script.single, List.map_cons, List.map_nil, transmitted, masked, residues,
      List.cons.injEq, and_true, setPacketParams.injEq, byte_eq_iff, half_eq_iff, bit_eq_iff,
      ofBool_flag, toUInt8_eq_iff]
  | loraSetCadParams =>
    simp only [command, AbiCommand.plan] at planned planned'
    split at planned
    · cases planned
    split at planned'
    · cases planned'
    have peak (x y : Int32) : asU8 x % 128 = asU8 y % 128 ↔ residue 7 x = residue 7 y :=
      field_eq_iff x y 7 (by decide)
    rw [(Script.checked_ok planned).2, (Script.checked_ok planned').2]
    simp only [List.map_cons, List.map_nil, transmitted, masked, residues,
      List.cons.injEq, and_true, setCadParams.injEq, byte_eq_iff, nibble_eq_iff, word_eq_iff,
      flag_eq_iff, peak]

private theorem checked_iff {c : CoreCall} {writes : c.isWrite = true} :
    (∃ script, Script.checked c writes = .ok script) ↔ c.refused = false := by
  constructor
  · rintro ⟨script, passed⟩
    exact (Script.checked_ok passed).1
  · intro admitted
    exact ⟨_, dif_pos admitted⟩

private theorem power_iff {dbm : Int8} {ramp : UInt8} :
    (∃ script, Script.power dbm ramp = .ok script) ↔
      Radio.lfPowerMin ≤ dbm ∧ dbm ≤ Radio.lfPowerMax := by
  constructor
  · rintro ⟨script, passed⟩
    exact (Script.power_ok passed).1
  · intro admitted
    exact ⟨_, dif_pos admitted⟩

/-- The accepted tuples are those an entry point has a plan for. -/
theorem accepted_iff (entry : ConfigEntry) (a : entry.Args) :
    entry.accepted a ↔ ∃ script, (entry.command a).plan = .ok script := by
  have planned (script : Script) : True ↔ ∃ other, (Except.ok script : Except Int32 Script) =
      .ok other := iff_of_true trivial ⟨script, rfl⟩
  have unplanned (e : Int32) : ¬∃ script, (Except.error e : Except Int32 Script) = .ok script := by
    rintro ⟨_, impossible⟩
    cases impossible
  cases entry with
  | setPowerDbm =>
    obtain ⟨dbm, ramp⟩ := a
    simp only [command, AbiCommand.plan, accepted]
    split
    · rename_i outside
      refine iff_of_false ?_ (unplanned _)
      simp only [Int32.le_iff_toInt_le] at outside ⊢
      change ¬(-128 ≤ dbm.toInt ∧ dbm.toInt ≤ 127) at outside
      change ¬(-9 ≤ dbm.toInt ∧ dbm.toInt ≤ 22)
      omega
    · rename_i fits
      rw [power_iff, Int8.le_iff_toInt_le, Int8.le_iff_toInt_le,
        toInt_toInt8 (Decidable.not_not.mp fits), Int32.le_iff_toInt_le, Int32.le_iff_toInt_le]
      rfl
  | loraSetModulationParams =>
    obtain ⟨sf, bw, cr, ldro, highBand⟩ := a
    simp only [command, AbiCommand.plan, accepted]
    split
    · rename_i outside
      refine iff_of_false ?_ (unplanned _)
      rintro ⟨factor, width, rate, _⟩
      exact outside.elim (· factor) (·.elim (· width) (· rate))
    · rename_i inside
      simp only [not_or, Decidable.not_not] at inside
      refine Iff.trans ?_ checked_iff.symm
      rw [CoreCall.refused, decide_eq_false_iff_not, Bool.not_eq_false]
      exact ⟨fun all => all.2.2.2, fun valid => ⟨inside.1, inside.2.1, inside.2.2, valid⟩⟩
  | loraSetPacketParams =>
    obtain ⟨preambleLen, headerType, payloadLen, crc, invertIq⟩ := a
    simp only [command, AbiCommand.plan, accepted]
    split
    · rename_i outside
      refine iff_of_false ?_ (unplanned _)
      rintro ⟨preamble, payload⟩
      exact outside.elim (· preamble) (· payload)
    · rename_i inside
      simp only [not_or, Decidable.not_not] at inside
      exact iff_of_true inside ⟨_, rfl⟩
  | loraSetCadParams =>
    obtain ⟨symNum, preambleOnly, pnrDelta, exitMode, timeout, detPeak⟩ := a
    simp only [command, AbiCommand.plan, accepted]
    split
    · rename_i negative
      refine iff_of_false ?_ (unplanned _)
      exact fun inside => absurd inside.1 (Int32.not_le.mpr negative)
    · rename_i nonneg
      have value := toNat_toUInt32_of_nonneg timeout (Int32.not_lt.mp nonneg)
      refine Iff.trans ?_ checked_iff.symm
      rw [CoreCall.refused, decide_eq_false_iff_not, gt_iff_lt, UInt32.not_lt,
        UInt32.le_iff_toNat_le, and_iff_right (Int32.not_lt.mp nonneg), Int32.le_iff_toInt_le]
      change timeout.toInt ≤ 0xFFFFFF ↔ timeout.toUInt32.toNat ≤ 0xFFFFFF
      omega
  | _ => exact planned _

section Bus

variable {σ : Type} {hal : Hal (StateM σ)} {trace : σ → List Ev}

/-- An entry point as the shim calls it, with a host. -/
def call (entry : ConfigEntry) (hal : Hal (StateM σ)) (a : entry.Args) : StateM σ Int32 :=
  (entry.command a).run (some hal)

/-- Two calls of one entry point are told apart: if both succeed and put the same frames
on the bus, they were given the same arguments. -/
def ToldApart (entry : ConfigEntry) (hal : Hal (StateM σ)) (trace : σ → List Ev)
    (a b : entry.Args) (s t : σ) : Prop :=
  (entry.call hal a s).1 = Hal.ok → (entry.call hal b t).1 = Hal.ok →
    commands (emitted trace (entry.call hal a) s) = commands (emitted trace (entry.call hal b) t) →
      entry.compared a = entry.compared b

/-- A call that is not accepted returns an error code. -/
theorem accepted_of_ok (entry : ConfigEntry) (a : entry.Args) (s : σ)
    (returned : (entry.call hal a s).1 = Hal.ok) : entry.accepted a := by
  rw [accepted_iff]
  cases planned : (entry.command a).plan with
  | ok script => exact ⟨script, rfl⟩
  | error e =>
    have code : e = Hal.ok := by
      rw [call, AbiCommand.run_eq, planned] at returned
      exact returned
    rcases AbiCommand.plan_error planned with rfl | rfl <;> cases code

/-- On a transport that never fails, two accepted calls of one entry point put the same
frames on the bus exactly when their residues agree. -/
theorem commands_eq_iff (obs : Observes hal trace) (never : NeverFails hal)
    (entry : ConfigEntry) (a b : entry.Args) (s t : σ) (accepts : entry.accepted a)
    (accepts' : entry.accepted b) :
    (entry.call hal a s).1 = Hal.ok ∧ (entry.call hal b t).1 = Hal.ok ∧
      (commands (emitted trace (entry.call hal a) s) =
          commands (emitted trace (entry.call hal b) t) ↔
        entry.residues a = entry.residues b) := by
  obtain ⟨script, planned⟩ := (accepted_iff entry a).mp accepts
  obtain ⟨script', planned'⟩ := (accepted_iff entry b).mp accepts'
  obtain ⟨returned, sent⟩ := AbiCommand.run_of_neverFails obs never _ script planned s
  obtain ⟨returned', sent'⟩ := AbiCommand.run_of_neverFails obs never _ script' planned' t
  refine ⟨returned, returned', ?_⟩
  rw [call, call, sent.commands_eq, sent'.commands_eq, Script.frames, Script.frames,
    CoreCall.frames_eq_iff _ _ script.admitted script'.admitted]
  exact transmitted_eq_iff entry a b script script' planned planned'

/-- Two calls of a configuration entry point are told apart unless both argument tuples
pass every range check, agree in all the bits that are kept, and differ elsewhere. -/
theorem toldApart_iff (obs : Observes hal trace) (never : NeverFails hal)
    (entry : ConfigEntry) (a b : entry.Args) (s t : σ) :
    entry.ToldApart hal trace a b s t ↔
      ¬(entry.accepted a ∧ entry.accepted b ∧ entry.residues a = entry.residues b ∧
        entry.compared a ≠ entry.compared b) := by
  constructor
  · rintro apart ⟨accepts, accepts', same, differ⟩
    obtain ⟨returned, returned', frames⟩ :=
      commands_eq_iff obs never entry a b s t accepts accepts'
    exact differ (apart returned returned' (frames.mpr same))
  · intro unlike returned returned' sameFrames
    have accepts := accepted_of_ok entry a s returned
    have accepts' := accepted_of_ok entry b t returned'
    obtain ⟨_, _, frames⟩ := commands_eq_iff obs never entry a b s t accepts accepts'
    exact Decidable.byContradiction fun differ =>
      unlike ⟨accepts, accepts', frames.mp sameFrames, differ⟩

/-- On the rig: a receive path out of range is told from one in range only if it differs
in its lowest bit. -/
theorem toldApart_iff_rig :
    setRxPath.ToldApart Mock.hal Mock.log (0, 4) (3, 4) (Mock.fresh []) (Mock.fresh []) ∧
      ¬setRxPath.ToldApart Mock.hal Mock.log (0, 4) (2, 4) (Mock.fresh []) (Mock.fresh []) := by
  constructor
  · apply (toldApart_iff Mock.observes Mock.neverFails _ _ _ _ _).mpr
    rintro ⟨-, -, same, -⟩
    exact absurd same (by decide)
  · refine fun apart =>
      (toldApart_iff Mock.observes Mock.neverFails _ _ _ _ _).mp apart ?_
    exact ⟨trivial, trivial, by decide, by decide⟩

end Bus

/-- The chip mode 256 is accepted, and configures what mode 0 configures. -/
theorem standby_not_toldApart :
    ¬ ∀ (entry : ConfigEntry) (a b : entry.Args),
      entry.ToldApart Mock.hal Mock.log a b (Mock.fresh []) (Mock.fresh []) := by
  intro claimed
  have same := claimed .setStandby 0 256 rfl rfl rfl
  exact absurd same (by decide)

end ConfigEntry
end Lr2021
