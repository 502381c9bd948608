import Lr2021.AbiCommand
import Lr2021.Rig

set_option autoImplicit false

/-! Refusing arguments: decided by the arguments alone, before the host is asked for
anything. -/
namespace Lr2021

open Cmd Flrc FixedWidth TraceLogic

namespace Xfer

variable {σ : Type} {hal : Hal (StateM σ)}

/-- On a transport that never fails, nothing of the FIFO read does. -/
theorem readFifo_ok (never : NeverFails hal) (opcode : UInt16) {n : Nat} (out : Vector UInt8 n)
    (s : σ) : (readFifo hal opcode out s).1.1 = .ok () := by
  have conclude (buf : Vector UInt8 n) (s : σ) :
      (concludeFifo hal (.ok ()) buf s).1.1 = .ok () := by
    rw [concludeFifo, bind_apply, never.select 1 s]
    exact never.waitBusy _
  rw [readFifo_eq, bind_apply, never.waitBusy s]
  dsimp only
  rw [bind_apply, never.select 0 _]
  dsimp only
  rw [bind_apply, never.write _ _]
  dsimp only
  rw [bind_apply, never.read out _]
  exact conclude _ _

end Xfer

namespace Ffi

/-- Handing a slice back unread leaves the memory behind it as it was. -/
theorem overwrite_fromRawParts (memory : Nat → UInt8) (len : Nat) :
    overwrite memory (fromRawParts memory len) = memory := by
  funext address
  unfold overwrite fromRawParts
  split
  · exact Vector.getElem_ofFn _
  · rfl

end Ffi

namespace AbiCommand

/-- A word that is refused here if it is negative, and by the core from a limit on. -/
def bounded (limit : Int) (x : Int32) : Option Int32 :=
  if x.toInt < 0 then some errParam else if limit < x.toInt then some Hal.errBuffer else none

/-- The code that the arguments of an entry point are refused with. -/
def refusedWith : AbiCommand → Option Int32
  | setRfFrequency hz => if hz.toInt ≤ 0 then some errParam else none
  | setPowerDbm dbm _ =>
    if dbm.toInt < -128 ∨ 127 < dbm.toInt then some errParam
    else if dbm.toInt < -9 ∨ 22 < dbm.toInt then some Hal.errBuffer
    else none
  | setRx timeout | setTx timeout | loraSetCadParams _ _ _ _ timeout _ => bounded 0xFFFFFF timeout
  | writeTxFifo none _ => some errParam
  | writeTxFifo (some _) len => bounded 255 len
  | loraSetModulationParams sf bw cr _ highBand =>
    if (sf.toInt < 0 ∨ 255 < sf.toInt) ∨ (bw.toInt < 0 ∨ 255 < bw.toInt) ∨
        (cr.toInt < 0 ∨ 255 < cr.toInt) then some errParam
    else if (5 ≤ sf.toInt ∧ sf.toInt ≤ 12) ∧ (loraBwHz (asU8 bw)).isSome = true ∧
        (bwNeedsHighBand (asU8 bw) = true → highBand ≠ 0) ∧ 1 ≤ cr.toInt ∧ cr.toInt ≤ 9 then none
    else some Hal.errBuffer
  | loraSetPacketParams preambleLen _ payloadLen _ _ =>
    if (preambleLen.toInt < 0 ∨ 65535 < preambleLen.toInt) ∨
        (payloadLen.toInt < 0 ∨ 255 < payloadLen.toInt) then some errParam
    else none
  | _ => none

/-- The code in a plan that is a refusal. -/
def refusalOf : Except Int32 Script → Option Int32
  | .error e => some e
  | .ok _ => none

theorem refusalOf_guard {bad : Prop} [Decidable bad] {e : Int32} {planned : Except Int32 Script} :
    refusalOf (if bad then .error e else planned) = if bad then some e else refusalOf planned := by
  split <;> rfl

/-- The check at the boundary, and then the one of the core. -/
theorem refusalOf_checked {bad : Prop} [Decidable bad] (c : CoreCall) (writes : c.isWrite = true) :
    refusalOf (if bad then .error errParam else Script.checked c writes) =
      if bad then some errParam else if c.refused = true then some Hal.errBuffer else none := by
  rw [refusalOf_guard]
  unfold Script.checked
  split
  · rfl
  split
  · rename_i admitted
    rw [admitted]
    rfl
  · rename_i isRefused
    rw [if_pos (Bool.not_eq_false _ ▸ isRefused)]
    rfl

theorem lt_zero_iff (x : Int32) : x < 0 ↔ x.toInt < 0 := Int32.lt_iff_toInt_lt

theorem outside_iff (x low high : Int32) :
    ¬(low ≤ x ∧ x ≤ high) ↔ x.toInt < low.toInt ∨ high.toInt < x.toInt := by
  rw [Int32.le_iff_toInt_le, Int32.le_iff_toInt_le]
  omega

/-- The limit of the core, after the check for a sign. -/
theorem bounded_eq (limit : Nat) (x : Int32) (beyond : Prop) [Decidable beyond]
    (limits : 0 ≤ x.toInt → (beyond ↔ limit < x.toInt.toNat)) :
    (if x < 0 then some errParam else if beyond then some Hal.errBuffer else none) =
      bounded limit x := by
  unfold bounded
  by_cases negative : x.toInt < 0
  · rw [if_pos negative, if_pos ((lt_zero_iff x).mpr negative)]
  · have nonneg := Int.not_lt.mp negative
    have same : beyond ↔ (limit : Int) < x.toInt := by
      rw [limits nonneg]
      omega
    rw [if_neg negative, if_neg (mt (lt_zero_iff x).mp negative)]
    simp only [same]

theorem timeout_beyond (timeout : Int32) (nonneg : 0 ≤ timeout.toInt) :
    timeout.toUInt32 > timeoutMax ↔ 0xFFFFFF < timeout.toInt.toNat := by
  have word := toNat_toUInt32_of_nonneg timeout (Int32.le_iff_toInt_le.mpr nonneg)
  rw [gt_iff_lt, UInt32.lt_iff_toNat_lt]
  change 0xFFFFFF < timeout.toUInt32.toNat ↔ _
  omega

/-- The range of the power table, after that of a signed byte. -/
theorem refusalOf_power (dbm : Int32) (ramp : UInt8) (byte : -128 ≤ dbm.toInt ∧ dbm.toInt ≤ 127) :
    refusalOf (Script.power dbm.toInt8 ramp) =
      if dbm.toInt < -9 ∨ 22 < dbm.toInt then some Hal.errBuffer else none := by
  have value : dbm.toInt8.toInt = dbm.toInt := by
    rw [Int32.toInt_toInt8, Int.bmod_def]
    omega
  have row : (Radio.lfPowerMin ≤ dbm.toInt8 ∧ dbm.toInt8 ≤ Radio.lfPowerMax) ↔
      ¬(dbm.toInt < -9 ∨ 22 < dbm.toInt) := by
    rw [Int8.le_iff_toInt_le, Int8.le_iff_toInt_le, value]
    change (-9 : Int) ≤ dbm.toInt ∧ dbm.toInt ≤ 22 ↔ _
    omega
  unfold Script.power
  split
  · rename_i admitted
    rw [if_neg (row.mp admitted)]
    rfl
  · rename_i refused
    rw [if_pos (Decidable.not_not.mp (mt row.mpr refused))]
    rfl

/-- The core's own check of a modulation, on bytes. -/
theorem modulation_refused (sf bw cr highBand : Int32) (sfByte : 0 ≤ sf ∧ sf ≤ 0xFF)
    (crByte : 0 ≤ cr ∧ cr ≤ 0xFF) :
    (Lora.validate (asU8 sf) (asU8 bw) (asU8 cr) (highBand != 0)).isOk = true ↔
      (5 ≤ sf.toInt ∧ sf.toInt ≤ 12) ∧ (loraBwHz (asU8 bw)).isSome = true ∧
        (bwNeedsHighBand (asU8 bw) = true → highBand ≠ 0) ∧ 1 ≤ cr.toInt ∧ cr.toInt ≤ 9 := by
  have factor := toNat_asU8_of_byte sfByte
  have rate := toNat_asU8_of_byte crByte
  have flag : (highBand != 0) = true ↔ highBand ≠ 0 := bne_iff_ne
  have positive : asU8 cr ≠ 0 ↔ ¬(asU8 cr).toNat = 0 := not_congr UInt8.toNat_inj.symm
  rw [Lora.validate_isOk_iff, flag, positive, UInt8.le_iff_toNat_le, UInt8.le_iff_toNat_le,
    UInt8.le_iff_toNat_le]
  change (5 ≤ (asU8 sf).toNat ∧ (asU8 sf).toNat ≤ 12) ∧ _ ∧ _ ∧ ¬(asU8 cr).toNat = 0 ∧
    (asU8 cr).toNat ≤ 9 ↔ _
  exact and_congr (by omega) (and_congr Iff.rfl (and_congr Iff.rfl (by omega)))

/-- An entry point refuses just these arguments, each with its code. -/
theorem plan_refusal (c : AbiCommand) : refusalOf c.plan = c.refusedWith := by
  cases c with
  | setRfFrequency hz =>
    have positive : hz ≤ 0 ↔ hz.toInt ≤ 0 := Int32.le_iff_toInt_le
    rw [plan, refusalOf_guard, refusedWith]
    simp only [positive, refusalOf]
  | setPowerDbm dbm ramp =>
    have byte : ¬(-128 ≤ dbm ∧ dbm ≤ 127) ↔ dbm.toInt < -128 ∨ 127 < dbm.toInt :=
      outside_iff dbm (-128) 127
    rw [plan, refusalOf_guard, refusedWith]
    simp only [byte]
    split
    · rfl
    · exact refusalOf_power dbm (asU8 ramp) (by omega)
  | setRx timeout | setTx timeout | loraSetCadParams _ _ _ _ timeout _ =>
    refine (refusalOf_checked _ _).trans ?_
    simp only [CoreCall.refused, decide_eq_true_eq]
    exact bounded_eq 0xFFFFFF timeout _ (timeout_beyond timeout)
  | writeTxFifo data len =>
    cases data with
    | none => rfl
    | some memory =>
      refine (refusalOf_checked _ _).trans ?_
      simp only [CoreCall.refused, decide_eq_true_eq, Vector.length_toList]
      exact bounded_eq 255 len _ fun _ => Iff.rfl
  | loraSetModulationParams sf bw cr ldro highBand =>
    have byte (x : Int32) : ¬(0 ≤ x ∧ x ≤ 0xFF) ↔ x.toInt < 0 ∨ 255 < x.toInt :=
      outside_iff x 0 0xFF
    refine (refusalOf_checked _ _).trans ?_
    rw [refusedWith]
    by_cases outside : (sf.toInt < 0 ∨ 255 < sf.toInt) ∨ (bw.toInt < 0 ∨ 255 < bw.toInt) ∨
        (cr.toInt < 0 ∨ 255 < cr.toInt)
    · rw [if_pos outside, if_pos]
      rwa [byte, byte, byte]
    · have inside : ¬(¬(0 ≤ sf ∧ sf ≤ 0xFF) ∨ ¬(0 ≤ bw ∧ bw ≤ 0xFF) ∨ ¬(0 ≤ cr ∧ cr ≤ 0xFF)) := by
        rwa [byte, byte, byte]
      obtain ⟨sfByte, bwByte, crByte⟩ :
          (0 ≤ sf ∧ sf ≤ 0xFF) ∧ (0 ≤ bw ∧ bw ≤ 0xFF) ∧ (0 ≤ cr ∧ cr ≤ 0xFF) := by
        simpa only [not_or, Decidable.not_not] using inside
      have passes := modulation_refused sf bw cr highBand sfByte crByte
      rw [if_neg outside, if_neg inside]
      simp only [CoreCall.refused, decide_eq_true_eq, ← passes]
      cases (Lora.validate (asU8 sf) (asU8 bw) (asU8 cr) (highBand != 0)).isOk <;> rfl
  | loraSetPacketParams preambleLen headerType payloadLen crc invertIq =>
    have half : ¬(0 ≤ preambleLen ∧ preambleLen ≤ 0xFFFF) ↔
        preambleLen.toInt < 0 ∨ 65535 < preambleLen.toInt := outside_iff preambleLen 0 0xFFFF
    have byte : ¬(0 ≤ payloadLen ∧ payloadLen ≤ 0xFF) ↔
        payloadLen.toInt < 0 ∨ 255 < payloadLen.toInt := outside_iff payloadLen 0 0xFF
    rw [plan, refusalOf_guard, refusedWith]
    simp only [half, byte, refusalOf]
  | _ => rfl

end AbiCommand

/-- The calls that can be refused for their arguments: every sending entry point, and
the FIFO read, with the memory it may write to. -/
inductive GuardedCall where
  | send (command : AbiCommand)
  | readRxFifo (out : Option (Nat → UInt8)) (len : Int32)

namespace GuardedCall

/-- The caller's memory as it is handed in. -/
def buffer : GuardedCall → Option (Nat → UInt8)
  | send _ => none
  | readRxFifo out _ => out

/-- The entry point on a host, with its return code and the memory it leaves. -/
def run {m : Type → Type} [Monad m] (hal : Hal m) : GuardedCall → m (Int32 × Option (Nat → UInt8))
  | send command => (·, none) <$> command.run (some hal)
  | readRxFifo out len => Ffi.lr2021ReadRxFifo (some hal) out len

/-- The code that the arguments are refused with. -/
def refusedWith : GuardedCall → Option Int32
  | send command => command.refusedWith
  | readRxFifo none _ => some errParam
  | readRxFifo (some _) len => AbiCommand.bounded 255 len

/-- The command frames of a call that is let through. A FIFO read sends its opcode and nothing
else, whatever its length. -/
def frames : GuardedCall → List (List UInt8)
  | send command =>
    match command.plan with
    | .error _ => []
    | .ok script => script.frames
  | readRxFifo _ _ => [frame cmdReadRxFifo []]

/-- Refused with a code: whatever the host, it is not touched, nor is the memory. -/
def Refused (c : GuardedCall) (e : Int32) : Prop :=
  ∀ {m : Type → Type} [Monad m] [LawfulMonad m] (hal : Hal m), c.run hal = pure (e, c.buffer)

/-- Begun: whatever the host does, the first thing asked of it is the BUSY wait, and what it is
given to write is a start of the frames, all of them, each under a chip select of its own, if
the driver had no error to return. When nothing fails that is so. -/
def Begun (c : GuardedCall) (frames : List (List UInt8)) : Prop :=
  ∀ {σ : Type} {hal : Hal (StateM σ)} {trace : σ → List Ev}, Observes hal trace →
    Emits trace (c.run hal) (fun reply events =>
      ∃ r, reply.1 = Ffi.statusOf r ∧ Session frames r.isOk events) ∧
    (NeverFails hal → ∀ s, (c.run hal s).1.1 = Hal.ok ∧
      Session frames true (emitted trace (c.run hal) s))

theorem frames_send {command : AbiCommand} {script : Script}
    (planned : command.plan = .ok script) : (send command).frames = script.frames := by
  rw [frames, planned]

theorem refused_send {command : AbiCommand} {e : Int32} (refused : command.plan = .error e) :
    (send command).Refused e := by
  intro m _ _ hal
  rw [run, AbiCommand.run_eq, refused, AbiCommand.execute, map_pure]
  rfl

theorem begun_send {command : AbiCommand} {script : Script}
    (planned : command.plan = .ok script) : (send command).Begun script.frames := by
  intro σ hal trace obs
  constructor
  · apply ((AbiCommand.run_emits obs command script planned).map _).mono
    rintro _ events ⟨_, rfl, ran⟩
    exact ran
  · intro never s
    exact AbiCommand.run_of_neverFails obs never command script planned s

theorem refused_read {memory : Nat → UInt8} {len : Int32} (nonneg : ¬len < 0)
    (long : len.toInt.toNat > maxPacketLen) :
    (readRxFifo (some memory) len).Refused Hal.errBuffer := by
  intro m _ _ hal
  rw [run, Ffi.lr2021ReadRxFifo]
  simp only [if_neg nonneg]
  rw [Ffi.withHal, Radio.readRxFifo_of_gt hal _ long, pure_bind]
  dsimp only
  rw [Ffi.overwrite_fromRawParts]
  rfl

theorem begun_read {memory : Nat → UInt8} {len : Int32} (nonneg : ¬len < 0)
    (short : len.toInt.toNat ≤ maxPacketLen) :
    (readRxFifo (some memory) len).Begun [frame cmdReadRxFifo []] := by
  intro σ hal trace obs
  rw [run, Ffi.lr2021ReadRxFifo_of_le hal memory nonneg short]
  constructor
  · apply ((Xfer.readFifo_emits obs cmdReadRxFifo _).map _).mono
    rintro _ events ⟨reply, rfl, ran⟩
    exact ⟨reply.1, rfl, ran.transaction.session⟩
  · intro never s
    have done := Xfer.readFifo_ok never cmdReadRxFifo (Ffi.fromRawParts memory len.toInt.toNat) s
    have ran := ((Xfer.readFifo_emits obs cmdReadRxFifo
      (Ffi.fromRawParts memory len.toInt.toNat)).emitted s).2.transaction
    rw [done] at ran
    rw [map_apply, emitted_map, done]
    exact ⟨rfl, ran.session⟩

end GuardedCall

/-- The arguments alone decide. Where they are refused, it is with one of the two argument codes
on every host, with nothing done. Where they are not, the call is begun on every host with the
frames that they fix, at least one. Every power that is let through has a row in the table. -/
theorem refusal_before_traffic (c : GuardedCall) :
    (match c.refusedWith with
      | some e => (e = errParam ∨ e = Hal.errBuffer) ∧ c.Refused e
      | none => c.frames ≠ [] ∧ c.Begun c.frames) ∧
      ∀ dbm : Int8, Radio.lfPowerMin ≤ dbm ∧ dbm ≤ Radio.lfPowerMax →
        Radio.paLfRow dbm < Radio.paLfTable.size := by
  refine ⟨?_, Radio.paLfRow_lt⟩
  cases c with
  | send command =>
    rw [GuardedCall.refusedWith, ← command.plan_refusal]
    cases planned : command.plan with
    | error e => exact ⟨AbiCommand.plan_error planned, GuardedCall.refused_send planned⟩
    | ok script =>
      rw [GuardedCall.frames_send planned]
      exact ⟨script.frames_ne_nil, GuardedCall.begun_send planned⟩
  | readRxFifo out len =>
    cases out with
    | none => exact ⟨Or.inl rfl, fun hal => rfl⟩
    | some memory =>
      have bound : _ = AbiCommand.bounded 255 len :=
        AbiCommand.bounded_eq 255 len (255 < len.toInt.toNat) fun _ => Iff.rfl
      rw [GuardedCall.refusedWith, ← bound]
      by_cases negative : len < 0
      · rw [if_pos negative]
        refine ⟨Or.inl rfl, fun hal => ?_⟩
        rw [GuardedCall.run, Ffi.lr2021ReadRxFifo]
        exact if_pos negative
      rw [if_neg negative]
      by_cases long : 255 < len.toInt.toNat
      · rw [if_pos long]
        exact ⟨Or.inr rfl, GuardedCall.refused_read negative long⟩
      · rw [if_neg long]
        exact ⟨List.cons_ne_nil _ _, GuardedCall.begun_read negative (Nat.not_lt.mp long)⟩

end Lr2021
