import Lr2021.AbiCommand
import Lr2021.Rig

set_option autoImplicit false

/-! The commands that carry a 24-bit time, and which times they send as they are. -/
namespace Lr2021

open Cmd Flrc FixedWidth TraceLogic

/-- The core calls with a 24-bit time field, with their other arguments. -/
inductive TimedCall where
  | setRx
  | setTx
  | setCadParams (symNum : UInt8) (preambleOnly : Bool) (pnrDelta exitMode detPeak : UInt8)
  | setSleep (config : UInt8)
  deriving DecidableEq, Repr

namespace TimedCall

def call (time : UInt32) : TimedCall → CoreCall
  | setRx => .setRx time
  | setTx => .setTx time
  | setCadParams symNum preambleOnly pnrDelta exitMode detPeak =>
      .setCadParams symNum preambleOnly pnrDelta exitMode time detPeak
  | setSleep config => .setSleep config time

/-- Where in the frame the time stands, as its value read big-endian. -/
def timeOf (frame : List UInt8) : TimedCall → Nat
  | setRx | setTx => BigEndian.decode ((frame.drop 2).take 3)
  | setCadParams .. => BigEndian.decode ((frame.drop 5).take 3)
  | setSleep _ => BigEndian.decode ((frame.drop 3).take 3)

def isSleep : TimedCall → Bool
  | setSleep _ => true
  | _ => false

/-- The frame carries the time modulo 2^24, whatever the command. -/
theorem timeOf_wire (c : TimedCall) (time : UInt32) :
    c.timeOf (c.call time).wire.bytes = time.toNat % 2 ^ 24 := by
  rw [← BigEndian.decode_bytes24]
  cases c <;> rfl

/-- All but the sleep check it first. -/
theorem refused_call (c : TimedCall) (time : UInt32) :
    (c.call time).refused = (!c.isSleep && decide (time > timeoutMax)) := by
  cases c <;> rfl

theorem isWrite_call (c : TimedCall) (time : UInt32) : (c.call time).isWrite = true := by
  cases c <;> rfl

end TimedCall

section Faithful

variable {σ : Type} (hal : Hal (StateM σ)) (trace : σ → List Ev)

/-- A time that fits its field is sent as it is, for certain on a transport that never fails; any
other is refused with nothing done. -/
def TimedCall.Faithful (c : TimedCall) (time : UInt32) : Prop :=
  (time.toNat ≤ 0xFFFFFF → ∃ frame, c.timeOf frame = time.toNat ∧
    Emits trace ((c.call time).run hal) (fun r events => Transaction frame r.isOk events) ∧
    (NeverFails hal → ∀ s, ((c.call time).run hal s).1 = .ok () ∧
      commands (emitted trace ((c.call time).run hal) s) = [frame])) ∧
  (time.toNat > 0xFFFFFF → ∃ e, ∀ s, (c.call time).run hal s = (.error e, s))

end Faithful

namespace TimedCall

variable {σ : Type} {hal : Hal (StateM σ)} {trace : σ → List Ev}

/-- A time that fits is sent as it is. -/
theorem sends_of_fits (obs : Observes hal trace) (c : TimedCall) (time : UInt32)
    (fits : time.toNat ≤ 0xFFFFFF) :
    c.timeOf (c.call time).wire.bytes = time.toNat ∧
      Emits trace ((c.call time).run hal) (fun r events =>
        Transaction (c.call time).wire.bytes r.isOk events) ∧
      (NeverFails hal → ∀ s, ((c.call time).run hal s).1 = .ok () ∧
        commands (emitted trace ((c.call time).run hal) s) = [(c.call time).wire.bytes]) := by
  have within : ¬time > timeoutMax := UInt32.not_lt.mpr (UInt32.le_iff_toNat_le.mpr fits)
  have admitted : (c.call time).refused = false := by
    rw [refused_call, decide_eq_false within, Bool.and_false]
  have sends := CoreCall.run_emits obs (c.call time) admitted
  refine ⟨?_, sends, fun never s => ?_⟩
  · rw [timeOf_wire]
    exact Nat.mod_eq_of_lt (Nat.lt_succ_of_le fits)
  · have sent := CoreCall.run_ok never (c.call time) (isWrite_call c time) admitted s
    have session := (sends.emitted s).2.session
    rw [sent] at session
    exact ⟨sent, session.commands_eq⟩

theorem refuses_of_exceeds (c : TimedCall) (time : UInt32) (awake : c.isSleep = false)
    (exceeds : time.toNat > 0xFFFFFF) : (c.call time).run hal = pure (.error Hal.errBuffer) := by
  have beyond : time > timeoutMax := UInt32.lt_iff_toNat_lt.mpr exceeds
  have isRefused : (c.call time).refused = true := by
    rw [refused_call, awake, decide_eq_true beyond]
    rfl
  exact CoreCall.run_refused _ isRefused

/-- A sleep is sent whatever its ticks, so the bus is never left alone. -/
theorem sleep_touches_bus (obs : Observes hal trace) (s : σ) (config : UInt8) (time : UInt32) :
    (((setSleep config).call time).run hal s).2 ≠ s := by
  intro same
  obtain ⟨events, extended, sent⟩ :=
    CoreCall.run_emits obs ((setSleep config).call time) rfl s
  rw [same] at extended
  have starts := sent.starts
  rw [List.self_eq_append_right.mp extended] at starts
  cases starts

theorem faithful_iff [nonempty : Nonempty σ] (obs : Observes hal trace) (c : TimedCall)
    (time : UInt32) :
    c.Faithful hal trace time ↔ (c.isSleep = true → time.toNat ≤ 0xFFFFFF) := by
  obtain ⟨s⟩ := nonempty
  by_cases fits : time.toNat ≤ 0xFFFFFF
  · have sends := sends_of_fits obs c time fits
    exact iff_of_true ⟨fun _ => ⟨_, sends⟩, fun exceeds => absurd fits (Nat.not_le.mpr exceeds)⟩
      fun _ => fits
  · have exceeds := Nat.not_le.mp fits
    cases c with
    | setSleep config =>
      refine iff_of_false (fun faithful => ?_) fun only => fits (only rfl)
      obtain ⟨e, untouched⟩ := faithful.2 exceeds
      exact sleep_touches_bus obs s config time (congrArg Prod.snd (untouched s))
    | _ =>
      refine iff_of_true ⟨fun within => absurd within fits, fun _ => ⟨Hal.errBuffer, ?_⟩⟩ nofun
      intro s
      rw [refuses_of_exceeds _ time rfl exceeds, pure_apply]

end TimedCall

/-- The entry points over those calls, with their other arguments. -/
inductive TimedEntry where
  | setRx
  | setTx
  | loraSetCadParams (symNum preambleOnly pnrDelta exitMode detPeak : Int32)
  | setSleep (config : Int32)
  deriving DecidableEq, Repr

namespace TimedEntry

def command (time : Int32) : TimedEntry → AbiCommand
  | setRx => .setRx time
  | setTx => .setTx time
  | loraSetCadParams symNum preambleOnly pnrDelta exitMode detPeak =>
      .loraSetCadParams symNum preambleOnly pnrDelta exitMode time detPeak
  | setSleep config => .setSleep config time

/-- The core call an entry point comes down to. -/
def narrow : TimedEntry → TimedCall
  | setRx => .setRx
  | setTx => .setTx
  | loraSetCadParams symNum preambleOnly pnrDelta exitMode detPeak =>
      .setCadParams (asU8 symNum) (preambleOnly != 0) (asU8 pnrDelta) (asU8 exitMode)
        (asU8 detPeak)
  | setSleep config => .setSleep (asU8 config)

/-- A negative time is refused here, except by the sleep. -/
theorem run_command {m : Type → Type} [Monad m] [LawfulMonad m] (hal : Hal m)
    (entry : TimedEntry) (time : Int32) :
    (entry.command time).run (some hal) =
      if entry.narrow.isSleep = false ∧ time < 0 then pure errParam
      else Ffi.statusOf <$> (entry.narrow.call time.toUInt32).run hal := by
  cases entry with
  | setSleep config =>
    rw [if_neg (fun refused => Bool.noConfusion refused.1)]
    rfl
  | _ =>
    by_cases negative : time < 0
    · rw [if_pos ⟨rfl, negative⟩]
      exact if_pos negative
    · rw [if_neg (fun refused => negative refused.2)]
      exact if_neg negative

section Faithful

variable {σ : Type} (hal : Hal (StateM σ)) (trace : σ → List Ev)

/-- The same law for a signed time: one that fits the field is sent as it is, and any
other, a negative one too, is refused with nothing done. -/
def Faithful (entry : TimedEntry) (time : Int32) : Prop :=
  (0 ≤ time.toInt ∧ time.toInt ≤ 0xFFFFFF → ∃ frame,
    (entry.narrow.timeOf frame : Int) = time.toInt ∧
    Emits trace ((entry.command time).run (some hal)) (fun rc events =>
      ∃ r, rc = Ffi.statusOf r ∧ Transaction frame r.isOk events) ∧
    (NeverFails hal → ∀ s, ((entry.command time).run (some hal) s).1 = Hal.ok ∧
      commands (emitted trace ((entry.command time).run (some hal)) s) = [frame])) ∧
  (¬(0 ≤ time.toInt ∧ time.toInt ≤ 0xFFFFFF) →
    ∃ e < 0, ∀ s, (entry.command time).run (some hal) s = (e, s))

end Faithful

variable {σ : Type} {hal : Hal (StateM σ)} {trace : σ → List Ev}

/-- A time that is not negative is passed on, and so is any time of a sleep. -/
theorem run_passed (entry : TimedEntry) (time : Int32)
    (passed : entry.narrow.isSleep = true ∨ 0 ≤ time.toInt) :
    (entry.command time).run (some hal) =
      Ffi.statusOf <$> (entry.narrow.call time.toUInt32).run hal := by
  rw [run_command, if_neg]
  rintro ⟨awake, negative⟩
  have below : time.toInt < 0 := Int32.lt_iff_toInt_lt.mp negative
  rcases passed with asleep | nonneg
  · rw [asleep] at awake
    cases awake
  · omega

/-- The word a signed time becomes fits 24 bits only if the time does. -/
theorem toNat_le_iff (time : Int32) :
    time.toUInt32.toNat ≤ 0xFFFFFF ↔ 0 ≤ time.toInt ∧ time.toInt ≤ 0xFFFFFF := by
  have lower := time.le_toInt
  have upper := time.toInt_lt
  rw [toNat_toUInt32]
  omega

theorem faithful_iff [nonempty : Nonempty σ] (obs : Observes hal trace) (entry : TimedEntry)
    (time : Int32) :
    entry.Faithful hal trace time ↔
      (entry.narrow.isSleep = true → 0 ≤ time.toInt ∧ time.toInt ≤ 0xFFFFFF) := by
  obtain ⟨s⟩ := nonempty
  by_cases fits : 0 ≤ time.toInt ∧ time.toInt ≤ 0xFFFFFF
  · refine iff_of_true ⟨fun _ => ?_, fun unfit => absurd fits unfit⟩ fun _ => fits
    obtain ⟨same, sends, completes⟩ :=
      TimedCall.sends_of_fits obs entry.narrow time.toUInt32 ((toNat_le_iff time).mpr fits)
    rw [run_passed entry time (Or.inr fits.1)]
    refine ⟨(entry.narrow.call time.toUInt32).wire.bytes, ?_, sends.map _, fun never s => ?_⟩
    · rw [same, toNat_toUInt32_of_nonneg time (Int32.le_iff_toInt_le.mpr fits.1)]
    · obtain ⟨returned, framed⟩ := completes never s
      rw [map_apply, emitted_map, returned]
      exact ⟨rfl, framed⟩
  · cases asleep : entry.narrow.isSleep with
    | true =>
      refine iff_of_false (fun faithful => ?_) fun only => fits (only rfl)
      obtain ⟨e, -, untouched⟩ := faithful.2 fits
      have same : (((entry.command time).run (some hal)) s).2 = s := congrArg Prod.snd (untouched s)
      rw [run_passed entry time (Or.inl asleep), map_apply] at same
      cases entry with
      | setSleep config => exact TimedCall.sleep_touches_bus obs s (asU8 config) _ same
      | _ => cases asleep
    | false =>
      refine iff_of_true ⟨fun within => absurd within fits, fun _ => ?_⟩ nofun
      by_cases negative : time < 0
      · refine ⟨errParam, by decide, fun s => ?_⟩
        rw [run_command, if_pos ⟨asleep, negative⟩, pure_apply]
      · have nonneg : 0 ≤ time.toInt := Int32.le_iff_toInt_le.mp (Int32.not_lt.mp negative)
        have exceeds : time.toUInt32.toNat > 0xFFFFFF :=
          Nat.not_le.mp fun within => fits ((toNat_le_iff time).mp within)
        refine ⟨Hal.errBuffer, by decide, fun s => ?_⟩
        rw [run_passed entry time (Or.inr nonneg),
          TimedCall.refuses_of_exceeds entry.narrow _ asleep exceeds, map_apply, pure_apply]
        rfl

end TimedEntry

/-- Of the four commands with a 24-bit time, in the core and through the ABI, each sends
the times that fit and refuses the rest with nothing done, except that a sleep does so
only for the times that fit. -/
theorem time_faithful_iff {σ : Type} [Nonempty σ] {hal : Hal (StateM σ)} {trace : σ → List Ev}
    (obs : Observes hal trace) :
    (∀ (c : TimedCall) (time : UInt32), c.Faithful hal trace time ↔
      (c.isSleep = true → time.toNat ≤ 0xFFFFFF)) ∧
    (∀ (entry : TimedEntry) (time : Int32), entry.Faithful hal trace time ↔
      (entry.narrow.isSleep = true → 0 ≤ time.toInt ∧ time.toInt ≤ 0xFFFFFF)) :=
  ⟨TimedCall.faithful_iff obs, TimedEntry.faithful_iff obs⟩

/-- On the rig, the longest sleep that fits goes out as it is. -/
theorem time_faithful_iff_rig :
    (TimedCall.setSleep 1).Faithful Mock.hal Mock.log 0xFFFFFF ∧
      (TimedEntry.setSleep 1).Faithful Mock.hal Mock.log 0xFFFFFF := by
  have nonempty : Nonempty Mock := ⟨Mock.fresh []⟩
  obtain ⟨core, abi⟩ := time_faithful_iff Mock.observes
  exact ⟨(core _ _).mpr fun _ => by decide, (abi _ _).mpr fun _ => by decide⟩

/-- A sleep of 2^24 + 1 ticks is sent as a sleep of one tick. -/
theorem sleep_ticks_truncated :
    ¬((∀ (c : TimedCall) (time : UInt32), c.Faithful Mock.hal Mock.log time) ∧
      (∀ (entry : TimedEntry) (time : Int32), entry.Faithful Mock.hal Mock.log time)) := by
  rintro ⟨core, -⟩
  obtain ⟨e, untouched⟩ := (core (.setSleep 1) 0x1000001).2 (by decide)
  have refusedSleep := congrArg Prod.fst (untouched (Mock.fresh []))
  cases refusedSleep

end Lr2021
