import Lr2021.AbiCommand
import Lr2021.CommandCodec
import Lr2021.Rig

set_option autoImplicit false

/-! Which of the 32-bit arguments of the core the C ABI can pass on. -/
namespace Lr2021

open Cmd FixedWidth BigEndian TraceLogic

section Bus

variable {σ : Type} {hal : Hal (StateM σ)} {trace : σ → List Ev}

/-- An entry point that puts on the bus what a call of the core does. -/
def SendsAs (hal : Hal (StateM σ)) (trace : σ → List Ev) (s : σ) (entry : AbiCommand)
    (core : CoreCall) : Prop :=
  commands (emitted trace (entry.run (some hal)) s) = commands (emitted trace (core.run hal) s)

theorem CoreCall.commands_of_isWrite (obs : Observes hal trace) (never : NeverFails hal)
    (c : CoreCall) (writes : c.isWrite = true) (admitted : c.refused = false) (s : σ) :
    commands (emitted trace (c.run hal) s) = [c.wire.bytes] := by
  have returned := perform_ok never [c] (List.forall_mem_singleton.mpr admitted)
    (List.forall_mem_singleton.mpr writes) s
  have sent := commands_of_perform_ok obs [c] s returned
  rw [perform_last] at sent
  exact sent

/-- An entry point that is one call of the core sends that call's frame. -/
theorem AbiCommand.commands_of_single (obs : Observes hal trace) (never : NeverFails hal)
    (entry : AbiCommand) (c : CoreCall) {writes : c.isWrite = true} {admitted : c.refused = false}
    (planned : entry.plan = .ok (.single c writes admitted)) (s : σ) :
    (entry.run (some hal) s).1 = Hal.ok ∧
      commands (emitted trace (entry.run (some hal)) s) = [c.wire.bytes] := by
  obtain ⟨returned, session⟩ := AbiCommand.run_of_neverFails obs never entry _ planned s
  exact ⟨returned, session.commands_eq⟩

namespace AbiCommand

theorem plan_positive {arg : Int32} (positive : 0 < arg) :
    (setRfFrequency arg).plan = .ok (.single (.setRfFrequency arg.toUInt32) rfl rfl) :=
  if_neg (Int32.not_le.mpr positive)

theorem plan_not_positive {arg : Int32} (notPositive : arg ≤ 0) :
    (setRfFrequency arg).plan = .error Flrc.errParam :=
  if_pos notPositive

end AbiCommand

/-- The guard of the entry point leaves the carriers with the top bit to no argument. -/
theorem carrier_iff (obs : Observes hal trace) (never : NeverFails hal) (s : σ) (hz : UInt32)
    (positive : 1 ≤ hz) :
    (∃ arg, SendsAs hal trace s (.setRfFrequency arg) (.setRfFrequency hz)) ↔
      hz.toNat < 2 ^ 31 := by
  have core := CoreCall.commands_of_isWrite obs never (.setRfFrequency hz) rfl rfl s
  constructor
  · rintro ⟨arg, same⟩
    rw [SendsAs, core] at same
    by_cases admitted : 0 < arg
    · rw [(AbiCommand.commands_of_single obs never _ _ (AbiCommand.plan_positive admitted) s).2,
        List.cons.injEq, CoreCall.bytes_eq_iff _ _ rfl rfl] at same
      have carrier : arg.toUInt32 = hz := CoreCall.setRfFrequency.inj same.1
      have value := toNat_toUInt32_of_nonneg arg (Int32.le_of_lt admitted)
      have upper := arg.toInt_lt
      rw [← carrier]
      omega
    · rw [AbiCommand.commands_of_error _
        (AbiCommand.plan_not_positive (Int32.not_lt.mp admitted))] at same
      exact absurd same (List.cons_ne_nil _ _).symm
  · intro small
    refine ⟨hz.toInt32, ?_⟩
    have admitted : 0 < hz.toInt32 := by
      have lower : 1 ≤ hz.toNat := UInt32.le_iff_toNat_le.mp positive
      rw [Int32.lt_iff_toInt_lt, toInt_toInt32_of_lt hz small]
      change (0 : Int) < hz.toNat
      omega
    rw [SendsAs, core,
      (AbiCommand.commands_of_single obs never _ _ (AbiCommand.plan_positive admitted) s).2]
    rfl

/-- The two interrupt masks pass through: every word is reached. -/
theorem masks_reached (obs : Observes hal trace) (never : NeverFails hal) (s : σ) (dio : UInt8)
    (irq : UInt32) :
    SendsAs hal trace s (.setDioIrqConfig (ofU8 dio) irq.toInt32) (.setDioIrqConfig dio irq) ∧
      SendsAs hal trace s (.clearIrq irq.toInt32) (.clearIrq irq) := by
  constructor
  · rw [SendsAs, (AbiCommand.commands_of_single obs never (.setDioIrqConfig _ _) _ rfl s).2,
      CoreCall.commands_of_isWrite obs never _ rfl rfl s, asU8_ofU8]
    rfl
  · rw [SendsAs, (AbiCommand.commands_of_single obs never (.clearIrq _) _ rfl s).2,
      CoreCall.commands_of_isWrite obs never _ rfl rfl s]
    rfl

/-- A carrier that was accepted is the one in the frame. -/
theorem carrier_decodes (obs : Observes hal trace) (never : NeverFails hal) (s : σ) (arg : Int32)
    (returned : (Ffi.lr2021SetRfFrequency (some hal) arg s).1 = Hal.ok) :
    ∃ bytes, commands (emitted trace (Ffi.lr2021SetRfFrequency (some hal) arg) s) =
        [frame cmdSetRfFrequency bytes] ∧ bytes.length = 4 ∧ (decode bytes : Int) = arg.toInt := by
  by_cases admitted : 0 < arg
  · refine ⟨bytes32 arg.toUInt32,
      (AbiCommand.commands_of_single obs never _ _ (AbiCommand.plan_positive admitted) s).2,
      rfl, ?_⟩
    rw [decode_bytes32]
    exact toNat_toUInt32_of_nonneg arg (Int32.le_of_lt admitted)
  · rw [Ffi.lr2021SetRfFrequency, if_pos (Int32.not_lt.mp admitted), pure_apply] at returned
    cases returned

end Bus

/-- A carrier can be set through the C ABI exactly when it fits 31 bits, so none of the
2.4 GHz band can, whereas every interrupt mask is reached; and a carrier that is accepted is
the one in the frame. -/
theorem carrier_reached_iff {σ : Type} {hal : Hal (StateM σ)} {trace : σ → List Ev}
    (obs : Observes hal trace) (never : NeverFails hal) (s : σ) (hz : UInt32)
    (positive : 1 ≤ hz) :
    commands (emitted trace (Radio.setRfFrequency hal hz).run s) =
        [frame 0x0200 (encode 4 hz.toNat)] ∧
    ((∃ arg, SendsAs hal trace s (.setRfFrequency arg) (.setRfFrequency hz)) ↔
      hz.toNat < 2 ^ 31) ∧
    (∀ dio irq, ∃ dioArg irqArg,
      SendsAs hal trace s (.setDioIrqConfig dioArg irqArg) (.setDioIrqConfig dio irq)) ∧
    (∀ irq, ∃ arg, SendsAs hal trace s (.clearIrq arg) (.clearIrq irq)) ∧
    ∀ arg, (Ffi.lr2021SetRfFrequency (some hal) arg s).1 = Hal.ok →
      ∃ bytes, commands (emitted trace (Ffi.lr2021SetRfFrequency (some hal) arg) s) =
          [frame cmdSetRfFrequency bytes] ∧
        bytes.length = 4 ∧ (decode bytes : Int) = arg.toInt := by
  refine ⟨?_, carrier_iff obs never s hz positive, ?_, ?_, carrier_decodes obs never s⟩
  · rw [← bytes32_eq]
    exact CoreCall.commands_of_isWrite obs never (.setRfFrequency hz) rfl rfl s
  · intro dio irq
    exact ⟨_, _, (masks_reached obs never s dio irq).1⟩
  · intro irq
    exact ⟨_, (masks_reached obs never s 0 irq).2⟩

/-- 868.1 MHz can be set. -/
theorem carrier_reached_iff_rig :
    ∃ arg, SendsAs Mock.hal Mock.log (Mock.fresh []) (.setRfFrequency arg)
      (.setRfFrequency 868100000) := by
  obtain ⟨-, reached, -⟩ :=
    carrier_reached_iff Mock.observes Mock.neverFails (Mock.fresh []) 868100000 (by decide)
  exact reached.mpr (by decide)

/-- 2.45 GHz cannot. -/
theorem high_band_not_reached :
    ¬∀ hz : UInt32, 1 ≤ hz → ∃ arg, SendsAs Mock.hal Mock.log (Mock.fresh [])
      (.setRfFrequency arg) (.setRfFrequency hz) := by
  intro claimed
  have small := (carrier_iff Mock.observes Mock.neverFails (Mock.fresh []) 2450000000
    (by decide)).mp (claimed 2450000000 (by decide))
  exact absurd small (by decide)

end Lr2021
