import Lr2021.Ffi
import Lr2021.Script

set_option autoImplicit false

namespace Lr2021

open Cmd Flrc FixedWidth TraceLogic

/-- Writing calls, at least one, whose arguments the core lets through: a series it can
only fail to send, not refuse. -/
structure Script where
  calls : List CoreCall
  nonempty : calls ≠ []
  writes : ∀ c ∈ calls, c.isWrite = true
  admitted : Admitted calls

namespace Script

def single (c : CoreCall) (writes : c.isWrite = true) (admitted : c.refused = false) : Script where
  calls := [c]
  nonempty := List.cons_ne_nil _ _
  writes := List.forall_mem_singleton.mpr writes
  admitted := List.forall_mem_singleton.mpr admitted

/-- A call that the core checks itself. -/
def checked (c : CoreCall) (writes : c.isWrite = true) : Except Int32 Script :=
  if admitted : c.refused = false then .ok (single c writes admitted) else .error Hal.errBuffer

/-- The command frames of a series. -/
def frames (script : Script) : List (List UInt8) := script.calls.map fun c => c.wire.bytes

theorem frames_ne_nil (script : Script) : script.frames ≠ [] :=
  fun empty => script.nonempty (List.map_eq_nil_iff.mp empty)

/-- The three commands of a transmit power that has a row. -/
def powerCalls (dbm : Int8) (ramp : UInt8)
    (admitted : Radio.lfPowerMin ≤ dbm ∧ dbm ≤ Radio.lfPowerMax) : List CoreCall :=
  let entry := Radio.paLfTable.get ⟨Radio.paLfRow dbm, Radio.paLfRow_lt dbm admitted⟩
  [.selPa paLf,
    .setPaConfig paLf paLfModeFsm entry.dutyCycle entry.slices paHfDutyCycleUnused,
    .setTxParams entry.val ramp]

def power (dbm : Int8) (ramp : UInt8) : Except Int32 Script :=
  if admitted : Radio.lfPowerMin ≤ dbm ∧ dbm ≤ Radio.lfPowerMax then
    .ok {
      calls := powerCalls dbm ramp admitted
      nonempty := List.cons_ne_nil _ _
      writes := by
        simp only [powerCalls, List.forall_mem_cons]
        exact ⟨rfl, rfl, rfl, List.forall_mem_nil _⟩
      admitted := by
        simp only [powerCalls, Admitted, List.forall_mem_cons]
        exact ⟨rfl, rfl, rfl, List.forall_mem_nil _⟩ }
  else .error Hal.errBuffer

/-- The four commands of an RF switch, two for each pin. -/
def rfSwitch (txDio txPull rxDio rxPull : UInt8) : Script where
  calls := [.setDioFunction txDio (dioFunctionRfSwitch ||| txPull),
    .setDioRfSwitchConfig txDio rfSwTx,
    .setDioFunction rxDio (dioFunctionRfSwitch ||| rxPull),
    .setDioRfSwitchConfig rxDio rfSwRx]
  nonempty := List.cons_ne_nil _ _
  writes := by
    simp only [List.forall_mem_cons]
    exact ⟨rfl, rfl, rfl, rfl, List.forall_mem_nil _⟩
  admitted := by
    simp only [Admitted, List.forall_mem_cons]
    exact ⟨rfl, rfl, rfl, rfl, List.forall_mem_nil _⟩

theorem checked_ok {c : CoreCall} {writes : c.isWrite = true} {script : Script}
    (passed : checked c writes = .ok script) : c.refused = false ∧ script.calls = [c] := by
  unfold checked at passed
  split at passed
  · rename_i admitted
    cases passed
    exact ⟨admitted, rfl⟩
  · cases passed

theorem checked_error {c : CoreCall} {writes : c.isWrite = true} {e : Int32}
    (failed : checked c writes = .error e) : e = Hal.errBuffer := by
  unfold checked at failed
  split at failed <;> cases failed
  rfl

theorem power_ok {dbm : Int8} {ramp : UInt8} {script : Script}
    (passed : power dbm ramp = .ok script) :
    ∃ admitted, script.calls = powerCalls dbm ramp admitted := by
  unfold power at passed
  split at passed
  · rename_i admitted
    cases passed
    exact ⟨admitted, rfl⟩
  · cases passed

theorem power_error {dbm : Int8} {ramp : UInt8} {e : Int32}
    (failed : power dbm ramp = .error e) : e = Hal.errBuffer := by
  unfold power at failed
  split at failed <;> cases failed
  rfl

end Script

/-- The entry points of the C ABI that send commands, with the arguments they take. -/
inductive AbiCommand where
  | clearErrors
  | setStandby (mode : Int32)
  | setFs
  | setSleep (config wakeupTicks : Int32)
  | activatePram
  | calibrate (blocks : Int32)
  | setDioFunction (dio function : Int32)
  | setDioRfSwitchConfig (dio modes : Int32)
  | setRfSwitch (txDio txPull rxDio rxPull : Int32)
  | setRfFrequency (hz : Int32)
  | setPacketType (packetType : Int32)
  | setRxPath (path boost : Int32)
  | setPowerDbm (dbm ramp : Int32)
  | setRx (timeout : Int32)
  | setTx (timeout : Int32)
  | setDioIrqConfig (dio irq : Int32)
  | clearIrq (irq : Int32)
  | writeTxFifo (data : Option (Nat → UInt8)) (len : Int32)
  | clearRxFifo
  | clearTxFifo
  | loraSetModulationParams (sf bw cr ldro highBand : Int32)
  | loraSetPacketParams (preambleLen headerType payloadLen crc invertIq : Int32)
  | loraSetSyncWord (syncWord : Int32)
  | loraSetSynchTimeout (symbols mantExp : Int32)
  | resetRxStats
  | loraSetCadParams (symNum preambleOnly pnrDelta exitMode timeout detPeak : Int32)
  | loraSetCad

namespace AbiCommand

variable {m : Type → Type} [Monad m]

/-- The entry point itself. -/
def run (hal : Option (Hal m)) : AbiCommand → m Int32
  | clearErrors => Ffi.lr2021ClearErrors hal
  | setStandby mode => Ffi.lr2021SetStandby hal mode
  | setFs => Ffi.lr2021SetFs hal
  | setSleep config wakeupTicks => Ffi.lr2021SetSleep hal config wakeupTicks
  | activatePram => Ffi.lr2021ActivatePram hal
  | calibrate blocks => Ffi.lr2021Calibrate hal blocks
  | setDioFunction dio function => Ffi.lr2021SetDioFunction hal dio function
  | setDioRfSwitchConfig dio modes => Ffi.lr2021SetDioRfSwitchConfig hal dio modes
  | setRfSwitch txDio txPull rxDio rxPull =>
      Ffi.lr2021SetRfSwitch hal txDio txPull rxDio rxPull
  | setRfFrequency hz => Ffi.lr2021SetRfFrequency hal hz
  | setPacketType packetType => Ffi.lr2021SetPacketType hal packetType
  | setRxPath path boost => Ffi.lr2021SetRxPath hal path boost
  | setPowerDbm dbm ramp => Ffi.lr2021SetPowerDbm hal dbm ramp
  | setRx timeout => Ffi.lr2021SetRx hal timeout
  | setTx timeout => Ffi.lr2021SetTx hal timeout
  | setDioIrqConfig dio irq => Ffi.lr2021SetDioIrqConfig hal dio irq
  | clearIrq irq => Ffi.lr2021ClearIrq hal irq
  | writeTxFifo data len => Ffi.lr2021WriteTxFifo hal data len
  | clearRxFifo => Ffi.lr2021ClearRxFifo hal
  | clearTxFifo => Ffi.lr2021ClearTxFifo hal
  | loraSetModulationParams sf bw cr ldro highBand =>
      Ffi.lr2021LoraSetModulationParams hal sf bw cr ldro highBand
  | loraSetPacketParams preambleLen headerType payloadLen crc invertIq =>
      Ffi.lr2021LoraSetPacketParams hal preambleLen headerType payloadLen crc invertIq
  | loraSetSyncWord syncWord => Ffi.lr2021LoraSetSyncWord hal syncWord
  | loraSetSynchTimeout symbols mantExp => Ffi.lr2021LoraSetSynchTimeout hal symbols mantExp
  | resetRxStats => Ffi.lr2021ResetRxStats hal
  | loraSetCadParams symNum preambleOnly pnrDelta exitMode timeout detPeak =>
      Ffi.lr2021LoraSetCadParams hal symNum preambleOnly pnrDelta exitMode timeout detPeak
  | loraSetCad => Ffi.lr2021LoraSetCad hal

/-- What an entry point does with its arguments before it has a host to talk to: refuse
them with a code, or turn them into a series of core calls. -/
def plan : AbiCommand → Except Int32 Script
  | clearErrors => .ok (.single .clearErrors rfl rfl)
  | setStandby mode => .ok (.single (.setStandby (asU8 mode)) rfl rfl)
  | setFs => .ok (.single .setFs rfl rfl)
  | setSleep config wakeupTicks =>
      .ok (.single (.setSleep (asU8 config) wakeupTicks.toUInt32) rfl rfl)
  | activatePram => .ok (.single .activatePram rfl rfl)
  | calibrate blocks => .ok (.single (.calibrate (asU8 blocks)) rfl rfl)
  | setDioFunction dio function =>
      .ok (.single (.setDioFunction (asU8 dio) (asU8 function)) rfl rfl)
  | setDioRfSwitchConfig dio modes =>
      .ok (.single (.setDioRfSwitchConfig (asU8 dio) (asU8 modes)) rfl rfl)
  | setRfSwitch txDio txPull rxDio rxPull =>
      .ok (.rfSwitch (asU8 txDio) (asU8 txPull) (asU8 rxDio) (asU8 rxPull))
  | setRfFrequency hz =>
      if hz ≤ 0 then .error errParam else .ok (.single (.setRfFrequency hz.toUInt32) rfl rfl)
  | setPacketType packetType => .ok (.single (.setPacketType (asU8 packetType)) rfl rfl)
  | setRxPath path boost => .ok (.single (.setRxPath (asU8 path) (asU8 boost)) rfl rfl)
  | setPowerDbm dbm ramp =>
      if ¬(-128 ≤ dbm ∧ dbm ≤ 127) then .error errParam else Script.power dbm.toInt8 (asU8 ramp)
  | setRx timeout =>
      if timeout < 0 then .error errParam else Script.checked (.setRx timeout.toUInt32) rfl
  | setTx timeout =>
      if timeout < 0 then .error errParam else Script.checked (.setTx timeout.toUInt32) rfl
  | setDioIrqConfig dio irq =>
      .ok (.single (.setDioIrqConfig (asU8 dio) irq.toUInt32) rfl rfl)
  | clearIrq irq => .ok (.single (.clearIrq irq.toUInt32) rfl rfl)
  | writeTxFifo none _ => .error errParam
  | writeTxFifo (some memory) len =>
      if len < 0 then .error errParam
      else Script.checked (.writeTxFifo (Ffi.fromRawParts memory len.toInt.toNat).toList) rfl
  | clearRxFifo => .ok (.single .clearRxFifo rfl rfl)
  | clearTxFifo => .ok (.single .clearTxFifo rfl rfl)
  | loraSetModulationParams sf bw cr ldro highBand =>
      if ¬(0 ≤ sf ∧ sf ≤ 0xFF) ∨ ¬(0 ≤ bw ∧ bw ≤ 0xFF) ∨ ¬(0 ≤ cr ∧ cr ≤ 0xFF) then
        .error errParam
      else Script.checked
        (.setModulationParams (asU8 sf) (asU8 bw) (asU8 cr) (asU8 ldro) (highBand != 0)) rfl
  | loraSetPacketParams preambleLen headerType payloadLen crc invertIq =>
      if ¬(0 ≤ preambleLen ∧ preambleLen ≤ 0xFFFF) ∨ ¬(0 ≤ payloadLen ∧ payloadLen ≤ 0xFF) then
        .error errParam
      else .ok (.single (.setPacketParams (asU16 preambleLen) (asU8 headerType)
        (asU8 payloadLen) (asU8 crc) (asU8 invertIq)) rfl rfl)
  | loraSetSyncWord syncWord => .ok (.single (.setSyncWord (asU8 syncWord)) rfl rfl)
  | loraSetSynchTimeout symbols mantExp =>
      .ok (.single (.setSynchTimeout (asU8 symbols) (mantExp != 0)) rfl rfl)
  | resetRxStats => .ok (.single .resetRxStats rfl rfl)
  | loraSetCadParams symNum preambleOnly pnrDelta exitMode timeout detPeak =>
      if timeout < 0 then .error errParam
      else Script.checked (.setCadParams (asU8 symNum) (preambleOnly != 0) (asU8 pnrDelta)
        (asU8 exitMode) timeout.toUInt32 (asU8 detPeak)) rfl
  | loraSetCad => .ok (.single .setCad rfl rfl)

/-- What is done with a plan once there is a host. -/
def execute (hal : Hal m) : Except Int32 Script → m Int32
  | .error e => pure e
  | .ok script => Ffi.statusOf <$> (perform hal script.calls).run

/-- A check at the boundary comes before the plan it guards. -/
theorem execute_guard (hal : Hal m) (bad : Prop) [Decidable bad] {planned : Except Int32 Script}
    {call : m Int32} (executes : execute hal planned = call) :
    execute hal (if bad then .error errParam else planned) =
      if bad then pure errParam else call := by
  split
  · rfl
  · exact executes

variable [LawfulMonad m]

theorem execute_single (hal : Hal m) (c : CoreCall) (writes : c.isWrite = true)
    (admitted : c.refused = false) :
    execute hal (.ok (.single c writes admitted)) = Ffi.statusOf <$> c.run hal := by
  rw [execute, Script.single, perform_last]
  rfl

theorem execute_checked (hal : Hal m) (c : CoreCall) (writes : c.isWrite = true) :
    execute hal (Script.checked c writes) = Ffi.statusOf <$> c.run hal := by
  rw [Script.checked]
  split
  · exact execute_single hal c writes _
  · rename_i isRefused
    rw [CoreCall.run_of_isWrite hal c writes, if_pos (Bool.not_eq_false _ ▸ isRefused), map_pure]
    rfl

/-- An admitted power is set by its three commands. -/
theorem setPowerDbm_eq (hal : Hal m) (dbm : Int8) (ramp : UInt8)
    (admitted : Radio.lfPowerMin ≤ dbm ∧ dbm ≤ Radio.lfPowerMax) :
    Radio.setPowerDbm hal dbm ramp = perform hal (Script.powerCalls dbm ramp admitted) := by
  rw [Radio.setPowerDbm, dif_pos admitted]
  simp only [Script.powerCalls, perform_cons, perform_last]
  rfl

theorem setRfSwitch_eq (hal : Hal m) (txDio txPull rxDio rxPull : UInt8) :
    System.setRfSwitch hal txDio txPull rxDio rxPull =
      perform hal (Script.rfSwitch txDio txPull rxDio rxPull).calls := by
  simp only [Script.rfSwitch, perform_cons, perform_last]
  rfl

theorem execute_power (hal : Hal m) (dbm : Int8) (ramp : UInt8) :
    execute hal (Script.power dbm ramp) =
      Ffi.statusOf <$> (Radio.setPowerDbm hal dbm ramp).run := by
  by_cases admitted : Radio.lfPowerMin ≤ dbm ∧ dbm ≤ Radio.lfPowerMax
  · rw [Script.power, dif_pos admitted, setPowerDbm_eq hal dbm ramp admitted]
    rfl
  · rw [Script.power, dif_neg admitted, Radio.setPowerDbm, dif_neg admitted]
    change _ = Ffi.statusOf <$> pure (Except.error Hal.errBuffer)
    rw [map_pure]
    rfl

theorem execute_rfSwitch (hal : Hal m) (txDio txPull rxDio rxPull : UInt8) :
    execute hal (.ok (.rfSwitch txDio txPull rxDio rxPull)) =
      Ffi.statusOf <$> (System.setRfSwitch hal txDio txPull rxDio rxPull).run := by
  rw [setRfSwitch_eq]
  rfl

/-- Every sending entry point is its plan, executed: the checks are all over before the
host is first asked for anything. -/
theorem run_eq (hal : Hal m) (c : AbiCommand) : c.run (some hal) = execute hal c.plan := by
  symm
  cases c with
  | setRfSwitch => exact execute_rfSwitch hal _ _ _ _
  | setRfFrequency | loraSetPacketParams => exact execute_guard hal _ (execute_single hal _ _ _)
  | setPowerDbm => exact execute_guard hal _ (execute_power hal _ _)
  | setRx | setTx | loraSetModulationParams | loraSetCadParams =>
    exact execute_guard hal _ (execute_checked hal _ _)
  | writeTxFifo data len =>
    cases data with
    | none => rfl
    | some memory => exact execute_guard hal _ (execute_checked hal _ _)
  | _ => exact execute_single hal _ _ _

/-- The two codes of a refusal. -/
theorem plan_error {c : AbiCommand} {e : Int32} (refused : c.plan = .error e) :
    e = errParam ∨ e = Hal.errBuffer := by
  cases c with
  | setPowerDbm dbm ramp =>
    simp only [plan] at refused
    split at refused
    · cases refused
      exact Or.inl rfl
    · exact Or.inr (Script.power_error refused)
  | writeTxFifo data len =>
    cases data with
    | none => cases refused; exact Or.inl rfl
    | some memory =>
      simp only [plan] at refused
      split at refused
      · cases refused
        exact Or.inl rfl
      · exact Or.inr (Script.checked_error refused)
  | setRfFrequency | loraSetPacketParams =>
    simp only [plan] at refused
    split at refused <;> cases refused
    exact Or.inl rfl
  | setRx | setTx | loraSetModulationParams | loraSetCadParams =>
    simp only [plan] at refused
    split at refused
    · cases refused
      exact Or.inl rfl
    · exact Or.inr (Script.checked_error refused)
  | _ => cases refused

section Trace

variable {σ : Type} {hal : Hal (StateM σ)} {trace : σ → List Ev}

/-- An entry point that is not refused works off its plan. -/
theorem run_emits (obs : Observes hal trace) (c : AbiCommand) (script : Script)
    (planned : c.plan = .ok script) :
    Emits trace (c.run (some hal)) fun rc events =>
      ∃ r, rc = Ffi.statusOf r ∧ Session script.frames r.isOk events := by
  rw [run_eq, planned]
  exact (perform_emits obs script.calls script.admitted).map _

/-- A refused entry point puts nothing on the bus. -/
theorem commands_of_error (c : AbiCommand) {e : Int32} (refused : c.plan = .error e) (s : σ) :
    commands (emitted trace (c.run (some hal)) s) = [] := by
  rw [run_eq, refused, execute, emitted, pure_apply, List.drop_length]
  rfl

/-- On a transport that never fails, the return code says which plan there was, and the
frames of the plan are what the log has in it. -/
theorem run_of_neverFails (obs : Observes hal trace) (never : NeverFails hal) (c : AbiCommand)
    (script : Script) (planned : c.plan = .ok script) (s : σ) :
    (c.run (some hal) s).1 = Hal.ok ∧
      Session script.frames true (emitted trace (c.run (some hal)) s) := by
  have sent := perform_ok never script.calls script.admitted script.writes s
  have session := ((perform_emits obs script.calls script.admitted).emitted s).2
  rw [sent] at session
  have same : c.run (some hal) = Ffi.statusOf <$> (perform hal script.calls).run := by
    rw [run_eq, planned, execute]
  rw [same]
  refine ⟨?_, session⟩
  rw [map_apply, sent]
  rfl

end Trace
end AbiCommand
end Lr2021
