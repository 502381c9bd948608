import Lr2021.EntryPoint
import Lr2021.Shim

set_option autoImplicit false

/-! One `i32` for the errors and the results: its sign tells them apart. -/
namespace Lr2021

open Cmd Flrc FixedWidth BigEndian OutcomeLogic

/-- The error codes of the transport are negative, like those of the driver. -/
structure NegativeErrors {σ : Type} (hal : Hal (StateM σ)) : Prop where
  waitBusy : Ends (· < 0) (fun _ => True) hal.waitBusy
  select : ∀ level, Ends (· < 0) (fun _ => True) (hal.select level)
  write : ∀ bytes, Ends (· < 0) (fun _ => True) (hal.write bytes)
  read : ∀ {n : Nat} (out : Vector UInt8 n) s, Allowed (· < 0) (fun _ => True) (hal.read out s).1.1
  writeCmd : ∀ opcode params, Ends (· < 0) (fun _ => True) (hal.writeCmd opcode params)
  readCmd : ∀ {n : Nat} status opcode params (out : Vector UInt8 n) s,
    Allowed (· < 0) (fun _ => True) (hal.readCmd status opcode params out s).1.1
  getStatus : Ends (· < 0) (fun _ => True) hal.getStatus

section Bounds

variable {σ : Type} {hal : Hal (StateM σ)}

theorem checkStatus_allowed (stat : UInt8) :
    Allowed (· < 0) (fun _ => True) (Xfer.checkStatus stat) := by
  unfold Xfer.checkStatus
  split
  · exact (by decide : Hal.errNoChip < 0)
  · exact trivial

theorem readReply_ends (negative : NegativeErrors hal) {n : Nat} {α : Type} (opcode : UInt16)
    (decode : Vector UInt8 n → α) :
    Ends (· < 0) (fun _ => True) (Xfer.readReply hal opcode decode) := by
  intro s
  have reply := negative.readCmd 2 opcode [] (Vector.replicate n 0) s
  rw [Xfer.readReply_run, TraceLogic.map_apply, Xfer.accept]
  cases outcome : (hal.readCmd 2 opcode [] (Vector.replicate n 0) s).1.1 with
  | error e =>
    rw [outcome] at reply
    exact reply
  | ok status =>
    dsimp only
    split
    · exact (by decide : Hal.errNoChip < 0)
    · exact trivial

/-- A read with the result that its value stands for. -/
theorem resultOf_ends (negative : NegativeErrors hal) {n : Nat} {α : Type} {opcode : UInt16}
    {decode : Vector UInt8 n → α} {result : α → Int} (fits : ∀ v, Fits (result v)) :
    Ends (· < 0) Fits (result <$> Xfer.readReply hal opcode decode) :=
  (readReply_ends negative opcode decode).map fun v _ => fits v

theorem read_ends (negative : NegativeErrors hal) (which : StatusRead) :
    Ends (· < 0) Fits (which.core hal) := by
  have none_fits : Fits 0 := fits_natCast 0 (by decide)
  cases which with
  | getStatus =>
    apply negative.getStatus.bind
    intro status _
    exact (Ends.lift (checkStatus_allowed status.1)).bind fun _ _ => Ends.pure none_fits
  | getVersion | getRandomNumber | loraGetPacketStatus | loraGetRxStats =>
    exact resultOf_ends negative fun _ => none_fits
  | getErrors | getRssiInst | getRxFifoLevel | getTxFifoLevel =>
    exact resultOf_ends negative fits_u16
  | getPacketType => exact resultOf_ends negative fits_u8
  | getAndClearIrqStatus =>
    apply resultOf_ends negative
    intro irq
    unfold Fits
    omega

theorem concludeFifo_allowed (negative : NegativeErrors hal) {r : Except Int32 Unit}
    (transferred : Allowed (· < 0) (fun _ => True) r) {n : Nat} (out : Vector UInt8 n) (s : σ) :
    Allowed (· < 0) (fun _ => True) (Xfer.concludeFifo hal r out s).1.1 := by
  have deselected := negative.select 1 s
  rw [Xfer.concludeFifo, TraceLogic.bind_apply]
  cases r with
  | error e => exact transferred
  | ok _ =>
    cases outcome : ((hal.select 1).run s).1 with
    | error e =>
      rw [outcome] at deselected
      exact deselected
    | ok _ => exact negative.waitBusy _

/-- Whichever step fails, the error that is returned is one of the transport's. -/
theorem readFifo_allowed (negative : NegativeErrors hal) (opcode : UInt16) {n : Nat}
    (out : Vector UInt8 n) (s : σ) :
    Allowed (· < 0) (fun _ => True) (Xfer.readFifo hal opcode out s).1.1 := by
  have ready := negative.waitBusy s
  rw [Xfer.readFifo_eq, TraceLogic.bind_apply]
  cases busy : (hal.waitBusy.run s).1 with
  | error e =>
    rw [busy] at ready
    exact ready
  | ok _ =>
    generalize (hal.waitBusy.run s).2 = s
    have selected := negative.select 0 s
    dsimp only
    rw [TraceLogic.bind_apply]
    cases select : ((hal.select 0).run s).1 with
    | error e =>
      rw [select] at selected
      exact selected
    | ok _ =>
      generalize ((hal.select 0).run s).2 = s
      have written := negative.write (frame opcode []) s
      dsimp only
      rw [TraceLogic.bind_apply]
      cases write : ((hal.write (frame opcode [])).run s).1 with
      | error e =>
        rw [write] at written
        exact concludeFifo_allowed negative written out _
      | ok _ => exact concludeFifo_allowed negative (negative.read out _) _ _

theorem readRxFifo_allowed (negative : NegativeErrors hal) {n : Nat} (out : Vector UInt8 n)
    (s : σ) : Allowed (· < 0) (fun _ => True) (Radio.readRxFifo hal out s).1.1 := by
  unfold Radio.readRxFifo
  split
  · exact (by decide : Hal.errBuffer < 0)
  · exact readFifo_allowed negative _ out s

theorem timeoutBytes_allowed (timeout : UInt32) :
    Allowed (· < 0) (fun _ => True) (Radio.timeoutBytes timeout) := by
  unfold Radio.timeoutBytes
  split
  · exact (by decide : Hal.errBuffer < 0)
  · exact trivial

theorem validate_allowed (sf bw cr : UInt8) (highBand : Bool) :
    Allowed (· < 0) (fun _ => True) (Lora.validate sf bw cr highBand) := by
  cases outcome : Lora.validate sf bw cr highBand with
  | error e =>
    rw [Lora.validate_error outcome]
    exact (by decide : Hal.errBuffer < 0)
  | ok _ => exact trivial

/-- A core operation fails with a code of its own or with one of the transport. -/
theorem core_ends (negative : NegativeErrors hal) (command : AbiCommand) :
    Ends (· < 0) (fun _ => True) (command.core hal) := by
  have sends (opcode : UInt16) (params : List UInt8) := negative.writeCmd opcode params
  have refused : Hal.errBuffer < 0 := by decide
  cases command with
  | setRfSwitch =>
    apply (sends _ _).bind
    intro _ _
    apply (sends _ _).bind
    intro _ _
    exact (sends _ _).bind fun _ _ => sends _ _
  | setPowerDbm =>
    rw [AbiCommand.core, Radio.setPowerDbm]
    split
    · exact (sends _ _).bind fun _ _ => (sends _ _).bind fun _ _ => sends _ _
    · exact Ends.throw refused
  | setRx | setTx => exact (Ends.lift (timeoutBytes_allowed _)).bind fun params _ => sends _ params
  | writeTxFifo data len =>
    cases data with
    | none => exact Ends.throw (by decide : errParam < 0)
    | some memory =>
      rw [AbiCommand.core, Radio.writeTxFifo]
      split
      · exact Ends.throw refused
      · exact sends _ _
  | loraSetModulationParams =>
    exact (Ends.lift (validate_allowed _ _ _ _)).bind fun _ _ => sends _ _
  | loraSetCadParams =>
    rw [AbiCommand.core, Lora.setCadParams]
    split
    · exact Ends.throw refused
    · exact sends _ _
  | _ => exact sends _ _

theorem argumentCheck_allowed (command : AbiCommand) :
    Allowed (· < 0) (fun _ => True) command.argumentCheck := by
  cases command with
  | setRfFrequency | setPowerDbm | setRx | setTx | loraSetModulationParams | loraSetPacketParams
  | loraSetCadParams => exact (refuseIf_allowed _).mono fun _ _ => trivial
  | writeTxFifo data len =>
    cases data with
    | none => exact (by decide : errParam < 0)
    | some memory => exact (refuseIf_allowed _).mono fun _ _ => trivial
  | _ => exact trivial

theorem resolve_allowed (hal : Option (Hal (StateM σ))) :
    Allowed (· < 0) (fun h => hal = some h) (resolve hal) := by
  cases hal with
  | none => exact (by decide : Hal.errNullHal < 0)
  | some h => exact rfl

/-- Errors are negative and results fit, whatever the entry point. -/
theorem outcome_ends {hal : Option (Hal (StateM σ))}
    (negative : ∀ h, hal = some h → NegativeErrors h) (entry : EntryPoint) :
    Ends (· < 0) Fits (entry.outcome hal) := by
  have none_fits : Fits 0 := fits_natCast 0 (by decide)
  cases entry with
  | calculate calculation => exact Ends.lift calculation.outcome_allowed
  | waitReady =>
    apply (Ends.lift (resolve_allowed hal)).bind
    intro h resolved
    exact (negative h resolved).waitBusy.bind fun _ _ => Ends.pure none_fits
  | send command =>
    apply (Ends.lift (argumentCheck_allowed command)).bind
    intro _ _
    apply (Ends.lift (resolve_allowed hal)).bind
    intro h resolved
    exact (core_ends (negative h resolved) command).bind fun _ _ => Ends.pure none_fits
  | read which out =>
    rw [EntryPoint.outcome]
    split
    · exact Ends.throw (by decide : Hal.errNullHal < 0)
    · exact (Ends.lift (resolve_allowed hal)).bind fun h resolved =>
        read_ends (negative h resolved) which
  | readRxFifo out len =>
    cases out with
    | none => exact Ends.throw (by decide : errParam < 0)
    | some memory =>
      apply (Ends.lift (refuseIf_allowed _)).bind
      intro _ _
      apply (Ends.lift (resolve_allowed hal)).bind
      intro h resolved
      exact (Ends.ofRun (readRxFifo_allowed (negative h resolved) _)).bind fun _ _ =>
        Ends.pure none_fits

end Bounds

/-- The sign of a return code separates an outcome that is an error from one that is a
result, and the code is that error or that result; the shim raises for the first and only
for the first. An interrupt vector that uses no more than 31 bits comes back as it is. -/
theorem sign_separates {σ : Type} {hal : Option (Hal (StateM σ))}
    (negative : ∀ h, hal = some h → NegativeErrors h) (entry : EntryPoint) (s : σ) :
    ((entry.returned hal s).2 = ((entry.outcome hal).run s).2 ∧
      match ((entry.outcome hal).run s).1 with
      | .error e => (entry.returned hal s).1 = e ∧ (entry.returned hal s).1 < 0 ∧
          (checkErr (entry.returned hal s).1).isOk = false
      | .ok v => (entry.returned hal s).1.toInt = v ∧ 0 ≤ (entry.returned hal s).1 ∧
          (checkErr (entry.returned hal s).1).isOk = true) ∧
    ∀ h irq, hal = some h → ((Radio.getAndClearIrqStatus h).run s).1 = .ok irq →
      irq.toNat < 2 ^ 31 → (Ffi.lr2021GetAndClearIrqStatus hal s).1.toInt = irq.toNat := by
  constructor
  · have allowed := outcome_ends negative entry s
    rw [returned_eq, TraceLogic.map_apply]
    refine ⟨rfl, ?_⟩
    cases outcome : ((entry.outcome hal).run s).1 with
    | error e =>
      rw [outcome] at allowed
      obtain ⟨raised, raises⟩ := checkErr_of_neg allowed
      exact ⟨rfl, allowed, congrArg Except.isOk raises⟩
    | ok v =>
      rw [outcome] at allowed
      have value := toInt_returnCode allowed
      have nonneg : 0 ≤ returnCode (.ok v) := by
        rw [Int32.le_iff_toInt_le, value]
        exact allowed.1
      exact ⟨value, nonneg, congrArg Except.isOk (checkErr_of_nonneg nonneg)⟩
  · rintro h irq rfl outcome small
    change (Ffi.valueOf _ ((Radio.getAndClearIrqStatus h).run s).1).toInt = _
    rw [outcome]
    exact (toInt_dropTop irq).trans (by omega)

theorem Mock.negativeErrors : NegativeErrors Mock.hal where
  waitBusy _ := trivial
  select _ _ := trivial
  write _ _ := trivial
  read _ _ := trivial
  writeCmd _ _ _ := trivial
  readCmd _ _ _ _ _ := trivial
  getStatus _ := trivial

/-- On a rig that answers with every bit of the interrupt vector set, what comes back is
the largest code there is. -/
theorem sign_separates_rig :
    let entry := EntryPoint.read .getAndClearIrqStatus none
    let rig := Mock.fresh [[0x80, 0x00], [0xFF, 0xFF, 0xFF, 0xFF]]
    (entry.returned (some Mock.hal) rig).1.toInt = 2 ^ 31 - 1 ∧
      0 ≤ (entry.returned (some Mock.hal) rig).1 := by
  obtain ⟨⟨-, value, nonneg, -⟩, -⟩ := @sign_separates _ (some Mock.hal)
    (fun h found => Option.some.inj found ▸ Mock.negativeErrors)
    (.read .getAndClearIrqStatus none) (Mock.fresh [[0x80, 0x00], [0xFF, 0xFF, 0xFF, 0xFF]])
  exact ⟨value, nonneg⟩

end Lr2021
