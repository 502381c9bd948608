import Lr2021.AbiCommand
import Lr2021.Calculation
import Lr2021.StatusReads

set_option autoImplicit false

/-! Every entry point of the C ABI, with the outcome that its return code stands for. -/
namespace Lr2021

open Cmd Flrc FixedWidth BigEndian

/-- Resolving the `Hal` pointer. -/
def resolve {m : Type → Type} : Option (Hal m) → Except Int32 (Hal m)
  | some h => .ok h
  | none => .error Hal.errNullHal

namespace AbiCommand

variable {m : Type → Type} [Monad m]

/-- What an entry point checks before it looks at the `Hal` pointer. -/
def argumentCheck : AbiCommand → Except Int32 Unit
  | setRfFrequency hz => refuseIf (hz ≤ 0)
  | setPowerDbm dbm _ => refuseIf (¬(-128 ≤ dbm ∧ dbm ≤ 127))
  | setRx timeout | setTx timeout | loraSetCadParams _ _ _ _ timeout _ => refuseIf (timeout < 0)
  | writeTxFifo none _ => .error errParam
  | writeTxFifo (some _) len => refuseIf (len < 0)
  | loraSetModulationParams sf bw cr _ _ =>
      refuseIf (¬(0 ≤ sf ∧ sf ≤ 0xFF) ∨ ¬(0 ≤ bw ∧ bw ≤ 0xFF) ∨ ¬(0 ≤ cr ∧ cr ≤ 0xFF))
  | loraSetPacketParams preambleLen _ payloadLen _ _ =>
      refuseIf (¬(0 ≤ preambleLen ∧ preambleLen ≤ 0xFFFF) ∨ ¬(0 ≤ payloadLen ∧ payloadLen ≤ 0xFF))
  | _ => .ok ()

/-- The core operation behind an entry point, on the arguments it is given. -/
def core (hal : Hal m) : AbiCommand → Fallible m Unit
  | clearErrors => System.clearErrors hal
  | setStandby mode => System.setStandby hal (asU8 mode)
  | setFs => System.setFs hal
  | setSleep config wakeupTicks => System.setSleep hal (asU8 config) wakeupTicks.toUInt32
  | activatePram => System.activatePram hal
  | calibrate blocks => System.calibrate hal (asU8 blocks)
  | setDioFunction dio function => System.setDioFunction hal (asU8 dio) (asU8 function)
  | setDioRfSwitchConfig dio modes => System.setDioRfSwitchConfig hal (asU8 dio) (asU8 modes)
  | setRfSwitch txDio txPull rxDio rxPull =>
      System.setRfSwitch hal (asU8 txDio) (asU8 txPull) (asU8 rxDio) (asU8 rxPull)
  | setRfFrequency hz => Radio.setRfFrequency hal hz.toUInt32
  | setPacketType packetType => Radio.setPacketType hal (asU8 packetType)
  | setRxPath path boost => Radio.setRxPath hal (asU8 path) (asU8 boost)
  | setPowerDbm dbm ramp => Radio.setPowerDbm hal dbm.toInt8 (asU8 ramp)
  | setRx timeout => Radio.setRx hal timeout.toUInt32
  | setTx timeout => Radio.setTx hal timeout.toUInt32
  | setDioIrqConfig dio irq => Radio.setDioIrqConfig hal (asU8 dio) irq.toUInt32
  | clearIrq irq => Radio.clearIrq hal irq.toUInt32
  | writeTxFifo none _ => throw errParam
  | writeTxFifo (some memory) len =>
      Radio.writeTxFifo hal (Ffi.fromRawParts memory len.toInt.toNat).toList
  | clearRxFifo => Radio.clearRxFifo hal
  | clearTxFifo => Radio.clearTxFifo hal
  | loraSetModulationParams sf bw cr ldro highBand =>
      Lora.setModulationParams hal (asU8 sf) (asU8 bw) (asU8 cr) (asU8 ldro) (highBand != 0)
  | loraSetPacketParams preambleLen headerType payloadLen crc invertIq =>
      Lora.setPacketParams hal (asU16 preambleLen) (asU8 headerType) (asU8 payloadLen) (asU8 crc)
        (asU8 invertIq)
  | loraSetSyncWord syncWord => Lora.setSyncWord hal (asU8 syncWord)
  | loraSetSynchTimeout symbols mantExp => Lora.setSynchTimeout hal (asU8 symbols) (mantExp != 0)
  | resetRxStats => Radio.resetRxStats hal
  | loraSetCadParams symNum preambleOnly pnrDelta exitMode timeout detPeak =>
      Lora.setCadParams hal (asU8 symNum) (preambleOnly != 0) (asU8 pnrDelta) (asU8 exitMode)
        timeout.toUInt32 (asU8 detPeak)
  | loraSetCad => Lora.setCad hal

end AbiCommand

namespace StatusRead

variable {m : Type → Type} [Monad m]

/-- The core operation behind a read, with its integer result. The interrupt vector comes
without its top bit; a read that stores into cells has none. -/
def core (hal : Hal m) : StatusRead → Fallible m Int
  | getStatus => do
      let (s1, _, _) ← hal.getStatus
      Xfer.checkStatus s1
      pure 0
  | getVersion => (fun _ => 0) <$> System.getVersion hal
  | getRandomNumber => (fun _ => 0) <$> System.getRandomNumber hal
  | getErrors => (fun errors => errors.toNat) <$> System.getErrors hal
  | getPacketType => (fun packetType => packetType.toNat) <$> Radio.getPacketType hal
  | getAndClearIrqStatus => (fun irq => irq.toNat % 2 ^ 31) <$> Radio.getAndClearIrqStatus hal
  | getRssiInst => (fun rssi => rssi.toNat) <$> Radio.getRssiInst hal
  | getRxFifoLevel => (fun level => level.toNat) <$> Radio.getRxFifoLevel hal
  | getTxFifoLevel => (fun level => level.toNat) <$> Radio.getTxFifoLevel hal
  | loraGetPacketStatus => (fun _ => 0) <$> Lora.getPacketStatus hal
  | loraGetRxStats => (fun _ => 0) <$> Lora.getRxStats hal

end StatusRead

/-- The entry points of the C ABI, with their arguments. -/
inductive EntryPoint where
  | calculate (calculation : Calculation)
  | waitReady
  | send (command : AbiCommand)
  | read (which : StatusRead) (out : Option (Vector Int32 which.cells))
  | readRxFifo (out : Option (Nat → UInt8)) (len : Int32)

namespace EntryPoint

variable {m : Type → Type} [Monad m]

/-- The return code. -/
def returned (hal : Option (Hal m)) : EntryPoint → m Int32
  | calculate calculation => pure calculation.run
  | waitReady => Ffi.lr2021WaitReady hal
  | send command => command.run hal
  | read which out => (·.1) <$> which.run hal out
  | readRxFifo out len => (·.1) <$> Ffi.lr2021ReadRxFifo hal out len

/-- What came of a call: the first of its checks to fail, or else the error or the result
of the core operation. -/
def outcome (hal : Option (Hal m)) : EntryPoint → Fallible m Int
  | calculate calculation => liftM calculation.outcome
  | waitReady => do
      let h ← resolve hal
      h.waitBusy
      pure 0
  | send command => do
      command.argumentCheck
      let h ← resolve hal
      command.core h
      pure 0
  | read which out =>
      if 0 < which.cells ∧ out.isNone then throw Hal.errNullHal
      else do
        let h ← resolve hal
        which.core h
  | readRxFifo none _ => throw errParam
  | readRxFifo (some memory) len => do
      refuseIf (len < 0)
      let h ← resolve hal
      ExceptT.mk ((·.1) <$> Radio.readRxFifo h (Ffi.fromRawParts memory len.toInt.toNat))
      pure 0

end EntryPoint

section Encodes

variable {m : Type → Type} [Monad m] [LawfulMonad m] {α : Type}

theorem returnCode_map (f : α → Int) (body : Fallible m α) :
    returnCode <$> (f <$> body).run = (fun r => returnCode (r.map f)) <$> body.run := by
  rw [ExceptT.run_map, Functor.map_map]

theorem returnCode_throw (e : Int32) : returnCode <$> (throw e : Fallible m Int).run = pure e :=
  map_pure _ _

/-- A failed check is all there is to return. -/
theorem returnCode_error_bind (e : Int32) (next : α → Fallible m Int) :
    returnCode <$> (liftM (Except.error e : Except Int32 α) >>= next).run = pure e := by
  rw [TraceLogic.run_error_bind]
  exact returnCode_throw e

/-- Resolving the `Hal` pointer comes before what is done with the host. -/
theorem withHal_encodes (hal : Option (Hal m)) (code : α → Int32) {nullHal : α}
    {body : Hal m → m α} {core : Hal m → Fallible m Int} (null : code nullHal = Hal.errNullHal)
    (encodes : ∀ h, code <$> body h = returnCode <$> (core h).run) :
    code <$> Ffi.withHal hal nullHal body =
      returnCode <$> (liftM (resolve hal) >>= core : Fallible m Int).run := by
  cases hal with
  | none =>
    rw [resolve, returnCode_error_bind, Ffi.withHal, map_pure, null]
  | some h =>
    rw [resolve, TraceLogic.run_ok_bind]
    exact encodes h

theorem statusCall_encodes (hal : Option (Hal m)) (body : Hal m → Fallible m Unit) :
    Ffi.statusCall hal body =
      returnCode <$>
        (liftM (resolve hal) >>= fun h => body h >>= fun _ => pure 0 : Fallible m Int).run := by
  rw [← id_map (Ffi.statusCall hal body)]
  apply withHal_encodes hal id rfl
  intro h
  rw [id_map, bind_pure_comp, returnCode_map]
  congr 1
  funext r
  cases r <;> rfl

theorem valueCall_encodes (hal : Option (Hal m)) (into : α → Int32) (result : α → Int)
    (same : ∀ v, (into v).toInt = result v) (body : Hal m → Fallible m α) :
    Ffi.valueCall hal into body =
      returnCode <$> (liftM (resolve hal) >>= fun h => result <$> body h : Fallible m Int).run := by
  rw [← id_map (Ffi.valueCall hal into body)]
  apply withHal_encodes hal id rfl
  intro h
  rw [id_map, returnCode_map]
  congr 1
  funext r
  cases r with
  | error e => rfl
  | ok v => exact (returnCode_ok (same v)).symm

/-- A read that stores through a pointer: it resolves both pointers, the out pointer first,
and then returns the code of its core operation. -/
theorem pointers_encode {n : Nat} {hal : Option (Hal m)}
    (call : Option (Vector Int32 n) → m (Int32 × Option (Vector Int32 n)))
    {stores : Vector Int32 n → Hal m → m (Int32 × Option (Vector Int32 n))}
    {core : Hal m → Fallible m Int} (missing : call none = pure (Hal.errNullHal, none))
    (present : ∀ cells,
      call (some cells) = Ffi.withHal hal (Hal.errNullHal, some cells) (stores cells))
    (encodes : ∀ cells h, (·.1) <$> stores cells h = returnCode <$> (core h).run)
    (out : Option (Vector Int32 n)) :
    (·.1) <$> call out =
      returnCode <$> (if out.isNone then throw Hal.errNullHal
        else liftM (resolve hal) >>= core : Fallible m Int).run := by
  cases out with
  | none =>
    rw [missing, map_pure]
    exact (returnCode_throw _).symm
  | some cells =>
    change _ = returnCode <$> (liftM (resolve hal) >>= core : Fallible m Int).run
    rw [present]
    exact withHal_encodes hal Prod.fst rfl (encodes cells)

theorem cellsCall_encodes {n : Nat} (hal : Option (Hal m)) (out : Option (Vector Int32 n))
    (body : Hal m → Fallible m α) (store : α → Vector Int32 n → Vector Int32 n) :
    (·.1) <$> Ffi.cellsCall hal out body store =
      returnCode <$> (if out.isNone then throw Hal.errNullHal
        else liftM (resolve hal) >>= fun h => (fun _ => 0) <$> body h : Fallible m Int).run := by
  refine pointers_encode (Ffi.cellsCall hal · body store) rfl (fun _ => rfl) (fun cells h => ?_) out
  rw [returnCode_map, map_bind, map_eq_pure_bind]
  congr 1
  funext r
  cases r <;> exact map_pure _ _

theorem guard_encodes (bad : Prop) [Decidable bad] {call : m Int32} {body : Fallible m Int}
    (encodes : call = returnCode <$> body.run) :
    (if bad then pure errParam else call) =
      returnCode <$> (liftM (refuseIf bad) >>= fun _ => body : Fallible m Int).run := by
  unfold refuseIf
  split
  · rw [returnCode_error_bind]
  · rw [TraceLogic.run_ok_bind]
    exact encodes

/-- A sending entry point: its checks, the host, the core operation. -/
theorem send_encodes (hal : Option (Hal m)) (command : AbiCommand) :
    command.run hal = returnCode <$> ((EntryPoint.send command).outcome hal).run := by
  have bare : Ffi.statusCall hal (fun h => command.core h) =
      returnCode <$> (liftM (Except.ok () : Except Int32 Unit) >>= fun _ =>
        liftM (resolve hal) >>= fun h => command.core h >>= fun _ => pure 0 :
          Fallible m Int).run := by
    rw [TraceLogic.run_ok_bind]
    exact statusCall_encodes hal _
  cases command with
  | setRfFrequency | setPowerDbm | setRx | setTx | loraSetModulationParams | loraSetPacketParams
  | loraSetCadParams => exact guard_encodes _ (statusCall_encodes hal _)
  | writeTxFifo data len =>
    cases data with
    | none => exact (returnCode_error_bind errParam _).symm
    | some memory => exact guard_encodes _ (statusCall_encodes hal _)
  | _ => exact bare

/-- `lr2021GetStatus` makes the dead-chip check itself. -/
theorem getStatus_encodes (hal : Option (Hal m)) (out : Option (Vector Int32 3)) :
    (·.1) <$> Ffi.lr2021GetStatus hal out =
      returnCode <$> (if out.isNone then throw Hal.errNullHal
        else liftM (resolve hal) >>= fun h => StatusRead.getStatus.core h :
          Fallible m Int).run := by
  refine pointers_encode (Ffi.lr2021GetStatus hal) rfl (fun _ => rfl) (fun cells h => ?_) out
  change _ = returnCode <$> (h.getStatus.run >>= ExceptT.bindCont _)
  rw [map_bind, map_bind]
  congr 1
  funext r
  cases r with
  | error e =>
    rw [map_pure]
    exact (returnCode_throw _).symm
  | ok status =>
    obtain ⟨s1, s2, irq⟩ := status
    change _ = returnCode <$> (liftM (Xfer.checkStatus s1) >>= fun _ => pure 0 :
      Fallible m Int).run
    dsimp only
    cases Xfer.checkStatus s1 with
    | error e =>
      rw [returnCode_error_bind, map_pure]
    | ok done =>
      cases done
      rw [TraceLogic.run_ok_bind]
      exact (map_pure _ _).trans (map_pure returnCode (Except.ok 0)).symm

theorem read_encodes (hal : Option (Hal m)) (which : StatusRead)
    (out : Option (Vector Int32 which.cells)) :
    (·.1) <$> which.run hal out =
      returnCode <$> ((EntryPoint.read which out).outcome hal).run := by
  cases which with
  | getStatus =>
    rw [StatusRead.run, getStatus_encodes]
    cases out <;> rfl
  | getVersion | getRandomNumber | loraGetPacketStatus | loraGetRxStats =>
    apply (cellsCall_encodes hal out _ _).trans
    cases out <;> rfl
  | getErrors | getRssiInst | getRxFifoLevel | getTxFifoLevel =>
    rw [StatusRead.run, Functor.map_map, id_map']
    exact valueCall_encodes hal _ _ toInt_ofU16 _
  | getPacketType =>
    rw [StatusRead.run, Functor.map_map, id_map']
    exact valueCall_encodes hal _ _ toInt_ofU8 _
  | getAndClearIrqStatus =>
    rw [StatusRead.run, Functor.map_map, id_map']
    exact valueCall_encodes hal _ _ toInt_dropTop _

theorem readRxFifo_encodes (hal : Option (Hal m)) (out : Option (Nat → UInt8)) (len : Int32) :
    (·.1) <$> Ffi.lr2021ReadRxFifo hal out len =
      returnCode <$> ((EntryPoint.readRxFifo out len).outcome hal).run := by
  cases out with
  | none =>
    rw [Ffi.lr2021ReadRxFifo, map_pure]
    exact (returnCode_throw _).symm
  | some memory =>
    have reads : (·.1) <$> Ffi.withHal hal (Hal.errNullHal, some memory) (fun h =>
          Radio.readRxFifo h (Ffi.fromRawParts memory len.toInt.toNat) >>= fun reply =>
            pure (Ffi.statusOf reply.1, some (Ffi.overwrite memory reply.2))) =
        returnCode <$> (liftM (resolve hal) >>= fun h =>
          ExceptT.mk ((·.1) <$> Radio.readRxFifo h (Ffi.fromRawParts memory len.toInt.toNat)) >>=
            fun _ => pure 0 : Fallible m Int).run := by
      apply withHal_encodes hal Prod.fst rfl
      intro h
      rw [bind_pure_comp, bind_pure_comp, returnCode_map, ExceptT.run_mk, Functor.map_map,
        Functor.map_map]
      congr 1
      funext reply
      cases reply.1 <;> rfl
    refine Eq.trans ?_ (guard_encodes (len < 0) reads)
    rw [Ffi.lr2021ReadRxFifo]
    dsimp only
    split
    · exact map_pure _ _
    · rfl

/-- Every return code is the code of an outcome. -/
theorem returned_eq (hal : Option (Hal m)) (entry : EntryPoint) :
    entry.returned hal = returnCode <$> (entry.outcome hal).run := by
  cases entry with
  | calculate calculation =>
    change _ = returnCode <$> (pure calculation.outcome : m (Except Int32 Int))
    rw [map_pure, ← calculation.run_eq]
    rfl
  | waitReady => exact statusCall_encodes hal _
  | send command => exact send_encodes hal command
  | read which out => exact read_encodes hal which out
  | readRxFifo out len => exact readRxFifo_encodes hal out len

end Encodes
end Lr2021
