import Lr2021.ModuleCommands
import Lr2021.ChipSelect

set_option autoImplicit false

/-! The module functions that read: from the replies on the bus to Python's objects. -/
namespace Lr2021

open FixedWidth BigEndian TraceLogic OutcomeLogic StatusRead

namespace Module

section Functions

variable {m : Type → Type} {object : Type} [Monad m]

/-- The shape of the functions that read: the bus, the entry point over cells on the stack, and
what is made of the return code and the cells. -/
def reads {α : Type} (bus : BusTuple m object) (which : StatusRead)
    (stack : Vector Int32 which.cells) (present : Int32 → Vector Int32 which.cells → α) :
    Wrapped m α := do
  let hal ← busBind bus
  let (rc, out) ← raising (which.run (some hal) (some stack)) Prod.fst
  pure (present rc (out.getD stack))

/-- Of a function whose value is the return code. -/
def noCells : Vector Int32 0 := .emptyWithCapacity 0

variable (bus : BusTuple m object)

def modGetStatus (stack : Vector Int32 3) : Wrapped m (Int × Int × Int) :=
  reads bus getStatus stack fun _ out => (out[0]!.toInt, out[1]!.toInt, out[2]!.toInt)

def modGetVersion (stack : Vector Int32 2) : Wrapped m (Int × Int) :=
  reads bus getVersion stack fun _ out => (out[0]!.toInt, out[1]!.toInt)

def modGetRandomNumber (stack : Vector Int32 1) : Wrapped m Int :=
  reads bus getRandomNumber stack fun _ out => out[0]!.toUInt32.toNat

def modGetErrors : Wrapped m Int := reads bus getErrors noCells fun rc _ => rc.toInt

def modGetPacketType : Wrapped m Int := reads bus getPacketType noCells fun rc _ => rc.toInt

def modGetAndClearIrqStatus : Wrapped m Int :=
  reads bus getAndClearIrqStatus noCells fun rc _ => rc.toInt

def modGetRssiInst : Wrapped m Int := reads bus getRssiInst noCells fun rc _ => rc.toInt

def modGetRxFifoLevel : Wrapped m Int := reads bus getRxFifoLevel noCells fun rc _ => rc.toInt

def modGetTxFifoLevel : Wrapped m Int := reads bus getTxFifoLevel noCells fun rc _ => rc.toInt

/-- RSSI and SNR stay in register units. -/
def modLoraGetPacketStatus (stack : Vector Int32 7) :
    Wrapped m (Int × Bool × Int × Int × Int × Int × Int) :=
  reads bus loraGetPacketStatus stack fun _ out =>
    (out[0]!.toInt, out[1]! != 0, out[2]!.toInt, out[3]!.toInt, out[4]!.toInt, out[5]!.toInt,
      out[6]!.toInt)

def modLoraGetRxStats (stack : Vector Int32 4) : Wrapped m (Int × Int × Int × Int) :=
  reads bus loraGetRxStats stack fun _ out =>
    (out[0]!.toInt, out[1]!.toInt, out[2]!.toInt, out[3]!.toInt)

/-- What Python gets to see of a read. -/
abbrev PythonValue : StatusRead → Type
  | getStatus => Int × Int × Int
  | getVersion => Int × Int
  | loraGetPacketStatus => Int × Bool × Int × Int × Int × Int × Int
  | loraGetRxStats => Int × Int × Int × Int
  | _ => Int

/-- The reading functions by name. -/
def read : (which : StatusRead) → Vector Int32 which.cells → Wrapped m (PythonValue which)
  | getStatus, stack => modGetStatus bus stack
  | getVersion, stack => modGetVersion bus stack
  | getRandomNumber, stack => modGetRandomNumber bus stack
  | getErrors, _ => modGetErrors bus
  | getPacketType, _ => modGetPacketType bus
  | getAndClearIrqStatus, _ => modGetAndClearIrqStatus bus
  | getRssiInst, _ => modGetRssiInst bus
  | getRxFifoLevel, _ => modGetRxFifoLevel bus
  | getTxFifoLevel, _ => modGetTxFifoLevel bus
  | loraGetPacketStatus, stack => modLoraGetPacketStatus bus stack
  | loraGetRxStats, stack => modLoraGetRxStats bus stack

end Functions
end Module

namespace StatusRead

/-- What the core makes of a read. -/
abbrev Value : StatusRead → Type
  | getStatus => UInt8 × UInt8 × UInt32
  | getVersion => System.Version
  | getPacketType => UInt8
  | getRandomNumber | getAndClearIrqStatus => UInt32
  | getErrors | getRssiInst | getRxFifoLevel | getTxFifoLevel => UInt16
  | loraGetPacketStatus => Lora.PacketStatus
  | loraGetRxStats => UInt16 × UInt16 × UInt16 × UInt16

/-- The read of the core. For the status it is the host's, with the check of the others. -/
def coreRead {m : Type → Type} [Monad m] (hal : Hal m) :
    (which : StatusRead) → Fallible m which.Value
  | getStatus => do
    let status ← hal.getStatus
    Xfer.checkStatus status.1
    pure status
  | getVersion => System.getVersion hal
  | getRandomNumber => System.getRandomNumber hal
  | getErrors => System.getErrors hal
  | getPacketType => Radio.getPacketType hal
  | getAndClearIrqStatus => Radio.getAndClearIrqStatus hal
  | getRssiInst => Radio.getRssiInst hal
  | getRxFifoLevel => Radio.getRxFifoLevel hal
  | getTxFifoLevel => Radio.getTxFifoLevel hal
  | loraGetPacketStatus => Lora.getPacketStatus hal
  | loraGetRxStats => Lora.getRxStats hal

/-- The same value in Python: unsigned numbers as they are, but for the interrupt vector, which
comes as a signed word beside the status and without its top bit by itself. -/
def toPython : (which : StatusRead) → which.Value → Module.PythonValue which
  | getStatus, (stat1, stat2, irq) => (stat1.toNat, stat2.toNat, Int.bmod irq.toNat (2 ^ 32))
  | getVersion, version => (version.fwMajor.toNat, version.fwMinor.toNat)
  | getRandomNumber, word => word.toNat
  | getPacketType, packetType => packetType.toNat
  | getAndClearIrqStatus, irq => irq.toNat % 2 ^ 31
  | getErrors, word | getRssiInst, word | getRxFifoLevel, word | getTxFifoLevel, word => word.toNat
  | loraGetPacketStatus, status =>
      (status.cr.toNat, status.hasCrc, status.len.toNat, status.snrPkt.toInt,
        status.rssiPkt.toNat, status.rssiSignalPkt.toNat, status.detector.toNat)
  | loraGetRxStats, (received, crcErrors, headerErrors, falseSyncs) =>
      (received.toNat, crcErrors.toNat, headerErrors.toNat, falseSyncs.toNat)

/-- How the core decodes a payload. -/
def decoded : (which : StatusRead) → which.Payload → which.Value
  | getStatus, status => status
  | getVersion, buf => { fwMajor := buf[0]!, fwMinor := buf[1]! }
  | getRandomNumber, buf | getAndClearIrqStatus, buf => ofBytes32 buf[0]! buf[1]! buf[2]! buf[3]!
  | getErrors, buf | getRxFifoLevel, buf | getTxFifoLevel, buf => ofBytes16 buf[0]! buf[1]!
  | getPacketType, buf => buf[0]!
  | getRssiInst, buf => (buf[0]!.toUInt16 <<< 1) ||| ((buf[1]!.toUInt16 >>> 7) &&& 0x01)
  | loraGetPacketStatus, buf => Lora.decodePacketStatus buf
  | loraGetRxStats, buf =>
      (ofBytes16 buf[0]! buf[1]!, ofBytes16 buf[2]! buf[3]!, ofBytes16 buf[4]! buf[5]!,
        ofBytes16 buf[6]! buf[7]!)

/-- What a read makes of an answer of the transport. -/
def answer {payload α : Type} (decode : payload → α) :
    Except Int32 (UInt8 × payload) → Except Int32 α
  | .error e => .error e
  | .ok (stat, data) =>
    if stat = 0x00 ∨ stat = 0xFF then .error Hal.errNoChip else .ok (decode data)

theorem readReply_answer {m : Type → Type} [Monad m] [LawfulMonad m] {n : Nat} {α : Type}
    (hal : Hal m) (opcode : UInt16) (decode : Vector UInt8 n → α) :
    (Xfer.readReply hal opcode decode).run = answer decode <$> exchange hal opcode n := by
  rw [readReply_exchange]
  congr 1
  funext reply
  cases reply <;> rfl

theorem coreRead_run {m : Type → Type} [Monad m] [LawfulMonad m] (hal : Hal m)
    (which : StatusRead) :
    (which.coreRead hal).run = answer which.decoded <$> which.transport hal := by
  cases which with
  | getStatus =>
    rw [transport, Functor.map_map, map_eq_pure_bind]
    change hal.getStatus.run >>= ExceptT.bindCont _ = _
    congr 1
    funext reply
    cases reply with
    | error e => rfl
    | ok status =>
      obtain ⟨s1, s2, irq⟩ := status
      change (liftM (Xfer.checkStatus s1) >>= fun _ => pure (s1, s2, irq) : Fallible m _).run = _
      by_cases silent : s1 = 0x00 ∨ s1 = 0xFF
      · simp only [Xfer.checkStatus, answer, Except.map, silent, if_true]
        exact run_error_bind _ _
      · simp only [Xfer.checkStatus, answer, Except.map, silent, if_false]
        exact run_ok_bind _ _
  | getVersion => exact readReply_answer hal Cmd.cmdGetVersion (decoded getVersion)
  | getErrors => exact readReply_answer hal Cmd.cmdGetErrors (decoded getErrors)
  | getRandomNumber =>
    exact readReply_answer hal Cmd.cmdGetRandomNumber (decoded getRandomNumber)
  | getPacketType => exact readReply_answer hal Cmd.cmdGetPacketType (decoded getPacketType)
  | getAndClearIrqStatus =>
    exact readReply_answer hal Cmd.cmdGetAndClearIrqStatus (decoded getAndClearIrqStatus)
  | getRssiInst => exact readReply_answer hal Cmd.cmdGetRssiInst (decoded getRssiInst)
  | getRxFifoLevel => exact readReply_answer hal Cmd.cmdGetRxFifoLevel (decoded getRxFifoLevel)
  | getTxFifoLevel => exact readReply_answer hal Cmd.cmdGetTxFifoLevel (decoded getTxFifoLevel)
  | loraGetPacketStatus =>
    exact readReply_answer hal Cmd.cmdGetLoraPacketStatus (decoded loraGetPacketStatus)
  | loraGetRxStats => exact readReply_answer hal Cmd.cmdGetLoraRxStats (decoded loraGetRxStats)

end StatusRead

namespace Module

/-- What a reading function comes down to. -/
theorem reads_run {m : Type → Type} {object α : Type} [Monad m] [LawfulMonad m]
    {bus : BusTuple m object} {hal : Hal m} (bound : busBind bus = .ok hal) (which : StatusRead)
    (stack : Vector Int32 which.cells) (present : Int32 → Vector Int32 which.cells → α) :
    (reads bus which stack present).run = (fun reply =>
      let settled := settle which.value which.stored stack reply
      ((checkErr settled.1).mapError ModuleError.shim).map fun _ =>
        present settled.1 (settled.2.getD stack)) <$> which.transport hal := by
  rw [reads, bound, run_ok_bind, ExceptT.run_bind, raising_run, run_some, map_eq_pure_bind,
    bind_assoc, map_eq_pure_bind, map_eq_pure_bind, bind_assoc]
  congr 1
  funext reply
  rw [pure_bind, pure_bind]
  dsimp only
  cases checkErr (settle which.value which.stored stack reply).1 <;> rfl

end Module

section Delivery

variable {σ object : Type} {hal : Hal (StateM σ)} {bus : BusTuple (StateM σ) object}

theorem transport_ends (negative : NegativeErrors hal) (which : StatusRead) (s : σ) :
    Allowed (· < 0) (fun _ => True) (which.transport hal s).1 := by
  have exchanged (opcode : UInt16) (n : Nat) :
      Allowed (· < 0) (fun _ => True) (exchange hal opcode n s).1 := by
    have reply := negative.readCmd 2 opcode [] (Vector.replicate n 0) s
    rw [exchange, map_apply]
    generalize (hal.readCmd 2 opcode [] (Vector.replicate n 0) s).1 = answered at reply
    obtain ⟨code | status, data⟩ := answered
    · exact reply
    · exact trivial
  cases which with
  | getStatus =>
    have reply := negative.getStatus s
    rw [transport, map_apply]
    generalize (hal.getStatus.run s).1 = answered at reply
    cases answered with
    | error code => exact reply
    | ok status => exact trivial
  | _ => exact exchanged _ _

/-- A function of the module has done what the core does: it leaves the host as the core does,
it gives Python the value that the core decodes, and where the core fails it raises. -/
def Delivers (which : StatusRead) (module : Except ModuleError (Module.PythonValue which) × σ)
    (core : Except Int32 which.Value × σ) : Prop :=
  module.2 = core.2 ∧
    match core.1 with
    | .ok value => module.1 = .ok (which.toPython value)
    | .error code => ∃ e, checkErr code = .error e ∧ module.1 = .error (.shim e)

theorem reads_deliver (bound : Module.busBind bus = .ok hal) (negative : NegativeErrors hal)
    (which : StatusRead) (stack : Vector Int32 which.cells)
    (present : Int32 → Vector Int32 which.cells → Module.PythonValue which)
    (same : ∀ data, present (which.value data) (which.stored data) =
      which.toPython (which.decoded data)) (s : σ) :
    Delivers which ((Module.reads bus which stack present).run s) ((which.coreRead hal).run s) := by
  have ends := transport_ends negative which s
  rw [Delivers, Module.reads_run bound, coreRead_run, map_apply, map_apply]
  refine ⟨rfl, ?_⟩
  cases answered : (which.transport hal s).1 with
  | error code =>
    rw [answered] at ends
    obtain ⟨e, raised⟩ := checkErr_of_neg ends
    refine ⟨e, raised, ?_⟩
    simp only [settle, raised]
    rfl
  | ok reply =>
    obtain ⟨stat, data⟩ := reply
    by_cases silent : stat = 0x00 ∨ stat = 0xFF
    · simp only [answer, settle, silent, if_true]
      exact ⟨_, rfl, rfl⟩
    · simp only [answer, settle, silent, if_false]
      rw [checkErr_of_nonneg (which.value_nonneg data)]
      exact congrArg Except.ok (same data)

/-- Every read of the module does what the core does, whatever was on the stack. -/
theorem read_delivers (bound : Module.busBind bus = .ok hal) (negative : NegativeErrors hal)
    (which : StatusRead) (stack : Vector Int32 which.cells) (s : σ) :
    Delivers which ((Module.read bus which stack).run s) ((which.coreRead hal).run s) := by
  cases which with
  | getStatus =>
    rw [Module.read, Module.modGetStatus]
    refine reads_deliver bound negative getStatus stack _ (fun status => ?_) s
    obtain ⟨s1, s2, irq⟩ := status
    have signed : irq.toInt32.toInt = Int.bmod irq.toNat (2 ^ 32) :=
      BitVec.toInt_eq_toNat_bmod irq.toBitVec
    change ((ofU8 s1).toInt, (ofU8 s2).toInt, irq.toInt32.toInt) = _
    rw [toInt_ofU8, toInt_ofU8, signed]
    rfl
  | getVersion =>
    rw [Module.read, Module.modGetVersion]
    refine reads_deliver bound negative getVersion stack _ (fun buf => ?_) s
    exact Prod.ext (toInt_ofU8 _) (toInt_ofU8 _)
  | getRandomNumber =>
    rw [Module.read, Module.modGetRandomNumber]
    refine reads_deliver bound negative getRandomNumber stack _ (fun buf => ?_) s
    change ((ofBytes32 buf[0]! buf[1]! buf[2]! buf[3]!).toInt32.toUInt32.toNat : Int) =
      (ofBytes32 buf[0]! buf[1]! buf[2]! buf[3]!).toNat
    rw [UInt32.toUInt32_toInt32]
  | getErrors =>
    rw [Module.read, Module.modGetErrors]
    refine reads_deliver bound negative getErrors Module.noCells _ (fun buf => ?_) s
    exact toInt_ofU16 _
  | getPacketType =>
    rw [Module.read, Module.modGetPacketType]
    refine reads_deliver bound negative getPacketType Module.noCells _ (fun buf => ?_) s
    exact toInt_ofU8 _
  | getAndClearIrqStatus =>
    rw [Module.read, Module.modGetAndClearIrqStatus]
    refine reads_deliver bound negative getAndClearIrqStatus Module.noCells _ (fun buf => ?_) s
    change (ofBytes32 buf[0]! buf[1]! buf[2]! buf[3]! &&& 0x7FFFFFFF).toInt32.toInt =
      ((ofBytes32 buf[0]! buf[1]! buf[2]! buf[3]!).toNat : Int) % 2 ^ 31
    exact toInt_dropTop _
  | getRssiInst =>
    rw [Module.read, Module.modGetRssiInst]
    refine reads_deliver bound negative getRssiInst Module.noCells _ (fun buf => ?_) s
    exact toInt_ofU16 _
  | getRxFifoLevel =>
    rw [Module.read, Module.modGetRxFifoLevel]
    refine reads_deliver bound negative getRxFifoLevel Module.noCells _ (fun buf => ?_) s
    exact toInt_ofU16 _
  | getTxFifoLevel =>
    rw [Module.read, Module.modGetTxFifoLevel]
    refine reads_deliver bound negative getTxFifoLevel Module.noCells _ (fun buf => ?_) s
    exact toInt_ofU16 _
  | loraGetPacketStatus =>
    rw [Module.read, Module.modLoraGetPacketStatus]
    refine reads_deliver bound negative loraGetPacketStatus stack _ (fun buf => ?_) s
    let status := Lora.decodePacketStatus buf
    have flag : (ofBool status.hasCrc != 0) = status.hasCrc := by cases status.hasCrc <;> rfl
    change ((ofU8 status.cr).toInt, (ofBool status.hasCrc != 0), (ofU8 status.len).toInt,
      status.snrPkt.toInt32.toInt, (ofU16 status.rssiPkt).toInt,
      (ofU16 status.rssiSignalPkt).toInt, (ofU8 status.detector).toInt) = _
    rw [flag, Int8.toInt_toInt32, toInt_ofU8, toInt_ofU8, toInt_ofU8, toInt_ofU16, toInt_ofU16]
    rfl
  | loraGetRxStats =>
    rw [Module.read, Module.modLoraGetRxStats]
    refine reads_deliver bound negative loraGetRxStats stack _ (fun buf => ?_) s
    change ((ofU16 (ofBytes16 buf[0]! buf[1]!)).toInt, (ofU16 (ofBytes16 buf[2]! buf[3]!)).toInt,
      (ofU16 (ofBytes16 buf[4]! buf[5]!)).toInt, (ofU16 (ofBytes16 buf[6]! buf[7]!)).toInt) = _
    simp only [toInt_ofU16]
    rfl

end Delivery

/-- The bus tuple of the rig. -/
def Mock.bus : BusTuple (StateM Mock) Int where
  python := .raising
  entries := [0, 1, 2, 3, 200]
  table _ _ _ _ _ := Mock.hal

theorem Mock.bus_bound : Module.busBind Mock.bus = .ok Mock.hal := rfl

/-- A status with every interrupt pending: the vector comes as minus one. -/
theorem read_delivers_status :
    ((Module.modGetStatus Mock.bus #v[7, 8, 9]).run
      (Mock.fresh [[0x01, 0x02, 0xFF, 0xFF, 0xFF, 0xFF]])).1 = .ok (1, 2, -1) := by
  have delivered := read_delivers Mock.bus_bound Mock.negativeErrors .getStatus #v[7, 8, 9]
    (Mock.fresh [[0x01, 0x02, 0xFF, 0xFF, 0xFF, 0xFF]])
  have answered : ((getStatus.coreRead Mock.hal).run
      (Mock.fresh [[0x01, 0x02, 0xFF, 0xFF, 0xFF, 0xFF]])).1 = .ok (1, 2, 0xFFFFFFFF) := by
    rfl
  rw [Delivers, answered] at delivered
  have signed : getStatus.toPython (1, 2, 0xFFFFFFFF) = (1, 2, -1) := by
    change ((1 : Int), (2 : Int), Int.bmod 0xFFFFFFFF (2 ^ 32)) = (1, 2, -1)
    decide
  exact delivered.2.trans (congrArg Except.ok signed)

section Fifo

variable {ε python : Type} {bus : Bus ε python} {report : Int32 → Except Int32 Unit}
  {hal : Hal (Native ε python)} {n : Nat}

/-- The state in which a FIFO read calls `spi.readinto`: BUSY was waited for, the chip selected
and the opcode written. -/
def readsFrom (bus : Bus ε python) (hal : Hal (Native ε python)) (opcode : UInt16)
    (world : World python) : Option python :=
  match hal.waitBusy.run.run world with
  | (.ok (.ok ()), ready) =>
    match bus.spiWrite (frame opcode []) (bus.setCsValue false ready.kept) with
    | (.ok (), kept) => some kept
    | (.error _, _) => none
  | _ => none

/-- Two FIFO reads that differ at most in the bytes they leave behind when they fail. One that
succeeds leaves what `spi.readinto` did. -/
inductive Alike (bus : Bus ε python) (asked : Option python) (out : Vector UInt8 n) :
    Except (Raised ε) (Except Int32 Unit × Vector UInt8 n) × World python →
      Except (Raised ε) (Except Int32 Unit × Vector UInt8 n) × World python → Prop
  | raised (e : Raised ε) (world : World python) :
      Alike bus asked out (.error e, world) (.error e, world)
  | failed (code : Int32) (negative : code < 0) (buf buf' : Vector UInt8 n)
      (world : World python) :
      Alike bus asked out (.ok (.error code, buf), world) (.ok (.error code, buf'), world)
  | filled (kept : python) (buf : Vector UInt8 n) (world : World python)
      (reached : asked = some kept) (read : (bus.spiReadinto out kept).1 = .ok buf) :
      Alike bus asked out (.ok (.ok (), buf), world) (.ok (.ok (), buf), world)

/-- The error codes of the BUSY wait are negative. -/
def BusyNegative (hal : Hal (Native ε python)) : Prop :=
  ∀ world code later, hal.waitBusy.run.run world = (.ok (.error code), later) → code < 0

theorem concludeFifo_alike (wraps : OverCallbacks bus report hal) (negative : BusyNegative hal)
    {asked : Option python} {kept : python} (reached : asked = some kept) {out buf : Vector UInt8 n}
    (read : (bus.spiReadinto out kept).1 = .ok buf) (world : World python) :
    Alike bus asked out ((Xfer.concludeFifo hal (.ok ()) buf).run world)
      ((Xfer.concludeFifo hal (.ok ()) buf).run world) := by
  rw [Xfer.concludeFifo, native_bind_apply, select_run wraps]
  dsimp only
  rw [native_bind_apply]
  generalize waited : hal.waitBusy.run.run _ = wait
  obtain ⟨e | code | _, later⟩ := wait
  · exact .raised e later
  · exact .failed code (negative _ _ _ waited) buf buf later
  · exact .filled kept buf later reached read

/-- Two FIFO reads over buffers that `spi.readinto` makes no difference between. -/
theorem readFifo_alike (wraps : OverCallbacks bus report hal) (negative : BusyNegative hal)
    (opcode : UInt16) (out out' : Vector UInt8 n)
    (same : ∀ kept, bus.spiReadinto out kept = bus.spiReadinto out' kept) (world : World python) :
    Alike bus (readsFrom bus hal opcode world) out ((Xfer.readFifo hal opcode out).run world)
      ((Xfer.readFifo hal opcode out').run world) := by
  rw [Xfer.readFifo_eq, Xfer.readFifo_eq, native_bind_apply, native_bind_apply, readsFrom]
  generalize waited : hal.waitBusy.run.run world = wait
  obtain ⟨e | code | _, ready⟩ := wait
  · exact .raised e ready
  · exact .failed code (negative _ _ _ waited) out out' ready
  · have selected : (hal.select 0).run.run ready =
        (.ok (.ok ()), { nss := false, kept := bus.setCsValue false ready.kept }) :=
      select_run wraps 0 ready
    dsimp only
    rw [native_bind_apply, native_bind_apply, selected]
    dsimp only
    rw [native_bind_apply, native_bind_apply, write_run wraps]
    dsimp only
    generalize bus.spiWrite (frame opcode []) (bus.setCsValue false ready.kept) = sent
    obtain ⟨e | _, kept⟩ := sent
    · exact .raised _ _
    · dsimp only [mapError_ok, mapError_error, Except.map]
      rw [native_bind_apply, native_bind_apply, read_run wraps, read_run wraps]
      dsimp only
      rw [← same kept]
      cases read : (bus.spiReadinto out kept).1 with
      | error e => exact .raised _ _
      | ok buf => exact concludeFifo_alike wraps negative rfl read _

/-- The bytes that were read back out of the memory they were put into. -/
theorem fromRawParts_overwrite (memory : Nat → UInt8) (buf : Vector UInt8 n) :
    Ffi.fromRawParts (Ffi.overwrite memory buf) n = buf := by
  apply Vector.ext
  intro i inside
  rw [Ffi.fromRawParts, Vector.getElem_ofFn]
  exact dif_pos inside

/-- What a FIFO read with a length that fits comes down to. -/
theorem modReadRxFifo_run (stack : Nat → UInt8) {len : Int} (fits : 0 ≤ len ∧ len ≤ 255)
    (world : World python) :
    (modReadRxFifo hal stack len).run world =
      match (Xfer.readFifo hal Cmd.cmdReadRxFifo (Ffi.fromRawParts stack len.toNat)).run world with
      | (.error e, later) => (.error e, later)
      | (.ok (r, buf), later) =>
        (((checkErr (Ffi.statusOf r)).mapError Raised.shim).map fun _ => buf.toList, later) := by
  have value : (Int32.ofInt len).toInt = len := Int32.toInt_ofInt_of_le (by omega) (by omega)
  have nonneg : ¬Int32.ofInt len < 0 := by
    rw [Int32.lt_iff_toInt_lt, value]
    exact Int.not_lt.mpr fits.1
  have short : (Int32.ofInt len).toInt.toNat ≤ Cmd.maxPacketLen := by
    rw [value, Cmd.maxPacketLen]
    omega
  rw [modReadRxFifo, if_neg (by omega), Ffi.lr2021ReadRxFifo_of_le hal stack nonneg short, value,
    native_bind_apply, map_eq_pure_bind, native_bind_apply]
  generalize (Xfer.readFifo hal Cmd.cmdReadRxFifo (Ffi.fromRawParts stack len.toNat)).run world =
    outcome
  obtain ⟨e | ⟨r, buf⟩, later⟩ := outcome
  · rfl
  · change ((ExceptT.mk (pure ((checkErr (Ffi.statusOf r)).mapError Raised.shim)) >>= fun _ =>
      pure (Ffi.fromRawParts (Ffi.overwrite stack buf) len.toNat).toList :
        Native ε python (List UInt8)).run later) = _
    rw [fromRawParts_overwrite, native_bind_apply]
    dsimp only
    cases checkErr (Ffi.statusOf r) <;> rfl

/-- `spi.readinto` fills its buffer, whatever that held. -/
def Fills (bus : Bus ε python) : Prop :=
  ∀ (n : Nat) (out out' : Vector UInt8 n) kept,
    bus.spiReadinto out kept = bus.spiReadinto out' kept

/-- What a FIFO read returns is what `spi.readinto` left in the buffer on the stack, as much as
was asked for. So it shows Python nothing else of the stack, and over a `readinto` that fills its
buffer nothing at all: it ends the same whatever the stack held. -/
theorem fifo_read_clean (wraps : OverCallbacks bus report hal) (negative : BusyNegative hal)
    (stack : Nat → UInt8) (len : Int) (world : World python) :
    (∀ bytes later, (modReadRxFifo hal stack len).run world = (.ok bytes, later) →
      (bytes.length : Int) = len ∧ ∃ kept buf,
        readsFrom bus hal Cmd.cmdReadRxFifo world = some kept ∧
          (bus.spiReadinto (Ffi.fromRawParts stack len.toNat) kept).1 = .ok buf ∧
          bytes = buf.toList) ∧
    (Fills bus → ∀ stack', (modReadRxFifo hal stack len).run world =
      (modReadRxFifo hal stack' len).run world) := by
  by_cases outside : len < 0 ∨ len > 255
  · have refused (stack : Nat → UInt8) : (modReadRxFifo hal stack len).run world =
        (.error (.shim (.valueError "length must be 0..255")), world) := by
      rw [modReadRxFifo, if_pos outside]
      rfl
    constructor
    · intro bytes later returned
      rw [refused] at returned
      cases returned
    · intro _ stack'
      rw [refused, refused]
  have fits : 0 ≤ len ∧ len ≤ 255 := by omega
  have alike (stack' : Nat → UInt8) := readFifo_alike wraps negative Cmd.cmdReadRxFifo
    (Ffi.fromRawParts stack len.toNat) (Ffi.fromRawParts stack' len.toNat)
  constructor
  · intro bytes later returned
    have own := alike stack (fun _ => rfl) world
    rw [modReadRxFifo_run stack fits] at returned
    generalize (Xfer.readFifo hal Cmd.cmdReadRxFifo (Ffi.fromRawParts stack len.toNat)).run world =
      outcome at own returned
    cases own with
    | raised e later => cases returned
    | failed code negative buf buf' later =>
      obtain ⟨e, raises⟩ := checkErr_of_neg negative
      have same : checkErr (Ffi.statusOf (.error code)) = .error e := raises
      simp only [same] at returned
      cases returned
    | filled kept buf later reached read =>
      obtain ⟨same, -⟩ := Prod.mk.inj returned
      obtain rfl : buf.toList = bytes := Except.ok.inj same
      refine ⟨?_, kept, buf, reached, read, rfl⟩
      rw [Vector.length_toList]
      omega
  · intro fills stack'
    have pair := alike stack' (fills len.toNat _ _) world
    rw [modReadRxFifo_run stack fits, modReadRxFifo_run stack' fits]
    generalize (Xfer.readFifo hal Cmd.cmdReadRxFifo (Ffi.fromRawParts stack len.toNat)).run world =
      first at pair ⊢
    generalize (Xfer.readFifo hal Cmd.cmdReadRxFifo (Ffi.fromRawParts stack' len.toNat)).run world =
      second at pair ⊢
    cases pair with
    | raised e later => rfl
    | failed code negative buf buf' later =>
      obtain ⟨e, raises⟩ := checkErr_of_neg negative
      have same : checkErr (Ffi.statusOf (.error code)) = .error e := raises
      simp only [same]
      rfl
    | filled kept buf later reached read => rfl

end Fifo

/-- The BUSY wait over callbacks has one error code. -/
theorem Bus.busyNegative {ε python : Type} (bus : Bus ε python) : BusyNegative bus.hal := by
  intro world code later returned
  change (bus.cbTicksMs >>= fun _ => bus.cbBusyGet >>= fun busy =>
    pure (if busy = 0 then Except.ok () else .error (-2)) :
      Native ε python (Except Int32 Unit)).run world = _ at returned
  rw [native_bind_apply] at returned
  generalize bus.cbTicksMs.run world = ticked at returned
  obtain ⟨e | ticks, world₁⟩ := ticked
  · cases returned
  · dsimp only at returned
    rw [native_bind_apply] at returned
    generalize bus.cbBusyGet.run world₁ = looked at returned
    obtain ⟨e | busy, world₂⟩ := looked
    · cases returned
    · have same := Except.ok.inj (Prod.mk.inj returned).1
      split at same
      · cases same
      · rw [← Except.error.inj same]
        decide

/-- A bus that reads one byte over and over. -/
def Bus.steady : Bus String Unit where
  spiWrite _ _ := (.ok (), ())
  spiReadinto {count} _ _ := (.ok (Vector.replicate count 0x5A), ())
  setCsValue _ _ := ()
  busyValue _ := (.ok false, ())
  ticksMs _ := (.ok 0, ())

/-- Three bytes are read, over two stacks. -/
theorem fifo_read_clean_steady :
    (modReadRxFifo Bus.steady.hal (fun _ => 0x11) 3).run { nss := true, kept := () } =
      (modReadRxFifo Bus.steady.hal (fun _ => 0x22) 3).run { nss := true, kept := () } :=
  (fifo_read_clean Bus.steady.overCallbacks Bus.steady.busyNegative (fun _ => 0x11) 3
    { nss := true, kept := () }).2 (fun _ _ _ _ => rfl) fun _ => 0x22

end Lr2021
