import Lr2021.System
import Lr2021.Radio
import Lr2021.Lora
import Lr2021.Flrc
import Lr2021.Lib.FixedWidth

set_option autoImplicit false

/-! The C ABI surface. Every integer crosses as `i32`. A pointer is an `Option`,
null being `none`; a function that stores through one hands the memory back beside
its return value. -/
namespace Lr2021.Ffi

open FixedWidth Flrc

variable {m : Type → Type} [Monad m]

def statusOf (r : Except Int32 Unit) : Int32 :=
  match r with
  | .ok () => Hal.ok
  | .error e => e

/-- Returns a value through its lossless conversion `into`, or the error code. -/
def valueOf {α : Type} (into : α → Int32) (r : Except Int32 α) : Int32 :=
  match r with
  | .ok v => into v
  | .error e => e

/-- Resolves the `Hal` pointer once per entry point. -/
def withHal {α : Type} (hal : Option (Hal m)) (nullHal : α) (body : Hal m → m α) : m α :=
  match hal with
  | some h => body h
  | none => pure nullHal

/-- An entry point that only reports the status of a core operation. -/
def statusCall (hal : Option (Hal m)) (body : Hal m → Fallible m Unit) : m Int32 :=
  withHal hal Hal.errNullHal fun h => statusOf <$> (body h).run

/-- An entry point that returns a value of the core through its return value. -/
def valueCall {α : Type} (hal : Option (Hal m)) (into : α → Int32)
    (body : Hal m → Fallible m α) : m Int32 :=
  withHal hal Hal.errNullHal fun h => valueOf into <$> (body h).run

/-- An entry point that stores a value of the core in out cells. -/
def cellsCall {α : Type} {n : Nat} (hal : Option (Hal m)) (out : Option (Vector Int32 n))
    (body : Hal m → Fallible m α) (store : α → Vector Int32 n → Vector Int32 n) :
    m (Int32 × Option (Vector Int32 n)) :=
  match out with
  | none => pure (Hal.errNullHal, none)
  | some cells =>
    withHal hal (Hal.errNullHal, some cells) fun h => do
      match ← (body h).run with
      | .ok v => pure (Hal.ok, some (store v cells))
      | .error e => pure (e, some cells)

/-- `*out.add(i) = v`. -/
def put {n : Nat} (i : Nat) (v : Int32) (cells : Vector Int32 n) : Vector Int32 n :=
  cells.setIfInBounds i v

def lr2021FlrcBitrateKbps (brBw : Int32) : Int32 :=
  match bitrateKbps (asU8 brBw) with
  | some v => if 0 ≤ brBw ∧ brBw ≤ 0xFF then ofU16 v else errParam
  | none => errParam

def lr2021FlrcBandwidthKhz (brBw : Int32) : Int32 :=
  match bandwidthKhz (asU8 brBw) with
  | some v => if 0 ≤ brBw ∧ brBw ≤ 0xFF then ofU16 v else errParam
  | none => errParam

def lr2021FlrcModulationParams (brBw cr shaping : Int32) : Int32 :=
  if ¬(0 ≤ brBw ∧ brBw ≤ 0xFF) ∨ ¬(0 ≤ cr ∧ cr ≤ 0xFF) ∨ ¬(0 ≤ shaping ∧ shaping ≤ 0xFF) then
    errParam
  else match Flrc.modulationParams (asU8 brBw) (asU8 cr) (asU8 shaping) with
    | .ok p => (ofU8 p.1 <<< 8) ||| ofU8 p.2
    | .error e => e

/-- Measured payload goodput. The cap is applied to the narrowed quotient. -/
def lr2021FlrcGoodputBps (bytes elapsedMs : Int32) : Int32 :=
  if bytes < 0 ∨ elapsedMs < 0 then errParam
  else (min (goodputBps bytes.toUInt32 elapsedMs.toUInt32) 0x7FFFFFFF).toInt32

def lr2021FlrcPerPermille (sent received : Int32) : Int32 :=
  if sent < 0 ∨ received < 0 then errParam
  else (perPermille sent.toUInt32 received.toUInt32).toInt32

def lr2021WaitReady (hal : Option (Hal m)) : m Int32 :=
  statusCall hal fun h => h.waitBusy

/-- Writes stat1, stat2 and the interrupt vector into `out[0..3]`. The undriven-MISO
check of the reads in the core is made here instead. -/
def lr2021GetStatus (hal : Option (Hal m)) (out : Option (Vector Int32 3)) :
    m (Int32 × Option (Vector Int32 3)) :=
  match out with
  | none => pure (Hal.errNullHal, none)
  | some cells =>
    withHal hal (Hal.errNullHal, some cells) fun h => do
      match ← h.getStatus.run with
      | .ok (s1, s2, irq) =>
        match Xfer.checkStatus s1 with
        | .error e => pure (e, some cells)
        | .ok () =>
          pure (Hal.ok, some (cells |> put 0 (ofU8 s1) |> put 1 (ofU8 s2) |> put 2 irq.toInt32))
      | .error e => pure (e, some cells)

def lr2021GetVersion (hal : Option (Hal m)) (out : Option (Vector Int32 2)) :
    m (Int32 × Option (Vector Int32 2)) :=
  cellsCall hal out System.getVersion fun v cells =>
    cells |> put 0 (ofU8 v.fwMajor) |> put 1 (ofU8 v.fwMinor)

def lr2021GetRandomNumber (hal : Option (Hal m)) (out : Option (Vector Int32 1)) :
    m (Int32 × Option (Vector Int32 1)) :=
  cellsCall hal out System.getRandomNumber fun v cells => cells |> put 0 v.toInt32

def lr2021GetErrors (hal : Option (Hal m)) : m Int32 :=
  valueCall hal ofU16 System.getErrors

def lr2021ClearErrors (hal : Option (Hal m)) : m Int32 :=
  statusCall hal System.clearErrors

def lr2021SetStandby (hal : Option (Hal m)) (mode : Int32) : m Int32 :=
  statusCall hal fun h => System.setStandby h (asU8 mode)

def lr2021SetFs (hal : Option (Hal m)) : m Int32 :=
  statusCall hal System.setFs

def lr2021SetSleep (hal : Option (Hal m)) (config wakeupTicks : Int32) : m Int32 :=
  statusCall hal fun h => System.setSleep h (asU8 config) wakeupTicks.toUInt32

def lr2021ActivatePram (hal : Option (Hal m)) : m Int32 :=
  statusCall hal System.activatePram

def lr2021Calibrate (hal : Option (Hal m)) (blocks : Int32) : m Int32 :=
  statusCall hal fun h => System.calibrate h (asU8 blocks)

def lr2021SetDioFunction (hal : Option (Hal m)) (dio function : Int32) : m Int32 :=
  statusCall hal fun h => System.setDioFunction h (asU8 dio) (asU8 function)

def lr2021SetDioRfSwitchConfig (hal : Option (Hal m)) (dio modes : Int32) : m Int32 :=
  statusCall hal fun h => System.setDioRfSwitchConfig h (asU8 dio) (asU8 modes)

def lr2021SetRfSwitch (hal : Option (Hal m)) (txDio txPull rxDio rxPull : Int32) : m Int32 :=
  statusCall hal fun h =>
    System.setRfSwitch h (asU8 txDio) (asU8 txPull) (asU8 rxDio) (asU8 rxPull)

def lr2021SetRfFrequency (hal : Option (Hal m)) (hz : Int32) : m Int32 :=
  if hz ≤ 0 then pure errParam
  else statusCall hal fun h => Radio.setRfFrequency h hz.toUInt32

def lr2021SetPacketType (hal : Option (Hal m)) (packetType : Int32) : m Int32 :=
  statusCall hal fun h => Radio.setPacketType h (asU8 packetType)

def lr2021GetPacketType (hal : Option (Hal m)) : m Int32 :=
  valueCall hal ofU8 Radio.getPacketType

def lr2021SetRxPath (hal : Option (Hal m)) (path boost : Int32) : m Int32 :=
  statusCall hal fun h => Radio.setRxPath h (asU8 path) (asU8 boost)

/-- Selects the sub-GHz PA and configures it for `dbm`. -/
def lr2021SetPowerDbm (hal : Option (Hal m)) (dbm ramp : Int32) : m Int32 :=
  if ¬(-128 ≤ dbm ∧ dbm ≤ 127) then pure errParam
  else statusCall hal fun h => Radio.setPowerDbm h dbm.toInt8 (asU8 ramp)

def lr2021SetRx (hal : Option (Hal m)) (timeout : Int32) : m Int32 :=
  if timeout < 0 then pure errParam
  else statusCall hal fun h => Radio.setRx h timeout.toUInt32

def lr2021SetTx (hal : Option (Hal m)) (timeout : Int32) : m Int32 :=
  if timeout < 0 then pure errParam
  else statusCall hal fun h => Radio.setTx h timeout.toUInt32

def lr2021SetDioIrqConfig (hal : Option (Hal m)) (dio irq : Int32) : m Int32 :=
  statusCall hal fun h => Radio.setDioIrqConfig h (asU8 dio) irq.toUInt32

/-- Reads and clears the interrupt vector, without its top bit. -/
def lr2021GetAndClearIrqStatus (hal : Option (Hal m)) : m Int32 :=
  valueCall hal (fun v : UInt32 => (v &&& 0x7FFFFFFF).toInt32) Radio.getAndClearIrqStatus

def lr2021ClearIrq (hal : Option (Hal m)) (irq : Int32) : m Int32 :=
  statusCall hal fun h => Radio.clearIrq h irq.toUInt32

def lr2021GetRssiInst (hal : Option (Hal m)) : m Int32 :=
  valueCall hal ofU16 Radio.getRssiInst

/-- `slice::from_raw_parts`: the first `len` bytes behind a pointer. -/
def fromRawParts (memory : Nat → UInt8) (len : Nat) : Vector UInt8 len :=
  Vector.ofFn fun i => memory i

/-- Memory after a slice of it was overwritten in place. -/
def overwrite {n : Nat} (memory : Nat → UInt8) (buf : Vector UInt8 n) (address : Nat) : UInt8 :=
  if inside : address < n then buf[address] else memory address

def lr2021WriteTxFifo (hal : Option (Hal m)) (data : Option (Nat → UInt8)) (len : Int32) :
    m Int32 :=
  match data with
  | none => pure errParam
  | some memory =>
    if len < 0 then pure errParam
    else
      let buf := (fromRawParts memory len.toInt.toNat).toList
      statusCall hal fun h => Radio.writeTxFifo h buf

def lr2021ReadRxFifo (hal : Option (Hal m)) (out : Option (Nat → UInt8)) (len : Int32) :
    m (Int32 × Option (Nat → UInt8)) :=
  match out with
  | none => pure (errParam, none)
  | some memory =>
    if len < 0 then pure (errParam, some memory)
    else
      let buf := fromRawParts memory len.toInt.toNat
      withHal hal (Hal.errNullHal, some memory) fun h => do
        let (r, buf) ← Radio.readRxFifo h buf
        pure (statusOf r, some (overwrite memory buf))

/-- With both pointers in place and a length that fits a packet, it is the FIFO read of the
core. -/
theorem lr2021ReadRxFifo_of_le [LawfulMonad m] (hal : Hal m) (memory : Nat → UInt8) {len : Int32}
    (nonneg : ¬len < 0) (short : len.toInt.toNat ≤ Cmd.maxPacketLen) :
    lr2021ReadRxFifo (some hal) (some memory) len =
      (fun reply => (statusOf reply.1, some (overwrite memory reply.2))) <$>
        Xfer.readFifo hal Cmd.cmdReadRxFifo (fromRawParts memory len.toInt.toNat) := by
  rw [lr2021ReadRxFifo]
  simp only [if_neg nonneg]
  rw [withHal, map_eq_pure_bind, Radio.readRxFifo_of_le hal _ short]

def lr2021GetRxFifoLevel (hal : Option (Hal m)) : m Int32 :=
  valueCall hal ofU16 Radio.getRxFifoLevel

def lr2021GetTxFifoLevel (hal : Option (Hal m)) : m Int32 :=
  valueCall hal ofU16 Radio.getTxFifoLevel

def lr2021ClearRxFifo (hal : Option (Hal m)) : m Int32 :=
  statusCall hal Radio.clearRxFifo

def lr2021ClearTxFifo (hal : Option (Hal m)) : m Int32 :=
  statusCall hal Radio.clearTxFifo

/-- Bandwidth in Hz for a code. -/
def lr2021LoraBwHz (bw : Int32) : Int32 :=
  if ¬(0 ≤ bw ∧ bw ≤ 0xFF) then errParam
  else match Cmd.loraBwHz (asU8 bw) with
    | some hz => hz.toInt32
    | none => errParam

def lr2021LoraLdroNeeded (sf bw : Int32) : Int32 :=
  if ¬(0 ≤ sf ∧ sf ≤ 0xFF) ∨ ¬(0 ≤ bw ∧ bw ≤ 0xFF) then errParam
  else ofBool (Lora.ldroNeeded (asU8 sf) (asU8 bw))

def lr2021LoraSetModulationParams (hal : Option (Hal m)) (sf bw cr ldro highBand : Int32) :
    m Int32 :=
  if ¬(0 ≤ sf ∧ sf ≤ 0xFF) ∨ ¬(0 ≤ bw ∧ bw ≤ 0xFF) ∨ ¬(0 ≤ cr ∧ cr ≤ 0xFF) then pure errParam
  else statusCall hal fun h =>
    Lora.setModulationParams h (asU8 sf) (asU8 bw) (asU8 cr) (asU8 ldro) (highBand != 0)

def lr2021LoraSetPacketParams (hal : Option (Hal m))
    (preambleLen headerType payloadLen crc invertIq : Int32) : m Int32 :=
  if ¬(0 ≤ preambleLen ∧ preambleLen ≤ 0xFFFF) ∨ ¬(0 ≤ payloadLen ∧ payloadLen ≤ 0xFF) then
    pure errParam
  else statusCall hal fun h =>
    Lora.setPacketParams h (asU16 preambleLen) (asU8 headerType) (asU8 payloadLen) (asU8 crc)
      (asU8 invertIq)

def lr2021LoraSetSyncWord (hal : Option (Hal m)) (syncWord : Int32) : m Int32 :=
  statusCall hal fun h => Lora.setSyncWord h (asU8 syncWord)

def lr2021LoraSetSynchTimeout (hal : Option (Hal m)) (symbols mantExp : Int32) : m Int32 :=
  statusCall hal fun h => Lora.setSynchTimeout h (asU8 symbols) (mantExp != 0)

/-- Writes cr, has_crc, len, snr, rssi_pkt, rssi_signal and detector into `out[0..7]`. -/
def lr2021LoraGetPacketStatus (hal : Option (Hal m)) (out : Option (Vector Int32 7)) :
    m (Int32 × Option (Vector Int32 7)) :=
  cellsCall hal out Lora.getPacketStatus fun s cells =>
    cells |> put 0 (ofU8 s.cr) |> put 1 (ofBool s.hasCrc) |> put 2 (ofU8 s.len)
      |> put 3 s.snrPkt.toInt32 |> put 4 (ofU16 s.rssiPkt) |> put 5 (ofU16 s.rssiSignalPkt)
      |> put 6 (ofU8 s.detector)

/-- Writes received, CRC errors, header CRC errors and false syncs into `out[0..4]`. -/
def lr2021LoraGetRxStats (hal : Option (Hal m)) (out : Option (Vector Int32 4)) :
    m (Int32 × Option (Vector Int32 4)) :=
  cellsCall hal out Lora.getRxStats fun (rx, crc, hdr, fs) cells =>
    cells |> put 0 (ofU16 rx) |> put 1 (ofU16 crc) |> put 2 (ofU16 hdr) |> put 3 (ofU16 fs)

def lr2021ResetRxStats (hal : Option (Hal m)) : m Int32 :=
  statusCall hal Radio.resetRxStats

def lr2021LoraSetCadParams (hal : Option (Hal m))
    (symNum preambleOnly pnrDelta exitMode timeout detPeak : Int32) : m Int32 :=
  if timeout < 0 then pure errParam
  else statusCall hal fun h =>
    Lora.setCadParams h (asU8 symNum) (preambleOnly != 0) (asU8 pnrDelta) (asU8 exitMode)
      timeout.toUInt32 (asU8 detPeak)

def lr2021LoraSetCad (hal : Option (Hal m)) : m Int32 :=
  statusCall hal Lora.setCad

end Lr2021.Ffi
