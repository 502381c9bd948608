import Lr2021.Cmd
import Lr2021.Xfer
import Lr2021.Lib.BigEndian

set_option autoImplicit false

namespace Lr2021.Radio

open Cmd Xfer BigEndian

variable {m : Type → Type} [Monad m]

/-- Sets the carrier frequency. The tuning step is 1 Hz, so no scaling. -/
def setRfFrequency (hal : Hal m) (hz : UInt32) : Fallible m Unit :=
  hal.writeCmd cmdSetRfFrequency (bytes32 hz)

/-- Selects the modem. -/
def setPacketType (hal : Hal m) (packetType : UInt8) : Fallible m Unit :=
  hal.writeCmd cmdSetPacketType [packetType]

def getPacketType (hal : Hal m) : Fallible m UInt8 :=
  readReply hal cmdGetPacketType fun buf : Vector UInt8 1 => buf[0]!

/-- Chooses the low- or high-band receive chain, and its LNA boost. -/
def setRxPath (hal : Hal m) (path boost : UInt8) : Fallible m Unit :=
  hal.writeCmd cmdSetRxPath [path &&& 0x01, boost &&& 0x07]

def selPa (hal : Hal m) (pa : UInt8) : Fallible m Unit :=
  hal.writeCmd cmdSelPa [pa]

/-- Raw PA configuration. -/
def setPaConfig (hal : Hal m) (pa lfMode lfDutyCycle lfSlices hfDutyCycle : UInt8) :
    Fallible m Unit :=
  let params :=
    [(pa <<< 7) ||| (lfMode &&& 0x03),
      ((lfDutyCycle &&& 0x0F) <<< 4) ||| (lfSlices &&& 0x0F),
      hfDutyCycle &&& 0x1F]
  hal.writeCmd cmdSetPaConfig params

def setTxParams (hal : Hal m) (power : Int8) (ramp : UInt8) : Fallible m Unit :=
  hal.writeCmd cmdSetTxParams [power.toUInt8, ramp]

/-- One row of a PA optimal-setting table. -/
@[ext] structure PaEntry where
  dutyCycle : UInt8
  slices : UInt8
  val : Int8
  deriving DecidableEq, Repr

def pa (dutyCycle slices : UInt8) (val : Int8) : PaEntry := { dutyCycle, slices, val }

/-- Sub-GHz PA settings for -9..=+22 dBm. -/
def paLfTable : Vector PaEntry 32 := #v[
  pa 1 1 8, pa 2 2 1, pa 2 2 3, pa 2 2 5, pa 1 2 13, pa 2 1 13, pa 2 2 11, pa 2 2 13,
  pa 3 1 12, pa 1 1 18, pa 1 1 20, pa 1 1 23, pa 1 1 27, pa 1 1 33, pa 1 2 26, pa 1 2 31,
  pa 1 3 27, pa 1 1 37, pa 1 2 40, pa 2 1 38, pa 2 2 39, pa 2 4 40, pa 2 7 41, pa 3 2 39,
  pa 3 3 39, pa 3 6 38, pa 4 3 37, pa 4 5 37, pa 4 7 38, pa 5 3 37, pa 5 6 37, pa 6 7 35]

def lfPowerMin : Int8 := -9
def lfPowerMax : Int8 := 22

/-- The index computed for a power, by 8-bit subtraction. -/
def paLfRow (dbm : Int8) : Nat := (dbm - lfPowerMin).toInt.toNat

/-- On the powers that are let through the subtraction does not wrap. -/
theorem paLfRow_eq (dbm : Int8) (admitted : lfPowerMin ≤ dbm ∧ dbm ≤ lfPowerMax) :
    (paLfRow dbm : Int) = dbm.toInt + 9 ∧ dbm.toInt ≤ 22 := by
  have lower : (-9 : Int) ≤ dbm.toInt := Int8.le_iff_toInt_le.mp admitted.1
  have upper : dbm.toInt ≤ 22 := Int8.le_iff_toInt_le.mp admitted.2
  have exact : (dbm - lfPowerMin).toInt = Int.bmod (dbm.toInt - -9) (2 ^ 8) :=
    Int8.toInt_sub dbm lfPowerMin
  rw [paLfRow, exact, Int.bmod_def]
  omega

/-- Every power that is let through has a row: the table lookup cannot trap. -/
theorem paLfRow_lt (dbm : Int8) (admitted : lfPowerMin ≤ dbm ∧ dbm ≤ lfPowerMax) :
    paLfRow dbm < 32 := by
  have row := paLfRow_eq dbm admitted
  omega

/-- No two powers share a row. -/
theorem paLfTable_injective (i j : Fin 32) (same : paLfTable.get i = paLfTable.get j) :
    i = j := by
  revert i j
  decide

/-- The row of a power determines the power. -/
theorem dbm_of_row {dbm dbm' : Int8} (admitted : lfPowerMin ≤ dbm ∧ dbm ≤ lfPowerMax)
    (admitted' : lfPowerMin ≤ dbm' ∧ dbm' ≤ lfPowerMax)
    (same : paLfTable.get ⟨paLfRow dbm, paLfRow_lt dbm admitted⟩ =
      paLfTable.get ⟨paLfRow dbm', paLfRow_lt dbm' admitted'⟩) : dbm = dbm' := by
  have rows := paLfTable_injective _ _ same
  have row := (paLfRow_eq dbm admitted).1
  have row' := (paLfRow_eq dbm' admitted').1
  rw [Fin.mk.injEq] at rows
  exact Int8.toInt_inj.mp (by omega)

/-- Every row survives the nibbles it is packed into. -/
theorem paLfTable_fits (i : Fin 32) :
    (paLfTable.get i).dutyCycle % 16 = (paLfTable.get i).dutyCycle ∧
      (paLfTable.get i).slices % 16 = (paLfTable.get i).slices := by
  revert i
  decide

/-- Selects the sub-GHz PA and sets it up for `dbm`. -/
def setPowerDbm (hal : Hal m) (dbm : Int8) (ramp : UInt8) : Fallible m Unit :=
  if admitted : lfPowerMin ≤ dbm ∧ dbm ≤ lfPowerMax then do
    let entry := paLfTable.get ⟨paLfRow dbm, paLfRow_lt dbm admitted⟩
    selPa hal paLf
    setPaConfig hal paLf paLfModeFsm entry.dutyCycle entry.slices paHfDutyCycleUnused
    setTxParams hal entry.val ramp
  else
    throw Hal.errBuffer

/-- Timeouts are 24-bit counts of 1/32768 s. -/
def timeoutBytes (timeout : UInt32) : Except Int32 (List UInt8) :=
  if timeout > timeoutMax then .error Hal.errBuffer else .ok (bytes24 timeout)

/-- Enters receive. -/
def setRx (hal : Hal m) (timeout : UInt32) : Fallible m Unit := do
  let params ← timeoutBytes timeout
  hal.writeCmd cmdSetRx params

def setTx (hal : Hal m) (timeout : UInt32) : Fallible m Unit := do
  let params ← timeoutBytes timeout
  hal.writeCmd cmdSetTx params

/-- Enables interrupt sources on one of the two DIO vectors. -/
def setDioIrqConfig (hal : Hal m) (dio : UInt8) (irq : UInt32) : Fallible m Unit :=
  hal.writeCmd cmdSetDioIrqConfig (dio :: bytes32 irq)

/-- Reads the pending interrupt vector and clears it in the same command. -/
def getAndClearIrqStatus (hal : Hal m) : Fallible m UInt32 :=
  readReply hal cmdGetAndClearIrqStatus fun buf : Vector UInt8 4 =>
    ofBytes32 buf[0]! buf[1]! buf[2]! buf[3]!

def clearIrq (hal : Hal m) (irq : UInt32) : Fallible m Unit :=
  hal.writeCmd cmdClearIrq (bytes32 irq)

def writeTxFifo (hal : Hal m) (data : List UInt8) : Fallible m Unit :=
  if data.length > maxPacketLen then throw Hal.errBuffer
  else hal.writeCmd cmdWriteTxFifo data

/-- The bytes of a caller's buffer. -/
def buffer (out : List UInt8) : Vector UInt8 out.length := ⟨out.toArray, rfl⟩

/-- Drains `n` bytes of the Rx FIFO. -/
def readRxFifo {n : Nat} (hal : Hal m) (out : Vector UInt8 n) :
    m (Except Int32 Unit × Vector UInt8 n) :=
  if n > maxPacketLen then pure (.error Hal.errBuffer, out)
  else readFifo hal cmdReadRxFifo out

theorem readRxFifo_of_le {n : Nat} (hal : Hal m) (out : Vector UInt8 n)
    (short : n ≤ maxPacketLen) : readRxFifo hal out = readFifo hal cmdReadRxFifo out :=
  if_neg (Nat.not_lt.mpr short)

theorem readRxFifo_of_gt {n : Nat} (hal : Hal m) (out : Vector UInt8 n)
    (long : n > maxPacketLen) : readRxFifo hal out = pure (.error Hal.errBuffer, out) :=
  if_pos long

/-- How many bytes are waiting in the Rx FIFO. -/
def getRxFifoLevel (hal : Hal m) : Fallible m UInt16 :=
  readReply hal cmdGetRxFifoLevel fun buf : Vector UInt8 2 => ofBytes16 buf[0]! buf[1]!

def getTxFifoLevel (hal : Hal m) : Fallible m UInt16 :=
  readReply hal cmdGetTxFifoLevel fun buf : Vector UInt8 2 => ofBytes16 buf[0]! buf[1]!

def clearRxFifo (hal : Hal m) : Fallible m Unit :=
  hal.writeCmd cmdClearRxFifo []

def clearTxFifo (hal : Hal m) : Fallible m Unit :=
  hal.writeCmd cmdClearTxFifo []

/-- Instantaneous RSSI as a 9-bit half-dBm count. -/
def getRssiInst (hal : Hal m) : Fallible m UInt16 :=
  readReply hal cmdGetRssiInst fun buf : Vector UInt8 2 =>
    (buf[0]!.toUInt16 <<< 1) ||| ((buf[1]!.toUInt16 >>> 7) &&& 0x01)

def resetRxStats (hal : Hal m) : Fallible m Unit :=
  hal.writeCmd cmdResetRxStats []

end Lr2021.Radio
