import Lr2021.Link.Board

set_option autoImplicit false

/-! The class `Flrc`: bring-up, and the traffic of one radio. -/
namespace Lr2021.Link

open Procedure

def cmdReadRxFifo : UInt16 := 0x0001
def cmdWriteTxFifo : UInt16 := 0x0002
def cmdGetRxFifoLevel : UInt16 := 0x011C
def cmdClearRxFifo : UInt16 := 0x011E
def cmdClearTxFifo : UInt16 := 0x011F
def cmdGetVersion : UInt16 := 0x0101
def cmdSetDioFunction : UInt16 := 0x0112
def cmdSetDioRfSwitchConfig : UInt16 := 0x0113
def cmdSetDioIrqConfig : UInt16 := 0x0115
def cmdGetAndClearIrqStatus : UInt16 := 0x0117
def cmdCalibrate : UInt16 := 0x0122
def cmdSetStandby : UInt16 := 0x0128
def cmdActivatePram : UInt16 := 0x012D
def cmdSetRfFrequency : UInt16 := 0x0200
def cmdSetPaConfig : UInt16 := 0x0202
def cmdSetTxParams : UInt16 := 0x0203
def cmdSetPacketType : UInt16 := 0x0207
def cmdSetRx : UInt16 := 0x020C
def cmdSetTx : UInt16 := 0x020D
def cmdSelPa : UInt16 := 0x020F
def cmdSetFlrcModulationParams : UInt16 := 0x0248
def cmdSetFlrcPacketParams : UInt16 := 0x0249
def cmdSetFlrcSyncword : UInt16 := 0x024C

def packetTypeFlrc : UInt8 := 0x05
def standbyRc : UInt8 := 0x00

def irqRxDone : Nat := 1 <<< 18
def irqTxDone : Nat := 1 <<< 19
def irqTimeout : Nat := 1 <<< 21
def irqCrcError : Nat := 1 <<< 22

def rxContinuous : Int := 0xFFFFFF

def dioFunctionRfSwitch : UInt8 := (0x02 : UInt8) <<< 4
def dioSleepPullUp : UInt8 := 0x02
def dioSleepPullAuto : UInt8 := 0x03

def rfSwRx : UInt8 := ((1 : UInt8) <<< 1) ||| ((1 : UInt8) <<< 3)
def rfSwTx : UInt8 := ((1 : UInt8) <<< 2) ||| ((1 : UInt8) <<< 4)

def paRamp48u : UInt8 := 0x05

/-- `(paDutyCycle, paVal)` for -19..+12 dBm on the high band. -/
def paHf : List (Int × Int) := [
  (0, -38), (0, -36), (0, -34), (0, -32), (0, -30), (0, -28), (0, -26),
  (0, -24), (0, -22), (0, -20), (0, -18), (0, -16), (0, -14), (0, -12),
  (0, -10), (0, -8), (0, -6), (0, -4), (0, -2), (14, 4), (14, 6), (12, 7),
  (9, 8), (9, 10), (15, 15), (14, 16), (14, 18), (15, 21), (14, 22),
  (14, 24), (10, 24), (0, 24)]

def minPowerDbm : Int := -19
def maxPowerDbm : Int := 12

def powerRefused : String :=
  "power must be " ++ toString minPowerDbm ++ ".." ++ toString maxPowerDbm ++
    " dBm on the 2.4 GHz PA"

/-- The row of the table for a power, by Python's subscript. -/
def paHfRow (dbm : Int) : Option (Int × Int) :=
  let i := dbm - minPowerDbm
  if i < 0 then (if i + 32 < 0 then none else paHf[(i + 32).toNat]?) else paHf[i.toNat]?

/-- A byte of a Python integer: `(x >> shift) & 0xFF`. -/
def byteOf (x : Int) (shift : Nat) : UInt8 := UInt8.ofInt (x >>> shift)

/-- What one channel is configured with. -/
structure Settings where
  frequencyHz : Int
  brBw : Int
  cr : Int
  shaping : Int
  syncWord : Int
  powerDbm : Int
  payloadLen : Nat
  preamble : Nat
  deriving DecidableEq, Repr

section Configuration

variable {ε σ : Type} (board : Board ε σ) (fuel : Nat)

def version : Py ε σ (List UInt8) := read board fuel cmdGetVersion 4 []

def irq : Py ε σ Nat := do
  let b ← read board fuel cmdGetAndClearIrqStatus 4 []
  pure ((b[0]!.toNat <<< 24) ||| (b[1]!.toNat <<< 16) ||| (b[2]!.toNat <<< 8) ||| b[3]!.toNat)

/-- Hands DIO5 and DIO6 to the radio's RF switch logic. -/
def setRfSwitch : Py ε σ Unit :=
  [(5, dioSleepPullUp, rfSwTx), (6, dioSleepPullAuto, rfSwRx)].forM fun (dio, pull, modes) => do
    cmd board fuel cmdSetDioFunction [dio, dioFunctionRfSwitch ||| pull]
    cmd board fuel cmdSetDioRfSwitchConfig [dio, modes]

/-- Fixed length, so both ends agree without a header. -/
def setPacketParams (preamble payloadLen : Nat) : Py ε σ Unit :=
  let syncWordLen := 4
  let syncWordTx := 1
  let syncMatch := 1
  let fixed := 1
  let crc := 2
  cmd board fuel cmdSetFlrcPacketParams [
    byteOf (((preamble &&& 0x0F) <<< 2) ||| (syncWordLen / 2) : Nat) 0,
    byteOf (((syncWordTx &&& 0x03) <<< 6) ||| ((syncMatch &&& 0x07) <<< 3) ||| (fixed <<< 2) |||
      (crc &&& 0x03) : Nat) 0,
    byteOf payloadLen 8, byteOf payloadLen 0]

def setPower (dbm : Int) : Py ε σ Unit :=
  match paHfRow dbm with
  | none => raise .indexError
  | some (duty, paVal) => do
    cmd board fuel cmdSelPa [0x01]
    cmd board fuel cmdSetPaConfig [0x80, 0x67, byteOf (duty + 0x10) 0 &&& 0x1F]
    cmd board fuel cmdSetTxParams [byteOf paVal 0, paRamp48u]

/-- One round of the wait for the lock of the SPI object. -/
def lockRound (_ : Unit) : Py ε σ (Unit ⊕ Unit) := do
  if ← board.lock then pure (.inr ()) else pure (.inl ())

/-- Makes the driver's object. The settings of the SPI object and the pins that nothing here is
about are left out. -/
def init : Py ε σ Unit := do
  whileLoop (lockRound board) fuel ()
  board.cs true
  board.nreset true
  act fun node => ((), { node with payloadLen := 0 })

/-- Brings the chip up and configures one FLRC channel. -/
def begin (settings : Settings) : Py ε σ Unit := do
  if ¬(minPowerDbm ≤ settings.powerDbm ∧ settings.powerDbm ≤ maxPowerDbm) then
    raise (.valueError powerRefused)
  else
    reset board fuel
    -- Patch RAM before anything else.
    cmd board fuel cmdActivatePram [0x00]
    cmd board fuel cmdSetStandby [standbyRc]
    cmd board fuel cmdSetPacketType [packetTypeFlrc]
    match Module.modFlrcModulationParams board.python settings.brBw settings.cr
        settings.shaping with
    | .error e => raise (.native e)
    | .ok packed =>
      cmd board fuel cmdSetFlrcModulationParams [byteOf packed 8, byteOf packed 0]
      setPacketParams board fuel settings.preamble settings.payloadLen
      cmd board fuel cmdSetFlrcSyncword [0, byteOf settings.syncWord 24,
        byteOf settings.syncWord 16, byteOf settings.syncWord 8, byteOf settings.syncWord 0]
      cmd board fuel cmdSetRfFrequency [byteOf settings.frequencyHz 24,
        byteOf settings.frequencyHz 16, byteOf settings.frequencyHz 8,
        byteOf settings.frequencyHz 0]
      cmd board fuel cmdCalibrate [0x7F]
      setPower board fuel settings.powerDbm
      setRfSwitch board fuel
      cmd board fuel cmdSetDioIrqConfig [0x00, 0xFF, 0xFF, 0xFF, 0xFF]
      act fun node => ((), { node with payloadLen := settings.payloadLen })

end Configuration

/-- What a poll gives back: a packet, `False` or `None`. -/
inductive Polled where
  | packet (bytes : List UInt8)
  | crcFailure
  | nothing
  deriving DecidableEq, Repr

section Traffic

variable {ε σ : Type} (board : Board ε σ) (fuel : Nat)

/-- One round of the wait for TxDone. -/
def transmitRound (deadline : Nat) (_ : Unit) : Py ε σ (Unit ⊕ Bool) := do
  if (← board.now) < deadline then
    let flags ← irq board fuel
    if flags &&& irqTxDone ≠ 0 then pure (.inr true)
    else if flags &&& irqTimeout ≠ 0 then pure (.inr false)
    else pure (.inl ())
  else pure (.inr false)

/-- Sends one packet and waits for TxDone. True if it went out. -/
def transmit (data : List UInt8) (timeoutMs : Nat) : Py ε σ Bool := do
  cmd board fuel cmdClearTxFifo []
  cmd board fuel cmdWriteTxFifo data
  cmd board fuel cmdSetTx [0x00, 0x00, 0x00]
  let deadline := (← board.now) + timeoutMs * 1000000
  whileLoop (transmitRound board fuel deadline) fuel ()

def startReceive : Py ε σ Unit := do
  cmd board fuel cmdClearRxFifo []
  cmd board fuel cmdSetRx [byteOf rxContinuous 16, byteOf rxContinuous 8, byteOf rxContinuous 0]

/-- The one command whose reply has no status bytes in front of it. -/
def readFifo (length : Nat) : Py ε σ (List UInt8) := do
  waitBusy board fuel 200
  board.cs false
  board.write (frame cmdReadRxFifo [])
  let buf ← board.readinto length
  board.cs true
  pure buf

/-- Takes one packet, if one came. -/
def poll : Py ε σ Polled := do
  let flags ← irq board fuel
  if flags &&& irqCrcError ≠ 0 then
    cmd board fuel cmdClearRxFifo []
    pure .crcFailure
  else if flags &&& irqRxDone = 0 then pure .nothing
  else
    let level ← read board fuel cmdGetRxFifoLevel 2 []
    let payloadLen ← act fun node => (node.payloadLen, node)
    let length := min ((level[0]!.toNat <<< 8) ||| level[1]!.toNat) payloadLen
    if length = 0 then pure .nothing
    else
      let bytes ← readFifo board fuel length
      pure (.packet bytes)

end Traffic
end Lr2021.Link
