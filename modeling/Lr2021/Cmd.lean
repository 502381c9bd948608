set_option autoImplicit false

namespace Lr2021.Cmd

def cmdReadRxFifo : UInt16 := 0x0001
def cmdWriteTxFifo : UInt16 := 0x0002
def cmdGetRxFifoLevel : UInt16 := 0x011C
def cmdGetTxFifoLevel : UInt16 := 0x011D
def cmdClearRxFifo : UInt16 := 0x011E
def cmdClearTxFifo : UInt16 := 0x011F

/-- Longest LoRa payload the explicit header can describe. -/
def maxPacketLen : Nat := 255

def cmdGetVersion : UInt16 := 0x0101
def cmdGetErrors : UInt16 := 0x0110
def cmdClearErrors : UInt16 := 0x0111
def cmdSetDioFunction : UInt16 := 0x0112
def cmdSetDioRfSwitchConfig : UInt16 := 0x0113
def cmdSetDioIrqConfig : UInt16 := 0x0115
def cmdClearIrq : UInt16 := 0x0116
def cmdGetAndClearIrqStatus : UInt16 := 0x0117
def cmdCalibrate : UInt16 := 0x0122
def cmdGetRandomNumber : UInt16 := 0x0126
def cmdSetSleep : UInt16 := 0x0127
def cmdSetStandby : UInt16 := 0x0128
def cmdSetFs : UInt16 := 0x0129
def cmdActivatePram : UInt16 := 0x012D

def cmdSetRfFrequency : UInt16 := 0x0200
def cmdSetRxPath : UInt16 := 0x0201
def cmdSetPaConfig : UInt16 := 0x0202
def cmdSetTxParams : UInt16 := 0x0203
def cmdSetPacketType : UInt16 := 0x0207
def cmdGetPacketType : UInt16 := 0x0208
def cmdResetRxStats : UInt16 := 0x020A
def cmdSetRx : UInt16 := 0x020C
def cmdSetTx : UInt16 := 0x020D
def cmdSelPa : UInt16 := 0x020F
def cmdGetRssiInst : UInt16 := 0x020B

def cmdSetLoraModulationParams : UInt16 := 0x0220
def cmdSetLoraPacketParams : UInt16 := 0x0221
def cmdSetLoraSynchTimeout : UInt16 := 0x0222
def cmdSetLoraSyncword : UInt16 := 0x0223
def cmdSetLoraCadParams : UInt16 := 0x0227
def cmdSetLoraCad : UInt16 := 0x0228
def cmdGetLoraRxStats : UInt16 := 0x0229
def cmdGetLoraPacketStatus : UInt16 := 0x022A

def loraSfMin : UInt8 := 5
def loraSfMax : UInt8 := 12

/- Bandwidth codes, not monotonic in bandwidth. -/
@[match_pattern] def loraBw31 : UInt8 := 0x02
@[match_pattern] def loraBw41 : UInt8 := 0x0A
@[match_pattern] def loraBw62 : UInt8 := 0x03
@[match_pattern] def loraBw83 : UInt8 := 0x0B
@[match_pattern] def loraBw101 : UInt8 := 0x0C
@[match_pattern] def loraBw125 : UInt8 := 0x04
@[match_pattern] def loraBw203 : UInt8 := 0x0D
@[match_pattern] def loraBw250 : UInt8 := 0x05
@[match_pattern] def loraBw406 : UInt8 := 0x0E
@[match_pattern] def loraBw500 : UInt8 := 0x06
@[match_pattern] def loraBw812 : UInt8 := 0x0F
@[match_pattern] def loraBw1000 : UInt8 := 0x07

/-- Bandwidth in Hz for a code, or `none` if the code is not one. -/
def loraBwHz (bw : UInt8) : Option UInt32 :=
  match bw with
  | loraBw31 => some 31250
  | loraBw41 => some 41670
  | loraBw62 => some 62500
  | loraBw83 => some 83340
  | loraBw101 => some 101000
  | loraBw125 => some 125000
  | loraBw203 => some 203000
  | loraBw250 => some 250000
  | loraBw406 => some 406000
  | loraBw500 => some 500000
  | loraBw812 => some 812000
  | loraBw1000 => some 1000000
  | _ => none

/-- Whether a bandwidth code is only available on the 2.4 GHz path. -/
def bwNeedsHighBand (bw : UInt8) : Bool :=
  match bw with
  | loraBw41 | loraBw83 | loraBw101 | loraBw203 | loraBw406 | loraBw812 => true
  | _ => false

def loraCrMax : UInt8 := 0x09

/-- Timeouts are 24-bit. -/
def timeoutMax : UInt32 := 0x00FFFFFF

def paLf : UInt8 := 0x00
def paLfModeFsm : UInt8 := 0x00
def paHfDutyCycleUnused : UInt8 := 0x10

/-- `SetDioFunction` argument: hand the pin to the RF switch logic. -/
def dioFunctionRfSwitch : UInt8 := (0x02 : UInt8) <<< 4

/- Which modes assert an RF-switch DIO: standby, Rx, Tx, then high-band Rx and Tx. -/
def rfSwRx : UInt8 := ((1 : UInt8) <<< 1) ||| ((1 : UInt8) <<< 3)
def rfSwTx : UInt8 := ((1 : UInt8) <<< 2) ||| ((1 : UInt8) <<< 4)

@[match_pattern] def shapingNone : UInt8 := 0x00
@[match_pattern] def shapingGaussBt05 : UInt8 := 0x05
@[match_pattern] def shapingGaussBt10 : UInt8 := 0x07
@[match_pattern] def shapingRrcRolloff05 : UInt8 := 0x09

end Lr2021.Cmd
