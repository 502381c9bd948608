import Lr2021.Cmd
import Lr2021.Xfer
import Lr2021.Lib.BigEndian

set_option autoImplicit false

namespace Lr2021.System

open Cmd Xfer BigEndian

variable {m : Type → Type} [Monad m]

/-- Firmware identification from GetVersion. -/
structure Version where
  fwMajor : UInt8
  fwMinor : UInt8
  deriving DecidableEq, Repr

def getVersion (hal : Hal m) : Fallible m Version :=
  readReply hal cmdGetVersion fun buf : Vector UInt8 2 =>
    { fwMajor := buf[0]!, fwMinor := buf[1]! }

/-- A word from the hardware entropy source. -/
def getRandomNumber (hal : Hal m) : Fallible m UInt32 :=
  readReply hal cmdGetRandomNumber fun buf : Vector UInt8 4 =>
    ofBytes32 buf[0]! buf[1]! buf[2]! buf[3]!

def getErrors (hal : Hal m) : Fallible m UInt16 :=
  readReply hal cmdGetErrors fun buf : Vector UInt8 2 => ofBytes16 buf[0]! buf[1]!

def clearErrors (hal : Hal m) : Fallible m Unit :=
  hal.writeCmd cmdClearErrors []

def setStandby (hal : Hal m) (mode : UInt8) : Fallible m Unit :=
  hal.writeCmd cmdSetStandby [mode]

def setFs (hal : Hal m) : Fallible m Unit :=
  hal.writeCmd cmdSetFs []

def setSleep (hal : Hal m) (config : UInt8) (wakeupTicks : UInt32) : Fallible m Unit :=
  let params :=
    [config, (wakeupTicks >>> 16).toUInt8, (wakeupTicks >>> 8).toUInt8, wakeupTicks.toUInt8]
  hal.writeCmd cmdSetSleep params

/-- Loads the patch RAM. -/
def activatePram (hal : Hal m) : Fallible m Unit :=
  hal.writeCmd cmdActivatePram [0x00]

def calibrate (hal : Hal m) (blocks : UInt8) : Fallible m Unit :=
  hal.writeCmd cmdCalibrate [blocks]

/-- Assigns a DIO to a function such as the RF switch. -/
def setDioFunction (hal : Hal m) (dio function : UInt8) : Fallible m Unit :=
  hal.writeCmd cmdSetDioFunction [dio, function]

/-- Which chip modes drive a given RF-switch DIO high. -/
def setDioRfSwitchConfig (hal : Hal m) (dio modes : UInt8) : Fallible m Unit :=
  hal.writeCmd cmdSetDioRfSwitchConfig [dio, modes]

/-- Hands a pair of DIOs to the RF switch logic, one for Tx and one for Rx. -/
def setRfSwitch (hal : Hal m) (txDio txSleepPull rxDio rxSleepPull : UInt8) :
    Fallible m Unit := do
  setDioFunction hal txDio (dioFunctionRfSwitch ||| txSleepPull)
  setDioRfSwitchConfig hal txDio rfSwTx
  setDioFunction hal rxDio (dioFunctionRfSwitch ||| rxSleepPull)
  setDioRfSwitchConfig hal rxDio rfSwRx

end Lr2021.System
