import Lr2021.System
import Lr2021.Radio
import Lr2021.Lora

set_option autoImplicit false

namespace Lr2021

open Cmd BigEndian

variable {m : Type → Type} [Monad m]

/-- One command as it is handed to the transport. -/
structure Command where
  opcode : UInt16
  params : List UInt8
  deriving DecidableEq, Repr

def Command.bytes (command : Command) : List UInt8 := frame command.opcode command.params

/-- The single-command functions of `system.rs`, `radio.rs` and `lora.rs`, each with
the arguments of its Rust signature. -/
inductive CoreCall where
  | getVersion
  | getRandomNumber
  | getErrors
  | clearErrors
  | setStandby (mode : UInt8)
  | setFs
  | setSleep (config : UInt8) (wakeupTicks : UInt32)
  | activatePram
  | calibrate (blocks : UInt8)
  | setDioFunction (dio function : UInt8)
  | setDioRfSwitchConfig (dio modes : UInt8)
  | setRfFrequency (hz : UInt32)
  | setPacketType (packetType : UInt8)
  | getPacketType
  | setRxPath (path boost : UInt8)
  | selPa (pa : UInt8)
  | setPaConfig (pa lfMode lfDutyCycle lfSlices hfDutyCycle : UInt8)
  | setTxParams (power : Int8) (ramp : UInt8)
  | setRx (timeout : UInt32)
  | setTx (timeout : UInt32)
  | setDioIrqConfig (dio : UInt8) (irq : UInt32)
  | getAndClearIrqStatus
  | clearIrq (irq : UInt32)
  | writeTxFifo (data : List UInt8)
  | readRxFifo (out : List UInt8)
  | getRxFifoLevel
  | getTxFifoLevel
  | clearRxFifo
  | clearTxFifo
  | getRssiInst
  | resetRxStats
  | setModulationParams (sf bw cr ldro : UInt8) (highBand : Bool)
  | setPacketParams (preambleLen : UInt16) (headerType payloadLen crc invertIq : UInt8)
  | setSyncWord (syncWord : UInt8)
  | setSynchTimeout (symbols : UInt8) (mantissaExponent : Bool)
  | getPacketStatus
  | getRxStats
  | setCadParams (symNum : UInt8) (preambleOnly : Bool) (pnrDelta exitMode : UInt8)
      (timeout : UInt32) (detPeak : UInt8)
  | setCad
  deriving DecidableEq, Repr

namespace CoreCall

/-- The outcome of a read without its value. -/
def outcome {α : Type} (c : Fallible m α) : m (Except Int32 Unit) :=
  (fun r => r.map fun _ => ()) <$> c.run

/-- The call itself. -/
def run (hal : Hal m) : CoreCall → m (Except Int32 Unit)
  | getVersion => outcome (System.getVersion hal)
  | getRandomNumber => outcome (System.getRandomNumber hal)
  | getErrors => outcome (System.getErrors hal)
  | clearErrors => (System.clearErrors hal).run
  | setStandby mode => (System.setStandby hal mode).run
  | setFs => (System.setFs hal).run
  | setSleep config wakeupTicks => (System.setSleep hal config wakeupTicks).run
  | activatePram => (System.activatePram hal).run
  | calibrate blocks => (System.calibrate hal blocks).run
  | setDioFunction dio function => (System.setDioFunction hal dio function).run
  | setDioRfSwitchConfig dio modes => (System.setDioRfSwitchConfig hal dio modes).run
  | setRfFrequency hz => (Radio.setRfFrequency hal hz).run
  | setPacketType packetType => (Radio.setPacketType hal packetType).run
  | getPacketType => outcome (Radio.getPacketType hal)
  | setRxPath path boost => (Radio.setRxPath hal path boost).run
  | selPa pa => (Radio.selPa hal pa).run
  | setPaConfig pa lfMode lfDutyCycle lfSlices hfDutyCycle =>
      (Radio.setPaConfig hal pa lfMode lfDutyCycle lfSlices hfDutyCycle).run
  | setTxParams power ramp => (Radio.setTxParams hal power ramp).run
  | setRx timeout => (Radio.setRx hal timeout).run
  | setTx timeout => (Radio.setTx hal timeout).run
  | setDioIrqConfig dio irq => (Radio.setDioIrqConfig hal dio irq).run
  | getAndClearIrqStatus => outcome (Radio.getAndClearIrqStatus hal)
  | clearIrq irq => (Radio.clearIrq hal irq).run
  | writeTxFifo data => (Radio.writeTxFifo hal data).run
  | readRxFifo out => (·.1) <$> Radio.readRxFifo hal (Radio.buffer out)
  | getRxFifoLevel => outcome (Radio.getRxFifoLevel hal)
  | getTxFifoLevel => outcome (Radio.getTxFifoLevel hal)
  | clearRxFifo => (Radio.clearRxFifo hal).run
  | clearTxFifo => (Radio.clearTxFifo hal).run
  | getRssiInst => outcome (Radio.getRssiInst hal)
  | resetRxStats => (Radio.resetRxStats hal).run
  | setModulationParams sf bw cr ldro highBand =>
      (Lora.setModulationParams hal sf bw cr ldro highBand).run
  | setPacketParams preambleLen headerType payloadLen crc invertIq =>
      (Lora.setPacketParams hal preambleLen headerType payloadLen crc invertIq).run
  | setSyncWord syncWord => (Lora.setSyncWord hal syncWord).run
  | setSynchTimeout symbols mantissaExponent =>
      (Lora.setSynchTimeout hal symbols mantissaExponent).run
  | getPacketStatus => outcome (Lora.getPacketStatus hal)
  | getRxStats => outcome (Lora.getRxStats hal)
  | setCadParams symNum preambleOnly pnrDelta exitMode timeout detPeak =>
      (Lora.setCadParams hal symNum preambleOnly pnrDelta exitMode timeout detPeak).run
  | setCad => (Lora.setCad hal).run

/-- The command a call stands for, once its arguments are let through. -/
def wire : CoreCall → Command
  | getVersion => ⟨cmdGetVersion, []⟩
  | getRandomNumber => ⟨cmdGetRandomNumber, []⟩
  | getErrors => ⟨cmdGetErrors, []⟩
  | clearErrors => ⟨cmdClearErrors, []⟩
  | setStandby mode => ⟨cmdSetStandby, [mode]⟩
  | setFs => ⟨cmdSetFs, []⟩
  | setSleep config wakeupTicks => ⟨cmdSetSleep, config :: bytes24 wakeupTicks⟩
  | activatePram => ⟨cmdActivatePram, [0x00]⟩
  | calibrate blocks => ⟨cmdCalibrate, [blocks]⟩
  | setDioFunction dio function => ⟨cmdSetDioFunction, [dio, function]⟩
  | setDioRfSwitchConfig dio modes => ⟨cmdSetDioRfSwitchConfig, [dio, modes]⟩
  | setRfFrequency hz => ⟨cmdSetRfFrequency, bytes32 hz⟩
  | setPacketType packetType => ⟨cmdSetPacketType, [packetType]⟩
  | getPacketType => ⟨cmdGetPacketType, []⟩
  | setRxPath path boost => ⟨cmdSetRxPath, [path &&& 0x01, boost &&& 0x07]⟩
  | selPa pa => ⟨cmdSelPa, [pa]⟩
  | setPaConfig pa lfMode lfDutyCycle lfSlices hfDutyCycle =>
      ⟨cmdSetPaConfig, [(pa <<< 7) ||| (lfMode &&& 0x03),
        ((lfDutyCycle &&& 0x0F) <<< 4) ||| (lfSlices &&& 0x0F), hfDutyCycle &&& 0x1F]⟩
  | setTxParams power ramp => ⟨cmdSetTxParams, [power.toUInt8, ramp]⟩
  | setRx timeout => ⟨cmdSetRx, bytes24 timeout⟩
  | setTx timeout => ⟨cmdSetTx, bytes24 timeout⟩
  | setDioIrqConfig dio irq => ⟨cmdSetDioIrqConfig, dio :: bytes32 irq⟩
  | getAndClearIrqStatus => ⟨cmdGetAndClearIrqStatus, []⟩
  | clearIrq irq => ⟨cmdClearIrq, bytes32 irq⟩
  | writeTxFifo data => ⟨cmdWriteTxFifo, data⟩
  | readRxFifo _ => ⟨cmdReadRxFifo, []⟩
  | getRxFifoLevel => ⟨cmdGetRxFifoLevel, []⟩
  | getTxFifoLevel => ⟨cmdGetTxFifoLevel, []⟩
  | clearRxFifo => ⟨cmdClearRxFifo, []⟩
  | clearTxFifo => ⟨cmdClearTxFifo, []⟩
  | getRssiInst => ⟨cmdGetRssiInst, []⟩
  | resetRxStats => ⟨cmdResetRxStats, []⟩
  | setModulationParams sf bw cr ldro _ =>
      ⟨cmdSetLoraModulationParams, Lora.modulationParams sf bw cr ldro⟩
  | setPacketParams preambleLen headerType payloadLen crc invertIq =>
      ⟨cmdSetLoraPacketParams,
        Lora.packetParams preambleLen headerType payloadLen crc invertIq⟩
  | setSyncWord syncWord => ⟨cmdSetLoraSyncword, [syncWord]⟩
  | setSynchTimeout symbols mantissaExponent =>
      ⟨cmdSetLoraSynchTimeout, [symbols, mantissaExponent.toUInt8]⟩
  | getPacketStatus => ⟨cmdGetLoraPacketStatus, []⟩
  | getRxStats => ⟨cmdGetLoraRxStats, []⟩
  | setCadParams symNum preambleOnly pnrDelta exitMode timeout detPeak =>
      ⟨cmdSetLoraCadParams, [symNum, (preambleOnly.toUInt8 <<< 4) ||| (pnrDelta &&& 0x0F),
        exitMode] ++ bytes24 timeout ++ [detPeak &&& 0x7F]⟩
  | setCad => ⟨cmdSetLoraCad, []⟩

/-- The arguments the core refuses, always with the same code. -/
def refused : CoreCall → Bool
  | setRx timeout | setTx timeout => timeout > timeoutMax
  | setCadParams _ _ _ _ timeout _ => timeout > timeoutMax
  | writeTxFifo data => data.length > maxPacketLen
  | readRxFifo out => out.length > maxPacketLen
  | setModulationParams sf bw cr _ highBand => (Lora.validate sf bw cr highBand).isOk = false
  | _ => false

end CoreCall
end Lr2021
