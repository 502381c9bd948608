import Lr2021.System
import Lr2021.Radio
import Lr2021.Lora
import Lr2021.Flrc
import Lr2021.Ffi
import Lr2021.Shim
import Lr2021.Script
import Lr2021.Rig
import Lr2021.Chip
import Lr2021.CommandSeries
import Lr2021.RfSwitch
import Lr2021.PowerSetting
import Lr2021.CommandCodec
import Lr2021.AbiCommand
import Lr2021.ArgumentTruncation
import Lr2021.TimeFields
import Lr2021.Refusal
import Lr2021.ModulationSetup
import Lr2021.LdroDecision
import Lr2021.CarrierFrequency
import Lr2021.FlrcPacking
import Lr2021.PacketErrorRate
import Lr2021.Goodput
import Lr2021.StatusReads
import Lr2021.ReplyDecoding
import Lr2021.Calculation
import Lr2021.EntryPoint
import Lr2021.SignOfReturn
import Lr2021.FifoDrain
import Lr2021.FifoDiscipline
import Lr2021.ChipSelect
import Lr2021.Lib.Procedure
import Lr2021.Lib.RecordStream
import Lr2021.Lib.Assignments
import Lr2021.Module
import Lr2021.Link.Board
import Lr2021.Link.Driver
import Lr2021.Link.Modem
import Lr2021.Link.Transport
import Lr2021.Link.Inbox
import Lr2021.Link.Polling
import Lr2021.Link.Bench
import Lr2021.Link.Delivery
import Lr2021.Link.Bringup
import Lr2021.Link.LinkTest
import Lr2021.Link.Exits
import Lr2021.Link.Sending
import Lr2021.Link.WholeRun
import Lr2021.Link.Counting
import Lr2021.Link.Clock
import Lr2021.Link.Schedule
import Lr2021.ModuleCommands
import Lr2021.ModuleReads
import Lr2021.Link.CoreAgreement
import Lr2021.Link.Failures
import Lr2021.Lib.Clients
import Lr2021.ModuleSession
