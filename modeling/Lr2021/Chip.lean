import Lr2021.Hal
import Lr2021.Cmd
import Lr2021.Lib.BigEndian

set_option autoImplicit false

/-! The chip's end of the bus, as far as its Rx FIFO and the registers that are polled
beside it go. -/
namespace Lr2021

open Cmd BigEndian

/-- The two status bytes of a chip that answers. -/
structure StatusBytes where
  first : UInt8
  second : UInt8
  driven : ¬(first = 0x00 ∨ first = 0xFF)

/-- What the status-carrying reads are answered from. -/
structure Registers where
  status : StatusBytes
  irq : UInt32
  packetStatus : Vector UInt8 6
  received : UInt16
  crcErrors : UInt16
  headerErrors : UInt16
  falseSyncs : UInt16
  rssi : Vector UInt8 2

/-- A chip on the bus: whether NSS is low, what it has been sent since NSS fell, and what
is left of its last answer. -/
structure Chip where
  selected : Bool
  sent : List UInt8
  reply : List UInt8
  fifo : List UInt8
  registers : Registers

/-- The next `count` bytes of an answer, zeros past its end. -/
def clocked (count : Nat) (bytes : List UInt8) : Vector UInt8 count :=
  Vector.ofFn fun i => bytes.getD i 0

theorem getElem_clocked {count : Nat} {bytes : List UInt8} (i : Nat) (inside : i < count)
    (enough : i < bytes.length) : (clocked count bytes)[i] = bytes[i] := by
  simp only [clocked, Vector.getElem_ofFn]
  rw [List.getD_eq_getElem?_getD, List.getElem?_eq_getElem enough, Option.getD_some]

theorem toList_clocked {count : Nat} {bytes : List UInt8} (enough : count ≤ bytes.length) :
    (clocked count bytes).toList = bytes.take count := by
  apply List.ext_getElem
  · rw [Vector.length_toList, List.length_take, Nat.min_eq_left enough]
  · intro i inside _
    rw [Vector.length_toList] at inside
    rw [Vector.getElem_toList, getElem_clocked i inside (by omega), List.getElem_take]

theorem clocked_toList {n : Nat} (bytes : Vector UInt8 n) : clocked n bytes.toList = bytes := by
  ext i inside
  rw [getElem_clocked i inside (by rwa [Vector.length_toList]), Vector.getElem_toList]

namespace Chip

/-- The payload of a status-carrying read, and the registers it leaves behind. -/
def answer (fifo : List UInt8) (registers : Registers) (command : List UInt8) :
    Option (List UInt8 × Registers) :=
  if command = frame cmdGetRxFifoLevel [] then
    some (bytes16 (UInt16.ofNat fifo.length), registers)
  else if command = frame cmdGetAndClearIrqStatus [] then
    some (bytes32 registers.irq, { registers with irq := 0 })
  else if command = frame cmdGetLoraPacketStatus [] then
    some (registers.packetStatus.toList, registers)
  else if command = frame cmdGetLoraRxStats [] then
    some (bytes16 registers.received ++ bytes16 registers.crcErrors ++
      bytes16 registers.headerErrors ++ bytes16 registers.falseSyncs, registers)
  else if command = frame cmdGetRssiInst [] then
    some (registers.rssi.toList, registers)
  else none

/-- Carries out what was sent once NSS rises. -/
def obey (chip : Chip) : Chip :=
  match answer chip.fifo chip.registers chip.sent with
  | some (payload, registers) =>
      { chip with
        reply := chip.registers.status.first :: chip.registers.status.second :: payload
        registers }
  | none => chip

def select (level : Int32) (chip : Chip) : Chip :=
  if level = 0 then { chip with selected := true, sent := [] }
  else if chip.selected then { chip.obey with selected := false }
  else chip

def write (bytes : List UInt8) (chip : Chip) : Chip :=
  if chip.selected then { chip with sent := chip.sent ++ bytes } else chip

/-- What a read of `count` bytes clocks out: the Rx FIFO after its opcode, and the last
answer where no opcode has been sent. -/
def read (count : Nat) (chip : Chip) : Vector UInt8 count × Chip :=
  if chip.selected then
    if chip.sent = frame cmdReadRxFifo [] then
      (clocked count chip.fifo, { chip with fifo := chip.fifo.drop count })
    else if chip.sent = [] then
      (clocked count chip.reply, { chip with reply := chip.reply.drop count })
    else (Vector.replicate count 0, chip)
  else (Vector.replicate count 0, chip)

/-- A command that is only sent. -/
def send (opcode : UInt16) (params : List UInt8) (chip : Chip) : Chip :=
  ((chip.select 0).write (frame opcode params)).select 1

/-- A command with its answer: the opcode in one NSS assertion, the status bytes and the
payload in the next. -/
def exchange (status : Nat) (opcode : UInt16) (params : List UInt8) (count : Nat) (chip : Chip) :
    (Vector UInt8 status × Vector UInt8 count) × Chip :=
  let first := ((chip.send opcode params).select 0).read status
  let payload := first.2.read count
  ((first.1, payload.1), payload.2.select 1)

/-- A read of the Rx FIFO: opcode and payload in one NSS assertion. -/
def stream (count : Nat) (chip : Chip) : Vector UInt8 count × Chip :=
  let bytes := ((chip.select 0).write (frame cmdReadRxFifo [])).read count
  (bytes.1, bytes.2.select 1)

/-- Reading the FIFO takes its first bytes off it and leaves all else as it is. -/
theorem stream_eq (count : Nat) (chip : Chip) :
    chip.stream count = (clocked count chip.fifo,
      { chip with
        selected := false
        sent := frame cmdReadRxFifo []
        fifo := chip.fifo.drop count }) := by
  have unanswered :
      answer (chip.fifo.drop count) chip.registers (frame cmdReadRxFifo []) = none := rfl
  simp only [stream, select, write, read, if_true, List.nil_append, obey, unanswered]
  rfl

/-- A status-carrying read that the chip knows is answered with its own payload, whatever
was left of the last answer, and does not touch the FIFO. -/
theorem exchange_eq {opcode : UInt16} {payload : List UInt8} {registers : Registers} (count : Nat)
    (chip : Chip)
    (known : answer chip.fifo chip.registers (frame opcode []) = some (payload, registers)) :
    chip.exchange 2 opcode [] count =
      ((#v[chip.registers.status.first, chip.registers.status.second], clocked count payload),
        { selected := false
          sent := []
          reply := payload.drop count
          fifo := chip.fifo
          registers }) := by
  simp only [exchange, send, select, write, read, if_true, List.nil_append, obey, known]
  rfl

end Chip

/-- A host whose bus ends in the chip and never fails. What else the host keeps is its
own. -/
structure Wired {host : Type} (hal : Hal (StateM (host × Chip))) : Prop where
  waitBusy : ∀ h chip, ∃ h', hal.waitBusy.run (h, chip) = (.ok (), (h', chip))
  select : ∀ level h chip, ∃ h',
    (hal.select level).run (h, chip) = (.ok (), (h', chip.select level))
  write : ∀ bytes h chip, ∃ h', (hal.write bytes).run (h, chip) = (.ok (), (h', chip.write bytes))
  read : ∀ {n : Nat} (out : Vector UInt8 n) h chip, ∃ h',
    hal.read out (h, chip) = ((.ok (), (chip.read n).1), (h', (chip.read n).2))
  readCmd : ∀ {n : Nat} opcode params (out : Vector UInt8 n) h chip, ∃ h',
    hal.readCmd 2 opcode params out (h, chip) =
      ((.ok (chip.exchange 2 opcode params n).1.1, (chip.exchange 2 opcode params n).1.2),
        (h', (chip.exchange 2 opcode params n).2))

namespace Chip

/-- A step of the chip, seen from a host that keeps nothing. -/
def onBus {α : Type} (step : Chip → α × Chip) : StateM (Unit × Chip) α :=
  fun s => ((step s.2).1, ((), (step s.2).2))

def hal : Hal (StateM (Unit × Chip)) where
  waitBusy := ExceptT.mk (onBus fun chip => (.ok (), chip))
  select level := ExceptT.mk (onBus fun chip => (.ok (), chip.select level))
  write bytes := ExceptT.mk (onBus fun chip => (.ok (), chip.write bytes))
  read {n} _ := (fun bytes => (.ok (), bytes)) <$> onBus (read n)
  writeCmd opcode params := ExceptT.mk (onBus fun chip => (.ok (), chip.send opcode params))
  readCmd {n} status opcode params _ :=
    (fun reply => (.ok reply.1, reply.2)) <$> onBus (exchange status opcode params n)
  getStatus := ExceptT.mk (onBus fun chip =>
    let status := (chip.select 0).read 6
    (.ok (status.1[0]!, status.1[1]!,
      ofBytes32 status.1[2]! status.1[3]! status.1[4]! status.1[5]!), status.2.select 1))

theorem wired : Wired hal where
  waitBusy _ _ := ⟨(), rfl⟩
  select _ _ _ := ⟨(), rfl⟩
  write _ _ _ := ⟨(), rfl⟩
  read _ _ _ := ⟨(), rfl⟩
  readCmd _ _ _ _ _ := ⟨(), rfl⟩

end Chip
end Lr2021
