import Lr2021.Chip
import Lr2021.Radio
import Lr2021.Lora
import Lr2021.ReadFifoTrace
import Lr2021.ReplyDecoding
import Lr2021.Lib.Runs

set_option autoImplicit false

/-! Draining the Rx FIFO in pieces, between the other reads. -/
namespace Lr2021

open Cmd BigEndian FixedWidth TraceLogic

/-- A read of the core, or the chip's registers changing on their own in between. -/
inductive Request where
  | readRxFifo (out : List UInt8)
  | getRxFifoLevel
  | getAndClearIrqStatus
  | getPacketStatus
  | getRxStats
  | getRssiInst
  | elapse (registers : Registers)

/-- What a request gives back. -/
inductive Reply where
  | bytes (r : Except Int32 Unit) (out : List UInt8)
  | level (r : Except Int32 UInt16)
  | irq (r : Except Int32 UInt32)
  | packetStatus (r : Except Int32 Lora.PacketStatus)
  | rxStats (r : Except Int32 (UInt16 × UInt16 × UInt16 × UInt16))
  | rssi (r : Except Int32 UInt16)
  | quiet

/-- The request through the core, on a host. -/
def Request.issue {host : Type} (hal : Hal (StateM (host × Chip))) :
    Request → StateM (host × Chip) Reply
  | readRxFifo out =>
      (fun reply => .bytes reply.1 reply.2.toList) <$>
        Radio.readRxFifo hal (Radio.buffer out)
  | getRxFifoLevel => .level <$> (Radio.getRxFifoLevel hal).run
  | getAndClearIrqStatus => .irq <$> (Radio.getAndClearIrqStatus hal).run
  | getPacketStatus => .packetStatus <$> (Lora.getPacketStatus hal).run
  | getRxStats => .rxStats <$> (Lora.getRxStats hal).run
  | getRssiInst => .rssi <$> (Radio.getRssiInst hal).run
  | elapse registers => fun s => (.quiet, (s.1, { s.2 with registers }))

/-- What the requests are about: a byte list and the registers beside it. -/
structure Stock where
  fifo : List UInt8
  registers : Registers

/-- What the packet-status bytes say, from the value of each byte: the coding rate in the low half
of the first and the CRC flag above it, the length, the SNR in two's complement, the RSSIs with
their ninth bits in the last, and there the detector, as the place of the one bit set. -/
def Registers.packetFields (registers : Registers) : Lora.PacketStatus where
  cr := UInt8.ofNat (registers.packetStatus[0]!.toNat % 16)
  hasCrc := registers.packetStatus[0]!.toNat / 16 % 2 == 1
  len := registers.packetStatus[1]!
  snrPkt := Int8.ofInt registers.packetStatus[2]!.toNat
  rssiPkt := UInt16.ofNat
    (registers.packetStatus[3]!.toNat * 2 + registers.packetStatus[5]!.toNat / 2 % 2)
  rssiSignalPkt := UInt16.ofNat
    (registers.packetStatus[4]!.toNat * 2 + registers.packetStatus[5]!.toNat % 2)
  detector :=
    match registers.packetStatus[5]!.toNat / 4 % 16 with
    | 2 => 1
    | 4 => 2
    | 8 => 3
    | _ => 0

/-- The request on the stock itself. -/
def Request.serve : Request → Stock → Reply × Stock
  | readRxFifo out, stock =>
      if out.length > maxPacketLen then (.bytes (.error Hal.errBuffer) out, stock)
      else (.bytes (.ok ()) (stock.fifo.take out.length),
        { stock with fifo := stock.fifo.drop out.length })
  | getRxFifoLevel, stock => (.level (.ok (UInt16.ofNat stock.fifo.length)), stock)
  | getAndClearIrqStatus, stock =>
      (.irq (.ok stock.registers.irq),
        { stock with registers := { stock.registers with irq := 0 } })
  | getPacketStatus, stock =>
      (.packetStatus (.ok stock.registers.packetFields), stock)
  | getRxStats, { fifo, registers } =>
      (.rxStats (.ok (registers.received, registers.crcErrors, registers.headerErrors,
        registers.falseSyncs)), { fifo, registers })
  | getRssiInst, stock =>
      (.rssi (.ok (UInt16.ofNat
        (stock.registers.rssi[0]!.toNat * 2 + stock.registers.rssi[1]!.toNat / 128))), stock)
  | elapse registers, stock => (.quiet, { stock with registers })

/-- How much a request takes off the FIFO. -/
def Request.taken : Request → Nat
  | readRxFifo out => if out.length > maxPacketLen then 0 else out.length
  | _ => 0

/-- How much a list of requests takes. -/
def taken : List Request → Nat
  | [] => 0
  | request :: rest => request.taken + taken rest

/-- The bytes that the successful FIFO reads of a run returned, joined. -/
def drained : List Reply → List UInt8
  | [] => []
  | .bytes (.ok ()) out :: rest => out ++ drained rest
  | _ :: rest => drained rest

namespace Chip

variable {host : Type} {hal : Hal (StateM (host × Chip))}

def stock (chip : Chip) : Stock := { fifo := chip.fifo, registers := chip.registers }

/-- Between requests the chip is deselected and stands for a stock. What it was last
sent and what is left of its last answer do not matter. -/
def StandsFor (s : host × Chip) (stock : Stock) : Prop :=
  s.2.selected = false ∧ s.2.stock = stock

/-- The FIFO read is one NSS assertion that streams. -/
theorem readFifo_run (wired : Wired hal) {n : Nat} (out : Vector UInt8 n) (h : host) (chip : Chip) :
    ∃ h', Xfer.readFifo hal cmdReadRxFifo out (h, chip) =
      ((.ok (), (chip.stream n).1), (h', (chip.stream n).2)) := by
  obtain ⟨h₁, busy⟩ := wired.waitBusy h chip
  obtain ⟨h₂, select⟩ := wired.select 0 h₁ chip
  obtain ⟨h₃, write⟩ := wired.write (frame cmdReadRxFifo []) h₂ (chip.select 0)
  obtain ⟨h₄, read⟩ := wired.read out h₃ ((chip.select 0).write (frame cmdReadRxFifo []))
  obtain ⟨h₅, deselect⟩ := wired.select 1 h₄
    (((chip.select 0).write (frame cmdReadRxFifo [])).read n).2
  obtain ⟨h₆, ready⟩ := wired.waitBusy h₅
    ((((chip.select 0).write (frame cmdReadRxFifo [])).read n).2.select 1)
  refine ⟨h₆, ?_⟩
  rw [Xfer.readFifo_eq, bind_apply, busy]
  dsimp only
  rw [bind_apply, select]
  dsimp only
  rw [bind_apply, write]
  dsimp only
  rw [bind_apply, read]
  dsimp only
  rw [Xfer.concludeFifo, bind_apply, deselect]
  dsimp only
  rw [bind_apply, ready]
  rfl

/-- A status-carrying read decodes the payload that the chip has for its opcode. -/
theorem readReply_serves (wired : Wired hal) {n : Nat} {α : Type} {opcode : UInt16}
    (wrap : Except Int32 α → Reply) (decode : Vector UInt8 n → α) {payload : List UInt8}
    {registers : Registers} {value : α} (h : host) (chip : Chip)
    (known : answer chip.fifo chip.registers (frame opcode []) = some (payload, registers))
    (decoded : decode (clocked n payload) = value) :
    ((wrap <$> (Xfer.readReply hal opcode decode).run) (h, chip)).1 = wrap (.ok value) ∧
      StandsFor ((wrap <$> (Xfer.readReply hal opcode decode).run) (h, chip)).2
        { fifo := chip.fifo, registers } := by
  obtain ⟨h', reply⟩ := wired.readCmd opcode [] (Vector.replicate n 0) h chip
  rw [exchange_eq n chip known] at reply
  rw [Xfer.readReply_run, map_apply, map_apply, reply]
  refine ⟨congrArg wrap ?_, rfl, rfl⟩
  rw [← decoded]
  exact if_neg chip.registers.status.driven

end Chip

/-- The decoder reads every field from its own bits. -/
theorem Registers.decodePacketStatus_eq (registers : Registers) :
    Lora.decodePacketStatus registers.packetStatus = registers.packetFields := by
  have coding : ∀ byte : UInt8, byte &&& 0x0F = UInt8.ofNat (byte.toNat % 16) :=
    forall_byte (by decide +kernel)
  have flag : ∀ byte : UInt8, (byte &&& 0x10 != 0) = (byte.toNat / 16 % 2 == 1) :=
    forall_byte (by decide +kernel)
  have signed : ∀ byte : UInt8, byte.toInt8 = Int8.ofInt byte.toNat :=
    forall_byte (by decide +kernel)
  have detector : ∀ flags : UInt8,
      (Lora.decodePacketStatus #v[0, 0, 0, 0, 0, flags]).detector =
        match flags.toNat / 4 % 16 with
        | 2 => 1
        | 4 => 2
        | 8 => 3
        | _ => 0 :=
    forall_byte (by decide +kernel)
  have nine {word : UInt16} {n : Nat} (value : word.toNat = n) : word = UInt16.ofNat n := by
    rw [← value, UInt16.ofNat_toNat]
  unfold packetFields
  rw [← coding, ← flag, ← signed, ← detector, ← nine (Lora.toNat_rssiPkt registers.packetStatus),
    ← nine (Lora.toNat_rssiSignalPkt registers.packetStatus)]
  rfl

/-- The FIFO still holds what a request asks for. -/
def Request.Within (request : Request) (stock : Stock) : Prop :=
  request.taken ≤ stock.fifo.length

/-- Through the core, a request does to the chip what it should do to the stock. -/
theorem Request.issue_serves {host : Type} {hal : Hal (StateM (host × Chip))} (wired : Wired hal)
    (request : Request) (s : host × Chip) (stock : Stock) (stands : Chip.StandsFor s stock)
    (within : request.Within stock) :
    (request.issue hal s).1 = (request.serve stock).1 ∧
      Chip.StandsFor (request.issue hal s).2 (request.serve stock).2 := by
  obtain ⟨h, chip⟩ := s
  obtain ⟨idle, rfl⟩ := stands
  cases request with
  | readRxFifo out =>
    rw [issue, serve, map_apply]
    by_cases long : out.length > maxPacketLen
    · rw [if_pos long, Radio.readRxFifo_of_gt hal _ long]
      exact ⟨rfl, idle, rfl⟩
    · have enough : out.length ≤ chip.fifo.length := by
        rwa [Request.Within, taken, if_neg long] at within
      obtain ⟨h', ran⟩ := Chip.readFifo_run wired (Radio.buffer out) h chip
      rw [if_neg long, Radio.readRxFifo_of_le hal _ (Nat.not_lt.mp long), ran, Chip.stream_eq]
      exact ⟨congrArg (Reply.bytes (.ok ())) (toList_clocked enough), rfl, rfl⟩
  | getRxFifoLevel =>
    exact Chip.readReply_serves wired .level _ h chip rfl (ofBytes16_shifts _)
  | getAndClearIrqStatus =>
    exact Chip.readReply_serves wired .irq _ h chip rfl (ofBytes32_shifts _)
  | getPacketStatus =>
    exact Chip.readReply_serves wired .packetStatus _ h chip rfl
      ((congrArg Lora.decodePacketStatus (clocked_toList _)).trans
        chip.registers.decodePacketStatus_eq)
  | getRxStats =>
    refine Chip.readReply_serves wired .rxStats _ h chip rfl ?_
    refine Prod.ext (ofBytes16_shifts _) (Prod.ext (ofBytes16_shifts _) ?_)
    exact Prod.ext (ofBytes16_shifts _) (ofBytes16_shifts _)
  | getRssiInst =>
    refine Chip.readReply_serves wired .rssi _ h chip rfl (UInt16.toNat_inj.mp ?_)
    have small := chip.registers.rssi[0]!.toNat_lt
    have bit := chip.registers.rssi[1]!.toNat_lt
    change _ = (UInt16.ofNat
      (chip.registers.rssi[0]!.toNat * 2 + chip.registers.rssi[1]!.toNat / 128)).toNat
    rw [UInt16.toNat_ofNat', Nat.mod_eq_of_lt (by omega), clocked_toList]
    exact Lora.toNat_rssiInst _ _
  | elapse registers => exact ⟨rfl, idle, rfl⟩

/-- A request takes the first bytes off the stock and gives back just these. -/
theorem Request.serve_drains (request : Request) (stock : Stock) :
    drained [(request.serve stock).1] = stock.fifo.take request.taken ∧
      (request.serve stock).2.fifo = stock.fifo.drop request.taken := by
  cases request with
  | readRxFifo out =>
    rw [serve, taken]
    split
    · exact ⟨rfl, rfl⟩
    · exact ⟨List.append_nil _, rfl⟩
  | _ => exact ⟨rfl, rfl⟩

theorem drained_append (first second : List Reply) :
    drained (first ++ second) = drained first ++ drained second := by
  fun_induction drained first with
  | case1 => rfl
  | case2 out rest ih => rw [List.cons_append, drained, ih, List.append_assoc]
  | case3 reply rest other ih => rw [List.cons_append, drained, ih]; exact other

/-- So do requests in a row, however they cut the stock up. -/
theorem serve_run (requests : List Request) (stock : Stock) :
    drained (Runs.run Request.serve requests stock).1 = stock.fifo.take (taken requests) ∧
      (Runs.run Request.serve requests stock).2.fifo = stock.fifo.drop (taken requests) := by
  induction requests generalizing stock with
  | nil => exact ⟨rfl, rfl⟩
  | cons request rest ih =>
    obtain ⟨first, left⟩ := request.serve_drains stock
    obtain ⟨joined, leaves⟩ := ih (request.serve stock).2
    have total : taken (request :: rest) = request.taken + taken rest := rfl
    rw [left] at joined leaves
    simp only [Runs.run, total]
    constructor
    · rw [← List.singleton_append, drained_append, first, joined, List.take_add]
    · rw [leaves, List.drop_drop]

/-- Requests that take no more than there is each find what they ask for. -/
theorem allEnabled_of_taken (requests : List Request) (stock : Stock)
    (within : taken requests ≤ stock.fifo.length) :
    Runs.AllEnabled Request.serve Request.Within requests stock := by
  induction requests generalizing stock with
  | nil => exact trivial
  | cons request rest ih =>
    have total : taken (request :: rest) = request.taken + taken rest := rfl
    refine ⟨?_, ih _ ?_⟩
    · unfold Request.Within
      omega
    · rw [(request.serve_drains stock).2, List.length_drop]
      omega

/-- A run of requests through the core loses, duplicates and shifts nothing: joined, the
FIFO reads are the start of the FIFO, what they leave is its rest, and every other read
answers for the stock as it then is, the level with its present length. A request for more
than 255 bytes changes nothing. -/
theorem drain_exact {host : Type} {hal : Hal (StateM (host × Chip))} (wired : Wired hal)
    (requests : List Request) (h : host) (chip : Chip) (idle : chip.selected = false)
    (within : taken requests ≤ chip.fifo.length) :
    let ran := Runs.run (Request.issue hal) requests (h, chip)
    drained ran.1 = chip.fifo.take (taken requests) ∧
      ran.2.2.fifo = chip.fifo.drop (taken requests) ∧
      ran.2.2.selected = false ∧
      ran.1 = (Runs.run Request.serve requests chip.stock).1 ∧
      (chip.fifo.length < 65536 → ∀ before after, requests = before ++ .getRxFifoLevel :: after →
        ∃ level : UInt16, ran.1[before.length]? = some (.level (.ok level)) ∧
          level.toNat = chip.fifo.length - taken before) ∧
      ∀ out, out.length > maxPacketLen → ∀ s,
        Request.issue hal (.readRxFifo out) s = (.bytes (.error Hal.errBuffer) out, s) := by
  intro ran
  obtain ⟨same, left, stands⟩ := Runs.run_refines (Request.issue_serves wired) requests (h, chip)
    chip.stock ⟨idle, rfl⟩ (allEnabled_of_taken requests chip.stock within)
  obtain ⟨joined, leaves⟩ := serve_run requests chip.stock
  refine ⟨(congrArg drained same).trans joined, (congrArg Stock.fifo stands).trans leaves, left,
    same, ?_, ?_⟩
  · intro small before after split
    refine ⟨UInt16.ofNat (Runs.run Request.serve before chip.stock).2.fifo.length, ?_, ?_⟩
    · rw [show ran.1 = _ from same, split, Runs.run_append,
        List.getElem?_append_right (Nat.le_of_eq (Runs.run_length _ _ _)), Runs.run_length,
        Nat.sub_self]
      rfl
    · rw [UInt16.toNat_ofNat', (serve_run before chip.stock).2, List.length_drop]
      exact Nat.mod_eq_of_lt (Nat.lt_of_le_of_lt (Nat.sub_le _ _) small)
  · intro out long s
    rw [Request.issue, Radio.readRxFifo_of_gt hal _ long]
    rfl

/-- A chip with five bytes waiting, and an answer that was never fetched. -/
def Chip.loaded : Chip where
  selected := false
  sent := []
  reply := [0xAA, 0xBB]
  fifo := [1, 2, 3, 4, 5]
  registers := {
    status := { first := 0x80, second := 0x00, driven := by decide }
    irq := 0x00040000
    packetStatus := #v[0x11, 5, 0xF4, 0x50, 0x51, 0x07]
    received := 1
    crcErrors := 0
    headerErrors := 0
    falseSyncs := 2
    rssi := #v[0x60, 0x80] }

/-- Its five bytes in pieces of two, none and three. -/
theorem drain_exact_loaded :
    drained (Runs.run (Request.issue Chip.hal)
      [.readRxFifo [0, 0], .getRxFifoLevel, .readRxFifo [], .getAndClearIrqStatus,
        .readRxFifo [0, 0, 0]] ((), Chip.loaded)).1 = [1, 2, 3, 4, 5] :=
  (drain_exact Chip.wired _ () Chip.loaded rfl (by decide)).1

end Lr2021
