import Lr2021.Ffi
import Lr2021.Rig

set_option autoImplicit false

/-! The reads of the C ABI that carry a status byte. -/
namespace Lr2021

open Cmd FixedWidth BigEndian

inductive StatusRead where
  | getStatus
  | getVersion
  | getRandomNumber
  | getErrors
  | getPacketType
  | getAndClearIrqStatus
  | getRssiInst
  | getRxFifoLevel
  | getTxFifoLevel
  | loraGetPacketStatus
  | loraGetRxStats
  deriving DecidableEq, Repr

namespace StatusRead

/-- How many out cells the entry point declares; without any it returns its value. -/
@[reducible] def cells : StatusRead → Nat
  | getStatus => 3
  | getVersion => 2
  | getRandomNumber => 1
  | loraGetPacketStatus => 7
  | loraGetRxStats => 4
  | _ => 0

/-- What the transport hands over besides the first status byte. -/
abbrev Payload : StatusRead → Type
  | getStatus => UInt8 × UInt8 × UInt32
  | getVersion | getErrors | getRssiInst | getRxFifoLevel | getTxFifoLevel => Vector UInt8 2
  | getRandomNumber | getAndClearIrqStatus => Vector UInt8 4
  | getPacketType => Vector UInt8 1
  | loraGetPacketStatus => Vector UInt8 6
  | loraGetRxStats => Vector UInt8 8

section Run

variable {m : Type → Type} [Monad m]

/-- The entry point, with an out pointer where it takes one. -/
def run (hal : Option (Hal m)) : (read : StatusRead) → Option (Vector Int32 read.cells) →
    m (Int32 × Option (Vector Int32 read.cells))
  | getStatus, out => Ffi.lr2021GetStatus hal out
  | getVersion, out => Ffi.lr2021GetVersion hal out
  | getRandomNumber, out => Ffi.lr2021GetRandomNumber hal out
  | getErrors, out => (·, out) <$> Ffi.lr2021GetErrors hal
  | getPacketType, out => (·, out) <$> Ffi.lr2021GetPacketType hal
  | getAndClearIrqStatus, out => (·, out) <$> Ffi.lr2021GetAndClearIrqStatus hal
  | getRssiInst, out => (·, out) <$> Ffi.lr2021GetRssiInst hal
  | getRxFifoLevel, out => (·, out) <$> Ffi.lr2021GetRxFifoLevel hal
  | getTxFifoLevel, out => (·, out) <$> Ffi.lr2021GetTxFifoLevel hal
  | loraGetPacketStatus, out => Ffi.lr2021LoraGetPacketStatus hal out
  | loraGetRxStats, out => Ffi.lr2021LoraGetRxStats hal out

/-- One status-carrying command without parameters: the first status byte and the
payload, or the error of the transport. -/
def exchange (hal : Hal m) (opcode : UInt16) (n : Nat) :
    m (Except Int32 (UInt8 × Vector UInt8 n)) :=
  (fun reply => reply.1.map fun status => (status[0]!, reply.2)) <$>
    hal.readCmd 2 opcode [] (Vector.replicate n 0)

/-- What the transport makes of a read. -/
def transport (hal : Hal m) : (read : StatusRead) → m (Except Int32 (UInt8 × read.Payload))
  | getStatus => (fun reply => reply.map fun status => (status.1, status)) <$> hal.getStatus.run
  | getVersion => exchange hal cmdGetVersion 2
  | getRandomNumber => exchange hal cmdGetRandomNumber 4
  | getErrors => exchange hal cmdGetErrors 2
  | getPacketType => exchange hal cmdGetPacketType 1
  | getAndClearIrqStatus => exchange hal cmdGetAndClearIrqStatus 4
  | getRssiInst => exchange hal cmdGetRssiInst 2
  | getRxFifoLevel => exchange hal cmdGetRxFifoLevel 2
  | getTxFifoLevel => exchange hal cmdGetTxFifoLevel 2
  | loraGetPacketStatus => exchange hal cmdGetLoraPacketStatus 6
  | loraGetRxStats => exchange hal cmdGetLoraRxStats 8

end Run

/-- The return value that a payload stands for. -/
def value : (read : StatusRead) → read.Payload → Int32
  | getErrors, buf | getRxFifoLevel, buf | getTxFifoLevel, buf => ofU16 (ofBytes16 buf[0]! buf[1]!)
  | getPacketType, buf => ofU8 buf[0]!
  | getAndClearIrqStatus, buf =>
      (ofBytes32 buf[0]! buf[1]! buf[2]! buf[3]! &&& 0x7FFFFFFF).toInt32
  | getRssiInst, buf => ofU16 ((buf[0]!.toUInt16 <<< 1) ||| ((buf[1]!.toUInt16 >>> 7) &&& 0x01))
  | _, _ => Hal.ok

/-- What a payload puts into the out cells. -/
def stored : (read : StatusRead) → read.Payload → Vector Int32 read.cells
  | getStatus, (s1, s2, irq) => #v[ofU8 s1, ofU8 s2, irq.toInt32]
  | getVersion, buf => #v[ofU8 buf[0]!, ofU8 buf[1]!]
  | getRandomNumber, buf => #v[(ofBytes32 buf[0]! buf[1]! buf[2]! buf[3]!).toInt32]
  | loraGetPacketStatus, buf =>
      let s := Lora.decodePacketStatus buf
      #v[ofU8 s.cr, ofBool s.hasCrc, ofU8 s.len, s.snrPkt.toInt32, ofU16 s.rssiPkt,
        ofU16 s.rssiSignalPkt, ofU8 s.detector]
  | loraGetRxStats, buf =>
      #v[ofU16 (ofBytes16 buf[0]! buf[1]!), ofU16 (ofBytes16 buf[2]! buf[3]!),
        ofU16 (ofBytes16 buf[4]! buf[5]!), ofU16 (ofBytes16 buf[6]! buf[7]!)]
  | getErrors, _ | getPacketType, _ | getAndClearIrqStatus, _ | getRssiInst, _
  | getRxFifoLevel, _ | getTxFifoLevel, _ => #v[]

/-- How a read ends, from what the transport made of it: the error of the transport, or
the dead-chip error, with the cells as they were; or success, with all of them stored. -/
def settle {payload : Type} {k : Nat} (value : payload → Int32)
    (stored : payload → Vector Int32 k) (before : Vector Int32 k) :
    Except Int32 (UInt8 × payload) → Int32 × Option (Vector Int32 k)
  | .error e => (e, some before)
  | .ok (stat, data) =>
    if stat = 0x00 ∨ stat = 0xFF then (Hal.errNoChip, some before)
    else (value data, some (stored data))

section Refinement

variable {m : Type → Type} [Monad m] [LawfulMonad m] {n k : Nat} {α : Type}

/-- What a core read makes of an exchange. -/
def judge (decode : Vector UInt8 n → α) : Except Int32 (UInt8 × Vector UInt8 n) → Except Int32 α
  | .error e => .error e
  | .ok (stat, buf) =>
    if stat = 0x00 ∨ stat = 0xFF then .error Hal.errNoChip else .ok (decode buf)

theorem readReply_exchange (hal : Hal m) (opcode : UInt16) (decode : Vector UInt8 n → α) :
    (Xfer.readReply hal opcode decode).run = judge decode <$> exchange hal opcode n := by
  rw [Xfer.readReply_run, exchange, Functor.map_map]
  congr 1
  funext reply
  obtain ⟨outcome, payload⟩ := reply
  cases outcome <;> rfl

/-- A read that returns its value has no cells to touch. -/
theorem valueCall_settles (hal : Hal m) (opcode : UInt16) (decode : Vector UInt8 n → α)
    (into : α → Int32) (before : Vector Int32 0) :
    (·, some before) <$> Ffi.valueCall (some hal) into (fun h => Xfer.readReply h opcode decode) =
      settle (fun buf => into (decode buf)) (fun _ => #v[]) before <$> exchange hal opcode n := by
  rw [Ffi.valueCall, Ffi.withHal, readReply_exchange, Functor.map_map, Functor.map_map]
  congr 1
  funext outcome
  cases outcome with
  | error e => rfl
  | ok reply =>
    obtain ⟨stat, buf⟩ := reply
    by_cases silent : stat = 0x00 ∨ stat = 0xFF
    · simp only [judge, settle, silent, if_true, Ffi.valueOf]
    · simp only [judge, settle, silent, if_false, Ffi.valueOf, Vector.eq_empty]

/-- A read with out cells stores in them only after every check, and then in all. -/
theorem cellsCall_settles (hal : Hal m) (opcode : UInt16) (decode : Vector UInt8 n → α)
    (store : α → Vector Int32 k → Vector Int32 k) (stored : Vector UInt8 n → Vector Int32 k)
    (before : Vector Int32 k) (full : ∀ buf, store (decode buf) before = stored buf) :
    Ffi.cellsCall (some hal) (some before) (fun h => Xfer.readReply h opcode decode) store =
      settle (fun _ => Hal.ok) stored before <$> exchange hal opcode n := by
  rw [Ffi.cellsCall]
  dsimp only [Ffi.withHal]
  rw [readReply_exchange, map_eq_pure_bind, map_eq_pure_bind, bind_assoc]
  congr 1
  funext outcome
  rw [pure_bind]
  cases outcome with
  | error e => rfl
  | ok reply =>
    obtain ⟨stat, buf⟩ := reply
    by_cases silent : stat = 0x00 ∨ stat = 0xFF
    · simp only [judge, settle, silent, if_true]
    · simp only [judge, settle, silent, if_false, full]

/-- The one read whose dead-chip check is made at the boundary. -/
theorem getStatus_settles (hal : Hal m) (before : Vector Int32 3) :
    Ffi.lr2021GetStatus (some hal) (some before) =
      settle getStatus.value getStatus.stored before <$> getStatus.transport hal := by
  rw [Ffi.lr2021GetStatus, transport, Functor.map_map, map_eq_pure_bind]
  dsimp only [Ffi.withHal]
  congr 1
  funext reply
  cases reply with
  | error e => rfl
  | ok status =>
    obtain ⟨s1, s2, irq⟩ := status
    obtain ⟨⟨cells⟩, full⟩ := before
    match cells, full with
    | [_, _, _], _ =>
      by_cases silent : s1 = 0x00 ∨ s1 = 0xFF
      · simp only [Xfer.checkStatus, settle, Except.map, silent, if_true]
      · simp only [Xfer.checkStatus, settle, Except.map, silent, if_false]
        rfl

/-- Every status-carrying read settles what the transport made of it, and that is all it
does. -/
theorem run_some (hal : Hal m) (read : StatusRead) (before : Vector Int32 read.cells) :
    read.run (some hal) (some before) =
      settle read.value read.stored before <$> read.transport hal := by
  cases read with
  | getStatus => exact getStatus_settles hal before
  | getVersion =>
    simp only [run, Ffi.lr2021GetVersion, transport]
    apply cellsCall_settles hal _ _ _ _ before
    intro buf
    obtain ⟨⟨cells⟩, full⟩ := before
    match cells, full with
    | [_, _], _ => rfl
  | getRandomNumber =>
    simp only [run, Ffi.lr2021GetRandomNumber, transport]
    apply cellsCall_settles hal _ _ _ _ before
    intro buf
    obtain ⟨⟨cells⟩, full⟩ := before
    match cells, full with
    | [_], _ => rfl
  | loraGetPacketStatus =>
    simp only [run, Ffi.lr2021LoraGetPacketStatus, transport]
    apply cellsCall_settles hal _ _ _ _ before
    intro buf
    obtain ⟨⟨cells⟩, full⟩ := before
    match cells, full with
    | [_, _, _, _, _, _, _], _ => rfl
  | loraGetRxStats =>
    simp only [run, Ffi.lr2021LoraGetRxStats, transport]
    apply cellsCall_settles hal _ _ _ _ before
    intro buf
    obtain ⟨⟨cells⟩, full⟩ := before
    match cells, full with
    | [_, _, _, _], _ => rfl
  | getErrors | getPacketType | getAndClearIrqStatus | getRssiInst | getRxFifoLevel
  | getTxFifoLevel => exact valueCall_settles hal _ _ _ before

theorem value_nonneg (read : StatusRead) (payload : read.Payload) : 0 ≤ read.value payload := by
  cases read with
  | getErrors | getRssiInst | getRxFifoLevel | getTxFifoLevel => exact ofU16_nonneg _
  | getPacketType => exact ofU8_nonneg _
  | getAndClearIrqStatus =>
    rw [Int32.le_iff_toInt_le, value, toInt_dropTop]
    exact Int.natCast_nonneg _
  | _ => exact Int32.le_refl _

theorem run_nullHal (read : StatusRead) (out : Option (Vector Int32 read.cells)) :
    read.run (none : Option (Hal m)) out = pure (Hal.errNullHal, out) := by
  cases read with
  | getStatus | getVersion | getRandomNumber | loraGetPacketStatus | loraGetRxStats =>
    cases out <;> rfl
  | _ => exact map_pure _ _

omit [LawfulMonad m] in
theorem run_nullOut (read : StatusRead) (hal : Option (Hal m)) (declares : 0 < read.cells) :
    read.run hal none = pure (Hal.errNullHal, none) := by
  cases read with
  | getStatus | getVersion | getRandomNumber | loraGetPacketStatus | loraGetRxStats => rfl
  | _ => cases declares

end Refinement
end StatusRead

/-- Every status-carrying read is all or nothing: with both pointers in place it settles
what the transport made of it, by functions of the payload alone that succeed and fill
every cell; and with either missing it does nothing at all. -/
theorem statusRead_all_or_nothing {m : Type → Type} [Monad m] [LawfulMonad m]
    (read : StatusRead) :
    (∃ (value : read.Payload → Int32) (stored : read.Payload → Vector Int32 read.cells),
      (∀ payload, 0 ≤ value payload) ∧
      ∀ (hal : Hal m) (before : Vector Int32 read.cells),
        read.run (some hal) (some before) =
          StatusRead.settle value stored before <$> read.transport hal) ∧
    (∀ out, read.run (none : Option (Hal m)) out = pure (Hal.errNullHal, out)) ∧
    (0 < read.cells → ∀ hal : Option (Hal m), read.run hal none = pure (Hal.errNullHal, none)) :=
  ⟨⟨read.value, read.stored, read.value_nonneg, fun hal before => read.run_some hal before⟩,
    read.run_nullHal, fun declares hal => read.run_nullOut hal declares⟩

/-- On a rig that clocks in nothing but zeros, the cells of a version read stay. -/
theorem statusRead_all_or_nothing_rig :
    (StatusRead.getVersion.run (some Mock.hal) (some #v[7, 9]) (Mock.fresh [])).1 =
      (Hal.errNoChip, some #v[7, 9]) := by
  obtain ⟨⟨value, stored, -, settles⟩, -, -⟩ :=
    statusRead_all_or_nothing (m := StateM Mock) .getVersion
  rw [settles]
  rfl

end Lr2021
