import Lr2021.Lib.TraceLogic

set_option autoImplicit false

namespace Lr2021

open TraceLogic

/-- Rust's `Result<T, i32>` around host effects; `?` is its bind. -/
abbrev Fallible (m : Type → Type) (α : Type) := ExceptT Int32 m α

/-- What `lrxxxx_hal` gives the driver for one host: the methods of its `Hal` and
the transactions of its `xfer` module. That crate is not part of this repository,
so every field is a parameter, in whatever monad the host runs in. A buffer that
is filled in place is passed in and handed back. -/
structure Hal (m : Type → Type) where
  waitBusy : Fallible m Unit
  select : Int32 → Fallible m Unit
  write : List UInt8 → Fallible m Unit
  read : {n : Nat} → Vector UInt8 n → m (Except Int32 Unit × Vector UInt8 n)
  writeCmd : UInt16 → List UInt8 → Fallible m Unit
  readCmd : {n : Nat} → (status : Nat) → UInt16 → List UInt8 → Vector UInt8 n →
    m (Except Int32 (Vector UInt8 status) × Vector UInt8 n)
  getStatus : Fallible m (UInt8 × UInt8 × UInt32)

namespace Hal

/- The shared error numbering, as `check_err` of the C shim decodes it. -/
def ok : Int32 := 0
def errBuffer : Int32 := -5
def errNullHal : Int32 := -6
def errNoChip : Int32 := -8

end Hal

/-- What the driver does to the host, in the order it does it. -/
inductive Ev where
  | waitBusy
  | select (level : Int32)
  | write (bytes : List UInt8)
  | read (count : Nat)
  deriving DecidableEq, Repr

/-- All bytes clocked out, whatever the chip select. -/
def written : List Ev → List UInt8
  | [] => []
  | .write bytes :: rest => bytes ++ written rest
  | _ :: rest => written rest

theorem written_append (first second : List Ev) :
    written (first ++ second) = written first ++ written second := by
  induction first with
  | nil => rfl
  | cons event rest ih => cases event <;> simp [written, ih]

/-- One step of splitting a log into commands: what is complete, and the bytes of
the open chip-select assertion. -/
def scan : List (List UInt8) × Option (List UInt8) → Ev → List (List UInt8) × Option (List UInt8)
  | (out, cur), .select level =>
      if level = 0 then (out, some [])
      else match cur with
        | some bytes => (if bytes.isEmpty then out else out ++ [bytes], none)
        | none => (out, none)
  | (out, cur), .write bytes => (out, cur.map (· ++ bytes))
  | state, _ => state

/-- One entry per command, opcode and parameters joined. -/
def commands (log : List Ev) : List (List UInt8) := (log.foldl scan ([], none)).1

/-- A command on the bus: opcode big-endian, then its parameters. -/
def frame (opcode : UInt16) (params : List UInt8) : List UInt8 :=
  (opcode >>> 8).toUInt8 :: opcode.toUInt8 :: params

/-- The events of one command transaction. It opens with the BUSY handshake, and
what it has written by the time it ends is a start of `bytes`; a completed one has
written all of it, as one chip-select assertion that it has closed again. -/
structure Transaction (bytes : List UInt8) (completed : Bool) (events : List Ev) : Prop where
  starts : events.head? = some .waitBusy
  begun : written events <+: bytes
  whole : completed = true → written events = bytes ∧
    ∀ out, events.foldl scan (out, none) = (out ++ [bytes], none)

/-- What the driver relies on of the framing in `lrxxxx_hal`, as its effect on an
observed log: each primitive is one event, and both transactions send the frame of
their command. The outcomes are arbitrary. -/
structure Observes {σ : Type} (hal : Hal (StateM σ)) (trace : σ → List Ev) : Prop where
  waitBusy : Emits trace hal.waitBusy.run fun _ events => events = [.waitBusy]
  select : ∀ level, Emits trace (hal.select level).run fun _ events => events = [.select level]
  write : ∀ bytes, Emits trace (hal.write bytes).run fun _ events => events = [.write bytes]
  read : ∀ {n : Nat} (out : Vector UInt8 n),
    Emits trace (hal.read out) fun _ events => events = [.read n]
  writeCmd : ∀ opcode params, Emits trace (hal.writeCmd opcode params).run fun result events =>
    Transaction (frame opcode params) result.isOk events
  readCmd : ∀ {n : Nat} status opcode params (out : Vector UInt8 n),
    Emits trace (hal.readCmd status opcode params out) fun reply events =>
      Transaction (frame opcode params) reply.1.isOk events

/-- A transport on which no step fails. -/
structure NeverFails {σ : Type} (hal : Hal (StateM σ)) : Prop where
  waitBusy : ∀ s, (hal.waitBusy.run s).1 = .ok ()
  select : ∀ level s, ((hal.select level).run s).1 = .ok ()
  write : ∀ bytes s, ((hal.write bytes).run s).1 = .ok ()
  read : ∀ {n : Nat} (out : Vector UInt8 n) s, (hal.read out s).1.1 = .ok ()
  writeCmd : ∀ opcode params s, ((hal.writeCmd opcode params).run s).1 = .ok ()
  readCmd : ∀ {n : Nat} status opcode params (out : Vector UInt8 n) s,
    ∃ bytes, (hal.readCmd status opcode params out s).1.1 = .ok bytes

end Lr2021
