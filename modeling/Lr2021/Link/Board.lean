import Lr2021.Hal
import Lr2021.Module
import Lr2021.Lib.Procedure

set_option autoImplicit false

/-! The objects that the link test drives a radio with, and one transaction over them. -/
namespace Lr2021.Link

open Procedure

/-- What leaves the link test: an exception of its own, of the native module, or of an
object of the board. -/
inductive Raise (ε : Type) where
  | radioError (message : String)
  | valueError (message : String)
  | indexError
  | native (e : ModuleError)
  | board (e : ε)
  deriving DecidableEq

/-- The clock, the pins, the SPI object and the console of a board, over whatever state they
have, and the conversions of its MicroPython. The clock is in nanoseconds. Only the two SPI
transfers can raise. -/
structure Board (ε σ : Type) where
  python : MicroPython Int
  monotonicNs : σ → Nat × σ
  sleepMs : Nat → σ → σ
  busyValue : σ → Bool × σ
  setCsValue : Bool → σ → σ
  setResetValue : Bool → σ → σ
  spiWrite : List UInt8 → σ → Except ε Unit × σ
  spiReadinto : (count : Nat) → σ → Except ε (Vector UInt8 count) × σ
  print : String → σ → σ
  tryLock : σ → Bool × σ

/-- The driver's object: the board behind it, and the payload length it was configured
with. -/
structure Node (σ : Type) where
  board : σ
  payloadLen : Nat

variable {ε σ α : Type}

/-- The link test, as it runs on one board. -/
abbrev Py (ε σ : Type) := Proc (Raise ε) (Node σ)

/-- A call on the board that returns. -/
def onBoard (f : σ → α × σ) : Py ε σ α :=
  act fun node => ((f node.board).1, { node with board := (f node.board).2 })

/-- A call on the board that can raise. -/
def onBus (f : σ → Except ε α × σ) : Py ε σ α :=
  attempt fun node =>
    ((f node.board).1.mapError Raise.board, { node with board := (f node.board).2 })

namespace Board

variable (board : Board ε σ)

def now : Py ε σ Nat := onBoard board.monotonicNs

def sleep (ms : Nat) : Py ε σ Unit := onBoard fun s => ((), board.sleepMs ms s)

def say (line : String) : Py ε σ Unit := onBoard fun s => ((), board.print line s)

def busy : Py ε σ Bool := onBoard board.busyValue

def cs (value : Bool) : Py ε σ Unit := onBoard fun s => ((), board.setCsValue value s)

def nreset (value : Bool) : Py ε σ Unit := onBoard fun s => ((), board.setResetValue value s)

def lock : Py ε σ Bool := onBoard board.tryLock

def write (bytes : List UInt8) : Py ε σ Unit := onBus (board.spiWrite bytes)

def readinto (count : Nat) : Py ε σ (List UInt8) := do
  pure (← onBus (board.spiReadinto count)).toList

end Board

/-- Replies carry two status bytes. -/
def statusLen : Nat := 2

def padLeft (width : Nat) (fill : Char) (text : String) : String :=
  String.ofList (List.replicate (width - text.length) fill) ++ text

/-- `%04X` of a number. -/
def hex04 (n : Nat) : String := padLeft 4 '0' (String.ofList (Nat.toDigits 16 n)).toUpper

def busyStuck : String := "BUSY stuck high"

def noReplyTo (opcode : UInt16) : String :=
  "no reply to 0x" ++ hex04 opcode.toNat ++ "; MISO stuck"

/-- A reply that is one level throughout. -/
def undriven (buf : List UInt8) : Bool := buf.all (· == 0x00) || buf.all (· == 0xFF)

section Transport

variable (board : Board ε σ) (fuel : Nat)

/-- One round of the BUSY wait. -/
def waitBusyRound (deadline : Nat) (_ : Unit) : Py ε σ (Unit ⊕ Unit) := do
  if ← board.busy then
    if (← board.now) > deadline then raise (.radioError busyStuck)
    else pure (.inl ())
  else pure (.inr ())

def waitBusy (timeoutMs : Nat) : Py ε σ Unit := do
  let deadline := (← board.now) + timeoutMs * 1000000
  whileLoop (waitBusyRound board deadline) fuel ()

def cmd (opcode : UInt16) (args : List UInt8) : Py ε σ Unit := do
  waitBusy board fuel 200
  board.cs false
  board.write (frame opcode args)
  board.cs true

def read (opcode : UInt16) (length : Nat) (args : List UInt8) : Py ε σ (List UInt8) := do
  cmd board fuel opcode args
  waitBusy board fuel 200
  board.cs false
  let buf ← board.readinto (statusLen + length)
  board.cs true
  if undriven buf then raise (.radioError (noReplyTo opcode))
  else pure (buf.drop statusLen)

def reset : Py ε σ Unit := do
  board.nreset false
  board.sleep 5
  board.nreset true
  board.sleep 20
  waitBusy board fuel 500

end Transport
end Lr2021.Link
