import Lr2021.Ffi

set_option autoImplicit false

/-! The C shim between MicroPython and the C ABI: the callbacks under the host table, and
the module functions over it. A raise inside a callback leaves the native call as a whole,
through C and Rust alike. -/
namespace Lr2021

open Cmd

/-- The exceptions that the shim raises of itself, with their messages. -/
inductive ShimError where
  | runtimeError (message : String)
  | valueError (message : String)
  deriving DecidableEq, Repr

/-- Turns a negative return code into an exception. -/
def checkErr (rc : Int32) : Except ShimError Unit :=
  if rc ≥ 0 then .ok ()
  else if rc = -1 then .error (.runtimeError "LR2021 SPI or GPIO call failed")
  else if rc = -2 then .error (.runtimeError "LR2021 BUSY stayed high")
  else if rc = -3 then .error (.runtimeError "LR2021 could not execute the command")
  else if rc = -4 then .error (.runtimeError "LR2021 reported a processing error")
  else if rc = -5 then .error (.valueError "buffer too long for this command")
  else if rc = -6 then .error (.valueError "bus entry missing or null")
  else if rc = -8 then
    .error (.runtimeError "no answer from the LR2021: check power, MISO and NRESET")
  else if rc = -9 then .error (.valueError "argument out of range for this command")
  else .error (.runtimeError "lr2021 error")

theorem checkErr_of_nonneg {rc : Int32} (nonneg : 0 ≤ rc) : checkErr rc = .ok () := if_pos nonneg

theorem checkErr_of_neg {rc : Int32} (negative : rc < 0) : ∃ e, checkErr rc = .error e := by
  unfold checkErr
  rw [if_neg (Int32.not_le.mpr negative)]
  repeat' split
  all_goals exact ⟨_, rfl⟩

/-- What a module function can leave with: an exception of a callable, or one of the shim. -/
inductive Raised (ε : Type) where
  | callable (e : ε)
  | shim (e : ShimError)

/-- The callables behind the bus tuple, over whatever state Python keeps. Each of them
returns or raises, but for the setter of `cs.value`, which returns. `spi.readinto` is handed the
buffer itself, with what it holds, and may leave anything in it. -/
structure Bus (ε python : Type) where
  spiWrite : List UInt8 → python → Except ε Unit × python
  spiReadinto : {count : Nat} → Vector UInt8 count → python →
    Except ε (Vector UInt8 count) × python
  setCsValue : Bool → python → python
  busyValue : python → Except ε Bool × python
  ticksMs : python → Except ε Int32 × python

/-- The chip-select line, high when `nss` is, and what Python keeps. -/
structure World (python : Type) where
  nss : Bool
  kept : python

/-- Native code under MicroPython: a raise is a jump out of all of it. -/
abbrev Native (ε python : Type) := ExceptT (Raised ε) (StateM (World python))

variable {ε python : Type}

/-- Calls into Python. -/
def call {α : Type} (callable : python → Except ε α × python) : Native ε python α :=
  ExceptT.mk fun world =>
    ((callable world.kept).1.mapError Raised.callable,
      { world with kept := (callable world.kept).2 })

namespace Bus

def cbSpiWrite (bus : Bus ε python) (buf : List UInt8) : Native ε python Int32 := do
  call (bus.spiWrite buf)
  pure 0

def cbSpiRead (bus : Bus ε python) {len : Nat} (buf : Vector UInt8 len) :
    Native ε python (Int32 × Vector UInt8 len) := do
  let buf ← call (bus.spiReadinto buf)
  pure (0, buf)

def cbCsSet (bus : Bus ε python) (level : Int32) : Native ε python Int32 := do
  modify fun world => { nss := level != 0, kept := bus.setCsValue (level != 0) world.kept }
  pure 0

def cbBusyGet (bus : Bus ε python) : Native ε python Int32 := do
  pure (if ← call bus.busyValue then 1 else 0)

def cbTicksMs (bus : Bus ε python) : Native ε python Int32 := call bus.ticksMs

end Bus

/-- The host table over the callbacks, as `lrxxxx_hal` drives it: a callback that returns
0 has succeeded, and the BUSY wait asks `busy_get` and `ticks_ms` only, so that it leaves
the chip select alone however it ends. -/
structure OverCallbacks (bus : Bus ε python) (report : Int32 → Except Int32 Unit)
    (hal : Hal (Native ε python)) : Prop where
  zero : report 0 = .ok ()
  select : ∀ level, (hal.select level).run = report <$> bus.cbCsSet level
  write : ∀ bytes, (hal.write bytes).run = report <$> bus.cbSpiWrite bytes
  read : ∀ {n : Nat} (out : Vector UInt8 n),
    hal.read out = (fun reply => (report reply.1, reply.2)) <$> bus.cbSpiRead out
  waitBusy : ∀ world, (hal.waitBusy.run.run world).2.nss = world.nss

/-- Reads `len` bytes of the Rx FIFO into a buffer on the stack, and returns them. -/
def modReadRxFifo (hal : Hal (Native ε python)) (stack : Nat → UInt8) (len : Int) :
    Native ε python (List UInt8) :=
  if len < 0 ∨ len > 255 then throw (.shim (.valueError "length must be 0..255"))
  else do
    let (rc, buf) ← Ffi.lr2021ReadRxFifo (some hal) (some stack) (Int32.ofInt len)
    ExceptT.mk (pure ((checkErr rc).mapError Raised.shim))
    pure (Ffi.fromRawParts (buf.getD stack) len.toNat).toList

end Lr2021
