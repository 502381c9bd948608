import Lr2021.Link.Modem
import Mathlib.Control.Monad.Basic

set_option autoImplicit false

/-! A board that can be run: BUSY stays low, no call raises, the clock moves by a third of a
second at each look, and what the radio does on its own is laid down in advance. -/
namespace Lr2021.Link

open Procedure

/-- The modem, and what is still to happen to it, one entry for each action of the host. -/
structure Desk where
  modem : Modem
  coming : List (List Happening)
  clock : Nat

namespace Desk

def tick (d : Desk) : Desk :=
  { modem := { d.modem with radio := d.modem.radio.hears (d.coming.headD []) }
    coming := d.coming.tail
    clock := d.clock }

def withModem (d : Desk) (modem : Modem) : Desk := { d with modem }

def board : Board Unit Desk where
  python := .raising
  monotonicNs d := (d.clock, { d.tick with clock := d.clock + 333333333 })
  sleepMs ms d := { d.tick with clock := d.clock + ms * 1000000 }
  busyValue d := (false, d.tick)
  setCsValue level d := d.tick.withModem (d.tick.modem.select level)
  setResetValue level d := d.tick.withModem (d.tick.modem.reset level)
  spiWrite bytes d := (.ok (), d.tick.withModem (d.tick.modem.write bytes))
  spiReadinto count d :=
    (.ok (d.tick.modem.read count).1, d.tick.withModem (d.tick.modem.read count).2)
  print _ d := d.tick
  tryLock d := (true, d.tick)

theorem overhears_tick (d : Desk) : d.modem.Overhears d.tick.modem := ⟨_, ⟨_, rfl⟩, rfl⟩

theorem wired : Wired board Desk.modem where
  monotonicNs := overhears_tick
  sleepMs _ := overhears_tick
  busyValue := overhears_tick
  setCsValue _ d := ⟨_, d.overhears_tick, rfl⟩
  setResetValue _ d := ⟨_, d.overhears_tick, rfl⟩
  spiWrite _ d _ same := by
    obtain ⟨-, rfl⟩ := Prod.mk.inj same
    exact ⟨_, d.overhears_tick, rfl⟩
  spiWriteRaises _ _ _ _ same := by cases same
  spiReadinto count d buf _ same := by
    obtain ⟨value, rfl⟩ := Prod.mk.inj same
    exact ⟨_, d.overhears_tick, congrArg (Prod.mk · _) (Except.ok.inj value).symm⟩
  spiReadintoRaises _ _ _ _ same := by cases same
  print _ := overhears_tick
  tryLock := overhears_tick

theorem answering_driven : ¬((0x80 : UInt8) = 0x00 ∨ (0x80 : UInt8) = 0xFF) := by decide

/-- A chip that answers. -/
def answering : StatusBytes := { first := 0x80, second := 0x00, driven := answering_driven }

/-- A radio that receives packets of six bytes, with nothing received yet. -/
def radio : Radio where
  status := answering
  version := #v[0x01, 0x18, 0x00, 0x00]
  irq := 0
  rxFifo := []
  txFifo := []
  fifoSize := 256
  settings key := if key.1 = cmdSetFlrcPacketParams then [0x22, 0x4E, 0x00, 0x06] else []
  pending := 0
  completed := 0
  aired := []
  happened := []

/-- A node of the link test over it. -/
def node (coming : List (List Happening)) : Node Desk where
  board :=
    { modem := { selected := false, sent := [], reply := [], obeyed := [], radio }
      coming
      clock := 0 }
  payloadLen := 6

/-- One rate of the link test, as it is shipped. -/
def settings (brBw : Int) : Settings where
  frequencyHz := 2450000000
  brBw := brBw
  cr := 3
  shaping := 0x05
  syncWord := 0x12345678
  powerDbm := 0
  payloadLen := 64
  preamble := 8

end Desk

section Running

variable {ρ σ α : Type} {c : Proc ρ σ α} {s : σ}

/-- A procedure that is run and found to return. -/
theorem returns_run {a : α} (value : (c.run s).1 = .ok a) : Returns c s a (c.run s).2 :=
  Prod.ext value rfl

/-- A procedure that is run and found to raise. -/
theorem throws_run {e : ρ} (error : (c.run s).1 = .error (.raised e)) :
    Throws c s e (c.run s).2 :=
  Prod.ext error rfl

end Running

end Lr2021.Link
