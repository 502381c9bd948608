import Lr2021.Chip
import Lr2021.Link.Driver
import Mathlib.Logic.Function.Basic

set_option autoImplicit false

/-! The other end of a node's SPI bus: a radio that carries out what it is sent, and that
receives and finishes transmissions on its own between any two actions of the host. -/
namespace Lr2021.Link

open BigEndian

deriving instance DecidableEq for StatusBytes

/-- What a radio does on its own. A packet that fails its CRC may leave bytes in the FIFO,
and may raise RxDone as well. -/
inductive Happening where
  | good (payload : List UInt8)
  | bad (residue : List UInt8) (done : Bool)
  | txDone
  | elapse (status : StatusBytes) (other : UInt32)
  deriving DecidableEq

/-- The flags that only packets raise. -/
def packetFlags : UInt32 := UInt32.ofNat (irqRxDone ||| irqTxDone ||| irqCrcError)

namespace Happening

/-- The flags it raises. -/
def flags : Happening → UInt32
  | good _ => UInt32.ofNat irqRxDone
  | bad _ done => UInt32.ofNat irqCrcError ||| (if done then UInt32.ofNat irqRxDone else 0)
  | txDone => UInt32.ofNat irqTxDone
  | elapse _ other => other &&& ~~~packetFlags

/-- The bytes it puts into the Rx FIFO. -/
def bytes : Happening → List UInt8
  | good payload => payload
  | bad residue _ => residue
  | _ => []

/-- How many transmissions it finishes. -/
def finished : Happening → Nat
  | txDone => 1
  | _ => 0

def statusAfter (status : StatusBytes) : Happening → StatusBytes
  | elapse status' _ => status'
  | _ => status

end Happening

/-- The radio: its registers and FIFOs, and what has become of it so far. -/
structure Radio where
  status : StatusBytes
  version : Vector UInt8 4
  irq : UInt32
  rxFifo : List UInt8
  txFifo : List UInt8
  fifoSize : UInt16
  settings : UInt16 × UInt8 → List UInt8
  /-- Transmissions under way, and finished ones. -/
  pending : Nat
  completed : Nat
  /-- The packets put on air, and all that happened. -/
  aired : List (List UInt8)
  happened : List Happening

namespace Radio

/-- The length of every packet, as SetFlrcPacketParams fixes it. -/
def packetLen (r : Radio) : Nat :=
  match r.settings (cmdSetFlrcPacketParams, 0) with
  | [_, _, high, low] => high.toNat * 256 + low.toNat
  | _ => 0

/-- What can happen: packets have the length that is set, and only what is under way
finishes. -/
def Proper (r : Radio) : Happening → Prop
  | .good payload => payload.length = r.packetLen
  | .txDone => 0 < r.pending
  | _ => True

instance (r : Radio) : (happening : Happening) → Decidable (r.Proper happening)
  | .good payload => inferInstanceAs (Decidable (payload.length = r.packetLen))
  | .bad _ _ => inferInstanceAs (Decidable True)
  | .txDone => inferInstanceAs (Decidable (0 < r.pending))
  | .elapse _ _ => inferInstanceAs (Decidable True)

/-- A packet that does not fit into the FIFO is dropped whole. -/
def Admits (r : Radio) (happening : Happening) : Prop :=
  r.Proper happening ∧ r.rxFifo.length + happening.bytes.length ≤ r.fifoSize.toNat

instance (r : Radio) (happening : Happening) : Decidable (r.Admits happening) :=
  inferInstanceAs (Decidable (_ ∧ _))

def hear (r : Radio) (happening : Happening) : Radio :=
  if r.Admits happening then
    { r with
      status := happening.statusAfter r.status
      irq := r.irq ||| happening.flags
      rxFifo := r.rxFifo ++ happening.bytes
      pending := r.pending - happening.finished
      completed := r.completed + happening.finished
      happened := r.happened ++ [happening] }
  else r

def hears (r : Radio) (happenings : List Happening) : Radio := happenings.foldl hear r

/-- Which pin a setting is for, where there is one for each. -/
def pinOf (opcode : UInt16) (args : List UInt8) : UInt8 :=
  if opcode = cmdSetDioFunction ∨ opcode = cmdSetDioRfSwitchConfig ∨ opcode = cmdSetDioIrqConfig
  then args.headD 0 else 0

/-- A setting replaces what its command set before. -/
def set (r : Radio) (opcode : UInt16) (args : List UInt8) : Radio :=
  { r with settings := Function.update r.settings (opcode, pinOf opcode args) args }

/-- The payload that answers a command, if it has one, and what the command does. -/
def execute (r : Radio) (opcode : UInt16) (args : List UInt8) : Option (List UInt8) × Radio :=
  if opcode = cmdGetVersion then (some r.version.toList, r)
  else if opcode = cmdGetAndClearIrqStatus then (some (bytes32 r.irq), { r with irq := 0 })
  else if opcode = cmdGetRxFifoLevel then (some (bytes16 (UInt16.ofNat r.rxFifo.length)), r)
  else if opcode = cmdReadRxFifo then (none, r)
  else if opcode = cmdClearRxFifo then (none, { r with rxFifo := [] })
  else if opcode = cmdClearTxFifo then (none, { r with txFifo := [] })
  else if opcode = cmdWriteTxFifo then (none, { r with txFifo := r.txFifo ++ args })
  else if opcode = cmdSetTx then
    (none, { r with aired := r.aired ++ [r.txFifo], pending := r.pending + 1 })
  else (none, r.set opcode args)

section Execution

variable (r : Radio) (args : List UInt8)

theorem execute_getAndClearIrqStatus : r.execute cmdGetAndClearIrqStatus args =
    (some (bytes32 r.irq), { r with irq := 0 }) := rfl

theorem execute_getRxFifoLevel : r.execute cmdGetRxFifoLevel args =
    (some (bytes16 (UInt16.ofNat r.rxFifo.length)), r) := rfl

theorem execute_readRxFifo : r.execute cmdReadRxFifo args = (none, r) := rfl

theorem execute_clearRxFifo : r.execute cmdClearRxFifo args = (none, { r with rxFifo := [] }) :=
  rfl

end Execution

/-- Carries out what was sent in one chip-select assertion, if it is a command. -/
def obey (r : Radio) : List UInt8 → Option (List UInt8) × Radio
  | high :: low :: args => r.execute (ofBytes16 high low) args
  | _ => (none, r)

theorem obey_frame (r : Radio) (opcode : UInt16) (args : List UInt8) :
    r.obey (frame opcode args) = r.execute opcode args := by
  simp only [frame, obey, ofBytes16_shifts]

/-- What NRESET clears. -/
def cleared (r : Radio) : Radio :=
  { r with irq := 0, rxFifo := [], txFifo := [], settings := fun _ => [], pending := 0 }

/-- What is left of a radio after some happenings. -/
def Overhears (r r' : Radio) : Prop := ∃ happenings, r' = r.hears happenings

theorem Overhears.refl (r : Radio) : Overhears r r := ⟨[], rfl⟩

theorem Overhears.trans {r₁ r₂ r₃ : Radio} (first : Overhears r₁ r₂) (second : Overhears r₂ r₃) :
    Overhears r₁ r₃ := by
  obtain ⟨before, rfl⟩ := first
  obtain ⟨after, rfl⟩ := second
  exact ⟨before ++ after, (List.foldl_append).symm⟩

/-- What each happening keeps, any number of them keeps. -/
theorem Overhears.induct {motive : Radio → Prop} {r r' : Radio} (overhears : Overhears r r')
    (initial : motive r) (step : ∀ r happening, motive r → motive (r.hear happening)) :
    motive r' := by
  obtain ⟨happenings, rfl⟩ := overhears
  induction happenings generalizing r with
  | nil => exact initial
  | cons happening rest ih => exact ih (step r happening initial)

/-- What a happening leaves alone. -/
structure SameSetup (r r' : Radio) : Prop where
  settings : r'.settings = r.settings
  fifoSize : r'.fifoSize = r.fifoSize
  version : r'.version = r.version
  txFifo : r'.txFifo = r.txFifo
  aired : r'.aired = r.aired

theorem SameSetup.refl (r : Radio) : SameSetup r r := ⟨rfl, rfl, rfl, rfl, rfl⟩

theorem SameSetup.trans {r₁ r₂ r₃ : Radio} (first : SameSetup r₁ r₂) (second : SameSetup r₂ r₃) :
    SameSetup r₁ r₃ :=
  ⟨second.settings.trans first.settings, second.fifoSize.trans first.fifoSize,
    second.version.trans first.version, second.txFifo.trans first.txFifo,
    second.aired.trans first.aired⟩

theorem hear_sameSetup (r : Radio) (happening : Happening) : SameSetup r (r.hear happening) := by
  unfold hear
  split <;> exact ⟨rfl, rfl, rfl, rfl, rfl⟩

theorem Overhears.sameSetup {r r' : Radio} (overhears : Overhears r r') : SameSetup r r' := by
  apply overhears.induct (.refl r)
  intro r₁ happening same
  exact same.trans (hear_sameSetup r₁ happening)

theorem SameSetup.packetLen {r r' : Radio} (same : SameSetup r r') :
    r'.packetLen = r.packetLen := by
  unfold Radio.packetLen
  rw [same.settings]

end Radio

/-- A radio with its end of the bus: whether its chip select is low, what it has been sent
since that fell, what is left of its last answer, and the commands it was given so far. -/
structure Modem where
  selected : Bool
  sent : List UInt8
  reply : List UInt8
  obeyed : List (List UInt8)
  radio : Radio

namespace Modem

/-- Only what holds an opcode is a command. -/
def commandsOf (sent : List UInt8) : List (List UInt8) := if 2 ≤ sent.length then [sent] else []

def select (level : Bool) (m : Modem) : Modem :=
  if level then
    if m.selected then
      let outcome := m.radio.obey m.sent
      { m with
        selected := false
        reply := match outcome.1 with
          | some payload => m.radio.status.first :: m.radio.status.second :: payload
          | none => m.reply
        obeyed := m.obeyed ++ commandsOf m.sent
        radio := outcome.2 }
    else m
  else if m.selected then m
  else { m with selected := true, sent := [] }

def write (bytes : List UInt8) (m : Modem) : Modem :=
  if m.selected then { m with sent := m.sent ++ bytes } else m

/-- What a read clocks out: the FIFO after its opcode, and the last answer where nothing has
been sent. -/
def read (count : Nat) (m : Modem) : Vector UInt8 count × Modem :=
  if m.selected then
    if m.sent = frame cmdReadRxFifo [] then
      (clocked count m.radio.rxFifo,
        { m with radio := { m.radio with rxFifo := m.radio.rxFifo.drop count } })
    else if m.sent = [] then (clocked count m.reply, { m with reply := m.reply.drop count })
    else (Vector.replicate count 0, m)
  else (Vector.replicate count 0, m)

def reset (level : Bool) (m : Modem) : Modem :=
  if level then m else { m with sent := [], reply := [], radio := m.radio.cleared }

/-- The radio has been busy on its own. -/
def Overhears (m m' : Modem) : Prop := ∃ r, m.radio.Overhears r ∧ m' = { m with radio := r }

theorem Overhears.refl (m : Modem) : Overhears m m := ⟨m.radio, .refl _, rfl⟩

theorem Overhears.trans {m₁ m₂ m₃ : Modem} (first : Overhears m₁ m₂) (second : Overhears m₂ m₃) :
    Overhears m₁ m₃ := by
  obtain ⟨r₁, heard₁, rfl⟩ := first
  obtain ⟨r₂, heard₂, rfl⟩ := second
  exact ⟨r₂, heard₁.trans heard₂, rfl⟩

end Modem

/-- A board whose SPI bus and reset line end in the modem. Before each action of the host
the radio may have been busy, for as long as it likes; an SPI call that raises may have
clocked some of its bytes. -/
structure Wired {ε σ : Type} (board : Board ε σ) (modem : σ → Modem) : Prop where
  monotonicNs : ∀ s, (modem s).Overhears (modem (board.monotonicNs s).2)
  sleepMs : ∀ ms s, (modem s).Overhears (modem (board.sleepMs ms s))
  busyValue : ∀ s, (modem s).Overhears (modem (board.busyValue s).2)
  setCsValue : ∀ level s, ∃ m, (modem s).Overhears m ∧
    modem (board.setCsValue level s) = m.select level
  setResetValue : ∀ level s, ∃ m, (modem s).Overhears m ∧
    modem (board.setResetValue level s) = m.reset level
  spiWrite : ∀ bytes s s', board.spiWrite bytes s = (.ok (), s') →
    ∃ m, (modem s).Overhears m ∧ modem s' = m.write bytes
  spiWriteRaises : ∀ bytes s e s', board.spiWrite bytes s = (.error e, s') →
    ∃ m part, (modem s).Overhears m ∧ part <+: bytes ∧ modem s' = m.write part
  spiReadinto : ∀ count s buf s', board.spiReadinto count s = (.ok buf, s') →
    ∃ m, (modem s).Overhears m ∧ (buf, modem s') = m.read count
  spiReadintoRaises : ∀ count s e s', board.spiReadinto count s = (.error e, s') →
    ∃ m part, (modem s).Overhears m ∧ part ≤ count ∧ modem s' = (m.read part).2
  print : ∀ line s, (modem s).Overhears (modem (board.print line s))
  tryLock : ∀ s, (modem s).Overhears (modem (board.tryLock s).2)

end Lr2021.Link
