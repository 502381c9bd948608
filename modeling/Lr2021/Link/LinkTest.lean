import Lr2021.Link.Driver

set_option autoImplicit false

/-! The two-node link test: `config.py`, and the two roles of `code.py`. -/
namespace Lr2021.Link

/-- Which board this is, and what the two of them must agree on. -/
structure Config where
  node : String
  frequencyHz : Int
  brBw : Int
  codingRate : Int
  shaping : Int
  syncWord : Int
  powerDbm : Int
  payloadLen : Nat
  packets : Nat
  sweep : Bool

/-- The file as it is shipped. -/
def config : Config where
  node := "A"
  frequencyHz := 2450000000
  brBw := 0
  codingRate := 3
  shaping := 0x05
  syncWord := 0x12345678
  powerDbm := 0
  payloadLen := 64
  packets := 500
  sweep := false

namespace Code

open Procedure

variable {ε σ α : Type}

/-- Seconds each rate gets. -/
def windowS : Nat := 12

/-- `LR21`, the start of every payload. -/
def magic : List UInt8 := [0x4C, 0x52, 0x32, 0x31]

def rates (config : Config) : List Int :=
  if config.sweep then (List.range 8).map Int.ofNat else [config.brBw]

/-- What a rate is brought up with. -/
def settings (config : Config) (brBw : Int) : Settings where
  frequencyHz := config.frequencyHz
  brBw := brBw
  cr := config.codingRate
  shaping := config.shaping
  syncWord := config.syncWord
  powerDbm := config.powerDbm
  payloadLen := config.payloadLen
  preamble := 8

/-- A call of the native module. -/
def native : Except ModuleError α → Py ε σ α
  | .ok value => pure value
  | .error e => raise (.native e)

def describe (board : Board ε σ) (brBw : Int) : Py ε σ String := do
  let kbps ← native (Module.modFlrcBitrateKbps board.python brBw)
  let khz ← native (Module.modFlrcBandwidthKhz board.python brBw)
  pure (toString kbps ++ " kbps / " ++ toString khz ++ " kHz")

section Native

variable {board : Board ε σ} {n n' : Node σ}

theorem returns_native {r : Except ModuleError α} {value : α}
    (returned : Returns (native r : Py ε σ α) n value n') : r = .ok value ∧ n' = n := by
  cases r with
  | error e => exact absurd returned not_returns_raise
  | ok value' =>
    obtain ⟨rfl, rfl⟩ := returns_pure.mp returned
    exact ⟨rfl, rfl⟩

theorem returns_describe {brBw : Int} {name : String}
    (returned : Returns (describe board brBw) n name n') : n' = n := by
  obtain ⟨_, n₁, kbps, rest⟩ := returns_bind.mp returned
  obtain ⟨_, n₂, khz, rest⟩ := returns_bind.mp rest
  rw [(returns_pure.mp rest).2, (returns_native khz).2, (returns_native kbps).2]

end Native

def body (seq : Nat) : List UInt8 := magic ++ [byteOf seq 8, byteOf seq 0]

def padded (payloadLen seq : Nat) : List UInt8 :=
  body seq ++ List.replicate (payloadLen - (body seq).length) 0

/-- The padding of a payload that is too short for the body has a negative length. -/
def packet (config : Config) (seq : Nat) : Py ε σ (List UInt8) :=
  if config.payloadLen < (body seq).length then raise (.valueError "")
  else pure (padded config.payloadLen seq)

def seqOf (packet : List UInt8) : Option Nat :=
  if packet.length < 6 ∨ packet.take 4 ≠ magic then none
  else some ((packet[4]!.toNat <<< 8) ||| packet[5]!.toNat)

section Roles

variable (board : Board ε σ) (fuel : Nat) (config : Config)

def sendNext (sent seq : Nat) : Py ε σ Nat := do
  let data ← packet config seq
  if ← Link.transmit board fuel data 1000 then pure (sent + 1) else pure sent

def transmit (brBw : Int) : Py ε σ Nat := do
  begin board fuel (settings config brBw)
  let name ← describe board brBw
  board.say ("  " ++ name ++ ": sending " ++ toString config.packets ++ " packets")
  let started ← board.now
  let sent ← (List.range config.packets).foldlM (sendNext board fuel config) 0
  let elapsedMs := ((← board.now : Nat) - started : Int).tdiv 1000000
  let bps ← native (Module.modFlrcGoodputBps board.python ↑(sent * config.payloadLen) elapsedMs)
  board.say ("  sent " ++ toString sent ++ "/" ++ toString config.packets ++ " in " ++
    toString elapsedMs ++ " ms, " ++ toString (bps / 1000) ++ " kbps offered")
  pure sent

/-- What a receiver has counted. -/
structure Tally where
  got : Nat
  crcErrors : Nat
  firstMs : Option Nat
  lastMs : Option Nat

/-- One round of the window of a receiver. -/
def receiveRound (deadline : Nat) (tally : Tally) : Py ε σ (Tally ⊕ Tally) := do
  if (← board.now) < deadline then
    match ← poll board fuel with
    | .nothing => pure (.inl tally)
    | .crcFailure => pure (.inl { tally with crcErrors := tally.crcErrors + 1 })
    | .packet bytes =>
      match seqOf bytes with
      | none => pure (.inl tally)
      | some _ =>
        let lastMs := (← board.now) / 1000000
        pure (.inl { tally with
          got := tally.got + 1
          firstMs := some (tally.firstMs.getD lastMs)
          lastMs := some lastMs })
  else pure (.inr tally)

/-- A time of zero counts as none. -/
def Tally.span (tally : Tally) : Int :=
  match tally.firstMs, tally.lastMs with
  | some first, some last => if last = 0 then 0 else (last : Int) - first
  | _, _ => 0

/-- A number of tenths as `%d.%d%%`. -/
def tenths (n : Int) : String := toString (n / 10) ++ "." ++ toString (n % 10) ++ "%"

def receive (brBw : Int) : Py ε σ (Nat × Int × Int) := do
  begin board fuel (settings config brBw)
  startReceive board fuel
  let name ← describe board brBw
  board.say ("  " ++ name ++ ": listening")
  let deadline := (← board.now) + windowS * 1000000000
  let tally ← whileLoop (receiveRound board fuel deadline) fuel
    { got := 0, crcErrors := 0, firstMs := none, lastMs := none }
  let per ← native (Module.modFlrcPerPermille board.python config.packets tally.got)
  let bps ← native
    (Module.modFlrcGoodputBps board.python ↑(tally.got * config.payloadLen) tally.span)
  board.say ("  got " ++ toString tally.got ++ "/" ++ toString config.packets ++ ", " ++
    toString tally.crcErrors ++ " CRC errors, PER " ++ tenths per ++ ", " ++
    toString (bps / 1000) ++ " kbps")
  pure (tally.got, per, bps)

/-- A line of the table. -/
structure Line where
  brBw : Int
  got : Nat
  per : Int
  bps : Int
deriving DecidableEq

def idleRound (windowEnd : Nat) (_ : Unit) : Py ε σ (Unit ⊕ Unit) := do
  if (← board.now) < windowEnd then pure (.inl ()) else pure (.inr ())

/-- One rate of the sweep. -/
def window (role : String) (results : List Line) (brBw : Int) : Py ε σ (List Line) := do
  let windowEnd := (← board.now) + windowS * 1000000000
  if role = "A" then
    let _ ← transmit board fuel config brBw
    whileLoop (idleRound board windowEnd) fuel ()
    pure results
  else
    let (got, per, bps) ← receive board fuel config brBw
    pure (results ++ [{ brBw, got, per, bps }])

def printLine (line : Line) : Py ε σ Unit := do
  let name ← describe board line.brBw
  board.say (name ++ String.ofList (List.replicate (14 - name.length) ' ') ++ "  " ++
    padLeft 2 ' ' (toString (line.per / 10)) ++ "." ++ toString (line.per % 10) ++ "%  " ++
    padLeft 5 ' ' (toString (line.bps / 1000)) ++ " kbps")

/-- The body of the `with` statement. -/
def session (role : String) : Py ε σ (List Line) := do
  reset board fuel
  let chip ← version board fuel
  board.say ("version: " ++ " ".intercalate
    (chip.map fun b => padLeft 2 '0' (String.ofList (Nat.toDigits 16 b.toNat))))
  (rates config).foldlM (window board fuel config role) []

def table (role : String) (results : List Line) : Py ε σ Unit :=
  if role = "B" ∧ results.length > 1 then do
    board.say ""
    board.say "rate            PER     goodput"
    results.forM (printLine board)
  else pure ()

/-- The whole test. What the `with` statement does on its way out, letting go of the pins and the
SPI object, is left out. -/
def run : Py ε σ Unit := do
  let role := config.node.toUpper
  if role ≠ "A" ∧ role ≠ "B" then raise (.valueError "NODE must be 'A' or 'B'")
  else
    board.say ("FLRC link test, node " ++ role)
    init board fuel
    let results ← session board fuel config role
    table board role results

end Roles
end Code
end Lr2021.Link
