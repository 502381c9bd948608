import Lr2021.Cmd
import Lr2021.Xfer
import Lr2021.Lib.BigEndian

set_option autoImplicit false

namespace Lr2021.Lora

open Cmd Xfer BigEndian

variable {m : Type → Type} [Monad m]

/-- Status of the last received LoRa frame, in raw register units. -/
structure PacketStatus where
  cr : UInt8
  hasCrc : Bool
  len : UInt8
  snrPkt : Int8
  rssiPkt : UInt16
  rssiSignalPkt : UInt16
  detector : UInt8
  deriving DecidableEq, Repr

/-- The bandwidths of the table. -/
theorem loraBwHz_bounds {bw : UInt8} {hz : UInt32} (known : loraBwHz bw = some hz) :
    31250 ≤ hz.toNat ∧ hz.toNat ≤ 1000000 := by
  unfold loraBwHz at known
  split at known <;> cases known <;> decide

/-- Rejects SF/BW/CR combinations the chip cannot encode. -/
def validate (sf bw cr : UInt8) (highBand : Bool) : Except Int32 Unit :=
  if ¬(loraSfMin ≤ sf ∧ sf ≤ loraSfMax) then .error Hal.errBuffer
  else if (loraBwHz bw).isNone then .error Hal.errBuffer
  else if bwNeedsHighBand bw && !highBand then .error Hal.errBuffer
  else if cr = 0 ∨ cr > loraCrMax then .error Hal.errBuffer
  else .ok ()

/-- Every refusal carries the same code. -/
theorem validate_error {sf bw cr : UInt8} {highBand : Bool} {e : Int32}
    (failed : validate sf bw cr highBand = .error e) : e = Hal.errBuffer := by
  unfold validate at failed
  repeat' split at failed
  all_goals cases failed
  all_goals rfl

theorem validate_isOk_iff (sf bw cr : UInt8) (highBand : Bool) :
    (validate sf bw cr highBand).isOk = true ↔
      (loraSfMin ≤ sf ∧ sf ≤ loraSfMax) ∧ (loraBwHz bw).isSome = true ∧
        (bwNeedsHighBand bw = true → highBand = true) ∧ cr ≠ 0 ∧ cr ≤ loraCrMax := by
  have isNone_iff : (loraBwHz bw).isNone = true ↔ ¬(loraBwHz bw).isSome = true := by
    cases loraBwHz bw <;> simp
  have high_iff : (bwNeedsHighBand bw && !highBand) = true ↔
      ¬(bwNeedsHighBand bw = true → highBand = true) := by
    cases bwNeedsHighBand bw <;> cases highBand <;> simp
  have rate_iff : cr = 0 ∨ cr > loraCrMax ↔ ¬(cr ≠ 0 ∧ cr ≤ loraCrMax) := by
    rw [gt_iff_lt, ← UInt8.not_le, Decidable.not_and_iff_or_not, Decidable.not_not]
  simp only [validate, isNone_iff, high_iff, rate_iff]
  split
  · rename_i factor
    exact iff_of_false nofun fun all => factor all.1
  split
  · rename_i width
    exact iff_of_false nofun fun all => width all.2.1
  split
  · rename_i band
    exact iff_of_false nofun fun all => band all.2.2.1
  split
  · rename_i rate
    exact iff_of_false nofun fun all => rate all.2.2.2
  · rename_i factor width band rate
    exact iff_of_true rfl ⟨Decidable.not_not.mp factor, Decidable.not_not.mp width,
      Decidable.not_not.mp band, Decidable.not_not.mp rate⟩

/-- Packs SF, BW, CR and LDRO into the two bytes SetLoRaModulationParams wants. -/
def modulationParams (sf bw cr ldro : UInt8) : List UInt8 :=
  [((sf &&& 0x0F) <<< 4) ||| (bw &&& 0x0F), ((cr &&& 0x0F) <<< 4) ||| (ldro &&& 0x0F)]

/-- Whether low data rate optimization is required for this SF and bandwidth. The
shift count wraps at 32 and the product at 2^32, as in the release profile the
native module is built with. -/
def ldroNeeded (sf bw : UInt8) : Bool :=
  match loraBwHz bw with
  | some hz => ((1 : UInt32) <<< sf.toUInt32) * 1000 ≥ 16 * hz
  | none => false

def setModulationParams (hal : Hal m) (sf bw cr ldro : UInt8) (highBand : Bool) :
    Fallible m Unit := do
  validate sf bw cr highBand
  hal.writeCmd cmdSetLoraModulationParams (modulationParams sf bw cr ldro)

/-- Packs the four bytes SetLoRaPacketParams wants. -/
def packetParams (preambleLen : UInt16) (headerType payloadLen crc invertIq : UInt8) :
    List UInt8 :=
  [(preambleLen >>> 8).toUInt8, preambleLen.toUInt8, payloadLen,
    ((headerType &&& 0x01) <<< 2) ||| ((crc &&& 0x01) <<< 1) ||| (invertIq &&& 0x01)]

/-- Preamble length, header mode, payload length, CRC and IQ inversion. -/
def setPacketParams (hal : Hal m) (preambleLen : UInt16)
    (headerType payloadLen crc invertIq : UInt8) : Fallible m Unit :=
  let params := packetParams preambleLen headerType payloadLen crc invertIq
  hal.writeCmd cmdSetLoraPacketParams params

def setSyncWord (hal : Hal m) (syncWord : UInt8) : Fallible m Unit :=
  hal.writeCmd cmdSetLoraSyncword [syncWord]

/-- Aborts reception if no header arrives within this many symbols. -/
def setSynchTimeout (hal : Hal m) (symbols : UInt8) (mantissaExponent : Bool) :
    Fallible m Unit :=
  hal.writeCmd cmdSetLoraSynchTimeout [symbols, mantissaExponent.toUInt8]

/-- Decodes the six-byte GetLoRaPacketStatus reply. -/
def decodePacketStatus (buf : Vector UInt8 6) : PacketStatus :=
  let rssiPkt := (buf[3]!.toUInt16 <<< 1) ||| ((buf[5]!.toUInt16 &&& 0x02) >>> 1)
  let rssiSignalPkt := (buf[4]!.toUInt16 <<< 1) ||| (buf[5]!.toUInt16 &&& 0x01)
  -- One-hot across bits 5:2, reported as an index.
  let detector : UInt8 :=
    match (buf[5]! >>> 2) &&& 0x0F with
    | 0x01 => 0
    | 0x02 => 1
    | 0x04 => 2
    | 0x08 => 3
    | _ => 0
  { cr := buf[0]! &&& 0x0F
    hasCrc := (buf[0]! &&& 0x10) != 0
    len := buf[1]!
    snrPkt := buf[2]!.toInt8
    rssiPkt
    rssiSignalPkt
    detector }

def getPacketStatus (hal : Hal m) : Fallible m PacketStatus :=
  readReply hal cmdGetLoraPacketStatus decodePacketStatus

/-- Returns (received, CRC errors, header CRC errors, false syncs). -/
def getRxStats (hal : Hal m) : Fallible m (UInt16 × UInt16 × UInt16 × UInt16) :=
  readReply hal cmdGetLoraRxStats fun buf : Vector UInt8 8 =>
    (ofBytes16 buf[0]! buf[1]!, ofBytes16 buf[2]! buf[3]!, ofBytes16 buf[4]! buf[5]!,
      ofBytes16 buf[6]! buf[7]!)

/-- Channel activity detection thresholds and what to do when it finishes. -/
def setCadParams (hal : Hal m) (symNum : UInt8) (preambleOnly : Bool)
    (pnrDelta exitMode : UInt8) (timeout : UInt32) (detPeak : UInt8) : Fallible m Unit :=
  if timeout > timeoutMax then throw Hal.errBuffer
  else
    let params :=
      [symNum, (preambleOnly.toUInt8 <<< 4) ||| (pnrDelta &&& 0x0F), exitMode,
        (timeout >>> 16).toUInt8, (timeout >>> 8).toUInt8, timeout.toUInt8,
        detPeak &&& 0x7F]
    hal.writeCmd cmdSetLoraCadParams params

def setCad (hal : Hal m) : Fallible m Unit :=
  hal.writeCmd cmdSetLoraCad []

end Lr2021.Lora
