import Lr2021.Cmd

set_option autoImplicit false

namespace Lr2021.Flrc

open Cmd

/-- Continues the shared error numbering, which ends at -8. -/
def errParam : Int32 := -9

/-- `(bitrate kbps, bandwidth kHz)` indexed by the combined `brBw` code. -/
def rates : Vector (UInt16 × UInt16) 8 := #v[
  (2600, 2666), (2080, 2222), (1300, 1333), (1040, 1333),
  (650, 888), (520, 769), (325, 444), (260, 444)]

/-- `(numerator, denominator)` of each coding rate, indexed by its code. -/
def codingRatios : Vector (UInt8 × UInt8) 4 := #v[(1, 2), (3, 4), (1, 1), (2, 3)]

/-- Channel bitrate in kbps, or `none` if the code is not one of the eight. -/
def bitrateKbps (brBw : UInt8) : Option UInt16 := rates[brBw.toNat]?.map (·.1)

/-- Channel bandwidth in kHz, or `none` if the code is not one of the eight. -/
def bandwidthKhz (brBw : UInt8) : Option UInt16 := rates[brBw.toNat]?.map (·.2)

/-- Coding rate as `(numerator, denominator)`, or `none` for an unknown code. -/
def codingRatio (cr : UInt8) : Option (UInt8 × UInt8) := codingRatios[cr.toNat]?

/-- Validates and packs the arguments of SetFlrcModulationParams. -/
def modulationParams (brBw cr shaping : UInt8) : Except Int32 (UInt8 × UInt8) :=
  if brBw.toNat ≥ rates.size ∨ cr.toNat ≥ codingRatios.size then .error errParam
  else match shaping with
    | shapingNone | shapingGaussBt05 | shapingGaussBt10 | shapingRrcRolloff05 =>
        .ok (brBw, (cr <<< 4) ||| (shaping &&& 0x0F))
    | _ => .error errParam

/-- Payload goodput in bits per second. The quotient is narrowed to 32 bits. -/
def goodputBps (bytes elapsedMs : UInt32) : UInt32 :=
  if elapsedMs = 0 then 0
  else
    let bits := bytes.toUInt64 * 8 * 1000
    (bits / elapsedMs.toUInt64).toUInt32

/-- `u32::saturating_sub`. -/
def saturatingSub (left right : UInt32) : UInt32 := if left ≤ right then 0 else left - right

/-- Packet error rate in tenths of a percent. -/
def perPermille (sent received : UInt32) : UInt32 :=
  if sent = 0 then 0
  else
    let lost := saturatingSub sent received
    ((lost.toUInt64 * 1000) / sent.toUInt64).toUInt32

end Lr2021.Flrc
