import Lr2021.StatusReads

set_option autoImplicit false

/-! Which bits of a reply each result is made of. -/
namespace Lr2021

open FixedWidth BigEndian

/-- Two buffers agree on the bits of a mask. -/
def Agree {n : Nat} (mask a b : Vector UInt8 n) : Prop :=
  ∀ j : Fin n, a[j] &&& mask[j] = b[j] &&& mask[j]

theorem agree_iff_index {n : Nat} {mask a b : Vector UInt8 n} :
    Agree mask a b ↔ ∀ i < n, a[i]! &&& mask[i]! = b[i]! &&& mask[i]! := by
  constructor
  · intro agree i inside
    rw [getElem!_pos a i inside, getElem!_pos b i inside, getElem!_pos mask i inside]
    exact agree ⟨i, inside⟩
  · rintro indexed ⟨i, inside⟩
    have here := indexed i inside
    rwa [getElem!_pos a i inside, getElem!_pos b i inside, getElem!_pos mask i inside] at here

theorem eq_iff_index {α : Type} [Inhabited α] {n : Nat} {a b : Vector α n} :
    a = b ↔ ∀ i < n, a[i]! = b[i]! := by
  constructor
  · rintro rfl i -
    rfl
  · intro indexed
    ext i inside
    have here := indexed i inside
    rwa [getElem!_pos a i inside, getElem!_pos b i inside] at here

/-- Every bit of a buffer. -/
def allBits (n : Nat) : Vector UInt8 n := Vector.replicate n 0xFF

theorem agree_allBits {n : Nat} (a b : Vector UInt8 n) : Agree (allBits n) a b ↔ a = b := by
  constructor
  · intro agree
    ext i inside
    have same := agree ⟨i, inside⟩
    simp only [allBits, Fin.getElem_fin, Vector.getElem_replicate, and_allOnes] at same
    rw [same]
  · intro same
    subst same
    exact fun _ => rfl

/-- Agreement on a mask is agreement on every part of it. -/
theorem Agree.part {n : Nat} {mask part a b : Vector UInt8 n} (agree : Agree mask a b)
    (within : ∀ j : Fin n, mask[j] &&& part[j] = part[j]) : Agree part a b := by
  intro j
  rw [← within j, ← UInt8.and_assoc, ← UInt8.and_assoc, agree j]

/-- Exclusive or with a buffer of flips. -/
def flipBits {n : Nat} (a flips : Vector UInt8 n) : Vector UInt8 n :=
  Vector.ofFn fun j => a[j] ^^^ flips[j]

/-- Flips inside one mask do not show under another that is disjoint from it. -/
theorem agree_flipBits {n : Nat} {own other : Vector UInt8 n} (a flips : Vector UInt8 n)
    (inside : ∀ j : Fin n, flips[j] &&& other[j] = flips[j])
    (disjoint : ∀ j : Fin n, other[j] &&& own[j] = 0) : Agree own (flipBits a flips) a := by
  intro j
  have flipped : (flipBits a flips)[j] = a[j] ^^^ flips[j] := by
    simp only [flipBits, Fin.getElem_fin, Vector.getElem_ofFn]
  have outside : flips[j] &&& own[j] = 0 := by
    rw [← inside j, UInt8.and_assoc, disjoint j, UInt8.and_zero]
  rw [flipped, xor_and, outside, UInt8.xor_zero]

namespace Lora

/-- The bits each out cell of a packet status is decoded from: coding rate, CRC, length,
SNR, the two RSSIs with their ninth bits, and the detector. -/
def packetStatusBits : Vector (Vector UInt8 6) 7 := #v[
  #v[0x0F, 0, 0, 0, 0, 0], #v[0x10, 0, 0, 0, 0, 0], #v[0, 0xFF, 0, 0, 0, 0],
  #v[0, 0, 0xFF, 0, 0, 0], #v[0, 0, 0, 0xFF, 0, 0x02], #v[0, 0, 0, 0, 0xFF, 0x01],
  #v[0, 0, 0, 0, 0, 0x3C]]

/-- The bits of a packet status that mean anything. -/
def packetStatusUsed : Vector UInt8 6 := #v[0x1F, 0xFF, 0xFF, 0xFF, 0xFF, 0x3F]

/-- The bits of each of the four counters. -/
def rxStatsBits : Vector (Vector UInt8 8) 4 := #v[
  #v[0xFF, 0xFF, 0, 0, 0, 0, 0, 0], #v[0, 0, 0xFF, 0xFF, 0, 0, 0, 0],
  #v[0, 0, 0, 0, 0xFF, 0xFF, 0, 0], #v[0, 0, 0, 0, 0, 0, 0xFF, 0xFF]]

/-- Exactly one detector bit is set. -/
def OneHot (buf : Vector UInt8 6) : Prop :=
  buf[5]! &&& 0x3C = 0x04 ∨ buf[5]! &&& 0x3C = 0x08 ∨ buf[5]! &&& 0x3C = 0x10 ∨
    buf[5]! &&& 0x3C = 0x20

theorem oneHot_first {b₀ b₁ b₂ b₃ b₄ flags : UInt8} (first : flags &&& 0x3C = 0x04) :
    OneHot #v[b₀, b₁, b₂, b₃, b₄, flags] := Or.inl first

theorem packetStatusBits_disjoint (i k : Fin 7) (different : i ≠ k) (j : Fin 6) :
    packetStatusBits[k][j] &&& packetStatusBits[i][j] = 0 := by
  revert i k j
  decide

theorem rxStatsBits_disjoint (i k : Fin 4) (different : i ≠ k) (j : Fin 8) :
    rxStatsBits[k][j] &&& rxStatsBits[i][j] = 0 := by
  revert i k j
  decide

/- Single fields of a byte, as arithmetic. -/

private theorem bit_zero (x : UInt8) : (x &&& 0x01).toNat = x.toNat % 2 :=
  toNat_lowMask x 1 (by decide)

private theorem bit_one (x : UInt8) : (x &&& 0x02).toNat = x.toNat / 2 % 2 * 2 := by
  revert x
  exact forall_byte (by decide +kernel)

private theorem bit_four (x : UInt8) : (x &&& 0x10).toNat = x.toNat / 16 % 2 * 16 := by
  revert x
  exact forall_byte (by decide +kernel)

private theorem detector_bits (x : UInt8) : (x &&& 0x3C).toNat = x.toNat / 4 % 16 * 4 := by
  revert x
  exact forall_byte (by decide +kernel)

private theorem ninth_of_packet (x : UInt8) :
    ((x.toUInt16 &&& 0x02) >>> 1).toNat = x.toNat / 2 % 2 := by
  revert x
  exact forall_byte (by decide +kernel)

private theorem ninth_of_signal (x : UInt8) : (x.toUInt16 &&& 0x01).toNat = x.toNat % 2 := by
  revert x
  exact forall_byte (by decide +kernel)

private theorem ninth_of_inst (x : UInt8) :
    ((x.toUInt16 >>> 7) &&& 0x01).toNat = x.toNat / 128 := by
  revert x
  exact forall_byte (by decide +kernel)

/-- A byte shifted up by one over a ninth bit. -/
private theorem toNat_nine (high : UInt8) (low : UInt16) (bit : low.toNat < 2) :
    (high.toUInt16 <<< 1 ||| low).toNat = high.toNat * 2 + low.toNat := by
  have small := high.toNat_lt
  rw [UInt16.toNat_or, UInt16.toNat_shiftLeft, UInt8.toNat_toUInt16,
    show (1 : UInt16).toNat % 16 = 1 from rfl, Nat.shiftLeft_eq, Nat.mod_eq_of_lt (by omega),
    ← Nat.shiftLeft_eq, ← Nat.shiftLeft_add_eq_or_of_lt bit, Nat.shiftLeft_eq]

/-- The packet RSSI is byte 3 over bit 1 of byte 5. -/
theorem toNat_rssiPkt (buf : Vector UInt8 6) :
    (decodePacketStatus buf).rssiPkt.toNat = buf[3]!.toNat * 2 + buf[5]!.toNat / 2 % 2 := by
  have ninth := ninth_of_packet buf[5]!
  exact (toNat_nine buf[3]! _ (by omega)).trans (by rw [ninth])

/-- The signal RSSI is byte 4 over bit 0 of byte 5. -/
theorem toNat_rssiSignalPkt (buf : Vector UInt8 6) :
    (decodePacketStatus buf).rssiSignalPkt.toNat = buf[4]!.toNat * 2 + buf[5]!.toNat % 2 := by
  have ninth := ninth_of_signal buf[5]!
  exact (toNat_nine buf[4]! _ (by omega)).trans (by rw [ninth])

/-- The instantaneous RSSI is the first byte over the top bit of the second. -/
theorem toNat_rssiInst (b₀ b₁ : UInt8) :
    ((b₀.toUInt16 <<< 1) ||| ((b₁.toUInt16 >>> 7) &&& 0x01)).toNat =
      b₀.toNat * 2 + b₁.toNat / 128 := by
  have ninth := ninth_of_inst b₁
  have small := b₁.toNat_lt
  rw [toNat_nine b₀ _ (by omega), ninth]

/-- The SNR is byte 2 in two's complement. -/
theorem toInt_snrPkt (buf : Vector UInt8 6) :
    (decodePacketStatus buf).snrPkt.toInt = Int.bmod buf[2]!.toNat 256 :=
  BitVec.toInt_eq_toNat_bmod buf[2]!.toBitVec

/-- The detector index inverts the one-hot code, which starts at bit 2. -/
theorem detector_oneHot (buf : Vector UInt8 6) (oneHot : OneHot buf) :
    (decodePacketStatus buf).detector < 4 ∧
      buf[5]! &&& 0x3C = (0x04 : UInt8) <<< (decodePacketStatus buf).detector := by
  have each : ∀ flags : UInt8,
      (flags &&& 0x3C = 0x04 ∨ flags &&& 0x3C = 0x08 ∨ flags &&& 0x3C = 0x10 ∨
        flags &&& 0x3C = 0x20) →
      (decodePacketStatus #v[0, 0, 0, 0, 0, flags]).detector < 4 ∧
        flags &&& 0x3C =
          (0x04 : UInt8) <<< (decodePacketStatus #v[0, 0, 0, 0, 0, flags]).detector :=
    forall_byte (by decide +kernel)
  exact each buf[5]! oneHot

/-- Nothing but the detector bits goes into the index. -/
theorem detector_congr (a b : Vector UInt8 6) (same : a[5]! &&& (0x3C : UInt8) = b[5]! &&& 0x3C) :
    (decodePacketStatus a).detector = (decodePacketStatus b).detector := by
  have masked : ∀ flags : UInt8, (decodePacketStatus #v[0, 0, 0, 0, 0, flags]).detector =
      (decodePacketStatus #v[0, 0, 0, 0, 0, flags &&& 0x3C]).detector :=
    forall_byte (by decide +kernel)
  exact (masked a[5]!).trans ((congrArg (fun flags =>
    (decodePacketStatus #v[0, 0, 0, 0, 0, flags]).detector) same).trans (masked b[5]!).symm)

theorem agree_six (m₀ m₁ m₂ m₃ m₄ m₅ : UInt8) {a b : Vector UInt8 6} :
    Agree #v[m₀, m₁, m₂, m₃, m₄, m₅] a b ↔
      a[0]! &&& m₀ = b[0]! &&& m₀ ∧ a[1]! &&& m₁ = b[1]! &&& m₁ ∧ a[2]! &&& m₂ = b[2]! &&& m₂ ∧
        a[3]! &&& m₃ = b[3]! &&& m₃ ∧ a[4]! &&& m₄ = b[4]! &&& m₄ ∧
        a[5]! &&& m₅ = b[5]! &&& m₅ := by
  simp only [agree_iff_index, Nat.forall_lt_succ_left, Nat.not_lt_zero, false_imp_iff,
    implies_true, and_true, Nat.zero_add, Nat.reduceAdd]
  exact Iff.rfl

private theorem ofBool_crc (x y : UInt8) :
    ofBool ((x &&& 0x10) != 0) = ofBool ((y &&& 0x10) != 0) ↔ x &&& 0x10 = y &&& 0x10 := by
  have zeroOrBit (z : UInt8) : z &&& 0x10 = 0 ∨ z &&& 0x10 = 0x10 := by
    revert z
    exact forall_byte (by decide +kernel)
  rcases zeroOrBit x with h | h <;> rcases zeroOrBit y with k | k <;> rw [h, k] <;> decide

private theorem snr_eq_iff (x y : UInt8) : x.toInt8.toInt32 = y.toInt8.toInt32 ↔ x = y := by
  constructor
  · intro same
    have signed := congrArg Int32.toInt same
    rw [Int8.toInt_toInt32, Int8.toInt_toInt32, Int8.toInt_inj] at signed
    exact congrArg Int8.toUInt8 signed
  · intro same
    subst same
    rfl

/-- Every cell of a packet status tells exactly its own bits, the detector on a one-hot
code. -/
theorem packetStatus_cell_iff (a b : Vector UInt8 6) (i : Fin 7)
    (detected : i = 6 → OneHot a ∧ OneHot b) :
    (StatusRead.stored .loraGetPacketStatus a)[i] =
        (StatusRead.stored .loraGetPacketStatus b)[i] ↔ Agree packetStatusBits[i] a b := by
  have unused (x y : UInt8) : x &&& 0 = y &&& 0 ↔ True := by
    rw [UInt8.and_zero, UInt8.and_zero, eq_self]
  match i with
  | 0 =>
    rw [show packetStatusBits[(0 : Fin 7)] = #v[0x0F, 0, 0, 0, 0, 0] from rfl, agree_six]
    simp only [unused, and_true]
    exact ofU8_inj _ _
  | 1 =>
    rw [show packetStatusBits[(1 : Fin 7)] = #v[0x10, 0, 0, 0, 0, 0] from rfl, agree_six]
    simp only [unused, and_true]
    exact ofBool_crc _ _
  | 2 =>
    rw [show packetStatusBits[(2 : Fin 7)] = #v[0, 0xFF, 0, 0, 0, 0] from rfl, agree_six]
    simp only [unused, and_allOnes, and_true, true_and]
    exact ofU8_inj _ _
  | 3 =>
    rw [show packetStatusBits[(3 : Fin 7)] = #v[0, 0, 0xFF, 0, 0, 0] from rfl, agree_six]
    simp only [unused, and_allOnes, and_true, true_and]
    exact snr_eq_iff _ _
  | 4 =>
    rw [show packetStatusBits[(4 : Fin 7)] = #v[0, 0, 0, 0xFF, 0, 0x02] from rfl, agree_six]
    simp only [unused, and_allOnes, true_and]
    apply (ofU16_inj _ _).trans
    have high := a[3]!.toNat_lt
    have high' := b[3]!.toNat_lt
    rw [← UInt16.toNat_inj, toNat_rssiPkt, toNat_rssiPkt, ← UInt8.toNat_inj, ← UInt8.toNat_inj,
      bit_one, bit_one]
    omega
  | 5 =>
    rw [show packetStatusBits[(5 : Fin 7)] = #v[0, 0, 0, 0, 0xFF, 0x01] from rfl, agree_six]
    simp only [unused, and_allOnes, true_and]
    apply (ofU16_inj _ _).trans
    rw [← UInt16.toNat_inj, toNat_rssiSignalPkt, toNat_rssiSignalPkt, ← UInt8.toNat_inj,
      ← UInt8.toNat_inj, bit_zero, bit_zero]
    omega
  | 6 =>
    rw [show packetStatusBits[(6 : Fin 7)] = #v[0, 0, 0, 0, 0, 0x3C] from rfl, agree_six]
    simp only [unused, true_and]
    refine (ofU8_inj _ _).trans ⟨fun same => ?_, detector_congr a b⟩
    obtain ⟨oneHot, oneHot'⟩ := detected rfl
    rw [(detector_oneHot a oneHot).2, (detector_oneHot b oneHot').2, same]

/-- No cell of a packet status looks at bits other than its own. -/
theorem packetStatus_cell_congr (a b : Vector UInt8 6) (i : Fin 7)
    (agree : Agree packetStatusBits[i] a b) :
    (StatusRead.stored .loraGetPacketStatus a)[i] =
      (StatusRead.stored .loraGetPacketStatus b)[i] := by
  by_cases detector : i = 6
  · subst detector
    exact (ofU8_inj _ _).mpr (detector_congr a b (agree 5))
  · exact (packetStatus_cell_iff a b i fun detected => absurd detected detector).mpr agree

/-- The cells together tell exactly the used bits. -/
theorem packetStatusUsed_iff (a b : Vector UInt8 6) :
    (∀ i : Fin 7, Agree packetStatusBits[i] a b) ↔ Agree packetStatusUsed a b := by
  constructor
  · intro all
    have first : a[0]! &&& (0x1F : UInt8) = b[0]! &&& 0x1F := by
      have low (x : UInt8) : (x &&& 0x0F).toNat = x.toNat % 16 := toNat_lowMask x 4 (by decide)
      have five (x : UInt8) : (x &&& 0x1F).toNat = x.toNat % 32 := toNat_lowMask x 5 (by decide)
      have cr : (a[0]! &&& (0x0F : UInt8)).toNat = (b[0]! &&& (0x0F : UInt8)).toNat :=
        congrArg UInt8.toNat (all 0 0)
      have crc : (a[0]! &&& (0x10 : UInt8)).toNat = (b[0]! &&& (0x10 : UInt8)).toNat :=
        congrArg UInt8.toNat (all 1 0)
      rw [low, low] at cr
      rw [bit_four, bit_four] at crc
      rw [← UInt8.toNat_inj, five, five]
      omega
    have last : a[5]! &&& (0x3F : UInt8) = b[5]! &&& 0x3F := by
      have six (x : UInt8) : (x &&& 0x3F).toNat = x.toNat % 64 := toNat_lowMask x 6 (by decide)
      have packet : (a[5]! &&& (0x02 : UInt8)).toNat = (b[5]! &&& (0x02 : UInt8)).toNat :=
        congrArg UInt8.toNat (all 4 5)
      have signal : (a[5]! &&& (0x01 : UInt8)).toNat = (b[5]! &&& (0x01 : UInt8)).toNat :=
        congrArg UInt8.toNat (all 5 5)
      have detector : (a[5]! &&& (0x3C : UInt8)).toNat = (b[5]! &&& (0x3C : UInt8)).toNat :=
        congrArg UInt8.toNat (all 6 5)
      rw [bit_one, bit_one] at packet
      rw [bit_zero, bit_zero] at signal
      rw [detector_bits, detector_bits] at detector
      rw [← UInt8.toNat_inj, six, six]
      omega
    exact (agree_six _ _ _ _ _ _).mpr ⟨first, all 2 1, all 3 2, all 4 3, all 5 4, last⟩
  · intro used i
    apply used.part
    intro j
    revert i j
    decide

end Lora

namespace StatusRead

/-- Two payloads of a read agree on every bit that is used. -/
def AgreeUsed : (read : StatusRead) → read.Payload → read.Payload → Prop
  | getStatus, a, b => a = b
  | getVersion, a, b | getErrors, a, b | getRxFifoLevel, a, b | getTxFifoLevel, a, b =>
      Agree (allBits 2) a b
  | getRandomNumber, a, b => Agree (allBits 4) a b
  | getPacketType, a, b => Agree (allBits 1) a b
  | getAndClearIrqStatus, a, b => Agree #v[0x7F, 0xFF, 0xFF, 0xFF] a b
  | getRssiInst, a, b => Agree #v[0xFF, 0x80] a b
  | loraGetPacketStatus, a, b => Agree Lora.packetStatusUsed a b
  | loraGetRxStats, a, b => Agree (allBits 8) a b

/-- What a payload has to be for its read to tell all of it. -/
def Decodable : (read : StatusRead) → read.Payload → Prop
  | loraGetPacketStatus, buf => Lora.OneHot buf
  | _, _ => True

/- Vectors of the sizes that replies and cells have, index by index. -/

private theorem eq_one {α : Type} [Inhabited α] {a b : Vector α 1} : a = b ↔ a[0]! = b[0]! := by
  simp only [eq_iff_index, Nat.lt_one_iff, forall_eq]

private theorem eq_two {α : Type} [Inhabited α] {a b : Vector α 2} :
    a = b ↔ a[0]! = b[0]! ∧ a[1]! = b[1]! := by
  simp only [eq_iff_index, Nat.forall_lt_succ_left, Nat.not_lt_zero, false_imp_iff, implies_true,
    and_true, Nat.zero_add]

private theorem eq_three {α : Type} [Inhabited α] {a b : Vector α 3} :
    a = b ↔ a[0]! = b[0]! ∧ a[1]! = b[1]! ∧ a[2]! = b[2]! := by
  simp only [eq_iff_index, Nat.forall_lt_succ_left, Nat.not_lt_zero, false_imp_iff, implies_true,
    and_true, Nat.zero_add, Nat.reduceAdd]

private theorem eq_four {α : Type} [Inhabited α] {a b : Vector α 4} :
    a = b ↔ a[0]! = b[0]! ∧ a[1]! = b[1]! ∧ a[2]! = b[2]! ∧ a[3]! = b[3]! := by
  simp only [eq_iff_index, Nat.forall_lt_succ_left, Nat.not_lt_zero, false_imp_iff, implies_true,
    and_true, Nat.zero_add, Nat.reduceAdd]

private theorem eq_eight {α : Type} [Inhabited α] {a b : Vector α 8} :
    a = b ↔ (a[0]! = b[0]! ∧ a[1]! = b[1]!) ∧ (a[2]! = b[2]! ∧ a[3]! = b[3]!) ∧
      (a[4]! = b[4]! ∧ a[5]! = b[5]!) ∧ a[6]! = b[6]! ∧ a[7]! = b[7]! := by
  simp only [eq_iff_index, Nat.forall_lt_succ_left, Nat.not_lt_zero, false_imp_iff, implies_true,
    and_true, Nat.zero_add, Nat.reduceAdd, and_assoc]

/-- Big-endian half words are equal exactly byte by byte. -/
theorem ofU16_ofBytes16_inj (a₀ a₁ b₀ b₁ : UInt8) :
    ofU16 (ofBytes16 a₀ a₁) = ofU16 (ofBytes16 b₀ b₁) ↔ a₀ = b₀ ∧ a₁ = b₁ := by
  have low := a₁.toNat_lt
  have low' := b₁.toNat_lt
  rw [ofU16_inj, ← UInt16.toNat_inj, toNat_ofBytes16, toNat_ofBytes16, ← UInt8.toNat_inj,
    ← UInt8.toNat_inj]
  omega

theorem toInt_ofU16_ofBytes16 (b₀ b₁ : UInt8) :
    (ofU16 (ofBytes16 b₀ b₁)).toInt = b₀.toNat * 256 + b₁.toNat := by
  rw [toInt_ofU16, toNat_ofBytes16]
  omega

/-- And so are big-endian words. -/
theorem toInt32_ofBytes32_inj (a₀ a₁ a₂ a₃ b₀ b₁ b₂ b₃ : UInt8) :
    (ofBytes32 a₀ a₁ a₂ a₃).toInt32 = (ofBytes32 b₀ b₁ b₂ b₃).toInt32 ↔
      a₀ = b₀ ∧ a₁ = b₁ ∧ a₂ = b₂ ∧ a₃ = b₃ := by
  have h₁ := a₁.toNat_lt
  have h₂ := a₂.toNat_lt
  have h₃ := a₃.toNat_lt
  have k₁ := b₁.toNat_lt
  have k₂ := b₂.toNat_lt
  have k₃ := b₃.toNat_lt
  rw [toInt32_inj, ← UInt32.toNat_inj, toNat_ofBytes32, toNat_ofBytes32,
    ← UInt8.toNat_inj, ← UInt8.toNat_inj, ← UInt8.toNat_inj, ← UInt8.toNat_inj]
  omega

/-- The interrupt vector without its top bit. -/
private theorem irq_eq_iff (a b : Vector UInt8 4) :
    value getAndClearIrqStatus a = value getAndClearIrqStatus b ↔
      Agree #v[0x7F, 0xFF, 0xFF, 0xFF] a b := by
  have seven (x : UInt8) : (x &&& 0x7F).toNat = x.toNat % 128 := toNat_lowMask x 7 (by decide)
  have agree : Agree #v[0x7F, 0xFF, 0xFF, 0xFF] a b ↔
      a[0]! &&& (0x7F : UInt8) = b[0]! &&& 0x7F ∧ a[1]! &&& (0xFF : UInt8) = b[1]! &&& 0xFF ∧
        a[2]! &&& (0xFF : UInt8) = b[2]! &&& 0xFF ∧ a[3]! &&& (0xFF : UInt8) = b[3]! &&& 0xFF := by
    simp only [agree_iff_index, Nat.forall_lt_succ_left, Nat.not_lt_zero, false_imp_iff,
      implies_true, and_true, Nat.zero_add, Nat.reduceAdd]
    exact Iff.rfl
  have h₁ := a[1]!.toNat_lt
  have h₂ := a[2]!.toNat_lt
  have h₃ := a[3]!.toNat_lt
  have k₁ := b[1]!.toNat_lt
  have k₂ := b[2]!.toNat_lt
  have k₃ := b[3]!.toNat_lt
  rw [agree, value, value, ← Int32.toInt_inj, toInt_dropTop, toInt_dropTop, toNat_ofBytes32,
    toNat_ofBytes32]
  simp only [and_allOnes, ← UInt8.toNat_inj, seven]
  omega

private theorem rssiInst_eq_iff (a b : Vector UInt8 2) :
    value getRssiInst a = value getRssiInst b ↔ Agree #v[0xFF, 0x80] a b := by
  have top (x : UInt8) : (x &&& 0x80).toNat = x.toNat / 128 * 128 := by
    revert x
    exact forall_byte (by decide +kernel)
  have agree : Agree #v[0xFF, 0x80] a b ↔ a[0]! &&& (0xFF : UInt8) = b[0]! &&& 0xFF ∧
      a[1]! &&& (0x80 : UInt8) = b[1]! &&& 0x80 := by
    simp only [agree_iff_index, Nat.forall_lt_succ_left, Nat.not_lt_zero, false_imp_iff,
      implies_true, and_true, Nat.zero_add]
    exact Iff.rfl
  have h₁ := a[1]!.toNat_lt
  have k₁ := b[1]!.toNat_lt
  rw [agree, value, value, ofU16_inj, ← UInt16.toNat_inj, Lora.toNat_rssiInst,
    Lora.toNat_rssiInst]
  simp only [and_allOnes, ← UInt8.toNat_inj, top]
  omega

/-- The results of two payloads are the same exactly when all used bits are. -/
theorem result_eq_iff (read : StatusRead) (a b : read.Payload) (decodable : read.Decodable a)
    (decodable' : read.Decodable b) :
    read.value a = read.value b ∧ read.stored a = read.stored b ↔ read.AgreeUsed a b := by
  cases read with
  | getErrors | getRxFifoLevel | getTxFifoLevel =>
    refine (and_iff_left rfl).trans ((ofU16_ofBytes16_inj _ _ _ _).trans ?_)
    exact eq_two.symm.trans (agree_allBits a b).symm
  | getPacketType =>
    refine (and_iff_left rfl).trans ((ofU8_inj _ _).trans ?_)
    exact eq_one.symm.trans (agree_allBits a b).symm
  | getAndClearIrqStatus => exact (and_iff_left rfl).trans (irq_eq_iff a b)
  | getRssiInst => exact (and_iff_left rfl).trans (rssiInst_eq_iff a b)
  | getStatus =>
    refine (and_iff_right rfl).trans (eq_three.trans ?_)
    apply (and_congr (ofU8_inj _ _) (and_congr (ofU8_inj _ _) (toInt32_inj _ _))).trans
    rw [AgreeUsed, Prod.ext_iff, Prod.ext_iff]
  | getVersion =>
    refine (and_iff_right rfl).trans (eq_two.trans ?_)
    apply (and_congr (ofU8_inj _ _) (ofU8_inj _ _)).trans
    exact eq_two.symm.trans (agree_allBits a b).symm
  | getRandomNumber =>
    refine (and_iff_right rfl).trans (eq_one.trans ?_)
    apply (toInt32_ofBytes32_inj _ _ _ _ _ _ _ _).trans
    exact eq_four.symm.trans (agree_allBits a b).symm
  | loraGetPacketStatus =>
    refine (and_iff_right rfl).trans (Iff.trans ?_ (Lora.packetStatusUsed_iff a b))
    have cell (i : Fin 7) :=
      Lora.packetStatus_cell_iff a b i fun _ => ⟨decodable, decodable'⟩
    refine ⟨fun same i => (cell i).mp (by rw [same]), fun all => Vector.ext fun i inside => ?_⟩
    exact (cell ⟨i, inside⟩).mpr (all ⟨i, inside⟩)
  | loraGetRxStats =>
    refine (and_iff_right rfl).trans (eq_four.trans ?_)
    refine (and_congr (ofU16_ofBytes16_inj _ _ _ _) (and_congr (ofU16_ofBytes16_inj _ _ _ _)
      (and_congr (ofU16_ofBytes16_inj _ _ _ _) (ofU16_ofBytes16_inj _ _ _ _)))).trans ?_
    exact eq_eight.symm.trans (agree_allBits a b).symm

/-- Through the entry points: two successful reads end alike exactly when their payloads
agree on all used bits, whatever was in the cells before. -/
theorem run_eq_iff {σ : Type} (hal : Hal (StateM σ)) (read : StatusRead)
    (before before' : Vector Int32 read.cells) (s t : σ) {stat stat' : UInt8}
    {a b : read.Payload} (replied : (read.transport hal s).1 = .ok (stat, a))
    (replied' : (read.transport hal t).1 = .ok (stat', b))
    (alive : ¬(stat = 0x00 ∨ stat = 0xFF)) (alive' : ¬(stat' = 0x00 ∨ stat' = 0xFF))
    (decodable : read.Decodable a) (decodable' : read.Decodable b) :
    (read.run (some hal) (some before) s).1 = (read.run (some hal) (some before') t).1 ↔
      read.AgreeUsed a b := by
  rw [run_some, run_some, TraceLogic.map_apply, TraceLogic.map_apply, replied, replied']
  simp only [settle, alive, alive', if_false, Prod.mk.injEq, Option.some.injEq]
  exact result_eq_iff read a b decodable decodable'

end StatusRead

namespace Lora

/-- Flipping bits of one field of a packet status changes no cell but that field's. -/
theorem packetStatus_flip (buf flips : Vector UInt8 6) (i k : Fin 7) (different : i ≠ k)
    (inside : ∀ j : Fin 6, flips[j] &&& packetStatusBits[k][j] = flips[j]) :
    (StatusRead.stored .loraGetPacketStatus (flipBits buf flips))[i] =
      (StatusRead.stored .loraGetPacketStatus buf)[i] :=
  packetStatus_cell_congr _ _ i
    (agree_flipBits buf flips inside (packetStatusBits_disjoint i k different))

/-- Every counter is its own two bytes, big-endian. -/
theorem rxStats_cell (buf : Vector UInt8 8) (i : Fin 4) :
    (StatusRead.stored .loraGetRxStats buf)[i].toInt =
      buf[2 * i.val].toNat * 256 + buf[2 * i.val + 1].toNat := by
  match i with
  | 0 => exact StatusRead.toInt_ofU16_ofBytes16 buf[0]! buf[1]!
  | 1 => exact StatusRead.toInt_ofU16_ofBytes16 buf[2]! buf[3]!
  | 2 => exact StatusRead.toInt_ofU16_ofBytes16 buf[4]! buf[5]!
  | 3 => exact StatusRead.toInt_ofU16_ofBytes16 buf[6]! buf[7]!

theorem rxStats_flip (buf flips : Vector UInt8 8) (i k : Fin 4) (different : i ≠ k)
    (inside : ∀ j : Fin 8, flips[j] &&& rxStatsBits[k][j] = flips[j]) :
    (StatusRead.stored .loraGetRxStats (flipBits buf flips))[i] =
      (StatusRead.stored .loraGetRxStats buf)[i] := by
  have agree := agree_flipBits buf flips inside (rxStatsBits_disjoint i k different)
  have byte (x y : UInt8) (same : x &&& 0xFF = y &&& 0xFF) : x = y := by
    rwa [and_allOnes, and_allOnes] at same
  match i with
  | 0 =>
    exact (StatusRead.ofU16_ofBytes16_inj _ _ _ _).mpr ⟨byte _ _ (agree 0), byte _ _ (agree 1)⟩
  | 1 =>
    exact (StatusRead.ofU16_ofBytes16_inj _ _ _ _).mpr ⟨byte _ _ (agree 2), byte _ _ (agree 3)⟩
  | 2 =>
    exact (StatusRead.ofU16_ofBytes16_inj _ _ _ _).mpr ⟨byte _ _ (agree 4), byte _ _ (agree 5)⟩
  | 3 =>
    exact (StatusRead.ofU16_ofBytes16_inj _ _ _ _).mpr ⟨byte _ _ (agree 6), byte _ _ (agree 7)⟩

/-- Both RSSI cells of a packet status: nine bits, the ninth from byte 5. -/
theorem packetStatus_rssi (buf : Vector UInt8 6) :
    (StatusRead.stored .loraGetPacketStatus buf)[4]!.toInt =
        buf[3]!.toNat * 2 + buf[5]!.toNat / 2 % 2 ∧
      (StatusRead.stored .loraGetPacketStatus buf)[5]!.toInt =
        buf[4]!.toNat * 2 + buf[5]!.toNat % 2 := by
  constructor
  · apply (toInt_ofU16 _).trans
    rw [toNat_rssiPkt]
    omega
  · apply (toInt_ofU16 _).trans
    rw [toNat_rssiSignalPkt]
    omega

/-- Every value from 0 to 511 is a byte shifted up by one over a ninth bit. -/
theorem exists_nine (x : Int) (lower : 0 ≤ x) (upper : x ≤ 511) :
    ∃ high : UInt8, x = high.toNat * 2 ∨ x = high.toNat * 2 + 1 := by
  have byte : (UInt8.ofNat (x.toNat / 2)).toNat = x.toNat / 2 % 2 ^ 8 := UInt8.toNat_ofNat'
  exact ⟨UInt8.ofNat (x.toNat / 2), by omega⟩

/-- A cell of nine bits, each placed by some packet status, takes these values and no
other. -/
theorem range_of_nine {cell : Vector UInt8 6 → Int}
    (bounded : ∀ buf, 0 ≤ cell buf ∧ cell buf ≤ 511)
    (clear : ∀ high : UInt8, ∃ buf, OneHot buf ∧ cell buf = high.toNat * 2)
    (ninth : ∀ high : UInt8, ∃ buf, OneHot buf ∧ cell buf = high.toNat * 2 + 1) (x : Int) :
    (∃ buf, OneHot buf ∧ cell buf = x) ↔ 0 ≤ x ∧ x ≤ 511 := by
  constructor
  · intro taken
    obtain ⟨buf, -, same⟩ := taken
    rw [← same]
    exact bounded buf
  · intro within
    obtain ⟨high, same | same⟩ := exists_nine x within.1 within.2
    · rw [same]
      exact clear high
    · rw [same]
      exact ninth high

/-- The RSSI cells take these values and no other. -/
theorem packetStatus_rssi_range (x : Int) :
    ((∃ buf, OneHot buf ∧ (StatusRead.stored .loraGetPacketStatus buf)[4]!.toInt = x) ↔
      0 ≤ x ∧ x ≤ 511) ∧
    ((∃ buf, OneHot buf ∧ (StatusRead.stored .loraGetPacketStatus buf)[5]!.toInt = x) ↔
      0 ≤ x ∧ x ≤ 511) := by
  constructor
  · apply range_of_nine
    · intro buf
      have high := buf[3]!.toNat_lt
      rw [(packetStatus_rssi buf).1]
      omega
    · intro high
      refine ⟨#v[0, 0, 0, high, 0, 0x04], oneHot_first (by decide), ?_⟩
      apply (packetStatus_rssi _).1.trans
      change (high.toNat : Int) * 2 + 4 / 2 % 2 = high.toNat * 2
      omega
    · intro high
      refine ⟨#v[0, 0, 0, high, 0, 0x06], oneHot_first (by decide), ?_⟩
      apply (packetStatus_rssi _).1.trans
      change (high.toNat : Int) * 2 + 6 / 2 % 2 = high.toNat * 2 + 1
      omega
  · apply range_of_nine
    · intro buf
      have high := buf[4]!.toNat_lt
      rw [(packetStatus_rssi buf).2]
      omega
    · intro high
      refine ⟨#v[0, 0, 0, 0, high, 0x04], oneHot_first (by decide), ?_⟩
      apply (packetStatus_rssi _).2.trans
      change (high.toNat : Int) * 2 + 4 % 2 = high.toNat * 2
      omega
    · intro high
      refine ⟨#v[0, 0, 0, 0, high, 0x05], oneHot_first (by decide), ?_⟩
      apply (packetStatus_rssi _).2.trans
      change (high.toNat : Int) * 2 + 5 % 2 = high.toNat * 2 + 1
      omega

/-- The SNR cell is byte 2 sign-extended, so it takes every value from -128 to 127. -/
theorem packetStatus_snr (buf : Vector UInt8 6) :
    (StatusRead.stored .loraGetPacketStatus buf)[3]!.toInt =
      if buf[2]!.toNat < 128 then (buf[2]!.toNat : Int) else buf[2]!.toNat - 256 := by
  have small := buf[2]!.toNat_lt
  apply (Int8.toInt_toInt32 _).trans
  rw [toInt_snrPkt, Int.bmod_def]
  split <;> split <;> omega

theorem packetStatus_snr_range (x : Int) :
    (∃ buf, OneHot buf ∧ (StatusRead.stored .loraGetPacketStatus buf)[3]!.toInt = x) ↔
      -128 ≤ x ∧ x ≤ 127 := by
  constructor
  · rintro ⟨buf, -, rfl⟩
    have small := buf[2]!.toNat_lt
    rw [packetStatus_snr]
    split <;> omega
  · rintro ⟨lower, upper⟩
    have byte : (UInt8.ofNat (x % 256).toNat).toNat = (x % 256).toNat % 2 ^ 8 :=
      UInt8.toNat_ofNat'
    refine ⟨#v[0, 0, UInt8.ofNat (x % 256).toNat, 0, 0, 0x04], oneHot_first (by decide), ?_⟩
    rw [packetStatus_snr]
    change (if (UInt8.ofNat (x % 256).toNat).toNat < 128
      then ((UInt8.ofNat (x % 256).toNat).toNat : Int)
      else (UInt8.ofNat (x % 256).toNat).toNat - 256) = x
    split <;> omega

end Lora

namespace StatusRead

theorem halfWord_value (buf : Vector UInt8 2) :
    (value getErrors buf).toInt = buf[0]!.toNat * 256 + buf[1]!.toNat ∧
      (value getRxFifoLevel buf).toInt = buf[0]!.toNat * 256 + buf[1]!.toNat ∧
      (value getTxFifoLevel buf).toInt = buf[0]!.toNat * 256 + buf[1]!.toNat := by
  have half := toInt_ofU16_ofBytes16 buf[0]! buf[1]!
  exact ⟨half, half, half⟩

theorem randomNumber_stored (buf : Vector UInt8 4) :
    (stored getRandomNumber buf)[0]!.toUInt32.toNat =
      buf[0]!.toNat * 2 ^ 24 + buf[1]!.toNat * 2 ^ 16 + buf[2]!.toNat * 2 ^ 8 + buf[3]!.toNat :=
  toNat_ofBytes32 buf[0]! buf[1]! buf[2]! buf[3]!

theorem irq_value (buf : Vector UInt8 4) :
    (value getAndClearIrqStatus buf).toInt =
      (buf[0]!.toNat * 2 ^ 24 + buf[1]!.toNat * 2 ^ 16 + buf[2]!.toNat * 2 ^ 8 + buf[3]!.toNat) %
        2 ^ 31 := by
  rw [value, toInt_dropTop, toNat_ofBytes32]
  omega

theorem rssiInst_value (buf : Vector UInt8 2) :
    (value getRssiInst buf).toInt = buf[0]!.toNat * 2 + buf[1]!.toNat / 128 := by
  rw [value, toInt_ofU16, Lora.toNat_rssiInst]
  omega

end StatusRead

/-- How the replies are decoded, from the payload to what the entry points hand out. -/
structure RepliesDecoded : Prop where
  /-- An entry point hands out the value and the cells that the fields below are about. -/
  settles : ∀ {m : Type → Type} [Monad m] [LawfulMonad m] (hal : Hal m) (read : StatusRead)
    (before : Vector Int32 read.cells), read.run (some hal) (some before) =
      StatusRead.settle read.value read.stored before <$> read.transport hal
  /-- Successful reads end alike exactly when their payloads agree on all used bits. -/
  results : ∀ {σ : Type} (hal : Hal (StateM σ)) (read : StatusRead)
    (before before' : Vector Int32 read.cells) (s t : σ) (stat stat' : UInt8)
    (a b : read.Payload), (read.transport hal s).1 = .ok (stat, a) →
    (read.transport hal t).1 = .ok (stat', b) → ¬(stat = 0x00 ∨ stat = 0xFF) →
    ¬(stat' = 0x00 ∨ stat' = 0xFF) → read.Decodable a → read.Decodable b →
    ((read.run (some hal) (some before) s).1 = (read.run (some hal) (some before') t).1 ↔
      read.AgreeUsed a b)
  packetStatusFields : ∀ (buf flips : Vector UInt8 6) (i k : Fin 7), i ≠ k →
    (∀ j : Fin 6, flips[j] &&& Lora.packetStatusBits[k][j] = flips[j]) →
    (StatusRead.stored .loraGetPacketStatus (flipBits buf flips))[i] =
      (StatusRead.stored .loraGetPacketStatus buf)[i]
  rxStatsFields : ∀ (buf flips : Vector UInt8 8) (i k : Fin 4), i ≠ k →
    (∀ j : Fin 8, flips[j] &&& Lora.rxStatsBits[k][j] = flips[j]) →
    (StatusRead.stored .loraGetRxStats (flipBits buf flips))[i] =
      (StatusRead.stored .loraGetRxStats buf)[i]
  rxStats : ∀ (buf : Vector UInt8 8) (i : Fin 4),
    (StatusRead.stored .loraGetRxStats buf)[i].toInt =
      buf[2 * i.val].toNat * 256 + buf[2 * i.val + 1].toNat
  halfWords : ∀ buf : Vector UInt8 2,
    (StatusRead.value .getErrors buf).toInt = buf[0]!.toNat * 256 + buf[1]!.toNat ∧
      (StatusRead.value .getRxFifoLevel buf).toInt = buf[0]!.toNat * 256 + buf[1]!.toNat ∧
      (StatusRead.value .getTxFifoLevel buf).toInt = buf[0]!.toNat * 256 + buf[1]!.toNat
  randomNumber : ∀ buf : Vector UInt8 4,
    (StatusRead.stored .getRandomNumber buf)[0]!.toUInt32.toNat =
      buf[0]!.toNat * 2 ^ 24 + buf[1]!.toNat * 2 ^ 16 + buf[2]!.toNat * 2 ^ 8 + buf[3]!.toNat
  irq : ∀ buf : Vector UInt8 4,
    (StatusRead.value .getAndClearIrqStatus buf).toInt =
      (buf[0]!.toNat * 2 ^ 24 + buf[1]!.toNat * 2 ^ 16 + buf[2]!.toNat * 2 ^ 8 + buf[3]!.toNat) %
        2 ^ 31
  rssiInst : ∀ buf : Vector UInt8 2,
    (StatusRead.value .getRssiInst buf).toInt = buf[0]!.toNat * 2 + buf[1]!.toNat / 128
  rssi : ∀ buf : Vector UInt8 6,
    (StatusRead.stored .loraGetPacketStatus buf)[4]!.toInt =
        buf[3]!.toNat * 2 + buf[5]!.toNat / 2 % 2 ∧
      (StatusRead.stored .loraGetPacketStatus buf)[5]!.toInt =
        buf[4]!.toNat * 2 + buf[5]!.toNat % 2
  rssiRange : ∀ x : Int,
    ((∃ buf, Lora.OneHot buf ∧ (StatusRead.stored .loraGetPacketStatus buf)[4]!.toInt = x) ↔
      0 ≤ x ∧ x ≤ 511) ∧
    ((∃ buf, Lora.OneHot buf ∧ (StatusRead.stored .loraGetPacketStatus buf)[5]!.toInt = x) ↔
      0 ≤ x ∧ x ≤ 511)
  snr : ∀ buf : Vector UInt8 6,
    (StatusRead.stored .loraGetPacketStatus buf)[3]!.toInt =
      if buf[2]!.toNat < 128 then (buf[2]!.toNat : Int) else buf[2]!.toNat - 256
  snrRange : ∀ x : Int,
    (∃ buf, Lora.OneHot buf ∧ (StatusRead.stored .loraGetPacketStatus buf)[3]!.toInt = x) ↔
      -128 ≤ x ∧ x ≤ 127
  detector : ∀ buf : Vector UInt8 6, Lora.OneHot buf →
    (Lora.decodePacketStatus buf).detector < 4 ∧
      buf[5]! &&& 0x3C = (0x04 : UInt8) <<< (Lora.decodePacketStatus buf).detector
  detectorCell : ∀ buf : Vector UInt8 6,
    (StatusRead.stored .loraGetPacketStatus buf)[6]! = ofU8 (Lora.decodePacketStatus buf).detector

theorem replies_decoded : RepliesDecoded where
  settles hal read before := StatusRead.run_some hal read before
  results hal read before before' s t _ _ _ _ replied replied' alive alive' decodable decodable' :=
    StatusRead.run_eq_iff hal read before before' s t replied replied' alive alive' decodable
      decodable'
  packetStatusFields := Lora.packetStatus_flip
  rxStatsFields := Lora.rxStats_flip
  rxStats := Lora.rxStats_cell
  halfWords := StatusRead.halfWord_value
  randomNumber := StatusRead.randomNumber_stored
  irq := StatusRead.irq_value
  rssiInst := StatusRead.rssiInst_value
  rssi := Lora.packetStatus_rssi
  rssiRange := Lora.packetStatus_rssi_range
  snr := Lora.packetStatus_snr
  snrRange := Lora.packetStatus_snr_range
  detector := Lora.detector_oneHot
  detectorCell _ := rfl

/-- Two rigs whose packet status differs in the unused bits only fill the same cells, over
different ones. -/
theorem replies_decoded_rig :
    (StatusRead.loraGetPacketStatus.run (some Mock.hal) (some #v[0, 0, 0, 0, 0, 0, 0])
        (Mock.fresh [[0x80, 0x00], [0x11, 5, 0xF4, 0x50, 0x51, 0x06]])).1 =
      (StatusRead.loraGetPacketStatus.run (some Mock.hal) (some #v[7, 6, 5, 4, 3, 2, 1])
        (Mock.fresh [[0x90, 0x01], [0xF1, 5, 0xF4, 0x50, 0x51, 0xC6]])).1 := by
  refine (replies_decoded.results Mock.hal .loraGetPacketStatus _ _ _ _ 0x80 0x90
    #v[0x11, 5, 0xF4, 0x50, 0x51, 0x06] #v[0xF1, 5, 0xF4, 0x50, 0x51, 0xC6] rfl rfl (by decide)
    (by decide) (Lora.oneHot_first (by decide)) (Lora.oneHot_first (by decide))).mpr ?_
  change ∀ j : Fin 6, _
  decide

end Lr2021
