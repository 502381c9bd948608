import Lr2021.Script
import Lr2021.Rig
import Lr2021.Lib.FixedWidth

set_option autoImplicit false

/-! Reading a command frame back: what of a call's arguments its bytes determine. -/
namespace Lr2021.CoreCall

open Cmd BigEndian FixedWidth TraceLogic

/-- A call with every argument reduced to the width of its field on the wire. -/
def masked : CoreCall → CoreCall
  | setSleep config wakeupTicks => setSleep config (wakeupTicks % 0x1000000)
  | setRxPath path boost => setRxPath (path % 2) (boost % 8)
  | setPaConfig pa lfMode lfDutyCycle lfSlices hfDutyCycle =>
      setPaConfig (pa % 2) (lfMode % 4) (lfDutyCycle % 16) (lfSlices % 16) (hfDutyCycle % 32)
  | setModulationParams sf bw cr ldro highBand =>
      setModulationParams sf bw cr (ldro % 16) highBand
  | setPacketParams preambleLen headerType payloadLen crc invertIq =>
      setPacketParams preambleLen (headerType % 2) payloadLen (crc % 2) (invertIq % 2)
  | setCadParams symNum preambleOnly pnrDelta exitMode timeout detPeak =>
      setCadParams symNum preambleOnly (pnrDelta % 16) exitMode timeout (detPeak % 128)
  | c => c

/-- What is left of a masked call once the arguments that are never sent are dropped:
the band a modulation is checked against, and the buffer a FIFO read fills. -/
def transmitted (c : CoreCall) : CoreCall :=
  match c.masked with
  | setModulationParams sf bw cr ldro _ => setModulationParams sf bw cr ldro false
  | readRxFifo _ => readRxFifo []
  | reduced => reduced

/-- The fields of a SetLoRaPacketParams flags byte, written by two shifts. -/
private theorem packetFlags (headerType crc invertIq : UInt8) :
    let flags := ((headerType &&& 0x01) <<< 2) ||| ((crc &&& 0x01) <<< 1) ||| (invertIq &&& 0x01)
    flags >>> 2 = headerType % 2 ∧ (flags >>> 1) &&& 0x01 = crc % 2 ∧
      flags &&& 0x01 = invertIq % 2 := by
  have bit (x : UInt8) : x &&& 0x01 = x % 2 := and_lowMask x 1 (by decide)
  have cases (x : UInt8) : x % 2 = 0 ∨ x % 2 = 1 := by
    rcases Nat.mod_two_eq_zero_or_one x.toNat with even | odd
    · exact Or.inl (UInt8.toNat_inj.mp even)
    · exact Or.inr (UInt8.toNat_inj.mp odd)
  simp only [bit]
  rcases cases headerType with h | h <;> rcases cases crc with c | c <;>
    rcases cases invertIq with i | i <;> rw [h, c, i] <;> decide

/-- A low nibble fits under a field shifted by four, and any byte masked to it is one. -/
private theorem nibble_eq (x : UInt8) : x &&& 0x0F = x % 16 ∧ (x % 16).toNat < 2 ^ 4 :=
  ⟨and_lowMask x 4 (by decide), Nat.mod_lt _ (by decide)⟩

/-- Two nibbles packed into a byte, each by its own mask. -/
theorem nibblePair (high low : UInt8) :
    let byte := ((high &&& 0x0F) <<< 4) ||| (low &&& 0x0F)
    byte >>> 4 = high % 16 ∧ byte &&& 0x0F = low % 16 := by
  obtain ⟨highMask, highFits⟩ := nibble_eq high
  obtain ⟨lowMask, lowFits⟩ := nibble_eq low
  have upper : ((high % 16) <<< 4 ||| (low % 16)) >>> 4 = high % 16 % 16 :=
    pack_shiftRight _ _ 4 (by decide) (by decide) lowFits
  have lower : ((high % 16) <<< 4 ||| (low % 16)) &&& 0x0F = low % 16 :=
    pack_lowMask _ _ 4 4 (by decide) (Nat.le_refl 4) lowFits
  simp only [highMask, lowMask]
  refine ⟨?_, lower⟩
  rw [upper]
  exact UInt8.toNat_inj.mp (Nat.mod_mod _ _)

theorem mod_eq_self {x : UInt8} (small : x.toNat < 16) : x % 16 = x :=
  UInt8.toNat_inj.mp (Nat.mod_eq_of_lt small)

/-- The call that a frame stands for, up to what a frame does not carry. -/
def decode (opcode : UInt16) (params : List UInt8) : Option CoreCall :=
  if opcode = cmdGetVersion then some getVersion
  else if opcode = cmdGetRandomNumber then some getRandomNumber
  else if opcode = cmdGetErrors then some getErrors
  else if opcode = cmdClearErrors then some clearErrors
  else if opcode = cmdSetStandby then
    match params with
    | [mode] => some (setStandby mode)
    | _ => none
  else if opcode = cmdSetFs then some setFs
  else if opcode = cmdSetSleep then
    match params with
    | [config, t₂, t₁, t₀] => some (setSleep config (ofBytes32 0 t₂ t₁ t₀))
    | _ => none
  else if opcode = cmdActivatePram then some activatePram
  else if opcode = cmdCalibrate then
    match params with
    | [blocks] => some (calibrate blocks)
    | _ => none
  else if opcode = cmdSetDioFunction then
    match params with
    | [dio, function] => some (setDioFunction dio function)
    | _ => none
  else if opcode = cmdSetDioRfSwitchConfig then
    match params with
    | [dio, modes] => some (setDioRfSwitchConfig dio modes)
    | _ => none
  else if opcode = cmdSetRfFrequency then
    match params with
    | [h₃, h₂, h₁, h₀] => some (setRfFrequency (ofBytes32 h₃ h₂ h₁ h₀))
    | _ => none
  else if opcode = cmdSetPacketType then
    match params with
    | [packetType] => some (setPacketType packetType)
    | _ => none
  else if opcode = cmdGetPacketType then some getPacketType
  else if opcode = cmdSetRxPath then
    match params with
    | [path, boost] => some (setRxPath path boost)
    | _ => none
  else if opcode = cmdSelPa then
    match params with
    | [pa] => some (selPa pa)
    | _ => none
  else if opcode = cmdSetPaConfig then
    match params with
    | [mode, lf, hf] =>
        some (setPaConfig (mode >>> 7) (mode &&& 0x03) (lf >>> 4) (lf &&& 0x0F) hf)
    | _ => none
  else if opcode = cmdSetTxParams then
    match params with
    | [power, ramp] => some (setTxParams power.toInt8 ramp)
    | _ => none
  else if opcode = cmdSetRx then
    match params with
    | [t₂, t₁, t₀] => some (setRx (ofBytes32 0 t₂ t₁ t₀))
    | _ => none
  else if opcode = cmdSetTx then
    match params with
    | [t₂, t₁, t₀] => some (setTx (ofBytes32 0 t₂ t₁ t₀))
    | _ => none
  else if opcode = cmdSetDioIrqConfig then
    match params with
    | [dio, i₃, i₂, i₁, i₀] => some (setDioIrqConfig dio (ofBytes32 i₃ i₂ i₁ i₀))
    | _ => none
  else if opcode = cmdGetAndClearIrqStatus then some getAndClearIrqStatus
  else if opcode = cmdClearIrq then
    match params with
    | [i₃, i₂, i₁, i₀] => some (clearIrq (ofBytes32 i₃ i₂ i₁ i₀))
    | _ => none
  else if opcode = cmdWriteTxFifo then some (writeTxFifo params)
  else if opcode = cmdReadRxFifo then some (readRxFifo [])
  else if opcode = cmdGetRxFifoLevel then some getRxFifoLevel
  else if opcode = cmdGetTxFifoLevel then some getTxFifoLevel
  else if opcode = cmdClearRxFifo then some clearRxFifo
  else if opcode = cmdClearTxFifo then some clearTxFifo
  else if opcode = cmdGetRssiInst then some getRssiInst
  else if opcode = cmdResetRxStats then some resetRxStats
  else if opcode = cmdSetLoraModulationParams then
    match params with
    | [rate, coding] =>
        some (setModulationParams (rate >>> 4) (rate &&& 0x0F) (coding >>> 4) (coding &&& 0x0F)
          false)
    | _ => none
  else if opcode = cmdSetLoraPacketParams then
    match params with
    | [p₁, p₀, payloadLen, flags] =>
        some (setPacketParams (ofBytes16 p₁ p₀) (flags >>> 2) payloadLen
          ((flags >>> 1) &&& 0x01) (flags &&& 0x01))
    | _ => none
  else if opcode = cmdSetLoraSyncword then
    match params with
    | [syncWord] => some (setSyncWord syncWord)
    | _ => none
  else if opcode = cmdSetLoraSynchTimeout then
    match params with
    | [symbols, mantissaExponent] => some (setSynchTimeout symbols (mantissaExponent != 0))
    | _ => none
  else if opcode = cmdGetLoraPacketStatus then some getPacketStatus
  else if opcode = cmdGetLoraRxStats then some getRxStats
  else if opcode = cmdSetLoraCadParams then
    match params with
    | [symNum, flags, exitMode, t₂, t₁, t₀, detPeak] =>
        some (setCadParams symNum ((flags >>> 4) != 0) (flags &&& 0x0F) exitMode
          (ofBytes32 0 t₂ t₁ t₀) detPeak)
    | _ => none
  else if opcode = cmdSetLoraCad then some setCad
  else none

theorem toNat_lt_of_loraBwHz (bw : UInt8) (known : (loraBwHz bw).isSome = true) :
    bw.toNat < 16 := by
  unfold loraBwHz at known
  split at known
  all_goals first | decide | cases known

/-- The rate fields of an admitted modulation fit their nibbles. -/
theorem modulation_fits {sf bw cr ldro : UInt8} {highBand : Bool}
    (admitted : (setModulationParams sf bw cr ldro highBand).refused = false) :
    sf.toNat < 16 ∧ bw.toNat < 16 ∧ cr.toNat < 16 := by
  have valid : (Lora.validate sf bw cr highBand).isOk = true := by
    simpa only [refused, decide_eq_false_iff_not, Bool.not_eq_false] using admitted
  obtain ⟨factor, width, _, _, rate⟩ := (Lora.validate_isOk_iff sf bw cr highBand).mp valid
  have factorBound : sf.toNat ≤ 12 := UInt8.le_iff_toNat_le.mp factor.2
  have rateBound : cr.toNat ≤ 9 := UInt8.le_iff_toNat_le.mp rate
  exact ⟨by omega, toNat_lt_of_loraBwHz bw width, by omega⟩

/-- A timeout that is let through is its own low 24 bits. -/
theorem timeout_fits {timeout : UInt32} (admitted : ¬timeout > timeoutMax) :
    timeout % 0x1000000 = timeout := by
  have bound : timeout.toNat ≤ 0xFFFFFF :=
    UInt32.le_iff_toNat_le.mp (UInt32.not_lt.mp admitted)
  apply UInt32.toNat_inj.mp
  exact Nat.mod_eq_of_lt (Nat.lt_succ_of_le bound)

/-- Reading a frame back gives the transmitted part of the call that was let through. -/
theorem decode_wire (c : CoreCall) (admitted : c.refused = false) :
    decode c.wire.opcode c.wire.params = some c.transmitted := by
  cases c with
  | setSleep config wakeupTicks =>
    change some (setSleep config _) = some (setSleep config _)
    rw [ofBytes32_shifts24]
  | setRfFrequency hz =>
    change some (setRfFrequency _) = some (setRfFrequency _)
    rw [ofBytes32_shifts]
  | setRxPath path boost =>
    change some (setRxPath _ _) = some (setRxPath _ _)
    rw [show path &&& 0x01 = path % 2 from and_lowMask path 1 (by decide),
      show boost &&& 0x07 = boost % 8 from and_lowMask boost 3 (by decide)]
  | setPaConfig pa lfMode lfDutyCycle lfSlices hfDutyCycle =>
    obtain ⟨duty, slices⟩ := nibblePair lfDutyCycle lfSlices
    have maskMode : lfMode &&& 0x03 = lfMode % 4 := and_lowMask lfMode 2 (by decide)
    have maskHf : hfDutyCycle &&& 0x1F = hfDutyCycle % 32 := and_lowMask hfDutyCycle 5 (by decide)
    have modeFits : (lfMode % 4).toNat < 2 ^ 2 := Nat.mod_lt _ (by decide)
    have band : (pa <<< 7 ||| lfMode % 4) >>> 7 = pa % 2 :=
      pack_shiftRight _ _ 7 (by decide) (by decide) (Nat.lt_trans modeFits (by decide))
    have mode : (pa <<< 7 ||| lfMode % 4) &&& 0x03 = lfMode % 4 :=
      pack_lowMask _ _ 7 2 (by decide) (by decide) modeFits
    change some (setPaConfig _ _ _ _ _) = some (setPaConfig _ _ _ _ _)
    rw [maskMode, maskHf, band, mode, duty, slices]
  | setRx timeout =>
    have fits := timeout_fits (of_decide_eq_false admitted)
    change some (setRx _) = some (setRx _)
    rw [ofBytes32_shifts24, fits]
  | setTx timeout =>
    have fits := timeout_fits (of_decide_eq_false admitted)
    change some (setTx _) = some (setTx _)
    rw [ofBytes32_shifts24, fits]
  | setDioIrqConfig dio irq =>
    change some (setDioIrqConfig dio _) = some (setDioIrqConfig dio _)
    rw [ofBytes32_shifts]
  | clearIrq irq =>
    change some (clearIrq _) = some (clearIrq _)
    rw [ofBytes32_shifts]
  | setModulationParams sf bw cr ldro highBand =>
    obtain ⟨sfFits, bwFits, crFits⟩ := modulation_fits admitted
    obtain ⟨factor, width⟩ := nibblePair sf bw
    obtain ⟨rate, optimize⟩ := nibblePair cr ldro
    change some (setModulationParams _ _ _ _ false) = some (setModulationParams _ _ _ _ false)
    rw [factor, width, rate, optimize, mod_eq_self sfFits, mod_eq_self bwFits,
      mod_eq_self crFits]
  | setPacketParams preambleLen headerType payloadLen crc invertIq =>
    obtain ⟨header, check, invert⟩ := packetFlags headerType crc invertIq
    change some (setPacketParams _ _ _ _ _) = some (setPacketParams _ _ _ _ _)
    rw [ofBytes16_shifts, header, check, invert]
  | setSynchTimeout symbols mantissaExponent =>
    cases mantissaExponent <;> rfl
  | setCadParams symNum preambleOnly pnrDelta exitMode timeout detPeak =>
    have fits := timeout_fits (of_decide_eq_false admitted)
    obtain ⟨deltaMask, deltaFits⟩ := nibble_eq pnrDelta
    have maskPeak : detPeak &&& 0x7F = detPeak % 128 := and_lowMask detPeak 7 (by decide)
    have flag : (preambleOnly.toUInt8 <<< 4 ||| pnrDelta % 16) >>> 4 = preambleOnly.toUInt8 % 16 :=
      pack_shiftRight _ _ 4 (by decide) (by decide) deltaFits
    have delta : (preambleOnly.toUInt8 <<< 4 ||| pnrDelta % 16) &&& 0x0F = pnrDelta % 16 :=
      pack_lowMask _ _ 4 4 (by decide) (Nat.le_refl 4) deltaFits
    have flagBit : ((preambleOnly.toUInt8 % 16) != 0) = preambleOnly := by
      cases preambleOnly <;> rfl
    change some (setCadParams _ _ _ _ _ _) = some (setCadParams _ _ _ _ _ _)
    rw [ofBytes32_shifts24, fits, deltaMask, maskPeak, flag, delta, flagBit]
  | _ => rfl

/-- What is not transmitted makes no difference to the frame. -/
theorem wire_transmitted (c : CoreCall) : c.transmitted.wire = c.wire := by
  have bit (x : UInt8) : (x % 2) &&& 0x01 = x &&& 0x01 := mod_and_lowMask x 1 (by decide)
  have nibble (x : UInt8) : (x % 16) &&& 0x0F = x &&& 0x0F := mod_and_lowMask x 4 (by decide)
  cases c with
  | setSleep config wakeupTicks =>
    have same : bytes24 (wakeupTicks % 0x1000000) = bytes24 wakeupTicks :=
      (bytes24_injective _ _).mpr (Nat.mod_mod _ _)
    simp only [transmitted, masked, wire, same]
  | setRxPath path boost =>
    have same : (boost % 8) &&& 0x07 = boost &&& 0x07 := mod_and_lowMask boost 3 (by decide)
    simp only [transmitted, masked, wire, bit, same]
  | setPaConfig pa lfMode lfDutyCycle lfSlices hfDutyCycle =>
    have band : (pa % 2) <<< 7 = pa <<< 7 := mod_shiftLeft pa 7 (by decide) (by decide)
    have mode : (lfMode % 4) &&& 0x03 = lfMode &&& 0x03 := mod_and_lowMask lfMode 2 (by decide)
    have high : (hfDutyCycle % 32) &&& 0x1F = hfDutyCycle &&& 0x1F :=
      mod_and_lowMask hfDutyCycle 5 (by decide)
    simp only [transmitted, masked, wire, band, mode, nibble, high]
  | setModulationParams sf bw cr ldro highBand =>
    simp only [transmitted, masked, wire, Lora.modulationParams, nibble]
  | setPacketParams preambleLen headerType payloadLen crc invertIq =>
    simp only [transmitted, masked, wire, Lora.packetParams, bit]
  | setCadParams symNum preambleOnly pnrDelta exitMode timeout detPeak =>
    have same : (detPeak % 128) &&& 0x7F = detPeak &&& 0x7F :=
      mod_and_lowMask detPeak 7 (by decide)
    simp only [transmitted, masked, wire, nibble, same]
  | _ => rfl

theorem frame_injective {opcode opcode' : UInt16} {params params' : List UInt8}
    (same : frame opcode params = frame opcode' params') :
    opcode = opcode' ∧ params = params' := by
  simp only [frame, List.cons.injEq] at same
  obtain ⟨high, low, rest⟩ := same
  refine ⟨(bytes16_injective opcode opcode').mp ?_, rest⟩
  rw [bytes16, bytes16, high, low]

/-- Two calls that are let through have one frame exactly when they agree on all that
is transmitted. -/
theorem bytes_eq_iff (a b : CoreCall) (admitted : a.refused = false)
    (admitted' : b.refused = false) :
    a.wire.bytes = b.wire.bytes ↔ a.transmitted = b.transmitted := by
  constructor
  · intro same
    obtain ⟨opcode, params⟩ := frame_injective same
    have decoded := decode_wire b admitted'
    rw [← opcode, ← params, decode_wire a admitted] at decoded
    exact Option.some.inj decoded
  · intro same
    rw [← wire_transmitted a, ← wire_transmitted b, same]

/-- The same for series of calls, frame by frame. -/
theorem frames_eq_iff (calls calls' : List CoreCall) (admitted : Admitted calls)
    (admitted' : Admitted calls') :
    (calls.map fun c => c.wire.bytes) = (calls'.map fun c => c.wire.bytes) ↔
      calls.map transmitted = calls'.map transmitted := by
  induction calls generalizing calls' with
  | nil => cases calls' <;> simp
  | cons a rest ih =>
    rw [Admitted, List.forall_mem_cons] at admitted
    cases calls' with
    | nil => simp
    | cons b rest' =>
      rw [Admitted, List.forall_mem_cons] at admitted'
      simp only [List.map_cons, List.cons.injEq]
      rw [bytes_eq_iff a b admitted.1 admitted'.1, ih rest' admitted.2 admitted'.2]

section Bus

variable {σ : Type} {hal : Hal (StateM σ)} {trace : σ → List Ev}

theorem written_of_ok (obs : Observes hal trace) (c : CoreCall) (s : σ)
    (returned : (c.run hal s).1 = .ok ()) :
    written (emitted trace (c.run hal) s) = c.wire.bytes := by
  have sent := ((run_emits obs c (admitted_of_ok c s returned)).emitted s).2
  rw [returned] at sent
  exact (sent.whole rfl).1

end Bus

/-- The bytes of a successful call determine the call and every argument of it up to the
width of its field, save the arguments that are never sent, and nothing else makes them
differ; and the frames of a run determine its sequence of calls in the same sense. -/
theorem bus_determines_calls {σ : Type} {hal : Hal (StateM σ)} {trace : σ → List Ev}
    (obs : Observes hal trace) :
    (∀ (a b : CoreCall) (s t : σ), (a.run hal s).1 = .ok () → (b.run hal t).1 = .ok () →
      (written (emitted trace (a.run hal) s) = written (emitted trace (b.run hal) t) ↔
        a.transmitted = b.transmitted)) ∧
    (∀ (calls calls' : List CoreCall) (s t : σ),
      ((perform hal calls).run s).1 = .ok () → ((perform hal calls').run t).1 = .ok () →
      (commands (emitted trace (perform hal calls).run s) =
          commands (emitted trace (perform hal calls').run t) ↔
        calls.map transmitted = calls'.map transmitted)) := by
  constructor
  · intro a b s t returned returned'
    rw [written_of_ok obs a s returned, written_of_ok obs b t returned',
      bytes_eq_iff a b (admitted_of_ok a s returned) (admitted_of_ok b t returned')]
  · intro calls calls' s t returned returned'
    rw [commands_of_perform_ok obs calls s returned,
      commands_of_perform_ok obs calls' t returned',
      frames_eq_iff calls calls' (admitted_of_perform_ok calls s returned)
        (admitted_of_perform_ok calls' t returned')]

/-- On the rig, the two series below share one stream because the ticks agree modulo
2^24 and the band is not sent. -/
theorem bus_determines_calls_rig :
    commands (emitted Mock.log
        (perform Mock.hal [setSleep 1 0x1000002, setModulationParams 9 4 1 0 false]).run
        (Mock.fresh [])) =
      commands (emitted Mock.log
        (perform Mock.hal [setSleep 1 2, setModulationParams 9 4 1 0 true]).run
        (Mock.fresh [])) :=
  ((bus_determines_calls Mock.observes).2 _ _ _ _ rfl rfl).mpr rfl

/-- The band that a modulation was checked against does not show on the bus: with every
argument compared up to the width of its field, and this one exactly, two successful
calls differ and send the same bytes. -/
theorem band_not_on_bus :
    ¬ ∀ (a b : CoreCall), (a.run Mock.hal (Mock.fresh [])).1 = .ok () →
      (b.run Mock.hal (Mock.fresh [])).1 = .ok () →
      (written (emitted Mock.log (a.run Mock.hal) (Mock.fresh [])) =
          written (emitted Mock.log (b.run Mock.hal) (Mock.fresh [])) ↔ a.masked = b.masked) := by
  intro claimed
  have same := (claimed (setModulationParams 9 4 1 0 false) (setModulationParams 9 4 1 0 true)
    rfl rfl).mp rfl
  exact absurd same (by decide)

end Lr2021.CoreCall
