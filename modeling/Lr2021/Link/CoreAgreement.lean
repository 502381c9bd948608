import Lr2021.Link.Bringup
import Lr2021.AbiCommand
import Lr2021.Rig

set_option autoImplicit false

/-! The bring-up of the link test beside the functions of the core. The core has all of its
commands but the three of the FLRC modem, whose parameter word alone it packs. -/
namespace Lr2021.Link

open Procedure BigEndian TraceLogic FixedWidth

/-- A frame of the FLRC modem. -/
def ofFlrc (bytes : List UInt8) : Bool :=
  bytes.take 2 ∈ [frame cmdSetFlrcModulationParams [], frame cmdSetFlrcPacketParams [],
    frame cmdSetFlrcSyncword []]

/-- The calls of the core that bring up the rest of the chip. -/
def Settings.coreCalls (settings : Settings) (row : Int × Int) : List CoreCall :=
  [.activatePram, .setStandby standbyRc, .setPacketType packetTypeFlrc,
    .setRfFrequency (UInt32.ofInt settings.frequencyHz), .calibrate 0x7F,
    .selPa 1, .setPaConfig 1 0 6 7 (byteOf (row.1 + 0x10) 0),
    .setTxParams (Int8.ofInt row.2) paRamp48u] ++
  (Script.rfSwitch 5 dioSleepPullUp 6 dioSleepPullAuto).calls ++
  [.setDioIrqConfig 0 0xFFFFFFFF]

/-- The frames of the FLRC modem in a bring-up with these codes. -/
def Settings.flrcFrames (settings : Settings) (codes : UInt8 × UInt8) : List (List UInt8) :=
  [frame cmdSetFlrcModulationParams [codes.1, codes.2],
    frame cmdSetFlrcPacketParams [byteOf (((settings.preamble &&& 0x0F) <<< 2) ||| 2 : Nat) 0,
      0x4E, byteOf settings.payloadLen 8, byteOf settings.payloadLen 0],
    frame cmdSetFlrcSyncword [0, byteOf settings.syncWord 24, byteOf settings.syncWord 16,
      byteOf settings.syncWord 8, byteOf settings.syncWord 0]]

/-- Python's shifts of an integer are the core's shifts of a word. -/
theorem bytes32_ofInt (x : Int) :
    bytes32 (UInt32.ofInt x) = [byteOf x 24, byteOf x 16, byteOf x 8, byteOf x 0] := by
  have word : ((UInt32.ofInt x).toNat : Int) = x % 2 ^ 32 := by
    unfold UInt32.ofInt
    rw [UInt32.toNat_ofNat']
    omega
  simp only [bytes32, List.cons.injEq, and_true, ← UInt8.toNat_inj, ← Int.natCast_inj,
    toNat_byteOf, UInt32.toNat_toUInt8, UInt32.toNat_shiftRight, Nat.shiftRight_eq_div_pow]
  refine ⟨?_, ?_, ?_, ?_⟩
  · rw [show (24 : UInt32).toNat % 32 = 24 from rfl]
    omega
  · rw [show (16 : UInt32).toNat % 32 = 16 from rfl]
    omega
  · rw [show (8 : UInt32).toNat % 32 = 8 from rfl]
    omega
  · omega

theorem toUInt8_ofInt (x : Int) : (Int8.ofInt x).toUInt8 = byteOf x 0 := by
  have byte : ((Int8.ofInt x).toUInt8.toNat : Int) = x % 256 := by
    change ((BitVec.ofInt 8 x).toNat : Int) = _
    rw [BitVec.toNat_ofInt]
    omega
  rw [← UInt8.toNat_inj, ← Int.natCast_inj, byte, toNat_byteOf, Int.pow_zero, Int.ediv_one]

/-- The parameter word is the core's, taken apart again. -/
theorem byteOf_packed {python : MicroPython Int} {settings : Settings} {packed : Int}
    (exact : settings.Exact python)
    (accepted : Module.modFlrcModulationParams python settings.brBw settings.cr settings.shaping =
      .ok packed) :
    ∃ b c s : UInt8, settings.brBw = b.toNat ∧ settings.cr = c.toNat ∧
      settings.shaping = s.toNat ∧
      Flrc.modulationParams b c s = .ok (byteOf packed 8, byteOf packed 0) := by
  obtain ⟨b, c, s, rateWord, codingWord, shapeWord, codes, value⟩ :=
    modFlrcModulationParams_words exact accepted
  obtain ⟨⟨rateByte, codingByte, shapeByte⟩, rate, coding, shape⟩ :=
    (FlrcAccepted.iff_bytes b c s).mp codes
  have word := toInt_flrcModulationParams codes
  have bounds := codes.bounds
  have high := toNat_asU8_of_byte rateByte
  have middle := toNat_asU8_of_byte codingByte
  have bottom := toNat_asU8_of_byte shapeByte
  have low := toNat_codeByte coding (show (asU8 s).toNat < 16 by omega)
  rw [value] at word
  refine ⟨asU8 b, asU8 c, asU8 s, rateWord.symm.trans high.symm,
    codingWord.symm.trans middle.symm, shapeWord.symm.trans bottom.symm, ?_⟩
  rw [Flrc.modulationParams_ok rate coding shape, Except.ok.injEq, Prod.mk.injEq,
    ← UInt8.toNat_inj, ← UInt8.toNat_inj, low, ← Int.natCast_inj, ← Int.natCast_inj,
    toNat_byteOf, toNat_byteOf]
  omega

/-- A stretch of a list, by a test that only it passes. -/
theorem filter_between {α : Type} {inside : α → Bool} {before between after : List α}
    (outside : ∀ x ∈ before ++ after, inside x = false) (within : ∀ x ∈ between, inside x = true) :
    (before ++ (between ++ after)).filter inside = between ∧
      (before ++ (between ++ after)).filter (fun x => !inside x) = before ++ after := by
  rw [List.forall_mem_append] at outside
  have none {part : List α} (out : ∀ x ∈ part, inside x = false) :
      part.filter inside = [] ∧ part.filter (fun x => !inside x) = part :=
    ⟨List.filter_eq_nil_iff.mpr fun x member => by rw [out x member]; decide,
      List.filter_eq_self.mpr fun x member => by rw [out x member]; decide⟩
  have gone : between.filter (fun x => !inside x) = [] :=
    List.filter_eq_nil_iff.mpr fun x member => by rw [within x member]; decide
  simp only [List.filter_append]
  rw [(none outside.1).1, (none outside.1).2, (none outside.2).1, (none outside.2).2, gone,
    List.filter_eq_self.mpr within]
  exact ⟨List.append_nil _, rfl⟩

/-- The three frames are together, between commands that the core has calls for. -/
theorem Settings.frames_split (settings : Settings) (packed : Int) (row : Int × Int) :
    (firstCommands ++ settings.lastCommands packed row).map Issued.frame =
      firstCommands.map Issued.frame ++ (settings.flrcFrames (byteOf packed 8, byteOf packed 0) ++
        ((settings.lastCommands packed row).drop 3).map Issued.frame) := rfl

/-- What of a bring-up is not the FLRC modem's is the core's, call by call. -/
theorem Settings.coreFrames_eq (settings : Settings) (packed : Int) (row : Int × Int) :
    firstCommands.map Issued.frame ++
        ((settings.lastCommands packed row).drop 3).map Issued.frame =
      (settings.coreCalls row).map fun c => c.wire.bytes := by
  have tuned : (CoreCall.setRfFrequency (UInt32.ofInt settings.frequencyHz)).wire.bytes =
      frame cmdSetRfFrequency [byteOf settings.frequencyHz 24, byteOf settings.frequencyHz 16,
        byteOf settings.frequencyHz 8, byteOf settings.frequencyHz 0] :=
    congrArg (frame _) (bytes32_ofInt settings.frequencyHz)
  have level : (CoreCall.setTxParams (Int8.ofInt row.2) paRamp48u).wire.bytes =
      frame cmdSetTxParams [byteOf row.2 0, paRamp48u] :=
    congrArg (fun power => frame _ [power, _]) (toUInt8_ofInt row.2)
  simp only [Settings.coreCalls, Script.rfSwitch, List.cons_append, List.nil_append, List.map_cons,
    List.map_nil, tuned, level]
  rfl

theorem Settings.frames_ofFlrc (settings : Settings) (packed : Int) (row : Int × Int) :
    (∀ bytes ∈ firstCommands.map Issued.frame ++
        ((settings.lastCommands packed row).drop 3).map Issued.frame, ofFlrc bytes = false) ∧
      ∀ codes, ∀ bytes ∈ settings.flrcFrames codes, ofFlrc bytes = true := by
  simp only [firstCommands, lastCommands, flrcFrames, List.drop_succ_cons, List.drop_zero,
    List.map_cons, List.map_nil, List.cons_append, List.nil_append, List.forall_mem_cons,
    Issued.frame]
  exact ⟨⟨rfl, rfl, rfl, rfl, rfl, rfl, rfl, rfl, rfl, rfl, rfl, rfl, rfl, List.forall_mem_nil _⟩,
    fun _ => ⟨rfl, rfl, rfl, List.forall_mem_nil _⟩⟩

/-- The core takes all of these calls. -/
theorem Settings.coreCalls_admitted (settings : Settings) (row : Int × Int) :
    Admitted (settings.coreCalls row) := by
  simp only [Admitted, coreCalls, Script.rfSwitch, List.cons_append, List.nil_append,
    List.forall_mem_cons]
  exact ⟨rfl, rfl, rfl, rfl, rfl, rfl, rfl, rfl, rfl, rfl, rfl, rfl, rfl, List.forall_mem_nil _⟩

theorem Settings.coreCalls_write (settings : Settings) (row : Int × Int) :
    ∀ c ∈ settings.coreCalls row, c.isWrite = true := by
  simp only [coreCalls, Script.rfSwitch, List.cons_append, List.nil_append,
    List.forall_mem_cons]
  exact ⟨rfl, rfl, rfl, rfl, rfl, rfl, rfl, rfl, rfl, rfl, rfl, rfl, rfl, List.forall_mem_nil _⟩

/-- Two drivers, one bring-up. What the Python driver has put on its bus when its bring-up
returns is, apart from the FLRC modem's three frames, byte for byte what the core puts on any
transport on which nothing fails, in the same order; and of the three the first holds the
parameters that the core packs for the codes, which are machine words, or integers that
MicroPython does not take for other words. -/
theorem begin_matches_core {ε σ τ : Type} {board : Board ε σ} {modem : σ → Modem} {fuel : Nat}
    {n n' : Node σ} {hal : Hal (StateM τ)} {trace : τ → List Ev} {settings : Settings}
    (wired : Wired board modem) (exact : settings.Exact board.python)
    (obs : Observes hal trace) (never : NeverFails hal)
    (idle : Idle modem n) (returned : Returns (begin board fuel settings) n () n') (s : τ) :
    ∃ (row : Int × Int) (brBw cr shaping : UInt8) (codes : UInt8 × UInt8)
      (frames : List (List UInt8)),
      paHfRow settings.powerDbm = some row ∧ settings.brBw = brBw.toNat ∧
      settings.cr = cr.toNat ∧ settings.shaping = shaping.toNat ∧
      Flrc.modulationParams brBw cr shaping = .ok codes ∧
      obeyedAt modem n' = obeyedAt modem n ++ frames ∧
      frames.filter (fun bytes => !ofFlrc bytes) =
        commands (emitted trace (perform hal (settings.coreCalls row)).run s) ∧
      frames.filter ofFlrc = settings.flrcFrames codes := by
  obtain ⟨inside, accepted, -, -, obeyed, -⟩ := begin_configures wired idle returned
  obtain ⟨i, power⟩ := (powerInRange_iff _).mp inside
  have row : paHfRow settings.powerDbm = some paHf[i] := by
    rw [power]
    exact paHfRow_eq i
  cases modulation : Module.modFlrcModulationParams board.python settings.brBw settings.cr
      settings.shaping with
  | error e => rw [modulation] at accepted; cases accepted
  | ok packed =>
    obtain ⟨b, c, shape, rate, coding, shaping, codes⟩ := byteOf_packed exact modulation
    have plan : settings.plan board.python =
        firstCommands ++ settings.lastCommands packed paHf[i] := by
      rw [Settings.plan, row, modulation]
    rw [plan, settings.frames_split] at obeyed
    obtain ⟨outside, within⟩ := settings.frames_ofFlrc packed paHf[i]
    obtain ⟨flrc, rest⟩ := filter_between outside (within _)
    have done := perform_ok never _ (settings.coreCalls_admitted paHf[i])
      (settings.coreCalls_write paHf[i]) s
    refine ⟨_, b, c, shape, _, _, row, rate, coding, shaping, codes, obeyed, ?_, ?_⟩
    · rw [rest, settings.coreFrames_eq, commands_of_perform_ok obs _ s done]
    · exact flrc

/-- The fastest rate of the link test, beside the core on the rig. -/
theorem begin_matches_core_fastest :
    ∃ (row : Int × Int) (frames : List (List UInt8)),
      frames.filter (fun bytes => !ofFlrc bytes) = commands (emitted Mock.log
        (perform Mock.hal ((Desk.settings 0).coreCalls row)).run (Mock.fresh [])) := by
  have returned : Returns (begin Desk.board 1 (Desk.settings 0)) (Desk.node []) () _ :=
    returns_run (by decide +kernel)
  obtain ⟨row, -, -, -, -, frames, -, -, -, -, -, -, same, -⟩ := begin_matches_core
    (n := Desk.node []) Desk.wired (Desk.settings_exact 0) Mock.observes Mock.neverFails rfl
    returned (Mock.fresh [])
  exact ⟨row, frames, same⟩

end Lr2021.Link
