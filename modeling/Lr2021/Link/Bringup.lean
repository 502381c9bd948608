import Lr2021.Link.Bench
import Lr2021.Link.Transport
import Lr2021.FlrcPacking
import Lr2021.Lib.Assignments

set_option autoImplicit false

/-! Bring-up: the commands of `begin`, and the settings they leave. -/
namespace Lr2021.Link

open Procedure Assignments

variable {ε σ : Type} {board : Board ε σ} {modem : σ → Modem} {fuel : Nat} {n n' : Node σ}

/-- A command as the driver issues it: opcode and parameters. -/
abbrev Issued := UInt16 × List UInt8

def Issued.frame (c : Issued) : List UInt8 := Lr2021.frame c.1 c.2

/-- The setting that a command replaces, and what it puts there. -/
def Issued.assignment (c : Issued) : (UInt16 × UInt8) × List UInt8 :=
  ((c.1, Radio.pinOf c.1 c.2), c.2)

/-- The commands up to the point where the modulation is looked up. -/
def firstCommands : List Issued :=
  [(cmdActivatePram, [0x00]), (cmdSetStandby, [standbyRc]), (cmdSetPacketType, [packetTypeFlrc])]

/-- The commands from there on. -/
def Settings.lastCommands (settings : Settings) (packed : Int) (row : Int × Int) : List Issued :=
  [(cmdSetFlrcModulationParams, [byteOf packed 8, byteOf packed 0]),
    (cmdSetFlrcPacketParams, [byteOf (((settings.preamble &&& 0x0F) <<< 2) ||| 2 : Nat) 0, 0x4E,
      byteOf settings.payloadLen 8, byteOf settings.payloadLen 0]),
    (cmdSetFlrcSyncword, [0, byteOf settings.syncWord 24, byteOf settings.syncWord 16,
      byteOf settings.syncWord 8, byteOf settings.syncWord 0]),
    (cmdSetRfFrequency, [byteOf settings.frequencyHz 24, byteOf settings.frequencyHz 16,
      byteOf settings.frequencyHz 8, byteOf settings.frequencyHz 0]),
    (cmdCalibrate, [0x7F]),
    (cmdSelPa, [0x01]),
    (cmdSetPaConfig, [0x80, 0x67, byteOf (row.1 + 0x10) 0 &&& 0x1F]),
    (cmdSetTxParams, [byteOf row.2 0, paRamp48u]),
    (cmdSetDioFunction, [5, dioFunctionRfSwitch ||| dioSleepPullUp]),
    (cmdSetDioRfSwitchConfig, [5, rfSwTx]),
    (cmdSetDioFunction, [6, dioFunctionRfSwitch ||| dioSleepPullAuto]),
    (cmdSetDioRfSwitchConfig, [6, rfSwRx]),
    (cmdSetDioIrqConfig, [0x00, 0xFF, 0xFF, 0xFF, 0xFF])]

/-- The commands one after the other. -/
def sendAll (board : Board ε σ) (fuel : Nat) (commands : List Issued) : Py ε σ Unit :=
  commands.forM fun c => cmd board fuel c.1 c.2

/-- Bring-up is two lists of commands, with one lookup between them. -/
theorem begin_eq (board : Board ε σ) (fuel : Nat) (settings : Settings) {row : Int × Int}
    (found : paHfRow settings.powerDbm = some row)
    (inside : minPowerDbm ≤ settings.powerDbm ∧ settings.powerDbm ≤ maxPowerDbm) :
    begin board fuel settings = (do
      reset board fuel
      sendAll board fuel firstCommands
      match Module.modFlrcModulationParams board.python settings.brBw settings.cr
          settings.shaping with
      | .error e => raise (.native e)
      | .ok packed => do
        sendAll board fuel (settings.lastCommands packed row)
        act fun node => ((), { node with payloadLen := settings.payloadLen })) := by
  unfold begin
  rw [if_neg (not_not_intro inside)]
  cases Module.modFlrcModulationParams board.python settings.brBw settings.cr settings.shaping with
  | error e =>
    simp only [sendAll, firstCommands, List.forM_eq_forM, List.forM_cons, List.forM_nil,
      bind_assoc, pure_bind]
  | ok packed =>
    simp only [sendAll, firstCommands, Settings.lastCommands, setPacketParams, setPower, found,
      setRfSwitch, List.forM_eq_forM, List.forM_cons, List.forM_nil, bind_assoc, pure_bind]
    rfl

/-- A command that only sets something. -/
def Issued.Sets (c : Issued) : Prop := ∀ r : Radio, r.execute c.1 c.2 = (none, r.set c.1 c.2)

theorem firstCommands_set : ∀ c ∈ firstCommands, c.Sets := by
  simp only [firstCommands, List.forall_mem_cons]
  exact ⟨fun _ => rfl, fun _ => rfl, fun _ => rfl, fun _ member => absurd member List.not_mem_nil⟩

theorem Settings.lastCommands_set (settings : Settings) (packed : Int) (row : Int × Int) :
    ∀ c ∈ settings.lastCommands packed row, c.Sets := by
  simp only [Settings.lastCommands, List.forall_mem_cons]
  exact ⟨fun _ => rfl, fun _ => rfl, fun _ => rfl, fun _ => rfl, fun _ => rfl, fun _ => rfl,
    fun _ => rfl, fun _ => rfl, fun _ => rfl, fun _ => rfl, fun _ => rfl, fun _ => rfl,
    fun _ => rfl, fun _ member => absurd member List.not_mem_nil⟩

section Sending

variable (wired : Wired board modem)

include wired

theorem sendAll_sent {commands : List Issued} (set : ∀ c ∈ commands, c.Sets)
    (idle : Idle modem n) (returned : Returns (sendAll board fuel commands) n () n') :
    Sent modem (commands.map Issued.frame) n n' ∧ (radioAt modem n').settings =
      assigned (commands.map Issued.assignment) (radioAt modem n).settings := by
  induction commands generalizing n with
  | nil =>
    obtain ⟨-, rfl⟩ := returns_pure.mp returned
    exact ⟨.ofWaits (.refl _) idle, rfl⟩
  | cons c rest ih =>
    obtain ⟨_, n₁, first, later⟩ := returns_bind.mp returned
    obtain ⟨sent, r, heard, same, -⟩ := cmd_sent wired idle first
    obtain ⟨sent', settings⟩ :=
      ih (fun c' member => set c' (List.mem_cons_of_mem c member)) sent.idle later
    refine ⟨sent.trans sent', ?_⟩
    rw [set c List.mem_cons_self] at same
    rw [settings, same, List.map_cons, assigned_cons]
    exact congrArg (fun store => assigned _ (Function.update store _ _)) heard.sameSetup.settings

/-- A list of commands that raises has got as far as the command that raised. -/
theorem sendAll_throws {commands : List Issued} {e : Raise ε} (set : ∀ c ∈ commands, c.Sets)
    (idle : Idle modem n) (raised : Throws (sendAll board fuel commands) n e n') :
    (e = .radioError busyStuck ∨ ∃ e', e = .board e') ∧ n'.payloadLen = n.payloadLen ∧
      ∃ done failing rest, commands = done ++ failing :: rest ∧
        obeyedAt modem n' = obeyedAt modem n ++ done.map Issued.frame := by
  induction commands generalizing n with
  | nil => exact absurd raised not_throws_pure
  | cons c rest ih =>
    rcases throws_bind.mp raised with here | ⟨_, n₁, first, later⟩
    · rcases cmd_throws wired idle here with ⟨stuck, waits⟩ | ⟨failed, broken⟩
      · refine ⟨Or.inl stuck, waits.payloadLen, [], c, rest, rfl, ?_⟩
        rw [waits.obeyed]
        exact (List.append_nil _).symm
      · refine ⟨Or.inr failed, broken.payloadLen, [], c, rest, rfl, ?_⟩
        rw [broken.obeyed]
        exact (List.append_nil _).symm
    · obtain ⟨sent, -⟩ := cmd_sent wired idle first
      obtain ⟨error, kept, done, failing, rest', split, obeyed⟩ :=
        ih (fun c' member => set c' (List.mem_cons_of_mem c member)) sent.idle later
      refine ⟨error, kept.trans sent.payloadLen, c :: done, failing, rest', ?_, ?_⟩
      · rw [split]
        rfl
      · rw [obeyed, sent.obeyed, List.append_assoc]
        rfl

end Sending

/-- The power that is let through. -/
def PowerInRange (dbm : Int) : Prop := minPowerDbm ≤ dbm ∧ dbm ≤ maxPowerDbm

/-- The registers that a power ends up in. -/
def paBytes (row : Int × Int) : UInt8 × UInt8 := (byteOf (row.1 + 0x10) 0 &&& 0x1F, byteOf row.2 0)

theorem powerInRange_iff (dbm : Int) : PowerInRange dbm ↔ ∃ i : Fin 32, dbm = minPowerDbm + i := by
  unfold PowerInRange
  constructor
  · rintro ⟨lower, upper⟩
    rw [minPowerDbm] at *
    rw [maxPowerDbm] at upper
    exact ⟨⟨(dbm + 19).toNat, by omega⟩, by simp only [Int.ofNat_toNat]; omega⟩
  · rintro ⟨i, rfl⟩
    have small := i.isLt
    rw [minPowerDbm, maxPowerDbm]
    omega

theorem paHfRow_eq (i : Fin 32) : paHfRow (minPowerDbm + i) = some paHf[i] := by
  have offset : minPowerDbm + (i : Int) - minPowerDbm = (i : Int) := by omega
  unfold paHfRow
  rw [offset]
  dsimp only
  rw [if_neg (by omega), Int.toNat_natCast]
  exact List.getElem?_eq_getElem i.isLt

/-- No two powers share their registers. -/
theorem paBytes_injective : ∀ i j : Fin 32, paBytes paHf[i] = paBytes paHf[j] → i = j := by
  decide +kernel

theorem begin_refused {settings : Settings} (outside : ¬PowerInRange settings.powerDbm) :
    begin board fuel settings = raise (.valueError powerRefused) := if_pos outside

/-- The commands that a bring-up goes through. -/
def Settings.plan (settings : Settings) (python : MicroPython Int) : List Issued :=
  match paHfRow settings.powerDbm,
      Module.modFlrcModulationParams python settings.brBw settings.cr settings.shaping with
  | some row, .ok packed => firstCommands ++ settings.lastCommands packed row
  | _, _ => firstCommands

/-- What the settings of a radio are after its reset and these commands. -/
def Settings.channel (settings : Settings) (python : MicroPython Int) :
    UInt16 × UInt8 → List UInt8 :=
  assigned ((settings.plan python).map Issued.assignment) fun _ => []

/-- A bring-up that returns has been through its commands in order; and the settings it leaves
do not depend on what was there before. -/
theorem begin_configures (wired : Wired board modem) {settings : Settings}
    (idle : Idle modem n) (returned : Returns (begin board fuel settings) n () n') :
    PowerInRange settings.powerDbm ∧
      (Module.modFlrcModulationParams board.python settings.brBw settings.cr
        settings.shaping).isOk = true ∧
      Idle modem n' ∧ n'.payloadLen = settings.payloadLen ∧
      obeyedAt modem n' = obeyedAt modem n ++ (settings.plan board.python).map Issued.frame ∧
      (radioAt modem n').settings = settings.channel board.python := by
  by_cases inside : PowerInRange settings.powerDbm
  swap
  · rw [begin_refused inside] at returned
    exact absurd returned not_returns_raise
  obtain ⟨i, power⟩ := (powerInRange_iff _).mp inside
  have row : paHfRow settings.powerDbm = some paHf[i] := by
    rw [power]
    exact paHfRow_eq i
  rw [begin_eq board fuel settings row inside] at returned
  obtain ⟨_, n₁, cleared, rest⟩ := returns_bind.mp returned
  obtain ⟨_, n₂, first, rest⟩ := returns_bind.mp rest
  cases modulation : Module.modFlrcModulationParams board.python settings.brBw settings.cr
      settings.shaping with
  | error e =>
    rw [modulation] at rest
    exact absurd rest not_returns_raise
  | ok packed =>
    have plan : settings.plan board.python =
        firstCommands ++ settings.lastCommands packed paHf[i] := by
      rw [Settings.plan, row, modulation]
    rw [modulation] at rest
    obtain ⟨_, n₃, last, rest⟩ := returns_bind.mp rest
    have sets : n' = { n₃ with payloadLen := settings.payloadLen } :=
      (Prod.mk.inj (returns_act.mp rest)).2.symm
    obtain ⟨sent₁, r, heard, left⟩ := reset_clears wired idle cleared
    obtain ⟨sent₂, settings₂⟩ := sendAll_sent wired firstCommands_set sent₁.idle first
    obtain ⟨sent₃, settings₃⟩ := sendAll_sent wired (settings.lastCommands_set packed paHf[i])
      sent₂.idle last
    have sent := (sent₁.trans sent₂).trans sent₃
    have settings₁ : (radioAt modem n₁).settings = fun _ => [] := left.sameSetup.settings
    refine ⟨inside, rfl, ?_, ?_, ?_, ?_⟩
    · rw [sets]
      exact sent.idle
    · rw [sets]
    · rw [sets, plan, List.map_append]
      exact sent.obeyed
    · rw [Settings.channel, plan, List.map_append, assigned_append, ← settings₁, ← settings₂,
        ← settings₃, sets]
      rfl

/-- A bring-up that raises has stopped where it was: at the power, before it touched anything;
at a modulation that the module refuses; or in the reset or at a command that did not go
through. The commands carried out are the first of its list, and the payload length is as it
was. -/
theorem begin_stops (wired : Wired board modem) {settings : Settings} {e : Raise ε}
    (idle : Idle modem n) (raised : Throws (begin board fuel settings) n e n') :
    match e with
    | .valueError message =>
      ¬PowerInRange settings.powerDbm ∧ message = powerRefused ∧ n' = n
    | .indexError => False
    | .native refusal =>
      PowerInRange settings.powerDbm ∧ n'.payloadLen = n.payloadLen ∧
        Module.modFlrcModulationParams board.python settings.brBw settings.cr settings.shaping =
          .error refusal ∧
        obeyedAt modem n' = obeyedAt modem n ++ firstCommands.map Issued.frame
    | .radioError _ | .board _ =>
      PowerInRange settings.powerDbm ∧ n'.payloadLen = n.payloadLen ∧
        ∃ done left, left ≠ [] ∧ settings.plan board.python = done ++ left ∧
          obeyedAt modem n' = obeyedAt modem n ++ done.map Issued.frame := by
  by_cases inside : PowerInRange settings.powerDbm
  swap
  · rw [begin_refused inside] at raised
    obtain ⟨rfl, rfl⟩ := throws_raise.mp raised
    exact ⟨inside, rfl, rfl⟩
  -- It is enough that some of the commands were left when the transport raised.
  suffices stopped : (∃ refusal, e = .native refusal ∧ n'.payloadLen = n.payloadLen ∧
      Module.modFlrcModulationParams board.python settings.brBw settings.cr settings.shaping =
        .error refusal ∧
      obeyedAt modem n' = obeyedAt modem n ++ firstCommands.map Issued.frame) ∨
    (e = .radioError busyStuck ∨ ∃ e', e = .board e') ∧ n'.payloadLen = n.payloadLen ∧
      ∃ done left, left ≠ [] ∧ settings.plan board.python = done ++ left ∧
        obeyedAt modem n' = obeyedAt modem n ++ done.map Issued.frame by
    rcases stopped with ⟨refusal, rfl, rest⟩ | ⟨rfl | ⟨e', rfl⟩, rest⟩
    · exact ⟨inside, rest⟩
    · exact ⟨inside, rest⟩
    · exact ⟨inside, rest⟩
  obtain ⟨i, power⟩ := (powerInRange_iff _).mp inside
  have row : paHfRow settings.powerDbm = some paHf[i] := by
    rw [power]
    exact paHfRow_eq i
  have starts : ∃ later, settings.plan board.python = firstCommands ++ later := by
    unfold Settings.plan
    split
    · exact ⟨_, rfl⟩
    · exact ⟨[], (List.append_nil _).symm⟩
  rw [begin_eq board fuel settings row inside] at raised
  rcases throws_bind.mp raised with stuck | ⟨_, n₁, cleared, rest⟩
  · obtain ⟨error, obeyed, kept⟩ := reset_throws wired stuck
    obtain ⟨later, plan⟩ := starts
    refine Or.inr ⟨Or.inl error, kept, [], settings.plan board.python, ?_, rfl, ?_⟩
    · rw [plan]
      exact List.cons_ne_nil _ _
    · rw [obeyed]
      exact (List.append_nil _).symm
  obtain ⟨sent₁, -⟩ := reset_clears wired idle cleared
  rcases throws_bind.mp rest with first | ⟨_, n₂, first, rest⟩
  · obtain ⟨error, kept, done, failing, left, split, obeyed⟩ :=
      sendAll_throws wired firstCommands_set sent₁.idle first
    obtain ⟨later, plan⟩ := starts
    refine Or.inr ⟨error, kept.trans sent₁.payloadLen, done, failing :: (left ++ later),
      List.cons_ne_nil _ _, ?_, ?_⟩
    · rw [plan, split, List.append_assoc]
      rfl
    · rw [obeyed, sent₁.obeyed, List.append_nil]
  obtain ⟨sent₂, -⟩ := sendAll_sent wired firstCommands_set sent₁.idle first
  have sent := sent₁.trans sent₂
  cases modulation : Module.modFlrcModulationParams board.python settings.brBw settings.cr
      settings.shaping with
  | error refusal =>
    rw [modulation] at rest
    obtain ⟨rfl, rfl⟩ := throws_raise.mp rest
    exact Or.inl ⟨refusal, rfl, sent.payloadLen, rfl, sent.obeyed⟩
  | ok packed =>
    have plan : settings.plan board.python =
        firstCommands ++ settings.lastCommands packed paHf[i] := by
      rw [Settings.plan, row, modulation]
    rw [modulation] at rest
    rcases throws_bind.mp rest with last | ⟨_, n₃, _, rest⟩
    · obtain ⟨error, kept, done, failing, left, split, obeyed⟩ :=
        sendAll_throws wired (settings.lastCommands_set packed paHf[i]) sent.idle last
      refine Or.inr ⟨error, kept.trans sent.payloadLen, firstCommands ++ done, failing :: left,
        List.cons_ne_nil _ _, ?_, ?_⟩
      · rw [plan, split, List.append_assoc]
      · rw [obeyed, sent.obeyed, List.map_append, List.append_assoc]
        rfl
    · exact absurd rest not_throws_act

/-- The module refuses the eighth rate, and the radio has been given three commands. -/
theorem begin_stops_refused :
    ∃ n' : Node Desk, n'.payloadLen = 6 ∧
      obeyedAt Desk.modem n' = [[0x01, 0x2D, 0x00], [0x01, 0x28, 0x00], [0x02, 0x07, 0x05]] := by
  have raised : Throws (begin Desk.board 1 (Desk.settings 8)) (Desk.node [])
      (.native (.shim (.valueError "argument out of range for this command"))) _ :=
    throws_run (by decide +kernel)
  obtain ⟨-, payloadLen, -, obeyed⟩ := begin_stops (n := Desk.node []) Desk.wired rfl raised
  exact ⟨_, payloadLen, obeyed⟩

/-- The codes of a modulation, where MicroPython does not convert them to words of other values. -/
structure Settings.Exact (python : MicroPython Int) (settings : Settings) : Prop where
  rate : python.Exact settings.brBw
  coding : python.Exact settings.cr
  shape : python.Exact settings.shaping

/-- What the module packs are codes in machine words. -/
theorem modFlrcModulationParams_words {python : MicroPython Int} {settings : Settings}
    {packed : Int} (exact : settings.Exact python)
    (accepted : Module.modFlrcModulationParams python settings.brBw settings.cr settings.shaping =
      .ok packed) :
    ∃ b c s : Int32, b.toInt = settings.brBw ∧ c.toInt = settings.cr ∧
      s.toInt = settings.shaping ∧ FlrcAccepted b c s ∧
      (Ffi.lr2021FlrcModulationParams b c s).toInt = packed := by
  unfold Module.modFlrcModulationParams at accepted
  cases rate : python.objGetInt settings.brBw with
  | error e =>
    rw [rate] at accepted
    cases accepted
  | ok b =>
    cases coding : python.objGetInt settings.cr with
    | error e =>
      rw [rate, coding] at accepted
      cases accepted
    | ok c =>
      cases shape : python.objGetInt settings.shaping with
      | error e =>
        rw [rate, coding, shape] at accepted
        cases accepted
      | ok s =>
        rw [rate, coding, shape] at accepted
        obtain ⟨nonneg, value⟩ := Module.checked_ok accepted
        exact ⟨b, c, s, exact.rate b rate, exact.coding c coding, exact.shape s shape,
          (flrcModulationParams_nonneg_iff b c s).mp nonneg, value⟩

/-- What the module packs, it packs by its codes. -/
theorem modFlrcModulationParams_ok {python : MicroPython Int} {settings : Settings} {packed : Int}
    (exact : settings.Exact python)
    (accepted : Module.modFlrcModulationParams python settings.brBw settings.cr settings.shaping =
      .ok packed) :
    packed = settings.brBw * 256 + (settings.cr * 16 + settings.shaping) ∧
      (0 ≤ settings.brBw ∧ settings.brBw < 8) ∧ (0 ≤ settings.cr ∧ settings.cr < 4) ∧
      (0 ≤ settings.shaping ∧ settings.shaping < 16) := by
  obtain ⟨b, c, s, rate, coding, shape, codes, value⟩ :=
    modFlrcModulationParams_words exact accepted
  rw [← rate, ← coding, ← shape]
  exact ⟨value.symm.trans (toInt_flrcModulationParams codes), codes.bounds⟩

theorem toNat_byteOf (x : Int) (shift : Nat) :
    ((byteOf x shift).toNat : Int) = x / 2 ^ shift % 256 := by
  have quotient : x >>> shift = x / 2 ^ shift := by
    rw [Int.shiftRight_eq_div_pow, Int.natCast_pow]
    rfl
  unfold byteOf UInt8.ofInt
  rw [UInt8.toNat_ofNat', quotient]
  generalize x / 2 ^ shift = q
  omega

/-- Four bytes are a number modulo their width. -/
theorem bytes_eq_iff (x y : Int) :
    (byteOf x 24 = byteOf y 24 ∧ byteOf x 16 = byteOf y 16 ∧ byteOf x 8 = byteOf y 8 ∧
      byteOf x 0 = byteOf y 0) ↔ x % 2 ^ 32 = y % 2 ^ 32 := by
  simp only [← UInt8.toNat_inj, ← Int.natCast_inj, toNat_byteOf]
  omega

theorem halfBytes_eq_iff (x y : Int) :
    (byteOf x 8 = byteOf y 8 ∧ byteOf x 0 = byteOf y 0) ↔ x % 2 ^ 16 = y % 2 ^ 16 := by
  simp only [← UInt8.toNat_inj, ← Int.natCast_inj, toNat_byteOf]
  omega

theorem preambleByte_eq_iff (x y : Nat) :
    byteOf (((x &&& 0x0F) <<< 2) ||| 2 : Nat) 0 = byteOf (((y &&& 0x0F) <<< 2) ||| 2 : Nat) 0 ↔
      x % 16 = y % 16 := by
  have field (z : Nat) : ((z &&& 0x0F) <<< 2) ||| 2 = z % 16 * 4 + 2 := by
    rw [show (0x0F : Nat) = 2 ^ 4 - 1 from rfl, Nat.and_two_pow_sub_one_eq_mod,
      ← Nat.shiftLeft_add_eq_or_of_lt (by decide), Nat.shiftLeft_eq]
  rw [← UInt8.toNat_inj, ← Int.natCast_inj, toNat_byteOf, toNat_byteOf, field, field]
  omega

/-- What two nodes must have in common. -/
structure SameChannel (a b : Settings) : Prop where
  frequency : a.frequencyHz % 2 ^ 32 = b.frequencyHz % 2 ^ 32
  rate : a.brBw = b.brBw
  coding : a.cr = b.cr
  shape : a.shaping = b.shaping
  syncWord : a.syncWord % 2 ^ 32 = b.syncWord % 2 ^ 32
  power : a.powerDbm = b.powerDbm
  payloadLen : a.payloadLen % 2 ^ 16 = b.payloadLen % 2 ^ 16
  preamble : a.preamble % 16 = b.preamble % 16

/-- The commands tell all that two nodes must have in common, and nothing else. -/
theorem lastCommands_eq_iff {python python' : MicroPython Int} {a b : Settings}
    {packed packed' : Int} {i j : Fin 32} (exact : a.Exact python) (exact' : b.Exact python')
    (power : a.powerDbm = minPowerDbm + i) (power' : b.powerDbm = minPowerDbm + j)
    (modulation : Module.modFlrcModulationParams python a.brBw a.cr a.shaping = .ok packed)
    (modulation' : Module.modFlrcModulationParams python' b.brBw b.cr b.shaping = .ok packed') :
    a.lastCommands packed paHf[i] = b.lastCommands packed' paHf[j] ↔ SameChannel a b := by
  obtain ⟨value, rate, coding, shape⟩ := modFlrcModulationParams_ok exact modulation
  obtain ⟨value', rate', coding', shape'⟩ := modFlrcModulationParams_ok exact' modulation'
  have fields : (byteOf packed 8 = byteOf packed' 8 ∧ byteOf packed 0 = byteOf packed' 0) ↔
      a.brBw = b.brBw ∧ a.cr = b.cr ∧ a.shaping = b.shaping := by
    rw [halfBytes_eq_iff]
    omega
  have registers : (byteOf (paHf[i].1 + 0x10) 0 &&& 0x1F = byteOf (paHf[j].1 + 0x10) 0 &&& 0x1F ∧
      byteOf paHf[i].2 0 = byteOf paHf[j].2 0) ↔ a.powerDbm = b.powerDbm := by
    rw [power, power']
    constructor
    · rintro ⟨duty, val⟩
      rw [paBytes_injective i j (Prod.ext duty val)]
    · intro same
      have index : i = j := Fin.ext (by omega)
      rw [index]
      exact ⟨rfl, rfl⟩
  have word := bytes_eq_iff a.syncWord b.syncWord
  have hz := bytes_eq_iff a.frequencyHz b.frequencyHz
  have length := halfBytes_eq_iff a.payloadLen b.payloadLen
  have symbols := preambleByte_eq_iff a.preamble b.preamble
  simp only [Settings.lastCommands, List.cons.injEq, Prod.mk.injEq, true_and, and_true]
  constructor
  · rintro ⟨⟨mod₁, mod₀⟩, ⟨pre, len₁, len₀⟩, ⟨s₃, s₂, s₁, s₀⟩, ⟨f₃, f₂, f₁, f₀⟩, duty, val⟩
    obtain ⟨sameRate, sameCoding, sameShape⟩ := fields.mp ⟨mod₁, mod₀⟩
    have sameLength := length.mp ⟨len₁, len₀⟩
    exact ⟨hz.mp ⟨f₃, f₂, f₁, f₀⟩, sameRate, sameCoding, sameShape, word.mp ⟨s₃, s₂, s₁, s₀⟩,
      registers.mp ⟨duty, val⟩, by omega, symbols.mp pre⟩
  · rintro ⟨frequency, sameRate, sameCoding, sameShape, syncWord, samePower, payloadLen, preamble⟩
    obtain ⟨mod₁, mod₀⟩ := fields.mpr ⟨sameRate, sameCoding, sameShape⟩
    obtain ⟨len₁, len₀⟩ := length.mpr (by omega)
    obtain ⟨duty, val⟩ := registers.mpr samePower
    exact ⟨⟨mod₁, mod₀⟩, ⟨symbols.mpr preamble, len₁, len₀⟩, word.mpr syncWord,
      hz.mpr frequency, duty, val⟩

/-- The settings that a bring-up replaces. -/
def channelKeys : List (UInt16 × UInt8) :=
  [(cmdActivatePram, 0), (cmdSetStandby, 0), (cmdSetPacketType, 0),
    (cmdSetFlrcModulationParams, 0), (cmdSetFlrcPacketParams, 0), (cmdSetFlrcSyncword, 0),
    (cmdSetRfFrequency, 0), (cmdCalibrate, 0), (cmdSelPa, 0), (cmdSetPaConfig, 0),
    (cmdSetTxParams, 0), (cmdSetDioFunction, 5), (cmdSetDioRfSwitchConfig, 5),
    (cmdSetDioFunction, 6), (cmdSetDioRfSwitchConfig, 6), (cmdSetDioIrqConfig, 0)]

theorem keys_eq (settings : Settings) (packed : Int) (row : Int × Int) :
    ((firstCommands ++ settings.lastCommands packed row).map Issued.assignment).map (·.1) =
      channelKeys := rfl

theorem channelKeys_nodup : channelKeys.Nodup := by decide

theorem assignment_injective : Function.Injective Issued.assignment := by
  intro c c' same
  have opcode : c.1 = c'.1 := congrArg (·.1.1) same
  have params : c.2 = c'.2 := congrArg (·.2) same
  exact Prod.ext opcode params

/-- Two nodes that are brought up, whatever their boards and whatever their radios did before,
are tuned alike exactly if their settings agree in all that they must have in common. The codes
of a modulation are machine words, or integers that MicroPython does not take for other words. -/
theorem begin_agree {ε' σ' : Type} {board' : Board ε' σ'} {modem' : σ' → Modem} {fuel' : Nat}
    {m m' : Node σ'} {a b : Settings} (wired : Wired board modem) (wired' : Wired board' modem')
    (exact : a.Exact board.python) (exact' : b.Exact board'.python)
    (idle : Idle modem n) (idle' : Idle modem' m)
    (returned : Returns (begin board fuel a) n () n')
    (returned' : Returns (begin board' fuel' b) m () m') :
    (radioAt modem n').settings = (radioAt modem' m').settings ↔ SameChannel a b := by
  obtain ⟨inside, accepted, -, -, -, settings⟩ := begin_configures wired idle returned
  obtain ⟨inside', accepted', -, -, -, settings'⟩ := begin_configures wired' idle' returned'
  obtain ⟨i, power⟩ := (powerInRange_iff _).mp inside
  obtain ⟨j, power'⟩ := (powerInRange_iff _).mp inside'
  cases modulation : Module.modFlrcModulationParams board.python a.brBw a.cr a.shaping with
  | error e => rw [modulation] at accepted; cases accepted
  | ok packed =>
    cases modulation' : Module.modFlrcModulationParams board'.python b.brBw b.cr b.shaping with
    | error e => rw [modulation'] at accepted'; cases accepted'
    | ok packed' =>
      have plan : a.plan board.python = firstCommands ++ a.lastCommands packed paHf[i] := by
        rw [Settings.plan, power, paHfRow_eq, modulation]
      have plan' : b.plan board'.python = firstCommands ++ b.lastCommands packed' paHf[j] := by
        rw [Settings.plan, power', paHfRow_eq, modulation']
      rw [← lastCommands_eq_iff exact exact' power power' modulation modulation', settings,
        settings', Settings.channel, Settings.channel, plan, plan']
      constructor
      · intro same
        have keys := (keys_eq a packed paHf[i]).trans (keys_eq b packed' paHf[j]).symm
        have distinct := channelKeys_nodup
        rw [← keys_eq a packed paHf[i]] at distinct
        have commands := List.map_injective_iff.mpr assignment_injective
          (assigned_injective keys distinct same)
        exact List.append_cancel_left commands
      · intro same
        rw [same]

theorem Desk.settings_exact (brBw : Int) : (Desk.settings brBw).Exact Desk.board.python :=
  ⟨MicroPython.raising_exact _, MicroPython.raising_exact _, MicroPython.raising_exact _⟩

/-- Two nodes that differ in nothing but the rate are not tuned alike. -/
theorem begin_agree_rates :
    ∃ n m : Node Desk, (radioAt Desk.modem n).settings ≠ (radioAt Desk.modem m).settings := by
  have fastest : Returns (begin Desk.board 1 (Desk.settings 0)) (Desk.node []) () _ :=
    returns_run (by decide +kernel)
  have slowest : Returns (begin Desk.board 1 (Desk.settings 7)) (Desk.node []) () _ :=
    returns_run (by decide +kernel)
  have tuned := begin_agree (n := Desk.node []) (m := Desk.node []) Desk.wired Desk.wired
    (Desk.settings_exact 0) (Desk.settings_exact 7) rfl rfl fastest slowest
  have differ : ¬SameChannel (Desk.settings 0) (Desk.settings 7) :=
    fun agree => absurd agree.rate (by decide)
  exact ⟨_, _, mt tuned.mp differ⟩

end Lr2021.Link
