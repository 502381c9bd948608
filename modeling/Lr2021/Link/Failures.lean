import Lr2021.Link.Bringup
import Lr2021.Link.Clock
import Lr2021.Calculation

set_option autoImplicit false

/-! What a run of the link test can fail with where its configuration is sound: nothing of its
own. -/
namespace Lr2021.Link

open Procedure

variable {ε σ α : Type} {board : Board ε σ} {fuel : Nat}

/-- The commands that the driver reads the answers of. -/
def answered : List UInt16 := [cmdGetVersion, cmdGetAndClearIrqStatus, cmdGetRxFifoLevel]

/-- An exception that comes from outside the code: BUSY that stays high, a command that nothing
answers, a call on the SPI object that raises. -/
def Raise.Outside : Raise ε → Prop
  | .radioError message => message = busyStuck ∨ ∃ opcode ∈ answered, message = noReplyTo opcode
  | .board _ => True
  | _ => False

/-- No exception but one from outside. -/
abbrev Blameless (c : Py ε σ α) : Prop :=
  Triple (fun _ => True) c (fun _ _ => True) fun e _ => e.Outside

theorem blameless_pure (a : α) : Blameless (pure a : Py ε σ α) := .pure fun _ => id

theorem blameless_act {f : Node σ → α × Node σ} : Blameless (act f : Py ε σ α) :=
  .act fun _ => id

theorem blameless_onBus {f : σ → Except ε α × σ} : Blameless (onBus f) := by
  intro n _
  refine ⟨fun _ _ _ => True.intro, fun e n' raised => ?_⟩
  obtain ⟨_, rfl, -⟩ := throws_onBus.mp raised
  exact True.intro

theorem blameless_native {r : Except ModuleError α} (accepted : r.isOk = true) :
    Blameless (Code.native r : Py ε σ α) := by
  cases r with
  | error e => cases accepted
  | ok value => exact blameless_pure value

section Driver

theorem waitBusy_blameless (timeoutMs : Nat) : Blameless (waitBusy board fuel timeoutMs) := by
  apply Triple.bind blameless_act
  intro start
  refine .whileLoop (fun _ _ => True) (fun _ => ?_) fuel ()
  apply Triple.bind blameless_act
  intro high
  split
  · apply Triple.bind blameless_act
    intro t
    split
    · exact .raise fun _ _ => Or.inl rfl
    · exact .pure fun _ => id
  · exact .pure fun _ => id

theorem cmd_blameless (opcode : UInt16) (args : List UInt8) :
    Blameless (cmd board fuel opcode args) := by
  apply (waitBusy_blameless 200).bind
  intro _
  apply Triple.bind blameless_act
  intro _
  apply Triple.bind blameless_onBus
  intro _
  exact blameless_act

theorem readinto_blameless (count : Nat) : Blameless (board.readinto count) := by
  apply Triple.bind blameless_onBus
  intro buf
  exact blameless_pure _

theorem read_blameless {opcode : UInt16} (reads : opcode ∈ answered) (length : Nat)
    (args : List UInt8) : Blameless (read board fuel opcode length args) := by
  apply (cmd_blameless opcode args).bind
  intro _
  apply (waitBusy_blameless 200).bind
  intro _
  apply Triple.bind blameless_act
  intro _
  apply (readinto_blameless (statusLen + length)).bind
  intro buf
  apply Triple.bind blameless_act
  intro _
  split
  · exact .raise fun _ _ => Or.inr ⟨opcode, reads, rfl⟩
  · exact blameless_pure _

theorem irq_blameless : Blameless (irq board fuel) := by
  have reads : cmdGetAndClearIrqStatus ∈ answered := by decide
  apply (read_blameless reads 4 []).bind
  intro b
  exact blameless_pure _

theorem readFifo_blameless (length : Nat) : Blameless (readFifo board fuel length) := by
  apply (waitBusy_blameless 200).bind
  intro _
  apply Triple.bind blameless_act
  intro _
  apply Triple.bind blameless_onBus
  intro _
  apply (readinto_blameless length).bind
  intro buf
  apply Triple.bind blameless_act
  intro _
  exact blameless_pure _

theorem reset_blameless : Blameless (reset board fuel) := by
  apply Triple.bind blameless_act
  intro _
  apply Triple.bind blameless_act
  intro _
  apply Triple.bind blameless_act
  intro _
  apply Triple.bind blameless_act
  intro _
  exact waitBusy_blameless 500

theorem setPower_blameless {dbm : Int} (inside : PowerInRange dbm) :
    Blameless (setPower board fuel dbm) := by
  obtain ⟨i, rfl⟩ := (powerInRange_iff dbm).mp inside
  unfold setPower
  rw [paHfRow_eq i]
  apply (cmd_blameless cmdSelPa _).bind
  intro _
  apply (cmd_blameless cmdSetPaConfig _).bind
  intro _
  exact cmd_blameless cmdSetTxParams _

theorem setRfSwitch_blameless : Blameless (setRfSwitch board fuel) := by
  apply Triple.forM
  rintro ⟨dio, pull, modes⟩
  apply (cmd_blameless cmdSetDioFunction _).bind
  intro _
  exact cmd_blameless cmdSetDioRfSwitchConfig _

theorem begin_blameless {settings : Settings} (inside : PowerInRange settings.powerDbm)
    (accepted : (Module.modFlrcModulationParams board.python settings.brBw settings.cr
      settings.shaping).isOk = true) : Blameless (begin board fuel settings) := by
  have sets (opcode : UInt16) (args : List UInt8) : Blameless (cmd board fuel opcode args) :=
    cmd_blameless opcode args
  unfold begin
  split
  · rename_i outside
    exact absurd inside outside
  apply reset_blameless.bind
  intro _
  apply (sets cmdActivatePram _).bind
  intro _
  apply (sets cmdSetStandby _).bind
  intro _
  apply (sets cmdSetPacketType _).bind
  intro _
  split
  · rename_i e refused
    rw [refused] at accepted
    cases accepted
  apply (sets cmdSetFlrcModulationParams _).bind
  intro _
  apply (sets cmdSetFlrcPacketParams _).bind
  intro _
  apply (sets cmdSetFlrcSyncword _).bind
  intro _
  apply (sets cmdSetRfFrequency _).bind
  intro _
  apply (sets cmdCalibrate _).bind
  intro _
  apply (setPower_blameless inside).bind
  intro _
  apply setRfSwitch_blameless.bind
  intro _
  apply (sets cmdSetDioIrqConfig _).bind
  intro _
  exact blameless_act

theorem startReceive_blameless : Blameless (startReceive board fuel) := by
  apply (cmd_blameless cmdClearRxFifo _).bind
  intro _
  exact cmd_blameless cmdSetRx _

theorem poll_blameless : Blameless (poll board fuel) := by
  have reads : cmdGetRxFifoLevel ∈ answered := by decide
  apply irq_blameless.bind
  intro flags
  split
  · apply (cmd_blameless cmdClearRxFifo _).bind
    intro _
    exact blameless_pure _
  split
  · exact blameless_pure _
  apply (read_blameless reads 2 []).bind
  intro level
  apply Triple.bind blameless_act
  intro payloadLen
  dsimp only
  split
  · exact blameless_pure _
  · apply (readFifo_blameless _).bind
    intro bytes
    exact blameless_pure _

theorem transmit_blameless (data : List UInt8) (timeoutMs : Nat) :
    Blameless (transmit board fuel data timeoutMs) := by
  apply (cmd_blameless cmdClearTxFifo _).bind
  intro _
  apply (cmd_blameless cmdWriteTxFifo _).bind
  intro _
  apply (cmd_blameless cmdSetTx _).bind
  intro _
  apply Triple.bind blameless_act
  intro start
  refine .whileLoop (fun _ _ => True) (fun _ => ?_) fuel ()
  apply Triple.bind blameless_act
  intro now
  split
  · apply irq_blameless.bind
    intro flags
    repeat' split
    all_goals exact .pure fun _ => id
  · exact .pure fun _ => id

/-- Making the driver's object does not raise. -/
theorem init_blameless : Blameless (init board fuel) := by
  have locks : Blameless (whileLoop (lockRound board) fuel ()) := by
    refine .whileLoop (fun _ _ => True) (fun _ => ?_) fuel ()
    apply Triple.bind blameless_act
    intro locked
    split
    · exact .pure fun _ => id
    · exact .pure fun _ => id
  apply locks.bind
  intro _
  apply Triple.bind blameless_act
  intro _
  apply Triple.bind blameless_act
  intro _
  exact blameless_act

end Driver

section Calculations

/-- A calculation that has a result is no error to Python. -/
theorem checked_run {calculation : Calculation} (results : calculation.outcome.isOk = true) :
    (Module.checked calculation.run).isOk = true := by
  have allowed := calculation.outcome_allowed
  cases outcome : calculation.outcome with
  | error e =>
    rw [outcome] at results
    cases results
  | ok v =>
    rw [outcome] at allowed
    have fits : Fits v := allowed
    have nonneg : 0 ≤ returnCode (.ok v) := by
      rw [Int32.le_iff_toInt_le, toInt_returnCode fits]
      exact fits.1
    rw [Calculation.run_eq, outcome, Module.checked, checkErr_of_nonneg nonneg]
    rfl

/-- A code of the table of rates. -/
def KnownRate (brBw : Int) : Prop := 0 ≤ brBw ∧ brBw < 8

theorem knownRate_iff (brBw : Int) : KnownRate brBw ↔ ∃ i : Fin 8, brBw = i := by
  unfold KnownRate
  constructor
  · rintro ⟨lower, upper⟩
    refine ⟨⟨brBw.toNat, by omega⟩, ?_⟩
    exact (Int.toNat_of_nonneg lower).symm
  · rintro ⟨i, rfl⟩
    omega

variable {python : MicroPython Int} (words : python.Words)

include words

/-- Two counts that fit go through as words. -/
theorem counts_accepted {left right : Nat} (small : left < 2 ^ 31) (small' : right < 2 ^ 31) :
    python.objGetInt left = .ok (Int32.ofInt left) ∧
      python.objGetInt right = .ok (Int32.ofInt right) ∧
      ¬(Int32.ofInt left < 0 ∨ Int32.ofInt right < 0) := by
  have value := Int32.toInt_ofInt_of_le (n := left) (by omega) (by omega)
  have value' := Int32.toInt_ofInt_of_le (n := right) (by omega) (by omega)
  refine ⟨words left (by omega) (by omega), words right (by omega) (by omega), ?_⟩
  rw [Int32.lt_iff_toInt_lt, Int32.lt_iff_toInt_lt, value, value', Int32.toInt_zero]
  omega

theorem goodput_accepted {bytes elapsedMs : Nat} (small : bytes < 2 ^ 31)
    (brief : elapsedMs < 2 ^ 31) :
    (Module.modFlrcGoodputBps python bytes elapsedMs).isOk = true := by
  obtain ⟨first, second, counted⟩ := counts_accepted words small brief
  rw [Module.modFlrcGoodputBps, first, second]
  have results :
      (Calculation.flrcGoodputBps (.ofInt bytes) (.ofInt elapsedMs)).outcome.isOk = true := by
    rw [Calculation.outcome, refuseIf, if_neg counted]
    rfl
  exact (checked_run results :)

theorem errorRate_accepted {sent received : Nat} (small : sent < 2 ^ 31)
    (small' : received < 2 ^ 31) :
    (Module.modFlrcPerPermille python sent received).isOk = true := by
  obtain ⟨first, second, counted⟩ := counts_accepted words small small'
  rw [Module.modFlrcPerPermille, first, second]
  have results :
      (Calculation.flrcPerPermille (.ofInt sent) (.ofInt received)).outcome.isOk = true := by
    rw [Calculation.outcome, refuseIf, if_neg counted]
    rfl
  exact (checked_run results :)

/-- The rates of the table have their names. -/
theorem rates_accepted {brBw : Int} (known : KnownRate brBw) :
    (Module.modFlrcBitrateKbps python brBw).isOk = true ∧
      (Module.modFlrcBandwidthKhz python brBw).isOk = true := by
  have word := words brBw (by have := known.1; omega) (by have := known.2; omega)
  obtain ⟨i, rfl⟩ := (knownRate_iff brBw).mp known
  have rated : ∀ i : Fin 8, (Module.checked (Ffi.lr2021FlrcBitrateKbps (.ofInt i))).isOk = true ∧
      (Module.checked (Ffi.lr2021FlrcBandwidthKhz (.ofInt i))).isOk = true := by decide
  rw [Module.modFlrcBitrateKbps, Module.modFlrcBandwidthKhz, word]
  exact rated i

/-- Codes that the module packs. -/
theorem modulation_accepted {brBw cr shaping : Int} (known : KnownRate brBw)
    (coding : 0 ≤ cr ∧ cr < 4) (shape : shaping ∈ [0x00, 0x05, 0x07, 0x09]) :
    (Module.modFlrcModulationParams python brBw cr shaping).isOk = true := by
  have bounds : ∀ shaping ∈ [(0x00 : Int), 0x05, 0x07, 0x09], 0 ≤ shaping ∧ shaping < 16 := by
    decide
  have within := bounds shaping shape
  have rate := words brBw (by have := known.1; omega) (by have := known.2; omega)
  have code := words cr (by omega) (by omega)
  have filter := words shaping (by omega) (by omega)
  have packs : ∀ i : Fin 8, ∀ j : Fin 4, ∀ shaping ∈ [(0x00 : Int), 0x05, 0x07, 0x09],
      (Module.checked (Ffi.lr2021FlrcModulationParams (.ofInt i) (.ofInt j)
        (.ofInt shaping))).isOk = true := by decide +kernel
  obtain ⟨i, rfl⟩ := (knownRate_iff brBw).mp known
  have digit : (cr.toNat : Int) = cr := Int.toNat_of_nonneg coding.1
  rw [Module.modFlrcModulationParams, rate, code, filter, ← digit]
  exact packs i ⟨cr.toNat, by omega⟩ shaping shape

end Calculations

theorem describe_blameless (words : board.python.Words) {brBw : Int} (known : KnownRate brBw) :
    Blameless (Code.describe board brBw) := by
  obtain ⟨rated, wide⟩ := rates_accepted words known
  apply (blameless_native rated).bind
  intro kbps
  apply (blameless_native wide).bind
  intro khz
  exact blameless_pure _

variable {time : σ → Nat} {lag tick : Nat} {reading : Nat → Nat} {config : Config}

/-- The longest time whose milliseconds fit a machine word, whatever they are rounded to. -/
def longestNs : Nat := (2 ^ 31 - 1) * 1000000

/-- An exception from outside, or one that comes too late to matter. -/
def Excused (time : σ → Nat) (lag t : Nat) (e : Raise ε) (n : Node σ) : Prop :=
  e.Outside ∨ t + longestNs ≤ timeAt time n + lag

theorem Excused.since {t since : Nat} {e : Raise ε} {n : Node σ} (early : t ≤ since)
    (excused : Excused time lag since e n) : Excused time lag t e n :=
  excused.imp_right fun late => Nat.le_trans (Nat.add_le_add_right early _) late

/-- Started at any time, it raises nothing else, and returns no earlier. -/
def Prudent (time : σ → Nat) (lag : Nat) (c : Py ε σ α) : Prop :=
  ∀ t, Triple (fun n => t ≤ timeAt time n) c (fun _ n => t ≤ timeAt time n) (Excused time lag t)

theorem Prudent.of {c : Py ε σ α} {span : Nat} (takes : Takes time span c)
    (blameless : Blameless c) : Prudent time lag c := by
  intro t n later
  constructor
  · intro a n' returned
    exact Nat.le_trans (Nat.le_add_right _ _) ((takes t n later).1 a n' returned)
  · intro e n' raised
    exact Or.inl ((blameless n True.intro).2 e n' raised)

/-- What holds from some time on, it keeps. -/
theorem Prudent.keeps {c : Py ε σ α} {holds : Nat → Prop} {t : Nat}
    (prudent : Prudent time lag c) (lasts : ∀ now later, now ≤ later → holds now → holds later)
    (since : ∀ now, holds now → t ≤ now) :
    Triple (fun n => holds (timeAt time n)) c (fun _ n => holds (timeAt time n))
      (Excused time lag t) := by
  intro n before
  obtain ⟨returns, raises⟩ := prudent (timeAt time n) n (Nat.le_refl _)
  constructor
  · intro a n' returned
    exact lasts _ _ (returns a n' returned) before
  · intro e n' raised
    exact (raises e n' raised).since (since _ before)

/-- A calculation that is let through, or comes too late. -/
theorem native_excused {pre : Node σ → Prop} {t : Nat} (r : Except ModuleError α)
    (accepted : ∀ n, pre n → r.isOk = true ∨ t + longestNs ≤ timeAt time n + lag) :
    Triple pre (Code.native r : Py ε σ α) (fun _ => pre) (Excused time lag t) := by
  cases r with
  | ok value => exact .pure fun _ holds => holds
  | error e =>
    refine .raise fun n holds => Or.inr ?_
    rcases accepted n holds with ok | late
    · cases ok
    · exact late

/-- A clock that does not go back: a look shows what it reads at some time during the look, which
is at most `lag` behind. -/
structure Steady (board : Board ε σ) (time : σ → Nat) (lag : Nat) (reading : Nat → Nat) :
    Prop where
  forward : ∀ t t', t ≤ t' → reading t ≤ reading t'
  ahead : ∀ t, reading t ≤ t
  behind : ∀ t, t ≤ reading t + lag
  reads : ∀ s, ∃ t, time s ≤ t ∧ t ≤ time (board.monotonicNs s).2 ∧
    (board.monotonicNs s).1 = reading t

/-- A look at the clock takes at least so long. -/
structure Paced (board : Board ε σ) (time : σ → Nat) (tick : Nat) : Prop where
  positive : 0 < tick
  takes : ∀ s, time s + tick ≤ time (board.monotonicNs s).2

/-- As many packets as a window has time to count. -/
def windowCount (lag tick : Nat) : Nat := (Code.windowS * 1000000000 + lag) / tick + 1

/-- What the code asks of `config.py`, without checking all of it: the role, the codes and the
power are known ones, a payload holds its body, and the bytes of a burst, and of as many packets
as a window has time to count, fit a machine word. -/
structure Config.Sound (config : Config) (lag tick : Nat) : Prop where
  role : config.node.toUpper = "A" ∨ config.node.toUpper = "B"
  rate : config.sweep = true ∨ KnownRate config.brBw
  coding : 0 ≤ config.codingRate ∧ config.codingRate < 4
  shape : config.shaping ∈ [0x00, 0x05, 0x07, 0x09]
  power : PowerInRange config.powerDbm
  body : 6 ≤ config.payloadLen
  burst : config.packets * config.payloadLen < 2 ^ 31
  window : windowCount lag tick * config.payloadLen < 2 ^ 31

/-- A count whose bytes fit does. -/
theorem Config.Sound.counts (sound : config.Sound lag tick) {count : Nat}
    (fits : count * config.payloadLen < 2 ^ 31) : count < 2 ^ 31 := by
  have body := sound.body
  exact Nat.lt_of_le_of_lt (Nat.le_mul_of_pos_right count (by omega)) fits

theorem Config.Sound.rates (sound : config.Sound lag tick) : ∀ brBw ∈ Code.rates config,
    KnownRate brBw := by
  intro brBw member
  unfold Code.rates at member
  split at member
  · obtain ⟨i, inside, rfl⟩ := List.mem_map.mp member
    have small := List.mem_range.mp inside
    exact ⟨Int.natCast_nonneg i, Int.ofNat_lt.mpr small⟩
  · rename_i single
    obtain rfl := List.mem_singleton.mp member
    exact sound.rate.resolve_left single

/-- What a tally has of the clock, at some time after `start`: every packet took a tick, and its
times were read in order. -/
structure Kept (reading : Nat → Nat) (lag tick t start : Nat) (tally : Code.Tally) (now : Nat) :
    Prop where
  early : t ≤ start
  paced : start + tally.got * tick ≤ now
  got : tally.got ≤ windowCount lag tick
  read : (tally.firstMs = none ∧ tally.lastMs = none) ∨ ∃ first last,
    tally.firstMs = some (reading first / 1000000) ∧
      tally.lastMs = some (reading last / 1000000) ∧ t ≤ first ∧ first ≤ last ∧ last ≤ now

namespace Kept

variable {t start now now' : Nat} {tally : Code.Tally}

theorem later (passed : now ≤ now') (kept : Kept reading lag tick t start tally now) :
    Kept reading lag tick t start tally now' := by
  refine ⟨kept.early, Nat.le_trans kept.paced passed, kept.got, kept.read.imp_right ?_⟩
  rintro ⟨first, last, one, two, since, ordered, shown⟩
  exact ⟨first, last, one, two, since, ordered, Nat.le_trans shown passed⟩

/-- A span fits a machine word, or it was a long run. -/
theorem span (steady : Steady board time lag reading)
    (kept : Kept reading lag tick t start tally now) :
    ∃ span : Nat, tally.span = span ∧ (span < 2 ^ 31 ∨ t + longestNs ≤ now + lag) := by
  unfold Code.Tally.span
  rcases kept.read with ⟨none, -⟩ | ⟨first, last, one, two, since, ordered, shown⟩
  · rw [none]
    exact ⟨0, rfl, Or.inl (by decide)⟩
  · rw [one, two]
    dsimp only
    split
    · exact ⟨0, rfl, Or.inl (by decide)⟩
    · have inOrder := Nat.div_le_div_right (c := 1000000) (steady.forward _ _ ordered)
      have behind := steady.behind first
      have ahead := steady.ahead last
      refine ⟨reading last / 1000000 - reading first / 1000000, (Int.natCast_sub inOrder).symm, ?_⟩
      unfold longestNs
      omega

/-- A packet is counted, at a look within the window. -/
theorem count {look : Nat} (positive : 0 < tick)
    (inside : tally.got * tick < Code.windowS * 1000000000 + lag)
    (kept : Kept reading lag tick t start tally look)
    (passed : start + (tally.got + 1) * tick ≤ look) (shown : look ≤ now) :
    Kept reading lag tick t start { tally with
      got := tally.got + 1
      firstMs := some (tally.firstMs.getD (reading look / 1000000))
      lastMs := some (reading look / 1000000) } now := by
  refine ⟨kept.early, Nat.le_trans passed shown, ?_, Or.inr ?_⟩
  · exact Nat.succ_le_succ ((Nat.le_div_iff_mul_le positive).mpr (Nat.le_of_lt inside))
  rcases kept.read with ⟨none, -⟩ | ⟨first, last, one, two, since, ordered, read⟩
  · refine ⟨look, look, ?_, rfl, ?_, Nat.le_refl _, shown⟩
    · rw [none]
      rfl
    · exact Nat.le_trans kept.early (Nat.le_of_add_right_le passed)
  · refine ⟨first, look, ?_, rfl, since, Nat.le_trans ordered read, shown⟩
    rw [one]
    rfl

end Kept

section Timed

variable (clocked : Clocked board time lag) (steady : Steady board time lag reading)

include steady in
/-- A look at the clock shows what it reads at a time between the times around it. -/
theorem now_reads {holds : Nat → Prop} {exc : Raise ε → Node σ → Prop}
    (lasts : ∀ now later, now ≤ later → holds now → holds later) :
    Triple (fun n => holds (timeAt time n)) board.now
      (fun now n => ∃ look, (now = reading look ∧ holds look) ∧ look ≤ timeAt time n) exc := by
  intro n before
  refine ⟨fun now n' looks => ?_, fun e n' raised => absurd raised not_throws_act⟩
  obtain ⟨same, -⟩ := returns_onBoard.mp looks
  obtain ⟨look, since, shown, value⟩ := steady.reads n.board
  rw [same] at shown value
  exact ⟨look, ⟨value, lasts _ _ since before⟩, shown⟩

include clocked

theorem say_prudent (line : String) : Prudent time lag (board.say line) :=
  .of (.onBoard (clocked.print line)) blameless_act

section Rates

variable (words : board.python.Words)

include words

omit clocked in
theorem describe_prudent {brBw : Int} (known : KnownRate brBw) :
    Prudent time lag (Code.describe board brBw) :=
  .of (.describe brBw) (describe_blameless words known)

theorem begin_prudent (sound : config.Sound lag tick) {brBw : Int} (known : KnownRate brBw) :
    Prudent time lag (begin board fuel (Code.settings config brBw)) := by
  have accepted := modulation_accepted words known sound.coding sound.shape
  exact .of (begin_takes clocked _) (begin_blameless sound.power accepted)

omit words in
theorem sends_count (sound : config.Sound lag tick) (t : Nat) :
    Triple (fun n => t ≤ timeAt time n)
      ((List.range config.packets).foldlM (Code.sendNext board fuel config) 0)
      (fun sent n => sent ≤ config.packets ∧ t ≤ timeAt time n) (Excused time lag t) := by
  have each : ∀ done seq rest sent, List.range config.packets = done ++ seq :: rest →
      Triple (fun n => sent ≤ done.length ∧ t ≤ timeAt time n)
        (Code.sendNext board fuel config sent seq)
        (fun sent' n => sent' ≤ (done ++ [seq]).length ∧ t ≤ timeAt time n)
        (Excused time lag t) := by
    intro done seq rest sent _
    rw [List.length_append, List.length_singleton]
    have packs : Triple (fun n => sent ≤ done.length ∧ t ≤ timeAt time n)
        (Code.packet config seq : Py ε σ (List UInt8))
        (fun _ n => sent ≤ done.length ∧ t ≤ timeAt time n) (Excused time lag t) := by
      unfold Code.packet
      split
      · rename_i short
        exact absurd sound.body (Nat.not_le.mpr short)
      · exact .pure fun _ holds => holds
    apply packs.bind
    intro data
    have goes : Prudent time lag (transmit board fuel data 1000) :=
      .of (transmit_takes clocked data 1000) (transmit_blameless data 1000)
    apply (Triple.frame fun _ => goes t).bind
    intro ok
    cases ok with
    | true => exact .pure fun _ holds => ⟨Nat.succ_le_succ holds.1, holds.2⟩
    | false => exact .pure fun _ holds => ⟨Nat.le_succ_of_le holds.1, holds.2⟩
  have all := Triple.foldlM (fun done sent n => sent ≤ done.length ∧ t ≤ timeAt time n) each 0
  rw [List.length_range] at all
  exact all.mono (fun _ later => ⟨Nat.le_refl _, later⟩) (fun _ _ => id) fun _ _ => id

include steady in
/-- A burst does not fail of itself. -/
theorem burst_prudent (sound : config.Sound lag tick) {brBw : Int} (known : KnownRate brBw) :
    Prudent time lag (Code.transmit board fuel config brBw) := by
  intro t
  have lasts (since : Nat) : ∀ now later, now ≤ later → since ≤ now → since ≤ later :=
    fun _ _ later early => Nat.le_trans early later
  unfold Code.transmit
  apply (begin_prudent clocked words sound known t).bind
  intro _
  apply (describe_prudent words known t).bind
  intro name
  apply (say_prudent clocked _ t).bind
  intro _
  apply (now_reads steady (lasts t)).bind
  intro started
  -- The time of the first look, from which the packets are counted.
  refine Triple.ofExists fun begun => ?_
  have sends : t ≤ begun → Triple (fun n => begun ≤ timeAt time n)
      ((List.range config.packets).foldlM (Code.sendNext board fuel config) 0)
      (fun sent n => sent ≤ config.packets ∧ begun ≤ timeAt time n) (Excused time lag t) := by
    intro early
    exact (sends_count clocked sound begun).mono (fun _ => id) (fun _ _ => id)
      fun _ _ excused => excused.since early
  apply (Triple.frame fun early => sends early.2).bind
  intro sent
  apply (Triple.frame fun _ => Triple.frame fun _ => now_reads steady (lasts begun)).bind
  intro now
  have reports (line : String) : Triple
      (fun n => (started = reading begun ∧ t ≤ begun) ∧ sent ≤ config.packets ∧
        ∃ look, (now = reading look ∧ begun ≤ look) ∧ look ≤ timeAt time n)
      (board.say line) (fun _ n => t ≤ timeAt time n) (Excused time lag t) := by
    refine (say_prudent clocked line t).mono ?_ (fun _ _ => id) fun _ _ => id
    rintro n ⟨⟨-, early⟩, -, look, ⟨-, later⟩, shown⟩
    exact Nat.le_trans early (Nat.le_trans later shown)
  have rates : ∀ n, ((started = reading begun ∧ t ≤ begun) ∧ sent ≤ config.packets ∧
        ∃ look, (now = reading look ∧ begun ≤ look) ∧ look ≤ timeAt time n) →
      (Module.modFlrcGoodputBps board.python ↑(sent * config.payloadLen)
        (((now : Nat) - started : Int).tdiv 1000000)).isOk = true ∨
        t + longestNs ≤ timeAt time n + lag := by
    rintro n ⟨⟨rfl, early⟩, few, look, ⟨rfl, later⟩, shown⟩
    have inOrder := steady.forward _ _ later
    have behind := steady.behind begun
    have ahead := steady.ahead look
    have whole : ((reading look : Int) - reading begun).tdiv 1000000 =
        ((reading look - reading begun) / 1000000 : Nat) := by
      rw [← Int.natCast_sub inOrder]
      exact Int.ofNat_tdiv _ _
    rw [whole]
    by_cases brief : (reading look - reading begun) / 1000000 < 2 ^ 31
    · have small := Nat.lt_of_le_of_lt (Nat.mul_le_mul_right config.payloadLen few) sound.burst
      exact Or.inl (goodput_accepted words small brief)
    · refine Or.inr ?_
      unfold longestNs
      omega
  apply (native_excused _ rates).bind
  intro bps
  apply (reports _).bind
  intro _
  exact .pure fun _ => id

/-- The lines of the table are of known rates. -/
def Known (results : List Code.Line) : Prop := ∀ line ∈ results, KnownRate line.brBw

theorem lines_prudent {results : List Code.Line} (named : Known results) :
    Prudent time lag (results.forM (Code.printLine board)) := by
  intro t
  induction results with
  | nil => exact .pure fun _ later => later
  | cons line rest ih =>
    have known := named line List.mem_cons_self
    have prints : Triple (fun n => t ≤ timeAt time n) (Code.printLine board line)
        (fun _ n => t ≤ timeAt time n) (Excused time lag t) := by
      unfold Code.printLine
      apply (describe_prudent words known t).bind
      intro name
      exact say_prudent clocked _ t
    apply prints.bind
    intro _
    exact ih fun line' member => named line' (.tail _ member)

theorem table_prudent (role : String) {results : List Code.Line} (named : Known results) :
    Prudent time lag (Code.table board role results) := by
  intro t
  unfold Code.table
  split
  · apply (say_prudent clocked "" t).bind
    intro _
    apply (say_prudent clocked "rate            PER     goodput" t).bind
    intro _
    exact lines_prudent clocked words named t
  · exact .pure fun _ later => later

end Rates

section Receiving

variable (paced : Paced board time tick)

include steady paced

/-- A look at the clock within the window leaves time for one more packet. -/
theorem now_kept (t start : Nat) (tally : Code.Tally) :
    Triple (fun n => Kept reading lag tick t start tally (timeAt time n)) board.now
      (fun now n => (now < reading start + Code.windowS * 1000000000 →
          tally.got * tick < Code.windowS * 1000000000 + lag) ∧
        Kept reading lag tick t start tally (timeAt time n) ∧
          start + (tally.got + 1) * tick ≤ timeAt time n) (Excused time lag t) := by
  intro n kept
  refine ⟨fun now n' looks => ?_, fun e n' raised => absurd raised not_throws_act⟩
  obtain ⟨ticks, -, behind⟩ := now_shows clocked looks
  obtain ⟨same, -⟩ := returns_onBoard.mp looks
  have step := paced.takes n.board
  rw [same] at step
  change timeAt time n + tick ≤ timeAt time n' at step
  have ran := kept.paced
  have ahead := steady.ahead start
  refine ⟨fun inside => by omega, kept.later (Nat.le_of_lt ticks), ?_⟩
  rw [Nat.add_mul, Nat.one_mul]
  omega

theorem receiveRound_keeps (t start : Nat) (tally : Code.Tally) :
    Triple (fun n => Kept reading lag tick t start tally (timeAt time n))
      (Code.receiveRound board fuel (reading start + Code.windowS * 1000000000) tally)
      (fun out n => out.elim (Kept reading lag tick t start · (timeAt time n))
        (Kept reading lag tick t start · (timeAt time n))) (Excused time lag t) := by
  unfold Code.receiveRound
  apply (now_kept clocked steady paced t start tally).bind
  intro now
  split
  · rename_i inside
    have lasts : ∀ now later, now ≤ later →
        (Kept reading lag tick t start tally now ∧ start + (tally.got + 1) * tick ≤ now) →
        Kept reading lag tick t start tally later ∧ start + (tally.got + 1) * tick ≤ later :=
      fun _ _ passed holds => ⟨holds.1.later passed, Nat.le_trans holds.2 passed⟩
    have polls : Prudent time lag (poll board fuel) := .of (poll_takes clocked) poll_blameless
    have since : ∀ now, (Kept reading lag tick t start tally now ∧
        start + (tally.got + 1) * tick ≤ now) → t ≤ now :=
      fun _ holds => Nat.le_trans holds.1.early (Nat.le_of_add_right_le holds.2)
    apply (Triple.frame fun _ => polls.keeps lasts since).bind
    intro out
    split
    · exact .pure fun _ holds => holds.2.1
    · exact .pure fun _ holds =>
        ⟨holds.2.1.early, holds.2.1.paced, holds.2.1.got, holds.2.1.read⟩
    · split
      · exact .pure fun _ holds => holds.2.1
      · apply (Triple.frame fun _ => now_reads steady lasts).bind
        intro now'
        refine .pure fun n holds => ?_
        obtain ⟨within, look, ⟨rfl, kept, passed⟩, shown⟩ := holds
        exact kept.count paced.positive (within inside) passed shown
  · exact .pure fun _ holds => holds.2.1

variable (words : board.python.Words)

include words

/-- A window of the receiver does not fail of itself either. -/
theorem receive_prudent (sound : config.Sound lag tick) {brBw : Int} (known : KnownRate brBw) :
    Prudent time lag (Code.receive board fuel config brBw) := by
  intro t
  have starts : Prudent time lag (startReceive board fuel) :=
    .of (startReceive_takes clocked) startReceive_blameless
  unfold Code.receive
  apply (begin_prudent clocked words sound known t).bind
  intro _
  apply (starts t).bind
  intro _
  apply (describe_prudent words known t).bind
  intro name
  apply (say_prudent clocked _ t).bind
  intro _
  apply (now_reads steady fun _ _ later early => Nat.le_trans early later).bind
  intro now
  refine Triple.ofExists fun start => ?_
  let kept (tally : Code.Tally) (n : Node σ) := Kept reading lag tick t start tally (timeAt time n)
  have loop (tally : Code.Tally) : Triple (kept tally)
      (whileLoop (Code.receiveRound board fuel (reading start + Code.windowS * 1000000000)) fuel
        tally) kept (Excused time lag t) :=
    .whileLoop kept (receiveRound_keeps clocked steady paced t start) fuel tally
  have window : Triple (fun n => (now = reading start ∧ t ≤ start) ∧ start ≤ timeAt time n)
      (whileLoop (Code.receiveRound board fuel (now + Code.windowS * 1000000000)) fuel
        ⟨0, 0, none, none⟩) kept (Excused time lag t) := by
    rintro n ⟨⟨rfl, early⟩, shown⟩
    refine loop _ n ⟨early, ?_, Nat.zero_le _, Or.inl ⟨rfl, rfl⟩⟩
    rw [Nat.zero_mul]
    exact shown
  apply window.bind
  intro tally
  have reports (line : String) :
      Triple (fun n => Kept reading lag tick t start tally (timeAt time n))
        (board.say line) (fun _ n => t ≤ timeAt time n) (Excused time lag t) := by
    refine (say_prudent clocked line t).mono (fun n kept => ?_) (fun _ _ => id) fun _ _ => id
    exact Nat.le_trans kept.early (Nat.le_of_add_right_le kept.paced)
  have filled {m : Node σ} (kept : Kept reading lag tick t start tally (timeAt time m)) :
      tally.got * config.payloadLen < 2 ^ 31 :=
    Nat.lt_of_le_of_lt (Nat.mul_le_mul_right _ kept.got) sound.window
  have rated : ∀ m, Kept reading lag tick t start tally (timeAt time m) →
      (Module.modFlrcPerPermille board.python config.packets tally.got).isOk = true ∨
        t + longestNs ≤ timeAt time m + lag := fun m kept =>
    Or.inl (errorRate_accepted words (sound.counts sound.burst) (sound.counts (filled kept)))
  have timed : ∀ m, Kept reading lag tick t start tally (timeAt time m) →
      (Module.modFlrcGoodputBps board.python ↑(tally.got * config.payloadLen)
        tally.span).isOk = true ∨ t + longestNs ≤ timeAt time m + lag := by
    intro m kept
    obtain ⟨span, same, brief⟩ := kept.span steady
    rw [same]
    exact brief.imp_left (goodput_accepted words (filled kept))
  apply (native_excused _ rated).bind
  intro per
  apply (native_excused _ timed).bind
  intro bps
  apply (reports _).bind
  intro _
  exact .pure fun _ => id

theorem window_prudent (sound : config.Sound lag tick) (role : String)
    {results : List Code.Line} (named : Known results) {brBw : Int} (known : KnownRate brBw)
    (t : Nat) :
    Triple (fun n => t ≤ timeAt time n) (Code.window board fuel config role results brBw)
      (fun out n => Known out ∧ t ≤ timeAt time n) (Excused time lag t) := by
  have looks : Prudent time lag board.now := .of (now_takes clocked) blameless_act
  have idles (windowEnd : Nat) :
      Prudent time lag (whileLoop (Code.idleRound board windowEnd) fuel ()) := by
    refine .of (.whileLoop (fun _ => (now_takes clocked).andThen fun _ => ?_) ())
      (.whileLoop (fun _ _ => True) (fun _ => Triple.bind blameless_act fun _ => ?_) fuel ())
    · split <;> exact .pure _
    · split <;> exact .pure fun _ => id
  unfold Code.window
  apply (looks t).bind
  intro now
  dsimp only
  split
  · apply (burst_prudent clocked steady words sound known t).bind
    intro sent
    apply (idles _ t).bind
    intro _
    exact .pure fun _ later => ⟨named, later⟩
  · apply (receive_prudent clocked steady paced words sound known t).bind
    intro counts
    refine .pure fun _ later => ⟨?_, later⟩
    intro line member
    rcases List.mem_append.mp member with earlier | last
    · exact named line earlier
    · rw [List.mem_singleton.mp last]
      exact known

theorem windows_prudent (sound : config.Sound lag tick) (role : String) (t : Nat) :
    Triple (fun n => t ≤ timeAt time n)
      ((Code.rates config).foldlM (Code.window board fuel config role) [])
      (fun results n => Known results ∧ t ≤ timeAt time n) (Excused time lag t) := by
  have each : ∀ done brBw rest results, Code.rates config = done ++ brBw :: rest →
      Triple (fun n => Known results ∧ t ≤ timeAt time n)
        (Code.window board fuel config role results brBw)
        (fun out n => Known out ∧ t ≤ timeAt time n) (Excused time lag t) := by
    rintro done brBw rest results split n ⟨named, later⟩
    have known : KnownRate brBw := sound.rates brBw (by rw [split]; simp)
    exact window_prudent clocked steady paced words sound role named known t n later
  have none : Known [] := fun _ member => absurd member List.not_mem_nil
  exact (Triple.foldlM (fun _ results n => Known results ∧ t ≤ timeAt time n) each []).mono
    (fun _ later => ⟨none, later⟩) (fun _ _ => id) fun _ _ => id

theorem session_prudent (sound : config.Sound lag tick) (role : String) (t : Nat) :
    Triple (fun n => t ≤ timeAt time n) (Code.session board fuel config role)
      (fun results n => Known results ∧ t ≤ timeAt time n) (Excused time lag t) := by
  have resets : Prudent time lag (reset board fuel) := .of (reset_takes clocked) reset_blameless
  have asks : Prudent time lag (version board fuel) :=
    .of (read_takes clocked _ _ _) (read_blameless (by decide) 4 [])
  unfold Code.session
  apply (resets t).bind
  intro _
  apply (asks t).bind
  intro chip
  apply (say_prudent clocked _ t).bind
  intro _
  exact windows_prudent clocked steady paced words sound role t

theorem run_prudent (sound : config.Sound lag tick) :
    Prudent time lag (Code.run board fuel config) := by
  intro t
  have makes : Prudent time lag (init board fuel) := .of (init_takes clocked) init_blameless
  unfold Code.run
  dsimp only
  split
  · rename_i neither
    exact absurd sound.role fun either => either.elim neither.1 neither.2
  apply (say_prudent clocked _ t).bind
  intro _
  apply (makes t).bind
  intro _
  apply (session_prudent clocked steady paced words sound _ t).bind
  intro results n ⟨named, later⟩
  exact table_prudent clocked words _ named t n later

end Receiving

end Timed

/-- The test as it is shipped is sound where a look at the clock takes a microsecond, and the
clock lags by no more than a second. -/
theorem config_sound (slow : 1000 ≤ tick) (close : lag ≤ 1000000000) :
    Link.config.Sound lag tick where
  role := Or.inl (by decide +kernel)
  rate := Or.inr ⟨by decide, by decide⟩
  coding := by decide
  shape := by decide
  power := ⟨by decide, by decide⟩
  body := by decide
  burst := by decide
  window := by
    have few : (Code.windowS * 1000000000 + lag) / tick ≤
        (Code.windowS * 1000000000 + 1000000000) / 1000 :=
      Nat.div_le_div (Nat.add_le_add_left close _) slow (by decide)
    have whole : (Code.windowS * 1000000000 + 1000000000) / 1000 = 13000000 := by decide
    change (_ + 1) * 64 < 2 ^ 31
    omega

/-- A run with a sound configuration does not fail of itself. On a clock that does not go back,
in a run that is not longer than its milliseconds fit a machine word, whatever BUSY, the bus and
the radio do, an exception that ends it is BUSY that stayed high, a command that nothing
answered, or what a call on the SPI object raised: never an argument that is refused, an overflow
or a subscript. The configuration as it is shipped is sound. -/
theorem run_fails_outside (clocked : Clocked board time lag)
    (steady : Steady board time lag reading) (paced : Paced board time tick)
    (words : board.python.Words) :
    (∀ (config : Config) (n n' : Node σ) (e : Raise ε), config.Sound lag tick →
      timeAt time n' + lag < timeAt time n + longestNs →
      Throws (Code.run board fuel config) n e n' → e.Outside) ∧
    (1000 ≤ tick → lag ≤ 1000000000 → Link.config.Sound lag tick) := by
  refine ⟨?_, config_sound⟩
  intro config n n' e sound brief raised
  have prudent : Prudent time lag (Code.run board fuel config) :=
    run_prudent clocked steady paced words sound
  have excused := (prudent (timeAt time n) n (Nat.le_refl _)).2 e n' raised
  exact excused.resolve_right (Nat.not_le.mpr brief)

namespace Desk

/-- The board with BUSY stuck, and a clock that shows whole milliseconds. -/
def stuck : Board Unit Desk := { Desk.board with
  busyValue := fun d => (true, d.tick)
  monotonicNs := fun d =>
    (d.clock / 1000000 * 1000000, { d.tick with clock := d.clock + 333333333 }) }

theorem stuck_clocked : Clocked stuck clock 999999 where
  ticks := clocked.ticks
  shows d := by
    change d.clock / 1000000 * 1000000 ≤ d.clock + 333333333
    omega
  behind d := by
    change d.clock ≤ d.clock / 1000000 * 1000000 + 999999
    omega
  sleepMs := clocked.sleepMs
  busyValue _ := Nat.le_refl _
  setCsValue := clocked.setCsValue
  setResetValue := clocked.setResetValue
  spiWrite := clocked.spiWrite
  spiReadinto := clocked.spiReadinto
  print := clocked.print
  tryLock := clocked.tryLock

theorem stuck_steady : Steady stuck clock 999999 (fun t => t / 1000000 * 1000000) where
  forward _ _ before := Nat.mul_le_mul_right _ (Nat.div_le_div_right before)
  ahead t := Nat.div_mul_le_self t 1000000
  behind t := by omega
  reads d := ⟨d.clock, Nat.le_refl _, Nat.le_add_right _ _, rfl⟩

end Desk

theorem run_fails_outside_stuck :
    ∃ n', Throws (Code.run Desk.stuck 50 Link.config) (Desk.node []) (.radioError busyStuck) n' ∧
      (Raise.radioError busyStuck : Raise Unit).Outside := by
  have raised : Throws (Code.run Desk.stuck 50 Link.config) (Desk.node [])
      (.radioError busyStuck) _ := throws_run (by decide +kernel)
  have pace : Paced Desk.stuck Desk.clock 333333333 := ⟨by decide, fun _ => Nat.le_refl _⟩
  obtain ⟨fails, sound⟩ := run_fails_outside Desk.stuck_clocked Desk.stuck_steady pace
    MicroPython.raising_words
  exact ⟨_, raised, fails _ _ _ _ (sound (by decide) (by decide)) (by decide +kernel) raised⟩

end Lr2021.Link
