import Lr2021.Link.LinkTest
import Lr2021.Link.Transport
import Lr2021.Link.Bench

set_option autoImplicit false

/-! A clock that moves on, and why the link test comes to an end on it. -/
namespace Lr2021.Link

open Procedure

variable {ε σ α β : Type} {board : Board ε σ} {time : σ → Nat} {lag fuel : Nat} {n n' : Node σ}

/-- A board on which time passes. A look at the clock takes some of it, and shows a time that
is at most `lag` behind; a sleep lasts as long as it says; nothing goes back. -/
structure Clocked (board : Board ε σ) (time : σ → Nat) (lag : Nat) : Prop where
  ticks : ∀ s, time s < time (board.monotonicNs s).2
  shows : ∀ s, (board.monotonicNs s).1 ≤ time (board.monotonicNs s).2
  behind : ∀ s, time s ≤ (board.monotonicNs s).1 + lag
  sleepMs : ∀ ms s, time s + ms * 1000000 ≤ time (board.sleepMs ms s)
  busyValue : ∀ s, time s ≤ time (board.busyValue s).2
  setCsValue : ∀ level s, time s ≤ time (board.setCsValue level s)
  setResetValue : ∀ level s, time s ≤ time (board.setResetValue level s)
  spiWrite : ∀ bytes s, time s ≤ time (board.spiWrite bytes s).2
  spiReadinto : ∀ count s, time s ≤ time (board.spiReadinto count s).2
  print : ∀ line s, time s ≤ time (board.print line s)
  tryLock : ∀ s, time s ≤ time (board.tryLock s).2

theorem Desk.clocked : Clocked Desk.board Desk.clock 0 where
  ticks d := Nat.lt_add_of_pos_right (by decide)
  shows d := Nat.le_add_right _ _
  behind d := Nat.le_refl _
  sleepMs _ _ := Nat.le_refl _
  busyValue _ := Nat.le_refl _
  setCsValue _ _ := Nat.le_refl _
  setResetValue _ _ := Nat.le_refl _
  spiWrite _ _ := Nat.le_refl _
  spiReadinto _ _ := Nat.le_refl _
  print _ _ := Nat.le_refl _
  tryLock _ := Nat.le_refl _

/-- The time at a node. -/
def timeAt (time : σ → Nat) (n : Node σ) : Nat := time n.board

theorem settles_onBoard {f : σ → α × σ} : Settles (onBoard f : Py ε σ α) n := settles_act

theorem readinto_settles (count : Nat) : Settles (board.readinto count) n := by
  apply settles_bind settles_attempt
  intro buf n₁ _
  exact settles_pure

theorem settles_native {r : Except ModuleError α} : Settles (Code.native r : Py ε σ α) n := by
  cases r with
  | error e => exact settles_raise
  | ok value => exact settles_pure

theorem settles_describe (brBw : Int) : Settles (Code.describe board brBw) n := by
  apply settles_bind settles_native
  intro kbps _ _
  apply settles_bind settles_native
  intro khz _ _
  exact settles_pure

/-- One of the next tries for the lock of the SPI object takes it. -/
def Board.Unlocks (board : Board ε σ) : Nat → σ → Prop
  | 0, _ => False
  | tries + 1, s => (board.tryLock s).1 = true ∨ board.Unlocks tries (board.tryLock s).2

/-- The wait for the lock has no deadline. -/
theorem lock_settles_iff :
    Settles (whileLoop (lockRound board) fuel ()) n ↔ board.Unlocks fuel n.board := by
  induction fuel generalizing n with
  | zero => exact ⟨fun settles => absurd rfl settles, False.elim⟩
  | succ fuel ih =>
    let tried : Node σ := { n with board := (board.tryLock n.board).2 }
    have tries : Returns board.lock n (board.tryLock n.board).1 tried := rfl
    rw [Board.Unlocks]
    cases locked : (board.tryLock n.board).1 with
    | true =>
      rw [locked] at tries
      have round : Returns (lockRound board ()) n (.inr ()) tried :=
        returns_bind.mpr ⟨_, _, tries, rfl⟩
      have settles : Settles (whileLoop (lockRound board) (fuel + 1) ()) n :=
        round.settles_iff.mpr settles_pure
      exact iff_of_true settles (Or.inl rfl)
    | false =>
      rw [locked] at tries
      have round : Returns (lockRound board ()) n (.inl ()) tried :=
        returns_bind.mpr ⟨_, _, tries, rfl⟩
      have more : Settles (whileLoop (lockRound board) (fuel + 1) ()) n ↔
          Settles (whileLoop (lockRound board) fuel ()) tried := round.settles_iff
      rw [more, ih, or_iff_right Bool.false_ne_true]

/-- What lets time pass on the board lets it pass at the node. -/
theorem onBoard_passes {f : σ → α × σ} {a : α} (passes : ∀ s, time s ≤ time (f s).2)
    (returned : Returns (onBoard f : Py ε σ α) n a n') : timeAt time n ≤ timeAt time n' := by
  obtain ⟨same, -⟩ := returns_onBoard.mp returned
  have later := passes n.board
  rw [same] at later
  exact later

/-- A loop ends that goes on only up to some time, and takes time to go on. -/
theorem settles_until {body : α → Py ε σ (α ⊕ β)} (time : σ → Nat) (latest : Nat) {a : α}
    (settles : ∀ a m, Settles (body a) m)
    (stays : ∀ a m a' m', Returns (body a) m (.inl a') m' →
      timeAt time m ≤ latest ∧ timeAt time m < timeAt time m')
    (enough : latest + 1 - timeAt time n < fuel) : Settles (whileLoop body fuel a) n := by
  apply whileLoop_settles (fun _ _ => True) (fun _ m => latest + 1 - timeAt time m)
    (fun a m _ => settles a m)
  · intro a m a' m' _ round
    obtain ⟨early, later⟩ := stays a m a' m' round
    exact ⟨True.intro, by omega⟩
  · exact True.intro
  · exact enough

section Settling

variable (clocked : Clocked board time lag)

include clocked

/-- What a look at the clock tells. -/
theorem now_shows {t : Nat} (returned : Returns board.now n t n') :
    timeAt time n < timeAt time n' ∧ t ≤ timeAt time n' ∧ timeAt time n ≤ t + lag := by
  obtain ⟨same, -⟩ := returns_onBoard.mp returned
  have ticks := clocked.ticks n.board
  have shown := clocked.shows n.board
  have behind := clocked.behind n.board
  rw [same] at ticks shown behind
  exact ⟨ticks, shown, behind⟩

theorem waitBusy_settles {timeoutMs : Nat} (enough : timeoutMs * 1000000 + lag + 1 < fuel) :
    Settles (waitBusy board fuel timeoutMs) n := by
  apply settles_bind settles_onBoard
  intro start n₁ looks
  obtain ⟨-, shown, -⟩ := now_shows clocked looks
  apply settles_until time (start + timeoutMs * 1000000 + lag)
  · intro _ m
    apply settles_bind settles_onBoard
    intro high m₁ _
    split
    · apply settles_bind settles_onBoard
      intro t m₂ _
      split
      · exact settles_raise
      · exact settles_pure
    · exact settles_pure
  · intro _ m _ m' round
    obtain ⟨high, m₁, asks, rest⟩ := returns_bind.mp round
    have passes := onBoard_passes clocked.busyValue asks
    split at rest
    · obtain ⟨t, m₂, looks', rest⟩ := returns_bind.mp rest
      obtain ⟨ticks, -, behind⟩ := now_shows clocked looks'
      split at rest
      · exact absurd rest not_returns_raise
      · obtain ⟨-, rfl⟩ := returns_pure.mp rest
        omega
    · cases (returns_pure.mp rest).1
  · omega

/-- Enough for the longest wait of a command. -/
def Enough (lag fuel : Nat) : Prop := 12000000000 + lag + 1 < fuel

variable (enough : Enough lag fuel)

include enough

theorem cmd_settles (opcode : UInt16) (args : List UInt8) :
    Settles (cmd board fuel opcode args) n := by
  unfold Enough at enough
  have ready : Settles (waitBusy board fuel 200) n := waitBusy_settles clocked (by omega)
  apply settles_bind ready
  intro _ n₁ _
  apply settles_bind settles_onBoard
  intro _ n₂ _
  apply settles_bind settles_attempt
  intro _ n₃ _
  exact settles_onBoard

theorem read_settles (opcode : UInt16) (length : Nat) (args : List UInt8) :
    Settles (read board fuel opcode length args) n := by
  have ready {m : Node σ} : Settles (waitBusy board fuel 200) m :=
    waitBusy_settles clocked (by unfold Enough at enough; omega)
  apply settles_bind (cmd_settles clocked enough opcode args)
  intro _ n₁ _
  apply settles_bind ready
  intro _ n₂ _
  apply settles_bind settles_onBoard
  intro _ n₃ _
  apply settles_bind (readinto_settles (statusLen + length))
  intro buf n₄ _
  apply settles_bind settles_onBoard
  intro _ n₅ _
  split
  · exact settles_raise
  · exact settles_pure

theorem readFifo_settles (length : Nat) : Settles (readFifo board fuel length) n := by
  have ready {m : Node σ} : Settles (waitBusy board fuel 200) m :=
    waitBusy_settles clocked (by unfold Enough at enough; omega)
  apply settles_bind ready
  intro _ n₁ _
  apply settles_bind settles_onBoard
  intro _ n₂ _
  apply settles_bind settles_attempt
  intro _ n₃ _
  apply settles_bind (readinto_settles length)
  intro buf n₄ _
  apply settles_bind settles_onBoard
  intro _ n₅ _
  exact settles_pure

theorem irq_settles : Settles (irq board fuel) n := by
  apply settles_bind (read_settles clocked enough cmdGetAndClearIrqStatus 4 [])
  intro b n₁ _
  exact settles_pure

theorem reset_settles : Settles (reset board fuel) n := by
  unfold Enough at enough
  have pulls {level : Bool} {m : Node σ} : Settles (board.nreset level) m := settles_onBoard
  have sleeps {ms : Nat} {m : Node σ} : Settles (board.sleep ms) m := settles_onBoard
  apply settles_bind pulls
  intro _ n₁ _
  apply settles_bind sleeps
  intro _ n₂ _
  apply settles_bind pulls
  intro _ n₃ _
  apply settles_bind sleeps
  intro _ n₄ _
  exact waitBusy_settles clocked (by omega)

theorem setPower_settles (dbm : Int) : Settles (setPower board fuel dbm) n := by
  unfold setPower
  split
  · exact settles_raise
  · apply settles_bind (cmd_settles clocked enough cmdSelPa _)
    intro _ n₁ _
    apply settles_bind (cmd_settles clocked enough cmdSetPaConfig _)
    intro _ n₂ _
    exact cmd_settles clocked enough cmdSetTxParams _

theorem setRfSwitch_settles : Settles (setRfSwitch board fuel) n := by
  apply settles_forM
  rintro ⟨dio, pull, modes⟩ m
  apply settles_bind (cmd_settles clocked enough cmdSetDioFunction _)
  intro _ m₁ _
  exact cmd_settles clocked enough cmdSetDioRfSwitchConfig _

theorem begin_settles (settings : Settings) : Settles (begin board fuel settings) n := by
  have sets (opcode : UInt16) (args : List UInt8) {m : Node σ} :
      Settles (cmd board fuel opcode args) m := cmd_settles clocked enough opcode args
  unfold begin
  split
  · exact settles_raise
  apply settles_bind (reset_settles clocked enough)
  intro _ n₁ _
  apply settles_bind (sets cmdActivatePram _)
  intro _ n₂ _
  apply settles_bind (sets cmdSetStandby _)
  intro _ n₃ _
  apply settles_bind (sets cmdSetPacketType _)
  intro _ n₄ _
  split
  · exact settles_raise
  apply settles_bind (sets cmdSetFlrcModulationParams _)
  intro _ n₅ _
  apply settles_bind (sets cmdSetFlrcPacketParams _)
  intro _ n₆ _
  apply settles_bind (sets cmdSetFlrcSyncword _)
  intro _ n₇ _
  apply settles_bind (sets cmdSetRfFrequency _)
  intro _ n₈ _
  apply settles_bind (sets cmdCalibrate _)
  intro _ n₉ _
  apply settles_bind (setPower_settles clocked enough settings.powerDbm)
  intro _ n₁₀ _
  apply settles_bind (setRfSwitch_settles clocked enough)
  intro _ n₁₁ _
  apply settles_bind (sets cmdSetDioIrqConfig _)
  intro _ n₁₂ _
  exact settles_act

theorem startReceive_settles : Settles (startReceive board fuel) n := by
  apply settles_bind (cmd_settles clocked enough cmdClearRxFifo _)
  intro _ n₁ _
  exact cmd_settles clocked enough cmdSetRx _

theorem poll_settles : Settles (poll board fuel) n := by
  apply settles_bind (irq_settles clocked enough)
  intro flags n₁ _
  split
  · apply settles_bind (cmd_settles clocked enough cmdClearRxFifo _)
    intro _ n₂ _
    exact settles_pure
  split
  · exact settles_pure
  apply settles_bind (read_settles clocked enough cmdGetRxFifoLevel 2 [])
  intro level n₂ _
  apply settles_bind settles_act
  intro payloadLen n₃ _
  dsimp only
  split
  · exact settles_pure
  · apply settles_bind (readFifo_settles clocked enough _)
    intro bytes n₄ _
    exact settles_pure

end Settling

/-- A procedure that returns has taken at least so long. -/
def Takes (time : σ → Nat) (span : Nat) (c : Py ε σ α) : Prop :=
  ∀ t, Triple (fun n => t ≤ timeAt time n) c (fun _ n => t + span ≤ timeAt time n) fun _ _ => True

namespace Takes

variable {c : Py ε σ α} {next : α → Py ε σ β} {span span' : Nat}

theorem passed (takes : Takes time span c) {a : α} (returned : Returns c n a n') :
    timeAt time n + span ≤ timeAt time n' := (takes _ n (Nat.le_refl _)).1 a n' returned

theorem bind (first : Takes time span c) (later : ∀ a, Takes time span' (next a)) :
    Takes time (span + span') (c >>= next) := by
  intro t
  refine (first t).bind fun a => ?_
  rw [← Nat.add_assoc]
  exact later a (t + span)

/-- Where the rest is not known to take long. -/
theorem andThen (first : Takes time span c) (later : ∀ a, Takes time 0 (next a)) :
    Takes time span (c >>= next) := first.bind later

theorem pure (a : α) : Takes time 0 (Pure.pure a : Py ε σ α) := fun _ => .pure fun _ => id

theorem raise (e : Raise ε) : Takes time span (Procedure.raise e : Py ε σ α) :=
  fun _ => .raise fun _ _ => True.intro

theorem onBoard {f : σ → α × σ} (passes : ∀ s, time s ≤ time (f s).2) :
    Takes time 0 (Link.onBoard f : Py ε σ α) :=
  fun _ => .act fun n later => Nat.le_trans later (passes n.board)

theorem onBus {f : σ → Except ε α × σ} (passes : ∀ s, time s ≤ time (f s).2) :
    Takes time 0 (Link.onBus f) := by
  intro t n later
  constructor
  · intro a n' returned
    obtain ⟨same, -⟩ := returns_onBus.mp returned
    have passed := passes n.board
    rw [same] at passed
    exact Nat.le_trans later passed
  · exact fun _ _ _ => True.intro

theorem own {f : Node σ → α × Node σ} (same : ∀ n, (f n).2.board = n.board) :
    Takes time 0 (act f : Py ε σ α) := by
  refine fun t => .act fun n later => ?_
  rw [timeAt, same]
  exact later

theorem whileLoop {body : α → Py ε σ (α ⊕ β)} (round : ∀ a, Takes time 0 (body a)) (a : α) :
    Takes time 0 (Procedure.whileLoop body fuel a) := by
  intro t
  refine .whileLoop (fun _ n => t ≤ timeAt time n) (fun a => ?_) fuel a
  refine (round a t).mono (fun _ => id) ?_ fun _ _ => id
  rintro (a' | b) n later <;> exact later

theorem forM {body : α → Py ε σ PUnit} (each : ∀ a, Takes time 0 (body a)) (list : List α) :
    Takes time 0 (list.forM body) := fun t => .forM (fun a => each a t) list

theorem native (r : Except ModuleError α) : Takes time 0 (Code.native r : Py ε σ α) := by
  cases r with
  | error e => exact raise (.native e)
  | ok value => exact pure value

theorem describe (brBw : Int) : Takes time 0 (Code.describe board brBw) := by
  apply (native _).andThen
  intro kbps
  apply (native _).andThen
  intro khz
  exact pure _

theorem foldlM {body : β → α → Py ε σ β} (each : ∀ b a, Takes time 0 (body b a)) (list : List α)
    (b : β) : Takes time 0 (list.foldlM body b) :=
  fun t => .foldlM (fun _ _ n => t ≤ timeAt time n) (fun _ a _ b _ => each b a t) b

end Takes

section Passing

variable (clocked : Clocked board time lag)

include clocked

theorem now_takes : Takes time 0 board.now := .onBoard fun s => Nat.le_of_lt (clocked.ticks s)

theorem waitBusy_takes (timeoutMs : Nat) : Takes time 0 (waitBusy board fuel timeoutMs) := by
  apply (now_takes clocked).andThen
  intro start
  refine .whileLoop (fun _ => ?_) ()
  apply (Takes.onBoard clocked.busyValue).andThen
  intro high
  split
  · apply (now_takes clocked).andThen
    intro t
    split
    · exact .raise _
    · exact .pure _
  · exact .pure _

theorem cs_takes (level : Bool) : Takes time 0 (board.cs level) :=
  .onBoard (clocked.setCsValue level)

theorem write_takes (bytes : List UInt8) : Takes time 0 (board.write bytes) :=
  .onBus (clocked.spiWrite bytes)

theorem readinto_takes (count : Nat) : Takes time 0 (board.readinto count) := by
  apply (Takes.onBus (clocked.spiReadinto count)).andThen
  intro buf
  exact .pure _

theorem cmd_takes (opcode : UInt16) (args : List UInt8) :
    Takes time 0 (cmd board fuel opcode args) := by
  apply (waitBusy_takes clocked 200).andThen
  intro _
  apply (cs_takes clocked false).andThen
  intro _
  apply (write_takes clocked (frame opcode args)).andThen
  intro _
  exact cs_takes clocked true

theorem read_takes (opcode : UInt16) (length : Nat) (args : List UInt8) :
    Takes time 0 (read board fuel opcode length args) := by
  apply (cmd_takes clocked opcode args).andThen
  intro _
  apply (waitBusy_takes clocked 200).andThen
  intro _
  apply (cs_takes clocked false).andThen
  intro _
  apply (readinto_takes clocked (statusLen + length)).andThen
  intro buf
  apply (cs_takes clocked true).andThen
  intro _
  split
  · exact .raise _
  · exact .pure _

theorem irq_takes : Takes time 0 (irq board fuel) := by
  apply (read_takes clocked cmdGetAndClearIrqStatus 4 []).andThen
  intro b
  exact .pure _

theorem readFifo_takes (length : Nat) : Takes time 0 (readFifo board fuel length) := by
  apply (waitBusy_takes clocked 200).andThen
  intro _
  apply (cs_takes clocked false).andThen
  intro _
  apply (write_takes clocked (frame cmdReadRxFifo [])).andThen
  intro _
  apply (readinto_takes clocked length).andThen
  intro buf
  apply (cs_takes clocked true).andThen
  intro _
  exact .pure _

theorem poll_takes : Takes time 0 (poll board fuel) := by
  apply (irq_takes clocked).andThen
  intro flags
  split
  · apply (cmd_takes clocked cmdClearRxFifo _).andThen
    intro _
    exact .pure _
  split
  · exact .pure _
  apply (read_takes clocked cmdGetRxFifoLevel 2 []).andThen
  intro level
  apply (Takes.own fun _ => rfl).andThen
  intro payloadLen
  dsimp only
  split
  · exact .pure _
  · apply (readFifo_takes clocked _).andThen
    intro bytes
    exact .pure _

/-- The two sleeps of a reset. -/
def resetNs : Nat := 25000000

theorem reset_takes : Takes time resetNs (reset board fuel) := by
  have sleeps (ms : Nat) : Takes time (ms * 1000000) (board.sleep ms) :=
    fun _ => .act fun n later => Nat.le_trans (Nat.add_le_add_right later _)
      (clocked.sleepMs ms n.board)
  have pulls (level : Bool) : Takes time 0 (board.nreset level) :=
    .onBoard (clocked.setResetValue level)
  have waits : Takes time 0 (waitBusy board fuel 500) := waitBusy_takes clocked 500
  have spans : resetNs = 0 + (5 * 1000000 + (0 + (20 * 1000000 + 0))) := rfl
  rw [spans]
  apply (pulls false).bind
  intro _
  apply (sleeps 5).bind
  intro _
  apply (pulls true).bind
  intro _
  apply (sleeps 20).bind
  intro _
  exact waits

theorem setPower_takes (dbm : Int) : Takes time 0 (setPower board fuel dbm) := by
  unfold setPower
  split
  · exact .raise _
  · apply (cmd_takes clocked cmdSelPa _).andThen
    intro _
    apply (cmd_takes clocked cmdSetPaConfig _).andThen
    intro _
    exact cmd_takes clocked cmdSetTxParams _

theorem setRfSwitch_takes : Takes time 0 (setRfSwitch board fuel) := by
  apply Takes.forM
  rintro ⟨dio, pull, modes⟩
  apply (cmd_takes clocked cmdSetDioFunction _).andThen
  intro _
  exact cmd_takes clocked cmdSetDioRfSwitchConfig _

theorem begin_takes (settings : Settings) : Takes time resetNs (begin board fuel settings) := by
  have sets (opcode : UInt16) (args : List UInt8) : Takes time 0 (cmd board fuel opcode args) :=
    cmd_takes clocked opcode args
  unfold begin
  split
  · exact .raise _
  -- Only the reset is known to take long.
  apply (reset_takes clocked).andThen
  intro _
  apply (sets cmdActivatePram _).andThen
  intro _
  apply (sets cmdSetStandby _).andThen
  intro _
  apply (sets cmdSetPacketType _).andThen
  intro _
  split
  · exact .raise _
  apply (sets cmdSetFlrcModulationParams _).andThen
  intro _
  apply (sets cmdSetFlrcPacketParams _).andThen
  intro _
  apply (sets cmdSetFlrcSyncword _).andThen
  intro _
  apply (sets cmdSetRfFrequency _).andThen
  intro _
  apply (sets cmdCalibrate _).andThen
  intro _
  apply (setPower_takes clocked settings.powerDbm).andThen
  intro _
  apply (setRfSwitch_takes clocked).andThen
  intro _
  apply (sets cmdSetDioIrqConfig _).andThen
  intro _
  exact .own fun _ => rfl

theorem startReceive_takes : Takes time 0 (startReceive board fuel) := by
  apply (cmd_takes clocked cmdClearRxFifo _).andThen
  intro _
  exact cmd_takes clocked cmdSetRx _

theorem init_takes : Takes time 0 (init board fuel) := by
  have locks : Takes time 0 (whileLoop (lockRound board) fuel ()) := by
    refine .whileLoop (fun _ => ?_) ()
    apply (Takes.onBoard clocked.tryLock).andThen
    intro locked
    split <;> exact .pure _
  apply locks.andThen
  intro _
  apply (cs_takes clocked true).andThen
  intro _
  apply (Takes.onBoard (clocked.setResetValue true)).andThen
  intro _
  exact .own fun _ => rfl

theorem transmit_takes (data : List UInt8) (timeoutMs : Nat) :
    Takes time 0 (transmit board fuel data timeoutMs) := by
  apply (cmd_takes clocked cmdClearTxFifo _).andThen
  intro _
  apply (cmd_takes clocked cmdWriteTxFifo _).andThen
  intro _
  apply (cmd_takes clocked cmdSetTx _).andThen
  intro _
  apply (now_takes clocked).andThen
  intro start
  refine .whileLoop (fun _ => ?_) ()
  apply (now_takes clocked).andThen
  intro now
  split
  · apply (irq_takes clocked).andThen
    intro flags
    repeat' split
    all_goals exact .pure _
  · exact .pure _

variable {config : Config}

theorem burst_takes (brBw : Int) :
    Takes time resetNs (Code.transmit board fuel config brBw) := by
  have sends (sent seq : Nat) : Takes time 0 (Code.sendNext board fuel config sent seq) := by
    have packs : Takes time 0 (Code.packet config seq : Py ε σ (List UInt8)) := by
      unfold Code.packet
      split
      · exact .raise _
      · exact .pure _
    apply packs.andThen
    intro data
    apply (transmit_takes clocked data 1000).andThen
    intro ok
    cases ok <;> exact .pure _
  apply (begin_takes clocked (Code.settings config brBw)).andThen
  intro _
  apply (Takes.describe brBw).andThen
  intro name
  apply (Takes.onBoard (clocked.print _)).andThen
  intro _
  apply (now_takes clocked).andThen
  intro started
  apply (Takes.foldlM sends _ _).andThen
  intro sent
  apply (now_takes clocked).andThen
  intro ended
  apply (Takes.native _).andThen
  intro bps
  apply (Takes.onBoard (clocked.print _)).andThen
  intro _
  exact .pure _

end Passing

section Ending

variable (clocked : Clocked board time lag)

include clocked

/-- A loop up to a deadline, as the link test writes it. -/
theorem settles_before {body more : α → Py ε σ (α ⊕ β)} {stop : α → β} {deadline : Nat} {a : α}
    (shape : ∀ a, body a = do
      if (← board.now) < deadline then more a else Pure.pure (.inr (stop a)))
    (settles : ∀ a m, Settles (more a) m) (takes : ∀ a, Takes time 0 (more a))
    (enough : deadline + lag + 1 - timeAt time n < fuel) : Settles (whileLoop body fuel a) n := by
  apply settles_until time (deadline + lag) _ _ enough
  · intro a m
    rw [shape]
    apply settles_bind settles_onBoard
    intro t m₁ _
    split
    · exact settles a m₁
    · exact settles_pure
  · intro a m a' m' round
    rw [shape] at round
    obtain ⟨t, m₁, looks, rest⟩ := returns_bind.mp round
    obtain ⟨ticks, -, behind⟩ := now_shows clocked looks
    split at rest
    · have later := (takes a).passed rest
      omega
    · cases (returns_pure.mp rest).1

variable (enough : Enough lag fuel) {config : Config}

include enough

theorem transmit_settles (data : List UInt8) : Settles (transmit board fuel data 1000) n := by
  apply settles_bind (cmd_settles clocked enough cmdClearTxFifo _)
  intro _ n₁ _
  apply settles_bind (cmd_settles clocked enough cmdWriteTxFifo _)
  intro _ n₂ _
  apply settles_bind (cmd_settles clocked enough cmdSetTx _)
  intro _ n₃ _
  apply settles_bind settles_onBoard
  intro now m looks
  obtain ⟨-, shown, -⟩ := now_shows clocked looks
  apply settles_before clocked (fun _ => rfl)
  · intro _ m
    apply settles_bind (irq_settles clocked enough)
    intro flags m₁ _
    repeat' split
    all_goals exact settles_pure
  · intro _
    apply (irq_takes clocked).andThen
    intro flags
    repeat' split
    all_goals exact .pure _
  · unfold Enough at enough
    omega

theorem sendNext_settles (sent seq : Nat) :
    Settles (Code.sendNext board fuel config sent seq) n := by
  have packs : Settles (Code.packet config seq : Py ε σ (List UInt8)) n := by
    unfold Code.packet
    split
    · exact settles_raise
    · exact settles_pure
  apply settles_bind packs
  intro data n₁ _
  apply settles_bind (transmit_settles clocked enough data)
  intro ok n₂ _
  cases ok <;> exact settles_pure

theorem burst_settles (brBw : Int) : Settles (Code.transmit board fuel config brBw) n := by
  have sends (sent seq : Nat) (m : Node σ) :
      Settles (Code.sendNext board fuel config sent seq) m :=
    sendNext_settles clocked enough sent seq
  apply settles_bind (begin_settles clocked enough (Code.settings config brBw))
  intro _ n₁ _
  apply settles_bind (settles_describe brBw)
  intro name n₂ _
  apply settles_bind settles_onBoard
  intro _ n₃ _
  apply settles_bind settles_onBoard
  intro started n₄ _
  apply settles_bind (settles_foldlM sends _ _)
  intro sent n₅ _
  apply settles_bind settles_onBoard
  intro ended n₆ _
  apply settles_bind settles_native
  intro bps n₇ _
  apply settles_bind settles_onBoard
  intro _ n₈ _
  exact settles_pure

/-- The loop of a window, from the look at the clock that sets its deadline. -/
theorem receiveLoop_settles {now : Nat} (shown : now ≤ timeAt time n) (tally : Code.Tally) :
    Settles (whileLoop
      (Code.receiveRound board fuel (now + Code.windowS * 1000000000)) fuel tally) n := by
  apply settles_before clocked (fun _ => rfl)
  · intro tally m
    apply settles_bind (poll_settles clocked enough)
    intro out m₁ _
    split
    · exact settles_pure
    · exact settles_pure
    · split
      · exact settles_pure
      · apply settles_bind settles_onBoard
        intro lastMs m₂ _
        exact settles_pure
  · intro tally
    apply (poll_takes clocked).andThen
    intro out
    split
    · exact .pure _
    · exact .pure _
    · split
      · exact .pure _
      · apply (now_takes clocked).andThen
        intro lastMs
        exact .pure _
  · unfold Enough at enough
    rw [Code.windowS]
    omega

theorem receive_settles (brBw : Int) : Settles (Code.receive board fuel config brBw) n := by
  apply settles_bind (begin_settles clocked enough (Code.settings config brBw))
  intro _ n₁ _
  apply settles_bind (startReceive_settles clocked enough)
  intro _ n₂ _
  apply settles_bind (settles_describe brBw)
  intro name n₃ _
  apply settles_bind settles_onBoard
  intro _ n₄ _
  apply settles_bind settles_onBoard
  intro now n₅ looks
  obtain ⟨-, shown, -⟩ := now_shows clocked looks
  apply settles_bind (receiveLoop_settles clocked enough shown _)
  intro tally n₆ _
  apply settles_bind settles_native
  intro per n₇ _
  apply settles_bind settles_native
  intro bps n₈ _
  apply settles_bind settles_onBoard
  intro _ n₉ _
  exact settles_pure

theorem window_settles (role : String) (results : List Code.Line) (brBw : Int) :
    Settles (Code.window board fuel config role results brBw) n := by
  apply settles_bind settles_onBoard
  intro now n₁ looks
  obtain ⟨-, shown, -⟩ := now_shows clocked looks
  dsimp only
  split
  · apply settles_bind (burst_settles clocked enough brBw)
    intro sent n₂ sends
    have later := (burst_takes clocked brBw).passed sends
    have idles : Settles (whileLoop
        (Code.idleRound board (now + Code.windowS * 1000000000)) fuel ()) n₂ := by
      apply settles_before clocked (fun _ => rfl) (fun _ _ => settles_pure) (fun _ => .pure _)
      unfold Enough at enough
      rw [Code.windowS]
      omega
    apply settles_bind idles
    intro _ n₃ _
    exact settles_pure
  · apply settles_bind (receive_settles clocked enough brBw)
    intro counted n₂ _
    exact settles_pure

theorem session_settles (role : String) : Settles (Code.session board fuel config role) n := by
  have windows (results : List Code.Line) (brBw : Int) (m : Node σ) :
      Settles (Code.window board fuel config role results brBw) m :=
    window_settles clocked enough role results brBw
  apply settles_bind (reset_settles clocked enough)
  intro _ n₁ _
  apply settles_bind (read_settles clocked enough cmdGetVersion 4 [])
  intro chip n₂ _
  apply settles_bind settles_onBoard
  intro _ n₃ _
  exact settles_foldlM windows _ _

end Ending

theorem table_settles (role : String) (results : List Code.Line) :
    Settles (Code.table board role results) n := by
  have tells {line : String} {m : Node σ} : Settles (board.say line) m := settles_onBoard
  unfold Code.table
  split
  · apply settles_bind tells
    intro _ n₁ _
    apply settles_bind tells
    intro _ n₂ _
    apply settles_forM
    intro line m
    apply settles_bind (settles_describe line.brBw)
    intro name m₁ _
    exact tells
  · exact settles_pure

theorem init_settles_iff : Settles (init board fuel) n ↔ board.Unlocks fuel n.board := by
  constructor
  · intro settles
    exact lock_settles_iff.mp settles.first
  · intro unlocks
    apply settles_bind (lock_settles_iff.mpr unlocks)
    intro _ n₁ _
    apply settles_bind settles_onBoard
    intro _ n₂ _
    apply settles_bind settles_onBoard
    intro _ n₃ _
    exact settles_act

/-- Wherever time passes, and whatever BUSY, the bus and the radio do, the link test comes to an
end exactly if it is no node of the test, or the lock of its SPI object is free at one of the
tries that the fuel is good for: that wait has no deadline, and every other loop has one. The
fuel that is enough for those depends on the clock alone. -/
theorem run_ends (clocked : Clocked board time lag) (enough : 12000000000 + lag + 1 < fuel)
    (config : Config) (n : Node σ) :
    ((∃ n', Returns (Code.run board fuel config) n () n') ∨
      ∃ e n', Throws (Code.run board fuel config) n e n') ↔
    (config.node.toUpper ≠ "A" ∧ config.node.toUpper ≠ "B") ∨
      board.Unlocks fuel
        (board.print ("FLRC link test, node " ++ config.node.toUpper) n.board) := by
  have ends : Settles (Code.run board fuel config) n ↔
      (∃ n', Returns (Code.run board fuel config) n () n') ∨
        ∃ e n', Throws (Code.run board fuel config) n e n' := by
    rw [settles_iff]
    exact or_congr_left ⟨fun ⟨_, n', returned⟩ => ⟨n', returned⟩,
      fun ⟨n', returned⟩ => ⟨(), n', returned⟩⟩
  rw [← ends]
  unfold Code.run
  dsimp only
  split
  · rename_i other
    exact ⟨fun _ => Or.inl other, fun _ => settles_raise⟩
  · rename_i known
    let title := "FLRC link test, node " ++ config.node.toUpper
    have speaks : Returns (board.say title) n () { n with board := board.print title n.board } :=
      rfl
    rw [speaks.settles_iff]
    constructor
    · intro settles
      exact Or.inr (init_settles_iff.mp settles.first)
    · rintro (other | unlocks)
      · exact absurd other known
      apply settles_bind (init_settles_iff.mpr unlocks)
      intro _ n₁ _
      apply settles_bind (session_settles clocked enough _)
      intro results n₂ _
      exact table_settles _ results

/-- It does on the bench, where a look at the clock takes a third of a second. -/
theorem run_ends_bench :
    (∃ n', Returns (Code.run Desk.board 12000000002 config) (Desk.node []) () n') ∨
      ∃ e n', Throws (Code.run Desk.board 12000000002 config) (Desk.node []) e n' :=
  (run_ends Desk.clocked (by decide) config (Desk.node [])).mpr (Or.inr (Or.inl rfl))

end Lr2021.Link
