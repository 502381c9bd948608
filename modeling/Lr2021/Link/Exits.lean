import Lr2021.Link.LinkTest
import Lr2021.Link.Transport

set_option autoImplicit false

/-! How procedures of the driver are left: what they cannot change about the radio holds after
them, by return and by exception, and the chip select is low only where the bus raised. -/
namespace Lr2021.Link

open Procedure

variable {ε σ α : Type} {board : Board ε σ} {modem : σ → Modem} {fuel : Nat}
  {holds : Radio → Prop}

/-- An exception of the bus. -/
def Raise.OfBus (e : Raise ε) : Prop := ∃ e', e = .board e'

/-- What the radio keeps while it is busy on its own, and while its FIFO is read. -/
structure Stable (holds : Radio → Prop) : Prop where
  hear : ∀ r happening, holds r → holds (r.hear happening)
  read : ∀ (r : Radio) count, holds r → holds { r with rxFifo := r.rxFifo.drop count }

theorem Stable.overhears (stable : Stable holds) {r r' : Radio} (overhears : r.Overhears r')
    (before : holds r) : holds r' :=
  overhears.induct before stable.hear

/-- A command that keeps it. -/
def Harmless (holds : Radio → Prop) (opcode : UInt16) (args : List UInt8) : Prop :=
  ∀ r, holds r → holds (r.execute opcode args).2

/-- Between transactions. -/
structure Resting (modem : σ → Modem) (holds : Radio → Prop) (n : Node σ) : Prop where
  idle : Idle modem n
  radio : holds (radioAt modem n)

/-- Within one, with some bytes sent. -/
structure Within (modem : σ → Modem) (holds : Radio → Prop) (sent : List UInt8) (n : Node σ) :
    Prop where
  selected : (modem n.board).selected = true
  sent : (modem n.board).sent = sent
  radio : holds (radioAt modem n)

/-- After an exception. -/
structure Left (modem : σ → Modem) (holds : Radio → Prop) (e : Raise ε) (n : Node σ) :
    Prop where
  selected : (modem n.board).selected = true ↔ e.OfBus
  radio : holds (radioAt modem n)

/-- From between transactions to between transactions, or out of the procedure. -/
abbrev Orderly (modem : σ → Modem) (holds : Radio → Prop) (c : Py ε σ α) : Prop :=
  Triple (Resting modem holds) c (fun _ => Resting modem holds) (Left modem holds)

/-- Less is known after an exception. -/
theorem leaving {pre : Node σ → Prop} {c : Py ε σ α} {post : α → Node σ → Prop}
    {holds' : Radio → Prop} (triple : Triple pre c post (Left modem holds))
    (weaker : ∀ r, holds r → holds' r) : Triple pre c post (Left modem holds') :=
  triple.mono (fun _ => id) (fun _ _ => id) fun _ _ left =>
    ⟨left.selected, weaker _ left.radio⟩

theorem Resting.left {n : Node σ} (resting : Resting modem holds n) {e : Raise ε}
    (own : ¬e.OfBus) : Left modem holds e n := by
  refine ⟨?_, resting.radio⟩
  have idle : (modem n.board).selected = false := resting.idle
  rw [idle]
  exact ⟨fun low => absurd low Bool.false_ne_true, fun ofBus => absurd ofBus own⟩

theorem Resting.waits {n n' : Node σ} (stable : Stable holds) (resting : Resting modem holds n)
    (waits : Waits modem n n') : Resting modem holds n' :=
  ⟨waits.idle resting.idle, stable.overhears waits.radio resting.radio⟩

theorem orderly_raise {e : Raise ε} (own : ¬e.OfBus) :
    Orderly modem holds (raise e : Py ε σ α) :=
  .raise fun _ resting => resting.left own

theorem orderly_pure (a : α) : Orderly modem holds (pure a : Py ε σ α) :=
  .pure fun _ resting => resting

theorem orderly_onBoard (stable : Stable holds) {f : σ → α × σ}
    (overhears : ∀ s, (modem s).Overhears (modem (f s).2)) :
    Orderly modem holds (onBoard f : Py ε σ α) := by
  intro n resting
  constructor
  · intro a n' returned
    exact resting.waits stable (onBoard_waits overhears returned)
  · intro e n' raised
    exact absurd raised not_throws_act

section Primitives

variable (wired : Wired board modem) (stable : Stable holds)

include wired stable

theorem orderly_now : Orderly modem holds board.now :=
  orderly_onBoard stable wired.monotonicNs

theorem orderly_sleep (ms : Nat) : Orderly modem holds (board.sleep ms) :=
  orderly_onBoard stable (wired.sleepMs ms)

theorem orderly_say (line : String) : Orderly modem holds (board.say line) :=
  orderly_onBoard stable (wired.print line)

theorem cs_low : Triple (Resting modem holds) (board.cs false)
    (fun _ => Within modem holds []) (Left modem holds) := by
  intro n resting
  constructor
  · intro _ n' returned
    obtain ⟨⟨m, ⟨r, heard, rfl⟩, same⟩, -⟩ := cs_acts wired returned
    have idle : (modem n.board).selected = false := resting.idle
    simp only [Modem.select, idle, Bool.false_eq_true, if_false] at same
    refine ⟨?_, ?_, ?_⟩
    · rw [same]
    · rw [same]
    · rw [radioAt, same]
      exact stable.overhears heard resting.radio
  · intro e n' raised
    exact absurd raised not_throws_act

theorem cs_high {holds' : Radio → Prop} {sent : List UInt8}
    (obeyed : ∀ r, holds r → holds' (r.obey sent).2) :
    Triple (Within modem holds sent) (board.cs true) (fun _ => Resting modem holds')
      (Left modem holds) := by
  rintro n ⟨selected, rfl, before⟩
  constructor
  · intro _ n' returned
    obtain ⟨⟨m, ⟨r, heard, rfl⟩, same⟩, -⟩ := cs_acts wired returned
    simp only [Modem.select, selected, if_true] at same
    refine ⟨?_, ?_⟩
    · rw [Idle, same]
    · rw [radioAt, same]
      exact obeyed r (stable.overhears heard before)
  · intro e n' raised
    exact absurd raised not_throws_act

theorem write_within {sent : List UInt8} (bytes : List UInt8) :
    Triple (Within modem holds sent) (board.write bytes)
      (fun _ => Within modem holds (sent ++ bytes)) (Left modem holds) := by
  rintro n ⟨selected, rfl, before⟩
  have acts {part : List UInt8} {n' : Node σ} (acts : Acts modem (·.write part) n n') :
      Within modem holds ((modem n.board).sent ++ part) n' := by
    obtain ⟨⟨m, ⟨r, heard, rfl⟩, same⟩, -⟩ := acts
    simp only [Modem.write, selected, if_true] at same
    refine ⟨?_, ?_, ?_⟩
    · rw [same]
    · rw [same]
    · rw [radioAt, same]
      exact stable.overhears heard before
  constructor
  · intro _ n' returned
    exact acts (write_acts wired returned)
  · intro e n' raised
    obtain ⟨ofBus, part, -, done⟩ := write_throws wired raised
    exact ⟨⟨fun _ => ofBus, fun _ => (acts done).selected⟩, (acts done).radio⟩

theorem readinto_within {sent : List UInt8} (count : Nat) :
    Triple (Within modem holds sent) (board.readinto count) (fun _ => Within modem holds sent)
      (Left modem holds) := by
  rintro n ⟨selected, rfl, before⟩
  have acts {part : Nat} {n' : Node σ} (acts : Acts modem (fun m => (m.read part).2) n n') :
      Within modem holds (modem n.board).sent n' := by
    obtain ⟨⟨m, ⟨r, heard, rfl⟩, same⟩, -⟩ := acts
    have after := stable.overhears heard before
    simp only [Modem.read, selected, if_true] at same
    rw [apply_ite Prod.snd, apply_ite Prod.snd] at same
    split at same
    · exact ⟨by rw [same], by rw [same], by rw [radioAt, same]; exact stable.read r part after⟩
    · split at same <;>
        exact ⟨by rw [same], by rw [same], by rw [radioAt, same]; exact after⟩
  constructor
  · intro buf n' returned
    obtain ⟨m, overhears, -, same, kept⟩ := readinto_acts wired returned
    exact acts ⟨⟨m, overhears, same⟩, kept⟩
  · intro e n' raised
    obtain ⟨ofBus, part, -, done⟩ := readinto_throws wired raised
    exact ⟨⟨fun _ => ofBus, fun _ => (acts done).selected⟩, (acts done).radio⟩

end Primitives

theorem not_ofBus_radioError (message : String) : ¬(Raise.radioError message : Raise ε).OfBus := by
  rintro ⟨e', same⟩
  cases same

section Transactions

variable (wired : Wired board modem) (stable : Stable holds)

include wired stable

theorem waitBusy_orderly (timeoutMs : Nat) :
    Orderly modem holds (waitBusy board fuel timeoutMs) := by
  intro n resting
  constructor
  · intro _ n' returned
    exact resting.waits stable (waitBusy_waits wired returned)
  · intro e n' raised
    obtain ⟨rfl, waits⟩ := waitBusy_throws wired raised
    exact (resting.waits stable waits).left (not_ofBus_radioError busyStuck)

/-- A command that returns has been carried out, and one that raises has not. -/
theorem cmd_orderly {holds' : Radio → Prop} {opcode : UInt16} {args : List UInt8}
    (does : ∀ r, holds r → holds' (r.execute opcode args).2) :
    Triple (Resting modem holds) (cmd board fuel opcode args) (fun _ => Resting modem holds')
      (Left modem holds) := by
  have obeyed : ∀ r, holds r → holds' (r.obey ([] ++ frame opcode args)).2 := by
    intro r before
    rw [List.nil_append, Radio.obey_frame]
    exact does r before
  have waits : Orderly modem holds (waitBusy board fuel 200) := waitBusy_orderly wired stable 200
  unfold cmd
  apply waits.bind
  intro _
  apply (cs_low wired stable).bind
  intro _
  apply (write_within wired stable (frame opcode args)).bind
  intro _
  exact cs_high wired stable obeyed

theorem read_orderly {opcode : UInt16} {args : List UInt8} (length : Nat)
    (harmless : Harmless holds opcode args) :
    Orderly modem holds (read board fuel opcode length args) := by
  have obeyed : ∀ r : Radio, holds r → holds (r.obey []).2 := fun _ before => before
  have asks : Orderly modem holds (cmd board fuel opcode args) := cmd_orderly wired stable harmless
  have waits : Orderly modem holds (waitBusy board fuel 200) := waitBusy_orderly wired stable 200
  unfold read
  apply asks.bind
  intro _
  apply waits.bind
  intro _
  apply (cs_low wired stable).bind
  intro _
  apply (readinto_within wired stable (statusLen + length)).bind
  intro buf
  apply (cs_high wired stable obeyed).bind
  intro _
  split
  · exact orderly_raise (not_ofBus_radioError _)
  · exact orderly_pure _

theorem readFifo_orderly (length : Nat) : Orderly modem holds (readFifo board fuel length) := by
  have obeyed : ∀ r, holds r → holds (r.obey ([] ++ frame cmdReadRxFifo [])).2 := by
    intro r before
    rwa [List.nil_append, Radio.obey_frame, Radio.execute_readRxFifo]
  have waits : Orderly modem holds (waitBusy board fuel 200) := waitBusy_orderly wired stable 200
  unfold readFifo
  apply waits.bind
  intro _
  apply (cs_low wired stable).bind
  intro _
  apply (write_within wired stable (frame cmdReadRxFifo [])).bind
  intro _
  apply (readinto_within wired stable length).bind
  intro buf
  apply (cs_high wired stable obeyed).bind
  intro _
  exact orderly_pure buf

/-- Letting go of NRESET does nothing to the radio, and pulling it clears the radio. -/
theorem nreset_orderly (level : Bool) (resets : ∀ r, holds r → holds r.cleared) :
    Orderly modem holds (board.nreset level) := by
  intro n resting
  constructor
  · intro _ n' returned
    obtain ⟨⟨m, ⟨r, heard, rfl⟩, same⟩, -⟩ := nreset_acts wired returned
    have after := stable.overhears heard resting.radio
    have idle : Idle modem n' := by
      rw [Idle, same]
      cases level <;> exact resting.idle
    refine ⟨idle, ?_⟩
    rw [radioAt, same]
    cases level with
    | true => exact after
    | false => exact resets r after
  · intro e n' raised
    exact absurd raised not_throws_act

theorem reset_orderly (resets : ∀ r, holds r → holds r.cleared) :
    Orderly modem holds (reset board fuel) := by
  unfold reset
  apply (nreset_orderly wired stable false resets).bind
  intro _
  apply (orderly_sleep wired stable 5).bind
  intro _
  apply (nreset_orderly wired stable true resets).bind
  intro _
  apply (orderly_sleep wired stable 20).bind
  intro _
  exact waitBusy_orderly wired stable 500

end Transactions

/-- What nothing but SetTx can change about the radio. -/
structure Lasting (holds : Radio → Prop) : Prop extends Stable holds where
  clear : ∀ r, holds r → holds r.cleared
  execute : ∀ opcode args, opcode ≠ cmdSetTx → Harmless holds opcode args

theorem not_ofBus_native (e : ModuleError) : ¬(Raise.native e : Raise ε).OfBus := by
  rintro ⟨e', same⟩
  cases same

theorem not_ofBus_valueError (message : String) : ¬(Raise.valueError message : Raise ε).OfBus := by
  rintro ⟨e', same⟩
  cases same

theorem not_ofBus_indexError : ¬(Raise.indexError : Raise ε).OfBus := by
  rintro ⟨e', same⟩
  cases same

theorem native_orderly (r : Except ModuleError α) :
    Orderly modem holds (Code.native r : Py ε σ α) := by
  cases r with
  | error e => exact orderly_raise (not_ofBus_native e)
  | ok value => exact orderly_pure value

theorem describe_orderly (brBw : Int) : Orderly modem holds (Code.describe board brBw) := by
  unfold Code.describe
  apply (native_orderly _).bind
  intro kbps
  apply (native_orderly _).bind
  intro khz
  exact orderly_pure _

/-- What an action on the driver's object does to the radio. -/
theorem orderly_own {f : Node σ → α × Node σ} (same : ∀ n, (f n).2.board = n.board) :
    Orderly modem holds (act f : Py ε σ α) := by
  refine .act fun n resting => ⟨?_, ?_⟩
  · rw [Idle, same]
    exact resting.idle
  · rw [radioAt, same]
    exact resting.radio

section Making

variable (wired : Wired board modem)

include wired

theorem cs_up (stable : Stable holds) : Orderly modem holds (board.cs true) := by
  intro n resting
  constructor
  · intro _ n' returned
    obtain ⟨⟨m, ⟨r, heard, rfl⟩, same⟩, -⟩ := cs_acts wired returned
    have idle : (modem n.board).selected = false := resting.idle
    simp only [Modem.select, idle, Bool.false_eq_true, if_false, if_true] at same
    refine ⟨?_, ?_⟩
    · rw [Idle, same]
    · rw [radioAt, same]
      exact stable.overhears heard resting.radio
  · intro e n' raised
    exact absurd raised not_throws_act

theorem lock_orderly (stable : Stable holds) :
    Orderly modem holds (whileLoop (lockRound board) fuel ()) := by
  refine .whileLoop (fun _ => Resting modem holds) (fun _ => ?_) fuel ()
  apply (orderly_onBoard stable wired.tryLock).bind
  intro locked
  cases locked with
  | true => exact .pure fun _ resting => resting
  | false => exact .pure fun _ resting => resting

/-- Making the driver's object does nothing to a radio that is not selected. -/
theorem init_orderly (lasting : Lasting holds) : Orderly modem holds (init board fuel) := by
  have stable := lasting.toStable
  unfold init
  apply (lock_orderly wired stable).bind
  intro _
  apply (cs_up wired stable).bind
  intro _
  apply (nreset_orderly wired stable true lasting.clear).bind
  intro _
  exact orderly_own fun _ => rfl

/-- Once the driver's object is made the chip select is high, wherever it was. -/
theorem init_idle {n n' : Node σ} (returned : Returns (init board fuel) n () n') :
    Idle modem n' := by
  obtain ⟨_, n₁, locks, rest⟩ := returns_bind.mp returned
  obtain ⟨_, n₂, rises, rest⟩ := returns_bind.mp rest
  obtain ⟨_, n₃, lets, rest⟩ := returns_bind.mp rest
  obtain ⟨⟨m, ⟨r, -, rfl⟩, selected⟩, -⟩ := cs_acts wired rises
  obtain ⟨⟨m', ⟨r', -, rfl⟩, reset⟩, -⟩ := nreset_acts wired lets
  have kept : n' = { n₃ with payloadLen := 0 } := (Prod.mk.inj (returns_act.mp rest)).2.symm
  have high : (modem n₂.board).selected = false := by
    rw [selected, Modem.select, if_pos rfl]
    split
    · rfl
    · rename_i idle
      exact Bool.not_eq_true _ ▸ idle
  rw [Idle, kept, reset]
  exact high

end Making

section Procedures

variable (wired : Wired board modem) (lasting : Lasting holds)

include wired lasting

theorem setting_orderly (opcode : UInt16) (args : List UInt8) (other : opcode ≠ cmdSetTx) :
    Orderly modem holds (cmd board fuel opcode args) :=
  cmd_orderly wired lasting.toStable (lasting.execute opcode args other)

theorem irq_orderly : Orderly modem holds (irq board fuel) := by
  have asks : Orderly modem holds (read board fuel cmdGetAndClearIrqStatus 4 []) :=
    read_orderly wired lasting.toStable 4 (lasting.execute _ _ (by decide))
  unfold irq
  apply asks.bind
  intro b
  exact orderly_pure _

theorem setPower_orderly (dbm : Int) : Orderly modem holds (setPower board fuel dbm) := by
  unfold setPower
  split
  · exact orderly_raise not_ofBus_indexError
  · apply (setting_orderly wired lasting cmdSelPa _ (by decide)).bind
    intro _
    apply (setting_orderly wired lasting cmdSetPaConfig _ (by decide)).bind
    intro _
    exact setting_orderly wired lasting cmdSetTxParams _ (by decide)

theorem setRfSwitch_orderly : Orderly modem holds (setRfSwitch board fuel) := by
  apply Triple.forM
  rintro ⟨dio, pull, modes⟩
  apply (setting_orderly wired lasting cmdSetDioFunction _ (by decide)).bind
  intro _
  exact setting_orderly wired lasting cmdSetDioRfSwitchConfig _ (by decide)

theorem setPacketParams_orderly (preamble payloadLen : Nat) :
    Orderly modem holds (setPacketParams board fuel preamble payloadLen) :=
  setting_orderly wired lasting cmdSetFlrcPacketParams _ (by decide)

/-- Bring-up leaves what its reset has made so. -/
theorem begin_orderly {pre : Node σ → Prop} {exc : Raise ε → Node σ → Prop}
    (settings : Settings) (refused : ∀ n, pre n → exc (.valueError powerRefused) n)
    (resets : Triple pre (reset board fuel) (fun _ => Resting modem holds) exc)
    (left : ∀ e n, Left modem holds e n → exc e n) :
    Triple pre (begin board fuel settings) (fun _ => Resting modem holds) exc := by
  unfold begin
  split
  · exact .raise refused
  apply resets.bind
  intro _
  -- From here on the exits are those of single commands.
  refine Triple.mono ?_ (fun _ => id) (fun _ _ => id) left
  have sets (opcode : UInt16) (args : List UInt8) (other : opcode ≠ cmdSetTx) :
      Orderly modem holds (cmd board fuel opcode args) :=
    setting_orderly wired lasting opcode args other
  apply (sets cmdActivatePram _ (by decide)).bind
  intro _
  apply (sets cmdSetStandby _ (by decide)).bind
  intro _
  apply (sets cmdSetPacketType _ (by decide)).bind
  intro _
  split
  · exact orderly_raise (not_ofBus_native _)
  apply (sets cmdSetFlrcModulationParams _ (by decide)).bind
  intro _
  apply (setPacketParams_orderly wired lasting _ _).bind
  intro _
  apply (sets cmdSetFlrcSyncword _ (by decide)).bind
  intro _
  apply (sets cmdSetRfFrequency _ (by decide)).bind
  intro _
  apply (sets cmdCalibrate _ (by decide)).bind
  intro _
  apply (setPower_orderly wired lasting _).bind
  intro _
  apply (setRfSwitch_orderly wired lasting).bind
  intro _
  apply (sets cmdSetDioIrqConfig _ (by decide)).bind
  intro _
  exact orderly_own fun _ => rfl

theorem startReceive_orderly : Orderly modem holds (startReceive board fuel) := by
  unfold startReceive
  apply (setting_orderly wired lasting cmdClearRxFifo _ (by decide)).bind
  intro _
  exact setting_orderly wired lasting cmdSetRx _ (by decide)

theorem poll_orderly : Orderly modem holds (poll board fuel) := by
  have clears : Orderly modem holds (cmd board fuel cmdClearRxFifo []) :=
    setting_orderly wired lasting _ _ (by decide)
  have asks : Orderly modem holds (read board fuel cmdGetRxFifoLevel 2 []) :=
    read_orderly wired lasting.toStable 2 (lasting.execute _ _ (by decide))
  unfold poll
  apply (irq_orderly wired lasting).bind
  intro flags
  split
  · apply clears.bind
    intro _
    exact orderly_pure _
  split
  · exact orderly_pure _
  apply asks.bind
  intro level
  refine (orderly_own fun _ => rfl).bind fun payloadLen => ?_
  dsimp only
  split
  · exact orderly_pure _
  · apply (readFifo_orderly wired lasting.toStable _).bind
    intro bytes
    exact orderly_pure _

end Procedures

end Lr2021.Link
