import Lr2021.Link.Sending
import Lr2021.Link.Bench

set_option autoImplicit false

/-! Whole runs of the link test: how they leave the chip select, and what they put on air. -/
namespace Lr2021.Link

open Procedure

variable {ε σ : Type} {board : Board ε σ} {modem : σ → Modem} {fuel : Nat} {config : Config}

section Receiving

variable (wired : Wired board modem) {holds : Radio → Prop} (lasting : Lasting holds)

include wired lasting

theorem bringUp_orderly (settings : Settings) :
    Orderly modem holds (begin board fuel settings) :=
  begin_orderly wired lasting settings (fun _ resting => resting.left (not_ofBus_valueError _))
    (reset_orderly wired lasting.toStable lasting.clear) fun _ _ => id

theorem receiveRound_orderly (deadline : Nat) (tally : Code.Tally) :
    Orderly modem holds (Code.receiveRound board fuel deadline tally) := by
  have looks : Orderly modem holds board.now := orderly_now wired lasting.toStable
  unfold Code.receiveRound
  apply looks.bind
  intro now
  split
  · apply (poll_orderly wired lasting).bind
    intro out
    split
    · exact orderly_pure _
    · exact orderly_pure _
    · split
      · exact orderly_pure _
      · apply looks.bind
        intro lastMs
        exact orderly_pure _
  · exact orderly_pure _

theorem receive_orderly (brBw : Int) :
    Orderly modem holds (Code.receive board fuel config brBw) := by
  have rounds (deadline : Nat) : Orderly modem holds
      (whileLoop (Code.receiveRound board fuel deadline) fuel ⟨0, 0, none, none⟩) := by
    refine .whileLoop (fun _ => Resting modem holds) (fun tally => ?_) fuel _
    refine (receiveRound_orderly wired lasting deadline tally).mono (fun _ => id) ?_ fun _ _ => id
    rintro (tally' | tally') n resting <;> exact resting
  unfold Code.receive
  apply (bringUp_orderly wired lasting _).bind
  intro _
  apply (startReceive_orderly wired lasting).bind
  intro _
  apply (describe_orderly brBw).bind
  intro name
  apply (orderly_say wired lasting.toStable _).bind
  intro _
  apply (orderly_now wired lasting.toStable).bind
  intro now
  apply (rounds _).bind
  intro tally
  apply (native_orderly _).bind
  intro per
  apply (native_orderly _).bind
  intro bps
  apply (orderly_say wired lasting.toStable _).bind
  intro _
  exact orderly_pure _

theorem idle_orderly (windowEnd : Nat) :
    Orderly modem holds (whileLoop (Code.idleRound board windowEnd) fuel ()) := by
  refine .whileLoop (fun _ => Resting modem holds) (fun _ => ?_) fuel ()
  apply (orderly_now wired lasting.toStable).bind
  intro now
  split
  · exact .pure fun _ resting => resting
  · exact .pure fun _ resting => resting

theorem printLine_orderly (line : Code.Line) :
    Orderly modem holds (Code.printLine board line) := by
  unfold Code.printLine
  apply (describe_orderly line.brBw).bind
  intro name
  exact orderly_say wired lasting.toStable _

theorem table_orderly (role : String) (results : List Code.Line) :
    Orderly modem holds (Code.table board role results) := by
  have speaks (line : String) : Orderly modem holds (board.say line) :=
    orderly_say wired lasting.toStable line
  unfold Code.table
  split
  · apply (speaks _).bind
    intro _
    apply (speaks _).bind
    intro _
    exact .forM (printLine_orderly wired lasting) _
  · exact orderly_pure _

end Receiving

/-- The body of the `with` statement does to the radio what its windows do. -/
theorem session_orderly (wired : Wired board modem) {holds : List Int → Radio → Prop}
    {last : Radio → Prop} (lasting : Lasting (holds [])) (start : ∀ r, holds [] r → last r)
    {role : String}
    (windows : ∀ done brBw rest results, Code.rates config = done ++ brBw :: rest →
      Triple (Resting modem (holds done)) (Code.window board fuel config role results brBw)
        (fun _ => Resting modem (holds (done ++ [brBw]))) (Left modem last)) :
    Triple (Resting modem (holds [])) (Code.session board fuel config role)
      (fun _ => Resting modem (holds (Code.rates config))) (Left modem last) := by
  have first := lasting.toStable
  have resets : Orderly modem (holds []) (reset board fuel) :=
    reset_orderly wired first lasting.clear
  have asks : Orderly modem (holds []) (version board fuel) :=
    read_orderly wired first 4 (lasting.execute _ _ (by decide))
  unfold Code.session
  apply (leaving resets start).bind
  intro _
  apply (leaving asks start).bind
  intro chip
  apply (leaving (orderly_say wired first _) start).bind
  intro _
  exact Triple.foldlM (fun done _ => Resting modem (holds done)) windows []

/-- A run does to the radio what the body of its `with` statement does. -/
theorem run_orderly (wired : Wired board modem) {before after last : Radio → Prop}
    (lasting : Lasting before) (lasting' : Lasting after) (start : ∀ r, before r → last r)
    (finish : ∀ r, after r → last r)
    (session : Triple (Resting modem before)
      (Code.session board fuel config config.node.toUpper) (fun _ => Resting modem after)
      (Left modem last)) :
    Triple (Resting modem before) (Code.run board fuel config) (fun _ => Resting modem after)
      (Left modem last) := by
  have first := lasting.toStable
  unfold Code.run
  dsimp only
  split
  · exact leaving (.raise fun _ resting => resting.left (not_ofBus_valueError _)) start
  apply (leaving (orderly_say wired first _) start).bind
  intro _
  apply (leaving (init_orderly wired lasting) start).bind
  intro _
  apply session.bind
  intro results
  exact leaving (table_orderly wired lasting' _ results) finish

/-- What a node puts on air at each rate. -/
def share (config : Config) : List (List UInt8) :=
  if config.node.toUpper = "A" then burst config else []

/-- What it puts on air in a run. -/
def Config.plan (config : Config) : List (List UInt8) :=
  (Code.rates config).flatMap fun _ => share config

section Airing

variable (wired : Wired board modem) {before data plan : List (List UInt8)}

include wired

theorem codeTransmit_airs (planned : data ++ burst config <+: plan) (brBw : Int) :
    Triple (Resting modem (Aired before data)) (Code.transmit board fuel config brBw)
      (fun _ => Resting modem (Aired before (data ++ burst config)))
      (Left modem (OnAir before plan)) := by
  intro n resting
  have brought : Triple (Resting modem (Account (radioAt modem n) [] 0))
      (begin board fuel (Code.settings config brBw))
      (fun _ => Resting modem (Account (radioAt modem n) [] 0))
      (Left modem (OnAir (radioAt modem n).aired (burst config))) :=
    leaving (bringUp_orderly wired (lasting_account _ [] 0) _) fun _ account =>
      account.onAir List.nil_prefix
  obtain ⟨returns, raises⟩ := burst_accounts wired List.prefix_rfl brought n
    ⟨resting.idle, .start _⟩
  constructor
  · intro sent n' returned
    obtain ⟨idle, account⟩ := returns sent n' returned
    refine ⟨idle, ?_⟩
    rw [Aired, account.aired, resting.radio, List.nil_append, List.append_assoc]
  · intro e n' raised
    obtain ⟨selected, part, within, aired⟩ := raises e n' raised
    refine ⟨selected, data ++ part, ?_, ?_⟩
    · exact ((List.prefix_append_right_inj data).mpr within).trans planned
    · rw [Aired, aired, resting.radio, List.append_assoc]

theorem window_airs (planned : data ++ share config <+: plan) (results : List Code.Line)
    (brBw : Int) :
    Triple (Resting modem (Aired before data))
      (Code.window board fuel config config.node.toUpper results brBw)
      (fun _ => Resting modem (Aired before (data ++ share config)))
      (Left modem (OnAir before plan)) := by
  have early : ∀ r, Aired before data r → OnAir before plan r := fun _ aired =>
    ⟨data, (List.prefix_append _ _).trans planned, aired⟩
  have first := lasting_aired before data
  unfold Code.window
  dsimp only
  by_cases sends : config.node.toUpper = "A"
  · have all : share config = burst config := if_pos sends
    rw [all] at planned ⊢
    have late : ∀ r, Aired before (data ++ burst config) r → OnAir before plan r := fun _ aired =>
      ⟨_, planned, aired⟩
    apply (leaving (orderly_now wired first.toStable) early).bind
    intro now
    rw [if_pos sends]
    apply (codeTransmit_airs wired planned brBw).bind
    intro sent
    apply (leaving (idle_orderly wired (lasting_aired _ _) _) late).bind
    intro _
    exact leaving (orderly_pure _) late
  · have none : share config = [] := if_neg sends
    rw [none, List.append_nil]
    apply (leaving (orderly_now wired first.toStable) early).bind
    intro now
    rw [if_neg sends]
    apply (leaving (receive_orderly wired first brBw) early).bind
    intro counted
    exact leaving (orderly_pure _) early

/-- The body of the `with` statement puts on air what its windows do. -/
theorem session_puts (before : List (List UInt8)) :
    Triple (Resting modem (Aired before []))
      (Code.session board fuel config config.node.toUpper)
      (fun _ => Resting modem (Aired before config.plan))
      (Left modem (OnAir before config.plan)) := by
  let aired (done : List Int) : Radio → Prop := Aired before (done.flatMap fun _ => share config)
  have first : Lasting (aired []) := lasting_aired before []
  apply session_orderly wired first fun _ aired => ⟨[], List.nil_prefix, aired⟩
  intro done brBw rest results split
  have more : (done ++ [brBw]).flatMap (fun _ => share config) =
      done.flatMap (fun _ => share config) ++ share config := by
    rw [List.flatMap_append, List.flatMap_singleton]
  have next : aired (done ++ [brBw]) =
      Aired before ((done.flatMap fun _ => share config) ++ share config) :=
    congrArg (Aired before) more
  rw [next]
  apply window_airs wired
  rw [Config.plan, split, List.append_cons, List.flatMap_append, more]
  exact List.prefix_append _ _

theorem run_puts (before : List (List UInt8)) :
    Triple (Resting modem (Aired before [])) (Code.run board fuel config)
      (fun _ => Resting modem (Aired before config.plan))
      (Left modem (OnAir before config.plan)) :=
  run_orderly wired (lasting_aired before []) (lasting_aired before config.plan)
    (fun _ aired => ⟨[], List.nil_prefix, aired⟩)
    (fun _ aired => ⟨config.plan, List.prefix_rfl, aired⟩) (session_puts wired before)

end Airing

/-- What goes on air in a run of the link test, whatever the boards and the radios do: at a
node that sends, the packets of its bursts, one burst a rate, in order and each once; at a
node that receives, nothing. A run that an exception ends has got somewhere along that list. -/
theorem run_airs (wired : Wired board modem) {n : Node σ} (idle : Idle modem n) :
    (∀ n', Returns (Code.run board fuel config) n () n' →
      (radioAt modem n').aired = (radioAt modem n).aired ++ config.plan) ∧
    ∀ e n', Throws (Code.run board fuel config) n e n' →
      ∃ part, part <+: config.plan ∧
        (radioAt modem n').aired = (radioAt modem n).aired ++ part := by
  obtain ⟨returns, raises⟩ :=
    run_puts wired _ n ⟨idle, (List.append_nil (radioAt modem n).aired).symm⟩
  constructor
  · intro n' returned
    exact (returns () n' returned).radio
  · intro e n' raised
    exact (raises e n' raised).radio

/-- Two packets go out, and their transmissions are finished as soon as they are under way. -/
theorem run_airs_two :
    ∃ n' : Node Desk, (radioAt Desk.modem n').aired =
      [[0x4C, 0x52, 0x32, 0x31, 0x00, 0x00], [0x4C, 0x52, 0x32, 0x31, 0x00, 0x01]] := by
  let pair : Config := { config with node := "a", payloadLen := 6, packets := 2 }
  let coming := List.replicate 400 [Happening.txDone]
  have returned : Returns (Code.run Desk.board 50 pair) (Desk.node coming) () _ :=
    returns_run (by decide +kernel)
  have aired := (run_airs (n := Desk.node coming) Desk.wired rfl).1 _ returned
  exact ⟨_, aired.trans (by decide +kernel)⟩

/-- Once the driver's object is made, wherever the pins were before: however the body of the
`with` statement is left, the chip select has last been driven low exactly if what ended it was
an exception of the bus. -/
theorem session_deselects (wired : Wired board modem) {n n₁ : Node σ}
    (made : Returns (init board fuel) n () n₁) :
    (∀ results n', Returns (Code.session board fuel config config.node.toUpper) n₁ results n' →
      Idle modem n') ∧
    ∀ e n', Throws (Code.session board fuel config config.node.toUpper) n₁ e n' →
      ((modem n'.board).selected = true ↔ e.OfBus) := by
  have aired : Aired (radioAt modem n₁).aired [] (radioAt modem n₁) :=
    (List.append_nil (radioAt modem n₁).aired).symm
  obtain ⟨returns, raises⟩ := session_puts wired _ n₁ ⟨init_idle wired made, aired⟩
  constructor
  · intro results n' returned
    exact (returns results n' returned).idle
  · intro e n' raised
    exact (raises e n' raised).selected

/-- A power that the amplifier does not have ends the session with the chip select high. -/
theorem session_deselects_refused :
    ∃ n' : Node Desk, (Desk.modem n'.board).selected ≠ true := by
  let loud : Config := { config with powerDbm := 13 }
  have made : Returns (init Desk.board 1) (Desk.node []) () _ := returns_run (by decide +kernel)
  have raised : Throws (Code.session Desk.board 1 loud loud.node.toUpper)
      ((init Desk.board 1).run (Desk.node [])).2 (.valueError powerRefused) _ :=
    throws_run (by decide +kernel)
  have low := (session_deselects Desk.wired made).2 _ _ raised
  exact ⟨_, fun selected => not_ofBus_valueError _ (low.mp selected)⟩

end Lr2021.Link
