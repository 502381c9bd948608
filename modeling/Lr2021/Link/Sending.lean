import Lr2021.Link.Exits
import Lr2021.Link.Polling
import Lr2021.Link.Bench

set_option autoImplicit false

/-! Sending: what a node puts on air, and what it is told has gone out. -/
namespace Lr2021.Link

open Procedure

variable {ε σ α : Type} {board : Board ε σ} {modem : σ → Modem} {fuel : Nat}

/-- The flag of a finished transmission is raised by nothing else. -/
theorem Happening.raises_txDone (happening : Happening) :
    (happening.raises 19).toNat = happening.finished := by
  cases happening with
  | good payload =>
    have other : (UInt32.ofNat irqRxDone).toNat.testBit 19 = false := by decide
    exact congrArg Bool.toNat other
  | bad residue done =>
    have either : ∀ done : Bool, (UInt32.ofNat irqCrcError |||
        if done then UInt32.ofNat irqRxDone else 0).toNat.testBit 19 = false := by decide
    exact congrArg Bool.toNat (either done)
  | txDone =>
    have own : (UInt32.ofNat irqTxDone).toNat.testBit 19 = true := by decide
    exact congrArg Bool.toNat own
  | elapse status other =>
    have reserved : (~~~packetFlags).toNat.testBit 19 = false := by decide
    rw [raises, flags, UInt32.toNat_and, Nat.testBit_and, reserved, Bool.and_false]
    rfl

/-- The transmissions of a radio from `r₀` on: these packets went on air, no more are under way
or finished than that, and each that the node was told of has been finished. -/
structure Account (r₀ : Radio) (data : List (List UInt8)) (told : Nat) (r : Radio) : Prop where
  aired : r.aired = r₀.aired ++ data
  begun : r.completed + r.pending ≤ r₀.completed + r₀.pending + data.length
  told : told + (r.flagged 19).toNat + r₀.completed ≤ r.completed + (r₀.flagged 19).toNat

/-- The same, with the packet that goes next in the FIFO. -/
structure Loaded (r₀ : Radio) (data : List (List UInt8)) (told : Nat) (bytes : List UInt8)
    (r : Radio) : Prop where
  account : Account r₀ data told r
  txFifo : r.txFifo = bytes

/-- After what went on air before, this has. -/
def Aired (before data : List (List UInt8)) (r : Radio) : Prop := r.aired = before ++ data

/-- Some of what was planned has, from the first packet on. -/
def OnAir (before plan : List (List UInt8)) (r : Radio) : Prop :=
  ∃ part, part <+: plan ∧ Aired before part r

namespace Account

variable {r₀ r : Radio} {data plan : List (List UInt8)} {told : Nat}

theorem start (r : Radio) : Account r [] 0 r :=
  ⟨(List.append_nil _).symm, Nat.le_refl _, by omega⟩

theorem onAir (account : Account r₀ data told r) (planned : data <+: plan) :
    OnAir r₀.aired plan r :=
  ⟨data, planned, account.aired⟩

/-- What is no transmission costs the account nothing. -/
theorem keep {r' : Radio} (account : Account r₀ data told r) (aired : r'.aired = r.aired)
    (completed : r'.completed = r.completed) (pending : r'.pending ≤ r.pending)
    (flag : r'.flagged 19 = true → r.flagged 19 = true) : Account r₀ data told r' := by
  obtain ⟨same, begun, fewer⟩ := account
  have lower : (r'.flagged 19).toNat ≤ (r.flagged 19).toNat := by
    cases up : r'.flagged 19 with
    | false => exact Nat.zero_le _
    | true => exact Nat.le_of_eq (congrArg Bool.toNat (flag up).symm)
  exact ⟨aired.trans same, by omega, by omega⟩

theorem hear (account : Account r₀ data told r) (happening : Happening) :
    Account r₀ data told (r.hear happening) := by
  by_cases admitted : r.Admits happening
  · obtain ⟨same, begun, fewer⟩ := account
    have flag := Radio.flagged_hear admitted 19
    have raised := happening.raises_txDone
    have finishes : happening.finished ≤ r.pending := by
      cases happening with
      | txDone => exact admitted.1
      | _ => exact Nat.zero_le _
    have split : ((r.hear happening).flagged 19).toNat ≤
        (r.flagged 19).toNat + happening.finished := by
      rw [flag, ← raised]
      cases r.flagged 19 <;> cases happening.raises 19 <;> decide
    have completed : (r.hear happening).completed = r.completed + happening.finished := by
      rw [Radio.hear, if_pos admitted]
    have pending : (r.hear happening).pending = r.pending - happening.finished := by
      rw [Radio.hear, if_pos admitted]
    exact ⟨(Radio.hear_sameSetup r happening).aired.trans same, by omega, by omega⟩
  · rwa [Radio.hear, if_neg admitted]

/-- A packet goes on air. -/
theorem send {packet : List UInt8} (account : Account r₀ data told r)
    (loaded : r.txFifo = packet) :
    Account r₀ (data ++ [packet]) told
      { r with aired := r.aired ++ [r.txFifo], pending := r.pending + 1 } := by
  obtain ⟨same, begun, fewer⟩ := account
  refine ⟨?_, ?_, fewer⟩
  · rw [same, loaded, List.append_assoc]
  · rw [List.length_append, List.length_singleton]
    dsimp only
    omega

/-- The node is told once of each time that the flag was up. -/
theorem takeFlags (account : Account r₀ data told r) :
    Account r₀ data (told + (r.flagged 19).toNat) r.takeFlags := by
  obtain ⟨same, begun, fewer⟩ := account
  refine ⟨same, begun, ?_⟩
  rw [Radio.flagged_takeFlags]
  exact fewer

end Account

/-- What a command leaves alone that does not transmit. -/
structure Silent (r r' : Radio) : Prop where
  aired : r'.aired = r.aired
  completed : r'.completed = r.completed
  pending : r'.pending = r.pending
  happened : r'.happened = r.happened
  irq : r'.irq = r.irq ∨ r'.irq = 0

theorem Silent.flagged {r r' : Radio} (silent : Silent r r') {bit : Nat}
    (up : r'.flagged bit = true) : r.flagged bit = true := by
  rw [Radio.flagged] at up ⊢
  rcases silent.irq with same | zero
  · rwa [same] at up
  · rw [zero] at up
    cases (Nat.zero_testBit bit).symm.trans up

theorem execute_silent (r : Radio) {opcode : UInt16} (args : List UInt8)
    (other : opcode ≠ cmdSetTx) : Silent r (r.execute opcode args).2 := by
  unfold Radio.execute
  rw [if_neg other]
  split
  · exact ⟨rfl, rfl, rfl, rfl, Or.inl rfl⟩
  split
  · exact ⟨rfl, rfl, rfl, rfl, Or.inr rfl⟩
  repeat' split
  all_goals exact ⟨rfl, rfl, rfl, rfl, Or.inl rfl⟩

theorem lasting_account (r₀ : Radio) (data : List (List UInt8)) (told : Nat) :
    Lasting (Account r₀ data told) where
  hear _ happening account := account.hear happening
  read _ _ account := account.keep rfl rfl (Nat.le_refl _) id
  clear r account := account.keep rfl rfl (Nat.zero_le _) fun up => by
    have down : r.cleared.flagged 19 = false := Nat.zero_testBit 19
    rw [down] at up
    cases up
  execute _ args other r account :=
    have silent := execute_silent r args other
    account.keep silent.aired silent.completed (Nat.le_of_eq silent.pending) silent.flagged

theorem lasting_aired (before data : List (List UInt8)) : Lasting (Aired before data) where
  hear r happening aired := (Radio.hear_sameSetup r happening).aired.trans aired
  read _ _ aired := aired
  clear _ aired := aired
  execute _ args other r aired := (execute_silent r args other).aired.trans aired

theorem lasting_onAir (before plan : List (List UInt8)) : Lasting (OnAir before plan) where
  hear r happening onAir := by
    obtain ⟨part, planned, aired⟩ := onAir
    exact ⟨part, planned, (lasting_aired before part).hear r happening aired⟩
  read _ _ onAir := onAir
  clear _ onAir := onAir
  execute opcode args other r onAir := by
    obtain ⟨part, planned, aired⟩ := onAir
    exact ⟨part, planned, (lasting_aired before part).execute opcode args other r aired⟩

theorem stable_loaded (r₀ : Radio) (data : List (List UInt8)) (told : Nat) (bytes : List UInt8) :
    Stable (Loaded r₀ data told bytes) where
  hear r happening loaded := ⟨loaded.account.hear happening,
    (Radio.hear_sameSetup r happening).txFifo.trans loaded.txFifo⟩
  read r count loaded :=
    ⟨(lasting_account r₀ data told).read r count loaded.account, loaded.txFifo⟩

section Transmission

variable (wired : Wired board modem) {r₀ : Radio} {data plan : List (List UInt8)} {told : Nat}

include wired

/-- A look at the flags tells of at most one finished transmission. -/
theorem irq_accounts (planned : data <+: plan) :
    Triple (Resting modem (Account r₀ data told)) (irq board fuel)
      (fun flags => Resting modem (Account r₀ data (told + (flags.testBit 19).toNat)))
      (Left modem (OnAir r₀.aired plan)) := by
  intro n resting
  constructor
  · intro flags n' returned
    obtain ⟨sent, r, heard, rfl, later⟩ := irq_sent wired resting.idle returned
    have asked := (lasting_account r₀ data told).overhears heard resting.radio
    exact ⟨sent.idle, (lasting_account r₀ data _).overhears later asked.takeFlags⟩
  · intro e n' raised
    have onAir : Resting modem (OnAir r₀.aired plan) n :=
      ⟨resting.idle, resting.radio.onAir planned⟩
    exact (irq_orderly wired (lasting_onAir r₀.aired plan) n onAir).2 e n' raised

/-- One round of the wait for TxDone. -/
theorem transmitRound_accounts (planned : data <+: plan) (deadline : Nat) (u : Unit) :
    Triple (Resting modem (Account r₀ data told)) (transmitRound board fuel deadline u)
      (fun out n => out.elim (fun _ => Resting modem (Account r₀ data told) n)
        fun ok => Resting modem (Account r₀ data (told + ok.toNat)) n)
      (Left modem (OnAir r₀.aired plan)) := by
  have looks : Orderly modem (Account r₀ data told) board.now :=
    orderly_now wired (lasting_account r₀ data told).toStable
  refine (leaving looks fun _ account => account.onAir planned).bind fun now => ?_
  split
  · refine (irq_accounts wired planned).bind fun flags => ?_
    have bit : flags &&& irqTxDone = 0 ↔ flags.testBit 19 = false := and_shift_eq_zero flags 19
    split
    · rename_i up
      rw [Ne, bit, Bool.not_eq_false] at up
      rw [up]
      exact .pure fun _ resting => resting
    · rename_i down
      rw [not_not, bit] at down
      rw [down]
      split
      · exact .pure fun _ resting => resting
      · exact .pure fun _ resting => resting
  · exact .pure fun _ resting => resting

/-- A packet is sent: it and nothing else goes on air, and the answer is paid for by a
finished transmission. Where an exception leaves it, it has gone on air or not. -/
theorem transmit_accounts {packet : List UInt8} (planned : data ++ [packet] <+: plan)
    (timeoutMs : Nat) :
    Triple (Resting modem (Account r₀ data told)) (transmit board fuel packet timeoutMs)
      (fun ok => Resting modem (Account r₀ (data ++ [packet]) (told + ok.toNat)))
      (Left modem (OnAir r₀.aired plan)) := by
  have last := lasting_account r₀ data told
  have stable := stable_loaded r₀ data told
  have early : ∀ r, Account r₀ data told r → OnAir r₀.aired plan r := fun _ account =>
    account.onAir ((List.prefix_append data [packet]).trans planned)
  have late : ∀ r, Account r₀ (data ++ [packet]) told r → OnAir r₀.aired plan r := fun _ account =>
    account.onAir planned
  have clears : Triple (Resting modem (Account r₀ data told)) (cmd board fuel cmdClearTxFifo [])
      (fun _ => Resting modem (Loaded r₀ data told [])) (Left modem (Account r₀ data told)) :=
    cmd_orderly wired last.toStable fun r account => ⟨last.execute _ _ (by decide) r account, rfl⟩
  have loads : Triple (Resting modem (Loaded r₀ data told []))
      (cmd board fuel cmdWriteTxFifo packet)
      (fun _ => Resting modem (Loaded r₀ data told packet)) (Left modem (Loaded r₀ data told [])) :=
    cmd_orderly wired (stable []) fun r loaded =>
      ⟨last.execute _ _ (by decide) r loaded.account, congrArg (· ++ packet) loaded.txFifo⟩
  have sends : Triple (Resting modem (Loaded r₀ data told packet))
      (cmd board fuel cmdSetTx [0x00, 0x00, 0x00])
      (fun _ => Resting modem (Account r₀ (data ++ [packet]) told))
      (Left modem (Loaded r₀ data told packet)) :=
    cmd_orderly wired (stable packet) fun _ loaded => loaded.account.send loaded.txFifo
  have looks : Orderly modem (Account r₀ (data ++ [packet]) told) board.now :=
    orderly_now wired (lasting_account r₀ _ told).toStable
  unfold transmit
  apply (leaving clears early).bind
  intro _
  apply (leaving loads fun r loaded => early r loaded.account).bind
  intro _
  apply (leaving sends fun r loaded => early r loaded.account).bind
  intro _
  apply (leaving looks late).bind
  intro now
  exact .whileLoop (fun _ => Resting modem (Account r₀ (data ++ [packet]) told))
    (transmitRound_accounts wired planned _) fuel ()

end Transmission

/-- What the sending side puts on air at each rate. -/
def burst (config : Config) : List (List UInt8) :=
  (List.range config.packets).map (Code.padded config.payloadLen)

section Bursts

variable (wired : Wired board modem) {r₀ : Radio} {data plan : List (List UInt8)} {told : Nat}
  {config : Config}

include wired

theorem sendNext_accounts {seq sent : Nat}
    (planned : data ++ [Code.padded config.payloadLen seq] <+: plan) :
    Triple (Resting modem (Account r₀ data (told + sent)))
      (Code.sendNext board fuel config sent seq)
      (fun sent' => Resting modem
        (Account r₀ (data ++ [Code.padded config.payloadLen seq]) (told + sent')))
      (Left modem (OnAir r₀.aired plan)) := by
  unfold Code.sendNext Code.packet
  split
  · exact .raise fun _ resting => (Resting.mk resting.idle (resting.radio.onAir
      ((List.prefix_append _ _).trans planned))).left (not_ofBus_valueError _)
  · refine (transmit_accounts wired planned 1000).bind fun ok => ?_
    cases ok with
    | true => exact .pure fun _ resting => resting
    | false => exact .pure fun _ resting => resting

/-- The packets of a burst, one after the other. -/
theorem sends_accounts (planned : data ++ burst config <+: plan) :
    Triple (Resting modem (Account r₀ data told))
      ((List.range config.packets).foldlM (Code.sendNext board fuel config) 0)
      (fun sent => Resting modem (Account r₀ (data ++ burst config) (told + sent)))
      (Left modem (OnAir r₀.aired plan)) := by
  have each : ∀ done seq rest sent, List.range config.packets = done ++ seq :: rest →
      Triple (Resting modem
          (Account r₀ (data ++ done.map (Code.padded config.payloadLen)) (told + sent)))
        (Code.sendNext board fuel config sent seq)
        (fun sent' => Resting modem
          (Account r₀ (data ++ (done ++ [seq]).map (Code.padded config.payloadLen)) (told + sent')))
        (Left modem (OnAir r₀.aired plan)) := by
    intro done seq rest sent split
    rw [List.map_append, List.map_singleton, ← List.append_assoc]
    apply sendNext_accounts wired
    refine List.IsPrefix.trans ?_ planned
    rw [burst, split, List.map_append, List.map_cons, ← List.append_assoc]
    exact (List.prefix_append_right_inj _).mpr (List.cons_prefix_cons.mpr ⟨rfl, List.nil_prefix⟩)
  have all := Triple.foldlM (fun done sent => Resting modem
    (Account r₀ (data ++ done.map (Code.padded config.payloadLen)) (told + sent))) each 0
  rwa [List.map_nil, List.append_nil] at all

/-- A burst, once its rate is brought up. -/
theorem burst_accounts (planned : data ++ burst config <+: plan) {pre : Node σ → Prop}
    {brBw : Int}
    (begins : Triple pre (begin board fuel (Code.settings config brBw))
      (fun _ => Resting modem (Account r₀ data told)) (Left modem (OnAir r₀.aired plan))) :
    Triple pre (Code.transmit board fuel config brBw)
      (fun sent => Resting modem (Account r₀ (data ++ burst config) (told + sent)))
      (Left modem (OnAir r₀.aired plan)) := by
  have early : ∀ r, Account r₀ data told r → OnAir r₀.aired plan r := fun _ account =>
    account.onAir ((List.prefix_append _ _).trans planned)
  have late (sent : Nat) (r : Radio) (account : Account r₀ (data ++ burst config) sent r) :
      OnAir r₀.aired plan r := account.onAir planned
  have first := (lasting_account r₀ data told).toStable
  have last (sent : Nat) := (lasting_account r₀ (data ++ burst config) (told + sent)).toStable
  unfold Code.transmit
  apply begins.bind
  intro _
  apply (leaving (describe_orderly brBw) early).bind
  intro name
  apply (leaving (orderly_say wired first _) early).bind
  intro _
  apply (leaving (orderly_now wired first) early).bind
  intro started
  apply (sends_accounts wired planned).bind
  intro sent
  apply (leaving (orderly_now wired (last sent)) (late _)).bind
  intro ended
  apply (leaving (native_orderly _) (late _)).bind
  intro bps
  apply (leaving (orderly_say wired (last sent) _) (late _)).bind
  intro _
  exact .pure fun _ resting => resting

end Bursts

/-- A burst that returns has put its packets on air, in order and each once. Of as many as it
says it sent, the radio has finished the transmission since the burst's reset; and with those
still under way, it has begun no more than the packets. -/
theorem burst_told (wired : Wired board modem) {config : Config} {brBw : Int} {n n' : Node σ}
    {sent : Nat} (idle : Idle modem n)
    (returned : Returns (Code.transmit board fuel config brBw) n sent n') :
    Idle modem n' ∧ (radioAt modem n').aired = (radioAt modem n).aired ++ burst config ∧
      ∃ r, (radioAt modem n).Overhears r ∧
        r.completed + sent ≤ (radioAt modem n').completed ∧
        (radioAt modem n').completed + (radioAt modem n').pending ≤
          r.completed + config.packets := by
  obtain ⟨_, n₁, begins, -⟩ := returns_bind.mp returned
  unfold begin at begins
  split at begins
  · exact absurd begins not_returns_raise
  obtain ⟨_, n₂, resets, -⟩ := returns_bind.mp begins
  obtain ⟨sent₂, r, heard, left⟩ := reset_clears wired idle resets
  have aired : r.cleared.aired = (radioAt modem n).aired := heard.sameSetup.aired
  have lasting := lasting_account r.cleared [] 0
  have fresh : Resting modem (Account r.cleared [] 0) n₂ :=
    ⟨sent₂.idle, lasting.overhears left (.start r.cleared)⟩
  have brought : Triple (· = n) (begin board fuel (Code.settings config brBw))
      (fun _ => Resting modem (Account r.cleared [] 0))
      (Left modem (OnAir r.cleared.aired (burst config))) := by
    refine begin_orderly wired lasting _ ?_ (.ofReturns resets fresh) ?_
    · rintro m rfl
      refine Resting.left ⟨idle, [], List.nil_prefix, ?_⟩ (not_ofBus_valueError _)
      rw [Aired, List.append_nil, aired]
    · intro e m out
      exact ⟨out.selected, out.radio.onAir List.nil_prefix⟩
  obtain ⟨idle', account⟩ := (burst_accounts wired List.prefix_rfl brought n rfl).1
    sent n' returned
  refine ⟨idle', ?_, r, heard, ?_, ?_⟩
  · rw [account.aired, aired]
    rfl
  · have down : r.cleared.flagged 19 = false := Nat.zero_testBit 19
    have told := account.told
    have same : r.cleared.completed = r.completed := rfl
    rw [down, same] at told
    simp only [Bool.toNat_false] at told
    omega
  · have begun := account.begun
    rw [List.nil_append, burst, List.length_map, List.length_range] at begun
    exact begun

/-- The wait for the first transmission has run out when it is finished. -/
theorem burst_told_one :
    ∃ n' : Node Desk, (radioAt Desk.modem n').aired.length = 2 ∧
      1 ≤ (radioAt Desk.modem n').completed := by
  let pair : Config := { config with payloadLen := 6, packets := 2 }
  let coming := List.replicate 120 [] ++ List.replicate 60 [Happening.txDone]
  have returned : Returns (Code.transmit Desk.board 9 pair 0) (Desk.node coming) 1 _ :=
    returns_run (by decide +kernel)
  obtain ⟨-, aired, r, -, told, -⟩ := burst_told (n := Desk.node coming) Desk.wired rfl returned
  refine ⟨_, ?_, Nat.le_trans (Nat.le_add_left 1 r.completed) told⟩
  rw [aired]
  decide +kernel

end Lr2021.Link
