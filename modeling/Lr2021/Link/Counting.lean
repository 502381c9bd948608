import Lr2021.Link.Bringup
import Lr2021.Link.Delivery
import Lr2021.Link.WholeRun
import Lr2021.PacketErrorRate

set_option autoImplicit false

/-! What the receiving side of the link test counts and reports. -/
namespace Lr2021.Link

open Procedure RecordStream Assignments

variable {ε σ : Type} {board : Board ε σ} {modem : σ → Modem} {fuel : Nat} {config : Config}
  {n n' : Node σ}

/-- The test for a packet of the link test. -/
def isOurs (bytes : List UInt8) : Bool := (Code.seqOf bytes).isSome

/-- The good packets that carry its mark. -/
def ours (heard : List Happening) : List (List UInt8) := (goods heard).filter isOurs

/-- A packet of a burst gives back its number, as far as two bytes hold it. -/
theorem seqOf_padded (payloadLen seq : Nat) :
    Code.seqOf (Code.padded payloadLen seq) = some (seq % 65536) := by
  have low := toNat_byteOf seq 0
  have high := toNat_byteOf seq 8
  have value : ((byteOf seq 8).toNat <<< 8) ||| (byteOf seq 0).toNat = seq % 65536 := by
    rw [← Nat.shiftLeft_add_eq_or_of_lt (UInt8.toNat_lt _), Nat.shiftLeft_eq]
    omega
  have long : ¬(Code.padded payloadLen seq).length < 6 := by
    rw [Code.padded, List.length_append, Code.body]
    simp only [Code.magic, List.cons_append, List.nil_append, List.length_cons, List.length_nil]
    omega
  have marked : (Code.padded payloadLen seq).take 4 = Code.magic := rfl
  rw [Code.seqOf, if_neg (not_or.mpr ⟨long, not_not_intro marked⟩), ← value]
  rfl

/-- What the module rates, it rates by the losses in thousandths, rounded down. -/
theorem modFlrcPerPermille_ok {python : MicroPython Int} {sent received per : Int}
    (positive : 0 < sent) (exactSent : python.Exact sent) (exactReceived : python.Exact received)
    (accepted : Module.modFlrcPerPermille python sent received = .ok per) :
    per * sent ≤ 1000 * max (sent - received) 0 ∧
      1000 * max (sent - received) 0 < (per + 1) * sent := by
  unfold Module.modFlrcPerPermille at accepted
  cases total : python.objGetInt sent with
  | error e => rw [total] at accepted; cases accepted
  | ok s =>
    cases count : python.objGetInt received with
    | error e => rw [total, count] at accepted; cases accepted
    | ok r =>
      rw [total, count] at accepted
      obtain ⟨nonneg, value⟩ := Module.checked_ok accepted
      have sentIs := exactSent s total
      have receivedIs := exactReceived r count
      have some : 0 < s := Int32.lt_iff_toInt_lt.mpr (by rw [sentIs]; exact positive)
      have counted : 0 ≤ r := by
        apply Int32.not_lt.mp
        intro negative
        rw [errorRate_refused (Or.inr negative)] at nonneg
        exact absurd nonneg (by decide)
      have bracket := errorRate_bracket some counted
      rw [errorRate, value, sentIs, receivedIs] at bracket
      exact bracket

/-- The length of a radio's packets, once it is brought up. -/
theorem packetLen_of_channel {python : MicroPython Int} {settings : Settings} {r : Radio}
    {row : Int × Int} {packed : Int} (found : paHfRow settings.powerDbm = some row)
    (accepted : Module.modFlrcModulationParams python settings.brBw settings.cr settings.shaping =
      .ok packed)
    (fits : settings.payloadLen < 65536) (channel : r.settings = settings.channel python) :
    r.packetLen = settings.payloadLen := by
  have plan : settings.plan python = firstCommands ++ settings.lastCommands packed row := by
    rw [Settings.plan, found, accepted]
  have distinct : (((settings.plan python).map Issued.assignment).map (·.1)).Nodup := by
    rw [plan, keys_eq]
    exact channelKeys_nodup
  have entry : settings.channel python (cmdSetFlrcPacketParams, 0) =
      [byteOf (((settings.preamble &&& 0x0F) <<< 2) ||| 2 : Nat) 0, 0x4E,
        byteOf settings.payloadLen 8, byteOf settings.payloadLen 0] := by
    apply assigned_mem distinct
    rw [plan]
    exact List.mem_map.mpr ⟨_, List.mem_append_right _ (List.mem_cons_of_mem _ List.mem_cons_self),
      rfl⟩
  have low := toNat_byteOf settings.payloadLen 0
  have high := toNat_byteOf settings.payloadLen 8
  unfold Radio.packetLen
  rw [channel, entry]
  dsimp only
  omega

/-- Since it was reset, a radio has its CRC flag up only for a failure that it heard. -/
def Explained (base : List Happening) (r : Radio) : Prop :=
  ∃ heard, r.happened = base ++ heard ∧ (r.flagged 22 = true → failures heard ≠ [])

theorem lasting_explained (base : List Happening) : Lasting (Explained base) where
  hear r happening explained := by
    obtain ⟨heard, happened, cause⟩ := explained
    by_cases admitted : r.Admits happening
    · refine ⟨heard ++ [happening], ?_, fun up none => ?_⟩
      · rw [Radio.hear, if_pos admitted, ← List.append_assoc, ← happened]
      · rw [failures_snoc, List.append_eq_nil_iff] at none
        rw [Radio.flagged_hear admitted, Happening.raises_crcError, Bool.or_eq_true] at up
        rcases up with old | new
        · exact cause old none.1
        · cases happening with
          | bad residue done => cases none.2
          | _ => cases new
    · rw [Radio.hear, if_neg admitted]
      exact ⟨heard, happened, cause⟩
  read _ _ explained := explained
  clear r explained := by
    obtain ⟨heard, happened, -⟩ := explained
    have down : r.cleared.flagged 22 = false := Nat.zero_testBit 22
    refine ⟨heard, happened, fun up => ?_⟩
    rw [down] at up
    cases up
  execute opcode args other r explained := by
    obtain ⟨heard, happened, cause⟩ := explained
    have silent := execute_silent r args other
    exact ⟨heard, silent.happened.trans happened, fun up => cause (silent.flagged up)⟩

/-- A rate that is brought up: the driver and the radio agree on the length of a packet, and
no old CRC flag is left. -/
structure BroughtUp (modem : σ → Modem) (base : List Happening) (n : Node σ) : Prop where
  idle : Idle modem n
  configured : n.payloadLen = (radioAt modem n).packetLen
  explained : Explained base (radioAt modem n)

section Listening

variable (wired : Wired board modem)

include wired

theorem begin_explained {settings : Settings} (idle : Idle modem n)
    (returned : Returns (begin board fuel settings) n () n') :
    Explained (radioAt modem n).happened (radioAt modem n') := by
  have lasting := lasting_explained (radioAt modem n).happened
  have resets : Triple (· = n) (reset board fuel)
      (fun _ => Resting modem (Explained (radioAt modem n).happened)) (fun _ _ => True) := by
    rintro m rfl
    constructor
    · intro _ n₁ cleared
      obtain ⟨sent, r, heard, left⟩ := reset_clears wired idle cleared
      obtain ⟨earlier, happened, -⟩ := heard.soundly
      have down : r.cleared.flagged 22 = false := Nat.zero_testBit 22
      have fresh : Explained (radioAt modem m).happened r.cleared := by
        refine ⟨earlier, happened, fun up => ?_⟩
        rw [down] at up
        cases up
      exact ⟨sent.idle, lasting.overhears left fresh⟩
    · exact fun _ _ _ => True.intro
  have brought := begin_orderly wired lasting settings (fun _ _ => True.intro) resets
    fun _ _ _ => True.intro
  exact ((brought n rfl).1 () n' returned).radio

theorem begin_brings {settings : Settings} (fits : settings.payloadLen < 65536)
    (idle : Idle modem n) (returned : Returns (begin board fuel settings) n () n') :
    BroughtUp modem (radioAt modem n).happened n' := by
  obtain ⟨inside, accepted, idle', payloadLen, -, channel⟩ :=
    begin_configures wired idle returned
  obtain ⟨i, power⟩ := (powerInRange_iff _).mp inside
  have found : paHfRow settings.powerDbm = some paHf[i] := by
    rw [power]
    exact paHfRow_eq i
  refine ⟨idle', ?_, begin_explained wired idle returned⟩
  cases modulation : Module.modFlrcModulationParams board.python settings.brBw settings.cr
      settings.shaping with
  | error e =>
    rw [modulation] at accepted
    cases accepted
  | ok packed => rw [payloadLen, packetLen_of_channel found modulation fits channel]

/-- What sets something else than the packet length does not disturb the account. -/
theorem Listening.setting {before : List Happening} {stale : Nat} {outs : List Polled}
    {opcode : UInt16} {args : List UInt8}
    (sets : ∀ r : Radio, r.execute opcode args = (none, r.set opcode args))
    (other : opcode ≠ cmdSetFlrcPacketParams)
    (listening : Listening modem before stale outs n)
    (returned : Returns (cmd board fuel opcode args) n () n') :
    Listening modem before stale outs n' := by
  obtain ⟨since, s, marked, ledger⟩ := listening.account
  obtain ⟨sent, r, heard, same, -⟩ := cmd_sent wired listening.idle returned
  obtain ⟨since', s', -, ledger', -⟩ := ledger.overhears heard
  rw [sets] at same
  have key : (cmdSetFlrcPacketParams, (0 : UInt8)) ≠ (opcode, Radio.pinOf opcode args) :=
    fun same => other (congrArg Prod.fst same).symm
  have packetLen : (radioAt modem n').packetLen = r.packetLen := by
    rw [same, Radio.packetLen, Radio.packetLen, Radio.set]
    dsimp only
    rw [Function.update_of_ne key]
  refine ⟨sent.idle, ?_, since', s', marked, ?_⟩
  · rw [sent.payloadLen, listening.configured, packetLen, heard.sameSetup.packetLen]
  · refine ⟨?_, ?_, ?_, ?_, ?_, ledger'.marks, ledger'.owes, ledger'.torn, ?_, ledger'.exactly⟩
    · rw [same]
      exact ledger'.happened
    · rw [same]
      exact ledger'.fifo
    · rw [same]
      exact ledger'.room
    · rw [packetLen]
      exact ledger'.sized
    · rw [same]
      exact ledger'.warned
    · rw [same]
      exact ledger'.reported

/-- The receiver starts to listen, to an empty FIFO. -/
theorem startReceive_listens {base : List Happening} (brought : BroughtUp modem base n)
    (returned : Returns (startReceive board fuel) n () n') :
    ∃ earlier stale, Listening modem (base ++ earlier) stale [] n' ∧
      (failures earlier = [] → stale = 0) := by
  obtain ⟨_, n₁, clears, sets⟩ := returns_bind.mp returned
  obtain ⟨sent, r, heard, same, -⟩ := cmd_sent wired brought.idle clears
  rw [Radio.execute_clearRxFifo] at same
  have asked := (lasting_explained base).overhears heard brought.explained
  have explained : Explained base (radioAt modem n₁) := by
    rw [same]
    exact asked
  have start : Listening modem (radioAt modem n₁).happened ((radioAt modem n₁).flagged 22).toNat []
      n₁ := by
    refine .start sent.idle ?_ (by rw [same])
    rw [sent.payloadLen, brought.configured, same]
    exact heard.sameSetup.packetLen.symm
  obtain ⟨earlier, happened, cause⟩ := explained
  rw [happened] at start
  refine ⟨earlier, _, start.setting wired (fun _ => rfl) (by decide) sets, fun none => ?_⟩
  cases up : (radioAt modem n₁).flagged 22 with
  | false => rfl
  | true => exact absurd none (cause up)

end Listening

/-- The tally is that of the polls so far. -/
structure Counted (modem : σ → Modem) (before : List Happening) (stale : Nat) (tally : Code.Tally)
    (outs : List Polled) (n : Node σ) : Prop where
  listening : Listening modem before stale outs n
  got : tally.got = ((packets outs).filter isOurs).length
  crcErrors : tally.crcErrors = crcFailures outs

theorem Counted.waits {before : List Happening} {stale : Nat} {tally : Code.Tally}
    {outs : List Polled} (counted : Counted modem before stale tally outs n)
    (waits : Waits modem n n') : Counted modem before stale tally outs n' :=
  ⟨counted.listening.waits waits, counted.got, counted.crcErrors⟩

section Window

variable (wired : Wired board modem) {before : List Happening} {stale : Nat}

include wired

theorem receiveRound_counts {deadline : Nat} {tally : Code.Tally} {outs : List Polled}
    {out : Code.Tally ⊕ Code.Tally} (counted : Counted modem before stale tally outs n)
    (returned : Returns (Code.receiveRound board fuel deadline tally) n out n') :
    ∃ outs', Counted modem before stale (out.elim id id) outs' n' := by
  obtain ⟨now, n₁, looks, rest⟩ := returns_bind.mp returned
  have waited := counted.waits (now_waits wired looks)
  split at rest
  · obtain ⟨polled, n₂, polls, rest⟩ := returns_bind.mp rest
    have listening := waited.listening.poll wired polls
    have count := packets_append outs [polled]
    have failed := crcFailures_append outs [polled]
    cases polled with
    | nothing =>
      obtain ⟨rfl, rfl⟩ := returns_pure.mp rest
      refine ⟨_, listening, ?_, failed ▸ waited.crcErrors⟩
      rw [count, List.filter_append, List.length_append]
      exact waited.got
    | crcFailure =>
      obtain ⟨rfl, rfl⟩ := returns_pure.mp rest
      refine ⟨_, listening, ?_, failed ▸ congrArg (· + 1) waited.crcErrors⟩
      rw [count, List.filter_append, List.length_append]
      exact waited.got
    | packet bytes =>
      dsimp only at rest
      have one : ((packets (outs ++ [.packet bytes])).filter isOurs).length =
          tally.got + (isOurs bytes).toNat := by
        rw [count, List.filter_append, List.length_append, waited.got]
        change _ + ([bytes].filter isOurs).length = _
        rw [List.filter_singleton]
        cases isOurs bytes <;> rfl
      cases seq : Code.seqOf bytes with
      | none =>
        rw [seq] at rest
        obtain ⟨rfl, rfl⟩ := returns_pure.mp rest
        refine ⟨_, listening, ?_, failed ▸ waited.crcErrors⟩
        rw [one, isOurs, seq]
        rfl
      | some number =>
        rw [seq] at rest
        obtain ⟨time, n₃, looks', rest⟩ := returns_bind.mp rest
        obtain ⟨rfl, rfl⟩ := returns_pure.mp rest
        refine ⟨_, listening.waits (now_waits wired looks'), ?_, failed ▸ waited.crcErrors⟩
        rw [one, isOurs, seq]
        rfl
  · obtain ⟨rfl, rfl⟩ := returns_pure.mp rest
    exact ⟨outs, waited⟩

end Window

/-- A window that returns has counted its polls, from an empty FIFO on, and rates the count. -/
theorem receive_account (wired : Wired board modem) (idle : Idle modem n)
    (fits : config.payloadLen < 65536) {brBw : Int} {got : Nat} {per bps : Int}
    (returned : Returns (Code.receive board fuel config brBw) n (got, per, bps) n') :
    Module.modFlrcPerPermille board.python config.packets got = .ok per ∧
      ∃ earlier stale tally outs,
        Counted modem ((radioAt modem n).happened ++ earlier) stale tally outs n' ∧
        tally.got = got ∧ (failures earlier = [] → stale = 0) := by
  obtain ⟨_, n₁, begins, rest⟩ := returns_bind.mp returned
  obtain ⟨_, n₂, starts, rest⟩ := returns_bind.mp rest
  obtain ⟨name, n₃, described, rest⟩ := returns_bind.mp rest
  obtain ⟨_, n₄, spoken, rest⟩ := returns_bind.mp rest
  obtain ⟨now, n₅, looks, rest⟩ := returns_bind.mp rest
  obtain ⟨tally, n₆, loop, rest⟩ := returns_bind.mp rest
  obtain ⟨per', n₇, rated, rest⟩ := returns_bind.mp rest
  obtain ⟨bps', n₈, timed, rest⟩ := returns_bind.mp rest
  obtain ⟨_, n₉, reports, rest⟩ := returns_bind.mp rest
  obtain ⟨same, rfl⟩ := returns_pure.mp rest
  obtain ⟨rfl, rfl, rfl⟩ : got = tally.got ∧ per = per' ∧ bps = bps' := by simpa using same
  obtain ⟨rating, rfl⟩ := Code.returns_native rated
  obtain ⟨-, rfl⟩ := Code.returns_native timed
  rw [Code.returns_describe described] at spoken
  have brought := begin_brings wired fits idle begins
  obtain ⟨earlier, stale, listening, fresh⟩ := startReceive_listens wired brought starts
  have waited := (listening.waits (say_waits wired spoken)).waits (now_waits wired looks)
  have start : ∃ outs, Counted modem ((radioAt modem n).happened ++ earlier) stale
      ⟨0, 0, none, none⟩ outs n₅ := ⟨[], waited, rfl, rfl⟩
  obtain ⟨tally', m, rounds, last⟩ := whileLoop_returns loop
  have counted := rounds_invariant (fun tally m => ∃ outs,
    Counted modem ((radioAt modem n).happened ++ earlier) stale tally outs m)
    (fun _ _ _ _ before round => before.elim fun _ counted =>
      receiveRound_counts wired counted round) rounds start
  obtain ⟨outs, counted⟩ := counted
  obtain ⟨outs', counted'⟩ := receiveRound_counts wired counted last
  exact ⟨rating, earlier, stale, tally, outs', counted'.waits (say_waits wired reports), rfl, fresh⟩

theorem marked_split (p : List UInt8 → Bool) (marked : List (List UInt8 × Bool)) :
    ((marked.map (·.1)).filter p).length =
      ((wholePackets marked).filter p).length + ((tornPackets marked).filter p).length := by
  unfold wholePackets tornPackets
  induction marked with
  | nil => rfl
  | cons taken rest ih =>
    obtain ⟨bytes, mark⟩ := taken
    cases mark <;> cases holds : p bytes <;> simp [holds] at ih ⊢ <;> omega

/-- The count is made up of whole packets and of pieces that failed packets left. -/
theorem Counted.split {before : List Happening} {stale : Nat} {tally : Code.Tally}
    {outs : List Polled} (counted : Counted modem before stale tally outs n) :
    ∃ since whole torn, (radioAt modem n).happened = before ++ since ∧
      tally.got = whole.length + torn ∧ whole.Sublist (ours since) ∧ torn ≤ spills since ∧
      ((failures since).length + stale = 0 → torn = 0 ∧ whole <+: ours since) := by
  obtain ⟨since, s, marked, ledger⟩ := counted.listening.account
  have owed : (wholePackets marked).Sublist (goods since) :=
    (List.sublist_append_left _ _).trans ledger.owes
  have pieces : ((tornPackets marked).filter isOurs).length ≤ (tornPackets marked).length :=
    List.length_filter_le _ _
  refine ⟨since, (wholePackets marked).filter isOurs, ((tornPackets marked).filter isOurs).length,
    ledger.happened, ?_, owed.filter isOurs, Nat.le_trans pieces ledger.torn, ?_⟩
  · rw [counted.got, ← ledger.marks]
    exact marked_split isOurs marked
  · intro clean
    obtain ⟨exactly, -⟩ := ledger.exactly clean
    have none : failures since = [] := List.eq_nil_of_length_eq_zero (by omega)
    have few := ledger.torn
    rw [spills, none, List.countP_nil] at few
    refine ⟨Nat.le_zero.mp (Nat.le_trans pieces few), ?_⟩
    rw [ours, ← exactly, List.filter_append]
    exact List.prefix_append _ _

/-- What a window reports, over every interleaving with the radio: the count is that of marked
packets that the radio received since its FIFO was cleared, in order and each once, but for at
most one piece for each failed packet that left bytes; where nothing failed it has the first of
them with none left out; and the error rate is that of the count, in tenths of a percent rounded
down, if MicroPython does not convert the two numbers to words of other values. -/
theorem receive_counts (wired : Wired board modem) (idle : Idle modem n)
    (fits : config.payloadLen < 65536) {brBw : Int} {got : Nat} {per bps : Int}
    (returned : Returns (Code.receive board fuel config brBw) n (got, per, bps) n') :
    ∃ earlier since whole torn,
      (radioAt modem n').happened = (radioAt modem n).happened ++ (earlier ++ since) ∧
      got = whole.length + torn ∧ whole.Sublist (ours since) ∧ torn ≤ spills since ∧
      (failures (earlier ++ since) = [] → torn = 0 ∧ whole <+: ours since) ∧
      (0 < config.packets → board.python.Exact config.packets → board.python.Exact got →
        per * config.packets ≤ 1000 * max (config.packets - got : Int) 0 ∧
        1000 * max (config.packets - got : Int) 0 < (per + 1) * config.packets) := by
  obtain ⟨rating, earlier, stale, tally, outs, counted, rfl, fresh⟩ :=
    receive_account wired idle fits returned
  obtain ⟨since, whole, torn, happened, count, received, few, clean⟩ := counted.split
  refine ⟨earlier, since, whole, torn, ?_, count, received, few, ?_, ?_⟩
  · rw [happened, List.append_assoc]
  · intro none
    rw [failures, List.filterMap_append, List.append_eq_nil_iff] at none
    apply clean
    rw [fresh none.1, failures, none.2]
    rfl
  · intro positive exactSent exactReceived
    exact modFlrcPerPermille_ok (Int.natCast_pos.mpr positive) exactSent exactReceived rating

/-- The first of two packets comes in. -/
def Desk.oneComing : List (List Happening) :=
  List.replicate 130 [] ++ [[.good [0x4C, 0x52, 0x32, 0x31, 0x00, 0x00]]]

/-- A burst of two short packets. -/
def Desk.pair : Config := { Link.config with payloadLen := 6, packets := 2 }

theorem receive_counts_half :
    ∃ (since : List Happening) (whole : List (List UInt8)) (torn : Nat),
      1 = whole.length + torn ∧ whole.Sublist (ours since) ∧ torn ≤ spills since := by
  have returned : Returns (Code.receive Desk.board 60 Desk.pair 0) (Desk.node Desk.oneComing)
      ((1 : Nat), (500 : Int), (0 : Int)) _ := returns_run (by decide +kernel)
  obtain ⟨-, since, whole, torn, -, count, received, few, -⟩ :=
    receive_counts (n := Desk.node Desk.oneComing) Desk.wired rfl (by decide) returned
  exact ⟨since, whole, torn, count, received, few⟩

/-- The two ends of a link, whatever happens on either board. Let the air add nothing: of the
marked packets, the receiver's radio hears only what the sender puts on air in its burst, in
order and each at most once. Then the receiver counts different packets of the burst that its
radio received, and reads their numbers off them modulo 65536, apart from pieces that failed
packets left; and where no packet failed, the error rate it reports is the share of the burst's
packets that it did not count. -/
theorem link_counts {ε' σ' : Type} {board' : Board ε' σ'} {modem' : σ' → Modem} {fuel' : Nat}
    {m m' : Node σ'} (wired : Wired board modem) (wired' : Wired board' modem')
    (idle : Idle modem n) (idle' : Idle modem' m) (fits : config.payloadLen < 65536)
    {brBw : Int} {sent got : Nat} {per bps : Int}
    (sends : Returns (Code.transmit board fuel config brBw) n sent n')
    (receives : Returns (Code.receive board' fuel' config brBw) m (got, per, bps) m')
    (air : ∀ heard, (radioAt modem' m').happened = (radioAt modem' m).happened ++ heard →
      (ours heard).Sublist ((radioAt modem n').aired.drop (radioAt modem n).aired.length)) :
    ∃ (heard : List Happening) (seqs : List Nat) (torn : Nat),
      (radioAt modem' m').happened = (radioAt modem' m).happened ++ heard ∧
      seqs.Sublist (List.range config.packets) ∧
      (seqs.map (Code.padded config.payloadLen)).Sublist (ours heard) ∧
      (seqs.map (Code.padded config.payloadLen)).map Code.seqOf =
        seqs.map (fun seq => some (seq % 65536)) ∧
      got = seqs.length + torn ∧ torn ≤ spills heard ∧
      (failures heard = [] → torn = 0 ∧
        (0 < config.packets → board'.python.Exact config.packets → board'.python.Exact got →
          per * config.packets ≤ 1000 * (config.packets - seqs.length : Int) ∧
          1000 * (config.packets - seqs.length : Int) < (per + 1) * config.packets)) := by
  obtain ⟨rating, earlier, stale, tally, outs, counted, rfl, fresh⟩ :=
    receive_account wired' idle' fits receives
  obtain ⟨since, whole, torn, happened, count, received, few, clean⟩ := counted.split
  have all : (radioAt modem' m').happened = (radioAt modem' m).happened ++ (earlier ++ since) := by
    rw [happened, List.append_assoc]
  have later : (ours since).Sublist (ours (earlier ++ since)) := by
    rw [ours, ours, goods, goods, List.filterMap_append, List.filter_append]
    exact List.sublist_append_right _ _
  have aired := ((codeTransmit_airs wired List.prefix_rfl brBw n
    ⟨idle, (List.append_nil (radioAt modem n).aired).symm⟩).1 sent n' sends).radio
  have burstOnly : (whole.Sublist (burst config)) := by
    have heard := received.trans (later.trans (air _ all))
    rwa [aired, List.drop_left, List.nil_append] at heard
  obtain ⟨seqs, numbers, rfl⟩ := List.sublist_map_iff.mp burstOnly
  rw [List.length_map] at count
  refine ⟨earlier ++ since, seqs, torn, all, numbers, received.trans later, ?_, count, ?_, ?_⟩
  · rw [List.map_map]
    exact List.map_congr_left fun seq _ => seqOf_padded config.payloadLen seq
  · refine Nat.le_trans few ?_
    rw [spills, spills, failures, failures, List.filterMap_append, List.countP_append]
    exact Nat.le_add_left _ _
  · intro none
    rw [failures, List.filterMap_append, List.append_eq_nil_iff] at none
    obtain ⟨whole, -⟩ := clean (by rw [fresh none.1, failures, none.2]; rfl)
    refine ⟨whole, fun positive exactSent exactReceived => ?_⟩
    have bracket :=
      modFlrcPerPermille_ok (Int.natCast_pos.mpr positive) exactSent exactReceived rating
    have within := numbers.length_le
    rw [List.length_range] at within
    rw [count, whole, Nat.add_zero, Int.max_eq_left (by omega)] at bracket
    exact bracket

/-- Of two packets that are put on air, the first is heard. -/
theorem link_counts_half :
    ∃ seqs : List Nat, seqs.Sublist [0, 1] ∧ seqs.length = 1 := by
  let done := List.replicate 400 [Happening.txDone]
  have sends : Returns (Code.transmit Desk.board 9 Desk.pair 0) (Desk.node done) (2 : Nat) _ :=
    returns_run (by decide +kernel)
  have receives : Returns (Code.receive Desk.board 60 Desk.pair 0) (Desk.node Desk.oneComing)
      ((1 : Nat), (500 : Int), (0 : Int)) _ := returns_run (by decide +kernel)
  obtain ⟨heard, seqs, torn, happened, numbers, -, -, count, -, clean⟩ :=
    link_counts (n := Desk.node done) (m := Desk.node Desk.oneComing) Desk.wired Desk.wired rfl rfl
      (by decide) sends receives fun heard happened => by
        have all : [Happening.good [0x4C, 0x52, 0x32, 0x31, 0x00, 0x00]] = heard := by
          rw [← List.nil_append heard]
          refine Eq.trans ?_ happened
          decide +kernel
        rw [← all]
        decide +kernel
  have all : [Happening.good [0x4C, 0x52, 0x32, 0x31, 0x00, 0x00]] = heard := by
    rw [← List.nil_append heard]
    refine Eq.trans ?_ happened
    decide +kernel
  have whole := (clean (by rw [← all]; rfl)).1
  refine ⟨seqs, numbers, ?_⟩
  omega

end Lr2021.Link
