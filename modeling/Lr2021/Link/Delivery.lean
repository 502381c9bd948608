import Lr2021.Link.Polling
import Lr2021.Link.Bench
import Mathlib.Data.List.Forall2

set_option autoImplicit false

/-! Runs of polls: what of all that a radio heard comes out of them. -/
namespace Lr2021.Link

open Procedure RecordStream

variable {ε σ : Type} {board : Board ε σ} {modem : σ → Modem} {fuel : Nat} {n n' : Node σ}

/-- Polls that returned, one after the other, with waiting in between. -/
inductive Polls (board : Board ε σ) (modem : σ → Modem) (fuel : Nat) :
    Node σ → List Polled → Node σ → Prop
  | done {n n' : Node σ} (waits : Waits modem n n') : Polls board modem fuel n [] n'
  | polled {n n₁ n₂ n' : Node σ} {out : Polled} {outs : List Polled} (waits : Waits modem n n₁)
      (returned : Returns (poll board fuel) n₁ out n₂) (rest : Polls board modem fuel n₂ outs n') :
      Polls board modem fuel n (out :: outs) n'

theorem Polls.listening (wired : Wired board modem) {before : List Happening} {stale : Nat}
    {outs outs' : List Polled} (polls : Polls board modem fuel n outs' n')
    (listening : Listening modem before stale outs n) :
    Listening modem before stale (outs ++ outs') n' := by
  induction polls generalizing outs with
  | done waits =>
    rw [List.append_nil]
    exact listening.waits waits
  | @polled n n₁ n₂ n' out outs'' waits returned rest ih =>
    rw [List.append_cons]
    exact ih ((listening.waits waits).poll wired returned)

/-- The radio starts from an empty FIFO. -/
theorem Listening.start (idle : Idle modem n)
    (configured : n.payloadLen = (radioAt modem n).packetLen)
    (empty : (radioAt modem n).rxFifo = []) :
    Listening modem (radioAt modem n).happened ((radioAt modem n).flagged 22).toNat [] n := by
  refine ⟨idle, configured, [], .empty, [], ?_⟩
  refine ⟨(List.append_nil _).symm, empty, ?_, fun _ member => absurd member List.not_mem_nil,
    fun left => absurd rfl left, rfl, List.Sublist.refl _, Nat.zero_le _, Nat.le_of_eq ?_,
    fun _ => ⟨rfl, rfl⟩⟩
  · rw [empty]
    exact Nat.zero_le _
  · exact rfl

/-- However polls and the radio interleave: what polls give back as packets is, in order and
without repetition, what the radio received whole, but for at most one piece for each failed
packet that left bytes behind; they report no more failures than there were; and where
nothing failed they give back what came first, with nothing left out. -/
theorem polls_deliver (wired : Wired board modem) (idle : Idle modem n)
    (configured : n.payloadLen = (radioAt modem n).packetLen)
    (empty : (radioAt modem n).rxFifo = []) {outs : List Polled}
    (polls : Polls board modem fuel n outs n') :
    ∃ since marked, (radioAt modem n').happened = (radioAt modem n).happened ++ since ∧
      marked.map (·.1) = packets outs ∧
      (wholePackets marked).Sublist (goods since) ∧
      (tornPackets marked).length ≤ spills since ∧
      crcFailures outs ≤ (failures since).length + ((radioAt modem n).flagged 22).toNat ∧
      (failures since = [] → (radioAt modem n).flagged 22 = false →
        packets outs <+: goods since) := by
  obtain ⟨-, -, since, s, marked, ledger⟩ :=
    polls.listening wired (Listening.start idle configured empty)
  rw [List.nil_append] at ledger
  refine ⟨since, marked, ledger.happened, ledger.marks, ?_, ledger.torn, ?_, ?_⟩
  · exact (List.sublist_append_left _ _).trans ledger.owes
  · exact Nat.le_trans (Nat.le_add_right _ _) ledger.reported
  · intro sound down
    obtain ⟨exactly, -⟩ := ledger.exactly (by rw [sound, down]; rfl)
    have none : tornPackets marked = [] := by
      have few := ledger.torn
      rw [spills, sound] at few
      exact List.eq_nil_of_length_eq_zero (Nat.le_zero.mp few)
    rw [← exactly, ← ledger.marks, wholePackets_of_not_torn none]
    exact List.prefix_append _ _

/-- A failure is reported, and while it is, a packet comes in that is cleared away. Its RxDone
stays up, so that the three bytes that the next failure leaves are taken for a packet. -/
theorem polls_deliver_torn :
    ∃ since marked, marked.map (·.1) = [[1, 2, 3]] ∧
      (wholePackets marked).Sublist (goods since) ∧
      (tornPackets marked).length ≤ spills since := by
  let coming : List (List Happening) := [[.bad [] false]] ++ List.replicate 9 [] ++
    [[.good [0x4C, 0x52, 0x32, 0x31, 0x00, 0x01]]] ++ List.replicate 9 [] ++
    [[.bad [1, 2, 3] false]]
  have polls : Polls Desk.board Desk.modem 3 (Desk.node coming)
      [.crcFailure, .packet [1, 2, 3]] _ :=
    .polled (.refl _) (returns_run (by decide +kernel))
      (.polled (.refl _) (returns_run (by decide +kernel)) (.done (.refl _)))
  obtain ⟨since, marked, -, marks, whole, torn, -⟩ :=
    polls_deliver (n := Desk.node coming) Desk.wired rfl (by decide) rfl polls
  exact ⟨since, marked, marks, whole, torn⟩

/-- What happened without failures: the good packets are in the FIFO, and RxDone is up if
there are any. -/
structure HeardSoundly (heard : List Happening) (r r' : Radio) : Prop where
  fifo : r'.rxFifo = r.rxFifo ++ (goods heard).flatten
  sized : ∀ payload ∈ goods heard, payload.length = r.packetLen
  crcError : r'.flagged 22 = r.flagged 22
  rxDone : r'.flagged 18 = (r.flagged 18 || !(goods heard).isEmpty)

theorem HeardSoundly.hear {heard : List Happening} {r r' : Radio} {happening : Happening}
    (sound : HeardSoundly heard r r') (same : r'.packetLen = r.packetLen)
    (admitted : r'.Admits happening) (passed : happening.failed = false) :
    HeardSoundly (heard ++ [happening]) r (r'.hear happening) := by
  have bytes : (r'.hear happening).rxFifo = r'.rxFifo ++ happening.bytes := by
    rw [Radio.hear, if_pos admitted]
  have crcError : (r'.hear happening).flagged 22 = r.flagged 22 := by
    rw [Radio.flagged_hear admitted, Happening.raises_crcError, passed, Bool.or_false,
      sound.crcError]
  by_cases good : ∃ payload, happening = .good payload
  · obtain ⟨payload, rfl⟩ := good
    have more : goods (heard ++ [.good payload]) = goods heard ++ [payload] := goods_snoc _ _
    refine ⟨?_, ?_, crcError, ?_⟩
    · rw [bytes, sound.fifo, more, List.flatten_append, List.flatten_singleton,
        List.append_assoc]
      rfl
    · intro p member
      rw [more] at member
      rcases List.mem_append.mp member with old | new
      · exact sound.sized p old
      · rw [List.mem_singleton.mp new, ← same]
        exact admitted.1
    · rw [Radio.flagged_hear admitted, Happening.good_raises, more]
      simp
  · obtain ⟨none, quiet⟩ := Happening.other_quiet (fun p same => good ⟨p, same⟩) passed
    have fewer : goods (heard ++ [happening]) = goods heard := by
      rw [goods_snoc]
      cases happening with
      | good payload => exact absurd ⟨payload, rfl⟩ good
      | _ => exact List.append_nil _
    refine ⟨?_, ?_, crcError, ?_⟩
    · rw [bytes, none, List.append_nil, fewer, sound.fifo]
    · rw [fewer]
      exact sound.sized
    · rw [Radio.flagged_hear admitted, quiet, Bool.or_false, fewer, sound.rxDone]

theorem Radio.Overhears.soundly {r r' : Radio} (overhears : r.Overhears r') :
    ∃ heard, r'.happened = r.happened ++ heard ∧
      (r.rxFifo.length ≤ r.fifoSize.toNat → r'.rxFifo.length ≤ r'.fifoSize.toNat) ∧
      (failures heard = [] → HeardSoundly heard r r') := by
  have all : ∃ heard, r'.packetLen = r.packetLen ∧ r'.happened = r.happened ++ heard ∧
      (r.rxFifo.length ≤ r.fifoSize.toNat → r'.rxFifo.length ≤ r'.fifoSize.toNat) ∧
      (failures heard = [] → HeardSoundly heard r r') := by
    apply overhears.induct
    · refine ⟨[], rfl, (List.append_nil _).symm, id, fun _ => ?_⟩
      exact ⟨(List.append_nil _).symm, fun _ member => absurd member List.not_mem_nil, rfl,
        (Bool.or_false _).symm⟩
    · intro r₁ happening account
      obtain ⟨heard, same, happened, room, sound⟩ := account
      by_cases admitted : r₁.Admits happening
      · refine ⟨heard ++ [happening], ?_, ?_, ?_, ?_⟩
        · exact (Radio.hear_sameSetup r₁ happening).packetLen.trans same
        · rw [Radio.hear, if_pos admitted, ← List.append_assoc, ← happened]
        · intro _
          rw [Radio.hear, if_pos admitted, List.length_append]
          exact admitted.2
        · intro none
          rw [failures_snoc, List.append_eq_nil_iff] at none
          apply (sound none.1).hear same admitted
          cases happening with
          | bad residue done => cases none.2
          | _ => rfl
      · rw [Radio.hear, if_neg admitted]
        exact ⟨heard, same, happened, room, sound⟩
  obtain ⟨heard, -, rest⟩ := all
  exact ⟨heard, rest⟩

/-- Nothing is received, well or badly. -/
def Quiet (heard : List Happening) : Prop := goods heard = [] ∧ failures heard = []

/-- What a poll gives back when nothing is received while it runs, and what it leaves. -/
def undisturbed (payloadLen : Nat) (r : Radio) : Polled × List UInt8 :=
  if r.flagged 22 then (.crcFailure, [])
  else if r.flagged 18 then
    let length := min (r.rxFifo.length % 65536) payloadLen
    if length = 0 then (.nothing, r.rxFifo)
    else (.packet (clocked length r.rxFifo).toList, r.rxFifo.drop length)
  else (.nothing, r.rxFifo)

/-- What is left of a radio over a quiet time. -/
structure Same (r r' : Radio) : Prop where
  fifo : r'.rxFifo = r.rxFifo
  crcError : r'.flagged 22 = r.flagged 22
  rxDone : r'.flagged 18 = r.flagged 18

theorem Radio.Overhears.quiet {r r' : Radio} (overhears : r.Overhears r') :
    ∃ heard, r'.happened = r.happened ++ heard ∧ (Quiet heard → Same r r') := by
  obtain ⟨heard, happened, -, sound⟩ := overhears.soundly
  refine ⟨heard, happened, ?_⟩
  rintro ⟨none, passed⟩
  obtain ⟨fifo, -, crcError, rxDone⟩ := sound passed
  rw [none] at fifo rxDone
  exact ⟨fifo.trans (List.append_nil _), crcError, rxDone.trans (Bool.or_false _)⟩

theorem Same.trans {r₁ r₂ r₃ : Radio} (first : Same r₁ r₂) (second : Same r₂ r₃) : Same r₁ r₃ :=
  ⟨second.fifo.trans first.fifo, second.crcError.trans first.crcError,
    second.rxDone.trans first.rxDone⟩

theorem quiet_append {first second : List Happening} (quiet : Quiet (first ++ second)) :
    Quiet first ∧ Quiet second := by
  obtain ⟨none, passed⟩ := quiet
  rw [goods, List.filterMap_append, List.append_eq_nil_iff] at none
  rw [failures, List.filterMap_append, List.append_eq_nil_iff] at passed
  exact ⟨⟨none.1, passed.1⟩, none.2, passed.2⟩

/-- Of a quiet time, each part is quiet: the first stretch, and then the rest of it. -/
theorem Radio.Overhears.quietly {r r₁ r₂ r' : Radio} (first : r.Overhears r₁)
    {heard rest : List Happening} (happened : r'.happened = r.happened ++ heard)
    (later : r'.happened = r₂.happened ++ rest) (same : r₂.happened = r₁.happened)
    (quiet : Quiet heard) : Same r r₁ ∧ Quiet rest := by
  obtain ⟨heard₁, happened₁, calm⟩ := first.quiet
  have all : heard = heard₁ ++ rest := by
    have joined : r.happened ++ heard = r.happened ++ (heard₁ ++ rest) := by
      rw [← happened, later, same, happened₁, List.append_assoc]
    exact List.append_cancel_left joined
  rw [all] at quiet
  exact ⟨calm (quiet_append quiet).1, (quiet_append quiet).2⟩

/-- A poll in a quiet time does what it would do alone, and leaves no packet flag. -/
theorem PollStep.eq_undisturbed {payloadLen : Nat} {r r' : Radio} {out : Polled}
    (step : PollStep payloadLen r out r') {heard : List Happening}
    (happened : r'.happened = r.happened ++ heard) (quiet : Quiet heard) :
    (out, r'.rxFifo) = undisturbed payloadLen r ∧ r'.flagged 22 = false ∧
      r'.flagged 18 = false := by
  cases step with
  | @failed r₁ r₂ asked crcError later =>
    obtain ⟨heard₂, happened₂, calm⟩ := later.quiet
    obtain ⟨same₁, quiet₂⟩ := asked.quietly happened happened₂ rfl quiet
    have same₂ := calm quiet₂
    rw [undisturbed, ← same₁.crcError, crcError]
    refine ⟨rfl, ?_, ?_⟩
    · exact same₂.crcError.trans (Radio.flagged_takeFlags _ _)
    · exact same₂.rxDone.trans (Radio.flagged_takeFlags _ _)
  | @idle r₁ r₂ asked sound rxDone later =>
    obtain ⟨heard₂, happened₂, calm⟩ := later.quiet
    obtain ⟨same₁, quiet₂⟩ := asked.quietly happened happened₂ rfl quiet
    have same₂ := calm quiet₂
    rw [undisturbed, ← same₁.crcError, sound, ← same₁.rxDone, rxDone, same₂.fifo]
    refine ⟨congrArg (Prod.mk _) same₁.fifo, ?_, ?_⟩
    · exact same₂.crcError.trans (Radio.flagged_takeFlags _ _)
    · exact same₂.rxDone.trans (Radio.flagged_takeFlags _ _)
  | @empty r₁ r₂ r₃ asked sound rxDone later level last =>
    obtain ⟨heard₃, happened₃, calm⟩ := last.quiet
    obtain ⟨heard₂, happened₂, -⟩ := (later.trans last).quiet
    obtain ⟨same₁, quiet₂⟩ := asked.quietly happened happened₂ rfl quiet
    obtain ⟨same₂, quiet₃⟩ := later.quietly happened₂ happened₃ rfl quiet₂
    have same₃ := same₂.trans (calm quiet₃)
    have fifo : r₂.rxFifo = r.rxFifo := same₂.fifo.trans same₁.fifo
    rw [fifo] at level
    rw [undisturbed, ← same₁.crcError, sound, ← same₁.rxDone, rxDone, same₃.fifo]
    dsimp only
    rw [if_pos level]
    refine ⟨congrArg (Prod.mk _) same₁.fifo, ?_, ?_⟩
    · exact same₃.crcError.trans (Radio.flagged_takeFlags _ _)
    · exact same₃.rxDone.trans (Radio.flagged_takeFlags _ _)
  | @fetched r₁ r₂ r₃ r₄ length asked sound rxDone later level some between last =>
    obtain ⟨heard₄, happened₄, calm⟩ := last.quiet
    have after : r'.happened = r₃.happened ++ heard₄ := happened₄
    obtain ⟨heard₃, happened₃, -⟩ := between.quiet
    obtain ⟨heard₂, happened₂, -⟩ := later.quiet
    have happened₂₃ : r'.happened = r₂.happened ++ (heard₃ ++ heard₄) := by
      rw [after, happened₃, List.append_assoc]
    have happened₁₂ : r'.happened = r₁.takeFlags.happened ++ (heard₂ ++ (heard₃ ++ heard₄)) := by
      rw [happened₂₃, happened₂, List.append_assoc]
    obtain ⟨same₁, quiet₂⟩ := asked.quietly happened happened₁₂ rfl quiet
    obtain ⟨same₂, quiet₃⟩ := later.quietly happened₁₂ happened₂₃ rfl quiet₂
    obtain ⟨same₃, quiet₄⟩ := between.quietly happened₂₃ after rfl quiet₃
    have same₄ := calm quiet₄
    have fifo₂ : r₂.rxFifo = r.rxFifo := same₂.fifo.trans same₁.fifo
    have fifo₃ : r₃.rxFifo = r.rxFifo := same₃.fifo.trans fifo₂
    rw [fifo₂] at level
    rw [undisturbed, ← same₁.crcError, sound, ← same₁.rxDone, rxDone, same₄.fifo]
    dsimp only
    rw [level, if_neg some, fifo₃]
    refine ⟨rfl, ?_, ?_⟩
    · exact (same₄.crcError.trans same₃.crcError).trans
        (same₂.crcError.trans (Radio.flagged_takeFlags _ _))
    · exact (same₄.rxDone.trans same₃.rxDone).trans
        (same₂.rxDone.trans (Radio.flagged_takeFlags _ _))

/-- Polls in quiet times, with all that is received falling between them. -/
inductive Rounds (board : Board ε σ) (modem : σ → Modem) (fuel : Nat) :
    Node σ → List (List Happening) → List Polled → Node σ → Prop
  | done {n : Node σ} : Rounds board modem fuel n [] [] n
  | round {n n₁ n₂ n' : Node σ} {batch heard : List Happening} {batches : List (List Happening)}
      {out : Polled} {outs : List Polled} (waits : Waits modem n n₁)
      (received : (radioAt modem n₁).happened = (radioAt modem n).happened ++ batch)
      (returned : Returns (poll board fuel) n₁ out n₂)
      (meanwhile : (radioAt modem n₂).happened = (radioAt modem n₁).happened ++ heard)
      (quiet : Quiet heard) (rest : Rounds board modem fuel n₂ batches outs n') :
      Rounds board modem fuel n (batch :: batches) (out :: outs) n'

/-- Between such polls: only whole packets wait, and no packet flag is up. -/
structure Waiting (modem : σ → Modem) (queue : List (List UInt8)) (n : Node σ) : Prop where
  idle : Idle modem n
  configured : n.payloadLen = (radioAt modem n).packetLen
  fifo : (radioAt modem n).rxFifo = queue.flatten
  room : (radioAt modem n).rxFifo.length ≤ (radioAt modem n).fifoSize.toNat
  sized : ∀ payload ∈ queue, payload.length = n.payloadLen
  crcError : (radioAt modem n).flagged 22 = false
  rxDone : (radioAt modem n).flagged 18 = false

/-- A poll after these arrivals gives back a packet if there is one among them, and else nothing. -/
def Answers (batch : List Happening) (out : Polled) : Prop :=
  if goods batch = [] then out = .nothing else ∃ payload, out = .packet payload

theorem Answers.count {batch : List Happening} {out : Polled} (answers : Answers batch out) :
    (packets [out]).length = if goods batch = [] then 0 else 1 := by
  rw [Answers] at answers
  by_cases none : goods batch = []
  · rw [if_pos none] at answers ⊢
    rw [answers]
    rfl
  · rw [if_neg none] at answers ⊢
    obtain ⟨payload, rfl⟩ := answers
    rfl

/-- One round gives back the oldest packet if any came in since the last, however many
these were, and otherwise nothing. -/
theorem Waiting.round {queue : List (List UInt8)} {batch heard : List Happening} {n₁ n₂ : Node σ}
    {out : Polled} (waiting : Waiting modem queue n) (wired : Wired board modem)
    (positive : 0 < n.payloadLen) (waits : Waits modem n n₁)
    (received : (radioAt modem n₁).happened = (radioAt modem n).happened ++ batch)
    (sound : failures batch = [])
    (returned : Returns (poll board fuel) n₁ out n₂)
    (meanwhile : (radioAt modem n₂).happened = (radioAt modem n₁).happened ++ heard)
    (quiet : Quiet heard) :
    ∃ left, Waiting modem left n₂ ∧ n₂.payloadLen = n.payloadLen ∧
      queue ++ goods batch = packets [out] ++ left ∧ Answers batch out := by
  obtain ⟨idle, configured, fifo, room, sized, crcError, rxDone⟩ := waiting
  obtain ⟨batch', received', room₁, soundly⟩ := waits.radio.soundly
  have same : batch' = batch := List.append_cancel_left (received'.symm.trans received)
  rw [same] at soundly
  obtain ⟨fifo₁, sized₁, crcError₁, rxDone₁⟩ := soundly sound
  rw [fifo, ← List.flatten_append] at fifo₁
  obtain ⟨step, commands, sent⟩ := poll_step wired (waits.idle idle) returned
  obtain ⟨alone, crcError₂, rxDone₂⟩ := step.eq_undisturbed meanwhile quiet
  have len₁ : n₁.payloadLen = (radioAt modem n₁).packetLen := by
    rw [waits.payloadLen, configured, waits.radio.sameSetup.packetLen]
  have len₂ : n₂.payloadLen = (radioAt modem n₂).packetLen := by
    rw [sent.payloadLen, len₁, step.sameSetup.packetLen]
  have kept : n₂.payloadLen = n.payloadLen := sent.payloadLen.trans waits.payloadLen
  have sizes : ∀ payload ∈ queue ++ goods batch, payload.length = n.payloadLen := by
    intro payload member
    rcases List.mem_append.mp member with old | new
    · exact sized payload old
    · rw [sized₁ payload new, configured]
  rw [undisturbed, crcError₁, crcError, rxDone₁, rxDone, Bool.false_or, waits.payloadLen] at alone
  have room₂ := room₁ room
  have fits (less : (radioAt modem n₂).rxFifo.length ≤ (radioAt modem n₁).rxFifo.length) :
      (radioAt modem n₂).rxFifo.length ≤ (radioAt modem n₂).fifoSize.toNat := by
    rw [step.sameSetup.fifoSize]
    exact Nat.le_trans less room₂
  rw [Answers]
  by_cases none : goods batch = []
  · rw [none] at alone fifo₁ ⊢
    rw [List.append_nil] at fifo₁ ⊢
    simp only [List.isEmpty_nil, Bool.not_true, Bool.false_eq_true, if_false] at alone
    obtain ⟨rfl, left⟩ := Prod.mk.inj alone
    refine ⟨queue, ⟨sent.idle, len₂, left.trans fifo₁, fits (Nat.le_of_eq (congrArg _ left)), ?_,
      crcError₂, rxDone₂⟩, kept, rfl, rfl⟩
    rw [kept]
    exact sized
  · obtain ⟨first, left, joined⟩ := List.exists_cons_of_ne_nil
      (List.append_ne_nil_of_right_ne_nil queue none)
    rw [joined] at fifo₁ sizes ⊢
    let waitingPackets : Stream UInt8 := { records := first :: left, loose := [] }
    have stream : (radioAt modem n₁).rxFifo = waitingPackets.flat := by
      rw [fifo₁, Stream.flat, List.append_nil]
    have whole : waitingPackets.Sized n.payloadLen := sizes
    obtain ⟨full, taken, dropped, -⟩ := Stream.flat_of_record whole ⟨left, rfl⟩
    rw [← stream] at full taken dropped
    have small : (radioAt modem n₁).rxFifo.length % 65536 = (radioAt modem n₁).rxFifo.length :=
      Nat.mod_eq_of_lt (Nat.lt_of_le_of_lt room₂ (UInt16.toNat_lt _))
    have up : (!(goods batch).isEmpty) = true := by simp [none]
    rw [up, if_neg Bool.false_ne_true, if_pos rfl] at alone
    dsimp only at alone
    rw [small, Nat.min_eq_right full, if_neg (Nat.ne_of_gt positive), toList_clocked full,
      taken, dropped] at alone
    obtain ⟨rfl, rest⟩ := Prod.mk.inj alone
    refine ⟨left, ⟨sent.idle, len₂, rest.trans (List.append_nil _), fits ?_, ?_, crcError₂,
      rxDone₂⟩, kept, rfl, ?_⟩
    · rw [rest, ← dropped, List.length_drop]
      exact Nat.sub_le _ _
    · intro payload member
      rw [kept]
      exact sizes payload (List.mem_cons_of_mem first member)
    · rw [if_neg none]
      exact ⟨first, rfl⟩

/-- One poll, one packet: where nothing fails and packets come in between polls, each poll that
follows an arrival gives back one packet, in the order of arrival, and each of the others nothing.
All other packets are still in the FIFO. -/
theorem rounds_deliver (wired : Wired board modem) {queue : List (List UInt8)}
    (waiting : Waiting modem queue n) (positive : 0 < n.payloadLen)
    {batches : List (List Happening)} {outs : List Polled}
    (rounds : Rounds board modem fuel n batches outs n')
    (sound : ∀ batch ∈ batches, failures batch = []) :
    ∃ left, (radioAt modem n').rxFifo = left.flatten ∧
      packets outs ++ left = queue ++ goods batches.flatten ∧
      List.Forall₂ Answers batches outs ∧
      (packets outs).length = batches.countP (goods · ≠ []) := by
  induction rounds generalizing queue with
  | done => exact ⟨queue, waiting.fifo, (List.append_nil _).symm, .nil, rfl⟩
  | @round n n₁ n₂ n' batch heard batches out outs waits received returned meanwhile quiet rest
      ih =>
    obtain ⟨queue₂, waiting₂, kept, split, answers⟩ := waiting.round wired positive waits
      received (sound batch List.mem_cons_self) returned meanwhile quiet
    obtain ⟨left, fifo, rest_split, each, count⟩ := ih waiting₂ (kept ▸ positive)
      fun batch member => sound batch (List.mem_cons_of_mem _ member)
    have first : packets (out :: outs) = packets [out] ++ packets outs := by
      cases out <;> rfl
    refine ⟨left, fifo, ?_, .cons answers each, ?_⟩
    · rw [first, List.append_assoc, rest_split, ← List.append_assoc, ← split, List.append_assoc,
        List.flatten_cons, goods, goods, goods, List.filterMap_append]
    · rw [first, List.length_append, answers.count, count, List.countP_cons]
      by_cases none : goods batch = []
      · simp [none]
      · simp [none, Nat.add_comm]

/-- Two packets come in before the first of two polls, which gives back the one, and the
second poll gives back nothing. -/
theorem rounds_deliver_burst :
    ∃ left : List (List UInt8),
      [[0x4C, 0x52, 0x32, 0x31, 0x00, 0x01]] ++ left =
        [[0x4C, 0x52, 0x32, 0x31, 0x00, 0x01], [0x4C, 0x52, 0x32, 0x31, 0x00, 0x02]] := by
  let batch : List Happening := [.good [0x4C, 0x52, 0x32, 0x31, 0x00, 0x01],
    .good [0x4C, 0x52, 0x32, 0x31, 0x00, 0x02]]
  let heard : Node Desk := { board := (Desk.node [batch]).board.tick, payloadLen := 6 }
  have rounds : Rounds Desk.board Desk.modem 3 (Desk.node [batch]) [batch, []]
      [.packet [0x4C, 0x52, 0x32, 0x31, 0x00, 0x01], .nothing] _ :=
    .round (show Waits Desk.modem _ heard from ⟨Desk.overhears_tick _, rfl⟩) rfl
      (returns_run (by decide +kernel)) (by decide +kernel) (show Quiet [] from ⟨rfl, rfl⟩)
      (.round (.refl _) (by decide +kernel) (returns_run (by decide +kernel))
        (by decide +kernel) (show Quiet [] from ⟨rfl, rfl⟩) .done)
  have waiting : Waiting Desk.modem [] (Desk.node [batch]) :=
    ⟨rfl, by decide, rfl, by decide, fun _ member => absurd member List.not_mem_nil, by decide,
      by decide⟩
  obtain ⟨left, -, split, -⟩ := rounds_deliver Desk.wired waiting (by decide) rounds
    (by decide)
  exact ⟨left, split⟩

end Lr2021.Link
