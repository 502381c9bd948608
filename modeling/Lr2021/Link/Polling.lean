import Lr2021.Link.Inbox

set_option autoImplicit false

/-! What polling gives back, over every interleaving of the driver with the radio. -/
namespace Lr2021.Link

open Procedure BigEndian RecordStream

/-- A word put together from its bytes, as Python does it. -/
theorem or_shifts32 (b₀ b₁ b₂ b₃ : UInt8) :
    (b₀.toNat <<< 24) ||| (b₁.toNat <<< 16) ||| (b₂.toNat <<< 8) ||| b₃.toNat =
      (ofBytes32 b₀ b₁ b₂ b₃).toNat := by
  have h₀ := b₀.toNat_lt
  have h₁ := b₁.toNat_lt
  have h₂ := b₂.toNat_lt
  simp only [ofBytes32, UInt32.toNat_or, UInt32.toNat_shiftLeft, UInt8.toNat_toUInt32]
  rw [show (24 : UInt32).toNat % 32 = 24 from rfl, show (16 : UInt32).toNat % 32 = 16 from rfl,
    show (8 : UInt32).toNat % 32 = 8 from rfl]
  rw [Nat.mod_eq_of_lt (show b₀.toNat <<< 24 < 2 ^ 32 by rw [Nat.shiftLeft_eq]; omega),
    Nat.mod_eq_of_lt (show b₁.toNat <<< 16 < 2 ^ 32 by rw [Nat.shiftLeft_eq]; omega),
    Nat.mod_eq_of_lt (show b₂.toNat <<< 8 < 2 ^ 32 by rw [Nat.shiftLeft_eq]; omega)]

theorem or_shifts16 (b₀ b₁ : UInt8) :
    (b₀.toNat <<< 8) ||| b₁.toNat = (ofBytes16 b₀ b₁).toNat := by
  have h₀ := b₀.toNat_lt
  simp only [ofBytes16, UInt16.toNat_or, UInt16.toNat_shiftLeft, UInt8.toNat_toUInt16]
  rw [show (8 : UInt16).toNat % 16 = 8 from rfl,
    Nat.mod_eq_of_lt (show b₀.toNat <<< 8 < 2 ^ 16 by rw [Nat.shiftLeft_eq]; omega)]

variable {ε σ : Type} {board : Board ε σ} {modem : σ → Modem} {fuel : Nat} {n n' : Node σ}

section Reads

variable (wired : Wired board modem)

include wired

/-- The flags are read and taken at one instant. -/
theorem irq_sent {flags : Nat} (idle : Idle modem n)
    (returned : Returns (irq board fuel) n flags n') :
    Sent modem [frame cmdGetAndClearIrqStatus []] n n' ∧ ∃ r, (radioAt modem n).Overhears r ∧
      flags = r.irq.toNat ∧ r.takeFlags.Overhears (radioAt modem n') := by
  obtain ⟨b, n₁, reads, rest⟩ := returns_bind.mp returned
  obtain ⟨rfl, rfl⟩ := returns_pure.mp rest
  obtain ⟨sent, r, heard, answer, later⟩ := read_sent wired
    (fun r => ⟨bytes32 r.irq, rfl, rfl⟩) idle reads
  rw [Radio.execute_getAndClearIrqStatus] at answer later
  refine ⟨sent, r, heard, ?_, later⟩
  rw [← Option.some.inj answer, or_shifts32]
  exact congrArg UInt32.toNat (ofBytes32_shifts r.irq)

theorem level_sent {level : List UInt8} (idle : Idle modem n)
    (returned : Returns (read board fuel cmdGetRxFifoLevel 2 []) n level n') :
    Sent modem [frame cmdGetRxFifoLevel []] n n' ∧ ∃ r, (radioAt modem n).Overhears r ∧
      (level[0]!.toNat <<< 8) ||| level[1]!.toNat = r.rxFifo.length % 65536 ∧
      r.Overhears (radioAt modem n') := by
  obtain ⟨sent, r, heard, answer, later⟩ := read_sent wired
    (fun r => ⟨bytes16 (UInt16.ofNat r.rxFifo.length), rfl, rfl⟩) idle returned
  rw [Radio.execute_getRxFifoLevel] at answer later
  refine ⟨sent, r, heard, ?_, later⟩
  rw [← Option.some.inj answer, or_shifts16]
  exact (congrArg UInt16.toNat (ofBytes16_shifts _)).trans UInt16.toNat_ofNat'

end Reads

/-- What one poll can do to a radio that is busy on its own all the while: it takes the
flags, and then clears the FIFO, or leaves it, or takes from it as much as it held when its
level was read, up to one packet. -/
inductive PollStep (payloadLen : Nat) (r : Radio) : Polled → Radio → Prop
  | failed {r₁ r₂ : Radio} (asked : r.Overhears r₁) (crcError : r₁.flagged 22 = true)
      (later : r₁.takeFlags.Overhears r₂) :
      PollStep payloadLen r .crcFailure { r₂ with rxFifo := [] }
  | idle {r₁ r₂ : Radio} (asked : r.Overhears r₁) (sound : r₁.flagged 22 = false)
      (quiet : r₁.flagged 18 = false) (later : r₁.takeFlags.Overhears r₂) :
      PollStep payloadLen r .nothing r₂
  | empty {r₁ r₂ r₃ : Radio} (asked : r.Overhears r₁) (sound : r₁.flagged 22 = false)
      (rxDone : r₁.flagged 18 = true) (later : r₁.takeFlags.Overhears r₂)
      (level : min (r₂.rxFifo.length % 65536) payloadLen = 0) (last : r₂.Overhears r₃) :
      PollStep payloadLen r .nothing r₃
  | fetched {r₁ r₂ r₃ r₄ : Radio} {length : Nat} (asked : r.Overhears r₁)
      (sound : r₁.flagged 22 = false) (rxDone : r₁.flagged 18 = true)
      (later : r₁.takeFlags.Overhears r₂)
      (level : min (r₂.rxFifo.length % 65536) payloadLen = length) (some : length ≠ 0)
      (between : r₂.Overhears r₃)
      (last : Radio.Overhears { r₃ with rxFifo := r₃.rxFifo.drop length } r₄) :
      PollStep payloadLen r (.packet (clocked length r₃.rxFifo).toList) r₄

/-- A poll that returns has made such a step. -/
theorem poll_step (wired : Wired board modem) (idle : Idle modem n) {out : Polled}
    (returned : Returns (poll board fuel) n out n') :
    PollStep n.payloadLen (radioAt modem n) out (radioAt modem n') ∧
      ∃ commands, Sent modem commands n n' := by
  obtain ⟨flags, n₁, asks, rest⟩ := returns_bind.mp returned
  obtain ⟨sent₁, r₁, heard₁, rfl, later₁⟩ := irq_sent wired idle asks
  by_cases failed : r₁.irq.toNat &&& irqCrcError = 0
  · have sound : r₁.flagged 22 = false := (and_shift_eq_zero _ 22).mp failed
    rw [if_neg (not_not_intro failed)] at rest
    by_cases none : r₁.irq.toNat &&& irqRxDone = 0
    · have quiet : r₁.flagged 18 = false := (and_shift_eq_zero _ 18).mp none
      rw [if_pos none] at rest
      obtain ⟨rfl, rfl⟩ := returns_pure.mp rest
      exact ⟨.idle heard₁ sound quiet later₁, _, sent₁⟩
    · have rxDone : r₁.flagged 18 = true := by
        rw [irqRxDone, and_shift_eq_zero, Bool.not_eq_false] at none
        exact none
      rw [if_neg none] at rest
      obtain ⟨level, n₂, levels, rest⟩ := returns_bind.mp rest
      obtain ⟨payloadLen, n₃, looks, rest⟩ := returns_bind.mp rest
      obtain ⟨rfl, rfl⟩ := Prod.mk.inj (returns_act.mp looks)
      obtain ⟨sent₂, r₂, heard₂, value₂, later₂⟩ := level_sent wired sent₁.idle levels
      rw [value₂, sent₂.payloadLen, sent₁.payloadLen] at rest
      dsimp only at rest
      split at rest
      · rename_i empty
        obtain ⟨rfl, rfl⟩ := returns_pure.mp rest
        exact ⟨.empty heard₁ sound rxDone (later₁.trans heard₂) empty later₂,
          _, sent₁.trans sent₂⟩
      · rename_i some
        obtain ⟨bytes, n₄, fetches, rest⟩ := returns_bind.mp rest
        obtain ⟨rfl, rfl⟩ := returns_pure.mp rest
        obtain ⟨sent₃, r₃, heard₃, rfl, later₃⟩ := readFifo_sent wired sent₂.idle fetches
        exact ⟨.fetched heard₁ sound rxDone (later₁.trans heard₂) rfl some
          (later₂.trans heard₃) later₃, _, (sent₁.trans sent₂).trans sent₃⟩
  · have crcError : r₁.flagged 22 = true := by
      rw [irqCrcError, and_shift_eq_zero, Bool.not_eq_false] at failed
      exact failed
    rw [if_pos failed] at rest
    obtain ⟨_, n₂, clears, rest⟩ := returns_bind.mp rest
    obtain ⟨rfl, rfl⟩ := returns_pure.mp rest
    obtain ⟨sent₂, r₂, heard₂, same₂, -⟩ := cmd_sent wired sent₁.idle clears
    rw [Radio.execute_clearRxFifo] at same₂
    rw [same₂]
    exact ⟨.failed heard₁ crcError (later₁.trans heard₂), _, sent₁.trans sent₂⟩

namespace PollStep

variable {payloadLen : Nat} {r r' : Radio} {out : Polled}

/-- A poll changes no setting and nothing of the sending side. -/
theorem sameSetup (step : PollStep payloadLen r out r') : r.SameSetup r' := by
  have flags (r₁ : Radio) : r₁.SameSetup r₁.takeFlags := ⟨rfl, rfl, rfl, rfl, rfl⟩
  have fifo (r₁ : Radio) (left : List UInt8) : r₁.SameSetup { r₁ with rxFifo := left } :=
    ⟨rfl, rfl, rfl, rfl, rfl⟩
  cases step with
  | failed asked crcError later =>
    exact ((asked.sameSetup.trans (flags _)).trans later.sameSetup).trans (fifo _ _)
  | idle asked sound quiet later => exact (asked.sameSetup.trans (flags _)).trans later.sameSetup
  | empty asked sound rxDone later level last =>
    exact ((asked.sameSetup.trans (flags _)).trans later.sameSetup).trans last.sameSetup
  | fetched asked sound rxDone later level some between last =>
    exact (((asked.sameSetup.trans (flags _)).trans later.sameSetup).trans
      between.sameSetup).trans ((fifo _ _).trans last.sameSetup)

variable {before since : List Happening} {stale : Nat} {outs : List Polled} {s : Stream UInt8}
  {marked : List (List UInt8 × Bool)}

/-- What is fetched is the oldest packet, if there is one, and else loose bytes. -/
theorem fetch_ledger {r₁ r₂ : Radio} {length : Nat}
    (ledger : Ledger before stale outs since s marked r) (untouched : Untouched since s marked)
    (level : min r.rxFifo.length r.packetLen = length) (some : length ≠ 0)
    (between : r.Overhears r₁)
    (last : Radio.Overhears { r₁ with rxFifo := r₁.rxFifo.drop length } r₂) :
    ∃ since' s' marked', Ledger before stale
      (outs ++ [.packet (clocked length r₁.rxFifo).toList]) since' s' marked' r₂ := by
  obtain ⟨since₁, s₁, grows, ledger₁, untouched₁⟩ := ledger.overhears between
  have packetLen := between.sameSetup.packetLen
  cases records : s.records with
  | cons first rest =>
    have start : [first] <+: s.records := ⟨rest, records.symm⟩
    obtain ⟨full, -, -, -⟩ := Stream.flat_of_record ledger.sized start
    obtain ⟨full₁, taken, -, -⟩ := Stream.flat_of_record ledger₁.sized (start.trans grows.records)
    rw [← ledger.fifo] at full
    have whole : length = r₁.packetLen := by omega
    rw [← ledger₁.fifo] at taken full₁
    have ledger₂ := ledger₁.takePacket (start.trans grows.records)
    rw [whole] at last ⊢
    rw [toList_clocked full₁, taken]
    obtain ⟨since₂, s₂, -, ledger₃, -⟩ := ledger₂.overhears last
    exact ⟨since₂, s₂, _, ledger₃⟩
  | nil =>
    have flat := ledger.fifo
    rw [Stream.flat_of_loose records] at flat
    have left : s.loose ≠ [] := by
      intro none
      rw [flat, none, List.length_nil, Nat.zero_min] at level
      exact some level.symm
    have records₁ : s₁.records = [] := (grows.blocked left).trans records
    have flat₁ := ledger₁.fifo
    rw [Stream.flat_of_loose records₁] at flat₁
    have within : length ≤ s₁.loose.length := by
      have grown := grows.loose.length_le
      rw [flat] at level
      omega
    have ledger₂ := ledger₁.takeLoose records₁ (untouched₁ untouched) (Nat.pos_of_ne_zero some)
      within
    obtain ⟨since₂, s₂, -, ledger₃, -⟩ := ledger₂.overhears last
    rw [flat₁, toList_clocked within]
    exact ⟨since₂, s₂, _, ledger₃⟩

/-- A step adds its answer to the account. -/
theorem ledger (step : PollStep payloadLen r out r') (configured : payloadLen = r.packetLen)
    (ledger : Ledger before stale outs since s marked r) :
    ∃ since' s' marked', Ledger before stale (outs ++ [out]) since' s' marked' r' := by
  cases step with
  | failed asked crcError later =>
    obtain ⟨since₁, s₁, -, ledger₁, -⟩ := ledger.overhears asked
    obtain ⟨since₂, wiping⟩ := (Wiping.takeFlags ledger₁ crcError).overhears later
    exact ⟨since₂, .empty, marked, wiping.clear⟩
  | idle asked sound quiet later =>
    obtain ⟨since₁, s₁, -, ledger₁, -⟩ := ledger.overhears asked
    obtain ⟨since₂, s₂, -, ledger₂, -⟩ := (ledger₁.takeFlags sound).1.overhears later
    exact ⟨since₂, s₂, marked, ledger₂.nothing⟩
  | empty asked sound rxDone later level last =>
    obtain ⟨since₁, s₁, -, ledger₁, -⟩ := ledger.overhears asked
    obtain ⟨since₂, s₂, -, ledger₂, -⟩ := (ledger₁.takeFlags sound).1.overhears (later.trans last)
    exact ⟨since₂, s₂, marked, ledger₂.nothing⟩
  | fetched asked sound rxDone later level some between last =>
    obtain ⟨since₁, s₁, -, ledger₁, -⟩ := ledger.overhears asked
    obtain ⟨ledger₂, packed⟩ := ledger₁.takeFlags sound
    obtain ⟨since₃, s₃, -, ledger₃, untouched₃⟩ := ledger₂.overhears later
    apply fetch_ledger ledger₃ (untouched₃ fun left => absurd packed left) _ some between last
    have small := Nat.lt_of_le_of_lt ledger₃.room (UInt16.toNat_lt _)
    rw [Nat.mod_eq_of_lt small, configured] at level
    rwa [later.sameSetup.packetLen.trans asked.sameSetup.packetLen]

end PollStep

/-- A node between two actions of the receiver. -/
structure Listening (modem : σ → Modem) (before : List Happening) (stale : Nat)
    (outs : List Polled) (n : Node σ) : Prop where
  idle : Idle modem n
  configured : n.payloadLen = (radioAt modem n).packetLen
  account : ∃ since s marked, Ledger before stale outs since s marked (radioAt modem n)

namespace Listening

variable {before : List Happening} {stale : Nat} {outs : List Polled}

theorem waits (listening : Listening modem before stale outs n) (waits : Waits modem n n') :
    Listening modem before stale outs n' := by
  obtain ⟨since, s, marked, ledger⟩ := listening.account
  obtain ⟨since', s', -, ledger', -⟩ := ledger.overhears waits.radio
  refine ⟨waits.idle listening.idle, ?_, since', s', marked, ledger'⟩
  rw [waits.payloadLen, listening.configured]
  exact waits.radio.sameSetup.packetLen.symm

theorem poll (listening : Listening modem before stale outs n) (wired : Wired board modem)
    {out : Polled} (returned : Returns (Link.poll board fuel) n out n') :
    Listening modem before stale (outs ++ [out]) n' := by
  obtain ⟨since, s, marked, ledger⟩ := listening.account
  obtain ⟨step, commands, sent⟩ := poll_step wired listening.idle returned
  refine ⟨sent.idle, ?_, step.ledger listening.configured ledger⟩
  rw [sent.payloadLen, listening.configured, step.sameSetup.packetLen]

end Listening
end Lr2021.Link
