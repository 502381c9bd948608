import Lr2021.Link.Transport
import Lr2021.Lib.RecordStream

set_option autoImplicit false

/-! What the Rx FIFO of a listening radio holds: whole packets that wait, and behind them
what failed packets have left. -/
namespace Lr2021.Link

open BigEndian RecordStream

/-- Whether an interrupt flag is up, by its bit. -/
def Radio.flagged (r : Radio) (bit : Nat) : Bool := r.irq.toNat.testBit bit

/-- Whether something raises it. -/
def Happening.raises (happening : Happening) (bit : Nat) : Bool := happening.flags.toNat.testBit bit

/-- The test of a flag in a Python expression. -/
theorem and_shift_eq_zero (flags bit : Nat) :
    flags &&& (1 <<< bit) = 0 ↔ flags.testBit bit = false := by
  rw [Nat.one_shiftLeft]
  constructor
  · intro none
    have masked : (flags &&& 2 ^ bit).testBit bit = false := by rw [none, Nat.zero_testBit]
    rwa [Nat.testBit_and, Nat.testBit_two_pow_self, Bool.and_true] at masked
  · intro down
    apply Nat.eq_of_testBit_eq
    intro i
    rw [Nat.testBit_and, Nat.testBit_two_pow, Nat.zero_testBit]
    by_cases same : bit = i
    · rw [← same, down, Bool.false_and]
    · rw [decide_eq_false same, Bool.and_false]

namespace Happening

def failed : Happening → Bool
  | bad _ _ => true
  | _ => false

/-- The CRC flag is that of the failed packets. -/
theorem raises_crcError (happening : Happening) : happening.raises 22 = happening.failed := by
  cases happening with
  | good payload => exact (by decide : (UInt32.ofNat irqRxDone).toNat.testBit 22 = false)
  | bad residue done =>
    have either : ∀ done : Bool, (UInt32.ofNat irqCrcError |||
        if done then UInt32.ofNat irqRxDone else 0).toNat.testBit 22 = true := by decide
    exact either done
  | txDone => exact (by decide : (UInt32.ofNat irqTxDone).toNat.testBit 22 = false)
  | elapse status other =>
    have reserved : (~~~packetFlags).toNat.testBit 22 = false := by decide
    rw [raises, flags, UInt32.toNat_and, Nat.testBit_and, reserved, Bool.and_false]
    rfl

/-- A good packet raises RxDone. -/
theorem good_raises (payload : List UInt8) : (good payload).raises 18 = true :=
  (by decide : (UInt32.ofNat irqRxDone).toNat.testBit 18 = true)

/-- What is no packet does not touch the FIFO and raises no packet flag. -/
theorem other_quiet {happening : Happening} (good : ∀ payload, happening ≠ .good payload)
    (sound : happening.failed = false) :
    happening.bytes = [] ∧ happening.raises 18 = false := by
  cases happening with
  | good payload => exact absurd rfl (good payload)
  | bad residue done => cases sound
  | txDone => exact ⟨rfl, (by decide : (UInt32.ofNat irqTxDone).toNat.testBit 18 = false)⟩
  | elapse status other =>
    have reserved : (~~~packetFlags).toNat.testBit 18 = false := by decide
    refine ⟨rfl, ?_⟩
    rw [raises, flags, UInt32.toNat_and, Nat.testBit_and, reserved, Bool.and_false]

end Happening

namespace Radio

/-- What the host leaves of a radio whose flags it has read. -/
def takeFlags (r : Radio) : Radio := { r with irq := 0 }

theorem flagged_takeFlags (r : Radio) (bit : Nat) : r.takeFlags.flagged bit = false :=
  Nat.zero_testBit bit

theorem flagged_hear {r : Radio} {happening : Happening} (admitted : r.Admits happening)
    (bit : Nat) :
    (r.hear happening).flagged bit = (r.flagged bit || happening.raises bit) := by
  rw [flagged, hear, if_pos admitted]
  exact (congrArg (Nat.testBit · bit) (UInt32.toNat_or _ _)).trans (Nat.testBit_or _ _ _)

/-- A flag stays up until the host takes it. -/
theorem Overhears.flagged {r r' : Radio} {bit : Nat} (overhears : r.Overhears r')
    (up : r.flagged bit = true) : r'.flagged bit = true := by
  apply overhears.induct up
  intro r₁ happening up
  by_cases admitted : r₁.Admits happening
  · rw [flagged_hear admitted, up, Bool.true_or]
  · rwa [hear, if_neg admitted]

end Radio

/-- The packets that passed their CRC. -/
def goods (happenings : List Happening) : List (List UInt8) :=
  happenings.filterMap fun
    | .good payload => some payload
    | _ => none

/-- What the packets that failed it left in the FIFO. -/
def failures (happenings : List Happening) : List (List UInt8) :=
  happenings.filterMap fun
    | .bad residue _ => some residue
    | _ => none

theorem goods_snoc (happenings : List Happening) (happening : Happening) :
    goods (happenings ++ [happening]) = goods happenings ++ goods [happening] :=
  List.filterMap_append

theorem failures_snoc (happenings : List Happening) (happening : Happening) :
    failures (happenings ++ [happening]) = failures happenings ++ failures [happening] :=
  List.filterMap_append

/-- The FIFO as a stream of packets takes in what happens. -/
def absorb (s : Stream UInt8) : Happening → Stream UInt8
  | .good payload => s.push payload
  | .bad residue _ => s.spill residue
  | _ => s

theorem flat_absorb (s : Stream UInt8) (happening : Happening) :
    (absorb s happening).flat = s.flat ++ happening.bytes := by
  cases happening with
  | good payload => exact s.flat_push payload
  | bad residue done => exact s.flat_spill residue
  | _ => exact (List.append_nil _).symm

theorem grows_absorb (s : Stream UInt8) (happening : Happening) :
    s.Grows (absorb s happening) := by
  cases happening with
  | good payload => exact s.grows_push payload
  | bad residue done => exact s.grows_spill residue
  | _ => exact .refl s

theorem sized_absorb {r : Radio} {s : Stream UInt8} {happening : Happening}
    (sized : s.Sized r.packetLen) (admitted : r.Admits happening) :
    (absorb s happening).Sized r.packetLen := by
  cases happening with
  | good payload => exact sized.push admitted.1
  | _ => exact sized

theorem owes_absorb {since : List Happening} {taken : List (List UInt8)} {s : Stream UInt8}
    (owes : Owes (goods since) taken s) (happening : Happening) :
    Owes (goods (since ++ [happening])) taken (absorb s happening) := by
  rw [goods_snoc]
  cases happening with
  | good payload => exact owes.push payload
  | _ => exact (List.append_nil (goods since)).symm ▸ owes

/-- Only a failed packet, or what comes behind one, leaves loose bytes. -/
theorem loose_absorb {s : Stream UInt8} {happening : Happening} (packed : s.loose = [])
    (left : (absorb s happening).loose ≠ []) :
    ∃ residue done, happening = .bad residue done ∧ residue ≠ [] := by
  cases happening with
  | good payload =>
    rw [absorb, Stream.push, if_pos packed] at left
    exact absurd packed left
  | bad residue done =>
    rw [absorb, Stream.spill, packed] at left
    exact ⟨residue, done, rfl, left⟩
  | _ => exact absurd packed left

/-- The packets among the answers of polls. -/
def packets (outs : List Polled) : List (List UInt8) :=
  outs.filterMap fun
    | .packet bytes => some bytes
    | _ => none

/-- How many of them are `False`. -/
def crcFailures (outs : List Polled) : Nat := outs.countP (· = .crcFailure)

theorem packets_append (first second : List Polled) :
    packets (first ++ second) = packets first ++ packets second := List.filterMap_append

theorem crcFailures_append (first second : List Polled) :
    crcFailures (first ++ second) = crcFailures first + crcFailures second := List.countP_append

/-- Packets with a mark on those that are whole. -/
def wholePackets (marked : List (List UInt8 × Bool)) : List (List UInt8) :=
  (marked.filter (·.2)).map (·.1)

def tornPackets (marked : List (List UInt8 × Bool)) : List (List UInt8) :=
  (marked.filter (!·.2)).map (·.1)

theorem wholePackets_of_not_torn {marked : List (List UInt8 × Bool)}
    (none : tornPackets marked = []) : wholePackets marked = marked.map (·.1) := by
  rw [tornPackets, List.map_eq_nil_iff, List.filter_eq_nil_iff] at none
  rw [wholePackets, List.filter_eq_self.mpr]
  intro taken member
  have marked := none taken member
  rwa [Bool.not_eq_true', Bool.not_eq_false] at marked

/-- How many failed packets left bytes behind. -/
def spills (since : List Happening) : Nat := (failures since).countP (· ≠ [])

/-- Between the actions of the driver: the account of what was heard since the radio started
to listen, of what polls have given back, and of what still waits. `stale` is 1 where a CRC
flag was up before. -/
structure Ledger (before : List Happening) (stale : Nat) (outs : List Polled)
    (since : List Happening) (s : Stream UInt8) (marked : List (List UInt8 × Bool))
    (r : Radio) : Prop where
  happened : r.happened = before ++ since
  fifo : r.rxFifo = s.flat
  room : r.rxFifo.length ≤ r.fifoSize.toNat
  sized : s.Sized r.packetLen
  warned : s.loose ≠ [] → r.flagged 22 = true
  marks : marked.map (·.1) = packets outs
  owes : Owes (goods since) (wholePackets marked) s
  torn : (tornPackets marked).length ≤ spills since
  reported : crcFailures outs + (r.flagged 22).toNat ≤ (failures since).length + stale
  exactly : (failures since).length + stale = 0 →
    wholePackets marked ++ s.records = goods since ∧ s.loose = []

/-- Nothing of the loose bytes has been given back yet. -/
def Untouched (since : List Happening) (s : Stream UInt8) (marked : List (List UInt8 × Bool)) :
    Prop :=
  s.loose ≠ [] → (tornPackets marked).length + 1 ≤ spills since

namespace Ledger

variable {before since : List Happening} {stale : Nat} {outs : List Polled} {s : Stream UInt8}
  {marked : List (List UInt8 × Bool)} {r : Radio} {happening : Happening}

theorem failures_length_snoc (since : List Happening) (happening : Happening) :
    (failures (since ++ [happening])).length =
      (failures since).length + happening.failed.toNat := by
  rw [failures_snoc, List.length_append]
  cases happening <;> rfl

theorem hear_admitted (ledger : Ledger before stale outs since s marked r)
    (admitted : r.Admits happening) :
    Ledger before stale outs (since ++ [happening]) (absorb s happening) marked
      (r.hear happening) := by
  have same := Radio.hear_sameSetup r happening
  have crc := Radio.flagged_hear admitted 22
  rw [Happening.raises_crcError] at crc
  have counted := failures_length_snoc since happening
  have bytes : (r.hear happening).rxFifo = r.rxFifo ++ happening.bytes := by
    rw [Radio.hear, if_pos admitted]
  refine ⟨?_, ?_, ?_, ?_, ?_, ledger.marks, owes_absorb ledger.owes happening, ?_, ?_, ?_⟩
  · rw [Radio.hear, if_pos admitted, ← List.append_assoc, ← ledger.happened]
  · rw [bytes, flat_absorb, ledger.fifo]
  · rw [bytes, same.fifoSize, List.length_append]
    exact admitted.2
  · rw [same.packetLen]
    exact sized_absorb ledger.sized admitted
  · intro left
    by_cases packed : s.loose = []
    · obtain ⟨residue, done, rfl, -⟩ := loose_absorb packed left
      rw [crc, Happening.failed, Bool.or_true]
    · rw [crc, ledger.warned packed, Bool.true_or]
  · rw [spills, failures_snoc, List.countP_append]
    exact Nat.le_trans ledger.torn (Nat.le_add_right _ _)
  · have reported := ledger.reported
    have either : ∀ one two : Bool, (one || two).toNat ≤ one.toNat + two.toNat := by decide
    have pending := either (r.flagged 22) happening.failed
    rw [crc, counted]
    omega
  · intro none
    rw [counted] at none
    obtain ⟨exactly, packed⟩ := ledger.exactly (by omega)
    cases happening with
    | good payload =>
      rw [goods_snoc, ← exactly, absorb, Stream.push, if_pos packed]
      exact ⟨(List.append_assoc _ _ _).symm, packed⟩
    | bad residue done =>
      rw [Happening.failed, Bool.toNat_true] at none
      omega
    | _ =>
      rw [goods_snoc, ← exactly]
      exact ⟨(List.append_nil _).symm, packed⟩

theorem untouched_absorb (ledger : Ledger before stale outs since s marked r)
    (untouched : Untouched since s marked) :
    Untouched (since ++ [happening]) (absorb s happening) marked := by
  intro left
  rw [spills, failures_snoc, List.countP_append]
  by_cases packed : s.loose = []
  · obtain ⟨residue, done, rfl, some⟩ := loose_absorb packed left
    have one : (failures [.bad residue done]).countP (· ≠ []) = 1 := by
      simp [failures, some]
    rw [one]
    exact Nat.add_le_add_right ledger.torn 1
  · exact Nat.le_trans (untouched packed) (Nat.le_add_right _ _)

/-- Whatever happens, the account goes on. -/
theorem overhears (ledger : Ledger before stale outs since s marked r) {r' : Radio}
    (heard : r.Overhears r') :
    ∃ since' s', s.Grows s' ∧ Ledger before stale outs since' s' marked r' ∧
      (Untouched since s marked → Untouched since' s' marked) := by
  apply heard.induct
  · exact ⟨since, s, .refl s, ledger, id⟩
  · intro r₁ happening account
    obtain ⟨since₁, s₁, grows, ledger₁, untouched⟩ := account
    by_cases admitted : r₁.Admits happening
    · refine ⟨_, _, grows.trans (grows_absorb s₁ happening), ledger₁.hear_admitted admitted, ?_⟩
      exact fun old => ledger₁.untouched_absorb (untouched old)
    · rw [Radio.hear, if_neg admitted]
      exact ⟨since₁, s₁, grows, ledger₁, untouched⟩

/-- The flags are taken, and no CRC flag is among them: nothing is loose. -/
theorem takeFlags (ledger : Ledger before stale outs since s marked r)
    (down : r.flagged 22 = false) :
    Ledger before stale outs since s marked r.takeFlags ∧ s.loose = [] := by
  have packed : s.loose = [] := by
    apply Classical.byContradiction
    intro left
    rw [ledger.warned left] at down
    cases down
  have reported := ledger.reported
  rw [down] at reported
  refine ⟨⟨ledger.happened, ledger.fifo, ledger.room, ledger.sized, fun left => absurd packed left,
    ledger.marks, ledger.owes, ledger.torn, ?_, ledger.exactly⟩, packed⟩
  rw [Radio.flagged_takeFlags]
  exact reported

theorem nothing (ledger : Ledger before stale outs since s marked r) :
    Ledger before stale (outs ++ [.nothing]) since s marked r := by
  refine ⟨ledger.happened, ledger.fifo, ledger.room, ledger.sized, ledger.warned, ?_,
    ledger.owes, ledger.torn, ?_, ledger.exactly⟩
  · rw [ledger.marks, packets_append]
    exact (List.append_nil _).symm
  · rw [crcFailures_append]
    exact ledger.reported

/-- The oldest packet is taken. -/
theorem takePacket (ledger : Ledger before stale outs since s marked r) {first : List UInt8}
    (start : [first] <+: s.records) :
    Ledger before stale (outs ++ [.packet first]) since
      { records := s.records.tail, loose := s.loose } (marked ++ [(first, true)])
      { r with rxFifo := r.rxFifo.drop r.packetLen } := by
  obtain ⟨-, -, rest, records⟩ := Stream.flat_of_record ledger.sized start
  have kept : wholePackets (marked ++ [(first, true)]) = wholePackets marked ++ [first] := by
    simp [wholePackets, List.filter_append]
  have lost : tornPackets (marked ++ [(first, true)]) = tornPackets marked := by
    simp [tornPackets, List.filter_append]
  refine ⟨ledger.happened, ?_, ?_, ?_, ledger.warned, ?_, ?_, ?_, ?_, ?_⟩
  · rw [← rest, ← ledger.fifo]
  · exact Nat.le_trans (List.length_drop ▸ Nat.sub_le _ _) ledger.room
  · exact fun record member => ledger.sized record (List.mem_of_mem_tail member)
  · rw [packets_append, ← ledger.marks, List.map_append]
    rfl
  · rw [kept]
    exact ledger.owes.take records
  · rw [lost]
    exact ledger.torn
  · rw [crcFailures_append]
    exact ledger.reported
  · intro none
    obtain ⟨exactly, packed⟩ := ledger.exactly none
    refine ⟨?_, packed⟩
    rw [← exactly, kept, records]
    exact (List.append_cons _ _ _).symm

/-- With no packet in front of them, loose bytes are taken for one. -/
theorem takeLoose (ledger : Ledger before stale outs since s marked r) (none : s.records = [])
    (untouched : Untouched since s marked) {count : Nat} (some : 0 < count)
    (within : count ≤ s.loose.length) :
    Ledger before stale (outs ++ [.packet (s.loose.take count)]) since
      { records := [], loose := s.loose.drop count } (marked ++ [(s.loose.take count, false)])
      { r with rxFifo := r.rxFifo.drop count } := by
  have left : s.loose ≠ [] := List.ne_nil_of_length_pos (Nat.lt_of_lt_of_le some within)
  have kept : wholePackets (marked ++ [(s.loose.take count, false)]) = wholePackets marked := by
    simp [wholePackets, List.filter_append]
  have lost : tornPackets (marked ++ [(s.loose.take count, false)]) =
      tornPackets marked ++ [s.loose.take count] := by
    simp [tornPackets, List.filter_append]
  have owes := ledger.owes
  rw [Owes, none] at owes
  refine ⟨ledger.happened, ?_, ?_, ?_, fun _ => ledger.warned left, ?_, ?_, ?_, ?_, ?_⟩
  · rw [ledger.fifo, Stream.flat_of_loose none]
    rfl
  · exact Nat.le_trans (List.length_drop ▸ Nat.sub_le _ _) ledger.room
  · exact fun record member => absurd member List.not_mem_nil
  · rw [packets_append, ← ledger.marks, List.map_append]
    rfl
  · rw [kept]
    exact owes
  · rw [lost, List.length_append]
    exact untouched left
  · rw [crcFailures_append]
    exact ledger.reported
  · intro clean
    exact absurd (ledger.exactly clean).2 left

end Ledger

/-- After a CRC flag was taken and before the FIFO is cleared: what waits is given up. -/
structure Wiping (before : List Happening) (stale : Nat) (outs : List Polled)
    (since : List Happening) (marked : List (List UInt8 × Bool)) (r : Radio) : Prop where
  happened : r.happened = before ++ since
  marks : marked.map (·.1) = packets outs
  kept : (wholePackets marked).Sublist (goods since)
  torn : (tornPackets marked).length ≤ spills since
  reported : crcFailures outs + 1 + (r.flagged 22).toNat ≤ (failures since).length + stale

namespace Wiping

variable {before since : List Happening} {stale : Nat} {outs : List Polled}
  {marked : List (List UInt8 × Bool)} {r : Radio}

theorem takeFlags {s : Stream UInt8} (ledger : Ledger before stale outs since s marked r)
    (up : r.flagged 22 = true) :
    Wiping before stale outs since marked r.takeFlags := by
  have reported := ledger.reported
  rw [up] at reported
  refine ⟨ledger.happened, ledger.marks, (List.sublist_append_left _ _).trans ledger.owes,
    ledger.torn, ?_⟩
  rw [Radio.flagged_takeFlags]
  exact reported

theorem overhears (wiping : Wiping before stale outs since marked r) {r' : Radio}
    (heard : r.Overhears r') : ∃ since', Wiping before stale outs since' marked r' := by
  apply heard.induct
  · exact ⟨since, wiping⟩
  · intro r₁ happening account
    obtain ⟨since₁, wiping₁⟩ := account
    by_cases admitted : r₁.Admits happening
    · have either : ∀ one two : Bool, (one || two).toNat ≤ one.toNat + two.toNat := by decide
      have pending := either (r₁.flagged 22) happening.failed
      have reported := wiping₁.reported
      refine ⟨since₁ ++ [happening], ?_, wiping₁.marks, ?_, ?_, ?_⟩
      · rw [Radio.hear, if_pos admitted, ← List.append_assoc, ← wiping₁.happened]
      · rw [goods_snoc]
        exact wiping₁.kept.trans (List.sublist_append_left _ _)
      · rw [spills, failures_snoc, List.countP_append]
        exact Nat.le_trans wiping₁.torn (Nat.le_add_right _ _)
      · rw [Radio.flagged_hear admitted, Happening.raises_crcError, Ledger.failures_length_snoc]
        omega
    · rw [Radio.hear, if_neg admitted]
      exact ⟨since₁, wiping₁⟩

/-- The FIFO is cleared, and the failure is reported. -/
theorem clear (wiping : Wiping before stale outs since marked r) :
    Ledger before stale (outs ++ [.crcFailure]) since .empty marked { r with rxFifo := [] } := by
  have reported := wiping.reported
  have counted : crcFailures (outs ++ [.crcFailure]) = crcFailures outs + 1 :=
    crcFailures_append outs [.crcFailure]
  refine ⟨wiping.happened, rfl, Nat.zero_le _, fun _ member => absurd member List.not_mem_nil,
    fun left => absurd rfl left, ?_, ?_, wiping.torn, ?_, ?_⟩
  · rw [wiping.marks, packets_append]
    exact (List.append_nil _).symm
  · rw [Owes, Stream.empty, List.append_nil]
    exact wiping.kept
  · rw [counted]
    exact reported
  · intro clean
    omega

end Wiping
end Lr2021.Link
