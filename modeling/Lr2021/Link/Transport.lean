import Lr2021.Link.Modem

set_option autoImplicit false

/-! What the transactions of the driver do to the radio, whatever happens in between. -/
namespace Lr2021.Link

open Procedure BigEndian

variable {ε σ α : Type} {board : Board ε σ} {modem : σ → Modem} {fuel : Nat}
  {n n' : Node σ}

theorem returns_onBoard {f : σ → α × σ} {a : α} :
    Returns (onBoard f : Py ε σ α) n a n' ↔
      f n.board = (a, n'.board) ∧ n'.payloadLen = n.payloadLen := by
  rw [onBoard, returns_act]
  cases n'
  simp only [Prod.ext_iff, Node.mk.injEq]
  constructor
  · rintro ⟨value, after, same⟩
    exact ⟨⟨value, after⟩, same.symm⟩
  · rintro ⟨⟨value, after⟩, same⟩
    exact ⟨value, after, same.symm⟩

theorem returns_onBus {f : σ → Except ε α × σ} {a : α} :
    Returns (onBus f) n a n' ↔
      f n.board = (.ok a, n'.board) ∧ n'.payloadLen = n.payloadLen := by
  rw [onBus, returns_attempt]
  cases n'
  rcases f n.board with ⟨_ | value, s⟩ <;>
    simp [mapError_ok, mapError_error, Node.mk.injEq, and_assoc, eq_comm]

theorem throws_onBus {f : σ → Except ε α × σ} {e : Raise ε} :
    Throws (onBus f) n e n' ↔ ∃ e', e = .board e' ∧ f n.board = (.error e', n'.board) ∧
      n'.payloadLen = n.payloadLen := by
  rw [onBus, throws_attempt]
  cases n'
  rcases f n.board with ⟨e' | value, s⟩
  · simp only [mapError_error, Prod.mk.injEq, Except.error.injEq, Node.mk.injEq]
    constructor
    · rintro ⟨rfl, rfl, rfl⟩
      exact ⟨e', rfl, ⟨rfl, rfl⟩, rfl⟩
    · rintro ⟨_, rfl, ⟨rfl, rfl⟩, rfl⟩
      exact ⟨rfl, rfl, rfl⟩
  · simp [mapError_ok]

/-- The radio at a node. -/
def radioAt (modem : σ → Modem) (n : Node σ) : Radio := (modem n.board).radio

/-- The commands that it was given. -/
def obeyedAt (modem : σ → Modem) (n : Node σ) : List (List UInt8) := (modem n.board).obeyed

/-- The chip select is high. -/
def Idle (modem : σ → Modem) (n : Node σ) : Prop := (modem n.board).selected = false

/-- Only the radio has been busy, on its own. -/
structure Waits (modem : σ → Modem) (n n' : Node σ) : Prop where
  modem : (modem n.board).Overhears (modem n'.board)
  payloadLen : n'.payloadLen = n.payloadLen

namespace Waits

theorem refl (n : Node σ) : Waits modem n n := ⟨.refl _, rfl⟩

theorem trans {n₁ n₂ n₃ : Node σ} (first : Waits modem n₁ n₂) (second : Waits modem n₂ n₃) :
    Waits modem n₁ n₃ :=
  ⟨first.modem.trans second.modem, second.payloadLen.trans first.payloadLen⟩

theorem radio (waits : Waits modem n n') : (radioAt modem n).Overhears (radioAt modem n') := by
  obtain ⟨r, overhears, same⟩ := waits.modem
  unfold radioAt
  rw [same]
  exact overhears

theorem idle (waits : Waits modem n n') (idle : Idle modem n) : Idle modem n' := by
  obtain ⟨r, overhears, same⟩ := waits.modem
  unfold Idle
  rw [same]
  exact idle

theorem obeyed (waits : Waits modem n n') : obeyedAt modem n' = obeyedAt modem n := by
  obtain ⟨r, overhears, same⟩ := waits.modem
  unfold obeyedAt
  rw [same]

end Waits

/-- One action on the modem, after whatever the radio did on its own. -/
structure Acts (modem : σ → Modem) (action : Modem → Modem) (n n' : Node σ) : Prop where
  modem : ∃ m, (modem n.board).Overhears m ∧ modem n'.board = action m
  payloadLen : n'.payloadLen = n.payloadLen

/-- An action on something other than the modem. -/
theorem onBoard_waits {f : σ → α × σ} {a : α}
    (overhears : ∀ s, (modem s).Overhears (modem (f s).2))
    (returned : Returns (onBoard f : Py ε σ α) n a n') : Waits modem n n' := by
  obtain ⟨same, kept⟩ := returns_onBoard.mp returned
  have heard := overhears n.board
  rw [same] at heard
  exact ⟨heard, kept⟩

section Primitives

variable (wired : Wired board modem)

include wired

theorem now_waits {t : Nat} (returned : Returns board.now n t n') : Waits modem n n' :=
  onBoard_waits wired.monotonicNs returned

theorem sleep_waits {ms : Nat} (returned : Returns (board.sleep ms) n () n') :
    Waits modem n n' :=
  onBoard_waits (wired.sleepMs ms) returned

theorem say_waits {line : String} (returned : Returns (board.say line) n () n') :
    Waits modem n n' :=
  onBoard_waits (wired.print line) returned

theorem busy_waits {high : Bool} (returned : Returns board.busy n high n') :
    Waits modem n n' :=
  onBoard_waits wired.busyValue returned

theorem cs_acts {level : Bool} (returned : Returns (board.cs level) n () n') :
    Acts modem (·.select level) n n' := by
  obtain ⟨same, kept⟩ := returns_onBoard.mp returned
  have after : board.setCsValue level n.board = n'.board := congrArg Prod.snd same
  have selects := wired.setCsValue level n.board
  rw [after] at selects
  exact ⟨selects, kept⟩

theorem nreset_acts {level : Bool} (returned : Returns (board.nreset level) n () n') :
    Acts modem (·.reset level) n n' := by
  obtain ⟨same, kept⟩ := returns_onBoard.mp returned
  have after : board.setResetValue level n.board = n'.board := congrArg Prod.snd same
  have resets := wired.setResetValue level n.board
  rw [after] at resets
  exact ⟨resets, kept⟩

theorem write_acts {bytes : List UInt8} (returned : Returns (board.write bytes) n () n') :
    Acts modem (·.write bytes) n n' := by
  obtain ⟨same, kept⟩ := returns_onBus.mp returned
  exact ⟨wired.spiWrite bytes _ _ same, kept⟩

theorem write_throws {bytes : List UInt8} {e : Raise ε}
    (raised : Throws (board.write bytes) n e n') :
    (∃ e', e = .board e') ∧ ∃ part, part <+: bytes ∧ Acts modem (·.write part) n n' := by
  obtain ⟨e', rfl, same, kept⟩ := throws_onBus.mp raised
  obtain ⟨m, part, overhears, start, acts⟩ := wired.spiWriteRaises bytes _ _ _ same
  exact ⟨⟨e', rfl⟩, part, start, ⟨m, overhears, acts⟩, kept⟩

theorem readinto_acts {count : Nat} {buf : List UInt8}
    (returned : Returns (board.readinto count) n buf n') :
    ∃ m, (modem n.board).Overhears m ∧ buf = (m.read count).1.toList ∧
      modem n'.board = (m.read count).2 ∧ n'.payloadLen = n.payloadLen := by
  obtain ⟨bytes, n₁, reads, rest⟩ := returns_bind.mp returned
  obtain ⟨rfl, rfl⟩ := returns_pure.mp rest
  obtain ⟨same, kept⟩ := returns_onBus.mp reads
  obtain ⟨m, overhears, outcome⟩ := wired.spiReadinto count _ _ _ same
  exact ⟨m, overhears, congrArg (·.1.toList) outcome, congrArg (·.2) outcome, kept⟩

theorem readinto_throws {count : Nat} {e : Raise ε}
    (raised : Throws (board.readinto count) n e n') :
    (∃ e', e = .board e') ∧ ∃ part, part ≤ count ∧ Acts modem (fun m => (m.read part).2) n n' := by
  rcases throws_bind.mp raised with reads | ⟨bytes, n₁, _, rest⟩
  · obtain ⟨e', rfl, same, kept⟩ := throws_onBus.mp reads
    obtain ⟨m, part, overhears, within, acts⟩ := wired.spiReadintoRaises count _ _ _ same
    exact ⟨⟨e', rfl⟩, part, within, ⟨m, overhears, acts⟩, kept⟩
  · exact absurd rest not_throws_pure

end Primitives

section Transactions

variable (wired : Wired board modem)

include wired

theorem waitBusyRound_waits {deadline : Nat} {out : Unit ⊕ Unit}
    (returned : Returns (waitBusyRound board deadline ()) n out n') : Waits modem n n' := by
  obtain ⟨high, n₁, busy, rest⟩ := returns_bind.mp returned
  have asked := busy_waits wired busy
  split at rest
  · obtain ⟨t, n₂, now, rest⟩ := returns_bind.mp rest
    have timed := asked.trans (now_waits wired now)
    split at rest
    · exact absurd rest not_returns_raise
    · rwa [(returns_pure.mp rest).2]
  · rwa [(returns_pure.mp rest).2]

theorem waitBusyRound_throws {deadline : Nat} {e : Raise ε}
    (raised : Throws (waitBusyRound board deadline ()) n e n') :
    e = .radioError busyStuck ∧ Waits modem n n' := by
  rcases throws_bind.mp raised with busy | ⟨high, n₁, busy, rest⟩
  · exact absurd busy not_throws_act
  have asked := busy_waits wired busy
  split at rest
  · rcases throws_bind.mp rest with now | ⟨t, n₂, now, rest⟩
    · exact absurd now not_throws_act
    have timed := asked.trans (now_waits wired now)
    split at rest
    · obtain ⟨rfl, rfl⟩ := throws_raise.mp rest
      exact ⟨rfl, timed⟩
    · exact absurd rest not_throws_pure
  · exact absurd rest not_throws_pure

theorem waitBusy_rounds {deadline : Nat} {n₁ : Node σ} {u u' : Unit}
    (rounds : Relation.ReflTransGen (Round (waitBusyRound board deadline)) (u, n₁) (u', n'))
    (before : Waits modem n n₁) : Waits modem n n' := by
  refine rounds_invariant (fun _ m => Waits modem n m) ?_ rounds before
  intro _ m _ m' waits round
  exact waits.trans (waitBusyRound_waits wired round)

/-- While the driver waits for BUSY, the radio is left to itself. -/
theorem waitBusy_waits {timeoutMs : Nat}
    (returned : Returns (waitBusy board fuel timeoutMs) n () n') : Waits modem n n' := by
  obtain ⟨t, n₁, now, loop⟩ := returns_bind.mp returned
  obtain ⟨u, n₂, rounds, last⟩ := whileLoop_returns loop
  exact (waitBusy_rounds wired rounds (now_waits wired now)).trans (waitBusyRound_waits wired last)

theorem waitBusy_throws {timeoutMs : Nat} {e : Raise ε}
    (raised : Throws (waitBusy board fuel timeoutMs) n e n') :
    e = .radioError busyStuck ∧ Waits modem n n' := by
  rcases throws_bind.mp raised with now | ⟨t, n₁, now, loop⟩
  · exact absurd now not_throws_act
  obtain ⟨u, n₂, rounds, last⟩ := whileLoop_throws loop
  obtain ⟨stuck, waits⟩ := waitBusyRound_throws wired last
  exact ⟨stuck, (waitBusy_rounds wired rounds (now_waits wired now)).trans waits⟩

end Transactions

/-- The driver was through with `commands`, and left the chip select high. -/
structure Sent (modem : σ → Modem) (commands : List (List UInt8)) (n n' : Node σ) : Prop where
  obeyed : obeyedAt modem n' = obeyedAt modem n ++ commands
  idle : Idle modem n'
  payloadLen : n'.payloadLen = n.payloadLen

namespace Sent

theorem trans {first second : List (List UInt8)} {n₁ : Node σ} (sent : Sent modem first n n₁)
    (sent' : Sent modem second n₁ n') : Sent modem (first ++ second) n n' := by
  refine ⟨?_, sent'.idle, sent'.payloadLen.trans sent.payloadLen⟩
  rw [sent'.obeyed, sent.obeyed, List.append_assoc]

theorem ofWaits (waits : Waits modem n n') (idle : Idle modem n) : Sent modem [] n n' :=
  ⟨waits.obeyed.trans (List.append_nil _).symm, waits.idle idle, waits.payloadLen⟩

end Sent

/-- The bus raised in the middle of a transaction. -/
structure Broken (modem : σ → Modem) (n n' : Node σ) : Prop where
  selected : (modem n'.board).selected = true
  obeyed : obeyedAt modem n' = obeyedAt modem n
  radio : (radioAt modem n).Overhears (radioAt modem n')
  payloadLen : n'.payloadLen = n.payloadLen

section Commands

variable (wired : Wired board modem)

include wired

/-- A command that returns has been carried out, once, after whatever the radio did on its
own; and its answer is ready. -/
theorem cmd_sent {opcode : UInt16} {args : List UInt8} (idle : Idle modem n)
    (returned : Returns (cmd board fuel opcode args) n () n') :
    Sent modem [frame opcode args] n n' ∧ ∃ r, (radioAt modem n).Overhears r ∧
      radioAt modem n' = (r.execute opcode args).2 ∧
      ∀ payload, (r.execute opcode args).1 = some payload →
        (modem n'.board).reply = r.status.first :: r.status.second :: payload := by
  obtain ⟨_, n₁, ready, rest⟩ := returns_bind.mp returned
  obtain ⟨_, n₂, low, rest⟩ := returns_bind.mp rest
  obtain ⟨_, n₃, sent, high⟩ := returns_bind.mp rest
  obtain ⟨⟨r₁, heard₁, same₁⟩, kept₁⟩ := waitBusy_waits wired ready
  obtain ⟨⟨_, ⟨r₂, heard₂, rfl⟩, same₂⟩, kept₂⟩ := cs_acts wired low
  obtain ⟨⟨_, ⟨r₃, heard₃, rfl⟩, same₃⟩, kept₃⟩ := write_acts wired sent
  obtain ⟨⟨_, ⟨r₄, heard₄, rfl⟩, same₄⟩, kept₄⟩ := cs_acts wired high
  unfold Idle at idle
  simp only [same₁] at heard₂ same₂
  simp only [Modem.select, idle, Bool.false_eq_true, if_false] at same₂
  simp only [same₂, Modem.write, if_true, List.nil_append] at heard₃ same₃
  simp only [same₃, Modem.select, if_true, Radio.obey_frame] at heard₄ same₄
  refine ⟨⟨?_, ?_, ?_⟩, r₄, heard₁.trans (heard₂.trans (heard₃.trans heard₄)), ?_, ?_⟩
  · rw [obeyedAt, same₄]
    rfl
  · rw [Idle, same₄]
  · rw [kept₄, kept₃, kept₂, kept₁]
  · rw [radioAt, same₄]
  · intro payload answered
    rw [same₄]
    simp only [answered]

/-- A command that raises has not been carried out: BUSY stayed high, or the bus raised and
the chip select is left low. -/
theorem cmd_throws {opcode : UInt16} {args : List UInt8} {e : Raise ε} (idle : Idle modem n)
    (raised : Throws (cmd board fuel opcode args) n e n') :
    e = .radioError busyStuck ∧ Waits modem n n' ∨ (∃ e', e = .board e') ∧ Broken modem n n' := by
  rcases throws_bind.mp raised with busy | ⟨_, n₁, ready, rest⟩
  · exact Or.inl (waitBusy_throws wired busy)
  rcases throws_bind.mp rest with low | ⟨_, n₂, low, rest⟩
  · exact absurd low not_throws_act
  rcases throws_bind.mp rest with broken | ⟨_, n₃, sent, high⟩
  · obtain ⟨⟨r₁, heard₁, same₁⟩, kept₁⟩ := waitBusy_waits wired ready
    obtain ⟨⟨_, ⟨r₂, heard₂, rfl⟩, same₂⟩, kept₂⟩ := cs_acts wired low
    obtain ⟨raised, part, -, ⟨_, ⟨r₃, heard₃, rfl⟩, same₃⟩, kept₃⟩ := write_throws wired broken
    unfold Idle at idle
    simp only [same₁] at heard₂ same₂
    simp only [Modem.select, idle, Bool.false_eq_true, if_false] at same₂
    simp only [same₂, Modem.write, if_true] at heard₃ same₃
    refine Or.inr ⟨raised, ?_, ?_, ?_, ?_⟩
    · rw [same₃]
    · rw [obeyedAt, same₃]
      rfl
    · rw [radioAt, radioAt, same₃]
      exact heard₁.trans (heard₂.trans heard₃)
    · rw [kept₃, kept₂, kept₁]
  · exact absurd high not_throws_act

/-- A read that returns gives the answer to its command, taken when the command was carried
out. The radio may have been busy since. -/
theorem read_sent {opcode : UInt16} {args : List UInt8} {length : Nat} {out : List UInt8}
    (answers : ∀ r : Radio, ∃ payload, (r.execute opcode args).1 = some payload ∧
      payload.length = length) (idle : Idle modem n)
    (returned : Returns (read board fuel opcode length args) n out n') :
    Sent modem [frame opcode args] n n' ∧ ∃ r, (radioAt modem n).Overhears r ∧
      (r.execute opcode args).1 = some out ∧
      (r.execute opcode args).2.Overhears (radioAt modem n') := by
  obtain ⟨_, n₁, command, rest⟩ := returns_bind.mp returned
  obtain ⟨_, n₂, ready, rest⟩ := returns_bind.mp rest
  obtain ⟨_, n₃, low, rest⟩ := returns_bind.mp rest
  obtain ⟨buf, n₄, clocks, rest⟩ := returns_bind.mp rest
  obtain ⟨_, n₅, high, rest⟩ := returns_bind.mp rest
  obtain ⟨⟨obeyed₁, idle₁, kept₁⟩, r, heard, same, reply⟩ := cmd_sent wired idle command
  obtain ⟨⟨r₂, heard₂, same₂⟩, kept₂⟩ := waitBusy_waits wired ready
  obtain ⟨⟨_, ⟨r₃, heard₃, rfl⟩, same₃⟩, kept₃⟩ := cs_acts wired low
  obtain ⟨_, ⟨r₄, heard₄, rfl⟩, read₄, same₄, kept₄⟩ := readinto_acts wired clocks
  obtain ⟨⟨_, ⟨r₅, heard₅, rfl⟩, same₅⟩, kept₅⟩ := cs_acts wired high
  obtain ⟨payload, answered, sized⟩ := answers r
  have replied := reply payload answered
  unfold Idle at idle₁
  simp only [same₂] at heard₃ same₃
  simp only [Modem.select, idle₁, Bool.false_eq_true, if_false] at same₃
  simp only [same₃] at heard₄ read₄ same₄
  have fresh : ¬([] = frame cmdReadRxFifo []) := by decide
  simp only [Modem.read, if_true, if_neg fresh] at read₄ same₄
  simp only [same₄] at heard₅ same₅
  simp only [Modem.select, if_true, Radio.obey] at same₅
  split at rest
  · exact absurd rest not_returns_raise
  obtain ⟨rfl, rfl⟩ := returns_pure.mp rest
  refine ⟨⟨?_, ?_, ?_⟩, r, heard, ?_, ?_⟩
  · rw [← obeyed₁, obeyedAt, obeyedAt, same₅]
    exact List.append_nil _
  · rw [Idle, same₅]
  · rw [kept₅, kept₄, kept₃, kept₂, kept₁]
  · have long : statusLen + length ≤ (modem n₁.board).reply.length := by
      rw [replied, List.length_cons, List.length_cons, sized, statusLen]
      omega
    rw [answered, read₄, toList_clocked long, replied, ← sized]
    simp [statusLen, Nat.add_comm 2]
  · rw [← same, radioAt, radioAt, same₅]
    exact heard₂.trans (heard₃.trans (heard₄.trans heard₅))

/-- A read of the FIFO that returns takes the first bytes off it, whatever is added to it
behind them. -/
theorem readFifo_sent {length : Nat} {out : List UInt8} (idle : Idle modem n)
    (returned : Returns (readFifo board fuel length) n out n') :
    Sent modem [frame cmdReadRxFifo []] n n' ∧ ∃ r, (radioAt modem n).Overhears r ∧
      out = (clocked length r.rxFifo).toList ∧
      Radio.Overhears { r with rxFifo := r.rxFifo.drop length } (radioAt modem n') := by
  obtain ⟨_, n₁, ready, rest⟩ := returns_bind.mp returned
  obtain ⟨_, n₂, low, rest⟩ := returns_bind.mp rest
  obtain ⟨_, n₃, sent, rest⟩ := returns_bind.mp rest
  obtain ⟨buf, n₄, clocks, rest⟩ := returns_bind.mp rest
  obtain ⟨_, n₅, high, rest⟩ := returns_bind.mp rest
  obtain ⟨rfl, rfl⟩ := returns_pure.mp rest
  obtain ⟨⟨r₁, heard₁, same₁⟩, kept₁⟩ := waitBusy_waits wired ready
  obtain ⟨⟨_, ⟨r₂, heard₂, rfl⟩, same₂⟩, kept₂⟩ := cs_acts wired low
  obtain ⟨⟨_, ⟨r₃, heard₃, rfl⟩, same₃⟩, kept₃⟩ := write_acts wired sent
  obtain ⟨_, ⟨r₄, heard₄, rfl⟩, read₄, same₄, kept₄⟩ := readinto_acts wired clocks
  obtain ⟨⟨_, ⟨r₅, heard₅, rfl⟩, same₅⟩, kept₅⟩ := cs_acts wired high
  unfold Idle at idle
  simp only [same₁] at heard₂ same₂
  simp only [Modem.select, idle, Bool.false_eq_true, if_false] at same₂
  simp only [same₂, Modem.write, if_true, List.nil_append] at heard₃ same₃
  simp only [same₃] at heard₄ read₄ same₄
  simp only [Modem.read, if_true] at read₄ same₄
  simp only [same₄] at heard₅ same₅
  simp only [Modem.select, if_true, Radio.obey_frame, Radio.execute_readRxFifo] at same₅
  refine ⟨⟨?_, ?_, ?_⟩, r₄, heard₁.trans (heard₂.trans (heard₃.trans heard₄)), read₄, ?_⟩
  · rw [obeyedAt, same₅]
    rfl
  · rw [Idle, same₅]
  · rw [kept₅, kept₄, kept₃, kept₂, kept₁]
  · rw [radioAt, same₅]
    exact heard₅

/-- A reset that returns has cleared the radio. -/
theorem reset_clears (idle : Idle modem n) (returned : Returns (reset board fuel) n () n') :
    Sent modem [] n n' ∧ ∃ r, (radioAt modem n).Overhears r ∧
      r.cleared.Overhears (radioAt modem n') := by
  obtain ⟨_, n₁, low, rest⟩ := returns_bind.mp returned
  obtain ⟨_, n₂, held, rest⟩ := returns_bind.mp rest
  obtain ⟨_, n₃, high, rest⟩ := returns_bind.mp rest
  obtain ⟨_, n₄, settled, ready⟩ := returns_bind.mp rest
  obtain ⟨⟨_, ⟨r₁, heard₁, rfl⟩, same₁⟩, kept₁⟩ := nreset_acts wired low
  obtain ⟨⟨r₂, heard₂, same₂⟩, kept₂⟩ := sleep_waits wired held
  obtain ⟨⟨_, ⟨r₃, heard₃, rfl⟩, same₃⟩, kept₃⟩ := nreset_acts wired high
  have waits := (sleep_waits wired settled).trans (waitBusy_waits wired ready)
  obtain ⟨r₄, heard₄, same₄⟩ := waits.modem
  simp only [Modem.reset, Bool.false_eq_true, if_false] at same₁
  simp only [same₁] at heard₂ same₂
  simp only [same₂, Modem.reset, if_true] at heard₃ same₃
  simp only [same₃] at heard₄ same₄
  refine ⟨⟨?_, ?_, ?_⟩, r₁, heard₁, ?_⟩
  · rw [obeyedAt, same₄]
    exact (List.append_nil _).symm
  · rw [Idle, same₄]
    exact idle
  · rw [waits.payloadLen, kept₃, kept₂, kept₁]
  · rw [radioAt, same₄]
    exact heard₂.trans (heard₃.trans heard₄)

/-- A reset can only raise while it waits. -/
theorem reset_throws {e : Raise ε} (raised : Throws (reset board fuel) n e n') :
    e = .radioError busyStuck ∧ obeyedAt modem n' = obeyedAt modem n ∧
      n'.payloadLen = n.payloadLen := by
  rcases throws_bind.mp raised with low | ⟨_, n₁, low, rest⟩
  · exact absurd low not_throws_act
  rcases throws_bind.mp rest with held | ⟨_, n₂, held, rest⟩
  · exact absurd held not_throws_act
  rcases throws_bind.mp rest with high | ⟨_, n₃, high, rest⟩
  · exact absurd high not_throws_act
  rcases throws_bind.mp rest with settled | ⟨_, n₄, settled, ready⟩
  · exact absurd settled not_throws_act
  obtain ⟨⟨_, ⟨r₁, -, rfl⟩, same₁⟩, kept₁⟩ := nreset_acts wired low
  obtain ⟨⟨r₂, -, same₂⟩, kept₂⟩ := sleep_waits wired held
  obtain ⟨⟨_, ⟨r₃, -, rfl⟩, same₃⟩, kept₃⟩ := nreset_acts wired high
  obtain ⟨error, stuck⟩ := waitBusy_throws wired ready
  have waits := (sleep_waits wired settled).trans stuck
  refine ⟨error, ?_, ?_⟩
  · rw [waits.obeyed, obeyedAt, obeyedAt, same₃, Modem.reset, if_pos rfl, same₂, same₁]
    rfl
  · rw [waits.payloadLen, kept₃, kept₂, kept₁]

end Commands
end Lr2021.Link
