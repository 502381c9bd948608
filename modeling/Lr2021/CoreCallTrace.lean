import Lr2021.CoreCall
import Lr2021.ReadFifoTrace

set_option autoImplicit false

namespace Lr2021

open TraceLogic

theorem Transaction.weaken {bytes : List UInt8} {strong weak : Bool} {events : List Ev}
    (done : Transaction bytes strong events) (implies : weak = true → strong = true) :
    Transaction bytes weak events :=
  ⟨done.starts, done.begun, fun completed => done.whole (implies completed)⟩

/-- The FIFO read is a transaction of its opcode alone: what it clocks out under the
chip select is the opcode, and nothing else. -/
theorem Xfer.FifoTrace.transaction {opcode : UInt16} {n : Nat} {out : Vector UInt8 n}
    {result : Except Int32 Unit × Vector UInt8 n} {events : List Ev}
    (ran : FifoTrace opcode out result events) :
    Transaction (frame opcode []) result.1.isOk events := by
  cases ran with
  | busy e => exact ⟨rfl, List.nil_prefix, nofun⟩
  | unselected e => exact ⟨rfl, List.nil_prefix, nofun⟩
  | unwritten e => exact ⟨rfl, List.prefix_rfl, nofun⟩
  | unread e buf => exact ⟨rfl, List.prefix_rfl, nofun⟩
  | finished r buf => exact ⟨rfl, List.prefix_rfl, fun _ => ⟨rfl, fun _ => rfl⟩⟩

namespace CoreCall

variable {m : Type → Type} [Monad m] [LawfulMonad m]

/-- Whether a call is one `write_cmd`. -/
def isWrite : CoreCall → Bool
  | getVersion | getRandomNumber | getErrors | getPacketType | getAndClearIrqStatus
  | getRxFifoLevel | getTxFifoLevel | getRssiInst | getPacketStatus | getRxStats => false
  | readRxFifo _ => false
  | _ => true

/-- A writing call refuses its arguments without touching the host, or is exactly one
`write_cmd` of its command. -/
theorem run_of_isWrite (hal : Hal m) (c : CoreCall) (writes : c.isWrite = true) :
    c.run hal = if c.refused then pure (.error Hal.errBuffer)
      else (hal.writeCmd c.wire.opcode c.wire.params).run := by
  cases c with
  | setRx timeout =>
    simp only [run, Radio.setRx, Radio.timeoutBytes, refused, decide_eq_true_eq]
    split
    · exact run_error_bind _ _
    · exact run_ok_bind _ _
  | setTx timeout =>
    simp only [run, Radio.setTx, Radio.timeoutBytes, refused, decide_eq_true_eq]
    split
    · exact run_error_bind _ _
    · exact run_ok_bind _ _
  | setCadParams symNum preambleOnly pnrDelta exitMode timeout detPeak =>
    simp only [run, Lora.setCadParams, refused, decide_eq_true_eq]
    split <;> rfl
  | writeTxFifo data =>
    simp only [run, Radio.writeTxFifo, refused, decide_eq_true_eq]
    split <;> rfl
  | setModulationParams sf bw cr ldro highBand =>
    simp only [run, Lora.setModulationParams, refused, decide_eq_true_eq]
    cases checked : Lora.validate sf bw cr highBand with
    | error e =>
      rw [run_error_bind, Lora.validate_error checked]
      rfl
    | ok _ => exact run_ok_bind _ _
  | getVersion | getRandomNumber | getErrors | getPacketType | getAndClearIrqStatus
  | getRxFifoLevel | getTxFifoLevel | getRssiInst | getPacketStatus | getRxStats
  | readRxFifo _ => cases writes
  | _ => rfl

section Trace

variable {σ : Type} {hal : Hal (StateM σ)} {trace : σ → List Ev}

theorem readReply_emits (obs : Observes hal trace) {n : Nat} {α : Type} (opcode : UInt16)
    (decode : Vector UInt8 n → α) :
    Emits trace (outcome (Xfer.readReply hal opcode decode)) fun r events =>
      Transaction (frame opcode []) r.isOk events := by
  rw [outcome, Xfer.readReply_run]
  apply (((obs.readCmd 2 opcode [] (Vector.replicate n 0)).map _).map _).mono
  rintro _ events ⟨_, rfl, reply, rfl, done⟩
  apply done.weaken
  intro accepted
  obtain ⟨stat, payload⟩ := reply
  cases stat with
  | error e => cases accepted
  | ok status => rfl

/-- A call that is let through is one transaction of its command, whatever the host
answers; if it returns `Ok` the transaction was completed. -/
theorem run_emits (obs : Observes hal trace) (c : CoreCall) (admitted : c.refused = false) :
    Emits trace (c.run hal) fun r events => Transaction c.wire.bytes r.isOk events := by
  by_cases writes : c.isWrite = true
  · rw [run_of_isWrite hal c writes, admitted]
    exact obs.writeCmd c.wire.opcode c.wire.params
  · cases c with
    | readRxFifo out =>
      have short : out.length ≤ Cmd.maxPacketLen := by
        simpa only [refused, decide_eq_false_iff_not, Nat.not_lt] using admitted
      rw [run, Radio.readRxFifo_of_le hal _ short]
      apply ((Xfer.readFifo_emits obs Cmd.cmdReadRxFifo _).map _).mono
      rintro _ events ⟨result, rfl, ran⟩
      exact ran.transaction
    | getVersion | getRandomNumber | getErrors | getPacketType | getAndClearIrqStatus
    | getRxFifoLevel | getTxFifoLevel | getRssiInst | getPacketStatus | getRxStats =>
      exact readReply_emits obs _ _
    | _ => exact absurd rfl writes

/-- Refused arguments reach nothing but the return value. -/
theorem run_refused (c : CoreCall) (isRefused : c.refused = true) :
    c.run hal = pure (.error Hal.errBuffer) := by
  by_cases writes : c.isWrite = true
  · rw [run_of_isWrite hal c writes, isRefused]
    rfl
  · cases c with
    | readRxFifo out =>
      have long : out.length > Cmd.maxPacketLen := by
        simpa only [refused, decide_eq_true_eq] using isRefused
      rw [run, Radio.readRxFifo_of_gt hal _ long]
      rfl
    | getVersion | getRandomNumber | getErrors | getPacketType | getAndClearIrqStatus
    | getRxFifoLevel | getTxFifoLevel | getRssiInst | getPacketStatus | getRxStats =>
      cases isRefused
    | _ => exact absurd rfl writes

/-- On a transport that never fails, a command that is let through succeeds. -/
theorem run_ok (never : NeverFails hal) (c : CoreCall) (writes : c.isWrite = true)
    (admitted : c.refused = false) (s : σ) : (c.run hal s).1 = .ok () := by
  rw [run_of_isWrite hal c writes, admitted]
  exact never.writeCmd _ _ s

theorem admitted_of_ok (c : CoreCall) (s : σ) (returned : (c.run hal s).1 = .ok ()) :
    c.refused = false := by
  cases isRefused : c.refused with
  | false => rfl
  | true =>
    rw [run_refused c isRefused, pure_apply] at returned
    cases returned

end Trace
end CoreCall
end Lr2021
