import Lr2021.AbiCommand
import Lr2021.Lib.FallibleSeries

set_option autoImplicit false

/-! Series of commands to a modelled part of the chip, through a transport that can fail at
any of them. -/
namespace Lr2021

open TraceLogic FallibleSeries

variable {σ δ : Type}

/-- A command as the host's `write_cmd` sends it. -/
def transmit (hal : Hal (StateM σ)) (command : Command) : StateM σ (Except Int32 Unit) :=
  (hal.writeCmd command.opcode command.params).run

/-- A host whose commands act on a device. -/
abbrev Drives (hal : Hal (StateM σ)) (effect : Command → δ → δ) (device : σ → δ)
    (sent : σ → List (Command × Except Int32 Unit)) : Prop :=
  Link (transmit hal) effect device sent

/-- The commands of a series of core calls. -/
def wires (calls : List CoreCall) : List Command := calls.map CoreCall.wire

/-- Core calls that are let through are the series of their commands. -/
theorem perform_series (hal : Hal (StateM σ)) (calls : List CoreCall) (admitted : Admitted calls)
    (writes : ∀ c ∈ calls, c.isWrite = true) :
    (perform hal calls).run = series (transmit hal) (wires calls) := by
  induction calls with
  | nil => rfl
  | cons c rest ih =>
    rw [Admitted, List.forall_mem_cons] at admitted
    rw [List.forall_mem_cons] at writes
    have command : c.run hal = transmit hal c.wire := by
      rw [CoreCall.run_of_isWrite hal c writes.1, admitted.1]
      rfl
    change (c.run hal >>= ExceptT.bindCont fun _ => perform hal rest) =
      (transmit hal c.wire >>= _)
    rw [command]
    congr 1
    funext r
    cases r with
    | error e => rfl
    | ok _ => exact ih admitted.2 writes.2

/-- What a series of core calls does to a device. -/
theorem perform_ran {hal : Hal (StateM σ)} {effect : Command → δ → δ} {device : σ → δ}
    {sent : σ → List (Command × Except Int32 Unit)} (drives : Drives hal effect device sent)
    (calls : List CoreCall) (admitted : Admitted calls)
    (writes : ∀ c ∈ calls, c.isWrite = true) (s : σ) :
    ∃ log, sent ((perform hal calls).run s).2 = sent s ++ log ∧
      Ran effect (wires calls) (device s) ((perform hal calls).run s).1
        (device ((perform hal calls).run s).2) log := by
  rw [perform_series hal calls admitted writes]
  exact series_ran drives (wires calls) s

/-- A device on a test bench. Each command meets the next fault of a list: none, or an error
that is reported, and whether the command took effect all the same. -/
structure Bench (δ : Type) where
  device : δ
  sent : List (Command × Except Int32 Unit)
  faults : List (Option (Int32 × Bool))

namespace Bench

def send (effect : Command → δ → δ) (command : Command) : StateM (Bench δ) (Except Int32 Unit) :=
  fun bench =>
    match bench.faults.headD none with
    | none =>
      (.ok (), {
        device := effect command bench.device
        sent := bench.sent ++ [(command, .ok ())]
        faults := bench.faults.tail })
    | some (e, applied) =>
      (.error e, {
        device := if applied then effect command bench.device else bench.device
        sent := bench.sent ++ [(command, .error e)]
        faults := bench.faults.tail })

def hal (effect : Command → δ → δ) : Hal (StateM (Bench δ)) where
  waitBusy := pure ()
  select _ := pure ()
  write _ := pure ()
  read out := pure (.ok (), out)
  writeCmd opcode params := ExceptT.mk (send effect ⟨opcode, params⟩)
  readCmd status _ _ out := pure (.ok (Vector.replicate status 0x01), out)
  getStatus := pure (0x01, 0x01, 0)

theorem drives (effect : Command → δ → δ) : Drives (hal effect) effect device sent where
  records command bench := by
    change (send effect command bench).2.sent = _ ++ [(command, (send effect command bench).1)]
    unfold send
    split <;> rfl
  applies command bench succeeded := by
    change (send effect command bench).1 = _ at succeeded
    change (send effect command bench).2.device = _
    unfold send at succeeded ⊢
    split at succeeded
    · rfl
    · cases succeeded
  leaves command bench := by
    change (send effect command bench).2.device = _ ∨ (send effect command bench).2.device = _
    unfold send
    split
    · exact Or.inl rfl
    · rename_i e applied faulty
      cases applied with
      | false => exact Or.inr rfl
      | true => exact Or.inl rfl

end Bench
end Lr2021
