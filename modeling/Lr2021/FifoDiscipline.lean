import Lr2021.ReadFifoTrace
import Lr2021.Lib.BigEndian
import Lr2021.Lib.Runs

set_option autoImplicit false

/-! The FIFO read when any of the host's steps can fail, with any error. -/
namespace Lr2021

open TraceLogic BigEndian

/-- The steps of a FIFO read on which nothing fails. -/
def fifoOrder (opcode : UInt16) (n : Nat) : List Ev :=
  [.waitBusy, .select 0, .write (bytes16 opcode), .read n, .select 1, .waitBusy]

/-- The error of the first step that failed. -/
def verdict : List Step → Except Int32 Unit
  | [] => .ok ()
  | ⟨_, .error e⟩ :: _ => .error e
  | ⟨_, .ok ()⟩ :: rest => verdict rest

/-- Whether a step clocks bytes. -/
def Ev.isTransfer : Ev → Bool
  | .write _ | .read _ => true
  | _ => false

/-- One chip-select assertion with nothing but transfers in it, and none outside. -/
def Enclosed (events : List Ev) : Prop :=
  ∃ before inside after, events = before ++ .select 0 :: inside ++ .select 1 :: after ∧
    (∀ event ∈ before ++ after, event = .waitBusy) ∧ ∀ event ∈ inside, event.isTransfer = true

theorem Enclosed.of_transfers (inside after : List Ev)
    (transfers : ∀ event ∈ inside, event.isTransfer = true)
    (waits : ∀ event ∈ after, event = .waitBusy) :
    Enclosed (.waitBusy :: .select 0 :: inside ++ .select 1 :: after) := by
  refine ⟨[.waitBusy], inside, after, rfl, ?_, transfers⟩
  intro event member
  rcases List.mem_cons.mp member with rfl | later
  · rfl
  · exact waits event later

/-- What a FIFO read may do and return, given the results its steps had. -/
structure Disciplined (opcode : UInt16) {n : Nat} (out : Vector UInt8 n)
    (result : Except Int32 Unit × Vector UInt8 n) (steps : List Step) : Prop where
  ordered : (steps.map Step.event).Sublist (fifoOrder opcode n)
  whole : (∀ step ∈ steps, step.result = .ok ()) → steps.map Step.event = fifoOrder opcode n
  deselected : ⟨.select 0, .ok ()⟩ ∈ steps → (steps.map Step.event).count (.select 1) = 1
  unselected : ⟨.select 0, .ok ()⟩ ∉ steps → .select 1 ∉ steps.map Step.event
  opcodeOnly : ∀ bytes, .write bytes ∈ steps.map Step.event → bytes = bytes16 opcode
  enclosed : ∀ event ∈ steps.map Step.event, event.isTransfer = true →
    Enclosed (steps.map Step.event)
  skipped : ∀ bytes e, ⟨.write bytes, .error e⟩ ∈ steps → .read n ∉ steps.map Step.event
  closing : (steps.map Step.event).count .waitBusy = 2 →
    steps.map Step.event = fifoOrder opcode n ∧ ∀ step ∈ steps.dropLast, step.result = .ok ()
  reported : result.1 = verdict steps
  unread : .read n ∉ steps.map Step.event → result.2 = out

namespace Xfer.FifoSteps

variable {opcode : UInt16} {n : Nat} {out : Vector UInt8 n}
  {result : Except Int32 Unit × Vector UInt8 n} {steps : List Step}

theorem ordered (ran : FifoSteps opcode out result steps) :
    (steps.map Step.event).Sublist (fifoOrder opcode n) := by
  cases ran <;> simp [fifoOrder, frame, bytes16]

theorem whole (ran : FifoSteps opcode out result steps)
    (allOk : ∀ step ∈ steps, step.result = .ok ()) :
    steps.map Step.event = fifoOrder opcode n := by
  cases ran with
  | finished r buf => rfl
  | _ => simp at allOk

theorem deselected (ran : FifoSteps opcode out result steps)
    (selected : ⟨.select 0, .ok ()⟩ ∈ steps) :
    (steps.map Step.event).count (.select 1) = 1 := by
  cases ran with
  | busy e => simp at selected
  | unselected e => simp at selected
  | _ => simp

theorem notDeselected (ran : FifoSteps opcode out result steps)
    (notSelected : ⟨.select 0, .ok ()⟩ ∉ steps) : .select 1 ∉ steps.map Step.event := by
  cases ran <;> simp at notSelected ⊢

theorem enclosed (ran : FifoSteps opcode out result steps) (event : Ev)
    (member : event ∈ steps.map Step.event) (transfer : event.isTransfer = true) :
    Enclosed (steps.map Step.event) := by
  cases ran with
  | busy e =>
    simp at member
    subst member
    cases transfer
  | unselected e =>
    simp at member
    rcases member with rfl | rfl <;> cases transfer
  | unwritten e deselect =>
    apply Enclosed.of_transfers [.write (frame opcode [])] [] <;> simp [Ev.isTransfer]
  | unread e buf deselect =>
    apply Enclosed.of_transfers [.write (frame opcode []), .read n] [] <;> simp [Ev.isTransfer]
  | undeselected e buf =>
    apply Enclosed.of_transfers [.write (frame opcode []), .read n] [] <;> simp [Ev.isTransfer]
  | finished r buf =>
    apply Enclosed.of_transfers [.write (frame opcode []), .read n] [.waitBusy] <;>
      simp [Ev.isTransfer]

theorem closing (ran : FifoSteps opcode out result steps)
    (waited : (steps.map Step.event).count .waitBusy = 2) :
    steps.map Step.event = fifoOrder opcode n ∧
      ∀ step ∈ steps.dropLast, step.result = .ok () := by
  cases ran with
  | finished r buf => exact ⟨rfl, by simp⟩
  | _ => simp at waited

theorem reported (ran : FifoSteps opcode out result steps) : result.1 = verdict steps := by
  cases ran with
  | finished r buf => cases r <;> rfl
  | _ => rfl

theorem disciplined (ran : FifoSteps opcode out result steps) :
    Disciplined opcode out result steps where
  ordered := ran.ordered
  whole := ran.whole
  deselected := ran.deselected
  unselected := ran.notDeselected
  opcodeOnly := by cases ran <;> simp [frame, bytes16]
  enclosed := ran.enclosed
  skipped := by cases ran <;> simp
  closing := ran.closing
  reported := ran.reported
  unread := by cases ran <;> simp

end Xfer.FifoSteps

/-- NSS after a step: a select that succeeds drives it, a failed one leaves it. -/
def drive (level : Bool) : Step → Bool
  | ⟨.select driven, .ok ()⟩ => driven != 0
  | _ => level

/-- NSS after a list of steps, the first of which finds it high. -/
def nss (steps : List Step) : Bool := steps.foldl drive true

/-- Whatever fails, a read that starts with NSS high leaves it high unless the deselect
itself failed. -/
theorem Xfer.FifoSteps.nss_high {opcode : UInt16} {n : Nat} {out : Vector UInt8 n}
    {result : Except Int32 Unit × Vector UInt8 n} {steps : List Step}
    (ran : FifoSteps opcode out result steps) (released : ∀ e, ⟨.select 1, .error e⟩ ∉ steps) :
    steps.foldl drive true = true := by
  cases ran with
  | busy e => rfl
  | unselected e => rfl
  | undeselected e buf => exact absurd (by simp) (released e)
  | finished r buf => rfl
  | unwritten e deselect | unread e buf deselect =>
    cases deselect with
    | error e' => exact absurd (by simp) (released e')
    | ok _ => rfl

/-- A call of the FIFO read. -/
structure FifoCall where
  opcode : UInt16
  len : Nat
  out : Vector UInt8 len

section Run

variable {σ : Type} {hal : Hal (StateM σ)} {steps : σ → List Step}

def FifoCall.run (hal : Hal (StateM σ)) (call : FifoCall) :
    StateM σ (Except Int32 Unit × List UInt8) :=
  (fun result => (result.1, result.2.toList)) <$> Xfer.readFifo hal call.opcode call.out

/-- In this call no deselect fails. -/
def Deselects (hal : Hal (StateM σ)) (steps : σ → List Step) (call : FifoCall) (s : σ) : Prop :=
  ∀ e, ⟨.select 1, .error e⟩ ∉ emitted steps (call.run hal) s

theorem readFifo_steps (reports : Reports hal steps id) (opcode : UInt16) {n : Nat}
    (out : Vector UInt8 n) :
    Emits steps (Xfer.readFifo hal opcode out) (Xfer.FifoSteps opcode out) := by
  apply (Xfer.readFifo_shown reports opcode out).mono
  rintro result _ ⟨ran, rfl, holds⟩
  rwa [List.map_id]

theorem FifoCall.nss_high (reports : Reports hal steps id) (call : FifoCall) (s : σ)
    (high : nss (steps s) = true) (released : Deselects hal steps call s) :
    nss (steps (call.run hal s).2) = true := by
  obtain ⟨extended, ran⟩ := (readFifo_steps reports call.opcode call.out).emitted s
  have after : steps (call.run hal s).2 = steps s ++ emitted steps (call.run hal) s := extended
  rw [nss] at high
  rw [after, nss, List.foldl_append, high]
  exact ran.nss_high released

/-- Every FIFO read is disciplined, whatever the results of its steps; and in a run of
reads that starts with NSS high and in which no deselect fails, NSS is high before and
after every read. -/
theorem read_fifo_disciplined {σ : Type} {hal : Hal (StateM σ)} {steps : σ → List Step}
    (reports : Reports hal steps id) :
    (∀ (opcode : UInt16) {n : Nat} (out : Vector UInt8 n) (s : σ),
      Disciplined opcode out (Xfer.readFifo hal opcode out s).1
        (emitted steps (Xfer.readFifo hal opcode out) s)) ∧
    ∀ (calls : List FifoCall) (s : σ), nss (steps s) = true →
      Runs.AllEnabled (FifoCall.run hal) (Deselects hal steps) calls s →
        ∀ later ∈ Runs.reached (FifoCall.run hal) calls s, nss (steps later) = true := by
  constructor
  · intro opcode n out s
    exact ((readFifo_steps reports opcode out).emitted s).2.disciplined
  · intro calls s high all
    have preserved (call : FifoCall) (s : σ) (high : nss (steps s) = true)
        (released : Deselects hal steps call s) : nss (steps (call.run hal s).2) = true :=
      call.nss_high reports s high released
    exact Runs.reached_invariant preserved calls s high all

end Run

/-- A host that gives each step the next result of a script, and records both. -/
structure Scripted where
  script : List (Except Int32 Unit)
  steps : List Step

namespace Scripted

def step (event : Ev) : Fallible (StateM Scripted) Unit := ExceptT.mk fun host =>
  (host.script.headD (.ok ()),
    { script := host.script.tail
      steps := host.steps ++ [⟨event, host.script.headD (.ok ())⟩] })

/-- Bytes arrive unless the read fails. -/
def read {n : Nat} (out : Vector UInt8 n) :
    StateM Scripted (Except Int32 Unit × Vector UInt8 n) := do
  let r ← (step (.read n)).run
  pure (r, if r.isOk then Vector.replicate n 0xA5 else out)

def command (opcode : UInt16) (params : List UInt8) : Fallible (StateM Scripted) Unit := do
  step .waitBusy
  step (.select 0)
  step (.write (frame opcode params))

def hal : Hal (StateM Scripted) where
  waitBusy := step .waitBusy
  select level := step (.select level)
  write bytes := step (.write bytes)
  read := read
  writeCmd opcode params := do
    command opcode params
    step (.select 1)
  readCmd status opcode params out := do
    match ← (command opcode params).run with
    | .error e => pure (.error e, out)
    | .ok () =>
      let (r, stat) ← read (Vector.replicate status 0)
      let (_, out) ← read out
      let _ ← (step (.select 1)).run
      pure (r.map fun _ => stat, out)
  getStatus := do
    step .waitBusy
    step (.select 0)
    step (.read 6)
    step (.select 1)
    pure (0xA5, 0xA5, 0)

theorem reports : Reports hal Scripted.steps id where
  waitBusy _ := ⟨_, rfl, rfl⟩
  select _ _ := ⟨_, rfl, rfl⟩
  write _ _ := ⟨_, rfl, rfl⟩
  read _ _ := ⟨_, rfl, rfl⟩

/-- The first write fails, and nothing else does. -/
def unwritable : Scripted := { script := [.ok (), .ok (), .error (-1)], steps := [] }

end Scripted

/-- The second read is answered although the first could not send its opcode. -/
theorem read_fifo_disciplined_scripted :
    let call : FifoCall := { opcode := 0x0001, len := 2, out := #v[0, 0] }
    Disciplined call.opcode call.out
        (Xfer.readFifo Scripted.hal call.opcode call.out Scripted.unwritable).1
        (emitted Scripted.steps (Xfer.readFifo Scripted.hal call.opcode call.out)
          Scripted.unwritable) ∧
      ∀ later ∈ Runs.reached (FifoCall.run Scripted.hal) [call, call] Scripted.unwritable,
        nss later.steps = true := by
  obtain ⟨each, runs⟩ := read_fifo_disciplined Scripted.reports
  refine ⟨each _ _ _, runs _ _ rfl ⟨?_, ?_, trivial⟩⟩
  · intro e member
    have first : emitted Scripted.steps (FifoCall.run Scripted.hal ⟨0x0001, 2, #v[0, 0]⟩)
        Scripted.unwritable = [⟨.waitBusy, .ok ()⟩, ⟨.select 0, .ok ()⟩,
          ⟨.write [0x00, 0x01], .error (-1)⟩, ⟨.select 1, .ok ()⟩] := rfl
    rw [first] at member
    simp at member
  · intro e member
    have second : emitted Scripted.steps (FifoCall.run Scripted.hal ⟨0x0001, 2, #v[0, 0]⟩)
        (FifoCall.run Scripted.hal ⟨0x0001, 2, #v[0, 0]⟩ Scripted.unwritable).2 =
          [⟨.waitBusy, .ok ()⟩, ⟨.select 0, .ok ()⟩, ⟨.write [0x00, 0x01], .ok ()⟩,
            ⟨.read 2, .ok ()⟩, ⟨.select 1, .ok ()⟩, ⟨.waitBusy, .ok ()⟩] := rfl
    rw [second] at member
    simp at member

end Lr2021
