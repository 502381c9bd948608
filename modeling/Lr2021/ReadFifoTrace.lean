import Lr2021.Xfer

set_option autoImplicit false

namespace Lr2021

open TraceLogic

/-- A step of the host, with the result it had. -/
structure Step where
  event : Ev
  result : Except Int32 Unit

/-- Every primitive of the host is one step, of which the trace shows what is `seen`. -/
structure Reports {σ ε : Type} (hal : Hal (StateM σ)) (trace : σ → List ε) (seen : Step → ε) :
    Prop where
  waitBusy : Emits trace hal.waitBusy.run fun r events => events = [seen ⟨.waitBusy, r⟩]
  select : ∀ level, Emits trace (hal.select level).run fun r events =>
    events = [seen ⟨.select level, r⟩]
  write : ∀ bytes, Emits trace (hal.write bytes).run fun r events =>
    events = [seen ⟨.write bytes, r⟩]
  read : ∀ {n : Nat} (out : Vector UInt8 n), Emits trace (hal.read out) fun reply events =>
    events = [seen ⟨.read n, reply.1⟩]

theorem Observes.reports {σ : Type} {hal : Hal (StateM σ)} {trace : σ → List Ev}
    (obs : Observes hal trace) : Reports hal trace Step.event :=
  ⟨obs.waitBusy, obs.select, obs.write, obs.read⟩

namespace Xfer

section Shown

variable {σ ε α β : Type} {trace : σ → List ε} {seen : Step → ε}

/-- What a computation shows of its steps is a list of steps that `post` relates to its
result. -/
def Shown (trace : σ → List ε) (seen : Step → ε) (c : StateM σ α)
    (post : α → List Step → Prop) : Prop :=
  Emits trace c fun a events => ∃ steps, events = steps.map seen ∧ post a steps

theorem Shown.pure {a : α} {post : α → List Step → Prop} (holds : post a []) :
    Shown trace seen (pure a : StateM σ α) post :=
  Emits.pure a ⟨[], rfl, holds⟩

/-- One step, and what its result leads to. -/
theorem Shown.step {c : StateM σ α} {next : α → StateM σ β} {event : Ev}
    {result : α → Except Int32 Unit} {post : β → List Step → Prop}
    (emits : Emits trace c fun a events => events = [seen ⟨event, result a⟩])
    (continues : ∀ a, Shown trace seen (next a) fun b steps =>
      post b (⟨event, result a⟩ :: steps)) :
    Shown trace seen (c >>= next) post := by
  apply (emits.bind continues).mono
  rintro b events ⟨a, before, after, rfl, rfl, steps, rfl, holds⟩
  exact ⟨⟨event, result a⟩ :: steps, rfl, holds⟩

end Shown

/-- Everything `readFifo` can do to the bus, with the results it then returns. The
buffer is touched only once the read has been reached, and the chip is deselected
exactly when it was selected. -/
inductive FifoTrace (opcode : UInt16) {n : Nat} (out : Vector UInt8 n) :
    Except Int32 Unit × Vector UInt8 n → List Ev → Prop
  | busy (e : Int32) : FifoTrace opcode out (.error e, out) [.waitBusy]
  | unselected (e : Int32) : FifoTrace opcode out (.error e, out) [.waitBusy, .select 0]
  | unwritten (e : Int32) : FifoTrace opcode out (.error e, out)
      [.waitBusy, .select 0, .write (frame opcode []), .select 1]
  | unread (e : Int32) (buf : Vector UInt8 n) : FifoTrace opcode out (.error e, buf)
      [.waitBusy, .select 0, .write (frame opcode []), .read n, .select 1]
  | finished (r : Except Int32 Unit) (buf : Vector UInt8 n) : FifoTrace opcode out (r, buf)
      [.waitBusy, .select 0, .write (frame opcode []), .read n, .select 1, .waitBusy]

/-- The same with the result of each step. The first that fails decides what is returned,
save that the deselect is still attempted once the chip has been selected. -/
inductive FifoSteps (opcode : UInt16) {n : Nat} (out : Vector UInt8 n) :
    Except Int32 Unit × Vector UInt8 n → List Step → Prop
  | busy (e : Int32) : FifoSteps opcode out (.error e, out) [⟨.waitBusy, .error e⟩]
  | unselected (e : Int32) : FifoSteps opcode out (.error e, out)
      [⟨.waitBusy, .ok ()⟩, ⟨.select 0, .error e⟩]
  | unwritten (e : Int32) (deselect : Except Int32 Unit) : FifoSteps opcode out (.error e, out)
      [⟨.waitBusy, .ok ()⟩, ⟨.select 0, .ok ()⟩, ⟨.write (frame opcode []), .error e⟩,
        ⟨.select 1, deselect⟩]
  | unread (e : Int32) (buf : Vector UInt8 n) (deselect : Except Int32 Unit) :
      FifoSteps opcode out (.error e, buf)
      [⟨.waitBusy, .ok ()⟩, ⟨.select 0, .ok ()⟩, ⟨.write (frame opcode []), .ok ()⟩,
        ⟨.read n, .error e⟩, ⟨.select 1, deselect⟩]
  | undeselected (e : Int32) (buf : Vector UInt8 n) : FifoSteps opcode out (.error e, buf)
      [⟨.waitBusy, .ok ()⟩, ⟨.select 0, .ok ()⟩, ⟨.write (frame opcode []), .ok ()⟩,
        ⟨.read n, .ok ()⟩, ⟨.select 1, .error e⟩]
  | finished (r : Except Int32 Unit) (buf : Vector UInt8 n) : FifoSteps opcode out (r, buf)
      [⟨.waitBusy, .ok ()⟩, ⟨.select 0, .ok ()⟩, ⟨.write (frame opcode []), .ok ()⟩,
        ⟨.read n, .ok ()⟩, ⟨.select 1, .ok ()⟩, ⟨.waitBusy, r⟩]

theorem FifoSteps.trace {opcode : UInt16} {n : Nat} {out : Vector UInt8 n}
    {result : Except Int32 Unit × Vector UInt8 n} {steps : List Step}
    (ran : FifoSteps opcode out result steps) :
    FifoTrace opcode out result (steps.map Step.event) := by
  cases ran with
  | busy e => exact .busy e
  | unselected e => exact .unselected e
  | unwritten e deselect => exact .unwritten e
  | unread e buf deselect => exact .unread e buf
  | undeselected e buf => exact .unread e buf
  | finished r buf => exact .finished r buf

/-- The end of `readFifo`, once the transfer is over: deselect, then report. -/
def concludeFifo {m : Type → Type} [Monad m] {n : Nat} (hal : Hal m) (r : Except Int32 Unit)
    (out : Vector UInt8 n) : m (Except Int32 Unit × Vector UInt8 n) := do
  let deselect ← (hal.select 1).run
  match r, deselect with
  | .error e, _ => pure (.error e, out)
  | .ok (), .error e => pure (.error e, out)
  | .ok (), .ok () =>
    let r ← hal.waitBusy.run
    pure (r, out)

/-- `readFifo` with the skipped read and the common end made explicit. -/
theorem readFifo_eq {m : Type → Type} [Monad m] [LawfulMonad m] {n : Nat} (hal : Hal m)
    (opcode : UInt16) (out : Vector UInt8 n) :
    readFifo hal opcode out = (do
      match ← hal.waitBusy.run with
      | .error e => pure (.error e, out)
      | .ok () =>
        match ← (hal.select 0).run with
        | .error e => pure (.error e, out)
        | .ok () =>
          match ← (hal.write (frame opcode [])).run with
          | .error e => concludeFifo hal (.error e) out
          | .ok () =>
            let transfer ← hal.read out
            concludeFifo hal transfer.1 transfer.2) := by
  unfold readFifo
  congr 1
  funext busy
  cases busy with
  | error e => rfl
  | ok _ =>
    dsimp only
    congr 1
    funext select
    cases select with
    | error e => rfl
    | ok _ =>
      dsimp only
      congr 1
      funext write
      cases write with
      | error e => exact pure_bind _ _
      | ok _ => rfl

section Trace

variable {σ ε : Type} {hal : Hal (StateM σ)} {trace : σ → List ε} {seen : Step → ε}

/-- A transfer error is reported before a deselect error, and only a transfer and a
deselect that both succeeded are followed by the closing BUSY wait. -/
theorem concludeFifo_shown (reports : Reports hal trace seen) {n : Nat}
    (r : Except Int32 Unit) (out : Vector UInt8 n)
    {post : Except Int32 Unit × Vector UInt8 n → List Step → Prop}
    (failed : ∀ e deselect, r = .error e → post (.error e, out) [⟨.select 1, deselect⟩])
    (undeselected : ∀ e, r = .ok () → post (.error e, out) [⟨.select 1, .error e⟩])
    (released : ∀ last, r = .ok () →
      post (last, out) [⟨.select 1, .ok ()⟩, ⟨.waitBusy, last⟩]) :
    Shown trace seen (concludeFifo hal r out) post := by
  apply Shown.step (reports.select 1)
  intro deselect
  cases r with
  | error e => exact Shown.pure (failed e deselect rfl)
  | ok _ =>
    cases deselect with
    | error e => exact Shown.pure (undeselected e rfl)
    | ok _ =>
      apply Shown.step reports.waitBusy
      intro last
      exact Shown.pure (released last rfl)

theorem readFifo_shown (reports : Reports hal trace seen) (opcode : UInt16) {n : Nat}
    (out : Vector UInt8 n) :
    Shown trace seen (readFifo hal opcode out) (FifoSteps opcode out) := by
  rw [readFifo_eq]
  apply Shown.step reports.waitBusy
  intro busy
  cases busy with
  | error e => exact Shown.pure (.busy e)
  | ok _ =>
    apply Shown.step (reports.select 0)
    intro select
    cases select with
    | error e => exact Shown.pure (.unselected e)
    | ok _ =>
      apply Shown.step (reports.write (frame opcode []))
      intro write
      cases write with
      | error e =>
        apply concludeFifo_shown reports
        · rintro _ deselect ⟨⟩
          exact .unwritten e deselect
        · exact nofun
        · exact nofun
      | ok _ =>
        apply Shown.step (reports.read out)
        rintro ⟨read, buf⟩
        apply concludeFifo_shown reports
        · rintro e deselect rfl
          exact .unread e buf deselect
        · rintro e rfl
          exact .undeselected e buf
        · rintro last rfl
          exact .finished last buf

end Trace

theorem readFifo_emits {σ : Type} {hal : Hal (StateM σ)} {trace : σ → List Ev}
    (obs : Observes hal trace) (opcode : UInt16) {n : Nat} (out : Vector UInt8 n) :
    Emits trace (readFifo hal opcode out) (FifoTrace opcode out) := by
  apply (readFifo_shown obs.reports opcode out).mono
  rintro result _ ⟨steps, rfl, ran⟩
  exact ran.trace

end Xfer
end Lr2021
