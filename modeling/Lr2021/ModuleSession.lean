import Lr2021.ModuleReads
import Lr2021.Lib.Clients

set_option autoImplicit false

/-! Python programs over the module: whatever they call, and however they go on after an
exception, what of it the bus gets to see. -/
namespace Lr2021

open TraceLogic OutcomeLogic Clients StatusRead

/-- The frames of a read. GetStatus is framed as the transport frames it. -/
def StatusRead.frames (status : List (List UInt8)) : StatusRead → List (List UInt8)
  | getStatus => status
  | getVersion => [frame Cmd.cmdGetVersion []]
  | getRandomNumber => [frame Cmd.cmdGetRandomNumber []]
  | getErrors => [frame Cmd.cmdGetErrors []]
  | getPacketType => [frame Cmd.cmdGetPacketType []]
  | getAndClearIrqStatus => [frame Cmd.cmdGetAndClearIrqStatus []]
  | getRssiInst => [frame Cmd.cmdGetRssiInst []]
  | getRxFifoLevel => [frame Cmd.cmdGetRxFifoLevel []]
  | getTxFifoLevel => [frame Cmd.cmdGetTxFifoLevel []]
  | loraGetPacketStatus => [frame Cmd.cmdGetLoraPacketStatus []]
  | loraGetRxStats => [frame Cmd.cmdGetLoraRxStats []]

/-- A call of a module function: a sending one with its objects, a reading one with the stack that
it finds. -/
inductive ModuleCall (object : Type) where
  | waitReady
  | send (call : SendingCall object)
  | read (which : StatusRead) (stack : Vector Int32 which.cells)

namespace ModuleCall

variable {object ρ : Type}

abbrev Value : ModuleCall object → Type
  | waitReady | send _ => Unit
  | read which _ => Module.PythonValue which

/-- A value or an exception, of the module or of an object of the bus. -/
abbrev Answer (ρ : Type) (call : ModuleCall object) : Type :=
  Except ρ (Except ModuleError call.Value)

def run {σ : Type} (bus : BusTuple (ExceptT ρ (StateM σ)) object) :
    (call : ModuleCall object) → StateM σ (call.Answer ρ)
  | waitReady => (Module.modWaitReady bus).run.run
  | send call => (call.run bus).run.run
  | read which stack => (Module.read bus which stack).run.run

variable (python : MicroPython object) (status : List (List UInt8))

/-- The frames that a call sends, if its arguments are not refused. -/
def frames : ModuleCall object → Option (List (List UInt8))
  | waitReady => some []
  | send call =>
    match call.arguments python with
    | .error _ => none
    | .ok command =>
      match command.plan with
      | .error _ => none
      | .ok script => some script.frames
  | read which _ => some (which.frames status)

/-- What a call has done to the bus: nothing if it was refused, and else a series of its frames,
which is whole if it returned. -/
def Did (made : Made (Answer ρ : ModuleCall object → Type)) (events : List Ev) : Prop :=
  match made.1.frames python status with
  | none => (∃ e, made.2 = .ok (.error e)) ∧ events = []
  | some frames => Session frames (went made.2) events

/-- What a call has put on the wire: nothing if it was refused, and else a start of its frames,
which is all of them if it returned. -/
def Wrote (made : Made (Answer ρ : ModuleCall object → Type)) (bytes : List UInt8) : Prop :=
  match made.1.frames python status with
  | none => (∃ e, made.2 = .ok (.error e)) ∧ bytes = []
  | some frames => bytes <+: frames.flatten ∧ (went made.2 = true → bytes = frames.flatten)

/-- Only a call that was refused may have raised. -/
def Settled (made : Made (Answer ρ : ModuleCall object → Type)) : Prop :=
  (made.1.frames python status).isSome = true → went made.2 = true

variable {python status}

theorem Did.ofRefused {call : ModuleCall object} {e : ModuleError}
    (refused : call.frames python status = none) :
    Did python status (⟨call, .ok (.error e)⟩ : Made (Answer ρ : ModuleCall object → Type)) [] := by
  rw [Did, refused]
  exact ⟨⟨e, rfl⟩, rfl⟩

theorem Did.ofFramed {call : ModuleCall object} {answer : call.Answer ρ}
    {frames : List (List UInt8)} {events : List Ev}
    (framed : call.frames python status = some frames)
    (session : Session frames (went answer) events) :
    Did python status (⟨call, answer⟩ : Made (Answer ρ : ModuleCall object → Type)) events := by
  rw [Did, framed]
  exact session

theorem Did.wrote {made : Made (Answer ρ : ModuleCall object → Type)} {events : List Ev}
    (did : Did python status made events) : Wrote python status made (written events) := by
  unfold Did at did
  unfold Wrote
  split at did
  · obtain ⟨raised, rfl⟩ := did
    exact ⟨raised, rfl⟩
  · exact ⟨did.begun, fun returned => (did.whole returned).1⟩

theorem Did.scanned {made : Made (Answer ρ : ModuleCall object → Type)} {events : List Ev}
    (did : Did python status made events) (settled : Settled python status made)
    (out : List (List UInt8)) :
    events.foldl scan (out, none) = (out ++ (made.1.frames python status).getD [], none) := by
  unfold Did at did
  unfold Settled at settled
  split at did
  next refused =>
    obtain ⟨-, rfl⟩ := did
    rw [refused, Option.getD_none, List.append_nil]
    rfl
  next frames framed =>
    rw [framed] at settled
    rw [framed, Option.getD_some]
    exact (did.whole (settled rfl)).2 out

/-- No call that settled leaves the chip selected, so the next begins a command of its own. -/
theorem scanned_flatten {made : List (Made (Answer ρ : ModuleCall object → Type))}
    {pieces : List (List Ev)} (did : List.Forall₂ (Did python status) made pieces)
    (settled : ∀ call ∈ made, Settled python status call) (out : List (List UInt8)) :
    pieces.flatten.foldl scan (out, none) =
      (out ++ made.flatMap fun call => (call.1.frames python status).getD [], none) := by
  induction did generalizing out with
  | nil =>
    rw [List.flatMap_nil, List.append_nil]
    rfl
  | cons first _ ih =>
    obtain ⟨begun, later⟩ := List.forall_mem_cons.mp settled
    rw [List.flatten_cons, List.foldl_append, first.scanned begun, ih later, List.flatMap_cons,
      List.append_assoc]

theorem written_flatten (pieces : List (List Ev)) :
    written pieces.flatten = (pieces.map written).flatten := by
  induction pieces with
  | nil => rfl
  | cons first rest ih =>
    rw [List.flatten_cons, written_append, ih, List.map_cons, List.flatten_cons]

end ModuleCall

section Calls

variable {ρ σ object : Type} {hal : Hal (ExceptT ρ (StateM σ))} {trace : σ → List Ev}
  {bus : BusTuple (ExceptT ρ (StateM σ)) object} {status : List (List UInt8)}

/-- A wait for BUSY alone sends nothing. -/
theorem Session.waited (completed : Bool) : Session [] completed [.waitBusy] :=
  ⟨fun nonempty => absurd rfl nonempty, List.nil_prefix, fun _ =>
    ⟨rfl, fun out => by rw [List.append_nil]; rfl⟩⟩

/-- What the wait for BUSY comes down to. -/
theorem Module.modWaitReady_run {m : Type → Type} [Monad m] [LawfulMonad m] {hal : Hal m}
    {bus : BusTuple m object} (bound : Module.busBind bus = .ok hal) :
    (Module.modWaitReady bus).run =
      (fun code => (checkErr code).mapError ModuleError.shim) <$>
        (Ffi.statusOf <$> hal.waitBusy.run) := by
  rw [Module.modWaitReady, bound, run_ok_bind, ExceptT.run_bind, Module.raising_run,
    map_eq_pure_bind, bind_assoc, map_eq_pure_bind]
  congr 1
  funext code
  rw [pure_bind]
  dsimp only [id]
  cases checkErr code <;> rfl

/-- An exchange with its events. -/
theorem exchange_emits (relied : Relied hal trace) (opcode : UInt16) (n : Nat) :
    Emits trace (exchange hal opcode n).run fun reply events =>
      Session [frame opcode []] (went reply) events ∧ NegativeCode reply := by
  rw [exchange, ExceptT.run_map]
  apply ((relied.readCmd 2 opcode [] (Vector.replicate n 0)).map _).mono
  rintro _ events ⟨reply, rfl, sent, negative⟩
  rcases reply with raised | ⟨code | bytes, data⟩
  · exact ⟨sent.session, .raised raised⟩
  · exact ⟨sent.session, .failed (negative code rfl)⟩
  · exact ⟨sent.session, .passed _⟩

/-- GetStatus is sent in these frames, whole if it succeeds, and fails with a negative code. -/
def StatusFramed (hal : Hal (ExceptT ρ (StateM σ))) (trace : σ → List Ev)
    (status : List (List UInt8)) : Prop :=
  Emits trace hal.getStatus.run.run fun reply events =>
    Session status (went reply) events ∧ NegativeCode reply

theorem transport_emits (relied : Relied hal trace) (framed : StatusFramed hal trace status)
    (which : StatusRead) : Emits trace (which.transport hal).run fun reply events =>
      Session (which.frames status) (went reply) events ∧ NegativeCode reply := by
  cases which with
  | getStatus =>
    rw [transport, ExceptT.run_map]
    apply (framed.map _).mono
    rintro _ events ⟨reply, rfl, session, negative⟩
    rcases reply with raised | code | answered
    · exact ⟨session, .raised raised⟩
    · exact ⟨session, .failed (negative code rfl)⟩
    · exact ⟨session, .passed _⟩
  | _ => exact exchange_emits relied _ _

variable (bound : Module.busBind bus = .ok hal)

include bound

theorem waitReady_did (relied : Relied hal trace) :
    Emits trace (Module.modWaitReady bus).run.run fun answer events =>
      ModuleCall.Did bus.python status ⟨.waitReady, answer⟩ events := by
  rw [Module.modWaitReady_run bound, ExceptT.run_map, ExceptT.run_map]
  apply ((relied.waitBusy.map _).map _).mono
  rintro answer events ⟨_, rfl, _, rfl, rfl, -⟩
  exact Session.waited _

theorem sends_did (relied : Relied hal trace) (call : SendingCall object) :
    Emits trace (call.run bus).run.run fun answer events =>
      ModuleCall.Did bus.python status ⟨.send call, answer⟩ events := by
  rw [call.run_eq]
  cases converted : call.arguments bus.python with
  | error e =>
    rw [sends_error bound converted]
    apply Emits.pure
    apply ModuleCall.Did.ofRefused
    rw [ModuleCall.frames, converted]
  | ok command =>
    cases planned : command.plan with
    | error code =>
      rw [sends_refused bound converted planned]
      apply Emits.pure
      apply ModuleCall.Did.ofRefused
      simp only [ModuleCall.frames, converted, planned]
    | ok script =>
      have framed : (ModuleCall.send call).frames bus.python status = some script.frames := by
        simp only [ModuleCall.frames, converted, planned]
      rw [sends_performs bound converted planned]
      apply ((perform_goes relied script.calls script.admitted script.writes).map _).mono
      rintro _ events ⟨outcome, rfl, session, negative⟩
      apply ModuleCall.Did.ofFramed framed
      rcases answered_cases negative with ⟨rfl, -⟩ | ⟨code, e, -, rfl, -, same⟩ | ⟨raised, rfl, -⟩
      · exact session
      · rw [same]
        exact session
      · exact session

theorem reads_did (relied : Relied hal trace) (framed : StatusFramed hal trace status) {α : Type}
    (which : StatusRead) (stack : Vector Int32 which.cells)
    (present : Int32 → Vector Int32 which.cells → α) :
    Emits trace (Module.reads bus which stack present).run.run fun answer events =>
      Session (which.frames status) (went answer) events := by
  rw [Module.reads_run bound, ExceptT.run_map]
  apply ((transport_emits relied framed which).map _).mono
  rintro _ events ⟨reply, rfl, session, negative⟩
  rcases reply with raised | code | answered
  · exact session
  · refine session.weaken fun passed => ?_
    obtain ⟨e, raises⟩ := checkErr_of_neg (negative code rfl)
    simp only [Except.map, settle, raises] at passed
    cases passed
  · exact session.weaken fun _ => rfl

omit bound in
/-- Every reading function has the one shape. -/
theorem read_shape (which : StatusRead) (stack : Vector Int32 which.cells) :
    ∃ stack' present, Module.read bus which stack = Module.reads bus which stack' present := by
  cases which with
  | getStatus =>
    rw [Module.read, Module.modGetStatus]
    exact ⟨stack, _, rfl⟩
  | getVersion =>
    rw [Module.read, Module.modGetVersion]
    exact ⟨stack, _, rfl⟩
  | getRandomNumber =>
    rw [Module.read, Module.modGetRandomNumber]
    exact ⟨stack, _, rfl⟩
  | getErrors =>
    rw [Module.read, Module.modGetErrors]
    exact ⟨_, _, rfl⟩
  | getPacketType =>
    rw [Module.read, Module.modGetPacketType]
    exact ⟨_, _, rfl⟩
  | getAndClearIrqStatus =>
    rw [Module.read, Module.modGetAndClearIrqStatus]
    exact ⟨_, _, rfl⟩
  | getRssiInst =>
    rw [Module.read, Module.modGetRssiInst]
    exact ⟨_, _, rfl⟩
  | getRxFifoLevel =>
    rw [Module.read, Module.modGetRxFifoLevel]
    exact ⟨_, _, rfl⟩
  | getTxFifoLevel =>
    rw [Module.read, Module.modGetTxFifoLevel]
    exact ⟨_, _, rfl⟩
  | loraGetPacketStatus =>
    rw [Module.read, Module.modLoraGetPacketStatus]
    exact ⟨stack, _, rfl⟩
  | loraGetRxStats =>
    rw [Module.read, Module.modLoraGetRxStats]
    exact ⟨stack, _, rfl⟩

theorem call_did (relied : Relied hal trace) (framed : StatusFramed hal trace status)
    (call : ModuleCall object) :
    Emits trace (call.run bus) fun answer events =>
      ModuleCall.Did bus.python status ⟨call, answer⟩ events := by
  cases call with
  | waitReady => exact waitReady_did bound relied
  | send call => exact sends_did bound relied call
  | read which stack =>
    obtain ⟨stack', present, same⟩ := read_shape which stack
    rw [ModuleCall.run, same]
    exact reads_did bound relied framed which stack' present

/-- Whatever a program calls, and whichever exceptions it catches, of the module or of the objects
of the bus, the bytes on the wire are those of its calls in order, each a start of the frames of
its call and nothing for a refused one. If no call was cut short, the chip has had the commands of
the calls that were not refused and no other. -/
theorem program_writes (relied : Relied hal trace) (framed : StatusFramed hal trace status)
    (program : Client (ModuleCall.Answer ρ : ModuleCall object → Type)) :
    Emits trace (program.run fun call => call.run bus) fun made events =>
      (∃ pieces, List.Forall₂ (ModuleCall.Wrote bus.python status) made pieces ∧
        written events = pieces.flatten) ∧
      ((∀ call ∈ made, ModuleCall.Settled bus.python status call) →
        commands events = made.flatMap fun call =>
          (call.1.frames bus.python status).getD []) := by
  apply (Client.run_emits (call_did bound relied framed) program).mono
  rintro made events ⟨pieces, did, rfl⟩
  refine ⟨⟨pieces.map written, ?_, ModuleCall.written_flatten pieces⟩, fun settled => ?_⟩
  · rw [List.forall₂_map_right_iff]
    exact did.imp fun _ _ one => one.wrote
  · rw [commands, ModuleCall.scanned_flatten did settled, List.nil_append]

end Calls

/-- Over the host that raises GetStatus reads alone. -/
theorem Loose.statusFramed : StatusFramed hal log [] := fun _ =>
  ⟨[.waitBusy, .select 0, .read 6, .select 1], rfl, ⟨fun nonempty => absurd rfl nonempty,
    List.nil_prefix, fun _ => ⟨rfl, fun out => by rw [List.append_nil]; rfl⟩⟩, .passed _⟩

/-- A program that asks for a carrier of zero, catches the exception and reads the status. -/
def Loose.program : Client (ModuleCall.Answer String : ModuleCall Int → Type) :=
  .call (.send .setFs) fun _ =>
    .call (.send (.setRfFrequency 0)) fun _ =>
      .call (.read .getStatus #v[0, 0, 0]) fun _ => .done

/-- Its one command is all that the chip has had. -/
theorem program_writes_refused :
    commands (emitted Loose.log (Loose.program.run fun call => call.run Loose.bus)
      { log := [], left := 1 }) = [frame Cmd.cmdSetFs []] := by
  have told := ((program_writes Loose.bus_bound Loose.relied Loose.statusFramed
    Loose.program).emitted { log := [], left := 1 }).2.2
  apply told
  intro call made
  change call ∈ [_, _, _] at made
  simp only [List.mem_cons, List.not_mem_nil, or_false] at made
  rcases made with rfl | rfl | rfl
  · exact fun _ => rfl
  · exact fun framed => absurd framed (by decide)
  · exact fun _ => rfl

end Lr2021
