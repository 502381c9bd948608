import Lr2021.CoreCallTrace

set_option autoImplicit false

namespace Lr2021

open TraceLogic

/-- What a series of commands does to the bus: `Transaction` for any number of them,
each in a chip-select assertion of its own. -/
structure Session (frames : List (List UInt8)) (completed : Bool) (events : List Ev) : Prop where
  starts : frames ≠ [] → events.head? = some .waitBusy
  begun : written events <+: frames.flatten
  whole : completed = true → written events = frames.flatten ∧
    ∀ out, events.foldl scan (out, none) = (out ++ frames, none)

namespace Session

variable {frames rest : List (List UInt8)} {bytes : List UInt8} {completed : Bool}
  {before after : List Ev}

theorem idle : Session [] completed [] :=
  ⟨fun nonempty => absurd rfl nonempty, List.nil_prefix, fun _ =>
    ⟨rfl, fun out => by rw [List.append_nil]; rfl⟩⟩

/-- A series can break off inside its first command. -/
theorem broken (first : Transaction bytes false before) :
    Session (bytes :: rest) false before := by
  refine ⟨fun _ => first.starts, ?_, nofun⟩
  rw [List.flatten_cons]
  exact first.begun.trans (List.prefix_append bytes rest.flatten)

/-- A completed command leaves the chip deselected, so the rest of the series starts
from where it started. -/
theorem step (first : Transaction bytes true before) (last : Session rest completed after) :
    Session (bytes :: rest) completed (before ++ after) := by
  obtain ⟨sent, closed⟩ := first.whole rfl
  refine ⟨fun _ => ?_, ?_, fun done => ?_⟩
  · rw [List.head?_append, first.starts]
    rfl
  · rw [written_append, sent, List.flatten_cons]
    exact (List.prefix_append_right_inj bytes).mpr last.begun
  · obtain ⟨sentRest, closedRest⟩ := last.whole done
    refine ⟨?_, fun out => ?_⟩
    · rw [written_append, sent, sentRest, List.flatten_cons]
    · rw [List.foldl_append, closed, closedRest, List.append_assoc, List.singleton_append]

/-- The log of a completed series, split at the chip selects, is its frames. -/
theorem commands_eq (done : Session frames true before) : commands before = frames := by
  rw [commands, (done.whole rfl).2, List.nil_append]

end Session

/-- What of a session is known where less of it is said to be complete. -/
theorem Session.weaken {frames : List (List UInt8)} {strong weak : Bool} {events : List Ev}
    (session : Session frames strong events) (implies : weak = true → strong = true) :
    Session frames weak events :=
  ⟨session.starts, session.begun, fun completed => session.whole (implies completed)⟩

/-- A transaction is a session of one frame. -/
theorem Transaction.session {bytes : List UInt8} {completed : Bool} {events : List Ev}
    (sent : Transaction bytes completed events) : Session [bytes] completed events := by
  refine ⟨fun _ => sent.starts, ?_, fun done => ?_⟩
  · rw [List.flatten_singleton]
    exact sent.begun
  · rw [List.flatten_singleton]
    exact sent.whole done

variable {m : Type → Type} [Monad m]

/-- Core calls one after the other, as `?` chains them. -/
def perform (hal : Hal m) : List CoreCall → Fallible m Unit
  | [] => pure ()
  | c :: rest => do
    ExceptT.mk (c.run hal)
    perform hal rest

theorem perform_cons (hal : Hal m) (c next : CoreCall) (rest : List CoreCall) :
    perform hal (c :: next :: rest) =
      (ExceptT.mk (c.run hal) >>= fun _ => perform hal (next :: rest)) := rfl

theorem perform_last [LawfulMonad m] (hal : Hal m) (c : CoreCall) :
    perform hal [c] = ExceptT.mk (c.run hal) := by
  change c.run hal >>= ExceptT.bindCont (fun _ => perform hal []) = _
  rw [show ExceptT.bindCont (fun _ : Unit => perform hal []) =
      (pure : Except Int32 Unit → m (Except Int32 Unit)) from
    funext fun r => by cases r <;> rfl, bind_pure]
  rfl

/-- The core refuses no argument of a series. -/
def Admitted (calls : List CoreCall) : Prop := ∀ c ∈ calls, c.refused = false

section Trace

variable {σ : Type} {hal : Hal (StateM σ)} {trace : σ → List Ev}

theorem perform_emits (obs : Observes hal trace) (calls : List CoreCall)
    (admitted : Admitted calls) :
    Emits trace (perform hal calls).run fun r events =>
      Session (calls.map fun c => c.wire.bytes) r.isOk events := by
  induction calls with
  | nil => exact Emits.pure _ Session.idle
  | cons c rest ih =>
    rw [Admitted, List.forall_mem_cons] at admitted
    have first : Emits trace (ExceptT.mk (c.run hal)).run fun r events =>
        Transaction c.wire.bytes r.isOk events := CoreCall.run_emits obs c admitted.1
    apply (first.bindExcept fun _ => ih admitted.2).mono
    rintro r events (⟨e, rfl, stopped⟩ | ⟨_, before, after, rfl, sent, following⟩)
    · exact Session.broken stopped
    · exact Session.step sent following

/-- On a transport that never fails, commands that are let through succeed. -/
theorem perform_ok (never : NeverFails hal) (calls : List CoreCall) (admitted : Admitted calls)
    (writes : ∀ c ∈ calls, c.isWrite = true) (s : σ) :
    ((perform hal calls).run s).1 = .ok () := by
  induction calls generalizing s with
  | nil => rfl
  | cons c rest ih =>
    rw [Admitted, List.forall_mem_cons] at admitted
    rw [List.forall_mem_cons] at writes
    have sent := CoreCall.run_ok never c writes.1 admitted.1 s
    change (ExceptT.bindCont (fun _ => perform hal rest) (c.run hal s).1 (c.run hal s).2).1 = _
    rw [sent]
    exact ih admitted.2 writes.2 _

/-- A series that returned `Ok` had none of its arguments refused. -/
theorem admitted_of_perform_ok (calls : List CoreCall) (s : σ)
    (returned : ((perform hal calls).run s).1 = .ok ()) : Admitted calls := by
  induction calls generalizing s with
  | nil => exact fun _ member => nomatch member
  | cons c rest ih =>
    change (ExceptT.bindCont (fun _ => perform hal rest) (c.run hal s).1 (c.run hal s).2).1 =
      _ at returned
    cases outcome : (c.run hal s).1 with
    | error e =>
      rw [outcome] at returned
      cases returned
    | ok _ =>
      rw [outcome] at returned
      rw [Admitted, List.forall_mem_cons]
      exact ⟨CoreCall.admitted_of_ok c s outcome, ih _ returned⟩

/-- What a completed series has put on the bus, frame by frame. -/
theorem commands_of_perform_ok (obs : Observes hal trace) (calls : List CoreCall) (s : σ)
    (returned : ((perform hal calls).run s).1 = .ok ()) :
    commands (emitted trace (perform hal calls).run s) = calls.map fun c => c.wire.bytes := by
  have session := ((perform_emits obs calls (admitted_of_perform_ok calls s returned)).emitted s).2
  rw [returned] at session
  exact session.commands_eq

end Trace
end Lr2021
