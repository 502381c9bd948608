import Lr2021.Lib.TraceLogic
import Mathlib.Data.List.Forall2

set_option autoImplicit false

/-! Clients of an interface, which choose each call by the answers to those before, and what
they leave in a trace. -/
namespace Clients

open TraceLogic

variable {Call : Type} {Answer : Call → Type} {σ ε : Type} {trace : σ → List ε}

/-- A client that comes to an end, whatever it is answered. -/
inductive Client (Answer : Call → Type) where
  | done
  | call (c : Call) (next : Answer c → Client Answer)

/-- A call that was made, with its answer. -/
abbrev Made (Answer : Call → Type) := (c : Call) × Answer c

/-- The calls that a client makes of whoever handles them. -/
def Client.run {m : Type → Type} [Monad m] (handle : (c : Call) → m (Answer c)) :
    Client Answer → m (List (Made Answer))
  | done => pure []
  | call c next => do
    let answer ← handle c
    let rest ← (next answer).run handle
    pure (⟨c, answer⟩ :: rest)

/-- If each call leaves events that go with its answer, a client leaves the events of its calls,
one after the other. -/
theorem Client.run_emits {handle : (c : Call) → StateM σ (Answer c)}
    {post : Made Answer → List ε → Prop}
    (each : ∀ c, Emits trace (handle c) fun answer events => post ⟨c, answer⟩ events)
    (client : Client Answer) :
    Emits trace (client.run handle) fun made events =>
      ∃ pieces, List.Forall₂ post made pieces ∧ events = pieces.flatten := by
  induction client with
  | done => exact Emits.pure _ ⟨[], .nil, rfl⟩
  | call c next ih =>
    have later (answer : Answer c) := (ih answer).map fun rest => (⟨c, answer⟩ :: rest : List _)
    apply ((each c).bind later).mono
    rintro _ _ ⟨answer, first, after, rfl, told, made, rfl, pieces, matched, rfl⟩
    exact ⟨first :: pieces, .cons told matched, rfl⟩

end Clients
