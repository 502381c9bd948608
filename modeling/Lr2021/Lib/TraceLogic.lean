set_option autoImplicit false

/-! Postconditions over what a stateful computation appends to an observed event
trace. The state is arbitrary: only the trace read off it is constrained. -/
namespace TraceLogic

variable {σ ε α β ρ : Type} {trace : σ → List ε}

theorem bind_apply (c : StateM σ α) (next : α → StateM σ β) (s : σ) :
    (c >>= next) s = next (c s).1 (c s).2 := rfl

theorem pure_apply (a : α) (s : σ) : (pure a : StateM σ α) s = (a, s) := rfl

theorem map_apply (f : α → β) (c : StateM σ α) (s : σ) : (f <$> c) s = (f (c s).1, (c s).2) := rfl

/-- A failed check ends a fallible computation before its first effect. -/
theorem run_error_bind {m : Type → Type} [Monad m] [LawfulMonad m] (e : ρ)
    (next : α → ExceptT ρ m β) :
    (liftM (Except.error e : Except ρ α) >>= next).run = pure (.error e) :=
  pure_bind _ _

/-- A passed check leaves what follows as it is. -/
theorem run_ok_bind {m : Type → Type} [Monad m] [LawfulMonad m] (a : α)
    (next : α → ExceptT ρ m β) :
    (liftM (Except.ok a : Except ρ α) >>= next).run = (next a).run :=
  pure_bind _ _

/-- From every state, `c` extends the trace by events that `post` relates to its
result. Nothing recorded earlier is lost or changed. -/
def Emits (trace : σ → List ε) (c : StateM σ α) (post : α → List ε → Prop) : Prop :=
  ∀ s, ∃ events, trace (c s).2 = trace s ++ events ∧ post (c s).1 events

/-- The events that one run appended. -/
def emitted (trace : σ → List ε) (c : StateM σ α) (s : σ) : List ε :=
  (trace (c s).2).drop (trace s).length

theorem emitted_map (f : α → β) (c : StateM σ α) (s : σ) :
    emitted trace (f <$> c) s = emitted trace c s := rfl

theorem Emits.emitted {c : StateM σ α} {post : α → List ε → Prop}
    (emits : Emits trace c post) (s : σ) :
    trace (c s).2 = trace s ++ emitted trace c s ∧ post (c s).1 (emitted trace c s) := by
  obtain ⟨events, extended, holds⟩ := emits s
  have same : TraceLogic.emitted trace c s = events := by
    rw [TraceLogic.emitted, extended, List.drop_left]
  rw [same]
  exact ⟨extended, holds⟩

theorem Emits.mono {c : StateM σ α} {weak strong : α → List ε → Prop}
    (emits : Emits trace c strong) (weaken : ∀ a events, strong a events → weak a events) :
    Emits trace c weak := by
  intro s
  obtain ⟨events, extended, holds⟩ := emits s
  exact ⟨events, extended, weaken _ _ holds⟩

theorem Emits.pure (a : α) {post : α → List ε → Prop} (holds : post a []) :
    Emits trace (pure a : StateM σ α) post := by
  intro s
  exact ⟨[], (List.append_nil _).symm, holds⟩

theorem Emits.map {c : StateM σ α} {post : α → List ε → Prop} (f : α → β)
    (emits : Emits trace c post) :
    Emits trace (f <$> c) (fun b events => ∃ a, b = f a ∧ post a events) := by
  intro s
  obtain ⟨events, extended, holds⟩ := emits s
  exact ⟨events, extended, (c s).1, rfl, holds⟩

/-- Sequencing: the events of the first, and then those of what follows its result. -/
theorem Emits.bind {c : StateM σ α} {next : α → StateM σ β} {first : α → List ε → Prop}
    {second : α → β → List ε → Prop} (emits : Emits trace c first)
    (continues : ∀ a, Emits trace (next a) (second a)) :
    Emits trace (c >>= next) (fun b events =>
      ∃ a before after, events = before ++ after ∧ first a before ∧ second a b after) := by
  intro s
  obtain ⟨before, extended, holds⟩ := emits s
  obtain ⟨after, extended', holds'⟩ := continues (c s).1 (c s).2
  refine ⟨before ++ after, ?_, _, before, after, rfl, holds, holds'⟩
  rw [← List.append_assoc, ← extended]
  exact extended'

/-- Sequencing of fallible computations: a failure ends the trace where it stands. -/
theorem Emits.bindExcept {c : ExceptT ρ (StateM σ) α} {next : α → ExceptT ρ (StateM σ) β}
    {first : Except ρ α → List ε → Prop} {second : α → Except ρ β → List ε → Prop}
    (emits : Emits trace c.run first) (continues : ∀ a, Emits trace (next a).run (second a)) :
    Emits trace (c >>= next).run (fun r events =>
      (∃ e, r = .error e ∧ first (.error e) events) ∨
      ∃ a before after, events = before ++ after ∧ first (.ok a) before ∧ second a r after) := by
  intro s
  obtain ⟨before, extended, holds⟩ := emits s
  cases outcome : (c.run s).1 with
  | error e =>
      have stopped : (c >>= next).run s = (.error e, (c.run s).2) := by
        change ExceptT.bindCont next (c.run s).1 (c.run s).2 = _
        rw [outcome]
        rfl
      rw [outcome] at holds
      rw [stopped]
      exact ⟨before, extended, Or.inl ⟨e, rfl, holds⟩⟩
  | ok a =>
      have continued : (c >>= next).run s = (next a).run (c.run s).2 := by
        change ExceptT.bindCont next (c.run s).1 (c.run s).2 = _
        rw [outcome]
        rfl
      obtain ⟨after, extended', holds'⟩ := continues a (c.run s).2
      rw [outcome] at holds
      rw [continued]
      refine ⟨before ++ after, ?_, Or.inr ⟨a, before, after, rfl, holds, holds'⟩⟩
      rw [← List.append_assoc, ← extended]
      exact extended'

end TraceLogic
