set_option autoImplicit false

/-! Postconditions on how a fallible stateful computation ends: one on its errors, one on
its values. The state is arbitrary, and nothing is said about it. -/
namespace OutcomeLogic

variable {σ ε α β : Type} {bad : ε → Prop} {good : α → Prop}

/-- An outcome whose error is allowed, or whose value is. -/
def Allowed (bad : ε → Prop) (good : α → Prop) : Except ε α → Prop
  | .error e => bad e
  | .ok a => good a

/-- From every state, `c` ends in an allowed outcome. -/
def Ends (bad : ε → Prop) (good : α → Prop) (c : ExceptT ε (StateM σ) α) : Prop :=
  ∀ s, Allowed bad good (c.run s).1

theorem Allowed.mono {good' : α → Prop} {r : Except ε α} (allowed : Allowed bad good r)
    (weaken : ∀ a, good a → good' a) : Allowed bad good' r := by
  cases r with
  | error e => exact allowed
  | ok a => exact weaken a allowed

theorem Allowed.bind {next : α → Except ε β} {good' : β → Prop} {r : Except ε α}
    (allowed : Allowed bad good r) (continues : ∀ a, good a → Allowed bad good' (next a)) :
    Allowed bad good' (r >>= next) := by
  cases r with
  | error e => exact allowed
  | ok a => exact continues a allowed

theorem Ends.pure {a : α} (holds : good a) :
    Ends bad good (pure a : ExceptT ε (StateM σ) α) := fun _ => holds

theorem Ends.throw {e : ε} (holds : bad e) :
    Ends bad good (throw e : ExceptT ε (StateM σ) α) := fun _ => holds

/-- A check without effects. -/
theorem Ends.lift {r : Except ε α} (allowed : Allowed bad good r) :
    Ends bad good (liftM r : ExceptT ε (StateM σ) α) := fun _ => allowed

/-- A computation that was given by its runs. -/
theorem Ends.ofRun {c : StateM σ (Except ε α)} (allowed : ∀ s, Allowed bad good (c s).1) :
    Ends bad good (ExceptT.mk c) := allowed

theorem Ends.bind {c : ExceptT ε (StateM σ) α} {next : α → ExceptT ε (StateM σ) β}
    {good' : β → Prop} (ends : Ends bad good c)
    (continues : ∀ a, good a → Ends bad good' (next a)) : Ends bad good' (c >>= next) := by
  intro s
  have first := ends s
  change Allowed bad good' (ExceptT.bindCont next (c.run s).1 (c.run s).2).1
  cases outcome : (c.run s).1 with
  | error e =>
      rw [outcome] at first
      exact first
  | ok a =>
      rw [outcome] at first
      exact continues a first _

theorem Ends.map {c : ExceptT ε (StateM σ) α} {f : α → β} {good' : β → Prop}
    (ends : Ends bad good c) (weaken : ∀ a, good a → good' (f a)) :
    Ends bad good' (f <$> c) :=
  ends.bind fun a holds => Ends.pure (weaken a holds)

end OutcomeLogic
