import Mathlib.Logic.Relation

set_option autoImplicit false

/-! Procedures over a state that can raise, and `while` loops over them. A loop is given
fuel, and one that runs out of it says so. -/
namespace Procedure

variable {ρ σ α β : Type}

/-- How a procedure ends that returns nothing. -/
inductive Halt (ρ : Type) where
  | raised (e : ρ)
  | outOfFuel
  deriving DecidableEq

abbrev Proc (ρ σ : Type) := ExceptT (Halt ρ) (StateM σ)

/-- An action that cannot fail. -/
def act (f : σ → α × σ) : Proc ρ σ α := ExceptT.mk fun s => (.ok (f s).1, (f s).2)

/-- An action that can raise. -/
def attempt (f : σ → Except ρ α × σ) : Proc ρ σ α :=
  ExceptT.mk fun s => ((f s).1.mapError .raised, (f s).2)

def raise (e : ρ) : Proc ρ σ α := throw (.raised e)

/-- `while`: rounds of `body` up to the one that leaves the loop. -/
def whileLoop (body : α → Proc ρ σ (α ⊕ β)) : Nat → α → Proc ρ σ β
  | 0, _ => throw .outOfFuel
  | fuel + 1, a => do
    match ← body a with
    | .inl a => whileLoop body fuel a
    | .inr b => pure b

/-- From `s`, the procedure returns `a` and leaves `s'`. -/
def Returns (c : Proc ρ σ α) (s : σ) (a : α) (s' : σ) : Prop := c.run s = (.ok a, s')

/-- From `s`, the procedure raises `e` and leaves `s'`. -/
def Throws (c : Proc ρ σ α) (s : σ) (e : ρ) (s' : σ) : Prop := c.run s = (.error (.raised e), s')

/-- From `s`, the procedure returns or raises: it does not run out of fuel. -/
def Settles (c : Proc ρ σ α) (s : σ) : Prop := (c.run s).1 ≠ .error .outOfFuel

section Sequencing

variable {c : Proc ρ σ α} {next : α → Proc ρ σ β} {s s' : σ} {a : α} {b : β} {e : ρ}

theorem run_bind (c : Proc ρ σ α) (next : α → Proc ρ σ β) (s : σ) :
    (c >>= next).run s =
      match c.run s with
      | (.ok a, m) => (next a).run m
      | (.error e, m) => (.error e, m) := by
  change ExceptT.bindCont next (c.run s).1 (c.run s).2 = _
  rcases c.run s with ⟨_ | _, m⟩ <;> rfl

theorem returns_pure {a' : α} : Returns (pure a : Proc ρ σ α) s a' s' ↔ a' = a ∧ s' = s := by
  constructor
  · intro same
    cases same
    exact ⟨rfl, rfl⟩
  · rintro ⟨rfl, rfl⟩
    rfl

theorem returns_bind :
    Returns (c >>= next) s b s' ↔ ∃ a m, Returns c s a m ∧ Returns (next a) m b s' := by
  unfold Returns
  rw [run_bind]
  rcases c.run s with ⟨_ | a, m⟩
  · constructor
    · intro same
      cases same
    · rintro ⟨_, _, same, _⟩
      cases same
  · constructor
    · intro later
      exact ⟨a, m, rfl, later⟩
    · rintro ⟨_, _, same, later⟩
      cases same
      exact later

theorem throws_bind :
    Throws (c >>= next) s e s' ↔
      Throws c s e s' ∨ ∃ a m, Returns c s a m ∧ Throws (next a) m e s' := by
  unfold Throws Returns
  rw [run_bind]
  rcases c.run s with ⟨_ | a, m⟩
  · constructor
    · intro same
      cases same
      exact Or.inl rfl
    · rintro (same | ⟨_, _, same, _⟩) <;> cases same
      rfl
  · constructor
    · intro later
      exact Or.inr ⟨a, m, rfl, later⟩
    · rintro (same | ⟨_, _, same, later⟩) <;> cases same
      exact later

theorem not_returns_raise : ¬Returns (raise e : Proc ρ σ α) s a s' := by
  intro same
  cases same

theorem throws_raise {e' : ρ} :
    Throws (raise e : Proc ρ σ α) s e' s' ↔ e' = e ∧ s' = s := by
  constructor
  · intro same
    cases same
    exact ⟨rfl, rfl⟩
  · rintro ⟨rfl, rfl⟩
    rfl

theorem not_throws_pure : ¬Throws (pure a : Proc ρ σ α) s e s' := by
  intro same
  cases same

theorem returns_act {f : σ → α × σ} : Returns (act f : Proc ρ σ α) s a s' ↔ f s = (a, s') := by
  change ((.ok (f s).1, (f s).2) : Except (Halt ρ) α × σ) = (.ok a, s') ↔ _
  simp only [Prod.ext_iff, Except.ok.injEq]

theorem not_throws_act {f : σ → α × σ} : ¬Throws (act f : Proc ρ σ α) s e s' := by
  intro same
  cases congrArg Prod.fst same

theorem run_attempt {f : σ → Except ρ α × σ} :
    (attempt f).run s = match f s with
      | (.ok a, s') => (.ok a, s')
      | (.error e, s') => (.error (.raised e), s') := by
  change ((f s).1.mapError Halt.raised, (f s).2) = _
  rcases f s with ⟨_ | _, m⟩ <;> rfl

theorem returns_attempt {f : σ → Except ρ α × σ} :
    Returns (attempt f) s a s' ↔ f s = (.ok a, s') := by
  rw [Returns, run_attempt]
  rcases f s with ⟨_ | _, m⟩ <;> constructor <;> intro same <;> cases same <;> rfl

theorem throws_attempt {f : σ → Except ρ α × σ} :
    Throws (attempt f) s e s' ↔ f s = (.error e, s') := by
  rw [Throws, run_attempt]
  rcases f s with ⟨_ | _, m⟩ <;> constructor <;> intro same <;> cases same <;> rfl

theorem settles_pure : Settles (pure a : Proc ρ σ α) s := by
  intro same
  cases same

theorem settles_raise : Settles (raise e : Proc ρ σ α) s := by
  intro same
  cases same

theorem settles_act {f : σ → α × σ} : Settles (act f : Proc ρ σ α) s := by
  intro same
  cases same

theorem settles_attempt {f : σ → Except ρ α × σ} : Settles (attempt f) s := by
  rw [Settles, run_attempt]
  rcases f s with ⟨_ | _, m⟩ <;> simp

theorem settles_bind (first : Settles c s)
    (later : ∀ a m, Returns c s a m → Settles (next a) m) : Settles (c >>= next) s := by
  unfold Settles Returns at *
  rw [run_bind]
  rcases outcome : c.run s with ⟨e | a, m⟩
  · rw [outcome] at first
    exact fun same => first (congrArg Except.error (Except.error.inj same))
  · exact later a m outcome

theorem settles_foldlM {body : β → α → Proc ρ σ β} (each : ∀ b a s, Settles (body b a) s)
    (list : List α) (b : β) : Settles (list.foldlM body b) s := by
  induction list generalizing b s with
  | nil => exact settles_pure
  | cons a rest ih => exact settles_bind (each b a s) fun b' _ _ => ih b'

theorem settles_forM {body : α → Proc ρ σ PUnit} (each : ∀ a s, Settles (body a) s)
    (list : List α) : Settles (list.forM body) s := by
  induction list generalizing s with
  | nil => exact settles_pure
  | cons a rest ih => exact settles_bind (each a s) fun _ _ _ => ih

/-- What settles has one of the two other ends. -/
theorem settles_iff : Settles c s ↔ (∃ a s', Returns c s a s') ∨ ∃ e s', Throws c s e s' := by
  unfold Settles Returns Throws
  constructor
  · intro settles
    rcases outcome : c.run s with ⟨(e | _) | a, m⟩
    · exact Or.inr ⟨e, m, rfl⟩
    · rw [outcome] at settles
      exact absurd rfl settles
    · exact Or.inl ⟨a, m, rfl⟩
  · rintro (⟨a, m, returned⟩ | ⟨e, m, raised⟩) same
    · rw [returned] at same
      cases same
    · rw [raised] at same
      cases same

/-- What settles has settled in its first part. -/
theorem Settles.first (settles : Settles (c >>= next) s) : Settles c s := by
  intro out
  apply settles
  rw [run_bind]
  rcases outcome : c.run s with ⟨e | a, m⟩
  · rw [outcome] at out
    exact congrArg Except.error (Except.error.inj out)
  · rw [outcome] at out
    cases out

/-- After a first part that returns, the second decides. -/
theorem Returns.settles_iff {m : σ} (returned : Returns c s a m) :
    Settles (c >>= next) s ↔ Settles (next a) m := by
  unfold Settles
  rw [run_bind, returned]

end Sequencing

section Loops

variable {body : α → Proc ρ σ (α ⊕ β)} {fuel : Nat} {a : α} {s : σ}

/-- One round of a loop that stays in it. -/
def Round (body : α → Proc ρ σ (α ⊕ β)) (before after : α × σ) : Prop :=
  Returns (body before.1) before.2 (.inl after.1) after.2

/-- A loop that returns has made some rounds and then one that leaves it. -/
theorem whileLoop_returns {b : β} {s' : σ} (returned : Returns (whileLoop body fuel a) s b s') :
    ∃ a' m, Relation.ReflTransGen (Round body) (a, s) (a', m) ∧
      Returns (body a') m (.inr b) s' := by
  induction fuel generalizing a s with
  | zero => cases returned
  | succ fuel ih =>
    obtain ⟨outcome, m, round, later⟩ := returns_bind.mp returned
    cases outcome with
    | inl a₁ =>
      obtain ⟨a', m', rounds, last⟩ := ih later
      exact ⟨a', m', Relation.ReflTransGen.head (b := (a₁, m)) round rounds, last⟩
    | inr b' =>
      obtain ⟨rfl, rfl⟩ := returns_pure.mp later
      exact ⟨a, s, .refl, round⟩

/-- A loop that raises has made some rounds and then one that raises. -/
theorem whileLoop_throws {e : ρ} {s' : σ} (raised : Throws (whileLoop body fuel a) s e s') :
    ∃ a' m, Relation.ReflTransGen (Round body) (a, s) (a', m) ∧ Throws (body a') m e s' := by
  induction fuel generalizing a s with
  | zero => cases raised
  | succ fuel ih =>
    rcases throws_bind.mp raised with first | ⟨outcome, m, round, later⟩
    · exact ⟨a, s, .refl, first⟩
    cases outcome with
    | inl a₁ =>
      obtain ⟨a', m', rounds, last⟩ := ih later
      exact ⟨a', m', Relation.ReflTransGen.head (b := (a₁, m)) round rounds, last⟩
    | inr b' => exact absurd later not_throws_pure

/-- What every round keeps, all rounds keep. -/
theorem rounds_invariant (inv : α → σ → Prop)
    (kept : ∀ a s a' s', inv a s → Returns (body a) s (.inl a') s' → inv a' s')
    {before after : α × σ} (rounds : Relation.ReflTransGen (Round body) before after)
    (initial : inv before.1 before.2) : inv after.1 after.2 := by
  induction rounds with
  | refl => exact initial
  | tail _ round ih => exact kept _ _ _ _ ih round

/-- A loop settles on any fuel above a rank that its rounds bring down. -/
theorem whileLoop_settles (inv : α → σ → Prop) (rank : α → σ → Nat)
    (settles : ∀ a s, inv a s → Settles (body a) s)
    (kept : ∀ a s a' s', inv a s → Returns (body a) s (.inl a') s' →
      inv a' s' ∧ rank a' s' < rank a s)
    (initial : inv a s) (enough : rank a s < fuel) : Settles (whileLoop body fuel a) s := by
  induction fuel generalizing a s with
  | zero => omega
  | succ fuel ih =>
    refine settles_bind (settles a s initial) ?_
    intro outcome m round
    cases outcome with
    | inl a' =>
      obtain ⟨next, lower⟩ := kept a s a' m initial round
      exact ih next (by omega)
    | inr b => exact settles_pure

end Loops

section Triples

/-- From where `pre` holds, `c` returns only what `post` says, and raises only what `exc`
says. -/
def Triple (pre : σ → Prop) (c : Proc ρ σ α) (post : α → σ → Prop) (exc : ρ → σ → Prop) : Prop :=
  ∀ s, pre s → (∀ a s', Returns c s a s' → post a s') ∧ ∀ e s', Throws c s e s' → exc e s'

variable {pre : σ → Prop} {c : Proc ρ σ α} {next : α → Proc ρ σ β} {mid post : α → σ → Prop}
  {last : β → σ → Prop} {exc : ρ → σ → Prop}

namespace Triple

theorem mono {pre' : σ → Prop} {post' : α → σ → Prop} {exc' : ρ → σ → Prop}
    (triple : Triple pre c post exc) (before : ∀ s, pre' s → pre s)
    (after : ∀ a s, post a s → post' a s) (raised : ∀ e s, exc e s → exc' e s) :
    Triple pre' c post' exc' := by
  intro s holds
  obtain ⟨returns, raises⟩ := triple s (before s holds)
  constructor
  · intro a s' returned
    exact after a s' (returns a s' returned)
  · intro e s' left
    exact raised e s' (raises e s' left)

/-- A run that is known to return. -/
theorem ofReturns {s s' : σ} {a : α} (returned : Returns c s a s') (holds : post a s') :
    Triple (· = s) c post exc := by
  rintro _ rfl
  constructor
  · intro a' s'' again
    cases returned.symm.trans again
    exact holds
  · intro e s'' raised
    cases returned.symm.trans raised

theorem pure {a : α} (holds : ∀ s, pre s → post a s) :
    Triple pre (pure a : Proc ρ σ α) post exc := by
  intro s before
  constructor
  · intro a' s' returned
    obtain ⟨rfl, rfl⟩ := returns_pure.mp returned
    exact holds s' before
  · intro e s' raised
    exact absurd raised not_throws_pure

theorem raise {e : ρ} (allowed : ∀ s, pre s → exc e s) :
    Triple pre (Procedure.raise e : Proc ρ σ α) post exc := by
  intro s before
  constructor
  · intro a s' returned
    exact absurd returned not_returns_raise
  · intro e' s' raised
    obtain ⟨rfl, rfl⟩ := throws_raise.mp raised
    exact allowed s' before

/-- What holds from each of the states that are meant holds from all of them. -/
theorem ofExists {ι : Type} {before : ι → σ → Prop}
    (triples : ∀ i, Triple (before i) c post exc) :
    Triple (fun s => ∃ i, before i s) c post exc := by
  rintro s ⟨i, holds⟩
  exact triples i s holds

/-- What does not depend on the state holds before and after. -/
theorem frame {p : Prop} (triple : p → Triple pre c post exc) :
    Triple (fun s => p ∧ pre s) c (fun a s => p ∧ post a s) exc := by
  rintro s ⟨holds, before⟩
  obtain ⟨returns, raises⟩ := triple holds s before
  exact ⟨fun a s' returned => ⟨holds, returns a s' returned⟩, raises⟩

theorem bind (first : Triple pre c mid exc) (later : ∀ a, Triple (mid a) (next a) last exc) :
    Triple pre (c >>= next) last exc := by
  intro s before
  constructor
  · intro b s' returned
    obtain ⟨a, m, one, two⟩ := returns_bind.mp returned
    exact (later a m ((first s before).1 a m one)).1 b s' two
  · intro e s' raised
    rcases throws_bind.mp raised with one | ⟨a, m, one, two⟩
    · exact (first s before).2 e s' one
    · exact (later a m ((first s before).1 a m one)).2 e s' two

theorem act {f : σ → α × σ} (holds : ∀ s, pre s → post (f s).1 (f s).2) :
    Triple pre (Procedure.act f) post exc := by
  intro s before
  constructor
  · intro a s' returned
    have result := holds s before
    rwa [returns_act.mp returned] at result
  · intro e s' raised
    exact absurd raised not_throws_act

/-- What each round keeps, up to what the last one gives back. -/
theorem whileLoop {body : α → Proc ρ σ (α ⊕ β)} (inv : α → σ → Prop)
    (round : ∀ a, Triple (inv a) (body a) (fun out s => out.elim (inv · s) (last · s)) exc)
    (fuel : Nat) (a : α) : Triple (inv a) (Procedure.whileLoop body fuel a) last exc := by
  have kept : ∀ a s a' s', inv a s → Returns (body a) s (.inl a') s' → inv a' s' := by
    intro a s a' s' holds stays
    exact (round a s holds).1 _ _ stays
  intro s before
  constructor
  · intro b s' returned
    obtain ⟨a', m, made, leaves⟩ := whileLoop_returns returned
    exact (round a' m (rounds_invariant inv kept made before)).1 _ _ leaves
  · intro e s' raised
    obtain ⟨a', m, made, leaves⟩ := whileLoop_throws raised
    exact (round a' m (rounds_invariant inv kept made before)).2 _ _ leaves

/-- What each element of a list takes from what is done to one more done. -/
theorem foldlM {body : β → α → Proc ρ σ β} (inv : List α → β → σ → Prop) {list : List α}
    (each : ∀ done a rest b, list = done ++ a :: rest →
      Triple (inv done b) (body b a) (fun b' => inv (done ++ [a]) b') exc) (b : β) :
    Triple (inv [] b) (list.foldlM body b) (fun b' => inv list b') exc := by
  suffices onwards : ∀ done rest b, list = done ++ rest →
      Triple (inv done b) (rest.foldlM body b) (fun b' => inv list b') exc from
    onwards [] list b rfl
  intro done rest b split
  induction rest generalizing done b with
  | nil =>
    rw [split, List.append_nil]
    exact pure fun _ holds => holds
  | cons a rest ih =>
    refine (each done a rest b split).bind fun b' => ih (done ++ [a]) b' ?_
    rw [split, List.append_cons]

theorem forM {body : α → Proc ρ σ PUnit} {inv : σ → Prop}
    (each : ∀ a, Triple inv (body a) (fun _ => inv) exc) (list : List α) :
    Triple inv (list.forM body) (fun _ => inv) exc := by
  induction list with
  | nil => exact pure fun _ holds => holds
  | cons a rest ih => exact (each a).bind fun _ => ih

end Triple

end Triples
end Procedure
