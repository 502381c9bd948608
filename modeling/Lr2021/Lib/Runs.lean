set_option autoImplicit false

/-! Runs of a machine that takes one operation at a time, and the two inductions
over them: invariants, and refinement of an abstract machine. -/
namespace Runs

variable {α β σ τ : Type}

/-- The results of a list of operations, and the state they leave. -/
def run (step : α → σ → β × σ) : List α → σ → List β × σ
  | [], s => ([], s)
  | op :: rest, s =>
      let (result, s) := step op s
      let (results, s) := run step rest s
      (result :: results, s)

/-- Every state a run passes through, the initial one included. -/
def reached (step : α → σ → β × σ) : List α → σ → List σ
  | [], s => [s]
  | op :: rest, s => s :: reached step rest (step op s).2

/-- Each operation of a run is enabled in the state it is issued from. -/
def AllEnabled (step : α → σ → β × σ) (enabled : α → σ → Prop) : List α → σ → Prop
  | [], _ => True
  | op :: rest, s => enabled op s ∧ AllEnabled step enabled rest (step op s).2

@[simp] theorem run_length (step : α → σ → β × σ) (ops : List α) (s : σ) :
    (run step ops s).1.length = ops.length := by
  induction ops generalizing s with
  | nil => rfl
  | cons op rest ih => simp only [run, List.length_cons, ih]

/-- A run of two lists is the run of the second from where the first ends. -/
theorem run_append (step : α → σ → β × σ) (first second : List α) (s : σ) :
    run step (first ++ second) s =
      ((run step first s).1 ++ (run step second (run step first s).2).1,
        (run step second (run step first s).2).2) := by
  induction first generalizing s with
  | nil => rfl
  | cons op rest ih => simp only [List.cons_append, run, ih]

theorem reached_invariant {step : α → σ → β × σ} {enabled : α → σ → Prop} {inv : σ → Prop}
    (preserved : ∀ op s, inv s → enabled op s → inv (step op s).2)
    (ops : List α) (s : σ) (initial : inv s) (all : AllEnabled step enabled ops s) :
    ∀ s' ∈ reached step ops s, inv s' := by
  induction ops generalizing s with
  | nil =>
      intro s' member
      rw [reached, List.mem_singleton] at member
      exact member ▸ initial
  | cons op rest ih =>
      intro s' member
      rw [reached, List.mem_cons] at member
      rcases member with rfl | later
      · exact initial
      · exact ih _ (preserved op s initial all.1) all.2 s' later

/-- If each enabled operation of the abstract machine is matched with equal
results and related states, so is every run of enabled operations. -/
theorem run_refines {step : α → σ → β × σ} {spec : α → τ → β × τ} {enabled : α → τ → Prop}
    {related : σ → τ → Prop}
    (matched : ∀ op s t, related s t → enabled op t →
      (step op s).1 = (spec op t).1 ∧ related (step op s).2 (spec op t).2)
    (ops : List α) (s : σ) (t : τ) (initial : related s t)
    (all : AllEnabled spec enabled ops t) :
    (run step ops s).1 = (run spec ops t).1 ∧
      related (run step ops s).2 (run spec ops t).2 := by
  induction ops generalizing s t with
  | nil => exact ⟨rfl, initial⟩
  | cons op rest ih =>
      obtain ⟨sameResult, next⟩ := matched op s t initial all.1
      obtain ⟨sameResults, last⟩ := ih _ _ next all.2
      simp only [run, sameResult, sameResults]
      exact ⟨trivial, last⟩

end Runs
