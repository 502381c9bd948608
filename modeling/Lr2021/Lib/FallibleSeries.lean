import Lr2021.Lib.TraceLogic

set_option autoImplicit false

/-! A series of commands to a device, over a link that can fail at any of them. A command
that failed may have reached the device or not, and the series ends with it. -/
namespace FallibleSeries

variable {κ δ ε σ : Type}

/-- A link to a device: what was sent over it is on record with its result, and acts on
the device as its `effect` says. -/
structure Link (send : κ → StateM σ (Except ε Unit)) (effect : κ → δ → δ) (device : σ → δ)
    (sent : σ → List (κ × Except ε Unit)) : Prop where
  records : ∀ c s, sent (send c s).2 = sent s ++ [(c, (send c s).1)]
  applies : ∀ c s, (send c s).1 = .ok () → device (send c s).2 = effect c (device s)
  leaves : ∀ c s, device (send c s).2 = effect c (device s) ∨ device (send c s).2 = device s

/-- The commands one after the other, up to the first that fails. -/
def series (send : κ → StateM σ (Except ε Unit)) : List κ → StateM σ (Except ε Unit)
  | [] => pure (.ok ())
  | c :: rest => do
    match ← send c with
    | .error e => pure (.error e)
    | .ok () => series send rest

theorem series_cons (send : κ → StateM σ (Except ε Unit)) (c : κ) (rest : List κ) (s : σ) :
    series send (c :: rest) s =
      match (send c s).1 with
      | .error e => (.error e, (send c s).2)
      | .ok () => series send rest (send c s).2 := by
  rw [series, TraceLogic.bind_apply]
  cases (send c s).1 <;> rfl

/-- A device after all the effects of a list of commands. -/
def applyAll (effect : κ → δ → δ) (commands : List κ) (device : δ) : δ :=
  commands.foldl (fun device c => effect c device) device

/-- Everything a series can do: what it makes of a device, and what it leaves on record. -/
inductive Ran (effect : κ → δ → δ) :
    List κ → δ → Except ε Unit → δ → List (κ × Except ε Unit) → Prop
  | done (device : δ) : Ran effect [] device (.ok ()) device []
  | failed (c : κ) (rest : List κ) (device after : δ) (e : ε)
      (either : after = effect c device ∨ after = device) :
      Ran effect (c :: rest) device (.error e) after [(c, .error e)]
  | went (c : κ) (rest : List κ) (device after : δ) (result : Except ε Unit)
      (log : List (κ × Except ε Unit))
      (later : Ran effect rest (effect c device) result after log) :
      Ran effect (c :: rest) device result after ((c, .ok ()) :: log)

theorem series_ran {send : κ → StateM σ (Except ε Unit)} {effect : κ → δ → δ} {device : σ → δ}
    {sent : σ → List (κ × Except ε Unit)} (link : Link send effect device sent)
    (commands : List κ) (s : σ) :
    ∃ log, sent (series send commands s).2 = sent s ++ log ∧
      Ran effect commands (device s) (series send commands s).1
        (device (series send commands s).2) log := by
  induction commands generalizing s with
  | nil => exact ⟨[], (List.append_nil _).symm, .done (device s)⟩
  | cons c rest ih =>
      have recorded := link.records c s
      rw [series_cons]
      cases outcome : (send c s).1 with
      | error e =>
          rw [outcome] at recorded
          exact ⟨_, recorded, .failed c rest _ _ e (link.leaves c s)⟩
      | ok _ =>
          obtain ⟨log, extended, ran⟩ := ih (send c s).2
          rw [link.applies c s outcome] at ran
          rw [recorded, outcome, List.append_assoc] at extended
          exact ⟨_, extended, .went c rest _ _ _ log ran⟩

namespace Ran

variable {effect : κ → δ → δ} {commands : List κ} {device after : δ} {result : Except ε Unit}
  {log : List (κ × Except ε Unit)}

/-- A series that succeeded has had all its effects. -/
theorem ok (ran : Ran effect commands device result after log) (succeeded : result = .ok ()) :
    after = applyAll effect commands device ∧ log = commands.map fun c => (c, .ok ()) := by
  induction ran with
  | done device => exact ⟨rfl, rfl⟩
  | failed c rest device after e either => cases succeeded
  | went c rest device after result log later ih =>
      obtain ⟨applied, recorded⟩ := ih succeeded
      refine ⟨applied, ?_⟩
      rw [recorded]
      rfl

/-- A series that failed returns the error of its first failing command, which is the last
it sent. -/
theorem error (ran : Ran effect commands device result after log) {e : ε}
    (stopped : result = .error e) :
    ∃ passed failing rest, commands = passed ++ failing :: rest ∧
      log = (passed.map fun c => (c, .ok ())) ++ [(failing, .error e)] := by
  induction ran with
  | done device => cases stopped
  | failed c rest device after e' either =>
      cases stopped
      exact ⟨[], c, rest, rfl, rfl⟩
  | went c rest device after result log later ih =>
      obtain ⟨passed, failing, unsent, split, recorded⟩ := ih stopped
      refine ⟨c :: passed, failing, unsent, ?_, ?_⟩
      · rw [split]
        rfl
      · rw [recorded]
        rfl

end Ran
end FallibleSeries
