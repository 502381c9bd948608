import Lr2021.Link.Clock
import Mathlib.Tactic.Linarith

set_option autoImplicit false

/-! The windows of the two sides, which nothing but their clocks keeps in step. -/
namespace Lr2021.Link

open Procedure

variable {ε σ α β : Type} {board : Board ε σ} {time : σ → Nat} {lag gap fuel : Nat}
  {config : Config}

def windowNs : Nat := Code.windowS * 1000000000

/-- The windows of a run, at a node with this role. -/
def windows (board : Board ε σ) (fuel : Nat) (config : Config) (role : String)
    (rates : List Int) : Py ε σ (List Code.Line) :=
  rates.foldlM (Code.window board fuel config role) []

section Receiving

variable (clocked : Clocked board time lag)

include clocked

/-- A loop that only a look at the clock ends is not left before its deadline. -/
theorem leaves_at_deadline {body more : α → Py ε σ (α ⊕ β)} {stop : α → β} {deadline : Nat}
    {a : α} {b : β} {n n' : Node σ}
    (shape : ∀ a, body a = do
      if (← board.now) < deadline then more a else Pure.pure (.inr (stop a)))
    (stays : ∀ a m b m', ¬Returns (more a) m (.inr b) m')
    (returned : Returns (whileLoop body fuel a) n b n') : deadline ≤ timeAt time n' := by
  obtain ⟨a', m, -, last⟩ := whileLoop_returns returned
  rw [shape] at last
  obtain ⟨t, m₁, looks, rest⟩ := returns_bind.mp last
  obtain ⟨-, shown, -⟩ := now_shows clocked looks
  split at rest
  · exact absurd rest (stays _ _ _ _)
  · obtain ⟨-, rfl⟩ := returns_pure.mp rest
    omega

/-- A receiver's window begins with the bring-up, and its time is counted from there on. -/
theorem receive_takes {brBw : Int} {n n' : Node σ} {out : Nat × Int × Int}
    (returned : Returns (Code.receive board fuel config brBw) n out n') :
    timeAt time n + resetNs + windowNs ≤ timeAt time n' + lag := by
  obtain ⟨_, n₁, begins, rest⟩ := returns_bind.mp returned
  obtain ⟨_, n₂, starts, rest⟩ := returns_bind.mp rest
  obtain ⟨name, n₃, described, rest⟩ := returns_bind.mp rest
  obtain ⟨_, n₄, spoken, rest⟩ := returns_bind.mp rest
  obtain ⟨now, n₅, looks, rest⟩ := returns_bind.mp rest
  obtain ⟨tally, n₆, loop, rest⟩ := returns_bind.mp rest
  obtain ⟨per, n₇, rated, rest⟩ := returns_bind.mp rest
  obtain ⟨bps, n₈, timed, rest⟩ := returns_bind.mp rest
  obtain ⟨_, n₉, reports, rest⟩ := returns_bind.mp rest
  obtain ⟨-, rfl⟩ := returns_pure.mp rest
  rw [Code.returns_describe described] at spoken
  rw [(Code.returns_native timed).2, (Code.returns_native rated).2] at reports
  have one := (begin_takes clocked _).passed begins
  have two := ((cmd_takes clocked _ _).andThen fun _ => cmd_takes clocked _ _).passed starts
  have three := (Takes.onBoard (clocked.print _)).passed spoken
  obtain ⟨-, -, four⟩ := now_shows clocked looks
  have five : now + windowNs ≤ timeAt time n₆ := by
    apply leaves_at_deadline clocked (fun _ => rfl) _ loop
    intro tally m tally' m' round
    obtain ⟨polled, m₁, -, rest⟩ := returns_bind.mp round
    cases polled with
    | packet bytes =>
      dsimp only at rest
      split at rest
      · cases (returns_pure.mp rest).1
      · obtain ⟨_, m₂, -, rest⟩ := returns_bind.mp rest
        cases (returns_pure.mp rest).1
    | _ => cases (returns_pure.mp rest).1
  have six := (Takes.onBoard (clocked.print _)).passed reports
  omega

theorem receiveWindow_takes {role : String} {results out : List Code.Line} {brBw : Int}
    {n n' : Node σ} (receiver : role ≠ "A")
    (returned : Returns (Code.window board fuel config role results brBw) n out n') :
    timeAt time n + resetNs + windowNs ≤ timeAt time n' + lag := by
  obtain ⟨now, n₁, looks, rest⟩ := returns_bind.mp returned
  dsimp only at rest
  rw [if_neg receiver] at rest
  obtain ⟨counts, n₂, receives, rest⟩ := returns_bind.mp rest
  obtain ⟨-, rfl⟩ := returns_pure.mp rest
  have early := (now_takes clocked).passed looks
  have late := receive_takes clocked receives
  omega

/-- The windows of a receiver. -/
theorem receiveWindows_take {role : String} {rates : List Int} {out : List Code.Line}
    {n n' : Node σ} (receiver : role ≠ "A")
    (returned : Returns (windows board fuel config role rates) n out n') :
    timeAt time n + rates.length * (resetNs + windowNs) ≤
      timeAt time n' + rates.length * lag := by
  have each : ∀ done brBw rest results, rates = done ++ brBw :: rest →
      Triple (fun m => timeAt time n + done.length * (resetNs + windowNs) ≤
          timeAt time m + done.length * lag)
        (Code.window board fuel config role results brBw)
        (fun _ m => timeAt time n + (done ++ [brBw]).length * (resetNs + windowNs) ≤
          timeAt time m + (done ++ [brBw]).length * lag)
        fun _ _ => True := by
    refine fun done brBw rest results _ m early =>
      ⟨fun out m' window => ?_, fun _ _ _ => True.intro⟩
    have late := receiveWindow_takes clocked receiver window
    rw [List.length_append, List.length_singleton, Nat.add_mul, Nat.add_mul]
    omega
  have all := Triple.foldlM (fun done _ m => timeAt time n + done.length * (resetNs + windowNs) ≤
    timeAt time m + done.length * lag) each []
  exact (all n (by simp)).1 out n' returned

end Receiving

/-- A look at the clock does not take long. -/
def Prompt (board : Board ε σ) (time : σ → Nat) (gap : Nat) : Prop :=
  ∀ s, time (board.monotonicNs s).2 ≤ time s + gap

/-- In the windows of a sender that starts from `n`, each burst is over by the end of the
window that it began in. -/
def BurstsFit (board : Board ε σ) (time : σ → Nat) (fuel : Nat) (config : Config)
    (rates : List Int) (n : Node σ) : Prop :=
  ∀ done brBw rest results m now m₁ sent m₂, rates = done ++ brBw :: rest →
    Returns (windows board fuel config "A" done) n results m → Returns board.now m now m₁ →
    Returns (Code.transmit board fuel config brBw) m₁ sent m₂ →
    timeAt time m₂ ≤ timeAt time m₁ + windowNs

section Sending

variable (clocked : Clocked board time lag) (prompt : Prompt board time gap)

include prompt

theorem now_prompt {n n' : Node σ} {t : Nat} (returned : Returns board.now n t n') :
    timeAt time n' ≤ timeAt time n + gap := by
  obtain ⟨same, -⟩ := returns_onBoard.mp returned
  have soon := prompt n.board
  rw [same] at soon
  exact soon

include clocked

/-- The wait for the end of a window is over soon after it. -/
theorem idle_ends {windowEnd : Nat} {n n' : Node σ}
    (early : timeAt time n ≤ windowEnd + lag + gap)
    (returned : Returns (whileLoop (Code.idleRound board windowEnd) fuel ()) n () n') :
    timeAt time n' ≤ windowEnd + lag + gap + gap := by
  obtain ⟨_, m, rounds, last⟩ := whileLoop_returns returned
  have before : timeAt time m ≤ windowEnd + lag + gap := by
    refine rounds_invariant (fun _ m => timeAt time m ≤ windowEnd + lag + gap) ?_ rounds early
    intro _ m₁ _ m₂ _ round
    obtain ⟨t, m₃, looks, rest⟩ := returns_bind.mp round
    obtain ⟨-, -, behind⟩ := now_shows clocked looks
    have soon := now_prompt prompt looks
    split at rest
    · obtain ⟨-, rfl⟩ := returns_pure.mp rest
      omega
    · cases (returns_pure.mp rest).1
  obtain ⟨t, m₃, looks, rest⟩ := returns_bind.mp last
  have soon := now_prompt prompt looks
  split at rest
  · cases (returns_pure.mp rest).1
  · obtain ⟨-, rfl⟩ := returns_pure.mp rest
    omega

theorem sendWindow_ends {results out : List Code.Line} {brBw : Int} {n n' : Node σ}
    (fits : ∀ now m₁ sent m₂, Returns board.now n now m₁ →
      Returns (Code.transmit board fuel config brBw) m₁ sent m₂ →
      timeAt time m₂ ≤ timeAt time m₁ + windowNs)
    (returned : Returns (Code.window board fuel config "A" results brBw) n out n') :
    timeAt time n' ≤ timeAt time n + windowNs + lag + 3 * gap := by
  obtain ⟨now, n₁, looks, rest⟩ := returns_bind.mp returned
  obtain ⟨sent, n₂, sends, rest⟩ := returns_bind.mp rest
  obtain ⟨_, n₃, idles, rest⟩ := returns_bind.mp rest
  obtain ⟨-, rfl⟩ := returns_pure.mp rest
  obtain ⟨-, shown, behind⟩ := now_shows clocked looks
  have soon := now_prompt prompt looks
  have fit := fits now n₁ sent n₂ looks sends
  have early : timeAt time n₂ ≤ now + windowNs + lag + gap := by omega
  have ended : timeAt time n' ≤ now + windowNs + lag + gap + gap :=
    idle_ends clocked prompt early idles
  omega

/-- The windows of a sender. -/
theorem sendWindows_end {rates : List Int} {out : List Code.Line} {n n' : Node σ}
    (fits : BurstsFit board time fuel config rates n)
    (returned : Returns (windows board fuel config "A" rates) n out n') :
    timeAt time n' ≤ timeAt time n + rates.length * (windowNs + lag + 3 * gap) := by
  have each : ∀ done brBw rest results, rates = done ++ brBw :: rest →
      Triple (fun m => Returns (windows board fuel config "A" done) n results m ∧
          timeAt time m ≤ timeAt time n + done.length * (windowNs + lag + 3 * gap))
        (Code.window board fuel config "A" results brBw)
        (fun out m => Returns (windows board fuel config "A" (done ++ [brBw])) n out m ∧
          timeAt time m ≤ timeAt time n + (done ++ [brBw]).length * (windowNs + lag + 3 * gap))
        fun _ _ => True := by
    rintro done brBw rest results split m ⟨ran, early⟩
    refine ⟨fun out m' window => ⟨?_, ?_⟩, fun _ _ _ => True.intro⟩
    · rw [windows, List.foldlM_append]
      refine returns_bind.mpr ⟨results, m, ran, returns_bind.mpr ⟨out, m', window, ?_⟩⟩
      exact returns_pure.mpr ⟨rfl, rfl⟩
    · have late := sendWindow_ends clocked prompt
        (fun now m₁ sent m₂ => fits done brBw rest results m now m₁ sent m₂ split ran) window
      rw [List.length_append, List.length_singleton, Nat.add_mul]
      omega
  have all := Triple.foldlM (fun done results m =>
    Returns (windows board fuel config "A" done) n results m ∧
      timeAt time m ≤ timeAt time n + done.length * (windowNs + lag + 3 * gap)) each []
  exact ((all n ⟨returns_pure.mpr ⟨rfl, rfl⟩, by simp⟩).1 out n' returned).2

end Sending

/-- The two sides do not step together. Where no burst overruns its window, over the windows of
a sweep the receiver falls behind the sender by at least the sleeps of one reset for each rate,
but for what the two clocks lag and a look at the clock takes. -/
theorem windows_drift {ε' σ' : Type} {board' : Board ε' σ'} {time' : σ' → Nat}
    {lag' fuel' : Nat} {rates : List Int} {n n' : Node σ} {m m' : Node σ'}
    {lines lines' : List Code.Line} {role : String} (clocked : Clocked board time lag)
    (prompt : Prompt board time gap) (clocked' : Clocked board' time' lag')
    (receiver : role ≠ "A") (fits : BurstsFit board time fuel config rates n)
    (sends : Returns (windows board fuel config "A" rates) n lines n')
    (receives : Returns (windows board' fuel' config role rates) m lines' m') :
    (timeAt time n' - timeAt time n : Int) + rates.length * resetNs ≤
      timeAt time' m' - timeAt time' m + rates.length * (lag + 3 * gap + lag') := by
  have ahead := Int.ofNat_le.mpr (sendWindows_end clocked prompt fits sends)
  have behind := Int.ofNat_le.mpr (receiveWindows_take clocked' receiver receives)
  push_cast at ahead behind
  linarith

/-- A test at one rate, with a burst of one packet. -/
def briefTest : Config := { Link.config with payloadLen := 6, packets := 1 }

theorem windows_drift_bench :
    timeAt Desk.clock ((windows Desk.board 50 briefTest "A" [0]).run (Desk.node [])).2 + 25000000 ≤
      timeAt Desk.clock ((windows Desk.board 60 briefTest "B" [0]).run (Desk.node [])).2 +
        999999999 := by
  have prompt : Prompt Desk.board Desk.clock 333333333 := fun _ => Nat.le_refl _
  have fits : BurstsFit Desk.board Desk.clock 50 briefTest [0] (Desk.node []) := by
    intro done brBw rest results m now m₁ sent m₂ split ran looks sends
    obtain ⟨rfl, same⟩ | ⟨_, rfl, same⟩ := List.cons_eq_append_iff.mp split
    · obtain ⟨-, rfl⟩ := returns_pure.mp ran
      obtain ⟨rfl, rfl⟩ := List.cons.inj same
      obtain rfl : _ = m₁ := congrArg Prod.snd looks
      obtain rfl : _ = m₂ := congrArg Prod.snd sends
      decide +kernel
    · exact absurd same.symm (by simp)
  have sends : Returns (windows Desk.board 50 briefTest "A" [0]) (Desk.node []) [] _ :=
    returns_run (by decide +kernel)
  have receives : Returns (windows Desk.board 60 briefTest "B" [0]) (Desk.node [])
      [⟨0, 0, 1000, 0⟩] _ := returns_run (by decide +kernel)
  have drift := windows_drift Desk.clocked prompt Desk.clocked (by decide) fits sends receives
  have start : timeAt Desk.clock (Desk.node []) = 0 := rfl
  rw [start, List.length_singleton, resetNs] at drift
  generalize timeAt Desk.clock (ExceptT.run (windows _ 50 _ _ _) _).2 = sent at drift ⊢
  generalize timeAt Desk.clock (ExceptT.run (windows _ 60 _ _ _) _).2 = received at drift ⊢
  omega

end Lr2021.Link
