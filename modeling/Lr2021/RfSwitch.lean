import Lr2021.CommandSeries

set_option autoImplicit false

/-! What the RF switch helper leaves in the DIOs of the chip. -/
namespace Lr2021

open Cmd FixedWidth FallibleSeries

/-- The settings of one DIO. -/
structure Dio where
  function : BitVec 4
  sleepPull : BitVec 4
  modes : UInt8
  deriving DecidableEq, Repr

def Dio.setFunction (value : UInt8) (d : Dio) : Dio :=
  { d with
    function := value.toBitVec.extractLsb' 4 4
    sleepPull := value.toBitVec.extractLsb' 0 4 }

def Dio.setModes (modes : UInt8) (d : Dio) : Dio := { d with modes }

/-- The DIOs of the chip, by number. -/
abbrev Dios := UInt8 → Dio

namespace Dios

def change (dios : Dios) (dio : UInt8) (setting : Dio → Dio) : Dios := fun other =>
  if other = dio then setting (dios other) else dios other

@[simp] theorem change_same (dios : Dios) (dio : UInt8) (setting : Dio → Dio) :
    change dios dio setting dio = setting (dios dio) :=
  if_pos rfl

@[simp] theorem change_other (dios : Dios) {dio other : UInt8} (setting : Dio → Dio)
    (different : other ≠ dio) : change dios dio setting other = dios other :=
  if_neg different

/-- SetDioFunction takes the function in the high nibble of its byte and the sleep pull in
the low one. -/
def obey (command : Command) (dios : Dios) : Dios :=
  match command.params with
  | [dio, value] =>
    if command.opcode = cmdSetDioFunction then change dios dio (Dio.setFunction value)
    else if command.opcode = cmdSetDioRfSwitchConfig then change dios dio (Dio.setModes value)
    else dios
  | _ => dios

theorem obey_function (dios : Dios) (dio value : UInt8) :
    obey ⟨cmdSetDioFunction, [dio, value]⟩ dios = change dios dio (Dio.setFunction value) := by
  simp only [obey, if_true]

theorem obey_rfSwitchConfig (dios : Dios) (dio value : UInt8) :
    obey ⟨cmdSetDioRfSwitchConfig, [dio, value]⟩ dios = change dios dio (Dio.setModes value) := by
  have different : cmdSetDioRfSwitchConfig ≠ cmdSetDioFunction := by decide
  simp only [obey, different, if_false, if_true]

end Dios

/-- A DIO handed to the RF switch logic, with this sleep pull, driven high in these modes. -/
structure Dio.IsSwitch (d : Dio) (pull modes : UInt8) : Prop where
  function : d.function = 2
  sleepPull : d.sleepPull.toNat = pull.toNat
  modes : d.modes = modes

/-- Both pins are switched as asked, and no other pin has changed. -/
structure Switched (before after : Dios) (txDio txPull rxDio rxPull : UInt8) : Prop where
  tx : (after txDio).IsSwitch txPull rfSwTx
  rx : (after rxDio).IsSwitch rxPull rfSwRx
  others : ∀ dio, dio ≠ txDio → dio ≠ rxDio → after dio = before dio

/-- Two pins, and sleep pulls that fit their nibble. -/
def Switchable (txDio txPull rxDio rxPull : UInt8) : Prop :=
  txDio ≠ rxDio ∧ txPull < 16 ∧ rxPull < 16

/-- A pull that fits its nibble leaves the function beside it alone. -/
theorem functionByte (pull : UInt8) (fits : pull < 16) :
    (dioFunctionRfSwitch ||| pull).toBitVec.extractLsb' 4 4 = 2 ∧
      ((dioFunctionRfSwitch ||| pull).toBitVec.extractLsb' 0 4).toNat = pull.toNat := by
  have small : pull.toNat < 2 ^ 4 := UInt8.lt_iff_toNat_lt.mp fits
  have packed : (dioFunctionRfSwitch ||| pull).toBitVec.toNat = 2 * 16 + pull.toNat :=
    toNat_pack 0x02 pull 4 (by decide) small
  constructor
  · apply BitVec.eq_of_toNat_eq
    rw [BitVec.extractLsb'_toNat, packed, Nat.shiftRight_eq_div_pow]
    change (2 * 16 + pull.toNat) / 16 % 16 = 2
    omega
  · rw [BitVec.extractLsb'_toNat, packed, Nat.shiftRight_zero]
    change (2 * 16 + pull.toNat) % 16 = pull.toNat
    omega

theorem pull_lt_of_isSwitch {d : Dio} {pull modes : UInt8} (switch : d.IsSwitch pull modes) :
    pull < 16 := by
  have small := d.sleepPull.isLt
  rw [switch.sleepPull] at small
  exact UInt8.lt_iff_toNat_lt.mpr small

/-- Where both pins are switched there are two of them, with pulls that fit. -/
theorem Switched.switchable {before after : Dios} {txDio txPull rxDio rxPull : UInt8}
    (switched : Switched before after txDio txPull rxDio rxPull) :
    Switchable txDio txPull rxDio rxPull := by
  refine ⟨?_, pull_lt_of_isSwitch switched.tx, pull_lt_of_isSwitch switched.rx⟩
  intro same
  subst same
  have modes : rfSwTx = rfSwRx := switched.tx.modes.symm.trans switched.rx.modes
  exact absurd modes (by decide)

/-- The two commands for one pin, one after the other. -/
def Dios.assign (dios : Dios) (dio pull modes : UInt8) : Dios :=
  obey ⟨cmdSetDioRfSwitchConfig, [dio, modes]⟩
    (obey ⟨cmdSetDioFunction, [dio, dioFunctionRfSwitch ||| pull]⟩ dios)

theorem Dios.assign_isSwitch (dios : Dios) (dio pull modes : UInt8) (fits : pull < 16) :
    (assign dios dio pull modes dio).IsSwitch pull modes := by
  obtain ⟨function, sleepPull⟩ := functionByte pull fits
  rw [assign, obey_rfSwitchConfig, obey_function, change_same, change_same]
  exact ⟨function, sleepPull, rfl⟩

theorem Dios.assign_other (dios : Dios) {dio other : UInt8} (pull modes : UInt8)
    (different : other ≠ dio) : assign dios dio pull modes other = dios other := by
  rw [assign, obey_rfSwitchConfig, obey_function, change_other _ _ different,
    change_other _ _ different]

/-- On such arguments the four commands switch both pins. -/
theorem switched_of_switchable (dios : Dios) {txDio txPull rxDio rxPull : UInt8}
    (switchable : Switchable txDio txPull rxDio rxPull) :
    Switched dios
      (applyAll Dios.obey (wires (Script.rfSwitch txDio txPull rxDio rxPull).calls) dios)
      txDio txPull rxDio rxPull := by
  obtain ⟨different, txFits, rxFits⟩ := switchable
  change Switched dios
    (Dios.assign (Dios.assign dios txDio txPull rfSwTx) rxDio rxPull rfSwRx) _ _ _ _
  refine ⟨?_, Dios.assign_isSwitch _ _ _ _ rxFits, ?_⟩
  · -- The receive pin's commands come later and leave the transmit pin alone.
    rw [Dios.assign_other _ _ _ different]
    exact Dios.assign_isSwitch _ _ _ _ txFits
  · intro dio notTx notRx
    rw [Dios.assign_other _ _ _ notRx, Dios.assign_other _ _ _ notTx]

/-- On every host whose commands reach the DIOs: a call that succeeds has switched both
pins as asked, and no call succeeds with arguments for which that is impossible. -/
def SwitchHonoured (txDio txPull rxDio rxPull : UInt8) : Prop :=
  ∀ {σ : Type} {hal : Hal (StateM σ)} {device : σ → Dios}
    {sent : σ → List (Command × Except Int32 Unit)}, Drives hal Dios.obey device sent → ∀ s,
    let outcome := (System.setRfSwitch hal txDio txPull rxDio rxPull).run s
    (outcome.1 = .ok () → Switched (device s) (device outcome.2) txDio txPull rxDio rxPull) ∧
      ((∀ before after, ¬Switched before after txDio txPull rxDio rxPull) →
        ∃ e, outcome.1 = .error e)

theorem switchHonoured_of_switchable {txDio txPull rxDio rxPull : UInt8}
    (switchable : Switchable txDio txPull rxDio rxPull) :
    SwitchHonoured txDio txPull rxDio rxPull := by
  intro σ hal device sent drives s outcome
  constructor
  · intro returned
    obtain ⟨log, -, ran⟩ := perform_ran drives (Script.rfSwitch txDio txPull rxDio rxPull).calls
      (Script.rfSwitch txDio txPull rxDio rxPull).admitted
      (Script.rfSwitch txDio txPull rxDio rxPull).writes s
    rw [← AbiCommand.setRfSwitch_eq] at ran
    rw [(ran.ok returned).1]
    exact switched_of_switchable (device s) switchable
  · intro impossible
    exact absurd (switched_of_switchable (device s) switchable) (impossible _ _)

/-- Nothing is refused: on the bench, every call succeeds. -/
theorem switchable_of_switchHonoured {txDio txPull rxDio rxPull : UInt8}
    (honoured : SwitchHonoured txDio txPull rxDio rxPull) :
    Switchable txDio txPull rxDio rxPull := by
  let blank : Dios := fun _ => { function := 0, sleepPull := 0, modes := 0 }
  obtain ⟨switches, -⟩ := honoured (Bench.drives Dios.obey)
    { device := blank, sent := [], faults := [] }
  exact (switches rfl).switchable

/-- The RF switch helper does what it returns success for, on arguments that can be switched
and on no others. -/
theorem set_rf_switch_honoured_iff (txDio txPull rxDio rxPull : UInt8) :
    SwitchHonoured txDio txPull rxDio rxPull ↔
      txDio ≠ rxDio ∧ txPull < 16 ∧ rxPull < 16 :=
  ⟨switchable_of_switchHonoured, switchHonoured_of_switchable⟩

/-- A sleep pull of 0x12 for the transmit pin turns its function into 3. -/
theorem set_rf_switch_overflows :
    ¬∀ txDio txPull rxDio rxPull : UInt8, SwitchHonoured txDio txPull rxDio rxPull := by
  intro claimed
  have fits := switchable_of_switchHonoured (claimed 5 0x12 6 0x03)
  exact absurd fits.2.1 (by decide)

end Lr2021
