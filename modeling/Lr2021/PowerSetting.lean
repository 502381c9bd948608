import Lr2021.CommandCodec
import Lr2021.CommandSeries
import Lr2021.Lib.Runs

set_option autoImplicit false

/-! The transmit registers of the chip through any history of power settings. -/
namespace Lr2021

open Cmd FallibleSeries

/-- The registers that a power setting writes, the three PaConfig bytes among them. -/
structure TxRegisters where
  selectedPa : UInt8
  paConfig₀ : UInt8
  paConfig₁ : UInt8
  paConfig₂ : UInt8
  power : UInt8
  ramp : UInt8
  deriving DecidableEq, Repr

namespace TxRegisters

/-- Each of the three commands overwrites its own registers. -/
def obey (command : Command) (registers : TxRegisters) : TxRegisters :=
  match command.params with
  | [selectedPa] => if command.opcode = cmdSelPa then { registers with selectedPa } else registers
  | [paConfig₀, paConfig₁, paConfig₂] =>
      if command.opcode = cmdSetPaConfig then { registers with paConfig₀, paConfig₁, paConfig₂ }
      else registers
  | [power, ramp] =>
      if command.opcode = cmdSetTxParams then { registers with power, ramp } else registers
  | _ => registers

/-- The registers that a power stands for. -/
def settings (dbm : Int8) (ramp : UInt8)
    (admitted : Radio.lfPowerMin ≤ dbm ∧ dbm ≤ Radio.lfPowerMax) : TxRegisters :=
  let entry := Radio.paLfTable.get ⟨Radio.paLfRow dbm, Radio.paLfRow_lt dbm admitted⟩
  { selectedPa := paLf
    paConfig₀ := (paLf <<< 7) ||| (paLfModeFsm &&& 0x03)
    paConfig₁ := ((entry.dutyCycle &&& 0x0F) <<< 4) ||| (entry.slices &&& 0x0F)
    paConfig₂ := paHfDutyCycleUnused &&& 0x1F
    power := entry.val.toUInt8
    ramp }

/-- The three commands together leave nothing of what the registers held before. -/
theorem applyAll_powerCalls (dbm : Int8) (ramp : UInt8)
    (admitted : Radio.lfPowerMin ≤ dbm ∧ dbm ≤ Radio.lfPowerMax) (registers : TxRegisters) :
    applyAll obey (wires (Script.powerCalls dbm ramp admitted)) registers =
      settings dbm ramp admitted := rfl

/-- The PA is the sub-GHz one in both registers that select it, and the second PaConfig
byte gives back the row of the power. -/
theorem settings_row (dbm : Int8) (ramp : UInt8)
    (admitted : Radio.lfPowerMin ≤ dbm ∧ dbm ≤ Radio.lfPowerMax) :
    let entry := Radio.paLfTable.get ⟨Radio.paLfRow dbm, Radio.paLfRow_lt dbm admitted⟩
    let registers := settings dbm ramp admitted
    registers.selectedPa = paLf ∧ registers.paConfig₀ >>> 7 = paLf ∧
      registers.paConfig₁ >>> 4 = entry.dutyCycle ∧
      registers.paConfig₁ &&& 0x0F = entry.slices := by
  intro entry registers
  obtain ⟨high, low⟩ := CoreCall.nibblePair entry.dutyCycle entry.slices
  obtain ⟨duty, slices⟩ := Radio.paLfTable_fits ⟨Radio.paLfRow dbm, Radio.paLfRow_lt dbm admitted⟩
  have band : ((paLf <<< 7) ||| (paLfModeFsm &&& 0x03)) >>> 7 = paLf := by decide
  exact ⟨rfl, band, high.trans duty, low.trans slices⟩

/-- Different requests stand for different registers. -/
theorem settings_eq_iff (dbm dbm' : Int8) (ramp ramp' : UInt8)
    (admitted : Radio.lfPowerMin ≤ dbm ∧ dbm ≤ Radio.lfPowerMax)
    (admitted' : Radio.lfPowerMin ≤ dbm' ∧ dbm' ≤ Radio.lfPowerMax) :
    settings dbm ramp admitted = settings dbm' ramp' admitted' ↔ dbm = dbm' ∧ ramp = ramp' := by
  constructor
  · intro same
    obtain ⟨-, -, duty, slices⟩ := settings_row dbm ramp admitted
    obtain ⟨-, -, duty', slices'⟩ := settings_row dbm' ramp' admitted'
    rw [same, duty'] at duty
    rw [same, slices'] at slices
    have power := congrArg (fun registers => registers.power.toInt8) same
    have row := Radio.PaEntry.ext duty.symm slices.symm power
    exact ⟨Radio.dbm_of_row admitted admitted' row, congrArg TxRegisters.ramp same⟩
  · rintro ⟨rfl, rfl⟩
    rfl

end TxRegisters

/-- A call of `set_power_dbm`. -/
structure PowerCall where
  dbm : Int8
  ramp : UInt8
  deriving DecidableEq, Repr

namespace PowerCall

variable {σ : Type}

/-- The powers that have a row. -/
def Admitted (call : PowerCall) : Prop := -9 ≤ call.dbm ∧ call.dbm ≤ 22

def commands (call : PowerCall) (admitted : call.Admitted) : List Command :=
  wires (Script.powerCalls call.dbm call.ramp admitted)

def settings (call : PowerCall) (admitted : call.Admitted) : TxRegisters :=
  TxRegisters.settings call.dbm call.ramp admitted

def run (hal : Hal (StateM σ)) (call : PowerCall) : StateM σ (Except Int32 Unit) :=
  (Radio.setPowerDbm hal call.dbm call.ramp).run

theorem settings_eq_iff (call call' : PowerCall) (admitted : call.Admitted)
    (admitted' : call'.Admitted) :
    call.settings admitted = call'.settings admitted' ↔ call = call' := by
  obtain ⟨dbm, ramp⟩ := call
  obtain ⟨dbm', ramp'⟩ := call'
  rw [PowerCall.mk.injEq]
  exact TxRegisters.settings_eq_iff dbm dbm' ramp ramp' admitted admitted'

/-- What a call may do from any state of the host: nothing, where it is refused; and else
its three commands in order, up to the first that fails, whose error it returns. After a
success the registers hold what it asked for. -/
structure Recovers (hal : Hal (StateM σ)) (device : σ → TxRegisters)
    (sent : σ → List (Command × Except Int32 Unit)) (call : PowerCall) (s : σ) : Prop where
  refused : ¬call.Admitted → (∃ e, (call.run hal s).1 = .error e) ∧
    device (call.run hal s).2 = device s ∧ sent (call.run hal s).2 = sent s
  stopped : ∀ admitted e, (call.run hal s).1 = .error e →
    ∃ passed failing rest, call.commands admitted = passed ++ failing :: rest ∧
      sent (call.run hal s).2 =
        sent s ++ ((passed.map fun c => (c, .ok ())) ++ [(failing, .error e)])
  set : (call.run hal s).1 = .ok () → ∃ admitted, device (call.run hal s).2 = call.settings admitted

section Run

variable {hal : Hal (StateM σ)} {device : σ → TxRegisters}
  {sent : σ → List (Command × Except Int32 Unit)}

theorem run_refused (call : PowerCall) (outside : ¬call.Admitted) :
    call.run hal = pure (.error Hal.errBuffer) := by
  rw [run, Radio.setPowerDbm]
  exact congrArg ExceptT.run (dif_neg outside)

theorem run_ran (drives : Drives hal TxRegisters.obey device sent) (call : PowerCall)
    (admitted : call.Admitted) (s : σ) :
    ∃ log, sent (call.run hal s).2 = sent s ++ log ∧
      Ran TxRegisters.obey (call.commands admitted) (device s) (call.run hal s).1
        (device (call.run hal s).2) log := by
  obtain ⟨script, planned⟩ : ∃ script, Script.power call.dbm call.ramp = .ok script :=
    ⟨_, dif_pos admitted⟩
  obtain ⟨_, calls⟩ := Script.power_ok planned
  have ran := perform_ran drives script.calls script.admitted script.writes s
  rw [calls] at ran
  rwa [run, AbiCommand.setPowerDbm_eq hal call.dbm call.ramp admitted]

theorem recovers (drives : Drives hal TxRegisters.obey device sent) (call : PowerCall) (s : σ) :
    call.Recovers hal device sent s where
  refused outside := by
    rw [run_refused call outside]
    exact ⟨⟨_, rfl⟩, rfl, rfl⟩
  stopped admitted e returned := by
    obtain ⟨log, extended, ran⟩ := run_ran drives call admitted s
    obtain ⟨passed, failing, rest, split, recorded⟩ := ran.error returned
    rw [recorded] at extended
    exact ⟨passed, failing, rest, split, extended⟩
  set returned := by
    by_cases admitted : call.Admitted
    · obtain ⟨log, -, ran⟩ := run_ran drives call admitted s
      refine ⟨admitted, (ran.ok returned).1.trans ?_⟩
      exact TxRegisters.applyAll_powerCalls call.dbm call.ramp admitted (device s)
    · rw [run_refused call admitted] at returned
      cases returned

end Run

/-- After any history of calls, with any faults among them, a call is refused, stopped by
its first failing command, or sets the registers to what it asked for alone; and what two
calls set, each after a history of its own, is the same only if they asked for the same. -/
theorem set_power_dbm_recovers {σ : Type} {hal : Hal (StateM σ)} {device : σ → TxRegisters}
    {sent : σ → List (Command × Except Int32 Unit)}
    (drives : Drives hal TxRegisters.obey device sent) :
    (∀ (history : List PowerCall) (call : PowerCall) (s : σ),
      call.Recovers hal device sent (Runs.run (run hal) history s).2) ∧
    (∀ (history history' : List PowerCall) (call call' : PowerCall) (s s' : σ),
      let last := call.run hal (Runs.run (run hal) history s).2
      let last' := call'.run hal (Runs.run (run hal) history' s').2
      last.1 = .ok () → last'.1 = .ok () → (device last.2 = device last'.2 ↔ call = call')) ∧
    ∀ (call : PowerCall) (admitted : call.Admitted),
      let row := Radio.paLfTable.get ⟨Radio.paLfRow call.dbm, Radio.paLfRow_lt call.dbm admitted⟩
      (Radio.paLfRow call.dbm : Int) = call.dbm.toInt + 9 ∧
        (call.settings admitted).selectedPa = paLf ∧
        (call.settings admitted).paConfig₀ >>> 7 = paLf ∧
        (call.settings admitted).paConfig₁ >>> 4 = row.dutyCycle ∧
        (call.settings admitted).paConfig₁ &&& 0x0F = row.slices := by
  refine ⟨?_, ?_, ?_⟩
  · intro history call s
    exact recovers drives call _
  · intro history history' call call' s s' last last' returned returned'
    obtain ⟨admitted, set⟩ := (recovers drives call _).set returned
    obtain ⟨admitted', set'⟩ := (recovers drives call' _).set returned'
    rw [set, set', settings_eq_iff]
  · intro call admitted row
    exact ⟨(Radio.paLfRow_eq call.dbm admitted).1,
      TxRegisters.settings_row call.dbm call.ramp admitted⟩

/-- On the bench: a call that broke off at its second command, with that command in effect,
leaves no trace in what the next call sets. -/
theorem set_power_dbm_recovers_bench :
    let registers : TxRegisters :=
      { selectedPa := 1, paConfig₀ := 0x80, paConfig₁ := 0, paConfig₂ := 0, power := 0, ramp := 0 }
    let bench : Bench TxRegisters :=
      { device := registers, sent := [], faults := [none, some (-1, true)] }
    let before := (Runs.run (run (Bench.hal TxRegisters.obey)) [{ dbm := 22, ramp := 2 }] bench).2
    before.device.paConfig₁ = 0x67 ∧
      (run (Bench.hal TxRegisters.obey) { dbm := 14, ramp := 5 } before).2.device =
        { selectedPa := 0, paConfig₀ := 0, paConfig₁ := 0x32, paConfig₂ := 0x10, power := 39,
          ramp := 5 } := by
  intro registers bench before
  have recovered := (set_power_dbm_recovers (Bench.drives TxRegisters.obey)).1
    [{ dbm := 22, ramp := 2 }] { dbm := 14, ramp := 5 } bench
  obtain ⟨_, set⟩ := recovered.set rfl
  refine ⟨by decide, set.trans ?_⟩
  change settings { dbm := 14, ramp := 5 } ⟨by decide, by decide⟩ = _
  decide

end PowerCall

end Lr2021
