import Lr2021.Module
import Lr2021.AbiCommand
import Lr2021.SignOfReturn

set_option autoImplicit false

/-! The module functions that send commands: from Python's arguments to the frames on the bus. -/
namespace Lr2021

open TraceLogic OutcomeLogic

/-- A module function over a host: an exception of its own is beside what the host does. -/
abbrev Wrapped (m : Type → Type) := ExceptT ModuleError m

/-- The bus tuple, with MicroPython, and the host table over four of the objects in it and a BUSY
timeout. -/
structure BusTuple (m : Type → Type) (object : Type) where
  python : MicroPython object
  entries : List object
  table : (spi cs busy ticks : object) → (busyTimeoutMs : Int32) → Hal m

namespace Module

variable {m : Type → Type} {object : Type}

def busRefused : String := "bus must be (spi, cs, busy, ticks_ms, timeout_ms)"

/-- Unpacks the bus. -/
def busBind (bus : BusTuple m object) : Except ModuleError (Hal m) :=
  match bus.entries with
  | [spi, cs, busy, ticks, timeout] => do
    pure (bus.table spi cs busy ticks (← bus.python.objGetInt timeout))
  | _ => .error (.shim (.valueError busRefused))

variable [Monad m]

/-- Calls into the driver, and raises for a negative return code. -/
def raising {α : Type} (call : m α) (code : α → Int32) : Wrapped m α := do
  let result ← ExceptT.lift call
  (checkErr (code result)).mapError ModuleError.shim
  pure result

/-- The shape of the functions that send: the bus, the arguments, the entry point. -/
def sends (bus : BusTuple m object)
    (arguments : MicroPython object → Except ModuleError AbiCommand) : Wrapped m Unit := do
  let hal ← busBind bus
  let command ← arguments bus.python
  let _ ← raising (command.run (some hal)) id

section Functions

variable (bus : BusTuple m object)

def modWaitReady : Wrapped m Unit := do
  let hal ← busBind bus
  let _ ← raising (Ffi.lr2021WaitReady (some hal)) id

def modClearErrors : Wrapped m Unit := sends bus fun _ => pure .clearErrors

def modSetStandby (mode : object) : Wrapped m Unit :=
  sends bus fun python => do pure (.setStandby (← python.objGetInt mode))

def modSetFs : Wrapped m Unit := sends bus fun _ => pure .setFs

def modSetSleep (config ticks : object) : Wrapped m Unit :=
  sends bus fun python => do
    pure (.setSleep (← python.objGetInt config) (← python.objGetInt ticks))

def modActivatePram : Wrapped m Unit := sends bus fun _ => pure .activatePram

def modCalibrate (blocks : object) : Wrapped m Unit :=
  sends bus fun python => do pure (.calibrate (← python.objGetInt blocks))

def modSetDioFunction (dio function : object) : Wrapped m Unit :=
  sends bus fun python => do
    pure (.setDioFunction (← python.objGetInt dio) (← python.objGetInt function))

def modSetDioRfSwitchConfig (dio modes : object) : Wrapped m Unit :=
  sends bus fun python => do
    pure (.setDioRfSwitchConfig (← python.objGetInt dio) (← python.objGetInt modes))

/-- Two-line front ends only. -/
def modSetRfSwitch (txDio txPull rxDio rxPull : object) : Wrapped m Unit :=
  sends bus fun python => do
    pure (.setRfSwitch (← python.objGetInt txDio) (← python.objGetInt txPull)
      (← python.objGetInt rxDio) (← python.objGetInt rxPull))

def modSetRfFrequency (hz : object) : Wrapped m Unit :=
  sends bus fun python => do pure (.setRfFrequency (← python.objGetInt hz))

def modSetPacketType (packetType : object) : Wrapped m Unit :=
  sends bus fun python => do pure (.setPacketType (← python.objGetInt packetType))

def modSetRxPath (path boost : object) : Wrapped m Unit :=
  sends bus fun python => do
    pure (.setRxPath (← python.objGetInt path) (← python.objGetInt boost))

def modSetPowerDbm (dbm ramp : object) : Wrapped m Unit :=
  sends bus fun python => do
    pure (.setPowerDbm (← python.objGetInt dbm) (← python.objGetInt ramp))

def modSetRx (timeout : object) : Wrapped m Unit :=
  sends bus fun python => do pure (.setRx (← python.objGetInt timeout))

def modSetTx (timeout : object) : Wrapped m Unit :=
  sends bus fun python => do pure (.setTx (← python.objGetInt timeout))

def modSetDioIrqConfig (dio irq : object) : Wrapped m Unit :=
  sends bus fun python => do
    pure (.setDioIrqConfig (← python.objGetInt dio) (← python.objGetIntTruncated irq))

def modClearIrq (irq : object) : Wrapped m Unit :=
  sends bus fun python => do pure (.clearIrq (← python.objGetIntTruncated irq))

def modWriteTxFifo (data : object) : Wrapped m Unit :=
  sends bus fun python => do
    let buf ← python.getBufferRaise data
    pure (.writeTxFifo (some fun i => buf.getD i 0) (Int32.ofNat buf.length))

def modClearRxFifo : Wrapped m Unit := sends bus fun _ => pure .clearRxFifo

def modClearTxFifo : Wrapped m Unit := sends bus fun _ => pure .clearTxFifo

def modResetRxStats : Wrapped m Unit := sends bus fun _ => pure .resetRxStats

def modLoraSetModulationParams (sf bw cr ldro highBand : object) : Wrapped m Unit :=
  sends bus fun python => do
    pure (.loraSetModulationParams (← python.objGetInt sf) (← python.objGetInt bw)
      (← python.objGetInt cr) (← python.objGetInt ldro)
      (FixedWidth.ofBool (← python.objIsTrue highBand)))

def modLoraSetPacketParams (preambleLen headerType payloadLen crc invertIq : object) :
    Wrapped m Unit :=
  sends bus fun python => do
    pure (.loraSetPacketParams (← python.objGetInt preambleLen) (← python.objGetInt headerType)
      (← python.objGetInt payloadLen) (FixedWidth.ofBool (← python.objIsTrue crc))
      (FixedWidth.ofBool (← python.objIsTrue invertIq)))

def modLoraSetSyncWord (syncWord : object) : Wrapped m Unit :=
  sends bus fun python => do pure (.loraSetSyncWord (← python.objGetInt syncWord))

def modLoraSetSynchTimeout (symbols mantExp : object) : Wrapped m Unit :=
  sends bus fun python => do
    pure (.loraSetSynchTimeout (← python.objGetInt symbols)
      (FixedWidth.ofBool (← python.objIsTrue mantExp)))

def modLoraSetCadParams (symNum preambleOnly pnrDelta exitMode timeout detPeak : object) :
    Wrapped m Unit :=
  sends bus fun python => do
    pure (.loraSetCadParams (← python.objGetInt symNum)
      (FixedWidth.ofBool (← python.objIsTrue preambleOnly)) (← python.objGetInt pnrDelta)
      (← python.objGetInt exitMode) (← python.objGetInt timeout) (← python.objGetInt detPeak))

def modLoraSetCad : Wrapped m Unit := sends bus fun _ => pure .loraSetCad

end Functions

variable [LawfulMonad m]

theorem raising_run {α : Type} (call : m α) (code : α → Int32) :
    (raising call code).run = (fun result =>
      ((checkErr (code result)).mapError ModuleError.shim).map fun _ => result) <$> call := by
  have lifted (next : α → Wrapped m α) :
      (ExceptT.lift call >>= next).run = call >>= fun result => (next result).run := by
    rw [ExceptT.run_bind, ExceptT.run_lift, map_eq_pure_bind, bind_assoc]
    simp only [pure_bind]
  rw [raising, lifted, map_eq_pure_bind]
  congr 1
  funext result
  cases checkErr (code result) with
  | error e => exact run_error_bind _ _
  | ok _ => exact run_ok_bind _ _

/-- What a sending function comes down to. -/
theorem sends_run {bus : BusTuple m object} {hal : Hal m} (bound : busBind bus = .ok hal)
    (arguments : MicroPython object → Except ModuleError AbiCommand) :
    (sends bus arguments).run = match arguments bus.python with
      | .error e => pure (.error e)
      | .ok command => (fun code => (checkErr code).mapError ModuleError.shim) <$>
          command.run (some hal) := by
  rw [sends, bound, run_ok_bind]
  cases arguments bus.python with
  | error e => exact run_error_bind _ _
  | ok command =>
    rw [run_ok_bind, ExceptT.run_bind, raising_run, map_eq_pure_bind, bind_assoc]
    dsimp only
    rw [map_eq_pure_bind]
    congr 1
    funext code
    rw [pure_bind]
    dsimp only [id]
    cases checkErr code <;> rfl

end Module

/-- A call of a module function that sends, with the objects that Python gives it. -/
inductive SendingCall (object : Type) where
  | clearErrors
  | setStandby (mode : object)
  | setFs
  | setSleep (config ticks : object)
  | activatePram
  | calibrate (blocks : object)
  | setDioFunction (dio function : object)
  | setDioRfSwitchConfig (dio modes : object)
  | setRfSwitch (txDio txPull rxDio rxPull : object)
  | setRfFrequency (hz : object)
  | setPacketType (packetType : object)
  | setRxPath (path boost : object)
  | setPowerDbm (dbm ramp : object)
  | setRx (timeout : object)
  | setTx (timeout : object)
  | setDioIrqConfig (dio irq : object)
  | clearIrq (irq : object)
  | writeTxFifo (data : object)
  | clearRxFifo
  | clearTxFifo
  | resetRxStats
  | loraSetModulationParams (sf bw cr ldro highBand : object)
  | loraSetPacketParams (preambleLen headerType payloadLen crc invertIq : object)
  | loraSetSyncWord (syncWord : object)
  | loraSetSynchTimeout (symbols mantExp : object)
  | loraSetCadParams (symNum preambleOnly pnrDelta exitMode timeout detPeak : object)
  | loraSetCad

namespace SendingCall

variable {m : Type → Type} [Monad m] {object : Type}

/-- The function itself. -/
def run (bus : BusTuple m object) : SendingCall object → Wrapped m Unit
  | clearErrors => Module.modClearErrors bus
  | setStandby mode => Module.modSetStandby bus mode
  | setFs => Module.modSetFs bus
  | setSleep config ticks => Module.modSetSleep bus config ticks
  | activatePram => Module.modActivatePram bus
  | calibrate blocks => Module.modCalibrate bus blocks
  | setDioFunction dio function => Module.modSetDioFunction bus dio function
  | setDioRfSwitchConfig dio modes => Module.modSetDioRfSwitchConfig bus dio modes
  | setRfSwitch txDio txPull rxDio rxPull => Module.modSetRfSwitch bus txDio txPull rxDio rxPull
  | setRfFrequency hz => Module.modSetRfFrequency bus hz
  | setPacketType packetType => Module.modSetPacketType bus packetType
  | setRxPath path boost => Module.modSetRxPath bus path boost
  | setPowerDbm dbm ramp => Module.modSetPowerDbm bus dbm ramp
  | setRx timeout => Module.modSetRx bus timeout
  | setTx timeout => Module.modSetTx bus timeout
  | setDioIrqConfig dio irq => Module.modSetDioIrqConfig bus dio irq
  | clearIrq irq => Module.modClearIrq bus irq
  | writeTxFifo data => Module.modWriteTxFifo bus data
  | clearRxFifo => Module.modClearRxFifo bus
  | clearTxFifo => Module.modClearTxFifo bus
  | resetRxStats => Module.modResetRxStats bus
  | loraSetModulationParams sf bw cr ldro highBand =>
      Module.modLoraSetModulationParams bus sf bw cr ldro highBand
  | loraSetPacketParams preambleLen headerType payloadLen crc invertIq =>
      Module.modLoraSetPacketParams bus preambleLen headerType payloadLen crc invertIq
  | loraSetSyncWord syncWord => Module.modLoraSetSyncWord bus syncWord
  | loraSetSynchTimeout symbols mantExp => Module.modLoraSetSynchTimeout bus symbols mantExp
  | loraSetCadParams symNum preambleOnly pnrDelta exitMode timeout detPeak =>
      Module.modLoraSetCadParams bus symNum preambleOnly pnrDelta exitMode timeout detPeak
  | loraSetCad => Module.modLoraSetCad bus

/-- What its objects come to: the entry point with its arguments. -/
def arguments (python : MicroPython object) : SendingCall object → Except ModuleError AbiCommand
  | clearErrors => pure .clearErrors
  | setStandby mode => do pure (.setStandby (← python.objGetInt mode))
  | setFs => pure .setFs
  | setSleep config ticks => do
    pure (.setSleep (← python.objGetInt config) (← python.objGetInt ticks))
  | activatePram => pure .activatePram
  | calibrate blocks => do pure (.calibrate (← python.objGetInt blocks))
  | setDioFunction dio function => do
    pure (.setDioFunction (← python.objGetInt dio) (← python.objGetInt function))
  | setDioRfSwitchConfig dio modes => do
    pure (.setDioRfSwitchConfig (← python.objGetInt dio) (← python.objGetInt modes))
  | setRfSwitch txDio txPull rxDio rxPull => do
    pure (.setRfSwitch (← python.objGetInt txDio) (← python.objGetInt txPull)
      (← python.objGetInt rxDio) (← python.objGetInt rxPull))
  | setRfFrequency hz => do pure (.setRfFrequency (← python.objGetInt hz))
  | setPacketType packetType => do pure (.setPacketType (← python.objGetInt packetType))
  | setRxPath path boost => do
    pure (.setRxPath (← python.objGetInt path) (← python.objGetInt boost))
  | setPowerDbm dbm ramp => do
    pure (.setPowerDbm (← python.objGetInt dbm) (← python.objGetInt ramp))
  | setRx timeout => do pure (.setRx (← python.objGetInt timeout))
  | setTx timeout => do pure (.setTx (← python.objGetInt timeout))
  | setDioIrqConfig dio irq => do
    pure (.setDioIrqConfig (← python.objGetInt dio) (← python.objGetIntTruncated irq))
  | clearIrq irq => do pure (.clearIrq (← python.objGetIntTruncated irq))
  | writeTxFifo data => do
    let buf ← python.getBufferRaise data
    pure (.writeTxFifo (some fun i => buf.getD i 0) (Int32.ofNat buf.length))
  | clearRxFifo => pure .clearRxFifo
  | clearTxFifo => pure .clearTxFifo
  | resetRxStats => pure .resetRxStats
  | loraSetModulationParams sf bw cr ldro highBand => do
    pure (.loraSetModulationParams (← python.objGetInt sf) (← python.objGetInt bw)
      (← python.objGetInt cr) (← python.objGetInt ldro)
      (FixedWidth.ofBool (← python.objIsTrue highBand)))
  | loraSetPacketParams preambleLen headerType payloadLen crc invertIq => do
    pure (.loraSetPacketParams (← python.objGetInt preambleLen) (← python.objGetInt headerType)
      (← python.objGetInt payloadLen) (FixedWidth.ofBool (← python.objIsTrue crc))
      (FixedWidth.ofBool (← python.objIsTrue invertIq)))
  | loraSetSyncWord syncWord => do pure (.loraSetSyncWord (← python.objGetInt syncWord))
  | loraSetSynchTimeout symbols mantExp => do
    pure (.loraSetSynchTimeout (← python.objGetInt symbols)
      (FixedWidth.ofBool (← python.objIsTrue mantExp)))
  | loraSetCadParams symNum preambleOnly pnrDelta exitMode timeout detPeak => do
    pure (.loraSetCadParams (← python.objGetInt symNum)
      (FixedWidth.ofBool (← python.objIsTrue preambleOnly)) (← python.objGetInt pnrDelta)
      (← python.objGetInt exitMode) (← python.objGetInt timeout) (← python.objGetInt detPeak))
  | loraSetCad => pure .loraSetCad

/-- Each of the functions is one entry point of the C ABI. -/
theorem run_eq (bus : BusTuple m object) (call : SendingCall object) :
    call.run bus = Module.sends bus call.arguments := by
  cases call <;> rfl

end SendingCall

/-- The message of a refusal. -/
def refusal (code : Int32) : ModuleError :=
  if code = Flrc.errParam then .shim (.valueError "argument out of range for this command")
  else .shim (.valueError "buffer too long for this command")

theorem checkErr_of_refused {command : AbiCommand} {code : Int32}
    (refused : command.plan = .error code) :
    (checkErr code).mapError ModuleError.shim = .error (refusal code) := by
  rcases AbiCommand.plan_error refused with rfl | rfl <;> rfl

/-- Whether a call came back, and with no error. -/
def went {ρ ε α : Type} : Except ρ (Except ε α) → Bool
  | .ok (.ok _) => true
  | _ => false

/-- An error code that comes back is negative. -/
def NegativeCode {ρ α : Type} (outcome : Except ρ (Except Int32 α)) : Prop :=
  ∀ code, outcome = .ok (.error code) → code < 0

namespace NegativeCode

variable {ρ α : Type}

theorem raised (e : ρ) : NegativeCode (.error e : Except ρ (Except Int32 α)) := by
  intro code same
  cases same

theorem failed {code : Int32} (negative : code < 0) :
    NegativeCode (.ok (.error code) : Except ρ (Except Int32 α)) := by
  intro code' same
  rwa [← Except.error.inj (Except.ok.inj same)]

theorem passed (a : α) : NegativeCode (.ok (.ok a) : Except ρ (Except Int32 α)) := by
  intro code same
  cases same

end NegativeCode

/-- What the module relies on of a host whose calls may be left by an exception of an object of the
bus: the framing of its transactions, of which one that raises is not completed, and negative error
codes. -/
structure Relied {ρ σ : Type} (hal : Hal (ExceptT ρ (StateM σ))) (trace : σ → List Ev) : Prop where
  waitBusy : Emits trace hal.waitBusy.run.run fun outcome events =>
    events = [.waitBusy] ∧ NegativeCode outcome
  writeCmd : ∀ opcode params, Emits trace (hal.writeCmd opcode params).run.run
    fun outcome events =>
      Transaction (frame opcode params) (went outcome) events ∧ NegativeCode outcome
  readCmd : ∀ {n : Nat} status opcode params (out : Vector UInt8 n),
    Emits trace (hal.readCmd status opcode params out).run fun reply events =>
      Transaction (frame opcode params) (went (reply.map Prod.fst)) events ∧
        NegativeCode (reply.map Prod.fst)

section Raising

variable {ρ σ object : Type} {hal : Hal (ExceptT ρ (StateM σ))} {trace : σ → List Ev}
  {bus : BusTuple (ExceptT ρ (StateM σ)) object}

/-- A series of commands, cut short by an error code or by an exception or not at all. -/
theorem perform_goes (relied : Relied hal trace) (calls : List CoreCall)
    (admitted : Admitted calls) (writes : ∀ c ∈ calls, c.isWrite = true) :
    Emits trace (perform hal calls).run.run fun outcome events =>
      Session (calls.map fun c => c.wire.bytes) (went outcome) events ∧ NegativeCode outcome := by
  induction calls with
  | nil => exact Emits.pure _ ⟨Session.idle, .passed ()⟩
  | cons c rest ih =>
    rw [Admitted, List.forall_mem_cons] at admitted
    rw [List.forall_mem_cons] at writes
    have first : Emits trace (c.run hal).run fun outcome events =>
        Transaction c.wire.bytes (went outcome) events ∧ NegativeCode outcome := by
      rw [CoreCall.run_of_isWrite hal c writes.1, admitted.1]
      exact relied.writeCmd _ _
    have later (result : Except Int32 Unit) :
        Emits trace (ExceptT.bindCont (fun _ => perform hal rest) result).run
          fun outcome events =>
            (∀ code, result = .error code → outcome = .ok (.error code) ∧ events = []) ∧
            (result = .ok () → Session (rest.map fun c => c.wire.bytes) (went outcome) events ∧
              NegativeCode outcome) := by
      cases result with
      | error code =>
        apply Emits.pure
        constructor
        · intro code' same
          rw [Except.error.inj same]
          exact ⟨rfl, rfl⟩
        · intro passed
          cases passed
      | ok _ =>
        apply (ih admitted.2 writes.2).mono
        intro outcome events goes
        constructor
        · intro code failed
          cases failed
        · intro _
          exact goes
    apply (first.bindExcept later).mono
    rintro outcome events (⟨e, rfl, stopped, -⟩ | ⟨result, before, after, rfl, sent, stops, goes⟩)
    · exact ⟨Session.broken stopped, .raised e⟩
    · cases result with
      | error code =>
        obtain ⟨rfl, rfl⟩ := stops code rfl
        rw [List.append_nil]
        exact ⟨Session.broken sent.1, sent.2⟩
      | ok _ =>
        obtain ⟨session, negative⟩ := goes rfl
        exact ⟨Session.step sent.1 session, negative⟩

/-- What a function makes of how its entry point ended. -/
def answered : Except ρ (Except Int32 Unit) → Except ρ (Except ModuleError Unit) :=
  Except.map fun result => (checkErr (Ffi.statusOf result)).mapError ModuleError.shim

/-- It returns where the commands all went, and passes on what an object raises. What else it
raises stands for a negative code. -/
theorem answered_cases {outcome : Except ρ (Except Int32 Unit)} (negative : NegativeCode outcome) :
    (outcome = .ok (.ok ()) ∧ answered outcome = .ok (.ok ())) ∨
    (∃ code e, code < 0 ∧ outcome = .ok (.error code) ∧
      (checkErr code).mapError ModuleError.shim = .error e ∧ answered outcome = .ok (.error e)) ∨
    ∃ raised, outcome = .error raised ∧ answered outcome = .error raised := by
  rcases outcome with raised | code | _
  · exact Or.inr (Or.inr ⟨raised, rfl, rfl⟩)
  · obtain ⟨e, raises⟩ := checkErr_of_neg (negative code rfl)
    have same : (checkErr code).mapError ModuleError.shim = .error (.shim e) :=
      congrArg (Except.mapError ModuleError.shim) raises
    refine Or.inr (Or.inl ⟨code, .shim e, negative code rfl, rfl, same, ?_⟩)
    exact congrArg Except.ok same
  · exact Or.inl ⟨rfl, rfl⟩

variable (bound : Module.busBind bus = .ok hal)

include bound

theorem sends_error {arguments : MicroPython object → Except ModuleError AbiCommand}
    {e : ModuleError} (refused : arguments bus.python = .error e) :
    (Module.sends bus arguments).run.run = pure (.ok (.error e)) := by
  rw [Module.sends_run bound, refused]
  rfl

theorem sends_refused {arguments : MicroPython object → Except ModuleError AbiCommand}
    {command : AbiCommand} {code : Int32} (converted : arguments bus.python = .ok command)
    (refused : command.plan = .error code) :
    (Module.sends bus arguments).run.run = pure (.ok (.error (refusal code))) := by
  rw [Module.sends_run bound, converted]
  dsimp only
  rw [AbiCommand.run_eq, refused, AbiCommand.execute, map_pure, checkErr_of_refused refused]
  rfl

/-- What is let through is the core's calls, and what is made of how they ended. -/
theorem sends_performs {arguments : MicroPython object → Except ModuleError AbiCommand}
    {command : AbiCommand} {script : Script} (converted : arguments bus.python = .ok command)
    (planned : command.plan = .ok script) :
    (Module.sends bus arguments).run.run = answered <$> (perform hal script.calls).run.run := by
  rw [Module.sends_run bound, converted]
  dsimp only
  rw [AbiCommand.run_eq, planned, AbiCommand.execute, ExceptT.run_map, ExceptT.run_map,
    Functor.map_map]
  congr 1
  funext outcome
  cases outcome <;> rfl

end Raising

/-- A host that logs, and raises once its writes are used up. -/
structure Loose where
  log : List Ev
  left : Nat

namespace Loose

/-- One command, of which nothing is written if there is no write left. -/
def sending (bytes : List UInt8) : ExceptT String (StateM Loose) Unit :=
  ExceptT.mk fun loose =>
    if loose.left = 0 then
      (.error "OSError", { loose with log := loose.log ++ [.waitBusy, .select 0] })
    else
      (.ok (), {
        log := loose.log ++ [.waitBusy, .select 0, .write bytes, .select 1]
        left := loose.left - 1 })

def record (events : List Ev) : ExceptT String (StateM Loose) Unit :=
  modify fun loose => { loose with log := loose.log ++ events }

def hal : Hal (ExceptT String (StateM Loose)) where
  waitBusy := ExceptT.mk (.ok <$> record [.waitBusy])
  select level := ExceptT.mk (.ok <$> record [.select level])
  write bytes := ExceptT.mk (.ok <$> record [.write bytes])
  read {n} _ := do
    record [.read n]
    pure (.ok (), Vector.replicate n 0x05)
  writeCmd opcode params := ExceptT.mk (.ok <$> sending (frame opcode params))
  readCmd {n} status opcode params _ := do
    sending (frame opcode params)
    record [.waitBusy, .select 0, .read (status + n), .select 1]
    pure (.ok (Vector.replicate status 0x05), Vector.replicate n 0x05)
  getStatus := ExceptT.mk do
    record [.waitBusy, .select 0, .read 6, .select 1]
    pure (.ok (0x05, 0x05, 0))

theorem relied : Relied hal log where
  waitBusy _ := ⟨[.waitBusy], rfl, rfl, .passed ()⟩
  writeCmd opcode params s := by
    obtain ⟨log, left⟩ := s
    cases left with
    | zero => exact ⟨[.waitBusy, .select 0], rfl, ⟨rfl, List.nil_prefix, nofun⟩, .raised _⟩
    | succ left =>
      have sent : written [.waitBusy, .select 0, .write (frame opcode params), .select 1] =
          frame opcode params := List.append_nil _
      refine ⟨[.waitBusy, .select 0, .write (frame opcode params), .select 1], rfl, ?_, .passed ()⟩
      exact ⟨rfl, ⟨[], (List.append_nil _).trans sent⟩, fun _ => ⟨sent, fun _ => rfl⟩⟩
  readCmd {n} status opcode params _ s := by
    obtain ⟨log, left⟩ := s
    cases left with
    | zero => exact ⟨[.waitBusy, .select 0], rfl, ⟨rfl, List.nil_prefix, nofun⟩, .raised _⟩
    | succ left =>
      let asked : List Ev := [.waitBusy, .select 0, .write (frame opcode params), .select 1]
      let fetched : List Ev := [.waitBusy, .select 0, .read (status + n), .select 1]
      have sent : written (asked ++ fetched) = frame opcode params := List.append_nil _
      refine ⟨asked ++ fetched, List.append_assoc _ _ _, ?_, .passed _⟩
      exact ⟨rfl, ⟨[], (List.append_nil _).trans sent⟩, fun _ => ⟨sent, fun _ => rfl⟩⟩

/-- The bus tuple over it. -/
def bus : BusTuple (ExceptT String (StateM Loose)) Int where
  python := .raising
  entries := [0, 1, 2, 3, 200]
  table _ _ _ _ _ := hal

theorem bus_bound : Module.busBind bus = .ok hal := rfl

end Loose

end Lr2021
