import Lr2021.Hal

set_option autoImplicit false

namespace Lr2021.Xfer

variable {m : Type → Type} [Monad m]

/-- Rejects a status byte that means nothing is driving MISO. -/
def checkStatus (stat : UInt8) : Except Int32 Unit :=
  if stat = 0x00 ∨ stat = 0xFF then .error Hal.errNoChip else .ok ()

/-- Issues a command and clocks back the reply. Two status bytes are stripped, and
the first is returned undecoded. -/
def readCmd {n : Nat} (hal : Hal m) (opcode : UInt16) (params : List UInt8)
    (out : Vector UInt8 n) : m (Except Int32 UInt8 × Vector UInt8 n) := do
  let (reply, out) ← hal.readCmd 2 opcode params out
  let stat : Except Int32 UInt8 := do
    let status ← reply
    checkStatus status[0]!
    pure status[0]!
  pure (stat, out)

/-- Clocks the Rx FIFO out in the same NSS assertion that sent the opcode. The
results of the transfer and of the deselect are both held back until the chip has
been deselected. -/
def readFifo {n : Nat} (hal : Hal m) (opcode : UInt16) (out : Vector UInt8 n) :
    m (Except Int32 Unit × Vector UInt8 n) := do
  match ← hal.waitBusy.run with
  | .error e => pure (.error e, out)
  | .ok () =>
    let op := [(opcode >>> 8).toUInt8, opcode.toUInt8]
    match ← (hal.select 0).run with
    | .error e => pure (.error e, out)
    | .ok () =>
      let r ← (hal.write op).run
      let (r, out) ← if r.isOk then hal.read out else pure (r, out)
      let deselect ← (hal.select 1).run
      match r, deselect with
      | .error e, _ => pure (.error e, out)
      | .ok (), .error e => pure (.error e, out)
      | .ok (), .ok () =>
        let r ← hal.waitBusy.run
        pure (r, out)

/-- The shape of every status-carrying read of the core: a zeroed local buffer, one
`readCmd` without parameters, and a decoding of the reply. -/
def readReply {n : Nat} {α : Type} (hal : Hal m) (opcode : UInt16)
    (decode : Vector UInt8 n → α) : Fallible m α := ExceptT.mk do
  let (stat, buf) ← readCmd hal opcode [] (Vector.replicate n 0)
  pure (stat.map fun _ => decode buf)

/-- What a status-carrying read makes of a reply: a failed transport comes first, then
the dead-chip check, and only then is the payload decoded. -/
def accept {n : Nat} {α : Type} (decode : Vector UInt8 n → α)
    (reply : Except Int32 (Vector UInt8 2) × Vector UInt8 n) : Except Int32 α :=
  match reply.1 with
  | .error e => .error e
  | .ok status =>
    if status[0]! = 0x00 ∨ status[0]! = 0xFF then .error Hal.errNoChip else .ok (decode reply.2)

theorem readReply_run [LawfulMonad m] {n : Nat} {α : Type} (hal : Hal m) (opcode : UInt16)
    (decode : Vector UInt8 n → α) :
    (readReply hal opcode decode).run =
      accept decode <$> hal.readCmd 2 opcode [] (Vector.replicate n 0) := by
  change (readCmd hal opcode [] (Vector.replicate n 0) >>= _) = _
  rw [readCmd, map_eq_pure_bind, bind_assoc]
  congr 1
  funext reply
  rw [pure_bind]
  obtain ⟨outcome, payload⟩ := reply
  cases outcome with
  | error e => rfl
  | ok status =>
    change pure (Except.map _ ((checkStatus status[0]!).bind fun _ => pure status[0]!)) = _
    by_cases silent : status[0]! = 0x00 ∨ status[0]! = 0xFF
    · simp only [checkStatus, accept, silent, if_true]
      rfl
    · simp only [checkStatus, accept, silent, if_false]
      rfl

end Lr2021.Xfer
