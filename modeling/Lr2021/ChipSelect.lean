import Lr2021.Shim
import Lr2021.ReadFifoTrace
import Lr2021.Lib.Runs

set_option autoImplicit false

/-! The chip select under callables that raise. -/
namespace Lr2021

open Cmd TraceLogic BigEndian

variable {ε python α β : Type}

/-- A raise skips all that follows it. -/
theorem native_bind_apply (c : Native ε python α) (next : α → Native ε python β)
    (world : World python) :
    (c >>= next).run world =
      match c.run world with
      | (.ok a, later) => (next a).run later
      | (.error raised, later) => (.error raised, later) := by
  change ExceptT.bindCont next (c.run world).1 (c.run world).2 = _
  rcases c.run world with ⟨raised | a, later⟩ <;> rfl

/-- What only works on values leaves the world as it found it, raising or not. -/
theorem native_bind_world {c : Native ε python α} {next : α → Native ε python β}
    (pureNext : ∀ a world, ((next a).run world).2 = world) (world : World python) :
    ((c >>= next).run world).2 = (c.run world).2 := by
  rw [native_bind_apply]
  rcases c.run world with ⟨raised | a, later⟩
  · rfl
  · exact pureNext a later

/-- The callable raises from this state. -/
def Raises (outcome : Except ε α × python) : Prop := ∃ e, outcome.1 = .error e

/-- The FIFO read of a module call is stranded: the BUSY wait succeeds, and then, with the
chip selected, `spi.write` raises on the opcode or `spi.readinto` raises after it, over what the
stack holds. -/
def Stranded (bus : Bus ε python) (hal : Hal (Native ε python)) (stack : Nat → UInt8) (len : Int)
    (world : World python) : Prop :=
  0 ≤ len ∧ len ≤ 255 ∧
    match hal.waitBusy.run.run world with
    | (.ok (.ok ()), ready) =>
        let sent := bus.spiWrite (frame cmdReadRxFifo []) (bus.setCsValue false ready.kept)
        Raises sent ∨ Raises (bus.spiReadinto (Ffi.fromRawParts stack len.toNat) sent.2)
    | _ => False

section Step

variable {bus : Bus ε python} {report : Int32 → Except Int32 Unit} {hal : Hal (Native ε python)}

theorem call_run (callable : python → Except ε α × python) (world : World python) :
    (call callable).run world =
      ((callable world.kept).1.mapError Raised.callable,
        { world with kept := (callable world.kept).2 }) := rfl

theorem select_run (wraps : OverCallbacks bus report hal) (level : Int32) (world : World python) :
    (hal.select level).run.run world =
      (.ok (.ok ()), { nss := level != 0, kept := bus.setCsValue (level != 0) world.kept }) := by
  rw [wraps.select]
  change (Except.ok (report 0), _) = _
  rw [wraps.zero]

/-- A write comes back, or its raise is all that is left of the native call. -/
theorem write_run (wraps : OverCallbacks bus report hal) (bytes : List UInt8)
    (world : World python) :
    (hal.write bytes).run.run world =
      ((bus.spiWrite bytes world.kept).1.mapError Raised.callable |>.map fun _ => .ok (),
        { world with kept := (bus.spiWrite bytes world.kept).2 }) := by
  rw [wraps.write, Bus.cbSpiWrite, map_bind, native_bind_apply, call_run]
  cases (bus.spiWrite bytes world.kept).1 with
  | error e => rfl
  | ok _ =>
    change (Except.ok (report 0), _) = _
    rw [wraps.zero]
    rfl

theorem read_run (wraps : OverCallbacks bus report hal) {n : Nat} (out : Vector UInt8 n)
    (world : World python) :
    (hal.read out).run world =
      ((bus.spiReadinto out world.kept).1.mapError Raised.callable |>.map fun buf => (.ok (), buf),
        { world with kept := (bus.spiReadinto out world.kept).2 }) := by
  rw [wraps.read, Bus.cbSpiRead, map_bind, native_bind_apply, call_run]
  cases (bus.spiReadinto out world.kept).1 with
  | error e => rfl
  | ok buf =>
    change (Except.ok (report 0, buf), _) = _
    rw [wraps.zero]
    rfl

/-- Once the transfer is over the chip is deselected, however the rest goes. -/
theorem concludeFifo_nss (wraps : OverCallbacks bus report hal) {n : Nat} (r : Except Int32 Unit)
    (out : Vector UInt8 n) (world : World python) :
    ((Xfer.concludeFifo hal r out).run world).2.nss = true := by
  rw [Xfer.concludeFifo, native_bind_apply, select_run wraps]
  cases r with
  | error e => rfl
  | ok _ =>
    apply (congrArg World.nss (native_bind_world (fun _ _ => rfl) _)).trans
    exact wraps.waitBusy { nss := true, kept := bus.setCsValue true world.kept }

/-- A FIFO read from a deselected chip leaves it deselected exactly when it is not
stranded. -/
theorem readFifo_nss (wraps : OverCallbacks bus report hal) (stack : Nat → UInt8) {len : Int}
    (inside : 0 ≤ len ∧ len ≤ 255) {n : Nat} (size : n = len.toNat) (world : World python)
    (high : world.nss = true) :
    ((Xfer.readFifo hal cmdReadRxFifo (Ffi.fromRawParts stack n)).run world).2.nss = true ↔
      ¬Stranded bus hal stack len world := by
  subst size
  have waited := wraps.waitBusy world
  rw [Xfer.readFifo_eq, native_bind_apply, Stranded]
  generalize hal.waitBusy.run.run world = wait at waited ⊢
  obtain ⟨raised | e | _, ready⟩ := wait
  · exact iff_of_true (waited.trans high) fun stranded => stranded.2.2
  · exact iff_of_true (waited.trans high) fun stranded => stranded.2.2
  · have selected : (hal.select 0).run.run ready =
        (.ok (.ok ()), { nss := false, kept := bus.setCsValue false ready.kept }) :=
      select_run wraps 0 ready
    dsimp only
    rw [native_bind_apply, selected]
    dsimp only
    rw [native_bind_apply, write_run wraps]
    dsimp only
    generalize bus.spiWrite (frame cmdReadRxFifo []) (bus.setCsValue false ready.kept) = sent
    obtain ⟨e | _, kept⟩ := sent
    · refine iff_of_false nofun (not_not_intro ⟨inside.1, inside.2, Or.inl ⟨e, rfl⟩⟩)
    · dsimp only [Except.mapError, Except.map]
      rw [native_bind_apply, read_run wraps]
      dsimp only
      cases filled : (bus.spiReadinto (Ffi.fromRawParts stack len.toNat) kept).1 with
      | error e =>
        exact iff_of_false nofun (not_not_intro ⟨inside.1, inside.2, Or.inr ⟨e, filled⟩⟩)
      | ok buf =>
        refine iff_of_true (concludeFifo_nss wraps _ _ _) ?_
        rintro ⟨-, -, ⟨e, raised⟩ | ⟨e, raised⟩⟩
        · cases raised
        · rw [filled] at raised
          cases raised

/-- So does the module call around it. -/
theorem modReadRxFifo_nss (wraps : OverCallbacks bus report hal) (stack : Nat → UInt8) (len : Int)
    (world : World python) (high : world.nss = true) :
    ((modReadRxFifo hal stack len).run world).2.nss = true ↔
      ¬Stranded bus hal stack len world := by
  unfold modReadRxFifo
  split
  · rename_i outside
    apply iff_of_true high
    intro stranded
    obtain ⟨lower, upper, -⟩ := stranded
    omega
  · rename_i inside
    have value : (Int32.ofInt len).toInt = len :=
      Int32.toInt_ofInt_of_le (by omega) (by omega)
    have nonneg : ¬Int32.ofInt len < 0 := by
      rw [Int32.lt_iff_toInt_lt, value]
      change ¬len < 0
      omega
    have size : (Int32.ofInt len).toInt.toNat = len.toNat := congrArg Int.toNat value
    have passed : ((Ffi.lr2021ReadRxFifo (some hal) (some stack) (Int32.ofInt len)).run world).2 =
        ((Xfer.readFifo hal cmdReadRxFifo
          (Ffi.fromRawParts stack (Int32.ofInt len).toInt.toNat)).run world).2 := by
      have short : (Int32.ofInt len).toInt.toNat ≤ maxPacketLen := by
        rw [size, maxPacketLen]
        omega
      rw [Ffi.lr2021ReadRxFifo_of_le hal stack nonneg short, map_eq_pure_bind]
      exact native_bind_world (fun _ _ => rfl) world
    rw [native_bind_world, passed]
    · exact readFifo_nss wraps stack (by omega) size world high
    · rintro ⟨rc, buf⟩ world
      exact native_bind_world (fun _ _ => rfl) world

end Step

/-- One module call: what it leaves with, and the world it leaves. -/
def modCall (hal : Hal (Native ε python)) (stack : Nat → UInt8) (len : Int) (world : World python) :
    Except (Raised ε) (List UInt8) × World python :=
  (modReadRxFifo hal stack len).run world

/-- A module call leaves the chip deselected exactly when it is not stranded, and in a run
of calls none of which is, every call starts from a deselected chip. -/
theorem chip_select_released {ε python : Type} {bus : Bus ε python}
    {report : Int32 → Except Int32 Unit} {hal : Hal (Native ε python)}
    (wraps : OverCallbacks bus report hal) (stack : Nat → UInt8) (world : World python)
    (high : world.nss = true) :
    (∀ len, (modCall hal stack len world).2.nss = true ↔ ¬Stranded bus hal stack len world) ∧
      ∀ lens, Runs.AllEnabled (modCall hal stack)
          (fun len world => ¬Stranded bus hal stack len world) lens world →
        ∀ later ∈ Runs.reached (modCall hal stack) lens world, later.nss = true :=
  ⟨fun len => modReadRxFifo_nss wraps stack len world high, fun lens all =>
    Runs.reached_invariant
      (fun len world (high : world.nss = true) free =>
        (modReadRxFifo_nss wraps stack len world high).mpr free)
      lens world high all⟩

namespace Bus

/-- Only 0 is success. -/
def status (rc : Int32) : Except Int32 Unit := if rc = 0 then .ok () else .error (-1)

/-- A BUSY wait that gives up at once. -/
def waitBusy (bus : Bus ε python) : Fallible (Native ε python) Unit := ExceptT.mk do
  let _ ← bus.cbTicksMs
  let busy ← bus.cbBusyGet
  pure (if busy = 0 then .ok () else .error (-2))

def select (bus : Bus ε python) (level : Int32) : Fallible (Native ε python) Unit :=
  ExceptT.mk (status <$> bus.cbCsSet level)

def write (bus : Bus ε python) (bytes : List UInt8) : Fallible (Native ε python) Unit :=
  ExceptT.mk (status <$> bus.cbSpiWrite bytes)

def read (bus : Bus ε python) {n : Nat} (buf : Vector UInt8 n) :
    Fallible (Native ε python) (Vector UInt8 n) :=
  ExceptT.mk ((fun reply => (status reply.1).map fun _ => reply.2) <$> bus.cbSpiRead buf)

def writeCmd (bus : Bus ε python) (opcode : UInt16) (params : List UInt8) :
    Fallible (Native ε python) Unit := do
  bus.waitBusy
  bus.select 0
  bus.write (frame opcode params)
  bus.select 1

/-- A host table over the callbacks of a bus. -/
def hal (bus : Bus ε python) : Hal (Native ε python) where
  waitBusy := bus.waitBusy
  select := bus.select
  write := bus.write
  read out := (fun reply => (status reply.1, reply.2)) <$> bus.cbSpiRead out
  writeCmd := bus.writeCmd
  readCmd {n} count opcode params out := do
    let outcome ← (do
      bus.writeCmd opcode params
      bus.select 0
      let stat ← bus.read (Vector.replicate count 0)
      let payload ← bus.read out
      bus.select 1
      pure (stat, payload) : Fallible (Native ε python) (Vector UInt8 count × Vector UInt8 n)).run
    match outcome with
    | .ok (stat, payload) => pure (.ok stat, payload)
    | .error e => pure (.error e, out)
  getStatus := do
    bus.waitBusy
    bus.select 0
    let bytes ← bus.read (Vector.replicate 6 0)
    bus.select 1
    pure (bytes[0]!, bytes[1]!, ofBytes32 bytes[2]! bytes[3]! bytes[4]! bytes[5]!)

theorem overCallbacks (bus : Bus ε python) : OverCallbacks bus status bus.hal where
  zero := rfl
  select _ := rfl
  write _ := rfl
  read _ := rfl
  waitBusy world := by
    change ((bus.cbTicksMs >>= _ : Native ε python _).run world).2.nss = _
    rw [native_bind_apply, cbTicksMs, call_run]
    cases (bus.ticksMs world.kept).1 with
    | error e => rfl
    | ok _ =>
      dsimp only [Except.mapError]
      rw [native_bind_world fun _ _ => rfl, cbBusyGet, native_bind_world fun _ _ => rfl]
      rfl

/-- A bus on which `spi.write` raises and all else is well. -/
def unplugged : Bus String Unit where
  spiWrite _ _ := (.error "OSError", ())
  spiReadinto buf _ := (.ok buf, ())
  setCsValue _ _ := ()
  busyValue _ := (.ok false, ())
  ticksMs _ := (.ok 0, ())

end Bus

/-- On the unplugged bus the call is stranded, and that is why NSS stays low. -/
theorem chip_select_released_unplugged :
    (modCall Bus.unplugged.hal (fun _ => 0) 4 { nss := true, kept := () }).2.nss = true ↔
      ¬Stranded Bus.unplugged Bus.unplugged.hal (fun _ => 0) 4 { nss := true, kept := () } := by
  have released := chip_select_released Bus.unplugged.overCallbacks (fun _ => 0)
    { nss := true, kept := () } rfl
  exact released.1 4

/-- The cleanup in `read_fifo` does not survive a callable that raises. -/
theorem chip_select_stays_low :
    ¬∀ (bus : Bus String Unit) (report : Int32 → Except Int32 Unit)
      (hal : Hal (Native String Unit)), OverCallbacks bus report hal →
        ∀ (stack : Nat → UInt8) (len : Int) (world : World Unit), 0 ≤ len → len ≤ 255 →
          world.nss = true → (modCall hal stack len world).2.nss = true := by
  intro released
  have high := released Bus.unplugged Bus.status Bus.unplugged.hal Bus.unplugged.overCallbacks
    (fun _ => 0) 4 { nss := true, kept := () } (by decide) (by decide) rfl
  exact absurd high (by decide)

end Lr2021
