import Lr2021.Hal
import Lr2021.Lib.BigEndian

set_option autoImplicit false

/-! The fake chip of `tests.rs`: it logs what it is sent and answers reads from a list
of replies. Its transactions are framed the way the logs pinned there show. -/
namespace Lr2021

open TraceLogic BigEndian

structure Mock where
  log : List Ev
  /-- One entry per read, in order. -/
  replies : List (List UInt8)

namespace Mock

def record (events : List Ev) : StateM Mock Unit :=
  modify fun mock => { mock with log := mock.log ++ events }

/-- Takes the next reply, short ones zero-padded. -/
def reply (n : Nat) : StateM Mock (Vector UInt8 n) := fun mock =>
  (Vector.ofFn fun i => (mock.replies.headD []).getD i 0,
    { mock with replies := mock.replies.tail })

/-- The events of one command: the opcode and the parameters are separate writes inside
one chip select. -/
def sending (opcode : UInt16) (params : List UInt8) : List Ev :=
  [.waitBusy, .select 0, .write (frame opcode [])] ++
    (if params.isEmpty then [] else [.write params]) ++ [.select 1]

def hal : Hal (StateM Mock) where
  waitBusy := ExceptT.mk (.ok <$> record [.waitBusy])
  select level := ExceptT.mk (.ok <$> record [.select level])
  write bytes := ExceptT.mk (.ok <$> record [.write bytes])
  read {n} _ := do
    record [.read n]
    let bytes ← reply n
    pure (.ok (), bytes)
  writeCmd opcode params := ExceptT.mk (.ok <$> record (sending opcode params))
  readCmd {n} status opcode params _ := do
    record (sending opcode params)
    record [.waitBusy, .select 0, .read status]
    let stat ← reply status
    record [.read n]
    let bytes ← reply n
    record [.select 1]
    pure (.ok stat, bytes)
  getStatus := ExceptT.mk do
    record [.waitBusy, .select 0, .read 6, .select 1]
    let bytes ← reply 6
    pure (.ok (bytes[0]!, bytes[1]!, ofBytes32 bytes[2]! bytes[3]! bytes[4]! bytes[5]!))

theorem sending_transaction (opcode : UInt16) (params : List UInt8) (tail : List Ev)
    (quiet : written tail = [])
    (closed : ∀ out, tail.foldl scan (out, none) = (out, none)) :
    Transaction (frame opcode params) true (sending opcode params ++ tail) := by
  have sent : written (sending opcode params) = frame opcode params := by
    cases params <;> simp [sending, written, frame]
  have framed (out : List (List UInt8)) :
      (sending opcode params).foldl scan (out, none) = (out ++ [frame opcode params], none) := by
    cases params <;> rfl
  have whole : written (sending opcode params ++ tail) = frame opcode params := by
    rw [written_append, sent, quiet, List.append_nil]
  refine ⟨?_, ?_, fun _ => ⟨whole, fun out => ?_⟩⟩
  · cases params <;> rfl
  · exact ⟨[], (List.append_nil _).trans whole⟩
  · rw [List.foldl_append, framed, closed]

theorem observes : Observes hal Mock.log where
  waitBusy _ := ⟨_, rfl, rfl⟩
  select _ _ := ⟨_, rfl, rfl⟩
  write _ _ := ⟨_, rfl, rfl⟩
  read _ _ := ⟨_, rfl, rfl⟩
  writeCmd opcode params s := by
    refine ⟨sending opcode params, rfl, ?_⟩
    have sent := sending_transaction opcode params [] rfl fun _ => rfl
    rwa [List.append_nil] at sent
  readCmd {n} status opcode params _ s := by
    refine ⟨sending opcode params ++
      [.waitBusy, .select 0, .read status, .read n, .select 1], ?_,
      sending_transaction opcode params _ rfl fun _ => rfl⟩
    change (((s.log ++ sending opcode params) ++ _) ++ _) ++ _ = _
    simp only [List.append_assoc]
    rfl

theorem neverFails : NeverFails hal where
  waitBusy _ := rfl
  select _ _ := rfl
  write _ _ := rfl
  read _ _ := rfl
  writeCmd _ _ _ := rfl
  readCmd _ _ _ _ _ := ⟨_, rfl⟩

/-- A rig that has logged nothing, with its replies. -/
def fresh (replies : List (List UInt8)) : Mock := { log := [], replies }

end Mock
end Lr2021
