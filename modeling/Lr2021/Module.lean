import Lr2021.Shim

set_option autoImplicit false

/-! The functions of the native module, as Python calls them: objects come in, are converted by
MicroPython, and what a return code says goes out as a value or as an exception. -/
namespace Lr2021

/-- What a module function raises of itself, or MicroPython where it cannot convert. -/
inductive ModuleError where
  | overflowError
  | typeError
  | shim (e : ShimError)
  deriving DecidableEq, Repr

section Errors

variable {ε ε' α : Type} {f : ε → ε'}

theorem mapError_ok {a : α} : (Except.ok a).mapError f = .ok a := rfl

theorem mapError_error {e : ε} : (Except.error e : Except ε α).mapError f = .error (f e) := rfl

end Errors

/-- What the module asks of MicroPython about an object: `mp_obj_get_int`,
`mp_obj_get_int_truncated`, `mp_obj_is_true` and `mp_get_buffer_raise`. -/
structure MicroPython (object : Type) where
  objGetInt : object → Except ModuleError Int32
  objGetIntTruncated : object → Except ModuleError Int32
  objIsTrue : object → Except ModuleError Bool
  getBufferRaise : object → Except ModuleError (List UInt8)

namespace MicroPython

variable (python : MicroPython Int)

/-- An integer that fits a machine word is converted to it. -/
def Words : Prop := ∀ x : Int, -2 ^ 31 ≤ x → x < 2 ^ 31 → python.objGetInt x = .ok (Int32.ofInt x)

/-- This integer is not converted to a word of another value. -/
def Exact (x : Int) : Prop := ∀ word, python.objGetInt x = .ok word → word.toInt = x

theorem Words.exact {python : MicroPython Int} (words : python.Words) {x : Int}
    (lower : -2 ^ 31 ≤ x) (upper : x < 2 ^ 31) : python.Exact x := by
  intro word converted
  rw [words x lower upper] at converted
  rw [← Except.ok.inj converted]
  exact Int32.toInt_ofInt_of_le lower (by omega)

/-- Conversions that raise where an integer does not fit. -/
def raising : MicroPython Int where
  objGetInt x := if -2 ^ 31 ≤ x ∧ x < 2 ^ 31 then .ok (Int32.ofInt x) else .error .overflowError
  objGetIntTruncated x := .ok (Int32.ofInt x)
  objIsTrue x := .ok (x != 0)
  getBufferRaise _ := .error .typeError

theorem raising_words : raising.Words := fun _ lower upper => if_pos ⟨lower, upper⟩

theorem raising_exact (x : Int) : raising.Exact x := by
  intro word converted
  by_cases fits : -2 ^ 31 ≤ x ∧ x < 2 ^ 31
  · exact raising_words.exact fits.1 fits.2 word converted
  · have refused : raising.objGetInt x = .error .overflowError := if_neg fits
    rw [refused] at converted
    cases converted

end MicroPython

namespace Module

/-- A return code that is checked and then returned. -/
def checked (rc : Int32) : Except ModuleError Int := do
  (checkErr rc).mapError .shim
  pure rc.toInt

section Functions

variable {object : Type} (python : MicroPython object)

def modFlrcBitrateKbps (brBw : object) : Except ModuleError Int := do
  checked (Ffi.lr2021FlrcBitrateKbps (← python.objGetInt brBw))

def modFlrcBandwidthKhz (brBw : object) : Except ModuleError Int := do
  checked (Ffi.lr2021FlrcBandwidthKhz (← python.objGetInt brBw))

def modFlrcModulationParams (brBw cr shaping : object) : Except ModuleError Int := do
  checked (Ffi.lr2021FlrcModulationParams (← python.objGetInt brBw) (← python.objGetInt cr)
    (← python.objGetInt shaping))

def modFlrcGoodputBps (bytes elapsedMs : object) : Except ModuleError Int := do
  checked (Ffi.lr2021FlrcGoodputBps (← python.objGetInt bytes) (← python.objGetInt elapsedMs))

def modFlrcPerPermille (sent received : object) : Except ModuleError Int := do
  checked (Ffi.lr2021FlrcPerPermille (← python.objGetInt sent) (← python.objGetInt received))

def modLoraBwHz (bw : object) : Except ModuleError Int := do
  checked (Ffi.lr2021LoraBwHz (← python.objGetInt bw))

def modLoraLdroNeeded (sf bw : object) : Except ModuleError Bool := do
  pure ((← checked (Ffi.lr2021LoraLdroNeeded (← python.objGetInt sf) (← python.objGetInt bw))) != 0)

end Functions

theorem checked_ok {rc : Int32} {value : Int} (passed : checked rc = .ok value) :
    0 ≤ rc ∧ rc.toInt = value := by
  by_cases negative : rc < 0
  · obtain ⟨e, raised⟩ := checkErr_of_neg negative
    unfold checked at passed
    rw [raised] at passed
    cases passed
  · have nonneg := Int32.not_lt.mp negative
    unfold checked at passed
    rw [checkErr_of_nonneg nonneg] at passed
    exact ⟨nonneg, Except.ok.inj passed⟩

end Module
end Lr2021
