import Mathlib.Data.List.Nodup
import Mathlib.Logic.Function.Basic

set_option autoImplicit false

/-! A store after a list of assignments, where a later one replaces an earlier one of the
same key. -/
namespace Assignments

variable {κ ν : Type} [DecidableEq κ]

/-- The store after all assignments. -/
def assigned (assignments : List (κ × ν)) (store : κ → ν) : κ → ν :=
  assignments.foldl (fun store a => Function.update store a.1 a.2) store

theorem assigned_cons (a : κ × ν) (rest : List (κ × ν)) (store : κ → ν) :
    assigned (a :: rest) store = assigned rest (Function.update store a.1 a.2) := rfl

theorem assigned_append (first second : List (κ × ν)) (store : κ → ν) :
    assigned (first ++ second) store = assigned second (assigned first store) :=
  List.foldl_append

/-- What is not assigned stays. -/
theorem assigned_other {assignments : List (κ × ν)} {store : κ → ν} {key : κ}
    (other : key ∉ assignments.map (·.1)) : assigned assignments store key = store key := by
  induction assignments generalizing store with
  | nil => rfl
  | cons a rest ih =>
    rw [List.map_cons, List.mem_cons, not_or] at other
    rw [assigned_cons, ih other.2, Function.update_of_ne other.1]

/-- With distinct keys, each holds what was assigned to it. -/
theorem assigned_mem {assignments : List (κ × ν)} {store : κ → ν} {key : κ} {value : ν}
    (distinct : (assignments.map (·.1)).Nodup) (member : (key, value) ∈ assignments) :
    assigned assignments store key = value := by
  induction assignments generalizing store with
  | nil => exact absurd member List.not_mem_nil
  | cons a rest ih =>
    rw [List.map_cons, List.nodup_cons] at distinct
    rw [assigned_cons]
    rcases List.mem_cons.mp member with rfl | later
    · rw [assigned_other distinct.1, Function.update_self]
    · exact ih distinct.2 later

/-- So the store tells the values of distinct keys apart. -/
theorem assigned_injective {first second : List (κ × ν)} {store store' : κ → ν}
    (keys : first.map (·.1) = second.map (·.1)) (distinct : (first.map (·.1)).Nodup)
    (same : assigned first store = assigned second store') : first = second := by
  apply List.ext_getElem
  · simpa only [List.length_map] using congrArg List.length keys
  · intro i inside inside'
    have key : first[i].1 = second[i].1 := by
      have at_i := congrArg (·[i]?) keys
      simpa [inside, inside'] using at_i
    have one : assigned first store first[i].1 = first[i].2 :=
      assigned_mem distinct (List.getElem_mem inside)
    have two : assigned second store' second[i].1 = second[i].2 :=
      assigned_mem (keys ▸ distinct) (List.getElem_mem inside')
    apply Prod.ext key
    rw [← one, ← two, same, key]

end Assignments
