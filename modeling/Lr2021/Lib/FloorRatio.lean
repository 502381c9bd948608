import Mathlib.Algebra.Group.Nat.Defs

set_option autoImplicit false

/-! Shares of a total in units of `1 / scale`, rounded down. An empty total has the share
zero, as division by zero gives it. -/
namespace FloorRatio

def share (scale part total : Nat) : Nat := part * scale / total

variable {scale part part' total total' kept : Nat}

/-- The share is the largest number of units that the part still covers. -/
theorem share_bracket (positive : 0 < total) :
    share scale part total * total ≤ part * scale ∧
      part * scale < (share scale part total + 1) * total :=
  ⟨Nat.div_mul_le_self _ _, (Nat.div_lt_iff_lt_mul positive).mp (Nat.lt_succ_self _)⟩

theorem share_le (inside : part ≤ total) : share scale part total ≤ scale :=
  Nat.div_le_of_le_mul (Nat.mul_le_mul_right scale inside)

/-- Only the whole has the full share. -/
theorem share_eq_scale_iff (positive : 0 < total) (units : 0 < scale) (inside : part ≤ total) :
    share scale part total = scale ↔ part = total := by
  constructor
  · intro full
    apply Nat.le_antisymm inside
    have covers : share scale part total * total ≤ part * scale := (share_bracket positive).1
    rw [full, Nat.mul_comm] at covers
    exact Nat.le_of_mul_le_mul_right covers units
  · intro same
    subst same
    exact Nat.mul_div_cancel_left scale positive

theorem share_mono (more : part ≤ part') : share scale part total ≤ share scale part' total :=
  Nat.div_le_div_right (Nat.mul_le_mul_right scale more)

/-- A fixed number that is kept weighs less in a larger total. -/
theorem missing_cross (larger : total ≤ total') :
    (total - kept) * total' ≤ (total' - kept) * total := by
  rw [Nat.sub_mul, Nat.sub_mul, Nat.mul_comm total' total]
  exact Nat.sub_le_sub_left (Nat.mul_le_mul_left kept larger) _

/-- So the share of what is missing grows with the total. -/
theorem share_missing_mono (larger : total ≤ total') :
    share scale (total - kept) total ≤ share scale (total' - kept) total' := by
  rcases Nat.eq_zero_or_pos total with rfl | positive
  · rw [share, Nat.div_zero]
    exact Nat.zero_le _
  · apply (Nat.le_div_iff_mul_le (Nat.lt_of_lt_of_le positive larger)).mpr
    apply Nat.le_of_mul_le_mul_right _ positive
    calc
      share scale (total - kept) total * total' * total =
          share scale (total - kept) total * total * total' := Nat.mul_right_comm _ _ _
      _ ≤ (total - kept) * scale * total' :=
          Nat.mul_le_mul_right total' (share_bracket positive).1
      _ = (total - kept) * total' * scale := Nat.mul_right_comm _ _ _
      _ ≤ (total' - kept) * total * scale := Nat.mul_le_mul_right scale (missing_cross larger)
      _ = (total' - kept) * scale * total := Nat.mul_right_comm _ _ _

/-- Counting in larger lots changes no share. -/
theorem share_scaled (k : Nat) (positive : 0 < k) :
    share scale (k * part) (k * total) = share scale part total := by
  rw [share, Nat.mul_assoc, Nat.mul_div_mul_left _ _ positive]
  rfl

end FloorRatio
