import Mathlib.Algebra.Order.Field.Rat
import Mathlib.Tactic.Linarith

/-!
# `Dcvp.Lib.Rounding`: rounding half up

`roundHalfUp x` is the integer nearest to `x`, and the larger one of two. `le_roundHalfUp` and
`roundHalfUp_le` say when it is above or below an integer, and everything else follows from them.
-/

set_option autoImplicit false

namespace Dcvp.Lib

/-- The nearest integer, the larger one of two. -/
def roundHalfUp (x : Rat) : Int := (x + 1 / 2).floor

/-- A whole number is at most the rounded value when it is at most half above the number itself.
This and the next lemma are all that is used of rounding. -/
theorem le_roundHalfUp {n : Int} {x : Rat} : n ≤ roundHalfUp x ↔ (n : Rat) ≤ x + 1 / 2 :=
  Rat.le_floor_iff

/-- The rounded value is at most a whole number when the number itself is less than half above that
one. A half exactly is rounded up, hence the strict order. -/
theorem roundHalfUp_le {n : Int} {x : Rat} : roundHalfUp x ≤ n ↔ x < n + 1 / 2 := by
  have hlt : roundHalfUp x < n + 1 ↔ x + 1 / 2 < ((n + 1 : Int) : Rat) := Rat.floor_lt_iff
  rw [Int.lt_add_one_iff] at hlt
  rw [hlt]
  push_cast
  constructor <;> intro h <;> linarith

/-- Rounding keeps the order of numbers. -/
theorem roundHalfUp_mono {x y : Rat} (h : x ≤ y) : roundHalfUp x ≤ roundHalfUp y := by
  have hself : ((roundHalfUp x : Int) : Rat) ≤ x + 1 / 2 := le_roundHalfUp.mp (Int.le_refl _)
  exact le_roundHalfUp.mpr (by linarith)

/-- A whole number is its own rounding. -/
@[simp] theorem roundHalfUp_intCast (n : Int) : roundHalfUp n = n := by
  refine Int.le_antisymm (roundHalfUp_le.mpr ?_) (le_roundHalfUp.mpr ?_) <;> linarith

/-- A number between two integers is rounded to one between them. -/
theorem roundHalfUp_mem {a b : Int} {x : Rat} (hlow : (a : Rat) ≤ x) (hhigh : x ≤ b) :
    a ≤ roundHalfUp x ∧ roundHalfUp x ≤ b := by
  have hlow' := roundHalfUp_mono hlow
  have hhigh' := roundHalfUp_mono hhigh
  rw [roundHalfUp_intCast] at hlow' hhigh'
  exact ⟨hlow', hhigh'⟩

/-- A share in percent. -/
def percent (part total : Nat) : Int := roundHalfUp ((part : Rat) / total * 100)

/-- The rounded percentage of a part of a whole is between 0 and 100, the ends included. -/
theorem percent_mem {part total : Nat} (htotal : 0 < total) (hpart : part ≤ total) :
    0 ≤ percent part total ∧ percent part total ≤ 100 := by
  have hpos : (0 : Rat) < total := Nat.cast_pos.mpr htotal
  have hlow : (0 : Rat) ≤ (part : Rat) / total := div_nonneg (Nat.cast_nonneg _) hpos.le
  have hhigh : (part : Rat) / total ≤ 1 := (div_le_one₀ hpos).mpr (Nat.cast_le.mpr hpart)
  exact roundHalfUp_mem (by push_cast; linarith) (by push_cast; linarith)

/-- Below two hundred parts, only the whole is rounded to 100 percent. -/
theorem percent_eq_hundred_iff {part total : Nat} (htotal : 0 < total) (hpart : part ≤ total)
    (hfew : total < 200) : percent part total = 100 ↔ part = total := by
  have hpos : (0 : Rat) < total := Nat.cast_pos.mpr htotal
  constructor
  · intro hfull
    by_contra hne
    have hmissing : (part : Rat) + 1 ≤ total := by exact_mod_cast Nat.lt_of_le_of_ne hpart hne
    have hfew' : (total : Rat) < 200 := by exact_mod_cast hfew
    -- One missing part is more than half a percent.
    have hshare : (part : Rat) / total * 100 < 99 + 1 / 2 := by
      rw [div_mul_eq_mul_div, div_lt_iff₀ hpos]
      linarith
    have hround : percent part total ≤ 99 := roundHalfUp_le.mpr (by push_cast; exact hshare)
    omega
  · rintro rfl
    have hwhole : (part : Rat) / part * 100 = ((100 : Int) : Rat) := by
      rw [div_self hpos.ne']
      norm_num
    unfold percent
    rw [hwhole, roundHalfUp_intCast]

end Dcvp.Lib
