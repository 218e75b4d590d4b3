import Mathlib.Data.List.Basic

/-!
# `Dcvp.Lib.Agreement`: lists that agree at some positions

Two lists of one length may differ, but not at the positions of `P`. This is the relation of a
statement about two runs: what a function shows of its argument is the same for both lists.

A function that shows a part of its argument shows the same part of both when `P` covers
it (`AgreeAt.take_eq`). `AgreeAt.drop_eq_iff` says when this holds for an end that `P` does not
cover.
-/

set_option autoImplicit false

namespace Dcvp.Lib

variable {α : Type} {P Q : Nat → Prop} {xs ys : List α} {n : Nat}

/-- The lists have the same length, and the same entries at the positions of `P`. -/
structure AgreeAt (P : Nat → Prop) (xs ys : List α) : Prop where
  length_eq : xs.length = ys.length
  get_eq : ∀ i, P i → xs[i]? = ys[i]?

/-- Only positions within the lists have to be compared. -/
theorem agreeAt_iff : AgreeAt P xs ys ↔
    xs.length = ys.length ∧ ∀ i < xs.length, P i → xs[i]? = ys[i]? := by
  constructor
  · rintro ⟨hlength, hget⟩
    exact ⟨hlength, fun i _ hi => hget i hi⟩
  · rintro ⟨hlength, hget⟩
    refine ⟨hlength, fun i hi => ?_⟩
    by_cases hlt : i < xs.length
    · exact hget i hlt hi
    · rw [List.getElem?_eq_none (by omega), List.getElem?_eq_none (by omega)]

instance [DecidableEq α] [DecidablePred P] : Decidable (AgreeAt P xs ys) :=
  decidable_of_iff _ agreeAt_iff.symm

namespace AgreeAt

/-- A beginning at which the lists agree. -/
theorem take_eq (h : AgreeAt P xs ys) (hn : ∀ i < n, P i) : xs.take n = ys.take n := by
  apply List.ext_getElem?
  intro i
  rw [List.getElem?_take, List.getElem?_take]
  split
  · exact h.get_eq i (hn i ‹_›)
  · rfl

/-- The ends are equal when the lists agree at the positions that `P` leaves open. -/
theorem drop_eq_iff (h : AgreeAt P xs ys) :
    xs.drop n = ys.drop n ↔ ∀ i, n ≤ i → ¬ P i → xs[i]? = ys[i]? := by
  constructor
  · intro heq i hi _
    have hsame := congrArg (·[i - n]?) heq
    simp only [List.getElem?_drop] at hsame
    rwa [Nat.add_sub_cancel' hi] at hsame
  · intro hopen
    apply List.ext_getElem?
    intro i
    rw [List.getElem?_drop, List.getElem?_drop]
    by_cases hP : P (n + i)
    · exact h.get_eq _ hP
    · exact hopen _ (Nat.le_add_right n i) hP

/-- An end at which the lists agree. -/
theorem drop_eq (h : AgreeAt P xs ys) (hn : ∀ i, n ≤ i → P i) : xs.drop n = ys.drop n :=
  h.drop_eq_iff.mpr fun i hi hP => absurd (hn i hi) hP

end AgreeAt

end Dcvp.Lib
