import Mathlib.Data.List.Sort

/-!
# `Dcvp.Lib.StableSort`: a sort and a selection commute

An insertion sort is stable: it keeps the order of elements that it may put either way. So it
makes no difference whether the elements that satisfy `p` are selected before or after the sort
(`filter_insertionSort`). The first one of them is the same (`head?_insertionSort_filter`).
Where the order leaves no choice, it does not matter which sort it is
(`mergeSort_eq_insertionSort_of_perm`).
-/

set_option autoImplicit false

namespace Dcvp.Lib

variable {α : Type} (r : α → α → Prop) [DecidableRel r]

/-- An element that comes before all others is inserted in front. -/
theorem orderedInsert_of_forall {a : α} {l : List α} (h : ∀ b ∈ l, r a b) :
    l.orderedInsert r a = a :: l := by
  cases l with
  | nil => rfl
  | cons b l => exact List.orderedInsert_cons_of_le r l (h b List.mem_cons_self)

/-- An insertion into a sorted list, and then a selection, is the selection first and then the
insertion, of an element that is selected itself. -/
theorem filter_orderedInsert [IsTrans α r] (p : α → Bool) (a : α) {l : List α}
    (hl : l.Pairwise r) :
    (l.orderedInsert r a).filter p
      = if p a then (l.filter p).orderedInsert r a else l.filter p := by
  induction l with
  | nil => by_cases hp : p a <;> simp [hp]
  | cons b l ih =>
      obtain ⟨hb, hl⟩ := List.pairwise_cons.mp hl
      by_cases hab : r a b
      · -- Everything in the list comes behind `a`, also what is selected of it.
        have hall : ∀ c ∈ (b :: l).filter p, r a c := by
          intro c hc
          rcases List.mem_cons.mp (List.mem_of_mem_filter hc) with rfl | hmem
          · exact hab
          · exact IsTrans.trans a b c hab (hb c hmem)
        rw [List.orderedInsert_cons_of_le r l hab, orderedInsert_of_forall r hall]
        by_cases hp : p a <;> simp [hp]
      · rw [List.orderedInsert_of_not_le r l hab]
        by_cases hpb : p b
        · rw [List.filter_cons_of_pos hpb, List.filter_cons_of_pos hpb, ih hl]
          by_cases hp : p a
          · simp only [hp, if_true]
            exact (List.orderedInsert_of_not_le r _ hab).symm
          · simp only [hp, Bool.false_eq_true, if_false]
        · rw [List.filter_cons_of_neg hpb, List.filter_cons_of_neg hpb, ih hl]

variable [IsTrans α r] [Std.Total r]

/-- A sort, and then a selection. -/
theorem filter_insertionSort (p : α → Bool) (l : List α) :
    (l.insertionSort r).filter p = (l.filter p).insertionSort r := by
  induction l with
  | nil => rfl
  | cons a l ih =>
      rw [List.insertionSort_cons, filter_orderedInsert r p a (List.pairwise_insertionSort r l), ih]
      by_cases hp : p a <;> simp [hp]

/-- The first one of the selected elements. -/
theorem head?_insertionSort_filter (p : α → Bool) (l : List α) :
    ((l.filter p).insertionSort r).head? = (l.insertionSort r).find? p := by
  rw [← filter_insertionSort, List.head?_filter]

/-- The first element of a sorted list comes before all others. -/
theorem rel_of_head?_insertionSort {l : List α} {a : α}
    (h : (l.insertionSort r).head? = some a) : a ∈ l ∧ ∀ b ∈ l, r a b := by
  obtain ⟨rest, hsort⟩ := List.head?_eq_some_iff.mp h
  have hsorted := List.pairwise_insertionSort r l
  have hmem : ∀ b, b ∈ l ↔ b ∈ a :: rest := fun b => by
    rw [← hsort]
    exact (List.mem_insertionSort r).symm
  rw [hsort] at hsorted
  refine ⟨(hmem a).mpr List.mem_cons_self, fun b hb => ?_⟩
  rcases List.mem_cons.mp ((hmem b).mp hb) with rfl | hrest
  · exact (or_self_iff.mp (Std.Total.total b b))
  · exact (List.pairwise_cons.mp hsorted).1 b hrest

/-- Two sorts of the same elements agree, when no two of them may be put either way. -/
theorem mergeSort_eq_insertionSort_of_perm {l l' : List α} (hperm : l.Perm l')
    (hdistinct : ∀ a ∈ l, ∀ b ∈ l, r a b → r b a → a = b) :
    l.mergeSort (r · ·) = l'.insertionSort r := by
  refine List.Perm.eq_of_pairwise (fun a b ha hb => ?_) (List.pairwise_mergeSort' r l)
    (List.pairwise_insertionSort r l')
    ((List.mergeSort_perm l _).trans (hperm.trans (List.perm_insertionSort r l').symm))
  have hb' : b ∈ l := hperm.mem_iff.mpr ((List.mem_insertionSort r).mp hb)
  exact hdistinct a (List.mem_mergeSort.mp ha) b hb'

end Dcvp.Lib
