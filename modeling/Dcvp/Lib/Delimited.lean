import Mathlib.Data.List.Basic
import Mathlib.Data.List.TakeWhile

/-!
# `Dcvp.Lib.Delimited`: fields joined by a separator

Fields that are joined by a separator can be read back only when the separator does not
occur in them. `split_at_first` and `split_at_last` are the cases in which it does not occur
in the first or in the last field.
`split_three` says how far the reading back goes wrong when a text of three plain fields is
read as two fields: the cut is at the first separator or at the second.

`trimmed` leaves out the padding at both ends of a text. Two kinds of padding, of which one
contains the other, can be left out one after the other or at once (`trimmed_trimmed`).
-/

set_option autoImplicit false

namespace Dcvp.Lib

variable {α : Type} {c : α}

/-- With a first field that is plain, both fields can be read back: two texts are the same only
where they are cut at the same separator. -/
theorem split_at_first {a a' b b' : List α} (ha : c ∉ a) (ha' : c ∉ a')
    (h : a ++ c :: b = a' ++ c :: b') : a = a' ∧ b = b' := by
  rcases List.append_eq_append_iff.mp h with ⟨m, rfl, hm⟩ | ⟨m, rfl, hm⟩
  · cases m with
    | nil =>
        simp only [List.nil_append, List.cons.injEq, true_and] at hm
        exact ⟨by simp, hm⟩
    | cons x xs =>
        -- The first field would contain the separator.
        obtain ⟨rfl, -⟩ := List.cons.inj hm
        exact absurd (by simp) ha'
  · cases m with
    | nil =>
        simp only [List.nil_append, List.cons.injEq, true_and] at hm
        exact ⟨by simp, hm.symm⟩
    | cons x xs =>
        obtain ⟨rfl, -⟩ := List.cons.inj hm
        exact absurd (by simp) ha

/-- With a plain last field, both fields can be read back. -/
theorem split_at_last {a a' b b' : List α} (hb : c ∉ b) (hb' : c ∉ b')
    (h : a ++ c :: b = a' ++ c :: b') : a = a' ∧ b = b' := by
  have hrev : b.reverse ++ c :: a.reverse = b'.reverse ++ c :: a'.reverse := by
    simpa using congrArg List.reverse h
  obtain ⟨hb₁, ha₁⟩ := split_at_first (by simpa using hb) (by simpa using hb') hrev
  exact ⟨List.reverse_injective ha₁, List.reverse_injective hb₁⟩

/-- Three plain fields, read as two fields: the cut is at the first or at the second
separator. -/
theorem split_three {s e i h t : List α} (hi : c ∉ i) (hh : c ∉ h) (ht : c ∉ t)
    (heq : s ++ c :: e = i ++ c :: (h ++ c :: t)) :
    (s = i ∧ e = h ++ c :: t) ∨ (s = i ++ c :: h ∧ e = t) := by
  rcases List.append_eq_append_iff.mp heq with ⟨m, rfl, hm⟩ | ⟨m, rfl, hm⟩
  · cases m with
    | nil =>
        simp only [List.nil_append, List.cons.injEq, true_and] at hm
        exact Or.inl ⟨by simp, hm⟩
    | cons x xs =>
        obtain ⟨rfl, -⟩ := List.cons.inj hm
        exact absurd (by simp) hi
  · cases m with
    | nil =>
        simp only [List.nil_append, List.cons.injEq, true_and] at hm
        exact Or.inl ⟨by simp, hm.symm⟩
    | cons x xs =>
        -- The cut is behind the first separator, so it is a cut of the last two fields.
        obtain ⟨rfl, hrest⟩ := List.cons.inj hm
        rcases List.append_eq_append_iff.mp hrest with ⟨k, rfl, hk⟩ | ⟨k, rfl, hk⟩
        · cases k with
          | nil =>
              simp only [List.nil_append, List.cons.injEq, true_and] at hk
              exact Or.inr ⟨by simp, hk.symm⟩
          | cons y ys =>
              obtain ⟨rfl, hys⟩ := List.cons.inj hk
              exact absurd (by rw [hys]; simp) ht
        · cases k with
          | nil =>
              simp only [List.nil_append, List.cons.injEq, true_and] at hk
              exact Or.inr ⟨by simp, hk⟩
          | cons y ys =>
              obtain ⟨rfl, -⟩ := List.cons.inj hk
              exact absurd (by simp) hh

/-! ### Padding -/

/-- The text without its padding, from the first to the last element that is none. -/
def trimmed (isPadding : α → Bool) (text : List α) : List α :=
  ((text.dropWhile isPadding).reverse.dropWhile isPadding).reverse

section
variable {p q : α → Bool}

/-- Padding in front of a text and padding behind it make no difference. -/
theorem trimmed_append {front text back : List α} (hfront : ∀ x ∈ front, p x = true)
    (hback : ∀ x ∈ back, p x = true) : trimmed p (front ++ (text ++ back)) = trimmed p text := by
  have hbackward : ∀ x ∈ back.reverse, p x = true := fun x hx => hback x (List.mem_reverse.mp hx)
  unfold trimmed
  rw [List.dropWhile_append_of_pos hfront, List.dropWhile_append]
  split
  · -- Nothing is left of the text, and so nothing is left of the whole.
    rename_i hnone
    rw [List.isEmpty_iff.mp hnone, List.dropWhile_eq_nil_iff.mpr hback]
  · rw [List.reverse_append, List.dropWhile_append_of_pos hbackward]

/-- A text is what is left of it, with padding in front of it and behind it. -/
theorem exists_eq_trimmed (p : α → Bool) (text : List α) :
    ∃ front back, text = front ++ (trimmed p text ++ back) ∧ (∀ x ∈ front, p x = true) ∧
      ∀ x ∈ back, p x = true := by
  refine ⟨text.takeWhile p, ((text.dropWhile p).reverse.takeWhile p).reverse, ?_,
    fun x hx => List.mem_takeWhile_imp hx,
    fun x hx => List.mem_takeWhile_imp (List.mem_reverse.mp hx)⟩
  have hback : trimmed p text ++ ((text.dropWhile p).reverse.takeWhile p).reverse =
      text.dropWhile p := by
    unfold trimmed
    rw [← List.reverse_append, List.takeWhile_append_dropWhile, List.reverse_reverse]
  rw [hback, List.takeWhile_append_dropWhile]

/-- Who leaves out more padding does not see that some of it was left out before. -/
theorem trimmed_trimmed (hle : ∀ x, p x = true → q x = true) (text : List α) :
    trimmed q (trimmed p text) = trimmed q text := by
  obtain ⟨front, back, htext, hfront, hback⟩ := exists_eq_trimmed p text
  conv_rhs => rw [htext]
  exact (trimmed_append (fun x hx => hle x (hfront x hx)) fun x hx => hle x (hback x hx)).symm

end

end Dcvp.Lib
