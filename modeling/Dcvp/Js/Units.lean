import Dcvp.Js

/-!
# `Dcvp.Js.Units`: strings as UTF-16 code units

A string of ECMAScript is a sequence of code units, and a slice can cut a pair of surrogates in
two. `Units` is such a sequence. `slice` is the method of strings and of arrays, and a negative
argument counts from the end. `split` and `join` are for separators of one unit.
-/

set_option autoImplicit false

namespace Dcvp.Js

/-- A JavaScript string as its UTF-16 code units, for the functions that cut strings or count their
length. Lone surrogates are possible here, unlike in `String`. -/
abbrev Units := List UInt16

/-- The code unit of a character below U+10000. -/
def unit (c : Char) : UInt16 := c.toNat.toUInt16

/-- The code units of a text. -/
def units (s : String) : Units :=
  s.toList.flatMap fun c =>
    if c.toNat < 0x10000 then [unit c]
    else
      [(0xD800 + (c.toNat - 0x10000) / 0x400).toUInt16,
        (0xDC00 + (c.toNat - 0x10000) % 0x400).toUInt16]

/-- `Array.from` of a string: its code points, where a surrogate without its partner is one of its
own. -/
def codePoints : Units → List Units
  | high :: low :: rest =>
      if (0xD800 ≤ high ∧ high < 0xDC00) ∧ (0xDC00 ≤ low ∧ low < 0xE000) then
        [high, low] :: codePoints rest
      else [high] :: codePoints (low :: rest)
  | [single] => [[single]]
  | [] => []

/-- `\d`. -/
def isDigitUnit (u : UInt16) : Bool := decide (0x30 ≤ u ∧ u ≤ 0x39)

/-- `\s`. -/
def isWhiteSpaceUnit (u : UInt16) : Bool := isWhiteSpace (Char.ofNat u.toNat)

/-- `String.prototype.trim`. -/
def trimUnits (value : Units) : Units :=
  ((value.dropWhile isWhiteSpaceUnit).reverse.dropWhile isWhiteSpaceUnit).reverse

/-- `String.prototype.lastIndexOf` for a string of one unit. -/
def lastIndexOf (value : Units) (u : UInt16) : Int :=
  if u ∈ value then (value.length : Int) - 1 - value.reverse.idxOf u else -1

/-- `String.prototype.split` for a separator of one unit. -/
def split (value : Units) (separator : UInt16) : List Units := value.splitOn separator

/-- `Array.prototype.join` for a separator of one unit. -/
def join (parts : List Units) (separator : UInt16) : Units := [separator].intercalate parts

section
variable {α : Type}

/-- The index that an argument of `slice` stands for. -/
def sliceIndex (length : Nat) (i : Int) : Nat :=
  if i < 0 then (length + i).toNat else min i.toNat length

/-- `slice(start, end)`. -/
def slice (xs : List α) (start stop : Int) : List α :=
  (xs.take (sliceIndex xs.length stop)).drop (sliceIndex xs.length start)

/-- `slice(start)`. -/
def sliceFrom (xs : List α) (start : Int) : List α := xs.drop (sliceIndex xs.length start)

/-- An index that is not negative counts from the start, and stops at the end. -/
theorem sliceIndex_natCast (length n : Nat) : sliceIndex length n = min n length := by
  rw [sliceIndex, if_neg (by omega), Int.toNat_natCast]

/-- The index 0 is the start. -/
theorem sliceIndex_zero (length : Nat) : sliceIndex length 0 = 0 := by
  simpa using sliceIndex_natCast length 0

/-- A negative index counts from the end, and stops at the start. -/
theorem sliceIndex_neg (length : Nat) {n : Nat} (hn : 0 < n) :
    sliceIndex length (-(n : Int)) = length - n := by
  rw [sliceIndex, if_pos (by omega)]
  omega

/-- `slice(0, n)` has the first `n` entries. -/
theorem slice_zero (xs : List α) (n : Nat) : slice xs 0 n = xs.take n := by
  rw [slice, sliceIndex_zero, sliceIndex_natCast, List.drop_zero, ← List.take_eq_take_min]

/-- All entries but the last. -/
theorem slice_zero_neg_one (xs : List α) : slice xs 0 (-1) = xs.dropLast := by
  have hstop : sliceIndex xs.length (-1) = xs.length - 1 := sliceIndex_neg xs.length Nat.one_pos
  rw [slice, sliceIndex_zero, hstop, List.drop_zero, List.dropLast_eq_take]

/-- `slice(n)` has the entries behind the first `n`. -/
theorem sliceFrom_natCast (xs : List α) (n : Nat) : sliceFrom xs n = xs.drop n := by
  rw [sliceFrom, sliceIndex_natCast]
  rcases Nat.le_total n xs.length with hle | hle
  · rw [Nat.min_eq_left hle]
  · rw [Nat.min_eq_right hle, List.drop_length, List.drop_eq_nil_of_le hle]

/-- The last `n` entries. -/
theorem sliceFrom_neg (xs : List α) {n : Nat} (hn : 0 < n) :
    sliceFrom xs (-(n : Int)) = xs.drop (xs.length - n) := by
  rw [sliceFrom, sliceIndex_neg xs.length hn]

end

/-- The fields of a text do not contain the separator at which it is split. By induction on the
text: each unit ends a field or joins the first one. -/
theorem notMem_of_mem_split {value field : Units} {separator : UInt16}
    (h : field ∈ split value separator) : separator ∉ field := by
  induction value generalizing field with
  | nil =>
      rw [split, List.splitOn_nil, List.mem_singleton] at h
      simp [h]
  | cons u value ih =>
      rw [split, List.splitOn_cons_eq_if_modifyHead] at h
      split at h
      · rcases List.mem_cons.mp h with rfl | hrest
        · exact List.not_mem_nil
        · exact ih hrest
      · rename_i hne
        cases hfields : value.splitOn separator with
        | nil => exact absurd hfields (List.splitOn_ne_nil separator value)
        | cons first rest =>
            rw [hfields] at h
            rcases List.mem_cons.mp h with rfl | hrest
            · have hfirst : separator ∉ first := ih (by rw [split, hfields]; exact List.mem_cons_self)
              simp only [List.mem_cons, not_or]
              exact ⟨fun heq => hne (by simp [heq]), hfirst⟩
            · exact ih (by rw [split, hfields]; exact List.mem_cons_of_mem _ hrest)

/-- What is joined can be split again. -/
theorem split_join {parts : List Units} {separator : UInt16}
    (hplain : ∀ part ∈ parts, separator ∉ part) (hne : parts ≠ []) :
    split (join parts separator) separator = parts :=
  List.splitOn_intercalate separator hplain hne

/-- A joined text has the units of its fields and the separator. -/
theorem mem_join {parts : List Units} {separator u : UInt16} (h : u ∈ join parts separator) :
    u = separator ∨ ∃ part ∈ parts, u ∈ part := by
  induction parts with
  | nil => exact absurd h List.not_mem_nil
  | cons part parts ih =>
      cases parts with
      | nil =>
          rw [join, List.intercalate_singleton] at h
          exact Or.inr ⟨part, List.mem_cons_self, h⟩
      | cons next parts =>
          rw [join, List.intercalate_cons_cons, List.mem_append, List.mem_append] at h
          rcases h with (hpart | hseparator) | hrest
          · exact Or.inr ⟨part, List.mem_cons_self, hpart⟩
          · exact Or.inl (List.mem_singleton.mp hseparator)
          · rcases ih hrest with heq | ⟨other, hother, hu⟩
            · exact Or.inl heq
            · exact Or.inr ⟨other, List.mem_cons_of_mem part hother, hu⟩

/-- The last separator stands between two fields, of which the second does not contain it. -/
theorem lastIndexOf_append {a b : Units} {u : UInt16} (hb : u ∉ b) :
    lastIndexOf (a ++ u :: b) u = a.length := by
  have hidx : (a ++ u :: b).reverse.idxOf u = b.length := by
    rw [List.reverse_append, List.reverse_cons, List.append_assoc,
      List.idxOf_append_of_notMem (by simpa using hb)]
    simp
  unfold lastIndexOf
  rw [if_pos (by simp), hidx]
  simp only [List.length_append, List.length_cons]
  omega

end Dcvp.Js
