import Dcvp.Lib.Rounding
import Mathlib.Data.List.Infix
import Mathlib.Data.String.Defs

/-!
# `Dcvp.Js`: the string and date functions of ECMAScript

`trim` and `length` follow ECMAScript: `trim` removes white space and line terminators at
both ends, and `length` counts UTF-16 code units. The case mappings of Unicode are too large
to embed. They are a parameter, `CaseMapping`. Where a result depends on what they do, it says
so.

`toISOString` prints a time value in the date time format of ECMAScript. The text is in two
parts, because the proofs about printed dates need to know that it has exactly one `.`, the
one between the seconds and the milliseconds (`dot_notMem_isoSeconds`,
`dot_notMem_isoMilliseconds`).
-/

set_option autoImplicit false

namespace Dcvp.Js

/-- The code points of `WhiteSpace` and `LineTerminator`. -/
def isWhiteSpace (c : Char) : Bool :=
  let n := c.toNat
  (0x9 ≤ n && n ≤ 0xD) || n = 0x20 || n = 0xA0 || n = 0x1680 || (0x2000 ≤ n && n ≤ 0x200A) ||
    n = 0x2028 || n = 0x2029 || n = 0x202F || n = 0x205F || n = 0x3000 || n = 0xFEFF

/-- `String.prototype.trim`: white space is removed at both ends. -/
def trim (s : String) : String :=
  String.ofList (((s.toList.dropWhile isWhiteSpace).reverse.dropWhile isWhiteSpace).reverse)

/-- The property `length` of a string: a code point from U+10000 on counts twice. -/
def length (s : String) : Nat :=
  (s.toList.map fun c => if c.toNat < 0x10000 then 1 else 2).sum

/-- `slice(0, n)` of a string. A pair of surrogates that the cut would split is left out. -/
def takeUnits (s : String) (n : Nat) : String := String.ofList (go n s.toList)
where
  /-- The code points that fit into `n` code units. -/
  go : Nat → List Char → List Char
    | _, [] => []
    | n, c :: cs =>
        let units := if c.toNat < 0x10000 then 1 else 2
        if units ≤ n then c :: go (n - units) cs else []

/-- `String.prototype.includes` for a string of one character. -/
def includes (s : String) (c : Char) : Bool := s.toList.contains c

/-- `String.prototype.includes` for a string: the fragment occurs somewhere. -/
def includesText (s fragment : String) : Bool :=
  decide (fragment.toList <:+: s.toList)

/-- `replace(/\s+/g, " ")`: every run of white space becomes one blank. -/
def collapseWhiteSpace (s : String) : String :=
  String.ofList (go false s.toList)
where
  /-- The flag tells whether the last character was white space. -/
  go : Bool → List Char → List Char
    | _, [] => []
    | inside, c :: cs =>
        if isWhiteSpace c then if inside then go true cs else ' ' :: go true cs
        else c :: go false cs

/-- A string that may be missing, where the empty string counts as missing too. -/
def truthy (s : Option String) : Option String := s.filter (· ≠ "")

/-- The case mapping of the JavaScript engine: `String.prototype.toLowerCase` and `toUpperCase`. It
follows the Unicode tables of the engine's version, so it is a parameter of every function that
folds e-mail addresses or codes. -/
structure CaseMapping where
  toLowerCase : String → String
  toUpperCase : String → String

/-- `Math.round` of a number that is computed exactly. -/
def round (x : Rat) : Int := Lib.roundHalfUp x

/-! ### Dates -/

/-- A number in decimal, with leading zeros up to the given width. -/
def padded (width n : Nat) : List Char :=
  List.replicate (width - (Nat.toDigits 10 n).length) '0' ++ Nat.toDigits 10 n

/-- The year, month and day of a day number, counted from 1970-01-01. The years are shifted to
begin in March, so that the leap day comes last. -/
def civilFromDays (days : Int) : Int × Nat × Nat :=
  let z := days + 719468
  let era := z / 146097
  let dayOfEra := (z % 146097).toNat
  let yearOfEra := (dayOfEra - dayOfEra / 1460 + dayOfEra / 36524 - dayOfEra / 146096) / 365
  let dayOfYear := dayOfEra - (365 * yearOfEra + yearOfEra / 4 - yearOfEra / 100)
  let shifted := (5 * dayOfYear + 2) / 153
  let day := dayOfYear - (153 * shifted + 2) / 5 + 1
  let month := if shifted < 10 then shifted + 3 else shifted - 9
  let year := (yearOfEra : Int) + era * 400
  (if month ≤ 2 then year + 1 else year, month, day)

/-- The year of a printed date: four digits, or a sign and six digits. -/
def isoYear (year : Int) : List Char :=
  if 0 ≤ year ∧ year ≤ 9999 then padded 4 year.toNat
  else (if year < 0 then '-' else '+') :: padded 6 year.natAbs

/-- A printed date up to its seconds. -/
def isoSeconds (t : Int) : List Char :=
  let (year, month, day) := civilFromDays (t / 86400000)
  let seconds := (t % 86400000).toNat / 1000
  isoYear year ++ '-' :: padded 2 month ++ '-' :: padded 2 day ++ 'T' ::
    padded 2 (seconds / 3600) ++ ':' :: padded 2 (seconds / 60 % 60) ++ ':' ::
    padded 2 (seconds % 60)

/-- A printed date from its milliseconds on. -/
def isoMilliseconds (t : Int) : List Char := padded 3 (t % 1000).toNat ++ ['Z']

/-- `Date.prototype.toISOString`: the date and the time with three digits of milliseconds. -/
def toISOString (t : Int) : String := String.ofList (isoSeconds t ++ '.' :: isoMilliseconds t)

/-- `TimeClip`: the time value of `new Date(t)`, without its fraction, or `none` for an invalid
date. -/
def timeClip (t : Rat) : Option Int :=
  let whole := if 0 ≤ t then t.floor else t.ceil
  if whole.natAbs ≤ 8640000000000000 then some whole else none

example : toISOString 1784332800020 = "2026-07-18T00:00:00.020Z" := by decide +kernel

/-- A printed number has digits only. -/
theorem isDigit_of_mem_padded {width n : Nat} {c : Char} (h : c ∈ padded width n) :
    c.isDigit = true := by
  rcases List.mem_append.mp h with hzero | hdigit
  · rw [List.eq_of_mem_replicate hzero]
    rfl
  · exact Nat.isDigit_of_mem_toDigits (by decide) (by decide) hdigit

/-- A character that is not a digit does not occur in a printed number. -/
theorem notMem_padded (width n : Nat) {c : Char} (hc : c.isDigit = false) :
    c ∉ padded width n := by
  intro h
  rw [isDigit_of_mem_padded h] at hc
  cases hc

/-- A year has digits and a sign, and no dot. -/
theorem dot_notMem_isoYear (year : Int) : '.' ∉ isoYear year := by
  unfold isoYear
  split
  · exact notMem_padded _ _ rfl
  · split <;> simp [notMem_padded]

/-- Before the milliseconds there is no `.`. -/
theorem dot_notMem_isoSeconds (t : Int) : '.' ∉ isoSeconds t := by
  simp [isoSeconds, dot_notMem_isoYear, notMem_padded]

/-- Behind the seconds there is one `.`, and then no other. -/
theorem dot_notMem_isoMilliseconds (t : Int) : '.' ∉ isoMilliseconds t := by
  simp [isoMilliseconds, notMem_padded]

/-- The part behind the seconds has no bar, which separates the fields of a token. -/
theorem bar_notMem_isoMilliseconds (t : Int) : '|' ∉ isoMilliseconds t := by
  simp [isoMilliseconds, notMem_padded]

end Dcvp.Js
