import Mathlib.Data.List.Basic
import Mathlib.Data.List.TakeWhile

/-!
# `Dcvp.Lib.BinaryText`: bytes as text

Two ways to print bytes: hexadecimal digits, two for a byte, and the URL-safe alphabet of
Base64 without padding, four characters for three bytes.

Base64 goes through sextets. `unsextets_sextets` is the round trip of the bytes, and
`decodeBase64_encodeBase64` adds the alphabet.

The reader takes more than the writer makes. It looks at the low byte of each code unit, takes the
two characters of the other alphabet as well, skips what is in neither of them, and stops at the
first `=`.
-/

set_option autoImplicit false

namespace Dcvp.Lib

/-! ### Sextets -/

/-- Three bytes are four sextets. A rest of one or two bytes is two or three. -/
def sextets : List UInt8 → List Nat
  | a :: b :: c :: rest =>
      a.toNat / 4 :: (a.toNat % 4 * 16 + b.toNat / 16) :: (b.toNat % 16 * 4 + c.toNat / 64) ::
        c.toNat % 64 :: sextets rest
  | [a, b] => [a.toNat / 4, a.toNat % 4 * 16 + b.toNat / 16, b.toNat % 16 * 4]
  | [a] => [a.toNat / 4, a.toNat % 4 * 16]
  | [] => []

/-- The bytes of sextets. A single sextet at the end is no byte. -/
def unsextets : List Nat → List UInt8
  | p :: q :: r :: s :: rest =>
      .ofNat (p * 4 + q / 16) :: .ofNat (q % 16 * 16 + r / 4) :: .ofNat (r % 4 * 64 + s) ::
        unsextets rest
  | [p, q, r] => [.ofNat (p * 4 + q / 16), .ofNat (q % 16 * 16 + r / 4)]
  | [p, q] => [.ofNat (p * 4 + q / 16)]
  | _ => []

/-- A byte from its value. -/
theorem ofNat_of_eq_toNat {n : Nat} (byte : UInt8) (h : n = byte.toNat) : UInt8.ofNat n = byte := by
  rw [h, UInt8.ofNat_toNat]

/-- Cutting bytes into groups of six bits loses nothing: the groups put together again are the
bytes. By the recursion of `sextets`, which takes three bytes to four groups; the one or two bytes
at the end have two or three groups. -/
theorem unsextets_sextets (bytes : List UInt8) : unsextets (sextets bytes) = bytes := by
  induction bytes using sextets.induct with
  | case1 a b c rest ih =>
      have ha := a.toNat_lt
      have hb := b.toNat_lt
      have hc := c.toNat_lt
      simp only [sextets, unsextets, ih]
      rw [ofNat_of_eq_toNat a (by omega), ofNat_of_eq_toNat b (by omega),
        ofNat_of_eq_toNat c (by omega)]
  | case2 a b =>
      have ha := a.toNat_lt
      have hb := b.toNat_lt
      simp only [sextets, unsextets]
      rw [ofNat_of_eq_toNat a (by omega), ofNat_of_eq_toNat b (by omega)]
  | case3 a =>
      have ha := a.toNat_lt
      simp only [sextets, unsextets]
      rw [ofNat_of_eq_toNat a (by omega)]
  | case4 => rfl

/-- A group of six bits is a digit of base 64, so that it has a character. -/
theorem sextet_lt {bytes : List UInt8} {n : Nat} (h : n ∈ sextets bytes) : n < 64 := by
  induction bytes using sextets.induct with
  | case1 a b c rest ih =>
      have ha := a.toNat_lt
      have hb := b.toNat_lt
      have hc := c.toNat_lt
      simp only [sextets, List.mem_cons] at h
      rcases h with rfl | rfl | rfl | rfl | h <;> first | omega | exact ih h
  | case2 a b =>
      have ha := a.toNat_lt
      have hb := b.toNat_lt
      simp only [sextets, List.mem_cons, List.not_mem_nil, or_false] at h
      omega
  | case3 a =>
      have ha := a.toNat_lt
      simp only [sextets, List.mem_cons, List.not_mem_nil, or_false] at h
      omega
  | case4 => simp [sextets] at h

/-- The number of digits: four for every three bytes, two or three for what is left, with no
padding. -/
theorem length_sextets (bytes : List UInt8) :
    (sextets bytes).length = (4 * bytes.length + 2) / 3 := by
  induction bytes using sextets.induct with
  | case1 a b c rest ih =>
      simp only [sextets, List.length_cons, ih]
      omega
  | case2 a b => simp [sextets]
  | case3 a => simp [sextets]
  | case4 => rfl

/-! ### The alphabet -/

/-- The character of a sextet. -/
def base64Char (n : Nat) : Char :=
  if n < 26 then Char.ofNat ('A'.toNat + n)
  else if n < 52 then Char.ofNat ('a'.toNat + (n - 26))
  else if n < 62 then Char.ofNat ('0'.toNat + (n - 52))
  else if n = 62 then '-' else '_'

/-- The sextet of a character, in the URL-safe or in the standard alphabet. -/
def base64Value (c : Char) : Option Nat :=
  if 'A' ≤ c ∧ c ≤ 'Z' then some (c.toNat - 'A'.toNat)
  else if 'a' ≤ c ∧ c ≤ 'z' then some (c.toNat - 'a'.toNat + 26)
  else if '0' ≤ c ∧ c ≤ '9' then some (c.toNat - '0'.toNat + 52)
  else if c = '-' ∨ c = '+' then some 62
  else if c = '_' ∨ c = '/' then some 63
  else none

/-- `toString("base64url")` of a buffer. -/
def encodeBase64 (bytes : List UInt8) : List Char := (sextets bytes).map base64Char

/-- The low bytes of the UTF-16 code units, as characters. A code point from U+10000 on has two
units, the high and the low surrogate. -/
def lowBytes (text : List Char) : List Char :=
  text.flatMap fun c =>
    if c.toNat < 0x10000 then [Char.ofNat (c.toNat % 256)]
    else [Char.ofNat ((c.toNat - 0x10000) / 1024 % 256), Char.ofNat (c.toNat % 256)]

/-- `Buffer.from(text, "base64url")`. -/
def decodeBase64 (text : List Char) : List UInt8 :=
  unsextets (((lowBytes text).takeWhile (· ≠ '=')).filterMap base64Value)

-- U+0159 has the low byte of `Y`, the full stop is skipped, and nothing behind `=` is read.
example : decodeBase64 "\u0159.WJj=ZA".toList = [97, 98, 99] := by decide +kernel

/-- Every digit is read back from its character. There are 64 of them, and each is looked at. -/
theorem base64Value_base64Char : ∀ n < 64, base64Value (base64Char n) = some n := by
  decide +kernel

/-- A character of the alphabet is its own low byte, and none of them is `=`. -/
theorem base64Char_plain : ∀ n < 64, (base64Char n).toNat < 256 ∧ base64Char n ≠ '=' := by
  decide +kernel

/-- A text whose characters are bytes is read as it stands. -/
theorem lowBytes_of_latin {text : List Char} (h : ∀ c ∈ text, c.toNat < 256) :
    lowBytes text = text := by
  induction text with
  | nil => rfl
  | cons c rest ih =>
      have hc : c.toNat < 256 := h c List.mem_cons_self
      have hunit : c.toNat < 0x10000 := by omega
      unfold lowBytes at ih ⊢
      rw [List.flatMap_cons, ih fun d hd => h d (List.mem_cons_of_mem _ hd), if_pos hunit,
        Nat.mod_eq_of_lt hc, Char.ofNat_toNat]
      rfl

/-- The round trip: what the writer prints is read back. None of the printed characters is a
padding sign, and each is its own low byte. -/
theorem decodeBase64_encodeBase64 (bytes : List UInt8) :
    decodeBase64 (encodeBase64 bytes) = bytes := by
  have hread : ((sextets bytes).map base64Char).filterMap base64Value = sextets bytes := by
    rw [List.filterMap_map]
    exact (List.filterMap_congr fun n hn => base64Value_base64Char n (sextet_lt hn)).trans
      List.filterMap_some
  have hplain : ∀ c ∈ (sextets bytes).map base64Char, c ≠ '=' := by
    intro c hc
    obtain ⟨n, hn, rfl⟩ := List.mem_map.mp hc
    exact (base64Char_plain n (sextet_lt hn)).2
  have hlow : lowBytes ((sextets bytes).map base64Char) = (sextets bytes).map base64Char := by
    refine lowBytes_of_latin fun c hc => ?_
    obtain ⟨n, hn, rfl⟩ := List.mem_map.mp hc
    exact (base64Char_plain n (sextet_lt hn)).1
  rw [decodeBase64, encodeBase64, hlow, List.takeWhile_eq_self_iff.mpr (by simpa using hplain),
    hread, unsextets_sextets]

/-- The text has one character for each group of six bits. -/
@[simp] theorem length_encodeBase64 (bytes : List UInt8) :
    (encodeBase64 bytes).length = (4 * bytes.length + 2) / 3 := by
  rw [encodeBase64, List.length_map, length_sextets]

/-- The characters are between `-` and `z`. -/
theorem between_of_mem_encodeBase64 {bytes : List UInt8} {c : Char} (h : c ∈ encodeBase64 bytes) :
    '-' ≤ c ∧ c ≤ 'z' := by
  have hchar : ∀ n < 64, '-' ≤ base64Char n ∧ base64Char n ≤ 'z' := by decide +kernel
  obtain ⟨n, hn, rfl⟩ := List.mem_map.mp h
  exact hchar n (sextet_lt hn)

/-! ### Hexadecimal digits -/

/-- The digit of a value below 16. -/
def hexChar (n : Nat) : Char :=
  if n < 10 then Char.ofNat ('0'.toNat + n) else Char.ofNat ('a'.toNat + (n - 10))

/-- `digest("hex")`. -/
def encodeHex (bytes : List UInt8) : List Char :=
  bytes.flatMap fun byte => [hexChar (byte.toNat / 16), hexChar (byte.toNat % 16)]

/-- The hexadecimal text of a list of bytes has two characters for each byte. -/
@[simp] theorem length_encodeHex (bytes : List UInt8) :
    (encodeHex bytes).length = 2 * bytes.length := by
  induction bytes with
  | nil => rfl
  | cons byte rest ih =>
      show (hexChar _ :: hexChar _ :: encodeHex rest).length = _
      simp only [List.length_cons, ih]
      omega

/-- The digits are between `0` and `f`. -/
theorem between_of_mem_encodeHex {bytes : List UInt8} {c : Char} (h : c ∈ encodeHex bytes) :
    '0' ≤ c ∧ c ≤ 'f' := by
  have hdigit : ∀ n < 16, '0' ≤ hexChar n ∧ hexChar n ≤ 'f' := by decide +kernel
  obtain ⟨byte, -, hbyte⟩ := List.mem_flatMap.mp h
  have hlt := byte.toNat_lt
  simp only [List.mem_cons, List.not_mem_nil, or_false] at hbyte
  rcases hbyte with rfl | rfl <;> exact hdigit _ (by omega)

end Dcvp.Lib
