import Dcvp.Js
import Mathlib.Data.List.Basic

/-!
# `Dcvp.Js.Number`: `Number(text)`

The conversion of a string to a number. White space around the literal is removed, and an empty
literal is 0. A literal with a radix is `0b`, `0o` or `0x` and digits, without a sign. A decimal
literal may have a sign, a fraction and an exponent.

The value of the literal is rounded to the nearest double, to the even one of two. The answer is
`none` for `NaN` and for the infinities. Whether a zero is negative is left out.
-/

set_option autoImplicit false

namespace Dcvp.Js

/-! ### Doubles -/

/-- `2 ^ e`. -/
def twoPow (e : Int) : Rat :=
  if 0 ≤ e then ((2 ^ e.toNat : Nat) : Rat) else 1 / ((2 ^ (-e).toNat : Nat) : Rat)

/-- The largest `e` with `2 ^ e ≤ x`, for a positive `x`. -/
def floorLog2 (x : Rat) : Int :=
  let e : Int := Nat.log2 x.num.natAbs - Nat.log2 x.den
  if x < twoPow e then e - 1 else e

/-- The nearest integer, the even one of two. -/
def roundHalfEven (x : Rat) : Int :=
  let below := x.floor
  let rest := x - below
  if rest < 1 / 2 then below
  else if 1 / 2 < rest then below + 1
  else if below % 2 = 0 then below else below + 1

/-- The double nearest to a positive number, or `none` for `Infinity`. The last bit of the
significand counts `2 ^ e`. -/
def toDouble (x : Rat) : Option Rat :=
  let e := max (floorLog2 x - 52) (-1074)
  let double := roundHalfEven (x / twoPow e) * twoPow e
  if double < twoPow 1024 then some double else none

/-! ### Literals -/

/-- The value of a digit. Letters are the digits from ten on. -/
def digitValue (c : Char) : Option Nat :=
  if '0' ≤ c ∧ c ≤ '9' then some (c.toNat - '0'.toNat)
  else if 'a' ≤ c ∧ c ≤ 'z' then some (c.toNat - 'a'.toNat + 10)
  else if 'A' ≤ c ∧ c ≤ 'Z' then some (c.toNat - 'A'.toNat + 10)
  else none

/-- The value of one or more digits. -/
def readDigits (radix : Nat) (text : List Char) : Option Nat :=
  if text = [] then none
  else text.foldlM (fun value c =>
    ((digitValue c).filter (· < radix)).map fun digit => value * radix + digit) 0

/-- A literal without its sign, and whether it is negative. -/
def readSign : List Char → Bool × List Char
  | '-' :: rest => (true, rest)
  | '+' :: rest => (false, rest)
  | text => (false, text)

/-- The exponent behind `e` or `E`, if there is one. -/
def readExponent : List Char → Option Int
  | [] => some 0
  | _ :: text =>
      let (negative, digits) := readSign text
      (readDigits 10 digits).map fun value => if negative then -(value : Int) else value

/-- A decimal literal without a sign: digits with a dot before, between or behind them, and an
exponent. -/
def readDecimal (text : List Char) : Option Rat := do
  let (significand, exponentPart) := text.span fun c => decide (c ≠ 'e' ∧ c ≠ 'E')
  let (whole, fractionPart) := significand.span fun c => decide (c ≠ '.')
  let fraction := fractionPart.drop 1
  let value ← readDigits 10 (whole ++ fraction)
  let exponent ← readExponent exponentPart
  let scale : Int := exponent - fraction.length
  if 0 ≤ scale then some (value * (10 ^ scale.toNat : Nat))
  else some (value / (10 ^ (-scale).toNat : Nat))

/-- The exact value of a literal that is not empty, with its sign. -/
def readLiteral (text : List Char) : Option (Bool × Rat) :=
  let radixed (radix : Nat) (digits : List Char) :=
    (readDigits radix digits).map fun value => (false, (value : Rat))
  match text with
  | '0' :: 'b' :: digits | '0' :: 'B' :: digits => radixed 2 digits
  | '0' :: 'o' :: digits | '0' :: 'O' :: digits => radixed 8 digits
  | '0' :: 'x' :: digits | '0' :: 'X' :: digits => radixed 16 digits
  | text =>
      let (negative, digits) := readSign text
      (readDecimal digits).map fun value => (negative, value)

/-- `Number(text)`. -/
def number (text : String) : Option Rat :=
  match (trim text).toList with
  | [] => some 0
  | literal => do
      let (negative, value) ← readLiteral literal
      let double ← if value = 0 then some 0 else toDouble value
      some (if negative then -double else double)

example : number " 3.1e5 " = some 310000 := by decide +kernel
example : number "9999.9999999999999999" = some 10000 := by decide +kernel
example : number "310_000" = none := by decide +kernel

/-- `Number.isInteger(value)`. -/
def isInteger (value : Rat) : Bool := decide (value.den = 1)

end Dcvp.Js
