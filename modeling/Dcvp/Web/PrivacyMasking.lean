import Dcvp.Js.Units

/-!
# `Dcvp.Web.PrivacyMasking`: masked identifiers

The functions of `apps/web/src/privacyMasking.ts`. They work on code units, as the source does.
Only `maskNamePart` looks at code points.

`hyphenated` is the last `replace` of `maskCardNumber`. Its pattern `(.{4})(?=.)` takes four
characters that another one follows. The text has digits and asterisks only, so each of them
matches the dot.
-/

set_option autoImplicit false

namespace Dcvp.Web

open Dcvp.Js

/-- `"*".repeat(n)`, in UTF-16 units. -/
def stars (n : Nat) : Units := List.replicate n (unit '*')

/-- `value.replace(/\D/gu, "")`: only the digits `0` to `9` are kept. -/
def digitsOf (value : Units) : Units := value.filter isDigitUnit

/-- `maskNamePart`: the first code point, stars, and the last one of three or more. -/
def maskNamePart (value : Units) : Units :=
  match codePoints value with
  | [] => []
  | [first] | [first, _] => first ++ stars 1
  | first :: second :: third :: rest =>
      first ++ stars ((first :: second :: third :: rest).length - 2)
        ++ (third :: rest).getLast (List.cons_ne_nil _ _)

/-- `maskDisplayName`. The pattern of `split` is a run of white space, and the empty fields that a
single unit leaves are dropped with `filter(Boolean)`. -/
def maskDisplayName (value : Units) : Units :=
  join ((((trimUnits value).splitOnP isWhiteSpaceUnit).filter (· ≠ [])).map maskNamePart) (unit ' ')

/-- `maskEmailAddress`: two units of the local part, stars, and the whole domain. -/
def maskEmailAddress (value : Units) : Units :=
  let separator := lastIndexOf value (unit '@')
  if separator ≤ 0 then maskNamePart value
  else
    let localPart := slice value 0 separator
    let domain := sliceFrom value (separator + 1)
    let visibleLength := min 2 localPart.length
    slice localPart 0 visibleLength ++ stars (max 1 (localPart.length - visibleLength)) ++
      unit '@' :: domain

/-- `maskPhoneNumber`: the first three digits and the last four, with stars between them. -/
def maskPhoneNumber (value : Units) : Units :=
  let digits := digitsOf value
  if digits.length < 7 then stars (max 1 digits.length)
  else
    slice digits 0 3 ++ unit '-' :: stars (max 3 (digits.length - 7)) ++
      unit '-' :: sliceFrom digits (-4)

/-- `maskResidentRegistrationNumber`: the first six digits, and seven stars. -/
def maskResidentRegistrationNumber (value : Units) : Units :=
  let digits := digitsOf value
  if 6 ≤ digits.length then slice digits 0 6 ++ units "-*******" else units "******-*******"

/-- `masked.replace(/(.{4})(?=.)/gu, "$1-")`: a hyphen after each four units but the last. -/
def hyphenated : Units → Units
  | a :: b :: c :: d :: e :: rest => a :: b :: c :: d :: unit '-' :: hyphenated (e :: rest)
  | masked => masked

/-- `maskCardNumber`: the first six digits and the last four, with stars between them. -/
def maskCardNumber (value : Units) : Units :=
  let digits := digitsOf value
  if digits.length < 10 then units "****-****-****-****"
  else
    hyphenated (slice digits 0 6 ++ stars (digits.length - 10) ++ sliceFrom digits (-4))

/-- `maskAddress`: each digit is a star, and everything else is shown. -/
def maskAddress (value : Units) : Units :=
  value.map fun u => if isDigitUnit u then unit '*' else u

/-- `maskIpAddress`: the third part of four, or the last part between colons, is hidden. -/
def maskIpAddress (value : Units) : Units :=
  match split value (unit '.') with
  | [first, second, _, fourth] =>
      first ++ unit '.' :: second ++ unit '.' :: stars 3 ++ unit '.' :: fourth
  | _ =>
      let ipv6Parts := split value (unit ':')
      if 2 < ipv6Parts.length then join (slice ipv6Parts 0 (-1) ++ [stars 4]) (unit ':')
      else stars 3

example : maskDisplayName (units "김민수") = units "김*수" := by decide +kernel

example : maskCardNumber (units "4558123456780116") = units "4558-12**-****-0116" := by
  decide +kernel

end Dcvp.Web
