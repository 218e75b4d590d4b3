import Mathlib.Data.List.Basic

/-!
# `Dcvp.Lib.IpAddress`: addresses and subnets

IPv4 and IPv6 addresses, their texts and the subnets of both families. A text is read as `isIP` of
`node:net` reads it: decimal octets without leading zeros, at most one `::`, an IPv4 address in the
place of the last two groups, and a zone behind `%`, which the subnets ignore.

An IPv4 address is also an IPv6 address, the mapped one (`mapped`). So every address can be
compared with the subnets of both families. `inSubnet_mapped` says that all mapped addresses are in
one subnet.
-/

set_option autoImplicit false

namespace Dcvp.Lib

/-- An address of one of the two families. -/
inductive IpAddress where
  | v4 (bits : BitVec 32)
  | v6 (bits : BitVec 128)
  deriving DecidableEq

namespace IpAddress

/-! ### Texts -/

/-- The value of digits in a radix, which are all below it. -/
def readRadix (radix : Nat) (text : List Char) : Option Nat :=
  text.foldlM (fun value c =>
    let digit :=
      if '0' ≤ c ∧ c ≤ '9' then c.toNat - '0'.toNat
      else if 'a' ≤ c ∧ c ≤ 'f' then c.toNat - 'a'.toNat + 10
      else if 'A' ≤ c ∧ c ≤ 'F' then c.toNat - 'A'.toNat + 10
      else radix
    if digit < radix then some (value * radix + digit) else none) 0

/-- A decimal number up to 255 without a leading zero. -/
def readOctet (text : List Char) : Option Nat :=
  if text = [] ∨ 3 < text.length ∨ (1 < text.length ∧ text.head? = some '0') then none
  else (readRadix 10 text).filter (· < 256)

/-- Four octets between dots. -/
def readV4 (text : List Char) : Option (BitVec 32) :=
  match text.splitOn '.' with
  | [a, b, c, d] => do
      let a ← readOctet a
      let b ← readOctet b
      let c ← readOctet c
      let d ← readOctet d
      some (.ofNat 32 (((a * 256 + b) * 256 + c) * 256 + d))
  | _ => none

/-- One to four hexadecimal digits. -/
def readGroup (text : List Char) : Option Nat :=
  if text = [] ∨ 4 < text.length then none else readRadix 16 text

/-- The groups in front of `::`. -/
def readGroups (text : List Char) : Option (List Nat) :=
  if text = [] then some [] else (text.splitOn ':').mapM readGroup

/-- The groups at the end, where an IPv4 address stands for two of them. -/
def readLastGroups (text : List Char) : Option (List Nat) :=
  if text = [] then some []
  else
    let parts := text.splitOn ':'
    match parts.getLast?.bind readV4 with
    | some bits => do
        let groups ← parts.dropLast.mapM readGroup
        some (groups ++ [bits.toNat / 65536, bits.toNat % 65536])
    | none => parts.mapM readGroup

/-- The text before and behind the first `::`. -/
def cutZeros : List Char → Option (List Char × List Char)
  | ':' :: ':' :: rest => some ([], rest)
  | c :: rest => (cutZeros rest).map fun (left, right) => (c :: left, right)
  | [] => none

/-- Eight groups, where `::` stands for at least one. -/
def readV6Groups (text : List Char) : Option (List Nat) :=
  match cutZeros text with
  | none => (readLastGroups text).filter (·.length = 8)
  | some (left, right) => do
      let left ← readGroups left
      let right ← readLastGroups right
      if left.length + right.length < 8 then
        some (left ++ List.replicate (8 - left.length - right.length) 0 ++ right)
      else none

/-- The characters of a zone. -/
def isZoneChar (c : Char) : Bool :=
  c.isAlphanum || decide (c = '-') || decide (c = '.') || decide (c = ':')

/-- Groups with a zone behind `%`. -/
def readV6 (text : List Char) : Option (BitVec 128) :=
  let (groups, zone) := text.span fun c => decide (c ≠ '%')
  if zone = [] ∨ (1 < zone.length ∧ zone.tail.all isZoneChar = true) then
    (readV6Groups groups).map fun groups =>
      .ofNat 128 (groups.foldl (fun value group => value * 65536 + group) 0)
  else none

/-- The address that a text denotes, if it denotes one. -/
def read (text : String) : Option IpAddress :=
  match readV4 text.toList with
  | some bits => some (.v4 bits)
  | none => (readV6 text.toList).map .v6

example : read "192.168.0.1" = some (.v4 0xC0A80001) := by decide +kernel
example : read "::ffff:10.0.0.1" = some (.v6 0xFFFF0A000001) := by decide +kernel
example : read "1:2:3:4:5:6:7:8::" = none := by decide +kernel

/-! ### Subnets -/

/-- The IPv6 address of an IPv4 address. -/
def mapped (bits : BitVec 32) : BitVec 128 := .ofNat 128 (0xFFFF00000000 + bits.toNat)

end IpAddress

/-- A network and the number of its leading bits. -/
structure Subnet where
  network : IpAddress
  bits : Nat
  deriving DecidableEq

/-- The leading bits agree. An IPv4 address is compared with an IPv6 network as a mapped address,
and a mapped address with an IPv4 network as an IPv4 address. -/
def IpAddress.inSubnet (address : IpAddress) (subnet : Subnet) : Bool :=
  match address, subnet.network with
  | .v4 address, .v4 network =>
      decide (address >>> (32 - subnet.bits) = network >>> (32 - subnet.bits))
  | .v6 address, .v6 network =>
      decide (address >>> (128 - subnet.bits) = network >>> (128 - subnet.bits))
  | .v4 address, .v6 network =>
      decide (mapped address >>> (128 - subnet.bits) = network >>> (128 - subnet.bits))
  | .v6 address, .v4 network =>
      decide (address = mapped (address.setWidth 32)) &&
        decide (address.setWidth 32 >>> (32 - subnet.bits) = network >>> (32 - subnet.bits))

/-- Every IPv4 address is in the subnet of the mapped addresses. -/
theorem IpAddress.inSubnet_mapped (address : BitVec 32) :
    (IpAddress.v4 address).inSubnet ⟨.v6 0xFFFF00000000, 96⟩ = true := by
  have hlt := address.isLt
  have hnetwork : (0xFFFF00000000 : BitVec 128).toNat = 0xFFFF * 2 ^ 32 := rfl
  refine decide_eq_true (BitVec.eq_of_toNat_eq ?_)
  simp only [mapped, BitVec.toNat_ushiftRight, BitVec.toNat_ofNat, Nat.shiftRight_eq_div_pow,
    hnetwork]
  omega

end Dcvp.Lib
