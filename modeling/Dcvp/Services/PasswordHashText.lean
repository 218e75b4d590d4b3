import Dcvp.Js.Number
import Dcvp.Lib.BinaryText
import Dcvp.Services.AuthService

/-!
# `Dcvp.Services.PasswordHashText`: the stored form of a password

The functions `createPasswordHash`, `verifyPassword` and `passwordHashNeedsUpgrade` of
`services/password-hash.ts`, and `hashPassword` of the service `AuthService`. A stored hash is a
text of four parts between `$`, or the older form: the digits of a SHA-256 digest.

The two hash functions are those of `node:crypto`, which are the parameter `PasswordCrypto`. The
texts around them are computed: the two encodings, the split and the number of iterations.
`PasswordCrypto.hashing` gives the service these functions.
-/

set_option autoImplicit false

namespace Dcvp.Services

open Dcvp.Lib

/-- A hash of the old format is known by its length. -/
def legacySha256HexLength : Nat := 64

/-- The rounds of a new hash; a stored hash with other rounds is upgraded. -/
def pbkdf2Iterations : Nat := 310000

/-- The length of the derived key, in bytes. -/
def pbkdf2KeyLength : Nat := 32

/-- The digest that the derivation uses, with 32 bytes of output. -/
def pbkdf2Digest : String := "sha256"

/-- The first part of a stored hash. -/
def pbkdf2Scheme : String := "pbkdf2-" ++ pbkdf2Digest

/-- `pbkdf2` with the key length and the digest of the module, and `createHash("sha256")`. -/
structure PasswordCrypto where
  pbkdf2 : (password salt : String) → (iterations : Nat) → Vector UInt8 pbkdf2KeyLength
  sha256 : (text : String) → Vector UInt8 32

/-- `randomBytes(16).toString("base64url")`: the salt of a new hash. -/
def saltText (randomBytes : Vector UInt8 16) : String :=
  String.ofList (encodeBase64 randomBytes.toList)

/-- `text.split("$")`: the parts of a stored hash. -/
def splitDollar (text : String) : List String := (text.toList.splitOn '$').map String.ofList

/-- What `verifyPassword` reads from a stored hash before it derives anything. Both formats of the
source give one. -/
structure StoredKey where
  iterations : Nat
  salt : String
  expectedHash : String

/-- The checks of `verifyPassword` on the text. -/
def parseStoredHash (storedHash : String) : Option StoredKey :=
  match splitDollar storedHash with
  | [scheme, iterationsText, salt, expectedHash] => do
      let iterations ← Js.number iterationsText
      if scheme = pbkdf2Scheme ∧ Js.isInteger iterations ∧ 10000 ≤ iterations ∧
          iterations ≤ 1000000 ∧ salt ≠ "" ∧ Js.length salt ≤ 128 ∧ expectedHash ≠ "" ∧
          Js.length expectedHash ≤ 128 then
        some { iterations := iterations.num.toNat, salt, expectedHash }
      else none
  | _ => none

/-- `passwordHashNeedsUpgrade`: the hash is a legacy one, or of another scheme or number of rounds.
-/
def passwordHashNeedsUpgrade (storedHash : String) : Bool :=
  -- A text of this length is taken for a legacy hash, whatever its form.
  decide (Js.length storedHash = legacySha256HexLength) ||
    !decide ((pbkdf2Scheme ++ "$" ++ toString pbkdf2Iterations ++ "$").toList <+:
      storedHash.toList)

namespace PasswordCrypto

variable (crypto : PasswordCrypto)

/-- `createPasswordHash` with its salt: scheme, rounds, salt and key, with a `$` between them. -/
def createPasswordHash (salt password : String) : String :=
  let hash := String.ofList (encodeBase64 (crypto.pbkdf2 password salt pbkdf2Iterations).toList)
  pbkdf2Scheme ++ "$" ++ toString pbkdf2Iterations ++ "$" ++ salt ++ "$" ++ hash

/-- `verifyPassword`: the key is derived again and compared with the stored one. -/
def verifyPassword (password storedHash : String) : Bool :=
  match parseStoredHash storedHash with
  | none => false
  | some key =>
      let calculated := (crypto.pbkdf2 password key.salt key.iterations).toList
      let expected := decodeBase64 key.expectedHash.toList
      decide (expected.length = calculated.length) && decide (expected = calculated)

/-- `hashPassword`: the legacy hash without salt, in hexadecimal digits. -/
def hashPassword (password : String) : String :=
  String.ofList (encodeHex (crypto.sha256 password).toList)

/-- The password functions of the service. A key is derived when the checks of the text pass. -/
def hashing (isStrongPassword : String → Bool) : PasswordHashing where
  isStrongPassword
  createPasswordHash := crypto.createPasswordHash
  verifyPassword := crypto.verifyPassword
  needsDerivation := fun storedHash => (parseStoredHash storedHash).isSome
  passwordHashNeedsUpgrade := passwordHashNeedsUpgrade
  hashPassword := crypto.hashPassword

end PasswordCrypto

end Dcvp.Services
