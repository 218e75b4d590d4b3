import Dcvp.Proofs.LoginLockout
import Dcvp.Services.PasswordHashText

/-!
# `Dcvp.Proofs.PasswordUpgrade`: what a stored password hash accepts

`parseStoredHash_createPasswordHash` is the round trip of the text: what `createPasswordHash`
prints, `verifyPassword` reads. From it, a new hash accepts its password and is up to date.

A hash that is up to date and accepts a password accepts no other one, because a legacy digest is
never up to date (`accepts_only`). A sign-in leaves such a hash in the account: either it writes a
new one, or the one that it has compared was up to date (`loginUser_password`).
-/

set_option autoImplicit false

namespace Dcvp.Proofs

open Dcvp.Lib
open Dcvp.Services

/-! ### Texts -/

/-- A text of four parts between dollar signs is cut into these parts. -/
theorem splitOn_four {a b c d : List Char} (ha : '$' ∉ a) (hb : '$' ∉ b) (hc : '$' ∉ c)
    (hd : '$' ∉ d) :
    (a ++ '$' :: (b ++ '$' :: (c ++ '$' :: d))).splitOn '$' = [a, b, c, d] := by
  rw [List.splitOn_append_cons_self_of_not_mem ha, List.splitOn_append_cons_self_of_not_mem hb,
    List.splitOn_append_cons_self_of_not_mem hc, List.splitOn_eq_singleton hd]

/-- The characters up to `z` are one code unit each. -/
theorem length_ofList_of_le {text : List Char} (h : ∀ c ∈ text, c ≤ 'z') :
    Js.length (String.ofList text) = text.length := by
  have hunits : text.map (fun c => if c.toNat < 0x10000 then 1 else 2) = text.map fun _ => 1 := by
    refine List.map_congr_left fun c hc => if_pos ?_
    have hle : c.toNat ≤ 'z'.toNat := h c hc
    have hz : 'z'.toNat = 122 := rfl
    omega
  simp [Js.length, hunits]

/-- The digits of base 64 have no dollar sign among them. -/
theorem dollar_notMem_encodeBase64 (bytes : List UInt8) : '$' ∉ encodeBase64 bytes :=
  fun h => absurd (between_of_mem_encodeBase64 h).1 (by decide)

/-! ### A new hash -/

section
variable (crypto : PasswordCrypto)

/-- The text in front of the salt. -/
def currentMark : List Char := (pbkdf2Scheme ++ "$" ++ toString pbkdf2Iterations ++ "$").toList

/-- The text of a new hash: the mark of the format, the salt, and the derived key. -/
theorem toList_createPasswordHash (randomBytes : Vector UInt8 16) (password : String) :
    (crypto.createPasswordHash (saltText randomBytes) password).toList =
      currentMark ++ (encodeBase64 randomBytes.toList ++ '$' :: encodeBase64
        (crypto.pbkdf2 password (saltText randomBytes) pbkdf2Iterations).toList) := by
  simp [PasswordCrypto.createPasswordHash, currentMark, saltText]

/-- The mark is the name of the format with the number of its rounds. -/
theorem currentMark_eq :
    currentMark = "pbkdf2-sha256".toList ++ '$' :: ("310000".toList ++ ['$']) := by
  decide +kernel

/-- `verifyPassword` reads what `createPasswordHash` has printed: none of the four parts has the
separator in it, and each is within its bounds. -/
theorem parseStoredHash_createPasswordHash (randomBytes : Vector UInt8 16) (password : String) :
    ∃ key, parseStoredHash (crypto.createPasswordHash (saltText randomBytes) password) = some key ∧
      key.salt = saltText randomBytes ∧ key.iterations = pbkdf2Iterations ∧
      decodeBase64 key.expectedHash.toList =
        (crypto.pbkdf2 password (saltText randomBytes) pbkdf2Iterations).toList := by
  set derived := (crypto.pbkdf2 password (saltText randomBytes) pbkdf2Iterations).toList
    with hderived
  have hparts : splitDollar (crypto.createPasswordHash (saltText randomBytes) password) =
      ["pbkdf2-sha256", "310000", saltText randomBytes, String.ofList (encodeBase64 derived)] := by
    have htext : (crypto.createPasswordHash (saltText randomBytes) password).toList =
        "pbkdf2-sha256".toList ++ '$' :: ("310000".toList ++ '$' ::
          (encodeBase64 randomBytes.toList ++ '$' :: encodeBase64 derived)) := by
      rw [toList_createPasswordHash, currentMark_eq, ← hderived]
      simp
    -- none of the four parts has the separator in it
    rw [splitDollar, htext, splitOn_four (by decide) (by decide) (dollar_notMem_encodeBase64 _)
      (dollar_notMem_encodeBase64 _)]
    simp [saltText]
  have hlength (bytes : List UInt8) :
      Js.length (String.ofList (encodeBase64 bytes)) = (4 * bytes.length + 2) / 3 := by
    rw [length_ofList_of_le fun c hc => (between_of_mem_encodeBase64 hc).2, length_encodeBase64]
  -- both texts are not empty, and shorter than 128 code units
  have hsalt : Js.length (saltText randomBytes) = 22 := by
    rw [saltText, hlength, Vector.length_toList]
  have hkey : Js.length (String.ofList (encodeBase64 derived)) = 43 := by
    rw [hlength, hderived, Vector.length_toList]
    rfl
  have hempty : Js.length "" = 0 := rfl
  have hnumber : Js.number "310000" = some 310000 := by decide +kernel
  refine ⟨{ iterations := 310000, salt := saltText randomBytes
            expectedHash := String.ofList (encodeBase64 derived) }, ?_, rfl, rfl, ?_⟩
  · rw [parseStoredHash, hparts]
    simp only [hnumber, Option.bind_eq_bind, Option.bind_some]
    rw [if_pos]
    · rfl
    · refine ⟨by decide, by decide +kernel, by decide +kernel, by decide +kernel, fun h => ?_,
        by omega, fun h => ?_, by omega⟩
      · rw [h, hempty] at hsalt
        omega
      · rw [h, hempty] at hkey
        omega
  · simp [decodeBase64_encodeBase64]

/-- A new hash accepts its password. -/
theorem verifyPassword_createPasswordHash (randomBytes : Vector UInt8 16) (password : String) :
    crypto.verifyPassword password
      (crypto.createPasswordHash (saltText randomBytes) password) = true := by
  obtain ⟨key, hparse, hsalt, hiterations, hexpected⟩ :=
    parseStoredHash_createPasswordHash crypto randomBytes password
  simp [PasswordCrypto.verifyPassword, hparse, hsalt, hiterations, hexpected]

/-- A new hash is up to date: it has not the length of a legacy hash, and begins with the current
scheme and rounds. -/
theorem needsUpgrade_createPasswordHash (randomBytes : Vector UInt8 16) (password : String) :
    passwordHashNeedsUpgrade
      (crypto.createPasswordHash (saltText randomBytes) password) = false := by
  have htext := toList_createPasswordHash crypto randomBytes password
  have hmark : currentMark.all (fun c => decide (c ≤ 'z')) = true := by decide +kernel
  have hplain : ∀ c ∈ (crypto.createPasswordHash (saltText randomBytes) password).toList,
      c ≤ 'z' := by
    intro c hc
    rw [htext] at hc
    rcases List.mem_append.mp hc with hc | hc
    · exact of_decide_eq_true (List.all_eq_true.mp hmark c hc)
    · rcases List.mem_append.mp hc with hc | hc
      · exact (between_of_mem_encodeBase64 hc).2
      · rcases List.mem_cons.mp hc with rfl | hc
        · decide
        · exact (between_of_mem_encodeBase64 hc).2
  -- 21 characters in front of the salt, 22 of the salt, and 43 of the key behind a separator
  have hlength : Js.length (crypto.createPasswordHash (saltText randomBytes) password) = 87 := by
    have hlist := length_ofList_of_le hplain
    rw [String.ofList_toList] at hlist
    have hkey : (crypto.pbkdf2 password (saltText randomBytes) pbkdf2Iterations).toList.length
        = 32 := Vector.length_toList
    rw [hlist, htext, currentMark_eq]
    simp [hkey]
  have hstarts : currentMark <+:
      (crypto.createPasswordHash (saltText randomBytes) password).toList := by
    rw [htext]
    exact List.prefix_append _ _
  have hcurrent : (pbkdf2Scheme ++ "$" ++ toString pbkdf2Iterations ++ "$").toList <+:
      (crypto.createPasswordHash (saltText randomBytes) password).toList := hstarts
  simp only [passwordHashNeedsUpgrade, hlength, decide_eq_true hcurrent]
  decide

/-! ### Hashes that are up to date -/

/-- No other password has the derived key of `password`, under any salt. -/
def NoCollision (password : String) : Prop :=
  ∀ other salt iterations,
    crypto.pbkdf2 other salt iterations = crypto.pbkdf2 password salt iterations → other = password

/-- The password matches a stored hash, in a queue that has room. -/
def Accepts (isStrongPassword : String → Bool) (storedHash password : String) : Prop :=
  passwordMatches (crypto.hashing isStrongPassword) false password storedHash = .ok true

/-- What a login accepts is what `verifyPassword` accepts, and the hash of the old format that it
compares itself. -/
theorem accepts_iff_verify (isStrongPassword : String → Bool) (storedHash password : String) :
    Accepts crypto isStrongPassword storedHash password ↔
      crypto.verifyPassword password storedHash = true ∨
        storedHash = crypto.hashPassword password := by
  simp only [Accepts, passwordMatches, PasswordCrypto.hashing, Bool.and_false, Bool.false_eq_true,
    if_false, Except.ok.injEq, Bool.or_eq_true]
  exact or_congr_right decide_eq_true_iff

/-- A legacy digest is not up to date. -/
theorem needsUpgrade_hashPassword (password : String) :
    passwordHashNeedsUpgrade (crypto.hashPassword password) = true := by
  have hlength : Js.length (crypto.hashPassword password) = 64 := by
    rw [PasswordCrypto.hashPassword, length_ofList_of_le, length_encodeHex, Vector.length_toList]
    intro c hc
    exact Nat.le_trans (between_of_mem_encodeHex hc).2 (by decide)
  simp [passwordHashNeedsUpgrade, hlength, legacySha256HexLength]

variable {crypto} in
/-- A hash that is up to date and accepts a password accepts only this one. -/
theorem accepts_only {isStrongPassword : String → Bool} {storedHash password : String}
    (hunique : NoCollision crypto password)
    (hcurrent : passwordHashNeedsUpgrade storedHash = false)
    (h : Accepts crypto isStrongPassword storedHash password) (other : String) :
    Accepts crypto isStrongPassword storedHash other ↔ other = password := by
  -- neither of the two passwords matches as a legacy digest
  have hverify (candidate : String)
      (h : Accepts crypto isStrongPassword storedHash candidate) :
      crypto.verifyPassword candidate storedHash = true := by
    rcases (accepts_iff_verify crypto isStrongPassword storedHash candidate).mp h with h | rfl
    · exact h
    · rw [needsUpgrade_hashPassword] at hcurrent
      cases hcurrent
  constructor
  · intro hother
    have hpassword := hverify password h
    have hsame := hverify other hother
    unfold PasswordCrypto.verifyPassword at hpassword hsame
    cases hparse : parseStoredHash storedHash with
    | none =>
        rw [hparse] at hpassword
        cases hpassword
    | some key =>
        simp only [hparse, Bool.and_eq_true, decide_eq_true_eq] at hpassword hsame
        exact hunique other key.salt key.iterations
          (Vector.toList_inj.mp (hsame.2.symm.trans hpassword.2))
  · rintro rfl
    exact h

/-! ### The sign-in -/

/-- The service with these password functions in place of its own. -/
def withPasswords (ctx : AuthContext) : AuthContext :=
  { ctx with hashing := crypto.hashing ctx.hashing.isStrongPassword }

variable {crypto} {ctx : AuthContext} {input : AuthInput} {password : String} {db db' : Database}
  {user : UserRow} {result : DatabaseLoginResult}

/-- The hash that the right password leaves: a new one, or the one that was compared. -/
theorem recordSuccess_password {row : UserRow} (hrow : db.users.find? user.id = some row)
    (hsame : row.passwordHash = user.passwordHash)
    (h : recordSuccess ctx input password db user = .ok (db', result)) :
    ∃ row', RowChange db db' user.id row' ∧
      renewedPasswordHash ctx input password user = .ok row'.passwordHash := by
  unfold recordSuccess at h
  obtain ⟨passwordHash, hrenewed, hrest⟩ := bind_eq_ok.mp h
  split at hrest
  · obtain ⟨⟨db₁, row₁⟩, hup, heq⟩ := bind_eq_ok.mp hrest
    obtain ⟨rfl, hchange⟩ := rowChange_of_updateUser hrow hup
    cases heq
    exact ⟨_, hchange, hrenewed⟩
  · rename_i hunchanged
    cases hrest
    refine ⟨row, ⟨hrow, fun _ _ => rfl⟩, ?_⟩
    have hkept : passwordHash = user.passwordHash := by
      by_contra hne
      exact hunchanged (Or.inl hne)
    rw [hrenewed, hkept, hsame]

/-- Clearing an expired lock leaves the stored password of the user as it was read. -/
theorem clearExpiredLock_password (hrow : db.users.find? user.id = some user)
    (h : clearExpiredLock db user = .ok db') :
    ∃ row, db'.users.find? user.id = some row ∧ row.passwordHash = user.passwordHash := by
  unfold clearExpiredLock at h
  split at h
  · obtain ⟨⟨db₁, row⟩, hup, rfl⟩ := map_eq_ok.mp h
    obtain ⟨rfl, hchange⟩ := rowChange_of_updateUser hrow hup
    exact ⟨_, hchange.row, rfl⟩
  · cases h
    exact ⟨user, hrow, rfl⟩

/-- A sign-in that succeeds has compared the password with the stored hash, and leaves a hash of
this password. -/
theorem loginUser_password (hrow : db.users.find? user.id = some user)
    {account : Dcvp.Shared.User} {organization : Dcvp.Shared.Organization} {required : Bool}
    (h : loginUser ctx input password db user = .ok (db', .success account organization required)) :
    passwordMatches ctx.hashing input.verifyBusy password user.passwordHash = .ok true ∧
      ∃ row', db'.users.find? user.id = some row' ∧
        renewedPasswordHash ctx input password user = .ok row'.passwordHash := by
  unfold loginUser at h
  split at h
  · obtain ⟨-, -, heq⟩ := bind_eq_ok.mp h
    cases heq
  · obtain ⟨db₁, hclear, hrest⟩ := bind_eq_ok.mp h
    obtain ⟨matched, hmatched, hbranch⟩ := bind_eq_ok.mp hrest
    cases matched with
    | true =>
        obtain ⟨row₁, hrow₁, hsame⟩ := clearExpiredLock_password hrow hclear
        obtain ⟨row', hchange, hrenewed⟩ := recordSuccess_password hrow₁ hsame hbranch
        exact ⟨hmatched, row', hchange.row, hrenewed⟩
    | false =>
        obtain ⟨db₂, -, heq⟩ := bind_eq_ok.mp hbranch
        cases heq

/-- A comparison that succeeds does so in every process that is not busy. -/
theorem accepts_of_passwordMatches {busy : Bool} {storedHash : String}
    (h : passwordMatches (withPasswords crypto ctx).hashing busy password storedHash = .ok true) :
    Accepts crypto ctx.hashing.isStrongPassword storedHash password := by
  unfold passwordMatches at h
  split at h
  · cases h
  · simp only [Accepts, passwordMatches, Bool.and_false, Bool.false_eq_true, if_false]
    exact h

/-- The hash that a sign-in leaves is up to date, and accepts only the password. -/
theorem renewedPasswordHash_spec {randomBytes : Vector UInt8 16} {storedHash : String}
    (hunique : NoCollision crypto password)
    (hmatched : passwordMatches (withPasswords crypto ctx).hashing input.verifyBusy password
      user.passwordHash = .ok true)
    (h : renewedPasswordHash (withPasswords crypto ctx) { input with salt := saltText randomBytes }
      password user = .ok storedHash) :
    passwordHashNeedsUpgrade storedHash = false ∧ ∀ other,
      Accepts crypto ctx.hashing.isStrongPassword storedHash other ↔ other = password := by
  have hrenewed : (if passwordHashNeedsUpgrade user.passwordHash = true then
      createPasswordHash (withPasswords crypto ctx).hashing input.createBusy
        (saltText randomBytes) password
    else .ok user.passwordHash) = .ok storedHash := h
  have haccepted : passwordHashNeedsUpgrade storedHash = false ∧
      Accepts crypto ctx.hashing.isStrongPassword storedHash password := by
    -- a hash that is not renewed was up to date, and it is the one that was compared
    split at hrenewed
    · unfold createPasswordHash at hrenewed
      split at hrenewed
      · cases hrenewed
      · have hnew : storedHash = crypto.createPasswordHash (saltText randomBytes) password :=
          (Except.ok.inj hrenewed).symm
        rw [hnew]
        exact ⟨needsUpgrade_createPasswordHash crypto randomBytes password,
          (accepts_iff_verify crypto _ _ _).mpr
            (.inl (verifyPassword_createPasswordHash crypto randomBytes password))⟩
    · rename_i hcurrent
      cases hrenewed
      exact ⟨Bool.eq_false_iff.mpr hcurrent, accepts_of_passwordMatches hmatched⟩
  exact ⟨haccepted.1, accepts_only hunique haccepted.1 haccepted.2⟩

end

/-- What `createPasswordHash` stores accepts its password and is up to date. A sign-in that
succeeds leaves a hash that is up to date, whatever form the compared one had, and which accepts
exactly the password of the sign-in. -/
theorem password_hash_round_trip (crypto : PasswordCrypto) :
    (∀ (randomBytes : Vector UInt8 16) (password : String),
      crypto.verifyPassword password
          (crypto.createPasswordHash (saltText randomBytes) password) = true ∧
        passwordHashNeedsUpgrade
          (crypto.createPasswordHash (saltText randomBytes) password) = false) ∧
    ∀ (ctx : AuthContext) (input : AuthInput) (randomBytes : Vector UInt8 16) (login : LoginInput)
      (db db' : Database) (account : Dcvp.Shared.User) (organization : Dcvp.Shared.Organization)
      (required : Bool), NoCollision crypto login.password →
      loginTransaction (withPasswords crypto ctx) { input with salt := saltText randomBytes } login
        db = .ok (db', .success account organization required) →
      ∃ user row, db.findUserByEmail login.email = some user ∧
        Accepts crypto ctx.hashing.isStrongPassword user.passwordHash login.password ∧
        db'.users.find? user.id = some row ∧
        passwordHashNeedsUpgrade row.passwordHash = false ∧
        ∀ other, Accepts crypto ctx.hashing.isStrongPassword row.passwordHash other ↔
          other = login.password := by
  constructor
  · intro randomBytes password
    exact ⟨verifyPassword_createPasswordHash crypto randomBytes password,
      needsUpgrade_createPasswordHash crypto randomBytes password⟩
  · intro ctx input randomBytes login db db' account organization required hunique h
    unfold loginTransaction at h
    -- Without an account the derivation runs for the time it takes, and the answer is no success.
    cases hfind : db.findUserByEmail login.email with
    | none =>
        rw [hfind] at h
        obtain ⟨-, -, heq⟩ := bind_eq_ok.mp h
        cases heq
    | some user =>
        rw [hfind] at h
        obtain ⟨hmatched, row, hrow, hrenewed⟩ :=
          loginUser_password (Database.findUser_of_findUserByEmail hfind).1 h
        obtain ⟨hcurrent, honly⟩ := renewedPasswordHash_spec hunique hmatched hrenewed
        exact ⟨user, row, rfl, accepts_of_passwordMatches hmatched, hrow, hcurrent, honly⟩

/-! ### An account with a legacy digest -/

/-- The key of `password1` with 310000 iterations, for a salt of sixteen zero bytes. -/
def legacyKey : Vector UInt8 pbkdf2KeyLength :=
  ⟨#[13, 15, 108, 48, 184, 166, 96, 84, 227, 225, 121, 181, 251, 213, 135, 196, 165, 192, 67, 108,
    192, 21, 38, 123, 173, 110, 166, 65, 143, 102, 241, 178], rfl⟩

/-- The two functions on the password of the account. -/
def legacyCrypto : PasswordCrypto where
  pbkdf2 := fun password _ _ => if password = "password1" then legacyKey else .replicate _ 0
  sha256 := fun text =>
    if text = "password1" then
      ⟨#[11, 20, 213, 1, 165, 148, 68, 42, 1, 198, 133, 149, 65, 188, 179, 232, 22, 77, 24, 61, 50,
        147, 123, 133, 24, 53, 68, 47, 105, 213, 201, 78], rfl⟩
    else .replicate _ 0

/-- The account of the examples, with the digest of its password. -/
def legacyDatabase : Database where
  users := ⟨[{ activeUser with
    passwordHash := "0b14d501a594442a01c6859541bcb3e8164d183d32937b851835442f69d5c94e" }],
    by decide⟩
  unique := by decide
  related := by decide

/-- The sign-in to this account with the password of its legacy hash. -/
def legacySignIn : Except ServiceException (Database × DatabaseLoginResult) :=
  loginTransaction (withPasswords legacyCrypto lockoutContext)
    { ({} : AuthInput) with salt := saltText (.replicate _ 0) }
    { email := "active@example.test", password := "password1" } legacyDatabase

/-- The stored hash after a sign-in that succeeds. -/
def hashAfter : Except ServiceException (Database × DatabaseLoginResult) → Option String
  | .ok (db', .success ..) => (db'.users.find? "user_active").map (·.passwordHash)
  | _ => none

/-- The sign-in replaces the digest by a hash that accepts only this password. -/
theorem password_hash_round_trip_legacy :
    let storedHash := "pbkdf2-sha256$310000$AAAAAAAAAAAAAAAAAAAAAA$" ++
      "DQ9sMLimYFTj4Xm1-9WHxKXAQ2zAFSZ7rW6mQY9m8bI"
    hashAfter legacySignIn = some storedHash ∧ passwordHashNeedsUpgrade storedHash = false ∧
      ∀ other, Accepts legacyCrypto (fun _ => false) storedHash other ↔ other = "password1" := by
  intro storedHash
  have hafter : hashAfter legacySignIn = some storedHash := by decide +kernel
  -- The key of any other password is zero, and that of this one is not.
  have hunique : NoCollision legacyCrypto "password1" := by
    intro other salt iterations hsame
    by_contra hne
    have hzero : legacyCrypto.pbkdf2 other salt iterations = .replicate _ 0 := if_neg hne
    have hkey : legacyCrypto.pbkdf2 "password1" salt iterations = legacyKey := by
      simp [legacyCrypto]
    rw [hzero, hkey] at hsame
    exact absurd hsame (by decide +kernel)
  refine ⟨hafter, ?_⟩
  cases hrun : legacySignIn with
  | error error =>
      rw [hrun] at hafter
      cases hafter
  | ok committed =>
      obtain ⟨db', result⟩ := committed
      cases result with
      | invalidCredentials =>
          rw [hrun] at hafter
          cases hafter
      | success account organization required =>
          obtain ⟨user, row, huser, -, hrow, hcurrent, honly⟩ :=
            (password_hash_round_trip legacyCrypto).2 lockoutContext {} (.replicate _ 0)
              { email := "active@example.test", password := "password1" } legacyDatabase db'
              account organization required hunique hrun
          have hid : user.id = "user_active" := by
            have hfound : (legacyDatabase.findUserByEmail "active@example.test").map (·.id) =
                some "user_active" := by decide +kernel
            rw [huser] at hfound
            exact Option.some.inj hfound
          rw [hid] at hrow
          have hhash : row.passwordHash = storedHash := by
            rw [hrun] at hafter
            simp only [hashAfter, hrow, Option.map_some, Option.some.injEq] at hafter
            exact hafter
          rw [← hhash]
          exact ⟨hcurrent, honly⟩

end Dcvp.Proofs
