import Dcvp.Lib.Lockout
import Dcvp.Services.AuthService

/-!
# `Dcvp.Proofs.LoginLockout`: the lock of an account after wrong passwords

The lock fields of a user row are a `Lockout`, with the limit and the duration of the
service (`loginPolicy`). `loginUser_attempt` is the refinement: a sign-in transaction that
commits changes the lock fields as one attempt of the policy does, with the verdict that
`verdictOf` reads off the row and the result. The proof follows the transaction through its
statements. The row that the code keeps in `user` is the one from the start of the
transaction, so each lemma relates it to the row that is stored at that point.

`loginMachine` runs transactions in a serial order with nondecreasing time, together with
statements of other services that leave the lock fields of the account alone.
`account_lockout` carries the facts about the policy over to every run.
-/

set_option autoImplicit false

namespace Dcvp.Proofs

open Dcvp.Lib
open Dcvp.Services

/-! ### The policy -/

/-- Five failures, fifteen minutes. -/
def loginPolicy : LockoutPolicy where
  limit := failedLoginLimit
  duration := accountLockDurationMs
  limit_pos := by decide
  duration_nonneg := by decide

/-- The lock fields of a row. -/
def lockFields (user : UserRow) : Lockout := ⟨user.failedLoginAttempts, user.lockedUntil⟩

/-- What became of a committed attempt: a lock refuses it, and otherwise the password was
compared. -/
def verdictOf (user : UserRow) (now : Int) : DatabaseLoginResult → Verdict
  | .success .. => .succeeded
  | .invalidCredentials => if AccountLocked user now then .refused else .failed

/-! ### One transaction -/

/-- The row of one user is `row'` now, and the rows of the others are as before. -/
structure RowChange (db db' : Database) (id : String) (row' : UserRow) : Prop where
  row : db'.users.find? id = some row'
  others : ∀ k, k ≠ id → db'.users.find? k = db.users.find? k

/-- Two changes of one row, one after the other. -/
theorem RowChange.trans {db db₁ db₂ : Database} {id : String} {row₁ row₂ : UserRow}
    (h₁ : RowChange db db₁ id row₁) (h₂ : RowChange db₁ db₂ id row₂) :
    RowChange db db₂ id row₂ :=
  ⟨h₂.row, fun k hk => (h₂.others k hk).trans (h₁.others k hk)⟩

/-- An update of a user that succeeds writes its data to the row of this user and changes no other
one. -/
theorem rowChange_of_updateUser {db db' : Database} {id : String} {data : UserRow → UserRow}
    {keeps : ∀ row, (data row).id = row.id} {row row' : UserRow}
    (hrow : db.users.find? id = some row)
    (h : db.updateUser id data keeps = .ok (db', row')) :
    row' = data row ∧ RowChange db db' id row' := by
  obtain ⟨old, hold, rfl, -⟩ := Database.updateUser_eq_ok h
  rw [hrow] at hold
  cases hold
  have hfind := Database.find?_users_of_updateUser h
  exact ⟨rfl, by rw [hfind]; simp, fun k hk => by rw [hfind]; simp [hk]⟩

section
variable {ctx : AuthContext} {input : AuthInput} {password : String} {db db' : Database}
  {user : UserRow}

/-- After the first step no lock is set, and the count is the one that the attempt starts
from. -/
theorem clearExpiredLock_spec (hrow : db.users.find? user.id = some user)
    (h : clearExpiredLock db user = .ok db') :
    ∃ row, RowChange db db' user.id row ∧
      lockFields row = ⟨(lockFields user).counted, none⟩ := by
  unfold clearExpiredLock at h
  cases hlock : user.lockedUntil with
  | none =>
      rw [hlock] at h
      cases h
      refine ⟨user, ⟨hrow, fun _ _ => rfl⟩, ?_⟩
      simp [lockFields, Lockout.counted, hlock]
  | some t =>
      rw [hlock] at h
      obtain ⟨⟨db₁, row⟩, hup, rfl⟩ := map_eq_ok.mp h
      obtain ⟨rfl, hchange⟩ := rowChange_of_updateUser hrow hup
      refine ⟨_, hchange, ?_⟩
      simp [lockFields, Lockout.counted, hlock]

/-- A wrong password, from a row without a lock: the row counts one failure more, and is locked
where this reaches the limit. -/
theorem recordFailure_spec {row : UserRow} {now : Int}
    (hrow : db.users.find? user.id = some row) (hlock : row.lockedUntil = none)
    (h : recordFailure db user now = .ok db') :
    ∃ row', RowChange db db' user.id row' ∧
      lockFields row' = ⟨row.failedLoginAttempts + 1,
        if failedLoginLimit ≤ row.failedLoginAttempts + 1 then some (now + accountLockDurationMs)
        else none⟩ := by
  unfold recordFailure at h
  obtain ⟨⟨db₁, row₁⟩, hup, hrest⟩ := bind_eq_ok.mp h
  obtain ⟨rfl, hchange⟩ := rowChange_of_updateUser hrow hup
  by_cases hlimit : failedLoginLimit ≤ row.failedLoginAttempts + 1
  · simp only [ge_iff_le, if_pos hlimit] at hrest
    obtain ⟨⟨db₂, row₂⟩, hup₂, rfl⟩ := map_eq_ok.mp hrest
    obtain ⟨rfl, hchange₂⟩ := rowChange_of_updateUser hchange.row hup₂
    refine ⟨_, hchange.trans hchange₂, ?_⟩
    simp [lockFields, hlimit]
  · simp only [ge_iff_le, if_neg hlimit] at hrest
    cases hrest
    refine ⟨_, hchange, ?_⟩
    simp [lockFields, hlimit, hlock]

/-- The right password clears the count and the lock. Where the code writes nothing, both
were clear already. -/
theorem recordSuccess_spec {row : UserRow} {result : DatabaseLoginResult}
    (hrow : db.users.find? user.id = some row)
    (hfields : lockFields row = ⟨(lockFields user).counted, none⟩)
    (h : recordSuccess ctx input password db user = .ok (db', result)) :
    (∃ row', RowChange db db' user.id row' ∧ lockFields row' = {}) ∧
      verdictOf user input.dateNow result = .succeeded := by
  unfold recordSuccess at h
  obtain ⟨passwordHash, -, hrest⟩ := bind_eq_ok.mp h
  split at hrest
  · obtain ⟨⟨db₁, row₁⟩, hup, heq⟩ := bind_eq_ok.mp hrest
    obtain ⟨rfl, hchange⟩ := rowChange_of_updateUser hrow hup
    cases heq
    exact ⟨⟨_, hchange, rfl⟩, rfl⟩
  · rename_i hsame
    cases hrest
    have hclear : user.failedLoginAttempts = 0 := by
      by_contra hne
      exact hsame (Or.inr (Or.inl hne))
    refine ⟨⟨row, ⟨hrow, fun _ _ => rfl⟩, ?_⟩, rfl⟩
    rw [hfields]
    simp [lockFields, Lockout.counted, hclear]

/-- A sign-in transaction on an account that commits is one attempt of the policy. -/
theorem loginUser_attempt {result : DatabaseLoginResult}
    (hrow : db.users.find? user.id = some user)
    (h : loginUser ctx input password db user = .ok (db', result)) :
    ∃ row', RowChange db db' user.id row' ∧
      loginPolicy.attempt (lockFields user) input.dateNow (verdictOf user input.dateNow result)
        = some (lockFields row') := by
  unfold loginUser at h
  -- A locked account is refused before the password counts; otherwise an expired lock is cleared
  -- first.
  by_cases hlocked : AccountLocked user input.dateNow
  · rw [if_pos hlocked] at h
    obtain ⟨-, -, heq⟩ := bind_eq_ok.mp h
    cases heq
    refine ⟨user, ⟨hrow, fun _ _ => rfl⟩, ?_⟩
    rw [verdictOf, if_pos hlocked]
    exact if_pos hlocked
  · rw [if_neg hlocked] at h
    obtain ⟨db₁, hclear, hrest⟩ := bind_eq_ok.mp h
    obtain ⟨matched, -, hbranch⟩ := bind_eq_ok.mp hrest
    obtain ⟨row₁, hchange₁, hfields₁⟩ := clearExpiredLock_spec hrow hclear
    -- A right password resets the count, a wrong one raises it in the same transaction.
    cases matched with
    | true =>
        obtain ⟨⟨row₂, hchange₂, hfields₂⟩, hverdict⟩ :=
          recordSuccess_spec hchange₁.row hfields₁ hbranch
        refine ⟨row₂, hchange₁.trans hchange₂, ?_⟩
        rw [hverdict, hfields₂]
        exact if_neg hlocked
    | false =>
        obtain ⟨db₂, hfail, heq⟩ := bind_eq_ok.mp hbranch
        cases heq
        obtain ⟨hcount, hnone⟩ := Lockout.mk.inj hfields₁
        obtain ⟨row₂, hchange₂, hfields₂⟩ := recordFailure_spec hchange₁.row hnone hfail
        refine ⟨row₂, hchange₁.trans hchange₂, ?_⟩
        rw [verdictOf, if_neg hlocked, hfields₂, hcount]
        exact if_neg hlocked

end

/-! ### Transactions in a serial order -/

/-- The database, the clock of the latest transaction, and the committed attempts on the
account so far. -/
structure LoginWorld where
  database : Database
  clock : Int
  attempts : List (Int × Verdict) := []

/-- A sign-in transaction, or the state that another service leaves. -/
inductive LoginEvent where
  | login (input : AuthInput) (credentials : LoginInput)
  | other (database : Database)

/-- The lock fields of the account. -/
def lockOf (db : Database) (userId : String) : Option Lockout :=
  (db.users.find? userId).map lockFields

/-- The attempt that a committed transaction is for the account: it is one when the e-mail
leads to the account. -/
def recordAttempt (userId : String) (w : LoginWorld) (input : AuthInput)
    (credentials : LoginInput) (result : DatabaseLoginResult) : List (Int × Verdict) :=
  match w.database.findUserByEmail credentials.email with
  | none => w.attempts
  | some user =>
      if user.id = userId then
        w.attempts ++ [(input.dateNow, verdictOf user input.dateNow result)]
      else w.attempts

/-- Sign-in transactions on any accounts at nondecreasing times. A transaction that throws
leaves the database as it was. Other services do not touch the lock fields of the account. -/
def loginMachine (ctx : AuthContext) (userId : String) : Machine LoginWorld LoginEvent where
  step w
    | .login input credentials =>
        if w.clock ≤ input.dateNow then
          match loginTransaction ctx input credentials w.database with
          | .error _ => some { w with clock := input.dateNow }
          | .ok (database, result) =>
              some { database, clock := input.dateNow,
                     attempts := recordAttempt userId w input credentials result }
        else none
    | .other database =>
        if lockOf database userId = lockOf w.database userId then some { w with database }
        else none

/-- A sign-in on another account, or without an account, leaves the lock fields alone. -/
theorem lockOf_of_other_account {ctx : AuthContext} {userId : String} {db db' : Database}
    {input : AuthInput} {credentials : LoginInput} {result : DatabaseLoginResult}
    (h : loginTransaction ctx input credentials db = .ok (db', result))
    (hother : ∀ user, db.findUserByEmail credentials.email = some user → user.id ≠ userId) :
    lockOf db' userId = lockOf db userId := by
  unfold loginTransaction at h
  cases huser : db.findUserByEmail credentials.email with
  | none =>
      rw [huser] at h
      obtain ⟨-, -, heq⟩ := bind_eq_ok.mp h
      cases heq
      rfl
  | some user =>
      rw [huser] at h
      have hrow := (Database.findUser_of_findUserByEmail huser).1
      obtain ⟨row', hchange, -⟩ := loginUser_attempt hrow h
      unfold lockOf
      rw [hchange.others userId (Ne.symm (hother user huser))]

/-- The attempts on the account so far are a run of the policy that ends in the lock fields
of its row. The clock of the policy is that of the last attempt. -/
def FollowsPolicy (userId : String) (t₀ : Int) (w : LoginWorld) : Prop :=
  ∃ lock t, lockOf w.database userId = some lock ∧ t ≤ w.clock ∧
    loginPolicy.machine.run ({}, t₀) w.attempts = some (lock, t)

/-- Every event keeps the refinement: a sign-in of the account is an attempt of the lockout, and
everything else leaves its row. -/
theorem step_followsPolicy (ctx : AuthContext) (userId : String) (t₀ : Int) (w w' : LoginWorld)
    (e : LoginEvent) (hw : FollowsPolicy userId t₀ w)
    (h : (loginMachine ctx userId).step w e = some w') : FollowsPolicy userId t₀ w' := by
  obtain ⟨lock, t, hlock, ht, hrun⟩ := hw
  cases e with
  | other database =>
      simp only [loginMachine, Option.ite_none_right_eq_some, Option.some.injEq] at h
      obtain ⟨hsame, rfl⟩ := h
      exact ⟨lock, t, hsame.trans hlock, ht, hrun⟩
  | login input credentials =>
      simp only [loginMachine, Option.ite_none_right_eq_some] at h
      obtain ⟨hle, h⟩ := h
      cases htx : loginTransaction ctx input credentials w.database with
      | error e =>
          rw [htx] at h
          cases h
          exact ⟨lock, t, hlock, Int.le_trans ht hle, hrun⟩
      | ok r =>
          obtain ⟨db', result⟩ := r
          rw [htx] at h
          cases h
          cases huser : w.database.findUserByEmail credentials.email with
          | none =>
              -- No account has this address, so no row changes.
              have hsame : lockOf db' userId = lockOf w.database userId :=
                lockOf_of_other_account htx fun user hu => by rw [huser] at hu; cases hu
              refine ⟨lock, t, hsame.trans hlock, Int.le_trans ht hle, ?_⟩
              simp only [recordAttempt, huser]
              exact hrun
          | some user =>
              by_cases hid : user.id = userId
              · -- The transaction is one attempt of the policy on this account.
                have hrow := (Database.findUser_of_findUserByEmail huser).1
                unfold loginTransaction at htx
                rw [huser] at htx
                obtain ⟨row', hchange, hattempt⟩ := loginUser_attempt hrow htx
                rw [hid] at hrow hchange
                have hfields : lock = lockFields user := by
                  rw [lockOf, hrow] at hlock
                  exact (Option.some.inj hlock).symm
                refine ⟨lockFields row', input.dateNow, ?_, Int.le_refl _, ?_⟩
                · rw [lockOf, hchange.row]
                  rfl
                · simp only [recordAttempt, huser, if_pos hid]
                  refine (Machine.run_concat_eq_some _ _ _ _).mpr ⟨(lock, t), hrun, ?_⟩
                  have hle' : t ≤ input.dateNow := Int.le_trans ht hle
                  simp only [LockoutPolicy.machine, if_pos hle', hfields, hattempt,
                    Option.map_some]
              · -- The attempt is on another account.
                have hsame : lockOf db' userId = lockOf w.database userId :=
                  lockOf_of_other_account htx fun user' hu => by
                    rw [huser] at hu
                    cases hu
                    exact hid
                refine ⟨lock, t, hsame.trans hlock, Int.le_trans ht hle, ?_⟩
                simp only [recordAttempt, huser, if_neg hid]
                exact hrun

/-- The refinement holds throughout every run. -/
theorem run_followsPolicy (ctx : AuthContext) (userId : String) (t₀ : Int) (db : Database)
    (hfresh : lockOf db userId = some {}) (es : List LoginEvent) (w : LoginWorld)
    (h : (loginMachine ctx userId).run { database := db, clock := t₀ } es = some w) :
    FollowsPolicy userId t₀ w :=
  Machine.invariant (M := loginMachine ctx userId)
    (fun w e w' hw hstep => step_followsPolicy ctx userId t₀ w w' e hw hstep)
    es { database := db, clock := t₀ } w ⟨{}, t₀, hfresh, Int.le_refl _, rfl⟩ h

/-- The lock of an account, for every sequence of sign-in transactions from a row without
failures and lock.

- The count never exceeds five, and is five exactly while a lock is set.
- No attempt succeeds while the lock lies in the future, whatever the password is.
- In a stretch of attempts without a success, of any six compared wrong passwords in a row
  the first and the sixth are at least fifteen minutes apart. -/
theorem account_lockout (ctx : AuthContext) (userId : String) (t₀ : Int) (db : Database)
    (hfresh : lockOf db userId = some {}) (es : List LoginEvent) (w : LoginWorld)
    (h : (loginMachine ctx userId).run { database := db, clock := t₀ } es = some w) :
    (∃ row, w.database.users.find? userId = some row ∧ row.failedLoginAttempts ≤ 5 ∧
      (row.failedLoginAttempts = 5 ↔ row.lockedUntil.isSome)) ∧
    (∀ input credentials user db' u o p,
      w.database.findUserByEmail credentials.email = some user → user.id = userId →
      loginTransaction ctx input credentials w.database = .ok (db', .success u o p) →
      ∀ t ∈ user.lockedUntil, t ≤ input.dateNow) ∧
    (∀ pre seg post, w.attempts = pre ++ seg ++ post → (∀ e ∈ seg, e.2 ≠ .succeeded) →
      ∀ (i : Nat) (first sixth : Int),
        (seg.filterMap LockoutPolicy.failureTime?)[i]? = some first →
        (seg.filterMap LockoutPolicy.failureTime?)[i + 5]? = some sixth →
        first + 15 * 60 * 1000 ≤ sixth) := by
  -- The transactions on this account are the attempts of the abstract policy, whose rules give the
  -- three parts.
  obtain ⟨lock, t, hlock, -, hrun⟩ := run_followsPolicy ctx userId t₀ db hfresh es w h
  refine ⟨?_, ?_, ?_⟩
  · obtain ⟨row, hrow, rfl⟩ := Option.map_eq_some_iff.mp hlock
    exact ⟨row, hrow, LockoutPolicy.run_bounded t₀ w.attempts _ hrun⟩
  · intro input credentials user db' u o p huser _ htx l hl
    have hrow := (Database.findUser_of_findUserByEmail huser).1
    unfold loginTransaction at htx
    rw [huser] at htx
    obtain ⟨row', -, hattempt⟩ := loginUser_attempt hrow htx
    by_contra hlt
    have hlocked : (lockFields user).LockedAt input.dateNow := ⟨l, hl, by omega⟩
    simp [verdictOf, LockoutPolicy.attempt, hlocked] at hattempt
  · intro pre seg post hsplit hno i first sixth hfirst hsixth
    rw [hsplit] at hrun
    exact LockoutPolicy.run_spaced t₀ pre seg post _ hrun hno i first sixth hfirst hsixth

/-! ### Five wrong passwords -/

/-- An account whose stored hash has neither of the two formats, so no password matches it. -/
def activeUser : UserRow :=
  { id := "user_active", email := "active@example.test", passwordHash := "stored",
    name := "Active", role := .candidate, passwordChangedAt := some 0, createdAt := 0 }

/-- A database with one active user. -/
def lockoutDatabase : Database where
  users := ⟨[activeUser], by decide⟩
  unique := by decide
  related := by decide

/-- A service in production. On the hash of `activeUser` the functions answer as the real ones
do: there is nothing to derive, and nothing matches. -/
def lockoutContext : AuthContext where
  env := { nodeEnv := some "production", databaseUrl := some "postgresql://db/dcvp" }
  text := { toLowerCase := id, toUpperCase := id }
  hashing :=
    { isStrongPassword := fun _ => false
      createPasswordHash := fun salt _ => "pbkdf2-sha256$310000$" ++ salt ++ "$"
      verifyPassword := fun _ _ => false
      needsDerivation := fun _ => false
      passwordHashNeedsUpgrade := fun _ => true
      hashPassword := fun _ => "0b14d501a594442a01c6859541bcb3e8164d183d32937b851835442f69d5c94e" }
  loadedAt := 0

/-- A wrong password at the given time. -/
def wrongPassword (now : Int) : LoginEvent :=
  .login { dateNow := now } { email := "active@example.test", password := "password1" }

/-- Five wrong passwords in four minutes, and a sixth one fifteen minutes after the last. -/
def wrongPasswords : List LoginEvent :=
  [0, 60000, 120000, 180000, 240000, 1140000].map wrongPassword

/-- The run exists, and all six were compared. -/
theorem wrongPasswords_run :
    ((loginMachine lockoutContext "user_active").run
      { database := lockoutDatabase, clock := 0 } wrongPasswords).any (fun w =>
        decide (w.attempts = [(0, .failed), (60000, .failed), (120000, .failed),
          (180000, .failed), (240000, .failed), (1140000, .failed)])) = true := by
  decide +kernel

/-- The run of the example is one of the theorem. Five wrong passwords lock the account, and the
sixth one, fifteen minutes later, begins a new count. -/
theorem account_lockout_six :
    ∃ w, (loginMachine lockoutContext "user_active").run
        { database := lockoutDatabase, clock := 0 } wrongPasswords = some w ∧
      ∃ row, w.database.users.find? "user_active" = some row ∧ row.failedLoginAttempts ≤ 5 ∧
        (row.failedLoginAttempts = 5 ↔ row.lockedUntil.isSome) := by
  obtain ⟨w, hw, -⟩ := (Option.any_eq_true _ _).mp wrongPasswords_run
  exact ⟨w, hw, (account_lockout lockoutContext "user_active" 0 lockoutDatabase rfl
    wrongPasswords w hw).1⟩

end Dcvp.Proofs
