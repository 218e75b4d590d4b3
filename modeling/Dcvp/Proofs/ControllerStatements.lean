import Dcvp.Modules.AdminUsersController
import Dcvp.Proofs.AccountWorkflows

/-!
# `Dcvp.Proofs.ControllerStatements`: what the operations of `AuthService` do to the tables

The operations that `AuthService` awaits write nothing but users, and they leave the role and
the organization of every user alone: `Placed`. A registration adds a user without an
organization. `authOperation_effect` sorts every operation into these two cases, once.
-/

set_option autoImplicit false

namespace Dcvp.Proofs

open Dcvp.Lib
open Dcvp.Services
open Dcvp.Modules.AdminUsersController
open Dcvp.Shared (AuthSession UserRole)

/-- The role and the organization of a user. -/
def place (db : Database) (id : String) : Option (UserRole × Option String) :=
  (db.findUser id).map fun u => (u.role, u.organizationId)

/-- Only users were written, and each has the role and the organization of before. -/
structure Placed (db db' : Database) : Prop where
  tables : db'.toTables = { db.toTables with users := db'.users }
  places : ∀ k, place db' k = place db k

/-- A read places nobody anywhere. -/
theorem Placed.refl (db : Database) : Placed db db := ⟨rfl, fun _ => rfl⟩

/-- Two statements, one after the other, neither of which moves a user. -/
theorem Placed.trans {db db₁ db₂ : Database} (h₁ : Placed db db₁) (h₂ : Placed db₁ db₂) :
    Placed db db₂ where
  tables := by rw [h₂.tables, h₁.tables]
  places k := (h₂.places k).trans (h₁.places k)

/-- An update of other columns leaves the role and the organization of every user, that of the
updated row by what the update keeps. -/
theorem placed_of_updateUser {db db' : Database} {id : String} {data : UserRow → UserRow}
    {keeps : ∀ row, (data row).id = row.id} {row : UserRow}
    (h : db.updateUser id data keeps = .ok (db', row)) (hrole : ∀ u, (data u).role = u.role)
    (horg : ∀ u, (data u).organizationId = u.organizationId) : Placed db db' := by
  obtain ⟨old, hold, hrow, htables⟩ := Database.updateUser_eq_ok h
  refine ⟨by rw [htables], fun k => ?_⟩
  have hfind : db'.findUser k = if k = id then some row else db.findUser k :=
    Database.find?_users_of_updateUser h k
  unfold place
  rw [hfind]
  split
  · rename_i hk
    have hold' : db.findUser k = some old := by rw [hk]; exact hold
    rw [hold', hrow, Option.map_some, Option.map_some, hrole, horg]
  · rfl

section
variable {ctx : AuthContext} {input : AuthInput} {db db' : Database} {user : UserRow}
  {password : String}

/-- A login that finds an expired lock clears it. Role and organization stay. -/
theorem placed_clearExpiredLock (h : clearExpiredLock db user = .ok db') : Placed db db' := by
  unfold clearExpiredLock at h
  split at h
  · obtain ⟨⟨db₁, row⟩, hup, rfl⟩ := map_eq_ok.mp h
    exact placed_of_updateUser hup (fun _ => rfl) fun _ => rfl
  · cases h
    exact .refl db

/-- A failed login counts the failure, and may lock the account. Role and organization stay. -/
theorem placed_recordFailure {now : Int} (h : recordFailure db user now = .ok db') :
    Placed db db' := by
  obtain ⟨⟨db₁, row₁⟩, hup, hrest⟩ := bind_eq_ok.mp h
  have hfirst : Placed db db₁ := placed_of_updateUser hup (fun _ => rfl) fun _ => rfl
  simp only [] at hrest
  split at hrest
  · obtain ⟨⟨db₂, row₂⟩, hup₂, rfl⟩ := map_eq_ok.mp hrest
    exact hfirst.trans (placed_of_updateUser hup₂ (fun _ => rfl) fun _ => rfl)
  · cases hrest
    exact hfirst

/-- A login that succeeds resets the counters, and stores the renewed hash where there is one. Role
and organization stay. -/
theorem placed_recordSuccess {result : DatabaseLoginResult}
    (h : recordSuccess ctx input password db user = .ok (db', result)) : Placed db db' := by
  obtain ⟨passwordHash, -, hrest⟩ := bind_eq_ok.mp h
  split at hrest
  · obtain ⟨⟨db₁, row₁⟩, hup, heq⟩ := bind_eq_ok.mp hrest
    cases heq
    exact placed_of_updateUser hup (fun _ => rfl) fun _ => rfl
  · cases hrest
    exact .refl db

/-- A sign-in transaction leaves every role and organization alone: it writes locks, counters and
the upgraded hash only. -/
theorem placed_loginTransaction {login : LoginInput} {result : DatabaseLoginResult}
    (h : loginTransaction ctx input login db = .ok (db', result)) : Placed db db' := by
  unfold loginTransaction at h
  split at h
  · obtain ⟨-, -, heq⟩ := bind_eq_ok.mp h
    cases heq
    exact .refl db
  · rename_i user _
    unfold loginUser at h
    split at h
    · obtain ⟨-, -, heq⟩ := bind_eq_ok.mp h
      cases heq
      exact .refl db
    · obtain ⟨db₁, hclear, hrest⟩ := bind_eq_ok.mp h
      obtain ⟨matched, -, hbranch⟩ := bind_eq_ok.mp hrest
      have hfirst := placed_clearExpiredLock hclear
      cases matched with
      | true => exact hfirst.trans (placed_recordSuccess hbranch)
      | false =>
          obtain ⟨db₂, hfail, heq⟩ := bind_eq_ok.mp hbranch
          cases heq
          exact hfirst.trans (placed_recordFailure hfail)

/-- What an operation of `AuthService` does to the tables. -/
inductive AuthEffect (db db' : Database) : Prop
  | placed (h : Placed db db')
  | registered (row : UserRow) (hrole : row.role = .candidate)
      (hfree : row.organizationId = none) (hnew : db.findUser row.id = none)
      (htables : db'.toTables = { db.toTables with users := db'.users })
      (hfind : ∀ k, db'.findUser k = if row.id = k then some row else db.findUser k)

/-- A settled operation has an allowed effect when its success has one: when it fails, the database
stays as it was. -/
theorem settle_effect {α : Type} {failed : ServiceException → AuthReady}
    {reply : α → Database × AuthReady} {x : Except ServiceException α} {ready : AuthReady}
    (h : settle db failed reply x = (db', ready))
    (hok : ∀ a, x = .ok a → reply a = (db', ready) → AuthEffect db db') : AuthEffect db db' := by
  cases x with
  | error e =>
      cases h
      exact .placed (.refl db)
  | ok a => exact hok a rfl h

/-- The operation of a registration adds a candidate without organization, and changes no other
user. -/
theorem registered_of_createUser {row row' : UserRow} (hrole : row.role = .candidate)
    (hfree : row.organizationId = none) (h : db.createUser row = .ok (db', row')) :
    AuthEffect db db' := by
  obtain ⟨users, hinsert, husers, -⟩ := Database.tables_of_createUser h
  have htables : db'.toTables = { db.toTables with users := db'.users } := by
    unfold Database.createUser at h
    split at h
    · cases h
    · obtain ⟨_, hcommit, hdb⟩ := bind_eq_ok.mp h
      cases hdb
      rw [Database.commit_eq_ok hcommit]
  refine .registered row hrole hfree (Table.find?_of_insert? hinsert) htables fun k => ?_
  show db'.users.find? k = _
  rw [husers]
  exact Table.find?_insert? hinsert k

/-- The operations of `AuthService`: a registration adds an account, and every other one leaves
roles and organizations alone. -/
theorem authStatement_effect {pc : AuthWaiting} {reply : AuthReady}
    (hother : ∀ write, pc ≠ .otherStatement write)
    (h : authStatement ctx pc input db = (db', reply)) : AuthEffect db db' := by
  -- Both marks of an expired password write the same column, which is no place of a user.
  have hmarks : ∀ userId row, db.updateUser userId
      (fun u => { u with passwordChangeRequired := true }) (fun _ => rfl) = .ok (db', row) →
      AuthEffect db db' :=
    fun userId row hup => .placed (placed_of_updateUser hup (fun _ => rfl) fun _ => rfl)
  cases pc with
  | loginTransaction login retry =>
      refine settle_effect h fun r hr heq => ?_
      cases heq
      exact .placed (placed_loginTransaction hr)
  | registerHashes data userId =>
      refine settle_effect h fun hash _ heq => ?_
      cases heq
      exact .placed (.refl db)
  | registerCreates data userId passwordHash =>
      refine settle_effect h fun r hr heq => ?_
      cases heq
      exact registered_of_createUser rfl rfl hr
  | meMarks caller session userId =>
      refine settle_effect h fun r hr heq => ?_
      cases heq
      exact hmarks userId r.2 hr
  | activeMarks session userId =>
      refine settle_effect h fun r hr heq => ?_
      cases heq
      exact hmarks userId r.2 hr
  | changeCompares data user organization =>
      refine settle_effect h fun matched _ heq => ?_
      cases heq
      exact .placed (.refl db)
  | changeHashes data user organization =>
      refine settle_effect h fun hash _ heq => ?_
      cases heq
      exact .placed (.refl db)
  | changeWrites userId passwordHash passwordChangedAt organization =>
      refine settle_effect h fun r hr heq => ?_
      cases heq
      exact .placed (placed_of_updateUser hr (fun _ => rfl) fun _ => rfl)
  | otherStatement write => exact absurd rfl (hother write)
  | _ =>
      cases h
      exact .placed (.refl db)

/-- The operations of `AuthService` in the program of the controller. -/
theorem authOperation_effect {pc : AuthWaiting} {reply : AuthReady}
    (h : authOperation ctx pc input db = some (db', reply)) : AuthEffect db db' := by
  have hother : ∀ write, pc ≠ .otherStatement write := by
    rintro write rfl
    cases h
  have hexec : authExecute ctx pc input db = some (db', reply) := by
    cases pc with
    | otherStatement write => exact absurd rfl (hother write)
    | _ => exact h
  unfold authExecute at hexec
  split at hexec
  · cases hexec
    exact .placed (.refl db)
  · exact authStatement_effect hother (Option.some.inj hexec)

end

/-- What an operation of the program is: one of `AuthService`, one of an account service, or
the wait for the end of a service call. -/
theorem controllerExecute_cases {ctx : AuthContext} {pc : ControllerWaiting}
    {input : ControllerInput} {db db' : Database} {ready : ControllerReady}
    (h : controllerExecute ctx pc input db = some (db', ready)) :
    (AuthEffect db db' ∧ (∀ token method pc', pc ≠ .inService token method pc') ∧
      ∀ token method reply, ready ≠ .inService token method reply) ∨
    ∃ token method pc' reply, pc = .inService token method pc' ∧
      ready = .inService token method reply ∧
      accountExecute ctx pc' input.account db = some (db', reply) := by
  -- The places of `AuthService` have its effects; only a place inside an account service can do
  -- more.
  cases pc with
  | auth pc =>
      obtain ⟨⟨d, reply⟩, hop, heq⟩ := Option.map_eq_some_iff.mp h
      cases heq
      exact Or.inl ⟨authOperation_effect hop, by simp, by simp⟩
  | inMe token method pc =>
      obtain ⟨⟨d, reply⟩, hop, heq⟩ := Option.map_eq_some_iff.mp h
      cases heq
      exact Or.inl ⟨authOperation_effect hop, by simp, by simp⟩
  | inService token method pc =>
      obtain ⟨⟨d, reply⟩, hop, heq⟩ := Option.map_eq_some_iff.mp h
      cases heq
      exact Or.inr ⟨token, method, pc, reply, rfl, rfl, hop⟩
  | serviceReturns token method value =>
      cases h
      exact Or.inl ⟨.placed (.refl db), by simp, by simp⟩
  | inRefresh value pc =>
      obtain ⟨⟨d, reply⟩, hop, heq⟩ := Option.map_eq_some_iff.mp h
      cases heq
      exact Or.inl ⟨authOperation_effect hop, by simp, by simp⟩

end Dcvp.Proofs
