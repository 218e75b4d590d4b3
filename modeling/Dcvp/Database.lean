import Dcvp.Lib.Table
import Dcvp.Shared

/-!
# `Dcvp.Database`: the account tables and their statements

The tables of `apps/api/prisma/schema.prisma` that hold accounts and organizations, and the
Prisma statements that the services send to them. A row keeps the columns that a modelled
function reads or writes under the schema's names. A `DateTime` is a number of milliseconds.

A `Database` carries the proof that its tables satisfy the constraints of the schema:
unique columns and foreign keys. A statement computes the new tables and hands them to
`commit`, which refuses tables that break a constraint with the error of Prisma. So a
constraint is checked at the end of each statement, as PostgreSQL does.

A transaction is a sequence of statements in `Except`. It starts from a database and answers
a database only when no statement throws, so it commits or rolls back as a whole.
-/

set_option autoImplicit false

namespace Dcvp

open Dcvp.Lib
open Dcvp.Shared (UserRole)

/-! ### Failures -/

/-- The exception classes of NestJS that the services throw. -/
inductive HttpStatus where
  | badRequest
  | unauthorized
  | forbidden
  | notFound
  | conflict
  | tooManyRequests
  | serviceUnavailable
  deriving DecidableEq, Repr

/-- The errors of the database client that the services tell apart: `P2025`, `P2002`,
`P2003`, `P2034`, and every other one. -/
inductive PrismaError where
  | recordNotFound
  | uniqueConstraint
  | foreignKey
  | serializationFailure
  | other
  deriving DecidableEq, Repr

/-- What a service call throws: an exception of NestJS, an error of the database client, or
any other `Error`. -/
inductive ServiceException where
  | http (status : HttpStatus) (message : String)
  | prisma (error : PrismaError)
  | other (message : String)
  deriving DecidableEq, Repr

/-- A sequence of two computations succeeds when both do. -/
theorem bind_eq_ok {ε α β : Type} {x : Except ε α} {f : α → Except ε β} {b : β} :
    x >>= f = .ok b ↔ ∃ a, x = .ok a ∧ f a = .ok b := by
  cases x with
  | error e => exact ⟨fun h => (by cases h), fun ⟨a, h, _⟩ => (by cases h)⟩
  | ok a => exact ⟨fun h => ⟨a, rfl, h⟩, fun ⟨a', h, h'⟩ => by cases h; exact h'⟩

/-- A function of a result succeeds when the computation does. -/
theorem map_eq_ok {ε α β : Type} {x : Except ε α} {f : α → β} {b : β} :
    f <$> x = .ok b ↔ ∃ a, x = .ok a ∧ f a = b := by
  cases x with
  | error e => exact ⟨fun h => (by cases h), fun ⟨a, h, _⟩ => (by cases h)⟩
  | ok a =>
      refine ⟨fun h => ⟨a, rfl, by cases h; rfl⟩, fun ⟨a', h, h'⟩ => ?_⟩
      cases h
      cases h'
      rfl

/-- Computations that all succeed give their values, in the order of the list. By induction on the
computations, with the values generalised. -/
theorem mapM_id_eq_ok {ε α : Type} {xs : List (Except ε α)} {ys : List α} :
    xs.mapM id = .ok ys ↔ xs = ys.map .ok := by
  induction xs generalizing ys with
  | nil =>
      cases ys with
      | nil => exact ⟨fun _ => rfl, fun _ => rfl⟩
      | cons y ys => exact ⟨fun h => (by cases h), fun h => (by cases h)⟩
  | cons x xs ih =>
      rw [List.mapM_cons, bind_eq_ok]
      constructor
      · rintro ⟨y, hy, hrest⟩
        obtain ⟨rest, htail, hys⟩ := bind_eq_ok.mp hrest
        cases hys
        rw [List.map_cons, ← ih.mp htail]
        exact congrArg (· :: xs) hy
      · intro h
        cases ys with
        | nil => cases h
        | cons y ys =>
            obtain ⟨rfl, hxs⟩ := List.cons.inj h
            exact ⟨y, rfl, bind_eq_ok.mpr ⟨ys, ih.mpr hxs, rfl⟩⟩

/-! ### Rows -/

/-- A row of `User`. Beside the account it holds the password hash and the two columns of the login
lockout. -/
structure UserRow where
  id : String
  email : String
  passwordHash : String
  name : String
  role : UserRole
  organizationId : Option String := none
  failedLoginAttempts : Nat := 0
  lockedUntil : Option Int := none
  passwordChangedAt : Option Int
  passwordChangeRequired : Bool := false
  createdAt : Int
  deriving DecidableEq, Repr

/-- A row of `Organization`, whose join code is unique among the organizations. -/
structure OrganizationRow where
  id : String
  name : String
  joinCode : String
  createdAt : Int
  deriving DecidableEq, Repr

/-- The status of a request that is reviewed once: `OrganizationAccessRequestStatus` and
`AdminSignupRequestStatus`. -/
inductive ReviewStatus where
  | pending
  | approved
  | rejected
  deriving DecidableEq, Repr

/-- A row of `OrganizationAccessRequest`: a user asks to join an organization with a role, and a
reviewer decides once. -/
structure AccessRequestRow where
  id : String
  userId : String
  organizationId : String
  requestedRole : UserRole
  reason : String
  status : ReviewStatus := .pending
  rejectionReason : Option String := none
  reviewedById : Option String := none
  createdAt : Int
  reviewedAt : Option Int := none
  deriving DecidableEq, Repr

/-- `OrganizationInvitationStatus`: an invitation can be accepted from `pending` only. -/
inductive InvitationStatus where
  | pending
  | accepted
  | cancelled
  deriving DecidableEq, Repr

/-- A row of `OrganizationInvitation`: an organization offers a role to an existing user, who may
accept. -/
structure InvitationRow where
  id : String
  token : String
  organizationId : String
  invitedUserId : String
  requestedRole : UserRole
  status : InvitationStatus := .pending
  invitedById : String
  createdAt : Int
  acceptedAt : Option Int := none
  deriving DecidableEq, Repr

/-- A row of `AdminSignupRequest`: somebody asks for an organization of their own, which an
operator approves or rejects. -/
structure SignupRequestRow where
  id : String
  organizationName : String
  name : String
  email : String
  passwordHash : String
  reason : String
  requestedRole : UserRole := .organization
  status : ReviewStatus := .pending
  rejectionReason : Option String := none
  reviewedById : Option String := none
  approvedUserId : Option String := none
  createdAt : Int
  reviewedAt : Option Int := none
  deriving DecidableEq, Repr

/-! ### Tables and constraints -/

/-- The tables that the account services read and write. Tables of the exam platform are apart, in
`PlatformTables`. -/
structure Tables where
  users : Table UserRow.id := Table.empty
  organizations : Table OrganizationRow.id := Table.empty
  accessRequests : Table AccessRequestRow.id := Table.empty
  invitations : Table InvitationRow.id := Table.empty
  signupRequests : Table SignupRequestRow.id := Table.empty

namespace Tables

/-- The columns marked `@unique` hold no value twice. -/
def UniqueColumns (t : Tables) : Prop :=
  (t.users.rows.map UserRow.email).Nodup ∧
    (t.organizations.rows.map OrganizationRow.joinCode).Nodup ∧
    (t.invitations.rows.map InvitationRow.token).Nodup

/-- The relations: an organization that a row names exists, and so does the user of an
access request. -/
def ForeignKeys (t : Tables) : Prop :=
  (∀ u ∈ t.users.rows, ∀ o ∈ u.organizationId, t.organizations.find? o ≠ none) ∧
    (∀ r ∈ t.accessRequests.rows,
      t.users.find? r.userId ≠ none ∧ t.organizations.find? r.organizationId ≠ none) ∧
    (∀ i ∈ t.invitations.rows, t.organizations.find? i.organizationId ≠ none)

instance (t : Tables) : Decidable t.UniqueColumns :=
  inferInstanceAs (Decidable (_ ∧ _ ∧ _))

instance (t : Tables) : Decidable t.ForeignKeys :=
  inferInstanceAs (Decidable (_ ∧ _ ∧ _))

end Tables

/-- Tables that satisfy the constraints of the schema. -/
structure Database extends Tables where
  unique : toTables.UniqueColumns
  related : toTables.ForeignKeys

namespace Database

/-- The database with empty tables, which satisfies both constraints. -/
def empty : Database where
  unique := by simp [Tables.UniqueColumns, Table.empty]
  related := by simp [Tables.ForeignKeys, Table.empty]

/-- The end of a statement: the constraints are checked. -/
def commit (t : Tables) : Except ServiceException Database :=
  if hu : t.UniqueColumns then
    if hr : t.ForeignKeys then .ok ⟨t, hu, hr⟩ else .error (.prisma .foreignKey)
  else .error (.prisma .uniqueConstraint)

/-- A statement that commits leaves exactly the tables it computed. -/
theorem commit_eq_ok {t : Tables} {db : Database} (h : commit t = .ok db) :
    db.toTables = t := by
  unfold commit at h
  split at h
  · split at h
    · cases h
      rfl
    · cases h
  · cases h

/-! ### Statements on `User` -/

/-- `user.findUnique({ where: { id } })`: the user with this identifier. -/
def findUser (db : Database) (id : String) : Option UserRow := db.users.find? id

/-- `user.findUnique({ where: { email } })`: the e-mail is compared exactly. -/
def findUserByEmail (db : Database) (email : String) : Option UserRow :=
  db.users.findFirst fun u => u.email = email

/-- The row that the relation `organization` of a user leads to. -/
def organizationOf (db : Database) (user : UserRow) : Option OrganizationRow :=
  user.organizationId.bind db.organizations.find?

/-- `user.create`, which fails where the identifier or the e-mail is taken. -/
def createUser (db : Database) (row : UserRow) : Except ServiceException (Database × UserRow) :=
  match db.users.insert? row with
  | none => .error (.prisma .uniqueConstraint)
  | some users => do
      let db ← commit { db.toTables with users }
      .ok (db, row)

/-- `user.update({ where: { id }, data })`. It throws when there is no such row. -/
def updateUser (db : Database) (id : String) (data : UserRow → UserRow)
    (keeps : ∀ row, (data row).id = row.id) : Except ServiceException (Database × UserRow) :=
  match db.users.find? id with
  | none => .error (.prisma .recordNotFound)
  | some row => do
      let db ← commit { db.toTables with
        users := db.users.updateMany (fun u => u.id = id) data keeps }
      .ok (db, data row)

/-- What a successful update leaves: the row was there, it is answered in its new form, and
the users are the old ones with that row changed. -/
theorem updateUser_eq_ok {db db' : Database} {id : String} {data : UserRow → UserRow}
    {keeps : ∀ row, (data row).id = row.id} {row' : UserRow}
    (h : db.updateUser id data keeps = .ok (db', row')) :
    ∃ row, db.users.find? id = some row ∧ row' = data row ∧
      db'.toTables = { db.toTables with
        users := db.users.updateMany (fun u => u.id = id) data keeps } := by
  unfold updateUser at h
  cases hrow : db.users.find? id with
  | none => rw [hrow] at h; cases h
  | some row =>
      rw [hrow] at h
      cases hc : commit { db.toTables with
        users := db.users.updateMany (fun u => u.id = id) data keeps } with
      | error e => rw [hc] at h; cases h
      | ok db₁ =>
          rw [hc] at h
          cases h
          exact ⟨row, rfl, rfl, commit_eq_ok hc⟩

/-- A row that a lookup by e-mail finds is the row under its key. -/
theorem findUser_of_findUserByEmail {db : Database} {email : String} {user : UserRow}
    (h : db.findUserByEmail email = some user) :
    db.users.find? user.id = some user ∧ user.email = email :=
  ⟨Table.find?_of_mem (List.mem_of_find?_eq_some h), by simpa using List.find?_some h⟩

/-- After a successful `updateUser` the updated row is found under its id and every other user is
found as before. -/
theorem find?_users_of_updateUser {db db' : Database} {id : String}
    {data : UserRow → UserRow} {keeps : ∀ row, (data row).id = row.id} {row' : UserRow}
    (h : db.updateUser id data keeps = .ok (db', row')) (k : String) :
    db'.users.find? k = if k = id then some row' else db.users.find? k := by
  obtain ⟨row, hrow, rfl, htables⟩ := updateUser_eq_ok h
  rw [htables]
  show (db.users.updateMany _ data keeps).find? k = _
  rw [Table.find?_updateMany]
  by_cases hk : k = id
  · subst hk
    simp [hrow, Table.key_of_find? hrow]
  · cases hfind : db.users.find? k with
    | none => simp [hk]
    | some r => simp [hk, Table.key_of_find? hfind]

end Database

end Dcvp
