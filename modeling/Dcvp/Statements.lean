import Dcvp.Database

/-!
# `Dcvp.Statements`: the statements of the account workflows

The Prisma statements with which the account services read and write the tables of
`Dcvp.Database`, one function for each statement under its Prisma name.

`insertInto` and `updateOne` are the common forms of `create` and `update`: a new row or a
changed row in one table, and the constraints at the end. What a statement leaves is read
off with `insertInto_eq_ok` and `updateOne_eq_ok`.
-/

set_option autoImplicit false

namespace Dcvp.Database

open Dcvp.Lib

/-! ### The common forms -/

/-- A table with a new row is put back, if the key was free. -/
def insertInto {α : Type} (table : Option α) (put : α → Tables) :
    Except ServiceException Database :=
  match table with
  | none => .error (.prisma .uniqueConstraint)
  | some t => commit (put t)

/-- The row with the given key is changed. It throws when there is no such row. -/
def updateOne {ρ : Type} {key : ρ → String} (table : Table key) (put : Table key → Tables)
    (id : String) (data : ρ → ρ) (keeps : ∀ row, key (data row) = key row) :
    Except ServiceException (Database × ρ) :=
  match table.find? id with
  | none => .error (.prisma .recordNotFound)
  | some row => do
      let db ← commit (put (table.updateMany (fun r => key r = id) data keeps))
      .ok (db, data row)

/-- A creation that succeeds has put the new table in its place and has left every other table. -/
theorem insertInto_eq_ok {α : Type} {table : Option α} {put : α → Tables} {db : Database}
    (h : insertInto table put = .ok db) : ∃ t, table = some t ∧ db.toTables = put t := by
  cases table with
  | none => cases h
  | some t => exact ⟨t, rfl, commit_eq_ok h⟩

/-- An update by the key that succeeds has found its row, answers the changed row, and has changed
no row but that one. -/
theorem updateOne_eq_ok {ρ : Type} {key : ρ → String} {table : Table key}
    {put : Table key → Tables} {id : String} {data : ρ → ρ}
    {keeps : ∀ row, key (data row) = key row} {db : Database} {row' : ρ}
    (h : updateOne table put id data keeps = .ok (db, row')) :
    ∃ row, table.find? id = some row ∧ row' = data row ∧
      db.toTables = put (table.updateMany (fun r => key r = id) data keeps) := by
  unfold updateOne at h
  cases hrow : table.find? id with
  | none => rw [hrow] at h; cases h
  | some row =>
      rw [hrow] at h
      obtain ⟨db', hcommit, hdb⟩ := bind_eq_ok.mp h
      cases hdb
      exact ⟨row, rfl, rfl, commit_eq_ok hcommit⟩

section
variable (db : Database)

/-! ### `Organization` -/

/-- `organization.findUnique({ where: { joinCode } })`. -/
def findOrganizationByJoinCode (joinCode : String) : Option OrganizationRow :=
  db.organizations.findFirst fun o => o.joinCode = joinCode

/-- `organization.create`. -/
def createOrganization (row : OrganizationRow) : Except ServiceException Database :=
  insertInto (db.organizations.insert? row) fun organizations =>
    { db.toTables with organizations }

/-! ### `User` -/

/-- `user.updateMany({ where, data })`, with the number of the rows that were changed. -/
def updateUsers (p : UserRow → Bool) (data : UserRow → UserRow)
    (keeps : ∀ row, (data row).id = row.id) : Except ServiceException (Database × Nat) := do
  let db' ← commit { db.toTables with users := db.users.updateMany p data keeps }
  .ok (db', db.users.count p)

/-- `user.delete({ where: { id } })`. The access requests of the user go with the row. -/
def deleteUser (id : String) : Except ServiceException Database :=
  match db.users.find? id with
  | none => .error (.prisma .recordNotFound)
  | some _ => commit { db.toTables with
      users := db.users.deleteMany fun u => u.id = id
      accessRequests := db.accessRequests.deleteMany fun r => r.userId = id }

/-! ### `OrganizationAccessRequest` -/

/-- An access request with the rows of its two relations. -/
structure IncludedAccessRequest where
  request : AccessRequestRow
  user : UserRow
  organization : OrganizationRow
  deriving DecidableEq

/-- The `include` of both relations. The client throws when a required relation is missing. -/
def includeRelations (request : AccessRequestRow) :
    Except ServiceException IncludedAccessRequest :=
  match db.users.find? request.userId, db.organizations.find? request.organizationId with
  | some user, some organization => .ok { request, user, organization }
  | _, _ => .error (.prisma .other)

/-- `organizationAccessRequest.findUnique({ where: { id } })`. -/
def findAccessRequest (id : String) : Option AccessRequestRow := db.accessRequests.find? id

/-- `organizationAccessRequest.findFirst({ where: { userId, status: "PENDING" } })`. -/
def findPendingAccessRequest (userId : String) : Option AccessRequestRow :=
  db.accessRequests.findFirst fun r => r.userId = userId ∧ r.status = .pending

/-- `organizationAccessRequest.create`. -/
def createAccessRequest (row : AccessRequestRow) : Except ServiceException Database :=
  insertInto (db.accessRequests.insert? row) fun accessRequests =>
    { db.toTables with accessRequests }

/-- `organizationAccessRequest.update`. -/
def updateAccessRequest (id : String) (data : AccessRequestRow → AccessRequestRow)
    (keeps : ∀ row, (data row).id = row.id) :
    Except ServiceException (Database × AccessRequestRow) :=
  updateOne db.accessRequests (fun accessRequests => { db.toTables with accessRequests })
    id data keeps

/-! ### `OrganizationInvitation` -/

/-- An invitation with the row of its organization. -/
structure IncludedInvitation where
  invitation : InvitationRow
  organization : OrganizationRow
  deriving DecidableEq

/-- The `include` of the organization of an invitation. -/
def includeOrganization (invitation : InvitationRow) :
    Except ServiceException IncludedInvitation :=
  match db.organizations.find? invitation.organizationId with
  | some organization => .ok { invitation, organization }
  | none => .error (.prisma .other)

/-- `organizationInvitation.findUnique({ where: { id } })`. -/
def findInvitation (id : String) : Option InvitationRow := db.invitations.find? id

/-- `organizationInvitation.findFirst` for a pending invitation of the user by the
organization. -/
def findPendingInvitation (organizationId invitedUserId : String) : Option InvitationRow :=
  db.invitations.findFirst fun i =>
    i.organizationId = organizationId ∧ i.invitedUserId = invitedUserId ∧ i.status = .pending

/-- `organizationInvitation.create`. -/
def createInvitation (row : InvitationRow) : Except ServiceException Database :=
  insertInto (db.invitations.insert? row) fun invitations => { db.toTables with invitations }

/-- `organizationInvitation.updateMany`, with the number of the rows that were changed. -/
def updateInvitations (p : InvitationRow → Bool) (data : InvitationRow → InvitationRow)
    (keeps : ∀ row, (data row).id = row.id) : Except ServiceException (Database × Nat) := do
  let db' ← commit { db.toTables with invitations := db.invitations.updateMany p data keeps }
  .ok (db', db.invitations.count p)

/-- `organizationInvitation.deleteMany`. -/
def deleteInvitations (p : InvitationRow → Bool) : Except ServiceException Database :=
  commit { db.toTables with invitations := db.invitations.deleteMany p }

/-! ### `AdminSignupRequest` -/

/-- `adminSignupRequest.findUnique({ where: { id } })`. -/
def findSignupRequest (id : String) : Option SignupRequestRow := db.signupRequests.find? id

/-- `adminSignupRequest.findFirst({ where: { email, status: "PENDING" } })`. -/
def findPendingSignupRequest (email : String) : Option SignupRequestRow :=
  db.signupRequests.findFirst fun r => r.email = email ∧ r.status = .pending

/-- `adminSignupRequest.create`. -/
def createSignupRequest (row : SignupRequestRow) : Except ServiceException Database :=
  insertInto (db.signupRequests.insert? row) fun signupRequests =>
    { db.toTables with signupRequests }

/-- `adminSignupRequest.update`. -/
def updateSignupRequest (id : String) (data : SignupRequestRow → SignupRequestRow)
    (keeps : ∀ row, (data row).id = row.id) :
    Except ServiceException (Database × SignupRequestRow) :=
  updateOne db.signupRequests (fun signupRequests => { db.toTables with signupRequests })
    id data keeps

end

/-! ### Which table a statement writes -/

section
variable {db db' : Database}

/-- The creation of an organization, on the tables. The insertion of the row has succeeded, so its
id was free. -/
theorem tables_of_createOrganization {row : OrganizationRow}
    (h : db.createOrganization row = .ok db') :
    ∃ organizations, db.organizations.insert? row = some organizations ∧
      db'.toTables = { db.toTables with organizations } :=
  insertInto_eq_ok h

/-- The creation of an access request, on the tables. -/
theorem tables_of_createAccessRequest {row : AccessRequestRow}
    (h : db.createAccessRequest row = .ok db') :
    ∃ accessRequests, db.accessRequests.insert? row = some accessRequests ∧
      db'.toTables = { db.toTables with accessRequests } :=
  insertInto_eq_ok h

/-- The creation of an invitation, on the tables. -/
theorem tables_of_createInvitation {row : InvitationRow}
    (h : db.createInvitation row = .ok db') :
    ∃ invitations, db.invitations.insert? row = some invitations ∧
      db'.toTables = { db.toTables with invitations } :=
  insertInto_eq_ok h

/-- The creation of a signup request, on the tables. -/
theorem tables_of_createSignupRequest {row : SignupRequestRow}
    (h : db.createSignupRequest row = .ok db') :
    ∃ signupRequests, db.signupRequests.insert? row = some signupRequests ∧
      db'.toTables = { db.toTables with signupRequests } :=
  insertInto_eq_ok h

/-- The creation of a user, on the tables. The statement answers the row that it was given. -/
theorem tables_of_createUser {row row' : UserRow} (h : db.createUser row = .ok (db', row')) :
    ∃ users, db.users.insert? row = some users ∧ db'.toTables = { db.toTables with users } ∧
      row' = row := by
  unfold createUser at h
  split at h
  · cases h
  · rename_i users hinsert
    obtain ⟨_, hcommit, hdb⟩ := bind_eq_ok.mp h
    cases hdb
    exact ⟨users, hinsert, commit_eq_ok hcommit, rfl⟩

/-- An update of all users with a property, on the tables, and how many it has changed. -/
theorem tables_of_updateUsers {p : UserRow → Bool} {data : UserRow → UserRow}
    {keeps : ∀ row, (data row).id = row.id} {n : Nat}
    (h : db.updateUsers p data keeps = .ok (db', n)) :
    db'.toTables = { db.toTables with users := db.users.updateMany p data keeps } ∧
      n = db.users.count p := by
  obtain ⟨_, hcommit, hdb⟩ := bind_eq_ok.mp h
  cases hdb
  exact ⟨commit_eq_ok hcommit, rfl⟩

/-- An update of all invitations with a property, on the tables, and how many it has changed. -/
theorem tables_of_updateInvitations {p : InvitationRow → Bool}
    {data : InvitationRow → InvitationRow} {keeps : ∀ row, (data row).id = row.id} {n : Nat}
    (h : db.updateInvitations p data keeps = .ok (db', n)) :
    db'.toTables = { db.toTables with
        invitations := db.invitations.updateMany p data keeps } ∧
      n = db.invitations.count p := by
  obtain ⟨_, hcommit, hdb⟩ := bind_eq_ok.mp h
  cases hdb
  exact ⟨commit_eq_ok hcommit, rfl⟩

/-- The deletion of a user, on the tables. The access requests of the user go with the row. -/
theorem tables_of_deleteUser {id : String} (h : db.deleteUser id = .ok db') :
    db'.toTables = { db.toTables with
      users := db.users.deleteMany fun u => u.id = id
      accessRequests := db.accessRequests.deleteMany fun r => r.userId = id } := by
  unfold deleteUser at h
  split at h
  · cases h
  · exact commit_eq_ok h

/-- A change of one access request, on the tables. -/
theorem tables_of_updateAccessRequest {id : String} {data : AccessRequestRow → AccessRequestRow}
    {keeps : ∀ row, (data row).id = row.id} {row : AccessRequestRow}
    (h : db.updateAccessRequest id data keeps = .ok (db', row)) :
    db'.toTables = { db.toTables with
      accessRequests := db.accessRequests.updateMany (fun r => r.id = id) data keeps } := by
  obtain ⟨_, -, -, htables⟩ := updateOne_eq_ok h
  exact htables

/-- A change of one signup request, on the tables. -/
theorem tables_of_updateSignupRequest {id : String} {data : SignupRequestRow → SignupRequestRow}
    {keeps : ∀ row, (data row).id = row.id} {row : SignupRequestRow}
    (h : db.updateSignupRequest id data keeps = .ok (db', row)) :
    db'.toTables = { db.toTables with
      signupRequests := db.signupRequests.updateMany (fun r => r.id = id) data keeps } := by
  obtain ⟨_, -, -, htables⟩ := updateOne_eq_ok h
  exact htables

/-- A change of one user, on the tables. -/
theorem tables_of_updateUser {id : String} {data : UserRow → UserRow}
    {keeps : ∀ row, (data row).id = row.id} {row : UserRow}
    (h : db.updateUser id data keeps = .ok (db', row)) :
    db'.toTables = { db.toTables with
      users := db.users.updateMany (fun u => u.id = id) data keeps } := by
  obtain ⟨_, -, -, htables⟩ := updateUser_eq_ok h
  exact htables

/-- The deletion of all invitations with a property, on the tables. -/
theorem tables_of_deleteInvitations {p : InvitationRow → Bool}
    (h : db.deleteInvitations p = .ok db') :
    db'.toTables = { db.toTables with invitations := db.invitations.deleteMany p } :=
  commit_eq_ok h

end

end Dcvp.Database
