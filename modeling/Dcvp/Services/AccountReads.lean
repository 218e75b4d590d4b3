import Dcvp.Services.AccountWorkflows
import Mathlib.Data.List.Sort

/-!
# `Dcvp.Services.AccountReads`: the lists of the account services

The methods of the four account services that only read: the accounts, the requests and the
invitations that a person is shown, and the number beside the menu. Each of them makes one
statement, apart from `getPendingApprovalCount` of an operator, which makes two beside each
other, and `listInvitations`, which looks up one user for each invitation.

A statement is given as what it finds: a database, or the error with which it fails.
`runDatabase` turns such an error into `undefined`, and the method into a value of its own.
`listManagedOrganizations` is left out, because its order is that of the collation.
-/

set_option autoImplicit false

namespace Dcvp.Services

open Dcvp.Lib
open Dcvp.Shared (AuthSession User)

/-- The rows in the order `[{ status: "asc" }, { createdAt: "desc" }]`. The values of the
status are in the order in which the schema declares them. -/
def byStatus {ρ : Type} (status : ρ → ReviewStatus) (createdAt : ρ → Int) (rows : List ρ) :
    List ρ :=
  rows.insertionSort fun left right =>
    rank (status left) < rank (status right) ∨
      rank (status left) = rank (status right) ∧ createdAt right ≤ createdAt left
where
  /-- The position of the value in the schema. -/
  rank : ReviewStatus → Nat
    | .pending => 0
    | .approved => 1
    | .rejected => 2

/-- What a statement finds: the database, or an error of the client. -/
abbrev Statement := Except PrismaError Database

/-- The rows that a statement without `runDatabase` finds. -/
def Statement.read (statement : Statement) : Except ServiceException Database :=
  statement.mapError .prisma

/-! ### `AdminUsersService` -/

namespace AdminUsers

/-- `assertCanManageAccounts`: operators and heads of organizations. -/
def assertCanManageAccounts (session : AuthSession) : Except ServiceException Unit :=
  if session.user.role ≠ .admin ∧ session.user.role ≠ .organization then
    .error (.http .forbidden "운영자 또는 조직 관리자만 계정 정보를 조회할 수 있습니다.")
  else .ok ()

/-- `listOrganizationUsers`: the accounts that the caller may see, all of them for an operator. -/
def listOrganizationUsers (ctx : AuthContext) (session : AuthSession) (statement : Statement) :
    Except ServiceException (List User) := do
  assertCanManageAccounts session
  if ctx.env.databaseAvailable then
    match statement with
    | .error _ => .ok [session.user]
    | .ok db =>
        let users := db.users.rows.filter fun u =>
          session.user.role = .admin ∨ u.organizationId = some session.organization.id
        .ok ((users.insertionSort fun left right => left.createdAt ≤ right.createdAt).map toUser)
  else .ok [session.user]

/-- The count of `getPendingApprovalCount`. The two counts of an operator are two statements. -/
def pendingApprovals (session : AuthSession) (first second : Statement) :
    Except PrismaError Nat :=
  if session.user.role = .admin then do
    let signupRequests := (← first).signupRequests.count fun r => r.status = .pending
    let organizationRequests := (← second).accessRequests.count fun r => r.status = .pending
    .ok (signupRequests + organizationRequests)
  else do
    let db ← first
    .ok (db.accessRequests.count fun r =>
      r.organizationId = session.organization.id ∧ r.status = .pending)

/-- `getPendingApprovalCount`: the badge of the admin page, from one count for a head and from two
for an operator. -/
def getPendingApprovalCount (ctx : AuthContext) (session : AuthSession)
    (first second : Statement) : Except ServiceException Nat :=
  if session.user.role ≠ .admin ∧ session.user.role ≠ .organization then
    .error (.http .forbidden "운영자 또는 조직 관리자만 승인 요청을 확인할 수 있습니다.")
  else if ctx.env.databaseAvailable then
    match pendingApprovals session first second with
    | .error _ => .ok 0
    | .ok count => .ok count
  else .ok 0

end AdminUsers

/-! ### `AdminSignupRequestsService` -/

namespace AdminSignupRequests

/-- `listRequests` of the signup service, for operators: all requests, newest first. -/
def listRequests (ctx : AuthContext) (session : AuthSession) (statement : Statement) :
    Except ServiceException (List AdminSignupRequest) := do
  assertOperator session
  if ctx.env.databaseAvailable then
    match statement with
    | .error _ => .ok []
    | .ok db =>
        .ok ((byStatus SignupRequestRow.status SignupRequestRow.createdAt
          db.signupRequests.rows).map toSignupRequest)
  else .ok []

end AdminSignupRequests

/-! ### `OrganizationRequestsService` -/

namespace OrganizationRequests

/-- The organization that the list is about: all of them for an operator. -/
def listedOrganization (session : AuthSession) : Except ServiceException (Option String) :=
  if session.user.role = .admin then .ok none
  else some <$> organizationId session

/-- `listRequests`. One row that asks for no role of the list fails the whole list. -/
def listRequests (ctx : AuthContext) (session : AuthSession) (statement : Statement) :
    Except ServiceException (List OrganizationAccessRequest) := do
  assertCanReview session
  if ctx.env.databaseAvailable then do
    let organization ← listedOrganization session
    let db ← statement.read
    let requests := byStatus AccessRequestRow.status AccessRequestRow.createdAt
      (db.accessRequests.rows.filter fun r => organization.all (r.organizationId = ·))
    let included ← requests.mapM db.includeRelations
    included.mapM toRequest
  else .ok []

end OrganizationRequests

/-! ### `OrganizationInvitationsService` -/

namespace OrganizationInvitations

/-- The rows in the order `{ createdAt: "desc" }`, with their organizations. -/
def findInvitations (db : Database) (p : InvitationRow → Bool) :
    Except ServiceException (List Database.IncludedInvitation) :=
  ((db.invitations.rows.filter p).insertionSort fun left right =>
    right.createdAt ≤ left.createdAt).mapM db.includeOrganization

/-- The entry of an invitation, which is passed over without its user. -/
def listedInvitation (row : Database.IncludedInvitation) :
    Option UserRow → Except ServiceException (List OrganizationInvitation)
  | none => .ok []
  | some invitedUser => List.singleton <$> toInvitation row invitedUser.email

/-- The loop of `listInvitations`. Each lookup of a user is a statement of its own, the `i`th one
here. -/
def invitationsFrom (users : Nat → Statement) (i : Nat) :
    List Database.IncludedInvitation → Except ServiceException (List OrganizationInvitation)
  | [] => .ok []
  | row :: rows => do
      let db ← (users i).read
      let result ← listedInvitation row (db.findUser row.invitation.invitedUserId)
      let later ← invitationsFrom users (i + 1) rows
      .ok (result ++ later)

/-- `listInvitations`: the manager, the invitations, and the lookups of the users in turn. -/
def listInvitations (session : AuthSession) (manager invitations : Statement)
    (users : Nat → Statement) : Except ServiceException (List OrganizationInvitation) := do
  let organizationId ← managedOrganizationId ((← manager.read).findUser session.user.id)
  let rows ← findInvitations (← invitations.read) fun i => i.organizationId = organizationId
  invitationsFrom users 0 rows

/-- `listReceivedInvitations`: the open invitations of the caller. -/
def listReceivedInvitations (session : AuthSession) (statement : Statement) :
    Except ServiceException (List OrganizationInvitation) := do
  let rows ← findInvitations (← statement.read) fun i =>
    i.invitedUserId = session.user.id ∧ i.status = .pending
  rows.mapM fun row => toInvitation row session.user.email

end OrganizationInvitations

end Dcvp.Services
