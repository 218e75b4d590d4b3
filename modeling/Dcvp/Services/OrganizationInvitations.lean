import Dcvp.Services.AccountInput

/-!
# `Dcvp.Services.OrganizationInvitations`: invitations into an organization

The class `OrganizationInvitationsService` of `services/organization-invitations.service.ts`.
A manager invites an account that has no organization (`createInvitation`), and the account
accepts (`acceptInvitation`).

The acceptance is one transaction of two conditional updates: the user's row is written only
while it has no organization, and the invitation only while it is pending. The class does
not look at the environment: without a database its statements fail.
-/

set_option autoImplicit false

namespace Dcvp.Services.OrganizationInvitations

open Dcvp.Lib
open Dcvp.Shared (AuthSession Organization UserRole)
open Database (IncludedInvitation)

/-- `CreateOrganizationInvitationInput`: whom to invite, by address, and with which role. -/
structure CreateInput where
  email : String
  requestedRole : UserRole
  deriving DecidableEq

/-- `OrganizationInvitation`: an invitation as the API shows it, with its organization and the
invited address. -/
structure OrganizationInvitation where
  id : String
  token : String
  organization : Organization
  email : String
  requestedRole : UserRole
  status : InvitationStatus
  createdAt : String
  acceptedAt : Option String
  message : String
  deriving DecidableEq

/-! ### Checks -/

/-- `parseCreateInput`: an address with an `@`, in lower case, and one of two roles. -/
def parseCreateInput (ctx : AuthContext) (input : CreateInput) :
    Except ServiceException CreateInput :=
  let email := ctx.text.toLowerCase (Js.trim input.email)
  if ¬ Js.includes email '@' then
    .error (.http .badRequest "가입된 계정 이메일을 입력하세요.")
  else if input.requestedRole ≠ .organization ∧ input.requestedRole ≠ .proctor then
    .error (.http .badRequest "조직 관리자 또는 감독관만 초대할 수 있습니다.")
  else .ok { email, requestedRole := input.requestedRole }

/-- The end of `managedOrganizationId`: the organization that the row of the session's user
manages. -/
def managedOrganizationId (manager : Option UserRow) : Except ServiceException String :=
  match manager.filter (·.role = .organization) with
  | none => .error (.http .forbidden "조직 관리자만 구성원을 초대할 수 있습니다.")
  | some manager =>
      match Js.truthy manager.organizationId with
      | none => .error (.http .forbidden "조직 관리자만 구성원을 초대할 수 있습니다.")
      | some organizationId => .ok organizationId

/-- `invitableRole`: a stored role that no invitation may carry is an error. -/
def invitableRole (role : UserRole) : Except ServiceException UserRole :=
  if role = .organization ∨ role = .proctor then .ok role
  else .error (.http .badRequest "초대 권한이 올바르지 않습니다.")

/-- `toInvitation`: a row with its organization, as it is returned to the caller. -/
def toInvitation (row : IncludedInvitation) (email : String) :
    Except ServiceException OrganizationInvitation := do
  let requestedRole ← invitableRole row.invitation.requestedRole
  .ok { id := row.invitation.id, token := row.invitation.token,
        organization := toOrganization (some row.organization), email, requestedRole,
        status := row.invitation.status,
        createdAt := Js.toISOString row.invitation.createdAt,
        acceptedAt := row.invitation.acceptedAt.map Js.toISOString,
        message := "초대 상대 계정에 조직 초대 알림을 등록했습니다." }

/-! ### The transaction of an acceptance -/

/-- The new columns of the invited user's row. -/
def joinOrganization (invitation : InvitationRow) (u : UserRow) : UserRow :=
  { u with organizationId := some invitation.organizationId, role := invitation.requestedRole }

/-- `tx.user.updateMany`: the row of the user while it has no organization. -/
def claimUser (session : AuthSession) (invitation : InvitationRow) (db : Database) :
    Except ServiceException Database := do
  let (db, count) ← db.updateUsers
    (fun u => u.id = session.user.id ∧ u.organizationId = none) (joinOrganization invitation)
    fun _ => rfl
  -- The condition is part of the statement: after another acceptance it matches no row.
  if count ≠ 1 then .error (.http .conflict "이미 다른 조직에 소속된 계정입니다.") else .ok db

/-- `tx.organizationInvitation.updateMany`: the invitation while it is pending. -/
def claimInvitation (session : AuthSession) (invitation : InvitationRow) (now : Int)
    (db : Database) : Except ServiceException Database := do
  let (db, count) ← db.updateInvitations
    (fun i => i.id = invitation.id ∧ i.invitedUserId = session.user.id ∧ i.status = .pending)
    (fun i => { i with status := .accepted, acceptedAt := some now }) fun _ => rfl
  -- An exception takes the update of the user back with it.
  if count ≠ 1 then .error (.http .conflict "이미 처리된 조직 초대입니다.") else .ok db

/-- The `findUnique` at the end of the transaction. -/
def readAccepted (db : Database) (id : String) : Except ServiceException IncludedInvitation :=
  match db.findInvitation id with
  | none => .error (.http .notFound "조직 초대를 찾을 수 없습니다.")
  | some invitation => db.includeOrganization invitation

/-- The transaction of `acceptInvitation`: the user first, then the invitation. -/
def acceptTransaction (session : AuthSession) (invitation : InvitationRow) (now : Int)
    (db : Database) : Except ServiceException (Database × IncludedInvitation) := do
  -- Both updates test their row again, because the reads before the transaction may be old.
  let db ← claimUser session invitation db
  let db ← claimInvitation session invitation now db
  let accepted ← readAccepted db invitation.id
  .ok (db, accepted)

/-! ### The calls and their suspensions -/

/-- The calls of the service that write: an invitation, and its acceptance. -/
inductive Call where
  | createInvitation (input : CreateInput)
  | acceptInvitation (invitationId : String)

/-- A call that is suspended at one of its awaits while the statement is outstanding. Each
constructor is one await of the source and carries the local variables that are read after it. -/
inductive Waiting where
  | createReadsManager (input : CreateInput)
  | createReadsUser (parsed : CreateInput) (organizationId : String)
  | createReadsPending (parsed : CreateInput) (organizationId : String) (invitedUser : UserRow)
  | createWrites (parsed : CreateInput) (organizationId : String) (invitedUser : UserRow)
      (id token : String)
  | acceptReads (invitationId : String)
  | acceptCommits (invitation : InvitationRow)

/-- A call whose statement has been answered and that waits to be resumed. Each constructor holds
the answer beside the local variables of its await. -/
inductive Ready where
  | managerRead (input : CreateInput) (manager : Option UserRow)
  | userRead (parsed : CreateInput) (organizationId : String) (invitedUser : Option UserRow)
  | pendingRead (parsed : CreateInput) (organizationId : String) (invitedUser : UserRow)
      (pending : Option InvitationRow)
  | invitationRead (invitation : Option InvitationRow)
  | written (row : IncludedInvitation) (email : String)

section
variable (ctx : AuthContext) (session : AuthSession)

/-- The first segment of each call, up to its first statement. -/
def start : Call → Except ServiceException Waiting
  | .createInvitation input => .ok (.createReadsManager input)
  | .acceptInvitation invitationId => .ok (.acceptReads invitationId)

/-- `createInvitation` after `managedOrganizationId` has read the manager. -/
def createAfterManager (input : CreateInput) (manager : Option UserRow) :
    Except ServiceException Waiting := do
  let organizationId ← managedOrganizationId manager
  -- The body is looked at only when the manager is known.
  let parsed ← parseCreateInput ctx input
  .ok (.createReadsUser parsed organizationId)

/-- `createInvitation` after `user.findUnique`: the account must exist and be without organization.
-/
def createAfterUser (parsed : CreateInput) (organizationId : String) :
    Option UserRow → Except ServiceException Waiting
  | none => .error (.http .notFound "가입된 계정 이메일을 찾을 수 없습니다.")
  | some invitedUser =>
      if (Js.truthy invitedUser.organizationId).isSome then
        .error (.http .conflict "이미 조직에 소속된 계정입니다.")
      else .ok (.createReadsPending parsed organizationId invitedUser)

/-- `createInvitation` after `organizationInvitation.findFirst`: one pending invitation is enough.
-/
def createAfterPending (input : AccountInput) (parsed : CreateInput) (organizationId : String)
    (invitedUser : UserRow) : Option InvitationRow → Except ServiceException Waiting
  | some _ => .error (.http .conflict "이 계정에는 이미 대기 중인 초대가 있습니다.")
  | none => .ok (.createWrites parsed organizationId invitedUser
      (shortId "org_invite_" input.uuid) input.secondUuid)

/-- `acceptInvitation` after `organizationInvitation.findUnique`: the caller's own pending
invitation. -/
def acceptAfterRead : Option InvitationRow → Except ServiceException Waiting
  | none => .error (.http .notFound "조직 초대를 찾을 수 없습니다.")
  | some invitation =>
      if invitation.invitedUserId ≠ session.user.id then
        .error (.http .forbidden "본인에게 온 초대만 수락할 수 있습니다.")
      else if invitation.status ≠ .pending then
        .error (.http .conflict "이미 처리된 조직 초대입니다.")
      else .ok (.acceptCommits invitation)

/-- The awaited statement: the new database and the reply. -/
def statement (pc : Waiting) (input : AccountInput) (db : Database) :
    Except ServiceException (Database × Ready) :=
  match pc with
  | .createReadsManager data => .ok (db, .managerRead data (db.findUser session.user.id))
  | .createReadsUser parsed organizationId =>
      .ok (db, .userRead parsed organizationId (db.findUserByEmail parsed.email))
  | .createReadsPending parsed organizationId invitedUser =>
      .ok (db, .pendingRead parsed organizationId invitedUser
        (db.findPendingInvitation organizationId invitedUser.id))
  | .createWrites parsed organizationId invitedUser id token => do
      let row : InvitationRow :=
        { id, token, organizationId, invitedUserId := invitedUser.id,
          requestedRole := parsed.requestedRole, invitedById := session.user.id,
          createdAt := input.dateNow }
      let db ← db.createInvitation row
      let included ← db.includeOrganization row
      .ok (db, .written included invitedUser.email)
  | .acceptReads invitationId =>
      match db.findInvitation invitationId with
      | none => .ok (db, .invitationRead none)
      | some invitation => do
          -- The organization is read along, and not used.
          let _ ← db.includeOrganization invitation
          .ok (db, .invitationRead (some invitation))
  | .acceptCommits invitation => do
      let (db, accepted) ← acceptTransaction session invitation input.dateNow db
      .ok (db, .written accepted session.user.email)

/-- The next segment of each call, after the reply to its last statement. -/
def resume (reply : Ready) (input : AccountInput) :
    Outcome Waiting (Except ServiceException OrganizationInvitation) :=
  match reply with
  | .managerRead data manager => awaitOrThrow (createAfterManager ctx data manager)
  | .userRead parsed organizationId invitedUser =>
      awaitOrThrow (createAfterUser parsed organizationId invitedUser)
  | .pendingRead parsed organizationId invitedUser pending =>
      awaitOrThrow (createAfterPending input parsed organizationId invitedUser pending)
  | .invitationRead invitation => awaitOrThrow (acceptAfterRead session invitation)
  | .written row email => conclude (toInvitation row email)

end

end Dcvp.Services.OrganizationInvitations
