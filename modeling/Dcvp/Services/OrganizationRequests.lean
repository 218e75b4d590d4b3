import Dcvp.Services.AccountInput

/-!
# `Dcvp.Services.OrganizationRequests`: requests to join an organization

The class `OrganizationRequestsService` of `services/organization-requests.service.ts`. A
user asks for a place or a role in an organization (`createRequest`), and a manager of the
organization or an operator approves or rejects the request (`reviewRequest`).

`createRequest` judges the request by the session of the user (`assertRequestAllowed`).
`reviewRequest` writes the role and the organization of the user in one transaction with the
status of the request.
-/

set_option autoImplicit false

namespace Dcvp.Services.OrganizationRequests

open Dcvp.Lib
open Dcvp.Shared (AuthSession Organization UserRole)
open Database (IncludedAccessRequest)

/-- `CreateOrganizationAccessRequestInput`: the organization is named by its join code. -/
structure CreateInput where
  joinCode : String
  requestedRole : UserRole
  reason : String
  deriving DecidableEq

/-- `Pick<User, "id" | "name" | "email">`: what a reviewer sees of the user who asks. -/
structure Applicant where
  id : String
  name : String
  email : String
  deriving DecidableEq

/-- `OrganizationAccessRequest`: a request as the API shows it, with applicant and organization. -/
structure OrganizationAccessRequest where
  id : String
  user : Applicant
  organization : Organization
  requestedRole : UserRole
  reason : String
  status : ReviewStatus
  rejectionReason : Option String
  reviewedById : Option String
  createdAt : String
  reviewedAt : Option String
  deriving DecidableEq

/-! ### Checks -/

/-- `parseCreateInput`: the trimmed fields, neither of them empty, and one of three roles. -/
def parseCreateInput (ctx : AuthContext) (input : CreateInput) :
    Except ServiceException CreateInput :=
  let joinCode := ctx.text.toUpperCase (Js.trim input.joinCode)
  let reason := Js.trim input.reason
  if joinCode = "" ∨ reason = "" then
    .error (.http .badRequest "조직 코드와 신청 사유를 입력해주세요.")
  else if input.requestedRole ≠ .candidate ∧ input.requestedRole ≠ .proctor ∧
      input.requestedRole ≠ .organization then
    .error (.http .badRequest "요청 권한이 올바르지 않습니다.")
  else .ok { joinCode, requestedRole := input.requestedRole, reason }

/-- `parseReviewInput`: an approval, or a rejection with a default reason. -/
def parseReviewInput : ReviewInput → Except ServiceException ReviewAction :=
  parseReview "조직 접근 요청이 거절되었습니다." "처리 방식이 올바르지 않습니다."

/-- `assertRequestAllowed`: which role the caller may ask for in which organization. -/
def assertRequestAllowed (session : AuthSession) (organizationId : String)
    (requestedRole : UserRole) : Except ServiceException Unit :=
  -- The session decides here, with the organization and the role that it was given.
  match Js.truthy session.user.organizationId with
  | none =>
      if requestedRole ≠ .candidate then
        .error (.http .forbidden "소속이 없는 사용자는 일반 회원 권한만 신청할 수 있습니다.")
      else .ok ()
  | some own =>
      if own ≠ organizationId then
        .error (.http .forbidden "다른 조직에는 권한을 신청할 수 없습니다.")
      else if requestedRole = .candidate then
        .error (.http .badRequest "이미 이 조직에 소속되어 있습니다.")
      else if session.user.role = .proctor ∧ requestedRole = .organization then .ok ()
      else if session.user.role = .candidate ∧
          (requestedRole = .proctor ∨ requestedRole = .organization) then .ok ()
      else .error (.http .conflict "현재 권한에는 이 요청이 필요하지 않습니다.")

/-- `assertCanReview`: the session is one of an operator or of an organization's administrator. -/
def assertCanReview (session : AuthSession) : Except ServiceException Unit :=
  if session.user.role ≠ .admin ∧ session.user.role ≠ .organization then
    .error (.http .forbidden "조직 요청은 조직 관리자만 처리할 수 있습니다.")
  else .ok ()

/-- `organizationId`: the organization of the session, or a refusal. -/
def organizationId (session : AuthSession) : Except ServiceException String :=
  match Js.truthy session.user.organizationId with
  | none => .error (.http .forbidden "조직 소속이 필요합니다.")
  | some id => .ok id

/-- The test of a manager against the organization of a request. -/
def assertOwnOrganization (session : AuthSession) (request : AccessRequestRow) :
    Except ServiceException Unit :=
  if session.user.role = .admin then .ok ()
  else do
    let own ← organizationId session
    if request.organizationId ≠ own then
      .error (.http .forbidden "자기 조직의 요청만 처리할 수 있습니다.")
    else .ok ()

/-- `requestableRole`: a stored role that no request may carry is an error. -/
def requestableRole (role : UserRole) : Except ServiceException UserRole :=
  if role = .candidate ∨ role = .proctor ∨ role = .organization then .ok role
  else .error (.http .badRequest "저장된 요청 권한이 올바르지 않습니다.")

/-- `toRequest`: a row with its user and its organization, as it is returned to the caller. -/
def toRequest (row : IncludedAccessRequest) :
    Except ServiceException OrganizationAccessRequest := do
  let requestedRole ← requestableRole row.request.requestedRole
  .ok { id := row.request.id,
        user := { id := row.user.id, name := row.user.name, email := row.user.email },
        organization := toOrganization (some row.organization),
        requestedRole, reason := row.request.reason, status := row.request.status,
        rejectionReason := row.request.rejectionReason,
        reviewedById := row.request.reviewedById,
        createdAt := Js.toISOString row.request.createdAt,
        reviewedAt := row.request.reviewedAt.map Js.toISOString }

/-! ### The transaction of a review -/

/-- The new columns of the applicant's row. -/
def grantRole (request : AccessRequestRow) (u : UserRow) : UserRow :=
  { u with organizationId := some request.organizationId, role := request.requestedRole }

/-- `tx.user.update`, for an approval only; a rejection leaves the user alone. -/
def applyDecision (db : Database) (request : AccessRequestRow) :
    ReviewAction → Except ServiceException Database
  | .approve => Prod.fst <$> db.updateUser request.userId (grantRole request) fun _ => rfl
  | .reject _ => .ok db

/-- The transaction of `reviewRequest`: the user's role first, then the request. -/
def reviewTransaction (session : AuthSession) (request : AccessRequestRow)
    (action : ReviewAction) (now : Int) (db : Database) :
    Except ServiceException (Database × IncludedAccessRequest) := do
  let db ← applyDecision db request action
  -- The update names the request by its identifier. Its status is not tested again.
  let (db, row) ← db.updateAccessRequest request.id
    (fun r => { r with
      status := action.status, rejectionReason := action.rejectionReason,
      reviewedById := some session.user.id, reviewedAt := some now })
    fun _ => rfl
  let included ← db.includeRelations row
  .ok (db, included)

/-! ### The calls and their suspensions -/

/-- The calls of the service that write: a request, and its review. -/
inductive Call where
  | createRequest (input : CreateInput)
  | reviewRequest (requestId : String) (input : ReviewInput)

/-- A call that is suspended at one of its awaits while the statement is outstanding. Each
constructor is one await of the source and carries the local variables that are read after it. -/
inductive Waiting where
  | createReadsOrganization (parsed : CreateInput)
  | createReadsPending (parsed : CreateInput) (organization : OrganizationRow)
  | createWrites (parsed : CreateInput) (organization : OrganizationRow) (id : String)
  | reviewReads (requestId : String) (action : ReviewAction)
  | reviewCommits (request : AccessRequestRow) (action : ReviewAction)

/-- A call whose statement has been answered and that waits to be resumed. Each constructor holds
the answer beside the local variables of its await. -/
inductive Ready where
  | organizationRead (parsed : CreateInput) (organization : Option OrganizationRow)
  | pendingRead (parsed : CreateInput) (organization : OrganizationRow)
      (pending : Option AccessRequestRow)
  | requestRead (action : ReviewAction) (request : Option AccessRequestRow)
  | written (row : IncludedAccessRequest)

section
variable (ctx : AuthContext) (session : AuthSession)

/-- The message of `createRequest` and `reviewRequest` without a database. -/
def unavailable (message : String) : ServiceException := .http .serviceUnavailable message

/-- `createRequest`, up to its first statement; without a database it is refused. -/
def createRequest (input : CreateInput) : Except ServiceException Waiting :=
  if ctx.env.databaseAvailable then do
    let parsed ← parseCreateInput ctx input
    .ok (.createReadsOrganization parsed)
  else .error (unavailable "조직 요청을 제출하려면 데이터베이스 연결이 필요합니다.")

/-- `createRequest` after `organization.findUnique`: the code must exist and the role be allowed.
-/
def createAfterOrganization (parsed : CreateInput) :
    Option OrganizationRow → Except ServiceException Waiting
  | none => .error (.http .notFound "조직 코드를 찾을 수 없습니다.")
  | some organization => do
      assertRequestAllowed session organization.id parsed.requestedRole
      .ok (.createReadsPending parsed organization)

/-- `createRequest` after `organizationAccessRequest.findFirst`: one pending request is enough. -/
def createAfterPending (input : AccountInput) (parsed : CreateInput)
    (organization : OrganizationRow) : Option AccessRequestRow → Except ServiceException Waiting
  | some _ => .error (.http .conflict "처리 대기 중인 조직 요청이 이미 있습니다.")
  | none => .ok (.createWrites parsed organization (shortId "org_request_" input.uuid))

/-- `reviewRequest`, up to its first statement: the caller's role, then the action. -/
def reviewRequest (requestId : String) (input : ReviewInput) :
    Except ServiceException Waiting := do
  assertCanReview session
  if ctx.env.databaseAvailable then do
    let action ← parseReviewInput input
    .ok (.reviewReads requestId action)
  else .error (unavailable "조직 요청을 처리하려면 데이터베이스 연결이 필요합니다.")

/-- `reviewRequest` after `organizationAccessRequest.findUnique`: a pending one of the own
organization. -/
def reviewAfterRead (action : ReviewAction) :
    Option AccessRequestRow → Except ServiceException Waiting
  | none => .error (.http .notFound "조직 요청을 찾을 수 없습니다.")
  | some request => do
      assertOwnOrganization session request
      if request.status ≠ .pending then
        .error (.http .conflict "이미 처리된 조직 요청입니다.")
      else .ok (.reviewCommits request action)

/-- The first segment of each call, up to its first statement. -/
def start : Call → Except ServiceException Waiting
  | .createRequest input => createRequest ctx input
  | .reviewRequest requestId input => reviewRequest ctx session requestId input

/-- The awaited statement: the new database and the reply. -/
def statement (pc : Waiting) (input : AccountInput) (db : Database) :
    Except ServiceException (Database × Ready) :=
  match pc with
  | .createReadsOrganization parsed =>
      .ok (db, .organizationRead parsed (db.findOrganizationByJoinCode parsed.joinCode))
  | .createReadsPending parsed organization =>
      .ok (db, .pendingRead parsed organization (db.findPendingAccessRequest session.user.id))
  | .createWrites parsed organization id => do
      let row : AccessRequestRow :=
        { id, userId := session.user.id, organizationId := organization.id,
          requestedRole := parsed.requestedRole, reason := parsed.reason,
          createdAt := input.dateNow }
      let db ← db.createAccessRequest row
      let included ← db.includeRelations row
      .ok (db, .written included)
  | .reviewReads requestId action =>
      match db.findAccessRequest requestId with
      | none => .ok (db, .requestRead action none)
      | some request => do
          -- The relations are read along, and not used.
          let _ ← db.includeRelations request
          .ok (db, .requestRead action (some request))
  | .reviewCommits request action => do
      let (db, included) ← reviewTransaction session request action input.dateNow db
      .ok (db, .written included)

/-- The next segment of each call, after the reply to its last statement. -/
def resume (reply : Ready) (input : AccountInput) :
    Outcome Waiting (Except ServiceException OrganizationAccessRequest) :=
  match reply with
  | .organizationRead parsed organization =>
      awaitOrThrow (createAfterOrganization session parsed organization)
  | .pendingRead parsed organization pending =>
      awaitOrThrow (createAfterPending input parsed organization pending)
  | .requestRead action request => awaitOrThrow (reviewAfterRead session action request)
  | .written row => conclude (toRequest row)

end

end Dcvp.Services.OrganizationRequests
