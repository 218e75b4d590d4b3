import Dcvp.Services.AccountInput

/-!
# `Dcvp.Services.AdminSignupRequests`: requests to found an organization

The class `AdminSignupRequestsService` of `services/admin-signup-requests.service.ts`, as far
as it writes. A visitor (`createRequest`) or a registered user without an organization
(`createRequestForRegisteredUser`) asks for a new organization. The request of a registered
user is stored with an empty password hash. An operator decides (`reviewRequest`): an
approval creates the organization, and its first manager is the account with the e-mail of
the request, or a new account.

`runDatabase` answers `undefined` for every error, so each method turns a failed statement
into a message of its own. The two reads of `createRequest` are both made before their
answers are looked at, so the first one can be `undefined` while the second is made.
-/

set_option autoImplicit false

namespace Dcvp.Services.AdminSignupRequests

open Dcvp.Lib
open Dcvp.Shared (AuthSession UserRole)

/-- `CreateAdminSignupRequestInput`: the request of somebody without an account, who chooses a
password with it. -/
structure CreateInput where
  organizationName : String
  name : String
  email : String
  password : String
  reason : String
  deriving DecidableEq

/-- `CreateOrganizationSignupRequestInput`: the request of a signed-in user without an
organization. -/
structure RegisteredInput where
  organizationName : String
  reason : String
  deriving DecidableEq

/-- `AdminSignupRequest`: a request as the API shows it. The password hash of the row is not part
of it. -/
structure AdminSignupRequest where
  id : String
  organizationName : String
  name : String
  email : String
  requestedRole : UserRole := .organization
  status : ReviewStatus
  rejectionReason : Option String
  reviewedById : Option String
  approvedUserId : Option String
  createdAt : String
  reviewedAt : Option String
  deriving DecidableEq

/-- `toSignupRequest`: a row as the API shows it, without the password hash. -/
def toSignupRequest (request : SignupRequestRow) : AdminSignupRequest where
  id := request.id
  organizationName := request.organizationName
  name := request.name
  email := request.email
  status := request.status
  rejectionReason := request.rejectionReason
  reviewedById := request.reviewedById
  approvedUserId := request.approvedUserId
  createdAt := Js.toISOString request.createdAt
  reviewedAt := request.reviewedAt.map Js.toISOString

/-! ### Checks -/

/-- `parseSignupRequestInput`: the trimmed fields, none of them empty, a strong password and an
address with an `@`. -/
def parseSignupRequestInput (ctx : AuthContext) (input : CreateInput) :
    Except ServiceException CreateInput :=
  let organizationName := Js.trim input.organizationName
  let name := Js.trim input.name
  let email := ctx.text.toLowerCase (Js.trim input.email)
  let reason := Js.trim input.reason
  if organizationName = "" ∨ name = "" ∨ email = "" ∨ reason = "" ∨
      ¬ ctx.hashing.isStrongPassword input.password then
    .error (.http .badRequest ("조직명, 이름, 이메일, 신청 사유와 " ++ passwordPolicyMessage))
  else if ¬ Js.includes email '@' then
    .error (.http .badRequest "올바른 이메일을 입력해주세요.")
  else .ok { organizationName, name, email, password := input.password, reason }

/-- `parseReviewAction`, with the two texts of this service. -/
def parseReviewAction : ReviewInput → Except ServiceException ReviewAction :=
  parseReview "운영자가 가입 신청을 거절했습니다." "승인 또는 거절만 처리할 수 있습니다."

/-- `assertOperator`: only operators review requests for an organization. -/
def assertOperator (session : AuthSession) : Except ServiceException Unit :=
  if session.user.role ≠ .admin then
    .error (.http .forbidden "운영자만 관리자 가입 신청을 처리할 수 있습니다.")
  else .ok ()

/-- The test of the applicant in `createRequestForRegisteredUser`. -/
def assertUnaffiliated (session : AuthSession) : Except ServiceException Unit :=
  if session.user.role = .admin ∨ (Js.truthy session.user.organizationId).isSome then
    .error (.http .forbidden "소속 없는 일반 계정만 새 조직을 신청할 수 있습니다.")
  else .ok ()

/-! ### The transaction of an approval -/

/-- The organization that an approval creates, under the name of the request. -/
def newOrganization (ctx : AuthContext) (input : AccountInput) (request : SignupRequestRow) :
    OrganizationRow :=
  createdOrganization ctx input request.organizationName

/-- The account that an approval creates for a visitor. -/
def newManager (input : AccountInput) (request : SignupRequestRow) (organizationId : String) :
    UserRow where
  id := shortId "user_" input.thirdUuid
  email := request.email
  passwordHash := request.passwordHash
  name := request.name
  role := .organization
  organizationId := some organizationId
  passwordChangedAt := some input.dateNow
  createdAt := input.dateNow

/-- The columns that an approval writes in the row of a registered user. -/
def promote (organizationId : String) (u : UserRow) : UserRow :=
  { u with role := .organization, organizationId := some organizationId }

/-- `tx.user.update` or `tx.user.create`: an account that exists becomes the head of the
organization, else one is created from the request. -/
def appointManager (input : AccountInput) (request : SignupRequestRow)
    (organizationId : String) (existingUser : Option UserRow) (db : Database) :
    Except ServiceException (Database × UserRow) :=
  match existingUser with
  -- A registered user keeps the own account and password.
  | some existing => db.updateUser existing.id (promote organizationId) fun _ => rfl
  | none => db.createUser (newManager input request organizationId)

/-- The transaction of `reviewRequest` for an approval: organization, head, and the request with
its decision, or none of them. -/
def approveTransaction (ctx : AuthContext) (reviewerId : String) (request : SignupRequestRow)
    (existingUser : Option UserRow) (input : AccountInput) (db : Database) :
    Except ServiceException (Database × SignupRequestRow) := do
  let organization := newOrganization ctx input request
  let db ← db.createOrganization organization
  let (db, user) ← appointManager input request organization.id existingUser db
  db.updateSignupRequest request.id
    (fun r => { r with
      status := .approved, reviewedById := some reviewerId, approvedUserId := some user.id,
      reviewedAt := some input.dateNow })
    fun _ => rfl

/-! ### The calls and their suspensions -/

/-- The calls of the service: the two ways to ask, and the review. -/
inductive Call where
  | createRequest (input : CreateInput)
  | createRequestForRegisteredUser (session : AuthSession) (input : RegisteredInput)
  | reviewRequest (session : AuthSession) (requestId : String) (input : ReviewInput)

/-- A call that is suspended at one of its awaits while the statement is outstanding. Each
constructor is one await of the source and carries the local variables that are read after it. -/
inductive Waiting where
  | createReadsUser (parsed : CreateInput)
  | createReadsPending (parsed : CreateInput) (existingUser : Option (Option UserRow))
  | createHashes (parsed : CreateInput)
  | createWrites (parsed : CreateInput) (passwordHash id : String)
  | registeredReadsPending (session : AuthSession) (input : RegisteredInput)
  | registeredWrites (session : AuthSession) (input : RegisteredInput) (id : String)
  | reviewReads (session : AuthSession) (requestId : String) (action : ReviewAction)
  | reviewRejects (session : AuthSession) (request : SignupRequestRow)
      (rejectionReason : String)
  | reviewReadsUser (session : AuthSession) (request : SignupRequestRow)
  | reviewCommits (session : AuthSession) (request : SignupRequestRow)
      (existingUser : Option UserRow)

/-- A call whose statement has been answered and that waits to be resumed. Each constructor holds
the answer beside the local variables of its await. -/
inductive Ready where
  | userRead (parsed : CreateInput) (existingUser : Option (Option UserRow))
  | pendingRead (parsed : CreateInput) (existingUser : Option (Option UserRow))
      (existingPendingRequest : Option SignupRequestRow)
  | hashed (parsed : CreateInput) (passwordHash : String)
  | registeredPendingRead (session : AuthSession) (input : RegisteredInput)
      (pending : Option SignupRequestRow)
  | requestRead (session : AuthSession) (action : ReviewAction)
      (request : Option SignupRequestRow)
  | reviewUserRead (session : AuthSession) (request : SignupRequestRow)
      (existingUser : Option UserRow)
  | written (request : SignupRequestRow)

section
variable (ctx : AuthContext)

/-- `createRequest`, up to its first statement: the input is checked, and without a database the
call ends. -/
def createRequest (input : CreateInput) : Except ServiceException Waiting :=
  if ctx.env.databaseAvailable then do
    let parsed ← parseSignupRequestInput ctx input
    .ok (.createReadsUser parsed)
  else .error (.http .serviceUnavailable
    "DB 연결이 필요합니다. 운영자 승인 신청은 저장 가능한 DB가 있어야 사용할 수 있습니다.")

/-- The message of `createRequest` for a statement that answered `undefined`. -/
def createUnavailable : ServiceException :=
  .http .serviceUnavailable "DB 연결이 필요합니다. 운영자 승인 신청을 저장할 수 없습니다."

/-- `createRequest` after its two reads: neither an account nor an open request may have the
address. -/
def createAfterReads (parsed : CreateInput) (existingUser : Option (Option UserRow))
    (existingPendingRequest : Option SignupRequestRow) : Except ServiceException Waiting :=
  match existingUser with
  -- `none` is the `undefined` of a read that failed.
  | none => .error createUnavailable
  | some existingUser =>
      if existingUser.isSome ∨ existingPendingRequest.isSome then
        .error (.http .conflict "이미 등록되었거나 승인 대기 중인 이메일입니다.")
      else .ok (.createHashes parsed)

/-- `createRequestForRegisteredUser`, up to its first statement: the caller must not belong to an
organization by the session's own data. -/
def createRequestForRegisteredUser (session : AuthSession) (input : RegisteredInput) :
    Except ServiceException Waiting :=
  if ctx.env.databaseAvailable then do
    assertUnaffiliated session
    let organizationName := Js.trim input.organizationName
    let reason := Js.trim input.reason
    if organizationName = "" ∨ reason = "" then
      .error (.http .badRequest "조직명과 신청 사유를 입력해 주세요.")
    else .ok (.registeredReadsPending session { organizationName, reason })
  else .error (.http .serviceUnavailable
    "조직 생성 신청을 저장하려면 데이터베이스 연결이 필요합니다.")

/-- `createRequestForRegisteredUser` after `adminSignupRequest.findFirst`: an open request of the
caller excludes another. -/
def registeredAfterPending (input : AccountInput) (session : AuthSession)
    (data : RegisteredInput) : Option SignupRequestRow → Except ServiceException Waiting
  | some _ => .error (.http .conflict "처리 대기 중인 조직 생성 신청이 이미 있습니다.")
  | none => .ok (.registeredWrites session data (shortId "signup_" input.uuid))

/-- `reviewRequest`, up to its first statement: the rights and the decision are checked before the
request is read. -/
def reviewRequest (session : AuthSession) (requestId : String) (input : ReviewInput) :
    Except ServiceException Waiting := do
  assertOperator session
  let action ← parseReviewAction input
  if ctx.env.databaseAvailable then .ok (.reviewReads session requestId action)
  else .error (.http .serviceUnavailable
    "DB 연결이 필요합니다. 관리자 가입 신청을 승인할 수 없습니다.")

/-- `reviewRequest` after `adminSignupRequest.findUnique`: only an open request goes on, to a
rejection or to the lookup of its account. -/
def reviewAfterRead (session : AuthSession) (action : ReviewAction) :
    Option SignupRequestRow → Except ServiceException Waiting
  | none => .error (.http .notFound "가입 신청을 찾을 수 없습니다.")
  | some request =>
      if request.status ≠ .pending then
        .error (.http .conflict "이미 처리된 가입 신청입니다.")
      else
        match action with
        | .reject rejectionReason => .ok (.reviewRejects session request rejectionReason)
        | .approve => .ok (.reviewReadsUser session request)

/-- `reviewRequest` after the lookup of the applicant's account. -/
def reviewAfterUser (session : AuthSession) (request : SignupRequestRow)
    (existingUser : Option UserRow) : Except ServiceException Waiting :=
  -- The request of a registered user has no hash, that of a visitor has one.
  if request.passwordHash = "" ∧ existingUser = none then
    .error (.http .notFound "조직 생성 신청자의 계정을 찾을 수 없습니다.")
  else if existingUser ≠ none ∧ request.passwordHash ≠ "" then
    .error (.http .conflict "이미 같은 이메일의 사용자가 있습니다.")
  else .ok (.reviewCommits session request existingUser)

/-- The first segment of each call of the service. -/
def start : Call → Except ServiceException Waiting
  | .createRequest input => createRequest ctx input
  | .createRequestForRegisteredUser session input =>
      createRequestForRegisteredUser ctx session input
  | .reviewRequest session requestId input => reviewRequest ctx session requestId input

/-- `adminSignupRequest.create`, with the row as its answer. -/
def insertRequest (row : SignupRequestRow) (db : Database) :
    Except ServiceException (Database × Ready) := do
  let db ← db.createSignupRequest row
  .ok (db, .written row)

/-- The awaited statement: the new database and the reply. The derivation of a password hash
is an awaited operation as well. -/
def statement (pc : Waiting) (input : AccountInput) (db : Database) :
    Except ServiceException (Database × Ready) :=
  match pc with
  | .createReadsUser parsed => .ok (db, .userRead parsed (some (db.findUserByEmail parsed.email)))
  | .createReadsPending parsed existingUser =>
      .ok (db, .pendingRead parsed existingUser (db.findPendingSignupRequest parsed.email))
  | .createHashes parsed => do
      let hash ← createPasswordHash ctx.hashing input.createBusy input.salt parsed.password
      .ok (db, .hashed parsed hash)
  | .createWrites parsed passwordHash id =>
      insertRequest
        { id, organizationName := parsed.organizationName, name := parsed.name,
          email := parsed.email, passwordHash, reason := parsed.reason,
          createdAt := input.dateNow } db
  | .registeredReadsPending session data =>
      .ok (db, .registeredPendingRead session data
        (db.findPendingSignupRequest session.user.email))
  | .registeredWrites session data id =>
      -- The account exists, so the request takes no password.
      insertRequest
        { id, organizationName := data.organizationName, name := session.user.name,
          email := session.user.email, passwordHash := "", reason := data.reason,
          createdAt := input.dateNow } db
  | .reviewReads session requestId action =>
      .ok (db, .requestRead session action (db.findSignupRequest requestId))
  | .reviewRejects session request rejectionReason => do
      let (db, row) ← db.updateSignupRequest request.id
        (fun r => { r with
          status := .rejected, rejectionReason := some rejectionReason,
          reviewedById := some session.user.id, reviewedAt := some input.dateNow })
        fun _ => rfl
      .ok (db, .written row)
  | .reviewReadsUser session request =>
      .ok (db, .reviewUserRead session request (db.findUserByEmail request.email))
  | .reviewCommits session request existingUser => do
      let (db, row) ← approveTransaction ctx session.user.id request existingUser input db
      .ok (db, .written row)

/-- The next segment of each call, by the answer that it waited for. -/
def resume (reply : Ready) (input : AccountInput) :
    Outcome Waiting (Except ServiceException AdminSignupRequest) :=
  match reply with
  | .userRead parsed existingUser => .suspended (.createReadsPending parsed existingUser)
  | .pendingRead parsed existingUser existingPendingRequest =>
      awaitOrThrow (createAfterReads parsed existingUser existingPendingRequest)
  | .hashed parsed passwordHash =>
      .suspended (.createWrites parsed passwordHash (shortId "signup_" input.uuid))
  | .registeredPendingRead session data pending =>
      awaitOrThrow (registeredAfterPending input session data pending)
  | .requestRead session action request => awaitOrThrow (reviewAfterRead session action request)
  | .reviewUserRead session request existingUser =>
      awaitOrThrow (reviewAfterUser session request existingUser)
  | .written request => conclude (.ok (toSignupRequest request))

/-- What a call does when its statement throws. The hash is derived outside of
`runDatabase`, so its exception leaves the call. -/
def failure (pc : Waiting) (error : ServiceException) :
    Outcome Waiting (Except ServiceException AdminSignupRequest) :=
  match pc with
  | .createReadsUser parsed => .suspended (.createReadsPending parsed none)
  | .createReadsPending .. | .createWrites .. => conclude (.error createUnavailable)
  | .createHashes _ => conclude (.error error)
  | .registeredReadsPending .. | .registeredWrites .. =>
      conclude (.error (.http .serviceUnavailable "조직 생성 신청을 저장할 수 없습니다."))
  | .reviewReads .. => conclude (.error (.http .serviceUnavailable
      "DB 연결이 필요합니다. 관리자 가입 신청을 승인할 수 없습니다."))
  | .reviewRejects .. => conclude (.error (.http .serviceUnavailable
      "가입 신청 거절 상태를 저장할 수 없습니다."))
  | .reviewReadsUser .. => conclude (.error (.http .serviceUnavailable
      "DB 연결이 필요합니다. 관리자 계정을 생성할 수 없습니다."))
  | .reviewCommits .. => conclude (.error (.http .serviceUnavailable
      "관리자 계정을 생성할 수 없습니다."))

end

end Dcvp.Services.AdminSignupRequests
