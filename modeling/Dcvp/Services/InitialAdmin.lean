import Dcvp.Modules.AdminUsersController

/-!
# `Dcvp.Services.InitialAdmin`: the first account of a platform

`setupStatus` and `createInitialAdmin` of `services/auth.service.ts`. Both are open to
visitors. The second one creates an organization and an operator, in a serializable
transaction that first counts the users.

`setupProgram` runs them beside `controllerProgram`, so beside every other call that creates,
changes or removes a user. The transaction has two moments here: it reads in a snapshot, and it
commits later. Other calls write in between. A registration writes its user outside of a
serializable transaction, so the commit does not notice it. Of two setup transactions that
overlap, each has read what the other one writes, and the database lets only one of them
commit: `SetupDatabase.setups` counts the commits, and a commit fails when the count is not the
one of its snapshot. A serialization failure can also come from outside, at any time.

The columns of the privacy consent are left out, because nothing reads them.
-/

set_option autoImplicit false

namespace Dcvp.Services.InitialAdmin

open Dcvp.Lib
open Dcvp.Modules.AdminUsersController
open Dcvp.Shared (AuthSession currentPrivacyPolicyVersion)

/-! ### Inputs and answers -/

/-- `CreateInitialAdminInput`: the first account of a platform and its organization. -/
structure CreateInitialAdminInput where
  organizationName : String
  name : String
  email : String
  password : String
  privacyConsentAccepted : Bool
  privacyPolicyVersion : String
  deriving DecidableEq

/-- The reasons of `SetupStatus`: setup is open, has been closed by an account, or cannot be known
without a database. -/
inductive SetupReason where
  | ready
  | usersExist
  | databaseUnavailable
  deriving DecidableEq, Repr

/-- `SetupStatus`: what the login page asks before it offers the setup. -/
structure SetupStatus where
  enabled : Bool
  reason : SetupReason
  deriving DecidableEq, Repr

/-- `parseInitialAdminInput`, with `assertCurrentPrivacyConsent` at its end; the name and the
e-mail are trimmed. -/
def parseInitialAdminInput (ctx : AuthContext) (input : CreateInitialAdminInput) :
    Except ServiceException CreateInitialAdminInput :=
  let organizationName := Js.trim input.organizationName
  let name := Js.trim input.name
  let email := ctx.text.toLowerCase (Js.trim input.email)
  if organizationName = "" ∨ Js.length organizationName > 160 ∨ name = "" ∨
      Js.length name > 100 ∨ email = "" ∨ Js.length email > 320 ∨
      ¬ ctx.hashing.isStrongPassword input.password then
    .error (.http .badRequest ("조직명, 이름, 이메일과 " ++ passwordPolicyMessage))
  else if ¬ Js.includes email '@' then
    .error (.http .badRequest "올바른 관리자 이메일을 입력해주세요.")
  else if ¬ input.privacyConsentAccepted ∨
      input.privacyPolicyVersion ≠ currentPrivacyPolicyVersion then
    .error (.http .badRequest "회원가입을 위해 현재 개인정보 수집·이용에 동의해 주세요.")
  else
    .ok { organizationName, name, email, password := input.password,
          privacyConsentAccepted := true, privacyPolicyVersion := currentPrivacyPolicyVersion }

/-! ### The transaction -/

/-- `user.count()`: the users of all roles and organizations. -/
def userCount (db : Database) : Nat := db.users.count fun _ => true

/-- The organization that the setup creates, under the name of the request. -/
def initialOrganization (ctx : AuthContext) (parsed : CreateInitialAdminInput)
    (input : AccountInput) : OrganizationRow :=
  createdOrganization ctx input parsed.organizationName

/-- The operator that the setup creates, the first user of the database. -/
def initialAdmin (parsed : CreateInitialAdminInput) (input : AccountInput)
    (organizationId passwordHash : String) : UserRow where
  id := shortId "user_" input.thirdUuid
  email := parsed.email
  passwordHash := passwordHash
  name := parsed.name
  role := .admin
  organizationId := some organizationId
  passwordChangedAt := some input.dateNow
  createdAt := input.dateNow

/-- What the transaction of `createInitialAdmin` writes: the organization, then its operator. -/
def setupWrites (ctx : AuthContext) (parsed : CreateInitialAdminInput) (input : AccountInput)
    (db : Database) : Except ServiceException (Database × OrganizationRow × UserRow) := do
  let organization := initialOrganization ctx parsed input
  let db ← db.createOrganization organization
  let passwordHash ← createPasswordHash ctx.hashing input.createBusy input.salt parsed.password
  let (db, user) ← db.createUser (initialAdmin parsed input organization.id passwordHash)
  .ok (db, organization, user)

/-- The tables, and the number of setup transactions that have committed. -/
structure SetupDatabase where
  tables : Database
  setups : Nat := 0

/-- The commit of the transaction of `createInitialAdmin`, whose snapshot had `setups`. -/
def commitSetup (ctx : AuthContext) (parsed : CreateInitialAdminInput) (setups : Nat)
    (input : AccountInput) (d : SetupDatabase) :
    Except ServiceException (SetupDatabase × OrganizationRow × UserRow) := do
  if d.setups ≠ setups then .error (.prisma .serializationFailure)
  else
    let (db, organization, user) ← setupWrites ctx parsed input d.tables
    .ok ({ tables := db, setups := d.setups + 1 }, organization, user)

/-! ### The calls and their suspensions -/

/-- A call of the other services, and the two calls of the setup. -/
inductive Call where
  | service (call : ControllerCall)
  | setupStatus
  | createInitialAdmin (input : CreateInitialAdminInput)

/-- A call that is suspended while its operation is outstanding: one of the services below, or one
of the two awaits of the setup. -/
inductive Waiting where
  | service (pc : ControllerWaiting)
  | statusCounts
  | setupBegins (parsed : CreateInitialAdminInput) (retry : Nat)
  | setupCommits (parsed : CreateInitialAdminInput) (retry setups : Nat)

/-- A call whose operation is answered, or has thrown, at the same places as `Waiting`. -/
inductive Ready where
  | service (reply : ControllerReady)
  | statusCounted (userCount : Nat)
  | statusFailed
  | setupBegan (parsed : CreateInitialAdminInput) (retry setups userCount : Nat)
  | setupFailed (parsed : CreateInitialAdminInput) (retry : Nat) (error : ServiceException)
  | setupCommitted (organization : OrganizationRow) (user : UserRow)

/-- What a call answers: the value of a service below, the status, or the first session. -/
inductive Value where
  | service (value : ControllerValue)
  | status (status : SetupStatus)
  | created (session : AuthSession)

/-- The result of a call: its value, or the exception of the service. -/
abbrev Result := Except ServiceException Value

/-- The end of a segment: memory as the segment leaves it, and either the next await or the result.
-/
abbrev Segment := AuthMemory × Outcome Waiting Result

section
variable (ctx : AuthContext)

/-- A segment of another call, as a segment of this program. -/
def ofController : ControllerSegment → Segment
  | (memory, .suspended pc) => (memory, .suspended (.service pc))
  | (memory, .finished result) => (memory, .finished (.service <$> result))

/-! ### The segments -/

/-- The end of `setupStatus`. Without a database, with the demo sign-in and after an error,
`trySetupDatabase` answers `null`. -/
def statusOf : Option Nat → SetupStatus
  | none => { enabled := false, reason := .databaseUnavailable }
  | some userCount =>
      if userCount = 0 then { enabled := true, reason := .ready }
      else { enabled := false, reason := .usersExist }

/-- `setupStatus`, up to its first suspension; without a database it answers at once. -/
def setupStatus (memory : AuthMemory) : Segment :=
  if ctx.env.databaseAvailable && !ctx.env.demoAuthEnabled then
    (memory, .suspended .statusCounts)
  else (memory, .finished (.ok (.status (statusOf none))))

/-- `createInitialAdmin`, up to its first suspension: the checks of the request and of the
environment. -/
def createInitialAdmin (memory : AuthMemory) (input : CreateInitialAdminInput) : Segment :=
  match parseInitialAdminInput ctx input with
  | .error error => (memory, .finished (.error error))
  | .ok parsed =>
      if !ctx.env.databaseAvailable || ctx.env.demoAuthEnabled then
        (memory, .finished (.error (.http .serviceUnavailable
          "Database is required before creating the initial administrator.")))
      else (memory, .suspended (.setupBegins parsed 0))

/-- The `catch` of `createInitialAdmin`: another try after a serialization failure. -/
def afterFailure (memory : AuthMemory) (parsed : CreateInitialAdminInput) (retry : Nat)
    (error : ServiceException) : Segment :=
  if error = .prisma .serializationFailure ∧ retry < 2 then
    (memory, .suspended (.setupBegins parsed (retry + 1)))
  else (memory, .finished (.error error))

/-- The transaction after its count: it goes on only where there is no user. -/
def afterCount (memory : AuthMemory) (parsed : CreateInitialAdminInput)
    (retry setups userCount : Nat) : Segment :=
  if userCount ≠ 0 then
    afterFailure memory parsed retry
      (.http .conflict "Initial administrator already exists.")
  else (memory, .suspended (.setupCommits parsed retry setups))

/-- `createInitialAdmin` after its transaction: the new operator gets a session. -/
def afterCommit (memory : AuthMemory) (input : AuthInput) (organization : OrganizationRow)
    (user : UserRow) : Option Segment :=
  (createSession memory input (toUser user) (toOrganization (some organization))).map
    fun (memory, session) => (memory, .finished (.ok (.created session)))

/-! ### The program -/

/-- The first segment of a call, of the setup or of another service. -/
def start (call : Call) (input : ControllerInput) (memory : AuthMemory) : Option Segment :=
  match call with
  | .service call => (controllerStart ctx call input memory).map ofController
  | .setupStatus => some (setupStatus ctx memory)
  | .createInitialAdmin data => some (createInitialAdmin ctx memory data)

/-- The awaited operation, when it does not fail from outside. -/
def statement (pc : Waiting) (input : ControllerInput) (d : SetupDatabase) :
    Option (SetupDatabase × Ready) :=
  match pc with
  | .service pc =>
      (controllerExecute ctx pc input d.tables).map
        (Prod.map (fun db => { d with tables := db }) .service)
  | .statusCounts => some (d, .statusCounted (userCount d.tables))
  | .setupBegins parsed retry =>
      some (d, .setupBegan parsed retry d.setups (userCount d.tables))
  | .setupCommits parsed retry setups =>
      match commitSetup ctx parsed setups input.account d with
      | .ok (d', organization, user) => some (d', .setupCommitted organization user)
      -- The transaction is rolled back.
      | .error error => some (d, .setupFailed parsed retry error)

/-- The effect of an awaited operation on the database, which may fail instead. -/
def execute (pc : Waiting) (input : ControllerInput) (d : SetupDatabase) :
    Option (SetupDatabase × Ready) :=
  match pc, input.account.fault with
  | .statusCounts, some _ => some (d, .statusFailed)
  | .setupBegins parsed retry, some error => some (d, .setupFailed parsed retry (.prisma error))
  | .setupCommits parsed retry _, some error =>
      some (d, .setupFailed parsed retry (.prisma error))
  | pc, _ => statement ctx pc input d

/-- The next segment of a call, after the operation that it awaited. -/
def resume (reply : Ready) (input : ControllerInput) (memory : AuthMemory) : Option Segment :=
  match reply with
  | .service reply => (controllerResume ctx reply input memory).map ofController
  | .statusCounted userCount => some (memory, .finished (.ok (.status (statusOf userCount))))
  | .statusFailed => some (memory, .finished (.ok (.status (statusOf none))))
  | .setupBegan parsed retry setups userCount =>
      some (afterCount memory parsed retry setups userCount)
  | .setupFailed parsed retry error => some (afterFailure memory parsed retry error)
  | .setupCommitted organization user => afterCommit memory input.auth organization user

/-- The setup beside the other calls, as one program of interleaved calls. -/
def setupProgram :
    AsyncProgram AuthMemory SetupDatabase Call Waiting Ready Result ControllerInput where
  start := start ctx
  execute := execute ctx
  resume := resume ctx

end

/-- The states of the program with the setup: memory, database with its setup transactions, and the
calls in flight. -/
abbrev SetupWorld := World AuthMemory SetupDatabase Waiting Ready Result

/-- The moves of the program with the setup, among them the two statements of the serializable
transaction. -/
abbrev SetupEvent := AsyncEvent Call ControllerInput

/-- The state before the first call, over a database. -/
def setupInitial (db : Database) : SetupWorld := { memory := {}, database := { tables := db } }

end Dcvp.Services.InitialAdmin
