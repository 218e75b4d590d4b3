import Dcvp.Js
import Dcvp.Lib.RoutePath
import Dcvp.Modules.AdminUsersController

/-!
# `Dcvp.Modules.AppModule`: a request on its way to a handler

`AppModule` has six controllers and one guard for all of their handlers, `AdminAuthGuard`. In
front of them stands the middleware of `main.ts`, which refuses requests that came without TLS
(`services/auth-transport-security.ts`).

The middleware and the guard look at the text of the path, and compare it with regard to case.
The router of Express decides which handler gets a request. It is a parameter: `RoutesMatch`
says what is relied on, that a request goes to a handler whose pattern fits the path. Express
compares without regard to case, and lets a `/` at the end pass.

The answer of `requireActiveSession` is an input here. What the handlers do, the modules of
their services say. The headers that the middleware sets are left out.
-/

set_option autoImplicit false

namespace Dcvp.Modules.AppModule

open Dcvp.Lib
open Dcvp.Services
open Dcvp.Shared (AuthSession)
open Dcvp.Modules.AdminUsersController (extractBearerToken)

/-! ### Handlers and routes -/

/-- The handlers of `AuthController`. The first ones have to be reachable without a session. -/
inductive AuthHandler where
  | login
  | register
  | changePassword
  | setupStatus
  | createInitialAdmin
  | me
  | logout
  deriving DecidableEq

/-- The handlers of `AdminUsersController`, for accounts and for the requests around them. -/
inductive AdminUsersHandler where
  | list
  | organizations
  | pendingApprovalCount
  | update
  | delete
  | listSignupRequests
  | reviewSignupRequest
  | createOrganizationRequest
  | createOrganizationCreationRequest
  | createOrganizationInvitation
  | listOrganizationInvitations
  | listReceivedOrganizationInvitations
  | acceptOrganizationInvitation
  | listOrganizationRequests
  | reviewOrganizationRequest
  deriving DecidableEq

/-- The handlers of `DashboardController`; the first two are public. -/
inductive DashboardHandler where
  | health
  | mobileAccess
  | dashboard
  deriving DecidableEq

/-- The handlers of `ExamsController`: those of operators, and those that an invite token opens. -/
inductive ExamsHandler where
  | list
  | create
  | update
  | invite
  | markReady
  | createEnvironmentCheckSession
  | saveEnvironmentCheck
  | workspace
  | runCode
  | saveCodeDraft
  | submitCode
  | logProctorEvent
  | upsertProctorDevice
  | verifyIdentity
  | createIdentitySession
  | report
  | proctorLive
  | detail
  | delete
  | addQuestion
  | addTestCase
  | addCandidate
  | sendCandidateInviteEmail
  | createProctorAction
  deriving DecidableEq

/-- The handlers of all controllers of the module, with the controller as the constructor. -/
inductive Handler where
  | auth (handler : AuthHandler)
  | adminUsers (handler : AdminUsersHandler)
  | dashboard (handler : DashboardHandler)
  | exams (handler : ExamsHandler)
  /-- `generateExamReports` of `AiController`. -/
  | generateExamReports
  /-- `getReadiness` of `OperationsController`. -/
  | getReadiness
  deriving DecidableEq

/-- Whether a handler of `ExamsController` takes an invite token in place of a session. -/
def ExamsHandler.takesInvite : ExamsHandler → Bool
  | .invite | .markReady | .createEnvironmentCheckSession | .saveEnvironmentCheck | .workspace
  | .runCode | .saveCodeDraft | .submitCode | .logProctorEvent | .upsertProctorDevice
  | .verifyIdentity | .createIdentitySession => true
  | _ => false

/-- Whether the handler calls `me`, and acts for the session that it gets. The handlers of
`AuthController` concern no other account than the own one. -/
def Handler.actsForSession : Handler → Bool
  | .auth _ | .dashboard .health | .dashboard .mobileAccess => false
  | .exams handler => !handler.takesInvite
  | _ => true

/-- The methods of the requests that Express can give to a route here. -/
inductive HttpMethod where
  | get
  | post
  | put
  | patch
  | delete
  /-- Express gives it to the routes of `get`. -/
  | head
  deriving DecidableEq

/-- A route, as the decorators of a controller and of its method declare it. -/
structure Route where
  method : HttpMethod
  pattern : List PathPiece
  handler : Handler
  deriving DecidableEq

/-- The routes of `AuthController`, under `/api/auth`, in the order of its methods. -/
def authRoutes : List Route :=
  let route (method : HttpMethod) (pieces : List PathPiece) (handler : AuthHandler) : Route :=
    ⟨method, .literal "api" :: .literal "auth" :: pieces, .auth handler⟩
  [route .post [.literal "login"] .login,
    route .post [.literal "register"] .register,
    route .post [.literal "change-password"] .changePassword,
    route .get [.literal "setup"] .setupStatus,
    route .post [.literal "setup"] .createInitialAdmin,
    route .get [.literal "me"] .me,
    route .post [.literal "logout"] .logout]

/-- The routes of `AdminUsersController`, under `/api/admin/users`, in the order of its methods. -/
def adminUsersRoutes : List Route :=
  let route (method : HttpMethod) (pieces : List PathPiece) (handler : AdminUsersHandler) : Route :=
    ⟨method, .literal "api" :: .literal "admin" :: .literal "users" :: pieces,
      .adminUsers handler⟩
  [route .get [] .list,
    route .get [.literal "organizations"] .organizations,
    route .get [.literal "pending-approval-count"] .pendingApprovalCount,
    route .put [.param "userId"] .update,
    route .delete [.param "userId"] .delete,
    route .get [.literal "signup-requests"] .listSignupRequests,
    route .post [.literal "signup-requests", .param "requestId", .literal "review"]
      .reviewSignupRequest,
    route .post [.literal "organization-requests"] .createOrganizationRequest,
    route .post [.literal "organization-creation-requests"] .createOrganizationCreationRequest,
    route .post [.literal "organization-invitations"] .createOrganizationInvitation,
    route .get [.literal "organization-invitations"] .listOrganizationInvitations,
    route .get [.literal "received-organization-invitations"]
      .listReceivedOrganizationInvitations,
    route .post [.literal "received-organization-invitations", .literal "accept"]
      .acceptOrganizationInvitation,
    route .get [.literal "organization-requests"] .listOrganizationRequests,
    route .post [.literal "organization-requests", .param "requestId", .literal "review"]
      .reviewOrganizationRequest]

/-- The routes of `DashboardController`, which has no prefix of its own. -/
def dashboardRoutes : List Route :=
  [⟨.get, [.literal "health"], .dashboard .health⟩,
    ⟨.get, [.literal "api", .literal "mobile-access"], .dashboard .mobileAccess⟩,
    ⟨.get, [.literal "api", .literal "dashboard"], .dashboard .dashboard⟩]

/-- The routes of `ExamsController`, under `/api/exams`; those of a candidate are under
`invites/:token`. -/
def examsRoutes : List Route :=
  let route (method : HttpMethod) (pieces : List PathPiece) (handler : ExamsHandler) : Route :=
    ⟨method, .literal "api" :: .literal "exams" :: pieces, .exams handler⟩
  let invite (method : HttpMethod) (pieces : List PathPiece) (handler : ExamsHandler) : Route :=
    route method (.literal "invites" :: .param "inviteToken" :: pieces) handler
  [route .get [] .list,
    route .post [] .create,
    route .patch [.param "examId"] .update,
    invite .get [] .invite,
    invite .post [.literal "ready"] .markReady,
    invite .post [.literal "environment-check-session"] .createEnvironmentCheckSession,
    invite .post [.literal "environment-checks"] .saveEnvironmentCheck,
    invite .get [.literal "workspace"] .workspace,
    invite .post [.literal "run"] .runCode,
    invite .post [.literal "drafts"] .saveCodeDraft,
    invite .post [.literal "submit"] .submitCode,
    invite .post [.literal "proctor-events"] .logProctorEvent,
    invite .post [.literal "proctor-devices"] .upsertProctorDevice,
    invite .post [.literal "identity-verifications"] .verifyIdentity,
    invite .post [.literal "identity-session"] .createIdentitySession,
    route .get [.param "examId", .literal "report"] .report,
    route .get [.param "examId", .literal "proctor-live"] .proctorLive,
    route .get [.param "examId"] .detail,
    route .delete [.param "examId"] .delete,
    route .post [.param "examId", .literal "questions"] .addQuestion,
    route .post [.literal "questions", .param "questionId", .literal "test-cases"] .addTestCase,
    route .post [.param "examId", .literal "candidates"] .addCandidate,
    route .post [.literal "candidates", .param "candidateId", .literal "invite-email"]
      .sendCandidateInviteEmail,
    route .post [.literal "candidates", .param "candidateId", .literal "proctor-actions"]
      .createProctorAction]

/-- The routes in the order in which they are registered. -/
def routes : List Route :=
  authRoutes ++ adminUsersRoutes ++ dashboardRoutes ++ examsRoutes ++
    [⟨.post, [.literal "api", .literal "ai", .literal "exams", .param "examId",
        .literal "reports", .literal "generate"], .generateExamReports⟩,
      ⟨.get, [.literal "api", .literal "operations", .literal "readiness"], .getReadiness⟩]

/-! ### Requests -/

/-- The value of a header, which can occur many times. -/
inductive HeaderValue where
  | one (value : String)
  | many (values : List String)

/-- What the middleware, the router and the guard read of a request. `path` is the path of the
address, without a query. -/
structure HttpRequest where
  method : HttpMethod
  path : String
  authorization : Option String := none
  forwardedProto : Option HeaderValue := none
  socketEncrypted : Bool := false

/-- What the middleware reads of the environment: `process.env.NODE_ENV === "production"` and
`process.env.AUTH_HTTPS_TRUST_PROXY === "1"`. -/
structure TransportConfig where
  isProduction : Bool
  trustProxy : Bool

/-- `String.prototype.startsWith`, which compares letters exactly. -/
def startsWith (text start : String) : Bool := decide (start.toList <+: text.toList)

/-! ### `auth-transport-security.ts` -/

/-- `isApiRoute`: it compares letters exactly, although Express routes `/API` alike. -/
def isApiRoute (path : String) : Bool := path == "/api" || startsWith path "/api/"

/-- `firstForwardedProto`: of a header that was sent several times, the first value counts. -/
def firstForwardedProto : Option HeaderValue → Option String
  | none => none
  | some (.one value) => some value
  | some (.many values) => values.head?

/-- `hasForwardedHttps`: the first entry of the list in the header is `https`, in any case and
between blanks. -/
def hasForwardedHttps (text : Js.CaseMapping) : Option String → Bool
  | none => false
  | some forwardedProto =>
      let first := String.ofList (forwardedProto.toList.takeWhile (· ≠ ','))
      text.toLowerCase (Js.trim first) == "https"

/-- Whether the request came with TLS, as far as the process trusts what it is told. -/
def hasTls (text : Js.CaseMapping) (config : TransportConfig) (request : HttpRequest) : Bool :=
  request.socketEncrypted ||
    (config.trustProxy && hasForwardedHttps text (firstForwardedProto request.forwardedProto))

/-- `shouldRejectInsecureRequest`: in production, a request to the API has to be encrypted up to
the server, or up to a proxy that is trusted. -/
def shouldRejectInsecureRequest (text : Js.CaseMapping) (config : TransportConfig)
    (request : HttpRequest) : Bool :=
  if !config.isProduction || !isApiRoute request.path || request.socketEncrypted then false
  else !config.trustProxy ||
    !hasForwardedHttps text (firstForwardedProto request.forwardedProto)

/-! ### `AdminAuthGuard` -/

/-- `isPublicPath`: the paths that the guard lets through without a session. They are compared
letter by letter, too. -/
def isPublicPath (path : String) : Bool :=
  path == "/health" || path == "/api/mobile-access" || startsWith path "/api/auth/" ||
    startsWith path "/api/exams/invites/"

/-- `canActivate`, with the answer of `requireActiveSession` as an argument: a public path passes,
every other one needs a live session. -/
def canActivate (requireActiveSession : Option String → Except ServiceException AuthSession)
    (request : HttpRequest) : Except ServiceException Unit :=
  if isPublicPath request.path then .ok ()
  else (requireActiveSession (extractBearerToken request.authorization)).map fun _ => ()

/-! ### The way to a handler -/

/-- The router: the route of a request, and the segments of its path. -/
def Router : Type := HttpMethod → String → Option (Route × List (List Char))

/-- The router gives a request to a registered route whose pattern fits the path. -/
def RoutesMatch (router : Router) : Prop :=
  ∀ method path route segments, router method path = some (route, segments) →
    route ∈ routes ∧ PatternMatch route.pattern segments path

/-- What becomes of a request on its way through middleware, router and guard, before the handler's
own code. -/
inductive RequestOutcome where
  /-- The middleware answers with 403. -/
  | insecure
  | noRoute
  /-- The guard throws. -/
  | refused (error : ServiceException)
  | handled (route : Route) (segments : List (List Char))
  deriving DecidableEq

/-- The way of a request through the middleware, the router and the guard. -/
def handleRequest (text : Js.CaseMapping) (config : TransportConfig) (router : Router)
    (requireActiveSession : Option String → Except ServiceException AuthSession)
    (request : HttpRequest) : RequestOutcome :=
  if shouldRejectInsecureRequest text config request then .insecure
  else
    match router request.method request.path with
    | none => .noRoute
    | some (route, segments) =>
        match canActivate requireActiveSession request with
        | .error error => .refused error
        | .ok () => .handled route segments

end Dcvp.Modules.AppModule
