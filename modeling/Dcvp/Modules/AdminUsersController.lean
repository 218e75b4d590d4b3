import Dcvp.Services.AccountWorkflows

/-!
# `Dcvp.Modules.AdminUsersController`: the account services behind their controller

The class `AdminUsersController` of `modules/admin-users.controller.ts`, as far as its
methods write. Each method reads the session of the bearer token with `AuthService.me`, calls
one of the account services with it, and then revokes or refreshes sessions.

`controllerProgram` runs these methods beside the methods of `AuthService`. All of them share
the session registry of the process and the database. Each `await` of a method is a
suspension: inside `me`, inside the service, between the end of the service call and the rest
of the method, and inside `refreshSession`.
-/

set_option autoImplicit false

namespace Dcvp.Modules.AdminUsersController

open Dcvp.Lib
open Dcvp.Services
open Dcvp.Shared (AuthSession)

/-- The methods that write, with what they take from the request. -/
inductive Method where
  | update (userId : String) (body : AdminUsers.UpdateInput)
  | delete (userId : String)
  | reviewSignupRequest (requestId : String) (body : ReviewInput)
  | createOrganizationRequest (body : OrganizationRequests.CreateInput)
  | createOrganizationCreationRequest (body : AdminSignupRequests.RegisteredInput)
  | createOrganizationInvitation (body : OrganizationInvitations.CreateInput)
  | acceptOrganizationInvitation (invitationId : String)
  | reviewOrganizationRequest (requestId : String) (body : ReviewInput)

/-- `extractBearerToken`: the token of the `Authorization` header, if the scheme is `Bearer`. -/
def extractBearerToken (authorization : Option String) : Option String :=
  match authorization with
  | none => none
  | some authorization =>
      if "Bearer ".toList.isPrefixOf authorization.toList then
        some (String.ofList (authorization.toList.drop 7))
      else none

/-- The call of a service that the method makes with the session. -/
def serviceCall (session : AuthSession) : Method → AccountCall
  | .update userId body => .adminUsers session (.updateManagedUser userId body)
  | .delete userId => .adminUsers session (.deleteManagedUser userId)
  | .reviewSignupRequest requestId body => .signups (.reviewRequest session requestId body)
  | .createOrganizationRequest body => .requests session (.createRequest body)
  | .createOrganizationCreationRequest body =>
      .signups (.createRequestForRegisteredUser session body)
  | .createOrganizationInvitation body => .invitations session (.createInvitation body)
  | .acceptOrganizationInvitation invitationId =>
      .invitations session (.acceptInvitation invitationId)
  | .reviewOrganizationRequest requestId body => .requests session (.reviewRequest requestId body)

/-! ### The calls and their suspensions -/

/-- A call of `AuthService`, or a request to the controller. -/
inductive ControllerCall where
  | auth (call : AuthCall)
  | request (authorization : Option String) (method : Method)

/-- A call that is suspended while its operation is outstanding. The controller's own awaits are
around those of `AuthService` and of the account services, so a place of theirs is inside one of
its own. -/
inductive ControllerWaiting where
  | auth (pc : AuthWaiting)
  | inMe (token : Option String) (method : Method) (pc : AuthWaiting)
  | inService (token : Option String) (method : Method) (pc : AccountWaiting)
  | serviceReturns (token : Option String) (method : Method) (value : AccountValue)
  | inRefresh (value : AccountValue) (pc : AuthWaiting)

/-- A call whose operation is answered, at the same places as `ControllerWaiting`. -/
inductive ControllerReady where
  | auth (reply : AuthReady)
  | inMe (token : Option String) (method : Method) (reply : AuthReady)
  | inService (token : Option String) (method : Method) (reply : AccountReady)
  | serviceReturned (token : Option String) (method : Method) (value : AccountValue)
  | inRefresh (value : AccountValue) (reply : AuthReady)

/-- What a call answers: a session of `AuthService`, or the value of an account service. -/
inductive ControllerValue where
  | auth (session : Option AuthSession)
  | account (value : AccountValue)

/-- The result of a call: its value, or the exception that Nest turns into an error response. -/
abbrev ControllerResult := Except ServiceException ControllerValue

/-- The end of a segment: memory as the segment leaves it, and either the next await or the result.
-/
abbrev ControllerSegment := AuthMemory × Outcome ControllerWaiting ControllerResult

/-- The input of a move, for the part that it runs. -/
structure ControllerInput where
  auth : AuthInput := {}
  account : AccountInput := {}
  deriving DecidableEq

/-! ### The segments -/

section
variable (ctx : AuthContext)

/-- A segment of a method of `AuthService` that was called from outside. -/
def ofAuth : AuthSegment → ControllerSegment
  | (memory, .suspended pc) => (memory, .suspended (.auth pc))
  | (memory, .finished result) => (memory, .finished (.auth <$> result))

/-- A segment of the service call, as a segment of the controller around it: a failure ends the
request, and a value goes back to the controller, which awaits once more. -/
def ofService (memory : AuthMemory) (token : Option String) (method : Method) :
    Outcome AccountWaiting AccountResult → ControllerSegment
  | .suspended pc => (memory, .suspended (.inService token method pc))
  | .finished (.error error) => (memory, .finished (.error error))
  | .finished (.ok value) => (memory, .suspended (.serviceReturns token method value))

/-- A segment of `this.auth.me(token)`, and the start of the service call at its end. -/
def ofMe (token : Option String) (method : Method) : AuthSegment → ControllerSegment
  | (memory, .suspended pc) => (memory, .suspended (.inMe token method pc))
  | (memory, .finished (.error error)) => (memory, .finished (.error error))
  | (memory, .finished (.ok none)) => (memory, .finished (.ok (.auth none)))
  | (memory, .finished (.ok (some session))) =>
      ofService memory token method (accountSegment ctx (serviceCall session method))

/-- A segment of `this.auth.refreshSession(token)`, and the end of the method. -/
def ofRefresh (value : AccountValue) : AuthSegment → ControllerSegment
  | (memory, .suspended pc) => (memory, .suspended (.inRefresh value pc))
  | (memory, .finished (.error error)) => (memory, .finished (.error error))
  | (memory, .finished (.ok _)) => (memory, .finished (.ok (.account value)))

/-- The user whose sessions the method revokes after the service call. -/
def revokedUser (method : Method) (value : AccountValue) : Option String :=
  match method with
  -- An update ends the sessions of the user also when nothing has changed.
  | .update userId _ | .delete userId => some userId
  | .reviewSignupRequest .. =>
      match value with
      | .signup request =>
          if request.status = .approved then Js.truthy request.approvedUserId else none
      | _ => none
  | .reviewOrganizationRequest .. =>
      match value with
      | .request request => if request.status = .approved then some request.user.id else none
      | _ => none
  | _ => none

/-- `this.auth.revokeUserSessions`, for the handlers that change or delete another account. -/
def revoke (memory : AuthMemory) : Option String → AuthMemory
  | none => memory
  | some userId => { memory with registry := (memory.registry.revokeUser userId).2 }

/-- The rest of the method after the service call. -/
def afterService (memory : AuthMemory) (input : AuthInput) (token : Option String)
    (method : Method) (value : AccountValue) : ControllerSegment :=
  match method with
  | .acceptOrganizationInvitation _ =>
      -- The role is new, but the sessions stay. Only the one of the request is refreshed.
      ofRefresh value (me ctx memory input .refreshSession token)
  | method => (revoke memory (revokedUser method value), .finished (.ok (.account value)))

/-! ### The program -/

/-- The first segment. The statements of the other services are those of the service calls, so
`AuthCall.otherStatement` is not used. -/
def controllerStart (call : ControllerCall) (input : ControllerInput) (memory : AuthMemory) :
    Option ControllerSegment :=
  match call with
  | .auth (.otherStatement _) => none
  | .auth call => (authStart ctx call input.auth memory).map ofAuth
  | .request authorization method =>
      let token := extractBearerToken authorization
      some (ofMe ctx token method (me ctx memory input.auth .me token))

/-- An operation that `AuthService` awaits itself. `otherStatement` is none of the controller's. -/
def authOperation (pc : AuthWaiting) (input : AuthInput) (db : Database) :
    Option (Database × AuthReady) :=
  match pc with
  | .otherStatement _ => none
  | pc => authExecute ctx pc input db

/-- The effect of an awaited operation. The wait for the end of the service call has none. -/
def controllerExecute (pc : ControllerWaiting) (input : ControllerInput) (db : Database) :
    Option (Database × ControllerReady) :=
  match pc with
  | .auth pc => (authOperation ctx pc input.auth db).map (Prod.map id .auth)
  | .inMe token method pc =>
      (authOperation ctx pc input.auth db).map (Prod.map id (.inMe token method))
  | .inService token method pc =>
      (accountExecute ctx pc input.account db).map (Prod.map id (.inService token method))
  | .serviceReturns token method value => some (db, .serviceReturned token method value)
  | .inRefresh value pc =>
      (authOperation ctx pc input.auth db).map (Prod.map id (.inRefresh value))

/-- The next segment. The service calls keep no memory of their own. -/
def controllerResume (reply : ControllerReady) (input : ControllerInput) (memory : AuthMemory) :
    Option ControllerSegment :=
  match reply with
  | .auth reply => (authResume ctx reply input.auth memory).map ofAuth
  | .inMe token method reply =>
      (authResume ctx reply input.auth memory).map (ofMe ctx token method)
  | .inService token method reply =>
      (accountResume ctx reply input.account {}).map fun r => ofService memory token method r.2
  | .serviceReturned token method value =>
      some (afterService ctx memory input.auth token method value)
  | .inRefresh value reply => (authResume ctx reply input.auth memory).map (ofRefresh value)

/-- The account services, the controller and `AuthService` as one program. -/
def controllerProgram :
    AsyncProgram AuthMemory Database ControllerCall ControllerWaiting ControllerReady
      ControllerResult ControllerInput where
  start := controllerStart ctx
  execute := controllerExecute ctx
  resume := controllerResume ctx

end

/-- The states of the program: memory, database, and the calls in flight with the results so far.
-/
abbrev ControllerWorld :=
  World AuthMemory Database ControllerWaiting ControllerReady ControllerResult

/-- The moves of the program: a call arrives, the database executes an outstanding statement, or an
answered call runs on. -/
abbrev ControllerEvent := AsyncEvent ControllerCall ControllerInput

/-- The state before the first call, over a database. -/
def controllerInitial (db : Database) : ControllerWorld := { memory := {}, database := db }

end Dcvp.Modules.AdminUsersController
