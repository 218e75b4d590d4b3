import Dcvp.Services.AdminSignupRequests
import Dcvp.Services.AdminUsers
import Dcvp.Services.OrganizationInvitations
import Dcvp.Services.OrganizationRequests

/-!
# `Dcvp.Services.AccountWorkflows`: the account services over one database

The four account services as one program of asynchronous calls. A call carries the session
with which it is made. The process keeps the sessions it has given out: `openSession` reads
the row of a user with its organization and gives out a session that copies them, as each
sign-in and each refresh of `AuthService` does. A call is accepted only with a session that
was given out. Sessions are not taken back here, so a session can be as old as one likes.

`openSession` stands for the successful ends of `login`, `register` and `refreshSession`.
-/

set_option autoImplicit false

namespace Dcvp.Services

open Dcvp.Lib
open Dcvp.Shared (AuthSession)

/-- The calls of the account services, with the session that the guard has read for the caller. -/
inductive AccountCall where
  | openSession (userId token : String)
  | requests (session : AuthSession) (call : OrganizationRequests.Call)
  | invitations (session : AuthSession) (call : OrganizationInvitations.Call)
  | adminUsers (session : AuthSession) (call : AdminUsers.Call)
  | signups (call : AdminSignupRequests.Call)

/-- A call that is suspended while its statement is outstanding: the place of its service, with the
caller's session. -/
inductive AccountWaiting where
  | openSession (userId token : String)
  | requests (session : AuthSession) (pc : OrganizationRequests.Waiting)
  | invitations (session : AuthSession) (pc : OrganizationInvitations.Waiting)
  | adminUsers (session : AuthSession) (pc : AdminUsers.Waiting)
  | signups (pc : AdminSignupRequests.Waiting)

/-- The answer to a statement, at the same places as `AccountWaiting`. -/
inductive AccountReply where
  | sessionRead (token : String) (user : Option UserRow)
      (organization : Option OrganizationRow)
  | requests (session : AuthSession) (reply : OrganizationRequests.Ready)
  | invitations (session : AuthSession) (reply : OrganizationInvitations.Ready)
  | adminUsers (session : AuthSession) (reply : AdminUsers.Ready)
  | signups (reply : AdminSignupRequests.Ready)

/-- A suspended call whose statement is answered, or has thrown. -/
inductive AccountReady where
  | answered (reply : AccountReply)
  | failed (pc : AccountWaiting) (error : ServiceException)

/-- What a call returns, one constructor a service. -/
inductive AccountValue where
  | session (session : AuthSession)
  | request (request : OrganizationRequests.OrganizationAccessRequest)
  | invitation (invitation : OrganizationInvitations.OrganizationInvitation)
  | adminUser (result : AdminUsers.Result)
  | signup (request : AdminSignupRequests.AdminSignupRequest)
  deriving DecidableEq

/-- The sessions that were given out, newest last. A session is never taken back here; the registry
does that one layer above. -/
structure AccountMemory where
  sessions : List AuthSession := []

/-- The result of a call: its value, or the exception of the service. -/
abbrev AccountResult := Except ServiceException AccountValue

/-- The session with which a call is made. A visitor has none. -/
def AccountCall.session : AccountCall → Option AuthSession
  | .openSession .. => none
  | .requests session _ | .invitations session _ | .adminUsers session _ => some session
  | .signups (.createRequest _) => none
  | .signups (.createRequestForRegisteredUser session _) => some session
  | .signups (.reviewRequest session _ _) => some session

/-- An outcome of one service as an outcome of the program. -/
def liftOutcome {π ω : Type} (waiting : π → AccountWaiting) (value : ω → AccountValue) :
    Outcome π (Except ServiceException ω) → Outcome AccountWaiting AccountResult
  | .suspended pc => .suspended (waiting pc)
  | .finished result => .finished (value <$> result)

/-- Where a lifted outcome waits. -/
theorem liftOutcome_eq_suspended {π ω : Type} {waiting : π → AccountWaiting}
    {value : ω → AccountValue} {o : Outcome π (Except ServiceException ω)}
    {pc : AccountWaiting} (h : liftOutcome waiting value o = .suspended pc) :
    ∃ pc', o = .suspended pc' ∧ pc = waiting pc' := by
  cases o with
  | suspended pc' => cases h; exact ⟨pc', rfl, rfl⟩
  | finished result => cases h

section
variable (ctx : AuthContext)

/-- The first segment of a call: that of its service, with the call's session around it. -/
def accountSegment : AccountCall → Outcome AccountWaiting AccountResult
  | .openSession userId token => .suspended (.openSession userId token)
  | .requests session call =>
      liftOutcome (.requests session) .request
        (awaitOrThrow (OrganizationRequests.start ctx session call))
  | .invitations session call =>
      liftOutcome (.invitations session) .invitation
        (awaitOrThrow (OrganizationInvitations.start call))
  | .adminUsers session call =>
      liftOutcome (.adminUsers session) .adminUser (awaitOrThrow (AdminUsers.start ctx call))
  | .signups call =>
      liftOutcome .signups .signup (awaitOrThrow (AdminSignupRequests.start ctx call))

/-- A call starts when its session, if it has one, was given out. -/
def accountStart (call : AccountCall) (_input : AccountInput) (memory : AccountMemory) :
    Option (AccountMemory × Outcome AccountWaiting AccountResult) :=
  if ∀ session ∈ call.session, session ∈ memory.sessions then
    some (memory, accountSegment ctx call)
  else none

/-- The awaited statement, when it does not fail from outside. -/
def accountStatement (pc : AccountWaiting) (input : AccountInput) (db : Database) :
    Except ServiceException (Database × AccountReply) :=
  match pc with
  | .openSession userId token =>
      let user := db.findUser userId
      .ok (db, .sessionRead token user (user.bind db.organizationOf))
  | .requests session pc =>
      Prod.map id (.requests session) <$> OrganizationRequests.statement session pc input db
  | .invitations session pc =>
      Prod.map id (.invitations session) <$>
        OrganizationInvitations.statement session pc input db
  | .adminUsers session pc =>
      Prod.map id (.adminUsers session) <$> AdminUsers.statement session pc db
  | .signups pc => Prod.map id .signups <$> AdminSignupRequests.statement ctx pc input db

/-- The effect of an awaited statement. One that throws has none. -/
def accountExecute (pc : AccountWaiting) (input : AccountInput) (db : Database) :
    Option (Database × AccountReady) :=
  match input.fault with
  | some error => some (db, .failed pc (.prisma error))
  | none =>
      match accountStatement ctx pc input db with
      | .ok (db', reply) => some (db', .answered reply)
      -- What the transaction has written is rolled back.
      | .error error => some (db, .failed pc error)

/-- What a call does when its statement has thrown. -/
def accountFailure (pc : AccountWaiting) (error : ServiceException) :
    Outcome AccountWaiting AccountResult :=
  match pc with
  | .openSession .. | .requests .. | .invitations .. => .finished (.error error)
  | .adminUsers _ pc => .finished (.error (AdminUsers.failure pc error))
  | .signups pc => liftOutcome .signups .signup (AdminSignupRequests.failure pc error)

/-- The end of `openSession`: a user that was found gets a session from the rows that were read,
and the session is given out. -/
def openSession (memory : AccountMemory) (token : String) (user : Option UserRow)
    (organization : Option OrganizationRow) :
    AccountMemory × Outcome AccountWaiting AccountResult :=
  match user with
  | none => (memory, .finished (.error (unauthorized invalidCredentialsMessage)))
  | some user =>
      let session : AuthSession :=
        { token, user := toUser user, organization := toOrganization organization }
      ({ memory with sessions := memory.sessions ++ [session] },
        .finished (.ok (.session session)))

/-- The next segment of a call: that of its service, or what the call makes of a statement that has
thrown. -/
def accountResume (reply : AccountReady) (input : AccountInput) (memory : AccountMemory) :
    Option (AccountMemory × Outcome AccountWaiting AccountResult) :=
  match reply with
  | .failed pc error => some (memory, accountFailure pc error)
  | .answered (.sessionRead token user organization) =>
      some (openSession memory token user organization)
  | .answered (.requests session reply) =>
      some (memory, liftOutcome (.requests session) .request
        (OrganizationRequests.resume session reply input))
  | .answered (.invitations session reply) =>
      some (memory, liftOutcome (.invitations session) .invitation
        (OrganizationInvitations.resume ctx session reply input))
  | .answered (.adminUsers session reply) =>
      some (memory, liftOutcome (.adminUsers session) .adminUser
        (AdminUsers.resume ctx session reply))
  | .answered (.signups reply) =>
      some (memory, liftOutcome .signups .signup (AdminSignupRequests.resume reply input))

/-- The account services as a program of asynchronous calls. -/
def accountProgram :
    AsyncProgram AccountMemory Database AccountCall AccountWaiting AccountReady AccountResult
      AccountInput where
  start := accountStart ctx
  execute := accountExecute ctx
  resume := accountResume ctx

end

/-- The states of the account services: sessions, database, and the calls in flight. -/
abbrev AccountWorld := World AccountMemory Database AccountWaiting AccountReady AccountResult

/-- The moves of the account services: a call arrives, a statement is executed, or a call runs on.
-/
abbrev AccountEvent := AsyncEvent AccountCall AccountInput

end Dcvp.Services
