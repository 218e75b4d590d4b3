import Dcvp.Modules.AdminUsersController
import Dcvp.Proofs.InvitationAcceptance

/-!
# `Dcvp.Proofs.ServiceAnswers`: whose sessions a controller method ends

A method of the controller calls a service, and revokes or refreshes sessions by what the service
answers. `Serves` says which statements a service call of a method can make, and `Served` which
replies it can get.

`revokedByCommit` names the user whose sessions the controller will revoke when the statement
commits, read from the statement and the tables before it. `revoked_of_commit` proves that
the answer of the service names this user. `refreshedByCommit` and `refreshed_of_commit` are the
same for the token that an acceptance refreshes.
-/

set_option autoImplicit false

namespace Dcvp.Proofs

open Dcvp.Lib
open Dcvp.Services
open Dcvp.Modules.AdminUsersController
open Dcvp.Shared (AuthSession UserRole)

/-! ### What a service answers -/

/-- What a service call answers with this reply, if it ends. -/
def answeredValue : AccountReply → Option AccountValue
  | .requests _ (.written row) => (OrganizationRequests.toRequest row).toOption.map .request
  | .invitations _ (.written row email) =>
      (OrganizationInvitations.toInvitation row email).toOption.map .invitation
  | .adminUsers _ (.updated user) => some (.adminUser (.user (toUser user)))
  | .adminUsers _ (.deleted userId) => some (.adminUser (.deleted userId))
  | .signups (.written request) => some (.signup (AdminSignupRequests.toSignupRequest request))
  | _ => none

/-- A result with a value is one that has not thrown. -/
theorem toOption_eq_some {ε α : Type} {x : Except ε α} {a : α} (h : x.toOption = some a) :
    x = .ok a := by
  cases x with
  | error e => cases h
  | ok b => cases h; rfl

/-- A call whose reply has an answer ends with it: only the replies of the last statements have
one. -/
theorem finished_of_answeredValue {ctx : AuthContext} {reply : AccountReply}
    {input : AccountInput} {memory : AccountMemory} {value : AccountValue}
    (h : answeredValue reply = some value) :
    accountResume ctx (.answered reply) input memory = some (memory, .finished (.ok value)) := by
  -- Only the replies of the last statements have an answer, and each of them is turned into the
  -- result at once.
  cases reply with
  | requests session reply =>
      cases reply with
      | written row =>
          obtain ⟨request, hrequest, rfl⟩ := Option.map_eq_some_iff.mp h
          simp only [accountResume, OrganizationRequests.resume, toOption_eq_some hrequest]
          rfl
      | _ => cases h
  | invitations session reply =>
      cases reply with
      | written row email =>
          obtain ⟨invitation, hinvitation, rfl⟩ := Option.map_eq_some_iff.mp h
          simp only [accountResume, OrganizationInvitations.resume, toOption_eq_some hinvitation]
          rfl
      | _ => cases h
  | adminUsers session reply => cases reply <;> cases h <;> rfl
  | signups reply =>
      cases reply with
      | written request => cases h; rfl
      | _ => cases h
  | sessionRead token user organization => cases h

/-! ### The statements of a method -/

/-- The statement belongs to a service call of the method. -/
def Serves (method : Method) : AccountWaiting → Prop
  | .adminUsers _ (.updateReadsTarget userId _) | .adminUsers _ (.updateReadsEmail userId _ _)
  | .adminUsers _ (.updateWrites userId _ _) => ∃ body, method = .update userId body
  | .adminUsers _ (.deleteCommits userId) => method = .delete userId
  | .requests _ (.reviewReads ..) | .requests _ (.reviewCommits ..) =>
      ∃ requestId body, method = .reviewOrganizationRequest requestId body
  | .invitations _ (.acceptReads _) | .invitations _ (.acceptCommits _) =>
      ∃ invitationId, method = .acceptOrganizationInvitation invitationId
  | .signups (.reviewReads ..) | .signups (.reviewReadsUser ..) | .signups (.reviewCommits ..) =>
      ∃ requestId body, method = .reviewSignupRequest requestId body
  | _ => True

/-- The reply is one that a service call of the method goes on with. -/
def Served (method : Method) : AccountReply → Prop
  | .adminUsers _ (.targetRead userId _ _) | .adminUsers _ (.emailRead userId _ _ _) =>
      ∃ body, method = .update userId body
  | .requests _ (.requestRead ..) =>
      ∃ requestId body, method = .reviewOrganizationRequest requestId body
  | .invitations _ (.invitationRead _) =>
      ∃ invitationId, method = .acceptOrganizationInvitation invitationId
  | .signups (.requestRead ..) | .signups (.reviewUserRead ..) =>
      ∃ requestId body, method = .reviewSignupRequest requestId body
  | _ => True

section
variable {ctx : AuthContext} {method : Method} {db db' : Database} {input : AccountInput}

/-- The first statement of the service call serves its method, when no check has thrown before. -/
theorem serves_start {session : AuthSession} {pc : AccountWaiting}
    (h : accountSegment ctx (serviceCall session method) = .suspended pc) : Serves method pc := by
  -- A call waits for the first statement of its method, when no check has thrown before.
  cases method with
  | update userId body =>
      obtain ⟨pc', hpc', rfl⟩ := liftOutcome_eq_suspended h
      replace hpc' := awaitOrThrow_eq_suspended.mp hpc'
      simp only [AdminUsers.start] at hpc'
      split at hpc'
      · cases hpc'
        exact ⟨body, rfl⟩
      · cases hpc'
  | delete userId =>
      obtain ⟨pc', hpc', rfl⟩ := liftOutcome_eq_suspended h
      replace hpc' := awaitOrThrow_eq_suspended.mp hpc'
      simp only [AdminUsers.start] at hpc'
      split at hpc'
      · cases hpc'
        rfl
      · cases hpc'
  | reviewSignupRequest requestId body =>
      obtain ⟨pc', hpc', rfl⟩ := liftOutcome_eq_suspended h
      replace hpc' := awaitOrThrow_eq_suspended.mp hpc'
      obtain ⟨_, -, hpc'⟩ := bind_eq_ok.mp hpc'
      obtain ⟨action, -, hpc'⟩ := bind_eq_ok.mp hpc'
      split at hpc'
      · cases hpc'
        exact ⟨requestId, body, rfl⟩
      · cases hpc'
  | createOrganizationRequest body =>
      obtain ⟨pc', hpc', rfl⟩ := liftOutcome_eq_suspended h
      replace hpc' := awaitOrThrow_eq_suspended.mp hpc'
      simp only [OrganizationRequests.start, OrganizationRequests.createRequest] at hpc'
      split at hpc'
      · obtain ⟨parsed, -, heq⟩ := bind_eq_ok.mp hpc'
        cases heq
        trivial
      · cases hpc'
  | createOrganizationCreationRequest body =>
      obtain ⟨pc', hpc', rfl⟩ := liftOutcome_eq_suspended h
      replace hpc' := awaitOrThrow_eq_suspended.mp hpc'
      simp only [AdminSignupRequests.start,
        AdminSignupRequests.createRequestForRegisteredUser] at hpc'
      split at hpc'
      · obtain ⟨_, -, hpc'⟩ := bind_eq_ok.mp hpc'
        split at hpc'
        · cases hpc'
        · cases hpc'
          trivial
      · cases hpc'
  | createOrganizationInvitation body => cases h; trivial
  | acceptOrganizationInvitation invitationId => cases h; exact ⟨invitationId, rfl⟩
  | reviewOrganizationRequest requestId body =>
      obtain ⟨pc', hpc', rfl⟩ := liftOutcome_eq_suspended h
      replace hpc' := awaitOrThrow_eq_suspended.mp hpc'
      obtain ⟨_, -, hpc'⟩ := bind_eq_ok.mp hpc'
      split at hpc'
      · obtain ⟨action, -, heq⟩ := bind_eq_ok.mp hpc'
        cases heq
        exact ⟨requestId, body, rfl⟩
      · cases hpc'

/-- The reply of a statement on organization requests serves the method that the statement has
served. -/
theorem served_requests {session : AuthSession} {pc : OrganizationRequests.Waiting}
    {reply : OrganizationRequests.Ready} (hpc : Serves method (.requests session pc))
    (h : OrganizationRequests.statement session pc input db = .ok (db', reply)) :
    Served method (.requests session reply) := by
  cases pc with
  | createReadsOrganization parsed => cases h; trivial
  | createReadsPending parsed organization => cases h; trivial
  | createWrites parsed organization id =>
      obtain ⟨_, -, h⟩ := bind_eq_ok.mp h
      obtain ⟨_, -, h⟩ := bind_eq_ok.mp h
      cases h
      trivial
  | reviewReads requestId action =>
      simp only [OrganizationRequests.statement] at h
      split at h
      · cases h
        exact hpc
      · obtain ⟨_, -, h⟩ := bind_eq_ok.mp h
        cases h
        exact hpc
  | reviewCommits request action =>
      obtain ⟨_, -, h⟩ := bind_eq_ok.mp h
      cases h
      trivial

/-- The reply of a statement on invitations serves the method that the statement has served. -/
theorem served_invitations {session : AuthSession} {pc : OrganizationInvitations.Waiting}
    {reply : OrganizationInvitations.Ready} (hpc : Serves method (.invitations session pc))
    (h : OrganizationInvitations.statement session pc input db = .ok (db', reply)) :
    Served method (.invitations session reply) := by
  -- Only the two places of an acceptance serve one method.
  cases pc with
  | createReadsManager data => cases h; trivial
  | createReadsUser parsed organizationId => cases h; trivial
  | createReadsPending parsed organizationId invitedUser => cases h; trivial
  | createWrites parsed organizationId invitedUser id token =>
      obtain ⟨_, -, h⟩ := bind_eq_ok.mp h
      obtain ⟨_, -, h⟩ := bind_eq_ok.mp h
      cases h
      trivial
  | acceptReads invitationId =>
      simp only [OrganizationInvitations.statement] at h
      split at h
      · cases h
        exact hpc
      · obtain ⟨_, -, h⟩ := bind_eq_ok.mp h
        cases h
        exact hpc
  | acceptCommits invitation =>
      obtain ⟨_, -, h⟩ := bind_eq_ok.mp h
      cases h
      trivial

/-- The reply of a statement on accounts serves the method that the statement has served. -/
theorem served_adminUsers {session : AuthSession} {pc : AdminUsers.Waiting}
    {reply : AdminUsers.Ready} (hpc : Serves method (.adminUsers session pc))
    (h : AdminUsers.statement session pc db = .ok (db', reply)) :
    Served method (.adminUsers session reply) := by
  cases pc with
  | updateReadsTarget userId data => cases h; exact hpc
  | updateReadsEmail userId target parsed => cases h; exact hpc
  | updateWrites userId target parsed =>
      obtain ⟨_, -, h⟩ := bind_eq_ok.mp h
      cases h
      trivial
  | deleteCommits userId =>
      obtain ⟨_, -, h⟩ := bind_eq_ok.mp h
      cases h
      trivial

/-- The reply of a statement on sign-up requests is one that its method waits for. -/
theorem served_signups {pc : AdminSignupRequests.Waiting}
    {reply : AdminSignupRequests.Ready} (hpc : Serves method (.signups pc))
    (h : AdminSignupRequests.statement ctx pc input db = .ok (db', reply)) :
    Served method (.signups reply) := by
  cases pc with
  | reviewReads session requestId action => cases h; exact hpc
  | reviewReadsUser session request => cases h; exact hpc
  | createReadsUser parsed => cases h; trivial
  | createReadsPending parsed existingUser => cases h; trivial
  | registeredReadsPending session data => cases h; trivial
  | _ =>
      obtain ⟨_, -, h⟩ := bind_eq_ok.mp h
      cases h
      trivial

/-- The reply of a statement serves its method, whichever of the four services the statement is of.
-/
theorem served_statement {pc : AccountWaiting} {reply : AccountReply} (hpc : Serves method pc)
    (h : accountStatement ctx pc input db = .ok (db', reply)) : Served method reply := by
  cases pc with
  | openSession userId token => cases h; trivial
  | requests session pc =>
      obtain ⟨⟨db₁, r⟩, hstatement, h⟩ := map_eq_ok.mp h
      cases h
      exact served_requests hpc hstatement
  | invitations session pc =>
      obtain ⟨⟨db₁, r⟩, hstatement, h⟩ := map_eq_ok.mp h
      cases h
      exact served_invitations hpc hstatement
  | adminUsers session pc =>
      obtain ⟨⟨db₁, r⟩, hstatement, h⟩ := map_eq_ok.mp h
      cases h
      exact served_adminUsers hpc hstatement
  | signups pc =>
      obtain ⟨⟨db₁, r⟩, hstatement, h⟩ := map_eq_ok.mp h
      cases h
      exact served_signups hpc hstatement

/-- The next statement on organization requests serves the method of its call: a review goes on
with the one that it was started for. -/
theorem serves_requests {session : AuthSession} {reply : OrganizationRequests.Ready}
    {pc : OrganizationRequests.Waiting} (hreply : Served method (.requests session reply))
    (h : OrganizationRequests.resume session reply input = .suspended pc) :
    Serves method (.requests session pc) := by
  -- A creation serves any method; a review goes on with the method that it was started for.
  cases reply with
  | organizationRead parsed organization =>
      replace h := awaitOrThrow_eq_suspended.mp h
      cases organization with
      | none => cases h
      | some organization =>
          obtain ⟨_, -, heq⟩ := bind_eq_ok.mp h
          cases heq
          trivial
  | pendingRead parsed organization pending =>
      replace h := awaitOrThrow_eq_suspended.mp h
      cases pending with
      | none => cases h; trivial
      | some row => cases h
  | requestRead action request =>
      replace h := awaitOrThrow_eq_suspended.mp h
      cases request with
      | none => cases h
      | some request =>
          obtain ⟨_, -, h⟩ := bind_eq_ok.mp h
          split at h
          · cases h
          · cases h
            exact hreply
  | written row => cases h

/-- The next statement on invitations serves the method of its call: only an acceptance reads an
invitation. -/
theorem serves_invitations {session : AuthSession} {reply : OrganizationInvitations.Ready}
    {pc : OrganizationInvitations.Waiting} (hreply : Served method (.invitations session reply))
    (h : OrganizationInvitations.resume ctx session reply input = .suspended pc) :
    Serves method (.invitations session pc) := by
  cases reply with
  | managerRead data manager =>
      replace h := awaitOrThrow_eq_suspended.mp h
      obtain ⟨_, -, h⟩ := bind_eq_ok.mp h
      obtain ⟨_, -, heq⟩ := bind_eq_ok.mp h
      cases heq
      trivial
  | userRead parsed organizationId invitedUser =>
      replace h := awaitOrThrow_eq_suspended.mp h
      cases invitedUser with
      | none => cases h
      | some user =>
          simp only [OrganizationInvitations.createAfterUser] at h
          split at h
          · cases h
          · cases h
            trivial
  | pendingRead parsed organizationId invitedUser pending =>
      replace h := awaitOrThrow_eq_suspended.mp h
      cases pending with
      | none => cases h; trivial
      | some row => cases h
  -- Only an acceptance reads an invitation, so the method is one.
  | invitationRead invitation =>
      replace h := awaitOrThrow_eq_suspended.mp h
      cases invitation with
      | none => cases h
      | some invitation =>
          simp only [OrganizationInvitations.acceptAfterRead] at h
          split at h
          · cases h
          · split at h
            · cases h
            · cases h
              exact hreply
  | written row email => cases h

/-- The next statement on accounts serves the method of its call. -/
theorem serves_adminUsers {session : AuthSession} {reply : AdminUsers.Ready}
    {pc : AdminUsers.Waiting} (hreply : Served method (.adminUsers session reply))
    (h : AdminUsers.resume ctx session reply = .suspended pc) :
    Serves method (.adminUsers session pc) := by
  cases reply with
  | targetRead userId data target =>
      replace h := awaitOrThrow_eq_suspended.mp h
      cases target with
      | none => cases h
      | some target =>
          obtain ⟨_, -, h⟩ := bind_eq_ok.mp h
          obtain ⟨_, -, heq⟩ := bind_eq_ok.mp h
          cases heq
          exact hreply
  | emailRead userId target parsed existing =>
      replace h := awaitOrThrow_eq_suspended.mp h
      simp only [AdminUsers.updateAfterEmail] at h
      split at h
      · cases h
      · cases h
        exact hreply
  | updated user => cases h
  | deleted userId => cases h

/-- The next statement on sign-up requests serves the method of its call: an approval goes on with
the one that it was started for. -/
theorem serves_signups {reply : AdminSignupRequests.Ready}
    {pc : AdminSignupRequests.Waiting} (hreply : Served method (.signups reply))
    (h : AdminSignupRequests.resume reply input = .suspended pc) :
    Serves method (.signups pc) := by
  -- A creation serves any method; an approval goes on with the method that it was started for.
  cases reply with
  | userRead parsed existingUser => cases h; trivial
  | pendingRead parsed existingUser pending =>
      replace h := awaitOrThrow_eq_suspended.mp h
      simp only [AdminSignupRequests.createAfterReads] at h
      split at h
      · cases h
      · split at h
        · cases h
        · cases h
          trivial
  | hashed parsed passwordHash => cases h; trivial
  | registeredPendingRead session data pending =>
      replace h := awaitOrThrow_eq_suspended.mp h
      cases pending with
      | none => cases h; trivial
      | some row => cases h
  | requestRead session action request =>
      replace h := awaitOrThrow_eq_suspended.mp h
      cases request with
      | none => cases h
      | some request =>
          simp only [AdminSignupRequests.reviewAfterRead] at h
          split at h
          · cases h
          · cases action with
            | approve => cases h; exact hreply
            | reject rejectionReason => cases h; trivial
  | reviewUserRead session request existingUser =>
      replace h := awaitOrThrow_eq_suspended.mp h
      simp only [AdminSignupRequests.reviewAfterUser] at h
      split at h
      · cases h
      · split at h
        · cases h
        · cases h
          exact hreply
  | written request => cases h

/-- The next statement of the service call serves its method, whichever of the four services the
call is of. -/
theorem serves_resume {reply : AccountReply} {memory memory' : AccountMemory}
    {pc : AccountWaiting} (hreply : Served method reply)
    (h : accountResume ctx (.answered reply) input memory = some (memory', .suspended pc)) :
    Serves method pc := by
  cases reply with
  | sessionRead token user organization => cases user <;> cases h
  | requests session reply =>
      obtain ⟨pc', hpc', rfl⟩ :=
        liftOutcome_eq_suspended (congrArg Prod.snd (Option.some.inj h))
      exact serves_requests hreply hpc'
  | invitations session reply =>
      obtain ⟨pc', hpc', rfl⟩ :=
        liftOutcome_eq_suspended (congrArg Prod.snd (Option.some.inj h))
      exact serves_invitations hreply hpc'
  | adminUsers session reply =>
      obtain ⟨pc', hpc', rfl⟩ :=
        liftOutcome_eq_suspended (congrArg Prod.snd (Option.some.inj h))
      exact serves_adminUsers hreply hpc'
  | signups reply =>
      obtain ⟨pc', hpc', rfl⟩ :=
        liftOutcome_eq_suspended (congrArg Prod.snd (Option.some.inj h))
      exact serves_signups hreply hpc'

/-- The only statement after a failed one is the second read of a visitor's request. -/
theorem serves_failure {pc pc' : AccountWaiting} {error : ServiceException}
    (h : accountFailure pc error = .suspended pc') : Serves method pc' := by
  cases pc with
  | signups pc =>
      obtain ⟨pc₁, hpc₁, rfl⟩ := liftOutcome_eq_suspended h
      cases pc <;> cases hpc₁
      trivial
  | _ => cases h

/-! ### The commits -/

/-- The user whose sessions the controller revokes when the statement commits. A review answers
the request as it is stored, and throws when the stored role is none that can be requested. -/
def revokedByCommit (db : Database) : AccountWaiting → Option String
  | .adminUsers _ (.updateWrites userId _ _) | .adminUsers _ (.deleteCommits userId) => some userId
  | .requests _ (.reviewCommits request .approve) =>
      ((db.findAccessRequest request.id).filter fun row =>
        (OrganizationRequests.requestableRole row.requestedRole).toOption.isSome).map (·.userId)
  | .signups (.reviewCommits _ _ (some existing)) => Js.truthy (some existing.id)
  | _ => none

/-- The token that the controller refreshes when the statement commits. An acceptance answers the
invitation as it is stored, and throws when the stored role is none that can be invited. -/
def refreshedByCommit (db : Database) (bearer : Option String) : AccountWaiting → Option String
  | .invitations _ (.acceptCommits invitation) =>
      ((db.findInvitation invitation.id).filter fun row =>
        (OrganizationInvitations.invitableRole row.requestedRole).toOption.isSome).bind
          fun _ => bearer
  | _ => none

/-- The answer of an approval is the stored request with the new status, and its user. -/
theorem reviewTransaction_row {session : AuthSession} {request : AccessRequestRow}
    {action : ReviewAction} {now : Int} {included : Database.IncludedAccessRequest}
    (h : OrganizationRequests.reviewTransaction session request action now db
      = .ok (db', included)) :
    ∃ row, db.findAccessRequest request.id = some row ∧
      included.request.requestedRole = row.requestedRole ∧
      included.request.status = action.status ∧ included.user.id = row.userId := by
  obtain ⟨db₁, hdecision, h⟩ := bind_eq_ok.mp h
  obtain ⟨⟨db₂, updated⟩, hupdate, h⟩ := bind_eq_ok.mp h
  obtain ⟨included', hincluded, h⟩ := bind_eq_ok.mp h
  cases h
  obtain ⟨row, hrow, rfl, -⟩ := Database.updateOne_eq_ok hupdate
  -- The decision on the user leaves the request for the update.
  have hrequests : db₁.accessRequests = db.accessRequests := by
    cases action with
    | reject rejectionReason => cases hdecision; rfl
    | approve =>
        obtain ⟨⟨db₃, row'⟩, huser, heq⟩ := map_eq_ok.mp hdecision
        cases heq
        rw [Database.tables_of_updateUser huser]
  refine ⟨row, by rw [← hrow, hrequests]; rfl, ?_⟩
  unfold Database.includeRelations at hincluded
  split at hincluded
  · rename_i user organization huser _
    cases hincluded
    exact ⟨rfl, rfl, Table.key_of_find? huser⟩
  · cases hincluded

/-- An approved request names its user, when its role can be answered. -/
theorem revoked_of_review {session : AuthSession} {request : AccessRequestRow}
    {requestId : String} {body : ReviewInput} {reply : OrganizationRequests.Ready}
    {userId : String}
    (h : OrganizationRequests.statement session (.reviewCommits request .approve) input db
      = .ok (db', reply))
    (hrevoked : revokedByCommit db (.requests session (.reviewCommits request .approve))
      = some userId) :
    (answeredValue (.requests session reply)).bind
      (revokedUser (.reviewOrganizationRequest requestId body)) = some userId := by
  obtain ⟨⟨db₂, included⟩, htransaction, h⟩ := bind_eq_ok.mp h
  cases h
  obtain ⟨row, hrow, hrole, hstatus, huser⟩ := reviewTransaction_row htransaction
  obtain ⟨row', hrow', rfl⟩ := Option.map_eq_some_iff.mp hrevoked
  obtain ⟨hrow', hrequestable⟩ := Option.filter_eq_some_iff.mp hrow'
  rw [hrow] at hrow'
  cases hrow'
  cases hok : OrganizationRequests.requestableRole row.requestedRole with
  | error error =>
      rw [hok] at hrequestable
      cases hrequestable
  | ok role =>
      simp [answeredValue, OrganizationRequests.toRequest, hrole, hok, bind,
        Except.bind, Except.toOption, revokedUser, hstatus, huser,
        ReviewAction.status]

/-- An approved sign-up of a stored user names this user in its answer, so the controller revokes
the sessions of the right account. -/
theorem revoked_of_signup {session : AuthSession} {request : SignupRequestRow}
    {existing : UserRow} {requestId : String} {body : ReviewInput}
    {reply : AdminSignupRequests.Ready} {userId : String}
    (h : AdminSignupRequests.statement ctx (.reviewCommits session request (some existing)) input db
      = .ok (db', reply))
    (hrevoked : revokedByCommit db (.signups (.reviewCommits session request (some existing)))
      = some userId) :
    (answeredValue (.signups reply)).bind
      (revokedUser (.reviewSignupRequest requestId body)) = some userId := by
  obtain ⟨⟨db₂, row⟩, htransaction, h⟩ := bind_eq_ok.mp h
  cases h
  obtain ⟨db₃, -, h⟩ := bind_eq_ok.mp htransaction
  obtain ⟨⟨db₄, user⟩, hmanager, hrequest⟩ := bind_eq_ok.mp h
  obtain ⟨old, hold, rfl, -⟩ := Database.updateUser_eq_ok hmanager
  obtain ⟨stored, -, rfl, -⟩ := Database.updateOne_eq_ok hrequest
  have hid : old.id = existing.id := Table.key_of_find? hold
  show Js.truthy (some old.id) = some userId
  rw [hid]
  exact hrevoked

/-- The controller revokes the sessions of the user whom the commit names. -/
theorem revoked_of_commit {pc : AccountWaiting} {reply : AccountReply} {userId : String}
    (hpc : Serves method pc) (h : accountStatement ctx pc input db = .ok (db', reply))
    (hrevoked : revokedByCommit db pc = some userId) :
    (answeredValue reply).bind (revokedUser method) = some userId := by
  cases pc with
  | openSession userId token => cases hrevoked
  | requests session pc =>
      obtain ⟨⟨db₁, r⟩, hstatement, h⟩ := map_eq_ok.mp h
      cases h
      cases pc with
      | reviewCommits request action =>
          cases action with
          -- A rejection leaves the role of the applicant as it is.
          | reject rejectionReason => cases hrevoked
          | approve =>
              obtain ⟨requestId, body, rfl⟩ := hpc
              exact revoked_of_review hstatement hrevoked
      | _ => cases hrevoked
  | invitations session pc => cases pc <;> cases hrevoked
  | adminUsers session pc =>
      obtain ⟨⟨db₁, r⟩, hstatement, h⟩ := map_eq_ok.mp h
      cases h
      cases pc with
      | updateWrites userId target parsed =>
          obtain ⟨body, rfl⟩ := hpc
          obtain ⟨_, -, h⟩ := bind_eq_ok.mp hstatement
          cases h
          exact hrevoked
      | deleteCommits userId =>
          replace hpc : method = .delete userId := hpc
          subst hpc
          obtain ⟨_, -, h⟩ := bind_eq_ok.mp hstatement
          cases h
          exact hrevoked
      | _ => cases hrevoked
  | signups pc =>
      obtain ⟨⟨db₁, r⟩, hstatement, h⟩ := map_eq_ok.mp h
      cases h
      cases pc with
      | reviewCommits session request existingUser =>
          cases existingUser with
          -- The account is new and has no session.
          | none => cases hrevoked
          | some existing =>
              obtain ⟨requestId, body, rfl⟩ := hpc
              exact revoked_of_signup hstatement hrevoked
      | _ => cases hrevoked

/-- The controller refreshes the token that the commit names: the commit is one of an acceptance,
and the token is that of the request. -/
theorem refreshed_of_commit {bearer : Option String} {pc : AccountWaiting} {reply : AccountReply}
    {token : String} (hpc : Serves method pc)
    (h : accountStatement ctx pc input db = .ok (db', reply))
    (hrefreshed : refreshedByCommit db bearer pc = some token) :
    (∃ invitationId, method = .acceptOrganizationInvitation invitationId) ∧
      (∃ value, answeredValue reply = some value) ∧ bearer = some token := by
  -- Only the commit of an acceptance makes the controller refresh a token.
  cases pc with
  | invitations session pc =>
      obtain ⟨⟨db₁, r⟩, hstatement, h⟩ := map_eq_ok.mp h
      cases h
      cases pc with
      | acceptCommits invitation =>
          obtain ⟨⟨db₂, accepted⟩, htransaction, h⟩ := bind_eq_ok.mp hstatement
          cases h
          obtain ⟨stored, hstored, hbearer⟩ := Option.bind_eq_some_iff.mp hrefreshed
          obtain ⟨hstored, hinvitable⟩ := Option.filter_eq_some_iff.mp hstored
          obtain ⟨-, ⟨row, hrow, -, -, haccepted⟩, -, -⟩ := acceptTransaction_spec htransaction
          rw [hstored] at hrow
          cases hrow
          have hsame : accepted.invitation.requestedRole = stored.requestedRole := by
            rw [haccepted]
          -- The answer can only fail on the stored role, which the filter has looked at.
          cases hok : OrganizationInvitations.invitableRole stored.requestedRole with
          | error error =>
              rw [hok] at hinvitable
              cases hinvitable
          | ok role =>
              refine ⟨hpc, ?_, hbearer⟩
              simp [answeredValue, OrganizationInvitations.toInvitation, hsame, hok, bind,
                Except.bind, Except.toOption]
      | _ => cases hrefreshed
  | _ => cases hrefreshed

end

end Dcvp.Proofs
