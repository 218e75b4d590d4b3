import Dcvp.Proofs.AccountWorkflows

/-!
# `Dcvp.Proofs.GrantedRoles`: the roles that are asked for

A role is granted in two ways besides an edit: a request is approved, or an invitation is accepted.
Both take the role from a stored row, and both rows come from a form that has looked at the role
first. `GrantScope` has the roles that a stored row may ask for, and with them that the forms let
nothing else through. `GrantsWithin` says it of the tables.

The role waits in the call between the form and the insert, and between the read of a row and the
transaction that grants it. `GrantScope.Waits` and `GrantScope.Holds` follow it there, next to the
check that an edit has made of its session. `execute_within` and `resume_within` are the lemmas for
one statement and for one segment. `grantsWithin_run` is the result for the account services. The
modules about operators and about lists use the lemmas with scopes of their own.
-/

set_option autoImplicit false

namespace Dcvp.Proofs

open Dcvp.Lib
open Dcvp.Services
open Dcvp.Shared (AuthSession UserRole)

/-! ### The property -/

/-- The roles that `createInvitation` lets through. -/
def Invitable (role : UserRole) : Prop := role = .organization ∨ role = .proctor

instance (role : UserRole) : Decidable (Invitable role) := inferInstanceAs (Decidable (_ ∨ _))

/-- The roles that stored rows may ask for.
* `requests` has those of access requests, `invitations` those of invitations.
* Each contains what the form of such a row lets through, so that a call of the services never
  leaves the scope. -/
structure GrantScope where
  requests : UserRole → Prop
  invitations : UserRole → Prop
  ofRequestForm : ∀ role, role ≠ .admin → requests role
  ofInvitationForm : ∀ role, Invitable role → invitations role

/-- The stored requests and invitations ask for roles of the scope only. -/
structure GrantsWithin (scope : GrantScope) (db : Database) : Prop where
  requests : ∀ r ∈ db.accessRequests.rows, scope.requests r.requestedRole
  invitations : ∀ i ∈ db.invitations.rows, scope.invitations i.requestedRole

/-- The statement stores or grants a role of the scope, or it is the edit of an account, which
makes an operator in the session of an operator only. -/
def GrantScope.Waits (scope : GrantScope) : AccountWaiting → Prop
  | .requests _ (.createReadsOrganization parsed) => scope.requests parsed.requestedRole
  | .requests _ (.createReadsPending parsed _) => scope.requests parsed.requestedRole
  | .requests _ (.createWrites parsed _ _) => scope.requests parsed.requestedRole
  | .requests _ (.reviewCommits request _) => scope.requests request.requestedRole
  | .invitations _ (.createReadsUser parsed _) => scope.invitations parsed.requestedRole
  | .invitations _ (.createReadsPending parsed _ _) => scope.invitations parsed.requestedRole
  | .invitations _ (.createWrites parsed _ _ _ _) => scope.invitations parsed.requestedRole
  | .invitations _ (.acceptCommits invitation) => scope.invitations invitation.requestedRole
  | .adminUsers session (.updateReadsEmail _ _ parsed) =>
      parsed.role = .admin → session.user.role = .admin
  | .adminUsers session (.updateWrites _ _ parsed) =>
      parsed.role = .admin → session.user.role = .admin
  | _ => True

/-- The same of the reply to a statement: what was read is stored, and what was parsed is carried
on. -/
def GrantScope.Replies (scope : GrantScope) : AccountReply → Prop
  | .requests _ (.organizationRead parsed _) => scope.requests parsed.requestedRole
  | .requests _ (.pendingRead parsed _ _) => scope.requests parsed.requestedRole
  | .requests _ (.requestRead _ request) => ∀ r ∈ request, scope.requests r.requestedRole
  | .invitations _ (.userRead parsed _ _) => scope.invitations parsed.requestedRole
  | .invitations _ (.pendingRead parsed _ _ _) => scope.invitations parsed.requestedRole
  | .invitations _ (.invitationRead invitation) =>
      ∀ i ∈ invitation, scope.invitations i.requestedRole
  | .adminUsers session (.emailRead _ _ parsed _) =>
      parsed.role = .admin → session.user.role = .admin
  | _ => True

/-- The assertion of an answered statement, which may have thrown. A statement that has thrown is
as it was before. -/
def GrantScope.Holds (scope : GrantScope) : AccountReady → Prop
  | .answered reply => scope.Replies reply
  | .failed pc _ => scope.Waits pc

/-! ### The checks -/

/-- The form of an access request does not ask for an operator. -/
theorem requestedRole_of_parseCreateInput {ctx : AuthContext}
    {input parsed : OrganizationRequests.CreateInput}
    (h : OrganizationRequests.parseCreateInput ctx input = .ok parsed) :
    parsed.requestedRole ≠ .admin := by
  unfold OrganizationRequests.parseCreateInput at h
  simp only [] at h
  split at h
  · cases h
  · split at h
    · cases h
    · rename_i hrole
      cases h
      intro hadmin
      exact hrole (by rw [show input.requestedRole = .admin from hadmin]; decide)

/-- The form of an invitation offers two roles, so an invitation that passes the parser asks for
one of them. -/
theorem requestedRole_of_parseInvitation {ctx : AuthContext}
    {input parsed : OrganizationInvitations.CreateInput}
    (h : OrganizationInvitations.parseCreateInput ctx input = .ok parsed) :
    Invitable parsed.requestedRole := by
  unfold OrganizationInvitations.parseCreateInput at h
  simp only [] at h
  split at h
  · cases h
  · split at h
    · cases h
    · rename_i hrole
      cases h
      show input.requestedRole = .organization ∨ input.requestedRole = .proctor
      tauto

/-- Only an operator edits an account into an operator's: for every other caller the parser refuses
this role. -/
theorem role_of_parseUpdateUserInput {ctx : AuthContext} {session : AuthSession}
    {input : AdminUsers.UpdateInput} {parsed : AdminUsers.ParsedUpdate}
    (h : AdminUsers.parseUpdateUserInput ctx session input = .ok parsed)
    (hadmin : parsed.role = .admin) : session.user.role = .admin := by
  obtain ⟨role, hrole, h⟩ := bind_eq_ok.mp h
  have hparsed : parsed.role = role := by
    split at h
    · cases h
    · split at h
      · cases h
      · split at h
        · cases h
        · cases h
          rfl
  rw [hparsed] at hadmin
  unfold AdminUsers.parseEditableRole at hrole
  by_contra hsession
  rw [if_neg hsession] at hrole
  split at hrole
  · rename_i hmanager
    cases hrole
    rw [hadmin] at hmanager
    simp at hmanager
  · cases hrole

/-- A stored invitation with such a role is answered, with its columns. With another role
`toInvitation` throws. -/
theorem toInvitation_of_invitable {row : Database.IncludedInvitation} (email : String)
    (hrole : Invitable row.invitation.requestedRole) :
    ∃ invitation, OrganizationInvitations.toInvitation row email = .ok invitation ∧
      invitation.id = row.invitation.id ∧ invitation.status = row.invitation.status := by
  have hpass : OrganizationInvitations.invitableRole row.invitation.requestedRole
      = .ok row.invitation.requestedRole := if_pos hrole
  unfold OrganizationInvitations.toInvitation
  rw [hpass]
  exact ⟨_, rfl, rfl, rfl⟩

/-! ### The segments -/

section
variable {scope : GrantScope}

/-- The first segment of a call: it waits for a read, or it has looked at the form. -/
theorem segment_within {ctx : AuthContext} {call : AccountCall} {pc : AccountWaiting}
    (h : accountSegment ctx call = .suspended pc) : scope.Waits pc := by
  -- Only the form of an access request is parsed in its first segment; an invitation looks for the
  -- organization of its manager first.
  cases call with
  | openSession userId token => cases h; trivial
  | requests session call =>
      obtain ⟨pc', hpc, rfl⟩ := liftOutcome_eq_suspended h
      have hstart := awaitOrThrow_eq_suspended.mp hpc
      cases call with
      | createRequest data =>
          simp only [OrganizationRequests.start, OrganizationRequests.createRequest] at hstart
          split at hstart
          · obtain ⟨parsed, hparsed, hpc⟩ := bind_eq_ok.mp hstart
            cases hpc
            exact scope.ofRequestForm _ (requestedRole_of_parseCreateInput hparsed)
          · cases hstart
      | reviewRequest requestId data =>
          obtain ⟨_, -, hstart⟩ := bind_eq_ok.mp hstart
          split at hstart
          · obtain ⟨action, -, hpc⟩ := bind_eq_ok.mp hstart
            cases hpc
            trivial
          · cases hstart
  | invitations session call =>
      obtain ⟨pc', hpc, rfl⟩ := liftOutcome_eq_suspended h
      have hstart := awaitOrThrow_eq_suspended.mp hpc
      cases call <;> cases hstart <;> trivial
  | adminUsers session call =>
      obtain ⟨pc', hpc, rfl⟩ := liftOutcome_eq_suspended h
      have hstart := awaitOrThrow_eq_suspended.mp hpc
      cases call with
      | updateManagedUser userId data =>
          simp only [AdminUsers.start] at hstart
          split at hstart <;> cases hstart
          trivial
      | deleteManagedUser userId =>
          simp only [AdminUsers.start] at hstart
          split at hstart <;> cases hstart
          trivial
  | signups call =>
      obtain ⟨pc', -, rfl⟩ := liftOutcome_eq_suspended h
      trivial

/-- The segments of the access requests: a stored request is checked no further. -/
theorem requests_resume_within {session : AuthSession} {reply : OrganizationRequests.Ready}
    {input : AccountInput} {pc : OrganizationRequests.Waiting}
    (hreply : scope.Replies (.requests session reply))
    (h : OrganizationRequests.resume session reply input = .suspended pc) :
    scope.Waits (.requests session pc) := by
  -- The role of the form is carried along; a review carries the role of the stored request that it
  -- has read.
  cases reply with
  | organizationRead parsed organization =>
      cases organization with
      | none => cases h
      | some organization =>
          obtain ⟨_, -, hpc⟩ := bind_eq_ok.mp (awaitOrThrow_eq_suspended.mp h)
          cases hpc
          exact hreply
  | pendingRead parsed organization pending =>
      cases pending with
      | none => cases h; exact hreply
      | some pending => cases h
  | requestRead action request =>
      cases request with
      | none => cases h
      | some request =>
          obtain ⟨_, -, hpc⟩ := bind_eq_ok.mp (awaitOrThrow_eq_suspended.mp h)
          split at hpc
          · cases hpc
          · cases hpc
            exact hreply request rfl
  | written row => cases h

/-- The segments of the invitations: the form is looked at after the manager, and a stored
invitation is checked no further. -/
theorem invitations_resume_within {ctx : AuthContext} {session : AuthSession}
    {reply : OrganizationInvitations.Ready} {input : AccountInput}
    {pc : OrganizationInvitations.Waiting} (hreply : scope.Replies (.invitations session reply))
    (h : OrganizationInvitations.resume ctx session reply input = .suspended pc) :
    scope.Waits (.invitations session pc) := by
  -- The form is parsed behind the first read. From there the role is carried along, as for the
  -- access requests.
  cases reply with
  | managerRead data manager =>
      obtain ⟨_, -, h⟩ := bind_eq_ok.mp (awaitOrThrow_eq_suspended.mp h)
      obtain ⟨parsed, hparsed, hpc⟩ := bind_eq_ok.mp h
      cases hpc
      exact scope.ofInvitationForm _ (requestedRole_of_parseInvitation hparsed)
  | userRead parsed organizationId invitedUser =>
      have hpc := awaitOrThrow_eq_suspended.mp h
      unfold OrganizationInvitations.createAfterUser at hpc
      split at hpc
      · cases hpc
      · split at hpc
        · cases hpc
        · cases hpc
          exact hreply
  | pendingRead parsed organizationId invitedUser pending =>
      cases pending with
      | none => cases h; exact hreply
      | some pending => cases h
  | invitationRead invitation =>
      have hpc := awaitOrThrow_eq_suspended.mp h
      unfold OrganizationInvitations.acceptAfterRead at hpc
      split at hpc
      · cases hpc
      · rename_i invitation
        split at hpc
        · cases hpc
        · split at hpc
          · cases hpc
          · cases hpc
            exact hreply invitation rfl
  | written row email => cases h

/-- The segments of the edits: the role is looked at after the account has been read. -/
theorem adminUsers_resume_within {ctx : AuthContext} {session : AuthSession}
    {reply : AdminUsers.Ready} {pc : AdminUsers.Waiting}
    (hreply : scope.Replies (.adminUsers session reply))
    (h : AdminUsers.resume ctx session reply = .suspended pc) :
    scope.Waits (.adminUsers session pc) := by
  cases reply with
  | targetRead userId data target =>
      cases target with
      | none => cases h
      | some target =>
          obtain ⟨parsed, hparsed, h⟩ := bind_eq_ok.mp (awaitOrThrow_eq_suspended.mp h)
          obtain ⟨_, -, hpc⟩ := bind_eq_ok.mp h
          cases hpc
          exact role_of_parseUpdateUserInput hparsed
  | emailRead userId target parsed existing =>
      have hpc := awaitOrThrow_eq_suspended.mp h
      unfold AdminUsers.updateAfterEmail at hpc
      split at hpc
      · cases hpc
      · cases hpc
        exact hreply
  | updated user => cases h
  | deleted userId => cases h

/-- A call goes on after its reply, or after a statement that has thrown. -/
theorem resume_within {ctx : AuthContext} {ready : AccountReady} {input : AccountInput}
    {m m' : AccountMemory} {pc : AccountWaiting} (hready : scope.Holds ready)
    (h : accountResume ctx ready input m = some (m', .suspended pc)) : scope.Waits pc := by
  -- A statement that has thrown ends its call, unless it is the lookup of a signup, which goes on
  -- and carries no role.
  cases ready with
  | failed pc' error =>
      cases pc' with
      | signups pc' =>
          obtain ⟨pc'', -, rfl⟩ := liftOutcome_eq_suspended
            (congrArg Prod.snd (Option.some.inj h))
          trivial
      | _ => cases h
  | answered reply =>
      cases reply with
      | sessionRead token user organization => cases user <;> cases h
      | requests session reply =>
          obtain ⟨pc', hpc, rfl⟩ := liftOutcome_eq_suspended (congrArg Prod.snd (Option.some.inj h))
          exact requests_resume_within hready hpc
      | invitations session reply =>
          obtain ⟨pc', hpc, rfl⟩ := liftOutcome_eq_suspended (congrArg Prod.snd (Option.some.inj h))
          exact invitations_resume_within hready hpc
      | adminUsers session reply =>
          obtain ⟨pc', hpc, rfl⟩ := liftOutcome_eq_suspended (congrArg Prod.snd (Option.some.inj h))
          exact adminUsers_resume_within hready hpc
      | signups reply =>
          obtain ⟨pc', -, rfl⟩ := liftOutcome_eq_suspended (congrArg Prod.snd (Option.some.inj h))
          trivial

/-! ### The statements -/

variable {db db' : Database} {input : AccountInput}

/-- A write of other tables. -/
theorem GrantsWithin.of_tables (h : GrantsWithin scope db)
    (hrequests : db'.accessRequests = db.accessRequests)
    (hinvitations : db'.invitations = db.invitations) : GrantsWithin scope db' where
  requests := by rw [hrequests]; exact h.requests
  invitations := by rw [hinvitations]; exact h.invitations

/-- The statements of the access requests. The insert stores a role of the form, and a review
changes no role that is stored. -/
theorem requests_statement_within {session : AuthSession} {pc : OrganizationRequests.Waiting}
    {reply : OrganizationRequests.Ready} (hdb : GrantsWithin scope db)
    (hpc : scope.Waits (.requests session pc))
    (h : OrganizationRequests.statement session pc input db = .ok (db', reply)) :
    GrantsWithin scope db' ∧ scope.Replies (.requests session reply) := by
  cases pc with
  | createReadsOrganization parsed => cases h; exact ⟨hdb, hpc⟩
  | createReadsPending parsed organization => cases h; exact ⟨hdb, hpc⟩
  | createWrites parsed organization id =>
      obtain ⟨db₁, hcreate, h⟩ := bind_eq_ok.mp h
      obtain ⟨included, -, h⟩ := bind_eq_ok.mp h
      cases h
      obtain ⟨table, hinsert, htables⟩ := Database.tables_of_createAccessRequest hcreate
      refine ⟨⟨?_, by rw [htables]; exact hdb.invitations⟩, trivial⟩
      rw [htables]
      -- The new row has the role that the call waited with.
      exact Table.forall_insert? hinsert hdb.requests hpc
  | reviewReads requestId action =>
      simp only [OrganizationRequests.statement] at h
      split at h
      · cases h
        exact ⟨hdb, fun r hr => by cases hr⟩
      · rename_i request hfind
        obtain ⟨included, -, h⟩ := bind_eq_ok.mp h
        cases h
        refine ⟨hdb, fun r hr => ?_⟩
        cases hr
        exact hdb.requests request ((Table.find?_eq_some_iff _ _ _).mp hfind).1
  | reviewCommits request action =>
      obtain ⟨⟨db₁, included⟩, htransaction, h⟩ := bind_eq_ok.mp h
      cases h
      obtain ⟨db₂, hdecision, h⟩ := bind_eq_ok.mp htransaction
      obtain ⟨⟨db₃, row⟩, hrequest, h⟩ := bind_eq_ok.mp h
      obtain ⟨included', -, h⟩ := bind_eq_ok.mp h
      cases h
      have hlast := Database.tables_of_updateAccessRequest hrequest
      -- The decision writes the user; the request keeps its role when its status is set.
      have hdecided : GrantsWithin scope db₂ := by
        cases action with
        | reject rejectionReason => cases hdecision; exact hdb
        | approve =>
            obtain ⟨⟨db₄, row'⟩, hupdate, rfl⟩ := map_eq_ok.mp hdecision
            have htables := Database.tables_of_updateUser hupdate
            exact hdb.of_tables (by rw [htables]) (by rw [htables])
      refine ⟨⟨?_, by rw [hlast]; exact hdecided.invitations⟩, trivial⟩
      rw [hlast]
      exact Table.forall_updateMany hdecided.requests fun r hr => hr

/-- The statements of the invitations. The insert stores a role of the form, and an acceptance
changes no role that is stored. -/
theorem invitations_statement_within {session : AuthSession}
    {pc : OrganizationInvitations.Waiting} {reply : OrganizationInvitations.Ready}
    (hdb : GrantsWithin scope db) (hpc : scope.Waits (.invitations session pc))
    (h : OrganizationInvitations.statement session pc input db = .ok (db', reply)) :
    GrantsWithin scope db' ∧ scope.Replies (.invitations session reply) := by
  cases pc with
  | createReadsManager data => cases h; exact ⟨hdb, trivial⟩
  | createReadsUser parsed organizationId => cases h; exact ⟨hdb, hpc⟩
  | createReadsPending parsed organizationId invitedUser => cases h; exact ⟨hdb, hpc⟩
  | createWrites parsed organizationId invitedUser id token =>
      obtain ⟨db₁, hcreate, h⟩ := bind_eq_ok.mp h
      obtain ⟨included, -, h⟩ := bind_eq_ok.mp h
      cases h
      obtain ⟨table, hinsert, htables⟩ := Database.tables_of_createInvitation hcreate
      refine ⟨⟨by rw [htables]; exact hdb.requests, ?_⟩, trivial⟩
      rw [htables]
      -- The new row has the role that the call waited with.
      exact Table.forall_insert? hinsert hdb.invitations hpc
  | acceptReads invitationId =>
      simp only [OrganizationInvitations.statement] at h
      split at h
      · cases h
        exact ⟨hdb, fun i hi => by cases hi⟩
      · rename_i invitation hfind
        obtain ⟨included, -, h⟩ := bind_eq_ok.mp h
        cases h
        refine ⟨hdb, fun i hi => ?_⟩
        cases hi
        exact hdb.invitations invitation ((Table.find?_eq_some_iff _ _ _).mp hfind).1
  | acceptCommits invitation =>
      obtain ⟨⟨db₁, accepted⟩, htransaction, h⟩ := bind_eq_ok.mp h
      cases h
      obtain ⟨db₂, huser, h⟩ := bind_eq_ok.mp htransaction
      obtain ⟨db₃, hinvitation, h⟩ := bind_eq_ok.mp h
      obtain ⟨accepted', -, h⟩ := bind_eq_ok.mp h
      cases h
      -- The acceptance writes the user and sets the status of the invitation, which keeps its role.
      have hclaimed := (claimUser_spec huser).2.2
      have hfirst : GrantsWithin scope db₂ :=
        hdb.of_tables (by rw [hclaimed]) (by rw [hclaimed])
      obtain ⟨⟨db₄, count⟩, hupdate, h⟩ := bind_eq_ok.mp hinvitation
      simp only [] at h
      split at h
      · cases h
      · cases h
        have hsecond := (Database.tables_of_updateInvitations hupdate).1
        refine ⟨⟨by rw [hsecond]; exact hfirst.requests, ?_⟩, trivial⟩
        rw [hsecond]
        exact Table.forall_updateMany hfirst.invitations fun i hi => hi

/-- The statements of the edits write no request and no invitation, but those of a deleted account
go with it. -/
theorem adminUsers_statement_within {session : AuthSession} {pc : AdminUsers.Waiting}
    {reply : AdminUsers.Ready} (hdb : GrantsWithin scope db)
    (hpc : scope.Waits (.adminUsers session pc))
    (h : AdminUsers.statement session pc db = .ok (db', reply)) :
    GrantsWithin scope db' ∧ scope.Replies (.adminUsers session reply) := by
  -- The edit touches neither table; the deletion takes rows out of both and adds none.
  cases pc with
  | updateReadsTarget userId data => cases h; exact ⟨hdb, trivial⟩
  | updateReadsEmail userId target parsed => cases h; exact ⟨hdb, hpc⟩
  | updateWrites userId target parsed =>
      obtain ⟨⟨db₁, row'⟩, hupdate, h⟩ := bind_eq_ok.mp h
      cases h
      have htables := Database.tables_of_updateUser hupdate
      exact ⟨hdb.of_tables (by rw [htables]) (by rw [htables]), trivial⟩
  | deleteCommits userId =>
      obtain ⟨db₁, htransaction, h⟩ := bind_eq_ok.mp h
      cases h
      obtain ⟨_, -, h⟩ := bind_eq_ok.mp htransaction
      obtain ⟨_, -, h⟩ := bind_eq_ok.mp h
      obtain ⟨db₂, hinvitations, hdelete⟩ := bind_eq_ok.mp h
      have hfirst := Database.tables_of_deleteInvitations hinvitations
      have hsecond := Database.tables_of_deleteUser hdelete
      refine ⟨⟨?_, ?_⟩, trivial⟩
      · rw [hsecond, hfirst]
        exact Table.forall_deleteMany hdb.requests
      · rw [hsecond, hfirst]
        exact Table.forall_deleteMany hdb.invitations

/-- One statement of the account services keeps the stored grants within the scope, and its reply
carries a grant of the scope. -/
theorem execute_within {ctx : AuthContext} {pc : AccountWaiting} {ready : AccountReady}
    (hdb : GrantsWithin scope db) (hpc : scope.Waits pc)
    (h : accountExecute ctx pc input db = some (db', ready)) :
    GrantsWithin scope db' ∧ scope.Holds ready := by
  -- A statement that throws leaves the database, and the call keeps its place.
  rcases execute_cases h with ⟨reply, rfl, hstatement⟩ | ⟨error, rfl, rfl⟩
  · cases pc with
    | openSession userId token => cases hstatement; exact ⟨hdb, trivial⟩
    | requests session pc =>
        obtain ⟨⟨db₁, r⟩, hservice, heq⟩ := map_eq_ok.mp hstatement
        cases heq
        exact requests_statement_within hdb hpc hservice
    | invitations session pc =>
        obtain ⟨⟨db₁, r⟩, hservice, heq⟩ := map_eq_ok.mp hstatement
        cases heq
        exact invitations_statement_within hdb hpc hservice
    | adminUsers session pc =>
        obtain ⟨⟨db₁, r⟩, hservice, heq⟩ := map_eq_ok.mp hstatement
        cases heq
        exact adminUsers_statement_within hdb hpc hservice
    | signups pc =>
        obtain ⟨⟨db₁, r⟩, hservice, heq⟩ := map_eq_ok.mp hstatement
        cases heq
        have hrequests : db₁.accessRequests = db.accessRequests := by
          rw [tables_of_signups hservice]
        have hinvitations : db₁.invitations = db.invitations := by
          rw [tables_of_signups hservice]
        exact ⟨hdb.of_tables hrequests hinvitations, trivial⟩
  · exact ⟨hdb, hpc⟩

end

/-! ### Whole runs -/

/-- The stored roles, and the roles on their way into the tables. -/
def GrantScope.outline (scope : GrantScope) :
    Outline AccountMemory Database AccountWaiting AccountReady where
  Inv _ db := GrantsWithin scope db
  Waits pc _ _ := scope.Waits pc
  Holds ready _ _ := scope.Holds ready

/-- The outline holds for every scope. The invariant is about the database alone, so what the other
calls do to it never weakens the assertion of a call. -/
theorem GrantScope.outline_proved (scope : GrantScope) (ctx : AuthContext) :
    scope.outline.Proved (accountProgram ctx) fun _ _ _ _ => True where
  start call input m d m' o hinv h := by
    obtain ⟨-, heq⟩ := Option.ite_none_right_eq_some.mp h
    cases heq
    exact ⟨hinv, trivial, fun pc hpc => segment_within hpc⟩
  execute pc input m d d' ready hinv hwaits h := by
    obtain ⟨hinv', hholds⟩ := execute_within hinv hwaits h
    exact ⟨hinv', trivial, hholds⟩
  resume ready input m d m' o hinv hholds h := by
    refine ⟨hinv, trivial, fun pc hpc => ?_⟩
    subst hpc
    exact resume_within hholds h
  stable f m d m' d' _ hf := by
    cases f <;> exact hf

/-- Every run of the account services keeps the stored roles within the scope. -/
theorem grantsWithin_run {scope : GrantScope} (ctx : AuthContext) (memory : AccountMemory)
    (db : Database) (hdb : GrantsWithin scope db) (es : List AccountEvent) (w : AccountWorld)
    (h : (accountProgram ctx).machine.run { memory, database := db } es = some w) :
    GrantsWithin scope w.database :=
  (Outline.run_valid (scope.outline_proved ctx) es _ w (scope.outline.valid_initial hdb) h).inv

end Dcvp.Proofs
