import Dcvp.Proofs.AccountWorkflows

/-!
# `Dcvp.Proofs.TenantProtection`: what a manager cannot do to other tenants

A manager acts with an `ORGANIZATION` session. Operators and the members of other
organizations are out of reach (`OutOfReach`). Three statements of a manager's calls write a
role: the approval of a request, an edit, and the acceptance of an invitation by the manager.

The acceptance is safe. It writes only a row without an organization, and such a row belongs
to an operator only if it always has: `FreeOperator` rows never come into being. The
sessions of `tenantOutline` are copies of rows, so an `ORGANIZATION` session is not the
session of such an operator.

The other two statements write whatever row they find. The approval was judged when the
request was created, and the edit when the row was read. `tenant_protection` says that a
manager's actions keep role and organization of everybody out of reach, in every run in
which each of these writes finds its user still within reach (`StillEligible`).
-/

set_option autoImplicit false

namespace Dcvp.Proofs

open Dcvp.Lib
open Dcvp.Services
open Dcvp.Shared (AuthSession UserRole)

/-! ### The property and the condition -/

/-- The user is an operator, or belongs to another organization than the manager. -/
def OutOfReach (manager : AuthSession) (row : UserRow) : Prop :=
  row.role = .admin ∨
    ∃ organizationId, row.organizationId = some organizationId ∧
      manager.user.organizationId ≠ some organizationId

/-- The session with which a suspended call was made. -/
def waitingSession : AccountWaiting → Option AuthSession
  | .openSession .. => none
  | .requests session _ | .invitations session _ | .adminUsers session _ => some session
  | .signups (.registeredReadsPending session _) => some session
  | .signups (.registeredWrites session _ _) => some session
  | .signups (.reviewReads session _ _) => some session
  | .signups (.reviewRejects session _ _) => some session
  | .signups (.reviewReadsUser session _) => some session
  | .signups (.reviewCommits session _ _) => some session
  | .signups _ => none

/-- The move executes a statement of a call that was made with the session. No other move
changes the database. -/
def ActsAs (w : AccountWorld) (e : AccountEvent) (manager : AuthSession) : Prop :=
  ∃ id input pc, e = .execute id input ∧ w.flights.get? id = some (.waiting pc) ∧
    waitingSession pc = some manager

/-- The move, if it is an action with an `ORGANIZATION` session, changes neither the role nor
the organization of a user who is out of the manager's reach. -/
def RespectsTenants (ctx : AuthContext) (w : AccountWorld) (e : AccountEvent) : Prop :=
  ∀ w' manager, (accountProgram ctx).machine.step w e = some w' → ActsAs w e manager →
    manager.user.role = .organization →
    ∀ id row row', w.database.findUser id = some row → OutOfReach manager row →
      w'.database.findUser id = some row' →
      row'.role = row.role ∧ row'.organizationId = row.organizationId

/-- The user is no operator, and has no organization or the given one. -/
def WithinReach (row : UserRow) (organizationId : Option String) : Prop :=
  row.role ≠ .admin ∧ (row.organizationId = none ∨ row.organizationId = organizationId)

/-- The row that the statement of a manager's approval or edit is about to write is within
reach: the applicant's one with the organization of the request, and the edited one with the
organization that was read. -/
def EligibleAt (db : Database) : Option (Flight AccountWaiting AccountReady) → Prop
  | some (.waiting (.requests manager (.reviewCommits request .approve))) =>
      manager.user.role = .organization →
        ∀ row ∈ db.findUser request.userId, WithinReach row (some request.organizationId)
  | some (.waiting (.adminUsers manager (.updateWrites userId target _))) =>
      manager.user.role = .organization →
        ∀ row ∈ db.findUser userId, WithinReach row target.organizationId
  | _ => True

/-- An approval or an edit with an `ORGANIZATION` session finds its user still eligible. -/
def StillEligible (w : AccountWorld) : AccountEvent → Prop
  | .execute id _ => EligibleAt w.database (w.flights.get? id)
  | _ => True

instance (row : UserRow) (organizationId : Option String) :
    Decidable (WithinReach row organizationId) :=
  inferInstanceAs (Decidable (_ ∧ _))

instance (db : Database) (f : Option (Flight AccountWaiting AccountReady)) :
    Decidable (EligibleAt db f) := by
  unfold EligibleAt
  split <;> infer_instance

instance (w : AccountWorld) : ∀ e, Decidable (StillEligible w e)
  | .invoke .. => isTrue trivial
  | .resume .. => isTrue trivial
  | .execute id _ => inferInstanceAs (Decidable (EligibleAt w.database (w.flights.get? id)))

/-! ### The proof outline -/

/-- The user is an operator without an organization. -/
def FreeOperator (db : Database) (id : String) : Prop :=
  ∃ row, db.findUser id = some row ∧ row.role = .admin ∧ row.organizationId = none

/-- The session copies a row: the organization is the one of the user, and a manager's session
is not the session of an operator without an organization. -/
structure SessionFits (session : AuthSession) (db : Database) : Prop where
  organization : session.organization.id = session.user.organizationId.getD ""
  manager : session.user.role = .organization → ¬ FreeOperator db session.user.id

/-- A review that commits is one of the manager's own organization. -/
def RequestsChecked (session : AuthSession) : OrganizationRequests.Waiting → Prop
  | .reviewCommits request _ => session.user.role = .organization →
      session.user.organizationId = some request.organizationId
  | _ => True

/-- The row that an edit has read belongs to the manager's organization. -/
def EditChecked (session : AuthSession) (target : UserRow) : Prop :=
  session.user.role = .organization → target.organizationId = session.user.organizationId

@[inherit_doc EditChecked]
def AdminUsersChecked (session : AuthSession) : AdminUsers.Waiting → Prop
  | .updateReadsEmail _ target _ => EditChecked session target
  | .updateWrites _ target _ => EditChecked session target
  | _ => True

/-- A review of a request to found an organization is made by an operator. -/
def SignupsChecked : AdminSignupRequests.Waiting → Prop
  | .reviewReads session _ _ => session.user.role = .admin
  | .reviewRejects session _ _ => session.user.role = .admin
  | .reviewReadsUser session _ => session.user.role = .admin
  | .reviewCommits session _ _ => session.user.role = .admin
  | _ => True

/-- The assertion of a suspended call. -/
def WaitingFits (db : Database) : AccountWaiting → Prop
  | .openSession .. => True
  | .requests session pc => SessionFits session db ∧ RequestsChecked session pc
  | .invitations session _ => SessionFits session db
  | .adminUsers session pc => SessionFits session db ∧ AdminUsersChecked session pc
  | .signups pc => SignupsChecked pc

/-- The assertion of a reply. -/
def ReplyFits (db : Database) : AccountReply → Prop
  | .sessionRead token (some user) organization =>
      SessionFits { token, user := toUser user, organization := toOrganization organization } db
  | .sessionRead _ none _ => True
  | .requests session _ => SessionFits session db
  | .invitations session _ => SessionFits session db
  | .adminUsers session (.emailRead _ target _ _) =>
      SessionFits session db ∧ EditChecked session target
  | .adminUsers session _ => SessionFits session db
  | .signups (.requestRead session _ _) => session.user.role = .admin
  | .signups (.reviewUserRead session _ _) => session.user.role = .admin
  | .signups _ => True

/-- The proof outline: every session that was given out copies a row. -/
def tenantOutline : Outline AccountMemory Database AccountWaiting AccountReady where
  Inv m d := ∀ session ∈ m.sessions, SessionFits session d
  Waits pc _ d := WaitingFits d pc
  Holds
    | .answered reply, _, d => ReplyFits d reply
    | .failed pc _, _, d => WaitingFits d pc

/-- No operator without an organization comes into being. -/
def NoNewFreeOperator (db db' : Database) : Prop := ∀ id, FreeOperator db' id → FreeOperator db id

/-- A session keeps fitting while no free operator comes into being, since it is a copy and does
not change. -/
theorem SessionFits.mono {session : AuthSession} {db db' : Database}
    (h : SessionFits session db) (hfree : NoNewFreeOperator db db') : SessionFits session db' :=
  ⟨h.organization, fun hrole hnew => h.manager hrole (hfree _ hnew)⟩

/-- The assertion of a suspended call survives the statements of the others. -/
theorem waitingFits_mono {pc : AccountWaiting} {db db' : Database} (h : WaitingFits db pc)
    (hfree : NoNewFreeOperator db db') : WaitingFits db' pc := by
  cases pc with
  | openSession userId token => trivial
  | requests session pc => exact ⟨h.1.mono hfree, h.2⟩
  | invitations session pc => exact SessionFits.mono h hfree
  | adminUsers session pc => exact ⟨h.1.mono hfree, h.2⟩
  | signups pc => exact h

/-- So does the assertion of a reply: what it says of an account stays true, as long as no operator
without an organization appears. -/
theorem replyFits_mono {reply : AccountReply} {db db' : Database} (h : ReplyFits db reply)
    (hfree : NoNewFreeOperator db db') : ReplyFits db' reply := by
  cases reply with
  | sessionRead token user organization =>
      cases user with
      | none => trivial
      | some user => exact SessionFits.mono h hfree
  | requests session reply => exact SessionFits.mono h hfree
  | invitations session reply => exact SessionFits.mono h hfree
  | adminUsers session reply =>
      cases reply with
      | emailRead userId target parsed existing => exact ⟨h.1.mono hfree, h.2⟩
      | targetRead userId data target => exact SessionFits.mono h hfree
      | updated user => exact SessionFits.mono h hfree
      | deleted userId => exact SessionFits.mono h hfree
  | signups reply => cases reply <;> exact h

/-- A role write gives an organization, and a new row is a manager's. -/
theorem noNewFreeOperator {ctx : AuthContext} {input : AccountInput} {pc : AccountWaiting}
    {db db' : Database} (h : UserEffect ctx input pc db db') : NoNewFreeOperator db db' := by
  rintro id ⟨row, hrow, hadmin, horg⟩
  -- An operator without an organization can only be one of before: writes and new rows give an
  -- organization, and a deletion makes none.
  cases h with
  | kept hnone hfind => exact ⟨row, by rw [← hfind]; exact hrow, hadmin, horg⟩
  | wrote write old hwrite hfree hwrote =>
      by_cases hid : id = write.userId
      · obtain ⟨row', hrow', -, horg'⟩ := hwrote.written
        rw [hid, hrow'] at hrow
        cases hrow
        rw [horg'] at horg
        cases horg
      · exact ⟨row, by rw [← hwrote.others id hid]; exact hrow, hadmin, horg⟩
  | created hnone new hrole hnew hfind =>
      rw [hfind] at hrow
      split at hrow
      · cases hrow
        rw [hrole] at hadmin
        cases hadmin
      · exact ⟨row, hrow, hadmin, horg⟩
  | deleted hnone userId actor hactor hrole hother hfind hgone =>
      by_cases hid : id = userId
      · rw [hid, hgone] at hrow
        cases hrow
      · exact ⟨row, by rw [← hfind id hid]; exact hrow, hadmin, horg⟩

/-! ### The segments keep the outline -/

/-- A manager's review passes the test of the organization: the request is one of the organization
of the session. -/
theorem requestsChecked_review {session : AuthSession} {action : ReviewAction}
    {request : Option AccessRequestRow} {pc : OrganizationRequests.Waiting}
    (h : OrganizationRequests.reviewAfterRead session action request = .ok pc) :
    RequestsChecked session pc := by
  cases request with
  | none => cases h
  | some request =>
      obtain ⟨_, hown, h⟩ := bind_eq_ok.mp h
      split at h
      · cases h
      · cases h
        -- For a manager `assertOwnOrganization` compares with the organization of the account,
        -- which must be there.
        intro hrole
        unfold OrganizationRequests.assertOwnOrganization at hown
        rw [if_neg (by rw [hrole]; decide)] at hown
        obtain ⟨own, horg, hown⟩ := bind_eq_ok.mp hown
        unfold OrganizationRequests.organizationId at horg
        split at horg
        · cases horg
        · rename_i id hid
          cases horg
          split at hown
          · cases hown
          · rename_i heq
            rw [not_not] at heq
            rw [heq]
            exact (Option.filter_eq_some_iff.mp hid).1

/-- A review reaches its transaction behind the check of the organization; the other segments have
no condition. -/
theorem requests_resume_checked {session : AuthSession} {reply : OrganizationRequests.Ready}
    {input : AccountInput} {pc : OrganizationRequests.Waiting}
    (h : OrganizationRequests.resume session reply input = .suspended pc) :
    RequestsChecked session pc := by
  cases reply with
  | organizationRead parsed organization =>
      cases organization with
      | none => cases h
      | some organization =>
          obtain ⟨_, -, hpc⟩ := bind_eq_ok.mp (awaitOrThrow_eq_suspended.mp h)
          cases hpc
          trivial
  | pendingRead parsed organization pending =>
      cases pending with
      | none => cases h; trivial
      | some pending => cases h
  | requestRead action request =>
      exact requestsChecked_review (awaitOrThrow_eq_suspended.mp h)
  | written row => cases h

/-- An edit by a manager passes the test of the organization, and the manager has one. -/
theorem editChecked_parsed {ctx : AuthContext} {session : AuthSession} {target : UserRow}
    {input : AdminUsers.UpdateInput} {parsed : AdminUsers.ParsedUpdate}
    (horg : session.organization.id = session.user.organizationId.getD "")
    (hparsed : AdminUsers.parseUpdateUserInput ctx session input = .ok parsed)
    (heditable : AdminUsers.assertEditable session target = .ok ()) :
    EditChecked session target := by
  intro hrole
  have hadmin : session.user.role ≠ .admin := by rw [hrole]; decide
  -- `assertEditable` compares with the organization of the session, which is that of the account
  -- when it has one.
  have htarget : target.organizationId = some session.organization.id := by
    unfold AdminUsers.assertEditable at heditable
    by_contra hne
    rw [if_pos ⟨hadmin, hne⟩] at heditable
    cases heditable
  have hne : session.organization.id ≠ "" := by
    obtain ⟨role, -, hparsed⟩ := bind_eq_ok.mp hparsed
    unfold AdminUsers.requestedOrganization at hparsed
    rw [if_neg hadmin] at hparsed
    intro hempty
    rw [hempty] at hparsed
    cases hparsed
  rw [htarget]
  cases huser : session.user.organizationId with
  | none =>
      rw [huser] at horg
      exact absurd horg hne
  | some own =>
      rw [huser] at horg
      rw [horg]
      rfl

/-- An edit goes on with the row that it has read, behind the check of the organization. -/
theorem adminUsers_resume_checked {ctx : AuthContext} {session : AuthSession}
    {reply : AdminUsers.Ready} {pc : AdminUsers.Waiting} {db : Database}
    (hfits : ReplyFits db (.adminUsers session reply))
    (h : AdminUsers.resume ctx session reply = .suspended pc) :
    SessionFits session db ∧ AdminUsersChecked session pc := by
  cases reply with
  | targetRead userId data target =>
      cases target with
      | none => cases h
      | some target =>
          obtain ⟨parsed, hparsed, h⟩ := bind_eq_ok.mp (awaitOrThrow_eq_suspended.mp h)
          obtain ⟨_, heditable, hpc⟩ := bind_eq_ok.mp h
          cases hpc
          exact ⟨hfits, editChecked_parsed (SessionFits.organization hfits) hparsed heditable⟩
  | emailRead userId target parsed existing =>
      have hpc := awaitOrThrow_eq_suspended.mp h
      unfold AdminUsers.updateAfterEmail at hpc
      split at hpc
      · cases hpc
      · cases hpc
        exact hfits
  | updated user => cases h
  | deleted userId => cases h

/-- A review begins behind the check of the role. Whoever asks for an organization needs none. -/
theorem signups_start_checked {ctx : AuthContext} {call : AdminSignupRequests.Call}
    {pc : AdminSignupRequests.Waiting} (h : AdminSignupRequests.start ctx call = .ok pc) :
    SignupsChecked pc := by
  -- Only the review asks for an operator; whoever asks for an organization needs none.
  cases call with
  | createRequest data =>
      simp only [AdminSignupRequests.start, AdminSignupRequests.createRequest] at h
      split at h
      · obtain ⟨parsed, -, hpc⟩ := bind_eq_ok.mp h
        cases hpc
        trivial
      · cases h
  | createRequestForRegisteredUser session data =>
      simp only [AdminSignupRequests.start,
        AdminSignupRequests.createRequestForRegisteredUser] at h
      split at h
      · obtain ⟨_, -, hpc⟩ := bind_eq_ok.mp h
        split at hpc
        · cases hpc
        · cases hpc
          trivial
      · cases h
  | reviewRequest session requestId data =>
      obtain ⟨_, hoperator, h⟩ := bind_eq_ok.mp h
      obtain ⟨action, -, hpc⟩ := bind_eq_ok.mp h
      split at hpc
      · cases hpc
        unfold AdminSignupRequests.assertOperator at hoperator
        show session.user.role = .admin
        by_contra hrole
        rw [if_pos hrole] at hoperator
        cases hoperator
      · cases hpc

/-- A review goes on with the session that it began with, whose role was checked at its start. -/
theorem signups_resume_checked {reply : AdminSignupRequests.Ready} {input : AccountInput}
    {pc : AdminSignupRequests.Waiting} {db : Database} (hfits : ReplyFits db (.signups reply))
    (h : AdminSignupRequests.resume reply input = .suspended pc) : SignupsChecked pc := by
  -- The creations have no condition, and the review keeps the session that was checked at its
  -- start.
  cases reply with
  | userRead parsed existingUser => cases h; trivial
  | pendingRead parsed existingUser pending =>
      have hpc := awaitOrThrow_eq_suspended.mp h
      unfold AdminSignupRequests.createAfterReads at hpc
      split at hpc
      · cases hpc
      · split at hpc
        · cases hpc
        · cases hpc
          trivial
  | hashed parsed passwordHash => cases h; trivial
  | registeredPendingRead session data pending =>
      cases pending with
      | none => cases h; trivial
      | some pending => cases h
  | requestRead session action request =>
      have hpc := awaitOrThrow_eq_suspended.mp h
      unfold AdminSignupRequests.reviewAfterRead at hpc
      split at hpc
      · cases hpc
      · split at hpc
        · cases hpc
        · cases action with
          | approve => cases hpc; exact hfits
          | reject rejectionReason => cases hpc; exact hfits
  | reviewUserRead session request existingUser =>
      have hpc := awaitOrThrow_eq_suspended.mp h
      unfold AdminSignupRequests.reviewAfterUser at hpc
      split at hpc
      · cases hpc
      · split at hpc
        · cases hpc
        · cases hpc
          exact hfits
  | written request => cases h

/-- The session that `openSession` gives out copies the row that is read. -/
theorem sessionFits_opened (db : Database) {user : UserRow} (token : String)
    (huser : db.findUser user.id = some user) :
    SessionFits { token, user := toUser user,
                  organization := toOrganization (db.organizationOf user) } db where
  organization := by
    show (toOrganization (db.organizationOf user)).id = user.organizationId.getD ""
    unfold Database.organizationOf
    cases horg : user.organizationId with
    | none => rfl
    | some organizationId =>
        -- The relation of the row leads to an organization with this key.
        have hmem := ((Table.find?_eq_some_iff _ _ _).mp huser).1
        have hne := db.related.1 user hmem organizationId (by rw [horg]; rfl)
        obtain ⟨organization, hfind⟩ := Option.ne_none_iff_exists'.mp hne
        show (toOrganization (db.organizations.find? organizationId)).id = organizationId
        rw [hfind]
        show organization.id = organizationId
        exact Table.key_of_find? hfind
  manager := by
    rintro hrole ⟨row, hrow, hadmin, -⟩
    have hsame : some row = some user := hrow.symm.trans huser
    cases hsame
    rw [show user.role = .organization from hrole] at hadmin
    cases hadmin

/-- The first segment of a call with a session that fits waits with this session, and has no record
to check yet. -/
theorem segment_fits {ctx : AuthContext} {call : AccountCall} {pc : AccountWaiting}
    {db : Database} (hsession : ∀ session ∈ call.session, SessionFits session db)
    (h : accountSegment ctx call = .suspended pc) : WaitingFits db pc := by
  -- Each service carries the session of its call; a review and an edit wait for a read before they
  -- have a record to check.
  cases call with
  | openSession userId token => cases h; trivial
  | requests session call =>
      obtain ⟨pc', hpc, rfl⟩ := liftOutcome_eq_suspended h
      refine ⟨hsession session rfl, ?_⟩
      have hstart := awaitOrThrow_eq_suspended.mp hpc
      cases call with
      | createRequest data =>
          simp only [OrganizationRequests.start, OrganizationRequests.createRequest] at hstart
          split at hstart
          · obtain ⟨parsed, -, hpc⟩ := bind_eq_ok.mp hstart
            cases hpc
            trivial
          · cases hstart
      | reviewRequest requestId data =>
          obtain ⟨_, -, hstart⟩ := bind_eq_ok.mp hstart
          split at hstart
          · obtain ⟨action, -, hpc⟩ := bind_eq_ok.mp hstart
            cases hpc
            trivial
          · cases hstart
  | invitations session call =>
      obtain ⟨pc', -, rfl⟩ := liftOutcome_eq_suspended h
      exact hsession session rfl
  | adminUsers session call =>
      obtain ⟨pc', hpc, rfl⟩ := liftOutcome_eq_suspended h
      refine ⟨hsession session rfl, ?_⟩
      have hstart := awaitOrThrow_eq_suspended.mp hpc
      cases call with
      | updateManagedUser userId data =>
          simp only [AdminUsers.start] at hstart
          split at hstart <;> cases hstart
          trivial
      | deleteManagedUser userId =>
          simp only [AdminUsers.start] at hstart
          split at hstart <;> cases hstart
          trivial
  | signups call =>
      obtain ⟨pc', hpc, rfl⟩ := liftOutcome_eq_suspended h
      exact signups_start_checked (awaitOrThrow_eq_suspended.mp hpc)

/-- The reply of a statement fits the database: only the replies of two reads carry a session, and
the edit has read its target. -/
theorem statement_fits {ctx : AuthContext} {pc : AccountWaiting} {input : AccountInput}
    {db db' : Database} {reply : AccountReply} (hfits : WaitingFits db' pc)
    (h : accountStatement ctx pc input db = .ok (db', reply)) : ReplyFits db' reply := by
  cases pc with
  | openSession userId token =>
      cases h
      cases huser : db.findUser userId with
      | none => trivial
      | some user =>
          have hkey := Table.key_of_find? huser
          exact sessionFits_opened db token (by rw [hkey]; exact huser)
  | requests session pc =>
      obtain ⟨⟨db₁, r⟩, -, h⟩ := map_eq_ok.mp h
      cases h
      exact hfits.1
  | invitations session pc =>
      obtain ⟨⟨db₁, r⟩, -, h⟩ := map_eq_ok.mp h
      cases h
      exact hfits
  | adminUsers session pc =>
      obtain ⟨⟨db₁, r⟩, hstatement, h⟩ := map_eq_ok.mp h
      cases h
      cases pc with
      | updateReadsTarget userId data => cases hstatement; exact hfits.1
      | updateReadsEmail userId target parsed => cases hstatement; exact hfits
      | updateWrites userId target parsed =>
          obtain ⟨_, -, hr⟩ := bind_eq_ok.mp hstatement
          cases hr
          exact hfits.1
      | deleteCommits userId =>
          obtain ⟨_, -, hr⟩ := bind_eq_ok.mp hstatement
          cases hr
          exact hfits.1
  | signups pc =>
      obtain ⟨⟨db₁, r⟩, hstatement, h⟩ := map_eq_ok.mp h
      cases h
      -- Only the replies of two reads carry a session. No other statement answers with them.
      cases r with
      | requestRead session action request =>
          cases pc <;> first
            | (cases hstatement; exact hfits)
            | (obtain ⟨_, -, hr⟩ := bind_eq_ok.mp hstatement; cases hr)
            | cases hstatement
      | reviewUserRead session request existingUser =>
          cases pc <;> first
            | (cases hstatement; exact hfits)
            | (obtain ⟨_, -, hr⟩ := bind_eq_ok.mp hstatement; cases hr)
            | cases hstatement
      | _ => trivial

/-- A call goes on after a statement that has thrown. -/
theorem failure_fits {pc pc' : AccountWaiting} {error : ServiceException} {db : Database}
    (h : accountFailure pc error = .suspended pc') : WaitingFits db pc' := by
  cases pc with
  | openSession userId token => cases h
  | requests session pc => cases h
  | invitations session pc => cases h
  | adminUsers session pc => cases h
  | signups pc =>
      obtain ⟨pc'', hpc, rfl⟩ := liftOutcome_eq_suspended h
      cases pc with
      | createReadsUser parsed => cases hpc; trivial
      | _ => cases hpc

/-- A call goes on after its reply: its memory and where it waits fit again. -/
theorem resume_fits {ctx : AuthContext} {reply : AccountReply} {input : AccountInput}
    {m m' : AccountMemory} {o : Outcome AccountWaiting AccountResult} {db : Database}
    (hm : ∀ session ∈ m.sessions, SessionFits session db) (hfits : ReplyFits db reply)
    (h : accountResume ctx (.answered reply) input m = some (m', o)) :
    (∀ session ∈ m'.sessions, SessionFits session db) ∧
      ∀ pc, o = .suspended pc → WaitingFits db pc := by
  -- Only `openSession` gives out a session, built from the row that it has read.
  cases reply with
  | sessionRead token user organization =>
      cases user with
      | none =>
          cases h
          exact ⟨hm, fun pc hpc => (by cases hpc)⟩
      | some user =>
          cases h
          refine ⟨fun session hsession => ?_, fun pc hpc => (by cases hpc)⟩
          rcases List.mem_append.mp hsession with hold | hnew
          · exact hm session hold
          · rw [List.mem_singleton.mp hnew]
            exact hfits
  | requests session reply =>
      cases h
      refine ⟨hm, fun pc hpc => ?_⟩
      obtain ⟨pc', hpc', rfl⟩ := liftOutcome_eq_suspended hpc
      exact ⟨hfits, requests_resume_checked hpc'⟩
  | invitations session reply =>
      cases h
      refine ⟨hm, fun pc hpc => ?_⟩
      obtain ⟨pc', -, rfl⟩ := liftOutcome_eq_suspended hpc
      exact hfits
  | adminUsers session reply =>
      cases h
      refine ⟨hm, fun pc hpc => ?_⟩
      obtain ⟨pc', hpc', rfl⟩ := liftOutcome_eq_suspended hpc
      exact adminUsers_resume_checked hfits hpc'
  | signups reply =>
      cases h
      refine ⟨hm, fun pc hpc => ?_⟩
      obtain ⟨pc', hpc', rfl⟩ := liftOutcome_eq_suspended hpc
      exact signups_resume_checked hfits hpc'

/-- The outline holds for the account services. What a statement can spoil for the other calls is
that an operator without an organization appears, and none does. -/
theorem tenantOutline_proved (ctx : AuthContext) :
    tenantOutline.Proved (accountProgram ctx) fun _ db _ db' => NoNewFreeOperator db db' where
  start call input m d m' o hinv h := by
    obtain ⟨hguard, heq⟩ := Option.ite_none_right_eq_some.mp h
    cases heq
    exact ⟨hinv, fun _ hfree => hfree, fun pc hpc =>
      segment_fits (fun session hsession => hinv session (hguard session hsession)) hpc⟩
  execute pc input m d d' ready hinv hwaits h := by
    rcases execute_cases h with ⟨reply, rfl, hstatement⟩ | ⟨error, rfl, rfl⟩
    -- What a statement can spoil for the other calls is that an operator without an organization
    -- appears, and none does.
    · have hfree := noNewFreeOperator (statement_effect hstatement)
      exact ⟨fun session hsession => (hinv session hsession).mono hfree, hfree,
        statement_fits (waitingFits_mono hwaits hfree) hstatement⟩
    · exact ⟨hinv, fun _ hfree => hfree, hwaits⟩
  resume ready input m d m' o hinv hholds h := by
    cases ready with
    | answered reply =>
        obtain ⟨hinv', hsuspended⟩ := resume_fits hinv hholds h
        exact ⟨hinv', fun _ hfree => hfree, hsuspended⟩
    | failed pc error =>
        cases h
        exact ⟨hinv, fun _ hfree => hfree, fun pc' hpc => failure_fits hpc⟩
  stable f m d m' d' hfree hf := by
    cases f with
    | waiting pc => exact waitingFits_mono hf hfree
    | ready ready =>
        cases ready with
        | answered reply => exact replyFits_mono hf hfree
        | failed pc error => exact waitingFits_mono hf hfree

/-! ### The result -/

/-- A user within the manager's reach is not out of reach. -/
theorem not_outOfReach {manager : AuthSession} {row : UserRow} {organizationId : Option String}
    (h : WithinReach row organizationId) (horg : organizationId = manager.user.organizationId) :
    ¬ OutOfReach manager row := by
  rintro (hadmin | ⟨own, hown, hne⟩)
  · exact h.1 hadmin
  · rcases h.2 with hnone | hsame
    · rw [hnone] at hown
      cases hown
    · exact hne (by rw [← horg, ← hsame, hown])

/-- The row that a manager's statement writes is within reach, when the user is still
eligible. -/
theorem written_within_reach {ctx : AuthContext} {w : AccountWorld} {id : Nat}
    {input : AccountInput} {pc : AccountWaiting} {manager : AuthSession} {write : RoleWrite}
    {row : UserRow} (hflight : w.flights.get? id = some (.waiting pc))
    (hfits : WaitingFits w.database pc) (heligible : StillEligible w (.execute id input))
    (hsession : waitingSession pc = some manager) (hrole : manager.user.role = .organization)
    (hwrite : roleWrite ctx input pc = some write)
    (hrow : w.database.findUser write.userId = some row)
    (hfree : IsAcceptance pc → row.organizationId = none) : ¬ OutOfReach manager row := by
  replace heligible : EligibleAt w.database (w.flights.get? id) := heligible
  rw [hflight] at heligible
  cases pc with
  | openSession userId token => cases hsession
  | requests session pc =>
      cases hsession
      cases pc with
      | reviewCommits request action =>
          cases action with
          | reject rejectionReason => cases hwrite
          | approve =>
              cases hwrite
              exact not_outOfReach (heligible hrole row hrow) (hfits.2 hrole).symm
      | _ => cases hwrite
  | invitations session pc =>
      cases hsession
      cases pc with
      | acceptCommits invitation =>
          cases hwrite
          -- The manager's own row has no organization, so it is no operator's.
          have hnone := hfree trivial
          rintro (hadmin | ⟨own, hown, -⟩)
          · exact (SessionFits.manager hfits hrole) ⟨row, hrow, hadmin, hnone⟩
          · rw [hnone] at hown
            cases hown
      | _ => cases hwrite
  | adminUsers session pc =>
      cases hsession
      cases pc with
      | updateWrites userId target parsed =>
          cases hwrite
          exact not_outOfReach (heligible hrole row hrow) (hfits.2 hrole)
      | _ => cases hwrite
  | signups pc =>
      cases pc with
      | reviewCommits session request existingUser =>
          -- An approval here is made by an operator.
          cases hsession
          rw [show manager.user.role = .admin from hfits] at hrole
          cases hrole
      | _ => cases hwrite

/-- One move under the condition respects the tenants: a manager's statement leaves the role and
the organization of every user who is out of the manager's reach. -/
theorem step_respects (ctx : AuthContext) (w : AccountWorld) (e : AccountEvent)
    (hw : tenantOutline.Valid w) (heligible : StillEligible w e) : RespectsTenants ctx w e := by
  rintro w' manager hstep ⟨id, input, pc, rfl, hflight, hsession⟩ hrole k row row' hrow hout hrow'
  rcases AsyncProgram.step_cases hstep with
    ⟨call, input', m, o, he, -, -⟩ | ⟨id', input', pc', d, ready, he, hflight', hexec, rfl⟩ |
    ⟨id', input', reply, m, o, he, -, -, -⟩
  · cases he
  · cases he
    rw [hflight] at hflight'
    cases hflight'
    replace hrow' : d.findUser k = some row' := hrow'
    -- A row that is as before settles the goal.
    have hkept : d.findUser k = w.database.findUser k →
        row'.role = row.role ∧ row'.organizationId = row.organizationId := by
      intro hsame
      rw [hsame, hrow] at hrow'
      cases hrow'
      exact ⟨rfl, rfl⟩
    rcases execute_cases hexec with ⟨reply, rfl, hstatement⟩ | ⟨error, rfl, rfl⟩
    · cases statement_effect hstatement with
      | kept hnone hfind => exact hkept (hfind k)
      | wrote write old hwrite hfree hwrote =>
          by_cases hk : k = write.userId
          · subst hk
            have hsame : some old = some row := hwrote.found.symm.trans hrow
            cases hsame
            exact absurd hout (written_within_reach hflight (hw.flights id _ hflight) heligible
              hsession hrole hwrite hrow hfree)
          · exact hkept (hwrote.others k hk)
      | created hnone new hnewRole hnew hfind =>
          refine hkept ?_
          rw [hfind]
          split
          · rename_i hk
            rw [← hk, hnew] at hrow
            cases hrow
          · rfl
      | deleted hnone userId actor hactor hactorRole hother hfind hgone =>
          by_cases hk : k = userId
          · rw [hk, hgone] at hrow'
            cases hrow'
          · exact hkept (hfind k hk)
    · exact hkept rfl
  · cases he

/-- The account services over a database, before any session was given out. -/
def accountInitial (db : Database) : AccountWorld := { memory := {}, database := db }

/-- In every run, as long as each approval and each edit with an `ORGANIZATION` session finds
its user still eligible, no action with an `ORGANIZATION` session changes the role or the
organization of an operator or of a user of another organization. -/
theorem tenant_protection (ctx : AuthContext) (db : Database) (es : List AccountEvent)
    (h : (accountProgram ctx).machine.Meets StillEligible (accountInitial db) es) :
    (accountProgram ctx).machine.Meets (RespectsTenants ctx) (accountInitial db) es :=
  Machine.meets_of_meets (I := tenantOutline.Valid)
    (fun w e w' hw hstep => Outline.step_valid (tenantOutline_proved ctx) w e w' hw hstep)
    (fun w e hw heligible => step_respects ctx w e hw heligible) es _
    (tenantOutline.valid_initial fun session hsession => by cases hsession) h

/-! ### An applicant who is moved before the approval -/

/-- A row of a user of the example. -/
def exampleUser (id email : String) (role : UserRole) (organizationId : Option String) :
    UserRow where
  id := id
  email := email
  passwordHash := "pbkdf2-sha256$310000$c2FsdA$aGFzaA"
  name := "Kim"
  role := role
  organizationId := organizationId
  passwordChangedAt := some 1784332800000
  createdAt := 1784332800000

/-- A row of an organization of the example. -/
def exampleOrganization (id joinCode : String) : OrganizationRow where
  id := id
  name := "Example"
  joinCode := joinCode
  createdAt := 1784332800000

/-- A user without an organization. -/
def applicantRow : UserRow := exampleUser "user_c0a1" "applicant@example.com" .candidate none
/-- The manager of the first organization. -/
def firstManagerRow : UserRow :=
  exampleUser "user_a1b2" "a@example.com" .organization (some "org_a")
/-- The manager of the second one. -/
def secondManagerRow : UserRow :=
  exampleUser "user_b3c4" "b@example.com" .organization (some "org_b")

/-- Two organizations with one manager each, and a user without an organization. -/
def twoTenants : Database where
  users := ⟨[applicantRow, firstManagerRow, secondManagerRow], by decide⟩
  organizations :=
    ⟨[exampleOrganization "org_a" "ORG-AAAA1111", exampleOrganization "org_b" "ORG-BBBB2222"],
      by decide⟩
  unique := by decide
  related := by decide

/-- The session that `openSession` gives out for a user of `twoTenants`. -/
def tenantSession (row : UserRow) : AuthSession where
  token := "session_" ++ row.id
  user := toUser row
  organization := toOrganization (twoTenants.organizationOf row)

/-- Everybody signs in, and the applicant asks for a place in the first organization. -/
def requestCreated : List AccountEvent :=
  [.invoke (.openSession applicantRow.id (tenantSession applicantRow).token) {},
    .execute 0 {}, .resume 0 {},
    .invoke (.openSession firstManagerRow.id (tenantSession firstManagerRow).token) {},
    .execute 1 {}, .resume 1 {},
    .invoke (.openSession secondManagerRow.id (tenantSession secondManagerRow).token) {},
    .execute 2 {}, .resume 2 {},
    .invoke (.requests (tenantSession applicantRow) (.createRequest
      { joinCode := "ORG-AAAA1111", requestedRole := .candidate, reason := "exam" })) {},
    .execute 3 {}, .resume 3 {}, .execute 3 {}, .resume 3 { uuid := "0c9a6a53-2f5e" },
    .execute 3 {}, .resume 3 {}]

/-- The second organization invites the applicant as a proctor, and the applicant accepts. -/
def applicantMoved : List AccountEvent :=
  [.invoke (.invitations (tenantSession secondManagerRow) (.createInvitation
      { email := "applicant@example.com", requestedRole := .proctor })) {},
    .execute 4 {}, .resume 4 {}, .execute 4 {}, .resume 4 {}, .execute 4 {},
    .resume 4 { uuid := "6f1b7c1e-8f43", secondUuid := "9d4c0f6c-1d2e" },
    .execute 4 {}, .resume 4 {},
    .invoke (.invitations (tenantSession applicantRow)
      (.acceptInvitation "org_invite_6f1b7c1e-8f4")) {},
    .execute 5 {}, .resume 5 {}, .execute 5 {}, .resume 5 {}]

/-- The first manager reviews the request, up to the transaction of call `id`. -/
def approvalReaches (id : Nat) : List AccountEvent :=
  [.invoke (.requests (tenantSession firstManagerRow) (.reviewRequest
      "org_request_0c9a6a53-2f5" { action := "APPROVE" })) {},
    .execute id {}, .resume id {}]

/-- Before the transaction the applicant is a proctor of the second organization, afterwards
a candidate of the first one. -/
theorem approvalAfterMove_run :
    ((accountProgram productionContext).machine.run (accountInitial twoTenants)
      (requestCreated ++ applicantMoved ++ approvalReaches 6)).any (fun w =>
        (match w.flights.get? 6 with
          | some (.waiting pc) =>
              decide (waitingSession pc = some (tenantSession firstManagerRow))
          | _ => false) &&
        decide ((w.database.findUser "user_c0a1").map UserRow.organizationId
          = some (some "org_b")) &&
        ((accountProgram productionContext).machine.step w (.execute 6 {})).any fun w' =>
          decide ((w'.database.findUser "user_c0a1").map UserRow.organizationId
            = some (some "org_a"))) = true := by
  decide +kernel

/-- A manager's approval takes a user out of another organization, which the user has joined since
the request was read. -/
theorem approval_moves_user_of_other_organization :
    ¬ (accountProgram productionContext).machine.Meets (RespectsTenants productionContext)
      (accountInitial twoTenants)
      (requestCreated ++ applicantMoved ++ approvalReaches 6 ++ [.execute 6 {}]) := by
  intro hmeets
  obtain ⟨w, hw, hcheck⟩ := (Option.any_eq_true _ _).mp approvalAfterMove_run
  simp only [Bool.and_eq_true, decide_eq_true_eq] at hcheck
  obtain ⟨⟨hflight, hbefore⟩, hafter⟩ := hcheck
  obtain ⟨w', hw', hafter⟩ := (Option.any_eq_true _ _).mp hafter
  rw [decide_eq_true_eq] at hafter
  obtain ⟨row, hrow, horg⟩ := Option.map_eq_some_iff.mp hbefore
  obtain ⟨row', hrow', horg'⟩ := Option.map_eq_some_iff.mp hafter
  have hacts : ActsAs w (.execute 6 {}) (tenantSession firstManagerRow) := by
    split at hflight
    · rename_i pc hpc
      exact ⟨6, {}, pc, rfl, hpc, of_decide_eq_true hflight⟩
    · cases hflight
  have hsame := (Machine.Meets.at hmeets hw) w' _ hw' hacts rfl "user_c0a1" row row' hrow
    (Or.inr ⟨"org_b", horg, by decide⟩) hrow'
  rw [horg, horg'] at hsame
  exact absurd hsame.2 (by decide)

/-- Without the move in between, the approval finds the applicant eligible. -/
theorem tenant_protection_approval :
    (accountProgram productionContext).machine.Meets (RespectsTenants productionContext)
      (accountInitial twoTenants)
      (requestCreated ++ approvalReaches 4 ++ [.execute 4 {}, .resume 4 {}]) :=
  tenant_protection productionContext twoTenants _ (by decide +kernel)

end Dcvp.Proofs
