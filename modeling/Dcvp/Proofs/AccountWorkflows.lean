import Dcvp.Services.AccountWorkflows

/-!
# `Dcvp.Proofs.AccountWorkflows`: what the account services do to the users

Four statements of the account services write the role and the organization of a user.
`roleWrite` names the user and the two new values of such a statement. `UserEffect` lists
what a statement can leave of the table of users: the old rows, one row with a new role and
a new organization, a new row, or one row less. `statement_effect` sorts every statement
into these cases, once. The results about roles and organizations split on them and do not
look at the statements again.
-/

set_option autoImplicit false

namespace Dcvp.Proofs

open Dcvp.Lib
open Dcvp.Services
open Dcvp.Shared (AuthSession UserRole)

/-! ### Role writes -/

/-- A user, and the role and the organization that the user's row is given. -/
structure RoleWrite where
  userId : String
  role : UserRole
  organizationId : String
  deriving DecidableEq

/-- The role and the organization that a statement writes. -/
def roleWrite (ctx : AuthContext) (input : AccountInput) : AccountWaiting → Option RoleWrite
  | .requests _ (.reviewCommits request .approve) =>
      some ⟨request.userId, request.requestedRole, request.organizationId⟩
  | .invitations session (.acceptCommits invitation) =>
      some ⟨session.user.id, invitation.requestedRole, invitation.organizationId⟩
  | .adminUsers _ (.updateWrites userId _ parsed) =>
      some ⟨userId, parsed.role, parsed.organizationId⟩
  | .signups (.reviewCommits _ request (some existing)) =>
      some ⟨existing.id, .organization,
        (AdminSignupRequests.newOrganization ctx input request).id⟩
  | _ => none

/-- The statement is the transaction of `acceptInvitation`. -/
def IsAcceptance : AccountWaiting → Prop
  | .invitations _ (.acceptCommits _) => True
  | _ => False

/-- The database differs in the row of one user, who has the role and the organization of
the write. -/
structure RoleWritten (write : RoleWrite) (row : UserRow) (db db' : Database) : Prop where
  found : db.findUser write.userId = some row
  others : ∀ k, k ≠ write.userId → db'.findUser k = db.findUser k
  written : ∃ row', db'.findUser write.userId = some row' ∧ row'.role = write.role ∧
    row'.organizationId = some write.organizationId

/-- What a statement does to the users. It writes no role, or exactly the one that `roleWrite`
reads off the place of the call, or it creates the head of a new organization. -/
inductive UserEffect (ctx : AuthContext) (input : AccountInput) (pc : AccountWaiting)
    (db db' : Database) : Prop
  | kept (hnone : roleWrite ctx input pc = none)
      (hfind : ∀ k, db'.findUser k = db.findUser k)
  | wrote (write : RoleWrite) (row : UserRow) (hwrite : roleWrite ctx input pc = some write)
      (hfree : IsAcceptance pc → row.organizationId = none) (h : RoleWritten write row db db')
  | created (hnone : roleWrite ctx input pc = none) (row : UserRow)
      (hrole : row.role = .organization) (hnew : db.findUser row.id = none)
      (hfind : ∀ k, db'.findUser k = if row.id = k then some row else db.findUser k)
      (horganization : row.organizationId.isSome)
  | deleted (hnone : roleWrite ctx input pc = none) (userId : String) (actor : UserRow)
      (hactor : db.findUser actor.id = some actor) (hrole : actor.role = .admin)
      (hother : actor.id ≠ userId)
      (hfind : ∀ k, k ≠ userId → db'.findUser k = db.findUser k)
      (hgone : db'.findUser userId = none)
      (hpc : ∃ session, pc = .adminUsers session (.deleteCommits userId))

/-! ### The effect of each statement -/

section
variable {db db' : Database} {input : AccountInput}

/-- A statement that leaves the table of users finds the same users. -/
theorem findUser_of_users (h : db'.users = db.users) (k : String) :
    db'.findUser k = db.findUser k := by
  show db'.users.find? k = db.users.find? k
  rw [h]

/-- A successful `user.update` of role and organization is a role write of exactly this user, with
the row as it was before. -/
theorem wrote_updateUser (write : RoleWrite) {data : UserRow → UserRow}
    {keeps : ∀ row, (data row).id = row.id} {row' : UserRow}
    (h : db.updateUser write.userId data keeps = .ok (db', row'))
    (hrole : ∀ u, (data u).role = write.role)
    (horg : ∀ u, (data u).organizationId = some write.organizationId) :
    ∃ row, RoleWritten write row db db' := by
  obtain ⟨row, hrow, hdata, -⟩ := Database.updateUser_eq_ok h
  have hfind := Database.find?_users_of_updateUser h
  refine ⟨row, hrow, fun k hk => ?_, row', ?_, ?_, ?_⟩
  · show db'.users.find? k = db.users.find? k
    rw [hfind k, if_neg hk]
  · show db'.users.find? write.userId = some row'
    rw [hfind, if_pos rfl]
  · rw [hdata, hrole]
  · rw [hdata, horg]

/-- Reading the relations of a row changes nothing, so only the statement before it counts. -/
theorem statement_requests {session : AuthSession} {pc : OrganizationRequests.Waiting}
    {reply : OrganizationRequests.Ready} (ctx : AuthContext)
    (h : OrganizationRequests.statement session pc input db = .ok (db', reply)) :
    UserEffect ctx input (.requests session pc) db db' := by
  cases pc with
  | createReadsOrganization parsed => cases h; exact .kept rfl fun _ => rfl
  | createReadsPending parsed organization => cases h; exact .kept rfl fun _ => rfl
  | createWrites parsed organization id =>
      obtain ⟨db₁, hcreate, h⟩ := bind_eq_ok.mp h
      obtain ⟨included, -, h⟩ := bind_eq_ok.mp h
      cases h
      obtain ⟨_, -, htables⟩ := Database.tables_of_createAccessRequest hcreate
      exact .kept rfl (findUser_of_users (by rw [htables]))
  | reviewReads requestId action =>
      have hsame : db' = db := by
        simp only [OrganizationRequests.statement] at h
        split at h
        · cases h; rfl
        · obtain ⟨included, -, h⟩ := bind_eq_ok.mp h
          cases h
          rfl
      rw [hsame]
      exact .kept rfl fun _ => rfl
  | reviewCommits request action =>
      obtain ⟨⟨db₁, included⟩, htransaction, h⟩ := bind_eq_ok.mp h
      cases h
      obtain ⟨db₂, hdecision, h⟩ := bind_eq_ok.mp htransaction
      obtain ⟨⟨db₃, row⟩, hrequest, h⟩ := bind_eq_ok.mp h
      obtain ⟨included', -, h⟩ := bind_eq_ok.mp h
      cases h
      -- The request is written after the decision, and no user with it.
      have hfind : ∀ k, db'.findUser k = db₂.findUser k :=
        findUser_of_users (by rw [Database.tables_of_updateAccessRequest hrequest])
      cases action with
      | reject rejectionReason =>
          cases hdecision
          exact .kept rfl hfind
      | approve =>
          obtain ⟨⟨db₄, row'⟩, hupdate, hdb⟩ := map_eq_ok.mp hdecision
          cases hdb
          obtain ⟨row, hwrote⟩ := wrote_updateUser
            ⟨request.userId, request.requestedRole, request.organizationId⟩ hupdate
            (fun _ => rfl) (fun _ => rfl)
          refine .wrote _ row rfl (fun hacc => hacc.elim) ⟨hwrote.found, fun k hk => ?_, ?_⟩
          · rw [hfind, hwrote.others k hk]
          · rw [hfind]
            exact hwrote.written

/-- The row of the user who joins, and the other rows as they are. -/
def joining (userId : String) (invitation : InvitationRow) (u : UserRow) : UserRow :=
  if u.id = userId then OrganizationInvitations.joinOrganization invitation u else u

/-- The first update of `acceptInvitation` counts one row, so the user's row is there and has no
organization. -/
theorem claimUser_spec {session : AuthSession} {invitation : InvitationRow}
    (h : OrganizationInvitations.claimUser session invitation db = .ok db') :
    (∃ user, db.findUser session.user.id = some user ∧ user.organizationId = none) ∧
      (∀ k, db'.findUser k = (db.findUser k).map (joining session.user.id invitation)) ∧
      db'.toTables = { db.toTables with users := db'.users } := by
  obtain ⟨⟨db₁, count⟩, hupdate, h⟩ := bind_eq_ok.mp h
  obtain ⟨htables, hcount⟩ := Database.tables_of_updateUsers hupdate
  simp only [] at h
  split at h
  · cases h
  · rename_i hone
    cases h
    have hpos : 0 < db.users.count fun u =>
        decide (u.id = session.user.id ∧ u.organizationId = none) := by omega
    obtain ⟨user, hmem, huser⟩ := List.countP_pos_iff.mp hpos
    obtain ⟨hid, hfree⟩ := of_decide_eq_true huser
    have hfound : db.findUser session.user.id = some user := by
      rw [← hid]
      exact Table.find?_of_mem hmem
    refine ⟨⟨user, hfound, hfree⟩, fun k => ?_, by rw [htables]⟩
    have hfind := Table.find?_updateMany db.users
      (fun u => decide (u.id = session.user.id ∧ u.organizationId = none))
      (OrganizationInvitations.joinOrganization invitation) (fun _ => rfl) k
    show db'.users.find? k = _
    rw [htables]
    refine hfind.trans (Option.map_congr fun u hu => ?_)
    by_cases hu' : u.id = session.user.id
    · -- The key tells the row.
      have hk : k = session.user.id := (Table.key_of_find? hu).symm.trans hu'
      have heq : u = user := by
        rw [hk] at hu
        exact Option.some.inj (hu.symm.trans hfound)
      simp [joining, heq, hid, hfree]
    · simp [joining, hu']

/-- The second update of `acceptInvitation` writes no other table. -/
theorem tables_of_claimInvitation {session : AuthSession} {invitation : InvitationRow} {now : Int}
    (h : OrganizationInvitations.claimInvitation session invitation now db = .ok db') :
    db'.toTables = { db.toTables with invitations := db'.invitations } := by
  obtain ⟨⟨db₁, count⟩, hupdate, h⟩ := bind_eq_ok.mp h
  simp only [] at h
  split at h
  · cases h
  · cases h
    rw [(Database.tables_of_updateInvitations hupdate).1]

/-- The first update gives the user the role and the organization of the invitation. -/
theorem wrote_claimUser {session : AuthSession} {invitation : InvitationRow}
    (h : OrganizationInvitations.claimUser session invitation db = .ok db') :
    ∃ row, row.organizationId = none ∧
      RoleWritten ⟨session.user.id, invitation.requestedRole, invitation.organizationId⟩ row
        db db' := by
  obtain ⟨⟨row, hfound, hfree⟩, hfind, -⟩ := claimUser_spec h
  have hid : row.id = session.user.id := Table.key_of_find? hfound
  refine ⟨row, hfree, hfound, fun k hk => ?_, joining session.user.id invitation row, ?_, ?_, ?_⟩
  · rw [hfind k]
    cases hr : db.findUser k with
    | none => rfl
    | some r =>
        have hrid : r.id ≠ session.user.id := by
          rw [Table.key_of_find? hr]
          exact hk
        simp [joining, hrid]
  · show db'.findUser session.user.id = _
    rw [hfind, hfound]
    rfl
  · simp [joining, hid, OrganizationInvitations.joinOrganization]
  · simp [joining, hid, OrganizationInvitations.joinOrganization]

/-- What a statement on invitations does to the users. Only an acceptance writes one. -/
theorem statement_invitations {session : AuthSession} {pc : OrganizationInvitations.Waiting}
    {reply : OrganizationInvitations.Ready} (ctx : AuthContext)
    (h : OrganizationInvitations.statement session pc input db = .ok (db', reply)) :
    UserEffect ctx input (.invitations session pc) db db' := by
  -- Only the last statement touches the users; a created invitation is a row of another table.
  cases pc with
  | createReadsManager data => cases h; exact .kept rfl fun _ => rfl
  | createReadsUser parsed organizationId => cases h; exact .kept rfl fun _ => rfl
  | createReadsPending parsed organizationId invitedUser => cases h; exact .kept rfl fun _ => rfl
  | createWrites parsed organizationId invitedUser id token =>
      obtain ⟨db₁, hcreate, h⟩ := bind_eq_ok.mp h
      obtain ⟨included, -, h⟩ := bind_eq_ok.mp h
      cases h
      obtain ⟨_, -, htables⟩ := Database.tables_of_createInvitation hcreate
      exact .kept rfl (findUser_of_users (by rw [htables]))
  | acceptReads invitationId =>
      have hsame : db' = db := by
        simp only [OrganizationInvitations.statement] at h
        split at h
        · cases h; rfl
        · obtain ⟨included, -, h⟩ := bind_eq_ok.mp h
          cases h
          rfl
      rw [hsame]
      exact .kept rfl fun _ => rfl
  | acceptCommits invitation =>
      obtain ⟨⟨db₁, accepted⟩, htransaction, h⟩ := bind_eq_ok.mp h
      cases h
      obtain ⟨db₂, huser, h⟩ := bind_eq_ok.mp htransaction
      obtain ⟨db₃, hinvitation, h⟩ := bind_eq_ok.mp h
      obtain ⟨accepted', -, h⟩ := bind_eq_ok.mp h
      cases h
      -- The claim finds the user without an organization, or the transaction ends.
      obtain ⟨row, hfree, hwrote⟩ := wrote_claimUser huser
      have hfind : ∀ k, db'.findUser k = db₂.findUser k :=
        findUser_of_users (by rw [tables_of_claimInvitation hinvitation])
      refine .wrote _ row rfl (fun _ => hfree) ⟨hwrote.found, fun k hk => ?_, ?_⟩
      · rw [hfind, hwrote.others k hk]
      · rw [hfind]
        exact hwrote.written

/-- The two tests in the transaction of `deleteManagedUser` leave an operator in place. -/
theorem actor_of_assertDeleter {actor : Option UserRow} {userId : String}
    (h : AdminUsers.assertDeleter actor userId = .ok ()) :
    ∃ row, actor = some row ∧ row.role = .admin ∧ row.id ≠ userId := by
  unfold AdminUsers.assertDeleter at h
  split at h
  · cases h
  · rename_i row hrow
    obtain ⟨hactor, hadmin⟩ := Option.filter_eq_some_iff.mp hrow
    split at h
    · cases h
    · rename_i hother
      exact ⟨row, hactor, of_decide_eq_true hadmin, hother⟩

/-- What an edit and a deletion do to the users: one writes a role, the other takes its user away
after it has checked the actor again. -/
theorem statement_adminUsers {session : AuthSession} {pc : AdminUsers.Waiting}
    {reply : AdminUsers.Ready} (ctx : AuthContext)
    (h : AdminUsers.statement session pc db = .ok (db', reply)) :
    UserEffect ctx input (.adminUsers session pc) db db' := by
  -- The edit writes one role; the deletion has checked its actor in the same transaction.
  cases pc with
  | updateReadsTarget userId data => cases h; exact .kept rfl fun _ => rfl
  | updateReadsEmail userId target parsed => cases h; exact .kept rfl fun _ => rfl
  | updateWrites userId target parsed =>
      obtain ⟨⟨db₁, row'⟩, hupdate, h⟩ := bind_eq_ok.mp h
      cases h
      obtain ⟨row, hwrote⟩ := wrote_updateUser
        ⟨userId, parsed.role, parsed.organizationId⟩ hupdate
        (fun _ => rfl) (fun _ => rfl)
      exact .wrote _ row rfl (fun hacc => hacc.elim) hwrote
  | deleteCommits userId =>
      obtain ⟨db₁, htransaction, h⟩ := bind_eq_ok.mp h
      cases h
      obtain ⟨_, hdeleter, h⟩ := bind_eq_ok.mp htransaction
      obtain ⟨_, -, h⟩ := bind_eq_ok.mp h
      obtain ⟨db₂, hinvitations, hdelete⟩ := bind_eq_ok.mp h
      obtain ⟨actor, hactor, hadmin, hother⟩ := actor_of_assertDeleter hdeleter
      -- Sent invitations of the user go first, which are no users.
      have husers : db'.users = db.users.deleteMany fun u => u.id = userId := by
        rw [Database.tables_of_deleteUser hdelete,
          Database.tables_of_deleteInvitations hinvitations]
      have hfind : ∀ k, db'.findUser k
          = (db.findUser k).filter fun u => !decide (u.id = userId) := by
        intro k
        show db'.users.find? k = _
        rw [husers, Table.find?_deleteMany]
        rfl
      refine .deleted rfl userId actor ?_ hadmin hother (fun k hk => ?_) ?_ ⟨session, rfl⟩
      · rw [← Table.key_of_find? hactor] at hactor
        exact hactor
      · rw [hfind]
        cases hr : db.findUser k with
        | none => rfl
        | some r => simp [Table.key_of_find? hr, hk]
      · rw [hfind]
        cases hr : db.findUser userId with
        | none => rfl
        | some r => simp [Table.key_of_find? hr]

/-- The approval of a sign-up request makes the stored user a manager, or creates one. -/
theorem approveTransaction_users {ctx : AuthContext} {session : AuthSession}
    {request : SignupRequestRow} {existingUser : Option UserRow} {updated : SignupRequestRow}
    (h : AdminSignupRequests.approveTransaction ctx session.user.id request existingUser input db
      = .ok (db', updated)) :
    UserEffect ctx input (.signups (.reviewCommits session request existingUser)) db db' := by
  obtain ⟨db₂, horganization, h⟩ := bind_eq_ok.mp h
  obtain ⟨⟨db₃, user⟩, hmanager, hrequest⟩ := bind_eq_ok.mp h
  obtain ⟨_, -, hcreated⟩ := Database.tables_of_createOrganization horganization
  have hbefore : ∀ k, db₂.findUser k = db.findUser k :=
    findUser_of_users (by rw [hcreated])
  have hafter : ∀ k, db'.findUser k = db₃.findUser k :=
    findUser_of_users (by rw [Database.tables_of_updateSignupRequest hrequest])
  cases existingUser with
  -- A registered user is promoted, a visitor gets a new account.
  | some existing =>
      obtain ⟨row, hwrote⟩ := wrote_updateUser
        ⟨existing.id, .organization,
          (AdminSignupRequests.newOrganization ctx input request).id⟩ hmanager
        (fun _ => rfl) (fun _ => rfl)
      refine .wrote _ row rfl (fun hacc => hacc.elim) ⟨?_, fun k hk => ?_, ?_⟩
      · rw [← hbefore]
        exact hwrote.found
      · rw [hafter, hwrote.others k hk, hbefore]
      · rw [hafter]
        exact hwrote.written
  | none =>
      obtain ⟨users, hinsert, husers, -⟩ := Database.tables_of_createUser hmanager
      set row := AdminSignupRequests.newManager input request
        (AdminSignupRequests.newOrganization ctx input request).id with hrow
      have hfind : ∀ k, db₃.findUser k = if row.id = k then some row else db₂.findUser k := by
        intro k
        show db₃.users.find? k = _
        rw [husers]
        exact Table.find?_insert? hinsert k
      refine .created rfl row rfl ?_ (fun k => ?_) rfl
      · rw [← hbefore]
        exact Table.find?_of_insert? hinsert
      · rw [hafter, hfind, hbefore]

/-- What a statement on signup requests does to the users. Only an approval writes one: it appoints
an existing user, or creates the manager. -/
theorem statement_signups {pc : AdminSignupRequests.Waiting}
    {reply : AdminSignupRequests.Ready} (ctx : AuthContext)
    (h : AdminSignupRequests.statement ctx pc input db = .ok (db', reply)) :
    UserEffect ctx input (.signups pc) db db' := by
  -- Only an approval writes users, and its transaction has a lemma of its own.
  cases pc with
  | createReadsUser parsed => cases h; exact .kept rfl fun _ => rfl
  | createReadsPending parsed existingUser => cases h; exact .kept rfl fun _ => rfl
  | createHashes parsed =>
      obtain ⟨hash, -, h⟩ := bind_eq_ok.mp h
      cases h
      exact .kept rfl fun _ => rfl
  | createWrites parsed passwordHash id =>
      obtain ⟨db₁, hcreate, h⟩ := bind_eq_ok.mp h
      cases h
      obtain ⟨_, -, htables⟩ := Database.tables_of_createSignupRequest hcreate
      exact .kept rfl (findUser_of_users (by rw [htables]))
  | registeredReadsPending session data => cases h; exact .kept rfl fun _ => rfl
  | registeredWrites session data id =>
      obtain ⟨db₁, hcreate, h⟩ := bind_eq_ok.mp h
      cases h
      obtain ⟨_, -, htables⟩ := Database.tables_of_createSignupRequest hcreate
      exact .kept rfl (findUser_of_users (by rw [htables]))
  | reviewReads session requestId action => cases h; exact .kept rfl fun _ => rfl
  | reviewRejects session request rejectionReason =>
      obtain ⟨⟨db₁, row⟩, hupdate, h⟩ := bind_eq_ok.mp h
      cases h
      exact .kept rfl (findUser_of_users
        (by rw [Database.tables_of_updateSignupRequest hupdate]))
  | reviewReadsUser session request => cases h; exact .kept rfl fun _ => rfl
  | reviewCommits session request existingUser =>
      obtain ⟨⟨db₁, row⟩, htransaction, h⟩ := bind_eq_ok.mp h
      cases h
      exact approveTransaction_users htransaction

/-! ### The tables that a service writes -/

/-- A statement on access requests writes users and access requests, and leaves the other tables as
they are. -/
theorem tables_of_requests {session : AuthSession} {pc : OrganizationRequests.Waiting}
    {reply : OrganizationRequests.Ready}
    (h : OrganizationRequests.statement session pc input db = .ok (db', reply)) :
    db'.toTables = { db.toTables with
      users := db'.users, accessRequests := db'.accessRequests } := by
  cases pc with
  | createReadsOrganization parsed => cases h; rfl
  | createReadsPending parsed organization => cases h; rfl
  | createWrites parsed organization id =>
      obtain ⟨db₁, hcreate, h⟩ := bind_eq_ok.mp h
      obtain ⟨included, -, h⟩ := bind_eq_ok.mp h
      cases h
      obtain ⟨_, -, htables⟩ := Database.tables_of_createAccessRequest hcreate
      rw [htables]
  | reviewReads requestId action =>
      simp only [OrganizationRequests.statement] at h
      split at h
      · cases h; rfl
      · obtain ⟨included, -, h⟩ := bind_eq_ok.mp h
        cases h
        rfl
  | reviewCommits request action =>
      obtain ⟨⟨db₁, included⟩, htransaction, h⟩ := bind_eq_ok.mp h
      cases h
      obtain ⟨db₂, hdecision, h⟩ := bind_eq_ok.mp htransaction
      obtain ⟨⟨db₃, row⟩, hrequest, h⟩ := bind_eq_ok.mp h
      obtain ⟨included', -, h⟩ := bind_eq_ok.mp h
      cases h
      have hlast := Database.tables_of_updateAccessRequest hrequest
      -- A rejection writes the request only, an approval the user before it.
      cases action with
      | reject rejectionReason =>
          cases hdecision
          rw [hlast]
      | approve =>
          obtain ⟨⟨db₄, row'⟩, hupdate, hdb⟩ := map_eq_ok.mp hdecision
          cases hdb
          rw [hlast, Database.tables_of_updateUser hupdate]

/-- A statement on invitations writes users and invitations, and leaves the other tables as they
are. -/
theorem tables_of_invitations {session : AuthSession} {pc : OrganizationInvitations.Waiting}
    {reply : OrganizationInvitations.Ready}
    (h : OrganizationInvitations.statement session pc input db = .ok (db', reply)) :
    db'.toTables = { db.toTables with users := db'.users, invitations := db'.invitations } := by
  -- The reads leave the database; the two writes are those of the named tables.
  cases pc with
  | createReadsManager data => cases h; rfl
  | createReadsUser parsed organizationId => cases h; rfl
  | createReadsPending parsed organizationId invitedUser => cases h; rfl
  | createWrites parsed organizationId invitedUser id token =>
      obtain ⟨db₁, hcreate, h⟩ := bind_eq_ok.mp h
      obtain ⟨included, -, h⟩ := bind_eq_ok.mp h
      cases h
      obtain ⟨_, -, htables⟩ := Database.tables_of_createInvitation hcreate
      rw [htables]
  | acceptReads invitationId =>
      simp only [OrganizationInvitations.statement] at h
      split at h
      · cases h; rfl
      · obtain ⟨included, -, h⟩ := bind_eq_ok.mp h
        cases h
        rfl
  | acceptCommits invitation =>
      obtain ⟨⟨db₁, accepted⟩, htransaction, h⟩ := bind_eq_ok.mp h
      cases h
      obtain ⟨db₂, huser, h⟩ := bind_eq_ok.mp htransaction
      obtain ⟨db₃, hinvitation, h⟩ := bind_eq_ok.mp h
      obtain ⟨accepted', -, h⟩ := bind_eq_ok.mp h
      cases h
      rw [tables_of_claimInvitation hinvitation, (claimUser_spec huser).2.2]

/-- An edit or a deletion writes users, and takes the items of a deleted user away. -/
theorem tables_of_adminUsers {session : AuthSession} {pc : AdminUsers.Waiting}
    {reply : AdminUsers.Ready} (h : AdminUsers.statement session pc db = .ok (db', reply)) :
    db'.toTables = { db.toTables with
      users := db'.users, accessRequests := db'.accessRequests,
      invitations := db'.invitations } := by
  cases pc with
  | updateReadsTarget userId data => cases h; rfl
  | updateReadsEmail userId target parsed => cases h; rfl
  | updateWrites userId target parsed =>
      obtain ⟨⟨db₁, row'⟩, hupdate, h⟩ := bind_eq_ok.mp h
      cases h
      rw [Database.tables_of_updateUser hupdate]
  | deleteCommits userId =>
      obtain ⟨db₁, htransaction, h⟩ := bind_eq_ok.mp h
      cases h
      obtain ⟨_, -, h⟩ := bind_eq_ok.mp htransaction
      obtain ⟨_, -, h⟩ := bind_eq_ok.mp h
      obtain ⟨db₂, hinvitations, hdelete⟩ := bind_eq_ok.mp h
      rw [Database.tables_of_deleteUser hdelete, Database.tables_of_deleteInvitations hinvitations]

/-- A statement on signup requests writes users, organizations and signup requests, and leaves the
other tables as they are. -/
theorem tables_of_signups {pc : AdminSignupRequests.Waiting} {ctx : AuthContext}
    {reply : AdminSignupRequests.Ready}
    (h : AdminSignupRequests.statement ctx pc input db = .ok (db', reply)) :
    db'.toTables = { db.toTables with
      users := db'.users, organizations := db'.organizations,
      signupRequests := db'.signupRequests } := by
  cases pc with
  | createReadsUser parsed => cases h; rfl
  | createReadsPending parsed existingUser => cases h; rfl
  | createHashes parsed =>
      obtain ⟨hash, -, h⟩ := bind_eq_ok.mp h
      cases h
      rfl
  | createWrites parsed passwordHash id =>
      obtain ⟨db₁, hcreate, h⟩ := bind_eq_ok.mp h
      cases h
      obtain ⟨_, -, htables⟩ := Database.tables_of_createSignupRequest hcreate
      rw [htables]
  | registeredReadsPending session data => cases h; rfl
  | registeredWrites session data id =>
      obtain ⟨db₁, hcreate, h⟩ := bind_eq_ok.mp h
      cases h
      obtain ⟨_, -, htables⟩ := Database.tables_of_createSignupRequest hcreate
      rw [htables]
  | reviewReads session requestId action => cases h; rfl
  | reviewRejects session request rejectionReason =>
      obtain ⟨⟨db₁, row⟩, hupdate, h⟩ := bind_eq_ok.mp h
      cases h
      rw [Database.tables_of_updateSignupRequest hupdate]
  | reviewReadsUser session request => cases h; rfl
  | reviewCommits session request existingUser =>
      obtain ⟨⟨db₁, row⟩, htransaction, h⟩ := bind_eq_ok.mp h
      cases h
      obtain ⟨db₂, horganization, h⟩ := bind_eq_ok.mp htransaction
      obtain ⟨⟨db₃, user⟩, hmanager, hrequest⟩ := bind_eq_ok.mp h
      obtain ⟨_, -, hcreated⟩ := Database.tables_of_createOrganization horganization
      have hlast := Database.tables_of_updateSignupRequest hrequest
      -- The head of the new organization is an account that exists, or one that is created with it.
      cases existingUser with
      | some existing => rw [hlast, Database.tables_of_updateUser hmanager, hcreated]
      | none =>
          obtain ⟨_, -, husers, -⟩ := Database.tables_of_createUser hmanager
          rw [hlast, husers, hcreated]

end

/-- What a statement of the account services does to the users, for each of the four services. -/
theorem statement_effect {ctx : AuthContext} {pc : AccountWaiting} {input : AccountInput}
    {db db' : Database} {reply : AccountReply}
    (h : accountStatement ctx pc input db = .ok (db', reply)) :
    UserEffect ctx input pc db db' := by
  cases pc with
  | openSession userId token => cases h; exact .kept rfl fun _ => rfl
  | requests session pc =>
      obtain ⟨⟨db₁, r⟩, hstatement, h⟩ := map_eq_ok.mp h
      cases h
      exact statement_requests ctx hstatement
  | invitations session pc =>
      obtain ⟨⟨db₁, r⟩, hstatement, h⟩ := map_eq_ok.mp h
      cases h
      exact statement_invitations ctx hstatement
  | adminUsers session pc =>
      obtain ⟨⟨db₁, r⟩, hstatement, h⟩ := map_eq_ok.mp h
      cases h
      exact statement_adminUsers ctx hstatement
  | signups pc =>
      obtain ⟨⟨db₁, r⟩, hstatement, h⟩ := map_eq_ok.mp h
      cases h
      exact statement_signups ctx hstatement

/-- An executed statement commits with a reply, or leaves the database as it is. -/
theorem execute_cases {ctx : AuthContext} {pc : AccountWaiting} {input : AccountInput}
    {db db' : Database} {ready : AccountReady}
    (h : accountExecute ctx pc input db = some (db', ready)) :
    (∃ reply, ready = .answered reply ∧ accountStatement ctx pc input db = .ok (db', reply)) ∨
    (∃ error, ready = .failed pc error ∧ db' = db) := by
  unfold accountExecute at h
  split at h
  · cases h
    exact Or.inr ⟨_, rfl, rfl⟩
  · split at h
    · rename_i reply hstatement
      cases h
      exact Or.inl ⟨reply, rfl, hstatement⟩
    · cases h
      exact Or.inr ⟨_, rfl, rfl⟩

/-- A segment that ends with an `await` or an exception does not finish with a success. -/
theorem finished_liftOutcome_awaitOrThrow {π ω : Type} {waiting : π → AccountWaiting}
    {value : ω → AccountValue} {x : Except ServiceException π} {result : AccountResult}
    (h : liftOutcome waiting value (awaitOrThrow x) = .finished result) :
    ∃ error, result = .error error := by
  cases x with
  | ok pc => cases h
  | error e => cases h; exact ⟨e, rfl⟩

end Dcvp.Proofs
