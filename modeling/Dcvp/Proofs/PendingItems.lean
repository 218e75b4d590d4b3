import Dcvp.Lib.OncePer
import Dcvp.Proofs.TenantProtection

/-!
# `Dcvp.Proofs.PendingItems`: one pending item for each applicant

An access request of a user, an invitation of a user into an organization and a signup request
for an e-mail are each made in two statements: a read that looks for a pending item, and a
creation. Nothing holds between the two, and the schema has no index for it.

`PlaceFree` says of a creation that it finds no pending item of its kind, in the words of the
read that the call has made before. `statement_pending_iff` is the step: every other statement
keeps `PendingOnce`, because it leaves no item pending that was not (`PendingFrom`). A creation
keeps it exactly when its place is free. `one_pending_item_iff` carries this to runs.
-/

set_option autoImplicit false

namespace Dcvp.Proofs

open Dcvp.Lib
open Dcvp.Services
open Dcvp.Shared (AuthSession UserRole)

/-! ### The property and the condition -/

/-- At most one pending access request for each user, at most one pending invitation for each
organization and invited user, and at most one pending signup request for each e-mail. -/
structure PendingOnce (db : Database) : Prop where
  accessRequests :
    OncePer (fun r => decide (r.status = .pending)) AccessRequestRow.userId db.accessRequests.rows
  invitations :
    OncePer (fun i => decide (i.status = .pending))
      (fun i => (i.organizationId, i.invitedUserId)) db.invitations.rows
  signupRequests :
    OncePer (fun r => decide (r.status = .pending)) SignupRequestRow.email db.signupRequests.rows

/-- The three tables of items decide, each by its own key: the user, the organization with the
invited user, and the e-mail address. -/
theorem pendingOnce_iff (db : Database) : PendingOnce db ↔
    OncePer (fun r => decide (r.status = .pending)) AccessRequestRow.userId
        db.accessRequests.rows ∧
      OncePer (fun i => decide (i.status = .pending))
        (fun i => (i.organizationId, i.invitedUserId)) db.invitations.rows ∧
      OncePer (fun r => decide (r.status = .pending)) SignupRequestRow.email
        db.signupRequests.rows :=
  ⟨fun h => ⟨h.accessRequests, h.invitations, h.signupRequests⟩, fun h => ⟨h.1, h.2.1, h.2.2⟩⟩

instance (db : Database) : Decidable (PendingOnce db) := decidable_of_iff' _ (pendingOnce_iff db)

/-- A creation finds no pending item where its own is to be. Other statements create none. -/
def PlaceFree (db : Database) : AccountWaiting → Prop
  | .requests session (.createWrites ..) => db.findPendingAccessRequest session.user.id = none
  | .invitations _ (.createWrites _ organizationId invitedUser _ _) =>
      db.findPendingInvitation organizationId invitedUser.id = none
  | .signups (.createWrites parsed _ _) => db.findPendingSignupRequest parsed.email = none
  | .signups (.registeredWrites session _ _) =>
      db.findPendingSignupRequest session.user.email = none
  | _ => True

/-! ### Statements that leave nothing new pending -/

/-- What is pending afterwards was pending before, in each of the three tables of requests. A
statement that creates nothing has this effect. -/
structure PendingFrom (db db' : Database) : Prop where
  accessRequests : OpenFrom (fun r => decide (r.status = .pending)) db.accessRequests.rows
    db'.accessRequests.rows
  invitations : OpenFrom (fun i => decide (i.status = .pending)) db.invitations.rows
    db'.invitations.rows
  signupRequests : OpenFrom (fun r => decide (r.status = .pending)) db.signupRequests.rows
    db'.signupRequests.rows

/-- A read leaves everything as it is. -/
theorem PendingFrom.refl (db : Database) : PendingFrom db db := ⟨.refl _ _, .refl _ _, .refl _ _⟩

/-- The writes of a transaction, one after the other. -/
theorem PendingFrom.trans {db db₁ db' : Database} (h : PendingFrom db db₁)
    (h' : PendingFrom db₁ db') : PendingFrom db db' :=
  ⟨h.accessRequests.trans h'.accessRequests, h.invitations.trans h'.invitations,
    h.signupRequests.trans h'.signupRequests⟩

/-- Such a statement keeps one pending item for each applicant. -/
theorem PendingFrom.pendingOnce {db db' : Database} (h : PendingFrom db db')
    (honce : PendingOnce db) : PendingOnce db' :=
  ⟨honce.accessRequests.of_open h.accessRequests, honce.invitations.of_open h.invitations,
    honce.signupRequests.of_open h.signupRequests⟩

section
variable {ctx : AuthContext} {input : AccountInput} {db db' : Database}

/-- A statement leaves nothing new pending when its tables do not. Each of the three tables is
either as it was (`OpenFrom.refl`) or written in a way that opens no row. -/
theorem pendingFrom_of_tables {t : Tables} (h : db'.toTables = t)
    (haccessRequests : OpenFrom (fun r => decide (r.status = .pending)) db.accessRequests.rows
      t.accessRequests.rows)
    (hinvitations : OpenFrom (fun i => decide (i.status = .pending)) db.invitations.rows
      t.invitations.rows)
    (hsignupRequests : OpenFrom (fun r => decide (r.status = .pending)) db.signupRequests.rows
      t.signupRequests.rows) : PendingFrom db db' := by
  constructor
  · rw [h]
    exact haccessRequests
  · rw [h]
    exact hinvitations
  · rw [h]
    exact hsignupRequests

/-- A write of a user concerns no item. -/
theorem pendingFrom_updateUser {id : String} {data : UserRow → UserRow}
    {keeps : ∀ row, (data row).id = row.id} {row : UserRow}
    (h : db.updateUser id data keeps = .ok (db', row)) : PendingFrom db db' :=
  pendingFrom_of_tables (Database.tables_of_updateUser h) (.refl _ _) (.refl _ _) (.refl _ _)

/-- A review closes the access request. -/
theorem pendingFrom_updateAccessRequest {id : String}
    {data : AccessRequestRow → AccessRequestRow} {keeps : ∀ row, (data row).id = row.id}
    {row : AccessRequestRow} (hclosed : ∀ r, (data r).status ≠ .pending)
    (h : db.updateAccessRequest id data keeps = .ok (db', row)) : PendingFrom db db' :=
  pendingFrom_of_tables (Database.tables_of_updateAccessRequest h)
    (.updateMany keeps fun r => decide_eq_false (hclosed r)) (.refl _ _) (.refl _ _)

/-- A review closes the signup request. -/
theorem pendingFrom_updateSignupRequest {id : String}
    {data : SignupRequestRow → SignupRequestRow} {keeps : ∀ row, (data row).id = row.id}
    {row : SignupRequestRow} (hclosed : ∀ r, (data r).status ≠ .pending)
    (h : db.updateSignupRequest id data keeps = .ok (db', row)) : PendingFrom db db' :=
  pendingFrom_of_tables (Database.tables_of_updateSignupRequest h) (.refl _ _) (.refl _ _)
    (.updateMany keeps fun r => decide_eq_false (hclosed r))

/-- An acceptance closes the invitation. -/
theorem pendingFrom_updateInvitations {p : InvitationRow → Bool}
    {data : InvitationRow → InvitationRow} {keeps : ∀ row, (data row).id = row.id} {n : Nat}
    (hclosed : ∀ i, (data i).status ≠ .pending)
    (h : db.updateInvitations p data keeps = .ok (db', n)) : PendingFrom db db' :=
  pendingFrom_of_tables (Database.tables_of_updateInvitations h).1 (.refl _ _)
    (.updateMany keeps fun i => decide_eq_false (hclosed i)) (.refl _ _)

/-- The deletion of a user takes items away and makes none pending. -/
theorem pendingFrom_deleteTransaction {session : AuthSession} {userId : String}
    (h : AdminUsers.deleteTransaction session userId db = .ok db') : PendingFrom db db' := by
  obtain ⟨_, -, h⟩ := bind_eq_ok.mp h
  obtain ⟨_, -, h⟩ := bind_eq_ok.mp h
  obtain ⟨db₂, hinvitations, hdelete⟩ := bind_eq_ok.mp h
  have htables := Database.tables_of_deleteUser hdelete
  rw [Database.commit_eq_ok hinvitations] at htables
  exact pendingFrom_of_tables htables (.deleteMany _ _) (.deleteMany _ _) (.refl _ _)

/-! ### The creations -/

/-- An access request keeps one pending item for each applicant exactly when the lookup by the user
finds none. -/
theorem pending_createAccessRequest_iff {row : AccessRequestRow} (honce : PendingOnce db)
    (hopen : row.status = .pending) (h : db.createAccessRequest row = .ok db') :
    PendingOnce db' ↔ db.findPendingAccessRequest row.userId = none := by
  obtain ⟨accessRequests, hinsert, htables⟩ := Database.tables_of_createAccessRequest h
  have hfree := oncePer_insert?_findFirst_iff (p := fun r =>
    decide (r.userId = row.userId ∧ r.status = .pending)) honce.accessRequests
    (decide_eq_true hopen) (fun r => by simp [and_comm]) hinsert
  rw [pendingOnce_iff, htables]
  exact ⟨fun h' => hfree.mp h'.1, fun h' => ⟨hfree.mpr h', honce.invitations, honce.signupRequests⟩⟩

/-- The same of an invitation, and the lookup by the organization and the invited user. -/
theorem pending_createInvitation_iff {row : InvitationRow} (honce : PendingOnce db)
    (hopen : row.status = .pending) (h : db.createInvitation row = .ok db') :
    PendingOnce db' ↔ db.findPendingInvitation row.organizationId row.invitedUserId = none := by
  obtain ⟨invitations, hinsert, htables⟩ := Database.tables_of_createInvitation h
  have hfree := oncePer_insert?_findFirst_iff (p := fun i =>
    decide (i.organizationId = row.organizationId ∧ i.invitedUserId = row.invitedUserId ∧
      i.status = .pending)) honce.invitations
    (decide_eq_true hopen) (fun i => by simp [and_comm, and_assoc]) hinsert
  rw [pendingOnce_iff, htables]
  exact ⟨fun h' => hfree.mp h'.2.1,
    fun h' => ⟨honce.accessRequests, hfree.mpr h', honce.signupRequests⟩⟩

/-- The same of a signup request, and the lookup by the e-mail. -/
theorem pending_createSignupRequest_iff {row : SignupRequestRow} (honce : PendingOnce db)
    (hopen : row.status = .pending) (h : db.createSignupRequest row = .ok db') :
    PendingOnce db' ↔ db.findPendingSignupRequest row.email = none := by
  obtain ⟨signupRequests, hinsert, htables⟩ := Database.tables_of_createSignupRequest h
  have hfree := oncePer_insert?_findFirst_iff (p := fun r =>
    decide (r.email = row.email ∧ r.status = .pending)) honce.signupRequests
    (decide_eq_true hopen) (fun r => by simp [and_comm]) hinsert
  rw [pendingOnce_iff, htables]
  exact ⟨fun h' => hfree.mp h'.2.2,
    fun h' => ⟨honce.accessRequests, honce.invitations, hfree.mpr h'⟩⟩

/-! ### One statement -/

/-- The decision on a request writes the applicant, or nothing. The request itself is closed by the
statement behind it. -/
theorem pendingFrom_applyDecision {request : AccessRequestRow} {action : ReviewAction}
    (h : OrganizationRequests.applyDecision db request action = .ok db') :
    PendingFrom db db' := by
  cases action with
  | reject rejectionReason =>
      cases h
      exact .refl db
  | approve =>
      obtain ⟨⟨db₁, row⟩, hupdate, hdb⟩ := map_eq_ok.mp h
      cases hdb
      exact pendingFrom_updateUser hupdate

/-- A statement on access requests keeps the pending ones single exactly when its place is free. A
read leaves the tables, an insertion is the case of the general lemma, and a review closes its
request. -/
theorem pending_requests_iff {session : AuthSession} {pc : OrganizationRequests.Waiting}
    {reply : OrganizationRequests.Ready} (honce : PendingOnce db)
    (h : OrganizationRequests.statement session pc input db = .ok (db', reply)) :
    PendingOnce db' ↔ PlaceFree db (.requests session pc) := by
  -- A read leaves the tables, an insertion is the case of the general lemma, and a review closes
  -- its request.
  cases pc with
  | createReadsOrganization parsed =>
      cases h
      exact ⟨fun _ => trivial, fun _ => honce⟩
  | createReadsPending parsed organization =>
      cases h
      exact ⟨fun _ => trivial, fun _ => honce⟩
  | createWrites parsed organization id =>
      obtain ⟨db₁, hcreate, h⟩ := bind_eq_ok.mp h
      obtain ⟨included, -, h⟩ := bind_eq_ok.mp h
      cases h
      exact pending_createAccessRequest_iff honce rfl hcreate
  | reviewReads requestId action =>
      simp only [OrganizationRequests.statement] at h
      split at h
      · cases h
        exact ⟨fun _ => trivial, fun _ => honce⟩
      · obtain ⟨included, -, h⟩ := bind_eq_ok.mp h
        cases h
        exact ⟨fun _ => trivial, fun _ => honce⟩
  | reviewCommits request action =>
      obtain ⟨⟨db₁, included⟩, htransaction, h⟩ := bind_eq_ok.mp h
      cases h
      obtain ⟨db₂, hdecision, h⟩ := bind_eq_ok.mp htransaction
      obtain ⟨⟨db₃, row⟩, hrequest, h⟩ := bind_eq_ok.mp h
      obtain ⟨included', -, h⟩ := bind_eq_ok.mp h
      cases h
      have hclosed : action.status ≠ .pending := by cases action <;> exact ReviewStatus.noConfusion
      have hfrom := (pendingFrom_applyDecision hdecision).trans
        (pendingFrom_updateAccessRequest (fun _ => hclosed) hrequest)
      exact ⟨fun _ => trivial, fun _ => hfrom.pendingOnce honce⟩

/-- A statement on invitations keeps the pending ones single exactly when its place is free. An
acceptance makes no invitation pending. -/
theorem pending_invitations_iff {session : AuthSession} {pc : OrganizationInvitations.Waiting}
    {reply : OrganizationInvitations.Ready} (honce : PendingOnce db)
    (h : OrganizationInvitations.statement session pc input db = .ok (db', reply)) :
    PendingOnce db' ↔ PlaceFree db (.invitations session pc) := by
  cases pc with
  | createReadsManager data =>
      cases h
      exact ⟨fun _ => trivial, fun _ => honce⟩
  | createReadsUser parsed organizationId =>
      cases h
      exact ⟨fun _ => trivial, fun _ => honce⟩
  | createReadsPending parsed organizationId invitedUser =>
      cases h
      exact ⟨fun _ => trivial, fun _ => honce⟩
  | createWrites parsed organizationId invitedUser id token =>
      obtain ⟨db₁, hcreate, h⟩ := bind_eq_ok.mp h
      obtain ⟨included, -, h⟩ := bind_eq_ok.mp h
      cases h
      exact pending_createInvitation_iff honce rfl hcreate
  | acceptReads invitationId =>
      simp only [OrganizationInvitations.statement] at h
      split at h
      · cases h
        exact ⟨fun _ => trivial, fun _ => honce⟩
      · obtain ⟨included, -, h⟩ := bind_eq_ok.mp h
        cases h
        exact ⟨fun _ => trivial, fun _ => honce⟩
  | acceptCommits invitation =>
      obtain ⟨⟨db₁, accepted⟩, htransaction, h⟩ := bind_eq_ok.mp h
      cases h
      obtain ⟨db₂, huser, h⟩ := bind_eq_ok.mp htransaction
      obtain ⟨db₃, hinvitation, h⟩ := bind_eq_ok.mp h
      obtain ⟨accepted', -, h⟩ := bind_eq_ok.mp h
      cases h
      -- Both updates count their rows, and neither makes an invitation pending.
      have hclaimed : PendingFrom db db₂ := by
        obtain ⟨⟨db₄, count⟩, hupdate, hcount⟩ := bind_eq_ok.mp huser
        replace hcount : (if count ≠ 1 then _ else Except.ok db₄) = Except.ok db₂ := hcount
        split at hcount
        · cases hcount
        · cases hcount
          exact pendingFrom_of_tables (Database.tables_of_updateUsers hupdate).1 (.refl _ _)
            (.refl _ _) (.refl _ _)
      have haccepted : PendingFrom db₂ db' := by
        obtain ⟨⟨db₄, count⟩, hupdate, hcount⟩ := bind_eq_ok.mp hinvitation
        replace hcount : (if count ≠ 1 then _ else Except.ok db₄) = Except.ok db' := hcount
        split at hcount
        · cases hcount
        · cases hcount
          exact pendingFrom_updateInvitations (fun _ => InvitationStatus.noConfusion) hupdate
      exact ⟨fun _ => trivial, fun _ => (hclaimed.trans haccepted).pendingOnce honce⟩

/-- A statement on users keeps the pending items single: an edit touches none, and a deletion only
takes some away. -/
theorem pending_adminUsers_iff {session : AuthSession} {pc : AdminUsers.Waiting}
    {reply : AdminUsers.Ready} (honce : PendingOnce db)
    (h : AdminUsers.statement session pc db = .ok (db', reply)) :
    PendingOnce db' ↔ PlaceFree db (.adminUsers session pc) := by
  refine ⟨fun _ => trivial, fun _ => ?_⟩
  cases pc with
  | updateReadsTarget userId data =>
      cases h
      exact honce
  | updateReadsEmail userId target parsed =>
      cases h
      exact honce
  | updateWrites userId target parsed =>
      obtain ⟨⟨db₁, row⟩, hupdate, h⟩ := bind_eq_ok.mp h
      cases h
      exact (pendingFrom_updateUser hupdate).pendingOnce honce
  | deleteCommits userId =>
      obtain ⟨db₁, htransaction, h⟩ := bind_eq_ok.mp h
      cases h
      exact (pendingFrom_deleteTransaction htransaction).pendingOnce honce

/-- A statement on signup requests keeps the pending ones single exactly when its place is free. An
approval writes three tables, and closes its request last. -/
theorem pending_signups_iff {pc : AdminSignupRequests.Waiting}
    {reply : AdminSignupRequests.Ready} (honce : PendingOnce db)
    (h : AdminSignupRequests.statement ctx pc input db = .ok (db', reply)) :
    PendingOnce db' ↔ PlaceFree db (.signups pc) := by
  cases pc with
  | createReadsUser parsed =>
      cases h
      exact ⟨fun _ => trivial, fun _ => honce⟩
  | createReadsPending parsed existingUser =>
      cases h
      exact ⟨fun _ => trivial, fun _ => honce⟩
  | createHashes parsed =>
      obtain ⟨hash, -, h⟩ := bind_eq_ok.mp h
      cases h
      exact ⟨fun _ => trivial, fun _ => honce⟩
  | createWrites parsed passwordHash id =>
      obtain ⟨db₁, hcreate, h⟩ := bind_eq_ok.mp h
      cases h
      exact pending_createSignupRequest_iff honce rfl hcreate
  | registeredReadsPending session data =>
      cases h
      exact ⟨fun _ => trivial, fun _ => honce⟩
  | registeredWrites session data id =>
      obtain ⟨db₁, hcreate, h⟩ := bind_eq_ok.mp h
      cases h
      exact pending_createSignupRequest_iff honce rfl hcreate
  | reviewReads session requestId action =>
      cases h
      exact ⟨fun _ => trivial, fun _ => honce⟩
  | reviewRejects session request rejectionReason =>
      obtain ⟨⟨db₁, row⟩, hupdate, h⟩ := bind_eq_ok.mp h
      cases h
      have hfrom := pendingFrom_updateSignupRequest (fun _ => ReviewStatus.noConfusion) hupdate
      exact ⟨fun _ => trivial, fun _ => hfrom.pendingOnce honce⟩
  | reviewReadsUser session request =>
      cases h
      exact ⟨fun _ => trivial, fun _ => honce⟩
  | reviewCommits session request existingUser =>
      obtain ⟨⟨db₁, row⟩, htransaction, h⟩ := bind_eq_ok.mp h
      cases h
      -- Three tables are written, and only the last write is on a request, which is pending no
      -- more.
      obtain ⟨db₂, horganization, h⟩ := bind_eq_ok.mp htransaction
      obtain ⟨⟨db₃, user⟩, hmanager, hupdate⟩ := bind_eq_ok.mp h
      obtain ⟨organizations, -, htables⟩ := Database.tables_of_createOrganization horganization
      have hcreated : PendingFrom db db₂ := pendingFrom_of_tables htables (.refl _ _)
        (.refl _ _) (.refl _ _)
      have happointed : PendingFrom db₂ db₃ := by
        cases existingUser with
        | some existing => exact pendingFrom_updateUser hmanager
        | none =>
            obtain ⟨users, -, husers, -⟩ := Database.tables_of_createUser hmanager
            exact pendingFrom_of_tables husers (.refl _ _) (.refl _ _) (.refl _ _)
      have hfrom := (hcreated.trans happointed).trans
        (pendingFrom_updateSignupRequest (fun _ => ReviewStatus.noConfusion) hupdate)
      exact ⟨fun _ => trivial, fun _ => hfrom.pendingOnce honce⟩

/-- A statement leaves at most one pending item for each applicant exactly when its place was
free. -/
theorem statement_pending_iff {pc : AccountWaiting} {reply : AccountReply}
    (honce : PendingOnce db) (h : accountStatement ctx pc input db = .ok (db', reply)) :
    PendingOnce db' ↔ PlaceFree db pc := by
  cases pc with
  | openSession userId token =>
      cases h
      exact ⟨fun _ => trivial, fun _ => honce⟩
  | requests session pc =>
      obtain ⟨⟨db₁, r⟩, hstatement, h⟩ := map_eq_ok.mp h
      cases h
      exact pending_requests_iff honce hstatement
  | invitations session pc =>
      obtain ⟨⟨db₁, r⟩, hstatement, h⟩ := map_eq_ok.mp h
      cases h
      exact pending_invitations_iff honce hstatement
  | adminUsers session pc =>
      obtain ⟨⟨db₁, r⟩, hstatement, h⟩ := map_eq_ok.mp h
      cases h
      exact pending_adminUsers_iff honce hstatement
  | signups pc =>
      obtain ⟨⟨db₁, r⟩, hstatement, h⟩ := map_eq_ok.mp h
      cases h
      exact pending_signups_iff honce hstatement

end

/-! ### Runs -/

/-- A statement that commits finds its place free. -/
def CreatesInFreePlace (ctx : AuthContext) (w : AccountWorld) (e : AccountEvent) : Prop :=
  ∀ id input pc db' reply, e = .execute id input → w.flights.get? id = some (.waiting pc) →
    accountExecute ctx pc input w.database = some (db', .answered reply) →
    PlaceFree w.database pc

/-- One move: what was pending once stays pending once exactly under the condition. -/
theorem step_pending_iff (ctx : AuthContext) (w : AccountWorld) (e : AccountEvent)
    (w' : AccountWorld) (honce : PendingOnce w.database)
    (h : (accountProgram ctx).machine.step w e = some w') :
    PendingOnce w'.database ↔ CreatesInFreePlace ctx w e := by
  rcases AsyncProgram.step_cases h with
    ⟨call, input, m, o, rfl, -, rfl⟩ | ⟨id, input, pc, d, ready, rfl, hflight, hexec, rfl⟩ |
    ⟨id, input, reply, m, o, rfl, -, -, rfl⟩
  · rw [World.conclude_database]
    exact ⟨fun _ id input pc db' reply he => (by cases he), fun _ => honce⟩
  · show PendingOnce d ↔ _
    rcases execute_cases hexec with ⟨reply, rfl, hstatement⟩ | ⟨error, rfl, rfl⟩
    · rw [statement_pending_iff honce hstatement]
      constructor
      · intro hfree id' input' pc' db' reply' he hf _
        cases he
        rw [hflight] at hf
        cases hf
        exact hfree
      · intro hfree
        exact hfree id input pc d reply rfl hflight hexec
    · -- A statement that throws changes nothing.
      refine ⟨fun _ id' input' pc' db' reply' he hf hcommit => ?_, fun _ => honce⟩
      cases he
      rw [hflight] at hf
      cases hf
      have hexec' : accountExecute ctx pc input w.database = _ := hexec
      rw [hexec'] at hcommit
      cases hcommit
  · rw [World.conclude_database]
    exact ⟨fun _ id input pc db' reply he => (by cases he), fun _ => honce⟩

/-- The exact condition for one pending item of each applicant. In a run from a database in
which nothing is pending twice, with any calls by any sessions, no state has two pending items
of one applicant if and only if every creation that commits finds its place free. -/
theorem one_pending_item_iff (ctx : AuthContext) (memory : AccountMemory) (db : Database)
    (honce : PendingOnce db) (es : List AccountEvent) (w : AccountWorld)
    (h : (accountProgram ctx).machine.run { memory, database := db } es = some w) :
    (accountProgram ctx).machine.Always (fun w => PendingOnce w.database)
        { memory, database := db } es ↔
      (accountProgram ctx).machine.Meets (CreatesInFreePlace ctx)
        { memory, database := db } es :=
  Machine.always_iff_meets (I := fun _ => True) (fun _ _ _ _ _ => trivial)
    (fun w e w' _ hw hstep => step_pending_iff ctx w e w' hw hstep) es _ w trivial honce h

/-! ### A form that is sent twice -/

/-- The request of the applicant of `twoTenants`. -/
def placeRequest : AccountCall :=
  .requests (tenantSession applicantRow) (.createRequest
    { joinCode := "ORG-AAAA1111", requestedRole := .candidate, reason := "exam" })

/-- The applicant sends the form twice. Both calls look for a pending request before the first
one has written its own. -/
def formSentTwice : List AccountEvent :=
  [.invoke placeRequest {}, .invoke placeRequest {},
    .execute 0 {}, .resume 0 {}, .execute 1 {}, .resume 1 {},
    .execute 0 {}, .resume 0 { uuid := "0c9a6a53-2f5e" },
    .execute 1 {}, .resume 1 { uuid := "7d31b8e4-90ac" },
    .execute 0 {}, .resume 0 {}, .execute 1 {}, .resume 1 {}]

/-- The applicant has signed in. -/
def applicantSignedIn : AccountMemory where
  sessions := [tenantSession applicantRow]

/-- The run of the form that is sent twice: both calls succeed, and both requests are pending in
the end. -/
theorem formSentTwice_run :
    ((accountProgram productionContext).machine.run
      { memory := applicantSignedIn, database := twoTenants } formSentTwice).any (fun w =>
        (match w.results with | [(0, .ok _), (1, .ok _)] => true | _ => false) &&
        decide (w.database.accessRequests.rows.map (fun r => (r.userId, r.status))
          = [(applicantRow.id, .pending), (applicantRow.id, .pending)]) &&
        decide (¬ PendingOnce w.database)) = true := by
  decide +kernel

/-- In that run one user has two pending access requests, although the check before each of them
found none. -/
theorem two_pending_access_requests :
    PendingOnce twoTenants ∧
      ∃ w, (accountProgram productionContext).machine.run
          { memory := applicantSignedIn, database := twoTenants } formSentTwice = some w ∧
        w.database.accessRequests.rows.map (fun r => (r.userId, r.status))
          = [(applicantRow.id, .pending), (applicantRow.id, .pending)] ∧
        ¬ PendingOnce w.database := by
  obtain ⟨w, hw, hcheck⟩ := (Option.any_eq_true _ _).mp formSentTwice_run
  simp only [Bool.and_eq_true, decide_eq_true_eq] at hcheck
  exact ⟨by decide +kernel, w, hw, hcheck.1.2, hcheck.2⟩

/-- The exact condition at that run, where the second `create` meets a place that the first one has
taken. -/
theorem one_pending_item_iff_sent_twice :
    ∃ w, (accountProgram productionContext).machine.run
        { memory := applicantSignedIn, database := twoTenants } formSentTwice = some w ∧
      ((accountProgram productionContext).machine.Always (fun w => PendingOnce w.database)
          { memory := applicantSignedIn, database := twoTenants } formSentTwice ↔
        (accountProgram productionContext).machine.Meets (CreatesInFreePlace productionContext)
          { memory := applicantSignedIn, database := twoTenants } formSentTwice) := by
  obtain ⟨w, hw, -⟩ := (Option.any_eq_true _ _).mp formSentTwice_run
  exact ⟨w, hw, one_pending_item_iff productionContext applicantSignedIn twoTenants
    (by decide +kernel) formSentTwice w hw⟩

end Dcvp.Proofs
