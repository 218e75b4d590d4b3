import Dcvp.Proofs.OperatorOrigin
import Dcvp.Proofs.SessionOrganizations
import Dcvp.Services.AccountReads

/-!
# `Dcvp.Proofs.AccountReads`: what is listed can be decided

The lists of the account services and the calls that act on their entries are written apart.
A list filters by the organization of the session, or by that of its user, or by the row of
the manager. The call looks at one row, with tests of its own. `ListsAgree` says that both
judge alike: what a list shows as open is what the review, the edit or the acceptance lets
pass, and the number beside the menu counts it.

A list fails as a whole when one of its rows asks for a role that is not on the form: the list of
the requests when a request asks for an operator, and both lists of invitations when an invitation
is for an operator or a candidate. `listableScope` excludes such rows in every run, and `lists_agree`
is the result for runs.

`map_of_mapM` is the form in which a list is compared with its rows: the columns that count are
those of the rows, one after the other.
-/

set_option autoImplicit false

namespace Dcvp.Proofs

open Dcvp.Lib
open Dcvp.Services
open Dcvp.Services.InitialAdmin
open Dcvp.Services.OrganizationRequests (OrganizationAccessRequest)
open Dcvp.Services.AdminSignupRequests (AdminSignupRequest)
open Dcvp.Services.OrganizationInvitations (OrganizationInvitation)
open Dcvp.Shared (AuthSession)

/-! ### The property -/

/-- The lists that a person is shown agree with the calls that act on their entries, when all
of them find the same database. An operator is also shown the signup requests. -/
structure ListsAgree (ctx : AuthContext) (session : AuthSession) (db : Database)
    (requests : List OrganizationAccessRequest) (signups : List AdminSignupRequest) : Prop where
  requests_listed : OrganizationRequests.listRequests ctx session (.ok db) = .ok requests
  requests_open : ∀ id action, (∃ r ∈ requests, r.id = id ∧ r.status = .pending) ↔
    ∃ pc, OrganizationRequests.reviewAfterRead session action (db.findAccessRequest id) = .ok pc
  signups_listed : if session.user.role = .admin then
      AdminSignupRequests.listRequests ctx session (.ok db) = .ok signups
    else signups = []
  signups_open : session.user.role = .admin → ∀ id action,
    (∃ r ∈ signups, r.id = id ∧ r.status = .pending) ↔
      ∃ pc, AdminSignupRequests.reviewAfterRead session action (db.findSignupRequest id) = .ok pc
  counted : AdminUsers.getPendingApprovalCount ctx session (.ok db) (.ok db) =
    .ok (signups.countP (fun r => r.status = .pending) +
      requests.countP fun r => r.status = .pending)
  /-- An account of the list can be edited, but for that of an operator by a manager. -/
  accounts : ∃ users, AdminUsers.listOrganizationUsers ctx session (.ok db) = .ok users ∧
    ∀ target ∈ db.users.rows, AdminUsers.assertEditable session target = .ok () ↔
      (∃ u ∈ users, u.id = target.id) ∧ (target.role = .admin → session.user.role = .admin)
  /-- A received invitation is listed exactly when it can be accepted. -/
  received : ∃ shown,
    OrganizationInvitations.listReceivedInvitations session (.ok db) = .ok shown ∧
      ∀ id, (∃ i ∈ shown, i.id = id) ↔
        ∃ pc, OrganizationInvitations.acceptAfterRead session (db.findInvitation id) = .ok pc
  /-- An open invitation of the list is what refuses another one for its address. The list is for
  somebody whose row manages an organization, which an operator's does not. -/
  sent : ∀ organizationId,
    OrganizationInvitations.managedOrganizationId (db.findUser session.user.id) =
      .ok organizationId →
    ∃ shown,
      OrganizationInvitations.listInvitations session (.ok db) (.ok db) (fun _ => .ok db) =
        .ok shown ∧
      ∀ user ∈ db.users.rows, (∃ i ∈ shown, i.email = user.email ∧ i.status = .pending) ↔
        (db.findPendingInvitation organizationId user.id).isSome

/-- Requests that can be listed, and invitations that can. -/
def listableScope : GrantScope where
  requests role := role ≠ .admin
  invitations := Invitable
  ofRequestForm _ h := h
  ofInvitationForm _ h := h

/-! ### Lists and their rows -/

section
variable {ε α β γ : Type} {f : α → Except ε β} {p : α → γ} {q : β → γ}

/-- A list that is made entry by entry has the columns of its rows. -/
theorem map_of_mapM (hkeeps : ∀ x y, f x = .ok y → q y = p x) {xs : List α} {ys : List β}
    (h : xs.mapM f = .ok ys) : ys.map q = xs.map p := by
  induction xs generalizing ys with
  | nil =>
      cases h
      rfl
  | cons x xs ih =>
      rw [List.mapM_cons] at h
      obtain ⟨y, hy, h⟩ := bind_eq_ok.mp h
      obtain ⟨rest, hrest, h⟩ := bind_eq_ok.mp h
      cases h
      rw [List.map_cons, List.map_cons, hkeeps x y hy, ih hrest]

/-- Such a list can be made when each entry can. -/
theorem mapM_eq_ok_of_forall {xs : List α} (h : ∀ x ∈ xs, ∃ y, f x = .ok y) :
    ∃ ys, xs.mapM f = .ok ys := by
  induction xs with
  | nil => exact ⟨[], rfl⟩
  | cons x xs ih =>
      obtain ⟨y, hy⟩ := h x List.mem_cons_self
      obtain ⟨ys, hys⟩ := ih fun x hx => h x (List.mem_cons_of_mem _ hx)
      refine ⟨y :: ys, ?_⟩
      rw [List.mapM_cons, hy, hys]
      rfl

/-- An entry with these columns is one of a row with them. -/
theorem exists_of_map_eq {xs : List α} {ys : List β} (h : ys.map q = xs.map p) (c : γ) :
    (∃ y ∈ ys, q y = c) ↔ ∃ x ∈ xs, p x = c := by
  rw [← List.mem_map, h, List.mem_map]

end

/-- A list that is sorted by status has the rows that it was made of. -/
theorem mem_byStatus {ρ : Type} (status : ρ → ReviewStatus) (createdAt : ρ → Int)
    (rows : List ρ) (r : ρ) : r ∈ byStatus status createdAt rows ↔ r ∈ rows :=
  (List.perm_insertionSort _ rows).mem_iff

/-- It has them as often, too. -/
theorem countP_byStatus {ρ : Type} (status : ρ → ReviewStatus) (createdAt : ρ → Int)
    (rows : List ρ) (p : ρ → Bool) : (byStatus status createdAt rows).countP p = rows.countP p :=
  (List.perm_insertionSort _ rows).countP_eq p

section
variable {ctx : AuthContext} {session : AuthSession} {db : Database}

/-! ### Access requests -/

/-- The requests that the reviewer may decide. -/
def ownRequests (session : AuthSession) (db : Database) : List AccessRequestRow :=
  db.accessRequests.rows.filter fun r =>
    OrganizationRequests.assertOwnOrganization session r = .ok ()

/-- Who may review: an operator, or a manager with an organization. -/
def MayReview (session : AuthSession) : Prop :=
  session.user.role = .admin ∨
    session.user.role = .organization ∧ (Js.truthy session.user.organizationId).isSome

instance (session : AuthSession) : Decidable (MayReview session) :=
  inferInstanceAs (Decidable (_ ∨ _))

/-- The test of a manager compares with the organization of the user. -/
theorem assertOwnOrganization_iff {own : String} (hrole : session.user.role ≠ .admin)
    (hown : Js.truthy session.user.organizationId = some own) (request : AccessRequestRow) :
    OrganizationRequests.assertOwnOrganization session request = .ok () ↔
      request.organizationId = own := by
  have horganization : OrganizationRequests.organizationId session = .ok own := by
    unfold OrganizationRequests.organizationId
    rw [hown]
  unfold OrganizationRequests.assertOwnOrganization
  rw [if_neg hrole, horganization]
  show (if request.organizationId ≠ own then
      .error (.http .forbidden "자기 조직의 요청만 처리할 수 있습니다.")
    else .ok () : Except ServiceException Unit) = .ok () ↔ _
  by_cases hsame : request.organizationId = own <;> simp [hsame]

/-- The list looks for the requests that its reader may decide: those of the reader's own
organization, or all of them for an operator. -/
theorem listedOrganization_eq (db : Database) (hreviews : MayReview session) :
    ∃ organization : Option String,
      OrganizationRequests.listedOrganization session = .ok organization ∧
        db.accessRequests.rows.filter (fun r => organization.all (r.organizationId = ·)) =
          ownRequests session db := by
  unfold OrganizationRequests.listedOrganization
  rcases hreviews with hadmin | ⟨hmanager, hown⟩
  · refine ⟨none, by rw [if_pos hadmin], List.filter_congr fun r _ => ?_⟩
    simp [OrganizationRequests.assertOwnOrganization, hadmin]
  · obtain ⟨own, hown⟩ := Option.isSome_iff_exists.mp hown
    have hrole : session.user.role ≠ .admin := by
      rw [hmanager]
      decide
    refine ⟨some own, ?_, List.filter_congr fun r _ => ?_⟩
    · rw [if_neg hrole]
      unfold OrganizationRequests.organizationId
      rw [hown]
      rfl
    · exact decide_eq_decide.mpr (assertOwnOrganization_iff hrole hown r).symm

/-- A request that asks for a role of the form is answered, with its columns. -/
theorem toRequest_eq_ok {row : Database.IncludedAccessRequest}
    (h : row.request.requestedRole ≠ .admin) :
    ∃ request, OrganizationRequests.toRequest row = .ok request := by
  unfold OrganizationRequests.toRequest OrganizationRequests.requestableRole
  cases hrole : row.request.requestedRole with
  | admin => exact absurd hrole h
  | _ => exact ⟨_, rfl⟩

/-- A request as it is shown has the id and the status of its row. -/
theorem toRequest_columns {row : Database.IncludedAccessRequest}
    {request : OrganizationAccessRequest} (h : OrganizationRequests.toRequest row = .ok request) :
    (request.id, request.status) = (row.request.id, row.request.status) := by
  obtain ⟨_, _, h⟩ := bind_eq_ok.mp h
  cases h
  rfl

/-- The relations of a stored access request are there, so that the list of requests never fails
for want of a user or an organization. -/
theorem includeRelations_eq_ok {request : AccessRequestRow}
    (h : request ∈ db.accessRequests.rows) :
    ∃ row, db.includeRelations request = .ok row := by
  obtain ⟨huser, horganization⟩ := db.related.2.1 request h
  obtain ⟨user, huser⟩ := Option.ne_none_iff_exists'.mp huser
  obtain ⟨organization, horganization⟩ := Option.ne_none_iff_exists'.mp horganization
  unfold Database.includeRelations
  rw [huser, horganization]
  exact ⟨_, rfl⟩

/-- A row that is read with its relations is the row itself beside them. -/
theorem request_of_includeRelations {request : AccessRequestRow}
    {row : Database.IncludedAccessRequest} (h : db.includeRelations request = .ok row) :
    row.request = request := by
  unfold Database.includeRelations at h
  split at h
  · cases h
    rfl
  · cases h

/-- The list of the requests has the columns of the rows that its reader may decide. -/
theorem listRequests_eq_ok (hdatabase : ctx.env.databaseAvailable = true)
    (hroles : ∀ r ∈ db.accessRequests.rows, r.requestedRole ≠ .admin)
    (hreviews : MayReview session) :
    ∃ requests : List OrganizationAccessRequest,
      OrganizationRequests.listRequests ctx session (.ok db) = .ok requests ∧
      requests.map (fun r => (r.id, r.status)) =
        (byStatus AccessRequestRow.status AccessRequestRow.createdAt
          (ownRequests session db)).map fun r => (r.id, r.status) := by
  obtain ⟨organization, horganization, hown⟩ := listedOrganization_eq db hreviews
  have hreview : OrganizationRequests.assertCanReview session = .ok () := by
    unfold OrganizationRequests.assertCanReview
    rcases hreviews with hadmin | ⟨hmanager, -⟩
    · simp [hadmin]
    · simp [hmanager]
  -- Every listed row is a stored one, so its relations are found and its role is allowed. That is
  -- all that the two traversals need to succeed.
  have hstored : ∀ r ∈ byStatus AccessRequestRow.status AccessRequestRow.createdAt
      (ownRequests session db), r ∈ db.accessRequests.rows := fun r hr =>
    (List.mem_filter.mp ((mem_byStatus _ _ _ r).mp hr)).1
  obtain ⟨included, hincluded⟩ := mapM_eq_ok_of_forall fun r hr =>
    includeRelations_eq_ok (hstored r hr)
  have hsame : included.map (·.request) = (byStatus AccessRequestRow.status
      AccessRequestRow.createdAt (ownRequests session db)).map id :=
    map_of_mapM (fun _ _ h => request_of_includeRelations h) hincluded
  rw [List.map_id] at hsame
  obtain ⟨requests, hrequests⟩ : ∃ requests,
      included.mapM OrganizationRequests.toRequest = .ok requests :=
    mapM_eq_ok_of_forall fun row hrow => by
      have hin := List.mem_map_of_mem (f := fun row => row.request) hrow
      rw [hsame] at hin
      exact toRequest_eq_ok (hroles _ (hstored _ hin))
  refine ⟨requests, ?_, ?_⟩
  -- The steps of the method, one after the other.
  · unfold OrganizationRequests.listRequests
    rw [hreview, horganization]
    simp only [hdatabase, if_true]
    refine bind_eq_ok.mpr ⟨(), rfl, bind_eq_ok.mpr ⟨organization, rfl, ?_⟩⟩
    refine bind_eq_ok.mpr ⟨db, rfl, bind_eq_ok.mpr ⟨included, ?_, hrequests⟩⟩
    rw [hown]
    exact hincluded
  · have hcolumns := map_of_mapM (fun _ _ h => toRequest_columns h) hrequests
    rw [hcolumns, ← hsame, List.map_map]
    rfl

/-- A request is listed as open exactly when its review lets it pass. -/
theorem open_request_iff {requests : List OrganizationAccessRequest}
    (hcolumns : requests.map (fun r => (r.id, r.status)) =
      (byStatus AccessRequestRow.status AccessRequestRow.createdAt
        (ownRequests session db)).map fun r => (r.id, r.status))
    (id : String) (action : ReviewAction) :
    (∃ r ∈ requests, r.id = id ∧ r.status = .pending) ↔
      ∃ pc, OrganizationRequests.reviewAfterRead session action (db.findAccessRequest id) =
        .ok pc := by
  have hlisted := exists_of_map_eq hcolumns (id, .pending)
  simp only [Prod.mk.injEq] at hlisted
  rw [hlisted]
  -- The review finds the row by its identifier, the list by the organization of the reader. A
  -- stored row is the one that is found under its identifier, so the two agree.
  constructor
  · rintro ⟨r, hr, rfl, hpending⟩
    obtain ⟨hstored, hown⟩ := List.mem_filter.mp ((mem_byStatus _ _ _ r).mp hr)
    have hfind : db.findAccessRequest r.id = some r := Table.find?_of_mem hstored
    rw [hfind]
    refine ⟨.reviewCommits r action, bind_eq_ok.mpr ⟨(), of_decide_eq_true hown, ?_⟩⟩
    rw [if_neg (not_not.mpr hpending)]
  · rintro ⟨pc, hpc⟩
    cases hfind : db.findAccessRequest id with
    | none => rw [hfind] at hpc; cases hpc
    | some r =>
        rw [hfind] at hpc
        obtain ⟨⟨⟩, hown, hpc⟩ := bind_eq_ok.mp hpc
        obtain ⟨hstored, hid⟩ := (Table.find?_eq_some_iff _ _ _).mp hfind
        split at hpc
        · cases hpc
        · rename_i hpending
          refine ⟨r, (mem_byStatus _ _ _ r).mpr ?_, hid, not_not.mp hpending⟩
          exact List.mem_filter.mpr ⟨hstored, decide_eq_true hown⟩

/-! ### Signup requests -/

/-- A signup request is listed as open exactly when its review passes the checks. The list has all
requests, since only an operator is shown it. -/
theorem open_signup_iff (id : String) (action : ReviewAction) :
    (∃ r ∈ (byStatus SignupRequestRow.status SignupRequestRow.createdAt
        db.signupRequests.rows).map AdminSignupRequests.toSignupRequest,
      r.id = id ∧ r.status = .pending) ↔
      ∃ pc, AdminSignupRequests.reviewAfterRead session action (db.findSignupRequest id) =
        .ok pc := by
  -- An operator sees every request, so the list and the review differ only in how they find the
  -- row.
  constructor
  · rintro ⟨_, hin, rfl, hpending⟩
    obtain ⟨r, hr, rfl⟩ := List.mem_map.mp hin
    have hfind : db.findSignupRequest r.id = some r :=
      Table.find?_of_mem ((mem_byStatus _ _ _ r).mp hr)
    show ∃ pc, AdminSignupRequests.reviewAfterRead session action (db.findSignupRequest r.id) =
      .ok pc
    rw [hfind]
    have hopen : ¬ r.status ≠ .pending := not_not.mpr hpending
    simp only [AdminSignupRequests.reviewAfterRead, if_neg hopen]
    cases action with
    | approve => exact ⟨_, rfl⟩
    | reject rejectionReason => exact ⟨_, rfl⟩
  · rintro ⟨pc, hpc⟩
    cases hfind : db.findSignupRequest id with
    | none => rw [hfind] at hpc; cases hpc
    | some r =>
        rw [hfind] at hpc
        simp only [AdminSignupRequests.reviewAfterRead] at hpc
        obtain ⟨hstored, hid⟩ := (Table.find?_eq_some_iff _ _ _).mp hfind
        split at hpc
        · cases hpc
        · rename_i hpending
          exact ⟨_, List.mem_map_of_mem ((mem_byStatus _ _ _ r).mpr hstored), hid,
            not_not.mp hpending⟩

/-! ### The number beside the menu -/

/-- The pending entries of the list are the pending ones of its rows. -/
theorem countP_requests {requests : List OrganizationAccessRequest}
    (hcolumns : requests.map (fun r => (r.id, r.status)) =
      (byStatus AccessRequestRow.status AccessRequestRow.createdAt
        (ownRequests session db)).map fun r => (r.id, r.status)) :
    requests.countP (fun r => r.status = .pending) =
      (ownRequests session db).countP fun r => r.status = .pending := by
  have hcount := congrArg (List.countP fun c => decide (c.2 = ReviewStatus.pending)) hcolumns
  rw [List.countP_map, List.countP_map] at hcount
  exact hcount.trans (countP_byStatus _ _ _ _)

/-- A manager counts the requests of the organization of the session, and decides those of the
organization of its user. -/
theorem count_ownRequests (hnames : NamesOne session) {own : String}
    (hrole : session.user.role ≠ .admin)
    (hown : Js.truthy session.user.organizationId = some own) :
    (db.accessRequests.count fun r =>
        r.organizationId = session.organization.id ∧ r.status = .pending) =
      (ownRequests session db).countP fun r => r.status = .pending := by
  have hsession : session.organization.id = own := by
    have huser : session.user.organizationId = some own := (Option.filter_eq_some_iff.mp hown).1
    rw [show session.organization.id = session.user.organizationId.getD "" from hnames, huser]
    rfl
  unfold Table.count ownRequests
  rw [List.countP_filter]
  refine List.countP_congr fun r _ => ?_
  have hiff := assertOwnOrganization_iff hrole hown r
  simp only [decide_eq_true_eq, Bool.and_eq_true, hsession, hiff]
  exact and_comm

/-- The number of an operator is that of both lists. -/
theorem countP_ownRequests_admin (hrole : session.user.role = .admin) :
    (ownRequests session db).countP (fun r => r.status = .pending) =
      db.accessRequests.count fun r => r.status = .pending := by
  have hall : ownRequests session db = db.accessRequests.rows := by
    refine List.filter_eq_self.mpr fun r _ => ?_
    simp [OrganizationRequests.assertOwnOrganization, hrole]
  rw [hall]
  rfl

/-- The list has as many open signup requests as the badge counts. -/
theorem countP_signups :
    ((byStatus SignupRequestRow.status SignupRequestRow.createdAt
        db.signupRequests.rows).map AdminSignupRequests.toSignupRequest).countP
          (fun r => r.status = .pending) =
      db.signupRequests.count fun r => r.status = .pending := by
  rw [List.countP_map, countP_byStatus]
  rfl

/-! ### Accounts -/

/-- The listed accounts are those that can be edited, but for the operators among them, which only
an operator edits. -/
theorem listed_account_iff (hdatabase : ctx.env.databaseAvailable = true)
    (hreviews : MayReview session) :
    ∃ users, AdminUsers.listOrganizationUsers ctx session (.ok db) = .ok users ∧
      ∀ target ∈ db.users.rows, AdminUsers.assertEditable session target = .ok () ↔
        (∃ u ∈ users, u.id = target.id) ∧
          (target.role = .admin → session.user.role = .admin) := by
  have hmanages : AdminUsers.assertCanManageAccounts session = .ok () := by
    unfold AdminUsers.assertCanManageAccounts
    rcases hreviews with hadmin | ⟨hmanager, -⟩
    · simp [hadmin]
    · simp [hmanager]
  unfold AdminUsers.listOrganizationUsers
  rw [hmanages]
  simp only [hdatabase, if_true]
  refine ⟨_, rfl, fun target htarget => ?_⟩
  -- Two rows with one key are one row.
  have hlisted : (∃ u ∈ ((db.users.rows.filter fun u => session.user.role = .admin ∨
        u.organizationId = some session.organization.id).insertionSort
          fun left right => left.createdAt ≤ right.createdAt).map toUser, u.id = target.id) ↔
      session.user.role = .admin ∨ target.organizationId = some session.organization.id := by
    constructor
    · rintro ⟨_, hin, hid⟩
      obtain ⟨u, hu, rfl⟩ := List.mem_map.mp hin
      obtain ⟨hstored, hshown⟩ :=
        List.mem_filter.mp ((List.perm_insertionSort _ _).mem_iff.mp hu)
      have hsame : u = target := Option.some.inj
        ((Table.find?_of_mem hstored).symm.trans
          ((congrArg db.users.find? hid).trans (Table.find?_of_mem htarget)))
      rw [← hsame]
      exact of_decide_eq_true hshown
    · intro hshown
      refine ⟨toUser target, List.mem_map_of_mem
        ((List.perm_insertionSort _ _).mem_iff.mpr (List.mem_filter.mpr ⟨htarget, ?_⟩)), rfl⟩
      exact decide_eq_true hshown
  rw [hlisted]
  unfold AdminUsers.assertEditable
  by_cases hadmin : session.user.role = .admin
  · simp [hadmin]
  · by_cases hown : target.organizationId = some session.organization.id
    · by_cases htargetAdmin : target.role = .admin <;> simp [hadmin, hown, htargetAdmin]
    · simp [hadmin, hown]

/-! ### Invitations -/

/-- The invitations that are found are those of the table with the property. -/
theorem mem_findInvitations {p : InvitationRow → Bool}
    {rows : List Database.IncludedInvitation}
    (h : OrganizationInvitations.findInvitations db p = .ok rows) (i : InvitationRow) :
    (∃ row ∈ rows, row.invitation = i) ↔ i ∈ db.invitations.rows ∧ p i = true := by
  have hinclude : ∀ (j : InvitationRow) (row : Database.IncludedInvitation),
      db.includeOrganization j = .ok row → row.invitation = id j := by
    intro j row hrow
    unfold Database.includeOrganization at hrow
    split at hrow
    · cases hrow
      rfl
    · cases hrow
  rw [exists_of_map_eq (map_of_mapM hinclude h) i]
  constructor
  · rintro ⟨j, hj, rfl⟩
    exact List.mem_filter.mp ((List.perm_insertionSort _ _).mem_iff.mp hj)
  · intro hi
    exact ⟨i, (List.perm_insertionSort _ _).mem_iff.mpr (List.mem_filter.mpr hi), rfl⟩

/-- The invitations of a list can be read with their organizations. -/
theorem findInvitations_eq_ok (db : Database) (p : InvitationRow → Bool) :
    ∃ rows, OrganizationInvitations.findInvitations db p = .ok rows := by
  refine mapM_eq_ok_of_forall fun i hi => ?_
  have hstored : i ∈ db.invitations.rows :=
    List.mem_of_mem_filter ((List.perm_insertionSort _ _).mem_iff.mp hi)
  obtain ⟨organization, horganization⟩ :=
    Option.ne_none_iff_exists'.mp (db.related.2.2 i hstored)
  unfold Database.includeOrganization
  rw [horganization]
  exact ⟨_, rfl⟩

/-- An invitation as it is shown has the id and the status of its row, and the e-mail of the
invited user. -/
theorem toInvitation_columns {row : Database.IncludedInvitation} {email : String}
    {invitation : OrganizationInvitation}
    (h : OrganizationInvitations.toInvitation row email = .ok invitation) :
    invitation.id = row.invitation.id ∧ invitation.email = email ∧
      invitation.status = row.invitation.status := by
  obtain ⟨_, _, h⟩ := bind_eq_ok.mp h
  cases h
  exact ⟨rfl, rfl, rfl⟩

/-- The list of the received invitations does not fail when the stored roles can be answered. -/
theorem listReceivedInvitations_eq_ok (session : AuthSession)
    (hroles : ∀ i ∈ db.invitations.rows, Invitable i.requestedRole) :
    ∃ shown, OrganizationInvitations.listReceivedInvitations session (.ok db) = .ok shown := by
  obtain ⟨rows, hrows⟩ := findInvitations_eq_ok db fun i =>
    i.invitedUserId = session.user.id ∧ i.status = .pending
  obtain ⟨shown, hshown⟩ : ∃ shown, rows.mapM (fun row =>
      OrganizationInvitations.toInvitation row session.user.email) = .ok shown :=
    mapM_eq_ok_of_forall fun row hrow => by
      have hstored := ((mem_findInvitations hrows row.invitation).mp ⟨row, hrow, rfl⟩).1
      obtain ⟨invitation, hinvitation, -⟩ :=
        toInvitation_of_invitable session.user.email (hroles row.invitation hstored)
      exact ⟨invitation, hinvitation⟩
  exact ⟨shown, bind_eq_ok.mpr ⟨db, rfl, bind_eq_ok.mpr ⟨rows, hrows, hshown⟩⟩⟩

/-- The loop of the sent invitations does not fail either: each row has a role that can be shown,
and a missing account only leaves its row out. -/
theorem invitationsFrom_eq_ok {rows : List Database.IncludedInvitation} (n : Nat)
    (hroles : ∀ row ∈ rows, Invitable row.invitation.requestedRole) :
    ∃ shown, OrganizationInvitations.invitationsFrom (fun _ => .ok db) n rows = .ok shown := by
  induction rows generalizing n with
  | nil => exact ⟨[], rfl⟩
  | cons row rows ih =>
      obtain ⟨later, hlater⟩ := ih (n + 1) fun row' hrow' => hroles row' (List.mem_cons_of_mem _ hrow')
      obtain ⟨result, hresult⟩ : ∃ result, OrganizationInvitations.listedInvitation row
          (db.findUser row.invitation.invitedUserId) = .ok result := by
        cases db.findUser row.invitation.invitedUserId with
        | none => exact ⟨[], rfl⟩
        | some user =>
            obtain ⟨invitation, hinvitation, -⟩ :=
              toInvitation_of_invitable user.email (hroles row List.mem_cons_self)
            exact ⟨_, map_eq_ok.mpr ⟨invitation, hinvitation, rfl⟩⟩
      exact ⟨result ++ later, bind_eq_ok.mpr ⟨db, rfl, bind_eq_ok.mpr ⟨result, hresult,
        bind_eq_ok.mpr ⟨later, hlater, rfl⟩⟩⟩⟩

/-- Who manages an organization is shown the invitations that it has sent. -/
theorem listInvitations_eq_ok {organizationId : String}
    (hmanager : OrganizationInvitations.managedOrganizationId (db.findUser session.user.id) =
      .ok organizationId) (hroles : ∀ i ∈ db.invitations.rows, Invitable i.requestedRole) :
    ∃ shown, OrganizationInvitations.listInvitations session (.ok db) (.ok db)
      (fun _ => .ok db) = .ok shown := by
  obtain ⟨rows, hrows⟩ := findInvitations_eq_ok db fun i => i.organizationId = organizationId
  obtain ⟨shown, hshown⟩ : ∃ shown,
      OrganizationInvitations.invitationsFrom (fun _ => .ok db) 0 rows = .ok shown :=
    invitationsFrom_eq_ok 0 fun row hrow =>
      hroles row.invitation ((mem_findInvitations hrows row.invitation).mp ⟨row, hrow, rfl⟩).1
  exact ⟨shown, bind_eq_ok.mpr ⟨db, rfl, bind_eq_ok.mpr ⟨organizationId, hmanager,
    bind_eq_ok.mpr ⟨db, rfl, bind_eq_ok.mpr ⟨rows, hrows, hshown⟩⟩⟩⟩⟩

/-- A received invitation is listed exactly when its acceptance passes the first check. The list
selects in its query what the acceptance tests one by one. -/
theorem received_iff {shown : List OrganizationInvitation}
    (h : OrganizationInvitations.listReceivedInvitations session (.ok db) = .ok shown)
    (id : String) :
    (∃ i ∈ shown, i.id = id) ↔
      ∃ pc, OrganizationInvitations.acceptAfterRead session (db.findInvitation id) = .ok pc := by
  obtain ⟨_, hread, h⟩ := bind_eq_ok.mp h
  cases hread
  obtain ⟨rows, hrows, hshown⟩ := bind_eq_ok.mp h
  have hcolumns := map_of_mapM (fun _ _ h => (toInvitation_columns h).1) hshown
  rw [exists_of_map_eq hcolumns id]
  -- The list selects by user and status in its query; the acceptance reads by identifier and checks
  -- both columns itself.
  constructor
  · rintro ⟨row, hrow, rfl⟩
    obtain ⟨hstored, hmine⟩ := (mem_findInvitations hrows row.invitation).mp ⟨row, hrow, rfl⟩
    obtain ⟨huser, hpending⟩ := of_decide_eq_true hmine
    have hfind : db.findInvitation row.invitation.id = some row.invitation :=
      Table.find?_of_mem hstored
    rw [hfind]
    simp [OrganizationInvitations.acceptAfterRead, huser, hpending]
  · rintro ⟨pc, hpc⟩
    cases hfind : db.findInvitation id with
    | none => rw [hfind] at hpc; cases hpc
    | some i =>
        obtain ⟨hstored, hid⟩ := (Table.find?_eq_some_iff _ _ _).mp hfind
        rw [hfind] at hpc
        simp only [OrganizationInvitations.acceptAfterRead] at hpc
        split at hpc
        · cases hpc
        · rename_i huser
          split at hpc
          · cases hpc
          · rename_i hpending
            obtain ⟨row, hrow, rfl⟩ := (mem_findInvitations hrows i).mpr
              ⟨hstored, decide_eq_true ⟨not_not.mp huser, not_not.mp hpending⟩⟩
            exact ⟨row, hrow, hid⟩

/-- The entries of the loop, when all lookups find the same database. -/
theorem mem_invitationsFrom {rows : List Database.IncludedInvitation} {n : Nat}
    {shown : List OrganizationInvitation}
    (h : OrganizationInvitations.invitationsFrom (fun _ => .ok db) n rows = .ok shown)
    (email : String) (status : InvitationStatus) :
    (∃ i ∈ shown, i.email = email ∧ i.status = status) ↔
      ∃ row ∈ rows, row.invitation.status = status ∧
        ∃ user, db.findUser row.invitation.invitedUserId = some user ∧ user.email = email := by
  -- Induction on the rows: each takes one more lookup of its user, and a row without a user
  -- contributes no entry.
  induction rows generalizing n shown with
  | nil =>
      cases h
      simp
  | cons row rows ih =>
      obtain ⟨_, hread, h⟩ := bind_eq_ok.mp h
      cases hread
      obtain ⟨result, hresult, h⟩ := bind_eq_ok.mp h
      obtain ⟨later, hlater, h⟩ := bind_eq_ok.mp h
      cases h
      have hhead : (∃ i ∈ result, i.email = email ∧ i.status = status) ↔
          row.invitation.status = status ∧
            ∃ user, db.findUser row.invitation.invitedUserId = some user ∧
              user.email = email := by
        cases hfind : db.findUser row.invitation.invitedUserId with
        | none =>
            rw [hfind] at hresult
            cases hresult
            simp
        | some user =>
            rw [hfind] at hresult
            obtain ⟨invitation, hinvitation, rfl⟩ := map_eq_ok.mp hresult
            obtain ⟨-, hemail, hstatus⟩ := toInvitation_columns hinvitation
            simp [List.singleton, hemail, hstatus, and_comm]
      simp only [List.mem_append, or_and_right, exists_or, List.mem_cons, exists_eq_left]
      rw [hhead, ih hlater]

/-- An open invitation is listed for the address of a user exactly when the check of another
one finds it. -/
theorem sent_iff {organizationId : String} {shown : List OrganizationInvitation}
    (hmanager : OrganizationInvitations.managedOrganizationId (db.findUser session.user.id) =
      .ok organizationId)
    (h : OrganizationInvitations.listInvitations session (.ok db) (.ok db) (fun _ => .ok db) =
      .ok shown) {user : UserRow} (huser : user ∈ db.users.rows) :
    (∃ i ∈ shown, i.email = user.email ∧ i.status = .pending) ↔
      (db.findPendingInvitation organizationId user.id).isSome := by
  obtain ⟨_, hread, h⟩ := bind_eq_ok.mp h
  cases hread
  obtain ⟨_, horganization, h⟩ := bind_eq_ok.mp h
  cases horganization.symm.trans hmanager
  obtain ⟨_, hread, h⟩ := bind_eq_ok.mp h
  cases hread
  obtain ⟨rows, hrows, h⟩ := bind_eq_ok.mp h
  rw [mem_invitationsFrom h]
  have hfirst : (db.findPendingInvitation organizationId user.id).isSome ↔
      ∃ i ∈ db.invitations.rows, i.organizationId = organizationId ∧
        i.invitedUserId = user.id ∧ i.status = .pending := by
    unfold Database.findPendingInvitation Table.findFirst
    rw [List.find?_isSome]
    simp only [decide_eq_true_eq]
  rw [hfirst]
  constructor
  · rintro ⟨row, hrow, hpending, invited, hinvited, hemail⟩
    obtain ⟨hstored, hown⟩ := (mem_findInvitations hrows row.invitation).mp ⟨row, hrow, rfl⟩
    obtain ⟨hmem, hid⟩ := (Table.find?_eq_some_iff _ _ _).mp hinvited
    -- The column of the addresses is unique.
    have hsame : invited = user := List.inj_on_of_nodup_map db.unique.1 hmem huser hemail
    refine ⟨row.invitation, hstored, of_decide_eq_true hown, ?_, hpending⟩
    rw [← hid, hsame]
  · rintro ⟨i, hstored, hown, hinvited, hpending⟩
    obtain ⟨row, hrow, rfl⟩ := (mem_findInvitations hrows i).mpr ⟨hstored, decide_eq_true hown⟩
    refine ⟨row, hrow, hpending, user, ?_, rfl⟩
    rw [hinvited]
    exact Table.find?_of_mem huser

/-! ### The result -/

/-- The lists agree in every database whose requests and invitations can be listed. -/
theorem listsAgree_of_within (hdatabase : ctx.env.databaseAvailable = true)
    (hdb : GrantsWithin listableScope db) (hnames : NamesOne session)
    (hreviews : MayReview session) :
    ∃ requests signups, ListsAgree ctx session db requests signups := by
  have hreceived : ∃ shown,
      OrganizationInvitations.listReceivedInvitations session (.ok db) = .ok shown ∧
        ∀ id, (∃ i ∈ shown, i.id = id) ↔
          ∃ pc, OrganizationInvitations.acceptAfterRead session (db.findInvitation id) = .ok pc := by
    obtain ⟨shown, hshown⟩ := listReceivedInvitations_eq_ok session hdb.invitations
    exact ⟨shown, hshown, received_iff hshown⟩
  have hsent : ∀ organizationId,
      OrganizationInvitations.managedOrganizationId (db.findUser session.user.id) =
        .ok organizationId →
      ∃ shown,
        OrganizationInvitations.listInvitations session (.ok db) (.ok db) (fun _ => .ok db) =
          .ok shown ∧
        ∀ user ∈ db.users.rows, (∃ i ∈ shown, i.email = user.email ∧ i.status = .pending) ↔
          (db.findPendingInvitation organizationId user.id).isSome := by
    intro organizationId hmanager
    obtain ⟨shown, hshown⟩ := listInvitations_eq_ok hmanager hdb.invitations
    exact ⟨shown, hshown, fun user huser => sent_iff hmanager hshown huser⟩
  obtain ⟨requests, hlisted, hcolumns⟩ := listRequests_eq_ok hdatabase hdb.requests hreviews
  have hcounted := countP_requests hcolumns
  have hmanages : ¬ (session.user.role ≠ .admin ∧ session.user.role ≠ .organization) := by
    rintro ⟨hadmin, hmanager⟩
    rcases hreviews with h | ⟨h, -⟩
    · exact hadmin h
    · exact hmanager h
  -- An operator reads all requests and counts the signup requests with them; the head of an
  -- organization reads and counts its own only.
  by_cases hadmin : session.user.role = .admin
  · refine ⟨requests, _, hlisted, open_request_iff hcolumns, ?_,
      fun _ => open_signup_iff, ?_, listed_account_iff hdatabase hreviews, hreceived, hsent⟩
    · rw [if_pos hadmin]
      unfold AdminSignupRequests.listRequests AdminSignupRequests.assertOperator
      simp only [hdatabase, hadmin]
      rfl
    · unfold AdminUsers.getPendingApprovalCount AdminUsers.pendingApprovals
      rw [if_neg hmanages, hcounted, countP_ownRequests_admin hadmin, countP_signups]
      simp only [hdatabase, hadmin, if_true]
      rfl
  -- The count is over the organization of the session, the list over the one of its row. `NamesOne`
  -- says that they are the same.
  · obtain ⟨own, hown⟩ : ∃ own, Js.truthy session.user.organizationId = some own := by
      rcases hreviews with h | ⟨-, h⟩
      · exact absurd h hadmin
      · exact Option.isSome_iff_exists.mp h
    refine ⟨requests, [], hlisted, open_request_iff hcolumns, by rw [if_neg hadmin],
      fun h => absurd h hadmin, ?_, listed_account_iff hdatabase hreviews, hreceived, hsent⟩
    unfold AdminUsers.getPendingApprovalCount AdminUsers.pendingApprovals
    rw [if_neg hmanages, hcounted, ← count_ownRequests hnames hadmin hown]
    simp only [hdatabase, hadmin, if_true, if_false]
    show Except.ok _ = Except.ok _
    rw [List.countP_nil, Nat.zero_add]

end

/-- Two organizations, and a user who has asked for a place in the first one. -/
def oneRequest : Database :=
  { twoTenants with
    accessRequests := .single
      { id := "org_request_0c9a6a53", userId := applicantRow.id, organizationId := "org_a",
        requestedRole := .candidate, reason := "exam", createdAt := 1784332800000 }
    unique := by decide
    related := by decide }

/-- The request is one of the form, and nobody is invited. -/
theorem grantsWithin_oneRequest : GrantsWithin listableScope oneRequest where
  requests := by
    unfold listableScope
    decide
  invitations := by
    unfold listableScope
    decide

end Dcvp.Proofs
