import Dcvp.Lib.Race
import Dcvp.Proofs.TenantProtection

/-!
# `Dcvp.Proofs.RequestReview`: one access request and several reviewers

`reviewRequest` tests the status of a request with a read of its own, and the transaction
that follows writes the status without a condition. So the reviews of one request race:
`reviewRace` is the `Race` in which the prize is the pending request and the winner leaves
the status of its decision.

The race is fair under `reviewGuard`: a transaction that commits finds the request still
pending. `access_request_reviewed_once` carries this to every run. Without the guard a second
review goes through: `both_reviews_succeed` is a run in which an approval and a rejection
both succeed, and the applicant has the role of a rejected request.
-/

set_option autoImplicit false

namespace Dcvp.Proofs

open Dcvp.Lib
open Dcvp.Services
open Dcvp.Services.OrganizationRequests (grantRole)
open Dcvp.Shared (AuthSession UserRole)

/-! ### What a review leaves -/

/-- The row of a user after a review that left the given status: the applicant has the role
and the organization of an approved request. -/
def decisionOn (request : AccessRequestRow) (status : ReviewStatus) (u : UserRow) : UserRow :=
  if status = .approved ∧ u.id = request.userId then grantRole request u else u

/-- The request was reviewed. It has the given status, and relative to `before` the users
are as a review with this status leaves them. -/
structure Reviewed (before : Database) (request : AccessRequestRow) (status : ReviewStatus)
    (now : Database) : Prop where
  closed : status ≠ .pending
  stored : ∃ row, now.findAccessRequest request.id = some row ∧ row.status = status
  users : ∀ k, now.findUser k = (before.findUser k).map (decisionOn request status)

section
variable {db db' : Database} {request : AccessRequestRow} {action : ReviewAction}

/-- The users after the decision: an approval writes the role and the organization of the user who
asked, a rejection nothing. -/
theorem findUser_of_applyDecision
    (h : OrganizationRequests.applyDecision db request action = .ok db') (k : String) :
    db'.findUser k = (db.findUser k).map (decisionOn request action.status) := by
  cases action with
  | reject rejectionReason =>
      cases h
      have hid : decisionOn request (ReviewAction.reject rejectionReason).status = id := by
        funext u
        simp [decisionOn, ReviewAction.status]
      rw [hid, Option.map_id_fun]
      rfl
  | approve =>
      obtain ⟨⟨db₁, row'⟩, hupdate, hdb⟩ := map_eq_ok.mp h
      cases hdb
      obtain ⟨row, -, -, htables⟩ := Database.updateUser_eq_ok hupdate
      have hfind := Table.find?_updateMany db.users (fun u => decide (u.id = request.userId))
        (grantRole request) (fun _ => rfl) k
      have hdecision : decisionOn request (ReviewAction.approve).status =
          fun u => if decide (u.id = request.userId) then grantRole request u else u := by
        funext u
        simp [decisionOn, ReviewAction.status]
      show db₁.users.find? k = (db.users.find? k).map _
      rw [htables, hdecision]
      exact hfind

/-- A transaction that commits leaves the request with the status of its action, and answers
this row. -/
theorem reviewTransaction_spec {session : AuthSession} {now : Int}
    {included : Database.IncludedAccessRequest}
    (h : OrganizationRequests.reviewTransaction session request action now db
      = .ok (db', included)) :
    included.request.status = action.status ∧
      db'.findAccessRequest request.id = some included.request ∧
      ∀ k, db'.findUser k = (db.findUser k).map (decisionOn request action.status) := by
  obtain ⟨db₁, hdecision, h⟩ := bind_eq_ok.mp h
  obtain ⟨⟨db₂, row⟩, hupdate, h⟩ := bind_eq_ok.mp h
  obtain ⟨included', hincluded, h⟩ := bind_eq_ok.mp h
  cases h
  obtain ⟨old, hold, hrow, htables⟩ := Database.updateOne_eq_ok hupdate
  -- What the answer shows is the row as the update has left it.
  have hrequest : included.request = row := by
    unfold Database.includeRelations at hincluded
    split at hincluded
    · cases hincluded
      rfl
    · cases hincluded
  refine ⟨by rw [hrequest, hrow], ?_, fun k => ?_⟩
  · show db'.accessRequests.find? request.id = _
    have hfind := Table.find?_updateMany db₁.accessRequests
      (fun r => decide (r.id = request.id))
      (fun r => { r with
        status := action.status, rejectionReason := action.rejectionReason,
        reviewedById := some session.user.id, reviewedAt := some now })
      (fun _ => rfl) request.id
    rw [htables, hrequest, hrow]
    refine hfind.trans ?_
    rw [hold]
    simp [Table.key_of_find? hold]
  · rw [← findUser_of_applyDecision hdecision]
    show db'.users.find? k = db₁.users.find? k
    rw [htables]

end

/-! ### The race -/

/-- The call reviews the request with the given id. -/
def IsReviewOf (requestId : String) : AccountCall → Prop
  | .requests _ (.reviewRequest id _) => id = requestId
  | _ => False

instance (requestId : String) : DecidablePred (IsReviewOf requestId) := by
  intro call
  unfold IsReviewOf
  split <;> infer_instance

/-- The stored request is still pending. -/
def StoredPending (db : Database) (requestId : String) : Prop :=
  ∃ row ∈ db.findAccessRequest requestId, row.status = .pending

/-- The statement commits. -/
def Commits : Option (Database × AccountReady) → Prop
  | some (_, .answered _) => True
  | _ => False

/-- The transaction of a review, if it commits, finds its request still pending. -/
def PendingAtCommit (ctx : AuthContext) (input : AccountInput) (db : Database) :
    Option (Flight AccountWaiting AccountReady) → Prop
  | some (.waiting (.requests session (.reviewCommits request action))) =>
      Commits (accountExecute ctx (.requests session (.reviewCommits request action)) input db) →
        StoredPending db request.id
  | _ => True

/-- The transactions of reviews that commit find their request still pending. -/
def CommitsWhilePending (ctx : AuthContext) (w : AccountWorld) : AccountEvent → Prop
  | .execute id input => PendingAtCommit ctx input w.database (w.flights.get? id)
  | _ => True

instance (db : Database) (requestId : String) : Decidable (StoredPending db requestId) :=
  inferInstanceAs (Decidable (∃ row ∈ _, _))

instance : DecidablePred Commits
  | some (_, .answered _) => isTrue trivial
  | some (_, .failed _ _) => isFalse id
  | none => isFalse id

instance (ctx : AuthContext) (input : AccountInput) (db : Database)
    (f : Option (Flight AccountWaiting AccountReady)) :
    Decidable (PendingAtCommit ctx input db f) := by
  rcases f with _ | (pc | reply)
  · exact isTrue trivial
  · cases pc with
    | requests session pc =>
        cases pc <;> first | exact isTrue trivial | exact inferInstanceAs (Decidable (_ → _))
    | _ => exact isTrue trivial
  · exact isTrue trivial

instance (ctx : AuthContext) (w : AccountWorld) : ∀ e, Decidable (CommitsWhilePending ctx w e)
  | .invoke .. => isTrue trivial
  | .resume .. => isTrue trivial
  | .execute id input =>
      inferInstanceAs (Decidable (PendingAtCommit ctx input w.database (w.flights.get? id)))

/-- Only reviews of the request are made, and their transactions find it pending. -/
def reviewGuard (ctx : AuthContext) (requestId : String) :
    Guard Database AccountCall AccountWaiting AccountInput where
  calls := IsReviewOf requestId
  operations pc input db := PendingAtCommit ctx input db (some (.waiting pc))

/-- The calls of a review up to its transaction: the row that was read as pending is the row
from the start. -/
def ReviewWaits (request : AccessRequestRow) : AccountWaiting → Prop
  | .requests _ (.reviewReads id _) => id = request.id
  | .requests _ (.reviewCommits row _) => row = request
  | _ => False

/-- The replies of the two statements of a review. -/
def ReviewHolds (request : AccessRequestRow) : AccountReady → Prop
  | .answered (.requests _ (.requestRead _ row)) =>
      ∀ r, row = some r → r.status = .pending → r = request
  | .answered (.requests _ (.written _)) => True
  | .failed pc _ => ReviewWaits request pc
  | _ => False

/-- The status that the transaction of a review has written. -/
def writtenStatus : AccountReady → Option ReviewStatus
  | .answered (.requests _ (.written row)) => some row.request.status
  | _ => none

/-- The reviews of one request race for it. -/
def reviewRace (before : Database) (request : AccessRequestRow) :
    Race Database AccountWaiting AccountReady AccountResult ReviewStatus where
  Open db := db.findAccessRequest request.id = some request ∧
    ∀ k, db.findUser k = before.findUser k
  Taken := Reviewed before request
  Waits := ReviewWaits request
  Holds := ReviewHolds request
  taken := writtenStatus
  Succeeds result := ∃ value, result = .ok value
  Returned status result :=
    ∀ value, result = .ok value → ∃ r, value = .request r ∧ r.status = status

section
variable {ctx : AuthContext} {before db db' : Database} {request : AccessRequestRow}

/-- The first segment of a review ends at the read of the request, or throws. -/
theorem reviewRequest_eq_ok {session : AuthSession} {requestId : String} {input : ReviewInput}
    {pc : OrganizationRequests.Waiting}
    (h : OrganizationRequests.reviewRequest ctx session requestId input = .ok pc) :
    ∃ action, pc = .reviewReads requestId action := by
  obtain ⟨_, -, h⟩ := bind_eq_ok.mp h
  split at h
  · obtain ⟨action, -, h⟩ := bind_eq_ok.mp h
    cases h
    exact ⟨action, rfl⟩
  · cases h

/-- After the read a review goes on with a pending row only. -/
theorem reviewAfterRead_eq_ok {session : AuthSession} {action : ReviewAction}
    {row : Option AccessRequestRow} {pc : OrganizationRequests.Waiting}
    (h : OrganizationRequests.reviewAfterRead session action row = .ok pc) :
    ∃ r, row = some r ∧ r.status = .pending ∧ pc = .reviewCommits r action := by
  cases row with
  | none => cases h
  | some r =>
      obtain ⟨_, -, h⟩ := bind_eq_ok.mp h
      split at h
      · cases h
      · rename_i hpending
        cases h
        exact ⟨r, rfl, not_not.mp hpending, rfl⟩

/-- The read of a review, whatever the database has become: a pending row is still the one that is
reviewed. -/
theorem reviewReads_holds {session : AuthSession} {action : ReviewAction} {input : AccountInput}
    {reply : OrganizationRequests.Ready}
    (hrow : ∀ row, db.findAccessRequest request.id = some row → row.status = .pending →
      row = request)
    (h : OrganizationRequests.statement session (.reviewReads request.id action) input db
      = .ok (db', reply)) :
    db' = db ∧ ReviewHolds request (.answered (.requests session reply)) ∧
      writtenStatus (.answered (.requests session reply)) = none := by
  simp only [OrganizationRequests.statement] at h
  split at h
  · cases h
    exact ⟨rfl, fun r hr => (by cases hr), rfl⟩
  · rename_i row hfind
    obtain ⟨_, -, h⟩ := bind_eq_ok.mp h
    cases h
    refine ⟨rfl, fun r hr hpending => ?_, rfl⟩
    cases hr
    exact hrow _ hfind hpending

/-- The end of a review. A success has the status that was written. -/
theorem toRequest_status {row : Database.IncludedAccessRequest} {value : AccountValue}
    (h : AccountValue.request <$> OrganizationRequests.toRequest row = .ok value) :
    ∃ r, value = .request r ∧ r.status = row.request.status := by
  obtain ⟨r, hr, rfl⟩ := map_eq_ok.mp h
  obtain ⟨role, -, hr⟩ := bind_eq_ok.mp hr
  cases hr
  exact ⟨_, rfl, rfl⟩

/-- The segments between the statements of a review: only a call that has written a decision
succeeds, and it answers with this decision. -/
theorem reviewRace_resume {reply : AccountReady} {input : AccountInput} {m m' : AccountMemory}
    {o : Outcome AccountWaiting AccountResult} (hholds : ReviewHolds request reply)
    (h : accountResume ctx reply input m = some (m', o)) :
    (∀ pc, o = .suspended pc → ReviewWaits request pc ∧ writtenStatus reply = none) ∧
      ∀ result, o = .finished result →
        (writtenStatus reply = none → ¬ ∃ value, result = .ok value) ∧
        ∀ status, writtenStatus reply = some status → ∀ value, result = .ok value →
          ∃ r, value = .request r ∧ r.status = status := by
  cases reply with
  | failed pc error =>
      cases pc with
      | requests session pc =>
          cases h
          refine ⟨fun pc hpc => (by cases hpc), fun result hresult => ⟨fun _ => ?_, ?_⟩⟩
          · rintro ⟨value, rfl⟩
            cases hresult
          · intro status hstatus
            cases hstatus
      | _ => exact hholds.elim
  | answered reply =>
      cases reply with
      | requests session reply =>
          cases reply with
          | requestRead action row =>
              cases h
              -- The check behind the read lets only a pending request pass.
              refine ⟨fun pc hpc => ⟨?_, rfl⟩, fun result hresult => ⟨fun _ => ?_, ?_⟩⟩
              · obtain ⟨pc', hpc', rfl⟩ := liftOutcome_eq_suspended hpc
                obtain ⟨r, hr, hpending, rfl⟩ :=
                  reviewAfterRead_eq_ok (awaitOrThrow_eq_suspended.mp hpc')
                exact hholds r hr hpending
              · obtain ⟨error, rfl⟩ := finished_liftOutcome_awaitOrThrow hresult
                rintro ⟨value, hvalue⟩
                cases hvalue
              · intro status hstatus
                cases hstatus
          | written row =>
              cases h
              refine ⟨fun pc hpc => (by cases hpc), fun result hresult => ⟨fun hnone => ?_, ?_⟩⟩
              · cases hnone
              · intro status hstatus value hvalue
                cases hstatus
                cases hresult
                exact toRequest_status hvalue
          | _ => exact hholds.elim
      | _ => exact hholds.elim

end

section
variable {ctx : AuthContext} {before db db' : Database} {request : AccessRequestRow}

/-- The two statements of a review: a read that changes nothing, or a transaction that
commits on a pending request, or a statement that has thrown. -/
theorem review_execute_cases {pc : AccountWaiting} {input : AccountInput} {ready : AccountReady}
    (hwaits : ReviewWaits request pc)
    (hguard : (reviewGuard ctx request.id).operations pc input db)
    (hrow : ∀ row, db.findAccessRequest request.id = some row → row.status = .pending →
      row = request)
    (h : accountExecute ctx pc input db = some (db', ready)) :
    ReviewHolds request ready ∧
      (writtenStatus ready = none ∧ db' = db ∨
        StoredPending db request.id ∧ ∃ status, writtenStatus ready = some status ∧
          status ≠ .pending ∧
          (∃ row, db'.findAccessRequest request.id = some row ∧ row.status = status) ∧
          ∀ k, db'.findUser k = (db.findUser k).map (decisionOn request status)) := by
  rcases execute_cases h with ⟨reply, rfl, hstatement⟩ | ⟨error, rfl, rfl⟩
  · cases pc with
    | requests session pc =>
        obtain ⟨⟨db₁, r⟩, hrequests, heq⟩ := map_eq_ok.mp hstatement
        cases heq
        cases pc with
        | reviewReads id action =>
            cases hwaits
            obtain ⟨rfl, hholds, hnone⟩ := reviewReads_holds hrow hrequests
            exact ⟨hholds, Or.inl ⟨hnone, rfl⟩⟩
        | reviewCommits row action =>
            cases hwaits
            obtain ⟨⟨db₂, included⟩, htransaction, heq⟩ := bind_eq_ok.mp hrequests
            cases heq
            obtain ⟨hstatus, hstored, husers⟩ := reviewTransaction_spec htransaction
            -- The guard of the run: the transaction commits while the request is pending.
            have hpending : StoredPending db request.id := hguard (by rw [h]; trivial)
            refine ⟨trivial, Or.inr ⟨hpending, _, rfl, ?_,
              ⟨_, hstored, rfl⟩, ?_⟩⟩
            · rw [hstatus]
              cases action <;> simp [ReviewAction.status]
            · rw [hstatus]
              exact husers
        | _ => exact hwaits.elim
    | _ => exact hwaits.elim
  · exact ⟨hwaits, Or.inl ⟨rfl, rfl⟩⟩

/-- Under the guard the race of the reviews is fair: while the request is open, each reviewer reads
the row as it was at first. -/
theorem reviewRace_fair (ctx : AuthContext) (before : Database) (request : AccessRequestRow) :
    (reviewRace before request).Fair (accountProgram ctx) (reviewGuard ctx request.id) where
  start call input m m' o hcall h := by
    replace h : accountStart ctx call input m = some (m', o) := h
    unfold accountStart at h
    split at h
    · cases h
      cases call with
      | requests session call =>
          cases call with
          | reviewRequest requestId reviewInput =>
              cases hcall
              constructor
              · intro pc hpc
                obtain ⟨pc', hpc', rfl⟩ := liftOutcome_eq_suspended hpc
                obtain ⟨action, rfl⟩ := reviewRequest_eq_ok (awaitOrThrow_eq_suspended.mp hpc')
                exact rfl
              · rintro result hresult ⟨value, rfl⟩
                obtain ⟨error, herror⟩ := finished_liftOutcome_awaitOrThrow hresult
                cases herror
          | createRequest createInput => exact hcall.elim
      | _ => exact hcall.elim
    · cases h
  openMoves pc input d d' reply hopen hwaits hguard h := by
    obtain ⟨hstored, husers⟩ := hopen
    -- While the request is open, its row is still the one that the reviewers have read.
    have hrow : ∀ row, d.findAccessRequest request.id = some row → row.status = .pending →
        row = request := by
      intro row hfind _
      exact Option.some.inj (hfind.symm.trans hstored)
    obtain ⟨hholds, ⟨hnone, rfl⟩ | ⟨-, status, hstatus, hclosed, hnow, hdecided⟩⟩ :=
      review_execute_cases hwaits hguard hrow h
    · refine ⟨hholds, fun _ => ⟨hstored, husers⟩, fun status hsome => ?_⟩
      replace hsome : writtenStatus reply = some status := hsome
      rw [hnone] at hsome
      cases hsome
    · refine ⟨hholds, fun hnone => ?_, fun status' hsome => ?_⟩
      · replace hnone : writtenStatus reply = none := hnone
        rw [hnone] at hstatus
        cases hstatus
      · replace hsome : writtenStatus reply = some status' := hsome
        rw [hstatus] at hsome
        cases hsome
        exact ⟨hclosed, hnow, fun k => by rw [hdecided, husers]⟩
  takenMoves status pc input d d' reply htaken hwaits hguard h := by
    obtain ⟨row₀, hstored, hstatus₀⟩ := htaken.stored
    -- A decided request is not pending, so the statement of a late reviewer finds nothing.
    have hclosed : ∀ row, d.findAccessRequest request.id = some row → row.status ≠ .pending := by
      intro row hfind hpending
      rw [hstored] at hfind
      cases hfind
      exact htaken.closed (hstatus₀.symm.trans hpending)
    have hrow : ∀ row, d.findAccessRequest request.id = some row → row.status = .pending →
        row = request :=
      fun row hfind hpending => absurd hpending (hclosed row hfind)
    obtain ⟨hholds, ⟨hnone, rfl⟩ | ⟨⟨row, hfind, hpending⟩, -⟩⟩ :=
      review_execute_cases hwaits hguard hrow h
    · exact ⟨hholds, hnone, htaken⟩
    · exact absurd hpending (hclosed row hfind)
  resume reply input m m' o hholds h := reviewRace_resume hholds h

/-- As long as the transactions that commit find the request pending, at most one review of
it succeeds. In every state of the run the applicant has the role and the organization of
the request if its status is `APPROVED`, and the own ones otherwise, and a success reports
the stored status. -/
theorem access_request_reviewed_once (ctx : AuthContext) (memory : AccountMemory)
    (db : Database) (request : AccessRequestRow)
    (hrequest : db.findAccessRequest request.id = some request)
    (hpending : request.status = .pending) (es : List AccountEvent) (w : AccountWorld)
    (hcalls : ∀ e ∈ es, e.Invokes (IsReviewOf request.id))
    (hmeets : (accountProgram ctx).machine.Meets (CommitsWhilePending ctx)
      { memory, database := db } es)
    (hrun : (accountProgram ctx).machine.run { memory, database := db } es = some w) :
    (∀ r ∈ w.results, ∀ r' ∈ w.results, (∃ value, r.2 = .ok value) →
        (∃ value, r'.2 = .ok value) → r.1 = r'.1) ∧
      ∃ row, w.database.findAccessRequest request.id = some row ∧
        (∀ k, w.database.findUser k = (db.findUser k).map (decisionOn request row.status)) ∧
        ∀ r ∈ w.results, ∀ value, r.2 = .ok value →
          ∃ reviewed, value = .request reviewed ∧ reviewed.status = row.status := by
  -- The condition of the statement is the guard of the abstract race.
  have hguard : (accountProgram ctx).machine.Meets (reviewGuard ctx request.id).Allows
      { memory, database := db } es := by
    refine Machine.meets_mono_of_mem (fun e he w hcommits => ?_) hmeets
    cases e with
    | invoke call input => exact hcalls _ he
    | resume id input => trivial
    | execute id input =>
        intro pc hflight
        replace hcommits : PendingAtCommit ctx input w.database (w.flights.get? id) := hcommits
        rwa [hflight] at hcommits
  have hstate : (reviewRace db request).State w :=
    (Race.run_valid (reviewRace_fair ctx db request) ⟨hrequest, fun _ => rfl⟩ es w hguard
      hrun).state
  refine ⟨fun r hr r' hr' => Race.State.succeeds_unique hstate hr hr', ?_⟩
  -- Before a decision the request is as it was, and no review has succeeded.
  cases hstate with
  | undecided h =>
      refine ⟨request, h.isOpen.1, fun k => ?_, fun r hr value hvalue => ?_⟩
      · have hid : decisionOn request request.status = id := by
          funext u
          simp [decisionOn, hpending]
        rw [h.isOpen.2, hid, Option.map_id_fun]
        rfl
      · exact absurd ⟨value, hvalue⟩ (h.results r hr)
  | decided winner status h =>
      obtain ⟨row, hstored, rfl⟩ := h.taken.stored
      refine ⟨row, hstored, h.taken.users, fun r hr value hvalue => ?_⟩
      have hwon := h.results r hr ⟨value, hvalue⟩
      exact h.returned r hr hwon value hvalue

end

/-! ### An approval and a rejection at once -/

/-- The pending request of the applicant. -/
def pendingRequest : AccessRequestRow where
  id := "org_request_0c9a6a53-2f5"
  userId := "user_c0a1"
  organizationId := "org_a"
  requestedRole := .candidate
  reason := "exam"
  createdAt := 1784332800000

/-- Two organizations, and the request of a user without an organization. -/
def requestDatabase : Database where
  toTables := { twoTenants.toTables with accessRequests := ⟨[pendingRequest], by decide⟩ }
  unique := by decide
  related := by decide

/-- The session of an operator. -/
def reviewingOperator : AuthSession where
  token := "session_operator"
  user := toUser (exampleUser "user_d5e6" "operator@example.com" .admin none)
  organization := toOrganization none

/-- The manager of the first organization and an operator have signed in. -/
def reviewers : AccountMemory where
  sessions := [tenantSession firstManagerRow, reviewingOperator]

/-- The manager's call and the operator's call. -/
def approvalAndRejection : List AccountEvent :=
  [.invoke (.requests (tenantSession firstManagerRow)
      (.reviewRequest pendingRequest.id { action := "APPROVE" })) {},
    .invoke (.requests reviewingOperator
      (.reviewRequest pendingRequest.id { action := "REJECT" })) {}]

/-- Each of the two calls reads before the other one commits. -/
def overlappingReviews : List AccountEvent :=
  approvalAndRejection ++
    [.execute 0 {}, .execute 1 {}, .resume 0 {}, .resume 1 {}, .execute 0 {}, .execute 1 {},
      .resume 0 {}, .resume 1 {}]

/-- The second call reads after the first one has committed. -/
def successiveReviews : List AccountEvent :=
  approvalAndRejection ++
    [.execute 0 {}, .resume 0 {}, .execute 0 {}, .execute 1 {}, .resume 0 {}, .resume 1 {}]

/-- The run of the overlapping reviews: both calls succeed, the request is rejected in the end, and
the user is in the organization all the same. -/
theorem overlappingReviews_run :
    ((accountProgram productionContext).machine.run
      { memory := reviewers, database := requestDatabase } overlappingReviews).any (fun w =>
        w.flights.keys.isEmpty &&
        (match w.results with | [(0, .ok _), (1, .ok _)] => true | _ => false) &&
        decide ((w.database.findAccessRequest pendingRequest.id).map AccessRequestRow.status
          = some .rejected) &&
        decide ((w.database.findUser "user_c0a1").map UserRow.organizationId
          = some (some "org_a"))) = true := by
  decide +kernel

/-- Two reviews of one request succeed. The stored status is `REJECTED`, and the applicant
has joined the organization of the request. -/
theorem both_reviews_succeed :
    requestDatabase.findAccessRequest pendingRequest.id = some pendingRequest ∧
      (requestDatabase.findUser pendingRequest.userId).map UserRow.organizationId
        = some none ∧
      (∀ e ∈ overlappingReviews, e.Invokes (IsReviewOf pendingRequest.id)) ∧
      ∃ w, (accountProgram productionContext).machine.run
          { memory := reviewers, database := requestDatabase } overlappingReviews = some w ∧
        w.flights.keys = [] ∧
        (∃ first second, w.results = [(0, .ok first), (1, .ok second)]) ∧
        (w.database.findAccessRequest pendingRequest.id).map AccessRequestRow.status
          = some .rejected ∧
        (w.database.findUser pendingRequest.userId).map UserRow.organizationId
          = some (some pendingRequest.organizationId) := by
  refine ⟨by decide +kernel, by decide +kernel, by decide +kernel, ?_⟩
  obtain ⟨w, hw, hcheck⟩ := (Option.any_eq_true _ _).mp overlappingReviews_run
  simp only [Bool.and_eq_true, decide_eq_true_eq, List.isEmpty_iff] at hcheck
  obtain ⟨⟨⟨hflights, hresults⟩, hstatus⟩, horganization⟩ := hcheck
  refine ⟨w, hw, hflights, ?_, hstatus, horganization⟩
  split at hresults
  · rename_i first second heq
    exact ⟨first, second, heq⟩
  · cases hresults

/-- Reviews that do not overlap: the first one decides, and the second one finds the request
closed. -/
theorem access_request_reviewed_once_successive :
    ∃ w, (accountProgram productionContext).machine.run
        { memory := reviewers, database := requestDatabase } successiveReviews = some w ∧
      (∀ r ∈ w.results, ∀ r' ∈ w.results, (∃ value, r.2 = .ok value) →
        (∃ value, r'.2 = .ok value) → r.1 = r'.1) ∧
      ∃ row, w.database.findAccessRequest pendingRequest.id = some row ∧
        (∀ k, w.database.findUser k
          = (requestDatabase.findUser k).map (decisionOn pendingRequest row.status)) ∧
        ∀ r ∈ w.results, ∀ value, r.2 = .ok value →
          ∃ reviewed, value = .request reviewed ∧ reviewed.status = row.status := by
  have hrun : ((accountProgram productionContext).machine.run
      { memory := reviewers, database := requestDatabase } successiveReviews).isSome := by
    decide +kernel
  obtain ⟨w, hw⟩ := Option.isSome_iff_exists.mp hrun
  refine ⟨w, hw, access_request_reviewed_once productionContext reviewers requestDatabase
    pendingRequest (by decide +kernel) rfl successiveReviews w (by decide +kernel)
    (by decide +kernel) hw⟩

end Dcvp.Proofs
