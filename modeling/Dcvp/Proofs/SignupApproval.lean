import Dcvp.Lib.ChangeLog
import Dcvp.Proofs.ControllerStatements
import Dcvp.Proofs.LastOperator

/-!
# `Dcvp.Proofs.SignupApproval`: who becomes the manager of a new organization

A registered user applies for a new organization, and the request keeps the e-mail of the
session. The approval looks the e-mail up and promotes the account that it finds. Between the
application and the approval the e-mail can move to another account, the applicant can join
an organization, and a second approval can read the request as pending.

`SignupFact` records what the requests table does not keep: which user has applied with which
request, and which organization was created for it. The facts of a run grow beside its states
(`Machine.logging`).

`approval_sound_iff` is the exact condition. Every approval in a run promotes the applicant,
a user without an organization, for the first time, if and only if each approval that commits
meets `ApprovesApplicant`: its request has no approved user yet, the account that was found is
the applicant's, and it has no organization.
-/

set_option autoImplicit false

namespace Dcvp.Proofs

open Dcvp.Lib
open Dcvp.Services
open Dcvp.Modules.AdminUsersController
open Dcvp.Shared (AuthSession UserRole)

/-! ### Facts about requests -/

/-- A registered user has applied with a request, or an organization was created for one. -/
inductive SignupFact where
  | applied (requestId userId : String)
  | approved (requestId organizationId : String)
  deriving DecidableEq

/-- The fact that a statement establishes when it commits. -/
def signupFact (ctx : AuthContext) (input : AccountInput) : AccountWaiting → Option SignupFact
  | .signups (.registeredWrites session _ id) => some (.applied id session.user.id)
  | .signups (.reviewCommits _ request _) =>
      some (.approved request.id (AdminSignupRequests.newOrganization ctx input request).id)
  | _ => none

/-- The facts that an operation establishes. -/
def operationFacts (ctx : AuthContext) (input : AccountInput) (pc : AccountWaiting) :
    Option (Database × AccountReady) → List SignupFact
  | some (_, .answered _) => (signupFact ctx input pc).toList
  | _ => []

/-- The facts that a move establishes. -/
def signupFacts (ctx : AuthContext) (w : ControllerWorld) : ControllerEvent → List SignupFact
  | .execute id input =>
      match w.flights.get? id with
      | some (.waiting (.inService _ _ pc)) =>
          operationFacts ctx input.account pc (accountExecute ctx pc input.account w.database)
      | _ => []
  | _ => []

/-! ### What a statement does to the requests -/

/-- The row of a request after its approval. -/
def approvedRow (reviewerId userId : String) (now : Int) (r : SignupRequestRow) :
    SignupRequestRow :=
  { r with status := .approved, reviewedById := some reviewerId, approvedUserId := some userId,
           reviewedAt := some now }

/-- What a statement of the account services does to the requests. -/
inductive SignupEffect (ctx : AuthContext) (input : AccountInput) (pc : AccountWaiting)
    (db db' : Database) : Prop
  | kept (hfact : signupFact ctx input pc = none)
      (hfind : ∀ id, db'.findSignupRequest id = db.findSignupRequest id)
  | created (row : SignupRequestRow) (hnew : db.findSignupRequest row.id = none)
      (hopen : row.approvedUserId = none)
      (hfact : signupFact ctx input pc = none ∨
        ∃ userId, signupFact ctx input pc = some (.applied row.id userId) ∧
          row.passwordHash = "")
      (hfind : ∀ id, db'.findSignupRequest id
        = if row.id = id then some row else db.findSignupRequest id)
  | rejected (hfact : signupFact ctx input pc = none) (requestId : String)
      (row row' : SignupRequestRow) (hrow : db.findSignupRequest requestId = some row)
      (hsame : row'.passwordHash = row.passwordHash ∧ row'.approvedUserId = row.approvedUserId)
      (hfind : ∀ id, db'.findSignupRequest id
        = if id = requestId then some row' else db.findSignupRequest id)
  | approved (session : AuthSession) (request : SignupRequestRow)
      (existingUser : Option UserRow) (userId : String) (row : SignupRequestRow)
      (hpc : pc = .signups (.reviewCommits session request existingUser))
      (hrow : db.findSignupRequest request.id = some row)
      (horganization : db.organizations.find?
        (AdminSignupRequests.newOrganization ctx input request).id = none)
      (hfind : ∀ id, db'.findSignupRequest id
        = if id = request.id then some (approvedRow session.user.id userId input.dateNow row)
          else db.findSignupRequest id)

section
variable {ctx : AuthContext} {input : AccountInput} {db db' : Database}

/-- A statement that leaves the table finds the same requests. -/
theorem findSignupRequest_of_eq (h : db'.signupRequests = db.signupRequests) (id : String) :
    db'.findSignupRequest id = db.findSignupRequest id := by
  show db'.signupRequests.find? id = db.signupRequests.find? id
  rw [h]

/-- After a `create` the new request is found under its id, which was free, and every other request
as before. -/
theorem findSignupRequest_of_create {row : SignupRequestRow}
    (h : db.createSignupRequest row = .ok db') :
    db.findSignupRequest row.id = none ∧ ∀ id, db'.findSignupRequest id
      = if row.id = id then some row else db.findSignupRequest id := by
  obtain ⟨requests, hinsert, htables⟩ := Database.tables_of_createSignupRequest h
  refine ⟨Table.find?_of_insert? hinsert, fun id => ?_⟩
  show db'.signupRequests.find? id = _
  rw [htables]
  exact Table.find?_insert? hinsert id

/-- A request after `update`: the row of the update is changed, and every other one is as it was.
-/
theorem findSignupRequest_of_update {requestId : String}
    {data : SignupRequestRow → SignupRequestRow} {keeps : ∀ row, (data row).id = row.id}
    {row' : SignupRequestRow}
    (h : db.updateSignupRequest requestId data keeps = .ok (db', row')) :
    ∃ row, db.findSignupRequest requestId = some row ∧ row' = data row ∧
      ∀ id, db'.findSignupRequest id
        = if id = requestId then some (data row) else db.findSignupRequest id := by
  obtain ⟨row, hrow, hdata, htables⟩ := Database.updateOne_eq_ok h
  refine ⟨row, hrow, hdata, fun id => ?_⟩
  have hfind := Table.find?_updateMany db.signupRequests (fun r => decide (r.id = requestId))
    data keeps id
  show db'.signupRequests.find? id = _
  rw [htables]
  refine hfind.trans ?_
  -- The row of the update, and every other one as it was.
  by_cases hid : id = requestId
  · rw [hid, hrow, if_pos rfl]
    simp [Table.key_of_find? hrow]
  · rw [if_neg hid]
    show Option.map _ (db.findSignupRequest id) = db.findSignupRequest id
    cases hr : db.findSignupRequest id with
    | none => rfl
    | some r =>
        have hne : r.id ≠ requestId := by
          rw [Table.key_of_find? hr]
          exact hid
        simp [hne]

/-- The statement that appoints the manager writes users only. -/
theorem tables_of_appointManager {request : SignupRequestRow} {organizationId : String}
    {existingUser : Option UserRow} {user : UserRow}
    (h : AdminSignupRequests.appointManager input request organizationId existingUser db
      = .ok (db', user)) :
    ∃ users, db'.toTables = { db.toTables with users } := by
  cases existingUser with
  | some existing =>
      obtain ⟨_, -, -, htables⟩ := Database.updateUser_eq_ok h
      exact ⟨_, htables⟩
  | none =>
      obtain ⟨users, -, htables, -⟩ := Database.tables_of_createUser h
      exact ⟨users, htables⟩

/-- What a statement on signup requests does to them: it creates one, rejects one or approves one,
or it leaves them all. -/
theorem signupEffect_signups {pc : AdminSignupRequests.Waiting}
    {reply : AdminSignupRequests.Ready}
    (h : AdminSignupRequests.statement ctx pc input db = .ok (db', reply)) :
    SignupEffect ctx input (.signups pc) db db' := by
  cases pc with
  | createReadsUser parsed => cases h; exact .kept rfl fun _ => rfl
  | createReadsPending parsed existingUser => cases h; exact .kept rfl fun _ => rfl
  | createHashes parsed =>
      obtain ⟨hash, -, h⟩ := bind_eq_ok.mp h
      cases h
      exact .kept rfl fun _ => rfl
  | createWrites parsed passwordHash id =>
      obtain ⟨db₁, hcreate, h⟩ := bind_eq_ok.mp h
      cases h
      obtain ⟨hnew, hfind⟩ := findSignupRequest_of_create hcreate
      exact .created _ hnew rfl (Or.inl rfl) hfind
  | registeredReadsPending session data => cases h; exact .kept rfl fun _ => rfl
  | registeredWrites session data id =>
      obtain ⟨db₁, hcreate, h⟩ := bind_eq_ok.mp h
      cases h
      obtain ⟨hnew, hfind⟩ := findSignupRequest_of_create hcreate
      exact .created _ hnew rfl (Or.inr ⟨_, rfl, rfl⟩) hfind
  | reviewReads session requestId action => cases h; exact .kept rfl fun _ => rfl
  | reviewRejects session request rejectionReason =>
      obtain ⟨⟨db₁, row⟩, hupdate, h⟩ := bind_eq_ok.mp h
      cases h
      obtain ⟨old, hold, -, hfind⟩ := findSignupRequest_of_update hupdate
      refine .rejected rfl _ old _ hold ?_ hfind
      exact ⟨rfl, rfl⟩
  | reviewReadsUser session request => cases h; exact .kept rfl fun _ => rfl
  | reviewCommits session request existingUser =>
      obtain ⟨⟨db₁, row⟩, htransaction, h⟩ := bind_eq_ok.mp h
      cases h
      obtain ⟨db₂, horganization, h⟩ := bind_eq_ok.mp htransaction
      obtain ⟨⟨db₃, user⟩, hmanager, hupdate⟩ := bind_eq_ok.mp h
      -- The organization and the manager are written before the request, which they do not touch.
      obtain ⟨organizations, hinsert, horganizations⟩ :=
        Database.tables_of_createOrganization horganization
      obtain ⟨users, husers⟩ := tables_of_appointManager hmanager
      have hsame : ∀ id, db₃.findSignupRequest id = db.findSignupRequest id :=
        findSignupRequest_of_eq (by rw [husers, horganizations])
      obtain ⟨old, hold, -, hfind⟩ := findSignupRequest_of_update hupdate
      refine .approved session request existingUser user.id old rfl ?_
        (Table.find?_of_insert? hinsert) fun id => ?_
      · rw [← hsame]
        exact hold
      · rw [hfind, hsame]
        rfl

/-- What a statement of the account services does to the sign-up requests: it adds one, decides
one, or leaves them alone. -/
theorem signupEffect {pc : AccountWaiting} {reply : AccountReply}
    (h : accountStatement ctx pc input db = .ok (db', reply)) :
    SignupEffect ctx input pc db db' := by
  -- The other services do not write this table.
  cases pc with
  | openSession userId token => cases h; exact .kept rfl fun _ => rfl
  | requests session pc =>
      obtain ⟨⟨db₁, r⟩, hstatement, h⟩ := map_eq_ok.mp h
      cases h
      have hsame : db₁.signupRequests = db.signupRequests := by
        rw [tables_of_requests hstatement]
      exact .kept rfl (findSignupRequest_of_eq hsame)
  | invitations session pc =>
      obtain ⟨⟨db₁, r⟩, hstatement, h⟩ := map_eq_ok.mp h
      cases h
      have hsame : db₁.signupRequests = db.signupRequests := by
        rw [tables_of_invitations hstatement]
      exact .kept rfl (findSignupRequest_of_eq hsame)
  | adminUsers session pc =>
      obtain ⟨⟨db₁, r⟩, hstatement, h⟩ := map_eq_ok.mp h
      cases h
      have hsame : db₁.signupRequests = db.signupRequests := by
        rw [tables_of_adminUsers hstatement]
      exact .kept rfl (findSignupRequest_of_eq hsame)
  | signups pc =>
      obtain ⟨⟨db₁, r⟩, hstatement, h⟩ := map_eq_ok.mp h
      cases h
      exact signupEffect_signups hstatement

end

/-! ### The property and the condition -/

/-- A state of the program and the facts so far. -/
abbrev SignupState := ControllerWorld × List SignupFact

/-- The program with its facts. -/
def signupMachine (ctx : AuthContext) : Machine SignupState ControllerEvent :=
  (controllerProgram ctx).machine.logging (signupFacts ctx)

/-- The user becomes the manager of the organization, had none before, and nobody else gets
another role or organization. -/
structure Promoted (db db' : Database) (userId organizationId : String) : Prop where
  free : ∃ row, db.findUser userId = some row ∧ row.organizationId = none
  manages : place db' userId = some (.organization, some organizationId)
  others : ∀ k, k ≠ userId → place db' k = place db k

/-- If the move approves a request of a registered user, it promotes this user, and no
organization was created for the request before. -/
def ApprovalSound (ctx : AuthContext) (s : SignupState) (e : ControllerEvent) : Prop :=
  ∀ w' requestId organizationId userId, (controllerProgram ctx).machine.step s.1 e = some w' →
    .approved requestId organizationId ∈ signupFacts ctx s.1 e →
    .applied requestId userId ∈ s.2 →
    Promoted s.1.database w'.database userId organizationId ∧
      ∀ other, .approved requestId other ∉ s.2

/-- The request of an approval has no approved user yet, the account that was found is the
applicant's, and the applicant has no organization. -/
structure FindsApplicant (db : Database) (request : SignupRequestRow)
    (existingUser : Option UserRow) (userId : String) : Prop where
  unapproved : ∃ row ∈ db.findSignupRequest request.id, row.approvedUserId = none
  applicant : ∃ user ∈ existingUser, user.id = userId
  free : ∃ row ∈ db.findUser userId, row.organizationId = none

/-- An approval that commits, of a request of a registered user, finds its applicant. -/
def ApprovesApplicant (ctx : AuthContext) (s : SignupState) (e : ControllerEvent) : Prop :=
  ∀ id input token method session request existingUser db' reply userId,
    e = .execute id input →
    s.1.flights.get? id = some (.waiting (.inService token method
      (.signups (.reviewCommits session request existingUser)))) →
    accountExecute ctx (.signups (.reviewCommits session request existingUser)) input.account
      s.1.database = some (db', .answered reply) →
    .applied request.id userId ∈ s.2 →
    FindsApplicant s.1.database request existingUser userId

/-! ### The request in the hands of a review -/

/-- The request is stored, with this password hash. -/
def Stored (db : Database) (request : SignupRequestRow) : Prop :=
  ∃ row, db.findSignupRequest request.id = some row ∧ row.passwordHash = request.passwordHash

/-- The request of a registered user is approved with an account only. -/
def ReviewWaiting (db : Database) : ControllerWaiting → Prop
  | .inService _ _ (.signups (.reviewRejects _ request _)) => Stored db request
  | .inService _ _ (.signups (.reviewReadsUser _ request)) => Stored db request
  | .inService _ _ (.signups (.reviewCommits _ request existingUser)) =>
      Stored db request ∧ (request.passwordHash = "" → existingUser ≠ none)
  | _ => True

/-- The request that was read is stored. -/
def ReviewReady (db : Database) : ControllerReady → Prop
  | .inService _ _ (.answered (.signups (.requestRead _ _ (some request)))) => Stored db request
  | .inService _ _ (.answered (.signups (.reviewUserRead _ request _))) => Stored db request
  | _ => True

/-- The requests in the hands of reviews. -/
def signupOutline : Outline AuthMemory Database ControllerWaiting ControllerReady where
  Inv _ _ := True
  Waits pc _ db := ReviewWaiting db pc
  Holds ready _ db := ReviewReady db ready

/-- No request is removed or gets another password hash. -/
def RequestsStay (db db' : Database) : Prop :=
  ∀ id row, db.findSignupRequest id = some row →
    ∃ row', db'.findSignupRequest id = some row' ∧ row'.passwordHash = row.passwordHash

/-- Requests that are found as before have stayed. -/
theorem RequestsStay.of_eq {db db' : Database}
    (h : ∀ id, db'.findSignupRequest id = db.findSignupRequest id) : RequestsStay db db' :=
  fun id row hrow => ⟨row, by rw [h]; exact hrow, rfl⟩

/-- A request that is stored stays stored, with its password hash. -/
theorem Stored.mono {db db' : Database} {request : SignupRequestRow} (h : Stored db request)
    (hstay : RequestsStay db db') : Stored db' request := by
  obtain ⟨row, hrow, hhash⟩ := h
  obtain ⟨row', hrow', hsame⟩ := hstay _ row hrow
  exact ⟨row', hrow', hsame.trans hhash⟩

/-- The assertion of a suspended review survives the statements of the others. -/
theorem ReviewWaiting.mono {db db' : Database} {pc : ControllerWaiting}
    (h : ReviewWaiting db pc) (hstay : RequestsStay db db') : ReviewWaiting db' pc := by
  unfold ReviewWaiting at h ⊢
  split at h
  · exact h.mono hstay
  · exact h.mono hstay
  · exact ⟨h.1.mono hstay, h.2⟩
  · trivial

/-- So does the one of a review with a reply. -/
theorem ReviewReady.mono {db db' : Database} {ready : ControllerReady}
    (h : ReviewReady db ready) (hstay : RequestsStay db db') : ReviewReady db' ready := by
  unfold ReviewReady at h ⊢
  split at h
  · exact h.mono hstay
  · exact h.mono hstay
  · trivial

/-- Every effect lets the requests stay: one may be added or decided, none goes away, and who made
it stays. -/
theorem SignupEffect.stay {ctx : AuthContext} {input : AccountInput} {pc : AccountWaiting}
    {db db' : Database} (h : SignupEffect ctx input pc db db') : RequestsStay db db' := by
  -- A request may be added or decided; none goes away, and who made it stays.
  cases h with
  | kept hfact hfind => exact .of_eq hfind
  | created row hnew hopen hfact hfind =>
      intro id old hold
      refine ⟨old, ?_, rfl⟩
      rw [hfind, if_neg, hold]
      rintro rfl
      rw [hnew] at hold
      cases hold
  | rejected hfact requestId row row' hrow hsame hfind =>
      intro id old hold
      by_cases hid : id = requestId
      · rw [hid, hrow] at hold
        cases hold
        exact ⟨row', by rw [hfind, if_pos hid], hsame.1⟩
      · exact ⟨old, by rw [hfind, if_neg hid]; exact hold, rfl⟩
  | approved session request existingUser userId row hpc hrow horganization hfind =>
      intro id old hold
      by_cases hid : id = request.id
      · rw [hid, hrow] at hold
        cases hold
        exact ⟨approvedRow session.user.id userId input.dateNow row,
          by rw [hfind, if_pos hid], rfl⟩
      · exact ⟨old, by rw [hfind, if_neg hid]; exact hold, rfl⟩

/-- The operations of `AuthService` let the requests stay. -/
theorem AuthEffect.stay {db db' : Database} (h : AuthEffect db db') : RequestsStay db db' := by
  cases h with
  | placed h => exact .of_eq (findSignupRequest_of_eq (by rw [h.tables]))
  | registered row hrole hfree hnew htables hfind =>
      exact .of_eq (findSignupRequest_of_eq (by rw [htables]))

section
variable {ctx : AuthContext} {db db' : Database}

/-- A service call starts before the request is read, so a review has no row in hand yet. -/
theorem reviewWaiting_segment {call : AccountCall} {pc : AccountWaiting} (token : Option String)
    (method : Method) (h : accountSegment ctx call = .suspended pc) :
    ReviewWaiting db (.inService token method pc) := by
  -- A review begins with a read, so it has no row in hand yet.
  cases call with
  | signups call =>
      obtain ⟨pc', hpc', rfl⟩ := liftOutcome_eq_suspended h
      replace hpc' := awaitOrThrow_eq_suspended.mp hpc'
      cases call with
      | createRequest data =>
          simp only [AdminSignupRequests.start, AdminSignupRequests.createRequest] at hpc'
          split at hpc'
          · obtain ⟨parsed, -, heq⟩ := bind_eq_ok.mp hpc'
            cases heq
            trivial
          · cases hpc'
      | createRequestForRegisteredUser session data =>
          simp only [AdminSignupRequests.start,
            AdminSignupRequests.createRequestForRegisteredUser] at hpc'
          split at hpc'
          · obtain ⟨_, -, hpc'⟩ := bind_eq_ok.mp hpc'
            split at hpc'
            · cases hpc'
            · cases hpc'
              trivial
          · cases hpc'
      | reviewRequest session requestId data =>
          obtain ⟨_, -, hpc'⟩ := bind_eq_ok.mp hpc'
          obtain ⟨action, -, hpc'⟩ := bind_eq_ok.mp hpc'
          split at hpc'
          · cases hpc'
            trivial
          · cases hpc'
  | openSession userId token => cases h; trivial
  | _ =>
      obtain ⟨pc', -, rfl⟩ := liftOutcome_eq_suspended h
      trivial

/-- The reply of a statement of a review: what the review holds from here on is the row that it has
just read. -/
theorem reviewReady_statement {pc : AccountWaiting} {input : AccountInput} {reply : AccountReply}
    (token : Option String) (method : Method)
    (hwaits : ReviewWaiting db' (.inService token method pc))
    (h : accountStatement ctx pc input db = .ok (db', reply)) :
    ReviewReady db' (.inService token method (.answered reply)) := by
  cases pc with
  | signups pc =>
      obtain ⟨⟨db₁, r⟩, hstatement, h⟩ := map_eq_ok.mp h
      cases h
      cases pc with
      | reviewReads session requestId action =>
          cases hstatement
          -- What the review holds from here on is the row that it has just read.
          cases hfind : db.findSignupRequest requestId with
          | none => trivial
          | some row =>
              refine ⟨row, ?_, rfl⟩
              rw [Table.key_of_find? hfind]
              exact hfind
      | reviewReadsUser session request => cases hstatement; exact hwaits
      | createReadsUser parsed => cases hstatement; trivial
      | createReadsPending parsed existingUser => cases hstatement; trivial
      | registeredReadsPending session data => cases hstatement; trivial
      | _ =>
          obtain ⟨_, -, heq⟩ := bind_eq_ok.mp hstatement
          cases heq
          trivial
  | openSession userId token => cases h; trivial
  | _ =>
      obtain ⟨⟨db₁, r⟩, -, h⟩ := map_eq_ok.mp h
      cases h
      trivial

/-- The segments of a review hand the row on that was read, or hold none. -/
theorem reviewWaiting_signups {reply : AdminSignupRequests.Ready} {input : AccountInput}
    {pc : AdminSignupRequests.Waiting} (token : Option String) (method : Method)
    (hready : ReviewReady db (.inService token method (.answered (.signups reply))))
    (h : AdminSignupRequests.resume reply input = .suspended pc) :
    ReviewWaiting db (.inService token method (.signups pc)) := by
  cases reply with
  | userRead parsed existingUser => cases h; trivial
  | pendingRead parsed existingUser pending =>
      replace h := awaitOrThrow_eq_suspended.mp h
      cases existingUser with
      | none => cases h
      | some existing =>
          simp only [AdminSignupRequests.createAfterReads] at h
          split at h
          · cases h
          · cases h
            trivial
  | hashed parsed passwordHash => cases h; trivial
  | registeredPendingRead session data pending =>
      replace h := awaitOrThrow_eq_suspended.mp h
      cases pending with
      | some r => cases h
      | none => cases h; trivial
  | requestRead session action request =>
      replace h := awaitOrThrow_eq_suspended.mp h
      cases request with
      | none => cases h
      | some request =>
          simp only [AdminSignupRequests.reviewAfterRead] at h
          split at h
          · cases h
          · cases action with
            | approve => cases h; exact hready
            | reject rejectionReason => cases h; exact hready
  | reviewUserRead session request existingUser =>
      replace h := awaitOrThrow_eq_suspended.mp h
      simp only [AdminSignupRequests.reviewAfterUser] at h
      split at h
      · cases h
      · -- A request without a password hash is of a registered user, who was found.
        rename_i hfound
        split at h
        · cases h
        · cases h
          exact ⟨hready, fun hhash hnone => hfound ⟨hhash, hnone⟩⟩
  | written request => cases h

/-- The segments of the program keep what a review holds, also behind the one failed statement
after which a call goes on. -/
theorem reviewWaiting_resume {reply : AccountReady} {input : AccountInput} {m : AccountMemory}
    {o : Outcome AccountWaiting AccountResult} {pc : AccountWaiting} (token : Option String)
    (method : Method) (hready : ReviewReady db (.inService token method reply))
    (h : accountResume ctx reply input {} = some (m, o)) (ho : o = .suspended pc) :
    ReviewWaiting db (.inService token method pc) := by
  cases reply with
  | failed failedPc error =>
      cases h
      cases failedPc with
      | signups signupPc =>
          obtain ⟨pc', hpc', rfl⟩ := liftOutcome_eq_suspended ho
          cases signupPc with
          -- The only failed statement behind which a call goes on.
          | createReadsUser parsed => cases hpc'; trivial
          | _ => cases hpc'
      | _ => cases ho
  | answered reply =>
      cases reply with
      | sessionRead token user organization =>
          cases user with
          | none => cases h; cases ho
          | some row => cases h; cases ho
      | signups reply =>
          cases h
          obtain ⟨pc', hpc', rfl⟩ := liftOutcome_eq_suspended ho
          exact reviewWaiting_signups token method hready hpc'
      | requests session reply =>
          cases h
          obtain ⟨pc', -, rfl⟩ := liftOutcome_eq_suspended ho
          trivial
      | invitations session reply =>
          cases h
          obtain ⟨pc', -, rfl⟩ := liftOutcome_eq_suspended ho
          trivial
      | adminUsers session reply =>
          cases h
          obtain ⟨pc', -, rfl⟩ := liftOutcome_eq_suspended ho
          trivial

/-- A segment of the service call that leaves a review waiting leaves the controller waiting for it
in the same way. -/
theorem reviewWaiting_ofService {m : AuthMemory} {token : Option String} {method : Method}
    {o : Outcome AccountWaiting AccountResult} {pc : ControllerWaiting}
    (ho : ∀ pc', o = .suspended pc' → ReviewWaiting db (.inService token method pc'))
    (h : (ofService m token method o).2 = .suspended pc) : ReviewWaiting db pc := by
  cases o with
  | suspended pc' => cases h; exact ho pc' rfl
  | finished result =>
      cases result with
      | error e => cases h
      | ok value => cases h; trivial

/-- A segment of `me`, with the start of the service call. -/
theorem reviewWaiting_ofMe {token : Option String} {method : Method} {seg : AuthSegment}
    {pc : ControllerWaiting} (h : (ofMe ctx token method seg).2 = .suspended pc) :
    ReviewWaiting db pc := by
  obtain ⟨m, o⟩ := seg
  cases o with
  | suspended pc' => cases h; trivial
  | finished result =>
      cases result with
      | error e => cases h
      | ok session =>
          cases session with
          | none => cases h
          | some session =>
              exact reviewWaiting_ofService (fun pc' ho => reviewWaiting_segment token method ho) h

end

/-- The outline holds. The request in the hands of a review is stored, and one without a password
has an account to be approved for. -/
theorem signupOutline_proved (ctx : AuthContext) :
    signupOutline.Proved (controllerProgram ctx) fun _ db _ db' => RequestsStay db db' where
  start call input m d m' o _ h := by
    refine ⟨trivial, .of_eq fun _ => rfl, ?_⟩
    rintro pc rfl
    cases call with
    | auth call =>
        have hstart : ((authStart ctx call input.auth m).map ofAuth) = some (m', .suspended pc) := by
          cases call with
          | otherStatement write => cases h
          | _ => exact h
        obtain ⟨⟨m₁, o⟩, -, heq⟩ := Option.map_eq_some_iff.mp hstart
        cases o <;> cases heq
        trivial
    | request authorization method =>
        have hsuspended := congrArg Prod.snd (Option.some.inj h)
        exact reviewWaiting_ofMe hsuspended
  execute pc input m d d' ready _ hwaits h := by
    rcases controllerExecute_cases h with
      ⟨heffect, -, hready⟩ | ⟨token, method, pc', reply, rfl, rfl, hexec⟩
    · refine ⟨trivial, heffect.stay, ?_⟩
      -- Only the statement of a service could write a request, and it is in the other case.
      cases ready with
      | inService token method reply => exact absurd rfl (hready token method reply)
      | _ => trivial
    · rcases execute_cases hexec with ⟨value, rfl, hstatement⟩ | ⟨error, rfl, rfl⟩
      · -- What the call knew of its request holds of the new database as well.
        have hstay := (signupEffect hstatement).stay
        exact ⟨trivial, hstay,
          reviewReady_statement token method (ReviewWaiting.mono hwaits hstay) hstatement⟩
      · exact ⟨trivial, .of_eq fun _ => rfl, trivial⟩
  resume ready input m d m' o _ hholds h := by
    refine ⟨trivial, .of_eq fun _ => rfl, ?_⟩
    rintro pc rfl
    cases ready with
    | auth reply =>
        obtain ⟨⟨m₁, o⟩, -, heq⟩ := Option.map_eq_some_iff.mp h
        cases o <;> cases heq
        trivial
    | inMe token method reply =>
        obtain ⟨seg, -, heq⟩ := Option.map_eq_some_iff.mp h
        exact reviewWaiting_ofMe (congrArg Prod.snd heq)
    | inService token method reply =>
        obtain ⟨⟨m₁, o⟩, hresume, heq⟩ := Option.map_eq_some_iff.mp h
        exact reviewWaiting_ofService
          (fun pc' ho => reviewWaiting_resume token method hholds hresume ho)
          (congrArg Prod.snd heq)
    | serviceReturned token method value =>
        replace h := congrArg Prod.snd (Option.some.inj h)
        cases method with
        -- The only method that waits again, for the refreshed session.
        | acceptOrganizationInvitation invitationId =>
            simp only [afterService] at h
            unfold ofRefresh at h
            split at h <;> cases h
            trivial
        | _ => cases h
    | inRefresh value reply =>
        obtain ⟨⟨m₁, o⟩, -, heq⟩ := Option.map_eq_some_iff.mp h
        unfold ofRefresh at heq
        split at heq <;> cases heq
        trivial
  stable f m d m' d' hstay hf := by
    cases f with
    | waiting pc => exact ReviewWaiting.mono hf hstay
    | ready ready => exact ReviewReady.mono hf hstay

/-! ### The facts and the table -/

/-- The facts fit the table. The request of a registered user is stored without a password
hash, and it has an approved user exactly when an organization was created for it. -/
structure FactsFit (db : Database) (log : List SignupFact) : Prop where
  applied : ∀ requestId userId, .applied requestId userId ∈ log →
    ∃ row, db.findSignupRequest requestId = some row ∧ row.passwordHash = "" ∧
      (row.approvedUserId = none ↔ ∀ other, .approved requestId other ∉ log)
  approved : ∀ requestId organizationId, .approved requestId organizationId ∈ log →
    db.findSignupRequest requestId ≠ none

/-- What stays of the facts when the requests and the facts are as before. -/
theorem FactsFit.of_eq {db db' : Database} {log : List SignupFact} (h : FactsFit db log)
    (hfind : ∀ id, db'.findSignupRequest id = db.findSignupRequest id) : FactsFit db' log where
  applied requestId userId hmem := by
    rw [hfind]
    exact h.applied requestId userId hmem
  approved requestId organizationId hmem := by
    rw [hfind]
    exact h.approved requestId organizationId hmem

section
variable {ctx : AuthContext} {input : AccountInput} {pc : AccountWaiting} {db db' : Database}
  {log : List SignupFact}

/-- A new request, about which there may be the fact that a user has applied with it. -/
theorem FactsFit.created (h : FactsFit db log) {row : SignupRequestRow} {fact : Option SignupFact}
    (hnew : db.findSignupRequest row.id = none) (hopen : row.approvedUserId = none)
    (hfact : fact = none ∨
      ∃ userId, fact = some (.applied row.id userId) ∧ row.passwordHash = "")
    (hfind : ∀ id, db'.findSignupRequest id
      = if row.id = id then some row else db.findSignupRequest id) :
    FactsFit db' (log ++ fact.toList) := by
  -- No fact is about the new request yet.
  have hold : ∀ requestId userId, SignupFact.applied requestId userId ∈ log →
      row.id ≠ requestId := by
    rintro requestId userId hmem rfl
    obtain ⟨old, hrow, -⟩ := h.applied _ _ hmem
    rw [hnew] at hrow
    cases hrow
  have hunapproved : ∀ other, SignupFact.approved row.id other ∉ log :=
    fun other hmem => h.approved _ _ hmem hnew
  have hiff : ∀ requestId other, SignupFact.approved requestId other ∈ log ++ fact.toList ↔
      SignupFact.approved requestId other ∈ log := by
    intro requestId other
    rw [List.mem_append, Option.mem_toList]
    refine ⟨fun hmem => hmem.resolve_right fun heq => ?_, Or.inl⟩
    rcases hfact with rfl | ⟨userId, rfl, -⟩
    · cases heq
    · cases heq
  constructor
  · intro requestId userId hmem
    simp only [hiff]
    rcases List.mem_append.mp hmem with hmem | hmem
    · rw [hfind, if_neg (hold _ _ hmem)]
      exact h.applied requestId userId hmem
    · rcases hfact with rfl | ⟨userId', rfl, hhash⟩
      · cases hmem
      · rw [Option.toList_some, List.mem_singleton] at hmem
        cases hmem
        exact ⟨row, by rw [hfind, if_pos rfl], hhash, fun _ => hunapproved, fun _ => hopen⟩
  · intro requestId organizationId hmem
    rw [hiff] at hmem
    rw [hfind]
    split
    · simp
    · exact h.approved requestId organizationId hmem

/-- A request that is written again with the same password hash and the same approved user. -/
theorem FactsFit.rejected (h : FactsFit db log) {requestId : String}
    {row row' : SignupRequestRow} (hrow : db.findSignupRequest requestId = some row)
    (hsame : row'.passwordHash = row.passwordHash ∧ row'.approvedUserId = row.approvedUserId)
    (hfind : ∀ id, db'.findSignupRequest id
      = if id = requestId then some row' else db.findSignupRequest id) :
    FactsFit db' log := by
  constructor
  · intro id userId hmem
    obtain ⟨old, hold, hhash, hiff⟩ := h.applied id userId hmem
    rw [hfind]
    split
    · rename_i hid
      rw [hid, hrow] at hold
      cases hold
      exact ⟨row', rfl, hsame.1.trans hhash, by rw [hsame.2]; exact hiff⟩
    · exact ⟨old, hold, hhash, hiff⟩
  · intro id organizationId hmem
    rw [hfind]
    split
    · simp
    · exact h.approved id organizationId hmem

/-- An approval, with the fact that the request has its organization: the log fits the database,
where the row is decided now. -/
theorem FactsFit.approval (h : FactsFit db log) {requestId organizationId : String}
    {row row' : SignupRequestRow} (hrow : db.findSignupRequest requestId = some row)
    (hhash : row'.passwordHash = row.passwordHash) (happroved : row'.approvedUserId ≠ none)
    (hfind : ∀ id, db'.findSignupRequest id
      = if id = requestId then some row' else db.findSignupRequest id) :
    FactsFit db' (log ++ [.approved requestId organizationId]) := by
  constructor
  · intro id applicant hmem
    have hmem' : SignupFact.applied id applicant ∈ log := by
      rcases List.mem_append.mp hmem with hmem | hmem
      · exact hmem
      · cases List.mem_singleton.mp hmem
    obtain ⟨old, hold, hplain, hiff⟩ := h.applied id applicant hmem'
    rw [hfind]
    by_cases hid : id = requestId
    · -- The request is approved from now on, and the new fact says so.
      subst hid
      rw [if_pos rfl]
      rw [hrow] at hold
      cases hold
      refine ⟨row', rfl, hhash.trans hplain, fun hnone => absurd hnone happroved, fun hall => ?_⟩
      exact absurd (List.mem_append_right _ (List.mem_singleton_self _)) (hall organizationId)
    · rw [if_neg hid]
      refine ⟨old, hold, hplain, hiff.trans ?_⟩
      constructor
      · intro hall other hmem
        rcases List.mem_append.mp hmem with hmem | hmem
        · exact hall other hmem
        · cases List.mem_singleton.mp hmem
          exact hid rfl
      · exact fun hall other hmem => hall other (List.mem_append_left _ hmem)
  · intro id other hmem
    rw [hfind]
    split
    · simp
    · rename_i hid
      rcases List.mem_append.mp hmem with hmem | hmem
      · exact h.approved id other hmem
      · cases List.mem_singleton.mp hmem
        exact absurd rfl hid

/-- A statement keeps the facts fitting, with the fact that it establishes. -/
theorem FactsFit.effect (h : FactsFit db log) (heffect : SignupEffect ctx input pc db db') :
    FactsFit db' (log ++ (signupFact ctx input pc).toList) := by
  cases heffect with
  | kept hfact hfind =>
      rw [hfact, Option.toList_none, List.append_nil]
      exact h.of_eq hfind
  | created row hnew hopen hfact hfind => exact h.created hnew hopen hfact hfind
  | rejected hfact requestId row row' hrow hsame hfind =>
      rw [hfact, Option.toList_none, List.append_nil]
      exact h.rejected hrow hsame hfind
  | approved session request existingUser userId row hpc hrow horganization hfind =>
      subst hpc
      refine h.approval hrow ?_ ?_ hfind
      · rfl
      · exact Option.some_ne_none userId

end

/-! ### One approval -/

section
variable {ctx : AuthContext} {w w' : ControllerWorld} {log : List SignupFact}

/-- The invariant of a state: every review in flight satisfies its assertion, and the recorded
facts fit the database. -/
structure SignupInvariant (s : SignupState) : Prop where
  valid : signupOutline.Valid s.1
  facts : FactsFit s.1.database s.2

/-- A move that establishes an approval executes the transaction of a review. -/
theorem approved_mem_signupFacts {e : ControllerEvent} {requestId organizationId : String}
    (h : .approved requestId organizationId ∈ signupFacts ctx w e) :
    ∃ id input token method session request existingUser db' reply, e = .execute id input ∧
      w.flights.get? id = some (.waiting (.inService token method
        (.signups (.reviewCommits session request existingUser)))) ∧
      accountExecute ctx (.signups (.reviewCommits session request existingUser)) input.account
        w.database = some (db', .answered reply) ∧
      requestId = request.id ∧
      organizationId = (AdminSignupRequests.newOrganization ctx input.account request).id := by
  -- Facts come from executed statements only, and this one from the commit of an approval.
  cases e with
  | invoke call input => cases h
  | resume id input => cases h
  | execute id input =>
      simp only [signupFacts] at h
      split at h
      · rename_i token method pc hflight
        unfold operationFacts at h
        split at h
        · rename_i db' reply hexec
          rw [Option.mem_toList] at h
          unfold signupFact at h
          split at h
          · cases h
          · rename_i session request existingUser
            cases h
            exact ⟨id, input, token, method, session, request, existingUser, db', reply, rfl,
              hflight, hexec, rfl, rfl⟩
          · cases h
        · cases h
      · cases h

/-- The move of a transaction that commits, and its fact: the machine takes the step, and the log
says which organization it has made. -/
theorem approval_step {id : Nat} {input : ControllerInput} {token : Option String}
    {method : Method} {session : AuthSession} {request : SignupRequestRow}
    {existingUser : Option UserRow} {db' : Database} {reply : AccountReply}
    (hflight : w.flights.get? id = some (.waiting (.inService token method
      (.signups (.reviewCommits session request existingUser)))))
    (hexec : accountExecute ctx (.signups (.reviewCommits session request existingUser))
      input.account w.database = some (db', .answered reply)) :
    (∃ w', (controllerProgram ctx).machine.step w (.execute id input) = some w' ∧
      w'.database = db') ∧
      .approved request.id (AdminSignupRequests.newOrganization ctx input.account request).id
        ∈ signupFacts ctx w (.execute id input) := by
  constructor
  · refine ⟨{ w with
      database := db', flights := w.flights.set id
        (.ready (.inService token method (.answered reply))) }, ?_, rfl⟩
    show AsyncProgram.step (controllerProgram ctx) w (.execute id input) = _
    simp only [AsyncProgram.step, hflight]
    show ((accountExecute ctx _ input.account w.database).map _).map _ = _
    rw [hexec]
    rfl
  · simp only [signupFacts, hflight, hexec, operationFacts, signupFact, Option.toList_some]
    exact List.mem_singleton_self _

/-- The transaction promotes the account that was found to a manager of the new organization, and
leaves every other account. -/
theorem approval_promotes {session : AuthSession} {request : SignupRequestRow} {user : UserRow}
    {input : AccountInput} {db db' : Database} {reply : AccountReply}
    (h : accountStatement ctx (.signups (.reviewCommits session request (some user))) input db
      = .ok (db', reply)) :
    place db' user.id = some (.organization,
        some (AdminSignupRequests.newOrganization ctx input request).id) ∧
      ∀ k, k ≠ user.id → place db' k = place db k := by
  cases statement_effect h with
  | kept hnone hfind => cases hnone
  | created hnone row hrole hnew hfind => cases hnone
  | deleted hnone userId actor hactor hrole hother hfind hgone => cases hnone
  | wrote write row hwrite hfree hwrote =>
      cases hwrite
      obtain ⟨row', hrow', hrole, horganization⟩ := hwrote.written
      constructor
      · unfold place
        rw [hrow', Option.map_some, hrole, horganization]
      · intro k hk
        unfold place
        rw [hwrote.others k hk]

/-- The organization of a user is stored. -/
theorem organization_of_place {db : Database} {id organizationId : String} {role : UserRole}
    (h : place db id = some (role, some organizationId)) :
    db.organizations.find? organizationId ≠ none := by
  obtain ⟨row, hrow, hplace⟩ := Option.map_eq_some_iff.mp h
  have hmem : row ∈ db.users.rows := ((Table.find?_eq_some_iff _ _ _).mp hrow).1
  exact db.related.1 row hmem organizationId (Prod.mk.inj hplace).2

/-- One move is sound exactly when it meets the condition: the account that was found for a request
must be the one that made it. -/
theorem approvalSound_iff {s : SignupState} (hs : SignupInvariant s) (e : ControllerEvent) :
    ApprovalSound ctx s e ↔ ApprovesApplicant ctx s e := by
  constructor
  · intro hsound id input token method session request existingUser db' reply userId he hflight
      hexec happlied
    subst he
    obtain ⟨⟨w', hstep, hdb'⟩, hfact⟩ := approval_step hflight hexec
    obtain ⟨hpromoted, hfirst⟩ := hsound w' _ _ userId hstep hfact happlied
    rw [hdb'] at hpromoted
    obtain ⟨row, hrow, hhash, hiff⟩ := hs.facts.applied _ _ happlied
    obtain ⟨⟨stored, hstored, hsame⟩, hfound⟩ := hs.valid.flights id _ hflight
    rw [hrow] at hstored
    cases hstored
    -- The request has no password hash, so an account was found.
    cases existingUser with
    | none => exact absurd rfl (hfound (hsame.symm.trans hhash))
    | some user =>
        refine ⟨⟨row, hrow, hiff.mpr hfirst⟩, ⟨user, rfl, ?_⟩, hpromoted.free⟩
        rcases execute_cases hexec with ⟨reply', hreply, hstatement⟩ | ⟨error, heq, -⟩
        · by_contra hne
          -- The new organization would be the one of another user from before.
          have hplace := (approval_promotes hstatement).1
          rw [hpromoted.others user.id hne] at hplace
          have heffect := signupEffect hstatement
          cases heffect with
          | approved session' request' existing' userId' row' hpc hrow' hnew hfind =>
              cases hpc
              exact organization_of_place hplace hnew
          | kept hfact hfind => cases hfact
          | rejected hfact requestId row row' hrow hsame hfind => cases hfact
          | created row hnew hopen hfact hfind =>
              rcases hfact with hnone | ⟨_, hsome, -⟩
              · cases hnone
              · cases hsome
        · cases heq
  · intro happroves w' requestId organizationId userId hstep hfact happlied
    obtain ⟨id, input, token, method, session, request, existingUser, db', reply, rfl, hflight,
      hexec, rfl, rfl⟩ := approved_mem_signupFacts hfact
    obtain ⟨⟨row, hrow, hunapproved⟩, ⟨user, huser, rfl⟩, hfree⟩ :=
      happroves id input token method session request existingUser db' reply userId rfl hflight
        hexec happlied
    obtain ⟨⟨w'', hstep', hdb'⟩, -⟩ := approval_step hflight hexec
    rw [hstep] at hstep'
    cases hstep'
    cases huser
    rcases execute_cases hexec with ⟨reply', hreply, hstatement⟩ | ⟨error, heq, -⟩
    · obtain ⟨hmanages, hothers⟩ := approval_promotes hstatement
      rw [hdb']
      refine ⟨⟨hfree, hmanages, hothers⟩, ?_⟩
      obtain ⟨row', hrow', -, hiff⟩ := hs.facts.applied _ _ happlied
      rw [show s.1.database.findSignupRequest request.id = some row from hrow] at hrow'
      cases hrow'
      exact hiff.mp hunapproved
    · cases heq

/-- Every move keeps the invariant: the log fits the database, and the calls hold rows that were
stored. -/
theorem step_signupInvariant (s : SignupState) (e : ControllerEvent) (s' : SignupState)
    (hs : SignupInvariant s) (h : (signupMachine ctx).step s e = some s') :
    SignupInvariant s' := by
  obtain ⟨hstep, hlog⟩ := Machine.logging_step.mp h
  refine ⟨Outline.step_valid (signupOutline_proved ctx) _ _ _ hs.valid hstep, ?_⟩
  rw [hlog]
  rcases AsyncProgram.step_cases hstep with
    ⟨call, input, m, o, rfl, -, hs'⟩ | ⟨id, input, pc, d, ready, rfl, hflight, hexec, hs'⟩ |
    ⟨id, input, reply, m, o, rfl, -, -, hs'⟩
  · -- The start and the end of a call write nothing and add no fact.
    rw [hs', World.conclude_database]
    show FactsFit s.1.database (s.2 ++ [])
    rw [List.append_nil]
    exact hs.facts
  · rw [hs']
    show FactsFit d (s.2 ++ signupFacts ctx s.1 (.execute id input))
    rcases controllerExecute_cases hexec with
      ⟨heffect, hpc, -⟩ | ⟨token, method, pc', reply, rfl, rfl, haccount⟩
    · have hnone : signupFacts ctx s.1 (.execute id input) = [] := by
        cases pc with
        | inService token method pc' => exact absurd rfl (hpc token method pc')
        | _ => simp only [signupFacts, hflight]
      rw [hnone, List.append_nil]
      cases heffect with
      | placed h => exact hs.facts.of_eq (findSignupRequest_of_eq (by rw [h.tables]))
      | registered row hrole hfree hnew htables hfind =>
          exact hs.facts.of_eq (findSignupRequest_of_eq (by rw [htables]))
    · -- The statement of a service adds the facts of its answer.
      have hfacts : signupFacts ctx s.1 (.execute id input)
          = operationFacts ctx input.account pc' (some (d, reply)) := by
        simp only [signupFacts, hflight, haccount]
      rw [hfacts]
      rcases execute_cases haccount with ⟨value, rfl, hstatement⟩ | ⟨error, rfl, rfl⟩
      · exact hs.facts.effect (signupEffect hstatement)
      · show FactsFit s.1.database (s.2 ++ [])
        rw [List.append_nil]
        exact hs.facts
  · rw [hs', World.conclude_database]
    show FactsFit s.1.database (s.2 ++ [])
    rw [List.append_nil]
    exact hs.facts

end

/-- The exact condition. Start with any sessions and any database. In a run, every approval
of a request that a registered user has made in the run promotes this user, who has no
organization, and creates the first organization for the request, if and only if every
approval that commits finds its applicant. -/
theorem approval_sound_iff (ctx : AuthContext) (memory : AuthMemory) (db : Database)
    (es : List ControllerEvent) :
    (signupMachine ctx).Meets (ApprovalSound ctx) ({ memory, database := db }, []) es ↔
      (signupMachine ctx).Meets (ApprovesApplicant ctx) ({ memory, database := db }, []) es := by
  have hinitial : SignupInvariant ({ memory, database := db }, []) :=
    ⟨signupOutline.valid_initial trivial,
      ⟨fun _ _ hmem => (by cases hmem), fun _ _ hmem => (by cases hmem)⟩⟩
  exact ⟨Machine.meets_of_meets step_signupInvariant
      (fun s e hs => (approvalSound_iff hs e).mp) es _ hinitial,
    Machine.meets_of_meets step_signupInvariant
      (fun s e hs => (approvalSound_iff hs e).mpr) es _ hinitial⟩

/-! ### An e-mail that moves to another account -/

/-- A registered user without an organization. -/
def founderRow : UserRow where
  id := "user_c0a1"
  email := "kim@example.com"
  passwordHash := "pbkdf2-sha256$310000$c2FsdA$aGFzaA"
  name := "Kim"
  role := .candidate
  passwordChangedAt := some 1784332800000
  createdAt := 1784332800000

/-- The operator and the registered user. -/
def founderDatabase : Database where
  users := ⟨[operatorRow, founderRow], by decide⟩
  organizations := .single operatorOrganization
  unique := by decide
  related := by decide

/-- The session of the registered user. -/
def founderSession : AuthSession where
  token := "session_1c2d3e4f"
  user := toUser founderRow
  organization := toOrganization none

/-- The clock of the example, a minute after the rows were written. -/
def exampleClock : Clock := ⟨1784332860000, 0⟩

/-- The operator and the registered user have signed in. -/
def founderMemory : AuthMemory where
  registry := (AuthSessionRegistry.set sessionOptions
    (AuthSessionRegistry.set sessionOptions {} exampleClock operatorSession.token operatorSession)
    exampleClock founderSession.token founderSession)

/-- One statement of call `id`, and the segment after it. -/
def turn (id : Nat) (uuids : String × String × String := ("", "", "")) : List ControllerEvent :=
  [.execute id { account := { uuid := uuids.1, secondUuid := uuids.2.1, thirdUuid := uuids.2.2 } },
    .resume id { auth := { dateNow := 1784332860000, clock := exampleClock, uuid := uuids.1,
                           secondClock := exampleClock },
                 account := { uuid := uuids.1 } }]

/-- A request to the controller, up to the end of `me`. -/
def requestWith (id : Nat) (token : String) (method : Method) : List ControllerEvent :=
  [.invoke (.request (some ("Bearer " ++ token)) method) { auth := { clock := exampleClock } }] ++
    turn id ++ turn id

/-- The user applies for a new organization. -/
def application : List ControllerEvent :=
  requestWith 0 founderSession.token (.createOrganizationCreationRequest
      { organizationName := "Labs", reason := "exams" }) ++
    turn 0 ("5b7c9d1e-2f3a", "", "") ++ turn 0 ++ turn 0

/-- The operator gives the user's account another e-mail, in the operator's organization. -/
def emailEdited : List ControllerEvent :=
  requestWith 1 operatorSession.token (.update founderRow.id
      { name := "Kim", email := "kim@platform.example.com", role := .proctor,
        organizationId := some operatorOrganization.id }) ++
    turn 1 ++ turn 1 ++ turn 1 ++ turn 1

/-- Somebody registers with the e-mail that is free again. -/
def emailRegistered : List ControllerEvent :=
  [.invoke (.auth (.register
      { name := "Lee", email := founderRow.email, password := "Correct-Horse-7",
        privacyConsentAccepted := true,
        privacyPolicyVersion := Dcvp.Shared.currentPrivacyPolicyVersion })) {}] ++
    turn 2 ("d5e6f7a8-9b0c", "", "") ++ turn 2 ++ turn 2 ("session-of-lee", "", "")

/-- The operator approves the request, up to its transaction. -/
def approvalReached : List ControllerEvent :=
  requestWith 3 operatorSession.token
      (.reviewSignupRequest "signup_5b7c9d1e-2f3" { action := "APPROVE" }) ++
    turn 3 ++ turn 3

/-- The transaction of the approval. -/
def approvalCommits : ControllerEvent :=
  .execute 3 { account := { uuid := "0f1e2d3c-4b5a", secondUuid := "9a8b7c6d-5e4f" } }

/-- The run up to the approval, and what the transaction does. -/
theorem emailMoved_run :
    ((signupMachine productionContext).run
      ({ memory := founderMemory, database := founderDatabase }, [])
      (application ++ emailEdited ++ emailRegistered ++ approvalReached)).any (fun s =>
        decide (s.2 = [.applied "signup_5b7c9d1e-2f3" founderRow.id]) &&
        decide (signupFacts productionContext s.1 approvalCommits
          = [.approved "signup_5b7c9d1e-2f3" "org_0f1e2d3c-4b5"]) &&
        ((controllerProgram productionContext).machine.step s.1 approvalCommits).any fun w' =>
          decide (place w'.database "user_d5e6f7a8-9b0"
            ≠ place s.1.database "user_d5e6f7a8-9b0")) = true := by
  decide +kernel

/-- The approval makes somebody else the manager of the organization that the user has applied
for. -/
theorem approval_promotes_other_account :
    ¬ (signupMachine productionContext).Meets (ApprovalSound productionContext)
      ({ memory := founderMemory, database := founderDatabase }, [])
      (application ++ emailEdited ++ emailRegistered ++ approvalReached ++
        [approvalCommits]) := by
  intro hmeets
  obtain ⟨s, hs, hcheck⟩ := (Option.any_eq_true _ _).mp emailMoved_run
  simp only [Bool.and_eq_true, decide_eq_true_eq] at hcheck
  obtain ⟨⟨hlog, hfacts⟩, hstep⟩ := hcheck
  obtain ⟨w', hw', hplace⟩ := (Option.any_eq_true _ _).mp hstep
  rw [decide_eq_true_eq] at hplace
  have hsound := Machine.Meets.at hmeets hs w' "signup_5b7c9d1e-2f3" "org_0f1e2d3c-4b5"
    founderRow.id hw' (by rw [hfacts]; exact List.mem_singleton_self _)
    (by rw [hlog]; exact List.mem_singleton_self _)
  exact hplace (hsound.1.others "user_d5e6f7a8-9b0" (by decide))

end Dcvp.Proofs
