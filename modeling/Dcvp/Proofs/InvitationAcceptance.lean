import Dcvp.Lib.Race
import Dcvp.Proofs.GrantedRoles
import Dcvp.Proofs.TenantProtection

/-!
# `Dcvp.Proofs.InvitationAcceptance`: one user and several acceptances

`acceptInvitation` looks at the invitation before its transaction, and trusts nothing of what
it has seen: both updates of the transaction carry their condition in the `where`. The
acceptances of one user race for the place of the user (`acceptanceRace`). The race is fair
without any guard on the operations. The first transaction that commits gives the user an
organization, and each later one finds no row to claim and rolls back.

The two updates run as one step here. PostgreSQL gives this order by itself: the first update
of a transaction locks the row of the user until the transaction ends, and the other
transactions of this user wait for the lock or find that the row no longer matches.

`toInvitation` refuses a stored role that is not `ORGANIZATION` or `PROCTOR`, after the
commit. The account services store no such invitation (`rolesInvitable_run`), so the race is about
the database that a run of them has left.
-/

set_option autoImplicit false

namespace Dcvp.Proofs

open Dcvp.Lib
open Dcvp.Services
open Dcvp.Services.OrganizationInvitations (joinOrganization)
open Dcvp.Shared (AuthSession UserRole)

/-! ### The roles of the stored invitations -/

/-- Each stored invitation is for a role that `createInvitation` lets through. -/
def RolesInvitable (db : Database) : Prop :=
  ∀ invitation ∈ db.invitations.rows, Invitable invitation.requestedRole

instance (db : Database) : Decidable (RolesInvitable db) :=
  inferInstanceAs (Decidable (∀ invitation ∈ db.invitations.rows, _))

/-- Invitations for the two roles, and requests for whatever role. -/
def invitableScope : GrantScope where
  requests _ := True
  invitations := Invitable
  ofRequestForm _ _ := trivial
  ofInvitationForm _ h := h

/-- The account services store no invitation for another role. -/
theorem rolesInvitable_run (ctx : AuthContext) (memory : AccountMemory) (db : Database)
    (hdb : RolesInvitable db) (es : List AccountEvent) (w : AccountWorld)
    (h : (accountProgram ctx).machine.run { memory, database := db } es = some w) :
    RolesInvitable w.database := by
  have hstored : GrantsWithin invitableScope db := ⟨fun _ _ => trivial, hdb⟩
  exact (grantsWithin_run ctx memory db hstored es w h).invitations

/-! ### The transaction of an acceptance -/

section
variable {db db' : Database} {session : AuthSession} {invitation : InvitationRow}

/-- The second update counts one row, so the invitation is there and pending. -/
theorem claimInvitation_spec {now : Int}
    (h : OrganizationInvitations.claimInvitation session invitation now db = .ok db') :
    (∃ stored, db.findInvitation invitation.id = some stored ∧ stored.status = .pending ∧
      stored.invitedUserId = session.user.id ∧
      ∀ k, db'.findInvitation k = if k = invitation.id then
        some { stored with status := .accepted, acceptedAt := some now }
        else db.findInvitation k) ∧
      db'.users = db.users := by
  obtain ⟨⟨db₁, count⟩, hupdate, h⟩ := bind_eq_ok.mp h
  obtain ⟨htables, hcount⟩ := Database.tables_of_updateInvitations hupdate
  simp only [] at h
  split at h
  · cases h
  · rename_i hone
    cases h
    -- One row was counted, so one row has matched: the invitation, pending, of this user.
    have hpos : 0 < db.invitations.count fun i => decide
        (i.id = invitation.id ∧ i.invitedUserId = session.user.id ∧ i.status = .pending) := by
      omega
    obtain ⟨stored, hmem, hstored⟩ := List.countP_pos_iff.mp hpos
    obtain ⟨hid, huser, hpending⟩ := of_decide_eq_true hstored
    have hfound : db.findInvitation invitation.id = some stored := by
      rw [← hid]
      exact Table.find?_of_mem hmem
    refine ⟨⟨stored, hfound, hpending, huser, fun k => ?_⟩, by rw [htables]⟩
    have hfind := Table.find?_updateMany db.invitations
      (fun i => decide
        (i.id = invitation.id ∧ i.invitedUserId = session.user.id ∧ i.status = .pending))
      (fun i => { i with status := .accepted, acceptedAt := some now }) (fun _ => rfl) k
    show db'.invitations.find? k = _
    rw [htables]
    refine hfind.trans ?_
    by_cases hk : k = invitation.id
    · have hfound' : db.invitations.find? k = some stored := by rw [hk]; exact hfound
      rw [hfound', if_pos hk]
      simp [hid, huser, hpending]
    · rw [if_neg hk]
      show Option.map _ (db.findInvitation k) = db.findInvitation k
      cases hi : db.findInvitation k with
      | none => rfl
      | some i =>
          have hne : i.id ≠ invitation.id := by
            rw [Table.key_of_find? hi]
            exact hk
          simp [hne]

/-- A transaction that commits found the user without an organization and the invitation
pending. It gives the user the place of the invitation, marks the invitation as accepted, and
answers its row. -/
theorem acceptTransaction_spec {now : Int} {accepted : Database.IncludedInvitation}
    (h : OrganizationInvitations.acceptTransaction session invitation now db
      = .ok (db', accepted)) :
    (∃ user, db.findUser session.user.id = some user ∧ user.organizationId = none) ∧
      (∃ stored, db.findInvitation invitation.id = some stored ∧ stored.status = .pending ∧
        stored.invitedUserId = session.user.id ∧
        accepted.invitation = { stored with status := .accepted, acceptedAt := some now }) ∧
      (∀ k, db'.findUser k = (db.findUser k).map (joining session.user.id invitation)) ∧
      ∀ k, db'.findInvitation k = if k = invitation.id then some accepted.invitation
        else db.findInvitation k := by
  obtain ⟨db₁, huser, h⟩ := bind_eq_ok.mp h
  obtain ⟨db₂, hinvitation, h⟩ := bind_eq_ok.mp h
  obtain ⟨accepted', hread, h⟩ := bind_eq_ok.mp h
  cases h
  -- The user is claimed first, then the invitation; each claim writes its own table only.
  obtain ⟨hfree, husers, hsame⟩ := claimUser_spec huser
  obtain ⟨⟨stored, hfound, hpending, hinvited, hfind⟩, hkept⟩ := claimInvitation_spec hinvitation
  have hsame' : ∀ k, db₁.findInvitation k = db.findInvitation k := by
    intro k
    show db₁.invitations.find? k = db.invitations.find? k
    rw [hsame]
  -- What is read back is the row that the claim has written.
  have hrow : accepted.invitation = { stored with status := .accepted, acceptedAt := some now } := by
    unfold OrganizationInvitations.readAccepted at hread
    rw [hfind, if_pos rfl] at hread
    simp only [Database.includeOrganization] at hread
    split at hread
    · cases hread
      rfl
    · cases hread
  refine ⟨hfree, ⟨stored, by rw [← hsame']; exact hfound, hpending, hinvited, hrow⟩,
    fun k => ?_, fun k => ?_⟩
  · rw [findUser_of_users hkept, husers]
  · rw [hfind, hrow, hsame']

end

/-! ### The race for the place of the user -/

/-- An invitation of the user was accepted, and nothing else happened since `before`: the
user has the organization and the role of the invitation, and its row says `ACCEPTED`. -/
structure Accepted (before : Database) (userId : String) (accepted : InvitationRow)
    (now : Database) : Prop where
  pending : ∃ stored, before.findInvitation accepted.id = some stored ∧
    stored.status = .pending ∧ stored.invitedUserId = userId ∧
    accepted = { stored with status := .accepted, acceptedAt := accepted.acceptedAt }
  free : ∃ user, before.findUser userId = some user ∧ user.organizationId = none
  users : ∀ k, now.findUser k = (before.findUser k).map (joining userId accepted)
  invitations : ∀ k, now.findInvitation k
    = if k = accepted.id then some accepted else before.findInvitation k

/-- The call is an acceptance by the user. -/
def IsAcceptanceBy (userId : String) : AccountCall → Prop
  | .invitations session (.acceptInvitation _) => session.user.id = userId
  | _ => False

instance (userId : String) : DecidablePred (IsAcceptanceBy userId) := by
  intro call
  unfold IsAcceptanceBy
  split <;> infer_instance

/-- Only acceptances by the user are made. -/
def acceptanceGuard (userId : String) :
    Guard Database AccountCall AccountWaiting AccountInput where
  calls := IsAcceptanceBy userId
  operations _ _ _ := True

/-- An acceptance up to its transaction: the invitation that was read as pending is the
stored one. -/
def AcceptanceWaits (before : Database) (userId : String) : AccountWaiting → Prop
  | .invitations session (.acceptReads _) => session.user.id = userId
  | .invitations session (.acceptCommits invitation) =>
      session.user.id = userId ∧ before.findInvitation invitation.id = some invitation
  | _ => False

/-- The replies of the two statements of an acceptance. -/
def AcceptanceHolds (before : Database) (userId : String) : AccountReady → Prop
  | .answered (.invitations session (.invitationRead invitation)) =>
      session.user.id = userId ∧ ∀ i, invitation = some i → i.status = .pending →
        before.findInvitation i.id = some i
  | .answered (.invitations _ (.written row _)) =>
      Invitable row.invitation.requestedRole ∧ row.invitation.status = .accepted
  | .failed pc _ => AcceptanceWaits before userId pc
  | _ => False

/-- The invitation that the transaction of an acceptance has accepted. -/
def acceptedInvitation : AccountReady → Option InvitationRow
  | .answered (.invitations _ (.written row _)) => some row.invitation
  | _ => none

/-- The acceptances of one user race for the place of the user. -/
def acceptanceRace (before : Database) (userId : String) :
    Race Database AccountWaiting AccountReady AccountResult InvitationRow where
  Open db := (∀ k, db.findUser k = before.findUser k) ∧
    ∀ k, db.findInvitation k = before.findInvitation k
  Taken := Accepted before userId
  Waits := AcceptanceWaits before userId
  Holds := AcceptanceHolds before userId
  taken := acceptedInvitation
  Succeeds result := ∃ value, result = .ok value
  Returned accepted result := ∃ invitation, result = .ok (.invitation invitation) ∧
    invitation.id = accepted.id ∧ invitation.status = .accepted

section
variable {ctx : AuthContext} {before db db' : Database} {userId : String}

/-- After the read an acceptance goes on with a pending invitation of the user. -/
theorem acceptAfterRead_eq_ok {session : AuthSession} {invitation : Option InvitationRow}
    {pc : OrganizationInvitations.Waiting}
    (h : OrganizationInvitations.acceptAfterRead session invitation = .ok pc) :
    ∃ i, invitation = some i ∧ i.status = .pending ∧ pc = .acceptCommits i := by
  cases invitation with
  | none => cases h
  | some i =>
      simp only [OrganizationInvitations.acceptAfterRead] at h
      split at h
      · cases h
      · split at h
        · cases h
        · rename_i hpending
          cases h
          exact ⟨i, rfl, not_not.mp hpending, rfl⟩

/-- The transaction of an acceptance that has read its invitation: it accepts the invitation as it
was at first, and the user joins the organization. -/
theorem accepted_of_transaction {session : AuthSession} {invitation : InvitationRow} {now : Int}
    {accepted : Database.IncludedInvitation} (hroles : RolesInvitable before)
    (hbefore : before.findInvitation invitation.id = some invitation)
    (hrow : ∀ i, db.findInvitation invitation.id = some i → i.status = .pending →
      before.findInvitation invitation.id = some i)
    (h : OrganizationInvitations.acceptTransaction session invitation now db
      = .ok (db', accepted)) :
    (Invitable accepted.invitation.requestedRole ∧ accepted.invitation.status = .accepted) ∧
      (∃ user, db.findUser session.user.id = some user ∧ user.organizationId = none) ∧
      (∃ stored, before.findInvitation accepted.invitation.id = some stored ∧
        stored.status = .pending ∧ stored.invitedUserId = session.user.id ∧
        accepted.invitation = { stored with
          status := .accepted, acceptedAt := accepted.invitation.acceptedAt }) ∧
      (∀ k, db'.findUser k
        = (db.findUser k).map (joining session.user.id accepted.invitation)) ∧
      ∀ k, db'.findInvitation k = if k = accepted.invitation.id then some accepted.invitation
        else db.findInvitation k := by
  obtain ⟨hfree, ⟨stored, hstored, hpending, hinvited, haccepted⟩, husers, hfind⟩ :=
    acceptTransaction_spec h
  -- The invitation was pending when it was read and is pending now: it is the same row.
  have hsame : before.findInvitation invitation.id = some stored := hrow _ hstored hpending
  have hinvitation : stored = invitation := Option.some.inj (hsame.symm.trans hbefore)
  subst hinvitation
  have hid : accepted.invitation.id = stored.id := by rw [haccepted]
  have hjoining : joining session.user.id accepted.invitation
      = joining session.user.id stored := by
    rw [haccepted]
    rfl
  refine ⟨⟨?_, by rw [haccepted]⟩, hfree, ⟨stored, ?_, hpending, hinvited, ?_⟩,
    fun k => ?_, fun k => ?_⟩
  · rw [haccepted]
    exact hroles stored ((Table.find?_eq_some_iff _ _ _).mp hbefore).1
  · rw [hid]
    exact hbefore
  · rw [haccepted]
  · rw [hjoining]
    exact husers k
  · rw [hid]
    exact hfind k

/-- The statements of an acceptance: a read, or a transaction that found the user free, or a
statement that has thrown. -/
theorem acceptance_execute_cases {pc : AccountWaiting} {input : AccountInput}
    {ready : AccountReady} (hroles : RolesInvitable before)
    (hwaits : AcceptanceWaits before userId pc)
    (hrow : ∀ id i, db.findInvitation id = some i → i.status = .pending →
      before.findInvitation id = some i)
    (h : accountExecute ctx pc input db = some (db', ready)) :
    AcceptanceHolds before userId ready ∧
      (acceptedInvitation ready = none ∧ db' = db ∨
        ∃ accepted, acceptedInvitation ready = some accepted ∧
          (∃ user, db.findUser userId = some user ∧ user.organizationId = none) ∧
          (∃ stored, before.findInvitation accepted.id = some stored ∧
            stored.status = .pending ∧ stored.invitedUserId = userId ∧
            accepted = { stored with status := .accepted, acceptedAt := accepted.acceptedAt }) ∧
          (∀ k, db'.findUser k = (db.findUser k).map (joining userId accepted)) ∧
          ∀ k, db'.findInvitation k
            = if k = accepted.id then some accepted else db.findInvitation k) := by
  rcases execute_cases h with ⟨reply, rfl, hstatement⟩ | ⟨error, rfl, rfl⟩
  · cases pc with
    | invitations session pc =>
        obtain ⟨⟨db₁, r⟩, hinvitations, heq⟩ := map_eq_ok.mp hstatement
        cases heq
        cases pc with
        | acceptReads invitationId =>
            simp only [OrganizationInvitations.statement] at hinvitations
            split at hinvitations
            · cases hinvitations
              exact ⟨⟨hwaits, fun i hi => by cases hi⟩, Or.inl ⟨rfl, rfl⟩⟩
            · rename_i i hfind
              obtain ⟨_, -, heq⟩ := bind_eq_ok.mp hinvitations
              cases heq
              refine ⟨⟨hwaits, fun i' hi' hpending => ?_⟩, Or.inl ⟨rfl, rfl⟩⟩
              cases hi'
              -- The read finds the invitation as it was at first, if it is still pending.
              have hkey : i.id = invitationId := Table.key_of_find? hfind
              rw [hkey]
              exact hrow invitationId i hfind hpending
        | acceptCommits invitation =>
            obtain ⟨hsession, hbefore⟩ := hwaits
            subst hsession
            obtain ⟨⟨db₂, accepted⟩, htransaction, heq⟩ := bind_eq_ok.mp hinvitations
            cases heq
            obtain ⟨hholds, hrest⟩ := accepted_of_transaction hroles hbefore
              (hrow invitation.id) htransaction
            exact ⟨hholds, Or.inr ⟨_, rfl, hrest⟩⟩
        | _ => exact hwaits.elim
    | _ => exact hwaits.elim
  · exact ⟨hwaits, Or.inl ⟨rfl, rfl⟩⟩

/-- The segments between the statements of an acceptance: without a claimed invitation the call
does not succeed, and with one it answers with this invitation. -/
theorem acceptanceRace_resume {reply : AccountReady} {input : AccountInput}
    {m m' : AccountMemory} {o : Outcome AccountWaiting AccountResult}
    (hholds : AcceptanceHolds before userId reply)
    (h : accountResume ctx reply input m = some (m', o)) :
    (∀ pc, o = .suspended pc →
        AcceptanceWaits before userId pc ∧ acceptedInvitation reply = none) ∧
      ∀ result, o = .finished result →
        (acceptedInvitation reply = none → ¬ ∃ value, result = .ok value) ∧
        ∀ accepted, acceptedInvitation reply = some accepted →
          ∃ invitation, result = .ok (.invitation invitation) ∧ invitation.id = accepted.id ∧
            invitation.status = .accepted := by
  cases reply with
  | failed pc error =>
      cases pc with
      | invitations session pc =>
          cases h
          refine ⟨fun pc hpc => (by cases hpc), fun result hresult => ⟨fun _ => ?_, ?_⟩⟩
          · rintro ⟨value, rfl⟩
            cases hresult
          · intro accepted haccepted
            cases haccepted
      | _ => exact hholds.elim
  | answered reply =>
      cases reply with
      | invitations session reply =>
          cases reply with
          | invitationRead invitation =>
              cases h
              -- The check behind the read lets only a pending invitation pass, which the
              -- transaction then claims.
              refine ⟨fun pc hpc => ⟨?_, rfl⟩, fun result hresult => ⟨fun _ => ?_, ?_⟩⟩
              · obtain ⟨pc', hpc', rfl⟩ := liftOutcome_eq_suspended hpc
                obtain ⟨i, hi, hpending, rfl⟩ :=
                  acceptAfterRead_eq_ok (awaitOrThrow_eq_suspended.mp hpc')
                exact ⟨hholds.1, hholds.2 i hi hpending⟩
              · obtain ⟨error, rfl⟩ := finished_liftOutcome_awaitOrThrow hresult
                rintro ⟨value, hvalue⟩
                cases hvalue
              · intro accepted haccepted
                cases haccepted
          | written row email =>
              obtain ⟨hrole, hstatus⟩ := hholds
              -- The transaction is over. The answer is the stored invitation, whose role can be
              -- answered.
              obtain ⟨invitation, hinvitation, hid, hsame⟩ := toInvitation_of_invitable email hrole
              cases h
              refine ⟨fun pc hpc => (by cases hpc), fun result hresult => ⟨fun hnone => ?_, ?_⟩⟩
              · cases hnone
              · intro accepted haccepted
                cases haccepted
                cases hresult
                rw [hinvitation]
                exact ⟨invitation, rfl, hid, hsame.trans hstatus⟩
          | _ => exact hholds.elim
      | _ => exact hholds.elim

end

/-- A user who has accepted is in the organization of the invitation. -/
theorem Accepted.user {before now : Database} {userId : String} {accepted : InvitationRow}
    (h : Accepted before userId accepted now) :
    ∃ user, before.findUser userId = some user ∧
      now.findUser userId = some (joinOrganization accepted user) := by
  obtain ⟨user, huser, -⟩ := h.free
  refine ⟨user, huser, ?_⟩
  have hid : user.id = userId := Table.key_of_find? huser
  rw [h.users, huser]
  simp [joining, hid]

/-- The race of the acceptances is fair, without a guard on the operations: only the claiming
transaction takes the user's place. -/
theorem acceptanceRace_fair (ctx : AuthContext) (before : Database) (userId : String)
    (hroles : RolesInvitable before) :
    (acceptanceRace before userId).Fair (accountProgram ctx) (acceptanceGuard userId) where
  start call input m m' o hcall h := by
    obtain ⟨-, heq⟩ := Option.ite_none_right_eq_some.mp h
    cases heq
    cases call with
    | invitations session call =>
        cases call with
        | acceptInvitation invitationId =>
            refine ⟨fun pc hpc => ?_, fun result hresult => ?_⟩
            · cases hpc
              exact hcall
            · cases hresult
        | createInvitation data => exact hcall.elim
    | _ => exact hcall.elim
  openMoves pc input d d' reply hopen hwaits _ h := by
    -- Nobody has joined yet, so the tables are as they were at first.
    obtain ⟨husers, hinvitations⟩ := hopen
    have hrow : ∀ id i, d.findInvitation id = some i → i.status = .pending →
        before.findInvitation id = some i := by
      intro id i hi _
      rw [← hinvitations]
      exact hi
    obtain ⟨hholds, ⟨hnone, rfl⟩ | ⟨accepted, haccepted, hfree, hpending, husers', hfind⟩⟩ :=
      acceptance_execute_cases hroles hwaits hrow h
    · refine ⟨hholds, fun _ => ⟨husers, hinvitations⟩, fun accepted hsome => ?_⟩
      replace hsome : acceptedInvitation reply = some accepted := hsome
      rw [hnone] at hsome
      cases hsome
    · refine ⟨hholds, fun hnone => ?_, fun accepted' hsome => ?_⟩
      · replace hnone : acceptedInvitation reply = none := hnone
        rw [hnone] at haccepted
        cases haccepted
      · replace hsome : acceptedInvitation reply = some accepted' := hsome
        rw [haccepted] at hsome
        cases hsome
        refine ⟨hpending, by rw [← husers]; exact hfree, fun k => ?_, fun k => ?_⟩
        · rw [husers', husers]
        · rw [hfind, hinvitations]
  takenMoves accepted pc input d d' reply htaken hwaits _ h := by
    have hrow : ∀ id i, d.findInvitation id = some i → i.status = .pending →
        before.findInvitation id = some i := by
      intro id i hi hpending
      rw [htaken.invitations] at hi
      split at hi
      · -- The accepted invitation is not pending.
        cases hi
        obtain ⟨stored, -, -, -, hrow⟩ := htaken.pending
        rw [hrow] at hpending
        cases hpending
      · exact hi
    obtain ⟨hholds, ⟨hnone, rfl⟩ | ⟨accepted', -, ⟨user, huser, hfree⟩, -⟩⟩ :=
      acceptance_execute_cases hroles hwaits hrow h
    · exact ⟨hholds, hnone, htaken⟩
    · -- The user has an organization by now, so the first update finds no row.
      obtain ⟨old, -, hnow⟩ := htaken.user
      rw [hnow] at huser
      cases huser
      cases hfree
  resume reply input m m' o hholds h := acceptanceRace_resume hholds h

/-- The acceptances of one user, in any interleaving and over any invitations. They find the
database that some run of the account services has left, whose first database has invitations for
the two roles only.
* At most one of them succeeds.
* If one succeeds, the user has the organization and the role of its invitation, which is the only
  one that was accepted.
* No move of a call that fails changes the users or the invitations. -/
theorem invitation_acceptance_exclusive (ctx : AuthContext) (first : Database)
    (hroles : RolesInvitable first) (memory₀ : AccountMemory) (earlier : List AccountEvent)
    (w₀ : AccountWorld)
    (hearlier : (accountProgram ctx).machine.run { memory := memory₀, database := first } earlier =
      some w₀)
    (memory : AccountMemory) (userId : String) (es : List AccountEvent) (w : AccountWorld)
    (hcalls : ∀ e ∈ es, e.Invokes (IsAcceptanceBy userId))
    (hrun : (accountProgram ctx).machine.run { memory, database := w₀.database } es = some w) :
    (∀ r ∈ w.results, ∀ r' ∈ w.results, (∃ value, r.2 = .ok value) →
        (∃ value, r'.2 = .ok value) → r.1 = r'.1) ∧
      (∀ r ∈ w.results, ∀ value, r.2 = .ok value →
        ∃ invitation accepted, value = .invitation invitation ∧ invitation.id = accepted.id ∧
          Accepted w₀.database userId accepted w.database) ∧
      ∀ id error, (id, .error error) ∈ w.results →
        ∀ before input after s s', es = before ++ .execute id input :: after →
          (accountProgram ctx).machine.run { memory, database := w₀.database } before = some s →
          (accountProgram ctx).machine.step s (.execute id input) = some s' →
          (∀ k, s'.database.findUser k = s.database.findUser k) ∧
            ∀ k, s'.database.findInvitation k = s.database.findInvitation k := by
  have hstored := rolesInvitable_run ctx memory₀ first hroles earlier w₀ hearlier
  have hfair := acceptanceRace_fair ctx w₀.database userId hstored
  have hguard : (accountProgram ctx).machine.Meets (acceptanceGuard userId).Allows
      { memory, database := w₀.database } es := by
    refine Machine.meets_of_forall fun e he s => ?_
    cases e with
    | invoke call input => exact hcalls _ he
    | execute id input => exact fun _ _ => trivial
    | resume id input => trivial
  have hopen : (acceptanceRace w₀.database userId).Open w₀.database := ⟨fun _ => rfl, fun _ => rfl⟩
  have hvalid := Race.run_valid hfair hopen es w hguard hrun
  refine ⟨fun r hr r' hr' => hvalid.state.succeeds_unique hr hr', fun r hr value hvalue => ?_, ?_⟩
  · cases hvalid.state with
    | undecided h => exact absurd ⟨value, hvalue⟩ (h.results r hr)
    | decided winner accepted h =>
        obtain ⟨invitation, hresult, hid, -⟩ :=
          h.returned r hr (h.results r hr ⟨value, hvalue⟩)
        rw [hvalue] at hresult
        cases hresult
        exact ⟨invitation, accepted, rfl, hid, h.taken⟩
  · intro id error herror before input after s s' hes hbefore hstep
    rw [hes] at hguard hrun
    obtain ⟨hguard₁, hguard₂⟩ := Machine.Meets.after hguard hbefore
    obtain ⟨s₁, hs₁, hafter⟩ := (Machine.run_append_eq_some _ _ _ _).mp hrun
    rw [hbefore] at hs₁
    cases hs₁
    obtain ⟨s₂, hs₂, hafter⟩ := (Machine.run_cons_eq_some _ _ _ _).mp hafter
    have hs₂' := hs₂
    rw [hstep] at hs₂'
    cases hs₂'
    have hvalid₁ := Race.run_valid hfair hopen before s hguard₁ hbefore
    cases hvalid₁.state with
    | decided winner accepted h =>
        -- The database is the one that the winner has left.
        have h' := Race.step_decided hfair hvalid₁ h hguard₂.1 hs₂
        exact ⟨fun k => by rw [h'.taken.users, h.taken.users],
          fun k => by rw [h'.taken.invitations, h.taken.invitations]⟩
    | undecided h =>
        rcases Race.step_execute_undecided hfair hvalid₁ h hguard₂.1 hs₂ with h' | ⟨accepted, h'⟩
        · exact ⟨fun k => by rw [h'.isOpen.1, h.isOpen.1],
            fun k => by rw [h'.isOpen.2, h.isOpen.2]⟩
        · -- This call would be the winner, and the winner does not fail.
          have hvalid₂ := Race.step_valid hfair s _ s' hvalid₁ hguard₂.1 hs₂
          have hwon := Race.run_decided hfair after s' w hvalid₂ h' (hguard₂.2 s' hs₂) hafter
          obtain ⟨invitation, hresult, -⟩ := hwon.returned _ herror rfl
          cases hresult

/-! ### Two invitations and one user -/

/-- An invitation of the applicant by one of the two organizations. -/
def exampleInvitation (id organizationId : String) (role : UserRole) : InvitationRow where
  id := id
  token := "token_" ++ id
  organizationId := organizationId
  invitedUserId := "user_c0a1"
  requestedRole := role
  invitedById := "user_a1b2"
  createdAt := 1784332800000

/-- Both organizations have invited the applicant. -/
def invitedTwice : Database where
  toTables := { twoTenants.toTables with
    invitations := ⟨[exampleInvitation "org_invite_1" "org_a" .proctor,
      exampleInvitation "org_invite_2" "org_b" .organization], by decide⟩ }
  unique := by decide
  related := by decide

/-- The applicant has signed in. -/
def applicantMemory : AccountMemory where
  sessions := [tenantSession applicantRow]

/-- The applicant accepts both invitations at once. -/
def overlappingAcceptances : List AccountEvent :=
  [.invoke (.invitations (tenantSession applicantRow) (.acceptInvitation "org_invite_1")) {},
    .invoke (.invitations (tenantSession applicantRow) (.acceptInvitation "org_invite_2")) {},
    .execute 0 {}, .execute 1 {}, .resume 0 {}, .resume 1 {}, .execute 1 {}, .execute 0 {},
    .resume 0 {}, .resume 1 {}]

/-- The run: the second acceptance commits first and succeeds, the first one fails. -/
theorem invitation_acceptance_exclusive_two :
    ∃ w, (accountProgram productionContext).machine.run
        { memory := applicantMemory, database := invitedTwice } overlappingAcceptances = some w ∧
      (∀ r ∈ w.results, ∀ r' ∈ w.results, (∃ value, r.2 = .ok value) →
        (∃ value, r'.2 = .ok value) → r.1 = r'.1) ∧
      (∀ r ∈ w.results, ∀ value, r.2 = .ok value →
        ∃ invitation accepted, value = .invitation invitation ∧ invitation.id = accepted.id ∧
          Accepted invitedTwice "user_c0a1" accepted w.database) := by
  have hrun : ((accountProgram productionContext).machine.run
      { memory := applicantMemory, database := invitedTwice }
      overlappingAcceptances).isSome := by
    decide +kernel
  obtain ⟨w, hw⟩ := Option.isSome_iff_exists.mp hrun
  have hexclusive := invitation_acceptance_exclusive productionContext invitedTwice
    (by decide +kernel) applicantMemory [] { memory := applicantMemory, database := invitedTwice }
    rfl applicantMemory "user_c0a1" overlappingAcceptances w (by decide +kernel) hw
  exact ⟨w, hw, hexclusive.1, hexclusive.2.1⟩

end Dcvp.Proofs
