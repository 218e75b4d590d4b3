import Dcvp.Proofs.ControllerSegments
import Dcvp.Proofs.RequestReview
import Dcvp.Proofs.SignupApproval

/-!
# `Dcvp.Proofs.StaleSessions`: stored sessions and the rows of their users

A session copies the role and the organization of its user. The controller ends the sessions of a
user after a commit has changed the row, or reads one session again. A sign-in reads the row in
its transaction and stores the session in a later segment, so a whole change with its
revocation fits in between. After an acceptance one session is read again, and the other
sessions of the user keep the old copy.

`PasswordFact` records what no table keeps: which sign-in has proved whose password, which
session it has opened, and when a password was replaced.

The invariant is that every stored session is up to date, or a call in flight is going to
end it or to read it again (`Covered`). A step keeps it under `KeepsCurrent`, which looks at the
three places where it can break: the store of a session, a commit, and a refresh that ends without
a write. `sessions_current` is the result for runs.
-/

set_option autoImplicit false

namespace Dcvp.Proofs

open Dcvp.Lib
open Dcvp.Services
open Dcvp.Modules.AdminUsersController
open Dcvp.Shared (AuthSession User UserRole)

/-! ### Facts about passwords -/

/-- A sign-in has proved the password of a user, it has opened a session, or the password of a user
was replaced. -/
inductive PasswordFact where
  | proved (call : Nat) (userId : String)
  | opened (call : Nat) (token : String)
  | replaced (userId : String)
  deriving DecidableEq

/-- The facts that an operation of `AuthService` establishes. -/
def operationFact (call : Nat) : Option (Database × AuthReady) → List PasswordFact
  | some (_, .loginCommitted (.success user _ _)) => [.proved call user.id]
  | some (_, .changeWritten updatedUser _) => [.replaced updatedUser.id]
  | _ => []

/-- The fact that a segment of a sign-in establishes. -/
def segmentFact (call : Nat) (input : AuthInput) : AuthReady → List PasswordFact
  | .loginCommitted (.success ..) => [.opened call (sessionToken input.uuid)]
  | _ => []

/-- The facts that a move of a call in flight establishes. -/
def flightFacts (ctx : AuthContext) (call : Nat) (input : AuthInput) (db : Database) :
    Option ControllerFlight → List PasswordFact
  | some (.waiting (.auth pc)) => operationFact call (authOperation ctx pc input db)
  | some (.ready (.auth reply)) => segmentFact call input reply
  | _ => []

/-- The facts that a move establishes. -/
def passwordFacts (ctx : AuthContext) (w : ControllerWorld) : ControllerEvent → List PasswordFact
  | .invoke .. => []
  | .execute id input | .resume id input =>
      flightFacts ctx id input.auth w.database (w.flights.get? id)

/-- The program with the facts so far. -/
def passwordMachine (ctx : AuthContext) :
    Machine (ControllerWorld × List PasswordFact) ControllerEvent :=
  (controllerProgram ctx).machine.logging (passwordFacts ctx)

/-- A sign-in has opened the session, and the password of the user that it had proved was replaced
since. -/
def Outdated (log : List PasswordFact) (token userId : String) : Prop :=
  ∃ call, .opened call token ∈ log ∧ [.proved call userId, .replaced userId].Sublist log

/-- The user has the role and the organization of the row, and no sign-in with a replaced password
has opened the session. -/
def UpToDate (db : Database) (log : List PasswordFact) (token : String) (user : User) : Prop :=
  place db user.id = some (user.role, user.organizationId) ∧ ¬ Outdated log token user.id

/-- Every stored session is up to date. -/
def SessionsCurrent (s : ControllerWorld × List PasswordFact) : Prop :=
  ∀ token session, storedSession s.1.memory token = some session →
    UpToDate s.1.database s.2 token session.user

/-- The call is one of `requireActiveSession`, and its `me` has returned. -/
def ChecksOnly : ControllerFlight → Prop
  | .waiting (.auth (.meReturns .requireActiveSession _)) | .waiting (.auth (.activeReads _))
  | .waiting (.auth (.activeMarks ..)) | .ready (.auth (.meReturned .requireActiveSession _))
  | .ready (.auth (.activeRead ..)) | .ready (.auth (.activeMarked _)) => True
  | _ => False

/-- No call is in flight, apart from those of `requireActiveSession`. -/
def Quiescent (w : ControllerWorld) : Prop :=
  ∀ id f, w.flights.get? id = some f → ChecksOnly f

/-! ### The condition of a step -/

/-- The user is up to date, or another call in flight is going to renew the session. -/
def CurrentOrRenewed (w : ControllerWorld) (log : List PasswordFact) (id : Nat)
    (new : String × User) : Prop :=
  UpToDate w.database log new.1 new.2 ∨ w.OwedElse id fun f => Renews f new.1 new.2.id

/-- The session agrees with the write, or a call in flight is going to renew it. -/
def AgreesOrRenewed (w : ControllerWorld) (id : Nat) (bearer : Option String) (pc : AccountWaiting)
    (write : RoleWrite) (token : String) (user : User) : Prop :=
  (user.role = write.role ∧ user.organizationId = some write.organizationId) ∨
    refreshedByCommit w.database bearer pc = some token ∨
    w.OwedElse id fun f => Renews f token user.id

/-- A commit that writes the role and the organization of a user is followed by the end of the
user's sessions, or each of them agrees with it or is going to be renewed. -/
def CommitRenews (ctx : AuthContext) (w : ControllerWorld) (id : Nat) (input : AccountInput)
    (bearer : Option String) (pc : AccountWaiting) : Prop :=
  Commits (accountExecute ctx pc input w.database) →
    ∀ write ∈ roleWrite ctx input pc, revokedByCommit w.database pc ≠ some write.userId →
      ∀ e ∈ w.memory.registry.sessions.entries, e.2.session.user.id = write.userId →
        AgreesOrRenewed w id bearer pc write e.1 e.2.session.user

/-- The exception of an operation that throws. -/
def thrown : Option (Database × AuthReady) → Option ServiceException
  | some (_, .failed error) => some error
  | _ => none

/-- A session whose refresh ends without a write is up to date or is going to be renewed. -/
def RefreshOptional (w : ControllerWorld) (log : List PasswordFact) (id : Nat)
    (token : Option String) : Prop :=
  ∀ t ∈ token, ∀ session ∈ storedSession w.memory t, CurrentOrRenewed w log id (t, session.user)

/-- An operation of `AuthService` that throws leaves a session that needs no refresh. -/
def RefreshFails (ctx : AuthContext) (w : ControllerWorld) (log : List PasswordFact) (id : Nat)
    (input : AuthInput) (pc : AuthWaiting) : Prop :=
  (thrown (authOperation ctx pc input w.database)).isSome →
    RefreshOptional w log id (refreshWaiting pc)

/-- A segment stores a session that is up to date or is going to be renewed. -/
def SegmentStores (ctx : AuthContext) (w : ControllerWorld) (log log' : List PasswordFact)
    (id : Nat) (input : AuthInput) (reply : AuthReady) : Prop :=
  (∀ new ∈ newSession reply input, CurrentOrRenewed w log' id new) ∧
    (ReturnsUnchanged ctx reply → RefreshOptional w log id (refreshReady reply))

/-- The condition of a move of a call in flight. -/
def FlightKeeps (ctx : AuthContext) (w : ControllerWorld) (log log' : List PasswordFact) (id : Nat)
    (input : ControllerInput) : Option ControllerFlight → Prop
  | some (.waiting (.inService bearer _ pc)) => CommitRenews ctx w id input.account bearer pc
  | some (.waiting pc) => ∀ pc' ∈ authWaiting pc, RefreshFails ctx w log id input.auth pc'
  | some (.ready ready) =>
      ∀ reply ∈ authReply ready, SegmentStores ctx w log log' id input.auth reply
  | none => True

/-- The condition of a step. A session that is stored is up to date, a commit ends or renews the
sessions that disagree with it, and a refresh that ends without a write was not needed. -/
def KeepsCurrent (ctx : AuthContext) (s : ControllerWorld × List PasswordFact) :
    ControllerEvent → Prop
  | .invoke call input =>
      ∀ new ∈ storedAtStart ctx input call, CurrentOrRenewed s.1 s.2 s.1.nextCall new
  | .execute id input =>
      FlightKeeps ctx s.1 s.2 (s.2 ++ passwordFacts ctx s.1 (.execute id input)) id input
        (s.1.flights.get? id)
  | .resume id input =>
      FlightKeeps ctx s.1 s.2 (s.2 ++ passwordFacts ctx s.1 (.resume id input)) id input
        (s.1.flights.get? id)

section
variable (ctx : AuthContext) (w : ControllerWorld) (log log' : List PasswordFact) (id : Nat)

/-- The sign-in that has opened the session under the token, if the fact is about one. -/
def openedBy (token : String) : PasswordFact → Option Nat
  | .opened call t => if t = token then some call else none
  | _ => none

/-- The property of a token, with the sign-ins that have opened it read off the log. In this form
it can be decided. -/
theorem outdated_iff (token userId : String) : Outdated log token userId ↔
    ∃ call ∈ log.filterMap (openedBy token),
      [PasswordFact.proved call userId, .replaced userId].Sublist log := by
  have hopened : ∀ call, call ∈ log.filterMap (openedBy token) ↔ .opened call token ∈ log := by
    intro call
    rw [List.mem_filterMap]
    constructor
    · rintro ⟨fact, hmem, hfact⟩
      unfold openedBy at hfact
      split at hfact
      · split at hfact
        · rename_i heq
          cases hfact
          rwa [← heq]
        · cases hfact
      · cases hfact
    · intro hmem
      exact ⟨_, hmem, by simp [openedBy]⟩
  simp only [Outdated, hopened]

instance (token userId : String) : Decidable (Outdated log token userId) :=
  decidable_of_iff _ (outdated_iff log token userId).symm

instance (db : Database) (token : String) (user : User) :
    Decidable (UpToDate db log token user) :=
  inferInstanceAs (Decidable (_ ∧ ¬ _))

instance (new : String × User) : Decidable (CurrentOrRenewed w log id new) :=
  inferInstanceAs (Decidable (_ ∨ _))

instance (bearer : Option String) (pc : AccountWaiting) (write : RoleWrite) (token : String)
    (user : User) : Decidable (AgreesOrRenewed w id bearer pc write token user) :=
  inferInstanceAs (Decidable (_ ∨ _ ∨ _))

instance (input : AccountInput) (bearer : Option String) (pc : AccountWaiting) :
    Decidable (CommitRenews ctx w id input bearer pc) := by
  unfold CommitRenews
  infer_instance

instance (token : Option String) : Decidable (RefreshOptional w log id token) := by
  unfold RefreshOptional
  infer_instance

instance (input : AuthInput) (pc : AuthWaiting) : Decidable (RefreshFails ctx w log id input pc) :=
  inferInstanceAs (Decidable (_ → _))

instance (input : AuthInput) (reply : AuthReady) :
    Decidable (SegmentStores ctx w log log' id input reply) := by
  unfold SegmentStores
  infer_instance

instance (input : ControllerInput) : DecidablePred (FlightKeeps ctx w log log' id input)
  | some (.waiting (.inService ..)) => inferInstanceAs (Decidable (CommitRenews ..))
  | some (.waiting (.auth _)) | some (.waiting (.inMe ..)) | some (.waiting (.serviceReturns ..))
  | some (.waiting (.inRefresh ..)) =>
      inferInstanceAs (Decidable (∀ pc' ∈ authWaiting _, RefreshFails ..))
  | some (.ready ready) =>
      inferInstanceAs (Decidable (∀ reply ∈ authReply ready, SegmentStores ..))
  | none => isTrue trivial

instance (s : ControllerWorld × List PasswordFact) (e : ControllerEvent) :
    Decidable (KeepsCurrent ctx s e) :=
  match e with
  | .invoke call input =>
      inferInstanceAs (Decidable (∀ new ∈ storedAtStart ctx input call, CurrentOrRenewed ..))
  | .execute _ _ => inferInstanceAs (Decidable (FlightKeeps ..))
  | .resume _ _ => inferInstanceAs (Decidable (FlightKeeps ..))

end

/-! ### Facts and segments -/

/-- What new facts can make outdated: the sessions of a user whose password is replaced, and a
session that is just opened. -/
theorem outdated_append {log facts : List PasswordFact} {token userId : String}
    (h : Outdated (log ++ facts) token userId) :
    Outdated log token userId ∨ .replaced userId ∈ facts ∨ ∃ call, .opened call token ∈ facts := by
  obtain ⟨call, hopened, hsub⟩ := h
  obtain ⟨first, last, hsplit, hfirst, hlast⟩ := List.sublist_append_iff.mp hsub
  cases last with
  | nil =>
      rw [List.append_nil] at hsplit
      rw [← hsplit] at hfirst
      rcases List.mem_append.mp hopened with hold | hnew
      · exact Or.inl ⟨call, hold, hfirst⟩
      · exact Or.inr (Or.inr ⟨call, hnew⟩)
  | cons fact last =>
      -- The replacement is the last of the two facts, so it is among the new ones.
      have hreplaced : (fact :: last).getLast (by simp) = .replaced userId := by
        have hwhole : [PasswordFact.proved call userId, .replaced userId].getLast (by simp)
            = (first ++ fact :: last).getLast (by simp) := by
          simp only [hsplit]
        rw [List.getLast_append_of_ne_nil] at hwhole
        exact hwhole.symm
      exact Or.inr (Or.inl (hlast.subset (hreplaced ▸ List.getLast_mem _)))

/-- What the facts have not made outdated stays up to date under the same row. -/
theorem UpToDate.append {db db' : Database} {log facts : List PasswordFact} {token : String}
    {user : User} (h : UpToDate db log token user) (hplace : place db' user.id = place db user.id)
    (hreplaced : .replaced user.id ∉ facts) (hopened : ∀ call, .opened call token ∉ facts) :
    UpToDate db' (log ++ facts) token user := by
  refine ⟨hplace.trans h.1, fun hout => ?_⟩
  rcases outdated_append hout with hold | hnew | ⟨call, hnew⟩
  · exact h.2 hold
  · exact hreplaced hnew
  · exact hopened call hnew

section
variable {ctx : AuthContext} {w : ControllerWorld} {log : List PasswordFact} {id : Nat}
  {input : ControllerInput} {db' : Database}

/-- An operation on the database opens no session; only a segment of a call does. -/
theorem opened_not_mem_execute {pc : ControllerWaiting} (call : Nat) (token : String) :
    .opened call token ∉ flightFacts ctx id input.auth w.database (some (.waiting pc)) := by
  cases pc with
  | auth pc =>
      show _ ∉ operationFact id _
      unfold operationFact
      split <;> simp
  | _ => simp [flightFacts]

/-- The call that has replaced a password is going to end the sessions of the user. -/
theorem revokes_of_replaced {pc : ControllerWaiting} {ready : ControllerReady} {userId : String}
    (h : controllerExecute ctx pc input w.database = some (db', ready))
    (hmem : .replaced userId ∈ flightFacts ctx id input.auth w.database (some (.waiting pc))) :
    revokes (.ready ready) = some userId := by
  cases pc with
  | auth pc =>
      obtain ⟨⟨d, reply⟩, hop, heq⟩ := Option.map_eq_some_iff.mp h
      cases heq
      replace hmem : .replaced userId ∈ operationFact id (authOperation ctx pc input.auth _) := hmem
      rw [hop] at hmem
      unfold operationFact at hmem
      split at hmem
      · rename_i hreply
        cases hreply
        simp at hmem
      · rename_i hreply
        cases hreply
        simp only [List.mem_singleton, PasswordFact.replaced.injEq] at hmem
        rw [hmem]
        rfl
      · cases hmem
  | _ => cases hmem

/-- A segment that opens a session is the one of a sign-in, under a new token. -/
theorem opened_of_resume {m' : AuthMemory} {o : Outcome ControllerWaiting ControllerResult}
    {ready : ControllerReady} (hm : SessionsOwned w.memory)
    (h : controllerResume ctx ready input w.memory = some (m', o)) {call : Nat} {token : String}
    (hmem : .opened call token ∈ flightFacts ctx id input.auth w.database (some (.ready ready))) :
    storedSession w.memory token = none := by
  -- Only a segment of `AuthService` opens a session, and its token is drawn anew.
  cases ready with
  | auth reply =>
      obtain ⟨seg, hseg, -⟩ := Option.map_eq_some_iff.mp h
      replace hmem : .opened call token ∈ segmentFact id input.auth reply := hmem
      unfold segmentFact at hmem
      split at hmem
      · cases List.mem_singleton.mp hmem
        obtain ⟨⟨memory, session⟩, hcreate, -⟩ := Option.map_eq_some_iff.mp hseg
        unfold createSession AuthMemory.randomUUID at hcreate
        split at hcreate
        · cases hcreate
        · rename_i hnew
          by_contra hstored
          have hpresent : Present w.memory.registry (sessionToken input.auth.uuid) := by
            intro hnone
            rw [storedSession_eq_view, hnone] at hstored
            exact hstored rfl
          obtain ⟨uuid, hdrawn, htoken⟩ := hm.drawn _ (Or.inl hpresent)
          rw [sessionToken_injective htoken] at hnew
          exact hnew hdrawn
      · cases hmem
  | _ => cases hmem

/-- A segment replaces no password; only an operation on the database does. -/
theorem replaced_not_mem_resume {ready : ControllerReady} (userId : String) :
    .replaced userId ∉ flightFacts ctx id input.auth w.database (some (.ready ready)) := by
  cases ready with
  | auth reply =>
      show _ ∉ segmentFact id input.auth reply
      unfold segmentFact
      split <;> simp
  | _ => simp [flightFacts]

/-! ### The commits -/

/-- A commit leaves a session agreeing with the row, or renewed by this call or another one. -/
theorem place_of_commit {bearer : Option String} {method : Method} {pc : AccountWaiting}
    {reply : AccountReply} (hserves : Serves method pc)
    (h : accountStatement ctx pc input.account w.database = .ok (db', reply))
    (hcommit : ∀ write ∈ roleWrite ctx input.account pc,
      revokedByCommit w.database pc ≠ some write.userId →
      ∀ e ∈ w.memory.registry.sessions.entries, e.2.session.user.id = write.userId →
        AgreesOrRenewed w id bearer pc write e.1 e.2.session.user)
    {token : String} {session : AuthSession}
    (hstored : storedSession w.memory token = some session)
    (hplace : place w.database session.user.id
      = some (session.user.role, session.user.organizationId)) :
    place db' session.user.id = some (session.user.role, session.user.organizationId) ∨
      Renews (.ready (.inService bearer method (.answered reply))) token session.user.id ∨
      w.OwedElse id fun f => Renews f token session.user.id := by
  -- The session is stale after the commit only when its row is written. Then it is ended, or it
  -- agrees with the new row, or a call is going to read it again.
  have hrevoked : revokedByCommit w.database pc = some session.user.id →
      Renews (.ready (.inService bearer method (.answered reply))) token session.user.id :=
    fun hcommits => Or.inl (revoked_of_commit hserves h hcommits)
  have hsame : db'.findUser session.user.id = w.database.findUser session.user.id →
      place db' session.user.id = some (session.user.role, session.user.organizationId) := by
    intro hfind
    rw [place, hfind]
    exact hplace
  cases statement_effect h with
  | kept hnone hfind => exact Or.inl (hsame (hfind _))
  | wrote write row hwrite hfree hwritten =>
      by_cases hid : session.user.id = write.userId
      · by_cases hends : revokedByCommit w.database pc = some write.userId
        · exact Or.inr (Or.inl (hrevoked (by rw [hid]; exact hends)))
        · obtain ⟨e, hmem, rfl, rfl⟩ := (storedSession_eq_some_iff _ _ _).mp hstored
          rcases hcommit write hwrite hends e hmem hid with ⟨hrole, horganization⟩ | hread | hother
          · obtain ⟨row', hrow', hrole', horganization'⟩ := hwritten.written
            refine Or.inl ?_
            rw [place, hid, hrow', Option.map_some, hrole', horganization', hrole, horganization]
          · obtain ⟨⟨invitationId, rfl⟩, ⟨value, hvalue⟩, rfl⟩ :=
              refreshed_of_commit hserves h hread
            refine Or.inr (Or.inl (Or.inr ?_))
            show (answeredValue reply).bind _ = _
            rw [hvalue]
            rfl
          · exact Or.inr (Or.inr hother)
      · exact Or.inl (hsame (hwritten.others _ hid))
  | created hnone row hrole hnew hfind =>
      refine Or.inl (hsame ?_)
      rw [hfind, if_neg]
      -- The created row is not the row of the session, which was there before.
      rintro hid
      rw [← hid, place, hnew] at hplace
      cases hplace
  | deleted hnone userId actor hactor hrole hother hfind hgone hpc =>
      by_cases hid : session.user.id = userId
      · -- A deletion ends the sessions of the user.
        obtain ⟨session', rfl⟩ := hpc
        exact Or.inr (Or.inl (hrevoked (by rw [hid]; rfl)))
      · exact Or.inl (hsame (hfind _ hid))

/-- The operations of `AuthService` leave the place of a user who has one. -/
theorem AuthEffect.place {db : Database} (h : AuthEffect db db') {userId : String}
    {role : UserRole} {organizationId : Option String}
    (hplace : place db userId = some (role, organizationId)) :
    Proofs.place db' userId = Proofs.place db userId := by
  cases h with
  | placed h => exact h.places userId
  | registered row hrole hfree hnew htables hfind =>
      unfold Proofs.place
      rw [hfind, if_neg]
      rintro rfl
      rw [Proofs.place, hnew] at hplace
      cases hplace

/-! ### One step -/

/-- The session, if it is stored, is up to date. -/
def Settled (s : ControllerWorld × List PasswordFact) (a : String × AuthSession) : Prop :=
  storedSession s.1.memory a.1 = some a.2 → UpToDate s.1.database s.2 a.1 a.2.user

/-- The call is going to renew the session. -/
def RenewsSession (f : ControllerFlight) (a : String × AuthSession) : Prop :=
  Renews f a.1 a.2.user.id

/-- Every stored session is up to date, or a call in flight is going to renew it. -/
structure SessionsCovered (s : ControllerWorld × List PasswordFact) : Prop where
  outline : controllerOutline.Valid s.1
  numbered : AsyncProgram.Numbered s.1
  covered : Covered (Settled s) RenewsSession s.1

/-- An operation keeps a session that is up to date so, or leaves it to this call or another one. -/
theorem execute_current {pc : ControllerWaiting} {ready : ControllerReady}
    (hwaits : WaitingServes pc)
    (h : controllerExecute ctx pc input w.database = some (db', ready))
    (hkeeps : FlightKeeps ctx w log (log ++ flightFacts ctx id input.auth w.database
      (some (.waiting pc))) id input (some (.waiting pc)))
    {token : String} {session : AuthSession}
    (hstored : storedSession w.memory token = some session)
    (hcurrent : UpToDate w.database log token session.user) :
    UpToDate db' (log ++ flightFacts ctx id input.auth w.database (some (.waiting pc))) token
        session.user ∨
      Renews (.ready ready) token session.user.id ∨
      w.OwedElse id fun f => Renews f token session.user.id := by
  by_cases hreplaced : .replaced session.user.id ∈
      flightFacts ctx id input.auth w.database (some (.waiting pc))
  · exact Or.inr (Or.inl (Or.inl (revokes_of_replaced h hreplaced)))
  -- Without a new password only the row counts.
  have happend : place db' session.user.id = place w.database session.user.id → _ :=
    fun hplace => hcurrent.append hplace hreplaced fun call => opened_not_mem_execute call token
  rcases controllerExecute_cases h with
    ⟨heffect, -, -⟩ | ⟨bearer, method, pc', reply, rfl, rfl, hexec⟩
  · exact Or.inl (happend (heffect.place hcurrent.1))
  · rcases execute_cases hexec with ⟨reply, rfl, hstatement⟩ | ⟨error, rfl, rfl⟩
    · have hcommits : Commits (accountExecute ctx pc' input.account w.database) := by
        rw [hexec]
        trivial
      rcases place_of_commit hwaits hstatement (hkeeps hcommits) hstored hcurrent.1 with
        hplace | hrenewed
      · exact Or.inl (happend (hplace.trans hcurrent.1.symm))
      · exact Or.inr hrenewed
    · exact Or.inl (happend rfl)

/-- A segment keeps a session from before up to date. -/
theorem resume_current {m' : AuthMemory} {o : Outcome ControllerWaiting ControllerResult}
    {ready : ControllerReady} (hm : SessionsOwned w.memory)
    (h : controllerResume ctx ready input w.memory = some (m', o)) {token : String}
    {session : AuthSession} (hstored : storedSession w.memory token = some session)
    (hcurrent : UpToDate w.database log token session.user) :
    UpToDate w.database (log ++ flightFacts ctx id input.auth w.database (some (.ready ready)))
      token session.user := by
  refine hcurrent.append rfl (replaced_not_mem_resume _) fun call hmem => ?_
  rw [opened_of_resume hm h hmem] at hstored
  cases hstored

/-- What a segment settles. -/
theorem settled_conclude {id : Nat} {m : AuthMemory}
    {o : Outcome ControllerWaiting ControllerResult} {a : String × AuthSession}
    (h : storedSession m a.1 = some a.2 → UpToDate w.database log a.1 a.2.user) :
    Settled (w.conclude id m o, log) a := by
  unfold Settled
  rw [World.conclude_memory, World.conclude_database]
  exact h

/-- The first segment of a call keeps every old session covered: it takes one away at most, or
stores one that is new. -/
theorem covered_invoke {call : ControllerCall} {m : AuthMemory}
    {o : Outcome ControllerWaiting ControllerResult} (hs : SessionsCovered (w, log))
    (hkeeps : KeepsCurrent ctx (w, log) (.invoke call input))
    (h : controllerStart ctx call input w.memory = some (m, o)) :
    Covered (Settled ({ w with nextCall := w.nextCall + 1 }.conclude w.nextCall m o, log))
      RenewsSession ({ w with nextCall := w.nextCall + 1 }.conclude w.nextCall m o) := by
  have hnew : w.flights.get? w.nextCall = none := by
    rw [Option.eq_none_iff_forall_ne_some]
    exact fun f hf => Nat.lt_irrefl _ (hs.numbered.flights w.nextCall f hf).1
  refine hs.covered.invoke hnew (w.nextCall + 1) m o fun a hsettled => ?_
  by_cases hstored : storedSession m a.1 = some a.2
  · rcases controllerStart_stores h a.1 a.2 hstored with hold | hstarted
    · exact Or.inl (settled_conclude fun _ => hsettled hold)
    · rcases hkeeps (a.1, a.2.user) hstarted with hcurrent | hother
      · exact Or.inl (settled_conclude fun _ => hcurrent)
      · exact Or.inr (Or.inr hother)
  · exact Or.inl (settled_conclude fun hyes => absurd hyes hstored)

/-- The condition of a refresh whose operation is outstanding. -/
theorem FlightKeeps.refreshFails {log' : List PasswordFact} {pc : ControllerWaiting}
    {pc' : AuthWaiting} (hpc : authWaiting pc = some pc')
    (h : FlightKeeps ctx w log log' id input (some (.waiting pc))) :
    RefreshFails ctx w log id input.auth pc' := by
  cases pc with
  | inService bearer method pc => cases hpc
  | serviceReturns bearer method value => cases hpc
  | _ => exact h pc' hpc

/-- The operation of a call keeps every old session covered: where it changes a place, its own call
renews or ends the sessions of the account. -/
theorem covered_execute {pc : ControllerWaiting} {ready : ControllerReady}
    (hs : SessionsCovered (w, log)) (hflight : w.flights.get? id = some (.waiting pc))
    (hkeeps : FlightKeeps ctx w log (log ++ flightFacts ctx id input.auth w.database
      (some (.waiting pc))) id input (some (.waiting pc)))
    (h : controllerExecute ctx pc input w.database = some (db', ready)) :
    Covered (Settled ({ w with database := db', flights := w.flights.set id (.ready ready) },
        log ++ flightFacts ctx id input.auth w.database (some (.waiting pc))))
      RenewsSession { w with database := db', flights := w.flights.set id (.ready ready) } := by
  refine hs.covered.execute hflight db' fun a hown => ?_
  by_cases hstored : storedSession w.memory a.1 = some a.2
  swap
  · exact Or.inl fun hyes => absurd hyes hstored
  -- The session is up to date, or this call renews it, unless its refresh has failed.
  have hcurrent : UpToDate w.database log a.1 a.2.user ∨ RenewsSession (.ready ready) a ∨
      w.OwedElse id fun f => RenewsSession f a := by
    rcases hown with hsettled | hrenews
    · exact Or.inl (hsettled hstored)
    rcases renews_execute h hrenews with hready | ⟨pc', error, hpc', hrefresh, hfailed⟩
    · exact Or.inr (Or.inl hready)
    · have hthrows : (thrown (authOperation ctx pc' input.auth w.database)).isSome := by
        rw [hfailed]
        rfl
      rcases hkeeps.refreshFails hpc' hthrows a.1 hrefresh a.2 hstored with hcurrent | hother
      · exact Or.inl hcurrent
      · exact Or.inr (Or.inr hother)
  rcases hcurrent with hcurrent | hrenewed
  · rcases execute_current (hs.outline.flights id _ hflight).2 h hkeeps hstored hcurrent with
      hstays | hrenewed
    · exact Or.inl fun _ => hstays
    · exact Or.inr hrenewed
  · exact Or.inr hrenewed

/-- A later segment of a call keeps every old session covered. An old session was settled, or
somebody owes its renewal: this call or another one. -/
theorem covered_resume {ready : ControllerReady} {m : AuthMemory}
    {o : Outcome ControllerWaiting ControllerResult} (hs : SessionsCovered (w, log))
    (hflight : w.flights.get? id = some (.ready ready))
    (hkeeps : FlightKeeps ctx w log (log ++ flightFacts ctx id input.auth w.database
      (some (.ready ready))) id input (some (.ready ready)))
    (h : controllerResume ctx ready input w.memory = some (m, o)) :
    Covered (Settled (w.conclude id m o,
        log ++ flightFacts ctx id input.auth w.database (some (.ready ready))))
      RenewsSession (w.conclude id m o) := by
  refine hs.covered.resume hflight m o fun a hown => ?_
  by_cases hstored : storedSession m a.1 = some a.2
  swap
  · exact Or.inl (settled_conclude fun hyes => absurd hyes hstored)
  -- The session under this token is new, will be written again by this call, or was there before.
  rcases controllerResume_leaves hs.outline.inv h hstored with hnew | howes | ⟨hold, htask⟩
  · obtain ⟨reply, hreply, hnew⟩ := Option.bind_eq_some_iff.mp hnew
    rcases (hkeeps reply hreply).1 _ hnew with hcurrent | hother
    · exact Or.inl (settled_conclude fun _ => hcurrent)
    · exact Or.inr (Or.inr hother)
  · exact Or.inr (Or.inl howes)
  -- An old session was settled, or somebody owes its renewal: this call, whose answer is then
  -- current, or another one.
  · have hcurrent : UpToDate w.database log a.1 a.2.user ∨
        w.OwedElse id fun f => RenewsSession f a := by
      rcases hown with hsettled | hrenews
      · exact Or.inl (hsettled hold)
      · obtain ⟨reply, hreply, hrefresh, hunchanged⟩ := htask hrenews
        exact (hkeeps reply hreply).2 hunchanged a.1 hrefresh a.2 hold
    rcases hcurrent with hcurrent | hother
    · exact Or.inl (settled_conclude fun _ => resume_current hs.outline.inv h hold hcurrent)
    · exact Or.inr (Or.inr hother)

/-- A step that meets the condition keeps every session up to date or about to be renewed. -/
theorem step_sessionsCovered {s s' : ControllerWorld × List PasswordFact} {e : ControllerEvent}
    (hs : SessionsCovered s) (hkeeps : KeepsCurrent ctx s e)
    (h : (passwordMachine ctx).step s e = some s') : SessionsCovered s' := by
  obtain ⟨w, log⟩ := s
  obtain ⟨w', log'⟩ := s'
  obtain ⟨hstep, hlog⟩ := Machine.logging_step.mp h
  simp only at hstep hlog
  refine ⟨Outline.step_valid (controllerOutline_proved ctx) w e w' hs.outline hstep,
    AsyncProgram.step_numbered w e w' hs.numbered hstep, ?_⟩
  subst hlog
  -- The three kinds of moves, each with the facts that it adds to the log.
  rcases AsyncProgram.step_cases hstep with
    ⟨call, input, m, o, rfl, hstart, rfl⟩ | ⟨id, input, pc, d, ready, rfl, hflight, hexec, rfl⟩ |
    ⟨id, input, ready, m, o, rfl, hflight, hresume, rfl⟩
  · have hfacts : log ++ passwordFacts ctx w (.invoke call input) = log := List.append_nil log
    rw [hfacts]
    exact covered_invoke hs hkeeps hstart
  · have hfacts : passwordFacts ctx w (.execute id input)
        = flightFacts ctx id input.auth w.database (some (.waiting pc)) := by
      rw [← hflight]
      rfl
    rw [hfacts]
    refine covered_execute hs hflight ?_ hexec
    rw [← hfacts, ← hflight]
    exact hkeeps
  · have hfacts : passwordFacts ctx w (.resume id input)
        = flightFacts ctx id input.auth w.database (some (.ready ready)) := by
      rw [← hflight]
      rfl
    rw [hfacts]
    refine covered_resume hs hflight ?_ hresume
    rw [← hfacts, ← hflight]
    exact hkeeps

end

/-! ### Whole runs -/

/-- A call of `requireActiveSession` only checks, and renews no session of anybody. -/
theorem not_renews_of_checksOnly {f : ControllerFlight} (h : ChecksOnly f)
    (token userId : String) : ¬ Renews f token userId := by
  unfold ChecksOnly at h
  split at h
  · rintro (hrevokes | hrefreshes) <;> contradiction
  · rintro (hrevokes | hrefreshes) <;> contradiction
  · rintro (hrevokes | hrefreshes) <;> contradiction
  · rintro (hrevokes | hrefreshes) <;> contradiction
  · rintro (hrevokes | hrefreshes) <;> contradiction
  · rintro (hrevokes | hrefreshes) <;> contradiction
  · exact h.elim

/-- There are no sessions at the start. -/
theorem sessionsCovered_initial (db : Database) : SessionsCovered (controllerInitial db, []) where
  outline := controllerOutline.valid_initial sessionsOwned_empty
  numbered := AsyncProgram.numbered_initial _ db
  covered a := by
    refine Or.inl fun hstored => ?_
    simp [controllerInitial, storedSession] at hstored

/-- In a run whose steps all meet `KeepsCurrent`, every stored session has the role and the
organization of its user's row whenever no call is in flight, and no session stays that was
opened with a password that was replaced. -/
theorem sessions_current (ctx : AuthContext) (db : Database) (es : List ControllerEvent)
    (s : ControllerWorld × List PasswordFact)
    (h : (passwordMachine ctx).run (controllerInitial db, []) es = some s)
    (hkeeps : (passwordMachine ctx).Meets (KeepsCurrent ctx) (controllerInitial db, []) es)
    (hidle : Quiescent s.1) : SessionsCurrent s := by
  have hcovered : SessionsCovered s :=
    Machine.guarded_invariant (fun _ _ _ hs hkeeps hstep => step_sessionsCovered hs hkeeps hstep)
      es _ s (sessionsCovered_initial db) hkeeps h
  intro token session hstored
  exact hcovered.covered.settled_of_not_owed (token, session)
    (fun id f hf => not_renews_of_checksOnly (hidle id f hf) token session.user.id) hstored

/-! ### A sign-in that is overtaken by an edit of its account -/

/-- The password of the accounts in the example. -/
def examplePassword : String := "Correct-Horse-7"

/-- The production service. The hash in the rows of the example is the one of their password. -/
def signInContext : AuthContext where
  env := productionContext.env
  text := productionContext.text
  hashing :=
    { productionContext.hashing with
      verifyPassword := fun password storedHash =>
        decide (password = examplePassword ∧ storedHash = founderRow.passwordHash) }
  loadedAt := productionContext.loadedAt

/-- A sign-in, up to the commit of its transaction. -/
def signInCommits (id : Nat) (email : String) : List ControllerEvent :=
  [.invoke (.auth (.login { email, password := examplePassword })) {}, .execute id {}]

/-- The segment of a sign-in that stores the session. -/
def signInEnds (id : Nat) (uuid : String) : ControllerEvent :=
  .resume id { auth := { clock := exampleClock, secondClock := exampleClock, uuid } }

/-- The operator makes the user a proctor of the operator's organization. -/
def proctorAppointed (id : Nat) (token : String) : List ControllerEvent :=
  requestWith id token (.update founderRow.id
      { name := "Kim", email := founderRow.email, role := .proctor,
        organizationId := some operatorOrganization.id }) ++
    turn id ++ turn id ++ turn id ++ turn id

/-- The operator signs in. The transaction of the user's sign-in commits before the edit of the
account, and the session is stored after the revocation. -/
def overtakenSignIn : List ControllerEvent :=
  signInCommits 0 operatorRow.email ++ [signInEnds 0 "operator"] ++
    signInCommits 1 founderRow.email ++ proctorAppointed 2 (sessionToken "operator") ++
    [signInEnds 1 "founder"]

/-- The same calls, one after the other. -/
def orderlySignIn : List ControllerEvent :=
  signInCommits 0 operatorRow.email ++ [signInEnds 0 "operator"] ++
    proctorAppointed 1 (sessionToken "operator") ++ signInCommits 2 founderRow.email ++
    [signInEnds 2 "founder"]

/-- Without a call in flight there is none but those of `requireActiveSession`. -/
theorem quiescent_of_isEmpty {w : ControllerWorld} (h : w.flights.entries.isEmpty = true) :
    Quiescent w := by
  intro id f hf
  have hmem := (w.flights.get?_eq_some_iff id f).mp hf
  rw [List.isEmpty_iff.mp h] at hmem
  cases hmem

/-- At the end of the run no call is in flight, and the user's session has the old role. -/
theorem overtakenSignIn_run :
    ((passwordMachine signInContext).run (controllerInitial founderDatabase, [])
      overtakenSignIn).any (fun s =>
        s.1.flights.entries.isEmpty &&
        (storedSession s.1.memory (sessionToken "founder")).any fun session =>
          decide (place s.1.database session.user.id
            ≠ some (session.user.role, session.user.organizationId))) = true := by
  decide +kernel

/-- The session of the user has the old role, and no call in flight is going to end it. -/
theorem sign_in_stores_stale_session :
    ∃ s, (passwordMachine signInContext).run (controllerInitial founderDatabase, [])
        overtakenSignIn = some s ∧ Quiescent s.1 ∧ ¬ SessionsCurrent s := by
  obtain ⟨s, hs, hcheck⟩ := (Option.any_eq_true _ _).mp overtakenSignIn_run
  obtain ⟨hidle, hstale⟩ := Bool.and_eq_true_iff.mp hcheck
  obtain ⟨session, hstored, hplace⟩ := (Option.any_eq_true _ _).mp hstale
  refine ⟨s, hs, quiescent_of_isEmpty hidle, fun hcurrent => ?_⟩
  exact of_decide_eq_true hplace (hcurrent _ session hstored).1

/-- At the end of the run no call is in flight, and the user's session is stored. -/
theorem orderlySignIn_run :
    ((passwordMachine signInContext).run (controllerInitial founderDatabase, [])
      orderlySignIn).any (fun s =>
        s.1.flights.entries.isEmpty &&
        (storedSession s.1.memory (sessionToken "founder")).isSome) = true := by
  decide +kernel

/-- The same calls one after the other keep every session up to date. -/
theorem sessions_current_orderly :
    ∃ s, (passwordMachine signInContext).run (controllerInitial founderDatabase, [])
        orderlySignIn = some s ∧
      storedSession s.1.memory (sessionToken "founder") ≠ none ∧ SessionsCurrent s := by
  obtain ⟨s, hs, hcheck⟩ := (Option.any_eq_true _ _).mp orderlySignIn_run
  obtain ⟨hidle, hstored⟩ := Bool.and_eq_true_iff.mp hcheck
  refine ⟨s, hs, Option.isSome_iff_ne_none.mp hstored, ?_⟩
  exact sessions_current signInContext founderDatabase orderlySignIn s hs (by decide +kernel)
    (quiescent_of_isEmpty hidle)

end Dcvp.Proofs
