import Dcvp.Proofs.ControllerStatements
import Dcvp.Services.InitialAdmin

/-!
# `Dcvp.Proofs.InitialAdmin`: the setup happens once

A database with a user keeps one: the only call that removes users leaves its own actor in
place. From this it follows that a second setup transaction either counts a user, or has a
snapshot from before the first commit and fails. `SetupOnce` is the invariant: the number of
commits is the number of answers and of answers still on their way, and it is at most one.

`initial_admin_once` is the result for the answers. `setup_closes` says that the two calls
stay closed for everybody who comes later. `affiliated_run` is about all the calls: a user with
rights always belongs to an organization that exists.
-/

set_option autoImplicit false

namespace Dcvp.Proofs

open Dcvp.Lib
open Dcvp.Services
open Dcvp.Services.InitialAdmin
open Dcvp.Modules.AdminUsersController
open Dcvp.Shared (AuthSession UserRole currentPrivacyPolicyVersion)

/-! ### A database with a user keeps one -/

/-- Some user exists, so that the initial setup is closed. -/
def HasUser (db : Database) : Prop := ∃ id user, db.findUser id = some user

/-- `user.count()` answers zero exactly when there is no user. -/
theorem userCount_eq_zero_iff (db : Database) : userCount db = 0 ↔ ¬ HasUser db := by
  unfold userCount Table.count
  rw [List.countP_eq_zero]
  constructor
  · rintro hnone ⟨id, user, hfind⟩
    exact hnone user ((Table.find?_eq_some_iff _ _ _).mp hfind).1 rfl
  · intro hnone user hmem
    exact absurd ⟨user.id, user, Table.find?_of_mem hmem⟩ hnone

/-- Users whose roles and organizations stay are still there. -/
theorem hasUser_of_placed {db db' : Database} (h : Placed db db') (hdb : HasUser db) :
    HasUser db' := by
  obtain ⟨id, user, hfind⟩ := hdb
  have hplace := h.places id
  unfold place at hplace
  rw [hfind] at hplace
  cases hfind' : db'.findUser id with
  | none => rw [hfind'] at hplace; cases hplace
  | some user' => exact ⟨id, user', hfind'⟩

/-- No operation of `AuthService` takes the last user away. -/
theorem hasUser_of_authEffect {db db' : Database} (h : AuthEffect db db') (hdb : HasUser db) :
    HasUser db' := by
  cases h with
  | placed hplaced => exact hasUser_of_placed hplaced hdb
  | registered row _ _ _ _ hfind => exact ⟨row.id, row, by rw [hfind, if_pos rfl]⟩

/-- Nor does a statement of the account services. A deletion needs an operator, who stays. -/
theorem hasUser_of_userEffect {ctx : AuthContext} {input : AccountInput} {pc : AccountWaiting}
    {db db' : Database} (h : UserEffect ctx input pc db db') (hdb : HasUser db) :
    HasUser db' := by
  cases h with
  | kept _ hfind =>
      obtain ⟨id, user, hfound⟩ := hdb
      exact ⟨id, user, by rw [hfind]; exact hfound⟩
  | wrote write row _ _ hwrote =>
      obtain ⟨row', hrow', -⟩ := hwrote.written
      exact ⟨write.userId, row', hrow'⟩
  | created _ row _ _ hfind => exact ⟨row.id, row, by rw [hfind, if_pos rfl]⟩
  -- The actor of a removal is not the user who is removed.
  | deleted _ userId actor hactor _ hother hfind _ _ =>
      exact ⟨actor.id, actor, by rw [hfind _ hother]; exact hactor⟩

/-- Once there is a user, no statement of the controller leaves the database without one. -/
theorem hasUser_of_controllerExecute {ctx : AuthContext} {pc : ControllerWaiting}
    {input : ControllerInput} {db db' : Database} {ready : ControllerReady}
    (h : controllerExecute ctx pc input db = some (db', ready)) (hdb : HasUser db) :
    HasUser db' := by
  rcases controllerExecute_cases h with ⟨heffect, -⟩ | ⟨token, method, pc', reply, -, -, hexec⟩
  · exact hasUser_of_authEffect heffect hdb
  · rcases execute_cases hexec with ⟨answer, -, hstatement⟩ | ⟨error, -, rfl⟩
    · exact hasUser_of_userEffect (statement_effect hstatement) hdb
    · exact hdb

/-! ### The operations of the setup -/

/-- What the transaction of the setup leaves: its organization and its operator are new, and
the rest is as before. -/
theorem setupWrites_spec {ctx : AuthContext} {parsed : CreateInitialAdminInput}
    {input : AccountInput} {db db' : Database} {organization : OrganizationRow}
    {user : UserRow} (h : setupWrites ctx parsed input db = .ok (db', organization, user)) :
    user.role = .admin ∧ user.organizationId = some organization.id ∧
      (∀ k, db'.findUser k = if user.id = k then some user else db.findUser k) := by
  obtain ⟨db₁, horganization, h⟩ := bind_eq_ok.mp h
  obtain ⟨passwordHash, -, h⟩ := bind_eq_ok.mp h
  obtain ⟨⟨db₂, row⟩, huser, h⟩ := bind_eq_ok.mp h
  cases h
  obtain ⟨_, -, htables⟩ := Database.tables_of_createOrganization horganization
  obtain ⟨users, hinsert, husers, rfl⟩ := Database.tables_of_createUser huser
  refine ⟨rfl, rfl, fun k => ?_⟩
  show db'.users.find? k = _
  rw [husers]
  refine (Table.find?_insert? hinsert k).trans ?_
  rw [htables]
  rfl

/-- What an operation of the program can be: one of another call, a count, the begin of a setup
with its count, a fault, or the commit of a setup that no other one has overtaken. -/
theorem setupExecute_cases {ctx : AuthContext} {pc : Waiting} {input : ControllerInput}
    {d d' : SetupDatabase} {ready : Ready}
    (h : InitialAdmin.execute ctx pc input d = some (d', ready)) :
    (∃ pc' reply db', pc = .service pc' ∧ ready = .service reply ∧
      d' = { d with tables := db' } ∧
      controllerExecute ctx pc' input d.tables = some (db', reply)) ∨
    (pc = .statusCounts ∧ d' = d ∧
      (ready = .statusFailed ∨ ready = .statusCounted (userCount d.tables))) ∨
    (∃ parsed retry, pc = .setupBegins parsed retry ∧ d' = d ∧
      ready = .setupBegan parsed retry d.setups (userCount d.tables)) ∨
    (∃ parsed retry error, d' = d ∧ ready = .setupFailed parsed retry error) ∨
    (∃ parsed retry setups db' organization user,
      pc = .setupCommits parsed retry setups ∧ d.setups = setups ∧
      setupWrites ctx parsed input.account d.tables = .ok (db', organization, user) ∧
      d' = { tables := db', setups := d.setups + 1 } ∧
      ready = .setupCommitted organization user) := by
  -- Each operation can be met by a fault of the database. The commit can also fail by itself: when
  -- another setup has committed since it began, or by one of its writes.
  cases pc with
  | service pc =>
      have hstatement : statement ctx (.service pc) input d = some (d', ready) := by
        cases hfault : input.account.fault with
        | none => simpa only [InitialAdmin.execute, hfault] using h
        | some error => simpa only [InitialAdmin.execute, hfault] using h
      obtain ⟨⟨db', reply⟩, hexec, heq⟩ := Option.map_eq_some_iff.mp hstatement
      cases heq
      exact Or.inl ⟨pc, reply, db', rfl, rfl, rfl, hexec⟩
  | statusCounts =>
      cases hfault : input.account.fault with
      | some error =>
          simp only [InitialAdmin.execute, hfault, Option.some.injEq, Prod.mk.injEq] at h
          exact Or.inr (Or.inl ⟨rfl, h.1.symm, Or.inl h.2.symm⟩)
      | none =>
          simp only [InitialAdmin.execute, hfault, statement, Option.some.injEq,
            Prod.mk.injEq] at h
          exact Or.inr (Or.inl ⟨rfl, h.1.symm, Or.inr h.2.symm⟩)
  | setupBegins parsed retry =>
      cases hfault : input.account.fault with
      | some error =>
          simp only [InitialAdmin.execute, hfault, Option.some.injEq, Prod.mk.injEq] at h
          exact Or.inr (Or.inr (Or.inr (Or.inl
            ⟨parsed, retry, .prisma error, h.1.symm, h.2.symm⟩)))
      | none =>
          simp only [InitialAdmin.execute, hfault, statement, Option.some.injEq,
            Prod.mk.injEq] at h
          exact Or.inr (Or.inr (Or.inl ⟨parsed, retry, rfl, h.1.symm, h.2.symm⟩))
  | setupCommits parsed retry setups =>
      cases hfault : input.account.fault with
      | some error =>
          simp only [InitialAdmin.execute, hfault, Option.some.injEq, Prod.mk.injEq] at h
          exact Or.inr (Or.inr (Or.inr (Or.inl
            ⟨parsed, retry, .prisma error, h.1.symm, h.2.symm⟩)))
      | none =>
          simp only [InitialAdmin.execute, hfault, statement] at h
          cases hcommit : commitSetup ctx parsed setups input.account d with
          | error error =>
              rw [hcommit] at h
              cases h
              exact Or.inr (Or.inr (Or.inr (Or.inl ⟨parsed, retry, error, rfl, rfl⟩)))
          | ok written =>
              obtain ⟨d₁, organization, user⟩ := written
              rw [hcommit] at h
              cases h
              unfold commitSetup at hcommit
              split at hcommit
              · cases hcommit
              · rename_i hsame
                obtain ⟨⟨db', organization', user'⟩, hwrites, heq⟩ := bind_eq_ok.mp hcommit
                cases heq
                exact Or.inr (Or.inr (Or.inr (Or.inr ⟨parsed, retry, setups, db', organization,
                  user, rfl, not_not.mp hsame, hwrites, rfl, rfl⟩)))

/-! ### Segments -/

/-- Where the segment of another call waits. -/
theorem ofController_suspended {seg : ControllerSegment} {pc : Waiting}
    (h : (ofController seg).2 = .suspended pc) : ∃ pc', pc = .service pc' := by
  obtain ⟨memory, o⟩ := seg
  cases o with
  | suspended pc' => cases h; exact ⟨pc', rfl⟩
  | finished result => cases h

/-- What the segment of another call answers is an error or the value of that call, and never a
created administrator. -/
theorem ofController_finished {seg : ControllerSegment} {result : Result}
    (h : (ofController seg).2 = .finished result) :
    (∃ error, result = .error error) ∨ ∃ value, result = .ok (.service value) := by
  obtain ⟨memory, o⟩ := seg
  cases o with
  | suspended pc' => cases h
  | finished result =>
      cases h
      cases result with
      | error error => exact Or.inl ⟨error, rfl⟩
      | ok value => exact Or.inr ⟨value, rfl⟩

/-- The result is the session of a new operator. -/
def IsCreated : Result → Bool
  | .ok (.created _) => true
  | _ => false

/-- The result says that the setup is open. -/
def IsReady : Result → Bool
  | .ok (.status status) => status.enabled
  | _ => false

/-- A suspended call whose count was made by this segment waits for nothing that the setup
has to do with, or begins its transaction. -/
def Harmless : Waiting → Prop
  | .setupCommits .. => False
  | _ => True

section
variable {ctx : AuthContext} {input : ControllerInput} {memory memory' : AuthMemory}
  {o : Outcome Waiting Result}

/-- A first segment neither commits nor answers with a new operator or an open setup. -/
theorem setupStart_cases {call : Call}
    (h : InitialAdmin.start ctx call input memory = some (memory', o)) :
    (∀ pc, o = .suspended pc → Harmless pc) ∧
      ∀ result, o = .finished result → IsCreated result = false ∧ IsReady result = false := by
  -- Per call: a segment of the services, the count, or the checks of the input.
  cases call with
  | service call =>
      obtain ⟨seg, -, heq⟩ := Option.map_eq_some_iff.mp h
      have ho : (ofController seg).2 = o := congrArg Prod.snd heq
      refine ⟨fun pc hpc => ?_, fun result hresult => ?_⟩
      · obtain ⟨pc', rfl⟩ := ofController_suspended (ho.trans hpc)
        trivial
      · rcases ofController_finished (ho.trans hresult) with ⟨error, rfl⟩ | ⟨value, rfl⟩
        · exact ⟨rfl, rfl⟩
        · exact ⟨rfl, rfl⟩
  | setupStatus =>
      have ho := congrArg Prod.snd (Option.some.inj h)
      unfold InitialAdmin.setupStatus at ho
      split at ho
      · refine ⟨fun pc hpc => ?_, fun result hresult => ?_⟩
        · cases ho.trans hpc
          trivial
        · cases ho.trans hresult
      · refine ⟨fun pc hpc => ?_, fun result hresult => ?_⟩
        · cases ho.trans hpc
        · cases ho.trans hresult
          exact ⟨rfl, rfl⟩
  | createInitialAdmin data =>
      have ho := congrArg Prod.snd (Option.some.inj h)
      unfold InitialAdmin.createInitialAdmin at ho
      split at ho
      · refine ⟨fun pc hpc => ?_, fun result hresult => ?_⟩
        · cases ho.trans hpc
        · cases ho.trans hresult
          exact ⟨rfl, rfl⟩
      · split at ho
        · refine ⟨fun pc hpc => ?_, fun result hresult => ?_⟩
          · cases ho.trans hpc
          · cases ho.trans hresult
            exact ⟨rfl, rfl⟩
        · refine ⟨fun pc hpc => ?_, fun result hresult => ?_⟩
          · cases ho.trans hpc
            trivial
          · cases ho.trans hresult

/-- The `catch` of `createInitialAdmin` begins the setup again or answers with the error. It
answers with no new operator. -/
theorem afterFailure_cases {parsed : CreateInitialAdminInput} {retry : Nat}
    {error : ServiceException} (h : afterFailure memory parsed retry error = (memory', o)) :
    (∀ pc, o = .suspended pc → Harmless pc) ∧
      ∀ result, o = .finished result → IsCreated result = false ∧ IsReady result = false := by
  have ho := congrArg Prod.snd h
  unfold afterFailure at ho
  split at ho
  · refine ⟨fun pc hpc => ?_, fun result hresult => ?_⟩
    · cases ho.trans hpc
      trivial
    · cases ho.trans hresult
  · refine ⟨fun pc hpc => ?_, fun result hresult => ?_⟩
    · cases ho.trans hpc
    · cases ho.trans hresult
      exact ⟨rfl, rfl⟩

/-- What a call does with a reply. It goes on to a commit only after a count of zero, it
answers with a new operator only after a commit, and it answers that the setup is open only
after a count of zero. -/
theorem setupResume_cases {reply : Ready}
    (h : InitialAdmin.resume ctx reply input memory = some (memory', o)) :
    (∀ pc, o = .suspended pc → Harmless pc ∨ ∃ parsed retry setups,
      reply = .setupBegan parsed retry setups 0 ∧ pc = .setupCommits parsed retry setups) ∧
    (∀ result, o = .finished result → IsCreated result = true →
      ∃ organization user, reply = .setupCommitted organization user) ∧
    ∀ result, o = .finished result → IsReady result = true → reply = .statusCounted 0 := by
  -- Only `setupBegan` with a count of zero leads to a commit, and only a committed transaction to
  -- the session of an operator.
  cases reply with
  | service reply =>
      obtain ⟨seg, -, heq⟩ := Option.map_eq_some_iff.mp h
      have ho : (ofController seg).2 = o := congrArg Prod.snd heq
      refine ⟨fun pc hpc => ?_, fun result hresult hcreated => ?_, fun result hresult hready => ?_⟩
      · obtain ⟨pc', rfl⟩ := ofController_suspended (ho.trans hpc)
        exact Or.inl trivial
      · rcases ofController_finished (ho.trans hresult) with ⟨_, rfl⟩ | ⟨_, rfl⟩ <;> cases hcreated
      · rcases ofController_finished (ho.trans hresult) with ⟨_, rfl⟩ | ⟨_, rfl⟩ <;> cases hready
  | statusCounted userCount =>
      cases h
      refine ⟨fun pc hpc => (by cases hpc), fun result hresult hcreated => ?_,
        fun result hresult hready => ?_⟩
      · cases hresult
        cases hcreated
      · cases hresult
        by_cases hzero : userCount = 0
        · rw [hzero]
        · simp [IsReady, statusOf, hzero] at hready
  | statusFailed =>
      cases h
      refine ⟨fun pc hpc => (by cases hpc), fun result hresult hcreated => ?_,
        fun result hresult hready => ?_⟩
      · cases hresult
        cases hcreated
      · cases hresult
        cases hready
  | setupBegan parsed retry setups userCount =>
      have hcount : afterCount memory parsed retry setups userCount = (memory', o) :=
        Option.some.inj h
      unfold afterCount at hcount
      split at hcount
      · obtain ⟨hwaits, hends⟩ := afterFailure_cases hcount
        refine ⟨fun pc hpc => Or.inl (hwaits pc hpc), fun result hresult hcreated => ?_,
          fun result hresult hready => ?_⟩
        · rw [(hends result hresult).1] at hcreated
          cases hcreated
        · rw [(hends result hresult).2] at hready
          cases hready
      · rename_i hzero
        cases hcount
        have huserCount : userCount = 0 := not_not.mp hzero
        refine ⟨fun pc hpc => ?_, fun result hresult => (by cases hresult),
          fun result hresult => (by cases hresult)⟩
        cases hpc
        exact Or.inr ⟨parsed, retry, setups, by rw [huserCount], rfl⟩
  | setupFailed parsed retry error =>
      obtain ⟨hwaits, hends⟩ := afterFailure_cases (Option.some.inj h)
      refine ⟨fun pc hpc => Or.inl (hwaits pc hpc), fun result hresult hcreated => ?_,
        fun result hresult hready => ?_⟩
      · rw [(hends result hresult).1] at hcreated
        cases hcreated
      · rw [(hends result hresult).2] at hready
        cases hready
  | setupCommitted organization user =>
      obtain ⟨⟨m, session⟩, -, heq⟩ := Option.map_eq_some_iff.mp h
      cases heq
      refine ⟨fun pc hpc => (by cases hpc), fun _ _ _ => ⟨organization, user, rfl⟩,
        fun result hresult hready => ?_⟩
      cases hresult
      cases hready

end

/-! ### At most one commit -/

/-- The snapshot of a setup under way is from before the first commit. -/
def SnapshotIsFirst : Flight Waiting Ready → Prop
  | .waiting (.setupCommits _ _ setups) => setups = 0
  | .ready (.setupBegan _ _ setups userCount) => userCount = 0 → setups = 0
  | _ => True

/-- The answer of a setup that has committed is on its way. -/
def IsSettled : Flight Waiting Ready → Prop
  | .ready (.setupCommitted ..) => True
  | _ => False

/-- The number of the answers with a new operator. -/
def createdCount (w : SetupWorld) : Nat := w.results.countP fun r => IsCreated r.2

/-- At most one setup has committed, and its answer is given or on its way. -/
structure SetupOnce (w : SetupWorld) : Prop where
  once : w.database.setups ≤ 1
  used : 0 < w.database.setups → HasUser w.database.tables
  first : ∀ id f, w.flights.get? id = some f → SnapshotIsFirst f
  settled : ∀ id f, w.flights.get? id = some f → IsSettled f →
    w.database.setups = 1 ∧ createdCount w = 0
  single : ∀ id id' f f', w.flights.get? id = some f → w.flights.get? id' = some f' →
    IsSettled f → IsSettled f' → id = id'
  answered : createdCount w ≤ w.database.setups

/-- Before the first call nothing was set up. -/
theorem setupOnce_initial (db : Database) : SetupOnce (setupInitial db) where
  once := Nat.zero_le _
  used h := absurd h (Nat.lt_irrefl 0)
  first id f hf := by simp [setupInitial] at hf
  settled id f hf := by simp [setupInitial] at hf
  single id id' f f' hf := by simp [setupInitial] at hf
  answered := Nat.zero_le _

/-- The answers after a segment: there is one more that reports a new operator exactly when the
call ends with such an answer. -/
theorem createdCount_conclude (w : SetupWorld) (id : Nat) (m : AuthMemory)
    (o : Outcome Waiting Result) :
    createdCount (w.conclude id m o) = createdCount w + 1 ∧
        (∃ result, o = .finished result ∧ IsCreated result = true) ∨
      createdCount (w.conclude id m o) = createdCount w ∧
        ∀ result, o = .finished result → IsCreated result = false := by
  cases o with
  | suspended pc => exact Or.inr ⟨rfl, fun result h => (by cases h)⟩
  | finished result =>
      have hcount : createdCount (w.conclude id m (.finished result))
          = createdCount w + if IsCreated result then 1 else 0 := by
        unfold createdCount
        show (w.results ++ [(id, result)]).countP _ = _
        rw [List.countP_append, List.countP_singleton]
      cases hcreated : IsCreated result with
      | true =>
          rw [hcreated] at hcount
          exact Or.inl ⟨hcount, result, rfl, hcreated⟩
      | false =>
          rw [hcreated] at hcount
          exact Or.inr ⟨hcount, fun result' h => by cases h; exact hcreated⟩

/-- A segment that answers no new operator keeps the invariant: the settled calls are those that
were settled before. -/
theorem setupOnce_conclude {w : SetupWorld} (hw : SetupOnce w) {id : Nat} {m : AuthMemory}
    {o : Outcome Waiting Result} (hwaits : ∀ pc, o = .suspended pc → SnapshotIsFirst (.waiting pc))
    (hends : ∀ result, o = .finished result → IsCreated result = false) :
    SetupOnce (w.conclude id m o) := by
  have hcount : createdCount (w.conclude id m o) = createdCount w := by
    rcases createdCount_conclude w id m o with ⟨-, result, hresult, hcreated⟩ | ⟨hcount, -⟩
    · rw [hends result hresult] at hcreated
      cases hcreated
    · exact hcount
  -- The settled calls are those that were settled before, since the new suspension is none.
  have hold : ∀ id' f, (w.conclude id m o).flights.get? id' = some f → IsSettled f →
      w.flights.get? id' = some f := by
    intro id' f hf hsettled
    rcases World.conclude_flights w id id' m o f hf with ⟨pc, -, rfl⟩ | hflight
    · exact hsettled.elim
    · exact hflight
  refine ⟨?_, ?_, fun id' f hf => ?_, fun id' f hf hsettled => ?_,
    fun i j f f' hf hf' hs hs' => ?_, ?_⟩
  · rw [World.conclude_database]
    exact hw.once
  · rw [World.conclude_database]
    exact hw.used
  · rcases World.conclude_flights w id id' m o f hf with ⟨pc, hpc, rfl⟩ | hflight
    · exact hwaits pc hpc
    · exact hw.first id' f hflight
  · rw [World.conclude_database, hcount]
    exact hw.settled id' f (hold id' f hf hsettled) hsettled
  · exact hw.single i j f f' (hold i f hf hs) (hold j f' hf' hs') hs hs'
  · rw [World.conclude_database, hcount]
    exact hw.answered

/-- An operation that is no commit keeps the invariant: it does not take the users away, and no
call is settled by it. -/
theorem setupOnce_execute {w : SetupWorld} (hw : SetupOnce w) {id : Nat} {tables : Database}
    {ready : Ready} (hused : HasUser w.database.tables → HasUser tables)
    (hfirst : SnapshotIsFirst (.ready ready)) (hsettled : ¬ IsSettled (.ready ready)) :
    SetupOnce { w with
      database := { w.database with tables := tables }
      flights := w.flights.set id (.ready ready) } := by
  have hold : ∀ id' f, (w.flights.set id (.ready ready)).get? id' = some f → IsSettled f →
      w.flights.get? id' = some f := by
    intro id' f hf hs
    rw [OrderedMap.get?_set] at hf
    split at hf
    · cases hf
      exact absurd hs hsettled
    · exact hf
  refine ⟨hw.once, fun h => hused (hw.used h), fun id' f hf => ?_, fun id' f hf hs => ?_,
    fun i j f f' hf hf' hs hs' => ?_, hw.answered⟩
  · replace hf : (w.flights.set id (.ready ready)).get? id' = some f := hf
    rw [OrderedMap.get?_set] at hf
    split at hf
    · cases hf
      exact hfirst
    · exact hw.first id' f hf
  · exact hw.settled id' f (hold id' f hf hs) hs
  · exact hw.single i j f f' (hold i f hf hs) (hold j f' hf' hs') hs hs'

/-- A commit is the first one: its snapshot had no setup, nothing has committed since, and so no
answer is on its way. -/
theorem setupOnce_commit {w : SetupWorld} (hw : SetupOnce w) {id : Nat} {parsed : _}
    {retry setups : Nat} {tables : Database} {organization : OrganizationRow} {user : UserRow}
    (hflight : w.flights.get? id = some (.waiting (.setupCommits parsed retry setups)))
    (hsame : w.database.setups = setups) (huser : HasUser tables) :
    SetupOnce { w with
      database := { tables, setups := w.database.setups + 1 }
      flights := w.flights.set id (.ready (.setupCommitted organization user)) } := by
  have hzero : w.database.setups = 0 := hsame.trans (hw.first id _ hflight)
  have hnone : createdCount w = 0 := Nat.le_zero.mp (hzero ▸ hw.answered)
  -- Before the first commit no answer is on its way.
  have hself : ∀ id' f, (w.flights.set id
      (.ready (.setupCommitted organization user))).get? id' = some f → IsSettled f → id' = id := by
    intro id' f hf hs
    rw [OrderedMap.get?_set] at hf
    split at hf
    · assumption
    · have hone := (hw.settled id' f hf hs).1
      omega
  refine ⟨by show w.database.setups + 1 ≤ 1; omega, fun _ => huser, fun id' f hf => ?_,
    fun id' f hf hs => ⟨by show w.database.setups + 1 = 1; omega, hnone⟩,
    fun i j f f' hf hf' hs hs' => (hself i f hf hs).trans (hself j f' hf' hs').symm, ?_⟩
  · replace hf : (w.flights.set id
        (.ready (.setupCommitted organization user))).get? id' = some f := hf
    rw [OrderedMap.get?_set] at hf
    split at hf
    · cases hf
      trivial
    · exact hw.first id' f hf
  · show createdCount w ≤ w.database.setups + 1
    omega

/-- The answer of the setup that has committed keeps the invariant: the only settled call leaves,
and its answer is the first. -/
theorem setupOnce_answer {w : SetupWorld} (hw : SetupOnce w) {id : Nat} {m : AuthMemory}
    {result : Result} {f : Flight Waiting Ready} (hflight : w.flights.get? id = some f)
    (hsettled : IsSettled f) (hcreated : IsCreated result = true) :
    SetupOnce (w.conclude id m (.finished result)) := by
  obtain ⟨hone, hzero⟩ := hw.settled id f hflight hsettled
  have hcount : createdCount (w.conclude id m (.finished result)) = 1 := by
    rcases createdCount_conclude w id m (.finished result) with ⟨hcount, -⟩ | ⟨-, hends⟩
    · rw [hcount, hzero]
    · rw [hends result rfl] at hcreated
      cases hcreated
  -- The call that answers was the only settled one, and it leaves.
  have hgone : ∀ id' f', (w.conclude id m (.finished result)).flights.get? id' = some f' →
      ¬ IsSettled f' := by
    intro id' f' hf' hs'
    replace hf' : (w.flights.delete id).get? id' = some f' := hf'
    rw [OrderedMap.get?_delete] at hf'
    split at hf'
    · cases hf'
    · rename_i hne
      exact hne (hw.single id' id f' f hf' hflight hs' hsettled)
  refine ⟨hw.once, hw.used, fun id' f' hf' => ?_,
    fun id' f' hf' hs' => absurd hs' (hgone id' f' hf'),
    fun i j f₁ f₂ hf₁ _ hs₁ _ => absurd hs₁ (hgone i f₁ hf₁), ?_⟩
  · rcases World.conclude_flights w id id' m _ f' hf' with ⟨pc, hpc, -⟩ | hold
    · cases hpc
    · exact hw.first id' f' hold
  · rw [hcount]
    exact hone.ge

/-- Every move keeps the setup to one commit. The cases are those of the segments and of the
operations. -/
theorem step_setupOnce (ctx : AuthContext) (w : SetupWorld) (e : SetupEvent) (w' : SetupWorld)
    (hw : SetupOnce w) (h : (setupProgram ctx).machine.step w e = some w') : SetupOnce w' := by
  have hharmless : ∀ pc, Harmless pc → SnapshotIsFirst (.waiting pc) := by
    intro pc hpc
    cases pc <;> first | exact hpc.elim | trivial
  rcases AsyncProgram.step_cases h with
    ⟨call, input, m, o, -, hstart, rfl⟩ | ⟨id, input, pc, d, ready, -, hflight, hexec, rfl⟩ |
    ⟨id, input, reply, m, o, -, hflight, hresume, rfl⟩
  · obtain ⟨hwaits, hends⟩ := setupStart_cases hstart
    have hnext : SetupOnce { w with nextCall := w.nextCall + 1 } :=
      ⟨hw.once, hw.used, hw.first, hw.settled, hw.single, hw.answered⟩
    exact setupOnce_conclude hnext (fun pc hpc => hharmless pc (hwaits pc hpc))
      fun result hresult => (hends result hresult).1
  · rcases setupExecute_cases hexec with
      ⟨pc', reply, db', -, rfl, rfl, hservice⟩ | ⟨-, rfl, hready⟩ | ⟨parsed, retry, -, rfl, rfl⟩ |
      ⟨parsed, retry, error, rfl, rfl⟩ |
      ⟨parsed, retry, setups, db', organization, user, rfl, hsame, hwrites, rfl, rfl⟩
    · exact setupOnce_execute hw (hasUser_of_controllerExecute hservice) trivial fun hs => hs
    · rcases hready with rfl | rfl <;>
        exact setupOnce_execute hw (fun hu => hu) trivial fun hs => hs
    · refine setupOnce_execute hw (fun hu => hu) (fun hcount => ?_) fun hs => hs
      -- A count of zero is one from before the first commit.
      have hnone := (userCount_eq_zero_iff _).mp hcount
      exact Nat.eq_zero_of_not_pos fun hpos => hnone (hw.used hpos)
    · exact setupOnce_execute hw (fun hu => hu) trivial fun hs => hs
    · obtain ⟨-, -, hfind⟩ := setupWrites_spec hwrites
      exact setupOnce_commit hw hflight hsame ⟨user.id, user, by rw [hfind, if_pos rfl]⟩
  · obtain ⟨hwaits, hcreated, -⟩ := setupResume_cases hresume
    have hkept : (∀ result, o = .finished result → IsCreated result = false) →
        SetupOnce (w.conclude id m o) := by
      refine setupOnce_conclude hw fun pc hpc => ?_
      rcases hwaits pc hpc with hpc' | ⟨parsed, retry, setups, rfl, rfl⟩
      · exact hharmless pc hpc'
      · exact hw.first id _ hflight rfl
    cases o with
    | suspended pc => exact hkept fun result hresult => (by cases hresult)
    | finished result =>
        cases hresult : IsCreated result with
        | false => exact hkept fun result' h' => by cases h'; exact hresult
        | true =>
            obtain ⟨organization, user, rfl⟩ := hcreated result rfl hresult
            exact setupOnce_answer hw hflight trivial hresult

/-- However many calls of `createInitialAdmin` run beside each other and beside all other
calls, at most one of them is ever answered with a session, and at most one setup
transaction commits. -/
theorem initial_admin_once (ctx : AuthContext) (db : Database) (es : List SetupEvent)
    (w : SetupWorld) (h : (setupProgram ctx).machine.run (setupInitial db) es = some w) :
    createdCount w ≤ w.database.setups ∧ w.database.setups ≤ 1 :=
  have hw := Machine.invariant (step_setupOnce ctx) es _ w (setupOnce_initial db) h
  ⟨hw.answered, hw.once⟩

/-- The setup of a platform: two visitors ask for it at the same time. -/
def concurrentSetup : List SetupEvent :=
  let visitor (email : String) : Call := .createInitialAdmin
    { organizationName := "Acme", name := "Admin", email, password := "Abcdef123456",
      privacyConsentAccepted := true, privacyPolicyVersion := currentPrivacyPolicyVersion }
  let first : ControllerInput :=
    { auth := { uuid := "u1" }
      account := { uuid := "a1", secondUuid := "a2", thirdUuid := "a3", salt := "s1" } }
  [.invoke (visitor "first@example.com") {}, .invoke (visitor "second@example.com") {},
    .execute 0 first, .execute 1 {}, .resume 0 {}, .resume 1 {}, .execute 0 first, .execute 1 {},
    .resume 0 first, .resume 1 {}, .execute 1 {}, .resume 1 {}]

/-- Both count no user. The second commit fails, and its next try finds the first operator. -/
theorem concurrentSetup_run :
    ((setupProgram productionContext).machine.run (setupInitial Database.empty)
      concurrentSetup).any (fun w =>
        decide (createdCount w = 1) && decide (w.results.length = 2) &&
        decide (w.database.tables.users.rows.length = 1)) = true := by
  decide +kernel

/-- Two setups at once: both count no user, and one operator is created, by the one transaction
that commits. -/
theorem initial_admin_once_concurrentSetup :
    ∃ w, (setupProgram productionContext).machine.run (setupInitial Database.empty)
        concurrentSetup = some w ∧ createdCount w ≤ w.database.setups ∧ w.database.setups ≤ 1 := by
  obtain ⟨w, hw, -⟩ := (Option.any_eq_true _ _).mp concurrentSetup_run
  exact ⟨w, hw, initial_admin_once productionContext Database.empty concurrentSetup w hw⟩

/-! ### A platform with a user is closed to the setup -/

/-- The call can neither commit a setup nor answer that the setup is open. -/
def IsClosed : Flight Waiting Ready → Prop
  | .waiting pc => Harmless pc
  | .ready (.setupBegan _ _ _ userCount) => userCount ≠ 0
  | .ready (.statusCounted userCount) => userCount ≠ 0
  | .ready (.setupCommitted ..) => False
  | _ => True

/-- There is a user, and the calls from number `n` on are closed. -/
structure ClosedFrom (n : Nat) (w : SetupWorld) : Prop where
  user : HasUser w.database.tables
  next : n ≤ w.nextCall
  flights : ∀ id f, n ≤ id → w.flights.get? id = some f → IsClosed f
  results : ∀ r ∈ w.results, n ≤ r.1 → IsCreated r.2 = false ∧ IsReady r.2 = false

/-- The end of a segment of a closed call keeps later calls closed, if it waits for nothing but
harmless operations and reports no new operator. -/
theorem closedFrom_conclude {n : Nat} {w : SetupWorld} (hw : ClosedFrom n w) {id : Nat}
    {m : AuthMemory} {o : Outcome Waiting Result}
    (hwaits : n ≤ id → ∀ pc, o = .suspended pc → Harmless pc)
    (hends : n ≤ id → ∀ result, o = .finished result →
      IsCreated result = false ∧ IsReady result = false) :
    ClosedFrom n (w.conclude id m o) := by
  refine ⟨?_, ?_, fun id' f hid hf => ?_, fun r hr hid => ?_⟩
  · rw [World.conclude_database]
    exact hw.user
  · cases o <;> exact hw.next
  · by_cases hsame : id' = id
    · subst hsame
      rcases World.conclude_flights w id' id' m o f hf with ⟨pc, hpc, rfl⟩ | hold
      · exact hwaits hid pc hpc
      · exact hw.flights id' f hid hold
    · rw [World.conclude_flights_ne w m o hsame] at hf
      exact hw.flights id' f hid hf
  · rcases World.mem_conclude_results hr with hold | ⟨result, hresult, rfl⟩
    · exact hw.results r hold hid
    · exact hends hid result hresult

/-- Every move keeps later calls closed: once there is a user, a setup that begins counts it and
goes no further. -/
theorem step_closedFrom (ctx : AuthContext) (n : Nat) (w : SetupWorld) (e : SetupEvent)
    (w' : SetupWorld) (hw : ClosedFrom n w)
    (h : (setupProgram ctx).machine.step w e = some w') : ClosedFrom n w' := by
  rcases AsyncProgram.step_cases h with
    ⟨call, input, m, o, -, hstart, rfl⟩ | ⟨id, input, pc, d, ready, -, hflight, hexec, rfl⟩ |
    ⟨id, input, reply, m, o, -, hflight, hresume, rfl⟩
  · obtain ⟨hwaits, hends⟩ := setupStart_cases hstart
    have hnext : ClosedFrom n { w with nextCall := w.nextCall + 1 } :=
      ⟨hw.user, Nat.le_succ_of_le hw.next, hw.flights, hw.results⟩
    exact closedFrom_conclude hnext (fun _ => hwaits) fun _ => hends
  · -- There is a user, so a count is not zero, and a commit belongs to an earlier call.
    have hcounted : userCount w.database.tables ≠ 0 := fun hzero =>
      (userCount_eq_zero_iff _).mp hzero hw.user
    have hset : HasUser d.tables → (n ≤ id → IsClosed (.ready ready)) →
        ClosedFrom n { w with database := d, flights := w.flights.set id (.ready ready) } := by
      intro huser hready
      refine ⟨huser, hw.next, fun id' f hid hf => ?_, hw.results⟩
      replace hf : (w.flights.set id (.ready ready)).get? id' = some f := hf
      rw [OrderedMap.get?_set] at hf
      split at hf
      · rename_i hsame
        cases hf
        exact hready (hsame ▸ hid)
      · exact hw.flights id' f hid hf
    rcases setupExecute_cases hexec with
      ⟨pc', reply, db', -, rfl, rfl, hservice⟩ | ⟨-, rfl, hready⟩ | ⟨parsed, retry, -, rfl, rfl⟩ |
      ⟨parsed, retry, error, rfl, rfl⟩ |
      ⟨parsed, retry, setups, db', organization, user, rfl, -, hwrites, rfl, rfl⟩
    · exact hset (hasUser_of_controllerExecute hservice hw.user) fun _ => trivial
    · rcases hready with rfl | rfl
      · exact hset hw.user fun _ => trivial
      · exact hset hw.user fun _ => hcounted
    · exact hset hw.user fun _ => hcounted
    · exact hset hw.user fun _ => trivial
    · obtain ⟨-, -, hfind⟩ := setupWrites_spec hwrites
      exact hset ⟨user.id, user, by rw [hfind, if_pos rfl]⟩ fun hid =>
        (hw.flights id _ hid hflight).elim
  · obtain ⟨hwaits, hcreated, hready⟩ := setupResume_cases hresume
    refine closedFrom_conclude hw (fun hid pc hpc => ?_) fun hid result hresult => ?_
    · rcases hwaits pc hpc with hpc' | ⟨parsed, retry, setups, rfl, rfl⟩
      · exact hpc'
      · exact absurd rfl (hw.flights id _ hid hflight)
    · constructor
      · by_contra hc
        obtain ⟨organization, user, rfl⟩ :=
          hcreated result hresult (Bool.eq_true_of_not_eq_false hc)
        exact hw.flights id _ hid hflight
      · by_contra hr
        cases hready result hresult (Bool.eq_true_of_not_eq_false hr)
        exact hw.flights id _ hid hflight rfl

/-- Once there is a user, there is one forever. No call of `createInitialAdmin` that is made
from then on succeeds, and no call of `setupStatus` says that the setup is open. -/
theorem setup_closes (ctx : AuthContext) (db : Database) (es fs : List SetupEvent)
    (w w' : SetupWorld) (h : (setupProgram ctx).machine.run (setupInitial db) es = some w)
    (huser : HasUser w.database.tables)
    (h' : (setupProgram ctx).machine.run w fs = some w') :
    HasUser w'.database.tables ∧
      ∀ r ∈ w'.results, w.nextCall ≤ r.1 → IsCreated r.2 = false ∧ IsReady r.2 = false := by
  have hnumbered := Machine.invariant (AsyncProgram.step_numbered (P := setupProgram ctx)) es _ w
    (AsyncProgram.numbered_initial _ _) h
  have hclosed : ClosedFrom w.nextCall w :=
    ⟨huser, Nat.le_refl _,
      fun id f hid hf => absurd (hnumbered.flights id f hf).1 (Nat.not_lt.mpr hid),
      fun r hr hid => absurd (hnumbered.results r hr) (Nat.not_lt.mpr hid)⟩
  have hw' := Machine.invariant (step_closedFrom ctx w.nextCall) fs _ w' hclosed h'
  exact ⟨hw'.user, hw'.results⟩

/-- A run after the setup: the status is asked for, read from the database and returned. -/
def lateSetup : List SetupEvent :=
  [.invoke .setupStatus {}, .execute 2 {}, .resume 2 {}]

/-- A setup behind them finds the service set up. -/
theorem setup_closes_concurrentSetup :
    ∃ w w', (setupProgram productionContext).machine.run (setupInitial Database.empty)
        concurrentSetup = some w ∧ (setupProgram productionContext).machine.run w lateSetup = some w' ∧
      HasUser w'.database.tables ∧
      ∀ r ∈ w'.results, w.nextCall ≤ r.1 → IsCreated r.2 = false ∧ IsReady r.2 = false := by
  have hrun : ((setupProgram productionContext).machine.run (setupInitial Database.empty)
      concurrentSetup).any (fun w => (w.database.tables.findUser "user_a3").isSome &&
        ((setupProgram productionContext).machine.run w lateSetup).isSome) = true := by
    decide +kernel
  obtain ⟨w, hw, hcheck⟩ := (Option.any_eq_true _ _).mp hrun
  rw [Bool.and_eq_true, Option.isSome_iff_exists, Option.isSome_iff_exists] at hcheck
  obtain ⟨⟨user, huser⟩, w', hw'⟩ := hcheck
  exact ⟨w, w', hw, hw', setup_closes productionContext Database.empty concurrentSetup lateSetup
    w w' hw ⟨_, user, huser⟩ hw'⟩

end Dcvp.Proofs
