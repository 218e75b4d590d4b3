import Dcvp.Proofs.GrantedRoles
import Dcvp.Proofs.InitialAdmin

/-!
# `Dcvp.Proofs.OperatorOrigin`: where operators come from

The role `ADMIN` is written by two statements of the whole account system: the setup of the
first operator, and the edit of an account. The other three statements that write a role take
it from a stored request or invitation, and those never ask for `ADMIN`, because the check of
the form refuses it before the row is stored. `grantOutline` carries this through the controller
and the setup, where a call of the account services is one of many. `operator_origin` is the result
for every step of every run.

`affiliated_run` is about the organization that comes with a role: a user with rights always
belongs to one. It needs nothing of the requests and invitations, because every statement that
writes a role writes an organization with it.
-/

set_option autoImplicit false

namespace Dcvp.Proofs

open Dcvp.Lib
open Dcvp.Services
open Dcvp.Services.InitialAdmin
open Dcvp.Modules.AdminUsersController
open Dcvp.Shared (AuthSession UserRole)

/-! ### The controller -/

/-- An operation of `AuthService` stores no request and no invitation. -/
theorem authEffect_within {scope : GrantScope} {db db' : Database} (h : AuthEffect db db')
    (hdb : GrantsWithin scope db) : GrantsWithin scope db' := by
  cases h with
  | placed hplaced =>
      exact hdb.of_tables (by rw [hplaced.tables]) (by rw [hplaced.tables])
  | registered row hrole hfree hnew htables hfind =>
      exact hdb.of_tables (by rw [htables]) (by rw [htables])

/-- The assertion of a suspended call of the controller. Only a call that is in a service of the
accounts carries a role. -/
def GrantScope.ControllerWaits (scope : GrantScope) : ControllerWaiting → Prop
  | .inService _ _ pc => scope.Waits pc
  | _ => True

@[inherit_doc GrantScope.ControllerWaits]
def GrantScope.ControllerHolds (scope : GrantScope) : ControllerReady → Prop
  | .inService _ _ reply => scope.Holds reply
  | _ => True

/-- The outline of the setup and all other calls. No assertion looks at the shared state. -/
def grantOutline (scope : GrantScope) : Outline AuthMemory SetupDatabase Waiting Ready where
  Inv _ d := GrantsWithin scope d.tables
  Waits
    | .service pc, _, _ => scope.ControllerWaits pc
    | _, _, _ => True
  Holds
    | .service reply, _, _ => scope.ControllerHolds reply
    | _, _, _ => True

section
variable {scope : GrantScope}

/-- Where a segment of the service call waits. -/
theorem ofService_within {memory memory' : AuthMemory} {token : Option String} {method : Method}
    {o : Outcome AccountWaiting AccountResult} {pc : ControllerWaiting}
    (h : ofService memory token method o = (memory', .suspended pc))
    (ho : ∀ pc', o = .suspended pc' → scope.Waits pc') : scope.ControllerWaits pc := by
  cases o with
  | suspended pc' => cases h; exact ho pc' rfl
  | finished result => cases result <;> cases h; trivial

/-- A call that waits behind `me` waits for a read, or as the first segment of its service call
does. -/
theorem ofMe_within {ctx : AuthContext} {memory : AuthMemory} {token : Option String}
    {method : Method} {seg : AuthSegment} {pc : ControllerWaiting}
    (h : ofMe ctx token method seg = (memory, .suspended pc)) : scope.ControllerWaits pc := by
  obtain ⟨m, o⟩ := seg
  cases o with
  | suspended pc' => cases h; trivial
  | finished result =>
      cases result with
      | error error => cases h
      | ok session =>
          cases session with
          | none => cases h
          | some session => exact ofService_within h fun pc' hpc' => segment_within hpc'

/-- A suspended call of `AuthService` asserts nothing. -/
theorem ofAuth_within {memory : AuthMemory} {seg : AuthSegment} {pc : ControllerWaiting}
    (h : ofAuth seg = (memory, .suspended pc)) : scope.ControllerWaits pc := by
  obtain ⟨m, o⟩ := seg
  cases o <;> cases h
  trivial

/-- A refresh grants nothing. -/
theorem ofRefresh_within {memory : AuthMemory} {value : AccountValue} {seg : AuthSegment}
    {pc : ControllerWaiting} (h : ofRefresh value seg = (memory, .suspended pc)) :
    scope.ControllerWaits pc := by
  obtain ⟨m, o⟩ := seg
  cases o with
  | suspended pc' => cases h; trivial
  | finished result => cases result <;> cases h

/-- A call of the controller begins with a read. -/
theorem controllerStart_within {ctx : AuthContext} {call : ControllerCall}
    {input : ControllerInput} {m m' : AuthMemory} {pc : ControllerWaiting}
    (h : controllerStart ctx call input m = some (m', .suspended pc)) :
    scope.ControllerWaits pc := by
  cases call with
  | auth call =>
      have hsegment : ∃ seg, authStart ctx call input.auth m = some seg ∧
          ofAuth seg = (m', .suspended pc) := by
        cases call with
        | otherStatement write => cases h
        | _ => exact Option.map_eq_some_iff.mp h
      obtain ⟨seg, -, heq⟩ := hsegment
      exact ofAuth_within heq
  | request authorization method => exact ofMe_within (Option.some.inj h)

/-- A call goes on within the scope. What a service is going to write was checked by its form, or
read from a row within the scope. -/
theorem controllerResume_within {ctx : AuthContext} {reply : ControllerReady}
    {input : ControllerInput} {m m' : AuthMemory} {pc : ControllerWaiting}
    (hreply : scope.ControllerHolds reply)
    (h : controllerResume ctx reply input m = some (m', .suspended pc)) :
    scope.ControllerWaits pc := by
  -- Only a reply of an account service leads back into one; the replies of `AuthService` start with
  -- a first segment again.
  cases reply with
  | auth reply =>
      obtain ⟨seg, -, heq⟩ := Option.map_eq_some_iff.mp h
      exact ofAuth_within heq
  | inMe token method reply =>
      obtain ⟨seg, -, heq⟩ := Option.map_eq_some_iff.mp h
      exact ofMe_within heq
  | inService token method reply =>
      obtain ⟨⟨m₁, o⟩, hresume, heq⟩ := Option.map_eq_some_iff.mp h
      refine ofService_within heq fun pc' hpc' => ?_
      cases hpc'
      exact resume_within hreply hresume
  | serviceReturned token method value =>
      replace h := Option.some.inj h
      unfold afterService at h
      split at h
      · exact ofRefresh_within h
      · cases h
  | inRefresh value reply =>
      obtain ⟨seg, -, heq⟩ := Option.map_eq_some_iff.mp h
      exact ofRefresh_within heq

/-- An operation of the controller, whose waiting call grants within the scope, leaves only such
grants and answers with them. -/
theorem controllerExecute_within {ctx : AuthContext} {pc : ControllerWaiting}
    {input : ControllerInput} {db db' : Database} {ready : ControllerReady}
    (hdb : GrantsWithin scope db) (hpc : scope.ControllerWaits pc)
    (h : controllerExecute ctx pc input db = some (db', ready)) :
    GrantsWithin scope db' ∧ scope.ControllerHolds ready := by
  rcases controllerExecute_cases h with
    ⟨heffect, -, hready⟩ | ⟨token, method, pc', reply, rfl, rfl, hexec⟩
  · refine ⟨authEffect_within heffect hdb, ?_⟩
    cases ready with
    | inService token method reply => exact absurd rfl (hready token method reply)
    | _ => trivial
  · exact execute_within hdb hpc hexec

/-- The setup of the first administrator stores no request and no invitation, so all of them stay
within the scope. -/
theorem setupWrites_within {ctx : AuthContext} {parsed : CreateInitialAdminInput}
    {input : AccountInput} {db db' : Database} {organization : OrganizationRow}
    {user : UserRow} (hdb : GrantsWithin scope db)
    (h : setupWrites ctx parsed input db = .ok (db', organization, user)) :
    GrantsWithin scope db' := by
  obtain ⟨db₁, horganization, h⟩ := bind_eq_ok.mp h
  obtain ⟨passwordHash, -, h⟩ := bind_eq_ok.mp h
  obtain ⟨⟨db₂, row⟩, huser, h⟩ := bind_eq_ok.mp h
  cases h
  obtain ⟨_, -, htables⟩ := Database.tables_of_createOrganization horganization
  obtain ⟨users, -, husers, -⟩ := Database.tables_of_createUser huser
  exact hdb.of_tables (by rw [husers, htables]) (by rw [husers, htables])

end

/-- The outline of the grants holds for the whole system. The setup itself has no request and no
invitation in hand, so only the services below it matter. -/
theorem grantOutline_proved (scope : GrantScope) (ctx : AuthContext) :
    (grantOutline scope).Proved (setupProgram ctx) fun _ _ _ _ => True where
  start call input m d m' o hinv h := by
    refine ⟨hinv, trivial, fun pc hpc => ?_⟩
    subst hpc
    -- The setup itself has no request and no invitation in hand, so only the services below it
    -- matter.
    cases pc with
    | service pc =>
        cases call with
        | service call =>
            obtain ⟨⟨m₁, o₁⟩, hstart, heq⟩ := Option.map_eq_some_iff.mp h
            cases o₁ with
            | suspended pc' => cases heq; exact controllerStart_within hstart
            | finished result => cases heq
        | setupStatus =>
            have heq := congrArg Prod.snd (Option.some.inj h)
            simp only [InitialAdmin.setupStatus] at heq
            split at heq <;> cases heq
        | createInitialAdmin data =>
            have heq := congrArg Prod.snd (Option.some.inj h)
            simp only [InitialAdmin.createInitialAdmin] at heq
            split at heq
            · cases heq
            · split at heq <;> cases heq
    | _ => trivial
  execute pc input m d d' ready hinv hwaits h := by
    rcases setupExecute_cases h with
      ⟨pc', reply, db', rfl, rfl, rfl, hservice⟩ | ⟨-, rfl, hready⟩ |
      ⟨parsed, retry, -, rfl, rfl⟩ | ⟨parsed, retry, error, rfl, rfl⟩ |
      ⟨parsed, retry, setups, db', organization, user, -, -, hwrites, rfl, rfl⟩
    · obtain ⟨hinv', hholds⟩ := controllerExecute_within hinv hwaits hservice
      exact ⟨hinv', trivial, hholds⟩
    · rcases hready with rfl | rfl <;> exact ⟨hinv, trivial, trivial⟩
    · exact ⟨hinv, trivial, trivial⟩
    · exact ⟨hinv, trivial, trivial⟩
    · exact ⟨setupWrites_within hinv hwrites, trivial, trivial⟩
  resume reply input m d m' o hinv hholds h := by
    refine ⟨hinv, trivial, fun pc hpc => ?_⟩
    subst hpc
    cases pc with
    | service pc =>
        cases reply with
        | service reply =>
            obtain ⟨⟨m₁, o₁⟩, hresume, heq⟩ := Option.map_eq_some_iff.mp h
            cases o₁ with
            | suspended pc' => cases heq; exact controllerResume_within hholds hresume
            | finished result => cases heq
        | statusCounted userCount => cases h
        | statusFailed => cases h
        | setupBegan parsed retry setups userCount =>
            have heq := congrArg Prod.snd (Option.some.inj h)
            simp only [afterCount, afterFailure] at heq
            split at heq
            · split at heq <;> cases heq
            · cases heq
        | setupFailed parsed retry error =>
            have heq := congrArg Prod.snd (Option.some.inj h)
            simp only [afterFailure] at heq
            split at heq <;> cases heq
        | setupCommitted organization user =>
            obtain ⟨_, -, heq⟩ := Option.map_eq_some_iff.mp h
            cases heq
    | _ => trivial
  stable f m d m' d' _ hf := by
    cases f with
    | waiting pc => cases pc <;> exact hf
    | ready reply => cases reply <;> exact hf

/-- The outline is valid before the first call. -/
theorem grantOutline_initial {scope : GrantScope} {db : Database} (hdb : GrantsWithin scope db) :
    (grantOutline scope).Valid (setupInitial db) :=
  Outline.valid_initial (grantOutline scope)
    (show (grantOutline scope).Inv {} { tables := db } from hdb)

/-! ### Where operators come from -/

/-- Nobody asks for the role of an operator. -/
def noOperator : GrantScope where
  requests role := role ≠ .admin
  invitations role := role ≠ .admin
  ofRequestForm _ h := h
  ofInvitationForm _ h := by
    rcases h with rfl | rfl <;> decide

/-- The user has the role `ADMIN`. -/
def IsOperator (db : Database) (id : String) : Prop :=
  ∃ user, db.findUser id = some user ∧ user.role = .admin

/-- A place that has not changed makes nobody an operator. -/
theorem isOperator_of_place {db db' : Database} {id : String} (h : place db' id = place db id)
    (hnew : IsOperator db' id) : IsOperator db id := by
  obtain ⟨user, hfind, hadmin⟩ := hnew
  unfold place at h
  rw [hfind, Option.map_some] at h
  obtain ⟨old, hold, heq⟩ := Option.map_eq_some_iff.mp h.symm
  exact ⟨old, hold, (Prod.mk.inj heq).1.trans hadmin⟩

/-- A statement of the account services that makes an operator is the edit by an operator. -/
theorem operator_of_statement {ctx : AuthContext} {pc : AccountWaiting} {input : AccountInput}
    {db db' : Database} {reply : AccountReply} {id : String} (hpc : noOperator.Waits pc)
    (h : accountStatement ctx pc input db = .ok (db', reply)) (hold : ¬ IsOperator db id)
    (hnew : IsOperator db' id) :
    ∃ session target parsed, pc = .adminUsers session (.updateWrites id target parsed) ∧
      session.user.role = .admin := by
  obtain ⟨user, hfind', hadmin⟩ := hnew
  -- An account becomes an operator only where its role is written, and the places that write a role
  -- other than an edit have it from a stored grant.
  cases statement_effect h with
  | kept _ hfind => exact absurd ⟨user, by rw [← hfind]; exact hfind', hadmin⟩ hold
  | wrote write row hwrite _ hwrote =>
      by_cases hid : id = write.userId
      · obtain ⟨row', hrow', hrole, -⟩ := hwrote.written
        rw [hid, hrow'] at hfind'
        cases hfind'
        have hwritten : write.role = .admin := hrole.symm.trans hadmin
        -- The scope says of each grant that its role is not the operator's, and of an edit that its
        -- session's is.
        cases pc with
        | openSession userId token => cases hwrite
        | requests session pc =>
            cases pc with
            | reviewCommits request action =>
                cases action with
                | reject reason => cases hwrite
                | approve => cases hwrite; exact absurd hwritten hpc
            | _ => cases hwrite
        | invitations session pc =>
            cases pc with
            | acceptCommits invitation => cases hwrite; exact absurd hwritten hpc
            | _ => cases hwrite
        | adminUsers session pc =>
            cases pc with
            | updateWrites userId target parsed =>
                cases hwrite
                exact ⟨session, target, parsed, by rw [hid], hpc hwritten⟩
            | _ => cases hwrite
        | signups pc =>
            cases pc with
            | reviewCommits session request existingUser =>
                cases existingUser <;> cases hwrite
                cases hwritten
            | _ => cases hwrite
      · exact absurd ⟨user, by rw [← hwrote.others id hid]; exact hfind', hadmin⟩ hold
  | created _ row hrole hnone hfind =>
      rw [hfind] at hfind'
      split at hfind'
      · cases hfind'
        rw [hrole] at hadmin
        cases hadmin
      · exact absurd ⟨user, hfind', hadmin⟩ hold
  | deleted _ userId actor hactor hrole hother hfind hgone _ =>
      by_cases hid : id = userId
      · rw [hid, hgone] at hfind'
        cases hfind'
      · exact absurd ⟨user, by rw [← hfind id hid]; exact hfind', hadmin⟩ hold

/-- The move is the commit of the first setup. -/
def CommitsFirstSetup (w : SetupWorld) (e : SetupEvent) : Prop :=
  ∃ id input parsed retry, e = .execute id input ∧
    w.flights.get? id = some (.waiting (.setupCommits parsed retry 0)) ∧ w.database.setups = 0

/-- The move writes the edit of an account, in a request with the session of an operator. -/
def EditsAsOperator (w : SetupWorld) (e : SetupEvent) (userId : String) : Prop :=
  ∃ id input token method session target parsed, e = .execute id input ∧
    w.flights.get? id = some (.waiting (.service (.inService token method
      (.adminUsers session (.updateWrites userId target parsed))))) ∧
    session.user.role = .admin

/-- Where operators come from. Over a database in which nothing asks for an operator, in every
run of all calls beside each other: a move after which a user is an operator, who was none
before it, commits the first setup, or writes an edit that an operator has made. -/
theorem operator_origin (ctx : AuthContext) (db : Database) (hdb : GrantsWithin noOperator db)
    (es : List SetupEvent) (e : SetupEvent) (w w' : SetupWorld)
    (h : (setupProgram ctx).machine.run (setupInitial db) es = some w)
    (hstep : (setupProgram ctx).machine.step w e = some w') (id : String)
    (hold : ¬ IsOperator w.database.tables id) (hnew : IsOperator w'.database.tables id) :
    CommitsFirstSetup w e ∨ EditsAsOperator w e id := by
  have hvalid := Outline.run_valid (grantOutline_proved noOperator ctx) es _ w
    (grantOutline_initial hdb) h
  have honce := Machine.invariant (step_setupOnce ctx) es _ w (setupOnce_initial db) h
  rcases AsyncProgram.step_cases hstep with
    ⟨call, input, m, o, -, -, rfl⟩ | ⟨n, input, pc, d, ready, rfl, hflight, hexec, rfl⟩ |
    ⟨n, input, reply, m, o, -, -, -, rfl⟩
  · rw [World.conclude_database] at hnew
    exact absurd hnew hold
  · rcases setupExecute_cases hexec with
      ⟨pc', reply, db', rfl, rfl, rfl, hservice⟩ | ⟨-, rfl, hready⟩ |
      ⟨parsed, retry, -, rfl, rfl⟩ | ⟨parsed, retry, error, rfl, rfl⟩ |
      ⟨parsed, retry, setups, db', organization, user, rfl, hsame, -, rfl, rfl⟩
    · right
      rcases controllerExecute_cases hservice with
        ⟨heffect, -⟩ | ⟨token, method, pc'', ready, rfl, rfl, haccount⟩
      · -- The operations of `AuthService` leave places alone, or add a candidate.
        cases heffect with
        | placed hplaced => exact absurd (isOperator_of_place (hplaced.places id) hnew) hold
        | registered row hrole _ _ _ hfind =>
            obtain ⟨user, hfind', hadmin⟩ := hnew
            replace hfind' : db'.findUser id = some user := hfind'
            rw [hfind] at hfind'
            split at hfind'
            · cases hfind'
              rw [hrole] at hadmin
              cases hadmin
            · exact absurd ⟨user, hfind', hadmin⟩ hold
      · rcases execute_cases haccount with ⟨answer, -, hstatement⟩ | ⟨error, -, rfl⟩
        · obtain ⟨session, target, parsed, rfl, hadmin⟩ :=
            operator_of_statement (hvalid.flights n _ hflight) hstatement hold hnew
          exact ⟨n, input, token, method, session, target, parsed, rfl, hflight, hadmin⟩
        · exact absurd hnew hold
    · exact absurd hnew hold
    · exact absurd hnew hold
    · exact absurd hnew hold
    · have hzero : setups = 0 := honce.first n _ hflight
      subst hzero
      exact Or.inl ⟨n, input, parsed, retry, rfl, hflight, hsame⟩
  · rw [World.conclude_database] at hnew
    exact absurd hnew hold

/-- An empty database asks for nothing. -/
theorem grantsWithin_empty {scope : GrantScope} : GrantsWithin scope Database.empty where
  requests r hr := by cases hr
  invitations i hi := by cases hi

/-- The commit of the first setup is such a move: before it there is no user, and after it there is
an operator. -/
theorem operator_origin_setup :
    ∃ w w' e, (setupProgram productionContext).machine.run (setupInitial Database.empty)
        (concurrentSetup.take 6) = some w ∧
      (setupProgram productionContext).machine.step w e = some w' ∧
      (CommitsFirstSetup w e ∨ EditsAsOperator w e "user_a3") := by
  have hrun : ((setupProgram productionContext).machine.run (setupInitial Database.empty)
      (concurrentSetup.take 6)).any (fun w =>
        !(w.database.tables.findUser "user_a3").isSome &&
        ((concurrentSetup[6]?).bind ((setupProgram productionContext).machine.step w)).any
          fun w' => (w'.database.tables.findUser "user_a3").any fun u => u.role = .admin)
      = true := by
    decide +kernel
  obtain ⟨w, hw, hcheck⟩ := (Option.any_eq_true _ _).mp hrun
  rw [Bool.and_eq_true, Option.any_eq_true] at hcheck
  obtain ⟨hnone, w', hstep, hadmin⟩ := hcheck
  obtain ⟨e, -, hstep⟩ := Option.bind_eq_some_iff.mp hstep
  obtain ⟨user, huser, hrole⟩ := (Option.any_eq_true _ _).mp hadmin
  refine ⟨w, w', e, hw, hstep, operator_origin productionContext Database.empty
    grantsWithin_empty _ e w w' hw hstep "user_a3" ?_ ⟨user, huser, of_decide_eq_true hrole⟩⟩
  rintro ⟨old, hold, -⟩
  rw [hold] at hnone
  cases hnone

/-! ### The organizations of users with rights -/

/-- A user with rights has an organization. -/
def Affiliated (u : UserRow) : Prop := u.role ≠ .candidate → u.organizationId.isSome

/-- Every user with rights has one. -/
def UsersAffiliated (db : Database) : Prop :=
  ∀ id user, db.findUser id = some user → Affiliated user

section
variable {db db' : Database}

/-- A change that leaves every user in his place leaves each operator with his organization. -/
theorem usersAffiliated_of_placed (h : Placed db db') (hdb : UsersAffiliated db) :
    UsersAffiliated db' := by
  intro id user hfind hrole
  have hplace := h.places id
  unfold place at hplace
  rw [hfind, Option.map_some] at hplace
  obtain ⟨old, hold, heq⟩ := Option.map_eq_some_iff.mp hplace.symm
  obtain ⟨hroles, horganizations⟩ := Prod.mk.inj heq
  rw [← horganizations]
  exact hdb id old hold (by rw [hroles]; exact hrole)

/-- The operations of `AuthService` give nobody rights, and each operator keeps his organization.
-/
theorem usersAffiliated_of_authEffect (h : AuthEffect db db') (hdb : UsersAffiliated db) :
    UsersAffiliated db' := by
  cases h with
  | placed hplaced => exact usersAffiliated_of_placed hplaced hdb
  | registered row hcandidate hfree hnew htables hfind =>
      intro id user huser hrole
      rw [hfind] at huser
      split at huser
      · cases huser
        exact absurd hcandidate hrole
      · exact hdb id user huser hrole

/-- A statement of the account services that writes a role writes an organization with it. -/
theorem usersAffiliated_of_userEffect {ctx : AuthContext} {input : AccountInput}
    {pc : AccountWaiting} (h : UserEffect ctx input pc db db') (hdb : UsersAffiliated db) :
    UsersAffiliated db' := by
  intro id user huser hrole
  -- Every write of a role writes an organization with it.
  cases h with
  | kept _ hfind => exact hdb id user (by rw [← hfind]; exact huser) hrole
  | wrote write row _ _ hwrote =>
      by_cases hid : id = write.userId
      · obtain ⟨row', hrow', -, horganization⟩ := hwrote.written
        rw [hid, hrow'] at huser
        cases huser
        rw [horganization]
        rfl
      · exact hdb id user (by rw [← hwrote.others id hid]; exact huser) hrole
  | created _ row _ _ hfind horganization =>
      rw [hfind] at huser
      split at huser
      · cases huser
        exact horganization
      · exact hdb id user huser hrole
  | deleted _ userId _ _ _ _ hfind hgone _ =>
      by_cases hid : id = userId
      · rw [hid, hgone] at huser
        cases huser
      · exact hdb id user (by rw [← hfind id hid]; exact huser) hrole

/-- The operator of the setup belongs to the organization of the setup. -/
theorem usersAffiliated_of_setupWrites {ctx : AuthContext} {parsed : CreateInitialAdminInput}
    {input : AccountInput} {organization : OrganizationRow} {user : UserRow}
    (h : setupWrites ctx parsed input db = .ok (db', organization, user))
    (hdb : UsersAffiliated db) : UsersAffiliated db' := by
  obtain ⟨db₁, horganization, h⟩ := bind_eq_ok.mp h
  obtain ⟨passwordHash, -, h⟩ := bind_eq_ok.mp h
  obtain ⟨⟨db₂, row⟩, hcreate, h⟩ := bind_eq_ok.mp h
  cases h
  obtain ⟨_, -, htables⟩ := Database.tables_of_createOrganization horganization
  obtain ⟨users, hinsert, husers, -⟩ := Database.tables_of_createUser hcreate
  intro id user' huser hrole
  replace huser : db'.users.find? id = some user' := huser
  rw [husers, Table.find?_insert? hinsert] at huser
  split at huser
  · cases huser
    rfl
  · refine hdb id user' ?_ hrole
    show db.users.find? id = some user'
    rw [htables] at huser
    exact huser

end

/-- One move of all calls beside each other keeps every user with rights in some organization. -/
theorem usersAffiliated_step {ctx : AuthContext} {w w' : SetupWorld} {e : SetupEvent}
    (hw : UsersAffiliated w.database.tables)
    (h : (setupProgram ctx).machine.step w e = some w') : UsersAffiliated w'.database.tables := by
  rcases AsyncProgram.step_cases h with
    ⟨call, input, m, o, -, -, rfl⟩ | ⟨n, input, pc, d, ready, rfl, -, hexec, rfl⟩ |
    ⟨n, input, reply, m, o, -, -, -, rfl⟩
  · rw [World.conclude_database]
    exact hw
  · rcases setupExecute_cases hexec with
      ⟨pc', reply, db', rfl, rfl, rfl, hservice⟩ | ⟨-, rfl, hready⟩ |
      ⟨parsed, retry, -, rfl, rfl⟩ | ⟨parsed, retry, error, rfl, rfl⟩ |
      ⟨parsed, retry, setups, db', organization, user, rfl, -, hwrites, rfl, rfl⟩
    · rcases controllerExecute_cases hservice with
        ⟨heffect, -⟩ | ⟨token, method, pc'', ready, rfl, rfl, haccount⟩
      · exact usersAffiliated_of_authEffect heffect hw
      · rcases execute_cases haccount with ⟨answer, -, hstatement⟩ | ⟨error, -, rfl⟩
        · exact usersAffiliated_of_userEffect (statement_effect hstatement) hw
        · exact hw
    · exact hw
    · exact hw
    · exact hw
    · exact usersAffiliated_of_setupWrites hwrites hw
  · rw [World.conclude_database]
    exact hw

/-- A user with rights belongs to an organization that exists, in every state of every run of
all calls beside each other, if that is so at first. -/
theorem affiliated_run (ctx : AuthContext) (db : Database) (hdb : UsersAffiliated db)
    (es : List SetupEvent) (w : SetupWorld)
    (h : (setupProgram ctx).machine.run (setupInitial db) es = some w) (id : String)
    (user : UserRow) (hfind : w.database.tables.findUser id = some user)
    (hrole : user.role ≠ .candidate) :
    ∃ organization, w.database.tables.organizationOf user = some organization := by
  have haffiliated : UsersAffiliated w.database.tables :=
    Machine.invariant (fun _ _ _ hw hstep => usersAffiliated_step hw hstep) es _ w hdb h
  obtain ⟨organizationId, horganization⟩ :=
    Option.isSome_iff_exists.mp (haffiliated id user hfind hrole)
  have hmem := ((Table.find?_eq_some_iff _ _ _).mp hfind).1
  have hrelated := w.database.tables.related.1 user hmem organizationId
    (by rw [horganization]; rfl)
  obtain ⟨organization, horg⟩ := Option.ne_none_iff_exists'.mp hrelated
  exact ⟨organization, by unfold Database.organizationOf; rw [horganization]; exact horg⟩

/-- In the run with two setups at once, the operator that is created has an organization. -/
theorem affiliated_run_setup :
    ∃ w user organization, (setupProgram productionContext).machine.run
        (setupInitial Database.empty) concurrentSetup = some w ∧
      w.database.tables.organizationOf user = some organization := by
  have hrun : ((setupProgram productionContext).machine.run (setupInitial Database.empty)
      concurrentSetup).any (fun w =>
        (w.database.tables.findUser "user_a3").any fun u => u.role ≠ .candidate) = true := by
    decide +kernel
  obtain ⟨w, hw, hcheck⟩ := (Option.any_eq_true _ _).mp hrun
  obtain ⟨user, huser, hrole⟩ := (Option.any_eq_true _ _).mp hcheck
  obtain ⟨organization, horganization⟩ := affiliated_run productionContext Database.empty
    (fun _ _ hfind => by cases hfind) concurrentSetup w hw "user_a3" user huser (of_decide_eq_true hrole)
  exact ⟨w, user, organization, hw, horganization⟩

end Dcvp.Proofs
