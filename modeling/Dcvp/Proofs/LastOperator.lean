import Dcvp.Proofs.AccountWorkflows

/-!
# `Dcvp.Proofs.LastOperator`: when the last operator stays

`deleteManagedUser` counts the operators before it removes one. The four statements that
write a role do not. `operator_effect_iff` says for one statement when it leaves an operator,
by the cases of `UserEffect`. `last_operator_iff` carries it to runs: there is an operator in
every state if and only if no statement gives another role to the only operator.
-/

set_option autoImplicit false

namespace Dcvp.Proofs

open Dcvp.Lib
open Dcvp.Services
open Dcvp.Shared (AuthSession UserRole)

/-- Some user has the role `ADMIN`. -/
def HasOperator (db : Database) : Prop :=
  ∃ id row, db.findUser id = some row ∧ row.role = .admin

/-- The user has the role `ADMIN`, and no other one has it. -/
def OnlyOperator (db : Database) (id : String) : Prop :=
  (∃ row, db.findUser id = some row ∧ row.role = .admin) ∧
    ∀ k row, db.findUser k = some row → row.role = .admin → k = id

/-- One role write: an operator is left unless the only one got another role. -/
theorem operator_wrote_iff {write : RoleWrite} {row : UserRow} {db db' : Database}
    (h : RoleWritten write row db db') (hop : HasOperator db) :
    HasOperator db' ↔ (write.role ≠ .admin → ¬ OnlyOperator db write.userId) := by
  obtain ⟨row', hrow', hrole', -⟩ := h.written
  constructor
  · rintro ⟨id, r, hr, hadmin⟩ hrole ⟨-, honly⟩
    by_cases hid : id = write.userId
    · rw [hid, hrow'] at hr
      cases hr
      exact hrole (hrole'.symm.trans hadmin)
    · rw [h.others id hid] at hr
      exact hid (honly id r hr hadmin)
  · intro hkeep
    by_cases hrole : write.role = .admin
    · exact ⟨write.userId, row', hrow', hrole'.trans hrole⟩
    · -- If every operator were the written user, it would be the only one.
      by_contra hnone
      have hall : ∀ k r, db.findUser k = some r → r.role = .admin → k = write.userId := by
        intro k r hr hadmin
        by_contra hk
        exact hnone ⟨k, r, by rw [h.others k hk]; exact hr, hadmin⟩
      obtain ⟨id, r, hr, hadmin⟩ := hop
      have hid := hall id r hr hadmin
      exact hkeep hrole ⟨⟨r, hid ▸ hr, hadmin⟩, hall⟩

/-- One statement: an operator is left unless it gave another role to the only one. -/
theorem operator_effect_iff {ctx : AuthContext} {input : AccountInput} {pc : AccountWaiting}
    {db db' : Database} (h : UserEffect ctx input pc db db') (hop : HasOperator db) :
    HasOperator db' ↔ ∀ write, roleWrite ctx input pc = some write → write.role ≠ .admin →
      ¬ OnlyOperator db write.userId := by
  -- Without a role write the right side holds, and an operator is to be shown.
  have hvacuous : roleWrite ctx input pc = none → HasOperator db' →
      (HasOperator db' ↔ ∀ write, roleWrite ctx input pc = some write → write.role ≠ .admin →
        ¬ OnlyOperator db write.userId) := fun hnone hop' =>
    ⟨fun _ write hwrite => absurd (hnone.symm.trans hwrite) (by simp), fun _ => hop'⟩
  cases h with
  | kept hnone hfind =>
      obtain ⟨id, row, hrow, hadmin⟩ := hop
      exact hvacuous hnone ⟨id, row, by rw [hfind]; exact hrow, hadmin⟩
  | wrote write row hwrite hfree hwrote =>
      rw [operator_wrote_iff hwrote hop]
      constructor
      · intro hkeep write' hwrite'
        rw [hwrite] at hwrite'
        cases hwrite'
        exact hkeep
      · intro hkeep
        exact hkeep write hwrite
  | created hnone row hrole hnew hfind =>
      obtain ⟨id, r, hr, hadmin⟩ := hop
      have hid : row.id ≠ id := by
        intro heq
        rw [← heq, hnew] at hr
        cases hr
      exact hvacuous hnone ⟨id, r, by rw [hfind, if_neg hid]; exact hr, hadmin⟩
  | deleted hnone userId actor hactor hrole hother hfind hgone =>
      exact hvacuous hnone ⟨actor.id, actor, by rw [hfind _ hother]; exact hactor, hrole⟩

/-- A statement that commits gives no other role to the only operator. -/
def KeepsLastOperator (ctx : AuthContext) (w : AccountWorld) (e : AccountEvent) : Prop :=
  ∀ id input pc db' reply, e = .execute id input → w.flights.get? id = some (.waiting pc) →
    accountExecute ctx pc input w.database = some (db', .answered reply) →
    ∀ write, roleWrite ctx input pc = some write → write.role ≠ .admin →
      ¬ OnlyOperator w.database write.userId

/-- One move: from a state with an operator it leads to one exactly under the condition. -/
theorem step_operator_iff (ctx : AuthContext) (w : AccountWorld) (e : AccountEvent)
    (w' : AccountWorld) (hop : HasOperator w.database)
    (h : (accountProgram ctx).machine.step w e = some w') :
    HasOperator w'.database ↔ KeepsLastOperator ctx w e := by
  rcases AsyncProgram.step_cases h with
    ⟨call, input, m, o, rfl, -, rfl⟩ | ⟨id, input, pc, d, ready, rfl, hflight, hexec, rfl⟩ |
    ⟨id, input, reply, m, o, rfl, -, -, rfl⟩
  · rw [World.conclude_database]
    exact ⟨fun _ id input pc db' reply he => (by cases he), fun _ => hop⟩
  · show HasOperator d ↔ _
    rcases execute_cases hexec with ⟨reply, rfl, hstatement⟩ | ⟨error, rfl, rfl⟩
    · rw [operator_effect_iff (statement_effect hstatement) hop]
      constructor
      · intro hkeep id' input' pc' db' reply' he hf _
        cases he
        rw [hflight] at hf
        cases hf
        exact hkeep
      · intro hkeep
        exact hkeep id input pc d reply rfl hflight hexec
    · -- A statement that throws changes nothing.
      refine ⟨fun _ id' input' pc' db' reply' he hf hcommit => ?_, fun _ => hop⟩
      cases he
      rw [hflight] at hf
      cases hf
      have hexec' : accountExecute ctx pc input w.database = _ := hexec
      rw [hexec'] at hcommit
      cases hcommit
  · rw [World.conclude_database]
    exact ⟨fun _ id input pc db' reply he => (by cases he), fun _ => hop⟩

/-- The exact condition for the platform to keep an operator. In a run from a database with
an operator, with any sessions, every state has an operator if and only if every statement
that commits gives no role other than `ADMIN` to a user who is the only operator. -/
theorem last_operator_iff (ctx : AuthContext) (memory : AccountMemory) (db : Database)
    (hop : HasOperator db) (es : List AccountEvent) (w : AccountWorld)
    (h : (accountProgram ctx).machine.run { memory, database := db } es = some w) :
    (accountProgram ctx).machine.Always (fun w => HasOperator w.database)
        { memory, database := db } es ↔
      (accountProgram ctx).machine.Meets (KeepsLastOperator ctx)
        { memory, database := db } es :=
  Machine.always_iff_meets (I := fun _ => True) (fun _ _ _ _ _ => trivial)
    (fun w e w' _ hw hstep => step_operator_iff ctx w e w' hw hstep) es _ w trivial hop h

/-! ### An operator who edits the own account -/

/-- The row of the only operator. -/
def operatorRow : UserRow where
  id := "user_4f0c2a9b7d31"
  email := "operator@example.com"
  passwordHash := "pbkdf2-sha256$310000$c2FsdA$aGFzaA"
  name := "Operator"
  role := .admin
  organizationId := some "org_7a1e5c9d2b40"
  passwordChangedAt := some 1784332800000
  createdAt := 1784332800000

/-- The row of the operator's organization. -/
def operatorOrganization : OrganizationRow where
  id := "org_7a1e5c9d2b40"
  name := "Platform"
  joinCode := "ORG-1A2B3C4D"
  createdAt := 1784332800000

/-- A database with one operator and one organization. -/
def operatorDatabase : Database where
  users := ⟨[operatorRow], by decide⟩
  organizations := ⟨[operatorOrganization], by decide⟩
  unique := by decide
  related := by decide

/-- The session of the operator. -/
def operatorSession : AuthSession where
  token := "session_5d8e0f7a-91b2-4c3d-a6e4-2f1b0c9d8e7f"
  user := toUser operatorRow
  organization := toOrganization (some operatorOrganization)

/-- The operator signs in and gives the own account the role of a proctor. -/
def selfDemotion : List AccountEvent :=
  [.invoke (.openSession operatorRow.id operatorSession.token) {}, .execute 0 {}, .resume 0 {},
    .invoke (.adminUsers operatorSession (.updateManagedUser operatorRow.id
      { name := "Operator", email := "operator@example.com", role := .proctor,
        organizationId := some "org_7a1e5c9d2b40" })) {},
    .execute 1 {}, .resume 1 {}, .execute 1 {}, .resume 1 {}, .execute 1 {}, .resume 1 {}]

/-- The run exists, both of its calls succeed, and no operator is left. -/
theorem selfDemotion_run :
    ((accountProgram productionContext).machine.run { memory := {}, database := operatorDatabase }
      selfDemotion).any (fun w =>
        w.results.all (fun r => r.2.toOption.isSome) && decide (w.results.length = 2) &&
        w.database.users.rows.all (fun r => decide (r.role ≠ .admin))) = true := by
  decide +kernel

/-- The database of the example has an operator. -/
theorem hasOperator_operatorDatabase : HasOperator operatorDatabase :=
  ⟨operatorRow.id, operatorRow, by decide +kernel, rfl⟩

/-- The only operator edits its own account into another role. The edit succeeds, and leaves the
platform without an operator. -/
theorem updateManagedUser_demotes_last_operator :
    HasOperator operatorDatabase ∧
      ∃ w, (accountProgram productionContext).machine.run
          { memory := {}, database := operatorDatabase } selfDemotion = some w ∧
        (∀ r ∈ w.results, ∃ value, r.2 = .ok value) ∧ ¬ HasOperator w.database := by
  refine ⟨hasOperator_operatorDatabase, ?_⟩
  obtain ⟨w, hw, hcheck⟩ := (Option.any_eq_true _ _).mp selfDemotion_run
  simp only [Bool.and_eq_true, List.all_eq_true, decide_eq_true_eq] at hcheck
  obtain ⟨⟨hresults, -⟩, hrows⟩ := hcheck
  refine ⟨w, hw, fun r hr => ?_, ?_⟩
  · have hsome := hresults r hr
    cases hr2 : r.2 with
    | error e => rw [hr2] at hsome; cases hsome
    | ok value => exact ⟨value, rfl⟩
  · rintro ⟨id, row, hrow, hadmin⟩
    exact hrows row ((Table.find?_eq_some_iff _ _ _).mp hrow).1 hadmin

/-- The exact condition at that run, in which the last operator has made himself a candidate. -/
theorem last_operator_iff_selfDemotion :
    ∃ w, (accountProgram productionContext).machine.run
        { memory := {}, database := operatorDatabase } selfDemotion = some w ∧
      ((accountProgram productionContext).machine.Always (fun w => HasOperator w.database)
          { memory := {}, database := operatorDatabase } selfDemotion ↔
        (accountProgram productionContext).machine.Meets (KeepsLastOperator productionContext)
          { memory := {}, database := operatorDatabase } selfDemotion) := by
  obtain ⟨w, hw, -⟩ := (Option.any_eq_true _ _).mp selfDemotion_run
  exact ⟨w, hw, last_operator_iff productionContext {} operatorDatabase
    hasOperator_operatorDatabase selfDemotion w hw⟩

end Dcvp.Proofs
