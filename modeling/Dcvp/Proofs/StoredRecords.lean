import Dcvp.Proofs.StorePaths
import Dcvp.Services.PlatformStore.IdentityEnvironment

/-!
# `Dcvp.Proofs.StoredRecords`: what a call that creates one record leaves

The environment check, the verification and the report are each stored by one statement, or at
the front of one array of the memory. `orOnMemory_cases` is the case analysis for such a call:
it throws and leaves the store, the database has it, or the memory has it.
-/

set_option autoImplicit false

namespace Dcvp.Proofs

open Dcvp.Lib
open Dcvp.Lib.Computation
open Dcvp.Shared
open Dcvp.Services
open Dcvp.Services.PlatformStore

/-- A call whose operation leaves the database when it throws. Either the call throws and leaves
the store, or one of the two storages has the record. -/
theorem orOnMemory_cases {α : Type} {ctx : StoreContext} {operation : DatabaseOperation α}
    (hatomic : Atomic operation) {f : PlatformMemory → α × PlatformMemory} {store after : Store}
    {ended : Except ServiceException α}
    (h : orOnMemory (tryDatabase ctx operation) (fun memory => .ok (f memory)) store =
      (ended, after)) :
    (∃ error, ended = .error error ∧ after = store) ∨
    (∃ a db, operation store.database = (.ok a, db) ∧ ended = .ok a ∧
      after = { store with database := db }) ∨
    (ended = .ok (f store.memory).1 ∧ after.memory = (f store.memory).2 ∧
      after.database = store.database) := by
  unfold orOnMemory at h
  cases htry : tryDatabase ctx operation store with
  | mk answer store' =>
      cases answer with
      | error error =>
          rw [bind_error htry] at h
          cases h
          obtain ⟨-, error', db, hrun, hstore, -⟩ := tryDatabase_error htry
          have hdb : db = store.database := by
            have hkept := hatomic store.database error' (by rw [hrun])
            rw [hrun] at hkept
            exact hkept
          subst hdb
          exact .inl ⟨error, rfl, hstore⟩
      | ok answer =>
          rw [bind_ok htry] at h
          rcases tryDatabase_ok htry with ⟨a, db, hrun, rfl, rfl, -⟩ | ⟨rfl, -, hleft⟩
          · cases h
            exact .inr (.inl ⟨a, db, hrun, rfl, rfl⟩)
          · -- The memory takes the record. The database is as it was in either case.
            have hmemory : store'.memory = store.memory ∧ store'.database = store.database := by
              rcases hleft with rfl | ⟨error, db, hrun, -, rfl⟩
              · exact ⟨rfl, rfl⟩
              · have hkept := hatomic store.database error (by rw [hrun])
                rw [hrun] at hkept
                exact ⟨rfl, hkept⟩
            cases h
            rw [← hmemory.1]
            exact .inr (.inr ⟨rfl, rfl, hmemory.2⟩)

/-- A created row stands behind the others. -/
theorem create_rows {ρ : Type} {key : ρ → String} {table : Table key} {row : ρ}
    {put : Table key → PlatformTables} {db : PlatformDatabase}
    (h : PlatformDatabase.create table row put = .ok db) :
    ∃ table' : Table key, table'.rows = table.rows ++ [row] ∧ db.toPlatformTables = put table' := by
  obtain ⟨table', hinsert, htables⟩ := PlatformDatabase.create_eq_ok h
  exact ⟨table', Table.rows_insert? hinsert, htables⟩

/-- A store that uses its memory does not ask the database, and the operation on the memory runs.
-/
theorem orOnMemory_inMemory {α : Type} {ctx : StoreContext} {operation : DatabaseOperation α}
    {f : PlatformMemory → α × PlatformMemory} {store : Store}
    (hmode : store.usesMemory ctx = true) :
    orOnMemory (tryDatabase ctx operation) (fun memory => .ok (f memory)) store =
      (.ok (f store.memory).1, store.withMemory (f store.memory).2) := by
  have htry : tryDatabase ctx operation store = (.ok none, store) := by
    unfold tryDatabase
    rw [if_pos hmode]
  unfold orOnMemory
  rw [bind_ok htry]
  rfl

/-- A process without a database. -/
def offlineContext : StoreContext := { deployedContext with databaseUrl := none }

/-- The store when the process starts. -/
def seedStore : Store where
  memory := createPlatformSeedData 0
  database := .empty

/-! ### The environment check -/

section
variable {ctx : StoreContext} {invite : CandidateInvite} {input : CreateEnvironmentCheckInput}
  {turn : PlatformInput}

/-- The check is one row, with its results in a column of it. -/
theorem atomic_saveEnvironmentCheck :
    Atomic (saveEnvironmentCheckInDatabase invite input turn) :=
  .updates_bind fun _ _ _ => ⟨_, rfl⟩

/-- The check that the memory has after the call. -/
theorem saveEnvironmentCheck_inMemory {store : Store} (hmode : store.usesMemory ctx = true) :
    saveEnvironmentCheck ctx invite input turn store =
      (.ok (saveCandidateEnvironmentCheckInStore store.memory.environmentChecks invite input
          turn).1,
        store.withMemory { store.memory with
          environmentChecks := (saveCandidateEnvironmentCheckInStore
            store.memory.environmentChecks invite input turn).2 }) :=
  orOnMemory_inMemory hmode

/-- The row that the database has after the call. -/
theorem saveEnvironmentCheckInDatabase_ok {db db' : PlatformDatabase} {check : EnvironmentCheck}
    (h : saveEnvironmentCheckInDatabase invite input turn db = (.ok check, db')) :
    db'.environmentChecks.rows =
      db.environmentChecks.rows ++ [newEnvironmentCheckRow invite input turn] := by
  obtain ⟨_, db₁, hcreate, hpure⟩ := bind_returns.mp h
  obtain ⟨-, rfl⟩ := pure_returns.mp hpure
  obtain ⟨table, hrows, htables⟩ := create_rows (updates_returns.mp hcreate)
  have hchecks : db₁.environmentChecks = table := congrArg PlatformTables.environmentChecks htables
  rw [hchecks]
  exact hrows

end

/-! ### The verification -/

section
variable {ctx : StoreContext} {invite : CandidateInvite} {input : CreateIdentityVerificationInput}
  {turn : PlatformInput}

/-- The verification is one row, and its columns are computed before it is written. -/
theorem atomic_verifyIdentity {acceptedAt : String} {result : IdentityVerificationEngineResult} :
    Atomic (verifyIdentityInDatabase ctx invite input acceptedAt result turn) :=
  .bind_reads fun _ => .updates_bind fun _ _ _ => ⟨_, rfl⟩

/-- The row that the database has after the call is the one that was made of the provider's result,
behind all others. -/
theorem verifyIdentityInDatabase_ok {acceptedAt : String}
    {result : IdentityVerificationEngineResult} {db db' : PlatformDatabase}
    {verification : IdentityVerification}
    (h : verifyIdentityInDatabase ctx invite input acceptedAt result turn db =
      (.ok verification, db')) :
    ∃ row, identityVerificationRow ctx invite input acceptedAt result turn = .ok row ∧
      db'.identityVerifications.rows = db.identityVerifications.rows ++ [row] := by
  obtain ⟨row, db₁, hread, hrest⟩ := bind_returns.mp h
  obtain ⟨hrow, rfl⟩ := reads_returns.mp hread
  obtain ⟨_, db₂, hcreate, hpure⟩ := bind_returns.mp hrest
  obtain ⟨-, rfl⟩ := pure_returns.mp hpure
  obtain ⟨table, hrows, htables⟩ := create_rows (updates_returns.mp hcreate)
  have hverifications : db₂.identityVerifications = table :=
    congrArg PlatformTables.identityVerifications htables
  rw [hverifications]
  exact ⟨row, hrow, hrows⟩

/-- The verification throws and leaves the store, or it stores the decision about the result of
the provider. -/
theorem verifyIdentity_cases {store after : Store}
    {ended : Except ServiceException IdentityVerification}
    (h : verifyIdentity ctx invite input turn store = (ended, after)) :
    (∃ error, ended = .error error ∧ after = store) ∨
    ∃ acceptedAt result, turn.verified = .ok result ∧ (∃ verification, ended = .ok verification) ∧
      ((∃ row db, identityVerificationRow ctx invite input acceptedAt result turn = .ok row ∧
          db.identityVerifications.rows = store.database.identityVerifications.rows ++ [row] ∧
          after = { store with database := db }) ∨
        (after.memory.identityVerifications =
            newIdentityVerification invite input acceptedAt result turn ::
              store.memory.identityVerifications ∧
          after.database = store.database)) := by
  unfold verifyIdentity at h
  -- The input is checked and the engine is asked before either storage is touched.
  cases hinput : checkIdentityInput invite input with
  | error error =>
      simp only [reads_bind, hinput] at h
      cases h
      exact .inl ⟨error, rfl, rfl⟩
  | ok acceptedAt =>
      simp only [reads_bind, hinput] at h
      cases hverified : turn.verified with
      | error error =>
          simp only [hverified] at h
          cases h
          exact .inl ⟨error, rfl, rfl⟩
      | ok result =>
          simp only [hverified] at h
          rcases orOnMemory_cases atomic_verifyIdentity h with
            ⟨error, hended, hafter⟩ | ⟨verification, db, hrun, hended, hafter⟩ |
              ⟨hended, hmemory, hdatabase⟩
          · exact .inl ⟨error, hended, hafter⟩
          · obtain ⟨row, hrow, hrows⟩ := verifyIdentityInDatabase_ok hrun
            exact .inr ⟨acceptedAt, result, rfl, ⟨_, hended⟩, .inl ⟨row, db, hrow, hrows, hafter⟩⟩
          · refine .inr ⟨acceptedAt, result, rfl, ⟨_, hended⟩, .inr ⟨?_, hdatabase⟩⟩
            rw [hmemory]

end

end Dcvp.Proofs
