import Dcvp.Services.PlatformStore.Reads

/-!
# `Dcvp.Proofs.StorePaths`: which path a reading method takes

What `tryDatabase` and the demo data do to a read. `databaseRead` is the database that an
operation on exams gets to see, and `none` when the memory is read.

The second half is about two stores at once. `StoresAgree Rm Rd` relates their memories by `Rm`
and their databases by `Rd`. What is coupled on the databases and on the memories is coupled on
the stores (`coupled_tryDatabase`, `coupled_trySeededDatabase`, `coupled_orInMemory`).
-/

set_option autoImplicit false

namespace Dcvp.Proofs

open Dcvp.Lib
open Dcvp.Lib.Computation
open Dcvp.Shared
open Dcvp.Services.PlatformStore

/-- The database behind `seededDatabaseContext`, with the demo data in place. It is `none` when
the store uses its memory, or when the demo data cannot be put in. -/
def databaseRead (ctx : StoreContext) (now : Int) (store : Store) : Option PlatformDatabase :=
  if store.usesMemory ctx then none
  else
    match ensurePlatformSeedData ctx store.memory.examAdminMemoryState now store.database with
    | (.ok (), db) => some db
    | (.error _, _) => none

section
variable {ctx : StoreContext} {now : Int} {store store' : Store} {α : Type}

/-- Where an operation succeeds, it worked on the database, or the answer is `null` and the store
uses its memory from here on. -/
theorem tryDatabase_ok {operation : DatabaseOperation α} {answer : Option α}
    (h : tryDatabase ctx operation store = (.ok answer, store')) :
    (∃ a db, operation store.database = (.ok a, db) ∧ answer = some a ∧
      store' = { store with database := db } ∧ store.usesMemory ctx = false) ∨
    (answer = none ∧ store'.usesMemory ctx = true ∧
      (store' = store ∨ ∃ error db, operation store.database = (.error error, db) ∧
        store.usesMemory ctx = false ∧
        store' = { store with database := db, databaseUnavailable := true })) := by
  unfold tryDatabase at h
  cases hmode : store.usesMemory ctx with
  | true =>
      rw [hmode] at h
      cases h
      exact .inr ⟨rfl, hmode, .inl rfl⟩
  | false =>
      rw [hmode] at h
      cases hrun : operation store.database with
      | mk ended db =>
          simp only [Bool.false_eq_true, if_false, hrun] at h
          cases ended with
          | ok a =>
              cases h
              exact .inl ⟨a, db, rfl, rfl, rfl, rfl⟩
          | error error =>
              simp only at h
              split at h
              · cases h
              · split at h
                · -- From the first failure on, the store goes on with its memory.
                  rename_i hfallback
                  cases h
                  refine .inr ⟨rfl, ?_, .inr ⟨error, db, rfl, rfl, rfl⟩⟩
                  simp [Store.usesMemory, hfallback]
                · cases h

/-- An operation that the database runs to its end. -/
theorem tryDatabase_ran {operation : DatabaseOperation α} {a : α} {db : PlatformDatabase}
    (hmode : store.usesMemory ctx = false) (h : operation store.database = (.ok a, db)) :
    tryDatabase ctx operation store = (.ok (some a), { store with database := db }) := by
  unfold tryDatabase
  rw [hmode, h]
  rfl

/-- An operation that the database does not run to its end. A refusal of the request is passed on.
After any other error the answer is `null` where the process may go on with its memory, and
the call throws where it may not. -/
theorem tryDatabase_failed_cases {operation : DatabaseOperation α} {error : ServiceException}
    {db : PlatformDatabase} (hmode : store.usesMemory ctx = false)
    (h : operation store.database = (.error error, db)) :
    ((isRequestException error = true ∨ ctx.databaseFallbackEnabled = false) ∧
      ∃ error', tryDatabase ctx operation store = (.error error', { store with database := db })) ∨
    (isRequestException error = false ∧ ctx.databaseFallbackEnabled = true ∧
      tryDatabase ctx operation store =
        (.ok none, { store with database := db, databaseUnavailable := true })) := by
  unfold tryDatabase
  rw [hmode, h]
  simp only [Bool.false_eq_true, if_false]
  split
  · rename_i hrequest
    exact .inl ⟨.inl hrequest, _, rfl⟩
  · rename_i hrequest
    split
    · rename_i hfallback
      exact .inr ⟨Bool.eq_false_iff.mpr hrequest, hfallback, rfl⟩
    · rename_i hfallback
      exact .inl ⟨.inr (Bool.eq_false_iff.mpr hfallback), _, rfl⟩

/-- An operation that the database does not run to its end: the call throws, or the answer is
`null`. -/
theorem tryDatabase_failed {operation : DatabaseOperation α} {error : ServiceException}
    {db : PlatformDatabase} (hmode : store.usesMemory ctx = false)
    (h : operation store.database = (.error error, db)) :
    (∃ error', tryDatabase ctx operation store = (.error error', { store with database := db })) ∨
    (ctx.databaseFallbackEnabled = true ∧ tryDatabase ctx operation store =
      (.ok none, { store with database := db, databaseUnavailable := true })) :=
  (tryDatabase_failed_cases hmode h).imp (fun h => h.2) fun h => h.2

/-- Where an operation throws, it threw on the database: an exception of a request, or any other
one in production. -/
theorem tryDatabase_error {operation : DatabaseOperation α} {error : ServiceException}
    (h : tryDatabase ctx operation store = (.error error, store')) :
    store.usesMemory ctx = false ∧ ∃ error' db, operation store.database = (.error error', db) ∧
      store' = { store with database := db } ∧
      (isRequestException error' = true ∧ error = error' ∨
        isRequestException error' = false ∧
          error = .http .serviceUnavailable "Database operation failed.") := by
  unfold tryDatabase at h
  -- In memory mode nothing throws, and a fall-back does not throw either. So the error is a request
  -- exception or the generic one of production.
  cases hmode : store.usesMemory ctx with
  | true =>
      rw [hmode] at h
      cases h
  | false =>
      rw [hmode] at h
      cases hrun : operation store.database with
      | mk ended db =>
          simp only [Bool.false_eq_true, if_false, hrun] at h
          cases ended with
          | ok a => cases h
          | error error' =>
              simp only at h
              split at h
              · rename_i hrequest
                cases h
                exact ⟨rfl, error, db, rfl, rfl, .inl ⟨hrequest, rfl⟩⟩
              · rename_i hrequest
                split at h
                · cases h
                · cases h
                  exact ⟨rfl, error', db, rfl, rfl, .inr ⟨by simpa using hrequest, rfl⟩⟩

/-- The operation of a seeded context, step by step. -/
theorem trySeededDatabase_apply (operation : DatabaseOperation α) :
    trySeededDatabase ctx operation now store = tryDatabase ctx (do
      ensurePlatformSeedData ctx store.memory.examAdminMemoryState now
      operation) store := by
  unfold trySeededDatabase
  rw [bind_apply]
  rfl

/-- An operation that only looks, in a seeded context: it answers from `databaseRead`, and where
that is missing the answer is `null`. -/
theorem trySeededDatabase_reads_ok {f : PlatformDatabase → Except ServiceException α}
    (hf : ∀ db error, f db = .error error → isRequestException error = true)
    {answer : Option α} (h : trySeededDatabase ctx (reads f) now store = (.ok answer, store')) :
    store'.memory = store.memory ∧
      (∀ db, databaseRead ctx now store = some db → ∃ a, f db = .ok a ∧ answer = some a) ∧
      (databaseRead ctx now store = none → answer = none) := by
  rw [trySeededDatabase_apply] at h
  unfold tryDatabase at h
  unfold databaseRead
  cases hmem : store.usesMemory ctx with
  | true =>
      rw [hmem] at h
      cases h
      exact ⟨rfl, fun db hdb => (by cases hdb), fun _ => rfl⟩
  | false =>
      rw [hmem, bind_apply] at h
      cases hseed : ensurePlatformSeedData ctx store.memory.examAdminMemoryState now
        store.database with
      | mk ended db =>
          rw [hseed] at h
          cases ended with
          | error error =>
              -- The demo data cannot be put in, and the memory answers if the fallback is on.
              refine ⟨?_, fun db' hdb => (by cases hdb), fun _ => ?_⟩
              all_goals
                revert h
                simp only [Bool.false_eq_true, if_false]
                split
                · intro h; cases h
                · split
                  · intro h; cases h; rfl
                  · intro h; cases h
          | ok _ =>
              have hread : (reads f : DatabaseOperation α) db = (f db, db) := rfl
              simp only [Bool.false_eq_true, if_false, hread] at h
              cases hfdb : f db with
              | ok a =>
                  rw [hfdb] at h
                  cases h
                  refine ⟨rfl, fun db' hdb => ?_, fun hnone => (by cases hnone)⟩
                  cases hdb
                  exact ⟨a, hfdb, rfl⟩
              | error error =>
                  rw [hfdb] at h
                  -- An exception of the request is thrown on.
                  simp only [hf db error hfdb, if_true] at h
                  cases h

/-- How a method answers that reads with a seeded context: by the database where the seeded read
has one, and else by the memory. -/
theorem orInMemory_ok {f : PlatformDatabase → Except ServiceException α}
    (hf : ∀ db error, f db = .error error → isRequestException error = true)
    {inMemory : PlatformMemory → Except ServiceException α} {a : α}
    (h : orInMemory (trySeededDatabase ctx (reads f) now) inMemory store = (.ok a, store')) :
    match databaseRead ctx now store with
    | some db => f db = .ok a
    | none => inMemory store.memory = .ok a := by
  unfold orInMemory at h
  rw [bind_apply] at h
  cases hrun : trySeededDatabase ctx (reads f) now store with
  | mk ended between =>
      rw [hrun] at h
      cases ended with
      | error error => cases h
      | ok answer =>
          obtain ⟨hmemory, hsome, hnone⟩ := trySeededDatabase_reads_ok hf hrun
          -- An answer is of the database exactly when the seeded read succeeds. An operation that
          -- only reads throws nothing that makes it fall back.
          cases hread : databaseRead ctx now store with
          | some db =>
              obtain ⟨b, hb, rfl⟩ := hsome db hread
              cases h
              exact hb
          | none =>
              rw [hnone hread] at h
              rw [← hmemory]
              exact congrArg Prod.fst h

end

/-! ### The sweep of the memory -/

/-- What the sweep answers. Where no device is stale it changes nothing. -/
theorem markStale_eq (ctx : PlatformContext) (state : ProctorMemoryState) (examId : String)
    (before : Option Int) (turn : PlatformInput) (stale : List ProctorDevice)
    (hstale : staleDevices ctx state.proctorDevices examId before = stale) :
    markStaleProctorDevicesInStore ctx state examId before turn =
      { proctorDevices := mapWhere (fun device => stale.any (·.id = device.id))
          (disconnectStale · turn.nowIso) state.proctorDevices
        proctorEvents :=
          stale.mapIdx (fun n device => heartbeatMissed device turn n) ++
            state.proctorEvents } := by
  subst hstale
  unfold markStaleProctorDevicesInStore
  by_cases hnone : staleDevices ctx state.proctorDevices examId before = []
  · simp [hnone, mapWhere]
  · simp [hnone]

/-- The memory after a sweep, written with the list of the devices that are stale. -/
theorem sweep_eq {memory : PlatformMemory} (ctx : PlatformContext) (examId : String)
    (before : Option Int)
    (turn : PlatformInput) (stale : List ProctorDevice)
    (hstale : staleDevices ctx memory.proctorDevices examId before = stale) :
    memory.sweep ctx examId before turn =
      { memory with
        proctorDevices := mapWhere (fun device => stale.any (·.id = device.id))
          (disconnectStale · turn.nowIso) memory.proctorDevices
        proctorEvents :=
          stale.mapIdx (fun n device => heartbeatMissed device turn n) ++
            memory.proctorEvents } := by
  unfold PlatformMemory.sweep
  rw [markStale_eq ctx memory.proctorMemoryState examId before turn stale hstale]
  rfl

/-! ### The demo data -/

/-- The demo data are put into the tables of exams and what belongs to them. -/
theorem ensurePlatformSeedData_preserves {P : PlatformDatabase → Prop} (ctx : StoreContext)
    (state : ExamAdminMemoryState) (now : Int)
    (h : ∀ (db db' : PlatformDatabase)
      (organizations : Table OrganizationRow.id) (exams : Table ExamRow.id)
      (questions : Table QuestionRow.id) (testCases : Table TestCaseRow.id)
      (candidates : Table CandidateRow.id), P db →
      db'.toPlatformTables =
        { db.toPlatformTables with organizations, exams, questions, testCases, candidates } →
      P db') :
    Preserves P (ensurePlatformSeedData ctx state now) := by
  unfold ensurePlatformSeedData
  split
  · exact .pure ()
  · refine .bind (.updates fun db db' hP hok => ?_) fun _ => .bind (.reads _) fun count => ?_
    · unfold PlatformDatabase.upsertOrganization at hok
      split at hok
      · cases hok
        exact hP
      · obtain ⟨organizations, -, hdb⟩ := PlatformDatabase.create_eq_ok hok
        exact h db db' organizations db.exams db.questions db.testCases db.candidates hP hdb
    · split
      · -- No exam is there: the demo exam is created.
        unfold createDemoData
        split
        · refine .updates fun db db' hP hok => ?_
          unfold PlatformDatabase.createDemoExam at hok
          simp only [bind_eq_ok] at hok
          obtain ⟨-, -, -, -, exams, -, questions, -, testCases, -, candidates, -, hok⟩ := hok
          exact h db db' db.organizations exams questions testCases candidates hP
            (PlatformDatabase.commit_eq_ok hok)
        · exact .pure ()
      · -- Some exam is there: at most test cases are added.
        unfold ensureDemoTestCases
        split
        · exact .pure ()
        · refine .bind (.reads _) fun count => ?_
          split
          · refine .updates fun db db' hP hok => ?_
            exact h db db' db.organizations db.exams db.questions _ db.candidates hP
              (PlatformDatabase.commit_eq_ok hok)
          · exact .pure ()

/-- The demo data have no events, so the read sees those of the database. -/
theorem proctorEvents_of_databaseRead {ctx : StoreContext} {now : Int} {store : Store}
    {db : PlatformDatabase} (h : databaseRead ctx now store = some db) :
    db.proctorEvents = store.database.proctorEvents := by
  have hkeeps : Preserves (fun db' => db'.proctorEvents = store.database.proctorEvents)
      (ensurePlatformSeedData ctx store.memory.examAdminMemoryState now) := by
    refine ensurePlatformSeedData_preserves ctx _ now ?_
    intro db db' organizations exams questions testCases candidates hP hdb
    have heq := congrArg PlatformTables.proctorEvents hdb
    exact heq.trans hP
  have hrun := hkeeps store.database rfl
  unfold databaseRead at h
  split at h
  · cases h
  · split at h
    · rename_i heq
      rw [heq] at hrun
      cases h
      exact hrun
    · cases h

/-! ### Two stores -/

/-- The memories are related, the databases are related, and both stores are in one mode. -/
structure StoresAgree (Rm : PlatformMemory → PlatformMemory → Prop)
    (Rd : PlatformDatabase → PlatformDatabase → Prop) (s t : Store) : Prop where
  memory : Rm s.memory t.memory
  database : Rd s.database t.database
  unavailable : s.databaseUnavailable = t.databaseUnavailable

section
variable {Rm : PlatformMemory → PlatformMemory → Prop}
  {Rd : PlatformDatabase → PlatformDatabase → Prop} {α β : Type} {S : α → β → Prop}

/-- What is coupled on the databases is coupled on the stores: both operations answer alike, or
throw the same exception, which is treated alike. -/
theorem coupled_tryDatabase (ctx : StoreContext) {x : DatabaseOperation α}
    {y : DatabaseOperation β} (h : Coupled Rd S x y) :
    Coupled (StoresAgree Rm Rd) (Option.Rel S) (tryDatabase ctx x) (tryDatabase ctx y) := by
  intro s t hst
  have hmode : s.usesMemory ctx = t.usesMemory ctx := by
    unfold Store.usesMemory
    rw [hst.unavailable]
  obtain ⟨hout, hdb⟩ := h s.database t.database hst.database
  unfold tryDatabase
  rw [hmode]
  cases t.usesMemory ctx with
  | true => exact ⟨.none, hst⟩
  | false =>
      cases hx : x s.database with
      | mk r d =>
          cases hy : y t.database with
          | mk q e =>
              rw [hx, hy] at hout hdb
              cases r with
              | error error =>
                  cases q with
                  | ok b => cases hout
                  | error error' =>
                      -- Both operations throw the same exception, so it is treated alike.
                      cases hout
                      simp only [Bool.false_eq_true, if_false]
                      split
                      · exact ⟨rfl, hst.memory, hdb, hst.unavailable⟩
                      · split
                        · exact ⟨.none, hst.memory, hdb, rfl⟩
                        · exact ⟨rfl, hst.memory, hdb, hst.unavailable⟩
              | ok a =>
                  cases q with
                  | error error => cases hout
                  | ok b => exact ⟨.some hout, hst.memory, hdb, hst.unavailable⟩

/-- The same in a seeded context, when the demo data are put in alike. -/
theorem coupled_trySeededDatabase (ctx : StoreContext) (now : Int) {x : DatabaseOperation α}
    {y : DatabaseOperation β}
    (hseed : ∀ m m', Rm m m' → Coupled Rd Eq
      (ensurePlatformSeedData ctx m.examAdminMemoryState now)
      (ensurePlatformSeedData ctx m'.examAdminMemoryState now)) (h : Coupled Rd S x y) :
    Coupled (StoresAgree Rm Rd) (Option.Rel S) (trySeededDatabase ctx x now)
      (trySeededDatabase ctx y now) := by
  refine Coupled.bind (S := Rm) (.reads fun s t hst => hst.memory) fun m m' hm => ?_
  exact coupled_tryDatabase ctx (.bind (hseed m m' hm) fun _ _ _ => h)

/-- A method that goes on with the memory when `runDatabase` answers `null`. -/
theorem coupled_orInMemory {x : StoreOperation (Option α)} {y : StoreOperation (Option β)}
    {f : PlatformMemory → Except ServiceException α}
    {g : PlatformMemory → Except ServiceException β}
    (h : Coupled (StoresAgree Rm Rd) (Option.Rel S) x y)
    (hmemory : ∀ m m', Rm m m' → SameOutcome S (f m) (g m')) :
    Coupled (StoresAgree Rm Rd) S (orInMemory x f) (orInMemory y g) := by
  refine .bind h fun a b hab => ?_
  cases hab with
  | some hab => exact .pure hab
  | none => exact .reads fun s t hst => hmemory _ _ hst.memory

end

/-! ### A deployment -/

/-- A process in production with a database. -/
def deployedContext : StoreContext where
  host :=
    { text := { toLowerCase := id, toUpperCase := id }
      hmac := fun _ payload => payload
      dateParse := fun _ => none }
  env := { nodeEnv := some "production" }
  localeCompare := compare
  publicWebBaseUrl := "https://exams.example.com"
  databaseUrl := some "postgresql://db/exams"

/-- The session of a manager of an organization. -/
def managerOf (organizationId : String) : AuthSession where
  token := "session_1"
  user :=
    { id := "user_1", email := "manager@example.com", name := "Manager", role := .organization,
      organizationId := some organizationId, createdAt := "2026-07-18T00:00:00.000Z" }
  organization :=
    { id := organizationId, name := "Example", createdAt := "2026-07-18T00:00:00.000Z" }

end Dcvp.Proofs
