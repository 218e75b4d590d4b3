import Dcvp.Proofs.TenantReads
import Dcvp.Services.PlatformStore.StoreMethods

/-!
# `Dcvp.Proofs.RejectedCalls`: what a rejected call leaves in the store

Nine calls of operators and proctors, which the store refuses without the rights: by the role
with a `ForbiddenException`, or by the organization of the exam with a `NotFoundException`.

The check of the role comes first. The check of the organization comes behind two writes. Each
operation on exams puts the demo data into the database first (`SeedsNothing`), and a report
sweeps the stale devices of the exam first, whoever asks for it (`SweepsNothing`). Apart from
these two, no call writes before its checks: the operations on the database are `Atomic`.

`rejected_call_changes_nothing_iff` has the exact condition under which a refused call leaves
exams, candidates, devices, events and actions alone.
-/

set_option autoImplicit false

namespace Dcvp.Proofs

open Dcvp.Lib
open Dcvp.Lib.Computation
open Dcvp.Shared
open Dcvp.Services.PlatformStore

/-! ### The calls -/

/-- The calls of operators and proctors that name a record, so that the tenant check can refuse
them. -/
inductive AdminCall where
  | getExamReport (examId : String)
  | getLiveProctorState (examId : String)
  | getExamDetail (examId : String)
  | updateExam (examId : String) (input : CreateExamInput)
  | deleteExam (examId : String)
  | addQuestion (examId : String) (input : CreateQuestionInput)
  | addTestCase (questionId : String) (input : CreateTestCaseInput)
  | addCandidate (examId : String) (input : CreateCandidateInput)
  | createProctorAction (candidateId : String) (input : CreateProctorActionInput)

/-- One call, without its value. -/
def performAdmin (ctx : StoreContext) (session : AuthSession) (turns : Nat → PlatformInput) :
    AdminCall → StoreOperation Unit
  | .getExamReport examId =>
      (fun _ => ()) <$> getExamReport ctx examId session (turns 0).now (turns 1)
  | .getLiveProctorState examId =>
      (fun _ => ()) <$> getLiveProctorState ctx examId session (turns 0).now (turns 1)
  | .getExamDetail examId => (fun _ => ()) <$> getExamDetail ctx examId session (turns 0).now
  | .updateExam examId input => (fun _ => ()) <$> updateExam ctx examId input session (turns 0)
  | .deleteExam examId => (fun _ => ()) <$> deleteExam ctx examId session (turns 0)
  | .addQuestion examId input =>
      (fun _ => ()) <$> addQuestion ctx examId input session (turns 0)
  | .addTestCase questionId input =>
      (fun _ => ()) <$> addTestCase ctx questionId input session (turns 0)
  | .addCandidate examId input =>
      (fun _ => ()) <$> addCandidate ctx examId input session (turns 0)
  | .createProctorAction candidateId input =>
      (fun _ => ()) <$> createProctorAction ctx candidateId input session turns

/-- The check of the role that a call begins with. -/
def AdminCall.roleCheck (session : AuthSession) : AdminCall → Except ServiceException Unit
  | .getLiveProctorState _ => assertSessionCanProctor session
  | .createProctorAction .. => assertProctorRights session
  | _ => assertSessionCanManageExams session

/-- The exam that a call is about, where the exam of a question and of a candidate is known. -/
def AdminCall.examId (examOfQuestion examOfCandidate : String → Option String) :
    AdminCall → Option String
  | .getExamReport examId | .getLiveProctorState examId | .getExamDetail examId
  | .updateExam examId _ | .deleteExam examId | .addQuestion examId _
  | .addCandidate examId _ => some examId
  | .addTestCase questionId _ => examOfQuestion questionId
  | .createProctorAction candidateId _ => examOfCandidate candidateId

/-- The organization of the exam that a call is about, in the storage that the store uses. -/
def AdminCall.organizationId (ctx : StoreContext) (store : Store) (call : AdminCall) :
    Option String :=
  if store.usesMemory ctx then do
    let memory := store.memory
    let examId ← call.examId (fun id => (memory.questions.find? (·.id = id)).map (·.examId))
      fun id => (memory.candidates.find? (·.id = id)).map (·.examId)
    (memory.exams.find? (·.id = examId)).map (·.organizationId)
  else do
    let db := store.database
    let examId ← call.examId (fun id => (db.questions.find? id).map (·.examId))
      fun id => (db.candidates.find? id).map (·.examId)
    (db.exams.find? examId).map (·.organizationId)

/-- The call ended like this because the rights are missing: with a `ForbiddenException`, or
with a `NotFoundException` about an exam of another organization. -/
def RefusedForRights (ctx : StoreContext) (session : AuthSession) (call : AdminCall)
    (result : Except ServiceException Unit × Store) : Prop :=
  (∃ message, result.1 = .error (.http .forbidden message)) ∨
    (∃ message, result.1 = .error (.http .notFound message)) ∧
      ∃ organizationId ∈ call.organizationId ctx result.2,
        session.user.role ≠ .admin ∧ session.organization.id ≠ organizationId

/-! ### What is to stay -/

/-- The exams, candidates, devices, events and actions of the memory. -/
def supervisedArrays (memory : PlatformMemory) :=
  (memory.exams, memory.candidates, memory.proctorDevices, memory.proctorEvents,
    memory.proctorActions)

/-- The exams, candidates, devices, events and actions of the database. -/
def supervisedRows (t : PlatformTables) :=
  (t.exams.rows, t.candidates.rows, t.proctorDevices.rows, t.proctorEvents.rows,
    t.proctorActions.rows)

/-- Exams, candidates, devices, events and actions are the same in both stores. -/
def SameSupervised (store store' : Store) : Prop :=
  supervisedArrays store'.memory = supervisedArrays store.memory ∧
    supervisedRows store'.database.toPlatformTables
      = supervisedRows store.database.toPlatformTables

/-- The demo exam is not put into the database: the store works on its memory, or it cannot
put the demo data in, or it runs in production, or there are exams already, or the memory has
no demo exam. -/
def SeedsNothing (ctx : StoreContext) (now : Int) (store : Store) : Prop :=
  databaseRead ctx now store = none ∨ ctx.production = true ∨ store.database.exams.rows ≠ [] ∨
    store.memory.exams = [] ∨ store.memory.questions = [] ∨ store.memory.candidates = []

/-- No device of the exam is stale in the storage that the store uses. -/
def SweepsNothing (ctx : StoreContext) (examId : String) (now : Int) (store : Store) : Prop :=
  if store.usesMemory ctx then
    staleDevices ctx.toPlatformContext store.memory.proctorDevices examId
      (staleBefore ctx.toPlatformContext now) = []
  else
    ∀ before ∈ staleBefore ctx.toPlatformContext now,
      store.database.staleProctorDevices examId before = []

/-- What a report finds nothing to do for. With an invalid timeout the sweep throws on the
database, and the report goes on with the memory. -/
def ReportQuiet (ctx : StoreContext) (turns : Nat → PlatformInput) (examId : String)
    (store : Store) : Prop :=
  SweepsNothing ctx examId (turns 0).now store ∧
    (staleBefore ctx.toPlatformContext (turns 0).now = none ∨
      SeedsNothing ctx (turns 1).now store)

/-- There is nothing to write behind the check of the role and before the other checks. -/
def QuietInStore (ctx : StoreContext) (turns : Nat → PlatformInput) (store : Store) :
    AdminCall → Prop
  | .getExamReport examId | .getLiveProctorState examId => ReportQuiet ctx turns examId store
  | _ => SeedsNothing ctx (turns 0).now store

/-- The role is refused, or there is nothing to write. -/
def QuietCall (ctx : StoreContext) (session : AuthSession) (turns : Nat → PlatformInput)
    (call : AdminCall) (store : Store) : Prop :=
  call.roleCheck session ≠ .ok () ∨ QuietInStore ctx turns store call

/-! ### The demo data -/

/-- An exception of the database client. -/
def IsPrisma (error : ServiceException) : Prop := ∃ e, error = .prisma e

/-- An exception of the database client is none of the request, so `runDatabase` may fall back from
it. -/
theorem isRequestException_of_isPrisma {error : ServiceException} (h : IsPrisma error) :
    isRequestException error = false := by
  obtain ⟨e, rfl⟩ := h
  rfl

/-- A commit fails only by a constraint of the database, which the Prisma client reports. -/
theorem commit_isPrisma {t : PlatformTables} {error : ServiceException}
    (h : PlatformDatabase.commit t = .error error) : IsPrisma error := by
  unfold PlatformDatabase.commit at h
  split at h
  · split at h <;> cases h
    exact ⟨.foreignKey, rfl⟩
  · cases h
    exact ⟨.uniqueConstraint, rfl⟩

/-- A creation fails when its key is taken, or by a constraint. -/
theorem create_isPrisma {ρ : Type} {key : ρ → String} {table : Table key} {row : ρ}
    {put : Table key → PlatformTables} {error : ServiceException}
    (h : PlatformDatabase.create table row put = .error error) : IsPrisma error := by
  unfold PlatformDatabase.create at h
  split at h
  · cases h
    exact ⟨_, rfl⟩
  · exact commit_isPrisma h

/-- A sequence throws exceptions of the client only, when both halves do. -/
theorem bind_isPrisma {α β : Type} {x : Except ServiceException α}
    {f : α → Except ServiceException β} (hx : ∀ e, x = .error e → IsPrisma e)
    (hf : ∀ a e, f a = .error e → IsPrisma e) (error : ServiceException)
    (h : x >>= f = .error error) : IsPrisma error := by
  cases x with
  | error e =>
      cases h
      exact hx error rfl
  | ok a => exact hf a error h

/-- The client refuses a text that is no date. -/
theorem dateColumn_isPrisma (ctx : StoreContext) (text : String) (error : ServiceException)
    (h : dateColumn ctx text = .error error) : IsPrisma error := by
  unfold dateColumn at h
  split at h <;> cases h
  exact ⟨_, rfl⟩

/-- The client refuses a number that is no integer. -/
theorem intColumn_isPrisma (value : Rat) (error : ServiceException)
    (h : intColumn value = .error error) : IsPrisma error := by
  unfold intColumn at h
  split at h <;> cases h
  exact ⟨_, rfl⟩

/-- The database refuses a second row with one key. -/
theorem insertRow_isPrisma {ρ : Type} {key : ρ → String} (table : Table key) (row : ρ)
    (error : ServiceException) (h : insertRow table row = .error error) : IsPrisma error := by
  unfold insertRow at h
  split at h <;> cases h
  exact ⟨_, rfl⟩

/-- Several rows, inserted one after the other, fail only by a constraint, too. -/
theorem insertRows_isPrisma {ρ : Type} {key : ρ → String} (rows : List ρ) :
    ∀ (table : Table key) (error : ServiceException),
      rows.foldlM insertRow table = .error error → IsPrisma error := by
  induction rows with
  | nil => exact fun table error h => by cases h
  | cons row rows ih =>
      intro table error h
      rw [List.foldlM_cons] at h
      exact bind_isPrisma (insertRow_isPrisma table row) ih error h

/-- The row of the demo exam fails by its columns only. -/
theorem demoExamRow_isPrisma (ctx : StoreContext) (exam : Exam) (now : Int)
    (error : ServiceException) (h : demoExamRow ctx exam now = .error error) :
    IsPrisma error := by
  refine bind_isPrisma (dateColumn_isPrisma ctx _) (fun startAt => ?_) error h
  refine bind_isPrisma (dateColumn_isPrisma ctx _) fun endAt => ?_
  exact bind_isPrisma (intColumn_isPrisma _) fun _ e he => by cases he

/-- So does the row of its question. -/
theorem demoQuestionRow_isPrisma (examId : String) (question : Question) (now : Int)
    (error : ServiceException) (h : demoQuestionRow examId question now = .error error) :
    IsPrisma error := by
  refine bind_isPrisma (intColumn_isPrisma _) (fun points => ?_) error h
  refine bind_isPrisma (intColumn_isPrisma _) fun timeLimitMs => ?_
  exact bind_isPrisma (intColumn_isPrisma _) fun _ e he => by cases he

/-- The demo exam is put in by statements alone, so whatever stops it comes from the database
client. -/
theorem createDemoExam_isPrisma (ctx : StoreContext) (exam : Exam) (question : Question)
    (candidate : Candidate) (testCases : List TestCase) (now : Int) (db : PlatformDatabase)
    (error : ServiceException)
    (h : db.createDemoExam ctx exam question candidate testCases now = .error error) :
    IsPrisma error := by
  refine bind_isPrisma (demoExamRow_isPrisma ctx exam now) (fun examRow => ?_) error h
  refine bind_isPrisma (demoQuestionRow_isPrisma exam.id question now) fun questionRow => ?_
  refine bind_isPrisma (insertRow_isPrisma _ _) fun exams => ?_
  refine bind_isPrisma (insertRow_isPrisma _ _) fun questions => ?_
  refine bind_isPrisma (insertRows_isPrisma _ _) fun rows => ?_
  exact bind_isPrisma (insertRow_isPrisma _ _) fun candidates e he => commit_isPrisma he

/-- The demo data are refused by the client only, so the seeding never throws an exception of a
request. -/
theorem ensurePlatformSeedData_throws (ctx : StoreContext) (state : ExamAdminMemoryState)
    (now : Int) : Throws IsPrisma (ensurePlatformSeedData ctx state now) := by
  unfold ensurePlatformSeedData
  split
  · exact .pure ()
  · refine .bind (.updates fun db error h => ?_) fun _ => .bind (.reads fun _ _ h => by cases h)
      fun count => ?_
    · unfold PlatformDatabase.upsertOrganization at h
      split at h
      · cases h
      · exact create_isPrisma h
    · split
      · unfold createDemoData
        split
        · exact .updates fun db error h => createDemoExam_isPrisma ctx _ _ _ _ now db error h
        · exact .pure ()
      · unfold ensureDemoTestCases
        split
        · exact .pure ()
        · refine .bind (.reads fun _ _ h => by cases h) fun count => ?_
          split
          · exact .updates fun db error h => commit_isPrisma h
          · exact .pure ()

/-- The demo exam is not put in beside other exams, nor in production. -/
def LeavesExams (ctx : StoreContext) (state : ExamAdminMemoryState) (db : PlatformDatabase) :
    Prop :=
  ctx.production = true ∨ db.exams.rows ≠ [] ∨
    state.exams = [] ∨ state.questions = [] ∨ state.candidates = []

/-- The test cases of the demo exam are none of the supervised tables. -/
theorem supervisedRows_createMissingTestCases {db db' : PlatformDatabase}
    {testCases : List TestCase} {now : Int}
    (h : db.createMissingTestCases testCases now = .ok db') :
    supervisedRows db'.toPlatformTables = supervisedRows db.toPlatformTables := by
  rw [PlatformDatabase.commit_eq_ok h]
  rfl

/-- The demo exam is one more row, so the exams are not empty once it is put in. -/
theorem exams_createDemoExam {ctx : StoreContext} {exam : Exam} {question : Question}
    {candidate : Candidate} {testCases : List TestCase} {now : Int} {db db' : PlatformDatabase}
    (h : db.createDemoExam ctx exam question candidate testCases now = .ok db') :
    db'.exams.rows ≠ [] := by
  unfold PlatformDatabase.createDemoExam at h
  simp only [bind_eq_ok] at h
  obtain ⟨examRow, -, questionRow, -, exams, hinsert, questions, -, testCases, -, candidates, -,
    hcommit⟩ := h
  have hrows : db'.exams = exams := by rw [PlatformDatabase.commit_eq_ok hcommit]
  unfold insertRow at hinsert
  split at hinsert
  · rename_i table hrow
    cases hinsert
    rw [hrows, Table.rows_insert? hrow]
    simp
  · cases hinsert

/-- To write an organization changes neither the exams nor what is supervised in them. -/
theorem upsertOrganization_keeps {db db' : PlatformDatabase} {row : OrganizationRow}
    (h : db.upsertOrganization row = .ok db') : db'.exams = db.exams ∧
      supervisedRows db'.toPlatformTables = supervisedRows db.toPlatformTables := by
  unfold PlatformDatabase.upsertOrganization at h
  split at h
  · cases h
    exact ⟨rfl, rfl⟩
  · obtain ⟨organizations, -, htables⟩ := PlatformDatabase.create_eq_ok h
    rw [htables]
    exact ⟨rfl, rfl⟩

/-- Without an exam: the memory has no demo exam, or the exam is created. -/
theorem createDemoData_cases {ctx : StoreContext} {state : ExamAdminMemoryState} {now : Int}
    {db db' : PlatformDatabase} {ended : Except ServiceException Unit}
    (h : createDemoData ctx state now db = (ended, db')) :
    (supervisedRows db'.toPlatformTables = supervisedRows db.toPlatformTables ∧
        (ended = .ok () → state.exams = [] ∨ state.questions = [] ∨ state.candidates = [])) ∨
      (ended = .ok () ∧ db'.exams.rows ≠ [] ∧
        ¬ (state.exams = [] ∨ state.questions = [] ∨ state.candidates = [])) := by
  unfold createDemoData at h
  -- The demo data need an exam, a question and a candidate in the memory.
  cases hexams : state.exams with
  | nil =>
      rw [hexams] at h
      cases h
      exact .inl ⟨rfl, fun _ => .inl rfl⟩
  | cons demoExam _ =>
      cases hquestions : state.questions with
      | nil =>
          rw [hexams, hquestions] at h
          cases h
          exact .inl ⟨rfl, fun _ => .inr (.inl rfl)⟩
      | cons demoQuestion _ =>
          cases hcandidates : state.candidates with
          | nil =>
              rw [hexams, hquestions, hcandidates] at h
              cases h
              exact .inl ⟨rfl, fun _ => .inr (.inr rfl)⟩
          | cons demoCandidate _ =>
              rw [hexams, hquestions, hcandidates] at h
              simp only [List.head?_cons] at h
              cases hcreated : db.createDemoExam ctx demoExam demoQuestion demoCandidate
                  (state.testCases.filter (·.questionId = demoQuestion.id)) now with
              | error error =>
                  rw [updates_error hcreated] at h
                  cases h
                  exact .inl ⟨rfl, fun hok => by cases hok⟩
              | ok created =>
                  rw [updates_ok hcreated] at h
                  cases h
                  exact .inr ⟨rfl, exams_createDemoExam hcreated, by simp⟩

/-- The test cases that are missing are put in, and nothing else is written, however the step ends.
-/
theorem ensureDemoTestCases_keeps {state : ExamAdminMemoryState} {now : Int}
    {db db' : PlatformDatabase} {ended : Except ServiceException Unit}
    (h : ensureDemoTestCases state now db = (ended, db')) :
    supervisedRows db'.toPlatformTables = supervisedRows db.toPlatformTables := by
  have hkeeps : Preserves (fun db' : PlatformDatabase =>
      supervisedRows db'.toPlatformTables = supervisedRows db.toPlatformTables)
      (ensureDemoTestCases state now) := by
    unfold ensureDemoTestCases
    split
    · exact .pure ()
    · refine .bind (.reads _) fun count => ?_
      split
      · exact .updates fun s s' hs hok => (supervisedRows_createMissingTestCases hok).trans hs
      · exact .pure ()
  have hend := hkeeps db rfl
  rw [h] at hend
  exact hend

/-- What `ensurePlatformSeedData` does to the tables: nothing, or the demo exam is new. -/
theorem ensurePlatformSeedData_cases {ctx : StoreContext} {state : ExamAdminMemoryState}
    {now : Int} {db db' : PlatformDatabase} {ended : Except ServiceException Unit}
    (h : ensurePlatformSeedData ctx state now db = (ended, db')) :
    (supervisedRows db'.toPlatformTables = supervisedRows db.toPlatformTables ∧
        (ended = .ok () → LeavesExams ctx state db)) ∨
      (ended = .ok () ∧ db.exams.rows = [] ∧ db'.exams.rows ≠ [] ∧
        ¬ LeavesExams ctx state db) := by
  unfold ensurePlatformSeedData at h
  split at h
  · rename_i hproduction
    cases h
    exact .inl ⟨rfl, fun _ => .inl hproduction⟩
  · rename_i hproduction
    -- The organization is put in first, which is no supervised row; then the demo exam, where there
    -- is no exam.
    cases horganization : db.upsertOrganization
        (demoOrganizationRow ctx state.organization now) with
    | error error =>
        rw [updates_bind_error horganization] at h
        cases h
        exact .inl ⟨rfl, fun hok => by cases hok⟩
    | ok between =>
        obtain ⟨hkept, hsame⟩ := upsertOrganization_keeps horganization
        rw [updates_bind_ok horganization, look_bind] at h
        have hcount : (between.exams.count fun _ => true) = 0 ↔ db.exams.rows = [] := by
          rw [hkept]
          simp [Table.count]
        by_cases hexams : db.exams.rows = []
        · rw [if_pos (hcount.mpr hexams)] at h
          rcases createDemoData_cases h with ⟨hrows, hnone⟩ | ⟨hok, hrows, hsome⟩
          · exact .inl ⟨hrows.trans hsame, fun hok => .inr (.inr (hnone hok))⟩
          · refine .inr ⟨hok, hexams, hrows, ?_⟩
            rintro (h | h | h)
            · exact hproduction h
            · exact h hexams
            · exact hsome h
        · rw [if_neg (mt hcount.mp hexams)] at h
          exact .inl ⟨(ensureDemoTestCases_keeps h).trans hsame, fun _ => .inr (.inl hexams)⟩

/-! ### What a method that throws leaves -/

section
variable {ctx : StoreContext} {now : Int} {store store' : Store} {α : Type}

/-- The database with the demo data, where they are put in. -/
def seededDatabase (ctx : StoreContext) (now : Int) (store : Store) : PlatformDatabase :=
  (databaseRead ctx now store).getD store.database

/-- The demo data are seen in the exams: the compared rows are the same exactly when nothing is
seeded. -/
theorem seededDatabase_same_iff :
    supervisedRows (seededDatabase ctx now store).toPlatformTables
        = supervisedRows store.database.toPlatformTables ↔ SeedsNothing ctx now store := by
  -- Without a read of the database nothing is seeded; with one, the exams tell whether the demo
  -- exam was put in.
  cases hread : databaseRead ctx now store with
  | none =>
      have hdb : seededDatabase ctx now store = store.database := by
        rw [seededDatabase, hread]
        rfl
      rw [hdb]
      exact ⟨fun _ => .inl hread, fun _ => rfl⟩
  | some db =>
      have hdb : seededDatabase ctx now store = db := by
        rw [seededDatabase, hread]
        rfl
      have hseed : ensurePlatformSeedData ctx store.memory.examAdminMemoryState now
          store.database = (.ok (), db) := by
        unfold databaseRead at hread
        split at hread
        · cases hread
        · split at hread <;> cases hread
          assumption
      have hiff : SeedsNothing ctx now store ↔
          LeavesExams ctx store.memory.examAdminMemoryState store.database := by
        unfold SeedsNothing
        rw [hread]
        simp only [reduceCtorEq, false_or]
        rfl
      rw [hdb, hiff]
      rcases ensurePlatformSeedData_cases hseed with ⟨hsame, hleaves⟩ | ⟨-, hnone, hsome, hnot⟩
      · exact ⟨fun _ => hleaves rfl, fun _ => hsame⟩
      · refine ⟨fun hsame => absurd ?_ hsome, fun hleaves => absurd hleaves hnot⟩
        exact (Prod.mk.inj hsame).1.trans hnone

/-- Nothing is changed but what the demo data change. -/
def LeavesSeed (ctx : StoreContext) (now : Int) (store store' : Store) : Prop :=
  supervisedArrays store'.memory = supervisedArrays store.memory ∧
    supervisedRows store'.database.toPlatformTables
      = supervisedRows (seededDatabase ctx now store).toPlatformTables

/-- Where nothing but the demo data was written, the supervised tables are as before exactly when
no demo data were put in. -/
theorem LeavesSeed.same_iff (h : LeavesSeed ctx now store store') :
    SameSupervised store store' ↔ SeedsNothing ctx now store := by
  rw [← seededDatabase_same_iff, ← h.2]
  exact ⟨And.right, fun hrows => ⟨h.1, hrows⟩⟩

/-- An operation on the database that throws leaves the demo data, because it writes everything or
nothing. -/
theorem seeded_of_error {operation : DatabaseOperation α} (hatomic : Atomic operation)
    (hmode : store.usesMemory ctx = false) {error : ServiceException} {db : PlatformDatabase}
    (h : (do
      ensurePlatformSeedData ctx store.memory.examAdminMemoryState now
      operation : DatabaseOperation α) store.database = (.error error, db)) :
    supervisedRows db.toPlatformTables
      = supervisedRows (seededDatabase ctx now store).toPlatformTables := by
  cases hseed : ensurePlatformSeedData ctx store.memory.examAdminMemoryState now
      store.database with
  | mk ended seeded =>
      cases ended with
      | error error' =>
          -- The demo data are refused, and nothing of them is kept that is compared here.
          have hread : databaseRead ctx now store = none := by
            simp [databaseRead, hmode, hseed]
          rw [bind_error hseed] at h
          cases h
          rw [seededDatabase, hread]
          rcases ensurePlatformSeedData_cases hseed with ⟨hsame, -⟩ | ⟨hok, -⟩
          · exact hsame
          · cases hok
      | ok _ =>
          have hread : databaseRead ctx now store = some seeded := by
            simp [databaseRead, hmode, hseed]
          rw [bind_ok hseed] at h
          have hkept := hatomic seeded error (congrArg Prod.fst h)
          rw [h] at hkept
          rw [seededDatabase, hread]
          exact congrArg (fun d : PlatformDatabase => supervisedRows d.toPlatformTables) hkept

/-- Without an answer, `runDatabase` leaves the demo data at most. The cases are the ends of
`tryDatabase`. -/
theorem trySeededDatabase_leaves {operation : DatabaseOperation α} (hatomic : Atomic operation)
    {ended : Except ServiceException (Option α)}
    (h : trySeededDatabase ctx operation now store = (ended, store'))
    (hnone : ∀ a, ended ≠ .ok (some a)) : LeavesSeed ctx now store store' := by
  rw [trySeededDatabase_apply] at h
  cases ended with
  | error error =>
      obtain ⟨hmode, error', db, hrun, rfl, -⟩ := tryDatabase_error h
      exact ⟨rfl, seeded_of_error hatomic hmode hrun⟩
  | ok answer =>
      rcases tryDatabase_ok h with ⟨a, db, -, rfl, -, -⟩ | ⟨-, hmemory, rfl | hfailed⟩
      · exact absurd rfl (hnone a)
      · have hread : databaseRead ctx now store' = none := by simp [databaseRead, hmemory]
        refine ⟨rfl, ?_⟩
        rw [seededDatabase, hread]
        rfl
      · obtain ⟨error, db, hrun, hmode, rfl⟩ := hfailed
        exact ⟨rfl, seeded_of_error hatomic hmode hrun⟩

/-- A method that throws leaves the demo data at most. -/
def SeedsOnly (ctx : StoreContext) (now : Int) (x : StoreOperation α) : Prop :=
  ∀ store error store', x store = (.error error, store') → LeavesSeed ctx now store store'

/-- An operation that writes to the memory where the database has no answer. Its database part is
atomic, so what is left of it when it throws is the demo data. -/
theorem seedsOnly_orOnMemory {operation : DatabaseOperation α} (hatomic : Atomic operation)
    (inMemory : PlatformMemory → Except ServiceException (α × PlatformMemory)) :
    SeedsOnly ctx now (orOnMemory (trySeededDatabase ctx operation now) inMemory) := by
  intro store error store' h
  unfold orOnMemory at h
  cases hrun : trySeededDatabase ctx operation now store with
  | mk ended between =>
      have hleaves := trySeededDatabase_leaves hatomic hrun
      cases ended with
      | error error' =>
          rw [bind_error hrun] at h
          cases h
          exact hleaves fun a ha => by cases ha
      | ok answer =>
          rw [bind_ok hrun] at h
          cases answer with
          | some a => cases h
          | none =>
              -- The memory throws before it is stored.
              simp only [onMemory] at h
              split at h <;> cases h
              exact hleaves fun a ha => by cases ha

/-- The same of an operation that reads the memory where the database does not answer. -/
theorem seedsOnly_orInMemory {operation : DatabaseOperation α} (hatomic : Atomic operation)
    (inMemory : PlatformMemory → Except ServiceException α) :
    SeedsOnly ctx now (orInMemory (trySeededDatabase ctx operation now) inMemory) := by
  intro store error store' h
  unfold orInMemory at h
  cases hrun : trySeededDatabase ctx operation now store with
  | mk ended between =>
      have hleaves := trySeededDatabase_leaves hatomic hrun
      cases ended with
      | error error' =>
          rw [bind_error hrun] at h
          cases h
          exact hleaves fun a ha => by cases ha
      | ok answer =>
          rw [bind_ok hrun] at h
          cases answer with
          | some a => cases h
          | none =>
              have hstore : between = store' := congrArg Prod.snd h
              rw [← hstore]
              exact hleaves fun a ha => by cases ha

end

/-! ### The sweep -/

section
variable {ctx : StoreContext} {examId : String} {now : Int} {turn : PlatformInput}
  {store store' : Store}

/-- With an invalid timeout no device of the memory counts as stale. -/
theorem staleDevices_none (ctx : PlatformContext) (devices : List ProctorDevice)
    (examId : String) : staleDevices ctx devices examId none = [] := by
  simp [staleDevices, heartbeatBefore]

/-- A sweep that finds no stale device leaves the memory as it is. -/
theorem sweep_nothing {memory : PlatformMemory} {before : Option Int}
    (h : staleDevices ctx.toPlatformContext memory.proctorDevices examId before = []) :
    memory.sweep ctx.toPlatformContext examId before turn = memory := by
  rw [sweep_eq ctx.toPlatformContext examId before turn [] h]
  simp [mapWhere]

/-- A stale device is connected before the sweep and not after it. -/
theorem sweep_something {memory : PlatformMemory} {before : Option Int}
    (h : staleDevices ctx.toPlatformContext memory.proctorDevices examId before ≠ []) :
    (memory.sweep ctx.toPlatformContext examId before turn).proctorDevices
      ≠ memory.proctorDevices := by
  intro hsame
  rw [sweep_eq ctx.toPlatformContext examId before turn _ rfl] at hsame
  obtain ⟨device, rest, hstale⟩ := List.exists_cons_of_ne_nil h
  have hmem : device ∈ staleDevices ctx.toPlatformContext memory.proctorDevices examId before := by
    rw [hstale]
    exact List.mem_cons_self
  obtain ⟨hdevice, hconnected⟩ := List.mem_filter.mp hmem
  have hfixed : (if (staleDevices ctx.toPlatformContext memory.proctorDevices examId before).any
      (·.id = device.id) then disconnectStale device turn.nowIso else device) = device :=
    List.map_inj_left.mp (hsame.trans (List.map_id _).symm) device hdevice
  rw [if_pos (List.any_eq_true.mpr ⟨device, hmem, decide_eq_true rfl⟩)] at hfixed
  have hstatus : device.status = .disconnected := by
    rw [← hfixed]
    rfl
  simp [hstatus] at hconnected

/-- The row of the device, if there is one, is disconnected. -/
def Disconnected (id : String) (db : PlatformDatabase) : Prop :=
  ∀ row ∈ db.proctorDevices.find? id, row.status = .disconnected

/-- The statement of the sweep disconnects its device, and leaves a device disconnected that was.
-/
theorem disconnected_update {db db' : PlatformDatabase} {id id' : String} {at₁ now : Int}
    (h : db.updateProctorDevice id' (disconnectRow at₁ now) (fun _ => rfl) = .ok db')
    (hid : id' = id ∨ Disconnected id db) : Disconnected id db' := by
  intro row hrow
  rw [Option.mem_def, (updateProctorDevice_eq_ok h).2 id] at hrow
  obtain ⟨old, hold, rfl⟩ := Option.map_eq_some_iff.mp hrow
  by_cases hthis : old.id = id'
  · rw [if_pos hthis]
    rfl
  · rw [if_neg hthis]
    rcases hid with rfl | hdone
    · exact absurd (Table.key_of_find? hold) hthis
    · exact hdone old hold

/-- The event of the sweep is written to another table. -/
theorem disconnected_create {db db' : PlatformDatabase} {id : String} {row : ProctorEventRow}
    (h : db.createProctorEvent row = .ok db') (hid : Disconnected id db) :
    Disconnected id db' := by
  obtain ⟨events, -, htables⟩ := PlatformDatabase.create_eq_ok h
  unfold Disconnected
  rw [htables]
  exact hid

/-- The demo data have no devices, so a device that is disconnected stays disconnected. -/
theorem disconnected_seeded {ctx : StoreContext} {now : Int} {store : Store} {id : String}
    (h : Disconnected id store.database) : Disconnected id (seededDatabase ctx now store) := by
  unfold seededDatabase
  cases hread : databaseRead ctx now store with
  | none => exact h
  | some db =>
      have hkeeps : Preserves (Disconnected id)
          (ensurePlatformSeedData ctx store.memory.examAdminMemoryState now) := by
        refine ensurePlatformSeedData_preserves ctx _ now ?_
        intro db db' organizations exams questions testCases candidates hdb htables
        unfold Disconnected
        rw [htables]
        exact hdb
      have hrun := hkeeps store.database h
      unfold databaseRead at hread
      split at hread
      · cases hread
      · split at hread <;> cases hread
        rename_i heq
        rw [heq] at hrun
        exact hrun

/-- The end of one stale device leaves another one disconnected that was. -/
theorem disconnected_preserves (id : String) (turn : PlatformInput) (n : Nat)
    (device : ProctorDeviceRow) :
    Preserves (Disconnected id) (disconnectDevice turn n device) :=
  .bind (.updates fun _ _ hdb h => disconnected_update h (.inr hdb)) fun _ =>
    .updates fun _ _ hdb h => disconnected_create h hdb

/-- The first stale device is disconnected at the end, however the sweep ends. -/
theorem markStaleInDatabase_disconnects (turn : PlatformInput) {db : PlatformDatabase}
    {before : Int} {device : ProctorDeviceRow} {rest : List ProctorDeviceRow}
    (hstale : db.staleProctorDevices examId before = device :: rest) :
    Disconnected device.id (markStaleInDatabase examId (some before) turn db).2 := by
  have hmem : device ∈ db.proctorDevices.rows := by
    have hin : device ∈ db.staleProctorDevices examId before := by
      rw [hstale]
      exact List.mem_cons_self
    exact (List.mem_filter.mp hin).1
  obtain ⟨db', hupdate⟩ := updateProctorDevice_ok (disconnectRow turn.now turn.now)
    (fun _ => rfl) (Table.find?_of_mem hmem) fun _ => rfl
  -- The first device is written before anything can throw, and no later write of the sweep connects
  -- a device.
  have hfirst : Disconnected device.id (disconnectDevice turn 0 device db).2 := by
    unfold disconnectDevice
    rw [updates_bind_ok hupdate]
    exact Preserves.updates (P := Disconnected device.id)
      (fun _ _ hdb h => disconnected_create h hdb) db' (disconnected_update hupdate (.inl rfl))
  have hall : markStaleInDatabase examId (some before) turn db
      = all ((device :: rest).mapIdx (disconnectDevice turn)) db := by
    unfold markStaleInDatabase
    simp only
    rw [look_bind, hstale]
  rw [hall, List.mapIdx_cons]
  unfold Computation.all
  have hrest : Preserves (Disconnected device.id)
      (all (rest.mapIdx fun n => disconnectDevice turn (n + 1)) >>= fun _ =>
        reads fun _ => (disconnectDevice turn 0 device db).1) := by
    refine .bind (.all fun x hx => ?_) fun _ => .reads _
    obtain ⟨n, hn, rfl⟩ := List.mem_mapIdx.mp hx
    exact disconnected_preserves device.id turn (n + 1) _
  rw [bind_apply]
  exact hrest _ hfirst

/-- The sweep on the database throws only what the Prisma client throws. -/
theorem markStaleInDatabase_throws (examId : String) (before : Option Int)
    (turn : PlatformInput) : Throws IsPrisma (markStaleInDatabase examId before turn) := by
  unfold markStaleInDatabase
  split
  · exact .throw ⟨.other, rfl⟩
  · refine .bind (.reads fun _ _ h => by cases h) fun stale => .all fun x hx => ?_
    obtain ⟨n, hn, rfl⟩ := List.mem_mapIdx.mp hx
    refine .bind (.updates fun db error h => ?_) fun _ =>
      .updates fun db error h => create_isPrisma h
    unfold PlatformDatabase.updateProctorDevice at h
    split at h
    · cases h
      exact ⟨.recordNotFound, rfl⟩
    · exact commit_isPrisma h

/-- A sweep that throws does not throw an exception of the request. -/
theorem markStale_error {error : ServiceException}
    (h : markStaleProctorDevices ctx examId now turn store = (.error error, store')) :
    isRequestException error = false := by
  unfold markStaleProctorDevices at h
  cases hrun : tryDatabase ctx
      (markStaleInDatabase examId (staleBefore ctx.toPlatformContext now) turn) store with
  | mk ended between =>
      cases ended with
      | ok answer =>
          simp only [bind_ok hrun] at h
          cases answer <;> cases h
      | error error' =>
          simp only [bind_error hrun] at h
          cases h
          obtain ⟨-, thrown, db, hthrown, -, ⟨hrequest, -⟩ | ⟨-, rfl⟩⟩ := tryDatabase_error hrun
          · have hprisma := markStaleInDatabase_throws examId
              (staleBefore ctx.toPlatformContext now) turn _ thrown (congrArg Prod.fst hthrown)
            rw [isRequestException_of_isPrisma hprisma] at hrequest
            cases hrequest
          · rfl

/-- Without a stale device the sweep does nothing, except that an invalid timeout sends the
store to its memory. -/
theorem markStale_nothing (hnothing : SweepsNothing ctx examId now store)
    (h : markStaleProctorDevices ctx examId now turn store = (.ok (), store')) :
    store' = store ∧
        (store.usesMemory ctx = true ∨ staleBefore ctx.toPlatformContext now ≠ none) ∨
      store' = { store with databaseUnavailable := true } ∧ store'.usesMemory ctx = true ∧
        staleBefore ctx.toPlatformContext now = none := by
  unfold SweepsNothing at hnothing
  -- On the memory nothing is stale; on the database the date of the sweep may be invalid, which
  -- Prisma refuses.
  cases hmode : store.usesMemory ctx with
  | true =>
      rw [if_pos hmode] at hnothing
      rw [markStale_inMemory hmode, sweep_nothing hnothing] at h
      cases h
      exact .inl ⟨rfl, .inl rfl⟩
  | false =>
      rw [if_neg (by rw [hmode]; exact Bool.false_ne_true)] at hnothing
      cases hbefore : staleBefore ctx.toPlatformContext now with
      | none =>
          rw [markStale_invalid hmode hbefore] at h
          split at h
          · rename_i hfallback
            rw [sweep_nothing (staleDevices_none ..)] at h
            cases h
            exact .inr ⟨rfl, by simp [Store.usesMemory, hfallback], rfl⟩
          · cases h
      | some before =>
          have hstale := hnothing before hbefore
          have hrun : markStaleInDatabase examId (some before) turn store.database
              = (.ok (), store.database) := by
            unfold markStaleInDatabase
            simp only
            rw [look_bind, hstale]
            rfl
          unfold markStaleProctorDevices at h
          rw [hbefore] at h
          have htry : tryDatabase ctx (markStaleInDatabase examId (some before) turn) store
              = (.ok (some ()), store) := by
            unfold tryDatabase
            rw [if_neg (by rw [hmode]; exact Bool.false_ne_true), hrun]
          simp only [bind_ok htry] at h
          cases h
          exact .inl ⟨rfl, .inr (by simp)⟩

/-- A stale device shows that a sweep took place: the memory has changed, or a connected row is
disconnected now. -/
theorem markStale_something (hsome : ¬ SweepsNothing ctx examId now store)
    (h : markStaleProctorDevices ctx examId now turn store = (.ok (), store')) :
    store'.memory.proctorDevices ≠ store.memory.proctorDevices ∨
      ∃ device ∈ store.database.proctorDevices.rows, device.status = .connected ∧
        Disconnected device.id store'.database := by
  unfold SweepsNothing at hsome
  cases hmode : store.usesMemory ctx with
  | true =>
      rw [if_pos hmode] at hsome
      rw [markStale_inMemory hmode] at h
      cases h
      exact .inl (sweep_something hsome)
  | false =>
      rw [if_neg (by rw [hmode]; exact Bool.false_ne_true)] at hsome
      simp only [not_forall] at hsome
      obtain ⟨before, hbefore, hstale⟩ := hsome
      obtain ⟨device, rest, hstale⟩ := List.exists_cons_of_ne_nil hstale
      have hin : device ∈ store.database.staleProctorDevices examId before := by
        rw [hstale]
        exact List.mem_cons_self
      obtain ⟨hdevice, hconnected⟩ := List.mem_filter.mp hin
      simp only [Bool.and_eq_true, decide_eq_true_iff] at hconnected
      have hdone := markStaleInDatabase_disconnects turn hstale
      refine .inr ⟨device, hdevice, hconnected.1.2, ?_⟩
      unfold markStaleProctorDevices at h
      rw [show staleBefore ctx.toPlatformContext now = some before from hbefore] at h
      cases hrun : tryDatabase ctx (markStaleInDatabase examId (some before) turn) store with
      | mk ended between =>
          -- The sweep has an answer, or it throws and the memory is swept as well.
          cases ended with
          | error error =>
              simp only [bind_error hrun] at h
              cases h
          | ok answer =>
              simp only [bind_ok hrun] at h
              have hdatabase : store'.database = between.database := by
                cases answer with
                | some _ => cases h; rfl
                | none => cases h; rfl
              rw [hdatabase]
              rcases tryDatabase_ok hrun with ⟨a, db, hok, -, rfl, -⟩ | ⟨-, hmemory, rfl | hfailed⟩
              · rw [hok] at hdone
                exact hdone
              · rw [hmode] at hmemory
                cases hmemory
              · obtain ⟨error, db, herror, -, rfl⟩ := hfailed
                rw [herror] at hdone
                exact hdone

end

/-! ### The operations on the database -/

/-- An exam whose row was updated is found and mapped afterwards, so the read behind the update
cannot fail. -/
theorem mappedExam_updateExam {db db' : PlatformDatabase} {examId : String}
    {data : ExamRow → ExamRow} {keeps : ∀ row, (data row).id = row.id}
    (h : db.updateExam examId data keeps = .ok db') :
    ∃ exam, db'.mappedExam examId = .ok exam := by
  unfold PlatformDatabase.updateExam at h
  split at h
  · cases h
  · rename_i row hrow
    have hfind := Table.find?_updateMany db.exams (fun row => row.id = examId) data keeps examId
    unfold PlatformTables.mappedExam
    rw [PlatformDatabase.commit_eq_ok h, hfind, hrow]
    exact ⟨_, rfl⟩

/-- All reads and checks come before the one statement that writes. -/
theorem updateExamInDatabase_atomic (ctx : StoreContext) (session : AuthSession)
    (examId : String) (input : CreateExamInput) :
    Atomic (updateExamInDatabase ctx session examId input) :=
  .bind_reads fun _ => .bind_reads fun _ => .bind_reads fun _ => .bind_reads fun _ =>
    .updates_bind fun _ _ h => mappedExam_updateExam h

/-- So they do here. -/
theorem deleteExamInDatabase_atomic (session : AuthSession) (examId : String) :
    Atomic (deleteExamInDatabase session examId) :=
  .bind_reads fun _ => .updates_bind fun _ _ h => mappedExam_updateExam h

/-- And here, with the numbers of the question as columns. -/
theorem addQuestionInDatabase_atomic (session : AuthSession) (examId : String)
    (input : CreateQuestionInput) (turn : PlatformInput) :
    Atomic (addQuestionInDatabase session examId input turn) :=
  .bind_reads fun _ => .bind_reads fun _ => .bind_reads fun _ => .bind_reads fun _ =>
    .updates_bind fun _ _ _ => ⟨_, rfl⟩

/-- And here, where the exam is that of the question. -/
theorem addTestCaseInDatabase_atomic (session : AuthSession) (questionId : String)
    (input : CreateTestCaseInput) (turn : PlatformInput) :
    Atomic (addTestCaseInDatabase session questionId input turn) :=
  .bind_reads fun _ => .updates_bind fun _ _ _ => ⟨_, rfl⟩

/-- And here, where the candidate is one row that is written at the end. -/
theorem addCandidateInDatabase_atomic (session : AuthSession) (examId : String)
    (input : CreateCandidateInput) (turn : PlatformInput) :
    Atomic (addCandidateInDatabase session examId input turn) :=
  .bind_reads fun _ => .updates_bind fun _ _ _ => ⟨_, rfl⟩

/-- The second half of `createProctorAction` is refused by the client only. -/
theorem createProctorActionInDatabase_throws (candidateId examId : String)
    (input : CreateProctorActionInput) (turn : PlatformInput) :
    Throws IsPrisma (createProctorActionInDatabase candidateId examId input turn) :=
  .bind (.updates fun _ _ h => create_isPrisma h) fun _ => .pure _

/-! ### Refused calls -/

section
variable {ctx : StoreContext} {session : AuthSession} {turns : Nat → PlatformInput}
  {store store' : Store} {error : ServiceException}

/-- A check of the rights that succeeds. -/
theorem assertRights_bind {α : Type} {check : Except ServiceException Unit}
    (hcheck : check = .ok ()) (f : Unit → StoreOperation α) :
    (assertRights check >>= f) store = f () store := by
  subst hcheck
  exact look_bind (fun _ => ()) f store

/-- A refused report was quiet before, or it shows the sweep or the demo data. -/
theorem report_same_iff {examId : String} {now : Int} {turn : PlatformInput}
    (h : (markStaleProctorDevices ctx examId now turn >>= fun _ =>
      getExamReportInStore ctx examId session turn.now) store = (.error error, store'))
    (hrequest : isRequestException error = true) :
    SameSupervised store store' ↔ SweepsNothing ctx examId now store ∧
      (staleBefore ctx.toPlatformContext now = none ∨ SeedsNothing ctx turn.now store) := by
  cases hsweep : markStaleProctorDevices ctx examId now turn store with
  | mk ended between =>
      cases ended with
      | error error' =>
          -- An exception of the sweep is none of the request.
          rw [bind_error hsweep] at h
          cases h
          rw [markStale_error hsweep] at hrequest
          cases hrequest
      | ok _ =>
          rw [bind_ok hsweep] at h
          -- Behind the sweep only the demo data can be written.
          have hleaves : LeavesSeed ctx turn.now between store' :=
            seedsOnly_orInMemory (.reads _) _ between error store' h
          by_cases hnothing : SweepsNothing ctx examId now store
          · rcases markStale_nothing hnothing hsweep with ⟨rfl, hmode⟩ | ⟨rfl, hmemory, hbefore⟩
            · rw [hleaves.same_iff]
              refine ⟨fun hseeds => ⟨hnothing, .inr hseeds⟩, ?_⟩
              rintro ⟨-, hbefore | hseeds⟩
              · -- In memory mode there is no database to put the demo data into.
                rcases hmode with hmode | hmode
                · exact .inl (by simp [databaseRead, hmode])
                · exact absurd hbefore hmode
              · exact hseeds
            · refine ⟨fun _ => ⟨hnothing, .inl hbefore⟩, fun _ => ?_⟩
              exact hleaves.same_iff.mpr (.inl (by simp [databaseRead, hmemory]))
          · refine ⟨fun hsame => ?_, fun hquiet => absurd hquiet.1 hnothing⟩
            exfalso
            rcases markStale_something hnothing hsweep with hdevices |
              ⟨device, hdevice, hconnected, hdone⟩
            · have hmemory := hleaves.1.symm.trans hsame.1
              simp only [supervisedArrays, Prod.mk.injEq] at hmemory
              exact hdevices hmemory.2.2.1
            · -- The demo data have no devices, so the device is disconnected at the end.
              have hseeded : Disconnected device.id (seededDatabase ctx turn.now between) :=
                disconnected_seeded hdone
              have hrows := hleaves.2.symm.trans hsame.2
              simp only [supervisedRows, Prod.mk.injEq] at hrows
              unfold Disconnected at hseeded
              rw [Table.ext hrows.2.2.1] at hseeded
              have hstatus := hseeded device (Table.find?_of_mem hdevice)
              rw [hconnected] at hstatus
              cases hstatus

/-- A refused creation of an action was refused when the candidate was looked up. -/
theorem createProctorAction_same_iff {candidateId : String} {input : CreateProctorActionInput}
    (hrole : assertProctorRights session = .ok ())
    (h : createProctorAction ctx candidateId input session turns store = (.error error, store'))
    (hrequest : isRequestException error = true) :
    SameSupervised store store' ↔ SeedsNothing ctx (turns 0).now store := by
  unfold createProctorAction at h
  rw [assertRights_bind hrole] at h
  cases hfind : findCandidateWithExam ctx candidateId session (turns 0).now store with
  | mk ended between =>
      cases ended with
      | error error' =>
          rw [bind_error hfind] at h
          cases h
          exact (seedsOnly_orInMemory (.reads _) _ store error store' hfind).same_iff
      | ok candidateWithExam =>
          -- Behind a candidate that was found, only the client of the database can throw. Its
          -- errors are no rejections.
          exfalso
          rw [bind_ok hfind] at h
          unfold orOnMemory at h
          cases hrun : trySeededDatabase ctx
              (createProctorActionInDatabase candidateId candidateWithExam.exam.id input
                (turns 1)) (turns 1).now between with
          | mk answered after =>
              cases answered with
              | error error' =>
                  rw [bind_error hrun] at h
                  cases h
                  rw [trySeededDatabase_apply] at hrun
                  obtain ⟨-, thrown, db, hthrown, -, ⟨hreq, -⟩ | ⟨-, rfl⟩⟩ :=
                    tryDatabase_error hrun
                  · have hprisma := Throws.bind
                      (ensurePlatformSeedData_throws ctx _ (turns 1).now)
                      (fun _ => createProctorActionInDatabase_throws candidateId
                        candidateWithExam.exam.id input (turns 1)) _ thrown
                      (congrArg Prod.fst hthrown)
                    rw [isRequestException_of_isPrisma hprisma] at hreq
                    cases hreq
                  · cases hrequest
              | ok answer =>
                  rw [bind_ok hrun] at h
                  cases answer <;> cases h

/-- What a method throws behind the check of the rights. -/
theorem behind_check {α : Type} {check : Except ServiceException Unit}
    (hcheck : check = .ok ()) {f : Unit → StoreOperation α}
    (h : ((fun _ => ()) <$> (assertRights check >>= f)) store = (.error error, store')) :
    f () store = (.error error, store') := by
  have hmethod := map_eq_error h
  rw [assertRights_bind hcheck] at hmethod
  exact hmethod

/-- A call of a session without the required role throws the error of the role check and leaves the
store as it was. -/
theorem performAdmin_noRole {call : AdminCall} (hrole : call.roleCheck session = .error error) :
    performAdmin ctx session turns call store = (.error error, store) := by
  have hthrows : ∀ {α : Type} (check : Except ServiceException Unit)
      (f : Unit → StoreOperation α), check = .error error →
      ((fun _ => ()) <$> (assertRights check >>= f)) store = (.error error, store) := by
    intro α check f hcheck
    subst hcheck
    rw [map_apply]
    rfl
  cases call <;> exact hthrows _ _ hrole

end

/-- A call that is refused for lack of rights leaves exams, candidates, devices, events and
actions alone exactly when the role is refused, or when there was nothing to write before the
check of the organization: no demo data to put in, and for a report no stale device. -/
theorem rejected_call_changes_nothing_iff (ctx : StoreContext) (session : AuthSession)
    (turns : Nat → PlatformInput) (call : AdminCall) (store : Store)
    (h : RefusedForRights ctx session call (performAdmin ctx session turns call store)) :
    SameSupervised store (performAdmin ctx session turns call store).2 ↔
      QuietCall ctx session turns call store := by
  obtain ⟨error, hended, hrequest⟩ : ∃ error,
      (performAdmin ctx session turns call store).1 = .error error ∧
        isRequestException error = true := by
    rcases h with ⟨message, hmessage⟩ | ⟨⟨message, hmessage⟩, -⟩
    · exact ⟨_, hmessage, rfl⟩
    · exact ⟨_, hmessage, rfl⟩
  cases hrole : call.roleCheck session with
  | error error' =>
      rw [performAdmin_noRole hrole]
      exact ⟨fun _ => .inl (by rw [hrole]; simp), fun _ => ⟨rfl, rfl⟩⟩
  | ok _ =>
      have hquiet : QuietCall ctx session turns call store ↔ QuietInStore ctx turns store call :=
        or_iff_right fun hne => hne hrole
      rw [hquiet]
      obtain ⟨store', hrun⟩ : ∃ store',
          performAdmin ctx session turns call store = (.error error, store') :=
        ⟨_, Prod.ext hended rfl⟩
      rw [hrun]
      -- The role is given, so the call goes on with what comes behind the check.
      cases call with
      | getExamReport examId => exact report_same_iff (behind_check hrole hrun) hrequest
      | getLiveProctorState examId =>
          have hmethod := behind_check hrole hrun
          have hreport : (markStaleProctorDevices ctx examId (turns 0).now (turns 1) >>= fun _ =>
              getExamReportInStore ctx examId session (turns 1).now) store
                = (.error error, store') := by
            refine map_eq_error (f := buildLiveProctorState) ?_
            rw [← hmethod, map_bind]
            simp only [bind_pure_comp]
          exact report_same_iff hreport hrequest
      | getExamDetail examId =>
          exact (seedsOnly_orInMemory (.reads _) _ store error store'
            (behind_check hrole hrun)).same_iff
      | updateExam examId input =>
          exact (seedsOnly_orOnMemory
            (updateExamInDatabase_atomic ctx session examId input) _ store error store'
            (behind_check hrole hrun)).same_iff
      | deleteExam examId =>
          exact (seedsOnly_orOnMemory
            (deleteExamInDatabase_atomic session examId) _ store error store'
            (behind_check hrole hrun)).same_iff
      | addQuestion examId input =>
          exact (seedsOnly_orOnMemory
            (addQuestionInDatabase_atomic session examId input (turns 0)) _ store error store'
            (behind_check hrole hrun)).same_iff
      | addTestCase questionId input =>
          exact (seedsOnly_orOnMemory
            (addTestCaseInDatabase_atomic session questionId input (turns 0)) _ store error store'
            (behind_check hrole hrun)).same_iff
      | addCandidate examId input =>
          exact (seedsOnly_orOnMemory
            (addCandidateInDatabase_atomic session examId input (turns 0)) _ store error store'
            (behind_check hrole hrun)).same_iff
      | createProctorAction candidateId input =>
          exact createProctorAction_same_iff hrole (map_eq_error hrun) hrequest

/-! ### A report of another organization -/

/-- A store in production. Its exam has a device without a heartbeat for half a minute. -/
def staleStore : Store where
  memory := { organization := { id := "org_demo", name := "Demo", createdAt := "" } }
  database := sweptDatabase

/-- A manager of another organization asks for the report. -/
def foreignReport (now : Int) : Except ServiceException Unit × Store :=
  performAdmin deployedContext (managerOf "org_b") (fun _ => { now })
    (.getExamReport "exam_1") staleStore

/-- A minute after the heartbeat the report is refused, and the device is disconnected all the
same. -/
theorem foreign_report_disconnects_device :
    RefusedForRights deployedContext (managerOf "org_b") (.getExamReport "exam_1")
        (foreignReport 60000) ∧ ¬ SameSupervised staleStore (foreignReport 60000).2 := by
  constructor
  · refine .inr ⟨⟨"Exam not found", ?_⟩, "org_a", ?_, ?_⟩
    · decide +kernel
    · decide +kernel
    · decide +kernel
  · intro hsame
    have hdevices : (foreignReport 60000).2.database.proctorDevices.rows
        ≠ staleStore.database.proctorDevices.rows := by decide +kernel
    have hrows := hsame.2
    simp only [supervisedRows, Prod.mk.injEq] at hrows
    exact hdevices hrows.2.2.1

/-- A second after the heartbeat nothing is stale, and the refused report changes nothing. -/
theorem rejected_call_changes_nothing_iff_early :
    SameSupervised staleStore (foreignReport 1000).2 := by
  refine (rejected_call_changes_nothing_iff deployedContext (managerOf "org_b")
    (fun _ => { now := 1000 }) (.getExamReport "exam_1") staleStore ?_).mpr ?_
  · refine .inr ⟨⟨"Exam not found", ?_⟩, "org_a", ?_, ?_⟩
    · decide +kernel
    · decide +kernel
    · decide +kernel
  · have hsweeps : ∀ before ∈ staleBefore deployedContext.toPlatformContext 1000,
        staleStore.database.staleProctorDevices "exam_1" before = [] := by decide +kernel
    exact .inr ⟨hsweeps, .inr (.inr (.inl rfl))⟩

end Dcvp.Proofs
