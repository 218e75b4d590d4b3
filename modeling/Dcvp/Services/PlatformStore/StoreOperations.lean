import Dcvp.Services.PlatformStore.ExamGate
import Dcvp.Services.PlatformStore.Service

/-!
# `Dcvp.Services.PlatformStore.StoreOperations`: the writing methods on both paths

The methods of `platform-store.service.ts` that change exams, candidates, actions, drafts, runs
and submissions, with the database and the memory at hand. The statements on the database come
first, then the functions `*InStore`, then the methods.

A method gets one turn for each operation that it awaits, `turns 0`, `turns 1` and so on. It
runs to its end without other calls in between.
-/

set_option autoImplicit false

namespace Dcvp.Services.PlatformStore

open Dcvp.Lib
open Dcvp.Lib.Computation
open Dcvp.Shared

/-! ### The memory path -/

/-- The value of a method, and the memory with the arrays that it stores. -/
def onMemory {α : Type} (f : PlatformMemory → Except ServiceException (α × PlatformMemory)) :
    StoreOperation α := fun store =>
  match f store.memory with
  | .ok (a, memory) => (.ok a, store.withMemory memory)
  | .error error => (.error error, store)

/-- What a writing function does with the answer of `runDatabase`: it returns it, or writes to
the memory. -/
def orOnMemory {α : Type} (answer : StoreOperation (Option α))
    (inMemory : PlatformMemory → Except ServiceException (α × PlatformMemory)) :
    StoreOperation α := do
  match ← answer with
  | some a => pure a
  | none => onMemory inMemory

/-- `tryDatabase` for an operation that uses `tryDatabase` itself. -/
def tryStore {α : Type} (ctx : StoreContext) (operation : StoreOperation α) :
    StoreOperation (Option α) := fun store =>
  if store.usesMemory ctx then (.ok none, store)
  else
    match operation store with
    | (.ok a, store) => (.ok (some a), store)
    -- What the operation has written before it threw stays written.
    | (.error error, store) =>
        if isRequestException error then (.error error, store)
        else if ctx.databaseFallbackEnabled then
          (.ok none, { store with databaseUnavailable := true })
        else (.error (.http .serviceUnavailable "Database operation failed."), store)

/-- An operation on the database inside of one on the store. -/
def onDatabase {α : Type} (operation : DatabaseOperation α) : StoreOperation α := fun store =>
  match operation store.database with
  | (ended, database) => (ended, { store with database })

/-! ### Statements -/

namespace PlatformDatabase

variable (db : PlatformDatabase)

/-- `exam.update`, which fails where there is no such row. -/
def updateExam (examId : String) (data : ExamRow → ExamRow)
    (keeps : ∀ row, (data row).id = row.id) : Except ServiceException PlatformDatabase :=
  match db.exams.find? examId with
  | none => .error (.prisma .recordNotFound)
  | some _ => commit { db.toPlatformTables with
      exams := db.exams.updateMany (fun row => row.id = examId) data keeps }

/-- `candidate.update` of the status, by a unique column. -/
def updateCandidateStatus (p : CandidateRow → Bool) (status : CandidateStatus) :
    Except ServiceException PlatformDatabase :=
  match db.candidates.findFirst p with
  | none => .error (.prisma .recordNotFound)
  | some _ => commit { db.toPlatformTables with
      candidates := db.candidates.updateMany p (fun row => { row with status }) fun _ => rfl }

/-- `codeDraft.upsert`: the code and its date are written where the draft exists. -/
def upsertCodeDraft (row : CodeDraftRow) : Except ServiceException PlatformDatabase :=
  match db.codeDrafts.findFirst fun draft => draft.key = row.key with
  | none => create db.codeDrafts row fun codeDrafts => { db.toPlatformTables with codeDrafts }
  | some _ => commit { db.toPlatformTables with
      codeDrafts := db.codeDrafts.updateMany (fun draft => draft.key = row.key)
        (fun draft => { draft with code := row.code, savedAt := row.savedAt }) fun _ => rfl }

/-- `codeExecution.create` with its results, in one statement. -/
def createCodeExecution (row : CodeExecutionRow) (results : List JudgeTestResultRow) :
    Except ServiceException PlatformDatabase := do
  let codeExecutions ← insertRow db.codeExecutions row
  let judgeTestResults ← results.foldlM insertRow db.judgeTestResults
  commit { db.toPlatformTables with codeExecutions, judgeTestResults }

/-- `submission.create` with its results, in one statement. -/
def createSubmission (row : SubmissionRow) (results : List JudgeTestResultRow) :
    Except ServiceException PlatformDatabase := do
  let submissions ← insertRow db.submissions row
  let judgeTestResults ← results.foldlM insertRow db.judgeTestResults
  commit { db.toPlatformTables with submissions, judgeTestResults }

end PlatformDatabase

/-! ### Exams on the database -/

/-- The exam that an update returns. -/
def PlatformTables.mappedExam (t : PlatformTables) (examId : String) :
    Except ServiceException Exam :=
  match t.exams.find? examId with
  | some row => .ok (mapExam row)
  | none => .error (.prisma .recordNotFound)

/-- The row with the columns of an input. -/
def withExamInput (input : CreateExamInput) (startAt endAt durationMinutes : Int)
    (row : ExamRow) : ExamRow :=
  { row with
    title := input.title
    description := input.description
    startAt
    endAt
    durationMinutes
    languages := input.languages
    proctoringEnabled := input.proctoringEnabled
    identityVerificationEnabled := input.identityVerificationEnabled
    mobileCameraRequired := input.mobileCameraRequired
    screenShareRequired := input.screenShareRequired }

/-- `updateExamInStore` on the database: the session's exam, its columns, then the update. -/
def updateExamInDatabase (ctx : StoreContext) (session : AuthSession) (examId : String)
    (input : CreateExamInput) : DatabaseOperation Exam := do
  let _ ← reads fun db => findAccessibleExamRow db.toPlatformTables examId session
  let startAt ← reads fun _ => dateColumn ctx input.startAt
  let endAt ← reads fun _ => dateColumn ctx input.endAt
  let durationMinutes ← reads fun _ => intColumn input.durationMinutes
  updates fun db =>
    db.updateExam examId (withExamInput input startAt endAt durationMinutes) fun _ => rfl
  reads fun db => db.mappedExam examId

/-- `deleteExamInStore` on the database: the row stays, under the status `DELETED`. -/
def deleteExamInDatabase (session : AuthSession) (examId : String) : DatabaseOperation Exam := do
  let _ ← reads fun db => findAccessibleExamRow db.toPlatformTables examId session
  updates fun db => db.updateExam examId (fun row => { row with status := .deleted }) fun _ => rfl
  reads fun db => db.mappedExam examId

/-- `addQuestionInStore` on the database: a row in an exam that the session may see. -/
def addQuestionInDatabase (session : AuthSession) (examId : String)
    (input : CreateQuestionInput) (turn : PlatformInput) : DatabaseOperation Question := do
  let _ ← reads fun db => findAccessibleExamRow db.toPlatformTables examId session
  -- The client refuses numbers that are no integers of 32 bits, after the exam was found.
  let points ← reads fun _ => intColumn input.points
  let timeLimitMs ← reads fun _ => intColumn input.timeLimitMs
  let memoryLimitMb ← reads fun _ => intColumn input.memoryLimitMb
  let row : QuestionRow :=
    { id := turn.createId "question" 0
      examId
      title := input.title
      description := input.description
      type := input.type
      points
      difficulty := input.difficulty
      timeLimitMs
      memoryLimitMb
      choices := input.choices
      expectedAnswer := input.expectedAnswer
      createdAt := turn.now }
  updates fun db => PlatformDatabase.create db.questions row fun questions =>
    { db.toPlatformTables with questions }
  pure (mapQuestion row)

/-- `assertDbQuestionExists`: the question of an exam that the session may see. -/
def assertDbQuestionExists (t : PlatformTables) (questionId : String) (session : AuthSession) :
    Except ServiceException Unit :=
  match t.questions.find? questionId with
  | none => .error questionNotFound
  | some question => do
      let _ ← findAccessibleExamRow t question.examId session
      .ok ()

/-- `addTestCaseInStore` on the database: a row for a question that the session may see. -/
def addTestCaseInDatabase (session : AuthSession) (questionId : String)
    (input : CreateTestCaseInput) (turn : PlatformInput) : DatabaseOperation TestCase := do
  reads fun db => assertDbQuestionExists db.toPlatformTables questionId session
  let row : TestCaseRow :=
    { id := turn.createId "case" 0
      questionId
      input := input.input
      expectedOutput := input.expectedOutput
      isPublic := input.isPublic
      createdAt := turn.now }
  updates fun db => PlatformDatabase.create db.testCases row fun testCases =>
    { db.toPlatformTables with testCases }
  pure (mapTestCase row)

/-! ### Candidates on the database -/

/-- `addCandidateInStore` on the database: a row in an exam that the session may see. -/
def addCandidateInDatabase (session : AuthSession) (examId : String)
    (input : CreateCandidateInput) (turn : PlatformInput) : DatabaseOperation Candidate := do
  let _ ← reads fun db => findAccessibleExamRow db.toPlatformTables examId session
  let row : CandidateRow :=
    { id := turn.createId "candidate" 0
      examId
      name := input.name
      email := input.email
      status := .invited
      inviteToken := turn.createSecretToken "invite" 1
      createdAt := turn.now }
  updates fun db => PlatformDatabase.create db.candidates row fun candidates =>
    { db.toPlatformTables with candidates }
  pure (mapCandidate row)

/-- `findCandidateWithExamInStore` on the database: the candidate, then the right to its exam. -/
def findCandidateWithExamInDatabase (t : PlatformTables) (candidateId : String)
    (session : AuthSession) : Except ServiceException CandidateWithExam :=
  match t.candidates.find? candidateId with
  | none => .error (.http .notFound "Candidate not found")
  | some candidate =>
      -- The relation of the schema is required, so the row is there.
      match t.exams.find? candidate.examId with
      | none => .error (.prisma .other)
      | some exam =>
          if exam.status = .deleted then .error (.http .notFound "Candidate not found")
          else do
            assertSessionCanAccessExam session exam.organizationId
            .ok { candidate := mapCandidate candidate, exam := mapExam exam }

/-- The creation of an action on the database. -/
def createProctorActionInDatabase (candidateId examId : String)
    (input : CreateProctorActionInput) (turn : PlatformInput) :
    DatabaseOperation ProctorAction := do
  let row : ProctorActionRow :=
    { id := turn.createId "proctor_action" 0
      candidateId
      examId
      type := input.type
      message := input.message
      createdAt := turn.now }
  updates fun db => PlatformDatabase.create db.proctorActions row fun proctorActions =>
    { db.toPlatformTables with proctorActions }
  pure (mapProctorAction row)

/-! ### Drafts, runs and submissions on the database -/

/-- `saveCandidateCodeDraftInStore` on the database: one row for each question and language. -/
def saveDraftInDatabase (invite : CandidateInvite) (input : CodeInput) (turn : PlatformInput) :
    DatabaseOperation CodeDraft := do
  let row : CodeDraftRow :=
    { id := turn.createId "draft" 0
      candidateId := invite.candidate.id
      examId := invite.exam.id
      questionId := input.questionId
      language := input.language
      code := input.code
      savedAt := turn.now
      createdAt := turn.now }
  -- The identifier of the row is used only when the upsert creates it.
  updates fun db => db.upsertCodeDraft row
  reads fun db =>
    match db.codeDrafts.findFirst fun draft => draft.key = row.key with
    | some draft => .ok (mapCodeDraft draft)
    | none => .error (.prisma .other)

/-- The row of a test result, the `n`-th of its list. -/
def testResultRow (codeExecutionId submissionId : Option String) (turn : PlatformInput)
    (n : Nat) (result : CodeRunnerTestResult) :
    Except ServiceException JudgeTestResultRow := do
  let executionTimeMs ← intColumn result.executionTimeMs
  .ok
    { id := turn.createId "result" (n + 1)
      codeExecutionId
      submissionId
      testIndex := result.testIndex
      input := result.input
      expectedOutput := result.expectedOutput
      actualOutput := result.actualOutput
      passed := result.passed
      error := result.error
      executionTimeMs
      isPublic := result.isPublic
      createdAt := turn.now }

/-- The rows of the test results of a run. -/
def testResultRows (codeExecutionId submissionId : Option String) (turn : PlatformInput)
    (results : List CodeRunnerTestResult) : Except ServiceException (List JudgeTestResultRow) :=
  (results.mapIdx (testResultRow codeExecutionId submissionId turn)).mapM id

/-- `runCandidateCodeInStore` on the database, once `judge` has answered. -/
def saveExecutionInDatabase (invite : CandidateInvite) (input : CodeInput)
    (result : CodeRunnerResult) (turn : PlatformInput) : DatabaseOperation CodeExecution := do
  let executionTimeMs ← reads fun _ => intColumn result.executionTimeMs
  let memoryUsageMb ← reads fun _ => intColumn result.memoryUsageMb
  let row : CodeExecutionRow :=
    { id := turn.createId "exec" 0
      candidateId := invite.candidate.id
      questionId := input.questionId
      language := input.language
      code := input.code
      status := result.status
      output := result.output
      error := result.error
      executionTimeMs
      memoryUsageMb
      passedTests := result.passedTests
      totalTests := result.totalTests
      createdAt := turn.now }
  let results ← reads fun _ => testResultRows (some row.id) none turn result.testResults
  updates fun db => db.createCodeExecution row results
  reads fun db => .ok (mapCodeExecution row (db.executionTestResults row))

/-- The row that `submitCandidateCodeInStore` creates, with the score of the run. -/
def newSubmissionRow (invite : CandidateInvite) (input : CodeInput) (runResult : CodeRunnerResult)
    (turn : PlatformInput) : SubmissionRow where
  id := turn.createId "submission" 0
  examId := invite.exam.id
  candidateId := invite.candidate.id
  questionId := input.questionId
  language := input.language
  code := input.code
  score := calculateSubmissionScore runResult
  passedTests := runResult.passedTests
  totalTests := runResult.totalTests
  submittedAt := turn.now

/-- Why the two statements of a submission fail, where they fail for a reason of their own: a lost
connection, a timeout. Such a statement leaves the database as it was. -/
structure SubmissionFaults where
  create : Option ServiceException := none
  update : Option ServiceException := none

/-- A statement that may fail for a reason of its own. -/
def faulty (fault : Option ServiceException)
    (f : PlatformDatabase → Except ServiceException PlatformDatabase) (db : PlatformDatabase) :
    Except ServiceException PlatformDatabase :=
  match fault with
  | some error => .error error
  | none => f db

/-- `submitCandidateCodeInStore` on the database, once the answer is evaluated. The two statements
`submission.create` and `candidate.update` are no transaction. -/
def saveSubmissionWithFaults (faults : SubmissionFaults) (invite : CandidateInvite)
    (input : CodeInput) (runResult : CodeRunnerResult) (turn : PlatformInput) :
    DatabaseOperation Submission := do
  let row := newSubmissionRow invite input runResult turn
  let results ← reads fun _ => testResultRows none (some row.id) turn runResult.testResults
  updates (faulty faults.create fun db => db.createSubmission row results)
  let submission ← reads fun db => .ok (mapSubmission row (db.submissionTestResults row))
  -- When this statement fails, the submission stays.
  updates (faulty faults.update fun db =>
    db.updateCandidateStatus (·.id = invite.candidate.id) .inProgress)
  pure submission

/-- `getQuestionForEvaluationInStore` on the database: a question of the invite's exam. -/
def questionForEvaluationInDatabase (t : PlatformTables) (invite : CandidateInvite)
    (questionId : String) : Except ServiceException Question :=
  match t.questions.find? questionId with
  | none => .error questionNotFound
  | some question =>
      if question.examId ≠ invite.exam.id then .error questionNotFound
      else .ok (mapQuestion question)

end Dcvp.Services.PlatformStore
