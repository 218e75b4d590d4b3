import Dcvp.Services.PlatformStore.State

/-!
# `Dcvp.Services.PlatformStore.ExamAdmin`: exams and what belongs to them

The functions of `platform-store.exam-admin.ts` and `platform-store.exam-content.ts` that
write, on the memory path. Each answers the new record and the array with it.
-/

set_option autoImplicit false

namespace Dcvp.Services.PlatformStore

open Dcvp.Shared

/-! ### Rights -/

/-- The exception of `assertSessionCanAccessExam` and of a missing exam. -/
def examNotFound : ServiceException := .http .notFound "Exam not found"

/-- `assertSessionCanManageExams`: operators and administrators of organizations. -/
def assertSessionCanManageExams (session : AuthSession) : Except ServiceException Unit :=
  if session.user.role ≠ .admin ∧ session.user.role ≠ .organization then
    .error (.http .forbidden "조직 관리자 이상만 시험을 관리할 수 있습니다.")
  else .ok ()

/-- `assertSessionCanProctor`: operators, administrators of organizations, and proctors. -/
def assertSessionCanProctor (session : AuthSession) : Except ServiceException Unit :=
  if session.user.role ≠ .admin ∧ session.user.role ≠ .organization ∧
      session.user.role ≠ .proctor then
    .error (.http .forbidden "감독 권한이 있는 계정만 실시간 감독 정보를 조회할 수 있습니다.")
  else .ok ()

/-- `assertSessionCanAccessExam`: an operator, or an account of the exam's organization. -/
def assertSessionCanAccessExam (session : AuthSession) (organizationId : String) :
    Except ServiceException Unit :=
  if session.user.role ≠ .admin ∧ session.organization.id ≠ organizationId then
    -- An exam of another organization is answered like one that does not exist.
    .error examNotFound
  else .ok ()

/-- The end of each lookup of an exam, which is an entry of the memory or a row: the test for a
deleted exam, and `assertSessionCanAccessExam`. -/
def accessibleExam {ε : Type} (status : ε → ExamStatus) (organizationId : ε → String)
    (session : AuthSession) : Option ε → Except ServiceException ε
  | none => .error examNotFound
  | some exam =>
      if status exam = .deleted then .error examNotFound
      else do
        assertSessionCanAccessExam session (organizationId exam)
        .ok exam

/-- The exam of the memory that a session may use. This is `assertMemoryExamExists` too. -/
def findAccessibleExam (exams : List Exam) (examId : String) (session : AuthSession) :
    Except ServiceException Exam :=
  accessibleExam Exam.status Exam.organizationId session (exams.find? (·.id = examId))

/-! ### Exams -/

/-- The `exam` of `createExamInStore`: a draft in the organization of the session. -/
def newExam (session : AuthSession) (input : CreateExamInput) (turn : PlatformInput) : Exam where
  id := turn.createId "exam" 0
  organizationId := session.organization.id
  title := input.title
  description := input.description
  startAt := input.startAt
  endAt := input.endAt
  durationMinutes := input.durationMinutes
  status := .draft
  languages := input.languages
  proctoringEnabled := input.proctoringEnabled
  identityVerificationEnabled := input.identityVerificationEnabled
  mobileCameraRequired := input.mobileCameraRequired
  screenShareRequired := input.screenShareRequired
  createdAt := turn.nowIso

/-- `createExamInStore`, after the check of the rights. -/
def createExamInStore (memoryState : ExamAdminMemoryState) (session : AuthSession)
    (input : CreateExamInput) (turn : PlatformInput) : Exam × List Exam :=
  let exam := newExam session input turn
  (exam, exam :: memoryState.exams)

/-- `{ ...exam, ...input }`: every field of the input is written over that of the exam. -/
def applyExamInput (exam : Exam) (input : CreateExamInput) : Exam :=
  { exam with
    title := input.title
    description := input.description
    startAt := input.startAt
    endAt := input.endAt
    durationMinutes := input.durationMinutes
    languages := input.languages
    proctoringEnabled := input.proctoringEnabled
    identityVerificationEnabled := input.identityVerificationEnabled
    mobileCameraRequired := input.mobileCameraRequired
    screenShareRequired := input.screenShareRequired }

/-- The memory path of `updateExamInStore` and of `deleteExamInStore`: the exam is changed
and put in the place of every exam with its identifier. -/
def changeExamInStore (change : Exam → Exam) (memoryState : ExamAdminMemoryState)
    (session : AuthSession) (examId : String) : Except ServiceException (Exam × List Exam) := do
  let exam ← findAccessibleExam memoryState.exams examId session
  let updated := change exam
  .ok (updated, mapWhere (·.id = examId) (fun _ => updated) memoryState.exams)

/-- `updateExamInStore`, after the check of the rights. -/
def updateExamInStore (memoryState : ExamAdminMemoryState) (session : AuthSession)
    (examId : String) (input : CreateExamInput) : Except ServiceException (Exam × List Exam) :=
  changeExamInStore (applyExamInput · input) memoryState session examId

/-- `deleteExamInStore`, after the check of the rights. -/
def deleteExamInStore (memoryState : ExamAdminMemoryState) (session : AuthSession)
    (examId : String) : Except ServiceException (Exam × List Exam) :=
  changeExamInStore (fun exam => { exam with status := .deleted }) memoryState session examId

/-! ### Questions, test cases and candidates -/

/-- `addQuestionInStore`, after the check of the rights. -/
def addQuestionInStore (memoryState : ExamAdminMemoryState) (session : AuthSession)
    (examId : String) (input : CreateQuestionInput) (turn : PlatformInput) :
    Except ServiceException (Question × List Question) := do
  let _ ← findAccessibleExam memoryState.exams examId session
  let question : Question :=
    { id := turn.createId "question" 0
      examId
      title := input.title
      description := input.description
      type := input.type
      points := input.points
      difficulty := input.difficulty
      timeLimitMs := input.timeLimitMs
      memoryLimitMb := input.memoryLimitMb
      choices := input.choices
      expectedAnswer := input.expectedAnswer
      createdAt := turn.nowIso }
  .ok (question, memoryState.questions ++ [question])

/-- `addTestCaseInStore`, after the check of the rights. -/
def addTestCaseInStore (memoryState : ExamAdminMemoryState) (session : AuthSession)
    (questionId : String) (input : CreateTestCaseInput) (turn : PlatformInput) :
    Except ServiceException (TestCase × List TestCase) :=
  match memoryState.questions.find? (·.id = questionId) with
  | none => .error (.http .notFound "Question not found")
  | some question => do
      let _ ← findAccessibleExam memoryState.exams question.examId session
      let testCase : TestCase :=
        { id := turn.createId "case" 0
          questionId
          input := input.input
          expectedOutput := input.expectedOutput
          isPublic := input.isPublic
          createdAt := turn.nowIso }
      .ok (testCase, memoryState.testCases ++ [testCase])

/-- `addCandidateInStore`, after the check of the rights. -/
def addCandidateInStore (memoryState : ExamAdminMemoryState) (session : AuthSession)
    (examId : String) (input : CreateCandidateInput) (turn : PlatformInput) :
    Except ServiceException (Candidate × List Candidate) := do
  let _ ← findAccessibleExam memoryState.exams examId session
  let candidate : Candidate :=
    { id := turn.createId "candidate" 0
      examId
      name := input.name
      email := input.email
      status := .invited
      inviteToken := turn.createSecretToken "invite" 1
      createdAt := turn.nowIso }
  .ok (candidate, memoryState.candidates ++ [candidate])

end Dcvp.Services.PlatformStore
