import Dcvp.Services.PlatformStore.CandidateWorkspace
import Dcvp.Services.PlatformStore.ExamAdmin
import Dcvp.Services.PlatformStore.Mappers

/-!
# `Dcvp.Services.PlatformStore.Report`: what operators read

The reading functions of `platform-store.report.ts`, `platform-store.exam-admin.ts` and
`platform-store.dashboard.ts`, with the scores of `platform-store.helpers.ts`.

Each function of the source has two paths. It hands an operation to `runDatabase`, and works on
the memory when that answers `null`. Here the two paths are two functions: `…InDatabase` is the
operation, and `…InMemory` is the rest. Nothing is written by either.
-/

set_option autoImplicit false

namespace Dcvp.Services.PlatformStore

open Dcvp.Shared

/-! ### Risk -/

/-- What one event adds to the score. -/
def riskWeight : ProctorEventType → Nat
  | .paste => 8
  | .copy => 6
  | .tabHidden => 5
  | .windowBlur => 4
  | .fullscreenExit => 10
  | .primaryCameraDisconnected => 15
  | .primaryCameraPermissionDenied => 20
  | .mobileCameraDisconnected => 12
  | .mobileCameraPermissionDenied => 18
  | .mobilePageHidden => 8
  | .mobilePageLeft => 15
  | .mobileNetworkOffline => 12
  | .mobileHeartbeatMissed => 12
  | _ => 1

/-- `calculateRiskScore`: the sum of the weights of the events. -/
def calculateRiskScore (types : List ProctorEventType) : Nat :=
  types.foldl (fun score type => score + riskWeight type) 0

/-- `calculateRiskLevel`: danger from 30, a warning from 12. -/
def calculateRiskLevel (score : Nat) : ProctorRiskLevel :=
  if 30 ≤ score then .danger else if 12 ≤ score then .warning else .safe

/-! ### The report of a candidate -/

/-- The argument of `buildCandidateReport`: a candidate with all rows of the tables, from which the
function picks the candidate's own. -/
structure CandidateReportInput where
  candidate : Candidate
  submissions : List Submission
  executions : List CodeExecution
  aiReports : List CompetencyReport
  identityVerifications : List IdentityVerification
  environmentChecks : List EnvironmentCheck
  inviteEmailLogs : List InviteEmailLog
  proctorEvents : List ProctorEvent
  proctorDevices : List ProctorDevice
  proctorActions : List ProctorAction

/-- `buildCandidateReport`: the records of a candidate, their latest entries and the risk. -/
def buildCandidateReport (input : CandidateReportInput) : CandidateExamReport :=
  let riskScore := calculateRiskScore (input.proctorEvents.map (·.type))
  -- The first entry of each list is taken for the latest one.
  { candidate := input.candidate
    submissions := input.submissions
    executions := input.executions
    latestSubmission := input.submissions.head?
    latestExecution := input.executions.head?
    latestAiReport := input.aiReports.head?
    latestIdentityVerification := input.identityVerifications.head?
    latestEnvironmentCheck := input.environmentChecks.head?
    bestScore := input.submissions.foldl (fun best submission => max best submission.score) 0
    submissionCount := input.submissions.length
    executionCount := input.executions.length
    riskEventCount := input.proctorEvents.length
    riskScore
    riskLevel := calculateRiskLevel riskScore
    proctorEvents := input.proctorEvents
    proctorDevices := input.proctorDevices
    proctorActions := input.proctorActions
    aiReports := input.aiReports
    inviteEmailLogs := input.inviteEmailLogs }

/-- What `getExamReportInStore` includes for a candidate in the database. -/
def PlatformTables.candidateReport (t : PlatformTables) (candidate : CandidateRow) :
    CandidateExamReport :=
  buildCandidateReport
    -- The events and the actions are the newest fifty. The memory gives all of them.
    { candidate := mapCandidate candidate
      submissions := t.submissionsOf candidate.id
      executions := t.executionsOf candidate.id
      aiReports := t.competencyReportsOf candidate.id
      identityVerifications := t.identityVerificationsOf candidate.id
      environmentChecks := t.environmentChecksOf candidate.id
      inviteEmailLogs := t.inviteEmailLogsOf candidate.id
      proctorEvents := t.proctorEventsOf candidate.id 50
      proctorDevices := t.proctorDevicesOf candidate.id
      proctorActions := t.proctorActionsOf candidate.id 50 }

/-- What `getExamReportInStore` takes for a candidate from the memory. -/
def PlatformMemory.candidateReport (ctx : PlatformContext) (memory : PlatformMemory)
    (candidate : Candidate) : CandidateExamReport :=
  buildCandidateReport
    { candidate
      submissions := sortByNewest ctx (·.submittedAt)
        (memory.submissions.filter (·.candidateId = candidate.id))
      executions := sortByNewest ctx (·.createdAt)
        (memory.codeExecutions.filter (·.candidateId = candidate.id))
      aiReports := memory.competencyReports.filter (·.candidateId = candidate.id)
      identityVerifications :=
        memory.identityVerifications.filter (·.candidateId = candidate.id)
      environmentChecks := memory.environmentChecks.filter (·.candidateId = candidate.id)
      inviteEmailLogs := memory.inviteEmailLogs.filter (·.candidateId = candidate.id)
      proctorEvents := memory.proctorEvents.filter (·.candidateId = candidate.id)
      proctorDevices := memory.proctorDevices.filter (·.candidateId = candidate.id)
      proctorActions := memory.proctorActions.filter (·.candidateId = candidate.id) }

/-! ### The report of an exam -/

/-- `findUnique`, the test for a deleted exam, and `assertSessionCanAccessExam`. -/
def findAccessibleExamRow (t : PlatformTables) (examId : String) (session : AuthSession) :
    Except ServiceException ExamRow :=
  accessibleExam ExamRow.status ExamRow.organizationId session (t.exams.find? examId)

/-- `getExamReportInStore` on the database: every candidate of an exam that the session may see. -/
def examReportInDatabase (t : PlatformTables) (examId : String) (session : AuthSession) :
    Except ServiceException ExamReport := do
  let exam ← findAccessibleExamRow t examId session
  .ok { exam := mapExam exam, candidates := (t.candidatesOf examId).map t.candidateReport }

/-- `getExamReportInStore` on the memory: every candidate of an exam that the session may see. -/
def examReportInMemory (ctx : PlatformContext) (memory : PlatformMemory) (examId : String)
    (session : AuthSession) : Except ServiceException ExamReport := do
  let exam ← findAccessibleExam memory.exams examId session
  .ok
    { exam
      candidates := (memory.candidates.filter (·.examId = examId)).map
        (memory.candidateReport ctx) }

/-- `buildLiveProctorState`: the candidates with their risk, the highest score first. -/
def buildLiveProctorState (report : ExamReport) : LiveProctorExamState where
  exam := report.exam
  candidates := (report.candidates.map fun item =>
    { candidate := item.candidate
      riskScore := item.riskScore
      riskLevel := item.riskLevel
      proctorEvents := item.proctorEvents
      proctorDevices := item.proctorDevices
      proctorActions := item.proctorActions : LiveProctorCandidateState }).mergeSort
        fun left right => decide (right.riskScore ≤ left.riskScore)

/-! ### Exams -/

/-- `assertSessionCanViewExams`: operators, administrators of organizations, and proctors. -/
def assertSessionCanViewExams (session : AuthSession) : Except ServiceException Unit :=
  if session.user.role ≠ .admin ∧ session.user.role ≠ .organization ∧
      session.user.role ≠ .proctor then
    .error (.http .forbidden "운영자, 조직 관리자 또는 감독관만 시험을 조회할 수 있습니다.")
  else .ok ()

/-- `canAccessExam`: an exam that is not deleted, of the session's organization or for an operator.
-/
def canAccessExam (session : AuthSession) (exam : Exam) : Bool :=
  decide (exam.status ≠ .deleted) &&
    (decide (session.user.role = .admin) ||
      decide (exam.organizationId = session.organization.id))

/-- `scopedExamWhere`: the condition of `canAccessExam` on a row. -/
def scopedExamWhere (session : AuthSession) (exam : ExamRow) : Bool :=
  decide (exam.status ≠ .deleted) &&
    (decide (session.user.role = .admin) ||
      decide (exam.organizationId = session.organization.id))

/-- `listExamsInStore` on the database: the exams of the scope, the newest first. -/
def listExamsInDatabase (t : PlatformTables) (session : AuthSession) : List Exam :=
  (orderByDesc (·.createdAt) (t.exams.rows.filter (scopedExamWhere session))).map mapExam

/-- `listExamsInStore` on the memory: the exams of the scope, the newest first. -/
def listExamsInMemory (ctx : PlatformContext) (memory : PlatformMemory)
    (session : AuthSession) : List Exam :=
  sortByNewest ctx (·.createdAt) (memory.exams.filter (canAccessExam session))

/-- The question of `mapExamDetail`, with all its test cases. -/
def PlatformTables.questionDetail (t : PlatformTables) (question : QuestionRow) :
    QuestionWithTestCases :=
  { mapQuestion question with testCases := (t.testCasesOf question.id).map mapTestCase }

/-- `getExamDetailInStore` on the database, with `mapExamDetail`. -/
def examDetailInDatabase (t : PlatformTables) (examId : String) (session : AuthSession) :
    Except ServiceException ExamDetail := do
  let exam ← findAccessibleExamRow t examId session
  .ok
    { mapExam exam with
      questions := (t.questionsOf exam.id).map t.questionDetail
      candidates := (t.candidatesOf exam.id).map mapCandidate }

/-- `getExamDetailInStore` on the memory: the exam with its questions and candidates. -/
def examDetailInMemory (memory : PlatformMemory) (examId : String) (session : AuthSession) :
    Except ServiceException ExamDetail := do
  let exam ← findAccessibleExam memory.exams examId session
  .ok
    { exam with
      questions := (memory.questions.filter (·.examId = examId)).map fun question =>
        { question with
          testCases := memory.testCases.filter (·.questionId = question.id) }
      candidates := memory.candidates.filter (·.examId = examId) }

/-! ### The dashboard -/

/-- An exam that `activeExams` counts: one that is active or scheduled. -/
def isActive (status : ExamStatus) : Bool :=
  decide (status = .active) || decide (status = .scheduled)

/-- `activeExamWhere`: an active exam, of the session's organization or for an operator. -/
def activeExamWhere (session : AuthSession) (exam : ExamRow) : Bool :=
  isActive exam.status &&
    (decide (session.user.role = .admin) ||
      decide (exam.organizationId = session.organization.id))

/-- `candidateWhere`: the filter follows the relation to the exam. -/
def candidateWhere (t : PlatformTables) (session : AuthSession) (candidate : CandidateRow) :
    Bool :=
  decide (session.user.role = .admin) ||
    -- An exam that was deleted is not left out.
    (t.exams.find? candidate.examId).any fun exam =>
      decide (exam.organizationId = session.organization.id)

/-- `pendingCandidateWhere`: a candidate of the scope who has not completed the exam. -/
def pendingCandidateWhere (t : PlatformTables) (session : AuthSession)
    (candidate : CandidateRow) : Bool :=
  decide (candidate.status ≠ .completed) && candidateWhere t session candidate

/-- `getDashboardInStore` on the database. `findUniqueOrThrow` throws when the organization is
missing. -/
def dashboardInDatabase (t : PlatformTables) (session : AuthSession) :
    Except ServiceException DashboardSummary :=
  match t.organizations.find? session.organization.id with
  | none => .error (.prisma .recordNotFound)
  | some organization =>
      .ok
        { organization := mapOrganization organization
          totalExams := t.exams.count (scopedExamWhere session)
          activeExams := t.exams.count (activeExamWhere session)
          totalCandidates := t.candidates.count (candidateWhere t session)
          pendingReports := t.candidates.count (pendingCandidateWhere t session)
          recentExams := (listExamsInDatabase t session).take 5 }

/-- Whether the exam of a candidate can be accessed. -/
def inAccessibleExam (memory : PlatformMemory) (session : AuthSession) (candidate : Candidate) :
    Bool :=
  memory.exams.any fun exam =>
    decide (exam.id = candidate.examId) && canAccessExam session exam

/-- `getDashboardInStore` on the memory: the counts of what the session may see. -/
def dashboardInMemory (ctx : PlatformContext) (memory : PlatformMemory)
    (session : AuthSession) : DashboardSummary where
  organization := session.organization
  totalExams := memory.exams.countP (canAccessExam session)
  activeExams := memory.exams.countP fun exam =>
    canAccessExam session exam && isActive exam.status
  totalCandidates := memory.candidates.countP (inAccessibleExam memory session)
  pendingReports := memory.candidates.countP fun candidate =>
    decide (candidate.status ≠ .completed) && inAccessibleExam memory session candidate
  recentExams := (listExamsInMemory ctx memory session).take 5

end Dcvp.Services.PlatformStore
