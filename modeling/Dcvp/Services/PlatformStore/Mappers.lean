import Dcvp.Services.PlatformStore.Tables

/-!
# `Dcvp.Services.PlatformStore.Mappers`: from rows to records

The functions of `platform-store.exam-mappers.ts`, `platform-store.report-mappers.ts` and
`platform-store.execution-mappers.ts`. A date becomes a text, `null` becomes a missing field.
-/

set_option autoImplicit false

namespace Dcvp.Services.PlatformStore

open Dcvp.Lib
open Dcvp.Shared

/-! ### Exams -/

/-- `mapOrganization`. The join code stays in the table. -/
def mapOrganization (organization : OrganizationRow) : Organization where
  id := organization.id
  name := organization.name
  createdAt := Js.toISOString organization.createdAt

/-- `mapExam`: the row, with its dates as ISO texts. -/
def mapExam (exam : ExamRow) : Exam where
  id := exam.id
  organizationId := exam.organizationId
  title := exam.title
  description := exam.description
  startAt := Js.toISOString exam.startAt
  endAt := Js.toISOString exam.endAt
  durationMinutes := exam.durationMinutes
  status := exam.status
  languages := exam.languages
  proctoringEnabled := exam.proctoringEnabled
  identityVerificationEnabled := exam.identityVerificationEnabled
  mobileCameraRequired := exam.mobileCameraRequired
  screenShareRequired := exam.screenShareRequired
  createdAt := Js.toISOString exam.createdAt

/-- `mapQuestion`: the row with its expected answer, for the staff. -/
def mapQuestion (question : QuestionRow) : Question where
  id := question.id
  examId := question.examId
  title := question.title
  description := question.description
  type := question.type
  points := question.points
  difficulty := question.difficulty
  timeLimitMs := question.timeLimitMs
  memoryLimitMb := question.memoryLimitMb
  choices := question.choices
  expectedAnswer := question.expectedAnswer
  createdAt := Js.toISOString question.createdAt

/-- `mapCandidateQuestion`: the row without its expected answer. -/
def mapCandidateQuestion (question : QuestionRow) : Question :=
  { mapQuestion question with expectedAnswer := none }

/-- `mapTestCase`: the row, with its date as an ISO text. -/
def mapTestCase (testCase : TestCaseRow) : TestCase where
  id := testCase.id
  questionId := testCase.questionId
  input := testCase.input
  expectedOutput := testCase.expectedOutput
  isPublic := testCase.isPublic
  createdAt := Js.toISOString testCase.createdAt

/-- `mapCandidate`: the row, with its dates as ISO texts. -/
def mapCandidate (candidate : CandidateRow) : Candidate where
  id := candidate.id
  examId := candidate.examId
  name := candidate.name
  email := candidate.email
  status := candidate.status
  inviteToken := candidate.inviteToken
  identityPrivacyConsentVersion := candidate.identityPrivacyConsentVersion
  identityPrivacyConsentAcceptedAt :=
    candidate.identityPrivacyConsentAcceptedAt.map Js.toISOString
  createdAt := Js.toISOString candidate.createdAt

/-! ### What a report shows -/

/-- `mapProctorEvent`: the row, with its date as an ISO text. -/
def mapProctorEvent (event : ProctorEventRow) : ProctorEvent where
  id := event.id
  candidateId := event.candidateId
  examId := event.examId
  type := event.type
  detail := event.detail
  createdAt := Js.toISOString event.createdAt

/-- `mapProctorDevice`: the row, with its dates as ISO texts where it has them. -/
def mapProctorDevice (device : ProctorDeviceRow) : ProctorDevice where
  id := device.id
  candidateId := device.candidateId
  examId := device.examId
  role := device.role
  status := device.status
  connectedAt := device.connectedAt.map Js.toISOString
  disconnectedAt := device.disconnectedAt.map Js.toISOString
  lastHeartbeatAt := device.lastHeartbeatAt.map Js.toISOString
  detail := device.detail
  createdAt := Js.toISOString device.createdAt
  updatedAt := Js.toISOString device.updatedAt

/-- `mapProctorAction`: the row, with its date as an ISO text. -/
def mapProctorAction (action : ProctorActionRow) : ProctorAction where
  id := action.id
  candidateId := action.candidateId
  examId := action.examId
  type := action.type
  message := action.message
  createdAt := Js.toISOString action.createdAt

/-- `normalizeKycProviderDecision`: a text that is none of the three decisions needs a review. -/
def normalizeKycProviderDecision : String → KycProviderDecision
  | "VERIFIED" => .verified
  | "REJECTED" => .rejected
  | "REVIEW_REQUIRED" => .reviewRequired
  | _ => .reviewRequired

/-- `mapIdentityVerification`: the row, with its decision read from a text. -/
def mapIdentityVerification (verification : IdentityVerificationRow) :
    IdentityVerification where
  id := verification.id
  candidateId := verification.candidateId
  examId := verification.examId
  documentCaptureConfirmed := verification.documentCaptureConfirmed
  documentImageName := verification.documentImageName
  faceImageCaptured := verification.faceImageCaptured
  provider := verification.provider
  providerDecision := normalizeKycProviderDecision verification.providerDecision
  providerReferenceId := verification.providerReferenceId
  failureReason := verification.failureReason
  similarityScore := verification.similarityScore
  documentAuthenticityScore := verification.documentAuthenticityScore
  faceMatchScore := verification.faceMatchScore
  livenessScore := verification.livenessScore
  ocrNameMatched := verification.ocrNameMatched
  verificationChecks := verification.verificationChecks
  privacyConsentVersion := verification.privacyConsentVersion
  privacyConsentAcceptedAt := verification.privacyConsentAcceptedAt.map Js.toISOString
  status := verification.status
  verifiedAt := verification.verifiedAt.map Js.toISOString
  createdAt := Js.toISOString verification.createdAt

/-- `mapEnvironmentCheck`: the row, whose stored results are checked again. -/
def mapEnvironmentCheck (check : EnvironmentCheckRow) : EnvironmentCheck where
  id := check.id
  candidateId := check.candidateId
  examId := check.examId
  results := normalizeEnvironmentResults (check.results.getD [])
  requiredPassed := check.requiredPassed
  createdAt := Js.toISOString check.createdAt

/-- `mapInviteEmailLog`: the row, where an empty `providerMessageId` counts as missing. -/
def mapInviteEmailLog (log : InviteEmailLogRow) : InviteEmailLog where
  id := log.id
  candidateId := log.candidateId
  examId := log.examId
  email := log.email
  inviteUrl := log.inviteUrl
  provider := log.provider
  providerMessageId := Js.truthy log.providerMessageId
  status := log.status
  message := log.message
  sentAt := log.sentAt.map Js.toISOString
  createdAt := Js.toISOString log.createdAt

/-- `mapCompetencyReport`: the row, with its texts, its scores and its date. -/
def mapCompetencyReport (report : CompetencyReportRow) : CompetencyReport where
  id := report.id
  examSessionId := report.examSessionId
  candidateId := report.candidateId
  examId := report.examId
  problemSolvingScore := report.problemSolvingScore
  implementationScore := report.implementationScore
  debuggingScore := report.debuggingScore
  codeQualityScore := report.codeQualityScore
  timeManagementScore := report.timeManagementScore
  integrityScore := report.integrityScore
  overallScore := report.overallScore
  aiSummary := report.aiSummary
  strengths := report.strengths
  improvementAreas := report.improvementAreas
  recommendations := report.recommendations
  createdAt := Js.toISOString report.createdAt

/-! ### Executions and sessions -/

/-- `mapJudgeTestResult`: the row of one test of an execution or a submission. -/
def mapJudgeTestResult (testResult : JudgeTestResultRow) : JudgeTestResult where
  id := testResult.id
  codeExecutionId := testResult.codeExecutionId
  submissionId := testResult.submissionId
  testIndex := testResult.testIndex
  input := testResult.input
  expectedOutput := testResult.expectedOutput
  actualOutput := testResult.actualOutput
  passed := testResult.passed
  error := testResult.error
  executionTimeMs := testResult.executionTimeMs
  isPublic := testResult.isPublic
  createdAt := Js.toISOString testResult.createdAt

/-- `mapSubmission`, with the rows that `include: { testResults }` adds. -/
def mapSubmission (submission : SubmissionRow) (testResults : List JudgeTestResultRow) :
    Submission where
  id := submission.id
  examId := submission.examId
  candidateId := submission.candidateId
  questionId := submission.questionId
  language := submission.language
  code := submission.code
  score := submission.score
  passedTests := submission.passedTests
  totalTests := submission.totalTests
  testResults := testResults.map mapJudgeTestResult
  submittedAt := Js.toISOString submission.submittedAt

/-- `mapCodeExecution`, with the rows that `include: { testResults }` adds. -/
def mapCodeExecution (execution : CodeExecutionRow) (testResults : List JudgeTestResultRow) :
    CodeExecution where
  id := execution.id
  candidateId := execution.candidateId
  questionId := execution.questionId
  language := execution.language
  code := execution.code
  status := execution.status
  output := execution.output
  error := execution.error
  executionTimeMs := execution.executionTimeMs
  memoryUsageMb := execution.memoryUsageMb
  passedTests := execution.passedTests
  totalTests := execution.totalTests
  testResults := testResults.map mapJudgeTestResult
  createdAt := Js.toISOString execution.createdAt

/-- `mapCodeDraft`: the row, with its dates as ISO texts. -/
def mapCodeDraft (draft : CodeDraftRow) : CodeDraft where
  id := draft.id
  candidateId := draft.candidateId
  examId := draft.examId
  questionId := draft.questionId
  language := draft.language
  code := draft.code
  savedAt := Js.toISOString draft.savedAt
  createdAt := Js.toISOString draft.createdAt

/-! ### Included rows -/

namespace PlatformTables

variable (t : PlatformTables)

/-- `include: { testResults: { orderBy: { testIndex: "asc" } } }` of a submission. -/
def submissionTestResults (submission : SubmissionRow) : List JudgeTestResultRow :=
  orderByAsc (fun row => (row.testIndex : Int))
    (t.judgeTestResults.rows.filter (·.submissionId = some submission.id))

/-- `include: { testResults: { orderBy: { testIndex: "asc" } } }` of an execution. -/
def executionTestResults (execution : CodeExecutionRow) : List JudgeTestResultRow :=
  orderByAsc (fun row => (row.testIndex : Int))
    (t.judgeTestResults.rows.filter (·.codeExecutionId = some execution.id))

/-- The submissions of a candidate, newest first, with their results. -/
def submissionsOf (candidateId : String) : List Submission :=
  (orderByDesc (·.submittedAt) (t.submissions.rows.filter (·.candidateId = candidateId))).map
    fun submission => mapSubmission submission (t.submissionTestResults submission)

/-- The newest rows of a candidate, at most `take`. -/
def newestOf {ρ : Type} {key : ρ → String} (table : Table key) (owner : ρ → String)
    (createdAt : ρ → Int) (candidateId : String) (take : Nat) : List ρ :=
  (orderByDesc createdAt (table.rows.filter fun row => owner row = candidateId)).take take

/-- The 20 newest executions of a candidate, with their results. -/
def executionsOf (candidateId : String) : List CodeExecution :=
  (newestOf t.codeExecutions (·.candidateId) (·.createdAt) candidateId 20).map
    fun execution => mapCodeExecution execution (t.executionTestResults execution)

/-- The newest events of a candidate. -/
def proctorEventsOf (candidateId : String) (take : Nat) : List ProctorEvent :=
  (newestOf t.proctorEvents (·.candidateId) (·.createdAt) candidateId take).map mapProctorEvent

/-- The newest actions on a candidate. -/
def proctorActionsOf (candidateId : String) (take : Nat) : List ProctorAction :=
  (newestOf t.proctorActions (·.candidateId) (·.createdAt) candidateId take).map mapProctorAction

/-- The devices of a candidate, in the order of the table. -/
def proctorDevicesOf (candidateId : String) : List ProctorDevice :=
  (t.proctorDevices.rows.filter (·.candidateId = candidateId)).map mapProctorDevice

/-- The newest verification of a candidate, if there is one. -/
def identityVerificationsOf (candidateId : String) : List IdentityVerification :=
  (newestOf t.identityVerifications (·.candidateId) (·.createdAt) candidateId 1).map
    mapIdentityVerification

/-- The newest environment check of a candidate, if there is one. -/
def environmentChecksOf (candidateId : String) : List EnvironmentCheck :=
  (newestOf t.environmentChecks (·.candidateId) (·.createdAt) candidateId 1).map
    mapEnvironmentCheck

/-- The 20 newest reports on a candidate. -/
def competencyReportsOf (candidateId : String) : List CompetencyReport :=
  (newestOf t.competencyReports (·.candidateId) (·.createdAt) candidateId 20).map
    mapCompetencyReport

/-- The 20 newest mails to a candidate. -/
def inviteEmailLogsOf (candidateId : String) : List InviteEmailLog :=
  (newestOf t.inviteEmailLogs (·.candidateId) (·.createdAt) candidateId 20).map mapInviteEmailLog

/-- The candidates of an exam, oldest first. -/
def candidatesOf (examId : String) : List CandidateRow :=
  orderByAsc (·.createdAt) (t.candidates.rows.filter (·.examId = examId))

/-- The questions of an exam, oldest first. -/
def questionsOf (examId : String) : List QuestionRow :=
  orderByAsc (·.createdAt) (t.questions.rows.filter (·.examId = examId))

/-- The test cases of a question, oldest first. -/
def testCasesOf (questionId : String) : List TestCaseRow :=
  orderByAsc (·.createdAt) (t.testCases.rows.filter (·.questionId = questionId))

end PlatformTables

end Dcvp.Services.PlatformStore
