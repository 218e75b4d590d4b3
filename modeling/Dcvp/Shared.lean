import Mathlib.Data.String.Defs

/-!
# `Dcvp.Shared`: the data types of `packages/shared/src/index.ts`

The record types that the API services exchange, with the source's field names. An optional
field is an `Option`, an enumeration is an inductive type. A time stamp is a string, as in the
source. A `number` is a `Rat`, or a `Nat` or `Int` where the source only counts with it.
-/

set_option autoImplicit false

namespace Dcvp.Shared

/-- `CURRENT_PRIVACY_POLICY_VERSION`, which a consent must name. -/
def currentPrivacyPolicyVersion : String := "2026-07-18"

/-- `UserRole`: the operator of the platform, the head of an organization, its proctors, and
everybody else with an account. -/
inductive UserRole where
  | admin
  | organization
  | proctor
  | candidate
  deriving DecidableEq, Repr

/-- `Organization`: a tenant. `joinCode` is what an access request quotes to ask for membership. -/
structure Organization where
  id : String
  name : String
  joinCode : Option String := none
  createdAt : String
  deriving DecidableEq, Repr

/-- `User`: an account as the API shows it, without its password hash. An account that belongs to
no organization has no `organizationId`. -/
structure User where
  id : String
  email : String
  name : String
  role : UserRole
  organizationId : Option String := none
  createdAt : String
  deriving DecidableEq, Repr

/-- `AuthSession`: the snapshot of a user and the organization that the registry keeps under a
token. It is what a request is judged by, so it can be older than the rows. -/
structure AuthSession where
  token : String
  user : User
  organization : Organization
  passwordChangeRequired : Bool := false
  deriving DecidableEq, Repr

/-! ### Exams and candidates -/

/-- `ExamStatus`: `deleted` marks an exam that stays in the tables but is shown to nobody. -/
inductive ExamStatus where
  | draft
  | scheduled
  | active
  | ended
  | deleted
  deriving DecidableEq, Repr

/-- `CandidateStatus`, in the order in which a candidate goes through an exam. -/
inductive CandidateStatus where
  | invited
  | ready
  | inProgress
  | completed
  deriving DecidableEq, Repr

/-- `Difficulty` of a question; no rule of the server depends on it. -/
inductive Difficulty where
  | easy
  | medium
  | hard
  deriving DecidableEq, Repr

/-- `QuestionType`: only `coding` questions are judged by running code. -/
inductive QuestionType where
  | coding
  | multipleChoice
  | shortAnswer
  | essay
  deriving DecidableEq, Repr

/-- `Exam`: the dates are ISO texts, as the API sends them, and `durationMinutes` is what a
candidate has from the start of the own session. -/
structure Exam where
  id : String
  organizationId : String
  title : String
  description : String
  startAt : String
  endAt : String
  durationMinutes : Rat
  status : ExamStatus
  languages : List String
  proctoringEnabled : Bool
  identityVerificationEnabled : Bool
  mobileCameraRequired : Bool
  screenShareRequired : Bool
  createdAt : String
  deriving DecidableEq, Repr

/-- `CreateExamInput`, which is `UpdateExamInput` too: the fields of an exam that an author may
choose. Neither `id` nor `organizationId` is among them. -/
structure CreateExamInput where
  title : String
  description : String
  startAt : String
  endAt : String
  durationMinutes : Rat
  languages : List String
  proctoringEnabled : Bool
  identityVerificationEnabled : Bool
  mobileCameraRequired : Bool
  screenShareRequired : Bool
  deriving DecidableEq, Repr

/-- `Question` of an exam, with the limits under which its code is judged. -/
structure Question where
  id : String
  examId : String
  title : String
  description : String
  type : QuestionType
  points : Rat
  difficulty : Difficulty
  timeLimitMs : Rat
  memoryLimitMb : Rat
  choices : List String
  expectedAnswer : Option String := none
  createdAt : String
  deriving DecidableEq, Repr

/-- `CreateQuestionInput`: the fields of a question that an author chooses; the exam comes from the
path. -/
structure CreateQuestionInput where
  title : String
  description : String
  type : QuestionType
  points : Rat
  difficulty : Difficulty
  timeLimitMs : Rat
  memoryLimitMb : Rat
  choices : List String
  expectedAnswer : Option String := none
  deriving DecidableEq, Repr

/-- `TestCase` of a coding question. Only those with `isPublic` are for the candidate's eyes. -/
structure TestCase where
  id : String
  questionId : String
  input : String
  expectedOutput : String
  isPublic : Bool
  createdAt : String
  deriving DecidableEq, Repr

/-- `CreateTestCaseInput`: the fields of a test case that an author chooses. -/
structure CreateTestCaseInput where
  input : String
  expectedOutput : String
  isPublic : Bool
  deriving DecidableEq, Repr

/-- `Candidate` of one exam, not an account: whoever holds `inviteToken` acts as this candidate. -/
structure Candidate where
  id : String
  examId : String
  name : String
  email : String
  status : CandidateStatus
  inviteToken : String
  identityPrivacyConsentVersion : Option String := none
  identityPrivacyConsentAcceptedAt : Option String := none
  createdAt : String
  deriving DecidableEq, Repr

/-- `CreateCandidateInput`: whom to invite; token and status are the server's. -/
structure CreateCandidateInput where
  name : String
  email : String
  deriving DecidableEq, Repr

/-! ### Running and submitting code -/

/-- `CodeExecutionStatus`: how a run of the candidate's code ended. -/
inductive CodeExecutionStatus where
  | success
  | failed
  deriving DecidableEq, Repr

/-- `JudgeTestResult`: the outcome of one test, kept with the execution or with the submission it
belongs to. A hidden test carries its input and outputs here too, so a view has to take them out.
-/
structure JudgeTestResult where
  id : String
  codeExecutionId : Option String := none
  submissionId : Option String := none
  testIndex : Nat
  input : String
  expectedOutput : String
  actualOutput : String
  passed : Bool
  error : Option String := none
  executionTimeMs : Rat
  isPublic : Bool
  createdAt : String
  deriving DecidableEq, Repr

/-- `CodeExecution`: one trial run of a candidate, with output, error text and the outcomes of the
tests. -/
structure CodeExecution where
  id : String
  candidateId : String
  questionId : String
  language : String
  code : String
  status : CodeExecutionStatus
  output : String
  error : Option String := none
  executionTimeMs : Rat
  memoryUsageMb : Rat
  passedTests : Nat
  totalTests : Nat
  testResults : List JudgeTestResult
  createdAt : String
  deriving DecidableEq, Repr

/-- `Submission`: the code that a candidate hands in for a question, with the score that the tests
gave. -/
structure Submission where
  id : String
  examId : String
  candidateId : String
  questionId : String
  language : String
  code : String
  score : Int
  passedTests : Nat
  totalTests : Nat
  testResults : List JudgeTestResult
  submittedAt : String
  deriving DecidableEq, Repr

/-- `CodeDraft`: the last saved code of a candidate for a question in a language. -/
structure CodeDraft where
  id : String
  candidateId : String
  examId : String
  questionId : String
  language : String
  code : String
  savedAt : String
  createdAt : String
  deriving DecidableEq, Repr

/-- `CodeRunInput`, `CodeSubmitInput` and `SaveCodeDraftInput`, which have the same fields. -/
structure CodeInput where
  questionId : String
  language : String
  code : String
  deriving DecidableEq, Repr

/-- `ExamSession`. The remaining seconds are `none` for `NaN`. -/
structure ExamSession where
  id : String
  candidateId : String
  examId : String
  startedAt : String
  endsAt : String
  completedAt : Option String := none
  serverNow : String
  remainingSeconds : Option Rat
  deriving DecidableEq, Repr

/-! ### Proctoring -/

/-- `ProctorEventType`: what the candidate's page or the sweep of the server can report. Each type
has a weight in the risk score. -/
inductive ProctorEventType where
  | tabHidden
  | tabVisible
  | windowBlur
  | windowFocus
  | copy
  | paste
  | fullscreenExit
  | fullscreenEnter
  | primaryCameraConnected
  | primaryCameraDisconnected
  | primaryCameraPermissionDenied
  | mobileCameraConnected
  | mobileCameraDisconnected
  | mobileCameraPermissionDenied
  | mobilePageHidden
  | mobilePageVisible
  | mobilePageLeft
  | mobileNetworkOffline
  | mobileNetworkOnline
  | mobileHeartbeatMissed
  deriving DecidableEq, Repr

/-- `ProctorDeviceRole`: the computer of the candidate and the phone beside it. -/
inductive ProctorDeviceRole where
  | primaryPc
  | mobileAux
  deriving DecidableEq, Repr

/-- The text of a role, as messages and keys hold it. -/
def ProctorDeviceRole.text : ProctorDeviceRole → String
  | .primaryPc => "PRIMARY_PC"
  | .mobileAux => "MOBILE_AUX"

/-- `ProctorDeviceStatus`: a device waits until its first report; `disconnected` comes from a
closed socket or from the sweep. -/
inductive ProctorDeviceStatus where
  | waiting
  | connected
  | disconnected
  | permissionDenied
  deriving DecidableEq, Repr

/-- `ProctorActionType`: `pauseExam` and `terminateExam` block the candidate, `resumeExam` lifts
the block, the other two only tell. -/
inductive ProctorActionType where
  | warningMessage
  | pauseExam
  | resumeExam
  | terminateExam
  | memo
  deriving DecidableEq, Repr

/-- `ProctorEvent`: one observation about a candidate, from the page or from the server. -/
structure ProctorEvent where
  id : String
  candidateId : String
  examId : String
  type : ProctorEventType
  detail : Option String := none
  createdAt : String
  deriving DecidableEq, Repr

/-- `ProctorDevice`: the state of one role of one candidate, with the dates of its changes and its
last heartbeat. -/
structure ProctorDevice where
  id : String
  candidateId : String
  examId : String
  role : ProctorDeviceRole
  status : ProctorDeviceStatus
  connectedAt : Option String := none
  disconnectedAt : Option String := none
  lastHeartbeatAt : Option String := none
  detail : Option String := none
  createdAt : String
  updatedAt : String
  deriving DecidableEq, Repr

/-- `ProctorAction`: one decision of a proctor on a candidate. The exam gate reads the newest
blocking or resuming one. -/
structure ProctorAction where
  id : String
  candidateId : String
  examId : String
  type : ProctorActionType
  message : String
  createdAt : String
  deriving DecidableEq, Repr

/-- `CreateProctorEventInput`: what a page may report of an event; candidate and exam come from the
token. -/
structure CreateProctorEventInput where
  type : ProctorEventType
  detail : Option String := none
  deriving DecidableEq, Repr

/-- `UpsertProctorDeviceInput`: the report of a device about itself. -/
structure UpsertProctorDeviceInput where
  role : ProctorDeviceRole
  status : ProctorDeviceStatus
  detail : Option String := none
  deriving DecidableEq, Repr

/-- `CreateProctorActionInput`: a decision before it has an identifier and a date. -/
structure CreateProctorActionInput where
  type : ProctorActionType
  message : String
  deriving DecidableEq, Repr

/-! ### Identity and environment -/

/-- `IdentityVerificationStatus`: the outcome that the exam gate looks at. -/
inductive IdentityVerificationStatus where
  | pending
  | verified
  | failed
  deriving DecidableEq, Repr

/-- `KycProviderDecision`: the answer of the identity provider before it is turned into a status.
-/
inductive KycProviderDecision where
  | verified
  | rejected
  | reviewRequired
  deriving DecidableEq, Repr

/-- `IdentityVerification`: one check of a candidate's identity, with the provider's answer and the
derived status. -/
structure IdentityVerification where
  id : String
  candidateId : String
  examId : String
  documentCaptureConfirmed : Bool
  documentImageName : String
  faceImageCaptured : Bool
  provider : String
  providerDecision : KycProviderDecision
  providerReferenceId : String
  failureReason : Option String := none
  similarityScore : Rat
  documentAuthenticityScore : Rat
  faceMatchScore : Rat
  livenessScore : Rat
  ocrNameMatched : Bool
  verificationChecks : List String
  privacyConsentVersion : Option String := none
  privacyConsentAcceptedAt : Option String := none
  status : IdentityVerificationStatus
  verifiedAt : Option String := none
  createdAt : String
  deriving DecidableEq, Repr

/-- `CreateIdentityVerificationInput`: what the page sends: the confirmations, and in the provider
flow the references of the session. -/
structure CreateIdentityVerificationInput where
  documentImageName : Option String := none
  documentCaptured : Bool
  faceImageCaptured : Bool
  livenessConfirmed : Bool
  providerSessionId : Option String := none
  documentUploadRef : Option String := none
  faceUploadRef : Option String := none
  deriving DecidableEq, Repr

/-- `IdentityPrivacyConsentInput`: the consent that has to come before any identity data. -/
structure IdentityPrivacyConsentInput where
  privacyConsentAccepted : Bool
  privacyPolicyVersion : String
  deriving DecidableEq, Repr

/-- `IdentityProviderSession`: where the page uploads the document and the face image, and until
when. -/
structure IdentityProviderSession where
  provider : String
  providerSessionId : String
  documentUploadRef : String
  faceUploadRef : String
  expiresAt : String
  deriving DecidableEq, Repr

/-- `EnvironmentCheckStatus` of a single item; a warning does not block. -/
inductive EnvironmentCheckStatus where
  | passed
  | warning
  | failed
  deriving DecidableEq, Repr

/-- `EnvironmentCheckItemId`: the five things that the page checks before an exam. -/
inductive EnvironmentCheckItemId where
  | browser
  | network
  | camera
  | microphone
  | screen
  deriving DecidableEq, Repr

/-- `EnvironmentCheckSession`: the signed evidence that a check was opened by the server, which the
report has to bring back. -/
structure EnvironmentCheckSession where
  sessionId : String
  evidenceToken : String
  expiresAt : String
  requiredItems : List EnvironmentCheckItemId
  deriving DecidableEq, Repr

/-- `EnvironmentCheckResult`: what the page says of one item. -/
structure EnvironmentCheckResult where
  id : EnvironmentCheckItemId
  status : EnvironmentCheckStatus
  detail : Option String := none
  deriving DecidableEq, Repr

/-- `EnvironmentCheck`: a stored report, with the server's verdict in `requiredPassed`. -/
structure EnvironmentCheck where
  id : String
  candidateId : String
  examId : String
  results : List EnvironmentCheckResult
  requiredPassed : Bool
  createdAt : String
  deriving DecidableEq, Repr

/-- `CompetencyReport`: the scores of a finished sitting, derived from submissions or taken from
the model's answer. -/
structure CompetencyReport where
  id : String
  examSessionId : String
  candidateId : String
  examId : String
  problemSolvingScore : Rat
  implementationScore : Rat
  debuggingScore : Rat
  codeQualityScore : Rat
  timeManagementScore : Rat
  integrityScore : Rat
  overallScore : Rat
  aiSummary : String
  strengths : List String
  improvementAreas : List String
  recommendations : List String
  createdAt : String
  deriving DecidableEq, Repr

/-! ### What candidates see, and what they are sent -/

/-- `CandidateInvite`: everything that the portal shows to the holder of an invite token before the
exam opens. -/
structure CandidateInvite where
  candidate : Candidate
  exam : Exam
  organization : Organization
  questions : List Question
  proctorDevices : List ProctorDevice
  identityVerification : Option IdentityVerification := none
  environmentCheck : Option EnvironmentCheck := none
  deriving DecidableEq, Repr

/-- `CandidateWorkspace`: the invite with all that the exam page shows to the candidate, with
hidden tests taken out of the outcomes. -/
structure CandidateWorkspace extends CandidateInvite where
  submissions : List Submission
  executions : List CodeExecution
  proctorEvents : List ProctorEvent
  proctorActions : List ProctorAction
  examSession : ExamSession
  drafts : List CodeDraft
  deriving DecidableEq, Repr

/-- The `status` of an `InviteEmailLog`: what the provider's answer was taken for. -/
inductive InviteEmailStatus where
  | sent
  | failed
  deriving DecidableEq, Repr

/-- `InviteEmailLog`: the record of one attempt to mail an invite, kept for the organization. -/
structure InviteEmailLog where
  id : String
  candidateId : String
  examId : String
  email : String
  inviteUrl : String
  provider : String
  providerMessageId : Option String := none
  status : InviteEmailStatus
  message : String
  sentAt : Option String := none
  createdAt : String
  deriving DecidableEq, Repr

/-- `InviteEmailResult`: the answer to the operator who sent an invite, with the record that was
stored for it. -/
structure InviteEmailResult where
  candidateId : String
  email : String
  inviteUrl : String
  delivered : Bool
  provider : String
  providerMessageId : Option String := none
  message : String
  log : Option InviteEmailLog := none
  deriving DecidableEq, Repr

/-! ### What operators see -/

/-- `ProctorRiskLevel`: the risk score in three steps, with the thresholds of the server. -/
inductive ProctorRiskLevel where
  | safe
  | warning
  | danger
  deriving DecidableEq, Repr

/-- `QuestionWithTestCases`: a question with all its tests, hidden ones included, for those who
author the exam. -/
structure QuestionWithTestCases extends Question where
  testCases : List TestCase
  deriving DecidableEq, Repr

/-- `ExamDetail`: an exam with everything that belongs to it, as its authors see it. -/
structure ExamDetail extends Exam where
  questions : List QuestionWithTestCases
  candidates : List Candidate
  deriving DecidableEq, Repr

/-- `CandidateExamReport`: all records of one candidate, with the newest of each kind picked out.
-/
structure CandidateExamReport where
  candidate : Candidate
  submissions : List Submission
  executions : List CodeExecution
  latestSubmission : Option Submission := none
  latestExecution : Option CodeExecution := none
  latestAiReport : Option CompetencyReport := none
  latestIdentityVerification : Option IdentityVerification := none
  latestEnvironmentCheck : Option EnvironmentCheck := none
  bestScore : Int
  submissionCount : Nat
  executionCount : Nat
  riskEventCount : Nat
  riskScore : Nat
  riskLevel : ProctorRiskLevel
  proctorEvents : List ProctorEvent
  proctorDevices : List ProctorDevice
  proctorActions : List ProctorAction
  aiReports : List CompetencyReport
  inviteEmailLogs : List InviteEmailLog
  deriving DecidableEq, Repr

/-- `ExamReport`: an exam with the report of each of its candidates. -/
structure ExamReport where
  exam : Exam
  candidates : List CandidateExamReport
  deriving DecidableEq, Repr

/-- `LiveProctorCandidateState`: what a proctor sees of one candidate, with the risk computed at
the read. -/
structure LiveProctorCandidateState where
  candidate : Candidate
  riskScore : Nat
  riskLevel : ProctorRiskLevel
  proctorEvents : List ProctorEvent
  proctorDevices : List ProctorDevice
  proctorActions : List ProctorAction
  deriving DecidableEq, Repr

/-- `LiveProctorExamState`: what a proctor sees of an exam. -/
structure LiveProctorExamState where
  exam : Exam
  candidates : List LiveProctorCandidateState
  deriving DecidableEq, Repr

/-- `DashboardSummary`: the counts on the first page of an organization. -/
structure DashboardSummary where
  organization : Organization
  totalExams : Nat
  activeExams : Nat
  totalCandidates : Nat
  pendingReports : Nat
  recentExams : List Exam
  deriving DecidableEq, Repr

end Dcvp.Shared
