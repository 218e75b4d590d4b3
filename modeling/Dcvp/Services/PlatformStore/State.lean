import Dcvp.Services.EnvironmentCheckEvidence
import Dcvp.Shared

/-!
# `Dcvp.Services.PlatformStore.State`: the memory of the platform store

The class `PlatformStoreState` of `services/platform-store.state.ts` when `tryDatabase`
answers `null`, so that the store lives in the arrays of the process. The modules of this
folder follow the files `services/platform-store.*.ts`. Each has the functions `*InStore` of
its file on the memory path.

The arrays are never changed in place: the source always puts a new array into the field. So
an array handed to a function is a value, and a `memoryState` is a snapshot.

`PlatformContext` has what the code takes from outside and does not change. `PlatformInput`
has the answers that one turn of a call gets: the clock, random values, and the outcome of
what the call awaited.
-/

set_option autoImplicit false

namespace Dcvp.Services.PlatformStore

open Dcvp.Shared

/-! ### Parameters -/

/-- The runtime and the configuration. `proctorHeartbeatTimeoutMs` is `none` for `NaN`. -/
structure PlatformContext where
  host : EvidenceHost
  env : EvidenceEnv := {}
  localeCompare : String → String → Ordering
  proctorHeartbeatTimeoutMs : Option Int := some 30000
  publicWebBaseUrl : String
  emailProvider : Option String := none

/-- `Date.parse` of ECMAScript, `none` for `NaN`. -/
def PlatformContext.dateParse (ctx : PlatformContext) (text : String) : Option Int :=
  ctx.host.dateParse text

/-- `configuredProviderName` of `EmailService`: `resend` where none is set. -/
def PlatformContext.configuredProviderName (ctx : PlatformContext) : String :=
  ctx.emailProvider.getD "resend"

/-- `CodeRunnerTestResult`: the outcome of a test as the runner reports it, with `isPublic` for the
view of the candidate. -/
structure CodeRunnerTestResult where
  testIndex : Nat
  input : String
  expectedOutput : String
  actualOutput : String
  passed : Bool
  error : Option String := none
  executionTimeMs : Rat
  isPublic : Bool
  deriving DecidableEq

/-- `CodeRunnerResult`: the runner's answer for all tests of a question. -/
structure CodeRunnerResult where
  status : CodeExecutionStatus
  output : String
  error : Option String := none
  executionTimeMs : Rat
  memoryUsageMb : Rat
  passedTests : Nat
  totalTests : Nat
  testResults : List CodeRunnerTestResult
  deriving DecidableEq

/-- `IdentityVerificationEngineResult`: what the engine says of an identity, before the store adds
identifier and date. -/
structure IdentityVerificationEngineResult where
  documentAuthenticityScore : Rat
  faceMatchScore : Rat
  livenessScore : Rat
  ocrNameMatched : Bool
  verificationChecks : List String
  provider : String
  providerDecision : KycProviderDecision
  providerReferenceId : String
  failureReason : Option String := none
  deriving DecidableEq

/-- `SendInviteEmailResult`: what the e-mail adapter says of a delivery. -/
structure SendInviteEmailResult where
  delivered : Bool
  provider : String
  providerMessageId : Option String := none
  message : String
  deriving DecidableEq

/-- What `sendInvite` may throw: an `EmailProviderConfigurationError`, another `Error`, or a
value that is no `Error`. -/
inductive SendInviteError where
  | configuration (provider message : String)
  | error (message : String)
  | value
  deriving DecidableEq

/-- The answers that one turn gets. `uuid n` is the `n`-th answer of `crypto.randomUUID()`. -/
structure PlatformInput where
  now : Int := 0
  uuid : Nat → String := fun _ => ""
  judged : Except ServiceException CodeRunnerResult := .error (.other "")
  verified : Except ServiceException IdentityVerificationEngineResult := .error (.other "")
  providerSession : Except ServiceException IdentityProviderSession := .error (.other "")
  sent : Except SendInviteError SendInviteEmailResult := .error .value

/-- `nowIso()`: the clock reading of the segment as an ISO text. -/
def PlatformInput.nowIso (input : PlatformInput) : String := Js.toISOString input.now

/-- `createId(prefix)` with the `n`-th random value of the turn. -/
def PlatformInput.createId (input : PlatformInput) (idPrefix : String) (n : Nat) : String :=
  Services.createId idPrefix (input.uuid n)

/-- `createSecretToken(prefix)` with the `n`-th random value of the turn. -/
def PlatformInput.createSecretToken (input : PlatformInput) (tokenPrefix : String) (n : Nat) :
    String := tokenPrefix ++ "_" ++ input.uuid n

/-! ### The memory -/

/-- `items.map((item) => p(item) ? f(item) : item)`. -/
def mapWhere {α : Type} (p : α → Bool) (f : α → α) (items : List α) : List α :=
  items.map fun item => if p item then f item else item

/-- `{ ...candidate, status }`: the other fields are kept. -/
def setStatus (status : CandidateStatus) (candidate : Candidate) : Candidate :=
  { candidate with status }

/-- The fields of `PlatformStoreState`: the arrays that stand in for the tables when there is no
database. -/
structure PlatformMemory where
  organization : Organization
  exams : List Exam := []
  questions : List Question := []
  candidates : List Candidate := []
  testCases : List TestCase := []
  proctorEvents : List ProctorEvent := []
  proctorDevices : List ProctorDevice := []
  proctorActions : List ProctorAction := []
  competencyReports : List CompetencyReport := []
  identityVerifications : List IdentityVerification := []
  environmentChecks : List EnvironmentCheck := []
  examSessions : List ExamSession := []
  codeDrafts : List CodeDraft := []
  codeExecutions : List CodeExecution := []
  submissions : List Submission := []
  inviteEmailLogs : List InviteEmailLog := []

/-- `ExamAdminMemoryState`: the arrays that the functions on exams get as an argument. -/
structure ExamAdminMemoryState where
  organization : Organization
  exams : List Exam
  questions : List Question
  candidates : List Candidate
  testCases : List TestCase

/-- `CandidatePortalMemoryState`: the arrays that the functions of the portal get as an argument.
-/
structure CandidatePortalMemoryState where
  organization : Organization
  exams : List Exam
  questions : List Question
  candidates : List Candidate
  proctorDevices : List ProctorDevice
  identityVerifications : List IdentityVerification
  environmentChecks : List EnvironmentCheck

/-- `ExecutionAccessMemoryState`: the arrays in which a question and its tests are looked up. -/
structure ExecutionAccessMemoryState where
  questions : List Question
  testCases : List TestCase

/-- `CandidateWorkspaceMemoryState`: the arrays from which the workspace of a candidate is put
together. -/
structure CandidateWorkspaceMemoryState where
  submissions : List Submission
  codeExecutions : List CodeExecution
  proctorEvents : List ProctorEvent
  proctorActions : List ProctorAction
  codeDrafts : List CodeDraft
  examSessions : List ExamSession

/-- `CandidateAdminMemoryState`: the arrays that the functions on candidates get as an argument. -/
structure CandidateAdminMemoryState where
  candidates : List Candidate
  exams : List Exam
  proctorActions : List ProctorAction

/-- `ProctorMemoryState`: the arrays that the reports of devices and events change. -/
structure ProctorMemoryState where
  proctorEvents : List ProctorEvent
  proctorDevices : List ProctorDevice

namespace PlatformMemory

/-- `examAdminMemoryState`: the lists that the functions of this group read. -/
def examAdminMemoryState (memory : PlatformMemory) : ExamAdminMemoryState := { memory with }

/-- `candidatePortalMemoryState`: the lists that the functions of this group read. -/
def candidatePortalMemoryState (memory : PlatformMemory) : CandidatePortalMemoryState :=
  { memory with }

/-- `executionAccessMemoryState`: the lists that the functions of this group read. -/
def executionAccessMemoryState (memory : PlatformMemory) : ExecutionAccessMemoryState :=
  { memory with }

/-- `candidateWorkspaceMemoryState`: the lists that the functions of this group read. -/
def candidateWorkspaceMemoryState (memory : PlatformMemory) : CandidateWorkspaceMemoryState :=
  { memory with }

/-- `candidateAdminMemoryState`: the lists that the functions of this group read. -/
def candidateAdminMemoryState (memory : PlatformMemory) : CandidateAdminMemoryState :=
  { memory with }

/-- The `memoryState` that `markStaleProctorDevices` passes on. -/
def proctorMemoryState (memory : PlatformMemory) : ProctorMemoryState := { memory with }

end PlatformMemory

/-! ### The start of the process -/

/-- The fields after `createPlatformSeedData`, which the module calls when it is loaded. -/
def createPlatformSeedData (now : Int) : PlatformMemory where
  organization :=
    { id := "org_demo", name := "Acme Engineering Hiring", createdAt := Js.toISOString now }
  exams :=
    [{ id := "exam_backend_001"
       organizationId := "org_demo"
       title := "Backend Developer Screening"
       description :=
         "90 minute coding assessment for API design, data structures, and debugging flow."
       startAt := Js.toISOString (now + 1000 * 60 * 60 * 24)
       endAt := Js.toISOString (now + 1000 * 60 * 60 * 30)
       durationMinutes := 90
       status := .scheduled
       languages := ["Python", "JavaScript", "Java"]
       proctoringEnabled := true
       identityVerificationEnabled := true
       mobileCameraRequired := true
       screenShareRequired := true
       createdAt := Js.toISOString now }]
  questions :=
    [{ id := "question_cache_001"
       examId := "exam_backend_001"
       title := "Implement LRU Cache"
       description := "Implement an LRU Cache where get and put run in average O(1) time."
       type := .coding
       points := 100
       difficulty := .medium
       timeLimitMs := 2000
       memoryLimitMb := 256
       choices := []
       createdAt := Js.toISOString now }]
  candidates :=
    [{ id := "candidate_001"
       examId := "exam_backend_001"
       name := "Kim Minjun"
       email := "minjun@example.com"
       status := .invited
       inviteToken := "invite_demo_001"
       createdAt := Js.toISOString now }]
  testCases :=
    [{ id := "case_cache_public_001"
       questionId := "question_cache_001"
       input := "capacity=2; put(1,1); put(2,2); get(1)"
       expectedOutput := "1"
       isPublic := true
       createdAt := Js.toISOString now },
     { id := "case_cache_hidden_001"
       questionId := "question_cache_001"
       input := "capacity=2; put(1,1); put(2,2); put(3,3); get(2)"
       expectedOutput := "2"
       isPublic := false
       createdAt := Js.toISOString now }]

end Dcvp.Services.PlatformStore
