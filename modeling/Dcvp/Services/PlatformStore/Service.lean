import Dcvp.Lib.AsyncCalls
import Dcvp.Services.PlatformStore.CandidateAdmin
import Dcvp.Services.PlatformStore.CandidatePortal
import Dcvp.Services.PlatformStore.CandidateWorkspace
import Dcvp.Services.PlatformStore.Execution
import Dcvp.Services.PlatformStore.Proctor

/-!
# `Dcvp.Services.PlatformStore.Service`: the platform store as asynchronous calls

The class `PlatformStore` of `services/platform-store.service.ts` in memory mode. A method
hands an array of the store to a function `*InStore`, awaits it, and puts the array that it
answers into the field of the store. So a suspended call carries the arrays that it was
given, whatever the fields of the store are by then.

One suspension stands for all `await`s between two accesses to the fields of the store. The
code in between works on values that the call already has, and on the answers of its turn.
There is no database, so an awaited operation has no effect on it (`platformProgram`).

`getDashboard`, `listExams` and `getExamDetail` only read and are left out. `getExamReport`
and `getLiveProctorState` are here with the sweep that they do first, and without the report.
-/

set_option autoImplicit false

namespace Dcvp.Services.PlatformStore

open Dcvp.Lib
open Dcvp.Shared

/-! ### Calls, suspended calls and results -/

/-- The methods of operators on exams; all of them check the tenant first. -/
inductive ExamAdminCall where
  | createExam (input : CreateExamInput)
  | updateExam (examId : String) (input : CreateExamInput)
  | deleteExam (examId : String)
  | addQuestion (examId : String) (input : CreateQuestionInput)
  | addTestCase (questionId : String) (input : CreateTestCaseInput)
  | addCandidate (examId : String) (input : CreateCandidateInput)

/-- The methods that need an open exam session. -/
inductive CodeCall where
  | saveCandidateCodeDraft
  | runCandidateCode
  | submitCandidateCode
  deriving DecidableEq

/-- The methods that read the invite of a candidate, sweep the devices of the exam, and read
the invite again. -/
inductive InviteCall where
  | getCandidateInvite
  | createCandidateEnvironmentCheckSession
  | saveCandidateEnvironmentCheck (input : CreateEnvironmentCheckInput)
  | verifyCandidateIdentity (input : CreateIdentityVerificationInput)
  | createCandidateIdentitySession (input : Option IdentityPrivacyConsentInput)
  | getCandidateWorkspace
  | logProctorEvent (input : CreateProctorEventInput)
  | code (call : CodeCall) (input : CodeInput)

/-- The methods of the store, with the session of an operator or the invite token of a candidate.
-/
inductive PlatformCall where
  | examAdmin (session : AuthSession) (call : ExamAdminCall)
  | sendCandidateInviteEmail (candidateId : String) (session : AuthSession)
  | createProctorAction (candidateId : String) (input : CreateProctorActionInput)
      (session : AuthSession)
  | saveCompetencyReport (input : GenerateReportInput) (report : CompetencyReport)
  | getExamReport (examId : String) (session : AuthSession)
  | getLiveProctorState (examId : String) (session : AuthSession)
  | withInvite (inviteToken : String) (call : InviteCall)
  | markCandidateReady (inviteToken : String)
  | upsertProctorDevice (inviteToken : String) (input : UpsertProctorDeviceInput)

/-- A suspended call, with the arrays that it was given. -/
inductive PlatformWaiting where
  | examAdmin (session : AuthSession) (call : ExamAdminCall) (memoryState : ExamAdminMemoryState)
  | findCandidate (candidateId : String) (session : AuthSession)
      (memoryState : CandidateAdminMemoryState)
  | sendInvite (candidateWithExam : CandidateWithExam) (memoryLogs : List InviteEmailLog)
  | proctorAction (candidateId : String) (input : CreateProctorActionInput)
      (session : AuthSession) (memoryState : CandidateAdminMemoryState)
  | competencyReport (input : GenerateReportInput) (report : CompetencyReport)
      (memoryReports : List CompetencyReport)
  | reportSweep (examId : String) (before : Option Int) (memoryState : ProctorMemoryState)
  | firstInvite (inviteToken : String) (call : InviteCall)
      (memoryState : CandidatePortalMemoryState)
  | sweep (inviteToken : String) (call : InviteCall) (examId : String) (before : Option Int)
      (memoryState : ProctorMemoryState)
  | swept (inviteToken : String) (call : InviteCall)
  | invite (inviteToken : String) (call : InviteCall) (memoryState : CandidatePortalMemoryState)
  | environmentCheck (invite : CandidateInvite) (input : CreateEnvironmentCheckInput)
      (memoryChecks : List EnvironmentCheck)
  | verifyIdentity (invite : CandidateInvite) (input : CreateIdentityVerificationInput)
      (privacyConsentAcceptedAt : String) (memoryVerifications : List IdentityVerification)
  | identityConsent (invite : CandidateInvite) (acceptedAt : Int)
  | identitySession
  | candidateReady (inviteToken : String) (memoryState : CandidatePortalMemoryState)
  | workspace (invite : CandidateInvite) (memoryState : CandidateWorkspaceMemoryState)
  | proctorEvent (invite : CandidateInvite) (input : CreateProctorEventInput)
      (memoryEvents : List ProctorEvent)
  | deviceInvite (inviteToken : String) (input : UpsertProctorDeviceInput)
      (memoryState : CandidatePortalMemoryState)
  | device (invite : CandidateInvite) (input : UpsertProctorDeviceInput)
      (memoryDevices : List ProctorDevice)
  | examSession (invite : CandidateInvite) (call : CodeCall) (input : CodeInput)
      (memoryActions : List ProctorAction) (memorySessions : List ExamSession)
  | examSessionOpen (invite : CandidateInvite) (call : CodeCall) (input : CodeInput)
  | draft (invite : CandidateInvite) (input : CodeInput) (memoryDrafts : List CodeDraft)
  | runTestCases (invite : CandidateInvite) (input : CodeInput)
      (memoryState : ExecutionAccessMemoryState)
  | run (invite : CandidateInvite) (input : CodeInput) (testCases : List TestCase)
      (memoryExecutions : List CodeExecution)
  | submitQuestion (invite : CandidateInvite) (input : CodeInput)
      (memoryState : ExecutionAccessMemoryState)
  | submitTestCases (invite : CandidateInvite) (input : CodeInput) (question : Question)
      (memoryState : ExecutionAccessMemoryState)
  | submit (invite : CandidateInvite) (input : CodeInput) (question : Question)
      (testCases : List TestCase) (memoryState : SubmitMemoryState)

/-- What a call returns. The report of an exam is left out. -/
inductive PlatformValue where
  | exam (exam : Exam)
  | question (question : Question)
  | testCase (testCase : TestCase)
  | candidate (candidate : Candidate)
  | inviteEmail (result : InviteEmailResult)
  | proctorAction (action : ProctorAction)
  | competencyReport (report : CompetencyReport)
  | examReport
  | invite (invite : CandidateInvite)
  | environmentCheckSession (session : EnvironmentCheckSession)
  | environmentCheck (check : EnvironmentCheck)
  | identityVerification (verification : IdentityVerification)
  | identitySession (session : IdentityProviderSession)
  | ready (invite : CandidateInvite)
  | workspace (workspace : CandidateWorkspace)
  | proctorEvent (event : ProctorEvent)
  | proctorDevice (device : ProctorDevice)
  | draft (draft : CodeDraft)
  | codeExecution (execution : CodeExecution)
  | submission (submission : Submission)
  deriving DecidableEq

/-- The result of a call: its value, or the exception of the store. -/
abbrev PlatformResult := Except ServiceException PlatformValue

/-- The memory after a segment of a call, and how the segment ends. -/
abbrev PlatformSegment := PlatformMemory × Outcome PlatformWaiting PlatformResult

/-! ### Segments -/

/-- The call ends with an exception, and leaves the memory as it is given. -/
def throws (memory : PlatformMemory) (error : ServiceException) : PlatformSegment :=
  (memory, .finished (.error error))

/-- The call ends with a value, and leaves the memory as it is given. -/
def returns (memory : PlatformMemory) (value : PlatformValue) : PlatformSegment :=
  (memory, .finished (.ok value))

/-- The call is suspended at an awaited operation, with the memory as it is given. -/
def awaits (memory : PlatformMemory) (pc : PlatformWaiting) : PlatformSegment :=
  (memory, .suspended pc)

/-- The rest of a segment, unless an exception comes first. -/
def orThrow {α : Type} (memory : PlatformMemory) (x : Except ServiceException α)
    (rest : α → PlatformSegment) : PlatformSegment :=
  match x with
  | .error error => throws memory error
  | .ok a => rest a

section
variable (ctx : PlatformContext) (turn : PlatformInput) (memory : PlatformMemory)

/-- The end of `createExam`, `updateExam`, `deleteExam`, `addQuestion`, `addTestCase` and
`addCandidate`. -/
def finishExamAdmin (session : AuthSession) (memoryState : ExamAdminMemoryState) :
    ExamAdminCall → PlatformSegment
  | .createExam input =>
      let result := createExamInStore memoryState session input turn
      returns { memory with exams := result.2 } (.exam result.1)
  | .updateExam examId input =>
      orThrow memory (updateExamInStore memoryState session examId input) fun result =>
        returns { memory with exams := result.2 } (.exam result.1)
  | .deleteExam examId =>
      orThrow memory (deleteExamInStore memoryState session examId) fun result =>
        returns { memory with exams := result.2 } (.exam result.1)
  | .addQuestion examId input =>
      orThrow memory (addQuestionInStore memoryState session examId input turn) fun result =>
        returns { memory with questions := result.2 } (.question result.1)
  | .addTestCase questionId input =>
      orThrow memory (addTestCaseInStore memoryState session questionId input turn)
        fun result => returns { memory with testCases := result.2 } (.testCase result.1)
  | .addCandidate examId input =>
      orThrow memory (addCandidateInStore memoryState session examId input turn) fun result =>
        returns { memory with candidates := result.2 } (.candidate result.1)

/-- The first half of `getCandidateInviteForInternalUse`: the first snapshot. -/
def beginInvite (inviteToken : String) (call : InviteCall) : PlatformSegment :=
  awaits memory (.firstInvite inviteToken call memory.candidatePortalMemoryState)

/-- A call of the store, up to its first `await`. -/
def startCall : PlatformCall → PlatformSegment
  | .examAdmin session call =>
      orThrow memory (assertSessionCanManageExams session) fun _ =>
        awaits memory (.examAdmin session call memory.examAdminMemoryState)
  | .sendCandidateInviteEmail candidateId session =>
      orThrow memory (assertSessionCanManageExams session) fun _ =>
        awaits memory (.findCandidate candidateId session memory.candidateAdminMemoryState)
  | .createProctorAction candidateId input session =>
      orThrow memory (assertProctorRights session) fun _ =>
        awaits memory
          (.proctorAction candidateId input session memory.candidateAdminMemoryState)
  | .saveCompetencyReport input report =>
      awaits memory (.competencyReport input report memory.competencyReports)
  | .getExamReport examId session =>
      orThrow memory (assertSessionCanManageExams session) fun _ =>
        awaits memory (.reportSweep examId (staleBefore ctx turn.now) memory.proctorMemoryState)
  | .getLiveProctorState examId session =>
      orThrow memory (assertSessionCanProctor session) fun _ =>
        awaits memory (.reportSweep examId (staleBefore ctx turn.now) memory.proctorMemoryState)
  -- Of the methods with an invite, only this one checks its body first.
  | .withInvite inviteToken (.createCandidateIdentitySession input) =>
      orThrow memory (assertIdentityPrivacyConsent input) fun _ =>
        beginInvite memory inviteToken (.createCandidateIdentitySession input)
  | .withInvite inviteToken call => beginInvite memory inviteToken call
  | .markCandidateReady inviteToken =>
      awaits memory (.candidateReady inviteToken memory.candidatePortalMemoryState)
  | .upsertProctorDevice inviteToken input =>
      awaits memory (.deviceInvite inviteToken input memory.candidatePortalMemoryState)

/-- The checks of a method that works on code, before it asks for the exam session.
`submitCandidateCode` looks at the language later, and only for a coding question. -/
def assertCodeCall (invite : CandidateInvite) (call : CodeCall) (input : CodeInput) :
    Except ServiceException Unit := do
  assertCandidateCanUseWorkspace ctx invite turn.now
  assertQuestionBelongsToInvite invite input.questionId
  match call with
  | .saveCandidateCodeDraft | .runCandidateCode =>
      assertLanguageCanRun ctx.host.text invite input.language
  | .submitCandidateCode => .ok ()

/-- A call that has its invite, up to its next `await`. -/
def afterInvite (inviteToken : String) (invite : CandidateInvite) : InviteCall → PlatformSegment
  | .getCandidateInvite => returns memory (.invite (toPublicCandidateInvite invite))
  | .createCandidateEnvironmentCheckSession =>
      orThrow memory (createEnvironmentCheckSession ctx.host ctx.env inviteToken turn.now
        (turn.uuid 0)) fun session => returns memory (.environmentCheckSession session)
  | .saveCandidateEnvironmentCheck input =>
      orThrow memory (assertEnvironmentCheckSession ctx.host ctx.env inviteToken input.sessionId
        input.evidenceToken turn.now) fun _ =>
        awaits memory
          (.environmentCheck (toPublicCandidateInvite invite) input memory.environmentChecks)
  | .verifyCandidateIdentity input =>
      orThrow memory (checkIdentityInput (toPublicCandidateInvite invite) input)
        fun privacyConsentAcceptedAt =>
          awaits memory (.verifyIdentity (toPublicCandidateInvite invite) input
            privacyConsentAcceptedAt memory.identityVerifications)
  | .createCandidateIdentitySession _ =>
      awaits memory (.identityConsent (toPublicCandidateInvite invite) turn.now)
  -- The workspace and the methods on code keep the questions.
  | .getCandidateWorkspace =>
      orThrow memory (assertCandidateCanUseWorkspace ctx invite turn.now) fun _ =>
        awaits memory (.workspace invite memory.candidateWorkspaceMemoryState)
  | .logProctorEvent input =>
      awaits memory (.proctorEvent (toPublicCandidateInvite invite) input memory.proctorEvents)
  | .code call input =>
      orThrow memory (assertCodeCall ctx turn invite call input) fun _ =>
        awaits memory
          (.examSession invite call input memory.proctorActions memory.examSessions)

/-- A call whose exam session is open, up to its next `await`. -/
def afterExamSession (invite : CandidateInvite) (input : CodeInput) : CodeCall → PlatformSegment
  | .saveCandidateCodeDraft => awaits memory (.draft invite input memory.codeDrafts)
  | .runCandidateCode =>
      awaits memory (.runTestCases invite input memory.executionAccessMemoryState)
  | .submitCandidateCode =>
      awaits memory (.submitQuestion invite input memory.executionAccessMemoryState)

/-- `submitCandidateCode` from the request to `submitCandidateCodeInStore` on. -/
def beginSubmit (invite : CandidateInvite) (input : CodeInput) (question : Question)
    (testCases : List TestCase) : PlatformSegment :=
  awaits memory (.submit invite input question testCases
    { submissions := memory.submissions, candidates := memory.candidates })

/-- `submitCandidateCode` when it has its question. -/
def afterQuestion (invite : CandidateInvite) (input : CodeInput) (question : Question) :
    PlatformSegment :=
  if question.type = .coding then
    orThrow memory (assertLanguageCanRun ctx.host.text invite input.language) fun _ =>
      awaits memory
        (.submitTestCases invite input question memory.executionAccessMemoryState)
  else beginSubmit memory invite input question []

/-- A suspended call, up to its next `await` or its end. -/
def resumeCall : PlatformWaiting → PlatformSegment
  | .examAdmin session call memoryState =>
      finishExamAdmin turn memory session memoryState call
  | .findCandidate candidateId session memoryState =>
      orThrow memory (findCandidateWithExamInStore memoryState candidateId session)
        fun candidateWithExam =>
          awaits memory (.sendInvite candidateWithExam memory.inviteEmailLogs)
  | .sendInvite candidateWithExam memoryLogs =>
      let result := sendCandidateInviteEmailInStore ctx candidateWithExam memoryLogs turn
      returns { memory with inviteEmailLogs := result.2 } (.inviteEmail result.1)
  | .proctorAction candidateId input session memoryState =>
      orThrow memory (createProctorActionInStore memoryState session candidateId input turn)
        fun result =>
          returns { memory with proctorActions := result.2 } (.proctorAction result.1)
  | .competencyReport input report memoryReports =>
      let result := saveCompetencyReportInStore memoryReports input report
      returns { memory with competencyReports := result.2 } (.competencyReport result.1)
  | .reportSweep examId before memoryState =>
      let result := markStaleProctorDevicesInStore ctx memoryState examId before turn
      returns { memory with
        proctorDevices := result.proctorDevices
        proctorEvents := result.proctorEvents } .examReport
  | .firstInvite inviteToken call memoryState =>
      orThrow memory (getCandidateInviteInStore memoryState inviteToken) fun invite =>
        awaits memory (.sweep inviteToken call invite.exam.id (staleBefore ctx turn.now)
          memory.proctorMemoryState)
  | .sweep inviteToken call examId before memoryState =>
      let result := markStaleProctorDevicesInStore ctx memoryState examId before turn
      awaits { memory with
        proctorDevices := result.proctorDevices
        proctorEvents := result.proctorEvents } (.swept inviteToken call)
  | .swept inviteToken call =>
      awaits memory (.invite inviteToken call memory.candidatePortalMemoryState)
  | .invite inviteToken call memoryState =>
      orThrow memory (getCandidateInviteInStore memoryState inviteToken) fun invite =>
        afterInvite ctx turn memory inviteToken invite call
  | .environmentCheck invite input memoryChecks =>
      let result := saveCandidateEnvironmentCheckInStore memoryChecks invite input turn
      returns { memory with environmentChecks := result.2 } (.environmentCheck result.1)
  | .verifyIdentity invite input privacyConsentAcceptedAt memoryVerifications =>
      orThrow memory (verifyCandidateIdentityInStore memoryVerifications invite input
        privacyConsentAcceptedAt turn) fun result =>
          returns { memory with identityVerifications := result.2 }
            (.identityVerification result.1)
  | .identityConsent invite acceptedAt =>
      -- The array is read here, after the `await`, and not taken from a snapshot.
      let memory :=
        { memory with
          candidates := recordIdentityConsent memory.candidates invite.candidate.id acceptedAt }
      orThrow memory (assertIdentityVerificationEnabled invite) fun _ =>
        awaits memory .identitySession
  | .identitySession =>
      orThrow memory turn.providerSession fun session => returns memory (.identitySession session)
  | .candidateReady inviteToken memoryState =>
      orThrow memory (markCandidateReadyInStore memoryState inviteToken) fun result =>
        returns { memory with candidates := result.2 }
          (.ready (toPublicCandidateInvite result.1))
  | .workspace invite memoryState =>
      orThrow memory (getCandidateWorkspaceInStore ctx memoryState invite turn) fun result =>
        returns { memory with examSessions := result.2 }
          (.workspace (toCandidateWorkspace result.1))
  | .proctorEvent invite input memoryEvents =>
      let result := logProctorEventInStore memoryEvents invite input turn
      returns { memory with proctorEvents := result.2 } (.proctorEvent result.1)
  | .deviceInvite inviteToken input memoryState =>
      orThrow memory (getCandidateInviteInStore memoryState inviteToken) fun invite =>
        awaits memory (.device invite input memory.proctorDevices)
  | .device invite input memoryDevices =>
      let result := upsertProctorDeviceInStore memoryDevices invite input turn
      returns { memory with proctorDevices := result.2 } (.proctorDevice result.1)
  | .examSession invite call input memoryActions memorySessions =>
      orThrow memory (assertExamSessionOpenInStore ctx memoryActions memorySessions invite turn)
        fun examSessions =>
          awaits { memory with examSessions } (.examSessionOpen invite call input)
  | .examSessionOpen invite call input => afterExamSession memory invite input call
  | .draft invite input memoryDrafts =>
      let result := saveCandidateCodeDraftInStore memoryDrafts invite input turn
      returns { memory with codeDrafts := result.2 } (.draft result.1)
  | .runTestCases invite input memoryState =>
      awaits memory (.run invite input
        (getQuestionTestCasesInStore memoryState input.questionId true) memory.codeExecutions)
  | .run invite input _ memoryExecutions =>
      orThrow memory (runCandidateCodeInStore memoryExecutions invite input turn) fun result =>
        returns { memory with codeExecutions := result.2 }
          (.codeExecution (toCandidateCodeExecution result.1))
  | .submitQuestion invite input memoryState =>
      orThrow memory (getQuestionForEvaluationInStore memoryState invite input.questionId)
        fun question => afterQuestion ctx memory invite input question
  | .submitTestCases invite input question memoryState =>
      beginSubmit memory invite input question
        (getQuestionTestCasesInStore memoryState input.questionId false)
  | .submit invite input question _ memoryState =>
      orThrow memory (submitCandidateCodeInStore ctx memoryState invite question input turn)
        fun result =>
          returns { memory with submissions := result.2.1, candidates := result.2.2 }
            (.submission (toCandidateSubmission result.1))

end

/-- The platform store in memory mode as a program of asynchronous calls. -/
def platformProgram (ctx : PlatformContext) :
    AsyncProgram PlatformMemory Unit PlatformCall PlatformWaiting PlatformWaiting PlatformResult
      PlatformInput where
  start call turn memory := some (startCall ctx turn memory call)
  execute pc _ _ := some ((), pc)
  resume pc turn memory := some (resumeCall ctx turn memory pc)

/-- The states of the platform store on its memory path: the arrays, and the calls in flight. There
is no database, so it is `Unit`. -/
abbrev PlatformWorld := World PlatformMemory Unit PlatformWaiting PlatformWaiting PlatformResult

/-- The moves of the platform store: a call arrives, an outside operation is answered, or a call
runs on. -/
abbrev PlatformEvent := AsyncEvent PlatformCall PlatformInput

/-- The store without calls in flight. -/
def platformInitial (memory : PlatformMemory) : PlatformWorld := { memory, database := () }

/-! ### One operation after the other -/

/-- A call that runs to its end without other calls in between: the turn of its start, and the
turns behind its `await`s. -/
structure PlatformOperation where
  call : PlatformCall
  turn : PlatformInput
  turns : List PlatformInput

/-- The rest of a call behind a segment: the memory at its end, and its result. It is `none` when
the call takes more turns, or fewer. -/
def runToEnd (ctx : PlatformContext) :
    List PlatformInput → PlatformSegment → Option (PlatformMemory × PlatformResult)
  | [], (memory, .finished result) => some (memory, result)
  | turn :: turns, (memory, .suspended pc) =>
      runToEnd ctx turns (resumeCall ctx turn memory pc)
  | _, _ => none

/-- A whole operation, from its start to its answer, with no other call between. -/
def perform (ctx : PlatformContext) (memory : PlatformMemory) (operation : PlatformOperation) :
    Option (PlatformMemory × PlatformResult) :=
  runToEnd ctx operation.turns (startCall ctx operation.turn memory operation.call)

/-- An operation of the past with what it returned, as the log of a sequential run keeps it. -/
structure PerformedOperation where
  operation : PlatformOperation
  result : PlatformResult

/-- The store between two operations, with the operations so far, the newest one first. -/
structure SequentialStore where
  memory : PlatformMemory
  past : List PerformedOperation := []

/-- The machine of sequential operations, which remembers the past ones. -/
def sequentialStore (ctx : PlatformContext) : Machine SequentialStore PlatformOperation :=
  ⟨fun store operation => (perform ctx store.memory operation).map fun r =>
    { memory := r.1, past := ⟨operation, r.2⟩ :: store.past }⟩

end Dcvp.Services.PlatformStore
