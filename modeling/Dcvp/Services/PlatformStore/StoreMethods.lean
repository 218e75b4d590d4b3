import Dcvp.Services.PlatformStore.StoreOperations

/-!
# `Dcvp.Services.PlatformStore.StoreMethods`: the store as a machine on both paths

The writing methods of the class `PlatformStore`, with the reading ones of `Reads` next to
them. `performStore` runs one call, and `storeMachine` runs calls one after the other. A call
that throws is a step too: what it changed before stays.
-/

set_option autoImplicit false

namespace Dcvp.Services.PlatformStore

open Dcvp.Lib
open Dcvp.Lib.Computation
open Dcvp.Shared

section
variable (ctx : StoreContext)

/-! ### Exams and candidates -/

/-- `updateExam`: the right to manage exams, then the update on either path. -/
def updateExam (examId : String) (input : CreateExamInput) (session : AuthSession)
    (turn : PlatformInput) : StoreOperation Exam := do
  assertRights (assertSessionCanManageExams session)
  orOnMemory (trySeededDatabase ctx (updateExamInDatabase ctx session examId input) turn.now)
    fun memory =>
      (updateExamInStore memory.examAdminMemoryState session examId input).map fun result =>
        (result.1, { memory with exams := result.2 })

/-- `deleteExam`: the right to manage exams, then the status `DELETED` on either path. -/
def deleteExam (examId : String) (session : AuthSession) (turn : PlatformInput) :
    StoreOperation Exam := do
  assertRights (assertSessionCanManageExams session)
  orOnMemory (trySeededDatabase ctx (deleteExamInDatabase session examId) turn.now)
    fun memory =>
      (deleteExamInStore memory.examAdminMemoryState session examId).map fun result =>
        (result.1, { memory with exams := result.2 })

/-- `addQuestion`: the right to manage exams, then the new question on either path. -/
def addQuestion (examId : String) (input : CreateQuestionInput) (session : AuthSession)
    (turn : PlatformInput) : StoreOperation Question := do
  assertRights (assertSessionCanManageExams session)
  orOnMemory (trySeededDatabase ctx (addQuestionInDatabase session examId input turn) turn.now)
    fun memory =>
      (addQuestionInStore memory.examAdminMemoryState session examId input turn).map
        fun result => (result.1, { memory with questions := result.2 })

/-- `addTestCase`: the right to manage exams, then the new test case on either path. -/
def addTestCase (questionId : String) (input : CreateTestCaseInput) (session : AuthSession)
    (turn : PlatformInput) : StoreOperation TestCase := do
  assertRights (assertSessionCanManageExams session)
  orOnMemory
    (trySeededDatabase ctx (addTestCaseInDatabase session questionId input turn) turn.now)
    fun memory =>
      (addTestCaseInStore memory.examAdminMemoryState session questionId input turn).map
        fun result => (result.1, { memory with testCases := result.2 })

/-- `addCandidate`: the right to manage exams, then the new candidate on either path. -/
def addCandidate (examId : String) (input : CreateCandidateInput) (session : AuthSession)
    (turn : PlatformInput) : StoreOperation Candidate := do
  assertRights (assertSessionCanManageExams session)
  orOnMemory (trySeededDatabase ctx (addCandidateInDatabase session examId input turn) turn.now)
    fun memory =>
      (addCandidateInStore memory.examAdminMemoryState session examId input turn).map
        fun result => (result.1, { memory with candidates := result.2 })

/-- `findCandidateWithExamInStore` on both paths, the memory being the fallback. -/
def findCandidateWithExam (candidateId : String) (session : AuthSession) (now : Int) :
    StoreOperation CandidateWithExam :=
  orInMemory
    (trySeededDatabase ctx
      (reads fun db => findCandidateWithExamInDatabase db.toPlatformTables candidateId session)
      now)
    fun memory =>
      findCandidateWithExamInStore memory.candidateAdminMemoryState candidateId session

/-- `createProctorAction`. The candidate is looked up in an operation of its own. -/
def createProctorAction (candidateId : String) (input : CreateProctorActionInput)
    (session : AuthSession) (turns : Nat → PlatformInput) : StoreOperation ProctorAction := do
  assertRights (assertProctorRights session)
  let candidateWithExam ← findCandidateWithExam ctx candidateId session (turns 0).now
  orOnMemory
    (trySeededDatabase ctx
      (createProctorActionInDatabase candidateId candidateWithExam.exam.id input (turns 1))
      (turns 1).now)
    fun memory =>
      let action := newProctorAction candidateId candidateWithExam.exam.id input (turns 1)
      .ok (action, { memory with proctorActions := action :: memory.proctorActions })

/-- The operation of `markCandidateReadyInStore`. The invite is read with an operation of its
own, when the status is written already. -/
def candidateReadyOperation (inviteToken : String) (now : Int) :
    StoreOperation CandidateInvite := do
  let memory ← reads fun store => .ok store.memory
  onDatabase (ensurePlatformSeedData ctx memory.examAdminMemoryState now)
  onDatabase <| reads fun db =>
    match db.candidates.findFirst (·.inviteToken = inviteToken) with
    | none => .error inviteNotFound
    | some _ => .ok ()
  -- The status is not tested, so a candidate in progress goes back to `READY`.
  onDatabase <| updates fun db =>
    db.updateCandidateStatus (·.inviteToken = inviteToken) .ready
  readCandidateInvite ctx inviteToken now

/-- `markCandidateReady`: the candidate of the token is ready, and the invite is shown in its
public form. -/
def markCandidateReady (inviteToken : String) (turn : PlatformInput) :
    StoreOperation CandidateInvite := do
  let invite ← orOnMemory (tryStore ctx (candidateReadyOperation ctx inviteToken turn.now))
    fun memory =>
      (markCandidateReadyInStore memory.candidatePortalMemoryState inviteToken).map
        fun result => (result.1, { memory with candidates := result.2 })
  pure (toPublicCandidateInvite invite)

/-! ### The workspace -/

/-- `getInviteForWorkspaceUse`: the invite after the sweep, if it passes the gate of the workspace.
-/
def inviteForWorkspaceUse (inviteToken : String) (turns : Nat → PlatformInput) :
    StoreOperation CandidateInvite := do
  let first ← readCandidateInvite ctx inviteToken (turns 0).now
  markStaleProctorDevices ctx first.exam.id (turns 1).now (turns 1)
  let invite ← readCandidateInvite ctx inviteToken (turns 2).now
  reads fun _ => assertCandidateCanUseWorkspace ctx.toPlatformContext invite (turns 2).now
  pure invite

/-- `getCandidateWorkspace`: the workspace of the token, as its candidate may see it. -/
def getCandidateWorkspace (inviteToken : String) (turns : Nat → PlatformInput) :
    StoreOperation CandidateWorkspace := do
  let invite ← inviteForWorkspaceUse ctx inviteToken turns
  let workspace ← readCandidateWorkspace ctx invite (turns 3)
  pure (toCandidateWorkspace workspace)

/-- The gates of a draft, a run or a submission. They answer the invite. -/
def passGates (call : CodeCall) (inviteToken : String) (input : CodeInput)
    (turns : Nat → PlatformInput) : StoreOperation CandidateInvite := do
  let invite ← inviteForWorkspaceUse ctx inviteToken turns
  reads fun _ => do
    assertQuestionBelongsToInvite invite input.questionId
    match call with
    | .saveCandidateCodeDraft | .runCandidateCode =>
        assertLanguageCanRun ctx.host.text invite input.language
    | .submitCandidateCode => .ok ()
  assertExamSessionOpen ctx invite (turns 3)
  pure invite

/-- `saveCandidateCodeDraftInStore` on both paths, the memory being the fallback. -/
def saveDraft (invite : CandidateInvite) (input : CodeInput) (turn : PlatformInput) :
    StoreOperation CodeDraft :=
  orOnMemory (tryDatabase ctx (saveDraftInDatabase invite input turn)) fun memory =>
    let result := saveCandidateCodeDraftInStore memory.codeDrafts invite input turn
    .ok (result.1, { memory with codeDrafts := result.2 })

/-- `getQuestionTestCasesInStore` on both paths, the memory being the fallback. -/
def questionTestCases (questionId : String) (publicOnly : Bool) :
    StoreOperation (List TestCase) :=
  orInMemory
    (tryDatabase ctx (reads fun db => .ok ((db.testCasesOf questionId).filter
      (fun row => !publicOnly || row.isPublic) |>.map mapTestCase)))
    fun memory =>
      .ok (getQuestionTestCasesInStore memory.executionAccessMemoryState questionId publicOnly)

/-- `runCandidateCodeInStore` on both paths: an error of `judge` is thrown before either. -/
def runCode (invite : CandidateInvite) (input : CodeInput) (turn : PlatformInput) :
    StoreOperation CodeExecution := do
  let result ← reads fun _ => turn.judged
  orOnMemory (tryDatabase ctx (saveExecutionInDatabase invite input result turn)) fun memory =>
    let execution := newCodeExecution invite input result turn
    .ok (execution, { memory with codeExecutions := execution :: memory.codeExecutions })

/-- `getQuestionForEvaluationInStore` on both paths, the memory being the fallback. -/
def questionForEvaluation (invite : CandidateInvite) (questionId : String) :
    StoreOperation Question :=
  orInMemory
    (tryDatabase ctx
      (reads fun db => questionForEvaluationInDatabase db.toPlatformTables invite questionId))
    fun memory =>
      getQuestionForEvaluationInStore memory.executionAccessMemoryState invite questionId

/-- The array of candidates after a submission. -/
def startProgress (candidateId : String) (candidates : List Candidate) : List Candidate :=
  mapWhere (·.id = candidateId) (setStatus .inProgress) candidates

/-- `submitCandidateCodeInStore` on both paths, where its statements may fail. -/
def submitCodeWithFaults (faults : SubmissionFaults) (invite : CandidateInvite)
    (question : Question) (input : CodeInput) (turn : PlatformInput) :
    StoreOperation Submission := do
  let runResult ← reads fun _ => submissionRunResult ctx.toPlatformContext question input turn
  orOnMemory (tryDatabase ctx (saveSubmissionWithFaults faults invite input runResult turn))
    fun memory =>
      let submission := newSubmission invite input runResult turn
      .ok (submission, { memory with
        submissions := submission :: memory.submissions
        candidates := startProgress invite.candidate.id memory.candidates })

/-- `submitCandidateCodeInStore` on both paths, when no statement fails for a reason of its own. -/
def submitCode (invite : CandidateInvite) (question : Question) (input : CodeInput)
    (turn : PlatformInput) : StoreOperation Submission :=
  submitCodeWithFaults ctx {} invite question input turn

/-- `saveCandidateCodeDraft`: the gates of the call, then the draft. -/
def saveCandidateCodeDraft (inviteToken : String) (input : CodeInput)
    (turns : Nat → PlatformInput) : StoreOperation CodeDraft := do
  let invite ← passGates ctx .saveCandidateCodeDraft inviteToken input turns
  saveDraft ctx invite input (turns 4)

/-- `runCandidateCode`. The test cases go to the runner, whose answer is `judged`. -/
def runCandidateCode (inviteToken : String) (input : CodeInput) (turns : Nat → PlatformInput) :
    StoreOperation CodeExecution := do
  let invite ← passGates ctx .runCandidateCode inviteToken input turns
  let _ ← questionTestCases ctx input.questionId true
  let execution ← runCode ctx invite input (turns 4)
  pure (toCandidateCodeExecution execution)

/-- `submitCandidateCode`: the gates, the question, for a program its language and tests, then the
submission. -/
def submitCandidateCode (inviteToken : String) (input : CodeInput)
    (turns : Nat → PlatformInput) : StoreOperation Submission := do
  let invite ← passGates ctx .submitCandidateCode inviteToken input turns
  let question ← questionForEvaluation ctx invite input.questionId
  -- Other questions are evaluated without the runner, in any language.
  if question.type = .coding then do
    reads fun _ => assertLanguageCanRun ctx.host.text invite input.language
    let _ ← questionTestCases ctx input.questionId false
    let submission ← submitCode ctx invite question input (turns 4)
    pure (toCandidateSubmission submission)
  else do
    let submission ← submitCode ctx invite question input (turns 4)
    pure (toCandidateSubmission submission)

end

/-! ### Runs -/

/-- A call of an operator, a proctor or a candidate. -/
inductive StoreCall where
  | updateExam (examId : String) (input : CreateExamInput) (session : AuthSession)
  | deleteExam (examId : String) (session : AuthSession)
  | addCandidate (examId : String) (input : CreateCandidateInput) (session : AuthSession)
  | createProctorAction (candidateId : String) (input : CreateProctorActionInput)
      (session : AuthSession)
  | markCandidateReady (inviteToken : String)
  | getCandidateWorkspace (inviteToken : String)
  | saveCandidateCodeDraft (inviteToken : String) (input : CodeInput)
  | runCandidateCode (inviteToken : String) (input : CodeInput)
  | submitCandidateCode (inviteToken : String) (input : CodeInput)

/-- A call, with the turns that it gets. -/
structure StoreEvent where
  call : StoreCall
  turns : Nat → PlatformInput

/-- One call of the service, with the value that it returns. -/
def performStore (ctx : StoreContext) (event : StoreEvent) : StoreOperation PlatformValue :=
  match event.call with
  | .updateExam examId input session =>
      .exam <$> updateExam ctx examId input session (event.turns 0)
  | .deleteExam examId session => .exam <$> deleteExam ctx examId session (event.turns 0)
  | .addCandidate examId input session =>
      .candidate <$> addCandidate ctx examId input session (event.turns 0)
  | .createProctorAction candidateId input session =>
      .proctorAction <$> createProctorAction ctx candidateId input session event.turns
  | .markCandidateReady inviteToken =>
      .ready <$> markCandidateReady ctx inviteToken (event.turns 0)
  | .getCandidateWorkspace inviteToken =>
      .workspace <$> getCandidateWorkspace ctx inviteToken event.turns
  | .saveCandidateCodeDraft inviteToken input =>
      .draft <$> saveCandidateCodeDraft ctx inviteToken input event.turns
  | .runCandidateCode inviteToken input =>
      .codeExecution <$> runCandidateCode ctx inviteToken input event.turns
  | .submitCandidateCode inviteToken input =>
      .submission <$> submitCandidateCode ctx inviteToken input event.turns

/-- The machine of calls one after the other. -/
def storeMachine (ctx : StoreContext) : Machine Store StoreEvent :=
  ⟨fun store event => some (performStore ctx event store).2⟩

end Dcvp.Services.PlatformStore
