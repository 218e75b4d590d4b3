import Dcvp.Services.PlatformStore.State

/-!
# `Dcvp.Services.PlatformStore.Execution`: running and submitting code

The functions of `platform-store.execution.ts`, `platform-store.execution-access.ts` and
`platform-store.execution-scoring.ts` on the memory path. Scores are computed exactly.
-/

set_option autoImplicit false

namespace Dcvp.Services.PlatformStore

open Dcvp.Shared

/-! ### Access -/

/-- The exception for a question that the exam of the invite does not have. -/
def questionNotFound : ServiceException := .http .notFound "Question not found"

/-- `assertQuestionBelongsToInvite`: the invite shows a question with this identifier. -/
def assertQuestionBelongsToInvite (invite : CandidateInvite) (questionId : String) :
    Except ServiceException Unit :=
  if invite.questions.any (·.id = questionId) then .ok () else .error questionNotFound

/-- `getQuestionTestCasesInStore`: the test cases of a question, or the public ones only. -/
def getQuestionTestCasesInStore (memoryState : ExecutionAccessMemoryState) (questionId : String)
    (publicOnly : Bool) : List TestCase :=
  memoryState.testCases.filter fun testCase =>
    decide (testCase.questionId = questionId) && (!publicOnly || testCase.isPublic)

/-- `getQuestionForEvaluationInStore`: the question of the invite's exam, with its answer. -/
def getQuestionForEvaluationInStore (memoryState : ExecutionAccessMemoryState)
    (invite : CandidateInvite) (questionId : String) : Except ServiceException Question :=
  match memoryState.questions.find? fun item =>
    item.id = questionId ∧ item.examId = invite.exam.id with
  | some question => .ok question
  | none => .error questionNotFound

/-- `normalizeRunnerLanguage`: two languages with two names each, and the empty text for others. -/
def normalizeRunnerLanguage (text : Js.CaseMapping) (language : String) : String :=
  let value := text.toLowerCase (Js.trim language)
  if value = "javascript" ∨ value = "js" then "javascript"
  else if value = "python" ∨ value = "py" then "python"
  else ""

/-- The languages that the runner takes, as `normalizeRunnerLanguage` writes them. -/
def supportedRunnerLanguages : List String := ["javascript", "python"]

/-- `assertLanguageCanRun`: the runner supports the language, and the exam allows it. -/
def assertLanguageCanRun (text : Js.CaseMapping) (invite : CandidateInvite) (language : String) :
    Except ServiceException Unit :=
  let normalizedLanguage := normalizeRunnerLanguage text language
  let allowedLanguages :=
    (invite.exam.languages.map (normalizeRunnerLanguage text)).filter (· ≠ "")
  if normalizedLanguage = "" ∨ normalizedLanguage ∉ supportedRunnerLanguages then
    .error (.http .badRequest
      ("Language '" ++ language ++ "' is not supported by the Docker runner yet"))
  else if normalizedLanguage ∉ allowedLanguages then
    .error (.http .badRequest ("Language '" ++ language ++ "' is not enabled for this exam"))
  else .ok ()

/-! ### Scoring -/

/-- `normalizeAnswer`: trimmed, each run of white space as one blank, and in lower case. -/
def normalizeAnswer (text : Js.CaseMapping) (answer : String) : String :=
  text.toLowerCase (Js.collapseWhiteSpace (Js.trim answer))

/-- `evaluateTextAnswer`: an objective answer passes where it equals the expected one, once both
are normalized. -/
def evaluateTextAnswer (text : Js.CaseMapping) (question : Question) (answer : String) :
    CodeRunnerResult :=
  let normalizedAnswer := normalizeAnswer text answer
  let normalizedExpected := normalizeAnswer text (question.expectedAnswer.getD "")
  let isObjective := decide (question.type = .multipleChoice ∨ question.type = .shortAnswer)
  let passed :=
    isObjective && decide (normalizedExpected ≠ "") &&
      decide (normalizedAnswer = normalizedExpected)
  { status := .success
    output := if passed then "정답 기준과 일치합니다." else "주관식 답안이 저장되었습니다."
    error := none
    executionTimeMs := 0
    memoryUsageMb := 0
    -- An essay passes its only test whatever it says.
    passedTests := if passed then 1 else if question.type = .essay then 1 else 0
    totalTests := 1
    testResults :=
      [{ testIndex := 1
         input := answer
         expectedOutput := question.expectedAnswer.getD "감독관/AI 검토"
         actualOutput := answer
         passed := decide (question.type = .essay) || passed
         error := none
         executionTimeMs := 0
         isPublic := false }] }

/-- `calculateSubmissionScore`: the rounded share of the passed tests, or all for a run without
tests. -/
def calculateSubmissionScore (result : CodeRunnerResult) : Int :=
  if 0 < result.totalTests then
    -- `Math.round` takes halves up.
    ((result.passedTests : Rat) / result.totalTests * 100 + 1 / 2).floor
  else if result.status = .success then 100
  else 0

/-! ### Drafts, runs and submissions -/

/-- `saveCandidateCodeDraftInStore`: one draft for each question and language of a candidate. -/
def saveCandidateCodeDraftInStore (memoryDrafts : List CodeDraft) (invite : CandidateInvite)
    (input : CodeInput) (turn : PlatformInput) : CodeDraft × List CodeDraft :=
  let existing := memoryDrafts.find? fun draft =>
    draft.candidateId = invite.candidate.id ∧ draft.questionId = input.questionId ∧
      draft.language = input.language
  let draft : CodeDraft :=
    { id := (existing.map (·.id)).getD (turn.createId "draft" 0)
      candidateId := invite.candidate.id
      examId := invite.exam.id
      questionId := input.questionId
      language := input.language
      code := input.code
      savedAt := turn.nowIso
      createdAt := (existing.map (·.createdAt)).getD turn.nowIso }
  -- A draft that is there is replaced, and moves to the front.
  (draft, draft :: memoryDrafts.filter (·.id ≠ draft.id))

/-- The stored form of a test result, the `n`-th of its list. -/
def toJudgeTestResult (codeExecutionId submissionId : Option String) (turn : PlatformInput)
    (n : Nat) (result : CodeRunnerTestResult) : JudgeTestResult where
  id := turn.createId "result" (n + 1)
  codeExecutionId
  submissionId
  testIndex := result.testIndex
  input := result.input
  expectedOutput := result.expectedOutput
  actualOutput := result.actualOutput
  passed := result.passed
  error := result.error
  executionTimeMs := result.executionTimeMs
  isPublic := result.isPublic
  createdAt := turn.nowIso

/-- The `execution` of `runCandidateCodeInStore`, with the results under its identifier. -/
def newCodeExecution (invite : CandidateInvite) (input : CodeInput) (result : CodeRunnerResult)
    (turn : PlatformInput) : CodeExecution :=
  let executionId := turn.createId "exec" 0
  { id := executionId
    candidateId := invite.candidate.id
    questionId := input.questionId
    language := input.language
    code := input.code
    status := result.status
    output := result.output
    error := result.error
    executionTimeMs := result.executionTimeMs
    memoryUsageMb := result.memoryUsageMb
    passedTests := result.passedTests
    totalTests := result.totalTests
    testResults := result.testResults.mapIdx (toJudgeTestResult (some executionId) none turn)
    createdAt := turn.nowIso }

/-- `runCandidateCodeInStore`, once `judge` has answered: the execution, and the list with it. -/
def runCandidateCodeInStore (memoryExecutions : List CodeExecution) (invite : CandidateInvite)
    (input : CodeInput) (turn : PlatformInput) :
    Except ServiceException (CodeExecution × List CodeExecution) := do
  let result ← turn.judged
  let execution := newCodeExecution invite input result turn
  .ok (execution, execution :: memoryExecutions)

/-- The `submission` of `submitCandidateCodeInStore`, with the results under its identifier. -/
def newSubmission (invite : CandidateInvite) (input : CodeInput) (runResult : CodeRunnerResult)
    (turn : PlatformInput) : Submission :=
  let submissionId := turn.createId "submission" 0
  { id := submissionId
    examId := invite.exam.id
    candidateId := invite.candidate.id
    questionId := input.questionId
    language := input.language
    code := input.code
    score := calculateSubmissionScore runResult
    passedTests := runResult.passedTests
    totalTests := runResult.totalTests
    testResults := runResult.testResults.mapIdx (toJudgeTestResult none (some submissionId) turn)
    submittedAt := turn.nowIso }

/-- The arrays that `submitCandidateCode` hands over as arguments, and that it returns with its own
row added. -/
structure SubmitMemoryState where
  submissions : List Submission
  candidates : List Candidate

/-- The outcome of the evaluation of a submission: of `judge`, or of `evaluateTextAnswer`. -/
def submissionRunResult (ctx : PlatformContext) (question : Question) (input : CodeInput)
    (turn : PlatformInput) : Except ServiceException CodeRunnerResult :=
  if question.type = .coding then turn.judged
  else .ok (evaluateTextAnswer ctx.host.text question input.code)

/-- `submitCandidateCodeInStore`, once `judge` has answered: the submission, and the candidate in
progress. -/
def submitCandidateCodeInStore (ctx : PlatformContext) (memoryState : SubmitMemoryState)
    (invite : CandidateInvite) (question : Question) (input : CodeInput) (turn : PlatformInput) :
    Except ServiceException (Submission × List Submission × List Candidate) := do
  let runResult ← submissionRunResult ctx question input turn
  let submission := newSubmission invite input runResult turn
  let candidates :=
    mapWhere (·.id = invite.candidate.id) (setStatus .inProgress) memoryState.candidates
  .ok (submission, submission :: memoryState.submissions, candidates)

end Dcvp.Services.PlatformStore
