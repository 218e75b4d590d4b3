import Dcvp.Services.PlatformStore.Execution

/-!
# `Dcvp.Services.CodeRunnerJudge`: one run of the judge

`judgeAdmitted` and `failed` of `services/code-runner.service.ts`: the operation that the
admission of `Dcvp.Services.CodeRunner` starts. The clock and the two ways to run a solution in a
container are not part of the model. `Sandbox` has what they answer.
-/

set_option autoImplicit false

namespace Dcvp.Services

open Dcvp.Shared
open Dcvp.Services.PlatformStore

/-- `MAX_CODE_LENGTH`: how long a solution may be, in code units. -/
def maxCodeLength : Nat := 100000

/-- `MAX_TEST_CASES`: how many test cases one judgement may have. -/
def maxTestCases : Nat := 50

/-- `MAX_JUDGE_DURATION_MS`: the time for all test cases together. -/
def maxJudgeDurationMs : Int := 30000

/-- `RunSingleResult`: the outcome of one test. -/
structure RunSingleResult where
  passed : Bool
  actualOutput : String
  error : Option String := none
  executionTimeMs : Int
  deriving DecidableEq

/-- The two runners that the judge has; every other language is refused. -/
inductive Runner where
  | javaScript
  | python
  deriving DecidableEq

/-- What the judge gets from outside. `now n` is the `n`-th answer of `Date.now()`. `run` is the
run of a test case, with its index: `runJavaScript` or `runPython`, with the code, the input, the
expected output and the remaining time. A run that cannot be set up throws. -/
structure Sandbox where
  now : Nat → Int
  run : Nat → Runner → String → String → String → Int → Except ServiceException RunSingleResult

/-- A test result of `failed`: the test with the error that refused the whole request. -/
def failedTestResult (error : String) (index : Nat) (testCase : TestCase) :
    CodeRunnerTestResult where
  testIndex := index + 1
  input := testCase.input
  expectedOutput := testCase.expectedOutput
  actualOutput := ""
  passed := false
  error := some error
  executionTimeMs := 0
  isPublic := testCase.isPublic

/-- `failed`: an answer without a run, in which every listed test has failed. -/
def failed (error : String) (testCases : List TestCase) : CodeRunnerResult where
  status := .failed
  output := ""
  error := some error
  executionTimeMs := 0
  memoryUsageMb := 0
  passedTests := 0
  totalTests := testCases.length
  testResults := testCases.mapIdx (failedTestResult error)

/-- The result of a test case that is reached after the deadline. -/
def skippedResult : RunSingleResult where
  passed := false
  actualOutput := ""
  error := some "Overall judge time limit exceeded."
  executionTimeMs := 0

/-- The loop over the test cases, from the one with this index on. -/
def runTestCases (sandbox : Sandbox) (runner : Runner) (code : String) (deadlineAt : Int) :
    Nat → List TestCase → Except ServiceException (List RunSingleResult)
  | _, [] => .ok []
  | index, testCase :: rest =>
      let remainingMs := deadlineAt - sandbox.now (index + 1)
      -- The deadline has passed: the remaining test cases fail without a run.
      if remainingMs ≤ 0 then .ok ((testCase :: rest).map fun _ => skippedResult)
      else do
        let result ←
          sandbox.run index runner code testCase.input testCase.expectedOutput remainingMs
        let results ← runTestCases sandbox runner code deadlineAt (index + 1) rest
        .ok (result :: results)

/-- The test result of a run. The test case is looked up by its index. -/
def runTestResult (testCases : List TestCase) (index : Nat) (result : RunSingleResult) :
    Except ServiceException CodeRunnerTestResult :=
  match testCases[index]? with
  | none => .error (.other "Cannot read properties of undefined")
  | some testCase =>
      .ok
        { testIndex := index + 1
          input := testCase.input
          expectedOutput := testCase.expectedOutput
          actualOutput := result.actualOutput
          passed := result.passed
          error := result.error
          executionTimeMs := result.executionTimeMs
          isPublic := testCase.isPublic }

/-- A line of `outputLines`: the number of the test, its outcome and its time. -/
def outputLine (index : Nat) (result : RunSingleResult) : String :=
  toString (index + 1) ++ ". " ++ (if result.passed then "PASS" else "FAIL") ++ " (" ++
    toString result.executionTimeMs ++ "ms)"

/-- The rest of `judgeAdmitted`, once the runner is chosen. -/
def judgeTestCases (sandbox : Sandbox) (runner : Runner) (code : String)
    (testCases : List TestCase) : Except ServiceException CodeRunnerResult := do
  let startedAt := sandbox.now 0
  let deadlineAt := startedAt + maxJudgeDurationMs
  let results ← runTestCases sandbox runner code deadlineAt 0 testCases
  let passedTests := (results.filter (·.passed)).length
  let totalTests := testCases.length
  let failedResult := results.find? (!·.passed)
  let testResults ← (results.mapIdx (runTestResult testCases)).mapM id
  let outputLines := results.mapIdx outputLine
  .ok
    { status := if failedResult.isSome then .failed else .success
      output :=
        if 0 < totalTests then
          "Docker 채점 완료. " ++ toString passedTests ++ "/" ++ toString totalTests ++
            " 테스트 통과.\n" ++ "\n".intercalate outputLines
        else "설정된 테스트케이스가 없습니다."
      error := failedResult.bind (·.error)
      executionTimeMs := (sandbox.now (testCases.length + 1) - startedAt : Int)
      memoryUsageMb := 0
      passedTests
      totalTests
      testResults }

/-- The names of languages that `judgeAdmitted` knows, after they are in lower case. -/
def judgeLanguages : List String := ["javascript", "js", "python", "py"]

/-- The runner of a name that `judgeAdmitted` knows. -/
def judgeRunner (normalizedLanguage : String) : Runner :=
  if normalizedLanguage = "javascript" ∨ normalizedLanguage = "js" then .javaScript else .python

/-- The error of a language that the judge does not know. -/
def unsupportedLanguage (language : String) : String :=
  "Language '" ++ language ++ "' is not supported by the Docker runner yet."

/-- The request passes the three early exits of `judgeAdmitted`: its code is not blank and within
the limit, its test cases are within the limit, and its language is known. -/
def Admissible (text : Js.CaseMapping) (language code : String) (testCases : List TestCase) :
    Prop :=
  Js.trim code ≠ "" ∧ Js.length code ≤ maxCodeLength ∧ testCases.length ≤ maxTestCases ∧
    text.toLowerCase language ∈ judgeLanguages

instance (text : Js.CaseMapping) (language code : String) (testCases : List TestCase) :
    Decidable (Admissible text language code testCases) := by
  unfold Admissible
  infer_instance

/-- `judgeAdmitted`: three reasons to refuse a request before anything is run, and then the runs. A
request that is too large is answered for the first tests only. -/
def judgeAdmitted (text : Js.CaseMapping) (sandbox : Sandbox) (language code : String)
    (testCases : List TestCase) : Except ServiceException CodeRunnerResult :=
  let normalizedLanguage := text.toLowerCase language
  if Js.trim code = "" then .ok (failed "Code is empty." testCases)
  else if maxCodeLength < Js.length code ∨ maxTestCases < testCases.length then
    .ok (failed "Code or test case count exceeds the runner limit." (testCases.take maxTestCases))
  else if normalizedLanguage ∉ judgeLanguages then
    .ok (failed (unsupportedLanguage language) testCases)
  else judgeTestCases sandbox (judgeRunner normalizedLanguage) code testCases

end Dcvp.Services
