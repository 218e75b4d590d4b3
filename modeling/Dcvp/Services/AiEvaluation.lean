import Dcvp.Json
import Dcvp.Services.PlatformStore.CandidateAdmin

/-!
# `Dcvp.Services.AiEvaluation`: the report on a candidate

The class `AiEvaluationService` of `services/ai-evaluation.service.ts`. `ruleBasedReport` is the
branch of `generateReport` without an external service, and `parseExternalReport` reads what the
external service has answered. Numbers are computed exactly.

The text of a number is a parameter, `numberText`: the digits of ECMAScript are not modelled.
-/

set_option autoImplicit false

namespace Dcvp.Services

open Dcvp.Shared
open Dcvp.Services.PlatformStore

/-- The `signals` of `GenerateReportInput`: the six counts that raise or lower the scores, and the
elapsed time. They are the controller's own numbers, so nothing bounds them here. -/
structure ReportSignals where
  submissions : Rat
  passedTests : Rat
  failedTests : Rat
  codeRuns : Rat
  pasteEvents : Rat
  riskScore : Rat
  elapsedMinutes : Rat
  deriving DecidableEq

/-! ### The scores -/

namespace ReportSignals

variable (signals : ReportSignals)

/-- `passRate`: the share of passed tests in percent, and 70 where there is no test. -/
def passRate : Rat :=
  -- Without any test the rate is a fixed one.
  if signals.passedTests + signals.failedTests = 0 then 70
  else Js.round (signals.passedTests / (signals.passedTests + signals.failedTests) * 100)

/-- `integrityScore`: the risk score taken from 100, not below 0. -/
def integrityScore : Rat := max 0 (100 - signals.riskScore)

/-- `codeQualityScore`: 4 points off for each paste, not below 55. -/
def codeQualityScore : Rat := max 55 (88 - signals.pasteEvents * 4)

/-- `timeManagementScore`: a point off for each minute over 60, not below 45. -/
def timeManagementScore : Rat := max 45 (92 - max 0 (signals.elapsedMinutes - 60))

/-- `debuggingScore`: 3 points for each run and 2 off for each failed test. It is cut at 95 and has
no lower bound. -/
def debuggingScore : Rat := min 95 (65 + signals.codeRuns * 3 - signals.failedTests * 2)

/-- `implementationScore`: the mean of pass rate and code quality, rounded. -/
def implementationScore : Rat := Js.round ((signals.passRate + signals.codeQualityScore) / 2)

/-- `problemSolvingScore`: the mean of pass rate and time management, rounded. -/
def problemSolvingScore : Rat := Js.round ((signals.passRate + signals.timeManagementScore) / 2)

/-- `overallScore`: the mean of the six scores, rounded. -/
def overallScore : Rat :=
  Js.round ((signals.problemSolvingScore + signals.implementationScore + signals.debuggingScore +
    signals.codeQualityScore + signals.timeManagementScore + signals.integrityScore) / 6)

end ReportSignals

/-! ### The texts -/

/-- `strengths`: three texts, by the pass rate, the number of runs and the integrity score. -/
def reportStrengths (signals : ReportSignals) : List String :=
  [if 70 ≤ signals.passRate then "공개·비공개 테스트 통과율이 안정적입니다."
    else "필수 코딩 절차를 끝까지 수행했습니다.",
    if 2 ≤ signals.codeRuns then "반복 실행으로 해결 방법을 검증했습니다."
    else "간결한 실행 흐름을 유지했습니다.",
    if 85 ≤ signals.integrityScore then "감독 신호상 부정행위 위험이 낮습니다."
    else "수집된 감독 신호로 신뢰도 검토가 가능합니다."]

/-- `improvementAreas`: three texts, by the failed tests, the pastes and the risk score. -/
def reportImprovementAreas (numberText : Rat → String) (signals : ReportSignals) : List String :=
  [if 0 < signals.failedTests then
      "실패한 테스트 " ++ numberText signals.failedTests ++ "개를 검토해야 합니다."
    else "최종 제출 전에 경계값 검토를 보강할 수 있습니다.",
    if 0 < signals.pasteEvents then "붙여넣기 이벤트를 제출 코드 맥락과 함께 검토해야 합니다."
    else "간단한 코드 설명으로 사고 과정을 확인할 수 있습니다.",
    if 20 ≤ signals.riskScore then "위험 점수가 높아 관리자의 확인이 필요합니다."
    else "면접에서 시간 관리와 디버깅 과정을 확인할 수 있습니다."]

/-- `recommendations`: three texts, by the overall score, the failed tests and the risk score. -/
def reportRecommendations (signals : ReportSignals) : List String :=
  [if 80 ≤ signals.overallScore then "시스템 설계와 선택 근거 중심의 기술 면접을 진행하세요."
    else "다음 단계 전에 추가 검토를 진행하세요.",
    if 0 < signals.failedTests then "응시자와 실패 테스트를 함께 검토하세요."
    else "통과한 해결 방법을 코드 품질 논의의 근거로 활용하세요.",
    if 20 ≤ signals.riskScore then "채용 결정 전에 감독 이벤트를 확인하세요."
    else "즉시 신뢰도 위험을 상향할 필요는 없습니다."]

/-- `aiSummary`: one sentence with the counts in it. -/
def reportSummary (numberText : Rat → String) (signals : ReportSignals) : String :=
  "제출 " ++ numberText signals.submissions ++ "회, 실행 " ++ numberText signals.codeRuns ++
    "회, 실패 테스트 " ++ numberText signals.failedTests ++ "개, 위험 점수 " ++
    numberText signals.riskScore ++ "점을 종합해 산출한 설명형 평가입니다. 외부 AI 평가 API가 " ++
    "연결되면 동일한 신호에 제출 코드와 감독 타임라인을 함께 전달합니다."

/-- `generateReport` without `AI_API_BASE_URL`: the report is computed from the signals alone. -/
def ruleBasedReport (numberText : Rat → String) (input : GenerateReportInput)
    (signals : ReportSignals) (turn : PlatformInput) : CompetencyReport where
  id := turn.createId "report" 0
  examSessionId := input.examSessionId
  candidateId := input.candidateId
  examId := input.examId
  problemSolvingScore := signals.problemSolvingScore
  implementationScore := signals.implementationScore
  debuggingScore := signals.debuggingScore
  codeQualityScore := signals.codeQualityScore
  timeManagementScore := signals.timeManagementScore
  integrityScore := signals.integrityScore
  overallScore := signals.overallScore
  aiSummary := reportSummary numberText signals
  strengths := reportStrengths signals
  improvementAreas := reportImprovementAreas numberText signals
  recommendations := reportRecommendations signals
  createdAt := turn.nowIso

/-! ### The external service -/

/-- The `ServiceUnavailableException` that stands for an `OutboundRequestSecurityError` of the
answer. -/
def invalidAiAnswer : ServiceException :=
  .http .serviceUnavailable "외부 AI 평가 서비스 응답이 올바르지 않습니다."

/-- `requiredScore`: a number from 0 to 100. It need not be whole. -/
def requiredReportScore (value : Option JsonValue) : Except ServiceException Rat :=
  match validScore value with
  | some score => .ok score
  | none => .error invalidAiAnswer

/-- `requiredText`: a text that is not blank and not longer than its bound. -/
def requiredReportText (value : Option JsonValue) (maxLength : Nat) :
    Except ServiceException String :=
  match value.bind JsonValue.string? with
  | some text =>
      if Js.trim text = "" ∨ maxLength < Js.length text then .error invalidAiAnswer else .ok text
  | none => .error invalidAiAnswer

/-- An item that `requiredTextList` accepts: a text of at most 500 units. -/
def reportListItem (item : JsonValue) : Except ServiceException String :=
  requiredReportText (some item) 500

/-- `requiredTextList`: at most 20 texts, all of which have to be accepted. -/
def requiredReportTextList (value : Option JsonValue) : Except ServiceException (List String) :=
  match value with
  | some (.array items) =>
      if 20 < items.length then .error invalidAiAnswer else items.mapM reportListItem
  | _ => .error invalidAiAnswer

/-- `parseExternalReport`, with the exception that `generateReport` makes of its errors. -/
def parseExternalReport (value : JsonValue) (input : GenerateReportInput) (turn : PlatformInput) :
    Except ServiceException CompetencyReport :=
  match value.members? with
  | none => .error invalidAiAnswer
  | some members => do
      let id ← requiredReportText (readUnknown members "id") 128
      let problemSolvingScore ← requiredReportScore (readUnknown members "problemSolvingScore")
      let implementationScore ← requiredReportScore (readUnknown members "implementationScore")
      let debuggingScore ← requiredReportScore (readUnknown members "debuggingScore")
      let codeQualityScore ← requiredReportScore (readUnknown members "codeQualityScore")
      let timeManagementScore ← requiredReportScore (readUnknown members "timeManagementScore")
      let integrityScore ← requiredReportScore (readUnknown members "integrityScore")
      let overallScore ← requiredReportScore (readUnknown members "overallScore")
      let aiSummary ← requiredReportText (readUnknown members "aiSummary") 5000
      let strengths ← requiredReportTextList (readUnknown members "strengths")
      let improvementAreas ← requiredReportTextList (readUnknown members "improvementAreas")
      let recommendations ← requiredReportTextList (readUnknown members "recommendations")
      .ok
        { id
          examSessionId := input.examSessionId
          candidateId := input.candidateId
          examId := input.examId
          problemSolvingScore
          implementationScore
          debuggingScore
          codeQualityScore
          timeManagementScore
          integrityScore
          overallScore
          aiSummary
          strengths
          improvementAreas
          recommendations
          createdAt := turn.nowIso }

end Dcvp.Services
