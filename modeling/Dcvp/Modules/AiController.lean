import Dcvp.Lib.JobQueue
import Dcvp.Services.AiEvaluation
import Dcvp.Services.PlatformStore.IdentityEnvironment
import Dcvp.Services.PlatformStore.Reads

/-!
# `Dcvp.Modules.AiController`: the reports on all candidates of an exam

The class `AiController` of `modules/ai.controller.ts` in memory mode and without
`AI_API_BASE_URL`. `generateExamReports` makes one task for each candidate and awaits them
together with `Promise.all`.

In this mode no task waits for anything from outside. Each of its `await`s is behind a promise
that is settled already, so the rest of the task goes to the end of the job queue of the process.
A `ReportTask` is a task at one of its `await`s: in `generateExamReports`, in
`saveCompetencyReportInStore`, and in `saveCompetencyReport`.

`AuthService.me` has answered when the model starts.
-/

set_option autoImplicit false

namespace Dcvp.Modules.AiController

open Dcvp.Lib
open Dcvp.Services
open Dcvp.Services.PlatformStore
open Dcvp.Shared

/-! ### The input of a report -/

/-- The `signals` of a candidate, as `generateExamReports` computes them from the candidate's part
of the exam report. -/
def reportSignals (exam : Exam) (candidateReport : CandidateExamReport) : ReportSignals :=
  let passedTests : Rat :=
    candidateReport.submissions.foldl (fun sum submission => sum + submission.passedTests) 0
  let totalTests : Rat :=
    candidateReport.submissions.foldl (fun sum submission => sum + submission.totalTests) 0
  let pasteEvents := (candidateReport.proctorEvents.filter (·.type = .paste)).length
  -- The elapsed time is taken to be the duration of the exam.
  { submissions := candidateReport.submissionCount
    passedTests
    failedTests := max 0 (totalTests - passedTests)
    codeRuns := candidateReport.executionCount
    pasteEvents
    riskScore := candidateReport.riskScore
    elapsedMinutes := exam.durationMinutes }

/-- The `input` of a candidate, without its signals. -/
def reportInput (examId : String) (candidateReport : CandidateExamReport) :
    GenerateReportInput where
  examSessionId := examId ++ "_" ++ candidateReport.candidate.id
  candidateId := candidateReport.candidate.id
  examId

/-! ### Tasks -/

/-- A task of `generateExamReports` that is suspended. The constructors are its awaits in their
order, so the tasks of one request advance in lock step. -/
inductive ReportTask where
  /-- The task awaits `generateReport`. -/
  | generated (input : GenerateReportInput) (aiReport : CompetencyReport)
  /-- `saveCompetencyReportInStore` awaits `runDatabase`, which answers `null`. -/
  | unsaved (input : GenerateReportInput) (report : CompetencyReport)
      (memoryReports : List CompetencyReport)
  /-- `saveCompetencyReport` awaits `saveCompetencyReportInStore`. -/
  | saved (result : CompetencyReport × List CompetencyReport)
  deriving DecidableEq

/-- A task of the call, up to its first `await`. `numberText` is the text of a number. -/
def beginReportTask (numberText : Rat → String) (examId : String) (exam : Exam)
    (turn : PlatformInput) (candidateReport : CandidateExamReport) : ReportTask :=
  let input := reportInput examId candidateReport
  .generated input (ruleBasedReport numberText input (reportSignals exam candidateReport) turn)

/-- A task from one `await` to the next one. -/
def resumeReportTask : ReportTask → PlatformMemory →
    PlatformMemory × Outcome ReportTask CompetencyReport
  | .generated input aiReport, memory =>
      (memory, .suspended (.unsaved input aiReport memory.competencyReports))
  | .unsaved input report memoryReports, memory =>
      (memory, .suspended (.saved (saveCompetencyReportInStore memoryReports input report)))
  | .saved result, memory =>
      ({ memory with competencyReports := result.2 }, .finished result.1)

/-! ### The call -/

/-- `getExamReport` of the store on the memory. -/
def getExamReportOnMemory (ctx : PlatformContext) (memory : PlatformMemory) (examId : String)
    (session : AuthSession) (now : Int) (turn : PlatformInput) :
    PlatformMemory × Except ServiceException ExamReport :=
  match assertSessionCanManageExams session with
  | .error error => (memory, .error error)
  | .ok () =>
      let swept := memory.sweep ctx examId (staleBefore ctx now) turn
      (swept, examReportInMemory ctx swept examId session)

/-- What the call gets from outside: the clock when it starts, the answers of the sweep, and
those of the report on the `n`-th candidate. -/
structure GenerateTurns where
  now : Int
  sweep : PlatformInput
  report : Nat → PlatformInput

/-- `generateExamReports`, once `AuthService.me` has answered `me`. It is `none` when the fuel is
used up before the call returns. -/
def generateExamReports (ctx : PlatformContext) (numberText : Rat → String)
    (me : Except ServiceException AuthSession) (examId : String) (turns : GenerateTurns)
    (fuel : Nat) (memory : PlatformMemory) :
    Option (PlatformMemory × Except ServiceException (List CompetencyReport)) :=
  match me with
  | .error error => some (memory, .error error)
  | .ok session =>
      match getExamReportOnMemory ctx memory examId session turns.now turns.sweep with
      | (memory, .error error) => some (memory, .error error)
      | (memory, .ok report) =>
          let tasks := report.candidates.mapIdx fun n candidateReport =>
            beginReportTask numberText examId report.exam (turns.report n) candidateReport
          (JobQueue.runAll resumeReportTask fuel tasks memory).map fun r => (r.1, .ok r.2)

end Dcvp.Modules.AiController
