import Dcvp.Services.PlatformStore.State

/-!
# `Dcvp.Services.PlatformStore.CandidateWorkspace`: the workspace and its gates

The functions of `platform-store.candidate-workspace.ts` and `platform-store.candidate-results.ts`
on the memory path, and `assertCandidateCanUseWorkspace` of `platform-store.state.ts`.
-/

set_option autoImplicit false

namespace Dcvp.Services.PlatformStore

open Dcvp.Shared

/-! ### What a candidate sees of a result -/

/-- The text in place of a hidden test's output. -/
def hiddenTestMessage : String := "숨김 테스트 결과는 공개되지 않습니다."

/-- The text in place of an error of the runner. -/
def runnerErrorMessage : String := "실행 중 오류가 발생했습니다. 코드와 출력 형식을 확인해주세요."

/-- `error ? runnerErrorMessage : undefined`: that there was an error, and not which one. -/
def shownError (error : Option String) : Option String :=
  (Js.truthy error).map fun _ => runnerErrorMessage

/-- `toCandidateJudgeTestResult`: the texts of a hidden test are not shown. -/
def toCandidateJudgeTestResult (result : JudgeTestResult) : JudgeTestResult :=
  if result.isPublic then { result with error := shownError result.error }
  else
    -- Whether a hidden test has passed is shown, and what it was is not.
    { result with
      input := hiddenTestMessage
      expectedOutput := hiddenTestMessage
      actualOutput := ""
      error := none }

/-- `toCandidateCodeExecution`: an execution as its candidate may see it. -/
def toCandidateCodeExecution (execution : CodeExecution) : CodeExecution :=
  { execution with
    error := shownError execution.error
    testResults := execution.testResults.map toCandidateJudgeTestResult }

/-- `toCandidateSubmission`: a submission as its candidate may see it. -/
def toCandidateSubmission (submission : Submission) : Submission :=
  { submission with testResults := submission.testResults.map toCandidateJudgeTestResult }

/-- `toCandidateWorkspace`: the workspace as its candidate may see it. -/
def toCandidateWorkspace (workspace : CandidateWorkspace) : CandidateWorkspace :=
  { workspace with
    executions := workspace.executions.map toCandidateCodeExecution
    submissions := workspace.submissions.map toCandidateSubmission }

/-! ### The exam session -/

/-- `sort((left, right) => right[key].localeCompare(left[key]))`, a stable sort. -/
def sortByNewest {α : Type} (ctx : PlatformContext) (key : α → String) (items : List α) :
    List α := items.mergeSort fun left right => (ctx.localeCompare (key right) (key left)).isLE

/-- `Math.max(0, Math.floor((endsAt - serverNow) / 1000))`, `none` for `NaN`. -/
def remainingSeconds (endsAt : Option Int) (now : Int) : Option Rat :=
  endsAt.map fun endsAt => ((max 0 ((endsAt - now) / 1000) : Int) : Rat)

/-- `withRemainingSeconds` of `platform-store.execution-mappers.ts`: the session at this clock
reading. -/
def withRemainingSeconds (ctx : PlatformContext) (session : ExamSession) (turn : PlatformInput) :
    ExamSession :=
  { session with
    serverNow := turn.nowIso
    remainingSeconds := remainingSeconds (ctx.dateParse session.endsAt) turn.now }

/-- The end of a session that starts now. An invalid date has no text. -/
def sessionEnd (exam : Exam) (turn : PlatformInput) : Except ServiceException String :=
  match Js.timeClip (turn.now + exam.durationMinutes * 60 * 1000) with
  | some endsAt => .ok (Js.toISOString endsAt)
  | none => .error (.other "Invalid time value")

/-- `ensureMemoryExamSession`: the session of the candidate, which the first call creates. -/
def ensureMemoryExamSession (ctx : PlatformContext) (memorySessions : List ExamSession)
    (invite : CandidateInvite) (turn : PlatformInput) :
    Except ServiceException (ExamSession × List ExamSession) :=
  let existing := memorySessions.find? fun session =>
    session.candidateId = invite.candidate.id ∧ session.examId = invite.exam.id
  match existing with
  | some existing => .ok (withRemainingSeconds ctx existing turn, memorySessions)
  | none => do
      -- The duration alone makes the end. That of the exam does not limit it.
      let endsAt ← sessionEnd invite.exam turn
      let session : ExamSession :=
        { id := turn.createId "session" 0
          candidateId := invite.candidate.id
          examId := invite.exam.id
          startedAt := turn.nowIso
          endsAt
          serverNow := turn.nowIso
          remainingSeconds := some (invite.exam.durationMinutes * 60) }
      .ok (session, session :: memorySessions)

/-- Whether an action pauses, resumes or ends the exam. -/
def isBlocking : ProctorActionType → Bool
  | .pauseExam | .resumeExam | .terminateExam => true
  | .warningMessage | .memo => false

/-- `latestMemoryBlockingAction`: the newest action of the candidate that pauses, resumes or ends
the exam. -/
def latestMemoryBlockingAction (ctx : PlatformContext) (invite : CandidateInvite)
    (actions : List ProctorAction) : Option ProctorAction :=
  (sortByNewest ctx (·.createdAt) (actions.filter fun action =>
    decide (action.candidateId = invite.candidate.id) && isBlocking action.type)).head?

/-- `assertProctorActionAllowsExam`: an exam that is terminated or paused is refused. -/
def assertProctorActionAllowsExam (action : Option ProctorAction) :
    Except ServiceException Unit :=
  match action.map ProctorAction.type with
  | some .terminateExam => .error (.http .forbidden "Exam was terminated by a proctor")
  | some .pauseExam => .error (.http .forbidden "Exam is paused by a proctor")
  | _ => .ok ()

/-- `assertExamSessionOpenInStore`: the array that is stored when the session is open. -/
def assertExamSessionOpenInStore (ctx : PlatformContext) (memoryActions : List ProctorAction)
    (memorySessions : List ExamSession) (invite : CandidateInvite) (turn : PlatformInput) :
    Except ServiceException (List ExamSession) := do
  let (session, examSessions) ← ensureMemoryExamSession ctx memorySessions invite turn
  assertProctorActionAllowsExam (latestMemoryBlockingAction ctx invite memoryActions)
  match session.remainingSeconds with
  | some remaining =>
      if remaining ≤ 0 then .error (.http .forbidden "Exam time has expired")
      else .ok examSessions
  -- `NaN <= 0` is false, so a session without a valid end stays open.
  | none => .ok examSessions

/-! ### The workspace -/

/-- `getCandidateWorkspaceInStore`: the invite with the candidate's work, the newest first. -/
def getCandidateWorkspaceInStore (ctx : PlatformContext)
    (memoryState : CandidateWorkspaceMemoryState) (invite : CandidateInvite)
    (turn : PlatformInput) : Except ServiceException (CandidateWorkspace × List ExamSession) := do
  let (examSession, examSessions) ←
    ensureMemoryExamSession ctx memoryState.examSessions invite turn
  let id := invite.candidate.id
  .ok ({ invite with
    submissions := sortByNewest ctx (·.submittedAt)
      (memoryState.submissions.filter (·.candidateId = id))
    executions := (sortByNewest ctx (·.createdAt)
      (memoryState.codeExecutions.filter (·.candidateId = id))).take 20
    proctorEvents := memoryState.proctorEvents.filter (·.candidateId = id)
    proctorActions := memoryState.proctorActions.filter (·.candidateId = id)
    examSession
    drafts := memoryState.codeDrafts.filter (·.candidateId = id) }, examSessions)

/-- The test of `assertCandidateCanUseWorkspace` for the exam. -/
def examAvailable (ctx : PlatformContext) (exam : Exam) (now : Int) : Bool :=
  match ctx.dateParse exam.startAt, ctx.dateParse exam.endAt with
  | some startsAt, some endsAt =>
      decide (exam.status ≠ .ended) && decide (exam.status ≠ .deleted) &&
        decide (startsAt ≤ now) && decide (now < endsAt)
  | _, _ => false

/-- `assertCandidateCanUseWorkspace`: the gate of the workspace, one requirement after the other.
-/
def assertCandidateCanUseWorkspace (ctx : PlatformContext) (invite : CandidateInvite)
    (now : Int) : Except ServiceException Unit :=
  let mobileAuxConnected := invite.proctorDevices.any fun device =>
    decide (device.role = .mobileAux ∧ device.status = .connected)
  if ¬ examAvailable ctx invite.exam now then
    .error (.http .forbidden "Exam is not available at this time")
  else if invite.candidate.status = .invited then
    .error (.http .forbidden "Candidate entry confirmation is required")
  else if invite.environmentCheck.map (·.requiredPassed) ≠ some true then
    .error (.http .forbidden "Environment check is required")
  else if invite.exam.identityVerificationEnabled ∧
      invite.identityVerification.map (·.status) ≠ some .verified then
    .error (.http .forbidden "Identity verification is required")
  else if invite.exam.mobileCameraRequired ∧ ¬ mobileAuxConnected then
    .error (.http .forbidden "Mobile auxiliary camera connection is required")
  else .ok ()

end Dcvp.Services.PlatformStore
