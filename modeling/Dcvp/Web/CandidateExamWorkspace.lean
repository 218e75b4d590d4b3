import Dcvp.Services.PlatformStore.State

/-!
# `Dcvp.Web.CandidateExamWorkspace`: the clock and the lock of the candidate's screen

Two effects of `apps/web/src/CandidateExamWorkspace.tsx`. The first one locks the editor and
counts the remaining time down, the second one submits when the time is over. An effect is a
function on the state of the screen. It runs again when what it depends on changes.

`Date.now()` of the browser is an argument. The browser parses dates as the server does, so
`dateParse` is that of the context, and a `NaN` is `none`.
-/

set_option autoImplicit false

namespace Dcvp.Web

open Dcvp.Shared
open Dcvp.Services.PlatformStore

/-- The state of the screen that the two effects read and write. `timeRemainingSeconds` is
`none` for `null`. -/
structure CandidateExamScreen where
  timeRemainingSeconds : Option (Option Int) := none
  examLocked : Bool := false
  timeoutSubmitted : Bool := false
  executionOutput : String := ""
  selectedQuestionId : String := ""

/-- What the interval of the lock effect has at hand. -/
structure RemainingTimer where
  latestAction : Option ProctorAction
  serverOffsetMs : Option Int
  endsAt : Option Int

/-- `latestAction?.type === "PAUSE_EXAM" || latestAction?.type === "TERMINATE_EXAM"`. -/
def locksExam (latestAction : Option ProctorAction) : Bool :=
  decide (latestAction.map (·.type) = some .pauseExam ∨
    latestAction.map (·.type) = some .terminateExam)

namespace RemainingTimer

variable (timer : RemainingTimer) (dateNow : Int)

/-- The browser's estimate of the server's clock. -/
def serverNow : Option Int := timer.serverOffsetMs.map (dateNow + ·)

/-- `Math.max(0, Math.floor((endsAt - serverNow) / 1000))`: whole seconds, never negative. -/
def remainingSeconds : Option Int := do
  let endsAt ← timer.endsAt
  let serverNow ← timer.serverNow dateNow
  some (max 0 ((endsAt - serverNow) / 1000))

/-- `updateRemaining`: the seconds that are left, and whether the exam is locked. -/
def updateRemaining (screen : CandidateExamScreen) : CandidateExamScreen :=
  let remainingSeconds := timer.remainingSeconds dateNow
  { screen with
    timeRemainingSeconds := some remainingSeconds
    examLocked := locksExam timer.latestAction || decide (remainingSeconds = some 0) }

end RemainingTimer

/-- The effect that locks the editor, when it runs on a workspace. It answers the timer of the
interval that it starts, if it starts one. -/
def lockEffect (ctx : PlatformContext) (data : CandidateWorkspace) (dateNow : Int)
    (screen : CandidateExamScreen) : CandidateExamScreen × Option RemainingTimer :=
  let latestAction := data.proctorActions.head?
  if locksExam latestAction then ({ screen with examLocked := true }, none)
  else
    -- A resumption unlocks. `updateRemaining` locks again when the time is over.
    let unlocked :=
      if latestAction.map (·.type) = some .resumeExam then { screen with examLocked := false }
      else screen
    let timer : RemainingTimer :=
      { latestAction
        serverOffsetMs := (ctx.dateParse data.examSession.serverNow).map (· - dateNow)
        endsAt := ctx.dateParse data.examSession.endsAt }
    (timer.updateRemaining dateNow unlocked, some timer)

/-- The screen after the effect, and after its interval has run at `dateNow`. -/
def screenAt (ctx : PlatformContext) (data : CandidateWorkspace) (fetchedAt dateNow : Int)
    (screen : CandidateExamScreen) : CandidateExamScreen :=
  match lockEffect ctx data fetchedAt screen with
  | (screen, some timer) => timer.updateRemaining dateNow screen
  | (screen, none) => screen

/-- The effect that submits when the time is over. It answers whether it calls
`submitMutation.mutate()`. -/
def autoSubmitEffect (isPending : Bool) (screen : CandidateExamScreen) :
    CandidateExamScreen × Bool :=
  if screen.timeRemainingSeconds ≠ some (some 0) ∨ screen.timeoutSubmitted = true ∨
      screen.selectedQuestionId = "" ∨ isPending = true then (screen, false)
  else
    ({ screen with
      timeoutSubmitted := true
      executionOutput := "제한 시간이 종료되어 현재 답안을 자동 제출합니다." }, true)

end Dcvp.Web
