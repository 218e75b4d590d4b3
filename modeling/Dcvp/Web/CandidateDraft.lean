import Dcvp.Lib.Machine
import Dcvp.Web.CandidateExamWorkspace

/-!
# `Dcvp.Web.CandidateDraft`: the editor of the candidate's screen

The code in the editor of `apps/web/src/CandidateExamWorkspace.tsx`, with the effects that write
and read it: the lock effect, the effect that restores the draft of the server, and the effect
that saves a draft 600 ms after the last change.

A render shows a state (`WorkspaceRender`). After a render, each effect runs whose dependencies
have changed since the render before, in the order of the source. Its closure has the values of the
render, and what it sets is shown by the next render. `commit` runs the effects of a render, and
those of the render that follows: the only effect that runs there, `autosaveEffect`, sets nothing.

Each poll brings a new data object. `fetch` counts them, so that they can be told apart. The
question and the language stay as they are, and what is only displayed is left out.
-/

set_option autoImplicit false

namespace Dcvp.Web

open Dcvp.Lib
open Dcvp.Shared
open Dcvp.Services.PlatformStore

/-- `starterCode` of `candidateExamConfig.ts`, which an editor without draft shows. -/
def starterCode : String :=
  "function solution(input) \x7b\n  // Write your answer here.\n  return input;\n\x7d"

/-- The values of a render on which the effects depend. -/
structure WorkspaceRender where
  data : Option CandidateWorkspace := none
  fetch : Nat := 0
  language : String
  code : String := starterCode
  screen : CandidateExamScreen := {}

/-- `{ questionId: selectedQuestionId, language, code }`: what the screen saves. -/
def WorkspaceRender.input (rendered : WorkspaceRender) : CodeInput where
  questionId := rendered.screen.selectedQuestionId
  language := rendered.language
  code := rendered.code

/-- The component: what it renders next, its two timers, and the calls of
`saveCandidateCodeDraft` so far. -/
structure WorkspaceComponent where
  inviteToken : String
  render : WorkspaceRender
  remainingTimer : Option RemainingTimer := none
  saveTimer : Option CodeInput := none
  saves : List (String × CodeInput) := []

/-- `serverDraft?.code ?? starterCode`: the first draft of the question in the language. -/
def restoredCode (data : CandidateWorkspace) (questionId language : String) : String :=
  ((data.drafts.find? fun draft =>
    draft.questionId = questionId ∧ draft.language = language).map (·.code)).getD starterCode

namespace WorkspaceComponent

variable (ctx : PlatformContext) (dateNow : Int) (rendered : WorkspaceRender)
  (c : WorkspaceComponent)

/-! ### Effects -/

/-- The lock effect. The interval of its last run is cleared. -/
def lock : WorkspaceComponent :=
  match rendered.data with
  | none => { c with remainingTimer := none }
  | some data =>
      if c.inviteToken = "" then { c with remainingTimer := none }
      else
        let locked := lockEffect ctx data dateNow c.render.screen
        { c with
          render := { c.render with screen := locked.1 }
          remainingTimer := locked.2 }

/-- The effect that restores the draft of the server. -/
def restore : WorkspaceComponent :=
  match rendered.data with
  | none => c
  | some data =>
      if rendered.screen.selectedQuestionId = "" then c
      -- What was typed since is overwritten.
      else { c with render := { c.render with
        code := restoredCode data rendered.screen.selectedQuestionId rendered.language } }

/-- The effect that saves the draft. The timer of its last run is cleared. -/
def autosave : WorkspaceComponent :=
  if c.inviteToken = "" ∨ rendered.screen.selectedQuestionId = "" ∨
      rendered.screen.examLocked = true then { c with saveTimer := none }
  else { c with saveTimer := some rendered.input }

/-- `data` has changed: the two renders show different fetches. -/
def dataChanged (before after : WorkspaceRender) : Bool := decide (before.fetch ≠ after.fetch)

/-- `language` or `selectedQuestionId` has changed between two renders. -/
def questionChanged (before after : WorkspaceRender) : Bool :=
  decide (before.language ≠ after.language ∨
    before.screen.selectedQuestionId ≠ after.screen.selectedQuestionId)

/-- `code` or `examLocked` has changed between two renders. -/
def codeChanged (before after : WorkspaceRender) : Bool :=
  decide (before.code ≠ after.code ∨ before.screen.examLocked ≠ after.screen.examLocked)

/-- The effects after a render, in the order of the source. -/
def runEffects (before : WorkspaceRender) : WorkspaceComponent :=
  -- Each effect reads the values of this render, also when an earlier one has set others.
  let c := if dataChanged before rendered then c.lock ctx dateNow rendered else c
  let c :=
    if dataChanged before rendered || questionChanged before rendered then c.restore rendered
    else c
  if codeChanged before rendered || questionChanged before rendered then c.autosave rendered
  else c

/-- A render after a change of the state, and the render of what its effects have set. -/
def commit (before : WorkspaceRender) : WorkspaceComponent :=
  let c' := c.runEffects ctx dateNow c.render before
  c'.runEffects ctx dateNow c'.render c.render

end WorkspaceComponent

/-! ### Events -/

/-- What happens on the screen. Each event has the browser's clock. -/
inductive WorkspaceEvent where
  | edit (code : String) (dateNow : Int)
  | poll (data : CandidateWorkspace) (dateNow : Int)
  | tick (dateNow : Int)
  | saveDraft

namespace WorkspaceComponent

variable (ctx : PlatformContext) (c : WorkspaceComponent)

/-- An event: `onCodeChange` of an editor that is not read-only, a workspace from the server, the
interval of the lock effect, and the timer of the draft. -/
def step : WorkspaceEvent → Option WorkspaceComponent
  | .edit code dateNow =>
      if c.render.data.isSome = true ∧ c.render.screen.examLocked = false then
        some ({ c with render := { c.render with code } }.commit ctx dateNow c.render)
      else none
  | .poll data dateNow =>
      let render := { c.render with data := some data, fetch := c.render.fetch + 1 }
      some ({ c with render }.commit ctx dateNow c.render)
  | .tick dateNow => c.remainingTimer.map fun timer =>
      { c with render := { c.render with
        screen := timer.updateRemaining dateNow c.render.screen } }.commit ctx dateNow c.render
  | .saveDraft => c.saveTimer.map fun input =>
      { c with saveTimer := none, saves := c.saves ++ [(c.inviteToken, input)] }

end WorkspaceComponent

/-- The screen when the first workspace has arrived and a question is selected. -/
def openedWorkspace (ctx : PlatformContext) (inviteToken questionId language : String)
    (data : CandidateWorkspace) (dateNow : Int) : WorkspaceComponent :=
  let blank : WorkspaceRender := { language }
  { inviteToken,
    render := { blank with
      data := some data, fetch := 1, screen := { selectedQuestionId := questionId } } :
      WorkspaceComponent }.commit ctx dateNow blank

/-- The machine of the screen, which takes one event after the other. -/
def workspaceMachine (ctx : PlatformContext) : Machine WorkspaceComponent WorkspaceEvent :=
  ⟨fun c e => c.step ctx e⟩

end Dcvp.Web
