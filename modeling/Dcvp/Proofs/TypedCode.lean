import Dcvp.Proofs.ExamLock
import Dcvp.Web.CandidateDraft

/-!
# `Dcvp.Proofs.TypedCode`: what becomes of the code that a candidate types

`autosaveEffect` follows the code: while the editor is open, the timer holds the code of the editor,
or the last call has sent it (`Autosaved`). Every event keeps that.

The effect that restores the draft of the server runs on every poll. It does not ask whether the
draft is older than the code of the editor. So the code of the editor is the last edit exactly when
each poll brings this edit (`DraftsFollow`), and `typed_code_kept_iff` says that a poll is the only
way to lose text.
-/

set_option autoImplicit false

namespace Dcvp.Proofs

open Dcvp.Lib
open Dcvp.Shared
open Dcvp.Services.PlatformStore
open Dcvp.Web
open Dcvp.Web.WorkspaceComponent

/-! ### What the effects leave alone -/

/-- The lock effect locks or unlocks the screen, and leaves the question that is selected. -/
theorem selectedQuestionId_lockEffect (ctx : PlatformContext) (data : CandidateWorkspace)
    (dateNow : Int) (screen : CandidateExamScreen) :
    (lockEffect ctx data dateNow screen).1.selectedQuestionId = screen.selectedQuestionId := by
  by_cases hlocks : locksExam data.proctorActions.head? = true
  · simp [lockEffect, hlocks]
  · simp only [lockEffect, hlocks, Bool.false_eq_true, if_false]
    show (if _ then _ else _ : CandidateExamScreen).selectedQuestionId = _
    split <;> rfl

section
variable (ctx : PlatformContext) (dateNow : Int) (rendered before : WorkspaceRender)
  (c : WorkspaceComponent)

/-- What an effect keeps when it writes neither the drafts nor the question. -/
structure KeepsDraft (c c' : WorkspaceComponent) : Prop where
  inviteToken : c'.inviteToken = c.inviteToken
  saves : c'.saves = c.saves
  data : c'.render.data = c.render.data
  fetch : c'.render.fetch = c.render.fetch
  language : c'.render.language = c.render.language
  question : c'.render.screen.selectedQuestionId = c.render.screen.selectedQuestionId

variable {c} in
/-- Two steps, each of which leaves the data, the saves and the selected question, leave them
together. -/
theorem KeepsDraft.trans {c' c'' : WorkspaceComponent} (h : KeepsDraft c c')
    (h' : KeepsDraft c' c'') : KeepsDraft c c'' where
  inviteToken := h'.inviteToken.trans h.inviteToken
  saves := h'.saves.trans h.saves
  data := h'.data.trans h.data
  fetch := h'.fetch.trans h.fetch
  language := h'.language.trans h.language
  question := h'.question.trans h.question

/-- Nothing changes. -/
theorem KeepsDraft.refl : KeepsDraft c c := ⟨rfl, rfl, rfl, rfl, rfl, rfl⟩

/-- The lock effect keeps the code and the timer of the draft. -/
theorem lock_keeps : KeepsDraft c (c.lock ctx dateNow rendered) ∧
    (c.lock ctx dateNow rendered).render.code = c.render.code ∧
    (c.lock ctx dateNow rendered).saveTimer = c.saveTimer := by
  unfold lock
  split
  · exact ⟨⟨rfl, rfl, rfl, rfl, rfl, rfl⟩, rfl, rfl⟩
  · split
    · exact ⟨⟨rfl, rfl, rfl, rfl, rfl, rfl⟩, rfl, rfl⟩
    · exact ⟨⟨rfl, rfl, rfl, rfl, rfl, selectedQuestionId_lockEffect ctx _ dateNow _⟩, rfl, rfl⟩

/-- The restored draft is the code of the next render, and nothing else changes. -/
theorem restore_keeps : KeepsDraft c (c.restore rendered) ∧
    (c.restore rendered).saveTimer = c.saveTimer ∧
    (c.restore rendered).render.screen = c.render.screen := by
  unfold restore
  split
  · exact ⟨KeepsDraft.refl c, rfl, rfl⟩
  · split
    · exact ⟨KeepsDraft.refl c, rfl, rfl⟩
    · exact ⟨⟨rfl, rfl, rfl, rfl, rfl, rfl⟩, rfl, rfl⟩

/-- The timer of a draft that is rendered. -/
def draftTimer : Option CodeInput :=
  if rendered.screen.examLocked = true then none else some rendered.input

/-- The effect that saves the draft sets a timer, and nothing that is rendered. -/
theorem autosave_eq (htoken : c.inviteToken ≠ "")
    (hquestion : rendered.screen.selectedQuestionId ≠ "") :
    c.autosave rendered = { c with saveTimer := draftTimer rendered } := by
  unfold autosave draftTimer
  by_cases hlocked : rendered.screen.examLocked = true <;> simp [htoken, hquestion, hlocked]

/-! ### A render and its effects -/

/-- The effects before the one that saves the draft: they lock the screen and restore code, the
latter only when the data or the question has changed. The timer is set after them. -/
theorem runEffects_spec (htoken : c.inviteToken ≠ "")
    (hquestion : rendered.screen.selectedQuestionId ≠ "") :
    ∃ shown : WorkspaceComponent, KeepsDraft c shown ∧ shown.saveTimer = c.saveTimer ∧
      (dataChanged before rendered = false → questionChanged before rendered = false →
        shown = c) ∧
      (∀ data, (dataChanged before rendered || questionChanged before rendered) = true →
        rendered.data = some data → shown.render.code =
          restoredCode data rendered.screen.selectedQuestionId rendered.language) ∧
      c.runEffects ctx dateNow rendered before =
        if (codeChanged before rendered || questionChanged before rendered) = true then
          { shown with saveTimer := draftTimer rendered }
        else shown := by
  -- `locked` and `shown` are what the first two effects leave to the third one
  set locked := if dataChanged before rendered then c.lock ctx dateNow rendered else c with hlocked
  set shown := if dataChanged before rendered || questionChanged before rendered then
    locked.restore rendered else locked with hshown
  have hlock : KeepsDraft c locked ∧ locked.saveTimer = c.saveTimer := by
    rw [hlocked]
    split
    · exact ⟨(lock_keeps ctx dateNow rendered c).1, (lock_keeps ctx dateNow rendered c).2.2⟩
    · exact ⟨KeepsDraft.refl c, rfl⟩
  have hrestore : KeepsDraft locked shown ∧ shown.saveTimer = locked.saveTimer := by
    rw [hshown]
    split
    · exact ⟨(restore_keeps rendered locked).1, (restore_keeps rendered locked).2.1⟩
    · exact ⟨KeepsDraft.refl locked, rfl⟩
  have hkeeps : KeepsDraft c shown := hlock.1.trans hrestore.1
  refine ⟨shown, hkeeps, hrestore.2.trans hlock.2, fun hdata hsame => ?_, fun data hrun hdata => ?_,
    ?_⟩
  · rw [hshown, hlocked, hdata, hsame]
    rfl
  · rw [hshown, if_pos hrun]
    unfold restore
    rw [hdata]
    exact congrArg (fun c : WorkspaceComponent => c.render.code) (if_neg hquestion)
  · show (if codeChanged before rendered || questionChanged before rendered then
        shown.autosave rendered else shown) = _
    rw [autosave_eq rendered shown (hkeeps.inviteToken ▸ htoken) hquestion]

end

/-- The timer of a draft shows only in the code, the question, the language and the lock. -/
theorem draftTimer_congr {before after : WorkspaceRender}
    (hcode : codeChanged before after = false) (hsame : questionChanged before after = false) :
    draftTimer after = draftTimer before ∧ after.input = before.input := by
  obtain ⟨hcode, hlocked⟩ : before.code = after.code ∧
      before.screen.examLocked = after.screen.examLocked := by
    simpa [codeChanged, not_or] using hcode
  obtain ⟨hlanguage, hquestion⟩ : before.language = after.language ∧
      before.screen.selectedQuestionId = after.screen.selectedQuestionId := by
    simpa [questionChanged, not_or] using hsame
  have hinput : after.input = before.input := by
    simp [WorkspaceRender.input, hcode, hlanguage, hquestion]
  exact ⟨by simp [draftTimer, hinput, hlocked], hinput⟩

/-- A render and the render of what its effects have set. The timer of the draft follows the code,
or neither has changed. -/
theorem commit_spec (ctx : PlatformContext) (dateNow : Int) (c : WorkspaceComponent)
    (before : WorkspaceRender) (htoken : c.inviteToken ≠ "")
    (hquestion : c.render.screen.selectedQuestionId ≠ "") :
    KeepsDraft c (c.commit ctx dateNow before) ∧
      (dataChanged before c.render = false → questionChanged before c.render = false →
        (c.commit ctx dateNow before).render = c.render) ∧
      (∀ data, (dataChanged before c.render || questionChanged before c.render) = true →
        c.render.data = some data → (c.commit ctx dateNow before).render.code =
          restoredCode data c.render.screen.selectedQuestionId c.render.language) ∧
      ((c.commit ctx dateNow before).saveTimer =
          draftTimer (c.commit ctx dateNow before).render ∨
        ((c.commit ctx dateNow before).saveTimer = c.saveTimer ∧
          draftTimer (c.commit ctx dateNow before).render = draftTimer before ∧
          (c.commit ctx dateNow before).render.input = before.input)) := by
  obtain ⟨shown, hkeeps, htimer, hrest, hrestored, hrun⟩ :=
    runEffects_spec ctx dateNow c.render before c htoken hquestion
  set c' := c.runEffects ctx dateNow c.render before with hc'
  -- the first pass renders `shown`, whatever it does with the timer
  have hrender : c'.render = shown.render := by
    rw [hrun]
    split <;> rfl
  have hkeeps' : KeepsDraft c c' := by
    rw [hrun]
    split
    · exact ⟨hkeeps.inviteToken, hkeeps.saves, hkeeps.data, hkeeps.fetch, hkeeps.language,
        hkeeps.question⟩
    · exact hkeeps
  have hdata : dataChanged c.render c'.render = false := by
    simp [dataChanged, hkeeps'.fetch]
  have hsame : questionChanged c.render c'.render = false := by
    simp [questionChanged, hkeeps'.language, hkeeps'.question]
  obtain ⟨shown', -, -, hrest', -, hrun'⟩ :=
    runEffects_spec ctx dateNow c'.render c.render c' (hkeeps'.inviteToken ▸ htoken)
      (hkeeps'.question ▸ hquestion)
  -- the second pass only saves the draft
  have hcommit : c.commit ctx dateNow before =
      if codeChanged c.render c'.render = true then
        { c' with saveTimer := draftTimer c'.render }
      else c' := by
    show c'.runEffects ctx dateNow c'.render c.render = _
    rw [hrun', hrest' hdata hsame, hsame, Bool.or_false]
  have hshown : (c.commit ctx dateNow before).render = shown.render := by
    rw [hcommit]
    split <;> exact hrender
  refine ⟨?_, fun hdata hsame => ?_, fun data hany hdata => ?_, ?_⟩
  · rw [hcommit]
    split
    · exact ⟨hkeeps'.inviteToken, hkeeps'.saves, hkeeps'.data, hkeeps'.fetch, hkeeps'.language,
        hkeeps'.question⟩
    · exact hkeeps'
  · rw [hshown, hrest hdata hsame]
  · rw [hshown, hrestored data hany hdata]
  · by_cases hcode : codeChanged c.render c'.render = true
    · left
      rw [hcommit, if_pos hcode]
    · have hfinal : c.commit ctx dateNow before = c' := by rw [hcommit, if_neg hcode]
      obtain ⟨hlast, hinput⟩ := draftTimer_congr (Bool.eq_false_iff.mpr hcode) hsame
      rw [hfinal]
      by_cases hfirst : (codeChanged before c.render || questionChanged before c.render) = true
      · left
        rw [hlast, hrun, if_pos hfirst]
      · right
        rw [Bool.not_eq_true, Bool.or_eq_false_iff] at hfirst
        obtain ⟨hlast', hinput'⟩ := draftTimer_congr hfirst.1 hfirst.2
        refine ⟨?_, hlast.trans hlast', hinput.trans hinput'⟩
        rw [hrun, if_neg (by simp [hfirst.1, hfirst.2]), htimer]

/-! ### The timer of the draft follows the editor -/

/-- The drafts of the screen: the timer holds what is rendered, or the last call has sent it. A
locked editor has no timer. -/
structure Autosaved (inviteToken questionId language : String) (c : WorkspaceComponent) : Prop where
  token_eq : c.inviteToken = inviteToken
  question_eq : c.render.screen.selectedQuestionId = questionId
  language_eq : c.render.language = language
  saved : c.saveTimer = draftTimer c.render ∨
    (c.saveTimer = none ∧ c.saves.getLast? = some (inviteToken, c.render.input))

section
variable {ctx : PlatformContext} {inviteToken questionId language : String}

/-- A workspace that saves its drafts is one with a token. -/
theorem Autosaved.token_ne {c : WorkspaceComponent}
    (h : Autosaved inviteToken questionId language c) (htoken : inviteToken ≠ "") :
    c.inviteToken ≠ "" := by
  rw [h.token_eq]
  exact htoken

/-- It shows a question. -/
theorem Autosaved.question_ne {c : WorkspaceComponent}
    (h : Autosaved inviteToken questionId language c) (hquestion : questionId ≠ "") :
    c.render.screen.selectedQuestionId ≠ "" := by
  rw [h.question_eq]
  exact hquestion

variable (htoken : inviteToken ≠ "") (hquestion : questionId ≠ "")
include htoken hquestion

/-- A new render of the same question in the same language keeps the invariant of the draft. -/
theorem autosaved_commit {c : WorkspaceComponent} (h : Autosaved inviteToken questionId language c)
    (dateNow : Int) (rendered : WorkspaceRender) (hlanguage : rendered.language = language)
    (hsame : rendered.screen.selectedQuestionId = questionId) :
    Autosaved inviteToken questionId language
      ({ c with render := rendered }.commit ctx dateNow c.render) := by
  obtain ⟨hkeeps, -, -, htimer⟩ := commit_spec ctx dateNow { c with render := rendered } c.render
    (h.token_ne htoken)
    (by show rendered.screen.selectedQuestionId ≠ ""; rw [hsame]; exact hquestion)
  refine ⟨hkeeps.inviteToken.trans h.token_eq, hkeeps.question.trans hsame,
    hkeeps.language.trans hlanguage, ?_⟩
  rcases htimer with htimer | ⟨htimer, hdraft, hinput⟩
  · exact Or.inl htimer
  · rcases h.saved with hsaved | ⟨hnone, hsaved⟩
    · exact Or.inl (htimer.trans (hsaved.trans hdraft.symm))
    · exact Or.inr ⟨htimer.trans hnone, by rw [hkeeps.saves, hinput]; exact hsaved⟩

/-- The render of a new code is what its effects leave. -/
theorem edit_render {c c' : WorkspaceComponent} (h : Autosaved inviteToken questionId language c)
    {code : String} {dateNow : Int} (hstep : c.step ctx (.edit code dateNow) = some c') :
    c'.render.code = code ∧ Autosaved inviteToken questionId language c' := by
  simp only [step, Option.ite_none_right_eq_some, Option.some.injEq] at hstep
  obtain ⟨-, rfl⟩ := hstep
  obtain ⟨-, hrender, -, -⟩ := commit_spec ctx dateNow { c with render := { c.render with code } }
    c.render (h.token_ne htoken)
    (h.question_ne hquestion)
  refine ⟨?_, autosaved_commit htoken hquestion h dateNow _ h.language_eq h.question_eq⟩
  rw [hrender (by simp [dataChanged]) (by simp [questionChanged])]

/-- A poll brings the draft of the server, whatever the editor shows. -/
theorem poll_render {c c' : WorkspaceComponent} (h : Autosaved inviteToken questionId language c)
    {data : CandidateWorkspace} {dateNow : Int}
    (hstep : c.step ctx (.poll data dateNow) = some c') :
    c'.render.code = restoredCode data questionId language ∧
      Autosaved inviteToken questionId language c' := by
  simp only [step, Option.some.injEq] at hstep
  subst hstep
  obtain ⟨-, -, hrestored, -⟩ := commit_spec ctx dateNow
    { c with render := { c.render with data := some data, fetch := c.render.fetch + 1 } } c.render
    (h.token_ne htoken)
    (h.question_ne hquestion)
  refine ⟨?_, autosaved_commit htoken hquestion h dateNow _ h.language_eq h.question_eq⟩
  rw [hrestored data (by simp [dataChanged]) rfl]
  show restoredCode data c.render.screen.selectedQuestionId c.render.language = _
  rw [h.question_eq, h.language_eq]

/-- The clock of the screen does not write the code. -/
theorem tick_render {c c' : WorkspaceComponent} (h : Autosaved inviteToken questionId language c)
    {dateNow : Int} (hstep : c.step ctx (.tick dateNow) = some c') :
    c'.render.code = c.render.code ∧ Autosaved inviteToken questionId language c' := by
  obtain ⟨timer, -, rfl⟩ := Option.map_eq_some_iff.mp hstep
  obtain ⟨-, hrender, -, -⟩ := commit_spec ctx dateNow
    { c with render := { c.render with screen := timer.updateRemaining dateNow c.render.screen } }
    c.render (h.token_ne htoken)
    (h.question_ne hquestion)
  refine ⟨?_, autosaved_commit htoken hquestion h dateNow _ h.language_eq h.question_eq⟩
  rw [hrender (by simp [dataChanged]) (by simp [questionChanged, RemainingTimer.updateRemaining])]

omit htoken hquestion in
/-- When the timer of the draft fires, the call sends what the editor shows. -/
theorem saveDraft_sends {c c' : WorkspaceComponent}
    (h : Autosaved inviteToken questionId language c) (hstep : c.step ctx .saveDraft = some c') :
    c'.saves = c.saves ++ [(inviteToken, c.render.input)] ∧ c'.render = c.render ∧
      Autosaved inviteToken questionId language c' := by
  obtain ⟨input, hinput, rfl⟩ := Option.map_eq_some_iff.mp hstep
  have hrendered : input = c.render.input := by
    rcases h.saved with hsaved | ⟨hnone, -⟩
    · rw [hinput] at hsaved
      unfold draftTimer at hsaved
      split at hsaved
      · cases hsaved
      · exact Option.some.inj hsaved
    · simp [hinput] at hnone
  subst hrendered
  have hsaves : c.saves ++ [(c.inviteToken, c.render.input)] =
      c.saves ++ [(inviteToken, c.render.input)] := by rw [h.token_eq]
  exact ⟨hsaves, rfl, h.token_eq, h.question_eq, h.language_eq, Or.inr ⟨rfl, by
    show (c.saves ++ [(c.inviteToken, c.render.input)]).getLast? = _
    rw [hsaves, List.getLast?_concat]⟩⟩

/-- The screen opens with a timer for what it shows. -/
theorem autosaved_openedWorkspace (data : CandidateWorkspace) (dateNow : Int) :
    Autosaved inviteToken questionId language
      (openedWorkspace ctx inviteToken questionId language data dateNow) := by
  obtain ⟨hkeeps, -, -, htimer⟩ := commit_spec ctx dateNow
    { inviteToken,
      render := { language, data := some data, fetch := 1
                  screen := { selectedQuestionId := questionId } } : WorkspaceComponent }
    { language } htoken hquestion
  refine ⟨hkeeps.inviteToken, hkeeps.question, hkeeps.language, ?_⟩
  rcases htimer with htimer | ⟨-, -, hinput⟩
  · exact Or.inl htimer
  · -- the question has just been selected, so the first pass has set the timer
    exact absurd (hkeeps.question.symm.trans (congrArg CodeInput.questionId hinput)) hquestion

end

/-! ### The latest edit -/

/-- The code of an event of the editor. -/
def editOf : WorkspaceEvent → Option String
  | .edit code _ => some code
  | _ => none

/-- The latest edit of the candidate. -/
def lastEdit (es : List WorkspaceEvent) : Option String := (es.filterMap editOf).getLast?

/-- The latest edit shows in the editor, and it is what the timer of the draft sends. While the
editor is open, this timer runs, or the last call has sent the edit. -/
structure KeepsEdit (ctx : PlatformContext) (questionId language code : String)
    (c : WorkspaceComponent) : Prop where
  shown : c.render.code = code
  sent : ∀ c', c.step ctx .saveDraft = some c' →
    c'.saves = c.saves ++ [(c.inviteToken, ⟨questionId, language, code⟩)]
  pending : c.render.screen.examLocked = false →
    c.saveTimer = some ⟨questionId, language, code⟩ ∨
      c.saves.getLast? = some (c.inviteToken, ⟨questionId, language, code⟩)

/-- Typed code is kept: after each event of the run, the screen keeps the latest edit. -/
def TypedCodeKept (ctx : PlatformContext) (questionId language : String) (c : WorkspaceComponent)
    (es : List WorkspaceEvent) : Prop :=
  ∀ before after c', es = before ++ after → (workspaceMachine ctx).run c before = some c' →
    ∀ code, lastEdit before = some code → KeepsEdit ctx questionId language code c'

/-- Each poll that comes after an edit brings the latest edit as the draft of the question. -/
def DraftsFollow (questionId language : String) (es : List WorkspaceEvent) : Prop :=
  ∀ before data dateNow after, es = before ++ .poll data dateNow :: after →
    ∀ code, lastEdit before = some code → restoredCode data questionId language = code

/-- The last edit of a longer run is its last event, if that is an edit. -/
theorem lastEdit_concat (es : List WorkspaceEvent) (e : WorkspaceEvent) :
    lastEdit (es ++ [e]) = (editOf e).or (lastEdit es) := by
  unfold lastEdit
  rw [List.filterMap_append, List.getLast?_append]
  cases h : editOf e <;> simp [h]

/-- The condition on the last event of a run: a poll must restore the code that was typed last. -/
theorem draftsFollow_concat (questionId language : String) (es : List WorkspaceEvent)
    (e : WorkspaceEvent) :
    DraftsFollow questionId language (es ++ [e]) ↔
      DraftsFollow questionId language es ∧ ∀ data dateNow, e = .poll data dateNow →
        ∀ code, lastEdit es = some code → restoredCode data questionId language = code := by
  constructor
  · intro h
    refine ⟨fun before data dateNow after hes => ?_, fun data dateNow he => ?_⟩
    · exact h before data dateNow (after ++ [e]) (by simp [hes])
    · exact h es data dateNow [] (by simp [he])
  · rintro ⟨h, hlast⟩ before data dateNow after hes
    rcases List.eq_nil_or_concat after with rfl | ⟨rest, last, rfl⟩
    · obtain ⟨rfl, he⟩ := List.append_inj' hes rfl
      exact hlast data dateNow (List.singleton_inj.mp he)
    · have hsplit : es ++ [e] = (before ++ .poll data dateNow :: rest) ++ [last] := by
        simp [hes]
      exact h before data dateNow rest (List.append_inj' hsplit rfl).1

section
variable {ctx : PlatformContext} {inviteToken questionId language : String}
  (htoken : inviteToken ≠ "") (hquestion : questionId ≠ "")
include htoken hquestion

/-- Every run keeps the invariant. Where the drafts follow, the editor shows the latest edit. -/
theorem run_autosaved {opened : WorkspaceComponent}
    (hopened : Autosaved inviteToken questionId language opened) :
    ∀ es c, (workspaceMachine ctx).run opened es = some c →
      Autosaved inviteToken questionId language c ∧ (DraftsFollow questionId language es →
        ∀ code, lastEdit es = some code → c.render.code = code) := by
  refine Machine.history_invariant ⟨hopened, fun _ code h => by cases h⟩ ?_
  rintro es c e c' ⟨hsaved, hcode⟩ hstep
  rw [lastEdit_concat]
  -- An edit is shown at once. A poll can replace what is shown, which the condition excludes; the
  -- two timers only send.
  cases e with
  | edit code dateNow =>
      obtain ⟨hrender, hsaved'⟩ := edit_render htoken hquestion hsaved hstep
      refine ⟨hsaved', fun _ latest hlatest => ?_⟩
      rw [hrender]
      exact Option.some.inj hlatest
  | poll data dateNow =>
      obtain ⟨hrender, hsaved'⟩ := poll_render htoken hquestion hsaved hstep
      refine ⟨hsaved', fun hfollow latest hlatest => ?_⟩
      rw [hrender]
      exact hfollow es data dateNow [] rfl latest hlatest
  | tick dateNow =>
      obtain ⟨hrender, hsaved'⟩ := tick_render htoken hquestion hsaved hstep
      refine ⟨hsaved', fun hfollow latest hlatest => ?_⟩
      rw [hrender]
      exact hcode ((draftsFollow_concat _ _ _ _).mp hfollow).1 latest hlatest
  | saveDraft =>
      have hfires : c.step ctx .saveDraft = some c' := hstep
      obtain ⟨-, hrender, hsaved'⟩ := saveDraft_sends hsaved hfires
      refine ⟨hsaved', fun hfollow latest hlatest => ?_⟩
      rw [hrender]
      exact hcode ((draftsFollow_concat _ _ _ _).mp hfollow).1 latest hlatest

omit htoken hquestion in
/-- An editor that shows the latest edit keeps it. -/
theorem keepsEdit_of_shown {c : WorkspaceComponent}
    (h : Autosaved inviteToken questionId language c) {code : String}
    (hcode : c.render.code = code) : KeepsEdit ctx questionId language code c := by
  have hinput : c.render.input = ⟨questionId, language, code⟩ := by
    simp [WorkspaceRender.input, h.question_eq, h.language_eq, hcode]
  refine ⟨hcode, fun c' hstep => ?_, fun hopen => ?_⟩
  · rw [(saveDraft_sends h hstep).1, hinput, h.token_eq]
  · rw [← hinput, h.token_eq]
    rcases h.saved with hsaved | ⟨-, hsaved⟩
    · left
      rw [hsaved, draftTimer, if_neg (by simp [hopen])]
    · exact Or.inr hsaved

/-- The code that a candidate types is kept exactly when each poll that follows an edit brings this
edit back. A poll with an older draft, or with none, writes over it. -/
theorem typed_code_kept_iff (data : CandidateWorkspace) (dateNow : Int)
    (es : List WorkspaceEvent) (c : WorkspaceComponent)
    (hrun : (workspaceMachine ctx).run
      (openedWorkspace ctx inviteToken questionId language data dateNow) es = some c) :
    TypedCodeKept ctx questionId language
        (openedWorkspace ctx inviteToken questionId language data dateNow) es ↔
      DraftsFollow questionId language es := by
  have hopened : Autosaved inviteToken questionId language
      (openedWorkspace ctx inviteToken questionId language data dateNow) :=
    autosaved_openedWorkspace htoken hquestion data dateNow
  constructor
  · intro hkept before polled polledAt after hes code hlatest
    subst hes
    obtain ⟨c', hbefore, hrest⟩ := (Machine.run_append_eq_some _ _ _ _).mp hrun
    obtain ⟨c'', hpoll, -⟩ := (Machine.run_cons_eq_some _ _ _ _).mp hrest
    have hsaved := (run_autosaved htoken hquestion hopened before c' hbefore).1
    -- the poll is no edit, so the edit before it is still the latest one
    have hshown := (hkept (before ++ [.poll polled polledAt]) after c'' (by simp)
      ((Machine.run_concat_eq_some _ _ _ _).mpr ⟨c', hbefore, hpoll⟩) code
      (by rw [lastEdit_concat]; exact hlatest)).shown
    exact (poll_render htoken hquestion hsaved hpoll).1.symm.trans hshown
  · intro hfollow before after c' hes hbefore code hlatest
    obtain ⟨hsaved, hcode⟩ := run_autosaved htoken hquestion hopened before c' hbefore
    refine keepsEdit_of_shown hsaved (hcode (fun fs polled polledAt gs hfs => ?_) code hlatest)
    exact hfollow fs polled polledAt (gs ++ after) (by simp [hes, hfs])

end

/-! ### A poll between an edit and its draft -/

/-- The question on the screen. -/
def typedQuestion : String := "question_cache_001"

/-- The workspace of the candidate, with the question of the seed and the drafts of the server. -/
def polledWorkspace (drafts : List CodeDraft) : CandidateWorkspace :=
  { sittingInvite with
    questions := (createPlatformSeedData 0).questions
    submissions := [], executions := [], proctorEvents := [], proctorActions := []
    examSession :=
      { id := "session_1", candidateId := "cand_1", examId := "exam_1"
        startedAt := Js.toISOString 0, endsAt := Js.toISOString 3600000
        serverNow := Js.toISOString 0, remainingSeconds := some 3600 }
    drafts }

/-- The screen of the candidate, who has not written anything yet. -/
def blankScreen : WorkspaceComponent :=
  openedWorkspace clockContext.toPlatformContext "invite_1" typedQuestion "javascript"
    (polledWorkspace []) 0

/-- The draft of the server after its first call. -/
def typedDraft (code : String) : CodeDraft where
  id := "draft_1"
  candidateId := "cand_1"
  examId := "exam_1"
  questionId := typedQuestion
  language := "javascript"
  code
  savedAt := Js.toISOString 0
  createdAt := Js.toISOString 0

/-- Half a second after the edit, a poll brings the drafts of the server. -/
def pollBeforeDraft : List WorkspaceEvent :=
  [.edit "return 42;" 4500, .poll (polledWorkspace []) 5000]

/-- The draft is saved before the poll, which brings it back. -/
def pollAfterDraft : List WorkspaceEvent :=
  [.edit "return 42;" 4000, .saveDraft] ++ [.poll (polledWorkspace [typedDraft "return 42;"]) 5000]

/-- What a run leaves in the editor and has sent. -/
def typedRun (es : List WorkspaceEvent) : Option (String × List String) :=
  ((workspaceMachine clockContext.toPlatformContext).run blankScreen es).map fun c =>
    (c.render.code, c.saves.map (·.2.code))

/-- What the run of the example shows, and what it has sent. -/
theorem typedRun_eq_some {es : List WorkspaceEvent} {code : String} {sent : List String}
    (h : typedRun es = some (code, sent)) :
    ∃ c, (workspaceMachine clockContext.toPlatformContext).run blankScreen es = some c ∧
      c.render.code = code ∧ c.saves.map (·.2.code) = sent := by
  obtain ⟨c, hrun, hc⟩ := Option.map_eq_some_iff.mp h
  cases hc
  exact ⟨c, hrun, rfl, rfl⟩

/-- A poll half a second after an edit writes the starter code over it, and nothing was sent. -/
theorem poll_overwrites_typed_code :
    typedRun pollBeforeDraft = some (starterCode, []) ∧
      ¬ TypedCodeKept clockContext.toPlatformContext typedQuestion "javascript" blankScreen
        pollBeforeDraft := by
  have hrun : typedRun pollBeforeDraft = some (starterCode, []) := by decide +kernel
  refine ⟨hrun, fun hkept => ?_⟩
  obtain ⟨c, hc, hcode, -⟩ := typedRun_eq_some hrun
  have hshown := (hkept pollBeforeDraft [] c (by simp) hc "return 42;" (by decide)).shown
  rw [hcode] at hshown
  exact absurd hshown (by decide)

/-- Where the draft is saved before the poll, the edit is kept. -/
theorem typed_code_kept_iff_saved :
    typedRun pollAfterDraft = some ("return 42;", ["return 42;"]) ∧
      TypedCodeKept clockContext.toPlatformContext typedQuestion "javascript" blankScreen
        pollAfterDraft := by
  have hrun : typedRun pollAfterDraft = some ("return 42;", ["return 42;"]) := by decide +kernel
  obtain ⟨c, hc, -⟩ := typedRun_eq_some hrun
  refine ⟨hrun, (typed_code_kept_iff (by decide) (by decide) _ _ _ c hc).mpr ?_⟩
  refine (draftsFollow_concat _ _ _ _).mpr ⟨?_, fun data dateNow hpoll code hlatest => ?_⟩
  · rintro before data dateNow after hes
    have hmem : WorkspaceEvent.poll data dateNow ∈
        [WorkspaceEvent.edit "return 42;" 4000, .saveDraft] := by simp [hes]
    simp at hmem
  · cases hpoll
    cases hlatest
    decide +kernel

end Dcvp.Proofs
