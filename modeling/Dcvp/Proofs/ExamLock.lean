import Dcvp.Proofs.ExamGate
import Dcvp.Web.CandidateExamWorkspace

/-!
# `Dcvp.Proofs.ExamLock`: the candidate's screen against the gate of the server

The screen and the server decide the same question from the same history. The screen looks at
the newest action (`locksExam`). The server looks at the newest action that pauses, resumes or
terminates (`gateAnswer`). Both compare the end of the session with the server's clock, which
the screen estimates.

`exam_lock_agrees_iff` is the exact condition under which they agree: the time is over, or the
newest action does not hide a pause or a termination behind a warning or a memo (`LockHidden`).

`automatic_submission_rejected` is about the submission at the end of the time. Screen and server
round down to whole seconds alike. So when the screen counts to zero, the server has counted to
zero already, unless the screen is ahead of it.
-/

set_option autoImplicit false

namespace Dcvp.Proofs

open Dcvp.Lib
open Dcvp.Shared
open Dcvp.Services.PlatformStore
open Dcvp.Web

/-- `Date.parse` reads the date back that `toISOString` has printed. -/
def ReadsDate (ctx : PlatformContext) (date : Int) : Prop :=
  ctx.dateParse (Js.toISOString date) = some date

instance (ctx : PlatformContext) (date : Int) : Decidable (ReadsDate ctx date) :=
  inferInstanceAs (Decidable (_ = _))

/-- The newest action is a warning or a memo, and the newest one of the others pauses or
terminates the exam. -/
def LockHidden (actions : List ProctorAction) : Prop :=
  actions.head?.map (isBlocking ·.type) = some false ∧
    locksExam (actions.find? (isBlocking ·.type)) = true

instance (actions : List ProctorAction) : Decidable (LockHidden actions) :=
  inferInstanceAs (Decidable (_ ∧ _))

/-! ### The server -/

/-- The gate rejects a paused, terminated or expired exam, and no other one. -/
theorem gateAnswer_error_iff (latest : Option ProctorAction) (endsAt : Option Int) (now : Int) :
    (∃ error, gateAnswer latest endsAt now = .error error) ↔
      locksExam latest = true ∨ timeOver endsAt now = true := by
  have hlock : ∀ action : Option ProctorAction, locksExam action = true ↔
      ∃ error, assertProctorActionAllowsExam action = .error error := by
    intro action
    unfold locksExam assertProctorActionAllowsExam
    cases action.map (·.type) with
    | none => simp
    | some type => cases type <;> simp
  unfold gateAnswer
  rw [hlock]
  cases assertProctorActionAllowsExam latest with
  | error error => exact ⟨fun _ => .inl ⟨error, rfl⟩, fun _ => ⟨error, rfl⟩⟩
  | ok _ =>
      show (∃ error, (if timeOver endsAt now = true then .error examTimeExpired
        else (.ok () : Except ServiceException Unit)) = .error error) ↔ _
      cases timeOver endsAt now <;> simp

/-- Without a pause or a termination, the gate rejects an expired exam for that reason. -/
theorem gateAnswer_of_timeOver {latest : Option ProctorAction} {endsAt : Option Int} {now : Int}
    (hopen : locksExam latest = false) (htime : timeOver endsAt now = true) :
    gateAnswer latest endsAt now = .error examTimeExpired := by
  unfold gateAnswer
  rw [htime]
  unfold locksExam at hopen
  unfold assertProctorActionAllowsExam
  split
  · rename_i hterminate
    simp [hterminate] at hopen
  · rename_i hpause
    simp [hpause] at hopen
  · rfl

/-! ### The screen -/

section
variable {ctx : PlatformContext} {data : CandidateWorkspace} {fetchedAt dateNow now : Int}

/-- The seconds that the screen shows are over when less than one of them is left. -/
theorem remaining_eq_zero_iff {timer : RemainingTimer} {serverNow : Int}
    (hclock : timer.serverNow dateNow = some serverNow) :
    timer.remainingSeconds dateNow = some 0 ↔ timeOver timer.endsAt serverNow = true := by
  rw [timeOver_iff]
  unfold RemainingTimer.remainingSeconds
  rw [hclock]
  cases timer.endsAt with
  | none => simp
  | some endsAt =>
      show some (max 0 ((endsAt - serverNow) / 1000)) = some 0 ↔ _
      rw [Option.some.injEq]
      constructor
      · intro h
        exact ⟨endsAt, rfl, by omega⟩
      · rintro ⟨e, he, hlt⟩
        cases he
        omega

/-- The timer that the lock effect starts, where it starts one: the latest action does not lock,
and the offset and the end are those of the fetched data. -/
theorem lockEffect_timer {screen shown : CandidateExamScreen} {timer : RemainingTimer}
    (h : lockEffect ctx data fetchedAt screen = (shown, some timer)) :
    locksExam data.proctorActions.head? = false ∧
      timer.latestAction = data.proctorActions.head? ∧
      timer.serverOffsetMs = (ctx.dateParse data.examSession.serverNow).map (· - fetchedAt) ∧
      timer.endsAt = ctx.dateParse data.examSession.endsAt := by
  unfold lockEffect at h
  cases hlock : locksExam data.proctorActions.head? with
  | true =>
      simp only [hlock, if_true] at h
      cases h
  | false =>
      simp only [hlock, Bool.false_eq_true, if_false] at h
      cases h
      exact ⟨rfl, rfl, rfl, rfl⟩

/-- The clock of the screen: the server's clock at the fetch, and the time since then. -/
theorem timer_serverNow {screen shown : CandidateExamScreen} {timer : RemainingTimer}
    (h : lockEffect ctx data fetchedAt screen = (shown, some timer))
    (hclock : ctx.dateParse data.examSession.serverNow = some now) :
    timer.serverNow dateNow = some (now + (dateNow - fetchedAt)) := by
  obtain ⟨-, -, hoffset, -⟩ := lockEffect_timer h
  unfold RemainingTimer.serverNow
  rw [hoffset, hclock]
  show some (dateNow + (now - fetchedAt)) = _
  congr 1
  omega

/-- The lock of the screen: the newest action locks the exam, or the time is over. -/
theorem examLocked_screenAt (screen : CandidateExamScreen)
    (hclock : ctx.dateParse data.examSession.serverNow = some now) :
    (screenAt ctx data fetchedAt dateNow screen).examLocked = true ↔
      locksExam data.proctorActions.head? = true ∨
        timeOver (ctx.dateParse data.examSession.endsAt) (now + (dateNow - fetchedAt))
          = true := by
  unfold screenAt
  -- Without a timer the screen is locked by the action; with a timer by what the timer counts,
  -- which starts at the server's clock of the read.
  cases heffect : lockEffect ctx data fetchedAt screen with
  | mk shown started =>
      cases started with
      | none =>
          unfold lockEffect at heffect
          cases hlock : locksExam data.proctorActions.head? with
          | true =>
              simp only [hlock, if_true] at heffect
              cases heffect
              simp
          | false =>
              simp only [hlock, Bool.false_eq_true, if_false] at heffect
              cases heffect
      | some timer =>
          obtain ⟨hlock, haction, -, hends⟩ := lockEffect_timer heffect
          have hserver : timer.serverNow dateNow = some (now + (dateNow - fetchedAt)) :=
            timer_serverNow heffect hclock
          have hremaining := remaining_eq_zero_iff hserver
          show (locksExam timer.latestAction ||
            decide (timer.remainingSeconds dateNow = some 0)) = true ↔ _
          rw [haction, hlock, Bool.false_or, decide_eq_true_iff, hremaining, hends]
          simp

end

/-- The rules of the screen and of the server differ on a history exactly when a warning or a
memo hides the lock. -/
theorem locks_alike_iff (actions : List ProctorAction) :
    (locksExam actions.head? = true ↔
        locksExam (actions.find? (isBlocking ·.type)) = true) ↔ ¬ LockHidden actions := by
  unfold LockHidden
  cases actions with
  | nil => simp
  | cons action older =>
      cases hblocking : isBlocking action.type with
      | true => simp [hblocking]
      | false =>
          have hnewest : locksExam (some action) = false := by
            unfold locksExam
            cases htype : action.type <;> simp [htype, isBlocking] at hblocking ⊢
          simp [hblocking, hnewest]

/-! ### The lock -/

section
variable {ctx : StoreContext} {store store' : Store} {invite : CandidateInvite}
  {turn : PlatformInput} {workspace : CandidateWorkspace}

/-- The end of the session that is stored after the read is the end that the workspace shows. -/
theorem storedEnd_of_read
    (hread : readCandidateWorkspace ctx invite turn store = (.ok workspace, store'))
    (hdates : ∀ row ∈ store'.database.examSessions.rows,
      ReadsDate ctx.toPlatformContext row.endsAt) :
    storedEnd ctx store' invite = some (ctx.dateParse workspace.examSession.endsAt) := by
  unfold storedEnd
  rcases (readCandidateWorkspace_ok hread).2.2 with
    ⟨session, hsession, hends, hmode⟩ | ⟨row, hrow, hends, hmode⟩
  · rw [hmode, if_pos rfl, hsession, ← hends]
    rfl
  · have hmem : row ∈ store'.database.examSessions.rows := List.mem_of_find?_eq_some hrow
    rw [hmode, if_neg Bool.false_ne_true, hrow, ← hends]
    exact congrArg some (hdates row hmem).symm

/-- The lock of the candidate's screen agrees with the gate exactly when less than a second is
left, or no warning and no memo hides a pause or a termination. The screen runs on the workspace
that the server has returned, and at the server's time. -/
theorem exam_lock_agrees_iff {later : PlatformInput} {fetchedAt dateNow : Int}
    (screen : CandidateExamScreen)
    (hread : readCandidateWorkspace ctx invite turn store = (.ok workspace, store'))
    (hnewest : store'.usesMemory ctx = true →
      NewestFirst ctx.toPlatformContext (actionsOn ctx store' invite.candidate.id))
    (hclock : ReadsDate ctx.toPlatformContext turn.now)
    (hdates : ∀ row ∈ store'.database.examSessions.rows,
      ReadsDate ctx.toPlatformContext row.endsAt)
    (htime : later.now = turn.now + (dateNow - fetchedAt)) (hend : EndIsDate invite later) :
    ((screenAt ctx.toPlatformContext (toCandidateWorkspace workspace) fetchedAt dateNow
          screen).examLocked = true ↔
        ∃ error, (assertExamSessionOpen ctx invite later store').1 = .error error) ↔
      (∃ endsAt, ctx.dateParse workspace.examSession.endsAt = some endsAt ∧
          endsAt - later.now < 1000) ∨
        ¬ LockHidden (actionsOn ctx store' invite.candidate.id) := by
  obtain ⟨hhead, hserverNow, -⟩ := readCandidateWorkspace_ok hread
  have hparse : ctx.dateParse (toCandidateWorkspace workspace).examSession.serverNow
      = some turn.now := by
    show ctx.dateParse workspace.examSession.serverNow = _
    rw [hserverNow]
    exact hclock
  have hscreen : (screenAt ctx.toPlatformContext (toCandidateWorkspace workspace) fetchedAt
        dateNow screen).examLocked = true ↔
      locksExam workspace.proctorActions.head? = true ∨
        timeOver (ctx.dateParse workspace.examSession.endsAt)
          (turn.now + (dateNow - fetchedAt)) = true := examLocked_screenAt screen hparse
  rw [hhead, ← htime] at hscreen
  have hgate := assertExamSessionOpen_fst (storedEnd_of_read hread hdates) hnewest hend
  rw [hscreen, hgate, gateAnswer_error_iff, ← timeOver_iff, ← locks_alike_iff]
  -- Where the time is over, both sides are locked. Else only the actions count.
  cases timeOver (ctx.dateParse workspace.examSession.endsAt) later.now <;> simp

end

/-! ### The submission at the end of the time -/

/-- The automatic submission is rejected, whenever it arrives: the screen fires when it counts
less than a second, and the server's clock is not behind the estimate of the screen. -/
theorem automatic_submission_rejected {ctx : StoreContext} {store store' arrival : Store}
    {invite : CandidateInvite} {turn later : PlatformInput} {workspace : CandidateWorkspace}
    {fetchedAt dateNow : Int} {screen shown : CandidateExamScreen} {timer : RemainingTimer}
    {isPending : Bool}
    (hread : readCandidateWorkspace ctx invite turn store = (.ok workspace, store'))
    (hclock : ReadsDate ctx.toPlatformContext turn.now)
    (hdates : ∀ row ∈ store'.database.examSessions.rows,
      ReadsDate ctx.toPlatformContext row.endsAt)
    (htimer : lockEffect ctx.toPlatformContext (toCandidateWorkspace workspace) fetchedAt screen
      = (shown, some timer))
    (hfires : (autoSubmitEffect isPending (timer.updateRemaining dateNow shown)).2 = true)
    (hestimate : turn.now + (dateNow - fetchedAt) ≤ later.now)
    (hsame : storedEnd ctx arrival invite = storedEnd ctx store' invite)
    (hnewest : arrival.usesMemory ctx = true →
      NewestFirst ctx.toPlatformContext (actionsOn ctx arrival invite.candidate.id))
    (hopen : locksExam ((actionsOn ctx arrival invite.candidate.id).find?
      (isBlocking ·.type)) = false)
    (hend : EndIsDate invite later) :
    (assertExamSessionOpen ctx invite later arrival).1 = .error examTimeExpired := by
  obtain ⟨-, hserverNow, -⟩ := readCandidateWorkspace_ok hread
  have hparse : ctx.dateParse (toCandidateWorkspace workspace).examSession.serverNow
      = some turn.now := by
    show ctx.dateParse workspace.examSession.serverNow = _
    rw [hserverNow]
    exact hclock
  -- The effect submits only when the timer shows zero.
  have hzero : timer.remainingSeconds dateNow = some 0 := by
    by_contra hne
    have hnot : (timer.updateRemaining dateNow shown).timeRemainingSeconds ≠ some (some 0) :=
      fun h => hne (Option.some.inj h)
    simp [autoSubmitEffect, hnot] at hfires
  have hserver : timer.serverNow dateNow = some (turn.now + (dateNow - fetchedAt)) :=
    timer_serverNow htimer hparse
  obtain ⟨endsAt, hendsAt, hless⟩ :=
    (timeOver_iff _ _).mp ((remaining_eq_zero_iff hserver).mp hzero)
  have htimerEnds : timer.endsAt = ctx.dateParse workspace.examSession.endsAt :=
    (lockEffect_timer htimer).2.2.2
  rw [htimerEnds] at hendsAt
  have hstored : storedEnd ctx arrival invite
      = some (ctx.dateParse workspace.examSession.endsAt) :=
    hsame.trans (storedEnd_of_read hread hdates)
  have hover : timeOver (ctx.dateParse workspace.examSession.endsAt) later.now = true :=
    (timeOver_iff _ _).mpr ⟨endsAt, hendsAt, by omega⟩
  rw [assertExamSessionOpen_fst hstored hnewest hend, gateAnswer_of_timeOver hopen hover]

/-! ### A session of one hour -/

/-- A process that reads the dates of the session and of the exam below. -/
def clockContext : StoreContext :=
  { deployedContext with
    host := { deployedContext.host with
      dateParse := fun text =>
        if text = Js.toISOString 0 then some 0
        else if text = Js.toISOString 3600000 then some 3600000
        else if text = Js.toISOString 7200000 then some 7200000
        else none } }

/-- A proctor action on the candidate. -/
def actionRow (id : String) (type : ProctorActionType) (createdAt : Int) : ProctorActionRow where
  id
  candidateId := "cand_1"
  examId := "exam_1"
  type
  message := ""
  createdAt

/-- An exam with one candidate, whose session lasts from 0 to one hour. -/
def sittingTables (proctorActions : Table ProctorActionRow.id) : PlatformTables where
  organizations := .single ⟨"org_a", "Example", "ORG-A", 0⟩
  exams := ⟨[{
    id := "exam_1", organizationId := "org_a", title := "Exam", description := "", startAt := 0,
    endAt := 7200000, durationMinutes := 60, languages := [], createdAt := 0 }], by decide⟩
  candidates := ⟨[{
    id := "cand_1", examId := "exam_1", name := "Kim", email := "kim@example.com",
    status := .ready, inviteToken := "invite_1", createdAt := 0 }], by decide⟩
  examSessions := ⟨[{
    id := "session_1", candidateId := "cand_1", examId := "exam_1", startedAt := 0,
    endsAt := 3600000, createdAt := 0 }], by decide⟩
  proctorActions

/-- The session without actions. -/
def sittingStore : Store where
  memory := { organization := (managerOf "org_a").organization }
  database :=
    { toPlatformTables := sittingTables Table.empty
      unique := by decide +kernel
      related := by decide +kernel }

/-- The session is paused, and then the candidate is warned. -/
def warnedStore : Store where
  memory := { organization := (managerOf "org_a").organization }
  database :=
    { toPlatformTables := sittingTables
        ⟨[actionRow "action_1" .pauseExam 60000, actionRow "action_2" .warningMessage 120000],
          by decide⟩
      unique := by decide +kernel
      related := by decide +kernel }

/-- The invite of the candidate. -/
def sittingInvite : CandidateInvite where
  candidate :=
    { id := "cand_1", examId := "exam_1", name := "Kim", email := "kim@example.com",
      status := .ready, inviteToken := "invite_1", createdAt := Js.toISOString 0 }
  exam :=
    { id := "exam_1", organizationId := "org_a", title := "Exam", description := "",
      startAt := Js.toISOString 0, endAt := Js.toISOString 7200000, durationMinutes := 60,
      status := .active, languages := [], proctoringEnabled := false,
      identityVerificationEnabled := false, mobileCameraRequired := false,
      screenShareRequired := false, createdAt := Js.toISOString 0 }
  organization := (managerOf "org_a").organization
  questions := []
  proctorDevices := []

/-- The workspace that a store returns at the start of the session. -/
def workspaceAtStart (store : Store) : Option CandidateWorkspace :=
  (readCandidateWorkspace clockContext sittingInvite {} store).1.toOption

/-- Where the workspace at the start is given, it is what `readCandidateWorkspace` answers there.
-/
theorem read_of_workspaceAtStart {store : Store} {workspace : CandidateWorkspace}
    (h : workspaceAtStart store = some workspace) :
    readCandidateWorkspace clockContext sittingInvite {} store
      = (.ok workspace, (readCandidateWorkspace clockContext sittingInvite {} store).2) := by
  unfold workspaceAtStart at h
  cases hrun : readCandidateWorkspace clockContext sittingInvite {} store with
  | mk ended store' =>
      rw [hrun] at h
      cases ended with
      | error error => cases h
      | ok result =>
          cases h
          rfl

/-- The lock of the screen ten minutes after the start. -/
def lockAfterTenMinutes (workspace : CandidateWorkspace) : Bool :=
  (screenAt clockContext.toPlatformContext (toCandidateWorkspace workspace) 0 600000
    {}).examLocked

/-- Ten minutes after the start, the screen of the paused candidate is open, and the gate rejects
every draft, run and submission. -/
theorem paused_screen_stays_open :
    (workspaceAtStart warnedStore).map lockAfterTenMinutes = some false ∧
      (assertExamSessionOpen clockContext sittingInvite { now := 600000 }
        (readCandidateWorkspace clockContext sittingInvite {} warnedStore).2).1.toOption
          = none := by
  decide +kernel

/-- The exact condition at the warned candidate and at a candidate without actions. -/
theorem exam_lock_agrees_iff_warned :
    (∃ workspace, workspaceAtStart warnedStore = some workspace ∧
      ¬ (lockAfterTenMinutes workspace = true ↔
        ∃ error, (assertExamSessionOpen clockContext sittingInvite { now := 600000 }
          (readCandidateWorkspace clockContext sittingInvite {} warnedStore).2).1
            = .error error)) ∧
    ∃ workspace, workspaceAtStart sittingStore = some workspace ∧
      (lockAfterTenMinutes workspace = true ↔
        ∃ error, (assertExamSessionOpen clockContext sittingInvite { now := 600000 }
          (readCandidateWorkspace clockContext sittingInvite {} sittingStore).2).1
            = .error error) := by
  have hclock : ReadsDate clockContext.toPlatformContext 0 := by decide +kernel
  have hend : EndIsDate sittingInvite { now := 600000 } := by decide +kernel
  constructor
  -- A warning is newer than the pause, so the screen opens while the gate still sees the pause.
  · have hsome : (workspaceAtStart warnedStore).isSome = true := by decide +kernel
    obtain ⟨workspace, hworkspace⟩ := Option.isSome_iff_exists.mp hsome
    refine ⟨workspace, hworkspace, fun hagree => ?_⟩
    have hcondition := (exam_lock_agrees_iff {} (read_of_workspaceAtStart hworkspace)
      (by decide +kernel) hclock (by decide +kernel) (by decide) hend).mp hagree
    have hends : (workspaceAtStart warnedStore).map (fun workspace =>
        clockContext.dateParse workspace.examSession.endsAt) = some (some 3600000) := by
      decide +kernel
    rw [hworkspace] at hends
    have hhour : clockContext.dateParse workspace.examSession.endsAt = some 3600000 :=
      Option.some.inj hends
    rcases hcondition with ⟨endsAt, hendsAt, hless⟩ | hhidden
    · rw [hhour] at hendsAt
      cases hendsAt
      exact absurd hless (by decide)
    · exact hhidden (by decide +kernel)
  · have hsome : (workspaceAtStart sittingStore).isSome = true := by decide +kernel
    obtain ⟨workspace, hworkspace⟩ := Option.isSome_iff_exists.mp hsome
    refine ⟨workspace, hworkspace, ?_⟩
    exact (exam_lock_agrees_iff {} (read_of_workspaceAtStart hworkspace)
      (by decide +kernel) hclock (by decide +kernel) (by decide) hend).mpr (.inr (by decide +kernel))

/-- The screen with a question on it. -/
def questionScreen : CandidateExamScreen := { selectedQuestionId := "question_1" }

/-- The lock effect starts a timer, and its interval makes the screen submit at `dateNow`. -/
def submitsAt (workspace : CandidateWorkspace) (dateNow : Int) : Bool :=
  match lockEffect clockContext.toPlatformContext (toCandidateWorkspace workspace) 0
    questionScreen with
  | (shown, some timer) => (autoSubmitEffect false (timer.updateRemaining dateNow shown)).2
  | (_, none) => false

/-- Half a second before the end the screen submits. The submission arrives at once, 400
milliseconds before the end and in the middle of the exam, and is rejected. -/
theorem submission_in_time_rejected :
    (workspaceAtStart sittingStore).map (submitsAt · 3599500) = some true ∧
      examAvailable clockContext.toPlatformContext sittingInvite.exam 3599600 = true ∧
      storedEnd clockContext sittingStore sittingInvite = some (some 3600000) ∧
      actionsOn clockContext sittingStore "cand_1" = [] ∧
      (assertExamSessionOpen clockContext sittingInvite { now := 3599600 }
        sittingStore).1.toOption = none := by
  decide +kernel

/-- The rejection of this submission: the screen submits just before its end, and the request
arrives while the gate counts less than a second. -/
theorem automatic_submission_rejected_in_time :
    ∃ workspace, workspaceAtStart sittingStore = some workspace ∧
      submitsAt workspace 3599500 = true ∧
      (assertExamSessionOpen clockContext sittingInvite { now := 3599600 } sittingStore).1
        = .error examTimeExpired := by
  have hsubmits : (workspaceAtStart sittingStore).map (submitsAt · 3599500) = some true := by
    decide +kernel
  obtain ⟨workspace, hworkspace, hsubmit⟩ := Option.map_eq_some_iff.mp hsubmits
  refine ⟨workspace, hworkspace, hsubmit, ?_⟩
  unfold submitsAt at hsubmit
  split at hsubmit
  · rename_i shown timer htimer
    exact automatic_submission_rejected (read_of_workspaceAtStart hworkspace) (by decide +kernel)
      (by decide +kernel) htimer hsubmit (by decide) (by decide +kernel) (by decide +kernel)
      (by decide +kernel) (by decide +kernel)
  · cases hsubmit

end Dcvp.Proofs
