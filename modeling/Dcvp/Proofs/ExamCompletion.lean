import Dcvp.Proofs.ExamClock

/-!
# `Dcvp.Proofs.ExamCompletion`: when the row of an exam session is completed

The row of a session is upserted by each access, and the upsert never writes to a row that is
there. The one statement that does is the update behind the gate: a call that comes when the time is
over sets `completedAt`, and is rejected. It does not ask whether the row is completed already.

So a session is completed by a rejected call only, and a row is completed at most once until a
second call comes when the time is over (`CompletesAgain`). `completion_written_once_iff` says that
this is the exact condition.
-/

set_option autoImplicit false

namespace Dcvp.Proofs

open Dcvp.Lib
open Dcvp.Lib.Computation
open Dcvp.Shared
open Dcvp.Services.PlatformStore

/-! ### The calls -/

/-- The two functions that touch the row of a session. -/
inductive SessionCall where
  | getCandidateWorkspace
  | assertExamSessionOpen
  deriving DecidableEq

/-- A call for a candidate, with the turn that it gets. -/
structure SessionEvent where
  invite : CandidateInvite
  call : SessionCall
  turn : PlatformInput

/-- One call. -/
def performSession (ctx : StoreContext) (event : SessionEvent) : StoreOperation Unit :=
  match event.call with
  | .getCandidateWorkspace =>
      (fun _ => ()) <$> readCandidateWorkspace ctx event.invite event.turn
  | .assertExamSessionOpen => assertExamSessionOpen ctx event.invite event.turn

/-- The machine of these calls. -/
def sessionMachine (ctx : StoreContext) : Machine Store SessionEvent :=
  ⟨fun store event => some (performSession ctx event store).2⟩

/-- `completedAt` of the row of a candidate in an exam. -/
def completedAt (db : PlatformDatabase) (key : String × String) : Option Int :=
  (db.examSessions.findFirst fun session => session.key = key).bind (·.completedAt)

/-- A call that comes when the time is over, and that finds its session completed: it is on the
database, no proctor has paused or terminated the exam, and a session that started now would end
on a date. -/
def CompletesAgain (ctx : StoreContext) (store : Store) (event : SessionEvent) : Prop :=
  store.usesMemory ctx = false ∧ event.call = .assertExamSessionOpen ∧
    EndIsDate event.invite event.turn ∧
    assertProctorActionAllowsExam (store.database.latestBlockingAction event.invite) = .ok () ∧
    ∃ row, sessionRow store.database event.invite = some row ∧ row.completedAt.isSome = true ∧
      timeOver (some row.endsAt) event.turn.now = true

/-! ### The statements -/

/-- The time of completion, read from the row of the session. -/
theorem completedAt_inviteKey (db : PlatformDatabase) (invite : CandidateInvite) :
    completedAt db (inviteKey invite) = (sessionRow db invite).bind (·.completedAt) :=
  rfl

section
variable {db db' : PlatformDatabase} {invite : CandidateInvite} {turn : PlatformInput}

/-- The update writes the date of completion into the row of its key only, and every key finds the
row that it found before. -/
theorem completedAt_completeExamSession {key : String × String} {now : Int}
    (h : db.completeExamSession key now = .ok db') (other : String × String) :
    completedAt db' other = if other = key then some now else completedAt db other := by
  unfold PlatformDatabase.completeExamSession at h
  split at h
  · cases h
  · rename_i row hrow
    unfold completedAt
    rw [PlatformDatabase.commit_eq_ok h]
    unfold Table.findFirst at hrow ⊢
    simp only [Table.updateMany]
    rw [List.find?_map]
    -- The update does not touch the key of a row, so every key finds the row that it found before.
    have hkeys : ((fun session : ExamSessionRow => decide (session.key = other)) ∘
        fun session => if decide (session.key = key) = true then
          { session with completedAt := some now } else session)
          = fun session => decide (session.key = other) := by
      funext session
      by_cases hsession : session.key = key
      · simp only [Function.comp, hsession, decide_true, if_true]
        exact congrArg (fun k => decide (k = other)) hsession
      · simp [Function.comp, hsession]
    rw [hkeys]
    -- At its own key the row has the new date, at every other key the old row is found.
    by_cases hother : other = key
    · subst hother
      have hfound : row.key = other := by simpa using List.find?_some hrow
      rw [if_pos rfl, hrow]
      simp [hfound]
    · rw [if_neg hother]
      cases hfind : db.examSessions.rows.find? fun session => decide (session.key = other) with
      | none => rfl
      | some session =>
          have hfound : session.key = other := by simpa using List.find?_some hfind
          have hne : session.key ≠ key := fun h => hother (hfound.symm.trans h)
          simp [hne]

/-- The upsert makes rows that are not completed, and leaves the others. -/
theorem ensureExamSession_completedAt (invite : CandidateInvite) (turn : PlatformInput)
    (key : String × String) (completed : Option Int) :
    Preserves (fun db : PlatformDatabase => completedAt db key = completed)
      (ensureExamSession invite turn) := by
  cases hend : Js.timeClip (turn.now + invite.exam.durationMinutes * 60 * 1000) with
  | none =>
      unfold ensureExamSession
      rw [hend]
      exact fun _ h => h
  | some endsAt =>
      rw [ensureExamSession_eq hend]
      refine .bind (.updates fun db db' hdb hok => ?_) fun _ => .reads _
      unfold PlatformDatabase.upsertExamSession at hok
      split at hok
      · cases hok
        exact hdb
      · obtain ⟨examSessions, hinsert, htables⟩ := PlatformDatabase.create_eq_ok hok
        rw [← hdb]
        unfold completedAt Table.findFirst
        rw [htables, Table.rows_insert? hinsert, List.find?_append]
        cases hfind : db.examSessions.rows.find? fun session => decide (session.key = key) with
        | some session => rfl
        | none =>
            -- The new row is the one that is found, or there is none.
            rw [Option.none_or, List.find?_singleton]
            split <;> rfl

/-- The gate, once the session is there: the row is completed when the time is over and no proctor
stands in the way. -/
theorem examSessionOpenInDatabase_completes {row : ExamSessionRow}
    (hensure : ensureExamSession invite turn db = (.ok (mapExamSession row turn.now), db'))
    (hrow : sessionRow db' invite = some row) :
    (assertProctorActionAllowsExam (db'.latestBlockingAction invite) = .ok () ∧
      timeOver (some row.endsAt) turn.now = true ∧
      ∃ db'', examSessionOpenInDatabase invite turn db = (.error examTimeExpired, db'') ∧
        db'.completeExamSession (inviteKey invite) turn.now = .ok db'') ∨
    ((assertProctorActionAllowsExam (db'.latestBlockingAction invite) ≠ .ok () ∨
        timeOver (some row.endsAt) turn.now = false) ∧
      ∃ answer, examSessionOpenInDatabase invite turn db = (answer, db')) := by
  have hexpired : isExpired (mapExamSession row turn.now)
      = timeOver (some row.endsAt) turn.now := rfl
  obtain ⟨completed, hcomplete⟩ := completeExamSession_ok hrow turn.now
  unfold examSessionOpenInDatabase
  rw [bind_ok hensure, look_bind, reads_bind]
  -- The action of a proctor is looked at before the time; only a sitting that no action blocks is
  -- completed.
  cases hallows : assertProctorActionAllowsExam (db'.latestBlockingAction invite) with
  | error error => exact .inr ⟨.inl (by simp), _, rfl⟩
  | ok _ =>
      simp only [hexpired]
      cases htime : timeOver (some row.endsAt) turn.now with
      | false => exact .inr ⟨.inr rfl, _, rfl⟩
      | true =>
          refine .inl ⟨trivial, rfl, completed, ?_, hcomplete⟩
          simp only [if_true]
          rw [updates_bind_ok hcomplete]
          rfl

/-- What the gate does to the rows: nothing, or it completes the row of its invite and rejects the
call, and the time is over. -/
theorem examSessionOpenInDatabase_completedAt (invite : CandidateInvite) (turn : PlatformInput)
    (db : PlatformDatabase) (key : String × String) :
    completedAt (examSessionOpenInDatabase invite turn db).2 key = completedAt db key ∨
    (key = inviteKey invite ∧
      completedAt (examSessionOpenInDatabase invite turn db).2 key = some turn.now ∧
      (examSessionOpenInDatabase invite turn db).1 = .error examTimeExpired) := by
  cases hensure : ensureExamSession invite turn db with
  | mk ended db' =>
      have hkept := ensureExamSession_completedAt invite turn key (completedAt db key) db rfl
      rw [hensure] at hkept
      cases ended with
      | error error =>
          have hrun : examSessionOpenInDatabase invite turn db = (.error error, db') :=
            bind_error hensure
          rw [hrun]
          exact .inl hkept
      | ok session =>
          obtain ⟨row, hrow, rfl⟩ := ensureExamSession_ok hensure
          -- Either the gate writes the completion of its own key and throws, or it writes nothing.
          rcases examSessionOpenInDatabase_completes hensure hrow with
            ⟨-, -, db'', hrun, hcomplete⟩ | ⟨-, answer, hrun⟩
          · rw [hrun, completedAt_completeExamSession hcomplete]
            by_cases hkey : key = inviteKey invite
            · rw [if_pos hkey]
              exact .inr ⟨hkey, rfl, rfl⟩
            · rw [if_neg hkey]
              exact .inl hkept
          · rw [hrun]
            exact .inl hkept

end

/-! ### One call -/

section
variable {ctx : StoreContext} {store : Store} {event : SessionEvent}

/-- The rows after the gate are those that its operation leaves, however the call ends. -/
theorem assertExamSessionOpen_database {invite : CandidateInvite} {turn : PlatformInput}
    {ended : Except ServiceException Unit} {db : PlatformDatabase}
    (hmode : store.usesMemory ctx = false)
    (hrun : examSessionOpenInDatabase invite turn store.database = (ended, db)) :
    (assertExamSessionOpen ctx invite turn store).2.database = db := by
  unfold assertExamSessionOpen
  cases ended with
  | ok _ =>
      rw [bind_ok (tryDatabase_ran hmode hrun)]
      rfl
  | error error =>
      rcases tryDatabase_failed hmode hrun with ⟨error', htry⟩ | ⟨-, htry⟩
      · rw [bind_error htry]
      · rw [bind_ok htry]
        simp only
        rw [reads_bind]
        split <;> rfl

/-- The same for a call of the gate. -/
theorem performSession_gate {ended : Except ServiceException Unit} {db : PlatformDatabase}
    (hmode : store.usesMemory ctx = false) (hcall : event.call = .assertExamSessionOpen)
    (hrun : examSessionOpenInDatabase event.invite event.turn store.database = (ended, db)) :
    (performSession ctx event store).2.database = db := by
  unfold performSession
  rw [hcall]
  exact assertExamSessionOpen_database hmode hrun

/-- What a call does to the dates of completion: nothing, or it writes that of its own session, and
then it is a gate on the database that refuses a late call. -/
theorem performSession_completedAt (ctx : StoreContext) (store : Store) (event : SessionEvent)
    (key : String × String) :
    completedAt (performSession ctx event store).2.database key = completedAt store.database key ∨
    (key = inviteKey event.invite ∧ store.usesMemory ctx = false ∧
      event.call = .assertExamSessionOpen ∧
      completedAt (performSession ctx event store).2.database key = some event.turn.now ∧
      (performSession ctx event store).1 = .error examTimeExpired) := by
  unfold performSession
  cases hcall : event.call with
  | getCandidateWorkspace =>
      refine .inl ?_
      -- A read of the workspace may create the session, and completes none.
      have hkept : Preserves (InStore (fun _ => True) fun db =>
          completedAt db key = completedAt store.database key)
          (readCandidateWorkspace ctx event.invite event.turn) := by
        refine .bind (preserves_tryDatabase (.bind (ensureExamSession_completedAt _ _ _ _)
          fun _ => .reads _)) fun answer => ?_
        cases answer with
        | some workspace => exact .pure workspace
        | none =>
            refine .bind (.reads _) fun result => .bind (.updates fun s s' hs hok => ?_)
              fun _ => .pure _
            cases hok
            exact ⟨trivial, hs.2⟩
      simp only [map_apply]
      exact (hkept store ⟨trivial, rfl⟩).2
  | assertExamSessionOpen =>
      cases hmode : store.usesMemory ctx with
      | true =>
          refine .inl ?_
          simp only
          rw [assertExamSessionOpen_inMemory _ _ hmode]
          split <;> rfl
      | false =>
          have hgate := examSessionOpenInDatabase_completedAt event.invite event.turn
            store.database key
          cases hrun : examSessionOpenInDatabase event.invite event.turn store.database with
          | mk ended db =>
              rw [hrun] at hgate
              rcases hgate with hkept | ⟨hkey, hcompleted, hrejected⟩
              · exact .inl (by rw [assertExamSessionOpen_database hmode hrun]; exact hkept)
              · -- The exception is one of the request, so the call ends with it and the memory is
                -- not asked.
                cases hrejected
                have htry : tryDatabase ctx (examSessionOpenInDatabase event.invite event.turn)
                    store = (.error examTimeExpired, { store with database := db }) := by
                  unfold tryDatabase
                  rw [hmode, hrun]
                  rfl
                simp only
                unfold assertExamSessionOpen
                rw [bind_error htry]
                exact .inr ⟨hkey, trivial, trivial, hcompleted, rfl⟩

/-- A session that is completed again is completed. -/
theorem completed_of_completesAgain (h : CompletesAgain ctx store event) :
    ∃ t, completedAt store.database (inviteKey event.invite) = some t := by
  obtain ⟨-, -, -, -, row, hrow, hsome, -⟩ := h
  obtain ⟨t, ht⟩ := Option.isSome_iff_exists.mp hsome
  refine ⟨t, ?_⟩
  rw [completedAt_inviteKey, hrow]
  exact ht

/-- A completed session that is completed again gets the moment of the call. -/
theorem performSession_completesAgain (h : CompletesAgain ctx store event) :
    completedAt (performSession ctx event store).2.database (inviteKey event.invite)
      = some event.turn.now := by
  obtain ⟨hmode, hcall, hdate, hallows, row, hrow, -, htime⟩ := h
  have hensure := ensureExamSession_stored hdate hrow
  rcases examSessionOpenInDatabase_completes hensure hrow with
    ⟨-, -, db, hrun, hcomplete⟩ | ⟨hclosed | hearly, -⟩
  · rw [performSession_gate hmode hcall hrun, completedAt_completeExamSession hcomplete, if_pos rfl]
  · exact absurd hallows hclosed
  · rw [htime] at hearly
    cases hearly

/-- A call that changes the date of a completed row is one that completes it again, because the row
is there and its time is over. -/
theorem completesAgain_of_changed {key : String × String} {was : Int}
    (hwas : completedAt store.database key = some was)
    (hchanged : completedAt (performSession ctx event store).2.database key ≠ some was) :
    CompletesAgain ctx store event := by
  rcases performSession_completedAt ctx store event key with hkept | ⟨rfl, hmode, hcall, hnow, -⟩
  · rw [hkept] at hchanged
    exact absurd hwas hchanged
  · -- The row was there already, so the upsert has found it.
    rw [completedAt_inviteKey] at hwas
    obtain ⟨row, hrow, hcompleted⟩ := Option.bind_eq_some_iff.mp hwas
    by_cases hdate : EndIsDate event.invite event.turn
    · refine ⟨hmode, hcall, hdate, ?_⟩
      rcases examSessionOpenInDatabase_completes (ensureExamSession_stored hdate hrow) hrow with
        ⟨hallows, htime, -⟩ | ⟨-, answer, hrun⟩
      · exact ⟨hallows, row, hrow, by rw [hcompleted]; rfl, htime⟩
      · refine absurd ?_ hchanged
        rw [performSession_gate hmode hcall hrun, completedAt_inviteKey, hrow]
        exact hcompleted
    · -- Without an end that is a date, the upsert fails before anything is written.
      have hclip : Js.timeClip
          (event.turn.now + event.invite.exam.durationMinutes * 60 * 1000) = none :=
        Option.not_isSome_iff_eq_none.mp hdate
      have hensure : ensureExamSession event.invite event.turn store.database
          = (.error (.prisma .other), store.database) := by
        unfold ensureExamSession
        rw [hclip]
        rfl
      have hrun : examSessionOpenInDatabase event.invite event.turn store.database
          = (.error (.prisma .other), store.database) := bind_error hensure
      refine absurd ?_ hchanged
      rw [performSession_gate hmode hcall hrun, completedAt_inviteKey, hrow]
      exact hcompleted

/-- The completions so far are over before the calls come. -/
def CompletedBefore (store : Store) (events : List SessionEvent) : Prop :=
  ∀ key t, completedAt store.database key = some t → ∀ event ∈ events, t < event.turn.now

/-- What a call completes is completed before the later calls, because the clock has gone on by
then. -/
theorem CompletedBefore.step {events : List SessionEvent}
    (h : CompletedBefore store (event :: events))
    (hlater : ∀ later ∈ events, event.turn.now < later.turn.now) :
    CompletedBefore (performSession ctx event store).2 events := by
  intro key t hcompleted later hmem
  rcases performSession_completedAt ctx store event key with hkept | ⟨-, -, -, hnow, -⟩
  · rw [hkept] at hcompleted
    exact h key t hcompleted later (List.mem_cons_of_mem _ hmem)
  · rw [hnow] at hcompleted
    cases hcompleted
    exact hlater later hmem

end

/-! ### A run -/

/-- The completion of a session is written once in the part of the run from `store` on. -/
def KeepsCompletions (ctx : StoreContext) (start : Store) (events : List SessionEvent) : Prop :=
  ∀ before between after store store', events = before ++ between ++ after →
    (sessionMachine ctx).run start before = some store →
    (sessionMachine ctx).run store between = some store' →
    ∀ key t, completedAt store.database key = some t → completedAt store'.database key = some t

/-- The condition of a run holds of what follows its first call. -/
theorem KeepsCompletions.tail {ctx : StoreContext} {start : Store} {event : SessionEvent}
    {events : List SessionEvent} (h : KeepsCompletions ctx start (event :: events)) :
    KeepsCompletions ctx (performSession ctx event start).2 events := by
  rintro before between after store store' rfl hbefore hbetween key t hcompleted
  refine h (event :: before) between after store store' rfl ?_ hbetween key t hcompleted
  exact (Machine.run_cons_eq_some _ _ _ _).mpr ⟨_, rfl, hbefore⟩

/-- A run that never completes a session again keeps the completions. -/
theorem keeps_of_meets {ctx : StoreContext} (events : List SessionEvent) :
    ∀ {store store' : Store},
      (sessionMachine ctx).Meets (fun store event => ¬ CompletesAgain ctx store event) store
        events →
      (sessionMachine ctx).run store events = some store' →
      ∀ key t, completedAt store.database key = some t →
        completedAt store'.database key = some t := by
  intro store store' hmeets hrun key t hcompleted
  refine Machine.guarded_invariant (I := fun s => completedAt s.database key = some t)
    (fun s event s' hs hcondition hstep => ?_) events store store' hcompleted hmeets hrun
  cases hstep
  by_contra hchanged
  exact hcondition (completesAgain_of_changed hs hchanged)

/-- Each session is completed by a rejected call, and never again, exactly when no call comes when
the time of a completed session is over. -/
theorem completion_written_once_iff (ctx : StoreContext) (start : Store)
    (events : List SessionEvent)
    (htimes : events.Pairwise fun event later => event.turn.now < later.turn.now)
    (hstart : CompletedBefore start events) :
    (KeepsCompletions ctx start events ∧
      ∀ before event after store, events = before ++ event :: after →
        (sessionMachine ctx).run start before = some store →
        ∀ key t, completedAt store.database key = none →
          completedAt (performSession ctx event store).2.database key = some t →
          (performSession ctx event store).1 = .error examTimeExpired ∧ t = event.turn.now) ↔
    (sessionMachine ctx).Meets (fun store event => ¬ CompletesAgain ctx store event) start
      events := by
  constructor
  · rintro ⟨hkeeps, -⟩
    induction events generalizing start with
    | nil => trivial
    | cons event events ih =>
        obtain ⟨hlater, htimes⟩ := List.pairwise_cons.mp htimes
        refine ⟨fun hagain => ?_, fun store' hstep => ?_⟩
        · -- A second completion would have to keep the first moment, which is over.
          obtain ⟨t, hwas⟩ := completed_of_completesAgain hagain
          have hkept := hkeeps [] [event] events start _ rfl rfl rfl _ t hwas
          rw [performSession_completesAgain hagain] at hkept
          have hpast := hstart _ t hwas event List.mem_cons_self
          cases hkept
          exact absurd hpast (lt_irrefl _)
        · cases hstep
          exact ih _ htimes (hstart.step hlater) hkeeps.tail
  · intro hmeets
    refine ⟨?_, ?_⟩
    · rintro before between after store store' rfl hbefore hbetween
      rw [List.append_assoc] at hmeets
      exact keeps_of_meets between ((hmeets.after hbefore).2.after hbetween).1 hbetween
    · intro before event after store _ _ key t hnone hsome
      rcases performSession_completedAt ctx store event key with
        hkept | ⟨-, -, -, hnow, hrejected⟩
      · rw [hkept, hnone] at hsome
        cases hsome
      · rw [hnow] at hsome
        exact ⟨hrejected, (Option.some.inj hsome).symm⟩

/-- The candidate opens the workspace, and sends a draft when the hour is over. -/
def lateDraft : List SessionEvent :=
  [⟨sittingInvite, .getCandidateWorkspace, {}⟩,
    ⟨sittingInvite, .assertExamSessionOpen, { now := 3600000 }⟩]

/-- The editor sends another draft a second later. -/
def lateDrafts : List SessionEvent :=
  lateDraft ++ [⟨sittingInvite, .assertExamSessionOpen, { now := 3601000 }⟩]

/-- The store after the workspace is opened. -/
def openedStore : Store :=
  (performSession clockContext ⟨sittingInvite, .getCandidateWorkspace, {}⟩ arrivedStore).2

/-- The store after the first late draft. -/
def completedStore : Store :=
  (performSession clockContext ⟨sittingInvite, .assertExamSessionOpen, { now := 3600000 }⟩
    openedStore).2

/-- One late draft completes the session, once: no call of this run completes a row that is
completed already. -/
theorem completion_written_once_iff_late :
    KeepsCompletions clockContext arrivedStore lateDraft := by
  have hstart : CompletedBefore arrivedStore lateDraft := by
    intro key t hcompleted
    have hrows : arrivedStore.database.examSessions.rows = [] := by decide +kernel
    unfold completedAt Table.findFirst at hcompleted
    rw [hrows] at hcompleted
    cases hcompleted
  have hmeets : (sessionMachine clockContext).Meets
      (fun store event => ¬ CompletesAgain clockContext store event) arrivedStore lateDraft := by
    refine ⟨fun hagain => ?_, fun store hstore => ⟨fun hagain => ?_, fun _ _ => trivial⟩⟩
    · obtain ⟨t, ht⟩ := completed_of_completesAgain hagain
      have hnone : completedAt arrivedStore.database ("cand_1", "exam_1") = none := by
        decide +kernel
      rw [show completedAt arrivedStore.database ("cand_1", "exam_1") = some t from ht] at hnone
      cases hnone
    · cases hstore
      obtain ⟨t, ht⟩ := completed_of_completesAgain hagain
      have hnone : completedAt openedStore.database ("cand_1", "exam_1") = none := by
        decide +kernel
      rw [show completedAt openedStore.database ("cand_1", "exam_1") = some t from ht] at hnone
      cases hnone
  exact ((completion_written_once_iff clockContext arrivedStore lateDraft (by decide) hstart).mpr
    hmeets).1

/-- The second late draft moves the completion of the session. -/
theorem second_late_draft_moves_completion :
    completedAt completedStore.database ("cand_1", "exam_1") = some 3600000 ∧
      ¬ KeepsCompletions clockContext arrivedStore lateDrafts := by
  have hfirst : completedAt completedStore.database ("cand_1", "exam_1") = some 3600000 := by
    decide +kernel
  refine ⟨hfirst, fun hkeeps => ?_⟩
  have hkept := hkeeps lateDraft [⟨sittingInvite, .assertExamSessionOpen, { now := 3601000 }⟩] []
    completedStore _ rfl rfl rfl _ _ hfirst
  have hsecond : completedAt (performSession clockContext
      ⟨sittingInvite, .assertExamSessionOpen, { now := 3601000 }⟩ completedStore).2.database
        ("cand_1", "exam_1") = some 3601000 := by decide +kernel
  rw [hsecond] at hkept
  cases hkept

end Dcvp.Proofs
