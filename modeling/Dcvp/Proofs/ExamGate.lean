import Dcvp.Lib.StableSort
import Dcvp.Proofs.StorePaths
import Dcvp.Services.PlatformStore.ExamGate

/-!
# `Dcvp.Proofs.ExamGate`: what the gate of an exam session answers

`gateAnswer` is the answer of the gate on the newest action that pauses, resumes or terminates,
and on the end of the session. `assertExamSessionOpen_fst` says that `assertExamSessionOpen` gives
this answer on the history of a candidate, newest first, on the database as well as on the memory,
as long as a session is stored.

The rules of the two paths are written differently. The database selects the blocking actions
and sorts them. The memory does the same, on an array that is sorted already. Both come to the
first blocking action of the history (`latestMemoryBlockingAction_eq`,
`latestBlockingAction_eq`).
-/

set_option autoImplicit false

namespace Dcvp.Proofs

open Dcvp.Lib
open Dcvp.Lib.Computation
open Dcvp.Shared
open Dcvp.Services.PlatformStore

/-! ### The answer -/

/-- The seconds that `remainingSeconds` counts are over. -/
def timeOver (endsAt : Option Int) (now : Int) : Bool :=
  match remainingSeconds endsAt now with
  | some remaining => decide (remaining ≤ 0)
  | none => false

/-- The answer of the gate, for the newest of the actions that pause, resume or terminate, and for
the end of the session. -/
def gateAnswer (latest : Option ProctorAction) (endsAt : Option Int) (now : Int) :
    Except ServiceException Unit := do
  assertProctorActionAllowsExam latest
  if timeOver endsAt now then .error examTimeExpired else .ok ()

/-- The actions on a candidate on the path that the store uses, in the order in which the
workspace shows them. -/
def actionsOn (ctx : StoreContext) (store : Store) (candidateId : String) : List ProctorAction :=
  if store.usesMemory ctx then
    store.memory.proctorActions.filter (·.candidateId = candidateId)
  else
    (orderByDesc (·.createdAt) (store.database.proctorActions.rows.filter
      (·.candidateId = candidateId))).map mapProctorAction

/-- The session of a candidate in an exam, in the memory. -/
def memorySession (memory : PlatformMemory) (invite : CandidateInvite) : Option ExamSession :=
  memory.examSessions.find? fun session =>
    session.candidateId = invite.candidate.id ∧ session.examId = invite.exam.id

/-- The row of a candidate in an exam. -/
def sessionRow (db : PlatformDatabase) (invite : CandidateInvite) : Option ExamSessionRow :=
  db.examSessions.findFirst fun session =>
    session.key = (invite.candidate.id, invite.exam.id)

/-- When the session ends that is stored on the path that the store uses. The end is `none` when
its text is no date. -/
def storedEnd (ctx : StoreContext) (store : Store) (invite : CandidateInvite) :
    Option (Option Int) :=
  if store.usesMemory ctx then
    (memorySession store.memory invite).map fun session => ctx.dateParse session.endsAt
  else (sessionRow store.database invite).map fun session => some session.endsAt

/-- The text order of the dates, newest first. -/
def NewestFirst (ctx : PlatformContext) (actions : List ProctorAction) : Prop :=
  actions.Pairwise fun left right =>
    (ctx.localeCompare right.createdAt left.createdAt).isLE = true

instance (ctx : PlatformContext) (actions : List ProctorAction) :
    Decidable (NewestFirst ctx actions) := inferInstanceAs (Decidable (List.Pairwise _ actions))

/-- The moment at which a session would end that starts now is a date. -/
def EndIsDate (invite : CandidateInvite) (turn : PlatformInput) : Prop :=
  (Js.timeClip (turn.now + invite.exam.durationMinutes * 60 * 1000)).isSome = true

instance (invite : CandidateInvite) (turn : PlatformInput) : Decidable (EndIsDate invite turn) :=
  inferInstanceAs (Decidable (_ = true))

/-- The seconds are over as soon as less than one of them is left. -/
theorem timeOver_iff (endsAt : Option Int) (now : Int) :
    timeOver endsAt now = true ↔ ∃ e, endsAt = some e ∧ e - now < 1000 := by
  cases endsAt with
  | none =>
      constructor
      · intro h
        cases h
      · rintro ⟨e, he, -⟩
        cases he
  | some e =>
      show decide (((max 0 ((e - now) / 1000) : Int) : Rat) ≤ 0) = true ↔ _
      rw [decide_eq_true_iff, Rat.intCast_nonpos]
      constructor
      · intro h
        exact ⟨e, rfl, by omega⟩
      · rintro ⟨e', he', hlt⟩
        cases he'
        omega

/-! ### The memory -/

section
variable {ctx : StoreContext} {store : Store} {invite : CandidateInvite} {turn : PlatformInput}

/-- The first blocking action of a history that is sorted already: the stable sort of the source
changes nothing. -/
theorem latestMemoryBlockingAction_eq {actions : List ProctorAction}
    (hnewest : NewestFirst ctx.toPlatformContext
      (actions.filter (·.candidateId = invite.candidate.id))) :
    latestMemoryBlockingAction ctx.toPlatformContext invite actions
      = (actions.filter (·.candidateId = invite.candidate.id)).find? (isBlocking ·.type) := by
  have hselect : actions.filter (fun action =>
        decide (action.candidateId = invite.candidate.id) && isBlocking action.type)
      = (actions.filter (·.candidateId = invite.candidate.id)).filter (isBlocking ·.type) := by
    rw [List.filter_filter]
    exact List.filter_congr fun action _ => Bool.and_comm _ _
  have hsorted := hnewest.sublist (List.filter_sublist (p := fun action => isBlocking action.type))
  unfold latestMemoryBlockingAction
  rw [hselect]
  unfold sortByNewest
  rw [List.mergeSort_of_pairwise hsorted, List.head?_filter]

/-- The gate on the memory, when a session is stored: it answers by the latest action and the end
of this session. -/
theorem assertExamSessionOpenInStore_stored {actions : List ProctorAction}
    {sessions : List ExamSession} {session : ExamSession}
    (hsession : (sessions.find? fun session =>
      session.candidateId = invite.candidate.id ∧ session.examId = invite.exam.id)
        = some session) :
    assertExamSessionOpenInStore ctx.toPlatformContext actions sessions invite turn
      = (gateAnswer (latestMemoryBlockingAction ctx.toPlatformContext invite actions)
          (ctx.dateParse session.endsAt) turn.now).map fun _ => sessions := by
  unfold assertExamSessionOpenInStore ensureMemoryExamSession gateAnswer timeOver
  rw [hsession]
  -- A stored session is returned as it is, so what is left is the action and the time, in the order
  -- of `gateAnswer`.
  show (assertProctorActionAllowsExam _ >>= fun _ => _) = _
  cases assertProctorActionAllowsExam
      (latestMemoryBlockingAction ctx.toPlatformContext invite actions) with
  | error error => rfl
  | ok _ =>
      have hremaining : (withRemainingSeconds ctx.toPlatformContext session turn).remainingSeconds
          = remainingSeconds (ctx.dateParse session.endsAt) turn.now := rfl
      show (match (withRemainingSeconds ctx.toPlatformContext session turn).remainingSeconds with
        | some remaining =>
            if remaining ≤ 0 then
              (.error examTimeExpired : Except ServiceException (List ExamSession))
            else .ok sessions
        | none => .ok sessions) = _
      rw [hremaining]
      cases remainingSeconds (ctx.dateParse session.endsAt) turn.now with
      | none => rfl
      | some remaining =>
          by_cases h : remaining ≤ 0
          · simp only [h, if_true]
            rfl
          · simp only [h, if_false]
            rfl

/-- The same from the history of actions, when it is sorted. -/
theorem assertExamSessionOpenInStore_eq {actions : List ProctorAction}
    {sessions : List ExamSession} {session : ExamSession}
    (hnewest : NewestFirst ctx.toPlatformContext
      (actions.filter (·.candidateId = invite.candidate.id)))
    (hsession : (sessions.find? fun session =>
      session.candidateId = invite.candidate.id ∧ session.examId = invite.exam.id)
        = some session) :
    assertExamSessionOpenInStore ctx.toPlatformContext actions sessions invite turn
      = (gateAnswer ((actions.filter (·.candidateId = invite.candidate.id)).find? (isBlocking ·.type))
          (ctx.dateParse session.endsAt) turn.now).map fun _ => sessions := by
  rw [assertExamSessionOpenInStore_stored hsession, latestMemoryBlockingAction_eq hnewest]

/-! ### The database -/

variable {db : PlatformDatabase}

/-- The first blocking action of the sorted rows. The sort is stable, so it does not matter that
the query selects first. -/
theorem latestBlockingAction_eq (t : PlatformTables) :
    t.latestBlockingAction invite
      = ((orderByDesc (·.createdAt) (t.proctorActions.rows.filter
          (·.candidateId = invite.candidate.id))).map mapProctorAction).find?
            (isBlocking ·.type) := by
  have hselect : t.proctorActions.rows.filter (fun row =>
        decide (row.candidateId = invite.candidate.id) && isBlocking row.type)
      = (t.proctorActions.rows.filter (·.candidateId = invite.candidate.id)).filter
          (isBlocking ·.type) := by
    rw [List.filter_filter]
    exact List.filter_congr fun row _ => Bool.and_comm _ _
  have : IsTrans ProctorActionRow fun left right => right.createdAt ≤ left.createdAt :=
    ⟨fun _ _ _ h h' => h'.trans h⟩
  have : Std.Total fun left right : ProctorActionRow => right.createdAt ≤ left.createdAt :=
    ⟨fun left right => Int.le_total right.createdAt left.createdAt⟩
  unfold PlatformTables.latestBlockingAction orderByDesc
  rw [hselect, head?_insertionSort_filter, List.find?_map]
  rfl

/-- What `ensureExamSession` answers for the row that it has read. -/
def sessionAnswer (turn : PlatformInput) :
    Option ExamSessionRow → Except ServiceException ExamSession
  | some session => .ok (mapExamSession session turn.now)
  | none => .error (.prisma .other)

/-- Where the end is a date, the session is upserted and read again. -/
theorem ensureExamSession_eq {endsAt : Int}
    (hend : Js.timeClip (turn.now + invite.exam.durationMinutes * 60 * 1000) = some endsAt) :
    ensureExamSession invite turn = (do
      updates fun db => db.upsertExamSession
        ⟨turn.createId "session" 0, invite.candidate.id, invite.exam.id, turn.now, endsAt, none,
          turn.now⟩
      reads fun db => sessionAnswer turn (sessionRow db invite)) := by
  unfold ensureExamSession
  rw [hend]
  rfl

/-- A session that is stored is found, and nothing is written. -/
theorem ensureExamSession_stored {row : ExamSessionRow} (hdate : EndIsDate invite turn)
    (hrow : sessionRow db invite = some row) :
    ensureExamSession invite turn db = (.ok (mapExamSession row turn.now), db) := by
  obtain ⟨endsAt, hendsAt⟩ := Option.isSome_iff_exists.mp hdate
  have hfind : ∀ (id : String) (startedAt endsAt createdAt : Int),
      (db.examSessions.findFirst fun session => session.key = ExamSessionRow.key
        ⟨id, invite.candidate.id, invite.exam.id, startedAt, endsAt, none, createdAt⟩)
        = some row := fun _ _ _ _ => hrow
  unfold ensureExamSession
  rw [hendsAt]
  simp only [bind_apply, updates, reads, PlatformDatabase.upsertExamSession, hfind]

/-- The update of a session that is there succeeds. It changes no key. -/
theorem completeExamSession_ok {key : String × String} {row : ExamSessionRow}
    (hrow : (db.examSessions.findFirst fun session => session.key = key) = some row)
    (completedAt : Int) :
    ∃ db', db.completeExamSession key completedAt = .ok db' := by
  set sessions := db.examSessions.updateMany (fun session => session.key = key)
    (fun session => { session with completedAt := some completedAt }) (fun _ => rfl)
    with hsessions
  obtain ⟨horganizations, hcandidates, hsessionKeys, hrest⟩ := db.unique
  obtain ⟨hcontent, ⟨⟨hcandidate, hexam⟩, hrelations⟩, hothers⟩ := db.related
  -- The update writes a column that no constraint mentions.
  have hkeys : sessions.rows.map ExamSessionRow.key = db.examSessions.rows.map ExamSessionRow.key :=
    Table.map_updated fun _ => rfl
  have hunique : PlatformTables.UniqueColumns
      { db.toPlatformTables with examSessions := sessions } := by
    refine ⟨horganizations, hcandidates, ?_, hrest⟩
    show (sessions.rows.map ExamSessionRow.key).Nodup
    rw [hkeys]
    exact hsessionKeys
  have hcandidate' : References sessions ExamSessionRow.candidateId db.candidates :=
    hcandidate.of_map (Table.map_updated fun _ => rfl)
  have hexam' : References sessions ExamSessionRow.examId db.exams :=
    hexam.of_map (Table.map_updated fun _ => rfl)
  have hrelated : PlatformTables.ForeignKeys
      { db.toPlatformTables with examSessions := sessions } :=
    ⟨hcontent, ⟨⟨hcandidate', hexam'⟩, hrelations⟩, hothers⟩
  refine ⟨⟨_, hunique, hrelated⟩, ?_⟩
  unfold PlatformDatabase.completeExamSession
  rw [hrow]
  exact PlatformDatabase.commit_ok hunique hrelated

/-- The gate on the database, when the session is there. An expired one is completed. -/
theorem examSessionOpenInDatabase_ensured {db' : PlatformDatabase} {row : ExamSessionRow}
    (hensure : ensureExamSession invite turn db = (.ok (mapExamSession row turn.now), db'))
    (hrow : sessionRow db' invite = some row) :
    ∃ db'', examSessionOpenInDatabase invite turn db
        = (gateAnswer (db'.latestBlockingAction invite) (some row.endsAt) turn.now, db'') ∧
      (db'' = db' ∨
        db'.completeExamSession (invite.candidate.id, invite.exam.id) turn.now = .ok db'') := by
  have hexpired : isExpired (mapExamSession row turn.now)
      = timeOver (some row.endsAt) turn.now := rfl
  obtain ⟨completed, hcomplete⟩ := completeExamSession_ok hrow turn.now
  unfold examSessionOpenInDatabase gateAnswer
  rw [bind_ok hensure, look_bind, reads_bind]
  cases assertProctorActionAllowsExam (db'.latestBlockingAction invite) with
  | error error => exact ⟨db', rfl, .inl rfl⟩
  | ok _ =>
      simp only [hexpired]
      cases timeOver (some row.endsAt) turn.now with
      | false => exact ⟨db', rfl, .inl rfl⟩
      | true =>
          refine ⟨completed, ?_, .inr hcomplete⟩
          simp only [if_true]
          rw [updates_bind_ok hcomplete]
          rfl

/-- The gate on the database, when a session is stored. -/
theorem examSessionOpenInDatabase_fst {row : ExamSessionRow} (hdate : EndIsDate invite turn)
    (hrow : sessionRow db invite = some row) :
    (examSessionOpenInDatabase invite turn db).1
      = gateAnswer (((orderByDesc (·.createdAt) (db.proctorActions.rows.filter
          (·.candidateId = invite.candidate.id))).map mapProctorAction).find?
            (isBlocking ·.type)) (some row.endsAt) turn.now := by
  obtain ⟨db', hrun, -⟩ :=
    examSessionOpenInDatabase_ensured (ensureExamSession_stored hdate hrow) hrow
  rw [hrun, latestBlockingAction_eq]

end

/-- A rejection of the gate is an exception for the caller, on both paths. -/
theorem isRequestException_gateAnswer {latest : Option ProctorAction} {endsAt : Option Int}
    {now : Int} {error : ServiceException} (h : gateAnswer latest endsAt now = .error error) :
    isRequestException error = true := by
  unfold gateAnswer assertProctorActionAllowsExam at h
  split at h
  · cases h
    rfl
  · cases h
    rfl
  · change (if timeOver endsAt now then Except.error examTimeExpired else Except.ok ()) = _ at h
    split at h
    · cases h
      rfl
    · cases h

/-- The gate answers alike on both paths: from the history of actions and the end of the
session. -/
theorem assertExamSessionOpen_fst {ctx : StoreContext} {store : Store} {invite : CandidateInvite}
    {turn : PlatformInput} {endsAt : Option Int}
    (hend : storedEnd ctx store invite = some endsAt)
    (hnewest : store.usesMemory ctx = true →
      NewestFirst ctx.toPlatformContext (actionsOn ctx store invite.candidate.id))
    (hdate : EndIsDate invite turn) :
    (assertExamSessionOpen ctx invite turn store).1
      = gateAnswer ((actionsOn ctx store invite.candidate.id).find? (isBlocking ·.type)) endsAt
          turn.now := by
  unfold assertExamSessionOpen
  rw [bind_apply]
  unfold tryDatabase
  cases hmem : store.usesMemory ctx with
  | true =>
      have hactions : actionsOn ctx store invite.candidate.id
          = store.memory.proctorActions.filter (·.candidateId = invite.candidate.id) := by
        unfold actionsOn
        rw [hmem]
        rfl
      have hnewest' := hnewest hmem
      rw [hactions] at hnewest' ⊢
      unfold storedEnd at hend
      rw [hmem] at hend
      -- On the memory path the stored end is a text of the session, and it is parsed.
      obtain ⟨session, hsession, rfl⟩ := Option.map_eq_some_iff.mp hend
      have hopen : assertExamSessionOpenInStore ctx.toPlatformContext store.memory.proctorActions
          store.memory.examSessions invite turn = _ :=
        assertExamSessionOpenInStore_eq hnewest' hsession
      simp only [if_true, bind_apply, reads, hopen]
      cases gateAnswer ((store.memory.proctorActions.filter
          (·.candidateId = invite.candidate.id)).find? (isBlocking ·.type))
          (ctx.dateParse session.endsAt) turn.now with
      | error error => rfl
      | ok _ => rfl
  | false =>
      unfold storedEnd at hend
      rw [hmem] at hend
      -- In the database the end is a column.
      obtain ⟨row, hrow, rfl⟩ := Option.map_eq_some_iff.mp hend
      have hgate := examSessionOpenInDatabase_fst hdate hrow
      have hactions : actionsOn ctx store invite.candidate.id
          = (orderByDesc (·.createdAt) (store.database.proctorActions.rows.filter
            (·.candidateId = invite.candidate.id))).map mapProctorAction := by
        unfold actionsOn
        rw [hmem]
        rfl
      rw [hactions]
      cases hrun : examSessionOpenInDatabase invite turn store.database with
      | mk answer db =>
          rw [hrun] at hgate
          cases answer with
          | ok _ => exact hgate
          | error error =>
              -- An exception of the gate is one of the request, so the memory is not asked.
              have hrequest := isRequestException_gateAnswer hgate.symm
              simp only [Bool.false_eq_true, if_false, hrequest, if_true]
              exact hgate

/-! ### The workspace -/

/-- The session that a workspace on the memory shows is stored, and its clock is that of the
server. -/
theorem ensureMemoryExamSession_ok {ctx : PlatformContext} {sessions sessions' : List ExamSession}
    {invite : CandidateInvite} {turn : PlatformInput} {session : ExamSession}
    (h : ensureMemoryExamSession ctx sessions invite turn = .ok (session, sessions')) :
    session.serverNow = turn.nowIso ∧
      ∃ stored, (sessions'.find? fun session =>
        session.candidateId = invite.candidate.id ∧ session.examId = invite.exam.id)
          = some stored ∧ stored.endsAt = session.endsAt := by
  unfold ensureMemoryExamSession at h
  cases hfind : sessions.find? fun session =>
      session.candidateId = invite.candidate.id ∧ session.examId = invite.exam.id with
  | some existing =>
      simp only [hfind] at h
      cases h
      exact ⟨rfl, existing, hfind, rfl⟩
  | none =>
      simp only [hfind] at h
      obtain ⟨endsAt, -, h⟩ := bind_eq_ok.mp h
      cases h
      exact ⟨rfl, _, by simp, rfl⟩

/-- The session that a workspace on the database shows is that of the row. -/
theorem ensureExamSession_ok {db db' : PlatformDatabase} {invite : CandidateInvite}
    {turn : PlatformInput} {session : ExamSession}
    (h : ensureExamSession invite turn db = (.ok session, db')) :
    ∃ row, sessionRow db' invite = some row ∧ session = mapExamSession row turn.now := by
  cases hclip : Js.timeClip (turn.now + invite.exam.durationMinutes * 60 * 1000) with
  | none =>
      unfold ensureExamSession at h
      rw [hclip] at h
      cases h
  | some endsAt =>
      rw [ensureExamSession_eq hclip] at h
      obtain ⟨-, db₁, -, hread⟩ := bind_returns.mp h
      obtain ⟨hanswer, rfl⟩ := reads_returns.mp hread
      -- The read after the upsert finds the row of the key.
      cases hrow : sessionRow db' invite with
      | none =>
          rw [hrow] at hanswer
          cases hanswer
      | some row =>
          rw [hrow] at hanswer
          cases hanswer
          exact ⟨row, rfl, rfl⟩

/-- What a workspace shows: the newest action first, the server's clock, and the end of the
session that is stored then. -/
theorem readCandidateWorkspace_ok {ctx : StoreContext} {store store' : Store}
    {invite : CandidateInvite} {turn : PlatformInput} {workspace : CandidateWorkspace}
    (h : readCandidateWorkspace ctx invite turn store = (.ok workspace, store')) :
    workspace.proctorActions.head? = (actionsOn ctx store' invite.candidate.id).head? ∧
      workspace.examSession.serverNow = turn.nowIso ∧
      ((∃ session, memorySession store'.memory invite = some session ∧
          session.endsAt = workspace.examSession.endsAt ∧ store'.usesMemory ctx = true) ∨
        ∃ row, sessionRow store'.database invite = some row ∧
          Js.toISOString row.endsAt = workspace.examSession.endsAt ∧
          store'.usesMemory ctx = false) := by
  -- The memory path, from a store that uses its memory.
  have hmemory : ∀ between : Store, between.usesMemory ctx = true →
      (do
        let result ← reads fun store => getCandidateWorkspaceInStore ctx.toPlatformContext
          store.memory.candidateWorkspaceMemoryState invite turn
        updates fun store =>
          .ok (store.withMemory { store.memory with examSessions := result.2 })
        pure result.1 : StoreOperation CandidateWorkspace) between = (.ok workspace, store') →
      workspace.proctorActions.head? = (actionsOn ctx store' invite.candidate.id).head? ∧
        workspace.examSession.serverNow = turn.nowIso ∧
        ∃ session, memorySession store'.memory invite = some session ∧
          session.endsAt = workspace.examSession.endsAt ∧ store'.usesMemory ctx = true := by
    intro between hmode hrun
    rw [bind_apply] at hrun
    cases hget : getCandidateWorkspaceInStore ctx.toPlatformContext
        between.memory.candidateWorkspaceMemoryState invite turn with
    | error error =>
        simp only [reads, hget] at hrun
        cases hrun
    | ok result =>
        simp only [reads, hget, bind_apply, updates, pure_apply] at hrun
        cases hrun
        obtain ⟨⟨session, sessions⟩, hensure, hresult⟩ := bind_eq_ok.mp hget
        cases hresult
        obtain ⟨hclock, stored, hstored, hends⟩ := ensureMemoryExamSession_ok hensure
        refine ⟨?_, hclock, stored, hstored, hends, hmode⟩
        unfold actionsOn
        have hmode' : (between.withMemory { between.memory with
            examSessions := sessions }).usesMemory ctx = true := hmode
        rw [hmode']
        rfl
  unfold readCandidateWorkspace at h
  rw [bind_apply] at h
  split at h
  · rename_i answer between hanswer
    rcases tryDatabase_ok hanswer with ⟨workspace', db, hrun, rfl, rfl, hmode⟩ | ⟨rfl, hmode, -⟩
    · cases h
      rw [bind_apply] at hrun
      split at hrun
      · rename_i session db' hensure
        obtain ⟨row, hrow, rfl⟩ := ensureExamSession_ok hensure
        cases hrun
        have hmode' : Store.usesMemory ctx { store with database := db } = false := hmode
        refine ⟨?_, rfl, .inr ⟨row, hrow, rfl, hmode'⟩⟩
        unfold actionsOn
        rw [hmode']
        show (List.map mapProctorAction (List.take 20 _)).head? = (List.map mapProctorAction _).head?
        rw [List.head?_map, List.head?_map, List.head?_take]
        rfl
      · cases hrun
    · obtain ⟨hactions, hclock, hsession⟩ := hmemory between hmode h
      exact ⟨hactions, hclock, .inl hsession⟩
  · cases h

end Dcvp.Proofs
