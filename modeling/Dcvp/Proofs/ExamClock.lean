import Dcvp.Proofs.TimeLimit

/-!
# `Dcvp.Proofs.ExamClock`: the clock of a session on the two paths

One candidate sits one exam: the workspace is opened, drafts, runs and submissions go through
the gate, and proctors act. The same calls at the same times go to a store that uses its memory
and to one that uses its database. `Alike` relates the two: the same actions, and the same clock
or none.

A call of the gate opens the session before it looks at the actions. When it is rejected then,
the database has the session and the memory has not. `paths_alike` is about the runs in which
that does not happen (`KeepsAlike`). The calls are accepted alike, and the clocks stay the same.
-/

set_option autoImplicit false

namespace Dcvp.Proofs

open Dcvp.Lib
open Dcvp.Lib.Computation
open Dcvp.Shared
open Dcvp.Services.PlatformStore
open Dcvp.Web

/-! ### The calls on one candidate -/

/-- What happens to a candidate in an exam. A draft, a run and a submission are one case: they
come to the gate. -/
inductive SittingCall where
  | getCandidateWorkspace
  | assertExamSessionOpen
  | createProctorAction (input : CreateProctorActionInput)

/-- A call, with the turn that it gets. -/
structure SittingEvent where
  call : SittingCall
  turn : PlatformInput

/-- The last operation of `createProctorAction`, when the candidate is found. -/
def recordProctorAction (ctx : StoreContext) (invite : CandidateInvite)
    (input : CreateProctorActionInput) (turn : PlatformInput) : StoreOperation ProctorAction :=
  orOnMemory
    (tryDatabase ctx
      (createProctorActionInDatabase invite.candidate.id invite.exam.id input turn))
    fun memory =>
      let action := newProctorAction invite.candidate.id invite.exam.id input turn
      .ok (action, { memory with proctorActions := action :: memory.proctorActions })

/-- One call. -/
def performSitting (ctx : StoreContext) (invite : CandidateInvite) (event : SittingEvent) :
    StoreOperation Unit :=
  match event.call with
  | .getCandidateWorkspace =>
      (fun _ => ()) <$> readCandidateWorkspace ctx invite event.turn
  | .assertExamSessionOpen => assertExamSessionOpen ctx invite event.turn
  | .createProctorAction input =>
      (fun _ => ()) <$> recordProctorAction ctx invite input event.turn

/-- The machine of the calls on one candidate. -/
def sittingMachine (ctx : StoreContext) (invite : CandidateInvite) :
    Machine Store SittingEvent :=
  ⟨fun store event => some (performSitting ctx invite event store).2⟩

/-! ### Rows that are created -/

/-- The row of an action that a proctor makes now. -/
def recordedRow (invite : CandidateInvite) (input : CreateProctorActionInput)
    (turn : PlatformInput) : ProctorActionRow where
  id := turn.createId "proctor_action" 0
  candidateId := invite.candidate.id
  examId := invite.exam.id
  type := input.type
  message := input.message
  createdAt := turn.now

section
variable {db : PlatformDatabase}

/-- A new record of a candidate in an exam keeps the relations, if both rows that it names are
there. -/
theorem candidateRecords_insert {t : PlatformTables} {ρ : Type} {key : ρ → String}
    {table table' : Table key} {candidateId examId : ρ → String} {row : ρ}
    (hinsert : table.insert? row = some table')
    (hcandidate : t.candidates.find? (candidateId row) ≠ none)
    (hexam : t.exams.find? (examId row) ≠ none)
    (h : t.CandidateRecords table candidateId examId) :
    t.CandidateRecords table' candidateId examId := by
  have hrows := Table.rows_insert? hinsert
  constructor
  · intro r hr
    rw [hrows] at hr
    rcases List.mem_append.mp hr with hold | hnew
    · exact h.1 r hold
    · rw [List.mem_singleton.mp hnew]
      exact hcandidate
  · intro r hr
    rw [hrows] at hr
    rcases List.mem_append.mp hr with hold | hnew
    · exact h.2 r hold
    · rw [List.mem_singleton.mp hnew]
      exact hexam

/-- A session of a candidate that has none is created: its identifier is free, its candidate and
exam are there, and the pair of them is unique. -/
theorem upsertExamSession_ok (row : ExamSessionRow)
    (hnone : (db.examSessions.findFirst fun session => session.key = row.key) = none)
    (hfree : db.examSessions.find? row.id = none)
    (hcandidate : db.candidates.find? row.candidateId ≠ none)
    (hexam : db.exams.find? row.examId ≠ none) :
    ∃ db' examSessions, db.upsertExamSession row = .ok db' ∧
      db.examSessions.insert? row = some examSessions ∧
      db'.toPlatformTables = { db.toPlatformTables with examSessions } := by
  obtain ⟨examSessions, hinsert⟩ := Table.insert?_of_free hfree
  obtain ⟨horganizations, hcandidates, hsessions, hrest⟩ := db.unique
  obtain ⟨hcontent, ⟨hrecords, hrelations⟩, hothers⟩ := db.related
  -- No row has this pair of candidate and exam yet, so the unique column stays one.
  have hkeys : (examSessions.rows.map ExamSessionRow.key).Nodup := by
    rw [Table.rows_insert? hinsert, List.map_append, List.nodup_append]
    refine ⟨hsessions, List.nodup_singleton _, ?_⟩
    intro key hkey key' hkey' heq
    obtain ⟨r, hr, rfl⟩ := List.mem_map.mp hkey
    rw [List.map_singleton, List.mem_singleton] at hkey'
    have hnot := List.find?_eq_none.mp hnone r hr
    exact hnot (by simpa using heq.trans hkey')
  have hunique : PlatformTables.UniqueColumns
      { db.toPlatformTables with examSessions } :=
    ⟨horganizations, hcandidates, hkeys, hrest⟩
  have hrelated : PlatformTables.ForeignKeys { db.toPlatformTables with examSessions } :=
    ⟨hcontent, ⟨candidateRecords_insert hinsert hcandidate hexam hrecords, hrelations⟩, hothers⟩
  refine ⟨⟨_, hunique, hrelated⟩, examSessions, ?_, hinsert, rfl⟩
  unfold PlatformDatabase.upsertExamSession PlatformDatabase.create
  rw [hnone, hinsert]
  exact PlatformDatabase.commit_ok hunique hrelated

/-- An action on a candidate is created: its identifier is free, and its candidate and exam are
there. -/
theorem createProctorAction_ok (row : ProctorActionRow)
    (hfree : db.proctorActions.find? row.id = none)
    (hcandidate : db.candidates.find? row.candidateId ≠ none)
    (hexam : db.exams.find? row.examId ≠ none) :
    ∃ db' proctorActions,
      (PlatformDatabase.create db.proctorActions row fun proctorActions =>
        { db.toPlatformTables with proctorActions }) = .ok db' ∧
      db.proctorActions.insert? row = some proctorActions ∧
      db'.toPlatformTables = { db.toPlatformTables with proctorActions } := by
  obtain ⟨proctorActions, hinsert⟩ := Table.insert?_of_free hfree
  obtain ⟨hcontent, ⟨hsession, hdrafts, hquestions, hlogs, hevents, hdevices, hrecords⟩, hothers⟩ :=
    db.related
  have hrelated : PlatformTables.ForeignKeys { db.toPlatformTables with proctorActions } :=
    ⟨hcontent, ⟨hsession, hdrafts, hquestions, hlogs, hevents, hdevices,
      candidateRecords_insert hinsert hcandidate hexam hrecords⟩, hothers⟩
  have hunique : PlatformTables.UniqueColumns { db.toPlatformTables with proctorActions } :=
    db.unique
  refine ⟨⟨_, hunique, hrelated⟩, proctorActions, ?_, hinsert, rfl⟩
  unfold PlatformDatabase.create
  rw [hinsert]
  exact PlatformDatabase.commit_ok hunique hrelated

end

/-! ### The newest action -/

/-- An action, as far as the gate looks at it: its type, and when it was made. -/
abbrev ActionMark := ProctorActionType × Int

/-- The marks that pause, resume or terminate. -/
def blockingMarks (history : List ActionMark) : List ActionMark :=
  history.filter fun mark => isBlocking mark.1

section
variable {ctx : StoreContext} {invite : CandidateInvite} {history : List ActionMark}

/-- The array of the memory shows the history, newest first. -/
def ShowsHistory (invite : CandidateInvite) (history : List ActionMark)
    (actions : List ProctorAction) : Prop :=
  (actions.filter (·.candidateId = invite.candidate.id)).map
      (fun action => (action.type, action.createdAt))
    = history.map fun mark => (mark.1, Js.toISOString mark.2)

/-- The rows show the history, newest last. -/
def RowsShowHistory (invite : CandidateInvite) (history : List ActionMark)
    (rows : List ProctorActionRow) : Prop :=
  (rows.filter (·.candidateId = invite.candidate.id)).map (fun row => (row.type, row.createdAt))
    = history.reverse

/-- The types and times of a candidate's blocking actions are the blocking ones among the types and
times of all his actions. -/
theorem map_filter_blocking {α β : Type} (ofCandidate : α → Bool)
    (shown : α → ProctorActionType × β) {xs : List α} {marks : List (ProctorActionType × β)}
    (h : (xs.filter ofCandidate).map shown = marks) :
    (xs.filter fun x => ofCandidate x && isBlocking (shown x).1).map shown
      = marks.filter fun mark => isBlocking mark.1 := by
  rw [← h, List.filter_map, List.filter_filter]
  congr 1
  exact List.filter_congr fun x _ => Bool.and_comm _ _

/-- The type of the newest blocking action of the memory is that of the newest blocking mark of the
history. -/
theorem latestMemoryBlockingAction_type {actions : List ProctorAction}
    (hshows : ShowsHistory invite history actions)
    (horder : ∀ mark ∈ history, ∀ other ∈ history,
      ctx.localeCompare (Js.toISOString mark.2) (Js.toISOString other.2)
        = compare mark.2 other.2) :
    (latestMemoryBlockingAction ctx.toPlatformContext invite actions).map (·.type)
      = (((blockingMarks history).mergeSort fun left right =>
          decide (right.2 ≤ left.2)).head?).map (·.1) := by
  have hselect := map_filter_blocking (fun action : ProctorAction =>
    decide (action.candidateId = invite.candidate.id)) _ hshows
  rw [List.filter_map] at hselect
  have hblocking : (actions.filter fun action =>
        decide (action.candidateId = invite.candidate.id) && isBlocking action.type).map
          (fun action => (action.type, action.createdAt))
      = (blockingMarks history).map fun mark => (mark.1, Js.toISOString mark.2) := hselect
  -- The texts are in the order of the dates.
  have hsorted : ((blockingMarks history).mergeSort fun left right =>
        decide (right.2 ≤ left.2)).map (fun mark => (mark.1, Js.toISOString mark.2))
      = ((blockingMarks history).map fun mark => (mark.1, Js.toISOString mark.2)).mergeSort
          fun left right => (ctx.localeCompare right.2 left.2).isLE := by
    refine List.map_mergeSort fun left hleft right hright => ?_
    have hcompare := horder right (List.mem_of_mem_filter hright) left
      (List.mem_of_mem_filter hleft)
    simp only [hcompare]
    exact (Bool.eq_iff_iff.mpr (by rw [decide_eq_true_iff]; exact Int.isLE_compare.symm))
  unfold latestMemoryBlockingAction sortByNewest
  have hmapped : ((actions.filter fun action =>
        decide (action.candidateId = invite.candidate.id) && isBlocking action.type).mergeSort
          fun left right => (ctx.localeCompare right.createdAt left.createdAt).isLE).map
            (fun action => (action.type, action.createdAt))
      = ((blockingMarks history).map fun mark => (mark.1, Js.toISOString mark.2)).mergeSort
          fun left right => (ctx.localeCompare right.2 left.2).isLE := by
    rw [← hblocking]
    exact List.map_mergeSort fun _ _ _ _ => rfl
  rw [← hsorted] at hmapped
  have hhead := congrArg (fun marks => marks.head?.map (·.1)) hmapped
  simp only [List.head?_map, Option.map_map] at hhead
  exact hhead

/-- The type of the newest blocking action on the database is that of the newest blocking mark of
the history. -/
theorem latestBlockingAction_type {t : PlatformTables}
    (hshows : RowsShowHistory invite history t.proctorActions.rows) :
    (t.latestBlockingAction invite).map (·.type)
      = (((blockingMarks history).reverse.insertionSort fun left right =>
          right.2 ≤ left.2).head?).map (·.1) := by
  have hselect := map_filter_blocking (fun row : ProctorActionRow =>
    decide (row.candidateId = invite.candidate.id)) _ hshows
  rw [List.filter_reverse] at hselect
  unfold PlatformTables.latestBlockingAction orderByDesc
  have hmapped : ((t.proctorActions.rows.filter fun row =>
        decide (row.candidateId = invite.candidate.id) && isBlocking row.type).insertionSort
          fun left right => right.createdAt ≤ left.createdAt).map
            (fun row => (row.type, row.createdAt))
      = (blockingMarks history).reverse.insertionSort fun left right => right.2 ≤ left.2 := by
    refine (List.map_insertionSort _ (fun left right : ActionMark => right.2 ≤ left.2) _ _
      fun _ _ _ _ => Iff.rfl).trans ?_
    exact congrArg _ hselect
  rw [← hmapped, List.head?_map, Option.map_map, Option.map_map]
  rfl

/-- Both paths look at the same action, when the blocking ones were made at different times. -/
theorem latest_type_eq {actions : List ProctorAction} {t : PlatformTables}
    (hmemory : ShowsHistory invite history actions)
    (hdatabase : RowsShowHistory invite history t.proctorActions.rows)
    (horder : ∀ mark ∈ history, ∀ other ∈ history,
      ctx.localeCompare (Js.toISOString mark.2) (Js.toISOString other.2)
        = compare mark.2 other.2)
    (hdistinct : ((blockingMarks history).map Prod.snd).Nodup) :
    (latestMemoryBlockingAction ctx.toPlatformContext invite actions).map (·.type)
      = (t.latestBlockingAction invite).map (·.type) := by
  have : IsTrans ActionMark fun left right => right.2 ≤ left.2 := ⟨fun _ _ _ h h' => h'.trans h⟩
  have : Std.Total fun left right : ActionMark => right.2 ≤ left.2 :=
    ⟨fun left right => Int.le_total right.2 left.2⟩
  rw [latestMemoryBlockingAction_type hmemory horder, latestBlockingAction_type hdatabase]
  have hsame := mergeSort_eq_insertionSort_of_perm
    (fun left right : ActionMark => right.2 ≤ left.2)
    (List.reverse_perm (blockingMarks history)).symm fun left hleft right hright hle hge =>
      List.inj_on_of_nodup_map hdistinct hleft hright (le_antisymm hge hle)
  rw [hsame]

end

/-! ### One path at a time -/

section
variable {ctx : StoreContext} {invite : CandidateInvite} {turn : PlatformInput} {store : Store}

/-- The workspace on the memory: what is read comes with the session, which the call has started if
there was none. -/
theorem readCandidateWorkspace_inMemory (hmode : store.usesMemory ctx = true)
    {session : ExamSession} {sessions : List ExamSession}
    (hensure : ensureMemoryExamSession ctx.toPlatformContext store.memory.examSessions invite turn
      = .ok (session, sessions)) :
    ∃ workspace, readCandidateWorkspace ctx invite turn store
      = (.ok workspace, store.withMemory { store.memory with examSessions := sessions }) := by
  have htry : ∀ operation : DatabaseOperation CandidateWorkspace,
      tryDatabase ctx operation store = (.ok none, store) := by
    intro operation
    unfold tryDatabase
    rw [if_pos hmode]
  unfold readCandidateWorkspace
  rw [bind_ok (htry _)]
  simp only
  rw [reads_bind]
  unfold getCandidateWorkspaceInStore
  have hensure' : ensureMemoryExamSession ctx.toPlatformContext
      store.memory.candidateWorkspaceMemoryState.examSessions invite turn
        = .ok (session, sessions) := hensure
  rw [hensure']
  exact ⟨_, rfl⟩

/-- The gate on the memory is the function of the source, and the memory keeps the session that it
has started. -/
theorem assertExamSessionOpen_inMemory (invite : CandidateInvite) (turn : PlatformInput)
    (hmode : store.usesMemory ctx = true) :
    assertExamSessionOpen ctx invite turn store
      = match assertExamSessionOpenInStore ctx.toPlatformContext store.memory.proctorActions
          store.memory.examSessions invite turn with
        | .ok examSessions => (.ok (), store.withMemory { store.memory with examSessions })
        | .error error => (.error error, store) := by
  have htry : tryDatabase ctx (examSessionOpenInDatabase invite turn) store
      = (.ok none, store) := by
    unfold tryDatabase
    rw [if_pos hmode]
  unfold assertExamSessionOpen
  rw [bind_ok htry]
  simp only
  rw [reads_bind]
  cases assertExamSessionOpenInStore ctx.toPlatformContext store.memory.proctorActions
      store.memory.examSessions invite turn <;> rfl

/-- On the database path the workspace is read when the session is there or can be made, and only
that may write. -/
theorem readCandidateWorkspace_inDatabase (hmode : store.usesMemory ctx = false)
    {session : ExamSession} {db : PlatformDatabase}
    (hensure : ensureExamSession invite turn store.database = (.ok session, db)) :
    ∃ workspace, readCandidateWorkspace ctx invite turn store
      = (.ok workspace, { store with database := db }) := by
  have hoperation : (do
      let examSession ← ensureExamSession invite turn
      reads fun db => .ok (db.workspaceOf invite examSession) :
        DatabaseOperation CandidateWorkspace) store.database
      = (.ok (db.workspaceOf invite session), db) := bind_ok hensure
  have htry := tryDatabase_ran hmode hoperation
  unfold readCandidateWorkspace
  rw [bind_ok htry]
  exact ⟨_, rfl⟩

/-- The gate on the database passes its refusal on, because each of its refusals is an exception of
a request. -/
theorem assertExamSessionOpen_inDatabase (hmode : store.usesMemory ctx = false)
    {latest : Option ProctorAction} {endsAt : Option Int} {db : PlatformDatabase}
    (hopen : examSessionOpenInDatabase invite turn store.database
      = (gateAnswer latest endsAt turn.now, db)) :
    assertExamSessionOpen ctx invite turn store
      = (gateAnswer latest endsAt turn.now, { store with database := db }) := by
  unfold assertExamSessionOpen
  cases hanswer : gateAnswer latest endsAt turn.now with
  | ok _ =>
      rw [hanswer] at hopen
      rw [bind_ok (tryDatabase_ran hmode hopen)]
      rfl
  | error error =>
      rw [hanswer] at hopen
      have hrequest := isRequestException_gateAnswer hanswer
      have htry : tryDatabase ctx (examSessionOpenInDatabase invite turn) store
          = (.error error, { store with database := db }) := by
        unfold tryDatabase
        rw [if_neg (by simp [hmode]), hopen]
        simp only [hrequest, if_true]
      rw [bind_error htry]

/-- The gate looks at the type of the action only. -/
theorem gateAnswer_congr {latest latest' : Option ProctorAction} {endsAt : Option Int}
    {now : Int} (h : latest.map (·.type) = latest'.map (·.type)) :
    gateAnswer latest endsAt now = gateAnswer latest' endsAt now := by
  unfold gateAnswer assertProctorActionAllowsExam
  rw [h]

end

/-! ### Both paths -/

/-- Both storages hold the same of one candidate in one exam: the actions, which were made at
some of the times, and the clock of the session or none. -/
structure Alike (ctx : PlatformContext) (invite : CandidateInvite) (times : List Int)
    (memory : PlatformMemory) (db : PlatformDatabase) : Prop where
  candidate : db.candidates.find? invite.candidate.id ≠ none
  exam : db.exams.find? invite.exam.id ≠ none
  actions : ∃ history, ShowsHistory invite history memory.proctorActions ∧
    RowsShowHistory invite history db.proctorActions.rows ∧
    ((blockingMarks history).map Prod.snd).Nodup ∧ ∀ mark ∈ history, mark.2 ∈ times
  clock : memoryClock memory (inviteKey invite) = (databaseClock db (inviteKey invite)).map
    fun clock => (Js.toISOString clock.1, Js.toISOString clock.2)
  readable : ∀ clock, databaseClock db (inviteKey invite) = some clock → ReadsDate ctx clock.2

/-- The moment at which a session would end that starts in the turn. -/
def endOf (invite : CandidateInvite) (turn : PlatformInput) : Option Int :=
  Js.timeClip (turn.now + invite.exam.durationMinutes * 60 * 1000)

namespace Alike

variable {ctx : StoreContext} {invite : CandidateInvite} {times : List Int}
  {memory : PlatformMemory} {db : PlatformDatabase} {turn : PlatformInput}

/-- Both paths find the session, with the same end, or both open it at the clock of the call. -/
theorem ensure (h : Alike ctx.toPlatformContext invite times memory db) {endsAt : Int}
    (hend : endOf invite turn = some endsAt) (hread : ReadsDate ctx.toPlatformContext endsAt)
    (hfree : sessionRow db invite = none →
      db.examSessions.find? (turn.createId "session" 0) = none) :
    (∃ session row, memorySession memory invite = some session ∧
      sessionRow db invite = some row ∧
      ensureExamSession invite turn db = (.ok (mapExamSession row turn.now), db) ∧
      ctx.dateParse session.endsAt = some row.endsAt) ∨
    memorySession memory invite = none ∧ sessionRow db invite = none ∧
      ∃ db', ensureExamSession invite turn db
          = (.ok (mapExamSession (startedRow invite turn endsAt) turn.now), db') ∧
        sessionRow db' invite = some (startedRow invite turn endsAt) ∧
        db'.proctorActions = db.proctorActions ∧
        Alike ctx.toPlatformContext invite times
          { memory with examSessions :=
            startedSession invite turn (Js.toISOString endsAt) :: memory.examSessions } db' := by
  have hclock := h.clock
  rw [memoryClock_inviteKey, databaseClock_inviteKey] at hclock
  cases hrow : sessionRow db invite with
  | some row =>
      rw [hrow] at hclock
      -- Both storages have the session, with the same times.
      obtain ⟨session, hsession, hdates⟩ := Option.map_eq_some_iff.mp hclock
      have hdate : EndIsDate invite turn := Option.isSome_iff_exists.mpr ⟨endsAt, hend⟩
      have hreadRow : ReadsDate ctx.toPlatformContext row.endsAt :=
        h.readable (row.startedAt, row.endsAt) (by rw [databaseClock_inviteKey, hrow]; rfl)
      have htext : session.endsAt = Js.toISOString row.endsAt := congrArg Prod.snd hdates
      exact .inl ⟨session, row, hsession, rfl, ensureExamSession_stored hdate hrow,
        htext ▸ hreadRow⟩
  | none =>
      rw [hrow] at hclock
      -- Neither storage has it, and both start it at the clock of the call.
      have hsession : memorySession memory invite = none := Option.map_eq_none_iff.mp hclock
      obtain ⟨db', examSessions, hupsert, hinsert, htables⟩ :=
        upsertExamSession_ok (startedRow invite turn endsAt) hrow (hfree hrow) h.candidate h.exam
      have hstarted := databaseClock_startedRow hrow hinsert htables
      have hrow' : sessionRow db' invite = some (startedRow invite turn endsAt) := by
        unfold sessionRow Table.findFirst
        rw [htables]
        show List.find? _ examSessions.rows = _
        rw [Table.rows_insert? hinsert, List.find?_append]
        have hnone : (db.examSessions.rows.find? fun session =>
            session.key = (invite.candidate.id, invite.exam.id)) = none := hrow
        rw [hnone]
        simp [startedRow, ExamSessionRow.key]
      refine .inr ⟨hsession, rfl, db', ?_, hrow', by rw [htables], ?_⟩
      · rw [ensureExamSession_eq hend]
        refine (updates_bind_ok hupsert).trans ?_
        show (sessionAnswer turn (sessionRow db' invite), db') = _
        rw [hrow']
        rfl
      · refine ⟨by rw [htables]; exact h.candidate, by rw [htables]; exact h.exam,
          by rw [htables]; exact h.actions, ?_, ?_⟩
        · rw [memoryClock_startedSession, hstarted, Function.update_self, Function.update_self]
          rfl
        · intro clock hfound
          rw [hstarted, Function.update_self] at hfound
          cases hfound
          exact hread

/-- To complete the session on the database changes neither its start nor its end, so the clocks of
the two paths stay alike. -/
theorem completed (h : Alike ctx.toPlatformContext invite times memory db)
    {db' : PlatformDatabase} {key : String × String} {completedAt : Int}
    (hok : db.completeExamSession key completedAt = .ok db') :
    Alike ctx.toPlatformContext invite times memory db' := by
  have hclock := databaseClock_completeExamSession hok
  unfold PlatformDatabase.completeExamSession at hok
  split at hok
  · cases hok
  · have htables := PlatformDatabase.commit_eq_ok hok
    exact ⟨by rw [htables]; exact h.candidate, by rw [htables]; exact h.exam,
      by rw [htables]; exact h.actions, by rw [hclock]; exact h.clock,
      by rw [hclock]; exact h.readable⟩

/-- Both paths look at an action of the same type. -/
theorem latest (h : Alike ctx.toPlatformContext invite times memory db)
    (horder : ∀ a ∈ times, ∀ b ∈ times,
      ctx.localeCompare (Js.toISOString a) (Js.toISOString b) = compare a b) :
    (latestMemoryBlockingAction ctx.toPlatformContext invite memory.proctorActions).map (·.type)
      = (db.latestBlockingAction invite).map (·.type) := by
  obtain ⟨history, hmemory, hdatabase, hdistinct, htimes⟩ := h.actions
  exact latest_type_eq hmemory hdatabase
    (fun mark hmark other hother => horder _ (htimes mark hmark) _ (htimes other hother))
    hdistinct

/-- An action that both paths record. A blocking one is made at a time of its own. -/
theorem record (h : Alike ctx.toPlatformContext invite times memory db)
    {input : CreateProctorActionInput} (hnow : turn.now ∈ times)
    (hfree : db.proctorActions.find? (turn.createId "proctor_action" 0) = none)
    (hown : isBlocking input.type = true → ∀ row ∈ db.proctorActions.rows,
      row.candidateId = invite.candidate.id → isBlocking row.type = true →
      row.createdAt ≠ turn.now) :
    ∃ action db', createProctorActionInDatabase invite.candidate.id invite.exam.id input turn db
        = (.ok action, db') ∧
      Alike ctx.toPlatformContext invite times
        { memory with proctorActions :=
          newProctorAction invite.candidate.id invite.exam.id input turn
            :: memory.proctorActions } db' := by
  obtain ⟨history, hmemory, hdatabase, hdistinct, htimes⟩ := h.actions
  obtain ⟨db', proctorActions, hcreate, hinsert, htables⟩ :=
    createProctorAction_ok (recordedRow invite input turn) hfree h.candidate h.exam
  have hrun : createProctorActionInDatabase invite.candidate.id invite.exam.id input turn db
      = (.ok _, db') := updates_bind_ok hcreate
  have hrows : db'.proctorActions.rows
      = db.proctorActions.rows ++ [recordedRow invite input turn] := by
    rw [htables]
    exact Table.rows_insert? hinsert
  refine ⟨_, db', hrun, ⟨by rw [htables]; exact h.candidate, by rw [htables]; exact h.exam,
    ⟨(input.type, turn.now) :: history, ?_, ?_, ?_, ?_⟩, ?_, ?_⟩⟩
  · unfold ShowsHistory at hmemory ⊢
    rw [List.filter_cons_of_pos (by simp [newProctorAction]), List.map_cons, List.map_cons, hmemory]
    rfl
  · unfold RowsShowHistory at hdatabase ⊢
    rw [hrows, List.filter_append, List.map_append, hdatabase, List.reverse_cons]
    simp [recordedRow]
  · unfold blockingMarks at hdistinct ⊢
    by_cases hblocking : isBlocking input.type = true
    · rw [List.filter_cons_of_pos (by simpa using hblocking), List.map_cons, List.nodup_cons]
      refine ⟨fun hmem => ?_, hdistinct⟩
      -- Such a mark would be a row of the same time.
      obtain ⟨mark, hmark, htime⟩ := List.mem_map.mp hmem
      obtain ⟨hmark, hmarkBlocking⟩ := List.mem_filter.mp hmark
      have hrow : mark ∈ (db.proctorActions.rows.filter
          (·.candidateId = invite.candidate.id)).map (fun row => (row.type, row.createdAt)) := by
        rw [show _ = _ from hdatabase]
        exact List.mem_reverse.mpr hmark
      obtain ⟨row, hrow, hshown⟩ := List.mem_map.mp hrow
      obtain ⟨hrow, hcandidate⟩ := List.mem_filter.mp hrow
      rw [← hshown] at hmarkBlocking htime
      exact hown hblocking row hrow (by simpa using hcandidate) hmarkBlocking htime
    · rw [List.filter_cons_of_neg (by simpa using hblocking)]
      exact hdistinct
  · intro mark hmark
    rcases List.mem_cons.mp hmark with rfl | hold
    · exact hnow
    · exact htimes mark hold
  · unfold databaseClock
    rw [htables]
    exact h.clock
  · unfold databaseClock
    rw [htables]
    exact h.readable

end Alike

/-! ### One call on both paths -/

/-- `createId` gives ids that are not taken on the database. -/
def SittingIdsFree (invite : CandidateInvite) (store : Store) (event : SittingEvent) : Prop :=
  (sessionRow store.database invite = none →
    store.database.examSessions.find? (event.turn.createId "session" 0) = none) ∧
  store.database.proctorActions.find? (event.turn.createId "proctor_action" 0) = none

instance (invite : CandidateInvite) (store : Store) (event : SittingEvent) :
    Decidable (SittingIdsFree invite store event) := inferInstanceAs (Decidable ((_ → _) ∧ _))

/-- When a call keeps the two paths alike. A session that started now would end on a date. The
call that opens the session from the gate is not rejected. Actions that pause, resume or
terminate are not made at one time. -/
def KeepsAlike (invite : CandidateInvite) (store : Store) (event : SittingEvent) : Prop :=
  match event.call with
  | .getCandidateWorkspace => EndIsDate invite event.turn
  | .assertExamSessionOpen =>
      EndIsDate invite event.turn ∧
        (sessionRow store.database invite = none →
          assertProctorActionAllowsExam (store.database.latestBlockingAction invite) = .ok () ∧
          0 < invite.exam.durationMinutes)
  | .createProctorAction input =>
      isBlocking input.type = true → ∀ row ∈ store.database.proctorActions.rows,
        row.candidateId = invite.candidate.id → isBlocking row.type = true →
        row.createdAt ≠ event.turn.now

/-- One store uses its memory and the other one its database, and they are alike. -/
structure Together (ctx ctx' : StoreContext) (invite : CandidateInvite) (times : List Int)
    (store store' : Store) : Prop where
  inMemory : store.usesMemory ctx = true
  inDatabase : store'.usesMemory ctx' = false
  alike : Alike ctx.toPlatformContext invite times store.memory store'.database

section
variable {ctx ctx' : StoreContext} {invite : CandidateInvite} {times : List Int}
  {store store' : Store} {event : SittingEvent} {turn : PlatformInput}

/-- With a session in the memory, the step answers this session with the seconds that are left, and
writes nothing. -/
theorem ensureMemoryExamSession_stored {memory : PlatformMemory} {session : ExamSession}
    (hsession : memorySession memory invite = some session) :
    ensureMemoryExamSession ctx.toPlatformContext memory.examSessions invite turn
      = .ok (withRemainingSeconds ctx.toPlatformContext session turn, memory.examSessions) := by
  have hfind : (memory.examSessions.find? fun session =>
      session.candidateId = invite.candidate.id ∧ session.examId = invite.exam.id)
        = some session := hsession
  unfold ensureMemoryExamSession
  rw [hfind]

/-- Without one, a session starts now and is put to the front. -/
theorem ensureMemoryExamSession_none {memory : PlatformMemory} {endsAt : Int}
    (hnone : memorySession memory invite = none) (hend : endOf invite turn = some endsAt) :
    ensureMemoryExamSession ctx.toPlatformContext memory.examSessions invite turn
      = .ok (startedSession invite turn (Js.toISOString endsAt),
          startedSession invite turn (Js.toISOString endsAt) :: memory.examSessions) := by
  have hfind : (memory.examSessions.find? fun session =>
      session.candidateId = invite.candidate.id ∧ session.examId = invite.exam.id) = none := hnone
  have hclip : Js.timeClip (turn.now + invite.exam.durationMinutes * 60 * 1000) = some endsAt :=
    hend
  unfold ensureMemoryExamSession sessionEnd
  rw [hfind, hclip]
  rfl

/-- The gate on the memory, when it opens the session and lets the call pass. -/
theorem assertExamSessionOpenInStore_started {memory : PlatformMemory} {endsAt : Int}
    (hnone : memorySession memory invite = none) (hend : endOf invite turn = some endsAt)
    (hallows : assertProctorActionAllowsExam
      (latestMemoryBlockingAction ctx.toPlatformContext invite memory.proctorActions) = .ok ())
    (hpositive : 0 < invite.exam.durationMinutes) :
    assertExamSessionOpenInStore ctx.toPlatformContext memory.proctorActions memory.examSessions
        invite turn
      = .ok (startedSession invite turn (Js.toISOString endsAt) :: memory.examSessions) := by
  have hseconds : ¬ invite.exam.durationMinutes * 60 ≤ 0 :=
    not_le.mpr (mul_pos hpositive (by decide +kernel))
  unfold assertExamSessionOpenInStore
  rw [ensureMemoryExamSession_none hnone hend, hallows]
  show (if invite.exam.durationMinutes * 60 ≤ 0 then _ else Except.ok _) = _
  rw [if_neg hseconds]

/-- A session of whole minutes has not ended when it starts. -/
theorem timeOver_started {endsAt : Int} (hwhole : invite.exam.durationMinutes.den = 1)
    (hpositive : 0 < invite.exam.durationMinutes) (hend : endOf invite turn = some endsAt) :
    timeOver (some endsAt) turn.now = false := by
  have hminutes := timeClip_minutes hwhole hend
  have hnum : 0 < invite.exam.durationMinutes.num := Rat.num_pos.mpr hpositive
  cases hover : timeOver (some endsAt) turn.now with
  | false => rfl
  | true =>
      obtain ⟨e, he, hless⟩ := (timeOver_iff _ _).mp hover
      cases he
      omega

/-- The workspace is opened on both paths, and the two stores agree afterwards. -/
theorem getCandidateWorkspace_together (h : Together ctx ctx' invite times store store')
    {endsAt : Int} (hend : endOf invite turn = some endsAt)
    (hread : ReadsDate ctx.toPlatformContext endsAt)
    (hfree : sessionRow store'.database invite = none →
      store'.database.examSessions.find? (turn.createId "session" 0) = none) :
    ∃ workspace workspace' after after',
      readCandidateWorkspace ctx invite turn store = (.ok workspace, after) ∧
      readCandidateWorkspace ctx' invite turn store' = (.ok workspace', after') ∧
      Together ctx ctx' invite times after after' := by
  rcases h.alike.ensure hend hread hfree with
    ⟨session, row, hsession, hrow, hensure, -⟩ | ⟨hsession, hrow, db, hensure, -, -, halike⟩
  · obtain ⟨workspace, hmemory⟩ := readCandidateWorkspace_inMemory h.inMemory
      (ensureMemoryExamSession_stored hsession)
    obtain ⟨workspace', hdatabase⟩ := readCandidateWorkspace_inDatabase h.inDatabase hensure
    exact ⟨workspace, workspace', _, _, hmemory, hdatabase, h.inMemory, h.inDatabase, h.alike⟩
  · obtain ⟨workspace, hmemory⟩ := readCandidateWorkspace_inMemory h.inMemory
      (ensureMemoryExamSession_none hsession hend)
    obtain ⟨workspace', hdatabase⟩ := readCandidateWorkspace_inDatabase h.inDatabase hensure
    exact ⟨workspace, workspace', _, _, hmemory, hdatabase, h.inMemory, h.inDatabase, halike⟩

/-- The gate answers the same on both paths, and the two stores agree afterwards. Where there is no
session yet, the gate has to open: with a refusal only the database would start one. -/
theorem assertExamSessionOpen_together (h : Together ctx ctx' invite times store store')
    (horder : ∀ a ∈ times, ∀ b ∈ times,
      ctx.localeCompare (Js.toISOString a) (Js.toISOString b) = compare a b)
    (hwhole : invite.exam.durationMinutes.den = 1)
    {endsAt : Int} (hend : endOf invite turn = some endsAt)
    (hread : ReadsDate ctx.toPlatformContext endsAt)
    (hfree : sessionRow store'.database invite = none →
      store'.database.examSessions.find? (turn.createId "session" 0) = none)
    (hfirst : sessionRow store'.database invite = none →
      assertProctorActionAllowsExam (store'.database.latestBlockingAction invite) = .ok () ∧
      0 < invite.exam.durationMinutes) :
    ∃ answer after after',
      assertExamSessionOpen ctx invite turn store = (answer, after) ∧
      assertExamSessionOpen ctx' invite turn store' = (answer, after') ∧
      Together ctx ctx' invite times after after' := by
  have hlatest := h.alike.latest horder
  rcases h.alike.ensure hend hread hfree with
    ⟨session, row, hsession, hrow, hensure, hparse⟩ |
    ⟨hsession, hrow, db, hensure, hstarted, hactions, halike⟩
  · -- The session is there. Both paths leave it, whatever they answer.
    obtain ⟨db, hopen, hafter⟩ := examSessionOpenInDatabase_ensured hensure hrow
    have hdatabase := assertExamSessionOpen_inDatabase h.inDatabase hopen
    have hmemory : assertExamSessionOpen ctx invite turn store
        = (gateAnswer (store'.database.latestBlockingAction invite) (some row.endsAt) turn.now,
            store) := by
      rw [assertExamSessionOpen_inMemory invite turn h.inMemory,
        assertExamSessionOpenInStore_stored hsession, hparse, gateAnswer_congr hlatest]
      cases gateAnswer (store'.database.latestBlockingAction invite) (some row.endsAt)
          turn.now <;> rfl
    refine ⟨_, store, _, hmemory, hdatabase, h.inMemory, h.inDatabase, ?_⟩
    rcases hafter with rfl | hcomplete
    · exact h.alike
    · exact h.alike.completed hcomplete
  · -- The call opens the session, and passes.
    obtain ⟨hallows, hpositive⟩ := hfirst hrow
    obtain ⟨db', hopen, hafter⟩ := examSessionOpenInDatabase_ensured hensure hstarted
    have hsame : db.latestBlockingAction invite = store'.database.latestBlockingAction invite := by
      unfold PlatformTables.latestBlockingAction
      rw [hactions]
    have hanswer : gateAnswer (db.latestBlockingAction invite)
        (some (startedRow invite turn endsAt).endsAt) turn.now = .ok () := by
      unfold gateAnswer
      rw [hsame, hallows]
      show (if timeOver (some endsAt) turn.now = true then _ else Except.ok ()) = _
      rw [timeOver_started hwhole hpositive hend]
      rfl
    have hdatabase := assertExamSessionOpen_inDatabase h.inDatabase hopen
    rw [hanswer] at hdatabase
    have hallows' : assertProctorActionAllowsExam (latestMemoryBlockingAction
        ctx.toPlatformContext invite store.memory.proctorActions) = .ok () := by
      unfold assertProctorActionAllowsExam at hallows ⊢
      rw [hlatest]
      exact hallows
    have hmemory := assertExamSessionOpen_inMemory invite turn h.inMemory
    rw [assertExamSessionOpenInStore_started hsession hend hallows' hpositive] at hmemory
    refine ⟨_, _, _, hmemory, hdatabase, h.inMemory, h.inDatabase, ?_⟩
    rcases hafter with rfl | hcomplete
    · exact halike
    · exact halike.completed hcomplete

/-- A proctor's action is recorded on both paths, under dates that keep the order of the blocking
actions. -/
theorem recordProctorAction_together (h : Together ctx ctx' invite times store store')
    {input : CreateProctorActionInput} (hnow : turn.now ∈ times)
    (hfree : store'.database.proctorActions.find? (turn.createId "proctor_action" 0) = none)
    (hown : isBlocking input.type = true → ∀ row ∈ store'.database.proctorActions.rows,
      row.candidateId = invite.candidate.id → isBlocking row.type = true →
      row.createdAt ≠ turn.now) :
    ∃ action action' after after',
      recordProctorAction ctx invite input turn store = (.ok action, after) ∧
      recordProctorAction ctx' invite input turn store' = (.ok action', after') ∧
      Together ctx ctx' invite times after after' := by
  obtain ⟨action', db, hrun, halike⟩ := h.alike.record hnow hfree hown
  have hmemory : tryDatabase ctx (createProctorActionInDatabase invite.candidate.id
      invite.exam.id input turn) store = (.ok none, store) := by
    unfold tryDatabase
    rw [if_pos h.inMemory]
  have hdatabase := tryDatabase_ran h.inDatabase hrun
  exact ⟨_, action', _, _, bind_ok hmemory, bind_ok hdatabase, h.inMemory, h.inDatabase, halike⟩

/-- One call under the condition: the answers are the same, and the stores stay alike. -/
theorem performSitting_together (h : Together ctx ctx' invite times store store')
    (horder : ∀ a ∈ times, ∀ b ∈ times,
      ctx.localeCompare (Js.toISOString a) (Js.toISOString b) = compare a b)
    (hwhole : invite.exam.durationMinutes.den = 1) (hnow : event.turn.now ∈ times)
    (hread : ∀ endsAt, endOf invite event.turn = some endsAt →
      ReadsDate ctx.toPlatformContext endsAt)
    (hfree : SittingIdsFree invite store' event) (hkeeps : KeepsAlike invite store' event) :
    (performSitting ctx invite event store).1 = (performSitting ctx' invite event store').1 ∧
      Together ctx ctx' invite times (performSitting ctx invite event store).2
        (performSitting ctx' invite event store').2 := by
  unfold KeepsAlike at hkeeps
  unfold performSitting
  -- Each event keeps the two stores together under its own side conditions.
  cases hcall : event.call with
  | getCandidateWorkspace =>
      rw [hcall] at hkeeps
      obtain ⟨endsAt, hend⟩ := Option.isSome_iff_exists.mp hkeeps
      obtain ⟨workspace, workspace', after, after', hmemory, hdatabase, hafter⟩ :=
        getCandidateWorkspace_together h hend (hread endsAt hend) hfree.1
      simp only [map_apply]
      rw [hmemory, hdatabase]
      exact ⟨rfl, hafter⟩
  | assertExamSessionOpen =>
      rw [hcall] at hkeeps
      obtain ⟨hdate, hfirst⟩ := hkeeps
      obtain ⟨endsAt, hend⟩ := Option.isSome_iff_exists.mp hdate
      obtain ⟨answer, after, after', hmemory, hdatabase, hafter⟩ :=
        assertExamSessionOpen_together h horder hwhole hend (hread endsAt hend) hfree.1 hfirst
      simp only
      rw [hmemory, hdatabase]
      exact ⟨rfl, hafter⟩
  | createProctorAction input =>
      rw [hcall] at hkeeps
      obtain ⟨action, action', after, after', hmemory, hdatabase, hafter⟩ :=
        recordProctorAction_together h hnow hfree.2 hkeeps
      simp only [map_apply]
      rw [hmemory, hdatabase]
      exact ⟨rfl, hafter⟩

/-! ### Runs -/

/-- Stores that hold nothing of the candidate are alike: neither has a session, and neither shows
an action. -/
theorem together_of_fresh (hmemory : store.usesMemory ctx = true)
    (hdatabase : store'.usesMemory ctx' = false)
    (hactions : ∀ action ∈ store.memory.proctorActions, action.candidateId ≠ invite.candidate.id)
    (hrows : ∀ row ∈ store'.database.proctorActions.rows, row.candidateId ≠ invite.candidate.id)
    (hsession : memorySession store.memory invite = none)
    (hrow : sessionRow store'.database invite = none)
    (hcandidate : store'.database.candidates.find? invite.candidate.id ≠ none)
    (hexam : store'.database.exams.find? invite.exam.id ≠ none) :
    Together ctx ctx' invite times store store' := by
  refine ⟨hmemory, hdatabase, hcandidate, hexam, ⟨[], ?_, ?_, List.nodup_nil, by simp⟩, ?_, ?_⟩
  · unfold ShowsHistory
    rw [List.filter_eq_nil_iff.mpr fun action haction => by simpa using hactions action haction]
    rfl
  · unfold RowsShowHistory
    rw [List.filter_eq_nil_iff.mpr fun row hmem => by simpa using hrows row hmem]
    rfl
  · rw [memoryClock_inviteKey, databaseClock_inviteKey, hsession, hrow]
    rfl
  · intro clock hclock
    rw [databaseClock_inviteKey, hrow] at hclock
    cases hclock

/-- The stores stay alike over a run under the condition. By induction on the calls, with one step
of both stores for each. -/
theorem run_together (horder : ∀ a ∈ times, ∀ b ∈ times,
      ctx.localeCompare (Js.toISOString a) (Js.toISOString b) = compare a b)
    (hwhole : invite.exam.durationMinutes.den = 1) (events : List SittingEvent) :
    ∀ {store store' after after' : Store},
      (∀ event ∈ events, event.turn.now ∈ times) →
      (∀ event ∈ events, ∀ endsAt, endOf invite event.turn = some endsAt →
        ReadsDate ctx.toPlatformContext endsAt) →
      Together ctx ctx' invite times store store' →
      (sittingMachine ctx' invite).Meets (SittingIdsFree invite) store' events →
      (sittingMachine ctx' invite).Meets (KeepsAlike invite) store' events →
      (sittingMachine ctx invite).run store events = some after →
      (sittingMachine ctx' invite).run store' events = some after' →
      Together ctx ctx' invite times after after' := by
  -- Both runs take the same step; `performSitting_together` keeps the stores alike, and the
  -- conditions go on to the rest.
  induction events with
  | nil =>
      intro store store' after after' _ _ h _ _ hrun hrun'
      cases hrun
      cases hrun'
      exact h
  | cons event events ih =>
      rintro store store' after after' hnow hread h ⟨hfree, hfreeRest⟩ ⟨hkeeps, hkeepsRest⟩
        hrun hrun'
      obtain ⟨between, hstep, hrest⟩ := (Machine.run_cons_eq_some _ _ _ _).mp hrun
      obtain ⟨between', hstep', hrest'⟩ := (Machine.run_cons_eq_some _ _ _ _).mp hrun'
      have hfirst := (performSitting_together h horder hwhole (hnow event List.mem_cons_self)
        (hread event List.mem_cons_self) hfree hkeeps).2
      rw [Option.some.inj hstep, Option.some.inj hstep'] at hfirst
      exact ih (fun e he => hnow e (List.mem_cons_of_mem _ he))
        (fun e he => hread e (List.mem_cons_of_mem _ he)) hfirst (hfreeRest between' hstep')
        (hkeepsRest between' hstep') hrest hrest'

end

/-- The memory and the database under the same calls, from stores that are alike: as long as the
calls meet the condition, each one is answered the same, and then both hold the same clock or
none. -/
theorem paths_alike (ctx ctx' : StoreContext) (invite : CandidateInvite) (times : List Int)
    (start start' : Store) (events : List SittingEvent)
    (hstart : Together ctx ctx' invite times start start')
    (hwhole : invite.exam.durationMinutes.den = 1)
    (hnow : ∀ event ∈ events, event.turn.now ∈ times)
    (horder : ∀ a ∈ times, ∀ b ∈ times,
      ctx.localeCompare (Js.toISOString a) (Js.toISOString b) = compare a b)
    (hread : ∀ event ∈ events, ∀ endsAt, endOf invite event.turn = some endsAt →
      ReadsDate ctx.toPlatformContext endsAt)
    (hfree : (sittingMachine ctx' invite).Meets (SittingIdsFree invite) start' events)
    (hkeeps : (sittingMachine ctx' invite).Meets (KeepsAlike invite) start' events) :
    ∀ before event after store store', events = before ++ event :: after →
      (sittingMachine ctx invite).run start before = some store →
      (sittingMachine ctx' invite).run start' before = some store' →
      (performSitting ctx invite event store).1 = (performSitting ctx' invite event store').1 ∧
      memoryClock (performSitting ctx invite event store).2.memory (inviteKey invite)
        = (databaseClock (performSitting ctx' invite event store').2.database
            (inviteKey invite)).map fun clock =>
              (Js.toISOString clock.1, Js.toISOString clock.2) := by
  rintro before event after store store' rfl hbefore hbefore'
  -- Up to the event the stores are alike; the event itself gives the same answer and the same
  -- clock.
  have htogether := run_together horder hwhole before
    (fun e he => hnow e (List.mem_append_left _ he))
    (fun e he => hread e (List.mem_append_left _ he)) hstart (hfree.after hbefore').1
    (hkeeps.after hbefore').1 hbefore hbefore'
  obtain ⟨hanswer, hafter⟩ := performSitting_together htogether horder hwhole
    (hnow event (by simp)) (hread event (by simp)) (hfree.at hbefore') (hkeeps.at hbefore')
  exact ⟨hanswer, hafter.alike.clock⟩

/-! ### A draft that comes while the exam is paused -/

/-- The same process without its database. -/
def memoryContext : StoreContext := { clockContext with disableDatabase := some "1" }

/-- A proctor pauses the exam. -/
def pauseSitting : SittingEvent :=
  ⟨.createProctorAction { type := .pauseExam, message := "" }, {}⟩

/-- A draft comes to the gate. -/
def draftAt (now : Int) : SittingEvent := ⟨.assertExamSessionOpen, { now }⟩

/-- The candidate opens the workspace. -/
def openAt (now : Int) : SittingEvent := ⟨.getCandidateWorkspace, { now }⟩

/-- The clock of the candidate after a run on the memory. -/
def clockInMemory (events : List SittingEvent) : Option (Option (String × String)) :=
  ((sittingMachine memoryContext sittingInvite).run arrivedStore events).map fun store =>
    memoryClock store.memory (inviteKey sittingInvite)

/-- The clock of the candidate after a run on the database. -/
def clockInDatabase (events : List SittingEvent) : Option (Option (Int × Int)) :=
  ((sittingMachine clockContext sittingInvite).run arrivedStore events).map fun store =>
    databaseClock store.database (inviteKey sittingInvite)

/-- Both paths reject the first draft. The database holds a session then and the memory holds
none. When the candidate opens the workspace an hour later, the session ends then on the one and
starts then on the other. -/
theorem rejected_draft_starts_the_clock :
    clockInMemory [pauseSitting, draftAt 0] = some none ∧
      clockInDatabase [pauseSitting, draftAt 0] = some (some (0, 3600000)) ∧
      clockInMemory [pauseSitting, draftAt 0, openAt 3600000]
        = some (some (Js.toISOString 3600000, Js.toISOString 7200000)) ∧
      clockInDatabase [pauseSitting, draftAt 0, openAt 3600000] = some (some (0, 3600000)) := by
  decide +kernel

/-- The candidate opens the workspace and saves a draft, and another one when the hour is over. -/
theorem paths_alike_sitting :
    (performSitting memoryContext sittingInvite (draftAt 3600000)
        (performSitting memoryContext sittingInvite (draftAt 0)
          (performSitting memoryContext sittingInvite (openAt 0) arrivedStore).2).2).1
      = (performSitting clockContext sittingInvite (draftAt 3600000)
        (performSitting clockContext sittingInvite (draftAt 0)
          (performSitting clockContext sittingInvite (openAt 0) arrivedStore).2).2).1 := by
  have hstart : Together memoryContext clockContext sittingInvite [0, 3600000] arrivedStore
      arrivedStore :=
    together_of_fresh (by decide +kernel) (by decide +kernel) (by decide +kernel)
      (by decide +kernel) (by decide +kernel) (by decide +kernel) (by decide +kernel)
      (by decide +kernel)
  have hread : ∀ event ∈ [openAt 0, draftAt 0, draftAt 3600000], ∀ endsAt,
      endOf sittingInvite event.turn = some endsAt →
        ReadsDate memoryContext.toPlatformContext endsAt := by
    have hends : ∀ event ∈ [openAt 0, draftAt 0, draftAt 3600000],
        ∀ endsAt ∈ endOf sittingInvite event.turn,
          ReadsDate memoryContext.toPlatformContext endsAt := by decide +kernel
    exact fun event hevent endsAt hend => hends event hevent endsAt hend
  -- The identifiers of the turns are new, and the dates in the range: one event after the other.
  have hfree : (sittingMachine clockContext sittingInvite).Meets (SittingIdsFree sittingInvite)
      arrivedStore [openAt 0, draftAt 0, draftAt 3600000] := by
    refine ⟨by decide +kernel, fun s hs => ?_⟩
    cases hs
    refine ⟨by decide +kernel, fun s hs => ?_⟩
    cases hs
    exact ⟨by decide +kernel, fun _ _ => trivial⟩
  have hkeeps : (sittingMachine clockContext sittingInvite).Meets (KeepsAlike sittingInvite)
      arrivedStore [openAt 0, draftAt 0, draftAt 3600000] := by
    have hdate : ∀ now ∈ [(0 : Int), 3600000], EndIsDate sittingInvite { now } := by
      decide +kernel
    refine ⟨hdate 0 (by decide), fun s hs => ?_⟩
    cases hs
    refine ⟨⟨hdate 0 (by decide), fun hnone => absurd hnone (by decide +kernel)⟩, fun s hs => ?_⟩
    cases hs
    exact ⟨⟨hdate 3600000 (by decide), fun hnone => absurd hnone (by decide +kernel)⟩,
      fun _ _ => trivial⟩
  exact (paths_alike memoryContext clockContext sittingInvite [0, 3600000] arrivedStore
    arrivedStore [openAt 0, draftAt 0, draftAt 3600000] hstart (by decide +kernel)
    (by decide +kernel) (by decide +kernel) hread hfree hkeeps [openAt 0, draftAt 0]
    (draftAt 3600000) [] _ _ rfl rfl rfl).1

end Dcvp.Proofs
