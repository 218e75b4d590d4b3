import Dcvp.Proofs.ExamClock
import Dcvp.Proofs.ProctorHistory
import Dcvp.Services.PlatformStore.Service

/-!
# `Dcvp.Proofs.Termination`: a terminated exam, until a proctor resumes it

The gate asks for the newest action that pauses, resumes or terminates. So a termination holds
until the exam is resumed, and nothing but a resumption lifts it. `terminated_until_resumed` says so
for every run of calls on the store, on the memory as well as on the database.

The proof follows the marks that a run can leave: `marksOn` lists the actions that the calls of a
run ask for on one candidate. Each storage shows a part of that list and nothing else
(`ShowsPart`), because only `createProctorAction` writes actions, and it writes one in front of, or
behind, the others. `OnActions` is a fact about the actions of both storages, and the first section
says that every other method keeps it.

The gate is asked once, before the code runs. `resumeCall_actions` says that the rest of a call does
not look at the actions again.
-/

set_option autoImplicit false

namespace Dcvp.Proofs

open Dcvp.Lib
open Dcvp.Lib.Computation
open Dcvp.Shared
open Dcvp.Services.PlatformStore

/-! ### Methods that write no action -/

/-- A fact about the actions of the memory, and one about those of the database. -/
def OnActions (Qm : List ProctorAction → Prop) (Qd : Table ProctorActionRow.id → Prop) :
    Store → Prop :=
  InStore (fun m => Qm m.proctorActions) fun db => Qd db.proctorActions

section
variable {ctx : StoreContext} {α : Type} {Qm : List ProctorAction → Prop}
  {Qd : Table ProctorActionRow.id → Prop}

/-- The demo data have no actions, and a sweep writes none. -/
theorem actionsReadFrame (ctx : StoreContext) (Qm : List ProctorAction → Prop)
    (Qd : Table ProctorActionRow.id → Prop) :
    ReadFrame ctx (fun m => Qm m.proctorActions) fun db => Qd db.proctorActions where
  seeds := fun memory now _ => by
    refine ensurePlatformSeedData_preserves ctx _ now ?_
    intro db db' organizations exams questions testCases candidates h htables
    rw [htables]
    exact h
  memory := fun m _ _ h => h
  database := fun db db' _ _ htables h => by
    rw [htables]
    exact h

/-- Sessions are no actions. -/
theorem actionsSessionFrame (Qm : List ProctorAction → Prop) (Qd : Table ProctorActionRow.id → Prop)
    (invite : CandidateInvite) (turn : PlatformInput) :
    SessionFrame (fun m => Qm m.proctorActions) (fun db => Qd db.proctorActions) invite turn :=
  .of_other (fun _ _ h => h) (fun _ _ _ htables h => by rw [htables]; exact h) invite turn

/-- A statement that writes another table. -/
theorem updates_actions {f : PlatformDatabase → Except ServiceException PlatformDatabase}
    (h : ∀ db db', f db = .ok db' → db'.proctorActions = db.proctorActions) :
    Preserves (fun db : PlatformDatabase => Qd db.proctorActions) (updates f) :=
  .updates fun db db' hd hok => by
    rw [h db db' hok]
    exact hd

/-- The statement that updates an exam writes another table. -/
theorem updateExam_statement_actions (examId : String) (data : ExamRow → ExamRow)
    (keeps : ∀ row, (data row).id = row.id) :
    Preserves (fun db : PlatformDatabase => Qd db.proctorActions)
      (updates fun db => db.updateExam examId data keeps) := by
  refine updates_actions fun db db' hok => ?_
  unfold PlatformDatabase.updateExam at hok
  split at hok
  · cases hok
  · rw [PlatformDatabase.commit_eq_ok hok]

/-- So does the one that updates the status of a candidate. -/
theorem updateCandidateStatus_actions (p : CandidateRow → Bool) (status : CandidateStatus) :
    Preserves (fun db : PlatformDatabase => Qd db.proctorActions)
      (updates fun db => db.updateCandidateStatus p status) := by
  refine updates_actions fun db db' hok => ?_
  unfold PlatformDatabase.updateCandidateStatus at hok
  split at hok
  · cases hok
  · rw [PlatformDatabase.commit_eq_ok hok]

/-- The lookup of an invite writes devices and events, and the demo data. -/
theorem inviteForWorkspaceUse_actions (inviteToken : String) (turns : Nat → PlatformInput) :
    Preserves (OnActions Qm Qd) (inviteForWorkspaceUse ctx inviteToken turns) := by
  have frame := actionsReadFrame ctx Qm Qd
  exact .bind (frame.readCandidateInvite inviteToken _) fun _ =>
    .bind (frame.markStaleProctorDevices _ _ _) fun _ =>
      .bind (frame.readCandidateInvite inviteToken _) fun _ => .bind (.reads _) fun _ => .pure _

/-- The gates of a call may start an exam session or end it. -/
theorem passGates_actions (call : CodeCall) (inviteToken : String) (input : CodeInput)
    (turns : Nat → PlatformInput) :
    Preserves (OnActions Qm Qd) (passGates ctx call inviteToken input turns) :=
  .bind (inviteForWorkspaceUse_actions inviteToken turns) fun invite => .bind (.reads _) fun _ =>
    .bind (actionsSessionFrame Qm Qd invite _).assertExamSessionOpen fun _ => .pure _

/-- To save a draft writes no proctor action, on either path. -/
theorem saveDraft_actions (invite : CandidateInvite) (input : CodeInput) (turn : PlatformInput) :
    Preserves (OnActions Qm Qd) (saveDraft ctx invite input turn) := by
  refine preserves_orStore (preserves_tryDatabase
    (.bind (updates_actions fun db db' hok => ?_) fun _ => .reads _)) fun _ hm => hm
  unfold PlatformDatabase.upsertCodeDraft at hok
  split at hok
  · obtain ⟨drafts, -, htables⟩ := PlatformDatabase.create_eq_ok hok
    rw [htables]
  · rw [PlatformDatabase.commit_eq_ok hok]

/-- To run the code writes no proctor action, on either path. -/
theorem runCode_actions (invite : CandidateInvite) (input : CodeInput) (turn : PlatformInput) :
    Preserves (OnActions Qm Qd) (runCode ctx invite input turn) := by
  refine .bind (.reads _) fun result => preserves_orStore (preserves_tryDatabase ?_)
    fun _ hm => hm
  refine .bind (.reads _) fun _ => .bind (.reads _) fun _ => .bind (.reads _) fun rows =>
    .bind (updates_actions fun db db' hok => ?_) fun _ => .reads _
  unfold PlatformDatabase.createCodeExecution at hok
  simp only [bind_eq_ok] at hok
  obtain ⟨executions, -, results, -, hcommit⟩ := hok
  rw [PlatformDatabase.commit_eq_ok hcommit]

/-- Nor is a submission, which writes its own row, its results and the status of the candidate. -/
theorem submitCode_actions (invite : CandidateInvite) (question : Question) (input : CodeInput)
    (turn : PlatformInput) :
    Preserves (OnActions Qm Qd) (submitCode ctx invite question input turn) := by
  refine .bind (.reads _) fun runResult => preserves_orStore (preserves_tryDatabase ?_)
    fun _ hm => hm
  refine .bind (.reads _) fun rows => .bind (updates_actions fun db db' hok => ?_) fun _ =>
    .bind (.reads _) fun submission => .bind (updateCandidateStatus_actions _ _) fun _ => .pure _
  replace hok : db.createSubmission _ rows = .ok db' := hok
  unfold PlatformDatabase.createSubmission at hok
  simp only [bind_eq_ok] at hok
  obtain ⟨submissions, -, results, -, hcommit⟩ := hok
  rw [PlatformDatabase.commit_eq_ok hcommit]

/-- The memory path of a method that writes another array. -/
theorem ofMap_actions {β : Type} {x : Except ServiceException (α × β)} (put : β → PlatformMemory)
    {m m' : PlatformMemory} {a : α} (hput : ∀ b, (put b).proctorActions = m.proctorActions)
    (hm : Qm m.proctorActions)
    (h : (x.map fun result => (result.1, put result.2)) = .ok (a, m')) : Qm m'.proctorActions := by
  cases x with
  | error error => cases h
  | ok result =>
      cases h
      rw [hput]
      exact hm

/-- An update of an exam writes to the exams and the candidates, and to no proctor action. -/
theorem updateExam_actions (examId : String) (input : CreateExamInput) (session : AuthSession)
    (turn : PlatformInput) :
    Preserves (OnActions Qm Qd) (updateExam ctx examId input session turn) := by
  refine .bind (.reads _) fun _ => preserves_orOnMemory
    ((actionsReadFrame ctx Qm Qd).trySeeded ?_ _) fun m a m' hm hok =>
      ofMap_actions (fun exams => { m with exams }) (fun _ => rfl) hm hok
  exact .bind (.reads _) fun _ => .bind (.reads _) fun _ => .bind (.reads _) fun _ =>
    .bind (.reads _) fun _ => .bind (updateExam_statement_actions examId _ _) fun _ => .reads _

/-- The deletion of an exam leaves its actions. -/
theorem deleteExam_actions (examId : String) (session : AuthSession) (turn : PlatformInput) :
    Preserves (OnActions Qm Qd) (deleteExam ctx examId session turn) := by
  refine .bind (.reads _) fun _ => preserves_orOnMemory
    ((actionsReadFrame ctx Qm Qd).trySeeded ?_ _) fun m a m' hm hok =>
      ofMap_actions (fun exams => { m with exams }) (fun _ => rfl) hm hok
  exact .bind (.reads _) fun _ => .bind (updateExam_statement_actions examId _ _) fun _ => .reads _

/-- A new candidate comes without proctor actions, and the others keep theirs. -/
theorem addCandidate_actions (examId : String) (input : CreateCandidateInput)
    (session : AuthSession) (turn : PlatformInput) :
    Preserves (OnActions Qm Qd) (addCandidate ctx examId input session turn) := by
  refine .bind (.reads _) fun _ => preserves_orOnMemory
    ((actionsReadFrame ctx Qm Qd).trySeeded ?_ _) fun m a m' hm hok =>
      ofMap_actions (fun candidates => { m with candidates }) (fun _ => rfl) hm hok
  refine .bind (.reads _) fun _ => .bind (updates_actions fun db db' hok => ?_) fun _ => .pure _
  obtain ⟨candidates, -, htables⟩ := PlatformDatabase.create_eq_ok hok
  rw [htables]

/-- To mark a candidate as ready reads and writes, but no proctor action. -/
theorem markCandidateReady_actions (inviteToken : String) (turn : PlatformInput) :
    Preserves (OnActions Qm Qd) (markCandidateReady ctx inviteToken turn) := by
  have frame := actionsReadFrame ctx Qm Qd
  refine .bind (preserves_orOnMemory (preserves_tryStore ?_) fun m a m' hm hok =>
    ofMap_actions (fun candidates => { m with candidates }) (fun _ => rfl) hm hok)
      fun _ => .pure _
  intro store hstore
  unfold candidateReadyOperation
  rw [look_bind]
  exact Preserves.bind (preserves_onDatabase (frame.seeds store.memory _ hstore.1)) (fun _ =>
    .bind (preserves_onDatabase (.reads _)) fun _ =>
      .bind (preserves_onDatabase (updateCandidateStatus_actions _ _)) fun _ =>
        frame.readCandidateInvite inviteToken _) store hstore

/-- Every method but `createProctorAction` keeps the actions: what it writes is in other arrays and
tables. -/
theorem performStore_actions {event : StoreEvent}
    (hcall : ∀ candidateId input session,
      event.call ≠ .createProctorAction candidateId input session) :
    Preserves (OnActions Qm Qd) (performStore ctx event) := by
  intro store hstore
  unfold performStore
  -- No other method writes an action; what each of them does write is none of the two arrays in
  -- question.
  cases heq : event.call with
  | updateExam examId input session =>
      simp only [map_apply]
      exact updateExam_actions examId input session _ store hstore
  | deleteExam examId session =>
      simp only [map_apply]
      exact deleteExam_actions examId session _ store hstore
  | addCandidate examId input session =>
      simp only [map_apply]
      exact addCandidate_actions examId input session _ store hstore
  | createProctorAction candidateId input session =>
      exact absurd heq (hcall candidateId input session)
  | markCandidateReady inviteToken =>
      simp only [map_apply]
      exact markCandidateReady_actions inviteToken _ store hstore
  | getCandidateWorkspace inviteToken =>
      simp only [map_apply]
      exact Preserves.bind (inviteForWorkspaceUse_actions inviteToken event.turns)
        (fun invite => .bind (actionsSessionFrame Qm Qd invite _).readCandidateWorkspace
          fun _ => .pure _) store hstore
  | saveCandidateCodeDraft inviteToken input =>
      simp only [map_apply]
      exact Preserves.bind (passGates_actions _ inviteToken input event.turns)
        (fun invite => saveDraft_actions invite input _) store hstore
  | runCandidateCode inviteToken input =>
      simp only [map_apply]
      exact Preserves.bind (passGates_actions _ inviteToken input event.turns)
        (fun invite => .bind (StoreFrame.questionTestCases _ _) fun _ =>
          .bind (runCode_actions invite input _) fun _ => .pure _) store hstore
  | submitCandidateCode inviteToken input =>
      simp only [map_apply]
      refine Preserves.bind (passGates_actions _ inviteToken input event.turns)
        (fun invite => .bind (StoreFrame.questionForEvaluation _ _) fun question => ?_)
        store hstore
      split
      · exact .bind (.reads _) fun _ => .bind (StoreFrame.questionTestCases _ _) fun _ =>
          .bind (submitCode_actions invite question input _) fun _ => .pure _
      · exact .bind (submitCode_actions invite question input _) fun _ => .pure _

end

/-! ### The method that writes one -/

section
variable {ctx : StoreContext} {α : Type} {store : Store}

/-- The two ways in which a store keeps to one path: it has no database, or it does not fall back
from it to the memory. -/
theorem usesMemory_of_path (hpath : ctx.hasDatabase = true → ctx.databaseFallbackEnabled = false)
    (store : Store) : store.usesMemory ctx = !ctx.hasDatabase := by
  unfold Store.usesMemory
  cases hdatabase : ctx.hasDatabase with
  | false => rfl
  | true => simp [hpath hdatabase]

/-- On the memory, an operation on the database is not tried. -/
theorem tryDatabase_onMemory (hdatabase : ctx.hasDatabase = false)
    (operation : DatabaseOperation α) (store : Store) :
    tryDatabase ctx operation store = (.ok none, store) := by
  unfold tryDatabase Store.usesMemory
  rw [hdatabase]
  rfl

/-- On the database, an operation of a method ends as it does by itself. -/
theorem tryDatabase_onDatabase (hdatabase : ctx.hasDatabase = true)
    (hfallback : ctx.databaseFallbackEnabled = false) {operation : DatabaseOperation α}
    {P R : PlatformDatabase → Prop} {Q : α → PlatformDatabase → Prop}
    (h : Triple P operation Q R) :
    Triple (fun s => P s.database) (tryDatabase ctx operation)
      (fun answer s => ∃ a, answer = some a ∧ Q a s.database) fun s => R s.database := by
  intro store hstore
  obtain ⟨hok, herror⟩ := h store.database hstore
  have hmode : store.usesMemory ctx = false := by
    rw [usesMemory_of_path (fun _ => hfallback), hdatabase]
    rfl
  unfold tryDatabase
  rw [hmode]
  -- Without a fall-back every failure throws, and the tables are what the operation has left.
  cases hrun : operation store.database with
  | mk ended db =>
      rw [hrun] at hok herror
      cases ended with
      | ok a => exact ⟨fun answer hanswer => by cases hanswer; exact ⟨a, rfl, hok a rfl⟩,
          fun _ hthrown => by cases hthrown⟩
      | error error =>
          have hkept : R db := herror error rfl
          cases hrequest : isRequestException error with
          | true => exact ⟨fun _ hanswer => by simp [hrequest] at hanswer,
              fun _ _ => by simp only [hrequest]; exact hkept⟩
          | false => exact ⟨fun _ hanswer => by simp [hrequest, hfallback] at hanswer,
              fun _ _ => by simp only [hrequest, hfallback]; exact hkept⟩

variable {candidateId : String} {input : CreateProctorActionInput} {session : AuthSession}
  {turns : Nat → PlatformInput}

/-- The candidate is looked up first. -/
theorem findCandidateWithExam_actions {Qm : List ProctorAction → Prop}
    {Qd : Table ProctorActionRow.id → Prop} (candidateId : String) (session : AuthSession)
    (now : Int) :
    Preserves (OnActions Qm Qd) (findCandidateWithExam ctx candidateId session now) :=
  preserves_orInMemory ((actionsReadFrame ctx Qm Qd).trySeeded (.reads _) _) _

/-- On the memory, an action that is created comes in front of the others. -/
theorem createProctorAction_onMemory (hdatabase : ctx.hasDatabase = false)
    {Qm Rm : List ProctorAction → Prop}
    (hnew : ∀ actions examId, Qm actions →
      Rm (newProctorAction candidateId examId input (turns 1) :: actions)) :
    Triple (fun s => Qm s.memory.proctorActions)
      (createProctorAction ctx candidateId input session turns)
      (fun _ s => Rm s.memory.proctorActions) fun s => Qm s.memory.proctorActions := by
  have hfind : Triple (fun s : Store => Qm s.memory.proctorActions)
      (findCandidateWithExam ctx candidateId session (turns 0).now)
      (fun _ s => Qm s.memory.proctorActions) fun s => Qm s.memory.proctorActions := by
    have hkept : Preserves (OnActions Qm fun _ => True)
        (findCandidateWithExam ctx candidateId session (turns 0).now) :=
      findCandidateWithExam_actions candidateId session _
    exact (Triple.of_preserves hkept).mono (fun s h => ⟨h, trivial⟩) (fun _ s h => h.1)
      fun s h => h.1
  refine .bind (.reads (fun s _ h _ => h) fun s h => h) fun _ => hfind.bind fun found => ?_
  intro store hstore
  have hanswer : trySeededDatabase ctx (createProctorActionInDatabase candidateId found.exam.id
      input (turns 1)) (turns 1).now store = (.ok none, store) := by
    rw [trySeededDatabase_apply, tryDatabase_onMemory hdatabase]
  unfold orOnMemory
  rw [bind_ok hanswer]
  exact ⟨fun _ _ => hnew store.memory.proctorActions found.exam.id hstore,
    fun _ hthrown => by cases hthrown⟩

/-- On the database, an action that is created is a row behind the others. -/
theorem createProctorAction_onDatabase (hdatabase : ctx.hasDatabase = true)
    (hfallback : ctx.databaseFallbackEnabled = false)
    {Qd Rd : Table ProctorActionRow.id → Prop}
    (hrow : ∀ t t' row, t.insert? row = some t' → row.candidateId = candidateId →
      row.type = input.type → row.createdAt = (turns 1).now → Qd t → Rd t') :
    Triple (fun s => Qd s.database.proctorActions)
      (createProctorAction ctx candidateId input session turns)
      (fun _ s => Rd s.database.proctorActions) fun s => Qd s.database.proctorActions := by
  have hfind : Triple (fun s : Store => Qd s.database.proctorActions)
      (findCandidateWithExam ctx candidateId session (turns 0).now)
      (fun _ s => Qd s.database.proctorActions) fun s => Qd s.database.proctorActions := by
    have hkept : Preserves (OnActions (fun _ => True) Qd)
        (findCandidateWithExam ctx candidateId session (turns 0).now) :=
      findCandidateWithExam_actions candidateId session _
    exact (Triple.of_preserves hkept).mono (fun s h => ⟨trivial, h⟩) (fun _ s h => h.2)
      fun s h => h.2
  refine .bind (.reads (fun s _ h _ => h) fun s h => h) fun _ => hfind.bind fun found => ?_
  have hoperation : ∀ memory : ExamAdminMemoryState,
      Triple (fun db : PlatformDatabase => Qd db.proctorActions)
        (do
          ensurePlatformSeedData ctx memory (turns 1).now
          createProctorActionInDatabase candidateId found.exam.id input (turns 1))
        (fun _ db => Rd db.proctorActions) fun db => Qd db.proctorActions := by
    intro memory
    -- The demo data has no actions, so the row that is created is the only new one.
    have hseed : Preserves (fun db : PlatformDatabase => Qd db.proctorActions)
        (ensurePlatformSeedData ctx memory (turns 1).now) := by
      refine ensurePlatformSeedData_preserves ctx _ _ ?_
      intro db db' organizations exams questions testCases candidates h htables
      rw [htables]
      exact h
    refine (Triple.of_preserves hseed).bind fun _ => ?_
    refine Triple.bind (Q := fun _ db => Rd db.proctorActions) ?_ fun _ =>
      fun _ hdb => ⟨fun _ _ => hdb, fun _ hthrown => by cases hthrown⟩
    refine .updates (fun db db' hdb hcreate => ?_) fun db hdb => hdb
    obtain ⟨table, hinsert, htables⟩ := PlatformDatabase.create_eq_ok hcreate
    rw [htables]
    exact hrow _ table _ hinsert rfl rfl rfl hdb
  unfold orOnMemory
  refine Triple.bind (Q := fun answer s => ∃ a, answer = some a ∧ Rd s.database.proctorActions)
    ?_ fun answer => ?_
  · intro store hstore
    rw [trySeededDatabase_apply]
    exact tryDatabase_onDatabase hdatabase hfallback (hoperation _) store hstore
  · intro store hstore
    obtain ⟨a, rfl, hkept⟩ := hstore
    exact ⟨fun _ _ => hkept, fun _ hthrown => by cases hthrown⟩

end

/-! ### The marks of a run -/

/-- The action that a call asks for on a candidate. -/
def markOn (candidateId : String) (event : StoreEvent) : Option ActionMark :=
  match event.call with
  | .createProctorAction id input _ =>
      if id = candidateId then some (input.type, (event.turns 1).now) else none
  | _ => none

/-- The actions on a candidate that a run creates, the oldest one first. A call that throws creates
none. -/
def marksOn (ctx : StoreContext) (candidateId : String) : Store → List StoreEvent → List ActionMark
  | _, [] => []
  | store, event :: events =>
      (match (performStore ctx event store).1 with
        | .ok _ => (markOn candidateId event).toList
        | .error _ => []) ++
      marksOn ctx candidateId (performStore ctx event store).2 events

/-- The memory shows these actions on the candidate, the newest one in front. -/
def MemoryShows (candidateId : String) (marks : List ActionMark)
    (actions : List ProctorAction) : Prop :=
  (actions.filter (·.candidateId = candidateId)).map (fun action => (action.type, action.createdAt))
    = marks.reverse.map fun mark => (mark.1, Js.toISOString mark.2)

/-- The rows show these actions on the candidate, the newest one at the end. -/
def RowsShow (candidateId : String) (marks : List ActionMark)
    (t : Table ProctorActionRow.id) : Prop :=
  (t.rows.filter (·.candidateId = candidateId)).map (fun row => (row.type, row.createdAt)) = marks

/-- The storage of the store shows these actions on the candidate. -/
def StoreShows (ctx : StoreContext) (candidateId : String) (marks : List ActionMark)
    (store : Store) : Prop :=
  if ctx.hasDatabase then RowsShow candidateId marks store.database.proctorActions
  else MemoryShows candidateId marks store.memory.proctorActions

section
variable {ctx : StoreContext} {candidateId : String} {marks : List ActionMark}

/-- Without a database, the store shows what its memory shows. -/
theorem storeShows_onMemory (hdatabase : ctx.hasDatabase = false) (candidateId : String)
    (marks : List ActionMark) :
    StoreShows ctx candidateId marks
      = fun store => MemoryShows candidateId marks store.memory.proctorActions := by
  funext store
  unfold StoreShows
  rw [hdatabase]
  rfl

/-- With a database, the store shows the actions of the candidate in the table. -/
theorem storeShows_onDatabase (hdatabase : ctx.hasDatabase = true) (candidateId : String)
    (marks : List ActionMark) :
    StoreShows ctx candidateId marks
      = fun store => RowsShow candidateId marks store.database.proctorActions := by
  funext store
  unfold StoreShows
  rw [hdatabase]
  rfl

/-- A new action in the memory. It stands in front, and it is shown if it is one on the candidate.
-/
theorem memoryShows_cons (examId id : String) (input : CreateProctorActionInput)
    (turn : PlatformInput) {actions : List ProctorAction}
    (h : MemoryShows candidateId marks actions) :
    MemoryShows candidateId
      (marks ++ (if id = candidateId then [(input.type, turn.now)] else []))
      (newProctorAction id examId input turn :: actions) := by
  have hnew : (newProctorAction id examId input turn).candidateId = id := rfl
  unfold MemoryShows at h ⊢
  rw [List.filter_cons, hnew]
  by_cases hid : id = candidateId
  · rw [if_pos hid, if_pos (decide_eq_true hid), List.map_cons, h, List.reverse_append]
    rfl
  · rw [if_neg hid, if_neg (by simpa using hid), h, List.append_nil]

/-- A new row of the table. It stands at the end, and it is shown if it is one on the candidate. -/
theorem rowsShow_insert {t t' : Table ProctorActionRow.id} {row : ProctorActionRow} {id : String}
    {type : ProctorActionType} {now : Int} (hinsert : t.insert? row = some t')
    (hid : row.candidateId = id) (htype : row.type = type) (hnow : row.createdAt = now)
    (h : RowsShow candidateId marks t) :
    RowsShow candidateId (marks ++ (if id = candidateId then [(type, now)] else [])) t' := by
  unfold RowsShow at h ⊢
  rw [Table.rows_insert? hinsert, List.filter_append, List.map_append, h]
  subst hid htype hnow
  by_cases hid : row.candidateId = candidateId <;> simp [hid]

/-- A created action is shown, if it is one of the candidate. -/
theorem createProctorAction_shows
    (hpath : ctx.hasDatabase = true → ctx.databaseFallbackEnabled = false) (candidateId : String)
    (marks : List ActionMark) (id : String) (input : CreateProctorActionInput)
    (session : AuthSession) (turns : Nat → PlatformInput) :
    Triple (StoreShows ctx candidateId marks) (createProctorAction ctx id input session turns)
      (fun _ => StoreShows ctx candidateId
        (marks ++ if id = candidateId then [(input.type, (turns 1).now)] else []))
      (StoreShows ctx candidateId marks) := by
  cases hdatabase : ctx.hasDatabase with
  | false =>
      rw [storeShows_onMemory hdatabase, storeShows_onMemory hdatabase]
      exact createProctorAction_onMemory hdatabase fun actions examId h =>
        memoryShows_cons examId id input _ h
  | true =>
      rw [storeShows_onDatabase hdatabase, storeShows_onDatabase hdatabase]
      exact createProctorAction_onDatabase hdatabase (hpath hdatabase)
        fun t t' row hinsert hid htype hnow h => rowsShow_insert hinsert hid htype hnow h

/-- One call: an action that is created is added to the marks, and nothing else is. -/
theorem performStore_shows (hpath : ctx.hasDatabase = true → ctx.databaseFallbackEnabled = false)
    (candidateId : String) (marks : List ActionMark) (event : StoreEvent) :
    Triple (StoreShows ctx candidateId marks) (performStore ctx event)
      (fun _ => StoreShows ctx candidateId (marks ++ (markOn candidateId event).toList))
      (StoreShows ctx candidateId marks) := by
  by_cases hcall : ∃ id input session, event.call = .createProctorAction id input session
  · obtain ⟨id, input, session, hcall⟩ := hcall
    have hmark : (markOn candidateId event).toList
        = if id = candidateId then [(input.type, (event.turns 1).now)] else [] := by
      unfold markOn
      rw [hcall]
      by_cases hid : id = candidateId <;> simp [hid]
    have hperform : performStore ctx event
        = .proctorAction <$> createProctorAction ctx id input session event.turns := by
      unfold performStore
      rw [hcall]
    rw [hperform, hmark]
    exact (createProctorAction_shows hpath candidateId marks id input session event.turns).map _
  · have hother : ∀ id input session, event.call ≠ .createProctorAction id input session :=
      fun id input session h => hcall ⟨id, input, session, h⟩
    have hmark : markOn candidateId event = none := by
      unfold markOn
      split
      · rename_i id input session heq
        exact absurd heq (hother id input session)
      · rfl
    -- Every other call leaves the actions, on the path on which they are shown.
    have hkept : Preserves (StoreShows ctx candidateId marks) (performStore ctx event) := by
      intro store hstore
      cases hdatabase : ctx.hasDatabase with
      | false =>
          rw [storeShows_onMemory hdatabase] at hstore ⊢
          have hactions : OnActions (MemoryShows candidateId marks) (fun _ => True) store :=
            ⟨hstore, trivial⟩
          exact (performStore_actions hother store hactions).1
      | true =>
          rw [storeShows_onDatabase hdatabase] at hstore ⊢
          have hactions : OnActions (fun _ => True) (RowsShow candidateId marks) store :=
            ⟨trivial, hstore⟩
          exact (performStore_actions hother store hactions).2
    rw [hmark, Option.toList_none, List.append_nil]
    exact .of_preserves hkept

/-- A run adds the actions that it creates to those that the store shows, in their order. By
induction on the calls. -/
theorem run_shows (hpath : ctx.hasDatabase = true → ctx.databaseFallbackEnabled = false)
    (events : List StoreEvent) : ∀ {marks : List ActionMark} {store store' : Store},
      StoreShows ctx candidateId marks store →
      (storeMachine ctx).run store events = some store' →
      StoreShows ctx candidateId (marks ++ marksOn ctx candidateId store events) store' := by
  induction events with
  | nil =>
      intro marks store store' hstore hrun
      cases hrun
      rwa [marksOn, List.append_nil]
  | cons event events ih =>
      intro marks store store' hstore hrun
      obtain ⟨between, hstep, hrest⟩ := (Machine.run_cons_eq_some _ _ _ _).mp hrun
      cases hstep
      obtain ⟨hok, herror⟩ := performStore_shows hpath candidateId marks event store hstore
      rw [marksOn, ← List.append_assoc]
      refine ih ?_ hrest
      cases hended : (performStore ctx event store).1 with
      | ok value => exact hok value hended
      | error error =>
          rw [List.append_nil]
          exact herror error hended

/-- The marks of two runs, one after the other. -/
theorem marksOn_append (events later : List StoreEvent) : ∀ {store between : Store},
    (storeMachine ctx).run store events = some between →
    marksOn ctx candidateId store (events ++ later)
      = marksOn ctx candidateId store events ++ marksOn ctx candidateId between later := by
  induction events with
  | nil =>
      intro store between hrun
      cases hrun
      rfl
  | cons event events ih =>
      intro store between hrun
      obtain ⟨_, hstep, hrest⟩ := (Machine.run_cons_eq_some _ _ _ _).mp hrun
      cases hstep
      rw [List.cons_append, marksOn, marksOn, ih hrest, List.append_assoc]

end

/-! ### The gate after a termination -/

/-- Every blocking action other than `RESUME_EXAM` rejects at the gate. -/
theorem assertProctorActionAllowsExam_rejects {action : Option ProctorAction}
    {type : ProctorActionType} (htype : action.map (·.type) = some type)
    (hblocking : isBlocking type = true) (hresume : type ≠ .resumeExam) :
    ∃ error, assertProctorActionAllowsExam action = .error error := by
  unfold assertProctorActionAllowsExam
  rw [htype]
  cases type with
  | pauseExam => exact ⟨_, rfl⟩
  | terminateExam => exact ⟨_, rfl⟩
  | resumeExam => exact absurd rfl hresume
  | warningMessage => cases hblocking
  | memo => cases hblocking

section
variable {ctx : StoreContext} {invite : CandidateInvite} {now : Int}
  {earlier later : List ActionMark}

/-- The blocking marks with a termination among them. -/
theorem blockingMarks_terminated :
    blockingMarks (earlier ++ (.terminateExam, now) :: later)
      = blockingMarks earlier ++ (.terminateExam, now) :: blockingMarks later := by
  unfold blockingMarks
  rw [List.filter_append, List.filter_cons_of_pos rfl]

/-- On the memory, the newest blocking action is the termination, or a later one. -/
theorem latestMemoryBlockingAction_terminated {actions : List ProctorAction}
    (hshows : MemoryShows invite.candidate.id (earlier ++ (.terminateExam, now) :: later) actions)
    (hlater : ∀ mark ∈ later, mark.1 ≠ .resumeExam)
    (hsorted : (earlier ++ (.terminateExam, now) :: later).Pairwise fun mark other =>
      mark.2 ≤ other.2)
    (horder : ∀ mark ∈ earlier ++ (.terminateExam, now) :: later,
      ∀ other ∈ earlier ++ (.terminateExam, now) :: later,
      ctx.localeCompare (Js.toISOString mark.2) (Js.toISOString other.2)
        = compare mark.2 other.2) :
    ∃ error, assertProctorActionAllowsExam
      (latestMemoryBlockingAction ctx.toPlatformContext invite actions) = .error error := by
  have hhistory : ShowsHistory invite (earlier ++ (.terminateExam, now) :: later).reverse actions :=
    hshows
  have htype := latestMemoryBlockingAction_type hhistory fun mark hmark other hother =>
    horder mark (List.mem_reverse.mp hmark) other (List.mem_reverse.mp hother)
  have hreverse : blockingMarks (earlier ++ (.terminateExam, now) :: later).reverse
      = (blockingMarks (earlier ++ (.terminateExam, now) :: later)).reverse := List.filter_reverse
  have hnewest : (blockingMarks (earlier ++ (.terminateExam, now) :: later)).reverse.Pairwise
      fun left right => decide (right.2 ≤ left.2) = true := by
    rw [List.pairwise_reverse]
    exact (hsorted.sublist List.filter_sublist).imp fun hle => decide_eq_true hle
  -- The marks are in the order of the clock, so the sort leaves the reversed list as it is.
  rw [hreverse, List.mergeSort_of_pairwise hnewest, List.head?_reverse, blockingMarks_terminated,
    List.getLast?_append_cons] at htype
  obtain ⟨last, hlast⟩ : ∃ last, ((.terminateExam, now) :: blockingMarks later).getLast?
      = some last := Option.isSome_iff_exists.mp (by simp)
  rw [hlast] at htype
  rcases List.mem_cons.mp (List.mem_of_getLast? hlast) with rfl | hmem
  · exact assertProctorActionAllowsExam_rejects htype rfl (by simp)
  · obtain ⟨hmark, hblocking⟩ := List.mem_filter.mp hmem
    exact assertProctorActionAllowsExam_rejects htype hblocking (hlater last hmark)

/-- On the database as well, when each resumption is older than the termination. -/
theorem latestBlockingAction_terminated {t : PlatformTables}
    (hshows : RowsShow invite.candidate.id (earlier ++ (.terminateExam, now) :: later)
      t.proctorActions)
    (hlater : ∀ mark ∈ later, mark.1 ≠ .resumeExam)
    (hearlier : ∀ mark ∈ earlier, mark.1 = .resumeExam → mark.2 < now) :
    ∃ error, assertProctorActionAllowsExam (t.latestBlockingAction invite) = .error error := by
  have hhistory : RowsShowHistory invite (earlier ++ (.terminateExam, now) :: later).reverse
      t.proctorActions.rows := by
    unfold RowsShowHistory
    rw [List.reverse_reverse]
    exact hshows
  have : IsTrans ActionMark fun left right => right.2 ≤ left.2 := ⟨fun _ _ _ h h' => h'.trans h⟩
  have : Std.Total fun left right : ActionMark => right.2 ≤ left.2 :=
    ⟨fun left right => Int.le_total right.2 left.2⟩
  have htype := latestBlockingAction_type hhistory
  have hreverse : (blockingMarks (earlier ++ (.terminateExam, now) :: later).reverse).reverse
      = blockingMarks earlier ++ (.terminateExam, now) :: blockingMarks later := by
    rw [← blockingMarks_terminated, ← List.reverse_inj, List.reverse_reverse]
    exact List.filter_reverse
  rw [hreverse] at htype
  cases hhead : ((blockingMarks earlier ++ (.terminateExam, now) :: blockingMarks later)
      |>.insertionSort fun left right : ActionMark => right.2 ≤ left.2).head? with
  | none =>
      rw [List.head?_eq_none_iff] at hhead
      have hlength := congrArg List.length hhead
      simp at hlength
  | some newest =>
      rw [hhead] at htype
      obtain ⟨hmem, hnewest⟩ := rel_of_head?_insertionSort _ hhead
      have hnow : now ≤ newest.2 := hnewest (.terminateExam, now) (by simp)
      rcases List.mem_append.mp hmem with hold | hrest
      · -- An earlier mark that is as late as the termination is no resumption.
        obtain ⟨hmark, hblocking⟩ := List.mem_filter.mp hold
        refine assertProctorActionAllowsExam_rejects htype hblocking fun hresume => ?_
        have := hearlier newest hmark hresume
        omega
      · rcases List.mem_cons.mp hrest with rfl | hmem
        · exact assertProctorActionAllowsExam_rejects htype rfl (by simp)
        · obtain ⟨hmark, hblocking⟩ := List.mem_filter.mp hmem
          exact assertProctorActionAllowsExam_rejects htype hblocking (hlater newest hmark)

/-- The gate of a store whose storage shows a termination that is not lifted. -/
theorem assertExamSessionOpen_terminated {store : Store}
    (hpath : ctx.hasDatabase = true → ctx.databaseFallbackEnabled = false)
    (hshows : StoreShows ctx invite.candidate.id (earlier ++ (.terminateExam, now) :: later) store)
    (hlater : ∀ mark ∈ later, mark.1 ≠ .resumeExam)
    (hearlier : ctx.hasDatabase = true →
      ∀ mark ∈ earlier, mark.1 = .resumeExam → mark.2 < now)
    (hsorted : (earlier ++ (.terminateExam, now) :: later).Pairwise fun mark other =>
      mark.2 ≤ other.2)
    (horder : ∀ mark ∈ earlier ++ (.terminateExam, now) :: later,
      ∀ other ∈ earlier ++ (.terminateExam, now) :: later,
      ctx.localeCompare (Js.toISOString mark.2) (Js.toISOString other.2)
        = compare mark.2 other.2)
    (turn : PlatformInput) :
    ∃ error, (assertExamSessionOpen ctx invite turn store).1 = .error error := by
  cases hdatabase : ctx.hasDatabase with
  | false =>
      rw [storeShows_onMemory hdatabase] at hshows
      obtain ⟨rejection, hrejects⟩ :=
        latestMemoryBlockingAction_terminated hshows hlater hsorted horder
      have hmode : store.usesMemory ctx = true := by
        rw [usesMemory_of_path hpath, hdatabase]
        rfl
      rw [assertExamSessionOpen_inMemory invite turn hmode]
      cases hopen : assertExamSessionOpenInStore ctx.toPlatformContext store.memory.proctorActions
          store.memory.examSessions invite turn with
      | error error => exact ⟨error, rfl⟩
      | ok examSessions =>
          obtain ⟨_, -, hrest⟩ := bind_eq_ok.mp hopen
          obtain ⟨_, hallows, -⟩ := bind_eq_ok.mp hrest
          rw [hrejects] at hallows
          cases hallows
  | true =>
      rw [storeShows_onDatabase hdatabase] at hshows
      have hensure := (actionsSessionFrame (fun _ => True) (RowsShow invite.candidate.id
        (earlier ++ (.terminateExam, now) :: later)) invite turn).ensureExamSession
      have hgate : Triple (fun db : PlatformDatabase => RowsShow invite.candidate.id
          (earlier ++ (.terminateExam, now) :: later) db.proctorActions)
          (examSessionOpenInDatabase invite turn) (fun _ _ => False) fun _ => True := by
        refine ((Triple.of_preserves hensure).mono (fun _ h => h) (fun _ _ h => h)
          fun _ _ => trivial).bind fun session => ?_
        refine Triple.bind (Q := fun latestAction _ =>
          ∃ error, assertProctorActionAllowsExam latestAction = .error error)
          (.reads (fun db latestAction hrows hread => ?_) fun _ _ => trivial) fun latestAction => ?_
        · cases hread
          exact latestBlockingAction_terminated hrows hlater (hearlier hdatabase)
        · refine Triple.bind (Q := fun _ _ => False)
            (.reads (fun db _ hrejects hread => ?_) fun _ _ => trivial) fun _ => ?_
          · obtain ⟨error, hrejects⟩ := hrejects
            rw [hrejects] at hread
            cases hread
          · exact fun _ hfalse => hfalse.elim
      -- The operation never answers, and without a fallback its error is that of the gate.
      have htry := tryDatabase_onDatabase hdatabase (hpath hdatabase) hgate store hshows
      cases htried : tryDatabase ctx (examSessionOpenInDatabase invite turn) store with
      | mk ended between =>
          rw [htried] at htry
          cases ended with
          | ok answer =>
              obtain ⟨_, -, hfalse⟩ := htry.1 answer rfl
              exact hfalse.elim
          | error error =>
              unfold assertExamSessionOpen
              rw [bind_error htried]
              exact ⟨error, rfl⟩

end

/-- The gates of a call on a store whose storage shows a termination that is not lifted. The invite
is read first, which writes no action. -/
theorem performStore_terminated {ctx : StoreContext} {store between : Store}
    {invite : CandidateInvite} {inviteToken : String} {turns : Nat → PlatformInput}
    {marks : List ActionMark} (hshows : StoreShows ctx invite.candidate.id marks store)
    (hgate : ∀ store turn, StoreShows ctx invite.candidate.id marks store →
      ∃ error, (assertExamSessionOpen ctx invite turn store).1 = .error error)
    (hinvite : inviteForWorkspaceUse ctx inviteToken turns store = (.ok invite, between))
    (call : CodeCall) (input : CodeInput) :
    ∃ error, (performStore ctx ⟨codeCall call inviteToken input, turns⟩ store).1
      = .error error := by
  -- Reading the invite records no action, on either path.
  have hbetween : StoreShows ctx invite.candidate.id marks between := by
    cases hdatabase : ctx.hasDatabase with
    | false =>
        rw [storeShows_onMemory hdatabase] at hshows ⊢
        have hactions : OnActions (MemoryShows invite.candidate.id marks) (fun _ => True) store :=
          ⟨hshows, trivial⟩
        have hkept : OnActions (MemoryShows invite.candidate.id marks) (fun _ => True)
            (inviteForWorkspaceUse ctx inviteToken turns store).2 :=
          inviteForWorkspaceUse_actions inviteToken turns store hactions
        rw [hinvite] at hkept
        exact hkept.1
    | true =>
        rw [storeShows_onDatabase hdatabase] at hshows ⊢
        have hactions : OnActions (fun _ => True) (RowsShow invite.candidate.id marks) store :=
          ⟨trivial, hshows⟩
        have hkept : OnActions (fun _ => True) (RowsShow invite.candidate.id marks)
            (inviteForWorkspaceUse ctx inviteToken turns store).2 :=
          inviteForWorkspaceUse_actions inviteToken turns store hactions
        rw [hinvite] at hkept
        exact hkept.2
  have hgates : ∃ error, (passGates ctx call inviteToken input turns store).1 = .error error := by
    unfold passGates
    rw [bind_ok hinvite, reads_bind]
    obtain ⟨error, herror⟩ := hgate between (turns 3) hbetween
    split
    · refine ⟨error, ?_⟩
      rw [bind_error (Prod.ext herror rfl)]
    · rename_i error' _
      exact ⟨error', rfl⟩
  obtain ⟨error, herror⟩ := hgates
  refine ⟨error, ?_⟩
  have hthrown : passGates ctx call inviteToken input turns store
      = (.error error, (passGates ctx call inviteToken input turns store).2) := Prod.ext herror rfl
  cases call with
  | saveCandidateCodeDraft =>
      show ((PlatformValue.draft <$> saveCandidateCodeDraft ctx inviteToken input turns) store).1 = _
      unfold saveCandidateCodeDraft
      rw [map_apply, bind_error hthrown]
      rfl
  | runCandidateCode =>
      show ((PlatformValue.codeExecution <$> runCandidateCode ctx inviteToken input turns) store).1
        = _
      unfold runCandidateCode
      rw [map_apply, bind_error hthrown]
      rfl
  | submitCandidateCode =>
      show ((PlatformValue.submission <$> submitCandidateCode ctx inviteToken input turns) store).1
        = _
      unfold submitCandidateCode
      rw [map_apply, bind_error hthrown]
      rfl

/-! ### Behind the gate -/

/-- A draft, a run or a submission whose exam session was open. -/
def PastGate : PlatformWaiting → Prop
  | .examSessionOpen .. | .draft .. | .runTestCases .. | .run .. | .submitQuestion ..
  | .submitTestCases .. | .submit .. => True
  | _ => False

/-- The rest of such a call is the same, whatever actions are recorded meanwhile. -/
theorem resumeCall_actions (ctx : PlatformContext) (turn : PlatformInput) (memory : PlatformMemory)
    (proctorActions : List ProctorAction) {pc : PlatformWaiting} (hpc : PastGate pc) :
    resumeCall ctx turn { memory with proctorActions } pc
      = ({ (resumeCall ctx turn memory pc).1 with proctorActions },
          (resumeCall ctx turn memory pc).2) := by
  -- Behind the gate no place reads the actions, so they can be exchanged under the call.
  cases pc with
  | examSessionOpen invite call input => cases call <;> rfl
  | draft invite input memoryDrafts => rfl
  | runTestCases invite input memoryState => rfl
  | run invite input testCases memoryExecutions =>
      simp only [resumeCall]
      cases runCandidateCodeInStore memoryExecutions invite input turn <;> rfl
  | submitQuestion invite input memoryState =>
      simp only [resumeCall]
      cases getQuestionForEvaluationInStore memoryState invite input.questionId with
      | error error => rfl
      | ok question =>
          simp only [orThrow, afterQuestion]
          split
          · cases assertLanguageCanRun ctx.host.text invite input.language <;> rfl
          · rfl
  | submitTestCases invite input question memoryState => rfl
  | submit invite input question testCases memoryState =>
      simp only [resumeCall]
      cases submitCandidateCodeInStore ctx memoryState invite question input turn <;> rfl
  | _ => exact absurd hpc id

/-! ### A termination -/

/-- A termination holds until the exam is resumed. From the call that records it on, as long as no
call resumes the exam of the candidate, the gate rejects each draft, run and submission. The
store keeps to one path, its clock does not go back, and on the database no resumption is as late
as the termination. A call that has passed the gate before is not asked again. -/
theorem terminated_until_resumed (ctx : StoreContext) (candidateId : String)
    (start store store' : Store) (before after : List StoreEvent) (terminate : StoreEvent)
    (session : AuthSession) (message : String) (value : PlatformValue)
    (hpath : ctx.hasDatabase = true → ctx.databaseFallbackEnabled = false)
    (hstart : StoreShows ctx candidateId [] start)
    (hbefore : (storeMachine ctx).run start before = some store)
    (hcall : terminate.call
      = .createProctorAction candidateId { type := .terminateExam, message } session)
    (hcreated : (performStore ctx terminate store).1 = .ok value)
    (hafter : (storeMachine ctx).run (performStore ctx terminate store).2 after = some store')
    (hresumed : ∀ mark ∈ marksOn ctx candidateId (performStore ctx terminate store).2 after,
      mark.1 ≠ .resumeExam)
    (hties : ctx.hasDatabase = true → ∀ mark ∈ marksOn ctx candidateId start before,
      mark.1 = .resumeExam → mark.2 < (terminate.turns 1).now)
    (hnow : (marksOn ctx candidateId start (before ++ terminate :: after)).Pairwise
      fun mark other => mark.2 ≤ other.2)
    (horder : ∀ mark ∈ marksOn ctx candidateId start (before ++ terminate :: after),
      ∀ other ∈ marksOn ctx candidateId start (before ++ terminate :: after),
      ctx.localeCompare (Js.toISOString mark.2) (Js.toISOString other.2)
        = compare mark.2 other.2) :
    (∀ invite turn, invite.candidate.id = candidateId →
      ∃ error, (assertExamSessionOpen ctx invite turn store').1 = .error error) ∧
    (∀ call inviteToken input turns invite between,
      inviteForWorkspaceUse ctx inviteToken turns store' = (.ok invite, between) →
      invite.candidate.id = candidateId →
      ∃ error, (performStore ctx ⟨codeCall call inviteToken input, turns⟩ store').1
        = .error error) ∧
    ∀ pc, PastGate pc → ∀ turn memory proctorActions,
      resumeCall ctx.toPlatformContext turn { memory with proctorActions } pc
        = ({ (resumeCall ctx.toPlatformContext turn memory pc).1 with proctorActions },
            (resumeCall ctx.toPlatformContext turn memory pc).2) := by
  have hmark : (markOn candidateId terminate).toList
      = [(.terminateExam, (terminate.turns 1).now)] := by
    unfold markOn
    rw [hcall]
    simp
  have hmarks : marksOn ctx candidateId start (before ++ terminate :: after)
      = marksOn ctx candidateId start before ++ (.terminateExam, (terminate.turns 1).now) ::
        marksOn ctx candidateId (performStore ctx terminate store).2 after := by
    rw [marksOn_append before _ hbefore, marksOn, hcreated]
    simp only [hmark, List.singleton_append]
  rw [hmarks] at hnow horder
  -- The storage shows the marks of the run, with the termination among them.
  have hterminated := (performStore_shows hpath candidateId _ terminate store
    (run_shows hpath before hstart hbefore)).1 value hcreated
  have hshows := run_shows hpath after hterminated hafter
  rw [hmark, List.nil_append, List.append_assoc, List.singleton_append] at hshows
  have hgate : ∀ invite : CandidateInvite, invite.candidate.id = candidateId → ∀ reached turn,
      StoreShows ctx candidateId (marksOn ctx candidateId start before ++
        (.terminateExam, (terminate.turns 1).now) ::
          marksOn ctx candidateId (performStore ctx terminate store).2 after) reached →
      ∃ error, (assertExamSessionOpen ctx invite turn reached).1 = .error error := by
    rintro invite rfl reached turn hreached
    exact assertExamSessionOpen_terminated hpath hreached hresumed hties hnow horder turn
  refine ⟨fun invite turn hinvite => hgate invite hinvite store' turn hshows, ?_,
    fun pc hpc turn memory proctorActions =>
      resumeCall_actions ctx.toPlatformContext turn memory proctorActions hpc⟩
  rintro call inviteToken input turns invite between hrun rfl
  exact performStore_terminated hshows (fun reached turn => hgate invite rfl reached turn) hrun
    call input

/-- A proctor of the organization acts on the candidate. -/
def proctorCall (type : ProctorActionType) (uuid : String) : StoreEvent :=
  ⟨.createProctorAction "cand_1" { type, message := "" } (managerOf "org_a"),
    fun _ => { uuid := fun _ => uuid }⟩

/-- The exam is terminated, and paused after that. The gate stays closed. -/
theorem terminated_until_resumed_paused : ∃ error,
    (assertExamSessionOpen clockContext sittingInvite { now := 1 }
      (performStore clockContext (proctorCall .pauseExam "2")
        (performStore clockContext (proctorCall .terminateExam "1") arrivedStore).2).2).1
      = .error error := by
  have hdatabase : clockContext.hasDatabase = true := by decide +kernel
  have hstart : StoreShows clockContext "cand_1" [] arrivedStore := by
    rw [storeShows_onDatabase hdatabase]
    show ((arrivedStore.database.proctorActions.rows.filter (·.candidateId = "cand_1")).map
      fun row => (row.type, row.createdAt)) = []
    decide +kernel
  have hcreated : (performStore clockContext (proctorCall .terminateExam "1") arrivedStore).1
      = .ok (.proctorAction ⟨"proctor_action_1", "cand_1", "exam_1", .terminateExam, "",
        Js.toISOString 0⟩) := by decide +kernel
  exact (terminated_until_resumed clockContext "cand_1" arrivedStore arrivedStore _ []
    [proctorCall .pauseExam "2"] (proctorCall .terminateExam "1") (managerOf "org_a") "" _
    (fun _ => by decide +kernel) hstart rfl rfl hcreated rfl (by decide +kernel)
    (fun _ mark hmark => by cases hmark) (by decide +kernel) (by decide +kernel)).1
    sittingInvite { now := 1 } rfl

/-! ### A resumption, and a submission on its way -/

/-- The exam is terminated and resumed. -/
def terminatedAndResumed : List ProctorRequest :=
  [requestOn "cand_1" .terminateExam 0, requestOn "cand_1" .resumeExam 1]

/-- The candidate in the memory, with a question to be answered in code. -/
def runnerMemory : PlatformMemory where
  organization := (managerOf "org_a").organization
  exams := [{ sittingInvite.exam with languages := ["javascript"] }]
  candidates := [sittingInvite.candidate]
  questions :=
    [{ id := "question_1", examId := "exam_1", title := "Question", description := "",
       type := .coding, points := 10, difficulty := .easy, timeLimitMs := 2000,
       memoryLimitMb := 256, choices := [], createdAt := Js.toISOString 0 }]
  environmentChecks :=
    [{ id := "check_1", candidateId := "cand_1", examId := "exam_1", results := [],
       requiredPassed := true, createdAt := Js.toISOString 0 }]

/-- One `await` of a call. -/
def awaited (id : Nat) (input : PlatformInput) : List PlatformEvent :=
  [.execute id {}, .resume id input]

/-- The runner answers for the submission. -/
def judgedSubmission : PlatformInput where
  uuid := fun _ => "1"
  judged := .ok
    { status := .success, output := "", executionTimeMs := 10, memoryUsageMb := 1, passedTests := 0,
      totalTests := 0, testResults := [] }

/-- A submission is in the code runner when the exam is terminated. -/
def terminatedInRunner : List PlatformEvent :=
  .invoke (.withInvite "invite_1" (.code .submitCandidateCode
      { questionId := "question_1", language := "javascript", code := "" })) {} ::
    (List.replicate 8 (awaited 0 {})).flatten ++
    .invoke (.createProctorAction "cand_1" { type := .terminateExam, message := "" }
      (managerOf "org_a")) {} ::
    awaited 1 {} ++ awaited 0 judgedSubmission

/-- The termination is answered, then the submission, and both are stored. -/
def storedAfterTermination (world : PlatformWorld) : Bool :=
  match world.results with
  | [(1, .ok (.proctorAction action)), (0, .ok (.submission submission))] =>
      decide (action.type = .terminateExam) && decide (action ∈ world.memory.proctorActions) &&
        world.memory.submissions.any (·.id = submission.id)
  | _ => false

/-- A resumption lifts a termination, and a submission that is in the code runner is stored. -/
theorem termination_is_not_final :
    (recorded terminatedAndResumed).map (fun action => (action.candidateId, action.type))
      = [("cand_1", .resumeExam), ("cand_1", .terminateExam)] ∧
    (∃ examSessions, assertExamSessionOpenInStore clockContext.toPlatformContext
      (recorded terminatedAndResumed) [] sittingInvite { now := 2 } = .ok examSessions) ∧
    ∃ world, (platformProgram clockContext.toPlatformContext).machine.run
        (platformInitial runnerMemory) terminatedInRunner = some world ∧
      storedAfterTermination world = true := by
  refine ⟨by decide +kernel, ?_, ?_⟩
  -- The gate sees the resumption, which is newer than the termination.
  · have hnewest : NewestFirst clockContext.toPlatformContext (recorded terminatedAndResumed) := by
      decide +kernel
    have hlatest : assertProctorActionAllowsExam
        (latestMemoryBlockingAction clockContext.toPlatformContext sittingInvite
          (recorded terminatedAndResumed)) = .ok () := by
      rw [latestMemoryBlockingAction_recorded sittingInvite hnewest]
      decide +kernel
    have hsession : (ensureMemoryExamSession clockContext.toPlatformContext [] sittingInvite
        { now := 2 }).toOption.map (fun result => isExpired result.1) = some false := by
      decide +kernel
    cases hensure : ensureMemoryExamSession clockContext.toPlatformContext [] sittingInvite
        { now := 2 } with
    | error error =>
        rw [hensure] at hsession
        cases hsession
    | ok result =>
        rw [hensure] at hsession
        refine ⟨result.2, ?_⟩
        rw [assertExamSessionOpenInStore_remaining hensure (Option.some.inj hsession), hlatest]
        rfl
  -- A submission that is in the runner when the exam is terminated is stored all the same.
  · have hrun : ((platformProgram clockContext.toPlatformContext).machine.run
        (platformInitial runnerMemory) terminatedInRunner).any storedAfterTermination = true := by
      decide +kernel
    obtain ⟨world, hworld, hstored⟩ := (Option.any_eq_true _ _).mp hrun
    exact ⟨world, hworld, hstored⟩

end Dcvp.Proofs
