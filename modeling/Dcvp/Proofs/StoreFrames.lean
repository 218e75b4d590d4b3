import Dcvp.Proofs.ExamGate
import Dcvp.Services.PlatformStore.StoreMethods

/-!
# `Dcvp.Proofs.StoreFrames`: what the methods of the store leave alone

`InStore Pm Pd` is a fact about both storages: `Pm` about the memory, `Pd` about the database.
A `StoreFrame` says that such a fact looks at candidates and exam sessions only (and in the
memory at questions and test cases, which the demo data come from). Then each method that
writes neither of them keeps the fact, on whichever path it takes, and however it ends.

The methods that write candidates or sessions keep it when their one write does. For sessions
a `SessionFrame` says what that is: a session that starts now, and the end of one that is over.
-/

set_option autoImplicit false

namespace Dcvp.Proofs

open Dcvp.Lib
open Dcvp.Lib.Computation
open Dcvp.Shared
open Dcvp.Services.PlatformStore

/-- A fact about the memory and one about the database. -/
def InStore (Pm : PlatformMemory → Prop) (Pd : PlatformDatabase → Prop) (store : Store) : Prop :=
  Pm store.memory ∧ Pd store.database

section
variable {ctx : StoreContext} {α : Type} {Pm : PlatformMemory → Prop}
  {Pd : PlatformDatabase → Prop}

/-! ### The two paths -/

/-- The database path of an operation. Without a database nothing happens, and a failure that falls
back leaves what was written before it. -/
theorem preserves_tryDatabase {operation : DatabaseOperation α} (h : Preserves Pd operation) :
    Preserves (InStore Pm Pd) (tryDatabase ctx operation) := by
  rintro store ⟨hm, hd⟩
  have hdb := h store.database hd
  unfold tryDatabase
  split
  · exact ⟨hm, hd⟩
  · split <;> rename_i heq <;> rw [heq] at hdb
    · exact ⟨hm, hdb⟩
    · split
      · exact ⟨hm, hdb⟩
      · split <;> exact ⟨hm, hdb⟩

/-- An operation that reads the memory where the database has no answer. -/
theorem preserves_orInMemory {answer : StoreOperation (Option α)}
    (h : Preserves (InStore Pm Pd) answer) (f : PlatformMemory → Except ServiceException α) :
    Preserves (InStore Pm Pd) (orInMemory answer f) := by
  refine .bind h fun found => ?_
  cases found with
  | some a => exact .pure a
  | none => exact .reads _

/-- An operation on the memory keeps the fact when what it writes does. Where it throws, nothing is
written. -/
theorem preserves_onMemory {f : PlatformMemory → Except ServiceException (α × PlatformMemory)}
    (h : ∀ m a m', Pm m → f m = .ok (a, m') → Pm m') :
    Preserves (InStore Pm Pd) (onMemory f) := by
  rintro store ⟨hm, hd⟩
  unfold onMemory
  split
  · rename_i a m' heq
    exact ⟨h store.memory a m' hm heq, hd⟩
  · exact ⟨hm, hd⟩

/-- An operation that writes to the memory where the database has no answer. -/
theorem preserves_orOnMemory {answer : StoreOperation (Option α)}
    (hanswer : Preserves (InStore Pm Pd) answer)
    {f : PlatformMemory → Except ServiceException (α × PlatformMemory)}
    (h : ∀ m a m', Pm m → f m = .ok (a, m') → Pm m') :
    Preserves (InStore Pm Pd) (orOnMemory answer f) := by
  refine .bind hanswer fun found => ?_
  cases found with
  | some a => exact .pure a
  | none => exact preserves_onMemory h

/-- An operation on the database leaves the memory alone. -/
theorem preserves_onDatabase {operation : DatabaseOperation α} (h : Preserves Pd operation) :
    Preserves (InStore Pm Pd) (onDatabase operation) :=
  fun store hstore => ⟨hstore.1, h store.database hstore.2⟩

/-- An operation on both storages that may fall back, as `tryDatabase` is for one. -/
theorem preserves_tryStore {operation : StoreOperation α}
    (h : Preserves (InStore Pm Pd) operation) :
    Preserves (InStore Pm Pd) (tryStore ctx operation) := by
  intro store hstore
  have hrun := h store hstore
  unfold tryStore
  split
  · exact hstore
  · split <;> rename_i heq <;> rw [heq] at hrun
    · exact hrun
    · split
      · exact hrun
      · split <;> exact hrun

/-- A call that falls back to a write to the memory preserves a property of both stores, if its
answer from the database and the write do. -/
theorem preserves_orStore {answer : StoreOperation (Option α)}
    (hanswer : Preserves (InStore Pm Pd) answer) {f : PlatformMemory → α × PlatformMemory}
    (h : ∀ m, Pm m → Pm (f m).2) :
    Preserves (InStore Pm Pd) (orOnMemory answer fun m => .ok (f m)) :=
  preserves_orOnMemory hanswer fun m a m' hm heq => by
    have hsnd : (f m).2 = m' := congrArg Prod.snd (Except.ok.inj heq)
    rw [← hsnd]
    exact h m hm

end

/-! ### Facts that a read keeps -/

/-- The fact looks at nothing that a read writes: the demo data, the devices and the events. -/
structure ReadFrame (ctx : StoreContext) (Pm : PlatformMemory → Prop)
    (Pd : PlatformDatabase → Prop) : Prop where
  seeds : ∀ memory now, Pm memory →
    Preserves Pd (ensurePlatformSeedData ctx memory.examAdminMemoryState now)
  memory : ∀ (m : PlatformMemory) (proctorDevices : List ProctorDevice)
    (proctorEvents : List ProctorEvent), Pm m → Pm { m with proctorDevices, proctorEvents }
  database : ∀ (db db' : PlatformDatabase) (proctorDevices : Table ProctorDeviceRow.id)
    (proctorEvents : Table ProctorEventRow.id),
    db'.toPlatformTables = { db.toPlatformTables with proctorDevices, proctorEvents } →
      Pd db → Pd db'

namespace ReadFrame

variable {ctx : StoreContext} {α : Type} {Pm : PlatformMemory → Prop}
  {Pd : PlatformDatabase → Prop} (frame : ReadFrame ctx Pm Pd)

include frame

/-- The database path with the demo data in front of it. The demo data come from the memory, hence
the two facts together. -/
theorem trySeeded {operation : DatabaseOperation α} (h : Preserves Pd operation) (now : Int) :
    Preserves (InStore Pm Pd) (trySeededDatabase ctx operation now) := by
  intro store hstore
  rw [trySeededDatabase_apply]
  exact preserves_tryDatabase (.bind (frame.seeds store.memory now hstore.1) fun _ => h)
    store hstore

/-- To look an invite up writes nothing but the demo data. -/
theorem readCandidateInvite (inviteToken : String) (now : Int) :
    Preserves (InStore Pm Pd) (Services.PlatformStore.readCandidateInvite ctx inviteToken now) :=
  preserves_orInMemory (frame.trySeeded (.reads _) now) _

/-- The end of a stale device, in the database: its row and an event. -/
theorem disconnectDevice (turn : PlatformInput) (n : Nat) (device : ProctorDeviceRow) :
    Preserves Pd (Services.PlatformStore.disconnectDevice turn n device) := by
  refine .bind (.updates fun db db' hd hok => ?_) fun _ => .updates fun db db' hd hok => ?_
  · unfold PlatformDatabase.updateProctorDevice at hok
    split at hok
    · cases hok
    · exact frame.database db db' _ db.proctorEvents (PlatformDatabase.commit_eq_ok hok) hd
  · obtain ⟨events, -, htables⟩ := PlatformDatabase.create_eq_ok hok
    exact frame.database db db' db.proctorDevices events htables hd

/-- The sweep of stale devices, on either path, writes devices and events. -/
theorem markStaleProctorDevices (examId : String) (now : Int) (turn : PlatformInput) :
    Preserves (InStore Pm Pd)
      (Services.PlatformStore.markStaleProctorDevices ctx examId now turn) := by
  refine .bind (preserves_tryDatabase ?_) fun answer => ?_
  · unfold markStaleInDatabase
    split
    · exact fun _ hd => hd
    · refine .bind (.reads _) fun stale => .all fun x hx => ?_
      obtain ⟨n, hn, rfl⟩ := List.mem_mapIdx.mp hx
      exact frame.disconnectDevice turn n _
  · cases answer with
    | some _ => exact .pure ()
    | none =>
        refine .updates fun store store' hstore hok => ?_
        cases hok
        exact ⟨frame.memory store.memory _ _ hstore.1, hstore.2⟩

end ReadFrame

/-! ### Facts about candidates and sessions -/

/-- The fact looks at candidates and exam sessions only. -/
structure StoreFrame (ctx : StoreContext) (Pm : PlatformMemory → Prop)
    (Pd : PlatformDatabase → Prop) : Prop where
  seeds : ∀ memory now, Pm memory →
    Preserves Pd (ensurePlatformSeedData ctx memory.examAdminMemoryState now)
  memory : ∀ m m' : PlatformMemory, m'.candidates = m.candidates →
    m'.examSessions = m.examSessions → m'.questions = m.questions →
    m'.testCases = m.testCases → Pm m → Pm m'
  database : ∀ db db' : PlatformDatabase, db'.candidates = db.candidates →
    db'.examSessions = db.examSessions → Pd db → Pd db'

namespace StoreFrame

variable {ctx : StoreContext} {α : Type} {Pm : PlatformMemory → Prop}
  {Pd : PlatformDatabase → Prop} (frame : StoreFrame ctx Pm Pd)

include frame

/-- A statement that writes other tables. -/
theorem commits {f : PlatformDatabase → Except ServiceException PlatformDatabase}
    (h : ∀ db db', f db = .ok db' →
      db'.candidates = db.candidates ∧ db'.examSessions = db.examSessions) :
    Preserves Pd (updates f) :=
  .updates fun db db' hd hok => frame.database db db' (h db db' hok).1 (h db db' hok).2 hd

omit frame in
/-- Devices and events are none of the four arrays. -/
theorem toReadFrame (frame : StoreFrame ctx Pm Pd) : ReadFrame ctx Pm Pd where
  seeds := frame.seeds
  memory := fun m _ _ hm => frame.memory m _ rfl rfl rfl rfl hm
  database := fun db db' _ _ htables hd => by
    have hcandidates := congrArg PlatformTables.candidates htables
    have hsessions := congrArg PlatformTables.examSessions htables
    exact frame.database db db' hcandidates hsessions hd

/-- The same for a fact about candidates and sessions. -/
theorem trySeeded {operation : DatabaseOperation α} (h : Preserves Pd operation) (now : Int) :
    Preserves (InStore Pm Pd) (trySeededDatabase ctx operation now) :=
  frame.toReadFrame.trySeeded h now

/-- The same for a fact about candidates and sessions, which a read leaves alone. -/
theorem readCandidateInvite (inviteToken : String) (now : Int) :
    Preserves (InStore Pm Pd) (Services.PlatformStore.readCandidateInvite ctx inviteToken now) :=
  frame.toReadFrame.readCandidateInvite inviteToken now

/-- A sweep leaves candidates and sessions alone. -/
theorem markStaleProctorDevices (examId : String) (now : Int) (turn : PlatformInput) :
    Preserves (InStore Pm Pd)
      (Services.PlatformStore.markStaleProctorDevices ctx examId now turn) :=
  frame.toReadFrame.markStaleProctorDevices examId now turn

/-- The lookup of an invite for the workspace: two reads with a sweep between them. -/
theorem inviteForWorkspaceUse (inviteToken : String) (turns : Nat → PlatformInput) :
    Preserves (InStore Pm Pd)
      (Services.PlatformStore.inviteForWorkspaceUse ctx inviteToken turns) :=
  .bind (frame.readCandidateInvite inviteToken _) fun _ =>
    .bind (frame.markStaleProctorDevices _ _ _) fun _ =>
      .bind (frame.readCandidateInvite inviteToken _) fun _ => .bind (.reads _) fun _ => .pure _

/-! ### Operators and proctors -/

/-- The statement that updates an exam writes the table of exams. -/
theorem updateExamStatement (examId : String) (data : ExamRow → ExamRow)
    (keeps : ∀ row, (data row).id = row.id) :
    Preserves Pd (updates fun db => db.updateExam examId data keeps) := by
  refine frame.commits fun db db' hok => ?_
  unfold PlatformDatabase.updateExam at hok
  split at hok
  · cases hok
  · rw [PlatformDatabase.commit_eq_ok hok]
    exact ⟨rfl, rfl⟩

omit frame in
/-- What the memory path of an operation answers besides its value goes into one array. -/
theorem ofMap {β : Type} {x : Except ServiceException (α × β)} (put : β → PlatformMemory)
    {m m' : PlatformMemory} {a : α} (hput : ∀ b, Pm m → Pm (put b)) (hm : Pm m)
    (h : (x.map fun result => (result.1, put result.2)) = .ok (a, m')) : Pm m' := by
  cases x with
  | error error => cases h
  | ok result =>
      cases h
      exact hput _ hm

/-- A change of an exam by an operator. It writes the exam, on one path or the other. -/
theorem updateExam (examId : String) (input : CreateExamInput) (session : AuthSession)
    (turn : PlatformInput) :
    Preserves (InStore Pm Pd)
      (Services.PlatformStore.updateExam ctx examId input session turn) := by
  refine .bind (.reads _) fun _ => preserves_orOnMemory (frame.trySeeded ?_ _) fun m a m' hm hok =>
    ofMap (fun exams => { m with exams }) (fun _ hm => frame.memory m _ rfl rfl rfl rfl hm) hm hok
  exact .bind (.reads _) fun _ => .bind (.reads _) fun _ => .bind (.reads _) fun _ =>
    .bind (.reads _) fun _ => .bind (frame.updateExamStatement examId _ _) fun _ => .reads _

/-- The deletion of an exam marks its row, and leaves the candidates and their sessions. -/
theorem deleteExam (examId : String) (session : AuthSession) (turn : PlatformInput) :
    Preserves (InStore Pm Pd) (Services.PlatformStore.deleteExam ctx examId session turn) := by
  refine .bind (.reads _) fun _ => preserves_orOnMemory (frame.trySeeded ?_ _) fun m a m' hm hok =>
    ofMap (fun exams => { m with exams }) (fun _ hm => frame.memory m _ rfl rfl rfl rfl hm) hm hok
  exact .bind (.reads _) fun _ => .bind (frame.updateExamStatement examId _ _) fun _ => .reads _

/-- An action of a proctor is a row or an entry of its own. The session of the candidate stays as
it is, also when the action is to end the exam. -/
theorem createProctorAction (candidateId : String) (input : CreateProctorActionInput)
    (session : AuthSession) (turns : Nat → PlatformInput) :
    Preserves (InStore Pm Pd)
      (Services.PlatformStore.createProctorAction ctx candidateId input session turns) := by
  refine .bind (.reads _) fun _ =>
    .bind (preserves_orInMemory (frame.trySeeded (.reads _) _) _) fun found =>
      preserves_orStore (frame.trySeeded (.bind (frame.commits fun db db' hok => ?_)
        fun _ => .pure _) _) fun m hm => frame.memory m _ rfl rfl rfl rfl hm
  obtain ⟨actions, -, htables⟩ := PlatformDatabase.create_eq_ok hok
  rw [htables]
  exact ⟨rfl, rfl⟩

/-- The candidate is added at the end, on the memory and on the database, and nothing else of them
changes. -/
theorem addCandidate (hm : ∀ m candidate, Pm m →
      Pm { m with candidates := m.candidates ++ [candidate] })
    (hd : ∀ (db db' : PlatformDatabase) (row : CandidateRow) (candidates : Table CandidateRow.id),
      db.candidates.insert? row = some candidates →
      db'.toPlatformTables = { db.toPlatformTables with candidates } → Pd db → Pd db')
    (examId : String) (input : CreateCandidateInput) (session : AuthSession)
    (turn : PlatformInput) :
    Preserves (InStore Pm Pd)
      (Services.PlatformStore.addCandidate ctx examId input session turn) := by
  refine .bind (.reads _) fun _ => preserves_orOnMemory (frame.trySeeded ?_ _)
    fun m a m' hstore hok => ?_
  · refine .bind (.reads _) fun _ => .bind (.updates fun db db' hdb hok => ?_) fun _ => .pure _
    obtain ⟨candidates, hinsert, htables⟩ := PlatformDatabase.create_eq_ok hok
    exact hd db db' _ candidates hinsert htables hdb
  · unfold addCandidateInStore at hok
    cases hfound : findAccessibleExam m.examAdminMemoryState.exams examId session with
    | error error =>
        rw [hfound] at hok
        cases hok
    | ok exam =>
        rw [hfound] at hok
        cases hok
        exact hm m _ hstore

/-- An entry confirmation writes the status of candidates, on the memory or on the database, and
nothing else of them. -/
theorem markCandidateReady (hm : ∀ m candidates, Pm m → Pm { m with candidates })
    (hd : ∀ (db db' : PlatformDatabase) (candidates : Table CandidateRow.id),
      db'.toPlatformTables = { db.toPlatformTables with candidates } → Pd db → Pd db')
    (inviteToken : String) (turn : PlatformInput) :
    Preserves (InStore Pm Pd)
      (Services.PlatformStore.markCandidateReady ctx inviteToken turn) := by
  refine .bind (preserves_orOnMemory (preserves_tryStore ?_) fun m a m' hstore hok =>
    ofMap (fun candidates => { m with candidates }) (hm m) hstore hok) fun _ => .pure _
  intro store hstore
  unfold candidateReadyOperation
  rw [look_bind]
  refine Preserves.bind (preserves_onDatabase (frame.seeds store.memory _ hstore.1)) (fun _ =>
    .bind (preserves_onDatabase (.reads _)) fun _ =>
      .bind (preserves_onDatabase (.updates fun db db' hdb hok => ?_)) fun _ =>
        frame.readCandidateInvite inviteToken _) store hstore
  unfold PlatformDatabase.updateCandidateStatus at hok
  split at hok
  · cases hok
  · exact hd db db' _ (PlatformDatabase.commit_eq_ok hok) hdb

/-! ### The workspace -/

/-- The gates, for the invites that the workspace may be used with. -/
theorem passGates {store : Store} (call : CodeCall) {inviteToken : String} (input : CodeInput)
    {turns : Nat → PlatformInput} (hstore : InStore Pm Pd store)
    (hgate : ∀ invite between, Services.PlatformStore.inviteForWorkspaceUse ctx inviteToken turns
      store = (.ok invite, between) →
        Preserves (InStore Pm Pd) (assertExamSessionOpen ctx invite (turns 3))) :
    InStore Pm Pd (Services.PlatformStore.passGates ctx call inviteToken input turns store).2 := by
  have hinvite := frame.inviteForWorkspaceUse inviteToken turns store hstore
  unfold Services.PlatformStore.passGates
  exact Preserves.bind_run hinvite fun invite between hrun =>
    Preserves.bind (.reads _) (fun _ => .bind (hgate invite between hrun) fun _ => .pure _) between

/-- A saved draft is a row of its own table. -/
theorem saveDraft (invite : CandidateInvite) (input : CodeInput) (turn : PlatformInput) :
    Preserves (InStore Pm Pd) (Services.PlatformStore.saveDraft ctx invite input turn) := by
  refine preserves_orStore (preserves_tryDatabase (.bind (frame.commits fun db db' hok => ?_)
    fun _ => .reads _)) fun m hm => frame.memory m _ rfl rfl rfl rfl hm
  unfold PlatformDatabase.upsertCodeDraft at hok
  split at hok
  · obtain ⟨drafts, -, htables⟩ := PlatformDatabase.create_eq_ok hok
    rw [htables]
    exact ⟨rfl, rfl⟩
  · rw [PlatformDatabase.commit_eq_ok hok]
    exact ⟨rfl, rfl⟩

omit frame in
/-- The test cases are only read. -/
theorem questionTestCases (questionId : String) (publicOnly : Bool) :
    Preserves (InStore Pm Pd)
      (Services.PlatformStore.questionTestCases ctx questionId publicOnly) :=
  preserves_orInMemory (preserves_tryDatabase (.reads _)) _

omit frame in
/-- The question is only read. -/
theorem questionForEvaluation (invite : CandidateInvite) (questionId : String) :
    Preserves (InStore Pm Pd)
      (Services.PlatformStore.questionForEvaluation ctx invite questionId) :=
  preserves_orInMemory (preserves_tryDatabase (.reads _)) _

/-- A run of the code is recorded with its result. Neither the candidate nor the session is
touched. -/
theorem runCode (invite : CandidateInvite) (input : CodeInput) (turn : PlatformInput) :
    Preserves (InStore Pm Pd) (Services.PlatformStore.runCode ctx invite input turn) := by
  refine .bind (.reads _) fun result => preserves_orStore (preserves_tryDatabase ?_)
    fun m hm => frame.memory m _ rfl rfl rfl rfl hm
  refine .bind (.reads _) fun _ => .bind (.reads _) fun _ => .bind (.reads _) fun rows =>
    .bind (frame.commits fun db db' hok => ?_) fun _ => .reads _
  unfold PlatformDatabase.createCodeExecution at hok
  simp only [bind_eq_ok] at hok
  obtain ⟨executions, -, results, -, hcommit⟩ := hok
  rw [PlatformDatabase.commit_eq_ok hcommit]
  exact ⟨rfl, rfl⟩

/-- A submission writes the status of its candidate, on the memory or on the database, beside the
submission itself. -/
theorem submitCode {invite : CandidateInvite}
    (hm : ∀ m, Pm m →
      Pm { m with candidates := startProgress invite.candidate.id m.candidates })
    (hd : ∀ db db' : PlatformDatabase,
      db.updateCandidateStatus (·.id = invite.candidate.id) .inProgress = .ok db' →
        Pd db → Pd db')
    (question : Question) (input : CodeInput) (turn : PlatformInput) :
    Preserves (InStore Pm Pd)
      (Services.PlatformStore.submitCode ctx invite question input turn) := by
  refine .bind (.reads _) fun runResult => preserves_orStore (preserves_tryDatabase ?_)
    fun m hstore => ?_
  · refine .bind (.reads _) fun rows => .bind (frame.commits fun db db' hok => ?_) fun _ =>
      .bind (.reads _) fun submission =>
        .bind (.updates fun db db' hdb hok => hd db db' hok hdb) fun _ => .pure _
    replace hok : db.createSubmission _ rows = .ok db' := hok
    unfold PlatformDatabase.createSubmission at hok
    simp only [bind_eq_ok] at hok
    obtain ⟨submissions, -, results, -, hcommit⟩ := hok
    rw [PlatformDatabase.commit_eq_ok hcommit]
    exact ⟨rfl, rfl⟩
  · exact frame.memory { m with candidates := startProgress invite.candidate.id m.candidates } _
      rfl rfl rfl rfl (hm m hstore)

end StoreFrame

/-! ### Exam sessions -/

/-- The row of a session that starts now. -/
def startedRow (invite : CandidateInvite) (turn : PlatformInput) (endsAt : Int) :
    ExamSessionRow where
  id := turn.createId "session" 0
  candidateId := invite.candidate.id
  examId := invite.exam.id
  startedAt := turn.now
  endsAt
  createdAt := turn.now

/-- The session that starts now, in the memory. -/
def startedSession (invite : CandidateInvite) (turn : PlatformInput) (endsAt : String) :
    ExamSession where
  id := turn.createId "session" 0
  candidateId := invite.candidate.id
  examId := invite.exam.id
  startedAt := turn.nowIso
  endsAt
  serverNow := turn.nowIso
  remainingSeconds := some (invite.exam.durationMinutes * 60)

/-- The fact stays when the session of the invite starts, and when its row is completed. -/
structure SessionFrame (Pm : PlatformMemory → Prop) (Pd : PlatformDatabase → Prop)
    (invite : CandidateInvite) (turn : PlatformInput) : Prop where
  memory : ∀ m endsAt, memorySession m invite = none → sessionEnd invite.exam turn = .ok endsAt →
    Pm m → Pm { m with examSessions := startedSession invite turn endsAt :: m.examSessions }
  row : ∀ (db db' : PlatformDatabase) (endsAt : Int) (examSessions : Table ExamSessionRow.id),
    Js.timeClip (turn.now + invite.exam.durationMinutes * 60 * 1000) = some endsAt →
    sessionRow db invite = none →
    db.examSessions.insert? (startedRow invite turn endsAt) = some examSessions →
    db'.toPlatformTables = { db.toPlatformTables with examSessions } → Pd db → Pd db'
  completed : ∀ db db' : PlatformDatabase,
    db.completeExamSession (invite.candidate.id, invite.exam.id) turn.now = .ok db' →
    Pd db → Pd db'

/-- What `ensureMemoryExamSession` answers for the array: a stored session with its remaining time,
or a session that is started now. -/
theorem ensureMemoryExamSession_cases {ctx : PlatformContext} {memory : PlatformMemory}
    {invite : CandidateInvite} {turn : PlatformInput} {session : ExamSession}
    {sessions : List ExamSession}
    (h : ensureMemoryExamSession ctx memory.examSessions invite turn = .ok (session, sessions)) :
    (∃ stored, memorySession memory invite = some stored ∧
        session = withRemainingSeconds ctx stored turn ∧ sessions = memory.examSessions) ∨
      memorySession memory invite = none ∧ ∃ endsAt, sessionEnd invite.exam turn = .ok endsAt ∧
        session = startedSession invite turn endsAt ∧
        sessions = startedSession invite turn endsAt :: memory.examSessions := by
  unfold ensureMemoryExamSession at h
  -- A stored session is shown with its remaining time; without one a session is started.
  cases hfind : memorySession memory invite with
  | some stored =>
      have hstored : (memory.examSessions.find? fun session =>
          session.candidateId = invite.candidate.id ∧ session.examId = invite.exam.id)
            = some stored := hfind
      simp only [hstored] at h
      cases h
      exact .inl ⟨stored, rfl, rfl, rfl⟩
  | none =>
      have hstored : (memory.examSessions.find? fun session =>
          session.candidateId = invite.candidate.id ∧ session.examId = invite.exam.id)
            = none := hfind
      simp only [hstored] at h
      obtain ⟨endsAt, hend, h⟩ := bind_eq_ok.mp h
      cases h
      exact .inr ⟨rfl, endsAt, hend, rfl, rfl⟩

/-- What the gate of the memory lets pass: the array with the session, which has seconds left. -/
theorem assertExamSessionOpenInStore_ok {ctx : PlatformContext} {actions : List ProctorAction}
    {sessions sessions' : List ExamSession} {invite : CandidateInvite} {turn : PlatformInput}
    (h : assertExamSessionOpenInStore ctx actions sessions invite turn = .ok sessions') :
    ∃ session, ensureMemoryExamSession ctx sessions invite turn = .ok (session, sessions') ∧
      ∀ remaining, session.remainingSeconds = some remaining → ¬ remaining ≤ 0 := by
  obtain ⟨⟨session, sessions''⟩, hensure, hrest⟩ := bind_eq_ok.mp h
  obtain ⟨-, -, hrest⟩ := bind_eq_ok.mp hrest
  cases hremaining : session.remainingSeconds with
  | none =>
      simp only [hremaining] at hrest
      cases hrest
      exact ⟨session, hensure, fun remaining hsome => by rw [hremaining] at hsome; cases hsome⟩
  | some remaining =>
      simp only [hremaining] at hrest
      split at hrest
      · cases hrest
      · rename_i hleft
        cases hrest
        refine ⟨session, hensure, fun remaining' hsome => ?_⟩
        rw [hremaining] at hsome
        cases hsome
        exact hleft

namespace SessionFrame

variable {ctx : StoreContext} {Pm : PlatformMemory → Prop} {Pd : PlatformDatabase → Prop}
  {invite : CandidateInvite} {turn : PlatformInput} (frame : SessionFrame Pm Pd invite turn)

include frame

/-- A session that is there already stays. Otherwise one starts now, with the end that the exam's
duration gives, as the frame says. -/
theorem ensureExamSession :
    Preserves Pd (Services.PlatformStore.ensureExamSession invite turn) := by
  unfold Services.PlatformStore.ensureExamSession
  cases hend : Js.timeClip (turn.now + invite.exam.durationMinutes * 60 * 1000) with
  | none => exact fun _ h => h
  | some endsAt =>
      refine .bind (.updates fun db db' hdb hok => ?_) fun _ => .reads _
      unfold PlatformDatabase.upsertExamSession at hok
      split at hok
      · cases hok
        exact hdb
      · rename_i hnone
        obtain ⟨examSessions, hinsert, htables⟩ := PlatformDatabase.create_eq_ok hok
        exact frame.row db db' endsAt examSessions hend hnone hinsert htables hdb

/-- The sessions of the memory after the same step: those that were there, or one more that starts
now. -/
theorem memorySessions {memory : PlatformMemory} {session : ExamSession}
    {sessions : List ExamSession} (hm : Pm memory)
    (h : ensureMemoryExamSession ctx.toPlatformContext memory.examSessions invite turn
      = .ok (session, sessions)) : Pm { memory with examSessions := sessions } := by
  rcases ensureMemoryExamSession_cases h with ⟨-, -, -, rfl⟩ | ⟨hnone, endsAt, hend, -, rfl⟩
  · exact hm
  · exact frame.memory memory endsAt hnone hend hm

/-- To read the workspace starts the session where there is none, and writes nothing else. -/
theorem readCandidateWorkspace :
    Preserves (InStore Pm Pd) (Services.PlatformStore.readCandidateWorkspace ctx invite turn) := by
  refine .bind (preserves_tryDatabase (.bind frame.ensureExamSession fun _ => .reads _))
    fun answer => ?_
  cases answer with
  | some workspace => exact .pure workspace
  | none =>
      rintro store ⟨hm, hd⟩
      simp only
      rw [reads_bind]
      cases hget : getCandidateWorkspaceInStore ctx.toPlatformContext
          store.memory.candidateWorkspaceMemoryState invite turn with
      | error error => exact ⟨hm, hd⟩
      | ok result =>
          obtain ⟨⟨session, sessions⟩, hensure, hresult⟩ := bind_eq_ok.mp hget
          cases hresult
          exact ⟨frame.memorySessions hm hensure, hd⟩

/-- The gate starts the session where there is none, and ends the one whose time is over. Both
writes are those of the frame. -/
theorem assertExamSessionOpen :
    Preserves (InStore Pm Pd) (Services.PlatformStore.assertExamSessionOpen ctx invite turn) := by
  refine .bind (preserves_tryDatabase ?_) fun answer => ?_
  · refine .bind frame.ensureExamSession fun session => .bind (.reads _) fun latestAction =>
      .bind (.reads _) fun _ => ?_
    split
    · exact .bind (.updates fun db db' hdb hok => frame.completed db db' hok hdb)
        fun _ => fun _ h => h
    · exact .pure ()
  · cases answer with
    | some _ => exact .pure ()
    | none =>
        rintro store ⟨hm, hd⟩
        simp only
        rw [reads_bind]
        cases hopen : assertExamSessionOpenInStore ctx.toPlatformContext
            store.memory.proctorActions store.memory.examSessions invite turn with
        | error error => exact ⟨hm, hd⟩
        | ok sessions =>
            obtain ⟨session, hensure, -⟩ := assertExamSessionOpenInStore_ok hopen
            exact ⟨frame.memorySessions hm hensure, hd⟩

omit frame in
/-- A property that does not look at the sessions of an exam has the frame conditions of all writes
of sessions. -/
theorem of_other
    (hm : ∀ (m : PlatformMemory) (examSessions : List ExamSession),
      Pm m → Pm { m with examSessions })
    (hd : ∀ (db db' : PlatformDatabase) (examSessions : Table ExamSessionRow.id),
      db'.toPlatformTables = { db.toPlatformTables with examSessions } → Pd db → Pd db')
    (invite : CandidateInvite) (turn : PlatformInput) : SessionFrame Pm Pd invite turn where
  memory := fun m _ _ _ h => hm m _ h
  row := fun db db' _ examSessions _ _ _ htables h => hd db db' examSessions htables h
  completed := fun db db' hok h => by
    unfold PlatformDatabase.completeExamSession at hok
    split at hok
    · cases hok
    · exact hd db db' _ (PlatformDatabase.commit_eq_ok hok) h

end SessionFrame

/-! ### One call -/

namespace StoreFrame

variable {ctx : StoreContext} {Pm : PlatformMemory → Prop} {Pd : PlatformDatabase → Prop}
  (frame : StoreFrame ctx Pm Pd)

include frame

/-- A submission keeps the fact, when the write of the status does. -/
theorem submitCandidateCode {store : Store} {inviteToken : String} {input : CodeInput}
    {turns : Nat → PlatformInput} (hstore : InStore Pm Pd store)
    (hsessions : ∀ invite between, Services.PlatformStore.inviteForWorkspaceUse ctx inviteToken
      turns store = (.ok invite, between) → SessionFrame Pm Pd invite (turns 3))
    (hsubmit : ∀ invite question,
      Preserves (InStore Pm Pd) (Services.PlatformStore.submitCode ctx invite question input
        (turns 4))) :
    InStore Pm Pd
      (Services.PlatformStore.submitCandidateCode ctx inviteToken input turns store).2 := by
  have hgates := frame.passGates .submitCandidateCode input hstore
    fun invite between hrun => (hsessions invite between hrun).assertExamSessionOpen
  unfold Services.PlatformStore.submitCandidateCode
  refine Preserves.bind_run hgates fun invite between _ =>
    Preserves.bind (StoreFrame.questionForEvaluation _ _) (fun question => ?_) between
  split
  · exact .bind (.reads _) fun _ => .bind (StoreFrame.questionTestCases _ _) fun _ =>
      .bind (hsubmit invite question) fun _ => .pure _
  · exact .bind (hsubmit invite question) fun _ => .pure _

/-- A call keeps the fact, when the methods do that write candidates or sessions. -/
theorem performStore {store : Store} (event : StoreEvent) (hstore : InStore Pm Pd store)
    (hsessions : ∀ inviteToken invite between,
      Services.PlatformStore.inviteForWorkspaceUse ctx inviteToken event.turns store
        = (.ok invite, between) → SessionFrame Pm Pd invite (event.turns 3))
    (hadd : ∀ examId input session turn,
      Preserves (InStore Pm Pd) (Services.PlatformStore.addCandidate ctx examId input session turn))
    (hready : ∀ inviteToken, event.call = .markCandidateReady inviteToken →
      InStore Pm Pd
        (Services.PlatformStore.markCandidateReady ctx inviteToken (event.turns 0) store).2)
    (hsubmit : ∀ inviteToken input, event.call = .submitCandidateCode inviteToken input →
      InStore Pm Pd
        (Services.PlatformStore.submitCandidateCode ctx inviteToken input event.turns store).2) :
    InStore Pm Pd (Services.PlatformStore.performStore ctx event store).2 := by
  -- The three code methods pass the gates first.
  have hgates : ∀ call inviteToken input, InStore Pm Pd
      (Services.PlatformStore.passGates ctx call inviteToken input event.turns store).2 :=
    fun call inviteToken input => frame.passGates call input hstore fun invite between hrun =>
      (hsessions inviteToken invite between hrun).assertExamSessionOpen
  unfold Services.PlatformStore.performStore
  cases hcall : event.call with
  | updateExam examId input session =>
      simp only [map_apply]
      exact frame.updateExam examId input session _ store hstore
  | deleteExam examId session =>
      simp only [map_apply]
      exact frame.deleteExam examId session _ store hstore
  | addCandidate examId input session =>
      simp only [map_apply]
      exact hadd examId input session _ store hstore
  | createProctorAction candidateId input session =>
      simp only [map_apply]
      exact frame.createProctorAction candidateId input session _ store hstore
  | markCandidateReady inviteToken =>
      simp only [map_apply]
      exact hready inviteToken hcall
  | getCandidateWorkspace inviteToken =>
      simp only [map_apply]
      have hinvite := frame.inviteForWorkspaceUse inviteToken event.turns store hstore
      unfold Services.PlatformStore.getCandidateWorkspace
      exact Preserves.bind_run hinvite fun invite between hrun =>
        Preserves.bind (hsessions inviteToken invite between hrun).readCandidateWorkspace
          (fun _ => .pure _) between
  | saveCandidateCodeDraft inviteToken input =>
      simp only [map_apply]
      have hgate := hgates .saveCandidateCodeDraft inviteToken input
      unfold Services.PlatformStore.saveCandidateCodeDraft
      exact Preserves.bind_run hgate fun invite between _ => frame.saveDraft invite input _ between
  | runCandidateCode inviteToken input =>
      simp only [map_apply]
      have hgate := hgates .runCandidateCode inviteToken input
      unfold Services.PlatformStore.runCandidateCode
      exact Preserves.bind_run hgate fun invite between _ =>
        Preserves.bind (StoreFrame.questionTestCases _ _)
          (fun _ => .bind (frame.runCode invite input _) fun _ => .pure _) between
  | submitCandidateCode inviteToken input =>
      simp only [map_apply]
      exact hsubmit inviteToken input hcall

end StoreFrame

end Dcvp.Proofs
