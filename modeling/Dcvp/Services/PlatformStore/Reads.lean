import Dcvp.Services.PlatformStore.ProctorDatabase
import Dcvp.Services.PlatformStore.Report
import Dcvp.Services.PlatformStore.StoreDatabase

/-!
# `Dcvp.Services.PlatformStore.Reads`: the reading methods on both paths

The methods of `platform-store.service.ts` that answer what operators and candidates see, with
the database and the memory at hand. `getExamReport` and `getLiveProctorState` sweep the stale
devices of the exam first. `getCandidateWorkspaceInStore` opens the exam session.

A turn has the clock and the random values of one awaited operation.
-/

set_option autoImplicit false

namespace Dcvp.Services.PlatformStore

open Dcvp.Lib
open Dcvp.Lib.Computation
open Dcvp.Shared

/-! ### The sweep -/

/-- The update and the event of one stale device, the `n`-th of the sweep. -/
def disconnectDevice (turn : PlatformInput) (n : Nat) (device : ProctorDeviceRow) :
    DatabaseOperation Unit := do
  updates fun db =>
    db.updateProctorDevice device.id (disconnectRow turn.now turn.now) fun _ => rfl
  updates fun db => db.createProctorEvent (missedEventRow device (turn.uuid n) turn.now)

/-- `markStaleProctorDevicesInStore` on the database. An invalid date is refused. -/
def markStaleInDatabase (examId : String) (before : Option Int) (turn : PlatformInput) :
    DatabaseOperation Unit :=
  match before with
  | none => throw (.prisma .other)
  | some staleBefore => do
      let staleDevices ← reads fun db => .ok (db.staleProctorDevices examId staleBefore)
      all (staleDevices.mapIdx (disconnectDevice turn))

/-- The memory with the arrays that `markStaleProctorDevicesInStore` answers. -/
def PlatformMemory.sweep (ctx : PlatformContext) (memory : PlatformMemory) (examId : String)
    (before : Option Int) (turn : PlatformInput) : PlatformMemory :=
  let result :=
    markStaleProctorDevicesInStore ctx memory.proctorMemoryState examId before turn
  { memory with
    proctorDevices := result.proctorDevices
    proctorEvents := result.proctorEvents }

/-- `markStaleProctorDevices`. The limit is computed when the call is made. -/
def markStaleProctorDevices (ctx : StoreContext) (examId : String) (now : Int)
    (turn : PlatformInput) : StoreOperation Unit := do
  let before := staleBefore ctx.toPlatformContext now
  match ← tryDatabase ctx (markStaleInDatabase examId before turn) with
  | some () => pure ()
  | none =>
      updates fun store =>
        .ok (store.withMemory (store.memory.sweep ctx.toPlatformContext examId before turn))

/-! ### What operators read -/

/-- `getExamReportInStore`: from the database, or from the memory where that does not answer. -/
def getExamReportInStore (ctx : StoreContext) (examId : String) (session : AuthSession)
    (now : Int) : StoreOperation ExamReport :=
  orInMemory
    (trySeededDatabase ctx
      (reads fun db => examReportInDatabase db.toPlatformTables examId session) now)
    fun memory => examReportInMemory ctx.toPlatformContext memory examId session

/-- A check of the rights, before anything else. -/
def assertRights (check : Except ServiceException Unit) : StoreOperation Unit :=
  reads fun _ => check

/-- `getExamReport`: the right to manage exams, the sweep, then the report. -/
def getExamReport (ctx : StoreContext) (examId : String) (session : AuthSession)
    (now : Int) (turn : PlatformInput) : StoreOperation ExamReport := do
  assertRights (assertSessionCanManageExams session)
  markStaleProctorDevices ctx examId now turn
  getExamReportInStore ctx examId session turn.now

/-- `getLiveProctorState`: the right to proctor, the sweep, then the report in its live form. -/
def getLiveProctorState (ctx : StoreContext) (examId : String) (session : AuthSession)
    (now : Int) (turn : PlatformInput) : StoreOperation LiveProctorExamState := do
  assertRights (assertSessionCanProctor session)
  markStaleProctorDevices ctx examId now turn
  let report ← getExamReportInStore ctx examId session turn.now
  pure (buildLiveProctorState report)

/-- `listExams`: the right to view exams, then the list of either path. -/
def listExams (ctx : StoreContext) (session : AuthSession) (now : Int) :
    StoreOperation (List Exam) := do
  assertRights (assertSessionCanViewExams session)
  orInMemory
    (trySeededDatabase ctx
      (reads fun db => .ok (listExamsInDatabase db.toPlatformTables session)) now)
    fun memory => .ok (listExamsInMemory ctx.toPlatformContext memory session)

/-- `getExamDetail`: the right to manage exams, then the detail of either path. -/
def getExamDetail (ctx : StoreContext) (examId : String) (session : AuthSession) (now : Int) :
    StoreOperation ExamDetail := do
  assertRights (assertSessionCanManageExams session)
  orInMemory
    (trySeededDatabase ctx
      (reads fun db => examDetailInDatabase db.toPlatformTables examId session) now)
    fun memory => examDetailInMemory memory examId session

/-- `getDashboard`: the right to view exams, then the counts of either path. -/
def getDashboard (ctx : StoreContext) (session : AuthSession) (now : Int) :
    StoreOperation DashboardSummary := do
  assertRights (assertSessionCanViewExams session)
  orInMemory
    (trySeededDatabase ctx
      (reads fun db => dashboardInDatabase db.toPlatformTables session) now)
    fun memory => .ok (dashboardInMemory ctx.toPlatformContext memory session)

/-! ### What candidates read -/

/-- `getCandidateInviteInStore` on the database: the candidate's row, and those that belong to it.
-/
def candidateInviteInDatabase (t : PlatformTables) (inviteToken : String) :
    Except ServiceException CandidateInvite :=
  match t.candidates.findFirst (·.inviteToken = inviteToken) with
  | none => .error inviteNotFound
  | some candidate =>
      -- The relations of the schema are required, so both rows are there.
      match t.exams.find? candidate.examId with
      | none => .error (.prisma .other)
      | some exam =>
          if exam.status = .deleted then .error inviteNotFound
          else
            match t.organizations.find? exam.organizationId with
            | none => .error (.prisma .other)
            | some organization =>
                .ok
                  { candidate := mapCandidate candidate
                    exam := mapExam exam
                    organization := mapOrganization organization
                    questions := (t.questionsOf exam.id).map mapCandidateQuestion
                    proctorDevices := t.proctorDevicesOf candidate.id
                    identityVerification := (t.identityVerificationsOf candidate.id).head?
                    environmentCheck := (t.environmentChecksOf candidate.id).head? }

/-- `getCandidateInviteInStore` on both paths, the memory being the fallback. -/
def readCandidateInvite (ctx : StoreContext) (inviteToken : String) (now : Int) :
    StoreOperation CandidateInvite :=
  orInMemory
    (trySeededDatabase ctx
      (reads fun db => candidateInviteInDatabase db.toPlatformTables inviteToken) now)
    fun memory => getCandidateInviteInStore memory.candidatePortalMemoryState inviteToken

/-- `mapExamSession`: the row at this clock reading, with the seconds that are left. -/
def mapExamSession (session : ExamSessionRow) (now : Int) : ExamSession where
  id := session.id
  candidateId := session.candidateId
  examId := session.examId
  startedAt := Js.toISOString session.startedAt
  endsAt := Js.toISOString session.endsAt
  completedAt := session.completedAt.map Js.toISOString
  serverNow := Js.toISOString now
  remainingSeconds := remainingSeconds (some session.endsAt) now

/-- `examSession.upsert` with an empty update: a session that exists stays as it is. -/
def PlatformDatabase.upsertExamSession (db : PlatformDatabase) (row : ExamSessionRow) :
    Except ServiceException PlatformDatabase :=
  match db.examSessions.findFirst fun session => session.key = row.key with
  | some _ => .ok db
  | none => create db.examSessions row fun examSessions =>
      { db.toPlatformTables with examSessions }

/-- `ensureExamSession`. An invalid date for the end is refused. -/
def ensureExamSession (invite : CandidateInvite) (turn : PlatformInput) :
    DatabaseOperation ExamSession :=
  match Js.timeClip (turn.now + invite.exam.durationMinutes * 60 * 1000) with
  | none => throw (.prisma .other)
  | some endsAt => do
      let row : ExamSessionRow :=
        { id := turn.createId "session" 0
          candidateId := invite.candidate.id
          examId := invite.exam.id
          startedAt := turn.now
          endsAt
          createdAt := turn.now }
      updates fun db => db.upsertExamSession row
      reads fun db =>
        match db.examSessions.findFirst fun session => session.key = row.key with
        | some session => .ok (mapExamSession session turn.now)
        | none => .error (.prisma .other)

/-- The drafts of a candidate, the one that was saved last first. -/
def PlatformTables.codeDraftsOf (t : PlatformTables) (candidateId : String) : List CodeDraft :=
  (orderByDesc (·.savedAt) (t.codeDrafts.rows.filter (·.candidateId = candidateId))).map
    mapCodeDraft

/-- The workspace of `getCandidateWorkspaceInStore` on the database. -/
def PlatformTables.workspaceOf (t : PlatformTables) (invite : CandidateInvite)
    (examSession : ExamSession) : CandidateWorkspace :=
  { invite with
    submissions := t.submissionsOf invite.candidate.id
    executions := t.executionsOf invite.candidate.id
    proctorEvents := t.proctorEventsOf invite.candidate.id 50
    proctorActions := t.proctorActionsOf invite.candidate.id 20
    examSession
    drafts := t.codeDraftsOf invite.candidate.id }

/-- `getCandidateWorkspaceInStore` on both paths. The new sessions go into the memory. -/
def readCandidateWorkspace (ctx : StoreContext) (invite : CandidateInvite)
    (turn : PlatformInput) : StoreOperation CandidateWorkspace := do
  let answer ← tryDatabase ctx do
    let examSession ← ensureExamSession invite turn
    reads fun db => .ok (db.workspaceOf invite examSession)
  match answer with
  | some workspace => pure workspace
  | none => do
      let result ← reads fun store => getCandidateWorkspaceInStore ctx.toPlatformContext
        store.memory.candidateWorkspaceMemoryState invite turn
      updates fun store => .ok (store.withMemory { store.memory with examSessions := result.2 })
      pure result.1

/-- What a candidate gets to see of the workspace: the invite, the workspace on it, and
`toCandidateWorkspace`. -/
def candidateWorkspaceView (ctx : StoreContext) (inviteToken : String) (now : Int)
    (turn : PlatformInput) : StoreOperation CandidateWorkspace := do
  let invite ← readCandidateInvite ctx inviteToken now
  let workspace ← readCandidateWorkspace ctx invite turn
  pure (toCandidateWorkspace workspace)

end Dcvp.Services.PlatformStore
