import Dcvp.Services.PlatformStore.Reads

/-!
# `Dcvp.Services.PlatformStore.ExamGate`: the gate of an exam session on both paths

`assertExamSessionOpen` of `platform-store.state.ts`, which every draft, run and submission goes
through. It opens the session first, as `getCandidateWorkspaceInStore` does, and then rejects a
paused, terminated or expired exam.

The two paths do not keep the same: the database keeps the session that was just opened, also
when the call is rejected afterwards. The memory gets it on success only.
-/

set_option autoImplicit false

namespace Dcvp.Services.PlatformStore

open Dcvp.Lib
open Dcvp.Lib.Computation
open Dcvp.Shared

/-- The exception of the gate once the time is over. -/
def examTimeExpired : ServiceException := .http .forbidden "Exam time has expired"

/-- `latestBlockingAction`: the newest row of the candidate that pauses, resumes or ends the exam.
-/
def PlatformTables.latestBlockingAction (t : PlatformTables) (invite : CandidateInvite) :
    Option ProctorAction :=
  (orderByDesc (·.createdAt) (t.proctorActions.rows.filter fun row =>
    decide (row.candidateId = invite.candidate.id) && isBlocking row.type)).head?.map
      mapProctorAction

/-- `examSession.update` of the session of a candidate in an exam. -/
def PlatformDatabase.completeExamSession (db : PlatformDatabase) (key : String × String)
    (completedAt : Int) : Except ServiceException PlatformDatabase :=
  match db.examSessions.findFirst fun session => session.key = key with
  | none => .error (.prisma .recordNotFound)
  | some _ => commit { db.toPlatformTables with
      examSessions := db.examSessions.updateMany (fun session => session.key = key)
        (fun session => { session with completedAt := some completedAt }) fun _ => rfl }

/-- `session.remainingSeconds <= 0`, which is false for `NaN`. -/
def isExpired (session : ExamSession) : Bool :=
  match session.remainingSeconds with
  | some remaining => decide (remaining ≤ 0)
  | none => false

/-- `assertExamSessionOpenInStore` on the database: the latest action, then the time. -/
def examSessionOpenInDatabase (invite : CandidateInvite) (turn : PlatformInput) :
    DatabaseOperation Unit := do
  let session ← ensureExamSession invite turn
  let latestAction ← reads fun db => .ok (db.latestBlockingAction invite)
  reads fun _ => assertProctorActionAllowsExam latestAction
  if isExpired session then do
    -- Each call after the end writes `completedAt` again.
    updates fun db => db.completeExamSession (invite.candidate.id, invite.exam.id) turn.now
    throw examTimeExpired
  else pure ()

/-- `assertExamSessionOpen`: on the database, and on the memory where that does not answer. -/
def assertExamSessionOpen (ctx : StoreContext) (invite : CandidateInvite)
    (turn : PlatformInput) : StoreOperation Unit := do
  match ← tryDatabase ctx (examSessionOpenInDatabase invite turn) with
  | some () => pure ()
  | none => do
      let examSessions ← reads fun store =>
        assertExamSessionOpenInStore ctx.toPlatformContext store.memory.proctorActions
          store.memory.examSessions invite turn
      updates fun store => .ok (store.withMemory { store.memory with examSessions })

end Dcvp.Services.PlatformStore
