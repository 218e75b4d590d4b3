import Dcvp.Services.PlatformStore.ExamAdmin

/-!
# `Dcvp.Services.PlatformStore.CandidateAdmin`: what operators do to candidates

The functions of `platform-store.candidate-admin.ts`, `platform-store.invite-email.ts` and
`platform-store.report-save.ts` on the memory path.
-/

set_option autoImplicit false

namespace Dcvp.Services.PlatformStore

open Dcvp.Shared

/-- `CandidateWithExam`: a candidate that passed the tenant check, with the exam that the check
looked at. -/
structure CandidateWithExam where
  candidate : Candidate
  exam : Exam
  deriving DecidableEq

/-- `findCandidateWithExamInStore` with a session: the candidate, and its exam if the session may
see it. -/
def findCandidateWithExamInStore (memoryState : CandidateAdminMemoryState)
    (candidateId : String) (session : AuthSession) : Except ServiceException CandidateWithExam :=
  match memoryState.candidates.find? (·.id = candidateId) with
  | none => .error (.http .notFound "Candidate not found")
  | some candidate => do
      let exam ← findAccessibleExam memoryState.exams candidate.examId session
      .ok { candidate, exam }

/-- The check of the rights in `createProctorActionInStore`. -/
def assertProctorRights (session : AuthSession) : Except ServiceException Unit :=
  if session.user.role ≠ .admin ∧ session.user.role ≠ .organization ∧
      session.user.role ≠ .proctor then
    .error (.http .forbidden "감독 권한이 필요합니다.")
  else .ok ()

/-- The action that goes into the memory. -/
def newProctorAction (candidateId examId : String) (input : CreateProctorActionInput)
    (turn : PlatformInput) : ProctorAction where
  id := turn.createId "proctor_action" 0
  candidateId
  examId
  type := input.type
  message := input.message
  createdAt := turn.nowIso

/-- `createProctorActionInStore`, after the check of the rights. -/
def createProctorActionInStore (memoryState : CandidateAdminMemoryState) (session : AuthSession)
    (candidateId : String) (input : CreateProctorActionInput) (turn : PlatformInput) :
    Except ServiceException (ProctorAction × List ProctorAction) := do
  let candidateWithExam ← findCandidateWithExamInStore memoryState candidateId session
  let action := newProctorAction candidateId candidateWithExam.exam.id input turn
  .ok (action, action :: memoryState.proctorActions)

/-! ### Invite mails -/

/-- `inviteUrl`: the page of the candidate, which the invite token opens. -/
def inviteUrl (ctx : PlatformContext) (candidate : Candidate) : String :=
  ctx.publicWebBaseUrl ++ "/candidate/" ++ candidate.inviteToken

/-- `trySendInviteEmail`: what `sendInvite` answered, or a mail that was not delivered. -/
def trySendInviteEmail (ctx : PlatformContext) :
    Except SendInviteError SendInviteEmailResult → SendInviteEmailResult
  | .ok result => result
  | .error (.configuration provider message) => { delivered := false, provider, message }
  | .error (.error message) =>
      { delivered := false, provider := ctx.configuredProviderName, message }
  -- What was thrown is no `Error`.
  | .error .value =>
      { delivered := false, provider := ctx.configuredProviderName,
        message := "Email provider failed." }

/-- The `log` that `saveInviteEmailLogInStore` makes of the result of a sending. -/
def newInviteEmailLog (ctx : PlatformContext) (candidateWithExam : CandidateWithExam)
    (result : SendInviteEmailResult) (turn : PlatformInput) : InviteEmailLog where
  id := turn.createId "invite_email" 0
  candidateId := candidateWithExam.candidate.id
  examId := candidateWithExam.exam.id
  email := candidateWithExam.candidate.email
  inviteUrl := inviteUrl ctx candidateWithExam.candidate
  provider := result.provider
  providerMessageId := Js.truthy result.providerMessageId
  status := if result.delivered then .sent else .failed
  message := result.message
  sentAt := if result.delivered then some turn.nowIso else none
  createdAt := turn.nowIso

/-- `sendCandidateInviteEmailInStore`, once `sendInvite` has answered: the answer and the log. -/
def sendCandidateInviteEmailInStore (ctx : PlatformContext)
    (candidateWithExam : CandidateWithExam) (memoryLogs : List InviteEmailLog)
    (turn : PlatformInput) : InviteEmailResult × List InviteEmailLog :=
  let result := trySendInviteEmail ctx turn.sent
  let log := newInviteEmailLog ctx candidateWithExam result turn
  ({ candidateId := candidateWithExam.candidate.id
     email := candidateWithExam.candidate.email
     inviteUrl := inviteUrl ctx candidateWithExam.candidate
     delivered := result.delivered
     provider := result.provider
     providerMessageId := Js.truthy result.providerMessageId
     message := result.message
     log := some log }, log :: memoryLogs)

/-! ### Reports -/

/-- The fields of `GenerateReportInput` that a stored report keeps. -/
structure GenerateReportInput where
  examSessionId : String
  candidateId : String
  examId : String
  deriving DecidableEq

/-- `saveCompetencyReportInStore`. The lists and the date of a report are always there, so
the defaults behind `??` are never taken. -/
def saveCompetencyReportInStore (memoryReports : List CompetencyReport)
    (input : GenerateReportInput) (report : CompetencyReport) :
    CompetencyReport × List CompetencyReport :=
  let saved :=
    { report with
      examSessionId := input.examSessionId
      examId := input.examId
      candidateId := input.candidateId }
  (saved, saved :: memoryReports)

end Dcvp.Services.PlatformStore
