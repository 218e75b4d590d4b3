import Dcvp.Services.PlatformStore.Service

/-!
# `Dcvp.Services.PlatformStore.Records`: what the store should keep

The purpose of the store, for the five arrays whose records operations return. `Records` has
these arrays. A `RecordUpdate` is what one operation does to them, and `apply` does it in one
piece, on the arrays as they are. This is the abstract model: it has no snapshots.

A `RecordChange` is one thing that an update changes: a new record, or the status or the
consent of one candidate. It is present as long as the arrays show it (`PresentIn`). A later
change of the same field of the same candidate supersedes it. Nothing supersedes a record.

`nextUpdate` names the update that a suspended call makes in its next turn.
-/

set_option autoImplicit false

namespace Dcvp.Services.PlatformStore

open Dcvp.Shared

/-- The five arrays whose records the operations return and extend. They are what concurrent calls
can lose updates of. -/
structure Records where
  candidates : List Candidate
  codeExecutions : List CodeExecution
  submissions : List Submission
  identityVerifications : List IdentityVerification
  inviteEmailLogs : List InviteEmailLog

/-- The records in the memory of the store. -/
def PlatformMemory.records (memory : PlatformMemory) : Records := { memory with }

/-- What one operation does to the records, as a value: the abstract side of a call, which the
faithful model is compared with. -/
inductive RecordUpdate where
  | addCandidate (candidate : Candidate)
  | addInviteEmailLog (log : InviteEmailLog)
  | addIdentityVerification (verification : IdentityVerification)
  | recordConsent (candidateId : String) (acceptedAt : Int)
  | markReady (inviteToken : String)
  | addCodeExecution (execution : CodeExecution)
  | addSubmission (submission : Submission)

/-- A candidate without its status and its consent. -/
def fixedPart (candidate : Candidate) : Candidate :=
  { candidate with
    status := .invited
    identityPrivacyConsentVersion := none
    identityPrivacyConsentAcceptedAt := none }

/-- The consent of a candidate: its version and its date. -/
def consentOf (candidate : Candidate) : Option String × Option String :=
  (candidate.identityPrivacyConsentVersion, candidate.identityPrivacyConsentAcceptedAt)

/-- One thing that an update changes. A status or a consent is given by the candidate that
has it then. -/
inductive RecordChange where
  | created (candidate : Candidate)
  | status (candidate : Candidate)
  | consent (candidate : Candidate)
  | inviteEmailLog (log : InviteEmailLog)
  | identityVerification (verification : IdentityVerification)
  | codeExecution (execution : CodeExecution)
  | submission (submission : Submission)
  deriving DecidableEq

namespace RecordChange

/-- The records show the change, in the part of the candidate that it made. -/
def PresentIn (records : Records) : RecordChange → Prop
  | .created candidate => ∃ c ∈ records.candidates, fixedPart c = fixedPart candidate
  | .status candidate => ∃ c ∈ records.candidates,
      fixedPart c = fixedPart candidate ∧ c.status = candidate.status
  | .consent candidate => ∃ c ∈ records.candidates,
      fixedPart c = fixedPart candidate ∧ consentOf c = consentOf candidate
  | .inviteEmailLog log => log ∈ records.inviteEmailLogs
  | .identityVerification verification => verification ∈ records.identityVerifications
  | .codeExecution execution => execution ∈ records.codeExecutions
  | .submission record => record ∈ records.submissions

/-- The later change replaces the earlier one. -/
def Supersedes : (later earlier : RecordChange) → Prop
  | .status later, .status earlier => fixedPart later = fixedPart earlier
  | .consent later, .consent earlier => fixedPart later = fixedPart earlier
  | _, _ => False

instance (records : Records) (change : RecordChange) : Decidable (change.PresentIn records) := by
  cases change <;> unfold PresentIn <;> infer_instance

instance (later earlier : RecordChange) : Decidable (later.Supersedes earlier) := by
  cases later <;> cases earlier <;> unfold Supersedes <;> infer_instance

end RecordChange

namespace RecordUpdate

/-- The update in one piece, with the old lists read when it is made. -/
def apply : RecordUpdate → Records → Records
  | .addCandidate candidate, r => { r with candidates := r.candidates ++ [candidate] }
  | .addInviteEmailLog log, r => { r with inviteEmailLogs := log :: r.inviteEmailLogs }
  | .addIdentityVerification verification, r =>
      { r with identityVerifications := verification :: r.identityVerifications }
  | .recordConsent candidateId acceptedAt, r =>
      { r with
        candidates := mapWhere (·.id = candidateId) (setConsent acceptedAt) r.candidates }
  | .markReady inviteToken, r =>
      { r with candidates := mapWhere (·.inviteToken = inviteToken) (setStatus .ready) r.candidates }
  | .addCodeExecution execution, r =>
      { r with codeExecutions := execution :: r.codeExecutions }
  | .addSubmission submission, r =>
      { r with
        submissions := submission :: r.submissions
        candidates := mapWhere (·.id = submission.candidateId) (setStatus .inProgress) r.candidates }

/-- The changes that the update makes. -/
def changes : RecordUpdate → Records → List RecordChange
  | .addCandidate candidate, _ => [.created candidate, .status candidate, .consent candidate]
  | .addInviteEmailLog log, _ => [.inviteEmailLog log]
  | .addIdentityVerification verification, _ => [.identityVerification verification]
  | .recordConsent candidateId acceptedAt, r =>
      (r.candidates.filter (·.id = candidateId)).map (.consent <| setConsent acceptedAt ·)
  | .markReady inviteToken, r =>
      (r.candidates.filter (·.inviteToken = inviteToken)).map (.status <| setStatus .ready ·)
  | .addCodeExecution execution, _ => [.codeExecution execution]
  | .addSubmission submission, r =>
      .submission submission ::
        (r.candidates.filter (·.id = submission.candidateId)).map (.status <| setStatus .inProgress ·)

end RecordUpdate

/-- The update that a suspended call makes in a turn. Without an exception it writes. -/
def nextUpdate (ctx : PlatformContext) (turn : PlatformInput) :
    PlatformWaiting → Option RecordUpdate
  | .examAdmin session (.addCandidate examId input) memoryState =>
      (addCandidateInStore memoryState session examId input turn).toOption.map
        fun result => .addCandidate result.1
  | .sendInvite candidateWithExam _ =>
      some (.addInviteEmailLog
        (newInviteEmailLog ctx candidateWithExam (trySendInviteEmail ctx turn.sent) turn))
  | .verifyIdentity invite input privacyConsentAcceptedAt _ =>
      turn.verified.toOption.map fun result => .addIdentityVerification
        (newIdentityVerification invite input privacyConsentAcceptedAt result turn)
  | .identityConsent invite acceptedAt => some (.recordConsent invite.candidate.id acceptedAt)
  | .candidateReady inviteToken memoryState =>
      (markCandidateReadyInStore memoryState inviteToken).toOption.map
        fun _ => .markReady inviteToken
  | .run invite input _ _ =>
      turn.judged.toOption.map fun result =>
        .addCodeExecution (newCodeExecution invite input result turn)
  | .submit invite input question _ _ =>
      (submissionRunResult ctx question input turn).toOption.map fun result =>
        .addSubmission (newSubmission invite input result turn)
  | _ => none

end Dcvp.Services.PlatformStore
