import Dcvp.Services.IdentityVerification
import Dcvp.Services.PlatformStore.StoreOperations

/-!
# `Dcvp.Services.PlatformStore.IdentityEnvironment`: checks and scores on both paths

`saveCandidateEnvironmentCheckInStore` and `verifyCandidateIdentityInStore` of
`platform-store.identity-environment.ts` and `saveCompetencyReportInStore` of
`platform-store.report-save.ts`, with the database and the memory at hand, and the method
`verifyCandidateIdentity` of the store.

The scores of a record are any numbers. The columns of the database take whole numbers only, so
the row is built by a function that may throw, as the client does.
-/

set_option autoImplicit false

namespace Dcvp.Services.PlatformStore

open Dcvp.Lib
open Dcvp.Lib.Computation
open Dcvp.Shared

/-! ### The environment check -/

/-- The text of an `EnvironmentCheckItemId`, which `isEnvironmentCheckItemId` reads. -/
def environmentCheckItemText : EnvironmentCheckItemId → String
  | .browser => "browser"
  | .network => "network"
  | .camera => "camera"
  | .microphone => "microphone"
  | .screen => "screen"

/-- The text of an `EnvironmentCheckStatus`, which `isEnvironmentCheckStatus` reads. -/
def environmentCheckStatusText : EnvironmentCheckStatus → String
  | .passed => "PASSED"
  | .warning => "WARNING"
  | .failed => "FAILED"

/-- `toEnvironmentCheckJson`: the results as the column of the row holds them. -/
def toEnvironmentCheckJson (results : List EnvironmentCheckResult) :
    List (Option RawEnvironmentResult) :=
  results.map fun result =>
    some
      { id := some (environmentCheckItemText result.id)
        status := some (environmentCheckStatusText result.status)
        detail := result.detail }

/-- `resultsWithEvidence`: the known results, with the evidence of the browser. -/
def resultsWithEvidence (input : CreateEnvironmentCheckInput) : List EnvironmentCheckResult :=
  (normalizeEnvironmentResults input.results).map
    (withBrowserEvidence (browserEvidenceDetail input.browserEvidence))

/-- The row that `saveCandidateEnvironmentCheckInStore` creates for an invite. -/
def newEnvironmentCheckRow (invite : CandidateInvite) (input : CreateEnvironmentCheckInput)
    (turn : PlatformInput) : EnvironmentCheckRow where
  id := turn.createId "envcheck" 0
  candidateId := invite.candidate.id
  examId := invite.exam.id
  results := some (toEnvironmentCheckJson (resultsWithEvidence input))
  requiredPassed := didPassRequiredEnvironmentChecks (resultsWithEvidence input)
  createdAt := turn.now

/-- `saveCandidateEnvironmentCheckInStore` on the database: the row is created and mapped. -/
def saveEnvironmentCheckInDatabase (invite : CandidateInvite)
    (input : CreateEnvironmentCheckInput) (turn : PlatformInput) :
    DatabaseOperation EnvironmentCheck := do
  let row := newEnvironmentCheckRow invite input turn
  updates fun db => PlatformDatabase.create db.environmentChecks row fun environmentChecks =>
    { db.toPlatformTables with environmentChecks }
  pure (mapEnvironmentCheck row)

/-- `saveCandidateEnvironmentCheckInStore` on both paths, the memory being the fallback. -/
def saveEnvironmentCheck (ctx : StoreContext) (invite : CandidateInvite)
    (input : CreateEnvironmentCheckInput) (turn : PlatformInput) :
    StoreOperation EnvironmentCheck :=
  orOnMemory (tryDatabase ctx (saveEnvironmentCheckInDatabase invite input turn)) fun memory =>
    let result := saveCandidateEnvironmentCheckInStore memory.environmentChecks invite input turn
    .ok (result.1, { memory with environmentChecks := result.2 })

/-! ### The verification -/

/-- The text of a `KycProviderDecision`, which `normalizeKycProviderDecision` reads. -/
def kycProviderDecisionText : KycProviderDecision → String
  | .verified => "VERIFIED"
  | .rejected => "REJECTED"
  | .reviewRequired => "REVIEW_REQUIRED"

/-- The row that `verifyCandidateIdentityInStore` creates, unless a score is no integer. -/
def identityVerificationRow (ctx : StoreContext) (invite : CandidateInvite)
    (input : CreateIdentityVerificationInput) (privacyConsentAcceptedAt : String)
    (result : IdentityVerificationEngineResult) (turn : PlatformInput) :
    Except ServiceException IdentityVerificationRow := do
  let passed := didPassIdentityProviderChecks result
  -- The scores are numbers, the columns integers. A fraction is refused by the client.
  let similarityScore ← intColumn result.faceMatchScore
  let documentAuthenticityScore ← intColumn result.documentAuthenticityScore
  let faceMatchScore ← intColumn result.faceMatchScore
  let livenessScore ← intColumn result.livenessScore
  let acceptedAt ← dateColumn ctx privacyConsentAcceptedAt
  .ok
    { id := turn.createId "identity" 0
      candidateId := invite.candidate.id
      examId := invite.exam.id
      documentImageName := documentCaptureMarker
      documentCaptureConfirmed := true
      faceImageCaptured := input.faceImageCaptured
      provider := result.provider
      providerDecision := kycProviderDecisionText result.providerDecision
      providerReferenceId := result.providerReferenceId
      failureReason := if passed then none else some (identityFailureReason result)
      similarityScore
      documentAuthenticityScore
      faceMatchScore
      livenessScore
      ocrNameMatched := result.ocrNameMatched
      verificationChecks := result.verificationChecks
      privacyConsentVersion := some currentPrivacyPolicyVersion
      privacyConsentAcceptedAt := some acceptedAt
      status := if passed then .verified else .failed
      verifiedAt := if passed then some turn.now else none
      createdAt := turn.now }

/-- `verifyCandidateIdentityInStore` on the database, once the provider has answered. -/
def verifyIdentityInDatabase (ctx : StoreContext) (invite : CandidateInvite)
    (input : CreateIdentityVerificationInput) (privacyConsentAcceptedAt : String)
    (result : IdentityVerificationEngineResult) (turn : PlatformInput) :
    DatabaseOperation IdentityVerification := do
  let row ← reads fun _ =>
    identityVerificationRow ctx invite input privacyConsentAcceptedAt result turn
  updates fun db =>
    PlatformDatabase.create db.identityVerifications row fun identityVerifications =>
      { db.toPlatformTables with identityVerifications }
  pure (mapIdentityVerification row)

/-- `verifyCandidateIdentityInStore` on both paths: the input, the provider, then the record. -/
def verifyIdentity (ctx : StoreContext) (invite : CandidateInvite)
    (input : CreateIdentityVerificationInput) (turn : PlatformInput) :
    StoreOperation IdentityVerification := do
  let privacyConsentAcceptedAt ← reads fun _ => checkIdentityInput invite input
  let engineResult ← reads fun _ => turn.verified
  orOnMemory
    (tryDatabase ctx
      (verifyIdentityInDatabase ctx invite input privacyConsentAcceptedAt engineResult turn))
    fun memory =>
      let verification :=
        newIdentityVerification invite input privacyConsentAcceptedAt engineResult turn
      .ok (verification, { memory with
        identityVerifications := verification :: memory.identityVerifications })

/-- `getCandidateInvite`: the invite, after the sweep of its exam's devices. -/
def getCandidateInvite (ctx : StoreContext) (inviteToken : String)
    (turns : Nat → PlatformInput) : StoreOperation CandidateInvite := do
  let first ← readCandidateInvite ctx inviteToken (turns 0).now
  markStaleProctorDevices ctx first.exam.id (turns 1).now (turns 1)
  -- The sweep may have changed the devices, so the invite is read again.
  readCandidateInvite ctx inviteToken (turns 2).now

/-- The input of `verify` that `verifyCandidateIdentityInStore` makes. -/
def identityEngineInput (invite : CandidateInvite) (input : CreateIdentityVerificationInput) :
    IdentityVerificationEngineInput where
  candidateId := invite.candidate.id
  candidateName := invite.candidate.name
  examId := invite.exam.id
  providerSessionId := input.providerSessionId
  documentCaptured := input.documentCaptured
  faceImageCaptured := input.faceImageCaptured
  livenessConfirmed := input.livenessConfirmed
  documentUploadRef := input.documentUploadRef
  faceUploadRef := input.faceUploadRef

/-- `verifyCandidateIdentity`: the provider is called for the invite of the token. -/
def verifyCandidateIdentity (ctx : StoreContext) (provider : KycProvider) (inviteToken : String)
    (input : CreateIdentityVerificationInput) (turns : Nat → PlatformInput) :
    StoreOperation IdentityVerification := do
  let invite ← getCandidateInvite ctx inviteToken turns
  let verified :=
    verifyWithSandboxProvider ctx.host.text provider (identityEngineInput invite input)
  verifyIdentity ctx invite input { turns 3 with verified }

/-! ### The report -/

/-- The row that `saveCompetencyReportInStore` creates. Its date is the default of the column. -/
def competencyReportRow (input : GenerateReportInput) (report : CompetencyReport) (now : Int) :
    Except ServiceException CompetencyReportRow := do
  let problemSolvingScore ← intColumn report.problemSolvingScore
  let implementationScore ← intColumn report.implementationScore
  let debuggingScore ← intColumn report.debuggingScore
  let codeQualityScore ← intColumn report.codeQualityScore
  let timeManagementScore ← intColumn report.timeManagementScore
  let integrityScore ← intColumn report.integrityScore
  let overallScore ← intColumn report.overallScore
  .ok
    { id := report.id
      examSessionId := input.examSessionId
      examId := input.examId
      candidateId := input.candidateId
      problemSolvingScore
      implementationScore
      debuggingScore
      codeQualityScore
      timeManagementScore
      integrityScore
      overallScore
      aiSummary := report.aiSummary
      strengths := report.strengths
      improvementAreas := report.improvementAreas
      recommendations := report.recommendations
      createdAt := now }

/-- `saveCompetencyReportInStore` on the database: the row is created and mapped. -/
def saveCompetencyReportInDatabase (input : GenerateReportInput) (report : CompetencyReport)
    (now : Int) : DatabaseOperation CompetencyReport := do
  let row ← reads fun _ => competencyReportRow input report now
  updates fun db =>
    PlatformDatabase.create db.competencyReports row fun competencyReports =>
      { db.toPlatformTables with competencyReports }
  pure (mapCompetencyReport row)

/-- `saveCompetencyReport`: on the database, and on the memory where that does not answer. -/
def saveCompetencyReport (ctx : StoreContext) (input : GenerateReportInput)
    (report : CompetencyReport) (now : Int) : StoreOperation CompetencyReport :=
  orOnMemory (tryDatabase ctx (saveCompetencyReportInDatabase input report now)) fun memory =>
    let result := saveCompetencyReportInStore memory.competencyReports input report
    .ok (result.1, { memory with competencyReports := result.2 })

end Dcvp.Services.PlatformStore
