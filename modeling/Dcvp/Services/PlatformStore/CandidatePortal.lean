import Dcvp.Services.PlatformStore.State

/-!
# `Dcvp.Services.PlatformStore.CandidatePortal`: the way of a candidate into the exam

The functions of `platform-store.candidate-portal.ts`, `platform-store.identity-environment.ts`
and `platform-store.identity-session.ts` on the memory path, with the two functions at the
end of `platform-store.service.ts`.
-/

set_option autoImplicit false

namespace Dcvp.Services.PlatformStore

open Dcvp.Shared

/-! ### Invites -/

/-- The exception for a token that no candidate has. -/
def inviteNotFound : ServiceException := .http .notFound "Invite not found"

/-- `omitExpectedAnswer`: the question as a candidate may see it. -/
def omitExpectedAnswer (question : Question) : Question := { question with expectedAnswer := none }

/-- The invite of a candidate whose exam is at hand. -/
def inviteOf (memoryState : CandidatePortalMemoryState) (candidate : Candidate) (exam : Exam) :
    CandidateInvite where
  candidate
  exam
  organization := memoryState.organization
  questions := (memoryState.questions.filter (·.examId = exam.id)).map omitExpectedAnswer
  proctorDevices := memoryState.proctorDevices.filter (·.candidateId = candidate.id)
  identityVerification := memoryState.identityVerifications.find? (·.candidateId = candidate.id)
  environmentCheck := memoryState.environmentChecks.find? (·.candidateId = candidate.id)

/-- `getCandidateInviteInStore`: the first candidate with the token, and the records of it and its
exam. -/
def getCandidateInviteInStore (memoryState : CandidatePortalMemoryState) (inviteToken : String) :
    Except ServiceException CandidateInvite :=
  match memoryState.candidates.find? (·.inviteToken = inviteToken) with
  | none => .error inviteNotFound
  | some candidate =>
      match memoryState.exams.find? (·.id = candidate.examId) with
      | none => .error (.http .notFound "Exam not found")
      | some exam =>
          if exam.status = .deleted then .error (.http .notFound "Exam not found")
          else .ok (inviteOf memoryState candidate exam)

/-- `toPublicCandidateInvite`: the invite without its questions. -/
def toPublicCandidateInvite (invite : CandidateInvite) : CandidateInvite :=
  { invite with questions := [] }

/-- `markCandidateReadyInStore`. The invite is read from the array that will be stored. -/
def markCandidateReadyInStore (memoryState : CandidatePortalMemoryState) (inviteToken : String) :
    Except ServiceException (CandidateInvite × List Candidate) :=
  match memoryState.candidates.find? (·.inviteToken = inviteToken) with
  | none => .error inviteNotFound
  | some _ => do
      let candidates :=
        mapWhere (·.inviteToken = inviteToken) (setStatus .ready) memoryState.candidates
      let invite ← getCandidateInviteInStore { memoryState with candidates } inviteToken
      .ok (invite, candidates)

/-! ### The environment check -/

/-- A result as the client sent it, when it is an object: its fields, where they are texts. -/
structure RawEnvironmentResult where
  id : Option String := none
  status : Option String := none
  detail : Option String := none
  deriving DecidableEq

/-- `BrowserEvidence`, as far as it is stored with a report of the environment. -/
structure BrowserEvidence where
  secureContext : Bool
  checkedAt : String
  deriving DecidableEq

/-- `CreateEnvironmentCheckInput`. A result that is no object is `none`. -/
structure CreateEnvironmentCheckInput where
  sessionId : String
  evidenceToken : String
  results : List (Option RawEnvironmentResult)
  browserEvidence : BrowserEvidence
  deriving DecidableEq

/-- `isEnvironmentCheckItemId`: the five items, compared exactly. -/
def environmentCheckItemId : String → Option EnvironmentCheckItemId
  | "browser" => some .browser
  | "network" => some .network
  | "camera" => some .camera
  | "microphone" => some .microphone
  | "screen" => some .screen
  | _ => none

/-- `isEnvironmentCheckStatus`: the three states, compared exactly. -/
def environmentCheckStatus : String → Option EnvironmentCheckStatus
  | "PASSED" => some .passed
  | "WARNING" => some .warning
  | "FAILED" => some .failed
  | _ => none

/-- The body of `normalizeEnvironmentResults`, for one entry of the list. -/
def normalizeEnvironmentResult (result : Option RawEnvironmentResult) :
    Option EnvironmentCheckResult := do
  let result ← result
  let id ← result.id.bind environmentCheckItemId
  some
    -- An unknown item is dropped, an unknown status counts as a failure.
    { id
      status := (result.status.bind environmentCheckStatus).getD .failed
      detail := result.detail }

/-- `normalizeEnvironmentResults`: the entries that name a known item, in their order. -/
def normalizeEnvironmentResults (results : List (Option RawEnvironmentResult)) :
    List EnvironmentCheckResult := results.filterMap normalizeEnvironmentResult

/-- `didPassRequiredEnvironmentChecks`: the first result of each item counts. -/
def didPassRequiredEnvironmentChecks (results : List EnvironmentCheckResult) : Bool :=
  [.browser, .network, .camera, .microphone, .screen].all fun requiredId =>
    match results.find? (·.id = requiredId) with
    | some result => decide (result.status = .passed ∨ result.status = .warning)
    | none => false

/-- `browserEvidenceDetail`: the text that shows the evidence of the browser. -/
def browserEvidenceDetail (evidence : BrowserEvidence) : String :=
  "secureContext=" ++ (if evidence.secureContext then "true" else "false") ++
    "; checkedAt=" ++ evidence.checkedAt

/-- `resultsWithEvidence`: the evidence is added to the detail of the browser's result only. -/
def withBrowserEvidence (detail : String) (result : EnvironmentCheckResult) :
    EnvironmentCheckResult :=
  if result.id = .browser then
    { result with
      detail := some (match Js.truthy result.detail with
        | some own => own ++ "; " ++ detail
        | none => detail) }
  else result

/-- `saveCandidateEnvironmentCheckInStore`: the check, and the list with it. -/
def saveCandidateEnvironmentCheckInStore (memoryChecks : List EnvironmentCheck)
    (invite : CandidateInvite) (input : CreateEnvironmentCheckInput) (turn : PlatformInput) :
    EnvironmentCheck × List EnvironmentCheck :=
  let results := (normalizeEnvironmentResults input.results).map
    (withBrowserEvidence (browserEvidenceDetail input.browserEvidence))
  let check : EnvironmentCheck :=
    { id := turn.createId "envcheck" 0
      candidateId := invite.candidate.id
      examId := invite.exam.id
      results
      requiredPassed := didPassRequiredEnvironmentChecks results
      createdAt := turn.nowIso }
  (check, check :: memoryChecks)

/-! ### The consent -/

/-- The exception for an exam without identity verification. -/
def identityVerificationDisabled : ServiceException :=
  .http .badRequest "이 시험은 본인확인이 비활성화되어 있습니다."

/-- `assertIdentityPrivacyConsent`: an acceptance of the current version, or a refusal. -/
def assertIdentityPrivacyConsent : Option IdentityPrivacyConsentInput →
    Except ServiceException Unit
  | some ⟨true, version⟩ =>
      if version = currentPrivacyPolicyVersion then .ok ()
      else .error (.http .badRequest "본인확인 개인정보 처리에 동의해야 KYC 촬영을 시작할 수 있습니다.")
  | _ => .error (.http .badRequest "본인확인 개인정보 처리에 동의해야 KYC 촬영을 시작할 수 있습니다.")

/-- The candidate with the consent to the current policy. -/
def setConsent (acceptedAt : Int) (candidate : Candidate) : Candidate :=
  { candidate with
    identityPrivacyConsentVersion := some currentPrivacyPolicyVersion
    identityPrivacyConsentAcceptedAt := some (Js.toISOString acceptedAt) }

/-- The new `candidates` of `createCandidateIdentitySession`, with the consent of one of them. -/
def recordIdentityConsent (candidates : List Candidate) (candidateId : String)
    (acceptedAt : Int) : List Candidate :=
  mapWhere (·.id = candidateId) (setConsent acceptedAt) candidates

/-- The check of `createCandidateIdentitySessionInStore`, before it asks the provider. -/
def assertIdentityVerificationEnabled (invite : CandidateInvite) :
    Except ServiceException Unit :=
  if invite.exam.identityVerificationEnabled then .ok () else .error identityVerificationDisabled

/-! ### The verification -/

/-- The checks of `verifyCandidateIdentityInStore` before it asks the provider. They answer
the moment of the consent. -/
def checkIdentityInput (invite : CandidateInvite) (input : CreateIdentityVerificationInput) :
    Except ServiceException String := do
  assertIdentityVerificationEnabled invite
  match Js.truthy invite.candidate.identityPrivacyConsentAcceptedAt with
  | none => .error (.http .badRequest "현재 개인정보 처리방침에 동의한 후 본인확인을 진행해주세요.")
  | some privacyConsentAcceptedAt =>
      if invite.candidate.identityPrivacyConsentVersion ≠ some currentPrivacyPolicyVersion then
        .error (.http .badRequest "현재 개인정보 처리방침에 동의한 후 본인확인을 진행해주세요.")
      else if (Js.truthy input.documentImageName).isSome then
        .error (.http .badRequest ("원본 신분증/얼굴 파일명이나 데이터는 저장하지 않습니다. " ++
          "KYC provider upload reference를 사용하세요."))
      else if (Js.truthy input.providerSessionId).isNone ∨
          (Js.truthy input.documentUploadRef).isNone ∨
          (Js.truthy input.faceUploadRef).isNone then
        .error (.http .badRequest
          "본인확인에는 KYC provider session과 upload reference가 필요합니다.")
      else if ¬ (input.documentCaptured ∧ input.faceImageCaptured ∧ input.livenessConfirmed) then
        .error (.http .badRequest
          "본인확인에는 신분증 촬영, 얼굴 촬영, 라이브니스 확인이 모두 필요합니다.")
      else .ok privacyConsentAcceptedAt

/-- What is stored in place of the name of a picture. -/
def documentCaptureMarker : String := "document-capture-confirmed"

/-- The least score of the document that passes. -/
def minimumDocumentAuthenticityScore : Rat := 85

/-- The least score of the face that passes. -/
def minimumFaceMatchScore : Rat := 80

/-- The least score of the liveness that passes. -/
def minimumLivenessScore : Rat := 80

/-- The checks that the provider has to name. -/
def requiredIdentityVerificationChecks : List String :=
  ["DOCUMENT_AUTHENTICITY", "FACE_MATCH", "LIVENESS", "OCR_NAME_MATCH"]

/-- `didPassIdentityProviderChecks`: the decision, the three scores, the name and the checks. -/
def didPassIdentityProviderChecks (result : IdentityVerificationEngineResult) : Bool :=
  decide (result.providerDecision = .verified) &&
    decide (minimumDocumentAuthenticityScore ≤ result.documentAuthenticityScore) &&
    decide (minimumFaceMatchScore ≤ result.faceMatchScore) &&
    decide (minimumLivenessScore ≤ result.livenessScore) && result.ocrNameMatched &&
    requiredIdentityVerificationChecks.all (result.verificationChecks.contains ·)

/-- `identityFailureReason`: the provider's decision comes before its scores. -/
def identityFailureReason (result : IdentityVerificationEngineResult) : String :=
  if result.providerDecision ≠ .verified then "KYC provider가 본인확인을 승인하지 않았습니다."
  else "KYC provider 점수 기준을 충족하지 못했습니다."

/-- The `verification` of `verifyCandidateIdentityInStore`, with the result of the provider. -/
def newIdentityVerification (invite : CandidateInvite) (input : CreateIdentityVerificationInput)
    (privacyConsentAcceptedAt : String) (result : IdentityVerificationEngineResult)
    (turn : PlatformInput) : IdentityVerification :=
  let passed := didPassIdentityProviderChecks result
  { id := turn.createId "identity" 0
    candidateId := invite.candidate.id
    examId := invite.exam.id
    documentImageName := documentCaptureMarker
    documentCaptureConfirmed := true
    faceImageCaptured := input.faceImageCaptured
    provider := result.provider
    providerDecision := result.providerDecision
    providerReferenceId := result.providerReferenceId
    failureReason := if passed then none else some (identityFailureReason result)
    -- The score of the face is stored under both names.
    similarityScore := result.faceMatchScore
    documentAuthenticityScore := result.documentAuthenticityScore
    faceMatchScore := result.faceMatchScore
    livenessScore := result.livenessScore
    ocrNameMatched := result.ocrNameMatched
    verificationChecks := result.verificationChecks
    privacyConsentVersion := some currentPrivacyPolicyVersion
    privacyConsentAcceptedAt := some privacyConsentAcceptedAt
    status := if passed then .verified else .failed
    verifiedAt := if passed then some turn.nowIso else none
    createdAt := turn.nowIso }

/-- `verifyCandidateIdentityInStore`, once the provider has answered. -/
def verifyCandidateIdentityInStore (memoryVerifications : List IdentityVerification)
    (invite : CandidateInvite) (input : CreateIdentityVerificationInput)
    (privacyConsentAcceptedAt : String) (turn : PlatformInput) :
    Except ServiceException (IdentityVerification × List IdentityVerification) := do
  -- An exception of the provider leaves no verification behind.
  let engineResult ← turn.verified
  let verification :=
    newIdentityVerification invite input privacyConsentAcceptedAt engineResult turn
  .ok (verification, verification :: memoryVerifications)

end Dcvp.Services.PlatformStore
