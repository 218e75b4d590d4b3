import Dcvp.Json
import Dcvp.Services.PlatformStore.State

/-!
# `Dcvp.Services.IdentityVerification`: the answer of the identity provider

The class `IdentityVerificationService` of `services/identity-verification.service.ts`, as far as
`verify` goes, with `rejectUnsafeUploadReference` of `services/identity-provider-security.ts`. The
provider and the parsing of its address are not part of the repository: `KycProvider` has what
they answer.

The body of the provider is untrusted. `normalizeProviderResult` throws for a missing score, a
missing decision and a missing reference, and it bounds every text and the list of checks.
-/

set_option autoImplicit false

namespace Dcvp.Services

open Dcvp.Services.PlatformStore
open Dcvp.Shared

/-- `IdentityVerificationEngineInput`: what the engine judges: the confirmations of the page, or
the references of a session of the provider. -/
structure IdentityVerificationEngineInput where
  candidateId : String
  candidateName : String
  examId : String
  providerSessionId : Option String := none
  documentCaptured : Bool
  faceImageCaptured : Bool
  livenessConfirmed : Bool
  documentUploadRef : Option String := none
  faceUploadRef : Option String := none
  deriving DecidableEq

/-- `SandboxKycResponse`. A field that is `undefined` is `none`. -/
structure SandboxKycResponse where
  provider : Option String := none
  providerDecision : Option JsonValue := none
  providerReferenceId : Option JsonValue := none
  failureReason : Option JsonValue := none
  documentAuthenticityScore : Option JsonValue := none
  faceMatchScore : Option JsonValue := none
  livenessScore : Option JsonValue := none
  ocrNameMatched : Option JsonValue := none
  verificationChecks : Option JsonValue := none

/-- What `verify` gets from outside: the answer of `providerBaseUrl`, the variable
`KYC_SANDBOX_API_KEY`, and the body of the answer to `/identity/verify`. A call that fails, an
answer that is not ok and a body that is no JSON are an exception. -/
structure KycProvider where
  baseUrl : Except ServiceException String
  apiKey : Option String
  answer : String → IdentityVerificationEngineInput → Except ServiceException JsonValue

/-! ### Reading the body -/

/-- `readString`: the field where it is a text that is not blank. -/
def readString (members : List (String × JsonValue)) (key : String) : Option String :=
  -- The text is tested without its white space, and returned with it.
  ((readUnknown members key).bind JsonValue.string?).filter (Js.trim · ≠ "")

/-- `parseProviderResponse`: the fields of an object, and no field of anything else. -/
def parseProviderResponse (value : JsonValue) : SandboxKycResponse :=
  match value.members? with
  | none => {}
  | some members =>
      { provider := readString members "provider"
        providerDecision := readUnknown members "providerDecision"
        providerReferenceId := readUnknown members "providerReferenceId"
        failureReason := readUnknown members "failureReason"
        documentAuthenticityScore := readUnknown members "documentAuthenticityScore"
        faceMatchScore := readUnknown members "faceMatchScore"
        livenessScore := readUnknown members "livenessScore"
        ocrNameMatched := readUnknown members "ocrNameMatched"
        verificationChecks := readUnknown members "verificationChecks" }

/-! ### Checking the fields -/

/-- `requiredScore`: a score from 0 to 100, or an error that names the field. -/
def requiredProviderScore (score : Option JsonValue) (fieldName : String) :
    Except ServiceException Rat :=
  match validScore score with
  | some score => .ok score
  | none =>
      .error (.http .serviceUnavailable
        ("KYC provider 응답의 " ++ fieldName ++ " 값이 0~100 범위의 숫자가 아닙니다."))

/-- `requiredDecision`: one of the three decisions, compared exactly, or an error. -/
def requiredDecision : Option JsonValue → Except ServiceException KycProviderDecision
  | some (.string "VERIFIED") => .ok .verified
  | some (.string "REJECTED") => .ok .rejected
  | some (.string "REVIEW_REQUIRED") => .ok .reviewRequired
  | _ =>
      .error (.http .serviceUnavailable "KYC provider 응답에 유효한 providerDecision 값이 없습니다.")

/-- `requiredString`: a text of the allowed length, trimmed, or an error that names the field. -/
def requiredProviderString (value : Option JsonValue) (fieldName : String) (maxLength : Nat) :
    Except ServiceException String :=
  match (value.bind JsonValue.string?).filter
    (fun text => Js.trim text ≠ "" ∧ Js.length text ≤ maxLength) with
  -- The length is that of the text before it is trimmed.
  | some text => .ok (Js.trim text)
  | none =>
      .error (.http .serviceUnavailable
        ("KYC provider 응답의 " ++ fieldName ++ " 값이 없거나 허용 길이를 초과했습니다."))

/-- The items that the `filter` of `normalizeChecks` keeps. -/
def shortChecks (items : List JsonValue) : List String :=
  (items.filterMap JsonValue.string?).filter (Js.length · ≤ 200)

/-- `normalizeChecks`: the first twenty of the short checks of a list. -/
def normalizeChecks : Option JsonValue → List String
  | some (.array items) => (shortChecks items).take 20
  | _ => []

/-- `sanitizedFailureReason`: a fixed text wherever the provider gave some reason. -/
def sanitizedFailureReason (failureReason : Option JsonValue) : Option String :=
  ((failureReason.bind JsonValue.string?).filter (Js.trim · ≠ "")).map
    fun _ => "KYC provider가 본인확인을 거절했습니다."

/-- `normalizeProviderResult`. The fields are checked in the order of the source. -/
def normalizeProviderResult (result : SandboxKycResponse) :
    Except ServiceException IdentityVerificationEngineResult := do
  let documentAuthenticityScore ←
    requiredProviderScore result.documentAuthenticityScore "documentAuthenticityScore"
  let faceMatchScore ← requiredProviderScore result.faceMatchScore "faceMatchScore"
  let livenessScore ← requiredProviderScore result.livenessScore "livenessScore"
  let providerDecision ← requiredDecision result.providerDecision
  let providerReferenceId ←
    requiredProviderString result.providerReferenceId "providerReferenceId" 256
  .ok
    { documentAuthenticityScore
      faceMatchScore
      livenessScore
      ocrNameMatched := isTrueValue result.ocrNameMatched
      verificationChecks := normalizeChecks result.verificationChecks
      provider := (result.provider.map (Js.takeUnits · 64)).getD "kyc-sandbox"
      providerDecision
      providerReferenceId
      failureReason := sanitizedFailureReason result.failureReason }

/-! ### The call -/

/-- `rejectUnsafeUploadReference`: a reference must not look like the data of the upload itself. -/
def rejectUnsafeUploadReference (text : Js.CaseMapping) (uploadRef : Option String)
    (fieldName : String) : Except ServiceException Unit :=
  match Js.truthy uploadRef with
  | none => .ok ()
  | some uploadRef =>
      let trimmed := Js.trim uploadRef
      let normalized := text.toLowerCase trimmed
      if "data:".toList <+: normalized.toList ∨ "\x7b".toList <+: trimmed.toList ∨
          "[".toList <+: trimmed.toList ∨ 256 < Js.length trimmed then
        .error (.http .serviceUnavailable
          ("KYC " ++ fieldName ++ " upload reference 형식이 안전하지 않습니다."))
      else .ok ()

/-- `verifyWithSandboxProvider`, which is all that `verify` does. -/
def verifyWithSandboxProvider (text : Js.CaseMapping) (provider : KycProvider)
    (input : IdentityVerificationEngineInput) :
    Except ServiceException IdentityVerificationEngineResult := do
  let baseUrl ← provider.baseUrl
  if (Js.truthy provider.apiKey).isNone then
    .error (.http .serviceUnavailable
      "KYC 본인확인에는 KYC_SANDBOX_API_BASE_URL과 KYC_SANDBOX_API_KEY가 필요합니다.")
  else do
    rejectUnsafeUploadReference text input.documentUploadRef "documentUploadRef"
    rejectUnsafeUploadReference text input.faceUploadRef "faceUploadRef"
    let body ← provider.answer baseUrl input
    normalizeProviderResult (parseProviderResponse body)

end Dcvp.Services
