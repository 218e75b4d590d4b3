import Dcvp.Proofs.StoredRecords
import Dcvp.Proofs.StoreFrames

/-!
# `Dcvp.Proofs.IdentityDecision`: the decision about an identity

`docs/identity-provider-spec.md` publishes when a candidate is verified: the decision of the
provider, three scores, the name and four checks. `MeetsContract` states these conditions on the
raw body.

The service bounds the list of checks before the decision: it keeps strings of at most 200 code
units, and of these the first twenty. `identity_decision_matches` says that the stored status
follows the contract on this part of the list (`InFirstChecks`), and that a call that throws
stores nothing. With the whole list (`InList`) the contract is met more often:
`late_check_fails` is a body that meets it and is stored as failed.
-/

set_option autoImplicit false

namespace Dcvp.Proofs

open Dcvp.Lib
open Dcvp.Lib.Computation
open Dcvp.Shared
open Dcvp.Services
open Dcvp.Services.PlatformStore

/-! ### The contract -/

/-- A field of the body. -/
def bodyField (body : JsonValue) (key : String) : Option JsonValue :=
  body.members?.bind (readUnknown · key)

/-- The value is a number, and at least the bound. -/
def NumberFrom (value : Option JsonValue) (bound : Rat) : Prop :=
  ∃ number, value = some (.number number) ∧ bound ≤ number

/-- The conditions of the contract on a body, where `Lists items name` says that the list has the
name of a check. -/
structure MeetsContract (Lists : List JsonValue → String → Prop) (body : JsonValue) : Prop where
  decision : bodyField body "providerDecision" = some (.string "VERIFIED")
  document : NumberFrom (bodyField body "documentAuthenticityScore") 85
  face : NumberFrom (bodyField body "faceMatchScore") 80
  liveness : NumberFrom (bodyField body "livenessScore") 80
  name : bodyField body "ocrNameMatched" = some (.bool true)
  checks : ∃ items, bodyField body "verificationChecks" = some (.array items) ∧
    ∀ check ∈ requiredIdentityVerificationChecks, Lists items check

/-- The name is one of the items. -/
def InList (items : List JsonValue) (check : String) : Prop := JsonValue.string check ∈ items

/-- The name is among the first twenty strings of at most 200 code units. -/
def InFirstChecks (items : List JsonValue) (check : String) : Prop :=
  check ∈ (shortChecks items).take 20

/-! ### Reading the body -/

/-- `parseProviderResponse` reads each field of its record from the body alone, so a later proof
can look at one field without the others. -/
theorem parseProviderResponse_eq (body : JsonValue) :
    parseProviderResponse body =
      { provider := body.members?.bind (readString · "provider")
        providerDecision := bodyField body "providerDecision"
        providerReferenceId := bodyField body "providerReferenceId"
        failureReason := bodyField body "failureReason"
        documentAuthenticityScore := bodyField body "documentAuthenticityScore"
        faceMatchScore := bodyField body "faceMatchScore"
        livenessScore := bodyField body "livenessScore"
        ocrNameMatched := bodyField body "ocrNameMatched"
        verificationChecks := bodyField body "verificationChecks" } := by
  unfold parseProviderResponse bodyField
  cases body.members? <;> rfl

/-- What a result has from the fields of the answer. -/
structure ReadFrom (response : SandboxKycResponse) (result : IdentityVerificationEngineResult) :
    Prop where
  document : validScore response.documentAuthenticityScore = some result.documentAuthenticityScore
  face : validScore response.faceMatchScore = some result.faceMatchScore
  liveness : validScore response.livenessScore = some result.livenessScore
  decision : requiredDecision response.providerDecision = .ok result.providerDecision
  name : result.ocrNameMatched = isTrueValue response.ocrNameMatched
  checks : result.verificationChecks = normalizeChecks response.verificationChecks

/-- A score that the adapter takes is a number between 0 and 100. -/
theorem requiredProviderScore_ok {value : Option JsonValue} {fieldName : String} {score : Rat}
    (h : requiredProviderScore value fieldName = .ok score) : validScore value = some score := by
  unfold requiredProviderScore at h
  split at h
  · rename_i heq
    cases h
    exact heq
  · cases h

/-- A result that is not refused has each of its fields read from the response of the provider. -/
theorem normalizeProviderResult_ok {response : SandboxKycResponse}
    {result : IdentityVerificationEngineResult} (h : normalizeProviderResult response = .ok result) :
    ReadFrom response result := by
  unfold normalizeProviderResult at h
  simp only [bind_eq_ok] at h
  obtain ⟨document, hdocument, face, hface, liveness, hliveness, decision, hdecision, reference,
    -, hresult⟩ := h
  cases hresult
  exact
    { document := requiredProviderScore_ok hdocument
      face := requiredProviderScore_ok hface
      liveness := requiredProviderScore_ok hliveness
      decision := hdecision
      name := rfl
      checks := rfl }

/-- A score that is accepted reaches the bound when the number does. -/
theorem numberFrom_iff {value : Option JsonValue} {score : Rat}
    (h : validScore value = some score) (bound : Rat) :
    NumberFrom value bound ↔ bound ≤ score := by
  obtain ⟨hvalue, -, -⟩ := validScore_eq_some.mp h
  constructor
  · rintro ⟨number, hnumber, hbound⟩
    rw [hvalue] at hnumber
    cases hnumber
    exact hbound
  · exact fun hbound => ⟨score, hvalue, hbound⟩

/-- The decision is the text of the provider, letter by letter. -/
theorem requiredDecision_verified_iff {value : Option JsonValue} {decision : KycProviderDecision}
    (h : requiredDecision value = .ok decision) :
    value = some (.string "VERIFIED") ↔ decision = .verified := by
  unfold requiredDecision at h
  split at h <;> cases h <;> simp

/-- A flag counts as set when it is the boolean, and no text or number in its place. -/
theorem isTrue_iff (value : Option JsonValue) :
    isTrueValue value = true ↔ value = some (.bool true) := by
  constructor
  · intro h
    unfold isTrueValue at h
    split at h
    · rfl
    · cases h
  · rintro rfl
    rfl

/-- The list that the decision sees: it has all the named checks exactly when the provider has sent
a list with each of them among its first short texts. -/
theorem mem_normalizeChecks_iff (value : Option JsonValue) (names : List String)
    (hnames : names ≠ []) :
    (∀ check ∈ names, check ∈ normalizeChecks value) ↔
      ∃ items, value = some (.array items) ∧ ∀ check ∈ names, InFirstChecks items check := by
  constructor
  · intro h
    cases value with
    | none =>
        obtain ⟨check, hcheck⟩ := List.exists_mem_of_ne_nil names hnames
        cases h check hcheck
    | some value =>
        cases value with
        | array items => exact ⟨items, rfl, h⟩
        | _ =>
            -- What is no array has no checks, and some are required.
            obtain ⟨check, hcheck⟩ := List.exists_mem_of_ne_nil names hnames
            cases h check hcheck
  · rintro ⟨items, rfl, h⟩
    exact h

/-- The decision about a result is the contract on the body, with the first checks for all. -/
theorem didPass_iff_meetsContract {body : JsonValue} {result : IdentityVerificationEngineResult}
    (h : normalizeProviderResult (parseProviderResponse body) = .ok result) :
    didPassIdentityProviderChecks result = true ↔ MeetsContract InFirstChecks body := by
  have hread := normalizeProviderResult_ok h
  rw [parseProviderResponse_eq] at hread
  -- Each part of the contract is about a field of the body, each part of the decision about the
  -- parsed value of that field.
  have hdecision : bodyField body "providerDecision" = some (.string "VERIFIED") ↔ _ :=
    requiredDecision_verified_iff hread.decision
  have hdocument : NumberFrom (bodyField body "documentAuthenticityScore") 85 ↔ _ :=
    numberFrom_iff hread.document 85
  have hface : NumberFrom (bodyField body "faceMatchScore") 80 ↔ _ :=
    numberFrom_iff hread.face 80
  have hliveness : NumberFrom (bodyField body "livenessScore") 80 ↔ _ :=
    numberFrom_iff hread.liveness 80
  have hname := isTrue_iff (bodyField body "ocrNameMatched")
  have hchecks := mem_normalizeChecks_iff (bodyField body "verificationChecks")
    requiredIdentityVerificationChecks (by decide)
  have hpass : didPassIdentityProviderChecks result = true ↔
      ((((result.providerDecision = .verified ∧ 85 ≤ result.documentAuthenticityScore) ∧
        80 ≤ result.faceMatchScore) ∧ 80 ≤ result.livenessScore) ∧ result.ocrNameMatched = true) ∧
        ∀ check ∈ requiredIdentityVerificationChecks, check ∈ result.verificationChecks := by
    simp only [didPassIdentityProviderChecks, Bool.and_eq_true, decide_eq_true_iff,
      List.all_eq_true, List.contains_iff_mem]
    exact Iff.rfl
  rw [hpass, hread.name, hread.checks, ← hdecision, ← hdocument, ← hface, ← hliveness, hname,
    hchecks]
  constructor
  · rintro ⟨⟨⟨⟨⟨hverified, hscore⟩, hmatch⟩, hlive⟩, hmatched⟩, hlisted⟩
    exact ⟨hverified, hscore, hmatch, hlive, hmatched, hlisted⟩
  · intro hmeets
    exact ⟨⟨⟨⟨⟨hmeets.decision, hmeets.document⟩, hmeets.face⟩, hmeets.liveness⟩, hmeets.name⟩,
      hmeets.checks⟩

/-! ### The call -/

/-- Between the two states one verification has been stored, with this status. -/
inductive StoresVerification (before after : Store) (status : IdentityVerificationStatus) :
    Prop where
  | inMemory (verification : IdentityVerification)
      (stored : after.memory.identityVerifications =
        verification :: before.memory.identityVerifications)
      (holds : verification.status = status)
  | inDatabase (row : IdentityVerificationRow)
      (stored : after.database.identityVerifications.rows =
        before.database.identityVerifications.rows ++ [row])
      (holds : row.status = status)

/-- The verifications of both storages are those of another store. -/
def SameVerifications (before : Store) : Store → Prop :=
  InStore (fun memory => memory.identityVerifications = before.memory.identityVerifications)
    (fun db => db.identityVerifications = before.database.identityVerifications)

/-- Reading the invite writes no verification, on either path, for it starts at most the demo data
and the sweep of devices. -/
theorem getCandidateInvite_keeps (ctx : StoreContext) (inviteToken : String)
    (turns : Nat → PlatformInput) (before : Store) :
    Preserves (SameVerifications before) (getCandidateInvite ctx inviteToken turns) := by
  have frame : ReadFrame ctx
      (fun memory => memory.identityVerifications = before.memory.identityVerifications)
      (fun db => db.identityVerifications = before.database.identityVerifications) :=
    { seeds := fun memory now _ => ensurePlatformSeedData_preserves ctx _ now
        fun db db' _ _ _ _ _ hdb htables => by
          have hkept := congrArg PlatformTables.identityVerifications htables
          exact hkept.trans hdb
      memory := fun _ _ _ hm => hm
      database := fun db db' _ _ htables hdb => by
        have hkept := congrArg PlatformTables.identityVerifications htables
        exact hkept.trans hdb }
  exact .bind (frame.readCandidateInvite inviteToken _) fun _ =>
    .bind (frame.markStaleProctorDevices _ _ _) fun _ => frame.readCandidateInvite inviteToken _

/-- The row of a verification is verified exactly when all checks of the provider have passed. -/
theorem status_identityVerificationRow {ctx : StoreContext} {invite : CandidateInvite}
    {input : CreateIdentityVerificationInput} {acceptedAt : String}
    {result : IdentityVerificationEngineResult} {turn : PlatformInput}
    {row : IdentityVerificationRow}
    (h : identityVerificationRow ctx invite input acceptedAt result turn = .ok row) :
    row.status = if didPassIdentityProviderChecks result then .verified else .failed := by
  unfold identityVerificationRow at h
  simp only [bind_eq_ok] at h
  obtain ⟨_, -, _, -, _, -, _, -, _, -, hrow⟩ := h
  cases hrow
  rfl

/-- What the service answers is made from the body of the provider. -/
theorem verifyWithSandboxProvider_ok {text : Js.CaseMapping} {provider : KycProvider}
    {input : IdentityVerificationEngineInput} {result : IdentityVerificationEngineResult}
    (h : verifyWithSandboxProvider text provider input = .ok result) :
    ∃ url body, provider.answer url input = .ok body ∧
      normalizeProviderResult (parseProviderResponse body) = .ok result := by
  unfold verifyWithSandboxProvider at h
  obtain ⟨url, -, hrest⟩ := bind_eq_ok.mp h
  split at hrest
  · cases hrest
  · obtain ⟨_, -, hrest⟩ := bind_eq_ok.mp hrest
    obtain ⟨_, -, hrest⟩ := bind_eq_ok.mp hrest
    obtain ⟨body, hbody, hresult⟩ := bind_eq_ok.mp hrest
    exact ⟨url, body, hbody, hresult⟩

/-- Where the verifications are the same, none has been stored. -/
theorem not_storesVerification {before after : Store} {status : IdentityVerificationStatus}
    (h : SameVerifications before after) : ¬ StoresVerification before after status := by
  intro hstores
  cases hstores with
  | inMemory verification stored holds =>
      rw [h.1] at stored
      exact absurd stored List.ne_cons_self
  | inDatabase row stored holds =>
      rw [h.2] at stored
      simp at stored

/-- The call throws and stores nothing, or it stores the decision about a result that is made from
the body of the provider. -/
theorem verifyCandidateIdentity_cases {ctx : StoreContext} {provider : KycProvider}
    {inviteToken : String} {input : CreateIdentityVerificationInput}
    {turns : Nat → PlatformInput} {store after : Store}
    {ended : Except ServiceException IdentityVerification}
    (h : verifyCandidateIdentity ctx provider inviteToken input turns store = (ended, after)) :
    ((∃ error, ended = .error error) ∧ SameVerifications store after) ∨
    ((∃ verification, ended = .ok verification) ∧ ∃ url engineInput body result,
      provider.answer url engineInput = .ok body ∧
      normalizeProviderResult (parseProviderResponse body) = .ok result ∧
      ∀ status, StoresVerification store after status →
        status = if didPassIdentityProviderChecks result then .verified else .failed) := by
  have hkeeps := getCandidateInvite_keeps ctx inviteToken turns store store ⟨rfl, rfl⟩
  unfold verifyCandidateIdentity at h
  cases hinvite : getCandidateInvite ctx inviteToken turns store with
  | mk invited between =>
      rw [hinvite] at hkeeps
      cases invited with
      | error error =>
          rw [bind_error hinvite] at h
          cases h
          exact .inl ⟨⟨error, rfl⟩, hkeeps⟩
      | ok invite =>
          rw [bind_ok hinvite] at h
          rcases verifyIdentity_cases h with
            ⟨error, hended, rfl⟩ | ⟨acceptedAt, result, hverified, hended, hstored⟩
          · exact .inl ⟨⟨error, hended⟩, hkeeps⟩
          · obtain ⟨url, body, hbody, hresult⟩ := verifyWithSandboxProvider_ok hverified
            refine .inr ⟨hended, url, _, body, result, hbody, hresult, fun status hstores => ?_⟩
            rcases hstored with ⟨row, db, hrow, hrows, rfl⟩ | ⟨hmemory, hdatabase⟩
            · -- The database has the row, and the memory is as it was.
              cases hstores with
              | inMemory verification stored holds =>
                  rw [hkeeps.1] at stored
                  exact absurd stored List.ne_cons_self
              | inDatabase row' stored holds =>
                  rw [hkeeps.2] at hrows
                  obtain rfl : row' = row := by
                    simpa using List.append_cancel_left (stored.symm.trans hrows)
                  exact holds.symm.trans (status_identityVerificationRow hrow)
            · -- The memory has the verification, and the database has no new row.
              cases hstores with
              | inMemory verification stored holds =>
                  rw [hmemory] at stored
                  obtain ⟨rfl, -⟩ := List.cons.inj stored
                  exact holds.symm
              | inDatabase row stored holds =>
                  rw [hdatabase, hkeeps.2] at stored
                  simp at stored

/-- The stored status follows the contract, read with the first checks of the list, and a call
that throws stores no verification. -/
theorem identity_decision_matches (ctx : StoreContext) (provider : KycProvider)
    (inviteToken : String) (input : CreateIdentityVerificationInput)
    (turns : Nat → PlatformInput) (store after : Store)
    (ended : Except ServiceException IdentityVerification)
    (h : verifyCandidateIdentity ctx provider inviteToken input turns store = (ended, after)) :
    (∀ body status, (∀ url engineInput, provider.answer url engineInput = .ok body) →
      StoresVerification store after status →
        (status = .verified ↔ MeetsContract InFirstChecks body)) ∧
      ∀ error, ended = .error error → SameVerifications store after := by
  rcases verifyCandidateIdentity_cases h with
    ⟨-, hsame⟩ | ⟨⟨verification, hended⟩, url, engineInput, body, result, hbody, hresult, hstatus⟩
  · exact ⟨fun _ _ _ hstores => absurd hstores (not_storesVerification hsame), fun _ _ => hsame⟩
  · constructor
    · intro body' status hanswer hstores
      have hsame : body' = body := Except.ok.inj ((hanswer url engineInput).symm.trans hbody)
      subst hsame
      rw [hstatus status hstores, ← didPass_iff_meetsContract hresult]
      cases didPassIdentityProviderChecks result <;> simp
    · intro error herror
      rw [hended] at herror
      cases herror

/-! ### A body with many checks -/

/-- The four checks behind twenty others. -/
def lateChecks : List JsonValue :=
  (List.replicate 20 "ADDRESS" ++ requiredIdentityVerificationChecks).map JsonValue.string

/-- A body that meets the contract. -/
def lateBody : JsonValue :=
  .object
    [("providerDecision", .string "VERIFIED"), ("providerReferenceId", .string "ref_1"),
      ("documentAuthenticityScore", .number 92), ("faceMatchScore", .number 88),
      ("livenessScore", .number 91), ("ocrNameMatched", .bool true),
      ("verificationChecks", .array lateChecks)]

/-- A provider that answers with the body. -/
def lateProvider : KycProvider where
  baseUrl := .ok "https://kyc.example.com"
  apiKey := some "key"
  answer := fun _ _ => .ok lateBody

/-- The seeded candidate has consented. -/
def consentStore : Store :=
  { seedStore with
    memory := { seedStore.memory with
      candidates := recordIdentityConsent seedStore.memory.candidates "candidate_001" 0 } }

/-- Everything is captured. -/
def capturedInput : CreateIdentityVerificationInput where
  documentCaptured := true
  faceImageCaptured := true
  livenessConfirmed := true
  providerSessionId := some "session_1"
  documentUploadRef := some "document_1"
  faceUploadRef := some "face_1"

/-- The call that verifies the seeded candidate. -/
def lateCall : Except ServiceException IdentityVerification × Store :=
  verifyCandidateIdentity offlineContext lateProvider "invite_demo_001" capturedInput
    (fun _ => {}) consentStore

/-- The verification is stored as failed. -/
theorem storesVerification_lateCall : StoresVerification consentStore lateCall.2 .failed := by
  have hrun : lateCall.2.memory.identityVerifications.map (·.status) = [.failed] := by
    decide +kernel
  obtain ⟨verification, hstored, hstatus⟩ := List.map_eq_singleton_iff.mp hrun
  exact .inMemory verification hstored hstatus

/-- The body meets the contract, and the candidate is not verified. -/
theorem late_check_fails :
    MeetsContract InList lateBody ∧ StoresVerification consentStore lateCall.2 .failed := by
  refine ⟨⟨rfl, ⟨92, rfl, by norm_num⟩, ⟨88, rfl, by norm_num⟩, ⟨91, rfl, by norm_num⟩, rfl,
    ⟨lateChecks, rfl, ?_⟩⟩, storesVerification_lateCall⟩
  intro check hcheck
  exact List.mem_map_of_mem (List.mem_append_right _ hcheck)

/-- The late checks are not among the first ones. -/
theorem identity_decision_matches_late :
    IdentityVerificationStatus.failed = .verified ↔ MeetsContract InFirstChecks lateBody :=
  (identity_decision_matches offlineContext lateProvider "invite_demo_001" capturedInput
    (fun _ => {}) consentStore lateCall.2 lateCall.1 rfl).1 lateBody .failed (fun _ _ => rfl)
    storesVerification_lateCall

end Dcvp.Proofs
