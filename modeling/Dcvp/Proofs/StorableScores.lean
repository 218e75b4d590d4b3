import Dcvp.Proofs.IdentityDecision
import Dcvp.Services.AiEvaluation

/-!
# `Dcvp.Proofs.StorableScores`: which accepted scores the database takes

The validators of the two external services accept every number from 0 to 100. The columns of
`IdentityVerification` and `CompetencyReport` are of type `Int`. So a response can pass its
validator and still not be stored: `accepted_responses_storable_iff` says that the row is built
exactly when each score of the body is a whole number.

The proof goes through `AcceptedScores`: a list of names and numbers that the validator has taken from
the body. `columns_iff` is about such a list, and both records are one.
-/

set_option autoImplicit false

namespace Dcvp.Proofs

open Dcvp.Lib
open Dcvp.Shared
open Dcvp.Services
open Dcvp.Services.PlatformStore

/-! ### One score -/

/-- The value is a whole number. -/
def IsWhole (value : Option JsonValue) : Prop := ∃ n : Int, value = some (.number n)

/-- A column takes a number of the range when it is whole. -/
theorem intColumn_ok_iff {value : Rat} (hlow : 0 ≤ value) (hhigh : value ≤ 100) :
    (∃ n, intColumn value = .ok n) ↔ ∃ n : Int, value = n := by
  unfold intColumn
  constructor
  · rintro ⟨n, h⟩
    split at h
    · rename_i hwhole
      exact ⟨value.num, (Rat.den_eq_one_iff value).mp hwhole.1 |>.symm⟩
    · cases h
  · rintro ⟨n, rfl⟩
    have hn : 0 ≤ n := by exact_mod_cast hlow
    have hn' : n ≤ 100 := by exact_mod_cast hhigh
    have hfits : ((n : Rat).den = 1 ∧ -2147483648 ≤ (n : Rat).num ∧ (n : Rat).num < 2147483648) := by
      rw [Rat.den_intCast, Rat.num_intCast]
      omega
    exact ⟨_, if_pos hfits⟩

/-- An accepted score fits into a column when the value of the body is a whole number. -/
theorem column_iff {value : Option JsonValue} {score : Rat} (h : validScore value = some score) :
    (∃ n, intColumn score = .ok n) ↔ IsWhole value := by
  obtain ⟨rfl, hlow, hhigh⟩ := validScore_eq_some.mp h
  rw [intColumn_ok_iff hlow hhigh]
  constructor
  · rintro ⟨n, rfl⟩
    exact ⟨n, rfl⟩
  · rintro ⟨n, heq⟩
    cases heq
    exact ⟨n, rfl⟩

/-! ### The scores of a record -/

/-- The scores were accepted under these names. -/
def AcceptedScores (body : JsonValue) (scores : List (String × Rat)) : Prop :=
  ∀ score ∈ scores, validScore (bodyField body score.1) = some score.2

/-- All of the scores fit into their columns when the fields of the body are whole numbers. -/
theorem columns_iff {body : JsonValue} {scores : List (String × Rat)}
    (h : AcceptedScores body scores) :
    (∀ score ∈ scores, ∃ n, intColumn score.2 = .ok n) ↔
      ∀ key ∈ scores.map (·.1), IsWhole (bodyField body key) := by
  rw [List.forall_mem_map]
  exact forall₂_congr fun score hscore => column_iff (h score hscore)

/-- The scores of a verification, with the names that the provider has for them. -/
def identityScores (result : IdentityVerificationEngineResult) : List (String × Rat) :=
  [("documentAuthenticityScore", result.documentAuthenticityScore),
    ("faceMatchScore", result.faceMatchScore), ("livenessScore", result.livenessScore)]

/-- The scores of a report, with the names that the service has for them. -/
def namedReportScores (report : CompetencyReport) : List (String × Rat) :=
  [("problemSolvingScore", report.problemSolvingScore),
    ("implementationScore", report.implementationScore),
    ("debuggingScore", report.debuggingScore), ("codeQualityScore", report.codeQualityScore),
    ("timeManagementScore", report.timeManagementScore),
    ("integrityScore", report.integrityScore), ("overallScore", report.overallScore)]

/-- The names of the scores of a verification. -/
def identityScoreKeys : List String :=
  ["documentAuthenticityScore", "faceMatchScore", "livenessScore"]

/-- The names of the scores of a report. -/
def reportScoreKeys : List String :=
  ["problemSolvingScore", "implementationScore", "debuggingScore", "codeQualityScore",
    "timeManagementScore", "integrityScore", "overallScore"]

/-- The scores of a result that was accepted are numbers of the answer, each between 0 and 100. -/
theorem acceptedScores_identity {body : JsonValue} {result : IdentityVerificationEngineResult}
    (h : normalizeProviderResult (parseProviderResponse body) = .ok result) :
    AcceptedScores body (identityScores result) := by
  have hread := normalizeProviderResult_ok h
  rw [parseProviderResponse_eq] at hread
  intro score hscore
  simp only [identityScores, List.mem_cons, List.not_mem_nil, or_false] at hscore
  rcases hscore with rfl | rfl | rfl
  · exact hread.document
  · exact hread.face
  · exact hread.liveness

/-- A score of a report that is taken is a number between 0 and 100. -/
theorem requiredReportScore_ok {value : Option JsonValue} {score : Rat}
    (h : requiredReportScore value = .ok score) : validScore value = some score := by
  unfold requiredReportScore at h
  split at h
  · rename_i heq
    cases h
    exact heq
  · cases h

/-- So are all scores of a report that was accepted: each is read from the field of its name by the
same check. -/
theorem acceptedScores_report {body : JsonValue} {input : GenerateReportInput}
    {turn : PlatformInput} {report : CompetencyReport}
    (h : parseExternalReport body input turn = .ok report) :
    AcceptedScores body (namedReportScores report) := by
  unfold parseExternalReport at h
  split at h
  · cases h
  · rename_i members hmembers
    -- Each score is read from the field of its name by the same check.
    have hfield : ∀ {key : String} {score : Rat},
        requiredReportScore (readUnknown members key) = .ok score →
          validScore (bodyField body key) = some score := by
      intro key score hscore
      unfold bodyField
      rw [hmembers]
      exact requiredReportScore_ok hscore
    simp only [bind_eq_ok] at h
    obtain ⟨_, -, _, hsolving, _, himplementation, _, hdebugging, _, hquality, _, htime, _,
      hintegrity, _, hoverall, _, -, _, -, _, -, _, -, hreport⟩ := h
    cases hreport
    intro score hscore
    simp only [namedReportScores, List.mem_cons, List.not_mem_nil, or_false] at hscore
    rcases hscore with rfl | rfl | rfl | rfl | rfl | rfl | rfl
    · exact hfield hsolving
    · exact hfield himplementation
    · exact hfield hdebugging
    · exact hfield hquality
    · exact hfield htime
    · exact hfield hintegrity
    · exact hfield hoverall

/-! ### The rows -/

/-- The row of a verification is built when its scores and its date fit. -/
theorem identityVerificationRow_ok_iff {ctx : StoreContext} {invite : CandidateInvite}
    {input : CreateIdentityVerificationInput} {acceptedAt : String}
    {result : IdentityVerificationEngineResult} {turn : PlatformInput}
    (hdate : ∃ date, dateColumn ctx acceptedAt = .ok date) :
    (∃ row, identityVerificationRow ctx invite input acceptedAt result turn = .ok row) ↔
      ∀ score ∈ identityScores result, ∃ n, intColumn score.2 = .ok n := by
  unfold identityVerificationRow
  simp only [bind_eq_ok]
  constructor
  · rintro ⟨row, _, -, document, hdocument, face, hface, liveness, hliveness, -⟩ score hscore
    simp only [identityScores, List.mem_cons, List.not_mem_nil, or_false] at hscore
    rcases hscore with rfl | rfl | rfl
    · exact ⟨document, hdocument⟩
    · exact ⟨face, hface⟩
    · exact ⟨liveness, hliveness⟩
  · intro h
    obtain ⟨date, hdate⟩ := hdate
    obtain ⟨document, hdocument⟩ := h _ (List.mem_cons_self ..)
    obtain ⟨face, hface⟩ := h ("faceMatchScore", result.faceMatchScore) (by simp [identityScores])
    obtain ⟨liveness, hliveness⟩ :=
      h ("livenessScore", result.livenessScore) (by simp [identityScores])
    exact ⟨_, face, hface, document, hdocument, face, hface, liveness, hliveness, date, hdate, rfl⟩

/-- The row of a report is built exactly when each of its scores fits its column. -/
theorem competencyReportRow_ok_iff {input : GenerateReportInput} {report : CompetencyReport}
    {now : Int} :
    (∃ row, competencyReportRow input report now = .ok row) ↔
      ∀ score ∈ namedReportScores report, ∃ n, intColumn score.2 = .ok n := by
  unfold competencyReportRow
  simp only [bind_eq_ok]
  constructor
  · rintro ⟨row, _, hsolving, _, himplementation, _, hdebugging, _, hquality, _, htime, _,
      hintegrity, _, hoverall, -⟩ score hscore
    simp only [namedReportScores, List.mem_cons, List.not_mem_nil, or_false] at hscore
    rcases hscore with rfl | rfl | rfl | rfl | rfl | rfl | rfl
    · exact ⟨_, hsolving⟩
    · exact ⟨_, himplementation⟩
    · exact ⟨_, hdebugging⟩
    · exact ⟨_, hquality⟩
    · exact ⟨_, htime⟩
    · exact ⟨_, hintegrity⟩
    · exact ⟨_, hoverall⟩
  · intro h
    simp only [namedReportScores, List.forall_mem_cons] at h
    obtain ⟨⟨_, hsolving⟩, ⟨_, himplementation⟩, ⟨_, hdebugging⟩, ⟨_, hquality⟩, ⟨_, htime⟩,
      ⟨_, hintegrity⟩, ⟨_, hoverall⟩, -⟩ := h
    exact ⟨_, _, hsolving, _, himplementation, _, hdebugging, _, hquality, _, htime, _, hintegrity,
      _, hoverall, rfl⟩

/-- An accepted response can be stored exactly when its scores are whole numbers. -/
theorem accepted_responses_storable_iff (ctx : StoreContext) (body : JsonValue) :
    (∀ (invite : CandidateInvite) (input : CreateIdentityVerificationInput) (acceptedAt : String)
        (result : IdentityVerificationEngineResult) (turn : PlatformInput),
      normalizeProviderResult (parseProviderResponse body) = .ok result →
      (∃ date, dateColumn ctx acceptedAt = .ok date) →
        ((∃ row, identityVerificationRow ctx invite input acceptedAt result turn = .ok row) ↔
          ∀ key ∈ identityScoreKeys, IsWhole (bodyField body key))) ∧
      ∀ (input : GenerateReportInput) (turn : PlatformInput) (report : CompetencyReport)
        (now : Int), parseExternalReport body input turn = .ok report →
          ((∃ row, competencyReportRow input report now = .ok row) ↔
            ∀ key ∈ reportScoreKeys, IsWhole (bodyField body key)) := by
  constructor
  · intro invite input acceptedAt result turn haccepted hdate
    rw [identityVerificationRow_ok_iff hdate]
    exact columns_iff (acceptedScores_identity haccepted)
  · intro input turn report now haccepted
    rw [competencyReportRow_ok_iff]
    exact columns_iff (acceptedScores_report haccepted)

/-! ### A response with a fraction -/

/-- The answer of a provider with this face match score. -/
def scoredBody (faceMatchScore : Rat) : JsonValue :=
  .object
    [("providerDecision", .string "VERIFIED"), ("providerReferenceId", .string "ref_1"),
      ("documentAuthenticityScore", .number 92), ("faceMatchScore", .number faceMatchScore),
      ("livenessScore", .number 91), ("ocrNameMatched", .bool true),
      ("verificationChecks",
        .array (requiredIdentityVerificationChecks.map JsonValue.string))]

/-- The result that the service makes of it. -/
def scoredResult (faceMatchScore : Rat) : IdentityVerificationEngineResult where
  documentAuthenticityScore := 92
  faceMatchScore
  livenessScore := 91
  ocrNameMatched := true
  verificationChecks := requiredIdentityVerificationChecks
  provider := "kyc-sandbox"
  providerDecision := .verified
  providerReferenceId := "ref_1"

/-- A process that reads the date of the consent. -/
def consentContext : StoreContext :=
  { deployedContext with
    host := { deployedContext.host with
      dateParse := fun text => if text = Js.toISOString 0 then some 0 else none } }

/-- The answer of the example is accepted. -/
theorem scoredBody_accepted :
    normalizeProviderResult (parseProviderResponse (scoredBody (185 / 2))) =
      .ok (scoredResult (185 / 2)) := by
  decide +kernel

/-- The date of the consent is one that the column takes. -/
theorem dateColumn_consent : dateColumn consentContext (Js.toISOString 0) = .ok 0 := by
  simp [dateColumn, PlatformContext.dateParse, consentContext]

/-- A face match score of 92.5 is accepted, and the column does not take it. -/
theorem fractional_score_not_stored :
    normalizeProviderResult (parseProviderResponse (scoredBody (185 / 2))) =
        .ok (scoredResult (185 / 2)) ∧
      dateColumn consentContext (Js.toISOString 0) = .ok 0 ∧
      ∃ invite, getCandidateInviteInStore seedStore.memory.candidatePortalMemoryState
          "invite_demo_001" = .ok invite ∧
        ¬ ∃ row, identityVerificationRow consentContext invite capturedInput (Js.toISOString 0)
          (scoredResult (185 / 2)) {} = .ok row := by
  refine ⟨scoredBody_accepted, dateColumn_consent, _, rfl, ?_⟩
  rw [identityVerificationRow_ok_iff ⟨0, dateColumn_consent⟩]
  intro h
  obtain ⟨n, hn⟩ := h ("faceMatchScore", 185 / 2) (by simp [identityScores, scoredResult])
  have hrefused : intColumn (185 / 2) = .error (.prisma .other) := by decide +kernel
  rw [hrefused] at hn
  cases hn

/-- A report of an external service. -/
def externalBody : JsonValue :=
  .object
    (reportScoreKeys.map (fun key => (key, .number 80)) ++
      [("id", .string "report_1"), ("aiSummary", .string "Good."),
        ("strengths", .array []), ("improvementAreas", .array []),
        ("recommendations", .array [])])

/-- One response with a fraction, which cannot be stored, and one without, which can. -/
theorem accepted_responses_storable_iff_fraction :
    (∃ invite, getCandidateInviteInStore seedStore.memory.candidatePortalMemoryState
        "invite_demo_001" = .ok invite ∧
      ((∃ row, identityVerificationRow consentContext invite capturedInput (Js.toISOString 0)
          (scoredResult (185 / 2)) {} = .ok row) ↔
        ∀ key ∈ identityScoreKeys, IsWhole (bodyField (scoredBody (185 / 2)) key))) ∧
      ∃ report, parseExternalReport externalBody ⟨"session_1", "candidate_1", "exam_1"⟩ {} =
          .ok report ∧
        ((∃ row, competencyReportRow ⟨"session_1", "candidate_1", "exam_1"⟩ report 0 = .ok row) ↔
          ∀ key ∈ reportScoreKeys, IsWhole (bodyField externalBody key)) := by
  obtain ⟨report, hreport⟩ : ∃ report,
      parseExternalReport externalBody ⟨"session_1", "candidate_1", "exam_1"⟩ {} = .ok report :=
    ⟨_, rfl⟩
  obtain ⟨invite, hinvite⟩ : ∃ invite, getCandidateInviteInStore
      seedStore.memory.candidatePortalMemoryState "invite_demo_001" = .ok invite := ⟨_, rfl⟩
  exact ⟨⟨invite, hinvite,
      (accepted_responses_storable_iff consentContext (scoredBody (185 / 2))).1 invite
        capturedInput _ _ {} scoredBody_accepted ⟨0, dateColumn_consent⟩⟩,
    report, hreport,
      (accepted_responses_storable_iff consentContext externalBody).2 _ {} report 0 hreport⟩

end Dcvp.Proofs
