import Dcvp.Database
import Dcvp.Services.PlatformStore.CandidatePortal
import Mathlib.Data.List.Sort

/-!
# `Dcvp.Services.PlatformStore.Tables`: the tables behind the platform store

The tables of `apps/api/prisma/schema.prisma` that the platform store reads and writes. A row
has the columns of the schema. A `DateTime` is a number of milliseconds.

`PlatformDatabase` has tables that satisfy the constraints of the schema, as `Database` has
for the accounts: primary keys, unique columns and foreign keys. The relation of a row is
followed with a lookup of the key, or with a filter of the other table.

`orderBy` sorts rows as `ORDER BY` does. Where two rows have equal keys, PostgreSQL promises
no order. The model keeps the order of the table.
-/

set_option autoImplicit false

namespace Dcvp.Services.PlatformStore

open Dcvp.Lib
open Dcvp.Shared

/-! ### Rows -/

/-- A row of `Exam`; its dates are milliseconds and its minutes an `Int` column. -/
structure ExamRow where
  id : String
  organizationId : String
  title : String
  description : String
  startAt : Int
  endAt : Int
  durationMinutes : Int
  status : ExamStatus := .draft
  languages : List String
  proctoringEnabled : Bool := false
  identityVerificationEnabled : Bool := false
  mobileCameraRequired : Bool := false
  screenShareRequired : Bool := false
  createdAt : Int
  deriving DecidableEq, Repr

/-- A row of `Question`, with the defaults of the schema. -/
structure QuestionRow where
  id : String
  examId : String
  title : String
  description : String
  type : QuestionType := .coding
  points : Int := 100
  difficulty : Difficulty
  timeLimitMs : Int
  memoryLimitMb : Int
  choices : List String := []
  expectedAnswer : Option String := none
  createdAt : Int
  deriving DecidableEq, Repr

/-- A row of `TestCase`. The default of `isPublic` is the schema's. -/
structure TestCaseRow where
  id : String
  questionId : String
  input : String
  expectedOutput : String
  isPublic : Bool := true
  createdAt : Int
  deriving DecidableEq, Repr

/-- A row of `Candidate`, with the defaults of the schema. -/
structure CandidateRow where
  id : String
  examId : String
  name : String
  email : String
  status : CandidateStatus := .invited
  inviteToken : String
  identityPrivacyConsentVersion : Option String := none
  identityPrivacyConsentAcceptedAt : Option Int := none
  createdAt : Int
  deriving DecidableEq, Repr

/-- A row of `ExamSession`: the clock of one sitting. Candidate and exam together are unique. -/
structure ExamSessionRow where
  id : String
  candidateId : String
  examId : String
  startedAt : Int
  endsAt : Int
  completedAt : Option Int := none
  createdAt : Int
  deriving DecidableEq, Repr

/-- A row of `CodeDraft`. Candidate, question and language together are unique. -/
structure CodeDraftRow where
  id : String
  candidateId : String
  examId : String
  questionId : String
  language : String
  code : String
  savedAt : Int
  createdAt : Int
  deriving DecidableEq, Repr

/-- A row of `InviteEmailLog`: one sending and what became of it. -/
structure InviteEmailLogRow where
  id : String
  candidateId : String
  examId : String
  email : String
  inviteUrl : String
  provider : String
  providerMessageId : Option String := none
  status : InviteEmailStatus
  message : String
  sentAt : Option Int := none
  createdAt : Int
  deriving DecidableEq, Repr

/-- A row of `ProctorEvent`: what was seen of a candidate. -/
structure ProctorEventRow where
  id : String
  candidateId : String
  examId : String
  type : ProctorEventType
  detail : Option String := none
  createdAt : Int
  deriving DecidableEq, Repr

/-- A row of `ProctorDevice`. Candidate, exam and role together are unique. -/
structure ProctorDeviceRow where
  id : String
  candidateId : String
  examId : String
  role : ProctorDeviceRole
  status : ProctorDeviceStatus := .waiting
  connectedAt : Option Int := none
  disconnectedAt : Option Int := none
  lastHeartbeatAt : Option Int := none
  detail : Option String := none
  createdAt : Int
  updatedAt : Int
  deriving DecidableEq, Repr

/-- A row of `ProctorAction`: what a proctor decided about a candidate. -/
structure ProctorActionRow where
  id : String
  candidateId : String
  examId : String
  type : ProctorActionType
  message : String
  createdAt : Int
  deriving DecidableEq, Repr

/-- A row of `IdentityVerification`. The defaults are those of the schema. -/
structure IdentityVerificationRow where
  id : String
  candidateId : String
  examId : String
  documentImageName : String := "document-capture-confirmed"
  documentCaptureConfirmed : Bool := false
  faceImageCaptured : Bool := false
  provider : String := "unknown"
  providerDecision : String := "REVIEW_REQUIRED"
  providerReferenceId : String := ""
  failureReason : Option String := none
  similarityScore : Int
  documentAuthenticityScore : Int := 0
  faceMatchScore : Int := 0
  livenessScore : Int := 0
  ocrNameMatched : Bool := false
  verificationChecks : List String := []
  privacyConsentVersion : Option String := none
  privacyConsentAcceptedAt : Option Int := none
  status : IdentityVerificationStatus
  verifiedAt : Option Int := none
  createdAt : Int
  deriving DecidableEq, Repr

/-- A row of `EnvironmentCheck`. The JSON value `results` is `none` when it is no array, and an
item of the array is `none` when it is no object. -/
structure EnvironmentCheckRow where
  id : String
  candidateId : String
  examId : String
  results : Option (List (Option RawEnvironmentResult))
  requiredPassed : Bool
  createdAt : Int
  deriving DecidableEq

/-- A row of `Submission`, with the defaults of the schema. -/
structure SubmissionRow where
  id : String
  examId : String
  candidateId : String
  questionId : String
  language : String
  code : String
  score : Int := 0
  passedTests : Nat := 0
  totalTests : Nat := 0
  submittedAt : Int
  deriving DecidableEq, Repr

/-- A row of `CodeExecution`, whose test results have a table of their own. -/
structure CodeExecutionRow where
  id : String
  candidateId : String
  questionId : String
  language : String
  code : String
  status : CodeExecutionStatus
  output : String
  error : Option String := none
  executionTimeMs : Int
  memoryUsageMb : Int
  passedTests : Nat := 0
  totalTests : Nat := 0
  createdAt : Int
  deriving DecidableEq, Repr

/-- A row of `JudgeTestResult`, which belongs to an execution or to a submission. -/
structure JudgeTestResultRow where
  id : String
  codeExecutionId : Option String := none
  submissionId : Option String := none
  testIndex : Nat
  input : String
  expectedOutput : String
  actualOutput : String
  passed : Bool
  error : Option String := none
  executionTimeMs : Int
  isPublic : Bool
  createdAt : Int
  deriving DecidableEq, Repr

/-- A row of `CompetencyReport`. The scores are `Int` columns, so a fraction cannot be stored. -/
structure CompetencyReportRow where
  id : String
  examSessionId : String
  examId : String
  candidateId : String
  problemSolvingScore : Int
  implementationScore : Int
  debuggingScore : Int
  codeQualityScore : Int
  timeManagementScore : Int
  integrityScore : Int
  overallScore : Int
  aiSummary : String
  strengths : List String := []
  improvementAreas : List String := []
  recommendations : List String := []
  createdAt : Int
  deriving DecidableEq, Repr

/-! ### Tables and constraints -/

/-- The tables of the platform, each with its key. Users and their requests are apart, in
`Database.Tables`. -/
structure PlatformTables where
  organizations : Table OrganizationRow.id := Table.empty
  exams : Table ExamRow.id := Table.empty
  questions : Table QuestionRow.id := Table.empty
  testCases : Table TestCaseRow.id := Table.empty
  candidates : Table CandidateRow.id := Table.empty
  examSessions : Table ExamSessionRow.id := Table.empty
  codeDrafts : Table CodeDraftRow.id := Table.empty
  inviteEmailLogs : Table InviteEmailLogRow.id := Table.empty
  proctorEvents : Table ProctorEventRow.id := Table.empty
  proctorDevices : Table ProctorDeviceRow.id := Table.empty
  proctorActions : Table ProctorActionRow.id := Table.empty
  identityVerifications : Table IdentityVerificationRow.id := Table.empty
  environmentChecks : Table EnvironmentCheckRow.id := Table.empty
  submissions : Table SubmissionRow.id := Table.empty
  codeExecutions : Table CodeExecutionRow.id := Table.empty
  judgeTestResults : Table JudgeTestResultRow.id := Table.empty
  competencyReports : Table CompetencyReportRow.id := Table.empty

/-- Each row of the first table leads to a row of the second one. -/
def References {κ κ' ρ ρ' : Type} [DecidableEq κ'] {key : ρ → κ} {key' : ρ' → κ'}
    (t : Table key) (relation : ρ → κ') (t' : Table key') : Prop :=
  ∀ r ∈ t.rows, t'.find? (relation r) ≠ none

instance {κ κ' ρ ρ' : Type} [DecidableEq κ'] {key : ρ → κ} {key' : ρ' → κ'} (t : Table key)
    (relation : ρ → κ') (t' : Table key') : Decidable (References t relation t') :=
  decidable_of_iff (∀ r ∈ t.rows, (t'.find? (relation r)).isSome = true)
    ⟨fun h r hr hnone => (by have hsome := h r hr; rw [hnone] at hsome; cases hsome),
      fun h r hr => Option.isSome_iff_ne_none.mpr (h r hr)⟩

/-- For a reference only the column of the relation counts: a table with the same column references
the same rows. -/
theorem References.of_map {κ κ' ρ ρ' : Type} [DecidableEq κ'] {key : ρ → κ} {key' : ρ' → κ'}
    {t t₁ : Table key} {relation : ρ → κ'} {t' : Table key'} (h : References t relation t')
    (hcolumn : t₁.rows.map relation = t.rows.map relation) : References t₁ relation t' := by
  intro row hrow
  have hmem : relation row ∈ t.rows.map relation := by
    rw [← hcolumn]
    exact List.mem_map_of_mem hrow
  obtain ⟨old, hold, heq⟩ := List.mem_map.mp hmem
  rw [← heq]
  exact h old hold

/-- An update of the table that is referred to keeps its keys. -/
theorem references_updateMany {κ κ' ρ ρ' : Type} [DecidableEq κ'] {key : ρ → κ} {key' : ρ' → κ'}
    {t : Table key} {relation : ρ → κ'} {t' : Table key'} {p : ρ' → Bool} {f : ρ' → ρ'}
    {hf : ∀ r, key' (f r) = key' r} :
    References t relation (t'.updateMany p f hf) ↔ References t relation t' := by
  unfold References
  simp only [Table.find?_updateMany, ne_eq, Option.map_eq_none_iff]

/-- `@@unique([candidateId, examId, role])`: one device for each role. -/
def ProctorDeviceRow.key (row : ProctorDeviceRow) : String × String × ProctorDeviceRole :=
  (row.candidateId, row.examId, row.role)

/-- `@@unique([candidateId, examId])`: one session for each candidate in an exam. -/
def ExamSessionRow.key (row : ExamSessionRow) : String × String := (row.candidateId, row.examId)

/-- `@@unique([candidateId, questionId, language])`: one draft for each language. -/
def CodeDraftRow.key (row : CodeDraftRow) : String × String × String :=
  (row.candidateId, row.questionId, row.language)

namespace PlatformTables

variable (t : PlatformTables)

/-- The columns marked `@unique`, and the combinations marked `@@unique`. -/
def UniqueColumns : Prop :=
  (t.organizations.rows.map OrganizationRow.joinCode).Nodup ∧
    (t.candidates.rows.map CandidateRow.inviteToken).Nodup ∧
    (t.examSessions.rows.map ExamSessionRow.key).Nodup ∧
    (t.codeDrafts.rows.map CodeDraftRow.key).Nodup ∧
    (t.proctorDevices.rows.map ProctorDeviceRow.key).Nodup

/-- What belongs to a candidate and an exam. -/
def CandidateRecords {ρ : Type} {key : ρ → String} (table : Table key)
    (candidateId examId : ρ → String) : Prop :=
  References table candidateId t.candidates ∧ References table examId t.exams

/-- The relations of the schema: each row names rows that exist. -/
def ForeignKeys : Prop :=
  (References t.exams ExamRow.organizationId t.organizations ∧
      References t.questions QuestionRow.examId t.exams ∧
      References t.testCases TestCaseRow.questionId t.questions ∧
      References t.candidates CandidateRow.examId t.exams) ∧
    (t.CandidateRecords t.examSessions ExamSessionRow.candidateId ExamSessionRow.examId ∧
      t.CandidateRecords t.codeDrafts CodeDraftRow.candidateId CodeDraftRow.examId ∧
      References t.codeDrafts CodeDraftRow.questionId t.questions ∧
      t.CandidateRecords t.inviteEmailLogs InviteEmailLogRow.candidateId
        InviteEmailLogRow.examId ∧
      t.CandidateRecords t.proctorEvents ProctorEventRow.candidateId ProctorEventRow.examId ∧
      t.CandidateRecords t.proctorDevices ProctorDeviceRow.candidateId ProctorDeviceRow.examId ∧
      t.CandidateRecords t.proctorActions ProctorActionRow.candidateId
        ProctorActionRow.examId) ∧
    (t.CandidateRecords t.identityVerifications IdentityVerificationRow.candidateId
        IdentityVerificationRow.examId ∧
      t.CandidateRecords t.environmentChecks EnvironmentCheckRow.candidateId
        EnvironmentCheckRow.examId ∧
      t.CandidateRecords t.submissions SubmissionRow.candidateId SubmissionRow.examId ∧
      References t.submissions SubmissionRow.questionId t.questions ∧
      References t.codeExecutions CodeExecutionRow.candidateId t.candidates ∧
      References t.codeExecutions CodeExecutionRow.questionId t.questions ∧
      t.CandidateRecords t.competencyReports CompetencyReportRow.candidateId
        CompetencyReportRow.examId) ∧
    ∀ r ∈ t.judgeTestResults.rows,
      (∀ id ∈ r.codeExecutionId, t.codeExecutions.find? id ≠ none) ∧
        ∀ id ∈ r.submissionId, t.submissions.find? id ≠ none

instance : Decidable t.UniqueColumns := inferInstanceAs (Decidable (_ ∧ _ ∧ _ ∧ _ ∧ _))

instance {ρ : Type} {key : ρ → String} (table : Table key) (candidateId examId : ρ → String) :
    Decidable (t.CandidateRecords table candidateId examId) :=
  inferInstanceAs (Decidable (_ ∧ _))

instance : Decidable t.ForeignKeys :=
  inferInstanceAs (Decidable ((_ ∧ _ ∧ _ ∧ _) ∧ (_ ∧ _ ∧ _ ∧ _ ∧ _ ∧ _ ∧ _) ∧
    (_ ∧ _ ∧ _ ∧ _ ∧ _ ∧ _ ∧ _) ∧ _))

end PlatformTables

/-- Tables that satisfy the constraints of the schema. -/
structure PlatformDatabase extends PlatformTables where
  unique : toPlatformTables.UniqueColumns
  related : toPlatformTables.ForeignKeys

namespace PlatformDatabase

/-- The database without rows, which satisfies both constraints. -/
def empty : PlatformDatabase where
  unique := by decide +kernel
  related := by decide +kernel

/-- The end of a statement: the constraints are checked. -/
def commit (t : PlatformTables) : Except ServiceException PlatformDatabase :=
  if hu : t.UniqueColumns then
    if hr : t.ForeignKeys then .ok ⟨t, hu, hr⟩ else .error (.prisma .foreignKey)
  else .error (.prisma .uniqueConstraint)

/-- A statement that commits leaves exactly the tables it computed. -/
theorem commit_eq_ok {t : PlatformTables} {db : PlatformDatabase} (h : commit t = .ok db) :
    db.toPlatformTables = t := by
  unfold commit at h
  split at h
  · split at h
    · cases h
      rfl
    · cases h
  · cases h

/-- Tables that satisfy the constraints are committed. -/
theorem commit_ok {t : PlatformTables} (hunique : t.UniqueColumns) (hrelated : t.ForeignKeys) :
    commit t = .ok ⟨t, hunique, hrelated⟩ := by
  unfold commit
  rw [dif_pos hunique, dif_pos hrelated]

/-- `create`: the row is added, unless its primary key is taken. `put` puts the table back. -/
def create {ρ : Type} {key : ρ → String} (table : Table key) (row : ρ)
    (put : Table key → PlatformTables) : Except ServiceException PlatformDatabase :=
  match table.insert? row with
  | none => .error (.prisma .uniqueConstraint)
  | some table => commit (put table)

/-- A creation that succeeds leaves the tables with the new row in its own table and nothing else
changed. -/
theorem create_eq_ok {ρ : Type} {key : ρ → String} {table : Table key} {row : ρ}
    {put : Table key → PlatformTables} {db : PlatformDatabase}
    (h : create table row put = .ok db) :
    ∃ table', table.insert? row = some table' ∧ db.toPlatformTables = put table' := by
  unfold create at h
  split at h
  · cases h
  · rename_i table' hinsert
    exact ⟨table', hinsert, commit_eq_ok h⟩

end PlatformDatabase

/-! ### Queries -/

/-- `orderBy: { column: "asc" }`: rows with the same value stay in their order. -/
def orderByAsc {ρ : Type} (column : ρ → Int) (rows : List ρ) : List ρ :=
  rows.insertionSort fun left right => column left ≤ column right

/-- `orderBy: { column: "desc" }`: rows with the same value stay in their order. -/
def orderByDesc {ρ : Type} (column : ρ → Int) (rows : List ρ) : List ρ :=
  rows.insertionSort fun left right => column right ≤ column left

end Dcvp.Services.PlatformStore
