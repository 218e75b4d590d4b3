import Dcvp.Services.PlatformStore.Report

/-!
# `Dcvp.Proofs.TenantPart`: the part of a store that belongs to an organization

`tenantMemory` and `tenantTables` keep what belongs to one organization: its row, its exams,
and the records that are attached to one of its exams or to a candidate of one of its exams.

A session of the organization reads from the whole store what it reads from this part. There is
one lemma `…_tenant` for each reading function. Each of them comes down to
`filter_filter_of_imp`: the filter of the function implies the filter of the part.
-/

set_option autoImplicit false

namespace Dcvp.Proofs

open Dcvp.Lib
open Dcvp.Shared
open Dcvp.Services.PlatformStore

/-- A session of a member of the organization who is no operator. -/
structure MemberOf (organizationId : String) (session : AuthSession) : Prop where
  role : session.user.role ≠ .admin
  organization : session.organization.id = organizationId

/-- A record of an exam and a candidate is attached to one of the exams, or to one of the
candidates. -/
def attached (examIds candidateIds : List String) (examId candidateId : String) : Bool :=
  examIds.contains examId || candidateIds.contains candidateId

/-- The candidate alone attaches a record. -/
theorem attached_of_candidate {examIds candidateIds : List String} {examId candidateId : String}
    (h : candidateId ∈ candidateIds) : attached examIds candidateIds examId candidateId = true := by
  simp [attached, h]

/-- So does the exam alone. -/
theorem attached_of_exam {examIds candidateIds : List String} {examId candidateId : String}
    (h : examId ∈ examIds) : attached examIds candidateIds examId candidateId = true := by
  simp [attached, h]

/-! ### The lookup of an exam -/

section
variable {ε : Type} {status : ε → ExamStatus} {organization : ε → String} {organizationId : String}
  {session : AuthSession} (hmember : MemberOf organizationId session)
include hmember

/-- An exam of another organization is answered like one that is missing. -/
theorem accessibleExam_filter (found : Option ε) :
    accessibleExam status organization session
        (found.filter (organization · = organizationId))
      = accessibleExam status organization session found := by
  cases found with
  | none => rfl
  | some exam =>
      by_cases hown : organization exam = organizationId
      · simp [Option.filter, hown]
      · have hdenied : assertSessionCanAccessExam session (organization exam)
            = .error examNotFound := by
          have hother : session.organization.id ≠ organization exam := by
            rw [hmember.organization]
            exact fun heq => hown heq.symm
          exact if_pos ⟨hmember.role, hother⟩
        simp only [Option.filter, hown, decide_false, Bool.false_eq_true, if_false, accessibleExam,
          hdenied]
        split <;> rfl

/-- The exam that is answered was found, and is one of the organization. -/
theorem accessibleExam_eq_ok {found : Option ε} {exam : ε}
    (h : accessibleExam status organization session found = .ok exam) :
    found = some exam ∧ organization exam = organizationId := by
  unfold accessibleExam at h
  split at h
  · cases h
  · split at h
    · cases h
    · obtain ⟨_, haccess, hok⟩ := bind_eq_ok.mp h
      cases hok
      refine ⟨rfl, ?_⟩
      unfold assertSessionCanAccessExam at haccess
      split at haccess
      · cases haccess
      · rename_i hallowed
        by_contra hother
        exact hallowed ⟨hmember.role, fun heq => hother (by rw [← heq, hmember.organization])⟩

end

/-! ### The memory -/

section
variable (organizationId : String) (memory : PlatformMemory)

/-- The exams of the organization. -/
def tenantExams : List Exam := memory.exams.filter (·.organizationId = organizationId)

/-- The identifiers of these exams. -/
def tenantExamIds : List String := (tenantExams organizationId memory).map (·.id)

/-- The questions of these exams. -/
def tenantQuestions : List Question :=
  memory.questions.filter fun question =>
    (tenantExamIds organizationId memory).contains question.examId

/-- The candidates of these exams. -/
def tenantCandidates : List Candidate :=
  memory.candidates.filter fun candidate =>
    (tenantExamIds organizationId memory).contains candidate.examId

/-- The identifiers of these candidates. -/
def tenantCandidateIds : List String := (tenantCandidates organizationId memory).map (·.id)

/-- The records that are attached to the exams or the candidates. -/
def tenantRecords {α : Type} (examId candidateId : α → String) (items : List α) : List α :=
  items.filter fun item => attached (tenantExamIds organizationId memory)
    (tenantCandidateIds organizationId memory) (examId item) (candidateId item)

/-- The records that are attached to the candidates. -/
def candidateRecords {α : Type} (candidateId : α → String) (items : List α) : List α :=
  items.filter fun item =>
    (tenantCandidateIds organizationId memory).contains (candidateId item)

/-- The memory with what belongs to the organization. The memory has no table of organizations,
so there is no row to keep. -/
def tenantMemory : PlatformMemory where
  organization := { id := organizationId, name := "", createdAt := "" }
  exams := tenantExams organizationId memory
  questions := tenantQuestions organizationId memory
  candidates := tenantCandidates organizationId memory
  testCases := memory.testCases.filter fun testCase =>
    ((tenantQuestions organizationId memory).map (·.id)).contains testCase.questionId
  proctorEvents := tenantRecords organizationId memory (·.examId) (·.candidateId)
    memory.proctorEvents
  proctorDevices := tenantRecords organizationId memory (·.examId) (·.candidateId)
    memory.proctorDevices
  proctorActions := tenantRecords organizationId memory (·.examId) (·.candidateId)
    memory.proctorActions
  competencyReports := tenantRecords organizationId memory (·.examId) (·.candidateId)
    memory.competencyReports
  identityVerifications := tenantRecords organizationId memory (·.examId) (·.candidateId)
    memory.identityVerifications
  environmentChecks := tenantRecords organizationId memory (·.examId) (·.candidateId)
    memory.environmentChecks
  examSessions := tenantRecords organizationId memory (·.examId) (·.candidateId)
    memory.examSessions
  codeDrafts := tenantRecords organizationId memory (·.examId) (·.candidateId)
    memory.codeDrafts
  codeExecutions := candidateRecords organizationId memory (·.candidateId) memory.codeExecutions
  submissions := tenantRecords organizationId memory (·.examId) (·.candidateId)
    memory.submissions
  inviteEmailLogs := tenantRecords organizationId memory (·.examId) (·.candidateId)
    memory.inviteEmailLogs

end

section
variable {organizationId : String} {memory : PlatformMemory} {session : AuthSession}
  (hmember : MemberOf organizationId session)

/-- The records of a candidate of the organization are the same in its part of the memory as in the
whole. -/
theorem tenantRecords_filter {α : Type} (examId candidateId : α → String) (items : List α)
    {id : String} (hid : id ∈ tenantCandidateIds organizationId memory) :
    (tenantRecords organizationId memory examId candidateId items).filter
        (fun item => candidateId item = id)
      = items.filter fun item => candidateId item = id := by
  refine filter_filter_of_imp fun item _ hitem => attached_of_candidate ?_
  rw [of_decide_eq_true hitem]
  exact hid

/-- The records of a candidate of the organization are all in its part. -/
theorem candidateRecords_filter {α : Type} (candidateId : α → String) (items : List α)
    {id : String} (hid : id ∈ tenantCandidateIds organizationId memory) :
    (candidateRecords organizationId memory candidateId items).filter
        (fun item => candidateId item = id)
      = items.filter fun item => candidateId item = id := by
  refine filter_filter_of_imp fun item _ hitem => ?_
  rw [of_decide_eq_true hitem]
  simpa using hid

/-- The candidates of an exam of the organization. -/
theorem tenantCandidates_filter {examId : String}
    (hexam : examId ∈ tenantExamIds organizationId memory) :
    (tenantCandidates organizationId memory).filter (·.examId = examId)
      = memory.candidates.filter (·.examId = examId) := by
  refine filter_filter_of_imp fun candidate _ hcandidate => ?_
  rw [of_decide_eq_true hcandidate]
  simpa using hexam

/-- So are the questions of an exam of the organization. -/
theorem tenantQuestions_filter {examId : String}
    (hexam : examId ∈ tenantExamIds organizationId memory) :
    (tenantQuestions organizationId memory).filter (·.examId = examId)
      = memory.questions.filter (·.examId = examId) := by
  refine filter_filter_of_imp fun question _ hquestion => ?_
  rw [of_decide_eq_true hquestion]
  simpa using hexam

/-- What a session can access belongs to its organization. -/
theorem organizationId_of_canAccessExam (hmember : MemberOf organizationId session)
    {exam : Exam} (h : canAccessExam session exam = true) :
    exam.organizationId = organizationId := by
  unfold canAccessExam at h
  simp [hmember.role, hmember.organization] at h
  exact h.2

include hmember

/-- The list of exams, read from the memory. A member sees the exams of the own organization, and
these are in the part with all that is counted for them. -/
theorem listExamsInMemory_tenant (ctx : PlatformContext) :
    listExamsInMemory ctx (tenantMemory organizationId memory) session
      = listExamsInMemory ctx memory session := by
  unfold listExamsInMemory
  congr 1
  exact filter_filter_of_imp fun exam _ hexam =>
    decide_eq_true (organizationId_of_canAccessExam hmember hexam)

/-- With unique identifiers, a session finds the exam in its part, or nowhere. -/
theorem findAccessibleExam_tenant (hunique : (memory.exams.map (·.id)).Nodup) (examId : String) :
    findAccessibleExam (tenantExams organizationId memory) examId session
      = findAccessibleExam memory.exams examId session := by
  have hfind : (tenantExams organizationId memory).find? (·.id = examId)
      = (memory.exams.find? (·.id = examId)).filter (·.organizationId = organizationId) :=
    Table.find?_filter (⟨memory.exams, hunique⟩ : Table Exam.id) _ examId
  unfold findAccessibleExam
  rw [hfind, accessibleExam_filter hmember]

/-- An exam that a session finds is an exam of its organization. -/
theorem mem_tenantExamIds_of_found {examId : String} {exam : Exam}
    (h : findAccessibleExam memory.exams examId session = .ok exam) :
    exam.id = examId ∧ examId ∈ tenantExamIds organizationId memory := by
  obtain ⟨hfound, horganization⟩ := accessibleExam_eq_ok hmember h
  have hid : exam.id = examId := by simpa using List.find?_some hfound
  exact ⟨hid, List.mem_map.mpr ⟨exam, List.mem_filter.mpr
    ⟨List.mem_of_find?_eq_some hfound, decide_eq_true horganization⟩, hid⟩⟩

omit hmember in
/-- The report of a candidate of the organization. -/
theorem candidateReport_tenant (ctx : PlatformContext) (candidate : Candidate)
    (hid : candidate.id ∈ tenantCandidateIds organizationId memory) :
    (tenantMemory organizationId memory).candidateReport ctx candidate
      = memory.candidateReport ctx candidate := by
  unfold PlatformMemory.candidateReport tenantMemory
  simp only [tenantRecords_filter _ _ _ hid, candidateRecords_filter _ _ hid]

/-- `getExamReportInStore` on the memory reads the part of the organization: the exam of a member
is in it, with all its candidates. -/
theorem examReportInMemory_tenant (ctx : PlatformContext)
    (hunique : (memory.exams.map (·.id)).Nodup) (examId : String) :
    examReportInMemory ctx (tenantMemory organizationId memory) examId session
      = examReportInMemory ctx memory examId session := by
  unfold examReportInMemory
  have hfind := findAccessibleExam_tenant hmember hunique examId
  show findAccessibleExam (tenantExams organizationId memory) examId session >>= _ = _
  rw [hfind]
  cases hexam : findAccessibleExam memory.exams examId session with
  | error error => rfl
  | ok exam =>
      have hid := (mem_tenantExamIds_of_found hmember hexam).2
      refine congrArg Except.ok (congrArg (ExamReport.mk exam) ?_)
      show ((tenantCandidates organizationId memory).filter (·.examId = examId)).map _ = _
      rw [tenantCandidates_filter hid]
      refine List.map_congr_left fun candidate hcandidate => candidateReport_tenant ctx candidate ?_
      rw [← tenantCandidates_filter hid] at hcandidate
      exact List.mem_map_of_mem (List.mem_filter.mp hcandidate).1

/-- `getExamDetailInStore` on the memory reads the part of the organization: the exam of a member
is in it, with all its questions. -/
theorem examDetailInMemory_tenant (hunique : (memory.exams.map (·.id)).Nodup)
    (examId : String) :
    examDetailInMemory (tenantMemory organizationId memory) examId session
      = examDetailInMemory memory examId session := by
  unfold examDetailInMemory
  have hfind := findAccessibleExam_tenant hmember hunique examId
  show findAccessibleExam (tenantExams organizationId memory) examId session >>= _ = _
  rw [hfind]
  cases hexam : findAccessibleExam memory.exams examId session with
  | error error => rfl
  | ok exam =>
      have hid := (mem_tenantExamIds_of_found hmember hexam).2
      refine congrArg Except.ok (congrArg₂ (ExamDetail.mk exam) ?_ (tenantCandidates_filter hid))
      show ((tenantQuestions organizationId memory).filter (·.examId = examId)).map _ = _
      rw [tenantQuestions_filter hid]
      refine List.map_congr_left fun question hquestion => ?_
      have hmem : question.id ∈ (tenantQuestions organizationId memory).map (·.id) := by
        rw [← tenantQuestions_filter hid] at hquestion
        exact List.mem_map_of_mem (List.mem_filter.mp hquestion).1
      refine congrArg (QuestionWithTestCases.mk question) ?_
      refine filter_filter_of_imp fun testCase _ htestCase => ?_
      rw [of_decide_eq_true htestCase]
      simpa using hmem

/-- A candidate is in an accessible exam of the store exactly when it is in one of the part. -/
theorem inAccessibleExam_tenant (candidate : Candidate) :
    inAccessibleExam (tenantMemory organizationId memory) session candidate
      = inAccessibleExam memory session candidate := by
  unfold inAccessibleExam
  rw [Bool.eq_iff_iff, List.any_eq_true, List.any_eq_true]
  constructor
  · rintro ⟨exam, hexam, h⟩
    exact ⟨exam, (List.mem_filter.mp hexam).1, h⟩
  · rintro ⟨exam, hexam, h⟩
    have haccess := (Bool.and_eq_true_iff.mp h).2
    exact ⟨exam, List.mem_filter.mpr
      ⟨hexam, decide_eq_true (organizationId_of_canAccessExam hmember haccess)⟩, h⟩

/-- Such a candidate belongs to the organization. -/
theorem examId_of_inAccessibleExam {candidate : Candidate}
    (h : inAccessibleExam memory session candidate = true) :
    candidate.examId ∈ tenantExamIds organizationId memory := by
  rw [← inAccessibleExam_tenant hmember] at h
  obtain ⟨exam, hexam, h⟩ := List.any_eq_true.mp h
  have hid := of_decide_eq_true (Bool.and_eq_true_iff.mp h).1
  exact List.mem_map.mpr ⟨exam, hexam, hid⟩

/-- A count of candidates in accessible exams. -/
theorem countP_tenant (p : Candidate → Bool)
    (hp : ∀ candidate, p candidate = true → inAccessibleExam memory session candidate = true) :
    (tenantCandidates organizationId memory).countP p = memory.candidates.countP p := by
  rw [List.countP_eq_length_filter, List.countP_eq_length_filter]
  refine congrArg List.length (filter_filter_of_imp fun candidate _ h => ?_)
  simpa using examId_of_inAccessibleExam hmember (hp candidate h)

/-- `getDashboardInStore` on the memory reads the part of the organization, because each count asks
for what the member may see. -/
theorem dashboardInMemory_tenant (ctx : PlatformContext) :
    dashboardInMemory ctx (tenantMemory organizationId memory) session
      = dashboardInMemory ctx memory session := by
  have hexams : ∀ p : Exam → Bool, (∀ exam, p exam = true → canAccessExam session exam = true) →
      (tenantExams organizationId memory).countP p = memory.exams.countP p := by
    intro p hp
    rw [List.countP_eq_length_filter, List.countP_eq_length_filter]
    exact congrArg List.length (filter_filter_of_imp fun exam _ hexam =>
      decide_eq_true (organizationId_of_canAccessExam hmember (hp exam hexam)))
  have hin : inAccessibleExam (tenantMemory organizationId memory) session
      = inAccessibleExam memory session := funext (inAccessibleExam_tenant hmember)
  unfold dashboardInMemory
  rw [hin, listExamsInMemory_tenant hmember]
  congr 1
  · exact hexams _ fun exam h => h
  · exact hexams _ fun exam h => (Bool.and_eq_true_iff.mp h).1
  · exact countP_tenant hmember _ fun candidate h => h
  · exact countP_tenant hmember _ fun candidate h => (Bool.and_eq_true_iff.mp h).2

end

/-! ### The tables -/

section
variable (organizationId : String) (t : PlatformTables)

/-- The identifiers of the exams of the organization. -/
def tenantExamKeys : List String :=
  (t.exams.rows.filter (·.organizationId = organizationId)).map (·.id)

/-- The exam is one of the organization's. -/
def inTenantExam (examId : String) : Bool := (tenantExamKeys organizationId t).contains examId

/-- The identifiers of the questions of these exams. -/
def tenantQuestionKeys : List String :=
  (t.questions.rows.filter fun row => inTenantExam organizationId t row.examId).map (·.id)

/-- The identifiers of the candidates of these exams. -/
def tenantCandidateKeys : List String :=
  (t.candidates.rows.filter fun row => inTenantExam organizationId t row.examId).map (·.id)

/-- The row is attached to the exams or the candidates. -/
def attachedRow {ρ : Type} (examId candidateId : ρ → String) (row : ρ) : Bool :=
  attached (tenantExamKeys organizationId t) (tenantCandidateKeys organizationId t) (examId row)
    (candidateId row)

/-- The submission is attached to the exams or the candidates. -/
def attachedSubmission (row : SubmissionRow) : Bool :=
  attachedRow organizationId t SubmissionRow.examId SubmissionRow.candidateId row

/-- The execution belongs to one of the candidates. It has no exam of its own. -/
def attachedExecution (row : CodeExecutionRow) : Bool :=
  (tenantCandidateKeys organizationId t).contains row.candidateId

/-- The test result belongs to a submission or an execution of the organization. -/
def attachedResult (row : JudgeTestResultRow) : Bool :=
  (row.submissionId.any fun id =>
      ((t.submissions.rows.filter (attachedSubmission organizationId t)).map (·.id)).contains id) ||
    row.codeExecutionId.any fun id =>
      ((t.codeExecutions.rows.filter (attachedExecution organizationId t)).map (·.id)).contains id

/-- The tables with what belongs to the organization. -/
def tenantTables : PlatformTables where
  organizations := t.organizations.filter (·.id = organizationId)
  exams := t.exams.filter (·.organizationId = organizationId)
  questions := t.questions.filter fun row => inTenantExam organizationId t row.examId
  testCases := t.testCases.filter fun row =>
    (tenantQuestionKeys organizationId t).contains row.questionId
  candidates := t.candidates.filter fun row => inTenantExam organizationId t row.examId
  examSessions := t.examSessions.filter
    (attachedRow organizationId t ExamSessionRow.examId ExamSessionRow.candidateId)
  codeDrafts := t.codeDrafts.filter
    (attachedRow organizationId t CodeDraftRow.examId CodeDraftRow.candidateId)
  inviteEmailLogs := t.inviteEmailLogs.filter
    (attachedRow organizationId t InviteEmailLogRow.examId InviteEmailLogRow.candidateId)
  proctorEvents := t.proctorEvents.filter
    (attachedRow organizationId t ProctorEventRow.examId ProctorEventRow.candidateId)
  proctorDevices := t.proctorDevices.filter
    (attachedRow organizationId t ProctorDeviceRow.examId ProctorDeviceRow.candidateId)
  proctorActions := t.proctorActions.filter
    (attachedRow organizationId t ProctorActionRow.examId ProctorActionRow.candidateId)
  identityVerifications := t.identityVerifications.filter
    (attachedRow organizationId t IdentityVerificationRow.examId
      IdentityVerificationRow.candidateId)
  environmentChecks := t.environmentChecks.filter
    (attachedRow organizationId t EnvironmentCheckRow.examId EnvironmentCheckRow.candidateId)
  submissions := t.submissions.filter (attachedSubmission organizationId t)
  codeExecutions := t.codeExecutions.filter (attachedExecution organizationId t)
  judgeTestResults := t.judgeTestResults.filter (attachedResult organizationId t)
  competencyReports := t.competencyReports.filter
    (attachedRow organizationId t CompetencyReportRow.examId CompetencyReportRow.candidateId)

end

section
variable {organizationId : String} {t : PlatformTables} {session : AuthSession}

/-- The newest rows of a candidate, in a part that has all of them. -/
theorem newestOf_filter {ρ : Type} {key : ρ → String} (table : Table key) (owner : ρ → String)
    (createdAt : ρ → Int) (id : String) (take : Nat) {p : ρ → Bool}
    (hp : ∀ row, owner row = id → p row = true) :
    PlatformTables.newestOf (table.filter p) owner createdAt id take
      = PlatformTables.newestOf table owner createdAt id take := by
  unfold PlatformTables.newestOf
  rw [Table.rows_filter, filter_filter_of_imp fun row _ hrow => hp row (of_decide_eq_true hrow)]

/-- A row of a candidate of the organization is attached to it. -/
theorem attachedRow_of_candidate {ρ : Type} (examId candidateId : ρ → String) {id : String}
    (hid : id ∈ tenantCandidateKeys organizationId t) (row : ρ) (hrow : candidateId row = id) :
    attachedRow organizationId t examId candidateId row = true :=
  attached_of_candidate (by rw [hrow]; exact hid)

/-- The submissions of a candidate of the organization, with their results, are the same in its
part. -/
theorem submissionsOf_tenant {id : String} (hid : id ∈ tenantCandidateKeys organizationId t) :
    (tenantTables organizationId t).submissionsOf id = t.submissionsOf id := by
  have hrows : (tenantTables organizationId t).submissions.rows.filter (·.candidateId = id)
      = t.submissions.rows.filter (·.candidateId = id) :=
    filter_filter_of_imp fun row _ hrow =>
      attachedRow_of_candidate _ _ hid row (of_decide_eq_true hrow)
  unfold PlatformTables.submissionsOf
  rw [hrows]
  refine List.map_congr_left fun submission hsubmission => ?_
  have hmem := (List.mem_insertionSort _).mp hsubmission
  have hattached : submission.id ∈ (t.submissions.rows.filter
      (attachedSubmission organizationId t)).map (·.id) := by
    rw [← hrows] at hmem
    exact List.mem_map_of_mem (List.mem_filter.mp hmem).1
  refine congrArg (mapSubmission submission) (congrArg (orderByAsc _) ?_)
  refine filter_filter_of_imp fun row _ hrow => ?_
  unfold attachedResult
  rw [of_decide_eq_true hrow]
  exact Bool.or_eq_true_iff.mpr (.inl (List.contains_iff_mem.mpr hattached))

/-- The executions of a candidate of the organization, with their results, are the same in its
part: filtering first or selecting first does not matter. -/
theorem executionsOf_tenant {id : String} (hid : id ∈ tenantCandidateKeys organizationId t) :
    (tenantTables organizationId t).executionsOf id = t.executionsOf id := by
  -- All rows that belong to the candidate are in the part, so filtering first or selecting first is
  -- the same.
  have howner : ∀ row : CodeExecutionRow, row.candidateId = id →
      attachedExecution organizationId t row = true := by
    intro row hrow
    unfold attachedExecution
    rw [hrow]
    simpa using hid
  have hrows : PlatformTables.newestOf (tenantTables organizationId t).codeExecutions
        (·.candidateId) (·.createdAt) id 20
      = PlatformTables.newestOf t.codeExecutions (·.candidateId) (·.createdAt) id 20 :=
    newestOf_filter _ _ _ id 20 howner
  unfold PlatformTables.executionsOf
  rw [hrows]
  refine List.map_congr_left fun execution hexecution => ?_
  have hmem := (List.mem_insertionSort _).mp (List.mem_of_mem_take hexecution)
  obtain ⟨hin, hcandidate⟩ := List.mem_filter.mp hmem
  have hattached : execution.id ∈ (t.codeExecutions.rows.filter
      (attachedExecution organizationId t)).map (·.id) :=
    List.mem_map_of_mem
      (List.mem_filter.mpr ⟨hin, howner execution (of_decide_eq_true hcandidate)⟩)
  -- The test results of an execution come with it.
  refine congrArg (mapCodeExecution execution) (congrArg (orderByAsc _) ?_)
  refine filter_filter_of_imp fun row _ hrow => ?_
  unfold attachedResult
  rw [of_decide_eq_true hrow]
  exact Bool.or_eq_true_iff.mpr (.inr (List.contains_iff_mem.mpr hattached))

/-- The report of a candidate of the organization is the same in its part, record by record. -/
theorem candidateReport_tenantTables (candidate : CandidateRow)
    (hid : candidate.id ∈ tenantCandidateKeys organizationId t) :
    (tenantTables organizationId t).candidateReport candidate = t.candidateReport candidate := by
  have hdevices : (tenantTables organizationId t).proctorDevices.rows.filter
        (·.candidateId = candidate.id)
      = t.proctorDevices.rows.filter (·.candidateId = candidate.id) :=
    filter_filter_of_imp fun row _ hrow =>
      attachedRow_of_candidate _ _ hid row (of_decide_eq_true hrow)
  unfold PlatformTables.candidateReport
  rw [submissionsOf_tenant hid, executionsOf_tenant hid]
  unfold PlatformTables.competencyReportsOf PlatformTables.identityVerificationsOf
    PlatformTables.environmentChecksOf PlatformTables.inviteEmailLogsOf
    PlatformTables.proctorEventsOf PlatformTables.proctorActionsOf
    PlatformTables.proctorDevicesOf
  rw [hdevices]
  unfold tenantTables
  simp only [newestOf_filter _ _ _ _ _ (attachedRow_of_candidate _ _ hid)]

/-- The candidates of an exam of the organization. -/
theorem candidatesOf_tenant {examId : String} (hid : examId ∈ tenantExamKeys organizationId t) :
    (tenantTables organizationId t).candidatesOf examId = t.candidatesOf examId := by
  refine congrArg (orderByAsc _) (filter_filter_of_imp fun row _ hrow => ?_)
  rw [of_decide_eq_true hrow]
  exact List.contains_iff_mem.mpr hid

/-- The questions of an exam of the organization, read from its part. -/
theorem questionsOf_tenant {examId : String} (hid : examId ∈ tenantExamKeys organizationId t) :
    (tenantTables organizationId t).questionsOf examId = t.questionsOf examId := by
  refine congrArg (orderByAsc _) (filter_filter_of_imp fun row _ hrow => ?_)
  rw [of_decide_eq_true hrow]
  exact List.contains_iff_mem.mpr hid

section
variable (hmember : MemberOf organizationId session)
include hmember

/-- What a session is denied in the store is not in its part. -/
theorem findAccessibleExamRow_tenant (examId : String) :
    findAccessibleExamRow (tenantTables organizationId t) examId session
      = findAccessibleExamRow t examId session := by
  have hfind : (tenantTables organizationId t).exams.find? examId
      = (t.exams.find? examId).filter (·.organizationId = organizationId) :=
    Table.find?_filter _ _ _
  unfold findAccessibleExamRow
  rw [hfind, accessibleExam_filter hmember]

/-- An exam that a session finds is an exam of its organization. -/
theorem mem_tenantExamKeys_of_found {examId : String} {exam : ExamRow}
    (h : findAccessibleExamRow t examId session = .ok exam) :
    exam.id = examId ∧ examId ∈ tenantExamKeys organizationId t := by
  obtain ⟨hfound, horganization⟩ := accessibleExam_eq_ok hmember h
  obtain ⟨hin, hid⟩ := (t.exams.find?_eq_some_iff _ _).mp hfound
  exact ⟨hid, List.mem_map.mpr
    ⟨exam, List.mem_filter.mpr ⟨hin, decide_eq_true horganization⟩, hid⟩⟩

/-- `getExamReportInStore` on the database reads the part of the organization: the exam of a member
is in it, with all its candidates. -/
theorem examReportInDatabase_tenant (examId : String) :
    examReportInDatabase (tenantTables organizationId t) examId session
      = examReportInDatabase t examId session := by
  unfold examReportInDatabase
  rw [findAccessibleExamRow_tenant hmember]
  cases hexam : findAccessibleExamRow t examId session with
  | error error => rfl
  | ok exam =>
      have hid := (mem_tenantExamKeys_of_found hmember hexam).2
      refine congrArg Except.ok (congrArg (ExamReport.mk (mapExam exam)) ?_)
      rw [candidatesOf_tenant hid]
      refine List.map_congr_left fun candidate hcandidate =>
        candidateReport_tenantTables candidate ?_
      obtain ⟨hin, hrow⟩ := List.mem_filter.mp ((List.mem_insertionSort _).mp hcandidate)
      refine List.mem_map_of_mem (List.mem_filter.mpr ⟨hin, ?_⟩)
      rw [of_decide_eq_true hrow]
      exact List.contains_iff_mem.mpr hid

/-- `getExamDetailInStore` on the database reads the part of the organization: the exam of a member
is in it, with all its questions. -/
theorem examDetailInDatabase_tenant (examId : String) :
    examDetailInDatabase (tenantTables organizationId t) examId session
      = examDetailInDatabase t examId session := by
  unfold examDetailInDatabase
  rw [findAccessibleExamRow_tenant hmember]
  cases hexam : findAccessibleExamRow t examId session with
  | error error => rfl
  | ok exam =>
      obtain ⟨rfl, hid⟩ := mem_tenantExamKeys_of_found hmember hexam
      refine congrArg Except.ok (congrArg₂ (ExamDetail.mk (mapExam exam)) ?_ ?_)
      · rw [questionsOf_tenant hid]
        refine List.map_congr_left fun question hquestion => ?_
        obtain ⟨hin, hrow⟩ := List.mem_filter.mp ((List.mem_insertionSort _).mp hquestion)
        have hmem : question.id ∈ tenantQuestionKeys organizationId t := by
          refine List.mem_map_of_mem (List.mem_filter.mpr ⟨hin, ?_⟩)
          rw [of_decide_eq_true hrow]
          exact List.contains_iff_mem.mpr hid
        refine congrArg (QuestionWithTestCases.mk (mapQuestion question)) ?_
        refine congrArg (List.map mapTestCase) (congrArg (orderByAsc _) ?_)
        refine filter_filter_of_imp fun testCase _ htestCase => ?_
        rw [of_decide_eq_true htestCase]
        exact List.contains_iff_mem.mpr hmem
      · rw [candidatesOf_tenant hid]

/-- The exams that `scopedExamWhere` and `activeExamWhere` select. -/
theorem filter_exams_tenant (p : ExamRow → Bool)
    (hp : ∀ exam, p exam = true → exam.organizationId = session.organization.id) :
    (tenantTables organizationId t).exams.rows.filter p = t.exams.rows.filter p :=
  filter_filter_of_imp fun exam _ hexam =>
    decide_eq_true ((hp exam hexam).trans hmember.organization)

/-- The condition on the exams in reports lets through those of the member's organization only. -/
theorem organizationId_of_scopedExamWhere (exam : ExamRow)
    (h : scopedExamWhere session exam = true) :
    exam.organizationId = session.organization.id := by
  unfold scopedExamWhere at h
  simp [hmember.role] at h
  exact h.2

/-- So does the one on the exams that are not deleted. -/
theorem organizationId_of_activeExamWhere (exam : ExamRow)
    (h : activeExamWhere session exam = true) :
    exam.organizationId = session.organization.id := by
  unfold activeExamWhere at h
  simp [hmember.role] at h
  exact h.2

/-- The list of exams, read from the tables. -/
theorem listExamsInDatabase_tenant :
    listExamsInDatabase (tenantTables organizationId t) session
      = listExamsInDatabase t session := by
  unfold listExamsInDatabase
  rw [filter_exams_tenant hmember _ (organizationId_of_scopedExamWhere hmember)]

/-- A candidate whose exam is in the organization, in the store and in its part. -/
theorem candidateWhere_tenant (candidate : CandidateRow) :
    candidateWhere (tenantTables organizationId t) session candidate
      = candidateWhere t session candidate := by
  have hfind : (tenantTables organizationId t).exams.find? candidate.examId
      = (t.exams.find? candidate.examId).filter (·.organizationId = organizationId) :=
    Table.find?_filter _ _ _
  unfold candidateWhere
  rw [hfind, hmember.organization]
  cases t.exams.find? candidate.examId with
  | none => rfl
  | some exam =>
      by_cases horganization : exam.organizationId = organizationId <;>
        simp [Option.filter, horganization]

/-- The condition on candidates lets through those of an exam of the organization. -/
theorem inTenantExam_of_candidateWhere (candidate : CandidateRow)
    (h : candidateWhere t session candidate = true) :
    inTenantExam organizationId t candidate.examId = true := by
  unfold candidateWhere at h
  rw [decide_eq_false hmember.role, Bool.false_or, Option.any_eq_true] at h
  obtain ⟨exam, hexam, horganization⟩ := h
  have hin := (t.exams.find?_eq_some_iff _ _).mp hexam
  refine List.contains_iff_mem.mpr (List.mem_map.mpr ⟨exam, List.mem_filter.mpr ⟨hin.1, ?_⟩, hin.2⟩)
  exact decide_eq_true ((of_decide_eq_true horganization).trans hmember.organization)

/-- `getDashboardInStore` on the database reads the part of the organization: a count whose filter
asks for the organization is the same in its part. -/
theorem dashboardInDatabase_tenant :
    dashboardInDatabase (tenantTables organizationId t) session
      = dashboardInDatabase t session := by
  have horganization : (tenantTables organizationId t).organizations.find?
      session.organization.id = t.organizations.find? session.organization.id := by
    refine (Table.find?_filter _ _ _).trans ?_
    cases hfind : t.organizations.find? session.organization.id with
    | none => rfl
    | some organization =>
        have hid := Table.key_of_find? hfind
        simp [Option.filter, hid, hmember.organization]
  -- A count whose filter asks for the organization is the same in its part.
  have hexams : ∀ p : ExamRow → Bool,
      (∀ exam, p exam = true → exam.organizationId = session.organization.id) →
      (tenantTables organizationId t).exams.count p = t.exams.count p := by
    intro p hp
    unfold Table.count
    rw [List.countP_eq_length_filter, List.countP_eq_length_filter,
      filter_exams_tenant hmember p hp]
  have hcandidates : ∀ p : CandidateRow → Bool,
      (∀ candidate, p candidate = true → candidateWhere t session candidate = true) →
      (tenantTables organizationId t).candidates.count p = t.candidates.count p := by
    intro p hp
    unfold Table.count
    rw [List.countP_eq_length_filter, List.countP_eq_length_filter]
    exact congrArg List.length (filter_filter_of_imp fun candidate _ h =>
      inTenantExam_of_candidateWhere hmember candidate (hp candidate h))
  have hwhere : candidateWhere (tenantTables organizationId t) session
      = candidateWhere t session := funext (candidateWhere_tenant hmember)
  have hpending : pendingCandidateWhere (tenantTables organizationId t) session
      = pendingCandidateWhere t session := by
    funext candidate
    unfold pendingCandidateWhere
    rw [hwhere]
  unfold dashboardInDatabase
  rw [horganization, hwhere, hpending, listExamsInDatabase_tenant hmember,
    hexams _ (organizationId_of_scopedExamWhere hmember),
    hexams _ (organizationId_of_activeExamWhere hmember), hcandidates _ fun candidate h => h,
    hcandidates (pendingCandidateWhere t session) fun candidate h =>
      (Bool.and_eq_true_iff.mp h).2]

end

end

end Dcvp.Proofs
