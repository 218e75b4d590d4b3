import Dcvp.Proofs.StorePaths

/-!
# `Dcvp.Proofs.HiddenTests`: what candidates see does not depend on hidden tests

A statement about two stores. `publicPart` erases what a candidate must not see: the expected
answers of questions, the texts of hidden test results, and the texts of errors. Of an error
only its presence is left, where an empty text counts as none, as it does in the source.

Two stores with the same public part show a candidate the same workspace
(`candidate_view_hides_tests`). The proof goes through the two paths one by one. On each path
the scrubbing functions make of a record what they make of its public part.
-/

set_option autoImplicit false

namespace Dcvp.Proofs

open Dcvp.Lib
open Dcvp.Lib.Computation
open Dcvp.Shared
open Dcvp.Services.PlatformStore

/-! ### The public part of a record -/

/-- The presence of an error. -/
def erasedError (error : Option String) : Option String := (Js.truthy error).map fun _ => "error"

/-- A test result without its hidden texts. -/
def publicResult (result : JudgeTestResult) : JudgeTestResult :=
  if result.isPublic then { result with error := erasedError result.error }
  else { result with input := "", expectedOutput := "", actualOutput := "", error := none }

/-- An execution without its hidden texts. -/
def publicExecution (execution : CodeExecution) : CodeExecution :=
  { execution with
    error := erasedError execution.error
    testResults := execution.testResults.map publicResult }

/-- A submission without its hidden texts. -/
def publicSubmission (submission : Submission) : Submission :=
  { submission with testResults := submission.testResults.map publicResult }

/-- The row of a test result without its hidden texts. -/
def publicResultRow (row : JudgeTestResultRow) : JudgeTestResultRow :=
  if row.isPublic then { row with error := erasedError row.error }
  else { row with input := "", expectedOutput := "", actualOutput := "", error := none }

/-- The row of an execution without the text of its error. -/
def publicExecutionRow (row : CodeExecutionRow) : CodeExecutionRow :=
  { row with error := erasedError row.error }

/-- The row of a question without the expected answer. -/
def publicQuestionRow (row : QuestionRow) : QuestionRow := { row with expectedAnswer := none }

/-- The erased row of a question has the key of the row. -/
theorem publicQuestionRow_id (row : QuestionRow) : (publicQuestionRow row).id = row.id := rfl

/-- The erased row of an execution has the key of the row. -/
theorem publicExecutionRow_id (row : CodeExecutionRow) :
    (publicExecutionRow row).id = row.id := rfl

/-- The erased row of a test result has the key of the row. -/
@[simp] theorem publicResultRow_id (row : JudgeTestResultRow) :
    (publicResultRow row).id = row.id := by
  unfold publicResultRow
  split <;> rfl

/-- It belongs to the same execution. -/
@[simp] theorem publicResultRow_codeExecutionId (row : JudgeTestResultRow) :
    (publicResultRow row).codeExecutionId = row.codeExecutionId := by
  unfold publicResultRow
  split <;> rfl

/-- It belongs to the same submission. -/
@[simp] theorem publicResultRow_submissionId (row : JudgeTestResultRow) :
    (publicResultRow row).submissionId = row.submissionId := by
  unfold publicResultRow
  split <;> rfl

/-- It has the same place among the results. -/
@[simp] theorem publicResultRow_testIndex (row : JudgeTestResultRow) :
    (publicResultRow row).testIndex = row.testIndex := by
  unfold publicResultRow
  split <;> rfl

/-! ### The public part of a store -/

/-- The memory without what candidates must not see. -/
def publicMemory (memory : PlatformMemory) : PlatformMemory :=
  { memory with
    questions := memory.questions.map omitExpectedAnswer
    codeExecutions := memory.codeExecutions.map publicExecution
    submissions := memory.submissions.map publicSubmission }

/-- The tables without what candidates must not see. -/
def publicTables (t : PlatformTables) : PlatformTables :=
  { t with
    questions := t.questions.mapRows publicQuestionRow publicQuestionRow_id
    codeExecutions := t.codeExecutions.mapRows publicExecutionRow publicExecutionRow_id
    judgeTestResults := t.judgeTestResults.mapRows publicResultRow publicResultRow_id }

/-- The questions of the erased tables, in their order. -/
@[simp] theorem rows_public_questions (t : PlatformTables) :
    (publicTables t).questions.rows = t.questions.rows.map publicQuestionRow := by
  simp [publicTables]

/-- The executions of the erased tables, in their order. -/
@[simp] theorem rows_public_codeExecutions (t : PlatformTables) :
    (publicTables t).codeExecutions.rows = t.codeExecutions.rows.map publicExecutionRow := by
  simp [publicTables]

/-- The test results of the erased tables, in their order. -/
@[simp] theorem rows_public_judgeTestResults (t : PlatformTables) :
    (publicTables t).judgeTestResults.rows = t.judgeTestResults.rows.map publicResultRow := by
  simp [publicTables]

/-- The two stores agree on everything but what candidates must not see. -/
def SamePublicPart : Store → Store → Prop :=
  StoresAgree (fun m m' => publicMemory m = publicMemory m')
    fun db db' => publicTables db.toPlatformTables = publicTables db'.toPlatformTables

/-! ### The scrubbing functions -/

/-- A candidate is shown whether there is an error, so the erased error shows the same. -/
theorem shownError_erasedError (error : Option String) :
    shownError (erasedError error) = shownError error := by
  unfold shownError erasedError
  cases Js.truthy error with
  | none => rfl
  | some text => rfl

/-- A candidate sees of a test result what is left in its public part. -/
theorem toCandidateJudgeTestResult_public (result : JudgeTestResult) :
    toCandidateJudgeTestResult (publicResult result) = toCandidateJudgeTestResult result := by
  unfold toCandidateJudgeTestResult publicResult
  by_cases h : result.isPublic = true
  · simp [h, shownError_erasedError]
  · simp [h]

/-- Of a list of test results, the candidate gets what he gets of their public parts. -/
theorem map_toCandidateJudgeTestResult_public (results : List JudgeTestResult) :
    (results.map publicResult).map toCandidateJudgeTestResult
      = results.map toCandidateJudgeTestResult := by
  rw [List.map_map]
  exact List.map_congr_left fun result _ => toCandidateJudgeTestResult_public result

/-- Of a submission, the candidate gets what he gets of its public part. -/
theorem toCandidateSubmission_public (submission : Submission) :
    toCandidateSubmission (publicSubmission submission) = toCandidateSubmission submission := by
  unfold toCandidateSubmission publicSubmission
  simp only [map_toCandidateJudgeTestResult_public]

/-- Of an execution, the candidate gets what he gets of its public part. The hidden results are
scrubbed in both, and the error is shown by its presence. -/
theorem toCandidateCodeExecution_public (execution : CodeExecution) :
    toCandidateCodeExecution (publicExecution execution)
      = toCandidateCodeExecution execution := by
  unfold toCandidateCodeExecution publicExecution
  simp only [map_toCandidateJudgeTestResult_public, shownError_erasedError]

/-- What is equal up to hidden texts is shown alike. -/
theorem toCandidateSubmission_eq {x y : Submission} (h : publicSubmission x = publicSubmission y) :
    toCandidateSubmission x = toCandidateSubmission y := by
  rw [← toCandidateSubmission_public x, h, toCandidateSubmission_public]

/-- Executions with one public part look alike to the candidate. -/
theorem toCandidateCodeExecution_eq {x y : CodeExecution}
    (h : publicExecution x = publicExecution y) :
    toCandidateCodeExecution x = toCandidateCodeExecution y := by
  rw [← toCandidateCodeExecution_public x, h, toCandidateCodeExecution_public]

/-! ### The memory path -/

/-- The invite is read from the public part of the memory: its questions come without their
answers, and it shows no test case. -/
theorem getCandidateInviteInStore_public (memory : PlatformMemory) (inviteToken : String) :
    getCandidateInviteInStore (publicMemory memory).candidatePortalMemoryState inviteToken
      = getCandidateInviteInStore memory.candidatePortalMemoryState inviteToken := by
  have hinvite : ∀ candidate exam,
      inviteOf (publicMemory memory).candidatePortalMemoryState candidate exam
        = inviteOf memory.candidatePortalMemoryState candidate exam := by
    intro candidate exam
    unfold inviteOf
    have hquestions : (((publicMemory memory).questions.filter
        (·.examId = exam.id)).map omitExpectedAnswer)
        = (memory.questions.filter (·.examId = exam.id)).map omitExpectedAnswer := by
      show ((memory.questions.map omitExpectedAnswer).filter _).map _ = _
      rw [List.filter_map, List.map_map]
      rfl
    simp only [PlatformMemory.candidatePortalMemoryState]
    rw [hquestions]
    rfl
  unfold getCandidateInviteInStore
  simp only [hinvite]
  rfl

/-- A sort by date does not look at hidden texts. -/
theorem sortByNewest_map {α : Type} (ctx : PlatformContext) (key : α → String) (f : α → α)
    (hf : ∀ a, key (f a) = key a) (items : List α) :
    sortByNewest ctx key (items.map f) = (sortByNewest ctx key items).map f := by
  unfold sortByNewest
  rw [List.map_mergeSort]
  intro a _ b _
  rw [hf, hf]

/-- A sorted selection of changed records is the changed selection. -/
theorem sortByNewest_filter_map {α : Type} (ctx : PlatformContext) (key : α → String)
    (p : α → Bool) (f : α → α) (hkey : ∀ a, key (f a) = key a) (hp : ∀ a, p (f a) = p a)
    (items : List α) :
    sortByNewest ctx key ((items.map f).filter p)
      = (sortByNewest ctx key (items.filter p)).map f := by
  rw [List.filter_map, sortByNewest_map ctx key f hkey]
  congr 3
  funext a
  exact hp a

/-- The workspace, as the candidate gets it, and the sessions that are stored. -/
def shownWorkspace (result : CandidateWorkspace × List ExamSession) :
    CandidateWorkspace × List ExamSession := (toCandidateWorkspace result.1, result.2)

/-- The workspace is shown as the public part of the memory has it, because selection and order
look at public columns only. -/
theorem getCandidateWorkspaceInStore_public (ctx : PlatformContext) (memory : PlatformMemory)
    (invite : CandidateInvite) (turn : PlatformInput) :
    shownWorkspace <$> getCandidateWorkspaceInStore ctx
        (publicMemory memory).candidateWorkspaceMemoryState invite turn
      = shownWorkspace <$> getCandidateWorkspaceInStore ctx
        memory.candidateWorkspaceMemoryState invite turn := by
  -- Selection and order look at public columns only, and the view forgets what the public part has
  -- forgotten.
  have hsubmissions : (sortByNewest ctx (·.submittedAt) ((memory.submissions.map
        publicSubmission).filter (·.candidateId = invite.candidate.id))).map toCandidateSubmission
      = (sortByNewest ctx (·.submittedAt) (memory.submissions.filter
        (·.candidateId = invite.candidate.id))).map toCandidateSubmission := by
    rw [sortByNewest_filter_map ctx _ _ publicSubmission (fun _ => rfl) (fun _ => rfl),
      List.map_map]
    exact List.map_congr_left fun submission _ => toCandidateSubmission_public submission
  have hexecutions : ((sortByNewest ctx (·.createdAt) ((memory.codeExecutions.map
        publicExecution).filter (·.candidateId = invite.candidate.id))).take 20).map
          toCandidateCodeExecution
      = ((sortByNewest ctx (·.createdAt) (memory.codeExecutions.filter
        (·.candidateId = invite.candidate.id))).take 20).map toCandidateCodeExecution := by
    rw [sortByNewest_filter_map ctx _ _ publicExecution (fun _ => rfl) (fun _ => rfl),
      ← List.map_take, List.map_map]
    exact List.map_congr_left fun execution _ => toCandidateCodeExecution_public execution
  unfold getCandidateWorkspaceInStore
  show shownWorkspace <$> (ensureMemoryExamSession ctx memory.examSessions invite turn >>= _)
    = shownWorkspace <$> (ensureMemoryExamSession ctx memory.examSessions invite turn >>= _)
  -- The session does not depend on hidden texts, so both runs end alike here.
  cases ensureMemoryExamSession ctx memory.examSessions invite turn with
  | error error => rfl
  | ok session =>
      show Except.ok (shownWorkspace _) = Except.ok (shownWorkspace _)
      unfold shownWorkspace toCandidateWorkspace
      simp only [PlatformMemory.candidateWorkspaceMemoryState]
      refine congrArg Except.ok (Prod.ext ?_ rfl)
      show CandidateWorkspace.mk _ _ _ _ _ _ _ = CandidateWorkspace.mk _ _ _ _ _ _ _
      rw [CandidateWorkspace.mk.injEq]
      exact ⟨rfl, hsubmissions, hexecutions, rfl, rfl, rfl, rfl⟩

/-! ### The database path -/

/-- An order by dates does not look at hidden texts. -/
theorem orderByAsc_map {ρ : Type} (column : ρ → Int) (f : ρ → ρ)
    (hf : ∀ row, column (f row) = column row) (rows : List ρ) :
    orderByAsc column (rows.map f) = (orderByAsc column rows).map f := by
  unfold orderByAsc
  refine (List.map_insertionSort _ _ f rows fun a _ b _ => ?_).symm
  rw [hf, hf]

/-- To sort by a column and to change the rows commute, when the change leaves the column. -/
theorem orderByDesc_map {ρ : Type} (column : ρ → Int) (f : ρ → ρ)
    (hf : ∀ row, column (f row) = column row) (rows : List ρ) :
    orderByDesc column (rows.map f) = (orderByDesc column rows).map f := by
  unfold orderByDesc
  refine (List.map_insertionSort _ _ f rows fun a _ b _ => ?_).symm
  rw [hf, hf]

/-- The record of an erased row is the erased record of the row. -/
theorem mapJudgeTestResult_public (row : JudgeTestResultRow) :
    mapJudgeTestResult (publicResultRow row) = publicResult (mapJudgeTestResult row) := by
  unfold publicResultRow publicResult
  have hpublic : (mapJudgeTestResult row).isPublic = row.isPublic := rfl
  rw [hpublic]
  split <;> rfl

section
variable (t : PlatformTables)

/-- To select, order and map the test results of the public part gives the public part of the
mapped results, when the selection does not look at what is hidden. -/
theorem map_testResults_public (p : JudgeTestResultRow → Bool)
    (hp : ∀ row, p (publicResultRow row) = p row) :
    (orderByAsc (fun row => (row.testIndex : Int))
        ((publicTables t).judgeTestResults.rows.filter p)).map mapJudgeTestResult
      = ((orderByAsc (fun row => (row.testIndex : Int))
        (t.judgeTestResults.rows.filter p)).map mapJudgeTestResult).map publicResult := by
  have hfilter : (p ∘ publicResultRow) = p := funext hp
  rw [rows_public_judgeTestResults, List.filter_map, hfilter,
    orderByAsc_map _ publicResultRow fun row => by simp, List.map_map, List.map_map]
  exact List.map_congr_left fun row _ => mapJudgeTestResult_public row

/-- The submissions of a candidate with their results, read from the erased tables. -/
theorem submissionsOf_public (candidateId : String) :
    (publicTables t).submissionsOf candidateId
      = (t.submissionsOf candidateId).map publicSubmission := by
  unfold PlatformTables.submissionsOf
  rw [List.map_map]
  refine List.map_congr_left fun submission _ => ?_
  show mapSubmission submission _ = publicSubmission (mapSubmission submission _)
  unfold mapSubmission publicSubmission PlatformTables.submissionTestResults
  rw [map_testResults_public t _ fun row => by simp]

/-- The executions of a candidate with their results, read from the erased tables. -/
theorem executionsOf_public (candidateId : String) :
    (publicTables t).executionsOf candidateId
      = (t.executionsOf candidateId).map publicExecution := by
  have hrows : PlatformTables.newestOf (publicTables t).codeExecutions (·.candidateId)
        (·.createdAt) candidateId 20
      = (PlatformTables.newestOf t.codeExecutions (·.candidateId) (·.createdAt) candidateId
        20).map publicExecutionRow := by
    unfold PlatformTables.newestOf
    rw [rows_public_codeExecutions, List.filter_map,
      orderByDesc_map _ publicExecutionRow fun _ => rfl, List.map_take]
    rfl
  unfold PlatformTables.executionsOf
  rw [hrows, List.map_map, List.map_map]
  refine List.map_congr_left fun execution _ => ?_
  show mapCodeExecution (publicExecutionRow execution) _
    = publicExecution (mapCodeExecution execution _)
  unfold mapCodeExecution publicExecution PlatformTables.executionTestResults
  rw [map_testResults_public t _ fun row => by simp]
  rfl

/-- The workspace is shown as the public part of the tables has it: what the view leaves out, the
public part has left out as well. -/
theorem workspaceOf_public (invite : CandidateInvite) (examSession : ExamSession) :
    toCandidateWorkspace ((publicTables t).workspaceOf invite examSession)
      = toCandidateWorkspace (t.workspaceOf invite examSession) := by
  have hsubmissions : ((publicTables t).submissionsOf invite.candidate.id).map
        toCandidateSubmission
      = (t.submissionsOf invite.candidate.id).map toCandidateSubmission := by
    rw [submissionsOf_public, List.map_map]
    exact List.map_congr_left fun submission _ => toCandidateSubmission_public submission
  have hexecutions : ((publicTables t).executionsOf invite.candidate.id).map
        toCandidateCodeExecution
      = (t.executionsOf invite.candidate.id).map toCandidateCodeExecution := by
    rw [executionsOf_public, List.map_map]
    exact List.map_congr_left fun execution _ => toCandidateCodeExecution_public execution
  show CandidateWorkspace.mk _ _ _ _ _ _ _ = CandidateWorkspace.mk _ _ _ _ _ _ _
  rw [CandidateWorkspace.mk.injEq]
  exact ⟨rfl, hsubmissions, hexecutions, rfl, rfl, rfl, rfl⟩

/-- The invite is read from the public part. -/
theorem candidateInviteInDatabase_public (inviteToken : String) :
    candidateInviteInDatabase (publicTables t) inviteToken
      = candidateInviteInDatabase t inviteToken := by
  have hquestions : ∀ examId, ((publicTables t).questionsOf examId).map mapCandidateQuestion
      = (t.questionsOf examId).map mapCandidateQuestion := by
    intro examId
    unfold PlatformTables.questionsOf
    rw [rows_public_questions, List.filter_map, orderByAsc_map _ publicQuestionRow fun _ => rfl,
      List.map_map]
    rfl
  unfold candidateInviteInDatabase
  simp only [hquestions]
  rfl

end

/-! ### Constraints and statements -/

/-- The tables have the same public part. -/
def SamePublicTables (db db' : PlatformDatabase) : Prop :=
  publicTables db.toPlatformTables = publicTables db'.toPlatformTables

/-- What a function reads from the public part is the same in both. -/
theorem SamePublicTables.column {α : Type} {db db' : PlatformDatabase}
    (h : SamePublicTables db db') (f : PlatformTables → α) :
    f (publicTables db.toPlatformTables) = f (publicTables db'.toPlatformTables) :=
  congrArg f h

section
variable {κ κ' ρ ρ' : Type} [DecidableEq κ'] {key : ρ → κ} {key' : ρ' → κ'}

/-- A reference looks at the columns of the relation only. -/
theorem references_mapRows_left (t : Table key) (relation : ρ → κ') (t' : Table key')
    (f : ρ → ρ) (hf : ∀ r, key (f r) = key r) (hrelation : ∀ r, relation (f r) = relation r) :
    References (t.mapRows f hf) relation t' ↔ References t relation t' := by
  unfold References
  rw [Table.rows_mapRows]
  simp [hrelation]

/-- A change of the rows keeps what can be referred to. -/
theorem references_mapRows_right (t : Table key) (relation : ρ → κ') (t' : Table key')
    (f : ρ' → ρ') (hf : ∀ r, key' (f r) = key' r) :
    References t relation (t'.mapRows f hf) ↔ References t relation t' := by
  unfold References
  simp [Table.find?_mapRows]

end

/-- The constraints of the schema do not look at hidden texts. Table by table, the public part
keeps identifiers and references. -/
theorem foreignKeys_public (t : PlatformTables) :
    (publicTables t).ForeignKeys ↔ t.ForeignKeys := by
  -- Table by table: the public part keeps identifiers and references, so a reference is met in it
  -- exactly when it is in the tables.
  have hquestions : References (publicTables t).questions QuestionRow.examId t.exams
      ↔ References t.questions QuestionRow.examId t.exams :=
    references_mapRows_left _ _ _ _ publicQuestionRow_id fun _ => rfl
  have htestCases : References t.testCases TestCaseRow.questionId (publicTables t).questions
      ↔ References t.testCases TestCaseRow.questionId t.questions :=
    references_mapRows_right _ _ _ _ publicQuestionRow_id
  have hdrafts : References t.codeDrafts CodeDraftRow.questionId (publicTables t).questions
      ↔ References t.codeDrafts CodeDraftRow.questionId t.questions :=
    references_mapRows_right _ _ _ _ publicQuestionRow_id
  have hsubmissions : References t.submissions SubmissionRow.questionId (publicTables t).questions
      ↔ References t.submissions SubmissionRow.questionId t.questions :=
    references_mapRows_right _ _ _ _ publicQuestionRow_id
  have hexecutions : References (publicTables t).codeExecutions CodeExecutionRow.candidateId
        t.candidates
      ↔ References t.codeExecutions CodeExecutionRow.candidateId t.candidates :=
    references_mapRows_left _ _ _ _ publicExecutionRow_id fun _ => rfl
  have hexecutionQuestions : References (publicTables t).codeExecutions
        CodeExecutionRow.questionId (publicTables t).questions
      ↔ References t.codeExecutions CodeExecutionRow.questionId t.questions :=
    (references_mapRows_left _ _ _ _ publicExecutionRow_id fun _ => rfl).trans
      (references_mapRows_right _ _ _ _ publicQuestionRow_id)
  have hresults : (∀ r ∈ (publicTables t).judgeTestResults.rows,
        (∀ id ∈ r.codeExecutionId, (publicTables t).codeExecutions.find? id ≠ none) ∧
          ∀ id ∈ r.submissionId, t.submissions.find? id ≠ none)
      ↔ ∀ r ∈ t.judgeTestResults.rows,
        (∀ id ∈ r.codeExecutionId, t.codeExecutions.find? id ≠ none) ∧
          ∀ id ∈ r.submissionId, t.submissions.find? id ≠ none := by
    rw [rows_public_judgeTestResults]
    simp [publicTables, Table.find?_mapRows]
  exact and_congr (and_congr Iff.rfl (and_congr hquestions (and_congr htestCases Iff.rfl)))
    (and_congr (and_congr Iff.rfl (and_congr Iff.rfl (and_congr hdrafts Iff.rfl)))
      (and_congr (and_congr Iff.rfl (and_congr Iff.rfl (and_congr Iff.rfl (and_congr hsubmissions
        (and_congr hexecutions (and_congr hexecutionQuestions Iff.rfl)))))) hresults))

/-- A statement ends alike on tables with the same public part: both are stored, or both are
refused with the same error. -/
theorem commit_samePublic {t t' : PlatformTables} (h : publicTables t = publicTables t') :
    SameOutcome SamePublicTables (PlatformDatabase.commit t) (PlatformDatabase.commit t') := by
  have hunique : t.UniqueColumns ↔ t'.UniqueColumns := by
    show (publicTables t).UniqueColumns ↔ (publicTables t').UniqueColumns
    rw [h]
  have hrelated : t.ForeignKeys ↔ t'.ForeignKeys := by
    rw [← foreignKeys_public t, h, foreignKeys_public]
  unfold PlatformDatabase.commit
  by_cases hu : t.UniqueColumns
  · rw [dif_pos hu, dif_pos (hunique.mp hu)]
    by_cases hr : t.ForeignKeys
    · rw [dif_pos hr, dif_pos (hrelated.mp hr)]
      exact h
    · rw [dif_neg hr, dif_neg fun hr' => hr (hrelated.mpr hr')]
      exact rfl
  · rw [dif_neg hu, dif_neg fun hu' => hu (hunique.mpr hu')]
    exact rfl

/-- `create` on a table that both databases have in common. -/
theorem create_samePublic {ρ : Type} {key : ρ → String} {table table' : Table key} {row : ρ}
    {put put' : Table key → PlatformTables} (htable : table = table')
    (hput : ∀ new, publicTables (put new) = publicTables (put' new)) :
    SameOutcome SamePublicTables (PlatformDatabase.create table row put)
      (PlatformDatabase.create table' row put') := by
  subst htable
  unfold PlatformDatabase.create
  cases table.insert? row with
  | none => exact rfl
  | some new => exact commit_samePublic (hput new)

/-! ### The demo data -/

/-- Questions that are alike without the expected answer have one identifier. -/
theorem id_of_omitExpectedAnswer {q q' : Question}
    (h : omitExpectedAnswer q = omitExpectedAnswer q') : q.id = q'.id := by
  show (omitExpectedAnswer q).id = (omitExpectedAnswer q').id
  rw [h]

/-- The first questions of two arrays that are equal up to expected answers. -/
theorem head?_of_map_eq {questions questions' : List Question}
    (h : questions.map omitExpectedAnswer = questions'.map omitExpectedAnswer) :
    Option.Rel (fun q q' => omitExpectedAnswer q = omitExpectedAnswer q') questions.head?
      questions'.head? := by
  cases questions with
  | nil =>
      cases questions' with
      | nil => exact .none
      | cons q' qs' => cases h
  | cons q qs =>
      cases questions' with
      | nil => cases h
      | cons q' qs' => exact .some (List.cons.inj h).1

/-- Questions that are equal up to the expected answer give rows that are. -/
theorem demoQuestionRow_samePublic (examId : String) (now : Int) {q q' : Question}
    (h : omitExpectedAnswer q = omitExpectedAnswer q') :
    SameOutcome (fun row row' => publicQuestionRow row = publicQuestionRow row')
      (demoQuestionRow examId q now) (demoQuestionRow examId q' now) := by
  -- The expected answer is in no column that can fail, so both conversions throw alike or give rows
  -- with the same public part.
  have heq : publicQuestionRow <$> demoQuestionRow examId q now
      = publicQuestionRow <$> demoQuestionRow examId q' now := by
    have hpublic : ∀ question, publicQuestionRow <$> demoQuestionRow examId question now
        = publicQuestionRow <$> demoQuestionRow examId (omitExpectedAnswer question) now := by
      intro question
      unfold demoQuestionRow
      show _ <$> (intColumn question.points >>= _) = _ <$> (intColumn question.points >>= _)
      cases intColumn question.points with
      | error error => rfl
      | ok points =>
          show _ <$> (intColumn question.timeLimitMs >>= _)
            = _ <$> (intColumn question.timeLimitMs >>= _)
          cases intColumn question.timeLimitMs with
          | error error => rfl
          | ok timeLimitMs =>
              show _ <$> (intColumn question.memoryLimitMb >>= _)
                = _ <$> (intColumn question.memoryLimitMb >>= _)
              cases intColumn question.memoryLimitMb with
              | error error => rfl
              | ok memoryLimitMb => rfl
    rw [hpublic q, hpublic q', h]
  exact sameOutcome_of_map_eq heq

/-- A question is added alike to two tables with the same public part, because an identifier is
free in both or in neither. -/
theorem insertRow_samePublic {table table' : Table QuestionRow.id} {row row' : QuestionRow}
    (htable : table.mapRows publicQuestionRow publicQuestionRow_id
      = table'.mapRows publicQuestionRow publicQuestionRow_id)
    (hrow : publicQuestionRow row = publicQuestionRow row') :
    SameOutcome (fun new new' : Table QuestionRow.id =>
        new.mapRows publicQuestionRow publicQuestionRow_id
          = new'.mapRows publicQuestionRow publicQuestionRow_id)
      (insertRow table row) (insertRow table' row') := by
  have h := Table.insert?_mapRows table publicQuestionRow publicQuestionRow_id row
  rw [htable, hrow, Table.insert?_mapRows] at h
  unfold insertRow
  -- Identifiers are public, so both tables have room for the row, or neither has.
  cases hnew : table.insert? row with
  | none =>
      cases hnew' : table'.insert? row' with
      | none => exact rfl
      | some new' =>
          rw [hnew, hnew'] at h
          cases h
  | some new =>
      cases hnew' : table'.insert? row' with
      | none =>
          rw [hnew, hnew'] at h
          cases h
      | some new' =>
          rw [hnew, hnew'] at h
          exact (Option.some.inj h).symm

section
variable {db db' : PlatformDatabase} (h : SamePublicTables db db')
include h

/-- The organization has no hidden part, so on tables with one public part the statement ends
alike. -/
theorem upsertOrganization_samePublic (row : OrganizationRow) :
    SameOutcome SamePublicTables (db.upsertOrganization row) (db'.upsertOrganization row) := by
  have horganizations : db.organizations = db'.organizations :=
    h.column PlatformTables.organizations
  unfold PlatformDatabase.upsertOrganization
  rw [horganizations]
  cases db'.organizations.find? row.id with
  | some _ => exact h
  | none =>
      exact create_samePublic rfl fun new =>
        h.column fun t => { t with organizations := new }

/-- Nor have the test cases of the demo exam, as they are stored. -/
theorem createMissingTestCases_samePublic (testCases : List TestCase) (now : Int) :
    SameOutcome SamePublicTables (db.createMissingTestCases testCases now)
      (db'.createMissingTestCases testCases now) := by
  have htestCases : db.testCases = db'.testCases := h.column PlatformTables.testCases
  unfold PlatformDatabase.createMissingTestCases
  rw [htestCases]
  exact commit_samePublic (h.column fun t => { t with
    testCases := insertMissing db'.testCases
      (testCases.map fun testCase : TestCase => demoTestCaseRow testCase.questionId now testCase) })

/-- The rows of the demo exam are alike but for the expected answer of its question. -/
theorem createDemoExam_samePublic (ctx : StoreContext) (exam : Exam) {q q' : Question}
    (hq : omitExpectedAnswer q = omitExpectedAnswer q') (candidate : Candidate)
    (testCases : List TestCase) (now : Int) :
    SameOutcome SamePublicTables (db.createDemoExam ctx exam q candidate testCases now)
      (db'.createDemoExam ctx exam q' candidate testCases now) := by
  have hexams : db.exams = db'.exams := h.column PlatformTables.exams
  have htestCases : db.testCases = db'.testCases := h.column PlatformTables.testCases
  have hcandidates : db.candidates = db'.candidates := h.column PlatformTables.candidates
  have hid : q.id = q'.id := id_of_omitExpectedAnswer hq
  unfold PlatformDatabase.createDemoExam
  rw [hexams, htestCases, hcandidates, hid]
  -- The steps of the two runs side by side. All but the question's own are equal, and the
  -- question's are alike up to what is hidden.
  refine .bind (.of_eq (S := Eq) (fun _ => rfl) rfl) fun examRow _ hexamRow => ?_
  subst hexamRow
  refine .bind (demoQuestionRow_samePublic exam.id now hq) fun row row' hrow => ?_
  refine .bind (.of_eq (S := Eq) (fun _ => rfl) rfl) fun exams _ heq => ?_
  subst heq
  refine .bind (insertRow_samePublic (h.column PlatformTables.questions) hrow)
    fun questions questions' hquestions => ?_
  refine .bind (.of_eq (S := Eq) (fun _ => rfl) rfl) fun testCaseTable _ heq => ?_
  subst heq
  refine .bind (.of_eq (S := Eq) (fun _ => rfl) rfl) fun candidates _ heq => ?_
  subst heq
  refine commit_samePublic ?_
  exact congrArg₂ (fun (t : PlatformTables) new => { t with
    exams, testCases := testCaseTable, candidates, questions := new }) h hquestions

end

/-- The demo exam is created from the first records of the memory, of which only the answer of
the question may differ. -/
theorem coupled_createDemoData (ctx : StoreContext) (now : Int) {memory memory' : PlatformMemory}
    (h : publicMemory memory = publicMemory memory') :
    Coupled SamePublicTables Eq (createDemoData ctx memory.examAdminMemoryState now)
      (createDemoData ctx memory'.examAdminMemoryState now) := by
  have hexams : memory.exams = memory'.exams := by
    show (publicMemory memory).exams = (publicMemory memory').exams
    rw [h]
  have hcandidates : memory.candidates = memory'.candidates := by
    show (publicMemory memory).candidates = (publicMemory memory').candidates
    rw [h]
  have htestCases : memory.testCases = memory'.testCases := by
    show (publicMemory memory).testCases = (publicMemory memory').testCases
    rw [h]
  have hquestion := head?_of_map_eq (congrArg PlatformMemory.questions h)
  unfold createDemoData
  simp only [PlatformMemory.examAdminMemoryState, hexams, hcandidates, htestCases]
  cases memory'.exams.head? with
  | none => exact .pure rfl
  | some exam =>
      -- Only the first question differs between the two memories, in its expected answer.
      generalize memory.questions.head? = question at hquestion ⊢
      generalize memory'.questions.head? = question' at hquestion ⊢
      cases hquestion with
      | none => exact .pure rfl
      | some hq =>
          cases memory'.candidates.head? with
          | none => exact .pure rfl
          | some candidate =>
              refine .updates fun db db' hdb => ?_
              rw [id_of_omitExpectedAnswer hq]
              exact createDemoExam_samePublic hdb ctx exam hq candidate _ now

/-- The test cases of the demo question are counted, and created when there are none. -/
theorem coupled_ensureDemoTestCases (now : Int) {memory memory' : PlatformMemory}
    (h : publicMemory memory = publicMemory memory') :
    Coupled SamePublicTables Eq (ensureDemoTestCases memory.examAdminMemoryState now)
      (ensureDemoTestCases memory'.examAdminMemoryState now) := by
  have htestCases : memory.testCases = memory'.testCases := by
    show (publicMemory memory).testCases = (publicMemory memory').testCases
    rw [h]
  have hquestion := head?_of_map_eq (congrArg PlatformMemory.questions h)
  unfold ensureDemoTestCases
  simp only [PlatformMemory.examAdminMemoryState, htestCases]
  generalize memory.questions.head? = question at hquestion ⊢
  generalize memory'.questions.head? = question' at hquestion ⊢
  cases hquestion with
  | none => exact .pure rfl
  | some hq =>
      refine .bind (S := Eq) (.reads fun db db' hdb => ?_) fun count _ hcount => ?_
      · have heq : db.testCases = db'.testCases := hdb.column PlatformTables.testCases
        rw [heq, id_of_omitExpectedAnswer hq]
        exact rfl
      · subst hcount
        split
        · exact .updates fun db db' hdb => createMissingTestCases_samePublic hdb _ now
        · exact .pure rfl

/-- The demo data are put in alike, whatever the expected answer of the demo question is. -/
theorem coupled_ensurePlatformSeedData (ctx : StoreContext) (now : Int) (memory memory' :
    PlatformMemory) (h : publicMemory memory = publicMemory memory') :
    Coupled SamePublicTables Eq
      (ensurePlatformSeedData ctx memory.examAdminMemoryState now)
      (ensurePlatformSeedData ctx memory'.examAdminMemoryState now) := by
  have horganization : memory.organization = memory'.organization := by
    show (publicMemory memory).organization = (publicMemory memory').organization
    rw [h]
  unfold ensurePlatformSeedData
  split
  · exact .pure rfl
  · refine .bind (S := Eq) (.updates fun db db' hdb => ?_) fun _ _ _ => ?_
    · simp only [PlatformMemory.examAdminMemoryState, horganization]
      exact upsertOrganization_samePublic hdb _
    · refine .bind (S := Eq) (.reads fun db db' hdb => ?_) fun count _ hcount => ?_
      · have heq : db.exams = db'.exams := hdb.column PlatformTables.exams
        rw [heq]
        exact rfl
      · subst hcount
        split
        · exact coupled_createDemoData ctx now h
        · exact coupled_ensureDemoTestCases now h

/-! ### The methods -/

/-- The invite is the same. -/
theorem coupled_readCandidateInvite (ctx : StoreContext) (inviteToken : String) (now : Int) :
    Coupled SamePublicPart Eq (readCandidateInvite ctx inviteToken now)
      (readCandidateInvite ctx inviteToken now) := by
  refine coupled_orInMemory (coupled_trySeededDatabase ctx now
    (coupled_ensurePlatformSeedData ctx now) (.reads fun db db' h => ?_)) fun m m' h => ?_
  · rw [sameOutcome_eq, ← candidateInviteInDatabase_public, h, candidateInviteInDatabase_public]
  · rw [sameOutcome_eq, ← getCandidateInviteInStore_public, h, getCandidateInviteInStore_public]

/-- The session is the same in two databases with the same public part, whether it is found or
started. -/
theorem coupled_ensureExamSession (invite : CandidateInvite) (turn : PlatformInput) :
    Coupled SamePublicTables Eq (ensureExamSession invite turn)
      (ensureExamSession invite turn) := by
  unfold ensureExamSession
  split
  · exact .throw _
  · refine .bind (S := Eq) (.updates fun db db' h => ?_) fun _ _ _ => .reads fun db db' h => ?_
    · have hsessions : db.examSessions = db'.examSessions :=
        h.column PlatformTables.examSessions
      unfold PlatformDatabase.upsertExamSession
      rw [hsessions]
      split
      · exact h
      · exact create_samePublic rfl fun new => h.column fun t => { t with examSessions := new }
    · have hsessions : db.examSessions = db'.examSessions :=
        h.column PlatformTables.examSessions
      rw [sameOutcome_eq, hsessions]

/-- The workspaces of two stores with the same public part become the same when they are scrubbed,
on the database as on the memory. -/
theorem coupled_readCandidateWorkspace (ctx : StoreContext) (invite : CandidateInvite)
    (turn : PlatformInput) :
    Coupled SamePublicPart (fun w w' => toCandidateWorkspace w = toCandidateWorkspace w')
      (readCandidateWorkspace ctx invite turn) (readCandidateWorkspace ctx invite turn) := by
  refine .bind (S := Option.Rel fun w w' => toCandidateWorkspace w = toCandidateWorkspace w')
    (coupled_tryDatabase ctx (.bind (coupled_ensureExamSession invite turn)
      fun session _ hsession => ?_)) fun answer answer' hanswer => ?_
  · subst hsession
    refine .reads fun db db' h => ?_
    show toCandidateWorkspace _ = toCandidateWorkspace _
    rw [← workspaceOf_public, h, workspaceOf_public]
  -- Both runs have an answer of the database, or both fall back to the memory.
  · cases hanswer with
    | some h => exact .pure h
    | none =>
        refine .bind (S := fun r r' => shownWorkspace r = shownWorkspace r')
          (.reads fun s s' h => ?_) fun r r' hr => ?_
        · refine sameOutcome_of_map_eq ?_
          rw [← getCandidateWorkspaceInStore_public, h.memory,
            getCandidateWorkspaceInStore_public]
        -- The memory path stores its session, which is the same in both.
        · have hsessions : r.2 = r'.2 := (Prod.mk.inj hr).2
          refine .bind (S := Eq) (.updates fun s s' h => ?_) fun _ _ _ =>
            .pure (Prod.mk.inj hr).1
          rw [hsessions]
          exact ⟨congrArg (fun m : PlatformMemory => { m with examSessions := r'.2 }) h.memory,
            h.database, h.unavailable⟩

/-! ### Main theorem -/

/-- Two stores that agree on everything but hidden test data, the texts of errors and expected
answers show a candidate the same workspace. Submissions and executions that agree in this sense
are shown alike. -/
theorem candidate_view_hides_tests (ctx : StoreContext) (inviteToken : String) (now : Int)
    (turn : PlatformInput) (store store' : Store) (h : SamePublicPart store store') :
    (candidateWorkspaceView ctx inviteToken now turn store).1
        = (candidateWorkspaceView ctx inviteToken now turn store').1 ∧
      (∀ x y : Submission, publicSubmission x = publicSubmission y →
        toCandidateSubmission x = toCandidateSubmission y) ∧
      ∀ x y : CodeExecution, publicExecution x = publicExecution y →
        toCandidateCodeExecution x = toCandidateCodeExecution y := by
  have hview : Coupled SamePublicPart Eq (candidateWorkspaceView ctx inviteToken now turn)
      (candidateWorkspaceView ctx inviteToken now turn) := by
    refine .bind (coupled_readCandidateInvite ctx inviteToken now) fun invite _ hinvite => ?_
    subst hinvite
    exact .bind (coupled_readCandidateWorkspace ctx invite turn) fun w w' hw => .pure hw
  exact ⟨sameOutcome_eq.mp (hview store store' h).1, fun _ _ => toCandidateSubmission_eq,
    fun _ _ => toCandidateCodeExecution_eq⟩

/-! ### A failed execution -/

/-- A process without a database. -/
def demoContext : StoreContext := { deployedContext with env := {}, databaseUrl := none }

/-- An execution that failed a hidden test, with an error. -/
def failedExecution (error expectedOutput : String) : CodeExecution where
  id := "exec_1"
  candidateId := "candidate_1"
  questionId := "question_1"
  language := "Python"
  code := "print(1)"
  status := .failed
  output := ""
  error := some error
  executionTimeMs := 12
  memoryUsageMb := 8
  passedTests := 0
  totalTests := 1
  testResults :=
    [{ id := "result_1", codeExecutionId := some "exec_1", testIndex := 1, input := "2",
       expectedOutput, actualOutput := "1", passed := false, error := some error,
       executionTimeMs := 12, isPublic := false, createdAt := "2026-07-18T10:00:00.000Z" }]
  createdAt := "2026-07-18T10:00:00.000Z"

/-- A store in which a candidate has this execution. -/
def failedExecutionStore (error expectedOutput : String) : Store where
  memory :=
    { organization := (managerOf "org_demo").organization
      exams :=
        [{ id := "exam_1", organizationId := "org_demo", title := "Screening", description := "",
           startAt := "2026-07-18T09:00:00.000Z", endAt := "2026-07-18T12:00:00.000Z",
           durationMinutes := 90, status := .scheduled, languages := ["Python"],
           proctoringEnabled := false, identityVerificationEnabled := false,
           mobileCameraRequired := false, screenShareRequired := false,
           createdAt := "2026-07-18T00:00:00.000Z" }]
      questions :=
        [{ id := "question_1", examId := "exam_1", title := "Sum", description := "",
           type := .coding, points := 100, difficulty := .easy, timeLimitMs := 2000,
           memoryLimitMb := 256, choices := [], expectedAnswer := some expectedOutput,
           createdAt := "2026-07-18T00:00:00.000Z" }]
      candidates :=
        [{ id := "candidate_1", examId := "exam_1", name := "Kim", email := "kim@example.com",
           status := .ready, inviteToken := "invite_1",
           createdAt := "2026-07-18T00:00:00.000Z" }]
      codeExecutions := [failedExecution error expectedOutput] }
  database := .empty

/-- The workspace that the candidate gets to see. -/
def shownToCandidate (store : Store) : Option CandidateWorkspace :=
  (candidateWorkspaceView demoContext "invite_1" 0 {} store).1.toOption

/-- The hidden output, the expected answer and the text of the error have no influence. -/
theorem candidate_view_hides_tests_failed :
    SamePublicPart (failedExecutionStore "Timeout" "4") (failedExecutionStore "Wrong" "5") ∧
      (candidateWorkspaceView demoContext "invite_1" 0 {} (failedExecutionStore "Timeout" "4")).1
        = (candidateWorkspaceView demoContext "invite_1" 0 {}
          (failedExecutionStore "Wrong" "5")).1 := by
  have hsame : SamePublicPart (failedExecutionStore "Timeout" "4")
      (failedExecutionStore "Wrong" "5") := ⟨rfl, rfl, rfl⟩
  exact ⟨hsame, (candidate_view_hides_tests demoContext "invite_1" 0 {} _ _ hsame).1⟩

/-- Two stores that differ in the text of one error, which is empty in the first store. The
candidate is told of an error in the second store only. -/
theorem candidate_view_shows_empty_error :
    (shownToCandidate (failedExecutionStore "" "4")).map (fun w => w.executions.map (·.error))
        = some [none] ∧
      (shownToCandidate (failedExecutionStore "Timeout" "4")).map
          (fun w => w.executions.map (·.error)) = some [some runnerErrorMessage] ∧
      (candidateWorkspaceView demoContext "invite_1" 0 {} (failedExecutionStore "" "4")).1
        ≠ (candidateWorkspaceView demoContext "invite_1" 0 {}
          (failedExecutionStore "Timeout" "4")).1 := by
  have hempty : (shownToCandidate (failedExecutionStore "" "4")).map
      (fun w => w.executions.map (·.error)) = some [none] := by decide +kernel
  have htext : (shownToCandidate (failedExecutionStore "Timeout" "4")).map
      (fun w => w.executions.map (·.error)) = some [some runnerErrorMessage] := by decide +kernel
  refine ⟨hempty, htext, fun heq => ?_⟩
  unfold shownToCandidate at hempty htext
  rw [heq, htext] at hempty
  cases hempty

end Dcvp.Proofs
