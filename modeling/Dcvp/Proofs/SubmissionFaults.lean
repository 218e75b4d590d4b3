import Dcvp.Proofs.CandidateStatus
import Dcvp.Proofs.ExamLock
import Dcvp.Services.PlatformStore.StoreMethods

/-!
# `Dcvp.Proofs.SubmissionFaults`: when a submission is all or nothing

`submitCandidateCodeInStore` of `platform-store.execution.ts` runs two statements on the database,
without a transaction: `submission.create` with the test results, and `candidate.update` of the
status. Each of them may fail for a reason of its own.

`AllOrNothing` lists how a submission on the database may end. It is stored with its test results
and the candidate is in progress, or the call throws and nothing is stored.

There are two ways in which a submission ends otherwise. `StatusWriteFails`: its row has been
created and the second statement fails. In production the call then throws with the row in
place, and elsewhere both storages have the submission. `CreateFallsBack`: the first statement
fails in a process that goes on with its memory. The call returns a submission that the database
does not have. `submission_all_or_nothing_iff` says that there are no others.
-/

set_option autoImplicit false

namespace Dcvp.Proofs

open Dcvp.Lib
open Dcvp.Lib.Computation
open Dcvp.Shared
open Dcvp.Services
open Dcvp.Services.PlatformStore

section
variable (ctx : StoreContext) (faults : SubmissionFaults) (invite : CandidateInvite)
  (question : Question) (input : CodeInput) (turn : PlatformInput)

/-- How a submission may end, between two states of the store. -/
inductive AllOrNothing (before after : Store) : Except ServiceException Submission → Prop where
  | stored (submission : Submission) (runResult : CodeRunnerResult)
      (results : List JudgeTestResultRow)
      (answer : submission.id = (newSubmissionRow invite input runResult turn).id)
      (evaluated : submissionRunResult ctx.toPlatformContext question input turn = .ok runResult)
      (made : testResultRows none (some (newSubmissionRow invite input runResult turn).id) turn
        runResult.testResults = .ok results)
      (row : after.database.submissions.rows =
        before.database.submissions.rows ++ [newSubmissionRow invite input runResult turn])
      (testResults : after.database.judgeTestResults.rows =
        before.database.judgeTestResults.rows ++ results)
      (inProgress : ∃ candidate, after.database.candidates.find? invite.candidate.id =
        some candidate ∧ candidate.status = .inProgress)
      (memory : after.memory = before.memory) : AllOrNothing before after (.ok submission)
  | refused (error : ServiceException)
      (rows : after.database.submissions = before.database.submissions)
      (memory : after.memory = before.memory) : AllOrNothing before after (.error error)

/-- What `submission.create` makes of the database. The client refuses test results with a number
that no column takes, the statement may fail for a reason of its own, and the database may
refuse the row. -/
def createStatement (runResult : CodeRunnerResult) (db : PlatformDatabase) :
    Except ServiceException PlatformDatabase := do
  let row := newSubmissionRow invite input runResult turn
  let results ← testResultRows none (some row.id) turn runResult.testResults
  faulty faults.create (fun db => db.createSubmission row results) db

/-- The row is created, and then the status is not written. -/
def StatusWriteFails (store : Store) : Prop :=
  (∃ error, faults.update = some error) ∧ ∃ runResult created,
    submissionRunResult ctx.toPlatformContext question input turn = .ok runResult ∧
      createStatement faults invite input turn runResult store.database = .ok created

/-- The row is not created, in a process that may go on with its memory, and the error is none of
those that the handler passes on to the client. -/
def CreateFallsBack (store : Store) : Prop :=
  ctx.databaseFallbackEnabled = true ∧ ∃ runResult error,
    submissionRunResult ctx.toPlatformContext question input turn = .ok runResult ∧
      createStatement faults invite input turn runResult store.database = .error error ∧
      isRequestException error = false

end

/-! ### The statements -/

section
variable {ctx : StoreContext} {faults : SubmissionFaults} {invite : CandidateInvite}
  {question : Question} {input : CodeInput} {turn : PlatformInput}

/-- A row that is created stands behind the others, with its results. -/
theorem createSubmission_ok {db created : PlatformDatabase} {row : SubmissionRow}
    {results : List JudgeTestResultRow} (h : db.createSubmission row results = .ok created) :
    created.submissions.rows = db.submissions.rows ++ [row] ∧
      created.judgeTestResults.rows = db.judgeTestResults.rows ++ results ∧
      created.candidates = db.candidates := by
  unfold PlatformDatabase.createSubmission at h
  obtain ⟨submissions, hinsert, h⟩ := bind_eq_ok.mp h
  obtain ⟨judgeTestResults, hresults, h⟩ := bind_eq_ok.mp h
  have htables := PlatformDatabase.commit_eq_ok h
  have hsubmissions : created.submissions = submissions :=
    congrArg PlatformTables.submissions htables
  have htests : created.judgeTestResults = judgeTestResults :=
    congrArg PlatformTables.judgeTestResults htables
  have hcandidates := congrArg PlatformTables.candidates htables
  refine ⟨?_, ?_, hcandidates⟩
  · unfold insertRow at hinsert
    split at hinsert
    · rename_i table hrow
      cases hinsert
      rw [hsubmissions, Table.rows_insert? hrow]
    · cases hinsert
  · rw [htests, rows_insertRows results hresults]

/-- The candidate of a row that is there can be put in progress. -/
theorem startsProgress {db : PlatformDatabase} {row : SubmissionRow}
    (hrow : row ∈ db.submissions.rows) :
    ∃ db', db.updateCandidateStatus (·.id = row.candidateId) .inProgress = .ok db' ∧
      db'.submissions = db.submissions ∧ db'.judgeTestResults = db.judgeTestResults ∧
      ∃ candidate, db'.candidates.find? row.candidateId = some candidate ∧
        candidate.status = .inProgress := by
  -- The relation of the submission to its candidate is required.
  have hthere : db.candidates.find? row.candidateId ≠ none :=
    db.related.2.2.1.2.2.1.1 row hrow
  obtain ⟨candidate, hcandidate⟩ := Option.ne_none_iff_exists'.mp hthere
  have hfirst : db.candidates.findFirst (·.id = row.candidateId) = some candidate := hcandidate
  obtain ⟨db', hupdate, htables⟩ := updateCandidateStatus_ok db .inProgress hfirst
  have hsubmissions := congrArg PlatformTables.submissions htables
  have htests := congrArg PlatformTables.judgeTestResults htables
  have hcandidates := congrArg PlatformTables.candidates htables
  refine ⟨db', hupdate, hsubmissions, htests, ?_⟩
  refine ⟨{ candidate with status := .inProgress }, ?_, rfl⟩
  have hid : candidate.id = row.candidateId := Table.key_of_find? hcandidate
  simp only [hcandidates, Table.find?_updateMany, hcandidate, Option.map_some, hid, decide_true,
    if_true]

/-- A row that `submission.create` makes stands behind the others, with its test results. -/
theorem createStatement_ok {runResult : CodeRunnerResult} {db created : PlatformDatabase}
    (h : createStatement faults invite input turn runResult db = .ok created) :
    ∃ results, testResultRows none (some (newSubmissionRow invite input runResult turn).id) turn
        runResult.testResults = .ok results ∧
      created.submissions.rows =
        db.submissions.rows ++ [newSubmissionRow invite input runResult turn] ∧
      created.judgeTestResults.rows = db.judgeTestResults.rows ++ results := by
  unfold createStatement at h
  obtain ⟨results, hresults, h⟩ := bind_eq_ok.mp h
  unfold faulty at h
  split at h
  · cases h
  · obtain ⟨hrow, htests, -⟩ := createSubmission_ok h
    exact ⟨results, hresults, hrow, htests⟩

/-- How the operation ends on the database. When `submission.create` fails, the database is as it
was. Behind a row that was created only the second statement can fail. -/
theorem saveSubmission_cases (faults : SubmissionFaults) (invite : CandidateInvite)
    (input : CodeInput) (turn : PlatformInput) (runResult : CodeRunnerResult)
    (db : PlatformDatabase) :
    (∃ error, createStatement faults invite input turn runResult db = .error error ∧
      saveSubmissionWithFaults faults invite input runResult turn db = (.error error, db)) ∨
    ∃ created, createStatement faults invite input turn runResult db = .ok created ∧
      ((∃ error, faults.update = some error ∧
          saveSubmissionWithFaults faults invite input runResult turn db = (.error error, created)) ∨
        (faults.update = none ∧ ∃ submission db',
          saveSubmissionWithFaults faults invite input runResult turn db = (.ok submission, db') ∧
            submission.id = (newSubmissionRow invite input runResult turn).id ∧
            created.updateCandidateStatus (·.id = invite.candidate.id) .inProgress = .ok db')) := by
  cases hcreate : createStatement faults invite input turn runResult db with
  | error error =>
      refine .inl ⟨error, rfl, ?_⟩
      unfold createStatement at hcreate
      unfold saveSubmissionWithFaults
      simp only [reads_bind]
      cases hrows : testResultRows none (some (newSubmissionRow invite input runResult turn).id)
          turn runResult.testResults with
      | error error' =>
          simp only [hrows] at hcreate
          cases hcreate
          rfl
      | ok results =>
          simp only [hrows] at hcreate
          exact bind_error (updates_error hcreate)
  | ok created =>
      refine .inr ⟨created, rfl, ?_⟩
      obtain ⟨results, hrows, hrow, -⟩ := createStatement_ok hcreate
      have hcreated : faulty faults.create (fun db =>
          db.createSubmission (newSubmissionRow invite input runResult turn) results) db =
            .ok created := by
        unfold createStatement at hcreate
        simp only [hrows] at hcreate
        exact hcreate
      unfold saveSubmissionWithFaults
      simp only [reads_bind, hrows]
      rw [bind_ok (updates_ok hcreated), reads_bind]
      simp only
      cases hfault : faults.update with
      | some error => exact .inl ⟨error, rfl, bind_error (updates_error rfl)⟩
      | none =>
          -- The row is there, so the candidate can be put in progress.
          have hmem : newSubmissionRow invite input runResult turn ∈ created.submissions.rows := by
            rw [hrow]
            exact List.mem_append_right _ List.mem_cons_self
          obtain ⟨db', hupdate, -⟩ := startsProgress hmem
          exact .inr ⟨rfl, _, db', bind_ok (updates_ok hupdate), rfl, hupdate⟩

/-! ### The call -/

/-- What a failure on the database makes of the call. It throws, or the memory gets the
submission: the error is not passed on, and the process may go on with its memory. -/
theorem submitCode_failed {store : Store} (hmode : store.usesMemory ctx = false)
    {runResult : CodeRunnerResult}
    (hevaluated : submissionRunResult ctx.toPlatformContext question input turn = .ok runResult)
    {error : ServiceException} {db : PlatformDatabase}
    (hrun : saveSubmissionWithFaults faults invite input runResult turn store.database =
      (.error error, db)) :
    ((isRequestException error = true ∨ ctx.databaseFallbackEnabled = false) ∧
      ∃ error', submitCodeWithFaults ctx faults invite question input turn store =
        (.error error', { store with database := db })) ∨
    (isRequestException error = false ∧ ctx.databaseFallbackEnabled = true ∧
      submitCodeWithFaults ctx faults invite question input turn store =
        (.ok (newSubmission invite input runResult turn),
          { memory := { store.memory with
              submissions := newSubmission invite input runResult turn :: store.memory.submissions
              candidates := startProgress invite.candidate.id store.memory.candidates }
            database := db
            databaseUnavailable := true })) := by
  unfold submitCodeWithFaults
  simp only [reads_bind, hevaluated]
  unfold orOnMemory
  -- The error goes out, or the database is given up and the memory stores the submission.
  rcases tryDatabase_failed_cases hmode hrun with
    ⟨hthrows, error', htry⟩ | ⟨hrequest, hfallback, htry⟩
  · exact .inl ⟨hthrows, error', bind_error htry⟩
  · refine .inr ⟨hrequest, hfallback, ?_⟩
    rw [bind_ok htry]
    rfl

/-- What the call does when the database runs to its end. -/
theorem submitCode_ran {store : Store} (hmode : store.usesMemory ctx = false)
    {runResult : CodeRunnerResult}
    (hevaluated : submissionRunResult ctx.toPlatformContext question input turn = .ok runResult)
    {submission : Submission} {db : PlatformDatabase}
    (hrun : saveSubmissionWithFaults faults invite input runResult turn store.database =
      (.ok submission, db)) :
    submitCodeWithFaults ctx faults invite question input turn store =
      (.ok submission, { store with database := db }) := by
  unfold submitCodeWithFaults
  simp only [reads_bind, hevaluated]
  unfold orOnMemory
  rw [bind_ok (tryDatabase_ran hmode hrun)]
  rfl

/-- A submission whose row is in the database does not end as it should when the call throws or
when the memory has it as well. -/
theorem not_allOrNothing_of_created {before after : Store} {row : SubmissionRow}
    {ended : Except ServiceException Submission}
    (hrow : after.database.submissions.rows = before.database.submissions.rows ++ [row])
    (hended : (∃ error, ended = .error error) ∨ after.memory ≠ before.memory) :
    ¬ AllOrNothing ctx invite question input turn before after ended := by
  have hgrown : after.database.submissions ≠ before.database.submissions := by
    intro hsame
    rw [hsame] at hrow
    simp at hrow
  intro hall
  cases hall with
  | stored submission runResult results answer evaluated made row testResults inProgress memory =>
      rcases hended with ⟨error, herror⟩ | hmemory
      · cases herror
      · exact hmemory memory
  | refused error rows memory => exact hgrown rows

/-- A submission that the memory gets does not end as it should. -/
theorem not_allOrNothing_of_memory {before after : Store}
    {ended : Except ServiceException Submission} {submission : Submission}
    (hmemory : after.memory.submissions = submission :: before.memory.submissions) :
    ¬ AllOrNothing ctx invite question input turn before after ended := by
  have hgrown : after.memory ≠ before.memory := by
    intro hsame
    rw [hsame] at hmemory
    exact absurd hmemory.symm List.ne_cons_self.symm
  intro hall
  cases hall with
  | stored submission runResult results answer evaluated made row testResults inProgress memory =>
      exact hgrown memory
  | refused error rows memory => exact hgrown memory

/-- A submission that is evaluated ends as it should, unless its status is not written or the
memory takes it in place of the database. -/
theorem submitCode_evaluated_iff {store : Store} (hmode : store.usesMemory ctx = false)
    {runResult : CodeRunnerResult}
    (hevaluated : submissionRunResult ctx.toPlatformContext question input turn = .ok runResult) :
    AllOrNothing ctx invite question input turn store
        (submitCodeWithFaults ctx faults invite question input turn store).2
        (submitCodeWithFaults ctx faults invite question input turn store).1 ↔
      ¬ StatusWriteFails ctx faults invite question input turn store ∧
        ¬ CreateFallsBack ctx faults invite question input turn store := by
  rcases saveSubmission_cases faults invite input turn runResult store.database with
    ⟨error, hcreate, hrun⟩ |
      ⟨created, hcreate, ⟨error, hfault, hrun⟩ | ⟨hfault, submission, db, hrun, hid, hupdate⟩⟩
  · -- No row: the call throws, or the memory alone has the submission.
    have hwritten : ¬ StatusWriteFails ctx faults invite question input turn store := by
      rintro ⟨-, runResult', created, hevaluated', hcreated⟩
      cases hevaluated.symm.trans hevaluated'
      rw [hcreate] at hcreated
      cases hcreated
    rcases submitCode_failed hmode hevaluated hrun with
      ⟨hthrows, error', hcall⟩ | ⟨hrequest, hfallback, hcall⟩
    · rw [hcall]
      refine iff_of_true (.refused error' rfl rfl) ⟨hwritten, ?_⟩
      rintro ⟨hfallback, runResult', error'', hevaluated', hcreated, hrequest⟩
      cases hevaluated.symm.trans hevaluated'
      rw [hcreate] at hcreated
      cases hcreated
      rcases hthrows with hpassed | hproduction
      · rw [hpassed] at hrequest
        cases hrequest
      · rw [hproduction] at hfallback
        cases hfallback
    · rw [hcall]
      refine iff_of_false (not_allOrNothing_of_memory rfl) fun hnone => hnone.2 ?_
      exact ⟨hfallback, runResult, error, hevaluated, hcreate, hrequest⟩
  · -- The row is there, and the second statement fails.
    obtain ⟨-, -, hrow, -⟩ := createStatement_ok hcreate
    have hfails : StatusWriteFails ctx faults invite question input turn store :=
      ⟨⟨error, hfault⟩, runResult, created, hevaluated, hcreate⟩
    refine iff_of_false ?_ fun hnone => hnone.1 hfails
    rcases submitCode_failed hmode hevaluated hrun with ⟨-, error', hcall⟩ | ⟨-, -, hcall⟩
    · rw [hcall]
      exact not_allOrNothing_of_created hrow (.inl ⟨error', rfl⟩)
    · rw [hcall]
      exact not_allOrNothing_of_memory rfl
  · -- Both statements succeed, and the database has the submission as a whole.
    have hwritten : ¬ StatusWriteFails ctx faults invite question input turn store := by
      rintro ⟨⟨error, herror⟩, -⟩
      cases hfault.symm.trans herror
    have hstays : ¬ CreateFallsBack ctx faults invite question input turn store := by
      rintro ⟨-, runResult', error, hevaluated', hrefused, -⟩
      cases hevaluated.symm.trans hevaluated'
      rw [hcreate] at hrefused
      cases hrefused
    refine iff_of_true ?_ ⟨hwritten, hstays⟩
    obtain ⟨results, hmade, hrow, htests⟩ := createStatement_ok hcreate
    have hmem : newSubmissionRow invite input runResult turn ∈ created.submissions.rows := by
      rw [hrow]
      exact List.mem_append_right _ List.mem_cons_self
    obtain ⟨db', hupdate', hsubmissions, hresults, hprogress⟩ := startsProgress hmem
    cases hupdate.symm.trans hupdate'
    rw [submitCode_ran hmode hevaluated hrun]
    refine .stored submission runResult results hid hevaluated hmade ?_ ?_ hprogress rfl
    · rw [hsubmissions]
      exact hrow
    · rw [hresults]
      exact htests

/-- A submission on the database is all or nothing, unless its row is created and its status is not
written, or its row is not created and the process goes on with its memory. -/
theorem submission_all_or_nothing_iff (ctx : StoreContext) (faults : SubmissionFaults)
    (invite : CandidateInvite) (question : Question) (input : CodeInput) (turn : PlatformInput)
    (store : Store) (hmode : store.usesMemory ctx = false) :
    AllOrNothing ctx invite question input turn store
        (submitCodeWithFaults ctx faults invite question input turn store).2
        (submitCodeWithFaults ctx faults invite question input turn store).1 ↔
      ¬ StatusWriteFails ctx faults invite question input turn store ∧
        ¬ CreateFallsBack ctx faults invite question input turn store := by
  cases hevaluated : submissionRunResult ctx.toPlatformContext question input turn with
  | ok runResult => exact submitCode_evaluated_iff hmode hevaluated
  | error error =>
      have hcall : submitCodeWithFaults ctx faults invite question input turn store =
          (.error error, store) := by
        unfold submitCodeWithFaults
        simp only [reads_bind, hevaluated]
      rw [hcall]
      refine iff_of_true (.refused error rfl rfl) ⟨?_, ?_⟩
      · rintro ⟨-, runResult, -, hok, -⟩
        cases hevaluated.symm.trans hok
      · rintro ⟨-, runResult, -, hok, -, -⟩
        cases hevaluated.symm.trans hok

end

/-! ### An essay whose status is not written -/

/-- An exam with one candidate and one essay question. -/
def essayStore : Store where
  memory := { organization := (managerOf "org_a").organization }
  database :=
    { toPlatformTables := { sittingTables Table.empty with
        questions := ⟨[{
          id := "question_1", examId := "exam_1", title := "Essay", description := "",
          type := .essay, difficulty := .easy, timeLimitMs := 0, memoryLimitMb := 0,
          createdAt := 0 }], by decide⟩ }
      unique := by decide +kernel
      related := by decide +kernel }

/-- The question of the exam. -/
def essayQuestion : Question where
  id := "question_1"
  examId := "exam_1"
  title := "Essay"
  description := ""
  type := .essay
  points := 100
  difficulty := .easy
  timeLimitMs := 0
  memoryLimitMb := 0
  choices := []
  createdAt := Js.toISOString 0

/-- The answer of the candidate. -/
def essayInput : CodeInput where
  questionId := "question_1"
  language := "text"
  code := "An essay."

/-- The connection is lost before the second statement. -/
def connectionLost : SubmissionFaults where
  update := some (.prisma .other)

/-- The connection is lost before the first statement. -/
def connectionLostAtOnce : SubmissionFaults where
  create := some (.prisma .other)

/-- The call that submits the essay. -/
def essayCall (ctx : StoreContext) (faults : SubmissionFaults) :
    Except ServiceException Submission × Store :=
  submitCodeWithFaults ctx faults sittingInvite essayQuestion essayInput {} essayStore

/-- A process that may go on without its database. -/
def fallbackContext : StoreContext :=
  { deployedContext with
    env := { nodeEnv := some "development" }
    allowDemoAuth := some "0" }

/-- In production the call throws and the row stays. In development the database and the memory
both have the submission, and when the connection is lost at once the memory alone has it. -/
theorem lost_status_keeps_row :
    ((∃ error, (essayCall deployedContext connectionLost).1 = .error error) ∧
        (essayCall deployedContext connectionLost).2.database.submissions.rows.length = 1) ∧
      ((essayCall fallbackContext connectionLost).2.database.submissions.rows.length = 1 ∧
        (essayCall fallbackContext connectionLost).2.memory.submissions.length = 1) ∧
      ((essayCall fallbackContext connectionLostAtOnce).2.database.submissions.rows.length = 0 ∧
        (essayCall fallbackContext connectionLostAtOnce).2.memory.submissions.length = 1) ∧
      ¬ AllOrNothing deployedContext sittingInvite essayQuestion essayInput {} essayStore
        (essayCall deployedContext connectionLost).2
        (essayCall deployedContext connectionLost).1 := by
  have hended : (essayCall deployedContext connectionLost).1 =
      .error (.http .serviceUnavailable "Database operation failed.") := by
    decide +kernel
  have hrow : (essayCall deployedContext connectionLost).2.database.submissions.rows =
      essayStore.database.submissions.rows ++ [newSubmissionRow sittingInvite essayInput
        (evaluateTextAnswer deployedContext.host.text essayQuestion "An essay.") {}] := by
    decide +kernel
  refine ⟨⟨⟨_, hended⟩, ?_⟩, ⟨by decide +kernel, by decide +kernel⟩,
    ⟨by decide +kernel, by decide +kernel⟩, ?_⟩
  · rw [hrow]
    rfl
  · exact not_allOrNothing_of_created hrow (.inl ⟨_, hended⟩)

/-- The exact condition at the call in production that loses its connection after the row of the
submission was written. -/
theorem submission_all_or_nothing_iff_essay :
    AllOrNothing deployedContext sittingInvite essayQuestion essayInput {} essayStore
        (essayCall deployedContext connectionLost).2
        (essayCall deployedContext connectionLost).1 ↔
      ¬ StatusWriteFails deployedContext connectionLost sittingInvite essayQuestion essayInput {}
        essayStore ∧
      ¬ CreateFallsBack deployedContext connectionLost sittingInvite essayQuestion essayInput {}
        essayStore :=
  submission_all_or_nothing_iff deployedContext connectionLost sittingInvite essayQuestion
    essayInput {} essayStore rfl

end Dcvp.Proofs
