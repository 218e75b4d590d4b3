import Dcvp.Proofs.HiddenTests
import Dcvp.Proofs.LostUpdates
import Dcvp.Proofs.RejectedCalls
import Dcvp.Proofs.StoreFrames

/-!
# `Dcvp.Proofs.CandidateStatus`: the status of a candidate over a run

A candidate goes from `INVITED` over `READY` and `IN_PROGRESS` to `COMPLETED`. Two methods write
the status without a look at the old one: `markCandidateReady` writes `READY`, and a submission
writes `IN_PROGRESS`. So each of them can lead back (`StepHolds` excludes it). On the database
`markCandidateReady` writes first and reads the invite afterwards. When the exam is deleted, the
read throws, and the status stays written.

`status_only_moves_forward` is about runs whose steps meet `StepHolds`: between any two states
the statuses only move forward, and a `markCandidateReady` that throws leaves them.
-/

set_option autoImplicit false

namespace Dcvp.Proofs

open Dcvp.Lib
open Dcvp.Lib.Computation
open Dcvp.Shared
open Dcvp.Services.PlatformStore

/-! ### Statuses -/

/-- The place of a status on the way of a candidate. -/
def statusRank : CandidateStatus → Nat
  | .invited => 0
  | .ready => 1
  | .inProgress => 2
  | .completed => 3

/-- The status of a candidate in the memory. -/
def memoryStatus (memory : PlatformMemory) (id : String) : Option CandidateStatus :=
  (memory.candidates.find? (·.id = id)).map (·.status)

/-- The status of a candidate in the database. -/
def databaseStatus (db : PlatformDatabase) (id : String) : Option CandidateStatus :=
  (db.candidates.find? id).map (·.status)

/-- Each candidate is still there, with a status that `R` allows behind the old one. -/
def Carries (R : CandidateStatus → CandidateStatus → Prop)
    (old new : String → Option CandidateStatus) : Prop :=
  ∀ id status, old id = some status → ∃ status', new id = some status' ∧ R status status'

/-- The new status is not before the old one. -/
def NotBefore (old new : CandidateStatus) : Prop := statusRank old ≤ statusRank new

/-- The statuses of both storages are carried over. -/
def StatusesCarried (R : CandidateStatus → CandidateStatus → Prop) (store : Store) :
    Store → Prop :=
  InStore (fun memory => Carries R (memoryStatus store.memory) (memoryStatus memory))
    fun db => Carries R (databaseStatus store.database) (databaseStatus db)

/-! ### The condition -/

/-- The candidate of a token, in one of the two storages. -/
def NamedByToken (store : Store) (inviteToken id : String) : Prop :=
  (∃ candidate ∈ store.memory.candidates,
      candidate.inviteToken = inviteToken ∧ candidate.id = id) ∨
    ∃ row ∈ store.database.candidates.rows, row.inviteToken = inviteToken ∧ row.id = id

/-- The entry of a candidate is confirmed before the candidate is in progress. On the database
the exam is not deleted either, unless the status is the new one already. -/
def ReadyHolds (ctx : StoreContext) (inviteToken : String) (now : Int) (store : Store) : Prop :=
  if databaseRead ctx now store = none then
    ∀ candidate ∈ store.memory.candidates, candidate.inviteToken = inviteToken →
      NotBefore candidate.status .ready
  else
    ∀ row ∈ store.database.candidates.rows, row.inviteToken = inviteToken →
      NotBefore row.status .ready ∧ (row.status = .ready ∨
        ∀ exam ∈ store.database.exams.find? row.examId, exam.status ≠ .deleted)

/-- A candidate who submits is not completed in either storage. -/
def SubmitHolds (inviteToken : String) (store : Store) : Prop :=
  ∀ id, NamedByToken store inviteToken id →
    memoryStatus store.memory id ≠ some .completed ∧
      databaseStatus store.database id ≠ some .completed

/-- The step does not write an earlier status, and not before a read that throws. -/
def StepHolds (ctx : StoreContext) (store : Store) (event : StoreEvent) : Prop :=
  match event.call with
  | .markCandidateReady inviteToken => ReadyHolds ctx inviteToken (event.turns 0).now store
  | .submitCandidateCode inviteToken _ => SubmitHolds inviteToken store
  | _ => True

/-- The first question of the memory, which is the one of the demo exam, has a test case. So the
demo data are complete when they are put in. -/
def DemoInPlace (memory : PlatformMemory) : Prop :=
  ∀ question ∈ memory.questions.head?,
    ∃ testCase ∈ memory.testCases, testCase.questionId = question.id

/-! ### Writes of a status -/

/-- Nobody's status changes. -/
theorem Carries.refl {R : CandidateStatus → CandidateStatus → Prop} (hR : ∀ s, R s s)
    (f : String → Option CandidateStatus) : Carries R f f :=
  fun _ status h => ⟨status, h, hR status⟩

/-- Two steps, by neither of which a status goes back. -/
theorem Carries.trans {f g h : String → Option CandidateStatus}
    (hfg : Carries NotBefore f g) (hgh : Carries NotBefore g h) : Carries NotBefore f h := by
  intro id status hf
  obtain ⟨between, hg, hfirst⟩ := hfg id status hf
  obtain ⟨status', hh, hsecond⟩ := hgh id between hg
  exact ⟨status', hh, Nat.le_trans hfirst hsecond⟩

/-- The memory after the status of some candidates is written: the first candidate of an identifier
has the new status if it is one of them. -/
theorem memoryStatus_mapWhere (memory : PlatformMemory) (p : Candidate → Bool)
    (status : CandidateStatus) (id : String) :
    memoryStatus { memory with
        candidates := mapWhere p (setStatus status) memory.candidates } id
      = (memory.candidates.find? (·.id = id)).map
          fun candidate => if p candidate then status else candidate.status := by
  have hids : ((fun candidate : Candidate => decide (candidate.id = id)) ∘
      fun candidate => if p candidate then setStatus status candidate else candidate)
        = fun candidate => decide (candidate.id = id) := by
    funext candidate
    by_cases h : p candidate = true <;> simp [h, setStatus]
  unfold memoryStatus mapWhere
  rw [List.find?_map, hids, Option.map_map]
  congr 1
  funext candidate
  by_cases h : p candidate = true <;> simp [h, setStatus]

/-- The database after the status of some candidates is written. -/
theorem databaseStatus_updateCandidateStatus {db db' : PlatformDatabase}
    {p : CandidateRow → Bool} {status : CandidateStatus}
    (h : db.updateCandidateStatus p status = .ok db') (id : String) :
    databaseStatus db' id
      = (db.candidates.find? id).map fun row => if p row then status else row.status := by
  unfold PlatformDatabase.updateCandidateStatus at h
  split at h
  · cases h
  · unfold databaseStatus
    rw [PlatformDatabase.commit_eq_ok h, Table.find?_updateMany, Option.map_map]
    congr 1
    funext row
    by_cases hrow : p row = true <;> simp [hrow]

/-- A write that changes the status of the selected rows carries the statuses over when each such
change is one that `R` allows. -/
theorem Carries.write {ρ : Type} {R : CandidateStatus → CandidateStatus → Prop}
    {old : String → Option CandidateStatus} {find : String → Option ρ}
    {statusOf : ρ → CandidateStatus} {p : ρ → Bool} {status : CandidateStatus}
    (hold : Carries R old fun id => (find id).map statusOf)
    (hwrite : ∀ id row was, find id = some row → p row = true → old id = some was →
      R was status) :
    Carries R old fun id => (find id).map fun row => if p row then status else statusOf row := by
  intro id was hwas
  obtain ⟨now, hnow, hR⟩ := hold id was hwas
  obtain ⟨row, hrow, rfl⟩ := Option.map_eq_some_iff.mp hnow
  by_cases hp : p row = true
  · exact ⟨status, by simp [hrow, hp], hwrite id row was hrow hp hwas⟩
  · exact ⟨statusOf row, by simp [hrow, hp], hR⟩

/-! ### What the other methods keep -/

section
variable {ctx : StoreContext} {R : CandidateStatus → CandidateStatus → Prop}
  {fm fd : String → Option CandidateStatus}

/-- A database without exams has no candidates, since each candidate references its exam. -/
theorem candidates_of_no_exams {db : PlatformDatabase} (h : db.exams.rows = []) (id : String) :
    db.candidates.find? id = none := by
  obtain ⟨⟨-, -, -, hcandidates⟩, -⟩ := db.related
  rw [Table.find?_eq_none_iff]
  intro row hrow
  refine absurd ?_ (hcandidates row hrow)
  rw [Table.find?_eq_none_iff, h]
  simp

/-- The demo data carry each status over: they add a candidate at most, and change none that
exists. -/
theorem seeds_carry (ctx : StoreContext) (state : ExamAdminMemoryState) (now : Int) :
    Preserves (fun db => Carries R fd (databaseStatus db))
      (ensurePlatformSeedData ctx state now) := by
  intro db hdb
  cases hrun : ensurePlatformSeedData ctx state now db with
  | mk ended db' =>
      rcases ensurePlatformSeedData_cases hrun with ⟨hsame, -⟩ | ⟨-, hnone, -, -⟩
      · simp only [supervisedRows, Prod.mk.injEq] at hsame
        show Carries R fd (databaseStatus db')
        unfold databaseStatus
        rw [Table.ext hsame.2.1]
        exact hdb
      · intro id status hstatus
        obtain ⟨status', hfound, -⟩ := hdb id status hstatus
        rw [databaseStatus, candidates_of_no_exams hnone] at hfound
        cases hfound

/-- The status of the candidates, on either path, depends on nothing but the candidates, so that no
write to other data can change it. -/
theorem statusFrame (ctx : StoreContext) (R : CandidateStatus → CandidateStatus → Prop)
    (fm fd : String → Option CandidateStatus) :
    StoreFrame ctx (fun m => Carries R fm (memoryStatus m))
      (fun db => Carries R fd (databaseStatus db)) where
  seeds := fun memory now _ => seeds_carry ctx memory.examAdminMemoryState now
  memory := fun m m' hcandidates _ _ _ h => by
    unfold memoryStatus
    rw [hcandidates]
    exact h
  database := fun db db' hcandidates _ h => by
    unfold databaseStatus
    rw [hcandidates]
    exact h

/-- The demo data of the memory stay complete. -/
theorem demoFrame (ctx : StoreContext) : StoreFrame ctx DemoInPlace fun _ => True where
  seeds := fun _ _ _ _ _ => trivial
  memory := fun m m' _ _ hquestions htestCases h => by
    unfold DemoInPlace
    rw [hquestions, htestCases]
    exact h
  database := fun _ _ _ _ _ => trivial

/-- A new candidate at the end of the array. -/
theorem carries_append {m : PlatformMemory} (candidate : Candidate)
    (h : Carries R fm (memoryStatus m)) :
    Carries R fm (memoryStatus { m with candidates := m.candidates ++ [candidate] }) := by
  intro id status hstatus
  obtain ⟨status', hfound, hR⟩ := h id status hstatus
  obtain ⟨found, hfind, rfl⟩ := Option.map_eq_some_iff.mp hfound
  exact ⟨found.status, by simp [memoryStatus, List.find?_append, hfind], hR⟩

/-- A new row carries the statuses over, since its identifier was free and the rows before it stay.
-/
theorem carries_insert {db db' : PlatformDatabase} {row : CandidateRow}
    {candidates : Table CandidateRow.id} (hinsert : db.candidates.insert? row = some candidates)
    (htables : db'.toPlatformTables = { db.toPlatformTables with candidates })
    (h : Carries R fd (databaseStatus db)) : Carries R fd (databaseStatus db') := by
  intro id status hstatus
  obtain ⟨status', hfound, hR⟩ := h id status hstatus
  obtain ⟨found, hfind, rfl⟩ := Option.map_eq_some_iff.mp hfound
  refine ⟨found.status, ?_, hR⟩
  have hfree := Table.find?_of_insert? hinsert
  have hother : row.id ≠ id := by
    rintro rfl
    rw [hfree] at hfind
    cases hfind
  unfold databaseStatus
  rw [htables, Table.find?_insert? hinsert, if_neg hother, hfind]
  rfl

end

/-! ### The statement of an entry confirmation -/

/-- A status may always be written: it is no unique column and refers to no row, so the database
does not refuse it. -/
theorem updateCandidateStatus_ok (db : PlatformDatabase) {p : CandidateRow → Bool}
    (status : CandidateStatus) {row : CandidateRow} (hrow : db.candidates.findFirst p = some row) :
    ∃ db', db.updateCandidateStatus p status = .ok db' ∧
      db'.toPlatformTables = { db.toPlatformTables with
        candidates := db.candidates.updateMany p (fun row => { row with status }) fun _ => rfl } := by
  set candidates := db.candidates.updateMany p (fun row => { row with status }) fun _ => rfl
  -- The status is no unique column and refers to no row, so both constraints stay.
  have htokens : candidates.rows.map CandidateRow.inviteToken =
      db.candidates.rows.map CandidateRow.inviteToken := Table.map_updated fun _ => rfl
  have hunique : PlatformTables.UniqueColumns { db.toPlatformTables with candidates } := by
    obtain ⟨ho, hc, hrest⟩ := db.unique
    refine ⟨ho, ?_, hrest⟩
    show (candidates.rows.map CandidateRow.inviteToken).Nodup
    rw [htokens]
    exact hc
  have hrelated : PlatformTables.ForeignKeys { db.toPlatformTables with candidates } := by
    obtain ⟨⟨he, hq, ht, hc⟩, hrest⟩ := db.related
    have hexam : References candidates CandidateRow.examId db.exams :=
      hc.of_map (Table.map_updated fun _ => rfl)
    refine ⟨⟨he, hq, ht, hexam⟩, ?_⟩
    simp only [PlatformTables.CandidateRecords, candidates, references_updateMany]
    exact hrest
  refine ⟨⟨_, hunique, hrelated⟩, ?_, rfl⟩
  unfold PlatformDatabase.updateCandidateStatus
  rw [hrow]
  exact PlatformDatabase.commit_ok hunique hrelated

/-! ### The demo data a second time -/

/-- Rows whose keys are all in the table already are skipped, and the table stays as it is. -/
theorem insertMissing_of_present {ρ : Type} {key : ρ → String} {table : Table key}
    (rows : List ρ) (h : ∀ row ∈ rows, key row ∈ table.rows.map key) :
    insertMissing table rows = table := by
  induction rows with
  | nil => rfl
  | cons row rows ih =>
      have hskip : table.insert? row = none := by
        unfold Table.insert?
        rw [dif_pos (h row List.mem_cons_self)]
      show rows.foldl _ ((table.insert? row).getD table) = table
      rw [hskip]
      exact ih fun other hother => h other (List.mem_cons_of_mem row hother)

/-- Each row is there after `createMany`, and no row is lost. By induction on the new rows. -/
theorem present_insertMissing {ρ : Type} {key : ρ → String} (rows : List ρ) :
    ∀ table : Table key, (∀ k ∈ table.rows.map key, k ∈ (insertMissing table rows).rows.map key) ∧
      ∀ row ∈ rows, key row ∈ (insertMissing table rows).rows.map key := by
  induction rows with
  | nil => exact fun table => ⟨fun k hk => hk, fun row hrow => by cases hrow⟩
  | cons row rows ih =>
      intro table
      -- One row: the keys of the table stay, and the row's own is there, whether it is inserted now
      -- or was before.
      have hstep : ∀ k ∈ table.rows.map key,
          k ∈ ((table.insert? row).getD table).rows.map key := by
        intro k hk
        cases hinsert : table.insert? row with
        | none => exact hk
        | some table' =>
            rw [Option.getD_some, Table.rows_insert? hinsert, List.map_append]
            exact List.mem_append_left _ hk
      have hrow : key row ∈ ((table.insert? row).getD table).rows.map key := by
        cases hinsert : table.insert? row with
        | none =>
            unfold Table.insert? at hinsert
            split at hinsert
            · assumption
            · cases hinsert
        | some table' =>
            rw [Option.getD_some, Table.rows_insert? hinsert, List.map_append]
            exact List.mem_append_right _ (by simp)
      obtain ⟨hkept, hnew⟩ := ih ((table.insert? row).getD table)
      refine ⟨fun k hk => hkept k (hstep k hk), fun other hother => ?_⟩
      rcases List.mem_cons.mp hother with rfl | hother
      · exact hkept _ hrow
      · exact hnew other hother

/-- The rows after several insertions that all succeed: the old ones, and the new ones behind them.
-/
theorem rows_insertRows {ρ : Type} {key : ρ → String} (rows : List ρ) :
    ∀ {table table' : Table key}, rows.foldlM insertRow table = .ok table' →
      table'.rows = table.rows ++ rows := by
  induction rows with
  | nil =>
      intro table table' h
      cases h
      simp
  | cons row rows ih =>
      intro table table' h
      rw [List.foldlM_cons, bind_eq_ok] at h
      obtain ⟨between, hinsert, hrest⟩ := h
      unfold insertRow at hinsert
      split at hinsert
      · rename_i inserted hrow
        cases hinsert
        rw [ih hrest, Table.rows_insert? hrow]
        simp
      · cases hinsert

section
variable {ctx : StoreContext} {state : ExamAdminMemoryState} {now : Int}
  {db db₁ db₂ : PlatformDatabase}

/-- The second half of the demo data, where an exam is there. -/
theorem ensureDemoTestCases_again
    (h : ensureDemoTestCases state now db = (.ok (), db₁))
    (htestCases : db₂.testCases = db₁.testCases) :
    ensureDemoTestCases state now db₂ = (.ok (), db₂) := by
  unfold ensureDemoTestCases at h ⊢
  cases hquestion : state.questions.head? with
  | none => rfl
  | some demoQuestion =>
      rw [hquestion] at h
      simp only [look_bind] at h ⊢
      by_cases hcount : (db₂.testCases.count fun row => row.questionId = demoQuestion.id) = 0
      · rw [if_pos hcount]
        -- The rows are missing still, because their keys are taken. They are skipped again.
        have hpresent : ∀ row ∈ state.testCases.map (fun testCase =>
            demoTestCaseRow testCase.questionId now testCase),
            row.id ∈ db₂.testCases.rows.map TestCaseRow.id := by
          rw [htestCases]
          by_cases hfirst : (db.testCases.count fun row => row.questionId = demoQuestion.id) = 0
          · rw [if_pos hfirst] at h
            cases hcreate : db.createMissingTestCases state.testCases now with
            | error error =>
                rw [updates_error hcreate] at h
                cases h
            | ok created =>
                rw [updates_ok hcreate] at h
                cases h
                rw [PlatformDatabase.commit_eq_ok hcreate]
                exact (present_insertMissing _ _).2
          · rw [if_neg hfirst] at h
            cases h
            rw [htestCases] at hcount
            exact absurd hcount hfirst
        refine updates_ok ?_
        unfold PlatformDatabase.createMissingTestCases
        rw [insertMissing_of_present _ hpresent]
        exact PlatformDatabase.commit_ok db₂.unique db₂.related
      · rw [if_neg hcount]
        rfl

/-- What the creation of the demo exam leaves in place. -/
theorem createDemoExam_places {exam : Exam} {question : Question} {candidate : Candidate}
    {testCases : List TestCase}
    (h : db.createDemoExam ctx exam question candidate testCases now = .ok db₁) :
    db₁.organizations = db.organizations ∧
      db₁.testCases.rows = db.testCases.rows ++ testCases.map (demoTestCaseRow question.id now) := by
  unfold PlatformDatabase.createDemoExam at h
  simp only [bind_eq_ok] at h
  obtain ⟨examRow, -, questionRow, -, exams, -, questions, -, table, hrows, candidates, -,
    hcommit⟩ := h
  rw [PlatformDatabase.commit_eq_ok hcommit]
  exact ⟨rfl, rows_insertRows _ hrows⟩

/-- The second half, where there was no exam: it is left out again, or it has its test case. -/
theorem createDemoData_again
    (hdemo : ∀ question ∈ state.questions.head?,
      ∃ testCase ∈ state.testCases, testCase.questionId = question.id)
    (hcount : (db.exams.count fun _ => true) = 0)
    (h : createDemoData ctx state now db = (.ok (), db₁)) (hexams : db₂.exams = db₁.exams)
    (htestCases : db₂.testCases = db₁.testCases) :
    db₁.organizations = db.organizations ∧
      (if (db₂.exams.count fun _ => true) = 0 then createDemoData ctx state now
        else ensureDemoTestCases state now) db₂ = (.ok (), db₂) := by
  rw [hexams]
  -- Without a demo exam in the memory both times do nothing.
  have hnothing : createDemoData ctx state now = pure () →
      db₁.organizations = db.organizations ∧
        (if (db₁.exams.count fun _ => true) = 0 then createDemoData ctx state now
          else ensureDemoTestCases state now) db₂ = (.ok (), db₂) := by
    intro hpure
    rw [hpure] at h
    cases h
    rw [if_pos hcount, hpure]
    exact ⟨rfl, rfl⟩
  cases hexam : state.exams.head? with
  | none => exact hnothing (by unfold createDemoData; rw [hexam])
  | some demoExam =>
      cases hquestion : state.questions.head? with
      | none => exact hnothing (by unfold createDemoData; rw [hexam, hquestion])
      | some demoQuestion =>
          cases hcandidate : state.candidates.head? with
          | none => exact hnothing (by unfold createDemoData; rw [hexam, hquestion, hcandidate])
          | some demoCandidate =>
              unfold createDemoData at h
              rw [hexam, hquestion, hcandidate] at h
              simp only at h
              cases hcreated : db.createDemoExam ctx demoExam demoQuestion demoCandidate
                  (state.testCases.filter (·.questionId = demoQuestion.id)) now with
              | error error =>
                  rw [updates_error hcreated] at h
                  cases h
              | ok created =>
                  rw [updates_ok hcreated] at h
                  cases h
                  obtain ⟨hsame, hrows⟩ := createDemoExam_places hcreated
                  have hnew : (db₁.exams.count fun _ => true) ≠ 0 := by
                    have hne := exams_createDemoExam hcreated
                    simpa [Table.count] using hne
                  refine ⟨hsame, ?_⟩
                  rw [if_neg hnew]
                  unfold ensureDemoTestCases
                  rw [hquestion]
                  simp only [look_bind]
                  obtain ⟨testCase, hmem, hits⟩ := hdemo demoQuestion hquestion
                  have hpos : 0 < ((state.testCases.filter
                      (·.questionId = demoQuestion.id)).map
                      (demoTestCaseRow demoQuestion.id now)).countP
                      fun row => row.questionId = demoQuestion.id :=
                    List.countP_pos_iff.mpr ⟨_, List.mem_map_of_mem
                      (List.mem_filter.mpr ⟨hmem, decide_eq_true hits⟩), decide_eq_true rfl⟩
                  have hsome : (db₂.testCases.count fun row =>
                      row.questionId = demoQuestion.id) ≠ 0 := by
                    rw [htestCases, Table.count, hrows, List.countP_append]
                    omega
                  rw [if_neg hsome]
                  rfl

/-- The second half of the seeding, beside other exams, keeps exams and organizations, because it
writes questions and test cases only. -/
theorem ensureDemoTestCases_frame (h : ensureDemoTestCases state now db = (.ok (), db₁)) :
    db₁.exams = db.exams ∧ db₁.organizations = db.organizations := by
  have hkeeps : Preserves (fun d : PlatformDatabase => d.exams = db.exams ∧
      d.organizations = db.organizations) (ensureDemoTestCases state now) := by
    unfold ensureDemoTestCases
    split
    · exact .pure ()
    · refine .bind (.reads _) fun _ => ?_
      split
      · refine .updates fun d d' hd hok => ?_
        rw [PlatformDatabase.commit_eq_ok hok]
        exact hd
      · exact .pure ()
  have hend := hkeeps db ⟨rfl, rfl⟩
  rw [h] at hend
  exact hend

/-- The organization is there after it was put in. -/
theorem upsertOrganization_places {row : OrganizationRow}
    (h : db.upsertOrganization row = .ok db₁) :
    ∃ found, db₁.organizations.find? row.id = some found := by
  unfold PlatformDatabase.upsertOrganization at h
  split at h
  · rename_i found hfound
    cases h
    exact ⟨found, hfound⟩
  · obtain ⟨table, hinsert, htables⟩ := PlatformDatabase.create_eq_ok h
    rw [htables]
    exact ⟨row, by rw [Table.find?_insert? hinsert, if_pos rfl]⟩

/-- The demo data are put in once. The second time finds them. -/
theorem ensurePlatformSeedData_again (db₂ : PlatformDatabase)
    (h : ensurePlatformSeedData ctx state now db = (.ok (), db₁))
    (hdemo : ∀ question ∈ state.questions.head?,
      ∃ testCase ∈ state.testCases, testCase.questionId = question.id)
    (horganizations : db₂.organizations = db₁.organizations) (hexams : db₂.exams = db₁.exams)
    (htestCases : db₂.testCases = db₁.testCases) :
    ensurePlatformSeedData ctx state now db₂ = (.ok (), db₂) := by
  unfold ensurePlatformSeedData at h ⊢
  split at h
  · rename_i hproduction
    rw [if_pos hproduction]
    rfl
  · rename_i hproduction
    rw [if_neg hproduction]
    cases horganization : db.upsertOrganization
        (demoOrganizationRow ctx state.organization now) with
    | error error =>
        rw [updates_bind_error horganization] at h
        cases h
    | ok between =>
        rw [updates_bind_ok horganization, look_bind] at h
        -- With exams in the database only the test cases of the demo question are looked at,
        -- without exams all demo data are created. Both find their rows the second time.
        have hkept : db₁.organizations = between.organizations ∧
            (if (db₂.exams.count fun _ => true) = 0 then createDemoData ctx state now
              else ensureDemoTestCases state now) db₂ = (.ok (), db₂) := by
          by_cases hcount : (between.exams.count fun _ => true) = 0
          · rw [if_pos hcount] at h
            exact createDemoData_again hdemo hcount h hexams htestCases
          · rw [if_neg hcount] at h
            obtain ⟨hsame, hkept⟩ := ensureDemoTestCases_frame h
            rw [hexams, hsame, if_neg hcount]
            exact ⟨hkept, ensureDemoTestCases_again h htestCases⟩
        obtain ⟨row, hrow⟩ := upsertOrganization_places horganization
        have hagain : db₂.upsertOrganization (demoOrganizationRow ctx state.organization now)
            = .ok db₂ := by
          unfold PlatformDatabase.upsertOrganization
          rw [horganizations, hkept.1, hrow]
        rw [updates_bind_ok hagain, look_bind]
        exact hkept.2

end

/-! ### Entry confirmations -/

/-- The invite of a stored candidate is refused only when the exam is deleted. -/
theorem candidateInviteInDatabase_error {db : PlatformDatabase} {inviteToken : String}
    {row : CandidateRow} {error : ServiceException}
    (hrow : db.candidates.findFirst (·.inviteToken = inviteToken) = some row)
    (h : candidateInviteInDatabase db.toPlatformTables inviteToken = .error error) :
    error = inviteNotFound ∧ ∃ exam ∈ db.exams.find? row.examId, exam.status = .deleted := by
  obtain ⟨⟨horganizations, -, -, hexams⟩, -⟩ := db.related
  obtain ⟨exam, hexam⟩ := Option.ne_none_iff_exists'.mp
    (hexams row (List.mem_of_find?_eq_some hrow))
  obtain ⟨organization, horganization⟩ := Option.ne_none_iff_exists'.mp
    (horganizations exam ((Table.find?_eq_some_iff _ _ _).mp hexam).1)
  unfold candidateInviteInDatabase at h
  rw [hrow] at h
  simp only [hexam, horganization] at h
  split at h
  · rename_i hdeleted
    cases h
    exact ⟨rfl, exam, hexam, hdeleted⟩
  · cases h

/-- The candidate of an invite is a row with the token of the invite. -/
theorem candidate_of_candidateInviteInDatabase {t : PlatformTables} {inviteToken : String}
    {invite : CandidateInvite} (h : candidateInviteInDatabase t inviteToken = .ok invite) :
    ∃ row ∈ t.candidates.rows, row.inviteToken = inviteToken ∧ row.id = invite.candidate.id := by
  unfold candidateInviteInDatabase at h
  split at h
  · cases h
  · rename_i row hrow
    split at h
    · cases h
    · split at h
      · cases h
      · split at h
        · cases h
        · cases h
          refine ⟨row, List.mem_of_find?_eq_some hrow, ?_, rfl⟩
          simpa using List.find?_some hrow

section
variable {ctx : StoreContext} {inviteToken : String} {now : Int} {store store' : Store}

/-- The demo data leave candidates and exams alone, or there was no candidate. -/
theorem seeded_candidates {db : PlatformDatabase} {state : ExamAdminMemoryState}
    {ended : Except ServiceException Unit}
    (h : ensurePlatformSeedData ctx state now store.database = (ended, db)) :
    db.candidates = store.database.candidates ∧ db.exams = store.database.exams ∨
      ∀ id, databaseStatus store.database id = none := by
  rcases ensurePlatformSeedData_cases h with ⟨hsame, -⟩ | ⟨-, hnone, -, -⟩
  · simp only [supervisedRows, Prod.mk.injEq] at hsame
    exact .inl ⟨Table.ext hsame.2.1, Table.ext hsame.1⟩
  · refine .inr fun id => ?_
    rw [databaseStatus, candidates_of_no_exams hnone]
    rfl

/-- A look at the database inside of an operation on the store. -/
theorem onDatabase_reads_bind {α β : Type} (f : PlatformDatabase → Except ServiceException α)
    (g : α → StoreOperation β) (store : Store) :
    (onDatabase (reads f) >>= g) store = match f store.database with
      | .ok a => g a store
      | .error error => (.error error, store) := by
  rw [bind_apply]
  unfold onDatabase reads
  cases f store.database <;> rfl

/-- A statement inside of an operation on the store. -/
theorem onDatabase_updates_bind {β : Type}
    {f : PlatformDatabase → Except ServiceException PlatformDatabase}
    {g : Unit → StoreOperation β} {store : Store} {db : PlatformDatabase}
    (h : f store.database = .ok db) :
    (onDatabase (updates f) >>= g) store = g () { store with database := db } := by
  refine bind_ok ?_
  unfold onDatabase
  rw [updates_ok h]

/-- How an invite is read when the demo data are in place and its candidate is stored. -/
theorem readCandidateInvite_settled (hmode : store.usesMemory ctx = false)
    (hseed : ensurePlatformSeedData ctx store.memory.examAdminMemoryState now store.database
      = (.ok (), store.database)) {row : CandidateRow}
    (hrow : store.database.candidates.findFirst (·.inviteToken = inviteToken) = some row) :
    (∃ invite, readCandidateInvite ctx inviteToken now store = (.ok invite, store)) ∨
      readCandidateInvite ctx inviteToken now store = (.error inviteNotFound, store) ∧
        ∃ exam ∈ store.database.exams.find? row.examId, exam.status = .deleted := by
  have hoperation : ∀ ended : Except ServiceException CandidateInvite,
      candidateInviteInDatabase store.database.toPlatformTables inviteToken = ended →
      (do
        ensurePlatformSeedData ctx store.memory.examAdminMemoryState now
        reads fun db => candidateInviteInDatabase db.toPlatformTables inviteToken
        : DatabaseOperation CandidateInvite) store.database = (ended, store.database) := by
    intro ended hended
    rw [bind_ok hseed, ← hended]
    rfl
  unfold readCandidateInvite orInMemory
  -- The seeding changes nothing any more, so the read alone decides.
  cases hread : candidateInviteInDatabase store.database.toPlatformTables inviteToken with
  | ok invite =>
      have hrun : trySeededDatabase ctx
          (reads fun db => candidateInviteInDatabase db.toPlatformTables inviteToken) now store
            = (.ok (some invite), store) := by
        rw [trySeededDatabase_apply]
        unfold tryDatabase
        rw [if_neg (by rw [hmode]; exact Bool.false_ne_true), hoperation _ hread]
      rw [bind_ok hrun]
      exact .inl ⟨invite, rfl⟩
  | error error =>
      -- The only error of a read that finds its candidate is the deleted exam, which is a 404 and
      -- no reason to fall back to the memory.
      obtain ⟨rfl, hdeleted⟩ := candidateInviteInDatabase_error hrow hread
      have hrun : trySeededDatabase ctx
          (reads fun db => candidateInviteInDatabase db.toPlatformTables inviteToken) now store
            = (.error inviteNotFound, store) := by
        rw [trySeededDatabase_apply]
        unfold tryDatabase
        rw [if_neg (by rw [hmode]; exact Bool.false_ne_true), hoperation _ hread]
        rfl
      rw [bind_error hrun]
      exact .inr ⟨rfl, hdeleted⟩

/-- The row of a token after the statement is the same row, with the status `READY`. -/
theorem findFirst_ready {db₁ db₂ : PlatformDatabase} {row : CandidateRow}
    (hrow : db₁.candidates.findFirst (·.inviteToken = inviteToken) = some row)
    (htables : db₂.toPlatformTables = { db₁.toPlatformTables with
      candidates := db₁.candidates.updateMany (·.inviteToken = inviteToken)
        (fun row => { row with status := .ready }) fun _ => rfl }) :
    db₂.candidates.findFirst (·.inviteToken = inviteToken)
      = some { row with status := .ready } := by
  rw [htables]
  have htoken : ((fun row : CandidateRow => decide (row.inviteToken = inviteToken)) ∘
      fun row => if decide (row.inviteToken = inviteToken) = true
        then { row with status := .ready } else row)
        = fun row => decide (row.inviteToken = inviteToken) := by
    funext row
    by_cases h : row.inviteToken = inviteToken <;> simp [h]
  show (db₁.candidates.rows.map _).find? _ = _
  rw [List.find?_map, htoken, show db₁.candidates.rows.find? _ = some row from hrow]
  have hits : row.inviteToken = inviteToken := by simpa using List.find?_some hrow
  simp [hits]

/-- The status `READY` in the rows of a token carries the statuses by a relation, if each of these
rows had a status that may become `READY`. -/
theorem ready_written {db₁ db₂ : PlatformDatabase}
    (hupdate : db₁.updateCandidateStatus (·.inviteToken = inviteToken) .ready = .ok db₂)
    (hsame : db₁.candidates = store.database.candidates)
    {R : CandidateStatus → CandidateStatus → Prop} (hR : ∀ s, R s s)
    (hrows : ∀ row ∈ store.database.candidates.rows, row.inviteToken = inviteToken →
      R row.status .ready) :
    Carries R (databaseStatus store.database) (databaseStatus db₂) := by
  have hwritten := databaseStatus_updateCandidateStatus hupdate
  rw [show databaseStatus db₂ = _ from funext hwritten, hsame]
  refine Carries.write (.refl hR _) fun id row was hrow htoken hwas => ?_
  have hstatus : row.status = was := by
    rw [databaseStatus, hrow] at hwas
    exact Option.some.inj hwas
  rw [← hstatus]
  exact hrows row ((Table.find?_eq_some_iff _ _ _).mp hrow).1 (by simpa using htoken)

/-- The rows of the store are the rows that are written, or there were none. -/
theorem ready_written_seeded {db₁ db₂ : PlatformDatabase} {state : ExamAdminMemoryState}
    {ended : Except ServiceException Unit}
    (hseed : ensurePlatformSeedData ctx state now store.database = (ended, db₁))
    (hupdate : db₁.updateCandidateStatus (·.inviteToken = inviteToken) .ready = .ok db₂)
    {R : CandidateStatus → CandidateStatus → Prop} (hR : ∀ s, R s s)
    (hrows : ∀ row ∈ store.database.candidates.rows, row.inviteToken = inviteToken →
      R row.status .ready) :
    Carries R (databaseStatus store.database) (databaseStatus db₂) := by
  rcases seeded_candidates hseed with ⟨hsame, -⟩ | hempty
  · exact ready_written hupdate hsame hR hrows
  · intro id status hstatus
    rw [hempty id] at hstatus
    cases hstatus

/-- The candidate that is found behind the demo data is the one of the store, so the exams that
are read for it are open when those of the store are. -/
theorem open_of_seeded {db₁ : PlatformDatabase} {state : ExamAdminMemoryState}
    {ended : Except ServiceException Unit}
    (hseed : ensurePlatformSeedData ctx state now store.database = (ended, db₁))
    {row other : CandidateRow}
    (hfirst : db₁.candidates.findFirst (·.inviteToken = inviteToken) = some row)
    (hother : other ∈ store.database.candidates.rows) (htoken : other.inviteToken = inviteToken)
    (hopen : ∀ exam ∈ store.database.exams.find? other.examId, exam.status ≠ .deleted)
    {exam : ExamRow} (hexam : exam ∈ db₁.exams.find? row.examId) : exam.status ≠ .deleted := by
  rcases seeded_candidates hseed with ⟨hsame, hexams⟩ | hempty
  · have hrow : row ∈ store.database.candidates.rows := by
      rw [← hsame]
      exact List.mem_of_find?_eq_some hfirst
    have hits : row.inviteToken = inviteToken := by simpa using List.find?_some hfirst
    have hone : row = other := List.inj_on_of_nodup_map
      store.database.unique.2.1 hrow hother (hits.trans htoken.symm)
    rw [hone, hexams] at hexam
    exact hopen exam hexam
  · have hstatus := hempty other.id
    rw [databaseStatus, Table.find?_of_mem hother] at hstatus
    cases hstatus

/-- How the operation of an entry confirmation ends: the demo data cannot be put in, and the
statuses stay, or it ends with the invite or with an exception of the request. -/
theorem candidateReadyOperation_cases {ended : Except ServiceException CandidateInvite}
    (hdemo : DemoInPlace store.memory) (hmode : store.usesMemory ctx = false)
    (hholds : ReadyHolds ctx inviteToken now store)
    (h : candidateReadyOperation ctx inviteToken now store = (ended, store')) :
    store'.memory = store.memory ∧
      ((databaseRead ctx now store = none ∧ (∃ error, ended = .error error) ∧
          Carries Eq (databaseStatus store.database) (databaseStatus store'.database)) ∨
        (Carries NotBefore (databaseStatus store.database) (databaseStatus store'.database) ∧
          ∀ error, ended = .error error → isRequestException error = true ∧
            Carries Eq (databaseStatus store.database) (databaseStatus store'.database))) := by
  unfold candidateReadyOperation at h
  rw [look_bind] at h
  cases hseed : ensurePlatformSeedData ctx store.memory.examAdminMemoryState now
      store.database with
  | mk seeded db₁ =>
      have hon : onDatabase (ensurePlatformSeedData ctx store.memory.examAdminMemoryState now)
          store = (seeded, { store with database := db₁ }) := by
        unfold onDatabase
        rw [hseed]
      have hcarry₁ : ∀ R : CandidateStatus → CandidateStatus → Prop, (∀ s, R s s) →
          Carries R (databaseStatus store.database) (databaseStatus db₁) := by
        intro R hR
        have hkept := seeds_carry ctx store.memory.examAdminMemoryState now store.database
          (Carries.refl hR _)
        rw [hseed] at hkept
        exact hkept
      cases seeded with
      | error error =>
          have hread : databaseRead ctx now store = none := by
            simp [databaseRead, hmode, hseed]
          rw [bind_error hon] at h
          cases h
          exact ⟨rfl, .inl ⟨hread, ⟨error, rfl⟩, hcarry₁ Eq fun _ => rfl⟩⟩
      | ok _ =>
          have hread : databaseRead ctx now store = some db₁ := by
            simp [databaseRead, hmode, hseed]
          rw [bind_ok hon] at h
          rw [onDatabase_reads_bind] at h
          cases hfirst : db₁.candidates.findFirst (·.inviteToken = inviteToken) with
          | none =>
              simp only [hfirst] at h
              cases h
              refine ⟨rfl, .inr ⟨hcarry₁ NotBefore fun _ => Nat.le_refl _, fun e he => ?_⟩⟩
              cases he
              exact ⟨rfl, hcarry₁ Eq fun _ => rfl⟩
          | some row =>
              simp only [hfirst] at h
              obtain ⟨db₂, hupdate, htables⟩ := updateCandidateStatus_ok db₁ .ready hfirst
              rw [onDatabase_updates_bind hupdate] at h
              have hagain := ensurePlatformSeedData_again db₂ hseed hdemo (by rw [htables])
                (by rw [htables]) (by rw [htables])
              have hnone : databaseRead ctx now store ≠ none := by rw [hread]; simp
              unfold ReadyHolds at hholds
              rw [if_neg hnone] at hholds
              have hforward := ready_written_seeded hseed hupdate (R := NotBefore)
                (fun _ => Nat.le_refl _) fun row hrow htoken => (hholds row hrow htoken).1
              have hstore : ({ store with database := db₂ } : Store).usesMemory ctx = false := hmode
              rcases readCandidateInvite_settled hstore hagain (findFirst_ready hfirst htables) with
                ⟨invite, hinvite⟩ | ⟨hrefused, exam, hexam, hdeleted⟩
              · rw [hinvite] at h
                cases h
                exact ⟨rfl, .inr ⟨hforward, fun error he => by cases he⟩⟩
              · rw [hrefused] at h
                cases h
                refine ⟨rfl, .inr ⟨hforward, fun error he => ?_⟩⟩
                cases he
                rw [htables] at hexam
                refine ⟨rfl, ready_written_seeded hseed hupdate (R := Eq) (fun _ => rfl)
                  fun other hother htoken => ?_⟩
                -- The exam is deleted, so the status was written before.
                rcases (hholds other hother htoken).2 with hready | hopen
                · exact hready
                · exact absurd hdeleted
                    (open_of_seeded hseed hfirst hother htoken hopen hexam)

/-- An entry confirmation on the memory moves no status back, and where it throws it has stored
nothing. -/
theorem ready_onMemory {ended : Except ServiceException CandidateInvite}
    (hrows : ∀ candidate ∈ store.memory.candidates, candidate.inviteToken = inviteToken →
      NotBefore candidate.status .ready)
    (h : onMemory (fun memory =>
      (markCandidateReadyInStore memory.candidatePortalMemoryState inviteToken).map
        fun result => (result.1, { memory with candidates := result.2 })) store
          = (ended, store')) :
    store'.database = store.database ∧
      Carries NotBefore (memoryStatus store.memory) (memoryStatus store'.memory) ∧
        ∀ error, ended = .error error → store'.memory = store.memory := by
  have hrefl := Carries.refl (R := NotBefore) (fun _ => Nat.le_refl _) (memoryStatus store.memory)
  unfold onMemory at h
  cases hready : markCandidateReadyInStore store.memory.candidatePortalMemoryState inviteToken with
  | error error =>
      simp only [hready, Except.map] at h
      cases h
      exact ⟨rfl, hrefl, fun _ _ => rfl⟩
  | ok result =>
      simp only [hready, Except.map] at h
      cases h
      refine ⟨rfl, ?_, fun error he => by cases he⟩
      -- Every candidate with the token gets the status, the others keep theirs.
      have hwritten : memoryStatus { store.memory with candidates := result.2 }
          = fun id => (store.memory.candidates.find? (·.id = id)).map fun candidate =>
              if decide (candidate.inviteToken = inviteToken) then .ready
              else candidate.status := by
        funext id
        rw [(markCandidateReadyInStore_ok hready).1]
        exact memoryStatus_mapWhere store.memory (·.inviteToken = inviteToken) .ready id
      show Carries NotBefore _ (memoryStatus { store.memory with candidates := result.2 })
      rw [hwritten]
      refine Carries.write hrefl fun id candidate was hfound htoken hwas => ?_
      have hstatus : candidate.status = was := by
        rw [memoryStatus, hfound] at hwas
        exact Option.some.inj hwas
      rw [← hstatus]
      exact hrows candidate (List.mem_of_find?_eq_some hfound) (by simpa using htoken)

/-- How `tryStore` ends: without the operation in memory mode, with its result, with an exception,
or with nothing after a failure that makes the memory stand in. -/
theorem tryStore_cases {α : Type} {operation : StoreOperation α}
    {ended : Except ServiceException (Option α)}
    (h : tryStore ctx operation store = (ended, store')) :
    (store.usesMemory ctx = true ∧ ended = .ok none ∧ store' = store) ∨
      store.usesMemory ctx = false ∧
        ((∃ a, operation store = (.ok a, store') ∧ ended = .ok (some a)) ∨
          ∃ error between, operation store = (.error error, between) ∧
            ((∃ error', ended = .error error' ∧ store' = between) ∨
              isRequestException error = false ∧ ended = .ok none ∧
                store' = { between with databaseUnavailable := true })) := by
  unfold tryStore at h
  -- The switches of `tryDatabase` in their order: memory mode, success, a request exception,
  -- production.
  split at h
  · rename_i hmode
    cases h
    exact .inl ⟨hmode, rfl, rfl⟩
  · rename_i hmode
    refine .inr ⟨by simpa using hmode, ?_⟩
    split at h
    · rename_i a between hrun
      cases h
      exact .inl ⟨a, hrun, rfl⟩
    · rename_i error between hrun
      refine .inr ⟨error, between, hrun, ?_⟩
      split at h
      · cases h
        exact .inl ⟨_, rfl, rfl⟩
      · rename_i hrequest
        split at h
        · cases h
          exact .inr ⟨by simpa using hrequest, rfl, rfl⟩
        · cases h
          exact .inl ⟨_, rfl, rfl⟩

/-- An entry confirmation under its condition moves no status back, and one that throws leaves
every status as it was. The cases are the ends of `tryStore`. -/
theorem markCandidateReady_step {turn : PlatformInput}
    {ended : Except ServiceException CandidateInvite} (hdemo : DemoInPlace store.memory)
    (hholds : ReadyHolds ctx inviteToken turn.now store)
    (h : markCandidateReady ctx inviteToken turn store = (ended, store')) :
    StatusesCarried NotBefore store store' ∧
      ∀ error, ended = .error error → StatusesCarried Eq store store' := by
  have hmemory : ∀ {m m' : PlatformMemory} {R : CandidateStatus → CandidateStatus → Prop},
      (∀ s, R s s) → m' = m → Carries R (memoryStatus m) (memoryStatus m') := by
    rintro m m' R hR rfl
    exact Carries.refl hR _
  have hweak : ∀ {f g : String → Option CandidateStatus}, Carries Eq f g →
      Carries NotBefore f g := by
    intro f g hfg id status hstatus
    obtain ⟨status', hg, rfl⟩ := hfg id status hstatus
    exact ⟨status, hg, Nat.le_refl _⟩
  unfold markCandidateReady orOnMemory at h
  cases htry : tryStore ctx (candidateReadyOperation ctx inviteToken turn.now) store with
  | mk answered between =>
      -- On the memory path, the memory is as it was, and the rows have kept their statuses.
      have hpath : between.memory = store.memory → databaseRead ctx turn.now store = none →
          Carries Eq (databaseStatus store.database) (databaseStatus between.database) →
          answered = .ok none →
          StatusesCarried NotBefore store store' ∧
            ∀ error, ended = .error error → StatusesCarried Eq store store' := by
        rintro hsame hread hdatabase rfl
        unfold ReadyHolds at hholds
        rw [if_pos hread, ← hsame] at hholds
        rw [bind_assoc, bind_ok htry] at h
        cases hon : onMemory (fun memory =>
            (markCandidateReadyInStore memory.candidatePortalMemoryState inviteToken).map
              fun result => (result.1, { memory with candidates := result.2 })) between with
        | mk last after =>
            obtain ⟨hdb, hforward, herror⟩ := ready_onMemory hholds hon
            simp only at h
            cases last with
            | error error =>
                rw [bind_error hon] at h
                cases h
                have hkept := herror error rfl
                exact ⟨⟨hmemory (fun _ => Nat.le_refl _) (hkept.trans hsame),
                    hweak (hdb ▸ hdatabase)⟩,
                  fun _ _ => ⟨hmemory (fun _ => rfl) (hkept.trans hsame), hdb ▸ hdatabase⟩⟩
            | ok invite =>
                rw [bind_ok hon] at h
                cases h
                exact ⟨⟨hsame ▸ hforward, hweak (hdb ▸ hdatabase)⟩, fun e he => by cases he⟩
      rcases tryStore_cases htry with ⟨hmode, hnone, rfl⟩ | ⟨hmode, hrest⟩
      · -- There is no database.
        exact hpath rfl (by simp [databaseRead, hmode]) (.refl (fun _ => rfl) _) hnone
      · rcases hrest with ⟨invite, hrun, rfl⟩ | ⟨error, last, hrun, hrest⟩
        · -- The database answers.
          obtain ⟨hsame, hcases⟩ := candidateReadyOperation_cases hdemo hmode hholds hrun
          rw [bind_assoc, bind_ok htry] at h
          cases h
          rcases hcases with ⟨-, ⟨error, he⟩, -⟩ | ⟨hforward, -⟩
          · cases he
          · exact ⟨⟨hmemory (fun _ => Nat.le_refl _) hsame, hforward⟩, fun e he => by cases he⟩
        · -- The database throws. Only an exception that is not one of the request leads to the
          -- memory.
          obtain ⟨hsame, hcases⟩ := candidateReadyOperation_cases hdemo hmode hholds hrun
          have hkept : Carries Eq (databaseStatus store.database) (databaseStatus last.database) := by
            rcases hcases with ⟨-, -, hkept⟩ | ⟨-, hkept⟩
            · exact hkept
            · exact (hkept error rfl).2
          rcases hrest with ⟨error', rfl, rfl⟩ | ⟨hrequest, hnone, rfl⟩
          · rw [bind_assoc, bind_error htry] at h
            cases h
            exact ⟨⟨hmemory (fun _ => Nat.le_refl _) hsame, hweak hkept⟩,
              fun _ _ => ⟨hmemory (fun _ => rfl) hsame, hkept⟩⟩
          · rcases hcases with ⟨hread, -, -⟩ | ⟨-, hthrown⟩
            · exact hpath hsame hread hkept hnone
            · rw [(hthrown error rfl).1] at hrequest
              cases hrequest

end

/-! ### Submissions -/

section
variable {ctx : StoreContext} {inviteToken : String} {store store' : Store}
  {N : String → Prop}

/-- The rows of a token, all of which are named. -/
def RowsNamed (inviteToken : String) (N : String → Prop) (db : PlatformDatabase) : Prop :=
  ∀ row ∈ db.candidates.rows, row.inviteToken = inviteToken → N row.id

/-- The seeding names no other candidate by the token than the memory does: its demo candidate is
one of the memory. -/
theorem seeds_named {state : ExamAdminMemoryState} {now : Int}
    (hstate : ∀ candidate ∈ state.candidates, candidate.inviteToken = inviteToken →
      N candidate.id) :
    Preserves (RowsNamed inviteToken N) (ensurePlatformSeedData ctx state now) := by
  unfold ensurePlatformSeedData
  split
  · exact .pure ()
  · refine .bind (.updates fun db db' hnamed hok => ?_) fun _ => .bind (.reads _) fun count => ?_
    · unfold PlatformDatabase.upsertOrganization at hok
      split at hok
      · cases hok
        exact hnamed
      · obtain ⟨organizations, -, htables⟩ := PlatformDatabase.create_eq_ok hok
        unfold RowsNamed
        rw [htables]
        exact hnamed
    · split
      · unfold createDemoData
        split
        · -- The only new row is that of the demo candidate.
          rename_i demoExam demoQuestion demoCandidate _ _ hcandidate
          refine .updates fun db db' hnamed hok => ?_
          unfold PlatformDatabase.createDemoExam at hok
          simp only [bind_eq_ok] at hok
          obtain ⟨_, -, _, -, exams, -, questions, -, testCases, -, candidates, hinsert, hok⟩ := hok
          unfold insertRow at hinsert
          split at hinsert
          · rename_i table hrow
            cases hinsert
            intro row hmem htoken
            rw [PlatformDatabase.commit_eq_ok hok] at hmem
            rw [Table.rows_insert? hrow] at hmem
            rcases List.mem_append.mp hmem with hold | hnew
            · exact hnamed row hold htoken
            · rw [List.mem_singleton.mp hnew] at htoken ⊢
              exact hstate demoCandidate (List.mem_of_head? hcandidate) htoken
          · cases hinsert
        · exact .pure ()
      · unfold ensureDemoTestCases
        split
        · exact .pure ()
        · refine .bind (.reads _) fun count => ?_
          split
          · refine .updates fun db db' hnamed hok => ?_
            unfold RowsNamed
            rw [PlatformDatabase.commit_eq_ok hok]
            exact hnamed
          · exact .pure ()

/-- Before a submission is stored: the candidates of the memory are as they were, and the rows
of the token are named. -/
theorem gateFrame (ctx : StoreContext) {candidates : List Candidate}
    (fd : String → Option CandidateStatus)
    (hnamed : ∀ candidate ∈ candidates, candidate.inviteToken = inviteToken → N candidate.id) :
    StoreFrame ctx (fun m => m.candidates = candidates)
      (fun db => Carries NotBefore fd (databaseStatus db) ∧ RowsNamed inviteToken N db) where
  seeds := fun memory now hm db hdb => by
    refine ⟨seeds_carry ctx memory.examAdminMemoryState now db hdb.1, ?_⟩
    exact seeds_named (by rw [← hm] at hnamed; exact hnamed) db hdb.2
  memory := fun m m' hcandidates _ _ _ h => hcandidates.trans h
  database := fun db db' hcandidates _ h => by
    unfold databaseStatus RowsNamed
    rw [hcandidates]
    exact h

/-- The invite of a token has a named candidate, whichever of the two paths has answered. -/
theorem readCandidateInvite_named {Pm : PlatformMemory → Prop} {Pd : PlatformDatabase → Prop}
    (frame : StoreFrame ctx Pm Pd)
    (hm : ∀ m, Pm m → ∀ candidate ∈ m.candidates, candidate.inviteToken = inviteToken →
      N candidate.id)
    (hd : ∀ db, Pd db → RowsNamed inviteToken N db) (now : Int) :
    Triple (InStore Pm Pd) (readCandidateInvite ctx inviteToken now)
      (fun invite s => InStore Pm Pd s ∧ N invite.candidate.id) (InStore Pm Pd) := by
  -- The answer of the database is handed to the fall-back, so the fact about it is what the memory
  -- path begins with.
  refine .bind (Q := fun answer s => InStore Pm Pd s ∧
    ∀ invite ∈ answer, N invite.candidate.id) ?_ fun answer => ?_
  · intro s hs
    have hkept := frame.trySeeded (.reads fun db : PlatformDatabase =>
      candidateInviteInDatabase db.toPlatformTables inviteToken) now s hs
    refine ⟨fun answer hanswer => ⟨hkept, ?_⟩, fun _ _ => hkept⟩
    rintro invite rfl
    rw [trySeededDatabase_apply] at hanswer hkept
    -- An answer of the database comes from the tables behind the seeding, where the rows are named
    -- as well.
    rcases tryDatabase_ok (Prod.ext hanswer rfl) with ⟨a, db, hrun, ha, -, -⟩ | ⟨hnone, -, -⟩
    · cases ha
      cases hseed : ensurePlatformSeedData ctx s.memory.examAdminMemoryState now s.database with
      | mk ended seeded =>
          cases ended with
          | error error =>
              rw [bind_error hseed] at hrun
              cases hrun
          | ok _ =>
              rw [bind_ok hseed] at hrun
              have hseeded := frame.seeds s.memory now hs.1 s.database hs.2
              rw [hseed] at hseeded
              have hinvite : candidateInviteInDatabase seeded.toPlatformTables inviteToken
                  = .ok invite := congrArg Prod.fst hrun
              obtain ⟨row, hrow, htoken, hid⟩ := candidate_of_candidateInviteInDatabase hinvite
              rw [← hid]
              exact hd seeded hseeded row hrow htoken
    · cases hnone
  · cases answer with
    | some invite =>
        intro s hs
        exact ⟨fun a ha => (by cases ha; exact ⟨hs.1, hs.2 invite rfl⟩), fun _ h => (by cases h)⟩
    | none =>
        refine .reads (fun s invite hs hinvite => ⟨hs.1, ?_⟩) fun s hs => hs.1
        obtain ⟨hmem, htoken⟩ := candidate_of_getCandidateInvite hinvite
        exact hm s.memory hs.1.1 _ hmem htoken

/-- The store while a candidate passes the gates. -/
def AtGates (inviteToken : String) (N : String → Prop) (candidates : List Candidate)
    (fd : String → Option CandidateStatus) : Store → Prop :=
  InStore (fun m => m.candidates = candidates)
    fun db => Carries NotBefore fd (databaseStatus db) ∧ RowsNamed inviteToken N db

/-- The gates of a call answer an invite with a named candidate, and keep every fact about the
candidates' statuses. -/
theorem passGates_named (ctx : StoreContext) {candidates : List Candidate}
    (fd : String → Option CandidateStatus)
    (hnamed : ∀ candidate ∈ candidates, candidate.inviteToken = inviteToken → N candidate.id)
    (call : CodeCall) (input : CodeInput) (turns : Nat → PlatformInput) :
    Triple (AtGates inviteToken N candidates fd) (passGates ctx call inviteToken input turns)
      (fun invite s => AtGates inviteToken N candidates fd s ∧ N invite.candidate.id)
      (AtGates inviteToken N candidates fd) := by
  have frame := gateFrame ctx fd hnamed
  have hread : ∀ now, Triple (AtGates inviteToken N candidates fd)
      (readCandidateInvite ctx inviteToken now)
      (fun invite s => AtGates inviteToken N candidates fd s ∧ N invite.candidate.id)
      (AtGates inviteToken N candidates fd) := fun now =>
    readCandidateInvite_named frame (fun m hm => by rw [hm]; exact hnamed)
      (fun db hdb => hdb.2) now
  have hgate : ∀ invite turn, Preserves (AtGates inviteToken N candidates fd)
      (assertExamSessionOpen ctx invite turn) := fun invite turn =>
    (SessionFrame.of_other (fun m sessions h => h)
      (fun db db' sessions htables h => by
        unfold databaseStatus RowsNamed
        rw [htables]
        exact h) invite turn).assertExamSessionOpen
  refine .bind (Q := fun invite s => AtGates inviteToken N candidates fd s ∧
    N invite.candidate.id) ?_ fun invite => ?_
  · -- The invite that counts is the one that is read after the sweep.
    refine .bind ((hread _).mono (fun _ h => h) (fun _ _ h => h.1) fun _ h => h) fun first =>
      .bind (.of_preserves (frame.markStaleProctorDevices _ _ _)) fun _ =>
        .bind (hread _) fun invite => .bind (.reads (fun s _ hs _ => hs) fun s hs => hs.1)
          fun _ => Triple.pure (Q := fun i s => AtGates inviteToken N candidates fd s ∧
            N i.candidate.id) invite
  · have hrest : ∀ hN : N invite.candidate.id, Triple (AtGates inviteToken N candidates fd)
        (assertExamSessionOpen ctx invite (turns 3) >>= fun _ => pure invite)
        (fun invite s => AtGates inviteToken N candidates fd s ∧ N invite.candidate.id)
        (AtGates inviteToken N candidates fd) := fun hN =>
      .bind (.of_preserves (hgate invite (turns 3))) fun _ =>
        (Triple.pure (Q := fun i s => AtGates inviteToken N candidates fd s ∧
          N i.candidate.id) invite).mono (fun s hs => ⟨hs, hN⟩) (fun _ _ h => h) fun _ h => h
    refine .bind (.reads (fun s _ hs _ => hs) fun s hs => hs.1) fun _ s hs => ?_
    exact hrest hs.2 s hs.1

/-- A candidate whose code was submitted is in progress. That is no step back, unless the candidate
has completed the exam. -/
theorem notBefore_inProgress {status : CandidateStatus} (h : status ≠ .completed) :
    NotBefore status .inProgress := by
  cases status
  · exact Nat.le_succ_of_le (Nat.le_succ 0)
  · exact Nat.le_succ 1
  · exact Nat.le_refl 2
  · exact absurd rfl h

/-- The gates do not touch the statuses of the memory. -/
theorem carried_of_atGates {s : Store} (h : AtGates inviteToken (NamedByToken store inviteToken)
    store.memory.candidates (databaseStatus store.database) s) :
    StatusesCarried NotBefore store s := by
  obtain ⟨hcandidates, hdatabase, -⟩ := h
  refine ⟨?_, hdatabase⟩
  have hsame : s.memory.candidates = store.memory.candidates := hcandidates
  show Carries NotBefore (memoryStatus store.memory) (memoryStatus s.memory)
  unfold memoryStatus
  rw [hsame]
  exact Carries.refl (fun _ => Nat.le_refl _) _

/-- A submission sets the status of its candidate only, which is not completed. -/
theorem submitCode_carries (invite : CandidateInvite) (question : Question) (input : CodeInput)
    (turn : PlatformInput)
    (hopen : memoryStatus store.memory invite.candidate.id ≠ some .completed ∧
      databaseStatus store.database invite.candidate.id ≠ some .completed) :
    Preserves (StatusesCarried NotBefore store) (submitCode ctx invite question input turn) := by
  have frame := statusFrame ctx NotBefore (memoryStatus store.memory)
    (databaseStatus store.database)
  refine frame.submitCode (fun m hcarry => ?_) (fun db db' hok hcarry => ?_) question input _
  -- The memory path: one candidate is set, by identifier.
  · have hwritten : memoryStatus { m with
        candidates := startProgress invite.candidate.id m.candidates }
          = fun id => (m.candidates.find? (·.id = id)).map fun candidate =>
              if decide (candidate.id = invite.candidate.id) then .inProgress
              else candidate.status :=
      funext (memoryStatus_mapWhere m (·.id = invite.candidate.id) .inProgress)
    rw [hwritten]
    refine Carries.write hcarry fun id candidate was hfound hits hwas => notBefore_inProgress ?_
    rintro rfl
    have hid : candidate.id = id := by simpa using List.find?_some hfound
    have hself : candidate.id = invite.candidate.id := by simpa using hits
    rw [← hid, hself] at hwas
    exact hopen.1 hwas
  -- The database path: the update has the identifier in its `where`.
  · rw [show databaseStatus db' = _ from funext (databaseStatus_updateCandidateStatus hok)]
    refine Carries.write hcarry fun id row was hfound hits hwas => notBefore_inProgress ?_
    rintro rfl
    have hself : row.id = invite.candidate.id := by simpa using hits
    rw [← Table.key_of_find? hfound, hself] at hwas
    exact hopen.2 hwas

/-- The submission of a candidate who is not completed moves no status back. The gates keep the
statuses, and the one write names this candidate. -/
theorem submitCandidateCode_step {input : CodeInput} {turns : Nat → PlatformInput}
    (hholds : SubmitHolds inviteToken store) :
    StatusesCarried NotBefore store (submitCandidateCode ctx inviteToken input turns store).2 := by
  have hstart : AtGates inviteToken (NamedByToken store inviteToken) store.memory.candidates
      (databaseStatus store.database) store :=
    ⟨rfl, Carries.refl (fun _ => Nat.le_refl _) _,
      fun row hrow htoken => .inr ⟨row, hrow, htoken, rfl⟩⟩
  have hgates := passGates_named (N := NamedByToken store inviteToken) ctx
    (databaseStatus store.database)
    (fun candidate hmem htoken => .inl ⟨candidate, hmem, htoken, rfl⟩)
    .submitCandidateCode input turns
  have frame := statusFrame ctx NotBefore (memoryStatus store.memory)
    (databaseStatus store.database)
  have hsubmit : ∀ invite question, NamedByToken store inviteToken invite.candidate.id →
      Preserves (StatusesCarried NotBefore store)
        (submitCode ctx invite question input (turns 4)) :=
    fun invite question hnamed =>
      submitCode_carries invite question input (turns 4) (hholds invite.candidate.id hnamed)
  have hall : Triple (AtGates inviteToken (NamedByToken store inviteToken)
      store.memory.candidates (databaseStatus store.database))
      (submitCandidateCode ctx inviteToken input turns)
      (fun _ => StatusesCarried NotBefore store) (StatusesCarried NotBefore store) := by
    refine .bind (hgates.mono (fun _ h => h) (fun _ _ h => h) fun _ => carried_of_atGates)
      fun invite s hs => ?_
    have hrest : Preserves (StatusesCarried NotBefore store) (do
        let question ← questionForEvaluation ctx invite input.questionId
        if question.type = .coding then do
          reads fun _ => assertLanguageCanRun ctx.host.text invite input.language
          let _ ← questionTestCases ctx input.questionId false
          let submission ← submitCode ctx invite question input (turns 4)
          pure (toCandidateSubmission submission)
        else do
          let submission ← submitCode ctx invite question input (turns 4)
          pure (toCandidateSubmission submission)) := by
      refine .bind (StoreFrame.questionForEvaluation _ _) fun question => ?_
      split
      · exact .bind (.reads _) fun _ => .bind (StoreFrame.questionTestCases _ _) fun _ =>
          .bind (hsubmit invite question hs.2) fun _ => .pure _
      · exact .bind (hsubmit invite question hs.2) fun _ => .pure _
    -- From the gates on, the statuses are carried, and the candidate is not completed.
    exact Triple.of_preserves hrest s (carried_of_atGates hs.1)
  exact hall.final hstart

end

/-! ### Runs -/

section
variable {ctx : StoreContext} {store : Store} {event : StoreEvent}

/-- A fact about the memory that candidates and sessions do not touch, after any call. -/
theorem performStore_demo (hdemo : DemoInPlace store.memory) :
    DemoInPlace (performStore ctx event store).2.memory := by
  have frame := demoFrame ctx
  have hsessions : ∀ invite turn, SessionFrame DemoInPlace (fun _ => True) invite turn :=
    SessionFrame.of_other (fun _ _ h => h) fun _ _ _ _ _ => trivial
  have hevent := frame.performStore event ⟨hdemo, trivial⟩ (fun _ invite _ _ => hsessions invite _)
    (frame.addCandidate (fun _ _ h => h) fun _ _ _ _ _ _ _ => trivial) ?_ ?_
  · exact hevent.1
  · exact fun inviteToken _ => frame.markCandidateReady (fun _ _ h => h)
      (fun _ _ _ _ _ => trivial) inviteToken _ store ⟨hdemo, trivial⟩
  · intro inviteToken input _
    exact frame.submitCandidateCode ⟨hdemo, trivial⟩ (fun invite _ _ => hsessions invite _)
      fun invite question => frame.submitCode (fun _ h => h) (fun _ _ _ _ => trivial) question
        input _

/-- One call under its condition moves no status back. Only the entry confirmation and the
submission write a status of an existing candidate. -/
theorem performStore_forward (hdemo : DemoInPlace store.memory)
    (hholds : StepHolds ctx store event) :
    StatusesCarried NotBefore store (performStore ctx event store).2 := by
  have frame := statusFrame ctx NotBefore (memoryStatus store.memory)
    (databaseStatus store.database)
  have hsessions : ∀ (db db' : PlatformDatabase) (examSessions : Table ExamSessionRow.id),
      db'.toPlatformTables = { db.toPlatformTables with examSessions } →
      Carries NotBefore (databaseStatus store.database) (databaseStatus db) →
      Carries NotBefore (databaseStatus store.database) (databaseStatus db') := by
    intro db db' examSessions htables h
    unfold databaseStatus
    rw [htables]
    exact h
  have hrefl := fun f => Carries.refl (R := NotBefore) (fun _ => Nat.le_refl _) f
  -- All calls but two keep every fact about candidates that `statusFrame` covers.
  refine frame.performStore event ⟨hrefl _, hrefl _⟩
    (fun _ invite _ _ => .of_other (fun _ _ h => h) hsessions invite _)
    (frame.addCandidate (fun m candidate h => carries_append candidate h)
      fun db db' row candidates hinsert htables h => carries_insert hinsert htables h) ?_ ?_
  · intro inviteToken hcall
    unfold StepHolds at hholds
    rw [hcall] at hholds
    exact (markCandidateReady_step hdemo hholds rfl).1
  · intro inviteToken input hcall
    unfold StepHolds at hholds
    rw [hcall] at hholds
    exact submitCandidateCode_step hholds

/-- After a run whose calls all meet the condition, no status has moved back. By induction on the
calls, with the demo data kept in place. -/
theorem run_forward (events : List StoreEvent) :
    ∀ {store store' : Store}, DemoInPlace store.memory →
      (storeMachine ctx).Meets (StepHolds ctx) store events →
      (storeMachine ctx).run store events = some store' →
      StatusesCarried NotBefore store store' := by
  induction events with
  | nil =>
      intro store store' _ _ hrun
      cases hrun
      exact ⟨Carries.refl (fun _ => Nat.le_refl _) _, Carries.refl (fun _ => Nat.le_refl _) _⟩
  | cons event events ih =>
      rintro store store' hdemo ⟨hholds, hmeets⟩ hrun
      obtain ⟨between, hstep, hrest⟩ := (Machine.run_cons_eq_some _ _ _ _).mp hrun
      have hbetween : between = (performStore ctx event store).2 := (Option.some.inj hstep).symm
      have hfirst := performStore_forward hdemo hholds
      have hlast := ih (hbetween ▸ performStore_demo hdemo) (hmeets between hstep) hrest
      rw [← hbetween] at hfirst
      exact ⟨hfirst.1.trans hlast.1, hfirst.2.trans hlast.2⟩

end

/-- Over a run whose steps meet the condition, no status goes back between any two states, and an
entry confirmation that throws leaves the statuses. -/
theorem status_only_moves_forward (ctx : StoreContext) (start : Store)
    (events : List StoreEvent) (hdemo : DemoInPlace start.memory)
    (hmeets : (storeMachine ctx).Meets (StepHolds ctx) start events) :
    (∀ before between after store store', events = before ++ between ++ after →
      (storeMachine ctx).run start before = some store →
      (storeMachine ctx).run store between = some store' →
      StatusesCarried NotBefore store store') ∧
    ∀ before event after store inviteToken error, events = before ++ event :: after →
      (storeMachine ctx).run start before = some store →
      event.call = .markCandidateReady inviteToken →
      (performStore ctx event store).1 = .error error →
      StatusesCarried Eq store (performStore ctx event store).2 := by
  -- The demo data of the memory stay complete, which `markCandidateReady` needs at each step.
  have hdemoAt : ∀ before store, (storeMachine ctx).run start before = some store →
      DemoInPlace store.memory := by
    intro before store hrun
    refine Machine.invariant (M := storeMachine ctx) (I := fun s => DemoInPlace s.memory)
      (fun s e s' hs hstep => ?_) before start store hdemo hrun
    rw [← Option.some.inj hstep]
    exact performStore_demo hs
  constructor
  · rintro before between after store store' rfl hbefore hbetween
    rw [List.append_assoc] at hmeets
    obtain ⟨hmid, -⟩ := (hmeets.after hbefore).2.after hbetween
    exact run_forward between (hdemoAt before store hbefore) hmid hbetween
  · rintro before event after store inviteToken error rfl hbefore hcall herror
    have hholds := hmeets.at hbefore
    unfold StepHolds at hholds
    rw [hcall] at hholds
    unfold performStore at herror ⊢
    rw [hcall] at herror ⊢
    simp only [map_apply] at herror ⊢
    cases hrun : markCandidateReady ctx inviteToken (event.turns 0) store with
    | mk ended store' =>
        rw [hrun] at herror
        cases ended with
        | ok invite => cases herror
        | error error' =>
            exact (markCandidateReady_step (hdemoAt before store hbefore) hholds hrun).2 error' rfl

/-! ### Back to `READY`, and written by a call that throws -/

/-- A store without a database. Its candidate has submitted. -/
def submittedStore : Store where
  memory :=
    { organization := { id := "org_demo", name := "Demo", createdAt := "" }
      exams := [{
        id := "exam_1", organizationId := "org_demo", title := "Exam", description := "",
        startAt := "", endAt := "", durationMinutes := 60, status := .active, languages := [],
        proctoringEnabled := false, identityVerificationEnabled := false,
        mobileCameraRequired := false, screenShareRequired := false, createdAt := "" }]
      candidates := [{
        id := "cand_1", examId := "exam_1", name := "Kim", email := "kim@example.com",
        status := .inProgress, inviteToken := "invite_1", createdAt := "" }] }
  database := sweptDatabase

/-- The page of the candidate confirms the entry. -/
def confirmEntry : StoreEvent := ⟨.markCandidateReady "invite_1", fun _ => {}⟩

/-- A manager deletes the exam. -/
def deleteTheExam : StoreEvent := ⟨.deleteExam "exam_1" (managerOf "org_a"), fun _ => {}⟩

/-- Without a database, a second confirmation leads back from `IN_PROGRESS` to `READY`. On the
database, a confirmation after the exam is deleted throws, and the status is `READY`. -/
theorem confirmation_breaks_the_order :
    (memoryStatus submittedStore.memory "cand_1" = some .inProgress ∧
        ((storeMachine demoContext).run submittedStore [confirmEntry]).bind
          (fun store => memoryStatus store.memory "cand_1") = some .ready) ∧
      ((storeMachine deployedContext).run staleStore [deleteTheExam]).map
          (fun store => (databaseStatus store.database "cand_1",
            (performStore deployedContext confirmEntry store).1.toOption.isSome,
            databaseStatus (performStore deployedContext confirmEntry store).2.database "cand_1"))
        = some (some .invited, false, some .ready) := by
  refine ⟨⟨?_, ?_⟩, ?_⟩
  · decide +kernel
  · decide +kernel
  · decide +kernel

/-- A run that meets the condition: the candidate confirms the entry before the exam is deleted,
and the status moves forward. -/
theorem status_only_moves_forward_confirmed :
    StatusesCarried NotBefore staleStore
      (performStore deployedContext confirmEntry staleStore).2 := by
  have hdemo : DemoInPlace staleStore.memory := fun question hquestion => by cases hquestion
  have hmeets : (storeMachine deployedContext).Meets (StepHolds deployedContext) staleStore
      [confirmEntry, deleteTheExam] := by
    refine ⟨?_, fun _ _ => ⟨trivial, fun _ _ => trivial⟩⟩
    show ReadyHolds deployedContext "invite_1" 0 staleStore
    have hread : databaseRead deployedContext 0 staleStore ≠ none := by decide +kernel
    unfold ReadyHolds
    rw [if_neg hread]
    intro row hrow _
    rw [List.mem_singleton.mp hrow]
    refine ⟨Nat.zero_le 1, .inr fun exam hexam => ?_⟩
    have hopen : ∀ exam ∈ staleStore.database.exams.find? "exam_1", exam.status ≠ .deleted := by
      decide +kernel
    exact hopen exam hexam
  exact (status_only_moves_forward deployedContext staleStore [confirmEntry, deleteTheExam]
    hdemo hmeets).1 [] [confirmEntry] [deleteTheExam] staleStore _ rfl rfl rfl

end Dcvp.Proofs
