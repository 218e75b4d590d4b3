import Dcvp.Modules.AiController
import Dcvp.Proofs.StoredRecords
import Dcvp.Proofs.TenantReads
import Mathlib.Data.List.Perm.Subperm

/-!
# `Dcvp.Proofs.ReportGeneration`: the reports that `generateExamReports` leaves

The tasks of all candidates go through the job queue in step. In the first round each of them
takes its snapshot of the reports, in the second one it makes the new array, and in the third one
it stores that array. So no task sees the report of another one, and the task of the last
candidate stores last (`runTasks_eq`).

`generateExamReports_ok` is the outcome: the reports from before, and the last one of the new
reports. `reports_kept_iff` draws the conclusion: with more than one candidate, reports are lost.

`getExamReport_onMemory` and `saveCompetencyReport_alone` connect the pieces of the call to the
methods of the store.
-/

set_option autoImplicit false

namespace Dcvp.Proofs

open Dcvp.Lib
open Dcvp.Lib.Computation
open Dcvp.Lib.JobQueue
open Dcvp.Shared
open Dcvp.Services
open Dcvp.Services.PlatformStore
open Dcvp.Modules.AiController

/-! ### The tasks -/

/-- What a task saves: the input and the report that was made from it. -/
abbrev ReportItem := GenerateReportInput × CompetencyReport

/-- The report as it is saved. -/
def savedReport (item : ReportItem) : CompetencyReport :=
  (saveCompetencyReportInStore [] item.1 item.2).1

/-- The memory after a task that took its snapshot in `memory`. -/
def storeReport (memory : PlatformMemory) (item : ReportItem) (current : PlatformMemory) :
    PlatformMemory :=
  { current with competencyReports := savedReport item :: memory.competencyReports }

/-- A task after some rounds, when the snapshot is that of `memory`. -/
def reportStage (memory : PlatformMemory) : Nat → ReportItem → ReportTask
  | 0, item => .generated item.1 item.2
  | 1, item => .unsaved item.1 item.2 memory.competencyReports
  | _, item => .saved (saveCompetencyReportInStore memory.competencyReports item.1 item.2)

/-- Nobody writes in the first two rounds. -/
theorem resume_reportStage (memory : PlatformMemory) (items : List ReportItem) :
    ∀ k < 2, ∀ item ∈ items, resumeReportTask (reportStage memory k item) memory =
      (memory, .suspended (reportStage memory (k + 1) item)) := by
  intro k hk item _
  match k, hk with
  | 0, _ => rfl
  | 1, _ => rfl

/-- Reports that are stored one after the other overwrite each other, because each write starts
from the same old list: only the last one is left. -/
theorem storeReports_eq (memory : PlatformMemory) (items : List ReportItem) :
    items.foldl (fun current item => storeReport memory item current) memory =
      { memory with
        competencyReports :=
          (items.map savedReport).getLast?.toList ++ memory.competencyReports } := by
  have hoverwrite : ∀ first second current,
      storeReport memory second (storeReport memory first current) =
        storeReport memory second current := fun _ _ _ => rfl
  rw [foldl_overwrite hoverwrite memory items, List.getLast?_map]
  cases items.getLast? <;> rfl

/-- All tasks: each of them returns its report, and the last one is stored. -/
theorem runTasks_eq (memory : PlatformMemory) (items : List ReportItem) {fuel : Nat}
    (hfuel : 3 * items.length ≤ fuel) :
    runAll resumeReportTask fuel (items.map fun item => .generated item.1 item.2) memory =
      some ({ memory with
        competencyReports := (items.map savedReport).getLast?.toList ++ memory.competencyReports },
        items.map savedReport) := by
  rw [← storeReports_eq]
  exact runAll_lockstep (resume_reportStage memory items) (fun _ _ => rfl) hfuel

/-! ### The call -/

section
variable {ctx : PlatformContext} {numberText : Rat → String} {examId : String}
  {turns : GenerateTurns} {memory : PlatformMemory}

/-- The candidates of an exam. -/
def examCandidates (memory : PlatformMemory) (examId : String) : List Candidate :=
  memory.candidates.filter (·.examId = examId)

/-- The report of an exam is about its candidates, and the sweep leaves the reports alone. -/
theorem getExamReportOnMemory_ok {session : AuthSession} {now : Int} {turn : PlatformInput}
    {swept : PlatformMemory} {report : ExamReport}
    (h : getExamReportOnMemory ctx memory examId session now turn = (swept, .ok report)) :
    report.candidates.map (·.candidate) = examCandidates memory examId ∧
      swept.competencyReports = memory.competencyReports := by
  unfold getExamReportOnMemory at h
  split at h
  · cases h
  · obtain ⟨rfl, hreport⟩ := Prod.mk.inj h
    refine ⟨?_, rfl⟩
    obtain ⟨exam, -, hrest⟩ := bind_eq_ok.mp hreport
    cases hrest
    rw [List.map_map]
    exact List.map_id _

/-- What the tasks of the call save. -/
def reportItems (numberText : Rat → String) (examId : String) (turns : GenerateTurns)
    (report : ExamReport) : List ReportItem :=
  report.candidates.mapIdx fun n candidateReport =>
    (reportInput examId candidateReport,
      ruleBasedReport numberText (reportInput examId candidateReport)
        (reportSignals report.exam candidateReport) (turns.report n))

/-- Each candidate has its report, in the order of the candidates. -/
theorem map_candidateId_reportItems (report : ExamReport) :
    ((reportItems numberText examId turns report).map savedReport).map (·.candidateId) =
      report.candidates.map (·.candidate.id) := by
  calc ((reportItems numberText examId turns report).map savedReport).map (·.candidateId)
      = (report.candidates.zipIdx.map Prod.fst).map (·.candidate.id) := by
        -- The id is that of the candidate, whatever the number of the task.
        rw [reportItems, List.mapIdx_eq_zipIdx_map, List.map_map, List.map_map, List.map_map]
        rfl
    _ = report.candidates.map (·.candidate.id) := by rw [List.zipIdx_map_fst]

/-- The call is one run of all its tasks, one for each candidate, over the memory after the sweep.
-/
theorem generateExamReports_eq {session : AuthSession} {swept : PlatformMemory}
    {report : ExamReport} (fuel : Nat)
    (h : getExamReportOnMemory ctx memory examId session turns.now turns.sweep =
      (swept, .ok report)) :
    generateExamReports ctx numberText (.ok session) examId turns fuel memory =
      (runAll resumeReportTask fuel ((reportItems numberText examId turns report).map
        fun item => .generated item.1 item.2) swept).map fun r => (r.1, .ok r.2) := by
  unfold generateExamReports
  simp only [h]
  rw [reportItems, List.mapIdx_eq_zipIdx_map, List.mapIdx_eq_zipIdx_map, List.map_map]
  rfl

/-- With enough fuel the call returns, and what it returns does not depend on the fuel. -/
theorem generateExamReports_returns (me : Except ServiceException AuthSession) :
    ∃ r, ∀ fuel, 3 * (examCandidates memory examId).length ≤ fuel →
      generateExamReports ctx numberText me examId turns fuel memory = some r := by
  cases me with
  | error error => exact ⟨_, fun _ _ => rfl⟩
  | ok session =>
      cases hreport : getExamReportOnMemory ctx memory examId session turns.now turns.sweep with
      | mk swept ended =>
          cases ended with
          | error error =>
              refine ⟨(swept, .error error), fun fuel _ => ?_⟩
              simp only [generateExamReports, hreport]
          | ok report =>
              -- One task for each candidate of the exam, so the bound on the fuel is the one of the
              -- tasks.
              have hlength : (reportItems numberText examId turns report).length =
                  (examCandidates memory examId).length := by
                rw [← (getExamReportOnMemory_ok hreport).1, List.length_map, reportItems,
                  List.length_mapIdx]
              refine ⟨({ swept with
                competencyReports :=
                  ((reportItems numberText examId turns report).map savedReport).getLast?.toList ++
                    swept.competencyReports },
                .ok ((reportItems numberText examId turns report).map savedReport)),
                fun fuel hfuel => ?_⟩
              rw [← hlength] at hfuel
              rw [generateExamReports_eq fuel hreport, runTasks_eq swept _ hfuel]
              rfl

/-- A call that returns has a report for each candidate, and has stored the last one of them. -/
theorem generateExamReports_ok {me : Except ServiceException AuthSession} {fuel : Nat}
    {after : PlatformMemory} {returned : List CompetencyReport}
    (h : generateExamReports ctx numberText me examId turns fuel memory =
      some (after, .ok returned)) :
    returned.map (·.candidateId) = (examCandidates memory examId).map (·.id) ∧
      after.competencyReports = returned.getLast?.toList ++ memory.competencyReports := by
  cases me with
  | error error => cases h
  | ok session =>
      cases hreport : getExamReportOnMemory ctx memory examId session turns.now turns.sweep with
      | mk swept ended =>
          cases ended with
          | error error =>
              simp only [generateExamReports, hreport] at h
              cases h
          | ok report =>
              rw [generateExamReports_eq fuel hreport] at h
              obtain ⟨⟨memory', results⟩, hrun, hr⟩ := Option.map_eq_some_iff.mp h
              cases hr
              obtain ⟨hcandidates, hkept⟩ := getExamReportOnMemory_ok hreport
              -- More fuel leads to the same end, and there the tasks are known.
              have hmore := runAll_mono
                (3 * (reportItems numberText examId turns report).length) hrun
              rw [runTasks_eq swept _ (Nat.le_add_left _ _)] at hmore
              cases hmore
              refine ⟨?_, by rw [← hkept]⟩
              rw [map_candidateId_reportItems, ← hcandidates, List.map_map]
              rfl

/-- Of the returned reports, the last one is in the memory, and another one only if an equal report
was there before. -/
theorem returned_mem_iff {me : Except ServiceException AuthSession} {fuel : Nat}
    {after : PlatformMemory} {returned : List CompetencyReport}
    (h : generateExamReports ctx numberText me examId turns fuel memory =
      some (after, .ok returned)) (report : CompetencyReport) :
    report ∈ after.competencyReports ↔
      returned.getLast? = some report ∨ report ∈ memory.competencyReports := by
  rw [(generateExamReports_ok h).2, List.mem_append, Option.mem_toList]

/-! ### The methods of the store -/

/-- In memory mode the store reads the report of an exam as the call does. -/
theorem getExamReport_onMemory {ctx : StoreContext} {store : Store}
    (hmode : store.usesMemory ctx = true) (examId : String) (session : AuthSession) (now : Int)
    (turn : PlatformInput) :
    getExamReport ctx examId session now turn store =
      ((getExamReportOnMemory ctx.toPlatformContext store.memory examId session now turn).2,
        store.withMemory (getExamReportOnMemory ctx.toPlatformContext store.memory examId session
          now turn).1) := by
  unfold getExamReport getExamReportOnMemory assertRights
  cases assertSessionCanManageExams session with
  | error error =>
      simp only [bind_apply, reads]
      rfl
  | ok rights =>
      simp only [bind_apply, reads, markStale_inMemory hmode]
      -- The sweep leaves the store in memory mode, so the report is read from the memory too.
      have hread : ∀ memory : PlatformMemory,
          getExamReportInStore ctx examId session turn.now (store.withMemory memory) =
            (examReportInMemory ctx.toPlatformContext memory examId session,
              store.withMemory memory) := by
        intro memory
        unfold getExamReportInStore orInMemory
        rw [bind_apply, trySeededDatabase_apply]
        unfold tryDatabase
        rw [if_pos (show (store.withMemory memory).usesMemory ctx = true from hmode)]
        rfl
      exact hread _

/-- In memory mode a task without others beside it saves its report as the store does. -/
theorem saveCompetencyReport_alone {ctx : StoreContext} {store : Store}
    (hmode : store.usesMemory ctx = true) (item : ReportItem) (now : Int) :
    ∃ memory report,
      runAll resumeReportTask 3 [.generated item.1 item.2] store.memory =
        some (memory, [report]) ∧
      saveCompetencyReport ctx item.1 item.2 now store =
        (.ok report, store.withMemory memory) := by
  exact ⟨_, _, runTasks_eq store.memory [item] (Nat.le_refl 3), orOnMemory_inMemory hmode⟩

/-! ### Which reports are kept -/

/-- Besides the reports from before, the memory has a returned report of each candidate of the
exam. -/
structure HoldsReports (examId : String) (before : PlatformMemory)
    (returned : List CompetencyReport) (after : PlatformMemory) : Prop where
  candidates : returned.map (·.candidateId) = (examCandidates before examId).map (·.id)
  kept : (returned ++ before.competencyReports).Subperm after.competencyReports

/-- A list fits into its last element only if it has no other one. -/
theorem subperm_getLast_iff {α : Type} (new old : List α) :
    (new ++ old).Subperm (new.getLast?.toList ++ old) ↔ new.length ≤ 1 := by
  constructor
  · intro h
    have hlength := h.length_le
    have hlast : new.getLast?.toList.length ≤ 1 := by cases new.getLast? <;> simp
    simp only [List.length_append] at hlength
    omega
  · intro h
    match new, h with
    | [], _ => exact List.Subperm.refl _
    | [_], _ => exact List.Subperm.refl _

end

/-- When the call has returned, the memory has the reports from before and the returned report of
each candidate, if and only if the exam has at most one candidate. -/
theorem reports_kept_iff (ctx : PlatformContext) (numberText : Rat → String)
    (me : Except ServiceException AuthSession) (examId : String) (turns : GenerateTurns)
    (fuel : Nat) (memory after : PlatformMemory) (returned : List CompetencyReport)
    (h : generateExamReports ctx numberText me examId turns fuel memory =
      some (after, .ok returned)) :
    HoldsReports examId memory returned after ↔ (examCandidates memory examId).length ≤ 1 := by
  obtain ⟨hcandidates, hstored⟩ := generateExamReports_ok h
  have hlength : returned.length = (examCandidates memory examId).length := by
    have := congrArg List.length hcandidates
    simpa using this
  rw [← hlength, ← subperm_getLast_iff returned memory.competencyReports, ← hstored]
  exact ⟨fun hholds => hholds.kept, fun hkept => ⟨hcandidates, hkept⟩⟩

/-- The seeded store, whose exam has a second candidate. -/
def twoCandidates : PlatformMemory :=
  { createPlatformSeedData 0 with
    candidates := (createPlatformSeedData 0).candidates ++
      [{ id := "candidate_002", examId := "exam_backend_001", name := "Lee Seoyeon",
         email := "seoyeon@example.com", status := .invited, inviteToken := "invite_demo_002",
         createdAt := Js.toISOString 0 }] }

/-- The answers of a call: each report gets a random id of its own. -/
def generateTurns : GenerateTurns where
  now := 0
  sweep := {}
  report n := { uuid := fun _ => if n = 0 then "5d8e0f7a-91b2" else "2f1b0c9d-8e7f" }

/-- The text of an integer. -/
def integerText (value : Rat) : String := toString value.num

/-- What `generateExamReports` does for the exam of the seeded store. -/
def generateSeedReports (memory : PlatformMemory) (fuel : Nat) :
    Option (PlatformMemory × Except ServiceException (List CompetencyReport)) :=
  generateExamReports offlineContext.toPlatformContext integerText (.ok (managerOf "org_demo"))
    "exam_backend_001" generateTurns fuel memory

/-- Both reports are returned, and the first one is not in the store. -/
theorem first_report_lost :
    ∃ after first second, generateSeedReports twoCandidates 6 = some (after, .ok [first, second]) ∧
      first ∉ after.competencyReports ∧
      ¬ HoldsReports "exam_backend_001" twoCandidates [first, second] after := by
  have hrun : ∃ after first second,
      generateSeedReports twoCandidates 6 = some (after, .ok [first, second]) ∧
      first ∉ after.competencyReports := ⟨_, _, _, rfl, by decide +kernel⟩
  obtain ⟨after, first, second, hrun, hlost⟩ := hrun
  refine ⟨after, first, second, hrun, hlost, ?_⟩
  intro hholds
  exact hlost (hholds.kept.subset (List.mem_cons_self ..))

/-- The exact condition at the seed: with one candidate the store has his report. -/
theorem reports_kept_iff_seed :
    ∃ after returned,
      generateSeedReports (createPlatformSeedData 0) 3 = some (after, .ok returned) ∧
      (HoldsReports "exam_backend_001" (createPlatformSeedData 0) returned after ↔
        (examCandidates (createPlatformSeedData 0) "exam_backend_001").length ≤ 1) :=
  ⟨_, _, rfl, reports_kept_iff offlineContext.toPlatformContext integerText
    (.ok (managerOf "org_demo")) "exam_backend_001" generateTurns 3 (createPlatformSeedData 0) _ _
    rfl⟩

end Dcvp.Proofs
