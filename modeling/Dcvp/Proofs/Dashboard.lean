import Dcvp.Proofs.ExamLock
import Dcvp.Services.PlatformStore.Report
import Mathlib.Data.List.Perm.Basic

/-!
# `Dcvp.Proofs.Dashboard`: the two dashboards

`getDashboardInStore` computes its values twice: as `where` clauses on the database and as filters
over the memory. `SameExamRecords` says that both hold the same exams and candidates, in any order.

The values about exams agree: both paths leave out deleted exams and read one organization, unless
an administrator asks. The values about candidates need not agree. The memory counts a candidate
only when the exam can be accessed, and a deleted exam cannot. The database looks at the
organization of the exam alone. `dashboard_agrees_iff` says that this is the whole difference: the
dashboards agree when no deleted exam in the scope of the session has a candidate.
-/

set_option autoImplicit false

namespace Dcvp.Proofs

open Dcvp.Lib
open Dcvp.Shared
open Dcvp.Services.PlatformStore

/-! ### What is compared -/

/-- The two stores hold the same exams and the same candidates. -/
structure SameExamRecords (t : PlatformTables) (memory : PlatformMemory) : Prop where
  exams : memory.exams.Perm (t.exams.rows.map mapExam)
  candidates : memory.candidates.Perm (t.candidates.rows.map mapCandidate)

/-- Two dashboards with the same numbers and the same exams. -/
structure SameNumbers (left right : DashboardSummary) : Prop where
  totalExams : left.totalExams = right.totalExams
  activeExams : left.activeExams = right.activeExams
  totalCandidates : left.totalCandidates = right.totalCandidates
  pendingReports : left.pendingReports = right.pendingReports
  recentExams : left.recentExams = right.recentExams

/-- The session reads all organizations, or the one of the exam. -/
def InScope (session : AuthSession) (exam : Exam) : Prop :=
  session.user.role = .admin ∨ exam.organizationId = session.organization.id

/-! ### Counts -/

/-- A list that shows another one, up to the order, is the map of a reordered list. -/
theorem exists_perm_of_perm_map {α β : Type} {f : α → β} {l : List β} {l' : List α}
    (h : l.Perm (l'.map f)) : ∃ k : List α, k.Perm l' ∧ l = k.map f := by
  have hcomp : Relation.Comp (fun (x : List β) (k : List α) => x = k.map f) List.Perm l l' := by
    rw [List.eq_map_comp_perm]
    exact h
  obtain ⟨k, hmap, hperm⟩ := hcomp
  exact ⟨k, hperm, hmap⟩

/-- When one condition implies the other, equal counts mean equal conditions. -/
theorem countP_eq_countP_iff {α : Type} {p q : α → Bool} {l : List α}
    (himp : ∀ a ∈ l, q a = true → p a = true) :
    l.countP p = l.countP q ↔ ∀ a ∈ l, p a = true → q a = true := by
  induction l with
  | nil => simp
  | cons a l ih =>
      have hle : l.countP q ≤ l.countP p :=
        List.countP_mono_left fun b hb => himp b (List.mem_cons_of_mem a hb)
      have ih' := ih fun b hb => himp b (List.mem_cons_of_mem a hb)
      have ha := himp a List.mem_cons_self
      rw [List.forall_mem_cons, ← ih', List.countP_cons, List.countP_cons]
      cases hp : p a <;> cases hq : q a <;> simp_all
      omega

section
variable {ctx : PlatformContext} {t : PlatformTables} {memory : PlatformMemory}
  {session : AuthSession}

/-! ### Exams -/

/-- A count of exams. -/
theorem countP_exams (h : SameExamRecords t memory) (p : Exam → Bool) :
    memory.exams.countP p = t.exams.count fun row => p (mapExam row) := by
  rw [h.exams.countP_eq, List.countP_map]
  rfl

/-- An active exam is not deleted. -/
theorem activeExamWhere_eq (session : AuthSession) (row : ExamRow) :
    activeExamWhere session row
      = (canAccessExam session (mapExam row) && isActive (mapExam row).status) := by
  unfold activeExamWhere canAccessExam isActive mapExam
  cases row.status <;> simp

/-- Dates that the texts keep apart are kept in order. -/
theorem isLE_localeCompare
    {a b : Int} (horder : ctx.localeCompare (Js.toISOString b) (Js.toISOString a) = compare b a) :
    (ctx.localeCompare (Js.toISOString b) (Js.toISOString a)).isLE = decide (b ≤ a) := by
  rw [horder, Bool.eq_iff_iff, decide_eq_true_iff]
  exact Int.isLE_compare

/-- The exams of a session are listed alike on both paths, if their dates are distinct and the
texts of the dates are compared as the dates are. -/
theorem listExams_eq (h : SameExamRecords t memory)
    (hdistinct : (t.exams.rows.map (·.createdAt)).Nodup)
    (horder : ∀ a ∈ t.exams.rows, ∀ b ∈ t.exams.rows,
      ctx.localeCompare (Js.toISOString a.createdAt) (Js.toISOString b.createdAt)
        = compare a.createdAt b.createdAt) :
    listExamsInMemory ctx memory session = listExamsInDatabase t session := by
  obtain ⟨rows, hperm, hrows⟩ := exists_perm_of_perm_map h.exams
  have hfilter : memory.exams.filter (canAccessExam session)
      = (rows.filter (scopedExamWhere session)).map mapExam := by
    rw [hrows, List.filter_map]
    rfl
  have hmem : ∀ row ∈ rows.filter (scopedExamWhere session), row ∈ t.exams.rows := fun row hrow =>
    hperm.subset (List.mem_of_mem_filter hrow)
  -- The texts are in the order of the dates.
  have htexts : ((rows.filter (scopedExamWhere session)).map mapExam).mergeSort
        (fun left right => (ctx.localeCompare right.createdAt left.createdAt).isLE)
      = ((rows.filter (scopedExamWhere session)).mergeSort
          fun left right => decide (right.createdAt ≤ left.createdAt)).map mapExam := by
    refine (List.map_mergeSort fun left hleft right hright => ?_).symm
    exact (isLE_localeCompare (horder right (hmem right hright) left (hmem left hleft))).symm
  -- No two exams have one date, so the order of the rows does not matter.
  have hrowsSorted : (rows.filter (scopedExamWhere session)).mergeSort
        (fun left right => decide (right.createdAt ≤ left.createdAt))
      = orderByDesc (·.createdAt) (t.exams.rows.filter (scopedExamWhere session)) := by
    refine mergeSort_eq_insertionSort_of_perm (fun left right : ExamRow =>
      right.createdAt ≤ left.createdAt) (hperm.filter _) fun a ha b hb hab hba => ?_
    exact List.inj_on_of_nodup_map hdistinct (hmem a ha) (hmem b hb) (by omega)
  unfold listExamsInMemory listExamsInDatabase sortByNewest
  rw [hfilter, htexts, hrowsSorted]

/-! ### Candidates -/

/-- A count of candidates. -/
theorem countP_candidates (h : SameExamRecords t memory) (p : Candidate → Bool) :
    memory.candidates.countP p = t.candidates.rows.countP fun row => p (mapCandidate row) := by
  rw [h.candidates.countP_eq, List.countP_map]
  rfl

/-- The memory looks for the exam of the candidate and finds the mapped row, which is in the scope
exactly when the row is. -/
theorem inAccessibleExam_mapCandidate (h : SameExamRecords t memory) {candidate : CandidateRow}
    {exam : ExamRow} (hexam : t.exams.find? candidate.examId = some exam) :
    inAccessibleExam memory session (mapCandidate candidate) = scopedExamWhere session exam := by
  obtain ⟨hmem, hid⟩ := (t.exams.find?_eq_some_iff _ _).mp hexam
  rw [Bool.eq_iff_iff]
  constructor
  · intro hany
    obtain ⟨found, hfound, haccess⟩ := List.any_eq_true.mp hany
    obtain ⟨hfoundId, haccess⟩ := Bool.and_eq_true_iff.mp haccess
    obtain ⟨row, hrow, rfl⟩ := List.mem_map.mp (h.exams.subset hfound)
    have hrowId : row.id = candidate.examId := of_decide_eq_true hfoundId
    have hsame : t.exams.find? candidate.examId = some row :=
      (t.exams.find?_eq_some_iff _ _).mpr ⟨hrow, hrowId⟩
    rw [hexam, Option.some_inj] at hsame
    rw [hsame]
    exact haccess
  · intro haccess
    refine List.any_eq_true.mpr ⟨mapExam exam, h.exams.symm.subset (List.mem_map_of_mem hmem), ?_⟩
    exact Bool.and_eq_true_iff.mpr ⟨decide_eq_true hid, haccess⟩

/-- The `where` of the database is the test of the memory without the status of the exam. -/
theorem scopedExamWhere_eq {candidate : CandidateRow} {exam : ExamRow}
    (hexam : t.exams.find? candidate.examId = some exam) :
    scopedExamWhere session exam
      = (decide (exam.status ≠ .deleted) && candidateWhere t session candidate) := by
  unfold scopedExamWhere candidateWhere
  rw [hexam, Option.any_some]

/-- No deleted exam in the scope of the session has a candidate. -/
def DeletedExamsEmpty (memory : PlatformMemory) (session : AuthSession) : Prop :=
  ∀ candidate ∈ memory.candidates, ∀ exam ∈ memory.exams, exam.id = candidate.examId →
    exam.status = .deleted → ¬ InScope session exam

/-- In the words of the counts: each candidate that the database counts is one that the memory
counts. -/
theorem deletedExamsEmpty_iff (h : SameExamRecords t memory)
    (hrelated : References t.candidates CandidateRow.examId t.exams) :
    DeletedExamsEmpty memory session ↔
      ∀ candidate ∈ t.candidates.rows, candidateWhere t session candidate = true →
        inAccessibleExam memory session (mapCandidate candidate) = true := by
  -- The filter of the query and the scope of the memory path say the same of a candidate whose exam
  -- is there.
  have hwhere : ∀ (candidate : CandidateRow) (exam : ExamRow),
      t.exams.find? candidate.examId = some exam →
        (candidateWhere t session candidate = true ↔ InScope session (mapExam exam)) := by
    intro candidate exam hexam
    unfold candidateWhere InScope mapExam
    simp [hexam]
  -- The database counts by organization only, the memory path looks at the status too. The rows
  -- where they differ are the candidates of deleted exams.
  constructor
  · intro hempty candidate hcandidate hscope
    obtain ⟨exam, hexam⟩ := Option.ne_none_iff_exists'.mp (hrelated candidate hcandidate)
    obtain ⟨hmem, hid⟩ := (t.exams.find?_eq_some_iff _ _).mp hexam
    have hlive : exam.status ≠ .deleted := fun hdeleted =>
      hempty (mapCandidate candidate) (h.candidates.symm.subset (List.mem_map_of_mem hcandidate))
        (mapExam exam) (h.exams.symm.subset (List.mem_map_of_mem hmem)) hid hdeleted
        ((hwhere candidate exam hexam).mp hscope)
    rw [inAccessibleExam_mapCandidate h hexam, scopedExamWhere_eq hexam, hscope]
    simpa using hlive
  · intro hcounted candidate hcandidate exam hexam hid hdeleted hscope
    obtain ⟨row, hrow, rfl⟩ := List.mem_map.mp (h.candidates.subset hcandidate)
    obtain ⟨examRow, hexamRow, rfl⟩ := List.mem_map.mp (h.exams.subset hexam)
    have hfind : t.exams.find? row.examId = some examRow :=
      (t.exams.find?_eq_some_iff _ _).mpr ⟨hexamRow, hid⟩
    have hin := hcounted row hrow ((hwhere row examRow hfind).mpr hscope)
    rw [inAccessibleExam_mapCandidate h hfind, scopedExamWhere_eq hfind] at hin
    exact absurd hdeleted (of_decide_eq_true (Bool.and_eq_true_iff.mp hin).1)

/-- The memory counts no candidate that the database leaves out. -/
theorem candidateWhere_of_inAccessibleExam (h : SameExamRecords t memory)
    (hrelated : References t.candidates CandidateRow.examId t.exams) {candidate : CandidateRow}
    (hcandidate : candidate ∈ t.candidates.rows)
    (hin : inAccessibleExam memory session (mapCandidate candidate) = true) :
    candidateWhere t session candidate = true := by
  obtain ⟨exam, hexam⟩ := Option.ne_none_iff_exists'.mp (hrelated candidate hcandidate)
  rw [inAccessibleExam_mapCandidate h hexam, scopedExamWhere_eq hexam] at hin
  exact (Bool.and_eq_true_iff.mp hin).2

end

/-! ### Both dashboards -/

/-- For a session of a stored organization the database answers, and it answers what the memory
does exactly when no deleted exam in the scope of the session has a candidate. -/
theorem dashboard_agrees_iff (ctx : PlatformContext) (db : PlatformDatabase)
    (memory : PlatformMemory) (session : AuthSession)
    (hsame : SameExamRecords db.toPlatformTables memory)
    (horganization : db.organizations.find? session.organization.id ≠ none)
    (hdistinct : (db.exams.rows.map (·.createdAt)).Nodup)
    (horder : ∀ a ∈ db.exams.rows, ∀ b ∈ db.exams.rows,
      ctx.localeCompare (Js.toISOString a.createdAt) (Js.toISOString b.createdAt)
        = compare a.createdAt b.createdAt) :
    ∃ dashboard, dashboardInDatabase db.toPlatformTables session = .ok dashboard ∧
      (SameNumbers dashboard (dashboardInMemory ctx memory session) ↔
        DeletedExamsEmpty memory session) := by
  have hrelated : References db.candidates CandidateRow.examId db.exams := db.related.1.2.2.2
  obtain ⟨organization, hfound⟩ := Option.ne_none_iff_exists'.mp horganization
  unfold dashboardInDatabase
  rw [hfound]
  refine ⟨_, rfl, ?_⟩
  -- The number of candidates decides: the memory counts a part of what the database counts.
  have htotal : db.candidates.count (candidateWhere db.toPlatformTables session)
        = memory.candidates.countP (inAccessibleExam memory session)
      ↔ DeletedExamsEmpty memory session := by
    rw [countP_candidates hsame, deletedExamsEmpty_iff hsame hrelated]
    exact countP_eq_countP_iff fun candidate hcandidate hin =>
      candidateWhere_of_inAccessibleExam hsame hrelated hcandidate hin
  constructor
  · exact fun hnumbers => htotal.mp hnumbers.totalCandidates
  · intro hempty
    have hcounted := (deletedExamsEmpty_iff hsame hrelated).mp hempty
    refine ⟨?_, ?_, htotal.mpr hempty, ?_, ?_⟩
    · exact (countP_exams hsame (canAccessExam session)).symm
    · show db.exams.count (activeExamWhere session) = _
      rw [funext (activeExamWhere_eq session)]
      exact (countP_exams hsame fun exam =>
        canAccessExam session exam && isActive exam.status).symm
    · refine Eq.trans ?_ (countP_candidates hsame fun candidate =>
        decide (candidate.status ≠ .completed) && inAccessibleExam memory session candidate).symm
      refine List.countP_congr fun candidate hcandidate => ?_
      unfold pendingCandidateWhere
      rw [Bool.and_eq_true_iff, Bool.and_eq_true_iff]
      exact and_congr_right fun _ => ⟨hcounted candidate hcandidate,
        candidateWhere_of_inAccessibleExam hsame hrelated hcandidate⟩
    · exact congrArg (List.take 5) (listExams_eq hsame hdistinct horder).symm

/-- The organization, the exam and the candidate of `sittingTables`, with the exam deleted or
not. -/
def dashboardDatabase (status : ExamStatus) : PlatformDatabase where
  organizations := .single ⟨"org_a", "Example", "ORG-A", 0⟩
  exams := .single {
    id := "exam_1", organizationId := "org_a", title := "Exam", description := "", startAt := 0,
    endAt := 7200000, durationMinutes := 60, status, languages := [], createdAt := 0 }
  candidates := .single {
    id := "cand_1", examId := "exam_1", name := "Kim", email := "kim@example.com",
    status := .ready, inviteToken := "invite_1", createdAt := 0 }
  unique := by cases status <;> decide +kernel
  related := by cases status <;> decide +kernel

/-- The memory with the same exam and the same candidate. -/
def dashboardMemory (status : ExamStatus) : PlatformMemory where
  organization := (managerOf "org_a").organization
  exams := (dashboardDatabase status).exams.rows.map mapExam
  candidates := (dashboardDatabase status).candidates.rows.map mapCandidate

/-- Without a deleted exam, the two dashboards of the example agree. -/
theorem dashboard_agrees_iff_active : ∃ dashboard,
    dashboardInDatabase (dashboardDatabase .active).toPlatformTables (managerOf "org_a")
        = .ok dashboard ∧
      SameNumbers dashboard (dashboardInMemory deployedContext.toPlatformContext
        (dashboardMemory .active) (managerOf "org_a")) := by
  have hempty : DeletedExamsEmpty (dashboardMemory .active) (managerOf "org_a") := by
    intro candidate _ exam hexam _ hdeleted
    obtain rfl := List.mem_singleton.mp hexam
    cases hdeleted
  obtain ⟨dashboard, hok, hiff⟩ := dashboard_agrees_iff deployedContext.toPlatformContext
    (dashboardDatabase .active) (dashboardMemory .active) (managerOf "org_a")
    ⟨List.Perm.refl _, List.Perm.refl _⟩ (by decide +kernel) (by decide +kernel)
    (by decide +kernel)
  exact ⟨dashboard, hok, hiff.mpr hempty⟩

/-- The exam is deleted: the database counts its candidate and the memory does not. -/
theorem dashboard_counts_deleted_exam : ∃ dashboard,
    dashboardInDatabase (dashboardDatabase .deleted).toPlatformTables (managerOf "org_a")
        = .ok dashboard ∧
      SameExamRecords (dashboardDatabase .deleted).toPlatformTables (dashboardMemory .deleted) ∧
      dashboard.totalCandidates = 1 ∧
      (dashboardInMemory deployedContext.toPlatformContext (dashboardMemory .deleted)
        (managerOf "org_a")).totalCandidates = 0 :=
  ⟨_, rfl, ⟨List.Perm.refl _, List.Perm.refl _⟩, by decide +kernel, by decide +kernel⟩

end Dcvp.Proofs
