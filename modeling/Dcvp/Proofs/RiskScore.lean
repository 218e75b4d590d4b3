import Dcvp.Proofs.StorePaths
import Mathlib.Algebra.Order.BigOperators.Group.List
import Mathlib.Algebra.Order.Group.Nat

/-!
# `Dcvp.Proofs.RiskScore`: the risk score and the history of a candidate

The score that `getExamReportInStore` reports, and the score of all recorded events.

The memory path takes all events of a candidate. The database path takes the 50 newest ones.
Each event weighs at least 1, so the scores agree exactly as long as there are no more than 50
events (`risk_score_covers_history_iff`). The levels always agree: 50 events are more than the
30 that reach the highest level whatever they are (`risk_level_covers_history`).
-/

set_option autoImplicit false

namespace Dcvp.Proofs

open Dcvp.Lib
open Dcvp.Lib.Computation
open Dcvp.Shared
open Dcvp.Services.PlatformStore

/-! ### The recorded events -/

/-- The types of the events that the database has of a candidate. -/
def recordedInDatabase (t : PlatformTables) (candidateId : String) : List ProctorEventType :=
  (t.proctorEvents.rows.filter (·.candidateId = candidateId)).map (·.type)

/-- The types of the events that the memory has of a candidate. -/
def recordedInMemory (memory : PlatformMemory) (candidateId : String) :
    List ProctorEventType :=
  (memory.proctorEvents.filter (·.candidateId = candidateId)).map (·.type)

/-- The types of all recorded events of a candidate, where the report is read. -/
def recordedTypes (ctx : StoreContext) (now : Int) (store : Store) (candidateId : String) :
    List ProctorEventType :=
  match databaseRead ctx now store with
  | some _ => recordedInDatabase store.database.toPlatformTables candidateId
  | none => recordedInMemory store.memory candidateId

/-- The condition: the memory is read, or there are at most 50 events. -/
def WithinLimit (ctx : StoreContext) (now : Int) (store : Store) (candidateId : String) : Prop :=
  databaseRead ctx now store = none ∨ (recordedTypes ctx now store candidateId).length ≤ 50

/-! ### Scores -/

/-- Every type of event counts. The default of the table is for types without an entry. -/
theorem riskWeight_pos (type : ProctorEventType) : 0 < riskWeight type := by
  cases type <;> decide

/-- The score that the loop accumulates is the sum of the weights of the events. -/
theorem calculateRiskScore_eq_sum (types : List ProctorEventType) :
    calculateRiskScore types = (types.map riskWeight).sum := by
  have haccum : ∀ score, types.foldl (fun score type => score + riskWeight type) score
      = score + (types.map riskWeight).sum := by
    induction types with
    | nil => intro score; simp
    | cons type types ih =>
        intro score
        rw [List.foldl_cons, ih, List.map_cons, List.sum_cons]
        omega
  show types.foldl _ 0 = _
  rw [haccum, Nat.zero_add]

/-- The order of the events has no influence. -/
theorem calculateRiskScore_perm {types types' : List ProctorEventType}
    (h : types.Perm types') : calculateRiskScore types = calculateRiskScore types' := by
  rw [calculateRiskScore_eq_sum, calculateRiskScore_eq_sum]
  exact (h.map riskWeight).sum_nat

/-- The score is a sum, so the events of two lists add up. -/
theorem calculateRiskScore_append (types types' : List ProctorEventType) :
    calculateRiskScore (types ++ types') = calculateRiskScore types + calculateRiskScore types' := by
  simp [calculateRiskScore_eq_sum]

/-- A history with an event has a positive score. -/
theorem calculateRiskScore_pos {types : List ProctorEventType} (h : types ≠ []) :
    0 < calculateRiskScore types := by
  cases types with
  | nil => exact absurd rfl h
  | cons type types =>
      rw [calculateRiskScore_eq_sum, List.map_cons, List.sum_cons]
      have hpos := riskWeight_pos type
      omega

/-- The score of the first events is at most the score of all. -/
theorem calculateRiskScore_take_le (n : Nat) (types : List ProctorEventType) :
    calculateRiskScore (types.take n) ≤ calculateRiskScore types := by
  conv_rhs => rw [← List.take_append_drop n types, calculateRiskScore_append]
  omega

/-- It is the score of all exactly when nothing is left out. -/
theorem calculateRiskScore_take_eq_iff (n : Nat) (types : List ProctorEventType) :
    calculateRiskScore (types.take n) = calculateRiskScore types ↔ types.length ≤ n := by
  have hsplit : calculateRiskScore types
      = calculateRiskScore (types.take n) + calculateRiskScore (types.drop n) := by
    rw [← calculateRiskScore_append, List.take_append_drop]
  constructor
  · intro h
    by_contra hlong
    have hdrop : types.drop n ≠ [] := by
      rw [ne_eq, List.drop_eq_nil_iff]
      omega
    have hpos := calculateRiskScore_pos hdrop
    omega
  · intro h
    rw [List.take_of_length_le h]

/-! ### The two paths -/

/-- The events that the report shows of a candidate, newest first. -/
def newestTypes (t : PlatformTables) (candidateId : String) : List ProctorEventType :=
  (orderByDesc (·.createdAt)
    (t.proctorEvents.rows.filter fun row => row.candidateId = candidateId)).map (·.type)

/-- The types of the newest events are those of all events in another order. -/
theorem newestTypes_perm (t : PlatformTables) (candidateId : String) :
    (newestTypes t candidateId).Perm (recordedInDatabase t candidateId) :=
  (List.perm_insertionSort _ _).map _

/-- The score that the database path reports is that of the newest 50 events of the candidate. -/
theorem candidateReport_riskScore (t : PlatformTables) (candidate : CandidateRow) :
    (t.candidateReport candidate).riskScore
      = calculateRiskScore ((newestTypes t candidate.id).take 50) := by
  unfold PlatformTables.candidateReport buildCandidateReport
  show calculateRiskScore _ = _
  congr 1
  unfold PlatformTables.proctorEventsOf PlatformTables.newestOf newestTypes
  rw [List.map_map, List.map_take]
  rfl

/-- Each candidate in a report from the database is reported by `candidateReport` from a row of the
table. -/
theorem item_of_examReportInDatabase {t : PlatformTables} {examId : String}
    {session : AuthSession} {report : ExamReport}
    (h : examReportInDatabase t examId session = .ok report) {item : CandidateExamReport}
    (hitem : item ∈ report.candidates) :
    ∃ candidate : CandidateRow, item = t.candidateReport candidate := by
  unfold examReportInDatabase at h
  obtain ⟨exam, -, hok⟩ := bind_eq_ok.mp h
  cases hok
  obtain ⟨candidate, -, heq⟩ := List.mem_map.mp hitem
  exact ⟨candidate, heq.symm⟩

/-- Each candidate in a report from the memory is reported by `candidateReport` from a candidate of
the store. -/
theorem item_of_examReportInMemory {ctx : PlatformContext} {memory : PlatformMemory}
    {examId : String} {session : AuthSession} {report : ExamReport}
    (h : examReportInMemory ctx memory examId session = .ok report) {item : CandidateExamReport}
    (hitem : item ∈ report.candidates) :
    ∃ candidate : Candidate, item = memory.candidateReport ctx candidate := by
  unfold examReportInMemory at h
  obtain ⟨exam, -, hok⟩ := bind_eq_ok.mp h
  cases hok
  obtain ⟨candidate, -, heq⟩ := List.mem_map.mp hitem
  exact ⟨candidate, heq.symm⟩

/-- The lookup of the exam only throws what `tryDatabase` passes on, so a refusal never makes the
memory answer. -/
theorem isRequestException_examReportInDatabase {t : PlatformTables} {examId : String}
    {session : AuthSession} {error : ServiceException}
    (h : examReportInDatabase t examId session = .error error) :
    isRequestException error = true := by
  unfold examReportInDatabase findAccessibleExamRow accessibleExam assertSessionCanAccessExam
    examNotFound at h
  split at h
  · cases h
    rfl
  · split at h
    · cases h
      rfl
    · split at h
      · cases h
        rfl
      · cases h

/-- A reported score is the score of the 50 newest events from the database, and the score of
all events from the memory. -/
theorem riskScore_eq {ctx : StoreContext} {examId : String} {session : AuthSession}
    {now : Int} {store store' : Store} {report : ExamReport}
    (h : getExamReportInStore ctx examId session now store = (.ok report, store'))
    {item : CandidateExamReport} (hitem : item ∈ report.candidates) :
    match databaseRead ctx now store with
    | some _ => item.riskScore = calculateRiskScore
        ((newestTypes store.database.toPlatformTables item.candidate.id).take 50)
    | none => item.riskScore
        = calculateRiskScore (recordedInMemory store.memory item.candidate.id) := by
  have hok := orInMemory_ok
    (fun db error herror => isRequestException_examReportInDatabase herror) h
  -- The report comes from the database when that could be read, else from the memory, and never
  -- from both.
  cases hread : databaseRead ctx now store with
  | some db =>
      rw [hread] at hok
      obtain ⟨candidate, rfl⟩ := item_of_examReportInDatabase hok hitem
      have hevents := proctorEvents_of_databaseRead hread
      show (db.candidateReport candidate).riskScore = _
      rw [candidateReport_riskScore]
      unfold newestTypes
      rw [hevents]
      rfl
  | none =>
      rw [hread] at hok
      obtain ⟨candidate, rfl⟩ := item_of_examReportInMemory hok hitem
      rfl

/-- No path reports more than the score of the history, since it counts a part of the events. -/
theorem riskScore_le {ctx : StoreContext} {examId : String} {session : AuthSession}
    {now : Int} {store store' : Store} {report : ExamReport}
    (h : getExamReportInStore ctx examId session now store = (.ok report, store'))
    {item : CandidateExamReport} (hitem : item ∈ report.candidates) :
    item.riskScore ≤ calculateRiskScore (recordedTypes ctx now store item.candidate.id) := by
  have hscore := riskScore_eq h hitem
  unfold recordedTypes
  cases hread : databaseRead ctx now store with
  | some db =>
      rw [hread] at hscore
      rw [hscore, ← calculateRiskScore_perm (newestTypes_perm _ _)]
      exact calculateRiskScore_take_le 50 _
  | none =>
      rw [hread] at hscore
      exact Nat.le_of_eq hscore

/-- The reported score is the score of the history exactly under the condition. -/
theorem riskScore_eq_recorded_iff {ctx : StoreContext} {examId : String}
    {session : AuthSession} {now : Int} {store store' : Store} {report : ExamReport}
    (h : getExamReportInStore ctx examId session now store = (.ok report, store'))
    {item : CandidateExamReport} (hitem : item ∈ report.candidates) :
    item.riskScore = calculateRiskScore (recordedTypes ctx now store item.candidate.id) ↔
      WithinLimit ctx now store item.candidate.id := by
  have hscore := riskScore_eq h hitem
  unfold WithinLimit recordedTypes
  cases hread : databaseRead ctx now store with
  | some db =>
      rw [hread] at hscore
      have hperm := newestTypes_perm store.database.toPlatformTables item.candidate.id
      rw [hscore, ← calculateRiskScore_perm hperm, calculateRiskScore_take_eq_iff,
        hperm.length_eq]
      simp
  | none =>
      rw [hread] at hscore
      exact ⟨fun _ => .inl rfl, fun _ => hscore⟩

/-! ### Main theorem -/

/-- A reported score is the score of all recorded events of the candidate exactly when the
report comes from the memory or the candidate has at most 50 events. Under this condition one
more event does not lower the score. -/
theorem risk_score_covers_history_iff (ctx : StoreContext) (examId : String)
    (session : AuthSession) (now : Int) (store store' : Store) (report : ExamReport)
    (h : getExamReportInStore ctx examId session now store = (.ok report, store'))
    (item : CandidateExamReport) (hitem : item ∈ report.candidates) :
    (item.riskScore = calculateRiskScore (recordedTypes ctx now store item.candidate.id) ↔
      WithinLimit ctx now store item.candidate.id) ∧
    ∀ (later later' : Store) (laterNow : Int) (laterReport : ExamReport)
      (laterItem : CandidateExamReport) (type : ProctorEventType),
      getExamReportInStore ctx examId session laterNow later = (.ok laterReport, later') →
      laterItem ∈ laterReport.candidates → laterItem.candidate.id = item.candidate.id →
      (recordedTypes ctx laterNow later item.candidate.id).Perm
        (type :: recordedTypes ctx now store item.candidate.id) →
      WithinLimit ctx laterNow later item.candidate.id → item.riskScore ≤ laterItem.riskScore := by
  refine ⟨riskScore_eq_recorded_iff h hitem, ?_⟩
  intro later later' laterNow laterReport laterItem type hlater hlaterItem hid hone hlimit
  rw [← hid] at hone hlimit
  have hfull := (riskScore_eq_recorded_iff hlater hlaterItem).mpr hlimit
  calc item.riskScore
      ≤ calculateRiskScore (recordedTypes ctx now store item.candidate.id) :=
        riskScore_le h hitem
    _ ≤ calculateRiskScore (type :: recordedTypes ctx now store item.candidate.id) := by
        simp [calculateRiskScore_eq_sum]
    _ = laterItem.riskScore := by
        rw [hfull, calculateRiskScore_perm hone, hid]

/-! ### The level -/

/-- The order of the levels. -/
def severity : ProctorRiskLevel → Nat
  | .safe => 0
  | .warning => 1
  | .danger => 2

/-- A higher score never has a less severe level. -/
theorem severity_mono {score score' : Nat} (h : score ≤ score') :
    severity (calculateRiskLevel score) ≤ severity (calculateRiskLevel score') := by
  unfold calculateRiskLevel
  split
  · -- The lower score is at 30 already.
    have hdanger : 30 ≤ score' := by omega
    rw [if_pos hdanger]
  · split
    · have hwarning : 12 ≤ score' := by omega
      split
      · decide
      · decide
    · show 0 ≤ _
      omega

/-- Each event adds at least 1 to the score, so the score is at least the number of events. -/
theorem length_le_calculateRiskScore (types : List ProctorEventType) :
    types.length ≤ calculateRiskScore types := by
  rw [calculateRiskScore_eq_sum]
  induction types with
  | nil => simp
  | cons type types ih =>
      rw [List.length_cons, List.map_cons, List.sum_cons]
      have hpos := riskWeight_pos type
      omega

/-- Any 30 events are enough for the highest level. -/
theorem calculateRiskLevel_of_length {types : List ProctorEventType} (h : 30 ≤ types.length) :
    calculateRiskLevel (calculateRiskScore types) = .danger := by
  have hscore := length_le_calculateRiskScore types
  unfold calculateRiskLevel
  rw [if_pos (by omega)]

/-- The first events have the level of all of them, when at least 30 are taken. -/
theorem calculateRiskLevel_take {n : Nat} (hn : 30 ≤ n) (types : List ProctorEventType) :
    calculateRiskLevel (calculateRiskScore (types.take n))
      = calculateRiskLevel (calculateRiskScore types) := by
  by_cases hlong : types.length ≤ n
  · rw [List.take_of_length_le hlong]
  · -- Both lists have at least 30 events.
    have htake : 30 ≤ (types.take n).length := by
      rw [List.length_take]
      omega
    rw [calculateRiskLevel_of_length htake, calculateRiskLevel_of_length (by omega)]

/-- The level of a report belongs to its score, on whichever path the report was made. -/
theorem riskLevel_of_item {ctx : StoreContext} {examId : String} {session : AuthSession}
    {now : Int} {store store' : Store} {report : ExamReport}
    (h : getExamReportInStore ctx examId session now store = (.ok report, store'))
    {item : CandidateExamReport} (hitem : item ∈ report.candidates) :
    item.riskLevel = calculateRiskLevel item.riskScore := by
  have hok := orInMemory_ok
    (fun db error herror => isRequestException_examReportInDatabase herror) h
  cases hread : databaseRead ctx now store with
  | some db =>
      rw [hread] at hok
      obtain ⟨candidate, rfl⟩ := item_of_examReportInDatabase hok hitem
      rfl
  | none =>
      rw [hread] at hok
      obtain ⟨candidate, rfl⟩ := item_of_examReportInMemory hok hitem
      rfl

/-- A reported level is the level of all recorded events, on both paths. -/
theorem riskLevel_eq_recorded {ctx : StoreContext} {examId : String} {session : AuthSession}
    {now : Int} {store store' : Store} {report : ExamReport}
    (h : getExamReportInStore ctx examId session now store = (.ok report, store'))
    {item : CandidateExamReport} (hitem : item ∈ report.candidates) :
    item.riskLevel = calculateRiskLevel
      (calculateRiskScore (recordedTypes ctx now store item.candidate.id)) := by
  rw [riskLevel_of_item h hitem]
  have hscore := riskScore_eq h hitem
  unfold recordedTypes
  cases hread : databaseRead ctx now store with
  | some db =>
      rw [hread] at hscore
      rw [hscore, calculateRiskLevel_take (by omega),
        calculateRiskScore_perm (newestTypes_perm _ _)]
  | none =>
      rw [hread] at hscore
      rw [hscore]

/-- More events have no lower score. -/
theorem calculateRiskScore_subperm {types types' : List ProctorEventType}
    (h : types.Subperm types') : calculateRiskScore types ≤ calculateRiskScore types' := by
  obtain ⟨sub, hperm, hsub⟩ := h
  rw [← calculateRiskScore_perm hperm, calculateRiskScore_eq_sum, calculateRiskScore_eq_sum]
  exact (hsub.map riskWeight).sum_le_sum fun _ _ => Nat.zero_le _

/-- The reported level is the level of the whole history of the candidate, although the database
path takes only the 50 newest events. So a later report whose history has all earlier events
shows no lower level. -/
theorem risk_level_covers_history (ctx : StoreContext) (examId : String)
    (session : AuthSession) (now : Int) (store store' : Store) (report : ExamReport)
    (h : getExamReportInStore ctx examId session now store = (.ok report, store'))
    (item : CandidateExamReport) (hitem : item ∈ report.candidates) :
    item.riskLevel = calculateRiskLevel
        (calculateRiskScore (recordedTypes ctx now store item.candidate.id)) ∧
    ∀ (later later' : Store) (laterNow : Int) (laterReport : ExamReport)
      (laterItem : CandidateExamReport),
      getExamReportInStore ctx examId session laterNow later = (.ok laterReport, later') →
      laterItem ∈ laterReport.candidates → laterItem.candidate.id = item.candidate.id →
      (recordedTypes ctx now store item.candidate.id).Subperm
        (recordedTypes ctx laterNow later item.candidate.id) →
      severity item.riskLevel ≤ severity laterItem.riskLevel := by
  have hlevel := riskLevel_eq_recorded h hitem
  refine ⟨hlevel, ?_⟩
  intro later later' laterNow laterReport laterItem hlater hlaterItem hid hmore
  rw [hlevel, riskLevel_eq_recorded hlater hlaterItem, hid]
  exact severity_mono (calculateRiskScore_subperm hmore)

/-! ### A candidate with 51 events -/

/-- The `n`-th event of the candidate. The first 50 tell of a refused camera, the last one of a
tab that is visible again. -/
def watchedEvent (n : Nat) : ProctorEventRow where
  id := "proctor_" ++ toString n
  candidateId := "cand_1"
  examId := "exam_1"
  type := if n < 50 then .primaryCameraPermissionDenied else .tabVisible
  createdAt := n

/-- An exam with one candidate and its events. -/
def watchedTables (proctorEvents : Table ProctorEventRow.id) : PlatformTables where
  organizations := .single ⟨"org_a", "Example", "ORG-A", 0⟩
  exams := .single {
    id := "exam_1", organizationId := "org_a", title := "Exam", description := "", startAt := 0,
    endAt := 3600000, durationMinutes := 60, languages := [], createdAt := 0 }
  candidates := .single {
    id := "cand_1", examId := "exam_1", name := "Kim", email := "kim@example.com",
    inviteToken := "invite_1", createdAt := 0 }
  proctorEvents

/-- The store after the first 50 events. -/
def watchedStore : Store where
  memory := { organization := (managerOf "org_a").organization }
  database :=
    { toPlatformTables :=
        watchedTables ⟨(List.range 50).map watchedEvent, by decide +kernel⟩
      unique := by decide +kernel
      related := by decide +kernel }

/-- The store after one more event. -/
def watchedStoreLater : Store where
  memory := { organization := (managerOf "org_a").organization }
  database :=
    { toPlatformTables :=
        watchedTables ⟨(List.range 51).map watchedEvent, by decide +kernel⟩
      unique := by decide +kernel
      related := by decide +kernel }

/-- The scores in a report of the exam. -/
def reportedScores (store : Store) : Option (List Nat) :=
  (getExamReportInStore deployedContext "exam_1" (managerOf "org_a") 0 store).1.toOption.map
    fun report => report.candidates.map (·.riskScore)

/-- The candidates in a report of the exam. -/
def reportedCandidates (store : Store) : Option (List String) :=
  (getExamReportInStore deployedContext "exam_1" (managerOf "org_a") 0 store).1.toOption.map
    fun report => report.candidates.map (·.candidate.id)

/-- The 51st event lowers the reported score from 1000 to 981. The score of the history is
1001. -/
theorem risk_score_forgets_oldest_event :
    reportedScores watchedStore = some [1000] ∧ reportedScores watchedStoreLater = some [981] ∧
      calculateRiskScore (recordedTypes deployedContext 0 watchedStoreLater "cand_1") = 1001 := by
  decide +kernel

/-- What a list of facts about the candidates says about the call. -/
theorem report_of_items {α : Type} (fact : CandidateExamReport → α) {store : Store} {a : α}
    {facts : List α}
    (h : (getExamReportInStore deployedContext "exam_1" (managerOf "org_a") 0
      store).1.toOption.map (fun report => report.candidates.map fact) = some (a :: facts)) :
    ∃ report store' item, getExamReportInStore deployedContext "exam_1" (managerOf "org_a") 0
        store = (.ok report, store') ∧ item ∈ report.candidates ∧ fact item = a := by
  cases hrun : getExamReportInStore deployedContext "exam_1" (managerOf "org_a") 0 store with
  | mk ended store' =>
      rw [hrun] at h
      cases ended with
      | error error => cases h
      | ok report =>
          have hfacts : report.candidates.map fact = a :: facts := Option.some.inj h
          cases hitems : report.candidates with
          | nil =>
              rw [hitems] at hfacts
              cases hfacts
          | cons item items =>
              rw [hitems] at hfacts
              have hmem : item ∈ report.candidates := by
                rw [hitems]
                exact List.mem_cons_self
              exact ⟨report, store', item, rfl, hmem, (List.cons.inj hfacts).1⟩

/-- The exact condition at the reports before and after the 51st event. -/
theorem risk_score_covers_history_iff_watched :
    (∃ report store' item, getExamReportInStore deployedContext "exam_1" (managerOf "org_a") 0
        watchedStore = (.ok report, store') ∧ item ∈ report.candidates ∧ item.riskScore = 1000 ∧
      (item.riskScore
          = calculateRiskScore (recordedTypes deployedContext 0 watchedStore item.candidate.id) ↔
        WithinLimit deployedContext 0 watchedStore item.candidate.id)) ∧
    ∃ report store' item, getExamReportInStore deployedContext "exam_1" (managerOf "org_a") 0
        watchedStoreLater = (.ok report, store') ∧ item ∈ report.candidates ∧
      item.riskScore = 981 ∧
      (item.riskScore = calculateRiskScore
          (recordedTypes deployedContext 0 watchedStoreLater item.candidate.id) ↔
        WithinLimit deployedContext 0 watchedStoreLater item.candidate.id) := by
  constructor
  · have hscores : reportedScores watchedStore = some [1000] := by decide +kernel
    obtain ⟨report, store', item, hrun, hitem, hscore⟩ := report_of_items (·.riskScore) hscores
    exact ⟨report, store', item, hrun, hitem, hscore,
      (risk_score_covers_history_iff deployedContext "exam_1" (managerOf "org_a") 0 watchedStore
        store' report hrun item hitem).1⟩
  · have hscores : reportedScores watchedStoreLater = some [981] := by decide +kernel
    obtain ⟨report, store', item, hrun, hitem, hscore⟩ := report_of_items (·.riskScore) hscores
    exact ⟨report, store', item, hrun, hitem, hscore,
      (risk_score_covers_history_iff deployedContext "exam_1" (managerOf "org_a") 0
        watchedStoreLater store' report hrun item hitem).1⟩

/-- The level at the reports before and after the 51st event: both are those of the whole history,
and the level has not gone down. -/
theorem risk_level_covers_history_watched :
    ∃ report store' item, getExamReportInStore deployedContext "exam_1" (managerOf "org_a") 0
        watchedStore = (.ok report, store') ∧ item ∈ report.candidates ∧
      item.riskLevel = calculateRiskLevel
        (calculateRiskScore (recordedTypes deployedContext 0 watchedStore item.candidate.id)) ∧
      ∃ laterReport later' laterItem,
        getExamReportInStore deployedContext "exam_1" (managerOf "org_a") 0 watchedStoreLater
          = (.ok laterReport, later') ∧ laterItem ∈ laterReport.candidates ∧
        severity item.riskLevel ≤ severity laterItem.riskLevel := by
  have hids : reportedCandidates watchedStore = some ["cand_1"] := by decide +kernel
  have hlaterIds : reportedCandidates watchedStoreLater = some ["cand_1"] := by decide +kernel
  obtain ⟨report, store', item, hrun, hitem, hid⟩ := report_of_items (·.candidate.id) hids
  obtain ⟨laterReport, later', laterItem, hlater, hlaterItem, hlaterId⟩ :=
    report_of_items (·.candidate.id) hlaterIds
  have hlevel := risk_level_covers_history deployedContext "exam_1" (managerOf "org_a") 0
    watchedStore store' report hrun item hitem
  refine ⟨report, store', item, hrun, hitem, hlevel.1, laterReport, later', laterItem, hlater,
    hlaterItem, hlevel.2 watchedStoreLater later' 0 laterReport laterItem hlater hlaterItem
      (hlaterId.trans hid.symm) ?_⟩
  rw [hid]
  -- The later history has one event more, at its end.
  have hstart : recordedTypes deployedContext 0 watchedStore "cand_1"
      = (recordedTypes deployedContext 0 watchedStoreLater "cand_1").take 50 := by
    decide +kernel
  rw [hstart]
  exact (List.take_sublist 50 _).subperm

end Dcvp.Proofs
