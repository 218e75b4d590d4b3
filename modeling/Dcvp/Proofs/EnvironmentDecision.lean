import Dcvp.Proofs.StoredRecords
import Mathlib.Data.List.Find

/-!
# `Dcvp.Proofs.EnvironmentDecision`: when an environment check passes

A check that is stored as passed should have all five items, and no failed result for any of
them. `didPassRequiredEnvironmentChecks` looks each item up, and a lookup finds the first result
of the item. The list comes from the client, and it may name an item twice.

`PassHidesFailure` is the list that gets through: the first result of each item is good, and a
later one has failed. `environment_check_sound_iff` says that a stored check is as it should be
unless the client has sent such a list.
-/

set_option autoImplicit false

namespace Dcvp.Proofs

open Dcvp.Lib
open Dcvp.Lib.Computation
open Dcvp.Shared
open Dcvp.Services
open Dcvp.Services.PlatformStore

/-! ### What the client has sent -/

/-- The raw result names this item. -/
def namesItem (id : EnvironmentCheckItemId) (raw : Option RawEnvironmentResult) : Bool :=
  raw.any fun result => decide (result.id = some (environmentCheckItemText id))

/-- The raw result has one of the two good statuses. -/
def reportsGood (raw : Option RawEnvironmentResult) : Bool :=
  raw.any fun result => decide (result.status = some "PASSED" ∨ result.status = some "WARNING")

/-- The first result of each item is good, and another result of an item is not. -/
def PassHidesFailure (results : List (Option RawEnvironmentResult)) : Prop :=
  (∀ id, ∃ raw, results.find? (namesItem id) = some raw ∧ reportsGood raw = true) ∧
    ∃ id, ∃ raw ∈ results, namesItem id raw = true ∧ reportsGood raw = false

/-! ### What is stored -/

/-- Each item has a result, and no result of it has failed. -/
def RequiredItemsPass (results : List EnvironmentCheckResult) : Prop :=
  ∀ id, (∃ result ∈ results, result.id = id) ∧
    ∀ result ∈ results, result.id = id → result.status ≠ .failed

/-- Between the two states one check has been stored, with these results and this decision. -/
inductive StoresCheck (before after : Store) (results : List EnvironmentCheckResult)
    (requiredPassed : Bool) : Prop where
  | inMemory (check : EnvironmentCheck)
      (stored : after.memory.environmentChecks = check :: before.memory.environmentChecks)
      (holds : check.results = results ∧ check.requiredPassed = requiredPassed)
  | inDatabase (row : EnvironmentCheckRow)
      (stored : after.database.environmentChecks.rows =
        before.database.environmentChecks.rows ++ [row])
      (holds : (mapEnvironmentCheck row).results = results ∧
        row.requiredPassed = requiredPassed)

/-! ### The normalization of one result -/

/-- Each item is read back from its text. -/
theorem environmentCheckItemId_text (id : EnvironmentCheckItemId) :
    environmentCheckItemId (environmentCheckItemText id) = some id := by
  cases id <;> rfl

/-- Each status is read back from its text. -/
theorem environmentCheckStatus_text (status : EnvironmentCheckStatus) :
    environmentCheckStatus (environmentCheckStatusText status) = some status := by
  cases status <;> rfl

/-- What is read as an item is its text, letter by letter. -/
theorem environmentCheckItemId_eq_some {text : String} {id : EnvironmentCheckItemId}
    (h : environmentCheckItemId text = some id) : text = environmentCheckItemText id := by
  unfold environmentCheckItemId at h
  split at h <;> cases h <;> rfl

/-- A status that is stored as good was sent as one: every other text counts as a failure. -/
theorem status_ne_failed_iff (text : Option String) :
    (text.bind environmentCheckStatus).getD .failed ≠ .failed ↔
      text = some "PASSED" ∨ text = some "WARNING" := by
  constructor
  · intro h
    cases text with
    | none => exact absurd rfl h
    | some text =>
        simp only [Option.bind_some] at h
        unfold environmentCheckStatus at h
        split at h
        · exact .inl rfl
        · exact .inr rfl
        · exact absurd rfl h
        · exact absurd rfl h
  · rintro (rfl | rfl)
    · exact fun h => by cases h
    · exact fun h => by cases h

/-- What is left of a raw result: the item that it names, and a good status exactly where it
reports one. -/
theorem normalize_eq_some {raw : Option RawEnvironmentResult} {result : EnvironmentCheckResult}
    (h : normalizeEnvironmentResult raw = some result) :
    (∀ id, result.id = id ↔ namesItem id raw = true) ∧
      (result.status ≠ .failed ↔ reportsGood raw = true) := by
  cases raw with
  | none => cases h
  | some raw =>
      unfold normalizeEnvironmentResult at h
      cases hid : raw.id.bind environmentCheckItemId with
      | none => simp [hid] at h
      | some id' =>
          simp only [Option.bind_eq_bind, Option.bind_some, hid, Option.some.injEq] at h
          subst h
          obtain ⟨text, htext, hitem⟩ := Option.bind_eq_some_iff.mp hid
          refine ⟨fun id => ?_, ?_⟩
          -- The text of an item and the item determine each other.
          · show id' = id ↔ decide (raw.id = some (environmentCheckItemText id)) = true
            rw [decide_eq_true_iff, htext, Option.some.injEq,
              environmentCheckItemId_eq_some hitem]
            constructor
            · intro heq
              rw [heq]
            · intro heq
              have hback := congrArg environmentCheckItemId heq
              rw [environmentCheckItemId_text, environmentCheckItemId_text] at hback
              exact Option.some.inj hback
          · show _ ↔ decide (raw.status = some "PASSED" ∨ raw.status = some "WARNING") = true
            rw [decide_eq_true_iff]
            exact status_ne_failed_iff raw.status

/-- A raw result that names one of the items is not dropped by the normalization. -/
theorem normalize_of_namesItem {raw : Option RawEnvironmentResult} {id : EnvironmentCheckItemId}
    (h : namesItem id raw = true) : ∃ result, normalizeEnvironmentResult raw = some result := by
  cases raw with
  | none => cases h
  | some raw =>
      have hid : raw.id = some (environmentCheckItemText id) := of_decide_eq_true h
      refine ⟨⟨id, (raw.status.bind environmentCheckStatus).getD .failed, raw.detail⟩, ?_⟩
      unfold normalizeEnvironmentResult
      simp [hid, environmentCheckItemId_text]

/-- The evidence of the browser is added to the detail of an item, which stays the same item. -/
theorem withBrowserEvidence_id (detail : String) (result : EnvironmentCheckResult) :
    (withBrowserEvidence detail result).id = result.id := by
  unfold withBrowserEvidence
  split <;> rfl

/-- Nor does it change the status. -/
theorem withBrowserEvidence_status (detail : String) (result : EnvironmentCheckResult) :
    (withBrowserEvidence detail result).status = result.status := by
  unfold withBrowserEvidence
  split <;> rfl

/-- What the database reads back is what was stored. -/
theorem normalize_toEnvironmentCheckJson (results : List EnvironmentCheckResult) :
    normalizeEnvironmentResults (toEnvironmentCheckJson results) = results := by
  induction results with
  | nil => rfl
  | cons result results ih =>
      have hhead : normalizeEnvironmentResult
          (some
            { id := some (environmentCheckItemText result.id)
              status := some (environmentCheckStatusText result.status)
              detail := result.detail }) = some result := by
        unfold normalizeEnvironmentResult
        simp [environmentCheckItemId_text, environmentCheckStatus_text]
      unfold normalizeEnvironmentResults toEnvironmentCheckJson at ih ⊢
      rw [List.map_cons, List.filterMap_cons_some hhead, ih]

/-! ### The decision -/

section
variable {input : CreateEnvironmentCheckInput}

/-- Each stored result comes from a raw one that names the same item, and it is stored as not
failed exactly when the raw one reports good. -/
theorem mem_resultsWithEvidence {result : EnvironmentCheckResult}
    (h : result ∈ resultsWithEvidence input) :
    ∃ raw ∈ input.results, (∀ id, result.id = id ↔ namesItem id raw = true) ∧
      (result.status ≠ .failed ↔ reportsGood raw = true) := by
  obtain ⟨normal, hnormal, rfl⟩ := List.mem_map.mp h
  obtain ⟨raw, hraw, heq⟩ := List.mem_filterMap.mp hnormal
  rw [withBrowserEvidence_id, withBrowserEvidence_status]
  exact ⟨raw, hraw, normalize_eq_some heq⟩

/-- A raw result that names an item is stored. -/
theorem resultsWithEvidence_of_mem {raw : Option RawEnvironmentResult}
    {id : EnvironmentCheckItemId} (hraw : raw ∈ input.results) (hnames : namesItem id raw = true) :
    ∃ result ∈ resultsWithEvidence input, result.id = id ∧
      (result.status ≠ .failed ↔ reportsGood raw = true) := by
  obtain ⟨normal, hnormal⟩ := normalize_of_namesItem hnames
  obtain ⟨hid, hstatus⟩ := normalize_eq_some hnormal
  refine ⟨withBrowserEvidence (browserEvidenceDetail input.browserEvidence) normal,
    List.mem_map_of_mem (List.mem_filterMap.mpr ⟨raw, hraw, hnormal⟩), ?_, ?_⟩
  · rw [withBrowserEvidence_id]
    exact (hid id).mpr hnames
  · rw [withBrowserEvidence_status]
    exact hstatus

/-- The lookup of an item finds what is left of the first raw result that names it. -/
theorem find?_resultsWithEvidence (id : EnvironmentCheckItemId) :
    (resultsWithEvidence input).find? (·.id = id) =
      ((input.results.find? (namesItem id)).bind normalizeEnvironmentResult).map
        (withBrowserEvidence (browserEvidenceDetail input.browserEvidence)) := by
  have hnames : (fun raw => (normalizeEnvironmentResult raw).any fun result =>
      decide (result.id = id)) = namesItem id := by
    funext raw
    cases hnormal : normalizeEnvironmentResult raw with
    | none =>
        cases hraw : namesItem id raw with
        | false => rfl
        | true =>
            obtain ⟨result, hsome⟩ := normalize_of_namesItem hraw
            rw [hnormal] at hsome
            cases hsome
    | some result =>
        have hid := (normalize_eq_some hnormal).1 id
        exact Bool.eq_iff_iff.mpr (decide_eq_true_iff.trans hid)
  unfold resultsWithEvidence normalizeEnvironmentResults
  rw [List.find?_map, ← hnames, ← List.find?_filterMap]
  refine congrArg (Option.map _) (List.find?_congr fun result _ => ?_)
  show decide ((withBrowserEvidence _ result).id = id) = decide (result.id = id)
  rw [withBrowserEvidence_id]

/-- The decision looks at the first result of each item: it passes exactly when each of the five
items has one, and it is good. -/
theorem didPass_iff :
    didPassRequiredEnvironmentChecks (resultsWithEvidence input) = true ↔
      ∀ id, ∃ raw, input.results.find? (namesItem id) = some raw ∧ reportsGood raw = true := by
  have hone : ∀ id, ((resultsWithEvidence input).find? (·.id = id)).any
        (fun result => decide (result.status = .passed ∨ result.status = .warning)) = true ↔
      ∃ raw, input.results.find? (namesItem id) = some raw ∧ reportsGood raw = true := by
    intro id
    rw [find?_resultsWithEvidence]
    cases hfind : input.results.find? (namesItem id) with
    | none => simp
    | some raw =>
        obtain ⟨normal, hnormal⟩ := normalize_of_namesItem (List.find?_some hfind)
        have hstatus := (normalize_eq_some hnormal).2
        simp only [Option.bind_some, hnormal, Option.map_some, withBrowserEvidence_status,
          Option.some.injEq, exists_eq_left', Option.any_some, decide_eq_true_iff]
        rw [← hstatus]
        cases normal.status <;> simp
  -- The test of the source, as a property of the first result.
  have hany : didPassRequiredEnvironmentChecks (resultsWithEvidence input) =
      [.browser, .network, .camera, .microphone, .screen].all fun id =>
        ((resultsWithEvidence input).find? (·.id = id)).any
          fun result => decide (result.status = .passed ∨ result.status = .warning) := by
    unfold didPassRequiredEnvironmentChecks
    congr 1
    funext id
    cases (resultsWithEvidence input).find? (·.id = id) <;> rfl
  rw [hany, List.all_eq_true]
  constructor
  · intro h id
    exact (hone id).mp (h id (by cases id <;> decide))
  · intro h id _
    exact (hone id).mpr (h id)

/-- The decision is right unless a good result hides a failed one. -/
theorem decision_sound_iff :
    (didPassRequiredEnvironmentChecks (resultsWithEvidence input) = true →
        RequiredItemsPass (resultsWithEvidence input)) ↔
      ¬ PassHidesFailure input.results := by
  rw [didPass_iff]
  constructor
  · rintro hsound ⟨hfirst, id, raw, hraw, hnames, hbad⟩
    obtain ⟨result, hmem, hid, hstatus⟩ := resultsWithEvidence_of_mem hraw hnames
    have hgood := hstatus.mp ((hsound hfirst id).2 result hmem hid)
    rw [hbad] at hgood
    cases hgood
  · intro hnot hfirst id
    constructor
    · obtain ⟨raw, hfind, -⟩ := hfirst id
      obtain ⟨result, hmem, hid, -⟩ :=
        resultsWithEvidence_of_mem (List.mem_of_find?_eq_some hfind) (List.find?_some hfind)
      exact ⟨result, hmem, hid⟩
    · intro result hmem hid
      obtain ⟨raw, hraw, hitem, hstatus⟩ := mem_resultsWithEvidence hmem
      cases hgood : reportsGood raw with
      | true => exact hstatus.mpr hgood
      | false => exact absurd ⟨hfirst, id, raw, hraw, (hitem id).mp hid, hgood⟩ hnot

end

/-! ### The call -/

/-- What the call stores are the normalized results with their decision, on whichever path it
stores them. -/
theorem storesCheck_saveEnvironmentCheck {ctx : StoreContext} {invite : CandidateInvite}
    {input : CreateEnvironmentCheckInput} {turn : PlatformInput} {store : Store}
    {results : List EnvironmentCheckResult} {requiredPassed : Bool}
    (h : StoresCheck store (saveEnvironmentCheck ctx invite input turn store).2 results
      requiredPassed) :
    results = resultsWithEvidence input ∧
      requiredPassed = didPassRequiredEnvironmentChecks (resultsWithEvidence input) := by
  cases hcall : saveEnvironmentCheck ctx invite input turn store with
  | mk ended after =>
      rw [hcall] at h
      rcases orOnMemory_cases atomic_saveEnvironmentCheck hcall with
        ⟨error, -, hafter⟩ | ⟨check, db, hrun, -, hafter⟩ | ⟨-, hmemory, hdatabase⟩
      · -- The call has thrown, and nothing is stored.
        subst hafter
        cases h with
        | inMemory check stored holds => exact absurd stored List.ne_cons_self
        | inDatabase row stored holds => simp at stored
      · subst hafter
        cases h with
        | inMemory check stored holds => exact absurd stored List.ne_cons_self
        | inDatabase row stored holds =>
            have hrows := stored.symm.trans (saveEnvironmentCheckInDatabase_ok hrun)
            obtain rfl : row = newEnvironmentCheckRow invite input turn := by
              simpa using List.append_cancel_left hrows
            refine ⟨holds.1.symm.trans ?_, holds.2.symm⟩
            exact normalize_toEnvironmentCheckJson (resultsWithEvidence input)
      · cases h with
        | inMemory check stored holds =>
            rw [hmemory] at stored
            obtain ⟨rfl, -⟩ := List.cons.inj stored
            exact ⟨holds.1.symm, holds.2.symm⟩
        | inDatabase row stored holds =>
            rw [hdatabase] at stored
            simp at stored

/-- A check that is stored as passed has every item, with no failed result, unless the client has
sent a good result before a failed one. -/
theorem environment_check_sound_iff (ctx : StoreContext) (invite : CandidateInvite)
    (input : CreateEnvironmentCheckInput) (turn : PlatformInput) (store : Store)
    (results : List EnvironmentCheckResult) (requiredPassed : Bool)
    (h : StoresCheck store (saveEnvironmentCheck ctx invite input turn store).2 results
      requiredPassed) :
    (requiredPassed = true → RequiredItemsPass results) ↔ ¬ PassHidesFailure input.results := by
  obtain ⟨rfl, rfl⟩ := storesCheck_saveEnvironmentCheck h
  exact decision_sound_iff

/-! ### A list that gets through -/

/-- Every item is good, and then the camera has failed. -/
def repeatedCamera : CreateEnvironmentCheckInput where
  sessionId := "session_1"
  evidenceToken := "token_1"
  results :=
    ["browser", "network", "camera", "microphone", "screen"].map
        (fun id => some { id := some id, status := some "PASSED" }) ++
      [some { id := some "camera", status := some "FAILED" }]
  browserEvidence := ⟨true, "2026-07-18T00:00:00.000Z"⟩

/-- The list of the example has a failed camera behind one that passed. -/
theorem repeatedCamera_hides_failure : PassHidesFailure repeatedCamera.results := by
  constructor
  · intro id
    cases id <;> exact ⟨_, rfl, rfl⟩
  · exact ⟨.camera, some { id := some "camera", status := some "FAILED" }, by decide, rfl, rfl⟩

/-- The check of such a list is stored as passed. -/
theorem storesCheck_repeatedCamera (invite : CandidateInvite) :
    StoresCheck seedStore (saveEnvironmentCheck offlineContext invite repeatedCamera {} seedStore).2
      (resultsWithEvidence repeatedCamera) true := by
  rw [saveEnvironmentCheck_inMemory rfl]
  have hpassed : didPassRequiredEnvironmentChecks (resultsWithEvidence repeatedCamera) = true :=
    didPass_iff.mpr repeatedCamera_hides_failure.1
  exact .inMemory _ rfl ⟨rfl, hpassed⟩

/-- The seeded candidate passes although the camera has failed. -/
theorem failed_camera_passes :
    ∃ invite, getCandidateInviteInStore seedStore.memory.candidatePortalMemoryState
        "invite_demo_001" = .ok invite ∧
      StoresCheck seedStore
        (saveEnvironmentCheck offlineContext invite repeatedCamera {} seedStore).2
        (resultsWithEvidence repeatedCamera) true ∧
      ¬ RequiredItemsPass (resultsWithEvidence repeatedCamera) := by
  refine ⟨_, rfl, storesCheck_repeatedCamera _, ?_⟩
  intro hpass
  exact decision_sound_iff.mp (fun _ => hpass) repeatedCamera_hides_failure

/-- The same list, whose check is not as it should be. -/
theorem environment_check_sound_iff_camera :
    ∃ invite, getCandidateInviteInStore seedStore.memory.candidatePortalMemoryState
        "invite_demo_001" = .ok invite ∧
      ((true = true → RequiredItemsPass (resultsWithEvidence repeatedCamera)) ↔
        ¬ PassHidesFailure repeatedCamera.results) := by
  obtain ⟨invite, hinvite⟩ : ∃ invite, getCandidateInviteInStore
      seedStore.memory.candidatePortalMemoryState "invite_demo_001" = .ok invite := ⟨_, rfl⟩
  exact ⟨invite, hinvite, environment_check_sound_iff offlineContext invite repeatedCamera {}
    seedStore _ true (storesCheck_repeatedCamera invite)⟩

end Dcvp.Proofs
