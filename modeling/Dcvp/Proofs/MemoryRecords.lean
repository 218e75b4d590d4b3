import Dcvp.Lib.Upsert
import Dcvp.Proofs.WorkspaceGate

/-!
# `Dcvp.Proofs.MemoryRecords`: what the arrays of the store stand for

Whole runs of operations of the platform store in memory mode, one after the other
(`sequentialStore`). The store finds a device, a draft or an exam session by a key, and it
replaces devices and drafts by their identifier. The other records go to the front of their
array.

`devices_of_writes`, `drafts_of_writes` and `examSessions_of_writes` say what one operation keeps of
the first three arrays, and `records_of_writes` what it adds to the others. `MemoryRepresents`
follows for every run: the keys are unique, and the arrays are the log of the
operations, the newest one first. `memory_represents_past` adds that devices and drafts keep their
identifier, their key and the date of their creation.
-/

set_option autoImplicit false

namespace Dcvp.Proofs

open Dcvp.Lib
open Dcvp.Shared
open Dcvp.Services.PlatformStore

/-! ### Keys -/

/-- The columns that a device is looked up by. -/
def deviceKey (device : ProctorDevice) : String × String × ProctorDeviceRole :=
  (device.candidateId, device.examId, device.role)

/-- The columns that a draft is looked up by. -/
def draftKey (draft : CodeDraft) : String × String × String :=
  (draft.candidateId, draft.questionId, draft.language)

/-- The columns that an exam session is looked up by. -/
def examSessionKey (session : ExamSession) : String × String :=
  (session.candidateId, session.examId)

/-- What never changes in a device. -/
def deviceOrigin (device : ProctorDevice) :
    String × (String × String × ProctorDeviceRole) × String :=
  (device.id, deviceKey device, device.createdAt)

/-- What never changes in a draft. -/
def draftOrigin (draft : CodeDraft) : String × (String × String × String) × String :=
  (draft.id, draftKey draft, draft.createdAt)

/-- A connected device has been connected, and has a heartbeat. -/
def HasHeartbeat (device : ProctorDevice) : Prop :=
  device.status = .connected →
    device.connectedAt.isSome = true ∧ device.lastHeartbeatAt.isSome = true

/-! ### Devices -/

section
variable {ctx : PlatformContext} {call : PlatformCall} {turns : List PlatformInput}
  {m m' : PlatformMemory} {r : PlatformResult}

/-- The search by the columns is the search by the key. -/
theorem find?_deviceKey (devices : List ProctorDevice) (candidateId examId : String)
    (role : ProctorDeviceRole) :
    (devices.find? fun device =>
      device.candidateId = candidateId ∧ device.examId = examId ∧ device.role = role)
      = devices.find? (deviceKey · = (candidateId, examId, role)) := by
  refine List.find?_congr fun device _ => ?_
  simp [deviceKey]

/-- The device has the identifier and the creation date of the one with its key. -/
theorem deviceOrigin_upsert {devices : List ProctorDevice} {invite : CandidateInvite}
    {input : UpsertProctorDeviceInput} {known : ProctorDevice} (turn : PlatformInput)
    (h : devices.find? (deviceKey · = (invite.candidate.id, invite.exam.id, input.role))
      = some known) :
    deviceOrigin (upsertProctorDeviceInStore devices invite input turn).1 = deviceOrigin known := by
  have hkey : deviceKey known = (invite.candidate.id, invite.exam.id, input.role) := by
    simpa using List.find?_some h
  unfold upsertProctorDeviceInStore
  simp only [find?_deviceKey, h, Option.map_some, Option.getD_some]
  unfold deviceOrigin
  rw [hkey]
  rfl

/-- Without a device of its key it has a new identifier. -/
theorem upsertProctorDeviceInStore_new {devices : List ProctorDevice}
    {invite : CandidateInvite} {input : UpsertProctorDeviceInput} {turn : PlatformInput}
    (h : devices.find? (deviceKey · = (invite.candidate.id, invite.exam.id, input.role)) = none) :
    (upsertProctorDeviceInStore devices invite input turn).1.id
      = turn.createId "proctor_device" 0 := by
  unfold upsertProctorDeviceInStore
  simp only [find?_deviceKey, h, Option.map_none, Option.getD_none]

/-- The device that is written has the key of its candidate, exam and role. When it is a new one,
its identifier is fresh. -/
theorem upsertProctorDeviceInStore_fits {devices : List ProctorDevice}
    {invite : CandidateInvite} {input : UpsertProctorDeviceInput} {turn : PlatformInput}
    (hfresh : turn.createId "proctor_device" 0 ∉ devices.map (·.id)) :
    Fits (·.id) deviceKey devices (upsertProctorDeviceInStore devices invite input turn).1 := by
  refine fits_of_find? (fun known hknown => ?_) fun hnone => ?_
  · exact congrArg Prod.fst (deviceOrigin_upsert turn hknown)
  · rw [upsertProctorDeviceInStore_new hnone]
    exact hfresh

/-- A device that reports as connected gets a heartbeat with it. -/
theorem hasHeartbeat_upsert (devices : List ProctorDevice) (invite : CandidateInvite)
    (input : UpsertProctorDeviceInput) (turn : PlatformInput) :
    HasHeartbeat (upsertProctorDeviceInStore devices invite input turn).1 := by
  intro hconnected
  have hstatus : input.status = .connected := hconnected
  unfold upsertProctorDeviceInStore
  simp [hstatus]

/-- A sweep leaves every column of the devices alone that it does not write itself. -/
theorem map_sweep {β : Type} (column : ProctorDevice → β)
    (hcolumn : ∀ device at', column (disconnectStale device at') = column device)
    (ctx : PlatformContext) (examId : String) (before : Option Int) (turn : PlatformInput)
    (m : PlatformMemory) :
    (m.sweep ctx examId before turn).proctorDevices.map column
      = m.proctorDevices.map column := by
  rw [sweep_eq ctx examId before turn _ rfl]
  show (mapWhere _ _ m.proctorDevices).map column = _
  unfold mapWhere
  rw [List.map_map]
  refine List.map_congr_left fun device _ => ?_
  simp only [Function.comp_apply]
  split
  · exact hcolumn device turn.nowIso
  · rfl

/-- What a device array keeps: the identifiers and the keys are different, and connected devices
have a heartbeat. -/
structure DevicesOk (devices : List ProctorDevice) : Prop where
  unique : Unique (·.id) deviceKey devices
  connected : ∀ device ∈ devices, HasHeartbeat device

/-- A sweep changes the status of devices, and neither their identifiers nor their keys. -/
theorem DevicesOk.sweep (h : DevicesOk m.proctorDevices) (ctx : PlatformContext) (examId : String)
    (before : Option Int) (turn : PlatformInput) :
    DevicesOk (m.sweep ctx examId before turn).proctorDevices := by
  refine ⟨h.unique.congr (map_sweep _ (fun _ _ => rfl) ctx examId before turn m)
    (map_sweep _ (fun _ _ => rfl) ctx examId before turn m), ?_⟩
  intro device hdevice hconnected
  -- A device that is still connected was not touched.
  obtain ⟨known, hknown, -, -, hstayed⟩ := device_of_sweep hdevice
  obtain ⟨rfl, -⟩ := hstayed hconnected
  exact h.connected known hknown hconnected

/-- The identifiers that `createId` may draw for a device are new ones. -/
def FreshDeviceIds (turns : List PlatformInput) (devices : List ProctorDevice) : Prop :=
  ∀ turn ∈ turns, turn.createId "proctor_device" 0 ∉ devices.map (·.id)

/-- A sweep adds no device, so what is fresh before is fresh after it. -/
theorem FreshDeviceIds.sweep (h : FreshDeviceIds turns m.proctorDevices) (ctx : PlatformContext)
    (examId : String) (before : Option Int) (turn : PlatformInput) :
    FreshDeviceIds turns (m.sweep ctx examId before turn).proctorDevices := by
  intro next hnext
  rw [map_sweep (·.id) (fun _ _ => rfl) ctx examId before turn m]
  exact h next hnext

/-- What an operation keeps of the devices: identifiers and keys stay unique, and every device
stays with its origin. By induction on the writes of the operation. -/
theorem devices_of_writes (h : Writes ctx call turns m m' r)
    (hfresh : FreshDeviceIds turns m.proctorDevices) (hok : DevicesOk m.proctorDevices) :
    DevicesOk m'.proctorDevices ∧ Carried deviceOrigin m.proctorDevices m'.proctorDevices := by
  -- Induction on the writes of the operation; a sweep and a report are the only ones that touch
  -- devices.
  induction h with
  | sweeps examId before turn _ ih =>
      obtain ⟨hok', hcarried⟩ := ih (hfresh.sweep ctx examId before turn)
        (hok.sweep ctx examId before turn)
      have hswept := map_sweep deviceOrigin (fun _ _ => rfl) ctx examId before turn
      exact ⟨hok', (Carried.of_map_eq (hswept _)).trans hcarried⟩
  | ensuresSession invite turn session examSessions _ _ ih => exact ih hfresh hok
  | keeps hsame _ =>
      rw [hsame.proctorDevices]
      exact ⟨hok, .refl _ _⟩
  | @putsDevice m invite input turn hturn _ _ =>
      have hfits : Fits (·.id) deviceKey m.proctorDevices
          (upsertProctorDeviceInStore m.proctorDevices invite input turn).1 :=
        upsertProctorDeviceInStore_fits (hfresh turn hturn)
      refine ⟨⟨hok.unique.putFirst hfits, fun device hdevice => ?_⟩,
        hok.unique.carried_putFirst hfits fun known hknown => ?_⟩
      · rcases mem_putFirst.mp hdevice with rfl | ⟨hold, -⟩
        · exact hasHeartbeat_upsert m.proctorDevices invite input turn
        · exact hok.connected device hold
      · exact deviceOrigin_upsert turn hknown
  | addsCandidate | makesReady | consents | acts | checks | verifies | savesDraft | runs
  | submits => exact ⟨hok, .refl _ _⟩

/-! ### Drafts -/

/-- The draft that a call has saved. -/
def savedDraft : PlatformResult → Option CodeDraft
  | .ok (.draft draft) => some draft
  | _ => none

/-- The search by the columns is the search by the key. -/
theorem find?_draftKey (drafts : List CodeDraft) (candidateId questionId language : String) :
    (drafts.find? fun draft =>
      draft.candidateId = candidateId ∧ draft.questionId = questionId ∧ draft.language = language)
      = drafts.find? (draftKey · = (candidateId, questionId, language)) := by
  refine List.find?_congr fun draft _ => ?_
  simp [draftKey]

/-- The draft has the identifier and the creation date of the one with its key. -/
theorem draftOrigin_save {drafts : List CodeDraft} {invite : CandidateInvite} {input : CodeInput}
    {known : CodeDraft} (turn : PlatformInput)
    (h : drafts.find? (draftKey · = (invite.candidate.id, input.questionId, input.language))
      = some known) :
    draftOrigin (saveCandidateCodeDraftInStore drafts invite input turn).1 = draftOrigin known := by
  have hkey : draftKey known = (invite.candidate.id, input.questionId, input.language) := by
    simpa using List.find?_some h
  unfold saveCandidateCodeDraftInStore
  simp only [find?_draftKey, h, Option.map_some, Option.getD_some]
  unfold draftOrigin
  rw [hkey]
  rfl

/-- Without a draft of its key it has a new identifier. -/
theorem saveCandidateCodeDraftInStore_new {drafts : List CodeDraft} {invite : CandidateInvite}
    {input : CodeInput} (turn : PlatformInput)
    (h : drafts.find? (draftKey · = (invite.candidate.id, input.questionId, input.language))
      = none) :
    (saveCandidateCodeDraftInStore drafts invite input turn).1.id = turn.createId "draft" 0 := by
  unfold saveCandidateCodeDraftInStore
  simp only [find?_draftKey, h, Option.map_none, Option.getD_none]

/-- The draft that is written has the key of its candidate, question and language. When it is a new
one, its identifier is fresh. -/
theorem saveCandidateCodeDraftInStore_fits {drafts : List CodeDraft} {invite : CandidateInvite}
    {input : CodeInput} {turn : PlatformInput}
    (hfresh : turn.createId "draft" 0 ∉ drafts.map (·.id)) :
    Fits (·.id) draftKey drafts (saveCandidateCodeDraftInStore drafts invite input turn).1 := by
  refine fits_of_find? (fun known hknown => ?_) fun hnone => ?_
  · exact congrArg Prod.fst (draftOrigin_save turn hknown)
  · rw [saveCandidateCodeDraftInStore_new turn hnone]
    exact hfresh

/-- What an operation does to the drafts, when the ones before are `drafts` and the ones after
are `drafts'`: a key finds the draft that the operation has saved, or what it found before. -/
structure DraftsSaved (r : PlatformResult) (drafts drafts' : List CodeDraft) : Prop where
  unique : Unique (·.id) draftKey drafts'
  carried : Carried draftOrigin drafts drafts'
  found : ∀ key, drafts'.find? (draftKey · = key)
    = ((savedDraft r).toList ++ drafts).find? (draftKey · = key)

/-- What an operation does to the drafts. Only a saved draft changes them, and the key then finds
it. -/
theorem drafts_of_writes (h : Writes ctx call turns m m' r)
    (hfresh : ∀ turn ∈ turns, turn.createId "draft" 0 ∉ m.codeDrafts.map (·.id))
    (hunique : Unique (·.id) draftKey m.codeDrafts) :
    DraftsSaved r m.codeDrafts m'.codeDrafts := by
  -- A call that saves no draft leaves the list.
  have hkept : ∀ {r : PlatformResult} {drafts : List CodeDraft}, savedDraft r = none →
      Unique (·.id) draftKey drafts → DraftsSaved r drafts drafts := by
    intro r drafts hnone hunique
    refine ⟨hunique, .refl _ _, fun key => ?_⟩
    rw [hnone]
    rfl
  have hrecord : ∀ {r : PlatformResult}, NoRecord r → savedDraft r = none := by
    intro r hr
    unfold savedDraft
    split
    · exact hr.elim
    · rfl
  induction h with
  | sweeps examId before turn _ ih => exact ih hfresh hunique
  | ensuresSession invite turn session examSessions _ _ ih => exact ih hfresh hunique
  | keeps hsame hr =>
      rw [hsame.codeDrafts]
      exact hkept (hrecord hr) hunique
  | consents _ _ hr => exact hkept (hrecord hr) hunique
  | @savesDraft m inviteToken invite input turn hturn hcall =>
      have hfits : Fits (·.id) draftKey m.codeDrafts
          (saveCandidateCodeDraftInStore m.codeDrafts invite input turn).1 :=
        saveCandidateCodeDraftInStore_fits (hfresh turn hturn)
      refine ⟨hunique.putFirst hfits, hunique.carried_putFirst hfits fun known hknown => ?_,
        fun key => ?_⟩
      · exact draftOrigin_save turn hknown
      · refine (hunique.find?_putFirst hfits key).trans ?_
        show _ = List.find? _ (_ :: m.codeDrafts)
        rw [List.find?_cons]
        by_cases hkey : draftKey (saveCandidateCodeDraftInStore m.codeDrafts invite input turn).1
            = key
        · simp only [hkey, if_true, decide_true]
        · simp only [hkey, if_false, decide_false]
  | addsCandidate | makesReady | acts | checks | verifies | putsDevice | runs | submits =>
      exact hkept rfl hunique

/-! ### Exam sessions -/

/-- A new session is for a candidate and an exam that had none. -/
theorem examSessionKeys_ensure {sessions sessions' : List ExamSession} {invite : CandidateInvite}
    {turn : PlatformInput} {session : ExamSession}
    (h : ensureMemoryExamSession ctx sessions invite turn = .ok (session, sessions'))
    (hunique : (sessions.map examSessionKey).Nodup) : (sessions'.map examSessionKey).Nodup := by
  unfold ensureMemoryExamSession at h
  dsimp only at h
  split at h
  · cases h
    exact hunique
  · rename_i hnone
    obtain ⟨endsAt, -, h⟩ := bind_eq_ok.mp h
    cases h
    refine List.nodup_cons.mpr ⟨fun hmem => ?_, hunique⟩
    obtain ⟨known, hknown, hkey⟩ := List.mem_map.mp hmem
    have hcolumns : known.candidateId = invite.candidate.id ∧ known.examId = invite.exam.id :=
      Prod.mk.inj hkey
    exact List.find?_eq_none.mp hnone known hknown (decide_eq_true hcolumns)

/-- An operation keeps one session for each candidate and exam: it looks for one before it starts
one. -/
theorem examSessions_of_writes (h : Writes ctx call turns m m' r)
    (hunique : (m.examSessions.map examSessionKey).Nodup) :
    (m'.examSessions.map examSessionKey).Nodup := by
  induction h with
  | sweeps examId before turn _ ih => exact ih hunique
  | ensuresSession invite turn session examSessions hensure _ ih =>
      exact ih (examSessionKeys_ensure hensure hunique)
  | keeps hsame _ =>
      rw [hsame.examSessions]
      exact hunique
  | addsCandidate | makesReady | consents | acts | checks | verifies | putsDevice | savesDraft
  | runs | submits => exact hunique

/-! ### The other records -/

/-- The action that a call has created. -/
def createdAction : PlatformResult → Option ProctorAction
  | .ok (.proctorAction action) => some action
  | _ => none

/-- The run of a call, as the candidate sees it. -/
def ranCode : PlatformResult → Option CodeExecution
  | .ok (.codeExecution execution) => some execution
  | _ => none

/-- The submission of a call, as the candidate sees it. -/
def submittedCode : PlatformResult → Option Submission
  | .ok (.submission submission) => some submission
  | _ => none

/-- The date of the record that a call has put to the front of its array. -/
def recordDate : PlatformResult → Option String
  | .ok (.environmentCheck check) => some check.createdAt
  | .ok (.identityVerification verification) => some verification.createdAt
  | .ok (.proctorAction action) => some action.createdAt
  | .ok (.codeExecution execution) => some execution.createdAt
  | .ok (.submission submission) => some submission.submittedAt
  | _ => none

/-- What an operation adds to the actions, the runs and the submissions. The date of a record is
the clock of a turn of its operation. -/
structure RecordsAdded (turns : List PlatformInput) (m m' : PlatformMemory) (r : PlatformResult) :
    Prop where
  actions : m'.proctorActions = (createdAction r).toList ++ m.proctorActions
  executions : m'.codeExecutions.map toCandidateCodeExecution
    = (ranCode r).toList ++ m.codeExecutions.map toCandidateCodeExecution
  submissions : m'.submissions.map toCandidateSubmission
    = (submittedCode r).toList ++ m.submissions.map toCandidateSubmission
  date : ∀ date, recordDate r = some date → ∃ turn ∈ turns, date = turn.nowIso

/-- A result that is no record adds none, as long as the arrays of records are the same. -/
theorem RecordsAdded.kept (hsame : SameRecords m m') (h : NoRecord r) :
    RecordsAdded turns m m' r := by
  have hnone : createdAction r = none ∧ ranCode r = none ∧ submittedCode r = none ∧
      recordDate r = none := by
    unfold createdAction ranCode submittedCode recordDate
    refine ⟨?_, ?_, ?_, ?_⟩ <;> split <;> first | rfl | exact h.elim
  obtain ⟨haction, hrun, hsubmitted, hdate⟩ := hnone
  refine ⟨?_, ?_, ?_, fun date hsome => ?_⟩
  · rw [hsame.proctorActions, haction]
    rfl
  · rw [hsame.codeExecutions, hrun]
    rfl
  · rw [hsame.submissions, hsubmitted]
    rfl
  · rw [hdate] at hsome
    cases hsome

/-- What an operation adds to the other arrays, by the cases of what it writes. -/
theorem records_of_writes (h : Writes ctx call turns m m' r) : RecordsAdded turns m m' r := by
  induction h with
  | sweeps examId before turn _ ih => exact ⟨ih.actions, ih.executions, ih.submissions, ih.date⟩
  | ensuresSession invite turn session examSessions _ _ ih =>
      exact ⟨ih.actions, ih.executions, ih.submissions, ih.date⟩
  | keeps hsame hr => exact .kept hsame hr
  | @consents m r _ _ hr =>
      have hkept : RecordsAdded turns m m r := .kept (.refl m) hr
      exact ⟨hkept.actions, hkept.executions, hkept.submissions, hkept.date⟩
  | acts action hdate | checks check hdate | verifies verification hdate
  | runs execution hdate | submits _ submission hdate =>
      refine ⟨rfl, rfl, rfl, fun date hsome => ?_⟩
      cases hsome
      exact hdate
  | addsCandidate | makesReady | putsDevice | savesDraft =>
      exact ⟨rfl, rfl, rfl, fun date hsome => by cases hsome⟩

/-- A draft that is saved has the question, the language and the code of the request. By induction
on the writes of the operation. -/
theorem savedDraft_of_writes (h : Writes ctx call turns m m' r) {draft : CodeDraft}
    (hdraft : savedDraft r = some draft) :
    ∃ inviteToken input,
      call = .withInvite inviteToken (.code .saveCandidateCodeDraft input) ∧
      draft.questionId = input.questionId ∧ draft.language = input.language ∧
      draft.code = input.code := by
  induction h with
  | sweeps examId before turn _ ih => exact ih hdraft
  | ensuresSession invite turn session examSessions _ _ ih => exact ih hdraft
  | keeps _ hr | consents _ _ hr =>
      unfold savedDraft at hdraft
      split at hdraft
      · exact hr.elim
      · cases hdraft
  | savesDraft inviteToken invite input turn _ hcall =>
      cases hdraft
      exact ⟨inviteToken, input, hcall, rfl, rfl, rfl⟩
  | addsCandidate | makesReady | acts | checks | verifies | putsDevice | runs | submits =>
      cases hdraft

end

/-! ### Runs of operations -/

/-- The draft that was saved last for a candidate, a question and a language. -/
def lastSavedDraft (past : List PerformedOperation) (key : String × String × String) :
    Option CodeDraft :=
  (past.filterMap fun performed => savedDraft performed.result).find? (draftKey · = key)

/-- What the arrays of the store say about its past. The log of operations is newest first, and so
are the arrays that are a part of it. -/
structure MemoryRepresents (store : SequentialStore) : Prop where
  devices : DevicesOk store.memory.proctorDevices
  drafts : Unique (·.id) draftKey store.memory.codeDrafts
  lastSaved : ∀ key,
    store.memory.codeDrafts.find? (draftKey · = key) = lastSavedDraft store.past key
  savedCode : ∀ performed ∈ store.past, ∀ draft, savedDraft performed.result = some draft →
    ∃ inviteToken input,
      performed.operation.call = .withInvite inviteToken (.code .saveCandidateCodeDraft input) ∧
      draft.questionId = input.questionId ∧ draft.language = input.language ∧
      draft.code = input.code
  sessions : (store.memory.examSessions.map examSessionKey).Nodup
  verifications : store.memory.identityVerifications
    = store.past.filterMap fun performed => storedVerification performed.result
  checks : store.memory.environmentChecks
    = store.past.filterMap fun performed => savedCheck performed.result
  actions : store.memory.proctorActions
    = store.past.filterMap fun performed => createdAction performed.result
  submissions : store.memory.submissions.map toCandidateSubmission
    = store.past.filterMap fun performed => submittedCode performed.result
  executions : store.memory.codeExecutions.map toCandidateCodeExecution
    = store.past.filterMap fun performed => ranCode performed.result
  dates : ∀ performed ∈ store.past, ∀ date, recordDate performed.result = some date →
    ∃ turn ∈ performed.operation.turns, date = turn.nowIso

/-- `createId` draws new identifiers for devices and drafts. -/
structure FreshIds (store : SequentialStore) (operation : PlatformOperation) : Prop where
  devices : FreshDeviceIds operation.turns store.memory.proctorDevices
  drafts : ∀ turn ∈ operation.turns,
    turn.createId "draft" 0 ∉ store.memory.codeDrafts.map (·.id)

/-- The devices and the drafts stay, with their identifier, their key and their creation date. -/
structure RecordsStay (m m' : PlatformMemory) : Prop where
  devices : Carried deviceOrigin m.proctorDevices m'.proctorDevices
  drafts : Carried draftOrigin m.codeDrafts m'.codeDrafts

section
variable {ctx : PlatformContext} {store store' : SequentialStore} {operation : PlatformOperation}

/-- What an operation keeps: the arrays of the memory are those of the log with one more entry, and
no record is lost. -/
theorem memoryRepresents_step (hinv : MemoryRepresents store) (hfresh : FreshIds store operation)
    (h : (sequentialStore ctx).step store operation = some store') :
    MemoryRepresents store' ∧ RecordsStay store.memory store'.memory := by
  obtain ⟨⟨m', r⟩, hperform, rfl⟩ := Option.map_eq_some_iff.mp h
  have hwrites := perform_writes hperform
  have heffect := effect_of_writes hwrites
  have hrecords := records_of_writes hwrites
  have hdrafts := drafts_of_writes hwrites hfresh.drafts hinv.drafts
  obtain ⟨hdevices, hstay⟩ := devices_of_writes hwrites hfresh.devices hinv.devices
  -- Each array against the log with one more entry: the operation puts in front exactly what it
  -- returns.
  refine ⟨⟨hdevices, hdrafts.unique, fun key => ?_, ?_, examSessions_of_writes hwrites hinv.sessions,
    ?_, ?_, ?_, ?_, ?_, ?_⟩, ⟨hstay, hdrafts.carried⟩⟩
  · unfold lastSavedDraft
    rw [past_filterMap_cons, hdrafts.found key, List.find?_append, List.find?_append,
      hinv.lastSaved key]
    rfl
  · intro performed hperformed draft hdraft
    rcases List.mem_cons.mp hperformed with rfl | hold
    · exact savedDraft_of_writes hwrites hdraft
    · exact hinv.savedCode performed hold draft hdraft
  · rw [past_filterMap_cons, heffect.verifications, hinv.verifications]
  · rw [past_filterMap_cons, heffect.checks, hinv.checks]
  · rw [past_filterMap_cons, hrecords.actions, hinv.actions]
  · rw [past_filterMap_cons, hrecords.submissions, hinv.submissions]
  · rw [past_filterMap_cons, hrecords.executions, hinv.executions]
  · intro performed hperformed date hdate
    rcases List.mem_cons.mp hperformed with rfl | hold
    · exact hrecords.date date hdate
    · exact hinv.dates performed hold date hdate

/-- The seed of a new process represents the empty past: there is no device, no draft and no
session, and the arrays of records are empty. -/
theorem memoryRepresents_initial (now : Int) :
    MemoryRepresents { memory := createPlatformSeedData now } where
  devices := ⟨.nil, fun device hdevice => by cases hdevice⟩
  drafts := .nil
  lastSaved := fun _ => rfl
  savedCode := fun performed hperformed => by cases hperformed
  sessions := List.nodup_nil
  verifications := rfl
  checks := rfl
  actions := rfl
  submissions := rfl
  executions := rfl
  dates := fun performed hperformed => by cases hperformed

/-- Every run of operations, from a state that stands for its past. -/
theorem memoryRepresents_run {operations : List PlatformOperation} (hinv : MemoryRepresents store)
    (hfresh : (sequentialStore ctx).Meets FreshIds store operations)
    (h : (sequentialStore ctx).run store operations = some store') :
    MemoryRepresents store' ∧ RecordsStay store.memory store'.memory := by
  have hinvariant := Machine.guarded_invariant (M := sequentialStore ctx) (C := FreshIds)
    (I := fun later => MemoryRepresents later ∧ RecordsStay store.memory later.memory)
    (fun s operation s' hs hfresh hstep => by
      obtain ⟨hrepresents, hstay⟩ := memoryRepresents_step hs.1 hfresh hstep
      exact ⟨hrepresents, hs.2.devices.trans hstay.devices, hs.2.drafts.trans hstay.drafts⟩)
    operations store store'
  exact hinvariant ⟨hinv, .refl _ _, .refl _ _⟩ hfresh h

end

/-- After every run of operations the arrays say what the past says, and whatever devices and
drafts were there before a part of the run are there after it. -/
theorem memory_represents_past (ctx : PlatformContext) (now : Int)
    (operations later : List PlatformOperation) (store store' : SequentialStore)
    (hfresh : (sequentialStore ctx).Meets FreshIds { memory := createPlatformSeedData now }
      (operations ++ later))
    (hrun : (sequentialStore ctx).run { memory := createPlatformSeedData now } operations
      = some store)
    (hlater : (sequentialStore ctx).run store later = some store') :
    MemoryRepresents store ∧ MemoryRepresents store' ∧
      RecordsStay store.memory store'.memory := by
  obtain ⟨hbefore, hafter⟩ := hfresh.after hrun
  have hinv := (memoryRepresents_run (memoryRepresents_initial now) hbefore hrun).1
  obtain ⟨hinv', hstay⟩ := memoryRepresents_run hinv hafter hlater
  exact ⟨hinv, hinv', hstay⟩

/-! ### A device and a draft that are written twice -/

instance (turns : List PlatformInput) (devices : List ProctorDevice) :
    Decidable (FreshDeviceIds turns devices) :=
  inferInstanceAs (Decidable (∀ turn ∈ turns,
    turn.createId "proctor_device" 0 ∉ devices.map (·.id)))

instance (store : SequentialStore) (operation : PlatformOperation) :
    Decidable (FreshIds store operation) :=
  decidable_of_iff (FreshDeviceIds operation.turns store.memory.proctorDevices ∧
      ∀ turn ∈ operation.turns, turn.createId "draft" 0 ∉ store.memory.codeDrafts.map (·.id))
    ⟨fun h => ⟨h.1, h.2⟩, fun h => ⟨h.devices, h.drafts⟩⟩

/-- The process of the examples, with the name of the language in small letters. -/
def draftContext : PlatformContext :=
  { workspaceContext with
    host := { workspaceContext.host with
      text := { toLowerCase := fun text => if text = "Python" then "python" else text
                toUpperCase := id } } }

/-- The demo candidate saves a draft. -/
def saveDemoDraft (uuids : List String) (code : String) : PlatformOperation :=
  operationAt 90000000 uuids 7 (.withInvite "invite_demo_001" (.code .saveCandidateCodeDraft
    { questionId := "question_cache_001", language := "python", code }))

/-- The draft is saved again, and the device reports again. -/
def demoRepeats : List PlatformOperation :=
  [saveDemoDraft ["2"] "second",
    operationAt 90000000 ["2"] 2 (.upsertProctorDevice "invite_demo_001"
      { role := .mobileAux, status := .disconnected })]

/-- The run of the examples, and what is stored before and after its last operations. -/
def demoRepeatsRun : Option (SequentialStore × SequentialStore) :=
  ((sequentialStore draftContext).run { memory := createPlatformSeedData 0 }
    (demoOperations ++ [saveDemoDraft ["1"] "first"])).bind fun store =>
      ((sequentialStore draftContext).run store demoRepeats).map fun store' => (store, store')

/-- The run of the example goes through. The draft is replaced, and there is one device. -/
theorem demoRepeats_check :
    (demoRepeatsRun.any fun run =>
      decide (run.1.memory.codeDrafts.map (·.code) = ["first"]) &&
        decide (run.2.memory.codeDrafts.map (·.code) = ["second"]) &&
        decide (run.2.memory.proctorDevices.length = 1)) = true := by
  decide +kernel

/-- The identifiers that the run draws are new ones. -/
theorem demoRepeats_fresh :
    (sequentialStore draftContext).Meets FreshIds { memory := createPlatformSeedData 0 }
      ((demoOperations ++ [saveDemoDraft ["1"] "first"]) ++ demoRepeats) := by
  decide +kernel

/-- In the run of the examples the draft and the device are the same ones at the end. -/
theorem memory_represents_past_demo :
    ∃ store store' : SequentialStore,
      store.memory.codeDrafts.map (·.code) = ["first"] ∧
      store'.memory.codeDrafts.map (·.code) = ["second"] ∧
      store'.memory.proctorDevices.length = 1 ∧
      MemoryRepresents store' ∧ RecordsStay store.memory store'.memory := by
  obtain ⟨⟨store, store'⟩, hrun, hcheck⟩ := (Option.any_eq_true _ _).mp demoRepeats_check
  simp only [Bool.and_eq_true, decide_eq_true_eq] at hcheck
  obtain ⟨⟨hfirst, hsecond⟩, hdevices⟩ := hcheck
  obtain ⟨before, hbefore, hafter⟩ := Option.bind_eq_some_iff.mp hrun
  obtain ⟨after, hlater, hpair⟩ := Option.map_eq_some_iff.mp hafter
  cases hpair
  obtain ⟨-, hrepresents, hstay⟩ := memory_represents_past draftContext 0
    (demoOperations ++ [saveDemoDraft ["1"] "first"]) demoRepeats store store' demoRepeats_fresh
    hbefore hlater
  exact ⟨store, store', hfirst, hsecond, hdevices, hrepresents, hstay⟩

end Dcvp.Proofs
