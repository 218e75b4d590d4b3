import Dcvp.Proofs.MemoryWrites

/-!
# `Dcvp.Proofs.WorkspaceGate`: what a candidate has done before the workspace opens

Whole runs of operations of the platform store in memory mode, one after the other
(`sequentialStore`). `workspace_gate` says what holds when an operation of the workspace
succeeds, in terms of the operations of the past.

`Effect` says what an operation does to the four arrays that the gate reads: the candidates, the
devices, the environment checks and the verifications. It follows from what the operation writes
(`Writes`). `GateInvariant` follows from it for every run: the arrays say what the past says.
-/

set_option autoImplicit false

namespace Dcvp.Proofs

open Dcvp.Lib
open Dcvp.Shared
open Dcvp.Services.PlatformStore

/-! ### What an operation does -/

/-- The call has let the candidate in. -/
def MakesReady (call : PlatformCall) (r : PlatformResult) (inviteToken : String) : Prop :=
  call = .markCandidateReady inviteToken ∧ ∃ invite, r = .ok (.ready invite)

/-- A candidate after a call. The status stays, or the call lets the candidate in, or a
candidate with this identifier was let in before. -/
structure SameCandidate (call : PlatformCall) (r : PlatformResult) (before : List Candidate)
    (candidate candidate' : Candidate) : Prop where
  id : candidate'.id = candidate.id
  examId : candidate'.examId = candidate.examId
  inviteToken : candidate'.inviteToken = candidate.inviteToken
  status : candidate'.status = candidate.status ∨ MakesReady call r candidate.inviteToken ∨
    ∃ known ∈ before, known.id = candidate.id ∧ known.status ≠ .invited

/-- The candidates after a call: a new one is invited, the others are the same. -/
inductive CandidatesChange (call : PlatformCall) (turns : List PlatformInput)
    (r : PlatformResult) (before : List Candidate) : List Candidate → Prop
  | added (candidate : Candidate)
      (hcall : ∃ session examId input, call = .examAdmin session (.addCandidate examId input))
      (hid : ∃ turn ∈ turns, candidate.id = turn.createId "candidate" 0)
      (hstatus : candidate.status = .invited) :
      CandidatesChange call turns r before (before ++ [candidate])
  | changed (f : Candidate → Candidate)
      (hf : ∀ candidate ∈ before, SameCandidate call r before candidate (f candidate)) :
      CandidatesChange call turns r before (before.map f)

/-- Where a device comes from: it was there and is connected only if it was, or a request for a
candidate has put it there. -/
inductive DeviceOrigin (turns : List PlatformInput) (m : PlatformMemory)
    (device : ProctorDevice) : Prop
  | old (known : ProctorDevice) (hknown : known ∈ m.proctorDevices)
      (hcandidate : known.candidateId = device.candidateId) (hexam : known.examId = device.examId)
      (hconnected : device.status = .connected → known = device)
  | requested (candidate : Candidate) (hcandidate : candidate ∈ m.candidates)
      (hid : candidate.id = device.candidateId) (hexam : candidate.examId = device.examId)
      (hconnected : device.status = .connected →
        ∃ turn ∈ turns, device.lastHeartbeatAt = some turn.nowIso)

/-- What a call does to the arrays that the gate reads. -/
structure Effect (call : PlatformCall) (turns : List PlatformInput) (m m' : PlatformMemory)
    (r : PlatformResult) : Prop where
  checks : m'.environmentChecks = (savedCheck r).toList ++ m.environmentChecks
  verifications : m'.identityVerifications =
    (storedVerification r).toList ++ m.identityVerifications
  candidates : CandidatesChange call turns r m.candidates m'.candidates
  devices : ∀ device ∈ m'.proctorDevices, DeviceOrigin turns m device

/-- A device after a sweep: it was there, and if it is connected it was not stale. -/
theorem device_of_sweep {ctx : PlatformContext} {examId : String} {before : Option Int}
    {turn : PlatformInput} {m : PlatformMemory} {device : ProctorDevice}
    (h : device ∈ (m.sweep ctx examId before turn).proctorDevices) :
    ∃ known ∈ m.proctorDevices, known.candidateId = device.candidateId ∧
      known.examId = device.examId ∧ (device.status = .connected →
        known = device ∧ known ∉ staleDevices ctx m.proctorDevices examId before) := by
  have hmem : device ∈ mapWhere
      (fun item => (staleDevices ctx m.proctorDevices examId before).any (·.id = item.id))
      (disconnectStale · turn.nowIso) m.proctorDevices := by
    rw [sweep_eq ctx examId before turn _ rfl] at h
    exact h
  obtain ⟨known, hknown, rfl⟩ := List.mem_map.mp hmem
  by_cases hstale : (staleDevices ctx m.proctorDevices examId before).any (·.id = known.id) = true
  · rw [if_pos hstale]
    exact ⟨known, hknown, rfl, rfl, fun hconnected => by cases hconnected⟩
  · rw [if_neg hstale]
    refine ⟨known, hknown, rfl, rfl, fun _ => ⟨rfl, fun hin => hstale ?_⟩⟩
    exact List.any_eq_true.mpr ⟨known, hin, decide_eq_true rfl⟩

section
variable {call : PlatformCall} {turns : List PlatformInput} {m m' : PlatformMemory}
  {r : PlatformResult}

/-- A candidate whom nothing has changed. -/
theorem SameCandidate.refl (before : List Candidate) (candidate : Candidate) :
    SameCandidate call r before candidate candidate := ⟨rfl, rfl, rfl, .inl rfl⟩

/-- A call that leaves the candidates. -/
theorem CandidatesChange.refl (before : List Candidate) :
    CandidatesChange call turns r before before := by
  have h : CandidatesChange call turns r before (before.map id) :=
    .changed id fun candidate _ => SameCandidate.refl before candidate
  rwa [List.map_id] at h

/-- When some of the candidates are changed in place, the list changes as allowed if each of these
changes is allowed. -/
theorem CandidatesChange.mapWhere (p : Candidate → Bool) (f : Candidate → Candidate)
    {before : List Candidate}
    (hf : ∀ candidate ∈ before, p candidate = true →
      SameCandidate call r before candidate (f candidate)) :
    CandidatesChange call turns r before (mapWhere p f before) := by
  refine .changed _ fun candidate hcandidate => ?_
  by_cases hp : p candidate = true
  · rw [if_pos hp]
    exact hf candidate hcandidate hp
  · rw [if_neg hp]
    exact .refl before candidate

/-- A device that was there as it is. -/
theorem DeviceOrigin.refl {device : ProctorDevice} (h : device ∈ m.proctorDevices) :
    DeviceOrigin turns m device := .old device h rfl rfl fun _ => rfl

/-- A call that leaves the four arrays of the gate alone, and reports no check and no verification,
has an allowed effect. -/
theorem Effect.kept (hcandidates : m'.candidates = m.candidates)
    (hdevices : m'.proctorDevices = m.proctorDevices)
    (hchecks : m'.environmentChecks = m.environmentChecks)
    (hverifications : m'.identityVerifications = m.identityVerifications)
    (hcheck : savedCheck r = none) (hverification : storedVerification r = none) :
    Effect call turns m m' r where
  checks := by rw [hcheck, hchecks]; rfl
  verifications := by rw [hverification, hverifications]; rfl
  candidates := by
    rw [hcandidates]
    exact .refl m.candidates
  devices := fun device hdevice => .refl (hdevices ▸ hdevice)

/-- What was done before is seen in other arrays only, so the effect of the rest is that of the
whole call. -/
theorem Effect.after {m₁ : PlatformMemory} (h : Effect call turns m₁ m' r)
    (hcandidates : m₁.candidates = m.candidates)
    (hdevices : m₁.proctorDevices = m.proctorDevices)
    (hchecks : m₁.environmentChecks = m.environmentChecks)
    (hverifications : m₁.identityVerifications = m.identityVerifications) :
    Effect call turns m m' r where
  checks := hchecks ▸ h.checks
  verifications := hverifications ▸ h.verifications
  candidates := hcandidates ▸ h.candidates
  devices := by
    intro device hdevice
    cases h.devices device hdevice with
    | old known hknown hcandidate hexam hconnected =>
        exact .old known (hdevices ▸ hknown) hcandidate hexam hconnected
    | requested candidate hmem hid hexam hconnected =>
        exact .requested candidate (hcandidates ▸ hmem) hid hexam hconnected

/-- A sweep comes before the rest of the call: it disconnects devices, and a device that is
connected afterwards was connected before. -/
theorem Effect.after_sweep {ctx : PlatformContext} {examId : String} {before : Option Int}
    {turn : PlatformInput} (h : Effect call turns (m.sweep ctx examId before turn) m' r) :
    Effect call turns m m' r where
  checks := h.checks
  verifications := h.verifications
  candidates := h.candidates
  devices := by
    intro device hdevice
    cases h.devices device hdevice with
    | old known hknown hcandidate hexam hconnected =>
        obtain ⟨first, hfirst, hsame⟩ := device_of_sweep hknown
        refine .old first hfirst (hsame.1.trans hcandidate) (hsame.2.1.trans hexam) fun hon => ?_
        have hstay := hconnected hon
        exact (hsame.2.2 (hstay ▸ hon)).1.trans hstay
    | requested candidate hmem hid hexam hconnected =>
        exact .requested candidate hmem hid hexam hconnected

end

/-- What a write does to the four arrays. The sweep comes before it. -/
theorem effect_of_writes {ctx : PlatformContext} {call : PlatformCall}
    {turns : List PlatformInput} {m m' : PlatformMemory} {r : PlatformResult}
    (h : Writes ctx call turns m m' r) : Effect call turns m m' r := by
  induction h with
  -- Sweeps and new exam sessions come before the write itself.
  | sweeps examId before turn _ ih => exact ih.after_sweep
  | ensuresSession invite turn session examSessions _ _ ih => exact ih.after rfl rfl rfl rfl
  | keeps hsame hrecord =>
      exact .kept hsame.candidates hsame.proctorDevices hsame.environmentChecks
        hsame.identityVerifications (savedCheck_of_noRecord hrecord)
        (storedVerification_of_noRecord hrecord)
  | addsCandidate candidate hcall hid hstatus =>
      exact ⟨rfl, rfl, .added candidate hcall hid hstatus, fun device hdevice => .refl hdevice⟩
  | makesReady inviteToken invite hcall =>
      refine ⟨rfl, rfl, .mapWhere _ _ fun candidate _ hhas => ?_,
        fun device hdevice => .refl hdevice⟩
      have htoken : candidate.inviteToken = inviteToken := of_decide_eq_true hhas
      exact ⟨rfl, rfl, rfl, .inr (.inl ⟨by rw [hcall, htoken], invite, rfl⟩)⟩
  | consents candidateId acceptedAt hrecord =>
      refine ⟨?_, ?_, .mapWhere _ _ fun _ _ _ => ⟨rfl, rfl, rfl, .inl rfl⟩,
        fun device hdevice => .refl hdevice⟩
      · rw [savedCheck_of_noRecord hrecord]
        rfl
      · rw [storedVerification_of_noRecord hrecord]
        rfl
  | putsDevice invite input turn hturn hcandidate hexam =>
      refine ⟨rfl, rfl, .refl _, fun device hdevice => ?_⟩
      rcases List.mem_cons.mp hdevice with rfl | hold
      · refine .requested invite.candidate hcandidate rfl hexam.symm fun hconnected => ?_
        -- Only a request that reports a connection makes a device connected.
        have hstatus : input.status = .connected := hconnected
        refine ⟨turn, hturn, ?_⟩
        show (if input.status = .connected then some turn.nowIso else _) = some turn.nowIso
        rw [if_pos hstatus]
      · exact .refl (List.mem_filter.mp hold).1
  | submits invite submission _ hcandidate hentered =>
      refine ⟨rfl, rfl, .mapWhere _ _ fun candidate _ hhas => ?_,
        fun device hdevice => .refl hdevice⟩
      have hid : candidate.id = invite.candidate.id := of_decide_eq_true hhas
      exact ⟨rfl, rfl, rfl, .inr (.inr ⟨invite.candidate, hcandidate, hid.symm, hentered⟩)⟩
  | acts | checks | verifies | savesDraft | runs =>
      exact ⟨rfl, rfl, .refl _, fun device hdevice => .refl hdevice⟩

/-- What an operation does, whatever it is. -/
theorem perform_effect {ctx : PlatformContext} {operation : PlatformOperation}
    {m m' : PlatformMemory} {r : PlatformResult}
    (h : perform ctx m operation = some (m', r)) :
    Effect operation.call operation.turns m m' r := effect_of_writes (perform_writes h)

/-! ### Runs of operations -/

/-- The environment check that was saved last for the candidate. -/
def lastEnvironmentCheck (past : List PerformedOperation) (candidateId : String) :
    Option EnvironmentCheck :=
  (past.filterMap fun performed => savedCheck performed.result).find?
    (·.candidateId = candidateId)

/-- The verification that was stored last for the candidate. -/
def lastIdentityVerification (past : List PerformedOperation) (candidateId : String) :
    Option IdentityVerification :=
  (past.filterMap fun performed => storedVerification performed.result).find?
    (·.candidateId = candidateId)

/-- What one more operation adds to a log. -/
theorem past_filterMap_cons {α : Type} (f : PlatformResult → Option α)
    (operation : PlatformOperation) (r : PlatformResult) (past : List PerformedOperation) :
    ((⟨operation, r⟩ : PerformedOperation) :: past).filterMap
        (fun performed => f performed.result)
      = (f r).toList ++ past.filterMap fun performed => f performed.result := by
  rw [List.filterMap_cons]
  cases f r <;> simp

/-- `markCandidateReady` has succeeded with the token. -/
def WasMadeReady (past : List PerformedOperation) (inviteToken : String) : Prop :=
  ∃ performed ∈ past, MakesReady performed.operation.call performed.result inviteToken

/-- What the arrays of the store say about its past. -/
structure GateInvariant (ctx : PlatformContext) (store : SequentialStore) : Prop where
  checks : store.memory.environmentChecks
    = store.past.filterMap fun performed => savedCheck performed.result
  verifications : store.memory.identityVerifications
    = store.past.filterMap fun performed => storedVerification performed.result
  ids : (store.memory.candidates.map (·.id)).Nodup
  entered : ∀ candidate ∈ store.memory.candidates, candidate.status ≠ .invited →
    WasMadeReady store.past candidate.inviteToken
  devices : ∀ device ∈ store.memory.proctorDevices,
    (∃ candidate ∈ store.memory.candidates, candidate.id = device.candidateId ∧
      candidate.examId = device.examId) ∧
    (device.status = .connected → ∃ heartbeat,
      device.lastHeartbeatAt = some (Js.toISOString heartbeat) ∧
      ctx.dateParse (Js.toISOString heartbeat) = some heartbeat)

/-- What the runtime promises for an operation: `crypto.randomUUID` draws no identifier of a
candidate that is there, and `Date.parse` reads the dates that the operation prints. -/
structure Promised (ctx : PlatformContext) (store : SequentialStore)
    (operation : PlatformOperation) : Prop where
  fresh : ∀ session examId input, operation.call = .examAdmin session (.addCandidate examId input) →
    ∀ turn ∈ operation.turns,
      turn.createId "candidate" 0 ∉ store.memory.candidates.map (·.id)
  parsed : ∀ turn ∈ operation.turns,
    ctx.dateParse (Js.toISOString turn.now) = some turn.now

section
variable {ctx : PlatformContext} {store store' : SequentialStore} {operation : PlatformOperation}
  {call : PlatformCall} {turns : List PlatformInput} {m' : PlatformMemory} {r : PlatformResult}

/-- A candidate after an operation, and the one before it. -/
theorem candidate_of_change {before after : List Candidate}
    (h : CandidatesChange call turns r before after) {candidate : Candidate}
    (hmem : candidate ∈ after) (hentered : candidate.status ≠ .invited) :
    ∃ old ∈ before, SameCandidate call r before old candidate := by
  cases h with
  | added added _ _ hstatus =>
      rcases List.mem_append.mp hmem with hold | hnew
      · exact ⟨candidate, hold, .refl before candidate⟩
      · rw [List.mem_singleton.mp hnew] at hentered
        exact absurd hstatus hentered
  | changed f hf =>
      obtain ⟨old, hold, rfl⟩ := List.mem_map.mp hmem
      exact ⟨old, hold, hf old hold⟩

/-- A candidate stays, with its identifier and its exam. -/
theorem candidate_stays {before after : List Candidate}
    (h : CandidatesChange call turns r before after) {candidate : Candidate}
    (hmem : candidate ∈ before) :
    ∃ later ∈ after, later.id = candidate.id ∧ later.examId = candidate.examId := by
  cases h with
  | added added _ _ _ => exact ⟨candidate, List.mem_append_left _ hmem, rfl, rfl⟩
  | changed f hf =>
      exact ⟨f candidate, List.mem_map_of_mem hmem, (hf candidate hmem).id,
        (hf candidate hmem).examId⟩

/-- The identifiers of the candidates stay different: a change keeps them, and a new candidate has
a fresh one. -/
theorem nodup_of_change {before after : List Candidate}
    (h : CandidatesChange call turns r before after) (hbefore : (before.map (·.id)).Nodup)
    (hfresh : ∀ session examId input, call = .examAdmin session (.addCandidate examId input) →
      ∀ turn ∈ turns, turn.createId "candidate" 0 ∉ before.map (·.id)) :
    (after.map (·.id)).Nodup := by
  cases h with
  | added added hcall hid _ =>
      obtain ⟨session, examId, input, hcall⟩ := hcall
      obtain ⟨turn, hturn, hid⟩ := hid
      have hnew := hfresh session examId input hcall turn hturn
      rw [← hid] at hnew
      rw [List.map_append, List.map_singleton]
      exact hbefore.append (List.nodup_singleton _) (List.disjoint_singleton.mpr hnew)
  | changed f hf =>
      have hids : (before.map f).map (·.id) = before.map (·.id) := by
        rw [List.map_map]
        exact List.map_congr_left fun candidate hcandidate => (hf candidate hcandidate).id
      rw [hids]
      exact hbefore

/-- What an operation keeps of the invariant: every record that the gate looks at goes back to a
past call. -/
theorem gateInvariant_step (hinv : GateInvariant ctx store)
    (hpromised : Promised ctx store operation)
    (h : (sequentialStore ctx).step store operation = some store') :
    GateInvariant ctx store' := by
  obtain ⟨⟨m', r⟩, hperform, rfl⟩ := Option.map_eq_some_iff.mp h
  have heffect := perform_effect hperform
  refine ⟨?_, ?_, ?_, ?_, ?_⟩
  · show m'.environmentChecks = _
    rw [heffect.checks, hinv.checks]
    exact (past_filterMap_cons savedCheck operation r store.past).symm
  · show m'.identityVerifications = _
    rw [heffect.verifications, hinv.verifications]
    exact (past_filterMap_cons storedVerification operation r store.past).symm
  · exact nodup_of_change heffect.candidates hinv.ids hpromised.fresh
  · intro candidate hcandidate hentered
    obtain ⟨old, hold, hsame⟩ := candidate_of_change heffect.candidates hcandidate hentered
    rw [hsame.inviteToken]
    have hkept : WasMadeReady store.past old.inviteToken →
        WasMadeReady (⟨operation, r⟩ :: store.past) old.inviteToken := by
      rintro ⟨performed, hperformed, hready⟩
      exact ⟨performed, List.mem_cons_of_mem _ hperformed, hready⟩
    rcases hsame.status with hstatus | hready | ⟨known, hknown, hid, hstatus⟩
    · exact hkept (hinv.entered old hold (hstatus ▸ hentered))
    · exact ⟨_, List.mem_cons_self, hready⟩
    · -- The identifiers are different, so this is the candidate itself.
      have heq : known = old := List.inj_on_of_nodup_map hinv.ids hknown hold hid
      exact hkept (hinv.entered old hold (heq ▸ hstatus))
  · intro device hdevice
    cases heffect.devices device hdevice with
    | old known hknown hcandidate hexam hconnected =>
        obtain ⟨⟨candidate, hin, hid, hfor⟩, hheartbeat⟩ := hinv.devices known hknown
        obtain ⟨later, hlater, hid', hexam'⟩ := candidate_stays heffect.candidates hin
        refine ⟨⟨later, hlater, ?_, ?_⟩, fun hon => ?_⟩
        · rw [hid', hid, hcandidate]
        · rw [hexam', hfor, hexam]
        · have hsame := hconnected hon
          rw [← hsame] at hon ⊢
          exact hheartbeat hon
    | requested candidate hin hid hexam hconnected =>
        obtain ⟨later, hlater, hid', hexam'⟩ := candidate_stays heffect.candidates hin
        refine ⟨⟨later, hlater, hid'.trans hid, hexam'.trans hexam⟩, fun hon => ?_⟩
        obtain ⟨turn, hturn, hheartbeat⟩ := hconnected hon
        exact ⟨turn.now, hheartbeat, hpromised.parsed turn hturn⟩

/-- The invariant of the gate holds in a new process, with the data of the seed. -/
theorem gateInvariant_initial (ctx : PlatformContext) (now : Int) :
    GateInvariant ctx { memory := createPlatformSeedData now } where
  checks := rfl
  verifications := rfl
  ids := by
    show ["candidate_001"].Nodup
    decide
  entered := by
    intro candidate hcandidate hentered
    rw [List.mem_singleton.mp hcandidate] at hentered
    exact absurd rfl hentered
  devices := fun device hdevice => by cases hdevice

/-- The invariant of the gate holds after every run of operations that keep the promises of their
callers. -/
theorem gateInvariant_run {now : Int} {operations : List PlatformOperation}
    (hpromised : (sequentialStore ctx).Meets (Promised ctx)
      { memory := createPlatformSeedData now } operations)
    (h : (sequentialStore ctx).run { memory := createPlatformSeedData now } operations
      = some store) : GateInvariant ctx store :=
  Machine.guarded_invariant (fun _ _ _ hinv hpromised hstep =>
    gateInvariant_step hinv hpromised hstep) operations _ store (gateInvariant_initial ctx now)
      hpromised h

/-! ### The gate after a run -/

/-- The methods that open the workspace or work in it. -/
def NeedsWorkspace : InviteCall → Prop
  | .getCandidateWorkspace | .code _ _ => True
  | _ => False

/-- A call that needs the workspace and returns a value has passed the gate, with the invite that
it has read. -/
theorem gateOpen_of_afterInvite {later : List PlatformInput} {turn : PlatformInput}
    {m : PlatformMemory} {inviteToken : String} {invite : CandidateInvite} {method : InviteCall}
    {value : PlatformValue} (hneeds : NeedsWorkspace method)
    (h : runToEnd ctx later (afterInvite ctx turn m inviteToken invite method)
      = some (m', .ok value)) : GateOpen ctx invite turn.now := by
  cases method with
  | getCandidateWorkspace =>
      rcases runToEnd_orThrow h with ⟨error, heq⟩ | ⟨_, hgate, -⟩
      · cases heq
      · exact gateOpen_of_assert hgate
  | code code input =>
      rcases runToEnd_orThrow h with ⟨error, heq⟩ | ⟨_, hassert, -⟩
      · cases heq
      · unfold assertCodeCall at hassert
        simp only [bind_eq_ok] at hassert
        obtain ⟨_, hgate, -⟩ := hassert
        exact gateOpen_of_assert hgate
  | _ => cases hneeds

/-- A printed date is never the empty text, so a stored date counts as present. -/
theorem truthy_toISOString (t : Int) :
    Js.truthy (some (Js.toISOString t)) = some (Js.toISOString t) := by
  have hne : Js.toISOString t ≠ "" := by
    intro h
    have hlist := congrArg String.toList h
    unfold Js.toISOString at hlist
    simp at hlist
  simp [Js.truthy, hne]

/-- A connected device that is not stale has a heartbeat within the timeout. -/
theorem heartbeat_of_not_stale {devices : List ProctorDevice} {device : ProctorDevice}
    {heartbeat sweptAt timeout : Int} (hdevice : device ∈ devices)
    (hconnected : device.status = .connected)
    (hlast : device.lastHeartbeatAt = some (Js.toISOString heartbeat))
    (hparse : ctx.dateParse (Js.toISOString heartbeat) = some heartbeat)
    (htimeout : ctx.proctorHeartbeatTimeoutMs = some timeout)
    (hnot : device ∉ staleDevices ctx devices device.examId (staleBefore ctx sweptAt)) :
    sweptAt - timeout ≤ heartbeat := by
  by_contra hlate
  have hbefore : heartbeatBefore ctx device (staleBefore ctx sweptAt) = true := by
    unfold heartbeatBefore staleBefore
    rw [hlast, truthy_toISOString, htimeout]
    simp only [hparse, Option.map_some]
    exact decide_eq_true (by omega)
  refine hnot (List.mem_filter.mpr ⟨hdevice, ?_⟩)
  simp [hconnected, hbefore]

/-- What holds of a candidate and an exam when an operation of the workspace succeeds. The sweep
was called at `sweptAt` and has left the memory `swept`, and the gate was passed at `now`. -/
structure GatePassed (ctx : PlatformContext) (past : List PerformedOperation)
    (swept : PlatformMemory) (candidate : Candidate) (exam : Exam) (sweptAt now : Int) :
    Prop where
  status : exam.status ≠ .ended ∧ exam.status ≠ .deleted
  time : ∃ startsAt endsAt, ctx.dateParse exam.startAt = some startsAt ∧
    ctx.dateParse exam.endAt = some endsAt ∧ startsAt ≤ now ∧ now < endsAt
  entered : WasMadeReady past candidate.inviteToken
  checked : ∃ check, lastEnvironmentCheck past candidate.id = some check ∧
    check.requiredPassed = true
  verified : exam.identityVerificationEnabled = true →
    ∃ verification, lastIdentityVerification past candidate.id = some verification ∧
      verification.status = .verified
  watched : exam.mobileCameraRequired = true →
    ∃ device ∈ swept.proctorDevices, device.candidateId = candidate.id ∧
      device.role = .mobileAux ∧ device.status = .connected ∧
      ∀ timeout, ctx.proctorHeartbeatTimeoutMs = some timeout →
        ∃ text heartbeat, device.lastHeartbeatAt = some text ∧
          ctx.dateParse text = some heartbeat ∧ sweptAt - timeout ≤ heartbeat

/-- The gate in terms of the past: each of its requirements was met by a call that came before. -/
theorem gatePassed_of_gateOpen (hinv : GateInvariant ctx store) {candidate : Candidate}
    {exam : Exam} {second : PlatformInput} {sweptAt now : Int}
    (hcandidate : candidate ∈ store.memory.candidates) (hexam : exam.id = candidate.examId)
    (h : GateOpen ctx (inviteOf (store.memory.sweep ctx exam.id (staleBefore ctx sweptAt)
      second).candidatePortalMemoryState candidate exam) now) :
    GatePassed ctx store.past
      (store.memory.sweep ctx exam.id (staleBefore ctx sweptAt) second) candidate exam sweptAt
      now := by
  have havailable : examAvailable ctx exam now = true := h.available
  unfold examAvailable at havailable
  split at havailable
  · rename_i startsAt endsAt hstart hend
    simp only [Bool.and_eq_true, decide_eq_true_eq] at havailable
    obtain ⟨⟨⟨hended, hdeleted⟩, hfrom⟩, huntil⟩ := havailable
    refine ⟨⟨hended, hdeleted⟩, ⟨startsAt, endsAt, hstart, hend, hfrom, huntil⟩,
      hinv.entered candidate hcandidate h.entered, ?_, fun henabled => ?_, fun hrequired => ?_⟩
    · obtain ⟨check, hcheck, hpassed⟩ := Option.map_eq_some_iff.mp h.checked
      refine ⟨check, ?_, hpassed⟩
      unfold lastEnvironmentCheck
      rw [← hinv.checks]
      exact hcheck
    · obtain ⟨verification, hverification, hstatus⟩ :=
        Option.map_eq_some_iff.mp (h.verified henabled)
      refine ⟨verification, ?_, hstatus⟩
      unfold lastIdentityVerification
      rw [← hinv.verifications]
      exact hverification
    · obtain ⟨device, hdevice, hrole, hconnected⟩ := h.watched hrequired
      obtain ⟨hswept, hof⟩ := List.mem_filter.mp hdevice
      have howner : device.candidateId = candidate.id := of_decide_eq_true hof
      obtain ⟨known, hknown, -, -, hstayed⟩ := device_of_sweep hswept
      obtain ⟨rfl, hfresh⟩ := hstayed hconnected
      obtain ⟨⟨owner, hin, hid, hfor⟩, hheartbeat⟩ := hinv.devices known hknown
      obtain ⟨heartbeat, hlast, hparse⟩ := hheartbeat hconnected
      -- The device is one of the exam that was swept.
      have hsame : owner = candidate :=
        List.inj_on_of_nodup_map hinv.ids hin hcandidate (hid.trans howner)
      have hswept' : known.examId = exam.id := by rw [hexam, ← hfor, hsame]
      refine ⟨known, hswept, howner, hrole, hconnected, fun timeout htimeout =>
        ⟨_, heartbeat, hlast, hparse, ?_⟩⟩
      rw [← hswept'] at hfresh
      exact heartbeat_of_not_stale hknown hconnected hlast hparse htimeout hfresh
  · cases havailable

end

/-- When an operation of the workspace succeeds after a run of operations, the exam takes place,
the candidate was let in, the last environment check and the last verification of the candidate
are good, and a mobile device of the candidate is connected, as far as the exam asks for it. -/
theorem workspace_gate (ctx : PlatformContext) (now : Int) (operations : List PlatformOperation)
    (store : SequentialStore)
    (hpromised : (sequentialStore ctx).Meets (Promised ctx)
      { memory := createPlatformSeedData now } operations)
    (hrun : (sequentialStore ctx).run { memory := createPlatformSeedData now } operations
      = some store)
    (operation : PlatformOperation) (inviteToken : String) (method : InviteCall)
    (hcall : operation.call = .withInvite inviteToken method) (hneeds : NeedsWorkspace method)
    (memory : PlatformMemory) (value : PlatformValue)
    (h : perform ctx store.memory operation = some (memory, .ok value)) :
    ∃ first second third fourth rest candidate exam,
      operation.turns = first :: second :: third :: fourth :: rest ∧
      store.memory.candidates.find? (·.inviteToken = inviteToken) = some candidate ∧
      store.memory.exams.find? (·.id = candidate.examId) = some exam ∧
      GatePassed ctx store.past
        (store.memory.sweep ctx exam.id (staleBefore ctx first.now) second) candidate exam
        first.now fourth.now := by
  have hinv := gateInvariant_run hpromised hrun
  obtain ⟨call, turn, turns⟩ := operation
  cases hcall
  have hbegin : runToEnd ctx turns (beginInvite store.memory inviteToken method)
      = some (memory, .ok value) := by
    cases method with
    | createCandidateIdentitySession input => cases hneeds
    | _ => exact h
  -- The call has read its invite and looked at the gate, or it has thrown there.
  rcases runToEnd_beginInvite hbegin with ⟨error, -, heq⟩ | hrest
  · cases heq
  · obtain ⟨first, second, third, fourth, rest, candidate, exam, hturns, hcandidate, hexam,
      hafter⟩ := hrest
    refine ⟨first, second, third, fourth, rest, candidate, exam, hturns, hcandidate, hexam, ?_⟩
    have hid : exam.id = candidate.examId := by simpa using List.find?_some hexam
    exact gatePassed_of_gateOpen hinv (List.mem_of_find?_eq_some hcandidate) hid
      (gateOpen_of_afterInvite hneeds hafter)

/-! ### A way into the workspace -/

/-- A process outside production. Its `Date.parse` knows the dates of the examples. -/
def workspaceContext : PlatformContext where
  host :=
    { text := { toLowerCase := id, toUpperCase := id }
      hmac := fun _ payload => payload
      dateParse := fun text =>
        [86400000, 90000000, 90600000, 93600000, 94200000, 108000000].find? fun t =>
          Js.toISOString t = text }
  localeCompare := compare
  publicWebBaseUrl := "https://exams.example.com"

/-- A turn at a moment, with random values. -/
def turnAt (now : Int) (uuids : List String) : PlatformInput where
  now := now
  uuid := fun n => uuids.getD n "0"
  verified := .ok
    { documentAuthenticityScore := 90
      faceMatchScore := 90
      livenessScore := 90
      ocrNameMatched := true
      verificationChecks := requiredIdentityVerificationChecks
      provider := "kyc"
      providerDecision := .verified
      providerReferenceId := "ref_1" }

/-- An operation whose turns are all at one moment. -/
def operationAt (now : Int) (uuids : List String) (count : Nat) (call : PlatformCall) :
    PlatformOperation where
  call := call
  turn := turnAt now uuids
  turns := List.replicate count (turnAt now uuids)

/-- A check that has passed, with the evidence of a session that was opened at `now`. -/
def passedCheck (inviteToken : String) (now : Int) : CreateEnvironmentCheckInput :=
  let session := Services.createEnvironmentCheckSession workspaceContext.host workspaceContext.env
    inviteToken now "1"
  { sessionId := (session.toOption.map (·.sessionId)).getD ""
    evidenceToken := (session.toOption.map (·.evidenceToken)).getD ""
    results := ["browser", "network", "camera", "microphone", "screen"].map fun id =>
      some { id := some id, status := some "PASSED" }
    browserEvidence := { secureContext := true, checkedAt := "" } }

/-- The way of the demo candidate into the workspace. -/
def demoOperations : List PlatformOperation :=
  [operationAt 90000000 [] 1 (.markCandidateReady "invite_demo_001"),
    operationAt 90000000 [] 5 (.withInvite "invite_demo_001"
      (.saveCandidateEnvironmentCheck (passedCheck "invite_demo_001" 90000000))),
    operationAt 90000000 [] 6 (.withInvite "invite_demo_001"
      (.createCandidateIdentitySession (some ⟨true, currentPrivacyPolicyVersion⟩))),
    operationAt 90000000 [] 5 (.withInvite "invite_demo_001"
      (.verifyCandidateIdentity
        { documentCaptured := true, faceImageCaptured := true, livenessConfirmed := true,
          providerSessionId := some "kyc_1", documentUploadRef := some "doc_1",
          faceUploadRef := some "face_1" })),
    operationAt 90000000 [] 2 (.upsertProctorDevice "invite_demo_001"
      { role := .mobileAux, status := .connected })]

/-- The demo candidate opens the workspace. -/
def demoVisit : PlatformOperation :=
  operationAt 90000000 [] 5 (.withInvite "invite_demo_001" .getCandidateWorkspace)

/-- What a run and one more operation lead to. -/
def visited (operations : List PlatformOperation) (visit : PlatformOperation)
    (p : SequentialStore → Bool) : Bool :=
  ((sequentialStore workspaceContext).run { memory := createPlatformSeedData 0 } operations).any
    fun store => p store &&
      (perform workspaceContext store.memory visit).any fun r => r.2.toOption.isSome

/-- The test that can be run: behind the operations the visit returns a value, in a store with the
property. -/
theorem visited_eq_true {operations : List PlatformOperation} {visit : PlatformOperation}
    {p : SequentialStore → Bool} (h : visited operations visit p = true) :
    ∃ store memory value, (sequentialStore workspaceContext).run
        { memory := createPlatformSeedData 0 } operations = some store ∧
      perform workspaceContext store.memory visit = some (memory, .ok value) ∧
      p store = true := by
  obtain ⟨store, hrun, hstore⟩ := (Option.any_eq_true _ _).mp h
  obtain ⟨hp, hvisit⟩ := Bool.and_eq_true_iff.mp hstore
  obtain ⟨⟨memory, r⟩, hperform, hok⟩ := (Option.any_eq_true _ _).mp hvisit
  cases r with
  | error error => cases hok
  | ok value => exact ⟨store, memory, value, hrun, hperform, hp⟩

/-- The visit of the demo candidate goes through. -/
theorem demoVisit_run : visited demoOperations demoVisit (fun _ => true) = true := by
  decide +kernel

/-- Operations that add no candidate, at one moment that `Date.parse` knows. -/
theorem promised_operationAt {now : Int} {uuids : List String} {count : Nat}
    {call : PlatformCall}
    (hcall : ∀ session examId input, call ≠ .examAdmin session (.addCandidate examId input))
    (hparse : workspaceContext.dateParse (Js.toISOString now) = some now)
    (store : SequentialStore) :
    Promised workspaceContext store (operationAt now uuids count call) where
  fresh := fun session examId input h => absurd h (hcall session examId input)
  parsed := by
    intro turn hturn
    rw [List.eq_of_mem_replicate hturn]
    exact hparse

/-- Each operation of the example keeps to its conditions. -/
theorem demoOperations_promised :
    (sequentialStore workspaceContext).Meets (Promised workspaceContext)
      { memory := createPlatformSeedData 0 } demoOperations := by
  have hparse : workspaceContext.dateParse (Js.toISOString 90000000) = some 90000000 := by
    decide +kernel
  refine Machine.meets_of_forall fun operation hoperation store => ?_
  simp only [demoOperations, List.mem_cons, List.not_mem_nil, or_false] at hoperation
  rcases hoperation with rfl | rfl | rfl | rfl | rfl
  all_goals exact promised_operationAt (fun _ _ _ h => by cases h) hparse store

/-- The gate at the end of the demo candidate's way. -/
theorem workspace_gate_demo :
    ∃ (store : SequentialStore) (candidate : Candidate) (exam : Exam) (swept : PlatformMemory),
      GatePassed workspaceContext store.past swept candidate exam 90000000 90000000 := by
  obtain ⟨store, memory, value, hrun, hvisit, -⟩ := visited_eq_true demoVisit_run
  obtain ⟨first, second, third, fourth, rest, candidate, exam, hturns, -, -, hgate⟩ :=
    workspace_gate workspaceContext 0 demoOperations store demoOperations_promised hrun demoVisit
      "invite_demo_001" .getCandidateWorkspace rfl trivial memory value hvisit
  cases hturns
  exact ⟨store, candidate, exam, _, hgate⟩

/-! ### Two candidates with one identifier -/

/-- An exam that asks for the mobile camera. -/
def cameraExam : CreateExamInput where
  title := "Exam"
  description := ""
  startAt := "1970-01-02T00:00:00.000Z"
  endAt := "1970-01-02T06:00:00.000Z"
  durationMinutes := 60
  languages := []
  proctoringEnabled := false
  identityVerificationEnabled := false
  mobileCameraRequired := true
  screenShareRequired := false

/-- The random values of two candidates start alike, and one of them has a device. The other one
is let in an hour later. -/
def collidingOperations : List PlatformOperation :=
  [operationAt 90000000 ["e"] 1 (.examAdmin (managerOf "org_demo") (.createExam cameraExam)),
    operationAt 90000000 ["1234abcd-1", "a"] 1 (.examAdmin (managerOf "org_demo")
      (.addCandidate "exam_backend_001" { name := "Kim", email := "kim@example.com" })),
    operationAt 90000000 ["1234abcd-2", "b"] 1 (.examAdmin (managerOf "org_demo")
      (.addCandidate "exam_e" { name := "Lee", email := "lee@example.com" })),
    operationAt 90000000 ["1"] 2 (.upsertProctorDevice "invite_a"
      { role := .mobileAux, status := .connected }),
    operationAt 93600000 [] 1 (.markCandidateReady "invite_b"),
    operationAt 93600000 [] 5 (.withInvite "invite_b"
      (.saveCandidateEnvironmentCheck (passedCheck "invite_b" 93600000)))]

/-- The other candidate opens the workspace. -/
def collidingVisit : PlatformOperation :=
  operationAt 93600000 [] 5 (.withInvite "invite_b" .getCandidateWorkspace)

/-- All devices of a candidate of `invite_b` have a heartbeat that is too old, also behind the
sweep of the exam. -/
def onlyStaleDevices (store : SequentialStore) : Bool :=
  (store.memory.candidates.find? (·.inviteToken = "invite_b")).all fun candidate =>
    (store.memory.exams.find? (·.id = candidate.examId)).all fun exam =>
      exam.mobileCameraRequired &&
        (store.memory.sweep workspaceContext exam.id (staleBefore workspaceContext 93600000)
          (turnAt 93600000 [])).proctorDevices.all fun device =>
            decide (device.candidateId = candidate.id) &&
              (device.lastHeartbeatAt.bind workspaceContext.dateParse).any (· < 93570000)

/-- The visit returns the workspace, in a store in which the only devices of the candidate are
stale. -/
theorem collidingVisit_run :
    visited collidingOperations collidingVisit onlyStaleDevices = true := by
  decide +kernel

/-- The workspace opens with a device of another exam, whose heartbeat is an hour old. -/
theorem colliding_candidate_opens_workspace :
    ∃ store memory value, (sequentialStore workspaceContext).run
        { memory := createPlatformSeedData 0 } collidingOperations = some store ∧
      perform workspaceContext store.memory collidingVisit = some (memory, .ok value) ∧
      ∀ candidate exam, store.memory.candidates.find? (·.inviteToken = "invite_b") = some candidate →
        store.memory.exams.find? (·.id = candidate.examId) = some exam →
        ¬ GatePassed workspaceContext store.past
          (store.memory.sweep workspaceContext exam.id (staleBefore workspaceContext 93600000)
            (turnAt 93600000 [])) candidate exam 93600000 93600000 := by
  obtain ⟨store, memory, value, hrun, hvisit, hstale⟩ := visited_eq_true collidingVisit_run
  refine ⟨store, memory, value, hrun, hvisit, fun candidate exam hcandidate hexam hgate => ?_⟩
  unfold onlyStaleDevices at hstale
  rw [hcandidate, Option.all_some, hexam, Option.all_some] at hstale
  obtain ⟨hrequired, hall⟩ := Bool.and_eq_true_iff.mp hstale
  obtain ⟨device, hdevice, -, -, -, hfresh⟩ := hgate.watched hrequired
  obtain ⟨text, heartbeat, hlast, hparse, hlimit⟩ := hfresh 30000 rfl
  have hold := (Bool.and_eq_true_iff.mp (List.all_eq_true.mp hall device hdevice)).2
  rw [hlast, Option.bind_some, hparse, Option.any_some] at hold
  have hbefore : heartbeat < 93570000 := of_decide_eq_true hold
  omega

end Dcvp.Proofs
