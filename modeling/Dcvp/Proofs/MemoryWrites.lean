import Dcvp.Proofs.StoreFrames

/-!
# `Dcvp.Proofs.MemoryWrites`: what one operation writes in memory mode

An operation that runs to its end without other calls in between (`perform`). It first sweeps
devices and makes sure of an exam session, and then it writes at most once. `Writes` has one
constructor for each of these writes, and `perform_writes` says that there is no other. The facts
about whole operations are proved by cases on it.
-/

set_option autoImplicit false

namespace Dcvp.Proofs

open Dcvp.Lib
open Dcvp.Shared
open Dcvp.Services.PlatformStore

/-! ### Runs of one call -/

section
variable {ctx : PlatformContext} {turns : List PlatformInput} {m : PlatformMemory}
  {r : PlatformMemory × PlatformResult}

/-- A call that has ended takes no further turn. -/
theorem runToEnd_finished {result : PlatformResult}
    (h : runToEnd ctx turns (m, .finished result) = some r) : r = (m, result) := by
  cases turns with
  | nil =>
      cases h
      rfl
  | cons turn turns => cases h

/-- A call that waits goes on with the next turn. -/
theorem runToEnd_awaits {pc : PlatformWaiting}
    (h : runToEnd ctx turns (awaits m pc) = some r) :
    ∃ turn rest, turns = turn :: rest ∧
      runToEnd ctx rest (resumeCall ctx turn m pc) = some r := by
  cases turns with
  | nil => cases h
  | cons turn rest => exact ⟨turn, rest, rfl, h⟩

/-- A check in a call: it throws and the call ends, or it has a value and the call goes on. -/
theorem runToEnd_orThrow {α : Type} {x : Except ServiceException α}
    {next : α → PlatformSegment} (h : runToEnd ctx turns (orThrow m x next) = some r) :
    (∃ error, r = (m, .error error)) ∨
      ∃ a, x = .ok a ∧ runToEnd ctx turns (next a) = some r := by
  cases x with
  | error error => exact .inl ⟨error, runToEnd_finished h⟩
  | ok a => exact .inr ⟨a, rfl, h⟩

end

/-- The moves of a call behind its first segment, when no other call moves in between. -/
def movesAlone (id : Nat) (turns : List PlatformInput) :
    List (AsyncEvent PlatformCall PlatformInput) :=
  turns.flatMap fun turn => [.execute id turn, .resume id turn]

/-- The rest of a call is a run of the interleaved program. The induction is on the turns. -/
theorem run_of_runToEnd {ctx : PlatformContext} {turns : List PlatformInput}
    {segment : PlatformSegment} {w : PlatformWorld} {id : Nat} {m' : PlatformMemory}
    {r : PlatformResult} (h : runToEnd ctx turns segment = some (m', r)) :
    ∃ w', (platformProgram ctx).machine.run (w.conclude id segment.1 segment.2)
        (movesAlone id turns) = some w' ∧ w'.memory = m' ∧ (id, r) ∈ w'.results := by
  induction turns generalizing segment w with
  | nil =>
      obtain ⟨m, outcome⟩ := segment
      cases outcome with
      | suspended pc => cases h
      | finished result =>
          cases h
          exact ⟨_, rfl, rfl, List.mem_append_right _ (List.mem_singleton.mpr rfl)⟩
  | cons turn turns ih =>
      obtain ⟨m, outcome⟩ := segment
      cases outcome with
      | finished result => cases h
      | suspended pc =>
          have hrest : runToEnd ctx turns (resumeCall ctx turn m pc) = some (m', r) := h
          -- The world between the two moves: the operation of the call has been answered.
          let answered : PlatformWorld := { w with
            memory := m
            flights := (w.flights.set id (.waiting pc)).set id (.ready pc) }
          obtain ⟨w', hrun, hmemory, hresult⟩ :
              ∃ w', (platformProgram ctx).machine.run (answered.conclude id
                (resumeCall ctx turn m pc).1 (resumeCall ctx turn m pc).2)
                (movesAlone id turns) = some w' ∧ w'.memory = m' ∧ (id, r) ∈ w'.results :=
            ih hrest
          have hexecute : (platformProgram ctx).machine.step (w.conclude id m (.suspended pc))
              (.execute id turn) = some answered := by
            simp [AsyncProgram.machine, AsyncProgram.step, World.conclude, platformProgram,
              answered]
          have hresume : (platformProgram ctx).machine.step answered (.resume id turn)
              = some (answered.conclude id (resumeCall ctx turn m pc).1
                (resumeCall ctx turn m pc).2) := by
            simp [AsyncProgram.machine, AsyncProgram.step, platformProgram, answered]
          refine ⟨w', ?_, hmemory, hresult⟩
          refine (Machine.run_cons_eq_some _ _ _ _).mpr ⟨answered, hexecute, ?_⟩
          exact (Machine.run_cons_eq_some _ _ _ _).mpr ⟨_, hresume, hrun⟩

/-- An operation is a run of the interleaved program in which no other call moves. -/
theorem run_of_perform {ctx : PlatformContext} {w : PlatformWorld}
    {operation : PlatformOperation} {m' : PlatformMemory} {r : PlatformResult}
    (h : perform ctx w.memory operation = some (m', r)) :
    ∃ w', (platformProgram ctx).machine.run w
        (.invoke operation.call operation.turn :: movesAlone w.nextCall operation.turns)
          = some w' ∧ w'.memory = m' ∧ (w.nextCall, r) ∈ w'.results := by
  obtain ⟨w', hrun, hmemory, hresult⟩ : ∃ w', (platformProgram ctx).machine.run
      (({ w with nextCall := w.nextCall + 1 } : PlatformWorld).conclude w.nextCall
        (startCall ctx operation.turn w.memory operation.call).1
        (startCall ctx operation.turn w.memory operation.call).2)
      (movesAlone w.nextCall operation.turns) = some w' ∧ w'.memory = m' ∧
        (w.nextCall, r) ∈ w'.results := run_of_runToEnd h
  exact ⟨w', (Machine.run_cons_eq_some _ _ _ _).mpr ⟨_, rfl, hrun⟩, hmemory, hresult⟩


/-! ### The records of an operation -/

/-- The environment check that a call has saved. -/
def savedCheck : PlatformResult → Option EnvironmentCheck
  | .ok (.environmentCheck check) => some check
  | _ => none

/-- The verification that a call has stored. -/
def storedVerification : PlatformResult → Option IdentityVerification
  | .ok (.identityVerification verification) => some verification
  | _ => none


/-- The result is none of the records that the store keeps for a candidate. -/
def NoRecord : PlatformResult → Prop
  | .ok (.environmentCheck _) | .ok (.identityVerification _) | .ok (.proctorAction _)
  | .ok (.proctorDevice _) | .ok (.draft _) | .ok (.codeExecution _) | .ok (.submission _) => False
  | _ => True

/-- Such a result is no environment check. -/
theorem savedCheck_of_noRecord {r : PlatformResult} (h : NoRecord r) : savedCheck r = none := by
  unfold savedCheck
  split
  · exact h.elim
  · rfl

/-- Such a result is no verification. -/
theorem storedVerification_of_noRecord {r : PlatformResult} (h : NoRecord r) :
    storedVerification r = none := by
  unfold storedVerification
  split
  · exact h.elim
  · rfl

/-- The candidates are the same, and so are the records that the store keeps for them. -/
structure SameRecords (m m' : PlatformMemory) : Prop where
  candidates : m'.candidates = m.candidates
  proctorDevices : m'.proctorDevices = m.proctorDevices
  proctorActions : m'.proctorActions = m.proctorActions
  identityVerifications : m'.identityVerifications = m.identityVerifications
  environmentChecks : m'.environmentChecks = m.environmentChecks
  examSessions : m'.examSessions = m.examSessions
  codeDrafts : m'.codeDrafts = m.codeDrafts
  codeExecutions : m'.codeExecutions = m.codeExecutions
  submissions : m'.submissions = m.submissions

/-- The memory itself has the same records. -/
theorem SameRecords.refl (m : PlatformMemory) : SameRecords m m :=
  ⟨rfl, rfl, rfl, rfl, rfl, rfl, rfl, rfl, rfl⟩

/-- What an operation writes: the sweep and the exam session come before the rest. -/
inductive Writes (ctx : PlatformContext) (call : PlatformCall) (turns : List PlatformInput) :
    PlatformMemory → PlatformMemory → PlatformResult → Prop
  | sweeps {m m' : PlatformMemory} {r : PlatformResult} (examId : String) (before : Option Int)
      (turn : PlatformInput) (rest : Writes ctx call turns (m.sweep ctx examId before turn) m' r) :
      Writes ctx call turns m m' r
  | ensuresSession {m m' : PlatformMemory} {r : PlatformResult} (invite : CandidateInvite)
      (turn : PlatformInput) (session : ExamSession) (examSessions : List ExamSession)
      (hensure : ensureMemoryExamSession ctx m.examSessions invite turn
        = .ok (session, examSessions))
      (rest : Writes ctx call turns { m with examSessions } m' r) : Writes ctx call turns m m' r
  | keeps {m m' : PlatformMemory} {r : PlatformResult} (hsame : SameRecords m m')
      (hrecord : NoRecord r) : Writes ctx call turns m m' r
  | addsCandidate {m : PlatformMemory} (candidate : Candidate)
      (hcall : ∃ session examId input, call = .examAdmin session (.addCandidate examId input))
      (hid : ∃ turn ∈ turns, candidate.id = turn.createId "candidate" 0)
      (hstatus : candidate.status = .invited) :
      Writes ctx call turns m { m with candidates := m.candidates ++ [candidate] }
        (.ok (.candidate candidate))
  | makesReady {m : PlatformMemory} (inviteToken : String) (invite : CandidateInvite)
      (hcall : call = .markCandidateReady inviteToken) :
      Writes ctx call turns m
        { m with
          candidates := mapWhere (·.inviteToken = inviteToken) (setStatus .ready) m.candidates }
        (.ok (.ready invite))
  | consents {m : PlatformMemory} {r : PlatformResult} (candidateId : String) (acceptedAt : Int)
      (hrecord : NoRecord r) :
      Writes ctx call turns m
        { m with candidates := recordIdentityConsent m.candidates candidateId acceptedAt } r
  | acts {m : PlatformMemory} (action : ProctorAction)
      (hdate : ∃ turn ∈ turns, action.createdAt = turn.nowIso) :
      Writes ctx call turns m { m with proctorActions := action :: m.proctorActions }
        (.ok (.proctorAction action))
  | checks {m : PlatformMemory} (check : EnvironmentCheck)
      (hdate : ∃ turn ∈ turns, check.createdAt = turn.nowIso) :
      Writes ctx call turns m { m with environmentChecks := check :: m.environmentChecks }
        (.ok (.environmentCheck check))
  | verifies {m : PlatformMemory} (verification : IdentityVerification)
      (hdate : ∃ turn ∈ turns, verification.createdAt = turn.nowIso) :
      Writes ctx call turns m
        { m with identityVerifications := verification :: m.identityVerifications }
        (.ok (.identityVerification verification))
  | putsDevice {m : PlatformMemory} (invite : CandidateInvite) (input : UpsertProctorDeviceInput)
      (turn : PlatformInput) (hturn : turn ∈ turns) (hcandidate : invite.candidate ∈ m.candidates)
      (hexam : invite.exam.id = invite.candidate.examId) :
      Writes ctx call turns m
        { m with proctorDevices :=
          (upsertProctorDeviceInStore m.proctorDevices invite input turn).2 }
        (.ok (.proctorDevice (upsertProctorDeviceInStore m.proctorDevices invite input turn).1))
  | savesDraft {m : PlatformMemory} (inviteToken : String) (invite : CandidateInvite)
      (input : CodeInput) (turn : PlatformInput) (hturn : turn ∈ turns)
      (hcall : call = .withInvite inviteToken (.code .saveCandidateCodeDraft input)) :
      Writes ctx call turns m
        { m with codeDrafts := (saveCandidateCodeDraftInStore m.codeDrafts invite input turn).2 }
        (.ok (.draft (saveCandidateCodeDraftInStore m.codeDrafts invite input turn).1))
  | runs {m : PlatformMemory} (execution : CodeExecution)
      (hdate : ∃ turn ∈ turns, execution.createdAt = turn.nowIso) :
      Writes ctx call turns m { m with codeExecutions := execution :: m.codeExecutions }
        (.ok (.codeExecution (toCandidateCodeExecution execution)))
  | submits {m : PlatformMemory} (invite : CandidateInvite) (submission : Submission)
      (hdate : ∃ turn ∈ turns, submission.submittedAt = turn.nowIso)
      (hcandidate : invite.candidate ∈ m.candidates)
      (hentered : invite.candidate.status ≠ .invited) :
      Writes ctx call turns m
        { m with
          submissions := submission :: m.submissions
          candidates := mapWhere (·.id = invite.candidate.id) (setStatus .inProgress)
            m.candidates }
        (.ok (.submission (toCandidateSubmission submission)))

/-! ### Invites -/

section
variable {ctx : PlatformContext} {call : PlatformCall} {turns later : List PlatformInput}
  {m m' : PlatformMemory} {r : PlatformResult}

/-- What an invite is made of: the first candidate with the token, its exam, which is not deleted,
and the records that belong to both. -/
theorem getCandidateInviteInStore_eq_ok (memoryState : CandidatePortalMemoryState)
    (inviteToken : String) (invite : CandidateInvite) :
    getCandidateInviteInStore memoryState inviteToken = .ok invite ↔
      ∃ candidate exam,
        memoryState.candidates.find? (·.inviteToken = inviteToken) = some candidate ∧
        memoryState.exams.find? (·.id = candidate.examId) = some exam ∧
        exam.status ≠ .deleted ∧ invite = inviteOf memoryState candidate exam := by
  unfold getCandidateInviteInStore
  constructor
  · intro h
    split at h
    · cases h
    · rename_i candidate hcandidate
      split at h
      · cases h
      · rename_i exam hexam
        split at h
        · cases h
        · rename_i hopen
          cases h
          exact ⟨candidate, exam, hcandidate, hexam, hopen, rfl⟩
  · rintro ⟨candidate, exam, hcandidate, hexam, hopen, rfl⟩
    simp only [hcandidate, hexam, hopen, if_false]

/-- The candidate of an invite is in the memory, and the invite is for the candidate's exam. -/
theorem candidate_of_invite {memoryState : CandidatePortalMemoryState} {inviteToken : String}
    {invite : CandidateInvite}
    (h : getCandidateInviteInStore memoryState inviteToken = .ok invite) :
    invite.candidate ∈ memoryState.candidates ∧ invite.exam.id = invite.candidate.examId := by
  obtain ⟨candidate, exam, hcandidate, hexam, -, rfl⟩ :=
    (getCandidateInviteInStore_eq_ok _ _ _).mp h
  have hid : exam.id = candidate.examId := by simpa using List.find?_some hexam
  exact ⟨List.mem_of_find?_eq_some hcandidate, hid⟩

/-- What comes before `afterInvite`: an exception, or two snapshots with a sweep between them.
The candidate and the exam are those of the first snapshot. -/
theorem runToEnd_beginInvite {inviteToken : String} {call : InviteCall}
    (h : runToEnd ctx turns (beginInvite m inviteToken call) = some (m', r)) :
    (∃ error, m' = m ∧ r = .error error) ∨
    ∃ first second third fourth rest candidate exam,
      turns = first :: second :: third :: fourth :: rest ∧
      m.candidates.find? (·.inviteToken = inviteToken) = some candidate ∧
      m.exams.find? (·.id = candidate.examId) = some exam ∧
      runToEnd ctx rest (afterInvite ctx fourth
        (m.sweep ctx exam.id (staleBefore ctx first.now) second) inviteToken
        (inviteOf (m.sweep ctx exam.id (staleBefore ctx first.now)
          second).candidatePortalMemoryState candidate exam) call) = some (m', r) := by
  obtain ⟨first, rest₁, hturns₁, hfirst⟩ := runToEnd_awaits h
  rcases runToEnd_orThrow hfirst with ⟨error, heq⟩ | ⟨invite, hinvite, hopened⟩
  · cases heq
    exact .inl ⟨error, rfl, rfl⟩
  · obtain ⟨second, rest₂, hturns₂, hsecond⟩ := runToEnd_awaits hopened
    obtain ⟨third, rest₃, hturns₃, hthird⟩ := runToEnd_awaits hsecond
    obtain ⟨fourth, rest, hturns₄, hfourth⟩ := runToEnd_awaits hthird
    have hturns : turns = first :: second :: third :: fourth :: rest := by
      rw [hturns₁, hturns₂, hturns₃, hturns₄]
    obtain ⟨candidate, exam, hcandidate, hexam, hopen, rfl⟩ :=
      (getCandidateInviteInStore_eq_ok _ _ _).mp hinvite
    -- The sweep changes neither the candidates nor the exams, so the second snapshot succeeds.
    have hagain : getCandidateInviteInStore (m.sweep ctx exam.id (staleBefore ctx first.now)
        second).candidatePortalMemoryState inviteToken
        = .ok (inviteOf (m.sweep ctx exam.id (staleBefore ctx first.now)
          second).candidatePortalMemoryState candidate exam) :=
      (getCandidateInviteInStore_eq_ok _ _ _).mpr
        ⟨candidate, exam, hcandidate, hexam, hopen, rfl⟩
    refine .inr ⟨first, second, third, fourth, rest, candidate, exam, hturns, hcandidate,
      hexam, ?_⟩
    change runToEnd ctx rest (orThrow _ (getCandidateInviteInStore (m.sweep ctx exam.id
      (staleBefore ctx first.now) second).candidatePortalMemoryState inviteToken) _) = _
      at hfourth
    rw [hagain] at hfourth
    exact hfourth


/-! ### The gate -/

/-- What `assertCandidateCanUseWorkspace` has found when it does not throw: each of its five
conditions, on the invite that it read. -/
structure GateOpen (ctx : PlatformContext) (invite : CandidateInvite) (now : Int) : Prop where
  available : examAvailable ctx invite.exam now = true
  entered : invite.candidate.status ≠ .invited
  checked : invite.environmentCheck.map (·.requiredPassed) = some true
  verified : invite.exam.identityVerificationEnabled = true →
    invite.identityVerification.map (·.status) = some .verified
  watched : invite.exam.mobileCameraRequired = true →
    ∃ device ∈ invite.proctorDevices, device.role = .mobileAux ∧ device.status = .connected

/-- What the gate has found when it lets a call pass, one field for each of its checks. -/
theorem gateOpen_of_assert {invite : CandidateInvite} {now : Int}
    (h : assertCandidateCanUseWorkspace ctx invite now = .ok ()) : GateOpen ctx invite now := by
  -- The checks of the source in their order; passing each is one field.
  unfold assertCandidateCanUseWorkspace at h
  split at h
  · cases h
  · rename_i havailable
    split at h
    · cases h
    · rename_i hentered
      split at h
      · cases h
      · rename_i hchecked
        split at h
        · cases h
        · rename_i hverified
          dsimp only at h
          split at h
          · cases h
          · rename_i hwatched
            refine ⟨not_not.mp havailable, hentered, not_not.mp hchecked, fun henabled => ?_,
              fun hrequired => ?_⟩
            · by_contra hnot
              exact hverified ⟨henabled, hnot⟩
            · by_contra hnot
              refine hwatched ⟨hrequired, fun hany => hnot ?_⟩
              obtain ⟨device, hdevice, hmobile⟩ := List.any_eq_true.mp hany
              exact ⟨device, hdevice, of_decide_eq_true hmobile⟩


/-! ### What an operation writes -/

/-- A segment that may throw writes what it says, if the rest after a success does: when it throws,
the memory is as it was. -/
theorem writes_orThrow {α : Type} {x : Except ServiceException α} {next : α → PlatformSegment}
    (h : runToEnd ctx later (orThrow m x next) = some (m', r))
    (hnext : ∀ a, x = .ok a → runToEnd ctx later (next a) = some (m', r) →
      Writes ctx call turns m m' r) : Writes ctx call turns m m' r := by
  rcases runToEnd_orThrow h with ⟨error, heq⟩ | ⟨a, ha, h⟩
  · cases heq
    exact .keeps (.refl m) trivial
  · exact hnext a ha h

/-- A segment that returns something else than a record. -/
theorem writes_returns {m₁ : PlatformMemory} {value : PlatformValue}
    (h : runToEnd ctx later (returns m₁ value) = some (m', r)) (hsame : SameRecords m m₁)
    (hrecord : NoRecord (.ok value)) : Writes ctx call turns m m' r := by
  cases runToEnd_finished h
  exact .keeps hsame hrecord

/-- An operation on exams adds a candidate, or it writes none of the records. -/
theorem writes_examAdmin {turn : PlatformInput} {session : AuthSession} {call : ExamAdminCall}
    (h : runToEnd ctx turns (startCall ctx turn m (.examAdmin session call)) = some (m', r)) :
    Writes ctx (.examAdmin session call) turns m m' r := by
  refine writes_orThrow h fun _ _ h => ?_
  obtain ⟨resumed, rest, hturns, h⟩ := runToEnd_awaits h
  have hsame : ∀ {exams : List Exam} {questions : List Question} {testCases : List TestCase},
      SameRecords m { m with exams, questions, testCases } :=
    ⟨rfl, rfl, rfl, rfl, rfl, rfl, rfl, rfl, rfl⟩
  -- The first five methods write exams, questions and test cases only, which are none of the
  -- supervised arrays.
  cases call with
  | createExam input => exact writes_returns h hsame trivial
  | updateExam examId input =>
      exact writes_orThrow h fun result _ h => writes_returns h hsame trivial
  | deleteExam examId =>
      exact writes_orThrow h fun result _ h => writes_returns h hsame trivial
  | addQuestion examId input =>
      exact writes_orThrow h fun result _ h => writes_returns h hsame trivial
  | addTestCase questionId input =>
      exact writes_orThrow h fun result _ h => writes_returns h hsame trivial
  | addCandidate examId input =>
      refine writes_orThrow h fun result hadd h => ?_
      cases runToEnd_finished h
      unfold addCandidateInStore at hadd
      obtain ⟨exam, -, hadd⟩ := bind_eq_ok.mp hadd
      cases hadd
      refine .addsCandidate _ ⟨session, examId, input, rfl⟩ ⟨resumed, ?_, rfl⟩ rfl
      rw [hturns]
      exact List.mem_cons_self

/-- An invite mail is logged, and none of the records is written. -/
theorem writes_sendCandidateInviteEmail {turn : PlatformInput} {candidateId : String}
    {session : AuthSession}
    (h : runToEnd ctx turns (startCall ctx turn m (.sendCandidateInviteEmail candidateId session))
      = some (m', r)) :
    Writes ctx call turns m m' r := by
  refine writes_orThrow h fun _ _ h => ?_
  obtain ⟨found, rest, -, h⟩ := runToEnd_awaits h
  refine writes_orThrow h fun candidateWithExam _ h => ?_
  obtain ⟨sent, last, -, h⟩ := runToEnd_awaits h
  exact writes_returns h ⟨rfl, rfl, rfl, rfl, rfl, rfl, rfl, rfl, rfl⟩ trivial

/-- An action of a proctor is put to the front of its array. -/
theorem writes_createProctorAction {turn : PlatformInput} {candidateId : String}
    {input : CreateProctorActionInput} {session : AuthSession}
    (h : runToEnd ctx turns (startCall ctx turn m (.createProctorAction candidateId input session))
      = some (m', r)) :
    Writes ctx call turns m m' r := by
  refine writes_orThrow h fun _ _ h => ?_
  obtain ⟨resumed, rest, hturns, h⟩ := runToEnd_awaits h
  refine writes_orThrow h fun result hcreate h => ?_
  cases runToEnd_finished h
  unfold createProctorActionInStore at hcreate
  obtain ⟨candidateWithExam, -, hcreate⟩ := bind_eq_ok.mp hcreate
  cases hcreate
  refine .acts _ ⟨resumed, ?_, rfl⟩
  rw [hturns]
  exact List.mem_cons_self

/-- The sweep of a report, behind the check of the rights. -/
theorem writes_reportSweep {turn : PlatformInput} {examId : String}
    {check : Except ServiceException Unit}
    (h : runToEnd ctx turns (orThrow m check fun _ =>
      awaits m (.reportSweep examId (staleBefore ctx turn.now) m.proctorMemoryState))
      = some (m', r)) : Writes ctx call turns m m' r := by
  refine writes_orThrow h fun _ _ h => ?_
  obtain ⟨resumed, rest, -, h⟩ := runToEnd_awaits h
  cases runToEnd_finished h
  exact .sweeps examId (staleBefore ctx turn.now) resumed (.keeps (.refl _) trivial)

/-- The status of a candidate is written, and none of the records. -/
theorem writes_markCandidateReady {turn : PlatformInput} {inviteToken : String}
    (h : runToEnd ctx turns (startCall ctx turn m (.markCandidateReady inviteToken))
      = some (m', r)) : Writes ctx (.markCandidateReady inviteToken) turns m m' r := by
  obtain ⟨resumed, rest, -, h⟩ := runToEnd_awaits h
  refine writes_orThrow h fun result hready h => ?_
  cases runToEnd_finished h
  unfold markCandidateReadyInStore at hready
  split at hready
  · cases hready
  · obtain ⟨invite, -, hready⟩ := bind_eq_ok.mp hready
    cases hready
    exact .makesReady inviteToken _ rfl

/-- A device is written behind the sweep of its exam. -/
theorem writes_upsertProctorDevice {turn : PlatformInput} {inviteToken : String}
    {input : UpsertProctorDeviceInput}
    (h : runToEnd ctx turns (startCall ctx turn m (.upsertProctorDevice inviteToken input))
      = some (m', r)) : Writes ctx call turns m m' r := by
  obtain ⟨found, rest, hturns, h⟩ := runToEnd_awaits h
  refine writes_orThrow h fun invite hinvite h => ?_
  obtain ⟨stored, last, hrest, h⟩ := runToEnd_awaits h
  cases runToEnd_finished h
  obtain ⟨hcandidate, hexam⟩ := candidate_of_invite hinvite
  refine .putsDevice invite input stored ?_ hcandidate hexam
  rw [hturns, hrest]
  simp

/-- A candidate who has passed the gate submits: the writes are those of the submission, and his
status changes only where it may. -/
theorem writes_beginSubmit {invite : CandidateInvite} {input : CodeInput} {question : Question}
    {testCases : List TestCase} (hlater : ∀ turn ∈ later, turn ∈ turns)
    (hcandidate : invite.candidate ∈ m.candidates) (hentered : invite.candidate.status ≠ .invited)
    (h : runToEnd ctx later (beginSubmit m invite input question testCases) = some (m', r)) :
    Writes ctx call turns m m' r := by
  obtain ⟨judged, rest, hturns, h⟩ := runToEnd_awaits h
  refine writes_orThrow h fun result hsubmit h => ?_
  cases runToEnd_finished h
  unfold submitCandidateCodeInStore at hsubmit
  obtain ⟨runResult, -, hsubmit⟩ := bind_eq_ok.mp hsubmit
  cases hsubmit
  refine .submits invite _ ⟨judged, hlater judged ?_, rfl⟩ hcandidate hentered
  rw [hturns]
  exact List.mem_cons_self

/-- What a call on the code writes behind the gate: a draft, a run or a submission, or nothing when
it throws. -/
theorem writes_afterExamSession {inviteToken : String} {invite : CandidateInvite}
    {input : CodeInput} {code : CodeCall}
    (hcall : call = .withInvite inviteToken (.code code input))
    (hlater : ∀ turn ∈ later, turn ∈ turns)
    (hcandidate : invite.candidate ∈ m.candidates) (hentered : invite.candidate.status ≠ .invited)
    (h : runToEnd ctx later (afterExamSession m invite input code) = some (m', r)) :
    Writes ctx call turns m m' r := by
  cases code with
  | saveCandidateCodeDraft =>
      obtain ⟨saved, rest, hturns, h⟩ := runToEnd_awaits h
      cases runToEnd_finished h
      refine .savesDraft inviteToken invite input saved (hlater saved ?_) hcall
      rw [hturns]
      exact List.mem_cons_self
  | runCandidateCode =>
      obtain ⟨found, rest, hturns, h⟩ := runToEnd_awaits h
      obtain ⟨judged, last, hrest, h⟩ := runToEnd_awaits h
      refine writes_orThrow h fun result hrun h => ?_
      cases runToEnd_finished h
      unfold runCandidateCodeInStore at hrun
      obtain ⟨runResult, -, hrun⟩ := bind_eq_ok.mp hrun
      cases hrun
      refine .runs _ ⟨judged, hlater judged ?_, rfl⟩
      rw [hturns, hrest]
      simp
  | submitCandidateCode =>
      obtain ⟨found, rest, hturns, h⟩ := runToEnd_awaits h
      have hrest : ∀ turn ∈ rest, turn ∈ turns := fun turn hturn =>
        hlater turn (hturns ▸ List.mem_cons_of_mem found hturn)
      refine writes_orThrow h fun question _ h => ?_
      unfold afterQuestion at h
      split at h
      · -- A coding question is judged with its test cases.
        refine writes_orThrow h fun _ _ h => ?_
        obtain ⟨cases, last, hlast, h⟩ := runToEnd_awaits h
        refine writes_beginSubmit (fun turn hturn => hrest turn ?_) hcandidate hentered h
        rw [hlast]
        exact List.mem_cons_of_mem cases hturn
      · exact writes_beginSubmit hrest hcandidate hentered h

/-- A method that has its invite writes what its kind of writes allows, for each of the methods. -/
theorem writes_afterInvite {turn : PlatformInput} {inviteToken : String}
    {invite : CandidateInvite} {method : InviteCall}
    (hcall : call = .withInvite inviteToken method) (hlater : ∀ turn ∈ later, turn ∈ turns)
    (hcandidate : invite.candidate ∈ m.candidates)
    (h : runToEnd ctx later (afterInvite ctx turn m inviteToken invite method) = some (m', r)) :
    Writes ctx call turns m m' r := by
  cases method with
  | getCandidateInvite => exact writes_returns h (.refl m) trivial
  | createCandidateEnvironmentCheckSession =>
      exact writes_orThrow h fun session _ h => writes_returns h (.refl m) trivial
  | saveCandidateEnvironmentCheck input =>
      refine writes_orThrow h fun _ _ h => ?_
      obtain ⟨saved, rest, hturns, h⟩ := runToEnd_awaits h
      cases runToEnd_finished h
      refine .checks _ ⟨saved, hlater saved ?_, rfl⟩
      rw [hturns]
      exact List.mem_cons_self
  | verifyCandidateIdentity input =>
      refine writes_orThrow h fun acceptedAt _ h => ?_
      obtain ⟨verified, rest, hturns, h⟩ := runToEnd_awaits h
      refine writes_orThrow h fun result hverify h => ?_
      cases runToEnd_finished h
      unfold verifyCandidateIdentityInStore at hverify
      obtain ⟨engineResult, -, hverify⟩ := bind_eq_ok.mp hverify
      cases hverify
      refine .verifies _ ⟨verified, hlater verified ?_, rfl⟩
      rw [hturns]
      exact List.mem_cons_self
  | createCandidateIdentitySession input =>
      obtain ⟨updated, rest, -, h⟩ := runToEnd_awaits h
      -- The consent stays, whatever the provider answers.
      rcases runToEnd_orThrow h with ⟨error, heq⟩ | ⟨_, -, h⟩
      · cases heq
        exact .consents invite.candidate.id turn.now trivial
      · obtain ⟨opened, last, -, h⟩ := runToEnd_awaits h
        rcases runToEnd_orThrow h with ⟨error, heq⟩ | ⟨session, -, h⟩
        · cases heq
          exact .consents invite.candidate.id turn.now trivial
        · cases runToEnd_finished h
          exact .consents invite.candidate.id turn.now trivial
  | getCandidateWorkspace =>
      refine writes_orThrow h fun _ _ h => ?_
      obtain ⟨found, rest, -, h⟩ := runToEnd_awaits h
      refine writes_orThrow h fun result hget h => ?_
      cases runToEnd_finished h
      obtain ⟨⟨session, examSessions⟩, hensure, hget⟩ := bind_eq_ok.mp hget
      cases hget
      exact .ensuresSession invite found session examSessions hensure (.keeps (.refl _) trivial)
  | logProctorEvent input =>
      obtain ⟨logged, rest, -, h⟩ := runToEnd_awaits h
      exact writes_returns h ⟨rfl, rfl, rfl, rfl, rfl, rfl, rfl, rfl, rfl⟩ trivial
  | code code input =>
      refine writes_orThrow h fun _ hassert h => ?_
      unfold assertCodeCall at hassert
      obtain ⟨_, hgate, -⟩ := bind_eq_ok.mp hassert
      have hentered := (gateOpen_of_assert hgate).entered
      obtain ⟨opened, rest, hturns, h⟩ := runToEnd_awaits h
      refine writes_orThrow h fun examSessions hopen h => ?_
      obtain ⟨resumed, last, hrest, h⟩ := runToEnd_awaits h
      obtain ⟨session, hensure, -⟩ := assertExamSessionOpenInStore_ok hopen
      refine .ensuresSession invite opened session examSessions hensure ?_
      refine writes_afterExamSession hcall (fun turn hturn => hlater turn ?_) hcandidate hentered h
      rw [hturns, hrest]
      exact List.mem_cons_of_mem _ (List.mem_cons_of_mem _ hturn)

/-- A method that reads its invite first writes what the method writes, or nothing when there is no
such invite. -/
theorem writes_beginInvite {inviteToken : String} {method : InviteCall}
    (h : runToEnd ctx turns (beginInvite m inviteToken method) = some (m', r)) :
    Writes ctx (.withInvite inviteToken method) turns m m' r := by
  rcases runToEnd_beginInvite h with ⟨error, rfl, rfl⟩ | hrest
  · exact .keeps (.refl m') trivial
  · obtain ⟨first, second, third, fourth, rest, candidate, exam, hturns, hcandidate, -, h⟩ := hrest
    have hlater : ∀ turn ∈ rest, turn ∈ turns := by
      intro turn hturn
      rw [hturns]
      simp [hturn]
    exact .sweeps exam.id (staleBefore ctx first.now) second
      (writes_afterInvite rfl hlater (List.mem_of_find?_eq_some hcandidate) h)

/-- What an operation writes, whatever it is: the cases are the calls of the store and the turns
through which each of them goes. -/
theorem perform_writes {operation : PlatformOperation}
    (h : perform ctx m operation = some (m', r)) :
    Writes ctx operation.call operation.turns m m' r := by
  obtain ⟨call, turn, turns⟩ := operation
  cases call with
  | examAdmin session call => exact writes_examAdmin h
  | sendCandidateInviteEmail candidateId session => exact writes_sendCandidateInviteEmail h
  | createProctorAction candidateId input session => exact writes_createProctorAction h
  | saveCompetencyReport input report =>
      obtain ⟨saved, rest, -, h⟩ := runToEnd_awaits h
      exact writes_returns h ⟨rfl, rfl, rfl, rfl, rfl, rfl, rfl, rfl, rfl⟩ trivial
  | getExamReport examId session => exact writes_reportSweep h
  | getLiveProctorState examId session => exact writes_reportSweep h
  | withInvite inviteToken method =>
      cases method with
      | createCandidateIdentitySession input =>
          exact writes_orThrow h fun _ _ h => writes_beginInvite h
      | _ => exact writes_beginInvite h
  | markCandidateReady inviteToken => exact writes_markCandidateReady h
  | upsertProctorDevice inviteToken input => exact writes_upsertProctorDevice h

end

end Dcvp.Proofs
