import Dcvp.Proofs.ExamLock
import Dcvp.Services.PlatformStore.CandidateAdmin

/-!
# `Dcvp.Proofs.ProctorHistory`: the gate on a history of proctor actions

`recorded` folds `createProctorActionInStore` over a list of calls, from an empty array. Each call
brings its own arrays of exams and candidates, its own session and its own clock, so the calls may
be about any candidates. A call that throws records nothing. `recorded_eq` says what the fold
makes: the actions of the accepted calls, the newest one in front.

The memory sorts that array by text and takes the first blocking action. The sort is stable and the
array is sorted already when the clock does not go back, also when two actions have one date. So
the gate finds the blocking action that was created last (`latestMemoryBlockingAction_recorded`),
and `gate_follows_last_action` is what the candidate meets.
-/

set_option autoImplicit false

namespace Dcvp.Proofs

open Dcvp.Lib
open Dcvp.Shared
open Dcvp.Services.PlatformStore

/-! ### Calls of proctors -/

/-- A call of `createProctorActionInStore`, with the arrays of exams and candidates that it gets. -/
structure ProctorRequest where
  exams : List Exam
  candidates : List Candidate
  session : AuthSession
  candidateId : String
  input : CreateProctorActionInput
  turn : PlatformInput

namespace ProctorRequest

/-- The call, with the actions so far. -/
def perform (request : ProctorRequest) (proctorActions : List ProctorAction) :
    Except ServiceException (ProctorAction × List ProctorAction) := do
  assertProctorRights request.session
  createProctorActionInStore
    { candidates := request.candidates, exams := request.exams, proctorActions }
    request.session request.candidateId request.input request.turn

/-- The array after the call. -/
def record (proctorActions : List ProctorAction) (request : ProctorRequest) :
    List ProctorAction :=
  match request.perform proctorActions with
  | .ok result => result.2
  | .error _ => proctorActions

/-- The action that the call creates, when it is accepted. -/
def created (request : ProctorRequest) : Option ProctorAction :=
  (request.perform []).toOption.map Prod.fst

/-- The call is about the candidate, and it pauses, resumes or terminates. -/
def blocks (candidateId : String) (request : ProctorRequest) : Bool :=
  decide (request.candidateId = candidateId) && isBlocking request.input.type

/-- Whether a call is accepted does not depend on the actions so far. An accepted one puts its
action in front of them. -/
theorem record_eq (request : ProctorRequest) (actions : List ProctorAction) :
    record actions request = request.created.toList ++ actions := by
  unfold record created perform createProctorActionInStore findCandidateWithExamInStore
  cases assertProctorRights request.session with
  | error error => rfl
  | ok _ =>
      cases request.candidates.find? (·.id = request.candidateId) with
      | none => rfl
      | some candidate =>
          cases hexam : findAccessibleExam request.exams candidate.examId request.session with
          | error error =>
              simp only [hexam]
              rfl
          | ok exam =>
              simp only [hexam]
              rfl

/-- What the action of a call shows: the candidate and the type of the request, and the clock of
its turn. -/
theorem created_fields {request : ProctorRequest} {action : ProctorAction}
    (h : request.created = some action) :
    action.candidateId = request.candidateId ∧ action.type = request.input.type ∧
      action.createdAt = request.turn.nowIso := by
  unfold created at h
  obtain ⟨result, hresult, rfl⟩ := Option.map_eq_some_iff.mp h
  have hok : request.perform [] = .ok result := by
    cases hperform : request.perform [] with
    | error error =>
        rw [hperform] at hresult
        cases hresult
    | ok value =>
        rw [hperform] at hresult
        cases hresult
        rfl
  obtain ⟨-, -, hcreate⟩ := bind_eq_ok.mp hok
  obtain ⟨found, -, hfound⟩ := bind_eq_ok.mp hcreate
  cases hfound
  exact ⟨rfl, rfl, rfl⟩

end ProctorRequest

/-- The array after a list of calls. -/
def recorded (requests : List ProctorRequest) : List ProctorAction :=
  requests.foldl ProctorRequest.record []

/-- What the last accepted call does that pauses, resumes or terminates the candidate. -/
def lastBlocking (requests : List ProctorRequest) (candidateId : String) :
    Option ProctorActionType :=
  ((requests.filterMap ProctorRequest.created).filter fun action =>
    decide (action.candidateId = candidateId) && isBlocking action.type).getLast?.map (·.type)

/-- The array has the actions of the accepted calls, the newest one in front. -/
theorem recorded_eq (requests : List ProctorRequest) :
    recorded requests = (requests.filterMap ProctorRequest.created).reverse := by
  have hfold : ∀ actions, requests.foldl ProctorRequest.record actions
      = (requests.filterMap ProctorRequest.created).reverse ++ actions := by
    induction requests with
    | nil => exact fun _ => rfl
    | cons request requests ih =>
        intro actions
        rw [List.foldl_cons, ih, ProctorRequest.record_eq]
        cases hcreated : request.created with
        | none => simp [hcreated]
        | some action => simp [hcreated]
  rw [recorded, hfold, List.append_nil]

section
variable {ctx : PlatformContext} {requests : List ProctorRequest}

/-- A clock that does not go back keeps the array sorted. -/
theorem newestFirst_recorded
    (hnow : (requests.filter (·.created.isSome)).Pairwise fun earlier later =>
      earlier.turn.now ≤ later.turn.now)
    (hlocale : ∀ earlier ∈ requests, ∀ later ∈ requests, earlier.turn.now ≤ later.turn.now →
      (ctx.localeCompare earlier.turn.nowIso later.turn.nowIso).isLE = true) :
    NewestFirst ctx (recorded requests) := by
  unfold NewestFirst
  rw [recorded_eq, List.pairwise_reverse, List.pairwise_filterMap]
  rw [List.pairwise_filter] at hnow
  refine hnow.imp_of_mem fun {earlier later} hearlier hlater hle action haction other hother => ?_
  have hdate := (ProctorRequest.created_fields haction).2.2
  have hdate' := (ProctorRequest.created_fields hother).2.2
  rw [hdate, hdate']
  exact hlocale earlier hearlier later hlater (hle (by simp [haction]) (by simp [hother]))

/-- The newest blocking action is the one that was created last. -/
theorem latestMemoryBlockingAction_recorded (invite : CandidateInvite)
    (hnewest : NewestFirst ctx (recorded requests)) :
    latestMemoryBlockingAction ctx invite (recorded requests)
      = ((requests.filterMap ProctorRequest.created).filter fun action =>
          decide (action.candidateId = invite.candidate.id) && isBlocking action.type).getLast? := by
  have hsorted : NewestFirst ctx
      ((recorded requests).filter fun action =>
        decide (action.candidateId = invite.candidate.id) && isBlocking action.type) :=
    List.Pairwise.sublist List.filter_sublist hnewest
  unfold latestMemoryBlockingAction sortByNewest
  rw [List.mergeSort_of_pairwise hsorted, recorded_eq, List.filter_reverse, List.head?_reverse]

/-- Actions on others, warnings and memos are not among the blocking ones. -/
theorem blocking_created_filter (candidateId : String) :
    (requests.filterMap ProctorRequest.created).filter (fun action =>
        decide (action.candidateId = candidateId) && isBlocking action.type)
      = ((requests.filter (ProctorRequest.blocks candidateId)).filterMap
          ProctorRequest.created).filter fun action =>
            decide (action.candidateId = candidateId) && isBlocking action.type := by
  induction requests with
  | nil => rfl
  | cons request requests ih =>
      cases hcreated : request.created with
      | none =>
          -- A request that is refused leaves no action, whatever it is about.
          rw [List.filterMap_cons_none hcreated, ih]
          cases hblocks : request.blocks candidateId with
          | true => rw [List.filter_cons_of_pos hblocks, List.filterMap_cons_none hcreated]
          | false => rw [List.filter_cons_of_neg (by simp [hblocks])]
      | some action =>
          obtain ⟨hcandidate, htype, -⟩ := ProctorRequest.created_fields hcreated
          have hsame : (decide (action.candidateId = candidateId) && isBlocking action.type)
              = request.blocks candidateId := by
            rw [hcandidate, htype]
            rfl
          rw [List.filterMap_cons_some hcreated]
          cases hblocks : request.blocks candidateId with
          | true =>
              rw [List.filter_cons_of_pos (by rw [hsame, hblocks]), List.filter_cons_of_pos hblocks,
                List.filterMap_cons_some hcreated,
                List.filter_cons_of_pos (by rw [hsame, hblocks]), ih]
          | false =>
              rw [List.filter_cons_of_neg (by simp [hsame, hblocks]),
                List.filter_cons_of_neg (by simp [hblocks]), ih]

end

/-! ### The gate -/

/-- The gate looks at the array of actions through the newest blocking one. -/
theorem assertExamSessionOpenInStore_congr {ctx : PlatformContext}
    {actions actions' : List ProctorAction} {sessions : List ExamSession}
    {invite : CandidateInvite} {turn : PlatformInput}
    (h : latestMemoryBlockingAction ctx invite actions
      = latestMemoryBlockingAction ctx invite actions') :
    assertExamSessionOpenInStore ctx actions sessions invite turn
      = assertExamSessionOpenInStore ctx actions' sessions invite turn := by
  unfold assertExamSessionOpenInStore
  rw [h]

/-- With time remaining, the gate accepts what the newest blocking action allows. -/
theorem assertExamSessionOpenInStore_remaining {ctx : PlatformContext}
    {actions : List ProctorAction} {sessions sessions' : List ExamSession}
    {invite : CandidateInvite} {turn : PlatformInput} {session : ExamSession}
    (hsession : ensureMemoryExamSession ctx sessions invite turn = .ok (session, sessions'))
    (hremaining : isExpired session = false) :
    assertExamSessionOpenInStore ctx actions sessions invite turn
      = (assertProctorActionAllowsExam (latestMemoryBlockingAction ctx invite actions)).map
          fun _ => sessions' := by
  unfold assertExamSessionOpenInStore
  rw [hsession]
  cases assertProctorActionAllowsExam (latestMemoryBlockingAction ctx invite actions) with
  | error error => rfl
  | ok _ =>
      unfold isExpired at hremaining
      simp only [bind, Except.bind, Except.map]
      cases hseconds : session.remainingSeconds with
      | none => rfl
      | some remaining =>
          rw [hseconds] at hremaining
          exact if_neg (of_decide_eq_false hremaining)

/-- Of the blocking actions only `RESUME_EXAM` lets the exam go on, and so does the absence of one.
-/
theorem assertProctorActionAllowsExam_ok_iff {action : Option ProctorAction}
    (hblocking : ∀ a, action = some a → isBlocking a.type = true) :
    assertProctorActionAllowsExam action = .ok () ↔
      action.map (·.type) = none ∨ action.map (·.type) = some .resumeExam := by
  unfold assertProctorActionAllowsExam
  cases action with
  | none => simp
  | some action =>
      have htype := hblocking action rfl
      cases hcase : action.type <;> simp_all [isBlocking]

/-- Pause and resume follow the last action that pauses, resumes or terminates. Other actions, and
the actions on other candidates, may as well not be there. -/
theorem gate_follows_last_action (ctx : PlatformContext) (requests : List ProctorRequest)
    (sessions : List ExamSession) (invite : CandidateInvite) (turn : PlatformInput)
    (hnow : (requests.filter (·.created.isSome)).Pairwise fun earlier later =>
      earlier.turn.now ≤ later.turn.now)
    (hlocale : ∀ earlier ∈ requests, ∀ later ∈ requests, earlier.turn.now ≤ later.turn.now →
      (ctx.localeCompare earlier.turn.nowIso later.turn.nowIso).isLE = true) :
    assertExamSessionOpenInStore ctx (recorded requests) sessions invite turn
      = assertExamSessionOpenInStore ctx
          (recorded (requests.filter (ProctorRequest.blocks invite.candidate.id))) sessions invite
          turn ∧
    ∀ session sessions',
      ensureMemoryExamSession ctx sessions invite turn = .ok (session, sessions') →
      isExpired session = false →
      ((∃ examSessions, assertExamSessionOpenInStore ctx (recorded requests) sessions invite turn
          = .ok examSessions) ↔
        lastBlocking requests invite.candidate.id = none ∨
          lastBlocking requests invite.candidate.id = some .resumeExam) := by
  have hnewest := newestFirst_recorded hnow hlocale
  have hlatest := latestMemoryBlockingAction_recorded invite hnewest
  constructor
  -- The other actions may be left out: what is left is still recorded with the newest first, and
  -- has the same newest blocking action.
  · have hnewest' : NewestFirst ctx
        (recorded (requests.filter (ProctorRequest.blocks invite.candidate.id))) := by
      refine newestFirst_recorded ?_ fun earlier hearlier later hlater =>
        hlocale earlier (List.mem_of_mem_filter hearlier) later (List.mem_of_mem_filter hlater)
      rw [List.filter_comm]
      exact hnow.sublist List.filter_sublist
    refine assertExamSessionOpenInStore_congr ?_
    rw [hlatest, latestMemoryBlockingAction_recorded invite hnewest', blocking_created_filter]
  · intro session sessions' hsession hremaining
    rw [assertExamSessionOpenInStore_remaining hsession hremaining, hlatest]
    -- What the gate looks up is a blocking action, so only a resume lets it pass.
    have hblocking : ∀ action,
        ((requests.filterMap ProctorRequest.created).filter fun action =>
          decide (action.candidateId = invite.candidate.id) && isBlocking action.type).getLast?
            = some action → isBlocking action.type = true := by
      intro action haction
      have hkeep := List.of_mem_filter (List.mem_of_getLast? haction)
      exact (Bool.and_eq_true_iff.mp hkeep).2
    unfold lastBlocking
    rw [← assertProctorActionAllowsExam_ok_iff hblocking]
    cases assertProctorActionAllowsExam _ with
    | error error => simp [Except.map]
    | ok _ => simp [Except.map]

/-! ### A pause that is taken back at once -/

/-- A proctor of the organization acts on the candidate of `sittingInvite`. -/
def requestOn (candidateId : String) (type : ProctorActionType) (now : Int) : ProctorRequest where
  exams := [sittingInvite.exam]
  candidates := [sittingInvite.candidate, { sittingInvite.candidate with id := "cand_2" }]
  session := managerOf "org_a"
  candidateId
  input := { type, message := "" }
  turn := { now }

/-- The exam is paused and resumed within a millisecond. Then another candidate is terminated. -/
def resumedAtOnce : List ProctorRequest :=
  [requestOn "cand_1" .pauseExam 0, requestOn "cand_1" .resumeExam 0,
    requestOn "cand_1" .memo 0, requestOn "cand_2" .terminateExam 1]

/-- The gate lets the candidate in: the exam was paused and resumed within one millisecond, and the
later call is the newest one. -/
theorem gate_follows_last_action_resumed :
    ∃ examSessions, assertExamSessionOpenInStore clockContext.toPlatformContext
      (recorded resumedAtOnce) [] sittingInvite { now := 1 } = .ok examSessions := by
  have hlocale : ∀ earlier ∈ resumedAtOnce, ∀ later ∈ resumedAtOnce,
      earlier.turn.now ≤ later.turn.now →
      (clockContext.localeCompare earlier.turn.nowIso later.turn.nowIso).isLE = true := by
    decide +kernel
  obtain ⟨-, hgate⟩ := gate_follows_last_action clockContext.toPlatformContext resumedAtOnce []
    sittingInvite { now := 1 } (by decide +kernel) hlocale
  have hsession : (ensureMemoryExamSession clockContext.toPlatformContext [] sittingInvite
      { now := 1 }).toOption.map (fun result => isExpired result.1) = some false := by
    decide +kernel
  cases hensure : ensureMemoryExamSession clockContext.toPlatformContext [] sittingInvite
      { now := 1 } with
  | error error =>
      rw [hensure] at hsession
      cases hsession
  | ok result =>
      rw [hensure] at hsession
      exact (hgate result.1 result.2 hensure (Option.some.inj hsession)).mpr
        (.inr (by decide +kernel))

end Dcvp.Proofs
