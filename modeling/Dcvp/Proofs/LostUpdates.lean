import Dcvp.Lib.ChangeLog
import Dcvp.Services.PlatformStore.Records

/-!
# `Dcvp.Proofs.LostUpdates`: when the memory store loses no update

`Records` is the abstract model: each operation updates the arrays in one piece. Its updates
lose no change (`present_or_superseded`, `present_of_mem_changes`).

The store writes back what it computed from a snapshot. `SnapshotCurrent` says that the
snapshot of a call still agrees with the array that the call overwrites. Then the turn of the
call makes exactly its abstract update, and returns what is recorded (`resumeCall_makes`).
From there `Survives` is carried through a run by the rule of `Dcvp.Lib.ChangeLog`.

`createCandidateIdentitySession` reads the array in the turn in which it writes it, so it
needs no condition. The six other operations that write these arrays do.
-/

set_option autoImplicit false

namespace Dcvp.Proofs

open Dcvp.Lib
open Dcvp.Shared
open Dcvp.Services
open Dcvp.Services.PlatformStore

/-! ### The abstract model loses no change -/

/-- An element that is changed is there in its new form. -/
theorem mem_mapWhere {α : Type} {p : α → Bool} {f : α → α} {xs : List α} {x : α}
    (h : x ∈ xs) (hp : p x = true) : f x ∈ mapWhere p f xs :=
  List.mem_map.mpr ⟨x, h, by simp [hp]⟩

/-- An element that satisfies `p` is in the new form. -/
theorem exists_of_mem_mapWhere {α : Type} {p : α → Bool} {f : α → α} {xs : List α} {y : α}
    (h : y ∈ mapWhere p f xs) (hy : p y = true) :
    ∃ x ∈ xs.filter p, f x = y := by
  obtain ⟨x, hx, rfl⟩ := List.mem_map.mp h
  cases hp : p x with
  | true => exact ⟨x, List.mem_filter.mpr ⟨hx, hp⟩, by simp⟩
  | false => simp [hp] at hy

/-- What is known about a candidate is still known after a change of some candidates, or the
candidate is one of those. -/
theorem exists_mapWhere {candidates : List Candidate} {p : Candidate → Bool}
    {f : Candidate → Candidate} {Q : Candidate → Prop} (h : ∃ c ∈ candidates, Q c) :
    (∃ c ∈ mapWhere p f candidates, Q c) ∨ ∃ c ∈ candidates.filter p, Q c := by
  obtain ⟨c, hmem, hQ⟩ := h
  cases hp : p c with
  | false => exact Or.inl ⟨c, List.mem_map.mpr ⟨c, hmem, by simp [hp]⟩, hQ⟩
  | true => exact Or.inr ⟨c, List.mem_filter.mpr ⟨hmem, hp⟩, hQ⟩

/-- What a change of some candidates does not touch is still known. -/
theorem exists_mapWhere_of_makes {candidates : List Candidate} {p : Candidate → Bool}
    {f : Candidate → Candidate} {Q : Candidate → Prop} (hf : ∀ c, Q c → Q (f c))
    (h : ∃ c ∈ candidates, Q c) : ∃ c ∈ mapWhere p f candidates, Q c := by
  rcases exists_mapWhere (p := p) (f := f) h with hkept | ⟨c, hmem, hQ⟩
  · exact hkept
  · obtain ⟨hmem, hp⟩ := List.mem_filter.mp hmem
    exact ⟨f c, mem_mapWhere hmem hp, hf c hQ⟩

section
variable {records : Records}

/-- A change that is present stays present through an update, or the update supersedes it. -/
theorem present_or_superseded (update : RecordUpdate) {change : RecordChange}
    (h : change.PresentIn records) :
    change.PresentIn (update.apply records) ∨
      ∃ later ∈ update.changes records, later.Supersedes change := by
  -- The cases where the update can take the change out of sight are those in which both are
  -- about the same field of candidates. There the changed candidate is the witness.
  cases update with
  | addCandidate candidate =>
      refine Or.inl ?_
      cases change with
      | created _ | status _ | consent _ =>
          obtain ⟨c, hmem, hc⟩ := h
          exact ⟨c, List.mem_append_left _ hmem, hc⟩
      | inviteEmailLog _ | identityVerification _ | codeExecution _ | submission _ => exact h
  | addInviteEmailLog log =>
      refine Or.inl ?_
      cases change with
      | inviteEmailLog _ => exact List.mem_cons_of_mem _ h
      | created _ | status _ | consent _ | identityVerification _ | codeExecution _
      | submission _ => exact h
  | addIdentityVerification verification =>
      refine Or.inl ?_
      cases change with
      | identityVerification _ => exact List.mem_cons_of_mem _ h
      | created _ | status _ | consent _ | inviteEmailLog _ | codeExecution _
      | submission _ => exact h
  | recordConsent candidateId acceptedAt =>
      cases change with
      | created _ => exact Or.inl (exists_mapWhere_of_makes (fun _ hc => hc) h)
      | status _ => exact Or.inl (exists_mapWhere_of_makes (fun _ hc => hc) h)
      | consent candidate =>
          rcases exists_mapWhere h with hkept | ⟨c, hmem, hc⟩
          · exact Or.inl hkept
          · exact Or.inr ⟨_, List.mem_map.mpr ⟨c, hmem, rfl⟩, hc.1⟩
      | inviteEmailLog _ | identityVerification _ | codeExecution _ | submission _ =>
          exact Or.inl h
  | markReady inviteToken =>
      cases change with
      | created _ => exact Or.inl (exists_mapWhere_of_makes (fun _ hc => hc) h)
      | consent _ => exact Or.inl (exists_mapWhere_of_makes (fun _ hc => hc) h)
      | status candidate =>
          rcases exists_mapWhere h with hkept | ⟨c, hmem, hc⟩
          · exact Or.inl hkept
          · exact Or.inr ⟨_, List.mem_map.mpr ⟨c, hmem, rfl⟩, hc.1⟩
      | inviteEmailLog _ | identityVerification _ | codeExecution _ | submission _ =>
          exact Or.inl h
  | addCodeExecution execution =>
      refine Or.inl ?_
      cases change with
      | codeExecution _ => exact List.mem_cons_of_mem _ h
      | created _ | status _ | consent _ | inviteEmailLog _ | identityVerification _
      | submission _ => exact h
  | addSubmission submission =>
      cases change with
      | created _ => exact Or.inl (exists_mapWhere_of_makes (fun _ hc => hc) h)
      | consent _ => exact Or.inl (exists_mapWhere_of_makes (fun _ hc => hc) h)
      | status candidate =>
          rcases exists_mapWhere h with hkept | ⟨c, hmem, hc⟩
          · exact Or.inl hkept
          · exact Or.inr ⟨_, List.mem_cons_of_mem _ (List.mem_map.mpr ⟨c, hmem, rfl⟩), hc.1⟩
      | submission _ => exact Or.inl (List.mem_cons_of_mem _ h)
      | inviteEmailLog _ | identityVerification _ | codeExecution _ => exact Or.inl h

/-- An update makes its changes present: what it adds is in the new array, and what it sets is set
in every record that it finds. -/
theorem present_of_mem_changes (update : RecordUpdate) {change : RecordChange}
    (h : change ∈ update.changes records) : change.PresentIn (update.apply records) := by
  -- Per update: what it adds is in the new array, and what it sets is set in every record that it
  -- finds.
  cases update with
  | addCandidate candidate =>
      have hmem : candidate ∈ records.candidates ++ [candidate] := by simp
      rcases List.mem_cons.mp h with rfl | h
      · exact ⟨candidate, hmem, rfl⟩
      · rcases List.mem_cons.mp h with rfl | h
        · exact ⟨candidate, hmem, rfl, rfl⟩
        · rw [List.mem_singleton] at h
          subst h
          exact ⟨candidate, hmem, rfl, rfl⟩
  | addInviteEmailLog log | addIdentityVerification verification
  | addCodeExecution execution =>
      rw [RecordUpdate.changes, List.mem_singleton] at h
      subst h
      exact List.mem_cons_self
  | recordConsent candidateId acceptedAt =>
      obtain ⟨c, hc, rfl⟩ := List.mem_map.mp h
      obtain ⟨hmem, hp⟩ := List.mem_filter.mp hc
      exact ⟨setConsent acceptedAt c, mem_mapWhere hmem hp, rfl, rfl⟩
  | markReady inviteToken =>
      obtain ⟨c, hc, rfl⟩ := List.mem_map.mp h
      obtain ⟨hmem, hp⟩ := List.mem_filter.mp hc
      exact ⟨setStatus .ready c, mem_mapWhere hmem hp, rfl, rfl⟩
  | addSubmission submission =>
      rcases List.mem_cons.mp h with rfl | h
      · exact List.mem_cons_self
      · obtain ⟨c, hc, rfl⟩ := List.mem_map.mp h
        obtain ⟨hmem, hp⟩ := List.mem_filter.mp hc
        exact ⟨setStatus .inProgress c, mem_mapWhere hmem hp, rfl, rfl⟩

end

/-- A later change that supersedes a change supersedes what that one has superseded: they are about
one candidate. -/
theorem supersedes_trans (x y z : RecordChange) (hxy : x.Supersedes y)
    (hyz : y.Supersedes z) : x.Supersedes z := by
  cases y with
  | status middle =>
      cases x <;> cases z <;> first | exact hxy.elim | exact hyz.elim | exact hxy.trans hyz
  | consent middle =>
      cases x <;> cases z <;> first | exact hxy.elim | exact hyz.elim | exact hxy.trans hyz
  | _ => cases z <;> exact hyz.elim

/-! ### Snapshots -/

/-- The lists agree, up to the status of the candidates in `p`. -/
def AgreeUpToStatus (p : Candidate → Bool) (snapshot current : List Candidate) : Prop :=
  List.Forall₂ (fun a b => a = b ∨ p b = true ∧ setStatus b.status a = b) snapshot current

instance (p : Candidate → Bool) (snapshot current : List Candidate) :
    Decidable (AgreeUpToStatus p snapshot current) := by
  unfold AgreeUpToStatus
  infer_instance

/-- Lists that agree up to a status are equal when that status is set in both. -/
theorem mapWhere_of_agree {p : Candidate → Bool} {status : CandidateStatus}
    (hp : ∀ c s, p (setStatus s c) = p c)
    {snapshot current : List Candidate} (h : AgreeUpToStatus p snapshot current) :
    mapWhere p (setStatus status) snapshot = mapWhere p (setStatus status) current := by
  induction h with
  | nil => rfl
  | @cons a b snapshot current hab _ ih =>
      have hhead : (if p a then setStatus status a else a) =
          if p b then setStatus status b else b := by
        rcases hab with rfl | ⟨hpb, hab⟩
        · rfl
        · rw [← hab] at hpb ⊢
          have hpa : p a = true := by rwa [hp] at hpb
          rw [if_pos hpa, if_pos hpb]
          rfl
      exact congrArg₂ List.cons hhead ih

/-- The arrays that a suspended call is going to overwrite agree with what it was given. A
status that it sets itself may differ. -/
def SnapshotCurrent (memory : PlatformMemory) : PlatformWaiting → Prop
  | .examAdmin _ (.addCandidate ..) memoryState => memoryState.candidates = memory.candidates
  | .sendInvite _ memoryLogs => memoryLogs = memory.inviteEmailLogs
  | .verifyIdentity _ _ _ memoryVerifications =>
      memoryVerifications = memory.identityVerifications
  | .candidateReady inviteToken memoryState =>
      AgreeUpToStatus (·.inviteToken = inviteToken) memoryState.candidates memory.candidates
  | .run _ _ _ memoryExecutions => memoryExecutions = memory.codeExecutions
  | .submit invite _ _ _ memoryState =>
      memoryState.submissions = memory.submissions ∧
        AgreeUpToStatus (·.id = invite.candidate.id) memoryState.candidates memory.candidates
  | _ => True

instance (memory : PlatformMemory) (pc : PlatformWaiting) :
    Decidable (SnapshotCurrent memory pc) := by
  unfold SnapshotCurrent
  split <;> infer_instance

/-! ### Returned records -/

/-- The records that a call returned are among the changes. -/
def ReportedIn (log : List RecordChange) : PlatformValue → Prop
  | .candidate candidate => .created candidate ∈ log ∧ .status candidate ∈ log
  | .inviteEmail result => ∃ record, result.log = some record ∧ .inviteEmailLog record ∈ log
  | .identityVerification verification => .identityVerification verification ∈ log
  | .ready invite => .status invite.candidate ∈ log
  | .codeExecution execution =>
      ∃ record, toCandidateCodeExecution record = execution ∧ .codeExecution record ∈ log
  | .submission submission =>
      ∃ record, toCandidateSubmission record = submission ∧ .submission record ∈ log
  | _ => True

/-- The records that a call returned are in the store. A candidate is there up to its status
and its consent, which others may have changed since. -/
def RetainedIn (records : Records) : PlatformValue → Prop
  | .candidate candidate => ∃ c ∈ records.candidates, fixedPart c = fixedPart candidate
  | .inviteEmail result => ∃ record ∈ records.inviteEmailLogs, result.log = some record
  | .identityVerification verification => verification ∈ records.identityVerifications
  | .ready invite => ∃ c ∈ records.candidates, fixedPart c = fixedPart invite.candidate
  | .codeExecution execution =>
      ∃ record ∈ records.codeExecutions, toCandidateCodeExecution record = execution
  | .submission submission =>
      ∃ record ∈ records.submissions, toCandidateSubmission record = submission
  | _ => True

/-- The records after an update, if there is one. -/
def applied (update : Option RecordUpdate) (records : Records) : Records :=
  update.elim records (·.apply records)

/-- The changes of an update, if there is one. -/
def changed (update : Option RecordUpdate) (records : Records) : List RecordChange :=
  update.elim [] (·.changes records)

/-- A segment makes an update in one piece, and returns what is recorded. -/
structure MakesUpdate (memory : PlatformMemory) (update : Option RecordUpdate)
    (segment : PlatformSegment) : Prop where
  records : segment.1.records = applied update memory.records
  reported : ∀ value, segment.2 = .finished (.ok value) →
    ReportedIn (changed update memory.records) value

section
variable {memory memory' : PlatformMemory}

/-- A call that throws writes nothing and reports nothing. -/
theorem makes_throws (error : ServiceException) :
    MakesUpdate memory none (throws memory error) where
  records := rfl
  reported value h := by cases h

/-- A call that waits has written nothing to the records, and reports nothing yet. -/
theorem makes_awaits (pc : PlatformWaiting) (h : memory'.records = memory.records) :
    MakesUpdate memory none (awaits memory' pc) where
  records := h
  reported value hvalue := by cases hvalue

/-- A call that returns has made its update, and returns a record of it. -/
theorem makes_returns {update : Option RecordUpdate} {value : PlatformValue}
    (h : memory'.records = applied update memory.records)
    (hvalue : ReportedIn (changed update memory.records) value) :
    MakesUpdate memory update (returns memory' value) where
  records := h
  reported value' h' := by cases h'; exact hvalue

/-- A segment with an exception in the middle, when it makes no update. -/
theorem makes_orThrow {α : Type} {x : Except ServiceException α} {rest : α → PlatformSegment}
    (h : ∀ a, MakesUpdate memory none (rest a)) :
    MakesUpdate memory none (orThrow memory x rest) := by
  cases x with
  | error error => exact makes_throws error
  | ok a => exact h a

end

/-! ### One turn of a call -/

section
variable (ctx : PlatformContext) (turn : PlatformInput) (memory : PlatformMemory)

/-- The operations on an invite begin with a read. -/
theorem makes_beginInvite (inviteToken : String) (call : InviteCall) :
    MakesUpdate memory none (beginInvite memory inviteToken call) := makes_awaits _ rfl

/-- The first turn of a call makes no update, whatever the call is: it reads, and hands its
snapshot on. -/
theorem startCall_makes (call : PlatformCall) :
    MakesUpdate memory none (startCall ctx turn memory call) := by
  cases call with
  | examAdmin session call => exact makes_orThrow fun _ => makes_awaits _ rfl
  | sendCandidateInviteEmail candidateId session =>
      exact makes_orThrow fun _ => makes_awaits _ rfl
  | createProctorAction candidateId input session =>
      exact makes_orThrow fun _ => makes_awaits _ rfl
  | saveCompetencyReport input report => exact makes_awaits _ rfl
  | getExamReport examId session => exact makes_orThrow fun _ => makes_awaits _ rfl
  | getLiveProctorState examId session => exact makes_orThrow fun _ => makes_awaits _ rfl
  | withInvite inviteToken call =>
      cases call with
      | createCandidateIdentitySession input =>
          exact makes_orThrow fun _ => makes_beginInvite memory inviteToken _
      | _ => exact makes_beginInvite memory inviteToken _
  | markCandidateReady inviteToken => exact makes_awaits _ rfl
  | upsertProctorDevice inviteToken input => exact makes_awaits _ rfl

/-- A call that has its invite makes no update before its next `await`. -/
theorem afterInvite_makes (inviteToken : String) (invite : CandidateInvite) (call : InviteCall) :
    MakesUpdate memory none (afterInvite ctx turn memory inviteToken invite call) := by
  cases call with
  | getCandidateInvite => exact makes_returns rfl trivial
  | createCandidateEnvironmentCheckSession =>
      exact makes_orThrow fun _ => makes_returns rfl trivial
  | saveCandidateEnvironmentCheck input => exact makes_orThrow fun _ => makes_awaits _ rfl
  | verifyCandidateIdentity input => exact makes_orThrow fun _ => makes_awaits _ rfl
  | createCandidateIdentitySession input => exact makes_awaits _ rfl
  | getCandidateWorkspace => exact makes_orThrow fun _ => makes_awaits _ rfl
  | logProctorEvent input => exact makes_awaits _ rfl
  | code call input => exact makes_orThrow fun _ => makes_awaits _ rfl

/-- Behind the gate a call goes on with a read, or ends. -/
theorem afterExamSession_makes (invite : CandidateInvite) (input : CodeInput) (call : CodeCall) :
    MakesUpdate memory none (afterExamSession memory invite input call) := by
  cases call <;> exact makes_awaits _ rfl

/-- Behind the question a call waits for the code runner, or ends. -/
theorem afterQuestion_makes (invite : CandidateInvite) (input : CodeInput)
    (question : Question) :
    MakesUpdate memory none (afterQuestion ctx memory invite input question) := by
  unfold afterQuestion
  split
  · exact makes_orThrow fun _ => makes_awaits _ rfl
  · exact makes_awaits _ rfl

/-! #### The operations that write records -/

/-- The methods of operators on exams. Only `addCandidate` writes records, and it makes its update
if its snapshot of the candidates is current. -/
theorem examAdmin_makes (session : AuthSession) (call : ExamAdminCall)
    (memoryState : ExamAdminMemoryState)
    (h : (nextUpdate ctx turn (.examAdmin session call memoryState)).isSome →
      SnapshotCurrent memory (.examAdmin session call memoryState)) :
    MakesUpdate memory (nextUpdate ctx turn (.examAdmin session call memoryState))
      (finishExamAdmin turn memory session memoryState call) := by
  cases call with
  | createExam input => exact makes_returns rfl trivial
  | updateExam examId input => exact makes_orThrow fun _ => makes_returns rfl trivial
  | deleteExam examId => exact makes_orThrow fun _ => makes_returns rfl trivial
  | addQuestion examId input => exact makes_orThrow fun _ => makes_returns rfl trivial
  | addTestCase questionId input => exact makes_orThrow fun _ => makes_returns rfl trivial
  | addCandidate examId input =>
      simp only [nextUpdate, finishExamAdmin] at h ⊢
      unfold addCandidateInStore at h ⊢
      cases hexam : findAccessibleExam memoryState.exams examId session with
      | error error => exact makes_throws error
      | ok exam =>
          rw [hexam] at h
          have hcandidates : memoryState.candidates = memory.candidates := h rfl
          rw [hcandidates]
          exact makes_returns rfl
            ⟨List.mem_cons_self, List.mem_cons_of_mem _ List.mem_cons_self⟩

/-- `sendCandidateInviteEmail`. -/
theorem sendInvite_makes (candidateWithExam : CandidateWithExam) :
    MakesUpdate memory (nextUpdate ctx turn (.sendInvite candidateWithExam memory.inviteEmailLogs))
      (resumeCall ctx turn memory (.sendInvite candidateWithExam memory.inviteEmailLogs)) :=
  makes_returns rfl ⟨_, rfl, List.mem_cons_self⟩

/-- `verifyCandidateIdentity` makes its update in one piece if its snapshot of the verifications is
current. -/
theorem verifyIdentity_makes (invite : CandidateInvite)
    (input : CreateIdentityVerificationInput) (acceptedAt : String)
    (memoryVerifications : List IdentityVerification)
    (h : turn.verified.toOption.isSome → memoryVerifications = memory.identityVerifications) :
    MakesUpdate memory
      (nextUpdate ctx turn (.verifyIdentity invite input acceptedAt memoryVerifications))
      (resumeCall ctx turn memory
        (.verifyIdentity invite input acceptedAt memoryVerifications)) := by
  simp only [nextUpdate, resumeCall]
  unfold verifyCandidateIdentityInStore
  cases hverified : turn.verified with
  | error error => exact makes_throws error
  | ok result =>
      rw [hverified] at h
      rw [h rfl]
      exact makes_returns rfl List.mem_cons_self

/-- `createCandidateIdentitySession`, which reads the array when it writes it. -/
theorem identityConsent_makes (invite : CandidateInvite) (acceptedAt : Int) :
    MakesUpdate memory (nextUpdate ctx turn (.identityConsent invite acceptedAt))
      (resumeCall ctx turn memory (.identityConsent invite acceptedAt)) := by
  simp only [nextUpdate, resumeCall]
  cases assertIdentityVerificationEnabled invite with
  | error error => exact ⟨rfl, fun value hvalue => (by cases hvalue)⟩
  | ok _ => exact ⟨rfl, fun value hvalue => (by cases hvalue)⟩

/-- `runCandidateCode` makes the update that its turn decides, when the list that it has read is
still the one of the memory, or the judge throws. -/
theorem run_makes (invite : CandidateInvite) (input : CodeInput) (testCases : List TestCase)
    (memoryExecutions : List CodeExecution)
    (h : turn.judged.toOption.isSome → memoryExecutions = memory.codeExecutions) :
    MakesUpdate memory (nextUpdate ctx turn (.run invite input testCases memoryExecutions))
      (resumeCall ctx turn memory (.run invite input testCases memoryExecutions)) := by
  simp only [nextUpdate, resumeCall]
  unfold runCandidateCodeInStore
  cases hjudged : turn.judged with
  | error error => exact makes_throws error
  | ok result =>
      rw [hjudged] at h
      rw [h rfl]
      exact makes_returns rfl ⟨_, rfl, List.mem_cons_self⟩

/-- `submitCandidateCode` makes its update in one piece if its snapshots are current, up to the
status that it writes itself. -/
theorem submit_makes (invite : CandidateInvite) (input : CodeInput) (question : Question)
    (testCases : List TestCase) (memoryState : SubmitMemoryState)
    (h : (submissionRunResult ctx question input turn).toOption.isSome →
      memoryState.submissions = memory.submissions ∧
        AgreeUpToStatus (·.id = invite.candidate.id) memoryState.candidates memory.candidates) :
    MakesUpdate memory (nextUpdate ctx turn (.submit invite input question testCases memoryState))
      (resumeCall ctx turn memory (.submit invite input question testCases memoryState)) := by
  simp only [nextUpdate, resumeCall]
  unfold submitCandidateCodeInStore
  cases hresult : submissionRunResult ctx question input turn with
  | error error => exact makes_throws error
  | ok result =>
      rw [hresult] at h
      obtain ⟨hsubmissions, hcandidates⟩ := h rfl
      rw [mapWhere_of_agree (fun _ _ => rfl) hcandidates, hsubmissions]
      exact makes_returns rfl ⟨_, rfl, List.mem_cons_self⟩

/-- The candidate of an invite is one of the memory, and has the token of the call. -/
theorem candidate_of_getCandidateInvite {memoryState : CandidatePortalMemoryState}
    {inviteToken : String} {invite : CandidateInvite}
    (h : getCandidateInviteInStore memoryState inviteToken = .ok invite) :
    invite.candidate ∈ memoryState.candidates ∧ invite.candidate.inviteToken = inviteToken := by
  unfold getCandidateInviteInStore at h
  split at h
  · cases h
  · rename_i candidate hfind
    have htoken : candidate.inviteToken = inviteToken := by
      simpa using List.find?_some hfind
    have hmem := List.mem_of_find?_eq_some hfind
    split at h
    · cases h
    · split at h
      · cases h
      · cases h
        exact ⟨hmem, htoken⟩

/-- What `markCandidateReadyInStore` answers: the changed array, and the invite of a candidate
of that array. -/
theorem markCandidateReadyInStore_ok {memoryState : CandidatePortalMemoryState}
    {inviteToken : String} {result : CandidateInvite × List Candidate}
    (h : markCandidateReadyInStore memoryState inviteToken = .ok result) :
    result.2 = mapWhere (·.inviteToken = inviteToken) (setStatus .ready) memoryState.candidates ∧
      result.1.candidate ∈ result.2 ∧ result.1.candidate.inviteToken = inviteToken := by
  unfold markCandidateReadyInStore at h
  split at h
  · cases h
  · obtain ⟨invite, hinvite, h⟩ := bind_eq_ok.mp h
    cases h
    exact ⟨rfl, candidate_of_getCandidateInvite hinvite⟩

/-- `markCandidateReady`. The candidate in the returned invite is one of those that were
changed. -/
theorem candidateReady_makes (inviteToken : String) (memoryState : CandidatePortalMemoryState)
    (h : (markCandidateReadyInStore memoryState inviteToken).toOption.isSome →
      AgreeUpToStatus (·.inviteToken = inviteToken) memoryState.candidates memory.candidates) :
    MakesUpdate memory (nextUpdate ctx turn (.candidateReady inviteToken memoryState))
      (resumeCall ctx turn memory (.candidateReady inviteToken memoryState)) := by
  simp only [nextUpdate, resumeCall]
  cases hready : markCandidateReadyInStore memoryState inviteToken with
  | error error => exact makes_throws error
  | ok result =>
      obtain ⟨harray, hmem, htoken⟩ := markCandidateReadyInStore_ok hready
      rw [hready] at h
      have hcurrent : result.2 =
          mapWhere (·.inviteToken = inviteToken) (setStatus .ready) memory.candidates :=
        harray.trans (mapWhere_of_agree (fun _ _ => rfl) (h rfl))
      refine makes_returns (by rw [hcurrent]; rfl) ?_
      rw [hcurrent] at hmem
      obtain ⟨c, hc, hcandidate⟩ := exists_of_mem_mapWhere hmem (decide_eq_true htoken)
      exact List.mem_map.mpr ⟨c, hc, congrArg RecordChange.status hcandidate⟩

/-- A turn of a suspended call makes its update in one piece, when the snapshot that it
writes back is current. -/
theorem resumeCall_makes (pc : PlatformWaiting)
    (h : (nextUpdate ctx turn pc).isSome → SnapshotCurrent memory pc) :
    MakesUpdate memory (nextUpdate ctx turn pc) (resumeCall ctx turn memory pc) := by
  cases pc with
  | examAdmin session call memoryState =>
      exact examAdmin_makes ctx turn memory session call memoryState h
  | sendInvite candidateWithExam memoryLogs =>
      obtain rfl : memoryLogs = memory.inviteEmailLogs := h rfl
      exact sendInvite_makes ctx turn memory candidateWithExam
  | verifyIdentity invite input acceptedAt memoryVerifications =>
      exact verifyIdentity_makes ctx turn memory invite input acceptedAt _
        fun hok => h (by simpa [nextUpdate] using hok)
  | identityConsent invite acceptedAt =>
      exact identityConsent_makes ctx turn memory invite acceptedAt
  | candidateReady inviteToken memoryState =>
      exact candidateReady_makes ctx turn memory inviteToken memoryState
        fun hok => h (by simpa [nextUpdate] using hok)
  | run invite input testCases memoryExecutions =>
      exact run_makes ctx turn memory invite input testCases _
        fun hok => h (by simpa [nextUpdate] using hok)
  | submit invite input question testCases memoryState =>
      exact submit_makes ctx turn memory invite input question testCases memoryState
        fun hok => h (by simpa [nextUpdate] using hok)
  -- The segments from here on leave the records as they are.
  | findCandidate candidateId session memoryState =>
      exact makes_orThrow fun _ => makes_awaits _ rfl
  | proctorAction candidateId input session memoryState =>
      exact makes_orThrow fun _ => makes_returns rfl trivial
  | competencyReport input report memoryReports => exact makes_returns rfl trivial
  | reportSweep examId before memoryState => exact makes_returns rfl trivial
  | firstInvite inviteToken call memoryState =>
      exact makes_orThrow fun _ => makes_awaits _ rfl
  | sweep inviteToken call examId before memoryState => exact makes_awaits _ rfl
  | swept inviteToken call => exact makes_awaits _ rfl
  | invite inviteToken call memoryState =>
      exact makes_orThrow fun _ => afterInvite_makes ctx turn memory inviteToken _ call
  | environmentCheck invite input memoryChecks => exact makes_returns rfl trivial
  | identitySession => exact makes_orThrow fun _ => makes_returns rfl trivial
  | workspace invite memoryState => exact makes_orThrow fun _ => makes_returns rfl trivial
  | proctorEvent invite input memoryEvents => exact makes_returns rfl trivial
  | deviceInvite inviteToken input memoryState =>
      exact makes_orThrow fun _ => makes_awaits _ rfl
  | device invite input memoryDevices => exact makes_returns rfl trivial
  | examSession invite call input memoryActions memorySessions =>
      exact makes_orThrow fun _ => makes_awaits _ rfl
  | examSessionOpen invite call input =>
      exact afterExamSession_makes memory invite input call
  | draft invite input memoryDrafts => exact makes_returns rfl trivial
  | runTestCases invite input memoryState => exact makes_awaits _ rfl
  | submitQuestion invite input memoryState =>
      exact makes_orThrow fun _ => afterQuestion_makes ctx memory invite input _
  | submitTestCases invite input question memoryState => exact makes_awaits _ rfl

end

/-! ### Runs -/

/-- The call that runs on in an event, suspended until then. -/
def resumedCall (world : PlatformWorld) : PlatformEvent → Option (PlatformWaiting × PlatformInput)
  | .resume id turn =>
      match world.flights.get? id with
      | some (.ready pc) => some (pc, turn)
      | _ => none
  | _ => none

section
variable (ctx : PlatformContext)

/-- The update that an event makes. -/
def eventUpdate (world : PlatformWorld) (event : PlatformEvent) : Option RecordUpdate :=
  (resumedCall world event).bind fun call => nextUpdate ctx call.2 call.1

/-- The changes of the records that an event makes. -/
def eventChanges (world : PlatformWorld) (event : PlatformEvent) : List RecordChange :=
  changed (eventUpdate ctx world event) world.memory.records

/-- Where an event writes back a snapshot, the snapshot is current. -/
def WritesCurrent (world : PlatformWorld) (event : PlatformEvent) : Prop :=
  match resumedCall world event with
  | some (pc, turn) => (nextUpdate ctx turn pc).isSome → SnapshotCurrent world.memory pc
  | none => True

instance (world : PlatformWorld) (event : PlatformEvent) :
    Decidable (WritesCurrent ctx world event) := by
  unfold WritesCurrent
  split <;> infer_instance

/-- No update is lost: every change that was made is still present, or a later one superseded
it. Every record that a call returned is among the changes, and is in the store. -/
structure NoLostUpdate (log : List RecordChange) (world : PlatformWorld) : Prop where
  kept : Survives (·.PresentIn world.memory.records) RecordChange.Supersedes log
  reported : ∀ id value, (id, .ok value) ∈ world.results → ReportedIn log value
  retained : ∀ id value, (id, .ok value) ∈ world.results →
    RetainedIn world.memory.records value

variable {ctx}

/-- A segment that keeps to its update, at the end of a move. -/
theorem conclude_makes (world : PlatformWorld) {update : Option RecordUpdate} {id : Nat}
    {segment : PlatformSegment} (h : MakesUpdate world.memory update segment) :
    (world.conclude id segment.1 segment.2).memory.records =
        applied update world.memory.records ∧
      ∀ id' value, (id', .ok value) ∈ (world.conclude id segment.1 segment.2).results →
        (id', .ok value) ∈ world.results ∨
          ReportedIn (changed update world.memory.records) value := by
  refine ⟨by rw [World.conclude_memory]; exact h.records, fun id' value hmem => ?_⟩
  rcases World.mem_conclude_results hmem with hold | ⟨result, hfinished, hresult⟩
  · exact Or.inl hold
  · cases hresult
    exact Or.inr (h.reported value hfinished)

/-- What a move does: its update in one piece, and a result that is recorded. -/
theorem step_makes {world world' : PlatformWorld} {event : PlatformEvent}
    (hcurrent : WritesCurrent ctx world event)
    (h : (platformProgram ctx).machine.step world event = some world') :
    world'.memory.records = applied (eventUpdate ctx world event) world.memory.records ∧
      ∀ id value, (id, .ok value) ∈ world'.results →
        (id, .ok value) ∈ world.results ∨
          ReportedIn (eventChanges ctx world event) value := by
  rcases AsyncProgram.step_cases h with
    ⟨call, turn, m, o, rfl, hstart, rfl⟩ | ⟨id, turn, pc, d, reply, rfl, -, -, rfl⟩ |
    ⟨id, turn, pc, m, o, rfl, hflight, hresume, rfl⟩
  · have hmakes := startCall_makes ctx turn world.memory call
    rw [show startCall ctx turn world.memory call = (m, o) from Option.some.inj hstart] at hmakes
    exact conclude_makes { world with nextCall := world.nextCall + 1 } hmakes
  · exact ⟨rfl, fun id value hmem => Or.inl hmem⟩
  · have hcall : resumedCall world (.resume id turn) = some (pc, turn) := by
      simp only [resumedCall, hflight]
    rw [WritesCurrent, hcall] at hcurrent
    have hmakes := resumeCall_makes ctx turn world.memory pc hcurrent
    rw [show resumeCall ctx turn world.memory pc = (m, o) from Option.some.inj hresume] at hmakes
    rw [eventChanges, eventUpdate, hcall]
    exact conclude_makes world hmakes

/-- Records stay reported when changes are added. One case for each kind of value that a call
returns. -/
theorem ReportedIn.mono {log log' : List RecordChange} (hsub : log ⊆ log')
    {value : PlatformValue} (h : ReportedIn log value) : ReportedIn log' value := by
  cases value with
  | candidate candidate => exact ⟨hsub h.1, hsub h.2⟩
  | inviteEmail result =>
      obtain ⟨record, hlog, hmem⟩ := h
      exact ⟨record, hlog, hsub hmem⟩
  | identityVerification verification => exact hsub h
  | ready invite => exact hsub h
  | codeExecution execution =>
      obtain ⟨record, hshown, hmem⟩ := h
      exact ⟨record, hshown, hsub hmem⟩
  | submission submission =>
      obtain ⟨record, hshown, hmem⟩ := h
      exact ⟨record, hshown, hsub hmem⟩
  | _ => trivial

/-- The records that were returned are among the changes, throughout a run. -/
theorem run_reported (events : List PlatformEvent) (memory : PlatformMemory)
    (world : PlatformWorld)
    (hcurrent : (platformProgram ctx).machine.Meets (WritesCurrent ctx) (platformInitial memory)
      events)
    (hrun : (platformProgram ctx).machine.run (platformInitial memory) events = some world) :
    ∀ id value, (id, .ok value) ∈ world.results →
      ReportedIn ((platformProgram ctx).machine.trace (eventChanges ctx)
        (platformInitial memory) events) value := by
  refine Machine.trace_invariant
    (I := fun log world => ∀ id value, (id, .ok value) ∈ world.results → ReportedIn log value)
    ?_ events [] (platformInitial memory) world ?_ hcurrent hrun
  · intro log s e s' hs hc hstep id value hmem
    rcases (step_makes hc hstep).2 id value hmem with hold | hnew
    · exact (hs id value hold).mono (List.subset_append_left _ _)
    · exact hnew.mono (List.subset_append_right _ _)
  · intro id value hmem
    cases hmem

/-- What an event changes is present afterwards, and what was present before is so still or
is superseded. -/
theorem run_survives (events : List PlatformEvent) (memory : PlatformMemory)
    (world : PlatformWorld)
    (hcurrent : (platformProgram ctx).machine.Meets (WritesCurrent ctx) (platformInitial memory)
      events)
    (hrun : (platformProgram ctx).machine.run (platformInitial memory) events = some world) :
    Survives (·.PresentIn world.memory.records) RecordChange.Supersedes
      ((platformProgram ctx).machine.trace (eventChanges ctx) (platformInitial memory)
        events) := by
  -- Both conditions of the general rule are about one step, which makes the update of its event or
  -- none.
  refine survives_run (fun world => RecordChange.PresentIn world.memory.records) ?_ ?_
    events _ world hcurrent hrun
  · intro s e s' hc hstep change hpresent
    rw [(step_makes hc hstep).1]
    cases hupdate : eventUpdate ctx s e with
    | none => exact Or.inl hpresent
    | some update =>
        rw [eventChanges, hupdate]
        exact present_or_superseded update hpresent
  · intro s e s' hc hstep change hmem
    rw [(step_makes hc hstep).1]
    rw [eventChanges] at hmem
    cases hupdate : eventUpdate ctx s e with
    | none => rw [hupdate] at hmem; cases hmem
    | some update =>
        rw [hupdate] at hmem
        exact present_of_mem_changes update hmem

/-- A candidate whose status was changed is still there. -/
theorem candidate_of_status {log : List RecordChange} {records : Records}
    (h : Survives (·.PresentIn records) RecordChange.Supersedes log) {candidate : Candidate}
    (hmem : .status candidate ∈ log) :
    ∃ c ∈ records.candidates, fixedPart c = fixedPart candidate := by
  rcases h.visible_or_superseded supersedes_trans hmem with
    ⟨c, hc, hfixed, -⟩ | ⟨last, -, hpresent, hsup⟩
  · exact ⟨c, hc, hfixed⟩
  · cases last with
    | status later =>
        obtain ⟨c, hc, hfixed, -⟩ := hpresent
        exact ⟨c, hc, hfixed.trans hsup⟩
    | _ => exact hsup.elim

/-- A change that is not about a candidate is never superseded. -/
theorem present_of_mem {log : List RecordChange} {records : Records}
    (h : Survives (·.PresentIn records) RecordChange.Supersedes log) {change : RecordChange}
    (hmem : change ∈ log) (hrecord : ∀ later : RecordChange, ¬ later.Supersedes change) :
    change.PresentIn records := by
  rcases h.visible_or_superseded supersedes_trans hmem with
    hpresent | ⟨last, -, -, hsup⟩
  · exact hpresent
  · exact absurd hsup (hrecord last)

/-- Returned records that are among surviving changes are in the store, in the part that the change
has made. -/
theorem retained_of_reported {log : List RecordChange} {records : Records}
    (h : Survives (·.PresentIn records) RecordChange.Supersedes log) {value : PlatformValue}
    (hreported : ReportedIn log value) : RetainedIn records value := by
  cases value with
  | candidate candidate => exact candidate_of_status h hreported.2
  | inviteEmail result =>
      obtain ⟨record, hlog, hmem⟩ := hreported
      exact ⟨record, present_of_mem h hmem (fun later => by cases later <;> exact id), hlog⟩
  | identityVerification verification =>
      exact present_of_mem h hreported (fun later => by cases later <;> exact id)
  | ready invite => exact candidate_of_status h hreported
  | codeExecution execution =>
      obtain ⟨record, hshown, hmem⟩ := hreported
      exact ⟨record, present_of_mem h hmem (fun later => by cases later <;> exact id), hshown⟩
  | submission submission =>
      obtain ⟨record, hshown, hmem⟩ := hreported
      exact ⟨record, present_of_mem h hmem (fun later => by cases later <;> exact id), hshown⟩
  | _ => trivial

/-- In a run that writes back current snapshots only, no update is lost. -/
theorem no_lost_update (events : List PlatformEvent) (memory : PlatformMemory)
    (world : PlatformWorld)
    (hcurrent : (platformProgram ctx).machine.Meets (WritesCurrent ctx) (platformInitial memory)
      events)
    (hrun : (platformProgram ctx).machine.run (platformInitial memory) events = some world) :
    NoLostUpdate ((platformProgram ctx).machine.trace (eventChanges ctx)
      (platformInitial memory) events) world where
  kept := run_survives events memory world hcurrent hrun
  reported := run_reported events memory world hcurrent hrun
  retained id value hmem :=
    retained_of_reported (run_survives events memory world hcurrent hrun)
      (run_reported events memory world hcurrent hrun id value hmem)

end

/-! ### Two invite mails at once -/

/-- A local process. Nothing in the example asks for a date. -/
def localContext : PlatformContext where
  host :=
    { text := { toLowerCase := id, toUpperCase := id }
      hmac := fun _ payload => payload
      dateParse := fun _ => none }
  localeCompare := compare
  publicWebBaseUrl := "http://localhost:5173"

/-- The organization of the example. -/
def acme : Organization :=
  { id := "org_demo", name := "Acme", createdAt := "2026-07-18T00:00:00.000Z" }

/-- The session of an operator of the organization. -/
def acmeOperator : AuthSession where
  token := "session_1"
  user :=
    { id := "user_1", email := "operator@example.com", name := "Operator", role := .organization,
      organizationId := some "org_demo", createdAt := "2026-07-18T00:00:00.000Z" }
  organization := acme

/-- A store with one exam and one candidate. -/
def acmeMemory : PlatformMemory where
  organization := acme
  exams :=
    [{ id := "exam_1", organizationId := "org_demo", title := "Screening", description := "",
       startAt := "2026-07-18T09:00:00.000Z", endAt := "2026-07-18T12:00:00.000Z",
       durationMinutes := 90, status := .scheduled, languages := ["JavaScript"],
       proctoringEnabled := true, identityVerificationEnabled := false,
       mobileCameraRequired := false, screenShareRequired := false,
       createdAt := "2026-07-18T00:00:00.000Z" }]
  candidates :=
    [{ id := "candidate_1", examId := "exam_1", name := "Kim", email := "kim@example.com",
       status := .invited, inviteToken := "invite_1",
       createdAt := "2026-07-18T00:00:00.000Z" }]

/-- A turn in which the provider has delivered a mail. -/
def mailDelivered (uuid : String) : PlatformInput where
  now := 1784332800020
  uuid := fun _ => uuid
  sent := .ok { delivered := true, provider := "resend", message := "ok" }

/-- `sendCandidateInviteEmail`, called by the operator. -/
def sendInvite : PlatformCall := .sendCandidateInviteEmail "candidate_1" acmeOperator

/-- One call, from its start to its end. -/
def oneMail : List PlatformEvent :=
  [.invoke sendInvite {}, .execute 0 {}, .resume 0 {}, .execute 0 {},
    .resume 0 (mailDelivered "11111111-1111")]

/-- Two calls that both wait for the provider, and then end. -/
def twoMails : List PlatformEvent :=
  [.invoke sendInvite {}, .invoke sendInvite {}, .execute 0 {}, .resume 0 {}, .execute 1 {},
    .resume 1 {}, .execute 0 {}, .execute 1 {}, .resume 0 (mailDelivered "11111111-1111"),
    .resume 1 (mailDelivered "22222222-2222")]

/-- In the run with one mail alone, the entry about the mail is made and is still there at the end.
-/
theorem no_lost_update_oneMail : ∃ world,
    (platformProgram localContext).machine.run (platformInitial acmeMemory) oneMail = some world ∧
      NoLostUpdate ((platformProgram localContext).machine.trace (eventChanges localContext)
        (platformInitial acmeMemory) oneMail) world := by
  have hrun : ((platformProgram localContext).machine.run (platformInitial acmeMemory)
      oneMail).isSome = true := by decide +kernel
  obtain ⟨world, hworld⟩ := Option.isSome_iff_exists.mp hrun
  exact ⟨world, hworld, no_lost_update oneMail acmeMemory world (by decide +kernel) hworld⟩

/-- The newest result is about a mail whose log the store does not have. -/
def logIsLost (world : PlatformWorld) : Bool :=
  match world.results with
  | (_, .ok (.inviteEmail ⟨_, _, _, _, _, _, _, some record⟩)) :: _ =>
      decide (record ∉ world.memory.inviteEmailLogs)
  | _ => false

/-- Of two mails that wait for the provider at the same time, the store keeps one log. -/
theorem sendCandidateInviteEmail_loses_log : ∃ world,
    (platformProgram localContext).machine.run (platformInitial acmeMemory) twoMails = some world ∧
      world.flights.entries.length = 0 ∧
      (∃ id result record, (id, .ok (.inviteEmail result)) ∈ world.results ∧
        result.log = some record ∧ record ∉ world.memory.inviteEmailLogs) ∧
      ¬ NoLostUpdate ((platformProgram localContext).machine.trace (eventChanges localContext)
        (platformInitial acmeMemory) twoMails) world := by
  have hrun : ((platformProgram localContext).machine.run (platformInitial acmeMemory)
      twoMails).any (fun world => decide (world.flights.entries.length = 0) &&
        logIsLost world) = true := by decide +kernel
  obtain ⟨world, hworld, hend⟩ := (Option.any_eq_true _ _).mp hrun
  obtain ⟨hflights, hlost⟩ := Bool.and_eq_true_iff.mp hend
  unfold logIsLost at hlost
  split at hlost
  · rename_i id a b c d e f g record rest hresults
    have hnot := of_decide_eq_true hlost
    refine ⟨world, hworld, of_decide_eq_true hflights,
      ⟨id, _, record, by rw [hresults]; exact List.mem_cons_self, rfl, hnot⟩, fun h => ?_⟩
    obtain ⟨record', hmem, hlog⟩ := h.retained id _ (by rw [hresults]; exact List.mem_cons_self)
    cases hlog
    exact hnot hmem
  · cases hlost

end Dcvp.Proofs
