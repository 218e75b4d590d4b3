import Dcvp.Proofs.ExamLock
import Dcvp.Proofs.StoreFrames
import Mathlib.Algebra.Order.Ring.Rat

/-!
# `Dcvp.Proofs.TimeLimit`: the time limit of an exam session

A session has a clock: the moment at which it starts, and the moment at which it ends.
`memoryClock` and `databaseClock` look it up. A call does two things to the clocks of a storage
and no others: it leaves each one that is there, and it may start one (`ClocksGrow`). A clock
that starts shows the moment of the call, and the duration of the exam that is stored then
(`Starts`).

From that, by induction over the run, no clock changes, and each clock has begun (`Begun`).
Whatever passes the gates does so inside of the clock and of the exam
(`passGates_inTime`). The memory keeps dates as texts, so there the end binds when `Date.parse`
reads it back.
-/

set_option autoImplicit false

namespace Dcvp.Proofs

open Dcvp.Lib
open Dcvp.Lib.Computation
open Dcvp.Shared
open Dcvp.Services.PlatformStore

/-! ### Clocks -/

/-- When the session of a candidate in an exam starts and ends, in the memory. -/
def memoryClock (memory : PlatformMemory) (key : String × String) : Option (String × String) :=
  (memory.examSessions.find? fun session =>
    session.candidateId = key.1 ∧ session.examId = key.2).map fun session =>
      (session.startedAt, session.endsAt)

/-- When the session of a candidate in an exam starts and ends, on the database. -/
def databaseClock (db : PlatformDatabase) (key : String × String) : Option (Int × Int) :=
  (db.examSessions.findFirst fun session => session.key = key).map fun session =>
    (session.startedAt, session.endsAt)

/-- The candidate and the exam of an invite. -/
def inviteKey (invite : CandidateInvite) : String × String :=
  (invite.candidate.id, invite.exam.id)

/-- The clocks of `f` are clocks of `g`, and the other ones of `g` are new. -/
structure ClocksGrow {τ : Type} (new : String × String → τ → Prop)
    (f g : String × String → Option τ) : Prop where
  kept : ∀ key clock, f key = some clock → g key = some clock
  started : ∀ key clock, g key = some clock → f key = some clock ∨ new key clock

namespace ClocksGrow

variable {τ : Type} {new : String × String → τ → Prop} {f g : String × String → Option τ}

/-- Clocks that stay have not gone back. -/
theorem refl (f : String × String → Option τ) : ClocksGrow new f f :=
  ⟨fun _ _ h => h, fun _ _ h => .inl h⟩

/-- A clock starts where none was, and all other clocks stay: the clocks have grown by a new one.
-/
theorem start (h : ClocksGrow new f g) {key : String × String} {clock : τ}
    (hfree : g key = none) (hnew : new key clock) :
    ClocksGrow new f (Function.update g key (some clock)) := by
  constructor
  · intro other was hwas
    have hother : other ≠ key := by
      rintro rfl
      rw [h.kept other was hwas] at hfree
      cases hfree
    rw [Function.update_of_ne hother]
    exact h.kept other was hwas
  · intro other shown hshown
    by_cases hother : other = key
    · subst hother
      rw [Function.update_self] at hshown
      cases hshown
      exact .inr hnew
    · rw [Function.update_of_ne hother] at hshown
      exact h.started other shown hshown

end ClocksGrow

/-- The clock of an invite, read from the session of the memory. -/
theorem memoryClock_inviteKey (memory : PlatformMemory) (invite : CandidateInvite) :
    memoryClock memory (inviteKey invite)
      = (memorySession memory invite).map fun session => (session.startedAt, session.endsAt) :=
  rfl

/-- The clock of an invite, read from the row of its session. -/
theorem databaseClock_inviteKey (db : PlatformDatabase) (invite : CandidateInvite) :
    databaseClock db (inviteKey invite)
      = (sessionRow db invite).map fun session => (session.startedAt, session.endsAt) :=
  rfl

/-- The clocks with a session that starts: that of its candidate and exam is the new one, the
others are as before. -/
theorem memoryClock_startedSession (memory : PlatformMemory) (invite : CandidateInvite)
    (turn : PlatformInput) (endsAt : String) :
    memoryClock { memory with
        examSessions := startedSession invite turn endsAt :: memory.examSessions }
      = Function.update (memoryClock memory) (inviteKey invite) (some (turn.nowIso, endsAt)) := by
  funext key
  by_cases hkey : key = inviteKey invite
  · subst hkey
    rw [Function.update_self]
    simp [memoryClock, startedSession, inviteKey]
  · rw [Function.update_of_ne hkey]
    have hother : ¬ ((startedSession invite turn endsAt).candidateId = key.1 ∧
        (startedSession invite turn endsAt).examId = key.2) := by
      rintro ⟨hcandidate, hexam⟩
      exact hkey (Prod.ext hcandidate.symm hexam.symm)
    unfold memoryClock
    simp only
    rw [List.find?_cons_of_neg (by simpa using hother)]

/-- The clocks with the row of a session that starts: that of its key is the new one, the others
are as before. -/
theorem databaseClock_startedRow {db db' : PlatformDatabase} {invite : CandidateInvite}
    {turn : PlatformInput} {endsAt : Int} {examSessions : Table ExamSessionRow.id}
    (hfree : sessionRow db invite = none)
    (hinsert : db.examSessions.insert? (startedRow invite turn endsAt) = some examSessions)
    (htables : db'.toPlatformTables = { db.toPlatformTables with examSessions }) :
    databaseClock db'
      = Function.update (databaseClock db) (inviteKey invite) (some (turn.now, endsAt)) := by
  have hrows : db'.examSessions.rows
      = db.examSessions.rows ++ [startedRow invite turn endsAt] := by
    rw [htables]
    exact Table.rows_insert? hinsert
  funext key
  unfold databaseClock Table.findFirst
  rw [hrows, List.find?_append]
  by_cases hkey : key = inviteKey invite
  · subst hkey
    have hnone : (db.examSessions.rows.find? fun session => session.key = inviteKey invite)
        = none := hfree
    rw [Function.update_self, hnone]
    simp [startedRow, ExamSessionRow.key, inviteKey]
  · have hother : (startedRow invite turn endsAt).key ≠ key := fun h => hkey h.symm
    rw [Function.update_of_ne hkey]
    simp [hother]

/-- The completion of a session leaves its clock: it writes neither the key nor the two dates. -/
theorem databaseClock_completeExamSession {db db' : PlatformDatabase} {key : String × String}
    {completedAt : Int} (h : db.completeExamSession key completedAt = .ok db') :
    databaseClock db' = databaseClock db := by
  unfold PlatformDatabase.completeExamSession at h
  split at h
  · cases h
  · funext other
    unfold databaseClock Table.findFirst
    rw [PlatformDatabase.commit_eq_ok h]
    simp only [Table.updateMany]
    rw [List.find?_map, Option.map_map]
    -- The completion writes neither the key nor the two dates of the clock.
    have hkeys : ((fun session : ExamSessionRow => decide (session.key = other)) ∘
        fun session => if decide (session.key = key) = true then
          { session with completedAt := some completedAt } else session)
          = fun session => decide (session.key = other) := by
      funext session
      by_cases hsession : session.key = key
      · simp only [Function.comp, hsession, decide_true, if_true]
        simp [ExamSessionRow.key] at hsession ⊢
        simp [hsession]
      · simp [Function.comp, hsession]
    rw [hkeys]
    congr 1
    funext session
    by_cases hsession : session.key = key <;> simp [Function.comp, hsession]

/-! ### What a call does to the clocks -/

/-- The exam on the path that the store uses. -/
def examAt (ctx : StoreContext) (store : Store) (examId : String) : Option Exam :=
  if store.usesMemory ctx then store.memory.exams.find? (·.id = examId)
  else (store.database.exams.find? examId).map mapExam

/-- A call starts a session now: its invite has this candidate and the exam that is stored when
it is read. -/
def Starts (ctx : StoreContext) (store : Store) (event : StoreEvent) (key : String × String)
    (startedAt endsAt : Int) : Prop :=
  ∃ inviteToken invite between,
    inviteForWorkspaceUse ctx inviteToken event.turns store = (.ok invite, between) ∧
    examAt ctx between invite.exam.id = some invite.exam ∧ key = inviteKey invite ∧
    startedAt = (event.turns 3).now ∧
    (invite.exam.durationMinutes.den = 1 →
      endsAt = startedAt + invite.exam.durationMinutes.num * 60000)

/-- The clocks of both storages grow by sessions that the call starts. The memory prints them. -/
def ClocksAfter (ctx : StoreContext) (event : StoreEvent) (store store' : Store) : Prop :=
  ClocksGrow (fun key clock => ∃ startedAt endsAt, Starts ctx store event key startedAt endsAt ∧
      clock = (Js.toISOString startedAt, Js.toISOString endsAt))
    (memoryClock store.memory) (memoryClock store'.memory) ∧
  ClocksGrow (fun key clock => Starts ctx store event key clock.1 clock.2)
    (databaseClock store.database) (databaseClock store'.database)

/-- The end of a duration in whole minutes is exact: `Date` cuts nothing off it. -/
theorem timeClip_minutes {now endsAt : Int} {minutes : Rat} (hwhole : minutes.den = 1)
    (h : Js.timeClip (now + minutes * 60 * 1000) = some endsAt) :
    endsAt = now + minutes.num * 60000 := by
  have hminutes : minutes = (minutes.num : Rat) := (Rat.coe_int_num_of_den_eq_one hwhole).symm
  have hfactor : (60 : Rat) * 1000 = (60000 : Int) := by decide +kernel
  have hsum : (now : Rat) + minutes * 60 * 1000 = ((now + minutes.num * 60000 : Int) : Rat) := by
    rw [Rat.intCast_add, Rat.intCast_mul, Rat.mul_assoc, hfactor, ← hminutes]
  unfold Js.timeClip at h
  rw [hsum, Rat.floor_intCast, Rat.ceil_intCast, ite_self] at h
  simp only at h
  split at h
  · exact (Option.some.inj h).symm
  · cases h

section
variable {ctx : StoreContext} {Qm : (String × String → Option (String × String)) → Prop}
  {Qd : (String × String → Option (Int × Int)) → Prop}

/-- A fact about the clocks looks at sessions only, so every write to another array or table keeps
it. -/
theorem clockFrame (ctx : StoreContext)
    (Qm : (String × String → Option (String × String)) → Prop)
    (Qd : (String × String → Option (Int × Int)) → Prop) :
    StoreFrame ctx (fun m => Qm (memoryClock m)) fun db => Qd (databaseClock db) where
  seeds := fun memory now _ => by
    refine ensurePlatformSeedData_preserves ctx _ now ?_
    intro db db' organizations exams questions testCases candidates h htables
    unfold databaseClock
    rw [htables]
    exact h
  memory := fun m m' _ hsessions _ _ h => by
    unfold memoryClock
    rw [hsessions]
    exact h
  database := fun db db' _ hsessions h => by
    unfold databaseClock
    rw [hsessions]
    exact h

/-- A fact about the clocks stays, when it stays with the clock that starts. -/
theorem clockSessions {invite : CandidateInvite} {turn : PlatformInput}
    (hm : ∀ f endsAt, f (inviteKey invite) = none →
      Js.timeClip (turn.now + invite.exam.durationMinutes * 60 * 1000) = some endsAt → Qm f →
      Qm (Function.update f (inviteKey invite) (some (turn.nowIso, Js.toISOString endsAt))))
    (hd : ∀ f endsAt, f (inviteKey invite) = none →
      Js.timeClip (turn.now + invite.exam.durationMinutes * 60 * 1000) = some endsAt → Qd f →
      Qd (Function.update f (inviteKey invite) (some (turn.now, endsAt)))) :
    SessionFrame (fun m => Qm (memoryClock m)) (fun db => Qd (databaseClock db)) invite turn where
  -- On the memory the end is computed from the same sum and stored as a text.
  memory := fun m text hfree hend h => by
    have hnone : memoryClock m (inviteKey invite) = none := by
      rw [memoryClock_inviteKey, hfree]
      rfl
    unfold sessionEnd at hend
    split at hend
    · rename_i endsAt hclip
      cases hend
      show Qm (memoryClock _)
      rw [memoryClock_startedSession]
      exact hm _ endsAt hnone hclip h
    · cases hend
  row := fun db db' endsAt examSessions hclip hfree hinsert htables h => by
    have hnone : databaseClock db (inviteKey invite) = none := by
      rw [databaseClock_inviteKey, hfree]
      rfl
    show Qd (databaseClock db')
    rw [databaseClock_startedRow hfree hinsert htables]
    exact hd _ endsAt hnone hclip h
  completed := fun db db' hok h => by
    show Qd (databaseClock db')
    rw [databaseClock_completeExamSession hok]
    exact h

/-- A call keeps a fact about the clocks, when the sessions do that it may start. -/
theorem performStore_clocks {store : Store} (event : StoreEvent)
    (hstore : InStore (fun m => Qm (memoryClock m)) (fun db => Qd (databaseClock db)) store)
    (hsessions : ∀ inviteToken invite between,
      inviteForWorkspaceUse ctx inviteToken event.turns store = (.ok invite, between) →
      SessionFrame (fun m => Qm (memoryClock m)) (fun db => Qd (databaseClock db)) invite
        (event.turns 3)) :
    InStore (fun m => Qm (memoryClock m)) (fun db => Qd (databaseClock db))
      (performStore ctx event store).2 := by
  have frame := clockFrame ctx Qm Qd
  -- Candidates have no clock.
  have hother : ∀ (db db' : PlatformDatabase) (candidates : Table CandidateRow.id),
      db'.toPlatformTables = { db.toPlatformTables with candidates } →
      Qd (databaseClock db) → Qd (databaseClock db') := by
    intro db db' candidates htables h
    unfold databaseClock
    rw [htables]
    exact h
  refine frame.performStore event hstore hsessions
    (frame.addCandidate (fun _ _ h => h) fun db db' _ candidates _ htables h =>
      hother db db' candidates htables h) ?_ ?_
  · exact fun inviteToken _ => frame.markCandidateReady (fun _ _ h => h) hother inviteToken _
      store hstore
  · intro inviteToken input _
    refine frame.submitCandidateCode hstore (fun invite between hrun =>
      hsessions inviteToken invite between hrun) fun invite question =>
        frame.submitCode (fun _ h => h) (fun db db' hok h => ?_) question input _
    unfold PlatformDatabase.updateCandidateStatus at hok
    split at hok
    · cases hok
    · exact hother db db' _ (PlatformDatabase.commit_eq_ok hok) h

end

/-! ### The invite -/

section
variable {ctx : StoreContext} {store store' : Store}

/-- The exam of an invite from the database is the row of its identifier. -/
theorem exam_of_candidateInviteInDatabase {t : PlatformTables} {inviteToken : String}
    {invite : CandidateInvite} (h : candidateInviteInDatabase t inviteToken = .ok invite) :
    (t.exams.find? invite.exam.id).map mapExam = some invite.exam := by
  unfold candidateInviteInDatabase at h
  split at h
  · cases h
  · split at h
    · cases h
    · rename_i candidate _ _ exam hexam
      split at h
      · cases h
      · split at h
        · cases h
        · cases h
          have hkey : exam.id = candidate.examId := Table.key_of_find? hexam
          show (t.exams.find? exam.id).map mapExam = _
          rw [hkey, hexam]
          rfl

/-- The exam of an invite from the memory is one of its exams. -/
theorem exam_of_getCandidateInviteInStore {state : CandidatePortalMemoryState}
    {inviteToken : String} {invite : CandidateInvite}
    (h : getCandidateInviteInStore state inviteToken = .ok invite) :
    state.exams.find? (fun e => decide (e.id = invite.exam.id)) = some invite.exam := by
  unfold getCandidateInviteInStore at h
  split at h
  · cases h
  · split at h
    · cases h
    · rename_i candidate _ _ exam hexam
      split at h
      · cases h
      · cases h
        have hid : exam.id = candidate.examId := by simpa using List.find?_some hexam
        show state.exams.find? (fun e => decide (e.id = exam.id)) = some exam
        rw [hid]
        exact hexam

/-- The exam of an invite is the one that is stored when it is read. -/
theorem readCandidateInvite_exam {inviteToken : String} {now : Int} {invite : CandidateInvite}
    (h : readCandidateInvite ctx inviteToken now store = (.ok invite, store')) :
    examAt ctx store' invite.exam.id = some invite.exam := by
  unfold readCandidateInvite orInMemory at h
  cases htry : trySeededDatabase ctx (reads fun db =>
      candidateInviteInDatabase db.toPlatformTables inviteToken) now store with
  | mk ended between =>
      cases ended with
      | error error =>
          rw [bind_error htry] at h
          cases h
      | ok answer =>
          rw [bind_ok htry] at h
          rw [trySeededDatabase_apply] at htry
          rcases tryDatabase_ok htry with
            ⟨found, db, hrun, rfl, rfl, hmode⟩ | ⟨rfl, hmode, -⟩
          · -- The database answers, so the exam is a row.
            cases h
            obtain ⟨_, _, -, hfound⟩ := bind_returns.mp hrun
            obtain ⟨hread, rfl⟩ := reads_returns.mp hfound
            have hmode' : Store.usesMemory ctx { store with database := db } = false := hmode
            unfold examAt
            rw [hmode']
            exact exam_of_candidateInviteInDatabase hread
          · -- The memory answers.
            simp only [reads] at h
            have hread : getCandidateInviteInStore between.memory.candidatePortalMemoryState
                inviteToken = .ok invite := congrArg Prod.fst h
            have hsame : between = store' := congrArg Prod.snd h
            subst hsame
            unfold examAt
            rw [hmode]
            exact exam_of_getCandidateInviteInStore hread

/-- What is known of an invite that the workspace may be used with: its exam is the stored one,
and ends later. -/
theorem inviteForWorkspaceUse_ok {inviteToken : String} {turns : Nat → PlatformInput}
    {invite : CandidateInvite}
    (h : inviteForWorkspaceUse ctx inviteToken turns store = (.ok invite, store')) :
    examAt ctx store' invite.exam.id = some invite.exam ∧
      ∃ endAt, ctx.dateParse invite.exam.endAt = some endAt ∧ (turns 2).now < endAt := by
  unfold inviteForWorkspaceUse at h
  -- The invite is read twice, with the sweep between; the second read is the one that the gate
  -- looks at.
  obtain ⟨first, _, -, h⟩ := bind_returns.mp h
  obtain ⟨_, _, -, h⟩ := bind_returns.mp h
  obtain ⟨found, between, hfound, h⟩ := bind_returns.mp h
  obtain ⟨_, _, hlook, hpure⟩ := bind_returns.mp h
  obtain ⟨huse, rfl⟩ := reads_returns.mp hlook
  obtain ⟨rfl, rfl⟩ := pure_returns.mp hpure
  refine ⟨readCandidateInvite_exam hfound, ?_⟩
  unfold assertCandidateCanUseWorkspace at huse
  simp only at huse
  split at huse
  · cases huse
  · rename_i havailable
    have hopen : examAvailable ctx.toPlatformContext found.exam (turns 2).now = true := by
      simpa using havailable
    unfold examAvailable at hopen
    split at hopen
    · rename_i startsAt endsAt _ hends
      simp only [Bool.and_eq_true, decide_eq_true_eq] at hopen
      exact ⟨endsAt, hends, hopen.2⟩
    · cases hopen

/-- A session whose time is not over has a second left. -/
theorem le_of_not_timeOver {endsAt now : Int} (hopen : timeOver (some endsAt) now = false) :
    now ≤ endsAt - 1000 := by
  have hnot : ¬ timeOver (some endsAt) now = true := by simp [hopen]
  rw [timeOver_iff] at hnot
  have hmore : ¬ endsAt - now < 1000 := fun hless => hnot ⟨endsAt, rfl, hless⟩
  omega

/-- The gate on the database opens with a second left in the session of the row. -/
theorem examSessionOpenInDatabase_left {invite : CandidateInvite} {turn : PlatformInput}
    {db db' : PlatformDatabase}
    (hrun : examSessionOpenInDatabase invite turn db = (.ok (), db')) :
    ∃ row, sessionRow db' invite = some row ∧ turn.now ≤ row.endsAt - 1000 := by
  unfold examSessionOpenInDatabase at hrun
  obtain ⟨session, db₁, hensure, hgate⟩ := bind_returns.mp hrun
  obtain ⟨row, hrow, rfl⟩ := ensureExamSession_ok hensure
  obtain ⟨_, _, hlook, hrest⟩ := bind_returns.mp hgate
  obtain ⟨-, rfl⟩ := reads_returns.mp hlook
  obtain ⟨_, _, hallows, hend⟩ := bind_returns.mp hrest
  obtain ⟨-, rfl⟩ := reads_returns.mp hallows
  split at hend
  · -- An expired session throws after its completion.
    obtain ⟨_, _, -, hthrow⟩ := bind_returns.mp hend
    cases hthrow
  · rename_i hexpired
    obtain rfl := (pure_returns.mp hend).2
    have hopen : ¬ timeOver (some row.endsAt) turn.now = true := hexpired
    exact ⟨row, hrow, le_of_not_timeOver (by simpa using hopen)⟩

/-- What `assertExamSessionOpen` lets pass on the path that it uses: the session is stored, and a
second of it is left. -/
theorem assertExamSessionOpen_ok {invite : CandidateInvite} {turn : PlatformInput}
    (h : assertExamSessionOpen ctx invite turn store = (.ok (), store')) :
    (store'.usesMemory ctx = false ∧ ∃ row, sessionRow store'.database invite = some row ∧
        turn.now ≤ row.endsAt - 1000) ∨
      (store'.usesMemory ctx = true ∧
        ((∃ session, memorySession store'.memory invite = some session ∧
            ∀ endsAt, ctx.dateParse session.endsAt = some endsAt →
              turn.now ≤ endsAt - 1000) ∨
          ∃ endsAt,
            Js.timeClip (turn.now + invite.exam.durationMinutes * 60 * 1000) = some endsAt ∧
            memorySession store'.memory invite
              = some (startedSession invite turn (Js.toISOString endsAt)) ∧
            0 < invite.exam.durationMinutes)) := by
  unfold assertExamSessionOpen at h
  obtain ⟨answer, between, htry, hrest⟩ := bind_returns.mp h
  rcases tryDatabase_ok htry with ⟨_, db, hrun, rfl, rfl, hmode⟩ | ⟨rfl, hmode, -⟩
  · obtain rfl := (pure_returns.mp hrest).2
    exact .inl ⟨hmode, examSessionOpenInDatabase_left hrun⟩
  · obtain ⟨sessions, _, hlook, hwrite⟩ := bind_returns.mp hrest
    obtain ⟨hopen, rfl⟩ := reads_returns.mp hlook
    cases hwrite
    refine .inr ⟨hmode, ?_⟩
    obtain ⟨session, hensure, hseconds⟩ := assertExamSessionOpenInStore_ok hopen
    rcases ensureMemoryExamSession_cases hensure with
      ⟨stored, hstored, rfl, rfl⟩ | ⟨-, text, hend, rfl, rfl⟩
    · refine .inl ⟨stored, hstored, fun endsAt hparse => le_of_not_timeOver ?_⟩
      cases hover : timeOver (some endsAt) turn.now with
      | false => rfl
      | true =>
          refine absurd ?_ (hseconds _ (congrArg (remainingSeconds · turn.now) hparse))
          exact of_decide_eq_true hover
    · -- A new session has its whole duration left.
      unfold sessionEnd at hend
      split at hend
      · rename_i endsAt hclip
        cases hend
        refine .inr ⟨endsAt, hclip, ?_, ?_⟩
        · show List.find? _ (startedSession invite turn (Js.toISOString endsAt) :: _) = _
          rw [List.find?_cons_of_pos (by simp [startedSession])]
        · have hseconds' : ¬ invite.exam.durationMinutes * 60 ≤ 0 := hseconds _ rfl
          by_contra hnot
          exact hseconds' (mul_nonpos_of_nonpos_of_nonneg (not_lt.mp hnot) (by decide +kernel))
      · cases hend

end

/-! ### One call -/

section
variable {ctx : StoreContext} {store store' : Store} {event : StoreEvent}

/-- The sessions that a call may start are those of its own invite, at the clock of its turn and
with the end of the exam's duration. -/
theorem startsSessions {inviteToken : String} {invite : CandidateInvite} {between : Store}
    (hrun : inviteForWorkspaceUse ctx inviteToken event.turns store = (.ok invite, between)) :
    SessionFrame
      (fun m => ClocksGrow (fun key clock => ∃ startedAt endsAt,
          Starts ctx store event key startedAt endsAt ∧
            clock = (Js.toISOString startedAt, Js.toISOString endsAt))
        (memoryClock store.memory) (memoryClock m))
      (fun db => ClocksGrow (fun key clock => Starts ctx store event key clock.1 clock.2)
        (databaseClock store.database) (databaseClock db))
      invite (event.turns 3) := by
  have hstarts : ∀ endsAt, Js.timeClip ((event.turns 3).now +
      invite.exam.durationMinutes * 60 * 1000) = some endsAt →
      Starts ctx store event (inviteKey invite) (event.turns 3).now endsAt := fun endsAt hclip =>
    ⟨inviteToken, invite, between, hrun, (inviteForWorkspaceUse_ok hrun).1, rfl, rfl,
      fun hwhole => timeClip_minutes hwhole hclip⟩
  exact clockSessions
    (fun f endsAt hfree hclip h => h.start hfree ⟨_, endsAt, hstarts endsAt hclip, rfl⟩)
    fun f endsAt hfree hclip h => h.start hfree (hstarts endsAt hclip)

/-- A call leaves the clocks, but for the sessions that it starts. -/
theorem performStore_clocksAfter (ctx : StoreContext) (store : Store) (event : StoreEvent) :
    ClocksAfter ctx event store (performStore ctx event store).2 :=
  performStore_clocks event ⟨.refl _, .refl _⟩ fun _ _ _ => startsSessions

/-- The gates as well. -/
theorem passGates_clocksAfter (ctx : StoreContext) (store : Store) (event : StoreEvent)
    (call : CodeCall) (inviteToken : String) (input : CodeInput) :
    ClocksAfter ctx event store (passGates ctx call inviteToken input event.turns store).2 :=
  (clockFrame ctx _ _).passGates call input ⟨.refl _, .refl _⟩ fun _ _ hrun =>
    (startsSessions hrun).assertExamSessionOpen

/-- Every clock has begun. In the memory it shows two printed dates. -/
def Begun (now : Int) (store : Store) : Prop :=
  (∀ key clock, memoryClock store.memory key = some clock →
    ∃ startedAt endsAt, clock = (Js.toISOString startedAt, Js.toISOString endsAt) ∧
      startedAt ≤ now) ∧
  ∀ key clock, databaseClock store.database key = some clock → clock.1 ≤ now

/-- A call whose own time is not after `now` keeps the fact that every session has started at `now`
or before it. -/
theorem ClocksAfter.begun {now : Int} (h : ClocksAfter ctx event store store')
    (hbegun : Begun now store) (hnow : (event.turns 3).now ≤ now) : Begun now store' := by
  constructor
  · intro key clock hclock
    rcases h.1.started key clock hclock with hwas | ⟨startedAt, endsAt, hstarts, hdates⟩
    · exact hbegun.1 key clock hwas
    · obtain ⟨_, _, _, -, -, -, hstart, -⟩ := hstarts
      exact ⟨startedAt, endsAt, hdates, hstart ▸ hnow⟩
  · intro key clock hclock
    rcases h.2.started key clock hclock with hwas | ⟨_, _, _, -, -, -, hstart, -⟩
    · exact hbegun.2 key clock hwas
    · exact hstart ▸ hnow

/-! ### The gates -/

/-- The exam ends after `now`, on the path that the store uses. -/
def ExamEndsAfter (ctx : StoreContext) (store : Store) (examId : String) (now : Int) : Prop :=
  if store.usesMemory ctx then
    ∃ exam endAt, store.memory.exams.find? (·.id = examId) = some exam ∧
      ctx.dateParse exam.endAt = some endAt ∧ now < endAt
  else
    ∃ exam, store.database.exams.find? examId = some exam ∧
      (ReadsDate ctx.toPlatformContext exam.endAt → now < exam.endAt)

/-- The session has begun by `now`, and a second of it is left. -/
def InTime (ctx : StoreContext) (store : Store) (key : String × String) (now : Int) : Prop :=
  if store.usesMemory ctx then
    ∃ startedAt endsAt, memoryClock store.memory key
        = some (Js.toISOString startedAt, Js.toISOString endsAt) ∧
      startedAt ≤ now ∧ (ReadsDate ctx.toPlatformContext endsAt → now ≤ endsAt - 1000)
  else
    ∃ startedAt endsAt, databaseClock store.database key = some (startedAt, endsAt) ∧
      startedAt ≤ now ∧ now ≤ endsAt - 1000

/-- The exam of an invite ends later, as the stored one does. -/
theorem examEndsAfter_of_invite {inviteToken : String} {invite : CandidateInvite}
    (h : inviteForWorkspaceUse ctx inviteToken event.turns store = (.ok invite, store')) :
    ExamEndsAfter ctx store' invite.exam.id (event.turns 2).now := by
  obtain ⟨hexam, endAt, hparse, hlater⟩ := inviteForWorkspaceUse_ok h
  unfold examAt at hexam
  unfold ExamEndsAfter
  cases hmode : store'.usesMemory ctx with
  | true =>
      rw [hmode] at hexam
      exact ⟨invite.exam, endAt, hexam, hparse, hlater⟩
  | false =>
      rw [hmode] at hexam
      obtain ⟨row, hrow, hmapped⟩ := Option.map_eq_some_iff.mp hexam
      refine ⟨row, hrow, fun hread => ?_⟩
      rw [← hmapped] at hparse
      have hend : some row.endAt = some endAt := hread.symm.trans hparse
      rw [Option.some.inj hend]
      exact hlater

/-- What passes the gates does so inside of the exam and of the session. -/
theorem passGates_inTime {call : CodeCall} {inviteToken : String} {input : CodeInput}
    {invite : CandidateInvite} {now : Int} (hclock : ∀ n, (event.turns n).now = now)
    (hbegun : Begun now store)
    (h : passGates ctx call inviteToken input event.turns store = (.ok invite, store')) :
    ∃ between, inviteForWorkspaceUse ctx inviteToken event.turns store = (.ok invite, between) ∧
      ExamEndsAfter ctx between invite.exam.id now ∧
      (invite.exam.durationMinutes.den = 1 → InTime ctx store' (inviteKey invite) now) := by
  have hafter : Begun now store' := by
    have hclocks := passGates_clocksAfter ctx store event call inviteToken input
    rw [h] at hclocks
    exact hclocks.begun hbegun (hclock 3).le
  unfold passGates at h
  obtain ⟨found, between, hinvite, hrest⟩ := bind_returns.mp h
  obtain ⟨_, _, hlook, hgate⟩ := bind_returns.mp hrest
  obtain ⟨-, rfl⟩ := reads_returns.mp hlook
  obtain ⟨_, passed, hopen, hpure⟩ := bind_returns.mp hgate
  obtain ⟨rfl, rfl⟩ := pure_returns.mp hpure
  refine ⟨_, hinvite, hclock 2 ▸ examEndsAfter_of_invite hinvite, fun hwhole => ?_⟩
  unfold InTime
  rcases assertExamSessionOpen_ok hopen with ⟨hmode, row, hrow, hleft⟩ | ⟨hmode, hsession⟩
  · rw [hmode]
    have hfound : databaseClock passed.database (inviteKey found)
        = some (row.startedAt, row.endsAt) := by
      rw [databaseClock_inviteKey, hrow]
      rfl
    exact ⟨row.startedAt, row.endsAt, hfound, hafter.2 _ _ hfound, hclock 3 ▸ hleft⟩
  · rw [hmode]
    rcases hsession with ⟨session, hstored, hleft⟩ | ⟨endsAt, hclip, hstored, hpositive⟩
    · have hfound : memoryClock passed.memory (inviteKey found)
          = some (session.startedAt, session.endsAt) := by
        rw [memoryClock_inviteKey, hstored]
        rfl
      obtain ⟨startedAt, endsAt, hdates, hstarted⟩ := hafter.1 _ _ hfound
      refine ⟨startedAt, endsAt, hfound.trans (congrArg some hdates), hstarted, fun hread => ?_⟩
      have htext : session.endsAt = Js.toISOString endsAt := congrArg Prod.snd hdates
      exact hclock 3 ▸ hleft endsAt (htext ▸ hread)
    · -- The session starts now, so at least a minute of it is left.
      have hminutes := timeClip_minutes hwhole hclip
      have hnum : 0 < found.exam.durationMinutes.num := Rat.num_pos.mpr hpositive
      rw [hclock 3] at hminutes
      refine ⟨now, endsAt, ?_, le_refl now, fun _ => by omega⟩
      rw [memoryClock_inviteKey, hstored, ← hclock 3]
      rfl

end

/-! ### Runs -/

/-- The moment of a call. -/
def callTime (event : StoreEvent) : Int := (event.turns 0).now

/-- The call of a draft, a run or a submission. -/
def codeCall : CodeCall → String → CodeInput → StoreCall
  | .saveCandidateCodeDraft => .saveCandidateCodeDraft
  | .runCandidateCode => .runCandidateCode
  | .submitCandidateCode => .submitCandidateCode

section
variable {ctx : StoreContext}

/-- No clock changes in a run: a session that has started keeps its start and its end. By induction
on the calls. -/
theorem run_keeps_clocks (events : List StoreEvent) :
    ∀ {store store' : Store}, (storeMachine ctx).run store events = some store' →
      (∀ key clock, memoryClock store.memory key = some clock →
        memoryClock store'.memory key = some clock) ∧
      ∀ key clock, databaseClock store.database key = some clock →
        databaseClock store'.database key = some clock := by
  induction events with
  | nil =>
      intro store store' hrun
      cases hrun
      exact ⟨fun _ _ h => h, fun _ _ h => h⟩
  | cons event events ih =>
      intro store store' hrun
      obtain ⟨between, hstep, hrest⟩ := (Machine.run_cons_eq_some _ _ _ _).mp hrun
      obtain ⟨hmemory, hdatabase⟩ := ih hrest
      have hafter := performStore_clocksAfter ctx store event
      rw [Option.some.inj hstep] at hafter
      exact ⟨fun key clock h => hmemory key clock (hafter.1.kept key clock h),
        fun key clock h => hdatabase key clock (hafter.2.kept key clock h)⟩

/-- The clocks have begun before each later call, if the calls come in the order of their times. By
induction on the calls. -/
theorem run_begun (events : List StoreEvent) :
    ∀ {store store' : Store} {now : Int},
      (∀ event ∈ events, ∀ n, (event.turns n).now = callTime event) →
      (∀ event ∈ events, callTime event ≤ now) → Begun now store →
      (storeMachine ctx).run store events = some store' → Begun now store' := by
  induction events with
  | nil =>
      intro store store' now _ _ hbegun hrun
      cases hrun
      exact hbegun
  | cons event events ih =>
      intro store store' now hclock hearlier hbegun hrun
      obtain ⟨between, hstep, hrest⟩ := (Machine.run_cons_eq_some _ _ _ _).mp hrun
      have hnow : (event.turns 3).now ≤ now :=
        (hclock event List.mem_cons_self 3).trans_le (hearlier event List.mem_cons_self)
      have hafter := performStore_clocksAfter ctx store event
      rw [Option.some.inj hstep] at hafter
      exact ih (fun e he => hclock e (List.mem_cons_of_mem _ he))
        (fun e he => hearlier e (List.mem_cons_of_mem _ he)) (hafter.begun hbegun hnow) hrest

end

/-- The time limit over a run whose calls read one clock each, which does not go back. No clock
of a session changes. A clock that is new after a call shows its moment, and the duration of the
exam that is stored then. And what passes the gates does so inside of the session and of the
exam. -/
theorem time_limit_holds (ctx : StoreContext) (start : Store) (events : List StoreEvent)
    (hclock : ∀ event ∈ events, ∀ n, (event.turns n).now = callTime event)
    (hsorted : events.Pairwise fun event later => callTime event ≤ callTime later)
    (hbegun : ∀ event ∈ events, Begun (callTime event) start) :
    (∀ before between after store store', events = before ++ between ++ after →
      (storeMachine ctx).run start before = some store →
      (storeMachine ctx).run store between = some store' →
      (∀ key clock, memoryClock store.memory key = some clock →
        memoryClock store'.memory key = some clock) ∧
      ∀ key clock, databaseClock store.database key = some clock →
        databaseClock store'.database key = some clock) ∧
    (∀ before event after store, events = before ++ event :: after →
      (storeMachine ctx).run start before = some store →
      (∀ key clock, memoryClock store.memory key = none →
        memoryClock (performStore ctx event store).2.memory key = some clock →
        ∃ endsAt, Starts ctx store event key (callTime event) endsAt ∧
          clock = (Js.toISOString (callTime event), Js.toISOString endsAt)) ∧
      ∀ key clock, databaseClock store.database key = none →
        databaseClock (performStore ctx event store).2.database key = some clock →
        ∃ endsAt, Starts ctx store event key (callTime event) endsAt ∧
          clock = (callTime event, endsAt)) ∧
    ∀ before event after store call inviteToken input invite passed,
      events = before ++ event :: after →
      (storeMachine ctx).run start before = some store →
      event.call = codeCall call inviteToken input →
      passGates ctx call inviteToken input event.turns store = (.ok invite, passed) →
      ∃ between,
        inviteForWorkspaceUse ctx inviteToken event.turns store = (.ok invite, between) ∧
        ExamEndsAfter ctx between invite.exam.id (callTime event) ∧
        (invite.exam.durationMinutes.den = 1 →
          InTime ctx passed (inviteKey invite) (callTime event)) := by
  refine ⟨?_, ?_, ?_⟩
  · rintro before between after store store' rfl - hbetween
    exact run_keeps_clocks between hbetween
  · rintro before event after store rfl -
    have hnow := hclock event (by simp) 3
    have hafter := performStore_clocksAfter ctx store event
    constructor
    · intro key clock hfree hshown
      rcases hafter.1.started key clock hshown with hwas | ⟨startedAt, endsAt, hstarts, hdates⟩
      · rw [hfree] at hwas
        cases hwas
      · have hstart : startedAt = callTime event := by
          obtain ⟨_, _, _, -, -, -, hstart, -⟩ := hstarts
          exact hstart.trans hnow
        subst hstart
        exact ⟨endsAt, hstarts, hdates⟩
    · intro key clock hfree hshown
      rcases hafter.2.started key clock hshown with hwas | hstarts
      · rw [hfree] at hwas
        cases hwas
      · have hstart : clock.1 = callTime event := by
          obtain ⟨_, _, _, -, -, -, hstart, -⟩ := hstarts
          exact hstart.trans hnow
        rw [hstart] at hstarts
        exact ⟨clock.2, hstarts, Prod.ext hstart rfl⟩
  · rintro before event after store call inviteToken input invite passed rfl hbefore - hpass
    -- Each call before this one is not later.
    have hearlier : ∀ e ∈ before, callTime e ≤ callTime event := fun e he =>
      (List.pairwise_append.mp hsorted).2.2 e he event List.mem_cons_self
    have hnow := run_begun before (fun e he => hclock e (List.mem_append_left _ he)) hearlier
      (hbegun event (by simp)) hbefore
    exact passGates_inTime (hclock event (by simp)) hnow hpass

/-! ### A candidate who comes at the start -/

/-- The exam of an hour, before the candidate opens the workspace. -/
def arrivedStore : Store where
  memory := { organization := (managerOf "org_a").organization }
  database :=
    { toPlatformTables := { sittingTables Table.empty with
        questions := ⟨[{
          id := "question_1", examId := "exam_1", title := "Question", description := "",
          difficulty := .easy, timeLimitMs := 2000, memoryLimitMb := 256, createdAt := 0 }],
            by decide⟩
        environmentChecks := ⟨[{
          id := "check_1", candidateId := "cand_1", examId := "exam_1", results := none,
          requiredPassed := true, createdAt := 0 }], by decide⟩
        examSessions := Table.empty }
      unique := by decide +kernel
      related := by decide +kernel }

/-- The candidate opens the workspace. -/
def openWorkspace : StoreEvent := ⟨.getCandidateWorkspace "invite_1", fun _ => {}⟩

/-- An answer to the question. -/
def questionAnswer : CodeInput := { questionId := "question_1", language := "", code := "" }

/-- The candidate submits a second before the hour is over. -/
def submitLate : StoreEvent :=
  ⟨.submitCandidateCode "invite_1" questionAnswer, fun _ => { now := 3599000 }⟩

/-- The session starts at 0 with the first call, and the submission of the second one is in time.
-/
theorem time_limit_holds_arrived :
    (∃ endsAt, Starts clockContext arrivedStore openWorkspace ("cand_1", "exam_1") 0 endsAt ∧
      databaseClock (performStore clockContext openWorkspace arrivedStore).2.database
        ("cand_1", "exam_1") = some (0, endsAt)) ∧
    ∃ invite passed, InTime clockContext passed (inviteKey invite) 3599000 := by
  have hbegun : ∀ now, Begun now arrivedStore :=
    fun _ => ⟨fun _ _ h => (by cases h), fun _ _ h => (by cases h)⟩
  obtain ⟨-, hstarts, hgates⟩ := time_limit_holds clockContext arrivedStore
    [openWorkspace, submitLate] (by simp [openWorkspace, submitLate, callTime])
    (by simp [openWorkspace, submitLate, callTime]) fun _ _ => hbegun _
  -- The start of the session from the first call, the gate from the second one.
  constructor
  · have hshown : databaseClock (performStore clockContext openWorkspace arrivedStore).2.database
        ("cand_1", "exam_1") = some (0, 3600000) := by decide +kernel
    obtain ⟨endsAt, hstart, hclock⟩ := (hstarts [] openWorkspace [submitLate] arrivedStore rfl
      rfl).2 ("cand_1", "exam_1") (0, 3600000) rfl hshown
    exact ⟨endsAt, hstart, hshown.trans (congrArg some hclock)⟩
  · have hpass : (passGates clockContext .submitCandidateCode "invite_1" questionAnswer
        submitLate.turns (performStore clockContext openWorkspace arrivedStore).2).1.toOption.map
          (·.exam.durationMinutes.den) = some 1 := by decide +kernel
    cases hrun : passGates clockContext .submitCandidateCode "invite_1" questionAnswer
        submitLate.turns (performStore clockContext openWorkspace arrivedStore).2 with
    | mk ended passed =>
        rw [hrun] at hpass
        cases ended with
        | error error => cases hpass
        | ok invite =>
            obtain ⟨-, -, -, hintime⟩ := hgates [openWorkspace] submitLate [] _
              .submitCandidateCode "invite_1" questionAnswer invite passed rfl rfl rfl hrun
            exact ⟨invite, passed, hintime (Option.some.inj hpass)⟩

end Dcvp.Proofs
