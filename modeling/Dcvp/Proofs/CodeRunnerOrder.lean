import Dcvp.Proofs.CodeRunnerAdmission

/-!
# `Dcvp.Proofs.CodeRunnerOrder`: one settlement for each request, in candidate order

`History w pending` is the second invariant of the service. It relates the operations that
started and ended so far to the running operations, the queue and the settled promises. The
list `pending` holds the outcome of an operation that has ended while its promise is not
settled yet, so it is empty between two events.

The order of one candidate comes from three of its fields. `ordered` says that whenever an
operation started, every earlier start with the same key belongs to an earlier call and had
ended by then. `behind` says that a queued call is later than every call of its key that
has started. `sorted` says that the queue is in call order. A dispatch takes the first entry
whose key is not active, so within one key it takes the earliest call.

A new request can start before a queued one. It cannot overtake a request of its own
candidate: it starts only with a free slot, and then every queued entry has an active key
(`Conserving`), while its own key is not active.

`busy_run` says why a call is rejected as busy: its arrival in a full queue or the firing of its
timeout is an event of the run. `judge_settles_once_in_order` is the result.
-/

set_option autoImplicit false

namespace Dcvp.Proofs

open Dcvp.Lib
open Dcvp.Services

variable {Ω : Type}

/-! ### Reading the history -/

/-- The call whose operation starts. -/
def startedCall? : OperationEvent Ω → Option Nat
  | .started c _ => some c
  | .finished _ _ => none

/-- The call whose operation ends, with the outcome. -/
def finishedCall? : OperationEvent Ω → Option (Nat × Ω)
  | .started _ _ => none
  | .finished c o => some (c, o)

/-- The call that is settled with an outcome, with the outcome. -/
def outcome? : Nat × Settlement Ω → Option (Nat × Ω)
  | (c, .outcome o) => some (c, o)
  | (_, .busy) => none
  | (_, .disabled) => none

/-- A call has started when the log has its start. -/
theorem mem_startedCalls {ops : List (OperationEvent Ω)} {c : Nat} :
    c ∈ ops.filterMap startedCall? ↔ ∃ k, .started c k ∈ ops := by
  rw [List.mem_filterMap]
  constructor
  · rintro ⟨e, he, hc⟩
    cases e with
    | started c' k => cases hc; exact ⟨k, he⟩
    | finished c' o => cases hc
  · rintro ⟨k, hk⟩
    exact ⟨_, hk, rfl⟩

/-- A call has finished with an outcome when the log says so. -/
theorem mem_finishedCalls {ops : List (OperationEvent Ω)} {c : Nat} {o : Ω} :
    (c, o) ∈ ops.filterMap finishedCall? ↔ .finished c o ∈ ops := by
  rw [List.mem_filterMap]
  constructor
  · rintro ⟨e, he, hc⟩
    cases e with
    | started c' k => cases hc
    | finished c' o' => cases hc; exact he
  · intro h
    exact ⟨_, h, rfl⟩

/-- A promise was settled with an outcome when the settlements have it. -/
theorem mem_outcomes {settlements : List (Nat × Settlement Ω)} {c : Nat} {o : Ω} :
    (c, o) ∈ settlements.filterMap outcome? ↔ (c, .outcome o) ∈ settlements := by
  rw [List.mem_filterMap]
  constructor
  · rintro ⟨⟨c', s⟩, he, hc⟩
    cases s with
    | outcome o' => cases hc; exact he
    | busy => cases hc
    | disabled => cases hc
  · intro h
    exact ⟨_, h, rfl⟩

/-- The calls with an outcome are settled calls, in the same order. -/
theorem outcomes_sublist (settlements : List (Nat × Settlement Ω)) :
    ((settlements.filterMap outcome?).map Prod.fst).Sublist (settlements.map Prod.fst) := by
  induction settlements with
  | nil => exact List.Sublist.refl _
  | cons e rest ih =>
      rcases e with ⟨c, s⟩
      cases s with
      | outcome o => exact ih.cons_cons c
      | busy => exact ih.cons c
      | disabled => exact ih.cons c

/-- Where an element stands in a list with a last element: it is the last one, or it stands
before. -/
theorem split_concat {α : Type} {l a b : List α} {x y : α} (h : l ++ [x] = a ++ y :: b) :
    (l = a ∧ x = y) ∨ ∃ b', l = a ++ y :: b' := by
  rcases List.eq_nil_or_concat b with rfl | ⟨b', z, rfl⟩
  · obtain ⟨hl, hx⟩ := List.append_inj' h rfl
    exact Or.inl ⟨hl, by simpa using hx⟩
  · have h' : l ++ [x] = (a ++ y :: b') ++ [z] := by simpa using h
    exact Or.inr ⟨b', (List.append_inj' h' rfl).1⟩

/-! ### The invariant -/

/-- The history agrees with the present, and the starts of one key are in call order. -/
structure History (w : RunnerWorld Ω) (pending : List (Nat × Ω)) : Prop where
  /-- What has started either runs or has ended. -/
  starts : (w.operations.filterMap startedCall?).Perm
    (w.running.map Prod.fst ++ (w.operations.filterMap finishedCall?).map Prod.fst)
  /-- What has ended is settled with its outcome, or pending. -/
  outcomes : w.operations.filterMap finishedCall?
    = w.settlements.filterMap outcome? ++ pending
  runs : ∀ c k, (c, k) ∈ w.running → .started c k ∈ w.operations
  accounted : ∀ c k, .started c k ∈ w.operations →
    (c, k) ∈ w.running ∨ ∃ o, .finished c o ∈ w.operations
  behind : ∀ q ∈ w.service.queuedRuns, ∀ c, .started c q.admissionKey ∈ w.operations → c < q.call
  sorted : (w.service.queuedRuns.map QueuedRun.call).Pairwise (· < ·)
  ordered : ∀ a c' k b, w.operations = a ++ .started c' k :: b →
    ∀ c, .started c k ∈ a → c < c' ∧ ∃ o, .finished c o ∈ a
  closed : ∀ a c o b, w.operations = a ++ .finished c o :: b → ∃ k, .started c k ∈ a
  drawn : ∀ c k, (c, k) ∈ w.passed → c < w.nextCall
  passedOnce : (w.passed.map Prod.fst).Nodup
  startedPassed : ∀ c k, .started c k ∈ w.operations → (c, k) ∈ w.passed
  queuedPassed : ∀ q ∈ w.service.queuedRuns, (q.call, q.admissionKey) ∈ w.passed
  disabledOnly : ∀ c, (c, .disabled) ∈ w.settlements → ∀ k, (c, k) ∉ w.passed

namespace History

variable {w : RunnerWorld Ω} {pending : List (Nat × Ω)} {call : Nat} {key : String}

/-- At the start no call has been made, so none has waited, started or ended. -/
theorem empty : History ({} : RunnerWorld Ω) [] where
  starts := List.Perm.refl _
  outcomes := rfl
  runs c k h := by cases h
  accounted c k h := by cases h
  behind q h := by cases h
  sorted := List.Pairwise.nil
  ordered a c' k b h := by simp at h
  closed a c o b h := by simp at h
  drawn c k h := by cases h
  passedOnce := List.nodup_nil
  startedPassed c k h := by cases h
  queuedPassed q h := by cases h
  disabledOnly c h := by cases h

/-- A call is settled without an outcome. A disabled call has not passed. -/
theorem settle (h : History w pending) {s : Settlement Ω} (hs : s = .busy ∨ s = .disabled)
    (hpassed : s = .disabled → ∀ k, (call, k) ∉ w.passed) : History (w.settle call s) pending where
  starts := h.starts
  outcomes := by
    show w.operations.filterMap finishedCall?
      = (w.settlements ++ [(call, s)]).filterMap outcome? ++ pending
    rw [List.filterMap_append, h.outcomes]
    cases hs with
    | inl hs => rw [hs]; simp [outcome?]
    | inr hs => rw [hs]; simp [outcome?]
  runs := h.runs
  accounted := h.accounted
  behind := h.behind
  sorted := h.sorted
  ordered := h.ordered
  closed := h.closed
  drawn := h.drawn
  passedOnce := h.passedOnce
  startedPassed := h.startedPassed
  queuedPassed := h.queuedPassed
  -- Only the new settlement can be a disabled one that was not there before.
  disabledOnly c hc k := by
    rcases List.mem_append.mp hc with hold | hnew
    · exact h.disabledOnly c hold k
    · cases List.mem_singleton.mp hnew
      exact hpassed rfl k

/-- The promise of an ended operation settles with its outcome, which was pending since the end of
the operation. -/
theorem settle_outcome {o : Ω} (h : History w [(call, o)]) :
    History (w.settle call (.outcome o)) [] where
  starts := h.starts
  outcomes := by
    show w.operations.filterMap finishedCall?
      = (w.settlements ++ [(call, Settlement.outcome o)]).filterMap outcome? ++ []
    rw [List.filterMap_append, h.outcomes]
    simp [outcome?]
  runs := h.runs
  accounted := h.accounted
  behind := h.behind
  sorted := h.sorted
  ordered := h.ordered
  closed := h.closed
  drawn := h.drawn
  passedOnce := h.passedOnce
  startedPassed := h.startedPassed
  queuedPassed := h.queuedPassed
  disabledOnly c hc k := by
    rcases List.mem_append.mp hc with hold | hnew
    · exact h.disabledOnly c hold k
    · cases List.mem_singleton.mp hnew

/-- An operation starts. Its key is not active, it is later than every start of its key, and
earlier than every queued call of its key. -/
theorem runAdmitted (h : History w pending) (hslots : Slots w)
    (hkey : key ∉ w.service.activeAdmissionKeys) (hpassed : (call, key) ∈ w.passed)
    (hafter : ∀ c, .started c key ∈ w.operations → c < call)
    (hbefore : ∀ q ∈ w.service.queuedRuns, q.admissionKey = key → call < q.call) :
    History (w.runAdmitted call key) pending where
  starts := by
    rw [List.perm_iff_count]
    intro a
    have hcount := h.starts.count_eq a
    simp only [RunnerWorld.runAdmitted, List.filterMap_append, List.filterMap_cons,
      List.filterMap_nil, startedCall?, finishedCall?, List.map_append, List.map_cons,
      List.map_nil, List.count_append, List.count_cons, List.count_nil, List.append_nil]
      at hcount ⊢
    omega
  outcomes := by
    show (w.operations ++ [OperationEvent.started call key]).filterMap finishedCall?
      = w.settlements.filterMap outcome? ++ pending
    rw [List.filterMap_append, h.outcomes]
    simp [finishedCall?]
  runs c k hc := by
    rcases List.mem_append.mp hc with hold | hnew
    · exact List.mem_append_left _ (h.runs c k hold)
    · cases List.mem_singleton.mp hnew
      exact List.mem_append_right _ (List.mem_singleton_self _)
  accounted c k hc := by
    rcases List.mem_append.mp hc with hold | hnew
    · rcases h.accounted c k hold with hrun | ⟨o, ho⟩
      · exact Or.inl (List.mem_append_left _ hrun)
      · exact Or.inr ⟨o, List.mem_append_left _ ho⟩
    · cases List.mem_singleton.mp hnew
      exact Or.inl (List.mem_append_right _ (List.mem_singleton_self _))
  behind q hq c hc := by
    rcases List.mem_append.mp hc with hold | hnew
    · exact h.behind q hq c hold
    · have heq := List.mem_singleton.mp hnew
      injection heq with hcall hk
      rw [hcall]
      exact hbefore q hq hk
  sorted := h.sorted
  ordered a c' k b hsplit c hc := by
    rcases split_concat hsplit with ⟨rfl, heq⟩ | ⟨b', hold⟩
    · -- The new start: every earlier one of the key has ended, for none runs.
      cases heq
      refine ⟨hafter c hc, ?_⟩
      rcases h.accounted c key hc with hrun | hfin
      · rw [hslots.keys] at hkey
        exact absurd (List.mem_map_of_mem hrun) hkey
      · exact hfin
    · exact h.ordered a c' k b' hold c hc
  closed a c o b hsplit := by
    rcases split_concat hsplit with ⟨-, heq⟩ | ⟨b', hold⟩
    · cases heq
    · exact h.closed a c o b' hold
  drawn := h.drawn
  passedOnce := h.passedOnce
  startedPassed c k hc := by
    rcases List.mem_append.mp hc with hold | hnew
    · exact h.startedPassed c k hold
    · cases List.mem_singleton.mp hnew
      exact hpassed
  queuedPassed := h.queuedPassed
  disabledOnly := h.disabledOnly

/-- A request waits. Its call is later than all others with its key, those that have started and
those that wait. -/
theorem enqueue (h : History w pending) (hpassed : (call, key) ∈ w.passed)
    (hstarted : ∀ c, .started c key ∈ w.operations → c < call)
    (hqueued : ∀ q ∈ w.service.queuedRuns, q.call < call) :
    History (w.enqueue call key) pending where
  starts := h.starts
  outcomes := h.outcomes
  runs := h.runs
  accounted := h.accounted
  -- The new entry is behind every run that has started, and the entries before it are as they were.
  behind q hq c hc := by
    rcases List.mem_append.mp hq with hold | hnew
    · exact h.behind q hold c hc
    · cases List.mem_singleton.mp hnew
      exact hstarted c hc
  sorted := by
    show ((w.service.queuedRuns ++ [_]).map QueuedRun.call).Pairwise (· < ·)
    rw [List.map_append, List.pairwise_append]
    refine ⟨h.sorted, List.pairwise_singleton _ _, fun x hx y hy => ?_⟩
    obtain ⟨q, hq, rfl⟩ := List.mem_map.mp hx
    rw [List.mem_singleton.mp hy]
    exact hqueued q hq
  ordered := h.ordered
  closed := h.closed
  drawn := h.drawn
  passedOnce := h.passedOnce
  startedPassed := h.startedPassed
  queuedPassed q hq := by
    rcases List.mem_append.mp hq with hold | hnew
    · exact h.queuedPassed q hold
    · cases List.mem_singleton.mp hnew
      exact hpassed
  disabledOnly := h.disabledOnly

/-- The operation of a running call ends: the history gets its end, and its promise is pending
until it is settled. -/
theorem release (h : History w []) (hnodup : (w.running.map Prod.fst).Nodup)
    (hrun : (call, key) ∈ w.running) (o : Ω) : History (w.release call key o) [(call, o)] where
  starts := by
    rw [List.perm_iff_count]
    intro a
    have hcount := h.starts.count_eq a
    have hmem : call ∈ w.running.map Prod.fst := List.mem_map_of_mem hrun
    -- The call leaves the running ones and becomes a finished one.
    have hsplit := Ledger.count_filter_ne hnodup hmem a
    have hmap : (w.running.filter fun r => r.1 ≠ call).map Prod.fst
        = (w.running.map Prod.fst).filter (· ≠ call) := by
      rw [List.filter_map]
      rfl
    simp only [RunnerWorld.release, hmap, List.filterMap_append, List.filterMap_cons,
      List.filterMap_nil, startedCall?, finishedCall?, List.map_append, List.map_cons,
      List.map_nil, List.count_append, List.count_cons, List.count_nil, List.append_nil,
      beq_iff_eq] at hcount ⊢
    omega
  outcomes := by
    show (w.operations ++ [OperationEvent.finished call o]).filterMap finishedCall?
      = w.settlements.filterMap outcome? ++ [(call, o)]
    rw [List.filterMap_append, h.outcomes]
    simp [finishedCall?]
  runs c k hc := List.mem_append_left _ (h.runs c k (List.mem_of_mem_filter hc))
  accounted c k hc := by
    rcases List.mem_append.mp hc with hold | hnew
    · rcases h.accounted c k hold with hr | ⟨o', ho'⟩
      · -- The outcome of the released call is the one that is about to be settled.
        by_cases hcall : c = call
        · subst hcall
          exact Or.inr ⟨o, List.mem_append_right _ (List.mem_singleton_self _)⟩
        · exact Or.inl (List.mem_filter.mpr ⟨hr, by simpa using hcall⟩)
      · exact Or.inr ⟨o', List.mem_append_left _ ho'⟩
    · cases List.mem_singleton.mp hnew
  behind q hq c hc := by
    rcases List.mem_append.mp hc with hold | hnew
    · exact h.behind q hq c hold
    · cases List.mem_singleton.mp hnew
  sorted := h.sorted
  ordered a c' k b hsplit c hc := by
    rcases split_concat hsplit with ⟨-, heq⟩ | ⟨b', hold⟩
    · cases heq
    · exact h.ordered a c' k b' hold c hc
  closed a c o' b hsplit := by
    rcases split_concat hsplit with ⟨rfl, heq⟩ | ⟨b', hold⟩
    · -- The last operation of the history is the release itself.
      cases heq
      exact ⟨key, h.runs _ key hrun⟩
    · exact h.closed a c o' b' hold
  drawn := h.drawn
  passedOnce := h.passedOnce
  startedPassed c k hc := by
    rcases List.mem_append.mp hc with hold | hnew
    · exact h.startedPassed c k hold
    · cases List.mem_singleton.mp hnew
  queuedPassed := h.queuedPassed
  disabledOnly := h.disabledOnly

/-- A part of the queue is left, in its order. The history says nothing about the entries that are
gone. -/
theorem shorten (h : History w pending) {rest : List QueuedRun} {timeouts : List Nat}
    (hsub : rest.Sublist w.service.queuedRuns) :
    History { w with service := { w.service with queuedRuns := rest }, timeouts } pending where
  starts := h.starts
  outcomes := h.outcomes
  runs := h.runs
  accounted := h.accounted
  behind q hq := h.behind q (hsub.subset hq)
  sorted := h.sorted.sublist (hsub.map _)
  ordered := h.ordered
  closed := h.closed
  drawn := h.drawn
  passedOnce := h.passedOnce
  startedPassed := h.startedPassed
  queuedPassed q hq := h.queuedPassed q (hsub.subset hq)
  disabledOnly := h.disabledOnly

/-- A queued call is dispatched: the first of the queue whose key is not active. -/
theorem dispatchEntry (h : History w pending) (hslots : Slots w) {q : QueuedRun}
    {pre post : List QueuedRun} (hqueue : w.service.queuedRuns = pre ++ q :: post)
    (hkey : q.admissionKey ∉ w.service.activeAdmissionKeys)
    (hpre : ∀ x ∈ pre, x.admissionKey ∈ w.service.activeAdmissionKeys) :
    History (w.dispatchEntry q (pre ++ post)) pending := by
  have hq : q ∈ w.service.queuedRuns := by simp [hqueue]
  have hsub : (pre ++ post).Sublist w.service.queuedRuns := by
    rw [hqueue]
    exact (List.sublist_cons_self q post).append_left pre
  have hslots' : Slots { w with
      service := { w.service with queuedRuns := pre ++ post }
      timeouts := w.timeouts.filter (· ≠ q.call) } :=
    ⟨hslots.active, hslots.keys, hslots.distinct, hslots.bound,
      Nat.le_trans hsub.length_le hslots.queue⟩
  refine (h.shorten hsub).runAdmitted hslots' hkey (h.queuedPassed q hq) (h.behind q hq) ?_
  intro x hx hxkey
  rcases List.mem_append.mp hx with hin | hin
  · -- Before `q` stand only entries with an active key.
    exact absurd (hxkey ▸ hpre x hin) hkey
  · have hsorted := h.sorted
    rw [hqueue, List.map_append, List.map_cons, List.pairwise_append, List.pairwise_cons]
      at hsorted
    exact hsorted.2.1.1 x.call (List.mem_map_of_mem hin)

/-- The queue timeout of a call fires. -/
theorem timeout (h : History w pending) : History (w.timeout call) pending :=
  (h.shorten List.filter_sublist).settle (Or.inl rfl) fun hs => by cases hs

end History

/-- An arriving call that is not passed on leaves the history as it is. -/
theorem Arrived.history {w w₁ : RunnerWorld Ω} (ha : Arrived w w₁) (h : History w [])
    (hpassed : w₁.passed = w.passed ∨ ∃ k, w₁.passed = w.passed ++ [(w.nextCall, k)])
    (hledger : Ledger w []) : History w₁ [] where
  starts := by rw [ha.operations, ha.running]; exact h.starts
  outcomes := by rw [ha.operations, ha.settlements]; exact h.outcomes
  runs := by rw [ha.operations, ha.running]; exact h.runs
  accounted := by rw [ha.operations, ha.running]; exact h.accounted
  behind := by rw [ha.operations, ha.queue]; exact h.behind
  sorted := by rw [ha.queue]; exact h.sorted
  ordered := by rw [ha.operations]; exact h.ordered
  closed := by rw [ha.operations]; exact h.closed
  drawn c k hc := by
    -- The new call has the last number that was drawn.
    rw [ha.nextCall]
    rcases hpassed with heq | ⟨k', heq⟩
    · rw [heq] at hc
      have := h.drawn c k hc
      omega
    · rw [heq] at hc
      rcases List.mem_append.mp hc with hold | hnew
      · have := h.drawn c k hold
        omega
      · cases List.mem_singleton.mp hnew
        omega
  passedOnce := by
    rcases hpassed with heq | ⟨k', heq⟩
    · rw [heq]; exact h.passedOnce
    · rw [heq, List.map_append]
      refine h.passedOnce.append (List.nodup_singleton _) fun c hc hnew => ?_
      obtain ⟨⟨c', k⟩, hin, rfl⟩ := List.mem_map.mp hc
      cases List.mem_singleton.mp hnew
      exact absurd (h.drawn _ k hin) (Nat.lt_irrefl _)
  startedPassed c k hc := by
    rw [ha.operations] at hc
    rcases hpassed with heq | ⟨k', heq⟩
    · rw [heq]; exact h.startedPassed c k hc
    · rw [heq]; exact List.mem_append_left _ (h.startedPassed c k hc)
  queuedPassed q hq := by
    rw [ha.queue] at hq
    rcases hpassed with heq | ⟨k', heq⟩
    · rw [heq]; exact h.queuedPassed q hq
    · rw [heq]; exact List.mem_append_left _ (h.queuedPassed q hq)
  disabledOnly c hc k hk := by
    rw [ha.settlements] at hc
    rcases hpassed with heq | ⟨k', heq⟩
    · rw [heq] at hk
      exact h.disabledOnly c hc k hk
    · rw [heq] at hk
      rcases List.mem_append.mp hk with hold | hnew
      · exact h.disabledOnly c hc k hold
      · -- The new call is not settled yet.
        cases List.mem_singleton.mp hnew
        have hin : w.nextCall ∈ w.running.map Prod.fst ++
            w.service.queuedRuns.map QueuedRun.call ++ w.settlements.map Prod.fst ++ [] := by
          simp only [List.append_nil, List.mem_append]
          exact Or.inr (List.mem_map_of_mem hc)
        have hlt := List.mem_range.mp (hledger.places.mem_iff.mp hin)
        omega

/-! ### Every event -/

/-- Both invariants of the service: the bounds of its admission, and the history that says of each
call where it stands. -/
structure Judged (w : RunnerWorld Ω) : Prop where
  admission : Admission w
  history : History w []

namespace Judged

variable {w : RunnerWorld Ω}

/-- A request arrives. It overtakes no call with its key: with a free slot, none of them waits. -/
theorem judge (h : Judged w) (production : Bool) (key : String) (now : Int) :
    Judged (w.judge production key now) := by
  refine ⟨h.admission.judge production key now, ?_⟩
  have hstarted : ∀ c, .started c key ∈ w.operations → c < w.nextCall := fun c hc =>
    h.history.drawn c key (h.history.startedPassed c key hc)
  obtain ⟨w₁, ha, hcases⟩ := judge_cases production w key now
  have hslots := ha.slots h.admission.slots
  have hcons := ha.conserving h.admission.conserving
  rcases hcases with ⟨hpassed, s, hs, heq⟩ | ⟨hpassed, heq⟩
  · rw [heq]
    refine (ha.history h.history (Or.inl hpassed) h.admission.ledger).settle hs fun _ k hk => ?_
    rw [hpassed] at hk
    have := h.history.drawn _ k hk
    omega
  · rw [heq]
    have hhist := ha.history h.history (Or.inr ⟨key, hpassed⟩) h.admission.ledger
    have hin : (w.nextCall, key) ∈ w₁.passed := by simp [hpassed]
    rw [← ha.operations] at hstarted
    rcases withAdmission_cases w₁ w.nextCall key with
      ⟨hslot, hkey, hrun⟩ | ⟨-, -, hbusy⟩ | ⟨-, -, hwait⟩
    · rw [hrun]
      refine hhist.runAdmitted hslots hkey hin hstarted fun q hq hqkey => ?_
      -- With a free slot no queued entry has an inactive key.
      exact absurd (hqkey ▸ hcons hslot q hq) hkey
    · rw [hbusy]
      exact hhist.settle (Or.inl rfl) fun hs => by cases hs
    · rw [hwait]
      refine hhist.enqueue hin hstarted fun q hq => ?_
      rw [ha.queue] at hq
      exact h.history.drawn q.call q.admissionKey (h.history.queuedPassed q hq)

/-- An operation that ends keeps both invariants: its outcome is recorded once, and the queued
calls that follow start in their order. -/
theorem finish (h : Judged w) {call : Nat} {key : String} (hrun : (call, key) ∈ w.running)
    (o : Ω) : Judged (w.finish call key o) := by
  have hnodup := h.admission.ledger.running_nodup
  have hrelease : Slots (w.release call key o) ∧ History (w.release call key o) [(call, o)] :=
    ⟨h.admission.slots.release hnodup hrun o, h.history.release hnodup hrun o⟩
  obtain ⟨-, hhist⟩ :=
    dispatchLoop_induct (I := fun w => Slots w ∧ History w [(call, o)])
      (fun w q pre post hI hslot hqueue hkey hpre =>
        ⟨hI.1.dispatchEntry hslot hqueue hkey, hI.2.dispatchEntry hI.1 hqueue hkey hpre⟩)
      (w.release call key o).service.queuedRuns.length (w.release call key o) hrelease
  exact ⟨h.admission.finish hrun o, hhist.settle_outcome⟩

/-- A queue timeout fires. -/
theorem timeout (h : Judged w) {call : Nat} (harmed : call ∈ w.timeouts) :
    Judged (w.timeout call) :=
  ⟨h.admission.timeout harmed, h.history.timeout⟩

end Judged

/-- The admission invariant and the history of the calls both hold at the end of every run. -/
theorem judged_run (production : Bool) (es : List (RunnerEvent Ω)) (w : RunnerWorld Ω)
    (h : (runnerMachine Ω production).run {} es = some w) : Judged w := by
  refine Machine.invariant (M := runnerMachine Ω production) (I := Judged) ?_ es {} w
    ⟨Admission.empty, History.empty⟩ h
  intro w e w' hw hstep
  rcases runner_step_cases hstep with
    ⟨key, now, -, rfl⟩ | ⟨call, key, o, -, hrun, rfl⟩ | ⟨call, -, harmed, rfl⟩
  · exact hw.judge production key now
  · exact hw.finish hrun o
  · exact hw.timeout harmed

/-! ### Why a call is rejected -/

/-- Why a call that passed the rate check is rejected as busy in the run of `es`. The code
rejects it for one of two reasons, and each of them is an event of the run:

* `queueFull`: when the call arrived, no slot was free for its key and the queue held its
  maximum of eight entries;
* `queueTimeout`: the call waited in the queue until its timeout fired. -/
inductive BusyReason (production : Bool) (es : List (RunnerEvent Ω)) (c : Nat) (k : String) :
    Prop where
  | queueFull (before : List (RunnerEvent Ω)) (now : Int) (w : RunnerWorld Ω)
      (arrives : (runnerMachine Ω production).Makes {} es before (.judge k now) w)
      (call : w.nextCall = c)
      (noSlot : w.service.activeRuns < maxConcurrentRuns → k ∈ w.service.activeAdmissionKeys)
      (full : w.service.queuedRuns.length = maxQueuedRuns)
  | queueTimeout (before : List (RunnerEvent Ω)) (w : RunnerWorld Ω)
      (fires : (runnerMachine Ω production).Makes {} es before (.timeout c) w)
      (waits : c ∈ w.service.queuedRuns.map QueuedRun.call)

namespace BusyReason

variable {production : Bool} {es es' : List (RunnerEvent Ω)} {c : Nat} {k : String}

/-- A reason stays a reason in every longer run. -/
theorem mono (h : BusyReason production es c k) (hes : es <+: es') :
    BusyReason production es' c k := by
  cases h with
  | queueFull before now w arrives call noSlot full =>
      exact .queueFull before now w (arrives.mono hes) call noSlot full
  | queueTimeout before w fires waits => exact .queueTimeout before w (fires.mono hes) waits

end BusyReason

/-- A busy rejection that a new request brings: a call that passed is rejected as busy after the
request was so before, or it is the new call, which found no slot and a full queue. -/
theorem Judged.busy_judge {production : Bool} {w : RunnerWorld Ω} (h : Judged w) {key k : String}
    {now : Int} {c : Nat} (hpassed : (c, k) ∈ (w.judge production key now).passed)
    (hbusy : (c, .busy) ∈ (w.judge production key now).settlements) :
    ((c, k) ∈ w.passed ∧ (c, .busy) ∈ w.settlements) ∨
      (c = w.nextCall ∧ k = key ∧
        (w.service.activeRuns < maxConcurrentRuns → key ∈ w.service.activeAdmissionKeys) ∧
        maxQueuedRuns ≤ w.service.queuedRuns.length) := by
  -- A call that is already settled has been drawn, so it is not the new call.
  have hdrawn : ∀ s, (w.nextCall, s) ∉ w.settlements := by
    intro s hs
    have hin := h.admission.ledger.places.mem_iff.mp
      (List.mem_append_left _ (List.mem_append_right _ (List.mem_map_of_mem hs)))
    exact Nat.lt_irrefl _ (List.mem_range.mp hin)
  obtain ⟨w₁, ha, hcases⟩ := judge_cases production w key now
  rcases hcases with ⟨hold, s, -, heq⟩ | ⟨hnew, heq⟩
  · -- The new call is refused before the admission: it has not passed.
    rw [heq] at hpassed hbusy
    replace hpassed : (c, k) ∈ w₁.passed := hpassed
    rw [hold] at hpassed
    rcases List.mem_append.mp hbusy with hin | hin
    · rw [ha.settlements] at hin
      exact Or.inl ⟨hpassed, hin⟩
    · cases List.mem_singleton.mp hin
      exact absurd (h.history.drawn _ k hpassed) (Nat.lt_irrefl _)
  · rw [heq] at hpassed hbusy
    have hset : w₁.settlements = w.settlements := ha.settlements
    -- The new call is the only new entry of `passed`.
    have hsplit : (c, k) ∈ w₁.passed → (c, .busy) ∈ w.settlements → (c, k) ∈ w.passed := by
      intro hin hs
      rw [hnew] at hin
      rcases List.mem_append.mp hin with hold | hlast
      · exact hold
      · cases List.mem_singleton.mp hlast
        exact absurd hs (hdrawn _)
    rcases withAdmission_cases w₁ w.nextCall key with
      ⟨-, -, hrun⟩ | ⟨hwhy, hfull, hreject⟩ | ⟨-, -, hwait⟩
    · rw [hrun] at hpassed hbusy
      replace hbusy : (c, .busy) ∈ w₁.settlements := hbusy
      rw [hset] at hbusy
      exact Or.inl ⟨hsplit hpassed hbusy, hbusy⟩
    · rw [hreject] at hpassed hbusy
      rcases List.mem_append.mp hbusy with hin | hin
      · rw [hset] at hin
        exact Or.inl ⟨hsplit hpassed hin, hin⟩
      · cases List.mem_singleton.mp hin
        replace hpassed : (w.nextCall, k) ∈ w₁.passed := hpassed
        rw [hnew] at hpassed
        rcases List.mem_append.mp hpassed with hold | hlast
        · exact absurd (h.history.drawn _ k hold) (Nat.lt_irrefl _)
        · cases List.mem_singleton.mp hlast
          rw [ha.active, ha.keys] at hwhy
          rw [ha.queue] at hfull
          exact Or.inr ⟨rfl, rfl, hwhy, hfull⟩
    · rw [hwait] at hpassed hbusy
      replace hbusy : (c, .busy) ∈ w₁.settlements := hbusy
      rw [hset] at hbusy
      exact Or.inl ⟨hsplit hpassed hbusy, hbusy⟩

/-- The dispatch loop settles no promise and passes no new call. -/
theorem dispatchQueuedRuns_settles (w : RunnerWorld Ω) :
    w.dispatchQueuedRuns.settlements = w.settlements ∧ w.dispatchQueuedRuns.passed = w.passed :=
  dispatchLoop_induct
    (I := fun w' => w'.settlements = w.settlements ∧ w'.passed = w.passed)
    (fun _ _ _ _ hI _ _ _ _ => hI) w.service.queuedRuns.length w ⟨rfl, rfl⟩

/-- Every busy rejection of a passed call has a reason in the run. The induction is on the last
event: it brings a rejection only for a new call that finds the queue full, or for the call
whose timeout it is. -/
theorem busy_run (production : Bool) (es : List (RunnerEvent Ω)) (w : RunnerWorld Ω)
    (h : (runnerMachine Ω production).run {} es = some w) :
    ∀ c k, (c, k) ∈ w.passed → (c, .busy) ∈ w.settlements → BusyReason production es c k := by
  suffices hall : (runnerMachine Ω production).run {} es = some w ∧ ∀ c k, (c, k) ∈ w.passed →
      (c, .busy) ∈ w.settlements → BusyReason production es c k from hall.2
  refine Machine.history_invariant (M := runnerMachine Ω production)
    (P := fun es w => (runnerMachine Ω production).run {} es = some w ∧ ∀ c k, (c, k) ∈ w.passed →
      (c, .busy) ∈ w.settlements → BusyReason production es c k) ⟨rfl, fun c k hc => nomatch hc⟩
    ?_ es w h
  rintro es w e w' ⟨hrun, hreasons⟩ hstep
  refine ⟨(Machine.run_concat_eq_some _ _ _ _).mpr ⟨w, hrun, hstep⟩, fun c k hpassed hbusy => ?_⟩
  have hw := judged_run production es w hrun
  have hlonger : es <+: es ++ [e] := List.prefix_append es [e]
  rcases runner_step_cases hstep with
    ⟨key, now, rfl, rfl⟩ | ⟨call, key, o, rfl, -, rfl⟩ | ⟨call, rfl, harmed, rfl⟩
  · rcases hw.busy_judge hpassed hbusy with ⟨hold, hset⟩ | ⟨rfl, rfl, hwhy, hfull⟩
    · exact (hreasons c k hold hset).mono hlonger
    · exact .queueFull es now w (Machine.makes_concat hrun _) rfl hwhy
        (Nat.le_antisymm hw.admission.slots.queue hfull)
  · -- The promise of an ended operation is settled with its outcome.
    obtain ⟨hset, hpass⟩ := dispatchQueuedRuns_settles (w.release call key o)
    replace hpassed : (c, k) ∈ (w.release call key o).dispatchQueuedRuns.passed := hpassed
    rw [hpass] at hpassed
    rcases List.mem_append.mp hbusy with hin | hin
    · rw [hset] at hin
      exact (hreasons c k hpassed hin).mono hlonger
    · cases List.mem_singleton.mp hin
  · rcases List.mem_append.mp hbusy with hin | hin
    · exact (hreasons c k hpassed hin).mono hlonger
    · cases List.mem_singleton.mp hin
      rw [hw.admission.ledger.armed] at harmed
      exact .queueTimeout es w (Machine.makes_concat hrun _) harmed

/-! ### The state of a call -/

/-- What can have become of a call: it waits in the queue, runs in a slot, has been answered with
the outcome of its run, or has been rejected as busy. -/
inductive CallState (Ω : Type) where
  | queued
  | running
  | finished (o : Ω)
  | rejected
  deriving DecidableEq

/-- The call `c` with the key `k` is in the given state after the run of `es`. A finished call
is settled with the outcome with which its operation ended. A rejected call is settled as
busy, and the run has a reason for it: the queue was full when the call arrived, or the
timeout of the call fired while it waited. -/
def InState (production : Bool) (es : List (RunnerEvent Ω)) (w : RunnerWorld Ω) (c : Nat)
    (k : String) : CallState Ω → Prop
  | .queued => ⟨c, k⟩ ∈ w.service.queuedRuns
  | .running => (c, k) ∈ w.running
  | .finished o => (c, .outcome o) ∈ w.settlements ∧ .finished c o ∈ w.operations
  | .rejected => (c, .busy) ∈ w.settlements ∧ BusyReason production es c k

namespace Judged

variable {w : RunnerWorld Ω}

/-- A settled call is settled once, and neither runs nor waits. -/
theorem settled_once (h : Judged w) {c : Nat} {s : Settlement Ω} (hs : (c, s) ∈ w.settlements) :
    (∀ s', (c, s') ∈ w.settlements → s' = s) ∧ c ∉ w.running.map Prod.fst ∧
      c ∉ w.service.queuedRuns.map QueuedRun.call := by
  have hnodup := h.admission.ledger.nodup
  rw [List.append_nil] at hnodup
  have hmem : c ∈ w.settlements.map Prod.fst := List.mem_map_of_mem hs
  have hdisj := (List.nodup_append.mp hnodup).2.2
  refine ⟨fun s' hs' => ?_, fun hrun => ?_, fun hq => ?_⟩
  · have heq := List.inj_on_of_nodup_map hnodup.of_append_right hs' hs rfl
    exact congrArg Prod.snd heq
  · exact hdisj c (List.mem_append_left _ hrun) c hmem rfl
  · exact hdisj c (List.mem_append_right _ hq) c hmem rfl

/-- A running call does not wait. -/
theorem running_not_queued (h : Judged w) {c : Nat} (hrun : c ∈ w.running.map Prod.fst) :
    c ∉ w.service.queuedRuns.map QueuedRun.call := fun hq =>
  (List.nodup_append.mp h.admission.ledger.nodup.of_append_left.of_append_left).2.2 c hrun c hq
    rfl

/-- A call passes with one key. -/
theorem passed_key (h : Judged w) {c : Nat} {k k' : String} (hc : (c, k) ∈ w.passed)
    (hc' : (c, k') ∈ w.passed) : k' = k :=
  congrArg Prod.snd (List.inj_on_of_nodup_map h.history.passedOnce hc' hc rfl)

/-- A call that passed is in exactly one state, when every busy rejection of a passed call has
a reason. -/
theorem inState_unique {production : Bool} {es : List (RunnerEvent Ω)} (h : Judged w)
    (hreasons : ∀ c k, (c, k) ∈ w.passed → (c, .busy) ∈ w.settlements →
      BusyReason production es c k)
    {c : Nat} {k : String} (hc : (c, k) ∈ w.passed) : ∃! st, InState production es w c k st := by
  have hlt := h.history.drawn c k hc
  -- Each number that was drawn is at one place of the ledger: running, queued or settled.
  have hin := h.admission.ledger.places.mem_iff.mpr (List.mem_range.mpr hlt)
  rw [List.append_nil, List.mem_append, List.mem_append] at hin
  rcases hin with (hrun | hq) | hset
  · obtain ⟨⟨c', k'⟩, hr, rfl⟩ := List.mem_map.mp hrun
    cases h.passed_key hc (h.history.startedPassed _ _ (h.history.runs _ _ hr))
    refine ⟨.running, hr, fun st hst => ?_⟩
    cases st with
    | queued => exact absurd (List.mem_map_of_mem hst) (h.running_not_queued hrun)
    | running => rfl
    | finished o => exact absurd hrun (h.settled_once hst.1).2.1
    | rejected => exact absurd hrun (h.settled_once hst.1).2.1
  · obtain ⟨⟨c', k'⟩, hentry, rfl⟩ := List.mem_map.mp hq
    cases h.passed_key hc (h.history.queuedPassed _ hentry)
    refine ⟨.queued, hentry, fun st hst => ?_⟩
    cases st with
    | queued => rfl
    | running => exact absurd hq (h.running_not_queued (List.mem_map_of_mem hst))
    | finished o => exact absurd hq (h.settled_once hst.1).2.2
    | rejected => exact absurd hq (h.settled_once hst.1).2.2
  · obtain ⟨⟨c', s⟩, hs, rfl⟩ := List.mem_map.mp hset
    obtain ⟨honce, hnrun, hnq⟩ := h.settled_once hs
    cases s with
    | outcome o =>
        have hfin : (c', o) ∈ w.operations.filterMap finishedCall? := by
          rw [h.history.outcomes, List.append_nil]
          exact mem_outcomes.mpr hs
        refine ⟨.finished o, ⟨hs, mem_finishedCalls.mp hfin⟩, fun st hst => ?_⟩
        cases st with
        | queued => exact absurd (List.mem_map_of_mem hst) hnq
        | running => exact absurd (List.mem_map_of_mem hst) hnrun
        | finished o' => cases honce _ hst.1; rfl
        | rejected => cases honce _ hst.1
    | busy =>
        refine ⟨.rejected, ⟨hs, hreasons c' k hc hs⟩, fun st hst => ?_⟩
        cases st with
        | queued => exact absurd (List.mem_map_of_mem hst) hnq
        | running => exact absurd (List.mem_map_of_mem hst) hnrun
        | finished o' => cases honce _ hst.1
        | rejected => rfl
    | disabled => exact absurd hc (h.history.disabledOnly c' hs k)

/-- Each operation starts once, and a call whose operation started is not rejected. -/
theorem started_once (h : Judged w) :
    (w.operations.filterMap startedCall?).Nodup ∧
      ∀ c k, .started c k ∈ w.operations → (c, .busy) ∉ w.settlements := by
  have hnodup := h.admission.ledger.nodup
  rw [List.append_nil] at hnodup
  obtain ⟨hleft, hright, hdisj⟩ := List.nodup_append.mp hnodup
  have hsub := outcomes_sublist w.settlements
  have houtcomes := h.history.outcomes
  rw [List.append_nil] at houtcomes
  refine ⟨?_, fun c k hc hbusy => ?_⟩
  · rw [h.history.starts.nodup_iff, houtcomes, List.nodup_append]
    refine ⟨hleft.of_append_left, hsub.nodup hright, fun a ha b hb => ?_⟩
    exact hdisj a (List.mem_append_left _ ha) b (hsub.subset hb)
  · obtain ⟨honce, hnrun, -⟩ := h.settled_once hbusy
    rcases h.history.accounted c k hc with hrun | ⟨o, ho⟩
    · exact hnrun (List.mem_map_of_mem hrun)
    · have hin : (c, o) ∈ w.settlements.filterMap outcome? := by
        rw [← houtcomes]
        exact mem_finishedCalls.mpr ho
      cases honce _ (mem_outcomes.mp hin)

/-- When nothing runs, nothing waits: a slot is free and no key is held, so the dispatch loop would
have started the head of the queue. -/
theorem queue_eq_nil (h : Judged w) (hidle : w.running = []) : w.service.queuedRuns = [] := by
  have hactive := h.admission.slots.active
  rw [hidle] at hactive
  have hslot : w.service.activeRuns < maxConcurrentRuns := by
    rw [hactive]
    decide
  rw [List.eq_nil_iff_forall_not_mem]
  intro q hq
  have hkey := h.admission.conserving hslot q hq
  rw [h.admission.slots.keys, hidle] at hkey
  cases hkey

/-- Of two started calls with one key, the earlier one ends before the later one starts. -/
theorem started_in_order (h : Judged w) {c c' : Nat} {k : String} (hlt : c < c')
    (hc : .started c k ∈ w.operations) (hc' : .started c' k ∈ w.operations) :
    ∃ o t₁ t₂ t₃ t₄, w.operations
      = t₁ ++ .started c k :: t₂ ++ .finished c o :: t₃ ++ .started c' k :: t₄ := by
  obtain ⟨a, t₄, hsplit⟩ := List.append_of_mem hc'
  have hbefore : .started c k ∈ a := by
    rw [hsplit] at hc
    rcases List.mem_append.mp hc with hin | hin
    · exact hin
    · rcases List.mem_cons.mp hin with heq | hin'
      · injection heq with hcc
        omega
      · -- A start of `c` after that of `c'` would make `c'` the earlier call.
        obtain ⟨b₁, b₂, rfl⟩ := List.append_of_mem hin'
        have hsplit' : w.operations = (a ++ .started c' k :: b₁) ++ .started c k :: b₂ := by
          rw [hsplit]
          simp
        have := (h.history.ordered _ c k b₂ hsplit' c' (by simp)).1
        omega
  obtain ⟨-, o, ho⟩ := h.history.ordered a c' k t₄ hsplit c hbefore
  obtain ⟨a₁, t₃, rfl⟩ := List.append_of_mem ho
  have hsplit' : w.operations = a₁ ++ .finished c o :: (t₃ ++ .started c' k :: t₄) := by
    rw [hsplit]
    simp
  -- The operation ended once and started once, so its start stands before its end.
  obtain ⟨k', hk'⟩ := h.history.closed a₁ c o _ hsplit'
  have hkk : k' = k := by
    by_contra hne
    have hnodup := h.started_once.1
    obtain ⟨b₁, b₂, rfl⟩ := List.append_of_mem hk'
    have hin : .started c k ∈ b₁ ++ b₂ ++ .finished c o :: t₃ := by
      have hmem := hbefore
      simp only [List.mem_append, List.mem_cons] at hmem ⊢
      rcases hmem with (hb | heq | hb) | hb
      · exact Or.inl (Or.inl hb)
      · injection heq with _ hk
        exact absurd hk.symm hne
      · exact Or.inl (Or.inr hb)
      · exact Or.inr hb
    have hcount : c ∈ (b₁ ++ b₂ ++ .finished c o :: t₃).filterMap startedCall? :=
      mem_startedCalls.mpr ⟨k, hin⟩
    have htwice : (w.operations.filterMap startedCall?).Perm
        (c :: ((b₁ ++ b₂ ++ .finished c o :: t₃).filterMap startedCall? ++ c' ::
          t₄.filterMap startedCall?)) := by
      rw [hsplit, List.perm_iff_count]
      intro x
      simp only [List.filterMap_append, List.filterMap_cons, startedCall?, List.count_append,
        List.count_cons]
      omega
    have hnot := (List.nodup_cons.mp (htwice.nodup_iff.mp hnodup)).1
    exact hnot (List.mem_append_left _ hcount)
  subst hkk
  obtain ⟨t₁, t₂, rfl⟩ := List.append_of_mem hk'
  refine ⟨o, t₁, t₂, t₃, t₄, ?_⟩
  rw [hsplit]

end Judged

/-- Every judge request settles once, and the requests of a candidate run in order. In every
state that the service reaches:

- a call that passed `assertRequestRate` is in exactly one state: it waits in the queue, it
  runs, it has finished with the outcome of its operation, or it is rejected as busy because
  the queue was full when it arrived or because its timeout fired while it waited;
- no call is settled twice, no operation starts twice, and no operation starts for a call
  that is rejected as busy;
- without a running operation the queue is empty;
- of two calls with one admission key whose operations start, the operation of the earlier
  call starts first and ends before the other one starts. -/
theorem judge_settles_once_in_order (production : Bool) (es : List (RunnerEvent Ω))
    (w : RunnerWorld Ω) (h : (runnerMachine Ω production).run {} es = some w) :
    (∀ c k, (c, k) ∈ w.passed → ∃! st, InState production es w c k st) ∧
    (w.settlements.map Prod.fst).Nodup ∧
    (w.operations.filterMap startedCall?).Nodup ∧
    (∀ c k, .started c k ∈ w.operations → (c, k) ∈ w.passed ∧ (c, .busy) ∉ w.settlements) ∧
    (w.running = [] → w.service.queuedRuns = []) ∧
    (∀ c c' k, c < c' → .started c k ∈ w.operations → .started c' k ∈ w.operations →
      ∃ o t₁ t₂ t₃ t₄, w.operations
        = t₁ ++ .started c k :: t₂ ++ .finished c o :: t₃ ++ .started c' k :: t₄) := by
  have hw := judged_run production es w h
  have hreasons := busy_run production es w h
  have hsettled := hw.admission.ledger.nodup
  rw [List.append_nil] at hsettled
  refine ⟨fun c k hc => hw.inState_unique hreasons hc, hsettled.of_append_right,
    hw.started_once.1,
    fun c k hc => ⟨hw.history.startedPassed c k hc, hw.started_once.2 c k hc⟩,
    hw.queue_eq_nil, fun c c' k hlt hc hc' => hw.started_in_order hlt hc hc'⟩

/-- Two requests of one candidate: the second waits while the first runs, and it runs when the
first has ended. -/
theorem judge_settles_once_in_order_two :
    let waiting : List (RunnerEvent Unit) := [.judge "candidate_a" 0, .judge "candidate_a" 1]
    let events := waiting ++ [.finish 0 ()]
    ∃ w₁ w₂, (runnerMachine Unit false).run {} waiting = some w₁ ∧
      (runnerMachine Unit false).run {} events = some w₂ ∧
      (∃! st, InState false waiting w₁ 0 "candidate_a" st) ∧
      (∃! st, InState false waiting w₁ 1 "candidate_a" st) ∧
      InState false waiting w₁ 0 "candidate_a" .running ∧
      InState false waiting w₁ 1 "candidate_a" .queued ∧
      (∃! st, InState false events w₂ 0 "candidate_a" st) ∧
      (∃! st, InState false events w₂ 1 "candidate_a" st) ∧
      InState false events w₂ 0 "candidate_a" (.finished ()) ∧
      InState false events w₂ 1 "candidate_a" .running := by
  intro waiting events
  have h₁ := judge_settles_once_in_order false waiting _ rfl
  have h₂ := judge_settles_once_in_order false events _ rfl
  refine ⟨_, _, rfl, rfl, h₁.1 0 "candidate_a" ?_, h₁.1 1 "candidate_a" ?_, ?_, ?_,
    h₂.1 0 "candidate_a" ?_, h₂.1 1 "candidate_a" ?_, ?_, ?_⟩
  -- The two calls have passed the rate limit.
  · decide
  · decide
  · show (_, _) ∈ _
    decide
  · show (⟨_, _⟩ : QueuedRun) ∈ _
    decide
  · decide
  · decide
  · exact ⟨by decide, by decide⟩
  · show (_, _) ∈ _
    decide

end Dcvp.Proofs
