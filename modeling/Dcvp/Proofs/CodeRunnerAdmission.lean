import Dcvp.Services.CodeRunner
import Mathlib.Data.List.Nodup
import Mathlib.Data.List.Perm.Basic

/-!
# `Dcvp.Proofs.CodeRunnerAdmission`: slots, keys and the queue

Three facts about the service, for every run of `runnerMachine`.

`Ledger w missing` says where the calls are: each call so far runs, waits in the queue, is
settled, or is in the list `missing`, and it is in one place only. The list `missing` is
empty between two events. It holds the call that an event has in its hands: a new call
before its admission, and an ended call before its promise settles.

`Slots` says that the counter and the key set of the class describe the running operations,
which have different keys and are at most two, and that the queue has at most eight entries.

`Conserving` says that no request waits without a reason: with a free slot, the key of every
queued entry is active. An arriving request can break it only by waiting, and it waits only
when there is no slot or its key is active. An ending operation breaks it, and the dispatch
loop restores it (`dispatchLoop_conserving`).

`admission_control` is the result.
-/

set_option autoImplicit false

namespace Dcvp.Proofs

open Dcvp.Lib
open Dcvp.Services

variable {Ω : Type}

/-! ### The first element that satisfies a test -/

/-- What `spliceFirst` takes out: an element that satisfies the test, after elements that do
not. -/
theorem spliceFirst_eq_some {α : Type} {p : α → Bool} {x : α} :
    ∀ {l rest : List α}, spliceFirst p l = some (x, rest) →
      ∃ pre post, l = pre ++ x :: post ∧ rest = pre ++ post ∧ p x = true ∧
        ∀ y ∈ pre, p y = false := by
  intro l
  induction l with
  | nil => intro rest h; cases h
  | cons y ys ih =>
      intro rest h
      unfold spliceFirst at h
      by_cases hy : p y = true
      · rw [if_pos hy] at h
        cases h
        exact ⟨[], ys, rfl, rfl, hy, by simp⟩
      · rw [if_neg hy, Option.map_eq_some_iff] at h
        obtain ⟨⟨x', rest'⟩, hrest, heq⟩ := h
        cases heq
        obtain ⟨pre, post, rfl, rfl, hx, hpre⟩ := ih hrest
        refine ⟨y :: pre, post, rfl, rfl, hx, fun z hz => ?_⟩
        rcases List.mem_cons.mp hz with rfl | hz'
        · simpa using hy
        · exact hpre z hz'

/-- `spliceFirst` finds nothing exactly when no element satisfies the test. -/
theorem spliceFirst_eq_none {α : Type} {p : α → Bool} {l : List α} :
    spliceFirst p l = none ↔ ∀ x ∈ l, p x = false := by
  induction l with
  | nil => simp [spliceFirst]
  | cons y ys ih =>
      unfold spliceFirst
      by_cases hy : p y = true <;> simp [hy, ih]

/-! ### The dispatch loop -/

/-- A round of the dispatch loop takes the first entry with an inactive key while a slot is
free. What every such round keeps, the loop keeps. -/
theorem dispatchLoop_induct {I : RunnerWorld Ω → Prop}
    (hentry : ∀ (w : RunnerWorld Ω) (q : QueuedRun) (pre post : List QueuedRun), I w →
      w.service.activeRuns < maxConcurrentRuns →
      w.service.queuedRuns = pre ++ q :: post →
      q.admissionKey ∉ w.service.activeAdmissionKeys →
      (∀ x ∈ pre, x.admissionKey ∈ w.service.activeAdmissionKeys) →
      I (w.dispatchEntry q (pre ++ post))) :
    ∀ (fuel : Nat) (w : RunnerWorld Ω), I w → I (RunnerWorld.dispatchLoop fuel w) := by
  intro fuel
  induction fuel with
  | zero => intro w hw; exact hw
  | succ fuel ih =>
      intro w hw
      unfold RunnerWorld.dispatchLoop
      split
      · rename_i hslot
        split
        · exact hw
        · rename_i q rest hsplice
          obtain ⟨pre, post, hqueue, rfl, hq, hpre⟩ := spliceFirst_eq_some hsplice
          refine ih _ (hentry w q pre post hw hslot hqueue (by simpa using hq) fun x hx => ?_)
          simpa using hpre x hx
      · exact hw

/-- With a free slot, the key of every queued entry is active. -/
def Conserving (w : RunnerWorld Ω) : Prop :=
  w.service.activeRuns < maxConcurrentRuns →
    ∀ q ∈ w.service.queuedRuns, q.admissionKey ∈ w.service.activeAdmissionKeys

/-- The length of the queue is enough fuel: the loop ends because no slot is free or no
entry is runnable. -/
theorem dispatchLoop_conserving :
    ∀ (fuel : Nat) (w : RunnerWorld Ω), w.service.queuedRuns.length ≤ fuel →
      Conserving (RunnerWorld.dispatchLoop fuel w) := by
  intro fuel
  -- Each turn of the loop takes one entry out of the queue, so the fuel cannot end before the loop
  -- does.
  induction fuel with
  | zero =>
      intro w hlen _ q hq
      replace hq : q ∈ w.service.queuedRuns := hq
      rw [List.length_eq_zero_iff.mp (Nat.le_zero.mp hlen)] at hq
      cases hq
  | succ fuel ih =>
      intro w hlen
      unfold RunnerWorld.dispatchLoop
      split
      · split
        · rename_i hnone
          intro _ q hq
          -- No entry of the queue has a free key: the loop ends.
          simpa using spliceFirst_eq_none.mp hnone q hq
        · rename_i q rest hsplice
          obtain ⟨pre, post, hqueue, rfl, -, -⟩ := spliceFirst_eq_some hsplice
          refine ih _ ?_
          show (pre ++ post).length ≤ fuel
          rw [hqueue, List.length_append, List.length_cons] at hlen
          rw [List.length_append]
          omega
      · rename_i hfull
        exact fun hslot => absurd hslot hfull

/-! ### The ledger of calls -/

/-- Each call so far is in one place: it runs, waits, is settled, or is `missing`. The armed
timeouts are those of the queue. -/
structure Ledger (w : RunnerWorld Ω) (missing : List Nat) : Prop where
  places : (w.running.map Prod.fst ++ w.service.queuedRuns.map QueuedRun.call ++
    w.settlements.map Prod.fst ++ missing).Perm (List.range w.nextCall)
  armed : w.timeouts = w.service.queuedRuns.map QueuedRun.call

namespace Ledger

variable {w : RunnerWorld Ω} {missing : List Nat} {call : Nat} {key : String}

/-- No call has arrived yet. -/
theorem empty : Ledger ({} : RunnerWorld Ω) [] := ⟨List.Perm.refl _, rfl⟩

/-- The places exclude each other, because every number has been drawn once. -/
theorem nodup (h : Ledger w missing) :
    (w.running.map Prod.fst ++ w.service.queuedRuns.map QueuedRun.call ++
      w.settlements.map Prod.fst ++ missing).Nodup :=
  h.places.nodup_iff.mpr List.nodup_range

/-- The running calls are different calls. -/
theorem running_nodup (h : Ledger w missing) : (w.running.map Prod.fst).Nodup :=
  h.nodup.of_append_left.of_append_left.of_append_left

/-- The queued calls are different calls. -/
theorem queued_nodup (h : Ledger w missing) :
    (w.service.queuedRuns.map QueuedRun.call).Nodup :=
  h.nodup.of_append_left.of_append_left.of_append_right

/-- A new call is drawn, and is missing so far. -/
theorem draw (h : Ledger w []) :
    Ledger { w with nextCall := w.nextCall + 1 } [w.nextCall] := by
  refine ⟨?_, h.armed⟩
  show (_ ++ [w.nextCall]).Perm (List.range (w.nextCall + 1))
  rw [List.range_succ]
  exact (by simpa using h.places : List.Perm _ _).append_right _

/-- When a call that is nowhere yet is settled, the ledger is complete again without it. -/
theorem settle (h : Ledger w (call :: missing)) (s : Settlement Ω) :
    Ledger (w.settle call s) missing := by
  refine ⟨?_, h.armed⟩
  rw [List.perm_iff_count]
  intro a
  have hcount := h.places.count_eq a
  simp only [RunnerWorld.settle, List.map_append, List.map_cons, List.map_nil,
    List.count_append, List.count_cons, List.count_nil] at hcount ⊢
  omega

/-- When a call that is nowhere yet starts to run, the ledger is complete again without it. -/
theorem runAdmitted (h : Ledger w (call :: missing)) : Ledger (w.runAdmitted call key) missing := by
  refine ⟨?_, h.armed⟩
  rw [List.perm_iff_count]
  intro a
  have hcount := h.places.count_eq a
  simp only [RunnerWorld.runAdmitted, List.map_append, List.map_cons, List.map_nil,
    List.count_append, List.count_cons, List.count_nil] at hcount ⊢
  omega

/-- When a call that is nowhere yet begins to wait, the ledger is complete again without it. -/
theorem enqueue (h : Ledger w (call :: missing)) : Ledger (w.enqueue call key) missing := by
  refine ⟨?_, ?_⟩
  · rw [List.perm_iff_count]
    intro a
    have hcount := h.places.count_eq a
    simp only [RunnerWorld.enqueue, List.map_append, List.map_cons, List.map_nil,
      List.count_append, List.count_cons, List.count_nil] at hcount ⊢
    omega
  · simp [RunnerWorld.enqueue, h.armed]

/-- In a list without repetitions, filtering an element out removes its one occurrence. -/
theorem filter_ne_eq_erase {l : List Nat} (hl : l.Nodup) (c : Nat) :
    l.filter (· ≠ c) = l.erase c := by
  rw [hl.erase_eq_filter]
  refine List.filter_congr fun x _ => ?_
  by_cases h : x = c <;> simp [h]

/-- Taking an element out of a list without repetitions, by count. -/
theorem count_filter_ne {l : List Nat} (hl : l.Nodup) {c : Nat} (hc : c ∈ l) (a : Nat) :
    l.count a = (l.filter (· ≠ c)).count a + if c = a then 1 else 0 := by
  rw [filter_ne_eq_erase hl, (List.perm_cons_erase hc).count_eq a, List.count_cons]
  simp

/-- The operation of a running call has ended, and the call is missing until it settles. -/
theorem release (h : Ledger w missing) (hrun : (call, key) ∈ w.running) (o : Ω) :
    Ledger (w.release call key o) (call :: missing) := by
  refine ⟨?_, h.armed⟩
  rw [List.perm_iff_count]
  intro a
  have hcount := h.places.count_eq a
  have hmem : call ∈ w.running.map Prod.fst := List.mem_map_of_mem hrun
  have hsplit := count_filter_ne h.running_nodup hmem a
  have hmap : (w.running.filter fun r => r.1 ≠ call).map Prod.fst
      = (w.running.map Prod.fst).filter (· ≠ call) := by
    rw [List.filter_map]
    rfl
  simp only [RunnerWorld.release, hmap, List.count_append, List.count_cons, beq_iff_eq]
    at hcount ⊢
  omega

/-- A queued call is taken out of the queue, its timeout is cleared and its operation starts: its
number only changes its place in the ledger. -/
theorem dispatchEntry (h : Ledger w missing) {q : QueuedRun} {pre post : List QueuedRun}
    (hqueue : w.service.queuedRuns = pre ++ q :: post) :
    Ledger (w.dispatchEntry q (pre ++ post)) missing := by
  have hnodup := h.queued_nodup
  have harmed := h.armed
  refine ⟨?_, ?_⟩
  · rw [List.perm_iff_count]
    intro a
    have hcount := h.places.count_eq a
    simp only [RunnerWorld.dispatchEntry, RunnerWorld.runAdmitted, hqueue, List.map_append,
      List.map_cons, List.map_nil, List.count_append, List.count_cons, List.count_nil]
      at hcount ⊢
    omega
  · -- `clearTimeout` disarms exactly the timeout of the entry.
    show w.timeouts.filter (· ≠ q.call) = (pre ++ post).map QueuedRun.call
    rw [hqueue, List.map_append, List.map_cons] at hnodup harmed
    obtain ⟨hpre, hpost, -⟩ := List.nodup_append.mp hnodup
    have hne : ∀ x ∈ pre.map QueuedRun.call, x ≠ q.call := by
      intro x hx
      exact (List.nodup_append.mp hnodup).2.2 x hx q.call List.mem_cons_self
    have hne' : ∀ x ∈ post.map QueuedRun.call, x ≠ q.call := by
      rintro x hx rfl
      exact (List.nodup_cons.mp hpost).1 hx
    rw [harmed, List.filter_append, List.filter_cons_of_neg (by simp), List.map_append,
      List.filter_eq_self.mpr (by simpa using hne), List.filter_eq_self.mpr (by simpa using hne')]

/-- The armed timeout of a queued call fires: its number goes from the queue to the settled ones.
-/
theorem timeout (h : Ledger w []) (harmed : call ∈ w.timeouts) :
    Ledger (w.timeout call) [] := by
  have hmap : (w.service.queuedRuns.filter fun q => q.call ≠ call).map QueuedRun.call
      = (w.service.queuedRuns.map QueuedRun.call).filter (· ≠ call) := by
    rw [List.filter_map]
    rfl
  refine ⟨?_, ?_⟩
  · rw [List.perm_iff_count]
    intro a
    have hcount := h.places.count_eq a
    rw [h.armed] at harmed
    have hsplit := count_filter_ne h.queued_nodup harmed a
    simp only [RunnerWorld.timeout, RunnerWorld.settle, hmap, List.map_append, List.map_cons,
      List.map_nil, List.count_append, List.count_cons, List.count_nil, beq_iff_eq]
      at hcount ⊢
    omega
  · show w.timeouts.filter (· ≠ call) = _
    rw [h.armed]
    exact hmap.symm

end Ledger

/-! ### Slots and keys -/

/-- The counter and the key set describe the running operations, within the bounds. -/
structure Slots (w : RunnerWorld Ω) : Prop where
  active : w.service.activeRuns = w.running.length
  keys : w.service.activeAdmissionKeys = w.running.map Prod.snd
  distinct : (w.running.map Prod.snd).Nodup
  bound : w.running.length ≤ 2
  queue : w.service.queuedRuns.length ≤ maxQueuedRuns

namespace Slots

variable {w : RunnerWorld Ω} {call : Nat} {key : String}

/-- Nothing runs and nothing waits. -/
theorem empty : Slots ({} : RunnerWorld Ω) :=
  ⟨rfl, rfl, List.nodup_nil, Nat.zero_le _, Nat.zero_le _⟩

/-- A call that takes a free slot, with a key that is not active, adds one to the counter and its
key to the set. -/
theorem runAdmitted (h : Slots w) (hslot : w.service.activeRuns < maxConcurrentRuns)
    (hkey : key ∉ w.service.activeAdmissionKeys) : Slots (w.runAdmitted call key) where
  active := by
    show w.service.activeRuns + 1 = ((w.running ++ [(call, key)]).length : Int)
    have hactive := h.active
    rw [List.length_append, List.length_singleton]
    omega
  keys := by
    show addKey w.service.activeAdmissionKeys key = (w.running ++ [(call, key)]).map Prod.snd
    rw [addKey, if_neg hkey, h.keys, List.map_append]
    rfl
  distinct := by
    show ((w.running ++ [(call, key)]).map Prod.snd).Nodup
    rw [h.keys] at hkey
    rw [List.map_append]
    exact h.distinct.append (List.nodup_singleton key) (List.disjoint_singleton.mpr hkey)
  bound := by
    show (w.running ++ [(call, key)]).length ≤ 2
    have hactive := h.active
    unfold maxConcurrentRuns at hslot
    rw [List.length_append, List.length_singleton]
    omega
  queue := h.queue

/-- A call that waits takes no slot. There is room for it in the queue. -/
theorem enqueue (h : Slots w) (hqueue : w.service.queuedRuns.length < maxQueuedRuns) :
    Slots (w.enqueue call key) where
  active := h.active
  keys := h.keys
  distinct := h.distinct
  bound := h.bound
  queue := by
    show (w.service.queuedRuns ++ [_]).length ≤ maxQueuedRuns
    rw [List.length_append, List.length_singleton]
    omega

/-- The slot and the key of one operation are given back. Different operations have
different keys, so removing the key and removing the operation agree. -/
theorem release (h : Slots w) (hcalls : (w.running.map Prod.fst).Nodup)
    (hrun : (call, key) ∈ w.running) (o : Ω) : Slots (w.release call key o) := by
  -- The source deletes by key and the model by call. Both name the same operation, since neither
  -- repeats among those that run.
  have hagree : ∀ r ∈ w.running, (r.1 = call ↔ r.2 = key) := by
    intro r hr
    refine ⟨fun heq => ?_, fun heq => ?_⟩
    · rw [List.inj_on_of_nodup_map hcalls hr hrun heq]
    · rw [List.inj_on_of_nodup_map h.distinct hr hrun heq]
  have hkeys : deleteKey w.service.activeAdmissionKeys key
      = (w.running.filter fun r => r.1 ≠ call).map Prod.snd := by
    rw [deleteKey, h.keys, List.filter_map]
    refine congrArg _ (List.filter_congr fun r hr => ?_)
    simpa using (hagree r hr).symm
  have hlength : w.running.length = (w.running.filter fun r => r.1 ≠ call).length + 1 := by
    have hmem : call ∈ w.running.map Prod.fst := List.mem_map_of_mem hrun
    have hfilter : (w.running.filter fun r => r.1 ≠ call).map Prod.fst
        = (w.running.map Prod.fst).erase call := by
      rw [← Ledger.filter_ne_eq_erase hcalls, List.filter_map]
      rfl
    have hlen := congrArg List.length hfilter
    rw [List.length_map, List.length_erase_of_mem hmem, List.length_map] at hlen
    have hpos := List.length_pos_of_mem hrun
    omega
  refine ⟨?_, hkeys, h.distinct.sublist (List.filter_sublist.map _), ?_, h.queue⟩
  · show w.service.activeRuns - 1 = ((w.running.filter fun r => r.1 ≠ call).length : Int)
    have hactive := h.active
    omega
  · show (w.running.filter fun r => r.1 ≠ call).length ≤ 2
    have hbound := h.bound
    omega

/-- An entry of the queue that takes a free slot, as an arriving call would. -/
theorem dispatchEntry (h : Slots w) {q : QueuedRun} {pre post : List QueuedRun}
    (hslot : w.service.activeRuns < maxConcurrentRuns)
    (hqueue : w.service.queuedRuns = pre ++ q :: post)
    (hkey : q.admissionKey ∉ w.service.activeAdmissionKeys) :
    Slots (w.dispatchEntry q (pre ++ post)) := by
  have hlen := h.queue
  rw [hqueue, List.length_append, List.length_cons] at hlen
  refine runAdmitted ⟨h.active, h.keys, h.distinct, h.bound, ?_⟩ hslot hkey
  show (pre ++ post).length ≤ maxQueuedRuns
  rw [List.length_append]
  omega

/-- A call that has waited too long gives up its place in the queue. -/
theorem timeout (h : Slots w) : Slots (w.timeout call) where
  active := h.active
  keys := h.keys
  distinct := h.distinct
  bound := h.bound
  queue := Nat.le_trans (List.length_filter_le _ _) h.queue

end Slots

/-! ### Every event -/

/-- The invariant of the service between two events. -/
structure Admission (w : RunnerWorld Ω) : Prop where
  ledger : Ledger w []
  slots : Slots w
  conserving : Conserving w

/-- A request that passed: it starts at once, is rejected as busy, or waits. It waits or is
rejected only when no slot is free for its key, and it is rejected only when the queue is
full at that moment. -/
theorem withAdmission_cases (w : RunnerWorld Ω) (call : Nat) (key : String) :
    (w.service.activeRuns < maxConcurrentRuns ∧ key ∉ w.service.activeAdmissionKeys ∧
      w.withAdmission call key = w.runAdmitted call key) ∨
    ((w.service.activeRuns < maxConcurrentRuns → key ∈ w.service.activeAdmissionKeys) ∧
      maxQueuedRuns ≤ w.service.queuedRuns.length ∧
      w.withAdmission call key = w.settle call .busy) ∨
    ((w.service.activeRuns < maxConcurrentRuns → key ∈ w.service.activeAdmissionKeys) ∧
      w.service.queuedRuns.length < maxQueuedRuns ∧
      w.withAdmission call key = w.enqueue call key) := by
  unfold RunnerWorld.withAdmission
  split
  · rename_i h
    exact Or.inl ⟨h.1, h.2, rfl⟩
  · rename_i h
    have hwhy : w.service.activeRuns < maxConcurrentRuns →
        key ∈ w.service.activeAdmissionKeys :=
      fun hslot => by_contra fun hkey => h ⟨hslot, hkey⟩
    split
    · rename_i hfull
      exact Or.inr (Or.inl ⟨hwhy, hfull, rfl⟩)
    · rename_i hfull
      exact Or.inr (Or.inr ⟨hwhy, Nat.lt_of_not_le hfull, rfl⟩)

/-- The world in which an arriving call is admitted: its number is drawn, and the request
windows and the list of passed calls may have changed. -/
structure Arrived (w w₁ : RunnerWorld Ω) : Prop where
  nextCall : w₁.nextCall = w.nextCall + 1
  active : w₁.service.activeRuns = w.service.activeRuns
  keys : w₁.service.activeAdmissionKeys = w.service.activeAdmissionKeys
  queue : w₁.service.queuedRuns = w.service.queuedRuns
  running : w₁.running = w.running
  timeouts : w₁.timeouts = w.timeouts
  operations : w₁.operations = w.operations
  settlements : w₁.settlements = w.settlements

/-- What `judge` does with its call: it refuses it, or passes it on to `withAdmission`. -/
theorem judge_cases (production : Bool) (w : RunnerWorld Ω) (key : String) (now : Int) :
    ∃ w₁, Arrived w w₁ ∧
      ((w₁.passed = w.passed ∧ ∃ s : Settlement Ω, (s = .busy ∨ s = .disabled) ∧
        w.judge production key now = w₁.settle w.nextCall s) ∨
      (w₁.passed = w.passed ++ [(w.nextCall, key)] ∧
        w.judge production key now = w₁.withAdmission w.nextCall key)) := by
  -- In production the call is refused before anything is counted; otherwise the rate limit decides.
  cases production with
  | true =>
      exact ⟨{ w with nextCall := w.nextCall + 1 }, ⟨rfl, rfl, rfl, rfl, rfl, rfl, rfl, rfl⟩,
        Or.inl ⟨rfl, .disabled, Or.inr rfl, rfl⟩⟩
  | false =>
      cases hrate : assertRequestRate w.service.requestWindows key now with
      | mk pass requestWindows =>
          cases pass with
          | true =>
              refine ⟨{ w with
                  nextCall := w.nextCall + 1
                  service := { w.service with requestWindows }
                  passed := w.passed ++ [(w.nextCall, key)] },
                ⟨rfl, rfl, rfl, rfl, rfl, rfl, rfl, rfl⟩, Or.inr ⟨rfl, ?_⟩⟩
              simp [RunnerWorld.judge, hrate]
          | false =>
              refine ⟨{ w with
                  nextCall := w.nextCall + 1
                  service := { w.service with requestWindows } },
                ⟨rfl, rfl, rfl, rfl, rfl, rfl, rfl, rfl⟩,
                Or.inl ⟨rfl, .busy, Or.inl rfl, ?_⟩⟩
              simp [RunnerWorld.judge, hrate]

/-- The number of an arriving call has just been drawn, and the call is in no place yet. -/
theorem Arrived.ledger {w w₁ : RunnerWorld Ω} (ha : Arrived w w₁) (h : Ledger w []) :
    Ledger w₁ [w.nextCall] := by
  have hdraw := h.draw
  refine ⟨?_, ?_⟩
  · rw [ha.running, ha.queue, ha.settlements, ha.nextCall]
    exact hdraw.places
  · rw [ha.timeouts, ha.queue]
    exact h.armed

/-- An arriving call changes neither slots nor queue before its admission. -/
theorem Arrived.slots {w w₁ : RunnerWorld Ω} (ha : Arrived w w₁) (h : Slots w) : Slots w₁ where
  active := by rw [ha.active, ha.running]; exact h.active
  keys := by rw [ha.keys, ha.running]; exact h.keys
  distinct := by rw [ha.running]; exact h.distinct
  bound := by rw [ha.running]; exact h.bound
  queue := by rw [ha.queue]; exact h.queue

/-- Nor does it leave a slot free that an entry could take. -/
theorem Arrived.conserving {w w₁ : RunnerWorld Ω} (ha : Arrived w w₁) (h : Conserving w) :
    Conserving w₁ := by
  unfold Conserving
  rw [ha.active, ha.queue, ha.keys]
  exact h

/-- A new key stays in the set. -/
theorem mem_addKey {keys : List String} {key k : String} (h : k ∈ keys) :
    k ∈ addKey keys key := by
  unfold addKey
  split
  · exact h
  · exact List.mem_append_left _ h

namespace Admission

variable {w : RunnerWorld Ω}

/-- The invariant of a service that has just started. -/
theorem empty : Admission ({} : RunnerWorld Ω) :=
  ⟨Ledger.empty, Slots.empty, fun _ q hq => by cases hq⟩

/-- A request arrives: the ledger has its new number in one place, and the slots and the queue stay
within their limits. -/
theorem judge (h : Admission w) (production : Bool) (key : String) (now : Int) :
    Admission (w.judge production key now) := by
  obtain ⟨w₁, ha, hcases⟩ := judge_cases production w key now
  have hledger := ha.ledger h.ledger
  have hslots := ha.slots h.slots
  have hcons := ha.conserving h.conserving
  rcases hcases with ⟨-, s, -, heq⟩ | ⟨-, heq⟩
  · rw [heq]
    exact ⟨hledger.settle s, ⟨hslots.1, hslots.2, hslots.3, hslots.4, hslots.5⟩, hcons⟩
  · rw [heq]
    rcases withAdmission_cases w₁ w.nextCall key with
      ⟨hslot, hkey, hrun⟩ | ⟨-, -, hbusy⟩ | ⟨hwhy, hroom, hwait⟩
    · rw [hrun]
      refine ⟨hledger.runAdmitted, hslots.runAdmitted hslot hkey, fun _ q hq => ?_⟩
      exact mem_addKey (hcons hslot q hq)
    · rw [hbusy]
      exact ⟨hledger.settle .busy, ⟨hslots.1, hslots.2, hslots.3, hslots.4, hslots.5⟩, hcons⟩
    · rw [hwait]
      refine ⟨hledger.enqueue, hslots.enqueue hroom, fun hslot q hq => ?_⟩
      rcases List.mem_append.mp hq with hold | hnew
      · exact hcons hslot q hold
      · rw [List.mem_singleton.mp hnew]
        exact hwhy hslot

/-- An operation that ends keeps the whole invariant: its slot is released, it is settled, and the
dispatch loop fills the slots that are free. -/
theorem finish (h : Admission w) {call : Nat} {key : String}
    (hrun : (call, key) ∈ w.running) (o : Ω) : Admission (w.finish call key o) := by
  have hrelease : Ledger (w.release call key o) [call] ∧ Slots (w.release call key o) :=
    ⟨h.ledger.release hrun o, h.slots.release h.ledger.running_nodup hrun o⟩
  obtain ⟨hledger, hslots⟩ :=
    dispatchLoop_induct (I := fun w => Ledger w [call] ∧ Slots w)
      (fun w q pre post hI hslot hqueue hkey _ =>
        ⟨hI.1.dispatchEntry hqueue, hI.2.dispatchEntry hslot hqueue hkey⟩)
      (w.release call key o).service.queuedRuns.length (w.release call key o) hrelease
  have hcons := dispatchLoop_conserving
    (w.release call key o).service.queuedRuns.length (w.release call key o) (Nat.le_refl _)
  exact ⟨hledger.settle _, ⟨hslots.1, hslots.2, hslots.3, hslots.4, hslots.5⟩, hcons⟩

/-- A queue timeout fires. -/
theorem timeout (h : Admission w) {call : Nat} (harmed : call ∈ w.timeouts) :
    Admission (w.timeout call) :=
  ⟨h.ledger.timeout harmed, h.slots.timeout, fun hslot q hq =>
    h.conserving hslot q (List.mem_of_mem_filter hq)⟩

end Admission

/-- What an event does: a request arrives, a running operation ends, or the armed timeout of a
queued call fires. -/
theorem runner_step_cases {production : Bool} {w w' : RunnerWorld Ω} {e : RunnerEvent Ω}
    (h : (runnerMachine Ω production).step w e = some w') :
    (∃ key now, e = .judge key now ∧ w' = w.judge production key now) ∨
    (∃ call key o, e = .finish call o ∧ (call, key) ∈ w.running ∧ w' = w.finish call key o) ∨
    (∃ call, e = .timeout call ∧ call ∈ w.timeouts ∧ w' = w.timeout call) := by
  cases e with
  | judge key now =>
      cases h
      exact Or.inl ⟨key, now, rfl, rfl⟩
  | finish call o =>
      obtain ⟨⟨call', key⟩, hfind, rfl⟩ := Option.map_eq_some_iff.mp h
      have hcall : call' = call := by simpa using List.find?_some hfind
      subst hcall
      exact Or.inr (Or.inl ⟨call', key, o, rfl, List.mem_of_find?_eq_some hfind, rfl⟩)
  | timeout call =>
      simp only [runnerMachine, Option.ite_none_right_eq_some] at h
      obtain ⟨harmed, heq⟩ := h
      exact Or.inr (Or.inr ⟨call, rfl, harmed, (Option.some.inj heq).symm⟩)

/-- The invariant of the admission holds at the end of every run of judge calls, endings and
timeouts. -/
theorem admission_run (production : Bool) (es : List (RunnerEvent Ω)) (w : RunnerWorld Ω)
    (h : (runnerMachine Ω production).run {} es = some w) : Admission w := by
  refine Machine.invariant (M := runnerMachine Ω production) (I := Admission) ?_ es {} w
    Admission.empty h
  intro w e w' hw hstep
  rcases runner_step_cases hstep with
    ⟨key, now, -, rfl⟩ | ⟨call, key, o, -, hrun, rfl⟩ | ⟨call, -, harmed, rfl⟩
  · exact hw.judge production key now
  · exact hw.finish hrun o
  · exact hw.timeout harmed

/-- Admission control, in every state that the service reaches: the counter is the number
of running operations and the size of the key set, at most two and never negative; no two
running operations share a key; the queue holds at most eight entries; and with a free slot
the key of every queued entry is active. -/
theorem admission_control (production : Bool) (es : List (RunnerEvent Ω)) (w : RunnerWorld Ω)
    (h : (runnerMachine Ω production).run {} es = some w) :
    w.service.activeRuns = w.running.length ∧
    w.service.activeRuns = w.service.activeAdmissionKeys.length ∧
    (∀ k, k ∈ w.service.activeAdmissionKeys ↔ ∃ c, (c, k) ∈ w.running) ∧
    0 ≤ w.service.activeRuns ∧ w.service.activeRuns ≤ 2 ∧
    (∀ r ∈ w.running, ∀ r' ∈ w.running, r.2 = r'.2 → r = r') ∧
    w.service.queuedRuns.length ≤ 8 ∧
    (w.service.activeRuns < 2 →
      ∀ q ∈ w.service.queuedRuns, q.admissionKey ∈ w.service.activeAdmissionKeys) := by
  obtain ⟨-, hslots, hcons⟩ := admission_run production es w h
  have hactive := hslots.active
  have hbound := hslots.bound
  refine ⟨hactive, ?_, fun k => ?_, by omega, by omega, ?_, hslots.queue, hcons⟩
  · rw [hslots.keys, List.length_map]
    exact hactive
  · rw [hslots.keys]
    simp
  · intro r hr r' hr' hkey
    exact List.inj_on_of_nodup_map hslots.distinct hr hr' hkey

/-- Three requests with two keys: two run, and the third waits for its key. -/
theorem admission_control_three :
    let requests : List (RunnerEvent Unit) :=
      [.judge "candidate_a" 0, .judge "candidate_b" 1, .judge "candidate_a" 2]
    ∃ w, (runnerMachine Unit false).run {} requests = some w ∧
      w.service.activeRuns = w.running.length ∧ w.service.queuedRuns.length ≤ 8 := by
  intro requests
  have h := admission_control false requests _ rfl
  exact ⟨_, rfl, h.1, h.2.2.2.2.2.2.1⟩

end Dcvp.Proofs
