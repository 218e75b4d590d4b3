import Dcvp.Services.PasswordHash
import Mathlib.Data.List.Nodup
import Mathlib.Data.List.Perm.Basic

/-!
# `Dcvp.Proofs.PasswordKdf`: no slot of a key derivation leaks

`KdfInvariant` says where the calls of `derivePasswordKeyWithAdmission` are, for every run of
`kdfMachine`. A call waits in the queue or is settled, and it is in one place only (`places`). The
calls that were given a slot hold it or have ended (`holders`). Granted calls and waiters together
are in the order of their arrival (`ordered`), which a handover does not change: it moves the first
waiter behind the last granted call.

`w.grant call` is the only move that takes a slot. It has one lemma for both of its uses. Before it
the call is `missing`: it is neither settled nor in the queue.
-/

set_option autoImplicit false

namespace Dcvp.Proofs

open Dcvp.Lib
open Dcvp.Services

/-! ### The invariant -/

/-- Where the calls are, when `missing` are in the hands of the event. -/
structure KdfPlaces (w : KdfWorld) (missing : List Nat) : Prop where
  places : (w.settlements.map (·.1) ++ (missing ++ w.kdf.passwordKdfQueue)).Perm
    (List.range w.nextCall)
  ordered : (w.granted ++ (missing ++ w.kdf.passwordKdfQueue)).Pairwise (· < ·)
  holders : (w.ended ++ w.holding).Perm w.granted
  active : w.kdf.activePasswordKdf = w.holding.length
  bound : w.kdf.activePasswordKdf ≤ maxConcurrentPasswordKdf
  queue : w.kdf.passwordKdfQueue.length ≤ maxQueuedPasswordKdf
  armed : w.timeouts = w.kdf.passwordKdfQueue

/-- No call waits when a slot is free. -/
def Handed (w : KdfWorld) : Prop :=
  w.kdf.activePasswordKdf < maxConcurrentPasswordKdf → w.kdf.passwordKdfQueue = []

/-- What holds between two events: every call is in exactly one place, and no call waits while a
slot is free. -/
structure KdfInvariant (w : KdfWorld) : Prop where
  places : KdfPlaces w []
  handed : Handed w

section
variable {w : KdfWorld} {call : Nat} {missing : List Nat}

/-- A call that gets its place is the newest one with a place. -/
theorem granted_settle_granted (w : KdfWorld) (call : Nat) :
    (w.settle call .granted).granted = w.granted ++ [call] := by
  simp [KdfWorld.granted, KdfWorld.settle]

/-- A call that is refused gets none. -/
theorem granted_settle_busy (w : KdfWorld) (call : Nat) :
    (w.settle call .busy).granted = w.granted := by
  simp [KdfWorld.granted, KdfWorld.settle]

/-- The calls are different calls. -/
theorem KdfPlaces.nodup (h : KdfPlaces w missing) :
    (w.settlements.map (·.1) ++ (missing ++ w.kdf.passwordKdfQueue)).Nodup :=
  h.places.nodup_iff.mpr List.nodup_range

/-- A call has been granted a place exactly when its settlement in the ledger is a grant. -/
theorem mem_granted (w : KdfWorld) (call : Nat) :
    call ∈ w.granted ↔ (call, KdfSettlement.granted) ∈ w.settlements := by
  unfold KdfWorld.granted
  constructor
  · intro h
    obtain ⟨⟨c, s⟩, hmem, rfl⟩ := List.mem_map.mp h
    obtain ⟨hmem, hs⟩ := List.mem_filter.mp hmem
    have hgranted : s = .granted := of_decide_eq_true hs
    exact hgranted ▸ hmem
  · intro h
    exact List.mem_map.mpr ⟨_, List.mem_filter.mpr ⟨h, decide_eq_true rfl⟩, rfl⟩

/-- Every call so far came before the next one. -/
theorem KdfPlaces.lt_nextCall (h : KdfPlaces w []) {c : Nat}
    (hc : c ∈ w.granted ++ w.kdf.passwordKdfQueue) : c < w.nextCall := by
  have hplace : c ∈ w.settlements.map Prod.fst ++ ([] ++ w.kdf.passwordKdfQueue) := by
    rcases List.mem_append.mp hc with hgranted | hqueued
    · have hsettled := (mem_granted w c).mp hgranted
      exact List.mem_append_left _ (List.mem_map_of_mem hsettled)
    · exact List.mem_append_right _ hqueued
  exact List.mem_range.mp (h.places.mem_iff.mp hplace)

/-- The next call is behind all the others. -/
theorem KdfPlaces.ordered_concat (h : KdfPlaces w []) :
    (w.granted ++ (w.kdf.passwordKdfQueue ++ [w.nextCall])).Pairwise (· < ·) := by
  rw [← List.append_assoc, List.pairwise_append]
  refine ⟨h.ordered, List.pairwise_singleton _ _, fun c hc next hnext => ?_⟩
  rw [List.mem_singleton.mp hnext]
  exact h.lt_nextCall hc

/-- With the next call every number below its successor has a place. -/
theorem KdfPlaces.places_concat (h : KdfPlaces w []) :
    (w.settlements.map (·.1) ++ (w.kdf.passwordKdfQueue ++ [w.nextCall])).Perm
      (List.range (w.nextCall + 1)) := by
  rw [List.range_succ, ← List.append_assoc]
  exact List.Perm.append_right _ h.places

/-- The missing call gets a slot: its number is then among the granted ones, and no call is
missing. -/
theorem KdfPlaces.grant (h : KdfPlaces w [call])
    (hslot : w.kdf.activePasswordKdf < maxConcurrentPasswordKdf) : KdfPlaces (w.grant call) [] := by
  refine ⟨?_, ?_, ?_, ?_, ?_, h.queue, h.armed⟩
  · show ((w.settlements ++ [(call, KdfSettlement.granted)]).map Prod.fst ++
      w.kdf.passwordKdfQueue).Perm (List.range w.nextCall)
    simpa using h.places
  · have hgranted : (w.grant call).granted = w.granted ++ [call] := granted_settle_granted _ call
    rw [hgranted]
    show (w.granted ++ [call] ++ ([] ++ w.kdf.passwordKdfQueue)).Pairwise (· < ·)
    simpa using h.ordered
  · have hgranted : (w.grant call).granted = w.granted ++ [call] := granted_settle_granted _ call
    rw [hgranted]
    show (w.ended ++ (w.holding ++ [call])).Perm _
    rw [← List.append_assoc]
    exact h.holders.append_right _
  · show w.kdf.activePasswordKdf + 1 = ((w.holding ++ [call]).length : Int)
    rw [h.active, List.length_append]
    rfl
  · show w.kdf.activePasswordKdf + 1 ≤ maxConcurrentPasswordKdf
    omega

/-! ### Every event -/

/-- A new call that finds a free slot has it at once. -/
theorem KdfPlaces.draw (h : KdfPlaces w []) (hqueue : w.kdf.passwordKdfQueue = []) :
    KdfPlaces { w with nextCall := w.nextCall + 1 } [w.nextCall] := by
  have hplaces := h.places_concat
  have hordered := h.ordered_concat
  rw [hqueue, List.nil_append] at hplaces hordered
  refine ⟨?_, ?_, h.holders, h.active, h.bound, h.queue, h.armed⟩
  · show (w.settlements.map (·.1) ++ ([w.nextCall] ++ w.kdf.passwordKdfQueue)).Perm _
    rw [hqueue, List.append_nil]
    exact hplaces
  · show (w.granted ++ ([w.nextCall] ++ w.kdf.passwordKdfQueue)).Pairwise (· < ·)
    rw [hqueue, List.append_nil]
    exact hordered

/-- An arriving call takes a free place, waits in the queue, or is refused. -/
theorem KdfInvariant.derive (h : KdfInvariant w) : KdfInvariant w.derivePasswordKey := by
  unfold KdfWorld.derivePasswordKey KdfWorld.acquirePasswordKdfSlot
  by_cases hslot : w.kdf.activePasswordKdf < maxConcurrentPasswordKdf
  · -- A free slot: nobody waits, so the call is behind all that were granted one.
    rw [if_pos hslot]
    have hqueue := h.handed hslot
    exact ⟨(h.places.draw hqueue).grant hslot, fun _ => hqueue⟩
  · rw [if_neg hslot]
    by_cases hfull : w.kdf.passwordKdfQueue.length ≥ maxQueuedPasswordKdf
    · rw [if_pos hfull]
      refine ⟨⟨?_, ?_, ?_, h.places.active, h.places.bound, h.places.queue, h.places.armed⟩,
        h.handed⟩
      · show ((w.settlements ++ [(w.nextCall, KdfSettlement.busy)]).map (·.1) ++
          w.kdf.passwordKdfQueue).Perm (List.range (w.nextCall + 1))
        rw [List.map_append, List.append_assoc]
        exact (List.Perm.append_left _ List.perm_append_comm).trans h.places.places_concat
      · rw [granted_settle_busy]
        exact h.places.ordered
      · rw [granted_settle_busy]
        exact h.places.holders
    · rw [if_neg hfull]
      refine ⟨⟨h.places.places_concat, h.places.ordered_concat, h.places.holders, h.places.active,
        h.places.bound, ?_, ?_⟩, fun hslot' => absurd hslot' hslot⟩
      · show (w.kdf.passwordKdfQueue ++ [w.nextCall]).length ≤ maxQueuedPasswordKdf
        rw [List.length_append, List.length_singleton]
        omega
      · show w.timeouts ++ [w.nextCall] = w.kdf.passwordKdfQueue ++ [w.nextCall]
        rw [h.places.armed]

/-- The end of a derivation when nobody waits. -/
theorem finish_of_nil (hqueue : w.kdf.passwordKdfQueue = []) :
    w.finish call = { w with
      kdf := { activePasswordKdf := w.kdf.activePasswordKdf - 1, passwordKdfQueue := [] }
      holding := w.holding.erase call
      ended := w.ended ++ [call] } := by
  unfold KdfWorld.finish KdfWorld.releasePasswordKdfSlot
  simp only [hqueue]

/-- The end of a derivation when a call waits: the slot is handed over. -/
theorem finish_of_cons {waiter : Nat} {rest : List Nat}
    (hqueue : w.kdf.passwordKdfQueue = waiter :: rest) :
    w.finish call = KdfWorld.grant { w with
      kdf := { activePasswordKdf := w.kdf.activePasswordKdf - 1, passwordKdfQueue := rest }
      holding := w.holding.erase call
      ended := w.ended ++ [call]
      timeouts := w.timeouts.erase waiter } waiter := by
  unfold KdfWorld.finish KdfWorld.releasePasswordKdfSlot
  simp only [hqueue]

/-- A derivation that ends hands its place to the first of the queue, or gives it back. -/
theorem KdfInvariant.finish (h : KdfInvariant w) (hcall : call ∈ w.holding) :
    KdfInvariant (w.finish call) := by
  have hpos : 0 < w.holding.length := List.length_pos_of_mem hcall
  have hlength : (w.holding.erase call).length = w.holding.length - 1 :=
    List.length_erase_of_mem hcall
  have hactive := h.places.active
  have hbound := h.places.bound
  have hholders : (w.ended ++ [call] ++ w.holding.erase call).Perm w.granted := by
    rw [List.append_assoc]
    exact (List.Perm.append_left _ (List.perm_cons_erase hcall).symm).trans h.places.holders
  have hcount : w.kdf.activePasswordKdf - 1 = ((w.holding.erase call).length : Int) := by omega
  cases hqueue : w.kdf.passwordKdfQueue with
  -- Nobody waits: the slot is free. Otherwise the first waiter gets it.
  | nil =>
      rw [finish_of_nil hqueue]
      have hplaces := h.places.places
      have hordered := h.places.ordered
      have harmed := h.places.armed
      rw [hqueue] at hplaces hordered harmed
      refine ⟨⟨hplaces, hordered, hholders, hcount, ?_, Nat.zero_le _, harmed⟩, fun _ => rfl⟩
      show w.kdf.activePasswordKdf - 1 ≤ maxConcurrentPasswordKdf
      omega
  | cons waiter rest =>
      rw [finish_of_cons hqueue]
      have hlast := h.places.queue
      rw [hqueue, List.length_cons] at hlast
      have hplaces := h.places.places
      have hordered := h.places.ordered
      have harmed := h.places.armed
      rw [hqueue] at hplaces hordered harmed
      refine ⟨KdfPlaces.grant ⟨hplaces, hordered, hholders, hcount, ?_, ?_, ?_⟩ ?_, ?_⟩
      · show w.kdf.activePasswordKdf - 1 ≤ maxConcurrentPasswordKdf
        omega
      · show rest.length ≤ maxQueuedPasswordKdf
        omega
      · show w.timeouts.erase waiter = rest
        rw [harmed, List.erase_cons_head]
      · show w.kdf.activePasswordKdf - 1 < maxConcurrentPasswordKdf
        omega
      · -- Somebody waited, so all slots were taken, and they are again.
        intro hslot
        have hfull : ¬ w.kdf.activePasswordKdf < maxConcurrentPasswordKdf := by
          intro hfree
          rw [h.handed hfree] at hqueue
          cases hqueue
        have hslot' : w.kdf.activePasswordKdf - 1 + 1 < maxConcurrentPasswordKdf := hslot
        omega

/-- A call that has waited too long leaves the queue and is refused. -/
theorem KdfInvariant.timeout (h : KdfInvariant w) (hcall : call ∈ w.timeouts) :
    KdfInvariant (w.timeout call) := by
  rw [h.places.armed] at hcall
  have hsub : (w.kdf.passwordKdfQueue.erase call).Sublist w.kdf.passwordKdfQueue :=
    List.erase_sublist
  refine ⟨⟨?_, ?_, ?_, h.places.active, h.places.bound, ?_, ?_⟩, fun hslot => ?_⟩
  · show ((w.settlements ++ [(call, KdfSettlement.busy)]).map (·.1) ++
      w.kdf.passwordKdfQueue.erase call).Perm (List.range w.nextCall)
    rw [List.map_append, List.append_assoc]
    exact (List.Perm.append_left _ (List.perm_cons_erase hcall).symm).trans h.places.places
  · unfold KdfWorld.timeout
    rw [granted_settle_busy]
    exact h.places.ordered.sublist (hsub.append_left _)
  · unfold KdfWorld.timeout
    rw [granted_settle_busy]
    exact h.places.holders
  · exact Nat.le_trans hsub.length_le h.places.queue
  · show w.timeouts.erase call = w.kdf.passwordKdfQueue.erase call
    rw [h.places.armed]
  · have hnone := h.handed hslot
    rw [hnone] at hcall
    cases hcall

/-- Nobody holds a place at the start, and nobody waits. -/
theorem kdfInvariant_empty : KdfInvariant {} where
  places := ⟨.refl _, .nil, .refl _, rfl, by decide, Nat.zero_le _, rfl⟩
  handed := fun _ => rfl

end

/-- What an event of the KDF queue may do: a derivation asks for a place, one that holds a place
ends, or the timeout of a waiting one fires. -/
theorem kdf_step_cases {w w' : KdfWorld} {e : KdfEvent} (h : kdfMachine.step w e = some w') :
    (e = .derive ∧ w' = w.derivePasswordKey) ∨
    (∃ call, e = .finish call ∧ call ∈ w.holding ∧ w' = w.finish call) ∨
    (∃ call, e = .timeout call ∧ call ∈ w.timeouts ∧ w' = w.timeout call) := by
  cases e with
  | derive =>
      cases h
      exact .inl ⟨rfl, rfl⟩
  | finish call =>
      obtain ⟨hcall, h⟩ := Option.ite_none_right_eq_some.mp h
      exact .inr (.inl ⟨call, rfl, hcall, (Option.some_inj.mp h).symm⟩)
  | timeout call =>
      obtain ⟨hcall, h⟩ := Option.ite_none_right_eq_some.mp h
      exact .inr (.inr ⟨call, rfl, hcall, (Option.some_inj.mp h).symm⟩)

/-- The step of the invariant, for each kind of event. -/
theorem kdfInvariant_step {w w' : KdfWorld} {e : KdfEvent} (h : KdfInvariant w)
    (hstep : kdfMachine.step w e = some w') : KdfInvariant w' := by
  rcases kdf_step_cases hstep with ⟨-, rfl⟩ | ⟨call, -, hcall, rfl⟩ | ⟨call, -, hcall, rfl⟩
  · exact h.derive
  · exact h.finish hcall
  · exact h.timeout hcall

/-- Every run from a state that satisfies the invariant. -/
theorem kdfInvariant_run {es : List KdfEvent} {w w' : KdfWorld} (h : KdfInvariant w)
    (hrun : kdfMachine.run w es = some w') : KdfInvariant w' :=
  Machine.invariant (fun _ _ _ h hstep => kdfInvariant_step h hstep) es w w' h hrun

/-! ### The log -/

/-- What is settled stays settled. A step adds at most one settlement. -/
theorem settlements_prefix_step {w w' : KdfWorld} {e : KdfEvent}
    (hstep : kdfMachine.step w e = some w') : w.settlements <+: w'.settlements := by
  rcases kdf_step_cases hstep with ⟨-, rfl⟩ | ⟨call, -, -, rfl⟩ | ⟨call, -, -, rfl⟩
  · unfold KdfWorld.derivePasswordKey KdfWorld.acquirePasswordKdfSlot
    split
    · exact List.prefix_append _ _
    · split
      · exact List.prefix_append _ _
      · exact List.prefix_refl _
  · cases hqueue : w.kdf.passwordKdfQueue with
    | nil =>
        simp only [finish_of_nil hqueue]
        exact List.prefix_refl _
    | cons waiter rest =>
        rw [finish_of_cons hqueue]
        exact List.prefix_append _ _
  · exact List.prefix_append _ _

/-- What is settled stays settled. -/
theorem settlements_prefix_run {es : List KdfEvent} {w w' : KdfWorld}
    (hrun : kdfMachine.run w es = some w') : w.settlements <+: w'.settlements :=
  Machine.invariant (I := fun later => w.settlements <+: later.settlements)
    (fun _ _ _ h hstep => h.trans (settlements_prefix_step hstep)) es w w' (List.prefix_refl _) hrun

/-! ### The result -/

/-- What the module promises in a state: the counter is the number of derivations that run and
keeps its bounds, the queue keeps its bound and is empty while a place is free, and each call is
settled exactly once unless it still waits. -/
structure KdfAdmission (w : KdfWorld) : Prop where
  active : w.kdf.activePasswordKdf = w.holding.length
  bounds : 0 ≤ w.kdf.activePasswordKdf ∧ w.kdf.activePasswordKdf ≤ maxConcurrentPasswordKdf
  queue : w.kdf.passwordKdfQueue.length ≤ maxQueuedPasswordKdf
  handed : w.kdf.activePasswordKdf < maxConcurrentPasswordKdf → w.kdf.passwordKdfQueue = []
  holding : ∀ call, call ∈ w.holding ↔
    (call, KdfSettlement.granted) ∈ w.settlements ∧ call ∉ w.ended
  settled : ∀ call < w.nextCall, (w.settlements.map (·.1)).count call
    = if call ∈ w.kdf.passwordKdfQueue then 0 else 1
  armed : ∀ call, call ∈ w.kdf.passwordKdfQueue ↔ call ∈ w.timeouts
  arrival : w.granted.Pairwise (· < ·)
  ahead : ∀ call ∈ w.granted, ∀ waiter ∈ w.kdf.passwordKdfQueue, call < waiter

/-- What the invariant says of the admission: the bounds, and that each call is settled once. -/
theorem kdfAdmission_of_invariant {w : KdfWorld} (h : KdfInvariant w) : KdfAdmission w := by
  obtain ⟨hplaces, hhanded⟩ := h
  have hordered := List.pairwise_append.mp hplaces.ordered
  have hgranted : w.granted.Nodup := hordered.1.imp fun hlt => Nat.ne_of_lt hlt
  have hholders : (w.ended ++ w.holding).Nodup := hplaces.holders.nodup_iff.mpr hgranted
  refine ⟨hplaces.active, ⟨?_, hplaces.bound⟩, hplaces.queue, hhanded, fun call => ?_,
    fun call hcall => ?_, fun call => by rw [hplaces.armed], hordered.1, hordered.2.2⟩
  · rw [hplaces.active]
    exact Int.natCast_nonneg _
  · rw [← mem_granted, ← hplaces.holders.mem_iff, List.mem_append]
    constructor
    · intro hholding
      exact ⟨.inr hholding, fun hended => (List.nodup_append.mp hholders).2.2 call hended call
        hholding rfl⟩
    · rintro ⟨hended | hholding, hnot⟩
      · exact absurd hended hnot
      · exact hholding
  · -- Each call has one place: the settlements, or the queue.
    have hcount := hplaces.places.count_eq call
    have hqueued : w.kdf.passwordKdfQueue.Nodup := (List.nodup_append.mp hplaces.nodup).2.1
    rw [List.count_append, List.nil_append,
      List.count_eq_one_of_mem List.nodup_range (List.mem_range.mpr hcall)] at hcount
    by_cases hmem : call ∈ w.kdf.passwordKdfQueue
    · rw [if_pos hmem]
      have hone := List.count_eq_one_of_mem hqueued hmem
      omega
    · rw [if_neg hmem]
      have hzero := List.count_eq_zero_of_not_mem hmem
      omega

/-- A call that was rejected is not granted a slot. -/
theorem not_granted_of_busy {w : KdfWorld} (h : KdfInvariant w) {call : Nat}
    (hbusy : (call, KdfSettlement.busy) ∈ w.settlements) :
    (call, KdfSettlement.granted) ∉ w.settlements := by
  intro hgranted
  have hnodup : (w.settlements.map (·.1)).Nodup := (List.nodup_append.mp h.places.nodup).1
  have heq := List.inj_on_of_nodup_map hnodup hbusy hgranted rfl
  cases heq

/-- After every run the counter counts the derivations that hold a slot, nobody waits for a free
slot, and every call is settled once or waits with an armed timeout. Slots are granted in the order
of arrival. A call that was rejected before a part of the run holds no slot after it. -/
theorem password_kdf_admission (es later : List KdfEvent) (w w' : KdfWorld)
    (h : kdfMachine.run {} es = some w) (h' : kdfMachine.run w later = some w') :
    KdfAdmission w ∧ KdfAdmission w' ∧
      ∀ call, (call, KdfSettlement.busy) ∈ w.settlements →
        (call, KdfSettlement.granted) ∉ w'.settlements ∧ call ∉ w'.holding := by
  have hinv := kdfInvariant_run kdfInvariant_empty h
  have hinv' := kdfInvariant_run hinv h'
  have hadmission := kdfAdmission_of_invariant hinv'
  refine ⟨kdfAdmission_of_invariant hinv, hadmission, fun call hbusy => ?_⟩
  have hnot := not_granted_of_busy hinv' ((settlements_prefix_run h').subset hbusy)
  exact ⟨hnot, fun hholding => hnot ((hadmission.holding call).mp hholding).1⟩

/-- Twenty-one calls, and one of the waiters times out. -/
def saturatedCalls : List KdfEvent := List.replicate 21 .derive ++ [.timeout 5]

/-- Four calls have a slot, the last one was rejected at once, and two derivations that end hand
their slots over. -/
theorem password_kdf_admission_saturated :
    ∃ w w', kdfMachine.run {} saturatedCalls = some w ∧
      kdfMachine.run w [.finish 2, .finish 0] = some w' ∧ w'.holding = [1, 3, 4, 6] ∧
      ∀ call ∈ [5, 20], (call, KdfSettlement.granted) ∉ w'.settlements ∧ call ∉ w'.holding := by
  have hcheck : ((kdfMachine.run {} saturatedCalls).any fun w =>
      ([5, 20].all fun call => decide ((call, KdfSettlement.busy) ∈ w.settlements)) &&
        (kdfMachine.run w [.finish 2, .finish 0]).any fun w' =>
          decide (w'.holding = [1, 3, 4, 6])) = true := by
    decide +kernel
  obtain ⟨w, hrun, hw⟩ := (Option.any_eq_true _ _).mp hcheck
  obtain ⟨hbusy, hlater⟩ := Bool.and_eq_true_iff.mp hw
  obtain ⟨w', hrun', hholding⟩ := (Option.any_eq_true _ _).mp hlater
  obtain ⟨-, -, hrejected⟩ := password_kdf_admission _ _ w w' hrun hrun'
  exact ⟨w, w', hrun, hrun', of_decide_eq_true hholding, fun call hcall =>
    hrejected call (of_decide_eq_true (List.all_eq_true.mp hbusy call hcall))⟩

end Dcvp.Proofs
