import Dcvp.Lib.Machine

/-!
# `Dcvp.Lib.Lockout`: locking after repeated failures

An account counts failed attempts. At the limit it is locked for a fixed time, and while it
is locked every attempt is refused. The first attempt after the lock drops the count and the
lock, and then fails or succeeds like any other. A success clears the count.

`LockoutPolicy.machine` is this rule, for any limit and any duration, over a clock that does
not go back. `run_bounded` is the invariant of the counter. `run_spaced` is the guarantee
against guessing: without a success in between, the first and the last of `limit + 1` failures
are at least one lock duration apart.

The second proof is an induction on the attempts. `recentFailures` lists the failures since
the last success. The invariant `Recent` divides them into two parts. The newest ones are
counted by the current count. All others are at least one duration in the past, or, while
the account is locked, one duration before the end of the lock.
-/

set_option autoImplicit false

namespace Dcvp.Lib

/-- The number of failures that lock an account, and for how long. -/
structure LockoutPolicy where
  limit : Nat
  duration : Int
  limit_pos : 0 < limit
  duration_nonneg : 0 ≤ duration

/-- The count of an account, and the end of its lock. -/
structure Lockout where
  failures : Nat := 0
  lockedUntil : Option Int := none
  deriving DecidableEq

/-- What becomes of an attempt: refused while the account is locked, failed for a wrong secret, or
succeeded. -/
inductive Verdict where
  | refused
  | failed
  | succeeded
  deriving DecidableEq

namespace Lockout

/-- The account is locked at `now`. -/
def LockedAt (s : Lockout) (now : Int) : Prop := ∃ t ∈ s.lockedUntil, now < t

instance (s : Lockout) (now : Int) : Decidable (s.LockedAt now) := by
  unfold LockedAt
  infer_instance

/-- The count that an attempt starts from. A lock that has run out takes the count along. -/
def counted (s : Lockout) : Nat := if s.lockedUntil.isSome then 0 else s.failures

end Lockout

namespace LockoutPolicy

variable (P : LockoutPolicy)

/-- The account after a failure. -/
def afterFailure (s : Lockout) (now : Int) : Lockout where
  failures := s.counted + 1
  lockedUntil := if P.limit ≤ s.counted + 1 then some (now + P.duration) else none

/-- The account after an attempt at `now`, if the attempt can have that verdict. -/
def attempt (s : Lockout) (now : Int) : Verdict → Option Lockout
  | .refused => if s.LockedAt now then some s else none
  | .failed => if s.LockedAt now then none else some (P.afterFailure s now)
  | .succeeded => if s.LockedAt now then none else some {}

/-- The machine of attempts at nondecreasing times. Its state is the account and the time of
the latest attempt. -/
def machine : Machine (Lockout × Int) (Int × Verdict) where
  step s e := if s.2 ≤ e.1 then (P.attempt s.1 e.1 e.2).map fun s' => (s', e.1) else none

variable {P}

/-- What an attempt can be, at a clock that does not run back: it is refused in a lock, it fails
outside of one, or it succeeds outside of one and forgets all failures. -/
theorem step_cases {s s' : Lockout × Int} {e : Int × Verdict}
    (h : P.machine.step s e = some s') :
    s.2 ≤ e.1 ∧
      ((e.2 = .refused ∧ s.1.LockedAt e.1 ∧ s' = (s.1, e.1)) ∨
      (e.2 = .failed ∧ ¬ s.1.LockedAt e.1 ∧ s' = (P.afterFailure s.1 e.1, e.1)) ∨
      (e.2 = .succeeded ∧ ¬ s.1.LockedAt e.1 ∧ s' = ({}, e.1))) := by
  obtain ⟨now, v⟩ := e
  simp only [machine, Option.ite_none_right_eq_some, Option.map_eq_some_iff] at h
  obtain ⟨hle, s₁, hs₁, rfl⟩ := h
  refine ⟨hle, ?_⟩
  cases v with
  | refused =>
      simp only [attempt, Option.ite_none_right_eq_some, Option.some.injEq] at hs₁
      obtain ⟨hlock, rfl⟩ := hs₁
      exact Or.inl ⟨rfl, hlock, rfl⟩
  | failed =>
      simp only [attempt, Option.ite_none_left_eq_some, Option.some.injEq] at hs₁
      obtain ⟨hopen, rfl⟩ := hs₁
      exact Or.inr (Or.inl ⟨rfl, hopen, rfl⟩)
  | succeeded =>
      simp only [attempt, Option.ite_none_left_eq_some, Option.some.injEq] at hs₁
      obtain ⟨hopen, rfl⟩ := hs₁
      exact Or.inr (Or.inr ⟨rfl, hopen, rfl⟩)

/-- The count stays within the limit, and reaches it exactly while a lock is set. -/
def Bounded (P : LockoutPolicy) (s : Lockout) : Prop :=
  s.failures ≤ P.limit ∧ (s.failures = P.limit ↔ s.lockedUntil.isSome)

/-- An account that nobody has tried yet has no failures and no lock. -/
theorem bounded_initial (P : LockoutPolicy) : P.Bounded {} := by
  have := P.limit_pos
  exact ⟨Nat.zero_le _, by simp; omega⟩

/-- The count that an attempt starts from is below the limit. -/
theorem counted_lt {s : Lockout} (h : P.Bounded s) : s.counted < P.limit := by
  have hpos := P.limit_pos
  unfold Lockout.counted
  by_cases hlock : s.lockedUntil.isSome = true
  · rw [if_pos hlock]
    exact hpos
  · rw [if_neg hlock]
    have hne : s.failures ≠ P.limit := fun heq => hlock (h.2.mp heq)
    have hle := h.1
    omega

/-- A failure counts from below the limit, so it stays within it. The one that reaches the limit
sets the lock, and no other does. -/
theorem bounded_afterFailure {s : Lockout} (h : P.Bounded s) (now : Int) :
    P.Bounded (P.afterFailure s now) := by
  have hlt := counted_lt h
  refine ⟨hlt, ?_⟩
  show s.counted + 1 = P.limit ↔ _
  by_cases hlimit : P.limit ≤ s.counted + 1
  · simp only [afterFailure, if_pos hlimit, Option.isSome_some, iff_true]
    omega
  · simp only [afterFailure, if_neg hlimit, Option.isSome_none, Bool.false_eq_true, iff_false]
    omega

/-- The counter of an account that started without failures. -/
theorem run_bounded (t₀ : Int) (es : List (Int × Verdict)) (s : Lockout × Int)
    (h : P.machine.run ({}, t₀) es = some s) : P.Bounded s.1 := by
  refine Machine.invariant (M := P.machine) (I := fun s => P.Bounded s.1) ?_ es ({}, t₀) s
    (bounded_initial P) h
  intro s e s' hs hstep
  rcases (step_cases hstep).2 with ⟨-, -, rfl⟩ | ⟨-, -, rfl⟩ | ⟨-, -, rfl⟩
  · exact hs
  · exact bounded_afterFailure hs e.1
  · exact bounded_initial P

/-! ### Failures since the last success -/

/-- One more attempt in the list of recent failures. -/
def recentStep (recent : List Int) (e : Int × Verdict) : List Int :=
  match e.2 with
  | .refused => recent
  | .failed => recent ++ [e.1]
  | .succeeded => []

/-- The times of the failures since the last success, oldest first. -/
def recentFailures (es : List (Int × Verdict)) : List Int := es.foldl recentStep []

/-- The time of a failure. -/
def failureTime? (e : Int × Verdict) : Option Int := if e.2 = .failed then some e.1 else none

/-- Without a success, the failures add to the recent ones, in their order. By induction on the
later attempts, from the end. -/
theorem recentFailures_append (pre : List (Int × Verdict)) :
    ∀ (seg : List (Int × Verdict)), (∀ e ∈ seg, e.2 ≠ .succeeded) →
      recentFailures (pre ++ seg) = recentFailures pre ++ seg.filterMap failureTime? := by
  intro seg
  induction seg using List.reverseRecOn with
  | nil => intro _; simp
  | append_singleton seg e ih =>
      intro hno
      have hstep : recentFailures (pre ++ (seg ++ [e]))
          = recentStep (recentFailures (pre ++ seg)) e := by
        simp [recentFailures, ← List.append_assoc, List.foldl_append]
      rw [hstep, ih fun x hx => hno x (List.mem_append_left _ hx), List.filterMap_append]
      have he := hno e (List.mem_append_right _ (List.mem_singleton_self e))
      obtain ⟨t, v⟩ := e
      cases v with
      | refused => simp [recentStep, failureTime?]
      | failed => simp [recentStep, failureTime?]
      | succeeded => exact absurd rfl he

/-- Any `limit + 1` consecutive entries span at least one duration. -/
def Spaced (P : LockoutPolicy) (ts : List Int) : Prop :=
  ∀ (i : Nat) (a b : Int), ts[i]? = some a → ts[i + P.limit]? = some b → a + P.duration ≤ b

/-- The invariant of the recent failures `ts`: those beyond the current count lie one duration
back, and under a lock all of them lie one duration before its end. -/
structure Recent (P : LockoutPolicy) (ts : List Int) (s : Lockout × Int) : Prop where
  bounded : P.Bounded s.1
  past : ∀ t ∈ ts, t ≤ s.2
  open_ : s.1.lockedUntil = none →
    ∀ (i : Nat) (t : Int), ts[i]? = some t → i + s.1.failures < ts.length → t + P.duration ≤ s.2
  locked : ∀ l ∈ s.1.lockedUntil, ∀ t ∈ ts, t + P.duration ≤ l
  spaced : P.Spaced ts

/-- A failure while the account is not locked: everything beyond the count that the attempt
starts from lies one duration back. -/
theorem Recent.beyond {ts : List Int} {s : Lockout × Int} (h : P.Recent ts s) {now : Int}
    (hle : s.2 ≤ now) (hopen : ¬ s.1.LockedAt now) {i : Nat} {t : Int} (ht : ts[i]? = some t)
    (hi : i + s.1.counted < ts.length) : t + P.duration ≤ now := by
  unfold Lockout.counted at hi
  cases hlock : s.1.lockedUntil with
  | none =>
      rw [hlock] at hi
      have := h.open_ hlock i t ht (by simpa using hi)
      omega
  | some l =>
      -- The lock has run out, and all recent failures lie one duration before its end.
      have hl : l ≤ now := by
        by_contra hlt
        exact hopen ⟨l, hlock, by omega⟩
      have := h.locked l hlock t (List.mem_of_getElem? ht)
      omega

/-- The invariant after a failure outside of a lock: the new time is the last one, and where it
fills up the limit, the lock begins with it. -/
theorem Recent.failure {ts : List Int} {s : Lockout × Int} (h : P.Recent ts s) {now : Int}
    (hle : s.2 ≤ now) (hopen : ¬ s.1.LockedAt now) :
    P.Recent (ts ++ [now]) (P.afterFailure s.1 now, now) where
  bounded := bounded_afterFailure h.bounded now
  past t ht := by
    rcases List.mem_append.mp ht with hold | hnew
    · have := h.past t hold
      show t ≤ now
      omega
    · exact Int.le_of_eq (List.mem_singleton.mp hnew)
  open_ _ i t ht hi := by
    replace hi : i + (s.1.counted + 1) < (ts ++ [now]).length := hi
    rw [List.length_append, List.length_singleton] at hi
    rw [List.getElem?_append_left (by omega)] at ht
    exact h.beyond hle hopen ht (by omega)
  locked l hl t ht := by
    simp only [afterFailure, Option.mem_def, Option.ite_none_right_eq_some,
      Option.some.injEq] at hl
    obtain ⟨-, rfl⟩ := hl
    have htnow : t ≤ now := by
      rcases List.mem_append.mp ht with hold | hnew
      · have := h.past t hold
        omega
      · exact Int.le_of_eq (List.mem_singleton.mp hnew)
    omega
  spaced i a b ha hb := by
    have hpos := P.limit_pos
    have hlt := counted_lt h.bounded
    have hlen : i + P.limit < (ts ++ [now]).length := (List.getElem?_eq_some_iff.mp hb).1
    rw [List.length_append, List.length_singleton] at hlen
    rw [List.getElem?_append_left (by omega)] at ha
    by_cases hlast : i + P.limit = ts.length
    · -- The new pair: the older failure is beyond the count.
      rw [hlast, List.getElem?_concat_length] at hb
      cases hb
      exact h.beyond hle hopen ha (by omega)
    · rw [List.getElem?_append_left (by omega)] at hb
      exact h.spaced i a b ha hb

/-- The invariant without failures. -/
theorem Recent.initial (P : LockoutPolicy) (now : Int) : P.Recent [] ({}, now) where
  bounded := bounded_initial P
  past t ht := by cases ht
  open_ _ i t ht := by cases ht
  locked l hl := by cases hl
  spaced i a b ha := by cases ha

/-- The invariant holds throughout every run: the state of the lockout remembers what it needs of
the failures since the last success. -/
theorem run_recent (t₀ : Int) (es : List (Int × Verdict)) (s : Lockout × Int)
    (h : P.machine.run ({}, t₀) es = some s) : P.Recent (recentFailures es) s := by
  refine Machine.history_invariant (M := P.machine)
    (P := fun es s => P.Recent (recentFailures es) s) ?_ ?_ es s h
  · exact Recent.initial P t₀
  · intro es s e s' hs hstep
    have hrecent : recentFailures (es ++ [e]) = recentStep (recentFailures es) e := by
      simp [recentFailures, List.foldl_append]
    rw [hrecent, recentStep]
    obtain ⟨hle, hcases⟩ := step_cases hstep
    rcases hcases with ⟨hv, hlock, rfl⟩ | ⟨hv, hopen, rfl⟩ | ⟨hv, hopen, rfl⟩
    · rw [hv]
      refine ⟨hs.bounded, fun t ht => ?_, fun hnone => ?_, hs.locked, hs.spaced⟩
      · have := hs.past t ht
        show t ≤ e.1
        omega
      · obtain ⟨l, hl, -⟩ := hlock
        replace hnone : s.1.lockedUntil = none := hnone
        rw [hnone] at hl
        cases hl
    · rw [hv]
      exact hs.failure hle hopen
    · rw [hv]
      exact Recent.initial P e.1

/-- Guessing is slow: in a stretch of attempts without a success, any `limit + 1` failures in
a row span at least one lock duration. -/
theorem run_spaced (t₀ : Int) (pre seg post : List (Int × Verdict)) (s : Lockout × Int)
    (h : P.machine.run ({}, t₀) (pre ++ seg ++ post) = some s)
    (hno : ∀ e ∈ seg, e.2 ≠ .succeeded) : P.Spaced (seg.filterMap failureTime?) := by
  obtain ⟨s', hs', -⟩ := (Machine.run_append_eq_some _ _ _ _).mp h
  have hspaced := (run_recent t₀ (pre ++ seg) s' hs').spaced
  rw [recentFailures_append pre seg hno] at hspaced
  intro i a b ha hb
  set k := (recentFailures pre).length with hk
  refine hspaced (k + i) a b ?_ ?_
  · rw [List.getElem?_append_right (by omega)]
    simpa [hk] using ha
  · rw [List.getElem?_append_right (by omega)]
    have hidx : k + i + P.limit - k = i + P.limit := by omega
    rw [← hk, hidx]
    exact hb

end LockoutPolicy

end Dcvp.Lib
