import Mathlib.Data.List.Pairwise
import Mathlib.Data.Option.Basic
import Mathlib.Tactic.Common

/-!
# `Dcvp.Lib.FixedWindow`: counters over fixed windows

A `WindowCounter` counts hits until its window ends. The first hit afterwards opens a new
window. `windowStart` is the abstract side. It looks at the times of the hits only, and
`resetAt_afterHits` says that the counter's window is the one that the times open.

`length_admitted_of_opens` is the bound: of the hits from an opening one on, at most `limit`
are admitted before the window ends. It needs times that do not run backwards, because a hit
behind the window's end opens the next one.
-/

set_option autoImplicit false

namespace Dcvp.Lib

/-- A number of hits, and the end of the window they are counted in. -/
structure WindowCounter where
  count : Nat
  resetAt : Int
  deriving DecidableEq, Repr

namespace WindowCounter

variable {length : Int}

/-- The counter that a hit at `now` adds to: the stored one until its window ends. -/
def current (length now : Int) : Option WindowCounter → WindowCounter
  | none => { count := 0, resetAt := now + length }
  | some counter =>
      if counter.resetAt ≤ now then { count := 0, resetAt := now + length } else counter

/-- The counter after a hit. -/
def hit (length now : Int) (stored : Option WindowCounter) : WindowCounter :=
  { current length now stored with count := (current length now stored).count + 1 }

/-- The stored counter after hits at these times. -/
def afterHits (length : Int) : Option WindowCounter → List Int → Option WindowCounter
  | stored, [] => stored
  | stored, now :: times => afterHits length (some (hit length now stored)) times

/-- The times of the hits that stay within the limit. -/
def admitted (length : Int) (limit : Nat) : Option WindowCounter → List Int → List Int
  | _, [] => []
  | stored, now :: times =>
      if (hit length now stored).count ≤ limit then
        now :: admitted length limit (some (hit length now stored)) times
      else admitted length limit (some (hit length now stored)) times

/-! ### Windows of times -/

/-- A hit at `now` opens a window when the last window, from `start` on, is over. -/
def opens (length : Int) (start : Option Int) (now : Int) : Bool :=
  start.all fun s => decide (s + length ≤ now)

/-- The start of the last window that these times open. -/
def windowStart (length : Int) : Option Int → List Int → Option Int
  | start, [] => start
  | start, now :: times =>
      windowStart length (if opens length start now then some now else start) times

/-- The counter's window is the one that starts at `start`. -/
def Tracks (length : Int) (stored : Option WindowCounter) (start : Option Int) : Prop :=
  stored.map resetAt = start.map (· + length)

/-- The request that opens a window finds a counter at zero, with the full length ahead of it.
There is no counter yet, or the one that is stored has run out. -/
theorem current_of_opens {stored : Option WindowCounter} {start : Option Int} {now : Int}
    (h : Tracks length stored start) (hopens : opens length start now = true) :
    current length now stored = { count := 0, resetAt := now + length } := by
  cases stored with
  | none => rfl
  | some counter =>
      obtain ⟨s, rfl, hs⟩ := Option.map_eq_some_iff.mp (h.symm.trans rfl)
      have hover : s + length ≤ now := of_decide_eq_true hopens
      exact if_pos (hs ▸ hover)

/-- Within a window the stored counter is the current one. There is one, since the window has been
opened. -/
theorem current_of_not_opens {stored : Option WindowCounter} {start : Option Int} {now : Int}
    (h : Tracks length stored start) (hopens : opens length start now = false) :
    ∃ counter, stored = some counter ∧ current length now stored = counter := by
  cases start with
  | none => cases hopens
  | some s =>
      obtain ⟨counter, rfl, hs⟩ := Option.map_eq_some_iff.mp h
      have hrunning : ¬ s + length ≤ now := of_decide_eq_false hopens
      exact ⟨counter, rfl, if_neg (hs ▸ hrunning)⟩

/-- One more request keeps the stored counter in step with the window: the request opens a new one,
or it is counted in the one that is open. -/
theorem tracks_hit {stored : Option WindowCounter} {start : Option Int} (now : Int)
    (h : Tracks length stored start) :
    Tracks length (some (hit length now stored))
      (if opens length start now then some now else start) := by
  cases hopens : opens length start now with
  | true =>
      show some (current length now stored).resetAt = some (now + length)
      rw [current_of_opens h hopens]
  | false =>
      obtain ⟨counter, hstored, hcurrent⟩ := current_of_not_opens h hopens
      show some (current length now stored).resetAt = start.map (· + length)
      rw [hcurrent, ← h, hstored]
      rfl

/-- The counter's window is the last one that the times of its hits open. -/
theorem tracks_afterHits (times : List Int) {stored : Option WindowCounter}
    {start : Option Int} (h : Tracks length stored start) :
    Tracks length (afterHits length stored times) (windowStart length start times) := by
  induction times generalizing stored start with
  | nil => exact h
  | cons now times ih => exact ih (tracks_hit now h)

/-! ### The bounds -/

/-- A hit leaves a window that ends later than the hit itself, whether it opened the window or was
counted in one that was open. -/
theorem now_lt_resetAt_hit (hlength : 0 < length) (now : Int) (stored : Option WindowCounter) :
    now < (hit length now stored).resetAt := by
  show now < (current length now stored).resetAt
  cases stored with
  | none =>
      show now < now + length
      omega
  | some counter =>
      simp only [current]
      split
      · show now < now + length
        omega
      · omega

/-- A window ends no later than `length` behind the last hit. -/
theorem resetAt_hit_le {now : Int} {stored : Option WindowCounter}
    (h : ∀ counter, stored = some counter → counter.resetAt ≤ now + length) :
    (hit length now stored).resetAt ≤ now + length := by
  show (current length now stored).resetAt ≤ now + length
  cases stored with
  | none => exact Int.le_refl _
  | some counter =>
      simp only [current]
      split
      · exact Int.le_refl _
      · exact h counter rfl

/-- A request that is admitted is one of the requests. By induction on the times, from the first
request to the last. -/
theorem admitted_subset (limit : Nat) (stored : Option WindowCounter) (times : List Int) :
    ∀ t ∈ admitted length limit stored times, t ∈ times := by
  induction times generalizing stored with
  | nil => exact fun _ h => h
  | cons now times ih =>
      intro t ht
      simp only [admitted] at ht
      split at ht
      · rcases List.mem_cons.mp ht with rfl | ht
        · exact List.mem_cons_self
        · exact List.mem_cons_of_mem _ (ih _ t ht)
      · exact List.mem_cons_of_mem _ (ih _ t ht)

/-- What a counter still admits in its window: at most what the limit leaves. By induction on the
times, each of which falls into the window or ends it. -/
theorem length_admitted_le (length : Int) (limit : Nat) (times : List Int)
    (hsorted : times.Pairwise (· ≤ ·)) (counter : WindowCounter) :
    ((admitted length limit (some counter) times).filter fun t =>
      decide (t < counter.resetAt)).length ≤ limit - counter.count := by
  induction times generalizing counter with
  | nil => exact Nat.zero_le _
  | cons now times ih =>
      obtain ⟨hlater, hsorted⟩ := List.pairwise_cons.mp hsorted
      by_cases hover : counter.resetAt ≤ now
      · -- Time has passed the window, so no later hit is in it.
        have hnone : (admitted length limit (some counter) (now :: times)).filter
            (fun t => decide (t < counter.resetAt)) = [] := by
          rw [List.filter_eq_nil_iff]
          intro t ht hin
          have hin' : t < counter.resetAt := of_decide_eq_true hin
          rcases List.mem_cons.mp (admitted_subset _ _ _ t ht) with rfl | hmem
          · omega
          · have := hlater t hmem
            omega
        rw [hnone]
        exact Nat.zero_le _
      · have hhit : hit length now (some counter)
            = { counter with count := counter.count + 1 } := by
          simp [hit, current, hover]
        have hrest := ih hsorted { counter with count := counter.count + 1 }
        simp only [admitted, hhit]
        split
        · rename_i hwithin
          have hin : now < counter.resetAt := by omega
          simp only [List.filter_cons, decide_eq_true hin, if_true, List.length_cons]
          have hwithin' : counter.count + 1 ≤ limit := hwithin
          simp only at hrest
          omega
        · simp only at hrest
          omega

/-- From an opening hit on, at most `limit` hits are admitted before the window ends. -/
theorem length_admitted_of_opens (limit : Nat) {stored : Option WindowCounter} {start : Option Int}
    (h : Tracks length stored start) {now : Int} {times : List Int}
    (hsorted : (now :: times).Pairwise (· ≤ ·)) (hopens : opens length start now = true) :
    ((admitted length limit stored (now :: times)).filter fun t =>
      decide (t < now + length)).length ≤ limit := by
  have hhit : hit length now stored = { count := 1, resetAt := now + length } := by
    simp [hit, current_of_opens h hopens]
  have hrest := length_admitted_le length limit times (List.pairwise_cons.mp hsorted).2
    { count := 1, resetAt := now + length }
  simp only at hrest
  simp only [admitted, hhit]
  split
  · have hone := List.length_filter_le (fun t => decide (t < now + length)) [now]
    rw [← List.singleton_append, List.filter_append, List.length_append]
    rw [List.length_singleton] at hone
    omega
  · omega

end WindowCounter

end Dcvp.Lib
