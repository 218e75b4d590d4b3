import Dcvp.Lib.AsyncCalls

/-!
# `Dcvp.Lib.Race`: calls that race for one prize

Several asynchronous calls read a row, find that it can still be claimed, and then claim it
in one atomic operation. A `Race` describes this: the databases in which the prize is still
there (`Open`) or was taken (`Taken`), and the replies that say to a call that it has taken
the prize (`taken`). What a call in flight knows from its own reads (`Waits`, `Holds`) does
not refer to the present database, so it stays true whatever the other calls do.

`Fair` are the obligations: an operation in an open database may take the prize, and one in
a taken database leaves everything in place. `State` is what follows for the whole run:
nobody has won, or there is one winner, only the winner succeeds, and the result of the
winner is the one that goes with the prize. `run_state` is the rule.
-/

set_option autoImplicit false

namespace Dcvp.Lib

/-- A race for a prize that is taken in the form of an `α`. -/
structure Race (δ π ρ ω α : Type) where
  /-- Nobody has taken the prize. -/
  Open : δ → Prop
  /-- The prize was taken. -/
  Taken : α → δ → Prop
  /-- What is known of a suspended call whose operation is outstanding. -/
  Waits : π → Prop
  /-- What is known of a suspended call whose operation is answered. -/
  Holds : ρ → Prop
  /-- The prize that the reply reports to its call. -/
  taken : ρ → Option α
  /-- The result is a success. -/
  Succeeds : ω → Prop
  /-- The result of a call that has taken the prize. -/
  Returned : α → ω → Prop

namespace Race

variable {σ δ κ π ρ ω ι α : Type} (R : Race δ π ρ ω α)

/-- The obligations of a race under a guard. -/
structure Fair (P : AsyncProgram σ δ κ π ρ ω ι) (g : Guard δ κ π ι) : Prop where
  start : ∀ call input m m' o, g.calls call → P.start call input m = some (m', o) →
    (∀ pc, o = .suspended pc → R.Waits pc) ∧
      ∀ result, o = .finished result → ¬ R.Succeeds result
  openMoves : ∀ pc input d d' reply, R.Open d → R.Waits pc → g.operations pc input d →
    P.execute pc input d = some (d', reply) →
    R.Holds reply ∧ (R.taken reply = none → R.Open d') ∧
      ∀ a, R.taken reply = some a → R.Taken a d'
  takenMoves : ∀ a pc input d d' reply, R.Taken a d → R.Waits pc → g.operations pc input d →
    P.execute pc input d = some (d', reply) →
    R.Holds reply ∧ R.taken reply = none ∧ R.Taken a d'
  resume : ∀ reply input m m' o, R.Holds reply → P.resume reply input m = some (m', o) →
    (∀ pc, o = .suspended pc → R.Waits pc ∧ R.taken reply = none) ∧
      ∀ result, o = .finished result → (R.taken reply = none → ¬ R.Succeeds result) ∧
        ∀ a, R.taken reply = some a → R.Returned a result

/-- The assertions about the calls in flight hold. -/
def Asserted (w : World σ δ π ρ ω) : Prop :=
  ∀ id f, w.flights.get? id = some f →
    (∀ pc, f = .waiting pc → R.Waits pc) ∧ ∀ reply, f = .ready reply → R.Holds reply

/-- Nobody has won yet: the item is still open in the database, no finished reply in flight took
it, and no call that returned succeeded. -/
structure Undecided (w : World σ δ π ρ ω) : Prop where
  isOpen : R.Open w.database
  flights : ∀ id reply, w.flights.get? id = some (.ready reply) → R.taken reply = none
  results : ∀ r ∈ w.results, ¬ R.Succeeds r.2

/-- The call `winner` has taken the prize as `a`. Its reply or its result is there, and no
other call succeeds. -/
structure Decided (w : World σ δ π ρ ω) (winner : Nat) (a : α) : Prop where
  taken : R.Taken a w.database
  present : (∃ reply, w.flights.get? winner = some (.ready reply) ∧ R.taken reply = some a) ∨
    w.flights.get? winner = none ∧ ∃ result, (winner, result) ∈ w.results
  others : ∀ id reply, id ≠ winner → w.flights.get? id = some (.ready reply) →
    R.taken reply = none
  returned : ∀ r ∈ w.results, r.1 = winner → R.Returned a r.2
  results : ∀ r ∈ w.results, R.Succeeds r.2 → r.1 = winner

/-- How far the race is: still undecided, or decided for the one call that took the item. -/
inductive State (w : World σ δ π ρ ω) : Prop
  | undecided (h : R.Undecided w)
  | decided (winner : Nat) (a : α) (h : R.Decided w winner a)

/-- The invariant of a race: call numbers are fresh, every call in flight satisfies its assertion,
and the race is either undecided or decided for one winner. -/
structure Valid (w : World σ δ π ρ ω) : Prop where
  numbered : AsyncProgram.Numbered w
  asserted : R.Asserted w
  state : R.State w

/-- Before the first call. -/
theorem valid_initial {m : σ} {d : δ} (h : R.Open d) :
    R.Valid ({ memory := m, database := d } : World σ δ π ρ ω) where
  numbered := AsyncProgram.numbered_initial m d
  asserted id f hf := by simp at hf
  state := .undecided ⟨h, fun id reply hf => by simp at hf, fun r hr => by simp at hr⟩

variable {R} {P : AsyncProgram σ δ κ π ρ ω ι} {g : Guard δ κ π ι}

/-- A segment keeps the assertions of all waiting calls when its own call, if it goes on, waits
with a valid assertion. -/
theorem asserted_conclude {w : World σ δ π ρ ω} (hw : R.Asserted w) (id : Nat) (m : σ)
    {o : Outcome π ω} (ho : ∀ pc, o = .suspended pc → R.Waits pc) :
    R.Asserted (w.conclude id m o) := by
  intro id' f hf
  rcases World.conclude_flights w id id' m o f hf with ⟨pc, hpc, rfl⟩ | hold
  · refine ⟨fun pc' heq => ?_, fun reply heq => by cases heq⟩
    cases heq
    exact ho pc hpc
  · exact hw id' f hold

/-- A flight that is ready after a segment was ready before it, or it is another call's. -/
theorem ready_of_conclude {w : World σ δ π ρ ω} {id id' : Nat} {m : σ} {o : Outcome π ω}
    {reply : ρ} (h : (w.conclude id m o).flights.get? id' = some (.ready reply)) :
    w.flights.get? id' = some (.ready reply) := by
  rcases World.conclude_flights w id id' m o _ h with ⟨pc, -, heq⟩ | hold
  · cases heq
  · exact hold

/-- A segment of a call, while nobody has won. -/
theorem undecided_conclude {w : World σ δ π ρ ω} (hw : R.Undecided w) (id : Nat) (m : σ)
    {o : Outcome π ω} (ho : ∀ result, o = .finished result → ¬ R.Succeeds result) :
    R.Undecided (w.conclude id m o) where
  isOpen := by
    rw [World.conclude_database]
    exact hw.isOpen
  flights id' reply hf := hw.flights id' reply (ready_of_conclude hf)
  results r hr := by
    rcases World.mem_conclude_results hr with hold | ⟨result, hfin, rfl⟩
    · exact hw.results r hold
    · exact ho result hfin

/-- A segment of a call that is not the winner leaves the race decided, as long as this call does
not end with a success. -/
theorem decided_conclude_other {w : World σ δ π ρ ω} {winner : Nat} {a : α}
    (hw : R.Decided w winner a) {id : Nat} (m : σ) {o : Outcome π ω} (hne : winner ≠ id)
    (ho : ∀ result, o = .finished result → ¬ R.Succeeds result) :
    R.Decided (w.conclude id m o) winner a where
  taken := by
    rw [World.conclude_database]
    exact hw.taken
  present := by
    rw [World.conclude_flights_ne w m o hne]
    rcases hw.present with ⟨reply, hf, ha⟩ | ⟨hf, result, hr⟩
    · exact Or.inl ⟨reply, hf, ha⟩
    · exact Or.inr ⟨hf, result, World.mem_conclude_of_mem m o hr⟩
  others id' reply hid' hf := hw.others id' reply hid' (ready_of_conclude hf)
  returned r hr heq := by
    rcases World.mem_conclude_results hr with hold | ⟨result, hfin, rfl⟩
    · exact hw.returned r hold heq
    · exact absurd heq.symm hne
  results r hr hs := by
    rcases World.mem_conclude_results hr with hold | ⟨result, hfin, rfl⟩
    · exact hw.results r hold hs
    · exact absurd hs (ho result hfin)

/-- The last segment of the winner leaves the race decided: its call is over, and its result is the
one that belongs to what it took. -/
theorem decided_conclude_winner {w : World σ δ π ρ ω} {winner : Nat} {a : α}
    (hw : R.Decided w winner a) (m : σ) {result : ω} (hresult : R.Returned a result) :
    R.Decided (w.conclude winner m (.finished result)) winner a where
  taken := hw.taken
  present := by
    refine Or.inr ⟨?_, result, List.mem_append_right _ (List.mem_singleton_self _)⟩
    show (w.flights.delete winner).get? winner = none
    rw [OrderedMap.get?_delete, if_pos rfl]
  others id' reply hid' hf := hw.others id' reply hid' (ready_of_conclude hf)
  returned r hr heq := by
    rcases World.mem_conclude_results hr with hold | ⟨result', hfin, rfl⟩
    · exact hw.returned r hold heq
    · cases hfin
      exact hresult
  results r hr hs := by
    rcases World.mem_conclude_results hr with hold | ⟨result', -, rfl⟩
    · exact hw.results r hold hs
    · rfl

/-- The call with a reply that reports the prize is the winner. -/
theorem Decided.eq_winner {w : World σ δ π ρ ω} {winner id : Nat} {a b : α} {reply : ρ}
    (hw : R.Decided w winner a) (hf : w.flights.get? id = some (.ready reply))
    (hb : R.taken reply = some b) : id = winner ∧ b = a := by
  have hid : id = winner := by
    by_contra hne
    rw [hw.others id reply hne hf] at hb
    cases hb
  subst hid
  refine ⟨rfl, ?_⟩
  rcases hw.present with ⟨reply', hf', ha⟩ | ⟨hf', -⟩
  · rw [hf] at hf'
    cases hf'
    exact Option.some.inj (hb.symm.trans ha)
  · rw [hf] at hf'
    cases hf'

/-- An operation takes effect while nobody has won. Its reply tells what it took: nothing, and the
race stays open, or the item, and its call has won. -/
theorem undecided_execute {w : World σ δ π ρ ω} (hR : R.Fair P g) (hv : R.Valid w)
    (hw : R.Undecided w) {id : Nat} {pc : π} {input : ι} {d : δ} {reply : ρ}
    (hf : w.flights.get? id = some (.waiting pc)) (hg : g.operations pc input w.database)
    (h : P.execute pc input w.database = some (d, reply)) :
    R.Holds reply ∧
      (R.taken reply = none →
        R.Undecided { w with database := d, flights := w.flights.set id (.ready reply) }) ∧
      ∀ a, R.taken reply = some a →
        R.Decided { w with database := d, flights := w.flights.set id (.ready reply) } id a := by
  have hwaits := (hv.asserted id _ hf).1 pc rfl
  obtain ⟨hholds, hstays, htakes⟩ := hR.openMoves pc input _ d reply hw.isOpen hwaits hg h
  refine ⟨hholds, fun hnone => ⟨hstays hnone, fun id' reply' hf' => ?_, hw.results⟩,
    fun a ha => ⟨htakes a ha, Or.inl ⟨reply, OrderedMap.get?_set_self _ _ _, ha⟩,
      fun id' reply' hne hf' => ?_, fun r hr heq => ?_, fun r hr hs => ?_⟩⟩
  · replace hf' : (w.flights.set id (.ready reply)).get? id' = some (.ready reply') := hf'
    rw [OrderedMap.get?_set] at hf'
    split at hf'
    · cases hf'
      exact hnone
    · exact hw.flights id' reply' hf'
  · refine hw.flights id' reply' ?_
    rwa [← OrderedMap.get?_set_ne w.flights (.ready reply) hne]
  · exact absurd heq ((hv.numbered.flights id _ hf).2 r hr)
  · exact absurd hs (hw.results r hr)

/-- An operation takes effect after the race. It belongs to a call that has not won, takes nothing,
and leaves the winner as it is. -/
theorem decided_execute {w : World σ δ π ρ ω} {winner : Nat} {a : α} (hR : R.Fair P g)
    (hv : R.Valid w) (hw : R.Decided w winner a) {id : Nat} {pc : π} {input : ι} {d : δ}
    {reply : ρ} (hf : w.flights.get? id = some (.waiting pc))
    (hg : g.operations pc input w.database)
    (h : P.execute pc input w.database = some (d, reply)) :
    R.Holds reply ∧
      R.Decided { w with database := d, flights := w.flights.set id (.ready reply) } winner a := by
  have hwaits := (hv.asserted id _ hf).1 pc rfl
  obtain ⟨hholds, hnone, htaken⟩ := hR.takenMoves a pc input _ d reply hw.taken hwaits hg h
  -- The operation of the winner is answered or over, so this one is another call's.
  have hne : winner ≠ id := by
    rintro rfl
    rcases hw.present with ⟨reply', hf', -⟩ | ⟨hf', -⟩
    · rw [hf] at hf'
      cases hf'
    · rw [hf] at hf'
      cases hf'
  have hsame : (w.flights.set id (.ready reply)).get? winner = w.flights.get? winner :=
    OrderedMap.get?_set_ne _ _ hne
  refine ⟨hholds, htaken, ?_, fun id' reply' hid' hf' => ?_, hw.returned, hw.results⟩
  · rcases hw.present with ⟨reply', hf', ha⟩ | ⟨hf', hr⟩
    · exact Or.inl ⟨reply', hsame.trans hf', ha⟩
    · exact Or.inr ⟨hsame.trans hf', hr⟩
  · replace hf' : (w.flights.set id (.ready reply)).get? id' = some (.ready reply') := hf'
    rw [OrderedMap.get?_set] at hf'
    split at hf'
    · cases hf'
      exact hnone
    · exact hw.others id' reply' hid' hf'

/-- A segment of a call after its reply keeps the state of the race: an open race stays open, and a
decided one keeps its winner. -/
theorem state_resume {w : World σ δ π ρ ω} (hR : R.Fair P g) (hv : R.Valid w) {id : Nat}
    {reply : ρ} {input : ι} {m : σ} {o : Outcome π ω}
    (hf : w.flights.get? id = some (.ready reply))
    (h : P.resume reply input w.memory = some (m, o)) :
    (R.Undecided w → R.Undecided (w.conclude id m o)) ∧
      ∀ winner a, R.Decided w winner a → R.Decided (w.conclude id m o) winner a := by
  obtain ⟨hsuspends, hfinishes⟩ :=
    hR.resume reply input _ m o ((hv.asserted id _ hf).2 reply rfl) h
  constructor
  -- While nobody has won, no reply in flight took the item, so this one ends without success.
  · intro hw
    exact undecided_conclude hw id m fun result hfin =>
      (hfinishes result hfin).1 (hw.flights id reply hf)
  · intro winner a hw
    -- After the decision the call is the winner or another one, which its reply tells.
    cases ht : R.taken reply with
    | none =>
        have hne : winner ≠ id := by
          rintro rfl
          rcases hw.present with ⟨reply', hf', ha⟩ | ⟨hf', -⟩
          · rw [hf] at hf'
            cases hf'
            rw [ht] at ha
            cases ha
          · rw [hf] at hf'
            cases hf'
        exact decided_conclude_other hw m hne fun result hfin => (hfinishes result hfin).1 ht
    | some b =>
        obtain ⟨rfl, rfl⟩ := hw.eq_winner hf ht
        cases o with
        | suspended pc =>
            rw [(hsuspends pc rfl).2] at ht
            cases ht
        | finished result => exact decided_conclude_winner hw m ((hfinishes result rfl).2 b ht)

/-- The first segment of a call keeps the state of the race, because it touches no database and its
number is not that of the winner. -/
theorem state_start {w : World σ δ π ρ ω} (hR : R.Fair P g) (hv : R.Valid w) {call : κ}
    {input : ι} {m : σ} {o : Outcome π ω} (hg : g.calls call)
    (h : P.start call input w.memory = some (m, o)) :
    (R.Undecided w →
        R.Undecided ({ w with nextCall := w.nextCall + 1 }.conclude w.nextCall m o)) ∧
      ∀ winner a, R.Decided w winner a →
        R.Decided ({ w with nextCall := w.nextCall + 1 }.conclude w.nextCall m o) winner a := by
  obtain ⟨-, hfails⟩ := hR.start call input _ m o hg h
  constructor
  · intro hw
    have hw₁ : R.Undecided { w with nextCall := w.nextCall + 1 } :=
      ⟨hw.isOpen, hw.flights, hw.results⟩
    exact undecided_conclude hw₁ _ m hfails
  · intro winner a hw
    have hw₁ : R.Decided { w with nextCall := w.nextCall + 1 } winner a :=
      ⟨hw.taken, hw.present, hw.others, hw.returned, hw.results⟩
    -- The number is new, so it is not the winner's.
    have hne : winner ≠ w.nextCall := by
      rintro rfl
      rcases hw.present with ⟨reply, hf, -⟩ | ⟨-, result, hr⟩
      · exact Nat.lt_irrefl _ (hv.numbered.flights _ _ hf).1
      · exact Nat.lt_irrefl _ (hv.numbered.results _ hr)
    exact decided_conclude_other hw₁ m hne hfails

/-- Every move that the guard allows keeps the assertions about the calls in flight. -/
theorem step_asserted (hR : R.Fair P g) {w w' : World σ δ π ρ ω} {e : AsyncEvent κ ι}
    (hv : R.Valid w) (hg : g.Allows w e) (h : P.machine.step w e = some w') :
    R.Asserted w' := by
  rcases AsyncProgram.step_cases h with
    ⟨call, input, m, o, rfl, hstart, rfl⟩ | ⟨id, input, pc, d, reply, rfl, hflight, hexec, rfl⟩ |
    ⟨id, input, reply, m, o, rfl, hflight, hresume, rfl⟩
  · have hasserted : R.Asserted { w with nextCall := w.nextCall + 1 } := hv.asserted
    exact asserted_conclude hasserted _ m (hR.start call input _ m o hg hstart).1
  · have hholds : R.Holds reply := by
      cases hv.state with
      | undecided hw => exact (undecided_execute hR hv hw hflight (hg pc hflight) hexec).1
      | decided winner a hw => exact (decided_execute hR hv hw hflight (hg pc hflight) hexec).1
    intro id' f hf
    replace hf : (w.flights.set id (.ready reply)).get? id' = some f := hf
    rw [OrderedMap.get?_set] at hf
    split at hf
    · cases hf
      refine ⟨fun pc' heq => (by cases heq), fun reply' heq => ?_⟩
      cases heq
      exact hholds
    · exact hv.asserted id' f hf
  · have hsuspends :=
      (hR.resume reply input _ m o ((hv.asserted id _ hflight).2 reply rfl) hresume).1
    exact asserted_conclude hv.asserted _ m fun pc hpc => (hsuspends pc hpc).1

/-- A decided race stays decided, with the same winner. -/
theorem step_decided (hR : R.Fair P g) {w w' : World σ δ π ρ ω} {e : AsyncEvent κ ι}
    {winner : Nat} {a : α} (hv : R.Valid w) (hw : R.Decided w winner a) (hg : g.Allows w e)
    (h : P.machine.step w e = some w') : R.Decided w' winner a := by
  rcases AsyncProgram.step_cases h with
    ⟨call, input, m, o, rfl, hstart, rfl⟩ | ⟨id, input, pc, d, reply, rfl, hflight, hexec, rfl⟩ |
    ⟨id, input, reply, m, o, rfl, hflight, hresume, rfl⟩
  · exact (state_start hR hv hg hstart).2 winner a hw
  · exact (decided_execute hR hv hw hflight (hg pc hflight) hexec).2
  · exact (state_resume hR hv hflight hresume).2 winner a hw

/-- While nobody has won, an operation leaves the race open or is the one of the winner. -/
theorem step_execute_undecided (hR : R.Fair P g) {w w' : World σ δ π ρ ω} {id : Nat}
    {input : ι} (hv : R.Valid w) (hw : R.Undecided w) (hg : g.Allows w (.execute id input))
    (h : P.machine.step w (.execute id input) = some w') :
    R.Undecided w' ∨ ∃ a, R.Decided w' id a := by
  rcases AsyncProgram.step_cases h with
    ⟨call, input', m, o, he, -⟩ | ⟨id', input', pc, d, reply, he, hflight, hexec, rfl⟩ |
    ⟨id', input', reply, m, o, he, -⟩
  · cases he
  · cases he
    obtain ⟨-, hstays, hwins⟩ := undecided_execute hR hv hw hflight (hg pc hflight) hexec
    cases ht : R.taken reply with
    | none => exact Or.inl (hstays ht)
    | some a => exact Or.inr ⟨a, hwins a ht⟩
  · cases he

/-- Every move that the guard allows keeps the invariant of the race, whether it is still open or
decided. -/
theorem step_valid (hR : R.Fair P g) (w : World σ δ π ρ ω) (e : AsyncEvent κ ι)
    (w' : World σ δ π ρ ω) (hv : R.Valid w) (hg : g.Allows w e)
    (h : P.machine.step w e = some w') : R.Valid w' := by
  refine ⟨AsyncProgram.step_numbered w e w' hv.numbered h, step_asserted hR hv hg h, ?_⟩
  cases hv.state with
  | decided winner a hw => exact .decided winner a (step_decided hR hv hw hg h)
  | undecided hw =>
      rcases AsyncProgram.step_cases h with
        ⟨call, input, m, o, rfl, hstart, rfl⟩ |
        ⟨id, input, pc, d, reply, rfl, hflight, hexec, rfl⟩ |
        ⟨id, input, reply, m, o, rfl, hflight, hresume, rfl⟩
      · exact .undecided ((state_start hR hv hg hstart).1 hw)
      · rcases step_execute_undecided hR hv hw hg h with hw' | ⟨a, hw'⟩
        · exact .undecided hw'
        · exact .decided id a hw'
      · exact .undecided ((state_resume hR hv hflight hresume).1 hw)

/-- The rule: the invariant after every run inside the guard. -/
theorem run_valid (hR : R.Fair P g) {m : σ} {d : δ} (hopen : R.Open d)
    (es : List (AsyncEvent κ ι)) (w : World σ δ π ρ ω)
    (hg : P.machine.Meets g.Allows { memory := m, database := d } es)
    (h : P.machine.run { memory := m, database := d } es = some w) : R.Valid w :=
  Machine.guarded_invariant (step_valid hR) es _ w (R.valid_initial hopen) hg h

/-- Once a call has won the race, it stays the winner in every run whose steps the guard allows. -/
theorem run_decided (hR : R.Fair P g) (es : List (AsyncEvent κ ι)) (w w' : World σ δ π ρ ω)
    {winner : Nat} {a : α} (hv : R.Valid w) (hw : R.Decided w winner a)
    (hg : P.machine.Meets g.Allows w es) (h : P.machine.run w es = some w') :
    R.Decided w' winner a :=
  (Machine.guarded_invariant (I := fun w => R.Valid w ∧ R.Decided w winner a)
    (fun w e w' hw hg h =>
      ⟨step_valid hR w e w' hw.1 hg h, step_decided hR hw.1 hw.2 hg h⟩)
    es w w' ⟨hv, hw⟩ hg h).2

/-- At most one call succeeds. -/
theorem State.succeeds_unique {w : World σ δ π ρ ω} (h : R.State w) {r r' : Nat × ω}
    (hr : r ∈ w.results) (hr' : r' ∈ w.results) (hs : R.Succeeds r.2) (hs' : R.Succeeds r'.2) :
    r.1 = r'.1 := by
  cases h with
  | undecided h => exact absurd hs (h.results r hr)
  | decided winner a h => exact (h.results r hr hs).trans (h.results r' hr' hs').symm

end Race

end Dcvp.Lib
