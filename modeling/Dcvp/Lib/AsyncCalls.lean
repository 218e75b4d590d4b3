import Dcvp.Lib.Machine
import Dcvp.Lib.OrderedMap

/-!
# `Dcvp.Lib.AsyncCalls`: interleaved asynchronous calls

A single-threaded process serves asynchronous calls over a database. A call runs without
interruption up to its next `await`. There it hands an operation to the outside and is
suspended. The operation takes effect at some later moment, and later still the call runs on
with the reply. Between any two of these moments other calls can move.

`AsyncProgram` gives the three kinds of moves of one program:

* `start`: the first segment of a call, on the process memory `σ`;
* `execute`: the effect of an awaited operation on the database `δ`;
* `resume`: the next segment of a call, on the process memory.

A suspended call is described by a value of `π` while its operation is outstanding, and by a
value of `ρ`, which includes the reply, from then on. Each move takes an input `ι` from
the environment (clock readings, random values, faults). It answers `none` when the input
cannot occur there.

`AsyncProgram.machine` is the machine of all interleavings. `Outline` is a proof outline for
it: an invariant of the shared state, and an assertion for each suspended call.
`Outline.step_valid` is the rule of the outline. A move has to keep the invariant, to
establish the assertion of the call that moves, and to stay inside a guarantee `G`. The
assertions of the other calls have to be stable under `G`.
-/

set_option autoImplicit false

namespace Dcvp.Lib

/-- How a segment of a call ends: at an `await`, or with the result of the call. -/
inductive Outcome (π ω : Type) where
  | suspended (pc : π)
  | finished (result : ω)
  deriving DecidableEq

/-- The moves of a program: calls `κ`, suspended calls `π` and `ρ`, results `ω`, inputs `ι`,
on a process memory `σ` and a database `δ`. -/
structure AsyncProgram (σ δ κ π ρ ω ι : Type) where
  start : κ → ι → σ → Option (σ × Outcome π ω)
  execute : π → ι → δ → Option (δ × ρ)
  resume : ρ → ι → σ → Option (σ × Outcome π ω)

/-- A call in flight: its operation is outstanding, or answered. -/
inductive Flight (π ρ : Type) where
  | waiting (pc : π)
  | ready (reply : ρ)
  deriving DecidableEq

/-- The whole state: process memory, database, the calls in flight, the number of the next
call, and the results so far, each with the number of its call. -/
structure World (σ δ π ρ ω : Type) where
  memory : σ
  database : δ
  flights : OrderedMap Nat (Flight π ρ) := OrderedMap.empty
  nextCall : Nat := 0
  results : List (Nat × ω) := []

/-- The moves: a new call starts, or the call with the given number moves on. -/
inductive AsyncEvent (κ ι : Type) where
  | invoke (call : κ) (input : ι)
  | execute (id : Nat) (input : ι)
  | resume (id : Nat) (input : ι)

variable {σ δ κ π ρ ω ι : Type}

/-- The call that an event moves: the one with the next number for a new call, and otherwise
the one that the event names. -/
def AsyncEvent.mover (w : World σ δ π ρ ω) : AsyncEvent κ ι → Nat
  | .invoke _ _ => w.nextCall
  | .execute id _ => id
  | .resume id _ => id

/-- The end of a segment of call `id`: the new memory, and the call is suspended again or
leaves with its result. -/
def World.conclude (w : World σ δ π ρ ω) (id : Nat) (memory : σ) :
    Outcome π ω → World σ δ π ρ ω
  | .suspended pc => { w with memory, flights := w.flights.set id (.waiting pc) }
  | .finished result =>
      { w with memory, flights := w.flights.delete id, results := w.results ++ [(id, result)] }

/-- The end of a turn leaves the memory that the turn has computed, whether the call ends there or
suspends. -/
@[simp] theorem World.conclude_memory (w : World σ δ π ρ ω) (id : Nat) (memory : σ)
    (o : Outcome π ω) : (w.conclude id memory o).memory = memory := by cases o <;> rfl

/-- The end of a turn does not touch the database. Only a statement that is executed does. -/
@[simp] theorem World.conclude_database (w : World σ δ π ρ ω) (id : Nat) (memory : σ)
    (o : Outcome π ω) : (w.conclude id memory o).database = w.database := by cases o <;> rfl

/-- The calls in flight after a segment: the call itself if it is suspended again, and the
other ones as before. -/
theorem World.conclude_flights (w : World σ δ π ρ ω) (id id' : Nat) (memory : σ)
    (o : Outcome π ω) (f : Flight π ρ)
    (h : (w.conclude id memory o).flights.get? id' = some f) :
    (∃ pc, o = .suspended pc ∧ f = .waiting pc) ∨ w.flights.get? id' = some f := by
  cases o with
  | suspended pc =>
      replace h : (w.flights.set id (.waiting pc)).get? id' = some f := h
      rw [OrderedMap.get?_set] at h
      split at h
      · cases h
        exact Or.inl ⟨pc, rfl, rfl⟩
      · exact Or.inr h
  | finished result =>
      replace h : (w.flights.delete id).get? id' = some f := h
      rw [OrderedMap.get?_delete] at h
      split at h
      · cases h
      · exact Or.inr h

/-- The results after a segment: those from before, and the one of the call if it ends. -/
theorem World.mem_conclude_results {w : World σ δ π ρ ω} {id : Nat} {memory : σ}
    {o : Outcome π ω} {r : Nat × ω} (h : r ∈ (w.conclude id memory o).results) :
    r ∈ w.results ∨ ∃ result, o = .finished result ∧ r = (id, result) := by
  cases o with
  | suspended pc => exact Or.inl h
  | finished result =>
      rcases List.mem_append.mp h with hold | hnew
      · exact Or.inl hold
      · exact Or.inr ⟨result, rfl, List.mem_singleton.mp hnew⟩

/-- A segment of a call leaves the flights of the other calls alone. -/
theorem World.conclude_flights_ne (w : World σ δ π ρ ω) {id id' : Nat} (memory : σ)
    (o : Outcome π ω) (h : id' ≠ id) :
    (w.conclude id memory o).flights.get? id' = w.flights.get? id' := by
  cases o with
  | suspended pc => exact OrderedMap.get?_set_ne _ _ h
  | finished result =>
      show (w.flights.delete id).get? id' = _
      rw [OrderedMap.get?_delete, if_neg h]

/-- A segment of a call keeps the results. -/
theorem World.mem_conclude_of_mem {w : World σ δ π ρ ω} {id : Nat} (memory : σ)
    (o : Outcome π ω) {r : Nat × ω} (h : r ∈ w.results) :
    r ∈ (w.conclude id memory o).results := by
  cases o with
  | suspended pc => exact h
  | finished result => exact List.mem_append_left _ h

namespace AsyncProgram

variable (P : AsyncProgram σ δ κ π ρ ω ι)

/-- One move. -/
def step (w : World σ δ π ρ ω) : AsyncEvent κ ι → Option (World σ δ π ρ ω)
  | .invoke call input =>
      (P.start call input w.memory).map fun r =>
        { w with nextCall := w.nextCall + 1 }.conclude w.nextCall r.1 r.2
  | .execute id input =>
      match w.flights.get? id with
      | some (.waiting pc) =>
          (P.execute pc input w.database).map fun r =>
            { w with database := r.1, flights := w.flights.set id (.ready r.2) }
      | _ => none
  | .resume id input =>
      match w.flights.get? id with
      | some (.ready reply) =>
          (P.resume reply input w.memory).map fun r => w.conclude id r.1 r.2
      | _ => none

/-- The machine of all interleavings. -/
def machine : Machine (World σ δ π ρ ω) (AsyncEvent κ ι) := ⟨P.step⟩

variable {P}

/-- What a move can be, with all that it changes: a new call runs its first segment, a suspended
call's operation takes effect on the database, or a call goes on with its reply. Every invariant
splits on these three. -/
theorem step_cases {w w' : World σ δ π ρ ω} {e : AsyncEvent κ ι}
    (h : P.machine.step w e = some w') :
    (∃ call input m o, e = .invoke call input ∧ P.start call input w.memory = some (m, o) ∧
      w' = { w with nextCall := w.nextCall + 1 }.conclude w.nextCall m o) ∨
    (∃ id input pc d reply, e = .execute id input ∧
      w.flights.get? id = some (.waiting pc) ∧
      P.execute pc input w.database = some (d, reply) ∧
      w' = { w with database := d, flights := w.flights.set id (.ready reply) }) ∨
    (∃ id input reply m o, e = .resume id input ∧
      w.flights.get? id = some (.ready reply) ∧
      P.resume reply input w.memory = some (m, o) ∧ w' = w.conclude id m o) := by
  replace h : P.step w e = some w' := h
  -- One case per kind of move. The two moves of a call in flight are possible only when its flight
  -- is in the right half of the suspension.
  cases e with
  | invoke call input =>
      obtain ⟨⟨m, o⟩, hstart, rfl⟩ := Option.map_eq_some_iff.mp h
      exact Or.inl ⟨call, input, m, o, rfl, hstart, rfl⟩
  | execute id input =>
      simp only [step] at h
      split at h
      · rename_i pc hflight
        obtain ⟨⟨d, reply⟩, hexec, rfl⟩ := Option.map_eq_some_iff.mp h
        exact Or.inr (Or.inl ⟨id, input, pc, d, reply, rfl, hflight, hexec, rfl⟩)
      · cases h
  | resume id input =>
      simp only [step] at h
      split at h
      · rename_i reply hflight
        obtain ⟨⟨m, o⟩, hresume, rfl⟩ := Option.map_eq_some_iff.mp h
        exact Or.inr (Or.inr ⟨id, input, reply, m, o, rfl, hflight, hresume, rfl⟩)
      · cases h

/-- The numbers of calls are used once: a call in flight has a number below the next one and
no result yet, and a result has a number below the next one. -/
structure Numbered (w : World σ δ π ρ ω) : Prop where
  flights : ∀ id f, w.flights.get? id = some f → id < w.nextCall ∧ ∀ r ∈ w.results, r.1 ≠ id
  results : ∀ r ∈ w.results, r.1 < w.nextCall

/-- Nothing is in flight at the start, so the numbering holds of any memory and any database that a
run begins with. -/
theorem numbered_initial (m : σ) (d : δ) :
    Numbered ({ memory := m, database := d } : World σ δ π ρ ω) where
  flights id f hf := by simp at hf
  results r hr := by simp at hr

/-- A segment of a call keeps the numbers apart, if the call is not finished yet. -/
theorem numbered_conclude {w : World σ δ π ρ ω} (hw : Numbered w) {id : Nat}
    (hlt : id < w.nextCall) (hopen : ∀ r ∈ w.results, r.1 ≠ id) (m : σ) (o : Outcome π ω) :
    Numbered (w.conclude id m o) := by
  -- A suspended call keeps its number among the flights; a finished one moves it from the flights
  -- to the results.
  cases o with
  | suspended pc =>
      refine ⟨fun id' f hf => ?_, hw.results⟩
      replace hf : (w.flights.set id (.waiting pc)).get? id' = some f := hf
      rw [OrderedMap.get?_set] at hf
      split at hf
      · rename_i heq
        rw [heq]
        exact ⟨hlt, hopen⟩
      · exact hw.flights id' f hf
  | finished result =>
      refine ⟨fun id' f hf => ?_, fun r hr => ?_⟩
      · replace hf : (w.flights.delete id).get? id' = some f := hf
        rw [OrderedMap.get?_delete] at hf
        split at hf
        · cases hf
        -- Another call's number is not `id`, so the new result is not its result.
        · rename_i hne
          obtain ⟨hlt', hopen'⟩ := hw.flights id' f hf
          refine ⟨hlt', fun r hr => ?_⟩
          rcases List.mem_append.mp hr with hold | hnew
          · exact hopen' r hold
          · rw [List.mem_singleton.mp hnew]
            exact fun heq => hne heq.symm
      · rcases List.mem_append.mp hr with hold | hnew
        · exact hw.results r hold
        · rw [List.mem_singleton.mp hnew]
          exact hlt

/-- Every move keeps the numbers of the calls apart: a new call takes the next number, and the
other two moves stay with a number that is in flight. -/
theorem step_numbered (w : World σ δ π ρ ω) (e : AsyncEvent κ ι) (w' : World σ δ π ρ ω)
    (hw : Numbered w) (h : P.machine.step w e = some w') : Numbered w' := by
  rcases step_cases h with
    ⟨call, input, m, o, -, -, rfl⟩ | ⟨id, input, pc, d, reply, -, hflight, -, rfl⟩ |
    ⟨id, input, reply, m, o, -, hflight, -, rfl⟩
  · have hnext : Numbered { w with nextCall := w.nextCall + 1 } :=
      ⟨fun id f hf => ⟨Nat.lt_succ_of_lt (hw.flights id f hf).1, (hw.flights id f hf).2⟩,
        fun r hr => Nat.lt_succ_of_lt (hw.results r hr)⟩
    exact numbered_conclude hnext (Nat.lt_succ_self _)
      (fun r hr => Nat.ne_of_lt (hw.results r hr)) m o
  · refine ⟨fun id' f hf => ?_, hw.results⟩
    replace hf : (w.flights.set id (.ready reply)).get? id' = some f := hf
    rw [OrderedMap.get?_set] at hf
    split at hf
    · rename_i heq
      rw [heq]
      exact hw.flights id _ hflight
    · exact hw.flights id' f hf
  · obtain ⟨hlt, hopen⟩ := hw.flights id _ hflight
    exact numbered_conclude hw hlt hopen m o

end AsyncProgram

/-- A call that the move starts is one of those that `A` describes. -/
def AsyncEvent.Invokes (A : κ → Prop) : AsyncEvent κ ι → Prop
  | .invoke call _ => A call
  | _ => True

instance (A : κ → Prop) [DecidablePred A] : DecidablePred (@AsyncEvent.Invokes κ ι A)
  | .invoke call _ => inferInstanceAs (Decidable (A call))
  | .execute _ _ => isTrue trivial
  | .resume _ _ => isTrue trivial

/-- What a run is assumed to do: which calls are made, and in which databases an awaited
operation takes effect. -/
structure Guard (δ κ π ι : Type) where
  calls : κ → Prop
  operations : π → ι → δ → Prop

/-- The move is one that the guard allows. -/
def Guard.Allows (g : Guard δ κ π ι) (w : World σ δ π ρ ω) : AsyncEvent κ ι → Prop
  | .invoke call _ => g.calls call
  | .execute id input =>
      ∀ pc, w.flights.get? id = some (.waiting pc) → g.operations pc input w.database
  | .resume _ _ => True

/-- A proof outline: an invariant of the shared state, and what may be assumed about it for
each suspended call. -/
structure Outline (σ δ π ρ : Type) where
  Inv : σ → δ → Prop
  Waits : π → σ → δ → Prop
  Holds : ρ → σ → δ → Prop

namespace Outline

variable (O : Outline σ δ π ρ)

/-- The assertion of a call in flight. -/
def Asserts (f : Flight π ρ) (m : σ) (d : δ) : Prop :=
  match f with
  | .waiting pc => O.Waits pc m d
  | .ready reply => O.Holds reply m d

/-- A world of a program with its outline: the invariant holds of memory and database, and every
call in flight stands at a place whose assertion holds now, whatever the other calls did since it
was suspended. -/
structure Valid (w : World σ δ π ρ ω) : Prop where
  inv : O.Inv w.memory w.database
  flights : ∀ id f, w.flights.get? id = some f → O.Asserts f w.memory w.database

/-- Without calls in flight only the invariant is to be shown. -/
theorem valid_initial {m : σ} {d : δ} (h : O.Inv m d) :
    O.Valid (ω := ω) { memory := m, database := d } where
  inv := h
  flights id f hf := by simp at hf

variable {O} {P : AsyncProgram σ δ κ π ρ ω ι}

/-- The obligations of an outline with guarantee `G`: each move keeps the invariant, stays
inside `G` and establishes the assertion of the call that moves. Assertions are stable. -/
structure Proved (O : Outline σ δ π ρ) (P : AsyncProgram σ δ κ π ρ ω ι)
    (G : σ → δ → σ → δ → Prop) : Prop where
  start : ∀ call input m d m' o, O.Inv m d → P.start call input m = some (m', o) →
    O.Inv m' d ∧ G m d m' d ∧ ∀ pc, o = .suspended pc → O.Waits pc m' d
  execute : ∀ pc input m d d' reply, O.Inv m d → O.Waits pc m d →
    P.execute pc input d = some (d', reply) → O.Inv m d' ∧ G m d m d' ∧ O.Holds reply m d'
  resume : ∀ reply input m d m' o, O.Inv m d → O.Holds reply m d →
    P.resume reply input m = some (m', o) →
    O.Inv m' d ∧ G m d m' d ∧ ∀ pc, o = .suspended pc → O.Waits pc m' d
  stable : ∀ f m d m' d', G m d m' d' → O.Asserts f m d → O.Asserts f m' d'

/-- A segment of a call keeps an outline valid. -/
theorem valid_conclude {G : σ → δ → σ → δ → Prop} (hP : O.Proved P G)
    {w : World σ δ π ρ ω} (hw : O.Valid w) (id : Nat) {m : σ} {o : Outcome π ω}
    (h : O.Inv m w.database ∧ G w.memory w.database m w.database ∧
      ∀ pc, o = .suspended pc → O.Waits pc m w.database) :
    O.Valid (w.conclude id m o) := by
  obtain ⟨hinv, hG, hwaits⟩ := h
  refine ⟨by simpa using hinv, fun id' f hf => ?_⟩
  rw [World.conclude_memory, World.conclude_database]
  rcases World.conclude_flights w id id' m o f hf with ⟨pc, hpc, rfl⟩ | hold
  · exact hwaits pc hpc
  · exact hP.stable f _ _ _ _ hG (hw.flights id' f hold)

/-- The rule of the outline: if each segment and each operation keeps its assertions, then every
move keeps the outline valid. -/
theorem step_valid {G : σ → δ → σ → δ → Prop} (hP : O.Proved P G)
    (w : World σ δ π ρ ω) (e : AsyncEvent κ ι) (w' : World σ δ π ρ ω) (hw : O.Valid w)
    (h : P.machine.step w e = some w') : O.Valid w' := by
  rcases AsyncProgram.step_cases h with
    ⟨call, input, m, o, -, hstart, rfl⟩ | ⟨id, input, pc, d, reply, -, hflight, hexec, rfl⟩ |
    ⟨id, input, reply, m, o, -, hflight, hresume, rfl⟩
  · have hw' : O.Valid { w with nextCall := w.nextCall + 1 } := ⟨hw.inv, hw.flights⟩
    exact valid_conclude hP hw' w.nextCall (hP.start call input _ _ m o hw.inv hstart)
  · obtain ⟨hinv, hG, hholds⟩ :=
      hP.execute pc input _ _ d reply hw.inv (hw.flights id _ hflight) hexec
    refine ⟨hinv, fun id' f hf => ?_⟩
    replace hf : (w.flights.set id (.ready reply)).get? id' = some f := hf
    rw [OrderedMap.get?_set] at hf
    split at hf
    · cases hf
      exact hholds
    · exact hP.stable f _ _ _ _ hG (hw.flights id' f hf)
  · exact valid_conclude hP hw id
      (hP.resume reply input _ _ m o hw.inv (hw.flights id _ hflight) hresume)

/-- The outline is valid throughout every run. -/
theorem run_valid {G : σ → δ → σ → δ → Prop} (hP : O.Proved P G) (es : List (AsyncEvent κ ι))
    (w w' : World σ δ π ρ ω) (hw : O.Valid w) (h : P.machine.run w es = some w') :
    O.Valid w' :=
  Machine.invariant (step_valid hP) es w w' hw h

end Outline

end Dcvp.Lib
