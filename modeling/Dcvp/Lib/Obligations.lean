import Dcvp.Lib.AsyncCalls

/-!
# `Dcvp.Lib.Obligations`: what calls in flight still have to do

A call makes something outdated and puts it right in a later segment. In between the state is
not as it should be, and only the fact that the call is still on its way excuses this.
`World.Owed` says that some call in flight owes something, and `World.OwedElse` says that
another call than a given one owes it.

`Covered` is the invariant of such a program: each item is settled, or a call in flight owes it.
There is one rule for each kind of move. What was settled before the move, or was owed by the call
that moves, has to be settled afterwards or to be owed by this call or by another one. The
obligations of the other calls need no attention, because a move leaves their flights alone.

What nobody owes is settled (`Covered.settled_of_not_owed`).
-/

set_option autoImplicit false

namespace Dcvp.Lib

variable {σ δ π ρ ω α : Type}

namespace World

variable (w : World σ δ π ρ ω)

/-- A call in flight owes something. -/
def Owed (owes : Flight π ρ → Prop) : Prop :=
  ∃ id f, w.flights.get? id = some f ∧ owes f

/-- Another call in flight than `id` owes something. -/
def OwedElse (id : Nat) (owes : Flight π ρ → Prop) : Prop :=
  ∃ id' f, id' ≠ id ∧ w.flights.get? id' = some f ∧ owes f

/-- The obligation of some other call, as a statement about the entries of the flights, which can
be decided. -/
theorem owedElse_iff_entries (id : Nat) (owes : Flight π ρ → Prop) :
    w.OwedElse id owes ↔ ∃ e ∈ w.flights.entries, e.1 ≠ id ∧ owes e.2 := by
  constructor
  · rintro ⟨id', f, hne, hf, howes⟩
    exact ⟨(id', f), (w.flights.get?_eq_some_iff id' f).mp hf, hne, howes⟩
  · rintro ⟨⟨id', f⟩, hmem, hne, howes⟩
    exact ⟨id', f, hne, (w.flights.get?_eq_some_iff id' f).mpr hmem, howes⟩

instance (id : Nat) (owes : Flight π ρ → Prop) [DecidablePred owes] :
    Decidable (w.OwedElse id owes) :=
  decidable_of_iff _ (w.owedElse_iff_entries id owes).symm

variable {w} {owes : Flight π ρ → Prop} {id : Nat}

/-- What is owed is owed by the given call or by another one. -/
theorem Owed.cases {f : Flight π ρ} (hf : w.flights.get? id = some f) (h : w.Owed owes) :
    owes f ∨ w.OwedElse id owes := by
  obtain ⟨id', f', hf', howes⟩ := h
  by_cases hid : id' = id
  · subst hid
    rw [hf] at hf'
    cases hf'
    exact Or.inl howes
  · exact Or.inr ⟨id', f', hid, hf', howes⟩

/-- A call that is not in flight owes nothing. -/
theorem Owed.owedElse (hf : w.flights.get? id = none) (h : w.Owed owes) :
    w.OwedElse id owes := by
  obtain ⟨id', f', hf', howes⟩ := h
  refine ⟨id', f', ?_, hf', howes⟩
  rintro rfl
  rw [hf] at hf'
  cases hf'

/-- A segment of a call leaves the obligations of the other calls in place. -/
theorem OwedElse.conclude (h : w.OwedElse id owes) (m : σ) (o : Outcome π ω) :
    (w.conclude id m o).Owed owes := by
  obtain ⟨id', f, hne, hf, howes⟩ := h
  exact ⟨id', f, by rwa [w.conclude_flights_ne m o hne], howes⟩

/-- An operation of a call leaves the obligations of the other calls in place. -/
theorem OwedElse.execute (h : w.OwedElse id owes) (d : δ) (f' : Flight π ρ) :
    ({ w with database := d, flights := w.flights.set id f' } : World σ δ π ρ ω).Owed owes := by
  obtain ⟨id', f, hne, hf, howes⟩ := h
  refine ⟨id', f, ?_, howes⟩
  show (w.flights.set id f').get? id' = some f
  rwa [OrderedMap.get?_set_ne _ _ hne]

end World

/-- The call is suspended again and owes something then. -/
def Outcome.Owes (owes : Flight π ρ → Prop) : Outcome π ω → Prop
  | .suspended pc => owes (.waiting pc)
  | .finished _ => False

/-- What a suspended call owes, it owes in the world after its segment. -/
theorem Outcome.Owes.conclude {owes : Flight π ρ → Prop} {o : Outcome π ω} (h : o.Owes owes)
    (w : World σ δ π ρ ω) (id : Nat) (m : σ) : (w.conclude id m o).Owed owes := by
  cases o with
  | suspended pc => exact ⟨id, .waiting pc, OrderedMap.get?_set_self _ _ _, h⟩
  | finished result => exact h.elim

/-- Each item is settled, or a call in flight owes it. -/
def Covered (settled : α → Prop) (owes : Flight π ρ → α → Prop) (w : World σ δ π ρ ω) : Prop :=
  ∀ a, settled a ∨ w.Owed fun f => owes f a

namespace Covered

variable {settled settled' : α → Prop} {owes : Flight π ρ → α → Prop} {w : World σ δ π ρ ω}
  {id : Nat}

/-- What no call in flight owes is settled. -/
theorem settled_of_not_owed (h : Covered settled owes w) (a : α)
    (hnone : ∀ id f, w.flights.get? id = some f → ¬ owes f a) : settled a := by
  rcases h a with hsettled | ⟨id, f, hf, howes⟩
  · exact hsettled
  · exact absurd howes (hnone id f hf)

/-- The share of a call in flight, and that of the others. -/
theorem cases {f : Flight π ρ} (h : Covered settled owes w) (hf : w.flights.get? id = some f)
    (a : α) : (settled a ∨ owes f a) ∨ w.OwedElse id fun f => owes f a := by
  rcases h a with hsettled | howed
  · exact Or.inl (Or.inl hsettled)
  · exact (howed.cases hf).imp_left Or.inr

/-- The first segment of a new call keeps the obligations covered, if whatever was settled still
is, or is owed by this call or by another one. -/
theorem invoke (h : Covered settled owes w) (hnew : w.flights.get? id = none) (next : Nat) (m : σ)
    (o : Outcome π ω)
    (hmove : ∀ a, settled a →
      settled' a ∨ o.Owes (fun f => owes f a) ∨ w.OwedElse id fun f => owes f a) :
    Covered settled' owes ({ w with nextCall := next }.conclude id m o) := by
  intro a
  have helse : w.OwedElse id (fun f => owes f a) →
      ({ w with nextCall := next }.conclude id m o).Owed fun f => owes f a := by
    intro hother
    have hother' : ({ w with nextCall := next } : World σ δ π ρ ω).OwedElse id
        fun f => owes f a := hother
    exact hother'.conclude m o
  rcases h a with hsettled | howed
  · rcases hmove a hsettled with hsettled' | howes | hother
    · exact Or.inl hsettled'
    · exact Or.inr (howes.conclude _ id m)
    · exact Or.inr (helse hother)
  · exact Or.inr (helse (howed.owedElse hnew))

/-- The operation of a call keeps everything covered when whatever was settled, or owed by this
call, is settled afterwards, or owed by this call or by another one. -/
theorem execute {f f' : Flight π ρ} (h : Covered settled owes w)
    (hf : w.flights.get? id = some f) (d : δ)
    (hmove : ∀ a, settled a ∨ owes f a →
      settled' a ∨ owes f' a ∨ w.OwedElse id fun f => owes f a) :
    Covered settled' owes { w with database := d, flights := w.flights.set id f' } := by
  intro a
  rcases h.cases hf a with hown | hother
  · rcases hmove a hown with hsettled' | howes | hother
    · exact Or.inl hsettled'
    · exact Or.inr ⟨id, f', OrderedMap.get?_set_self _ _ _, howes⟩
    · exact Or.inr (hother.execute d f')
  · exact Or.inr (hother.execute d f')

/-- A later segment of a call keeps everything covered when whatever was settled, or owed by this
call, is settled afterwards, or owed by its outcome or by another call. -/
theorem resume {f : Flight π ρ} (h : Covered settled owes w) (hf : w.flights.get? id = some f)
    (m : σ) (o : Outcome π ω)
    (hmove : ∀ a, settled a ∨ owes f a →
      settled' a ∨ o.Owes (fun f => owes f a) ∨ w.OwedElse id fun f => owes f a) :
    Covered settled' owes (w.conclude id m o) := by
  intro a
  rcases h.cases hf a with hown | hother
  · rcases hmove a hown with hsettled' | howes | hother
    · exact Or.inl hsettled'
    · exact Or.inr (howes.conclude w id m)
    · exact Or.inr (hother.conclude m o)
  · exact Or.inr (hother.conclude m o)

end Covered

end Dcvp.Lib
