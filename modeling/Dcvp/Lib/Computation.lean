import Mathlib.Control.Basic

/-!
# `Dcvp.Lib.Computation`: computations on a state that may throw

A `Computation` reads and changes a state and may throw. What it changed before it throws stays
changed, as in a program that talks to a store.

`Preserves P x` says that `x` keeps the fact `P` about the state, however it ends.

`Triple P x Q R` is the triple of Hoare: from a state with `P`, a value `a` comes with a state
with `Q a`, and an exception with a state with `R`.

`Atomic x` says that `x` leaves the state as it was when it throws, and `Throws E x` says which
exceptions it throws at all.

`Coupled R S x y` relates two computations. From states related by `R`, both throw the same
exception, or both answer values related by `S`, and in either case they end in states related
by `R` again. It is a statement about two runs: with `x = y` and equality for `S` it says that
nothing of a state beyond its class under `R` has an influence on the result.

The rules follow the way a computation is put together: `pure`, `bind`, `reads`, `updates`,
`attempt` and `all`.
-/

set_option autoImplicit false

namespace Dcvp.Lib

/-- A computation over states `σ` that throws exceptions `ε`. -/
abbrev Computation (ε σ α : Type) := ExceptT ε (StateM σ) α

namespace Computation

variable {ε σ τ α β γ δ : Type}

/-- A look at the state, which may throw. -/
def reads (f : σ → Except ε α) : Computation ε σ α := fun s => (f s, s)

/-- A change of the state as a whole: when it throws, the state stays. -/
def updates (f : σ → Except ε σ) : Computation ε σ Unit := fun s =>
  match f s with
  | .ok s' => (.ok (), s')
  | .error e => (.error e, s)

/-- `try x`: how the computation ends becomes its value. -/
def attempt (x : Computation ε σ α) : Computation ε σ (Except ε α) := fun s =>
  (.ok (x s).1, (x s).2)

/-- `Promise.all`, for computations that take effect one after the other: each one runs, also
behind one that throws, and then the first exception is thrown. -/
def all : List (Computation ε σ Unit) → Computation ε σ Unit
  | [] => Pure.pure ()
  | x :: xs => do
      let first ← attempt x
      all xs
      reads fun _ => first

/-- What a sequence does from a state. The second half starts in the state that the first one
leaves, and does not run at all when the first one throws. -/
theorem bind_apply (x : Computation ε σ α) (f : α → Computation ε σ β) (s : σ) :
    (x >>= f) s = match x s with
      | (.ok a, s') => f a s'
      | (.error e, s') => (.error e, s') := by
  show StateT.bind x (ExceptT.bindCont f) s = _
  unfold StateT.bind
  show (match x s with | (r, s') => ExceptT.bindCont f r s') = _
  cases hx : x s with
  | mk r s' => cases r <;> rfl

/-- A value is answered from any state, and the state stays as it is. -/
theorem pure_apply (a : α) (s : σ) : (pure a : Computation ε σ α) s = (.ok a, s) := rfl

/-- An exception leaves the state as it is. -/
theorem throw_apply (e : ε) (s : σ) : (throw e : Computation ε σ α) s = (.error e, s) := rfl

/-- A sequence goes on where its first half has a value. -/
theorem bind_ok {x : Computation ε σ α} {f : α → Computation ε σ β} {s s' : σ} {a : α}
    (h : x s = (.ok a, s')) : (x >>= f) s = f a s' := by
  rw [bind_apply, h]

/-- A sequence ends where its first half throws. -/
theorem bind_error {x : Computation ε σ α} {f : α → Computation ε σ β} {s s' : σ} {e : ε}
    (h : x s = (.error e, s')) : (x >>= f) s = (.error e, s') := by
  rw [bind_apply, h]

/-- A look that has a value hands it to the rest, which starts in the state that was looked at. -/
theorem reads_bind_ok {f : σ → Except ε α} {g : α → Computation ε σ β} {s : σ} {a : α}
    (h : f s = .ok a) : (reads f >>= g) s = g a s :=
  bind_ok (show (f s, s) = _ by rw [h])

/-- A look that throws ends the sequence, with the state as it was. -/
theorem reads_bind_error {f : σ → Except ε α} {g : α → Computation ε σ β} {s : σ} {e : ε}
    (h : f s = .error e) : (reads f >>= g) s = (.error e, s) :=
  bind_error (show (f s, s) = _ by rw [h])

/-- A look before the rest, in one equation. -/
theorem reads_bind (f : σ → Except ε α) (g : α → Computation ε σ β) (s : σ) :
    (reads f >>= g) s = match f s with
      | .ok a => g a s
      | .error e => (.error e, s) := by
  cases h : f s with
  | ok a => exact reads_bind_ok h
  | error e => exact reads_bind_error h

/-- A look that does not throw. -/
theorem look_bind (f : σ → α) (g : α → Computation ε σ β) (s : σ) :
    (reads (fun s => .ok (f s)) >>= g) s = g (f s) s :=
  reads_bind_ok rfl

/-- A change that succeeds puts the new state in place of the old one. -/
theorem updates_ok {f : σ → Except ε σ} {s s' : σ} (h : f s = .ok s') :
    updates f s = (.ok (), s') := by
  unfold updates
  rw [h]

/-- A change that throws has changed nothing: it is a statement of a database, committed as a whole
or not at all. -/
theorem updates_error {f : σ → Except ε σ} {s : σ} {e : ε} (h : f s = .error e) :
    updates f s = (.error e, s) := by
  unfold updates
  rw [h]

/-- Behind a change that succeeds, the rest starts in the new state. -/
theorem updates_bind_ok {f : σ → Except ε σ} {g : Unit → Computation ε σ β} {s s' : σ}
    (h : f s = .ok s') : (updates f >>= g) s = g () s' :=
  bind_ok (updates_ok h)

/-- A change that throws ends the sequence, with the state as it was. -/
theorem updates_bind_error {f : σ → Except ε σ} {g : Unit → Computation ε σ β} {s : σ} {e : ε}
    (h : f s = .error e) : (updates f >>= g) s = (.error e, s) :=
  bind_error (updates_error h)

/-- A sequence returns a value exactly when both halves return, the second one from the state that
the first one has left. -/
theorem bind_returns {x : Computation ε σ α} {f : α → Computation ε σ β} {s s'' : σ} {b : β} :
    (x >>= f) s = (.ok b, s'') ↔ ∃ a s', x s = (.ok a, s') ∧ f a s' = (.ok b, s'') := by
  constructor
  · intro h
    cases hx : x s with
    | mk r s' =>
        cases r with
        | error e =>
            rw [bind_error hx] at h
            cases h
        | ok a =>
            rw [bind_ok hx] at h
            exact ⟨a, s', rfl, h⟩
  · rintro ⟨a, s', hx, h⟩
    rw [bind_ok hx]
    exact h

/-- The only way in which `pure` returns: with its own value, in the state it started from. -/
theorem pure_returns {a b : α} {s s' : σ} :
    (pure a : Computation ε σ α) s = (.ok b, s') ↔ a = b ∧ s = s' := by
  rw [pure_apply, Prod.mk.injEq, Except.ok.injEq]

/-- A look that returns leaves the state. -/
theorem reads_returns {f : σ → Except ε α} {s s' : σ} {a : α} :
    reads f s = (.ok a, s') ↔ f s = .ok a ∧ s' = s := by
  unfold reads
  rw [Prod.mk.injEq]
  exact and_congr_right fun _ => eq_comm

/-- `updates f` returns exactly when `f` succeeds, and the new state is then the one that `f`
gives. -/
theorem updates_returns {f : σ → Except ε σ} {s s' : σ} {u : Unit} :
    updates f s = (.ok u, s') ↔ f s = .ok s' := by
  constructor
  · intro h
    cases hf : f s with
    | error e =>
        rw [updates_error hf] at h
        cases h
    | ok t =>
        rw [updates_ok hf] at h
        cases h
        rfl
  · exact fun h => updates_ok h

/-- A map over a computation concerns its value only. The effects and the exceptions are those of
the computation. -/
theorem map_apply (f : α → β) (x : Computation ε σ α) (s : σ) :
    (f <$> x) s = ((x s).1.map f, (x s).2) := by
  rw [← bind_pure_comp, bind_apply]
  cases hx : x s with
  | mk r s' => cases r <;> rfl

/-- A function of the value does not change how a computation throws. -/
theorem map_eq_error {f : α → β} {x : Computation ε σ α} {s s' : σ} {e : ε}
    (h : (f <$> x) s = (.error e, s')) : x s = (.error e, s') := by
  rw [map_apply] at h
  cases hx : x s with
  | mk r t =>
      rw [hx] at h
      cases r <;> cases h
      rfl

end Computation

/-- However the computation ends, it keeps `P`. -/
def Preserves {ε σ α : Type} (P : σ → Prop) (x : Computation ε σ α) : Prop :=
  ∀ s, P s → P (x s).2

namespace Preserves

open Dcvp.Lib.Computation

variable {ε σ α β : Type} {P : σ → Prop}

/-- A value changes no state, so it keeps every fact. -/
theorem pure (a : α) : Preserves P (Pure.pure a : Computation ε σ α) := fun _ h => h

/-- A look changes no state either, also when it throws. -/
theorem reads (f : σ → Except ε α) : Preserves P (Computation.reads f) := fun _ h => h

/-- The rule for a sequence from one state, where the second half may rest on what the first half
has answered. -/
theorem bind_run {x : Computation ε σ α} {f : α → Computation ε σ β} {s : σ} (hx : P (x s).2)
    (hf : ∀ a s', x s = (.ok a, s') → P s' → P (f a s').2) : P ((x >>= f) s).2 := by
  rw [bind_apply]
  cases hrun : x s with
  | mk r s' =>
      rw [hrun] at hx
      cases r with
      | error e => exact hx
      | ok a => exact hf a s' hrun hx

/-- The rule for a sequence. -/
theorem bind {x : Computation ε σ α} {f : α → Computation ε σ β} (h : Preserves P x)
    (hf : ∀ a, Preserves P (f a)) : Preserves P (x >>= f) :=
  fun s hs => bind_run (h s hs) fun a s' _ => hf a s'

/-- A change keeps the fact when every new state that it can put in place has it. Where it throws,
the old state stays. -/
theorem updates {f : σ → Except ε σ} (h : ∀ s s', P s → f s = .ok s' → P s') :
    Preserves P (Computation.updates f) := by
  intro s hs
  unfold Computation.updates
  cases hf : f s with
  | error e => exact hs
  | ok s' => exact h s s' hs hf

/-- The rule for computations that all run. -/
theorem all {xs : List (Computation ε σ Unit)} (h : ∀ x ∈ xs, Preserves P x) :
    Preserves P (Computation.all xs) := by
  induction xs with
  | nil => exact .pure ()
  | cons x xs ih =>
      have hfirst : Preserves P (attempt x) := fun s hs => h x List.mem_cons_self s hs
      exact .bind hfirst fun first =>
        .bind (ih fun y hy => h y (List.mem_cons_of_mem x hy)) fun _ => .reads _

end Preserves

/-- From `P`, a value comes with `Q`, and an exception with `R`. -/
def Triple {ε σ α : Type} (P : σ → Prop) (x : Computation ε σ α) (Q : α → σ → Prop)
    (R : σ → Prop) : Prop :=
  ∀ s, P s → (∀ a, (x s).1 = .ok a → Q a (x s).2) ∧ (∀ e, (x s).1 = .error e → R (x s).2)

namespace Triple

open Dcvp.Lib.Computation

variable {ε σ α β : Type} {P P' R : σ → Prop} {Q Q' : α → σ → Prop} {S : β → σ → Prop}

/-- What keeps a fact has the triple in which that fact is before, behind a value and behind an
exception. -/
theorem of_preserves {x : Computation ε σ α} (h : Preserves P x) :
    Triple P x (fun _ => P) P := fun s hs => ⟨fun _ _ => h s hs, fun _ _ => h s hs⟩

/-- What holds however a computation ends. -/
theorem final {x : Computation ε σ α} (h : Triple P x (fun _ => R) R) {s : σ} (hs : P s) :
    R (x s).2 := by
  cases hx : (x s).1 with
  | ok a => exact (h s hs).1 a hx
  | error e => exact (h s hs).2 e hx

/-- The rule of consequence. -/
theorem mono {x : Computation ε σ α} {R' : σ → Prop} (h : Triple P x Q R)
    (hP : ∀ s, P' s → P s) (hQ : ∀ a s, Q a s → Q' a s) (hR : ∀ s, R s → R' s) :
    Triple P' x Q' R' :=
  fun s hs => ⟨fun a ha => hQ a _ ((h s (hP s hs)).1 a ha),
    fun e he => hR _ ((h s (hP s hs)).2 e he)⟩

/-- The rule of `pure`: what is to hold behind the value has to hold before. -/
theorem pure (a : α) : Triple (Q a) (Pure.pure a : Computation ε σ α) Q R :=
  fun s hs => ⟨fun _ h => by cases h; exact hs, fun _ h => by cases h⟩

/-- A function of the value changes no state. -/
theorem map {x : Computation ε σ α} {Q : σ → Prop} (f : α → β)
    (h : Triple P x (fun _ => Q) R) : Triple P (f <$> x) (fun _ => Q) R := by
  intro s hs
  obtain ⟨hok, herror⟩ := h s hs
  rw [map_apply]
  cases hx : (x s).1 with
  | ok a => exact ⟨fun _ _ => hok a hx, fun e he => (by cases he)⟩
  | error e => exact ⟨fun b hb => (by cases hb), fun _ _ => herror e hx⟩

/-- The rule of a look. Behind a value the fact may speak of the value, and behind an exception the
state is the one before. -/
theorem reads {f : σ → Except ε α} (hok : ∀ s a, P s → f s = .ok a → Q a s)
    (herror : ∀ s, P s → R s) : Triple P (Computation.reads f) Q R :=
  fun s hs => ⟨fun a h => hok s a hs h, fun _ _ => herror s hs⟩

/-- The rule of a change: its new state has the one fact, and where it throws the old state has the
other. -/
theorem updates {f : σ → Except ε σ} {Q : Unit → σ → Prop}
    (hok : ∀ s s', P s → f s = .ok s' → Q () s') (herror : ∀ s, P s → R s) :
    Triple P (Computation.updates f) Q R := by
  intro s hs
  unfold Computation.updates
  cases hf : f s with
  | error e => exact ⟨fun _ h => (by cases h), fun _ _ => herror s hs⟩
  | ok s' => exact ⟨fun _ _ => hok s s' hs hf, fun _ h => (by cases h)⟩

/-- The rule for a sequence. -/
theorem bind {x : Computation ε σ α} {f : α → Computation ε σ β} (h : Triple P x Q R)
    (hf : ∀ a, Triple (Q a) (f a) S R) : Triple P (x >>= f) S R := by
  intro s hs
  obtain ⟨hok, herror⟩ := h s hs
  rw [bind_apply]
  cases hx : x s with
  | mk r s' =>
      rw [hx] at hok herror
      cases r with
      | ok a => exact hf a s' (hok a rfl)
      | error e => exact ⟨fun b hb => (by cases hb), fun e' _ => herror e rfl⟩

end Triple

/-- A computation that throws leaves the state as it was. -/
def Atomic {ε σ α : Type} (x : Computation ε σ α) : Prop :=
  ∀ s e, (x s).1 = .error e → (x s).2 = s

namespace Atomic

open Dcvp.Lib.Computation

variable {ε σ α β : Type}

/-- A look leaves the state as it was, so it does so when it throws. -/
theorem reads (f : σ → Except ε α) : Atomic (Computation.reads f) := fun _ _ _ => rfl

/-- The rule for a look before the rest. -/
theorem bind_reads {f : σ → Except ε α} {g : α → Computation ε σ β} (h : ∀ a, Atomic (g a)) :
    Atomic (Computation.reads f >>= g) := by
  intro s e
  cases hf : f s with
  | error e' => rw [reads_bind_error hf]; exact fun _ => rfl
  | ok a => rw [reads_bind_ok hf]; exact h a s e

/-- The rule for a change. After it nothing may throw. -/
theorem updates_bind {f : σ → Except ε σ} {g : Unit → Computation ε σ β}
    (h : ∀ s s', f s = .ok s' → ∃ b, (g () s').1 = .ok b) :
    Atomic (Computation.updates f >>= g) := by
  intro s e
  cases hf : f s with
  | error e' => rw [updates_bind_error hf]; exact fun _ => rfl
  | ok s' =>
      rw [updates_bind_ok hf]
      intro hend
      obtain ⟨b, hb⟩ := h s s' hf
      rw [hb] at hend
      cases hend

end Atomic

/-- Each exception of the computation satisfies `E`. -/
def Throws {ε σ α : Type} (E : ε → Prop) (x : Computation ε σ α) : Prop :=
  ∀ s e, (x s).1 = .error e → E e

namespace Throws

open Dcvp.Lib.Computation

variable {ε σ α β : Type} {E : ε → Prop}

/-- A value throws nothing. -/
theorem pure (a : α) : Throws E (Pure.pure a : Computation ε σ α) := fun _ _ h => by cases h

/-- `throw e` throws `e` and nothing else. -/
theorem throw {e : ε} (h : E e) : Throws E (MonadExcept.throw e : Computation ε σ α) := by
  intro s e' he
  cases he
  exact h

/-- A look throws what the function throws on some state. -/
theorem reads {f : σ → Except ε α} (h : ∀ s e, f s = .error e → E e) :
    Throws E (Computation.reads f) := h

/-- A change throws what the function throws on some state. -/
theorem updates {f : σ → Except ε σ} (h : ∀ s e, f s = .error e → E e) :
    Throws E (Computation.updates f) := by
  intro s e
  unfold Computation.updates
  cases hf : f s with
  | error e' =>
      intro he
      cases he
      exact h s e hf
  | ok s' => exact fun he => by cases he

/-- The rule for a sequence. -/
theorem bind {x : Computation ε σ α} {f : α → Computation ε σ β} (h : Throws E x)
    (hf : ∀ a, Throws E (f a)) : Throws E (x >>= f) := by
  intro s e
  rw [bind_apply]
  cases hx : x s with
  | mk r s' =>
      cases r with
      | error e' =>
          intro he
          cases he
          exact h s e (congrArg Prod.fst hx)
      | ok a => exact hf a s' e

/-- The rule for computations that all run: what is thrown at the end was thrown by one of them. By
induction on the computations. -/
theorem all {xs : List (Computation ε σ Unit)} (h : ∀ x ∈ xs, Throws E x) :
    Throws E (Computation.all xs) := by
  induction xs with
  | nil => exact .pure ()
  | cons x xs ih =>
      intro s e he
      have hrest := ih fun y hy => h y (List.mem_cons_of_mem x hy)
      unfold Computation.all at he
      rw [bind_apply] at he
      change ((Computation.all xs >>= fun _ => Computation.reads fun _ => (x s).1) (x s).2).1
        = _ at he
      rw [bind_apply] at he
      cases hrun : Computation.all xs (x s).2 with
      | mk r s' =>
          rw [hrun] at he
          cases r with
          | error e' =>
              cases he
              exact hrest _ e (congrArg Prod.fst hrun)
          | ok _ => exact h x List.mem_cons_self s e he

end Throws

/-- Both throw the same exception, or both answer related values. -/
def SameOutcome {ε α β : Type} (S : α → β → Prop) : Except ε α → Except ε β → Prop
  | .ok a, .ok b => S a b
  | .error e, .error e' => e = e'
  | _, _ => False

/-- With equality for the values, two outcomes are the same exactly when they are equal. -/
theorem sameOutcome_eq {ε α : Type} {x y : Except ε α} :
    SameOutcome (· = ·) x y ↔ x = y := by
  cases x <;> cases y <;> simp [SameOutcome]

/-- A sequence of two steps has the same outcome on both sides when the steps have. -/
theorem SameOutcome.bind {ε α β γ δ : Type} {S : α → β → Prop} {S' : γ → δ → Prop}
    {x : Except ε α} {y : Except ε β} {f : α → Except ε γ} {g : β → Except ε δ}
    (h : SameOutcome S x y) (hf : ∀ a b, S a b → SameOutcome S' (f a) (g b)) :
    SameOutcome S' (x >>= f) (y >>= g) := by
  cases x <;> cases y
  · exact h
  · cases h
  · cases h
  · exact hf _ _ h

/-- Equal outcomes are the same outcome under any reflexive relation of the values. -/
theorem SameOutcome.of_eq {ε α : Type} {S : α → α → Prop} (hS : ∀ a, S a a) {x y : Except ε α}
    (h : x = y) : SameOutcome S x y := by
  subst h
  cases x
  · rfl
  · exact hS _

/-- Two outcomes that become equal are the same up to what makes them equal. -/
theorem sameOutcome_of_map_eq {ε α β γ : Type} {f : α → γ} {g : β → γ} {x : Except ε α}
    {y : Except ε β} (h : f <$> x = g <$> y) : SameOutcome (fun a b => f a = g b) x y := by
  cases x <;> cases y
  · exact Except.error.inj h
  · cases h
  · cases h
  · exact Except.ok.inj h

/-- The two computations do the same, as far as `R` and `S` can see. -/
def Coupled {ε σ τ α β : Type} (R : σ → τ → Prop) (S : α → β → Prop)
    (x : Computation ε σ α) (y : Computation ε τ β) : Prop :=
  ∀ s t, R s t → SameOutcome S (x s).1 (y t).1 ∧ R (x s).2 (y t).2

namespace Coupled

open Dcvp.Lib.Computation

variable {ε σ τ α β γ δ : Type} {R : σ → τ → Prop} {S : α → β → Prop} {S' : γ → δ → Prop}

/-- Two values that are related, from any two related states. -/
theorem pure {a : α} {b : β} (h : S a b) :
    Coupled R S (Pure.pure a : Computation ε σ α) (Pure.pure b) :=
  fun _ _ hR => ⟨h, hR⟩

/-- The same exception on both sides, from any two related states. -/
theorem throw (e : ε) : Coupled R S (MonadExcept.throw e : Computation ε σ α)
    (MonadExcept.throw e : Computation ε τ β) := fun _ _ hR => ⟨rfl, hR⟩

/-- The rule for a sequence: the second halves are coupled for related values. -/
theorem bind {x : Computation ε σ α} {y : Computation ε τ β} {f : α → Computation ε σ γ}
    {g : β → Computation ε τ δ} (h : Coupled R S x y)
    (hf : ∀ a b, S a b → Coupled R S' (f a) (g b)) : Coupled R S' (x >>= f) (y >>= g) := by
  intro s t hR
  obtain ⟨hout, hR'⟩ := h s t hR
  rw [bind_apply, bind_apply]
  cases hx : x s with
  | mk r s' =>
      cases hy : y t with
      | mk q t' =>
          rw [hx, hy] at hout hR'
          cases r <;> cases q
          · exact ⟨hout, hR'⟩
          · cases hout
          · cases hout
          · exact hf _ _ hout s' t' hR'

/-- Two looks are coupled when the functions have the same outcome on related states. The states
themselves stay. -/
theorem reads {f : σ → Except ε α} {g : τ → Except ε β}
    (h : ∀ s t, R s t → SameOutcome S (f s) (g t)) :
    Coupled R S (Computation.reads f) (Computation.reads g) :=
  fun s t hR => ⟨h s t hR, hR⟩

/-- Two changes are coupled when they throw the same on related states, and otherwise put related
states in place. -/
theorem updates {f : σ → Except ε σ} {g : τ → Except ε τ}
    (h : ∀ s t, R s t → SameOutcome R (f s) (g t)) :
    Coupled R Eq (Computation.updates f) (Computation.updates g) := by
  intro s t hR
  have hout := h s t hR
  unfold Computation.updates
  cases hf : f s <;> cases hg : g t <;> rw [hf, hg] at hout
  · exact ⟨hout, hR⟩
  · cases hout
  · cases hout
  · exact ⟨rfl, hout⟩

end Coupled

end Dcvp.Lib
