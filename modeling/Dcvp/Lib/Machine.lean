import Mathlib.Data.Option.Basic
import Mathlib.Data.List.Induction

/-!
# `Dcvp.Lib.Machine`: partial deterministic machines and their runs

A `Machine` answers each event with the next state, or with `none` when the event cannot
happen in that state. `run` performs a list of events. The choice of the event list is the
only nondeterminism, so a statement about every run is a statement about every schedule.

The induction on the event list is done once, here:

* `invariant`: what every step keeps, every run keeps;
* `history_invariant`: the same for a fact that relates the state to the events so far. The
  induction is on the last event, because a history grows at its end;
* `guarded_invariant`, `guarded_history_invariant`: the same for a run whose steps all meet a
  condition (`Meets`);
* `guarded_meets`, `meets_of_meets`: from one condition of the steps to another one;
* `always_iff_meets`: when a safe state stays safe exactly under the condition, then a run
  passes through safe states only exactly when all of its steps meet the condition.
-/

set_option autoImplicit false

namespace Dcvp.Lib

/-- A machine with states `σ` and events `ε`. -/
structure Machine (σ ε : Type) where
  /-- The state after an event, or `none` when the event cannot happen. -/
  step : σ → ε → Option σ

namespace Machine

variable {σ ε : Type} (M : Machine σ ε)

/-- The state after a list of events. -/
def run : σ → List ε → Option σ
  | s, [] => some s
  | s, e :: es => (M.step s e).bind fun s' => run s' es

/-- Every step of the run from `s` meets the condition `C`. -/
def Meets (C : σ → ε → Prop) : σ → List ε → Prop
  | _, [] => True
  | s, e :: es => C s e ∧ ∀ s', M.step s e = some s' → Meets C s' es

/-- Every state that the run from `s` passes through, `s` included, satisfies `S`. -/
def Always (S : σ → Prop) : σ → List ε → Prop
  | s, [] => S s
  | s, e :: es => S s ∧ ∀ s', M.step s e = some s' → Always S s' es

variable {M}

/-- Nothing happens in the empty run. -/
@[simp] theorem run_nil (s : σ) : M.run s [] = some s := rfl

/-- A run with a first event: that event is a step from the start, and the rest is a run from
there. -/
theorem run_cons_eq_some (s t : σ) (e : ε) (es : List ε) :
    M.run s (e :: es) = some t ↔ ∃ s', M.step s e = some s' ∧ M.run s' es = some t := by
  rw [run, Option.bind_eq_some_iff]

/-- A run over two event lists is two runs. -/
theorem run_append (s : σ) (es fs : List ε) :
    M.run s (es ++ fs) = (M.run s es).bind fun s' => M.run s' fs := by
  induction es generalizing s with
  | nil => rfl
  | cons e es ih =>
      show (M.step s e).bind (fun s' => M.run s' (es ++ fs)) = _
      cases h : M.step s e with
      | none => simp [run, h]
      | some s' => simp [run, h, ih]

/-- A run of two parts passes through a state between them, which the first part reaches and the
second one starts from. -/
theorem run_append_eq_some (s t : σ) (es fs : List ε) :
    M.run s (es ++ fs) = some t ↔ ∃ s', M.run s es = some s' ∧ M.run s' fs = some t := by
  rw [run_append, Option.bind_eq_some_iff]

/-- The last event of a run. -/
theorem run_concat_eq_some (s t : σ) (es : List ε) (e : ε) :
    M.run s (es ++ [e]) = some t ↔ ∃ s', M.run s es = some s' ∧ M.step s' e = some t := by
  rw [run_append_eq_some]
  simp [run]

/-- A property that every step keeps holds at the end of every run that starts with it. -/
theorem invariant {I : σ → Prop}
    (hstep : ∀ s e s', I s → M.step s e = some s' → I s') :
    ∀ (es : List ε) (s t : σ), I s → M.run s es = some t → I t := by
  intro es
  induction es with
  | nil => intro s t hs h; cases h; exact hs
  | cons e es ih =>
      intro s t hs h
      obtain ⟨s', h1, h2⟩ := (run_cons_eq_some s t e es).mp h
      exact ih s' t (hstep s e s' hs h1) h2

/-- A fact about the history and the state, kept by every step, holds after every run. -/
theorem history_invariant {P : List ε → σ → Prop} {s : σ} (hinit : P [] s)
    (hstep : ∀ es s' e t, P es s' → M.step s' e = some t → P (es ++ [e]) t) :
    ∀ (es : List ε) (t : σ), M.run s es = some t → P es t := by
  intro es
  induction es using List.reverseRecOn with
  | nil => intro t h; cases h; exact hinit
  | append_singleton es e ih =>
      intro t h
      obtain ⟨s', h1, h2⟩ := (run_concat_eq_some s t es e).mp h
      exact hstep es s' e t (ih s' h1) h2

/-- What every step that meets `C` keeps, every run whose steps meet `C` keeps. -/
theorem guarded_invariant {C : σ → ε → Prop} {I : σ → Prop}
    (hstep : ∀ s e s', I s → C s e → M.step s e = some s' → I s') :
    ∀ (es : List ε) (s t : σ), I s → M.Meets C s es → M.run s es = some t → I t := by
  intro es
  induction es with
  | nil => intro s t hs _ h; cases h; exact hs
  | cons e es ih =>
      intro s t hs hm h
      obtain ⟨s', h1, h2⟩ := (run_cons_eq_some s t e es).mp h
      exact ih s' t (hstep s e s' hs hm.1 h1) (hm.2 s' h1) h2

/-- Under an invariant that steps meeting `C` keep, a condition `C` of the steps that implies
another one implies it for every run. -/
theorem guarded_meets {I : σ → Prop} {C D : σ → ε → Prop}
    (hI : ∀ s e s', I s → C s e → M.step s e = some s' → I s')
    (hCD : ∀ s e, I s → C s e → D s e) :
    ∀ (es : List ε) (s : σ), I s → M.Meets C s es → M.Meets D s es := by
  intro es
  induction es with
  | nil => intro s _ _; trivial
  | cons e es ih =>
      rintro s hs ⟨hc, hrest⟩
      exact ⟨hCD s e hs hc, fun s' h => ih s' (hI s e s' hs hc h) (hrest s' h)⟩

/-- The same under an invariant that every step keeps. -/
theorem meets_of_meets {I : σ → Prop} {C D : σ → ε → Prop}
    (hI : ∀ s e s', I s → M.step s e = some s' → I s') (hCD : ∀ s e, I s → C s e → D s e)
    (es : List ε) (s : σ) (hs : I s) (h : M.Meets C s es) : M.Meets D s es :=
  M.guarded_meets (fun s e s' hs _ hstep => hI s e s' hs hstep) hCD es s hs h

/-- From one condition of the events of a run to another one. -/
theorem meets_mono_of_mem {C D : σ → ε → Prop} {es : List ε} {s : σ}
    (hCD : ∀ e ∈ es, ∀ s, C s e → D s e) (h : M.Meets C s es) : M.Meets D s es := by
  induction es generalizing s with
  | nil => trivial
  | cons e es ih =>
      exact ⟨hCD e List.mem_cons_self s h.1,
        fun s' hs' => ih (fun f hf => hCD f (List.mem_cons_of_mem e hf)) (h.2 s' hs')⟩

/-- A condition that each event of the list meets everywhere. -/
theorem meets_of_forall {C : σ → ε → Prop} {es : List ε} {s : σ}
    (h : ∀ e ∈ es, ∀ s, C s e) : M.Meets C s es := by
  induction es generalizing s with
  | nil => trivial
  | cons e es ih =>
      exact ⟨h e List.mem_cons_self s,
        fun s' _ => ih fun f hf => h f (List.mem_cons_of_mem e hf)⟩

/-- Two conditions of the steps. -/
theorem Meets.and {C D : σ → ε → Prop} {es : List ε} {s : σ} (hC : M.Meets C s es)
    (hD : M.Meets D s es) : M.Meets (fun s e => C s e ∧ D s e) s es := by
  induction es generalizing s with
  | nil => trivial
  | cons e es ih => exact ⟨⟨hC.1, hD.1⟩, fun s' hs' => ih (hC.2 s' hs') (hD.2 s' hs')⟩

/-- A condition that every step of a run meets is met by both halves of it, the second from the
state that the first one reaches. -/
theorem Meets.after {C : σ → ε → Prop} {s t : σ} {es fs : List ε} (h : M.Meets C s (es ++ fs))
    (hrun : M.run s es = some t) : M.Meets C s es ∧ M.Meets C t fs := by
  induction es generalizing s with
  | nil =>
      cases hrun
      exact ⟨trivial, h⟩
  | cons e es ih =>
      obtain ⟨s', hstep, hrest⟩ := (run_cons_eq_some s t e es).mp hrun
      obtain ⟨hes, hfs⟩ := ih (h.2 s' hstep) hrest
      refine ⟨⟨h.1, fun s'' hs'' => ?_⟩, hfs⟩
      rw [hstep] at hs''
      cases hs''
      exact hes

/-- A fact about the history, kept by every step that meets `C`, holds after every run whose
steps meet `C`. -/
theorem guarded_history_invariant {C : σ → ε → Prop} {P : List ε → σ → Prop} {s : σ}
    (hinit : P [] s)
    (hstep : ∀ es s' e t, M.run s es = some s' → P es s' → C s' e → M.step s' e = some t →
      P (es ++ [e]) t) :
    ∀ (es : List ε) (t : σ), M.Meets C s es → M.run s es = some t → P es t := by
  intro es
  induction es using List.reverseRecOn with
  | nil => intro t _ h; cases h; exact hinit
  | append_singleton es e ih =>
      intro t hm h
      obtain ⟨s', h1, h2⟩ := (run_concat_eq_some s t es e).mp h
      obtain ⟨hes, he⟩ := Meets.after hm h1
      exact hstep es s' e t h1 (ih s' hes h1) he.1 h2

/-- The condition holds at each step of the run. -/
theorem Meets.at {C : σ → ε → Prop} {s t : σ} {es fs : List ε} {e : ε}
    (h : M.Meets C s (es ++ e :: fs)) (hrun : M.run s es = some t) : C t e := by
  induction es generalizing s with
  | nil =>
      cases hrun
      exact h.1
  | cons f es ih =>
      obtain ⟨s', hstep, hrest⟩ := (run_cons_eq_some s t f es).mp hrun
      exact ih (h.2 s' hstep) hrest

/-- A decidable condition can be decided along a run. -/
instance decidableMeets {C : σ → ε → Prop} [∀ s e, Decidable (C s e)] :
    ∀ (s : σ) (es : List ε), Decidable (M.Meets C s es)
  | _, [] => isTrue trivial
  | s, e :: es =>
      match h : M.step s e with
      | none => decidable_of_iff (C s e) ⟨fun hc => ⟨hc, fun s' hs' => by simp [h] at hs'⟩,
          fun hm => hm.1⟩
      | some s' =>
          have := decidableMeets (C := C) s' es
          decidable_of_iff (C s e ∧ M.Meets C s' es)
            ⟨fun hm => ⟨hm.1, fun t ht => by rw [h] at ht; cases ht; exact hm.2⟩,
              fun hm => ⟨hm.1, hm.2 s' h⟩⟩

/-- The run of `es` from `s` makes the event `e` in the state `t`, after the events `before`. -/
structure Makes (M : Machine σ ε) (s : σ) (es before : List ε) (e : ε) (t : σ) : Prop where
  within : before ++ [e] <+: es
  reaches : M.run s before = some t

/-- What a run makes, each longer run makes. -/
theorem Makes.mono {s t : σ} {es es' before : List ε} {e : ε} (h : M.Makes s es before e t)
    (hes : es <+: es') : M.Makes s es' before e t :=
  ⟨h.within.trans hes, h.reaches⟩

/-- The last event of a run. -/
theorem makes_concat {s t : σ} {es : List ε} (h : M.run s es = some t) (e : ε) :
    M.Makes s (es ++ [e]) es e t :=
  ⟨List.prefix_rfl, h⟩

/-- What a run makes, it makes before its last event, or it is the last event. -/
theorem Makes.concat_cases {s t : σ} {es before : List ε} {e e' : ε}
    (h : M.Makes s (es ++ [e']) before e t) :
    M.Makes s es before e t ∨ (before = es ∧ e = e' ∧ M.run s es = some t) := by
  rcases List.prefix_concat_iff.mp h.within with heq | hwithin
  · obtain ⟨rfl, hlast⟩ := List.append_inj' heq rfl
    exact Or.inr ⟨rfl, List.singleton_inj.mp hlast, h.reaches⟩
  · exact Or.inl ⟨hwithin, h.reaches⟩

/-- The exact condition. `I` holds in every state of the run. From a safe state under `I`,
a step leads to a safe state exactly when it meets `C`. Then the run stays in safe states
exactly when each step that happens meets `C`. -/
theorem always_iff_meets {I S : σ → Prop} {C : σ → ε → Prop}
    (hI : ∀ s e s', I s → M.step s e = some s' → I s')
    (hS : ∀ s e s', I s → S s → M.step s e = some s' → (S s' ↔ C s e)) :
    ∀ (es : List ε) (s t : σ), I s → S s → M.run s es = some t →
      (M.Always S s es ↔ M.Meets C s es) := by
  -- Induction on the events, with the invariant `I` and the safety of the present state carried
  -- along: `hS` compares the condition of a step with the safety of the state after it.
  intro es
  induction es with
  | nil =>
      intro s t _ hs _
      exact ⟨fun _ => trivial, fun _ => hs⟩
  | cons e es ih =>
      intro s t hi hs h
      obtain ⟨s', h1, h2⟩ := (run_cons_eq_some s t e es).mp h
      have hiff := hS s e s' hi hs h1
      constructor
      · rintro ⟨-, hrest⟩
        have ha := hrest s' h1
        -- `Always` of the rest of the run begins with the state after the step.
        have hs' : S s' := by
          cases es with
          | nil => exact ha
          | cons _ _ => exact ha.1
        refine ⟨hiff.mp hs', fun u hu => ?_⟩
        rw [h1] at hu
        cases hu
        exact (ih s' t (hI s e s' hi h1) hs' h2).mp ha
      · rintro ⟨hc, hrest⟩
        refine ⟨hs, fun u hu => ?_⟩
        rw [h1] at hu
        cases hu
        exact (ih s' t (hI s e s' hi h1) (hiff.mpr hc) h2).mpr (hrest s' h1)

end Machine

end Dcvp.Lib
