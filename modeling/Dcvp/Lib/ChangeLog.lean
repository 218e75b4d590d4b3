import Dcvp.Lib.Machine

/-!
# `Dcvp.Lib.ChangeLog`: changes that last until they are superseded

A machine makes changes as it runs. `Machine.trace` is the list of all changes of a run, in
the order in which they were made. `Machine.logging` keeps this list beside the state, so that
a condition of a step can refer to the changes before it.

`Survives` says of a list of changes that each is visible, or was superseded by a later one
of the list. This is what is left of a change in a store that loses none. `survives_run` is
the rule for runs: it suffices that each step makes its own changes visible, and that a
change that it takes out of sight is superseded by one of them.
-/

set_option autoImplicit false

namespace Dcvp.Lib

variable {σ ε α : Type}

/-- The changes of a run, where `changes` has those of one step. -/
def Machine.trace (M : Machine σ ε) (changes : σ → ε → List α) : σ → List ε → List α
  | _, [] => []
  | s, e :: es =>
      changes s e ++
        match M.step s e with
        | some s' => M.trace changes s' es
        | none => []

/-- A fact about the changes so far and the state, kept by every step that meets `C`. -/
theorem Machine.trace_invariant {M : Machine σ ε} {changes : σ → ε → List α}
    {C : σ → ε → Prop} {I : List α → σ → Prop}
    (hstep : ∀ log s e s', I log s → C s e → M.step s e = some s' →
      I (log ++ changes s e) s') :
    ∀ (es : List ε) (log : List α) (s t : σ), I log s → M.Meets C s es →
      M.run s es = some t → I (log ++ M.trace changes s es) t := by
  intro es
  induction es with
  | nil =>
      intro log s t hs _ h
      cases h
      show I (log ++ []) s
      rwa [List.append_nil]
  | cons e es ih =>
      intro log s t hs hm h
      obtain ⟨s', hnext, hrest⟩ := (Machine.run_cons_eq_some s t e es).mp h
      have hs' := hstep log s e s' hs hm.1 hnext
      have ht := ih (log ++ changes s e) s' t hs' (hm.2 s' hnext) hrest
      simpa [Machine.trace, hnext] using ht

/-- The machine that keeps the changes so far beside its state. -/
def Machine.logging (M : Machine σ ε) (changes : σ → ε → List α) : Machine (σ × List α) ε where
  step s e := (M.step s.1 e).map fun s' => (s', s.2 ++ changes s.1 e)

/-- A step of the machine with a log is a step of the machine below, and the log grows by the
changes of that step. So nothing that was logged is ever taken out again. -/
theorem Machine.logging_step {M : Machine σ ε} {changes : σ → ε → List α} {s s' : σ × List α}
    {e : ε} : (M.logging changes).step s e = some s' ↔
      M.step s.1 e = some s'.1 ∧ s'.2 = s.2 ++ changes s.1 e := by
  obtain ⟨t, log⟩ := s
  obtain ⟨t', log'⟩ := s'
  simp [Machine.logging, eq_comm]

/-- Each change of the list is visible, or a later one of the list supersedes it. -/
def Survives (visible : α → Prop) (supersedes : α → α → Prop) (log : List α) : Prop :=
  ∀ before change after, log = before ++ change :: after →
    visible change ∨ ∃ later ∈ after, supersedes later change

namespace Survives

variable {visible visible' : α → Prop} {supersedes : α → α → Prop} {log new : List α}

/-- Before the first change nothing has to survive. -/
theorem nil : Survives visible supersedes ([] : List α) := by
  intro before change after h
  simp at h

/-- Each change is visible, or the last one that supersedes it is. -/
theorem visible_or_superseded (h : Survives visible supersedes log)
    (htrans : ∀ x y z, supersedes x y → supersedes y z → supersedes x z) {change : α}
    (hmem : change ∈ log) :
    visible change ∨ ∃ last ∈ log, visible last ∧ supersedes last change := by
  obtain ⟨before, after, hlog⟩ := List.append_of_mem hmem
  -- The induction is on what follows the change in the list.
  induction hn : after.length using Nat.strongRecOn generalizing before change after with
  | _ n ih =>
    rcases h before change after hlog with hvisible | ⟨later, hlater, hsup⟩
    · exact Or.inl hvisible
    · obtain ⟨between, rest, rfl⟩ := List.append_of_mem hlater
      have hlater' : later ∈ log := by rw [hlog]; simp
      have hlog' : log = (before ++ change :: between) ++ later :: rest := by
        rw [hlog, List.append_assoc, List.cons_append]
      have hshorter : rest.length < n := by
        rw [← hn, List.length_append, List.length_cons]
        omega
      rcases ih rest.length hshorter hlater' _ rest hlog' rfl with
        hvisible | ⟨last, hlast, hvisible, hsup'⟩
      · exact Or.inr ⟨later, hlater', hvisible, hsup⟩
      · exact Or.inr ⟨last, hlast, hvisible, htrans _ _ _ hsup' hsup⟩

/-- Changes are added at the end. The old ones stay visible or are superseded by the new ones,
which are all visible. -/
theorem append (h : Survives visible supersedes log)
    (hold : ∀ change ∈ log, visible change →
      visible' change ∨ ∃ later ∈ new, supersedes later change)
    (hnew : ∀ change ∈ new, visible' change) :
    Survives visible' supersedes (log ++ new) := by
  intro before change after hsplit
  rcases List.append_eq_append_iff.mp hsplit.symm with ⟨mid, hlog, hafter⟩ | ⟨mid, hbefore, hnew'⟩
  · -- The list is cut inside the old changes, or right behind them.
    cases mid with
    | nil =>
        rw [List.nil_append] at hafter
        exact Or.inl (hnew change (by rw [← hafter]; exact List.mem_cons_self))
    | cons first mid =>
        obtain ⟨rfl, rfl⟩ := List.cons.inj hafter
        rcases h before change mid hlog with hvisible | ⟨later, hlater, hsup⟩
        · have hmem : change ∈ log := by rw [hlog]; simp
          rcases hold change hmem hvisible with hvisible' | ⟨later, hlater, hsup⟩
          · exact Or.inl hvisible'
          · exact Or.inr ⟨later, List.mem_append_right _ hlater, hsup⟩
        · exact Or.inr ⟨later, List.mem_append_left _ hlater, hsup⟩
  · exact Or.inl (hnew change (by rw [hnew']; simp))

end Survives

/-- The rule for runs: under `C`, a step makes its own changes visible, and supersedes with
them every change that it takes out of sight. -/
theorem survives_run {M : Machine σ ε} {changes : σ → ε → List α} {C : σ → ε → Prop}
    (visible : σ → α → Prop) {supersedes : α → α → Prop}
    (hold : ∀ s e s', C s e → M.step s e = some s' → ∀ change, visible s change →
      visible s' change ∨ ∃ later ∈ changes s e, supersedes later change)
    (hnew : ∀ s e s', C s e → M.step s e = some s' → ∀ change ∈ changes s e, visible s' change)
    (es : List ε) (s t : σ) (hm : M.Meets C s es) (h : M.run s es = some t) :
    Survives (visible t) supersedes (M.trace changes s es) := by
  have hstep : ∀ log s e s', Survives (visible s) supersedes log → C s e →
      M.step s e = some s' → Survives (visible s') supersedes (log ++ changes s e) := by
    intro log s e s' hlog hc hs'
    exact hlog.append (fun change _ => hold s e s' hc hs' change) (hnew s e s' hc hs')
  exact Machine.trace_invariant (I := fun log s => Survives (visible s) supersedes log) hstep
    es [] s t Survives.nil hm h

end Dcvp.Lib
