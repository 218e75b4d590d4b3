import Dcvp.Lib.Table

/-!
# `Dcvp.Lib.OncePer`: at most one open row in each group

`OncePer isOpen group rows` says that no two rows that are open are of one group. The rules say
what the statements of a table do to it.
* What opens no row keeps it (`OncePer.of_open`). `OpenFrom` is the relation of such a statement,
  and changes of rows and removals have it.
* An insertion keeps it exactly when no open row of the group is there
  (`oncePer_insert?_iff`), that is, when the lookup for such a row finds nothing
  (`oncePer_insert?_findFirst_iff`).
-/

set_option autoImplicit false

namespace Dcvp.Lib

variable {κ ρ γ : Type}

/-- At most one open row in each group. -/
def OncePer (isOpen : ρ → Bool) (group : ρ → γ) (rows : List ρ) : Prop :=
  ∀ r ∈ rows, ∀ r' ∈ rows, isOpen r = true → isOpen r' = true → group r = group r' → r = r'

instance [DecidableEq ρ] [DecidableEq γ] (isOpen : ρ → Bool) (group : ρ → γ) (rows : List ρ) :
    Decidable (OncePer isOpen group rows) :=
  inferInstanceAs (Decidable (∀ r ∈ rows, ∀ r' ∈ rows, isOpen r = true → isOpen r' = true →
    group r = group r' → r = r'))

variable {isOpen : ρ → Bool} {group : ρ → γ} {rows rows' : List ρ}

/-- Every open row of the second list is one of the first. -/
def OpenFrom (isOpen : ρ → Bool) (rows rows' : List ρ) : Prop :=
  ∀ r ∈ rows', isOpen r = true → r ∈ rows

/-- The same rows. -/
theorem OpenFrom.refl (isOpen : ρ → Bool) (rows : List ρ) : OpenFrom isOpen rows rows :=
  fun _ h _ => h

/-- One statement after the other. -/
theorem OpenFrom.trans {rows₁ : List ρ} (h : OpenFrom isOpen rows rows₁)
    (h' : OpenFrom isOpen rows₁ rows') : OpenFrom isOpen rows rows' :=
  fun r hr hopen => h r (h' r hr hopen) hopen

/-- Where every open row was there before, there are not more of them. -/
theorem OncePer.of_open (h : OncePer isOpen group rows) (hold : OpenFrom isOpen rows rows') :
    OncePer isOpen group rows' := by
  intro r hr r' hr' hopen hopen' hgroup
  exact h r (hold r hr hopen) r' (hold r' hr' hopen') hopen hopen' hgroup

/-- A new open row keeps the rows at most one per group exactly when no open row of its group is
there yet. -/
theorem oncePer_concat_iff {row : ρ} (h : OncePer isOpen group rows) (hopen : isOpen row = true)
    (hnew : row ∉ rows) :
    OncePer isOpen group (rows ++ [row]) ↔
      ∀ r ∈ rows, isOpen r = true → group r ≠ group row := by
  constructor
  · intro honce r hr hopen' hgroup
    have heq : r = row := honce r (List.mem_append_left _ hr) row
      (List.mem_append_right _ List.mem_cons_self) hopen' hopen hgroup
    exact hnew (heq ▸ hr)
  · intro hfree r hr r' hr' hopenR hopenR' hgroup
    rcases List.mem_append.mp hr with hr | hr
    · rcases List.mem_append.mp hr' with hr' | hr'
      · exact h r hr r' hr' hopenR hopenR' hgroup
      · rw [List.mem_singleton.mp hr'] at hgroup
        exact absurd hgroup (hfree r hr hopenR)
    · rw [List.mem_singleton.mp hr] at hgroup ⊢
      rcases List.mem_append.mp hr' with hr' | hr'
      · exact absurd hgroup.symm (hfree r' hr' hopenR')
      · exact (List.mem_singleton.mp hr').symm

variable {key : ρ → κ}

/-- A change that leaves no changed row open opens no row. -/
theorem OpenFrom.updateMany {t : Table key} {p : ρ → Bool} {f : ρ → ρ}
    (hf : ∀ r, key (f r) = key r) (hclosed : ∀ r, isOpen (f r) = false) :
    OpenFrom isOpen t.rows (t.updateMany p f hf).rows := by
  intro r hr hopen
  obtain ⟨old, hold, rfl⟩ := List.mem_map.mp hr
  by_cases hp : p old = true
  · rw [if_pos hp, hclosed] at hopen
    cases hopen
  · rw [if_neg hp]
    exact hold

/-- A removal opens no row. -/
theorem OpenFrom.deleteMany (t : Table key) (p : ρ → Bool) :
    OpenFrom isOpen t.rows (t.deleteMany p).rows :=
  fun _ hr _ => (List.mem_filter.mp hr).1

/-- An insertion of an open row keeps one open row per group exactly when its group has no open row
yet. -/
theorem oncePer_insert?_iff [DecidableEq κ] {t t' : Table key} {row : ρ}
    (h : OncePer isOpen group t.rows) (hopen : isOpen row = true)
    (hinsert : t.insert? row = some t') :
    OncePer isOpen group t'.rows ↔ ∀ r ∈ t.rows, isOpen r = true → group r ≠ group row := by
  rw [Table.rows_insert? hinsert]
  refine oncePer_concat_iff h hopen fun hmem => ?_
  have hfree := Table.find?_of_insert? hinsert
  rw [Table.find?_of_mem hmem] at hfree
  cases hfree

/-- An insertion of an open row, after a lookup for an open row of its group. -/
theorem oncePer_insert?_findFirst_iff [DecidableEq κ] {t t' : Table key} {row : ρ} {p : ρ → Bool}
    (h : OncePer isOpen group t.rows) (hopen : isOpen row = true)
    (hlooks : ∀ r, p r = true ↔ isOpen r = true ∧ group r = group row)
    (hinsert : t.insert? row = some t') :
    OncePer isOpen group t'.rows ↔ t.findFirst p = none := by
  have hnone : t.findFirst p = none ↔ ∀ r ∈ t.rows, p r ≠ true := List.find?_eq_none
  rw [oncePer_insert?_iff h hopen hinsert, hnone]
  refine forall₂_congr fun r _ => ?_
  rw [ne_eq, ne_eq, hlooks, not_and]

end Dcvp.Lib
