import Mathlib.Data.List.Basic
import Mathlib.Data.List.Nodup

/-!
# `Dcvp.Lib.Table`: a table of rows with a primary key

`Table key` is the row list of a database table whose primary key is read by `key`. The
field `nodup` says that no key occurs twice, so a table with two rows of one key cannot be
built. An update takes a function together with a proof that it keeps the key.

A proof about a table goes through `find?`: `find?_eq_some_iff` turns a lookup into
membership, and `find?_insert`, `find?_updateMany` and `find?_delete` say what a write does
to each lookup.
-/

set_option autoImplicit false

namespace Dcvp.Lib

/-- Rows with pairwise different keys, oldest row first. -/
structure Table {κ ρ : Type} (key : ρ → κ) where
  /-- The rows. -/
  rows : List ρ
  /-- No key occurs twice. -/
  nodup : (rows.map key).Nodup

namespace Table

variable {κ ρ : Type} {key : ρ → κ}

/-- The table without rows. -/
def empty : Table key := ⟨[], List.nodup_nil⟩

/-- The table with one row. -/
def single (row : ρ) : Table key := ⟨[row], List.nodup_singleton (key row)⟩

/-- The number of rows that satisfy `p`. -/
def count (t : Table key) (p : ρ → Bool) : Nat := t.rows.countP p

/-- The oldest row that satisfies `p`. -/
def findFirst (t : Table key) (p : ρ → Bool) : Option ρ := t.rows.find? p

/-- Change every row that satisfies `p`. -/
def updateMany (t : Table key) (p : ρ → Bool) (f : ρ → ρ) (hf : ∀ r, key (f r) = key r) :
    Table key :=
  ⟨t.rows.map fun r => if p r then f r else r, by
    rw [List.map_map]
    have hkeys : (key ∘ fun r => if p r then f r else r) = key := by
      funext r
      by_cases h : p r <;> simp [h, hf]
    rw [hkeys]
    exact t.nodup⟩

/-- A column that an update keeps: `updateMany` makes these rows. -/
theorem map_updated {α : Type} {rows : List ρ} {p : ρ → Bool} {f : ρ → ρ} {column : ρ → α}
    (hcolumn : ∀ r, column (f r) = column r) :
    (rows.map fun r => if p r then f r else r).map column = rows.map column := by
  rw [List.map_map]
  refine List.map_congr_left fun row _ => ?_
  by_cases hp : p row = true <;> simp [hp, hcolumn]

/-- Remove every row that satisfies `p`. -/
def deleteMany (t : Table key) (p : ρ → Bool) : Table key :=
  ⟨t.rows.filter fun r => !p r, (List.filter_sublist.map key).nodup t.nodup⟩

variable [DecidableEq κ]

/-- The row with key `k`. -/
def find? (t : Table key) (k : κ) : Option ρ := t.rows.find? fun r => key r = k

/-- Add a row at the end, if its key is not taken. -/
def insert? (t : Table key) (r : ρ) : Option (Table key) :=
  if h : key r ∈ t.rows.map key then none
  else some ⟨t.rows ++ [r], by
    rw [List.map_append, List.map_singleton]
    exact t.nodup.append (List.nodup_singleton _) (List.disjoint_singleton.mpr h)⟩

/-- A lookup finds a row exactly when the row is in the table and has the key. -/
theorem find?_eq_some_iff (t : Table key) (k : κ) (r : ρ) :
    t.find? k = some r ↔ r ∈ t.rows ∧ key r = k := by
  unfold find?
  constructor
  · intro h
    exact ⟨List.mem_of_find?_eq_some h, by simpa using List.find?_some h⟩
  · rintro ⟨hmem, rfl⟩
    cases hfind : t.rows.find? fun r' => key r' = key r with
    | none =>
        rw [List.find?_eq_none] at hfind
        exact absurd (decide_eq_true rfl) (hfind r hmem)
    | some r' =>
        have hk : key r' = key r := by simpa using List.find?_some hfind
        have hmem' := List.mem_of_find?_eq_some hfind
        rw [List.inj_on_of_nodup_map t.nodup hmem' hmem hk]

/-- A lookup finds nothing exactly when no row has the key. -/
theorem find?_eq_none_iff (t : Table key) (k : κ) :
    t.find? k = none ↔ ∀ r ∈ t.rows, key r ≠ k := by
  simp [find?]

/-- The key of a row that a lookup finds. -/
theorem key_of_find? {t : Table key} {k : κ} {r : ρ} (h : t.find? k = some r) : key r = k :=
  ((t.find?_eq_some_iff k r).mp h).2

/-- A row of the table is found under its key. -/
theorem find?_of_mem {t : Table key} {r : ρ} (h : r ∈ t.rows) : t.find? (key r) = some r :=
  (t.find?_eq_some_iff (key r) r).mpr ⟨h, rfl⟩

/-- A lookup after a change of many rows finds the row it found before, changed when the row is one
of those that are selected. -/
theorem find?_updateMany (t : Table key) (p : ρ → Bool) (f : ρ → ρ)
    (hf : ∀ r, key (f r) = key r) (k : κ) :
    (t.updateMany p f hf).find? k = (t.find? k).map fun r => if p r then f r else r := by
  have hkeys : ∀ r, (decide (key (if p r then f r else r) = k)) = decide (key r = k) := by
    intro r
    by_cases h : p r <;> simp [h, hf]
  unfold find? updateMany
  rw [List.find?_map]
  congr 1
  exact congrArg (fun q => List.find? q t.rows) (funext hkeys)

/-- A lookup after a removal of rows. -/
theorem find?_deleteMany (t : Table key) (p : ρ → Bool) (k : κ) :
    (t.deleteMany p).find? k = (t.find? k).filter fun r => !p r := by
  apply Option.ext
  intro r
  rw [find?_eq_some_iff, Option.filter_eq_some_iff, find?_eq_some_iff]
  simp only [deleteMany, List.mem_filter]
  tauto

/-- A lookup after an insertion finds the new row under its key, and every other row as before. -/
theorem find?_insert? {t t' : Table key} {r : ρ} (h : t.insert? r = some t') (k : κ) :
    t'.find? k = if key r = k then some r else t.find? k := by
  unfold insert? at h
  split at h
  · cases h
  · rename_i hfresh
    cases h
    show List.find? _ (t.rows ++ [r]) = _
    rw [List.find?_append]
    by_cases hk : key r = k
    · have hnone : t.rows.find? (fun r => key r = k) = none := by
        rw [List.find?_eq_none]
        intro r' hr' hk'
        exact hfresh (List.mem_map.mpr ⟨r', hr', (of_decide_eq_true hk').trans hk.symm⟩)
      simp [hnone, hk]
    · simp [find?, hk]

/-- A row is inserted only under a key that no row of the table has. -/
theorem find?_of_insert? {t t' : Table key} {r : ρ} (h : t.insert? r = some t') :
    t.find? (key r) = none := by
  unfold insert? at h
  split at h
  · cases h
  · rename_i hfresh
    rw [find?_eq_none_iff]
    intro r' hr' hk
    exact hfresh (List.mem_map.mpr ⟨r', hr', hk⟩)

/-- A row whose key is free can be inserted: `insert?` fails for no other reason. -/
theorem insert?_of_free {t : Table key} {r : ρ} (hfree : t.find? (key r) = none) :
    ∃ t', t.insert? r = some t' := by
  have hnot : key r ∉ t.rows.map key := by
    intro hmem
    obtain ⟨r', hr', hkey⟩ := List.mem_map.mp hmem
    exact (t.find?_eq_none_iff (key r)).mp hfree r' hr' hkey
  unfold insert?
  rw [dif_neg hnot]
  exact ⟨_, rfl⟩

/-- The rows after an insertion. -/
theorem rows_insert? {t t' : Table key} {r : ρ} (h : t.insert? r = some t') :
    t'.rows = t.rows ++ [r] := by
  unfold insert? at h
  split at h
  · cases h
  · cases h
    rfl

/-! ### What holds of all rows -/

omit [DecidableEq κ] in
/-- What a change of rows keeps holds of the changed rows: `updateMany` makes these. -/
theorem forall_updateMany {t : Table key} {p : ρ → Bool} {f : ρ → ρ} {P : ρ → Prop}
    (h : ∀ r ∈ t.rows, P r) (hkeeps : ∀ r, P r → P (f r)) :
    ∀ r ∈ t.rows.map fun r => if p r then f r else r, P r := by
  intro r hr
  obtain ⟨r', hr', rfl⟩ := List.mem_map.mp hr
  by_cases hp : p r' = true
  · rw [if_pos hp]
    exact hkeeps r' (h r' hr')
  · rw [if_neg hp]
    exact h r' hr'

/-- A property of all rows and of the inserted one is a property of all rows after the insertion.
-/
theorem forall_insert? {t t' : Table key} {r : ρ} {P : ρ → Prop} (h : t.insert? r = some t')
    (hrows : ∀ r ∈ t.rows, P r) (hr : P r) : ∀ r ∈ t'.rows, P r := by
  intro r' hr'
  rw [rows_insert? h] at hr'
  rcases List.mem_append.mp hr' with hold | hnew
  · exact hrows r' hold
  · rw [List.mem_singleton.mp hnew]
    exact hr

omit [DecidableEq κ] in
/-- A removal adds no row. -/
theorem forall_deleteMany {t : Table key} {p : ρ → Bool} {P : ρ → Prop}
    (h : ∀ r ∈ t.rows, P r) : ∀ r ∈ (t.deleteMany p).rows, P r :=
  fun r hr => h r (List.mem_of_mem_filter hr)

/-! ### A change of all rows -/

omit [DecidableEq κ] in
/-- Two tables with the same rows are the same. -/
theorem ext {t t' : Table key} (h : t.rows = t'.rows) : t = t' := by
  cases t
  cases t'
  cases h
  rfl

/-- The table with every row changed by `f`, which keeps the key. -/
def mapRows (t : Table key) (f : ρ → ρ) (hf : ∀ r, key (f r) = key r) : Table key :=
  t.updateMany (fun _ => true) f hf

omit [DecidableEq κ] in
/-- A change of all rows that keeps the keys is a change of the list, in its order. -/
@[simp] theorem rows_mapRows (t : Table key) (f : ρ → ρ) (hf : ∀ r, key (f r) = key r) :
    (t.mapRows f hf).rows = t.rows.map f := by
  simp [mapRows, updateMany]

/-- A lookup in the changed table. -/
theorem find?_mapRows (t : Table key) (f : ρ → ρ) (hf : ∀ r, key (f r) = key r) (k : κ) :
    (t.mapRows f hf).find? k = (t.find? k).map f := by
  simp [mapRows, find?_updateMany]

/-- An insertion into the changed table is the change of the table with the insertion, because the
change keeps the keys. -/
theorem insert?_mapRows (t : Table key) (f : ρ → ρ) (hf : ∀ r, key (f r) = key r) (r : ρ) :
    (t.mapRows f hf).insert? (f r) = (t.insert? r).map fun t' => t'.mapRows f hf := by
  have hkeys : (t.mapRows f hf).rows.map key = t.rows.map key := by
    rw [rows_mapRows, List.map_map]
    exact List.map_congr_left fun r _ => hf r
  unfold insert?
  by_cases h : key r ∈ t.rows.map key
  · have h' : key (f r) ∈ (t.mapRows f hf).rows.map key := by
      rw [hkeys, hf]
      exact h
    rw [dif_pos h, dif_pos h']
    rfl
  · have h' : key (f r) ∉ (t.mapRows f hf).rows.map key := by
      rw [hkeys, hf]
      exact h
    rw [dif_neg h, dif_neg h']
    refine congrArg some (ext ?_)
    simp

/-! ### A part of the rows -/

/-- The table of the rows that satisfy `p`. -/
def filter (t : Table key) (p : ρ → Bool) : Table key :=
  ⟨t.rows.filter p, (List.filter_sublist.map key).nodup t.nodup⟩

omit [DecidableEq κ] in
/-- A table of some of the rows has them in their order. -/
@[simp] theorem rows_filter (t : Table key) (p : ρ → Bool) :
    (t.filter p).rows = t.rows.filter p := rfl

/-- A lookup in a part of the rows. -/
theorem find?_filter (t : Table key) (p : ρ → Bool) (k : κ) :
    (t.filter p).find? k = (t.find? k).filter p := by
  apply Option.ext
  intro r
  rw [find?_eq_some_iff, Option.filter_eq_some_iff, find?_eq_some_iff, rows_filter,
    List.mem_filter]
  tauto

end Table

/-- A second selection that implies the first one makes it superfluous. -/
theorem filter_filter_of_imp {α : Type} {p q : α → Bool} {l : List α}
    (h : ∀ a ∈ l, q a = true → p a = true) : (l.filter p).filter q = l.filter q := by
  rw [List.filter_filter]
  refine List.filter_congr fun a ha => ?_
  cases hq : q a with
  | false => rfl
  | true => simp [h a ha hq]

end Dcvp.Lib
