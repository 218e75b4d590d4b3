import Mathlib.Data.List.Basic
import Mathlib.Data.List.Nodup

/-!
# `Dcvp.Lib.OrderedMap`: a finite map that remembers insertion order

`OrderedMap κ α` is the association list behind an ECMAScript `Map`. Its entries stand in
insertion order. Writing an existing key keeps the position of that key, writing a new key
appends, and deleting a key leaves the order of the others alone. Each key occurs once, and
the field `nodup` carries that fact, so an entry list with a repeated key cannot be built.

Every lookup fact comes from `get?_eq_some_iff`, which turns a lookup into membership in
the entry list. The lemmas `get?_set` and `get?_delete` say what a write does to each
lookup. The proofs in this development read a map through these two lemmas and do not
unfold it.
-/

set_option autoImplicit false

namespace Dcvp.Lib

/-- An association list with distinct keys, in insertion order. -/
structure OrderedMap (κ α : Type) where
  /-- The entries, oldest key first. -/
  entries : List (κ × α)
  /-- No key occurs twice. -/
  nodup : (entries.map Prod.fst).Nodup

namespace OrderedMap

variable {κ α : Type}

/-- The map without entries. -/
def empty : OrderedMap κ α := ⟨[], List.nodup_nil⟩

/-- The keys, in insertion order. -/
def keys (m : OrderedMap κ α) : List κ := m.entries.map Prod.fst

/-- The values, in the insertion order of their keys. -/
def values (m : OrderedMap κ α) : List α := m.entries.map Prod.snd

/-- The number of keys. -/
def size (m : OrderedMap κ α) : Nat := m.entries.length

variable [DecidableEq κ]

/-- The value stored under `k`. -/
def get? (m : OrderedMap κ α) (k : κ) : Option α :=
  (m.entries.find? fun e => e.1 = k).map Prod.snd

/-- Replace the value of `k` in an entry list, at the position of `k`. -/
def replaceEntry (k : κ) (v : α) (es : List (κ × α)) : List (κ × α) :=
  es.map fun e => if e.1 = k then (k, v) else e

/-- Replacing a value keeps the list of keys. -/
theorem keys_replaceEntry (k : κ) (v : α) (es : List (κ × α)) :
    (replaceEntry k v es).map Prod.fst = es.map Prod.fst := by
  unfold replaceEntry
  rw [List.map_map]
  refine List.map_congr_left fun e _ => ?_
  by_cases h : e.1 = k <;> simp [h]

/-- Write `v` under `k`: in place when `k` is present, at the end otherwise. -/
def set (m : OrderedMap κ α) (k : κ) (v : α) : OrderedMap κ α :=
  if h : k ∈ m.keys then
    ⟨replaceEntry k v m.entries, by rw [keys_replaceEntry]; exact m.nodup⟩
  else
    ⟨m.entries ++ [(k, v)], by
      rw [List.map_append, List.map_singleton]
      exact m.nodup.append (List.nodup_singleton k)
        (List.disjoint_singleton.mpr h)⟩

/-- Remove the entry of `k`, if there is one. -/
def delete (m : OrderedMap κ α) (k : κ) : OrderedMap κ α :=
  ⟨m.entries.filter fun e => e.1 ≠ k,
    (List.filter_sublist.map Prod.fst).nodup m.nodup⟩

/-- A lookup finds a value exactly when the entry is in the list. -/
theorem get?_eq_some_iff (m : OrderedMap κ α) (k : κ) (v : α) :
    m.get? k = some v ↔ (k, v) ∈ m.entries := by
  unfold get?
  rw [Option.map_eq_some_iff]
  constructor
  · rintro ⟨e, he, rfl⟩
    have hk : e.1 = k := by simpa using List.find?_some he
    have hmem := List.mem_of_find?_eq_some he
    rwa [← hk]
  · intro hmem
    cases hfind : m.entries.find? fun e => e.1 = k with
    | none =>
        rw [List.find?_eq_none] at hfind
        exact absurd (decide_eq_true rfl) (hfind (k, v) hmem)
    | some e =>
        have hk : e.1 = k := by simpa using List.find?_some hfind
        have he := List.mem_of_find?_eq_some hfind
        -- Two entries with the same key are one entry, because the keys are distinct.
        have heq : e = (k, v) := List.inj_on_of_nodup_map m.nodup he hmem hk
        exact ⟨e, rfl, by rw [heq]⟩

/-- A lookup finds nothing exactly when the key is absent. -/
theorem get?_eq_none_iff (m : OrderedMap κ α) (k : κ) : m.get? k = none ↔ k ∉ m.keys := by
  unfold get? keys
  rw [Option.map_eq_none_iff, List.find?_eq_none, List.mem_map]
  constructor
  · rintro h ⟨e, he, rfl⟩
    simpa using h e he
  · intro h e he hk
    exact h ⟨e, he, by simpa using hk⟩

/-- A key is present exactly when its lookup finds a value. -/
theorem mem_keys_iff (m : OrderedMap κ α) (k : κ) : k ∈ m.keys ↔ ∃ v, m.get? k = some v := by
  rw [← Option.isSome_iff_exists, Option.isSome_iff_ne_none, Ne, get?_eq_none_iff, not_not]

/-- The empty map has no value at any key. -/
@[simp] theorem get?_empty (k : κ) : (empty : OrderedMap κ α).get? k = none := rfl

/-- A new key is written behind the others. -/
theorem entries_set_of_notMem (m : OrderedMap κ α) {k : κ} (v : α) (h : k ∉ m.keys) :
    (m.set k v).entries = m.entries ++ [(k, v)] := by
  unfold set
  rw [dif_neg h]

/-- The entries after a write: the new pair, and every old pair with another key. -/
theorem mem_entries_set (m : OrderedMap κ α) (k : κ) (v : α) (e : κ × α) :
    e ∈ (m.set k v).entries ↔ e = (k, v) ∨ (e ∈ m.entries ∧ e.1 ≠ k) := by
  unfold set
  split
  · rename_i hk
    simp only [replaceEntry, List.mem_map]
    constructor
    · rintro ⟨e', he', rfl⟩
      by_cases h : e'.1 = k
      · exact Or.inl (by simp [h])
      · exact Or.inr (by simpa [h] using he')
    · rintro (rfl | ⟨he, hne⟩)
      · obtain ⟨e', he', hk'⟩ := List.mem_map.mp hk
        exact ⟨e', he', by simp [hk']⟩
      · exact ⟨e, he, by simp [hne]⟩
  · rename_i hk
    rw [List.mem_append, List.mem_singleton]
    constructor
    · rintro (he | rfl)
      · exact Or.inr ⟨he, fun h => hk (List.mem_map.mpr ⟨e, he, h⟩)⟩
      · exact Or.inl rfl
    · rintro (rfl | ⟨he, _⟩)
      · exact Or.inr rfl
      · exact Or.inl he

/-- A lookup after a write finds the new value under the key that was written, and under every
other key what was there before. -/
theorem get?_set (m : OrderedMap κ α) (k k' : κ) (v : α) :
    (m.set k v).get? k' = if k' = k then some v else m.get? k' := by
  apply Option.ext
  intro w
  rw [get?_eq_some_iff, mem_entries_set]
  by_cases h : k' = k
  · subst h
    simp [eq_comm]
  · simp [h, get?_eq_some_iff]

/-- The value that was set last is there. -/
@[simp] theorem get?_set_self (m : OrderedMap κ α) (k : κ) (v : α) :
    (m.set k v).get? k = some v := by simp [get?_set]

/-- Setting one key leaves the values of the others. -/
theorem get?_set_ne (m : OrderedMap κ α) {k k' : κ} (v : α) (h : k' ≠ k) :
    (m.set k v).get? k' = m.get? k' := by simp [get?_set, h]

/-- A lookup after a removal finds nothing under the key that was removed, and under every other
key what was there before. -/
theorem get?_delete (m : OrderedMap κ α) (k k' : κ) :
    (m.delete k).get? k' = if k' = k then none else m.get? k' := by
  apply Option.ext
  intro w
  rw [get?_eq_some_iff]
  simp only [delete, List.mem_filter, decide_eq_true_eq]
  by_cases h : k' = k
  · simp [h]
  · simp [h, get?_eq_some_iff]

/-- A key that was deleted has no value. -/
@[simp] theorem get?_delete_self (m : OrderedMap κ α) (k : κ) :
    (m.delete k).get? k = none := by simp [get?_delete]

/-- Deleting one key leaves the values of the others. -/
theorem get?_delete_ne (m : OrderedMap κ α) {k k' : κ} (h : k' ≠ k) :
    (m.delete k).get? k' = m.get? k' := by simp [get?_delete, h]

end OrderedMap

end Dcvp.Lib
