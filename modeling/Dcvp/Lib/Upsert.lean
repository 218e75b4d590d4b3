import Mathlib.Data.List.Find
import Mathlib.Data.List.Nodup

/-!
# `Dcvp.Lib.Upsert`: a list whose items are looked up by a key and replaced by an identifier

`putFirst` puts an item at the front and drops the items with its identifier. The callers find
the identifier by another column, the key. `Fits` is what makes this right: the item has the
identifier of the item with its key, or its identifier and its key are both new. Then the
identifiers and the keys stay different (`Unique.putFirst`), and a key finds the item that was put
last (`find?_putFirst`).

`Carried label before after` says that every item stays, as far as `label` tells.
-/

set_option autoImplicit false

namespace Dcvp.Lib

variable {α β ι κ : Type} {ident : α → ι} {key : α → κ} {items : List α} {item : α}

/-! ### Items that stay -/

/-- Every item before has one after with its label. -/
def Carried (label : α → β) (before after : List α) : Prop :=
  ∀ x ∈ before, ∃ y ∈ after, label y = label x

/-- With the same items, every label is carried. -/
theorem Carried.refl (label : α → β) (items : List α) : Carried label items items :=
  fun x hx => ⟨x, hx, rfl⟩

/-- Labels that are carried twice are carried over both changes. -/
theorem Carried.trans {label : α → β} {before between after : List α}
    (h : Carried label before between) (h' : Carried label between after) :
    Carried label before after := by
  intro x hx
  obtain ⟨y, hy, hxy⟩ := h x hx
  obtain ⟨z, hz, hyz⟩ := h' y hy
  exact ⟨z, hz, hyz.trans hxy⟩

/-- A list with the same labels. -/
theorem Carried.of_map_eq {label : α → β} {before after : List α}
    (h : after.map label = before.map label) : Carried label before after := by
  intro x hx
  have hlabel : label x ∈ after.map label := h ▸ List.mem_map_of_mem hx
  exact List.mem_map.mp hlabel

/-! ### The operation -/

/-- The item at the front, in the place of the items with its identifier. -/
def putFirst [DecidableEq ι] (ident : α → ι) (item : α) (items : List α) : List α :=
  item :: items.filter (ident · ≠ ident item)

/-- An item for a list, as a search by the key makes it. -/
inductive Fits (ident : α → ι) (key : α → κ) (items : List α) (item : α) : Prop
  | replaces (known : α) (hknown : known ∈ items) (hident : ident item = ident known)
      (hkey : key item = key known)
  | adds (hident : ident item ∉ items.map ident) (hkey : key item ∉ items.map key)

/-- Neither two identifiers nor two keys are equal. -/
structure Unique (ident : α → ι) (key : α → κ) (items : List α) : Prop where
  ids : (items.map ident).Nodup
  keys : (items.map key).Nodup

/-- An empty list has no two items of one name or of one key. -/
theorem Unique.nil : Unique ident key [] := ⟨List.nodup_nil, List.nodup_nil⟩

/-- What the search answers decides whether the item is a new one. -/
theorem fits_of_find? [DecidableEq κ]
    (hknown : ∀ known, items.find? (key · = key item) = some known → ident item = ident known)
    (hnew : items.find? (key · = key item) = none → ident item ∉ items.map ident) :
    Fits ident key items item := by
  cases hfind : items.find? (key · = key item) with
  | some known =>
      have hkey : key known = key item := by simpa using List.find?_some hfind
      exact .replaces known (List.mem_of_find?_eq_some hfind) (hknown known hfind) hkey.symm
  | none =>
      refine .adds (hnew hfind) fun hmem => ?_
      obtain ⟨known, hmem, hkey⟩ := List.mem_map.mp hmem
      exact List.find?_eq_none.mp hfind known hmem (decide_eq_true hkey)

/-- The identifier of the item and its key are those of the same items. -/
theorem Unique.ident_eq_iff (h : Unique ident key items) (hfits : Fits ident key items item)
    {x : α} (hx : x ∈ items) : ident x = ident item ↔ key x = key item := by
  cases hfits with
  | replaces known hknown hident hkey =>
      rw [hident, hkey]
      constructor
      · intro heq
        rw [List.inj_on_of_nodup_map h.ids hx hknown heq]
      · intro heq
        rw [List.inj_on_of_nodup_map h.keys hx hknown heq]
  | adds hident hkey =>
      constructor
      · intro heq
        exact absurd (heq ▸ List.mem_map_of_mem hx) hident
      · intro heq
        exact absurd (heq ▸ List.mem_map_of_mem hx) hkey

/-- The columns of another list are those of this one. -/
theorem Unique.congr {items' : List α} (h : Unique ident key items)
    (hids : items'.map ident = items.map ident) (hkeys : items'.map key = items.map key) :
    Unique ident key items' := ⟨hids ▸ h.ids, hkeys ▸ h.keys⟩

/-- The search by the key of an item finds it. -/
theorem Unique.find?_key [DecidableEq κ] (h : Unique ident key items) {x : α} (hx : x ∈ items) :
    items.find? (key · = key x) = some x := by
  cases hfind : items.find? (key · = key x) with
  | none => exact absurd (decide_eq_true rfl) (List.find?_eq_none.mp hfind x hx)
  | some y =>
      have hkey : key y = key x := by simpa using List.find?_some hfind
      rw [List.inj_on_of_nodup_map h.keys (List.mem_of_find?_eq_some hfind) hx hkey]

section
variable [DecidableEq ι]

/-- After an item was put first, the list has it and every item of another name. The old item of
its name is gone. -/
theorem mem_putFirst {x : α} :
    x ∈ putFirst ident item items ↔ x = item ∨ x ∈ items ∧ ident x ≠ ident item := by
  unfold putFirst
  rw [List.mem_cons, List.mem_filter, decide_eq_true_iff]

/-- Where the item has the label of the one with its key, every item stays. -/
theorem Unique.carried_putFirst [DecidableEq κ] (h : Unique ident key items)
    (hfits : Fits ident key items item) {label : α → β}
    (hlabel : ∀ known, items.find? (key · = key item) = some known → label item = label known) :
    Carried label items (putFirst ident item items) := by
  intro x hx
  by_cases hident : ident x = ident item
  · have hkey : key x = key item := (h.ident_eq_iff hfits hx).mp hident
    have hfind : items.find? (key · = key item) = some x := by
      rw [← hkey]
      exact h.find?_key hx
    exact ⟨item, mem_putFirst.mpr (.inl rfl), hlabel x hfind⟩
  · exact ⟨x, mem_putFirst.mpr (.inr ⟨hx, hident⟩), rfl⟩

/-- Putting an item first keeps names and keys unique, when no other item has its key. -/
theorem Unique.putFirst (h : Unique ident key items) (hfits : Fits ident key items item) :
    Unique ident key (putFirst ident item items) := by
  have hsub : (items.filter (ident · ≠ ident item)).Sublist items := List.filter_sublist
  constructor
  · refine List.nodup_cons.mpr ⟨fun hmem => ?_, h.ids.sublist (hsub.map ident)⟩
    obtain ⟨x, hx, heq⟩ := List.mem_map.mp hmem
    exact of_decide_eq_true (List.mem_filter.mp hx).2 heq
  · refine List.nodup_cons.mpr ⟨fun hmem => ?_, h.keys.sublist (hsub.map key)⟩
    obtain ⟨x, hx, heq⟩ := List.mem_map.mp hmem
    obtain ⟨hx, hident⟩ := List.mem_filter.mp hx
    exact of_decide_eq_true hident ((h.ident_eq_iff hfits hx).mpr heq)

/-- A key finds the item when it is the item's, and what it found before otherwise. -/
theorem Unique.find?_putFirst [DecidableEq κ] (h : Unique ident key items)
    (hfits : Fits ident key items item) (k : κ) :
    (Lib.putFirst ident item items).find? (key · = k)
      = if key item = k then some item else items.find? (key · = k) := by
  unfold Lib.putFirst
  by_cases hk : key item = k
  · rw [if_pos hk, List.find?_cons_of_pos (by simpa using hk)]
  · rw [if_neg hk, List.find?_cons_of_neg (by simpa using hk), List.find?_filter]
    -- An item with another key has another identifier, so it was not dropped.
    refine List.find?_congr fun x hx => ?_
    by_cases hkey : key x = k
    · have hident : ident x ≠ ident item := fun heq =>
        hk (((h.ident_eq_iff hfits hx).mp heq).symm.trans hkey)
      simp [hkey, hident]
    · simp [hkey]

end

end Dcvp.Lib
