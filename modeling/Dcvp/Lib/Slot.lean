import Mathlib.Data.List.Basic

/-!
# `Dcvp.Lib.Slot`: resources of which one is kept

A program takes up resources of a kind, one after the other, and keeps a reference to one of
them. With the reference it can stop this one and no other. A resource that is on and not kept
has leaked: nothing will ever stop it.

`Owned` says that nothing has leaked. `keep_owned_iff` is the one way to lose it: taking up a
resource while another one is on. `Kept` says that the reference is to a resource that is on.
-/

set_option autoImplicit false

namespace Dcvp.Lib

/-- Resources with the numbers of their creation, and the one that is kept. -/
structure Slot where
  /-- Which resources are on. -/
  on : List Bool := []
  ref : Option Nat := none
  deriving DecidableEq

namespace Slot

/-- What is on is the resource that is kept. -/
def Owned (s : Slot) : Prop := ∀ i, s.on[i]? = some true → s.ref = some i

/-- The resource that is kept is on. -/
def Kept (s : Slot) : Prop := ∀ i, s.ref = some i → s.on[i]? = some true

/-- No resource is on. -/
def Off (s : Slot) : Prop := ∀ i : Nat, s.on[i]? ≠ some true

/-- No resource is on but the one that is kept, and none at all unless `active`. -/
structure OwnedWhile (active : Bool) (s : Slot) : Prop where
  owned : s.Owned
  off : active = false → s.Off

variable (s : Slot)

/-- A resource goes off. -/
def turnOff (i : Nat) : Slot := { s with on := s.on.set i false }

/-- The kept resource is stopped. -/
def stop : Slot :=
  match s.ref with
  | none => s
  | some i => s.turnOff i

/-- The kept resource is stopped and forgotten. -/
def clear : Slot := { s.stop with ref := none }

/-- A new resource is taken up and kept. -/
def keep : Slot := { on := s.on ++ [true], ref := some s.on.length }

/-- A new resource is stopped at once. -/
def addOff : Slot := { s with on := s.on ++ [false] }

variable {s}

/-! ### Resources that go off -/

/-- What is on after a resource went off was on before, and is another resource. -/
theorem turnOff_on {i j : Nat} (h : (s.turnOff i).on[j]? = some true) :
    s.on[j]? = some true ∧ i ≠ j := by
  replace h : (s.on.set i false)[j]? = some true := h
  rw [List.getElem?_set] at h
  split at h
  · split at h <;> cases h
  · rename_i hne
    exact ⟨h, hne⟩

/-- With nothing on, nothing has leaked. -/
theorem Off.owned (h : s.Off) : s.Owned := fun i hi => absurd hi (h i)

/-- Where nothing is on, turning a resource off turns nothing on. -/
theorem Off.turnOff (h : s.Off) (i : Nat) : (s.turnOff i).Off :=
  fun j hj => h j (turnOff_on hj).1

/-- A resource that goes off leaks nothing, whether it is the kept one or not. -/
theorem Owned.turnOff (h : s.Owned) (i : Nat) : (s.turnOff i).Owned :=
  fun j hj => h j (turnOff_on hj).1

/-- When nothing has leaked, stopping the kept resource stops everything. -/
theorem Owned.stop_off (h : s.Owned) : s.stop.Off := by
  intro i hi
  unfold stop at hi
  split at hi
  · rename_i hnone
    rw [h i hi] at hnone
    cases hnone
  · rename_i j hj
    obtain ⟨hon, hne⟩ := turnOff_on hi
    rw [h i hon] at hj
    exact hne (Option.some.inj hj).symm

/-- When nothing has leaked, a cleared slot has nothing on at all. -/
theorem Owned.clear_off (h : s.Owned) : s.clear.Off := h.stop_off

/-- A cleared slot keeps no resource, so there is none that would have to be on. -/
theorem clear_kept : s.clear.Kept := fun _ hi => by cases hi

/-! ### New resources -/

/-- What is on in a list with one more resource was on before, or it is the new one. -/
theorem getElem?_concat_eq_some {on : List Bool} {new : Bool} {i : Nat}
    (h : (on ++ [new])[i]? = some true) : on[i]? = some true ∨ (i = on.length ∧ new = true) := by
  by_cases hi : i < on.length
  · rw [List.getElem?_append_left hi] at h
    exact Or.inl h
  · have hlt := (List.getElem?_eq_some_iff.mp h).1
    rw [List.length_append, List.length_singleton] at hlt
    have hlast : i = on.length := by omega
    subst hlast
    rw [List.getElem?_append_right (Nat.le_refl _), Nat.sub_self] at h
    exact Or.inr ⟨rfl, Option.some.inj h⟩

/-- A resource that is stopped at once adds nothing to what is on. -/
theorem addOff_on {i : Nat} (h : s.addOff.on[i]? = some true) : s.on[i]? = some true := by
  rcases getElem?_concat_eq_some h with hold | ⟨-, hnew⟩
  · exact hold
  · cases hnew

/-- The resource that is taken up is on. -/
theorem keep_kept : s.keep.Kept := by
  intro i hi
  cases hi
  show (s.on ++ [true])[s.on.length]? = some true
  simp

/-- A new resource leaves the kept one behind, unless nothing is on. -/
theorem keep_owned_iff : s.keep.Owned ↔ s.Off := by
  constructor
  · intro h i hi
    have hlt := (List.getElem?_eq_some_iff.mp hi).1
    have hnew : s.keep.on[i]? = some true := by
      show (s.on ++ [true])[i]? = some true
      rw [List.getElem?_append_left hlt]
      exact hi
    have hlast : some s.on.length = some i := h i hnew
    have heq := Option.some.inj hlast
    omega
  · intro h i hi
    rcases getElem?_concat_eq_some hi with hold | ⟨rfl, -⟩
    · exact absurd hold (h i)
    · rfl

/-- When nothing has leaked, everything is off unless the kept resource is on. -/
theorem Owned.off_iff (h : s.Owned) : s.Off ↔ ∀ i, s.ref = some i → s.on[i]? ≠ some true :=
  ⟨fun hoff i _ => hoff i, fun href i hi => href i (h i hi) hi⟩

/-- When nothing has leaked and the kept resource is on, the slot is off exactly when it keeps
none. This is the form in which a caller reads it: a look at the reference tells whether anything
runs. -/
theorem Owned.off_iff_of_kept (h : s.Owned) (hkept : s.Kept) : s.Off ↔ s.ref = none := by
  rw [h.off_iff]
  constructor
  · intro hoff
    cases hs : s.ref with
    | none => rfl
    | some i => exact absurd (hkept i hs) (hoff i hs)
  · intro hnone i hi
    rw [hnone] at hi
    cases hi

/-! ### Owned while active -/

variable {active : Bool}

/-- A resource that goes off keeps the bound, while it is active and after. -/
theorem OwnedWhile.turnOff (h : s.OwnedWhile active) (i : Nat) :
    (s.turnOff i).OwnedWhile active :=
  ⟨h.owned.turnOff i, fun hactive => (h.off hactive).turnOff i⟩

/-- With nothing on, the bound holds whether it is active or not. -/
theorem OwnedWhile.of_off (h : s.Off) : s.OwnedWhile active := ⟨h.owned, fun _ => h⟩

/-- A resource that is stopped at once keeps the bound, also when it comes after the end. -/
theorem OwnedWhile.addOff (h : s.OwnedWhile active) : s.addOff.OwnedWhile active :=
  ⟨fun i hi => h.owned i (addOff_on hi), fun hactive i hi => h.off hactive i (addOff_on hi)⟩

/-- A new resource is the only one exactly when nothing is on and `active` holds. -/
theorem keep_ownedWhile_iff : s.keep.OwnedWhile active ↔ s.Off ∧ active = true := by
  constructor
  · intro h
    refine ⟨keep_owned_iff.mp h.owned, ?_⟩
    cases hactive : active with
    | true => rfl
    | false => exact absurd (keep_kept s.on.length rfl) (h.off hactive _)
  · rintro ⟨hoff, rfl⟩
    exact ⟨keep_owned_iff.mpr hoff, fun h => by cases h⟩

end Slot

/-! ### Resources with data of their own -/

section
variable {α β : Type} {g : α → β} {f : α → α}

/-- A change of a resource that a view does not show. -/
theorem map_modify_of_eq (h : ∀ a, g (f a) = g a) (l : List α) (i : Nat) :
    (l.modify i f).map g = l.map g := by
  induction l generalizing i with
  | nil => rw [List.modify_nil]
  | cons a l ih =>
      cases i with
      | zero => rw [List.modify_zero_cons, List.map_cons, List.map_cons, h]
      | succ i => rw [List.modify_succ_cons, List.map_cons, List.map_cons, ih]

/-- A change of a resource that a view shows as `b`. -/
theorem map_modify_eq_set {b : β} (h : ∀ a, g (f a) = b) (l : List α) (i : Nat) :
    (l.modify i f).map g = (l.map g).set i b := by
  induction l generalizing i with
  | nil => rw [List.modify_nil]; rfl
  | cons a l ih =>
      cases i with
      | zero =>
          rw [List.modify_zero_cons, List.map_cons, List.map_cons, List.set_cons_zero, h]
      | succ i =>
          rw [List.modify_succ_cons, List.map_cons, List.map_cons, List.set_cons_succ, ih]

/-- What holds of all resources, and of the one that changes. -/
theorem forall_mem_modify {P : α → Prop} {l : List α} (hl : ∀ a ∈ l, P a)
    (hf : ∀ a ∈ l, P (f a)) (i : Nat) : ∀ a ∈ l.modify i f, P a := by
  intro a ha
  obtain ⟨j, hj⟩ := List.getElem?_of_mem ha
  rw [List.getElem?_modify] at hj
  obtain ⟨b, hb, rfl⟩ := Option.map_eq_some_iff.mp hj
  have hmem := List.mem_of_getElem? hb
  split
  · exact hf b hmem
  · exact hl b hmem

end

end Dcvp.Lib
