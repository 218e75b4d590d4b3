import Dcvp.Lib.Delimited

/-!
# `Dcvp.Lib.RoutePath`: paths, and the patterns of routes

A path is made of segments, each behind a separator. A router compares it with a pattern one
segment after the other, without regard to case, and lets a separator at the end pass. Other
code looks at the same path as a text and asks only how it begins. `prefix_pathOf` relates the
two: a path that begins with given whole segments has these segments.
-/

set_option autoImplicit false

namespace Dcvp.Lib

/-! ### Segments -/

section
variable {α : Type} (c : α)

/-- The path with these segments. -/
def pathOf (segments : List (List α)) : List α := segments.flatMap (c :: ·)

/-- A text that follows a segment: nothing, or a separator and more. -/
def IsRest (rest : List α) : Prop := rest = [] ∨ ∃ more, rest = c :: more

/-- The end of a path: nothing, or a separator. -/
def IsTrail (trail : List α) : Prop := trail = [] ∨ trail = [c]

variable {c}

/-- What may end a path may follow a segment: nothing, or a separator with nothing behind it. -/
theorem IsTrail.rest {trail : List α} (h : IsTrail c trail) : IsRest c trail := by
  rcases h with rfl | rfl
  · exact Or.inl rfl
  · exact Or.inr ⟨[], rfl⟩

/-- A path in front of a rest is a rest: without segments it adds nothing, and otherwise it begins
with the separator. -/
theorem IsRest.pathOf {rest : List α} (h : IsRest c rest) (segments : List (List α)) :
    IsRest c (pathOf c segments ++ rest) := by
  cases segments with
  | nil => exact h
  | cons s segments =>
      refine Or.inr ⟨s ++ (Lib.pathOf c segments ++ rest), ?_⟩
      simp [Lib.pathOf]

/-- Two paths that are equal have the same first segment and the same rest, when neither segment
holds the separator and each rest begins with it or is empty. -/
theorem segment_inj {a s x y : List α} (ha : c ∉ a) (hs : c ∉ s) (hx : IsRest c x)
    (hy : IsRest c y) (h : a ++ x = s ++ y) : a = s ∧ x = y := by
  rcases hx with rfl | ⟨x, rfl⟩ <;> rcases hy with rfl | ⟨y, rfl⟩
  · simp only [List.append_nil] at h
    exact ⟨h, rfl⟩
  · rw [List.append_nil] at h
    exact absurd (h ▸ List.mem_append_right s List.mem_cons_self) ha
  · rw [List.append_nil] at h
    exact absurd (h ▸ List.mem_append_right a List.mem_cons_self) hs
  · obtain ⟨rfl, rfl⟩ := split_at_first ha hs h
    exact ⟨rfl, rfl⟩

/-- A path that begins with whole segments has these segments first, since none of them contains
the separator. By induction on the segments. -/
theorem prefix_pathOf {firsts segments : List (List α)} {rest trail : List α}
    (hfirsts : ∀ a ∈ firsts, a ≠ [] ∧ c ∉ a) (hsegments : ∀ s ∈ segments, c ∉ s)
    (hrest : IsRest c rest) (htrail : IsTrail c trail)
    (h : pathOf c firsts ++ rest = pathOf c segments ++ trail) : firsts <+: segments := by
  induction firsts generalizing segments with
  | nil => exact List.nil_prefix
  | cons a firsts ih =>
      obtain ⟨hne, hplain⟩ := hfirsts a List.mem_cons_self
      have hleft : pathOf c (a :: firsts) ++ rest = c :: (a ++ (pathOf c firsts ++ rest)) := by
        simp [pathOf]
      rw [hleft] at h
      cases segments with
      | nil =>
          -- The path is at most a separator, and has no segment.
          rcases htrail with rfl | rfl
          · cases h
          · have hempty : a ++ (pathOf c firsts ++ rest) = [] := (List.cons.inj h).2
            exact absurd (List.append_eq_nil_iff.mp hempty).1 hne
      | cons s segments =>
          have hright : pathOf c (s :: segments) ++ trail =
              c :: (s ++ (pathOf c segments ++ trail)) := by simp [pathOf]
          rw [hright] at h
          obtain ⟨rfl, hlater⟩ := segment_inj hplain (hsegments s List.mem_cons_self)
            (hrest.pathOf firsts) (htrail.rest.pathOf segments) (List.cons.inj h).2
          exact (List.prefix_cons_inj a).mpr
            (ih (fun b hb => hfirsts b (List.mem_cons_of_mem a hb))
              (fun b hb => hsegments b (List.mem_cons_of_mem a hb)) hlater)

end

/-! ### Patterns -/

/-- A piece of the pattern of a route. -/
inductive PathPiece where
  | literal (text : String)
  | param (name : String)
  deriving DecidableEq

/-- The segment fits the piece. Letters of ASCII fit in both cases, when the literal is written
in small letters. -/
def PathPiece.Fits : PathPiece → List Char → Prop
  | .literal text, segment => segment.map Char.toLower = text.toList
  | .param _, segment => segment ≠ []

/-- The path fits the pattern with these segments. -/
structure PatternMatch (pattern : List PathPiece) (segments : List (List Char))
    (path : String) : Prop where
  pieces : List.Forall₂ PathPiece.Fits pattern segments
  plain : ∀ s ∈ segments, '/' ∉ s
  path : ∃ trail, IsTrail '/' trail ∧ path.toList = pathOf '/' segments ++ trail

/-- Whether a path that fits the pattern can begin with these segments. -/
def mayBegin : List PathPiece → List String → Bool
  | _, [] => true
  | .literal text :: pieces, first :: firsts => text == first && mayBegin pieces firsts
  | .param _ :: pieces, _ :: firsts => mayBegin pieces firsts
  | [], _ :: _ => false

/-- The segments of a path with a pattern are as `mayBegin` says, when they are in small
letters. -/
theorem mayBegin_of_prefix {pattern : List PathPiece} {segments : List (List Char)}
    (h : List.Forall₂ PathPiece.Fits pattern segments) {firsts : List String}
    (hsmall : ∀ first ∈ firsts, first.toList.map Char.toLower = first.toList)
    (hinit : firsts.map String.toList <+: segments) : mayBegin pattern firsts = true := by
  -- Pattern and segments are consumed together, and the given beginning along with them.
  induction h generalizing firsts with
  | nil =>
      cases firsts with
      | nil => rfl
      | cons first firsts => cases List.prefix_nil.mp hinit
  | @cons piece s pieces segments hfits _ ih =>
      cases firsts with
      | nil => cases piece <;> rfl
      | cons first firsts =>
          obtain ⟨hfirst, hlater⟩ := List.cons_prefix_cons.mp hinit
          have hrest := ih (fun g hg => hsmall g (List.mem_cons_of_mem first hg)) hlater
          cases piece with
          | param name => exact hrest
          | literal text =>
              -- Express compares in lower case, which is no difference for a `first` in lower case.
              have htext : text = first := by
                refine String.toList_inj.mp ?_
                rw [← hsmall first List.mem_cons_self, hfirst]
                exact Eq.symm hfits
              show (text == first && mayBegin pieces firsts) = true
              rw [htext, hrest]
              simp

end Dcvp.Lib
