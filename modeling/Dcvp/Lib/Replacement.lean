import Mathlib.Data.List.Infix
import Mathlib.Data.List.TakeWhile

/-!
# `Dcvp.Lib.Replacement`: replacing the matches of a pattern

`replace p r l` is the text `l` with every match of the pattern `p` replaced by `r`. The text is
read from left to right. A match is replaced as a whole, and reading goes on behind it.

The question is whether the result still has a match. The replacement text can itself be one,
or it can make one together with its neighbours. `Isolates p r` rules this out, and then
`not_occurs_replace` says that the result has no match. `not_occurs_replace_of` says the same of a
second pattern, whose matches were removed before.

A `Pattern` answers the length of the match at the beginning of a text. `Pattern.ofPieces` builds
one from fixed texts and from runs of characters of a class. A run is as long as possible, and it
is never shortened for the sake of what follows. `isolates_of_bounded` gives `Isolates` for a
replacement text between two delimiters that occur in no match.
-/

set_option autoImplicit false

namespace Dcvp.Lib

variable {α : Type}

/-- A pattern: the length of the match at the beginning of a text. A match does not disappear
when the text goes on. -/
structure Pattern (α : Type) where
  matchLength : List α → Option Nat
  nonempty : matchLength [] = none
  stable : ∀ l l', (matchLength l).isSome → (matchLength (l ++ l')).isSome

namespace Pattern

/-- Some part of the text matches. -/
def Occurs (p : Pattern α) (l : List α) : Prop := ∃ t, t <:+ l ∧ (p.matchLength t).isSome

instance (p : Pattern α) (l : List α) : Decidable (p.Occurs l) :=
  decidable_of_iff (∃ t ∈ l.tails, (p.matchLength t).isSome)
    ⟨fun ⟨t, ht, h⟩ => ⟨t, (List.mem_tails _ _).mp ht, h⟩,
      fun ⟨t, ht, h⟩ => ⟨t, (List.mem_tails _ _).mpr ht, h⟩⟩

/-- The text with its matches replaced. The number is that of the characters which still belong
to the last match. -/
def replaceFrom (p : Pattern α) (r : List α) : Nat → List α → List α
  | _, [] => []
  | skip + 1, _ :: l => replaceFrom p r skip l
  | 0, a :: l =>
      match p.matchLength (a :: l) with
      | some n => r ++ replaceFrom p r (n - 1) l
      | none => a :: replaceFrom p r 0 l

/-- The text with every match replaced by `r`. -/
def replace (p : Pattern α) (r l : List α) : List α := replaceFrom p r 0 l

/-- No match touches a copy of the replacement text `r`. -/
structure Isolates (p : Pattern α) (r : List α) : Prop where
  /-- A match before the copy does not reach into it. -/
  before : ∀ a b, (p.matchLength (a ++ (r ++ b))).isSome → (p.matchLength a).isSome
  /-- No match begins in the copy. -/
  within : ∀ t b, t <:+ r → t ≠ [] → p.matchLength (t ++ b) = none

/-! ### What is left of a text -/

section
variable {p q : Pattern α} {r l l' : List α}

/-- The result begins with a part of the text, and then a copy of `r` follows, or nothing. -/
theorem replaceFrom_zero_eq (p : Pattern α) (r l : List α) :
    ∃ a rest b, replaceFrom p r 0 l = a ++ rest ∧ l = a ++ b ∧
      (rest = [] ∨ ∃ c, rest = r ++ c) := by
  induction l with
  | nil => exact ⟨[], [], [], rfl, rfl, Or.inl rfl⟩
  | cons x l ih =>
      cases hmatch : p.matchLength (x :: l) with
      | some n =>
          refine ⟨[], replaceFrom p r 0 (x :: l), x :: l, rfl, rfl,
            Or.inr ⟨replaceFrom p r (n - 1) l, ?_⟩⟩
          rw [replaceFrom, hmatch]
      | none =>
          obtain ⟨a, rest, b, heq, hl, hrest⟩ := ih
          refine ⟨x :: a, rest, b, ?_, by rw [hl]; rfl, hrest⟩
          rw [replaceFrom, hmatch]
          exact congrArg (x :: ·) heq

/-- A part of the result that begins with `t` begins in a copy of `r`, or at a place of the text
where `p` does not match, with what the text has there up to the next copy. -/
theorem suffix_replaceFrom {skip : Nat} {t : List α} (ht : t <:+ replaceFrom p r skip l)
    (hne : t ≠ []) :
    (∃ u b, u <:+ r ∧ u ≠ [] ∧ t = u ++ b) ∨
      ∃ a rest b, t = a ++ rest ∧ (rest = [] ∨ ∃ c, rest = r ++ c) ∧ a ++ b <:+ l ∧
        p.matchLength (a ++ b) = none := by
  induction l generalizing skip with
  | nil =>
      rw [show replaceFrom p r skip [] = [] by cases skip <;> rfl] at ht
      exact absurd (List.suffix_nil.mp ht) hne
  | cons x l ih =>
      -- A place behind the first character is covered by the induction hypothesis.
      have hrest : ∀ skip', t <:+ replaceFrom p r skip' l →
          (∃ u b, u <:+ r ∧ u ≠ [] ∧ t = u ++ b) ∨
            ∃ a rest b, t = a ++ rest ∧ (rest = [] ∨ ∃ c, rest = r ++ c) ∧ a ++ b <:+ x :: l ∧
              p.matchLength (a ++ b) = none := by
        intro skip' h
        rcases ih h with hcopy | ⟨a, rest, b, heq, hcases, hsuffix, hnone⟩
        · exact Or.inl hcopy
        · exact Or.inr ⟨a, rest, b, heq, hcases, hsuffix.trans (List.suffix_cons x l), hnone⟩
      cases skip with
      | succ skip => exact hrest skip ht
      | zero =>
          cases hmatch : p.matchLength (x :: l) with
          | some n =>
              rw [replaceFrom, hmatch] at ht
              rcases List.suffix_or_suffix_of_suffix ht (List.suffix_append r _) with
                hbehind | ⟨u, rfl⟩
              · exact hrest (n - 1) hbehind
              · obtain ⟨v, hv⟩ := ht
                rw [← List.append_assoc] at hv
                have hu : u <:+ r := ⟨v, List.append_cancel_right hv⟩
                by_cases hempty : u = []
                · subst hempty
                  exact hrest (n - 1) (List.suffix_refl _)
                · exact Or.inl ⟨u, _, hu, hempty, rfl⟩
          | none =>
              rw [replaceFrom, hmatch] at ht
              rcases List.suffix_cons_iff.mp ht with rfl | hbehind
              · obtain ⟨a, rest, b, heq, hl, hcases⟩ := replaceFrom_zero_eq p r l
                refine Or.inr ⟨x :: a, rest, b, congrArg (x :: ·) heq, hcases, ?_, ?_⟩
                · rw [hl]
                  exact List.suffix_refl _
                · rw [List.cons_append, ← hl]
                  exact hmatch
              · exact hrest 0 hbehind

/-- A match in the result would be a match of the text at a place where `p` has none. -/
theorem matches_of_occurs_replace (hr : q.Isolates r) (h : q.Occurs (replace p r l)) :
    ∃ t, t <:+ l ∧ p.matchLength t = none ∧ (q.matchLength t).isSome := by
  obtain ⟨t, ht, hmatch⟩ := h
  have hne : t ≠ [] := by
    rintro rfl
    rw [q.nonempty] at hmatch
    cases hmatch
  rcases suffix_replaceFrom ht hne with
    ⟨u, b, hu, hune, rfl⟩ | ⟨a, rest, b, rfl, hrest, hsuffix, hnone⟩
  · rw [hr.within u b hu hune] at hmatch
    cases hmatch
  · refine ⟨a ++ b, hsuffix, hnone, q.stable a b ?_⟩
    rcases hrest with rfl | ⟨c, rfl⟩
    · rwa [List.append_nil] at hmatch
    · exact hr.before a c hmatch

/-- After the replacement nothing matches. -/
theorem not_occurs_replace (hr : p.Isolates r) (l : List α) : ¬ p.Occurs (replace p r l) := by
  intro h
  obtain ⟨t, -, hnone, hsome⟩ := matches_of_occurs_replace hr h
  rw [hnone] at hsome
  cases hsome

/-- The replacement of other matches brings none back. -/
theorem not_occurs_replace_of (hr : q.Isolates r) (h : ¬ q.Occurs l) :
    ¬ q.Occurs (replace p r l) := by
  intro hoccurs
  obtain ⟨t, ht, -, hsome⟩ := matches_of_occurs_replace hr hoccurs
  exact h ⟨t, ht, hsome⟩

/-- The beginning of a text without a match has none. -/
theorem not_occurs_of_prefix (h : ¬ p.Occurs l) (hl : l' <+: l) : ¬ p.Occurs l' := by
  rintro ⟨t, ht, hsome⟩
  obtain ⟨a, rfl⟩ := ht
  obtain ⟨b, rfl⟩ := hl
  refine h ⟨t ++ b, ⟨a, by rw [List.append_assoc]⟩, p.stable t b hsome⟩

/-- No match reaches across the character `c`. -/
def Bounded (p : Pattern α) (c : α) : Prop :=
  ∀ a b, (p.matchLength (a ++ c :: b)).isSome → (p.matchLength a).isSome

/-- A text of two parts with such a character in between. -/
theorem not_occurs_append_cons {a b : List α} {c : α} (hc : p.Bounded c) (ha : ¬ p.Occurs a)
    (hb : ¬ p.Occurs b) : ¬ p.Occurs (a ++ c :: b) := by
  rintro ⟨t, ht, hsome⟩
  rcases List.suffix_or_suffix_of_suffix ht (List.suffix_append a (c :: b)) with
    hinside | ⟨u, rfl⟩
  · rcases List.suffix_cons_iff.mp hinside with rfl | hbehind
    · have hempty := hc [] b hsome
      rw [p.nonempty] at hempty
      cases hempty
    · exact hb ⟨t, hbehind, hsome⟩
  · obtain ⟨v, hv⟩ := ht
    rw [← List.append_assoc] at hv
    exact ha ⟨u, ⟨v, List.append_cancel_right hv⟩, hc u b hsome⟩

/-- A replacement text between two delimiters isolates what is before it from what is behind it, if
no match reaches across a delimiter or begins inside. -/
theorem isolates_of_bounded {o c : α} {body : List α} (ho : p.Bounded o) (hc : p.Bounded c)
    (hbody : ∀ t, t <:+ body → p.matchLength t = none) : p.Isolates (o :: (body ++ [c])) where
  before a b h := ho a (body ++ [c] ++ b) h
  within t b ht hne := by
    rcases List.suffix_cons_iff.mp ht with rfl | hbehind
    · -- A match that begins with the first delimiter would be one of the empty text.
      cases hmatch : p.matchLength (o :: (body ++ [c]) ++ b) with
      | none => rfl
      | some n =>
          have hempty := ho [] (body ++ [c] ++ b) (by
            show (p.matchLength (o :: (body ++ [c]) ++ b)).isSome = true
            rw [hmatch]
            rfl)
          rw [p.nonempty] at hempty
          cases hempty
    · rcases List.suffix_concat_iff.mp hbehind with rfl | ⟨u, rfl, hu⟩
      · exact absurd rfl hne
      · cases hmatch : p.matchLength (u ++ [c] ++ b) with
        | none => rfl
        | some n =>
            have hinside := hc u b (by
              rw [List.append_assoc] at hmatch
              show (p.matchLength (u ++ ([c] ++ b))).isSome = true
              rw [hmatch]
              rfl)
            rw [hbody u hu] at hinside
            cases hinside

end

/-! ### Patterns of texts and runs -/

/-- A part of a pattern: a fixed text, or a run of at least one character of a class. -/
inductive Piece (α : Type) where
  | text (s : List α)
  | run (inClass : α → Bool)

section
variable [DecidableEq α]

/-- The length of the match of several pieces, one after another. -/
def matchPieces : List (Piece α) → List α → Option Nat
  | [], _ => some 0
  | .text s :: ps, l =>
      if s <+: l then (matchPieces ps (l.drop s.length)).map (s.length + ·) else none
  | .run inClass :: ps, l =>
      let n := (l.takeWhile inClass).length
      if n = 0 then none else (matchPieces ps (l.drop n)).map (n + ·)

/-- The piece is not the empty text. -/
def Piece.Visible : Piece α → Prop
  | .text s => s ≠ []
  | .run _ => True

/-- A pattern with a piece that needs a symbol does not match the empty text. -/
theorem matchPieces_nil {ps : List (Piece α)} (hps : ∀ p ∈ ps, p.Visible) (hne : ps ≠ []) :
    matchPieces ps [] = none := by
  cases ps with
  | nil => exact absurd rfl hne
  | cons p ps =>
      cases p with
      | text s =>
          have hs : s ≠ [] := hps _ List.mem_cons_self
          rw [matchPieces, if_neg (fun h => hs (List.prefix_nil.mp h))]
      | run inClass => rfl

omit [DecidableEq α] in
/-- A run that ends inside a text ends there also when the text goes on. -/
theorem takeWhile_append_of_drop {inClass : α → Bool} {l l' : List α}
    (h : l.drop (l.takeWhile inClass).length ≠ []) :
    (l ++ l').takeWhile inClass = l.takeWhile inClass := by
  induction l with
  | nil => exact absurd rfl h
  | cons x l ih =>
      by_cases hx : inClass x = true
      · rw [List.cons_append, List.takeWhile_cons_of_pos hx, List.takeWhile_cons_of_pos hx]
        rw [List.takeWhile_cons_of_pos hx] at h
        rw [ih h]
      · rw [List.cons_append, List.takeWhile_cons_of_neg hx, List.takeWhile_cons_of_neg hx]

omit [DecidableEq α] in
/-- A text that goes on has no shorter run. -/
theorem length_takeWhile_append (inClass : α → Bool) (l l' : List α) :
    (l.takeWhile inClass).length ≤ ((l ++ l').takeWhile inClass).length := by
  induction l with
  | nil => exact Nat.zero_le _
  | cons x l ih =>
      by_cases hx : inClass x = true
      · rw [List.cons_append, List.takeWhile_cons_of_pos hx, List.takeWhile_cons_of_pos hx]
        exact Nat.succ_le_succ ih
      · rw [List.takeWhile_cons_of_neg hx]
        exact Nat.zero_le _

/-- What matches at the start of a text matches there also when more text follows. Only a run that
reaches the end of the text can take more of the longer one, and then no piece is left to match
behind it. -/
theorem matchPieces_stable {ps : List (Piece α)} (hps : ∀ p ∈ ps, p.Visible) (l l' : List α)
    (h : (matchPieces ps l).isSome) : (matchPieces ps (l ++ l')).isSome := by
  induction ps generalizing l with
  | nil => rfl
  | cons p ps ih =>
      have hrest : ∀ p ∈ ps, p.Visible := fun p hp => hps p (List.mem_cons_of_mem _ hp)
      cases p with
      | text s =>
          rw [matchPieces] at h ⊢
          split at h
          · rename_i hs
            rw [Option.isSome_map] at h
            rw [if_pos (hs.trans (List.prefix_append l l')), Option.isSome_map,
              List.drop_append_of_le_length hs.length_le]
            exact ih hrest _ h
          · cases h
      | run inClass =>
          simp only [matchPieces] at h ⊢
          split at h
          · cases h
          · rename_i hn
            rw [Option.isSome_map] at h
            cases ps with
            | nil =>
                -- The last run may become longer.
                have hle := length_takeWhile_append inClass l l'
                rw [if_neg (by omega)]
                rfl
            | cons p ps =>
                have hinside : l.drop (l.takeWhile inClass).length ≠ [] := by
                  intro hempty
                  rw [hempty, matchPieces_nil hrest (List.cons_ne_nil p ps)] at h
                  cases h
                rw [takeWhile_append_of_drop hinside, if_neg hn, Option.isSome_map,
                  List.drop_append_of_le_length (List.takeWhile_prefix inClass).length_le]
                exact ih hrest _ h

/-- The pattern of a text and further pieces behind it. -/
def ofPieces (s : List α) (ps : List (Piece α)) (hs : s ≠ []) (hps : ∀ p ∈ ps, p.Visible) :
    Pattern α where
  matchLength := matchPieces (.text s :: ps)
  nonempty := matchPieces_nil
    (by rintro p (_ | ⟨_, hp⟩); exacts [hs, hps p hp]) (List.cons_ne_nil _ _)
  stable l l' := matchPieces_stable
    (by rintro p (_ | ⟨_, hp⟩); exacts [hs, hps p hp]) l l'

/-- Where a pattern occurs in a text, its first literal piece stands in that text. -/
theorem infix_of_occurs {s : List α} {ps : List (Piece α)} {hs : s ≠ []}
    {hps : ∀ p ∈ ps, p.Visible} {l : List α} (h : (ofPieces s ps hs hps).Occurs l) :
    s <:+: l := by
  obtain ⟨t, ht, hsome⟩ := h
  replace hsome : (matchPieces (.text s :: ps) t).isSome := hsome
  rw [matchPieces] at hsome
  split at hsome
  · rename_i hprefix
    exact hprefix.isInfix.trans ht.isInfix
  · cases hsome

/-- The character occurs in no match of the piece. -/
def Piece.Avoids (c : α) : Piece α → Prop
  | .text s => c ∉ s
  | .run inClass => inClass c = false

omit [DecidableEq α] in
/-- A text without `c` that begins a text begins what is before the first `c`. -/
theorem prefix_of_prefix_append {s a b : List α} {c : α} (hc : c ∉ s) (h : s <+: a ++ c :: b) :
    s <+: a := by
  rcases List.prefix_or_prefix_of_prefix h (List.prefix_append a (c :: b)) with hle | ⟨u, rfl⟩
  · exact hle
  · cases u with
    | nil => rw [List.append_nil]
    | cons x u =>
        obtain ⟨rfl, -⟩ := List.cons_prefix_cons.mp ((List.prefix_append_right_inj a).mp h)
        exact absurd (List.mem_append_right a List.mem_cons_self) hc

omit [DecidableEq α] in
/-- A run stops at a character outside of its class. -/
theorem takeWhile_append_cons {inClass : α → Bool} {c : α} (hc : inClass c = false)
    (a b : List α) : (a ++ c :: b).takeWhile inClass = a.takeWhile inClass := by
  induction a with
  | nil => exact List.takeWhile_cons_of_neg (by rw [hc]; exact Bool.false_ne_true)
  | cons x a ih =>
      by_cases hx : inClass x = true
      · rw [List.cons_append, List.takeWhile_cons_of_pos hx, List.takeWhile_cons_of_pos hx, ih]
      · rw [List.cons_append, List.takeWhile_cons_of_neg hx, List.takeWhile_cons_of_neg hx]

/-- A symbol that no piece of the pattern takes bounds the match: what matches in front of it needs
nothing from behind it. -/
theorem matchPieces_bounded {ps : List (Piece α)} {c : α} (hps : ∀ p ∈ ps, p.Avoids c)
    (a b : List α) (h : (matchPieces ps (a ++ c :: b)).isSome) : (matchPieces ps a).isSome := by
  -- Induction on the pieces. Each piece stops before the symbol `c`, so it takes the same part of
  -- `a` with or without what follows.
  induction ps generalizing a with
  | nil => rfl
  | cons p ps ih =>
      have hrest : ∀ p ∈ ps, p.Avoids c := fun p hp => hps p (List.mem_cons_of_mem _ hp)
      cases p with
      | text s =>
          rw [matchPieces] at h ⊢
          split at h
          · rename_i hs
            have ha : s <+: a := prefix_of_prefix_append (hps _ List.mem_cons_self) hs
            rw [Option.isSome_map, List.drop_append_of_le_length ha.length_le] at h
            rw [if_pos ha, Option.isSome_map]
            exact ih hrest _ h
          · cases h
      | run inClass =>
          simp only [matchPieces] at h ⊢
          rw [takeWhile_append_cons (hps _ List.mem_cons_self) a b] at h
          split at h
          · cases h
          · rename_i hn
            rw [Option.isSome_map,
              List.drop_append_of_le_length (List.takeWhile_prefix inClass).length_le] at h
            rw [if_neg hn, Option.isSome_map]
            exact ih hrest _ h

/-- A character that no piece uses bounds the matches. -/
theorem bounded_ofPieces {s : List α} {ps : List (Piece α)} {hs : s ≠ []}
    {hps : ∀ p ∈ ps, p.Visible} {c : α} (hc : c ∉ s) (havoids : ∀ p ∈ ps, p.Avoids c) :
    (ofPieces s ps hs hps).Bounded c :=
  matchPieces_bounded (by rintro p (_ | ⟨_, hp⟩); exacts [hc, havoids p hp])

/-! ### Fixed texts -/

/-- The pattern that matches one text only. -/
def literal (s : List α) (hs : s ≠ []) : Pattern α := ofPieces s [] hs fun _ h => nomatch h

/-- A literal pattern matches at the start of a text exactly when the text begins with it. -/
theorem literal_matches_iff {s : List α} {hs : s ≠ []} {l : List α} :
    ((literal s hs).matchLength l).isSome ↔ s <+: l := by
  show (matchPieces [.text s] l).isSome ↔ s <+: l
  rw [matchPieces]
  by_cases h : s <+: l
  · simp [h, matchPieces]
  · simp [h]

/-- A text occurs exactly when it is a part. -/
theorem occurs_literal_iff {s : List α} {hs : s ≠ []} {l : List α} :
    (literal s hs).Occurs l ↔ s <:+: l := by
  rw [List.infix_iff_prefix_suffix]
  constructor
  · rintro ⟨t, ht, hmatch⟩
    exact ⟨t, literal_matches_iff.mp hmatch, ht⟩
  · rintro ⟨t, hmatch, ht⟩
    exact ⟨t, ht, literal_matches_iff.mpr hmatch⟩

/-- A text that is no part of the body, and has no delimiter, does not touch the replacement. -/
theorem isolates_literal {s body : List α} {hs : s ≠ []} {o c : α} (ho : o ∉ s) (hc : c ∉ s)
    (hbody : ¬ s <:+: body) : (literal s hs).Isolates (o :: (body ++ [c])) := by
  refine isolates_of_bounded (bounded_ofPieces ho fun _ h => nomatch h)
    (bounded_ofPieces hc fun _ h => nomatch h) fun t ht => ?_
  rw [← Option.not_isSome_iff_eq_none]
  intro hsome
  exact hbody ((literal_matches_iff.mp hsome).isInfix.trans ht.isInfix)

end

end Pattern

end Dcvp.Lib
