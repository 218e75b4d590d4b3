import Dcvp.Lib.Agreement
import Dcvp.Lib.Delimited
import Dcvp.Web.PrivacyMasking

/-!
# `Dcvp.Proofs.PrivacyMasking`: what the masked identifiers hide

A masked text hides some positions when two identifiers that differ in these positions only have the
same masked text. `DiffersInProtected` lists the pairs for each kind of identifier. The digits are
compared without the separators between them.

`maskCardNumber` shows the first six and the last four digits, whatever the length. With 13 to 15
digits the last four reach into the protected ones. `maskIpAddress` takes an address with four
fields between dots for IPv4, also when it ends an IPv6 address. `mask_eq_iff` is the exact
condition for a pair, and `maskCardNumber_hides_iff` the one for a length.
-/

set_option autoImplicit false

namespace Dcvp.Proofs

open Dcvp.Lib
open Dcvp.Js
open Dcvp.Web

/-! ### Pairs that differ in protected positions -/

/-- The five kinds of identifiers of the masking policy, each with a masker of its own. -/
inductive Identifier where
  | emailAddress
  | phoneNumber
  | residentRegistrationNumber
  | cardNumber
  | ipAddress

/-- The masking function of the identifier. -/
def Identifier.mask : Identifier → Units → Units
  | .emailAddress => maskEmailAddress
  | .phoneNumber => maskPhoneNumber
  | .residentRegistrationNumber => maskResidentRegistrationNumber
  | .cardNumber => maskCardNumber
  | .ipAddress => maskIpAddress

/-- Two identifiers of one shape that differ in the protected positions only. Positions count from
0, so the digits 7 to 12 are at the positions 6 to 11. -/
inductive DiffersInProtected : Identifier → Units → Units → Prop
  | emailAddress (localPart localPart' domain : Units) (hdomain : unit '@' ∉ domain)
      (h : AgreeAt (· < 2) localPart localPart') :
      DiffersInProtected .emailAddress (localPart ++ unit '@' :: domain)
        (localPart' ++ unit '@' :: domain)
  | phoneNumber (a b : Units) (hlength : 8 ≤ (digitsOf a).length)
      (h : AgreeAt (fun i => i < 3 ∨ (digitsOf a).length - 4 ≤ i) (digitsOf a) (digitsOf b)) :
      DiffersInProtected .phoneNumber a b
  | residentRegistrationNumber (a b : Units) (hlength : (digitsOf a).length = 13)
      (h : AgreeAt (· < 6) (digitsOf a) (digitsOf b)) :
      DiffersInProtected .residentRegistrationNumber a b
  | cardNumber (a b : Units) (hlength : 13 ≤ (digitsOf a).length)
      (h : AgreeAt (fun i => i < 6 ∨ 12 ≤ i) (digitsOf a) (digitsOf b)) :
      DiffersInProtected .cardNumber a b
  | ipv4Address (first second third third' fourth : Units)
      (hplain : ∀ part ∈ [first, second, third, third', fourth], unit '.' ∉ part) :
      DiffersInProtected .ipAddress (join [first, second, third, fourth] (unit '.'))
        (join [first, second, third', fourth] (unit '.'))
  | ipv6Address (groups : List Units) (last last' : Units) (hgroups : 2 ≤ groups.length)
      (hplain : ∀ group ∈ groups, unit ':' ∉ group ∧ unit '.' ∉ group)
      (hlast : unit ':' ∉ last) (hlast' : unit ':' ∉ last') :
      DiffersInProtected .ipAddress (join (groups ++ [last]) (unit ':'))
        (join (groups ++ [last']) (unit ':'))

/-- Two texts for which the dots matter have the same fields besides the third. -/
def DottedFieldsAgree (a b : Units) : Prop :=
  (split a (unit '.')).length = 4 ∨ (split b (unit '.')).length = 4 →
    (split a (unit '.')).eraseIdx 2 = (split b (unit '.')).eraseIdx 2

/-- When the masked text does not show the difference of two identifiers: a card when the last four
digits agree at the protected positions among them, and an IP address when it has no four fields
between dots or they differ in the third one only. -/
def StaysHidden : Identifier → Units → Units → Prop
  | .cardNumber, a, b =>
      ∀ i < 12, (digitsOf a).length - 4 ≤ i → (digitsOf a)[i]? = (digitsOf b)[i]?
  | .ipAddress, a, b => DottedFieldsAgree a b
  | .emailAddress, _, _ | .phoneNumber, _, _ | .residentRegistrationNumber, _, _ => True

/-! ### Digits -/

/-- The masked phone number shows the first three and the last four digits, and nothing else. -/
theorem maskPhoneNumber_eq {a b : Units}
    (h : AgreeAt (fun i => i < 3 ∨ (digitsOf a).length - 4 ≤ i) (digitsOf a) (digitsOf b)) :
    maskPhoneNumber a = maskPhoneNumber b := by
  have hlength' : (digitsOf b).length = (digitsOf a).length := h.length_eq.symm
  have hfirst : slice (digitsOf a) 0 3 = slice (digitsOf b) 0 3 := by
    rw [show (3 : Int) = ((3 : Nat) : Int) from rfl, slice_zero, slice_zero]
    exact h.take_eq fun i hi => Or.inl hi
  have hlast : sliceFrom (digitsOf a) (-4) = sliceFrom (digitsOf b) (-4) := by
    rw [show (-4 : Int) = -((4 : Nat) : Int) from rfl, sliceFrom_neg _ (by decide),
      sliceFrom_neg _ (by decide), hlength']
    exact h.drop_eq fun i hi => Or.inr hi
  unfold maskPhoneNumber
  simp only [hlength', hfirst, hlast]

/-- The masked registration number shows the first six digits of thirteen. -/
theorem maskResidentRegistrationNumber_eq {a b : Units} (hlength : (digitsOf a).length = 13)
    (h : AgreeAt (· < 6) (digitsOf a) (digitsOf b)) :
    maskResidentRegistrationNumber a = maskResidentRegistrationNumber b := by
  have hfirst : slice (digitsOf a) 0 6 = slice (digitsOf b) 0 6 := by
    rw [show (6 : Int) = ((6 : Nat) : Int) from rfl, slice_zero, slice_zero]
    exact h.take_eq fun i hi => hi
  unfold maskResidentRegistrationNumber
  simp only [← h.length_eq, hlength, hfirst]

/-- Without its hyphens the text is as before, if it had none. By the recursion of `hyphenated`. -/
theorem filter_hyphenated (masked : Units) (h : unit '-' ∉ masked) :
    (hyphenated masked).filter (· ≠ unit '-') = masked := by
  induction masked using hyphenated.induct with
  | case1 a b c d e rest ih =>
      simp only [List.mem_cons, not_or] at h
      obtain ⟨ha, hb, hc, hd, hrest⟩ := h
      have hih := ih (by simpa using hrest)
      simp only [hyphenated, List.filter_cons, hih]
      simp [Ne.symm ha, Ne.symm hb, Ne.symm hc, Ne.symm hd]
  | case2 masked hshort =>
      have hsame : hyphenated masked = masked := by
        unfold hyphenated
        split
        · exact (hshort _ _ _ _ _ _ rfl).elim
        · rfl
      rw [hsame, List.filter_eq_self]
      intro u hu
      simp only [decide_not, Bool.not_eq_true', decide_eq_false_iff_not]
      rintro rfl
      exact h hu

/-- The masked card number before the hyphens. -/
def cardText (digits : Units) : Units :=
  digits.take 6 ++ stars (digits.length - 10) ++ digits.drop (digits.length - 4)

/-- The masked card number is the text without hyphens, with a hyphen between groups of four
signs. -/
theorem maskCardNumber_eq_hyphenated {value : Units} (hlength : 10 ≤ (digitsOf value).length) :
    maskCardNumber value = hyphenated (cardText (digitsOf value)) := by
  have hfirst : slice (digitsOf value) 0 6 = (digitsOf value).take 6 := slice_zero _ 6
  have hlast : sliceFrom (digitsOf value) (-4) =
      (digitsOf value).drop ((digitsOf value).length - 4) := sliceFrom_neg _ (by decide)
  unfold maskCardNumber cardText
  simp only [if_neg (Nat.not_lt.mpr hlength), hfirst, hlast]

/-- Digits and stars are no hyphens, so the hyphens can be taken out again. -/
theorem hyphen_notMem_cardText (value : Units) : unit '-' ∉ cardText (digitsOf value) := by
  have hdigits : unit '-' ∉ digitsOf value := by
    intro h
    have hdigit := (List.mem_filter.mp h).2
    revert hdigit
    decide
  unfold cardText
  simp only [List.mem_append, not_or]
  refine ⟨⟨fun h => hdigits (List.mem_of_mem_take h), fun h => ?_⟩,
    fun h => hdigits (List.mem_of_mem_drop h)⟩
  exact absurd (List.eq_of_mem_replicate h) (by decide)

/-- The hyphens do not make two different texts equal. -/
theorem maskCardNumber_eq_iff_cardText {a b : Units} (ha : 10 ≤ (digitsOf a).length)
    (hb : 10 ≤ (digitsOf b).length) :
    maskCardNumber a = maskCardNumber b ↔ cardText (digitsOf a) = cardText (digitsOf b) := by
  rw [maskCardNumber_eq_hyphenated ha, maskCardNumber_eq_hyphenated hb]
  constructor
  · intro h
    have hfilter := congrArg (List.filter (· ≠ unit '-')) h
    rwa [filter_hyphenated _ (hyphen_notMem_cardText a),
      filter_hyphenated _ (hyphen_notMem_cardText b)] at hfilter
  · exact congrArg hyphenated

/-- Two cards that differ at the positions 6 to 11 have the same masked number when the last four
digits do not show the difference. -/
theorem maskCardNumber_eq_iff {a b : Units} (hlength : 13 ≤ (digitsOf a).length)
    (h : AgreeAt (fun i => i < 6 ∨ 12 ≤ i) (digitsOf a) (digitsOf b)) :
    maskCardNumber a = maskCardNumber b ↔
      ∀ i < 12, (digitsOf a).length - 4 ≤ i → (digitsOf a)[i]? = (digitsOf b)[i]? := by
  have hfirst : (digitsOf a).take 6 = (digitsOf b).take 6 := h.take_eq fun i hi => Or.inl hi
  have hlast := h.drop_eq_iff (n := (digitsOf a).length - 4)
  rw [maskCardNumber_eq_iff_cardText (by omega) (by rw [← h.length_eq]; omega)]
  unfold cardText
  rw [hfirst, ← h.length_eq, List.append_cancel_left_eq, hlast]
  constructor
  · intro heq i hlt hi
    exact heq i hi (by omega)
  · intro heq i hi hP
    exact heq i (by omega) hi

/-- The twelfth digit of a card of 13 to 15 digits is one of the last four. -/
theorem maskCardNumber_shows_twelfth {n : Nat} (hlow : 13 ≤ n) (hhigh : n < 16) :
    ∃ a b, (digitsOf a).length = n ∧
      AgreeAt (fun i => i < 6 ∨ 12 ≤ i) (digitsOf a) (digitsOf b) ∧
        maskCardNumber a ≠ maskCardNumber b := by
  refine ⟨List.replicate n (unit '0'), (List.replicate n (unit '0')).set 11 (unit '1'), ?_⟩
  revert hlow
  revert n
  decide +kernel

/-- The protected digits of every card of a length are hidden exactly when the last four digits are
behind them. -/
theorem maskCardNumber_hides_iff {n : Nat} (hn : 13 ≤ n) :
    (∀ a b, (digitsOf a).length = n →
      AgreeAt (fun i => i < 6 ∨ 12 ≤ i) (digitsOf a) (digitsOf b) →
        maskCardNumber a = maskCardNumber b) ↔ 16 ≤ n := by
  constructor
  · intro hall
    by_contra hshort
    obtain ⟨a, b, hlength, h, hne⟩ := maskCardNumber_shows_twelfth hn (Nat.not_le.mp hshort)
    exact hne (hall a b hlength h)
  · intro hlong a b hlength h
    rw [maskCardNumber_eq_iff (by omega) h]
    intro i hlt hi
    omega

/-! ### Email addresses -/

/-- The last `@` ends the local part, of which two units are shown. At least one star stands for
the rest. -/
theorem maskEmailAddress_append {localPart domain : Units} (hdomain : unit '@' ∉ domain)
    (hne : localPart ≠ []) :
    maskEmailAddress (localPart ++ unit '@' :: domain) =
      localPart.take 2 ++ stars (max 1 (localPart.length - 2)) ++ unit '@' :: domain := by
  have hpos : 0 < localPart.length := List.length_pos_iff.mpr hne
  have hlocal : slice (localPart ++ unit '@' :: domain) 0 localPart.length = localPart := by
    rw [slice_zero, List.take_left]
  have hdomainPart :
      sliceFrom (localPart ++ unit '@' :: domain) (localPart.length + 1) = domain := by
    rw [← Nat.cast_succ, sliceFrom_natCast, List.drop_append, List.drop_eq_nil_of_le (by omega)]
    simp
  have hvisible : slice localPart 0 (min 2 localPart.length : Nat) = localPart.take 2 := by
    rw [slice_zero, ← List.take_eq_take_min]
  have hhidden : localPart.length - min 2 localPart.length = localPart.length - 2 := by omega
  unfold maskEmailAddress
  simp only [lastIndexOf_append hdomain]
  rw [if_neg (by omega)]
  simp only [hlocal, hdomainPart, hvisible, hhidden]

/-- The masked address shows the first two signs in front of the last `@`, and all of the domain.
-/
theorem maskEmailAddress_eq {localPart localPart' domain : Units} (hdomain : unit '@' ∉ domain)
    (h : AgreeAt (· < 2) localPart localPart') :
    maskEmailAddress (localPart ++ unit '@' :: domain) =
      maskEmailAddress (localPart' ++ unit '@' :: domain) := by
  by_cases hempty : localPart = []
  · -- An address that begins with `@` has no local part, and neither has the other one.
    subst hempty
    rw [List.eq_nil_of_length_eq_zero h.length_eq.symm]
  · have hempty' : localPart' ≠ [] := by
      rw [← List.length_pos_iff, ← h.length_eq]
      exact List.length_pos_iff.mpr hempty
    have hfirst : localPart.take 2 = localPart'.take 2 := h.take_eq fun i hi => hi
    rw [maskEmailAddress_append hdomain hempty, maskEmailAddress_append hdomain hempty',
      hfirst, h.length_eq]

/-! ### Names and addresses -/

/-- Of a name the first and the last character are shown. -/
theorem maskNamePart_eq {a b : Units} (hlength : (codePoints a).length = (codePoints b).length)
    (hfirst : (codePoints a).head? = (codePoints b).head?)
    (hlast : (codePoints a).getLast? = (codePoints b).getLast?) :
    maskNamePart a = maskNamePart b := by
  unfold maskNamePart
  generalize codePoints a = xs at *
  generalize codePoints b = ys at *
  rcases xs with _ | ⟨x, _ | ⟨x', _ | ⟨x'', xs⟩⟩⟩ <;>
    rcases ys with _ | ⟨y, _ | ⟨y', _ | ⟨y'', ys⟩⟩⟩ <;>
    simp_all [List.getLast?_eq_some_getLast]

/-- Of a postal address everything but the digits is shown. -/
theorem maskAddress_eq {a b : Units}
    (h : List.Forall₂ (fun u v => u = v ∨ isDigitUnit u ∧ isDigitUnit v) a b) :
    maskAddress a = maskAddress b := by
  induction h with
  | nil => rfl
  | cons hunit _ ih =>
      unfold maskAddress at ih ⊢
      rw [List.map_cons, List.map_cons, ih]
      rcases hunit with rfl | ⟨hu, hv⟩
      · rfl
      · rw [if_pos hu, if_pos hv]

/-! ### IP addresses -/

/-- Four fields between dots are an IPv4 address for the source. -/
theorem maskIpAddress_eq_join {value : Units} (h : (split value (unit '.')).length = 4) :
    maskIpAddress value = join ((split value (unit '.')).set 2 (stars 3)) (unit '.') := by
  obtain ⟨first, second, third, fourth, hfields⟩ := List.length_eq_four.mp h
  unfold maskIpAddress
  rw [hfields]
  simp [join, List.intercalate_cons_cons, List.intercalate_singleton]

/-- Any other text with two colons or more is an IPv6 address. -/
theorem maskIpAddress_eq_join_groups {groups : List Units} {last : Units}
    (hgroups : 2 ≤ groups.length) (hplain : ∀ group ∈ groups, unit ':' ∉ group)
    (hlast : unit ':' ∉ last)
    (h : (split (join (groups ++ [last]) (unit ':')) (unit '.')).length ≠ 4) :
    maskIpAddress (join (groups ++ [last]) (unit ':')) =
      join (groups ++ [stars 4]) (unit ':') := by
  have hparts : split (join (groups ++ [last]) (unit ':')) (unit ':') = groups ++ [last] := by
    refine split_join ?_ (by simp)
    simpa [or_imp, forall_and] using ⟨hplain, hlast⟩
  have hkept : slice (groups ++ [last]) 0 (-1) = groups := by
    rw [slice_zero_neg_one, List.dropLast_concat]
  unfold maskIpAddress
  split
  · rename_i hfields
    exact absurd (by rw [hfields]; rfl) h
  · simp only [hparts, hkept]
    rw [if_pos (by simp; omega)]

/-- The last group of this IPv6 address has four fields between dots. -/
example : maskIpAddress (units "::ffff:192.0.2.17") = units "::ffff:192.0.***.17" := by
  decide +kernel

/-- To replace the third of four fields hides this field and no other. -/
theorem set_two_eq_iff {xs ys : List Units} (x : Units) (hx : xs.length = 4)
    (hy : ys.length = 4) : xs.set 2 x = ys.set 2 x ↔ xs.eraseIdx 2 = ys.eraseIdx 2 := by
  obtain ⟨a, b, c, d, rfl⟩ := List.length_eq_four.mp hx
  obtain ⟨a', b', c', d', rfl⟩ := List.length_eq_four.mp hy
  simp

/-- With four fields between dots, the masked addresses agree exactly when the fields besides the
third do. -/
theorem maskIpAddress_eq_iff {a b : Units} (ha : (split a (unit '.')).length = 4)
    (hb : (split b (unit '.')).length = 4) :
    maskIpAddress a = maskIpAddress b ↔
      (split a (unit '.')).eraseIdx 2 = (split b (unit '.')).eraseIdx 2 := by
  have hplain : ∀ value, ∀ part ∈ (split value (unit '.')).set 2 (stars 3), unit '.' ∉ part := by
    intro value part hpart
    rcases List.mem_or_eq_of_mem_set hpart with hfield | rfl
    · exact notMem_of_mem_split hfield
    · decide
  have hne : ∀ value, (split value (unit '.')).length = 4 →
      (split value (unit '.')).set 2 (stars 3) ≠ [] := by
    intro value hlength
    apply List.ne_nil_of_length_pos
    rw [List.length_set, hlength]
    decide
  rw [maskIpAddress_eq_join ha, maskIpAddress_eq_join hb, ← set_two_eq_iff (stars 3) ha hb]
  constructor
  · intro h
    rw [← split_join (hplain a) (hne a ha), h, split_join (hplain b) (hne b hb)]
  · intro h
    rw [h]

/-- The masked text of an IPv6 address without dots has none either. -/
theorem dot_notMem_join_groups {groups : List Units}
    (hplain : ∀ group ∈ groups, unit '.' ∉ group) :
    unit '.' ∉ join (groups ++ [stars 4]) (unit ':') := by
  intro h
  rcases mem_join h with heq | ⟨part, hpart, hdot⟩
  · exact absurd heq (by decide)
  · rcases List.mem_append.mp hpart with hgroup | hstars
    · exact hplain part hgroup hdot
    · rw [List.mem_singleton.mp hstars] at hdot
      exact absurd hdot (by decide)

/-- An address with four fields between dots is masked to one with dots. So it is not taken for a
masked IPv6 address. -/
theorem dot_mem_maskIpAddress {value : Units} (h : (split value (unit '.')).length = 4) :
    unit '.' ∈ maskIpAddress value := by
  obtain ⟨first, second, third, fourth, hfields⟩ := List.length_eq_four.mp h
  unfold maskIpAddress
  rw [hfields]
  simp

/-- A text with the same fields besides the third has four fields as well. -/
theorem length_eq_four_of_eraseIdx_eq {xs ys : List Units} (hx : xs.length = 4)
    (h : xs.eraseIdx 2 = ys.eraseIdx 2) : ys.length = 4 := by
  have hlength := congrArg List.length h
  rw [List.length_eraseIdx, List.length_eraseIdx] at hlength
  split at hlength <;> split at hlength <;> omega

/-- Two addresses with one list of groups and different last groups. The last group is hidden,
unless the dots in it make the text one with four fields. -/
theorem maskIpAddress_groups_eq_iff {groups : List Units} {last last' : Units}
    (hgroups : 2 ≤ groups.length)
    (hplain : ∀ group ∈ groups, unit ':' ∉ group ∧ unit '.' ∉ group)
    (hlast : unit ':' ∉ last) (hlast' : unit ':' ∉ last') :
    maskIpAddress (join (groups ++ [last]) (unit ':')) =
        maskIpAddress (join (groups ++ [last']) (unit ':')) ↔
      DottedFieldsAgree (join (groups ++ [last]) (unit ':'))
        (join (groups ++ [last']) (unit ':')) := by
  have hcolon : ∀ group ∈ groups, unit ':' ∉ group := fun group h => (hplain group h).1
  have hdot : unit '.' ∉ join (groups ++ [stars 4]) (unit ':') :=
    dot_notMem_join_groups fun group h => (hplain group h).2
  have hmask := maskIpAddress_eq_join_groups hgroups hcolon hlast
  have hmask' := maskIpAddress_eq_join_groups hgroups hcolon hlast'
  generalize join (groups ++ [last]) (unit ':') = a at *
  generalize join (groups ++ [last']) (unit ':') = b at *
  unfold DottedFieldsAgree
  by_cases ha : (split a (unit '.')).length = 4 <;> by_cases hb : (split b (unit '.')).length = 4
  · rw [maskIpAddress_eq_iff ha hb]
    exact ⟨fun h _ => h, fun h => h (Or.inl ha)⟩
  · -- The masked text of the first has dots, the other one has none.
    have hne : maskIpAddress a ≠ maskIpAddress b := fun h =>
      hdot (hmask' hb ▸ h ▸ dot_mem_maskIpAddress ha)
    exact iff_of_false hne fun h => hb (length_eq_four_of_eraseIdx_eq ha (h (Or.inl ha)))
  · have hne : maskIpAddress a ≠ maskIpAddress b := fun h =>
      hdot (hmask ha ▸ h.symm ▸ dot_mem_maskIpAddress hb)
    exact iff_of_false hne fun h => ha (length_eq_four_of_eraseIdx_eq hb (h (Or.inr hb)).symm)
  · rw [hmask ha, hmask' hb]
    exact iff_of_true rfl fun h => absurd h (not_or.mpr ⟨ha, hb⟩)

/-- Two IPv4 addresses that differ in the third octet have the same masked text. -/
theorem maskIpAddress_octets {first second third third' fourth : Units}
    (hplain : ∀ part ∈ [first, second, third, third', fourth], unit '.' ∉ part) :
    maskIpAddress (join [first, second, third, fourth] (unit '.')) =
        maskIpAddress (join [first, second, third', fourth] (unit '.')) ∧
      DottedFieldsAgree (join [first, second, third, fourth] (unit '.'))
        (join [first, second, third', fourth] (unit '.')) := by
  have hfields : split (join [first, second, third, fourth] (unit '.')) (unit '.') =
      [first, second, third, fourth] :=
    split_join (fun part hpart => hplain part (by simp at hpart ⊢; tauto)) (by simp)
  have hfields' : split (join [first, second, third', fourth] (unit '.')) (unit '.') =
      [first, second, third', fourth] :=
    split_join (fun part hpart => hplain part (by simp at hpart ⊢; tauto)) (by simp)
  constructor
  · rw [maskIpAddress_eq_iff (by rw [hfields]; rfl) (by rw [hfields']; rfl), hfields, hfields']
    rfl
  · intro _
    rw [hfields, hfields']
    rfl

/-! ### Every identifier -/

/-- A masked text hides the difference of two identifiers in protected positions exactly when
`StaysHidden` holds of them. -/
theorem mask_eq_iff {identifier : Identifier} {a b : Units}
    (h : DiffersInProtected identifier a b) :
    identifier.mask a = identifier.mask b ↔ StaysHidden identifier a b := by
  cases h with
  | emailAddress localPart localPart' domain hdomain h =>
      exact iff_of_true (maskEmailAddress_eq hdomain h) trivial
  | phoneNumber _ _ hlength h => exact iff_of_true (maskPhoneNumber_eq h) trivial
  | residentRegistrationNumber _ _ hlength h =>
      exact iff_of_true (maskResidentRegistrationNumber_eq hlength h) trivial
  | cardNumber _ _ hlength h => exact maskCardNumber_eq_iff hlength h
  | ipv4Address first second third third' fourth hplain =>
      obtain ⟨hmask, hfields⟩ := maskIpAddress_octets hplain
      exact iff_of_true hmask hfields
  | ipv6Address groups last last' hgroups hplain hlast hlast' =>
      exact maskIpAddress_groups_eq_iff hgroups hplain hlast hlast'

/-- Two numbers of 15 digits that differ at the positions 6 to 8. -/
theorem mask_eq_of_middle_digits :
    DiffersInProtected .cardNumber (units "3714-496353-98431") (units "3714-490003-98431") ∧
      Identifier.cardNumber.mask (units "3714-496353-98431") =
        Identifier.cardNumber.mask (units "3714-490003-98431") := by
  have hdiffers :
      DiffersInProtected .cardNumber (units "3714-496353-98431") (units "3714-490003-98431") :=
    .cardNumber _ _ (by decide +kernel) (by decide +kernel)
  have hhidden :
      StaysHidden .cardNumber (units "3714-496353-98431") (units "3714-490003-98431") := by
    unfold StaysHidden
    decide +kernel
  exact ⟨hdiffers, (mask_eq_iff hdiffers).mpr hhidden⟩

/-- The twelfth digit is protected, and the fourth digit from the end of 15. -/
theorem mask_shows_twelfth_digit :
    DiffersInProtected .cardNumber (units "3714-496353-98431") (units "3714-496353-90431") ∧
      Identifier.cardNumber.mask (units "3714-496353-98431") ≠
        Identifier.cardNumber.mask (units "3714-496353-90431") :=
  ⟨.cardNumber _ _ (by decide +kernel) (by decide +kernel), by decide +kernel⟩

end Dcvp.Proofs
