import Dcvp.Services.EmailTemplate
import Mathlib.Data.List.Basic

/-!
# `Dcvp.Proofs.EmailTemplate`: nobody writes tags into an invitation

`unescapeChars_escapeChars` is the round trip of one value, in front of any further text.
`htmlParts_plain` says that a text without angle brackets is one part for the reader of the HTML.
`renderInviteEmail_html` puts them together: every invitation has the same tags, and it shows the
name, the title and the link as they were given.
-/

set_option autoImplicit false

namespace Dcvp.Proofs

open Dcvp.Services

/-! ### Entities -/

/-- A character that is no `&` is shown as it is. -/
theorem unescapeChars_cons {c : Char} (hc : c ≠ '&') (rest : List Char) :
    unescapeChars (c :: rest) = c :: unescapeChars rest := by
  rw [unescapeChars]
  all_goals intros
  all_goals exact absurd ‹_› hc

/-- An escaped value is shown as it was given, whatever follows it. By induction on the value. -/
theorem unescapeChars_escapeChars (value rest : List Char) :
    unescapeChars (escapeChars value ++ rest) = value ++ unescapeChars rest := by
  induction value with
  | nil => rfl
  | cons c value ih =>
      have hcons : escapeChars (c :: value) ++ rest
          = (htmlEntity c).getD [c] ++ (escapeChars value ++ rest) := by
        rw [escapeChars, List.flatMap_cons, List.append_assoc]
        rfl
      rw [hcons, List.cons_append, ← ih]
      unfold htmlEntity
      split
      · rfl
      · rfl
      · rfl
      · rfl
      · rfl
      · rename_i hamp _ _ _ _
        exact unescapeChars_cons hamp _

/-- An escaped value contains neither a bracket nor a quotation mark, so it ends neither a tag nor
an attribute. -/
theorem notMem_escapeChars (value : List Char) :
    '<' ∉ escapeChars value ∧ '>' ∉ escapeChars value ∧ '"' ∉ escapeChars value := by
  -- Each entity is a fixed text without the three characters, and a character that stays is none of
  -- them.
  have hentity : ∀ c, ∀ d ∈ (htmlEntity c).getD [c], d ≠ '<' ∧ d ≠ '>' ∧ d ≠ '"' := by
    intro c d hd
    have hall : ∀ {entity : List Char},
        (entity.all fun d => decide (d ≠ '<' ∧ d ≠ '>' ∧ d ≠ '"')) = true → d ∈ entity →
          d ≠ '<' ∧ d ≠ '>' ∧ d ≠ '"' :=
      fun h hd => of_decide_eq_true (List.all_eq_true.mp h d hd)
    unfold htmlEntity at hd
    split at hd
    · exact hall (by decide) hd
    · exact hall (by decide) hd
    · exact hall (by decide) hd
    · exact hall (by decide) hd
    · exact hall (by decide) hd
    · rename_i h₁ h₂ h₃ h₄ h₅
      rw [Option.getD_none, List.mem_singleton] at hd
      subst hd
      exact ⟨h₂, h₃, h₄⟩
  refine ⟨fun h => ?_, fun h => ?_, fun h => ?_⟩
  · obtain ⟨c, -, hd⟩ := List.mem_flatMap.mp h
    exact (hentity c _ hd).1 rfl
  · obtain ⟨c, -, hd⟩ := List.mem_flatMap.mp h
    exact (hentity c _ hd).2.1 rfl
  · obtain ⟨c, -, hd⟩ := List.mem_flatMap.mp h
    exact (hentity c _ hd).2.2 rfl

/-! ### Parts -/

/-- The reader goes through a text that does not end its part. -/
theorem htmlParts_append {inTag : Bool} {text : List Char} (h : '<' ∉ text ∧ '>' ∉ text)
    (current rest : List Char) :
    htmlParts inTag current (text ++ rest) = htmlParts inTag (text.reverse ++ current) rest := by
  induction text generalizing current with
  | nil => rfl
  | cons c text ih =>
      obtain ⟨hopen, hclose⟩ := h
      obtain ⟨hc, hopen⟩ := not_or.mp (fun hmem => hopen (List.mem_cons.mpr hmem))
      obtain ⟨hc', hclose⟩ := not_or.mp (fun hmem => hclose (List.mem_cons.mpr hmem))
      have hstep : htmlParts inTag current (c :: (text ++ rest))
          = htmlParts inTag (c :: current) (text ++ rest) := by
        cases inTag
        · rw [htmlParts]
          · intro _ heq
            exact absurd heq.symm hc
          · simp
        · rw [htmlParts]
          · simp
          · intro _ heq
            exact absurd heq.symm hc'
      rw [List.cons_append, hstep, ih ⟨hopen, hclose⟩, List.reverse_cons, List.append_assoc]
      rfl

/-- A shown text up to the next tag. -/
theorem htmlParts_shown {text : List Char} (h : '<' ∉ text ∧ '>' ∉ text) (rest : List Char) :
    htmlParts false [] (text ++ '<' :: rest) = .shown text :: htmlParts true [] rest := by
  rw [htmlParts_append h, List.append_nil, htmlParts, List.reverse_reverse]

/-- A tag up to its end. -/
theorem htmlParts_tag {text : List Char} (h : '<' ∉ text ∧ '>' ∉ text) (rest : List Char) :
    htmlParts true [] (text ++ '>' :: rest) = .tag text :: htmlParts false [] rest := by
  rw [htmlParts_append h, List.append_nil, htmlParts, List.reverse_reverse]

/-! ### The invitation -/

/-- What a mail program takes from a part, with the entities read. -/
def readPart : HtmlPart → HtmlPart
  | .tag content => .tag (unescapeChars content)
  | .shown text => .shown (unescapeChars text)

/-- The parts of an invitation with the given name, title and link. -/
def inviteParts (candidateName examTitle inviteUrl : List Char) : List HtmlPart :=
  [.shown [], .tag "p".toList,
    .shown (candidateName ++ "님, ".toList ++ examTitle ++ " 시험에 초대되었습니다.".toList),
    .tag "/p".toList, .shown [], .tag "p".toList,
    .shown "아래 링크로 접속해 환경 점검, 본인 확인, 시험을 순서대로 진행해주세요.".toList,
    .tag "/p".toList, .shown [], .tag "p".toList, .shown [],
    .tag ("a href=\"".toList ++ inviteUrl ++ "\"".toList), .shown inviteUrl, .tag "/a".toList,
    .shown [], .tag "/p".toList, .shown []]

/-- The parts of the written text, for values without brackets: the tags of the template, and the
values where they belong. -/
theorem htmlParts_invitation {candidateName examTitle inviteUrl : List Char}
    (hname : '<' ∉ candidateName ∧ '>' ∉ candidateName)
    (htitle : '<' ∉ examTitle ∧ '>' ∉ examTitle)
    (hurl : '<' ∉ inviteUrl ∧ '>' ∉ inviteUrl) :
    htmlParts false []
      ("<p>".toList ++ candidateName ++ "님, ".toList ++ examTitle ++
        " 시험에 초대되었습니다.</p>".toList ++
        "<p>아래 링크로 접속해 환경 점검, 본인 확인, 시험을 순서대로 진행해주세요.</p>".toList ++
        "<p><a href=\"".toList ++ inviteUrl ++ "\">".toList ++ inviteUrl ++ "</a></p>".toList)
      = inviteParts candidateName examTitle inviteUrl := by
  have hempty : '<' ∉ ([] : List Char) ∧ '>' ∉ ([] : List Char) := by simp
  have hp : '<' ∉ "p".toList ∧ '>' ∉ "p".toList := by decide
  have hendp : '<' ∉ "/p".toList ∧ '>' ∉ "/p".toList := by decide
  have henda : '<' ∉ "/a".toList ∧ '>' ∉ "/a".toList := by decide
  have hguide : '<' ∉ "아래 링크로 접속해 환경 점검, 본인 확인, 시험을 순서대로 진행해주세요.".toList ∧
      '>' ∉ "아래 링크로 접속해 환경 점검, 본인 확인, 시험을 순서대로 진행해주세요.".toList := by
    decide
  have hgreeting : '<' ∉ candidateName ++ "님, ".toList ++ examTitle ++
        " 시험에 초대되었습니다.".toList ∧
      '>' ∉ candidateName ++ "님, ".toList ++ examTitle ++
        " 시험에 초대되었습니다.".toList := by
    simp [hname, htitle]
  have hanchor : '<' ∉ "a href=\"".toList ++ inviteUrl ++ "\"".toList ∧
      '>' ∉ "a href=\"".toList ++ inviteUrl ++ "\"".toList := by
    simp [hurl]
  -- The text, cut at its brackets.
  calc htmlParts false [] _
      = htmlParts false [] ([] ++ '<' :: ("p".toList ++ '>' ::
          ((candidateName ++ "님, ".toList ++ examTitle ++ " 시험에 초대되었습니다.".toList) ++ '<' ::
          ("/p".toList ++ '>' :: ([] ++ '<' :: ("p".toList ++ '>' ::
          ("아래 링크로 접속해 환경 점검, 본인 확인, 시험을 순서대로 진행해주세요.".toList ++ '<' ::
          ("/p".toList ++ '>' :: ([] ++ '<' :: ("p".toList ++ '>' :: ([] ++ '<' ::
          (("a href=\"".toList ++ inviteUrl ++ "\"".toList) ++ '>' :: (inviteUrl ++ '<' ::
          ("/a".toList ++ '>' :: ([] ++ '<' :: ("/p".toList ++ '>' :: [])))))))))))))))) := by
        simp
    _ = inviteParts candidateName examTitle inviteUrl := by
        rw [htmlParts_shown hempty, htmlParts_tag hp, htmlParts_shown hgreeting,
          htmlParts_tag hendp, htmlParts_shown hempty, htmlParts_tag hp, htmlParts_shown hguide,
          htmlParts_tag hendp, htmlParts_shown hempty, htmlParts_tag hp, htmlParts_shown hempty,
          htmlParts_tag hanchor, htmlParts_shown hurl, htmlParts_tag henda,
          htmlParts_shown hempty, htmlParts_tag hendp]
        rfl

/-- A fixed text without entities is shown as it is. -/
theorem unescapeChars_plain {text : List Char} (h : '&' ∉ text) (rest : List Char) :
    unescapeChars (text ++ rest) = text ++ unescapeChars rest := by
  induction text with
  | nil => rfl
  | cons c text ih =>
      obtain ⟨hc, htext⟩ := not_or.mp (fun hmem => h (List.mem_cons.mpr hmem))
      rw [List.cons_append, unescapeChars_cons (Ne.symm hc), ih htext, List.cons_append]

/-- Whatever the name, the title and the link are: the invitation has the same tags, the link
does not end its attribute, and what is shown is what was given. -/
theorem renderInviteEmail_html (input : SendInviteEmailInput) :
    (htmlParts false [] (renderInviteEmail input).html.toList).map readPart
        = inviteParts input.candidateName.toList input.examTitle.toList input.inviteUrl.toList ∧
      '"' ∉ escapeChars input.inviteUrl.toList ∧
      .tag ("a href=\"".toList ++ escapeChars input.inviteUrl.toList ++ "\"".toList)
        ∈ htmlParts false [] (renderInviteEmail input).html.toList := by
  have hescaped : ∀ value, '<' ∉ escapeChars value ∧ '>' ∉ escapeChars value := fun value =>
    ⟨(notMem_escapeChars value).1, (notMem_escapeChars value).2.1⟩
  -- The markup of the template is fixed, so only the escaped values could add a tag; they contain
  -- none.
  have hparts : htmlParts false [] (renderInviteEmail input).html.toList
      = inviteParts (escapeChars input.candidateName.toList) (escapeChars input.examTitle.toList)
          (escapeChars input.inviteUrl.toList) := by
    rw [← htmlParts_invitation (hescaped _) (hescaped _) (hescaped _)]
    simp [renderInviteEmail, escapeHtml]
  rw [hparts]
  refine ⟨?_, (notMem_escapeChars _).2.2, by simp [inviteParts]⟩
  have hshown : ∀ value, unescapeChars (escapeChars value) = value := fun value => by
    have h := unescapeChars_escapeChars value []
    rwa [List.append_nil, show unescapeChars [] = [] from rfl, List.append_nil] at h
  -- Reading the shown texts back undoes the escaping, also between the fixed words.
  have hgreeting : ∀ name title, unescapeChars (escapeChars name ++ "님, ".toList ++
      escapeChars title ++ " 시험에 초대되었습니다.".toList)
      = name ++ "님, ".toList ++ title ++ " 시험에 초대되었습니다.".toList := by
    intro name title
    rw [List.append_assoc, List.append_assoc, unescapeChars_escapeChars,
      unescapeChars_plain (by decide), unescapeChars_escapeChars]
    rw [List.append_assoc, List.append_assoc]
    rfl
  have hanchor : ∀ url, unescapeChars ("a href=\"".toList ++ escapeChars url ++ "\"".toList)
      = "a href=\"".toList ++ url ++ "\"".toList := by
    intro url
    rw [List.append_assoc, unescapeChars_plain (by decide), unescapeChars_escapeChars,
      List.append_assoc]
    rfl
  unfold inviteParts
  simp only [List.map_cons, List.map_nil, readPart, hshown, hgreeting, hanchor]
  rfl

end Dcvp.Proofs
