import Dcvp.Js

/-!
# `Dcvp.Services.EmailTemplate`: the text of an invitation

`renderInviteEmail` of `services/email-template.ts`. The name of the candidate, the title of the
exam and the link come from people, and they are written into HTML. `escapeHtml` replaces the five
characters that have a meaning there.

`unescapeChars` and `htmlParts` are no functions of the source. They say what a mail program makes of
the text: the characters that it shows, and the tags that it reads.
-/

set_option autoImplicit false

namespace Dcvp.Services

/-- `SendInviteEmailInput`: what an invite mail has to say. The texts are those of operators, so
each may contain markup. -/
structure SendInviteEmailInput where
  candidateId : String
  candidateName : String
  email : String
  examTitle : String
  inviteUrl : String
  deriving DecidableEq

/-- `InviteEmailContent`: the subject and the two bodies of an invite mail. -/
structure InviteEmailContent where
  subject : String
  html : String
  text : String
  deriving DecidableEq

/-- The entity that `escapeHtml` writes for a character. -/
def htmlEntity : Char → Option (List Char)
  | '&' => some "&amp;".toList
  | '<' => some "&lt;".toList
  | '>' => some "&gt;".toList
  | '"' => some "&quot;".toList
  | '\'' => some "&#39;".toList
  | _ => none

/-- `escapeHtml`, on the characters of the text. -/
def escapeChars (value : List Char) : List Char :=
  value.flatMap fun character => (htmlEntity character).getD [character]

/-- `escapeHtml`: the five characters that HTML reads are written as references. -/
def escapeHtml (value : String) : String := String.ofList (escapeChars value.toList)

/-- `renderInviteEmail`: the subject, the HTML with its fields escaped, and the plain text. -/
def renderInviteEmail (input : SendInviteEmailInput) : InviteEmailContent :=
  let candidateName := escapeHtml input.candidateName
  let examTitle := escapeHtml input.examTitle
  let inviteUrl := escapeHtml input.inviteUrl
  { subject := "[DCVP] " ++ input.examTitle ++ " 시험 초대"
    html := "<p>" ++ candidateName ++ "님, " ++ examTitle ++ " 시험에 초대되었습니다.</p>" ++
      "<p>아래 링크로 접속해 환경 점검, 본인 확인, 시험을 순서대로 진행해주세요.</p>" ++
      "<p><a href=\"" ++ inviteUrl ++ "\">" ++ inviteUrl ++ "</a></p>"
    text := input.candidateName ++ "님, " ++ input.examTitle ++ " 시험에 초대되었습니다.\n" ++
      input.inviteUrl }

/-! ### What a mail program reads -/

/-- The characters that a text with entities shows. -/
def unescapeChars : List Char → List Char
  | '&' :: 'a' :: 'm' :: 'p' :: ';' :: rest => '&' :: unescapeChars rest
  | '&' :: 'l' :: 't' :: ';' :: rest => '<' :: unescapeChars rest
  | '&' :: 'g' :: 't' :: ';' :: rest => '>' :: unescapeChars rest
  | '&' :: 'q' :: 'u' :: 'o' :: 't' :: ';' :: rest => '"' :: unescapeChars rest
  | '&' :: '#' :: '3' :: '9' :: ';' :: rest => '\'' :: unescapeChars rest
  | c :: rest => c :: unescapeChars rest
  | [] => []

/-- A part of an HTML text: a tag with what stands between its brackets, or shown text. -/
inductive HtmlPart where
  | tag (content : List Char)
  | shown (text : List Char)
  deriving DecidableEq

/-- The parts of an HTML text. The flag tells whether the reader is inside a tag, and `current`
is the part so far, last character first. -/
def htmlParts : Bool → List Char → List Char → List HtmlPart
  | false, current, [] => [.shown current.reverse]
  | true, current, [] => [.tag current.reverse]
  | false, current, '<' :: rest => .shown current.reverse :: htmlParts true [] rest
  | true, current, '>' :: rest => .tag current.reverse :: htmlParts false [] rest
  | inTag, current, c :: rest => htmlParts inTag (c :: current) rest

end Dcvp.Services
