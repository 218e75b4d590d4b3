import Dcvp.Proofs.BoundedResponse
import Dcvp.Services.EmailDelivery

/-!
# `Dcvp.Proofs.EmailDelivery`: what an invitation reveals

`redact_removes_keys` says that no text which `redactSensitiveText` returns contains anything
that looks like an API key, and `redact_removes_secret` that it contains no configured secret. A
secret can hide in the mark itself, so the second result leaves out secrets with a bracket and the
parts of `REDACTED_API_KEY`. Both are cases of the rules of `Lib.Replacement`: a replacement
removes the matches of its pattern, and the later ones bring none back.

A provider accepts a mail with the status of its answer (`ProviderAccepted`). The adapter of Resend
reads the body before it looks at the status, so an accepted mail whose answer cannot be read
counts as not sent (`AnswerRead`).

`concluded_sendInvite` describes a call: it ends without a request because of the configuration,
or after one request, and is delivered exactly when the provider has accepted it and its answer
was read. `inviteEmailLog_truthful` carries that to the log that people read.
-/

set_option autoImplicit false

namespace Dcvp.Proofs

open Dcvp.Lib
open Dcvp.Services
open Dcvp.Services.PlatformStore
open Dcvp.Shared

/-! ### Redaction -/

/-- A cut text is a beginning of the text. -/
theorem takeUnits_prefix (s : String) (n : Nat) : (Js.takeUnits s n).toList <+: s.toList := by
  unfold Js.takeUnits
  rw [String.toList_ofList]
  generalize s.toList = text
  induction text generalizing n with
  | nil => exact List.prefix_refl _
  | cons c text ih =>
      rw [Js.takeUnits.go]
      by_cases hfits : (if c.toNat < 0x10000 then 1 else 2) ≤ n
      · rw [if_pos hfits]
        exact List.cons_prefix_cons.mpr ⟨rfl, ih _⟩
      · rw [if_neg hfits]
        exact List.nil_prefix

/-- The three patterns of keys that `redactSensitiveText` replaces, in its order. -/
def keyPatterns : List (Pattern Char) := [resendKeyPattern, sendGridKeyPattern, secretKeyPattern]

/-- A key ends at a bracket, at a blank and at a quotation mark. -/
theorem keyPattern_bounded {p : Pattern Char} (hp : p ∈ keyPatterns) {c : Char}
    (hc : c = '[' ∨ c = ']' ∨ c = ' ' ∨ c = '"') : p.Bounded c := by
  have hfree : c ∉ "re_".toList ∧ c ∉ "SG.".toList ∧ c ∉ "sk-".toList ∧ c ∉ ".".toList ∧
      isWordCharacter c = false ∧ isKeyCharacter c = false := by
    rcases hc with rfl | rfl | rfl | rfl <;> decide
  obtain ⟨hre, hsg, hsk, hdot, hword, hkey⟩ := hfree
  rcases List.mem_cons.mp hp with rfl | hp
  · exact Pattern.bounded_ofPieces hre (by simpa [Pattern.Piece.Avoids] using hword)
  · rcases List.mem_cons.mp hp with rfl | hp
    · refine Pattern.bounded_ofPieces hsg ?_
      intro piece hpiece
      simp only [List.mem_cons, List.not_mem_nil, or_false] at hpiece
      rcases hpiece with rfl | rfl | rfl
      · exact hkey
      · exact hdot
      · exact hkey
    · rw [List.mem_singleton.mp hp]
      exact Pattern.bounded_ofPieces hsk (by simpa [Pattern.Piece.Avoids] using hkey)

/-- No key begins in the mark, and none reaches into it. -/
theorem keyPattern_isolates {p : Pattern Char} (hp : p ∈ keyPatterns) :
    p.Isolates redactedMark := by
  refine Pattern.isolates_of_bounded (keyPattern_bounded hp (Or.inl rfl))
    (keyPattern_bounded hp (Or.inr (Or.inl rfl))) fun t ht => ?_
  have hall : ∀ p ∈ keyPatterns, ∀ t ∈ redactedBody.tails, p.matchLength t = none := by
    unfold keyPatterns
    decide +kernel
  exact hall p hp t ((List.mem_tails _ _).mpr ht)

/-- The replacement of the secrets brings no match back. -/
theorem not_occurs_replaceSecrets {p : Pattern Char} (hp : p.Isolates redactedMark)
    (secrets : List String) {text : List Char} (h : ¬ p.Occurs text) :
    ¬ p.Occurs (secrets.foldl replaceSecret text) := by
  induction secrets generalizing text with
  | nil => exact h
  | cons secret secrets ih =>
      refine ih ?_
      unfold replaceSecret
      split
      · exact Pattern.not_occurs_replace_of hp h
      · exact h

/-- What does not occur before the cut does not occur behind it. -/
theorem not_occurs_redactSensitiveText {p : Pattern Char} {env : EmailEnv} {value : String}
    (h : ¬ p.Occurs (env.secrets.foldl replaceSecret (secretKeyPattern.replace redactedMark
      (sendGridKeyPattern.replace redactedMark
        (resendKeyPattern.replace redactedMark value.toList))))) :
    ¬ p.Occurs (redactSensitiveText env value).toList := by
  refine Pattern.not_occurs_of_prefix h ?_
  have hcut := takeUnits_prefix (String.ofList (env.secrets.foldl replaceSecret
    (secretKeyPattern.replace redactedMark (sendGridKeyPattern.replace redactedMark
      (resendKeyPattern.replace redactedMark value.toList))))) 500
  rwa [String.toList_ofList] at hcut

/-- A redacted text contains nothing that looks like an API key, whatever the text was. -/
theorem redact_removes_keys (env : EmailEnv) (value : String) (p : Pattern Char)
    (hp : p ∈ keyPatterns) : ¬ p.Occurs (redactSensitiveText env value).toList := by
  have hisolates := keyPattern_isolates hp
  refine not_occurs_redactSensitiveText (not_occurs_replaceSecrets hisolates env.secrets ?_)
  -- Each pattern is removed by its own replacement, and the ones behind it bring it not back.
  rcases List.mem_cons.mp hp with rfl | hp
  · exact Pattern.not_occurs_replace_of hisolates (Pattern.not_occurs_replace_of hisolates
      (Pattern.not_occurs_replace hisolates _))
  · rcases List.mem_cons.mp hp with rfl | hp
    · exact Pattern.not_occurs_replace_of hisolates (Pattern.not_occurs_replace hisolates _)
    · rw [List.mem_singleton.mp hp] at hisolates ⊢
      exact Pattern.not_occurs_replace hisolates _

/-- A secret that cannot be taken for a part of the mark. -/
structure Unmistakable (secret : List Char) : Prop where
  nonempty : secret ≠ []
  opening : '[' ∉ secret
  closing : ']' ∉ secret
  body : ¬ secret <:+: redactedBody

/-- A match of such a secret lies outside the mark. It has no bracket, so it cannot reach over an
end of the mark, and it is no part of what the brackets enclose. -/
theorem Unmistakable.isolates {secret : List Char} (h : Unmistakable secret) :
    (Pattern.literal secret h.nonempty).Isolates redactedMark :=
  Pattern.isolates_literal h.opening h.closing h.body

/-- A redacted text contains no configured secret that cannot be taken for a part of the mark. -/
theorem redact_removes_secret (env : EmailEnv) (value secret : String)
    (hsecret : secret ∈ env.secrets) (hclear : Unmistakable secret.toList) :
    ¬ secret.toList <:+: (redactSensitiveText env value).toList := by
  rw [← @Pattern.occurs_literal_iff Char _ secret.toList hclear.nonempty]
  refine not_occurs_redactSensitiveText ?_
  obtain ⟨before, after, hsplit⟩ := List.append_of_mem hsecret
  rw [hsplit, List.foldl_append, List.foldl_cons]
  refine not_occurs_replaceSecrets hclear.isolates after ?_
  unfold replaceSecret
  rw [dif_pos hclear.nonempty]
  exact Pattern.not_occurs_replace hclear.isolates _

/-- What people read of an answer: nothing in it looks like an API key, and no configured secret
is in it that cannot be taken for a part of the mark. -/
theorem redactSensitiveText_reveals_nothing (env : EmailEnv) (value : String) :
    (∀ p ∈ keyPatterns, ¬ p.Occurs (redactSensitiveText env value).toList) ∧
      ∀ secret ∈ env.secrets, Unmistakable secret.toList →
        ¬ secret.toList <:+: (redactSensitiveText env value).toList :=
  ⟨redact_removes_keys env value, redact_removes_secret env value⟩

/-! ### The messages of a call -/

/-- No part of the message has the form of a provider's key, at any position. -/
def ShowsNoKey (message : String) : Prop := ∀ p ∈ keyPatterns, ¬ p.Occurs message.toList

instance (message : String) : Decidable (ShowsNoKey message) :=
  inferInstanceAs (Decidable (∀ p ∈ keyPatterns, ¬ p.Occurs message.toList))

/-- Two parts of a message with a character in between at which keys end. -/
theorem showsNoKey_append {a b : String} {c : Char} (hc : c = '[' ∨ c = ']' ∨ c = ' ' ∨ c = '"')
    (ha : ShowsNoKey a) (hb : ShowsNoKey b) : ShowsNoKey (a ++ String.singleton c ++ b) := by
  intro p hp
  have hsplit : (a ++ String.singleton c ++ b).toList = a.toList ++ c :: b.toList := by simp
  rw [hsplit]
  exact Pattern.not_occurs_append_cons (keyPattern_bounded hp hc) (ha p hp) (hb p hp)

/-- A text without the letters `r`, `s` and `S` shows no key. -/
theorem showsNoKey_of_notMem {message : String}
    (h : 'r' ∉ message.toList ∧ 'S' ∉ message.toList ∧ 's' ∉ message.toList) :
    ShowsNoKey message := by
  intro p hp hoccurs
  rcases List.mem_cons.mp hp with rfl | hp
  · exact h.1 ((Pattern.infix_of_occurs hoccurs).subset (by decide))
  · rcases List.mem_cons.mp hp with rfl | hp
    · exact h.2.1 ((Pattern.infix_of_occurs hoccurs).subset (by decide))
    · rw [List.mem_singleton.mp hp] at hoccurs
      exact h.2.2 ((Pattern.infix_of_occurs hoccurs).subset (by decide))

/-- The number of an HTTP status shows no API key: it is made of digits, and no prefix of a key is.
-/
theorem showsNoKey_status (status : Nat) : ShowsNoKey ("(" ++ decimal status ++ "):") := by
  have hdigits : ∀ c ∈ (decimal status).toList, c.isDigit = true := by
    intro c hc
    unfold decimal at hc
    rw [String.toList_ofList] at hc
    exact Nat.isDigit_of_mem_toDigits (by decide) (by decide) hc
  refine showsNoKey_of_notMem ⟨?_, ?_, ?_⟩ <;>
  · simp only [String.toList_append, List.mem_append, not_or]
    exact ⟨⟨by decide, fun h => absurd (hdigits _ h) (by decide)⟩, by decide⟩

/-- The message about a provider that refuses shows no API key, since the text of the provider in
it has been redacted. -/
theorem showsNoKey_refusal (env : EmailEnv) {head : String} (hhead : ShowsNoKey head)
    (status : Nat) (value : String) :
    ShowsNoKey (head ++ " (" ++ decimal status ++ "): " ++ redactSensitiveText env value) := by
  have h := showsNoKey_append (Or.inr (Or.inr (Or.inl rfl)))
    (showsNoKey_append (Or.inr (Or.inr (Or.inl rfl))) hhead (showsNoKey_status status))
    (redact_removes_keys env value)
  have hsame : head ++ " (" ++ decimal status ++ "): " ++ redactSensitiveText env value
      = head ++ String.singleton ' ' ++ ("(" ++ decimal status ++ "):") ++ String.singleton ' ' ++
        redactSensitiveText env value := by
    apply String.toList_inj.mp
    simp
  rw [hsame]
  exact h

/-! ### The end of a call -/

section
variable {S : Type} {ctx : EmailContext S}

/-- The provider has accepted the mail: SendGrid with its own status, the others with any
success. -/
def ProviderAccepted (provider : String) (response : ProviderResponse) : Prop :=
  if provider = "sendgrid" then response.status = 202 else response.ok = true

/-- The answer of the provider could be read, as far as the adapter needs it. Only the adapter of
Resend reads the body of every answer: one that breaks off, and one that is too large and is no
JSON, ends the call. -/
def AnswerRead (ctx : EmailContext S) (provider : String) (response : ProviderResponse) : Prop :=
  provider = "resend" → ∃ body, readProviderResponse ctx response = .ok body

/-- The mail counts as sent: the provider accepted it and `sendInvite` could read the answer. -/
def Delivers (ctx : EmailContext S) (provider : String) (response : ProviderResponse) : Prop :=
  ProviderAccepted provider response ∧ AnswerRead ctx provider response

/-- How an adapter ends after an answer: it reports a delivery exactly for an accepted request, and
no text that it returns or throws shows the key. -/
inductive Ended (response : ProviderResponse) (accepted : Prop) :
    Except SendInviteError SendInviteEmailResult → Prop
  | sent (result : SendInviteEmailResult) (hdelivered : result.delivered = true)
      (hmessage : ShowsNoKey result.message) (haccepted : accepted) :
      Ended response accepted (.ok result)
  | refused (provider message : String) (hmessage : ShowsNoKey message)
      (hrefused : ¬ accepted) : Ended response accepted (.error (.configuration provider message))
  | broken (message : String) (hbroken : breaksOff response.body = some message)
      (hrefused : ¬ accepted) : Ended response accepted (.error (.error message))

/-- A text of the body, or the reason why there is none. -/
theorem ended_boundedProviderText {provider : String} {response : ProviderResponse}
    {accepted : Prop} {error : SendInviteError}
    (hprovider : ShowsNoKey (provider ++ " 응답 크기가 허용 범위를 초과했습니다."))
    (haccepted : ¬ accepted) (h : boundedProviderText ctx provider response = .error error) :
    Ended response accepted (.error error) := by
  unfold boundedProviderText at h
  split at h
  · cases h
  · cases h
    exact .refused provider _ hprovider haccepted
  · rename_i message hread
    cases h
    exact .broken message (breaksOff_of_readBoundedText hread) haccepted

/-- The body of Resend's answer, or the reason why there is none. -/
theorem ended_readProviderResponse {response : ProviderResponse} {accepted : Prop}
    {error : SendInviteError} (haccepted : ¬ accepted)
    (h : readProviderResponse ctx response = .error error) :
    Ended response accepted (.error error) := by
  unfold readProviderResponse at h
  split at h
  · split at h
    · cases h
    · cases h
    · rename_i message hread
      cases h
      unfold readBoundedJson at hread
      split at hread
      · rename_i hstream
        cases hread
        exact .broken message (breaksOff_of_readBoundedText hstream) haccepted
      · split at hread <;> cases hread
  · cases htext : boundedProviderText ctx "resend" response with
    | ok text => rw [htext] at h; cases h
    | error own =>
        rw [htext] at h
        cases h
        exact ended_boundedProviderText (by decide +kernel) haccepted htext

/-- The adapter of Resend reads the body first. Without it the mail is not sent, whatever the
status says. -/
theorem ended_finishResend (response : ProviderResponse) :
    Ended response (Delivers ctx "resend" response) (finishResend ctx response) := by
  have hiff : Delivers ctx "resend" response ↔
      response.ok = true ∧ ∃ body, readProviderResponse ctx response = .ok body := by
    simp [Delivers, ProviderAccepted, AnswerRead]
  unfold finishResend
  cases hbody : readProviderResponse ctx response with
  | error error =>
      refine ended_readProviderResponse (fun haccepted => ?_) hbody
      obtain ⟨-, body, hok⟩ := hiff.mp haccepted
      rw [hbody] at hok
      cases hok
  | ok body =>
      cases hstatus : response.ok with
      | true =>
          have hmessage : ShowsNoKey "Resend Email API로 초대 메일 발송 요청을 완료했습니다." := by
            decide +kernel
          exact .sent _ rfl hmessage (hiff.mpr ⟨hstatus, body, hbody⟩)
      | false =>
          refine .refused _ _ (@showsNoKey_refusal ctx.env "Resend 발송 실패"
            (by decide +kernel) response.status (providerErrorMessage body)) fun haccepted => ?_
          rw [(hiff.mp haccepted).1] at hstatus
          cases hstatus

/-- The adapter of SendGrid looks at its own status, and reads the body for the message only. -/
theorem ended_finishSendGrid (response : ProviderResponse) :
    Ended response (Delivers ctx "sendgrid" response) (finishSendGrid ctx response) := by
  have hiff : Delivers ctx "sendgrid" response ↔ response.status = 202 := by
    simp [Delivers, ProviderAccepted, AnswerRead]
  unfold finishSendGrid
  split
  · rename_i hstatus
    have hrefused : ¬ Delivers ctx "sendgrid" response := fun haccepted =>
      hstatus (hiff.mp haccepted)
    cases htext : boundedProviderText ctx "sendgrid" response with
    | error error => exact ended_boundedProviderText (by decide +kernel) hrefused htext
    | ok text =>
        exact .refused _ _ (@showsNoKey_refusal ctx.env "SendGrid 발송 실패"
          (by decide +kernel) response.status text) hrefused
  · rename_i hstatus
    have hmessage : ShowsNoKey
        "SendGrid Mail Send API로 초대 메일 발송 요청을 완료했습니다." := by decide +kernel
    exact .sent _ rfl hmessage (hiff.mpr (not_not.mp hstatus))

/-- The adapter of the webhook looks at the status, and reads the body for the message only. -/
theorem ended_finishWebhook (response : ProviderResponse) :
    Ended response (Delivers ctx "webhook" response) (finishWebhook ctx response) := by
  have hiff : Delivers ctx "webhook" response ↔ response.ok = true := by
    simp [Delivers, ProviderAccepted, AnswerRead]
  unfold finishWebhook
  split
  · rename_i hstatus
    have hmessage : ShowsNoKey
        "EMAIL_WEBHOOK_URL provider로 초대 메일 발송 요청을 완료했습니다." := by decide +kernel
    exact .sent _ rfl hmessage (hiff.mpr hstatus)
  · rename_i hstatus
    have hrefused : ¬ Delivers ctx "webhook" response := fun haccepted =>
      hstatus (hiff.mp haccepted)
    cases htext : boundedProviderText ctx "webhook" response with
    | error error => exact ended_boundedProviderText (by decide +kernel) hrefused htext
    | ok text =>
        exact .refused _ _ (@showsNoKey_refusal ctx.env "Webhook 발송 실패"
          (by decide +kernel) response.status text) hrefused

/-- How a call ends: without a request, because of the configuration; or after one request. The
message about the configuration may name the provider, and then it shows what this name shows. -/
inductive Concluded (ctx : EmailContext S) (provider : String) (transport : EmailTransport) :
    EmailRun → Prop
  | unsent (name message : String) (hmessage : ShowsNoKey provider → ShowsNoKey message) :
      Concluded ctx provider transport
        { requests := [], outcome := .error (.configuration name message) }
  | failed (request : EmailRequest) (error : OutboundRequestSecurityError) (name message : String)
      (hmessage : ShowsNoKey message) (htransport : transport request = .error error) :
      Concluded ctx provider transport
        { requests := [request], outcome := .error (.configuration name message) }
  | answered (request : EmailRequest) (response : ProviderResponse)
      (outcome : Except SendInviteError SendInviteEmailResult)
      (htransport : transport request = .ok response)
      (hended : Ended response (Delivers ctx provider response) outcome) :
      Concluded ctx provider transport { requests := [request], outcome }

/-- An adapter that rejects its configuration shows no key. -/
def RejectsSilently (request : Except SendInviteError EmailRequest) : Prop :=
  ∀ error, request = .error error →
    ∃ name message, error = .configuration name message ∧ ShowsNoKey message

/-- An adapter makes one request or none. Whatever ends it, the message that it shows is one of its
own, a redacted text or the one about the configuration. -/
theorem concluded_deliver {provider : String} {request : Except SendInviteError EmailRequest}
    {transport : EmailTransport}
    {finish : ProviderResponse → Except SendInviteError SendInviteEmailResult}
    (hrequest : RejectsSilently request)
    (hprovider : ShowsNoKey
      (provider ++ " 외부 연결 설정이 안전하지 않거나 응답하지 않습니다."))
    (hfinish : ∀ response,
      Ended response (Delivers ctx provider response) (finish response)) :
    Concluded ctx provider transport (deliver provider request transport finish) := by
  unfold deliver
  cases hsent : request with
  | error error =>
      obtain ⟨name, message, rfl, hmessage⟩ := hrequest error hsent
      exact .unsent name message fun _ => hmessage
  | ok request =>
      cases htransport : transport request with
      | error error =>
          simp only [htransport]
          exact .failed request error provider _ hprovider htransport
      | ok response =>
          simp only [htransport]
          exact .answered request response _ htransport (hfinish response)

/-- The ways in which a key of Resend is not accepted. -/
theorem rejects_parseResendApiKey {value : Option String} {error : SendInviteError}
    (h : parseResendApiKey ctx value = .error error) :
    ∃ name message, error = .configuration name message ∧ ShowsNoKey message := by
  unfold parseResendApiKey at h
  split at h
  · cases h
    exact ⟨_, _, rfl, by decide +kernel⟩
  · split at h
    · cases h
      exact ⟨_, _, rfl, by decide +kernel⟩
    · split at h
      · cases h
        exact ⟨_, _, rfl, by decide +kernel⟩
      · cases h

/-- The request of Resend is refused with texts of the adapter only, which show no part of the
configuration. -/
theorem rejects_resendRequest (input : SendInviteEmailInput) :
    RejectsSilently (resendRequest ctx input) := by
  intro error h
  unfold resendRequest at h
  cases hkey : parseResendApiKey ctx ctx.env.resendApiKey with
  | error own =>
      rw [hkey] at h
      cases h
      exact rejects_parseResendApiKey hkey
  | ok apiKey =>
      simp only [hkey, bind, Except.bind] at h
      split at h
      · cases h
        exact ⟨_, _, rfl, by decide +kernel⟩
      · cases h

/-- The request to SendGrid is refused with one text of the adapter, for a missing key or sender,
which shows no part of the configuration. -/
theorem rejects_sendGridRequest (input : SendInviteEmailInput) :
    RejectsSilently (sendGridRequest ctx input) := by
  intro error h
  unfold sendGridRequest at h
  split at h
  · cases h
  · cases h
    exact ⟨_, _, rfl, by decide +kernel⟩

/-- And the one of the webhook, whose address must be safe. -/
theorem rejects_webhookRequest (input : SendInviteEmailInput) :
    RejectsSilently (webhookRequest ctx input) := by
  intro error h
  unfold webhookRequest at h
  split at h
  · cases h
    exact ⟨_, _, rfl, by decide +kernel⟩
  · cases h

/-- Every call ends in one of the three ways. The name of an unknown provider is a part of its
message. -/
theorem concluded_sendInvite (ctx : EmailContext S) (input : SendInviteEmailInput)
    (transport : EmailTransport) :
    Concluded ctx (configuredProviderName ctx.env) transport
      (Services.sendInvite ctx input transport) := by
  unfold Services.sendInvite
  dsimp only
  generalize configuredProviderName ctx.env = provider
  -- The three adapters by the name of the provider, and the refusal of any other name.
  split
  · rename_i hprovider
    rw [hprovider]
    exact concluded_deliver (rejects_resendRequest input) (by decide +kernel) ended_finishResend
  · split
    · rename_i hprovider
      rw [hprovider]
      exact concluded_deliver (rejects_sendGridRequest input) (by decide +kernel)
        ended_finishSendGrid
    · split
      · rename_i hprovider
        rw [hprovider]
        exact concluded_deliver (rejects_webhookRequest input) (by decide +kernel)
          ended_finishWebhook
      -- The refusal quotes the name, so it shows no key only when the name is none.
      · refine .unsent provider _ fun hname => ?_
        have hquoted := showsNoKey_append (Or.inr (Or.inr (Or.inr rfl)))
          (showsNoKey_append (Or.inr (Or.inr (Or.inr rfl)))
            (show ShowsNoKey "Unsupported EMAIL_PROVIDER " by decide +kernel) hname)
          (show ShowsNoKey ". Use \"resend\" for production delivery." by decide +kernel)
        have hsame : "Unsupported EMAIL_PROVIDER \"" ++ provider ++
            "\". Use \"resend\" for production delivery."
            = "Unsupported EMAIL_PROVIDER " ++ String.singleton '"' ++ provider ++
              String.singleton '"' ++ ". Use \"resend\" for production delivery." := by
          apply String.toList_inj.mp
          simp
        rw [hsame]
        exact hquoted

end

/-! ### The log -/

/-- The request of a run, and the answer to it. -/
def Answered (transport : EmailTransport) (run : EmailRun) (response : ProviderResponse) : Prop :=
  ∃ request ∈ run.requests, transport request = .ok response

/-- For a run with one request, the answer is the one to this request. -/
theorem answered_iff {transport : EmailTransport} {request : EmailRequest}
    {outcome : Except SendInviteError SendInviteEmailResult} {response : ProviderResponse} :
    Answered transport { requests := [request], outcome } response ↔
      transport request = .ok response := by
  simp [Answered]

/-- An invitation sends at most one request. Its log says that the mail was sent exactly when the
provider has accepted that request and its answer was read, and so does the answer to the caller.
When the name of the provider shows no key, the message of the log shows none, unless it is the
one with which the answer of the provider broke off. -/
theorem inviteEmailLog_truthful {S : Type} (ctx : EmailContext S) (platform : PlatformContext)
    (candidateWithExam : CandidateWithExam) (memoryLogs : List InviteEmailLog)
    (turn : PlatformInput) (transport : EmailTransport) :
    let provider := configuredProviderName ctx.env
    let run := Services.sendInvite ctx (inviteEmailInput platform candidateWithExam) transport
    let stored := sendCandidateInviteEmailInStore platform candidateWithExam memoryLogs
      { turn with sent := run.outcome }
    let delivered := ∃ response, Answered transport run response ∧
      ProviderAccepted provider response ∧ AnswerRead ctx provider response
    run.requests.length ≤ 1 ∧ (stored.1.delivered = true ↔ delivered) ∧
      ∃ log, stored.2 = log :: memoryLogs ∧ (log.status = .sent ↔ delivered) ∧
        (ShowsNoKey provider → ShowsNoKey log.message ∨ ∃ response,
          Answered transport run response ∧ breaksOff response.body = some log.message) := by
  have hconcluded := concluded_sendInvite ctx (inviteEmailInput platform candidateWithExam)
    transport
  generalize Services.sendInvite ctx (inviteEmailInput platform candidateWithExam) transport = run
    at hconcluded
  dsimp only [sendCandidateInviteEmailInStore, newInviteEmailLog]
  -- Without an answer nothing is delivered, and the log says FAILED with a text of the adapter's
  -- own.
  cases hconcluded with
  | unsent name message hmessage =>
      refine ⟨Nat.zero_le _, ?_, _, rfl, ?_, fun hname => Or.inl (hmessage hname)⟩ <;>
        simp [trySendInviteEmail, Answered]
  | failed request error name message hmessage htransport =>
      refine ⟨le_rfl, ?_, _, rfl, ?_, fun _ => Or.inl hmessage⟩ <;>
        simp [trySendInviteEmail, Answered, htransport]
  | answered request response outcome htransport hended =>
      have hanswer (other : ProviderResponse) :
          Answered transport { requests := [request], outcome } other ↔ response = other := by
        rw [answered_iff, htransport, Except.ok.injEq]
      -- With an answer the adapter's end decides, and only a broken stream gets its message into
      -- the log.
      cases hended with
      | sent result hdelivered hmessage haccepted =>
          refine ⟨le_rfl, ?_, _, rfl, ?_, fun _ => Or.inl hmessage⟩ <;>
            simpa [trySendInviteEmail, hanswer, hdelivered, Delivers] using haccepted
      | refused name message hmessage hrefused =>
          refine ⟨le_rfl, ?_, _, rfl, ?_, fun _ => Or.inl hmessage⟩ <;>
            simpa [trySendInviteEmail, hanswer] using not_and.mp hrefused
      | broken message hbroken hrefused =>
          refine ⟨le_rfl, ?_, _, rfl, ?_,
            fun _ => Or.inr ⟨response, (hanswer response).mpr rfl, hbroken⟩⟩ <;>
            simpa [trySendInviteEmail, hanswer] using not_and.mp hrefused

/-- A configuration of SendGrid with a key, whose host functions are the simplest ones. -/
def sendGridContext : EmailContext Unit where
  env :=
    { emailProvider := some "sendgrid", sendgridApiKey := some "SG.key.secret"
      emailFromAddress := some "exams@dcvp.kr" }
  text := { toLowerCase := id, toUpperCase := id }
  normalizeNfkd := id
  parseJson := fun _ => none
  decoder :=
    { start := ()
      step := fun _ byte => ((), String.singleton (Char.ofNat byte.toNat))
      flush := fun _ => "" }

/-- A provider that refuses and echoes the header with the key. -/
def echoTransport : EmailTransport := fun request =>
  .ok { status := 401
        body := { body := some { chunks :=
          [(request.authorization.getD "").toList.map (UInt8.ofNat ·.toNat)] } } }

/-- An invited candidate of a scheduled exam, with the fields that the mail shows. -/
def invitedCandidate : CandidateWithExam where
  candidate :=
    { id := "candidate_1", examId := "exam_1", name := "Kim", email := "kim@dcvp.kr",
      status := .invited, inviteToken := "invite_1",
      createdAt := "2026-07-18T00:00:00.000Z" }
  exam :=
    { id := "exam_1", organizationId := "org_demo", title := "Screening", description := "",
      startAt := "2026-07-18T09:00:00.000Z", endAt := "2026-07-18T12:00:00.000Z",
      durationMinutes := 90, status := .scheduled, languages := ["JavaScript"],
      proctoringEnabled := true, identityVerificationEnabled := false,
      mobileCameraRequired := false, screenShareRequired := false,
      createdAt := "2026-07-18T00:00:00.000Z" }

/-- A provider that echoes the key in its answer: at most one request is made, and the log of the
mail shows no key. -/
theorem inviteEmailLog_truthful_echo :
    let platform : PlatformContext :=
      { host :=
          { text := { toLowerCase := id, toUpperCase := id }
            hmac := fun _ payload => payload
            dateParse := fun _ => none }
        localeCompare := compare
        publicWebBaseUrl := "http://localhost:5173" }
    let run := Services.sendInvite sendGridContext (inviteEmailInput platform invitedCandidate)
      echoTransport
    let stored := sendCandidateInviteEmailInStore platform invitedCandidate []
      { sent := run.outcome }
    run.requests.length ≤ 1 ∧ ∃ log, stored.2 = [log] ∧ ShowsNoKey log.message := by
  intro platform run stored
  obtain ⟨hlength, -, log, hlog, -, hmessage⟩ := inviteEmailLog_truthful sendGridContext platform
    invitedCandidate [] {} echoTransport
  have hname : ShowsNoKey (configuredProviderName sendGridContext.env) := by decide +kernel
  refine ⟨hlength, log, hlog, (hmessage hname).resolve_right ?_⟩
  rintro ⟨response, ⟨request, -, hanswer⟩, hbroken⟩
  cases hanswer
  cases hbroken

end Dcvp.Proofs
