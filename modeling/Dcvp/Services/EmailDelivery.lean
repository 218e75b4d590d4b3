import Dcvp.Lib.Replacement
import Dcvp.Services.BoundedResponse
import Dcvp.Services.EmailTemplate
import Dcvp.Services.EnvironmentCheckEvidence
import Dcvp.Services.PlatformStore.CandidateAdmin

/-!
# `Dcvp.Services.EmailDelivery`: the e-mail providers

The three adapters of `services/email-delivery.ts`, `providerMessageId` and
`providerErrorMessage` of `services/email-provider-response.ts`, and `EmailService`. An adapter
checks its configuration, sends one request, and reads the answer of the provider. `EmailRun` has
the requests that were sent and how the call ends.

A provider can echo what it was sent, and its answer ends up in a log that people read.
`redactSensitiveText` removes what looks like an API key, and the configured keys themselves.

What `secureOutboundFetch` answers is a parameter, and so are `normalize("NFKD")` and
`JSON.parse`. The body of a request is `JSON.stringify` of an `EmailPayload`.
-/

set_option autoImplicit false

namespace Dcvp.Services

open Dcvp.Lib
open Dcvp.Services.PlatformStore (CandidateWithExam PlatformContext SendInviteEmailResult
  SendInviteError)

/-! ### Parameters -/

/-- The environment variables of the adapters: the choice of the provider, its keys and addresses,
and the sender. -/
structure EmailEnv where
  emailProvider : Option String := none
  resendApiKey : Option String := none
  resendApiBaseUrl : Option String := none
  sendgridApiKey : Option String := none
  sendgridApiBaseUrl : Option String := none
  emailWebhookUrl : Option String := none
  emailApiKey : Option String := none
  emailFromAddress : Option String := none
  emailFromName : Option String := none
  deriving DecidableEq

/-- The environment, and the functions of the language that are parameters. -/
structure EmailContext (S : Type) where
  env : EmailEnv
  text : Js.CaseMapping
  normalizeNfkd : String → String
  parseJson : String → Option JsonValue
  decoder : TextDecoder S

/-! ### Redaction -/

/-- A character of the class `[A-Za-z0-9_]` of the key patterns. -/
def isWordCharacter (c : Char) : Bool := c.isAlphanum || c = '_'

/-- A character of the class `[A-Za-z0-9_-]` of the key patterns. -/
def isKeyCharacter (c : Char) : Bool := isWordCharacter c || c = '-'

/-- The pattern `/re_[A-Za-z0-9_]+/` of a Resend key. -/
def resendKeyPattern : Pattern Char :=
  .ofPieces "re_".toList [.run isWordCharacter] (by decide) (by simp [Pattern.Piece.Visible])

/-- `/SG\.[A-Za-z0-9_-]+\.[A-Za-z0-9_-]+/`. A run never takes the dot behind it. -/
def sendGridKeyPattern : Pattern Char :=
  .ofPieces "SG.".toList [.run isKeyCharacter, .text ".".toList, .run isKeyCharacter] (by decide)
    (by simp [Pattern.Piece.Visible])

/-- The pattern `/sk-[A-Za-z0-9_-]+/` of a secret key. -/
def secretKeyPattern : Pattern Char :=
  .ofPieces "sk-".toList [.run isKeyCharacter] (by decide) (by simp [Pattern.Piece.Visible])

/-- The text between the brackets of `[REDACTED_API_KEY]`. -/
def redactedBody : List Char := "REDACTED_API_KEY".toList

/-- The text `"[REDACTED_API_KEY]"` that stands in place of a key. -/
def redactedMark : List Char := '[' :: (redactedBody ++ [']'])

/-- `replaceAll(secret, "[REDACTED_API_KEY]")`; an empty secret replaces nothing. -/
def replaceSecret (redacted : List Char) (secret : String) : List Char :=
  if hs : secret.toList ≠ [] then (Pattern.literal secret.toList hs).replace redactedMark redacted
  else redacted

/-- The keys of the configuration, trimmed, of which the empty ones are left out. -/
def EmailEnv.secrets (env : EmailEnv) : List String :=
  [env.resendApiKey, env.sendgridApiKey, env.emailApiKey].filterMap fun secret =>
    Js.truthy (secret.map Js.trim)

/-- `redactSensitiveText`: the three patterns, then the configured keys, and the cut to 500 units.
-/
def redactSensitiveText (env : EmailEnv) (value : String) : String :=
  let redacted := secretKeyPattern.replace redactedMark
    (sendGridKeyPattern.replace redactedMark
      (resendKeyPattern.replace redactedMark value.toList))
  Js.takeUnits (String.ofList (env.secrets.foldl replaceSecret redacted)) 500

/-! ### Requests and answers -/

/-- The body of a request, in the shape of the provider that it goes to. -/
inductive EmailPayload where
  | resend (sender recipient : String) (content : InviteEmailContent)
      (tags : List (String × String))
  | sendgrid (input : SendInviteEmailInput) (senderEmail senderName : String)
      (content : InviteEmailContent)
  | webhook (input : SendInviteEmailInput) (content : InviteEmailContent)
  deriving DecidableEq

/-- A request of an adapter, with the key of the provider in its `authorization` only. -/
structure EmailRequest where
  url : String
  authorization : Option String
  payload : EmailPayload
  deriving DecidableEq

/-- The parts of an answer that the adapters read. -/
structure ProviderResponse where
  status : Nat
  contentType : Option String := none
  xMessageId : Option String := none
  xRequestId : Option String := none
  body : BoundedResponse := {}
  deriving DecidableEq

/-- `response.ok` of `fetch`: the status lies between 200 and 299. -/
def ProviderResponse.ok (response : ProviderResponse) : Bool :=
  decide (200 ≤ response.status ∧ response.status ≤ 299)

/-- What `secureOutboundFetch` answers to a request: the provider's response, or the error of its
checks. The network is outside the source, so this is a parameter. -/
abbrev EmailTransport := EmailRequest → Except OutboundRequestSecurityError ProviderResponse

/-- The requests of a call, and how it ends. -/
structure EmailRun where
  requests : List EmailRequest
  outcome : Except SendInviteError SendInviteEmailResult

/-- The `EmailProviderConfigurationError` of a provider, with its message. -/
def configurationError (provider message : String) : SendInviteError :=
  .configuration provider message

/-- A number as a template string shows it, in decimal digits. -/
def decimal (n : Nat) : String := String.ofList (Nat.toDigits 10 n)

/-- `providerMessageId`: the `id` of the answer, trimmed and cut to 256 units, unless it is blank.
-/
def providerMessageId (body : JsonValue) : Option String :=
  (body.members?.bind fun members => (readUnknown members "id").bind JsonValue.string?).bind
    fun id => if Js.trim id = "" then none else some (Js.takeUnits (Js.trim id) 256)

/-- `localizedProviderMessage`: the two messages of Resend that are shown in Korean. -/
def localizedProviderMessage (message : String) : String :=
  if message = "API key is invalid" then "API 키가 유효하지 않습니다."
  else if message = "The from address is not verified" then "발신자 주소가 인증되지 않았습니다."
  else message

/-- `providerErrorMessage`: the `message` of the answer, then its `name`, then a fixed text. -/
def providerErrorMessage (body : JsonValue) : String :=
  match body.members? with
  | none => "Provider returned an unreadable error response."
  | some members =>
      let text (key : String) : Option String :=
        ((readUnknown members key).bind JsonValue.string?).filter (Js.trim · ≠ "")
      match text "message", text "name" with
      | some message, _ => localizedProviderMessage message
      | none, some name => name
      | none, none => "Provider returned an error response without a message."

section
variable {S : Type} (ctx : EmailContext S)

/-- `boundedProviderText`: the body as text, where one that is too large is an error of the
provider. -/
def boundedProviderText (provider : String) (response : ProviderResponse) :
    Except SendInviteError String :=
  match (readBoundedText ctx.decoder response.body defaultResponseLimitBytes).outcome with
  | .ok text => .ok text
  | .error (.security _) =>
      .error (configurationError provider
        (provider ++ " 응답 크기가 허용 범위를 초과했습니다."))
  -- A body that breaks off throws the error of its stream.
  | .error (.stream message) => .error (.error message)

/-- `readProviderResponse`: the body as JSON where the header says so, and as a message otherwise.
-/
def readProviderResponse (response : ProviderResponse) : Except SendInviteError JsonValue :=
  if Js.includesText (response.contentType.getD "") "application/json" then
    match readBoundedJson ctx.decoder ctx.parseJson response.body defaultResponseLimitBytes with
    | .ok body => .ok body
    | .error (.security _) =>
        .ok (.object [("message", .string "Provider returned invalid JSON.")])
    | .error (.stream message) => .error (.error message)
  else do
    let text ← boundedProviderText ctx "resend" response
    .ok (.object [("message", .string (redactSensitiveText ctx.env text))])

/-- An adapter: the request of its configuration, and what it makes of the answer. -/
def deliver (provider : String) (request : Except SendInviteError EmailRequest)
    (transport : EmailTransport)
    (finish : ProviderResponse → Except SendInviteError SendInviteEmailResult) : EmailRun :=
  match request with
  | .error error => { requests := [], outcome := .error error }
  | .ok request =>
      { requests := [request]
        outcome := match transport request with
          -- `providerFetch`.
          | .error _ => .error (configurationError provider
              (provider ++ " 외부 연결 설정이 안전하지 않거나 응답하지 않습니다."))
          | .ok response => finish response }

/-! ### Resend -/

/-- `parseResendApiKey`: the key must be set, no placeholder, and begin with `re_`. -/
def parseResendApiKey (value : Option String) : Except SendInviteError String :=
  match Js.truthy (value.map Js.trim) with
  | none => .error (configurationError "resend"
      "Resend 발송에는 실제 RESEND_API_KEY가 필요합니다. placeholder 값은 사용할 수 없습니다.")
  | some apiKey =>
      if ¬ hasUsableConfigValue ctx.text apiKey then
        .error (configurationError "resend"
          "Resend 발송에는 실제 RESEND_API_KEY가 필요합니다. placeholder 값은 사용할 수 없습니다.")
      else if ¬ "re_".toList <+: apiKey.toList then
        .error (configurationError "resend" "Resend API 키는 re_로 시작해야 합니다.")
      else .ok apiKey

/-- `formatSender`: the configured name, `DCVP` by default, with the address in brackets. -/
def formatSender (env : EmailEnv) (email : String) : String :=
  env.emailFromName.getD "DCVP" ++ " <" ++ email ++ ">"

/-- `emailTagValue`: characters outside of the class become hyphens, one for each run of them.
Hyphens at both ends are left out before the text is cut. -/
def emailTagValue (value : String) : String :=
  let normalized := hyphenate false (ctx.normalizeNfkd value).toList
  let stripped := ((normalized.dropWhile (· = '-')).reverse.dropWhile (· = '-')).reverse
  let cut := stripped.take 64
  if cut = [] then "dcvp" else String.ofList cut
where
  /-- The flag tells whether the last character was replaced. -/
  hyphenate : Bool → List Char → List Char
    | _, [] => []
    | inside, c :: cs =>
        if isKeyCharacter c then c :: hyphenate false cs
        else if inside then hyphenate true cs else '-' :: hyphenate true cs

/-- The request of `sendWithResend`, or the error of a configuration that is not complete. -/
def resendRequest (input : SendInviteEmailInput) : Except SendInviteError EmailRequest := do
  let apiKey ← parseResendApiKey ctx ctx.env.resendApiKey
  match Js.truthy ctx.env.emailFromAddress with
  | none => .error (configurationError "resend"
      "Resend 발송에는 RESEND_API_KEY와 EMAIL_FROM_ADDRESS가 필요합니다.")
  | some fromEmail =>
      .ok { url := ctx.env.resendApiBaseUrl.getD "https://api.resend.com" ++ "/emails"
            authorization := some ("Bearer " ++ apiKey)
            payload := .resend (formatSender ctx.env fromEmail) input.email
              (renderInviteEmail input)
              [("candidate_id", emailTagValue ctx input.candidateId),
                ("exam_title", emailTagValue ctx input.examTitle)] }

/-- The end of `sendWithResend`. The body is read before the status is looked at. -/
def finishResend (response : ProviderResponse) :
    Except SendInviteError SendInviteEmailResult := do
  let body ← readProviderResponse ctx response
  if response.ok then
    .ok { delivered := true, provider := "resend", providerMessageId := providerMessageId body
          message := "Resend Email API로 초대 메일 발송 요청을 완료했습니다." }
  else .error (configurationError "resend" ("Resend 발송 실패 (" ++ decimal response.status ++
    "): " ++ redactSensitiveText ctx.env (providerErrorMessage body)))

/-! ### SendGrid -/

/-- The request of `sendWithSendGrid`, which needs a key and a sender's address. -/
def sendGridRequest (input : SendInviteEmailInput) : Except SendInviteError EmailRequest :=
  match Js.truthy ctx.env.sendgridApiKey, Js.truthy ctx.env.emailFromAddress with
  | some apiKey, some fromEmail =>
      .ok { url := ctx.env.sendgridApiBaseUrl.getD "https://api.sendgrid.com/v3" ++ "/mail/send"
            authorization := some ("Bearer " ++ apiKey)
            payload := .sendgrid input fromEmail (ctx.env.emailFromName.getD "DCVP")
              (renderInviteEmail input) }
  | _, _ => .error (configurationError "sendgrid"
      "SendGrid 발송에는 SENDGRID_API_KEY와 EMAIL_FROM_ADDRESS가 필요합니다.")

/-- The end of `sendWithSendGrid`: only the status 202 counts as accepted. -/
def finishSendGrid (response : ProviderResponse) :
    Except SendInviteError SendInviteEmailResult :=
  if response.status ≠ 202 then do
    let text ← boundedProviderText ctx "sendgrid" response
    .error (configurationError "sendgrid" ("SendGrid 발송 실패 (" ++ decimal response.status ++
      "): " ++ redactSensitiveText ctx.env text))
  else
    .ok { delivered := true, provider := "sendgrid"
          providerMessageId := Js.truthy response.xMessageId
          message := "SendGrid Mail Send API로 초대 메일 발송 요청을 완료했습니다." }

/-! ### Webhook -/

/-- The request of `sendWithWebhook`, which needs the address of the webhook only. -/
def webhookRequest (input : SendInviteEmailInput) : Except SendInviteError EmailRequest :=
  match Js.truthy ctx.env.emailWebhookUrl with
  | none => .error (configurationError "webhook" "Webhook 발송에는 EMAIL_WEBHOOK_URL이 필요합니다.")
  | some url =>
      .ok { url, authorization := (Js.truthy ctx.env.emailApiKey).map ("Bearer " ++ ·)
            payload := .webhook input (renderInviteEmail input) }

/-- The end of `sendWithWebhook`: every successful status counts as accepted. -/
def finishWebhook (response : ProviderResponse) :
    Except SendInviteError SendInviteEmailResult :=
  if response.ok then
    .ok { delivered := true, provider := "webhook"
          providerMessageId := Js.truthy (response.xMessageId.or response.xRequestId)
          message := "EMAIL_WEBHOOK_URL provider로 초대 메일 발송 요청을 완료했습니다." }
  else do
    let text ← boundedProviderText ctx "webhook" response
    .error (configurationError "webhook" ("Webhook 발송 실패 (" ++ decimal response.status ++
      "): " ++ redactSensitiveText ctx.env text))

/-! ### The service -/

/-- `configuredProviderName`: the provider of the configuration, `resend` by default. -/
def configuredProviderName (env : EmailEnv) : String := env.emailProvider.getD "resend"

/-- `sendInvite`: the configured provider sends the mail, and an unknown one is an error. -/
def sendInvite (input : SendInviteEmailInput) (transport : EmailTransport) : EmailRun :=
  let provider := configuredProviderName ctx.env
  if provider = "resend" then
    deliver "resend" (resendRequest ctx input) transport (finishResend ctx)
  else if provider = "sendgrid" then
    deliver "sendgrid" (sendGridRequest ctx input) transport (finishSendGrid ctx)
  else if provider = "webhook" then
    deliver "webhook" (webhookRequest ctx input) transport (finishWebhook ctx)
  else
    { requests := []
      outcome := .error (configurationError provider ("Unsupported EMAIL_PROVIDER \"" ++ provider ++
        "\". Use \"resend\" for production delivery.")) }

end

/-- The mail that `sendCandidateInviteEmailInStore` sends for a candidate of an exam. -/
def inviteEmailInput (platform : PlatformContext) (candidateWithExam : CandidateWithExam) :
    SendInviteEmailInput where
  candidateId := candidateWithExam.candidate.id
  candidateName := candidateWithExam.candidate.name
  email := candidateWithExam.candidate.email
  examTitle := candidateWithExam.exam.title
  inviteUrl := PlatformStore.inviteUrl platform candidateWithExam.candidate

end Dcvp.Services
