import Dcvp.Database
import Dcvp.Js

/-!
# `Dcvp.Services.EnvironmentCheckEvidence`: the signed evidence of an environment check

The functions of `services/environment-check-evidence.ts`. Two things are parameters, in
`EvidenceHost`: the digest of `node:crypto`, and `Date.parse`, which answers `none` for
`NaN`. A comparison with `NaN` is false, so `dateReached` is false then.

A string is a sequence of Unicode scalar values here. An ECMAScript string can also hold a
lone surrogate. The digest and `Buffer.from` both encode it as U+FFFD.
-/

set_option autoImplicit false

namespace Dcvp.Services

open Dcvp.Shared (EnvironmentCheckSession)

/-- What the module uses of its host: `createHmac("sha256",
secret).update(payload).digest("base64url")`, `Date.parse` and the case mapping. -/
structure EvidenceHost where
  text : Js.CaseMapping
  hmac : (secret payload : String) → String
  dateParse : String → Option Int

/-- The environment variables of the module: the secret of its signatures, the one that stands in
for it, and whether this is production. -/
structure EvidenceEnv where
  nodeEnv : Option String := none
  environmentCheckSecret : Option String := none
  authSessionSecret : Option String := none
  deriving DecidableEq

/-- `ENVIRONMENT_CHECK_TTL_MS`: an issued session is good for ten minutes. -/
def environmentCheckTtlMs : Int := 10 * 60 * 1000

/-- `hasUsableConfigValue` of `config-values.ts`: neither blank nor a placeholder. -/
def hasUsableConfigValue (text : Js.CaseMapping) (value : String) : Bool :=
  let normalized := text.toLowerCase (Js.trim value)
  decide (normalized ≠ "") &&
    !(["replace", "your-", "example.com", "example.", "localhost"].any (Js.includesText normalized))

section
variable (host : EvidenceHost) (env : EvidenceEnv)

/-- `environmentCheckSecret`. An empty variable counts as set for `??`, but not as a
secret. -/
def environmentCheckSecret : Except ServiceException String :=
  let configuredSecret := (env.environmentCheckSecret.orElse fun _ => env.authSessionSecret).getD ""
  let production := decide (env.nodeEnv = some "production")
  if configuredSecret ≠ "" ∧ (production = false ∨
      (hasUsableConfigValue host.text configuredSecret ∧ configuredSecret.utf8ByteSize ≥ 32)) then
    .ok configuredSecret
  else if production then
    .error (.http .serviceUnavailable
      "운영 환경에는 32바이트 이상의 임의 ENVIRONMENT_CHECK_SECRET 설정이 필요합니다.")
  -- Outside of production a fixed secret serves.
  else .ok "dcvp-local-environment-check-secret"

/-- The `payload` that is signed: three fields with a dot between them. -/
def evidencePayload (inviteToken sessionId expiresAt : String) : String :=
  inviteToken ++ "." ++ sessionId ++ "." ++ expiresAt

/-- `signEnvironmentCheckSession`: the end of the session, and the signature of the payload. -/
def signEnvironmentCheckSession (inviteToken sessionId expiresAt : String) :
    Except ServiceException String := do
  let secret ← environmentCheckSecret host env
  .ok (expiresAt ++ "|" ++ host.hmac secret (evidencePayload inviteToken sessionId expiresAt))

/-- `createId` of `platform-store.helpers.ts`: the prefix and eight characters of a UUID. -/
def createId (idPrefix uuid : String) : String :=
  idPrefix ++ "_" ++ String.ofList (uuid.toList.take 8)

/-- `createEnvironmentCheckSession`, at the clock reading `now` and with the answer `uuid` of
`crypto.randomUUID()`. -/
def createEnvironmentCheckSession (inviteToken : String) (now : Int) (uuid : String) :
    Except ServiceException EnvironmentCheckSession := do
  let expiresAt := Js.toISOString (now + environmentCheckTtlMs)
  let sessionId := createId "envsession" uuid
  let evidenceToken ← signEnvironmentCheckSession host env inviteToken sessionId expiresAt
  .ok { sessionId, evidenceToken, expiresAt,
        requiredItems := [.browser, .network, .camera, .microphone, .screen] }

/-- `readExpiresAtFromEvidenceToken`: the text before the first `|`, if there is one that is
not at the start. -/
def readExpiresAtFromEvidenceToken (evidenceToken : String) : Option String :=
  let head := evidenceToken.toList.takeWhile (· ≠ '|')
  if '|' ∈ evidenceToken.toList ∧ head ≠ [] then some (String.ofList head) else none

/-- The comparison `Date.parse(expiresAt) <= now` of the two checks. -/
def dateReached (expiresAt : String) (now : Int) : Bool :=
  match host.dateParse expiresAt with
  -- `NaN <= now` is false, so a date that cannot be read is never reached.
  | none => false
  | some t => decide (t ≤ now)

/-- `assertEnvironmentCheckSession`, at the clock reading `now`: the end date first, then the
signature. -/
def assertEnvironmentCheckSession (inviteToken sessionId evidenceToken : String) (now : Int) :
    Except ServiceException Unit := do
  if sessionId = "" ∨ evidenceToken = "" then
    .error (.http .badRequest "Environment check session evidence is required.")
  else
    match readExpiresAtFromEvidenceToken evidenceToken with
    | none => .error (.http .badRequest "Environment check session expired.")
    | some expiresAt =>
        if dateReached host expiresAt now then
          .error (.http .badRequest "Environment check session expired.")
        else
          let expected ← signEnvironmentCheckSession host env inviteToken sessionId expiresAt
          if evidenceToken = expected then .ok ()
          else .error (.http .badRequest "Invalid environment check evidence token.")

end

end Dcvp.Services
