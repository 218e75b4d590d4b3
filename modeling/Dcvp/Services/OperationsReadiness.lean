import Dcvp.Json
import Dcvp.Services.EmailDelivery
import Dcvp.Services.PlatformStore.StoreDatabase
import Dcvp.Services.PublicUrlConfig

/-!
# `Dcvp.Services.OperationsReadiness`: the report on the configuration

The class of `services/operations-readiness.service.ts`. Each check reads the variables that some
service reads, and says whether the service is ready for production. `ReadinessContext` has the
variables, next to those of the store and of the e-mail adapters.

Whether `user.count()` answers is a parameter. The client throws errors only, so a failed query is
always caught.
-/

set_option autoImplicit false

namespace Dcvp.Services

open Dcvp.Services.PlatformStore (StoreContext)

/-- `OperationsReadinessStatus` of a check, and of the page as the worst of its checks. -/
inductive OperationsReadinessStatus where
  | ready
  | warning
  | actionRequired
  deriving DecidableEq

/-- `OperationsReadinessCheck`: one line of the readiness page, with the text that tells what to
do. -/
structure OperationsReadinessCheck where
  id : String
  label : String
  status : OperationsReadinessStatus
  detail : String
  action : String
  deriving DecidableEq

/-- `OperationsReadiness`: the readiness page with its checks and the worst of their states. -/
structure OperationsReadiness where
  generatedAt : String
  overallStatus : OperationsReadinessStatus
  checks : List OperationsReadinessCheck
  deriving DecidableEq

/-- The variables that the report reads, and the parsers. -/
structure ReadinessContext where
  store : StoreContext
  email : EmailEnv
  urls : PublicUrlEnv
  kycSandboxApiBaseUrl : Option String := none
  kycSandboxApiKey : Option String := none
  proctorIceServers : Option String := none
  viteProctorIceServers : Option String := none
  parseUrl : String → Option WebUrl
  parseJson : String → Option JsonValue

namespace ReadinessContext

variable (ctx : ReadinessContext)

/-- The host's `toLowerCase`, by which the settings are compared. -/
def text : Js.CaseMapping := ctx.store.host.text

/-- `process.env.NODE_ENV === "production"`, compared exactly. -/
def production : Bool := decide (ctx.store.env.nodeEnv = some "production")

/-! ### TURN servers -/

/-- `isTurnUrl`: the address begins with `turn:` or `turns:`, in any case. -/
def isTurnUrl (value : String) : Bool :=
  let normalized := (ctx.text.toLowerCase (Js.trim value)).toList
  decide ("turn:".toList <+: normalized ∨ "turns:".toList <+: normalized)

/-- A member that is a text, and nothing where it is missing or of another kind. -/
def textMember (members : List (String × JsonValue)) (key : String) : Option String :=
  (readUnknown members key).bind JsonValue.string?

/-- `isUsableTurnServer`: some address is one of TURN, and the account is usable. -/
def isUsableTurnServer (value : JsonValue) : Bool :=
  match value.members? with
  | none => false
  | some members =>
      let hasTurnUrl := match readUnknown members "urls" with
        | some (.string urls) => ctx.isTurnUrl urls
        | some (.array urls) => urls.any fun url => (url.string?.map ctx.isTurnUrl).getD false
        | _ => false
      hasTurnUrl && hasUsableVariable ctx.text (textMember members "username") &&
        hasUsableVariable ctx.text (textMember members "credential")

/-- `hasUsableTurnIceServer`: the variable is a JSON list with a usable TURN server. -/
def hasUsableTurnIceServer (value : Option String) : Bool :=
  match Js.truthy (value.map Js.trim) with
  | none => false
  | some trimmedValue =>
      hasUsableConfigValue ctx.text trimmedValue &&
        match ctx.parseJson trimmedValue with
        | some (.array entries) => entries.any ctx.isUsableTurnServer
        | _ => false

/-! ### The checks -/

/-- `databaseCheck`: the database is configured and answers a query. -/
def databaseCheck (answers : Bool) : OperationsReadinessCheck :=
  if ctx.store.disableDatabase = some "1" ∨
      hasUsableVariable ctx.text ctx.store.databaseUrl = false then
    { id := "database", label := "데이터베이스", status := .actionRequired
      detail := "운영 DB 연결이 비활성화되어 있거나 DATABASE_URL이 placeholder입니다."
      action := "실제 PostgreSQL DATABASE_URL을 설정하고 DISABLE_DATABASE를 끄세요." }
  else if answers then
    { id := "database", label := "데이터베이스", status := .ready
      detail := "PostgreSQL 연결과 기본 쿼리가 정상입니다."
      action := "추가 조치 없음" }
  else
    { id := "database", label := "데이터베이스", status := .actionRequired
      detail := "DATABASE_URL은 있으나 현재 DB 쿼리가 실패했습니다."
      action := "PostgreSQL 실행 상태, 계정, 네트워크, 마이그레이션을 확인하세요." }

/-- `hasUsableResendConfig`: a key of Resend and a sender's address, both no placeholders. -/
def hasUsableResendConfig : Bool :=
  match ctx.email.resendApiKey.map Js.trim with
  | none => false
  | some apiKey =>
      decide ("re_".toList <+: apiKey.toList) && hasUsableConfigValue ctx.text apiKey &&
        hasUsableVariable ctx.text ctx.email.emailFromAddress

/-- `emailCheck`: the mail is ready with a usable configuration of Resend only. -/
def emailCheck : OperationsReadinessCheck :=
  let provider := configuredProviderName ctx.email
  if provider = "resend" ∧ ctx.hasUsableResendConfig = true then
    { id := "email", label := "초대 메일", status := .ready
      detail := "Resend 발송 설정이 준비되어 있습니다. API 키 값은 응답에 노출하지 않습니다."
      action := "도메인 인증 후 실제 응시자에게 테스트 발송하세요." }
  else if provider ≠ "resend" then
    { id := "email", label := "초대 메일", status := .warning
      detail := "현재 EMAIL_PROVIDER가 " ++ provider ++ "입니다. 운영 기본 경로는 resend입니다."
      action := "EMAIL_PROVIDER=resend, RESEND_API_KEY, EMAIL_FROM_ADDRESS를 실제 값으로 설정하세요." }
  else
    { id := "email", label := "초대 메일", status := .actionRequired
      detail := "Resend 발송에 필요한 실제 설정이 부족하거나 placeholder입니다."
      action := "새 RESEND_API_KEY와 인증된 EMAIL_FROM_ADDRESS를 설정하세요." }

/-- `hasUsableKycConfig`. The only exception of `providerBaseUrl` is the one that is caught. -/
def hasUsableKycConfig : Bool :=
  hasUsableVariable ctx.text ctx.kycSandboxApiBaseUrl &&
    hasUsableVariable ctx.text ctx.kycSandboxApiKey &&
    (providerBaseUrl ctx.store.env.nodeEnv ctx.parseUrl ctx.kycSandboxApiBaseUrl).isOk

/-- `kycCheck`: the provider of the identity check has an address and a key. -/
def kycCheck : OperationsReadinessCheck :=
  if ctx.hasUsableKycConfig then
    { id := "kyc", label := "본인확인 KYC", status := .ready
      detail := "KYC sandbox provider 호출 설정이 준비되어 있습니다. " ++
        "원본 신분증/얼굴 이미지는 플랫폼 DB에 저장하지 않습니다."
      action := "업체 sandbox 성공/실패 시나리오를 실행하세요." }
  else
    { id := "kyc", label := "본인확인 KYC", status := .actionRequired
      detail := "KYC provider base URL 또는 API key가 없거나 placeholder입니다."
      action := "KYC_SANDBOX_API_BASE_URL과 KYC_SANDBOX_API_KEY를 실제 업체 값으로 설정하세요." }

/-- `publicUrlCheck`: both public addresses are usable with `https:`. -/
def publicUrlCheck : OperationsReadinessCheck :=
  if isUsablePublicHttpsUrl ctx.text ctx.parseUrl ctx.urls.webUrl = true ∧
      isUsablePublicHttpsUrl ctx.text ctx.parseUrl ctx.urls.apiUrl = true then
    { id := "public-url", label := "Public HTTPS URL", status := .ready
      detail := "모바일 QR 접속용 WEB_PUBLIC_URL/API_PUBLIC_URL이 실제 HTTPS 주소로 설정되어 있습니다."
      action := "실제 휴대폰 LTE/외부망에서 QR 접속을 확인하세요." }
  else
    { id := "public-url", label := "Public HTTPS URL", status := .warning
      detail := "운영용 public HTTPS URL 설정이 완전하지 않습니다. " ++
        "localhost/example 도메인은 운영 준비로 보지 않습니다."
      action := "WEB_PUBLIC_URL과 API_PUBLIC_URL을 실제 https:// 도메인으로 설정하세요." }

/-- `ENVIRONMENT_CHECK_SECRET ?? AUTH_SESSION_SECRET`, where an empty text counts as set. -/
def evidenceSecret : Option String :=
  ctx.store.env.environmentCheckSecret.orElse fun _ => ctx.store.env.authSessionSecret

/-- `authCheck`: in production no demo login, and a secret of at least 32 bytes. -/
def authCheck : OperationsReadinessCheck :=
  if ctx.production = true ∧ ctx.store.allowDemoAuth = some "1" then
    { id := "auth", label := "관리자 인증", status := .actionRequired
      detail := "운영 환경에서 데모 로그인이 허용되어 있습니다."
      action := "ALLOW_DEMO_AUTH를 제거하고 실제 관리자 계정을 사용하세요." }
  else if ctx.production = true ∧ (hasUsableVariable ctx.text ctx.evidenceSecret = false ∨
      (ctx.evidenceSecret.getD "").utf8ByteSize < 32) then
    { id := "auth", label := "관리자 인증", status := .actionRequired
      detail := "환경 점검 증빙 서명 비밀값이 없거나 충분히 강하지 않습니다."
      action := "32바이트 이상의 임의 ENVIRONMENT_CHECK_SECRET을 비밀 환경 변수로 설정하세요." }
  else
    { id := "auth", label := "관리자 인증", status := .ready
      detail :=
        if ctx.production then "운영 환경에서 데모 로그인 차단 정책이 적용됩니다."
        else "개발 환경에서는 DB 장애 시 데모 로그인 fallback을 사용할 수 있습니다."
      action := "운영 배포 전 최초 관리자 계정 생성을 확인하세요." }

/-- `codeRunnerCheck`: never ready, and in production an action is required. -/
def codeRunnerCheck : OperationsReadinessCheck :=
  if ctx.production then
    { id := "code-runner", label := "코드 실행 격리", status := .actionRequired
      detail := "운영 API 내부의 로컬 Docker 실행은 호스트 보호를 위해 비활성화되어 있습니다."
      action := "네트워크와 권한이 분리된 전용 러너 서비스를 구축하고 " ++
        "작업 큐·동시성·취소 정책을 검증한 뒤 연동하세요." }
  else
    { id := "code-runner", label := "코드 실행 격리", status := .warning
      detail := "개발용 로컬 Docker 러너는 전역 2개 동시 실행, 최대 8개 대기열, " ++
        "응시자별·IP별 요청 제한을 적용합니다."
      action := "운영에서는 API 프로세스나 Docker 소켓을 직접 노출하지 말고 전용 러너를 사용하세요." }

/-- `proctorCheck`: the signaling needs a public address of the API. -/
def proctorCheck : OperationsReadinessCheck :=
  if isUsablePublicHttpsUrl ctx.text ctx.parseUrl ctx.urls.apiUrl then
    { id := "proctor", label := "실시간 감독", status := .ready
      detail := "WebSocket/WebRTC signaling을 위한 public API URL이 실제 HTTPS 기준으로 " ++
        "설정되어 있습니다."
      action := "PC 캠과 모바일 보조캠을 동시에 열어 관리자 감독 화면을 확인하세요." }
  else
    { id := "proctor", label := "실시간 감독", status := .warning
      detail := "로컬에서는 감독 signaling이 같은 장치 또는 LAN 조건에 의존할 수 있습니다."
      action := "운영에서는 API_PUBLIC_URL을 실제 HTTPS 도메인으로 설정하세요." }

/-- `proctorIceCheck`: the server's variable counts before that of the web application. -/
def proctorIceCheck : OperationsReadinessCheck :=
  if ctx.hasUsableTurnIceServer
      (ctx.proctorIceServers.orElse fun _ => ctx.viteProctorIceServers) then
    { id := "proctor-ice", label := "TURN/ICE 서버", status := .ready
      detail := "모바일망/회사망 WebRTC 연결을 위한 TURN 서버 설정이 준비되어 있습니다. " ++
        "세부 credential은 응답에 노출하지 않습니다."
      action := "실제 휴대폰 LTE와 회사망에서 PC 캠/모바일 보조캠 동시 연결을 확인하세요." }
  else
    { id := "proctor-ice", label := "TURN/ICE 서버", status := .warning
      detail := "STUN만 있거나 TURN 서버 credential이 없어 외부망 WebRTC 연결이 실패할 수 있습니다."
      action := "PROCTOR_ICE_SERVERS 또는 VITE_PROCTOR_ICE_SERVERS에 turn:/turns: URL, " ++
        "username, credential을 설정하세요." }

/-- The `checks` of `getReadiness`, in the order of the page. -/
def checks (databaseAnswers : Bool) : List OperationsReadinessCheck :=
  [ctx.databaseCheck databaseAnswers, ctx.emailCheck, ctx.kycCheck, ctx.publicUrlCheck,
    ctx.authCheck, ctx.codeRunnerCheck, ctx.proctorCheck, ctx.proctorIceCheck]

end ReadinessContext

/-- `overallStatus`: an action that is required counts more than a warning. -/
def overallStatus (checks : List OperationsReadinessCheck) : OperationsReadinessStatus :=
  if checks.any (fun check => decide (check.status = .actionRequired)) then .actionRequired
  else if checks.any (fun check => decide (check.status = .warning)) then .warning
  else .ready

/-- `getReadiness`: the checks of this configuration and the state they add up to. -/
def getReadiness (ctx : ReadinessContext) (databaseAnswers : Bool) (now : Int) :
    OperationsReadiness where
  generatedAt := Js.toISOString now
  overallStatus := overallStatus (ctx.checks databaseAnswers)
  checks := ctx.checks databaseAnswers

end Dcvp.Services
