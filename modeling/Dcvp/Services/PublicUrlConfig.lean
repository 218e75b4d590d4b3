import Dcvp.Js.Number
import Dcvp.Services.EnvironmentCheckEvidence
import Dcvp.Services.OutboundHttpSecurity

/-!
# `Dcvp.Services.PublicUrlConfig`: the configured addresses

The functions of `services/public-url-config.ts`, `providerBaseUrl` of
`services/identity-provider-security.ts`, and `mobileAccess` of `modules/dashboard.controller.ts`.
The parser `new URL(text)` is a parameter. It answers `none` for a `TypeError`.
-/

set_option autoImplicit false

namespace Dcvp.Services

open Dcvp.Lib

/-- A `URL` with its text, which is what `toString()` answers. -/
structure WebUrl extends Url where
  host : String
  href : String
  deriving DecidableEq

/-- `hasUsableConfigValue` of a variable that may be missing. -/
def hasUsableVariable (text : Js.CaseMapping) (value : Option String) : Bool :=
  (value.map (hasUsableConfigValue text)).getD false

/-- `replace(/\/$/, "")`: one slash at the end is removed. -/
def withoutTrailingSlash (href : String) : String :=
  if href.toList.getLast? = some '/' then String.ofList href.toList.dropLast else href

/-! ### Public addresses -/

/-- The parts of `hostname.split(".")`, of which some may be empty. -/
def hostnameParts (hostname : String) : List String :=
  (hostname.toList.splitOn '.').map String.ofList

/-- `isIpv4Literal`: four parts of digits, each at most 255. -/
def isIpv4Literal (hostname : String) : Bool :=
  let parts := hostnameParts hostname
  decide (parts.length = 4) && parts.all fun part =>
    decide (part ≠ "") && part.toList.all Char.isDigit &&
      match Js.number part with
      | some value => Js.isInteger value && decide (0 ≤ value ∧ value ≤ 255)
      | none => false

/-- `isIpLiteral` of `public-url-config.ts`: an IPv4 address, or any name with a colon. -/
def isPublicUrlIpLiteral (hostname : String) : Bool :=
  isIpv4Literal hostname || Js.includes hostname ':' || decide (hostname.toList.head? = some '[')

section
variable (text : Js.CaseMapping) (parseUrl : String → Option WebUrl)

/-- `normalizePublicHttpsUrl`: the address without its last slash, if it is usable in public. -/
def normalizePublicHttpsUrl (value : Option String) : Option String :=
  match Js.truthy (value.map Js.trim) with
  | none => none
  | some trimmedValue =>
      if hasUsableConfigValue text trimmedValue = false then none
      else
        match parseUrl (Js.trim trimmedValue) with
        | none => none
        | some parsed =>
            if parsed.protocol ≠ "https:" ∨ isPublicUrlIpLiteral parsed.hostname = true then none
            else some (withoutTrailingSlash parsed.href)

/-- `isUsablePublicHttpsUrl`: whether `normalizePublicHttpsUrl` gives an address. -/
def isUsablePublicHttpsUrl (value : Option String) : Bool :=
  (normalizePublicHttpsUrl text parseUrl value).isSome

end

/-! ### The identity provider -/

/-- `isPrivateIpLiteral`: four numbers of the private, loopback or link-local networks. -/
def isPrivateIpLiteral (hostname : String) : Bool :=
  let parts := (hostnameParts hostname).map Js.number
  match parts with
  | [some first, some second, some third, some fourth] =>
      ([first, second, third, fourth].all fun part =>
          Js.isInteger part && decide (0 ≤ part ∧ part ≤ 255)) &&
        decide (first = 10 ∨ first = 127 ∨ (first = 172 ∧ 16 ≤ second ∧ second ≤ 31) ∨
          (first = 192 ∧ second = 168) ∨ (first = 169 ∧ second = 254))
  | _ => false

/-- `isIpLiteral` of `identity-provider-security.ts`, on the name without its brackets. -/
def isProviderIpLiteral (hostname : String) : Bool :=
  let normalized := normalizeHostname hostname
  isIP normalized || isPrivateIpLiteral normalized

/-- `isAllowedProviderUrl`: `https:` and a name, or the loopback host outside of production. -/
def isAllowedProviderUrl (nodeEnv : Option String) (url : Url) : Bool :=
  if isLoopbackHostname url.hostname then
    decide (nodeEnv ≠ some "production") &&
      decide (url.protocol = "http:" ∨ url.protocol = "https:")
  else decide (url.protocol = "https:") && !isProviderIpLiteral url.hostname

/-- `providerBaseUrl`, of the variable `KYC_SANDBOX_API_BASE_URL`: its three errors, or the
address. -/
def providerBaseUrl (nodeEnv : Option String) (parseUrl : String → Option WebUrl)
    (rawUrl : Option String) : Except ServiceException String :=
  match Js.truthy rawUrl with
  | none => .error (.http .serviceUnavailable "KYC provider base URL이 설정되지 않았습니다.")
  | some rawUrl =>
      match parseUrl rawUrl with
      | none => .error (.http .serviceUnavailable "KYC provider base URL 형식이 올바르지 않습니다.")
      | some url =>
          if isAllowedProviderUrl nodeEnv url.toUrl then .ok (withoutTrailingSlash url.href)
          else .error (.http .serviceUnavailable ("KYC provider base URL은 HTTPS public host 또는 " ++
            "로컬 개발용 loopback HTTP만 허용합니다."))

/-! ### Access from a phone -/

/-- An address of `networkInterfaces()`, with the name of its interface. -/
structure NetworkAddress where
  name : String
  family : String
  internal : Bool
  address : String
  deriving DecidableEq

/-- `scoreNetworkAddress`: a virtual interface counts less, a wireless one and a home network more.
-/
def scoreNetworkAddress (text : Js.CaseMapping) (name address : String) : Int :=
  let normalizedName := text.toLowerCase name
  let isVirtual := ["vmware", "virtualbox", "vethernet", "wsl", "hyper-v", "bluetooth"].any
    (Js.includesText normalizedName)
  let isWireless := ["wi-fi", "wifi", "wireless", "wlan"].any (Js.includesText normalizedName)
  let startsWith (start : String) := decide (start.toList <+: address.toList)
  (if isVirtual then -100 else 0) + (if isWireless then 100 else 0) +
    (if startsWith "192.168.0." then 80 else if startsWith "192.168.1." then 70
      else if startsWith "192.168." then 50 else if startsWith "10." then 40
      else if startsWith "172." then 20 else 0)

/-- `getLanIpv4Address`: the best external IPv4 address. The sort is stable. -/
def getLanIpv4Address (text : Js.CaseMapping) (interfaces : List NetworkAddress) :
    Option String :=
  (((interfaces.filter fun item => decide (item.family = "IPv4") && !item.internal).mergeSort
    fun a b => decide (scoreNetworkAddress text b.name b.address ≤
      scoreNetworkAddress text a.name a.address)).head?).map NetworkAddress.address

/-- `MobileAccess`: the addresses under which a phone reaches the platform. -/
structure MobileAccess where
  host : String
  webBaseUrl : String
  apiBaseUrl : String
  deriving DecidableEq

/-- The variables of `mobileAccess`: an address can be set under two names, and the ports are read
for the rest. -/
structure PublicUrlEnv where
  webPublicUrl : Option String := none
  publicWebBaseUrl : Option String := none
  apiPublicUrl : Option String := none
  publicApiBaseUrl : Option String := none
  webPort : Option String := none
  port : Option String := none
  deriving DecidableEq

/-- `WEB_PUBLIC_URL ?? PUBLIC_WEB_BASE_URL`: an empty text counts as set. -/
def PublicUrlEnv.webUrl (env : PublicUrlEnv) : Option String :=
  env.webPublicUrl.orElse fun _ => env.publicWebBaseUrl

/-- `API_PUBLIC_URL ?? PUBLIC_API_BASE_URL`: an empty text counts as set. -/
def PublicUrlEnv.apiUrl (env : PublicUrlEnv) : Option String :=
  env.apiPublicUrl.orElse fun _ => env.publicApiBaseUrl

/-- `mobileAccess`: the public addresses, or those of the local network. -/
def mobileAccess (text : Js.CaseMapping) (parseUrl : String → Option WebUrl) (env : PublicUrlEnv)
    (interfaces : List NetworkAddress) : Except ServiceException MobileAccess :=
  match normalizePublicHttpsUrl text parseUrl env.webUrl with
  | some webBaseUrl =>
      let apiBaseUrl := (normalizePublicHttpsUrl text parseUrl env.apiUrl).getD webBaseUrl
      match parseUrl webBaseUrl with
      | some url => .ok { host := url.host, webBaseUrl, apiBaseUrl }
      | none => .error (.other "Invalid URL")
  | none =>
      let host := (getLanIpv4Address text interfaces).getD "localhost"
      .ok
        { host
          webBaseUrl := "http://" ++ host ++ ":" ++ env.webPort.getD "5173"
          apiBaseUrl := "http://" ++ host ++ ":" ++ env.port.getD "4000" }

end Dcvp.Services
