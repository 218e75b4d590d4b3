import Dcvp.Lib.IpAddress
import Mathlib.Data.String.Defs

/-!
# `Dcvp.Services.OutboundHttpSecurity`: calls of other services

`secureOutboundFetch` of `services/outbound-http-security.ts`, up to the response. The parser
`new URL(rawUrl)` is a parameter, and so is what the resolver and the network answer.

A host name is resolved twice in one call. `assertHostnameResolvesSafely` looks at the first
answer. `fetch` resolves the name again when it connects, and tries the addresses of this second
answer, one after another. It follows no redirect.
-/

set_option autoImplicit false

namespace Dcvp.Services

open Dcvp.Lib

/-- `OutboundRequestSecurityError`: a request that the checks refuse; the adapters map it to a
failed delivery. -/
structure OutboundRequestSecurityError where
  message : String
  deriving DecidableEq

/-- The components of a `URL` that the checks read. -/
structure Url where
  protocol : String
  username : String
  password : String
  hostname : String
  deriving DecidableEq

/-- The variable `NODE_ENV`, and `new URL(rawUrl)`, which is `none` for a `TypeError`. -/
structure OutboundContext where
  nodeEnv : Option String
  parseUrl : String → Option Url

/-! ### Host names -/

/-- `normalizeHostname`: the brackets around an IPv6 address are removed. -/
def normalizeHostname (hostname : String) : String :=
  if hostname.toList.head? = some '[' ∧ hostname.toList.getLast? = some ']' then
    String.ofList hostname.toList.tail.dropLast
  else hostname

/-- `isLoopbackHostname`: one of three names, compared exactly. -/
def isLoopbackHostname (hostname : String) : Bool :=
  let normalized := normalizeHostname hostname
  decide (normalized = "localhost" ∨ normalized = "127.0.0.1" ∨ normalized = "::1")

/-- `isIP(text)` is not 0: the text is an address of version 4 or 6. -/
def isIP (text : String) : Bool := (IpAddress.read text).isSome

/-! ### Public addresses -/

/-- The first table of `createNonPublicBlockList`: IPv4 networks with their lengths. -/
def nonPublicV4 : List (String × Nat) :=
  [("0.0.0.0", 8), ("10.0.0.0", 8), ("100.64.0.0", 10), ("127.0.0.0", 8), ("169.254.0.0", 16),
    ("172.16.0.0", 12), ("192.0.0.0", 24), ("192.0.2.0", 24), ("192.88.99.0", 24),
    ("192.168.0.0", 16), ("198.18.0.0", 15), ("198.51.100.0", 24), ("203.0.113.0", 24),
    ("224.0.0.0", 4), ("240.0.0.0", 4)]

/-- The second table of `createNonPublicBlockList`: IPv6 networks with their lengths. -/
def nonPublicV6 : List (String × Nat) :=
  [("::", 128), ("::1", 128), ("::ffff:0:0", 96), ("64:ff9b::", 96), ("100::", 64), ("2001::", 23),
    ("2001:db8::", 32), ("fc00::", 7), ("fe80::", 10), ("ff00::", 8)]

/-- `createNonPublicBlockList`: both tables as subnets, which all can be read. -/
def createNonPublicBlockList : List Subnet :=
  (nonPublicV4 ++ nonPublicV6).filterMap fun (network, bits) =>
    (IpAddress.read network).map fun network => { network, bits }

/-- `isPublicIpAddress`. `check` of a block list looks at the rules of both families. -/
def isPublicIpAddress (address : String) : Bool :=
  match IpAddress.read address with
  | some address => !createNonPublicBlockList.any address.inSubnet
  | none => false

/-! ### The call -/

section
variable (ctx : OutboundContext)

/-- `parseSafeOutboundUrl`: a URL with `https:`, without account and without IP address, but for
the loopback host in development. -/
def parseSafeOutboundUrl (rawUrl : String) : Except OutboundRequestSecurityError Url :=
  match ctx.parseUrl rawUrl with
  | none => .error ⟨"외부 서비스 URL 형식이 올바르지 않습니다."⟩
  | some url =>
      let loopback := isLoopbackHostname url.hostname
      let developmentLoopback := decide (ctx.nodeEnv ≠ some "production") && loopback &&
        decide (url.protocol = "http:" ∨ url.protocol = "https:")
      if url.username ≠ "" ∨ url.password ≠ "" then
        .error ⟨"외부 서비스 URL에는 계정 정보를 포함할 수 없습니다."⟩
      else if url.protocol ≠ "https:" ∧ developmentLoopback = false then
        .error ⟨"외부 서비스 URL은 HTTPS public host만 허용합니다."⟩
      else if isIP (normalizeHostname url.hostname) = true ∧ developmentLoopback = false then
        .error ⟨"외부 서비스 URL에는 IP 주소를 직접 사용할 수 없습니다."⟩
      else .ok url

/-- `assertHostnameResolvesSafely`. The answer of `lookup` is `none` when it throws. -/
def assertHostnameResolvesSafely (url : Url) (lookup : Option (List String)) :
    Except OutboundRequestSecurityError Unit :=
  if isLoopbackHostname url.hostname = true ∧ ctx.nodeEnv ≠ some "production" then .ok ()
  else if ctx.nodeEnv ≠ some "production" ∧ ".test".toList <:+ url.hostname.toList then .ok ()
  else
    match lookup with
    | none => .error ⟨"외부 서비스 호스트를 확인할 수 없습니다."⟩
    | some addresses =>
        -- One address that is not public is enough for a refusal.
        if addresses = [] ∨ addresses.any (fun address => !isPublicIpAddress address) = true then
          .error ⟨"외부 서비스 호스트가 사설 또는 예약 주소를 사용합니다."⟩
        else .ok ()

/-- A connection that is opened for a URL. -/
structure Connection where
  url : Url
  address : String
  deriving DecidableEq

/-- A call, with the two answers of the resolver: the one of `lookup`, and the addresses that
`fetch` gets when it connects. -/
structure OutboundCall where
  rawUrl : String
  lookup : Option (List String)
  resolved : List String

/-- What becomes of the connections: how many addresses `fetch` tries, and whether a response
arrives over one of them. -/
structure FetchOutcome where
  tried : Nat
  responds : Bool

/-- `fetch` with `redirect: "error"`: it connects to the first addresses of its own DNS answer. -/
def fetch (url : Url) (resolved : List String) (outcome : FetchOutcome) :
    List Connection × Except OutboundRequestSecurityError Unit :=
  let connections := (resolved.take outcome.tried).map fun address => { url, address }
  (connections,
    if outcome.responds && !connections.isEmpty then .ok ()
    else .error ⟨"외부 서비스 연결에 실패했습니다."⟩)

/-- `secureOutboundFetch`: the connections that it opens, and how it ends. -/
def secureOutboundFetch (call : OutboundCall) (outcome : FetchOutcome) :
    List Connection × Except OutboundRequestSecurityError Unit :=
  match parseSafeOutboundUrl ctx call.rawUrl with
  | .error error => ([], .error error)
  | .ok url =>
      match assertHostnameResolvesSafely ctx url call.lookup with
      | .error error => ([], .error error)
      | .ok _ => fetch url call.resolved outcome

end

end Dcvp.Services
