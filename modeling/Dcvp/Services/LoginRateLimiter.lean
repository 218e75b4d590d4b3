import Dcvp.Js
import Dcvp.Lib.FixedWindow
import Dcvp.Lib.OrderedMap

/-!
# `Dcvp.Services.LoginRateLimiter`: limits on requests

From `apps/api/src/services/login-rate-limiter.ts`. A request is counted under the address of
its client, and under the subject that it names when the client is within its limit. Each
counter runs over a window of a minute. The map keeps its keys in the order of their first
writes, which is the order in which a full map gives them up.
-/

set_option autoImplicit false

namespace Dcvp.Services

open Dcvp.Lib

/-- The length of a window, a minute. -/
def windowMs : Int := 60000

/-- A map with this many buckets gives up old ones. -/
def maximumBuckets : Nat := 20000

/-- The class `Bucket`: how often a key was counted in its present window, and when the window
ends. -/
abbrev Bucket := WindowCounter

/-- The map of the limiter. Its order is that of insertion, as in a `Map`. -/
abbrev Buckets := OrderedMap String Bucket

/-- The header `x-forwarded-for`: one text, or the texts of several headers. -/
inductive ForwardedFor where
  | text (value : String)
  | texts (values : List String)
  deriving DecidableEq, Repr

/-- The class `LoginRequestContext`, with what the limiter reads. -/
structure LoginRequestContext where
  remoteAddress : Option String := none
  forwardedFor : Option ForwardedFor := none
  deriving DecidableEq, Repr

/-- The class `RateLimitOptions`: the limits of a subclass, and the namespace that keeps its
subjects apart from those of the others. -/
structure RateLimitOptions where
  clientLimit : Nat
  subjectLimit : Nat
  subjectNamespace : String

/-- The subclasses of `RequestRateLimiter`. They differ in their options only. -/
inductive RequestRateLimiter where
  | login
  | candidateExecution
  | accountCreation
  deriving DecidableEq, Repr

/-- What each subclass passes to `super`: its two limits and the name of its subject. -/
def RequestRateLimiter.options : RequestRateLimiter → RateLimitOptions
  | .login => { clientLimit := 20, subjectLimit := 10, subjectNamespace := "login-account" }
  | .candidateExecution =>
      { clientLimit := 12, subjectLimit := 6, subjectNamespace := "candidate-execution" }
  | .accountCreation =>
      { clientLimit := 6, subjectLimit := 3, subjectNamespace := "account-creation" }

/-- The surroundings of the limiter: the proxy setting that decides which address is the client's,
the digest of the keys, and the case mapping. -/
structure RateLimitContext where
  /-- `AUTH_HTTPS_TRUST_PROXY` is `"1"`. -/
  trustProxy : Bool
  /-- `createHash("sha256")`, printed as base64url. -/
  digest : String → String
  text : Js.CaseMapping

/-- The arguments of a call of `consume`. An e-mail that is not a string is `none`. -/
structure ConsumeCall where
  request : LoginRequestContext
  email : Option String
  now : Int

section
variable (ctx : RateLimitContext)

/-- The first address of the header `x-forwarded-for`, which may be a list. -/
def firstForwarded : ForwardedFor → Option String
  | .text value => some value
  | .texts values => values.head?

/-- `clientAddress`: the first address of the header, behind a trusted proxy, and otherwise the one
of the connection. -/
def clientAddress (request : LoginRequestContext) : String :=
  let forwarded := request.forwardedFor.bind firstForwarded
  let firstAddress := forwarded.map fun value =>
    Js.trim (String.ofList (value.toList.takeWhile (· ≠ ',')))
  -- Only a trusted proxy may name the client, and an empty name does not count.
  match ctx.trustProxy, Js.truthy firstAddress with
  | true, some address => address
  | _, _ => (Js.truthy (request.remoteAddress.map Js.trim)).getD "unknown"

/-- The subject that an e-mail names, trimmed and in lower case. -/
def subjectName (email : Option String) : String :=
  match email with
  | some value => ctx.text.toLowerCase (Js.trim value)
  | none => "invalid"

/-- The key of the client's bucket. Only its digest is kept. -/
def clientKey (request : LoginRequestContext) : String :=
  ctx.digest ("client:" ++ clientAddress ctx request)

/-- The key of the subject's bucket, in the name space of the limiter. -/
def subjectKey (options : RateLimitOptions) (email : Option String) : String :=
  ctx.digest (options.subjectNamespace ++ ":" ++ subjectName ctx email)

end

/-- The bucket after the request, and the milliseconds until it is reset if it is too full. -/
def consumeBucket (buckets : Buckets) (key : String) (limit : Nat) (now : Int) :
    Buckets × Int :=
  let bucket := WindowCounter.hit windowMs now (buckets.get? key)
  (buckets.set key bucket, if limit < bucket.count then bucket.resetAt - now else 0)

/-- The loop that gives up the oldest keys of a full map. -/
def withoutOldest : List (String × Bucket) → List (String × Bucket)
  | [] => []
  | entry :: entries =>
      if maximumBuckets ≤ (entry :: entries).length then withoutOldest entries
      else entry :: entries

/-- The loop drops entries from the front, and keeps the others in their order. -/
theorem withoutOldest_sublist (entries : List (String × Bucket)) :
    (withoutOldest entries).Sublist entries := by
  induction entries with
  | nil => exact List.Sublist.refl _
  | cons entry entries ih =>
      simp only [withoutOldest]
      split
      · exact ih.cons entry
      · exact List.Sublist.refl _

/-- `removeExpiredBuckets`: a full map gives up the buckets that have run out, and then the oldest
ones until it has room. -/
def removeExpiredBuckets (buckets : Buckets) (now : Int) : Buckets :=
  if buckets.size < maximumBuckets then buckets
  else
    { entries := withoutOldest (buckets.entries.filter fun entry => now < entry.2.resetAt)
      nodup := (((withoutOldest_sublist _).trans List.filter_sublist).map Prod.fst).nodup
        buckets.nodup }

/-- `Math.ceil(ms / 1000)`: a started second counts as a whole one. -/
def ceilSeconds (ms : Int) : Int := -(-ms / 1000)

/-- `RequestRateLimiter.consume`. The answer is the number of seconds to wait, or `none` for a
request that may go on. -/
def consume (ctx : RateLimitContext) (limiter : RequestRateLimiter) (call : ConsumeCall)
    (buckets : Buckets) : Buckets × Option Int :=
  let options := limiter.options
  let buckets := removeExpiredBuckets buckets call.now
  let (buckets, clientRetry) :=
    consumeBucket buckets (clientKey ctx call.request) options.clientLimit call.now
  if 0 < clientRetry then (buckets, some (ceilSeconds clientRetry))
  else
    let (buckets, subjectRetry) :=
      consumeBucket buckets (subjectKey ctx options call.email) options.subjectLimit call.now
    (buckets, if 0 < subjectRetry then some (ceilSeconds subjectRetry) else none)

/-- Calls of one limiter, one after the other. -/
def consumeAll (ctx : RateLimitContext) (limiter : RequestRateLimiter) :
    Buckets → List ConsumeCall → Buckets
  | buckets, [] => buckets
  | buckets, call :: calls => consumeAll ctx limiter (consume ctx limiter call buckets).1 calls

end Dcvp.Services
