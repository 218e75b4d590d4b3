import Dcvp.Lib.Machine
import Dcvp.Lib.OrderedMap
import Dcvp.Shared

/-!
# `Dcvp.Services.AuthSessionRegistry`: the session registry

The class `AuthSessionRegistry` of `services/auth-session-registry.ts`, one definition per
method. A method is a function on the registry record. Its `Date.now()` readings are
arguments, in the order in which the code takes them, in milliseconds.

The record holds the map `sessions`, the timeouts that are armed at the moment, and the
calls of `onRevoked` so far. A timeout keeps the delay that the code passed to `setTimeout`
and the clock reading from which that delay was computed. `setTimeout` promises only that
the callback runs at some later moment: the runtime can be late, and it replaces a delay
above 2^31 - 1 ms by 1 ms and so calls early. So the machine at the end of this file lets an
armed timeout fire at any time.
-/

set_option autoImplicit false

namespace Dcvp.Services

open Dcvp.Lib
open Dcvp.Shared (AuthSession)

/-- `SessionRegistryOptions`, with the defaults `ABSOLUTE_TTL_MS` and `IDLE_TTL_MS` that the
constructor fills in. -/
structure SessionRegistryOptions where
  absoluteTtlMs : Int := 8 * 60 * 60 * 1000
  idleTtlMs : Int := 30 * 60 * 1000
  deriving DecidableEq

/-- The `Date.now()` readings of one method call: `now` is the reading of the method itself,
`later` the reading of `store` when it arms the timeout. -/
structure Clock where
  now : Int
  later : Int
  deriving DecidableEq

/-- An armed timeout, with the callback `() => this.expire(token)`. -/
structure Timeout where
  id : Nat
  token : String
  armedAt : Int
  delay : Int
  deriving DecidableEq

/-- The time for which a timeout is set. -/
def Timeout.dueAt (t : Timeout) : Int := t.armedAt + t.delay

/-- `StoredSession`: a session with the two dates its expiry is counted from, and the timer that
will remove it. -/
structure StoredSession where
  session : AuthSession
  createdAt : Int
  lastSeenAt : Int
  expiryTimer : Nat
  deriving DecidableEq

/-- The registry: its map, the armed timeouts, the next timeout handle, and the `onRevoked`
calls in order. Each call is listed with the map key it was made for. -/
structure AuthSessionRegistry where
  sessions : OrderedMap String StoredSession := OrderedMap.empty
  timers : List Timeout := []
  nextTimer : Nat := 0
  revoked : List (String × AuthSession) := []

/-- `expiresAt` in `store`: the earlier end of the two lifetimes. -/
def expiresAt (opts : SessionRegistryOptions) (createdAt lastSeenAt : Int) : Int :=
  min (createdAt + opts.absoluteTtlMs) (lastSeenAt + opts.idleTtlMs)

namespace AuthSessionRegistry

/-- `clearTimeout`: the timer does not fire any more. -/
def clearTimeout (r : AuthSessionRegistry) (id : Nat) : AuthSessionRegistry :=
  { r with timers := r.timers.filter fun t => t.id ≠ id }

/-- The first line of `store`: clear the previous timeout, if there is one. -/
def clearPrevious (r : AuthSessionRegistry) : Option Nat → AuthSessionRegistry
  | some id => r.clearTimeout id
  | none => r

/-- `store`. The argument `dateNow` is its own `Date.now()` reading. -/
def store (opts : SessionRegistryOptions) (r : AuthSessionRegistry) (token : String)
    (session : AuthSession) (createdAt lastSeenAt : Int) (previousTimer : Option Nat)
    (dateNow : Int) : AuthSessionRegistry :=
  let cleared := r.clearPrevious previousTimer
  { cleared with
      sessions := cleared.sessions.set token
        { session, createdAt, lastSeenAt, expiryTimer := r.nextTimer }
      timers := cleared.timers ++
        [{ id := r.nextTimer, token, armedAt := dateNow,
           delay := max 0 (expiresAt opts createdAt lastSeenAt - dateNow) }]
      nextTimer := r.nextTimer + 1 }

/-- `delete`: the session is removed with its timer, returned, and handed to `onRevoked`. An
unknown token is no revocation. -/
def delete (r : AuthSessionRegistry) (token : String) :
    Option AuthSession × AuthSessionRegistry :=
  match r.sessions.get? token with
  | none => (none, r)
  | some stored =>
      let cleared := r.clearTimeout stored.expiryTimer
      (some stored.session,
        { cleared with
            sessions := cleared.sessions.delete token
            revoked := cleared.revoked ++ [(token, stored.session)] })

/-- The test of `get`: one of the two lifetimes has passed. -/
def hasExpired (opts : SessionRegistryOptions) (createdAt lastSeenAt now : Int) : Prop :=
  createdAt + opts.absoluteTtlMs ≤ now ∨ lastSeenAt + opts.idleTtlMs ≤ now

instance (opts : SessionRegistryOptions) (createdAt lastSeenAt now : Int) :
    Decidable (hasExpired opts createdAt lastSeenAt now) :=
  inferInstanceAs (Decidable (_ ∨ _))

/-- `get`: an expired session is deleted, every other one is answered and touched. -/
def get (opts : SessionRegistryOptions) (r : AuthSessionRegistry) (clock : Clock)
    (token : String) : Option AuthSession × AuthSessionRegistry :=
  match r.sessions.get? token with
  | none => (none, r)
  | some stored =>
      if hasExpired opts stored.createdAt stored.lastSeenAt clock.now then
        (none, (r.delete token).2)
      else
        -- Each use starts the idle lifetime anew and arms another timeout.
        (some stored.session,
          r.store opts token stored.session stored.createdAt clock.now
            (some stored.expiryTimer) clock.later)

/-- `set`: a session is stored under its token. One that is stored already keeps the date of its
creation. -/
def set (opts : SessionRegistryOptions) (r : AuthSessionRegistry) (clock : Clock)
    (token : String) (session : AuthSession) : AuthSessionRegistry :=
  let stored := r.sessions.get? token
  -- A token that is stored already keeps its `createdAt`, so it does not live longer.
  r.store opts token session ((stored.map StoredSession.createdAt).getD clock.now) clock.now
    (stored.map StoredSession.expiryTimer) clock.later

/-- The loop body of `revokeUser`, with the list `revoked` and the registry as its state. -/
def revokeEntry (userId : String) (acc : List AuthSession × AuthSessionRegistry)
    (entry : String × StoredSession) : List AuthSession × AuthSessionRegistry :=
  if entry.2.session.user.id ≠ userId then acc
  else (acc.1 ++ [entry.2.session], (acc.2.delete entry.1).2)

/-- `revokeUser`. An iteration over an ECMAScript `Map` visits the entries in insertion
order. The body deletes at most the entry it stands on, so the loop visits each entry that
the map had at its start. -/
def revokeUser (r : AuthSessionRegistry) (userId : String) :
    List AuthSession × AuthSessionRegistry :=
  r.sessions.entries.foldl (revokeEntry userId) ([], r)

/-- `expire`. The code tests the negation of `hasExpired` and re-arms the timeout then. -/
def expire (opts : SessionRegistryOptions) (r : AuthSessionRegistry) (clock : Clock)
    (token : String) : AuthSessionRegistry :=
  match r.sessions.get? token with
  | none => r
  | some stored =>
      if stored.createdAt + opts.absoluteTtlMs > clock.now ∧
          stored.lastSeenAt + opts.idleTtlMs > clock.now then
        r.store opts token stored.session stored.createdAt stored.lastSeenAt
          (some stored.expiryTimer) clock.later
      else (r.delete token).2

/-- An armed timeout fires: it is no longer armed, and its callback runs. -/
def fire (opts : SessionRegistryOptions) (r : AuthSessionRegistry) (clock : Clock)
    (t : Timeout) : AuthSessionRegistry :=
  (r.clearTimeout t.id).expire opts clock t.token

end AuthSessionRegistry

/-! ### The registry as a machine -/

/-- A call of a public method, or the firing of an armed timeout. -/
inductive RegistryCall where
  | get (token : String)
  | set (token : String) (session : AuthSession)
  | delete (token : String)
  | revokeUser (userId : String)
  | fire (timer : Timeout)
  deriving DecidableEq

/-- A call of the registry with what the clock shows while it runs. -/
structure TimedCall where
  clock : Clock
  call : RegistryCall
  deriving DecidableEq

/-- The registry together with the latest clock reading so far. -/
structure RegistryState where
  registry : AuthSessionRegistry := {}
  clock : Int

/-- The registry after a call, without the call's answer. -/
def AuthSessionRegistry.perform (opts : SessionRegistryOptions) (r : AuthSessionRegistry)
    (e : TimedCall) : AuthSessionRegistry :=
  match e.call with
  | .get token => (r.get opts e.clock token).2
  | .set token session => r.set opts e.clock token session
  | .delete token => (r.delete token).2
  | .revokeUser userId => (r.revokeUser userId).2
  | .fire timer => r.fire opts e.clock timer

/-- A call can happen when its clock readings do not go back, and a timeout can fire only
while it is armed. -/
def RegistryState.Enabled (s : RegistryState) (e : TimedCall) : Prop :=
  s.clock ≤ e.clock.now ∧ e.clock.now ≤ e.clock.later ∧
    match e.call with
    | .fire timer => timer ∈ s.registry.timers
    | _ => True

instance (s : RegistryState) (e : TimedCall) : Decidable (s.Enabled e) := by
  unfold RegistryState.Enabled
  cases e.call <;> exact inferInstanceAs (Decidable (_ ∧ _ ∧ _))

/-- The machine of the registry: any sequence of calls and firing timeouts, at nondecreasing
times. -/
def registryMachine (opts : SessionRegistryOptions) : Machine RegistryState TimedCall where
  step s e :=
    if s.Enabled e then some ⟨s.registry.perform opts e, e.clock.later⟩ else none

end Dcvp.Services
