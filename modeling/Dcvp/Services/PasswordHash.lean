import Dcvp.Lib.Machine

/-!
# `Dcvp.Services.PasswordHash`: the admission of key derivations

The functions `derivePasswordKeyWithAdmission`, `acquirePasswordKdfSlot` and
`releasePasswordKdfSlot` of `services/password-hash.ts`, without the derivation itself. A
derivation runs for a while and then completes or fails. Either way the `finally` block gives the
slot back.

`PasswordKdf` holds the variables of the module. `KdfWorld` adds what the runtime keeps for it. A
call of `derivePasswordKeyWithAdmission` is numbered by its order, and the number stands for its
waiter and for the promise of `acquirePasswordKdfSlot`.

A queue timeout can fire only while it is armed. `clearTimeout` disarms it, and firing disarms it
as well.
-/

set_option autoImplicit false

namespace Dcvp.Services

open Dcvp.Lib

/-- How many derivations run at a time. -/
def maxConcurrentPasswordKdf : Int := 4

/-- How many calls wait behind the active ones. -/
def maxQueuedPasswordKdf : Nat := 16

/-- The variables of the module: how many derivations run, and the callers that wait for a place,
in the order of their arrival. -/
structure PasswordKdf where
  activePasswordKdf : Int := 0
  passwordKdfQueue : List Nat := []
  deriving DecidableEq

/-- How the promise of `acquirePasswordKdfSlot` is settled: with a slot, or with
`passwordKdfBusyError`. -/
inductive KdfSettlement where
  | granted
  | busy
  deriving DecidableEq

/-- The module and its surroundings: the calls that hold a slot, the waiters with an armed queue
timeout, the number of the next call, the calls whose derivation has ended, and every `resolve`
and `reject` so far. -/
structure KdfWorld where
  kdf : PasswordKdf := {}
  holding : List Nat := []
  timeouts : List Nat := []
  nextCall : Nat := 0
  ended : List Nat := []
  settlements : List (Nat × KdfSettlement) := []
  deriving DecidableEq

namespace KdfWorld

variable (w : KdfWorld) (call : Nat)

/-- A call of the `resolve` or `reject` of a promise. -/
def settle (s : KdfSettlement) : KdfWorld :=
  { w with settlements := w.settlements ++ [(call, s)] }

/-- A slot is counted, and the call gets it. -/
def grant : KdfWorld :=
  { w with
    kdf := { w.kdf with activePasswordKdf := w.kdf.activePasswordKdf + 1 }
    holding := w.holding ++ [call] }.settle call .granted

/-- The promise for a call that found no slot: it waits in the queue. -/
def enqueue : KdfWorld :=
  { w with
    kdf := { w.kdf with passwordKdfQueue := w.kdf.passwordKdfQueue ++ [call] }
    timeouts := w.timeouts ++ [call] }

/-- `acquirePasswordKdfSlot`: a free slot, a refusal as busy, or a place in the queue. -/
def acquirePasswordKdfSlot : KdfWorld :=
  if w.kdf.activePasswordKdf < maxConcurrentPasswordKdf then w.grant call
  else if w.kdf.passwordKdfQueue.length ≥ maxQueuedPasswordKdf then w.settle call .busy
  else w.enqueue call

/-- `derivePasswordKeyWithAdmission`, up to its first `await`, under a new call number. -/
def derivePasswordKey : KdfWorld :=
  { w with nextCall := w.nextCall + 1 }.acquirePasswordKdfSlot w.nextCall

/-- `releasePasswordKdfSlot`: the slot of a derivation that ended goes to the first waiter. -/
def releasePasswordKdfSlot : KdfWorld :=
  let w := { w with kdf := { w.kdf with activePasswordKdf := w.kdf.activePasswordKdf - 1 } }
  match w.kdf.passwordKdfQueue with
  | [] => w
  -- The slot goes to the first waiter at once, and the timeout of the waiter is cleared.
  | waiter :: rest =>
      { w with
        kdf := { w.kdf with passwordKdfQueue := rest }
        timeouts := w.timeouts.erase waiter }.grant waiter

/-- A derivation completes or fails: the `finally` block. -/
def finish : KdfWorld :=
  { w with holding := w.holding.erase call, ended := w.ended ++ [call] }.releasePasswordKdfSlot

/-- The callback of a queue timeout. The waiter is taken out where `indexOf` finds it. -/
def timeout : KdfWorld :=
  { w with
    kdf := { w.kdf with passwordKdfQueue := w.kdf.passwordKdfQueue.erase call }
    timeouts := w.timeouts.erase call }.settle call .busy

/-- The calls that were given a slot, in this order. -/
def granted : List Nat :=
  (w.settlements.filter (·.2 = .granted)).map (·.1)

end KdfWorld

/-- A password is to be hashed or checked, a derivation ends, or an armed timeout fires. -/
inductive KdfEvent where
  | derive
  | finish (call : Nat)
  | timeout (call : Nat)
  deriving DecidableEq

/-- The machine of the module. A derivation ends only while it holds a slot, and a timeout fires
only while it is armed. -/
def kdfMachine : Machine KdfWorld KdfEvent where
  step w
    | .derive => some w.derivePasswordKey
    | .finish call => if call ∈ w.holding then some (w.finish call) else none
    | .timeout call => if call ∈ w.timeouts then some (w.timeout call) else none

end Dcvp.Services
