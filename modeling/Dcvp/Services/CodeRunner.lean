import Dcvp.Lib.Machine
import Dcvp.Lib.OrderedMap

/-!
# `Dcvp.Services.CodeRunner`: the admission of judge requests

The class `CodeRunnerService` of `services/code-runner.service.ts`, without the judging
itself. An operation (`() => this.judgeAdmitted(...)`) is opaque: it runs for a while and ends
with some outcome in `Ω`, a result or an error.

`CodeRunner` holds the fields of the class. `RunnerWorld` adds what the runtime keeps for
it: the operations that `runAdmitted` awaits, the armed queue timeouts, and what happened so
far. A call of `judge` is numbered by its order, and the number stands for its promise.

`runAdmitted` has two halves, before and after its `await`. The second half is the `finally`
block. It runs when the operation has ended, and the promise of the call settles in the same
turn, after the block.

A queue timeout can fire only while it is armed. `clearTimeout` disarms it, and firing
disarms it as well.
-/

set_option autoImplicit false

namespace Dcvp.Services

open Dcvp.Lib

/-- `MAX_CONCURRENT_RUNS`: how many operations run at a time. -/
def maxConcurrentRuns : Int := 2

/-- `MAX_QUEUED_RUNS`: how many calls may wait behind the running ones. -/
def maxQueuedRuns : Nat := 8

/-- `MAX_RUNS_PER_CANDIDATE_PER_MINUTE`: the limit of a request window. -/
def maxRunsPerCandidatePerMinute : Nat := 6

/-- The number of windows beyond which those that have run out are cleared. -/
def maxRequestWindows : Nat := 10000

/-- `QueuedRun`. The number `call` stands for the operation and for `resolve` and `reject`. -/
structure QueuedRun where
  call : Nat
  admissionKey : String
  deriving DecidableEq

/-- A value of `requestWindows`: how many requests a client made in its present window, and when
the window ends. -/
structure RequestWindow where
  count : Nat
  resetAt : Int
  deriving DecidableEq

/-- The fields of the class. A `Set` iterates in insertion order, so it is a list. -/
structure CodeRunner where
  activeRuns : Int := 0
  activeAdmissionKeys : List String := []
  queuedRuns : List QueuedRun := []
  requestWindows : OrderedMap String RequestWindow := OrderedMap.empty

/-- How the promise of a call is settled: with the outcome of its operation, as busy, or
refused because code execution is off in production. -/
inductive Settlement (Ω : Type) where
  | outcome (o : Ω)
  | busy
  | disabled
  deriving DecidableEq

/-- The start and the end of an operation. -/
inductive OperationEvent (Ω : Type) where
  | started (call : Nat) (admissionKey : String)
  | finished (call : Nat) (o : Ω)
  deriving DecidableEq

/-- The service and its surroundings: running operations with their keys, calls with an armed
queue timeout, the number of the next call, the calls that passed `assertRequestRate`, the
starts and ends of operations so far, and every `resolve` and `reject` so far. -/
structure RunnerWorld (Ω : Type) where
  service : CodeRunner := {}
  running : List (Nat × String) := []
  timeouts : List Nat := []
  nextCall : Nat := 0
  passed : List (Nat × String) := []
  operations : List (OperationEvent Ω) := []
  settlements : List (Nat × Settlement Ω) := []

variable {Ω : Type}

/-! ### The request rate -/

/-- The sweep at the end of `assertRequestRate`. -/
def sweepWindows (windows : OrderedMap String RequestWindow) (now : Int) :
    OrderedMap String RequestWindow :=
  windows.entries.foldl
    (fun swept entry => if entry.2.resetAt ≤ now then swept.delete entry.1 else swept) windows

/-- `assertRequestRate`: whether the request passes, and the windows afterwards. A request
that does not pass leaves before the sweep. -/
def assertRequestRate (windows : OrderedMap String RequestWindow) (admissionKey : String)
    (now : Int) : Bool × OrderedMap String RequestWindow :=
  let fresh : RequestWindow := { count := 0, resetAt := now + 60000 }
  let window :=
    match windows.get? admissionKey with
    | none => fresh
    | some existing => if existing.resetAt ≤ now then fresh else existing
  -- A request that is turned away counts as well.
  let window := { window with count := window.count + 1 }
  let windows := windows.set admissionKey window
  if window.count > maxRunsPerCandidatePerMinute then (false, windows)
  else if windows.size > maxRequestWindows then (true, sweepWindows windows now)
  else (true, windows)

/-! ### Admission -/

/-- `Set.prototype.add`, on a list without repetition. -/
def addKey (keys : List String) (key : String) : List String :=
  if key ∈ keys then keys else keys ++ [key]

/-- `Set.prototype.delete`, on a list without repetition. -/
def deleteKey (keys : List String) (key : String) : List String := keys.filter (· ≠ key)

/-- `findIndex` followed by `splice(index, 1)`: the first element that satisfies `p`, and the
list without it. -/
def spliceFirst {α : Type} (p : α → Bool) : List α → Option (α × List α)
  | [] => none
  | x :: xs => if p x then some (x, xs) else (spliceFirst p xs).map fun r => (r.1, x :: r.2)

namespace RunnerWorld

/-- A call of the `resolve` or `reject` of a promise. -/
def settle (w : RunnerWorld Ω) (call : Nat) (s : Settlement Ω) : RunnerWorld Ω :=
  { w with settlements := w.settlements ++ [(call, s)] }

/-- `runAdmitted`, up to its `await`: the slot and the key are taken and the operation
starts. -/
def runAdmitted (w : RunnerWorld Ω) (call : Nat) (admissionKey : String) : RunnerWorld Ω :=
  { w with
    service := { w.service with
      activeRuns := w.service.activeRuns + 1
      activeAdmissionKeys := addKey w.service.activeAdmissionKeys admissionKey }
    running := w.running ++ [(call, admissionKey)]
    operations := w.operations ++ [.started call admissionKey] }

/-- The body of the loop of `dispatchQueuedRuns`, for the entry that was taken out. -/
def dispatchEntry (w : RunnerWorld Ω) (queued : QueuedRun) (rest : List QueuedRun) :
    RunnerWorld Ω :=
  { w with
    service := { w.service with queuedRuns := rest }
    timeouts := w.timeouts.filter (· ≠ queued.call) }.runAdmitted queued.call
      queued.admissionKey

/-- The loop of `dispatchQueuedRuns`. Each round takes an entry out of the queue, so the
length of the queue bounds the number of rounds. -/
def dispatchLoop : Nat → RunnerWorld Ω → RunnerWorld Ω
  | 0, w => w
  | fuel + 1, w =>
      if w.service.activeRuns < maxConcurrentRuns then
        match spliceFirst (fun q => decide (q.admissionKey ∉ w.service.activeAdmissionKeys))
          w.service.queuedRuns with
        | none => w
        | some (queued, rest) => dispatchLoop fuel (w.dispatchEntry queued rest)
      else w

/-- `dispatchQueuedRuns`: queued calls start as long as there is a slot and one with a free key.
The length of the queue is enough fuel. -/
def dispatchQueuedRuns (w : RunnerWorld Ω) : RunnerWorld Ω :=
  dispatchLoop w.service.queuedRuns.length w

/-- The promise of `withAdmission` for a request that found no slot: it waits in the queue. -/
def enqueue (w : RunnerWorld Ω) (call : Nat) (admissionKey : String) : RunnerWorld Ω :=
  { w with
    service := { w.service with
      queuedRuns := w.service.queuedRuns ++ [{ call, admissionKey }] }
    timeouts := w.timeouts ++ [call] }

/-- `withAdmission` after `assertRequestRate`: the call starts, waits, or is refused when the queue
is full. -/
def withAdmission (w : RunnerWorld Ω) (call : Nat) (admissionKey : String) : RunnerWorld Ω :=
  if w.service.activeRuns < maxConcurrentRuns ∧
      admissionKey ∉ w.service.activeAdmissionKeys then
    w.runAdmitted call admissionKey
  -- No slot is free, or a run with this key is under way.
  else if w.service.queuedRuns.length ≥ maxQueuedRuns then w.settle call .busy
  else w.enqueue call admissionKey

/-- `judge`. A request that does not pass `assertRequestRate` is rejected as busy at once. -/
def judge (production : Bool) (w : RunnerWorld Ω) (admissionKey : String) (now : Int) :
    RunnerWorld Ω :=
  let call := w.nextCall
  let w := { w with nextCall := call + 1 }
  if production then w.settle call .disabled
  else
    let (pass, requestWindows) := assertRequestRate w.service.requestWindows admissionKey now
    let w := { w with service := { w.service with requestWindows } }
    if pass then
      { w with passed := w.passed ++ [(call, admissionKey)] }.withAdmission call admissionKey
    else w.settle call .busy

/-- The `finally` block of `runAdmitted` up to the dispatch: the slot and the key are given
back. -/
def release (w : RunnerWorld Ω) (call : Nat) (admissionKey : String) (o : Ω) :
    RunnerWorld Ω :=
  { w with
    service := { w.service with
      activeRuns := w.service.activeRuns - 1
      activeAdmissionKeys := deleteKey w.service.activeAdmissionKeys admissionKey }
    running := w.running.filter (·.1 ≠ call)
    operations := w.operations ++ [.finished call o] }

/-- An operation ends: the `finally` block, and then the promise of the call. -/
def finish (w : RunnerWorld Ω) (call : Nat) (admissionKey : String) (o : Ω) :
    RunnerWorld Ω :=
  (w.release call admissionKey o).dispatchQueuedRuns.settle call (.outcome o)

/-- The callback of a queue timeout: the call leaves the queue and is refused. -/
def timeout (w : RunnerWorld Ω) (call : Nat) : RunnerWorld Ω :=
  { w with
    service := { w.service with
      queuedRuns := w.service.queuedRuns.filter (·.call ≠ call) }
    timeouts := w.timeouts.filter (· ≠ call) }.settle call .busy

end RunnerWorld

/-! ### The service as a machine -/

/-- A request arrives, a running operation ends, or an armed timeout fires. -/
inductive RunnerEvent (Ω : Type) where
  | judge (admissionKey : String) (now : Int)
  | finish (call : Nat) (o : Ω)
  | timeout (call : Nat)
  deriving DecidableEq

/-- The machine of the service. An operation ends only while it runs, and a timeout fires
only while it is armed. The clock readings are arbitrary. -/
def runnerMachine (Ω : Type) (production : Bool) : Machine (RunnerWorld Ω) (RunnerEvent Ω) where
  step w
    | .judge admissionKey now => some (w.judge production admissionKey now)
    | .finish call o =>
        (w.running.find? fun r => r.1 = call).map fun r => w.finish call r.2 o
    | .timeout call => if call ∈ w.timeouts then some (w.timeout call) else none

end Dcvp.Services
