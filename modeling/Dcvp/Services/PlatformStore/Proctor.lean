import Dcvp.Services.PlatformStore.State

/-!
# `Dcvp.Services.PlatformStore.Proctor`: proctor events and devices

The functions of `platform-store.proctor.ts` on the memory path.
-/

set_option autoImplicit false

namespace Dcvp.Services.PlatformStore

open Dcvp.Shared

/-- `logProctorEventInStore`: the event, and the list with it. -/
def logProctorEventInStore (memoryEvents : List ProctorEvent) (invite : CandidateInvite)
    (input : CreateProctorEventInput) (turn : PlatformInput) :
    ProctorEvent × List ProctorEvent :=
  let event : ProctorEvent :=
    { id := turn.createId "proctor" 0
      candidateId := invite.candidate.id
      examId := invite.exam.id
      type := input.type
      detail := input.detail
      createdAt := turn.nowIso }
  (event, event :: memoryEvents)

/-- `upsertProctorDeviceInStore`: one device for each role of a candidate in an exam. -/
def upsertProctorDeviceInStore (memoryDevices : List ProctorDevice) (invite : CandidateInvite)
    (input : UpsertProctorDeviceInput) (turn : PlatformInput) :
    ProctorDevice × List ProctorDevice :=
  let existing := memoryDevices.find? fun device =>
    device.candidateId = invite.candidate.id ∧ device.examId = invite.exam.id ∧
      device.role = input.role
  let now := turn.nowIso
  let device : ProctorDevice :=
    { id := (existing.map (·.id)).getD (turn.createId "proctor_device" 0)
      candidateId := invite.candidate.id
      examId := invite.exam.id
      role := input.role
      status := input.status
      connectedAt :=
        if input.status = .connected then some now else existing.bind (·.connectedAt)
      disconnectedAt :=
        if input.status = .disconnected ∨ input.status = .permissionDenied then some now
        else existing.bind (·.disconnectedAt)
      lastHeartbeatAt :=
        if input.status = .connected then some now else existing.bind (·.lastHeartbeatAt)
      -- A heartbeat without a detail removes the old one. The database keeps it.
      detail := input.detail
      createdAt := (existing.map (·.createdAt)).getD now
      updatedAt := now }
  (device, device :: memoryDevices.filter (·.id ≠ device.id))

/-! ### The sweep -/

/-- `new Date(time).getTime()` within the range of dates. A date has whole milliseconds, the rest
of a number is cut off. -/
def dateTime (time : Rat) : Int := if 0 ≤ time then time.floor else time.ceil

/-- `new Date(Date.now() - proctorHeartbeatTimeoutMs())` for a timeout of whole milliseconds,
`none` for `NaN`. -/
def staleBefore (ctx : PlatformContext) (now : Int) : Option Int :=
  ctx.proctorHeartbeatTimeoutMs.map (now - ·)

/-- `heartbeatAt < staleBefore.getTime()`. A device without a heartbeat counts as one from
1970, and a comparison with `NaN` is false. -/
def heartbeatBefore (ctx : PlatformContext) (device : ProctorDevice)
    (before : Option Int) : Bool :=
  let heartbeatAt :=
    match Js.truthy device.lastHeartbeatAt with
    | some text => ctx.dateParse text
    | none => some 0
  match heartbeatAt, before with
  | some heartbeatAt, some before => decide (heartbeatAt < before)
  | _, _ => false

/-- The `staleDevices` of an exam: connected, and last seen before the bound. -/
def staleDevices (ctx : PlatformContext) (devices : List ProctorDevice) (examId : String)
    (before : Option Int) : List ProctorDevice :=
  devices.filter fun device =>
    decide (device.examId = examId) && decide (device.status = .connected) &&
      heartbeatBefore ctx device before

/-- A device that the sweep disconnects. -/
def disconnectStale (device : ProctorDevice) (disconnectedAt : String) : ProctorDevice :=
  { device with
    status := .disconnected
    disconnectedAt := some disconnectedAt
    detail := some "heartbeat missed"
    updatedAt := disconnectedAt }

/-- The event of a device that the sweep disconnects, the `n`-th of the sweep. -/
def heartbeatMissed (device : ProctorDevice) (turn : PlatformInput) (n : Nat) : ProctorEvent where
  id := turn.createId "proctor" n
  candidateId := device.candidateId
  examId := device.examId
  type := if device.role = .mobileAux then .mobileHeartbeatMissed else .primaryCameraDisconnected
  detail := some (device.role.text ++ " heartbeat missed.")
  createdAt := turn.nowIso

/-- `markStaleProctorDevicesInStore`. The limit was computed when the call was made. -/
def markStaleProctorDevicesInStore (ctx : PlatformContext) (memoryState : ProctorMemoryState)
    (examId : String) (before : Option Int) (turn : PlatformInput) : ProctorMemoryState :=
  let stale := staleDevices ctx memoryState.proctorDevices examId before
  if stale = [] then memoryState
  else
    { proctorDevices :=
        mapWhere (fun device => stale.any (·.id = device.id))
          (disconnectStale · turn.nowIso) memoryState.proctorDevices
      proctorEvents :=
        stale.mapIdx (fun n device => heartbeatMissed device turn n) ++
          memoryState.proctorEvents }

end Dcvp.Services.PlatformStore
