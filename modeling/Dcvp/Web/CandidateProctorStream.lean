import Dcvp.Shared
import Dcvp.Web.ProctorSocket

/-!
# `Dcvp.Web.CandidateProctorStream`: the camera of a candidate's device

The effect of `useCandidateProctorStream`, from its start to its cleanup. When the socket
connects, `start` asks for the camera, reports the device, starts a heartbeat, joins the exam
and offers the stream. A request of a proctor makes a new offer on a new peer connection.

`start` and `createOffer` are asynchronous. Each call of `start` is kept with the operation for
which it waits, and each call of `createOffer` with its connection. The socket can connect again
while an earlier `start` is under way, and an operation can end after the cleanup: such events
are part of the model. A closed connection fulfils no operation any more.

Which camera `facingMode` selects, and what the page only displays, is left out.
-/

set_option autoImplicit false

namespace Dcvp.Web

open Dcvp.Lib
open Dcvp.Shared
open Dcvp.Modules (SignalPayload SignalEvent ServerMessage)

/-- `CandidateProctorStreamInput`: the arguments of the hook, which name the candidate and the role
of this device. -/
structure CandidateProctorStreamInput where
  inviteToken : String
  examId : String
  candidateId : String
  deviceRole : ProctorDeviceRole
  /-- Whether the page has a video element for its own stream. -/
  hasVideo : Bool := true
  deriving DecidableEq

/-- The operation for which a call of `start` waits. -/
inductive StartPhase where
  | camera
  | playing (stream : Nat)
  | reporting
  | logging
  | offering
  /-- In the `catch`: `upsertProctorDevice`, and then `logProctorEvent`. -/
  | refusalReporting (detail : String)
  | refusalLogging
  | ended
  deriving DecidableEq

/-- The operation for which a call of `createOffer` waits. -/
inductive OfferStage where
  | creating
  | setting (description : String)
  | offered
  | failed
  deriving DecidableEq

/-- An `RTCPeerConnection` of the device, with the `start` that awaits its offer, if one does. -/
structure OfferConnection where
  starter : Option Nat
  stage : OfferStage := .creating
  closed : Bool := false
  /-- The message with the answer that was set. -/
  remote : Option SignalPayload := none
  remoteCandidates : List String := []
  deriving DecidableEq

/-- A stream of the camera. It is on until its tracks are stopped, or end by themselves. -/
structure CameraStream where
  live : Bool
  /-- Whether `track.onended` is set. -/
  watched : Bool := false
  deriving DecidableEq

/-- A request of the page to the API. -/
inductive DeviceCall where
  | upsertProctorDevice (input : UpsertProctorDeviceInput)
  | logProctorEvent (input : CreateProctorEventInput)
  deriving DecidableEq

/-- The state of the effect. Starts, streams, connections and timers have the numbers of their
creation. A timer is `true` while it runs. -/
structure CandidateProctorStream where
  input : CandidateProctorStreamInput
  active : Bool := true
  deviceStatus : ProctorDeviceStatus := .waiting
  starts : List StartPhase := []
  streams : List CameraStream := []
  streamRef : Option Nat := none
  connections : List OfferConnection := []
  peerRef : Option Nat := none
  timers : List Bool := []
  heartbeatIntervalId : Option Nat := none
  /-- What was passed to `socket.emit`. -/
  sent : List ClientMessage := []
  calls : List DeviceCall := []

/-- The events that reach the effect: those of the socket, of the peer connection and of the
devices, and the end of each await. -/
inductive StreamEvent where
  | connect
  | disconnect
  | message (message : ServerMessage)
  /-- The operation for which a `start` waits is fulfilled, or fails. -/
  | cameraGranted (start : Nat)
  | played (start : Nat)
  | reported (start : Nat)
  | logged (start : Nat)
  | refusalReported (start : Nat)
  | startFailed (start : Nat) (detail : String)
  | offerCreated (connection : Nat) (description : String)
  | localDescriptionSet (connection : Nat)
  | offerFailed (connection : Nat) (detail : String)
  | networkCandidate (connection : Nat) (candidate : String)
  | trackEnded (stream : Nat)
  | heartbeat (timer : Nat)
  | visibilityChange (hidden : Bool)
  | offline
  | online
  | pageLeft
  | cleanup

/-- `cameraDisconnectedEventType`: the event that each role of a device logs. -/
def cameraDisconnectedEventType : ProctorDeviceRole → ProctorEventType
  | .primaryPc => .primaryCameraDisconnected
  | .mobileAux => .mobileCameraDisconnected

/-- `cameraConnectedEventType`: the event that each role of a device logs. -/
def cameraConnectedEventType : ProctorDeviceRole → ProctorEventType
  | .primaryPc => .primaryCameraConnected
  | .mobileAux => .mobileCameraConnected

/-- `permissionDeniedEventType`: the event that each role of a device logs. -/
def permissionDeniedEventType : ProctorDeviceRole → ProctorEventType
  | .primaryPc => .primaryCameraPermissionDenied
  | .mobileAux => .mobileCameraPermissionDenied

/-- `visibilityEventType`: whether the page was hidden or shown, by the role of the device. -/
def visibilityEventType (deviceRole : ProctorDeviceRole) (hidden : Bool) : ProctorEventType :=
  match deviceRole, hidden with
  | .mobileAux, true => .mobilePageHidden
  | .mobileAux, false => .mobilePageVisible
  | .primaryPc, true => .tabHidden
  | .primaryPc, false => .tabVisible

namespace CandidateProctorStream

variable (p : CandidateProctorStream)

/-! ### Requests and messages -/

/-- `api.upsertProctorDevice`: a call with the role of the page and a status. -/
def upsertProctorDevice (status : ProctorDeviceStatus) (detail : String) :
    CandidateProctorStream :=
  { p with calls := p.calls ++
      [.upsertProctorDevice { role := p.input.deviceRole, status, detail := some detail }] }

/-- `api.logProctorEvent`: a call with an event and its detail. -/
def logProctorEvent (type : ProctorEventType) (detail : String) : CandidateProctorStream :=
  { p with calls := p.calls ++ [.logProctorEvent { type, detail := some detail }] }

/-- `socket.emit`. The cleanup has disconnected the socket for good. -/
def emit (message : ClientMessage) : CandidateProctorStream :=
  { p with sent := if p.active then p.sent ++ [message] else p.sent }

/-- The fields with which each signal of the page begins. -/
def signal : SignalPayload :=
  { examId := p.input.examId, candidateId := p.input.candidateId
    deviceRole := p.input.deviceRole.text }

/-- `stopHeartbeat`: the interval that runs is cleared, if there is one. -/
def stopHeartbeat : CandidateProctorStream :=
  match p.heartbeatIntervalId with
  | none => p
  | some i => { p with timers := p.timers.set i false, heartbeatIntervalId := none }

/-- `markDisconnected`: the heartbeat stops, and the server is told twice. -/
def markDisconnected (detail : String) : CandidateProctorStream :=
  let p := { p.stopHeartbeat with deviceStatus := .disconnected }
  (p.upsertProctorDevice .disconnected detail).logProctorEvent
    (cameraDisconnectedEventType p.input.deviceRole) detail

/-! ### `createOffer` -/

/-- `peerRef.current?.close()`: the reference keeps the closed connection. -/
def closePeer : CandidateProctorStream :=
  match p.peerRef with
  | none => p
  | some i => { p with connections := p.connections.modify i ({ · with closed := true }) }

/-- The call of `start` goes on to its next operation. -/
def setPhase (start : Nat) (phase : StartPhase) : CandidateProctorStream :=
  { p with starts := p.starts.set start phase }

/-- The `start` that awaits the offer goes on. -/
def continueStarter (starter : Option Nat) (phase : StartPhase) : CandidateProctorStream :=
  match starter with
  | none => p
  | some start => p.setPhase start phase

/-- The `catch` of `start`: the status is shown, and then reported to the server. -/
def refuse (start : Nat) (detail : String) : CandidateProctorStream :=
  let p := { p with deviceStatus := .permissionDenied }
  (p.upsertProctorDevice .permissionDenied detail).setPhase start (.refusalReporting detail)

/-- `createOffer`, up to its first suspension; the earlier connection is closed. -/
def createOffer (starter : Option Nat) : CandidateProctorStream :=
  match p.streamRef, p.active with
  | some _, true =>
      let p := p.closePeer
      let p := { p with
        connections := p.connections ++ [({ starter } : OfferConnection)]
        peerRef := some p.connections.length }
      p.continueStarter starter .offering
  | _, _ => p.continueStarter starter .ended

/-- A connection that is open, by its number, and nothing for a closed one. -/
def openConnection (i : Nat) : Option OfferConnection :=
  p.connections[i]?.filter fun c => !c.closed

/-- Change one connection, and leave the others as they are. -/
def updateConnection (i : Nat) (f : OfferConnection → OfferConnection) : CandidateProctorStream :=
  { p with connections := p.connections.modify i f }

/-- `createOffer`, after `connection.createOffer`: the description is to be set. -/
def offerCreated (i : Nat) (description : String) : Option CandidateProctorStream :=
  (p.openConnection i).bind fun c =>
    match c.stage with
    | .creating => some (p.updateConnection i ({ · with stage := .setting description }))
    | _ => none

/-- `createOffer`, after `setLocalDescription`: the offer goes out to the gateway. -/
def localDescriptionSet (i : Nat) : Option CandidateProctorStream :=
  (p.openConnection i).bind fun c =>
    match c.stage with
    | .setting description =>
        let p := p.updateConnection i ({ · with stage := .offered })
        let p := p.emit (.signal .webrtcOffer { p.signal with description := some description })
        some (p.continueStarter c.starter .ended)
    | _ => none

/-- An operation of `createOffer` fails. Only a `start` has a `catch` for it. -/
def offerFailed (i : Nat) (detail : String) : Option CandidateProctorStream :=
  p.connections[i]?.bind fun c =>
    match c.stage with
    | .creating | .setting _ =>
        let p := p.updateConnection i ({ · with stage := .failed })
        match c.starter with
        | none => some p
        | some start => some (p.refuse start detail)
    | _ => none

/-! ### `start` -/

/-- `start`, when the own stream is shown. -/
def report (start stream : Nat) : CandidateProctorStream :=
  let p := { p with
    streams := p.streams.modify stream ({ · with watched := true })
    deviceStatus := .connected }
  (p.upsertProctorDevice .connected "camera stream active").setPhase start .reporting

/-- `start`, after `getUserMedia`: a page that was left stops the stream at once. -/
def cameraGranted (start : Nat) : CandidateProctorStream :=
  let stream := p.streams.length
  if p.active then
    let p := { p with
      streams := p.streams ++ [({ live := true } : CameraStream)]
      streamRef := some stream }
    -- `video.play` comes first where the page has a video element.
    if p.input.hasVideo then p.setPhase start (.playing stream) else p.report start stream
  else
    -- The page was left while it asked for the camera.
    { p with streams := p.streams ++ [({ live := false } : CameraStream)] }.setPhase start .ended

/-- `start`, after `upsertProctorDevice`: the heartbeat begins, and the event is logged. -/
def reported (start : Nat) : CandidateProctorStream :=
  let p := { p with
    timers := p.timers ++ [true]
    heartbeatIntervalId := some p.timers.length }
  (p.logProctorEvent (cameraConnectedEventType p.input.deviceRole)
    "Camera stream connected.").setPhase start .logging

/-- `start`, after `logProctorEvent`: the page joins at the gateway and makes an offer. -/
def logged (start : Nat) : CandidateProctorStream :=
  (p.emit (.joinCandidate
    { examId := p.input.examId, candidateId := p.input.candidateId
      inviteToken := p.input.inviteToken, deviceRole := p.input.deviceRole.text })).createOffer
    (some start)

/-- An operation fails for which `start` waits. -/
def startFailed (start : Nat) (detail : String) : Option CandidateProctorStream :=
  p.starts[start]?.bind fun phase =>
    match phase with
    | .camera | .playing _ | .reporting | .logging => some (p.refuse start detail)
    -- The `catch` itself has none.
    | .refusalReporting _ | .refusalLogging => some (p.setPhase start .ended)
    | .offering | .ended => none

/-- A call of `start` goes on, when it waits for this operation. -/
def continueStart (start : Nat) (phase : StartPhase) (next : CandidateProctorStream) :
    Option CandidateProctorStream :=
  if p.starts[start]? = some phase then some next else none

/-! ### Handlers -/

/-- `setRemoteDescription` with an answer, which is refused unless an offer is out. -/
def setRemoteDescription (payload : SignalPayload) (c : OfferConnection) : OfferConnection :=
  if c.closed = false ∧ c.stage = .offered ∧ c.remote = none then { c with remote := some payload }
  else c

/-- `addIceCandidate`, which is refused before the answer. -/
def addIceCandidate (candidate : String) (c : OfferConnection) : OfferConnection :=
  if c.closed = false ∧ c.remote.isSome then
    { c with remoteCandidates := c.remoteCandidates ++ [candidate] }
  else c

/-- The handlers of the messages: a request, an answer and a network candidate. -/
def onMessage (message : ServerMessage) : CandidateProctorStream :=
  match message, p.peerRef with
  | .signal .requestOffer _ _, _ => p.createOffer none
  | .signal .webrtcAnswer payload _, some i =>
      if payload.description.isSome then p.updateConnection i (setRemoteDescription payload) else p
  | .signal .iceCandidate payload _, some i =>
      match payload.candidate with
      | none => p
      | some candidate => p.updateConnection i (addIceCandidate candidate)
  | _, _ => p

/-- The end of a track that nobody has stopped. -/
def trackEnded (i : Nat) : Option CandidateProctorStream :=
  p.streams[i]?.bind fun stream =>
    if stream.live then
      let p := { p with streams := p.streams.modify i ({ · with live := false }) }
      some (if stream.watched then p.markDisconnected "camera track ended" else p)
    else none

/-- The handlers of `offline` and `online`, which are for the mobile device. -/
def logMobileOffline : CandidateProctorStream :=
  match p.input.deviceRole with
  | .primaryPc => p
  | .mobileAux => { p with deviceStatus := .disconnected }.logProctorEvent .mobileNetworkOffline
      "mobile network offline"

/-- The handler of `online`. Only a mobile device logs it. -/
def logMobileOnline : CandidateProctorStream :=
  match p.input.deviceRole with
  | .primaryPc => p
  | .mobileAux => p.logProctorEvent .mobileNetworkOnline "mobile network online"

/-- The handler of `pagehide` and `beforeunload`, which the second camera's page has only. -/
def logPageLeft : CandidateProctorStream :=
  match p.input.deviceRole with
  | .primaryPc => p
  | .mobileAux => p.logProctorEvent .mobilePageLeft "mobile proctor page left"

/-- The tracks of the stream in `streamRef` are stopped. -/
def stopCamera : CandidateProctorStream :=
  match p.streamRef with
  | none => p
  | some i => { p with streams := p.streams.modify i ({ · with live := false }) }

/-- The cleanup of the effect: the connection, the heartbeat and the camera end, and the server is
told. -/
def leave : CandidateProctorStream :=
  let p := { p.closePeer.stopHeartbeat.stopCamera with active := false }
  (p.upsertProctorDevice .disconnected "camera page closed").logProctorEvent
    (cameraDisconnectedEventType p.input.deviceRole) "Camera page closed."

/-- One event of the page, where the effect still waits for it. -/
def step : StreamEvent → Option CandidateProctorStream
  | .connect => if p.active then some { p with starts := p.starts ++ [.camera] } else none
  | .disconnect =>
      if p.active then some (p.markDisconnected "proctor socket disconnected") else none
  | .message message => if p.active then some (p.onMessage message) else none
  | .cameraGranted start => p.continueStart start .camera (p.cameraGranted start)
  | .played start =>
      p.starts[start]?.bind fun phase =>
        match phase with
        | .playing stream => some (p.report start stream)
        | _ => none
  | .reported start => p.continueStart start .reporting (p.reported start)
  | .logged start => p.continueStart start .logging (p.logged start)
  | .refusalReported start =>
      p.starts[start]?.bind fun phase =>
        match phase with
        | .refusalReporting detail =>
            some ((p.logProctorEvent (permissionDeniedEventType p.input.deviceRole)
              detail).setPhase start .refusalLogging)
        | _ => none
  | .startFailed start detail => p.startFailed start detail
  | .offerCreated i description => p.offerCreated i description
  | .localDescriptionSet i => p.localDescriptionSet i
  | .offerFailed i detail => p.offerFailed i detail
  | .networkCandidate i candidate =>
      (p.openConnection i).map fun _ =>
        p.emit (.signal .iceCandidate { p.signal with candidate := some candidate })
  | .trackEnded i => p.trackEnded i
  | .heartbeat i =>
      if p.timers[i]? = some true then some (p.upsertProctorDevice .connected "heartbeat")
      else none
  | .visibilityChange hidden =>
      if p.active then
        some (p.logProctorEvent (visibilityEventType p.input.deviceRole hidden)
          (if hidden then "hidden" else "visible"))
      else none
  | .offline => if p.active then some p.logMobileOffline else none
  | .online => if p.active then some p.logMobileOnline else none
  | .pageLeft => if p.active then some p.logPageLeft else none
  | .cleanup => if p.active then some p.leave else none

end CandidateProctorStream

/-- The machine of the effect, which takes one event after the other. -/
def streamMachine : Machine CandidateProctorStream StreamEvent := ⟨CandidateProctorStream.step⟩

/-- The message that an event handles, if it is one of the socket. -/
def StreamEvent.handled : StreamEvent → Option ServerMessage
  | .message received => some received
  | _ => none

/-- What an event of the page sends. -/
def streamSends (p : CandidateProctorStream) (_ : StreamEvent) (p' : CandidateProctorStream) :
    List ClientMessage :=
  p'.sent.drop p.sent.length

/-- The device of a candidate and the gateway. -/
def streamLink (owns : Modules.SocketId → Bool) :
    Link Modules.GatewayWorld Modules.GatewayEvent CandidateProctorStream StreamEvent
      ServerMessage ClientMessage :=
  gatewayLink owns streamMachine StreamEvent.handled streamSends

end Dcvp.Web
