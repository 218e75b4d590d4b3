import Dcvp.Web.ProctorSocket

/-!
# `Dcvp.Web.LiveProctorDashboard`: the page with the cameras of an exam

The effects of `LiveProctorDashboard.tsx`, for one exam from `useEffect` to its cleanup. The
page joins the exam as a proctor and asks the devices for offers. Each offer makes a peer
connection, whose streams are shown under the key of the candidate and the device role.

The events are those of the browser: the messages of the gateway, the callbacks of the peer
connections, a new answer of the query, and the cleanup. A peer connection is what the page
does with it. It receives the stream of its peer at some moment, finds own network candidates,
and has an answer ready at some moment if the description of the offer can be set. When it is
closed, nothing of this happens any more.
-/

set_option autoImplicit false

namespace Dcvp.Web

open Dcvp.Lib
open Dcvp.Modules (SignalPayload SignalEvent ServerMessage)

/-- `proctorStreamKey`: the candidate and the role of the device, with a colon between them. -/
def proctorStreamKey (candidateId deviceRole : String) : String := candidateId ++ ":" ++ deviceRole

/-- The key under which the page keeps what belongs to the payload. -/
def streamKey (payload : SignalPayload) : String :=
  proctorStreamKey payload.candidateId payload.deviceRole

/-- The device roles for which the page asks and which its cards show. -/
def shownDeviceRoles : List String := ["PRIMARY_PC", "MOBILE_AUX"]

/-- An `RTCPeerConnection` of the page, with the offer for which it was made. -/
structure PeerConnection where
  offer : SignalPayload
  closed : Bool := false
  /-- Whether the answer was set and sent. -/
  answered : Bool := false
  /-- The network candidates of the peer. -/
  remoteCandidates : List String := []
  deriving DecidableEq

/-- A `MediaStream`, and the connection that has received it. -/
structure MediaStream where
  connection : Nat
  id : String
  deriving DecidableEq

/-- The state of the page. The connections have the numbers of their creation. -/
structure LiveProctorDashboard where
  examId : String
  mounted : Bool := true
  connections : List PeerConnection := []
  peersRef : OrderedMap String Nat := OrderedMap.empty
  streams : OrderedMap String MediaStream := OrderedMap.empty
  /-- What was passed to `socket.emit`. -/
  sent : List ClientMessage := []

/-- The events that reach the page: those of the socket and of its peer connections, new data from
the server, and its end. -/
inductive DashboardEvent where
  | connect
  | message (message : ServerMessage)
  | networkCandidate (connection : Nat) (candidate : String)
  | track (connection : Nat) (stream : Option String)
  | answer (connection : Nat) (description : String)
  | liveData (examId : String) (candidateIds : List String)
  | unmount

/-- `RTCPeerConnection.close`: the connection shows nothing afterwards. -/
def PeerConnection.close (c : PeerConnection) : PeerConnection := { c with closed := true }

/-- `addIceCandidate`, which is refused by a closed connection. -/
def PeerConnection.addIceCandidate (candidate : String) (c : PeerConnection) : PeerConnection :=
  if c.closed then c else { c with remoteCandidates := c.remoteCandidates ++ [candidate] }

namespace LiveProctorDashboard

variable (p : LiveProctorDashboard)

/-- `socket.emit`: the message is sent to the gateway. -/
def emit (message : ClientMessage) : LiveProctorDashboard := { p with sent := p.sent ++ [message] }

/-- Change the connection that is kept under a key. -/
def updatePeer (key : String) (f : PeerConnection → PeerConnection) : LiveProctorDashboard :=
  match p.peersRef.get? key with
  | none => p
  | some i => { p with connections := p.connections.modify i f }

/-- The handler of `webrtc-offer`: a new connection answers the offer. -/
def onOffer (payload : SignalPayload) : LiveProctorDashboard :=
  match payload.description with
  | none => p
  | some _ =>
      -- A device that offers again gets a new connection, and its old one is closed.
      let p := p.updatePeer (streamKey payload) PeerConnection.close
      { p with
          connections := p.connections ++ [{ offer := payload }]
          peersRef := p.peersRef.set (streamKey payload) p.connections.length }

/-- The handler of `ice-candidate`: the candidate goes to the connection of its device. -/
def onIceCandidate (payload : SignalPayload) : LiveProctorDashboard :=
  match payload.candidate with
  | none => p
  | some candidate =>
      p.updatePeer (streamKey payload) (PeerConnection.addIceCandidate candidate)

/-- The handler of `device-joined`: the page asks the device for an offer. -/
def onDeviceJoined (candidateId deviceRole : String) : LiveProctorDashboard :=
  p.emit (.signal .requestOffer { examId := p.examId, candidateId, deviceRole })

/-- The handler of `device-left`: the connection is closed and its stream is no longer shown. -/
def onDeviceLeft (candidateId deviceRole : String) : LiveProctorDashboard :=
  let key := proctorStreamKey candidateId deviceRole
  -- The closed connection stays in `peersRef`.
  { p.updatePeer key PeerConnection.close with streams := p.streams.delete key }

/-- The handlers of the messages, of which the page has four. -/
def onMessage : ServerMessage → LiveProctorDashboard
  | .signal .webrtcOffer payload _ => p.onOffer payload
  | .signal .iceCandidate payload _ => p.onIceCandidate payload
  | .deviceJoined _ candidateId deviceRole => p.onDeviceJoined candidateId deviceRole
  | .deviceLeft candidateId deviceRole => p.onDeviceLeft candidateId deviceRole
  -- The page has no handler for the others.
  | .joinedAdmin _ | .joinedCandidate _ _ _ | .proctorError _ => p
  | .signal .requestOffer _ _ | .signal .webrtcAnswer _ _ => p

/-- The connection with the number, when it is not closed. -/
def openConnection (i : Nat) : Option PeerConnection :=
  p.connections[i]?.filter fun c => !c.closed

/-- The requests that the effect of `data` sends. -/
def offerRequests (examId : String) (candidateIds : List String) : List ClientMessage :=
  candidateIds.flatMap fun candidateId => shownDeviceRoles.map fun deviceRole =>
    .signal .requestOffer { examId, candidateId, deviceRole }

/-- The cleanup of the effect: every connection is closed and no stream is shown. -/
def cleanup : LiveProctorDashboard :=
  { p with
      mounted := false
      connections := p.peersRef.values.foldl (fun cs i => cs.modify i PeerConnection.close)
        p.connections
      peersRef := OrderedMap.empty
      streams := OrderedMap.empty }

/-- One event of the page, where it still waits for it. -/
def step : DashboardEvent → Option LiveProctorDashboard
  | .connect => if p.mounted then some (p.emit (.joinAdmin { examId := p.examId })) else none
  -- The cleanup disconnects the socket, so its handlers are not called afterwards.
  | .message message => if p.mounted then some (p.onMessage message) else none
  | .networkCandidate i candidate =>
      (p.openConnection i).map fun c =>
        p.emit (.signal .iceCandidate { c.offer with candidate := some candidate })
  | .track i stream =>
      (p.openConnection i).map fun c =>
        match stream with
        | none => p
        | some id => { p with streams := p.streams.set (streamKey c.offer) ⟨i, id⟩ }
  | .answer i description =>
      (p.openConnection i).bind fun c =>
        if c.answered then none
        else
          let p := { p with connections := p.connections.modify i ({ · with answered := true }) }
          some (p.emit (.signal .webrtcAnswer { c.offer with description := some description }))
  | .liveData examId candidateIds =>
      if p.mounted then some { p with sent := p.sent ++ offerRequests examId candidateIds }
      else none
  | .unmount => if p.mounted then some p.cleanup else none

end LiveProctorDashboard

/-- The machine of the page, which takes one event after the other. -/
def dashboardMachine : Machine LiveProctorDashboard DashboardEvent := ⟨LiveProctorDashboard.step⟩

/-- The message that an event handles, if it is one of the socket. -/
def DashboardEvent.handled : DashboardEvent → Option ServerMessage
  | .message received => some received
  | _ => none

/-- What an event of the page sends. -/
def dashboardSends (p : LiveProctorDashboard) (_ : DashboardEvent) (p' : LiveProctorDashboard) :
    List ClientMessage :=
  p'.sent.drop p.sent.length

/-- The page and the gateway, linked by the messages of the page's sockets. -/
def dashboardLink (owns : Modules.SocketId → Bool) :
    Link Modules.GatewayWorld Modules.GatewayEvent LiveProctorDashboard DashboardEvent
      ServerMessage ClientMessage :=
  gatewayLink owns dashboardMachine DashboardEvent.handled dashboardSends

end Dcvp.Web
