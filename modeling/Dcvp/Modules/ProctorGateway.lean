import Dcvp.Database
import Dcvp.Js
import Dcvp.Lib.AsyncCalls

/-!
# `Dcvp.Modules.ProctorGateway`: the web socket gateway of live proctoring

The class `ProctorGateway` of `modules/proctor.gateway.ts` as a program of asynchronous
calls. A message handler is a call, and so are the connection of a socket, its end, the
delivery of that end to `handleDisconnect`, and the announcement of a revoked session.

The gateway asks `AuthService` and `PlatformStore`. Their answers are inputs of the moves
(`GatewayInput`): whatever they decide is covered. One thing is known about
`requireActiveSession`: it reads the session registry before it first waits, so it refuses a
token that was revoked before the call. After that it may still accept.

Two things about `socket.io` are built in. `disconnect(true)` and a closed connection take
the socket out of all rooms, and a socket that is not connected joins no room. Its data can
still be written by a handler that is on its way.

`joins` is a record of the completed `join-admin` messages, with the token of each. No
handler reads it. `revoked` has the announced tokens.
-/

set_option autoImplicit false

namespace Dcvp.Modules

open Dcvp.Lib
open Dcvp.Shared (AuthSession)

/-! ### Messages and sockets -/

/-- The identifier of a socket, which Socket.IO gives at its connection and does not give again. -/
abbrev SocketId := String

/-- `ProctorSocketRole`: what a socket has joined as. -/
inductive ProctorSocketRole where
  | admin
  | candidate
  deriving DecidableEq, Repr

/-- `JoinAdminPayload`: the exam that a proctor wants to watch, with a token when the handshake had
none. -/
structure JoinAdminPayload where
  examId : String
  token : Option String := none
  deriving DecidableEq

/-- `JoinCandidatePayload`. The device role is any text until it is checked. -/
structure JoinCandidatePayload where
  examId : String
  candidateId : String
  inviteToken : String
  deviceRole : String
  deriving DecidableEq

/-- `SignalPayload`. Description and candidate are passed on as they are. -/
structure SignalPayload where
  examId : String
  candidateId : String
  deviceRole : String
  description : Option String := none
  candidate : Option String := none
  deriving DecidableEq

/-- The four messages that the gateway relays between a candidate's page and a proctor's; all go
through `assertCanRelay`. -/
inductive SignalEvent where
  | requestOffer
  | webrtcOffer
  | webrtcAnswer
  | iceCandidate
  deriving DecidableEq, Repr

/-- `ServerToClientEvents`. An offer carries the identifier of its socket. -/
inductive ServerMessage where
  | joinedAdmin (examId : String)
  | joinedCandidate (examId candidateId deviceRole : String)
  | proctorError (message : String)
  | deviceJoined (socketId : SocketId) (candidateId deviceRole : String)
  | deviceLeft (candidateId deviceRole : String)
  | signal (event : SignalEvent) (payload : SignalPayload) (socketId : Option SocketId)
  deriving DecidableEq

/-- Where a message goes: to one socket, or to all that are in a room when it is sent. -/
inductive EmissionTarget where
  | client (id : SocketId)
  | room (name : String)
  deriving DecidableEq

/-- A message that the handler of a socket has sent. -/
structure Emission where
  sender : SocketId
  target : EmissionTarget
  message : ServerMessage
  deriving DecidableEq

/-- `ProctorSocketData`: the `data` of a socket, which the joins fill in and every later check
reads. -/
structure ProctorSocketData where
  role : Option ProctorSocketRole := none
  adminToken : Option String := none
  examId : Option String := none
  candidateId : Option String := none
  inviteToken : Option String := none
  deviceRole : Option String := none
  deriving DecidableEq

/-- A socket, with the token of its handshake and its rooms. -/
structure ProctorSocket where
  handshakeToken : Option String := none
  connected : Bool := true
  rooms : List String := []
  data : ProctorSocketData := {}
  deriving DecidableEq

/-- `adminRoom`: the room of all proctors of an exam. -/
def adminRoom (examId : String) : String := "exam:" ++ examId ++ ":admins"

/-- `candidateRoom`: the room of one device of a candidate. The name is not injective when
identifiers have a colon in them. -/
def candidateRoom (examId candidateId deviceRole : String) : String :=
  "exam:" ++ examId ++ ":candidate:" ++ candidateId ++ ":" ++ deviceRole

/-- `proctorDeviceRoles`: the texts that a join may give for its device. -/
def proctorDeviceRoles : List String := ["PRIMARY_PC", "MOBILE_AUX"]

/-! ### The memory of the gateway -/

/-- The sockets, `adminClientsByToken`, the ended connections that `handleDisconnect` has not
seen, the announced tokens, the completed joins, and the messages sent. -/
structure GatewayMemory where
  sockets : OrderedMap SocketId ProctorSocket := OrderedMap.empty
  adminClientsByToken : OrderedMap String (List SocketId) := OrderedMap.empty
  closing : List SocketId := []
  revoked : List String := []
  joins : List (SocketId × String × Option String) := []
  emissions : List Emission := []

namespace GatewayMemory

variable (m : GatewayMemory)

/-- Change a socket. An unknown identifier changes nothing. -/
def updateSocket (id : SocketId) (f : ProctorSocket → ProctorSocket) : GatewayMemory :=
  match m.sockets.get? id with
  | none => m
  | some s => { m with sockets := m.sockets.set id (f s) }

/-- Whether the socket is connected, which an unknown one is not. -/
def isConnected (id : SocketId) : Bool :=
  match m.sockets.get? id with
  | none => false
  | some s => s.connected

/-- `client.data` of a socket, which is empty for an unknown one. -/
def dataOf (id : SocketId) : ProctorSocketData :=
  match m.sockets.get? id with
  | none => {}
  | some s => s.data

/-- `client.emit`: a message to one socket, recorded with its sender. -/
def emitToClient (id : SocketId) (message : ServerMessage) : GatewayMemory :=
  { m with emissions := m.emissions ++ [⟨id, .client id, message⟩] }

/-- `this.server.to(room).emit`, by the handler of a socket. -/
def emitToRoom (sender : SocketId) (room : String) (message : ServerMessage) : GatewayMemory :=
  { m with emissions := m.emissions ++ [⟨sender, .room room, message⟩] }

/-- `client.join`: a connected socket is in the room afterwards, once. A closed one joins nothing.
-/
def joinRoom (id : SocketId) (room : String) : GatewayMemory :=
  m.updateSocket id fun s =>
    if s.connected ∧ room ∉ s.rooms then { s with rooms := s.rooms ++ [room] } else s

/-- `client.disconnect(true)`, and the end of a connection. -/
def disconnect (id : SocketId) : GatewayMemory :=
  if m.isConnected id then
    let m := m.updateSocket id fun s => { s with connected := false, rooms := [] }
    -- `handleDisconnect` is delivered later, as a call of its own.
    { m with closing := m.closing ++ [id] }
  else m

/-- The clients that are tracked under a token. -/
def adminClients (token : String) : List SocketId :=
  (m.adminClientsByToken.get? token).getD []

/-- `trackAdminClient`: the socket is entered under the token that its data hold, so that a
revocation finds it. -/
def trackAdminClient (id : SocketId) : GatewayMemory :=
  match Js.truthy (m.dataOf id).adminToken with
  | none => m
  | some token =>
      let clients := m.adminClients token
      let added := if id ∈ clients then clients else clients ++ [id]
      { m with adminClientsByToken := m.adminClientsByToken.set token added }

/-- `untrackAdminClient`: the socket is taken out again under the token that its data hold now. -/
def untrackAdminClient (id : SocketId) : GatewayMemory :=
  match Js.truthy (m.dataOf id).adminToken with
  | none => m
  | some token =>
      match m.adminClientsByToken.get? token with
      | none => m
      | some clients =>
          let rest := clients.filter (· ≠ id)
          let adminClientsByToken :=
            -- An empty set is removed from the map.
            if rest.isEmpty then m.adminClientsByToken.delete token
            else m.adminClientsByToken.set token rest
          { m with adminClientsByToken }

/-- `disconnectAdminClients`: all sockets that are registered under a revoked token are
disconnected. One whose join is still awaited is not registered yet. -/
def disconnectAdminClients (token : String) : GatewayMemory :=
  match m.adminClientsByToken.get? token with
  | none => m
  | some clients =>
      clients.foldl disconnect
        { m with adminClientsByToken := m.adminClientsByToken.delete token }

end GatewayMemory

/-! ### The calls and their suspensions -/

/-- The calls that reach the gateway: the messages of sockets, the two ends of a connection, and
the registry's `onRevoked`. -/
inductive GatewayCall where
  | connect (id : SocketId) (handshakeToken : Option String)
  | joinAdmin (id : SocketId) (payload : JoinAdminPayload)
  | joinCandidate (id : SocketId) (payload : JoinCandidatePayload)
  | signal (id : SocketId) (event : SignalEvent) (payload : SignalPayload)
  | close (id : SocketId)
  | disconnected (id : SocketId)
  | sessionRevoked (token : String)
  deriving DecidableEq

/-- A suspended call whose operation is outstanding. `live` tells whether the token of the
call was stored when `requireActiveSession` looked. -/
inductive GatewayWaiting where
  | joinAuthenticates (id : SocketId) (payload : JoinAdminPayload) (live : Bool)
  | joinAuthorizes (id : SocketId) (payload : JoinAdminPayload) (session : AuthSession)
  | joinCandidateReads (id : SocketId) (payload : JoinCandidatePayload)
  | relayAuthenticates (id : SocketId) (event : SignalEvent) (payload : SignalPayload)
      (live : Bool)
  | relayReturns (id : SocketId) (event : SignalEvent) (payload : SignalPayload)
  | disconnectUpserts (id : SocketId) (inviteToken deviceRole : String)
  | disconnectLogs (id : SocketId) (inviteToken eventType : String)
  deriving DecidableEq

/-- The invite that `getCandidateInvite` returns, as far as the gateway reads it. -/
structure CandidateInvite where
  examId : String
  candidateId : String
  deriving DecidableEq

/-- A call whose operation is answered; it holds the answer beside the arguments of the handler. -/
inductive GatewayReady where
  | joinAuthenticated (id : SocketId) (payload : JoinAdminPayload)
      (session : Except ServiceException AuthSession)
  | joinAuthorized (id : SocketId) (payload : JoinAdminPayload)
      (answer : Except ServiceException Unit)
  | candidateInviteRead (id : SocketId) (payload : JoinCandidatePayload)
      (invite : Except ServiceException CandidateInvite)
  | relayAuthenticated (id : SocketId) (event : SignalEvent) (payload : SignalPayload)
      (session : Except ServiceException AuthSession)
  | relayReturned (id : SocketId) (event : SignalEvent) (payload : SignalPayload)
  | deviceUpserted (id : SocketId) (answer : Except ServiceException Unit)
  | eventLogged (id : SocketId) (answer : Except ServiceException Unit)

/-- What a handler throws: a `WsException`, or what a service has thrown. -/
inductive GatewayException where
  | ws (message : String)
  | service (error : ServiceException)
  deriving DecidableEq

/-- The result of a handler: it has returned, or thrown a `WsException`. -/
abbrev GatewayResult := Except GatewayException Unit

/-- The answers of `requireActiveSession`, `getCandidateInvite` and of the other functions of
the store, in a move. -/
structure GatewayInput where
  session : Except ServiceException AuthSession := .error (.prisma .other)
  invite : Except ServiceException CandidateInvite := .error (.prisma .other)
  answer : Except ServiceException Unit := .ok ()

/-- What the gateway has written to the store: the devices that `upsertProctorDevice` set to
`DISCONNECTED`, and the events of `logProctorEvent`. -/
structure GatewayRecords where
  devices : List (String × String) := []
  events : List (String × String) := []

/-- The end of a segment: rooms and sockets as the segment leaves them, and either the next await
or the result. -/
abbrev GatewaySegment := GatewayMemory × Outcome GatewayWaiting GatewayResult

namespace GatewayMemory

variable (m : GatewayMemory)

/-! ### Authentication -/

/-- `reject`: the client is told the message, and the handler throws it. -/
def reject (id : SocketId) (message : String) : GatewaySegment :=
  (m.emitToClient id (.proctorError message), .finished (.error (.ws message)))

/-- `extractAdminToken`: the token of the message, and without one that of the handshake. -/
def extractAdminToken (id : SocketId) (payload : JoinAdminPayload) : Option String :=
  match Js.truthy payload.token with
  | some token => some token
  -- Without a token in the message, the one of the handshake counts.
  | none => (m.sockets.get? id).bind ProctorSocket.handshakeToken

/-- Whether `requireActiveSession` finds a token that was not revoked. -/
def tokenLive (token : Option String) : Bool :=
  match Js.truthy token with
  | none => false
  | some token => decide (token ∉ m.revoked)

/-- The `catch` of `authenticateAdmin` and `assertCurrentAdminSession`: only an error about the
session is told to the client. -/
def refuse (id : SocketId) : ServiceException → GatewaySegment
  | .http .unauthorized message => m.reject id message
  -- What is not about the session is thrown on, and the client is not told.
  | error => (m, .finished (.error (.service error)))

/-! ### Handlers -/

/-- `handleJoinAdmin`, up to its first suspension. Whether the token is live is read when the
session is looked up, so it is taken along. -/
def joinAdmin (id : SocketId) (payload : JoinAdminPayload) : GatewaySegment :=
  (m, .suspended (.joinAuthenticates id payload (m.tokenLive (m.extractAdminToken id payload))))

/-- The rest of `handleJoinAdmin` after `getLiveProctorState`. It does not look at the session
again, which may have ended by now. -/
def registerAdmin (id : SocketId) (payload : JoinAdminPayload) : GatewayMemory :=
  let token := m.extractAdminToken id payload
  -- An earlier join has left its token in the data, which are overwritten next.
  let m := m.untrackAdminClient id
  let m := m.updateSocket id fun s =>
    { s with data := { s.data with
        role := some .admin, adminToken := token, examId := some payload.examId } }
  let m := m.trackAdminClient id
  let m := m.joinRoom id (adminRoom payload.examId)
  let m := { m with joins := m.joins ++ [(id, payload.examId, token)] }
  m.emitToClient id (.joinedAdmin payload.examId)

/-- `handleJoinCandidate`, up to its first suspension: the role of the device is checked before the
invite is read. -/
def joinCandidate (id : SocketId) (payload : JoinCandidatePayload) : GatewaySegment :=
  if payload.deviceRole ∈ proctorDeviceRoles then
    (m, .suspended (.joinCandidateReads id payload))
  else m.reject id "Invalid proctor device role."

/-- The rest of `handleJoinCandidate` after `getCandidateInvite`: the invite has to name the exam
and the candidate of the message. -/
def joinCandidateAfterRead (id : SocketId) (payload : JoinCandidatePayload)
    (invite : CandidateInvite) : GatewaySegment :=
  -- The invite decides. The payload only repeats what it says.
  if invite.examId ≠ payload.examId ∨ invite.candidateId ≠ payload.candidateId then
    m.reject id "Candidate invite does not match proctor join payload."
  else
    let m := m.updateSocket id fun s =>
      { s with data := { s.data with
          role := some .candidate, examId := some payload.examId,
          candidateId := some payload.candidateId, inviteToken := some payload.inviteToken,
          deviceRole := some payload.deviceRole } }
    let m := m.joinRoom id
      (candidateRoom payload.examId payload.candidateId payload.deviceRole)
    let m := m.emitToRoom id (adminRoom payload.examId)
      (.deviceJoined id payload.candidateId payload.deviceRole)
    (m.emitToClient id
      (.joinedCandidate payload.examId payload.candidateId payload.deviceRole),
      .finished (.ok ()))

/-- `assertCanRelay`, up to its suspension: who may send which of the four messages, and the second
look at a proctor's session. -/
def assertCanRelay (id : SocketId) (event : SignalEvent) (payload : SignalPayload) :
    GatewaySegment :=
  let data := m.dataOf id
  -- A proctor reaches every candidate of the exam, a candidate only the own device.
  if data.role = some .admin ∧ data.examId = some payload.examId then
    -- The token is that of the join. A message carries none.
    (m, .suspended (.relayAuthenticates id event payload (m.tokenLive data.adminToken)))
  else if data.role = some .candidate ∧ data.examId = some payload.examId ∧
      data.candidateId = some payload.candidateId ∧
      data.deviceRole = some payload.deviceRole then
    (m, .suspended (.relayReturns id event payload))
  else m.reject id "Proctor signaling is outside the joined room scope."

/-- The room to which a message is relayed. -/
def relayRoom (id : SocketId) (event : SignalEvent) (payload : SignalPayload) : String :=
  let candidate := candidateRoom payload.examId payload.candidateId payload.deviceRole
  match event with
  | .webrtcOffer => adminRoom payload.examId
  | .requestOffer | .webrtcAnswer => candidate
  | .iceCandidate =>
      -- These go both ways, so the role of the sender decides.
      if (m.dataOf id).role = some .admin then candidate else adminRoom payload.examId

/-- The rest of the four relaying handlers after `assertCanRelay`. -/
def relay (id : SocketId) (event : SignalEvent) (payload : SignalPayload) : GatewaySegment :=
  let socketId := if event = .webrtcOffer then some id else none
  (m.emitToRoom id (m.relayRoom id event payload) (.signal event payload socketId),
    .finished (.ok ()))

/-- The five fields that `handleDisconnect` needs, when the socket is a candidate's. -/
def candidateDevice (id : SocketId) : Option (String × String × String × String) := do
  let data := m.dataOf id
  let _ ← if data.role = some .candidate then some () else none
  let examId ← Js.truthy data.examId
  let candidateId ← Js.truthy data.candidateId
  let inviteToken ← Js.truthy data.inviteToken
  let deviceRole ← Js.truthy data.deviceRole
  some (examId, candidateId, inviteToken, deviceRole)

/-- `handleDisconnect`, up to its first suspension: the socket is forgotten, and the device of a
candidate is about to be marked. -/
def handleDisconnect (id : SocketId) : GatewaySegment :=
  let m := { m with closing := m.closing.erase id }.untrackAdminClient id
  match m.candidateDevice id with
  | none => (m, .finished (.ok ()))
  | some (_, _, inviteToken, deviceRole) =>
      (m, .suspended (.disconnectUpserts id inviteToken deviceRole))

/-- `handleDisconnect` after `upsertProctorDevice`. The data of the socket is read again. -/
def disconnectAfterUpsert (id : SocketId) : GatewaySegment :=
  let data := m.dataOf id
  (m, .suspended (.disconnectLogs id (data.inviteToken.getD "")
    (if data.deviceRole = some "MOBILE_AUX" then "MOBILE_CAMERA_DISCONNECTED"
      else "PRIMARY_CAMERA_DISCONNECTED")))

/-- `handleDisconnect` after `logProctorEvent`: the proctors of the exam are told that the device
has left. -/
def disconnectAfterLog (id : SocketId) : GatewaySegment :=
  let data := m.dataOf id
  (m.emitToRoom id (adminRoom (data.examId.getD ""))
    (.deviceLeft (data.candidateId.getD "") (data.deviceRole.getD "")), .finished (.ok ()))

/-! ### The program -/

/-- The first segment of each call. Messages come from connected sockets, an end is delivered
once, and a session is announced once. -/
def start (call : GatewayCall) (_input : GatewayInput) : Option GatewaySegment :=
  match call with
  | .connect id handshakeToken =>
      match m.sockets.get? id with
      | some _ => none
      | none => some ({ m with sockets := m.sockets.set id { handshakeToken } },
          .finished (.ok ()))
  | .joinAdmin id payload => if m.isConnected id then some (m.joinAdmin id payload) else none
  | .joinCandidate id payload =>
      if m.isConnected id then some (m.joinCandidate id payload) else none
  | .signal id event payload =>
      if m.isConnected id then some (m.assertCanRelay id event payload) else none
  | .close id => if m.isConnected id then some (m.disconnect id, .finished (.ok ())) else none
  | .disconnected id => if id ∈ m.closing then some (m.handleDisconnect id) else none
  | .sessionRevoked token =>
      -- `onRevoked` is called once for a session.
      if token ∈ m.revoked then none
      else some ({ m with revoked := m.revoked ++ [token] }.disconnectAdminClients token,
        .finished (.ok ()))

/-- The next segment of each call, by the answer that it waited for. -/
def resume (reply : GatewayReady) (_input : GatewayInput) : Option GatewaySegment :=
  match reply with
  | .joinAuthenticated id payload (.ok session) =>
      some (m, .suspended (.joinAuthorizes id payload session))
  | .joinAuthenticated id _ (.error error) => some (m.refuse id error)
  | .joinAuthorized id payload (.ok ()) =>
      some (m.registerAdmin id payload, .finished (.ok ()))
  | .joinAuthorized _ _ (.error error) => some (m, .finished (.error (.service error)))
  | .candidateInviteRead id payload (.ok invite) =>
      some (m.joinCandidateAfterRead id payload invite)
  | .candidateInviteRead _ _ (.error error) => some (m, .finished (.error (.service error)))
  | .relayAuthenticated id event payload (.ok _) => some (m.relay id event payload)
  | .relayAuthenticated id _ _ (.error error) => some (m.refuse id error)
  | .relayReturned id event payload => some (m.relay id event payload)
  | .deviceUpserted id (.ok ()) => some (m.disconnectAfterUpsert id)
  | .deviceUpserted _ (.error error) => some (m, .finished (.error (.service error)))
  | .eventLogged id (.ok ()) => some (m.disconnectAfterLog id)
  | .eventLogged _ (.error error) => some (m, .finished (.error (.service error)))

end GatewayMemory

/-- An answer of `requireActiveSession` that can occur: a token that was not stored is
refused. -/
def answersToken (live : Bool) (session : Except ServiceException AuthSession) : Bool :=
  live || !session.toBool

/-- A write to the store that is recorded when it does not fail. -/
def recordWrite (records written : GatewayRecords) (answer : Except ServiceException Unit) :
    GatewayRecords :=
  if answer.toBool then written else records

/-- The effect of an awaited operation. Looking up a session answers what the registry knew when
the lookup began. -/
def gatewayExecute (pc : GatewayWaiting) (input : GatewayInput) (records : GatewayRecords) :
    Option (GatewayRecords × GatewayReady) :=
  match pc with
  | .joinAuthenticates id payload live =>
      if answersToken live input.session then
        some (records, .joinAuthenticated id payload input.session)
      else none
  | .joinAuthorizes id payload _ => some (records, .joinAuthorized id payload input.answer)
  | .joinCandidateReads id payload =>
      some (records, .candidateInviteRead id payload input.invite)
  | .relayAuthenticates id event payload live =>
      if answersToken live input.session then
        some (records, .relayAuthenticated id event payload input.session)
      else none
  | .relayReturns id event payload => some (records, .relayReturned id event payload)
  | .disconnectUpserts id inviteToken deviceRole =>
      some (recordWrite records
        { records with devices := records.devices ++ [(inviteToken, deviceRole)] }
        input.answer, .deviceUpserted id input.answer)
  | .disconnectLogs id inviteToken eventType =>
      some (recordWrite records
        { records with events := records.events ++ [(inviteToken, eventType)] }
        input.answer, .eventLogged id input.answer)

/-- The gateway as a program of asynchronous calls. -/
def gatewayProgram :
    AsyncProgram GatewayMemory GatewayRecords GatewayCall GatewayWaiting GatewayReady
      GatewayResult GatewayInput where
  start call input m := m.start call input
  execute := gatewayExecute
  resume reply input m := m.resume reply input

/-- The states of the gateway: rooms and sockets, the records it reads, and the handlers in flight.
-/
abbrev GatewayWorld :=
  World GatewayMemory GatewayRecords GatewayWaiting GatewayReady GatewayResult

/-- The moves of the gateway: a message or a close arrives, an outstanding read is answered, or a
handler runs on. -/
abbrev GatewayEvent := AsyncEvent GatewayCall GatewayInput

/-- The gateway before any socket has connected. -/
def gatewayInitial : GatewayWorld := { memory := {}, database := {} }

end Dcvp.Modules
