import Dcvp.Proofs.RoomMembership

/-!
# `Dcvp.Proofs.SignalScope`: relayed messages stay in the exam of their sender

A message is relayed after `assertCanRelay` has let it pass. Between the check and the relay
the handler can be suspended, and the data of the socket can be written by other joins. What
the check has seen is therefore kept as a moment of the run: `ChecksRelay` names the call, the
events before it and the state.

* `SocketScope`: the data and the rooms of a socket come from its completed joins;
* `FlightScope`: a call that waits for its relay has passed the check;
* `SentScope`: a message that a call relays was checked by the same call, and its room is one
  of its exam;
* `signaling_stays_in_exam`: the result, for every relaying step of every run.

The rooms are strings. `examOf` reads the exam of a room up to the next colon, so two rooms
of different exams differ, if the identifiers of the exams have no colon.
-/

set_option autoImplicit false

namespace Dcvp.Proofs

open Dcvp.Lib
open Dcvp.Modules
open Dcvp.Shared (AuthSession)

/-! ### The exam of a room -/

/-- The text between `exam:` and the next colon. -/
def examOf (room : String) : List Char :=
  (room.toList.drop 5).takeWhile (· ≠ ':')

/-- The text up to the first colon is what stands before it, when that has no colon itself. -/
theorem takeWhile_colon {e rest : List Char} (he : ':' ∉ e) :
    (e ++ ':' :: rest).takeWhile (· ≠ ':') = e := by
  induction e with
  | nil => rfl
  | cons c e ih =>
      have hc : c ≠ ':' := fun heq => he (by rw [heq]; exact List.mem_cons_self)
      have hrest : ':' ∉ e := fun hin => he (List.mem_cons_of_mem c hin)
      rw [List.cons_append, List.takeWhile_cons, if_pos (by simpa using hc), ih hrest]

/-- The exam is read back from the name of the proctors' room, as long as its identifier has no
colon. -/
theorem examOf_adminRoom {e : String} (he : ':' ∉ e.toList) : examOf (adminRoom e) = e.toList := by
  have hroom : (adminRoom e).toList.drop 5 = e.toList ++ ':' :: "admins".toList := by
    simp [adminRoom, String.toList_append]
  rw [examOf, hroom, takeWhile_colon he]

/-- The exam is read back from the name of a device's room. The candidate and the role stand behind
the next colon, so they may have any form. -/
theorem examOf_candidateRoom {e : String} (candidateId deviceRole : String)
    (he : ':' ∉ e.toList) : examOf (candidateRoom e candidateId deviceRole) = e.toList := by
  have hroom : (candidateRoom e candidateId deviceRole).toList.drop 5
      = e.toList ++ ':' :: ("candidate:".toList ++ candidateId.toList ++ ":".toList ++
        deviceRole.toList) := by
    simp [candidateRoom, String.toList_append]
  rw [examOf, hroom, takeWhile_colon he]

/-- The room belongs to the exam. -/
def IsRoomOf (e room : String) : Prop :=
  room = adminRoom e ∨ ∃ candidateId deviceRole, room = candidateRoom e candidateId deviceRole

/-- A room belongs to one exam only. -/
theorem IsRoomOf.exam_unique {e e' room : String} (h : IsRoomOf e room) (h' : IsRoomOf e' room)
    (he : ':' ∉ e.toList) (he' : ':' ∉ e'.toList) : e' = e := by
  have hexam : ∀ f, ':' ∉ f.toList → IsRoomOf f room → examOf room = f.toList := by
    rintro f hf (rfl | ⟨c, r, rfl⟩)
    · exact examOf_adminRoom hf
    · exact examOf_candidateRoom c r hf
  exact String.toList_inj.mp ((hexam e' he' h').symm.trans (hexam e he h))

/-! ### What a run has done -/

/-- The machine of the gateway: its program with all interleavings of the handlers. -/
abbrev gatewayMachine : Machine GatewayWorld GatewayEvent := gatewayProgram.machine

/-- The gateway has told the socket that it joined the exam as a proctor. -/
def ToldAdmin (m : GatewayMemory) (id : SocketId) (e : String) : Prop :=
  (⟨id, .client id, .joinedAdmin e⟩ : Emission) ∈ m.emissions

/-- The gateway has told the socket that it joined the exam with a device of a candidate. -/
def ToldCandidate (m : GatewayMemory) (id : SocketId) (e candidateId deviceRole : String) :
    Prop :=
  (⟨id, .client id, .joinedCandidate e candidateId deviceRole⟩ : Emission) ∈ m.emissions

/-- The socket has successfully joined the exam. -/
def HasJoined (m : GatewayMemory) (id : SocketId) (e : String) : Prop :=
  ToldAdmin m id e ∨ ∃ candidateId deviceRole, ToldCandidate m id e candidateId deviceRole

/-- In the run, `getCandidateInvite` has returned this invite for the token, to a
`join-candidate`. -/
def InviteRead (es : List GatewayEvent) (inviteToken : String) (invite : CandidateInvite) :
    Prop :=
  ∃ before k input w id payload,
    gatewayMachine.Makes gatewayInitial es before (.execute k input) w ∧
    w.flights.get? k = some (.waiting (.joinCandidateReads id payload)) ∧
    payload.inviteToken = inviteToken ∧ input.invite = .ok invite

/-- In the run, `requireActiveSession` has accepted a token that was not revoked, for the check
of call `k`. -/
def SessionAccepted (es : List GatewayEvent) (k : Nat) (id : SocketId) (event : SignalEvent)
    (payload : SignalPayload) : Prop :=
  ∃ before input w session,
    gatewayMachine.Makes gatewayInitial es before (.execute k input) w ∧
    w.flights.get? k = some (.waiting (.relayAuthenticates id event payload true)) ∧
    input.session = .ok session

/-- Call `k` relays the message. Its first move, the check, is made in the state `w`, after
the events `before`. -/
structure ChecksRelay (es : List GatewayEvent) (k : Nat) (id : SocketId) (event : SignalEvent)
    (payload : SignalPayload) (before : List GatewayEvent) (w : GatewayWorld) : Prop where
  call : w.nextCall = k
  makes : ∃ input, gatewayMachine.Makes gatewayInitial es before
    (.invoke (.signal id event payload) input) w

/-- The socket acts as a proctor that has joined the exam of the message, with a token that is
not revoked. -/
structure ActsAsAdmin (m : GatewayMemory) (id : SocketId) (payload : SignalPayload) : Prop where
  role : (m.dataOf id).role = some .admin
  exam : (m.dataOf id).examId = some payload.examId
  joined : (id, payload.examId, (m.dataOf id).adminToken) ∈ m.joins
  told : ToldAdmin m id payload.examId
  live : m.tokenLive (m.dataOf id).adminToken = true

/-- The socket acts as the device of a candidate that the message names. It has joined the room
of this device, and its invite token belongs to this candidate. -/
structure ActsAsCandidate (before : List GatewayEvent) (m : GatewayMemory) (id : SocketId)
    (payload : SignalPayload) : Prop where
  role : (m.dataOf id).role = some .candidate
  exam : (m.dataOf id).examId = some payload.examId
  device : (m.dataOf id).deviceRole = some payload.deviceRole
  told : ToldCandidate m id payload.examId payload.candidateId payload.deviceRole
  room : candidateRoom payload.examId payload.candidateId payload.deviceRole ∈ roomsOf m id
  invite : ∃ inviteToken, (m.dataOf id).inviteToken = some inviteToken ∧
    InviteRead before inviteToken ⟨payload.examId, payload.candidateId⟩

/-- The exams that the store knows have identifiers without a colon: the one that
`getLiveProctorState` finds, and those of the invites. -/
def ServerExamIds (w : GatewayWorld) : GatewayEvent → Prop
  | .execute k input =>
      (∀ id payload session,
        w.flights.get? k = some (.waiting (.joinAuthorizes id payload session)) →
        input.answer = .ok () → ':' ∉ payload.examId.toList) ∧
      ∀ invite, input.invite = .ok invite → ':' ∉ invite.examId.toList
  | _ => True

/-! ### The invariant -/

/-- The data and the rooms of a socket come from its joins. -/
structure SocketScope (es : List GatewayEvent) (m : GatewayMemory) (id : SocketId)
    (s : ProctorSocket) : Prop where
  admin : s.data.role = some .admin →
    ∃ e, s.data.examId = some e ∧ (id, e, s.data.adminToken) ∈ m.joins ∧ ToldAdmin m id e
  candidate : s.data.role = some .candidate →
    ∃ e c r t, s.data.examId = some e ∧ s.data.candidateId = some c ∧
      s.data.deviceRole = some r ∧ s.data.inviteToken = some t ∧ ToldCandidate m id e c r ∧
      InviteRead es t ⟨e, c⟩ ∧ (s.connected = true → candidateRoom e c r ∈ s.rooms)
  rooms : ∀ room ∈ s.rooms, ∃ e, IsRoomOf e room ∧ HasJoined m id e

/-- The check of a message has let the socket pass. -/
def Passed (es : List GatewayEvent) (k : Nat) (id : SocketId) (event : SignalEvent)
    (payload : SignalPayload) (before : List GatewayEvent) (w : GatewayWorld) : Prop :=
  (ActsAsAdmin w.memory id payload ∧ SessionAccepted es k id event payload) ∨
    ActsAsCandidate before w.memory id payload

/-- Call `k` has checked the message, and the socket has passed. -/
def CheckPassed (es : List GatewayEvent) (k : Nat) (id : SocketId) (event : SignalEvent)
    (payload : SignalPayload) : Prop :=
  ∃ before w, ChecksRelay es k id event payload before w ∧
    Passed es k id event payload before w ∧ ':' ∉ payload.examId.toList

/-- The assertion of a suspended call. -/
def WaitingScope (es : List GatewayEvent) (k : Nat) : GatewayWaiting → Prop
  | .relayAuthenticates id event payload live => live = true →
      ∃ before w, ChecksRelay es k id event payload before w ∧
        ActsAsAdmin w.memory id payload ∧ ':' ∉ payload.examId.toList
  | .relayReturns id event payload => CheckPassed es k id event payload
  | _ => True

/-- The assertion of a reply. -/
def ReadyScope (es : List GatewayEvent) (k : Nat) : GatewayReady → Prop
  | .joinAuthorized _ payload (.ok ()) => ':' ∉ payload.examId.toList
  | .candidateInviteRead _ payload (.ok invite) =>
      ':' ∉ invite.examId.toList ∧ InviteRead es payload.inviteToken invite
  | .relayAuthenticated id event payload (.ok _) => CheckPassed es k id event payload
  | .relayReturned id event payload => CheckPassed es k id event payload
  | _ => True

/-- The assertion of a call in flight. -/
def FlightScope (es : List GatewayEvent) (k : Nat) :
    Flight GatewayWaiting GatewayReady → Prop
  | .waiting pc => WaitingScope es k pc
  | .ready reply => ReadyScope es k reply

/-- What is known of a message that call `k` has sent. A call confirms a join only for an exam
of the server, and it relays a message only after its own check has passed. -/
def SentScope (es : List GatewayEvent) (k : Nat) (emission : Emission) : Prop :=
  match emission.message with
  | .joinedAdmin e => ':' ∉ e.toList
  | .joinedCandidate e _ _ => ':' ∉ e.toList
  | .signal event payload _ =>
      CheckPassed es k emission.sender event payload ∧
        (emission.target = .room (adminRoom payload.examId) ∨ emission.target =
          .room (candidateRoom payload.examId payload.candidateId payload.deviceRole))
  | _ => True

/-- What is known of a message that was sent: some call has sent it. -/
def EmissionScope (es : List GatewayEvent) (emission : Emission) : Prop :=
  ∃ k, SentScope es k emission

/-- The invariant of the gateway after the events `es`. -/
structure ScopesHold (es : List GatewayEvent) (w : GatewayWorld) : Prop where
  sockets : ∀ id s, w.memory.sockets.get? id = some s → SocketScope es w.memory id s
  emissions : ∀ emission ∈ w.memory.emissions, EmissionScope es emission
  flights : ∀ k f, w.flights.get? k = some f → FlightScope es k f

/-! ### What was done stays done -/

section
variable {es es' : List GatewayEvent} (hes : es <+: es')

include hes

/-- An invite that the store has returned stays returned in every longer run. -/
theorem InviteRead.mono {inviteToken : String} {invite : CandidateInvite}
    (h : InviteRead es inviteToken invite) : InviteRead es' inviteToken invite := by
  obtain ⟨before, k, input, w, id, payload, hmakes, hrest⟩ := h
  exact ⟨before, k, input, w, id, payload, hmakes.mono hes, hrest⟩

/-- A check that was made stays made, after the same events and in the same state. -/
theorem ChecksRelay.mono {k : Nat} {id : SocketId} {event : SignalEvent}
    {payload : SignalPayload} {before : List GatewayEvent} {w : GatewayWorld}
    (h : ChecksRelay es k id event payload before w) :
    ChecksRelay es' k id event payload before w := by
  obtain ⟨input, hmakes⟩ := h.makes
  exact ⟨h.call, input, hmakes.mono hes⟩

/-- A session that was accepted for a check stays accepted for it. Whether it is revoked later is
another matter. -/
theorem SessionAccepted.mono {k : Nat} {id : SocketId} {event : SignalEvent}
    {payload : SignalPayload} (h : SessionAccepted es k id event payload) :
    SessionAccepted es' k id event payload := by
  obtain ⟨before, input, w, session, hmakes, hrest⟩ := h
  exact ⟨before, input, w, session, hmakes.mono hes, hrest⟩

/-- A message that has passed its check has passed it in every longer run. -/
theorem CheckPassed.mono {k : Nat} {id : SocketId} {event : SignalEvent}
    {payload : SignalPayload} (h : CheckPassed es k id event payload) :
    CheckPassed es' k id event payload := by
  obtain ⟨before, w, hcheck, hpassed, hplain⟩ := h
  refine ⟨before, w, hcheck.mono hes, ?_, hplain⟩
  exact hpassed.imp_left fun hadmin => ⟨hadmin.1, hadmin.2.mono hes⟩

/-- Where the data of a socket come from does not change with the events that follow. -/
theorem SocketScope.mono {m : GatewayMemory} {id : SocketId} {s : ProctorSocket}
    (h : SocketScope es m id s) : SocketScope es' m id s where
  admin := h.admin
  candidate hrole := by
    obtain ⟨e, c, r, t, he, hc, hr, ht, htold, hinvite, hroom⟩ := h.candidate hrole
    exact ⟨e, c, r, t, he, hc, hr, ht, htold, hinvite.mono hes, hroom⟩
  rooms := h.rooms

/-- What is known of a message when it is sent stays known. -/
theorem SentScope.mono {k : Nat} {emission : Emission} (h : SentScope es k emission) :
    SentScope es' k emission := by
  unfold SentScope at h ⊢
  split at h
  · exact h
  · exact h
  · exact ⟨h.1.mono hes, h.2⟩
  · trivial

/-- A message keeps the call that has sent it. -/
theorem EmissionScope.mono {emission : Emission} (h : EmissionScope es emission) :
    EmissionScope es' emission := by
  obtain ⟨k, hsent⟩ := h
  exact ⟨k, hsent.mono hes⟩

/-- The assertion of a call in flight speaks of events that have happened, so it survives the moves
of other calls. -/
theorem FlightScope.mono {k : Nat} {f : Flight GatewayWaiting GatewayReady}
    (h : FlightScope es k f) : FlightScope es' k f := by
  cases f with
  | waiting pc =>
      cases pc with
      | relayAuthenticates id event payload live =>
          intro hlive
          obtain ⟨before, w, hcheck, hrest⟩ := h hlive
          exact ⟨before, w, hcheck.mono hes, hrest⟩
      | relayReturns id event payload => exact CheckPassed.mono hes h
      | _ => trivial
  | ready reply =>
      cases reply with
      | joinAuthorized id payload answer => cases answer <;> exact h
      | candidateInviteRead id payload invite =>
          cases invite with
          | ok invite => exact ⟨h.1, h.2.mono hes⟩
          | error error => trivial
      | relayAuthenticated id event payload session =>
          cases session with
          | ok session => exact CheckPassed.mono hes h
          | error error => trivial
      | relayReturned id event payload => exact CheckPassed.mono hes h
      | _ => trivial

/-- The invariant, over a state that has not changed while the run has grown. -/
theorem ScopesHold.mono {w : GatewayWorld} (h : ScopesHold es w) : ScopesHold es' w where
  sockets id s hs := (h.sockets id s hs).mono hes
  emissions emission hin := (h.emissions emission hin).mono hes
  flights k f hf := (h.flights k f hf).mono hes

end

/-! ### Segments that touch no scope -/

/-- A message that concerns neither a join nor a relay. -/
def IsPlain : ServerMessage → Prop
  | .proctorError _ | .deviceJoined _ _ _ | .deviceLeft _ _ => True
  | _ => False

/-- What becomes of a socket, other than by a join. -/
def StaysSocket (s s' : ProctorSocket) : Prop :=
  s' = s ∨ (s'.data = s.data ∧ s'.connected = false ∧ s'.rooms = [])

/-- A change of the memory by which no socket joins: sockets appear and are disconnected, and
plain messages are sent. -/
structure Unjoined (m m' : GatewayMemory) : Prop where
  sockets : ∀ id s', m'.sockets.get? id = some s' →
    (s'.data = {} ∧ s'.rooms = []) ∨ ∃ s, m.sockets.get? id = some s ∧ StaysSocket s s'
  joins : m'.joins = m.joins
  emissions : ∃ new, m'.emissions = m.emissions ++ new ∧
    ∀ emission ∈ new, IsPlain emission.message

/-- A change that leaves the sockets alone. -/
theorem unjoined_of_sockets {m m' : GatewayMemory} (hsockets : m'.sockets = m.sockets)
    (hjoins : m'.joins = m.joins) (hemissions : m'.emissions = m.emissions) : Unjoined m m' where
  sockets id s' hs' := Or.inr ⟨s', by rw [← hsockets]; exact hs', Or.inl rfl⟩
  joins := hjoins
  emissions := ⟨[], by rw [hemissions, List.append_nil], fun _ h => by cases h⟩

/-- Nothing changes, so nobody joins. -/
theorem Unjoined.refl (m : GatewayMemory) : Unjoined m m := unjoined_of_sockets rfl rfl rfl

/-- Two changes by which nobody joins. A socket that the first one disconnects has no rooms, and
the second one gives it none. -/
theorem Unjoined.trans {m m' m'' : GatewayMemory} (h : Unjoined m m') (h' : Unjoined m' m'') :
    Unjoined m m'' where
  sockets id s'' hs'' := by
    rcases h'.sockets id s'' hs'' with hfresh | ⟨s', hs', hstays'⟩
    · exact Or.inl hfresh
    · rcases hstays' with rfl | ⟨hdata, hconnected, hrooms⟩
      · exact h.sockets id s'' hs'
      · rcases h.sockets id s' hs' with ⟨hdata', -⟩ | ⟨s, hs, hstays⟩
        · exact Or.inl ⟨hdata.trans hdata', hrooms⟩
        · refine Or.inr ⟨s, hs, Or.inr ⟨?_, hconnected, hrooms⟩⟩
          rcases hstays with rfl | ⟨hdata', -⟩
          · exact hdata
          · exact hdata.trans hdata'
  joins := h'.joins.trans h.joins
  emissions := by
    obtain ⟨new, hnew, hplain⟩ := h.emissions
    obtain ⟨new', hnew', hplain'⟩ := h'.emissions
    refine ⟨new ++ new', by rw [hnew', hnew, List.append_assoc], fun emission hin => ?_⟩
    rcases List.mem_append.mp hin with hin | hin
    · exact hplain emission hin
    · exact hplain' emission hin

/-- A plain message goes out, and the sockets stay as they are. -/
theorem unjoined_emit (m : GatewayMemory) (emission : Emission)
    (h : IsPlain emission.message) :
    Unjoined m { m with emissions := m.emissions ++ [emission] } where
  sockets id s' hs' := Or.inr ⟨s', hs', Or.inl rfl⟩
  joins := rfl
  emissions := ⟨[emission], rfl, fun e he => by rw [List.mem_singleton.mp he]; exact h⟩

/-- A socket that connects has no data and no rooms. -/
theorem unjoined_connect (m : GatewayMemory) (id : SocketId) (handshakeToken : Option String) :
    Unjoined m { m with sockets := m.sockets.set id { handshakeToken } } where
  sockets k s' hs' := by
    rw [OrderedMap.get?_set] at hs'
    split at hs'
    · cases hs'
      exact Or.inl ⟨rfl, rfl⟩
    · exact Or.inr ⟨s', hs', Or.inl rfl⟩
  joins := rfl
  emissions := ⟨[], (List.append_nil _).symm, fun _ h => by cases h⟩

/-- A change of a socket sends nothing. -/
theorem emissions_updateSocket (m : GatewayMemory) (id : SocketId)
    (f : ProctorSocket → ProctorSocket) : (m.updateSocket id f).emissions = m.emissions := by
  unfold GatewayMemory.updateSocket
  split <;> rfl

/-- A disconnected socket keeps its data and loses its rooms, and nothing is sent. -/
theorem unjoined_disconnect (m : GatewayMemory) (id : SocketId) :
    Unjoined m (m.disconnect id) where
  sockets k s' hs' := by
    unfold GatewayMemory.disconnect at hs'
    split at hs'
    · replace hs' : (m.updateSocket id fun s =>
        { s with connected := false, rooms := [] }).sockets.get? k = some s' := hs'
      rw [sockets_updateSocket] at hs'
      split at hs'
      · rename_i heq
        subst heq
        obtain ⟨s, hs, rfl⟩ := Option.map_eq_some_iff.mp hs'
        exact Or.inr ⟨s, hs, Or.inr ⟨rfl, rfl, rfl⟩⟩
      · exact Or.inr ⟨s', hs', Or.inl rfl⟩
    · exact Or.inr ⟨s', hs', Or.inl rfl⟩
  joins := (rest_disconnect m id).2.2
  emissions := by
    refine ⟨[], ?_, fun _ h => by cases h⟩
    rw [List.append_nil]
    unfold GatewayMemory.disconnect
    split
    · exact emissions_updateSocket m id _
    · rfl

/-- Several sockets are disconnected, one after the other. -/
theorem unjoined_foldl (ids : List SocketId) (m : GatewayMemory) :
    Unjoined m (ids.foldl GatewayMemory.disconnect m) := by
  induction ids generalizing m with
  | nil => exact Unjoined.refl m
  | cons id ids ih => exact (unjoined_disconnect m id).trans (ih (m.disconnect id))

/-- A revocation disconnects the proctors' sockets that the token is registered for, and no socket
joins by it. -/
theorem unjoined_revocation (m : GatewayMemory) (token : String) :
    Unjoined m (afterRevocation m token) := by
  unfold afterRevocation GatewayMemory.disconnectAdminClients
  split
  · exact unjoined_of_sockets rfl rfl rfl
  · refine Unjoined.trans ?_ (unjoined_foldl _ _)
    exact unjoined_of_sockets rfl rfl rfl

/-- The registration of a proctor's socket sends nothing. -/
theorem emissions_track (m : GatewayMemory) (id : SocketId) :
    (m.trackAdminClient id).emissions = m.emissions := by
  unfold GatewayMemory.trackAdminClient
  split <;> rfl

/-- The end of a registration sends nothing. -/
theorem emissions_untrack (m : GatewayMemory) (id : SocketId) :
    (m.untrackAdminClient id).emissions = m.emissions := by
  unfold GatewayMemory.untrackAdminClient
  split
  · rfl
  · split <;> rfl

/-- The handler of a disconnect takes the socket out of the registration. Its rooms are left
already. -/
theorem unjoined_handleDisconnect (m : GatewayMemory) (id : SocketId) :
    Unjoined m (m.handleDisconnect id).1 := by
  rw [fst_handleDisconnect]
  set n : GatewayMemory := { m with closing := m.closing.erase id } with hn
  obtain ⟨hsockets, -, -, hjoins⟩ := rest_untrack n id
  exact unjoined_of_sockets hsockets hjoins (emissions_untrack n id)

/-- A refusal sends at most an error. -/
theorem unjoined_refuse (m : GatewayMemory) (id : SocketId) (error : ServiceException) :
    Unjoined m (m.refuse id error).1 := by
  unfold GatewayMemory.refuse
  split
  · exact unjoined_emit m _ trivial
  · exact Unjoined.refl m

/-! ### The invariant over a segment -/

/-- What a segment of call `k` does for the invariant, when `es` are the events up to its own. -/
structure SegmentScope (es : List GatewayEvent) (k : Nat) (m : GatewayMemory)
    (segment : GatewaySegment) : Prop where
  sockets : (∀ id s, m.sockets.get? id = some s → SocketScope es m id s) →
    ∀ id s, segment.1.sockets.get? id = some s → SocketScope es segment.1 id s
  sends : ∃ new, segment.1.emissions = m.emissions ++ new ∧
    ∀ emission ∈ new, SentScope es k emission
  waits : ∀ pc, segment.2 = .suspended pc → WaitingScope es k pc

/-- Messages are never taken back, so a socket that was told of its join stays told. -/
theorem HasJoined.mono {m m' : GatewayMemory} {id : SocketId} {e : String}
    (h : HasJoined m id e) (hsub : m.emissions ⊆ m'.emissions) : HasJoined m' id e := by
  rcases h with htold | ⟨c, r, htold⟩
  · exact Or.inl (hsub htold)
  · exact Or.inr ⟨c, r, hsub htold⟩

/-- The scope of a socket that keeps its data, or of one that is disconnected. -/
theorem SocketScope.stays {es : List GatewayEvent} {m m' : GatewayMemory} {id : SocketId}
    {s s' : ProctorSocket} (h : SocketScope es m id s) (hstays : StaysSocket s s')
    (hjoins : m.joins ⊆ m'.joins) (hemissions : m.emissions ⊆ m'.emissions) :
    SocketScope es m' id s' := by
  have hdata : s'.data = s.data := by
    rcases hstays with rfl | ⟨hdata, -⟩
    · rfl
    · exact hdata
  refine ⟨fun hrole => ?_, fun hrole => ?_, fun room hin => ?_⟩
  · rw [hdata] at hrole ⊢
    obtain ⟨e, he, hjoin, htold⟩ := h.admin hrole
    exact ⟨e, he, hjoins hjoin, hemissions htold⟩
  · rw [hdata] at hrole ⊢
    obtain ⟨e, c, r, t, he, hc, hr, ht, htold, hinvite, hroom⟩ := h.candidate hrole
    refine ⟨e, c, r, t, he, hc, hr, ht, hemissions htold, hinvite, fun hconnected => ?_⟩
    rcases hstays with rfl | ⟨-, hdisconnected, -⟩
    · exact hroom hconnected
    · rw [hdisconnected] at hconnected
      cases hconnected
  · rcases hstays with rfl | ⟨-, -, hrooms⟩
    · obtain ⟨e, hroom, hjoined⟩ := h.rooms room hin
      exact ⟨e, hroom, hjoined.mono hemissions⟩
    · rw [hrooms] at hin
      cases hin

/-- A plain message, which relays no signal, needs no check of the sender. -/
theorem sentScope_of_plain {es : List GatewayEvent} {k : Nat} {emission : Emission}
    (h : IsPlain emission.message) : SentScope es k emission := by
  unfold SentScope
  split
  · rename_i hmessage
    rw [hmessage] at h
    exact h.elim
  · rename_i hmessage
    rw [hmessage] at h
    exact h.elim
  · rename_i hmessage
    rw [hmessage] at h
    exact h.elim
  · trivial

/-- A segment without a join and without a message keeps the scopes, if the operation for which it
waits has its own. -/
theorem Unjoined.scope {es : List GatewayEvent} {k : Nat} {m : GatewayMemory}
    {segment : GatewaySegment} (h : Unjoined m segment.1)
    (hwaits : ∀ pc, segment.2 = .suspended pc → WaitingScope es k pc) :
    SegmentScope es k m segment := by
  obtain ⟨new, hnew, hplain⟩ := h.emissions
  refine ⟨fun hsockets id s' hs' => ?_,
    ⟨new, hnew, fun emission hin => sentScope_of_plain (hplain emission hin)⟩, hwaits⟩
  rcases h.sockets id s' hs' with ⟨hdata, hrooms⟩ | ⟨s, hs, hstays⟩
  · refine ⟨fun hrole => ?_, fun hrole => ?_, fun room hin => ?_⟩
    · rw [hdata] at hrole
      cases hrole
    · rw [hdata] at hrole
      cases hrole
    · rw [hrooms] at hin
      cases hin
  · refine (hsockets id s hs).stays hstays ?_ ?_
    · rw [h.joins]
      exact List.Subset.refl _
    · rw [hnew]
      exact List.subset_append_left _ _

/-! ### Joins -/

/-- A socket after `client.join`. -/
def entered (room : String) (s : ProctorSocket) : ProctorSocket :=
  if s.connected ∧ room ∉ s.rooms then { s with rooms := s.rooms ++ [room] } else s

/-- To enter a room changes neither the data of a socket nor its connection. -/
theorem entered_same (room : String) (s : ProctorSocket) :
    (entered room s).data = s.data ∧ (entered room s).connected = s.connected := by
  unfold entered
  split <;> exact ⟨rfl, rfl⟩

/-- The rooms of a socket that enters one are those it was in, and the one it enters. -/
theorem mem_of_entered {room r : String} {s : ProctorSocket} (h : r ∈ (entered room s).rooms) :
    r ∈ s.rooms ∨ r = room := by
  unfold entered at h
  split at h
  · simpa using h
  · exact Or.inl h

/-- A connected socket is in the room that it enters. A socket that has gone does not enter. -/
theorem mem_entered {room : String} {s : ProctorSocket} (h : s.connected = true) :
    room ∈ (entered room s).rooms := by
  unfold entered
  split
  · simp
  · rename_i hin
    exact Decidable.byContradiction fun hnot => hin ⟨h, hnot⟩

/-- The sockets after new data and a new room for one of them. -/
theorem sockets_joined (m : GatewayMemory) (id k : SocketId)
    (f : ProctorSocket → ProctorSocket) (room : String) :
    ((m.updateSocket id f).joinRoom id room).sockets.get? k
      = if k = id then (m.sockets.get? id).map fun s => entered room (f s)
        else m.sockets.get? k := by
  show ((m.updateSocket id f).updateSocket id (entered room)).sockets.get? k = _
  rw [sockets_updateSocket, sockets_updateSocket, sockets_updateSocket, if_pos rfl]
  split
  · rw [Option.map_map]
    rfl
  · rfl

/-- To join a room looks at the sockets only, whatever else the memory has. -/
theorem joinRoom_congr {m n : GatewayMemory} (h : n.sockets = m.sockets) (id : SocketId)
    (room : String) : (n.joinRoom id room).sockets = (m.joinRoom id room).sockets := by
  unfold GatewayMemory.joinRoom GatewayMemory.updateSocket
  rw [h]
  cases m.sockets.get? id with
  | none => exact h
  | some s => rfl

/-- A change of one socket depends on the sockets only, and not on the rest of the memory. -/
theorem updateSocket_congr {m n : GatewayMemory} (h : n.sockets = m.sockets) (id : SocketId)
    (f : ProctorSocket → ProctorSocket) :
    (n.updateSocket id f).sockets = (m.updateSocket id f).sockets := by
  unfold GatewayMemory.updateSocket
  rw [h]
  cases m.sockets.get? id with
  | none => exact h
  | some s => rfl

/-- The data that a completed `join-admin` writes. -/
def adminData (payload : JoinAdminPayload) (token : Option String) (s : ProctorSocket) :
    ProctorSocket :=
  { s with data := { s.data with
      role := some .admin, adminToken := token, examId := some payload.examId } }

/-- The data that a completed `join-candidate` writes. -/
def candidateData (payload : JoinCandidatePayload) (s : ProctorSocket) : ProctorSocket :=
  { s with data := { s.data with
      role := some .candidate, examId := some payload.examId,
      candidateId := some payload.candidateId, inviteToken := some payload.inviteToken,
      deviceRole := some payload.deviceRole } }

/-- What `registerAdmin` writes: the data and the room of the socket, the join, and the
acknowledgement to the socket alone. -/
theorem registerAdmin_writes (m : GatewayMemory) (id : SocketId) (payload : JoinAdminPayload) :
    (m.registerAdmin id payload).sockets =
        ((m.updateSocket id (adminData payload (m.extractAdminToken id payload))).joinRoom id
          (adminRoom payload.examId)).sockets ∧
      (m.registerAdmin id payload).joins =
        m.joins ++ [(id, payload.examId, m.extractAdminToken id payload)] ∧
      (m.registerAdmin id payload).emissions =
        m.emissions ++ [⟨id, .client id, .joinedAdmin payload.examId⟩] := by
  set f := adminData payload (m.extractAdminToken id payload) with hf
  set m₁ := m.untrackAdminClient id with hm₁
  set m₂ := m₁.updateSocket id f with hm₂
  set m₃ := m₂.trackAdminClient id with hm₃
  obtain ⟨hs₁, -, -, hj₁⟩ := rest_untrack m id
  obtain ⟨-, -, -, hj₂⟩ := rest_updateSocket m₁ id f
  obtain ⟨hs₃, -, -, hj₃⟩ := rest_track m₂ id
  obtain ⟨-, -, -, hj₄⟩ := rest_updateSocket m₃ id (entered (adminRoom payload.examId))
  refine ⟨?_, ?_, ?_⟩
  · show (m₃.joinRoom id (adminRoom payload.examId)).sockets = _
    exact joinRoom_congr (hs₃.trans (updateSocket_congr hs₁ id f)) id _
  · show (m₃.updateSocket id (entered (adminRoom payload.examId))).joins ++ _ = _
    rw [hj₄, hj₃, hj₂, hj₁]
  · show (m₃.updateSocket id (entered (adminRoom payload.examId))).emissions ++ _ = _
    rw [emissions_updateSocket, emissions_track, emissions_updateSocket, emissions_untrack]

/-- The scopes after a join: the one of the socket is new, the others stay. -/
theorem scope_joined {es : List GatewayEvent} {m m' : GatewayMemory} {id : SocketId}
    {f : ProctorSocket → ProctorSocket} {room : String}
    (hsockets : ∀ k, m'.sockets.get? k = if k = id then
      (m.sockets.get? id).map fun s => entered room (f s) else m.sockets.get? k)
    (hjoins : m.joins ⊆ m'.joins) (hemissions : m.emissions ⊆ m'.emissions)
    (hnew : ∀ s, SocketScope es m id s → SocketScope es m' id (entered room (f s)))
    (hold : ∀ k s, m.sockets.get? k = some s → SocketScope es m k s) :
    ∀ k s, m'.sockets.get? k = some s → SocketScope es m' k s := by
  intro k s hs
  rw [hsockets] at hs
  split at hs
  · rename_i heq
    subst heq
    obtain ⟨s₀, hs₀, rfl⟩ := Option.map_eq_some_iff.mp hs
    exact hnew s₀ (hold k s₀ hs₀)
  · exact (hold k s hs).stays (Or.inl rfl) hjoins hemissions

/-- After a join the socket is in its old rooms and the new one, and it has joined the exam of
each. -/
theorem rooms_joined {es : List GatewayEvent} {m m' : GatewayMemory} {id : SocketId}
    {s : ProctorSocket} {f : ProctorSocket → ProctorSocket} {e room : String}
    (h : SocketScope es m id s) (hf : (f s).rooms = s.rooms)
    (hemissions : m.emissions ⊆ m'.emissions) (hroom : IsRoomOf e room)
    (hjoined : HasJoined m' id e) :
    ∀ r ∈ (entered room (f s)).rooms, ∃ e, IsRoomOf e r ∧ HasJoined m' id e := by
  intro r hin
  rcases mem_of_entered hin with hold | rfl
  · rw [hf] at hold
    obtain ⟨e', hr, hjoined'⟩ := h.rooms r hold
    exact ⟨e', hr, hjoined'.mono hemissions⟩
  · exact ⟨e, hroom, hjoined⟩

/-- A completed `join-admin` keeps the scopes: the socket has its new data and its new room, and
all others are as before. -/
theorem registerAdmin_scope {es : List GatewayEvent} {k : Nat} (m : GatewayMemory)
    (id : SocketId) {payload : JoinAdminPayload} (hplain : ':' ∉ payload.examId.toList)
    (result : GatewayResult) :
    SegmentScope es k m (m.registerAdmin id payload, .finished result) := by
  obtain ⟨hsockets, hjoins, hemissions⟩ := registerAdmin_writes m id payload
  have hsub : m.emissions ⊆ (m.registerAdmin id payload).emissions := by
    rw [hemissions]
    exact List.subset_append_left _ _
  have htold : ToldAdmin (m.registerAdmin id payload) id payload.examId := by
    unfold ToldAdmin
    rw [hemissions]
    simp
  -- The socket has its new data and its new room. All others are as before.
  have hget : ∀ j, (m.registerAdmin id payload).sockets.get? j = if j = id then
      (m.sockets.get? id).map fun s => entered (adminRoom payload.examId)
        (adminData payload (m.extractAdminToken id payload) s)
      else m.sockets.get? j := by
    intro j
    rw [hsockets]
    exact sockets_joined m id j _ _
  refine ⟨scope_joined hget ?_ hsub fun s hs => ?_, ⟨_, hemissions, fun emission hin => ?_⟩,
    fun pc hpc => by cases hpc⟩
  · rw [hjoins]
    exact List.subset_append_left _ _
  · obtain ⟨hdata, -⟩ := entered_same (adminRoom payload.examId)
      (adminData payload (m.extractAdminToken id payload) s)
    refine ⟨fun _ => ?_, fun hrole => ?_, ?_⟩
    · rw [hdata]
      refine ⟨payload.examId, rfl, ?_, htold⟩
      rw [hjoins]
      exact List.mem_append_right _ (List.mem_singleton.mpr rfl)
    · rw [hdata] at hrole
      cases hrole
    · exact rooms_joined hs rfl hsub (Or.inl rfl) (Or.inl htold)
  · cases List.mem_singleton.mp hin
    exact hplain

/-- A completed `join-candidate`, or one that is refused, keeps the scopes: the socket enters the
room of the invite that was read. -/
theorem joinCandidateAfterRead_scope {es : List GatewayEvent} {k : Nat} (m : GatewayMemory)
    (id : SocketId) {payload : JoinCandidatePayload} {invite : CandidateInvite}
    (hplain : ':' ∉ invite.examId.toList)
    (hinvite : InviteRead es payload.inviteToken invite) :
    SegmentScope es k m (m.joinCandidateAfterRead id payload invite) := by
  unfold GatewayMemory.joinCandidateAfterRead
  split
  · -- The invite is of another candidate: the socket is told so, and joins no room.
    have hplain' : IsPlain (.proctorError "Candidate invite does not match proctor join payload.") :=
      trivial
    exact (unjoined_emit m ⟨id, .client id, _⟩ hplain').scope fun pc hpc => by cases hpc
  · rename_i hmatches
    obtain ⟨hexam, hcandidate⟩ := not_or.mp hmatches
    replace hexam : invite.examId = payload.examId := not_not.mp hexam
    replace hcandidate : invite.candidateId = payload.candidateId := not_not.mp hcandidate
    -- The socket enters the room of the invite. The proctors and the socket itself are told.
    set room := candidateRoom payload.examId payload.candidateId payload.deviceRole with hroom
    set n := (m.updateSocket id (candidateData payload)).joinRoom id room with hn
    set joined : Emission := ⟨id, .room (adminRoom payload.examId),
      .deviceJoined id payload.candidateId payload.deviceRole⟩ with hjoined
    set told : Emission := ⟨id, .client id,
      .joinedCandidate payload.examId payload.candidateId payload.deviceRole⟩ with htold
    have hnew : (n.emitToRoom id (adminRoom payload.examId)
        (.deviceJoined id payload.candidateId payload.deviceRole)).emitToClient id
        (.joinedCandidate payload.examId payload.candidateId payload.deviceRole)
        = { n with emissions := m.emissions ++ [joined] ++ [told] } := by
      have hemissions : n.emissions = m.emissions := by
        rw [hn]
        exact (emissions_updateSocket _ id _).trans (emissions_updateSocket m id _)
      rw [← hemissions]
      rfl
    have hjoins : n.joins = m.joins := by
      rw [hn]
      exact (rest_updateSocket (m.updateSocket id (candidateData payload)) id
        (entered room)).2.2.2.trans (rest_updateSocket m id (candidateData payload)).2.2.2
    show SegmentScope es k m ((n.emitToRoom id (adminRoom payload.examId)
        (.deviceJoined id payload.candidateId payload.deviceRole)).emitToClient id
        (.joinedCandidate payload.examId payload.candidateId payload.deviceRole), _)
    rw [hnew]
    have hsub : m.emissions ⊆ m.emissions ++ [joined] ++ [told] := by
      rw [List.append_assoc]
      exact List.subset_append_left _ _
    have htells : ToldCandidate { n with emissions := m.emissions ++ [joined] ++ [told] } id
        payload.examId payload.candidateId payload.deviceRole :=
      List.mem_append_right _ (List.mem_singleton.mpr rfl)
    refine ⟨scope_joined (fun k => sockets_joined m id k _ room) ?_ hsub fun s hs => ?_,
      ⟨[joined, told], List.append_assoc _ _ _, fun emission hin => ?_⟩,
      fun pc hpc => by cases hpc⟩
    · show m.joins ⊆ n.joins
      rw [hjoins]
      exact List.Subset.refl _
    · obtain ⟨hdata, hconnected⟩ := entered_same room (candidateData payload s)
      refine ⟨fun hrole => ?_, fun _ => ?_, ?_⟩
      · rw [hdata] at hrole
        cases hrole
      · rw [hdata]
        refine ⟨payload.examId, payload.candidateId, payload.deviceRole, payload.inviteToken,
          rfl, rfl, rfl, rfl, htells, ?_, fun hsocket => ?_⟩
        · rw [← hexam, ← hcandidate]
          exact hinvite
        · rw [hconnected] at hsocket
          exact mem_entered hsocket
      · exact rooms_joined hs rfl hsub (Or.inr ⟨_, _, rfl⟩) (Or.inr ⟨_, _, htells⟩)
    · -- Of the two new emissions, the first goes to a room of proctors and the second to the
      -- socket.
      rw [List.mem_cons, List.mem_singleton] at hin
      rcases hin with rfl | rfl
      · trivial
      · show ':' ∉ payload.examId.toList
        rw [← hexam]
        exact hplain

/-! ### Checks and relays -/

/-- A segment that changes nothing. -/
theorem still_scope {es : List GatewayEvent} {k : Nat} {m : GatewayMemory}
    {o : Outcome GatewayWaiting GatewayResult}
    (h : ∀ pc, o = .suspended pc → WaitingScope es k pc) : SegmentScope es k m (m, o) :=
  (Unjoined.refl m).scope h

/-- A message that passed its check is relayed, to a room of its exam. The check is one of the same
call. -/
theorem relay_scope {es : List GatewayEvent} {k : Nat} (m : GatewayMemory) {id : SocketId}
    {event : SignalEvent} {payload : SignalPayload} (h : CheckPassed es k id event payload) :
    SegmentScope es k m (m.relay id event payload) := by
  set emission : Emission := ⟨id, .room (m.relayRoom id event payload),
    .signal event payload (if event = .webrtcOffer then some id else none)⟩ with hemission
  have hscope : SentScope es k emission := by
    refine ⟨h, ?_⟩
    show EmissionTarget.room (m.relayRoom id event payload) = _ ∨
      EmissionTarget.room (m.relayRoom id event payload) = _
    unfold GatewayMemory.relayRoom
    cases event with
    | requestOffer => exact Or.inr rfl
    | webrtcOffer => exact Or.inl rfl
    | webrtcAnswer => exact Or.inr rfl
    | iceCandidate =>
        simp only []
        split
        · exact Or.inr rfl
        · exact Or.inl rfl
  have hsub : m.emissions ⊆ m.emissions ++ [emission] := List.subset_append_left _ _
  refine ⟨fun hold j s hs => ?_, ⟨[emission], rfl, fun e hin => ?_⟩, fun pc hpc => by cases hpc⟩
  · exact (hold j s hs).stays (Or.inl rfl) (List.Subset.refl _) hsub
  · rw [List.mem_singleton.mp hin]
    exact hscope

/-- A connected socket is one that the gateway knows. -/
theorem socket_of_isConnected {m : GatewayMemory} {id : SocketId}
    (h : m.isConnected id = true) :
    ∃ s, m.sockets.get? id = some s ∧ s.connected = true := by
  unfold GatewayMemory.isConnected at h
  split at h
  · cases h
  · rename_i s hs
    exact ⟨s, hs, h⟩

/-- Who has joined an exam has joined one of the server. -/
theorem ScopesHold.plain {es : List GatewayEvent} {w : GatewayWorld} (hw : ScopesHold es w)
    {id : SocketId} {e : String} (h : HasJoined w.memory id e) : ':' ∉ e.toList := by
  rcases h with htold | ⟨c, r, htold⟩
  · obtain ⟨k, hsent⟩ := hw.emissions _ htold
    exact hsent
  · obtain ⟨k, hsent⟩ := hw.emissions _ htold
    exact hsent

/-- `assertCanRelay`. What it has seen of the socket are completed joins of the exam. -/
theorem assertCanRelay_scope {es : List GatewayEvent} {w : GatewayWorld}
    (hrun : gatewayMachine.run gatewayInitial es = some w) (hw : ScopesHold es w)
    {id : SocketId} (hid : w.memory.isConnected id = true) (event : SignalEvent)
    (payload : SignalPayload) (input : GatewayInput) :
    SegmentScope (es ++ [.invoke (.signal id event payload) input]) w.nextCall w.memory
      (w.memory.assertCanRelay id event payload) := by
  have hcheck : ChecksRelay (es ++ [.invoke (.signal id event payload) input]) w.nextCall id
      event payload es w := ⟨rfl, input, Machine.makes_concat hrun _⟩
  obtain ⟨s, hs, hconnected⟩ := socket_of_isConnected hid
  have hscope := hw.sockets id s hs
  have hdata : w.memory.dataOf id = s.data := by
    unfold GatewayMemory.dataOf
    rw [hs]
  unfold GatewayMemory.assertCanRelay
  simp only []
  split
  · -- The socket acts as a proctor.
    rename_i hadmin
    refine still_scope fun pc hpc => ?_
    cases hpc
    intro hlive
    rw [hdata] at hadmin hlive
    obtain ⟨hrole, hexam⟩ := hadmin
    obtain ⟨e, he, hjoin, htold⟩ := hscope.admin hrole
    rw [hexam] at he
    cases he
    refine ⟨es, w, hcheck, ?_, hw.plain (Or.inl htold)⟩
    refine ⟨?_, ?_, ?_, htold, ?_⟩
    · rw [hdata]; exact hrole
    · rw [hdata]; exact hexam
    · rw [hdata]; exact hjoin
    · rw [hdata]; exact hlive
  · split
    · -- The socket acts as a device of a candidate.
      rename_i hcandidate
      refine still_scope fun pc hpc => ?_
      cases hpc
      rw [hdata] at hcandidate
      obtain ⟨hrole, hexam, hcand, hdevice⟩ := hcandidate
      obtain ⟨e, c, r, t, he, hc, hr, ht, htold, hinvite, hroom⟩ := hscope.candidate hrole
      rw [hexam] at he
      rw [hcand] at hc
      rw [hdevice] at hr
      cases he
      cases hc
      cases hr
      refine ⟨es, w, hcheck, Or.inr ?_, hw.plain (Or.inr ⟨_, _, htold⟩)⟩
      refine ⟨?_, ?_, ?_, htold, ?_, t, ?_, hinvite⟩
      · rw [hdata]; exact hrole
      · rw [hdata]; exact hexam
      · rw [hdata]; exact hdevice
      · unfold roomsOf
        rw [hs]
        exact hroom hconnected
      · rw [hdata]; exact ht
    · -- The socket has joined nothing that covers the signal, and is told so.
      have hplain : IsPlain
          (.proctorError "Proctor signaling is outside the joined room scope.") := trivial
      exact (unjoined_emit w.memory ⟨id, .client id, _⟩ hplain).scope fun pc hpc => by cases hpc

/-! ### Every move keeps the scopes -/

/-- The first segment of a call keeps the scopes. The check of a signal is the only start that
looks at the history. -/
theorem start_scope {es : List GatewayEvent} {w : GatewayWorld} {call : GatewayCall}
    {input : GatewayInput} {segment : GatewaySegment}
    (hrun : gatewayMachine.run gatewayInitial es = some w) (hw : ScopesHold es w)
    (h : w.memory.start call input = some segment) :
    SegmentScope (es ++ [.invoke call input]) w.nextCall w.memory segment := by
  cases call with
  | connect id handshakeToken =>
      simp only [GatewayMemory.start] at h
      split at h
      · cases h
      · cases h
        exact (unjoined_connect w.memory id handshakeToken).scope fun pc hpc => by cases hpc
  | joinAdmin id payload =>
      obtain ⟨-, heq⟩ := Option.ite_none_right_eq_some.mp h
      cases heq
      exact still_scope fun pc hpc => by cases hpc; trivial
  | joinCandidate id payload =>
      obtain ⟨-, heq⟩ := Option.ite_none_right_eq_some.mp h
      cases heq
      unfold GatewayMemory.joinCandidate
      split
      · exact still_scope fun pc hpc => by cases hpc; trivial
      · have hplain : IsPlain (.proctorError "Invalid proctor device role.") := trivial
        exact (unjoined_emit w.memory ⟨id, .client id, _⟩ hplain).scope
          fun pc hpc => by cases hpc
  -- The check of a signal is the only start that looks at the history.
  | signal id event payload =>
      obtain ⟨hid, heq⟩ := Option.ite_none_right_eq_some.mp h
      cases heq
      exact assertCanRelay_scope hrun hw hid event payload input
  | close id =>
      obtain ⟨-, heq⟩ := Option.ite_none_right_eq_some.mp h
      cases heq
      exact (unjoined_disconnect w.memory id).scope fun pc hpc => by cases hpc
  | disconnected id =>
      obtain ⟨-, heq⟩ := Option.ite_none_right_eq_some.mp h
      cases heq
      refine (unjoined_handleDisconnect w.memory id).scope fun pc hpc => ?_
      unfold GatewayMemory.handleDisconnect at hpc
      simp only [] at hpc
      split at hpc
      · cases hpc
      · cases hpc
        trivial
  | sessionRevoked token =>
      obtain ⟨-, heq⟩ := Option.ite_none_left_eq_some.mp h
      cases heq
      exact (unjoined_revocation w.memory token).scope fun pc hpc => by cases hpc

/-- A refusal keeps the scopes. -/
theorem refuse_scope {es : List GatewayEvent} {k : Nat} (m : GatewayMemory) (id : SocketId)
    (error : ServiceException) : SegmentScope es k m (m.refuse id error) := by
  refine (unjoined_refuse m id error).scope fun pc hpc => ?_
  unfold GatewayMemory.refuse at hpc
  split at hpc <;> cases hpc

/-- The next segment of a call keeps the scopes. Only the joins and the relays need what is known
of their call. -/
theorem resume_scope {es : List GatewayEvent} {k : Nat} {m : GatewayMemory}
    {reply : GatewayReady} {input : GatewayInput} {segment : GatewaySegment}
    (hreply : ReadyScope es k reply) (h : m.resume reply input = some segment) :
    SegmentScope es k m segment := by
  cases reply with
  | joinAuthenticated id payload session =>
      cases session with
      | ok session =>
          cases h
          exact still_scope fun pc hpc => by cases hpc; trivial
      | error error =>
          cases h
          exact refuse_scope m id error
  -- Only the joins and the relays need what is known of their call.
  | joinAuthorized id payload answer =>
      cases answer with
      | ok answer =>
          cases h
          exact registerAdmin_scope m id hreply _
      | error error =>
          cases h
          exact still_scope fun pc hpc => by cases hpc
  | candidateInviteRead id payload invite =>
      cases invite with
      | ok invite =>
          cases h
          exact joinCandidateAfterRead_scope m id hreply.1 hreply.2
      | error error =>
          cases h
          exact still_scope fun pc hpc => by cases hpc
  | relayAuthenticated id event payload session =>
      cases session with
      | ok session =>
          cases h
          exact relay_scope m hreply
      | error error =>
          cases h
          exact refuse_scope m id error
  | relayReturned id event payload =>
      cases h
      exact relay_scope m hreply
  | deviceUpserted id answer =>
      cases answer with
      | ok answer =>
          cases h
          exact still_scope fun pc hpc => by cases hpc; trivial
      | error error =>
          cases h
          exact still_scope fun pc hpc => by cases hpc
  | eventLogged id answer =>
      cases answer with
      | ok answer =>
          cases h
          exact (unjoined_emit m ⟨id, .room _, .deviceLeft _ _⟩ trivial).scope
            fun pc hpc => by cases hpc
      | error error =>
          cases h
          exact still_scope fun pc hpc => by cases hpc

/-- An answer of the services has the scope of its call: an accepted session was stored when the
relay asked for it, which is what the check has recorded. -/
theorem execute_scope {es : List GatewayEvent} {w : GatewayWorld} {k : Nat}
    {pc : GatewayWaiting} {input : GatewayInput} {records : GatewayRecords}
    {reply : GatewayReady} (hrun : gatewayMachine.run gatewayInitial es = some w)
    (hflight : w.flights.get? k = some (.waiting pc))
    (hids : ServerExamIds w (.execute k input))
    (hpc : WaitingScope (es ++ [.execute k input]) k pc)
    (h : gatewayExecute pc input w.database = some (records, reply)) :
    ReadyScope (es ++ [.execute k input]) k reply := by
  have hmakes := Machine.makes_concat hrun (AsyncEvent.execute k input)
  obtain ⟨hexam, hinvite⟩ := hids
  cases pc with
  | joinAuthenticates id payload live =>
      obtain ⟨-, heq⟩ := Option.ite_none_right_eq_some.mp h
      cases heq
      trivial
  | joinAuthorizes id payload session =>
      cases h
      cases hanswer : input.answer with
      | ok answer => exact hexam id payload session hflight hanswer
      | error error => trivial
  | joinCandidateReads id payload =>
      cases h
      cases hread : input.invite with
      | ok invite =>
          exact ⟨hinvite invite hread, es, k, input, w, id, payload, hmakes, hflight, rfl, hread⟩
      | error error => trivial
  | relayAuthenticates id event payload live =>
      obtain ⟨hanswer, heq⟩ := Option.ite_none_right_eq_some.mp h
      cases heq
      cases hsession : input.session with
      | ok session =>
          -- An accepted token was stored when the relay asked, which is what the check has
          -- recorded.
          have hlive : live = true := by
            rw [hsession] at hanswer
            simpa [answersToken, Except.toBool] using hanswer
          subst hlive
          obtain ⟨before, w₀, hcheck, hadmin, hplain⟩ := hpc rfl
          exact ⟨before, w₀, hcheck,
            Or.inl ⟨hadmin, es, input, w, session, hmakes, hflight, hsession⟩, hplain⟩
      | error error => trivial
  | relayReturns id event payload =>
      cases h
      exact hpc
  | disconnectUpserts id inviteToken deviceRole => cases h; trivial
  | disconnectLogs id inviteToken eventType => cases h; trivial

/-- A segment of a call keeps the invariant: the other calls are as they were, and this one is over
or waits in its own scope. -/
theorem scopesHold_conclude {es : List GatewayEvent} {w : GatewayWorld} {k : Nat}
    {m : GatewayMemory} {o : Outcome GatewayWaiting GatewayResult} (hw : ScopesHold es w)
    (h : SegmentScope es k w.memory (m, o)) : ScopesHold es (w.conclude k m o) where
  sockets id s hs := by
    rw [World.conclude_memory] at hs ⊢
    exact h.sockets hw.sockets id s hs
  emissions emission hin := by
    rw [World.conclude_memory] at hin
    obtain ⟨new, hnew, hsent⟩ := h.sends
    replace hnew : m.emissions = w.memory.emissions ++ new := hnew
    rw [hnew] at hin
    rcases List.mem_append.mp hin with hold | hin
    · exact hw.emissions emission hold
    · exact ⟨k, hsent emission hin⟩
  flights j f hf := by
    by_cases hj : j = k
    · subst hj
      rcases World.conclude_flights w j j m o f hf with ⟨pc, hpc, rfl⟩ | hold
      · exact h.waits pc hpc
      · exact hw.flights j f hold
    · rw [World.conclude_flights_ne w m o hj] at hf
      exact hw.flights j f hf

/-- What one move sends. The log of messages grows by the messages that the call of the move
sends, and each of them is one that this call may send. -/
theorem step_sends (es : List GatewayEvent) (w : GatewayWorld) (e : GatewayEvent)
    (w' : GatewayWorld) (hrun : gatewayMachine.run gatewayInitial es = some w)
    (hw : ScopesHold es w) (h : gatewayMachine.step w e = some w') :
    ∃ new, w'.memory.emissions = w.memory.emissions ++ new ∧
      ∀ emission ∈ new, SentScope (es ++ [e]) (e.mover w) emission := by
  have hw₁ : ScopesHold (es ++ [e]) w := hw.mono (List.prefix_append es [e])
  rcases AsyncProgram.step_cases h with
    ⟨call, input, m, o, rfl, hstart, rfl⟩ | ⟨k, input, pc, d, reply, rfl, -, -, rfl⟩ |
    ⟨k, input, reply, m, o, rfl, hflight, hresume, rfl⟩
  · replace hstart : w.memory.start call input = some (m, o) := hstart
    rw [World.conclude_memory]
    exact (start_scope hrun hw hstart).sends
  · -- An answer of the services sends nothing.
    exact ⟨[], (List.append_nil _).symm, fun _ hin => nomatch hin⟩
  · replace hresume : w.memory.resume reply input = some (m, o) := hresume
    rw [World.conclude_memory]
    exact (resume_scope (hw₁.flights k _ hflight) hresume).sends

/-- One move keeps the invariant, with the events so far and this one. One case for each of the
three moves of a call. -/
theorem step_scope (es : List GatewayEvent) (w : GatewayWorld) (e : GatewayEvent)
    (w' : GatewayWorld) (hrun : gatewayMachine.run gatewayInitial es = some w)
    (hw : ScopesHold es w) (hids : ServerExamIds w e) (h : gatewayMachine.step w e = some w') :
    ScopesHold (es ++ [e]) w' := by
  have hw₁ : ScopesHold (es ++ [e]) w := hw.mono (List.prefix_append es [e])
  rcases AsyncProgram.step_cases h with
    ⟨call, input, m, o, rfl, hstart, rfl⟩ | ⟨k, input, pc, d, reply, rfl, hflight, hexec, rfl⟩ |
    ⟨k, input, reply, m, o, rfl, hflight, hresume, rfl⟩
  · have hnext : ScopesHold (es ++ [.invoke call input]) { w with nextCall := w.nextCall + 1 } :=
      ⟨hw₁.sockets, hw₁.emissions, hw₁.flights⟩
    replace hstart : w.memory.start call input = some (m, o) := hstart
    exact scopesHold_conclude hnext (start_scope hrun hw hstart)
  · refine ⟨hw₁.sockets, hw₁.emissions, fun j f hf => ?_⟩
    replace hf : (w.flights.set k (.ready reply)).get? j = some f := hf
    rw [OrderedMap.get?_set] at hf
    split at hf
    · rename_i heq
      subst heq
      cases hf
      exact execute_scope hrun hflight hids (hw₁.flights j _ hflight) hexec
    · exact hw₁.flights j f hf
  · replace hresume : w.memory.resume reply input = some (m, o) := hresume
    exact scopesHold_conclude hw₁ (resume_scope (hw₁.flights k _ hflight) hresume)

/-- Before the first event there are no sockets, no messages and no calls. -/
theorem scopesHold_initial : ScopesHold [] gatewayInitial where
  sockets id s hs := by cases hs
  emissions emission hin := by cases hin
  flights k f hf := by simp [gatewayInitial] at hf

/-- The scopes hold after every run. -/
theorem run_scope (es : List GatewayEvent) (w : GatewayWorld)
    (hids : gatewayMachine.Meets ServerExamIds gatewayInitial es)
    (h : gatewayMachine.run gatewayInitial es = some w) : ScopesHold es w :=
  Machine.guarded_history_invariant scopesHold_initial step_scope es w hids h

/-! ### The result -/

/-- A message that call `k` relays in the state `w` stays in the exam that its sender has
joined. The same call has checked it in the state `checked`, after the events `before`. -/
structure StaysInExam (es : List GatewayEvent) (w : GatewayWorld) (k : Nat)
    (before : List GatewayEvent) (checked : GatewayWorld) (id : SocketId) (event : SignalEvent)
    (payload : SignalPayload) (room : String) : Prop where
  check : ChecksRelay es k id event payload before checked
  /-- The sender had joined the exam that the message names. -/
  joined : HasJoined checked.memory id payload.examId
  /-- The room is the proctors' room of this exam, or the one of the device that is named. -/
  target : room = adminRoom payload.examId ∨
    room = candidateRoom payload.examId payload.candidateId payload.deviceRole
  /-- The room is a room of no other exam. -/
  exam : ∀ e, ':' ∉ e.toList → IsRoomOf e room → e = payload.examId
  /-- Each socket that is in the room at the relay has joined this exam. -/
  receivers : ∀ receiver, room ∈ roomsOf w.memory receiver →
    HasJoined w.memory receiver payload.examId
  role : (checked.memory.dataOf id).role = some .admin ∨
    (checked.memory.dataOf id).role = some .candidate
  candidate : (checked.memory.dataOf id).role = some .candidate →
    ActsAsCandidate before checked.memory id payload
  admin : (checked.memory.dataOf id).role = some .admin →
    ActsAsAdmin checked.memory id payload ∧ SessionAccepted es k id event payload

/-- Who passes the check has joined the exam of the message, as a proctor or with a device. -/
theorem Passed.hasJoined {es : List GatewayEvent} {k : Nat} {id : SocketId}
    {event : SignalEvent} {payload : SignalPayload} {before : List GatewayEvent}
    {w : GatewayWorld} (h : Passed es k id event payload before w) :
    HasJoined w.memory id payload.examId := by
  rcases h with ⟨hadmin, -⟩ | hcandidate
  · exact Or.inl hadmin.told
  · exact Or.inr ⟨_, _, hcandidate.told⟩

/-- The sockets in a room of an exam of the server have joined this exam. -/
theorem ScopesHold.receivers {es : List GatewayEvent} {w : GatewayWorld} (hw : ScopesHold es w)
    {e room : String} (he : ':' ∉ e.toList) (hroom : IsRoomOf e room) {receiver : SocketId}
    (h : room ∈ roomsOf w.memory receiver) : HasJoined w.memory receiver e := by
  unfold roomsOf at h
  split at h
  · cases h
  · rename_i s hs
    obtain ⟨e', hroom', hjoined⟩ := (hw.sockets receiver s hs).rooms room h
    rw [← hroom.exam_unique hroom' he (hw.plain hjoined)]
    exact hjoined

/-- The messages that a move from `w` to `w'` sends: the new end of the log. -/
def sentBy (w w' : GatewayWorld) : List Emission :=
  w'.memory.emissions.drop w.memory.emissions.length

/-- Signaling never leaves its exam. Let a run of the gateway reach the state `w`, and let the
next move `e` relay a message to a room. Then the call that makes this move has checked this
message itself, when its sender had joined the exam that the message names, and the room
belongs to this exam and to no other one. A sender that acted as a candidate's device at that
check names itself, and a sender that acted as a proctor had an active session at it. -/
theorem signaling_stays_in_exam (es : List GatewayEvent) (w : GatewayWorld) (e : GatewayEvent)
    (w' : GatewayWorld) (hids : gatewayProgram.machine.Meets ServerExamIds gatewayInitial es)
    (hrun : gatewayProgram.machine.run gatewayInitial es = some w)
    (hstep : gatewayProgram.machine.step w e = some w') (id : SocketId)
    (room : String) (event : SignalEvent) (payload : SignalPayload)
    (socketId : Option SocketId)
    (h : (⟨id, .room room, .signal event payload socketId⟩ : Emission) ∈ sentBy w w') :
    ∃ before checked,
      StaysInExam (es ++ [e]) w (e.mover w) before checked id event payload room := by
  have hw := run_scope es w hids hrun
  -- What this step has sent is the new end of the emissions, and its call has passed the check.
  obtain ⟨new, hnew, hsent⟩ := step_sends es w e w' hrun hw hstep
  unfold sentBy at h
  rw [hnew, List.drop_left] at h
  obtain ⟨⟨before, checked, hcheck, hpassed, hplain⟩, htarget⟩ := hsent _ h
  have hroom : room = adminRoom payload.examId ∨
      room = candidateRoom payload.examId payload.candidateId payload.deviceRole :=
    htarget.imp EmissionTarget.room.inj EmissionTarget.room.inj
  -- Room names determine their exam, since exam identifiers have no separator in them.
  have hroomOf : IsRoomOf payload.examId room := hroom.imp_right fun heq => ⟨_, _, heq⟩
  refine ⟨before, checked,
    { check := hcheck
      joined := hpassed.hasJoined
      target := hroom
      exam := fun e he hother => hroomOf.exam_unique hother hplain he
      receivers := fun receiver hin => hw.receivers hplain hroomOf hin
      role := ?_
      candidate := fun hrole => ?_
      admin := fun hrole => ?_ }⟩
  · rcases hpassed with ⟨hadmin, -⟩ | hcandidate
    · exact Or.inl hadmin.role
    · exact Or.inr hcandidate.role
  · rcases hpassed with ⟨hadmin, -⟩ | hcandidate
    · rw [hadmin.role] at hrole
      cases hrole
    · exact hcandidate
  · rcases hpassed with hadmin | hcandidate
    · exact hadmin
    · rw [hcandidate.role] at hrole
      cases hrole

/-- An answer of the services to `getCandidateInvite`, or to none of the awaited functions. -/
def answering (invite : Except ServiceException CandidateInvite) : GatewayInput :=
  { invite, answer := .error (.prisma .other) }

/-- The offer of a candidate's device. -/
def offer : SignalPayload := ⟨"exam_1", "cand_1", "PRIMARY_PC", none, none⟩

/-- A candidate's device joins and offers its stream, up to the check of the offer. -/
def offerEvents : List GatewayEvent :=
  [.invoke (.connect "socket_1" none) {},
    .invoke (.joinCandidate "socket_1" ⟨"exam_1", "cand_1", "invite_1", "PRIMARY_PC"⟩) {},
    .execute 1 (answering (.ok ⟨"exam_1", "cand_1"⟩)), .resume 1 {},
    .invoke (.signal "socket_1" .webrtcOffer offer) {},
    .execute 2 (answering (.error (.prisma .other)))]

/-- The move after these events relays the offer to the room of the proctors. -/
theorem offerEvents_run :
    (gatewayProgram.machine.run gatewayInitial offerEvents).any (fun w =>
      (gatewayProgram.machine.step w (.resume 2 {})).any fun w' =>
        decide ((⟨"socket_1", .room (adminRoom "exam_1"),
          .signal .webrtcOffer offer (some "socket_1")⟩ : Emission) ∈ sentBy w w')) = true := by
  decide +kernel

/-- The exam of the example has an identifier without a colon, so the run meets the assumption
about the server. -/
theorem serverExamIds_offerEvents :
    gatewayProgram.machine.Meets ServerExamIds gatewayInitial offerEvents := by
  refine Machine.meets_of_forall fun e he w => ?_
  simp only [offerEvents, List.mem_cons, List.not_mem_nil, or_false] at he
  have hanswers : ∀ k invite, (∀ i, invite = Except.ok i → ':' ∉ i.examId.toList) →
      ServerExamIds w (.execute k (answering invite)) :=
    fun k invite hinvite => ⟨fun _ _ _ _ hanswer => (by cases hanswer), hinvite⟩
  rcases he with rfl | rfl | rfl | rfl | rfl | rfl
  · trivial
  · trivial
  · refine hanswers _ _ fun invite hinvite => ?_
    cases hinvite
    decide
  · trivial
  · trivial
  · exact hanswers _ _ fun invite hinvite => by cases hinvite

/-- The offer of a candidate's device reaches the proctors of its exam only. Call 2, which
relays it, has checked it. -/
theorem signaling_stays_in_exam_offer :
    ∃ w w' before checked,
      gatewayProgram.machine.run gatewayInitial offerEvents = some w ∧
      gatewayProgram.machine.step w (.resume 2 {}) = some w' ∧
      StaysInExam (offerEvents ++ [.resume 2 {}]) w 2 before checked "socket_1" .webrtcOffer
        offer (adminRoom "exam_1") := by
  obtain ⟨w, hw, hnext⟩ := (Option.any_eq_true _ _).mp offerEvents_run
  obtain ⟨w', hw', hsent⟩ := (Option.any_eq_true _ _).mp hnext
  obtain ⟨before, checked, hstays⟩ := signaling_stays_in_exam offerEvents w (.resume 2 {}) w'
    serverExamIds_offerEvents hw hw' "socket_1" _ _ _ _ (of_decide_eq_true hsent)
  exact ⟨w, w', before, checked, hw, hw', hstays⟩

end Dcvp.Proofs
