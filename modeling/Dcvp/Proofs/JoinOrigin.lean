import Dcvp.Proofs.SignalScope

/-!
# `Dcvp.Proofs.JoinOrigin`: rooms and roles come from the messages of a socket

The gateway puts a socket into a room, or gives it a role, for a join message of this socket
only. So what a page does not ask for, its sockets do not get, whatever all the others do.

* `SocketOrigin`: each room of a socket is one for which it has sent a join message, and it acts
  as a candidate only after a `join-candidate`;
* `RelayTarget`: the room to which a message is relayed depends on the kind of message. Only for
  a network candidate it depends on the role that the socket has at that moment;
* `OriginsHold`: the invariant, with an assertion for each call in flight. `run_origin` has it
  for every run.

A call that waits for its relay was checked when its socket had a role. `RolesStay` says that a
socket with a role keeps one, so the relay does not take a socket without one for a candidate.
-/

set_option autoImplicit false

namespace Dcvp.Proofs

open Dcvp.Lib
open Dcvp.Modules

/-! ### The invariant -/

/-- The socket has sent the message `join-admin`. -/
def AsksAdmin (es : List GatewayEvent) (id : SocketId) (payload : JoinAdminPayload) : Prop :=
  ∃ input, AsyncEvent.invoke (.joinAdmin id payload) input ∈ es

/-- The socket has sent the message `join-candidate`. -/
def AsksCandidate (es : List GatewayEvent) (id : SocketId) (payload : JoinCandidatePayload) :
    Prop :=
  ∃ input, AsyncEvent.invoke (.joinCandidate id payload) input ∈ es

/-- The socket has sent a `join-admin`, and `getLiveProctorState` has let an accepted session
see the exam for this message. -/
structure Authorized (es : List GatewayEvent) (id : SocketId) (payload : JoinAdminPayload) :
    Prop where
  asks : AsksAdmin es id payload
  allowed : ∃ before k input w session,
    gatewayMachine.Makes gatewayInitial es before (.execute k input) w ∧
    w.flights.get? k = some (.waiting (.joinAuthorizes id payload session)) ∧
    input.answer = .ok ()

/-- The room that a `join-candidate` asks for. -/
def askedRoom (payload : JoinCandidatePayload) : String :=
  candidateRoom payload.examId payload.candidateId payload.deviceRole

/-- The socket has sent a `join-candidate`, and the invite of its token is that of the candidate
whom the message names. -/
structure Admitted (es : List GatewayEvent) (id : SocketId) (payload : JoinCandidatePayload) :
    Prop where
  asks : AsksCandidate es id payload
  device : payload.deviceRole ∈ proctorDeviceRoles
  invite : InviteRead es payload.inviteToken ⟨payload.examId, payload.candidateId⟩

/-- A room for which the socket has sent a join message. -/
def RoomOrigin (es : List GatewayEvent) (m : GatewayMemory) (id : SocketId) (room : String) :
    Prop :=
  (∃ payload, Authorized es id payload ∧ room = adminRoom payload.examId ∧
    ToldAdmin m id payload.examId) ∨
  ∃ payload, Admitted es id payload ∧ room = askedRoom payload

/-- The role and the rooms of a socket come from its join messages. -/
structure SocketOrigin (es : List GatewayEvent) (m : GatewayMemory) (id : SocketId)
    (s : ProctorSocket) : Prop where
  admin : s.data.role = some .admin → ∃ payload, Authorized es id payload
  candidate : s.data.role = some .candidate →
    ∃ payload, Admitted es id payload ∧ s.data.deviceRole = some payload.deviceRole
  rooms : ∀ room ∈ s.rooms, RoomOrigin es m id room

/-- The room to which a message is relayed. -/
def RelayTarget (es : List GatewayEvent) (emission : Emission) : Prop :=
  match emission.message with
  | .signal .webrtcOffer payload _ => emission.target = .room (adminRoom payload.examId)
  | .signal .requestOffer payload _ | .signal .webrtcAnswer payload _ => emission.target =
      .room (candidateRoom payload.examId payload.candidateId payload.deviceRole)
  | .signal .iceCandidate payload _ =>
      (emission.target =
          .room (candidateRoom payload.examId payload.candidateId payload.deviceRole) ∧
          ∃ payload', Authorized es emission.sender payload') ∨
        (emission.target = .room (adminRoom payload.examId) ∧
          ∃ payload', Admitted es emission.sender payload')
  | _ => True

/-- The socket has a role. -/
def HasRole (m : GatewayMemory) (id : SocketId) : Prop := (m.dataOf id).role ≠ none

/-- The assertion of a suspended call. -/
def WaitingOrigin (es : List GatewayEvent) (m : GatewayMemory) : GatewayWaiting → Prop
  | .joinAuthenticates id payload _ | .joinAuthorizes id payload _ => AsksAdmin es id payload
  | .joinCandidateReads id payload =>
      AsksCandidate es id payload ∧ payload.deviceRole ∈ proctorDeviceRoles
  | .relayAuthenticates id _ _ _ | .relayReturns id _ _ => HasRole m id
  | _ => True

/-- The assertion of a reply. -/
def ReadyOrigin (es : List GatewayEvent) (m : GatewayMemory) : GatewayReady → Prop
  | .joinAuthenticated id payload _ => AsksAdmin es id payload
  | .joinAuthorized id payload answer => answer = .ok () → Authorized es id payload
  | .candidateInviteRead id payload invite =>
      AsksCandidate es id payload ∧ payload.deviceRole ∈ proctorDeviceRoles ∧
        ∀ read, invite = .ok read → InviteRead es payload.inviteToken read
  | .relayAuthenticated id _ _ _ | .relayReturned id _ _ => HasRole m id
  | _ => True

/-- The assertion of a call in flight. -/
def FlightOrigin (es : List GatewayEvent) (m : GatewayMemory) :
    Flight GatewayWaiting GatewayReady → Prop
  | .waiting pc => WaitingOrigin es m pc
  | .ready reply => ReadyOrigin es m reply

/-- The invariant of the gateway after the events `es`. -/
structure OriginsHold (es : List GatewayEvent) (w : GatewayWorld) : Prop where
  sockets : ∀ id s, w.memory.sockets.get? id = some s → SocketOrigin es w.memory id s
  emissions : ∀ emission ∈ w.memory.emissions, RelayTarget es emission
  flights : ∀ k f, w.flights.get? k = some f → FlightOrigin es w.memory f

/-! ### Longer runs, and roles that stay -/

section
variable {es es' : List GatewayEvent} (hes : es <+: es')

include hes

/-- A message that was sent stays sent. -/
theorem AsksAdmin.mono {id : SocketId} {payload : JoinAdminPayload}
    (h : AsksAdmin es id payload) : AsksAdmin es' id payload := by
  obtain ⟨input, hin⟩ := h
  exact ⟨input, hes.subset hin⟩

/-- So does a message of a candidate. -/
theorem AsksCandidate.mono {id : SocketId} {payload : JoinCandidatePayload}
    (h : AsksCandidate es id payload) : AsksCandidate es' id payload := by
  obtain ⟨input, hin⟩ := h
  exact ⟨input, hes.subset hin⟩

/-- A join that the store has allowed stays allowed, for this message. -/
theorem Authorized.mono {id : SocketId} {payload : JoinAdminPayload}
    (h : Authorized es id payload) : Authorized es' id payload := by
  obtain ⟨before, k, input, w, session, hmakes, hrest⟩ := h.allowed
  exact ⟨h.asks.mono hes, before, k, input, w, session, hmakes.mono hes, hrest⟩

/-- A join that an invite has admitted stays admitted. -/
theorem Admitted.mono {id : SocketId} {payload : JoinCandidatePayload}
    (h : Admitted es id payload) : Admitted es' id payload :=
  ⟨h.asks.mono hes, h.device, h.invite.mono hes⟩

/-- Where the role and the rooms of a socket come from does not change with the events that follow.
-/
theorem SocketOrigin.mono {m : GatewayMemory} {id : SocketId} {s : ProctorSocket}
    (h : SocketOrigin es m id s) : SocketOrigin es' m id s where
  admin hrole := by
    obtain ⟨payload, hauthorized⟩ := h.admin hrole
    exact ⟨payload, hauthorized.mono hes⟩
  candidate hrole := by
    obtain ⟨payload, hadmitted, hdevice⟩ := h.candidate hrole
    exact ⟨payload, hadmitted.mono hes, hdevice⟩
  rooms room hin := by
    rcases h.rooms room hin with ⟨payload, hauthorized, hrest⟩ | ⟨payload, hadmitted, hrest⟩
    · exact Or.inl ⟨payload, hauthorized.mono hes, hrest⟩
    · exact Or.inr ⟨payload, hadmitted.mono hes, hrest⟩

/-- The target of a message is fixed when it is relayed. -/
theorem RelayTarget.mono {emission : Emission} (h : RelayTarget es emission) :
    RelayTarget es' emission := by
  unfold RelayTarget at h ⊢
  split at h
  · exact h
  · exact h
  · exact h
  · rcases h with ⟨hroom, payload', hauthorized⟩ | ⟨hroom, payload', hadmitted⟩
    · exact Or.inl ⟨hroom, payload', hauthorized.mono hes⟩
    · exact Or.inr ⟨hroom, payload', hadmitted.mono hes⟩
  · trivial

end

/-- A socket with a role keeps one. -/
def RolesStay (m m' : GatewayMemory) : Prop := ∀ id, HasRole m id → HasRole m' id

/-- Two changes, by neither of which a socket loses its role. -/
theorem RolesStay.trans {m m' m'' : GatewayMemory} (h : RolesStay m m')
    (h' : RolesStay m' m'') : RolesStay m m'' :=
  fun id hrole => h' id (h id hrole)

/-- A change that leaves the sockets alone. -/
theorem rolesStay_of_sockets {m m' : GatewayMemory} (h : m'.sockets = m.sockets) :
    RolesStay m m' := by
  intro id hrole
  unfold HasRole GatewayMemory.dataOf at hrole ⊢
  rw [h]
  exact hrole

/-- A write to a socket after which it has a role if it had one. -/
theorem rolesStay_updateSocket (m : GatewayMemory) (id : SocketId)
    {f : ProctorSocket → ProctorSocket}
    (hf : ∀ s, s.data.role ≠ none → (f s).data.role ≠ none) :
    RolesStay m (m.updateSocket id f) := by
  intro k hrole
  unfold HasRole GatewayMemory.dataOf at hrole ⊢
  rw [sockets_updateSocket]
  by_cases heq : k = id
  · subst heq
    rw [if_pos rfl]
    cases hs : m.sockets.get? k with
    | none =>
        rw [hs] at hrole
        exact absurd rfl hrole
    | some s =>
        rw [hs] at hrole
        exact hf s hrole
  · rw [if_neg heq]
    exact hrole

/-- A socket that connects is new, so none of those with a role is replaced. -/
theorem rolesStay_connect (m : GatewayMemory) {id : SocketId} (handshakeToken : Option String)
    (hfresh : m.sockets.get? id = none) :
    RolesStay m { m with sockets := m.sockets.set id { handshakeToken } } := by
  intro k hrole
  unfold HasRole GatewayMemory.dataOf at hrole ⊢
  have hne : k ≠ id := by
    rintro rfl
    rw [hfresh] at hrole
    exact hrole rfl
  rw [OrderedMap.get?_set_ne _ _ hne]
  exact hrole

/-- A disconnected socket keeps its data, and the role with them. -/
theorem rolesStay_disconnect (m : GatewayMemory) (id : SocketId) :
    RolesStay m (m.disconnect id) := by
  unfold GatewayMemory.disconnect
  split
  · have hclosed : RolesStay m
        (m.updateSocket id fun s => { s with connected := false, rooms := [] }) :=
      rolesStay_updateSocket m id fun s hs => hs
    exact hclosed.trans (rolesStay_of_sockets rfl)
  · exact fun k hk => hk

/-- Several sockets are disconnected, one after the other. -/
theorem rolesStay_foldl (ids : List SocketId) (m : GatewayMemory) :
    RolesStay m (ids.foldl GatewayMemory.disconnect m) := by
  induction ids generalizing m with
  | nil => exact fun k hk => hk
  | cons id ids ih => exact (rolesStay_disconnect m id).trans (ih (m.disconnect id))

/-- A revocation disconnects sockets. Their data stay. -/
theorem rolesStay_revocation (m : GatewayMemory) (token : String) :
    RolesStay m (afterRevocation m token) := by
  unfold afterRevocation GatewayMemory.disconnectAdminClients
  split
  · exact rolesStay_of_sockets rfl
  · refine RolesStay.trans ?_ (rolesStay_foldl _ _)
    exact rolesStay_of_sockets rfl

/-- A join writes a role, so that no socket that had one is without it afterwards. -/
theorem rolesStay_joined {m m' : GatewayMemory} {id : SocketId}
    {f : ProctorSocket → ProctorSocket} {room : String}
    (hf : ∀ s, (f s).data.role ≠ none)
    (h : m'.sockets = ((m.updateSocket id f).joinRoom id room).sockets) : RolesStay m m' := by
  have hdata : RolesStay m (m.updateSocket id f) := rolesStay_updateSocket m id fun s _ => hf s
  have hroom : RolesStay (m.updateSocket id f) ((m.updateSocket id f).joinRoom id room) := by
    refine rolesStay_updateSocket _ id fun s hs => ?_
    split
    · exact hs
    · exact hs
  exact (hdata.trans hroom).trans (rolesStay_of_sockets h)

/-- The assertion of a call in flight survives the moves of other calls, because events stay in the
run and roles stay with their sockets. -/
theorem FlightOrigin.mono {es es' : List GatewayEvent} {m m' : GatewayMemory}
    (hes : es <+: es') (hroles : RolesStay m m') {f : Flight GatewayWaiting GatewayReady}
    (h : FlightOrigin es m f) : FlightOrigin es' m' f := by
  cases f with
  | waiting pc =>
      cases pc with
      | joinAuthenticates id payload live => exact AsksAdmin.mono hes h
      | joinAuthorizes id payload session => exact AsksAdmin.mono hes h
      | joinCandidateReads id payload => exact ⟨h.1.mono hes, h.2⟩
      | relayAuthenticates id event payload live => exact hroles id h
      | relayReturns id event payload => exact hroles id h
      | _ => trivial
  | ready reply =>
      cases reply with
      | joinAuthenticated id payload session => exact AsksAdmin.mono hes h
      | joinAuthorized id payload answer => exact fun hanswer => (h hanswer).mono hes
      | candidateInviteRead id payload invite =>
          exact ⟨h.1.mono hes, h.2.1, fun read hread => (h.2.2 read hread).mono hes⟩
      | relayAuthenticated id event payload session => exact hroles id h
      | relayReturned id event payload => exact hroles id h
      | _ => trivial

/-- The invariant, over a state that has not changed while the run has grown. -/
theorem OriginsHold.mono {es es' : List GatewayEvent} {w : GatewayWorld} (hes : es <+: es')
    (h : OriginsHold es w) : OriginsHold es' w where
  sockets id s hs := (h.sockets id s hs).mono hes
  emissions emission hin := (h.emissions emission hin).mono hes
  flights k f hf := (h.flights k f hf).mono hes fun _ hid => hid

/-! ### Segments -/

/-- What a segment does for the invariant, when `es` are the events up to its own. -/
structure SegmentOrigin (es : List GatewayEvent) (m : GatewayMemory) (segment : GatewaySegment) :
    Prop where
  sockets : (∀ id s, m.sockets.get? id = some s → SocketOrigin es m id s) →
    ∀ id s, segment.1.sockets.get? id = some s → SocketOrigin es segment.1 id s
  emissions : (∀ emission ∈ m.emissions, RelayTarget es emission) →
    ∀ emission ∈ segment.1.emissions, RelayTarget es emission
  roles : RolesStay m segment.1
  waits : ∀ pc, segment.2 = .suspended pc → WaitingOrigin es segment.1 pc

/-- The origin of a socket that keeps its data, or of one that is disconnected. -/
theorem SocketOrigin.stays {es : List GatewayEvent} {m m' : GatewayMemory} {id : SocketId}
    {s s' : ProctorSocket} (h : SocketOrigin es m id s) (hstays : StaysSocket s s')
    (hemissions : m.emissions ⊆ m'.emissions) : SocketOrigin es m' id s' := by
  have hdata : s'.data = s.data := by
    rcases hstays with rfl | ⟨hdata, -⟩
    · rfl
    · exact hdata
  refine ⟨fun hrole => h.admin (by rw [← hdata]; exact hrole), fun hrole => ?_,
    fun room hin => ?_⟩
  · rw [hdata] at hrole ⊢
    exact h.candidate hrole
  rcases hstays with rfl | ⟨-, -, hrooms⟩
  · rcases h.rooms room hin with ⟨payload, hauthorized, hroom, htold⟩ | hcandidate
    · exact Or.inl ⟨payload, hauthorized, hroom, hemissions htold⟩
    · exact Or.inr hcandidate
  · rw [hrooms] at hin
    cases hin

/-- A message that is no signal has no target to account for. -/
theorem relayTarget_of_plain {es : List GatewayEvent} {emission : Emission}
    (h : IsPlain emission.message) : RelayTarget es emission := by
  unfold RelayTarget
  cases hmessage : emission.message with
  | signal event payload socketId =>
      rw [hmessage] at h
      exact h.elim
  | _ => trivial

/-- A segment without a join and without a relay keeps the origins, if the operation for which it
waits has one. -/
theorem Unjoined.origin {es : List GatewayEvent} {m : GatewayMemory} {segment : GatewaySegment}
    (h : Unjoined m segment.1) (hroles : RolesStay m segment.1)
    (hwaits : ∀ pc, segment.2 = .suspended pc → WaitingOrigin es segment.1 pc) :
    SegmentOrigin es m segment := by
  obtain ⟨new, hnew, hplain⟩ := h.emissions
  refine ⟨fun hsockets id s' hs' => ?_, fun hemissions emission hin => ?_, hroles, hwaits⟩
  · rcases h.sockets id s' hs' with ⟨hdata, hrooms⟩ | ⟨s, hs, hstays⟩
    · refine ⟨fun hrole => ?_, fun hrole => ?_, fun room hin => ?_⟩
      · rw [hdata] at hrole
        cases hrole
      · rw [hdata] at hrole
        cases hrole
      · rw [hrooms] at hin
        cases hin
    · refine (hsockets id s hs).stays hstays ?_
      rw [hnew]
      exact List.subset_append_left _ _
  · rw [hnew] at hin
    rcases List.mem_append.mp hin with hold | hin
    · exact hemissions emission hold
    · exact relayTarget_of_plain (hplain emission hin)

/-- A segment that changes nothing. -/
theorem still_origin {es : List GatewayEvent} {m : GatewayMemory}
    {o : Outcome GatewayWaiting GatewayResult}
    (h : ∀ pc, o = .suspended pc → WaitingOrigin es m pc) : SegmentOrigin es m (m, o) :=
  (Unjoined.refl m).origin (fun _ hid => hid) h

/-- The origins after a join: the one of the socket is new, the others stay. -/
theorem origin_joined {es : List GatewayEvent} {m m' : GatewayMemory} {id : SocketId}
    {f : ProctorSocket → ProctorSocket} {room : String}
    (hsockets : ∀ k, m'.sockets.get? k = if k = id then
      (m.sockets.get? id).map fun s => entered room (f s) else m.sockets.get? k)
    (hemissions : m.emissions ⊆ m'.emissions)
    (hadmin : ∀ s, (f s).data.role = some .admin → ∃ payload, Authorized es id payload)
    (hrole : ∀ s, (f s).data.role = some .candidate →
      ∃ payload, Admitted es id payload ∧ (f s).data.deviceRole = some payload.deviceRole)
    (hrooms : ∀ s, (f s).rooms = s.rooms) (hroom : RoomOrigin es m' id room)
    (hold : ∀ k s, m.sockets.get? k = some s → SocketOrigin es m k s) :
    ∀ k s, m'.sockets.get? k = some s → SocketOrigin es m' k s := by
  -- The socket of the join has a new origin for its data and for the new room; its other rooms, and
  -- all other sockets, keep theirs.
  intro k s hs
  rw [hsockets] at hs
  split at hs
  · rename_i heq
    subst heq
    obtain ⟨s₀, hs₀, rfl⟩ := Option.map_eq_some_iff.mp hs
    obtain ⟨hdata, -⟩ := entered_same room (f s₀)
    refine ⟨fun hrole' => ?_, fun hcandidate => ?_, fun r hin => ?_⟩
    · rw [hdata] at hrole'
      exact hadmin s₀ hrole'
    · rw [hdata] at hcandidate ⊢
      exact hrole s₀ hcandidate
    · rcases mem_of_entered hin with hin | rfl
      · rw [hrooms] at hin
        have hstays := (hold k s₀ hs₀).stays (Or.inl rfl) hemissions
        exact hstays.rooms r hin
      · exact hroom
  · exact (hold k s hs).stays (Or.inl rfl) hemissions

/-- A completed `join-admin` of an authorized session. The acknowledgement is what the page of the
proctor sees of the join. -/
theorem registerAdmin_origin {es : List GatewayEvent} (m : GatewayMemory) {id : SocketId}
    {payload : JoinAdminPayload} (hauthorized : Authorized es id payload) (result : GatewayResult) :
    SegmentOrigin es m (m.registerAdmin id payload, .finished result) := by
  obtain ⟨hsockets, -, hemissions⟩ := registerAdmin_writes m id payload
  have hsub : m.emissions ⊆ (m.registerAdmin id payload).emissions := by
    rw [hemissions]
    exact List.subset_append_left _ _
  -- The acknowledgement is what the page of the proctor sees of the join.
  have htold : ToldAdmin (m.registerAdmin id payload) id payload.examId := by
    unfold ToldAdmin
    rw [hemissions]
    simp
  have hget : ∀ k, (m.registerAdmin id payload).sockets.get? k = if k = id then
      (m.sockets.get? id).map fun s => entered (adminRoom payload.examId)
        (adminData payload (m.extractAdminToken id payload) s)
      else m.sockets.get? k := by
    intro k
    rw [hsockets]
    exact sockets_joined m id k _ _
  refine ⟨origin_joined hget hsub (fun s _ => ⟨payload, hauthorized⟩) (fun s hrole => ?_)
    (fun s => rfl) (Or.inl ⟨payload, hauthorized, rfl, htold⟩), fun hold emission hin => ?_,
    rolesStay_joined (fun s => ?_) hsockets, fun pc hpc => by cases hpc⟩
  · cases hrole
  · replace hin : emission ∈ (m.registerAdmin id payload).emissions := hin
    rw [hemissions, List.mem_append, List.mem_singleton] at hin
    rcases hin with hin | rfl
    · exact hold emission hin
    · trivial
  · exact Option.some_ne_none _

/-- A completed `join-candidate`, or one that is refused because the invite is another one. A
completed one was admitted with the invite of its token. -/
theorem joinCandidateAfterRead_origin {es : List GatewayEvent} (m : GatewayMemory)
    {id : SocketId} {payload : JoinCandidatePayload} (hasks : AsksCandidate es id payload)
    (hdevice : payload.deviceRole ∈ proctorDeviceRoles) {invite : CandidateInvite}
    (hinvite : InviteRead es payload.inviteToken invite) :
    SegmentOrigin es m (m.joinCandidateAfterRead id payload invite) := by
  unfold GatewayMemory.joinCandidateAfterRead
  split
  · have hplain : IsPlain (.proctorError "Candidate invite does not match proctor join payload.") :=
      trivial
    exact (unjoined_emit m ⟨id, .client id, _⟩ hplain).origin (rolesStay_of_sockets rfl)
      fun pc hpc => by cases hpc
  · rename_i hmatches
    obtain ⟨hexam, hcandidate⟩ := not_or.mp hmatches
    have hadmitted : Admitted es id payload := by
      refine ⟨hasks, hdevice, ?_⟩
      rw [← not_not.mp hexam, ← not_not.mp hcandidate]
      exact hinvite
    set n := (m.updateSocket id (candidateData payload)).joinRoom id
      (askedRoom payload) with hn
    have hemissions : n.emissions = m.emissions := by
      rw [hn]
      exact (emissions_updateSocket _ id _).trans (emissions_updateSocket m id _)
    have hsub : m.emissions ⊆ ((n.emitToRoom id (adminRoom payload.examId)
        (.deviceJoined id payload.candidateId payload.deviceRole)).emitToClient id
        (.joinedCandidate payload.examId payload.candidateId payload.deviceRole)).emissions := by
      intro emission hin
      rw [← hemissions] at hin
      exact List.mem_append_left _ (List.mem_append_left _ hin)
    refine ⟨origin_joined (fun k => sockets_joined m id k _ (askedRoom payload))
      hsub (fun s hrole => by cases hrole) (fun s _ => ⟨payload, hadmitted, rfl⟩) (fun s => rfl)
      (Or.inr ⟨payload, hadmitted, rfl⟩), fun hold emission hin => ?_, ?_,
      fun pc hpc => by cases hpc⟩
    · -- Both new messages tell of the join.
      rcases List.mem_append.mp hin with hin | hin
      · rcases List.mem_append.mp hin with hin | hin
        · replace hin : emission ∈ n.emissions := hin
          rw [hemissions] at hin
          exact hold emission hin
        · rw [List.mem_singleton.mp hin]
          trivial
      · rw [List.mem_singleton.mp hin]
        trivial
    · have hrole : ∀ s, (candidateData payload s).data.role ≠ none :=
        fun s => Option.some_ne_none _
      exact @rolesStay_joined m _ id _ (askedRoom payload) hrole rfl

/-- A message is relayed by a socket with a role. Only an ICE candidate goes to a room that depends
on the sender's role. -/
theorem relay_origin {es : List GatewayEvent} (m : GatewayMemory) {id : SocketId}
    (hrole : HasRole m id)
    (hauthorized : (m.dataOf id).role = some .admin → ∃ payload, Authorized es id payload)
    (hadmitted : (m.dataOf id).role = some .candidate → ∃ payload, Admitted es id payload)
    (event : SignalEvent) (payload : SignalPayload) :
    SegmentOrigin es m (m.relay id event payload) := by
  set emission : Emission := ⟨id, .room (m.relayRoom id event payload),
    .signal event payload (if event = .webrtcOffer then some id else none)⟩ with hemission
  -- Only an ICE candidate goes to a room that depends on the sender's role.
  have htarget : RelayTarget es emission := by
    cases event with
    | requestOffer => exact rfl
    | webrtcOffer => exact rfl
    | webrtcAnswer => exact rfl
    | iceCandidate =>
        show (EmissionTarget.room (if (m.dataOf id).role = some .admin then _ else _) = _ ∧ _) ∨
          (EmissionTarget.room (if (m.dataOf id).role = some .admin then _ else _) = _ ∧ _)
        by_cases hadmin : (m.dataOf id).role = some .admin
        · exact Or.inl ⟨by rw [if_pos hadmin], hauthorized hadmin⟩
        · refine Or.inr ⟨by rw [if_neg hadmin], hadmitted ?_⟩
          cases h : (m.dataOf id).role with
          | none => exact absurd h hrole
          | some role =>
              cases role with
              | admin => exact absurd h hadmin
              | candidate => rfl
  refine ⟨fun hold k s hs => ?_, fun hold e hin => ?_, rolesStay_of_sockets rfl,
    fun pc hpc => by cases hpc⟩
  · exact (hold k s hs).stays (Or.inl rfl) (List.subset_append_left _ _)
  · rcases List.mem_append.mp hin with hin | hin
    · exact hold e hin
    · rw [List.mem_singleton.mp hin]
      exact htarget

/-- The role of a proctor comes from a join. -/
theorem authorized_of_role {es : List GatewayEvent} {m : GatewayMemory}
    (hsockets : ∀ id s, m.sockets.get? id = some s → SocketOrigin es m id s) {id : SocketId}
    (hrole : (m.dataOf id).role = some .admin) : ∃ payload, Authorized es id payload := by
  unfold GatewayMemory.dataOf at hrole
  cases hs : m.sockets.get? id with
  | none =>
      rw [hs] at hrole
      cases hrole
  | some s =>
      rw [hs] at hrole
      exact (hsockets id s hs).admin hrole

/-- The role of a candidate comes from a join. -/
theorem admitted_of_role {es : List GatewayEvent} {m : GatewayMemory}
    (hsockets : ∀ id s, m.sockets.get? id = some s → SocketOrigin es m id s) {id : SocketId}
    (hrole : (m.dataOf id).role = some .candidate) :
    ∃ payload, Admitted es id payload ∧
      (m.dataOf id).deviceRole = some payload.deviceRole := by
  unfold GatewayMemory.dataOf at hrole ⊢
  cases hs : m.sockets.get? id with
  | none =>
      rw [hs] at hrole
      cases hrole
  | some s =>
      rw [hs] at hrole
      exact (hsockets id s hs).candidate hrole

/-- The check of a message changes no socket. Where it goes on, the socket has a role, because each
branch that goes on has asked for one. -/
theorem assertCanRelay_origin {es : List GatewayEvent} (m : GatewayMemory) (id : SocketId)
    (event : SignalEvent) (payload : SignalPayload) :
    SegmentOrigin es m (m.assertCanRelay id event payload) := by
  unfold GatewayMemory.assertCanRelay
  simp only []
  split
  · rename_i hadmin
    refine still_origin fun pc hpc => ?_
    cases hpc
    show HasRole m id
    rw [HasRole, hadmin.1]
    exact Option.some_ne_none _
  · split
    · rename_i hcandidate
      refine still_origin fun pc hpc => ?_
      cases hpc
      show HasRole m id
      rw [HasRole, hcandidate.1]
      exact Option.some_ne_none _
    · have hplain : IsPlain
          (.proctorError "Proctor signaling is outside the joined room scope.") := trivial
      exact (unjoined_emit m ⟨id, .client id, _⟩ hplain).origin (rolesStay_of_sockets rfl)
        fun pc hpc => by cases hpc

/-! ### Every move keeps the origins -/

/-- The first segment of a call keeps the origins: the two joins hand their message to the
operation for which they wait. -/
theorem start_origin {es : List GatewayEvent} {m : GatewayMemory} {call : GatewayCall}
    {input : GatewayInput} {segment : GatewaySegment} (hin : .invoke call input ∈ es)
    (h : m.start call input = some segment) : SegmentOrigin es m segment := by
  cases call with
  | connect id handshakeToken =>
      simp only [GatewayMemory.start] at h
      split at h
      · cases h
      · rename_i hfresh
        cases h
        exact (unjoined_connect m id handshakeToken).origin
          (rolesStay_connect m handshakeToken hfresh) fun pc hpc => by cases hpc
  -- The two joins hand their message to the operation for which they wait.
  | joinAdmin id payload =>
      obtain ⟨-, heq⟩ := Option.ite_none_right_eq_some.mp h
      cases heq
      exact still_origin fun pc hpc => by cases hpc; exact ⟨input, hin⟩
  | joinCandidate id payload =>
      obtain ⟨-, heq⟩ := Option.ite_none_right_eq_some.mp h
      cases heq
      unfold GatewayMemory.joinCandidate
      split
      · rename_i hdevice
        exact still_origin fun pc hpc => by cases hpc; exact ⟨⟨input, hin⟩, hdevice⟩
      · have hplain : IsPlain (.proctorError "Invalid proctor device role.") := trivial
        exact (unjoined_emit m ⟨id, .client id, _⟩ hplain).origin (rolesStay_of_sockets rfl)
          fun pc hpc => by cases hpc
  | signal id event payload =>
      obtain ⟨-, heq⟩ := Option.ite_none_right_eq_some.mp h
      cases heq
      exact assertCanRelay_origin m id event payload
  | close id =>
      obtain ⟨-, heq⟩ := Option.ite_none_right_eq_some.mp h
      cases heq
      exact (unjoined_disconnect m id).origin (rolesStay_disconnect m id)
        fun pc hpc => by cases hpc
  | disconnected id =>
      obtain ⟨-, heq⟩ := Option.ite_none_right_eq_some.mp h
      cases heq
      have hroles : RolesStay m (m.handleDisconnect id).1 := by
        rw [fst_handleDisconnect]
        exact rolesStay_of_sockets
          (rest_untrack { m with closing := m.closing.erase id } id).1
      refine (unjoined_handleDisconnect m id).origin hroles fun pc hpc => ?_
      unfold GatewayMemory.handleDisconnect at hpc
      simp only [] at hpc
      split at hpc
      · cases hpc
      · cases hpc
        trivial
  | sessionRevoked token =>
      obtain ⟨-, heq⟩ := Option.ite_none_left_eq_some.mp h
      cases heq
      exact (unjoined_revocation m token).origin (rolesStay_revocation m token)
        fun pc hpc => by cases hpc

/-- A refusal sends at most an error to the socket that asked, and no role changes. -/
theorem refuse_origin {es : List GatewayEvent} (m : GatewayMemory) (id : SocketId)
    (error : ServiceException) : SegmentOrigin es m (m.refuse id error) := by
  have hroles : RolesStay m (m.refuse id error).1 := by
    unfold GatewayMemory.refuse
    split <;> exact rolesStay_of_sockets rfl
  refine (unjoined_refuse m id error).origin hroles fun pc hpc => ?_
  unfold GatewayMemory.refuse at hpc
  split at hpc <;> cases hpc

/-- The next segment of a call keeps the origins: a refused or failed call changes no socket, and a
relay goes by the role that its socket has now. -/
theorem resume_origin {es : List GatewayEvent} {m : GatewayMemory} {reply : GatewayReady}
    {input : GatewayInput} {segment : GatewaySegment}
    (hsockets : ∀ id s, m.sockets.get? id = some s → SocketOrigin es m id s)
    (hreply : ReadyOrigin es m reply) (h : m.resume reply input = some segment) :
    SegmentOrigin es m segment := by
  have hadmitted {id : SocketId} (hrole : (m.dataOf id).role = some .candidate) :
      ∃ payload, Admitted es id payload := by
    obtain ⟨payload, hadmitted, -⟩ := admitted_of_role hsockets hrole
    exact ⟨payload, hadmitted⟩
  -- A refused or failed call changes no socket; the two joins have their own lemmas, and a relay
  -- goes by the role that its socket has now.
  cases reply with
  | joinAuthenticated id payload session =>
      cases session with
      | ok session =>
          cases h
          exact still_origin fun pc hpc => by cases hpc; exact hreply
      | error error =>
          cases h
          exact refuse_origin m id error
  | joinAuthorized id payload answer =>
      cases answer with
      | ok answer =>
          cases h
          exact registerAdmin_origin m (hreply rfl) _
      | error error =>
          cases h
          exact still_origin fun pc hpc => by cases hpc
  | candidateInviteRead id payload invite =>
      cases invite with
      | ok invite =>
          cases h
          exact joinCandidateAfterRead_origin m hreply.1 hreply.2.1 (hreply.2.2 invite rfl)
      | error error =>
          cases h
          exact still_origin fun pc hpc => by cases hpc
  | relayAuthenticated id event payload session =>
      cases session with
      | ok session =>
          cases h
          exact relay_origin m hreply (authorized_of_role hsockets) hadmitted event payload
      | error error =>
          cases h
          exact refuse_origin m id error
  | relayReturned id event payload =>
      cases h
      exact relay_origin m hreply (authorized_of_role hsockets) hadmitted event payload
  | deviceUpserted id answer =>
      cases answer with
      | ok answer =>
          cases h
          exact still_origin fun pc hpc => by cases hpc; trivial
      | error error =>
          cases h
          exact still_origin fun pc hpc => by cases hpc
  | eventLogged id answer =>
      cases answer with
      | ok answer =>
          cases h
          exact (unjoined_emit m ⟨id, .room _, .deviceLeft _ _⟩ trivial).origin
            (rolesStay_of_sockets rfl) fun pc hpc => by cases hpc
      | error error =>
          cases h
          exact still_origin fun pc hpc => by cases hpc

/-- An answer of the services keeps what is known of the call. -/
theorem execute_origin {es : List GatewayEvent} {w : GatewayWorld} {k : Nat}
    {pc : GatewayWaiting} {input : GatewayInput} {records : GatewayRecords}
    {reply : GatewayReady} (hrun : gatewayMachine.run gatewayInitial es = some w)
    (hflight : w.flights.get? k = some (.waiting pc))
    (hpc : WaitingOrigin (es ++ [.execute k input]) w.memory pc)
    (h : gatewayExecute pc input w.database = some (records, reply)) :
    ReadyOrigin (es ++ [.execute k input]) w.memory reply := by
  -- Two answers are new knowledge, which this event itself is the witness of: the access of an
  -- operator and the invite of a candidate.
  cases pc with
  | joinAuthenticates id payload live =>
      obtain ⟨-, heq⟩ := Option.ite_none_right_eq_some.mp h
      cases heq
      exact hpc
  | relayAuthenticates id event payload live =>
      obtain ⟨-, heq⟩ := Option.ite_none_right_eq_some.mp h
      cases heq
      exact hpc
  | joinAuthorizes id payload session =>
      cases h
      intro hanswer
      exact ⟨hpc, es, k, input, w, session, Machine.makes_concat hrun _, hflight, hanswer⟩
  | joinCandidateReads id payload =>
      cases h
      refine ⟨hpc.1, hpc.2, fun read hread => ?_⟩
      exact ⟨es, k, input, w, id, payload, Machine.makes_concat hrun _, hflight, rfl, hread⟩
  | relayReturns id event payload => cases h; exact hpc
  | disconnectUpserts id inviteToken deviceRole => cases h; trivial
  | disconnectLogs id inviteToken eventType => cases h; trivial

/-- A segment of a call whose effects have their origin in the events keeps the invariant of the
gateway. -/
theorem originsHold_conclude {es : List GatewayEvent} {w : GatewayWorld} {k : Nat}
    {m : GatewayMemory} {o : Outcome GatewayWaiting GatewayResult} (hw : OriginsHold es w)
    (h : SegmentOrigin es w.memory (m, o)) : OriginsHold es (w.conclude k m o) where
  sockets id s hs := by
    rw [World.conclude_memory] at hs ⊢
    exact h.sockets hw.sockets id s hs
  emissions emission hin := by
    rw [World.conclude_memory] at hin
    exact h.emissions hw.emissions emission hin
  flights j f hf := by
    rw [World.conclude_memory]
    rcases World.conclude_flights w k j m o f hf with ⟨pc, hpc, rfl⟩ | hold
    · exact h.waits pc hpc
    · exact (hw.flights j f hold).mono List.prefix_rfl h.roles

/-- One move keeps the origins, with the events so far and this one. One case for each of the three
moves of a call. -/
theorem step_origin (es : List GatewayEvent) (w : GatewayWorld) (e : GatewayEvent)
    (w' : GatewayWorld) (hrun : gatewayMachine.run gatewayInitial es = some w)
    (hw : OriginsHold es w) (h : gatewayMachine.step w e = some w') :
    OriginsHold (es ++ [e]) w' := by
  have hw₁ : OriginsHold (es ++ [e]) w := hw.mono (List.prefix_append es [e])
  have hin : e ∈ es ++ [e] := List.mem_append_right _ (List.mem_singleton.mpr rfl)
  rcases AsyncProgram.step_cases h with
    ⟨call, input, m, o, rfl, hstart, rfl⟩ | ⟨k, input, pc, d, reply, rfl, hflight, hexec, rfl⟩ |
    ⟨k, input, reply, m, o, rfl, hflight, hresume, rfl⟩
  · have hnext : OriginsHold (es ++ [.invoke call input]) { w with nextCall := w.nextCall + 1 } :=
      ⟨hw₁.sockets, hw₁.emissions, hw₁.flights⟩
    replace hstart : w.memory.start call input = some (m, o) := hstart
    exact originsHold_conclude hnext (start_origin hin hstart)
  · refine ⟨hw₁.sockets, hw₁.emissions, fun j f hf => ?_⟩
    replace hf : (w.flights.set k (.ready reply)).get? j = some f := hf
    rw [OrderedMap.get?_set] at hf
    split at hf
    · cases hf
      have hready := execute_origin hrun hflight (hw₁.flights k _ hflight) hexec
      exact hready
    · exact hw₁.flights j f hf
  · replace hresume : w.memory.resume reply input = some (m, o) := hresume
    exact originsHold_conclude hw₁
      (resume_origin hw₁.sockets (hw₁.flights k _ hflight) hresume)

/-- Before the first event there are no sockets, no messages and no calls. -/
theorem originsHold_initial : OriginsHold [] gatewayInitial where
  sockets id s hs := by cases hs
  emissions emission hin := by cases hin
  flights k f hf := by simp [gatewayInitial] at hf

/-- The origins hold after every run. -/
theorem run_origin (es : List GatewayEvent) (w : GatewayWorld)
    (h : gatewayMachine.run gatewayInitial es = some w) : OriginsHold es w :=
  Machine.guarded_history_invariant originsHold_initial
    (fun es w e w' hrun hw _ hstep => step_origin es w e w' hrun hw hstep) es w
    (Machine.meets_of_forall fun _ _ _ => trivial) h

/-- The exam of an invite that was read is one of the server. -/
theorem InviteRead.plain {es : List GatewayEvent}
    (hids : gatewayMachine.Meets ServerExamIds gatewayInitial es) {inviteToken : String}
    {invite : CandidateInvite} (h : InviteRead es inviteToken invite) :
    ':' ∉ invite.examId.toList := by
  obtain ⟨before, k, input, w, id, payload, hmakes, -, -, hinvite⟩ := h
  obtain ⟨rest, rfl⟩ := hmakes.within
  rw [List.append_assoc] at hids
  have hanswer : ServerExamIds w (.execute k input) := Machine.Meets.at hids hmakes.reaches
  exact hanswer.2 invite hinvite

end Dcvp.Proofs
