import Dcvp.Proofs.ProctorRooms

/-!
# `Dcvp.Proofs.RoomMembership`: the proctors' rooms over all interleavings

The runs of `gatewayProgram`. A `join-admin` that is on its way has a token (`HasToken`), which
it computes again when it registers the socket. The token of the handshake never changes, so
this stays true while the handler waits.

`TokensHold` is the condition on a move: a join that registers holds, and a revocation
reaches the sockets that it concerns. `rooms_valid_iff` says that all rooms are valid in
every state of a run if and only if each move meets the condition.
-/

set_option autoImplicit false

namespace Dcvp.Proofs

open Dcvp.Lib
open Dcvp.Modules
open Dcvp.Shared (AuthSession)

/-! ### Handshakes -/

/-- The sockets are still there, with the tokens of their handshakes. -/
def SameHandshakes (m m' : GatewayMemory) : Prop :=
  ∀ id s, m.sockets.get? id = some s →
    ∃ s', m'.sockets.get? id = some s' ∧ s'.handshakeToken = s.handshakeToken

/-- A change that leaves the sockets alone. -/
theorem sameHandshakes_of_sockets {m m' : GatewayMemory} (h : m'.sockets = m.sockets) :
    SameHandshakes m m' := fun id s hs => ⟨s, by rw [h]; exact hs, rfl⟩

/-- Two changes, each of which leaves the handshakes. -/
theorem SameHandshakes.trans {m m' m'' : GatewayMemory} (h : SameHandshakes m m')
    (h' : SameHandshakes m' m'') : SameHandshakes m m'' := by
  intro id s hs
  obtain ⟨s', hs', hsame⟩ := h id s hs
  obtain ⟨s'', hs'', hsame'⟩ := h' id s' hs'
  exact ⟨s'', hs'', hsame'.trans hsame⟩

/-- A change of one socket that leaves the token of its handshake. -/
theorem sameHandshakes_updateSocket (m : GatewayMemory) (id : SocketId)
    {f : ProctorSocket → ProctorSocket} (hf : ∀ s, (f s).handshakeToken = s.handshakeToken) :
    SameHandshakes m (m.updateSocket id f) := by
  intro k s hs
  rw [sockets_updateSocket]
  by_cases hk : k = id
  · subst hk
    rw [if_pos rfl, hs]
    exact ⟨f s, rfl, hf s⟩
  · rw [if_neg hk]
    exact ⟨s, hs, rfl⟩

/-- A disconnected socket keeps its handshake. -/
theorem sameHandshakes_disconnect (m : GatewayMemory) (id : SocketId) :
    SameHandshakes m (m.disconnect id) := by
  unfold GatewayMemory.disconnect
  split
  · exact sameHandshakes_updateSocket m id fun _ => rfl
  · exact sameHandshakes_of_sockets rfl

/-- So do several, one after the other. -/
theorem sameHandshakes_foldl (ids : List SocketId) (m : GatewayMemory) :
    SameHandshakes m (ids.foldl GatewayMemory.disconnect m) := by
  induction ids generalizing m with
  | nil => exact sameHandshakes_of_sockets rfl
  | cons id ids ih => exact (sameHandshakes_disconnect m id).trans (ih (m.disconnect id))

/-- To join a room leaves the handshakes. -/
theorem sameHandshakes_joinRoom (m : GatewayMemory) (id : SocketId) (room : String) :
    SameHandshakes m (m.joinRoom id room) :=
  sameHandshakes_updateSocket m id fun s => by
    split <;> rfl

/-- The token of a join that is on its way stays. -/
theorem HasToken.mono {m m' : GatewayMemory} {id : SocketId} {payload : JoinAdminPayload}
    {token : String} (h : HasToken m id payload token) (hsame : SameHandshakes m m') :
    HasToken m' id payload token := by
  obtain ⟨hknown, htoken, hne⟩ := h
  obtain ⟨s, hs⟩ := Option.ne_none_iff_exists'.mp hknown
  obtain ⟨s', hs', hhandshake⟩ := hsame id s hs
  refine ⟨by rw [hs']; simp, ?_, hne⟩
  rw [← htoken]
  unfold GatewayMemory.extractAdminToken
  rw [hs, hs']
  simp [hhandshake]

/-! ### The proof outline -/

/-- The assertion of a suspended call. -/
def GatewayWaitingFits (m : GatewayMemory) : GatewayWaiting → Prop
  | .joinAuthenticates id payload live => live = true → ∃ token, HasToken m id payload token
  | .joinAuthorizes id payload _ => ∃ token, HasToken m id payload token
  | .joinCandidateReads _ payload => payload.deviceRole ∈ proctorDeviceRoles
  | _ => True

/-- The assertion of a reply. -/
def GatewayReadyFits (m : GatewayMemory) : GatewayReady → Prop
  | .joinAuthenticated id payload (.ok _) => ∃ token, HasToken m id payload token
  | .joinAuthorized id payload _ => ∃ token, HasToken m id payload token
  | .candidateInviteRead _ payload _ => payload.deviceRole ∈ proctorDeviceRoles
  | _ => True

/-- The proof outline of the gateway. -/
def roomOutline : Outline GatewayMemory GatewayRecords GatewayWaiting GatewayReady where
  Inv m _ := Tracked m
  Waits pc m _ := GatewayWaitingFits m pc
  Holds reply m _ := GatewayReadyFits m reply

/-- What a segment has to do for the outline. -/
structure SegmentFits (m : GatewayMemory) (segment : GatewaySegment) : Prop where
  tracked : Tracked m → Tracked segment.1
  handshakes : SameHandshakes m segment.1
  waits : ∀ pc, segment.2 = .suspended pc → GatewayWaitingFits segment.1 pc

/-- A segment that leaves the rooms and the sockets as they are. -/
structure Quietly (m : GatewayMemory) (segment : GatewaySegment) : Prop where
  keeps : Keeps m segment.1
  handshakes : SameHandshakes m segment.1
  waits : ∀ pc, segment.2 = .suspended pc → GatewayWaitingFits segment.1 pc

/-- A segment that leaves the rooms and the sockets does what the outline asks for. -/
theorem Quietly.fits {m : GatewayMemory} {segment : GatewaySegment} (h : Quietly m segment) :
    SegmentFits m segment := ⟨h.keeps.tracked, h.handshakes, h.waits⟩

/-- A segment that changes nothing and waits. -/
theorem quietly_suspended {m : GatewayMemory} {pc : GatewayWaiting}
    (h : GatewayWaitingFits m pc) : Quietly m (m, .suspended pc) :=
  ⟨Keeps.refl m, sameHandshakes_of_sockets rfl, fun pc' hpc => by cases hpc; exact h⟩

/-- A segment that at most sends messages, and ends its call. -/
theorem quietly_finished (m : GatewayMemory) (emissions : List Emission)
    (result : GatewayResult) : Quietly m ({ m with emissions }, .finished result) :=
  ⟨keeps_emissions m emissions, sameHandshakes_of_sockets rfl, fun pc hpc => by cases hpc⟩

/-- A refusal sends an error and ends the call. -/
theorem quietly_refuse (m : GatewayMemory) (id : SocketId) (error : ServiceException) :
    Quietly m (m.refuse id error) := by
  unfold GatewayMemory.refuse
  split
  · exact quietly_finished m _ _
  · exact quietly_finished m m.emissions _

/-! ### The segments -/

section
variable (m : GatewayMemory)

/-- The first segment of `join-admin` computes the token and waits for its session. The socket is
connected, so it is there to be asked for its handshake. -/
theorem quietly_joinAdmin {id : SocketId} (payload : JoinAdminPayload)
    (hid : m.isConnected id = true) : Quietly m (m.joinAdmin id payload) := by
  refine quietly_suspended fun hlive => ?_
  unfold GatewayMemory.tokenLive at hlive
  cases htoken : Js.truthy (m.extractAdminToken id payload) with
  | none =>
      rw [htoken] at hlive
      cases hlive
  | some token =>
      obtain ⟨hextract, hne⟩ := truthy_eq_some.mp htoken
      exact ⟨token, known_of_isConnected hid, hextract, hne⟩

/-- The first segment of `join-candidate` checks the role of the device and waits for the invite.
-/
theorem quietly_joinCandidate (id : SocketId) (payload : JoinCandidatePayload) :
    Quietly m (m.joinCandidate id payload) := by
  unfold GatewayMemory.joinCandidate
  split
  · rename_i hrole
    exact quietly_suspended hrole
  · exact quietly_finished m _ _

/-- A candidate's join touches no proctors' room: the room that it joins has a name of another
form. -/
theorem quietly_joinCandidateAfterRead (id : SocketId) {payload : JoinCandidatePayload}
    (invite : CandidateInvite) (hrole : payload.deviceRole ∈ proctorDeviceRoles) :
    Quietly m (m.joinCandidateAfterRead id payload invite) := by
  unfold GatewayMemory.joinCandidateAfterRead
  split
  · exact quietly_finished m _ _
  · set room := candidateRoom payload.examId payload.candidateId payload.deviceRole with hroom
    set f : ProctorSocket → ProctorSocket := fun s =>
      { s with data := { s.data with
          role := some .candidate, examId := some payload.examId,
          candidateId := some payload.candidateId, inviteToken := some payload.inviteToken,
          deviceRole := some payload.deviceRole } } with hf
    have hdata : Keeps m (m.updateSocket id f) :=
      keeps_updateSocket m id (fun _ => rfl) (fun _ => rfl) fun _ _ => Iff.rfl
    -- The joined room is one of a candidate, and no proctors' room has such a name.
    have hjoin : Keeps (m.updateSocket id f) ((m.updateSocket id f).joinRoom id room) := by
      refine keeps_updateSocket _ id (fun s => ?_) (fun s => ?_) fun s e => ?_
      · split <;> rfl
      · split <;> rfl
      · split
        · simp [hroom, Ne.symm (candidateRoom_ne_adminRoom e hrole)]
        · rfl
    refine ⟨(hdata.trans hjoin).trans ((keeps_emissions _ _).trans (keeps_emissions _ _)), ?_,
      fun pc hpc => by cases hpc⟩
    have hsockets : SameHandshakes m ((m.updateSocket id f).joinRoom id room) :=
      (sameHandshakes_updateSocket m id (f := f) fun _ => rfl).trans
        (sameHandshakes_joinRoom _ id room)
    refine hsockets.trans (sameHandshakes_of_sockets ?_)
    rfl

/-- The check of a message reads the data of its socket. -/
theorem quietly_assertCanRelay (id : SocketId) (event : SignalEvent) (payload : SignalPayload) :
    Quietly m (m.assertCanRelay id event payload) := by
  unfold GatewayMemory.assertCanRelay
  simp only []
  split
  · exact quietly_suspended trivial
  · split
    · exact quietly_suspended trivial
    · exact quietly_finished m _ _

/-- `handleDisconnect` of a socket that is closing fits the outline of the segments of the gateway.
-/
theorem fits_handleDisconnect {id : SocketId} (hid : id ∈ m.closing) :
    SegmentFits m (m.handleDisconnect id) := by
  have hsockets : SameHandshakes m
      ({ m with closing := m.closing.erase id }.untrackAdminClient id) :=
    sameHandshakes_of_sockets (rest_untrack { m with closing := m.closing.erase id } id).1
  unfold GatewayMemory.handleDisconnect
  simp only []
  split
  · exact ⟨fun hm => tracked_handleDisconnect hm hid, hsockets, fun pc hpc => by cases hpc⟩
  · exact ⟨fun hm => tracked_handleDisconnect hm hid, hsockets,
      fun pc hpc => by cases hpc; trivial⟩

/-- What the handler of a disconnect does to the memory before it waits: the socket is no longer
closing, and it is taken out of the registration. -/
theorem fst_handleDisconnect (id : SocketId) : (m.handleDisconnect id).1
    = { m with closing := m.closing.erase id }.untrackAdminClient id := by
  unfold GatewayMemory.handleDisconnect
  simp only []
  split <;> rfl

/-- A new connection fits the outline: its socket is the only one whose handshake is new. -/
theorem fits_connect {id : SocketId} (handshakeToken : Option String)
    (hfresh : m.sockets.get? id = none) (result : GatewayResult) :
    SegmentFits m ({ m with sockets := m.sockets.set id { handshakeToken } },
      .finished result) where
  tracked hm := tracked_connect handshakeToken hfresh hm
  handshakes k s hs := by
    have hne : k ≠ id := by
      rintro rfl
      rw [hfresh] at hs
      cases hs
    refine ⟨s, ?_, rfl⟩
    show (m.sockets.set id { handshakeToken }).get? k = some s
    rw [OrderedMap.get?_set, if_neg hne]
    exact hs
  waits pc hpc := by cases hpc

/-- A revocation disconnects sockets and leaves their handshakes. -/
theorem sameHandshakes_revocation (token : String) :
    SameHandshakes m (afterRevocation m token) := by
  unfold afterRevocation GatewayMemory.disconnectAdminClients
  split
  · exact sameHandshakes_of_sockets rfl
  · refine SameHandshakes.trans ?_ (sameHandshakes_foldl _ _)
    exact sameHandshakes_of_sockets rfl

/-- To register a proctor's socket writes its data and leaves its handshake. -/
theorem sameHandshakes_register (id : SocketId) (payload : JoinAdminPayload) :
    SameHandshakes m (m.registerAdmin id payload) := by
  unfold GatewayMemory.registerAdmin
  have huntrack := sameHandshakes_of_sockets (rest_untrack m id).1
  have hdata := huntrack.trans (sameHandshakes_updateSocket (m.untrackAdminClient id) id
    (f := fun s => { s with data := { s.data with
      role := some .admin, adminToken := m.extractAdminToken id payload,
      examId := some payload.examId } }) fun _ => rfl)
  have htrack := hdata.trans (sameHandshakes_of_sockets (rest_track _ id).1)
  have hjoin := htrack.trans (sameHandshakes_joinRoom _ id (adminRoom payload.examId))
  refine hjoin.trans (sameHandshakes_of_sockets ?_)
  rfl

end

/-- The first segment of each call fits the outline. Only a new connection, a close and a
revocation do more than a quiet segment. -/
theorem start_fits {m : GatewayMemory} {call : GatewayCall} {input : GatewayInput}
    {segment : GatewaySegment} (h : m.start call input = some segment) :
    SegmentFits m segment := by
  -- Only a new connection, a close and a revocation do more than a quiet segment.
  cases call with
  | connect id handshakeToken =>
      simp only [GatewayMemory.start] at h
      split at h
      · cases h
      · rename_i hfresh
        cases h
        exact fits_connect m handshakeToken hfresh _
  | joinAdmin id payload =>
      obtain ⟨hid, heq⟩ := Option.ite_none_right_eq_some.mp h
      cases heq
      exact (quietly_joinAdmin m payload hid).fits
  | joinCandidate id payload =>
      obtain ⟨-, heq⟩ := Option.ite_none_right_eq_some.mp h
      cases heq
      exact (quietly_joinCandidate m id payload).fits
  | signal id event payload =>
      obtain ⟨-, heq⟩ := Option.ite_none_right_eq_some.mp h
      cases heq
      exact (quietly_assertCanRelay m id event payload).fits
  | close id =>
      obtain ⟨-, heq⟩ := Option.ite_none_right_eq_some.mp h
      cases heq
      exact ⟨fun hm => (ends_disconnect m id).tracked hm, sameHandshakes_disconnect m id,
        fun pc hpc => by cases hpc⟩
  | disconnected id =>
      obtain ⟨hid, heq⟩ := Option.ite_none_right_eq_some.mp h
      cases heq
      exact fits_handleDisconnect m hid
  | sessionRevoked token =>
      obtain ⟨-, heq⟩ := Option.ite_none_left_eq_some.mp h
      cases heq
      exact ⟨fun hm => tracked_revocation token hm, sameHandshakes_revocation m token,
        fun pc hpc => by cases hpc⟩

/-- A completed join fits the outline. -/
theorem fits_register {m : GatewayMemory} {id : SocketId} {payload : JoinAdminPayload}
    (h : ∃ token, HasToken m id payload token) (result : GatewayResult) :
    SegmentFits m (m.registerAdmin id payload, .finished result) := by
  obtain ⟨token, htoken⟩ := h
  exact ⟨fun hm => (registered htoken).tracked htoken.2.2 htoken.1 hm,
    sameHandshakes_register m id payload, fun pc hpc => by cases hpc⟩

/-- The next segment of each call fits the outline, and only a completed join touches the
rooms of the proctors. -/
theorem resume_cases {m : GatewayMemory} {reply : GatewayReady} {input : GatewayInput}
    {segment : GatewaySegment} (hfits : GatewayReadyFits m reply)
    (h : m.resume reply input = some segment) :
    Quietly m segment ∨ ∃ id payload token, reply = .joinAuthorized id payload (.ok ()) ∧
      HasToken m id payload token ∧ segment = (m.registerAdmin id payload, .finished (.ok ())) := by
  cases reply with
  | joinAuthenticated id payload session =>
      cases session with
      | ok session =>
          cases h
          exact Or.inl (quietly_suspended hfits)
      | error error =>
          cases h
          exact Or.inl (quietly_refuse m id error)
  -- The only reply that takes a proctor into a room.
  | joinAuthorized id payload answer =>
      cases answer with
      | ok answer =>
          cases h
          obtain ⟨token, htoken⟩ := hfits
          exact Or.inr ⟨id, payload, token, rfl, htoken, rfl⟩
      | error error =>
          cases h
          exact Or.inl (quietly_finished m m.emissions _)
  | candidateInviteRead id payload invite =>
      cases invite with
      | ok invite =>
          cases h
          exact Or.inl (quietly_joinCandidateAfterRead m id invite hfits)
      | error error =>
          cases h
          exact Or.inl (quietly_finished m m.emissions _)
  | relayAuthenticated id event payload session =>
      cases session with
      | ok session =>
          cases h
          exact Or.inl (quietly_finished m _ _)
      | error error =>
          cases h
          exact Or.inl (quietly_refuse m id error)
  | relayReturned id event payload =>
      cases h
      exact Or.inl (quietly_finished m _ _)
  | deviceUpserted id answer =>
      cases answer with
      | ok answer =>
          cases h
          exact Or.inl (quietly_suspended trivial)
      | error error =>
          cases h
          exact Or.inl (quietly_finished m m.emissions _)
  | eventLogged id answer =>
      cases answer with
      | ok answer =>
          cases h
          exact Or.inl (quietly_finished m _ _)
      | error error =>
          cases h
          exact Or.inl (quietly_finished m m.emissions _)

/-- A resumed call does what the outline asks for, given the assertion of its reply. -/
theorem resume_fits_outline {m : GatewayMemory} {reply : GatewayReady} {input : GatewayInput}
    {segment : GatewaySegment} (hfits : GatewayReadyFits m reply)
    (h : m.resume reply input = some segment) : SegmentFits m segment := by
  rcases resume_cases hfits h with hquiet | ⟨id, payload, token, -, htoken, rfl⟩
  · exact hquiet.fits
  · exact fits_register ⟨token, htoken⟩ _

/-- The token that a waiting call has computed can be computed again, as long as the handshakes are
the same. -/
theorem gatewayWaitingFits_mono {m m' : GatewayMemory} {pc : GatewayWaiting}
    (h : GatewayWaitingFits m pc) (hsame : SameHandshakes m m') : GatewayWaitingFits m' pc := by
  cases pc with
  | joinAuthenticates id payload live =>
      exact fun hlive => (h hlive).imp fun token htoken => htoken.mono hsame
  | joinAuthorizes id payload session =>
      obtain ⟨token, htoken⟩ := h
      exact ⟨token, htoken.mono hsame⟩
  | joinCandidateReads id payload => exact h
  | _ => trivial

/-- The same of a call with a reply: what it says about handshakes stays true while they stay. -/
theorem gatewayReadyFits_mono {m m' : GatewayMemory} {reply : GatewayReady}
    (h : GatewayReadyFits m reply) (hsame : SameHandshakes m m') :
    GatewayReadyFits m' reply := by
  cases reply with
  | joinAuthenticated id payload session =>
      cases session with
      | ok session =>
          obtain ⟨token, htoken⟩ := h
          exact ⟨token, htoken.mono hsame⟩
      | error error => trivial
  | joinAuthorized id payload answer =>
      obtain ⟨token, htoken⟩ := h
      exact ⟨token, htoken.mono hsame⟩
  | candidateInviteRead id payload invite => exact h
  | _ => trivial

/-- The answer of an awaited operation fits the outline. A session comes only from a token that was
live. -/
theorem gatewayExecute_fits {m : GatewayMemory} {pc : GatewayWaiting} {input : GatewayInput}
    {records records' : GatewayRecords} {reply : GatewayReady} (hfits : GatewayWaitingFits m pc)
    (h : gatewayExecute pc input records = some (records', reply)) :
    GatewayReadyFits m reply := by
  cases pc with
  | joinAuthenticates id payload live =>
      obtain ⟨hanswer, heq⟩ := Option.ite_none_right_eq_some.mp h
      cases heq
      cases hsession : input.session with
      | error error => trivial
      | ok session =>
          -- Only a token that was live is accepted.
          rw [hsession] at hanswer
          refine hfits ?_
          simpa [answersToken, Except.toBool] using hanswer
  | joinAuthorizes id payload session => cases h; exact hfits
  | joinCandidateReads id payload => cases h; exact hfits
  | relayAuthenticates id event payload live =>
      obtain ⟨-, heq⟩ := Option.ite_none_right_eq_some.mp h
      cases heq
      trivial
  | relayReturns id event payload => cases h; trivial
  | disconnectUpserts id inviteToken deviceRole => cases h; trivial
  | disconnectLogs id inviteToken eventType => cases h; trivial

/-- The outline holds for the gateway: each segment and each operation keeps the handshakes, and
with them what the calls know. -/
theorem roomOutline_proved :
    roomOutline.Proved gatewayProgram fun m _ m' _ => SameHandshakes m m' where
  start call input m d m' o hinv h := by
    replace h : m.start call input = some (m', o) := h
    have hfits := start_fits h
    exact ⟨hfits.tracked hinv, hfits.handshakes, hfits.waits⟩
  execute pc input m d d' reply hinv hwaits h :=
    ⟨hinv, sameHandshakes_of_sockets rfl, gatewayExecute_fits hwaits h⟩
  resume reply input m d m' o hinv hholds h := by
    replace h : m.resume reply input = some (m', o) := h
    have hfits := resume_fits_outline hholds h
    exact ⟨hfits.tracked hinv, hfits.handshakes, hfits.waits⟩
  stable f m d m' d' hsame hf := by
    cases f with
    | waiting pc => exact gatewayWaitingFits_mono hf hsame
    | ready reply => exact gatewayReadyFits_mono hf hsame

/-! ### The exact condition -/

/-- A revocation reaches the sockets that it concerns. -/
def CallHolds (m : GatewayMemory) : GatewayCall → Prop
  | .sessionRevoked token => RevocationReaches m token
  | _ => True

/-- A join that is about to register holds. -/
def ReplyHolds (m : GatewayMemory) : GatewayReady → Prop
  | .joinAuthorized id payload (.ok ()) => JoinHolds m id payload
  | _ => True

/-- The condition on a move: when a join registers its socket, its token was not revoked (or
the socket is in the room through an earlier join), and when a token is revoked, each
connected socket in a room that it owes to this token only still holds the token. -/
def TokensHold (w : GatewayWorld) : GatewayEvent → Prop
  | .invoke call _ => CallHolds w.memory call
  | .resume id _ =>
      ∀ reply, w.flights.get? id = some (.ready reply) → ReplyHolds w.memory reply
  | .execute .. => True

/-- The first segment of a call leaves the rooms valid exactly when the call holds. The
announcement of a revocation is the only start that can break them. -/
theorem start_roomsValid_iff {m : GatewayMemory} {call : GatewayCall} {input : GatewayInput}
    {segment : GatewaySegment} (hm : Tracked m) (hv : RoomsValid m)
    (h : m.start call input = some segment) : RoomsValid segment.1 ↔ CallHolds m call := by
  cases call with
  | connect id handshakeToken =>
      simp only [GatewayMemory.start] at h
      split at h
      · cases h
      · cases h
        exact ⟨fun _ => trivial, fun _ => roomsValid_connect handshakeToken hv⟩
  | joinAdmin id payload =>
      obtain ⟨hid, heq⟩ := Option.ite_none_right_eq_some.mp h
      cases heq
      exact ⟨fun _ => trivial,
        fun _ => (quietly_joinAdmin m payload hid).keeps.roomsValid_iff.mpr hv⟩
  | joinCandidate id payload =>
      obtain ⟨-, heq⟩ := Option.ite_none_right_eq_some.mp h
      cases heq
      exact ⟨fun _ => trivial,
        fun _ => (quietly_joinCandidate m id payload).keeps.roomsValid_iff.mpr hv⟩
  | signal id event payload =>
      obtain ⟨-, heq⟩ := Option.ite_none_right_eq_some.mp h
      cases heq
      exact ⟨fun _ => trivial,
        fun _ => (quietly_assertCanRelay m id event payload).keeps.roomsValid_iff.mpr hv⟩
  | close id =>
      obtain ⟨-, heq⟩ := Option.ite_none_right_eq_some.mp h
      cases heq
      exact ⟨fun _ => trivial, fun _ => (ends_disconnect m id).roomsValid hv⟩
  | disconnected id =>
      obtain ⟨-, heq⟩ := Option.ite_none_right_eq_some.mp h
      cases heq
      rw [fst_handleDisconnect]
      exact ⟨fun _ => trivial, fun _ => roomsValid_handleDisconnect id hv⟩
  -- The announcement is the only start that can break the invariant.
  | sessionRevoked token =>
      obtain ⟨-, heq⟩ := Option.ite_none_left_eq_some.mp h
      cases heq
      exact roomsValid_revocation_iff token hm

/-- The next segment of a call leaves the rooms valid exactly when its reply holds. Only a
`join-admin` that is accepted can break them. -/
theorem resume_roomsValid_iff {m : GatewayMemory} {reply : GatewayReady} {input : GatewayInput}
    {segment : GatewaySegment} (hfits : GatewayReadyFits m reply) (hv : RoomsValid m)
    (h : m.resume reply input = some segment) : RoomsValid segment.1 ↔ ReplyHolds m reply := by
  rcases resume_cases hfits h with hquiet | ⟨id, payload, token, rfl, htoken, rfl⟩
  · refine ⟨fun _ => ?_, fun _ => hquiet.keeps.roomsValid_iff.mpr hv⟩
    -- A join that registers is not quiet, but a quiet one leaves the rooms valid as well.
    cases reply with
    | joinAuthorized id payload answer =>
        cases answer with
        | ok answer =>
            obtain ⟨token, htoken⟩ := hfits
            cases h
            exact (roomsValid_register_iff htoken hv).mp (hquiet.keeps.roomsValid_iff.mpr hv)
        | error error => trivial
    | _ => trivial
  · exact roomsValid_register_iff htoken hv

/-- One move: from valid rooms it leads to valid rooms exactly under the condition. -/
theorem step_roomsValid_iff (w : GatewayWorld) (e : GatewayEvent) (w' : GatewayWorld)
    (hw : roomOutline.Valid w) (hv : RoomsValid w.memory)
    (h : gatewayProgram.machine.step w e = some w') :
    RoomsValid w'.memory ↔ TokensHold w e := by
  rcases AsyncProgram.step_cases h with
    ⟨call, input, m, o, rfl, hstart, rfl⟩ | ⟨id, input, pc, d, reply, rfl, -, -, rfl⟩ |
    ⟨id, input, reply, m, o, rfl, hflight, hresume, rfl⟩
  · rw [World.conclude_memory]
    replace hstart : w.memory.start call input = some (m, o) := hstart
    exact start_roomsValid_iff hw.inv hv hstart
  · exact ⟨fun _ => trivial, fun _ => hv⟩
  · rw [World.conclude_memory]
    replace hresume : w.memory.resume reply input = some (m, o) := hresume
    have hiff := resume_roomsValid_iff (hw.flights id _ hflight) hv hresume
    refine hiff.trans ⟨fun hholds reply' hreply' => ?_, fun hall => hall reply hflight⟩
    rw [hflight] at hreply'
    cases hreply'
    exact hholds

/-- Nobody is in a room at the start. -/
theorem roomsValid_initial : RoomsValid gatewayInitial.memory := by
  intro id e hid
  cases hid

/-- There are no sockets at the start, and no clients. -/
theorem tracked_initial : Tracked gatewayInitial.memory where
  holds id hid := by cases hid
  plain id hid := by cases hid
  known token id hid := by cases hid
  closed id hid := by cases hid
  ended id hid := by cases hid

/-- The exact condition for valid rooms. In a run, every connected socket in a proctors' room
has at any moment joined its exam with a token that was not revoked, if and only if each move
meets the condition. -/
theorem rooms_valid_iff (es : List GatewayEvent) (w : GatewayWorld)
    (h : gatewayProgram.machine.run gatewayInitial es = some w) :
    gatewayProgram.machine.Always (fun w => RoomsValid w.memory) gatewayInitial es ↔
      gatewayProgram.machine.Meets TokensHold gatewayInitial es :=
  Machine.always_iff_meets
    (fun w e w' hw hstep => Outline.step_valid roomOutline_proved w e w' hw hstep)
    (fun w e w' hw hv hstep => step_roomsValid_iff w e w' hw hv hstep)
    es _ w (roomOutline.valid_initial tracked_initial) roomsValid_initial h

/-! ### A session that is revoked during a join -/

/-- The session that `requireActiveSession` returns for a token in the examples. -/
def proctorSession (token : String) : AuthSession where
  token := token
  user :=
    { id := "user_c0a1", email := "proctor@example.com", name := "Kim", role := .proctor,
      organizationId := some "org_a", createdAt := Js.toISOString 1784332800000 }
  organization :=
    { id := "org_a", name := "Example", createdAt := Js.toISOString 1784332800000 }

/-- A join of the exam with the token, as call `id`. -/
def joinEvents (id : Nat) (socket : SocketId) (examId token : String) : List GatewayEvent :=
  [.invoke (.joinAdmin socket { examId, token := some token }) {},
    .execute id { session := .ok (proctorSession token) }, .resume id {}, .execute id {}]

/-- The token is revoked while the join waits for `getLiveProctorState`. -/
def revokedDuringJoin : List GatewayEvent :=
  [.invoke (.connect "socket_1" none) {}] ++ joinEvents 1 "socket_1" "exam_1" "session_1" ++
    [.invoke (.sessionRevoked "session_1") {}, .resume 1 {}]

/-- A socket joins a second exam with a second token, and the first token is revoked. -/
def revokedAfterRejoin : List GatewayEvent :=
  [.invoke (.connect "socket_1" none) {}] ++ joinEvents 1 "socket_1" "exam_1" "session_1" ++
    [.resume 1 {}] ++ joinEvents 2 "socket_1" "exam_2" "session_2" ++ [.resume 2 {}] ++
    [.invoke (.sessionRevoked "session_1") {}]

/-- At the end of both runs the socket is connected and in the room of the first exam, and its
only join of this exam was made with a revoked token. -/
theorem revokedJoins_run (es : List GatewayEvent)
    (hes : es = revokedDuringJoin ∨ es = revokedAfterRejoin) :
    (gatewayProgram.machine.run gatewayInitial es).any (fun w =>
      w.memory.isConnected "socket_1" &&
      decide (adminRoom "exam_1" ∈ roomsOf w.memory "socket_1") &&
      w.memory.joins.all (fun j =>
        j.2.1 ≠ "exam_1" || decide (j.2.2 = some "session_1")) &&
      decide ("session_1" ∈ w.memory.revoked)) = true := by
  rcases hes with rfl | rfl
  · decide +kernel
  · decide +kernel

/-- A socket stays in a proctors' room although the session of its join was revoked. -/
theorem proctor_stays_after_revocation :
    (∃ w, gatewayProgram.machine.run gatewayInitial revokedDuringJoin = some w ∧
      ¬ RoomsValid w.memory) ∧
    ∃ w, gatewayProgram.machine.run gatewayInitial revokedAfterRejoin = some w ∧
      ¬ RoomsValid w.memory := by
  have hall : ∀ es, es = revokedDuringJoin ∨ es = revokedAfterRejoin →
      ∃ w, gatewayProgram.machine.run gatewayInitial es = some w ∧ ¬ RoomsValid w.memory := by
    intro es hes
    obtain ⟨w, hw, hcheck⟩ := (Option.any_eq_true _ _).mp (revokedJoins_run es hes)
    simp only [Bool.and_eq_true, decide_eq_true_eq, List.all_eq_true, Bool.or_eq_true] at hcheck
    obtain ⟨⟨⟨hconnected, hroom⟩, hjoins⟩, hrevoked⟩ := hcheck
    refine ⟨w, hw, fun hv => ?_⟩
    obtain ⟨token, hjoin, hlive⟩ := hv "socket_1" "exam_1" hconnected hroom
    rcases hjoins _ hjoin with hother | hsame
    · exact hother rfl
    · cases hsame
      exact hlive hrevoked
  exact ⟨hall _ (Or.inl rfl), hall _ (Or.inr rfl)⟩

/-- The exact condition at the run with the second join. -/
theorem rooms_valid_iff_rejoin :
    ∃ w, gatewayProgram.machine.run gatewayInitial revokedAfterRejoin = some w ∧
      (gatewayProgram.machine.Always (fun w => RoomsValid w.memory) gatewayInitial
          revokedAfterRejoin ↔
        gatewayProgram.machine.Meets TokensHold gatewayInitial revokedAfterRejoin) := by
  obtain ⟨w, hw, -⟩ := (Option.any_eq_true _ _).mp (revokedJoins_run _ (Or.inr rfl))
  exact ⟨w, hw, rooms_valid_iff revokedAfterRejoin w hw⟩

end Dcvp.Proofs
