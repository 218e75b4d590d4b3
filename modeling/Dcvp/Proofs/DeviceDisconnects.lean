import Dcvp.Proofs.SignalScope
import Mathlib.Data.List.ReduceOption

/-!
# `Dcvp.Proofs.DeviceDisconnects`: closing sockets and the devices behind them

A candidate's device is connected while a socket is that has joined as it. When a socket closes,
`handleDisconnect` marks the device that the data of the socket names. The data holds the last
join only, and nothing counts the sockets of a device.

`joinsOf` reads the joins of a socket from the messages that it was sent: `some d` for a join as
the device `d`, `none` for one as a proctor. `Occupied` says that a device has another connected
socket. The result has two parts:

* `MarksUnoccupied`, at each write to the store: the device has no other connected socket;
* `MarkedBy`, after a completed `handleDisconnect`: each device of the socket was marked, if it
  has no other one.

`ClosesLast` is the condition: of the devices of a closing socket, the one that it joined last is
the one without another socket, and while a disconnect is in flight, neither its socket joins
anything nor another socket its device. `DataShows` and `Leaves` are the invariants that carry it:
the data is that of the last join, and a disconnect in flight is about that device.
-/

set_option autoImplicit false

namespace Dcvp.Proofs

open Dcvp.Lib
open Dcvp.Modules
open Dcvp.Shared (AuthSession)

/-! ### Joins -/

/-- A device of a candidate in an exam. -/
structure SocketDevice where
  examId : String
  candidateId : String
  deviceRole : String
  deriving DecidableEq

/-- The join of which a message tells a socket. -/
def joinOf (id : SocketId) (emission : Emission) : Option (Option SocketDevice) :=
  if emission.target = .client id then
    match emission.message with
    | .joinedAdmin _ => some none
    | .joinedCandidate examId candidateId deviceRole =>
        some (some ⟨examId, candidateId, deviceRole⟩)
    | _ => none
  else none

/-- The joins of a socket, the last one at the end. -/
def joinsOf (m : GatewayMemory) (id : SocketId) : List (Option SocketDevice) :=
  m.emissions.filterMap (joinOf id)

/-- The socket has joined as the device. -/
def HasJoinedAs (m : GatewayMemory) (id : SocketId) (d : SocketDevice) : Prop :=
  some d ∈ joinsOf m id

instance (m : GatewayMemory) (id : SocketId) (d : SocketDevice) : Decidable (HasJoinedAs m id d) :=
  inferInstanceAs (Decidable (_ ∈ _))

/-- The device of the last join, when it was not one as a proctor. -/
def lastDevice (m : GatewayMemory) (id : SocketId) : Option SocketDevice :=
  (joinsOf m id).getLast?.join

/-- Another socket that is still connected has joined as the device. -/
def Occupied (m : GatewayMemory) (id : SocketId) (d : SocketDevice) : Prop :=
  ∃ other, other ≠ id ∧ m.isConnected other = true ∧ HasJoinedAs m other d

/-! ### Invites and marks -/

/-- The invites of the store, by token. The identifiers and the tokens are not empty. -/
structure InviteBook where
  find? : String → Option CandidateInvite
  named : ∀ inviteToken invite, find? inviteToken = some invite →
    inviteToken ≠ "" ∧ invite.examId ≠ "" ∧ invite.candidateId ≠ ""

/-- The device that a write to the store is about. -/
def InviteBook.device (book : InviteBook) (inviteToken deviceRole : String) :
    Option SocketDevice :=
  (book.find? inviteToken).map fun invite => ⟨invite.examId, invite.candidateId, deviceRole⟩

/-- The token for which call `k` waits for an invite. -/
def invitesRead (w : GatewayWorld) (k : Nat) : Option String :=
  match w.flights.get? k with
  | some (.waiting (.joinCandidateReads _ payload)) => some payload.inviteToken
  | _ => none

/-- `getCandidateInvite` answers a `join-candidate` with the invite of the token. -/
def AnswersFrom (book : InviteBook) (w : GatewayWorld) : GatewayEvent → Prop
  | .execute k input => ∀ inviteToken ∈ invitesRead w k, ∀ invite ∈ input.invite.toOption,
      book.find? inviteToken = some invite
  | _ => True

instance (book : InviteBook) (w : GatewayWorld) : ∀ e, Decidable (AnswersFrom book w e)
  | .execute k _ => inferInstanceAs (Decidable (∀ inviteToken ∈ invitesRead w k, _))
  | .invoke _ _ | .resume _ _ => isTrue trivial

/-- The type of the event that `handleDisconnect` logs. -/
def disconnectType (deviceRole : String) : String :=
  if deviceRole = "MOBILE_AUX" then "MOBILE_CAMERA_DISCONNECTED"
  else "PRIMARY_CAMERA_DISCONNECTED"

/-- When the move marks a device or logs its disconnect, no other connected socket has joined as
this device. -/
def MarksUnoccupied (book : InviteBook) (w : GatewayWorld) : GatewayEvent → Prop
  | .execute k _ =>
      (∀ id inviteToken deviceRole d,
        w.flights.get? k = some (.waiting (.disconnectUpserts id inviteToken deviceRole)) →
        book.device inviteToken deviceRole = some d → ¬ Occupied w.memory id d) ∧
      ∀ id inviteToken deviceRole d,
        w.flights.get? k =
          some (.waiting (.disconnectLogs id inviteToken (disconnectType deviceRole))) →
        deviceRole ∈ proctorDeviceRoles → book.device inviteToken deviceRole = some d →
        ¬ Occupied w.memory id d
  | _ => True

/-- Call `k` has set the device to `DISCONNECTED`, and the store has done so. -/
def MarkedBy (book : InviteBook) (es : List GatewayEvent) (k : Nat) (id : SocketId)
    (d : SocketDevice) : Prop :=
  ∃ before input w inviteToken,
    gatewayMachine.Makes gatewayInitial es before (.execute k input) w ∧
    w.flights.get? k = some (.waiting (.disconnectUpserts id inviteToken d.deviceRole)) ∧
    book.device inviteToken d.deviceRole = some d ∧ input.answer = .ok ()

/-! ### The condition -/

/-- The socket whose disconnect a call in flight still has to write. -/
def leaving : Flight GatewayWaiting GatewayReady → Option SocketId
  | .waiting (.disconnectUpserts id _ _) | .waiting (.disconnectLogs id _ _) => some id
  | .ready (.deviceUpserted id (.ok ())) => some id
  | _ => none

/-- No disconnect in flight is of the socket that joins, nor of one that joined last as the same
device. -/
def JoinsApart (w : GatewayWorld) (id : SocketId) (join : Option SocketDevice) : Prop :=
  ∀ k f other, w.flights.get? k = some f → leaving f = some other →
    other ≠ id ∧ ∀ d, join = some d → lastDevice w.memory other ≠ some d

/-- The join that call `k` completes when it moves on. -/
def completedJoin (w : GatewayWorld) (k : Nat) : Option (SocketId × Option SocketDevice) :=
  match w.flights.get? k with
  | some (.ready (.joinAuthorized id _ (.ok ()))) => some (id, none)
  | some (.ready (.candidateInviteRead id payload (.ok invite))) =>
      if invite.examId = payload.examId ∧ invite.candidateId = payload.candidateId then
        some (id, some ⟨payload.examId, payload.candidateId, payload.deviceRole⟩)
      else none
  | _ => none

/-- Of the devices of a closing socket, the last one is the one without another socket. Joins stay
apart from the disconnects in flight. -/
def ClosesLast (w : GatewayWorld) : GatewayEvent → Prop
  | .invoke (.disconnected id) _ => ∀ d, HasJoinedAs w.memory id d →
      (lastDevice w.memory id = some d ↔ ¬ Occupied w.memory id d)
  | .resume k _ => ∀ join ∈ completedJoin w k, JoinsApart w join.1 join.2
  | _ => True

/-! The condition can be evaluated. -/

instance (m : GatewayMemory) (id : SocketId) (d : SocketDevice) : Decidable (Occupied m id d) :=
  decidable_of_iff (∃ other ∈ m.sockets.keys, other ≠ id ∧ m.isConnected other = true ∧
      HasJoinedAs m other d)
    ⟨fun ⟨other, _, h⟩ => ⟨other, h⟩, fun ⟨other, h⟩ => ⟨other,
      (m.sockets.mem_keys_iff other).mpr
        (Option.ne_none_iff_exists'.mp (known_of_isConnected h.2.1)), h⟩⟩

instance (w : GatewayWorld) (id : SocketId) (join : Option SocketDevice) :
    Decidable (JoinsApart w id join) :=
  decidable_of_iff (∀ flight ∈ w.flights.entries, ∀ other ∈ leaving flight.2,
      other ≠ id ∧ ∀ d ∈ join, lastDevice w.memory other ≠ some d)
    ⟨fun h k f other hf => h (k, f) ((w.flights.get?_eq_some_iff k f).mp hf) other,
      fun h flight hin other =>
        h flight.1 flight.2 other ((w.flights.get?_eq_some_iff _ _).mpr hin)⟩

instance (w : GatewayWorld) : ∀ e, Decidable (ClosesLast w e)
  | .invoke (.disconnected id) _ =>
      decidable_of_iff (∀ d ∈ (joinsOf w.memory id).reduceOption,
          (lastDevice w.memory id = some d ↔ ¬ Occupied w.memory id d))
        ⟨fun h d hd => h d (List.reduceOption_mem_iff.mpr hd),
          fun h d hd => h d (List.reduceOption_mem_iff.mp hd)⟩
  | .resume k _ => inferInstanceAs (Decidable (∀ join ∈ completedJoin w k, _))
  | .invoke (.connect _ _) _ | .invoke (.joinAdmin _ _) _ | .invoke (.joinCandidate _ _) _
  | .invoke (.signal _ _ _) _ | .invoke (.close _) _ | .invoke (.sessionRevoked _) _
  | .execute _ _ => isTrue trivial

/-! ### What a segment does to the joins -/

/-- A change of the memory by which no socket joins. A socket that is connected afterwards was
connected before, or is new. -/
structure Bystands (m m' : GatewayMemory) : Prop where
  known : ∀ id, m.sockets.get? id ≠ none → m'.sockets.get? id ≠ none
  data : ∀ id, m'.dataOf id = m.dataOf id
  connected : ∀ id, m'.isConnected id = true → m.isConnected id = true ∨ m.sockets.get? id = none
  joins : ∀ id, joinsOf m' id = joinsOf m id

/-- A change of the memory by which one socket joins. -/
structure Joins (m m' : GatewayMemory) (id : SocketId) (join : Option SocketDevice) : Prop where
  known : ∀ k, m.sockets.get? k ≠ none → m'.sockets.get? k ≠ none
  data : ∀ k, k ≠ id → m'.dataOf k = m.dataOf k
  connected : ∀ k, m'.isConnected k = m.isConnected k
  joins : ∀ k, joinsOf m' k = if k = id then joinsOf m k ++ [join] else joinsOf m k

/-- The sockets stay, and messages are sent that tell of no join. -/
theorem bystands_of_sockets {m m' : GatewayMemory} (hsockets : m'.sockets = m.sockets)
    (new : List Emission) (hemissions : m'.emissions = m.emissions ++ new)
    (hnew : ∀ id, new.filterMap (joinOf id) = []) : Bystands m m' where
  known id h := by rw [hsockets]; exact h
  data id := by
    unfold GatewayMemory.dataOf
    rw [hsockets]
  connected id h := by
    unfold GatewayMemory.isConnected at h ⊢
    rw [hsockets] at h
    exact Or.inl h
  joins id := by
    unfold joinsOf
    rw [hemissions, List.filterMap_append, hnew, List.append_nil]

/-- Nothing changes, so nobody joins. -/
theorem Bystands.refl (m : GatewayMemory) : Bystands m m :=
  bystands_of_sockets rfl [] (List.append_nil _).symm fun _ => rfl

/-- Two changes by which nobody joins. A socket that is connected at the end was connected at the
start, or was new then. -/
theorem Bystands.trans {m m' m'' : GatewayMemory} (h : Bystands m m') (h' : Bystands m' m'') :
    Bystands m m'' where
  known id hid := h'.known id (h.known id hid)
  data id := (h'.data id).trans (h.data id)
  connected id hid := by
    rcases h'.connected id hid with hid | hnone
    · exact h.connected id hid
    · exact Or.inr (by_contra fun hid => h.known id hid hnone)
  joins id := (h'.joins id).trans (h.joins id)

/-- An error that a socket is told. -/
theorem bystands_reject (m : GatewayMemory) (id : SocketId) (message : String) :
    Bystands m (m.reject id message).1 :=
  bystands_of_sockets rfl [_] rfl fun k => by simp [joinOf]

/-- A refusal sends an error, which is no join. -/
theorem bystands_refuse (m : GatewayMemory) (id : SocketId) (error : ServiceException) :
    Bystands m (m.refuse id error).1 := by
  unfold GatewayMemory.refuse
  split
  · exact bystands_reject m id _
  · exact Bystands.refl m

/-- A message to a room tells of no join. -/
theorem bystands_room (m : GatewayMemory) (id : SocketId) (room : String)
    (message : ServerMessage) : Bystands m (m.emitToRoom id room message) :=
  bystands_of_sockets rfl [_] rfl fun k => by simp [joinOf]

/-- A socket that connects is new, has no data and has joined nothing. -/
theorem bystands_connect {m : GatewayMemory} {id : SocketId} (handshakeToken : Option String)
    (hfresh : m.sockets.get? id = none) :
    Bystands m { m with sockets := m.sockets.set id { handshakeToken } } where
  known k hk := by
    rw [OrderedMap.get?_set]
    split
    · exact Option.some_ne_none _
    · exact hk
  data k := by
    unfold GatewayMemory.dataOf
    rw [OrderedMap.get?_set]
    by_cases hk : k = id
    · rw [if_pos hk, hk, hfresh]
    · rw [if_neg hk]
  connected k hconnected := by
    by_cases hk : k = id
    · exact Or.inr (hk ▸ hfresh)
    · unfold GatewayMemory.isConnected at hconnected ⊢
      rw [OrderedMap.get?_set, if_neg hk] at hconnected
      exact Or.inl hconnected
  joins _ := rfl

/-- The data of a socket stays as it is when another socket is changed, or when the change is not
about the data. -/
theorem dataOf_updateSocket (m : GatewayMemory) (id k : SocketId)
    {f : ProctorSocket → ProctorSocket} (hf : k = id → ∀ s, (f s).data = s.data) :
    (m.updateSocket id f).dataOf k = m.dataOf k := by
  unfold GatewayMemory.dataOf
  rw [sockets_updateSocket]
  by_cases hk : k = id
  · subst hk
    cases m.sockets.get? k with
    | none => simp
    | some s => simp [hf]
  · simp [hk]

/-- A disconnected socket keeps its data and its joins, which is what `handleDisconnect` reads
afterwards. -/
theorem bystands_disconnect (m : GatewayMemory) (id : SocketId) :
    Bystands m (m.disconnect id) where
  known k hk := by
    unfold GatewayMemory.disconnect
    split
    · exact known_updateSocket m id k _ hk
    · exact hk
  data k := by
    unfold GatewayMemory.disconnect
    split
    · exact dataOf_updateSocket m id k fun _ _ => rfl
    · rfl
  connected k hk := by
    rw [isConnected_disconnect, Bool.and_eq_true_iff] at hk
    exact Or.inl hk.1
  joins k := by
    unfold joinsOf GatewayMemory.disconnect
    split
    · exact congrArg _ (emissions_updateSocket m id _)
    · rfl

/-- Several sockets are disconnected, one after the other. -/
theorem bystands_foldl (ids : List SocketId) (m : GatewayMemory) :
    Bystands m (ids.foldl GatewayMemory.disconnect m) := by
  induction ids generalizing m with
  | nil => exact Bystands.refl m
  | cons id ids ih => exact (bystands_disconnect m id).trans (ih (m.disconnect id))

/-- A revocation disconnects sockets of proctors. Nobody joins by it. -/
theorem bystands_revocation (m : GatewayMemory) (token : String) :
    Bystands m (afterRevocation m token) := by
  have hsame : ∀ m' : GatewayMemory, m'.sockets = m.sockets → m'.emissions = m.emissions →
      Bystands m m' := fun m' hsockets hemissions =>
    bystands_of_sockets hsockets [] (by rw [hemissions, List.append_nil]) fun _ => rfl
  unfold afterRevocation GatewayMemory.disconnectAdminClients
  split
  · exact hsame _ rfl rfl
  · refine Bystands.trans ?_ (bystands_foldl _ _)
    exact hsame _ rfl rfl

/-- The first segment of `handleDisconnect` takes the socket out of the registration only. -/
theorem bystands_handleDisconnect (m : GatewayMemory) (id : SocketId) :
    Bystands m (m.handleDisconnect id).1 := by
  rw [fst_handleDisconnect]
  set n : GatewayMemory := { m with closing := m.closing.erase id } with hn
  refine bystands_of_sockets (rest_untrack n id).1 [] ?_ fun _ => rfl
  rw [emissions_untrack, List.append_nil]

/-- What a join writes: the data of its socket, a room, and messages of which the last one tells
of the join. -/
theorem joins_of_writes {m m' : GatewayMemory} {id : SocketId} {join : Option SocketDevice}
    {room : String} (f : ProctorSocket → ProctorSocket) (new : List Emission)
    (hf : ∀ s, (f s).connected = s.connected)
    (hsockets : m'.sockets = ((m.updateSocket id f).joinRoom id room).sockets)
    (hemissions : m'.emissions = m.emissions ++ new)
    (hnew : ∀ k, new.filterMap (joinOf k) = if k = id then [join] else []) :
    Joins m m' id join := by
  -- Only the entry of the socket that joins is written.
  have hget : ∀ k, m'.sockets.get? k = if k = id then
      (m.sockets.get? id).map fun s => entered room (f s) else m.sockets.get? k := fun k => by
    rw [hsockets]
    exact sockets_joined m id k f room
  refine ⟨fun k hk => ?_, fun k hk => ?_, fun k => ?_, fun k => ?_⟩
  · rw [hget]
    split
    · rename_i heq
      subst heq
      simpa using hk
    · exact hk
  · unfold GatewayMemory.dataOf
    rw [hget, if_neg hk]
  · unfold GatewayMemory.isConnected
    rw [hget]
    by_cases hk : k = id
    · rw [if_pos hk, hk]
      cases m.sockets.get? id with
      | none => rfl
      | some s => exact ((entered_same room (f s)).2).trans (hf s)
    · rw [if_neg hk]
  · unfold joinsOf
    rw [hemissions, List.filterMap_append, hnew]
    split
    · rfl
    · exact List.append_nil _

/-- After a join the data of the socket is what the join made of its data before, whatever the
room. -/
theorem dataOf_joined {m m' : GatewayMemory} {id : SocketId} {f : ProctorSocket → ProctorSocket}
    {room : String} (hsockets : m'.sockets = ((m.updateSocket id f).joinRoom id room).sockets)
    (hknown : m.sockets.get? id ≠ none) : ∃ s, m'.dataOf id = (f s).data := by
  obtain ⟨s, hs⟩ := Option.ne_none_iff_exists'.mp hknown
  refine ⟨s, ?_⟩
  unfold GatewayMemory.dataOf
  rw [hsockets, sockets_joined, if_pos rfl, hs]
  exact (entered_same room (f s)).1

/-- The last segment of `join-admin` writes the data of its own socket, and tells it that it has
joined. -/
theorem joins_registerAdmin (m : GatewayMemory) (id : SocketId) (payload : JoinAdminPayload) :
    Joins m (m.registerAdmin id payload) id none := by
  obtain ⟨hsockets, -, hemissions⟩ := registerAdmin_writes m id payload
  refine joins_of_writes (adminData payload (m.extractAdminToken id payload)) _ (fun _ => rfl)
    hsockets hemissions fun k => ?_
  by_cases hk : k = id
  · simp [joinOf, hk]
  · simp [joinOf, hk, Ne.symm hk]

/-- A `join-candidate` that is not refused joins the socket with the device of its payload, and is
its last join. -/
theorem joins_joinCandidate (m : GatewayMemory) (id : SocketId) {payload : JoinCandidatePayload}
    {invite : CandidateInvite}
    (hmatch : invite.examId = payload.examId ∧ invite.candidateId = payload.candidateId) :
    Joins m (m.joinCandidateAfterRead id payload invite).1 id
        (some ⟨payload.examId, payload.candidateId, payload.deviceRole⟩) ∧
      (m.joinCandidateAfterRead id payload invite).1.sockets
        = ((m.updateSocket id (candidateData payload)).joinRoom id
          (candidateRoom payload.examId payload.candidateId payload.deviceRole)).sockets := by
  set joined : Emission := ⟨id, .room (adminRoom payload.examId),
    .deviceJoined id payload.candidateId payload.deviceRole⟩ with hjoined
  set told : Emission := ⟨id, .client id,
    .joinedCandidate payload.examId payload.candidateId payload.deviceRole⟩ with htold
  unfold GatewayMemory.joinCandidateAfterRead
  rw [if_neg (by simp [hmatch.1, hmatch.2])]
  refine ⟨joins_of_writes (candidateData payload) [joined, told] (fun _ => rfl) rfl ?_
    fun k => ?_, rfl⟩
  · show (GatewayMemory.emissions _ ++ [joined]) ++ [told] = _
    rw [List.append_assoc]
    exact congrArg (· ++ [joined, told])
      ((emissions_updateSocket _ id _).trans (emissions_updateSocket m id _))
  · by_cases hk : k = id
    · simp [joinOf, joined, told, hk]
    · simp [joinOf, joined, told, hk, Ne.symm hk]

/-! ### The invariants -/

/-- The data of a socket is that of its last join. -/
structure DataShows (book : InviteBook) (m : GatewayMemory) (id : SocketId) : Prop where
  device : ∀ d, lastDevice m id = some d →
    d.deviceRole ∈ proctorDeviceRoles ∧ ∃ inviteToken,
      book.device inviteToken d.deviceRole = some d ∧
      m.dataOf id = { m.dataOf id with
        role := some .candidate, examId := some d.examId, candidateId := some d.candidateId,
        inviteToken := some inviteToken, deviceRole := some d.deviceRole }
  other : lastDevice m id = none → (m.dataOf id).role ≠ some .candidate

/-- The socket is in the table. -/
def KnownSocket (m : GatewayMemory) (id : SocketId) : Prop := m.sockets.get? id ≠ none

/-- A disconnect in flight is about the last device of its socket, and no other connected socket
has joined as this device. -/
def Leaves (m : GatewayMemory) (id : SocketId) (d : SocketDevice) : Prop :=
  lastDevice m id = some d ∧ ¬ Occupied m id d

/-- The assertion of a suspended call. -/
def WaitingShows (book : InviteBook) (m : GatewayMemory) : GatewayWaiting → Prop
  | .joinAuthenticates id _ _ | .joinAuthorizes id _ _ => KnownSocket m id
  | .joinCandidateReads id payload => KnownSocket m id ∧ payload.deviceRole ∈ proctorDeviceRoles
  | .disconnectUpserts id inviteToken deviceRole => ∃ d, Leaves m id d ∧
      d.deviceRole = deviceRole ∧ book.device inviteToken deviceRole = some d
  | .disconnectLogs id inviteToken eventType => ∃ d, Leaves m id d ∧
      eventType = disconnectType d.deviceRole ∧ d.deviceRole ∈ proctorDeviceRoles ∧
      book.device inviteToken d.deviceRole = some d
  | _ => True

/-- The assertion of a reply. -/
def ReadyShows (book : InviteBook) (m : GatewayMemory) : GatewayReady → Prop
  | .joinAuthenticated id _ _ | .joinAuthorized id _ _ => KnownSocket m id
  | .candidateInviteRead id payload invite => KnownSocket m id ∧
      payload.deviceRole ∈ proctorDeviceRoles ∧
      ∀ i, invite = .ok i → book.find? payload.inviteToken = some i
  | .deviceUpserted id (.ok ()) => ∃ d, Leaves m id d
  | _ => True

/-- The assertion of a call in flight. -/
def FlightShows (book : InviteBook) (m : GatewayMemory) :
    Flight GatewayWaiting GatewayReady → Prop
  | .waiting pc => WaitingShows book m pc
  | .ready reply => ReadyShows book m reply

/-- The invariant of the gateway's sockets: what a socket's data say of its device agrees with the
invite that opened it, and so does every join in flight. -/
structure DevicesShown (book : InviteBook) (w : GatewayWorld) : Prop where
  data : ∀ id, DataShows book w.memory id
  known : ∀ id, joinsOf w.memory id ≠ [] → KnownSocket w.memory id
  flights : ∀ k f, w.flights.get? k = some f → FlightShows book w.memory f

/-- Before the first event there are no sockets and no calls. -/
theorem devicesShown_initial (book : InviteBook) : DevicesShown book gatewayInitial where
  data id := ⟨fun d hd => (by cases hd), fun _ h => (by cases h)⟩
  known id h := absurd rfl h
  flights k f hf := by simp [gatewayInitial] at hf

/-- What is known of a socket depends on its data and its joins. -/
theorem DataShows.congr {book : InviteBook} {m m' : GatewayMemory} {id : SocketId}
    (h : DataShows book m id) (hdata : m'.dataOf id = m.dataOf id)
    (hjoins : joinsOf m' id = joinsOf m id) : DataShows book m' id := by
  have hlast : lastDevice m' id = lastDevice m id := by
    unfold lastDevice
    rw [hjoins]
  constructor
  · rw [hlast, hdata]
    exact h.device
  · rw [hlast, hdata]
    exact h.other

/-- A disconnect in flight outlasts a change that keeps the joins of its socket and brings no
other socket to its device. -/
theorem FlightShows.mono {book : InviteBook} {m m' : GatewayMemory}
    {f : Flight GatewayWaiting GatewayReady} (h : FlightShows book m f)
    (hknown : ∀ id, KnownSocket m id → KnownSocket m' id)
    (hleaves : ∀ id d, leaving f = some id → Leaves m id d → Leaves m' id d) :
    FlightShows book m' f := by
  -- A join in flight needs its socket known, a disconnect in flight the joins that its socket
  -- leaves.
  cases f with
  | waiting pc =>
      cases pc with
      | joinAuthenticates id payload live => exact hknown id h
      | joinAuthorizes id payload session => exact hknown id h
      | joinCandidateReads id payload => exact ⟨hknown id h.1, h.2⟩
      | disconnectUpserts id inviteToken deviceRole =>
          obtain ⟨d, hd, hrest⟩ := h
          exact ⟨d, hleaves id d rfl hd, hrest⟩
      | disconnectLogs id inviteToken eventType =>
          obtain ⟨d, hd, hrest⟩ := h
          exact ⟨d, hleaves id d rfl hd, hrest⟩
      | _ => trivial
  | ready reply =>
      cases reply with
      | joinAuthenticated id payload session => exact hknown id h
      | joinAuthorized id payload answer => exact hknown id h
      | candidateInviteRead id payload invite => exact ⟨hknown id h.1, h.2⟩
      | deviceUpserted id answer =>
          cases answer with
          | ok answer =>
              obtain ⟨d, hd⟩ := h
              exact ⟨d, hleaves id d rfl hd⟩
          | error error => trivial
      | _ => trivial

section
variable {book : InviteBook} {w : GatewayWorld} {m : GatewayMemory}

/-- A segment that only stands by keeps a device left: no other connected socket has joined as the
last device of the socket, before it as after it. -/
theorem Bystands.leaves (hw : DevicesShown book w) (h : Bystands w.memory m) {id : SocketId}
    {d : SocketDevice} (hd : Leaves w.memory id d) : Leaves m id d := by
  refine ⟨?_, fun hoccupied => hd.2 ?_⟩
  · unfold lastDevice
    rw [h.joins]
    exact hd.1
  · obtain ⟨other, hne, hconnected, hjoined⟩ := hoccupied
    unfold HasJoinedAs at hjoined
    rw [h.joins] at hjoined
    rcases h.connected other hconnected with hconnected | hfresh
    · exact ⟨other, hne, hconnected, hjoined⟩
    · exact absurd hfresh (hw.known other (List.ne_nil_of_mem hjoined))

/-- A change without a join keeps what is known of the sockets and of the calls in flight. -/
theorem Bystands.shown (hw : DevicesShown book w) (h : Bystands w.memory m) :
    (∀ id, DataShows book m id) ∧ (∀ id, joinsOf m id ≠ [] → KnownSocket m id) ∧
      ∀ f, FlightShows book w.memory f → FlightShows book m f := by
  refine ⟨fun id => (hw.data id).congr (h.data id) (h.joins id), fun id hid => ?_,
    fun f hf => hf.mono h.known fun id d _ hd => h.leaves hw hd⟩
  rw [h.joins] at hid
  exact h.known id (hw.known id hid)

/-- So does a join that stays apart from the disconnects in flight. -/
theorem Joins.shown {id : SocketId} {join : Option SocketDevice} (hw : DevicesShown book w)
    (h : Joins w.memory m id join) (hknown : KnownSocket w.memory id) (hdata : DataShows book m id)
    (hapart : JoinsApart w id join) :
    (∀ k, DataShows book m k) ∧ (∀ k, joinsOf m k ≠ [] → KnownSocket m k) ∧
      ∀ k f, w.flights.get? k = some f → FlightShows book m f := by
  have hjoins : ∀ k, k ≠ id → joinsOf m k = joinsOf w.memory k := fun k hk => by
    rw [h.joins, if_neg hk]
  refine ⟨fun k => ?_, fun k hk => ?_, fun k f hf => ?_⟩
  · by_cases hk : k = id
    · exact hk ▸ hdata
    · exact (hw.data k).congr (h.data k hk) (hjoins k hk)
  · by_cases hid : k = id
    · exact h.known k (hid ▸ hknown)
    · rw [hjoins k hid] at hk
      exact h.known k (hw.known k hk)
  · refine (hw.flights k f hf).mono h.known fun other d hleaving hd => ?_
    obtain ⟨hother, hdevice⟩ := hapart k f other hf hleaving
    refine ⟨?_, fun hoccupied => hd.2 ?_⟩
    · unfold lastDevice
      rw [hjoins other hother]
      exact hd.1
    · obtain ⟨socket, hne, hconnected, hjoined⟩ := hoccupied
      refine ⟨socket, hne, (h.connected socket) ▸ hconnected, ?_⟩
      unfold HasJoinedAs at hjoined ⊢
      rw [h.joins] at hjoined
      split at hjoined
      · -- The socket that joins does not join as the device that is being left.
        rcases List.mem_append.mp hjoined with hold | hnew
        · exact hold
        · exact absurd hd.1 (hdevice d (List.mem_singleton.mp hnew).symm)
      · exact hjoined

end

/-! ### Segments -/

/-- Behind a join, the last device of the socket is the one of this join, or none for a join as a
proctor. -/
theorem Joins.lastDevice {m m' : GatewayMemory} {id : SocketId} {join : Option SocketDevice}
    (h : Joins m m' id join) : lastDevice m' id = join := by
  unfold Dcvp.Proofs.lastDevice
  rw [h.joins, if_pos rfl, List.getLast?_concat]
  rfl

/-- `handleDisconnect` finds the device of the last join, or none where the socket has joined with
no device. -/
theorem candidateDevice_eq {book : InviteBook} {m : GatewayMemory} {id : SocketId}
    (h : DataShows book m id) :
    (lastDevice m id = none ∧ m.candidateDevice id = none) ∨
      ∃ d inviteToken, lastDevice m id = some d ∧ book.device inviteToken d.deviceRole = some d ∧
        m.candidateDevice id = some (d.examId, d.candidateId, inviteToken, d.deviceRole) := by
  unfold GatewayMemory.candidateDevice
  cases hlast : lastDevice m id with
  | none => exact Or.inl ⟨rfl, by simp [h.other hlast]⟩
  | some d =>
      obtain ⟨hrole, inviteToken, hdevice, hdata⟩ := h.device d hlast
      obtain ⟨invite, hinvite, hd⟩ := Option.map_eq_some_iff.mp hdevice
      obtain ⟨htoken, hexam, hcandidate⟩ := book.named inviteToken invite hinvite
      have hexam' : d.examId ≠ "" := by rw [← hd]; exact hexam
      have hcandidate' : d.candidateId ≠ "" := by rw [← hd]; exact hcandidate
      have hrole' : d.deviceRole ≠ "" := by
        intro hempty
        rw [hempty] at hrole
        exact absurd hrole (by decide)
      refine Or.inr ⟨d, inviteToken, rfl, hdevice, ?_⟩
      rw [hdata]
      simp [Js.truthy, Option.filter, htoken, hexam', hcandidate', hrole']

section
variable {book : InviteBook} {w : GatewayWorld} {m : GatewayMemory}

/-- A closing socket leaves the device of its last join, when it closes as the condition says. -/
theorem leaves_of_closesLast {id : SocketId} {d : SocketDevice} {input : GatewayInput}
    (hcloses : ClosesLast w (.invoke (.disconnected id) input))
    (hlast : lastDevice w.memory id = some d) : Leaves w.memory id d := by
  have hjoined : HasJoinedAs w.memory id d :=
    List.mem_of_getLast? (Option.join_eq_some_iff.mp hlast)
  exact ⟨hlast, (hcloses d hjoined).mp hlast⟩

/-- The first segment of `handleDisconnect` waits to mark the device of the socket's last join,
since no other socket has this device. -/
theorem handleDisconnect_shows (hw : DevicesShown book w) {id : SocketId} {input : GatewayInput}
    (hcloses : ClosesLast w (.invoke (.disconnected id) input)) {pc : GatewayWaiting}
    (h : (w.memory.handleDisconnect id).2 = .suspended pc) :
    WaitingShows book (w.memory.handleDisconnect id).1 pc := by
  have hstays := bystands_handleDisconnect w.memory id
  have hdata := (hw.data id).congr (hstays.data id) (hstays.joins id)
  rw [fst_handleDisconnect] at hdata hstays ⊢
  unfold GatewayMemory.handleDisconnect at h
  rcases candidateDevice_eq hdata with ⟨-, hnone⟩ | ⟨d, inviteToken, hlast, hdevice, hsome⟩
  · simp only [hnone] at h
    cases h
  · simp only [hsome] at h
    cases h
    have hbefore : lastDevice w.memory id = some d := by
      rw [← hlast]
      unfold lastDevice
      rw [hstays.joins]
    exact ⟨d, hstays.leaves hw (leaves_of_closesLast hcloses hbefore), rfl, hdevice⟩

/-- The first segment of each call: no socket joins, and the call waits as the invariant says. -/
theorem start_shows (hw : DevicesShown book w) {call : GatewayCall} {input : GatewayInput}
    {segment : GatewaySegment} (hcloses : ClosesLast w (.invoke call input))
    (h : w.memory.start call input = some segment) :
    Bystands w.memory segment.1 ∧
      ∀ pc, segment.2 = .suspended pc → WaitingShows book segment.1 pc := by
  cases call with
  | connect id handshakeToken =>
      simp only [GatewayMemory.start] at h
      split at h
      · cases h
      · -- The identifier of a new socket was not in use.
        rename_i hfresh
        cases h
        exact ⟨bystands_connect handshakeToken hfresh, fun pc hpc => by cases hpc⟩
  | joinAdmin id payload =>
      obtain ⟨hid, heq⟩ := Option.ite_none_right_eq_some.mp h
      cases heq
      refine ⟨Bystands.refl _, fun pc hpc => ?_⟩
      cases hpc
      exact known_of_isConnected hid
  | joinCandidate id payload =>
      obtain ⟨hid, heq⟩ := Option.ite_none_right_eq_some.mp h
      cases heq
      unfold GatewayMemory.joinCandidate
      split
      · rename_i hrole
        refine ⟨Bystands.refl _, fun pc hpc => ?_⟩
        cases hpc
        exact ⟨known_of_isConnected hid, hrole⟩
      · exact ⟨bystands_reject _ _ _, fun pc hpc => by cases hpc⟩
  | signal id event payload =>
      obtain ⟨-, heq⟩ := Option.ite_none_right_eq_some.mp h
      cases heq
      unfold GatewayMemory.assertCanRelay
      simp only []
      split
      · exact ⟨Bystands.refl _, fun pc hpc => by cases hpc; trivial⟩
      · split
        · exact ⟨Bystands.refl _, fun pc hpc => by cases hpc; trivial⟩
        · exact ⟨bystands_reject _ _ _, fun pc hpc => by cases hpc⟩
  | close id =>
      obtain ⟨-, heq⟩ := Option.ite_none_right_eq_some.mp h
      cases heq
      exact ⟨bystands_disconnect _ _, fun pc hpc => by cases hpc⟩
  | disconnected id =>
      obtain ⟨-, heq⟩ := Option.ite_none_right_eq_some.mp h
      cases heq
      exact ⟨bystands_handleDisconnect _ _, fun pc hpc => handleDisconnect_shows hw hcloses hpc⟩
  | sessionRevoked token =>
      obtain ⟨-, heq⟩ := Option.ite_none_left_eq_some.mp h
      cases heq
      exact ⟨bystands_revocation _ _, fun pc hpc => by cases hpc⟩

/-- After a completed `join-admin` the data of the socket agrees with its last join, which is no
device of a candidate. -/
theorem dataShows_registerAdmin {id : SocketId} (payload : JoinAdminPayload)
    (hknown : KnownSocket m id) : DataShows book (m.registerAdmin id payload) id := by
  have hlast := (joins_registerAdmin m id payload).lastDevice
  obtain ⟨hsockets, -, -⟩ := registerAdmin_writes m id payload
  obtain ⟨s, hdata⟩ := dataOf_joined hsockets hknown
  refine ⟨fun d hd => ?_, fun _ hrole => ?_⟩
  · rw [hlast] at hd
    cases hd
  · rw [hdata] at hrole
    cases hrole

/-- The data after a completed `join-candidate` show its device, which the invite of the token
vouches for. -/
theorem dataShows_joinCandidate {id : SocketId} {payload : JoinCandidatePayload}
    {invite : CandidateInvite} (hknown : KnownSocket m id)
    (hrole : payload.deviceRole ∈ proctorDeviceRoles)
    (hfind : book.find? payload.inviteToken = some invite)
    (hmatch : invite.examId = payload.examId ∧ invite.candidateId = payload.candidateId) :
    DataShows book (m.joinCandidateAfterRead id payload invite).1 id := by
  obtain ⟨hjoins, hsockets⟩ := joins_joinCandidate m id hmatch
  have hlast := hjoins.lastDevice
  obtain ⟨s, hdata⟩ := dataOf_joined hsockets hknown
  refine ⟨fun d hd => ?_, fun hnone => ?_⟩
  · rw [hlast, Option.some_inj] at hd
    subst hd
    refine ⟨hrole, payload.inviteToken, ?_, ?_⟩
    · unfold InviteBook.device
      rw [hfind, ← hmatch.1, ← hmatch.2]
      rfl
    · rw [hdata]
      rfl
  · rw [hlast] at hnone
    cases hnone

/-- The next segment of a call. It is a join that stays apart from the disconnects in flight, or no
socket joins. -/
theorem resume_shows (hw : DevicesShown book w) {k : Nat} {reply : GatewayReady}
    {input : GatewayInput} {segment : GatewaySegment}
    (hflight : w.flights.get? k = some (.ready reply)) (hcloses : ClosesLast w (.resume k input))
    (h : w.memory.resume reply input = some segment) :
    (Bystands w.memory segment.1 ∨ ∃ id join, Joins w.memory segment.1 id join ∧
        KnownSocket w.memory id ∧ DataShows book segment.1 id ∧ JoinsApart w id join) ∧
      ∀ pc, segment.2 = .suspended pc → WaitingShows book segment.1 pc := by
  have hreply : ReadyShows book w.memory reply := hw.flights k _ hflight
  cases reply with
  | joinAuthenticated id payload session =>
      cases session with
      | ok session =>
          cases h
          refine ⟨Or.inl (Bystands.refl _), fun pc hpc => ?_⟩
          cases hpc
          exact hreply
      | error error =>
          cases h
          refine ⟨Or.inl (bystands_refuse _ _ _), fun pc hpc => ?_⟩
          unfold GatewayMemory.refuse at hpc
          split at hpc <;> cases hpc
  | joinAuthorized id payload answer =>
      cases answer with
      | ok answer =>
          cases h
          refine ⟨Or.inr ⟨id, none, joins_registerAdmin _ _ _, hreply, ?_, ?_⟩,
            fun pc hpc => by cases hpc⟩
          · exact dataShows_registerAdmin payload hreply
          · exact hcloses (id, none) (by simp [completedJoin, hflight])
      | error error =>
          cases h
          exact ⟨Or.inl (Bystands.refl _), fun pc hpc => by cases hpc⟩
  | candidateInviteRead id payload invite =>
      cases invite with
      | ok invite =>
          cases h
          obtain ⟨hknown, hrole, hfind⟩ := hreply
          by_cases hmatch :
              invite.examId = payload.examId ∧ invite.candidateId = payload.candidateId
          · refine ⟨Or.inr ⟨id, _, (joins_joinCandidate _ id hmatch).1, hknown, ?_, ?_⟩,
              fun pc hpc => ?_⟩
            · exact dataShows_joinCandidate hknown hrole (hfind invite rfl) hmatch
            · exact hcloses (id, some _) (by simp [completedJoin, hflight, hmatch])
            · unfold GatewayMemory.joinCandidateAfterRead at hpc
              split at hpc <;> cases hpc
          · -- The invite does not fit the payload, and the socket joins nothing.
            have hrefused : w.memory.joinCandidateAfterRead id payload invite
                = w.memory.reject id "Candidate invite does not match proctor join payload." := by
              unfold GatewayMemory.joinCandidateAfterRead
              exact if_pos (by rwa [not_and_or] at hmatch)
            rw [hrefused]
            exact ⟨Or.inl (bystands_reject _ _ _), fun pc hpc => by cases hpc⟩
      | error error =>
          cases h
          exact ⟨Or.inl (Bystands.refl _), fun pc hpc => by cases hpc⟩
  | relayAuthenticated id event payload session =>
      cases session with
      | ok session =>
          cases h
          exact ⟨Or.inl (bystands_room _ _ _ _), fun pc hpc => by cases hpc⟩
      | error error =>
          cases h
          refine ⟨Or.inl (bystands_refuse _ _ _), fun pc hpc => ?_⟩
          unfold GatewayMemory.refuse at hpc
          split at hpc <;> cases hpc
  | relayReturned id event payload =>
      cases h
      exact ⟨Or.inl (bystands_room _ _ _ _), fun pc hpc => by cases hpc⟩
  | deviceUpserted id answer =>
      cases answer with
      | ok answer =>
          cases h
          refine ⟨Or.inl (Bystands.refl _), fun pc hpc => ?_⟩
          cases hpc
          -- The data is read again, and it is still that of the last join.
          obtain ⟨d, hleaves⟩ := hreply
          obtain ⟨hrole, inviteToken, hdevice, hdata⟩ := (hw.data id).device d hleaves.1
          refine ⟨d, hleaves, ?_, hrole, ?_⟩
          · rw [hdata]
            simp [disconnectType]
          · rw [hdata]
            exact hdevice
      | error error =>
          cases h
          exact ⟨Or.inl (Bystands.refl _), fun pc hpc => by cases hpc⟩
  | eventLogged id answer =>
      cases answer with
      | ok answer =>
          cases h
          exact ⟨Or.inl (bystands_room _ _ _ _), fun pc hpc => by cases hpc⟩
      | error error =>
          cases h
          exact ⟨Or.inl (Bystands.refl _), fun pc hpc => by cases hpc⟩

/-- An answer of the services shows what it should: only the read of an invite says something new,
and it agrees with the book of invites. -/
theorem execute_shows (hw : DevicesShown book w) {k : Nat} {pc : GatewayWaiting}
    {input : GatewayInput} {records : GatewayRecords} {reply : GatewayReady}
    (hflight : w.flights.get? k = some (.waiting pc))
    (hanswers : AnswersFrom book w (.execute k input))
    (h : gatewayExecute pc input w.database = some (records, reply)) :
    ReadyShows book w.memory reply := by
  have hpc : WaitingShows book w.memory pc := hw.flights k _ hflight
  -- Only the read of an invite says something new; it agrees with the book by `hanswers`.
  cases pc with
  | joinAuthenticates id payload live =>
      obtain ⟨-, heq⟩ := Option.ite_none_right_eq_some.mp h
      cases heq
      exact hpc
  | joinAuthorizes id payload session => cases h; exact hpc
  | joinCandidateReads id payload =>
      cases h
      refine ⟨hpc.1, hpc.2, fun invite hinvite => ?_⟩
      exact hanswers payload.inviteToken (by simp [invitesRead, hflight]) invite
        (by simp [hinvite, Except.toOption])
  | relayAuthenticates id event payload live =>
      obtain ⟨-, heq⟩ := Option.ite_none_right_eq_some.mp h
      cases heq
      trivial
  | relayReturns id event payload => cases h; trivial
  | disconnectUpserts id inviteToken deviceRole =>
      cases h
      obtain ⟨d, hleaves, -⟩ := hpc
      cases input.answer with
      | ok answer => exact ⟨d, hleaves⟩
      | error error => trivial
  | disconnectLogs id inviteToken eventType => cases h; trivial

end

/-! ### Runs -/

/-- A segment of a call keeps the invariant, if the data of the sockets, the calls in flight and
the call's own next operation keep it. -/
theorem devicesShown_conclude {book : InviteBook} {w : GatewayWorld} {k : Nat}
    {m : GatewayMemory} {o : Outcome GatewayWaiting GatewayResult}
    (hdata : ∀ id, DataShows book m id) (hknown : ∀ id, joinsOf m id ≠ [] → KnownSocket m id)
    (hflights : ∀ j f, w.flights.get? j = some f → FlightShows book m f)
    (hwaits : ∀ pc, o = .suspended pc → WaitingShows book m pc) :
    DevicesShown book (w.conclude k m o) := by
  refine ⟨?_, ?_, fun j f hf => ?_⟩
  · rw [World.conclude_memory]
    exact hdata
  · rw [World.conclude_memory]
    exact hknown
  · rw [World.conclude_memory]
    rcases World.conclude_flights w k j m o f hf with ⟨pc, hpc, rfl⟩ | hold
    · exact hwaits pc hpc
    · exact hflights j f hold

/-- One move that meets the condition keeps the invariant. One case for each of the three moves of
a call. -/
theorem step_shows {book : InviteBook} (w : GatewayWorld) (e : GatewayEvent) (w' : GatewayWorld)
    (hw : DevicesShown book w) (hmove : AnswersFrom book w e ∧ ClosesLast w e)
    (h : gatewayMachine.step w e = some w') : DevicesShown book w' := by
  rcases AsyncProgram.step_cases h with
    ⟨call, input, m, o, rfl, hstart, rfl⟩ | ⟨k, input, pc, d, reply, rfl, hflight, hexec, rfl⟩ |
    ⟨k, input, reply, m, o, rfl, hflight, hresume, rfl⟩
  · obtain ⟨hstays, hwaits⟩ := start_shows hw hmove.2 hstart
    obtain ⟨hdata, hknown, hflights⟩ := hstays.shown hw
    exact devicesShown_conclude (w := { w with nextCall := w.nextCall + 1 }) hdata hknown
      (fun j f hf => hflights f (hw.flights j f hf)) hwaits
  · refine ⟨hw.data, hw.known, fun j f hf => ?_⟩
    replace hf : (w.flights.set k (.ready reply)).get? j = some f := hf
    rw [OrderedMap.get?_set] at hf
    split at hf
    · cases hf
      exact execute_shows hw hflight hmove.1 hexec
    · exact hw.flights j f hf
  · obtain ⟨hstays | ⟨id, join, hjoins, hid, hshows, hapart⟩, hwaits⟩ :=
      resume_shows hw hflight hmove.2 hresume
    · obtain ⟨hdata, hknown, hflights⟩ := hstays.shown hw
      exact devicesShown_conclude hdata hknown (fun j f hf => hflights f (hw.flights j f hf))
        hwaits
    · obtain ⟨hdata, hknown, hflights⟩ := hjoins.shown hw hid hshows hapart
      exact devicesShown_conclude hdata hknown hflights hwaits

/-- Under the invariant, a write to the store is about a device without another socket. -/
theorem marksUnoccupied_of_shown {book : InviteBook} (w : GatewayWorld) (e : GatewayEvent)
    (hw : DevicesShown book w) : MarksUnoccupied book w e := by
  cases e with
  | invoke call input => trivial
  | resume k input => trivial
  | execute k input =>
      constructor
      · intro id inviteToken deviceRole d hflight hdevice
        obtain ⟨d', hleaves, -, hdevice'⟩ := hw.flights k _ hflight
        rw [hdevice, Option.some_inj] at hdevice'
        rw [hdevice']
        exact hleaves.2
      · intro id inviteToken deviceRole d hflight hrole hdevice
        obtain ⟨d', hleaves, htype, hrole', hdevice'⟩ := hw.flights k _ hflight
        -- The type of the event tells the role.
        have hsame : deviceRole = d'.deviceRole := by
          simp only [proctorDeviceRoles, List.mem_cons, List.not_mem_nil, or_false] at hrole hrole'
          unfold disconnectType at htype
          rcases hrole with rfl | rfl <;> rcases hrole' with hrole' | hrole' <;>
            rw [hrole'] at htype ⊢ <;> simp at htype
        rw [← hsame, hdevice, Option.some_inj] at hdevice'
        rw [hdevice']
        exact hleaves.2

/-! ### Completed disconnects -/

/-- Call `k` has marked the device, or it is not over and has to, or it has failed. -/
def Marks (book : InviteBook) (es : List GatewayEvent) (w : GatewayWorld) (k : Nat)
    (id : SocketId) (d : SocketDevice) : Prop :=
  MarkedBy book es k id d ∨
    (∀ result, (k, result) ∈ w.results → result ≠ .ok ()) ∧
      ∀ f, w.flights.get? k = some f →
        (∃ inviteToken, f = .waiting (.disconnectUpserts id inviteToken d.deviceRole) ∧
          book.device inviteToken d.deviceRole = some d) ∨
        ∃ error, f = .ready (.deviceUpserted id (.error error))

/-- A move keeps that a call marks its device: the call is still on its way, or it has ended with
the device marked or with a failed store. -/
theorem Marks.step {book : InviteBook} {es : List GatewayEvent} {w w' : GatewayWorld} {k : Nat}
    {id : SocketId} {d : SocketDevice} {e : GatewayEvent} (hk : k < w.nextCall)
    (hrun : gatewayMachine.run gatewayInitial es = some w) (h : Marks book es w k id d)
    (hstep : gatewayMachine.step w e = some w') : Marks book (es ++ [e]) w' k id d := by
  rcases h with ⟨before, input, v, inviteToken, hmakes, hmarked⟩ | ⟨hresults, hflights⟩
  · exact Or.inl ⟨before, input, v, inviteToken, hmakes.mono (List.prefix_append es [e]), hmarked⟩
  rcases AsyncProgram.step_cases hstep with
    ⟨call, input, m, o, rfl, hstart, rfl⟩ |
    ⟨j, input, pc, records, reply, rfl, hflight, hexec, rfl⟩ |
    ⟨j, input, reply, m, o, rfl, hflight, hresume, rfl⟩
  · -- A new call has another number.
    have hne : k ≠ w.nextCall := Nat.ne_of_lt hk
    refine Or.inr ⟨fun result hin => ?_, fun f hf => ?_⟩
    · rcases World.mem_conclude_results hin with hold | ⟨result', -, heq⟩
      · exact hresults result hold
      · exact absurd (congrArg Prod.fst heq) hne
    · rw [World.conclude_flights_ne _ m o hne] at hf
      exact hflights f hf
  · by_cases hj : k = j
    · subst hj
      obtain ⟨inviteToken, heq, hdevice⟩ | ⟨error, heq⟩ := hflights _ hflight
      · cases heq
        cases hexec
        cases hanswer : input.answer with
        | ok answer => exact Or.inl ⟨es, input, w, inviteToken, Machine.makes_concat hrun _,
            hflight, hdevice, hanswer⟩
        | error error =>
            refine Or.inr ⟨hresults, fun f hf => Or.inr ⟨error, ?_⟩⟩
            replace hf : (w.flights.set k _).get? k = some f := hf
            rw [OrderedMap.get?_set, if_pos rfl, Option.some_inj] at hf
            exact hf.symm
      · cases heq
    · refine Or.inr ⟨hresults, fun f hf => hflights f ?_⟩
      replace hf : (w.flights.set j (.ready reply)).get? k = some f := hf
      rw [OrderedMap.get?_set, if_neg hj] at hf
      exact hf
  · by_cases hj : k = j
    · subst hj
      obtain ⟨inviteToken, heq, -⟩ | ⟨error, heq⟩ := hflights _ hflight
      · cases heq
      · cases heq
        cases hresume
        -- The store has failed, and so does the call.
        refine Or.inr ⟨fun result hin => ?_, fun f hf => ?_⟩
        · rcases World.mem_conclude_results hin with hold | ⟨result', heq, hresult⟩
          · exact hresults result hold
          · cases heq
            cases hresult
            exact fun hok => by cases hok
        · rcases World.conclude_flights w k k w.memory _ f hf with ⟨pc, hpc, -⟩ | hold
          · cases hpc
          · exact hflights f hold
    · refine Or.inr ⟨fun result hin => ?_, fun f hf => ?_⟩
      · rcases World.mem_conclude_results hin with hold | ⟨result', -, heq⟩
        · exact hresults result hold
        · exact absurd (congrArg Prod.fst heq) hj
      · rw [World.conclude_flights_ne w m o hj] at hf
        exact hflights f hf

/-- A disconnect that meets the condition has to mark each device that is left alone. -/
theorem marks_started {book : InviteBook} {es : List GatewayEvent} {w w' : GatewayWorld}
    {id : SocketId} {input : GatewayInput} (hw : DevicesShown book w)
    (hnumbered : AsyncProgram.Numbered w)
    (hcloses : ClosesLast w (.invoke (.disconnected id) input))
    (hstep : gatewayMachine.step w (.invoke (.disconnected id) input) = some w')
    {d : SocketDevice} (hjoined : HasJoinedAs w.memory id d)
    (halone : ¬ Occupied w.memory id d) : Marks book es w' w.nextCall id d := by
  -- A device without another socket is the one of the last join, which the data shows.
  have hlast : lastDevice w.memory id = some d := (hcloses d hjoined).mpr halone
  rcases AsyncProgram.step_cases hstep with
    ⟨call, input', m, o, heq, hstart, rfl⟩ | ⟨j, input', pc, records, reply, heq, -⟩ |
    ⟨j, input', reply, m, o, heq, -⟩
  · cases heq
    obtain ⟨-, hsegment⟩ := Option.ite_none_right_eq_some.mp hstart
    have hstays := bystands_handleDisconnect w.memory id
    have hdata := (hw.data id).congr (hstays.data id) (hstays.joins id)
    rw [fst_handleDisconnect] at hdata hstays
    have hsuspended : ∃ inviteToken, book.device inviteToken d.deviceRole = some d ∧
        o = .suspended (.disconnectUpserts id inviteToken d.deviceRole) := by
      have hafter : lastDevice ({ w.memory with
          closing := w.memory.closing.erase id }.untrackAdminClient id) id = some d := by
        rw [← hlast]
        unfold lastDevice
        rw [hstays.joins]
      rcases candidateDevice_eq hdata with ⟨hnone, -⟩ | ⟨d', inviteToken, hd', hdevice, hsome⟩
      · rw [hafter] at hnone
        cases hnone
      · rw [hafter, Option.some_inj] at hd'
        subst hd'
        have ho := congrArg Prod.snd (Option.some_inj.mp hsegment)
        unfold GatewayMemory.handleDisconnect at ho
        simp only [hsome] at ho
        exact ⟨inviteToken, hdevice, ho.symm⟩
    obtain ⟨inviteToken, hdevice, rfl⟩ := hsuspended
    refine Or.inr ⟨fun result hin => ?_, fun f hf => Or.inl ⟨inviteToken, ?_, hdevice⟩⟩
    -- The number of the call is new: it has no result and no other flight.
    · rcases World.mem_conclude_results hin with hold | ⟨result', ho, -⟩
      · exact absurd (hnumbered.results _ hold) (Nat.lt_irrefl _)
      · cases ho
    · rcases World.conclude_flights _ w.nextCall w.nextCall m _ f hf with ⟨pc, hpc, rfl⟩ | hold
      · cases hpc
        rfl
      · exact absurd (hnumbered.flights _ f hold).1 (Nat.lt_irrefl _)
  · cases heq
  · cases heq

/-- What holds after the events `es`: the invariant, fresh call numbers, and for every end of a
connection in the past, that the devices which it left without a socket get their mark. -/
structure DisconnectsHold (book : InviteBook) (es : List GatewayEvent) (w : GatewayWorld) : Prop
    where
  shown : DevicesShown book w
  numbered : AsyncProgram.Numbered w
  marks : ∀ before id input w₀,
    gatewayMachine.Makes gatewayInitial es before (.invoke (.disconnected id) input) w₀ →
    w₀.nextCall < w.nextCall ∧ ∀ d, HasJoinedAs w₀.memory id d → ¬ Occupied w₀.memory id d →
      Marks book es w w₀.nextCall id d

/-- The numbers of the calls only grow, and a step that takes a new call uses one up. -/
theorem nextCall_le_of_step {w w' : GatewayWorld} {e : GatewayEvent}
    (h : gatewayMachine.step w e = some w') :
    w.nextCall ≤ w'.nextCall ∧ ∀ call input, e = .invoke call input → w.nextCall < w'.nextCall := by
  have hconclude : ∀ (v : GatewayWorld) k m o, (v.conclude k m o).nextCall = v.nextCall := by
    intro v k m o
    cases o <;> rfl
  rcases AsyncProgram.step_cases h with
    ⟨call, input, m, o, rfl, -, rfl⟩ | ⟨j, input, pc, records, reply, rfl, -, -, rfl⟩ |
    ⟨j, input, reply, m, o, rfl, -, -, rfl⟩
  · rw [hconclude]
    exact ⟨Nat.le_succ _, fun _ _ _ => Nat.lt_succ_self _⟩
  · exact ⟨Nat.le_refl _, fun call input heq => by cases heq⟩
  · rw [hconclude]
    exact ⟨Nat.le_refl _, fun call input heq => by cases heq⟩

/-- The step of the result. A disconnect that begins puts its call in flight, and each later move
keeps what is known of it or completes the mark. -/
theorem step_disconnectsHold {book : InviteBook} (es : List GatewayEvent) (w : GatewayWorld)
    (e : GatewayEvent) (w' : GatewayWorld)
    (hrun : gatewayMachine.run gatewayInitial es = some w) (hw : DisconnectsHold book es w)
    (hmove : AnswersFrom book w e ∧ ClosesLast w e) (h : gatewayMachine.step w e = some w') :
    DisconnectsHold book (es ++ [e]) w' where
  shown := step_shows w e w' hw.shown hmove h
  numbered := AsyncProgram.step_numbered w e w' hw.numbered h
  marks before id input w₀ hmakes := by
    obtain ⟨hle, hlt⟩ := nextCall_le_of_step h
    rcases hmakes.concat_cases with hbefore | ⟨rfl, rfl, hrun'⟩
    · obtain ⟨hcall, hmarks⟩ := hw.marks before id input w₀ hbefore
      exact ⟨Nat.lt_of_lt_of_le hcall hle, fun d hd halone =>
        (hmarks d hd halone).step hcall hrun h⟩
    · rw [hrun, Option.some_inj] at hrun'
      subst hrun'
      exact ⟨hlt _ _ rfl, fun d hd halone =>
        marks_started hw.shown hw.numbered hmove.2 h hd halone⟩

/-- What the disconnects of a run do, in two parts: nothing is marked too much, and nothing is
left out. -/
structure DisconnectsMark (book : InviteBook) (es : List GatewayEvent) (w : GatewayWorld) : Prop
    where
  /-- A device is marked, and its disconnect is logged, only while no other connected socket has
  joined as this device. -/
  unoccupied : gatewayMachine.Meets (MarksUnoccupied book) gatewayInitial es
  /-- A completed `handleDisconnect` has marked each device of its socket that is left without a
  socket. -/
  complete : ∀ before id input w₀,
    gatewayMachine.Makes gatewayInitial es before (.invoke (.disconnected id) input) w₀ →
    (w₀.nextCall, .ok ()) ∈ w.results →
    ∀ d, HasJoinedAs w₀.memory id d → ¬ Occupied w₀.memory id d →
      MarkedBy book es w₀.nextCall id d

/-- In every run in which the device that a closing socket joined last is the only one of its
devices without another socket, and in which joins stay apart from the disconnects in flight,
closing sockets mark the devices that they leave and no others. -/
theorem closing_sockets_mark_their_devices (book : InviteBook) (es : List GatewayEvent)
    (w : GatewayWorld)
    (hanswers : gatewayProgram.machine.Meets (AnswersFrom book) gatewayInitial es)
    (hcloses : gatewayProgram.machine.Meets ClosesLast gatewayInitial es)
    (hrun : gatewayProgram.machine.run gatewayInitial es = some w) :
    DisconnectsMark book es w := by
  have hmoves := Machine.Meets.and hanswers hcloses
  refine ⟨?_, fun before id input w₀ hmakes hresult d hjoined halone => ?_⟩
  · exact Machine.guarded_meets step_shows
      (fun w e hw _ => marksUnoccupied_of_shown w e hw) es _ (devicesShown_initial book) hmoves
  · have hinitial : DisconnectsHold book [] gatewayInitial :=
      { shown := devicesShown_initial book
        numbered := AsyncProgram.numbered_initial _ _
        marks := fun before id input w₀ hmakes =>
          absurd (List.prefix_nil.mp hmakes.within) (by simp) }
    have hhold := Machine.guarded_history_invariant hinitial step_disconnectsHold es w hmoves hrun
    obtain ⟨-, hmarks⟩ := hhold.marks before id input w₀ hmakes
    rcases hmarks d hjoined halone with hmarked | ⟨hresults, -⟩
    · exact hmarked
    · exact absurd rfl (hresults _ hresult)

/-! ### A reload -/

/-- A store with one candidate. -/
def inviteBook : InviteBook where
  find? inviteToken := if inviteToken = "invite_1" then some ⟨"exam_1", "cand_1"⟩ else none
  named inviteToken invite h := by
    obtain ⟨rfl, heq⟩ := Option.ite_none_right_eq_some.mp h
    cases heq
    decide

/-- The primary device of the candidate. -/
def primaryDevice : SocketDevice := ⟨"exam_1", "cand_1", "PRIMARY_PC"⟩

/-- A socket connects and joins as the primary device, as call `k + 1`. -/
def connectPrimary (k : Nat) (id : SocketId) : List GatewayEvent :=
  [.invoke (.connect id none) {},
    .invoke (.joinCandidate id ⟨"exam_1", "cand_1", "invite_1", "PRIMARY_PC"⟩) {},
    .execute (k + 1) { invite := .ok ⟨"exam_1", "cand_1"⟩ }, .resume (k + 1) {}]

/-- The connection of a socket ends, and `handleDisconnect` is called. -/
def closeSocket (id : SocketId) : List GatewayEvent :=
  [.invoke (.close id) {}, .invoke (.disconnected id) {}]

/-- The operation for which call `k` waits. -/
def waitsFor (w : GatewayWorld) (k : Nat) : Option GatewayWaiting :=
  match w.flights.get? k with
  | some (.waiting pc) => some pc
  | _ => none

/-- A call that waits for an operation is in flight. -/
theorem waitsFor_eq_some {w : GatewayWorld} {k : Nat} {pc : GatewayWaiting}
    (h : waitsFor w k = some pc) : w.flights.get? k = some (.waiting pc) := by
  unfold waitsFor at h
  split at h
  · rename_i hflight
    cases h
    exact hflight
  · cases h

/-- The page is closed, and opened again after the disconnect has been written. -/
def reopenedPage : List GatewayEvent :=
  connectPrimary 0 "socket_1" ++ closeSocket "socket_1" ++
    [.execute 3 {}, .resume 3 {}, .execute 3 {}, .resume 3 {}] ++ connectPrimary 4 "socket_2"

/-- The page is reloaded: the new socket joins before the old one is closed. -/
def reloadedPage : List GatewayEvent :=
  connectPrimary 0 "socket_1" ++ connectPrimary 2 "socket_2" ++ closeSocket "socket_1"

/-- In this run the condition holds: the page is closed, its device is marked, and it is opened
again behind that. -/
theorem closing_sockets_mark_their_devices_reopened : ∃ w,
    gatewayProgram.machine.run gatewayInitial reopenedPage = some w ∧
      w.database.devices = [("invite_1", "PRIMARY_PC")] ∧
      DisconnectsMark inviteBook reopenedPage w := by
  have hrun : (gatewayProgram.machine.run gatewayInitial reopenedPage).any (fun w =>
      decide (w.database.devices = [("invite_1", "PRIMARY_PC")])) = true := by decide +kernel
  obtain ⟨w, hw, hdevices⟩ := (Option.any_eq_true _ _).mp hrun
  exact ⟨w, hw, of_decide_eq_true hdevices,
    closing_sockets_mark_their_devices inviteBook reopenedPage w (by decide +kernel)
      (by decide +kernel) hw⟩

/-- After the reload the device is connected, and `handleDisconnect` marks it. -/
theorem reload_marks_connected_device :
    gatewayProgram.machine.Meets (AnswersFrom inviteBook) gatewayInitial
        (reloadedPage ++ [.execute 5 {}]) ∧
      ¬ gatewayProgram.machine.Meets (MarksUnoccupied inviteBook) gatewayInitial
        (reloadedPage ++ [.execute 5 {}]) := by
  refine ⟨by decide +kernel, fun hmarks => ?_⟩
  have hrun : (gatewayProgram.machine.run gatewayInitial reloadedPage).any (fun w =>
      decide (waitsFor w 5 = some (.disconnectUpserts "socket_1" "invite_1" "PRIMARY_PC") ∧
        Occupied w.memory "socket_1" primaryDevice)) = true := by decide +kernel
  obtain ⟨w, hw, hcheck⟩ := (Option.any_eq_true _ _).mp hrun
  obtain ⟨hwaits, hoccupied⟩ := of_decide_eq_true hcheck
  exact (Machine.Meets.at hmarks hw).1 _ _ _ _ (waitsFor_eq_some hwaits) rfl hoccupied

end Dcvp.Proofs
