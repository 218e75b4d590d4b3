import Dcvp.Lib.Slot
import Dcvp.Proofs.ProctorSocket
import Dcvp.Web.LiveProctorDashboard

/-!
# `Dcvp.Proofs.LiveProctorDashboard`: whose cameras a proctor sees

Proofs about the page with the cameras of an exam, alone and together with the gateway.

The page alone:

* `PeersHeld`: an open connection is the one that `peersRef` has under its key. So there is at
  most one open connection for each device, and the cleanup closes them all;
* `PageOrigin`: each connection was made for an offer that was received, and an answer or a
  network candidate goes back to the device of such an offer.

With the gateway, whatever all other sockets do:

* `live_stream_origin`: the stream in the tile of a candidate's device was offered in this exam,
  by a socket that acted as this device, or by a proctor of the exam with an active session;
* `live_replies_confined`: what the page sends back reaches only sockets that were admitted
  with an invite of the candidate in whose tile the stream is shown.
-/

set_option autoImplicit false

namespace Dcvp.Proofs

open Dcvp.Lib
open Dcvp.Modules
open Dcvp.Web

/-! ### Changing one connection -/

section
variable (p : LiveProctorDashboard) (key : String) (f : PeerConnection → PeerConnection)

/-- The connections after a change of the one that is kept under a key. The others stay, and
without a connection under the key all of them do. -/
theorem getElem?_updatePeer (i : Nat) :
    (p.updatePeer key f).connections[i]? =
      p.connections[i]?.map fun c => if p.peersRef.get? key = some i then f c else c := by
  unfold LiveProctorDashboard.updatePeer
  cases hkey : p.peersRef.get? key with
  | none => simp
  | some j =>
      show (p.connections.modify j f)[i]? = _
      rw [List.getElem?_modify]
      by_cases hij : j = i
      · subst hij
        simp
      · simp [hij]

/-- No connection appears or goes. -/
@[simp] theorem length_updatePeer :
    (p.updatePeer key f).connections.length = p.connections.length := by
  unfold LiveProctorDashboard.updatePeer
  split
  · rfl
  · exact List.length_modify _ _ _

/-- The references stay. -/
@[simp] theorem peersRef_updatePeer : (p.updatePeer key f).peersRef = p.peersRef := by
  unfold LiveProctorDashboard.updatePeer
  split <;> rfl

/-- The streams that are shown stay. -/
@[simp] theorem streams_updatePeer : (p.updatePeer key f).streams = p.streams := by
  unfold LiveProctorDashboard.updatePeer
  split <;> rfl

/-- The page is there as before. -/
@[simp] theorem mounted_updatePeer : (p.updatePeer key f).mounted = p.mounted := by
  unfold LiveProctorDashboard.updatePeer
  split <;> rfl

/-- The page shows the same exam. -/
@[simp] theorem examId_updatePeer : (p.updatePeer key f).examId = p.examId := by
  unfold LiveProctorDashboard.updatePeer
  split <;> rfl

/-- Nothing is sent. -/
@[simp] theorem sent_updatePeer : (p.updatePeer key f).sent = p.sent := by
  unfold LiveProctorDashboard.updatePeer
  split <;> rfl

end

/-- The offers for which connections were made. -/
def offersOf (p : LiveProctorDashboard) : List SignalPayload := p.connections.map (·.offer)

/-- A change that leaves the offer of a connection leaves the offers of the page. -/
theorem offersOf_updatePeer (p : LiveProctorDashboard) (key : String)
    {f : PeerConnection → PeerConnection} (hf : ∀ c, (f c).offer = c.offer) :
    offersOf (p.updatePeer key f) = offersOf p := by
  unfold LiveProctorDashboard.updatePeer
  split
  · rfl
  · exact map_modify_of_eq hf _ _

/-- Closing a list of connections closes exactly those whose number is in the list. By induction on
the list, with the connections generalised. -/
theorem getElem?_foldl_close (is : List Nat) (cs : List PeerConnection) (j : Nat) :
    (is.foldl (fun cs i => cs.modify i PeerConnection.close) cs)[j]? =
      cs[j]?.map fun c => if j ∈ is then c.close else c := by
  induction is generalizing cs with
  | nil => simp
  | cons i is ih =>
      rw [List.foldl_cons, ih, List.getElem?_modify]
      cases cs[j]? with
      | none => rfl
      | some c =>
          by_cases hij : i = j
          · subst hij
            by_cases hi : i ∈ is <;> simp [hi, PeerConnection.close]
          · have hji : j ≠ i := fun h => hij h.symm
            simp [hij, hji]

/-- To close connections, one after the other, leaves the offer of every connection as it was. -/
theorem map_offer_foldl (is : List Nat) (cs : List PeerConnection) :
    (is.foldl (fun cs i => cs.modify i PeerConnection.close) cs).map (·.offer) =
      cs.map (·.offer) := by
  induction is generalizing cs with
  | nil => rfl
  | cons i is ih =>
      rw [List.foldl_cons, ih]
      exact map_modify_of_eq (f := PeerConnection.close) (fun _ => rfl) cs i

/-! ### One open connection for each device -/

/-- What the page keeps under a key belongs to it, and what is open is kept. -/
structure PeersHeld (p : LiveProctorDashboard) : Prop where
  peers : ∀ key i, p.peersRef.get? key = some i →
    ∃ c, p.connections[i]? = some c ∧ streamKey c.offer = key
  opened : ∀ i c, p.connections[i]? = some c → c.closed = false →
    p.peersRef.get? (streamKey c.offer) = some i
  streams : ∀ key stream, p.streams.get? key = some stream →
    ∃ c, p.connections[stream.connection]? = some c ∧ streamKey c.offer = key
  cleaned : p.mounted = false → p.peersRef = OrderedMap.empty ∧ p.streams = OrderedMap.empty

/-- A change of a connection that opens none keeps the peers held: the connection stays at its
place and with its offer. -/
theorem PeersHeld.updatePeer {p : LiveProctorDashboard} (hp : PeersHeld p) (key : String)
    {f : PeerConnection → PeerConnection} (hf : ∀ c, (f c).offer = c.offer)
    (hclosed : ∀ c, (f c).closed = false → c.closed = false) : PeersHeld (p.updatePeer key f) := by
  -- The connection stays at its place and with its offer, so its key is what it was.
  have hget {i : Nat} {c : PeerConnection} (h : p.connections[i]? = some c) :
      ∃ c', (p.updatePeer key f).connections[i]? = some c' ∧ c'.offer = c.offer := by
    rw [getElem?_updatePeer, h]
    refine ⟨_, rfl, ?_⟩
    split
    · exact hf c
    · rfl
  refine ⟨fun k i hk => ?_, fun i c' hc' hopen => ?_, fun k stream hk => ?_, fun h => ?_⟩
  · rw [peersRef_updatePeer] at hk
    obtain ⟨c, hc, hkey⟩ := hp.peers k i hk
    obtain ⟨c', hc', hoffer⟩ := hget hc
    exact ⟨c', hc', by rw [streamKey, hoffer]; exact hkey⟩
  -- A connection that is open now was open before, so its key was held for it.
  · rw [getElem?_updatePeer] at hc'
    obtain ⟨c, hc, rfl⟩ := Option.map_eq_some_iff.mp hc'
    rw [peersRef_updatePeer]
    split at hopen
    · rename_i hkey
      rw [if_pos hkey, streamKey, hf]
      exact hp.opened i c hc (hclosed c hopen)
    · rename_i hkey
      rw [if_neg hkey]
      exact hp.opened i c hc hopen
  · rw [streams_updatePeer] at hk
    obtain ⟨c, hc, hkey⟩ := hp.streams k stream hk
    obtain ⟨c', hc', hoffer⟩ := hget hc
    exact ⟨c', hc', by rw [streamKey, hoffer]; exact hkey⟩
  · rw [mounted_updatePeer] at h
    rw [peersRef_updatePeer, streams_updatePeer]
    exact hp.cleaned h

/-- Sending a message touches no connection. -/
theorem PeersHeld.sent {p : LiveProctorDashboard} (hp : PeersHeld p)
    (sent : List ClientMessage) : PeersHeld { p with sent } :=
  ⟨hp.peers, hp.opened, hp.streams, hp.cleaned⟩

/-- A new connection takes the place of the one that the device had before. -/
theorem PeersHeld.onOffer {p : LiveProctorDashboard} (hp : PeersHeld p)
    (hmounted : p.mounted = true) (payload : SignalPayload) : PeersHeld (p.onOffer payload) := by
  unfold LiveProctorDashboard.onOffer
  split
  · exact hp
  · set key := streamKey payload with hkey
    set q := p.updatePeer key PeerConnection.close with hq
    have hheld : PeersHeld q := hp.updatePeer key (fun c => rfl) fun c h => by cases h
    have hold {i : Nat} {c : PeerConnection} (h : q.connections[i]? = some c) :
        (q.connections ++ [{ offer := payload }])[i]? = some c := by
      rw [List.getElem?_append_left (List.getElem?_eq_some_iff.mp h).1]
      exact h
    refine ⟨fun k i hk => ?_, fun i c hc hopen => ?_, fun k stream hk => ?_, fun h => ?_⟩
    · replace hk : (q.peersRef.set key q.connections.length).get? k = some i := hk
      rw [OrderedMap.get?_set] at hk
      split at hk
      · rename_i heq
        cases hk
        exact ⟨{ offer := payload }, by simp, heq.symm⟩
      · obtain ⟨c, hc, hkey'⟩ := hheld.peers k i hk
        exact ⟨c, hold hc, hkey'⟩
    · show (q.peersRef.set key q.connections.length).get? (streamKey c.offer) = some i
      replace hc : (q.connections ++ [{ offer := payload }])[i]? = some c := hc
      by_cases hi : i < q.connections.length
      · rw [List.getElem?_append_left hi] at hc
        have hkept := hheld.opened i c hc hopen
        -- The old connection of this device is closed, so an open one has another key.
        have hne : streamKey c.offer ≠ key := by
          intro heq
          rw [heq, hq, peersRef_updatePeer] at hkept
          rw [hq, getElem?_updatePeer] at hc
          obtain ⟨c₀, -, rfl⟩ := Option.map_eq_some_iff.mp hc
          rw [if_pos hkept] at hopen
          cases hopen
        rw [OrderedMap.get?_set_ne _ _ hne]
        exact hkept
      · have hi' : i = q.connections.length := by
          have := (List.getElem?_eq_some_iff.mp hc).1
          rw [List.length_append, List.length_singleton] at this
          omega
        subst hi'
        rw [List.getElem?_append_right (Nat.le_refl _), Nat.sub_self] at hc
        cases hc
        rw [OrderedMap.get?_set, if_pos rfl]
    · obtain ⟨c, hc, hkey'⟩ := hheld.streams k stream hk
      exact ⟨c, hold hc, hkey'⟩
    · replace h : q.mounted = false := h
      rw [hq, mounted_updatePeer, hmounted] at h
      cases h

/-- The handlers of the page keep the invariant: an offer closes the connection of its device and
puts a new one in its place, and the other messages change no connection but the one of their
device. -/
theorem PeersHeld.onMessage {p : LiveProctorDashboard} (hp : PeersHeld p)
    (hmounted : p.mounted = true) (message : ServerMessage) : PeersHeld (p.onMessage message) := by
  -- The messages that touch a connection are an offer, a candidate and the end of a device.
  cases message with
  | joinedAdmin examId => exact hp
  | joinedCandidate examId candidateId deviceRole => exact hp
  | proctorError message => exact hp
  | deviceJoined socketId candidateId deviceRole => exact hp.sent _
  | deviceLeft candidateId deviceRole =>
      -- The device has left: its connection is closed and its stream is shown no more.
      set key := proctorStreamKey candidateId deviceRole with hkey
      have hheld : PeersHeld (p.updatePeer key PeerConnection.close) :=
        hp.updatePeer key (fun c => rfl) fun c h => by cases h
      refine ⟨hheld.peers, hheld.opened, fun k stream hk => ?_, fun h => ?_⟩
      · replace hk : (p.streams.delete key).get? k = some stream := hk
        rw [OrderedMap.get?_delete] at hk
        split at hk
        · cases hk
        · exact hheld.streams k stream (by rw [streams_updatePeer]; exact hk)
      · replace h : (p.updatePeer key PeerConnection.close).mounted = false := h
        rw [mounted_updatePeer, hmounted] at h
        cases h
  | signal event payload socketId =>
      cases event with
      | requestOffer => exact hp
      | webrtcAnswer => exact hp
      | webrtcOffer => exact hp.onOffer hmounted payload
      | iceCandidate =>
          show PeersHeld (p.onIceCandidate payload)
          unfold LiveProctorDashboard.onIceCandidate
          split
          · exact hp
          · refine hp.updatePeer _ (fun c => ?_) fun c h => ?_
            · unfold PeerConnection.addIceCandidate
              split <;> rfl
            · unfold PeerConnection.addIceCandidate at h
              split at h <;> exact h

/-- An open connection is one of the page's, and not closed. -/
theorem openConnection_eq_some {p : LiveProctorDashboard} {i : Nat} {c : PeerConnection}
    (h : p.openConnection i = some c) : p.connections[i]? = some c ∧ c.closed = false := by
  obtain ⟨hc, hopen⟩ := Option.filter_eq_some_iff.mp h
  exact ⟨hc, by simpa using hopen⟩

/-- An open connection means that the page is still there: after the cleanup none is open. -/
theorem PeersHeld.mounted {p : LiveProctorDashboard} (hp : PeersHeld p) {i : Nat}
    {c : PeerConnection} (h : p.openConnection i = some c) : p.mounted = true := by
  obtain ⟨hc, hopen⟩ := openConnection_eq_some h
  by_contra hmounted
  obtain ⟨hempty, -⟩ := hp.cleaned (Bool.not_eq_true _ ▸ hmounted)
  have hkept := hp.opened i c hc hopen
  rw [hempty] at hkept
  cases hkept

/-- The cleanup closes what is kept, and so everything, because each open connection is kept under
the key of its offer. -/
theorem PeersHeld.cleanup {p : LiveProctorDashboard} (hp : PeersHeld p) :
    PeersHeld p.cleanup where
  peers key i h := by cases h
  opened i c hc hopen := by
    replace hc : (p.peersRef.values.foldl (fun cs i => cs.modify i PeerConnection.close)
      p.connections)[i]? = some c := hc
    rw [getElem?_foldl_close] at hc
    obtain ⟨c₀, hc₀, rfl⟩ := Option.map_eq_some_iff.mp hc
    by_cases hi : i ∈ p.peersRef.values
    · rw [if_pos hi] at hopen
      cases hopen
    · rw [if_neg hi] at hopen
      have hkept := (OrderedMap.get?_eq_some_iff _ _ _).mp (hp.opened i c₀ hc₀ hopen)
      exact absurd (List.mem_map.mpr ⟨_, hkept, rfl⟩) hi
  streams key stream h := by cases h
  cleaned _ := ⟨rfl, rfl⟩

/-- Every event of the page keeps each open connection under the key of its offer. -/
theorem step_peersHeld (p : LiveProctorDashboard) (d : DashboardEvent)
    (p' : LiveProctorDashboard) (hp : PeersHeld p) (h : dashboardMachine.step p d = some p') :
    PeersHeld p' := by
  replace h : p.step d = some p' := h
  cases d with
  | connect =>
      obtain ⟨-, heq⟩ := Option.ite_none_right_eq_some.mp h
      cases heq
      exact hp.sent _
  | message message =>
      obtain ⟨hmounted, heq⟩ := Option.ite_none_right_eq_some.mp h
      cases heq
      exact hp.onMessage hmounted message
  | networkCandidate i candidate =>
      obtain ⟨c, -, rfl⟩ := Option.map_eq_some_iff.mp h
      exact hp.sent _
  | track i stream =>
      obtain ⟨c, hc, heq⟩ := Option.map_eq_some_iff.mp h
      have hmounted := hp.mounted hc
      cases stream with
      | none =>
          cases heq
          exact hp
      | some id =>
          cases heq
          refine ⟨hp.peers, hp.opened, fun k stream hk => ?_, fun h => ?_⟩
          · replace hk : (p.streams.set (streamKey c.offer) ⟨i, id⟩).get? k = some stream := hk
            rw [OrderedMap.get?_set] at hk
            split at hk
            · rename_i hkey
              cases hk
              exact ⟨c, (openConnection_eq_some hc).1, hkey.symm⟩
            · exact hp.streams k stream hk
          · replace h : p.mounted = false := h
            rw [hmounted] at h
            cases h
  | answer i description =>
      obtain ⟨c, hc, hrest⟩ := Option.bind_eq_some_iff.mp h
      obtain ⟨-, heq⟩ := Option.ite_none_left_eq_some.mp hrest
      cases heq
      -- The connection is the one under its key, and only its `answered` changes.
      obtain ⟨hget, hopen⟩ := openConnection_eq_some hc
      have hpeer : p.updatePeer (streamKey c.offer) ({ · with answered := true }) =
          { p with connections := p.connections.modify i ({ · with answered := true }) } := by
        unfold LiveProctorDashboard.updatePeer
        rw [hp.opened i c hget hopen]
      have hheld := hp.updatePeer (streamKey c.offer) (f := ({ · with answered := true }))
        (fun c => rfl) fun c h => h
      rw [hpeer] at hheld
      exact hheld.sent _
  | liveData examId candidateIds =>
      obtain ⟨-, heq⟩ := Option.ite_none_right_eq_some.mp h
      cases heq
      exact hp.sent _
  | unmount =>
      obtain ⟨-, heq⟩ := Option.ite_none_right_eq_some.mp h
      cases heq
      exact hp.cleanup

/-- A page that was just opened has no connections. -/
theorem peersHeld_initial (examId : String) : PeersHeld { examId } where
  peers key i h := by cases h
  opened i c h := by cases h
  streams key stream h := by cases h
  cleaned h := by cases h

/-- One connection at most is open for each device: in every run of the page, an open connection
is the one that is kept under the key of its device, and a stream is kept under the key of the
device for whose offer its connection was made. After the cleanup no connection is open, no
stream is shown, and no event follows. -/
theorem dashboard_connections (examId : String) (ds : List DashboardEvent)
    (p : LiveProctorDashboard) (h : dashboardMachine.run { examId } ds = some p) :
    (∀ i j c c', p.openConnection i = some c → p.openConnection j = some c' →
      streamKey c.offer = streamKey c'.offer → i = j) ∧
    (∀ key stream, p.streams.get? key = some stream →
      ∃ c, p.connections[stream.connection]? = some c ∧ streamKey c.offer = key) ∧
    (p.mounted = false → (∀ i, p.openConnection i = none) ∧ p.streams = OrderedMap.empty ∧
      ∀ d, dashboardMachine.step p d = none) := by
  have hp := Machine.invariant step_peersHeld ds _ p (peersHeld_initial examId) h
  refine ⟨fun i j c c' hi hj hkey => ?_, hp.streams, fun hmounted => ?_⟩
  -- Both are held under the same key, and a key holds one.
  · obtain ⟨hc, hopen⟩ := openConnection_eq_some hi
    obtain ⟨hc', hopen'⟩ := openConnection_eq_some hj
    have hkept := hp.opened i c hc hopen
    rw [hkey, hp.opened j c' hc' hopen'] at hkept
    exact (Option.some.inj hkept).symm
  -- After the end of the page no connection is held, so none is open, and every event needs one or
  -- the mounted page.
  · have hnone : ∀ i, p.openConnection i = none := by
      intro i
      cases hi : p.openConnection i with
      | none => rfl
      | some c =>
          rw [hp.mounted hi] at hmounted
          cases hmounted
    refine ⟨hnone, (hp.cleaned hmounted).2, fun d => ?_⟩
    cases d with
    | networkCandidate i candidate => exact congrArg (Option.map _) (hnone i)
    | track i stream => exact congrArg (Option.map _) (hnone i)
    | answer i description => exact congrArg (Option.bind · _) (hnone i)
    | _ => exact if_neg (by simp [hmounted])

/-- A device offers twice. Then the page is left. -/
def reofferedEvents : List DashboardEvent :=
  let offer (description : String) : ServerMessage :=
    .signal .webrtcOffer
      { examId := "exam_1", candidateId := "cand_1", deviceRole := "PRIMARY_PC"
        description := some description } (some "device_1")
  [.connect, .message (offer "first"), .track 0 (some "stream_1"), .answer 0 "answer",
    .message (offer "second"), .unmount]

/-- Leaving the page closes the connection of the second offer. -/
theorem dashboard_connections_reoffered :
    ∃ p, dashboardMachine.run { examId := "exam_1" } reofferedEvents = some p ∧
      p.connections.length = 2 ∧ ∀ i, p.openConnection i = none := by
  have hrun : (dashboardMachine.run { examId := "exam_1" } reofferedEvents).any
      (fun p => decide (p.mounted = false ∧ p.connections.length = 2)) = true := by decide +kernel
  obtain ⟨p, hp, hcheck⟩ := (Option.any_eq_true _ _).mp hrun
  obtain ⟨hmounted, hlength⟩ := of_decide_eq_true hcheck
  obtain ⟨-, -, hcleaned⟩ := dashboard_connections "exam_1" reofferedEvents p hp
  exact ⟨p, hp, hlength, (hcleaned hmounted).1⟩

/-! ### What the page sends -/

/-- Both messages name the same device of the same exam. -/
def SameDevice (payload offer : SignalPayload) : Prop :=
  payload.examId = offer.examId ∧ payload.candidateId = offer.candidateId ∧
    payload.deviceRole = offer.deviceRole

/-- What the page of an exam sends, when its connections are for offers with `O`. -/
def SentBy (examId : String) (O : SignalPayload → Prop) : ClientMessage → Prop
  | .joinAdmin payload => payload.examId = examId
  | .joinCandidate _ | .signal .webrtcOffer _ => False
  | .signal .requestOffer _ => True
  | .signal .webrtcAnswer payload | .signal .iceCandidate payload =>
      ∃ offer, O offer ∧ SameDevice payload offer

/-- With more offers, what was sent is still an answer to one of them. -/
theorem SentBy.mono {examId : String} {O O' : SignalPayload → Prop}
    (hsub : ∀ offer, O offer → O' offer) {message : ClientMessage} (h : SentBy examId O message) :
    SentBy examId O' message := by
  have hmono {payload : SignalPayload} (h : ∃ offer, O offer ∧ SameDevice payload offer) :
      ∃ offer, O' offer ∧ SameDevice payload offer := by
    obtain ⟨offer, ho, hsame⟩ := h
    exact ⟨offer, hsub offer ho, hsame⟩
  cases message with
  | joinAdmin payload => exact h
  | joinCandidate payload => exact h
  | signal event payload =>
      cases event with
      | requestOffer => trivial
      | webrtcOffer => exact h
      | webrtcAnswer => exact hmono h
      | iceCandidate => exact hmono h

/-- What an event adds to the offers and to the messages of the page. -/
structure Adds (p : LiveProctorDashboard) (d : DashboardEvent) (p' : LiveProctorDashboard) :
    Prop where
  exam : p'.examId = p.examId
  offers : ∃ new, offersOf p' = offersOf p ++ new ∧
    ∀ offer ∈ new, ∃ socketId, d = .message (.signal .webrtcOffer offer socketId)
  sent : ∃ new, p'.sent = p.sent ++ new ∧
    ∀ message ∈ new, SentBy p.examId (· ∈ offersOf p) message

/-- An event that sends one message. -/
theorem adds_emit {p : LiveProctorDashboard} {d : DashboardEvent} {message : ClientMessage}
    (h : SentBy p.examId (· ∈ offersOf p) message) : Adds p d (p.emit message) where
  exam := rfl
  offers := ⟨[], (List.append_nil _).symm, fun _ h => by cases h⟩
  sent := ⟨[message], rfl, fun m hm => by rw [List.mem_singleton.mp hm]; exact h⟩

/-- An event that makes no connection and sends nothing. -/
theorem adds_nothing {p p' : LiveProctorDashboard} {d : DashboardEvent}
    (hexam : p'.examId = p.examId) (hoffers : offersOf p' = offersOf p)
    (hsent : p'.sent = p.sent) : Adds p d p' where
  exam := hexam
  offers := ⟨[], by rw [hoffers, List.append_nil], fun _ h => by cases h⟩
  sent := ⟨[], by rw [hsent, List.append_nil], fun _ h => by cases h⟩

/-- A change of one connection that leaves its offer. -/
theorem adds_updatePeer (p : LiveProctorDashboard) (d : DashboardEvent) (key : String)
    {f : PeerConnection → PeerConnection} (hf : ∀ c, (f c).offer = c.offer) :
    Adds p d (p.updatePeer key f) :=
  adds_nothing (examId_updatePeer p key f) (offersOf_updatePeer p key hf) (sent_updatePeer p key f)

/-- What a handler adds: an offer comes with its own message, and answers go to offers that the
page has. -/
theorem adds_onMessage (p : LiveProctorDashboard) (message : ServerMessage) :
    Adds p (.message message) (p.onMessage message) := by
  -- Only an offer adds a connection, and only a device that joins makes the page send.
  cases message with
  | joinedAdmin examId => exact adds_nothing rfl rfl rfl
  | joinedCandidate examId candidateId deviceRole => exact adds_nothing rfl rfl rfl
  | proctorError message => exact adds_nothing rfl rfl rfl
  | deviceJoined socketId candidateId deviceRole => exact adds_emit trivial
  | deviceLeft candidateId deviceRole =>
      exact adds_nothing (examId_updatePeer p _ _) (offersOf_updatePeer p _ fun c => rfl)
        (sent_updatePeer p _ _)
  | signal event payload socketId =>
      cases event with
      | requestOffer => exact adds_nothing rfl rfl rfl
      | webrtcAnswer => exact adds_nothing rfl rfl rfl
      | webrtcOffer =>
          show Adds p _ (p.onOffer payload)
          unfold LiveProctorDashboard.onOffer
          split
          · exact adds_nothing rfl rfl rfl
          · refine ⟨examId_updatePeer p _ _, ⟨[payload], ?_, fun offer hin => ?_⟩, [], ?_,
              fun _ h => by cases h⟩
            · show ((p.updatePeer _ _).connections ++ [({ offer := payload } : PeerConnection)]).map
                PeerConnection.offer = _
              rw [List.map_append]
              exact congrArg (· ++ [payload]) (offersOf_updatePeer p _ fun c => rfl)
            · rw [List.mem_singleton.mp hin]
              exact ⟨socketId, rfl⟩
            · rw [List.append_nil]
              exact sent_updatePeer p _ _
      | iceCandidate =>
          show Adds p _ (p.onIceCandidate payload)
          unfold LiveProctorDashboard.onIceCandidate
          split
          · exact adds_nothing rfl rfl rfl
          · refine adds_updatePeer p _ _ fun c => ?_
            unfold PeerConnection.addIceCandidate
            split <;> rfl

/-- An open connection was made for an offer of the page. -/
theorem mem_offersOf {p : LiveProctorDashboard} {i : Nat} {c : PeerConnection}
    (h : p.openConnection i = some c) : c.offer ∈ offersOf p :=
  List.mem_map_of_mem (List.mem_of_getElem? (openConnection_eq_some h).1)

/-- What a step of the page adds, for each kind of event: messages to the gateway, of which each
has its reason, and at most one connection. -/
theorem step_adds {p p' : LiveProctorDashboard} {d : DashboardEvent}
    (h : dashboardMachine.step p d = some p') : Adds p d p' := by
  replace h : p.step d = some p' := h
  -- Per event: what is sent is the join of the page, goes to the peer whose offer the connection
  -- has, or asks a device of the exam for an offer.
  cases d with
  | connect =>
      obtain ⟨-, heq⟩ := Option.ite_none_right_eq_some.mp h
      cases heq
      exact adds_emit rfl
  | message message =>
      obtain ⟨-, heq⟩ := Option.ite_none_right_eq_some.mp h
      cases heq
      exact adds_onMessage p message
  | networkCandidate i candidate =>
      obtain ⟨c, hc, rfl⟩ := Option.map_eq_some_iff.mp h
      exact adds_emit ⟨c.offer, mem_offersOf hc, rfl, rfl, rfl⟩
  | track i stream =>
      obtain ⟨c, -, heq⟩ := Option.map_eq_some_iff.mp h
      cases stream with
      | none => cases heq; exact adds_nothing rfl rfl rfl
      | some id => cases heq; exact adds_nothing rfl rfl rfl
  | answer i description =>
      obtain ⟨c, hc, hrest⟩ := Option.bind_eq_some_iff.mp h
      obtain ⟨-, heq⟩ := Option.ite_none_left_eq_some.mp hrest
      cases heq
      refine ⟨rfl, ⟨[], ?_, fun _ h => by cases h⟩, [_], rfl, fun m hm => ?_⟩
      · rw [List.append_nil]
        have hf : ∀ c : PeerConnection, { c with answered := true }.offer = c.offer := fun c => rfl
        exact map_modify_of_eq hf p.connections i
      · rw [List.mem_singleton.mp hm]
        exact ⟨c.offer, mem_offersOf hc, rfl, rfl, rfl⟩
  | liveData examId candidateIds =>
      obtain ⟨-, heq⟩ := Option.ite_none_right_eq_some.mp h
      cases heq
      refine ⟨rfl, ⟨[], (List.append_nil _).symm, fun _ h => by cases h⟩, _, rfl, fun m hm => ?_⟩
      obtain ⟨candidateId, -, hm⟩ := List.mem_flatMap.mp hm
      obtain ⟨deviceRole, -, rfl⟩ := List.mem_map.mp hm
      trivial
  | unmount =>
      obtain ⟨-, heq⟩ := Option.ite_none_right_eq_some.mp h
      cases heq
      exact adds_nothing rfl (map_offer_foldl p.peersRef.values p.connections) rfl

/-- The page has received the offer. -/
def Heard (ds : List DashboardEvent) (offer : SignalPayload) : Prop :=
  ∃ socketId, DashboardEvent.message (.signal .webrtcOffer offer socketId) ∈ ds

/-- An offer that was received stays received. -/
theorem Heard.mono {ds ds' : List DashboardEvent} (hds : ds <+: ds') {offer : SignalPayload}
    (h : Heard ds offer) : Heard ds' offer := by
  obtain ⟨socketId, hin⟩ := h
  exact ⟨socketId, hds.subset hin⟩

/-- What is known of the page of an exam after the events `ds`. -/
structure PageOrigin (examId : String) (ds : List DashboardEvent) (p : LiveProctorDashboard) :
    Prop where
  exam : p.examId = examId
  offers : ∀ offer ∈ offersOf p, Heard ds offer
  sent : ∀ message ∈ p.sent, SentBy examId (Heard ds) message

/-- By induction on the events: each connection was made for an offer that was received, and each
answer goes back to such an offer. -/
theorem run_pageOrigin {examId : String} {ds : List DashboardEvent} {p : LiveProctorDashboard}
    (h : dashboardMachine.run { examId } ds = some p) : PageOrigin examId ds p := by
  refine Machine.history_invariant ⟨rfl, fun _ h => (by cases h), fun _ h => (by cases h)⟩
    (fun ds p d p' hp hstep => ?_) ds p h
  obtain ⟨hexam, ⟨new, hnew, horigin⟩, sent, hsent, hby⟩ := step_adds hstep
  have hlater : ∀ offer, Heard ds offer → Heard (ds ++ [d]) offer :=
    fun offer => Heard.mono (List.prefix_append ds [d])
  refine ⟨hexam.trans hp.exam, fun offer hin => ?_, fun message hin => ?_⟩
  · rw [hnew] at hin
    rcases List.mem_append.mp hin with hin | hin
    · exact hlater offer (hp.offers offer hin)
    · obtain ⟨socketId, rfl⟩ := horigin offer hin
      exact ⟨socketId, List.mem_append_right _ (List.mem_singleton.mpr rfl)⟩
  · rw [hsent] at hin
    rcases List.mem_append.mp hin with hin | hin
    · exact (hp.sent message hin).mono hlater
    · rw [← hp.exam]
      exact (hby message hin).mono fun offer ho => hlater offer (hp.offers offer ho)

/-! ### Keys and rooms -/

/-- The last character of a device role tells the two apart. -/
theorem deviceRole_of_append {a a' r r' : String} (h : a ++ r = a' ++ r')
    (hr : r ∈ proctorDeviceRoles) (hr' : r' ∈ proctorDeviceRoles) : r = r' := by
  have hlast := congrArg (fun s => s.toList.getLast?) h
  simp only [String.toList_append, List.getLast?_append] at hlast
  have hprimary : "PRIMARY_PC".toList.getLast? = some 'C' := by decide
  have hmobile : "MOBILE_AUX".toList.getLast? = some 'X' := by decide
  simp only [proctorDeviceRoles, List.mem_cons, List.not_mem_nil, or_false] at hr hr'
  rcases hr with rfl | rfl <;> rcases hr' with rfl | rfl
  · rfl
  · rw [hprimary, hmobile] at hlast
    simp at hlast
  · rw [hprimary, hmobile] at hlast
    simp at hlast
  · rfl

/-- The key of a stream determines the candidate and the device, since the two device roles end in
different letters. -/
theorem proctorStreamKey_inj {c c' r r' : String}
    (h : proctorStreamKey c r = proctorStreamKey c' r') (hr : r ∈ proctorDeviceRoles)
    (hr' : r' ∈ proctorDeviceRoles) : c = c' ∧ r = r' := by
  obtain rfl := deviceRole_of_append h hr hr'
  refine ⟨?_, rfl⟩
  have hlist := congrArg String.toList h
  simp only [proctorStreamKey, String.toList_append] at hlist
  exact String.toList_inj.mp (List.append_cancel_right (List.append_cancel_right hlist))

/-- Two rooms of devices in one exam: the keys of the devices are the same. -/
theorem key_of_candidateRoom {e c c' r r' : String}
    (h : candidateRoom e c r = candidateRoom e c' r') :
    proctorStreamKey c r = proctorStreamKey c' r' := by
  have hlist := congrArg String.toList h
  simp only [candidateRoom, String.toList_append, List.append_assoc] at hlist
  refine String.toList_inj.mp ?_
  simp only [proctorStreamKey, String.toList_append, List.append_assoc]
  exact List.append_cancel_left (List.append_cancel_left (List.append_cancel_left hlist))

/-- In one exam no room of a device is the room of the proctors. -/
theorem adminRoom_ne_candidateRoom (e c r : String) : adminRoom e ≠ candidateRoom e c r := by
  intro h
  have hlist := congrArg String.toList h
  simp only [adminRoom, candidateRoom, String.toList_append, List.append_assoc] at hlist
  have hrest := List.append_cancel_left (List.append_cancel_left hlist)
  cases hrest

/-! ### The page and the gateway -/

section
variable {owns : SocketId → Bool} {examId : String}
  {es : List (LinkEvent GatewayEvent DashboardEvent)}
  {w : LinkState GatewayWorld LiveProctorDashboard ServerMessage ClientMessage}

/-- What the page sends in a run with the gateway. -/
theorem dashboard_sends {message : ClientMessage}
    (h : PageSends dashboardMachine dashboardSends { examId } (clientEvents es) message) :
    SentBy examId (Heard (clientEvents es)) message := by
  obtain ⟨before, d, u, v, hmakes, hstep, hin⟩ := h
  have hrun : dashboardMachine.run { examId } (before ++ [d]) = some v :=
    (Machine.run_concat_eq_some _ _ _ _).mpr ⟨u, hmakes.reaches, hstep⟩
  exact ((run_pageOrigin hrun).sent message (List.mem_of_mem_drop hin)).mono
    fun offer => Heard.mono hmakes.within

variable (hids : gatewayMachine.Meets ServerExamIds gatewayInitial (serverEvents es))
  (hrun : (dashboardLink owns).machine.run (linkInitial { examId }) es = some w)

include hids hrun

/-- An offer that the page hears is one of its exam, and its sender has passed the check. -/
theorem offer_heard {offer : SignalPayload} (h : Heard (clientEvents es) offer) :
    offer.examId = examId ∧
      ∃ sender k, CheckPassed (serverEvents es) k sender .webrtcOffer offer := by
  obtain ⟨socketId, hevent⟩ := h
  obtain ⟨sender, id, room, hheard⟩ := handled_signal hids hrun hevent rfl
  obtain ⟨k, hpassed⟩ := hheard.passed
  refine ⟨?_, sender, k, hpassed⟩
  have hroom : room = adminRoom offer.examId := EmissionTarget.room.inj hheard.target
  rcases hheard.joined with ⟨asked, hauthorized, hadmin⟩ | ⟨asked, hadmitted, -⟩
  · rw [adminRoom_inj (hroom.symm.trans hadmin)]
    exact dashboard_sends (joinAdmin_sent hrun hheard.owned hauthorized.asks)
  · -- The page never asks to join as a candidate.
    exact (dashboard_sends (joinCandidate_sent hrun hheard.owned hadmitted.asks)).elim

end

/-- Where a stream comes from that is shown for a device of a candidate. -/
structure StreamOrigin (examId : String) (es : List GatewayEvent) (candidateId deviceRole : String)
    (offer : SignalPayload) (sender : SocketId) : Prop where
  exam : offer.examId = examId
  /-- The gateway has checked the offer. Its sender acted as the device, or as a proctor of the
  exam whose session was active. -/
  checked : ∃ k before checked, ChecksRelay es k sender .webrtcOffer offer before checked ∧
    ((ActsAsCandidate before checked.memory sender offer ∧ offer.candidateId = candidateId ∧
        offer.deviceRole = deviceRole) ∨
      (ActsAsAdmin checked.memory sender offer ∧ SessionAccepted es k sender .webrtcOffer offer))

/-- The role of a socket that acts as a candidate's device is one of the device roles. -/
theorem ActsAsCandidate.deviceRole {before : List GatewayEvent} {checked : GatewayWorld}
    {sender : SocketId} {offer : SignalPayload}
    (hrun : gatewayMachine.run gatewayInitial before = some checked)
    (h : ActsAsCandidate before checked.memory sender offer) :
    offer.deviceRole ∈ proctorDeviceRoles := by
  obtain ⟨asked, hadmitted, hdevice⟩ := admitted_of_role (run_origin before checked hrun).sockets
    h.role
  rw [h.device] at hdevice
  rw [Option.some.inj hdevice]
  exact hadmitted.device

/-- No camera is shown for another candidate's. In every run of the gateway with a page of live
proctoring, the stream in the tile of a candidate's device comes from a connection for an offer
of the exam of the page. This offer was sent by a socket that acted as this device of this
candidate, or by a proctor of the exam. -/
theorem live_stream_origin (owns : SocketId → Bool) (examId : String)
    (es : List (LinkEvent GatewayEvent DashboardEvent))
    (w : LinkState GatewayWorld LiveProctorDashboard ServerMessage ClientMessage)
    (hids : gatewayMachine.Meets ServerExamIds gatewayInitial (serverEvents es))
    (hrun : (dashboardLink owns).machine.run (linkInitial { examId }) es = some w)
    (candidateId deviceRole : String) (hrole : deviceRole ∈ shownDeviceRoles)
    (stream : MediaStream)
    (hshown : w.client.streams.get? (proctorStreamKey candidateId deviceRole) = some stream) :
    ∃ c sender, w.client.connections[stream.connection]? = some c ∧
      StreamOrigin examId (serverEvents es) candidateId deviceRole c.offer sender := by
  obtain ⟨-, hclient⟩ := Link.run_parts hrun
  have hheld := Machine.invariant step_peersHeld _ _ _ (peersHeld_initial examId) hclient
  obtain ⟨c, hc, hkey⟩ := hheld.streams _ stream hshown
  have hheard := (run_pageOrigin hclient).offers c.offer
    (List.mem_map_of_mem (List.mem_of_getElem? hc))
  obtain ⟨hexam, sender, k, before, checked, hcheck, hpassed, -⟩ := offer_heard hids hrun hheard
  refine ⟨c, sender, hc, hexam, k, before, checked, hcheck, ?_⟩
  rcases hpassed with hadmin | hcandidate
  · exact Or.inr hadmin
  · obtain ⟨input, hmakes⟩ := hcheck.makes
    exact Or.inl ⟨hcandidate,
      proctorStreamKey_inj hkey (hcandidate.deviceRole hmakes.reaches) hrole⟩

/-- Whether the identifiers in an answer of the services have no colon. -/
def plainIds (w : GatewayWorld) : GatewayEvent → Bool
  | .execute k input =>
      (match w.flights.get? k with
        | some (.waiting (.joinAuthorizes _ payload _)) => decide (':' ∉ payload.examId.toList)
        | _ => true) &&
      match input.invite with
      | .ok invite => decide (':' ∉ invite.examId.toList)
      | .error _ => true
  | _ => true

/-- The test that can be run says what the hypothesis says. -/
theorem serverExamIds_of_plain {w : GatewayWorld} {e : GatewayEvent} (h : plainIds w e = true) :
    ServerExamIds w e := by
  cases e with
  | execute k input =>
      obtain ⟨hflight, hinvite⟩ := (Bool.and_eq_true _ _).mp h
      refine ⟨fun id payload session hwaits _ => ?_, fun invite hread => ?_⟩
      · rw [hwaits] at hflight
        exact of_decide_eq_true hflight
      · rw [hread] at hinvite
        exact of_decide_eq_true hinvite
  | _ => trivial

/-- The offer of a candidate's device. -/
def watchedOffer : SignalPayload :=
  { examId := "exam_1", candidateId := "cand_1", deviceRole := "PRIMARY_PC"
    description := some "offer" }

/-- A proctor opens the page. The device of a candidate joins and offers its stream. The page
shows the stream, and its answer is relayed. -/
def watchedEvents : List (LinkEvent GatewayEvent DashboardEvent) :=
  let accepted : GatewayInput := { session := .ok (proctorSession "token_1") }
  let invited : GatewayInput := { invite := .ok ⟨"exam_1", "cand_1"⟩ }
  [.client .connect,
    .server (.invoke (.connect "page_1" (some "token_1")) {}),
    .server (.invoke (.joinAdmin "page_1" { examId := "exam_1" }) {}),
    .server (.execute 1 accepted), .server (.resume 1 {}), .server (.execute 1 {}),
    .server (.resume 1 {}),
    .server (.invoke (.connect "device_1" none) {}),
    .server (.invoke (.joinCandidate "device_1" ⟨"exam_1", "cand_1", "invite_1", "PRIMARY_PC"⟩) {}),
    .server (.execute 3 invited), .server (.resume 3 {}),
    .server (.invoke (.signal "device_1" .webrtcOffer watchedOffer) {}),
    .server (.execute 4 {}), .server (.resume 4 {}),
    .client (.message (.joinedAdmin "exam_1")),
    .client (.message (.deviceJoined "device_1" "cand_1" "PRIMARY_PC")),
    .client (.message (.signal .webrtcOffer watchedOffer (some "device_1"))),
    .client (.track 0 (some "stream_1")), .client (.answer 0 "answer"),
    .loseToServer,
    .server (.invoke (.signal "page_1" .webrtcAnswer
      { watchedOffer with description := some "answer" }) {}),
    .server (.execute 5 accepted), .server (.resume 5 {})]

/-- The sockets of the page in this run. -/
def ownsPage (id : SocketId) : Bool := id == "page_1"

/-- The run goes through, and the page shows the stream of the device. -/
theorem watchedEvents_run :
    ((dashboardLink ownsPage).machine.run (linkInitial { examId := "exam_1" }) watchedEvents).any
      (fun w => decide (w.client.streams.get? (proctorStreamKey "cand_1" "PRIMARY_PC")
          = some ⟨0, "stream_1"⟩ ∧
        (⟨"page_1", .room (candidateRoom "exam_1" "cand_1" "PRIMARY_PC"),
          .signal .webrtcAnswer { watchedOffer with description := some "answer" } none⟩ :
            Emission) ∈ w.server.memory.emissions)) = true := by
  decide +kernel

/-- The exam of the example has an identifier without a colon. -/
theorem serverExamIds_watchedEvents :
    gatewayMachine.Meets ServerExamIds gatewayInitial (serverEvents watchedEvents) := by
  have hplain : gatewayMachine.Meets (fun w e => plainIds w e = true) gatewayInitial
      (serverEvents watchedEvents) := by decide +kernel
  exact Machine.meets_mono_of_mem (fun e _ w => serverExamIds_of_plain) hplain

/-- The stream of the device is shown in its own tile. -/
theorem live_stream_origin_watched :
    ∃ w c sender, (dashboardLink ownsPage).machine.run (linkInitial { examId := "exam_1" })
        watchedEvents = some w ∧ w.client.connections[0]? = some c ∧
      StreamOrigin "exam_1" (serverEvents watchedEvents) "cand_1" "PRIMARY_PC" c.offer sender := by
  obtain ⟨w, hrun, hcheck⟩ := (Option.any_eq_true _ _).mp watchedEvents_run
  obtain ⟨hshown, -⟩ := of_decide_eq_true hcheck
  obtain ⟨c, sender, hc, horigin⟩ := live_stream_origin ownsPage "exam_1" watchedEvents w
    serverExamIds_watchedEvents hrun "cand_1" "PRIMARY_PC" (by decide) _ hshown
  exact ⟨w, c, sender, hrun, hc, horigin⟩

/-- The sockets in the room of a device of the exam: each was admitted with an invite of a
candidate of the exam, for a device with the same key. -/
theorem receivers_admitted {es : List GatewayEvent} {w : GatewayWorld}
    (hids : gatewayMachine.Meets ServerExamIds gatewayInitial es)
    (hrun : gatewayMachine.run gatewayInitial es = some w) {examId candidateId deviceRole : String}
    (hplain : ':' ∉ examId.toList) {receiver : SocketId}
    (h : candidateRoom examId candidateId deviceRole ∈ roomsOf w.memory receiver) :
    ∃ asked, Admitted es receiver asked ∧ asked.examId = examId ∧
      proctorStreamKey asked.candidateId asked.deviceRole =
        proctorStreamKey candidateId deviceRole := by
  have hroom : IsRoomOf examId (candidateRoom examId candidateId deviceRole) :=
    Or.inr ⟨_, _, rfl⟩
  unfold roomsOf at h
  split at h
  · cases h
  · rename_i s hs
    rcases ((run_origin es w hrun).sockets receiver s hs).rooms _ h with
      ⟨asked, -, hadmin, htold⟩ | ⟨asked, hadmitted, hasked⟩
    · -- The room of the proctors of an exam of the server, which would have to be this exam.
      have hother : ':' ∉ asked.examId.toList :=
        (run_scope es w hids hrun).plain (Or.inl htold)
      have hexam := hroom.exam_unique (Or.inl hadmin) hplain hother
      rw [hexam] at hadmin
      exact absurd hadmin.symm (adminRoom_ne_candidateRoom _ _ _)
    · have hother : ':' ∉ asked.examId.toList := InviteRead.plain hids hadmitted.invite
      have hexam := hroom.exam_unique (Or.inr ⟨_, _, hasked⟩) hplain hother
      refine ⟨asked, hadmitted, hexam, ?_⟩
      rw [askedRoom, hexam] at hasked
      exact key_of_candidateRoom hasked.symm

/-- What a page of live proctoring sends back stays with the device that it answers. In every
run, an answer or a network candidate that the gateway relays for a socket of the page names the
device of an offer that the page has heard, in the exam of the page. It goes to the room of this
device, and each socket in there was admitted with an invite of a candidate of the exam, for a
device whose stream the page shows under the same key. -/
theorem live_replies_confined (owns : SocketId → Bool) (examId : String)
    (es : List (LinkEvent GatewayEvent DashboardEvent))
    (w : LinkState GatewayWorld LiveProctorDashboard ServerMessage ClientMessage)
    (hids : gatewayMachine.Meets ServerExamIds gatewayInitial (serverEvents es))
    (hrun : (dashboardLink owns).machine.run (linkInitial { examId }) es = some w)
    (sender : SocketId) (hown : owns sender = true) (target : EmissionTarget)
    (event : SignalEvent) (hreply : event = .webrtcAnswer ∨ event = .iceCandidate)
    (payload : SignalPayload) (socketId : Option SocketId)
    (hsent : (⟨sender, target, .signal event payload socketId⟩ : Emission)
      ∈ w.server.memory.emissions) :
    (∃ offer, Heard (clientEvents es) offer ∧ SameDevice payload offer) ∧
      payload.examId = examId ∧
      target = .room (candidateRoom examId payload.candidateId payload.deviceRole) ∧
      ∀ receiver, candidateRoom examId payload.candidateId payload.deviceRole
          ∈ roomsOf w.server.memory receiver →
        ∃ asked, Admitted (serverEvents es) receiver asked ∧ asked.examId = examId ∧
          proctorStreamKey asked.candidateId asked.deviceRole = streamKey payload := by
  obtain ⟨hserver, -⟩ := Link.run_parts hrun
  obtain ⟨k, hpassed, -⟩ := (run_scope _ _ hids hserver).emissions _ hsent
  have hby := dashboard_sends (signal_sent hrun hown hpassed)
  have hoffer : ∃ offer, Heard (clientEvents es) offer ∧ SameDevice payload offer := by
    rcases hreply with rfl | rfl
    · exact hby
    · exact hby
  obtain ⟨offer, hheard, hsame⟩ := hoffer
  have hexam : payload.examId = examId := hsame.1.trans (offer_heard hids hrun hheard).1
  have hrelay := (run_origin _ _ hserver).emissions _ hsent
  have htarget : target =
      .room (candidateRoom payload.examId payload.candidateId payload.deviceRole) := by
    rcases hreply with rfl | rfl
    · exact hrelay
    · rcases hrelay with ⟨hroom, -⟩ | ⟨-, asked, hadmitted⟩
      · exact hroom
      · -- The page never asks to join as a candidate.
        exact (dashboard_sends (joinCandidate_sent hrun hown hadmitted.asks)).elim
  obtain ⟨-, -, -, -, hplain⟩ := hpassed
  rw [hexam] at htarget hplain
  exact ⟨⟨offer, hheard, hsame⟩, hexam, htarget,
    fun receiver hin => receivers_admitted hids hserver hplain hin⟩

/-- The answer of the page goes to the device whose stream it shows. -/
theorem live_replies_confined_watched :
    ∃ w, (dashboardLink ownsPage).machine.run (linkInitial { examId := "exam_1" })
        watchedEvents = some w ∧
      ∀ receiver, candidateRoom "exam_1" "cand_1" "PRIMARY_PC"
          ∈ roomsOf w.server.memory receiver →
        ∃ asked, Admitted (serverEvents watchedEvents) receiver asked ∧
          asked.examId = "exam_1" ∧ proctorStreamKey asked.candidateId asked.deviceRole =
            streamKey { watchedOffer with description := some "answer" } := by
  obtain ⟨w, hrun, hcheck⟩ := (Option.any_eq_true _ _).mp watchedEvents_run
  obtain ⟨-, hsent⟩ := of_decide_eq_true hcheck
  obtain ⟨-, -, -, hreceivers⟩ := live_replies_confined ownsPage "exam_1" watchedEvents w
    serverExamIds_watchedEvents hrun "page_1" rfl _ .webrtcAnswer (Or.inl rfl) _ _ hsent
  exact ⟨w, hrun, hreceivers⟩

end Dcvp.Proofs
