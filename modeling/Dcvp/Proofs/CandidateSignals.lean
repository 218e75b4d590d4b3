import Dcvp.Proofs.CandidateProctorStream
import Dcvp.Proofs.LiveProctorDashboard

/-!
# `Dcvp.Proofs.CandidateSignals`: the page of a candidate's device and the gateway

The page that streams a candidate's camera runs beside the gateway, and all other sockets do
what they like.

* `candidate_offers_confined`: what the page sends names its own device, and reaches none but
  proctors whom the store has let see the exam;
* `candidate_answer_origin`: an answer or a network candidate that the page takes was meant for
  its device, and comes from a proctor of the exam or from the same device.
-/

set_option autoImplicit false

namespace Dcvp.Proofs

open Dcvp.Lib
open Dcvp.Shared
open Dcvp.Modules
open Dcvp.Web
open Dcvp.Web.CandidateProctorStream (setRemoteDescription addIceCandidate)

/-! ### What the page sends, and what it takes -/

/-- The messages of the page of an input: it joins as its device, and every signal names it. -/
def SentByDevice (input : CandidateProctorStreamInput) : ClientMessage → Prop
  | .joinAdmin _ => False
  | .joinCandidate payload => payload =
      ⟨input.examId, input.candidateId, input.inviteToken, input.deviceRole.text⟩
  | .signal event payload => (event = .webrtcOffer ∨ event = .iceCandidate) ∧
      payload.examId = input.examId ∧ payload.candidateId = input.candidateId ∧
      payload.deviceRole = input.deviceRole.text

/-- The page has received the message. -/
def Received (ds : List StreamEvent) (event : SignalEvent) (payload : SignalPayload) : Prop :=
  ∃ socketId, StreamEvent.message (.signal event payload socketId) ∈ ds

/-- What the page has received it has received after more events as well. -/
theorem Received.mono {ds ds' : List StreamEvent} (hds : ds <+: ds') {event : SignalEvent}
    {payload : SignalPayload} (h : Received ds event payload) : Received ds' event payload := by
  obtain ⟨socketId, hin⟩ := h
  exact ⟨socketId, hds.subset hin⟩

/-- What a connection has taken from the other side, the page has received. -/
structure TakenFrom (ds : List StreamEvent) (c : OfferConnection) : Prop where
  answer : ∀ payload, c.remote = some payload → Received ds .webrtcAnswer payload
  candidates : ∀ candidate ∈ c.remoteCandidates, ∃ payload,
    payload.candidate = some candidate ∧ Received ds .iceCandidate payload

/-- What a connection has taken stays received. -/
theorem TakenFrom.mono {ds ds' : List StreamEvent} (hds : ds <+: ds') {c : OfferConnection}
    (h : TakenFrom ds c) : TakenFrom ds' c :=
  ⟨fun payload hp => (h.answer payload hp).mono hds, fun candidate hc => by
    obtain ⟨payload, hpayload, hreceived⟩ := h.candidates candidate hc
    exact ⟨payload, hpayload, hreceived.mono hds⟩⟩

/-- What is known of the page of an input after the events `ds`. -/
structure StreamPage (input : CandidateProctorStreamInput) (ds : List StreamEvent)
    (p : CandidateProctorStream) : Prop where
  device : p.input = input
  sent : ∀ message ∈ p.sent, SentByDevice input message
  taken : ∀ c ∈ p.connections, TakenFrom ds c

namespace StreamPage

variable {input : CandidateProctorStreamInput} {ds : List StreamEvent}
  {p : CandidateProctorStream}

/-- With more events behind it, the page has sent and taken the same. -/
theorem mono {ds' : List StreamEvent} (hds : ds <+: ds') (h : StreamPage input ds p) :
    StreamPage input ds' p :=
  ⟨h.device, h.sent, fun c hc => (h.taken c hc).mono hds⟩

/-- An operation that neither sends nor touches a connection. -/
theorem of_eq {p' : CandidateProctorStream} (h : StreamPage input ds p)
    (hinput : p'.input = p.input) (hsent : p'.sent = p.sent)
    (hconnections : p'.connections = p.connections) : StreamPage input ds p' :=
  ⟨hinput.trans h.device, by rw [hsent]; exact h.sent, by rw [hconnections]; exact h.taken⟩

/-- The page sends one more message, and it is one of the device. -/
theorem emit (h : StreamPage input ds p) {message : ClientMessage}
    (hby : SentByDevice input message) : StreamPage input ds (p.emit message) := by
  refine ⟨h.device, fun sent hin => ?_, h.taken⟩
  replace hin : sent ∈ if p.active then p.sent ++ [message] else p.sent := hin
  split at hin
  · rcases List.mem_append.mp hin with hin | hin
    · exact h.sent sent hin
    · rw [List.mem_singleton.mp hin]
      exact hby
  · exact h.sent sent hin

/-- A change of one connection that takes nothing but what was received. The index may be that of
no connection, and then nothing changes. -/
theorem updateConnection (h : StreamPage input ds p) (i : Nat)
    {f : OfferConnection → OfferConnection}
    (hf : ∀ c, TakenFrom ds c → TakenFrom ds (f c)) :
    StreamPage input ds (p.updateConnection i f) :=
  ⟨h.device, h.sent, forall_mem_modify h.taken (fun c hc => hf c (h.taken c hc)) i⟩

/-- The steps of a `start` send nothing. -/
theorem continueStarter (h : StreamPage input ds p) (starter : Option Nat) (phase : StartPhase) :
    StreamPage input ds (p.continueStarter starter phase) := by
  cases starter with
  | none => exact h
  | some start => exact h.of_eq rfl rfl rfl

/-- To close a connection takes nothing from the other side. -/
theorem closePeer (h : StreamPage input ds p) : StreamPage input ds p.closePeer := by
  unfold CandidateProctorStream.closePeer
  split
  · exact h
  · rename_i i _
    exact ⟨h.device, h.sent, forall_mem_modify (f := ({ · with closed := true })) h.taken
      (fun c hc => ⟨(h.taken c hc).answer, (h.taken c hc).candidates⟩) i⟩

/-- A new connection of the page has been given no answer and no remote candidate yet, so the
invariant of the page goes on. -/
theorem addConnection (h : StreamPage input ds p) (starter : Option Nat) :
    StreamPage input ds { p with
      connections := p.connections ++ [({ starter } : OfferConnection)]
      peerRef := some p.connections.length } := by
  refine ⟨h.device, h.sent, fun c hc => ?_⟩
  rcases List.mem_append.mp hc with hc | hc
  · exact h.taken c hc
  · -- A new connection has taken nothing.
    rw [List.mem_singleton.mp hc]
    exact ⟨fun payload hp => (by cases hp), fun candidate hin => (by cases hin)⟩

/-- To create an offer closes a connection and makes a new one. The offer itself is sent later,
when it has been created. -/
theorem createOffer (h : StreamPage input ds p) (starter : Option Nat) :
    StreamPage input ds (p.createOffer starter) := by
  unfold CandidateProctorStream.createOffer
  split
  · exact (h.closePeer.addConnection starter).continueStarter starter .offering
  · exact h.continueStarter starter .ended

/-- To stop the heartbeat sends nothing. -/
theorem stopHeartbeat (h : StreamPage input ds p) : StreamPage input ds p.stopHeartbeat := by
  unfold CandidateProctorStream.stopHeartbeat
  split
  · exact h
  · exact h.of_eq rfl rfl rfl

/-- A page that has lost its socket stops the heartbeat and reports the loss to the store. Neither
is a message to the gateway. -/
theorem markDisconnected (h : StreamPage input ds p) (detail : String) :
    StreamPage input ds (p.markDisconnected detail) :=
  h.stopHeartbeat.of_eq rfl rfl rfl

/-- To stop the camera sends nothing. -/
theorem stopCamera (h : StreamPage input ds p) : StreamPage input ds p.stopCamera := by
  unfold CandidateProctorStream.stopCamera
  split
  · exact h
  · exact h.of_eq rfl rfl rfl

/-- A camera that is granted is shown, or stopped at once, and nothing is sent for it. -/
theorem cameraGranted (h : StreamPage input ds p) (start : Nat) :
    StreamPage input ds (p.cameraGranted start) := by
  unfold CandidateProctorStream.cameraGranted
  dsimp only
  split
  · split
    · exact h.of_eq rfl rfl rfl
    · exact h.of_eq rfl rfl rfl
  · exact h.of_eq rfl rfl rfl

/-- The signals of the page name its device. -/
theorem signal_by (h : StreamPage input ds p) {event : SignalEvent}
    (hevent : event = .webrtcOffer ∨ event = .iceCandidate)
    (description candidate : Option String) :
    SentByDevice input (.signal event { p.signal with description, candidate }) := by
  rw [← h.device]
  exact ⟨hevent, rfl, rfl, rfl⟩

/-- The join that the page sends is the one of its own device. -/
theorem join_by (h : StreamPage input ds p) :
    SentByDevice input (.joinCandidate ⟨p.input.examId, p.input.candidateId,
      p.input.inviteToken, p.input.deviceRole.text⟩) := by
  rw [h.device]
  rfl

end StreamPage

/-- A connection that takes an answer has taken one that was received. -/
theorem TakenFrom.setRemoteDescription {ds : List StreamEvent} {c : OfferConnection}
    (h : TakenFrom ds c) {payload : SignalPayload} (hreceived : Received ds .webrtcAnswer payload) :
    TakenFrom ds (setRemoteDescription payload c) := by
  unfold CandidateProctorStream.setRemoteDescription
  split
  · refine ⟨fun taken heq => ?_, h.candidates⟩
    cases heq
    exact hreceived
  · exact h

/-- A connection that takes a network candidate has taken one that was received. -/
theorem TakenFrom.addIceCandidate {ds : List StreamEvent} {c : OfferConnection}
    (h : TakenFrom ds c) {payload : SignalPayload} {candidate : String}
    (hcandidate : payload.candidate = some candidate)
    (hreceived : Received ds .iceCandidate payload) :
    TakenFrom ds (addIceCandidate candidate c) := by
  unfold CandidateProctorStream.addIceCandidate
  split
  · refine ⟨h.answer, fun taken hin => ?_⟩
    rcases List.mem_append.mp hin with hin | hin
    · exact h.candidates taken hin
    · rw [List.mem_singleton.mp hin]
      exact ⟨payload, hcandidate, hreceived⟩
  · exact h

/-- The step of the invariant. Each event of the page sends messages of its device only, and gives
a connection only what it brings itself. -/
theorem step_streamPage {input : CandidateProctorStreamInput} {ds : List StreamEvent}
    {p p' : CandidateProctorStream} {d : StreamEvent} (hp : StreamPage input ds p)
    (hstep : streamMachine.step p d = some p') : StreamPage input (ds ++ [d]) p' := by
  have hlast {message : ServerMessage} (hd : d = .message message) :
      StreamEvent.message message ∈ ds ++ [d] :=
    List.mem_append_right _ (List.mem_singleton.mpr hd.symm)
  have h : StreamPage input (ds ++ [d]) p := hp.mono (List.prefix_append ds [d])
  -- Per move: what it emits is by a message that the page has received, or is the page's own join.
  cases step_move hstep with
  | connect => exact h.of_eq rfl rfl rfl
  | disconnect => exact h.markDisconnected _
  | offerRequested payload socketId => exact h.createOffer none
  | answered payload socketId i =>
      exact h.updateConnection i fun c hc => hc.setRemoteDescription ⟨socketId, hlast rfl⟩
  | candidateReceived payload socketId candidate hcandidate i =>
      exact h.updateConnection i fun c hc =>
        hc.addIceCandidate hcandidate ⟨socketId, hlast rfl⟩
  | ignored message hother => exact h
  | cameraGranted start => exact h.cameraGranted start
  | played start stream => exact h.of_eq rfl rfl rfl
  | reported start => exact h.of_eq rfl rfl rfl
  | logged start => exact (h.emit h.join_by).createOffer (some start)
  | refusalReported start detail => exact h.of_eq rfl rfl rfl
  | refused start detail => exact h.of_eq rfl rfl rfl
  | refusalFailed start detail => exact h.of_eq rfl rfl rfl
  | offerCreated i description =>
      exact h.updateConnection i fun c hc => ⟨hc.answer, hc.candidates⟩
  | localDescriptionSet i description starter =>
      -- The offer is sent when its description is set, and the start behind it goes on.
      have hset := h.updateConnection i (f := ({ · with stage := .offered }))
        fun c hc => ⟨hc.answer, hc.candidates⟩
      exact (hset.emit (h.signal_by (Or.inl rfl) (some description) none)).continueStarter
        starter .ended
  | offerFailed i detail =>
      exact h.updateConnection i fun c hc => ⟨hc.answer, hc.candidates⟩
  | offerRefused i detail start =>
      exact (h.updateConnection i (f := ({ · with stage := .failed }))
        fun c hc => ⟨hc.answer, hc.candidates⟩).of_eq rfl rfl rfl
  | networkCandidate i candidate =>
      exact h.emit (h.signal_by (Or.inr rfl) none (some candidate))
  | cameraLost i hwatched =>
      have hoff : StreamPage input _
          { p with streams := p.streams.modify i ({ · with live := false }) } :=
        h.of_eq rfl rfl rfl
      exact hoff.markDisconnected _
  | cameraOff i hwatched => exact h.of_eq rfl rfl rfl
  | heartbeat i => exact h.of_eq rfl rfl rfl
  | visibilityChange hidden detail => exact h.of_eq rfl rfl rfl
  | offline =>
      show StreamPage input _ p.logMobileOffline
      unfold CandidateProctorStream.logMobileOffline
      split
      · exact h
      · exact h.of_eq rfl rfl rfl
  | online =>
      show StreamPage input _ p.logMobileOnline
      unfold CandidateProctorStream.logMobileOnline
      split
      · exact h
      · exact h.of_eq rfl rfl rfl
  | pageLeft =>
      show StreamPage input _ p.logPageLeft
      unfold CandidateProctorStream.logPageLeft
      split
      · exact h
      · exact h.of_eq rfl rfl rfl
  | cleanup => exact h.closePeer.stopHeartbeat.stopCamera.of_eq rfl rfl rfl

/-- By induction on the events, from the page that was just opened. -/
theorem run_streamPage {input : CandidateProctorStreamInput} {ds : List StreamEvent}
    {p : CandidateProctorStream} (h : streamMachine.run { input } ds = some p) :
    StreamPage input ds p :=
  Machine.history_invariant ⟨rfl, fun _ h => (by cases h), fun _ h => (by cases h)⟩
    (fun _ _ _ _ hp hstep => step_streamPage hp hstep) ds p h

/-! ### The page and the gateway -/

section
variable {owns : SocketId → Bool} {input : CandidateProctorStreamInput}
  {es : List (LinkEvent GatewayEvent StreamEvent)}
  {w : LinkState GatewayWorld CandidateProctorStream ServerMessage ClientMessage}

/-- What the page sends in a run with the gateway. -/
theorem stream_sends {message : ClientMessage}
    (h : PageSends streamMachine streamSends { input } (clientEvents es) message) :
    SentByDevice input message := by
  obtain ⟨before, d, u, v, hmakes, hstep, hin⟩ := h
  have hrun : streamMachine.run { input } (before ++ [d]) = some v :=
    (Machine.run_concat_eq_some _ _ _ _).mpr ⟨u, hmakes.reaches, hstep⟩
  exact (run_streamPage hrun).sent message (List.mem_of_mem_drop hin)

/-- The sockets in the room of the proctors of an exam: the store has let each of them see this
exam. -/
theorem receivers_authorized {es : List GatewayEvent} {w : GatewayWorld}
    (hrun : gatewayMachine.run gatewayInitial es = some w) {examId : String}
    {receiver : SocketId} (h : adminRoom examId ∈ roomsOf w.memory receiver) :
    ∃ asked, Authorized es receiver asked ∧ asked.examId = examId := by
  unfold roomsOf at h
  split at h
  · cases h
  · rename_i s hs
    rcases ((run_origin es w hrun).sockets receiver s hs).rooms _ h with
      ⟨asked, hauthorized, hroom, -⟩ | ⟨asked, hadmitted, hroom⟩
    · exact ⟨asked, hauthorized, (adminRoom_inj hroom).symm⟩
    · exact absurd hroom.symm (candidateRoom_ne_adminRoom examId hadmitted.device)

/-- The camera of a candidate is seen by proctors of the exam only. In every run of the gateway
with a page that streams a camera, whatever is relayed for a socket of the page is an offer or a
network candidate of its own device. It goes to the room of the proctors, and each socket in
there has asked for this exam and was let in by `getLiveProctorState`. -/
theorem candidate_offers_confined (owns : SocketId → Bool) (input : CandidateProctorStreamInput)
    (es : List (LinkEvent GatewayEvent StreamEvent))
    (w : LinkState GatewayWorld CandidateProctorStream ServerMessage ClientMessage)
    (hids : gatewayMachine.Meets ServerExamIds gatewayInitial (serverEvents es))
    (hrun : (streamLink owns).machine.run (linkInitial { input }) es = some w)
    (sender : SocketId) (hown : owns sender = true) (target : EmissionTarget)
    (event : SignalEvent) (payload : SignalPayload) (socketId : Option SocketId)
    (hsent : (⟨sender, target, .signal event payload socketId⟩ : Emission)
      ∈ w.server.memory.emissions) :
    SentByDevice input (.signal event payload) ∧ target = .room (adminRoom input.examId) ∧
      ∀ receiver, adminRoom input.examId ∈ roomsOf w.server.memory receiver →
        ∃ asked, Authorized (serverEvents es) receiver asked ∧ asked.examId = input.examId := by
  obtain ⟨hserver, -⟩ := Link.run_parts hrun
  obtain ⟨k, hpassed, -⟩ := (run_scope _ _ hids hserver).emissions _ hsent
  have hby : SentByDevice input (.signal event payload) :=
    stream_sends (signal_sent hrun hown hpassed)
  have hrelay := (run_origin _ _ hserver).emissions _ hsent
  refine ⟨hby, ?_, fun receiver hin => receivers_authorized hserver hin⟩
  obtain ⟨hevent, hexam, -⟩ := hby
  rw [← hexam]
  rcases hevent with rfl | rfl
  · exact hrelay
  · rcases hrelay with ⟨-, asked, hauthorized⟩ | ⟨hroom, -⟩
    · -- The page never asks to join as a proctor.
      exact (stream_sends (joinAdmin_sent hrun hown hauthorized.asks)).elim
    · exact hroom

/-- The offer of the device in a run. -/
def streamedOffer : SignalPayload :=
  { examId := "exam_1", candidateId := "cand_1", deviceRole := "PRIMARY_PC"
    description := some "offer" }

/-- A proctor joins an exam, and the device of a candidate streams its camera. The proctor
answers the offer of the device, and sends a network candidate. -/
def streamedEvents : List (LinkEvent GatewayEvent StreamEvent) :=
  let accepted : GatewayInput := { session := .ok (proctorSession "token_1") }
  let invited : GatewayInput := { invite := .ok ⟨"exam_1", "cand_1"⟩ }
  let answer := { streamedOffer with description := some "answer" }
  let found := { streamedOffer with description := none, candidate := some "candidate" }
  [.server (.invoke (.connect "admin_1" (some "token_1")) {}),
    .server (.invoke (.joinAdmin "admin_1" { examId := "exam_1" }) {}),
    .server (.execute 1 accepted), .server (.resume 1 {}), .server (.execute 1 {}),
    .server (.resume 1 {}),
    .server (.invoke (.connect "page_1" none) {}),
    .client .connect, .client (.cameraGranted 0), .client (.played 0), .client (.reported 0),
    .client (.logged 0), .client (.offerCreated 0 "offer"), .client (.localDescriptionSet 0),
    .server (.invoke (.joinCandidate "page_1" ⟨"exam_1", "cand_1", "invite_1", "PRIMARY_PC"⟩) {}),
    .server (.execute 3 invited), .server (.resume 3 {}),
    .server (.invoke (.signal "page_1" .webrtcOffer streamedOffer) {}),
    .server (.execute 4 {}), .server (.resume 4 {}),
    .server (.invoke (.signal "admin_1" .webrtcAnswer answer) {}),
    .server (.execute 5 accepted), .server (.resume 5 {}),
    .server (.invoke (.signal "admin_1" .iceCandidate found) {}),
    .server (.execute 6 accepted), .server (.resume 6 {}),
    .client (.message (.joinedCandidate "exam_1" "cand_1" "PRIMARY_PC")),
    .client (.message (.signal .webrtcAnswer answer none)),
    .client (.message (.signal .iceCandidate found none))]

/-- The run goes through, the offer of the device reaches the proctors' room, and the page takes
the answer. -/
theorem streamedEvents_run :
    ((streamLink ownsPage).machine.run (linkInitial { input := streamedInput })
        streamedEvents).any (fun w => decide (w.client.connections =
          [⟨some 0, .offered, false, some { streamedOffer with description := some "answer" },
            ["candidate"]⟩] ∧
        (⟨"page_1", .room (adminRoom "exam_1"),
          .signal .webrtcOffer streamedOffer (some "page_1")⟩ : Emission)
            ∈ w.server.memory.emissions)) = true := by
  decide +kernel

/-- The exam of the example has an identifier without a colon. -/
theorem serverExamIds_streamedEvents :
    gatewayMachine.Meets ServerExamIds gatewayInitial (serverEvents streamedEvents) := by
  have hplain : gatewayMachine.Meets (fun w e => plainIds w e = true) gatewayInitial
      (serverEvents streamedEvents) := by decide +kernel
  exact Machine.meets_mono_of_mem (fun e _ w => serverExamIds_of_plain) hplain

/-- The offer of the device goes to the proctors of its exam. -/
theorem candidate_offers_confined_streamed :
    ∃ w, (streamLink ownsPage).machine.run (linkInitial { input := streamedInput })
        streamedEvents = some w ∧
      ∀ receiver, adminRoom "exam_1" ∈ roomsOf w.server.memory receiver →
        ∃ asked, Authorized (serverEvents streamedEvents) receiver asked ∧
          asked.examId = "exam_1" := by
  obtain ⟨w, hrun, hcheck⟩ := (Option.any_eq_true _ _).mp streamedEvents_run
  obtain ⟨-, hsent⟩ := of_decide_eq_true hcheck
  obtain ⟨-, -, hreceivers⟩ := candidate_offers_confined ownsPage streamedInput streamedEvents w
    serverExamIds_streamedEvents hrun "page_1" rfl _ .webrtcOffer _ _ hsent
  exact ⟨w, hrun, hreceivers⟩

/-- A signal that was meant for the device of a page: it names a device with the same key in the
same exam, and its sender passed the check as this device or as a proctor of the exam. -/
structure SignalOrigin (input : CandidateProctorStreamInput) (es : List GatewayEvent)
    (event : SignalEvent) (payload : SignalPayload) : Prop where
  exam : payload.examId = input.examId
  key : streamKey payload = proctorStreamKey input.candidateId input.deviceRole.text
  checked : ∃ k sender before checked, ChecksRelay es k sender event payload before checked ∧
    ((ActsAsCandidate before checked.memory sender payload ∧
        payload.candidateId = input.candidateId ∧
        payload.deviceRole = input.deviceRole.text) ∨
      (ActsAsAdmin checked.memory sender payload ∧
        SessionAccepted es k sender event payload))

/-- The text of a device's role is one of those that the gateway accepts in a join. -/
theorem deviceRole_text_mem (deviceRole : ProctorDeviceRole) :
    deviceRole.text ∈ proctorDeviceRoles := by
  cases deviceRole <;> decide

/-- A signal that the page has received was relayed to it by the gateway, into a room that the
page's socket was in. That is the room of its own device, so the signal names this device, and its
check tells where it came from. -/
theorem signal_received
    (hids : gatewayMachine.Meets ServerExamIds gatewayInitial (serverEvents es))
    (hrun : (streamLink owns).machine.run (linkInitial { input }) es = some w)
    {event : SignalEvent} (hevent : event = .webrtcAnswer ∨ event = .iceCandidate)
    {payload : SignalPayload} (h : Received (clientEvents es) event payload) :
    SignalOrigin input (serverEvents es) event payload := by
  obtain ⟨socketId, hin⟩ := h
  obtain ⟨sender, id, room, hheard⟩ := handled_signal hids hrun hin rfl
  obtain ⟨k, before, checked, hcheck, hpassed, hplain⟩ := hheard.passed
  -- The page is only in the room of its own device.
  have hroom : ':' ∉ input.examId.toList ∧
      room = candidateRoom input.examId input.candidateId input.deviceRole.text := by
    rcases hheard.joined with ⟨asked, hauthorized, -⟩ | ⟨asked, hadmitted, hroom⟩
    · exact (stream_sends (joinAdmin_sent hrun hheard.owned hauthorized.asks)).elim
    · have hasked : asked = ⟨input.examId, input.candidateId, input.inviteToken,
          input.deviceRole.text⟩ :=
        stream_sends (joinCandidate_sent hrun hheard.owned hadmitted.asks)
      have hexam := InviteRead.plain hids hadmitted.invite
      rw [hasked] at hroom hexam
      exact ⟨hexam, hroom⟩
  obtain ⟨hexam, rfl⟩ := hroom
  have htarget : candidateRoom input.examId input.candidateId input.deviceRole.text =
      candidateRoom payload.examId payload.candidateId payload.deviceRole := by
    rcases hevent with rfl | rfl
    · exact EmissionTarget.room.inj hheard.target
    · rcases hheard.target with ⟨hroom, -⟩ | ⟨hroom, -⟩
      · exact EmissionTarget.room.inj hroom
      · exact absurd (EmissionTarget.room.inj hroom)
          (candidateRoom_ne_adminRoom payload.examId (deviceRole_text_mem input.deviceRole))
  have hsame : payload.examId = input.examId :=
    IsRoomOf.exam_unique (Or.inr ⟨_, _, rfl⟩) (Or.inr ⟨_, _, htarget⟩) hexam hplain
  rw [hsame] at htarget
  have hkey : streamKey payload = proctorStreamKey input.candidateId input.deviceRole.text :=
    (key_of_candidateRoom htarget).symm
  refine ⟨hsame, hkey, k, sender, before, checked, hcheck, ?_⟩
  rcases hpassed with hadmin | hcandidate
  · exact Or.inr hadmin
  · obtain ⟨gatewayInput, hmakes⟩ := hcheck.makes
    exact Or.inl ⟨hcandidate, proctorStreamKey_inj hkey (hcandidate.deviceRole hmakes.reaches)
      (deviceRole_text_mem input.deviceRole)⟩

/-- A candidate's device connects to nobody else. In every run of the gateway with a page that
streams a camera, the answer that a connection of the page has taken and each network candidate
that it has added were meant for this device. -/
theorem candidate_answer_origin (owns : SocketId → Bool) (input : CandidateProctorStreamInput)
    (es : List (LinkEvent GatewayEvent StreamEvent))
    (w : LinkState GatewayWorld CandidateProctorStream ServerMessage ClientMessage)
    (hids : gatewayMachine.Meets ServerExamIds gatewayInitial (serverEvents es))
    (hrun : (streamLink owns).machine.run (linkInitial { input }) es = some w)
    (c : OfferConnection) (hc : c ∈ w.client.connections) :
    (∀ payload, c.remote = some payload →
      SignalOrigin input (serverEvents es) .webrtcAnswer payload) ∧
    ∀ candidate ∈ c.remoteCandidates, ∃ payload, payload.candidate = some candidate ∧
      SignalOrigin input (serverEvents es) .iceCandidate payload := by
  obtain ⟨-, hclient⟩ := Link.run_parts hrun
  have htaken := (run_streamPage hclient).taken c hc
  refine ⟨fun payload hremote => ?_, fun candidate hin => ?_⟩
  · exact signal_received hids hrun (Or.inl rfl) (htaken.answer payload hremote)
  · obtain ⟨payload, hcandidate, hreceived⟩ := htaken.candidates candidate hin
    exact ⟨payload, hcandidate, signal_received hids hrun (Or.inr rfl) hreceived⟩

end

/-- The answer and the candidate in the run come from the proctor. -/
theorem candidate_answer_origin_streamed :
    SignalOrigin streamedInput (serverEvents streamedEvents) .webrtcAnswer
        { streamedOffer with description := some "answer" } ∧
      ∃ payload, payload.candidate = some "candidate" ∧
        SignalOrigin streamedInput (serverEvents streamedEvents) .iceCandidate payload := by
  obtain ⟨w, hrun, hcheck⟩ := (Option.any_eq_true _ _).mp streamedEvents_run
  obtain ⟨hconnections, -⟩ := of_decide_eq_true hcheck
  obtain ⟨hanswer, hcandidates⟩ := candidate_answer_origin ownsPage streamedInput streamedEvents w
    serverExamIds_streamedEvents hrun _ (hconnections ▸ List.mem_singleton_self _)
  exact ⟨hanswer _ rfl, hcandidates "candidate" (List.mem_singleton_self _)⟩

end Dcvp.Proofs
