import Dcvp.Lib.Slot
import Dcvp.Web.CandidateProctorStream

/-!
# `Dcvp.Proofs.CandidateProctorStream`: the camera of a candidate's device

Proofs about the page that streams a candidate's camera. The page takes up three kinds of things
that must not outlive it: timers, cameras and peer connections.

`Devices` is an abstract view with these things only. `step_devices` says that each event of the
page is one of a few effects on it. Two results follow about every run of the page
(`devices_owned_iff`):

* the open peer connection is always the one that the cleanup closes;
* the heartbeat and the camera are the ones that the cleanup stops, throughout the run, exactly
  when no `start` gets its camera or the answer to its report too late or beside another one.
-/

set_option autoImplicit false

namespace Dcvp.Proofs

open Dcvp.Lib
open Dcvp.Modules
open Dcvp.Web
open Dcvp.Web.CandidateProctorStream (setRemoteDescription addIceCandidate)

/-! ### What an event does -/

/-- The state after an event, without the conditions under which it can happen. -/
inductive StreamMove (p : CandidateProctorStream) :
    StreamEvent → CandidateProctorStream → Prop where
  | connect : StreamMove p .connect { p with starts := p.starts ++ [.camera] }
  | disconnect : StreamMove p .disconnect (p.markDisconnected "proctor socket disconnected")
  | offerRequested (payload : SignalPayload) (socketId : Option SocketId) :
      StreamMove p (.message (.signal .requestOffer payload socketId)) (p.createOffer none)
  | answered (payload : SignalPayload) (socketId : Option SocketId) (i : Nat) :
      StreamMove p (.message (.signal .webrtcAnswer payload socketId))
        (p.updateConnection i (setRemoteDescription payload))
  | candidateReceived (payload : SignalPayload) (socketId : Option SocketId) (candidate : String)
      (hcandidate : payload.candidate = some candidate) (i : Nat) :
      StreamMove p (.message (.signal .iceCandidate payload socketId))
        (p.updateConnection i (addIceCandidate candidate))
  | ignored (message : ServerMessage)
      (hother : ∀ payload socketId, message ≠ .signal .requestOffer payload socketId) :
      StreamMove p (.message message) p
  | cameraGranted (start : Nat) : StreamMove p (.cameraGranted start) (p.cameraGranted start)
  | played (start stream : Nat) : StreamMove p (.played start) (p.report start stream)
  | reported (start : Nat) : StreamMove p (.reported start) (p.reported start)
  | logged (start : Nat) : StreamMove p (.logged start) (p.logged start)
  | refusalReported (start : Nat) (detail : String) : StreamMove p (.refusalReported start)
      ((p.logProctorEvent (permissionDeniedEventType p.input.deviceRole) detail).setPhase start
        .refusalLogging)
  | refused (start : Nat) (detail : String) :
      StreamMove p (.startFailed start detail) (p.refuse start detail)
  | refusalFailed (start : Nat) (detail : String) :
      StreamMove p (.startFailed start detail) (p.setPhase start .ended)
  | offerCreated (i : Nat) (description : String) : StreamMove p (.offerCreated i description)
      (p.updateConnection i ({ · with stage := .setting description }))
  | localDescriptionSet (i : Nat) (description : String) (starter : Option Nat) :
      StreamMove p (.localDescriptionSet i)
        (((p.updateConnection i ({ · with stage := .offered })).emit
          (.signal .webrtcOffer { p.signal with description := some description })).continueStarter
            starter .ended)
  | offerFailed (i : Nat) (detail : String) : StreamMove p (.offerFailed i detail)
      (p.updateConnection i ({ · with stage := .failed }))
  | offerRefused (i : Nat) (detail : String) (start : Nat) :
      StreamMove p (.offerFailed i detail)
        ((p.updateConnection i ({ · with stage := .failed })).refuse start detail)
  | networkCandidate (i : Nat) (candidate : String) :
      StreamMove p (.networkCandidate i candidate)
        (p.emit (.signal .iceCandidate { p.signal with candidate := some candidate }))
  | cameraLost (i : Nat) (hwatched : p.streams[i]?.any (·.watched) = true) :
      StreamMove p (.trackEnded i)
        ({ p with streams := p.streams.modify i ({ · with live := false }) }.markDisconnected
          "camera track ended")
  | cameraOff (i : Nat) (hwatched : p.streams[i]?.any (·.watched) = false) :
      StreamMove p (.trackEnded i)
        { p with streams := p.streams.modify i ({ · with live := false }) }
  | heartbeat (i : Nat) :
      StreamMove p (.heartbeat i) (p.upsertProctorDevice .connected "heartbeat")
  | visibilityChange (hidden : Bool) (detail : String) :
      StreamMove p (.visibilityChange hidden)
        (p.logProctorEvent (visibilityEventType p.input.deviceRole hidden) detail)
  | offline : StreamMove p .offline p.logMobileOffline
  | online : StreamMove p .online p.logMobileOnline
  | pageLeft : StreamMove p .pageLeft p.logPageLeft
  | cleanup : StreamMove p .cleanup p.leave

/-- What the handlers of the socket do with a message is one of the moves: a request makes an
offer, an answer and a network candidate go to a connection, and everything else is ignored. -/
theorem onMessage_move (p : CandidateProctorStream) (message : ServerMessage) :
    StreamMove p (.message message) (p.onMessage message) := by
  unfold CandidateProctorStream.onMessage
  split
  · exact .offerRequested _ _
  · split
    · exact .answered _ _ _
    · exact .ignored _ fun payload socketId heq => by cases heq
  · split
    · exact .ignored _ fun payload socketId heq => by cases heq
    · rename_i hcandidate
      exact .candidateReceived _ _ _ hcandidate _
  · rename_i hother _ _
    exact .ignored _ hother

/-- A step of the page is a move. The conditions under which the event can happen are dropped,
since the views below do not look at them. -/
theorem step_move {p p' : CandidateProctorStream} {d : StreamEvent}
    (h : streamMachine.step p d = some p') : StreamMove p d p' := by
  replace h : p.step d = some p' := h
  -- One case per event, as in `step`. Where the event needs an await or a connection to be there,
  -- the `bind` says that it is.
  cases d with
  | connect =>
      obtain ⟨-, heq⟩ := Option.ite_none_right_eq_some.mp h
      cases heq
      exact .connect
  | disconnect =>
      obtain ⟨-, heq⟩ := Option.ite_none_right_eq_some.mp h
      cases heq
      exact .disconnect
  | message message =>
      obtain ⟨-, heq⟩ := Option.ite_none_right_eq_some.mp h
      cases heq
      exact onMessage_move p message
  | cameraGranted start =>
      obtain ⟨-, heq⟩ := Option.ite_none_right_eq_some.mp h
      cases heq
      exact .cameraGranted start
  | played start =>
      obtain ⟨phase, -, hphase⟩ := Option.bind_eq_some_iff.mp h
      split at hphase
      · cases hphase
        exact .played start _
      · cases hphase
  | reported start =>
      obtain ⟨-, heq⟩ := Option.ite_none_right_eq_some.mp h
      cases heq
      exact .reported start
  | logged start =>
      obtain ⟨-, heq⟩ := Option.ite_none_right_eq_some.mp h
      cases heq
      exact .logged start
  | refusalReported start =>
      obtain ⟨phase, -, hphase⟩ := Option.bind_eq_some_iff.mp h
      split at hphase
      · cases hphase
        exact .refusalReported start _
      · cases hphase
  | startFailed start detail =>
      obtain ⟨phase, -, hphase⟩ := Option.bind_eq_some_iff.mp h
      -- A start that fails before its answer reports the refusal; a failure of that report has only
      -- the log left.
      cases phase with
      | camera | playing | reporting | logging =>
          cases hphase
          exact .refused start detail
      | refusalReporting | refusalLogging =>
          cases hphase
          exact .refusalFailed start detail
      | offering | ended => cases hphase
  | offerCreated i description =>
      obtain ⟨c, -, hstage⟩ := Option.bind_eq_some_iff.mp h
      split at hstage
      · cases hstage
        exact .offerCreated i description
      · cases hstage
  | localDescriptionSet i =>
      obtain ⟨c, -, hstage⟩ := Option.bind_eq_some_iff.mp h
      split at hstage
      · cases hstage
        exact .localDescriptionSet i _ c.starter
      · cases hstage
  | offerFailed i detail =>
      obtain ⟨⟨starter, stage, closed, remote, remoteCandidates⟩, -, hstage⟩ :=
        Option.bind_eq_some_iff.mp h
      cases stage with
      | creating | setting =>
          -- An offer made during a start belongs to that start, which fails with it.
          cases starter with
          | none =>
              cases hstage
              exact .offerFailed i detail
          | some start =>
              cases hstage
              exact .offerRefused i detail start
      | offered | failed => cases hstage
  | networkCandidate i candidate =>
      obtain ⟨c, -, rfl⟩ := Option.map_eq_some_iff.mp h
      exact .networkCandidate i candidate
  | trackEnded i =>
      obtain ⟨stream, hstream, hlive⟩ := Option.bind_eq_some_iff.mp h
      obtain ⟨-, heq⟩ := Option.ite_none_right_eq_some.mp hlive
      have hany : p.streams[i]?.any (·.watched) = stream.watched := by rw [hstream]; rfl
      cases heq
      cases hwatched : stream.watched with
      | true => exact .cameraLost i (hany.trans hwatched)
      | false => exact .cameraOff i (hany.trans hwatched)
  | heartbeat i =>
      obtain ⟨-, heq⟩ := Option.ite_none_right_eq_some.mp h
      cases heq
      exact .heartbeat i
  | visibilityChange hidden =>
      obtain ⟨-, heq⟩ := Option.ite_none_right_eq_some.mp h
      cases heq
      exact .visibilityChange hidden _
  | offline =>
      obtain ⟨-, heq⟩ := Option.ite_none_right_eq_some.mp h
      cases heq
      exact .offline
  | online =>
      obtain ⟨-, heq⟩ := Option.ite_none_right_eq_some.mp h
      cases heq
      exact .online
  | pageLeft =>
      obtain ⟨-, heq⟩ := Option.ite_none_right_eq_some.mp h
      cases heq
      exact .pageLeft
  | cleanup =>
      obtain ⟨-, heq⟩ := Option.ite_none_right_eq_some.mp h
      cases heq
      exact .cleanup

/-! ### Camera, heartbeat and connection -/

/-- What the page takes up and has to give back. -/
structure Devices where
  active : Bool
  /-- The timers of `setInterval`, and `heartbeatIntervalId`. -/
  heartbeat : Slot
  /-- The streams of the camera, and `streamRef`. -/
  camera : Slot
  /-- The peer connections, and `peerRef`. -/
  peer : Slot

/-- Whether a connection is open. -/
def isOpen (c : OfferConnection) : Bool := !c.closed

/-- The view of the page. -/
def devices (p : CandidateProctorStream) : Devices where
  active := p.active
  heartbeat := ⟨p.timers, p.heartbeatIntervalId⟩
  camera := ⟨p.streams.map CameraStream.live, p.streamRef⟩
  peer := ⟨p.connections.map isOpen, p.peerRef⟩

/-- The running heartbeat and the camera that is on are those that the cleanup stops. Once the
page was left, there are none. -/
structure Devices.Owned (v : Devices) : Prop where
  heartbeat : v.heartbeat.OwnedWhile v.active
  camera : v.camera.OwnedWhile v.active

/-- The invariant. The heartbeat that is kept runs, and the open connection is the one that the
cleanup closes. -/
structure Devices.Kept (v : Devices) : Prop where
  heartbeat : v.heartbeat.Kept
  peer : v.peer.OwnedWhile v.active

namespace Devices

variable (v : Devices)

/-- The heartbeat is stopped. -/
def stopHeartbeat : Devices := { v with heartbeat := v.heartbeat.clear }

/-- A camera is granted. One that comes after the cleanup is stopped at once. -/
def newCamera : Devices :=
  { v with camera := if v.active then v.camera.keep else v.camera.addOff }

/-- A camera goes off. -/
def cameraOff (i : Nat) : Devices := { v with camera := v.camera.turnOff i }

/-- A heartbeat is started. -/
def newTimer : Devices := { v with heartbeat := v.heartbeat.keep }

/-- A connection takes the place of the old one, when there is a camera to offer. -/
def newPeer : Devices :=
  if v.active && v.camera.ref.isSome then { v with peer := v.peer.stop.keep } else v

/-- The page is left. -/
def leave : Devices := ⟨false, v.heartbeat.clear, v.camera.stop, v.peer.stop⟩

end Devices

/-- What an event can do to the devices. -/
inductive DeviceEffect where
  | nothing
  | stopHeartbeat
  | newCamera
  | cameraOff (i : Nat)
  /-- The page notices that its camera went off. -/
  | cameraLost (i : Nat)
  | newTimer
  | newPeer
  | leave

namespace DeviceEffect

/-- The devices after an effect. -/
def apply (v : Devices) : DeviceEffect → Devices
  | nothing => v
  | stopHeartbeat => v.stopHeartbeat
  | newCamera => v.newCamera
  | cameraOff i => v.cameraOff i
  | cameraLost i => (v.cameraOff i).stopHeartbeat
  | newTimer => v.newTimer
  | newPeer => v.newPeer
  | leave => v.leave

variable {v : Devices}

/-- Each effect on the devices keeps the invariant of the view. The effects that make a new
connection need the page to be active. -/
theorem apply_kept (h : v.Kept) (effect : DeviceEffect) : (effect.apply v).Kept := by
  cases effect with
  | nothing => exact h
  | stopHeartbeat => exact ⟨Slot.clear_kept, h.peer⟩
  | newCamera => exact ⟨h.heartbeat, h.peer⟩
  | cameraOff i => exact ⟨h.heartbeat, h.peer⟩
  | cameraLost i => exact ⟨Slot.clear_kept, h.peer⟩
  | newTimer => exact ⟨Slot.keep_kept, h.peer⟩
  | newPeer =>
      show v.newPeer.Kept
      unfold Devices.newPeer
      split
      · rename_i hready
        have hactive : v.active = true := (Bool.and_eq_true_iff.mp hready).1
        refine ⟨h.heartbeat, ?_⟩
        exact Slot.keep_ownedWhile_iff.mpr ⟨h.peer.owned.stop_off, hactive⟩
      · exact h
  | leave => exact ⟨Slot.clear_kept, Slot.OwnedWhile.of_off h.peer.owned.stop_off⟩

/-- The effects that leave nothing behind. -/
def Clean (v : Devices) : DeviceEffect → Prop
  | newCamera => v.active = true → v.camera.Off
  | newTimer => v.heartbeat.Off ∧ v.active = true
  | _ => True

/-- A camera that is granted leaves nothing behind exactly when no other one is on, or when the
page was left and the camera is stopped at once. -/
theorem newCamera_owned_iff (h : v.Owned) :
    v.newCamera.Owned ↔ (v.active = true → v.camera.Off) := by
  obtain ⟨active, heartbeat, camera, peer⟩ := v
  obtain ⟨hbeat, hcamera⟩ := h
  cases active with
  | false => exact iff_of_true ⟨hbeat, hcamera.addOff⟩ fun hfalse => by cases hfalse
  | true =>
      constructor
      · intro hnew _
        exact (Slot.keep_ownedWhile_iff.mp hnew.camera).1
      · intro hoff
        exact ⟨hbeat, Slot.keep_ownedWhile_iff.mpr ⟨hoff rfl, rfl⟩⟩

/-- An effect on owned devices leaves them owned exactly when it is a clean one. -/
theorem apply_owned_iff (h : v.Owned) (effect : DeviceEffect) :
    (effect.apply v).Owned ↔ effect.Clean v := by
  have hbeat : v.heartbeat.clear.OwnedWhile v.active :=
    Slot.OwnedWhile.of_off h.heartbeat.owned.clear_off
  -- Only a new camera and a new timer can leave a device that nobody owns; every other effect turns
  -- devices off or leaves them.
  cases effect with
  | nothing => exact iff_of_true h trivial
  | stopHeartbeat => exact iff_of_true ⟨hbeat, h.camera⟩ trivial
  | newCamera => exact newCamera_owned_iff h
  | cameraOff i => exact iff_of_true ⟨h.heartbeat, h.camera.turnOff i⟩ trivial
  | cameraLost i => exact iff_of_true ⟨hbeat, h.camera.turnOff i⟩ trivial
  | newTimer =>
      constructor
      · intro hnew
        exact Slot.keep_ownedWhile_iff.mp hnew.heartbeat
      · intro hclean
        exact ⟨Slot.keep_ownedWhile_iff.mpr hclean, h.camera⟩
  | newPeer =>
      refine iff_of_true ?_ trivial
      show v.newPeer.Owned
      unfold Devices.newPeer
      split
      · exact ⟨h.heartbeat, h.camera⟩
      · exact h
  | leave =>
      exact iff_of_true ⟨Slot.OwnedWhile.of_off h.heartbeat.owned.clear_off,
        Slot.OwnedWhile.of_off h.camera.owned.stop_off⟩ trivial

end DeviceEffect

/-- The effect of an event. -/
def deviceEffect (p : CandidateProctorStream) : StreamEvent → DeviceEffect
  | .disconnect => .stopHeartbeat
  | .message (.signal .requestOffer _ _) => .newPeer
  | .cameraGranted _ => .newCamera
  | .reported _ => .newTimer
  | .logged _ => .newPeer
  | .trackEnded i => if p.streams[i]?.any (·.watched) then .cameraLost i else .cameraOff i
  | .cleanup => .leave
  | _ => .nothing

/-! ### The view after each operation -/

section
variable (p : CandidateProctorStream)

/-- The steps of a `start` in flight are none of the devices. -/
@[simp] theorem devices_continueStarter (starter : Option Nat) (phase : StartPhase) :
    devices (p.continueStarter starter phase) = devices p := by
  cases starter <;> rfl

/-- A change of a connection that does not close it. -/
theorem devices_updateConnection (i : Nat) {f : OfferConnection → OfferConnection}
    (hf : ∀ c, (f c).closed = c.closed) : devices (p.updateConnection i f) = devices p :=
  congrArg (fun on => { devices p with peer := ⟨on, p.peerRef⟩ })
    (map_modify_of_eq (g := isOpen) (fun c => congrArg Bool.not (hf c)) p.connections i)

/-- To close the peer connection turns the kept one off, and keeps its reference. -/
theorem devices_closePeer :
    devices p.closePeer = { devices p with peer := (devices p).peer.stop } := by
  unfold CandidateProctorStream.closePeer Slot.stop
  split
  · rename_i href
    rw [show (devices p).peer.ref = none from href]
  · rename_i i href
    rw [show (devices p).peer.ref = some i from href]
    exact congrArg (fun on => { devices p with peer := ⟨on, p.peerRef⟩ })
      (map_modify_eq_set (g := isOpen) (f := ({ · with closed := true })) (fun _ => rfl)
        p.connections i)

/-- A new connection is open, and takes the place of the kept one. -/
theorem devices_addConnection (starter : Option Nat) :
    devices { p with
      connections := p.connections ++ [({ starter } : OfferConnection)]
      peerRef := some p.connections.length } =
    { devices p with peer := (devices p).peer.keep } := by
  have hlength : p.connections.length = (p.connections.map isOpen).length :=
    (List.length_map _).symm
  show { devices p with
    peer := ⟨(p.connections ++ [({ starter } : OfferConnection)]).map isOpen,
      some p.connections.length⟩ } = _
  rw [List.map_append, hlength]
  rfl

/-- To create an offer closes the old connection and opens a new one, when there is a camera to
offer. -/
theorem devices_createOffer (starter : Option Nat) :
    devices (p.createOffer starter) = (devices p).newPeer := by
  unfold CandidateProctorStream.createOffer Devices.newPeer
  split
  · rename_i i href hactive
    have hready : ((devices p).active && (devices p).camera.ref.isSome) = true := by
      show (p.active && p.streamRef.isSome) = true
      rw [hactive, href]
      rfl
    rw [if_pos hready, devices_continueStarter, devices_addConnection, devices_closePeer]
  · rename_i hnot
    have hready : ¬ ((devices p).active && (devices p).camera.ref.isSome) = true := by
      intro hready
      obtain ⟨hactive, href⟩ := Bool.and_eq_true_iff.mp hready
      obtain ⟨i, hi⟩ := Option.isSome_iff_exists.mp href
      exact hnot i hi hactive
    rw [if_neg hready, devices_continueStarter]

/-- The operation on the page is the operation on the view. -/
theorem devices_stopHeartbeat : devices p.stopHeartbeat = (devices p).stopHeartbeat := by
  unfold CandidateProctorStream.stopHeartbeat Devices.stopHeartbeat Slot.clear Slot.stop
  split
  · rename_i hid
    rw [show (devices p).heartbeat.ref = none from hid]
    exact congrArg (fun ref => { devices p with heartbeat := ⟨p.timers, ref⟩ }) hid
  · rename_i i hid
    rw [show (devices p).heartbeat.ref = some i from hid]
    rfl

/-- A report to the server takes up nothing. -/
theorem devices_report (start stream : Nat) : devices (p.report start stream) = devices p :=
  congrArg (fun on => { devices p with camera := ⟨on, p.streamRef⟩ })
    (map_modify_of_eq (g := CameraStream.live) (f := ({ · with watched := true }))
      (fun _ => rfl) p.streams stream)

/-- A stream that is granted is a camera, on or off as it was when it came. -/
theorem devices_addStream (live : Bool) (streamRef : Option Nat) :
    devices { p with streams := p.streams ++ [({ live } : CameraStream)], streamRef } =
      { devices p with camera := ⟨(devices p).camera.on ++ [live], streamRef⟩ } :=
  congrArg (fun on => { devices p with camera := ⟨on, streamRef⟩ }) List.map_append

/-- A granted camera is kept while the page is there, and stopped at once behind it. -/
theorem devices_cameraGranted (start : Nat) :
    devices (p.cameraGranted start) = (devices p).newCamera := by
  unfold CandidateProctorStream.cameraGranted Devices.newCamera
  split
  · rename_i hactive
    have hlength : p.streams.length = (devices p).camera.on.length := (List.length_map _).symm
    rw [if_pos (show (devices p).active = true from hactive)]
    have hkeep := devices_addStream p true (some p.streams.length)
    rw [hlength] at hkeep
    dsimp only
    split
    · rw [hlength]
      exact hkeep
    · rw [devices_report, hlength]
      exact hkeep
  · rename_i hactive
    rw [if_neg (show ¬ (devices p).active = true from hactive)]
    exact devices_addStream p false p.streamRef

/-- A camera goes off by itself, as when the candidate unplugs it. -/
theorem devices_cameraOff (i : Nat) :
    devices { p with streams := p.streams.modify i ({ · with live := false }) } =
      (devices p).cameraOff i :=
  congrArg (fun on => { devices p with camera := ⟨on, p.streamRef⟩ })
    (map_modify_eq_set (g := CameraStream.live) (f := ({ · with live := false }))
      (fun _ => rfl) p.streams i)

/-- To stop the camera turns the kept stream off. -/
theorem devices_stopCamera :
    devices p.stopCamera = { devices p with camera := (devices p).camera.stop } := by
  unfold CandidateProctorStream.stopCamera Slot.stop
  split
  · rename_i href
    rw [show (devices p).camera.ref = none from href]
  · rename_i i href
    rw [show (devices p).camera.ref = some i from href]
    exact devices_cameraOff p i

/-- The cleanup stops the heartbeat, the camera and the connection that the page keeps. -/
theorem devices_leave : devices p.leave = (devices p).leave := by
  have hview : devices p.closePeer.stopHeartbeat.stopCamera =
      ⟨p.active, (devices p).heartbeat.clear, (devices p).camera.stop, (devices p).peer.stop⟩ := by
    rw [devices_stopCamera, devices_stopHeartbeat, devices_closePeer]
    rfl
  exact congrArg (fun v : Devices => { v with active := false }) hview

/-- A log entry about the mobile camera takes up nothing. -/
theorem devices_logMobileOffline : devices p.logMobileOffline = devices p := by
  unfold CandidateProctorStream.logMobileOffline
  split <;> rfl

/-- Nor does the one about its return. -/
theorem devices_logMobileOnline : devices p.logMobileOnline = devices p := by
  unfold CandidateProctorStream.logMobileOnline
  split <;> rfl

/-- Nor does the one about a page that was left. -/
theorem devices_logPageLeft : devices p.logPageLeft = devices p := by
  unfold CandidateProctorStream.logPageLeft
  split <;> rfl

/-- An answer neither opens nor closes a connection. -/
theorem setRemoteDescription_closed (payload : SignalPayload) (c : OfferConnection) :
    (setRemoteDescription payload c).closed = c.closed := by
  unfold setRemoteDescription
  split <;> rfl

/-- Nor does a network candidate. -/
theorem addIceCandidate_closed (candidate : String) (c : OfferConnection) :
    (addIceCandidate candidate c).closed = c.closed := by
  unfold addIceCandidate
  split <;> rfl

/-- No other message than a request of an offer changes the devices. -/
theorem deviceEffect_ignored {p : CandidateProctorStream} {message : ServerMessage}
    (hother : ∀ payload socketId, message ≠ .signal .requestOffer payload socketId) :
    deviceEffect p (.message message) = .nothing := by
  cases message with
  | signal event payload socketId =>
      cases event with
      | requestOffer => exact absurd rfl (hother payload socketId)
      | _ => rfl
  | _ => rfl

end

/-- The page refines the view of its devices: each event of the page has its effect on them, and
most events have none. -/
theorem step_devices {p p' : CandidateProctorStream} {d : StreamEvent}
    (h : streamMachine.step p d = some p') :
    devices p' = (deviceEffect p d).apply (devices p) := by
  -- The moves that touch no device leave the view as it is by definition; the others have a lemma
  -- each.
  cases step_move h with
  | connect => rfl
  | disconnect => exact devices_stopHeartbeat p
  | offerRequested payload socketId => exact devices_createOffer p none
  | answered payload socketId i =>
      exact devices_updateConnection p i (setRemoteDescription_closed payload)
  | candidateReceived payload socketId candidate hcandidate i =>
      exact devices_updateConnection p i (addIceCandidate_closed candidate)
  | ignored message hother =>
      rw [deviceEffect_ignored hother]
      rfl
  | cameraGranted start => exact devices_cameraGranted p start
  | played start stream => exact devices_report p start stream
  | reported start => rfl
  | logged start => exact devices_createOffer _ (some start)
  | refusalReported start detail => rfl
  | refused start detail => rfl
  | refusalFailed start detail => rfl
  | offerCreated i description => exact devices_updateConnection p i fun _ => rfl
  | localDescriptionSet i description starter =>
      rw [devices_continueStarter]
      exact devices_updateConnection p i fun _ => rfl
  | offerFailed i detail => exact devices_updateConnection p i fun _ => rfl
  | offerRefused i detail start => exact devices_updateConnection p i fun _ => rfl
  | networkCandidate i candidate => rfl
  | cameraLost i hwatched =>
      rw [show deviceEffect p (.trackEnded i) = .cameraLost i from if_pos hwatched]
      exact (devices_stopHeartbeat _).trans (congrArg Devices.stopHeartbeat (devices_cameraOff p i))
  | cameraOff i hwatched =>
      have hnot : ¬ p.streams[i]?.any (·.watched) = true := by
        rw [hwatched]
        exact Bool.false_ne_true
      rw [show deviceEffect p (.trackEnded i) = .cameraOff i from if_neg hnot]
      exact devices_cameraOff p i
  | heartbeat i => rfl
  | visibilityChange hidden detail => rfl
  | offline => exact devices_logMobileOffline p
  | online => exact devices_logMobileOnline p
  | pageLeft => exact devices_logPageLeft p
  | cleanup => exact devices_leave p

/-! ### When nothing is left behind -/

/-- Whether the camera of `streamRef` is on. -/
def cameraOn (p : CandidateProctorStream) : Bool :=
  match p.streamRef with
  | none => false
  | some i => p.streams[i]?.any (·.live)

/-- No `start` gets a camera beside one that is on. None starts a heartbeat beside another one,
or after the cleanup. -/
def startsAlone (p : CandidateProctorStream) : StreamEvent → Bool
  | .cameraGranted _ => !(p.active && cameraOn p)
  | .reported _ => p.active && p.heartbeatIntervalId.isNone
  | _ => true

/-- The test of the page, in the words of the view: a stream is kept, and it is on. -/
theorem cameraOn_eq_true_iff (p : CandidateProctorStream) : cameraOn p = true ↔
    ∃ i, p.streamRef = some i ∧ (devices p).camera.on[i]? = some true := by
  have hon (i : Nat) : (devices p).camera.on[i]? = p.streams[i]?.map CameraStream.live :=
    List.getElem?_map
  unfold cameraOn
  cases p.streamRef with
  | none =>
      refine iff_of_false Bool.false_ne_true ?_
      rintro ⟨i, hi, -⟩
      cases hi
  | some i =>
      constructor
      · intro h
        obtain ⟨stream, hstream, hlive⟩ := (Option.any_eq_true _ _).mp h
        refine ⟨i, rfl, ?_⟩
        rw [hon, hstream]
        exact congrArg some hlive
      · rintro ⟨j, hj, hlive⟩
        cases hj
        rw [hon] at hlive
        obtain ⟨stream, hstream, hlive⟩ := Option.map_eq_some_iff.mp hlive
        exact (Option.any_eq_true _ _).mpr ⟨stream, hstream, hlive⟩

/-- The page starts alone exactly when the effect of the event is a clean one. -/
theorem clean_iff_startsAlone {p : CandidateProctorStream} (howned : (devices p).Owned)
    (hkept : (devices p).Kept) (d : StreamEvent) :
    (deviceEffect p d).Clean (devices p) ↔ startsAlone p d = true := by
  -- Only the two events that start a device have a condition. Off devices are those that the page
  -- does not hold, by `howned`.
  cases d with
  | cameraGranted start =>
      show (p.active = true → (devices p).camera.Off) ↔ (!(p.active && cameraOn p)) = true
      rw [howned.camera.owned.off_iff, Bool.not_eq_true', Bool.and_eq_false_imp]
      refine imp_congr_right fun _ => ?_
      rw [← Bool.not_eq_true, cameraOn_eq_true_iff]
      constructor
      · rintro hoff ⟨i, href, hlive⟩
        exact hoff i href hlive
      · intro hnot i href hlive
        exact hnot ⟨i, href, hlive⟩
  | reported start =>
      show (devices p).heartbeat.Off ∧ p.active = true ↔
        (p.active && p.heartbeatIntervalId.isNone) = true
      rw [howned.heartbeat.owned.off_iff_of_kept hkept.heartbeat, Bool.and_eq_true_iff,
        Option.isNone_iff_eq_none, and_comm]
      rfl
  | trackEnded i =>
      refine iff_of_true ?_ rfl
      unfold deviceEffect
      dsimp only
      split <;> trivial
  | message message =>
      refine iff_of_true ?_ rfl
      unfold deviceEffect
      split <;> trivial
  | _ => exact iff_of_true trivial rfl

/-- A page that was just opened has taken up nothing. -/
theorem devices_initial (input : CandidateProctorStreamInput) :
    (devices { input }).Owned ∧ (devices { input }).Kept := by
  have hoff : Slot.Off {} := fun i hi => by cases hi
  have hkept : Slot.Kept {} := fun i hi => by cases hi
  exact ⟨⟨Slot.OwnedWhile.of_off hoff, Slot.OwnedWhile.of_off hoff⟩,
    ⟨hkept, Slot.OwnedWhile.of_off hoff⟩⟩

/-- The devices that outlive their use. Throughout a run, the heartbeat that runs and the camera
that is on are the ones that the cleanup stops, exactly when no `start` gets a camera beside one
that is on, and none starts a heartbeat beside another one or after the cleanup. The open peer
connection is the one that the cleanup closes in every run. -/
theorem devices_owned_iff (input : CandidateProctorStreamInput) (ds : List StreamEvent)
    (p : CandidateProctorStream) (hrun : streamMachine.run { input } ds = some p) :
    (streamMachine.Always (fun p => (devices p).Owned) { input } ds ↔
      streamMachine.Meets (fun p d => startsAlone p d = true) { input } ds) ∧
    (devices p).peer.OwnedWhile p.active := by
  obtain ⟨howned, hkept⟩ := devices_initial input
  have hkeeps : ∀ p d p', (devices p).Kept → streamMachine.step p d = some p' →
      (devices p').Kept := by
    intro p d p' h hstep
    rw [step_devices hstep]
    exact DeviceEffect.apply_kept h _
  refine ⟨Machine.always_iff_meets hkeeps (fun p d p' hk ho hstep => ?_) ds _ p hkept howned hrun,
    (Machine.invariant hkeeps _ _ _ hkept hrun).peer⟩
  rw [step_devices hstep, DeviceEffect.apply_owned_iff ho]
  exact clean_iff_startsAlone ho hk d

/-- The input of a page in a run. -/
def streamedInput : CandidateProctorStreamInput :=
  { inviteToken := "invite_1", examId := "exam_1", candidateId := "cand_1"
    deviceRole := .primaryPc }

/-- The socket connects again while the camera is on, and a second `start` gets its camera. -/
def reconnectedEvents : List StreamEvent :=
  [.connect, .cameraGranted 0, .played 0, .reported 0, .logged 0, .offerCreated 0 "offer",
    .localDescriptionSet 0, .disconnect, .connect, .cameraGranted 1]

/-- The first camera of this run is left behind. -/
theorem devices_owned_iff_reconnected :
    ∃ p, streamMachine.run { input := streamedInput } reconnectedEvents = some p ∧
      ¬ streamMachine.Always (fun p => (devices p).Owned) { input := streamedInput }
        reconnectedEvents ∧
      (devices p).peer.OwnedWhile p.active := by
  have hsome : (streamMachine.run { input := streamedInput } reconnectedEvents).isSome = true := by
    decide +kernel
  have hnot : ¬ streamMachine.Meets (fun p d => startsAlone p d = true)
      { input := streamedInput } reconnectedEvents := by decide +kernel
  obtain ⟨p, hrun⟩ := Option.isSome_iff_exists.mp hsome
  obtain ⟨howned, hpeer⟩ := devices_owned_iff streamedInput reconnectedEvents p hrun
  exact ⟨p, hrun, fun h => hnot (howned.mp h), hpeer⟩

end Dcvp.Proofs
