import Dcvp.Proofs.StorePaths
import Mathlib.Tactic.Linarith

/-!
# `Dcvp.Proofs.MemorySweep`: a sweep on the memory

`markStaleProctorDevicesInStore` selects the stale devices, writes them by the membership of
their identifiers, and builds one event for each. `Stale` says what the selection looks for, in
terms of a limit. `Sweeps` is what the sweep does: it is complete, it writes the stale devices and
no others, it adds one event for each of them, and a second sweep does nothing.

The limit is a `Date`. The timeout is any number of milliseconds, and a date cuts a part of a
millisecond off (`dateTime`). So the limit is the difference of the clock and the timeout only when
the timeout is whole (`IsLimit`); otherwise it may be up to one millisecond earlier.
-/

set_option autoImplicit false

namespace Dcvp.Proofs

open Dcvp.Shared
open Dcvp.Services.PlatformStore

/-! ### The limit -/

/-- `Date.now() - timeout` as a number of the language: the rounding of the difference keeps it
between the whole numbers around it. -/
structure IsDifference (now : Int) (timeout difference : Rat) : Prop where
  floor : (((now - timeout).floor : Int) : Rat) ≤ difference
  ceil : difference ≤ ((now - timeout).ceil : Int)

/-- What is known of the limit. It is the difference, cut down to whole milliseconds. -/
structure IsLimit (now : Int) (timeout : Rat) (limit : Int) : Prop where
  floor : (now - timeout).floor ≤ limit
  ceil : limit ≤ (now - timeout).ceil
  whole : ∀ n : Int, timeout = n → limit = now - n

/-- The date of the difference is the difference without its fraction, so it is such a limit. A
difference that is a whole number is one already. -/
theorem isLimit_dateTime {now : Int} {timeout difference : Rat}
    (h : IsDifference now timeout difference) (hpos : timeout < now) :
    IsLimit now timeout (dateTime difference) := by
  have hzero : (0 : Int) ≤ (now - timeout).floor :=
    Rat.le_floor_iff.mpr (by push_cast; linarith)
  have hdifference : 0 ≤ difference := le_trans (by exact_mod_cast hzero) h.floor
  have hdate : dateTime difference = difference.floor := if_pos hdifference
  have hfloor : (now - timeout).floor ≤ dateTime difference := by
    rw [hdate]
    exact Rat.le_floor_iff.mpr h.floor
  have hceil : dateTime difference ≤ (now - timeout).ceil := by
    have hle : (difference.floor : Rat) ≤ difference := Rat.floor_le difference
    rw [hdate]
    exact_mod_cast le_trans hle h.ceil
  refine ⟨hfloor, hceil, fun n hn => ?_⟩
  have hwhole : (now : Rat) - timeout = ((now - n : Int) : Rat) := by
    rw [hn]
    push_cast
    rfl
  rw [hwhole, Rat.floor_intCast] at hfloor
  rw [hwhole, Rat.ceil_intCast] at hceil
  omega

/-! ### What a sweep is for -/

/-- The heartbeat is before the limit. A device without a heartbeat counts as one from 1970. -/
def LostHeartbeat (ctx : PlatformContext) (limit : Int) (device : ProctorDevice) : Prop :=
  (Js.truthy device.lastHeartbeatAt = none ∧ 0 < limit) ∨
    ∃ text ∈ Js.truthy device.lastHeartbeatAt, ∃ heartbeatAt ∈ ctx.dateParse text,
      heartbeatAt < limit

/-- A device that the sweep of an exam is to disconnect. -/
def Stale (ctx : PlatformContext) (examId : String) (limit : Int) (device : ProctorDevice) :
    Prop :=
  device.examId = examId ∧ device.status = .connected ∧ LostHeartbeat ctx limit device

instance (ctx : PlatformContext) (limit : Int) (device : ProctorDevice) :
    Decidable (LostHeartbeat ctx limit device) := inferInstanceAs (Decidable (_ ∨ _))

instance (ctx : PlatformContext) (examId : String) (limit : Int) (device : ProctorDevice) :
    Decidable (Stale ctx examId limit device) := inferInstanceAs (Decidable (_ ∧ _ ∧ _))

/-- The event tells of a device that the sweep has disconnected. -/
structure TellsOf (device : ProctorDevice) (event : ProctorEvent) : Prop where
  candidateId : event.candidateId = device.candidateId
  examId : event.examId = device.examId
  type : event.type =
    if device.role = .mobileAux then .mobileHeartbeatMissed else .primaryCameraDisconnected

/-- What a sweep with this limit makes of the devices and the events. -/
structure Sweeps (ctx : PlatformContext) (examId : String) (limit : Int) (turn : PlatformInput)
    (state state' : ProctorMemoryState) : Prop where
  complete : ∀ device ∈ state'.proctorDevices, ¬ Stale ctx examId limit device
  /-- The devices keep their places. The stale ones are disconnected, the others stay. -/
  devices : List.Forall₂ (fun device device' =>
      device' = if Stale ctx examId limit device then disconnectStale device turn.nowIso
        else device)
    state.proctorDevices state'.proctorDevices
  /-- One event for each stale device stands in front of the events from before. -/
  events : ∃ missed, state'.proctorEvents = missed ++ state.proctorEvents ∧
    List.Forall₂ TellsOf (state.proctorDevices.filter (Stale ctx examId limit ·)) missed
  /-- A second sweep with the same limit does nothing. -/
  again : ∀ turn' : PlatformInput,
    markStaleProctorDevicesInStore ctx state' examId (some limit) turn' = state'

section
variable (ctx : PlatformContext) (examId : String) (limit : Int)

/-! ### The selection -/

/-- The comparison of the code. -/
theorem heartbeatBefore_eq (device : ProctorDevice) :
    heartbeatBefore ctx device (some limit) = decide (LostHeartbeat ctx limit device) := by
  rw [Bool.eq_iff_iff, decide_eq_true_iff]
  unfold heartbeatBefore LostHeartbeat
  cases htext : Js.truthy device.lastHeartbeatAt with
  | none => simp
  | some text => cases hparse : ctx.dateParse text <;> simp [hparse]

/-- The stale devices of the code. -/
theorem staleDevices_eq (devices : List ProctorDevice) :
    staleDevices ctx devices examId (some limit) = devices.filter (Stale ctx examId limit ·) := by
  unfold staleDevices
  refine List.filter_congr fun device _ => ?_
  rw [heartbeatBefore_eq, Bool.eq_iff_iff, decide_eq_true_iff]
  simp [Stale, and_assoc]

/-- With distinct identifiers, the devices whose identifier is that of a stale one are the stale
ones. -/
theorem any_staleDevices {devices : List ProctorDevice} (hids : (devices.map (·.id)).Nodup)
    {device : ProctorDevice} (hdevice : device ∈ devices) :
    (devices.filter (Stale ctx examId limit ·)).any (·.id = device.id)
      = decide (Stale ctx examId limit device) := by
  rw [Bool.eq_iff_iff, List.any_eq_true, decide_eq_true_iff]
  constructor
  · rintro ⟨stale, hmem, hid⟩
    obtain ⟨hin, hstale⟩ := List.mem_filter.mp hmem
    have heq : stale = device :=
      List.inj_on_of_nodup_map hids hin hdevice (of_decide_eq_true hid)
    rw [← heq]
    exact of_decide_eq_true hstale
  · intro hstale
    exact ⟨device, List.mem_filter.mpr ⟨hdevice, decide_eq_true hstale⟩, decide_eq_true rfl⟩

/-- A device that the sweep disconnects is not stale any more. -/
theorem not_stale_disconnectStale (device : ProctorDevice) (disconnectedAt : String) :
    ¬ Stale ctx examId limit (disconnectStale device disconnectedAt) := fun h => by
  cases h.2.1

/-! ### The sweep -/

variable {state : ProctorMemoryState} (turn : PlatformInput)

/-- The two lists after a sweep: the stale devices are disconnected in their places, and in front
of the events stands one for each of them, in their order. -/
theorem markStale_lists (hids : (state.proctorDevices.map (·.id)).Nodup) :
    markStaleProctorDevicesInStore ctx state examId (some limit) turn =
      { proctorDevices := state.proctorDevices.map fun device =>
          if Stale ctx examId limit device then disconnectStale device turn.nowIso else device
        proctorEvents := (state.proctorDevices.filter (Stale ctx examId limit ·)).mapIdx
          (fun n device => heartbeatMissed device turn n) ++ state.proctorEvents } := by
  rw [markStale_eq ctx state examId (some limit) turn _ (staleDevices_eq ctx examId limit _)]
  congr 1
  unfold mapWhere
  refine List.map_congr_left fun device hdevice => ?_
  simp only [any_staleDevices ctx examId limit hids hdevice, decide_eq_true_eq]

variable {ctx examId limit}

/-- Without a stale device a sweep does nothing. -/
theorem markStale_of_none (h : ∀ device ∈ state.proctorDevices, ¬ Stale ctx examId limit device) :
    markStaleProctorDevicesInStore ctx state examId (some limit) turn = state := by
  have hnone : staleDevices ctx state.proctorDevices examId (some limit) = [] := by
    rw [staleDevices_eq]
    exact List.filter_eq_nil_iff.mpr fun device hdevice => by simpa using h device hdevice
  unfold markStaleProctorDevicesInStore
  exact if_pos hnone

/-- Each stale device has its event. -/
theorem forall₂_heartbeatMissed (devices : List ProctorDevice) :
    List.Forall₂ TellsOf devices (devices.mapIdx fun n device => heartbeatMissed device turn n) := by
  refine List.forall₂_iff_get.mpr ⟨List.length_mapIdx.symm, fun n hn hn' => ?_⟩
  simp only [List.get_eq_getElem, List.getElem_mapIdx]
  exact ⟨rfl, rfl, rfl⟩

/-- The sweep of the memory does what `Sweeps` says, as long as the devices have different
identifiers. -/
theorem sweeps_markStale (hids : (state.proctorDevices.map (·.id)).Nodup) :
    Sweeps ctx examId limit turn state
      (markStaleProctorDevicesInStore ctx state examId (some limit) turn) := by
  have hlists := markStale_lists ctx examId limit turn hids
  have hcomplete : ∀ device ∈ (markStaleProctorDevicesInStore ctx state examId (some limit)
      turn).proctorDevices, ¬ Stale ctx examId limit device := by
    rw [hlists]
    intro device hdevice
    obtain ⟨old, -, rfl⟩ := List.mem_map.mp hdevice
    by_cases hstale : Stale ctx examId limit old
    · rw [if_pos hstale]
      exact not_stale_disconnectStale ctx examId limit old turn.nowIso
    · rw [if_neg hstale]
      exact hstale
  refine ⟨hcomplete, ?_, ?_, fun turn' => markStale_of_none turn' hcomplete⟩
  · rw [hlists]
    exact List.forall₂_map_right_iff.mpr (List.forall₂_same.mpr fun device _ => rfl)
  · rw [hlists]
    exact ⟨_, rfl, forall₂_heartbeatMissed turn _⟩

end

/-- A sweep on the memory, for any clock and any timeout before it. The limit is the difference
of the two, cut down to whole milliseconds. The sweep disconnects exactly the stale devices, adds
one event for each, and a second one does nothing. -/
theorem sweep_on_memory (ctx : PlatformContext) (state : ProctorMemoryState) (examId : String)
    (timeout difference : Rat) (turn : PlatformInput)
    (hids : (state.proctorDevices.map (·.id)).Nodup) (hpos : timeout < turn.now)
    (hdifference : IsDifference turn.now timeout difference) :
    IsLimit turn.now timeout (dateTime difference) ∧
      Sweeps ctx examId (dateTime difference) turn state
        (markStaleProctorDevicesInStore ctx state examId (some (dateTime difference)) turn) :=
  ⟨isLimit_dateTime hdifference hpos, sweeps_markStale turn hids⟩

/-- A process that reads the date of the heartbeat below. -/
def sweepContext : PlatformContext :=
  { deployedContext.toPlatformContext with
    host := { deployedContext.host with
      dateParse := fun text => if text = Js.toISOString 999 then some 999 else none } }

/-- The devices of a candidate: a camera with a heartbeat at 999, and a phone without one. -/
def sweptState : ProctorMemoryState where
  proctorDevices :=
    [{ id := "device_1", candidateId := "cand_1", examId := "exam_1", role := .primaryPc,
       status := .connected, lastHeartbeatAt := some (Js.toISOString 999),
       createdAt := Js.toISOString 0, updatedAt := Js.toISOString 0 },
     { id := "device_2", candidateId := "cand_1", examId := "exam_1", role := .mobileAux,
       status := .connected, createdAt := Js.toISOString 0, updatedAt := Js.toISOString 0 }]
  proctorEvents := []

/-- At the time 1000, and with a timeout of a millisecond, the sweep of the example does what
`Sweeps` says. -/
theorem sweep_on_memory_phone :
    IsLimit 1000 1 (dateTime 999) ∧ Sweeps sweepContext "exam_1" (dateTime 999) { now := 1000 }
      sweptState (markStaleProctorDevicesInStore sweepContext sweptState "exam_1"
        (some (dateTime 999)) { now := 1000 }) :=
  sweep_on_memory sweepContext sweptState "exam_1" 1 999 { now := 1000 } (by decide)
    (by decide +kernel) ⟨by decide +kernel, by decide +kernel⟩

/-- With a timeout of half a millisecond the limit at 1000 is 999. The camera stays connected,
although its heartbeat is before 1000 - 1/2. -/
theorem sweep_misses_half_millisecond :
    IsDifference 1000 (1 / 2) (1000 - 1 / 2) ∧
      ∃ device ∈ (markStaleProctorDevicesInStore sweepContext sweptState "exam_1"
          (some (dateTime (1000 - 1 / 2))) { now := 1000 }).proctorDevices,
        device.examId = "exam_1" ∧ device.status = .connected ∧
          device.lastHeartbeatAt.bind sweepContext.dateParse = some 999 ∧
          (999 : Rat) < 1000 - 1 / 2 :=
  ⟨⟨by decide +kernel, by decide +kernel⟩, by decide +kernel⟩

end Dcvp.Proofs
