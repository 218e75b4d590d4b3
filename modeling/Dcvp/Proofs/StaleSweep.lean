import Dcvp.Services.PlatformStore.ProctorDatabase
import Mathlib.Data.List.Perm.Basic

/-!
# `Dcvp.Proofs.StaleSweep`: the sweep of stale devices over all interleavings

The runs of `proctorTraffic`, from any database without outstanding statements.

`SweepsSound` is what the sweep is for. Each loss of heartbeat has one event, in the table or
in a creation that is outstanding, and there is no other event of the sweeps. No update has
disconnected a device whose heartbeat was within the timeout.

`StatementHolds` is the condition on a move: an update finds its device still connected and
its heartbeat still too old, and the creation of an event succeeds. `sweeps_sound_iff` says
that the sweeps are sound throughout a run exactly when each move meets the condition.
-/

set_option autoImplicit false

namespace Dcvp.Proofs

open Dcvp.Lib
open Dcvp.Shared
open Dcvp.Services.PlatformStore

/-! ### The property -/

/-- What identifies a device beside its `id`: candidate, exam and role, which are unique together.
-/
abbrev DeviceKey := String × String × ProctorDeviceRole

/-- The update found a connected device whose heartbeat was too old. -/
def IsLoss (timeout : Int) (write : SweepWrite) : Bool :=
  decide (write.found.status = .connected) && write.found.heartbeatBefore (write.now - timeout)

/-- The update found a heartbeat within the timeout. -/
def WithinTimeout (timeout : Int) (write : SweepWrite) : Prop :=
  ∃ heartbeatAt, write.found.lastHeartbeatAt = some heartbeatAt ∧
    write.now - timeout ≤ heartbeatAt

/-- The losses of heartbeat of a device. -/
def losses (timeout : Int) (w : ProctorTraffic) (key : DeviceKey) : Nat :=
  w.writes.countP fun write => decide (write.found.key = key) && IsLoss timeout write

/-- The event tells of a missed heartbeat of the device. -/
def IsMissedEvent (key : DeviceKey) (event : ProctorEventRow) : Bool :=
  decide (event.candidateId = key.1 ∧ event.examId = key.2.1 ∧
    event.type = missedType key.2.2 ∧ event.detail = some (missedDetail key.2.2))

/-- The events of missed heartbeats of a device. -/
def missedEvents (db : PlatformDatabase) (key : DeviceKey) : Nat :=
  db.proctorEvents.rows.countP (IsMissedEvent key)

/-- The statement creates an event of the device. -/
def LogsKey (key : DeviceKey) : ProctorStatement → Bool
  | .logMissed device => decide (device.key = key)
  | _ => false

/-- The events of missed heartbeats whose creation is outstanding. -/
def announced (w : ProctorTraffic) (key : DeviceKey) : Nat :=
  w.statements.countP (LogsKey key)

/-- Each loss has exactly one event, which is in the table or about to be created, and no
device within the timeout was disconnected. `db₀` is the database at the start. -/
structure SweepsSound (timeout : Int) (db₀ : PlatformDatabase) (w : ProctorTraffic) : Prop where
  events : ∀ key, missedEvents w.database key + announced w key
    = missedEvents db₀ key + losses timeout w key
  fresh : ∀ write ∈ w.writes, ¬ WithinTimeout timeout write

/-! ### The condition -/

/-- An update of a sweep takes effect on a device that is still connected, and whose heartbeat
is still too old. The creation of an event succeeds. -/
def StatementHolds (timeout : Int) (w : ProctorTraffic) (input : StatementInput) :
    ProctorStatement → Prop
  | .disconnect device _ => input.fails = false →
      ∀ found, w.database.proctorDevices.find? device.id = some found →
        IsLoss timeout ⟨found, input.now⟩ = true
  | .logMissed device => input.fails = false ∧
      ∃ db, w.database.createProctorEvent (missedEventRow device input.uuid input.now) = .ok db
  | _ => True

/-- The condition on a move. -/
def SweepHolds (timeout : Int) (w : ProctorTraffic) : ProctorTrafficEvent → Prop
  | .perform place input => ∀ statement, w.statements[place]? = some statement →
      StatementHolds timeout w input statement
  | _ => True

/-! ### Statements on the tables -/

/-- An update that keeps the key of a device succeeds, because the key has the candidate and the
exam of the row. -/
theorem updateProctorDevice_ok {db : PlatformDatabase} {id : String}
    (data : ProctorDeviceRow → ProctorDeviceRow) (keeps : ∀ row, (data row).id = row.id)
    {row : ProctorDeviceRow} (hrow : db.proctorDevices.find? id = some row)
    (hkey : ∀ r, (data r).key = r.key) :
    ∃ db', db.updateProctorDevice id data keeps = .ok db' := by
  set devices := db.proctorDevices.updateMany (fun row => row.id = id) data keeps with hdevices
  -- The key has the candidate and the exam of the row.
  have hcandidate : ∀ r, (data r).candidateId = r.candidateId :=
    fun r => (Prod.mk.inj (hkey r)).1
  have hexam : ∀ r, (data r).examId = r.examId :=
    fun r => (Prod.mk.inj (Prod.mk.inj (hkey r)).2).1
  obtain ⟨horganizations, hcandidates, hsessions, hdrafts, hdeviceKeys⟩ := db.unique
  obtain ⟨hcontent, ⟨hs, hd, hq, hl, he, ⟨hdc, hde⟩, ha⟩, hrest⟩ := db.related
  have hunique : PlatformTables.UniqueColumns
      { db.toPlatformTables with proctorDevices := devices } := by
    refine ⟨horganizations, hcandidates, hsessions, hdrafts, ?_⟩
    have hkeys : devices.rows.map ProctorDeviceRow.key =
        db.proctorDevices.rows.map ProctorDeviceRow.key := Table.map_updated hkey
    rw [hkeys]
    exact hdeviceKeys
  have hrelated : PlatformTables.ForeignKeys
      { db.toPlatformTables with proctorDevices := devices } :=
    ⟨hcontent, ⟨hs, hd, hq, hl, he,
      ⟨hdc.of_map (Table.map_updated hcandidate), hde.of_map (Table.map_updated hexam)⟩, ha⟩, hrest⟩
  refine ⟨⟨_, hunique, hrelated⟩, ?_⟩
  unfold PlatformDatabase.updateProctorDevice
  rw [hrow]
  exact PlatformDatabase.commit_ok hunique hrelated

/-- A successful update of a device leaves the events and the other devices, and writes its data to
the row with this id. -/
theorem updateProctorDevice_eq_ok {db db' : PlatformDatabase} {id : String}
    {data : ProctorDeviceRow → ProctorDeviceRow} {keeps : ∀ row, (data row).id = row.id}
    (h : db.updateProctorDevice id data keeps = .ok db') :
    db'.proctorEvents = db.proctorEvents ∧ ∀ k, db'.proctorDevices.find? k
      = (db.proctorDevices.find? k).map fun r => if r.id = id then data r else r := by
  unfold PlatformDatabase.updateProctorDevice at h
  split at h
  · cases h
  · have htables := PlatformDatabase.commit_eq_ok h
    refine ⟨by rw [htables], fun k => ?_⟩
    rw [htables]
    have hfind := Table.find?_updateMany db.proctorDevices (fun row => row.id = id) data keeps k
    simpa using hfind

/-- What the creation of an event leaves. -/
theorem createProctorEvent_eq_ok {db db' : PlatformDatabase} {row : ProctorEventRow}
    (h : db.createProctorEvent row = .ok db') :
    db'.proctorEvents.rows = db.proctorEvents.rows ++ [row] ∧
      db'.proctorDevices = db.proctorDevices := by
  obtain ⟨table, hinsert, htables⟩ := PlatformDatabase.create_eq_ok h
  rw [htables]
  exact ⟨Table.rows_insert? hinsert, rfl⟩

/-- An upsert writes no event, and keeps the key of each device. -/
theorem upsertProctorDevice_eq_ok {db db' : PlatformDatabase} {candidateId examId : String}
    {input : UpsertProctorDeviceInput} {times : DeviceTimes} {uuid : String} {now : Int}
    (h : db.upsertProctorDevice candidateId examId input times uuid now = .ok db') :
    db'.proctorEvents = db.proctorEvents ∧ ∀ k row, db.proctorDevices.find? k = some row →
      ∃ row', db'.proctorDevices.find? k = some row' ∧ row'.key = row.key := by
  unfold PlatformDatabase.upsertProctorDevice at h
  split at h
  · rename_i found hfound
    obtain ⟨hevents, hfind⟩ := updateProctorDevice_eq_ok h
    refine ⟨hevents, fun k row hrow => ?_⟩
    rw [hfind, hrow]
    refine ⟨_, rfl, ?_⟩
    show (if row.id = found.id then applyUpsert input times now row else row).key = row.key
    split <;> rfl
  · obtain ⟨table, hinsert, htables⟩ := PlatformDatabase.create_eq_ok h
    rw [htables]
    refine ⟨rfl, fun k row hrow => ⟨row, ?_, rfl⟩⟩
    show table.find? k = some row
    rw [Table.find?_insert? hinsert, if_neg, hrow]
    -- The new identifier was free.
    rintro rfl
    rw [Table.find?_of_insert? hinsert] at hrow
    cases hrow

/-! ### The bookkeeping of statements -/

/-- The statements without the one in a place. -/
theorem countP_eraseIdx {α : Type} (p : α → Bool) {l : List α} {place : Nat} {a : α}
    (h : l[place]? = some a) :
    l.countP p = (l.eraseIdx place).countP p + if p a then 1 else 0 := by
  obtain ⟨hlt, rfl⟩ := List.getElem?_eq_some_iff.mp h
  rw [← (List.getElem_cons_eraseIdx_perm hlt).countP_eq p, List.countP_cons]

/-- A statement that is executed without a successor announces its event no more. -/
theorem announced_drop (w : ProctorTraffic) (key : DeviceKey) {place : Nat}
    {statement : ProctorStatement} (h : w.statements[place]? = some statement) :
    announced w key = announced (w.drop place) key + if LogsKey key statement then 1 else 0 :=
  countP_eraseIdx (LogsKey key) h

/-- A statement that is executed is replaced by what follows it, and with it the events that are
announced. -/
theorem announced_send (w : ProctorTraffic) (key : DeviceKey) {place : Nat}
    {statement : ProctorStatement} (h : w.statements[place]? = some statement)
    (next : List ProctorStatement) :
    announced (w.send place next) key + (if LogsKey key statement then 1 else 0)
      = announced w key + next.countP (LogsKey key) := by
  have hdrop := announced_drop w key h
  have hsend : announced (w.send place next) key
      = announced (w.drop place) key + next.countP (LogsKey key) := List.countP_append
  omega

/-- A device that an update of a sweep is to change is still there, under its key. -/
def DevicesFit (w : ProctorTraffic) : Prop :=
  ∀ device disconnectedAt, .disconnect device disconnectedAt ∈ w.statements →
    ∃ row, w.database.proctorDevices.find? device.id = some row ∧ row.key = device.key

/-- The outstanding updates stay in order when devices keep their keys, and each new update is
of a device in the table. -/
theorem DevicesFit.mono {w w' : ProctorTraffic} (h : DevicesFit w)
    (hkeys : ∀ k row, w.database.proctorDevices.find? k = some row →
      ∃ row', w'.database.proctorDevices.find? k = some row' ∧ row'.key = row.key)
    (hstatements : ∀ device disconnectedAt, .disconnect device disconnectedAt ∈ w'.statements →
      .disconnect device disconnectedAt ∈ w.statements ∨
        device ∈ w.database.proctorDevices.rows) : DevicesFit w' := by
  intro device disconnectedAt hin
  have hrow : ∃ row, w.database.proctorDevices.find? device.id = some row ∧
      row.key = device.key := by
    rcases hstatements device disconnectedAt hin with hold | hnew
    · exact h device disconnectedAt hold
    · exact ⟨device, Table.find?_of_mem hnew, rfl⟩
  obtain ⟨row, hfind, hkey⟩ := hrow
  obtain ⟨row', hfind', hkey'⟩ := hkeys device.id row hfind
  exact ⟨row', hfind', hkey'.trans hkey⟩

/-- What the performance of a statement leaves, whether it fails or not. -/
theorem perform_fits {w : ProctorTraffic} {place : Nat} {statement : ProctorStatement}
    (h : DevicesFit w) (hplace : w.statements[place]? = some statement)
    (input : StatementInput) : DevicesFit (w.perform place input statement) := by
  have hsame : ∀ k row, w.database.proctorDevices.find? k = some row →
      ∃ row', w.database.proctorDevices.find? k = some row' ∧ row'.key = row.key :=
    fun k row hrow => ⟨row, hrow, rfl⟩
  -- What still waits was waiting before.
  have herase : ∀ device disconnectedAt,
      .disconnect device disconnectedAt ∈ w.statements.eraseIdx place →
        .disconnect device disconnectedAt ∈ w.statements ∨
          device ∈ w.database.proctorDevices.rows :=
    fun _ _ hin => Or.inl (List.mem_of_mem_eraseIdx hin)
  cases statement with
  | findStale examId staleBefore =>
      refine h.mono hsame fun device disconnectedAt hin => ?_
      rcases List.mem_append.mp hin with hold | hnew
      · exact herase device disconnectedAt hold
      · -- The new statements are about rows that the search has found.
        obtain ⟨device', hdevice, heq⟩ := List.mem_map.mp hnew
        cases heq
        exact Or.inr (List.mem_filter.mp hdevice).1
  | disconnect device disconnectedAt =>
      simp only [ProctorTraffic.perform]
      split
      · rename_i found database hfound hupdate
        obtain ⟨-, hfind⟩ := updateProctorDevice_eq_ok hupdate
        refine h.mono (fun k row hrow => ?_) fun device' disconnectedAt' hin => ?_
        · refine ⟨_, (hfind k).trans (by rw [hrow]; rfl), ?_⟩
          show (if row.id = device.id then disconnectRow disconnectedAt input.now row
            else row).key = row.key
          split <;> rfl
        · rcases List.mem_append.mp hin with hold | hnew
          · exact herase device' disconnectedAt' hold
          · simp at hnew
      · exact h.mono hsame herase
  | logMissed device =>
      simp only [ProctorTraffic.perform]
      split
      · rename_i database hcreate
        refine h.mono (fun k row hrow => ⟨row, ?_, rfl⟩) herase
        show database.proctorDevices.find? k = some row
        rw [(createProctorEvent_eq_ok hcreate).2]
        exact hrow
      · exact h.mono hsame herase
  | upsert candidateId examId upsert times =>
      simp only [ProctorTraffic.perform]
      split
      · rename_i database hupsert
        exact h.mono (upsertProctorDevice_eq_ok hupsert).2 herase
      · exact h.mono hsame herase

/-- Every move keeps the outstanding updates in order: each of them names a device that is there,
under its own key. -/
theorem step_fits (timeout : Int) (w : ProctorTraffic) (e : ProctorTrafficEvent)
    (w' : ProctorTraffic) (h : DevicesFit w) (hstep : (proctorTraffic timeout).step w e = some w') :
    DevicesFit w' := by
  have hsame : ∀ k row, w.database.proctorDevices.find? k = some row →
      ∃ row', w.database.proctorDevices.find? k = some row' ∧ row'.key = row.key :=
    fun k row hrow => ⟨row, hrow, rfl⟩
  cases e with
  | sweep examId now =>
      cases hstep
      refine h.mono hsame fun device disconnectedAt hin => Or.inl ?_
      simpa using hin
  | heartbeat candidateId examId input now =>
      cases hstep
      refine h.mono hsame fun device disconnectedAt hin => Or.inl ?_
      simpa using hin
  | perform place input =>
      obtain ⟨statement, hplace, rfl⟩ := Option.map_eq_some_iff.mp hstep
      split
      · exact h.mono hsame fun _ _ hin => Or.inl (List.mem_of_mem_eraseIdx hin)
      · exact perform_fits h hplace input

/-! ### The exact condition -/

/-- A role is told by the text of its event. -/
theorem missedDetail_inj {role role' : ProctorDeviceRole}
    (h : missedDetail role = missedDetail role') : role = role' := by
  revert h
  cases role <;> cases role' <;> decide

/-- The event that a sweep creates tells of its device and of no other one. -/
theorem isMissedEvent_row (key : DeviceKey) (device : ProctorDeviceRow) (uuid : String)
    (now : Int) : IsMissedEvent key (missedEventRow device uuid now) = decide (device.key = key) := by
  obtain ⟨candidateId, examId, role⟩ := key
  refine decide_eq_decide.mpr ⟨?_, ?_⟩
  · rintro ⟨hcandidate, hexam, -, hdetail⟩
    have hrole : device.role = role := missedDetail_inj (Option.some.inj hdetail)
    exact Prod.ext hcandidate (Prod.ext hexam hrole)
  · intro hkey
    cases hkey
    exact ⟨rfl, rfl, rfl, rfl⟩

/-- A device that a sweep has marked as lost was silent for longer than the timeout when the row
was written. -/
theorem not_withinTimeout_of_isLoss {timeout : Int} {write : SweepWrite}
    (h : IsLoss timeout write = true) : ¬ WithinTimeout timeout write := by
  rintro ⟨heartbeatAt, hheartbeat, hwithin⟩
  rw [IsLoss, Bool.and_eq_true] at h
  have hbefore := h.2
  unfold ProctorDeviceRow.heartbeatBefore at hbefore
  rw [hheartbeat] at hbefore
  have hlt := of_decide_eq_true hbefore
  omega

section
variable {timeout : Int} {db₀ : PlatformDatabase} {w w' : ProctorTraffic}

/-- A move that makes no event and announces none, or turns one into the other. -/
theorem SweepsSound.of_same (h : SweepsSound timeout db₀ w)
    (hevents : ∀ key, missedEvents w'.database key + announced w' key
      = missedEvents w.database key + announced w key)
    (hwrites : w'.writes = w.writes) : SweepsSound timeout db₀ w' where
  events key := by
    unfold losses
    rw [hevents key, hwrites]
    exact h.events key
  fresh write hin := by
    rw [hwrites] at hin
    exact h.fresh write hin

/-- When an event that was announced gets lost, and no device was written meanwhile, the sweeps are
no longer sound. -/
theorem SweepsSound.not_of_fewer (h : SweepsSound timeout db₀ w) (key : DeviceKey)
    (hfewer : missedEvents w'.database key + announced w' key
      < missedEvents w.database key + announced w key)
    (hwrites : w'.writes = w.writes) : ¬ SweepsSound timeout db₀ w' := by
  intro h'
  have hnew := h'.events key
  have hold := h.events key
  unfold losses at hnew hold
  rw [hwrites] at hnew
  omega

/-- A statement that is dropped: it must not have been the creation of an event. -/
theorem drop_sound_iff (h : SweepsSound timeout db₀ w) {place : Nat}
    {statement : ProctorStatement} (hplace : w.statements[place]? = some statement) :
    SweepsSound timeout db₀ (w.drop place) ↔ ∀ key, LogsKey key statement = false := by
  have hannounced := fun key => announced_drop w key hplace
  constructor
  · intro h' key
    cases hkey : LogsKey key statement with
    | false => rfl
    | true =>
        have hone := hannounced key
        rw [hkey, if_pos rfl] at hone
        refine absurd h' (h.not_of_fewer key ?_ rfl)
        show missedEvents w.database key + announced (w.drop place) key < _
        omega
  · intro hnone
    refine h.of_same (fun key => ?_) rfl
    have hsame := hannounced key
    rw [hnone key, if_neg Bool.false_ne_true] at hsame
    show missedEvents w.database key + announced (w.drop place) key = _
    omega

/-- An update of a sweep keeps the events sound exactly when it is a loss: it announces one event
more, and an event without a loss would be one too many. -/
theorem disconnect_sound_iff (h : SweepsSound timeout db₀ w) {place : Nat}
    {device : ProctorDeviceRow} {disconnectedAt : Int}
    (hplace : w.statements[place]? = some (.disconnect device disconnectedAt))
    {found : ProctorDeviceRow} (hkey : found.key = device.key) (now : Int)
    {database : PlatformDatabase} (hdatabase : database.proctorEvents = w.database.proctorEvents) :
    SweepsSound timeout db₀ { w.send place [.logMissed device] with
        database
        writes := w.writes ++ [⟨found, now⟩] } ↔ IsLoss timeout ⟨found, now⟩ = true := by
  set after : ProctorTraffic := { w.send place [.logMissed device] with
    database
    writes := w.writes ++ [⟨found, now⟩] } with hafter
  -- The three sums after the move: the events stay, one more is announced, and one more write may
  -- be a loss.
  have hevents : ∀ key, missedEvents after.database key = missedEvents w.database key := by
    intro key
    unfold missedEvents
    rw [show after.database.proctorEvents = w.database.proctorEvents from hdatabase]
  have hannounced : ∀ key, announced after key
      = announced w key + if device.key = key then 1 else 0 := by
    intro key
    have hsend := announced_send w key hplace [.logMissed device]
    have hone : List.countP (LogsKey key) [.logMissed device]
        = if device.key = key then 1 else 0 := by
      simp [LogsKey]
    have hnot : LogsKey key (.disconnect device disconnectedAt) = false := rfl
    rw [hone, hnot, if_neg Bool.false_ne_true, Nat.add_zero] at hsend
    exact hsend
  have hlosses : ∀ key, losses timeout after key = losses timeout w key
      + if device.key = key ∧ IsLoss timeout ⟨found, now⟩ = true then 1 else 0 := by
    intro key
    show (w.writes ++ [_]).countP _ = _
    rw [List.countP_append]
    simp [losses, hkey, List.countP_cons]
  constructor
  · intro h'
    -- An event without a loss would be one too many.
    by_contra hloss
    have hold := h.events device.key
    have hnew := h'.events device.key
    rw [hevents, hannounced, hlosses, if_pos rfl, if_neg fun hand => hloss hand.2] at hnew
    omega
  · intro hloss
    refine ⟨fun key => ?_, fun write hin => ?_⟩
    · have hold := h.events key
      rw [hevents, hannounced, hlosses]
      simp only [hloss, and_true]
      omega
    · rcases List.mem_append.mp hin with hin | hin
      · exact h.fresh write hin
      · rw [List.mem_singleton.mp hin]
        exact not_withinTimeout_of_isLoss hloss

/-- A search announces a disconnection for each row that it finds, and no missed event. -/
theorem findStale_sound (h : SweepsSound timeout db₀ w) {place : Nat} {examId : String}
    {staleBefore : Int} (hplace : w.statements[place]? = some (.findStale examId staleBefore))
    (input : StatementInput) :
    SweepsSound timeout db₀ (w.perform place input (.findStale examId staleBefore)) := by
  refine h.of_same (fun key => ?_) rfl
  have hsend := announced_send w key hplace
    ((w.database.staleProctorDevices examId staleBefore).map
      fun device => .disconnect device input.now)
  have hnone : List.countP (LogsKey key)
      ((w.database.staleProctorDevices examId staleBefore).map
        fun device => .disconnect device input.now) = 0 := by
    rw [List.countP_eq_zero]
    intro statement hin
    obtain ⟨device, -, rfl⟩ := List.mem_map.mp hin
    exact Bool.false_ne_true
  have hnot : LogsKey key (.findStale examId staleBefore) = false := rfl
  rw [hnone, hnot, if_neg Bool.false_ne_true] at hsend
  exact congrArg (missedEvents w.database key + ·) hsend

/-- A missed event that is written was announced before. One that is not written is lost. -/
theorem logMissed_sound_iff (h : SweepsSound timeout db₀ w) {place : Nat}
    {device : ProctorDeviceRow} (hplace : w.statements[place]? = some (.logMissed device))
    {input : StatementInput} (hruns : input.fails = false) :
    SweepsSound timeout db₀ (w.perform place input (.logMissed device)) ↔
      StatementHolds timeout w input (.logMissed device) := by
  simp only [ProctorTraffic.perform]
  -- The announcement is dropped with its statement. So the counts agree when the event was written,
  -- and not when it was lost.
  cases hcreate : w.database.createProctorEvent (missedEventRow device input.uuid input.now) with
  | ok database =>
      refine ⟨fun _ => ⟨hruns, database, hcreate⟩, fun _ => h.of_same (fun key => ?_) rfl⟩
      have hannounced := announced_drop w key hplace
      show missedEvents database key + announced (w.drop place) key = _
      have hmade : missedEvents database key
          = missedEvents w.database key + if device.key = key then 1 else 0 := by
        unfold missedEvents
        rw [(createProctorEvent_eq_ok hcreate).1, List.countP_append]
        simp [isMissedEvent_row]
      have hlogs : (LogsKey key (.logMissed device) = true) ↔ device.key = key :=
        decide_eq_true_iff
      simp only [hlogs] at hannounced
      omega
  | error error =>
      refine (drop_sound_iff h hplace).trans ⟨fun hnone => ?_, fun ⟨_, database, hok⟩ => ?_⟩
      · have hself : LogsKey device.key (.logMissed device) = true := decide_eq_true rfl
        rw [hnone] at hself
        cases hself
      · rw [hcreate] at hok
        cases hok

/-- A connection of a device announces nothing, and so keeps the events sound. -/
theorem upsert_sound (h : SweepsSound timeout db₀ w) {place : Nat} {candidateId examId : String}
    {upsert : UpsertProctorDeviceInput} {times : DeviceTimes}
    (hplace : w.statements[place]? = some (.upsert candidateId examId upsert times))
    (input : StatementInput) :
    SweepsSound timeout db₀ (w.perform place input (.upsert candidateId examId upsert times)) := by
  have hsound : SweepsSound timeout db₀ (w.drop place) :=
    (drop_sound_iff h hplace).mpr fun _ => rfl
  simp only [ProctorTraffic.perform]
  split
  · rename_i database hupsert
    refine hsound.of_same (fun key => ?_) rfl
    show missedEvents database key + announced (w.drop place) key = _
    unfold missedEvents
    rw [(upsertProctorDevice_eq_ok hupsert).1]
    rfl
  · exact hsound

/-- The performance of a statement that does not fail for a reason of its own. -/
theorem perform_sound_iff (hfits : DevicesFit w) (h : SweepsSound timeout db₀ w) {place : Nat}
    {statement : ProctorStatement} (hplace : w.statements[place]? = some statement)
    {input : StatementInput} (hruns : input.fails = false) :
    SweepsSound timeout db₀ (w.perform place input statement) ↔
      StatementHolds timeout w input statement := by
  cases statement with
  | findStale examId staleBefore => exact iff_of_true (findStale_sound h hplace input) trivial
  | disconnect device disconnectedAt =>
      obtain ⟨found, hfound, hkey⟩ :=
        hfits device disconnectedAt (List.mem_of_getElem? hplace)
      obtain ⟨database, hupdate⟩ := updateProctorDevice_ok
        (disconnectRow disconnectedAt input.now) (fun _ => rfl) hfound fun _ => rfl
      simp only [ProctorTraffic.perform, hfound, hupdate]
      rw [disconnect_sound_iff h hplace hkey input.now (updateProctorDevice_eq_ok hupdate).1]
      refine ⟨fun hloss _ found' hfound' => ?_, fun hall => hall hruns found hfound⟩
      rw [hfound] at hfound'
      cases hfound'
      exact hloss
  | logMissed device => exact logMissed_sound_iff h hplace hruns
  | upsert candidateId examId upsert times =>
      exact iff_of_true (upsert_sound h hplace input) trivial

end

/-- One move: from sound sweeps it leads to sound sweeps exactly under the condition. -/
theorem step_sound_iff (timeout : Int) (db₀ : PlatformDatabase) (w : ProctorTraffic)
    (e : ProctorTrafficEvent) (w' : ProctorTraffic) (hfits : DevicesFit w)
    (h : SweepsSound timeout db₀ w) (hstep : (proctorTraffic timeout).step w e = some w') :
    SweepsSound timeout db₀ w' ↔ SweepHolds timeout w e := by
  cases e with
  | sweep examId now =>
      cases hstep
      refine ⟨fun _ => trivial, fun _ => h.of_same (fun key => ?_) rfl⟩
      simp [announced, LogsKey]
  | heartbeat candidateId examId input now =>
      cases hstep
      refine ⟨fun _ => trivial, fun _ => h.of_same (fun key => ?_) rfl⟩
      simp [announced, LogsKey]
  | perform place input =>
      obtain ⟨statement, hplace, rfl⟩ := Option.map_eq_some_iff.mp hstep
      have hholds : SweepHolds timeout w (.perform place input) ↔
          StatementHolds timeout w input statement := by
        refine ⟨fun hall => hall statement hplace, fun hone statement' hplace' => ?_⟩
        rw [hplace] at hplace'
        cases hplace'
        exact hone
      rw [hholds]
      by_cases hfails : input.fails = true
      · rw [if_pos hfails, drop_sound_iff h hplace]
        -- A failure matters only to the creation of an event.
        cases statement with
        | logMissed device =>
            refine ⟨fun hnone => ?_, fun hcreates => ?_⟩
            · have hself : LogsKey device.key (.logMissed device) = true := decide_eq_true rfl
              rw [hnone] at hself
              cases hself
            · rw [hcreates.1] at hfails
              cases hfails
        | disconnect device disconnectedAt =>
            refine ⟨fun _ hruns => ?_, fun _ _ => rfl⟩
            rw [hruns] at hfails
            cases hfails
        | findStale examId staleBefore => exact ⟨fun _ => trivial, fun _ _ => rfl⟩
        | upsert candidateId examId upsert times => exact ⟨fun _ => trivial, fun _ _ => rfl⟩
      · rw [if_neg hfails]
        exact perform_sound_iff hfits h hplace (Bool.not_eq_true _ ▸ hfails)

/-- The exact condition for sound sweeps. In a run from a database without outstanding
statements, each loss of heartbeat has exactly one event and no device within the timeout is
disconnected, at any moment, if and only if each move meets the condition. -/
theorem sweeps_sound_iff (timeout : Int) (db : PlatformDatabase)
    (es : List ProctorTrafficEvent) (w : ProctorTraffic)
    (h : (proctorTraffic timeout).run { database := db } es = some w) :
    (proctorTraffic timeout).Always (SweepsSound timeout db) { database := db } es ↔
      (proctorTraffic timeout).Meets (SweepHolds timeout) { database := db } es := by
  have hfits : DevicesFit { database := db } := by
    intro device disconnectedAt hin
    cases hin
  have hsound : SweepsSound timeout db { database := db } :=
    ⟨fun _ => rfl, fun write hin => by cases hin⟩
  exact Machine.always_iff_meets (fun w e w' hw hstep => step_fits timeout w e w' hw hstep)
    (fun w e w' hw hs hstep => step_sound_iff timeout db w e w' hw hs hstep) es _ w hfits hsound h

/-! ### Two sweeps, and a heartbeat during a sweep -/

/-- An exam with one candidate, whose device has sent its last heartbeat at the time 0. -/
def sweptDatabase : PlatformDatabase where
  organizations := ⟨[⟨"org_a", "Example", "ORG-A", 0⟩], by decide⟩
  exams := ⟨[{
    id := "exam_1", organizationId := "org_a", title := "Exam", description := "", startAt := 0,
    endAt := 3600000, durationMinutes := 60, languages := [], createdAt := 0 }], by decide⟩
  candidates := ⟨[{
    id := "cand_1", examId := "exam_1", name := "Kim", email := "kim@example.com",
    inviteToken := "invite_1", createdAt := 0 }], by decide⟩
  proctorDevices := ⟨[{
    id := "device_1", candidateId := "cand_1", examId := "exam_1", role := .primaryPc,
    status := .connected, lastHeartbeatAt := some 0, createdAt := 0, updatedAt := 0 }],
    by decide⟩
  unique := by decide +kernel
  related := by decide +kernel

/-- The key of the device. -/
def sweptKey : DeviceKey := ("cand_1", "exam_1", .primaryPc)

/-- Two sweeps read the device before either of them updates it. -/
def overlappingSweeps : List ProctorTrafficEvent :=
  [.sweep "exam_1" 60000, .sweep "exam_1" 60001, .perform 0 { now := 60002 },
    .perform 0 { now := 60003 }, .perform 0 { now := 60004 }, .perform 0 { now := 60005 },
    .perform 0 { now := 60006, uuid := "11111111" },
    .perform 0 { now := 60007, uuid := "22222222" }]

/-- A heartbeat arrives between the read and the update of a sweep. -/
def heartbeatDuringSweep : List ProctorTrafficEvent :=
  [.sweep "exam_1" 60000, .perform 0 { now := 60001 },
    .heartbeat "cand_1" "exam_1" { role := .primaryPc, status := .connected } 60002,
    .perform 1 { now := 60003 }, .perform 0 { now := 60004 }]

/-- The run of the example goes through. -/
theorem overlappingSweeps_run :
    ((proctorTraffic 30000).run { database := sweptDatabase } overlappingSweeps).any (fun w =>
      w.statements.isEmpty && decide (losses 30000 w sweptKey = 1) &&
        decide (missedEvents w.database sweptKey = 2)) = true := by
  decide +kernel

/-- So does this one. -/
theorem heartbeatDuringSweep_run :
    ((proctorTraffic 30000).run { database := sweptDatabase } heartbeatDuringSweep).any (fun w =>
      w.writes.any fun write =>
        decide (write.found.lastHeartbeatAt = some 60002 ∧ write.now = 60004)) = true := by
  decide +kernel

/-- One loss of heartbeat has two events after two sweeps, and a sweep disconnects a device
whose heartbeat is two milliseconds old. -/
theorem sweeps_duplicate_event_and_drop_heartbeat :
    (∃ w, (proctorTraffic 30000).run { database := sweptDatabase } overlappingSweeps = some w ∧
      w.statements = [] ∧ losses 30000 w sweptKey = 1 ∧
      missedEvents w.database sweptKey = 2 ∧ ¬ SweepsSound 30000 sweptDatabase w) ∧
    ∃ w, (proctorTraffic 30000).run { database := sweptDatabase } heartbeatDuringSweep = some w ∧
      ∃ write ∈ w.writes, WithinTimeout 30000 write := by
  constructor
  · obtain ⟨w, hw, hcheck⟩ := (Option.any_eq_true _ _).mp overlappingSweeps_run
    simp only [Bool.and_eq_true, decide_eq_true_eq, List.isEmpty_iff] at hcheck
    obtain ⟨⟨hstatements, hlosses⟩, hevents⟩ := hcheck
    refine ⟨w, hw, hstatements, hlosses, hevents, fun hsound => ?_⟩
    have hcount := hsound.events sweptKey
    have hnone : announced w sweptKey = 0 := by
      unfold announced
      rw [hstatements]
      rfl
    have hstart : missedEvents sweptDatabase sweptKey = 0 := rfl
    omega
  · obtain ⟨w, hw, hcheck⟩ := (Option.any_eq_true _ _).mp heartbeatDuringSweep_run
    obtain ⟨write, hin, hwrite⟩ := List.any_eq_true.mp hcheck
    obtain ⟨hheartbeat, hnow⟩ := of_decide_eq_true hwrite
    exact ⟨w, hw, write, hin, 60002, hheartbeat, by rw [hnow]; decide⟩

/-- The exact condition at the run with two sweeps. -/
theorem sweeps_sound_iff_overlapping :
    ∃ w, (proctorTraffic 30000).run { database := sweptDatabase } overlappingSweeps = some w ∧
      ((proctorTraffic 30000).Always (SweepsSound 30000 sweptDatabase)
          { database := sweptDatabase } overlappingSweeps ↔
        (proctorTraffic 30000).Meets (SweepHolds 30000) { database := sweptDatabase }
          overlappingSweeps) := by
  obtain ⟨w, hw, -⟩ := (Option.any_eq_true _ _).mp overlappingSweeps_run
  exact ⟨w, hw, sweeps_sound_iff 30000 sweptDatabase overlappingSweeps w hw⟩

end Dcvp.Proofs
