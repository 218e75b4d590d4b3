import Dcvp.Lib.Machine
import Dcvp.Services.PlatformStore.Mappers
import Dcvp.Services.PlatformStore.Proctor

/-!
# `Dcvp.Services.PlatformStore.ProctorDatabase`: proctor devices on the database path

The functions of `platform-store.proctor.ts` inside `runDatabase`. Each Prisma statement is
one function on the database.

`markStaleProctorDevicesInStore` reads the stale devices, and then changes all of them at
once: for each device it sends an update, and after the answer the creation of an event
(`Promise.all`). These statements interleave with one another, with those of other sweeps and
with heartbeats. `ProctorTraffic` has the outstanding statements. A call sends its first one,
and a statement that takes effect sends the next ones of its call.

`writes` records what the updates of the sweeps found. No statement reads it.
-/

set_option autoImplicit false

namespace Dcvp.Services.PlatformStore

open Dcvp.Lib
open Dcvp.Shared

/-! ### Statements -/

/-- `lastHeartbeatAt: { lt: before }`. A device without a heartbeat does not count. -/
def ProctorDeviceRow.heartbeatBefore (row : ProctorDeviceRow) (before : Int) : Bool :=
  match row.lastHeartbeatAt with
  | some heartbeatAt => decide (heartbeatAt < before)
  | none => false

/-- The `data` of the sweep's update: the row is disconnected, and says that its heartbeat was
missed. -/
def disconnectRow (disconnectedAt now : Int) (row : ProctorDeviceRow) : ProctorDeviceRow :=
  { row with
    status := .disconnected
    disconnectedAt := some disconnectedAt
    detail := some "heartbeat missed"
    updatedAt := now }

/-- The type of the event of a device that the sweep disconnects. -/
def missedType : ProctorDeviceRole → ProctorEventType
  | .mobileAux => .mobileHeartbeatMissed
  | .primaryPc => .primaryCameraDisconnected

/-- The text of the event, which names the role of the device. -/
def missedDetail (role : ProctorDeviceRole) : String := role.text ++ " heartbeat missed."

/-- The `data` of the sweep's event, under a new identifier. -/
def missedEventRow (device : ProctorDeviceRow) (uuid : String) (now : Int) :
    ProctorEventRow where
  id := Services.createId "proctor" uuid
  candidateId := device.candidateId
  examId := device.examId
  type := missedType device.role
  detail := some (missedDetail device.role)
  createdAt := now

/-- What `upsertProctorDeviceInStore` computes before its statement: the connection, its end
and the heartbeat, where the status tells of one. -/
structure DeviceTimes where
  connectedAt : Option Int
  disconnectedAt : Option Int
  lastHeartbeatAt : Option Int

/-- The three dates of a request at the clock reading `now`. -/
def deviceTimes (status : ProctorDeviceStatus) (now : Int) : DeviceTimes where
  connectedAt := if status = .connected then some now else none
  disconnectedAt :=
    if status = .disconnected ∨ status = .permissionDenied then some now else none
  lastHeartbeatAt := if status = .connected then some now else none

/-- The `update` of the upsert. What is `undefined` stays as it is. -/
def applyUpsert (input : UpsertProctorDeviceInput) (times : DeviceTimes) (now : Int)
    (row : ProctorDeviceRow) : ProctorDeviceRow :=
  { row with
    status := input.status
    connectedAt := times.connectedAt.or row.connectedAt
    disconnectedAt := times.disconnectedAt.or row.disconnectedAt
    lastHeartbeatAt := times.lastHeartbeatAt.or row.lastHeartbeatAt
    detail := input.detail.or row.detail
    updatedAt := now }

namespace PlatformDatabase

variable (db : PlatformDatabase)

/-- The `staleDevices` of an exam: connected, and last seen before the bound. -/
def staleProctorDevices (examId : String) (staleBefore : Int) : List ProctorDeviceRow :=
  db.proctorDevices.rows.filter fun row =>
    decide (row.examId = examId) && decide (row.status = .connected) &&
      row.heartbeatBefore staleBefore

/-- `proctorDevice.update({ where: { id }, data })`. -/
def updateProctorDevice (id : String) (data : ProctorDeviceRow → ProctorDeviceRow)
    (keeps : ∀ row, (data row).id = row.id) : Except ServiceException PlatformDatabase :=
  match db.proctorDevices.find? id with
  | none => .error (.prisma .recordNotFound)
  | some _ => commit { db.toPlatformTables with
      proctorDevices := db.proctorDevices.updateMany (fun row => row.id = id) data keeps }

/-- `proctorEvent.create`, which fails where the identifier is taken or a row that it names is
missing. -/
def createProctorEvent (row : ProctorEventRow) : Except ServiceException PlatformDatabase :=
  create db.proctorEvents row fun proctorEvents => { db.toPlatformTables with proctorEvents }

/-- `proctorDevice.upsert`, with the random value of `createId`. -/
def upsertProctorDevice (candidateId examId : String) (input : UpsertProctorDeviceInput)
    (times : DeviceTimes) (uuid : String) (now : Int) :
    Except ServiceException PlatformDatabase :=
  match db.proctorDevices.findFirst fun row => row.key = (candidateId, examId, input.role) with
  | some row => db.updateProctorDevice row.id (applyUpsert input times now) fun _ => rfl
  | none =>
      let row : ProctorDeviceRow :=
        { id := Services.createId "proctor_device" uuid
          candidateId
          examId
          role := input.role
          status := input.status
          connectedAt := times.connectedAt
          disconnectedAt := times.disconnectedAt
          lastHeartbeatAt := times.lastHeartbeatAt
          detail := input.detail
          createdAt := now
          updatedAt := now }
      create db.proctorDevices row fun proctorDevices =>
        { db.toPlatformTables with proctorDevices }

end PlatformDatabase

/-! ### Interleaved statements -/

/-- An outstanding statement of a call, with what the call has at hand. -/
inductive ProctorStatement where
  | findStale (examId : String) (staleBefore : Int)
  | disconnect (device : ProctorDeviceRow) (disconnectedAt : Int)
  | logMissed (device : ProctorDeviceRow)
  | upsert (candidateId examId : String) (input : UpsertProctorDeviceInput)
      (times : DeviceTimes)

/-- What an update of a sweep found: the row before the update, and the clock. -/
structure SweepWrite where
  found : ProctorDeviceRow
  now : Int

/-- The database, the outstanding statements, and the updates of the sweeps so far. -/
structure ProctorTraffic where
  database : PlatformDatabase
  statements : List ProctorStatement := []
  writes : List SweepWrite := []

/-- The answers that a statement gets: the clock, a random value, and whether it fails for a
reason of its own, such as a lost connection. -/
structure StatementInput where
  now : Int := 0
  uuid : String := ""
  fails : Bool := false
  deriving DecidableEq

/-- The moves: a sweep or a heartbeat is called, or the outstanding statement in a place of
the list takes effect. -/
inductive ProctorTrafficEvent where
  | sweep (examId : String) (now : Int)
  | heartbeat (candidateId examId : String) (input : UpsertProctorDeviceInput) (now : Int)
  | perform (place : Nat) (input : StatementInput)

namespace ProctorTraffic

variable (w : ProctorTraffic)

/-- The statement ends its part of the call, with an error or without a next statement. -/
def drop (place : Nat) : ProctorTraffic := { w with statements := w.statements.eraseIdx place }

/-- The statement at a place is done, and others follow it. -/
def send (place : Nat) (next : List ProctorStatement) : ProctorTraffic :=
  { w with statements := w.statements.eraseIdx place ++ next }

/-- A statement takes effect on the database and sends those that follow it. -/
def perform (place : Nat) (input : StatementInput) : ProctorStatement → ProctorTraffic
  | .findStale examId staleBefore =>
      -- The rows are picked now. Each is disconnected by a statement of its own, later.
      let devices := w.database.staleProctorDevices examId staleBefore
      w.send place (devices.map fun device => .disconnect device input.now)
  | .disconnect device disconnectedAt =>
      match w.database.proctorDevices.find? device.id,
        w.database.updateProctorDevice device.id (disconnectRow disconnectedAt input.now)
          fun _ => rfl with
      | some found, .ok database =>
          { w.send place [.logMissed device] with
            database
            writes := w.writes ++ [⟨found, input.now⟩] }
      | _, _ => w.drop place
  | .logMissed device =>
      match w.database.createProctorEvent (missedEventRow device input.uuid input.now) with
      | .ok database => { w.drop place with database }
      | .error _ => w.drop place
  | .upsert candidateId examId upsert times =>
      match w.database.upsertProctorDevice candidateId examId upsert times input.uuid
        input.now with
      | .ok database => { w.drop place with database }
      | .error _ => w.drop place

/-- One move. The timeout is a number. -/
def step (timeout : Int) : ProctorTrafficEvent → Option ProctorTraffic
  | .sweep examId now =>
      some { w with statements := w.statements ++ [.findStale examId (now - timeout)] }
  | .heartbeat candidateId examId input now =>
      some { w with statements :=
        w.statements ++ [.upsert candidateId examId input (deviceTimes input.status now)] }
  | .perform place input =>
      w.statements[place]?.map fun statement =>
        if input.fails then w.drop place else w.perform place input statement

end ProctorTraffic

/-- The machine of all interleavings, with the heartbeat timeout. -/
def proctorTraffic (timeout : Int) : Machine ProctorTraffic ProctorTrafficEvent :=
  ⟨fun w e => w.step timeout e⟩

end Dcvp.Services.PlatformStore
