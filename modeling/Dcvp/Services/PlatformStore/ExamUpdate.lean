import Dcvp.Json
import Dcvp.Services.PlatformStore.StoreOperations

/-!
# `Dcvp.Services.PlatformStore.ExamUpdate`: the update of an exam with an unchecked body

`updateExam` of the controller hands the JSON body of the request to `updateExamInStore` as it is.
So the type `UpdateExamInput` of the body is a promise of the client only. Here the body is any
JSON object, and an exam of the memory is an object too: what the spread makes of it need not be
an `Exam`.

The database path reads ten members of the body. What the client of the database makes of their
values is a parameter, `ExamColumns`.
-/

set_option autoImplicit false

namespace Dcvp.Services.PlatformStore

open Dcvp.Lib
open Dcvp.Lib.Computation
open Dcvp.Shared

/-- An object of the runtime: its members, where the last one of a name counts. -/
abbrev JsonObject := List (String × JsonValue)

/-! ### The memory -/

/-- The text of a status, as it stands in a JSON body. -/
def examStatusText : ExamStatus → String
  | .draft => "DRAFT"
  | .scheduled => "SCHEDULED"
  | .active => "ACTIVE"
  | .ended => "ENDED"
  | .deleted => "DELETED"

/-- An `Exam` as an object, with all its own properties. -/
def examObject (exam : Exam) : JsonObject :=
  [("id", .string exam.id),
    ("organizationId", .string exam.organizationId),
    ("title", .string exam.title),
    ("description", .string exam.description),
    ("startAt", .string exam.startAt),
    ("endAt", .string exam.endAt),
    ("durationMinutes", .number exam.durationMinutes),
    ("status", .string (examStatusText exam.status)),
    ("languages", .array (exam.languages.map .string)),
    ("proctoringEnabled", .bool exam.proctoringEnabled),
    ("identityVerificationEnabled", .bool exam.identityVerificationEnabled),
    ("mobileCameraRequired", .bool exam.mobileCameraRequired),
    ("screenShareRequired", .bool exam.screenShareRequired),
    ("createdAt", .string exam.createdAt)]

/-- A `CreateExamInput` as the object that a client sends. -/
def inputObject (input : CreateExamInput) : JsonObject :=
  [("title", .string input.title),
    ("description", .string input.description),
    ("startAt", .string input.startAt),
    ("endAt", .string input.endAt),
    ("durationMinutes", .number input.durationMinutes),
    ("languages", .array (input.languages.map .string)),
    ("proctoringEnabled", .bool input.proctoringEnabled),
    ("identityVerificationEnabled", .bool input.identityVerificationEnabled),
    ("mobileCameraRequired", .bool input.mobileCameraRequired),
    ("screenShareRequired", .bool input.screenShareRequired)]

/-- `assertSessionCanAccessExam` for the `organizationId` of an object. -/
def assertSessionCanAccessObject (session : AuthSession) (organizationId : Option JsonValue) :
    Except ServiceException Unit :=
  if session.user.role ≠ .admin ∧ isText organizationId session.organization.id = false then
    .error examNotFound
  else .ok ()

/-- The exam that a session may update, among objects. -/
def findAccessibleObject (exams : List JsonObject) (examId : String) (session : AuthSession) :
    Except ServiceException JsonObject :=
  match exams.find? fun item => isText (readUnknown item "id") examId with
  | none => .error examNotFound
  | some exam =>
      if isText (readUnknown exam "status") "DELETED" then .error examNotFound
      else do
        assertSessionCanAccessObject session (readUnknown exam "organizationId")
        .ok exam

/-- `updateExamInStore` on the memory: the exam, and the array with it. -/
def updateExamObject (exams : List JsonObject) (session : AuthSession) (examId : String)
    (input : JsonObject) : Except ServiceException (JsonObject × List JsonObject) := do
  assertSessionCanManageExams session
  let exam ← findAccessibleObject exams examId session
  -- The body was not checked. Its members overwrite those of the exam, `id` and `status` too.
  let updated := spread exam input
  .ok (updated, exams.map fun item =>
    if isText (readUnknown item "id") examId then updated else item)

/-! ### The database -/

/-- What the runtime and the client of the database make of a member of the body: `new Date(value)`,
where `none` is an invalid date, and what becomes of a column. A member that is not there leaves
its column, and a value that is none for the column is refused. -/
structure ExamColumns where
  newDate : Option JsonValue → Option Int
  string : Option JsonValue → Except ServiceException (String → String)
  int : Option JsonValue → Except ServiceException (Int → Int)
  bool : Option JsonValue → Except ServiceException (Bool → Bool)
  strings : Option JsonValue → Except ServiceException (List String → List String)

/-- A column of type `DateTime`: what `new Date` cannot read is refused. -/
def ExamColumns.date (columns : ExamColumns) (value : Option JsonValue) :
    Except ServiceException Int :=
  match columns.newDate value with
  | some date => .ok date
  | none => .error (.prisma .other)

/-- The `data` of `exam.update`: what becomes of each column. -/
structure ExamData where
  title : String → String
  description : String → String
  startAt : Int
  endAt : Int
  durationMinutes : Int → Int
  languages : List String → List String
  proctoringEnabled : Bool → Bool
  identityVerificationEnabled : Bool → Bool
  mobileCameraRequired : Bool → Bool
  screenShareRequired : Bool → Bool

/-- The `data` that `updateExamInStore` makes of the body. -/
def examData (columns : ExamColumns) (input : JsonObject) : Except ServiceException ExamData := do
  let title ← columns.string (readUnknown input "title")
  let description ← columns.string (readUnknown input "description")
  let startAt ← columns.date (readUnknown input "startAt")
  let endAt ← columns.date (readUnknown input "endAt")
  let durationMinutes ← columns.int (readUnknown input "durationMinutes")
  let languages ← columns.strings (readUnknown input "languages")
  let proctoringEnabled ← columns.bool (readUnknown input "proctoringEnabled")
  let identityVerificationEnabled ←
    columns.bool (readUnknown input "identityVerificationEnabled")
  let mobileCameraRequired ← columns.bool (readUnknown input "mobileCameraRequired")
  let screenShareRequired ← columns.bool (readUnknown input "screenShareRequired")
  .ok { title, description, startAt, endAt, durationMinutes, languages, proctoringEnabled,
        identityVerificationEnabled, mobileCameraRequired, screenShareRequired }

/-- The row with the columns of the update. -/
def applyExamData (data : ExamData) (row : ExamRow) : ExamRow :=
  { row with
    title := data.title row.title
    description := data.description row.description
    startAt := data.startAt
    endAt := data.endAt
    durationMinutes := data.durationMinutes row.durationMinutes
    languages := data.languages row.languages
    proctoringEnabled := data.proctoringEnabled row.proctoringEnabled
    identityVerificationEnabled :=
      data.identityVerificationEnabled row.identityVerificationEnabled
    mobileCameraRequired := data.mobileCameraRequired row.mobileCameraRequired
    screenShareRequired := data.screenShareRequired row.screenShareRequired }

/-- `updateExamInStore` on the database: only the columns that the code names are written. -/
def updateExamBodyInDatabase (columns : ExamColumns) (session : AuthSession) (examId : String)
    (input : JsonObject) : DatabaseOperation Exam := do
  reads fun _ => assertSessionCanManageExams session
  let _ ← reads fun db => findAccessibleExamRow db.toPlatformTables examId session
  let data ← reads fun _ => examData columns input
  updates fun db => db.updateExam examId (applyExamData data) fun _ => rfl
  reads fun db => db.mappedExam examId

end Dcvp.Services.PlatformStore
