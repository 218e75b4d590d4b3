import Dcvp.Lib.Computation
import Dcvp.Services.PlatformStore.Mappers

/-!
# `Dcvp.Services.PlatformStore.StoreDatabase`: the database or the memory

`PlatformStoreDatabase` of `platform-store.database.ts`, and `platform-store.seed-data.ts`.

`tryDatabase` decides where an operation works. It answers `null`, `none` here, when the memory
is to be used. Outside production the first failure of the database sends the store to the
memory for good. Before an operation on exams the database is filled with the demo data, which
never happens in production.

The functions are computations: they run to their end without other calls in between.
-/

set_option autoImplicit false

namespace Dcvp.Services.PlatformStore

open Dcvp.Lib
open Dcvp.Shared

/-! ### The mode of the store -/

/-- The environment variables that decide where the store works. -/
structure StoreContext extends PlatformContext where
  disableDatabase : Option String := none
  databaseUrl : Option String := none
  allowDemoAuth : Option String := none

namespace StoreContext

variable (ctx : StoreContext)

/-- `process.env.NODE_ENV === "production"`, compared exactly. -/
def production : Bool := decide (ctx.env.nodeEnv = some "production")

/-- `demoAuthEnabled`: never in production, and not where the variable is `"0"`. -/
def demoAuthEnabled : Bool :=
  if ctx.allowDemoAuth = some "0" then false else !ctx.production

/-- `databaseFallbackEnabled`: outside of production, or where the database is switched off. -/
def databaseFallbackEnabled : Bool :=
  if ctx.disableDatabase = some "1" ∨ ctx.demoAuthEnabled = true then true else !ctx.production

/-- There is a database to use at all. -/
def hasDatabase : Bool :=
  decide (ctx.disableDatabase ≠ some "1") && (Js.truthy ctx.databaseUrl).isSome &&
    !ctx.demoAuthEnabled

end StoreContext

/-- The memory of the process, the database, and the field `databaseUnavailable`. -/
structure Store where
  memory : PlatformMemory
  database : PlatformDatabase
  databaseUnavailable : Bool := false

/-- The store with another memory and the same database. -/
def Store.withMemory (store : Store) (memory : PlatformMemory) : Store := { store with memory }

/-- An operation that `tryDatabase` gets: a computation over the database that can throw. -/
abbrev DatabaseOperation := Computation ServiceException PlatformDatabase

/-- A method of the store: a computation over the arrays and the database together, so that both
paths are one program. -/
abbrev StoreOperation := Computation ServiceException Store

/-- The exceptions that `tryDatabase` passes on: the three that refuse a request. -/
def isRequestException : ServiceException → Bool
  | .http .badRequest _ => true
  | .http .forbidden _ => true
  | .http .notFound _ => true
  | _ => false

/-- The next operation works on the memory at once. -/
def Store.usesMemory (ctx : StoreContext) (store : Store) : Bool :=
  !ctx.hasDatabase || (store.databaseUnavailable && ctx.databaseFallbackEnabled)

/-- `tryDatabase`: nothing where the memory is used or the database fails, else its result or its
refusal. -/
def tryDatabase {α : Type} (ctx : StoreContext) (operation : DatabaseOperation α) :
    StoreOperation (Option α) := fun store =>
  if store.usesMemory ctx then (.ok none, store)
  else
    match operation store.database with
    | (.ok result, database) => (.ok (some result), { store with database })
    | (.error error, database) =>
        -- A refusal is the answer of a database that works. Every other error speaks against it.
        if isRequestException error then (.error error, { store with database })
        else if ctx.databaseFallbackEnabled then
          (.ok none, { store with database, databaseUnavailable := true })
        else
          (.error (.http .serviceUnavailable "Database operation failed."),
            { store with database })

/-! ### The demo data -/

/-- A number for a column of type `Int`. The client refuses any other one. -/
def intColumn (value : Rat) : Except ServiceException Int :=
  if value.den = 1 ∧ -2147483648 ≤ value.num ∧ value.num < 2147483648 then .ok value.num
  else .error (.prisma .other)

/-- `new Date(text)` for a column of type `DateTime`. The client refuses an invalid date. -/
def dateColumn (ctx : StoreContext) (text : String) : Except ServiceException Int :=
  match ctx.dateParse text with
  | some date => .ok date
  | none => .error (.prisma .other)

/-- The row of the demo organization, with a join code made of its identifier. -/
def demoOrganizationRow (ctx : StoreContext) (organization : Organization) (now : Int) :
    OrganizationRow where
  id := organization.id
  name := organization.name
  joinCode := organization.joinCode.getD ("ORG-" ++ ctx.host.text.toUpperCase
    (String.ofList ((withoutOrg organization.id.toList).take 8)))
  createdAt := now
where
  /-- `replace(/^org_/, "")`. -/
  withoutOrg (id : List Char) : List Char :=
    if ['o', 'r', 'g', '_'] <+: id then id.drop 4 else id

/-- The row of the demo exam, whose dates and numbers must fit their columns. -/
def demoExamRow (ctx : StoreContext) (exam : Exam) (now : Int) :
    Except ServiceException ExamRow := do
  let startAt ← dateColumn ctx exam.startAt
  let endAt ← dateColumn ctx exam.endAt
  let durationMinutes ← intColumn exam.durationMinutes
  .ok
    { id := exam.id
      organizationId := exam.organizationId
      title := exam.title
      description := exam.description
      startAt
      endAt
      durationMinutes
      status := exam.status
      languages := exam.languages
      proctoringEnabled := exam.proctoringEnabled
      identityVerificationEnabled := exam.identityVerificationEnabled
      mobileCameraRequired := exam.mobileCameraRequired
      screenShareRequired := exam.screenShareRequired
      createdAt := now }

/-- The row of the demo question, whose numbers must fit their columns. -/
def demoQuestionRow (examId : String) (question : Question) (now : Int) :
    Except ServiceException QuestionRow := do
  let points ← intColumn question.points
  let timeLimitMs ← intColumn question.timeLimitMs
  let memoryLimitMb ← intColumn question.memoryLimitMb
  .ok
    { id := question.id
      examId
      title := question.title
      description := question.description
      type := question.type
      points
      difficulty := question.difficulty
      timeLimitMs
      memoryLimitMb
      choices := question.choices
      expectedAnswer := question.expectedAnswer
      createdAt := now }

/-- The row of a test case of the demo data. -/
def demoTestCaseRow (questionId : String) (now : Int) (testCase : TestCase) : TestCaseRow where
  id := testCase.id
  questionId
  input := testCase.input
  expectedOutput := testCase.expectedOutput
  isPublic := testCase.isPublic
  createdAt := now

/-- The row of the demo candidate, in the exam of the demo data. -/
def demoCandidateRow (examId : String) (candidate : Candidate) (now : Int) :
    CandidateRow where
  id := candidate.id
  examId
  name := candidate.name
  email := candidate.email
  status := candidate.status
  inviteToken := candidate.inviteToken
  createdAt := now

/-- A row is added inside a statement. -/
def insertRow {ρ : Type} {key : ρ → String} (table : Table key) (row : ρ) :
    Except ServiceException (Table key) :=
  match table.insert? row with
  | some table => .ok table
  | none => .error (.prisma .uniqueConstraint)

/-- The rows of `createMany` with `skipDuplicates`: those whose key is taken are left out. -/
def insertMissing {ρ : Type} {key : ρ → String} (table : Table key) (rows : List ρ) :
    Table key := rows.foldl (fun table row => (table.insert? row).getD table) table

namespace PlatformDatabase

variable (db : PlatformDatabase)

/-- `organization.upsert` with an empty update: a row that exists stays as it is. -/
def upsertOrganization (row : OrganizationRow) : Except ServiceException PlatformDatabase :=
  match db.organizations.find? row.id with
  | some _ => .ok db
  | none => create db.organizations row fun organizations =>
      { db.toPlatformTables with organizations }

/-- `exam.create` with its question, its test cases and its candidate. -/
def createDemoExam (ctx : StoreContext) (exam : Exam) (question : Question)
    (candidate : Candidate) (testCases : List TestCase) (now : Int) :
    Except ServiceException PlatformDatabase := do
  let examRow ← demoExamRow ctx exam now
  let questionRow ← demoQuestionRow exam.id question now
  -- The nested `create` is one statement: a row that exists refuses all of them.
  let exams ← insertRow db.exams examRow
  let questions ← insertRow db.questions questionRow
  let testCases ← (testCases.map (demoTestCaseRow question.id now)).foldlM insertRow db.testCases
  let candidates ← insertRow db.candidates (demoCandidateRow exam.id candidate now)
  commit { db.toPlatformTables with exams, questions, testCases, candidates }

/-- `testCase.createMany` with `skipDuplicates`, for the test cases of the demo question. -/
def createMissingTestCases (testCases : List TestCase) (now : Int) :
    Except ServiceException PlatformDatabase :=
  commit { db.toPlatformTables with
    testCases := insertMissing db.testCases
      (testCases.map fun testCase => demoTestCaseRow testCase.questionId now testCase) }

end PlatformDatabase

open Computation

/-- The second half of `ensurePlatformSeedData`: some exam is there. -/
def ensureDemoTestCases (state : ExamAdminMemoryState) (now : Int) : DatabaseOperation Unit :=
  match state.questions.head? with
  | none => pure ()
  | some demoQuestion => do
      let count ← reads fun db =>
        .ok (db.testCases.count fun row => row.questionId = demoQuestion.id)
      -- The demo test cases are added when their question has none.
      if count = 0 then updates fun db => db.createMissingTestCases state.testCases now
      else pure ()

/-- The creation of the demo exam in `ensurePlatformSeedData`. -/
def createDemoData (ctx : StoreContext) (state : ExamAdminMemoryState) (now : Int) :
    DatabaseOperation Unit :=
  match state.exams.head?, state.questions.head?, state.candidates.head? with
  | some demoExam, some demoQuestion, some demoCandidate =>
      updates fun db => db.createDemoExam ctx demoExam demoQuestion demoCandidate
        (state.testCases.filter (·.questionId = demoQuestion.id)) now
  | _, _, _ => pure ()

/-- `ensurePlatformSeedData`: outside of production, the demo data of an empty database. -/
def ensurePlatformSeedData (ctx : StoreContext) (state : ExamAdminMemoryState) (now : Int) :
    DatabaseOperation Unit :=
  if ctx.production then pure ()
  else do
    updates fun db => db.upsertOrganization (demoOrganizationRow ctx state.organization now)
    let examCount ← reads fun db => .ok (db.exams.count fun _ => true)
    if examCount = 0 then createDemoData ctx state now else ensureDemoTestCases state now

/-- The `runDatabase` of `seededDatabaseContext`: the demo data first, then the operation. -/
def trySeededDatabase {α : Type} (ctx : StoreContext) (operation : DatabaseOperation α)
    (now : Int) : StoreOperation (Option α) := do
  let memory ← reads fun store => .ok store.memory
  tryDatabase ctx do
    ensurePlatformSeedData ctx memory.examAdminMemoryState now
    operation

/-- What a function of the store does with the answer of `runDatabase`: it returns it, or
goes on with the memory. -/
def orInMemory {α : Type} (answer : StoreOperation (Option α))
    (inMemory : PlatformMemory → Except ServiceException α) : StoreOperation α := do
  match ← answer with
  | some result => pure result
  | none => reads fun store => inMemory store.memory

end Dcvp.Services.PlatformStore
