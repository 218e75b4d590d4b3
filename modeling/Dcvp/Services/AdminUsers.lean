import Dcvp.Services.AccountInput

/-!
# `Dcvp.Services.AdminUsers`: the accounts of an organization

The class `AdminUsersService` of `services/admin-users.service.ts`, as far as it writes:
`updateManagedUser` and `deleteManagedUser`. An edit reads the row, judges the request, looks
the new e-mail up, and writes the row. A deletion is one serializable transaction, which
refuses to remove the last operator.

`runDatabase` answers `undefined` for an error of the database client and throws an HTTP
exception on. Each method turns `undefined` into a message of its own, see `failure`.
-/

set_option autoImplicit false

namespace Dcvp.Services.AdminUsers

open Dcvp.Lib
open Dcvp.Shared (AuthSession User UserRole)

/-- `UpdateAdminUserInput`: the fields of an account that an operator or the head of its
organization may set. -/
structure UpdateInput where
  name : String
  email : String
  role : UserRole
  organizationId : Option String := none
  deriving DecidableEq

/-- `Required<UpdateAdminUserInput>`: the input after its checks, with the organization filled in.
-/
structure ParsedUpdate where
  name : String
  email : String
  role : UserRole
  organizationId : String
  deriving DecidableEq

/-! ### Checks -/

/-- `parseEditableRole`: the roles that the caller may give. Only an operator makes operators. -/
def parseEditableRole (session : AuthSession) (role : UserRole) :
    Except ServiceException UserRole :=
  if session.user.role = .admin then
    if role = .admin ∨ role = .organization ∨ role = .proctor then .ok role
    else .error (.http .badRequest
      "운영자는 운영자, 조직 관리자, 감독관 역할만 지정할 수 있습니다.")
  else if session.user.role = .organization ∧ (role = .organization ∨ role = .proctor) then
    .ok role
  else .error (.http .forbidden
    "조직 관리자는 자기 조직의 조직 관리자와 감독관 역할만 지정할 수 있습니다.")

/-- The organization that an edit gives: an operator names it, a manager gives the own one. -/
def requestedOrganization (session : AuthSession) (input : UpdateInput) : Option String :=
  if session.user.role = .admin then input.organizationId.map Js.trim
  else some session.organization.id

/-- `parseUpdateUserInput`: the trimmed fields, none of them empty, a role that the caller may
give, and the organization that the caller may name. -/
def parseUpdateUserInput (ctx : AuthContext) (session : AuthSession) (input : UpdateInput) :
    Except ServiceException ParsedUpdate := do
  let name := Js.trim input.name
  let email := ctx.text.toLowerCase (Js.trim input.email)
  let role ← parseEditableRole session input.role
  match Js.truthy (requestedOrganization session input) with
  | none => .error (.http .badRequest "이름, 이메일, 조직이 필요합니다.")
  | some organizationId =>
      if name = "" ∨ email = "" then
        .error (.http .badRequest "이름, 이메일, 조직이 필요합니다.")
      else if ¬ Js.includes email '@' then
        .error (.http .badRequest "올바른 이메일을 입력해주세요.")
      else .ok { name, email, role, organizationId }

/-- The two tests of the row that is to be edited. -/
def assertEditable (session : AuthSession) (target : UserRow) : Except ServiceException Unit :=
  if session.user.role ≠ .admin ∧ target.organizationId ≠ some session.organization.id then
    .error (.http .forbidden "자기 조직의 계정만 수정할 수 있습니다.")
  else if target.role = .admin ∧ session.user.role ≠ .admin then
    .error (.http .forbidden "운영자 계정은 조직 관리자가 수정할 수 없습니다.")
  else .ok ()

/-! ### Statements -/

/-- The columns that an edit writes: four of them, and the others stay. -/
def editRow (parsed : ParsedUpdate) (u : UserRow) : UserRow :=
  { u with
    name := parsed.name, email := parsed.email, role := parsed.role,
    organizationId := some parsed.organizationId }

/-- The test of the actor in the transaction of `deleteManagedUser`. -/
def assertDeleter (actor : Option UserRow) (userId : String) : Except ServiceException Unit :=
  match actor.filter (·.role = .admin) with
  | none => .error (.http .forbidden "운영자만 계정을 삭제할 수 있습니다.")
  | some actor =>
      if actor.id = userId then
        .error (.http .forbidden "자기 계정은 삭제할 수 없습니다.")
      else .ok ()

/-- The test of the target, with the count of the operators. -/
def assertDeletable (db : Database) (target : Option UserRow) : Except ServiceException Unit :=
  match target with
  | none => .error (.http .badRequest "삭제할 계정을 찾을 수 없습니다.")
  | some target =>
      -- The operators are counted inside the transaction that deletes one of them.
      if target.role = .admin ∧ db.users.count (·.role = .admin) ≤ 1 then
        .error (.http .conflict "마지막 운영자 계정은 삭제할 수 없습니다.")
      else .ok ()

/-- The transaction of `deleteManagedUser`. It reads the caller's row again, so the rights are
those of now and not those of the session. -/
def deleteTransaction (session : AuthSession) (userId : String) (db : Database) :
    Except ServiceException Database := do
  assertDeleter (db.findUser session.user.id) userId
  assertDeletable db (db.findUser userId)
  let db ← db.deleteInvitations fun i => i.invitedUserId = userId ∨ i.invitedById = userId
  db.deleteUser userId

/-! ### The calls and their suspensions -/

/-- The calls of the service that write: the update and the deletion of an account. -/
inductive Call where
  | updateManagedUser (userId : String) (input : UpdateInput)
  | deleteManagedUser (userId : String)

/-- A call that is suspended at one of its awaits while the statement is outstanding. Each
constructor is one await of the source and carries the local variables that are read after it. -/
inductive Waiting where
  | updateReadsTarget (userId : String) (input : UpdateInput)
  | updateReadsEmail (userId : String) (target : UserRow) (parsed : ParsedUpdate)
  | updateWrites (userId : String) (target : UserRow) (parsed : ParsedUpdate)
  | deleteCommits (userId : String)

/-- A call whose statement has been answered and that waits to be resumed. Each constructor holds
the answer beside the local variables of its await. -/
inductive Ready where
  | targetRead (userId : String) (input : UpdateInput) (target : Option UserRow)
  | emailRead (userId : String) (target : UserRow) (parsed : ParsedUpdate)
      (existing : Option UserRow)
  | updated (user : UserRow)
  | deleted (userId : String)

/-- What a call answers: the account as it is now, or the identifier of the deleted one. -/
inductive Result where
  | user (user : User)
  | deleted (id : String)
  deriving DecidableEq

section
variable (ctx : AuthContext) (session : AuthSession)

/-- The first segment of each call of the service. -/
def start : Call → Except ServiceException Waiting
  | .updateManagedUser userId input =>
      if ctx.env.databaseAvailable then .ok (.updateReadsTarget userId input)
      else .error (.http .serviceUnavailable
        "DB 연결이 필요합니다. 계정 정보를 수정할 수 없습니다.")
  | .deleteManagedUser userId =>
      if ctx.env.databaseAvailable then .ok (.deleteCommits userId)
      else .error (.http .serviceUnavailable
        "DB 연결이 필요합니다. 계정을 삭제할 수 없습니다.")

/-- `updateManagedUser` after the read of the row. -/
def updateAfterTarget (userId : String) (input : UpdateInput) :
    Option UserRow → Except ServiceException Waiting
  | none => .error (.http .badRequest "수정할 계정을 찾을 수 없습니다.")
  | some target => do
      -- The body is checked before the rights on the account.
      let parsed ← parseUpdateUserInput ctx session input
      assertEditable session target
      .ok (.updateReadsEmail userId target parsed)

/-- `updateManagedUser` after the lookup of the e-mail. -/
def updateAfterEmail (userId : String) (target : UserRow) (parsed : ParsedUpdate)
    (existing : Option UserRow) : Except ServiceException Waiting :=
  match existing.filter (·.id ≠ userId) with
  | some _ => .error (.http .conflict "이미 등록된 이메일입니다.")
  | none => .ok (.updateWrites userId target parsed)

/-- The awaited statement: the new database and the reply. -/
def statement (pc : Waiting) (db : Database) : Except ServiceException (Database × Ready) :=
  match pc with
  | .updateReadsTarget userId input => .ok (db, .targetRead userId input (db.findUser userId))
  | .updateReadsEmail userId target parsed =>
      .ok (db, .emailRead userId target parsed (db.findUserByEmail parsed.email))
  | .updateWrites userId _ parsed => do
      let (db, user) ← db.updateUser userId (editRow parsed) fun _ => rfl
      .ok (db, .updated user)
  | .deleteCommits userId => do
      let db ← deleteTransaction session userId db
      .ok (db, .deleted userId)

/-- The next segment of each call, by the answer that it waited for. -/
def resume : Ready → Outcome Waiting (Except ServiceException Result)
  | .targetRead userId input target =>
      awaitOrThrow (updateAfterTarget ctx session userId input target)
  | .emailRead userId target parsed existing =>
      awaitOrThrow (updateAfterEmail userId target parsed existing)
  | .updated user => conclude (.ok (.user (toUser user)))
  | .deleted userId => conclude (.ok (.deleted userId))

/-- The message for a statement that answered `undefined`. -/
def undefinedMessage : Waiting → String
  | .updateReadsTarget .. => "DB 연결이 필요합니다. 계정 정보를 수정할 수 없습니다."
  | .updateReadsEmail .. => "DB 연결이 필요합니다. 이메일 중복을 확인할 수 없습니다."
  | .updateWrites .. => "계정 정보를 수정할 수 없습니다."
  | .deleteCommits _ => "DB 연결이 필요합니다. 계정을 삭제할 수 없습니다."

/-- What a call throws when its statement throws. -/
def failure (pc : Waiting) : ServiceException → ServiceException
  | .http status message => .http status message
  | .prisma _ | .other _ => .http .serviceUnavailable (undefinedMessage pc)

end

end Dcvp.Services.AdminUsers
