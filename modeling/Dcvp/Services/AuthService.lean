import Dcvp.Database
import Dcvp.Js
import Dcvp.Lib.AsyncCalls
import Dcvp.Services.AuthSessionRegistry

/-!
# `Dcvp.Services.AuthService`: sign-in and sessions

The class `AuthService` of `services/auth.service.ts` as a program of asynchronous calls.
Each `await` is a suspension: `AuthWaiting` lists the awaited operations with the local
variables that the code still needs, and `AuthReady` the same points with the reply. The
await of `this.me(token)` inside another method is a suspension as well.

The database transaction of `loginWithDatabase` is one function, `loginTransaction`. The
isolation level is serializable, so a transaction that commits takes effect at one moment,
and one that does not has no effect. A statement outside of a transaction is one moment of
its own. Each of them can also fail, and then the `await` throws.

`setupStatus` and `createInitialAdmin` are left out. The functions of `password-hash.ts`
are the parameter `PasswordHashing`. A derivation can be refused when too many are running,
which the input of the move decides.

Every call leaves through `Except`. The demo sign-in without a database is included, because
its branch in `login` is part of the same function.
-/

set_option autoImplicit false

namespace Dcvp.Services

open Dcvp.Lib
open Dcvp.Shared (AuthSession Organization User UserRole currentPrivacyPolicyVersion)

/-! ### Parameters -/

/-- The environment variables that the service reads. They decide whether there is a database and
whether demo accounts are let in. -/
structure ProcessEnv where
  nodeEnv : Option String := none
  allowDemoAuth : Option String := none
  disableDatabase : Option String := none
  databaseUrl : Option String := none
  deriving DecidableEq

/-- `demoAuthEnabled`: never in production, else unless `ALLOW_DEMO_AUTH` is `"0"`. -/
def ProcessEnv.demoAuthEnabled (env : ProcessEnv) : Bool :=
  if env.nodeEnv = some "production" then false
  else if env.allowDemoAuth = some "1" then true
  else if env.allowDemoAuth = some "0" then false
  else true

/-- `databaseAvailable`: a database is configured and not switched off. -/
def ProcessEnv.databaseAvailable (env : ProcessEnv) : Bool :=
  decide (env.disableDatabase ≠ some "1") &&
    match env.databaseUrl with
    | some url => decide (url ≠ "")
    | none => false

/-- The functions of `password-hash.ts`, and the legacy `hashPassword` of the service. The
field `needsDerivation` tells for which stored hashes `verifyPassword` derives a key. -/
structure PasswordHashing where
  isStrongPassword : String → Bool
  createPasswordHash : (salt password : String) → String
  verifyPassword : (password storedHash : String) → Bool
  needsDerivation : (storedHash : String) → Bool
  passwordHashNeedsUpgrade : (storedHash : String) → Bool
  hashPassword : (password : String) → String

/-- What the service is given: the environment, the case mappings, the password functions,
and the time at which the module was loaded, which the demo accounts carry. -/
structure AuthContext where
  env : ProcessEnv
  text : Js.CaseMapping
  hashing : PasswordHashing
  loadedAt : Int

/-- The input of one move. `dateNow` is the reading of the method itself, `clock` and
`secondClock` are those of its calls of the registry. `uuid` is what `crypto.randomUUID()`
answers, `salt` what `randomBytes` answers. The two flags say whether the password
derivations of the move are refused, and `fault` is the error with which the awaited
statement fails. -/
structure AuthInput where
  dateNow : Int := 0
  clock : Clock := ⟨0, 0⟩
  secondClock : Clock := ⟨0, 0⟩
  uuid : String := ""
  salt : String := ""
  verifyBusy : Bool := false
  createBusy : Bool := false
  fault : Option PrismaError := none
  deriving DecidableEq

/-! ### Constants and messages -/

/-- With this many failures an account is locked. -/
def failedLoginLimit : Nat := 5

/-- A lock holds for a quarter of an hour. -/
def accountLockDurationMs : Int := 15 * 60 * 1000

/-- A password has to be changed after ninety days. -/
def passwordLifetimeMs : Int := 90 * 24 * 60 * 60 * 1000

/-- The text for a login that fails. It does not say whether the e-mail or the password is wrong.
-/
def invalidCredentialsMessage : String := "이메일 또는 비밀번호가 올바르지 않습니다."

/-- The text for a token without a session. -/
def sessionExpiredMessage : String := "세션이 만료되었거나 유효하지 않습니다."

/-- The text for a session whose password has to be changed first. -/
def passwordChangeMessage : String := "비밀번호 변경이 필요합니다."

/-- The text for a registration with an e-mail of another account. -/
def emailTakenMessage : String := "이미 등록된 이메일입니다."

/-- The text for a password that is not strong enough. -/
def passwordPolicyMessage : String :=
  "비밀번호는 12~256자이며 영문 대문자, 소문자, 숫자, 특수문자 중 3종 이상을 포함해야 합니다."

/-- An unknown e-mail is compared with this hash, so that it takes as long as a known one. -/
def dummyPasswordHash : String :=
  "pbkdf2-sha256$310000$dcvp-dummy-login-salt$woK-CvNd4mKHb7rbtzk6crIhkEbVW_m9nXjISMPo2Zg"

/-- The `UnauthorizedException` that most paths throw, with their message. -/
def unauthorized (message : String) : ServiceException := .http .unauthorized message

/-- `passwordKdfBusyError`: the answer when the queue of derivations is full. -/
def passwordKdfBusyError : ServiceException :=
  .http .serviceUnavailable "인증 요청이 많습니다. 잠시 후 다시 시도해주세요."

/-! ### Inputs of the calls -/

/-- `LoginInput`: the address and the password of an attempt to log in. -/
structure LoginInput where
  email : String
  password : String
  deriving DecidableEq

/-- `RegisterInput`: a new account, with the consent to the privacy policy of a version. -/
structure RegisterInput where
  name : String
  email : String
  password : String
  privacyConsentAccepted : Bool
  privacyPolicyVersion : String
  deriving DecidableEq

/-- `ChangePasswordInput`: the present password has to come with the new one. -/
structure ChangePasswordInput where
  currentPassword : String
  newPassword : String
  deriving DecidableEq

/-- `parseLoginInput`: the trimmed address in lower case. Both fields have bounds, and an input
outside of them is answered like a wrong password. -/
def parseLoginInput (ctx : AuthContext) (input : LoginInput) :
    Except ServiceException LoginInput :=
  let email := ctx.text.toLowerCase (Js.trim input.email)
  -- A malformed input is answered like a wrong password.
  if email = "" ∨ Js.length email > 320 ∨ ¬ Js.includes email '@' ∨
      Js.length input.password = 0 ∨ Js.length input.password > 256 then
    .error (unauthorized invalidCredentialsMessage)
  else .ok { email, password := input.password }

/-- `parseRegisterInput`, with `assertCurrentPrivacyConsent` at its end: trimmed fields within
their bounds, a strong password, the current policy. -/
def parseRegisterInput (ctx : AuthContext) (input : RegisterInput) :
    Except ServiceException RegisterInput :=
  let name := Js.trim input.name
  let email := ctx.text.toLowerCase (Js.trim input.email)
  if name = "" ∨ Js.length name > 100 ∨ email = "" ∨ Js.length email > 320 ∨
      ¬ ctx.hashing.isStrongPassword input.password then
    .error (.http .badRequest ("이름, 이메일과 " ++ passwordPolicyMessage))
  else if ¬ Js.includes email '@' then
    .error (.http .badRequest "올바른 이메일 주소를 입력해주세요.")
  else if ¬ input.privacyConsentAccepted ∨
      input.privacyPolicyVersion ≠ currentPrivacyPolicyVersion then
    .error (.http .badRequest "회원가입을 위해 현재 개인정보 수집·이용에 동의해 주세요.")
  else
    .ok { name, email, password := input.password, privacyConsentAccepted := true,
          privacyPolicyVersion := currentPrivacyPolicyVersion }

/-- `parseChangePasswordInput`: the new password has to be strong. Of the present one only the
length is checked here. -/
def parseChangePasswordInput (ctx : AuthContext) (input : ChangePasswordInput) :
    Except ServiceException ChangePasswordInput :=
  if Js.length input.currentPassword > 256 ∨ ¬ ctx.hashing.isStrongPassword input.newPassword then
    .error (.http .badRequest ("현재 비밀번호와 " ++ passwordPolicyMessage))
  else .ok input

/-! ### Values -/

/-- `toUser`: a row as the API shows it. -/
def toUser (user : UserRow) : User where
  id := user.id
  email := user.email
  name := user.name
  role := user.role
  organizationId := user.organizationId
  createdAt := Js.toISOString user.createdAt

/-- `unaffiliatedOrganization`: stands in a session of an account that belongs to no organization;
its identifier is empty. -/
def unaffiliatedOrganization : Organization where
  id := ""
  name := "소속 없음"
  createdAt := Js.toISOString 0

/-- The organization of a session: that of the user's row, or `unaffiliatedOrganization`. -/
def toOrganization : Option OrganizationRow → Organization
  | some organization =>
      { id := organization.id, name := organization.name,
        joinCode := some organization.joinCode,
        createdAt := Js.toISOString organization.createdAt }
  | none => unaffiliatedOrganization

/-- The test of the password lifetime, in `me`, `requireActiveSession` and the sign-in. -/
def passwordExpired (user : UserRow) (now : Int) : Bool :=
  user.passwordChangeRequired ||
    decide (user.passwordChangedAt.getD user.createdAt ≤ now - passwordLifetimeMs)

/-- `passwordMatches`: both formats of a hash are tried. Only the one that needs a derivation can
find the queue full. -/
def passwordMatches (hashing : PasswordHashing) (busy : Bool) (password storedHash : String) :
    Except ServiceException Bool :=
  if hashing.needsDerivation storedHash && busy then .error passwordKdfBusyError
  else .ok (hashing.verifyPassword password storedHash ||
    decide (storedHash = hashing.hashPassword password))

/-- `createPasswordHash`: a derivation under a fresh salt, or the exception of a full queue. -/
def createPasswordHash (hashing : PasswordHashing) (busy : Bool) (salt password : String) :
    Except ServiceException String :=
  if busy then .error passwordKdfBusyError else .ok (hashing.createPasswordHash salt password)

/-! ### The sign-in transaction -/

/-- `DatabaseLoginResult`: what the login transaction returns. A locked account and a wrong
password are not told apart. -/
inductive DatabaseLoginResult where
  | success (user : User) (organization : Organization) (passwordChangeRequired : Bool)
  | invalidCredentials
  deriving DecidableEq

/-- Whether the account is locked at `now`. -/
def AccountLocked (user : UserRow) (now : Int) : Prop :=
  ∃ t ∈ user.lockedUntil, now < t

instance (user : UserRow) (now : Int) : Decidable (AccountLocked user now) := by
  unfold AccountLocked
  infer_instance

/-- A lock that has run out is removed together with the count. -/
def clearExpiredLock (db : Database) (user : UserRow) : Except ServiceException Database :=
  if user.lockedUntil.isSome then
    Prod.fst <$> db.updateUser user.id
      (fun u => { u with failedLoginAttempts := 0, lockedUntil := none }) fun _ => rfl
  else .ok db

/-- A wrong password: the count goes up, and at the limit the account is locked. -/
def recordFailure (db : Database) (user : UserRow) (now : Int) :
    Except ServiceException Database := do
  let (db, updatedUser) ← db.updateUser user.id
    (fun u => { u with failedLoginAttempts := u.failedLoginAttempts + 1 }) fun _ => rfl
  -- The count is the one that the update returns, not the one that was read at the start.
  if updatedUser.failedLoginAttempts ≥ failedLoginLimit then
    Prod.fst <$> db.updateUser user.id
      (fun u => { u with lockedUntil := some (now + accountLockDurationMs) }) fun _ => rfl
  else .ok db

/-- The `passwordHash` that the right password leads to: an outdated hash is renewed. -/
def renewedPasswordHash (ctx : AuthContext) (input : AuthInput) (password : String)
    (user : UserRow) : Except ServiceException String :=
  if ctx.hashing.passwordHashNeedsUpgrade user.passwordHash then
    -- When this derivation is refused, the whole transaction fails.
    createPasswordHash ctx.hashing input.createBusy input.salt password
  else .ok user.passwordHash

/-- The right password. The row is rewritten when one of its four columns would change,
judged by the row that the transaction read at its start. -/
def recordSuccess (ctx : AuthContext) (input : AuthInput) (password : String) (db : Database)
    (user : UserRow) : Except ServiceException (Database × DatabaseLoginResult) := do
  let passwordChangeRequired := passwordExpired user input.dateNow
  let passwordHash ← renewedPasswordHash ctx input password user
  let result := DatabaseLoginResult.success (toUser user)
    (toOrganization (db.organizationOf user)) passwordChangeRequired
  if passwordHash ≠ user.passwordHash ∨ user.failedLoginAttempts ≠ 0 ∨
      user.lockedUntil.isSome ∨ passwordChangeRequired ≠ user.passwordChangeRequired then
    let (db, _) ← db.updateUser user.id
      (fun u => { u with
        passwordHash, failedLoginAttempts := 0, lockedUntil := none, passwordChangeRequired })
      fun _ => rfl
    .ok (db, result)
  else .ok (db, result)

/-- The part of the sign-in transaction for an existing account. -/
def loginUser (ctx : AuthContext) (input : AuthInput) (password : String) (db : Database)
    (user : UserRow) : Except ServiceException (Database × DatabaseLoginResult) := do
  if AccountLocked user input.dateNow then
    -- The password is compared here as well, so that the answer takes as long.
    let _ ← passwordMatches ctx.hashing input.verifyBusy password user.passwordHash
    .ok (db, .invalidCredentials)
  else
    let db ← clearExpiredLock db user
    if ← passwordMatches ctx.hashing input.verifyBusy password user.passwordHash then
      recordSuccess ctx input password db user
    else
      let db ← recordFailure db user input.dateNow
      .ok (db, .invalidCredentials)

/-- The transaction of `loginWithDatabase`. An unknown address costs a derivation as well, and is
answered like a wrong password. -/
def loginTransaction (ctx : AuthContext) (input : AuthInput) (login : LoginInput)
    (db : Database) : Except ServiceException (Database × DatabaseLoginResult) :=
  match db.findUserByEmail login.email with
  | none => do
      -- An unknown address costs a derivation as well, so that the answer takes as long.
      let _ ← passwordMatches ctx.hashing input.verifyBusy login.password dummyPasswordHash
      .ok (db, .invalidCredentials)
  | some user => loginUser ctx input login.password db user

/-! ### The calls and their suspensions -/

/-- The memory of the process: the session registry, and the answers of
`crypto.randomUUID()` so far. -/
structure AuthMemory where
  registry : AuthSessionRegistry := {}
  uuids : List String := []

/-- The calls of the service, a firing session timeout, and a statement with which another
service changes the database. -/
inductive AuthCall where
  | login (input : LoginInput)
  | register (input : RegisterInput)
  | me (token : Option String)
  | requireActiveSession (token : Option String)
  | refreshSession (token : Option String)
  | changePassword (token : Option String) (input : ChangePasswordInput)
  | logout (token : Option String)
  | revokeUserSessions (userId : String)
  | fire (timer : Timeout)
  | otherStatement (write : Database → Database)

/-- The methods that run `me`, and what they do with the session it returns. -/
inductive MeCaller where
  | me
  | requireActiveSession
  | refreshSession
  | changePassword (input : ChangePasswordInput)
  deriving DecidableEq

/-- A call that is suspended while its operation is outstanding. Each constructor is one await of
`AuthService`, inside which the method of the caller is kept. -/
inductive AuthWaiting where
  | loginTransaction (login : LoginInput) (retry : Nat)
  | registerReads (input : RegisterInput)
  | registerHashes (input : RegisterInput) (userId : String)
  | registerCreates (input : RegisterInput) (userId passwordHash : String)
  | meReads (caller : MeCaller) (session : AuthSession)
  | meMarks (caller : MeCaller) (session : AuthSession) (userId : String)
  | meReturns (caller : MeCaller) (session : AuthSession)
  | activeReads (session : AuthSession)
  | activeMarks (session : AuthSession) (userId : String)
  | refreshReads (session : AuthSession)
  | changeReads (session : AuthSession) (input : ChangePasswordInput)
  | changeCompares (input : ChangePasswordInput) (user : UserRow)
      (organization : Option OrganizationRow)
  | changeHashes (input : ChangePasswordInput) (user : UserRow)
      (organization : Option OrganizationRow)
  | changeWrites (userId passwordHash : String) (passwordChangedAt : Int)
      (organization : Option OrganizationRow)
  | otherStatement (write : Database → Database)

/-- A call whose operation is answered, or has thrown, at the same places as `AuthWaiting`. -/
inductive AuthReady where
  | loginFailed (login : LoginInput) (retry : Nat) (error : ServiceException)
  | loginCommitted (result : DatabaseLoginResult)
  | registerFailed (error : ServiceException)
  | registerRead (input : RegisterInput) (existingEmail : Option UserRow)
  | registerHashed (input : RegisterInput) (userId passwordHash : String)
  | registerCreated (user : UserRow)
  | meRead (caller : MeCaller) (session : AuthSession) (user : Option UserRow)
  | meMarked (caller : MeCaller) (session : AuthSession)
  | meReturned (caller : MeCaller) (session : AuthSession)
  | activeRead (session : AuthSession) (user : Option UserRow)
  | activeMarked (session : AuthSession)
  | refreshRead (session : AuthSession) (user : Option UserRow)
      (organization : Option OrganizationRow)
  | changeRead (input : ChangePasswordInput) (user : Option UserRow)
      (organization : Option OrganizationRow)
  | changeCompared (input : ChangePasswordInput) (user : UserRow)
      (organization : Option OrganizationRow) (matched : Bool)
  | changeHashed (user : UserRow) (passwordHash : String)
      (organization : Option OrganizationRow)
  | changeWritten (updatedUser : UserRow) (organization : Option OrganizationRow)
  | failed (error : ServiceException)
  | otherDone

/-- What a call answers: a session, or nothing. -/
abbrev AuthResult := Except ServiceException (Option AuthSession)

/-- The end of a segment: the new memory and how the segment ends. -/
abbrev AuthSegment := AuthMemory × Outcome AuthWaiting AuthResult

section
variable (ctx : AuthContext)

/-- The call ends with an exception, and the memory is as it is. -/
def throws (memory : AuthMemory) (error : ServiceException) : AuthSegment :=
  (memory, .finished (.error error))

/-- The call returns a session, and the memory is as it is. -/
def returns (memory : AuthMemory) (session : AuthSession) : AuthSegment :=
  (memory, .finished (.ok (some session)))

/-- The call waits at one of its awaits. -/
def awaits (memory : AuthMemory) (pc : AuthWaiting) : AuthSegment := (memory, .suspended pc)

/-- The options with which the service creates its registry: the default lifetimes. -/
def sessionOptions : SessionRegistryOptions := {}

/-- `this.sessions.set(token, session)`: the session is stored whether or not the token was removed
before. -/
def AuthMemory.setSession (memory : AuthMemory) (clock : Clock) (token : String)
    (session : AuthSession) : AuthMemory :=
  { memory with registry := memory.registry.set sessionOptions clock token session }

/-- `this.sessions.delete(token)`, whose callback is not needed here. -/
def AuthMemory.deleteSession (memory : AuthMemory) (token : String) : AuthMemory :=
  { memory with registry := (memory.registry.delete token).2 }

/-- `crypto.randomUUID()`: an answer that was not given before. -/
def AuthMemory.randomUUID (memory : AuthMemory) (input : AuthInput) : Option AuthMemory :=
  if input.uuid ∈ memory.uuids then none
  else some { memory with uuids := memory.uuids ++ [input.uuid] }

/-- The token of a new session, which is the drawn identifier behind a prefix. -/
def sessionToken (uuid : String) : String := "session_" ++ uuid

/-- `createSession`: a session under a new token, stored before it is returned. -/
def createSession (memory : AuthMemory) (input : AuthInput) (user : User)
    (organization : Organization) : Option (AuthMemory × AuthSession) :=
  (memory.randomUUID input).map fun memory =>
    let token := sessionToken input.uuid
    let session : AuthSession := { token, user, organization, passwordChangeRequired := false }
    (memory.setSession input.clock token session, session)

/-- `me`, up to its first suspension, for the method `caller`. -/
def me (memory : AuthMemory) (input : AuthInput) (caller : MeCaller) :
    Option String → AuthSegment
  | none => throws memory (unauthorized "세션 토큰이 없습니다.")
  | some token =>
      if token = "" then throws memory (unauthorized "세션 토큰이 없습니다.")
      else
        let (session, registry) := memory.registry.get sessionOptions input.clock token
        let memory := { memory with registry }
        match session with
        | none => throws memory (unauthorized sessionExpiredMessage)
        | some session =>
            if ctx.env.databaseAvailable then awaits memory (.meReads caller session)
            else awaits memory (.meReturns caller session)

/-- The rest of `me` after `user.findUnique`: an account that is gone takes its session with it,
and an expired password restricts the session. -/
def meAfterRead (memory : AuthMemory) (input : AuthInput) (caller : MeCaller)
    (session : AuthSession) : Option UserRow → AuthSegment
  | none =>
      -- The account is gone, and its session goes with it.
      throws (memory.deleteSession session.token) (unauthorized sessionExpiredMessage)
  | some user =>
      if passwordExpired user input.dateNow then
        if user.passwordChangeRequired then
          let restrictedSession := { session with passwordChangeRequired := true }
          awaits (memory.setSession input.clock session.token restrictedSession)
            (.meReturns caller restrictedSession)
        -- The lifetime has run out and the row does not say so yet. It is written first.
        else awaits memory (.meMarks caller session user.id)
      else awaits memory (.meReturns caller session)

/-- The rest of `me` after `user.update`: the session is restricted as its row now is. -/
def meAfterMark (memory : AuthMemory) (input : AuthInput) (caller : MeCaller)
    (session : AuthSession) : AuthSegment :=
  let restrictedSession := { session with passwordChangeRequired := true }
  awaits (memory.setSession input.clock session.token restrictedSession)
    (.meReturns caller restrictedSession)

/-- `requireActiveSession` after `me`: a restricted session may only change its password. Otherwise
the row is read a second time. -/
def requireActiveSession (memory : AuthMemory) (session : AuthSession) : AuthSegment :=
  if session.passwordChangeRequired then throws memory (unauthorized passwordChangeMessage)
  -- `me` was awaited, so the row is read a second time.
  else if ctx.env.databaseAvailable then awaits memory (.activeReads session)
  else returns memory session

/-- The rest of `requireActiveSession` after `user.findUnique`, with the same two checks as `me`.
-/
def requireActiveSessionAfterRead (memory : AuthMemory) (input : AuthInput)
    (session : AuthSession) : Option UserRow → AuthSegment
  | none =>
      throws (memory.deleteSession session.token) (unauthorized sessionExpiredMessage)
  | some user =>
      if passwordExpired user input.dateNow then
        if user.passwordChangeRequired then
          throws (memory.setSession input.clock session.token
            { session with passwordChangeRequired := true }) (unauthorized passwordChangeMessage)
        else awaits memory (.activeMarks session user.id)
      else returns memory session

/-- The rest of `requireActiveSession` after `user.update`: the session is restricted, and the
request is refused. -/
def requireActiveSessionAfterMark (memory : AuthMemory) (input : AuthInput)
    (session : AuthSession) : AuthSegment :=
  throws (memory.setSession input.clock session.token
    { session with passwordChangeRequired := true }) (unauthorized passwordChangeMessage)

/-- `refreshSession` after `me`: the row is read again, or without a database the session is the
answer. -/
def refreshSession (memory : AuthMemory) (session : AuthSession) : AuthSegment :=
  if ctx.env.databaseAvailable then awaits memory (.refreshReads session)
  else returns memory session

/-- The rest of `refreshSession` after `user.findUnique`: the session is stored anew from the row,
whether or not it was removed since the read began. -/
def refreshSessionAfterRead (memory : AuthMemory) (input : AuthInput) (session : AuthSession)
    (organization : Option OrganizationRow) : Option UserRow → AuthSegment
  -- An account that is gone by now leaves the session as it was, unlike in `me`.
  | none => returns memory session
  | some user =>
      let refreshed : AuthSession :=
        { token := session.token, user := toUser user,
          organization := toOrganization organization,
          passwordChangeRequired := session.passwordChangeRequired }
      returns (memory.setSession input.clock session.token refreshed) refreshed

/-- `changePassword` after `me`: the input is checked before the row is read. -/
def changePassword (memory : AuthMemory) (session : AuthSession)
    (input : ChangePasswordInput) : AuthSegment :=
  match parseChangePasswordInput ctx input with
  | .error error => throws memory error
  | .ok parsed => awaits memory (.changeReads session parsed)

/-- The end of `changePassword`: every session of the user ends, and a new one starts. -/
def changePasswordAfterWrite (memory : AuthMemory) (input : AuthInput) (updatedUser : UserRow)
    (organization : Option OrganizationRow) : Option AuthSegment :=
  -- The session of the caller is among the revoked ones, so it needs the new one.
  let memory := { memory with registry := (memory.registry.revokeUser updatedUser.id).2 }
  (createSession memory input (toUser updatedUser) (toOrganization organization)).map
    fun (memory, session) => returns memory session

/-- The rest of a method that called `me`. -/
def afterMe (memory : AuthMemory) (caller : MeCaller) (session : AuthSession) : AuthSegment :=
  match caller with
  | .me => returns memory session
  | .requireActiveSession => requireActiveSession ctx memory session
  | .refreshSession => refreshSession ctx memory session
  | .changePassword input => changePassword ctx memory session input

/-- The organization of the demo sign-in, made when the process has loaded. -/
def demoOrganization : Organization where
  id := "org_demo"
  name := "Acme Engineering Hiring"
  createdAt := Js.toISOString ctx.loadedAt

/-- The account of the demo sign-in: an operator in the demo organization, made when the process
has loaded. -/
def demoUser : User where
  id := "user_admin_001"
  email := "admin@acme.test"
  name := "Acme Operator"
  role := .admin
  organizationId := some "org_demo"
  createdAt := Js.toISOString ctx.loadedAt

/-- `login`, up to its first suspension. `tryDatabase` answers `null` without a database and
with the demo sign-in. -/
def login (memory : AuthMemory) (input : AuthInput) (login : LoginInput) :
    Option AuthSegment :=
  match parseLoginInput ctx login with
  | .error error => some (throws memory error)
  | .ok parsed =>
      if ctx.env.databaseAvailable && !ctx.env.demoAuthEnabled then
        some (awaits memory (.loginTransaction parsed 0))
      else if !ctx.env.demoAuthEnabled then
        some (throws memory (.http .serviceUnavailable
          "관리자 DB 인증이 필요합니다. 현재 환경에서는 데모 로그인이 비활성화되어 있습니다."))
      else if parsed.email ≠ "admin@acme.test" ∨ parsed.password ≠ "@A1234567890" then
        some (throws memory (unauthorized invalidCredentialsMessage))
      else
        (createSession memory input (demoUser ctx) (demoOrganization ctx)).map
          fun (memory, session) => returns memory session

/-- The rest of the sign-in after a transaction that committed. -/
def loginAfterCommit (memory : AuthMemory) (input : AuthInput) :
    DatabaseLoginResult → Option AuthSegment
  | .invalidCredentials => some (throws memory (unauthorized invalidCredentialsMessage))
  | .success user organization passwordChangeRequired =>
      (createSession memory input user organization).map fun (memory, session) =>
        -- `createSession` has stored the session without the mark, and it is stored again with
        -- it.
        let resolvedSession := { session with passwordChangeRequired }
        returns (memory.setSession input.secondClock resolvedSession.token resolvedSession)
          resolvedSession

/-- The rest of the sign-in after a transaction that failed: another try after a
serialization failure, otherwise the translation of the error by `tryDatabase`. -/
def loginAfterFailure (memory : AuthMemory) (login : LoginInput) (retry : Nat)
    (error : ServiceException) : AuthSegment :=
  if error = .prisma .serializationFailure ∧ retry < 2 then
    awaits memory (.loginTransaction login (retry + 1))
  else
    match error with
    -- `tryDatabase` passes its rejections on. Any other exception becomes one text, also that of
    -- a refused derivation.
    | .http .unauthorized message => throws memory (unauthorized message)
    | _ => throws memory (.http .serviceUnavailable "Auth database operation failed.")

/-- `register`, up to its first suspension: it needs a database and an accepted input. -/
def register (memory : AuthMemory) (input : RegisterInput) : AuthSegment :=
  if ctx.env.databaseAvailable then
    match parseRegisterInput ctx input with
    | .error error => throws memory error
    | .ok parsed => awaits memory (.registerReads parsed)
  else
    throws memory (.http .serviceUnavailable "계정을 생성하려면 데이터베이스 연결이 필요합니다.")

/-- The `catch` of `register`: a taken address is a conflict, and every unknown failure one text.
-/
def registerAfterFailure (memory : AuthMemory) : ServiceException → AuthSegment
  | .http .conflict message => throws memory (.http .conflict message)
  | .http .serviceUnavailable message => throws memory (.http .serviceUnavailable message)
  -- Another registration has taken the address since the read.
  | .prisma .uniqueConstraint => throws memory (.http .conflict emailTakenMessage)
  | _ => throws memory (.http .serviceUnavailable
      "계정 저장소에 연결할 수 없습니다. 잠시 후 다시 시도해주세요.")

/-- `register` after `user.findUnique`. The identifier of the new user is drawn before the
password is hashed. -/
def registerAfterRead (memory : AuthMemory) (input : AuthInput) (parsed : RegisterInput) :
    Option UserRow → Option AuthSegment
  | some _ => some (throws memory (.http .conflict emailTakenMessage))
  | none =>
      (memory.randomUUID input).map fun memory =>
        awaits memory (.registerHashes parsed
          ("user_" ++ String.ofList (input.uuid.toList.take 12)))

/-- `register` after `user.create`: the new account gets its first session. -/
def registerAfterCreate (memory : AuthMemory) (input : AuthInput) (user : UserRow) :
    Option AuthSegment :=
  (createSession memory input (toUser user) unaffiliatedOrganization).map
    fun (memory, session) => returns memory session

/-! ### The program -/

/-- The first segment of each call. A timeout fires only while it is armed. -/
def authStart (call : AuthCall) (input : AuthInput) (memory : AuthMemory) :
    Option AuthSegment :=
  match call with
  | .login credentials => login ctx memory input credentials
  | .register data => some (register ctx memory data)
  | .me token => some (me ctx memory input .me token)
  | .requireActiveSession token => some (me ctx memory input .requireActiveSession token)
  | .refreshSession token => some (me ctx memory input .refreshSession token)
  | .changePassword token data => some (me ctx memory input (.changePassword data) token)
  | .logout token =>
      match token with
      | some token =>
          if token = "" then some (memory, .finished (.ok none))
          else some (memory.deleteSession token, .finished (.ok none))
      | none => some (memory, .finished (.ok none))
  | .revokeUserSessions userId =>
      some ({ memory with registry := (memory.registry.revokeUser userId).2 },
        .finished (.ok none))
  | .fire timer =>
      if timer ∈ memory.registry.timers then
        some ({ memory with registry := memory.registry.fire sessionOptions input.clock timer },
          .finished (.ok none))
      else none
  | .otherStatement write => some (awaits memory (.otherStatement write))

/-- A statement that fails, or the reply of one that does not. -/
def settle {α : Type} (db : Database) (failed : ServiceException → AuthReady)
    (reply : α → Database × AuthReady) : Except ServiceException α → Database × AuthReady
  | .error error => (db, failed error)
  | .ok value => reply value

/-- The awaited operation, when it does not fail from outside. -/
def authStatement (pc : AuthWaiting) (input : AuthInput) (db : Database) :
    Database × AuthReady :=
  match pc with
  | .loginTransaction login retry =>
      settle db (.loginFailed login retry) (fun r => (r.1, .loginCommitted r.2))
        (loginTransaction ctx input login db)
  | .registerReads data => (db, .registerRead data (db.findUserByEmail data.email))
  | .registerHashes data userId =>
      settle db .registerFailed (fun hash => (db, .registerHashed data userId hash))
        (createPasswordHash ctx.hashing input.createBusy input.salt data.password)
  | .registerCreates data userId passwordHash =>
      settle db .registerFailed (fun r => (r.1, .registerCreated r.2))
        (db.createUser
          { id := userId, email := data.email, passwordHash, name := data.name,
            role := .candidate, passwordChangedAt := some input.dateNow,
            createdAt := input.dateNow })
  | .meReads caller session => (db, .meRead caller session (db.findUser session.user.id))
  | .meMarks caller session userId =>
      settle db .failed (fun r => (r.1, .meMarked caller session))
        (db.updateUser userId (fun u => { u with passwordChangeRequired := true })
          fun _ => rfl)
  | .meReturns caller session => (db, .meReturned caller session)
  | .activeReads session => (db, .activeRead session (db.findUser session.user.id))
  | .activeMarks session userId =>
      settle db .failed (fun r => (r.1, .activeMarked session))
        (db.updateUser userId (fun u => { u with passwordChangeRequired := true })
          fun _ => rfl)
  | .refreshReads session =>
      let user := db.findUser session.user.id
      (db, .refreshRead session user (user.bind db.organizationOf))
  | .changeReads session data =>
      let user := db.findUser session.user.id
      (db, .changeRead data user (user.bind db.organizationOf))
  | .changeCompares data user organization =>
      settle db .failed (fun matched => (db, .changeCompared data user organization matched))
        (passwordMatches ctx.hashing input.verifyBusy data.currentPassword user.passwordHash)
  | .changeHashes data user organization =>
      settle db .failed (fun hash => (db, .changeHashed user hash organization))
        (createPasswordHash ctx.hashing input.createBusy input.salt data.newPassword)
  | .changeWrites userId passwordHash passwordChangedAt organization =>
      settle db .failed (fun r => (r.1, .changeWritten r.2 organization))
        (db.updateUser userId
          (fun u => { u with
            passwordHash, failedLoginAttempts := 0, lockedUntil := none,
            passwordChangedAt := some passwordChangedAt, passwordChangeRequired := false })
          fun _ => rfl)
  | .otherStatement write => (write db, .otherDone)

/-- The reply of an operation that fails from outside. -/
def authFault (pc : AuthWaiting) (error : PrismaError) : AuthReady :=
  match pc with
  | .loginTransaction login retry => .loginFailed login retry (.prisma error)
  | .registerReads _ | .registerHashes .. | .registerCreates .. =>
      .registerFailed (.prisma error)
  | _ => .failed (.prisma error)

/-- The effect of an awaited operation, or a fault of the database instead of it. -/
def authExecute (pc : AuthWaiting) (input : AuthInput) (db : Database) :
    Option (Database × AuthReady) :=
  match input.fault with
  | some error => some (db, authFault pc error)
  | none => some (authStatement ctx pc input db)

/-- The next segment of each call, by the answer that it waited for. -/
def authResume (reply : AuthReady) (input : AuthInput) (memory : AuthMemory) :
    Option AuthSegment :=
  match reply with
  | .loginFailed login retry error => some (loginAfterFailure memory login retry error)
  | .loginCommitted result => loginAfterCommit memory input result
  | .registerFailed error => some (registerAfterFailure memory error)
  | .registerRead data existingEmail => registerAfterRead memory input data existingEmail
  | .registerHashed data userId hash =>
      some (awaits memory (.registerCreates data userId hash))
  | .registerCreated user => registerAfterCreate memory input user
  | .meRead caller session user => some (meAfterRead memory input caller session user)
  | .meMarked caller session => some (meAfterMark memory input caller session)
  | .meReturned caller session => some (afterMe ctx memory caller session)
  | .activeRead session user =>
      some (requireActiveSessionAfterRead memory input session user)
  | .activeMarked session => some (requireActiveSessionAfterMark memory input session)
  | .refreshRead session user organization =>
      some (refreshSessionAfterRead memory input session organization user)
  | .changeRead data user organization =>
      match user with
      | none => some (throws memory (unauthorized invalidCredentialsMessage))
      | some user => some (awaits memory (.changeCompares data user organization))
  | .changeCompared data user organization matched =>
      if matched then some (awaits memory (.changeHashes data user organization))
      else some (throws memory (unauthorized invalidCredentialsMessage))
  | .changeHashed user hash organization =>
      some (awaits memory (.changeWrites user.id hash input.dateNow organization))
  | .changeWritten updatedUser organization =>
      changePasswordAfterWrite memory input updatedUser organization
  | .failed error => some (throws memory error)
  | .otherDone => some (memory, .finished (.ok none))

/-- The service as a program of asynchronous calls. -/
def authProgram :
    AsyncProgram AuthMemory Database AuthCall AuthWaiting AuthReady AuthResult AuthInput where
  start := authStart ctx
  execute := authExecute ctx
  resume := authResume ctx

end

/-- A production service with a database. The password functions answer as the real ones do
for a registration, up to the bytes of the derived key, which nothing here reads. -/
def productionContext : AuthContext where
  env := { nodeEnv := some "production", databaseUrl := some "postgresql://db/dcvp" }
  text := { toLowerCase := id, toUpperCase := id }
  hashing :=
    { isStrongPassword := fun _ => true
      createPasswordHash := fun salt _ => "pbkdf2-sha256$310000$" ++ salt ++ "$"
      verifyPassword := fun _ _ => false
      needsDerivation := fun _ => true
      passwordHashNeedsUpgrade := fun _ => false
      hashPassword := fun _ => "" }
  loadedAt := 0

end Dcvp.Services
