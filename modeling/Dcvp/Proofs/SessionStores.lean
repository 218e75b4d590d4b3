import Dcvp.Proofs.SessionRevocation

/-!
# `Dcvp.Proofs.SessionStores`: which user a segment puts into the registry

`SessionRevocation` looks at the tokens that a segment of `AuthService` writes. Here the users
count. `newSession` names the token and the user of the session that a resumed call stores, and
`demoSession` those of a demo sign-in. `StoresOnly` says that every other session of the
registry was there before. `start_stores` and `resume_stores` prove it of every segment.

`revokeUser` leaves no session of its user (`revokeUser_none`), and so `changePassword` leaves
only the session that it has just made (`changePassword_only`). A `refreshSession` that goes on
keeps its token: `me_refresh` and `refresh_cases`.
-/

set_option autoImplicit false

namespace Dcvp.Proofs

open Dcvp.Lib
open Dcvp.Services
open Dcvp.Shared (AuthSession Organization User)

/-! ### Stored sessions -/

/-- The session that is stored for the token. -/
def storedSession (m : AuthMemory) (token : String) : Option AuthSession :=
  (m.registry.sessions.get? token).map StoredSession.session

/-- The stored session, in the words of the lifeline of its token. -/
theorem storedSession_eq_view (m : AuthMemory) (token : String) :
    storedSession m token = (view m.registry token).current.map Presence.session := by
  simp [storedSession, view, Function.comp_def]

/-- A session is stored exactly when its entry is in the list of the registry. -/
theorem storedSession_eq_some_iff (m : AuthMemory) (token : String) (session : AuthSession) :
    storedSession m token = some session ↔
      ∃ e ∈ m.registry.sessions.entries, e.1 = token ∧ e.2.session = session := by
  unfold storedSession
  rw [Option.map_eq_some_iff]
  constructor
  · rintro ⟨stored, hget, rfl⟩
    exact ⟨(token, stored), (m.registry.sessions.get?_eq_some_iff token stored).mp hget, rfl, rfl⟩
  · rintro ⟨⟨token', stored⟩, hmem, rfl, rfl⟩
    exact ⟨stored, (m.registry.sessions.get?_eq_some_iff token' stored).mpr hmem, rfl⟩

/-- Every session that is stored afterwards was stored before, or is the new one. -/
def StoresOnly (new : Option (String × User)) (m m' : AuthMemory) : Prop :=
  ∀ token session, storedSession m' token = some session →
    storedSession m token = some session ∨ new = some (token, session.user)

section
variable {m m' : AuthMemory} {new : Option (String × User)}

/-- Nothing is stored. -/
theorem StoresOnly.refl (m : AuthMemory) : StoresOnly new m m := fun _ _ h => Or.inl h

/-- Two changes, each of which stores only the new session. -/
theorem StoresOnly.trans {m'' : AuthMemory} (h : StoresOnly new m m')
    (h' : StoresOnly new m' m'') : StoresOnly new m m'' := by
  intro token session hstored
  rcases h' token session hstored with hold | hnew
  · exact h token session hold
  · exact Or.inr hnew

/-- What ends or touches periods stores nothing. -/
theorem Quiet.storesOnly (h : Quiet m.registry m'.registry) : StoresOnly new m m' := by
  intro token session hstored
  rw [storedSession_eq_view, Option.map_eq_some_iff] at hstored
  obtain ⟨p', hp', rfl⟩ := hstored
  obtain ⟨⟨p, hp, hsame⟩, -⟩ := h.current hp'
  refine Or.inl ?_
  rw [storedSession_eq_view, hp, Option.map_some, hsame]

/-- To store a session gives its own token this session, and leaves what is stored under the other
tokens. -/
theorem storedSession_setSession (clock : Clock) (token token' : String) (session : AuthSession) :
    storedSession (m.setSession clock token session) token'
      = if token = token' then some session else storedSession m token' := by
  rw [storedSession_eq_view, storedSession_eq_view]
  unfold AuthMemory.setSession
  rw [view_set]
  by_cases h : token = token'
  · simp [h, Lifeline.write]
  · simp [h]

/-- `sessions.set` stores no session but the one that it is given. -/
theorem storesOnly_setSession (clock : Clock) (token : String) (session : AuthSession) :
    StoresOnly (some (token, session.user)) m (m.setSession clock token session) := by
  intro token' session' hstored
  rw [storedSession_setSession] at hstored
  split at hstored
  · rename_i heq
    cases hstored
    exact Or.inr (by rw [heq])
  · exact Or.inl hstored

/-- `revokeUser` leaves no session of the user: each one that is still stored belongs to another
user. -/
theorem revokeUser_none (userId : String) {token : String} {session : AuthSession}
    (h : storedSession { m with registry := (m.registry.revokeUser userId).2 } token
      = some session) : session.user.id ≠ userId := by
  intro hid
  rw [storedSession_eq_view, Option.map_eq_some_iff] at h
  obtain ⟨p, hp, rfl⟩ := h
  replace hp : (view (m.registry.revokeUser userId).2 token).current = some p := hp
  rw [view_revokeUser] at hp
  split at hp
  · rw [Lifeline.close_current] at hp
    cases hp
  · rename_i hother
    exact hother (by simp [Lifeline.BelongsTo, hp, hid])

end

/-! ### The segments -/

/-- The token and the user of the session that a resumed call stores. -/
def newSession (reply : AuthReady) (input : AuthInput) : Option (String × User) :=
  match reply with
  | .loginCommitted (.success user _ _) => some (sessionToken input.uuid, user)
  | .registerCreated user | .changeWritten user _ => some (sessionToken input.uuid, toUser user)
  | .meRead _ session (some user) | .activeRead session (some user) =>
      if passwordExpired user input.dateNow && user.passwordChangeRequired then
        some (session.token, session.user)
      else none
  | .meMarked _ session | .activeMarked session => some (session.token, session.user)
  | .refreshRead session (some user) _ => some (session.token, toUser user)
  | _ => none

section
variable (ctx : AuthContext) (input : AuthInput) (m : AuthMemory)

/-- The token and the user of the session that a demo sign-in stores. -/
def demoSession : AuthCall → Option (String × User)
  | .login credentials =>
      match parseLoginInput ctx credentials with
      | .error _ => none
      | .ok parsed =>
          if ctx.env.demoAuthEnabled ∧ parsed.email = "admin@acme.test" ∧
              parsed.password = "@A1234567890" then
            some (sessionToken input.uuid, demoUser ctx)
          else none
  | _ => none

variable {ctx input m}

/-- `createSession` stores one session of the given user, under a token that it has just drawn. -/
theorem createSession_stores {m' : AuthMemory} {user : User} {organization : Organization}
    {session : AuthSession} (h : createSession m input user organization = some (m', session)) :
    StoresOnly (some (sessionToken input.uuid, user)) m m' ∧
      session.token = sessionToken input.uuid ∧ session.user = user := by
  unfold createSession AuthMemory.randomUUID at h
  split at h
  · cases h
  · cases h
    have hdrawn : StoresOnly (some (sessionToken input.uuid, user)) m
        { m with uuids := m.uuids ++ [input.uuid] } := Quiet.storesOnly (Quiet.refl _)
    exact ⟨hdrawn.trans (storesOnly_setSession _ _ _), rfl, rfl⟩

/-- The first segment of `me` only ends or touches periods. -/
theorem me_stores (caller : MeCaller) (token : Option String) (new : Option (String × User)) :
    StoresOnly new m (me ctx m input caller token).1 := by
  cases token with
  | none => exact .refl m
  | some token =>
      simp only [me]
      split
      · exact .refl m
      · have hquiet : StoresOnly new m
            { m with registry := (m.registry.get sessionOptions input.clock token).2 } :=
          Quiet.storesOnly (quiet_get sessionOptions m.registry input.clock token)
        split
        · exact hquiet
        · split <;> exact hquiet

/-- A sign-in stores a session in its first segment only without a database. -/
theorem login_stores {credentials : LoginInput} {seg : AuthSegment}
    (h : authStart ctx (.login credentials) input m = some seg) :
    StoresOnly (demoSession ctx input (.login credentials)) m seg.1 := by
  simp only [authStart, login] at h
  split at h
  · cases h
    exact .refl m
  · rename_i parsed hparsed
    split at h
    · cases h
      exact .refl m
    · rename_i hdatabase
      split at h
      · cases h
        exact .refl m
      · rename_i hdemo
        split at h
        · cases h
          exact .refl m
        -- Without a database and with demo accounts, the right credentials open the demo session.
        · rename_i hcredentials
          obtain ⟨⟨m', session⟩, hc, rfl⟩ := Option.map_eq_some_iff.mp h
          push Not at hcredentials
          have hsession : demoSession ctx input (.login credentials) =
              some (sessionToken input.uuid, demoUser ctx) := by
            simp only [demoSession, hparsed]
            rw [if_pos ⟨by simpa using hdemo, hcredentials.1, hcredentials.2⟩]
          rw [hsession]
          exact (createSession_stores hc).1

/-- What the first segment of a call stores: the session of a demo sign-in, and otherwise nothing
new. -/
theorem start_stores {call : AuthCall} {seg : AuthSegment}
    (h : authStart ctx call input m = some seg) :
    StoresOnly (demoSession ctx input call) m seg.1 := by
  -- All other first segments store nothing: they look up, wait, or take sessions away.
  cases call with
  | login credentials =>
      exact login_stores h
  | register data =>
      cases h
      show StoresOnly _ m (register ctx m data).1
      unfold register
      split
      · split <;> exact .refl m
      · exact .refl m
  | me token => cases h; exact me_stores _ token _
  | requireActiveSession token => cases h; exact me_stores _ token _
  | refreshSession token => cases h; exact me_stores _ token _
  | changePassword token data => cases h; exact me_stores _ token _
  | logout token =>
      simp only [authStart] at h
      split at h
      · split at h
        · cases h
          exact .refl m
        · cases h
          exact Quiet.storesOnly (quiet_delete m.registry _)
      · cases h
        exact .refl m
  | revokeUserSessions userId =>
      cases h
      exact Quiet.storesOnly (quiet_revokeUser m.registry userId)
  | fire timer =>
      simp only [authStart] at h
      split at h
      · cases h
        exact Quiet.storesOnly (quiet_fire sessionOptions m.registry input.clock timer)
      · cases h
  | otherStatement write => cases h; exact .refl m

/-- A failed sign-in leaves the memory as it is. -/
theorem loginAfterFailure_fst (credentials : LoginInput) (retry : Nat) (error : ServiceException) :
    (loginAfterFailure m credentials retry error).1 = m := by
  unfold loginAfterFailure
  split
  · rfl
  · split <;> rfl

/-- What the callers of `me` do with its answer leaves the memory as it is. -/
theorem afterMe_fst (caller : MeCaller) (session : AuthSession) :
    (afterMe ctx m caller session).1 = m := by
  cases caller with
  | me => rfl
  | requireActiveSession =>
      simp only [afterMe, requireActiveSession]
      split
      · rfl
      · split <;> rfl
  | refreshSession =>
      simp only [afterMe, refreshSession]
      split <;> rfl
  | changePassword data =>
      simp only [afterMe, changePassword]
      split <;> rfl

/-- A registration stores nothing before the user is created. -/
theorem registerAfterRead_stores {data : RegisterInput} {existingEmail : Option UserRow}
    {seg : AuthSegment} {new : Option (String × User)}
    (h : authResume ctx (.registerRead data existingEmail) input m = some seg) :
    StoresOnly new m seg.1 := by
  simp only [authResume, registerAfterRead] at h
  split at h
  · cases h
    exact .refl m
  · obtain ⟨m', hm', rfl⟩ := Option.map_eq_some_iff.mp h
    unfold AuthMemory.randomUUID at hm'
    split at hm'
    · cases hm'
    · cases hm'
      exact Quiet.storesOnly (Quiet.refl _)

/-- `me` stores the session again when the row asks for a new password already. -/
theorem meAfterRead_stores (caller : MeCaller) (session : AuthSession) (user : Option UserRow) :
    StoresOnly (newSession (.meRead caller session user) input) m
      (meAfterRead m input caller session user).1 := by
  cases user with
  | none => exact Quiet.storesOnly (quiet_delete m.registry _)
  | some user =>
      simp only [meAfterRead, newSession]
      by_cases hexp : passwordExpired user input.dateNow
      · by_cases hreq : user.passwordChangeRequired
        · simp only [hexp, hreq, Bool.and_self, if_true]
          exact storesOnly_setSession _ _ { session with passwordChangeRequired := true }
        · simp only [hexp, hreq, if_true]
          exact .refl m
      · simp only [hexp]
        exact .refl m

/-- The second check of `requireActiveSession` does the same: it stores the session as a restricted
one, takes it away, or leaves the registry. -/
theorem requireActiveSessionAfterRead_stores (session : AuthSession) (user : Option UserRow) :
    StoresOnly (newSession (.activeRead session user) input) m
      (requireActiveSessionAfterRead m input session user).1 := by
  cases user with
  | none => exact Quiet.storesOnly (quiet_delete m.registry _)
  | some user =>
      simp only [requireActiveSessionAfterRead, newSession]
      by_cases hexp : passwordExpired user input.dateNow
      · by_cases hreq : user.passwordChangeRequired
        · simp only [hexp, hreq, Bool.and_self, if_true]
          exact storesOnly_setSession _ _ { session with passwordChangeRequired := true }
        · simp only [hexp, hreq, if_true]
          exact .refl m
      · simp only [hexp]
        exact .refl m

/-- What a later segment of a call stores: the session that its reply brings, and otherwise nothing
new. One case for each await. -/
theorem resume_stores {reply : AuthReady} {seg : AuthSegment}
    (h : authResume ctx reply input m = some seg) :
    StoresOnly (newSession reply input) m seg.1 := by
  cases reply with
  | loginFailed credentials retry error =>
      cases h
      show StoresOnly _ m (loginAfterFailure m credentials retry error).1
      rw [loginAfterFailure_fst]
      exact .refl m
  | loginCommitted result =>
      cases result with
      | invalidCredentials => cases h; exact .refl m
      | success user organization required =>
          obtain ⟨⟨m', session⟩, hc, rfl⟩ := Option.map_eq_some_iff.mp h
          obtain ⟨hstores, htoken, huser⟩ := createSession_stores hc
          -- The session is stored a second time, with whether the password has to be changed.
          refine hstores.trans ?_
          rw [← htoken, ← huser]
          exact storesOnly_setSession input.secondClock session.token
            { session with passwordChangeRequired := required }
  | registerFailed error =>
      cases h
      show StoresOnly _ m (registerAfterFailure m error).1
      unfold registerAfterFailure
      split <;> exact .refl m
  | registerRead data existingEmail =>
      exact registerAfterRead_stores h
  | registerHashed data userId hash => cases h; exact .refl m
  | registerCreated user =>
      obtain ⟨⟨m', session⟩, hc, rfl⟩ := Option.map_eq_some_iff.mp h
      exact (createSession_stores hc).1
  | meRead caller session user =>
      cases h
      exact meAfterRead_stores caller session user
  | meMarked caller session =>
      cases h
      exact storesOnly_setSession _ _ { session with passwordChangeRequired := true }
  | meReturned caller session =>
      cases h
      show StoresOnly _ m (afterMe ctx m caller session).1
      rw [afterMe_fst]
      exact .refl m
  | activeRead session user =>
      cases h
      exact requireActiveSessionAfterRead_stores session user
  | activeMarked session =>
      cases h
      exact storesOnly_setSession _ _ { session with passwordChangeRequired := true }
  | refreshRead session user organization =>
      cases h
      cases user with
      | none => exact .refl m
      | some user => exact storesOnly_setSession _ _ _
  | changeRead data user organization =>
      cases user with
      | none => cases h; exact .refl m
      | some user => cases h; exact .refl m
  | changeCompared data user organization matched =>
      simp only [authResume] at h
      split at h
      · cases h
        exact .refl m
      · cases h
        exact .refl m
  | changeHashed user hash organization => cases h; exact .refl m
  | changeWritten updatedUser organization =>
      obtain ⟨⟨m', session⟩, hc, rfl⟩ := Option.map_eq_some_iff.mp h
      -- The old sessions are ended before the new one is made.
      have hended : StoresOnly (newSession (.changeWritten updatedUser organization) input) m
          { m with registry := (m.registry.revokeUser updatedUser.id).2 } :=
        Quiet.storesOnly (quiet_revokeUser m.registry updatedUser.id)
      exact hended.trans (createSession_stores hc).1
  | failed error => cases h; exact .refl m
  | otherDone => cases h; exact .refl m

/-- After a change of the password the user has the new session only. -/
theorem changePassword_only {updatedUser : UserRow} {organization : Option OrganizationRow}
    {seg : AuthSegment}
    (h : authResume ctx (.changeWritten updatedUser organization) input m = some seg)
    {token : String} {session : AuthSession} (hstored : storedSession seg.1 token = some session)
    (hid : session.user.id = updatedUser.id) :
    newSession (.changeWritten updatedUser organization) input = some (token, session.user) := by
  obtain ⟨⟨m', made⟩, hc, rfl⟩ := Option.map_eq_some_iff.mp h
  rcases (createSession_stores hc).1 token session hstored with hold | hnew
  · exact absurd hid (revokeUser_none updatedUser.id hold)
  · exact hnew

end

/-! ### The course of a refresh -/

/-- The operations that `refreshSession` awaits. -/
def Refreshing : AuthWaiting → Prop
  | .meReads .refreshSession _ | .meMarks .refreshSession _ _ | .meReturns .refreshSession _
  | .refreshReads _ => True
  | _ => False

/-- The replies that `refreshSession` gets. -/
def Refreshed : AuthReady → Prop
  | .meRead .refreshSession _ _ | .meMarked .refreshSession _ | .meReturned .refreshSession _
  | .refreshRead .. | .failed _ => True
  | _ => False

/-- The row of the user is gone, or there is no database: `refreshSession` returns the old
session. -/
def ReturnsUnchanged (ctx : AuthContext) : AuthReady → Prop
  | .refreshRead _ user _ => user = none
  | .meReturned .. => ctx.env.databaseAvailable = false
  | _ => False

instance (ctx : AuthContext) : DecidablePred (ReturnsUnchanged ctx)
  | .refreshRead _ user _ => inferInstanceAs (Decidable (user = none))
  | .meReturned .. => inferInstanceAs (Decidable (_ = false))
  | .loginFailed .. | .loginCommitted _ | .registerFailed _ | .registerRead ..
  | .registerHashed .. | .registerCreated _ | .meRead .. | .meMarked .. | .activeRead ..
  | .activeMarked _ | .changeRead .. | .changeCompared .. | .changeHashed .. | .changeWritten ..
  | .failed _ | .otherDone => isFalse id

section
variable {ctx : AuthContext} {input : AuthInput} {m : AuthMemory}

/-- A session that was deleted is stored no more. -/
theorem storedSession_deleteSession (token : String) :
    storedSession (m.deleteSession token) token = none := by
  rw [storedSession_eq_view]
  unfold AuthMemory.deleteSession
  rw [view_delete, if_pos rfl, Lifeline.close_current, Option.map_none]

/-- The empty text is no token: every stored one begins with `session_`. -/
theorem storedSession_empty (hm : SessionsOwned m) : storedSession m "" = none := by
  by_contra h
  have hpresent : Present m.registry "" := by
    intro hcurrent
    rw [storedSession_eq_view, hcurrent] at h
    exact h rfl
  obtain ⟨uuid, -, huuid⟩ := hm.drawn "" (Or.inl hpresent)
  have hprefix : "session_".length = 8 := by decide
  have hlength : "".length = (sessionToken uuid).length := congrArg String.length huuid
  rw [sessionToken, String.length_append, hprefix, String.length_empty] at hlength
  omega

/-- A refresh waits with its token after its first segment, or nothing is stored for the token. -/
theorem me_refresh (hm : SessionsOwned m) {token : String} {m' : AuthMemory}
    {o : Outcome AuthWaiting AuthResult}
    (h : me ctx m input .refreshSession (some token) = (m', o)) :
    (∃ pc, o = .suspended pc ∧ Refreshing pc ∧ waitingToken pc = some token) ∨
      storedSession m' token = none := by
  simp only [me] at h
  split at h
  · rename_i hempty
    cases h
    rw [hempty]
    exact Or.inr (storedSession_empty hm)
  · cases hget : m.registry.get sessionOptions input.clock token with
    | mk session r =>
        rw [hget] at h
        cases session with
        | none =>
            cases h
            refine Or.inr ?_
            -- What `get` does not find, it has removed or was never there.
            unfold AuthSessionRegistry.get at hget
            cases hentry : m.registry.sessions.get? token with
            | none =>
                rw [hentry] at hget
                cases hget
                simp [storedSession, hentry]
            | some stored =>
                rw [hentry] at hget
                simp only at hget
                split at hget
                · cases hget
                  exact storedSession_deleteSession token
                · cases hget
        | some session =>
            obtain ⟨htoken, -⟩ := get_owned m hm input.clock token hget
            refine Or.inl ?_
            simp only at h
            split at h
            · cases h
              exact ⟨_, rfl, trivial, congrArg some htoken⟩
            · cases h
              exact ⟨_, rfl, trivial, congrArg some htoken⟩

/-- `me` for a refresh goes on with its token when it has found the row. -/
theorem meAfterRead_refreshing (m : AuthMemory) (input : AuthInput) (session : AuthSession)
    (user : UserRow) :
    ∃ pc, (meAfterRead m input .refreshSession session (some user)).2 = .suspended pc ∧
      Refreshing pc ∧ waitingToken pc = some session.token := by
  simp only [meAfterRead]
  split
  · split
    · exact ⟨_, rfl, trivial, rfl⟩
    · exact ⟨_, rfl, trivial, rfl⟩
  · exact ⟨_, rfl, trivial, rfl⟩

/-- A refresh that goes on waits for the next operation of `refreshSession`. -/
theorem refreshing_of_resume {reply : AuthReady} {seg : AuthSegment} (hreply : Refreshed reply)
    (h : authResume ctx reply input m = some seg) {pc : AuthWaiting} (hpc : seg.2 = .suspended pc) :
    Refreshing pc := by
  cases reply with
  | meRead caller session user =>
      cases caller with
      | refreshSession =>
          cases h
          replace hpc : (meAfterRead m input .refreshSession session user).2 = .suspended pc := hpc
          cases user with
          | none => cases hpc
          | some user =>
              -- `me` waits once more, and then `refreshSession` reads the row.
              obtain ⟨pc', hpc', hrefreshing, -⟩ := meAfterRead_refreshing m input session user
              rw [hpc] at hpc'
              cases hpc'
              exact hrefreshing
      | _ => exact hreply.elim
  | meMarked caller session =>
      cases caller with
      | refreshSession =>
          cases h
          cases hpc
          trivial
      | _ => exact hreply.elim
  | meReturned caller session =>
      cases caller with
      | refreshSession =>
          cases h
          replace hpc : (refreshSession ctx m session).2 = .suspended pc := hpc
          unfold refreshSession at hpc
          split at hpc
          · cases hpc
            trivial
          · cases hpc
      | _ => exact hreply.elim
  | refreshRead session user organization =>
      cases h
      cases user <;> cases hpc
  | failed error => cases h; cases hpc
  | _ => exact hreply.elim

/-- What becomes of the token of a refresh: it goes on waiting, nothing is stored for it any
more, it holds the new session, or the refresh ends without a write. -/
theorem refresh_cases {reply : AuthReady} {m' : AuthMemory} {o : Outcome AuthWaiting AuthResult}
    {token : String} (hreply : Refreshed reply) (htoken : readyToken reply = some token)
    (h : authResume ctx reply input m = some (m', o)) :
    (∃ pc, o = .suspended pc ∧ waitingToken pc = some token) ∨ storedSession m' token = none ∨
      (∀ session, storedSession m' token = some session →
        newSession reply input = some (token, session.user)) ∨
      ReturnsUnchanged ctx reply := by
  cases reply with
  | meRead caller session user =>
      cases htoken
      cases caller with
      | refreshSession =>
          replace h : meAfterRead m input .refreshSession session user = (m', o) :=
            Option.some.inj h
          cases user with
          | none =>
              cases h
              -- The user is gone, and `me` deletes the session.
              exact Or.inr (Or.inl (storedSession_deleteSession session.token))
          | some user =>
              obtain ⟨pc, hpc, -, hwaits⟩ := meAfterRead_refreshing m input session user
              rw [h] at hpc
              exact Or.inl ⟨pc, hpc, hwaits⟩
      | _ => exact hreply.elim
  | meMarked caller session =>
      cases htoken
      cases h
      exact Or.inl ⟨_, rfl, rfl⟩
  | meReturned caller session =>
      cases htoken
      cases caller with
      | refreshSession =>
          replace h : refreshSession ctx m session = (m', o) := Option.some.inj h
          unfold refreshSession at h
          split at h
          · cases h
            exact Or.inl ⟨_, rfl, rfl⟩
          · -- Without a database the old session is returned.
            rename_i hdatabase
            exact Or.inr (Or.inr (Or.inr (Bool.eq_false_iff.mpr hdatabase)))
      | _ => exact hreply.elim
  | refreshRead session user organization =>
      cases user with
      -- The row was deleted after `me` had read it.
      | none => exact Or.inr (Or.inr (Or.inr rfl))
      | some row =>
          cases htoken
          cases h
          refine Or.inr (Or.inr (Or.inl fun stored hstored => ?_))
          rw [storedSession_setSession, if_pos rfl] at hstored
          cases hstored
          rfl
  | failed error => cases htoken
  | _ => exact hreply.elim

end

end Dcvp.Proofs
