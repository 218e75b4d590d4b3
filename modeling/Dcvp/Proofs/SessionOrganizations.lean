import Dcvp.Proofs.StaleSessions

/-!
# `Dcvp.Proofs.SessionOrganizations`: the two organizations of a session

A session names an organization twice: in its user, and as the organization of its own. The
account services and the exam store read sometimes the one and sometimes the other.

Most sessions take both from one row. `changePassword` does not: it reads the row with its
organization, compares the password, and takes the user from the row that its update answers.
Between the two statements the user can be moved to another organization.

`RowsRead` says of the other replies that they come from one row, and `rowsOutline` carries it.
A segment then keeps `NamesOne` of every session that is stored, carried or answered
(`start_names`, `resume_names`), apart from the last one of `changePassword`. The result is
`sessions_name_one_iff`: the sessions of a run name one organization exactly when no
`changePassword` opens a session for a user who was moved meanwhile.
-/

set_option autoImplicit false

namespace Dcvp.Proofs

open Dcvp.Lib
open Dcvp.Services
open Dcvp.Shared (AuthSession Organization User)

/-! ### The property -/

/-- The organization is that of the user, or the one without a name for a user who has none. -/
def Belongs (user : User) (organization : Organization) : Prop :=
  organization.id = user.organizationId.getD ""

instance (user : User) (organization : Organization) : Decidable (Belongs user organization) :=
  inferInstanceAs (Decidable (_ = _))

/-- Both organizations of the session are one. -/
def NamesOne (session : AuthSession) : Prop := Belongs session.user session.organization

instance (session : AuthSession) : Decidable (NamesOne session) :=
  inferInstanceAs (Decidable (_ = _))

/-- The session with which a suspended call goes on. -/
def carriedSession : AuthWaiting → Option AuthSession
  | .meReads _ session | .meMarks _ session _ | .meReturns _ session | .activeReads session
  | .activeMarks session _ | .refreshReads session | .changeReads session _ => some session
  | _ => none

@[inherit_doc carriedSession]
def repliedSession : AuthReady → Option AuthSession
  | .meRead _ session _ | .meMarked _ session | .meReturned _ session | .activeRead session _
  | .activeMarked session | .refreshRead session _ _ => some session
  | _ => none

@[inherit_doc carriedSession]
def heldSession : Flight AuthWaiting AuthReady → Option AuthSession
  | .waiting pc => carriedSession pc
  | .ready reply => repliedSession reply

/-- Every session names one organization: those that are stored, those of the calls in flight,
and those that were answered. -/
structure SessionsNameOne (w : AuthWorld) : Prop where
  stored : ∀ token session, storedSession w.memory token = some session → NamesOne session
  carried : ∀ id f, w.flights.get? id = some f → ∀ session ∈ heldSession f, NamesOne session
  answered : ∀ r ∈ w.results, ∀ session, r.2 = .ok (some session) → NamesOne session

/-- A `changePassword` that opens its session has written the row of a user who still has the
organization that was read before. -/
def OrganizationKept (w : AuthWorld) : AsyncEvent AuthCall AuthInput → Prop
  | .resume id _ => ∀ updatedUser organization,
      w.flights.get? id = some (.ready (.changeWritten updatedUser organization)) →
      Belongs (toUser updatedUser) (toOrganization organization)
  | _ => True

/-! ### Rows and their organizations -/

/-- The relation of a row leads to its organization. -/
theorem belongs_of_related {db : Database} {user : UserRow}
    (h : ∀ o ∈ user.organizationId, db.organizations.find? o ≠ none) :
    Belongs (toUser user) (toOrganization (db.organizationOf user)) := by
  show (toOrganization (db.organizationOf user)).id = user.organizationId.getD ""
  unfold Database.organizationOf
  cases horganization : user.organizationId with
  | none => rfl
  | some organizationId =>
      obtain ⟨organization, hfind⟩ :=
        Option.ne_none_iff_exists'.mp (h organizationId (by rw [horganization]; rfl))
      show (toOrganization (db.organizations.find? organizationId)).id = organizationId
      rw [hfind]
      show organization.id = organizationId
      exact Table.key_of_find? hfind

/-- A row that is read with its relation. -/
theorem belongs_of_findUser {db : Database} {id : String} {user : UserRow}
    (h : db.findUser id = some user) :
    Belongs (toUser user) (toOrganization (db.organizationOf user)) :=
  belongs_of_related (db.related.1 user ((Table.find?_eq_some_iff _ _ _).mp h).1)

/-- The sign-in answers the row that its transaction has read, with the organization of the
row. -/
theorem belongs_of_loginTransaction {ctx : AuthContext} {input : AuthInput} {login : LoginInput}
    {db db' : Database} {user : User} {organization : Organization} {required : Bool}
    (h : loginTransaction ctx input login db = .ok (db', .success user organization required)) :
    Belongs user organization := by
  unfold loginTransaction at h
  cases hfind : db.findUserByEmail login.email with
  | none =>
      rw [hfind] at h
      obtain ⟨_, _, h⟩ := bind_eq_ok.mp h
      cases h
  | some row =>
      rw [hfind] at h
      have hrelated := db.related.1 row (List.mem_of_find?_eq_some hfind)
      replace h : loginUser ctx input login.password db row =
        .ok (db', .success user organization required) := h
      unfold loginUser at h
      split at h
      · obtain ⟨_, _, h⟩ := bind_eq_ok.mp h
        cases h
      · obtain ⟨db₁, hclear, h⟩ := bind_eq_ok.mp h
        obtain ⟨matched, _, h⟩ := bind_eq_ok.mp h
        -- The update of the lock leaves the organizations alone.
        have hsame : db₁.organizations = db.organizations := by
          unfold clearExpiredLock at hclear
          split at hclear
          · obtain ⟨⟨db₂, row₂⟩, hupdate, rfl⟩ := map_eq_ok.mp hclear
            obtain ⟨_, -, -, htables⟩ := Database.updateUser_eq_ok hupdate
            rw [htables]
          · cases hclear
            rfl
        cases matched with
        | false =>
            obtain ⟨_, _, h⟩ := bind_eq_ok.mp h
            cases h
        | true =>
            have hbelongs : Belongs (toUser row) (toOrganization (db₁.organizationOf row)) :=
              belongs_of_related (by rwa [hsame])
            replace h : recordSuccess ctx input login.password db₁ row =
              .ok (db', .success user organization required) := h
            unfold recordSuccess at h
            obtain ⟨_, _, h⟩ := bind_eq_ok.mp h
            split at h
            · obtain ⟨_, _, h⟩ := bind_eq_ok.mp h
              cases h
              exact hbelongs
            · cases h
              exact hbelongs

/-! ### The replies that come from one row -/

/-- The user and the organization of the reply come from one row. -/
def RowsRead : AuthReady → Prop
  | .loginCommitted (.success user organization _) => Belongs user organization
  | .refreshRead _ (some user) organization => Belongs (toUser user) (toOrganization organization)
  | .registerCreated user => user.organizationId = none
  | _ => True

/-- The outline of the replies, which says of each that its rows were read. -/
def rowsOutline : Outline AuthMemory Database AuthWaiting AuthReady where
  Inv _ _ := True
  Waits _ _ _ := True
  Holds reply _ _ := RowsRead reply

/-- A statement that reads a user reads the organization with it, so both come from one row. -/
theorem rowsRead_execute {ctx : AuthContext} {pc : AuthWaiting} {input : AuthInput}
    {db db' : Database} {reply : AuthReady}
    (h : authExecute ctx pc input db = some (db', reply)) : RowsRead reply := by
  -- A statement that throws has no row.
  have hsettle : ∀ {α : Type} (failed : ServiceException → AuthReady)
      (answer : α → Database × AuthReady) (result : Except ServiceException α),
      (db', reply) = settle db failed answer result → (∀ e, RowsRead (failed e)) →
      (∀ a, result = .ok a → RowsRead (answer a).2) → RowsRead reply := by
    intro α failed answer result heq hfailed hanswer
    cases result with
    | error e => cases heq; exact hfailed e
    | ok a =>
        rw [show reply = (answer a).2 from congrArg Prod.snd heq]
        exact hanswer a rfl
  unfold authExecute at h
  split at h
  · cases h
    cases pc <;> trivial
  · replace h : (db', reply) = authStatement ctx pc input db := (Option.some.inj h).symm
    cases pc with
    | loginTransaction login retry =>
        refine hsettle _ _ _ h (fun _ => trivial) fun r hr => ?_
        obtain ⟨db₁, result⟩ := r
        cases result with
        | success user organization required => exact belongs_of_loginTransaction hr
        | invalidCredentials => trivial
    | registerReads data => cases h; trivial
    | registerHashes data userId =>
        exact hsettle _ _ _ h (fun _ => trivial) fun _ _ => trivial
    | registerCreates data userId passwordHash =>
        refine hsettle _ _ _ h (fun _ => trivial) fun r hr => ?_
        obtain ⟨db₁, row⟩ := r
        show row.organizationId = none
        unfold Database.createUser at hr
        split at hr
        · cases hr
        · obtain ⟨_, _, hr⟩ := bind_eq_ok.mp hr
          cases hr
          rfl
    | meReads caller session => cases h; trivial
    | meMarks caller session userId =>
        exact hsettle _ _ _ h (fun _ => trivial) fun _ _ => trivial
    | meReturns caller session => cases h; trivial
    | activeReads session => cases h; trivial
    | activeMarks session userId =>
        exact hsettle _ _ _ h (fun _ => trivial) fun _ _ => trivial
    | refreshReads session =>
        cases h
        cases hfind : db.findUser session.user.id with
        | none => trivial
        | some user => exact belongs_of_findUser hfind
    | changeReads session data => cases h; trivial
    | changeCompares data user organization =>
        exact hsettle _ _ _ h (fun _ => trivial) fun _ _ => trivial
    | changeHashes data user organization =>
        exact hsettle _ _ _ h (fun _ => trivial) fun _ _ => trivial
    | changeWrites userId passwordHash passwordChangedAt organization =>
        exact hsettle _ _ _ h (fun _ => trivial) fun _ _ => trivial
    | otherStatement write => cases h; trivial

/-- The outline holds without an assertion on the state: what a reply has read stays read. -/
theorem rowsOutline_proved (ctx : AuthContext) :
    rowsOutline.Proved (authProgram ctx) fun _ _ _ _ => True where
  start _ _ _ _ _ _ _ _ := ⟨trivial, trivial, fun _ _ => trivial⟩
  execute _ _ _ _ _ _ _ _ h := ⟨trivial, trivial, rowsRead_execute h⟩
  resume _ _ _ _ _ _ _ _ _ := ⟨trivial, trivial, fun _ _ => trivial⟩
  stable f _ _ _ _ _ h := by cases f <;> exact h

/-! ### The segments -/

/-- Every session that is stored afterwards was stored before, or names one organization. -/
def StoresNamed (m m' : AuthMemory) : Prop :=
  ∀ token session, storedSession m' token = some session →
    storedSession m token = some session ∨ NamesOne session

/-- What a segment stores, carries on and answers names one organization. -/
structure SegmentNames (m : AuthMemory) (seg : AuthSegment) : Prop where
  stored : StoresNamed m seg.1
  carried : ∀ pc, seg.2 = .suspended pc → ∀ session ∈ carriedSession pc, NamesOne session
  answered : ∀ session, seg.2 = .finished (.ok (some session)) → NamesOne session

section
variable {ctx : AuthContext} {m m' : AuthMemory} {input : AuthInput}

/-- Nothing is stored. -/
theorem StoresNamed.refl (m : AuthMemory) : StoresNamed m m := fun _ _ h => Or.inl h

/-- Two changes, each of which stores sessions with one organization only. -/
theorem StoresNamed.trans {m'' : AuthMemory} (h : StoresNamed m m') (h' : StoresNamed m' m'') :
    StoresNamed m m'' := by
  intro token session hstored
  rcases h' token session hstored with hold | hnamed
  · exact h token session hold
  · exact Or.inr hnamed

/-- What ends or touches periods stores nothing. -/
theorem Quiet.storesNamed (h : Quiet m.registry m'.registry) : StoresNamed m m' := by
  intro token session hstored
  have honly : StoresOnly none m m' := h.storesOnly
  rcases honly token session hstored with hold | hnone
  · exact Or.inl hold
  · cases hnone

/-- To store a session that names one organization keeps every stored session so. -/
theorem storesNamed_setSession (clock : Clock) (token : String) {session : AuthSession}
    (h : NamesOne session) : StoresNamed m (m.setSession clock token session) := by
  intro token' session' hstored
  rw [storedSession_setSession] at hstored
  split at hstored
  · cases hstored
    exact Or.inr h
  · exact Or.inl hstored

namespace SegmentNames

/-- A segment that throws carries and answers nothing. -/
theorem of_throws (h : StoresNamed m m') (error : ServiceException) :
    SegmentNames m (throws m' error) :=
  ⟨h, (fun _ hpc => by cases hpc), fun _ hs => by cases hs⟩

/-- A segment that returns a session with one organization. -/
theorem of_returns (h : StoresNamed m m') {session : AuthSession} (hs : NamesOne session) :
    SegmentNames m (returns m' session) :=
  ⟨h, (fun _ hpc => by cases hpc), fun _ heq => by cases heq; exact hs⟩

/-- A segment that ends without a session. -/
theorem of_ends (h : StoresNamed m m') : SegmentNames m (m', .finished (.ok none)) :=
  ⟨h, (fun _ hpc => by cases hpc), fun _ hs => by cases hs⟩

/-- A segment that goes on to wait, with a session that names one organization. -/
theorem of_awaits (h : StoresNamed m m') {pc : AuthWaiting}
    (hpc : ∀ session ∈ carriedSession pc, NamesOne session) : SegmentNames m (awaits m' pc) :=
  ⟨h, (fun _ heq => by cases heq; exact hpc), fun _ hs => by cases hs⟩

/-- A call goes on with its session. -/
theorem of_awaits_session (h : StoresNamed m m') {pc : AuthWaiting} {session : AuthSession}
    (hs : NamesOne session) (hpc : carriedSession pc = some session) :
    SegmentNames m (awaits m' pc) :=
  of_awaits h fun session' hin => by
    rw [hpc] at hin
    cases hin
    exact hs

/-- A call goes on without a session. -/
theorem of_awaits_none (h : StoresNamed m m') {pc : AuthWaiting} (hpc : carriedSession pc = none) :
    SegmentNames m (awaits m' pc) :=
  of_awaits h fun session hin => by rw [hpc] at hin; cases hin

end SegmentNames

/-- `createSession` stores and answers the session of a user with an organization. -/
theorem createSession_names {user : User} {organization : Organization} {session : AuthSession}
    (h : createSession m input user organization = some (m', session))
    (hbelongs : Belongs user organization) : StoresNamed m m' ∧ NamesOne session := by
  unfold createSession AuthMemory.randomUUID at h
  split at h
  · cases h
  · cases h
    have hdrawn : StoresNamed m { m with uuids := m.uuids ++ [input.uuid] } :=
      Quiet.storesNamed (Quiet.refl _)
    exact ⟨hdrawn.trans (storesNamed_setSession _ _ hbelongs), hbelongs⟩

/-- The user and the organization of a session that `createSession` answers. -/
theorem createSession_session {user : User} {organization : Organization} {session : AuthSession}
    (h : createSession m input user organization = some (m', session)) :
    session.user = user ∧ session.organization = organization := by
  unfold createSession at h
  obtain ⟨_, _, h⟩ := Option.map_eq_some_iff.mp h
  cases h
  exact ⟨rfl, rfl⟩

/-- What `get` answers was stored under this token, whatever the call has done to the timers. -/
theorem storedSession_of_get {clock : Clock} {token : String} {session : AuthSession}
    {r : AuthSessionRegistry}
    (h : m.registry.get sessionOptions clock token = (some session, r)) :
    storedSession m token = some session := by
  unfold AuthSessionRegistry.get at h
  cases hget : m.registry.sessions.get? token with
  | none => rw [hget] at h; cases h
  | some stored =>
      rw [hget] at h
      simp only at h
      split at h
      · cases h
      · cases h
        unfold storedSession
        rw [hget]
        rfl

/-- `me` goes on with a session that was stored, so its organization is still the one of its user.
-/
theorem me_names (hm : ∀ token session, storedSession m token = some session → NamesOne session)
    (caller : MeCaller) (token : Option String) :
    SegmentNames m (me ctx m input caller token) := by
  cases token with
  | none => exact .of_throws (.refl m) _
  | some token =>
      simp only [me]
      split
      · exact .of_throws (.refl m) _
      · have hquiet := quiet_get sessionOptions m.registry input.clock token
        cases hget : m.registry.get sessionOptions input.clock token with
        | mk session r =>
            rw [hget] at hquiet
            have hstores : StoresNamed m { m with registry := r } := Quiet.storesNamed hquiet
            cases session with
            | none => exact .of_throws hstores _
            | some session =>
                have hnames := hm token session (storedSession_of_get hget)
                simp only
                split
                · exact .of_awaits_session hstores hnames rfl
                · exact .of_awaits_session hstores hnames rfl

/-- The first segment of every call stores no session that names two organizations. That of the
demo sign-in has the organization of its user. -/
theorem start_names (hm : ∀ token session, storedSession m token = some session → NamesOne session)
    {call : AuthCall} {seg : AuthSegment} (h : authStart ctx call input m = some seg) :
    SegmentNames m seg := by
  cases call with
  | login credentials =>
      simp only [authStart, login] at h
      split at h
      · cases h
        exact .of_throws (.refl m) _
      · split at h
        · cases h
          exact .of_awaits_none (.refl m) rfl
        · split at h
          · cases h
            exact .of_throws (.refl m) _
          · split at h
            · cases h
              exact .of_throws (.refl m) _
            · obtain ⟨⟨m', session⟩, hc, rfl⟩ := Option.map_eq_some_iff.mp h
              -- The organization of the demo sign-in is that of its user.
              obtain ⟨hstores, hnames⟩ := createSession_names hc rfl
              exact .of_returns hstores hnames
  | register data =>
      cases h
      show SegmentNames m (register ctx m data)
      unfold register
      split
      · split
        · exact .of_throws (.refl m) _
        · exact .of_awaits_none (.refl m) rfl
      · exact .of_throws (.refl m) _
  | me token => cases h; exact me_names hm _ token
  | requireActiveSession token => cases h; exact me_names hm _ token
  | refreshSession token => cases h; exact me_names hm _ token
  | changePassword token data => cases h; exact me_names hm _ token
  | logout token =>
      simp only [authStart] at h
      split at h
      · split at h
        · cases h
          exact .of_ends (.refl m)
        · cases h
          exact .of_ends (Quiet.storesNamed (quiet_delete m.registry _))
      · cases h
        exact .of_ends (.refl m)
  | revokeUserSessions userId =>
      cases h
      exact .of_ends (Quiet.storesNamed (quiet_revokeUser m.registry userId))
  | fire timer =>
      simp only [authStart] at h
      split at h
      · cases h
        exact .of_ends
          (Quiet.storesNamed (quiet_fire sessionOptions m.registry input.clock timer))
      · cases h
  | otherStatement write => cases h; exact .of_awaits_none (.refl m) rfl

/-- A mark leaves both organizations as they are. -/
theorem NamesOne.marked {session : AuthSession} (h : NamesOne session) (required : Bool) :
    NamesOne { session with passwordChangeRequired := required } := h

/-- `me` goes on with its session, marked or not. -/
theorem meAfterRead_names {session : AuthSession} (hs : NamesOne session) (caller : MeCaller)
    (user : Option UserRow) : SegmentNames m (meAfterRead m input caller session user) := by
  cases user with
  | none => exact .of_throws (Quiet.storesNamed (quiet_delete m.registry _)) _
  | some user =>
      simp only [meAfterRead]
      split
      · split
        · exact .of_awaits_session (storesNamed_setSession _ _ (hs.marked true)) (hs.marked true)
            rfl
        · exact .of_awaits_session (.refl m) hs rfl
      · exact .of_awaits_session (.refl m) hs rfl

/-- So do the callers of `me`: each of them goes on with the session that it was given. -/
theorem afterMe_names {session : AuthSession} (hs : NamesOne session) (caller : MeCaller) :
    SegmentNames m (afterMe ctx m caller session) := by
  cases caller with
  | me => exact .of_returns (.refl m) hs
  | requireActiveSession =>
      simp only [afterMe, requireActiveSession]
      split
      · exact .of_throws (.refl m) _
      · split
        · exact .of_awaits_session (.refl m) hs rfl
        · exact .of_returns (.refl m) hs
  | refreshSession =>
      simp only [afterMe, refreshSession]
      split
      · exact .of_awaits_session (.refl m) hs rfl
      · exact .of_returns (.refl m) hs
  | changePassword data =>
      simp only [afterMe, changePassword]
      split
      · exact .of_throws (.refl m) _
      · exact .of_awaits_session (.refl m) hs rfl

/-- The second check of `requireActiveSession`, after the user was read, keeps the organizations of
the sessions consistent. -/
theorem requireActiveSessionAfterRead_names {session : AuthSession} (hs : NamesOne session)
    (user : Option UserRow) :
    SegmentNames m (requireActiveSessionAfterRead m input session user) := by
  cases user with
  | none => exact .of_throws (Quiet.storesNamed (quiet_delete m.registry _)) _
  | some user =>
      simp only [requireActiveSessionAfterRead]
      split
      · split
        · exact .of_throws (storesNamed_setSession _ _ (hs.marked true)) _
        · exact .of_awaits_session (.refl m) hs rfl
      · exact .of_returns (.refl m) hs

/-- Every later segment, apart from the last one of `changePassword`: a session is stored from rows
that were read together, or is the old one again. -/
theorem resume_names {reply : AuthReady} {seg : AuthSegment}
    (hs : ∀ session ∈ repliedSession reply, NamesOne session) (hrows : RowsRead reply)
    (hkept : ∀ updatedUser organization, reply = .changeWritten updatedUser organization →
      Belongs (toUser updatedUser) (toOrganization organization))
    (h : authResume ctx reply input m = some seg) : SegmentNames m seg := by
  -- One case per await. A session is stored from the rows that were read together, or is the old
  -- one again.
  cases reply with
  | loginFailed credentials retry error =>
      cases h
      show SegmentNames m (loginAfterFailure m credentials retry error)
      unfold loginAfterFailure
      split
      · exact .of_awaits_none (.refl m) rfl
      · split <;> exact .of_throws (.refl m) _
  | loginCommitted result =>
      cases result with
      | invalidCredentials => cases h; exact .of_throws (.refl m) _
      | success user organization required =>
          obtain ⟨⟨m', session⟩, hc, rfl⟩ := Option.map_eq_some_iff.mp h
          obtain ⟨hstores, hnames⟩ := createSession_names hc hrows
          exact .of_returns
            (hstores.trans (storesNamed_setSession _ _ (hnames.marked required)))
            (hnames.marked required)
  | registerFailed error =>
      cases h
      show SegmentNames m (registerAfterFailure m error)
      unfold registerAfterFailure
      split <;> exact .of_throws (.refl m) _
  | registerRead data existingEmail =>
      simp only [authResume, registerAfterRead] at h
      split at h
      · cases h
        exact .of_throws (.refl m) _
      · obtain ⟨m', hm', rfl⟩ := Option.map_eq_some_iff.mp h
        unfold AuthMemory.randomUUID at hm'
        split at hm'
        · cases hm'
        · cases hm'
          have hdrawn : StoresNamed m { m with uuids := m.uuids ++ [input.uuid] } :=
            Quiet.storesNamed (Quiet.refl _)
          exact .of_awaits_none hdrawn rfl
  | registerHashed data userId hash => cases h; exact .of_awaits_none (.refl m) rfl
  | registerCreated user =>
      obtain ⟨⟨m', session⟩, hc, rfl⟩ := Option.map_eq_some_iff.mp h
      -- A registered account belongs to no organization, and neither does its session.
      have hbelongs : Belongs (toUser user) unaffiliatedOrganization := by
        show "" = user.organizationId.getD ""
        rw [show user.organizationId = none from hrows]
        rfl
      obtain ⟨hstores, hnames⟩ := createSession_names hc hbelongs
      exact .of_returns hstores hnames
  | meRead caller session user =>
      cases h
      exact meAfterRead_names (hs session rfl) caller user
  | meMarked caller session =>
      cases h
      have hmarked := (hs session rfl).marked true
      exact .of_awaits_session (storesNamed_setSession _ _ hmarked) hmarked rfl
  | meReturned caller session => cases h; exact afterMe_names (hs session rfl) caller
  | activeRead session user =>
      cases h
      exact requireActiveSessionAfterRead_names (hs session rfl) user
  | activeMarked session =>
      cases h
      exact .of_throws (storesNamed_setSession _ _ ((hs session rfl).marked true)) _
  | refreshRead session user organization =>
      cases h
      cases user with
      | none => exact .of_returns (.refl m) (hs session rfl)
      | some user =>
          have hnames : NamesOne
              { token := session.token, user := toUser user,
                organization := toOrganization organization,
                passwordChangeRequired := session.passwordChangeRequired } := hrows
          exact .of_returns (storesNamed_setSession _ _ hnames) hnames
  | changeRead data user organization =>
      cases user with
      | none => cases h; exact .of_throws (.refl m) _
      | some user => cases h; exact .of_awaits_none (.refl m) rfl
  | changeCompared data user organization matched =>
      simp only [authResume] at h
      split at h
      · cases h
        exact .of_awaits_none (.refl m) rfl
      · cases h
        exact .of_throws (.refl m) _
  | changeHashed user hash organization => cases h; exact .of_awaits_none (.refl m) rfl
  | changeWritten updatedUser organization =>
      obtain ⟨⟨m', session⟩, hc, rfl⟩ := Option.map_eq_some_iff.mp h
      obtain ⟨hstores, hnames⟩ := createSession_names hc (hkept _ _ rfl)
      -- The old sessions of the account are revoked before the new one is opened.
      have hrevoked : StoresNamed m
          { m with registry := (m.registry.revokeUser updatedUser.id).2 } :=
        Quiet.storesNamed (quiet_revokeUser m.registry updatedUser.id)
      exact .of_returns (hrevoked.trans hstores) hnames
  | failed error => cases h; exact .of_throws (.refl m) _
  | otherDone => cases h; exact .of_ends (.refl m)

end

/-! ### Runs -/

/-- A segment of a call keeps the property when its own sessions have it. -/
theorem conclude_names {w : AuthWorld} (hw : SessionsNameOne w) (id : Nat) {seg : AuthSegment}
    (h : SegmentNames w.memory seg) : SessionsNameOne (w.conclude id seg.1 seg.2) where
  stored token session hstored := by
    rw [World.conclude_memory] at hstored
    rcases h.stored token session hstored with hold | hnames
    · exact hw.stored token session hold
    · exact hnames
  carried id' f hf session hin := by
    rcases World.conclude_flights w id id' seg.1 seg.2 f hf with ⟨pc, hpc, rfl⟩ | hold
    · exact h.carried pc hpc session hin
    · exact hw.carried id' f hold session hin
  answered r hr session hsession := by
    rcases World.mem_conclude_results hr with hold | ⟨result, hresult, rfl⟩
    · exact hw.answered r hold session hsession
    · refine h.answered session ?_
      rw [hresult, show result = .ok (some session) from hsession]

/-- An awaited operation keeps the session of its call: an answer carries the session of the wait,
a failure carries none. -/
theorem execute_session {ctx : AuthContext} {pc : AuthWaiting} {input : AuthInput}
    {db db' : Database} {reply : AuthReady} (h : authExecute ctx pc input db = some (db', reply))
    {session : AuthSession} (hs : session ∈ repliedSession reply) :
    session ∈ carriedSession pc := by
  -- An operation answers or throws; a reply after a failure carries no session.
  have hsettle : ∀ {α : Type} (failed : ServiceException → AuthReady)
      (answer : α → Database × AuthReady) (result : Except ServiceException α),
      (db', reply) = settle db failed answer result → (∀ e, repliedSession (failed e) = none) →
      (∀ a, repliedSession (answer a).2 = none ∨ repliedSession (answer a).2 = carriedSession pc) →
      session ∈ carriedSession pc := by
    intro α failed answer result heq hfailed hanswer
    cases result with
    | error e =>
        cases heq
        rw [hfailed e] at hs
        cases hs
    | ok a =>
        have hreply : reply = (answer a).2 := congrArg Prod.snd heq
        subst hreply
        rcases hanswer a with hnone | hsame
        · rw [hnone] at hs
          cases hs
        · rw [← hsame]
          exact hs
  unfold authExecute at h
  split at h
  · cases h
    cases pc <;> cases hs
  · replace h : (db', reply) = authStatement ctx pc input db := (Option.some.inj h).symm
    cases pc with
    | meReads caller session => cases h; exact hs
    | meReturns caller session => cases h; exact hs
    | activeReads session => cases h; exact hs
    | refreshReads session => cases h; exact hs
    | meMarks caller session userId =>
        exact hsettle _ _ _ h (fun _ => rfl) fun _ => Or.inr rfl
    | activeMarks session userId =>
        exact hsettle _ _ _ h (fun _ => rfl) fun _ => Or.inr rfl
    | registerReads data => cases h; cases hs
    | changeReads session data => cases h; cases hs
    | otherStatement write => cases h; cases hs
    | _ => exact hsettle _ _ _ h (fun _ => rfl) fun _ => Or.inl rfl

/-- A move keeps that the sessions name one organization exactly when it meets the condition. Only
the end of a change of password has one. -/
theorem step_names_iff (ctx : AuthContext) (w : AuthWorld) (e : AsyncEvent AuthCall AuthInput)
    (w' : AuthWorld) (hrows : rowsOutline.Valid w) (hw : SessionsNameOne w)
    (h : (authProgram ctx).machine.step w e = some w') :
    SessionsNameOne w' ↔ OrganizationKept w e := by
  rcases AsyncProgram.step_cases h with
    ⟨call, input, m, o, rfl, hstart, rfl⟩ | ⟨id, input, pc, d, reply, rfl, hflight, hexec, rfl⟩ |
    ⟨id, input, reply, m, o, rfl, hflight, hresume, rfl⟩
  · refine ⟨fun _ => trivial, fun _ => ?_⟩
    have hnext : SessionsNameOne { w with nextCall := w.nextCall + 1 } :=
      ⟨hw.stored, hw.carried, hw.answered⟩
    have hseg : SegmentNames w.memory (m, o) := start_names hw.stored hstart
    exact conclude_names hnext w.nextCall hseg
  · refine ⟨fun _ => trivial, fun _ => ⟨hw.stored, fun id' f hf session hin => ?_, hw.answered⟩⟩
    replace hf : (w.flights.set id (.ready reply)).get? id' = some f := hf
    rw [OrderedMap.get?_set] at hf
    split at hf
    · cases hf
      exact hw.carried id _ hflight session (execute_session hexec hin)
    · exact hw.carried id' f hf session hin
  · constructor
    · -- The session that `changePassword` has just answered is among the results.
      intro hw' updatedUser organization hwritten
      rw [hflight] at hwritten
      cases hwritten
      obtain ⟨⟨m', session⟩, hc, hseg⟩ := Option.map_eq_some_iff.mp hresume
      cases hseg
      obtain ⟨huser, horganization⟩ := createSession_session hc
      have hnames : NamesOne session :=
        hw'.answered (id, .ok (some session)) (List.mem_append_right _ (List.mem_singleton.mpr rfl))
          session rfl
      unfold NamesOne at hnames
      rwa [huser, horganization] at hnames
    · intro hkept
      have hseg : SegmentNames w.memory (m, o) := by
        refine resume_names (hw.carried id _ hflight) (hrows.flights id _ hflight)
          (fun user organization hreply => ?_) hresume
        exact hkept user organization (by rw [hflight, hreply])
      exact conclude_names hw id hseg

/-- In the states of a run every session names one organization, whether it is stored, in the
hands of a call or answered, exactly when no `changePassword` of the run opens a session for a
user who was moved to another organization since the call has read the row. -/
theorem sessions_name_one_iff (ctx : AuthContext) (db : Database)
    (es : List (AsyncEvent AuthCall AuthInput)) (w : AuthWorld)
    (h : (authProgram ctx).machine.run (authInitial db) es = some w) :
    (authProgram ctx).machine.Always SessionsNameOne (authInitial db) es ↔
      (authProgram ctx).machine.Meets OrganizationKept (authInitial db) es := by
  have hinitial : SessionsNameOne (authInitial db) :=
    ⟨(fun token session hs => by simp [authInitial, storedSession] at hs),
      (fun id f hf => by simp [authInitial] at hf), fun r hr => by cases hr⟩
  exact Machine.always_iff_meets
    (Outline.step_valid (rowsOutline_proved ctx))
    (step_names_iff ctx) es _ w (rowsOutline.valid_initial trivial) hinitial h

/-! ### A user who is moved during a change of the password -/

/-- What the approval of a request writes: the founder manages the organization. -/
def founderAppointed (db : Database) : Database :=
  match db.updateUser founderRow.id
    (fun u => { u with role := .organization, organizationId := some operatorOrganization.id })
    (fun _ => rfl) with
  | .ok (db, _) => db
  | .error _ => db

/-- The founder signs in and changes the password. The approval is committed while the call
derives the new hash, and the sessions of the founder are revoked before the call stores its
own. -/
def movedDuringChange : List (AsyncEvent AuthCall AuthInput) :=
  [.invoke (.login { email := founderRow.email, password := examplePassword }) {},
    .execute 0 {}, .resume 0 { uuid := "founder" },
    .invoke (.changePassword (some (sessionToken "founder"))
      { currentPassword := examplePassword, newPassword := "Correct-Horse-8" }) {},
    .execute 1 {}, .resume 1 {}, .execute 1 {}, .resume 1 {}, .execute 1 {}, .resume 1 {},
    .execute 1 {}, .resume 1 {},
    .invoke (.otherStatement founderAppointed) {}, .execute 2 {}, .resume 2 {},
    .invoke (.revokeUserSessions founderRow.id) {},
    .execute 1 {}, .resume 1 {}, .execute 1 {}, .resume 1 { uuid := "moved" }]

/-- At the end of the run a manager's session is stored whose own organization is that of a
user without one. -/
theorem movedDuringChange_run :
    ((authProgram signInContext).machine.run (authInitial founderDatabase)
      movedDuringChange).any (fun w =>
        (storedSession w.memory (sessionToken "moved")).any fun session =>
          decide (session.user.role = .organization ∧ ¬ NamesOne session)) = true := by
  decide +kernel

/-- The exact condition at that run, which it does not meet. -/
theorem sessions_name_one_iff_moved :
    ∃ w, (authProgram signInContext).machine.run (authInitial founderDatabase)
        movedDuringChange = some w ∧ ¬ SessionsNameOne w ∧
      ((authProgram signInContext).machine.Always SessionsNameOne
          (authInitial founderDatabase) movedDuringChange ↔
        (authProgram signInContext).machine.Meets OrganizationKept
          (authInitial founderDatabase) movedDuringChange) := by
  obtain ⟨w, hw, hcheck⟩ := (Option.any_eq_true _ _).mp movedDuringChange_run
  obtain ⟨session, hsession, hcheck⟩ := (Option.any_eq_true _ _).mp hcheck
  refine ⟨w, hw, fun hnames => ?_,
    sessions_name_one_iff signInContext founderDatabase movedDuringChange w hw⟩
  exact (of_decide_eq_true hcheck).2 (hnames.stored _ session hsession)

end Dcvp.Proofs
