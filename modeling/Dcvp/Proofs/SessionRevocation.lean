import Dcvp.Proofs.AuthSessionRegistry
import Dcvp.Services.AuthService

/-!
# `Dcvp.Proofs.SessionRevocation`: when a removed session stays removed

`me`, `requireActiveSession` and `refreshSession` read a session, wait for the database, and
then write the session back with `sessions.set`. The write does not look whether the token
is still stored. `writesBack` names the token that a resumed call writes in this way.

A segment of a call is seen through the lifelines of the registry. `SegmentEffect` has three
cases: the segment only ends or touches periods, or it writes one old token back, or it
opens a period for a token that was never used. `start_effect` and `resume_effect` sort
every segment of `authProgram` into these cases, once.

`sessionOutline` is the proof outline over all interleavings: a stored session carries its
own token, every token that was ever stored comes from a drawn identifier, and the token of
every call in flight was stored at some time. The guarantee is that a token which was stored
at some time remains one.

`revocation_final_iff` is the exact condition. In a run, no removed token can be read again
if and only if each call that writes its token back finds the token still stored.
-/

set_option autoImplicit false

namespace Dcvp.Proofs

open Dcvp.Lib
open Dcvp.Services
open Dcvp.Shared (AuthSession Organization User)

/-! ### Present, known and removed tokens -/

/-- The token is stored. -/
def Present (r : AuthSessionRegistry) (token : String) : Prop :=
  (view r token).current ≠ none

/-- The token was removed at some time. -/
def Removed (r : AuthSessionRegistry) (token : String) : Prop :=
  (view r token).ended ≠ []

/-- The token is or was stored. -/
def Known (r : AuthSessionRegistry) (token : String) : Prop :=
  Present r token ∨ Removed r token

/-- No removed token is stored. -/
def StayRemoved (r : AuthSessionRegistry) : Prop :=
  ∀ token, Removed r token → ¬ Present r token

/-- In the words of the registry, a present token is a key of the map. -/
theorem present_iff (r : AuthSessionRegistry) (token : String) :
    Present r token ↔ r.sessions.get? token ≠ none := by
  simp [Present, view]

/-- In the words of the registry, a removed token is one for which `onRevoked` was called. -/
theorem removed_iff (r : AuthSessionRegistry) (token : String) :
    Removed r token ↔ ∃ session, (token, session) ∈ r.revoked := by
  simp [Removed, view, List.filter_eq_nil_iff]

/-- A token is stored exactly when a `get` at some time returns a session for it. -/
theorem present_iff_get (opts : SessionRegistryOptions) (hidle : 0 < opts.idleTtlMs)
    (habs : 0 < opts.absoluteTtlMs) (r : AuthSessionRegistry) (token : String) :
    Present r token ↔ ∃ clock, (r.get opts clock token).1 ≠ none := by
  rw [present_iff]
  unfold AuthSessionRegistry.get
  cases hget : r.sessions.get? token with
  | none => simp
  | some stored =>
      -- Before both time stamps of the entry no lifetime can have passed.
      have hlive : ¬ AuthSessionRegistry.hasExpired opts stored.createdAt stored.lastSeenAt
          (min stored.createdAt stored.lastSeenAt) := by
        unfold AuthSessionRegistry.hasExpired
        omega
      refine ⟨fun _ => ⟨⟨min stored.createdAt stored.lastSeenAt, 0⟩, ?_⟩, fun _ => by simp⟩
      simp only [if_neg hlive]
      simp

/-! ### What a segment does to the registry -/

/-- Every lifeline is as before, closed, or touched. -/
def Quiet (r r' : AuthSessionRegistry) : Prop :=
  ∀ token, view r' token = view r token ∨ view r' token = (view r token).close ∨
    ∃ now, view r' token = (view r token).touch now

/-- The token holds a session of its own, and everything else is as before. -/
structure Wrote (token : String) (r r' : AuthSessionRegistry) : Prop where
  holds : ∃ p, (view r' token).current = some p ∧ p.session.token = token
  ended : (view r' token).ended = (view r token).ended
  others : ∀ t, t ≠ token → view r' t = view r t

/-- Nothing happens to any lifeline. -/
theorem Quiet.refl (r : AuthSessionRegistry) : Quiet r r := fun _ => Or.inl rfl

section
variable (opts : SessionRegistryOptions) (r : AuthSessionRegistry)

/-- A `delete` closes the period of one token, if there is one. -/
theorem quiet_delete (token : String) : Quiet r (r.delete token).2 := by
  intro t
  rw [view_delete]
  by_cases h : t = token
  · exact Or.inr (Or.inl (by simp [h]))
  · exact Or.inl (by simp [h])

/-- A `get` touches the period of its token, or closes it when it has expired. -/
theorem quiet_get (clock : Clock) (token : String) : Quiet r (r.get opts clock token).2 := by
  intro t
  rw [view_get]
  by_cases h : token = t
  · by_cases hl : (view r t).Lapsed opts clock.now
    · exact Or.inr (Or.inl (by simp [h, hl]))
    · exact Or.inr (Or.inr ⟨clock.now, by simp [h, hl]⟩)
  · exact Or.inl (by simp [h])

/-- `revokeUser` closes the periods of the tokens of one user. -/
theorem quiet_revokeUser (userId : String) : Quiet r (r.revokeUser userId).2 := by
  intro t
  rw [view_revokeUser]
  by_cases h : (view r t).BelongsTo userId
  · exact Or.inr (Or.inl (by simp [h]))
  · exact Or.inl (by simp [h])

/-- A timer that fires closes the period that it was set for, when that has expired. -/
theorem quiet_fire (clock : Clock) (timer : Timeout) : Quiet r (r.fire opts clock timer) := by
  intro t
  have hclear : view (r.clearTimeout timer.id) t = view r t := rfl
  unfold AuthSessionRegistry.fire
  rw [view_expire, hclear]
  by_cases h : timer.token = t
  · by_cases hl : (view r t).Lapsed opts clock.now
    · exact Or.inr (Or.inl (by simp [h, hl]))
    · exact Or.inl (by simp [h, hl])
  · exact Or.inl (by simp [h])

/-- A `set` of a session under its own token. -/
theorem wrote_set (clock : Clock) (session : AuthSession) :
    Wrote session.token r (r.set opts clock session.token session) where
  holds := by
    rw [view_set]
    simp [Lifeline.write]
  ended := by
    rw [view_set]
    simp [Lifeline.write]
  others t ht := by
    rw [view_set]
    simp [Ne.symm ht]

end

/-- Two writes for one token leave what the second one has written. -/
theorem Wrote.trans {token : String} {r r' r'' : AuthSessionRegistry} (h : Wrote token r r')
    (h' : Wrote token r' r'') : Wrote token r r'' where
  holds := h'.holds
  ended := h'.ended.trans h.ended
  others t ht := (h'.others t ht).trans (h.others t ht)

namespace Quiet

variable {r r' : AuthSessionRegistry}

/-- A token that is present afterwards was present before, with a session of the same
token, and was not removed meanwhile. -/
theorem current (h : Quiet r r') {token : String} {p' : Presence}
    (hp : (view r' token).current = some p') :
    (∃ p, (view r token).current = some p ∧ p.session = p'.session) ∧
      (view r' token).ended = (view r token).ended := by
  rcases h token with heq | heq | ⟨now, heq⟩
  · rw [heq] at hp ⊢
    exact ⟨⟨p', hp, rfl⟩, rfl⟩
  · rw [heq, Lifeline.close_current] at hp
    cases hp
  · rw [heq] at hp ⊢
    simp only [Lifeline.touch, Option.map_eq_some_iff] at hp
    obtain ⟨p, hp, rfl⟩ := hp
    exact ⟨⟨p, hp, rfl⟩, rfl⟩

/-- The tokens that are or were stored stay the same. -/
theorem known_iff (h : Quiet r r') (token : String) : Known r' token ↔ Known r token := by
  unfold Known Present Removed
  rcases h token with heq | heq | ⟨now, heq⟩
  · rw [heq]
  · rw [heq]
    cases hc : (view r token).current <;> simp [Lifeline.close, hc]
  · rw [heq]
    simp [Lifeline.touch]

end Quiet

/-! ### The invariant -/

/-- A stored session carries its own token, and a token that is or was stored comes from an
identifier that was drawn. -/
structure SessionsOwned (m : AuthMemory) : Prop where
  keyed : ∀ token p, (view m.registry token).current = some p → p.session.token = token
  drawn : ∀ token, Known m.registry token → ∃ uuid ∈ m.uuids, token = sessionToken uuid

/-- A service that has just started has no sessions. -/
theorem sessionsOwned_empty : SessionsOwned {} where
  keyed token p h := by simp [view] at h
  drawn token h := by simp [Known, Present, Removed, view] at h

/-- Two tokens of one identifier are one token. -/
theorem sessionToken_injective {a b : String} (h : sessionToken a = sessionToken b) :
    a = b := by
  have hl : ("session_" ++ a).toList = ("session_" ++ b).toList := congrArg String.toList h
  rw [String.toList_append, String.toList_append] at hl
  exact String.toList_inj.mp (List.append_cancel_left hl)

/-- What one segment does. The argument is the token that it writes back, if any. -/
inductive SegmentEffect (m m' : AuthMemory) : Option String → Prop where
  | quiet (hr : Quiet m.registry m'.registry) (hu : m.uuids ⊆ m'.uuids) :
      SegmentEffect m m' none
  | writeBack (token : String) (hr : Wrote token m.registry m'.registry)
      (hu : m'.uuids = m.uuids) : SegmentEffect m m' (some token)
  | fresh (uuid : String) (r : AuthSessionRegistry) (hq : Quiet m.registry r)
      (hr : Wrote (sessionToken uuid) r m'.registry) (hnew : uuid ∉ m.uuids)
      (hu : m'.uuids = m.uuids ++ [uuid]) : SegmentEffect m m' none

/-- A segment that does nothing to the registry. -/
theorem SegmentEffect.refl (m : AuthMemory) : SegmentEffect m m none :=
  .quiet (Quiet.refl _) (List.Subset.refl _)

/-- A write keeps every known token known, and adds its own. -/
theorem Wrote.known_iff {token : String} {r r' : AuthSessionRegistry} (h : Wrote token r r')
    (t : String) : Known r' t ↔ t = token ∨ Known r t := by
  by_cases ht : t = token
  · subst ht
    obtain ⟨p, hp, -⟩ := h.holds
    simp [Known, Present, hp]
  · unfold Known Present Removed
    rw [h.others t ht]
    simp [ht]

namespace SegmentEffect

variable {m m' : AuthMemory} {back : Option String}

/-- A token that is or was stored remains one. -/
theorem known (h : SegmentEffect m m' back) {token : String} (hk : Known m.registry token) :
    Known m'.registry token := by
  cases h with
  | quiet hr hu => exact (hr.known_iff token).mpr hk
  | writeBack t hr hu => exact (hr.known_iff token).mpr (Or.inr hk)
  | fresh uuid r hq hr hnew hu =>
      exact (hr.known_iff token).mpr (Or.inr ((hq.known_iff token).mpr hk))

/-- Every segment keeps the invariant, when the token that it writes back is known. -/
theorem owned (h : SegmentEffect m m' back) (hm : SessionsOwned m)
    (hback : ∀ token, back = some token → Known m.registry token) : SessionsOwned m' := by
  -- The three effects of a segment: it stores nothing, writes under one known token, or opens a
  -- period under a new one.
  cases h with
  | quiet hr hu =>
      refine ⟨fun token p hp => ?_, fun token hk => ?_⟩
      · obtain ⟨⟨p₀, hp₀, hsession⟩, -⟩ := hr.current hp
        rw [← hsession]
        exact hm.keyed token p₀ hp₀
      · obtain ⟨uuid, hin, htok⟩ := hm.drawn token ((hr.known_iff token).mp hk)
        exact ⟨uuid, hu hin, htok⟩
  | writeBack t hr hu =>
      refine ⟨fun token p hp => ?_, fun token hk => ?_⟩
      · by_cases ht : token = t
        · subst ht
          obtain ⟨p', hp', htok⟩ := hr.holds
          rw [hp] at hp'
          cases hp'
          exact htok
        · rw [hr.others token ht] at hp
          exact hm.keyed token p hp
      · rw [hu]
        rcases (hr.known_iff token).mp hk with rfl | hk'
        · exact hm.drawn token (hback token rfl)
        · exact hm.drawn token hk'
  | fresh uuid r hq hr hnew hu =>
      refine ⟨fun token p hp => ?_, fun token hk => ?_⟩
      · by_cases ht : token = sessionToken uuid
        · subst ht
          obtain ⟨p', hp', htok⟩ := hr.holds
          rw [hp] at hp'
          cases hp'
          exact htok
        · rw [hr.others token ht] at hp
          obtain ⟨⟨p₀, hp₀, hsession⟩, -⟩ := hq.current hp
          rw [← hsession]
          exact hm.keyed token p₀ hp₀
      · rw [hu]
        rcases (hr.known_iff token).mp hk with rfl | hk'
        · exact ⟨uuid, by simp, rfl⟩
        · obtain ⟨uuid', hin, htok⟩ := hm.drawn token ((hq.known_iff token).mp hk')
          exact ⟨uuid', List.mem_append_left _ hin, htok⟩

/-- From a state in which removed tokens stay removed, a segment leads to such a state
exactly when the token that it writes back is still stored. -/
theorem stayRemoved_iff (h : SegmentEffect m m' back) (hm : SessionsOwned m)
    (hback : ∀ token, back = some token → Known m.registry token)
    (hs : StayRemoved m.registry) :
    StayRemoved m'.registry ↔ ∀ token, back = some token → Present m.registry token := by
  have hquiet : ∀ r, Quiet m.registry r → StayRemoved r := by
    intro r hq token hrem hpres
    obtain ⟨p, hp⟩ := Option.ne_none_iff_exists'.mp hpres
    obtain ⟨⟨p₀, hp₀, -⟩, hended⟩ := hq.current hp
    refine hs token ?_ (by simp [Present, hp₀])
    rwa [Removed, hended] at hrem
  cases h with
  | quiet hr hu => exact ⟨fun _ token ht => (by cases ht), fun _ => hquiet _ hr⟩
  | writeBack t hr hu =>
      constructor
      · intro hs' token ht
        cases ht
        -- The token is known. Were it not stored, it would be removed and present again.
        rcases hback t rfl with hpres | hrem
        · exact hpres
        · obtain ⟨p, hp, -⟩ := hr.holds
          have hrem' : Removed m'.registry t := by rwa [Removed, hr.ended]
          exact absurd (by simp [Present, hp]) (hs' t hrem')
      · intro hpres token hrem hpres'
        by_cases ht : token = t
        · subst ht
          rw [Removed, hr.ended] at hrem
          exact hs token hrem (hpres token rfl)
        · rw [Removed, hr.others token ht] at hrem
          rw [Present, hr.others token ht] at hpres'
          exact hs token hrem hpres'
  | fresh uuid r hq hr hnew hu =>
      refine ⟨fun _ token ht => (by cases ht), fun _ token hrem hpres => ?_⟩
      by_cases ht : token = sessionToken uuid
      · -- A removed token is known, so its identifier was drawn, but this one is new.
        subst ht
        rw [Removed, hr.ended] at hrem
        have hk : Known m.registry (sessionToken uuid) :=
          (hq.known_iff _).mp (Or.inr hrem)
        obtain ⟨uuid', hin, htok⟩ := hm.drawn _ hk
        rw [sessionToken_injective htok] at hnew
        exact hnew hin
      · rw [Removed, hr.others token ht] at hrem
        rw [Present, hr.others token ht] at hpres
        exact hquiet r hq token hrem hpres

end SegmentEffect

/-! ### The segments of the service -/

/-- The token of the session that a waiting call carries. -/
def waitingToken : AuthWaiting → Option String
  | .meReads _ session | .meMarks _ session _ | .meReturns _ session | .activeReads session
  | .activeMarks session _ | .refreshReads session | .changeReads session _ =>
      some session.token
  | _ => none

/-- The token of the session that an answered call carries. -/
def readyToken : AuthReady → Option String
  | .meRead _ session _ | .meMarked _ session | .meReturned _ session | .activeRead session _
  | .activeMarked session | .refreshRead session _ _ => some session.token
  | _ => none

/-- The token that a resumed call writes back with `sessions.set(session.token, …)`. -/
def writesBack (reply : AuthReady) (input : AuthInput) : Option String :=
  match reply with
  | .meRead _ session (some user) | .activeRead session (some user) =>
      if passwordExpired user input.dateNow && user.passwordChangeRequired then
        some session.token
      else none
  | .meMarked _ session | .activeMarked session => some session.token
  | .refreshRead session (some _) _ => some session.token
  | _ => none

/-- The token that a call writes back is the one that it carries. -/
theorem writesBack_token {reply : AuthReady} {input : AuthInput} {token : String}
    (h : writesBack reply input = some token) : readyToken reply = some token := by
  unfold writesBack at h
  split at h
  · split at h
    · exact h
    · cases h
  · split at h
    · exact h
    · cases h
  · exact h
  · exact h
  · exact h
  · cases h

/-- What a segment leads to: its effect, and the token of a call that is suspended again. -/
structure SegmentSpec (m : AuthMemory) (back : Option String) (carried : String → Prop)
    (seg : AuthSegment) : Prop where
  effect : SegmentEffect m seg.1 back
  carries : ∀ pc, seg.2 = .suspended pc → ∀ token, waitingToken pc = some token → carried token

namespace SegmentSpec

variable {m m' : AuthMemory} {back : Option String} {carried : String → Prop}

/-- A segment that ends with an exception carries no token on. -/
theorem of_throws (h : SegmentEffect m m' back) (error : ServiceException) :
    SegmentSpec m back carried (throws m' error) :=
  ⟨h, fun _ hpc => by cases hpc⟩

/-- A segment that returns a session carries no token on. -/
theorem of_returns (h : SegmentEffect m m' back) (session : AuthSession) :
    SegmentSpec m back carried (returns m' session) :=
  ⟨h, fun _ hpc => by cases hpc⟩

/-- Nor does one that ends with another result. -/
theorem of_finished (h : SegmentEffect m m' back) (result : AuthResult) :
    SegmentSpec m back carried (m', .finished result) :=
  ⟨h, fun _ hpc => by cases hpc⟩

/-- A segment that waits again carries its token on. -/
theorem of_awaits (h : SegmentEffect m m' back) (pc : AuthWaiting)
    (hc : ∀ token, waitingToken pc = some token → carried token) :
    SegmentSpec m back carried (awaits m' pc) :=
  ⟨h, fun _ hpc => by cases hpc; exact hc⟩

end SegmentSpec

section
variable (ctx : AuthContext) (m : AuthMemory) (input : AuthInput)

/-- A segment that changes the registry quietly and nothing else. -/
theorem effect_registry {r : AuthSessionRegistry} (h : Quiet m.registry r) :
    SegmentEffect m { m with registry := r } none :=
  .quiet h (List.Subset.refl _)

/-- `sessions.set(session.token, …)` with a session of the same token. -/
theorem effect_setSession (clock : Clock) (session : AuthSession) (token : String)
    (h : session.token = token) :
    SegmentEffect m (m.setSession clock token session) (some token) := by
  subst h
  exact .writeBack session.token (wrote_set sessionOptions m.registry clock session) rfl

/-- `sessions.delete(token)`. -/
theorem effect_deleteSession (token : String) :
    SegmentEffect m (m.deleteSession token) none :=
  effect_registry m (quiet_delete m.registry token)

/-- `createSession` opens a period for a new token, also when sessions were ended just
before. -/
theorem effect_createSession (m₀ : AuthMemory) {m' : AuthMemory} {user : User}
    {organization : Organization}
    {session : AuthSession} (hq : Quiet m₀.registry m.registry) (hu : m.uuids = m₀.uuids)
    (h : createSession m input user organization = some (m', session)) :
    session.token = sessionToken input.uuid ∧
      SegmentEffect m₀ m' none ∧
      ∀ clock (s : AuthSession), s.token = session.token →
        SegmentEffect m₀ (m'.setSession clock s.token s) none := by
  unfold createSession AuthMemory.randomUUID at h
  split at h
  · cases h
  · rename_i hnew
    rw [hu] at hnew
    cases h
    set first : AuthSession :=
      { token := sessionToken input.uuid, user, organization, passwordChangeRequired := false }
      with hfirst
    have hw : Wrote (sessionToken input.uuid) m.registry
        (m.registry.set sessionOptions input.clock first.token first) :=
      wrote_set sessionOptions m.registry input.clock first
    -- A second `set` under the same token, as a sign-in makes, is part of the same effect.
    refine ⟨rfl, .fresh input.uuid m.registry hq hw hnew ?_, fun clock s hs => ?_⟩
    · show m.uuids ++ [input.uuid] = _
      rw [hu]
    · have hw' : Wrote (sessionToken input.uuid)
          (m.registry.set sessionOptions input.clock first.token first)
          ((m.registry.set sessionOptions input.clock first.token first).set sessionOptions
            clock s.token s) := by
        have hs' : sessionToken input.uuid = s.token := hs.symm
        rw [hs']
        exact wrote_set sessionOptions _ clock s
      refine .fresh input.uuid m.registry hq (hw.trans hw') hnew ?_
      show m.uuids ++ [input.uuid] = _
      rw [hu]

/-- A `get` that answers a session leaves the token stored, with a session of its own
token when the stored sessions are. -/
theorem get_owned (hm : SessionsOwned m) (clock : Clock) (token : String)
    {session : AuthSession} {r : AuthSessionRegistry}
    (h : m.registry.get sessionOptions clock token = (some session, r)) :
    session.token = token ∧ Known m.registry token := by
  unfold AuthSessionRegistry.get at h
  cases hget : m.registry.sessions.get? token with
  | none => rw [hget] at h; cases h
  | some stored =>
      rw [hget] at h
      have hcur : (view m.registry token).current
          = some ⟨stored.session, stored.createdAt, stored.lastSeenAt⟩ := by
        simp [view, hget]
      simp only at h
      split at h
      · cases h
      · cases h
        exact ⟨hm.keyed token _ hcur, Or.inl (by simp [Present, hcur])⟩

/-- The first segment of `me` writes nothing back. The session that it carries has the token that
was asked for, which is known from then on. -/
theorem me_spec (hm : SessionsOwned m) (caller : MeCaller) (token : Option String) :
    SegmentSpec m none (Known m.registry) (me ctx m input caller token) := by
  cases token with
  | none => exact .of_throws (.refl m) _
  | some token =>
      simp only [me]
      split
      · exact .of_throws (.refl m) _
      · have hq := quiet_get sessionOptions m.registry input.clock token
        -- The session that `get` returns has the token it was asked for, and that token is known
        -- from then on.
        cases hget : m.registry.get sessionOptions input.clock token with
        | mk session r =>
            rw [hget] at hq
            have heff : SegmentEffect m { m with registry := r } none := effect_registry m hq
            cases session with
            | none => exact .of_throws heff _
            | some session =>
                obtain ⟨htok, hknown⟩ := get_owned m hm input.clock token hget
                rw [← htok] at hknown
                have hcarry : ∀ t, some session.token = some t → Known m.registry t := by
                  intro t ht
                  cases ht
                  exact hknown
                simp only
                split
                · exact .of_awaits heff _ hcarry
                · exact .of_awaits heff _ hcarry

/-- Every first segment writes nothing back, and carries only tokens that the registry knows. One
case for each method. -/
theorem start_spec (hm : SessionsOwned m) (call : AuthCall) {seg : AuthSegment}
    (h : authStart ctx call input m = some seg) :
    SegmentSpec m none (Known m.registry) seg := by
  cases call with
  | login credentials =>
      simp only [authStart, login] at h
      split at h
      · cases h
        exact .of_throws (.refl m) _
      · split at h
        · cases h
          exact .of_awaits (.refl m) _ fun t ht => by cases ht
        · split at h
          · cases h
            exact .of_throws (.refl m) _
          · split at h
            · cases h
              exact .of_throws (.refl m) _
            · -- Without a database the demo account signs in at once.
              obtain ⟨⟨m', session⟩, hc, rfl⟩ := Option.map_eq_some_iff.mp h
              exact .of_returns (effect_createSession m input m (Quiet.refl _) rfl hc).2.1 _
  | register data =>
      cases h
      show SegmentSpec m none _ (register ctx m data)
      unfold register
      split
      · split
        · exact .of_throws (.refl m) _
        · exact .of_awaits (.refl m) _ fun t ht => by cases ht
      · exact .of_throws (.refl m) _
  | me token => cases h; exact me_spec ctx m input hm _ token
  | requireActiveSession token => cases h; exact me_spec ctx m input hm _ token
  | refreshSession token => cases h; exact me_spec ctx m input hm _ token
  | changePassword token data => cases h; exact me_spec ctx m input hm _ token
  | logout token =>
      simp only [authStart] at h
      split at h
      · split at h
        · cases h
          exact .of_finished (.refl m) _
        · cases h
          exact .of_finished (effect_deleteSession m _) _
      · cases h
        exact .of_finished (.refl m) _
  | revokeUserSessions userId =>
      cases h
      exact .of_finished (effect_registry m (quiet_revokeUser m.registry userId)) _
  | fire timer =>
      simp only [authStart] at h
      split at h
      · cases h
        exact .of_finished
          (effect_registry m (quiet_fire sessionOptions m.registry input.clock timer)) _
      · cases h
  | otherStatement write =>
      cases h
      exact .of_awaits (.refl m) _ fun t ht => by cases ht

/-- The check of `me` and of `requireActiveSession` that writes back when the row already
asks for a new password. -/
theorem passwordExpired_back {user : UserRow} (session : AuthSession)
    (hexp : passwordExpired user input.dateNow = true) (h : user.passwordChangeRequired = true) :
    (if passwordExpired user input.dateNow && user.passwordChangeRequired then
      some session.token else none) = some session.token := by
  simp [hexp, h]

/-- A failed sign-in writes no session, and what it still waits for will write none. -/
theorem loginAfterFailure_spec (credentials : LoginInput) (retry : Nat) (error : ServiceException)
    {carried : String → Prop} :
    SegmentSpec m none carried (loginAfterFailure m credentials retry error) := by
  unfold loginAfterFailure
  split
  · exact .of_awaits (.refl m) _ fun t ht => by cases ht
  · split
    · exact .of_throws (.refl m) _
    · exact .of_throws (.refl m) _

/-- The registration draws the identifier of the new user, and writes no session yet. -/
theorem registerAfterRead_spec (data : RegisterInput) (existingEmail : Option UserRow)
    {carried : String → Prop} {seg : AuthSegment}
    (h : authResume ctx (.registerRead data existingEmail) input m = some seg) :
    SegmentSpec m none carried seg := by
  simp only [authResume, registerAfterRead] at h
  split at h
  · cases h
    exact .of_throws (.refl m) _
  · obtain ⟨m', hm', rfl⟩ := Option.map_eq_some_iff.mp h
    unfold AuthMemory.randomUUID at hm'
    split at hm'
    · cases hm'
    · cases hm'
      have heff : SegmentEffect m { m with uuids := m.uuids ++ [input.uuid] } none :=
        .quiet (Quiet.refl _) (List.subset_append_left _ _)
      exact .of_awaits heff _ fun t ht => by cases ht

/-- `me` deletes the session of a user who is gone, and writes it back when the password has
expired and the row asks for a new one already. -/
theorem meAfterRead_spec (caller : MeCaller) (session : AuthSession) (user : Option UserRow) :
    SegmentSpec m (writesBack (.meRead caller session user) input)
      (fun token => readyToken (.meRead caller session user) = some token)
      (meAfterRead m input caller session user) := by
  cases user with
  | none => exact .of_throws (effect_deleteSession m _) _
  | some user =>
      simp only [meAfterRead, writesBack]
      by_cases hexp : passwordExpired user input.dateNow
      · by_cases hreq : user.passwordChangeRequired
        · rw [passwordExpired_back input session hexp hreq, if_pos hexp, if_pos hreq]
          exact .of_awaits (effect_setSession m _ _ session.token (by rfl)) _ fun t ht => ht
        · -- The row is marked first, and the session is written in the segment after that.
          simp only [hexp, hreq, if_true]
          exact .of_awaits (.refl m) _ fun t ht => ht
      · simp only [hexp]
        exact .of_awaits (.refl m) _ fun t ht => ht

/-- What the callers of `me` do with its answer: they write back the session of the reply at most,
and wait under its token. -/
theorem afterMe_spec (caller : MeCaller) (session : AuthSession) :
    SegmentSpec m (writesBack (.meReturned caller session) input)
      (fun token => readyToken (.meReturned caller session) = some token)
      (afterMe ctx m caller session) := by
  cases caller with
  | me => exact .of_returns (.refl m) _
  | requireActiveSession =>
      simp only [afterMe, requireActiveSession]
      split
      · exact .of_throws (.refl m) _
      · split
        · exact .of_awaits (.refl m) _ fun t ht => ht
        · exact .of_returns (.refl m) _
  | refreshSession =>
      simp only [afterMe, refreshSession]
      split
      · exact .of_awaits (.refl m) _ fun t ht => ht
      · exact .of_returns (.refl m) _
  | changePassword data =>
      simp only [afterMe, changePassword]
      split
      · exact .of_throws (.refl m) _
      · exact .of_awaits (.refl m) _ fun t ht => ht

/-- The second check of `requireActiveSession`, which ends with the answer instead of going on. -/
theorem requireActiveSessionAfterRead_spec (session : AuthSession) (user : Option UserRow) :
    SegmentSpec m (writesBack (.activeRead session user) input)
      (fun token => readyToken (.activeRead session user) = some token)
      (requireActiveSessionAfterRead m input session user) := by
  cases user with
  | none => exact .of_throws (effect_deleteSession m _) _
  | some user =>
      simp only [requireActiveSessionAfterRead, writesBack]
      by_cases hexp : passwordExpired user input.dateNow
      · by_cases hreq : user.passwordChangeRequired
        · rw [passwordExpired_back input session hexp hreq, if_pos hexp, if_pos hreq]
          exact .of_throws (effect_setSession m _ _ session.token (by rfl)) _
        · simp only [hexp, hreq, if_true]
          exact .of_awaits (.refl m) _ fun t ht => ht
      · simp only [hexp]
        exact .of_returns (.refl m) _

/-- Every later segment writes back exactly `writesBack`, and carries only the token of its
call. -/
theorem resume_spec (reply : AuthReady) {seg : AuthSegment}
    (h : authResume ctx reply input m = some seg) :
    SegmentSpec m (writesBack reply input) (fun token => readyToken reply = some token) seg := by
  cases reply with
  | loginFailed credentials retry error =>
      cases h
      exact loginAfterFailure_spec m credentials retry error
  | loginCommitted result =>
      cases result with
      | invalidCredentials => cases h; exact .of_throws (.refl m) _
      | success user organization required =>
          obtain ⟨⟨m', session⟩, hc, rfl⟩ := Option.map_eq_some_iff.mp h
          -- The session is stored a second time, with whether the password has to be changed.
          have heff := (effect_createSession m input m (Quiet.refl _) rfl hc).2.2 input.secondClock
            { session with passwordChangeRequired := required } rfl
          exact .of_returns heff _
  | registerFailed error =>
      cases h
      show SegmentSpec m none _ (registerAfterFailure m error)
      unfold registerAfterFailure
      split <;> exact .of_throws (.refl m) _
  | registerRead data existingEmail =>
      exact registerAfterRead_spec ctx m input data existingEmail h
  | registerHashed data userId hash =>
      cases h
      exact .of_awaits (.refl m) _ fun t ht => by cases ht
  | registerCreated user =>
      obtain ⟨⟨m', session⟩, hc, rfl⟩ := Option.map_eq_some_iff.mp h
      exact .of_returns (effect_createSession m input m (Quiet.refl _) rfl hc).2.1 _
  | meRead caller session user =>
      cases h
      exact meAfterRead_spec m input caller session user
  | meMarked caller session =>
      cases h
      exact .of_awaits (effect_setSession m _ _ session.token (by rfl)) _ fun t ht => ht
  | meReturned caller session =>
      cases h
      exact afterMe_spec ctx m input caller session
  | activeRead session user =>
      cases h
      exact requireActiveSessionAfterRead_spec m input session user
  | activeMarked session =>
      cases h
      exact .of_throws (effect_setSession m _ _ session.token (by rfl)) _
  | refreshRead session user organization =>
      cases h
      cases user with
      | none => exact .of_returns (.refl m) _
      | some user => exact .of_returns (effect_setSession m _ _ session.token (by rfl)) _
  | changeRead data user organization =>
      cases user with
      | none => cases h; exact .of_throws (.refl m) _
      | some user => cases h; exact .of_awaits (.refl m) _ fun t ht => by cases ht
  | changeCompared data user organization matched =>
      simp only [authResume] at h
      split at h
      · cases h
        exact .of_awaits (.refl m) _ fun t ht => by cases ht
      · cases h
        exact .of_throws (.refl m) _
  | changeHashed user hash organization =>
      cases h
      exact .of_awaits (.refl m) _ fun t ht => by cases ht
  | changeWritten updatedUser organization =>
      obtain ⟨⟨m', session⟩, hc, rfl⟩ := Option.map_eq_some_iff.mp h
      -- The sessions of the user are ended before the new one is made.
      set ended : AuthMemory :=
        { m with registry := (m.registry.revokeUser updatedUser.id).2 } with hended
      have hq : Quiet m.registry ended.registry := quiet_revokeUser m.registry updatedUser.id
      exact .of_returns (effect_createSession ended input m hq rfl hc).2.1 _
  | failed error => cases h; exact .of_throws (.refl m) _
  | otherDone => cases h; exact .of_finished (.refl m) _

/-- The reply of an awaited operation carries the token of its call, or none. -/
theorem execute_token (pc : AuthWaiting) (db db' : Database) (reply : AuthReady)
    (h : authExecute ctx pc input db = some (db', reply)) (token : String)
    (ht : readyToken reply = some token) : waitingToken pc = some token := by
  -- The statements that may throw: a failure keeps no token, an answer keeps that of the call.
  have hsettle : ∀ {α : Type} (failed : ServiceException → AuthReady)
      (answer : α → Database × AuthReady) (result : Except ServiceException α),
      (db', reply) = settle db failed answer result →
      (∀ e, readyToken (failed e) = none) →
      (∀ a, readyToken (answer a).2 = none ∨ readyToken (answer a).2 = waitingToken pc) →
      waitingToken pc = some token := by
    intro α failed answer result heq hf ha
    cases result with
    | error e =>
        cases heq
        rw [hf e] at ht
        cases ht
    | ok a =>
        have hreply : reply = (answer a).2 := congrArg Prod.snd heq
        subst hreply
        rcases ha a with hnone | hsame
        · rw [hnone] at ht
          cases ht
        · rw [← hsame]
          exact ht
  unfold authExecute at h
  split at h
  · cases h
    cases pc <;> cases ht
  · replace h : (db', reply) = authStatement ctx pc input db := (Option.some.inj h).symm
    cases pc with
    | meReads caller session => cases h; exact ht
    | meReturns caller session => cases h; exact ht
    | activeReads session => cases h; exact ht
    | refreshReads session => cases h; exact ht
    | meMarks caller session userId =>
        exact hsettle _ _ _ h (fun _ => rfl) fun _ => Or.inr rfl
    | activeMarks session userId =>
        exact hsettle _ _ _ h (fun _ => rfl) fun _ => Or.inr rfl
    | registerReads data => cases h; cases ht
    | changeReads session data => cases h; cases ht
    | otherStatement write => cases h; cases ht
    | _ => exact hsettle _ _ _ h (fun _ => rfl) fun _ => Or.inl rfl

end

/-! ### All interleavings -/

/-- The outline of the service: sessions are owned, and the token of each call in flight
was stored at some time. -/
def sessionOutline : Outline AuthMemory Database AuthWaiting AuthReady where
  Inv m _ := SessionsOwned m
  Waits pc m _ := ∀ token, waitingToken pc = some token → Known m.registry token
  Holds reply m _ := ∀ token, readyToken reply = some token → Known m.registry token

/-- The outline holds. Each segment keeps the ownership of the sessions and leaves every known
token known, so the assertions of the other calls survive it. -/
theorem sessionOutline_proved (ctx : AuthContext) :
    sessionOutline.Proved (authProgram ctx)
      fun m _ m' _ => ∀ token, Known m.registry token → Known m'.registry token where
  start call input m d m' o hm h := by
    have hspec := start_spec ctx m input hm call h
    exact ⟨hspec.effect.owned hm fun t ht => (by cases ht), fun t => hspec.effect.known,
      fun pc hpc t ht => hspec.effect.known (hspec.carries pc hpc t ht)⟩
  execute pc input m d d' reply hm hwaits h :=
    ⟨hm, fun _ hk => hk, fun t ht => hwaits t (execute_token ctx input pc d d' reply h t ht)⟩
  resume reply input m d m' o hm hholds h := by
    have hspec := resume_spec ctx m input reply h
    exact ⟨hspec.effect.owned hm fun t ht => hholds t (writesBack_token ht),
      fun t => hspec.effect.known,
      fun pc hpc t ht => hspec.effect.known (hholds t (hspec.carries pc hpc t ht))⟩
  stable f m d m' d' hG hf := by
    cases f with
    | waiting pc => exact fun t ht => hG t (hf t ht)
    | ready reply => exact fun t ht => hG t (hf t ht)

/-- The states of `AuthService`: registry, database, and the calls in flight. -/
abbrev AuthWorld := World AuthMemory Database AuthWaiting AuthReady AuthResult

/-- A service without sessions and calls, over any database. -/
def authInitial (db : Database) : AuthWorld := { memory := {}, database := db }

/-- No `sessions.get` returns a session for a token that was removed from the registry. -/
def RevocationFinal (w : AuthWorld) : Prop :=
  ∀ token session, (token, session) ∈ w.memory.registry.revoked →
    ∀ clock, (w.memory.registry.get sessionOptions clock token).1 = none

/-- A call that resumes to its `sessions.set(session.token, …)` finds the token stored. -/
def WritesBackStored (w : AuthWorld) (e : AsyncEvent AuthCall AuthInput) : Prop :=
  ∀ id input reply token, e = .resume id input → w.flights.get? id = some (.ready reply) →
    writesBack reply input = some token → w.memory.registry.sessions.get? token ≠ none

/-- In the words of the registry, the property says that a token with a revoked session is not
stored: a `get` finds nothing for it, at whatever time it is asked. -/
theorem revocationFinal_iff (w : AuthWorld) :
    RevocationFinal w ↔ StayRemoved w.memory.registry := by
  constructor
  · intro h token hrem hpres
    obtain ⟨session, hin⟩ := (removed_iff _ token).mp hrem
    obtain ⟨clock, hget⟩ := (present_iff_get sessionOptions (by decide) (by decide) _ token).mp
      hpres
    exact hget (h token session hin clock)
  · intro h token session hin clock
    by_contra hget
    exact h token ((removed_iff _ token).mpr ⟨session, hin⟩)
      ((present_iff_get sessionOptions (by decide) (by decide) _ token).mpr ⟨clock, hget⟩)

/-- One move: from a state in which revocation is final, it leads to such a state exactly
when it writes no removed token back. -/
theorem step_revocationFinal_iff (ctx : AuthContext) (w : AuthWorld)
    (e : AsyncEvent AuthCall AuthInput) (w' : AuthWorld) (hw : sessionOutline.Valid w)
    (hs : RevocationFinal w) (h : (authProgram ctx).machine.step w e = some w') :
    RevocationFinal w' ↔ WritesBackStored w e := by
  rw [revocationFinal_iff] at hs ⊢
  rcases AsyncProgram.step_cases h with
    ⟨call, input, m, o, rfl, hstart, rfl⟩ | ⟨id, input, pc, d, reply, rfl, hflight, -, rfl⟩ |
    ⟨id, input, reply, m, o, rfl, hflight, hresume, rfl⟩
  · have hspec := start_spec ctx w.memory input hw.inv call hstart
    rw [World.conclude_memory, hspec.effect.stayRemoved_iff hw.inv (fun t ht => by cases ht) hs]
    exact ⟨fun _ id input reply t he => (by cases he), fun _ t ht => by cases ht⟩
  · exact ⟨fun _ id input reply t he => (by cases he), fun _ => hs⟩
  · have hspec := resume_spec ctx w.memory input reply hresume
    have hknown : ∀ t, writesBack reply input = some t → Known w.memory.registry t :=
      fun t ht => hw.flights id _ hflight t (writesBack_token ht)
    rw [World.conclude_memory, hspec.effect.stayRemoved_iff hw.inv hknown hs]
    constructor
    · intro hpres id' input' reply' t he hf hback
      cases he
      rw [hflight] at hf
      cases hf
      exact (present_iff _ t).mp (hpres t hback)
    · intro hstored t hback
      exact (present_iff _ t).mpr (hstored id input reply t rfl hflight hback)

/-- The exact condition for revocation to be final. In a run, no removed token can be read
again if and only if every call that resumes to its `sessions.set(session.token, …)` finds
the token still stored. -/
theorem revocation_final_iff (ctx : AuthContext) (db : Database)
    (es : List (AsyncEvent AuthCall AuthInput)) (w : AuthWorld)
    (h : (authProgram ctx).machine.run (authInitial db) es = some w) :
    (authProgram ctx).machine.Always RevocationFinal (authInitial db) es ↔
      (authProgram ctx).machine.Meets WritesBackStored (authInitial db) es := by
  have hinit : sessionOutline.Valid (authInitial db) :=
    sessionOutline.valid_initial sessionsOwned_empty
  have hfinal : RevocationFinal (authInitial db) := fun token session hin => by
    simp [authInitial] at hin
  exact Machine.always_iff_meets
    (fun w e w' hw hstep => Outline.step_valid (sessionOutline_proved ctx) w e w' hw hstep)
    (fun w e w' hw hs hstep => step_revocationFinal_iff ctx w e w' hw hs hstep)
    es _ w hinit hfinal h

/-! ### A logout during a refresh -/

/-- The token of the session in `logoutDuringRefresh`. -/
def refreshedToken : String := "session_0c9a6a53-2f5e-4a5c-8d62-7b3b1e5f9a10"

/-- A registration, then a refresh of its session that is overtaken by the logout: the
refresh waits for its last `findUnique` when the logout removes the token. -/
def logoutDuringRefresh : List (AsyncEvent AuthCall AuthInput) :=
  [.invoke (.register
      { name := "Kim", email := "kim@example.com", password := "Passw0rd!2026",
        privacyConsentAccepted := true, privacyPolicyVersion := "2026-07-18" }) {},
    .execute 0 {}, .resume 0 { uuid := "6f1b7c1e-8f43-4b0e-9d4c-0f6c1d2e3a4b" },
    .execute 0 { salt := "AAAAAAAAAAAAAAAAAAAAAA" }, .resume 0 {},
    .execute 0 {}, .resume 0 { uuid := "0c9a6a53-2f5e-4a5c-8d62-7b3b1e5f9a10" },
    .invoke (.refreshSession (some refreshedToken)) {},
    .execute 1 {}, .resume 1 {}, .execute 1 {}, .resume 1 {}, .execute 1 {},
    .invoke (.logout (some refreshedToken)) {}, .resume 1 {}]

/-- The run exists, the token was removed in it, and a `get` answers a session afterwards. -/
theorem logoutDuringRefresh_run :
    ((authProgram productionContext).machine.run (authInitial Database.empty)
      logoutDuringRefresh).any (fun w =>
        decide (refreshedToken ∈ w.memory.registry.revoked.map Prod.fst) &&
        (w.memory.registry.get sessionOptions ⟨0, 0⟩ refreshedToken).1.isSome) = true := by
  decide +kernel

/-- In the run with a logout during a refresh, the refresh puts the removed token back. -/
theorem refreshSession_restores_removed_session :
    ∃ w, (authProgram productionContext).machine.run (authInitial Database.empty)
        logoutDuringRefresh = some w ∧ ¬ RevocationFinal w := by
  obtain ⟨w, hw, hcheck⟩ := (Option.any_eq_true _ _).mp logoutDuringRefresh_run
  rw [Bool.and_eq_true, decide_eq_true_eq] at hcheck
  obtain ⟨hremoved, hsome⟩ := hcheck
  obtain ⟨⟨token, session⟩, hin, rfl⟩ := List.mem_map.mp hremoved
  refine ⟨w, hw, fun hfinal => ?_⟩
  rw [hfinal _ session hin ⟨0, 0⟩] at hsome
  cases hsome

/-- The exact condition at that run, in which the session that is written back is no longer stored.
-/
theorem revocation_final_iff_refresh :
    ∃ w, (authProgram productionContext).machine.run (authInitial Database.empty)
        logoutDuringRefresh = some w ∧
      ((authProgram productionContext).machine.Always RevocationFinal
          (authInitial Database.empty) logoutDuringRefresh ↔
        (authProgram productionContext).machine.Meets WritesBackStored
          (authInitial Database.empty) logoutDuringRefresh) := by
  obtain ⟨w, hw, -⟩ := (Option.any_eq_true _ _).mp logoutDuringRefresh_run
  exact ⟨w, hw, revocation_final_iff productionContext Database.empty logoutDuringRefresh w hw⟩

end Dcvp.Proofs
