import Dcvp.Services.AuthSessionRegistry

/-!
# `Dcvp.Proofs.AuthSessionRegistry`: the lifetime of a session

`Lifeline` is the purpose of the registry, for one token: the period in which the token is
present now, if there is one, and the sessions of the periods that have ended. It has no
map and no timeouts. `Lifeline.step` says what each call does to it, and `lifeline` folds
it over the calls.

`view r token` reads the lifeline of a token out of a registry. `view_perform` shows that a
call on the registry is a step of every lifeline, so the registry refines its lifelines. The
proof goes through `view_store` and `view_delete`, because every method ends in `store` or
`delete`.

The timeouts are a second matter. `TimersTracked` says that the armed timeouts are exactly
the ones that the stored entries name, and that each is set for the expiry time of its
entry. Each method keeps it. A firing timeout is the timeout of its own entry, so the
`clearTimeout` of the callback clears what the firing has already consumed
(`fire_eq_expire`).

`session_lifetime` puts the two together for every run of `registryMachine`.
-/

set_option autoImplicit false

namespace Dcvp.Proofs

open Dcvp.Lib
open Dcvp.Services
open Dcvp.Shared (AuthSession)

/-! ### The lifeline of a token -/

/-- A token that is present: its latest session, the time of the `set` that made it
present, and the time of the latest `set` or successful `get`. -/
structure Presence where
  session : AuthSession
  createdAt : Int
  lastTouch : Int
  deriving DecidableEq

/-- The history of one token: the period in which it is present now, and the sessions with
which earlier periods ended. -/
structure Lifeline where
  current : Option Presence := none
  ended : List AuthSession := []
  deriving DecidableEq

namespace Lifeline

/-- The period ends with its last session. An absent token stays absent. -/
def close (l : Lifeline) : Lifeline :=
  match l.current with
  | none => l
  | some p => ⟨none, l.ended ++ [p.session]⟩

/-- A `set`: it opens a period for an absent token. For a present token it replaces the
session and touches the period. -/
def write (l : Lifeline) (session : AuthSession) (now : Int) : Lifeline :=
  { l with current := some ⟨session, ((l.current.map Presence.createdAt).getD now), now⟩ }

/-- A successful `get` touches the period. -/
def touch (l : Lifeline) (now : Int) : Lifeline :=
  { l with current := l.current.map fun p => { p with lastTouch := now } }

/-- The token is present and one of its two lifetimes has passed. -/
def Lapsed (opts : SessionRegistryOptions) (l : Lifeline) (now : Int) : Prop :=
  match l.current with
  | none => False
  | some p => p.createdAt + opts.absoluteTtlMs ≤ now ∨ p.lastTouch + opts.idleTtlMs ≤ now

instance (opts : SessionRegistryOptions) (l : Lifeline) (now : Int) :
    Decidable (l.Lapsed opts now) := by
  unfold Lapsed
  cases l.current
  · exact inferInstanceAs (Decidable False)
  · exact inferInstanceAs (Decidable (_ ∨ _))

/-- The token is present with a session of the user. -/
def BelongsTo (l : Lifeline) (userId : String) : Prop :=
  match l.current with
  | none => False
  | some p => p.session.user.id = userId

instance (l : Lifeline) (userId : String) : Decidable (l.BelongsTo userId) := by
  unfold BelongsTo
  cases l.current
  · exact inferInstanceAs (Decidable False)
  · exact inferInstanceAs (Decidable (_ = _))

/-- What a call does to the lifeline of `token`. -/
def step (opts : SessionRegistryOptions) (token : String) (l : Lifeline) (e : TimedCall) :
    Lifeline :=
  match e.call with
  | .set t session => if t = token then l.write session e.clock.now else l
  | .get t =>
      if t = token then
        if l.Lapsed opts e.clock.now then l.close else l.touch e.clock.now
      else l
  | .delete t => if t = token then l.close else l
  | .revokeUser userId => if l.BelongsTo userId then l.close else l
  | .fire timer =>
      if timer.token = token then
        if l.Lapsed opts e.clock.now then l.close else l
      else l

end Lifeline

/-- The lifeline of a token after the calls, from an empty registry. -/
def lifeline (opts : SessionRegistryOptions) (token : String) (calls : List TimedCall) :
    Lifeline :=
  calls.foldl (Lifeline.step opts token) {}

/-- The lifeline behind one more call. -/
theorem lifeline_concat (opts : SessionRegistryOptions) (token : String)
    (calls : List TimedCall) (e : TimedCall) :
    lifeline opts token (calls ++ [e]) = (lifeline opts token calls).step opts token e := by
  simp [lifeline, List.foldl_append]

/-- The token became present at time `t` and has been present since: a `set` at time `t`
found it absent, and no prefix of the later calls leaves it absent. -/
def OpenedAt (opts : SessionRegistryOptions) (token : String) (calls : List TimedCall)
    (t : Int) : Prop :=
  ∃ before e after session, calls = before ++ e :: after ∧ e.call = .set token session ∧
    e.clock.now = t ∧ (lifeline opts token before).current = none ∧
    ∀ pre, pre <+: after → (lifeline opts token (before ++ e :: pre)).current ≠ none

/-- The call `e` after the calls `before` is a `set` or a successful `get` of the token. -/
def IsTouch (opts : SessionRegistryOptions) (token : String) (before : List TimedCall)
    (e : TimedCall) : Prop :=
  (∃ session, e.call = .set token session) ∨
    (e.call = .get token ∧ (lifeline opts token before).current ≠ none ∧
      ¬ (lifeline opts token before).Lapsed opts e.clock.now)

/-- The latest `set` or successful `get` of the token was at time `t`. -/
def TouchedAt (opts : SessionRegistryOptions) (token : String) (calls : List TimedCall)
    (t : Int) : Prop :=
  ∃ before e after, calls = before ++ e :: after ∧ e.clock.now = t ∧
    IsTouch opts token before e ∧
    ∀ pre e' post, after = pre ++ e' :: post → ¬ IsTouch opts token (before ++ e :: pre) e'

namespace Lifeline

/-- A lifeline that was closed has no open period. -/
theorem close_current (l : Lifeline) : l.close.current = none := by
  unfold close
  cases h : l.current with
  | none => exact h
  | some p => rfl

/-- Only a `set` makes an absent token present, with the time of that call. -/
theorem step_of_absent (opts : SessionRegistryOptions) (token : String) (l : Lifeline)
    (e : TimedCall) (p : Presence) (h : l.current = none)
    (h' : (l.step opts token e).current = some p) :
    e.call = .set token p.session ∧ p.createdAt = e.clock.now := by
  have hclose : l.close.current = none := l.close_current
  unfold step at h'
  cases hcall : e.call with
  | get t => rw [hcall] at h'; simp [touch, h, hclose, apply_ite Lifeline.current] at h'
  | set t session =>
      rw [hcall] at h'
      by_cases ht : t = token
      · simp only [ht, if_true, write, h, Option.some.injEq] at h'
        subst ht h'
        exact ⟨rfl, rfl⟩
      · simp [ht, h] at h'
  | delete t => rw [hcall] at h'; simp [h, hclose, apply_ite Lifeline.current] at h'
  | revokeUser u => rw [hcall] at h'; simp [h, hclose, apply_ite Lifeline.current] at h'
  | fire t => rw [hcall] at h'; simp [h, hclose, apply_ite Lifeline.current] at h'

/-- A call that leaves a present token present keeps the start of its period. -/
theorem step_createdAt (opts : SessionRegistryOptions) (token : String) (l : Lifeline)
    (e : TimedCall) (p p' : Presence) (h : l.current = some p)
    (h' : (l.step opts token e).current = some p') : p'.createdAt = p.createdAt := by
  have hclose : l.close.current = none := l.close_current
  unfold step at h'
  cases hcall : e.call <;> rw [hcall] at h' <;> simp only at h'
  all_goals repeat' split at h'
  all_goals
    first
      | (rw [hclose] at h'; cases h')
      | (simp only [write, touch, h, Option.map_some, Option.some.injEq] at h'; subst h'; rfl)

end Lifeline

/-- What a call does to the time of the latest touch: a touch moves it, nothing else
does. -/
theorem step_lastTouch (opts : SessionRegistryOptions) (token : String)
    (calls : List TimedCall) (e : TimedCall) (p' : Presence)
    (h' : (lifeline opts token (calls ++ [e])).current = some p') :
    (IsTouch opts token calls e ∧ p'.lastTouch = e.clock.now) ∨
    (¬ IsTouch opts token calls e ∧
      ∃ p, (lifeline opts token calls).current = some p ∧ p'.lastTouch = p.lastTouch) := by
  rw [lifeline_concat] at h'
  set l := lifeline opts token calls with hl
  have hclose : l.close.current = none := l.close_current
  unfold Lifeline.step at h'
  unfold IsTouch
  rw [← hl]
  cases hcall : e.call with
  | get t =>
      rw [hcall] at h'
      by_cases ht : t = token
      · by_cases hlapsed : l.Lapsed opts e.clock.now
        · simp [ht, hlapsed, hclose] at h'
        · simp only [ht, if_true, if_neg hlapsed, Lifeline.touch, Option.map_eq_some_iff] at h'
          -- A read within the limits is a touch.
          obtain ⟨p, hp, rfl⟩ := h'
          exact Or.inl ⟨Or.inr ⟨by rw [ht], by simp [hp], hlapsed⟩, rfl⟩
      · simp only [ht, if_false] at h'
        exact Or.inr ⟨by simp [ht], p', h', rfl⟩
  | set t session =>
      rw [hcall] at h'
      by_cases ht : t = token
      · simp only [ht, if_true, Lifeline.write, Option.some.injEq] at h'
        -- A write is a touch.
        exact Or.inl ⟨Or.inl ⟨session, by rw [ht]⟩, by rw [← h']⟩
      · simp only [ht, if_false] at h'
        exact Or.inr ⟨by simp [ht], p', h', rfl⟩
  | delete t =>
      rw [hcall] at h'
      by_cases ht : t = token
      · simp [ht, hclose] at h'
      · simp only [ht, if_false] at h'
        exact Or.inr ⟨by simp, p', h', rfl⟩
  | revokeUser u =>
      rw [hcall] at h'
      by_cases hb : l.BelongsTo u
      · simp [hb, hclose] at h'
      · simp only [hb, if_false] at h'
        exact Or.inr ⟨by simp, p', h', rfl⟩
  | fire t =>
      rw [hcall] at h'
      by_cases ht : t.token = token
      · by_cases hlapsed : l.Lapsed opts e.clock.now
        · simp [ht, hlapsed, hclose] at h'
        · simp only [ht, if_true, if_neg hlapsed] at h'
          exact Or.inr ⟨by simp, p', h', rfl⟩
      · simp only [ht, if_false] at h'
        exact Or.inr ⟨by simp, p', h', rfl⟩

/-- A later call that leaves the token present keeps the start of its period. -/
theorem OpenedAt.concat {opts : SessionRegistryOptions} {token : String}
    {calls : List TimedCall} {t : Int} (h : OpenedAt opts token calls t) (e : TimedCall)
    (hpresent : (lifeline opts token (calls ++ [e])).current ≠ none) :
    OpenedAt opts token (calls ++ [e]) t := by
  obtain ⟨before, e₀, after, session, rfl, hcall, hnow, habsent, hstay⟩ := h
  refine ⟨before, e₀, after ++ [e], session, by simp, hcall, hnow, habsent, ?_⟩
  intro pre hpre
  rcases List.prefix_concat_iff.mp hpre with rfl | hpre'
  · simpa using hpresent
  · exact hstay pre hpre'

/-- A later call that is no touch keeps the time of the latest touch. -/
theorem TouchedAt.concat {opts : SessionRegistryOptions} {token : String}
    {calls : List TimedCall} {t : Int} (h : TouchedAt opts token calls t) (e : TimedCall)
    (hno : ¬ IsTouch opts token calls e) : TouchedAt opts token (calls ++ [e]) t := by
  obtain ⟨before, e₀, after, rfl, hnow, htouch, hlast⟩ := h
  refine ⟨before, e₀, after ++ [e], by simp, hnow, htouch, ?_⟩
  intro pre e' post hsplit
  rcases List.eq_nil_or_concat post with rfl | ⟨post', last, rfl⟩
  · obtain ⟨rfl, hlast'⟩ := List.append_inj' hsplit rfl
    cases hlast'
    exact hno
  · have hsplit' : after ++ [e] = (pre ++ e' :: post') ++ [last] := by simpa using hsplit
    exact hlast pre e' post' (List.append_inj' hsplit' rfl).1

/-- The two times of a present token are what their names say. -/
theorem lifeline_times (opts : SessionRegistryOptions) (token : String) :
    ∀ (calls : List TimedCall) (p : Presence),
      (lifeline opts token calls).current = some p →
      OpenedAt opts token calls p.createdAt ∧ TouchedAt opts token calls p.lastTouch := by
  intro calls
  -- Induction from the right: the last call opens or touches the period, or both times are those of
  -- before.
  induction calls using List.reverseRecOn with
  | nil => intro p h; simp [lifeline] at h
  | append_singleton calls e ih =>
      intro p' h'
      have hstep := h'
      rw [lifeline_concat] at hstep
      -- First the opening, which only a call without a present period moves, then the last touch.
      constructor
      · cases hbefore : (lifeline opts token calls).current with
        | none =>
            obtain ⟨hcall, hnow⟩ := Lifeline.step_of_absent opts token _ e p' hbefore hstep
            refine ⟨calls, e, [], p'.session, rfl, hcall, hnow.symm, hbefore, ?_⟩
            intro pre hpre
            rw [List.prefix_nil.mp hpre, h']
            simp
        | some p =>
            rw [Lifeline.step_createdAt opts token _ e p p' hbefore hstep]
            exact (ih p hbefore).1.concat e (by simp [h'])
      · rcases step_lastTouch opts token calls e p' h' with ⟨htouch, hnow⟩ | ⟨hno, p, hp, hsame⟩
        · refine ⟨calls, e, [], rfl, hnow.symm, htouch, ?_⟩
          intro pre e' post hsplit
          simp at hsplit
        · rw [hsame]
          exact (ih p hp).2.concat e hno

/-! ### The registry refines its lifelines -/

/-- The lifeline of `token` as the registry records it. -/
def view (r : AuthSessionRegistry) (token : String) : Lifeline where
  current := (r.sessions.get? token).map fun stored =>
    ⟨stored.session, stored.createdAt, stored.lastSeenAt⟩
  ended := (r.revoked.filter fun call => call.1 = token).map Prod.snd

section
variable (opts : SessionRegistryOptions) (r : AuthSessionRegistry)

/-- `store` replaces the entry of its token and nothing else. -/
theorem view_store (token token' : String) (session : AuthSession)
    (createdAt lastSeenAt : Int) (previousTimer : Option Nat) (dateNow : Int) :
    view (r.store opts token session createdAt lastSeenAt previousTimer dateNow) token'
      = if token' = token then
          { view r token' with current := some ⟨session, createdAt, lastSeenAt⟩ }
        else view r token' := by
  have hs : ∀ id, (r.clearTimeout id).sessions = r.sessions := fun _ => rfl
  have hr : ∀ id, (r.clearTimeout id).revoked = r.revoked := fun _ => rfl
  cases previousTimer <;>
    by_cases h : token' = token <;>
      simp [view, AuthSessionRegistry.store, AuthSessionRegistry.clearPrevious,
        OrderedMap.get?_set, h, hs, hr]

/-- `delete` ends the period of its token. The lifelines of the other tokens do not see the call.
-/
theorem view_delete (token token' : String) :
    view (r.delete token).2 token'
      = if token' = token then (view r token').close else view r token' := by
  unfold AuthSessionRegistry.delete
  cases hget : r.sessions.get? token with
  | none =>
      by_cases h : token' = token
      · subst h
        simp [view, hget, Lifeline.close]
      · simp [h]
  | some stored =>
      by_cases h : token' = token
      · subst h
        simp [view, hget, Lifeline.close, AuthSessionRegistry.clearTimeout,
          List.filter_append]
      · have hne : ¬ token = token' := fun he => h he.symm
        simp [view, AuthSessionRegistry.clearTimeout, OrderedMap.get?_delete, h,
          List.filter_append, hne]

/-- `get` ends a lapsed period of its token and touches another one. The lifelines of the other
tokens do not see the call. -/
theorem view_get (clock : Clock) (token token' : String) :
    view (r.get opts clock token).2 token'
      = if token = token' then
          if (view r token').Lapsed opts clock.now then (view r token').close
          else (view r token').touch clock.now
        else view r token' := by
  unfold AuthSessionRegistry.get
  -- A token without a session has a closed lifeline, on which both moves do nothing.
  cases hget : r.sessions.get? token with
  | none =>
      by_cases h : token = token'
      · subst h
        simp [view, hget, Lifeline.Lapsed, Lifeline.touch]
      · simp [h]
  | some stored =>
      have hlapsed : (view r token).Lapsed opts clock.now
          ↔ AuthSessionRegistry.hasExpired opts stored.createdAt stored.lastSeenAt clock.now := by
        simp [view, hget, Lifeline.Lapsed, AuthSessionRegistry.hasExpired]
      -- A lapsed session is deleted, any other is stored again with the clock of this call.
      by_cases hexp :
          AuthSessionRegistry.hasExpired opts stored.createdAt stored.lastSeenAt clock.now
      · simp only [if_pos hexp, view_delete]
        by_cases h : token = token'
        · subst h
          simp [hlapsed, hexp]
        · simp [h, Ne.symm h]
      · simp only [if_neg hexp, view_store]
        by_cases h : token = token'
        · subst h
          simp only [if_true, if_neg (fun hl => hexp (hlapsed.mp hl))]
          simp [view, hget, Lifeline.touch]
        · simp [h, Ne.symm h]

/-- `set` opens a period or touches the present one. -/
theorem view_set (clock : Clock) (token token' : String) (session : AuthSession) :
    view (r.set opts clock token session) token'
      = if token = token' then (view r token').write session clock.now
        else view r token' := by
  unfold AuthSessionRegistry.set
  rw [view_store]
  by_cases h : token = token'
  · subst h
    cases hget : r.sessions.get? token <;> simp [Lifeline.write, view, hget]
  · simp [h, Ne.symm h]

/-- `expire` ends a lapsed period and leaves another one alone, since it only sets the timer again.
-/
theorem view_expire (clock : Clock) (token token' : String) :
    view (r.expire opts clock token) token'
      = if token = token' then
          if (view r token').Lapsed opts clock.now then (view r token').close
          else view r token'
        else view r token' := by
  unfold AuthSessionRegistry.expire
  -- As for `get`, but the timer of a live session is only set again.
  cases hget : r.sessions.get? token with
  | none =>
      by_cases h : token = token'
      · subst h
        simp [view, hget, Lifeline.Lapsed]
      · simp [h]
  | some stored =>
      have hlapsed : (view r token).Lapsed opts clock.now
          ↔ ¬ (stored.createdAt + opts.absoluteTtlMs > clock.now ∧
              stored.lastSeenAt + opts.idleTtlMs > clock.now) := by
        simp only [view, hget, Lifeline.Lapsed, Option.map_some]
        omega
      by_cases hlive : stored.createdAt + opts.absoluteTtlMs > clock.now ∧
          stored.lastSeenAt + opts.idleTtlMs > clock.now
      · simp only [if_pos hlive, view_store]
        by_cases h : token = token'
        · subst h
          simp only [if_true, if_neg (fun hl => hlapsed.mp hl hlive)]
          simp [view, hget]
        · simp [h, Ne.symm h]
      · simp only [if_neg hlive, view_delete]
        by_cases h : token = token'
        · subst h
          simp only [if_true, if_pos (hlapsed.mpr hlive)]
        · simp [h, Ne.symm h]

end

/-- The loop of `revokeUser` over a part `es` of the stored entries. The keys of `es` are
distinct and each entry is still stored, so the loop ends exactly the periods of the user
that it meets. -/
theorem view_foldl_revokeEntry (userId token : String) :
    ∀ (es : List (String × StoredSession)) (acc : List AuthSession × AuthSessionRegistry),
      (es.map Prod.fst).Nodup →
      (∀ e ∈ es, acc.2.sessions.get? e.1 = some e.2) →
      view (es.foldl (AuthSessionRegistry.revokeEntry userId) acc).2 token
        = if token ∈ es.map Prod.fst ∧ (view acc.2 token).BelongsTo userId then
            (view acc.2 token).close
          else view acc.2 token := by
  intro es
  induction es with
  | nil => intro acc _ _; simp
  | cons e es ih =>
      intro acc hnd hstored
      obtain ⟨hnotin, hnd'⟩ := List.nodup_cons.mp hnd
      have he : acc.2.sessions.get? e.1 = some e.2 := hstored e List.mem_cons_self
      rw [List.foldl_cons]
      by_cases huser : e.2.session.user.id = userId
      · -- The entry belongs to the user: the body deletes it, and no later key is `e.1`.
        have hacc : AuthSessionRegistry.revokeEntry userId acc e
            = (acc.1 ++ [e.2.session], (acc.2.delete e.1).2) := by
          simp [AuthSessionRegistry.revokeEntry, huser]
        have hrest : ∀ e' ∈ es, (acc.2.delete e.1).2.sessions.get? e'.1 = some e'.2 := by
          intro e' he'
          have hne : e'.1 ≠ e.1 := fun h => hnotin (h ▸ List.mem_map_of_mem he')
          rw [AuthSessionRegistry.delete, he]
          show (acc.2.sessions.delete e.1).get? e'.1 = some e'.2
          rw [OrderedMap.get?_delete_ne _ hne]
          exact hstored e' (List.mem_cons_of_mem _ he')
        rw [hacc, ih _ hnd' hrest]
        by_cases htok : token = e.1
        · have hout : token ∉ es.map Prod.fst := htok ▸ hnotin
          have hbel : (view acc.2 token).BelongsTo userId := by
            simp [view, Lifeline.BelongsTo, htok, he, huser]
          rw [if_neg (fun h => hout h.1), if_pos ⟨List.mem_cons.mpr (Or.inl htok), hbel⟩]
          simp [view_delete, htok]
        · have hsame : view (acc.2.delete e.1).2 token = view acc.2 token := by
            simp [view_delete, htok]
          simp only [hsame, List.map_cons, List.mem_cons, htok, false_or]
      · have hacc : AuthSessionRegistry.revokeEntry userId acc e = acc := by
          simp [AuthSessionRegistry.revokeEntry, huser]
        rw [hacc, ih acc hnd' fun e' he' => hstored e' (List.mem_cons_of_mem _ he')]
        by_cases htok : token = e.1
        · have hbel : ¬ (view acc.2 token).BelongsTo userId := by
            simp [view, Lifeline.BelongsTo, htok, he, huser]
          rw [if_neg (fun h => hbel h.2), if_neg (fun h => hbel h.2)]
        · simp only [List.map_cons, List.mem_cons, htok, false_or]

/-- `revokeUser` ends the periods of the user's tokens and of no others, whatever the order in
which it finds them. -/
theorem view_revokeUser (r : AuthSessionRegistry) (userId token : String) :
    view (r.revokeUser userId).2 token
      = if (view r token).BelongsTo userId then (view r token).close else view r token := by
  unfold AuthSessionRegistry.revokeUser
  rw [view_foldl_revokeEntry userId token r.sessions.entries ([], r) r.sessions.nodup
    fun e he => (r.sessions.get?_eq_some_iff e.1 e.2).mpr he]
  by_cases hbel : (view r token).BelongsTo userId
  · have hmem : token ∈ r.sessions.keys := by
      rw [OrderedMap.mem_keys_iff]
      cases hget : r.sessions.get? token with
      | none => simp [view, Lifeline.BelongsTo, hget] at hbel
      | some stored => exact ⟨stored, rfl⟩
    have hmem' : token ∈ r.sessions.entries.map Prod.fst := hmem
    simp only [hbel, hmem', and_self, if_true]
  · simp [hbel]

/-- A call on the registry is a step of every lifeline: one case for each call, by the view of the
function that it runs. -/
theorem view_perform (opts : SessionRegistryOptions) (r : AuthSessionRegistry)
    (e : TimedCall) (token : String) :
    view (r.perform opts e) token = (view r token).step opts token e := by
  unfold AuthSessionRegistry.perform Lifeline.step
  cases e.call with
  | get t => exact view_get opts r e.clock t token
  | set t session => exact view_set opts r e.clock t token session
  | delete t =>
      show view (r.delete t).2 token = if t = token then (view r token).close else view r token
      rw [view_delete]
      by_cases h : t = token
      · simp [h]
      · simp [h, Ne.symm h]
  | revokeUser userId => exact view_revokeUser r userId token
  | fire timer =>
      have hclear : view (r.clearTimeout timer.id) token = view r token := rfl
      show view ((r.clearTimeout timer.id).expire opts e.clock timer.token) token = _
      rw [view_expire, hclear]

/-! ### The armed timeouts -/

/-- The armed timeouts are the ones that the stored entries name, one for each entry:

- `owned`: an armed timeout is named by the entry of its token, and its delay leads to the
  expiry time of that entry, or to the moment of arming when the expiry time had passed;
- `armed`: the timeout that an entry names is armed;
- `nodup`, `fresh`: handles are distinct, and the next handle is unused. -/
structure TimersTracked (opts : SessionRegistryOptions) (r : AuthSessionRegistry) : Prop where
  owned : ∀ t ∈ r.timers, ∃ stored, r.sessions.get? t.token = some stored ∧
    stored.expiryTimer = t.id ∧
    t.delay = max 0 (expiresAt opts stored.createdAt stored.lastSeenAt - t.armedAt)
  armed : ∀ token stored, r.sessions.get? token = some stored →
    ∃ t ∈ r.timers, t.token = token ∧ t.id = stored.expiryTimer
  nodup : (r.timers.map Timeout.id).Nodup
  fresh : ∀ t ∈ r.timers, t.id < r.nextTimer

namespace TimersTracked

variable {opts : SessionRegistryOptions} {r : AuthSessionRegistry}

/-- A registry without sessions has no timers. -/
theorem empty (opts : SessionRegistryOptions) : TimersTracked opts {} where
  owned t ht := by simp at ht
  armed token stored h := by simp at h
  nodup := List.nodup_nil
  fresh t ht := by simp at ht

/-- Two armed timeouts with one handle are one timeout. -/
theorem eq_of_id (h : TimersTracked opts r) {t t' : Timeout} (ht : t ∈ r.timers)
    (ht' : t' ∈ r.timers) (hid : t.id = t'.id) : t = t' :=
  List.inj_on_of_nodup_map h.nodup ht ht' hid

/-- The timeouts that are left after clearing the one of `token`: those of the other
tokens. -/
theorem mem_clearTimeout (h : TimersTracked opts r) {token : String} {stored : StoredSession}
    (hget : r.sessions.get? token = some stored) (t : Timeout) :
    t ∈ (r.clearTimeout stored.expiryTimer).timers ↔ t ∈ r.timers ∧ t.token ≠ token := by
  simp only [AuthSessionRegistry.clearTimeout, List.mem_filter, decide_eq_true_eq]
  refine and_congr_right fun ht => ?_
  obtain ⟨owner, hown, hid, -⟩ := h.owned t ht
  constructor
  · intro hne htok
    rw [htok, hget] at hown
    cases hown
    exact hne hid.symm
  · intro hne heq
    obtain ⟨t', ht', htok, hid'⟩ := h.armed token stored hget
    have := h.eq_of_id ht ht' (heq.trans hid'.symm)
    exact hne (this ▸ htok)

/-- `store` keeps the timeouts tracked when it is given the timeout of the old entry. -/
theorem store (h : TimersTracked opts r) (token : String) (session : AuthSession)
    (createdAt lastSeenAt dateNow : Int) :
    TimersTracked opts (r.store opts token session createdAt lastSeenAt
      ((r.sessions.get? token).map StoredSession.expiryTimer) dateNow) := by
  -- The cleared registry has no timeout of `token`, with or without an old entry.
  obtain ⟨ts, hts, hmem, hsub⟩ : ∃ ts : List Timeout,
      r.clearPrevious ((r.sessions.get? token).map StoredSession.expiryTimer)
        = { r with timers := ts } ∧
      (∀ t, t ∈ ts ↔ t ∈ r.timers ∧ t.token ≠ token) ∧ ts.Sublist r.timers := by
    cases hget : r.sessions.get? token with
    | none =>
        refine ⟨r.timers, rfl, fun t => ⟨fun ht => ⟨ht, fun htok => ?_⟩, And.left⟩,
          List.Sublist.refl _⟩
        obtain ⟨stored, hown, -⟩ := h.owned t ht
        rw [htok, hget] at hown
        cases hown
    | some stored =>
        exact ⟨_, rfl, h.mem_clearTimeout hget, List.filter_sublist⟩
  unfold AuthSessionRegistry.store
  rw [hts]
  refine ⟨?_, ?_, ?_, ?_⟩
  · intro t ht
    show ∃ stored, (r.sessions.set token _).get? t.token = some stored ∧ _
    rcases List.mem_append.mp ht with hold | hnew
    · obtain ⟨hin, hne⟩ := (hmem t).mp hold
      rw [OrderedMap.get?_set_ne _ _ hne]
      exact h.owned t hin
    · rw [List.mem_singleton.mp hnew]
      exact ⟨_, OrderedMap.get?_set_self _ _ _, rfl, rfl⟩
  · intro token' stored hget
    replace hget : (r.sessions.set token _).get? token' = some stored := hget
    by_cases htok : token' = token
    · rw [htok, OrderedMap.get?_set_self] at hget
      cases hget
      exact ⟨_, List.mem_append_right _ (List.mem_singleton_self _), htok.symm, rfl⟩
    · rw [OrderedMap.get?_set_ne _ _ htok] at hget
      obtain ⟨t, ht, htok', hid⟩ := h.armed token' stored hget
      exact ⟨t, List.mem_append_left _ ((hmem t).mpr ⟨ht, htok' ▸ htok⟩), htok', hid⟩
  · show ((ts ++ _).map Timeout.id).Nodup
    rw [List.map_append]
    refine ((hsub.map _).nodup h.nodup).append (List.nodup_singleton _) ?_
    rw [List.map_singleton, List.disjoint_singleton]
    intro hin
    obtain ⟨t, ht, hid⟩ := List.mem_map.mp hin
    have hlt := h.fresh t ((hmem t).mp ht).1
    replace hid : t.id = r.nextTimer := hid
    omega
  · intro t ht
    show t.id < r.nextTimer + 1
    rcases List.mem_append.mp ht with hold | hnew
    · have := h.fresh t ((hmem t).mp hold).1
      omega
    · rw [List.mem_singleton.mp hnew]
      exact Nat.lt_succ_self _

/-- `delete` keeps the timeouts tracked: it takes the session away together with its only timeout.
-/
theorem delete (h : TimersTracked opts r) (token : String) :
    TimersTracked opts (r.delete token).2 := by
  unfold AuthSessionRegistry.delete
  cases hget : r.sessions.get? token with
  | none => exact h
  | some stored =>
      have hmem := h.mem_clearTimeout hget
      refine ⟨?_, ?_, ?_, ?_⟩
      · intro t ht
        obtain ⟨hin, hne⟩ := (hmem t).mp ht
        show ∃ st, (r.sessions.delete token).get? t.token = some st ∧ _
        rw [OrderedMap.get?_delete_ne _ hne]
        exact h.owned t hin
      · intro token' stored' hget'
        replace hget' : (r.sessions.delete token).get? token' = some stored' := hget'
        have htok : token' ≠ token := by
          rintro rfl
          simp at hget'
        rw [OrderedMap.get?_delete_ne _ htok] at hget'
        obtain ⟨t, ht, htok', hid⟩ := h.armed token' stored' hget'
        exact ⟨t, (hmem t).mpr ⟨ht, htok' ▸ htok⟩, htok', hid⟩
      · exact (List.filter_sublist.map _).nodup h.nodup
      · exact fun t ht => h.fresh t ((hmem t).mp ht).1

/-- `revokeUser` keeps the timeouts tracked, because its loop only deletes. By induction on the
entries that it goes through. -/
theorem revokeUser (h : TimersTracked opts r) (userId : String) :
    TimersTracked opts (r.revokeUser userId).2 := by
  unfold AuthSessionRegistry.revokeUser
  suffices hloop : ∀ (es : List (String × StoredSession))
      (acc : List AuthSession × AuthSessionRegistry), TimersTracked opts acc.2 →
      TimersTracked opts (es.foldl (AuthSessionRegistry.revokeEntry userId) acc).2 from
    hloop _ _ h
  intro es
  induction es with
  | nil => intro acc hacc; exact hacc
  | cons e es ih =>
      intro acc hacc
      refine ih _ ?_
      unfold AuthSessionRegistry.revokeEntry
      split
      · exact hacc
      · exact hacc.delete e.1

/-- `get` keeps the timeouts tracked, whether the token is unknown, has expired or is found and its
idle time begins again. -/
theorem get (h : TimersTracked opts r) (clock : Clock) (token : String) :
    TimersTracked opts (r.get opts clock token).2 := by
  unfold AuthSessionRegistry.get
  cases hget : r.sessions.get? token with
  | none => exact h
  | some stored =>
      by_cases hexp :
          AuthSessionRegistry.hasExpired opts stored.createdAt stored.lastSeenAt clock.now
      · simp only [if_pos hexp]
        exact h.delete token
      · have hs := h.store token stored.session stored.createdAt clock.now clock.later
        rw [hget] at hs
        simp only [if_neg hexp]
        exact hs

/-- `expire` keeps the timeouts tracked: it either removes a session that has run out, or sets the
next timeout of one that has not. -/
theorem expire (h : TimersTracked opts r) (clock : Clock) (token : String) :
    TimersTracked opts (r.expire opts clock token) := by
  unfold AuthSessionRegistry.expire
  cases hget : r.sessions.get? token with
  | none => exact h
  | some stored =>
      have hs := h.store token stored.session stored.createdAt stored.lastSeenAt clock.later
      rw [hget] at hs
      by_cases hlive : stored.createdAt + opts.absoluteTtlMs > clock.now ∧
          stored.lastSeenAt + opts.idleTtlMs > clock.now
      · simp only [if_pos hlive]
        exact hs
      · simp only [if_neg hlive]
        exact h.delete token

/-- The callback of an armed timeout clears the timeout that its entry names, which is the
one that fired. So firing does the same as calling `expire`. -/
theorem fire_eq_expire (h : TimersTracked opts r) (clock : Clock) {t : Timeout}
    (ht : t ∈ r.timers) : r.fire opts clock t = r.expire opts clock t.token := by
  obtain ⟨stored, hget, hid, -⟩ := h.owned t ht
  have hget' : (r.clearTimeout t.id).sessions.get? t.token = some stored := hget
  have htwice : (r.clearTimeout t.id).clearTimeout t.id = r.clearTimeout t.id := by
    simp [AuthSessionRegistry.clearTimeout, List.filter_filter]
  have hdelete : (r.clearTimeout t.id).delete t.token = r.delete t.token := by
    unfold AuthSessionRegistry.delete
    rw [hget', hget]
    simp only [hid, htwice]
  unfold AuthSessionRegistry.fire AuthSessionRegistry.expire
  rw [hget', hget]
  simp only [hid, hdelete, AuthSessionRegistry.store, AuthSessionRegistry.clearPrevious,
    htwice]
  rfl

/-- Every call of the registry keeps the timeouts tracked, and so does a timeout that fires, if it
was set. -/
theorem perform (h : TimersTracked opts r) (e : TimedCall)
    (hfire : ∀ t, e.call = .fire t → t ∈ r.timers) :
    TimersTracked opts (r.perform opts e) := by
  unfold AuthSessionRegistry.perform
  cases hcall : e.call with
  | get token => exact h.get e.clock token
  | set token session => exact h.store token session _ _ _
  | delete token => exact h.delete token
  | revokeUser userId => exact h.revokeUser userId
  | fire t =>
      show TimersTracked opts (r.fire opts e.clock t)
      rw [h.fire_eq_expire e.clock (hfire t hcall)]
      exact h.expire e.clock t.token

/-- The timeouts of a stored token: exactly one, which is due when the session expires by what the
registry knows. -/
theorem filter_token (h : TimersTracked opts r) {token : String} {stored : StoredSession}
    (hget : r.sessions.get? token = some stored) :
    ∃ t, r.timers.filter (fun t => t.token = token) = [t] ∧
      t.dueAt = max t.armedAt (expiresAt opts stored.createdAt stored.lastSeenAt) := by
  obtain ⟨t, ht, htok, -⟩ := h.armed token stored hget
  obtain ⟨owner, hown, -, hdelay⟩ := h.owned t ht
  rw [htok, hget] at hown
  cases hown
  refine ⟨t, ?_, ?_⟩
  · -- Any two timeouts of the token have the handle that the entry names.
    have huniq : ∀ t' ∈ r.timers.filter (fun t => t.token = token), t' = t := by
      intro t' ht'
      obtain ⟨hin, htok'⟩ := List.mem_filter.mp ht'
      have htok'' : t'.token = token := of_decide_eq_true htok'
      obtain ⟨st, hst, hid, -⟩ := h.owned t' hin
      obtain ⟨st₂, hst₂, hid₂, -⟩ := h.owned t ht
      rw [htok'', hget] at hst
      rw [htok, hget] at hst₂
      cases hst
      cases hst₂
      exact h.eq_of_id hin ht (hid.symm.trans hid₂)
    have hnodup : (r.timers.filter (fun t => t.token = token)).Nodup :=
      h.nodup.of_map.filter _
    have hin : t ∈ r.timers.filter (fun t => t.token = token) :=
      List.mem_filter.mpr ⟨ht, decide_eq_true htok⟩
    match hl : r.timers.filter (fun t => t.token = token) with
    | [] => rw [hl] at hin; simp at hin
    | [a] => rw [huniq a (by rw [hl]; exact List.mem_singleton_self a)] at hl; exact hl
    | a :: b :: rest =>
        rw [hl] at hnodup huniq
        have hab : a = b := (huniq a (by simp)).trans (huniq b (by simp)).symm
        simp [hab] at hnodup
  · unfold Timeout.dueAt
    omega

/-- A token without a stored session has no timeout that is set. -/
theorem filter_token_eq_nil (h : TimersTracked opts r) {token : String}
    (hget : r.sessions.get? token = none) :
    r.timers.filter (fun t => t.token = token) = [] := by
  rw [List.filter_eq_nil_iff]
  intro t ht htok
  obtain ⟨stored, hown, -⟩ := h.owned t ht
  rw [of_decide_eq_true htok, hget] at hown
  cases hown

end TimersTracked

/-! ### The lifetime of a session -/

/-- The two invariants of the registry machine: the registry shows the lifelines of the
calls so far, and its timeouts are tracked. -/
theorem registry_refines (opts : SessionRegistryOptions) (t₀ : Int) (calls : List TimedCall)
    (s : RegistryState) (h : (registryMachine opts).run ⟨{}, t₀⟩ calls = some s) :
    (∀ token, view s.registry token = lifeline opts token calls) ∧
      TimersTracked opts s.registry := by
  refine Machine.history_invariant (M := registryMachine opts)
    (P := fun calls s => (∀ token, view s.registry token = lifeline opts token calls) ∧
      TimersTracked opts s.registry) ⟨fun _ => rfl, TimersTracked.empty opts⟩ ?_ calls s h
  rintro calls s e s' ⟨hview, htimers⟩ hstep
  simp only [registryMachine, Option.ite_none_right_eq_some] at hstep
  obtain ⟨⟨-, -, hfire⟩, hs'⟩ := hstep
  cases hs'
  refine ⟨fun token => ?_, htimers.perform e fun t ht => ?_⟩
  · rw [lifeline_concat, ← hview token]
    exact view_perform opts s.registry e token
  · simpa [ht] using hfire

/-- The lifetime of a session, for every sequence of calls and firing timeouts at
nondecreasing times.

- A `get` returns a session only for a token that is present, and before both of its
  lifetimes have passed. They count from the `set` that made the token present and from its
  latest touch.
- A present token has exactly one armed timeout, set for the earlier end of the two
  lifetimes, or for the moment of arming when that end had passed. An absent token has none.
- `onRevoked` is called once for each period that has ended, with its last session, and not
  otherwise. -/
theorem session_lifetime (opts : SessionRegistryOptions) (t₀ : Int) (calls : List TimedCall)
    (s : RegistryState) (h : (registryMachine opts).run ⟨{}, t₀⟩ calls = some s) :
    (∀ (clock : Clock) (token : String) (session : AuthSession),
      s.clock ≤ clock.now → (s.registry.get opts clock token).1 = some session →
      ∃ p, (lifeline opts token calls).current = some p ∧ p.session = session ∧
        clock.now < p.createdAt + opts.absoluteTtlMs ∧
        clock.now < p.lastTouch + opts.idleTtlMs ∧
        OpenedAt opts token calls p.createdAt ∧ TouchedAt opts token calls p.lastTouch) ∧
    (∀ token p, (lifeline opts token calls).current = some p →
      ∃ t, s.registry.timers.filter (fun t => t.token = token) = [t] ∧
        t.dueAt = max t.armedAt
          (min (p.createdAt + opts.absoluteTtlMs) (p.lastTouch + opts.idleTtlMs))) ∧
    (∀ token, (lifeline opts token calls).current = none →
      s.registry.timers.filter (fun t => t.token = token) = []) ∧
    (∀ token, (s.registry.revoked.filter fun call => call.1 = token).map Prod.snd
      = (lifeline opts token calls).ended) := by
  obtain ⟨hview, htimers⟩ := registry_refines opts t₀ calls s h
  refine ⟨?_, ?_, ?_, fun token => ?_⟩
  · intro clock token session _ hget
    have hv := hview token
    unfold AuthSessionRegistry.get at hget
    cases hstored : s.registry.sessions.get? token with
    | none => rw [hstored] at hget; simp at hget
    | some stored =>
        rw [hstored] at hget
        by_cases hexp :
            AuthSessionRegistry.hasExpired opts stored.createdAt stored.lastSeenAt clock.now
        · simp [hexp] at hget
        · -- The entry is the current period of the lifeline, whose times are those of its calls.
          have hcur : (lifeline opts token calls).current
              = some ⟨stored.session, stored.createdAt, stored.lastSeenAt⟩ := by
            rw [← hv]
            simp [view, hstored]
          simp only [if_neg hexp, Option.some.injEq] at hget
          unfold AuthSessionRegistry.hasExpired at hexp
          exact ⟨_, hcur, hget, by show clock.now < stored.createdAt + _; omega,
            by show clock.now < stored.lastSeenAt + _; omega,
            lifeline_times opts token calls _ hcur⟩
  · intro token p hp
    rw [← hview token] at hp
    simp only [view, Option.map_eq_some_iff] at hp
    obtain ⟨stored, hstored, rfl⟩ := hp
    exact htimers.filter_token hstored
  · intro token hnone
    rw [← hview token] at hnone
    exact htimers.filter_token_eq_nil (Option.map_eq_none_iff.mp hnone)
  · rw [← hview token]
    rfl

/-- A session that is stored and then read one second later. -/
theorem session_lifetime_set_get :
    let session : AuthSession :=
      { token := "session_1", organization := { id := "", name := "", createdAt := "" }
        user := { id := "user_1", email := "", name := "", role := .candidate, createdAt := "" } }
    let calls : List TimedCall :=
      [⟨⟨0, 0⟩, .set "session_1" session⟩, ⟨⟨1000, 1000⟩, .get "session_1"⟩]
    ∃ s, (registryMachine {}).run ⟨{}, 0⟩ calls = some s ∧
      ∃ t, s.registry.timers.filter (fun t => t.token = "session_1") = [t] ∧
        t.dueAt = max t.armedAt (min (0 + 28800000) (1000 + 1800000)) := by
  intro session calls
  exact ⟨_, rfl, (session_lifetime {} 0 calls _ rfl).2.1 "session_1" ⟨session, 0, 1000⟩ rfl⟩

end Dcvp.Proofs
