import Dcvp.Lib.Delimited
import Dcvp.Services.EnvironmentCheckEvidence

/-!
# `Dcvp.Proofs.EnvironmentCheckEvidence`: which evidence is accepted

The digest covers the text `inviteToken.sessionId.expiresAt`. An invite token has no `.`, but
the printed date has one. So the digest of a session fits a second reading of the same text:
the part of the date up to its seconds belongs to the session identifier, and only the
milliseconds remain as the date. `MovedDate` is this second reading. The milliseconds alone
are no date, and `Date.parse` may answer `NaN`, which is never expired.

`accepts_iff` is the specification of `assertEnvironmentCheckSession`. From there the proof
is about cutting texts at a separator (`split_at_first`, `split_three`).
`evidence_sound_iff` is the result: what is accepted was issued with a later expiry, exactly
unless the input is a moved date.

`EvidenceAssumptions` holds what is assumed of the surroundings. A digest stands for its
payload, and a caller, who does not know the secret, has no digest that was not issued.
-/

set_option autoImplicit false

namespace Dcvp.Proofs

open Dcvp.Lib
open Dcvp.Services
open Dcvp.Shared (EnvironmentCheckSession)

/-! ### Issued sessions -/

/-- A call of `createEnvironmentCheckSession`: for whom the evidence was signed, when, and under
which random identifier. -/
structure Issue where
  inviteToken : String
  now : Int
  uuid : String

namespace Issue

/-- The environment check session that the call with these arguments returned. -/
def session (host : EvidenceHost) (env : EvidenceEnv) (issue : Issue) :
    Except ServiceException EnvironmentCheckSession :=
  createEnvironmentCheckSession host env issue.inviteToken issue.now issue.uuid

/-- The identifier of the session of an issued token. -/
def sessionId (issue : Issue) : String := createId "envsession" issue.uuid

/-- The moment at which the session expires. -/
def expiry (issue : Issue) : Int := issue.now + environmentCheckTtlMs

/-- The text that was signed in this call: the invite token, the session and its end. -/
def payload (issue : Issue) : String :=
  evidencePayload issue.inviteToken issue.sessionId (Js.toISOString issue.expiry)

end Issue

section
variable (host : EvidenceHost) (env : EvidenceEnv) (issued : List Issue)

/-- What is assumed of the surroundings, for one input. -/
structure EvidenceAssumptions (inviteToken evidenceToken : String) : Prop where
  /-- Digests are equal only for equal payloads. -/
  collisionFree : ∀ secret payload payload',
    host.hmac secret payload = host.hmac secret payload' → payload = payload'
  /-- A digest that the caller presents was issued. -/
  unforgeable : ∀ secret expiresAt payload, environmentCheckSecret host env = .ok secret →
    evidenceToken = expiresAt ++ "|" ++ host.hmac secret payload →
    ∃ issue ∈ issued, host.hmac secret payload = host.hmac secret issue.payload
  inviteToken : '.' ∉ inviteToken.toList
  inviteTokens : ∀ issue ∈ issued, '.' ∉ issue.inviteToken.toList
  sessionIds : ∀ issue ∈ issued, '.' ∉ issue.sessionId.toList
  /-- `Date.parse` reads back a printed date. -/
  dates : ∀ issue ∈ issued, host.dateParse (Js.toISOString issue.expiry) = some issue.expiry

/-- The session was issued for the invite token, with this evidence and a later expiry. -/
def IssuedEvidence (inviteToken sessionId evidenceToken : String) (t : Int) : Prop :=
  ∃ issue ∈ issued, ∃ session, issue.session host env = .ok session ∧
    issue.inviteToken = inviteToken ∧ session.sessionId = sessionId ∧
    session.evidenceToken = evidenceToken ∧ t < issue.expiry

/-- The evidence of an issued session with the part of its date before the `.` moved to the
session identifier, where the rest of the date does not count as expired at `t`. -/
def MovedDate (inviteToken sessionId evidenceToken : String) (t : Int) : Prop :=
  ∃ issue ∈ issued, ∃ secret, environmentCheckSecret host env = .ok secret ∧
    issue.inviteToken = inviteToken ∧
    sessionId = issue.sessionId ++ "." ++ String.ofList (Js.isoSeconds issue.expiry) ∧
    evidenceToken = String.ofList (Js.isoMilliseconds issue.expiry) ++ "|" ++
      host.hmac secret issue.payload ∧
    dateReached host (String.ofList (Js.isoMilliseconds issue.expiry)) t = false

end

section
variable {host : EvidenceHost} {env : EvidenceEnv} {issued : List Issue}

/-- The session of an issue, when there is a secret. -/
theorem session_eq {secret : String} (hsecret : environmentCheckSecret host env = .ok secret)
    (issue : Issue) :
    ∃ session, issue.session host env = .ok session ∧ session.sessionId = issue.sessionId ∧
      session.evidenceToken
        = Js.toISOString issue.expiry ++ "|" ++ host.hmac secret issue.payload := by
  unfold Issue.session createEnvironmentCheckSession signEnvironmentCheckSession
  rw [hsecret]
  exact ⟨_, rfl, rfl, rfl⟩

/-! ### What is accepted -/

/-- The date in front of a token that begins with a plain, nonempty date. -/
theorem readExpiresAt_append {expiresAt : String} (hplain : '|' ∉ expiresAt.toList)
    (hne : expiresAt ≠ "") (digest : String) :
    readExpiresAtFromEvidenceToken (expiresAt ++ "|" ++ digest) = some expiresAt := by
  have hlist : (expiresAt ++ "|" ++ digest).toList
      = expiresAt.toList ++ '|' :: digest.toList := by simp
  have hhead : (expiresAt ++ "|" ++ digest).toList.takeWhile (· ≠ '|') = expiresAt.toList := by
    rw [hlist, List.takeWhile_append_of_pos]
    · simp
    · intro c hc
      have : c ≠ '|' := fun heq => hplain (heq ▸ hc)
      simpa using this
  have hcond : '|' ∈ (expiresAt ++ "|" ++ digest).toList ∧
      (expiresAt ++ "|" ++ digest).toList.takeWhile (· ≠ '|') ≠ [] := by
    refine ⟨by rw [hlist]; simp, ?_⟩
    rw [hhead]
    simpa using hne
  unfold readExpiresAtFromEvidenceToken
  rw [if_pos hcond, hhead, String.ofList_toList]

/-- A date that is read from a token is not empty and has no `|`. -/
theorem readExpiresAt_plain {evidenceToken expiresAt : String}
    (h : readExpiresAtFromEvidenceToken evidenceToken = some expiresAt) :
    expiresAt ≠ "" ∧ evidenceToken ≠ "" := by
  simp only [readExpiresAtFromEvidenceToken, Option.ite_none_right_eq_some,
    Option.some.injEq] at h
  obtain ⟨⟨hbar, hne⟩, rfl⟩ := h
  refine ⟨fun hempty => hne ?_, ?_⟩
  · exact String.ofList_eq_empty_iff.mp hempty
  · rintro rfl
    simp at hbar

/-- The specification of `assertEnvironmentCheckSession`: a token is accepted exactly when it has a
date that is not reached, and its digest is that of the payload with this date. -/
theorem accepts_iff (inviteToken sessionId evidenceToken : String) (t : Int) :
    assertEnvironmentCheckSession host env inviteToken sessionId evidenceToken t = .ok () ↔
      ∃ secret expiresAt, environmentCheckSecret host env = .ok secret ∧ sessionId ≠ "" ∧
        readExpiresAtFromEvidenceToken evidenceToken = some expiresAt ∧
        dateReached host expiresAt t = false ∧
        evidenceToken = expiresAt ++ "|" ++
          host.hmac secret (evidencePayload inviteToken sessionId expiresAt) := by
  unfold assertEnvironmentCheckSession
  cases hread : readExpiresAtFromEvidenceToken evidenceToken with
  | none =>
      refine ⟨fun h => ?_, fun ⟨_, _, _, _, h, _⟩ => (by cases h)⟩
      split at h <;> cases h
  | some expiresAt =>
      -- A token with an expiry is not empty, so the session identifier alone decides the first
      -- test.
      have htoken := (readExpiresAt_plain hread).2
      by_cases hsession : sessionId = ""
      · rw [if_pos (Or.inl hsession)]
        exact ⟨fun h => (by cases h), fun ⟨_, _, _, h, _⟩ => absurd hsession h⟩
      · rw [if_neg (by rintro (h | h); exacts [hsession h, htoken h])]
        cases hdate : dateReached host expiresAt t with
        | true =>
            simp only [hdate, if_true]
            refine ⟨fun h => (by cases h), fun ⟨_, e, _, _, he, hd, _⟩ => ?_⟩
            cases he
            rw [hdate] at hd
            cases hd
        | false =>
            simp only [hdate, Bool.false_eq_true, if_false]
            unfold signEnvironmentCheckSession
            simp only [bind_eq_ok]
            constructor
            · rintro ⟨expected, ⟨secret, hsecret, hexpected⟩, h⟩
              cases hexpected
              split at h
              · rename_i heq
                exact ⟨secret, expiresAt, hsecret, hsession, rfl, hdate, heq⟩
              · cases h
            · rintro ⟨secret, e, hsecret, -, he, -, heq⟩
              cases he
              exact ⟨_, ⟨secret, hsecret, rfl⟩, if_pos heq⟩

/-- A signed text, cut at the `.`. -/
theorem payload_toList (inviteToken sessionId expiresAt : String) :
    (evidencePayload inviteToken sessionId expiresAt).toList
      = inviteToken.toList ++ '.' :: (sessionId.toList ++ '.' :: expiresAt.toList) := by
  simp [evidencePayload]

/-- The two readings of a signed text: as it was issued, or with the date cut at its `.`. -/
theorem payload_readings {inviteToken sessionId expiresAt : String} {issue : Issue}
    (hinvite : '.' ∉ inviteToken.toList) (hissued : '.' ∉ issue.inviteToken.toList)
    (hsession : '.' ∉ issue.sessionId.toList)
    (h : evidencePayload inviteToken sessionId expiresAt = issue.payload) :
    issue.inviteToken = inviteToken ∧
      ((sessionId = issue.sessionId ∧ expiresAt = Js.toISOString issue.expiry) ∨
        (sessionId = issue.sessionId ++ "." ++ String.ofList (Js.isoSeconds issue.expiry) ∧
          expiresAt = String.ofList (Js.isoMilliseconds issue.expiry))) := by
  have hlist := congrArg String.toList h
  rw [Issue.payload, payload_toList, payload_toList] at hlist
  obtain ⟨hi, hrest⟩ := split_at_first hinvite hissued hlist
  have hdate : (Js.toISOString issue.expiry).toList
      = Js.isoSeconds issue.expiry ++ '.' :: Js.isoMilliseconds issue.expiry := by
    simp [Js.toISOString]
  rw [hdate] at hrest
  refine ⟨(String.toList_inj.mp hi).symm, ?_⟩
  -- The date has a dot of its own, and a session identifier may have any: so the second dot of the
  -- text can be taken for the separator, or the last.
  rcases split_three hsession (Js.dot_notMem_isoSeconds _) (Js.dot_notMem_isoMilliseconds _)
    hrest with ⟨hs, he⟩ | ⟨hs, he⟩
  · refine Or.inl ⟨String.toList_inj.mp hs, String.toList_inj.mp ?_⟩
    rw [he, hdate]
  · refine Or.inr ⟨String.toList_inj.mp ?_, String.toList_inj.mp ?_⟩
    · rw [hs]
      simp
    · rw [he]
      simp

/-- A moved date is accepted: the payload that is signed is the same text, only cut at another
place. -/
theorem accepts_movedDate {inviteToken sessionId evidenceToken : String} {t : Int}
    (h : MovedDate host env issued inviteToken sessionId evidenceToken t) :
    assertEnvironmentCheckSession host env inviteToken sessionId evidenceToken t = .ok () := by
  obtain ⟨issue, -, secret, hsecret, rfl, rfl, rfl, hdate⟩ := h
  set milliseconds := String.ofList (Js.isoMilliseconds issue.expiry) with hms
  have hplain : '|' ∉ milliseconds.toList := by
    simpa [hms] using Js.bar_notMem_isoMilliseconds issue.expiry
  have hne : milliseconds ≠ "" := by
    simp [hms, Js.isoMilliseconds]
  rw [accepts_iff]
  refine ⟨secret, milliseconds, hsecret, ?_, readExpiresAt_append hplain hne _, hdate, ?_⟩
  · intro hempty
    have := congrArg String.toList hempty
    simp at this
  · -- The signed text is the same text.
    have hpayload : evidencePayload issue.inviteToken
        (issue.sessionId ++ "." ++ String.ofList (Js.isoSeconds issue.expiry)) milliseconds
        = issue.payload := by
      refine String.toList_inj.mp ?_
      rw [Issue.payload, payload_toList, payload_toList]
      simp [hms, Js.toISOString]
    rw [hpayload]

/-- What is accepted was issued for this invite token with exactly this session identifier and
evidence and an expiry after `t`, if and only if the input is not a moved date. -/
theorem evidence_sound_iff (inviteToken sessionId evidenceToken : String) (t : Int)
    (h : EvidenceAssumptions host env issued inviteToken evidenceToken) :
    (assertEnvironmentCheckSession host env inviteToken sessionId evidenceToken t = .ok () →
      IssuedEvidence host env issued inviteToken sessionId evidenceToken t) ↔
    ¬ MovedDate host env issued inviteToken sessionId evidenceToken t := by
  constructor
  · intro hsound hmoved
    obtain ⟨issue, hin, session, hsession, -, hid, -, -⟩ := hsound (accepts_movedDate hmoved)
    obtain ⟨moved, -, secret, hsecret, -, hid', -, -⟩ := hmoved
    obtain ⟨session', hsession', hid'', -⟩ := session_eq hsecret issue
    rw [hsession] at hsession'
    cases hsession'
    -- An issued session identifier has no `.`, and the moved one has.
    have hdot : '.' ∈ issue.sessionId.toList := by
      rw [← hid'', hid, hid']
      simp
    exact h.sessionIds issue hin hdot
  · intro hmoved haccept
    obtain ⟨secret, expiresAt, hsecret, -, -, hdate, htoken⟩ := (accepts_iff _ _ _ _).mp haccept
    obtain ⟨issue, hin, hdigest⟩ := h.unforgeable secret expiresAt _ hsecret htoken
    have hpayload := h.collisionFree secret _ _ hdigest
    obtain ⟨hinvite, hreading⟩ := payload_readings h.inviteToken (h.inviteTokens issue hin)
      (h.sessionIds issue hin) hpayload
    rcases hreading with ⟨hid, hexp⟩ | ⟨hid, hexp⟩
    · obtain ⟨session, hsession, hsid, hsev⟩ := session_eq hsecret issue
      refine ⟨issue, hin, session, hsession, hinvite, hsid.trans hid.symm, ?_, ?_⟩
      · rw [hsev, htoken, hpayload, hexp]
      · rw [hexp, dateReached, h.dates issue hin] at hdate
        simpa using hdate
    · refine absurd ⟨issue, hin, secret, hsecret, hinvite, hid, ?_, ?_⟩ hmoved
      · rw [htoken, hpayload, hexp]
      · rw [← hexp]
        exact hdate

end

/-! ### Milliseconds that are no date -/

/-- A local process. `Date.parse` knows the one full date of the example and answers `NaN` for
its milliseconds, as the real one does. The digest is the payload itself. -/
def localHost : EvidenceHost where
  text := { toLowerCase := id, toUpperCase := id }
  hmac _ payload := payload
  dateParse s := if s = "2026-07-18T00:00:00.020Z" then some 1784332800020 else none

/-- A session issued at 2026-07-17T23:50:00.020Z, which expires ten minutes later. -/
def issuedSession : Issue where
  inviteToken := "invite_1"
  now := 1784332200020
  uuid := "3f2b8c1d-0000-4000-8000-000000000000"

/-- The session identifier and the token that the caller presents. -/
def movedSessionId : String := "envsession_3f2b8c1d.2026-07-18T00:00:00"

@[inherit_doc movedSessionId]
def movedToken : String := "020Z|invite_1.envsession_3f2b8c1d.2026-07-18T00:00:00.020Z"

/-- The assumptions hold for the presented token: its digest is an issued one, and the identifiers
are in their form. -/
theorem movedToken_assumptions :
    EvidenceAssumptions localHost {} [issuedSession] "invite_1" movedToken where
  collisionFree _ _ _ h := h
  unforgeable secret expiresAt payload _ h := by
    refine ⟨issuedSession, List.mem_singleton_self _, ?_⟩
    have htoken : "020Z".toList ++ '|' :: issuedSession.payload.toList = movedToken.toList := by
      decide +kernel
    have hlist := congrArg String.toList h
    rw [← htoken] at hlist
    have hbar : '|' ∉ issuedSession.payload.toList := by decide +kernel
    have hfirst : '|' ∉ "020Z".toList := by decide +kernel
    have hlist' : "020Z".toList ++ '|' :: issuedSession.payload.toList
        = expiresAt.toList ++ '|' :: payload.toList := by
      simpa [localHost] using hlist
    -- The token has only one `|`, so the digest behind it is the issued one.
    have hcount := congrArg (List.count '|') hlist'
    simp only [List.count_append, List.count_cons_self, List.count_eq_zero_of_not_mem hbar,
      List.count_eq_zero_of_not_mem hfirst] at hcount
    have hpayload : '|' ∉ payload.toList := List.count_eq_zero.mp (by omega)
    exact (String.toList_inj.mp (split_at_last hbar hpayload hlist').2).symm
  inviteToken := by decide +kernel
  inviteTokens issue hin := by
    rw [List.mem_singleton.mp hin]
    decide +kernel
  sessionIds issue hin := by
    rw [List.mem_singleton.mp hin]
    decide +kernel
  dates issue hin := by
    rw [List.mem_singleton.mp hin]
    decide +kernel

/-- Four years later the moved date is still accepted, and was never issued. -/
theorem movedDate_accepted :
    assertEnvironmentCheckSession localHost {} "invite_1" movedSessionId movedToken
        1900000000000 = .ok () ∧
      ¬ IssuedEvidence localHost {} [issuedSession] "invite_1" movedSessionId movedToken
        1900000000000 := by
  refine ⟨by decide +kernel, ?_⟩
  rintro ⟨issue, hin, session, -, -, -, -, ht⟩
  rw [List.mem_singleton.mp hin] at ht
  exact absurd ht (by decide)

/-- The exact condition at that input: the token is accepted there without evidence, and its date
has been moved. -/
theorem evidence_sound_iff_moved :
    (assertEnvironmentCheckSession localHost {} "invite_1" movedSessionId movedToken
        1900000000000 = .ok () →
      IssuedEvidence localHost {} [issuedSession] "invite_1" movedSessionId movedToken
        1900000000000) ↔
    ¬ MovedDate localHost {} [issuedSession] "invite_1" movedSessionId movedToken
        1900000000000 :=
  evidence_sound_iff "invite_1" movedSessionId movedToken 1900000000000 movedToken_assumptions

end Dcvp.Proofs
