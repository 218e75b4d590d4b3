import Dcvp.Services.LoginRateLimiter

/-!
# `Dcvp.Proofs.RateLimit`: what the rate limiter bounds

As long as the map is not full, `consume` is two hits of counters
(`consume_of_stopped`, `consume_of_reaches`). The times of
these hits are `clientTimes` and `subjectTimes`, and `get?_clientKey_consumeAll` and
`get?_subjectKey_consumeAll` say that each bucket is the counter of its times. The bounds are
then those of the counters.

The isolation is a simulation of the calls with a request by the calls without it. The two maps
agree on every client but the one of the request, and on the subject in question
(`AgreeBut`).

A map that is full gives up its oldest bucket, so with a request that makes it full the answers
differ (`inserted_request_resets_client`).
-/

set_option autoImplicit false

namespace Dcvp.Proofs

open Dcvp.Lib
open Dcvp.Services

section
variable (ctx : RateLimitContext) (limiter : RequestRateLimiter)

/-! ### The words of the bounds -/

/-- During the calls fewer than `bound` buckets exist. -/
def Uncrowded (bound : Nat) : Buckets → List ConsumeCall → Prop
  | buckets, [] => buckets.size < bound
  | buckets, call :: calls =>
      buckets.size < bound ∧ Uncrowded bound (consume ctx limiter call buckets).1 calls

instance decidableUncrowded (bound : Nat) :
    ∀ (buckets : Buckets) (calls : List ConsumeCall),
      Decidable (Uncrowded ctx limiter bound buckets calls)
  | buckets, [] => inferInstanceAs (Decidable (buckets.size < bound))
  | buckets, call :: calls =>
      have := decidableUncrowded bound (consume ctx limiter call buckets).1 calls
      inferInstanceAs (Decidable (buckets.size < bound ∧
        Uncrowded ctx limiter bound (consume ctx limiter call buckets).1 calls))

/-- The client's bucket with the call. -/
def clientBucket (buckets : Buckets) (call : ConsumeCall) : Bucket :=
  WindowCounter.hit windowMs call.now (buckets.get? (clientKey ctx call.request))

/-- The call is counted under its subject, because its client is within the limit. -/
def reachesSubject (buckets : Buckets) (call : ConsumeCall) : Bool :=
  decide ((clientBucket ctx buckets call).count ≤ limiter.options.clientLimit)

/-- The subject's bucket with the call. -/
def subjectBucket (buckets : Buckets) (call : ConsumeCall) : Bucket :=
  WindowCounter.hit windowMs call.now (buckets.get? (subjectKey ctx limiter.options call.email))

/-- The calls from a client. -/
def fromClient (address : String) (call : ConsumeCall) : Bool :=
  decide (clientAddress ctx call.request = address)

/-- The calls that name a subject. -/
def naming (subject : String) (call : ConsumeCall) : Bool :=
  decide (subjectName ctx call.email = subject)

/-- The times at which a client is counted. -/
def clientTimes (address : String) (calls : List ConsumeCall) : List Int :=
  (calls.filter (fromClient ctx address)).map ConsumeCall.now

/-- The times at which a subject is counted. -/
def subjectTimes (subject : String) : Buckets → List ConsumeCall → List Int
  | _, [] => []
  | buckets, call :: calls =>
      let times := subjectTimes subject (consume ctx limiter call buckets).1 calls
      if reachesSubject ctx limiter buckets call && naming ctx subject call then
        call.now :: times
      else times

/-- The times of the allowed calls among those in question. -/
def allowedTimes (p : ConsumeCall → Bool) : Buckets → List ConsumeCall → List Int
  | _, [] => []
  | buckets, call :: calls =>
      let times := allowedTimes p (consume ctx limiter call buckets).1 calls
      if p call && (consume ctx limiter call buckets).2.isNone then call.now :: times else times

/-- In each window that a counted request of a subject opens, at most `subjectLimit` requests
that name it are allowed. -/
def SubjectsLimited (calls : List ConsumeCall) : Prop :=
  ∀ before opening after, calls = before ++ opening :: after →
    let subject := subjectName ctx opening.email
    let buckets := consumeAll ctx limiter .empty before
    reachesSubject ctx limiter buckets opening = true →
    WindowCounter.opens windowMs
      (WindowCounter.windowStart windowMs none (subjectTimes ctx limiter subject .empty before))
      opening.now = true →
    ((allowedTimes ctx limiter (naming ctx subject) buckets (opening :: after)).filter fun t =>
      decide (t < opening.now + windowMs)).length ≤ limiter.options.subjectLimit

/-- In each window that a request of a client opens, at most `clientLimit` requests of it are
allowed. -/
def ClientsLimited (calls : List ConsumeCall) : Prop :=
  ∀ before opening after, calls = before ++ opening :: after →
    let address := clientAddress ctx opening.request
    let buckets := consumeAll ctx limiter .empty before
    WindowCounter.opens windowMs
      (WindowCounter.windowStart windowMs none (clientTimes ctx address before))
      opening.now = true →
    ((allowedTimes ctx limiter (fromClient ctx address) buckets (opening :: after)).filter
      fun t => decide (t < opening.now + windowMs)).length ≤ limiter.options.clientLimit

/-- A denied request is told to wait between a second and a minute. -/
def RetriesWithinMinute (calls : List ConsumeCall) : Prop :=
  ∀ before call after, calls = before ++ call :: after →
    ∀ seconds, (consume ctx limiter call (consumeAll ctx limiter .empty before)).2
      = some seconds → 1 ≤ seconds ∧ seconds ≤ 60

/-- The answers to other clients about other subjects are the same with the request `other`
and without it, as long as its client makes no request for the subject in question. -/
def Unaffected (before : List ConsumeCall) (other : ConsumeCall) (after : List ConsumeCall) :
    Prop :=
  ∀ middle call rest, after = middle ++ call :: rest →
    clientAddress ctx call.request ≠ clientAddress ctx other.request →
    subjectName ctx call.email ≠ subjectName ctx other.email →
    (∀ c ∈ before ++ middle, clientAddress ctx c.request = clientAddress ctx other.request →
      subjectName ctx c.email ≠ subjectName ctx call.email) →
    (consume ctx limiter call (consumeAll ctx limiter .empty (before ++ other :: middle))).2
      = (consume ctx limiter call (consumeAll ctx limiter .empty (before ++ middle))).2

/-! ### Keys -/

variable {ctx}

/-- Two requests share a client bucket exactly when they come from one address, as far as the
digest has no collision. -/
theorem clientKey_eq_iff (hdigest : Function.Injective ctx.digest)
    (request request' : LoginRequestContext) :
    clientKey ctx request = clientKey ctx request'
      ↔ clientAddress ctx request = clientAddress ctx request' := by
  unfold clientKey
  rw [hdigest.eq_iff, String.append_right_inj]

/-- Two requests of one limiter share a subject bucket exactly when they name one subject, as far
as the digest has no collision. -/
theorem subjectKey_eq_iff (hdigest : Function.Injective ctx.digest) (options : RateLimitOptions)
    (email email' : Option String) :
    subjectKey ctx options email = subjectKey ctx options email'
      ↔ subjectName ctx email = subjectName ctx email' := by
  unfold subjectKey
  rw [hdigest.eq_iff, String.append_right_inj]

/-- No namespace of a limiter begins like the keys of the clients. -/
theorem clientKey_ne_subjectKey (hdigest : Function.Injective ctx.digest)
    (request : LoginRequestContext) (email : Option String) :
    clientKey ctx request ≠ subjectKey ctx limiter.options email := by
  intro heq
  have hlists := congrArg String.toList (hdigest heq)
  rw [String.toList_append, String.toList_append, String.toList_append] at hlists
  cases limiter <;> · simp [RequestRateLimiter.options] at hlists

/-! ### A call -/

variable {limiter} {buckets : Buckets} {call : ConsumeCall}

/-- A bucket that is too full has time left. -/
theorem retry_pos (now : Int) (stored : Option Bucket) :
    0 < (WindowCounter.hit windowMs now stored).resetAt - now := by
  have := WindowCounter.now_lt_resetAt_hit (show 0 < windowMs by decide) now stored
  omega

/-- A call whose client is over its limit is denied by the client's bucket alone: the subject's
bucket is not touched, and the wait is the rest of the client's window. -/
theorem consume_of_stopped (hfew : buckets.size < maximumBuckets)
    (h : reachesSubject ctx limiter buckets call = false) :
    consume ctx limiter call buckets
      = (buckets.set (clientKey ctx call.request) (clientBucket ctx buckets call),
          some (ceilSeconds ((clientBucket ctx buckets call).resetAt - call.now))) := by
  have hstopped : ¬ (clientBucket ctx buckets call).count ≤ limiter.options.clientLimit :=
    of_decide_eq_false h
  have hover := Nat.not_le.mp hstopped
  have hretry : 0 < (clientBucket ctx buckets call).resetAt - call.now := retry_pos _ _
  unfold clientBucket at *
  simp only [consume, removeExpiredBuckets, if_pos hfew, consumeBucket, if_pos hover,
    if_pos hretry]

/-- A call whose client is within its limit: both buckets are written, and the subject's decides
about the answer. -/
theorem consume_of_reaches (hdigest : Function.Injective ctx.digest)
    (hfew : buckets.size < maximumBuckets)
    (h : reachesSubject ctx limiter buckets call = true) :
    consume ctx limiter call buckets
      = ((buckets.set (clientKey ctx call.request) (clientBucket ctx buckets call)).set
            (subjectKey ctx limiter.options call.email) (subjectBucket ctx limiter buckets call),
          if (subjectBucket ctx limiter buckets call).count ≤ limiter.options.subjectLimit then
            none
          else some (ceilSeconds ((subjectBucket ctx limiter buckets call).resetAt - call.now))) := by
  have hreached : (clientBucket ctx buckets call).count ≤ limiter.options.clientLimit :=
    of_decide_eq_true h
  have hwithin := Nat.not_lt.mpr hreached
  have hretry : 0 < (subjectBucket ctx limiter buckets call).resetAt - call.now := retry_pos _ _
  have hother := OrderedMap.get?_set_ne buckets (clientBucket ctx buckets call)
    (clientKey_ne_subjectKey limiter hdigest call.request call.email).symm
  unfold clientBucket at *
  unfold subjectBucket at *
  simp only [consume, removeExpiredBuckets, if_pos hfew, consumeBucket, if_neg hwithin,
    Int.lt_irrefl, if_false, hother]
  by_cases hover : limiter.options.subjectLimit < (WindowCounter.hit windowMs call.now
      (buckets.get? (subjectKey ctx limiter.options call.email))).count
  · rw [if_pos hover, if_pos hretry, if_neg (Nat.not_le.mpr hover)]
  · rw [if_neg hover, if_neg (Int.lt_irrefl 0), if_pos (Nat.not_lt.mp hover)]

/-- The bucket of a client after a call: it is hit by the calls of this client only, whether or not
they are allowed. -/
theorem get?_clientKey_consume (hdigest : Function.Injective ctx.digest)
    (hfew : buckets.size < maximumBuckets) (request : LoginRequestContext) :
    (consume ctx limiter call buckets).1.get? (clientKey ctx request)
      = if fromClient ctx (clientAddress ctx request) call = true then
          some (clientBucket ctx buckets call)
        else buckets.get? (clientKey ctx request) := by
  have hset : (buckets.set (clientKey ctx call.request) (clientBucket ctx buckets call)).get?
        (clientKey ctx request)
      = if fromClient ctx (clientAddress ctx request) call = true then
          some (clientBucket ctx buckets call)
        else buckets.get? (clientKey ctx request) := by
    rw [OrderedMap.get?_set]
    simp only [fromClient, decide_eq_true_eq, clientKey_eq_iff hdigest]
    simp only [eq_comm]
  cases h : reachesSubject ctx limiter buckets call with
  | false => rw [consume_of_stopped hfew h, hset]
  | true =>
      rw [consume_of_reaches hdigest hfew h]
      show (OrderedMap.set _ _ _).get? _ = _
      rw [OrderedMap.get?_set_ne _ _ (clientKey_ne_subjectKey limiter hdigest _ _), hset]

/-- The bucket of a subject after a call: it is hit by the calls that name this subject and have
passed the limit of their client. -/
theorem get?_subjectKey_consume (hdigest : Function.Injective ctx.digest)
    (hfew : buckets.size < maximumBuckets) (email : Option String) :
    (consume ctx limiter call buckets).1.get? (subjectKey ctx limiter.options email)
      = if (reachesSubject ctx limiter buckets call
            && naming ctx (subjectName ctx email) call) = true then
          some (subjectBucket ctx limiter buckets call)
        else buckets.get? (subjectKey ctx limiter.options email) := by
  have hother := OrderedMap.get?_set_ne buckets (clientBucket ctx buckets call)
    (clientKey_ne_subjectKey limiter hdigest call.request email).symm
  cases h : reachesSubject ctx limiter buckets call with
  | false =>
      rw [consume_of_stopped hfew h, Bool.false_and, if_neg Bool.false_ne_true]
      exact hother
  | true =>
      rw [consume_of_reaches hdigest hfew h, Bool.true_and]
      show (OrderedMap.set _ _ _).get? _ = _
      rw [OrderedMap.get?_set, hother]
      simp only [naming, decide_eq_true_eq, subjectKey_eq_iff hdigest]
      simp only [eq_comm]

/-! ### Calls one after the other -/

/-- The calls of two lists, one list after the other. -/
theorem consumeAll_append (buckets : Buckets) (calls calls' : List ConsumeCall) :
    consumeAll ctx limiter buckets (calls ++ calls')
      = consumeAll ctx limiter (consumeAll ctx limiter buckets calls) calls' := by
  induction calls generalizing buckets with
  | nil => rfl
  | cons call calls ih => exact ih _

/-- At the start of the calls fewer than `bound` buckets exist. -/
theorem Uncrowded.size_lt {bound : Nat} {calls : List ConsumeCall}
    (h : Uncrowded ctx limiter bound buckets calls) : buckets.size < bound := by
  cases calls with
  | nil => exact h
  | cons call calls => exact h.1

/-- Two parts of the calls, each with few buckets all the way, make calls with few buckets. -/
theorem Uncrowded.append {bound : Nat} {calls calls' : List ConsumeCall}
    (h : Uncrowded ctx limiter bound buckets calls)
    (h' : Uncrowded ctx limiter bound (consumeAll ctx limiter buckets calls) calls') :
    Uncrowded ctx limiter bound buckets (calls ++ calls') := by
  induction calls generalizing buckets with
  | nil => exact h'
  | cons call calls ih => exact ⟨h.1, ih h.2 h'⟩

/-- With few buckets during all of the calls, there are few during the first part and few during
the second, which starts from the buckets that the first part leaves. -/
theorem Uncrowded.after {bound : Nat} {calls calls' : List ConsumeCall}
    (h : Uncrowded ctx limiter bound buckets (calls ++ calls')) :
    Uncrowded ctx limiter bound buckets calls ∧
      Uncrowded ctx limiter bound (consumeAll ctx limiter buckets calls) calls' := by
  induction calls generalizing buckets with
  | nil => exact ⟨h.size_lt, h⟩
  | cons call calls ih =>
      obtain ⟨hcalls, hcalls'⟩ := ih h.2
      exact ⟨⟨h.1, hcalls⟩, hcalls'⟩

/-- The bucket of a client is the counter of its times. By induction on the calls, as long as
nothing is evicted. -/
theorem get?_clientKey_consumeAll (hdigest : Function.Injective ctx.digest)
    (request : LoginRequestContext) (calls : List ConsumeCall) (buckets : Buckets)
    (hfew : Uncrowded ctx limiter maximumBuckets buckets calls) :
    (consumeAll ctx limiter buckets calls).get? (clientKey ctx request)
      = WindowCounter.afterHits windowMs (buckets.get? (clientKey ctx request))
          (clientTimes ctx (clientAddress ctx request) calls) := by
  induction calls generalizing buckets with
  | nil => rfl
  | cons call calls ih =>
      show (consumeAll ctx limiter _ calls).get? _ = _
      rw [ih _ hfew.2, get?_clientKey_consume hdigest hfew.1]
      by_cases hfrom : fromClient ctx (clientAddress ctx request) call = true
      · have hkey : clientKey ctx request = clientKey ctx call.request :=
          (clientKey_eq_iff hdigest _ _).mpr (of_decide_eq_true hfrom).symm
        rw [if_pos hfrom, clientTimes, clientTimes, List.filter_cons_of_pos hfrom, List.map_cons,
          WindowCounter.afterHits, hkey]
        rfl
      · rw [if_neg hfrom, clientTimes, clientTimes, List.filter_cons_of_neg hfrom]

/-- The bucket of a subject is the counter of its times. By induction on the calls, as long as
nothing is evicted. -/
theorem get?_subjectKey_consumeAll (hdigest : Function.Injective ctx.digest)
    (email : Option String) (calls : List ConsumeCall) (buckets : Buckets)
    (hfew : Uncrowded ctx limiter maximumBuckets buckets calls) :
    (consumeAll ctx limiter buckets calls).get? (subjectKey ctx limiter.options email)
      = WindowCounter.afterHits windowMs (buckets.get? (subjectKey ctx limiter.options email))
          (subjectTimes ctx limiter (subjectName ctx email) buckets calls) := by
  induction calls generalizing buckets with
  | nil => rfl
  | cons call calls ih =>
      show (consumeAll ctx limiter _ calls).get? _ = _
      rw [ih _ hfew.2, get?_subjectKey_consume hdigest hfew.1, subjectTimes]
      by_cases hcounted : (reachesSubject ctx limiter buckets call
          && naming ctx (subjectName ctx email) call) = true
      · have hkey : subjectKey ctx limiter.options email
            = subjectKey ctx limiter.options call.email :=
          (subjectKey_eq_iff hdigest _ _ _).mpr
            (of_decide_eq_true (Bool.and_eq_true_iff.mp hcounted).2).symm
        rw [if_pos hcounted, if_pos hcounted, WindowCounter.afterHits, hkey]
        rfl
      · rw [if_neg hcounted, if_neg hcounted]

/-! ### The bounds -/

/-- A call that is allowed is an admitted hit of its subject. -/
theorem allowedTimes_naming_sublist (hdigest : Function.Injective ctx.digest)
    (email : Option String) (calls : List ConsumeCall) (buckets : Buckets)
    (hfew : Uncrowded ctx limiter maximumBuckets buckets calls) :
    (allowedTimes ctx limiter (naming ctx (subjectName ctx email)) buckets calls).Sublist
      (WindowCounter.admitted windowMs limiter.options.subjectLimit
        (buckets.get? (subjectKey ctx limiter.options email))
        (subjectTimes ctx limiter (subjectName ctx email) buckets calls)) := by
  induction calls generalizing buckets with
  | nil => exact List.Sublist.refl _
  | cons call calls ih =>
      have hrest := ih _ hfew.2
      rw [get?_subjectKey_consume hdigest hfew.1] at hrest
      rw [allowedTimes, subjectTimes]
      by_cases hnames : naming ctx (subjectName ctx email) call = true
      · have hkey : subjectKey ctx limiter.options email
            = subjectKey ctx limiter.options call.email :=
          (subjectKey_eq_iff hdigest _ _ _).mpr (of_decide_eq_true hnames).symm
        cases hreaches : reachesSubject ctx limiter buckets call with
        | false =>
            rw [hreaches, Bool.false_and, if_neg Bool.false_ne_true] at hrest
            have hanswer := congrArg Prod.snd (consume_of_stopped hfew.1 hreaches)
            rw [hnames, Bool.true_and, hanswer, Bool.false_and, if_neg Bool.false_ne_true]
            exact hrest
        | true =>
            rw [hreaches, hnames, Bool.and_self, if_pos rfl] at hrest
            rw [hnames, Bool.and_self, if_pos rfl, WindowCounter.admitted, hkey]
            show List.Sublist _ (if (subjectBucket ctx limiter buckets call).count ≤ _ then _ else _)
            have hanswer := congrArg Prod.snd (consume_of_reaches hdigest hfew.1 hreaches)
            rw [hanswer]
            by_cases hwithin : (subjectBucket ctx limiter buckets call).count
                ≤ limiter.options.subjectLimit
            · rw [if_pos hwithin, if_pos hwithin]
              exact hrest.cons_cons call.now
            · rw [if_neg hwithin, if_neg hwithin]
              exact hrest
      · -- The call names another subject and leaves this bucket.
        have hother := Bool.eq_false_iff.mpr hnames
        rw [hother, Bool.and_false, if_neg Bool.false_ne_true] at hrest ⊢
        rw [Bool.false_and, if_neg Bool.false_ne_true]
        exact hrest

/-- A call that is allowed is an admitted hit of its client. -/
theorem allowedTimes_fromClient_sublist (hdigest : Function.Injective ctx.digest)
    (request : LoginRequestContext) (calls : List ConsumeCall) (buckets : Buckets)
    (hfew : Uncrowded ctx limiter maximumBuckets buckets calls) :
    (allowedTimes ctx limiter (fromClient ctx (clientAddress ctx request)) buckets calls).Sublist
      (WindowCounter.admitted windowMs limiter.options.clientLimit
        (buckets.get? (clientKey ctx request))
        (clientTimes ctx (clientAddress ctx request) calls)) := by
  induction calls generalizing buckets with
  | nil => exact List.Sublist.refl _
  | cons call calls ih =>
      have hrest := ih _ hfew.2
      rw [get?_clientKey_consume hdigest hfew.1] at hrest
      rw [allowedTimes, clientTimes]
      by_cases hfrom : fromClient ctx (clientAddress ctx request) call = true
      · have hkey : clientKey ctx request = clientKey ctx call.request :=
          (clientKey_eq_iff hdigest _ _).mpr (of_decide_eq_true hfrom).symm
        rw [if_pos hfrom] at hrest
        rw [hfrom, Bool.true_and, List.filter_cons_of_pos hfrom, List.map_cons,
          WindowCounter.admitted, hkey]
        show List.Sublist _ (if (clientBucket ctx buckets call).count ≤ _ then _ else _)
        cases hreaches : reachesSubject ctx limiter buckets call with
        | false =>
            have hover : ¬ (clientBucket ctx buckets call).count ≤ limiter.options.clientLimit :=
              of_decide_eq_false hreaches
            have hanswer := congrArg Prod.snd (consume_of_stopped hfew.1 hreaches)
            rw [if_neg hover, hanswer]
            exact hrest
        | true =>
            rw [if_pos (of_decide_eq_true hreaches)]
            split
            · exact hrest.cons_cons call.now
            · exact hrest.cons call.now
      · -- The call comes from another client and leaves this bucket.
        rw [if_neg hfrom] at hrest
        rw [Bool.eq_false_iff.mpr hfrom, Bool.false_and, if_neg Bool.false_ne_true,
          List.filter_cons_of_neg hfrom]
        exact hrest

/-- From a counted request on, the times of a subject do not run backwards. -/
theorem subjectTimes_sublist (subject : String) (calls : List ConsumeCall) (buckets : Buckets) :
    (subjectTimes ctx limiter subject buckets calls).Sublist (calls.map ConsumeCall.now) := by
  induction calls generalizing buckets with
  | nil => exact List.Sublist.refl _
  | cons call calls ih =>
      rw [subjectTimes, List.map_cons]
      split
      · exact (ih _).cons_cons call.now
      · exact (ih _).cons call.now

/-- No subject is let through more often than its limit in a minute. What is let through under a
subject is among the hits that its counter admits (`allowedTimes_naming_sublist`), and the bound is
that of the counter from the request that opens the window. -/
theorem subjects_limited (hdigest : Function.Injective ctx.digest) (calls : List ConsumeCall)
    (hsorted : (calls.map ConsumeCall.now).Pairwise (· ≤ ·))
    (hfew : Uncrowded ctx limiter maximumBuckets .empty calls) :
    SubjectsLimited ctx limiter calls := by
  intro before opening after hcalls subject buckets hreaches hopens
  subst hcalls
  obtain ⟨hbefore, hafter⟩ := hfew.after
  -- The bucket of the subject before the opening call.
  have htracks : WindowCounter.Tracks windowMs
      (buckets.get? (subjectKey ctx limiter.options opening.email))
      (WindowCounter.windowStart windowMs none
        (subjectTimes ctx limiter subject .empty before)) := by
    rw [get?_subjectKey_consumeAll hdigest _ before _ hbefore]
    exact WindowCounter.tracks_afterHits _ rfl
  -- The opening call is the first of the times from here on.
  have htimes : subjectTimes ctx limiter subject buckets (opening :: after)
      = opening.now :: subjectTimes ctx limiter subject
          (consume ctx limiter opening buckets).1 after := by
    have hnames : naming ctx subject opening = true := decide_eq_true rfl
    rw [subjectTimes, hreaches, hnames, Bool.and_self, if_pos rfl]
  rw [List.map_append, List.pairwise_append] at hsorted
  have hlater : (subjectTimes ctx limiter subject buckets (opening :: after)).Pairwise (· ≤ ·) :=
    hsorted.2.1.sublist (subjectTimes_sublist _ _ _)
  rw [htimes] at hlater
  have hsub := allowedTimes_naming_sublist hdigest opening.email (opening :: after) buckets
    hafter
  have hbound := WindowCounter.length_admitted_of_opens limiter.options.subjectLimit
    htracks hlater hopens
  rw [← htimes] at hbound
  exact Nat.le_trans (hsub.filter _).length_le hbound

/-- No client is let through more often than its limit in a minute. The argument is that of
`subjects_limited`, with the bucket of the client, which every request of the client hits. -/
theorem clients_limited (hdigest : Function.Injective ctx.digest) (calls : List ConsumeCall)
    (hsorted : (calls.map ConsumeCall.now).Pairwise (· ≤ ·))
    (hfew : Uncrowded ctx limiter maximumBuckets .empty calls) :
    ClientsLimited ctx limiter calls := by
  intro before opening after hcalls address buckets hopens
  subst hcalls
  obtain ⟨hbefore, hafter⟩ := hfew.after
  -- Under the limit of buckets nothing is evicted, so the bucket of the client is the counter over
  -- its own calls.
  have htracks : WindowCounter.Tracks windowMs
      (buckets.get? (clientKey ctx opening.request))
      (WindowCounter.windowStart windowMs none (clientTimes ctx address before)) := by
    rw [get?_clientKey_consumeAll hdigest _ before _ hbefore]
    exact WindowCounter.tracks_afterHits _ rfl
  have htimes : clientTimes ctx address (opening :: after)
      = opening.now :: clientTimes ctx address after := by
    have hfrom : fromClient ctx address opening = true := decide_eq_true rfl
    rw [clientTimes, List.filter_cons_of_pos hfrom, List.map_cons]
    rfl
  rw [List.map_append, List.pairwise_append] at hsorted
  have hlater : (clientTimes ctx address (opening :: after)).Pairwise (· ≤ ·) :=
    hsorted.2.1.sublist (List.filter_sublist.map _)
  rw [htimes] at hlater
  have hsub := allowedTimes_fromClient_sublist hdigest opening.request (opening :: after)
    buckets hafter
  -- The general bound of a window, for the calls behind the one that opens it.
  have hbound := WindowCounter.length_admitted_of_opens limiter.options.clientLimit
    htracks hlater hopens
  rw [← htimes] at hbound
  exact Nat.le_trans (hsub.filter _).length_le hbound

/-! ### The time to wait -/

/-- No window ends later than a minute behind `now`. -/
def EndsWithinMinute (now : Int) (buckets : Buckets) : Prop :=
  ∀ key bucket, buckets.get? key = some bucket → bucket.resetAt ≤ now + windowMs

/-- With the time that passes, the windows end no later. -/
theorem EndsWithinMinute.mono {now now' : Int} (h : EndsWithinMinute now buckets)
    (hle : now ≤ now') : EndsWithinMinute now' buckets := by
  intro key bucket hbucket
  have := h key bucket hbucket
  omega

/-- A hit opens a window of a minute, or it leaves the end of the one that it counts in. -/
theorem EndsWithinMinute.set {now : Int} (h : EndsWithinMinute now buckets) (key key' : String) :
    EndsWithinMinute now
      (buckets.set key (WindowCounter.hit windowMs now (buckets.get? key'))) := by
  intro other bucket hbucket
  rw [OrderedMap.get?_set] at hbucket
  split at hbucket
  · cases hbucket
    exact WindowCounter.resetAt_hit_le fun counter hcounter => h key' counter hcounter
  · exact h other bucket hbucket

/-- Between a second and a minute. -/
theorem ceilSeconds_bounds {ms : Int} (hpos : 0 < ms) (hle : ms ≤ windowMs) :
    1 ≤ ceilSeconds ms ∧ ceilSeconds ms ≤ 60 := by
  unfold ceilSeconds
  have hminute : ms ≤ 60000 := hle
  omega

/-- A call hits one bucket or two, and each hit keeps the bound. -/
theorem endsWithinMinute_consume (hdigest : Function.Injective ctx.digest)
    (hfew : buckets.size < maximumBuckets) (h : EndsWithinMinute call.now buckets) :
    EndsWithinMinute call.now (consume ctx limiter call buckets).1 := by
  have hclient := h.set (clientKey ctx call.request) (clientKey ctx call.request)
  cases hreaches : reachesSubject ctx limiter buckets call with
  | false =>
      rw [consume_of_stopped hfew hreaches]
      exact hclient
  | true =>
      have hother := OrderedMap.get?_set_ne buckets (clientBucket ctx buckets call)
        (clientKey_ne_subjectKey limiter hdigest call.request call.email).symm
      have hsubject := hclient.set (subjectKey ctx limiter.options call.email)
        (subjectKey ctx limiter.options call.email)
      rw [consume_of_reaches hdigest hfew hreaches]
      unfold subjectBucket
      rw [← hother]
      exact hsubject

/-- A refused client is told to wait between one and sixty seconds. The end of the window is ahead,
because the hit was counted in it, and no more than a minute away. -/
theorem retry_bounds (hdigest : Function.Injective ctx.digest)
    (hfew : buckets.size < maximumBuckets) (h : EndsWithinMinute call.now buckets)
    {seconds : Int} (hdenied : (consume ctx limiter call buckets).2 = some seconds) :
    1 ≤ seconds ∧ seconds ≤ 60 := by
  have hbounds : ∀ key, 1 ≤ ceilSeconds
        ((WindowCounter.hit windowMs call.now (buckets.get? key)).resetAt - call.now) ∧
      ceilSeconds ((WindowCounter.hit windowMs call.now (buckets.get? key)).resetAt - call.now)
        ≤ 60 := by
    intro key
    refine ceilSeconds_bounds (retry_pos _ _) ?_
    have := WindowCounter.resetAt_hit_le fun counter hcounter => h key counter hcounter
    omega
  cases hreaches : reachesSubject ctx limiter buckets call with
  | false =>
      rw [consume_of_stopped hfew hreaches] at hdenied
      cases hdenied
      exact hbounds _
  | true =>
      rw [consume_of_reaches hdigest hfew hreaches] at hdenied
      simp only at hdenied
      split at hdenied
      · cases hdenied
      · cases hdenied
        exact hbounds _

/-- At a time `now` that is not before the calls, every bucket that they leave ends within a
minute. -/
theorem endsWithinMinute_consumeAll (hdigest : Function.Injective ctx.digest) (now : Int)
    (calls : List ConsumeCall) (buckets : Buckets)
    (hfew : Uncrowded ctx limiter maximumBuckets buckets calls)
    (hsorted : (calls.map ConsumeCall.now ++ [now]).Pairwise (· ≤ ·))
    (h : ∀ t ∈ calls.map ConsumeCall.now ++ [now], EndsWithinMinute t buckets) :
    EndsWithinMinute now (consumeAll ctx limiter buckets calls) := by
  induction calls generalizing buckets with
  | nil => exact h now List.mem_cons_self
  | cons call calls ih =>
      obtain ⟨hlater, hsorted⟩ := List.pairwise_cons.mp hsorted
      have hcall : EndsWithinMinute call.now (consume ctx limiter call buckets).1 :=
        endsWithinMinute_consume hdigest hfew.1 (h call.now List.mem_cons_self)
      exact ih _ hfew.2 hsorted fun t ht => hcall.mono (hlater t ht)

/-- In a run from the empty map every refusal names a wait between one and sixty seconds: no window
ends later than a minute behind the call (`endsWithinMinute_consumeAll`). -/
theorem retries_within_minute (hdigest : Function.Injective ctx.digest)
    (calls : List ConsumeCall) (hsorted : (calls.map ConsumeCall.now).Pairwise (· ≤ ·))
    (hfew : Uncrowded ctx limiter maximumBuckets .empty calls) :
    RetriesWithinMinute ctx limiter calls := by
  intro before call after hcalls seconds hdenied
  subst hcalls
  obtain ⟨hbefore, hafter⟩ := hfew.after
  have hprefixSorted : (before.map ConsumeCall.now ++ [call.now]).Pairwise (· ≤ ·) := by
    refine hsorted.sublist ?_
    rw [List.map_append, List.map_cons]
    exact ((List.nil_sublist _).cons_cons _).append_left _
  have hends := endsWithinMinute_consumeAll hdigest call.now before .empty hbefore hprefixSorted
    fun t _ key bucket hbucket => by cases hbucket
  exact retry_bounds hdigest hafter.size_lt hends hdenied

/-! ### Isolation -/

/-- The maps agree on the clients but one, and on one subject. -/
structure AgreeBut (ctx : RateLimitContext) (limiter : RequestRateLimiter)
    (address : String) (email : Option String) (buckets buckets' : Buckets) : Prop where
  clients : ∀ request, clientAddress ctx request ≠ address →
    buckets.get? (clientKey ctx request) = buckets'.get? (clientKey ctx request)
  subject : buckets.get? (subjectKey ctx limiter.options email)
    = buckets'.get? (subjectKey ctx limiter.options email)

variable {buckets' : Buckets} {address : String} {email : Option String}

/-- A call of the client itself, on one side only, leaves everything of other clients and of other
subjects alike. -/
theorem AgreeBut.consume_left (hdigest : Function.Injective ctx.digest)
    (h : AgreeBut ctx limiter address email buckets buckets')
    (hfew : buckets.size < maximumBuckets) (hclient : clientAddress ctx call.request = address)
    (hsubject : subjectName ctx call.email ≠ subjectName ctx email) :
    AgreeBut ctx limiter address email (consume ctx limiter call buckets).1 buckets' := by
  constructor
  · intro request hother
    have hfrom : fromClient ctx (clientAddress ctx request) call = false :=
      decide_eq_false fun heq => hother (heq.symm.trans hclient)
    rw [get?_clientKey_consume hdigest hfew, hfrom, if_neg Bool.false_ne_true]
    exact h.clients request hother
  · have hnames : naming ctx (subjectName ctx email) call = false := decide_eq_false hsubject
    rw [get?_subjectKey_consume hdigest hfew, hnames, Bool.and_false,
      if_neg Bool.false_ne_true]
    exact h.subject

/-- A call on both sides. The client itself makes none for the subject. -/
theorem AgreeBut.consume_both (hdigest : Function.Injective ctx.digest)
    (h : AgreeBut ctx limiter address email buckets buckets')
    (hfew : buckets.size < maximumBuckets) (hfew' : buckets'.size < maximumBuckets)
    (hnone : clientAddress ctx call.request = address →
      subjectName ctx call.email ≠ subjectName ctx email) :
    AgreeBut ctx limiter address email (consume ctx limiter call buckets).1
      (consume ctx limiter call buckets').1 := by
  -- A call of the client itself may go differently on the two sides. Each side then differs from
  -- before in the client's own bucket only.
  by_cases hclient : clientAddress ctx call.request = address
  · have hleft := h.consume_left hdigest hfew hclient (hnone hclient)
    have hflip : AgreeBut ctx limiter address email buckets'
        (consume ctx limiter call buckets).1 :=
      ⟨fun request hother => (hleft.clients request hother).symm, hleft.subject.symm⟩
    have hboth := hflip.consume_left hdigest hfew' hclient (hnone hclient)
    exact ⟨fun request hother => (hboth.clients request hother).symm, hboth.subject.symm⟩
  · have hbucket : clientBucket ctx buckets call = clientBucket ctx buckets' call := by
      unfold clientBucket
      rw [h.clients call.request hclient]
    have hreaches : reachesSubject ctx limiter buckets call
        = reachesSubject ctx limiter buckets' call := by
      unfold reachesSubject
      rw [hbucket]
    constructor
    · intro request hother
      rw [get?_clientKey_consume hdigest hfew, get?_clientKey_consume hdigest hfew', hbucket,
        h.clients request hother]
    · rw [get?_subjectKey_consume hdigest hfew, get?_subjectKey_consume hdigest hfew', hreaches,
        h.subject]
      by_cases hnames : naming ctx (subjectName ctx email) call = true
      · have hkey : subjectKey ctx limiter.options call.email
            = subjectKey ctx limiter.options email :=
          (subjectKey_eq_iff hdigest _ _ _).mpr (of_decide_eq_true hnames)
        unfold subjectBucket
        rw [hkey, h.subject]
      · rw [Bool.eq_false_iff.mpr hnames, Bool.and_false]
        rfl

/-- Maps that agree but for one client agree after further calls, as long as none of them is a call
of this client for the subject in question. By induction on the calls, with `AgreeBut.consume_both`
for one. -/
theorem AgreeBut.consumeAll (hdigest : Function.Injective ctx.digest)
    (calls : List ConsumeCall) {buckets buckets' : Buckets}
    (h : AgreeBut ctx limiter address email buckets buckets')
    (hfew : Uncrowded ctx limiter maximumBuckets buckets calls)
    (hfew' : Uncrowded ctx limiter maximumBuckets buckets' calls)
    (hnone : ∀ c ∈ calls, clientAddress ctx c.request = address →
      subjectName ctx c.email ≠ subjectName ctx email) :
    AgreeBut ctx limiter address email (consumeAll ctx limiter buckets calls)
      (consumeAll ctx limiter buckets' calls) := by
  induction calls generalizing buckets buckets' with
  | nil => exact h
  | cons call calls ih =>
      have hcall := h.consume_both hdigest hfew.1 hfew'.1 (hnone call List.mem_cons_self)
      exact ih hcall hfew.2 hfew'.2 fun c hc => hnone c (List.mem_cons_of_mem call hc)

/-- The answer depends on the buckets of the client and of the subject only. -/
theorem AgreeBut.answer_eq (hdigest : Function.Injective ctx.digest)
    (h : AgreeBut ctx limiter address call.email buckets buckets')
    (hfew : buckets.size < maximumBuckets) (hfew' : buckets'.size < maximumBuckets)
    (hclient : clientAddress ctx call.request ≠ address) :
    (consume ctx limiter call buckets).2 = (consume ctx limiter call buckets').2 := by
  have hbucket : clientBucket ctx buckets call = clientBucket ctx buckets' call := by
    unfold clientBucket
    rw [h.clients call.request hclient]
  have hsubject : subjectBucket ctx limiter buckets call
      = subjectBucket ctx limiter buckets' call := by
    unfold subjectBucket
    rw [h.subject]
  -- The subject is counted only when the client is within its limit, which both sides agree on.
  cases hreaches : reachesSubject ctx limiter buckets call with
  | false =>
      have hreaches' : reachesSubject ctx limiter buckets' call = false := by
        unfold reachesSubject at hreaches ⊢
        rw [← hbucket]
        exact hreaches
      rw [consume_of_stopped hfew hreaches, consume_of_stopped hfew' hreaches', hbucket]
  | true =>
      have hreaches' : reachesSubject ctx limiter buckets' call = true := by
        unfold reachesSubject at hreaches ⊢
        rw [← hbucket]
        exact hreaches
      rw [consume_of_reaches hdigest hfew hreaches, consume_of_reaches hdigest hfew' hreaches',
        hsubject]

/-- An inserted request of another client and another subject changes no later answer. It makes the
two maps differ in buckets that the later call does not look at (`AgreeBut.consume_left`), and the
calls between keep it that way. -/
theorem unaffected (hdigest : Function.Injective ctx.digest) (before : List ConsumeCall)
    (other : ConsumeCall) (after : List ConsumeCall)
    (hfew : Uncrowded ctx limiter maximumBuckets .empty (before ++ other :: after))
    (hfew' : Uncrowded ctx limiter maximumBuckets .empty (before ++ after)) :
    Unaffected ctx limiter before other after := by
  intro middle call rest hafter hclient hsubject hnone
  subst hafter
  -- Before the request the maps are the same, and it touches the client and the subject `T`.
  have hstart : AgreeBut ctx limiter (clientAddress ctx other.request) call.email
      (consumeAll ctx limiter .empty before) (consumeAll ctx limiter .empty before) :=
    ⟨fun _ _ => rfl, rfl⟩
  obtain ⟨-, hother⟩ := hfew.after
  obtain ⟨-, hwithout⟩ := hfew'.after
  obtain ⟨hmiddle, hcall⟩ := Uncrowded.after hother.2
  obtain ⟨hmiddle', hcall'⟩ := hwithout.after
  have hinserted := hstart.consume_left hdigest hother.1 rfl hsubject.symm
  have hagree := hinserted.consumeAll hdigest middle hmiddle hmiddle' fun c hc =>
    hnone c (List.mem_append_right before hc)
  rw [consumeAll_append, consumeAll_append]
  exact hagree.answer_eq hdigest hcall.size_lt hcall'.size_lt hclient

/-- The bounds and the isolation, while fewer than `maximumBuckets` buckets exist. -/
theorem rate_limit_exact_and_isolated (hdigest : Function.Injective ctx.digest)
    (calls : List ConsumeCall) (hsorted : (calls.map ConsumeCall.now).Pairwise (· ≤ ·))
    (hfew : Uncrowded ctx limiter maximumBuckets .empty calls) :
    SubjectsLimited ctx limiter calls ∧ ClientsLimited ctx limiter calls ∧
      RetriesWithinMinute ctx limiter calls ∧
      ∀ before other after, calls = before ++ other :: after →
        Uncrowded ctx limiter maximumBuckets .empty (before ++ after) →
        Unaffected ctx limiter before other after := by
  refine ⟨subjects_limited hdigest calls hsorted hfew, clients_limited hdigest calls hsorted hfew,
    retries_within_minute hdigest calls hsorted hfew, ?_⟩
  intro before other after hcalls hfew'
  exact unaffected hdigest before other after (hcalls ▸ hfew) hfew'

end

/-! ### A map that becomes full -/

/-- The limiter behind a trusted proxy. The texts below have no upper case. -/
def proxyContext : RateLimitContext where
  trustProxy := true
  digest := id
  text := { toLowerCase := id, toUpperCase := id }

/-- A request at the same time as all of the others. -/
def requestFrom (address email : String) : ConsumeCall where
  request := { forwardedFor := some (.text address) }
  email := some email
  now := 1000

/-- The name of a client and of a subject that no request has named before. -/
def freshName (n : Nat) : String := String.ofList (List.replicate (n + 1) 'x')

/-- One client uses its limit up, and 9998 other clients register an account each. -/
def usedUp : List ConsumeCall := List.replicate 6 (requestFrom "a" "s")
/-- Each of them has a name of its own, and registers an account of its own. -/
def otherClients (n : Nat) : List ConsumeCall :=
  (List.range n).map fun i => requestFrom (freshName i) (freshName i)

/-- The first client asks once more, and before that a new client registers an account. -/
def onceMore : ConsumeCall := requestFrom "a" "u"
/-- A client that no request has come from yet, for an account that none has named. -/
def newClient : ConsumeCall := requestFrom "b" "t"

/-- The entries that `n` other clients leave. -/
def entriesOfOthers (n : Nat) : List (String × Bucket) :=
  (List.range n).flatMap fun i =>
    [("client:" ++ freshName i, { count := 1, resetAt := 61000 }),
      ("account-creation:" ++ freshName i, { count := 1, resetAt := 61000 })]

/-- The entries of the first client. -/
def entriesOfFirst : List (String × Bucket) :=
  [("client:a", { count := 6, resetAt := 61000 }),
    ("account-creation:s", { count := 6, resetAt := 61000 })]

/-- No character of a fresh name is white space, and none is a comma. -/
theorem trim_freshName (n : Nat) : Js.trim (freshName n) = freshName n := by
  have hx : Js.isWhiteSpace 'x' = false := by decide
  have hdrop : (List.replicate (n + 1) 'x').dropWhile Js.isWhiteSpace
      = List.replicate (n + 1) 'x' := by
    rw [List.dropWhile_replicate, hx]
    rfl
  unfold Js.trim freshName
  rw [String.toList_ofList, hdrop, List.reverse_replicate, hdrop, List.reverse_replicate]

/-- The client behind the proxy is the one that the header names. Its name has no comma to be cut
at and no white space to be trimmed. -/
theorem clientAddress_freshName (n : Nat) (email : String) :
    clientAddress proxyContext (requestFrom (freshName n) email).request = freshName n := by
  have hcomma : (freshName n).toList.takeWhile (· ≠ ',') = List.replicate (n + 1) 'x' := by
    unfold freshName
    rw [String.toList_ofList, List.takeWhile_replicate]
    rfl
  have hne : freshName n ≠ "" := by
    intro h
    have hlists := congrArg String.toList h
    unfold freshName at hlists
    rw [String.toList_ofList] at hlists
    cases hlists
  have hfirst : Js.trim (String.ofList ((freshName n).toList.takeWhile (· ≠ ','))) = freshName n := by
    rw [hcomma]
    exact trim_freshName n
  have htruthy : Js.truthy (some (freshName n)) = some (freshName n) := by
    simp [Js.truthy, hne]
  simp only [clientAddress, requestFrom, firstForwarded, proxyContext, Option.bind_some,
    Option.map_some, hfirst, htruthy]

/-- The keys of a fresh client that registers a fresh account, with the identity for the digest. -/
theorem keys_freshName (n : Nat) :
    clientKey proxyContext (requestFrom (freshName n) (freshName n)).request
        = "client:" ++ freshName n ∧
      subjectKey proxyContext RequestRateLimiter.accountCreation.options
        (requestFrom (freshName n) (freshName n)).email = "account-creation:" ++ freshName n := by
  constructor
  · unfold clientKey
    rw [clientAddress_freshName]
    rfl
  · show "account-creation" ++ ":" ++ Js.trim (freshName n) = _
    rw [trim_freshName]
    rfl

/-- A request of a new client for a new subject, with room for both: it is allowed, and two buckets
are added at the end. -/
theorem consume_of_new {buckets : Buckets} {call : ConsumeCall} {client subject : String}
    (hfew : buckets.size < maximumBuckets) (hnow : call.now = 1000)
    (hclientKey : clientKey proxyContext call.request = client)
    (hsubjectKey : subjectKey proxyContext RequestRateLimiter.accountCreation.options call.email
      = subject)
    (hclient : client ∉ buckets.keys) (hsubject : subject ∉ buckets.keys) :
    (consume proxyContext .accountCreation call buckets).1.entries
        = buckets.entries ++ [(client, { count := 1, resetAt := 61000 }),
            (subject, { count := 1, resetAt := 61000 })] ∧
      (consume proxyContext .accountCreation call buckets).2 = none := by
  subst hclientKey
  subst hsubjectKey
  have hdigest : Function.Injective proxyContext.digest := Function.injective_id
  have hnoClient := (OrderedMap.get?_eq_none_iff _ _).mpr hclient
  have hnoSubject := (OrderedMap.get?_eq_none_iff _ _).mpr hsubject
  have hclientBucket : clientBucket proxyContext buckets call
      = { count := 1, resetAt := 61000 } := by
    unfold clientBucket
    rw [hnoClient, hnow]
    rfl
  have hsubjectBucket : subjectBucket proxyContext .accountCreation buckets call
      = { count := 1, resetAt := 61000 } := by
    unfold subjectBucket
    rw [hnoSubject, hnow]
    rfl
  have hreaches : reachesSubject proxyContext .accountCreation buckets call = true := by
    unfold reachesSubject
    rw [hclientBucket]
    rfl
  -- Both buckets are opened, so the client reaches its subject.
  rw [consume_of_reaches hdigest hfew hreaches, hclientBucket, hsubjectBucket]
  refine ⟨?_, rfl⟩
  have hentries := OrderedMap.entries_set_of_notMem buckets
    (v := { count := 1, resetAt := 61000 }) hclient
  have hkeys : subjectKey proxyContext RequestRateLimiter.accountCreation.options call.email
      ∉ (buckets.set (clientKey proxyContext call.request)
          ({ count := 1, resetAt := 61000 } : Bucket)).keys := by
    rw [← OrderedMap.get?_eq_none_iff, OrderedMap.get?_set_ne _ _
      (clientKey_ne_subjectKey _ hdigest _ _).symm]
    exact hnoSubject
  rw [OrderedMap.entries_set_of_notMem _ _ hkeys, hentries, List.append_assoc]
  rfl

/-- Each of the other clients leaves two buckets, its own and that of its account. -/
theorem length_entriesOfOthers (n : Nat) : (entriesOfOthers n).length = 2 * n := by
  induction n with
  | zero => rfl
  | succ n ih =>
      unfold entriesOfOthers at ih ⊢
      rw [List.range_succ, List.flatMap_append, List.length_append, ih]
      rfl

/-- Different numbers have different names, since the names differ in length. -/
theorem freshName_inj {m n : Nat} (h : freshName m = freshName n) : m = n := by
  have hlength := congrArg (fun s => s.toList.length) h
  simpa [freshName] using hlength

/-- The keys that the first client and `n` others leave. -/
theorem mem_keys_entries {n : Nat} {key : String} :
    key ∈ (entriesOfFirst ++ entriesOfOthers n).map Prod.fst ↔
      key = "client:a" ∨ key = "account-creation:s" ∨
        ∃ i < n, key = "client:" ++ freshName i ∨ key = "account-creation:" ++ freshName i := by
  simp only [entriesOfFirst, entriesOfOthers, List.map_append, List.map_cons, List.map_nil,
    List.mem_append, List.mem_cons, List.not_mem_nil, or_false, List.map_flatMap,
    List.mem_flatMap, List.mem_range, or_assoc]

/-- The next names are not among the keys: none of the names before them is the same. -/
theorem freshName_notMem (n : Nat) :
    "client:" ++ freshName n ∉ (entriesOfFirst ++ entriesOfOthers n).map Prod.fst ∧
      "account-creation:" ++ freshName n
        ∉ (entriesOfFirst ++ entriesOfOthers n).map Prod.fst := by
  rw [mem_keys_entries, mem_keys_entries]
  constructor
  · rintro (h | h | ⟨i, hi, h | h⟩)
    · have hlists := congrArg String.toList h
      simp [freshName, List.replicate_succ] at hlists
    · have hlists := congrArg String.toList h
      simp at hlists
    · have := freshName_inj (String.append_right_inj _ |>.mp h)
      omega
    · have hlists := congrArg String.toList h
      simp at hlists
  · rintro (h | h | ⟨i, hi, h | h⟩)
    · have hlists := congrArg String.toList h
      simp at hlists
    · have hlists := congrArg String.toList h
      simp [freshName, List.replicate_succ] at hlists
    · have hlists := congrArg String.toList h
      simp at hlists
    · have := freshName_inj (String.append_right_inj _ |>.mp h)
      omega

/-- The other clients register their accounts. Each of them is new, finds room, and adds its two
buckets at the end. -/
theorem otherClients_entries {buckets : Buckets} (hfirst : buckets.entries = entriesOfFirst)
    (n : Nat) (hn : n ≤ 9998) :
    (consumeAll proxyContext .accountCreation buckets (otherClients n)).entries
        = entriesOfFirst ++ entriesOfOthers n ∧
      Uncrowded proxyContext .accountCreation (maximumBuckets - 1) buckets (otherClients n) := by
  -- Induction on the number of clients: each is new, has room, and adds its two buckets at the end.
  induction n with
  | zero =>
      refine ⟨hfirst, ?_⟩
      show buckets.entries.length < _
      rw [hfirst]
      decide
  | succ n ih =>
      obtain ⟨hentries, hfew⟩ := ih (by omega)
      have hsplit : otherClients (n + 1)
          = otherClients n ++ [requestFrom (freshName n) (freshName n)] := by
        unfold otherClients
        rw [List.range_succ, List.map_append]
        rfl
      have hlength : (consumeAll proxyContext .accountCreation buckets (otherClients n)).size
          = 2 + 2 * n := by
        show List.length _ = _
        rw [hentries, List.length_append, length_entriesOfOthers]
        rfl
      have hroom : maximumBuckets = 20000 := rfl
      obtain ⟨hclient, hsubject⟩ := freshName_notMem n
      rw [← hentries] at hclient hsubject
      obtain ⟨hclientKey, hsubjectKey⟩ := keys_freshName n
      obtain ⟨hnew, -⟩ := consume_of_new (by omega) rfl hclientKey hsubjectKey hclient hsubject
      have hnext : (consume proxyContext .accountCreation
          (requestFrom (freshName n) (freshName n))
          (consumeAll proxyContext .accountCreation buckets (otherClients n))).1.entries
            = entriesOfFirst ++ entriesOfOthers (n + 1) := by
        rw [hnew, hentries, List.append_assoc]
        unfold entriesOfOthers
        rw [List.range_succ, List.flatMap_append]
        rfl
      rw [hsplit, consumeAll_append]
      refine ⟨hnext, hfew.append ⟨by omega, ?_⟩⟩
      show List.length (consume _ _ _ _).1.entries < _
      rw [hnext, List.length_append, length_entriesOfOthers]
      show 2 + 2 * (n + 1) < 19999
      omega

/-- The first client leaves its two buckets, with six hits each, and the map is nowhere near full.
-/
theorem usedUp_entries :
    (consumeAll proxyContext .accountCreation .empty usedUp).entries = entriesOfFirst ∧
      Uncrowded proxyContext .accountCreation (maximumBuckets - 1) .empty usedUp := by
  decide +kernel

/-- The map after the requests of `n` other clients. -/
def crowdedBy (n : Nat) : Buckets :=
  consumeAll proxyContext .accountCreation .empty (usedUp ++ otherClients n)

section
variable {n : Nat}

/-- The first client and `n` others leave their buckets in the order of the calls, and up to 9998
others the map does not become full on the way. -/
theorem crowdedBy_entries (hn : n ≤ 9998) :
    (crowdedBy n).entries = entriesOfFirst ++ entriesOfOthers n ∧
      Uncrowded proxyContext .accountCreation (maximumBuckets - 1) .empty
        (usedUp ++ otherClients n) := by
  obtain ⟨hentries, hfew⟩ := otherClients_entries usedUp_entries.1 n hn
  refine ⟨?_, usedUp_entries.2.append hfew⟩
  unfold crowdedBy
  rw [consumeAll_append]
  exact hentries

/-- The number of buckets: two of the first client and two of each other one. -/
theorem size_crowdedBy (hn : n ≤ 9998) : (crowdedBy n).size = 2 + 2 * n := by
  show (crowdedBy n).entries.length = _
  rw [(crowdedBy_entries hn).1, List.length_append, length_entriesOfOthers]
  rfl

/-- With at most 9998 others there is room for one more bucket. -/
theorem size_crowdedBy_lt (hn : n ≤ 9998) : (crowdedBy n).size < maximumBuckets := by
  rw [size_crowdedBy hn]
  show 2 + 2 * n < 20000
  omega

/-- Without the new client, the first one is over its limit: its bucket is still there, and counts
one more. -/
theorem onceMore_denied (hn : n ≤ 9998) :
    (consume proxyContext .accountCreation onceMore (crowdedBy n)).2 = some 60 ∧
      (consume proxyContext .accountCreation onceMore (crowdedBy n)).1.size = 2 + 2 * n := by
  have hstored : (crowdedBy n).get? "client:a" = some { count := 6, resetAt := 61000 } := by
    rw [OrderedMap.get?_eq_some_iff, (crowdedBy_entries hn).1]
    exact List.mem_cons_self
  have hkey : clientKey proxyContext onceMore.request = "client:a" := by decide +kernel
  have hbucket : clientBucket proxyContext (crowdedBy n) onceMore
      = { count := 7, resetAt := 61000 } := by
    unfold clientBucket
    rw [hkey, hstored]
    rfl
  have hstopped : reachesSubject proxyContext .accountCreation (crowdedBy n) onceMore = false := by
    unfold reachesSubject
    rw [hbucket]
    rfl
  rw [consume_of_stopped (size_crowdedBy_lt hn) hstopped, hbucket, hkey]
  refine ⟨rfl, ?_⟩
  -- The bucket is written in its place.
  have hmem : "client:a" ∈ (crowdedBy n).keys := (OrderedMap.mem_keys_iff _ _).mpr ⟨_, hstored⟩
  rw [← size_crowdedBy hn]
  unfold OrderedMap.set
  rw [dif_pos hmem]
  exact List.length_map _

/-- No other client has one of these names: theirs contain a letter that these have not. -/
theorem notMem_keys_entries (n : Nat) (name : String) (hname : 'x' ∉ name.toList)
    (hfirst : name ≠ "a" ∧ name ≠ "s") :
    "client:" ++ name ∉ (entriesOfFirst ++ entriesOfOthers n).map Prod.fst ∧
      "account-creation:" ++ name ∉ (entriesOfFirst ++ entriesOfOthers n).map Prod.fst := by
  have hfresh : ∀ i, name ≠ freshName i := by
    rintro i rfl
    exact hname (by simp [freshName])
  rw [mem_keys_entries, mem_keys_entries]
  constructor
  · rintro (h | h | ⟨i, hi, h | h⟩)
    · exact hfirst.1 ((String.append_right_inj "client:").mp h)
    · have hlists := congrArg String.toList h
      simp at hlists
    · exact hfresh i ((String.append_right_inj _).mp h)
    · have hlists := congrArg String.toList h
      simp at hlists
  · rintro (h | h | ⟨i, hi, h | h⟩)
    · have hlists := congrArg String.toList h
      simp at hlists
    · exact hfirst.2 ((String.append_right_inj "account-creation:").mp h)
    · have hlists := congrArg String.toList h
      simp at hlists
    · exact hfresh i ((String.append_right_inj _).mp h)

/-- The entries of the new client. -/
def entriesOfNew : List (String × Bucket) :=
  [("client:b", { count := 1, resetAt := 61000 }),
    ("account-creation:t", { count := 1, resetAt := 61000 })]

/-- The new client has two buckets behind all that are there. -/
theorem newClient_entries (hn : n ≤ 9998) :
    (consume proxyContext .accountCreation newClient (crowdedBy n)).1.entries
      = entriesOfFirst ++ entriesOfOthers n ++ entriesOfNew := by
  have hclient := (notMem_keys_entries n "b" (by decide) (by decide)).1
  have hsubject := (notMem_keys_entries n "t" (by decide) (by decide)).2
  rw [← (crowdedBy_entries hn).1] at hclient hsubject
  have hclientKey : clientKey proxyContext newClient.request = "client:b" := by decide +kernel
  have hsubjectKey : subjectKey proxyContext RequestRateLimiter.accountCreation.options
      newClient.email = "account-creation:t" := by decide +kernel
  rw [(consume_of_new (size_crowdedBy_lt hn) rfl hclientKey hsubjectKey hclient hsubject).1,
    (crowdedBy_entries hn).1]
  rfl

/-- A map with one entry too many loses its oldest one. -/
theorem withoutOldest_of_full {entry : String × Bucket} {entries : List (String × Bucket)}
    (hfull : (entry :: entries).length = maximumBuckets) :
    withoutOldest (entry :: entries) = entries := by
  have hroom : ¬ maximumBuckets ≤ entries.length := by
    rw [List.length_cons] at hfull
    omega
  rw [withoutOldest, if_pos (Nat.le_of_eq hfull.symm)]
  cases entries with
  | nil => rfl
  | cons next entries => rw [withoutOldest, if_neg hroom]

/-- A full map loses its oldest key, and with it the bucket of the first client. -/
theorem removeExpiredBuckets_full {buckets : Buckets} (hn : n = 9998)
    (hfull : buckets.entries = entriesOfFirst ++ entriesOfOthers n ++ entriesOfNew) :
    (removeExpiredBuckets buckets 1000).entries
      = ("account-creation:s", { count := 6, resetAt := 61000 })
        :: (entriesOfOthers n ++ entriesOfNew) := by
  have hlength : buckets.entries.length = 20000 := by
    rw [hfull, List.length_append, List.length_append, length_entriesOfOthers, hn]
    rfl
  have hroom : ¬ buckets.size < maximumBuckets := by
    show ¬ buckets.entries.length < 20000
    omega
  have hrunning : ∀ entry ∈ buckets.entries, (1000 : Int) < entry.2.resetAt := by
    intro entry hentry
    rw [hfull] at hentry
    simp only [entriesOfFirst, entriesOfOthers, entriesOfNew, List.mem_append, List.mem_cons,
      List.not_mem_nil, or_false, List.mem_flatMap] at hentry
    rcases hentry with ((rfl | rfl) | ⟨i, -, rfl | rfl⟩) | rfl | rfl <;>
      exact (by decide : (1000 : Int) < 61000)
  unfold removeExpiredBuckets
  rw [if_neg hroom]
  show withoutOldest (buckets.entries.filter _) = _
  rw [List.filter_eq_self.mpr fun entry hentry => decide_eq_true (hrunning entry hentry)]
  rw [hfull] at hlength ⊢
  exact withoutOldest_of_full hlength

/-- To remove the expired buckets beforehand changes nothing, because `consume` removes them itself
before it counts. -/
theorem consume_removeExpiredBuckets {buckets : Buckets} (call : ConsumeCall)
    (hfew : (removeExpiredBuckets buckets call.now).size < maximumBuckets) :
    consume proxyContext .accountCreation call (removeExpiredBuckets buckets call.now)
      = consume proxyContext .accountCreation call buckets := by
  have hidem : removeExpiredBuckets (removeExpiredBuckets buckets call.now) call.now
      = removeExpiredBuckets buckets call.now := if_pos hfew
  unfold consume
  rw [hidem]

/-- With the new client, the first one is allowed again: its bucket was the oldest, and is the one
that was evicted. -/
theorem onceMore_allowed (hn : n = 9998) :
    (consume proxyContext .accountCreation onceMore
      (consume proxyContext .accountCreation newClient (crowdedBy n)).1).2 = none := by
  have hfull := newClient_entries (Nat.le_of_eq hn)
  have hentries := removeExpiredBuckets_full hn hfull
  have hfew : (removeExpiredBuckets (consume proxyContext .accountCreation newClient
      (crowdedBy n)).1 onceMore.now).size < maximumBuckets := by
    show List.length (removeExpiredBuckets _ 1000).entries < 20000
    rw [hentries, List.length_cons, List.length_append, length_entriesOfOthers, hn]
    decide
  have hkeys := (consume proxyContext .accountCreation newClient (crowdedBy n)).1.nodup
  rw [hfull] at hkeys
  rw [← consume_removeExpiredBuckets onceMore hfew]
  have hclientKey : clientKey proxyContext onceMore.request = "client:a" := by decide +kernel
  have hsubjectKey : subjectKey proxyContext RequestRateLimiter.accountCreation.options
      onceMore.email = "account-creation:u" := by decide +kernel
  -- The bucket of the first client was the oldest, and is the one that was evicted.
  refine (consume_of_new hfew rfl hclientKey hsubjectKey ?_ ?_).2
  · show "client:a" ∉ (removeExpiredBuckets _ 1000).entries.map Prod.fst
    rw [hentries]
    exact (List.nodup_cons.mp hkeys).1
  · show "account-creation:u" ∉ (removeExpiredBuckets _ 1000).entries.map Prod.fst
    rw [hentries]
    intro hmem
    have hmem' : "account-creation:u"
        ∈ (entriesOfFirst ++ entriesOfOthers n ++ entriesOfNew).map Prod.fst :=
      List.mem_cons_of_mem _ hmem
    rw [List.map_append, List.mem_append] at hmem'
    rcases hmem' with hmem' | hmem'
    · exact (notMem_keys_entries n "u" (by decide) (by decide)).2 hmem'
    · exact absurd hmem' (by decide)

/-- All requests of the example are made at one time, so that no bucket expires between them. -/
theorem now_of_mem_requests {c : ConsumeCall}
    (h : c ∈ usedUp ++ otherClients n ++ [onceMore]) : c.now = 1000 := by
  rcases List.mem_append.mp h with h | h
  · rcases List.mem_append.mp h with h | h
    · rw [List.eq_of_mem_replicate h]
      rfl
    · obtain ⟨i, -, rfl⟩ := List.mem_map.mp h
      rfl
  · rw [List.mem_singleton.mp h]
    rfl

/-- None of them is made by the new client. -/
theorem client_of_mem_requests {c : ConsumeCall} (h : c ∈ usedUp ++ otherClients n) :
    clientAddress proxyContext c.request ≠ clientAddress proxyContext newClient.request := by
  have hnew : clientAddress proxyContext newClient.request = "b" := by decide +kernel
  rw [hnew]
  rcases List.mem_append.mp h with h | h
  · rw [List.eq_of_mem_replicate h]
    decide +kernel
  · obtain ⟨i, -, rfl⟩ := List.mem_map.mp h
    rw [clientAddress_freshName]
    intro heq
    have hlists := congrArg String.toList heq
    simp [freshName, List.replicate_succ] at hlists

/-- With 9998 others the inserted request changes the answer. The first client is refused without
it. With it the map is full, the bucket of the first client is the oldest and is dropped, and the
client is let through. -/
theorem insertion_changes_answer (hn : n = 9998) :
    ((usedUp ++ otherClients n ++ [onceMore]).map ConsumeCall.now).Pairwise (· ≤ ·) ∧
      Uncrowded proxyContext .accountCreation (maximumBuckets - 1) .empty
        (usedUp ++ otherClients n ++ [onceMore]) ∧
      ¬ Unaffected proxyContext .accountCreation (usedUp ++ otherClients n) newClient
        [onceMore] := by
  have hle := Nat.le_of_eq hn
  refine ⟨?_, (crowdedBy_entries hle).2.append ⟨?_, ?_⟩, ?_⟩
  · refine List.pairwise_of_forall_mem_list fun t ht t' ht' => ?_
    obtain ⟨c, hc, rfl⟩ := List.mem_map.mp ht
    obtain ⟨c', hc', rfl⟩ := List.mem_map.mp ht'
    exact Int.le_of_eq ((now_of_mem_requests hc).trans (now_of_mem_requests hc').symm)
  · show (crowdedBy n).size < 19999
    rw [size_crowdedBy hle]
    omega
  · show (consume _ _ _ (crowdedBy n)).1.size < 19999
    rw [(onceMore_denied hle).2]
    omega
  -- The same request is answered in two ways, with the new client before it and without.
  · intro hsame
    have hanswers := hsame [] onceMore [] rfl (by decide +kernel) (by decide +kernel)
      fun c hc hclient => by
        rw [List.append_nil] at hc
        exact absurd hclient (client_of_mem_requests hc)
    rw [consumeAll_append, List.append_nil] at hanswers
    have hdifferent : (none : Option Int) = some 60 :=
      ((onceMore_allowed hn).symm.trans hanswers).trans (onceMore_denied hle).1
    cases hdifferent

end

/-- Fewer than `maximumBuckets - 1` buckets exist without the new client. With it, another
client gets another answer. -/
theorem inserted_request_resets_client :
    ((usedUp ++ otherClients 9998 ++ [onceMore]).map ConsumeCall.now).Pairwise (· ≤ ·) ∧
      Uncrowded proxyContext .accountCreation (maximumBuckets - 1) .empty
        (usedUp ++ otherClients 9998 ++ [onceMore]) ∧
      ¬ Unaffected proxyContext .accountCreation (usedUp ++ otherClients 9998) newClient
        [onceMore] :=
  insertion_changes_answer rfl

/-- The bounds at a client that is denied: it has used up its requests and has to wait for the
whole minute. -/
theorem rate_limit_exact_and_isolated_denied :
    (consume proxyContext .accountCreation onceMore
        (consumeAll proxyContext .accountCreation .empty usedUp)).2 = some 60 ∧
      SubjectsLimited proxyContext .accountCreation (usedUp ++ [onceMore]) ∧
      ClientsLimited proxyContext .accountCreation (usedUp ++ [onceMore]) ∧
      RetriesWithinMinute proxyContext .accountCreation (usedUp ++ [onceMore]) ∧
      ∀ before other after, usedUp ++ [onceMore] = before ++ other :: after →
        Uncrowded proxyContext .accountCreation maximumBuckets .empty (before ++ after) →
        Unaffected proxyContext .accountCreation before other after :=
  ⟨by decide +kernel, rate_limit_exact_and_isolated Function.injective_id (usedUp ++ [onceMore])
    (by decide +kernel) (by decide +kernel)⟩

end Dcvp.Proofs
