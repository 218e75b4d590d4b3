import Dcvp.Lib.Obligations
import Dcvp.Proofs.ControllerStatements
import Dcvp.Proofs.ServiceAnswers
import Dcvp.Proofs.SessionStores

/-!
# `Dcvp.Proofs.ControllerSegments`: what the controller does to the registry

The segments of `controllerProgram` run segments of `AuthService`, so the facts of
`SessionRevocation` and `SessionStores` carry over. `controllerOutline` has what is known in
every state: sessions are owned, the token of a call in flight was stored at some time, and a
service call or a refresh makes only the statements of its method.

A call that has changed an account still has to act on the registry. `revokes` names the user whose
sessions it will end, and `refreshes` names the token whose session it will read again. Either
way it `Renews` the session. `renews_execute` and `controllerResume_leaves` say what becomes of
this task in a move: the call does it, or keeps it, or it is a refresh that ends without a write.
-/

set_option autoImplicit false

namespace Dcvp.Proofs

open Dcvp.Lib
open Dcvp.Services
open Dcvp.Modules.AdminUsersController
open Dcvp.Shared (AuthSession User)

/-! ### Segments inside segments -/

section
variable {ctx : AuthContext} {token : Option String} {method : Method} {value : AccountValue}
  {memory : AuthMemory} {seg : AuthSegment} {pc : ControllerWaiting}

/-- The controller hands a segment of `AuthService` on, with its memory. -/
theorem ofAuth_fst (seg : AuthSegment) : (ofAuth seg).1 = seg.1 := by
  obtain ⟨m, o⟩ := seg
  cases o <;> rfl

/-- So it does with a segment of the refresh behind an acceptance. -/
theorem ofRefresh_fst (value : AccountValue) (seg : AuthSegment) :
    (ofRefresh value seg).1 = seg.1 := by
  obtain ⟨m, o⟩ := seg
  cases o with
  | suspended pc => rfl
  | finished result => cases result <;> rfl

/-- A segment of an account service has no part in the registry. -/
theorem ofService_fst (o : Outcome AccountWaiting AccountResult) :
    (ofService memory token method o).1 = memory := by
  cases o with
  | suspended pc => rfl
  | finished result => cases result <;> rfl

/-- A segment of `me` may be followed by the first one of the service call, which leaves the
registry. -/
theorem ofMe_fst (seg : AuthSegment) : (ofMe ctx token method seg).1 = seg.1 := by
  obtain ⟨m, o⟩ := seg
  cases o with
  | suspended pc => rfl
  | finished result =>
      cases result with
      | error error => rfl
      | ok session =>
          cases session with
          | none => rfl
          | some session => exact ofService_fst _

/-- A call that waits behind a segment of `AuthService` waits for the statement of that segment. -/
theorem ofAuth_suspended (h : (ofAuth seg).2 = .suspended pc) :
    ∃ pc', seg.2 = .suspended pc' ∧ pc = .auth pc' := by
  obtain ⟨m, o⟩ := seg
  cases o with
  | suspended pc' => cases h; exact ⟨pc', rfl, rfl⟩
  | finished result => cases h

/-- So does one behind a segment of the refresh, and it keeps the value that it is going to answer.
-/
theorem ofRefresh_suspended (h : (ofRefresh value seg).2 = .suspended pc) :
    ∃ pc', seg.2 = .suspended pc' ∧ pc = .inRefresh value pc' := by
  obtain ⟨m, o⟩ := seg
  cases o with
  | suspended pc' => cases h; exact ⟨pc', rfl, rfl⟩
  | finished result => cases result <;> cases h

/-- A call behind a segment of an account service waits for its next statement, or for the turn in
which the service returns. -/
theorem ofService_suspended {o : Outcome AccountWaiting AccountResult}
    (h : (ofService memory token method o).2 = .suspended pc) :
    (∃ pc', o = .suspended pc' ∧ pc = .inService token method pc') ∨
      ∃ value, o = .finished (.ok value) ∧ pc = .serviceReturns token method value := by
  cases o with
  | suspended pc' => cases h; exact Or.inl ⟨pc', rfl, rfl⟩
  | finished result =>
      cases result with
      | error error => cases h
      | ok value => cases h; exact Or.inr ⟨value, rfl, rfl⟩

/-- A call behind a segment of `me` waits for the next statement of `me`. Once the session is
there, it waits as the service call does. -/
theorem ofMe_suspended (h : (ofMe ctx token method seg).2 = .suspended pc) :
    (∃ pc', seg.2 = .suspended pc' ∧ pc = .inMe token method pc') ∨
      ∃ session, (ofService seg.1 token method
        (accountSegment ctx (serviceCall session method))).2 = .suspended pc := by
  obtain ⟨m, o⟩ := seg
  cases o with
  | suspended pc' => cases h; exact Or.inl ⟨pc', rfl, rfl⟩
  | finished result =>
      cases result with
      | error error => cases h
      | ok session =>
          cases session with
          | none => cases h
          | some session => exact Or.inr ⟨session, h⟩

end

/-! ### What is known of the calls in flight -/

/-- The operation of `AuthService` that a call waits for. -/
def authWaiting : ControllerWaiting → Option AuthWaiting
  | .auth pc | .inMe _ _ pc | .inRefresh _ pc => some pc
  | _ => none

/-- The reply that a call goes on with in `AuthService`. -/
def authReply : ControllerReady → Option AuthReady
  | .auth reply | .inMe _ _ reply | .inRefresh _ reply => some reply
  | _ => none

/-- The statement belongs to the method of its call. -/
def WaitingServes : ControllerWaiting → Prop
  | .inService _ method pc => Serves method pc
  | .inRefresh _ pc => Refreshing pc
  | _ => True

/-- The reply belongs to the method of its call. -/
def ReadyServes : ControllerReady → Prop
  | .inService _ method (.answered reply) => Served method reply
  | .inRefresh _ reply => Refreshed reply
  | _ => True

/-- What a suspended call may assume: its token was stored at some time, and it keeps to its
method. -/
def WaitsOn (m : AuthMemory) (pc : ControllerWaiting) : Prop :=
  (∀ token, (authWaiting pc).bind waitingToken = some token → Known m.registry token) ∧
    WaitingServes pc

@[inherit_doc WaitsOn]
def GoesOn (m : AuthMemory) (ready : ControllerReady) : Prop :=
  (∀ token, (authReply ready).bind readyToken = some token → Known m.registry token) ∧
    ReadyServes ready

/-- Sessions are owned, and what the calls in flight may assume. -/
def controllerOutline : Outline AuthMemory Database ControllerWaiting ControllerReady where
  Inv m _ := SessionsOwned m
  Waits pc m _ := WaitsOn m pc
  Holds ready m _ := GoesOn m ready

section
variable {ctx : AuthContext} {input : ControllerInput} {m m' : AuthMemory}
  {o : Outcome ControllerWaiting ControllerResult}

/-- An operation of `AuthService` keeps the token of its call, or drops it. -/
theorem authOperation_token {pc : AuthWaiting} {reply : AuthReady} {input : AuthInput}
    {db db' : Database} (h : authOperation ctx pc input db = some (db', reply)) {token : String}
    (htoken : readyToken reply = some token) : waitingToken pc = some token := by
  cases pc with
  | otherStatement write => cases h
  | _ => exact execute_token ctx input _ db db' reply h token htoken

/-- A call that waits in `AuthService` gets the reply of its operation. -/
theorem authOperation_of_execute {pc : ControllerWaiting} {pc' : AuthWaiting}
    {ready : ControllerReady} {db db' : Database} (hpc : authWaiting pc = some pc')
    (h : controllerExecute ctx pc input db = some (db', ready)) :
    ∃ reply, authOperation ctx pc' input.auth db = some (db', reply) ∧
      authReply ready = some reply := by
  cases pc with
  | auth pc =>
      obtain ⟨⟨d, reply⟩, hop, heq⟩ := Option.map_eq_some_iff.mp h
      cases hpc
      cases heq
      exact ⟨reply, hop, rfl⟩
  | inMe bearer method pc =>
      obtain ⟨⟨d, reply⟩, hop, heq⟩ := Option.map_eq_some_iff.mp h
      cases hpc
      cases heq
      exact ⟨reply, hop, rfl⟩
  | inRefresh value pc =>
      obtain ⟨⟨d, reply⟩, hop, heq⟩ := Option.map_eq_some_iff.mp h
      cases hpc
      cases heq
      exact ⟨reply, hop, rfl⟩
  | _ => cases hpc

/-- The operations of a refresh get the replies of a refresh. A reply without the token is a
failure. -/
theorem refreshed_of_operation {pc : AuthWaiting} {reply : AuthReady} {input : AuthInput}
    {db db' : Database} (hpc : Refreshing pc)
    (h : authOperation ctx pc input db = some (db', reply)) :
    Refreshed reply ∧
      (readyToken reply = waitingToken pc ∨ ∃ error, reply = .failed error) := by
  have hmarks : ∀ {caller : MeCaller} {session : AuthSession} {userId : String}
      {result : Except ServiceException (Database × UserRow)}, caller = .refreshSession →
      settle db .failed (fun r => (r.1, .meMarked caller session)) result = (db', reply) →
      Refreshed reply ∧
        (readyToken reply = waitingToken (.meMarks caller session userId) ∨
          ∃ error, reply = .failed error) := by
    rintro caller session userId result rfl hsettle
    cases result with
    | error error => cases hsettle; exact ⟨trivial, Or.inr ⟨error, rfl⟩⟩
    | ok r => cases hsettle; exact ⟨trivial, Or.inl rfl⟩
  -- A refresh makes no statement of another program.
  have hexec : authExecute ctx pc input db = some (db', reply) := by
    cases pc with
    | otherStatement write => cases h
    | _ => exact h
  unfold authExecute at hexec
  split at hexec
  · cases hexec
    cases pc with
    | meReads caller session => exact ⟨trivial, Or.inr ⟨_, rfl⟩⟩
    | meMarks caller session userId => exact ⟨trivial, Or.inr ⟨_, rfl⟩⟩
    | meReturns caller session => exact ⟨trivial, Or.inr ⟨_, rfl⟩⟩
    | refreshReads session => exact ⟨trivial, Or.inr ⟨_, rfl⟩⟩
    | _ => exact hpc.elim
  · replace hexec : authStatement ctx pc input db = (db', reply) := Option.some.inj hexec
    cases pc with
    | meReads caller session =>
        cases caller with
        | refreshSession => cases hexec; exact ⟨trivial, Or.inl rfl⟩
        | _ => exact hpc.elim
    | meMarks caller session userId =>
        cases caller with
        | refreshSession => exact hmarks rfl hexec
        | _ => exact hpc.elim
    | meReturns caller session =>
        cases caller with
        | refreshSession => cases hexec; exact ⟨trivial, Or.inl rfl⟩
        | _ => exact hpc.elim
    | refreshReads session => cases hexec; exact ⟨trivial, Or.inl rfl⟩
    | _ => exact hpc.elim

/-- A service call is suspended again. -/
theorem waitsOn_ofService {memory : AuthMemory} {token : Option String} {method : Method}
    {out : Outcome AccountWaiting AccountResult} {pc : ControllerWaiting}
    (hserves : ∀ pc', out = .suspended pc' → Serves method pc')
    (h : (ofService memory token method out).2 = .suspended pc) : WaitsOn m pc := by
  rcases ofService_suspended h with ⟨pc', hpc', rfl⟩ | ⟨value, -, rfl⟩
  · exact ⟨fun token htoken => (by cases htoken), hserves pc' hpc'⟩
  · exact ⟨fun token htoken => (by cases htoken), trivial⟩

/-- The first segment of a call writes no session, and waits for an operation whose tokens the
memory knows. -/
theorem controllerStart_spec (hm : SessionsOwned m) {call : ControllerCall}
    (h : controllerStart ctx call input m = some (m', o)) :
    SegmentEffect m m' none ∧ ∀ pc, o = .suspended pc → WaitsOn m pc := by
  -- A method of `AuthService` starts with its own first segment; a request of a controller starts
  -- with `me`.
  cases call with
  | auth call =>
      have hstart : ∃ seg, authStart ctx call input.auth m = some seg ∧ ofAuth seg = (m', o) := by
        cases call with
        | otherStatement write => cases h
        | _ => exact Option.map_eq_some_iff.mp h
      obtain ⟨seg, hseg, heq⟩ := hstart
      have hspec := start_spec ctx m input.auth hm call hseg
      have hmemory : seg.1 = m' := (ofAuth_fst seg).symm.trans (congrArg Prod.fst heq)
      refine ⟨hmemory ▸ hspec.effect, fun pc hpc => ?_⟩
      obtain ⟨pc', hpc', rfl⟩ := ofAuth_suspended ((congrArg Prod.snd heq).trans hpc)
      exact ⟨fun token htoken => hspec.carries pc' hpc' token htoken, trivial⟩
  | request authorization method =>
      have heq : ofMe ctx (extractBearerToken authorization) method
          (me ctx m input.auth .me (extractBearerToken authorization)) = (m', o) :=
        Option.some.inj h
      have hspec := me_spec ctx m input.auth hm .me (extractBearerToken authorization)
      have hmemory : (me ctx m input.auth .me (extractBearerToken authorization)).1 = m' :=
        (ofMe_fst _).symm.trans (congrArg Prod.fst heq)
      refine ⟨hmemory ▸ hspec.effect, fun pc hpc => ?_⟩
      rcases ofMe_suspended ((congrArg Prod.snd heq).trans hpc) with
        ⟨pc', hpc', rfl⟩ | ⟨session, hservice⟩
      · exact ⟨fun token htoken => hspec.carries pc' hpc' token htoken, trivial⟩
      · exact waitsOn_ofService (fun pc' hpc' => serves_start hpc') hservice

/-- A refresh waits for the operations of a refresh from its first segment on. -/
theorem refreshing_of_me {token : Option String} {pc : AuthWaiting}
    (h : (me ctx m input.auth .refreshSession token).2 = .suspended pc) : Refreshing pc := by
  cases token with
  | none => cases h
  | some token =>
      simp only [me] at h
      split at h
      · cases h
      · split at h
        · cases h
        · split at h
          · cases h
            trivial
          · cases h
            trivial

/-- After its service call a method revokes the sessions of a user, or starts a refresh. -/
theorem afterService_spec (hm : SessionsOwned m) {bearer : Option String} {method : Method}
    {value : AccountValue} (h : afterService ctx m input.auth bearer method value = (m', o)) :
    SegmentEffect m m' none ∧ ∀ pc, o = .suspended pc → WaitsOn m pc := by
  cases method with
  | acceptOrganizationInvitation invitationId =>
      have hspec := me_spec ctx m input.auth hm .refreshSession bearer
      have hmemory : (me ctx m input.auth .refreshSession bearer).1 = m' := by
        rw [← ofRefresh_fst value]
        exact congrArg Prod.fst h
      refine ⟨hmemory ▸ hspec.effect, fun pc hpc => ?_⟩
      replace h : ofRefresh value (me ctx m input.auth .refreshSession bearer) = (m', o) := h
      obtain ⟨pc', hpc', rfl⟩ := ofRefresh_suspended ((congrArg Prod.snd h).trans hpc)
      exact ⟨hspec.carries pc' hpc', refreshing_of_me hpc'⟩
  | _ =>
      cases h
      refine ⟨?_, fun pc hpc => by cases hpc⟩
      unfold revoke
      split
      · exact .refl m
      · exact effect_registry m (quiet_revokeUser m.registry _)

/-- A later segment of a call writes at most the session that its reply calls for, and waits for an
operation whose tokens the memory knows. -/
theorem controllerResume_spec (hm : SessionsOwned m) {ready : ControllerReady}
    (hgoes : GoesOn m ready) (h : controllerResume ctx ready input m = some (m', o)) :
    SegmentEffect m m' ((authReply ready).bind fun reply => writesBack reply input.auth) ∧
      ∀ pc, o = .suspended pc → WaitsOn m pc := by
  obtain ⟨hknown, hserves⟩ := hgoes
  cases ready with
  | auth reply =>
      obtain ⟨seg, hseg, heq⟩ := Option.map_eq_some_iff.mp h
      have hspec := resume_spec ctx m input.auth reply hseg
      have hmemory : seg.1 = m' := (ofAuth_fst seg).symm.trans (congrArg Prod.fst heq)
      refine ⟨hmemory ▸ hspec.effect, fun pc hpc => ?_⟩
      obtain ⟨pc', hpc', rfl⟩ := ofAuth_suspended ((congrArg Prod.snd heq).trans hpc)
      exact ⟨fun token htoken => hknown token (hspec.carries pc' hpc' token htoken), trivial⟩
  | inMe bearer method reply =>
      obtain ⟨seg, hseg, heq⟩ := Option.map_eq_some_iff.mp h
      have hspec := resume_spec ctx m input.auth reply hseg
      have hmemory : seg.1 = m' := (ofMe_fst seg).symm.trans (congrArg Prod.fst heq)
      refine ⟨hmemory ▸ hspec.effect, fun pc hpc => ?_⟩
      rcases ofMe_suspended ((congrArg Prod.snd heq).trans hpc) with
        ⟨pc', hpc', rfl⟩ | ⟨session, hservice⟩
      · exact ⟨fun token htoken => hknown token (hspec.carries pc' hpc' token htoken), trivial⟩
      · exact waitsOn_ofService (fun pc' hpc' => serves_start hpc') hservice
  | inService bearer method reply =>
      obtain ⟨⟨memory, out⟩, hresume, heq⟩ := Option.map_eq_some_iff.mp h
      have hmemory : m = m' := (ofService_fst out).symm.trans (congrArg Prod.fst heq)
      subst hmemory
      refine ⟨.refl m, fun pc hpc => ?_⟩
      -- A statement of a service that has thrown is followed by a statement of the same method.
      have hnext : ∀ pc', out = .suspended pc' → Serves method pc' := by
        rintro pc' rfl
        cases reply with
        | failed failedPc error =>
            exact serves_failure (congrArg Prod.snd (Option.some.inj hresume))
        | answered reply => exact serves_resume hserves hresume
      exact waitsOn_ofService hnext ((congrArg Prod.snd heq).trans hpc)
  | serviceReturned bearer method value =>
      exact afterService_spec hm (Option.some.inj h)
  | inRefresh value reply =>
      obtain ⟨seg, hseg, heq⟩ := Option.map_eq_some_iff.mp h
      have hspec := resume_spec ctx m input.auth reply hseg
      have hmemory : seg.1 = m' := (ofRefresh_fst value seg).symm.trans (congrArg Prod.fst heq)
      refine ⟨hmemory ▸ hspec.effect, fun pc hpc => ?_⟩
      obtain ⟨pc', hpc', rfl⟩ := ofRefresh_suspended ((congrArg Prod.snd heq).trans hpc)
      exact ⟨fun token htoken => hknown token (hspec.carries pc' hpc' token htoken),
        refreshing_of_resume hserves hseg hpc'⟩

/-- The operation of a call answers with a reply on which the call can go on, because a statement
does not touch the memory. -/
theorem goesOn_execute {pc : ControllerWaiting} {ready : ControllerReady} {db db' : Database}
    (hwaits : WaitsOn m pc) (h : controllerExecute ctx pc input db = some (db', ready)) :
    GoesOn m ready := by
  obtain ⟨hknown, hserves⟩ := hwaits
  -- A statement does not change the memory, so the tokens that the call knows stay known. What the
  -- answer has to do with the call's service is the statement's own lemma.
  cases pc with
  | auth pc =>
      obtain ⟨⟨d, reply⟩, hop, heq⟩ := Option.map_eq_some_iff.mp h
      cases heq
      exact ⟨fun token htoken => hknown token (authOperation_token hop htoken), trivial⟩
  | inMe bearer method pc =>
      obtain ⟨⟨d, reply⟩, hop, heq⟩ := Option.map_eq_some_iff.mp h
      cases heq
      exact ⟨fun token htoken => hknown token (authOperation_token hop htoken), trivial⟩
  | inService bearer method pc =>
      obtain ⟨⟨d, reply⟩, hexec, heq⟩ := Option.map_eq_some_iff.mp h
      cases heq
      refine ⟨fun token htoken => (by cases htoken), ?_⟩
      rcases execute_cases hexec with ⟨value, rfl, hstatement⟩ | ⟨error, rfl, -⟩
      · exact served_statement hserves hstatement
      · trivial
  | serviceReturns bearer method value =>
      cases h
      exact ⟨fun token htoken => (by cases htoken), trivial⟩
  | inRefresh value pc =>
      obtain ⟨⟨d, reply⟩, hop, heq⟩ := Option.map_eq_some_iff.mp h
      cases heq
      exact ⟨fun token htoken => hknown token (authOperation_token hop htoken),
        (refreshed_of_operation hserves hop).1⟩

end

/-- The outline holds: every segment keeps the ownership of the sessions and the known tokens, so
the assertions of the other calls survive it. -/
theorem controllerOutline_proved (ctx : AuthContext) :
    controllerOutline.Proved (controllerProgram ctx)
      fun m _ m' _ => ∀ token, Known m.registry token → Known m'.registry token where
  start call input m d m' o hm h := by
    obtain ⟨heffect, hwaits⟩ := controllerStart_spec hm h
    refine ⟨heffect.owned hm fun t ht => (by cases ht), fun t => heffect.known, fun pc hpc => ?_⟩
    exact ⟨fun t ht => heffect.known ((hwaits pc hpc).1 t ht), (hwaits pc hpc).2⟩
  execute pc input m d d' reply hm hwaits h := ⟨hm, fun _ hk => hk, goesOn_execute hwaits h⟩
  resume ready input m d m' o hm hgoes h := by
    obtain ⟨heffect, hwaits⟩ := controllerResume_spec hm hgoes h
    refine ⟨heffect.owned hm fun t ht => ?_, fun t => heffect.known, fun pc hpc => ?_⟩
    · obtain ⟨reply, hreply, hback⟩ := Option.bind_eq_some_iff.mp ht
      exact hgoes.1 t (by rw [hreply]; exact writesBack_token hback)
    · exact ⟨fun t ht => heffect.known ((hwaits pc hpc).1 t ht), (hwaits pc hpc).2⟩
  stable f m d m' d' hG hf := by
    cases f with
    | waiting pc => exact ⟨fun t ht => hG t (hf.1 t ht), hf.2⟩
    | ready ready => exact ⟨fun t ht => hG t (hf.1 t ht), hf.2⟩

/-! ### What a call in flight still has to do -/

/-- The token whose session a suspended `refreshSession` is going to read again. -/
def refreshWaiting : AuthWaiting → Option String
  | .meReads .refreshSession session | .meMarks .refreshSession session _
  | .meReturns .refreshSession session | .refreshReads session => some session.token
  | _ => none

@[inherit_doc refreshWaiting]
def refreshReady : AuthReady → Option String
  | .meRead .refreshSession session _ | .meMarked .refreshSession session
  | .meReturned .refreshSession session | .refreshRead session _ _ => some session.token
  | _ => none

/-- A suspended call is going to read a session again when it is a refresh and carries the token.
-/
theorem refreshWaiting_iff {pc : AuthWaiting} {token : String} :
    refreshWaiting pc = some token ↔ Refreshing pc ∧ waitingToken pc = some token := by
  cases pc with
  | meReads caller session => cases caller <;> simp [refreshWaiting, Refreshing, waitingToken]
  | meMarks caller session userId =>
      cases caller <;> simp [refreshWaiting, Refreshing, waitingToken]
  | meReturns caller session => cases caller <;> simp [refreshWaiting, Refreshing, waitingToken]
  | _ => simp [refreshWaiting, Refreshing, waitingToken]

/-- The same of a call with a reply. -/
theorem refreshReady_iff {reply : AuthReady} {token : String} :
    refreshReady reply = some token ↔ Refreshed reply ∧ readyToken reply = some token := by
  cases reply with
  | meRead caller session user => cases caller <;> simp [refreshReady, Refreshed, readyToken]
  | meMarked caller session => cases caller <;> simp [refreshReady, Refreshed, readyToken]
  | meReturned caller session => cases caller <;> simp [refreshReady, Refreshed, readyToken]
  | _ => simp [refreshReady, Refreshed, readyToken]

/-- The token that a method refreshes after its service call. -/
def refreshTask (token : Option String) : Method → Option String
  | .acceptOrganizationInvitation _ => token
  | _ => none

/-- The calls in flight of the controller's program. -/
abbrev ControllerFlight := Flight ControllerWaiting ControllerReady

/-- The user whose sessions the call is going to end. -/
def revokes : ControllerFlight → Option String
  | .waiting (.serviceReturns _ method value) | .ready (.serviceReturned _ method value) =>
      revokedUser method value
  | .ready (.inService _ method (.answered reply)) =>
      (answeredValue reply).bind (revokedUser method)
  | .ready (.auth (.changeWritten updatedUser _)) => some updatedUser.id
  | _ => none

/-- The token whose session the call is going to read again. -/
def refreshes : ControllerFlight → Option String
  | .waiting (.serviceReturns token method _) | .ready (.serviceReturned token method _) =>
      refreshTask token method
  | .ready (.inService token method (.answered reply)) =>
      (answeredValue reply).bind fun _ => refreshTask token method
  | .waiting pc => (authWaiting pc).bind refreshWaiting
  | .ready ready => (authReply ready).bind refreshReady

/-- The call is going to end the session of the user under the token, or to read it again. -/
def Renews (f : ControllerFlight) (token userId : String) : Prop :=
  revokes f = some userId ∨ refreshes f = some token

instance (token userId : String) : DecidablePred fun f => Renews f token userId :=
  fun f => inferInstanceAs (Decidable (revokes f = some userId ∨ refreshes f = some token))

section
variable {ctx : AuthContext} {input : ControllerInput} {m m' : AuthMemory}
  {o : Outcome ControllerWaiting ControllerResult}

/-- What is stored after a segment of `AuthService`: the new session, or one from before. A refresh
of its token goes on, or returns the session as it was. -/
theorem authResume_leaves {reply : AuthReady} {input : AuthInput} {seg : AuthSegment}
    (h : authResume ctx reply input m = some seg) {token : String} {session : AuthSession}
    (hstored : storedSession seg.1 token = some session) :
    newSession reply input = some (token, session.user) ∨
      storedSession m token = some session ∧ (refreshReady reply = some token →
        (∃ pc, seg.2 = .suspended pc ∧ refreshWaiting pc = some token) ∨
          ReturnsUnchanged ctx reply) := by
  by_cases hnew : newSession reply input = some (token, session.user)
  · exact Or.inl hnew
  refine Or.inr ⟨(resume_stores h token session hstored).resolve_right hnew, fun hrefresh => ?_⟩
  obtain ⟨hrefreshed, htoken⟩ := refreshReady_iff.mp hrefresh
  rcases refresh_cases hrefreshed htoken h with ⟨pc, hpc, hwaits⟩ | hnone | hwrites | hunchanged
  · exact Or.inl ⟨pc, hpc,
      refreshWaiting_iff.mpr ⟨refreshing_of_resume hrefreshed h hpc, hwaits⟩⟩
  · rw [hstored] at hnone
    cases hnone
  · exact absurd (hwrites session hstored) hnew
  · exact Or.inr hunchanged

/-- A call that ends the sessions of a user right after a statement has changed the password. -/
theorem changeWritten_of_revokes {reply : AuthReady} {userId : String}
    (h : revokes (.ready (.auth reply)) = some userId) :
    ∃ updatedUser organization, reply = .changeWritten updatedUser organization ∧
      updatedUser.id = userId := by
  cases reply with
  | changeWritten updatedUser organization =>
      exact ⟨updatedUser, organization, rfl, Option.some.inj h⟩
  | _ => cases h

/-- `revokeUserSessions` stores nothing: what is left was stored before, and it belongs to another
user. -/
theorem revoke_leaves {user : Option String} {token : String} {session : AuthSession}
    (h : storedSession (revoke m user) token = some session) :
    storedSession m token = some session ∧ user ≠ some session.user.id := by
  cases user with
  | none => exact ⟨h, by simp⟩
  | some userId =>
      have hstores : StoresOnly none m (revoke m (some userId)) :=
        Quiet.storesOnly (quiet_revokeUser m.registry userId)
      refine ⟨(hstores token session h).resolve_right (by simp), fun heq => ?_⟩
      exact revokeUser_none userId h (Option.some.inj heq).symm

/-- What a move leaves under a token: the new session, one that the call still renews, or one from
before. If the call was to renew the latter, this has ended in a refresh that changed nothing. -/
def SegmentLeaves (ctx : AuthContext) (ready : ControllerReady) (input : ControllerInput)
    (m : AuthMemory) (o : Outcome ControllerWaiting ControllerResult) (token : String)
    (session : AuthSession) : Prop :=
  ((authReply ready).bind fun reply => newSession reply input.auth) = some (token, session.user) ∨
    o.Owes (fun f => Renews f token session.user.id) ∨
    storedSession m token = some session ∧
      (Renews (.ready ready) token session.user.id → ∃ reply, authReply ready = some reply ∧
        refreshReady reply = some token ∧ ReturnsUnchanged ctx reply)

/-- A segment of `AuthService` inside a call of the program. A session that is stored after it is
new, or it was there, and then either the call still has a task for it or nothing has changed. -/
theorem leaves_of_auth {ready : ControllerReady} {reply : AuthReady}
    {out : Outcome AuthWaiting AuthResult} {token : String} {session : AuthSession}
    (hreply : authReply ready = some reply)
    (hseg : authResume ctx reply input.auth m = some (m', out))
    (hgoes : ∀ pc, out = .suspended pc →
      ∃ pc', o = .suspended pc' ∧ refreshes (.waiting pc') = refreshWaiting pc)
    (hrevokes : ∀ userId, revokes (.ready ready) = some userId →
      ∃ updatedUser organization, reply = .changeWritten updatedUser organization ∧
        updatedUser.id = userId)
    (hrefreshes : refreshes (.ready ready) = refreshReady reply)
    (hstored : storedSession m' token = some session) :
    SegmentLeaves ctx ready input m o token session := by
  unfold SegmentLeaves
  rw [hreply, Option.bind_some]
  rcases authResume_leaves hseg hstored with hnew | ⟨hold, hrefresh⟩
  · exact Or.inl hnew
  -- An old session under this token: the call may be the refresh that is about to replace it, or
  -- the change of password that ends it, or neither.
  by_cases htask : refreshReady reply = some token
  · rcases hrefresh htask with ⟨pc, hpc, hwaits⟩ | hunchanged
    · obtain ⟨pc', rfl, hsame⟩ := hgoes pc hpc
      exact Or.inr (Or.inl (Or.inr (hsame.trans hwaits)))
    · exact Or.inr (Or.inr ⟨hold, fun _ => ⟨reply, rfl, htask, hunchanged⟩⟩)
  · by_cases hends : revokes (.ready ready) = some session.user.id
    · obtain ⟨updatedUser, organization, rfl, hid⟩ := hrevokes _ hends
      exact Or.inl (changePassword_only hseg hstored hid.symm)
    · refine Or.inr (Or.inr ⟨hold, fun hrenews => ?_⟩)
      rw [Renews, hrefreshes] at hrenews
      exact (hrenews.elim hends htask).elim

/-- A segment of the service call. It stores no session itself, and the task that its answer brings
goes on with the call. -/
theorem leaves_of_service {bearer : Option String} {method : Method} {reply : AccountReady}
    {memory : AccountMemory} {out : Outcome AccountWaiting AccountResult} {token : String}
    {session : AuthSession}
    (hresume : accountResume ctx reply input.account {} = some (memory, out))
    (ho : (ofService m bearer method out).2 = o) (hstored : storedSession m token = some session) :
    SegmentLeaves ctx (.inService bearer method reply) input m o token session := by
  by_cases hrenews : Renews (.ready (.inService bearer method reply)) token session.user.id
  · refine Or.inr (Or.inl ?_)
    cases reply with
    | failed failedPc error => rcases hrenews with hrevokes | hrefreshes <;> contradiction
    | answered reply =>
        -- The task comes from the answer, and the call goes on with it.
        have hvalue : ∃ value, answeredValue reply = some value := by
          rcases hrenews with hrevokes | hrefreshes
          · obtain ⟨value, hvalue, -⟩ := Option.bind_eq_some_iff.mp hrevokes
            exact ⟨value, hvalue⟩
          · obtain ⟨value, hvalue, -⟩ := Option.bind_eq_some_iff.mp hrefreshes
            exact ⟨value, hvalue⟩
        obtain ⟨value, hvalue⟩ := hvalue
        rw [finished_of_answeredValue hvalue] at hresume
        cases hresume
        subst ho
        unfold Renews revokes refreshes at hrenews
        simp only [hvalue, Option.bind_some] at hrenews
        exact hrenews
  · exact Or.inr (Or.inr ⟨hstored, fun hyes => absurd hyes hrenews⟩)

/-- The start of the refresh after an acceptance. The session under the token of the request is
left to this refresh, every other one stays as it was. -/
theorem leaves_of_refresh (hm : SessionsOwned m) {bearer : Option String} {invitationId : String}
    {value : AccountValue} {seg : AuthSegment} {token : String} {session : AuthSession}
    (hme : me ctx m input.auth .refreshSession bearer = seg)
    (hstored : storedSession seg.1 token = some session) :
    SegmentLeaves ctx (.serviceReturned bearer (.acceptOrganizationInvitation invitationId) value)
      input m (ofRefresh value seg).2 token session := by
  have hold : storedSession m token = some session := by
    rw [← hme] at hstored
    exact (me_stores .refreshSession bearer none token session hstored).resolve_right (by simp)
  by_cases hbearer : bearer = some token
  · subst hbearer
    obtain ⟨memory, out⟩ := seg
    rcases me_refresh hm hme with ⟨pc, rfl, hrefreshing, hwaits⟩ | hnone
    · exact Or.inr (Or.inl (Or.inr (refreshWaiting_iff.mpr ⟨hrefreshing, hwaits⟩)))
    · rw [hstored] at hnone
      cases hnone
  · refine Or.inr (Or.inr ⟨hold, fun hrenews => ?_⟩)
    rcases hrenews with hrevokes | hrefreshes
    · cases hrevokes
    · exact absurd hrefreshes hbearer

/-- The segment after the service call: a revocation, or the start of a refresh. -/
theorem leaves_of_afterService (hm : SessionsOwned m) {bearer : Option String} {method : Method}
    {value : AccountValue} {token : String} {session : AuthSession}
    (h : afterService ctx m input.auth bearer method value = (m', o))
    (hstored : storedSession m' token = some session) :
    SegmentLeaves ctx (.serviceReturned bearer method value) input m o token session := by
  cases method with
  | acceptOrganizationInvitation invitationId =>
      replace h : ofRefresh value (me ctx m input.auth .refreshSession bearer) = (m', o) := h
      have hmemory : (me ctx m input.auth .refreshSession bearer).1 = m' :=
        (ofRefresh_fst value _).symm.trans (congrArg Prod.fst h)
      have ho : (ofRefresh value (me ctx m input.auth .refreshSession bearer)).2 = o :=
        congrArg Prod.snd h
      rw [← hmemory] at hstored
      rw [← ho]
      exact leaves_of_refresh hm rfl hstored
  | _ =>
      refine Or.inr (Or.inr ?_)
      cases h
      obtain ⟨hold, hother⟩ := revoke_leaves hstored
      refine ⟨hold, fun hrenews => ?_⟩
      rcases hrenews with hrevokes | hrefreshes
      · exact absurd hrevokes hother
      · cases hrefreshes

/-- What is stored after a later segment of a call, whichever service the call is in: one case for
each kind of reply. -/
theorem controllerResume_leaves (hm : SessionsOwned m) {ready : ControllerReady}
    (h : controllerResume ctx ready input m = some (m', o)) {token : String}
    {session : AuthSession} (hstored : storedSession m' token = some session) :
    SegmentLeaves ctx ready input m o token session := by
  cases ready with
  | auth reply =>
      obtain ⟨⟨memory, out⟩, hseg, heq⟩ := Option.map_eq_some_iff.mp h
      have hmemory : memory = m' := (ofAuth_fst (memory, out)).symm.trans (congrArg Prod.fst heq)
      subst hmemory
      refine leaves_of_auth rfl hseg (fun pc hpc => ?_) (fun _ => changeWritten_of_revokes) rfl
        hstored
      subst hpc
      cases heq
      exact ⟨.auth pc, rfl, rfl⟩
  | inMe bearer method reply =>
      obtain ⟨⟨memory, out⟩, hseg, heq⟩ := Option.map_eq_some_iff.mp h
      have hmemory : memory = m' := (ofMe_fst (memory, out)).symm.trans (congrArg Prod.fst heq)
      subst hmemory
      refine leaves_of_auth rfl hseg (fun pc hpc => ?_) (fun _ hends => by cases hends) rfl hstored
      subst hpc
      cases heq
      exact ⟨.inMe bearer method pc, rfl, rfl⟩
  -- The end of a service call leaves the registry as it was.
  | inService bearer method reply =>
      obtain ⟨⟨memory, out⟩, hresume, heq⟩ := Option.map_eq_some_iff.mp h
      have hmemory : m = m' := (ofService_fst out).symm.trans (congrArg Prod.fst heq)
      subst hmemory
      exact leaves_of_service hresume (congrArg Prod.snd heq) hstored
  | serviceReturned bearer method value =>
      exact leaves_of_afterService hm (Option.some.inj h) hstored
  | inRefresh value reply =>
      obtain ⟨⟨memory, out⟩, hseg, heq⟩ := Option.map_eq_some_iff.mp h
      have hmemory : memory = m' :=
        (ofRefresh_fst value (memory, out)).symm.trans (congrArg Prod.fst heq)
      subst hmemory
      refine leaves_of_auth rfl hseg (fun pc hpc => ?_) (fun _ hends => by cases hends) rfl hstored
      subst hpc
      cases heq
      exact ⟨.inRefresh value pc, rfl, rfl⟩

/-- The token and the user of the session that the first segment of a call stores. -/
def storedAtStart (ctx : AuthContext) (input : ControllerInput) :
    ControllerCall → Option (String × User)
  | .auth call => demoSession ctx input.auth call
  | .request .. => none

/-- What is stored after the first segment of a call: what was there, and the session that the
segment itself writes. -/
theorem controllerStart_stores {call : ControllerCall}
    (h : controllerStart ctx call input m = some (m', o)) :
    StoresOnly (storedAtStart ctx input call) m m' := by
  cases call with
  | auth call =>
      have hstart : ∃ seg, authStart ctx call input.auth m = some seg ∧ ofAuth seg = (m', o) := by
        cases call with
        | otherStatement write => cases h
        | _ => exact Option.map_eq_some_iff.mp h
      obtain ⟨seg, hseg, heq⟩ := hstart
      have hmemory : seg.1 = m' := (ofAuth_fst seg).symm.trans (congrArg Prod.fst heq)
      subst hmemory
      exact start_stores hseg
  | request authorization method =>
      have hmemory : (me ctx m input.auth .me (extractBearerToken authorization)).1 = m' :=
        (ofMe_fst _).symm.trans (congrArg Prod.fst (Option.some.inj h))
      subst hmemory
      exact me_stores .me _ none

/-- A task of a call that waits in `AuthService` is a refresh. -/
theorem refreshWaiting_of_renews {pc : ControllerWaiting} {pc' : AuthWaiting}
    {token userId : String} (hpc : authWaiting pc = some pc')
    (h : Renews (.waiting pc) token userId) : refreshWaiting pc' = some token := by
  cases pc with
  | inService bearer method pc => cases hpc
  | serviceReturns bearer method value => cases hpc
  | _ =>
      cases hpc
      rcases h with hrevokes | hwaits
      · cases hrevokes
      · exact hwaits

/-- A call whose operation is answered in `AuthService` goes on with its refresh. -/
theorem renews_of_refreshReady {ready : ControllerReady} {reply : AuthReady}
    {token userId : String} (hreply : authReply ready = some reply)
    (h : refreshReady reply = some token) : Renews (.ready ready) token userId := by
  cases ready with
  | inService bearer method reply => cases hreply
  | serviceReturned bearer method value => cases hreply
  | _ =>
      cases hreply
      exact Or.inr h

/-- An operation leaves a task of its call in place, unless it is one of a refresh and fails. -/
theorem renews_execute {pc : ControllerWaiting} {ready : ControllerReady} {db db' : Database}
    (h : controllerExecute ctx pc input db = some (db', ready)) {token userId : String}
    (hrenews : Renews (.waiting pc) token userId) :
    Renews (.ready ready) token userId ∨
      ∃ pc' error, authWaiting pc = some pc' ∧ refreshWaiting pc' = some token ∧
        authOperation ctx pc' input.auth db = some (db', .failed error) := by
  cases hpc : authWaiting pc with
  | none =>
      cases pc with
      | inService bearer method pc => rcases hrenews with hrevokes | hwaits <;> contradiction
      | serviceReturns bearer method value => cases h; exact Or.inl hrenews
      | _ => cases hpc
  | some pc' =>
      obtain ⟨reply, hop, hreply⟩ := authOperation_of_execute hpc h
      have hrefresh := refreshWaiting_of_renews hpc hrenews
      obtain ⟨hrefreshing, htoken⟩ := refreshWaiting_iff.mp hrefresh
      obtain ⟨hrefreshed, hsame | ⟨error, rfl⟩⟩ := refreshed_of_operation hrefreshing hop
      · exact Or.inl (renews_of_refreshReady hreply
          (refreshReady_iff.mpr ⟨hrefreshed, hsame.trans htoken⟩))
      · exact Or.inr ⟨pc', error, rfl, hrefresh, hop⟩

end

end Dcvp.Proofs
