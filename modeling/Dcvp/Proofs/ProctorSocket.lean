import Dcvp.Proofs.JoinOrigin
import Dcvp.Web.ProctorSocket

/-!
# `Dcvp.Proofs.ProctorSocket`: what a page hears from the gateway

A page and the gateway run side by side, and all other sockets do what they like. What the page
handles, the gateway has emitted to one of its sockets (`handled_emitted`). A relayed message
has passed its check, and reaches the page over a room for which the page has sent a join
message (`handled_signal`). What a socket of the page says, the page has sent (`call_sent`).
-/

set_option autoImplicit false

namespace Dcvp.Proofs

open Dcvp.Lib
open Dcvp.Modules
open Dcvp.Web

variable {κ δ : Type} {owns : SocketId → Bool} {page : Machine κ δ}
  {handles : δ → Option ServerMessage} {sends : κ → δ → κ → List ClientMessage} {p : κ}
  {es : List (LinkEvent GatewayEvent δ)} {w : LinkState GatewayWorld κ ServerMessage ClientMessage}

/-- A step of the page sends the message. -/
def PageSends (page : Machine κ δ) (sends : κ → δ → κ → List ClientMessage) (p : κ) (ds : List δ)
    (message : ClientMessage) : Prop :=
  ∃ before d u v, page.Makes p ds before d u ∧ page.step u d = some v ∧ message ∈ sends u d v

/-- The page has sent what its sockets say. -/
theorem call_sent (hrun : (gatewayLink owns page handles sends).machine.run (linkInitial p) es
      = some w) {event : GatewayEvent} {message : ClientMessage}
    (hevent : event ∈ serverEvents es) (htaken : messageTaken owns event = some message) :
    PageSends page sends p (clientEvents es) message :=
  Link.taken_sent hrun rfl hevent htaken

/-- A `join-admin` of one of the page's sockets is one that the page has sent. -/
theorem joinAdmin_sent
    (hrun : (gatewayLink owns page handles sends).machine.run (linkInitial p) es = some w)
    {id : SocketId} {payload : JoinAdminPayload} (hown : owns id = true)
    (h : AsksAdmin (serverEvents es) id payload) :
    PageSends page sends p (clientEvents es) (.joinAdmin payload) := by
  obtain ⟨input, hin⟩ := h
  exact call_sent hrun hin (if_pos hown)

/-- So is a `join-candidate`. -/
theorem joinCandidate_sent
    (hrun : (gatewayLink owns page handles sends).machine.run (linkInitial p) es = some w)
    {id : SocketId} {payload : JoinCandidatePayload} (hown : owns id = true)
    (h : AsksCandidate (serverEvents es) id payload) :
    PageSends page sends p (clientEvents es) (.joinCandidate payload) := by
  obtain ⟨input, hin⟩ := h
  exact call_sent hrun hin (if_pos hown)

/-- A message that was checked over a socket of the page was sent by the page. -/
theorem signal_sent
    (hrun : (gatewayLink owns page handles sends).machine.run (linkInitial p) es = some w)
    {k : Nat} {id : SocketId} {event : SignalEvent} {payload : SignalPayload}
    (hown : owns id = true) (h : CheckPassed (serverEvents es) k id event payload) :
    PageSends page sends p (clientEvents es) (.signal event payload) := by
  obtain ⟨before, checked, hcheck, -, -⟩ := h
  obtain ⟨input, hmakes⟩ := hcheck.makes
  have hin := hmakes.within.subset (List.mem_append_right _ (List.mem_singleton.mpr rfl))
  exact call_sent hrun hin (if_pos hown)

/-- What the page handles, the gateway has emitted before, at a step of its own part of the run, to
a room or socket that reaches the page. -/
theorem handled_emitted
    (hrun : (gatewayLink owns page handles sends).machine.run (linkInitial p) es = some w)
    {d : δ} {message : ServerMessage} (hd : d ∈ clientEvents es)
    (hhandles : handles d = some message) :
    ∃ before e u v emission, gatewayMachine.Makes gatewayInitial (serverEvents es) before e u ∧
      gatewayMachine.step u e = some v ∧ emission ∈ v.memory.emissions ∧
      emission.message = message ∧ reachesPage owns u.memory emission = true := by
  obtain ⟨before, e, u, v, hmakes, hstep, hin⟩ := Link.handled_sent hrun rfl hd hhandles
  obtain ⟨emission, hsent, hmessage⟩ := List.mem_map.mp hin
  obtain ⟨hnew, hreaches⟩ := List.mem_filter.mp hsent
  exact ⟨before, e, u, v, emission, hmakes, hstep, List.mem_of_mem_drop hnew, hmessage, hreaches⟩

/-- The move after the events `before`, as a run. -/
theorem run_move {es before : List GatewayEvent} {e : GatewayEvent} {u v : GatewayWorld}
    (hmakes : gatewayMachine.Makes gatewayInitial es before e u)
    (hstep : gatewayMachine.step u e = some v) :
    gatewayMachine.run gatewayInitial (before ++ [e]) = some v :=
  (Machine.run_concat_eq_some _ _ _ _).mpr ⟨u, hmakes.reaches, hstep⟩

/-- The page has heard a relayed message. It has passed its check, and one of the sockets of the
page was in the room because of a join message. -/
structure HeardSignal (owns : SocketId → Bool) (es : List GatewayEvent) (event : SignalEvent)
    (payload : SignalPayload) (socketId : Option SocketId) (sender id : SocketId)
    (room : String) : Prop where
  owned : owns id = true
  passed : ∃ k, CheckPassed es k sender event payload
  target : RelayTarget es ⟨sender, .room room, .signal event payload socketId⟩
  joined : (∃ asked, Authorized es id asked ∧ room = adminRoom asked.examId) ∨
    ∃ asked, Admitted es id asked ∧ room = askedRoom asked

/-- A signal that the page has handled was relayed to one of its sockets. The gateway has it from
another socket, whose check had passed, and the receiving socket was in the room that it was
relayed to. -/
theorem handled_signal
    (hids : gatewayMachine.Meets ServerExamIds gatewayInitial (serverEvents es))
    (hrun : (gatewayLink owns page handles sends).machine.run (linkInitial p) es = some w)
    {d : δ} {event : SignalEvent} {payload : SignalPayload} {socketId : Option SocketId}
    (hd : d ∈ clientEvents es) (hhandles : handles d = some (.signal event payload socketId)) :
    ∃ sender id room, HeardSignal owns (serverEvents es) event payload socketId sender id room := by
  obtain ⟨before, e, u, v, emission, hmakes, hstep, hin, hmessage, hreaches⟩ :=
    handled_emitted hrun hd hhandles
  obtain ⟨sender, target, message⟩ := emission
  replace hmessage : message = .signal event payload socketId := hmessage
  subst hmessage
  have hprefix : before ++ [e] <+: serverEvents es := hmakes.within
  obtain ⟨rest, hrest⟩ := hprefix
  have hbefore : before <+: serverEvents es := (List.prefix_append before [e]).trans hmakes.within
  have hscope : ScopesHold (before ++ [e]) v := by
    refine run_scope _ v ?_ (run_move hmakes hstep)
    rw [← hrest] at hids
    exact (Machine.Meets.after hids (run_move hmakes hstep)).1
  obtain ⟨k, hpassed, htarget⟩ := hscope.emissions _ hin
  have hrelay := ((run_origin _ v (run_move hmakes hstep)).emissions _ hin).mono hmakes.within
  -- The message went to a room, so a socket of the page was in it.
  have hroom : ∃ room, target = .room room := by
    rcases htarget with h | h
    · exact ⟨_, h⟩
    · exact ⟨_, h⟩
  obtain ⟨room, rfl⟩ := hroom
  obtain ⟨⟨id, s⟩, hentry, hown⟩ := List.any_eq_true.mp hreaches
  obtain ⟨hown, hmember⟩ := (Bool.and_eq_true _ _).mp hown
  have horigin := (run_origin before u hmakes.reaches).sockets id s
    ((OrderedMap.get?_eq_some_iff _ _ _).mpr hentry)
  refine ⟨sender, id, room, hown, ⟨k, hpassed.mono hmakes.within⟩, hrelay, ?_⟩
  rcases horigin.rooms room (of_decide_eq_true hmember) with
    ⟨asked, hauthorized, hroom, -⟩ | ⟨asked, hadmitted, hroom⟩
  · exact Or.inl ⟨asked, hauthorized.mono hbefore, hroom⟩
  · exact Or.inr ⟨asked, hadmitted.mono hbefore, hroom⟩

end Dcvp.Proofs
