import Dcvp.Lib.Machine

/-!
# `Dcvp.Lib.Link`: two machines that exchange messages

A `Link` joins a server and a client, which are machines of their own. Each of them sends
messages into a channel, and takes the messages of the other one out of a channel. A channel
keeps the order of its messages. It can lose the next one at any time, so a run also covers
connections that break.

The link is a machine again, and its runs are all interleavings. Two general facts lead from
these runs back to the machines:

* `run_parts`: the events of the server in a run of the link are a run of the server, and
  those of the client are a run of the client;
* `handled_sublist`, `taken_sublist`: what one side takes in is a subsequence of what the
  other side has sent. No message is made up, and none overtakes another one.

`handled_sent` and `taken_sent` name the step that has sent a message.
-/

set_option autoImplicit false

namespace Dcvp.Lib

/-! ### The output of a machine -/

namespace Machine

variable {σ ε α : Type} (M : Machine σ ε) (out : σ → ε → σ → List α)

/-- What the steps of a run send, in order. -/
def output : σ → List ε → List α
  | _, [] => []
  | s, e :: es =>
      match M.step s e with
      | none => []
      | some t => out s e t ++ output t es

variable {M out}

/-- What a run sends is what its first step sends, followed by what the rest of the run sends from
there. -/
theorem output_cons {s t : σ} {e : ε} (h : M.step s e = some t) (es : List ε) :
    M.output out s (e :: es) = out s e t ++ M.output out t es := by
  rw [output, h]

/-- What a run has sent, one of its steps has sent: there is a state of the run from which this
step was made. -/
theorem mem_output {s : σ} {es : List ε} {a : α} (h : a ∈ M.output out s es) :
    ∃ before e u v, M.Makes s es before e u ∧ M.step u e = some v ∧ a ∈ out u e v := by
  induction es generalizing s with
  | nil => cases h
  | cons e es ih =>
      cases hstep : M.step s e with
      | none =>
          rw [output, hstep] at h
          cases h
      | some t =>
          rw [output_cons hstep] at h
          rcases List.mem_append.mp h with hnow | hlater
          · exact ⟨[], e, s, t, ⟨List.prefix_append [e] es, rfl⟩, hstep, hnow⟩
          · obtain ⟨before, e', u, v, hmakes, hstep', hin⟩ := ih hlater
            refine ⟨e :: before, e', u, v, ⟨?_, ?_⟩, hstep', hin⟩
            · exact (List.prefix_cons_inj e).mpr hmakes.within
            · exact (run_cons_eq_some s u e before).mpr ⟨t, hstep, hmakes.reaches⟩

end Machine

/-! ### Channels -/

/-- The channel after its next message has been taken, when the event takes one. -/
def takeNext {α : Type} [DecidableEq α] : Option α → List α → Option (List α)
  | none, channel => some channel
  | some _, [] => none
  | some message, next :: channel => if message = next then some channel else none

/-- A message is taken from the head of the channel. Where no message is to be taken, the channel
stays as it is. -/
theorem takeNext_eq_some {α : Type} [DecidableEq α] {message : Option α}
    {channel rest : List α} (h : takeNext message channel = some rest) :
    channel = message.toList ++ rest := by
  cases message with
  | none =>
      cases h
      rfl
  | some message =>
      cases channel with
      | nil => cases h
      | cons next channel =>
          obtain ⟨rfl, hrest⟩ := Option.ite_none_right_eq_some.mp h
          cases hrest
          rfl

/-! ### The link -/

/-- A server with states `σ` and events `ε`, and a client with states `κ` and events `δ`. The
server sends messages `μ`, and the client messages `ν`. -/
structure Link (σ ε κ δ μ ν : Type) where
  server : Machine σ ε
  client : Machine κ δ
  /-- The message that an event of the server takes in, if it takes one. -/
  takes : ε → Option ν
  /-- The message that an event of the client handles, if it handles one. -/
  handles : δ → Option μ
  /-- What a step of the server sends to the client. -/
  delivers : σ → ε → σ → List μ
  /-- What a step of the client sends to the server. -/
  sends : κ → δ → κ → List ν

/-- The states of both sides, and the messages under way. -/
structure LinkState (σ κ μ ν : Type) where
  server : σ
  client : κ
  toClient : List μ := []
  toServer : List ν := []

/-- The events of both sides, and the loss of a message. -/
inductive LinkEvent (ε δ : Type) where
  | server (event : ε)
  | client (event : δ)
  | loseToClient
  | loseToServer

/-- The events of the server. -/
def serverEvents {ε δ : Type} (es : List (LinkEvent ε δ)) : List ε :=
  es.filterMap fun
    | .server event => some event
    | _ => none

/-- The events of the client. -/
def clientEvents {ε δ : Type} (es : List (LinkEvent ε δ)) : List δ :=
  es.filterMap fun
    | .client event => some event
    | _ => none

namespace Link

variable {σ ε κ δ μ ν : Type} [DecidableEq μ] [DecidableEq ν] (L : Link σ ε κ δ μ ν)

/-- One event. -/
def step (s : LinkState σ κ μ ν) : LinkEvent ε δ → Option (LinkState σ κ μ ν)
  | .server event =>
      (takeNext (L.takes event) s.toServer).bind fun toServer =>
        (L.server.step s.server event).map fun server =>
          { s with server, toServer, toClient := s.toClient ++ L.delivers s.server event server }
  | .client event =>
      (takeNext (L.handles event) s.toClient).bind fun toClient =>
        (L.client.step s.client event).map fun client =>
          { s with client, toClient, toServer := s.toServer ++ L.sends s.client event client }
  | .loseToClient => some { s with toClient := s.toClient.tail }
  | .loseToServer => some { s with toServer := s.toServer.tail }

/-- The machine of all interleavings. -/
def machine : Machine (LinkState σ κ μ ν) (LinkEvent ε δ) := ⟨L.step⟩

variable {L} {s t : LinkState σ κ μ ν} {es : List (LinkEvent ε δ)}

/-- What an event can be: the server or the client takes a step, which handles at most one message
and sends others, or a message is lost on one of the two ways. -/
theorem step_cases {e : LinkEvent ε δ} (h : L.machine.step s e = some t) :
    (∃ event toServer server, e = .server event ∧
      s.toServer = (L.takes event).toList ++ toServer ∧
      L.server.step s.server event = some server ∧
      t = { s with server, toServer,
                   toClient := s.toClient ++ L.delivers s.server event server }) ∨
    (∃ event toClient client, e = .client event ∧
      s.toClient = (L.handles event).toList ++ toClient ∧
      L.client.step s.client event = some client ∧
      t = { s with client, toClient,
                   toServer := s.toServer ++ L.sends s.client event client }) ∨
    (e = .loseToClient ∧ t = { s with toClient := s.toClient.tail }) ∨
    (e = .loseToServer ∧ t = { s with toServer := s.toServer.tail }) := by
  replace h : L.step s e = some t := h
  -- One case per kind of event; only a step of a machine can fail, a loss never does.
  cases e with
  | server event =>
      obtain ⟨toServer, htake, hrest⟩ := Option.bind_eq_some_iff.mp h
      obtain ⟨server, hstep, rfl⟩ := Option.map_eq_some_iff.mp hrest
      exact Or.inl ⟨event, toServer, server, rfl, takeNext_eq_some htake, hstep, rfl⟩
  | client event =>
      obtain ⟨toClient, htake, hrest⟩ := Option.bind_eq_some_iff.mp h
      obtain ⟨client, hstep, rfl⟩ := Option.map_eq_some_iff.mp hrest
      exact Or.inr (Or.inl ⟨event, toClient, client, rfl, takeNext_eq_some htake, hstep, rfl⟩)
  | loseToClient =>
      cases h
      exact Or.inr (Or.inr (Or.inl ⟨rfl, rfl⟩))
  | loseToServer =>
      cases h
      exact Or.inr (Or.inr (Or.inr ⟨rfl, rfl⟩))

/-- A run of the link is a run of each side, on the events of this side alone. The messages between
them only limit which runs there are. -/
theorem run_parts (h : L.machine.run s es = some t) :
    L.server.run s.server (serverEvents es) = some t.server ∧
      L.client.run s.client (clientEvents es) = some t.client := by
  induction es generalizing s with
  | nil =>
      cases h
      exact ⟨rfl, rfl⟩
  | cons e es ih =>
      obtain ⟨u, hstep, hrest⟩ := (Machine.run_cons_eq_some s t e es).mp h
      obtain ⟨hserver, hclient⟩ := ih hrest
      rcases step_cases hstep with
        ⟨event, toServer, server, rfl, -, hevent, rfl⟩ |
        ⟨event, toClient, client, rfl, -, hevent, rfl⟩ | ⟨rfl, rfl⟩ | ⟨rfl, rfl⟩
      · exact ⟨(Machine.run_cons_eq_some _ _ _ _).mpr ⟨server, hevent, hserver⟩, hclient⟩
      · exact ⟨hserver, (Machine.run_cons_eq_some _ _ _ _).mpr ⟨client, hevent, hclient⟩⟩
      · exact ⟨hserver, hclient⟩
      · exact ⟨hserver, hclient⟩

/-- The client handles a subsequence of what was under way and of what the server sends, and
what is left of it is still under way. -/
theorem handled_sublist (h : L.machine.run s es = some t) :
    ((clientEvents es).filterMap L.handles ++ t.toClient).Sublist
      (s.toClient ++ L.server.output L.delivers s.server (serverEvents es)) := by
  induction es generalizing s with
  | nil =>
      cases h
      exact List.sublist_append_left _ _
  | cons e es ih =>
      obtain ⟨u, hstep, hrest⟩ := (Machine.run_cons_eq_some s t e es).mp h
      have hsub := ih hrest
      rcases step_cases hstep with
        ⟨event, toServer, server, rfl, -, hevent, rfl⟩ |
        ⟨event, toClient, client, rfl, htaken, -, rfl⟩ | ⟨rfl, rfl⟩ | ⟨rfl, rfl⟩
      · show List.Sublist _
          (s.toClient ++ L.server.output L.delivers s.server (event :: serverEvents es))
        rw [Machine.output_cons hevent, ← List.append_assoc]
        exact hsub
      · -- The handled message was the next one in the channel.
        show List.Sublist ((event :: clientEvents es).filterMap L.handles ++ _) _
        rw [htaken, List.filterMap_cons]
        cases L.handles event with
        | none => exact hsub
        | some message => exact hsub.cons_cons message
      · exact hsub.trans (List.Sublist.append_right (List.tail_sublist _) _)
      · exact hsub

/-- The same for the server: what it has taken, followed by what is on the way to it, comes from
what the client has sent, in the same order. -/
theorem taken_sublist (h : L.machine.run s es = some t) :
    ((serverEvents es).filterMap L.takes ++ t.toServer).Sublist
      (s.toServer ++ L.client.output L.sends s.client (clientEvents es)) := by
  induction es generalizing s with
  | nil =>
      cases h
      exact List.sublist_append_left _ _
  | cons e es ih =>
      obtain ⟨u, hstep, hrest⟩ := (Machine.run_cons_eq_some s t e es).mp h
      have hsub := ih hrest
      rcases step_cases hstep with
        ⟨event, toServer, server, rfl, htaken, -, rfl⟩ |
        ⟨event, toClient, client, rfl, -, hevent, rfl⟩ | ⟨rfl, rfl⟩ | ⟨rfl, rfl⟩
      · show List.Sublist ((event :: serverEvents es).filterMap L.takes ++ _) _
        rw [htaken, List.filterMap_cons]
        cases L.takes event with
        | none => exact hsub
        | some message => exact hsub.cons_cons message
      · show List.Sublist _
          (s.toServer ++ L.client.output L.sends s.client (event :: clientEvents es))
        rw [Machine.output_cons hevent, ← List.append_assoc]
        exact hsub
      · exact hsub
      · exact hsub.trans (List.Sublist.append_right (List.tail_sublist _) _)

/-- What the client handles, the server has sent before: some step of the server's own part of the
run delivers the message. -/
theorem handled_sent (h : L.machine.run s es = some t) (hempty : s.toClient = []) {event : δ}
    {message : μ} (hevent : event ∈ clientEvents es) (hhandles : L.handles event = some message) :
    ∃ before e u v, L.server.Makes s.server (serverEvents es) before e u ∧
      L.server.step u e = some v ∧ message ∈ L.delivers u e v := by
  have hsub := handled_sublist h
  rw [hempty, List.nil_append] at hsub
  exact Machine.mem_output (hsub.subset (List.mem_append_left _
    (List.mem_filterMap.mpr ⟨event, hevent, hhandles⟩)))

/-- The client has sent what the server takes in. -/
theorem taken_sent (h : L.machine.run s es = some t) (hempty : s.toServer = []) {event : ε}
    {message : ν} (hevent : event ∈ serverEvents es) (htakes : L.takes event = some message) :
    ∃ before e u v, L.client.Makes s.client (clientEvents es) before e u ∧
      L.client.step u e = some v ∧ message ∈ L.sends u e v := by
  have hsub := taken_sublist h
  rw [hempty, List.nil_append] at hsub
  exact Machine.mem_output (hsub.subset (List.mem_append_left _
    (List.mem_filterMap.mpr ⟨event, hevent, htakes⟩)))

end Link

end Dcvp.Lib
