import Dcvp.Lib.Link
import Dcvp.Modules.ProctorGateway

/-!
# `Dcvp.Web.ProctorSocket`: the connection of a page to the proctoring gateway

The pages that take part in live proctoring call `io(proctorSocketUrl())`. What a page passes
to `socket.emit` becomes a call of the gateway, and what the gateway emits to a socket, or to a
room with the socket in it, reaches the handlers of the page.

A client of `socket.io` connects again when its connection breaks, and the new connection has
another identifier. So a page has many sockets in the course of time. `owns` tells which
identifiers are given to the connections of the page, and is arbitrary. The calls over all
other sockets are arbitrary as well: they come from other pages, or from no page at all.
-/

set_option autoImplicit false

namespace Dcvp.Web

open Dcvp.Lib
open Dcvp.Modules

/-- A message of a page to the gateway. -/
inductive ClientMessage where
  | joinAdmin (payload : JoinAdminPayload)
  | joinCandidate (payload : JoinCandidatePayload)
  | signal (event : SignalEvent) (payload : SignalPayload)
  deriving DecidableEq

/-- The message of the page that starts a call of the gateway. -/
def messageTaken (owns : SocketId → Bool) : GatewayEvent → Option ClientMessage
  | .invoke (.joinAdmin id payload) _ => if owns id then some (.joinAdmin payload) else none
  | .invoke (.joinCandidate id payload) _ =>
      if owns id then some (.joinCandidate payload) else none
  | .invoke (.signal id event payload) _ =>
      if owns id then some (.signal event payload) else none
  | _ => none

/-- Whether an emission reaches a socket of the page. -/
def reachesPage (owns : SocketId → Bool) (m : GatewayMemory) (emission : Emission) : Bool :=
  match emission.target with
  | .client id => owns id
  | .room name => m.sockets.entries.any fun entry => owns entry.1 && decide (name ∈ entry.2.rooms)

/-- What a move of the gateway sends to the page. No move lets a socket enter or leave the room
to which it sends, so the rooms before the move decide. -/
def sentToPage (owns : SocketId → Bool) (w : GatewayWorld) (_ : GatewayEvent)
    (w' : GatewayWorld) : List ServerMessage :=
  ((w'.memory.emissions.drop w.memory.emissions.length).filter (reachesPage owns w.memory)).map
    (·.message)

/-- The gateway and a page, linked by the messages of the sockets that the page owns. -/
def gatewayLink {κ δ : Type} (owns : SocketId → Bool) (page : Machine κ δ)
    (handles : δ → Option ServerMessage) (sends : κ → δ → κ → List ClientMessage) :
    Link GatewayWorld GatewayEvent κ δ ServerMessage ClientMessage where
  server := gatewayProgram.machine
  client := page
  takes := messageTaken owns
  handles
  delivers := sentToPage owns
  sends

/-- The gateway before any socket has connected, and the page as it is opened. -/
def linkInitial {κ : Type} (page : κ) : LinkState GatewayWorld κ ServerMessage ClientMessage :=
  { server := gatewayInitial, client := page }

end Dcvp.Web
