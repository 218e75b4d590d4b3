import Dcvp.Js
import Dcvp.Json

/-!
# `Dcvp.Web.ProctorIceServers`: the ICE servers of the browser

`parseIceServer` and `getProctorIceServers` of `proctoring.ts` in the web application. The variable
`VITE_PROCTOR_ICE_SERVERS` is fixed when the application is built. `JSON.parse` is a parameter, and
answers `none` for a `SyntaxError`.
-/

set_option autoImplicit false

namespace Dcvp.Web

/-- The `urls` of an `RTCIceServer`, which WebRTC takes as one text or as a list. -/
inductive IceUrls where
  | single (url : String)
  | several (urls : List String)
  deriving DecidableEq

/-- `RTCIceServer`: a STUN or TURN server with the credentials that TURN asks for. -/
structure IceServer where
  urls : IceUrls
  username : Option String := none
  credential : Option String := none
  deriving DecidableEq

/-- The addresses of a server, of which it may have one or several. -/
def IceServer.addresses (server : IceServer) : List String :=
  match server.urls with
  | .single url => [url]
  | .several urls => urls

/-- `defaultIceServers`: one STUN server, which relays nothing. -/
def defaultIceServers : List IceServer := [{ urls := .single "stun:stun.l.google.com:19302" }]

/-- The checks of `urls` in `parseIceServer`: one text, or the texts of a list. -/
def parseIceUrls : Option JsonValue → Option IceUrls
  | some (.string url) => some (.single url)
  | some (.array urls) =>
      let validUrls := urls.filterMap JsonValue.string?
      if validUrls = [] then none else some (.several validUrls)
  | _ => none

/-- `parseIceServer`: a server with its addresses, and with an account where it has texts for it.
-/
def parseIceServer (value : JsonValue) : Option IceServer :=
  match value.members? with
  | none => none
  | some members =>
      let text (key : String) := (readUnknown members key).bind JsonValue.string?
      (parseIceUrls (readUnknown members "urls")).map fun urls =>
        { urls, username := text "username", credential := text "credential" }

/-- `getProctorIceServers`, of the variable `VITE_PROCTOR_ICE_SERVERS`: its servers, or the default
one. -/
def getProctorIceServers (parseJson : String → Option JsonValue) (raw : Option String) :
    List IceServer :=
  match raw with
  | none => defaultIceServers
  | some raw =>
      if Js.trim raw = "" then defaultIceServers
      else
        match parseJson raw with
        | some (.array entries) =>
            let configured := entries.filterMap parseIceServer
            if configured ≠ [] then configured else defaultIceServers
        | _ => defaultIceServers

end Dcvp.Web
