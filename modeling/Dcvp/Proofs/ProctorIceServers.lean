import Dcvp.Proofs.OperationsReadiness
import Dcvp.Web.ProctorIceServers

/-!
# `Dcvp.Proofs.ProctorIceServers`: the check of the TURN servers and the browser

The server looks for a TURN server with credentials in a text, and the browser makes its list of
servers from the text. They read it in functions of their own: the server accepts a `turn:` address
in any case and with blanks around it, and the browser keeps every entry that has an address at
all.

The server trims the text before it parses it, and the browser does not. `turn_reaches_browser`
says what follows: the relay that the server has found is in the list of the browser exactly when
the white space around the text is white space of JSON. After a byte order mark or a non-breaking
space the browser is left with its default list, which has no relay.

`JSON.parse` is a parameter, with `ParsesJson` for what is documented of it.
-/

set_option autoImplicit false

namespace Dcvp.Proofs

open Dcvp.Services
open Dcvp.Web

/-- A server that the browser has read has an address: the parser drops what has none. -/
theorem addresses_of_parseIceServer {value : JsonValue} {server : IceServer}
    (h : parseIceServer value = some server) : server.addresses ≠ [] := by
  unfold parseIceServer at h
  split at h
  · cases h
  · obtain ⟨urls, hurls, rfl⟩ := Option.map_eq_some_iff.mp h
    unfold parseIceUrls at hurls
    split at hurls
    · cases hurls
      exact List.cons_ne_nil _ _
    · dsimp only at hurls
      split at hurls
      · cases hurls
      · rename_i hvalid
        cases hurls
        exact hvalid
    · cases hurls

/-- The list of the browser is never empty, and each of its servers has an address. -/
theorem getProctorIceServers_addresses (parseJson : String → Option JsonValue)
    (raw : Option String) :
    getProctorIceServers parseJson raw ≠ [] ∧
      ∀ server ∈ getProctorIceServers parseJson raw, server.addresses ≠ [] := by
  have hdefault : defaultIceServers ≠ [] ∧
      ∀ server ∈ defaultIceServers, server.addresses ≠ [] := by decide
  unfold getProctorIceServers
  split
  · exact hdefault
  · split
    · exact hdefault
    · split
      · rename_i entries _
        dsimp only
        split
        · rename_i hconfigured
          refine ⟨hconfigured, fun server hserver => ?_⟩
          obtain ⟨entry, -, hparsed⟩ := List.mem_filterMap.mp hserver
          exact addresses_of_parseIceServer hparsed
        · exact hdefault
      · exact hdefault

/-- The default list has no relay, because its server has no name. -/
theorem not_relaysFor_default (ctx : ReadinessContext) {server : IceServer}
    (hserver : server ∈ defaultIceServers) : ¬ RelaysFor ctx server := by
  rintro ⟨-, husername, -⟩
  obtain rfl := List.mem_singleton.mp hserver
  cases husername

/-- A text that the browser cannot parse leaves it with its default list. -/
theorem getProctorIceServers_of_syntaxError {parseJson : String → Option JsonValue} {raw : String}
    (h : parseJson raw = none) : getProctorIceServers parseJson (some raw) = defaultIceServers := by
  unfold getProctorIceServers
  simp only [h, ite_self]

/-- A relay of the text is in the list of the browser, when the browser parses what the server has
parsed. -/
theorem exists_relay_of_namesRelay {ctx : ReadinessContext} {raw : String}
    (hparse : ctx.parseJson raw = ctx.parseJson (Js.trim raw)) (h : NamesRelay ctx raw) :
    ∃ server ∈ getProctorIceServers ctx.parseJson (some raw), RelaysFor ctx server := by
  obtain ⟨hempty, entries, hentries, entry, hentry, server, hserver, hrelays⟩ := h
  have hconfigured : server ∈ entries.filterMap parseIceServer :=
    List.mem_filterMap.mpr ⟨entry, hentry, hserver⟩
  refine ⟨server, ?_, hrelays⟩
  simp only [getProctorIceServers, hempty, if_false, hparse, hentries]
  rw [if_pos (List.ne_nil_of_mem hconfigured)]
  exact hconfigured

/-- A report that calls the TURN servers ready, when the application was built with the text that
the report has read.
* The list of the browser has a server that relays exactly when `trim` takes no more from the text
  than the white space of JSON.
* Where it takes more, the browser is left with its default list.
* No server of the list is without an address, whatever the text. -/
theorem turn_reaches_browser (ctx : ReadinessContext) (raw : String)
    (hparser : ParsesJson ctx.parseJson) (hserver : ctx.proctorIceServers = none)
    (hbuilt : ctx.viteProctorIceServers = some raw) (hready : ctx.proctorIceCheck.status = .ready) :
    ((∃ server ∈ getProctorIceServers ctx.parseJson (some raw), RelaysFor ctx server) ↔
        Js.trim raw = trimJson raw) ∧
      (Js.trim raw ≠ trimJson raw →
        getProctorIceServers ctx.parseJson (some raw) = defaultIceServers) ∧
      ∀ server ∈ getProctorIceServers ctx.parseJson (some raw), server.addresses ≠ [] := by
  obtain ⟨own, hown, hrelay⟩ := relay_of_ready hready
  rw [hserver, hbuilt] at hown
  obtain rfl : own = raw := (Option.some.inj hown).symm
  have hlost (hspace : Js.trim own ≠ trimJson own) :
      getProctorIceServers ctx.parseJson (some own) = defaultIceServers :=
    getProctorIceServers_of_syntaxError (hparser.strict own hspace)
  refine ⟨⟨?_, fun hspace => ?_⟩, hlost, (getProctorIceServers_addresses ctx.parseJson _).2⟩
  · rintro ⟨server, hmem, hrelays⟩
    by_contra hspace
    rw [hlost hspace] at hmem
    exact not_relaysFor_default ctx hmem hrelays
  · have hparse : ctx.parseJson own = ctx.parseJson (Js.trim own) := by
      rw [hspace]
      exact hparser.padding own
    exact exists_relay_of_namesRelay hparse hrelay

/-! ### Two texts -/

/-- The text of one TURN server. -/
def turnText : String :=
  "[\x7b\"urls\": \"turns:turn.dcvp.kr:5349\", \"username\": \"proctor\", " ++
    "\"credential\": \"a8f31c\"\x7d]"

/-- The value of the text. -/
def turnValue : JsonValue :=
  .array [.object [("urls", .string "turns:turn.dcvp.kr:5349"), ("username", .string "proctor"),
    ("credential", .string "a8f31c")]]

/-- A parser for the text and what may be around it. -/
def parseTurnText (raw : String) : Option JsonValue :=
  if trimJson raw = turnText then some turnValue else none

/-- A build with the text, and with something around it. -/
def turnContext (front back : String) : ReadinessContext :=
  { productionReadiness with
    viteProctorIceServers := some (front ++ turnText ++ back)
    parseJson := parseTurnText }

/-- Nothing around the text has to be trimmed. -/
theorem trim_turnText : Js.trim turnText = turnText := by decide +kernel

/-- The small parser of the example does what is documented of `JSON.parse`: white space of JSON
around the text changes nothing, and any other white space there is an error. -/
theorem parsesJson_parseTurnText : ParsesJson parseTurnText where
  padding raw := by
    unfold parseTurnText
    rw [trimJson_trimJson]
  strict raw hspace := by
    refine if_neg fun htext => hspace ?_
    -- `trim` sees the same text after the white space of JSON is gone.
    rw [htext, ← trim_trimJson, htext, trim_turnText]

/-- Between blanks the text reaches the browser. After a byte order mark the server has found it
too, and the browser has its default list. -/
theorem turn_reaches_browser_turns :
    (∃ server ∈ getProctorIceServers parseTurnText (some (" " ++ turnText ++ "\n")),
        RelaysFor (turnContext " " "\n") server) ∧
      getProctorIceServers parseTurnText (some ("\uFEFF" ++ turnText ++ "")) =
        defaultIceServers := by
  have hblank := turn_reaches_browser (turnContext " " "\n") (" " ++ turnText ++ "\n")
    parsesJson_parseTurnText rfl rfl (by decide +kernel)
  have hmark := turn_reaches_browser (turnContext "\uFEFF" "") ("\uFEFF" ++ turnText ++ "")
    parsesJson_parseTurnText rfl rfl (by decide +kernel)
  exact ⟨hblank.1.mpr (by decide +kernel), hmark.2.1 (by decide +kernel)⟩

end Dcvp.Proofs
