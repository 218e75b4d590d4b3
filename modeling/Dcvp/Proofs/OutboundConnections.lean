import Dcvp.Services.OutboundHttpSecurity

/-!
# `Dcvp.Proofs.OutboundConnections`: where outbound requests go

In production, the URL of every connection has passed the checks (`connection_spec`): it is an
`https:` URL without credentials, and its host is no address. The addresses of the first DNS answer
are public. But `fetch` connects to those of the second answer, which nothing looks at. So the
connections of a call are to public addresses exactly when its second answer is public as well
(`outbound_connections_public_iff`).

`no_connection_of_v4` is about the block list. The subnet of the mapped addresses is on it, and
every IPv4 address counts as one of them. So a host with an IPv4 address is never connected to.
-/

set_option autoImplicit false

namespace Dcvp.Proofs

open Dcvp.Lib
open Dcvp.Services

section
variable {ctx : OutboundContext} {call : OutboundCall} {outcome : FetchOutcome} {url : Url}

/-! ### The checks -/

/-- The URLs that production accepts: encrypted, without a user in them, and with a name for a
host. -/
structure SafeUrl (url : Url) : Prop where
  protocol : url.protocol = "https:"
  username : url.username = ""
  password : url.password = ""
  host : isIP (normalizeHostname url.hostname) = false

/-- What the URL has to be in production, one field for each check of `parseSafeOutboundUrl`. -/
theorem safeUrl_of_parse (hproduction : ctx.nodeEnv = some "production") {rawUrl : String}
    (h : parseSafeOutboundUrl ctx rawUrl = .ok url) : SafeUrl url := by
  unfold parseSafeOutboundUrl at h
  cases hparse : ctx.parseUrl rawUrl with
  | none =>
      rw [hparse] at h
      cases h
  | some parsed =>
      simp only [hparse, hproduction, ne_eq, not_true_eq_false, decide_false, Bool.false_and,
        and_true] at h
      split at h
      · cases h
      · rename_i hcredentials
        split at h
        · cases h
        · rename_i hprotocol
          split at h
          · cases h
          · rename_i hhost
            cases h
            simp only [not_or, Decidable.not_not] at hcredentials hprotocol
            exact ⟨hprotocol, hcredentials.1, hcredentials.2, Bool.eq_false_iff.mpr hhost⟩

/-- In production, the first answer has addresses, and all of them are public. -/
theorem lookup_of_assert (hproduction : ctx.nodeEnv = some "production")
    {lookup : Option (List String)} (h : assertHostnameResolvesSafely ctx url lookup = .ok ()) :
    ∃ addresses, lookup = some addresses ∧ addresses ≠ [] ∧
      ∀ address ∈ addresses, isPublicIpAddress address = true := by
  unfold assertHostnameResolvesSafely at h
  rw [if_neg (fun hloopback => hloopback.2 hproduction),
    if_neg (fun htest => htest.1 hproduction)] at h
  cases lookup with
  | none => cases h
  | some addresses =>
      refine ⟨addresses, rfl, ?_⟩
      simp only at h
      split at h
      · cases h
      · rename_i hpublic
        rw [not_or] at hpublic
        refine ⟨hpublic.1, fun address haddress => ?_⟩
        by_contra hprivate
        exact hpublic.2 (List.any_eq_true.mpr ⟨address, haddress, by simp [hprivate]⟩)

/-- The call reaches `fetch`: its URL and its own DNS answer pass the checks. -/
def PassesChecks (ctx : OutboundContext) (call : OutboundCall) (url : Url) : Prop :=
  parseSafeOutboundUrl ctx call.rawUrl = .ok url ∧
    assertHostnameResolvesSafely ctx url call.lookup = .ok ()

/-- Connections are opened after the checks only, and to the second answer. -/
theorem connection_spec (c : Connection) :
    c ∈ (secureOutboundFetch ctx call outcome).1 ↔
      PassesChecks ctx call c.url ∧ c.address ∈ call.resolved.take outcome.tried := by
  unfold secureOutboundFetch PassesChecks
  -- Either check throws before anything is opened. After them `fetch` looks the name up again, and
  -- takes its addresses in their order.
  cases hparse : parseSafeOutboundUrl ctx call.rawUrl with
  | error error => simp
  | ok url =>
      dsimp only
      cases hlookup : assertHostnameResolvesSafely ctx url call.lookup with
      | error error =>
          dsimp only
          constructor
          · intro h
            cases h
          · rintro ⟨⟨hurl, hpassed⟩, -⟩
            cases hurl
            rw [hlookup] at hpassed
            cases hpassed
      | ok _ =>
          dsimp only [fetch]
          rw [List.mem_map]
          constructor
          · rintro ⟨address, haddress, rfl⟩
            exact ⟨⟨rfl, hlookup⟩, haddress⟩
          · rintro ⟨⟨hurl, -⟩, haddress⟩
            cases hurl
            exact ⟨c.address, haddress, rfl⟩

/-! ### The two answers -/

/-- A connection for a safe URL to a public address. -/
def PublicTarget (c : Connection) : Prop :=
  SafeUrl c.url ∧ isPublicIpAddress c.address = true

/-- However the connections end, all of them are for safe URLs and to public addresses. -/
def OpensOnlyPublic (ctx : OutboundContext) (call : OutboundCall) : Prop :=
  ∀ outcome, ∀ c ∈ (secureOutboundFetch ctx call outcome).1, PublicTarget c

/-- When the call passes its checks, the addresses of the second answer are public as well. -/
def SecondAnswerPublic (ctx : OutboundContext) (call : OutboundCall) : Prop :=
  (∃ url, PassesChecks ctx call url) →
    ∀ address ∈ call.resolved, isPublicIpAddress address = true

/-- The connections of a call in production are to public addresses exactly when the name is
resolved to public addresses again. -/
theorem outbound_connections_public_iff (hproduction : ctx.nodeEnv = some "production")
    (call : OutboundCall) : OpensOnlyPublic ctx call ↔ SecondAnswerPublic ctx call := by
  constructor
  · rintro hpublic ⟨url, hpassed⟩ address haddress
    -- `fetch` may try every address of the answer
    have hopened : (⟨url, address⟩ : Connection) ∈
        (secureOutboundFetch ctx call ⟨call.resolved.length, true⟩).1 :=
      (connection_spec _).mpr ⟨hpassed, by rw [List.take_length]; exact haddress⟩
    exact (hpublic _ _ hopened).2
  · intro hsecond outcome c hc
    obtain ⟨hpassed, haddress⟩ := (connection_spec c).mp hc
    exact ⟨safeUrl_of_parse hproduction hpassed.1,
      hsecond ⟨c.url, hpassed⟩ c.address (List.mem_of_mem_take haddress)⟩

/-- A second answer that adds no address to the first one is public. -/
theorem secondAnswerPublic_of_subset (hproduction : ctx.nodeEnv = some "production")
    (hsubset : ∀ addresses, call.lookup = some addresses → call.resolved ⊆ addresses) :
    SecondAnswerPublic ctx call := by
  rintro ⟨url, -, hpassed⟩ address haddress
  obtain ⟨addresses, hlookup, -, hpublic⟩ := lookup_of_assert hproduction hpassed
  exact hpublic address (hsubset addresses hlookup haddress)

/-! ### IPv4 -/

/-- No IPv4 address is public. -/
theorem isPublicIpAddress_v4 {address : String} {bits : BitVec 32}
    (h : IpAddress.read address = some (.v4 bits)) : isPublicIpAddress address = false := by
  have hmapped : (⟨.v6 0xFFFF00000000, 96⟩ : Subnet) ∈ createNonPublicBlockList := by
    decide +kernel
  have hblocked : createNonPublicBlockList.any (IpAddress.v4 bits).inSubnet = true :=
    List.any_eq_true.mpr ⟨_, hmapped, IpAddress.inSubnet_mapped bits⟩
  simp [isPublicIpAddress, h, hblocked]

/-- A host with an IPv4 address is not connected to. -/
theorem no_connection_of_v4 (hproduction : ctx.nodeEnv = some "production")
    {addresses : List String} {address : String} {bits : BitVec 32}
    (hlookup : call.lookup = some addresses) (haddress : address ∈ addresses)
    (hv4 : IpAddress.read address = some (.v4 bits)) :
    (secureOutboundFetch ctx call outcome).1 = [] := by
  refine List.eq_nil_iff_forall_not_mem.mpr fun c hc => ?_
  obtain ⟨answered, hanswered, -, hpublic⟩ :=
    lookup_of_assert hproduction ((connection_spec c).mp hc).1.2
  rw [hlookup] at hanswered
  cases hanswered
  have hprivate := isPublicIpAddress_v4 hv4
  rw [hpublic address haddress] at hprivate
  cases hprivate

end

/-! ### A name that is bound again -/

/-- Production, where the parser knows the URL of the examples. -/
def outboundContext : OutboundContext where
  nodeEnv := some "production"
  parseUrl := fun rawUrl =>
    if rawUrl = "https://kyc.example.com/identity/verify" then
      some { protocol := "https:", username := "", password := "", hostname := "kyc.example.com" }
    else none

/-- A call whose second answer is `resolved`. -/
def verifyCall (resolved : List String) : OutboundCall where
  rawUrl := "https://kyc.example.com/identity/verify"
  lookup := some ["2606:4700::6810:84e5"]
  resolved

/-- The name has a public address for the check, and an address of the private network for the
connection. -/
theorem rebound_name_reaches_private_address :
    ((secureOutboundFetch outboundContext (verifyCall ["10.0.0.1"]) ⟨1, true⟩).1.map (·.address) =
        ["10.0.0.1"] ∧ isPublicIpAddress "10.0.0.1" = false) ∧
      ¬ OpensOnlyPublic outboundContext (verifyCall ["10.0.0.1"]) := by
  have hopened : (secureOutboundFetch outboundContext (verifyCall ["10.0.0.1"])
      ⟨1, true⟩).1.map (·.address) = ["10.0.0.1"] := by decide +kernel
  have hprivate : isPublicIpAddress "10.0.0.1" = false := by decide +kernel
  refine ⟨⟨hopened, hprivate⟩, fun hpublic => ?_⟩
  have hmem : "10.0.0.1" ∈ (secureOutboundFetch outboundContext (verifyCall ["10.0.0.1"])
      ⟨1, true⟩).1.map (·.address) := by simp [hopened]
  obtain ⟨c, hc, haddress⟩ := List.mem_map.mp hmem
  have htarget := (hpublic ⟨1, true⟩ c hc).2
  rw [haddress, hprivate] at htarget
  cases htarget

/-- Where the two answers agree, the connection is to the address that was checked. -/
theorem outbound_connections_public_iff_same :
    (secureOutboundFetch outboundContext (verifyCall ["2606:4700::6810:84e5"])
        ⟨1, true⟩).1.map (·.address) = ["2606:4700::6810:84e5"] ∧
      OpensOnlyPublic outboundContext (verifyCall ["2606:4700::6810:84e5"]) := by
  refine ⟨by decide +kernel, (outbound_connections_public_iff rfl _).mpr ?_⟩
  refine secondAnswerPublic_of_subset rfl fun addresses hlookup => ?_
  cases hlookup
  exact List.Subset.refl _

end Dcvp.Proofs
