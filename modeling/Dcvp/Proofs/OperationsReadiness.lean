import Dcvp.Proofs.EmailDelivery
import Dcvp.Services.CodeRunner
import Dcvp.Services.OperationsReadiness
import Dcvp.Web.ProctorIceServers

/-!
# `Dcvp.Proofs.OperationsReadiness`: the report and the services

The report reads the variables in functions of its own, and the services read them again.
`readiness_matches_services` compares the two: what a check calls ready is what the service
behind it accepts. The report as a whole is never ready, because the check of the code runner is
not.

`toLowerCase` is a parameter, so that it keeps the empty text is a hypothesis.
-/

set_option autoImplicit false

namespace Dcvp.Proofs

open Dcvp.Lib
open Dcvp.Services
open Dcvp.Services.PlatformStore
open Dcvp.Web

/-! ### Variables -/

/-- A variable with a usable value is set, and its value is not empty, since the empty text is not
usable. -/
theorem truthy_of_hasUsableVariable {text : Js.CaseMapping} (hempty : text.toLowerCase "" = "")
    {value : Option String} (h : hasUsableVariable text value = true) :
    ∃ own, value = some own ∧ own ≠ "" := by
  cases value with
  | none => cases h
  | some own =>
      refine ⟨own, rfl, ?_⟩
      rintro rfl
      have husable : hasUsableConfigValue text "" = true := h
      have htrim : Js.trim "" = "" := by decide
      unfold hasUsableConfigValue at husable
      rw [htrim, hempty] at husable
      simp at husable

/-! ### The TURN servers -/

/-- A server that relays, with a name and a password. -/
def RelaysFor (ctx : ReadinessContext) (server : IceServer) : Prop :=
  (∃ url ∈ server.addresses, ctx.isTurnUrl url = true) ∧
    hasUsableVariable ctx.text server.username = true ∧
    hasUsableVariable ctx.text server.credential = true

/-- An entry with a `turn:` address has one in the browser as well. -/
theorem parseIceUrls_of_turn {ctx : ReadinessContext} {urls : Option JsonValue}
    (h : (match urls with
      | some (.string urls) => ctx.isTurnUrl urls
      | some (.array urls) => urls.any fun url => (url.string?.map ctx.isTurnUrl).getD false
      | _ => false) = true) :
    ∃ own, parseIceUrls urls = some own ∧
      ∃ url ∈ (IceServer.mk own none none).addresses, ctx.isTurnUrl url = true := by
  split at h
  · rename_i url
    exact ⟨.single url, rfl, url, by simp [IceServer.addresses], h⟩
  · rename_i urls
    obtain ⟨entry, hentry, hused⟩ := List.any_eq_true.mp h
    cases htext : entry.string? with
    | none =>
        rw [htext] at hused
        cases hused
    | some url =>
        rw [htext] at hused
        have hvalid : url ∈ urls.filterMap JsonValue.string? :=
          List.mem_filterMap.mpr ⟨entry, hentry, htext⟩
        exact ⟨.several _, if_neg (List.ne_nil_of_mem hvalid), url, hvalid, hused⟩
  · cases h

/-- What the server takes for a usable entry, the browser takes for a server. -/
theorem parseIceServer_of_usable {ctx : ReadinessContext} {value : JsonValue}
    (h : ctx.isUsableTurnServer value = true) :
    ∃ server, parseIceServer value = some server ∧ RelaysFor ctx server := by
  unfold ReadinessContext.isUsableTurnServer at h
  unfold parseIceServer
  cases hmembers : value.members? with
  | none =>
      rw [hmembers] at h
      cases h
  | some members =>
      rw [hmembers] at h
      simp only [Bool.and_eq_true] at h
      obtain ⟨⟨hturn, husername⟩, hcredential⟩ := h
      obtain ⟨urls, hurls, haddress⟩ := parseIceUrls_of_turn hturn
      dsimp only
      rw [hurls]
      exact ⟨_, rfl, haddress, husername, hcredential⟩

/-- The text names a server that relays: it parses to a list, and the browser reads a server with
a `turn:` address, a name and a password from one of the entries. -/
def NamesRelay (ctx : ReadinessContext) (raw : String) : Prop :=
  Js.trim raw ≠ "" ∧ ∃ entries, ctx.parseJson (Js.trim raw) = some (.array entries) ∧
    ∃ entry ∈ entries, ∃ server, parseIceServer entry = some server ∧ RelaysFor ctx server

section
variable {ctx : ReadinessContext}

/-! ### The checks -/

/-- In production the store has its database when the check says so. No call of it uses the
memory then. -/
theorem database_of_ready {databaseAnswers : Bool} (hempty : ctx.text.toLowerCase "" = "")
    (hproduction : ctx.production = true)
    (h : (ctx.databaseCheck databaseAnswers).status = .ready) {α : Type}
    (operation : DatabaseOperation α) (store : Store) :
    (tryDatabase ctx.store operation store).1 ≠ .ok none := by
  unfold ReadinessContext.databaseCheck at h
  split at h
  · cases h
  · rename_i hconfigured
    obtain ⟨henabled, husable⟩ := not_or.mp hconfigured
    obtain ⟨url, hurl, hne⟩ := truthy_of_hasUsableVariable hempty (by simpa using husable)
    -- The three switches of `tryDatabase` under the checked configuration: production, no demo
    -- accounts, a database. So it never falls back.
    have hstore : ctx.store.production = true := hproduction
    have hdemo : ctx.store.demoAuthEnabled = false := by
      unfold StoreContext.demoAuthEnabled
      split
      · rfl
      · rw [hstore]
        rfl
    have hdatabase : ctx.store.hasDatabase = true := by
      unfold StoreContext.hasDatabase
      simp [henabled, hurl, hne, hdemo, Js.truthy]
    have hfallback : ctx.store.databaseFallbackEnabled = false := by
      unfold StoreContext.databaseFallbackEnabled
      simp [henabled, hdemo, hstore]
    have huses : store.usesMemory ctx.store = false := by
      simp [Store.usesMemory, hdatabase, hfallback]
    unfold tryDatabase
    rw [huses, hfallback]
    simp only [Bool.false_eq_true, if_false]
    split
    · exact fun hnone => nomatch hnone
    · split <;> exact fun hnone => nomatch hnone

/-- Whoever is invited is sent one request when the check of the e-mails is ready. -/
theorem request_of_emailReady (hempty : ctx.text.toLowerCase "" = "")
    (h : ctx.emailCheck.status = .ready) {S : Type} {email : EmailContext S}
    (henv : email.env = ctx.email) (htext : email.text = ctx.text)
    (input : SendInviteEmailInput) (transport : EmailTransport) :
    (Services.sendInvite email input transport).requests.length = 1 := by
  unfold ReadinessContext.emailCheck at h
  dsimp only at h
  split at h
  · rename_i hready
    obtain ⟨hprovider, hconfig⟩ := hready
    unfold ReadinessContext.hasUsableResendConfig at hconfig
    cases hkey : ctx.email.resendApiKey.map Js.trim with
    | none =>
        rw [hkey] at hconfig
        cases hconfig
    | some apiKey =>
        rw [hkey] at hconfig
        simp only [Bool.and_eq_true, decide_eq_true_iff] at hconfig
        obtain ⟨⟨hstart, husable⟩, haddress⟩ := hconfig
        obtain ⟨address, haddress, hne⟩ := truthy_of_hasUsableVariable hempty haddress
        have hkeyNe : apiKey ≠ "" := by
          rintro rfl
          exact absurd hstart (by decide)
        -- The adapter asks of the key what the check asks, and of the sender that it is set.
        have hparse : parseResendApiKey email email.env.resendApiKey = .ok apiKey := by
          have htruthy : Js.truthy (some apiKey) = some apiKey := by simp [Js.truthy, hkeyNe]
          unfold parseResendApiKey
          rw [henv, hkey, htruthy, htext]
          dsimp only
          rw [if_neg (by simp [husable]), if_neg (not_not_intro hstart)]
        have hrequest : ∃ request, resendRequest email input = .ok request := by
          have hsender : Js.truthy email.env.emailFromAddress = some address := by
            simp [henv, haddress, Js.truthy, hne]
          unfold resendRequest
          rw [hparse, hsender]
          exact ⟨_, rfl⟩
        obtain ⟨request, hrequest⟩ := hrequest
        unfold Services.sendInvite
        rw [henv, hprovider, hrequest]
        rfl
  · split at h <;> cases h

/-- An address that `providerBaseUrl` allows passes the guard of the calls, unless it names an
account. -/
theorem parseSafeOutboundUrl_of_allowed {nodeEnv : Option String}
    {parseUrl : String → Option WebUrl} {rawUrl : String} {url : WebUrl}
    (hparse : parseUrl rawUrl = some url) (hallowed : isAllowedProviderUrl nodeEnv url.toUrl = true)
    (huser : url.username = "") (hpassword : url.password = "") :
    parseSafeOutboundUrl { nodeEnv, parseUrl := fun raw => (parseUrl raw).map (·.toUrl) } rawUrl =
      .ok url.toUrl := by
  unfold parseSafeOutboundUrl
  simp only [hparse, Option.map_some, huser, hpassword]
  unfold isAllowedProviderUrl at hallowed
  cases hloopback : isLoopbackHostname url.hostname with
  | true =>
      -- A loopback address is allowed with either protocol, outside of production.
      simp only [hloopback, if_true, Bool.and_eq_true, decide_eq_true_iff] at hallowed
      simp [hallowed.1, hallowed.2]
  | false =>
      simp only [hloopback, Bool.false_eq_true, if_false, Bool.and_eq_true, decide_eq_true_iff,
        isProviderIpLiteral, Bool.not_eq_true', Bool.or_eq_false_iff] at hallowed
      simp [hallowed.1, hallowed.2.1]

/-- An address that names an account never passes the guard of the calls. -/
theorem account_of_parseSafeOutboundUrl {nodeEnv : Option String}
    {parseUrl : String → Option WebUrl} {rawUrl : String} {url : WebUrl} {own : Url}
    (hparse : parseUrl rawUrl = some url)
    (h : parseSafeOutboundUrl
      { nodeEnv, parseUrl := fun raw => (parseUrl raw).map (·.toUrl) } rawUrl = .ok own) :
    url.username = "" ∧ url.password = "" := by
  unfold parseSafeOutboundUrl at h
  simp only [hparse, Option.map_some] at h
  split at h
  · cases h
  · rename_i hplain
    exact not_or.mp hplain |>.imp not_not.mp not_not.mp

/-- The configured address passes the guard of the calls as well, exactly when it names no
account. -/
theorem kyc_of_ready (hempty : ctx.text.toLowerCase "" = "")
    (h : ctx.kycCheck.status = .ready) :
    ∃ rawUrl url baseUrl apiKey, ctx.kycSandboxApiBaseUrl = some rawUrl ∧
      ctx.parseUrl rawUrl = some url ∧
      providerBaseUrl ctx.store.env.nodeEnv ctx.parseUrl ctx.kycSandboxApiBaseUrl = .ok baseUrl ∧
      Js.truthy ctx.kycSandboxApiKey = some apiKey ∧
      (parseSafeOutboundUrl
          { nodeEnv := ctx.store.env.nodeEnv, parseUrl := fun raw => (ctx.parseUrl raw).map (·.toUrl) }
          rawUrl = .ok url.toUrl ↔ url.username = "" ∧ url.password = "") := by
  unfold ReadinessContext.kycCheck at h
  split at h
  · rename_i hconfig
    simp only [ReadinessContext.hasUsableKycConfig, Bool.and_eq_true] at hconfig
    obtain ⟨⟨hbase, hkey⟩, hok⟩ := hconfig
    obtain ⟨rawUrl, hraw, hrawNe⟩ := truthy_of_hasUsableVariable hempty hbase
    obtain ⟨apiKey, hkey, hkeyNe⟩ := truthy_of_hasUsableVariable hempty hkey
    have htruthy : Js.truthy (some rawUrl) = some rawUrl := by simp [Js.truthy, hrawNe]
    unfold providerBaseUrl at hok ⊢
    rw [hraw, htruthy] at hok ⊢
    dsimp only at hok ⊢
    cases hparse : ctx.parseUrl rawUrl with
    | none =>
        rw [hparse] at hok
        cases hok
    | some url =>
        rw [hparse] at hok
        dsimp only at hok ⊢
        -- Both the check and the call take the address through `providerBaseUrl`; the guard of the
        -- calls refuses an address with a user in it besides.
        cases hallowed : isAllowedProviderUrl ctx.store.env.nodeEnv url.toUrl with
        | false =>
            rw [hallowed] at hok
            cases hok
        | true =>
            refine ⟨rawUrl, url, _, apiKey, rfl, hparse, rfl, ?_, ?_, fun hplain => ?_⟩
            · rw [hkey]
              simp [Js.truthy, hkeyNe]
            · exact account_of_parseSafeOutboundUrl hparse
            · exact parseSafeOutboundUrl_of_allowed hparse hallowed hplain.1 hplain.2
  · cases h

/-- The links for a phone are the configured ones when the check of the addresses is ready. -/
theorem mobileAccess_of_ready (h : ctx.publicUrlCheck.status = .ready)
    {interfaces : List NetworkAddress} {access : MobileAccess}
    (haccess : mobileAccess ctx.text ctx.parseUrl ctx.urls interfaces = .ok access) :
    normalizePublicHttpsUrl ctx.text ctx.parseUrl ctx.urls.webUrl = some access.webBaseUrl ∧
      normalizePublicHttpsUrl ctx.text ctx.parseUrl ctx.urls.apiUrl = some access.apiBaseUrl := by
  unfold ReadinessContext.publicUrlCheck at h
  split at h
  · rename_i hready
    obtain ⟨webUrl, hweb⟩ := Option.isSome_iff_exists.mp hready.1
    obtain ⟨apiUrl, hapi⟩ := Option.isSome_iff_exists.mp hready.2
    unfold mobileAccess at haccess
    rw [hweb, hapi] at haccess
    dsimp only at haccess
    split at haccess
    · cases haccess
      exact ⟨hweb, hapi⟩
    · cases haccess
  · cases h

/-- The server for the signals has a public address when its check is ready, and a phone that is
given the configured pages is given this address with them. -/
theorem proctor_of_ready (h : ctx.proctorCheck.status = .ready) :
    ∃ apiBaseUrl, normalizePublicHttpsUrl ctx.text ctx.parseUrl ctx.urls.apiUrl = some apiBaseUrl ∧
      ∀ interfaces access, (normalizePublicHttpsUrl ctx.text ctx.parseUrl ctx.urls.webUrl).isSome →
        mobileAccess ctx.text ctx.parseUrl ctx.urls interfaces = .ok access →
          access.apiBaseUrl = apiBaseUrl := by
  unfold ReadinessContext.proctorCheck at h
  split at h
  · rename_i hready
    obtain ⟨apiUrl, hapi⟩ := Option.isSome_iff_exists.mp hready
    refine ⟨apiUrl, hapi, fun interfaces access hweb haccess => ?_⟩
    obtain ⟨webUrl, hweb⟩ := Option.isSome_iff_exists.mp hweb
    unfold mobileAccess at haccess
    rw [hweb, hapi] at haccess
    dsimp only at haccess
    split at haccess
    · cases haccess
      rfl
    · cases haccess
  · cases h

/-- A relay is named in the text that the check of the TURN servers has read. -/
theorem relay_of_ready (h : ctx.proctorIceCheck.status = .ready) :
    ∃ raw, (ctx.proctorIceServers.orElse fun _ => ctx.viteProctorIceServers) = some raw ∧
      NamesRelay ctx raw := by
  unfold ReadinessContext.proctorIceCheck at h
  split at h
  · rename_i husable
    unfold ReadinessContext.hasUsableTurnIceServer at husable
    cases hraw : ctx.proctorIceServers.orElse fun _ => ctx.viteProctorIceServers with
    | none =>
        rw [hraw] at husable
        cases husable
    | some raw =>
        rw [hraw, Option.map_some] at husable
        -- The check reads the trimmed text, and an empty one is no list of servers.
        refine ⟨raw, rfl, ?_⟩
        by_cases hempty : Js.trim raw = ""
        · have hmissing : Js.truthy (some (Js.trim raw)) = none := by simp [Js.truthy, hempty]
          rw [hmissing] at husable
          cases husable
        · have htruthy : Js.truthy (some (Js.trim raw)) = some (Js.trim raw) := by
            simp [Js.truthy, hempty]
          rw [htruthy] at husable
          obtain ⟨-, husable⟩ := Bool.and_eq_true_iff.mp husable
          split at husable
          · rename_i entries hparsed
            obtain ⟨entry, hentry, hturn⟩ := List.any_eq_true.mp husable
            exact ⟨hempty, entries, hparsed, entry, hentry, parseIceServer_of_usable hturn⟩
          · cases husable
  · cases h

/-- The check of the sign-in is ready exactly when the evidence can be signed, and no demo sign-in
is asked for in production. -/
theorem auth_ready_iff :
    ctx.authCheck.status = .ready ↔
      ¬ (ctx.production = true ∧ ctx.store.allowDemoAuth = some "1") ∧
        (environmentCheckSecret ctx.store.host ctx.store.env).isOk = true := by
  unfold ReadinessContext.authCheck environmentCheckSecret
  dsimp only
  -- Outside production the check is ready at once, and the evidence has its fixed secret.
  cases hproduction : ctx.production with
  | false =>
      have hnode : ctx.store.env.nodeEnv ≠ some "production" := by
        simpa [ReadinessContext.production] using hproduction
      simp only [Bool.false_eq_true, false_and, if_false, not_false_eq_true, true_and, true_iff,
        decide_eq_false hnode]
      split <;> rfl
  | true =>
      have hnode : ctx.store.env.nodeEnv = some "production" := by
        simpa [ReadinessContext.production] using hproduction
      have hsecret : ctx.store.env.environmentCheckSecret.orElse
          (fun _ => ctx.store.env.authSessionSecret) = ctx.evidenceSecret := rfl
      rw [hsecret]
      simp only [true_and, decide_eq_true hnode, Bool.true_eq_false, false_or, if_true]
      by_cases hdemo : ctx.store.allowDemoAuth = some "1"
      · simp [hdemo]
      · rw [if_neg hdemo]
        cases ctx.evidenceSecret with
        | none => simp [hdemo, hasUsableVariable, Except.isOk, Except.toBool]
        | some secret =>
            have htext : ctx.text = ctx.store.host.text := rfl
            simp only [Option.getD_some, hasUsableVariable, Option.map_some, htext]
            -- In production both ask for a usable secret of 32 bytes; a shorter one, the empty one
            -- included, fails both.
            by_cases hlong : secret.utf8ByteSize < 32
            · rw [if_pos (Or.inr hlong), if_neg fun h => absurd h.2.2 (Nat.not_le.mpr hlong)]
              simp [Except.isOk, Except.toBool]
            · have hne : secret ≠ "" := by
                rintro rfl
                exact hlong (by decide)
              by_cases husable : hasUsableConfigValue ctx.store.host.text secret = true
              · rw [if_neg (by simp [husable, hlong]), if_pos ⟨hne, husable, Nat.not_lt.mp hlong⟩]
                simp [hdemo, Except.isOk, Except.toBool]
              · rw [if_pos (Or.inl (by simpa using husable)), if_neg fun h => husable h.2.1]
                simp [Except.isOk, Except.toBool]

end

/-! ### The report -/

/-- What a check that is ready means for the service behind it. The check of the code runner has
no field, because it is never ready. -/
structure ReadyMeans (ctx : ReadinessContext) (check : OperationsReadinessCheck) : Prop where
  /-- No call of the store uses the memory in production. Elsewhere the memory stands in for a
  database that fails, and a demo sign-in switches the database off. -/
  database : check.id = "database" → ctx.production = true →
    ∀ (α : Type) (operation : DatabaseOperation α) store,
      (tryDatabase ctx.store operation store).1 ≠ .ok none
  /-- Every invitation is sent to Resend. -/
  email : check.id = "email" → ∀ (S : Type) (email : EmailContext S), email.env = ctx.email →
    email.text = ctx.text → ∀ input transport,
      (Services.sendInvite email input transport).requests.length = 1
  /-- The provider of the identity checks has a key, and an address that the adapter takes. The
  guard of the calls takes it as well, exactly when it names no account. -/
  kyc : check.id = "kyc" → ∃ rawUrl url baseUrl apiKey, ctx.kycSandboxApiBaseUrl = some rawUrl ∧
    ctx.parseUrl rawUrl = some url ∧
    providerBaseUrl ctx.store.env.nodeEnv ctx.parseUrl ctx.kycSandboxApiBaseUrl = .ok baseUrl ∧
    Js.truthy ctx.kycSandboxApiKey = some apiKey ∧
    (parseSafeOutboundUrl
        { nodeEnv := ctx.store.env.nodeEnv, parseUrl := fun raw => (ctx.parseUrl raw).map (·.toUrl) }
        rawUrl = .ok url.toUrl ↔ url.username = "" ∧ url.password = "")
  /-- A phone gets the configured addresses, and not those of the local network. -/
  publicUrl : check.id = "public-url" → ∀ interfaces access,
    mobileAccess ctx.text ctx.parseUrl ctx.urls interfaces = .ok access →
      normalizePublicHttpsUrl ctx.text ctx.parseUrl ctx.urls.webUrl = some access.webBaseUrl ∧
      normalizePublicHttpsUrl ctx.text ctx.parseUrl ctx.urls.apiUrl = some access.apiBaseUrl
  /-- The evidence of an environment check can be signed. -/
  auth : check.id = "auth" → (environmentCheckSecret ctx.store.host ctx.store.env).isOk = true
  /-- The server for the signals has a public address, and a phone that gets the configured pages
  gets this address with them. -/
  proctor : check.id = "proctor" → ∃ apiBaseUrl,
    normalizePublicHttpsUrl ctx.text ctx.parseUrl ctx.urls.apiUrl = some apiBaseUrl ∧
    ∀ interfaces access, (normalizePublicHttpsUrl ctx.text ctx.parseUrl ctx.urls.webUrl).isSome →
      mobileAccess ctx.text ctx.parseUrl ctx.urls interfaces = .ok access →
        access.apiBaseUrl = apiBaseUrl
  /-- The configured text names a relay, as the browser reads the entries. -/
  proctorIce : check.id = "proctor-ice" → ∃ raw,
    (ctx.proctorIceServers.orElse fun _ => ctx.viteProctorIceServers) = some raw ∧
      NamesRelay ctx raw

/-- A report is never ready as a whole, and asks for action in production, where the judge refuses
every call. -/
theorem overallStatus_getReadiness (ctx : ReadinessContext) (databaseAnswers : Bool) (now : Int) :
    (getReadiness ctx databaseAnswers now).overallStatus ≠ .ready ∧
      (ctx.production = true →
        (getReadiness ctx databaseAnswers now).overallStatus = .actionRequired) := by
  have hmem : ctx.codeRunnerCheck ∈ ctx.checks databaseAnswers := by
    simp [ReadinessContext.checks]
  show overallStatus (ctx.checks databaseAnswers) ≠ .ready ∧
    (_ → overallStatus (ctx.checks databaseAnswers) = .actionRequired)
  -- One check is enough: that of the code runner is never ready.
  generalize ctx.checks databaseAnswers = checks at hmem
  unfold overallStatus
  cases hproduction : ctx.production with
  | true =>
      have hstatus : ctx.codeRunnerCheck.status = .actionRequired := by
        simp [ReadinessContext.codeRunnerCheck, hproduction]
      have hany : checks.any (fun check => decide (check.status = .actionRequired)) = true :=
        List.any_eq_true.mpr ⟨_, hmem, decide_eq_true hstatus⟩
      rw [if_pos hany]
      exact ⟨(fun h => nomatch h), fun _ => rfl⟩
  | false =>
      have hstatus : ctx.codeRunnerCheck.status = .warning := by
        simp [ReadinessContext.codeRunnerCheck, hproduction]
      have hany : checks.any (fun check => decide (check.status = .warning)) = true :=
        List.any_eq_true.mpr ⟨_, hmem, decide_eq_true hstatus⟩
      rw [if_pos hany]
      constructor
      · split <;> exact fun h => nomatch h
      · intro h
        cases h

/-- The names of the checks, in the order of the page. The branches of a check differ in status and
texts, not in the name. -/
theorem id_checks (ctx : ReadinessContext) (databaseAnswers : Bool) :
    (ctx.checks databaseAnswers).map (·.id) =
      ["database", "email", "kyc", "public-url", "auth", "code-runner", "proctor", "proctor-ice"] := by
  -- The branches of a check differ in status and texts, not in the name.
  have hdatabase : (ctx.databaseCheck databaseAnswers).id = "database" := by
    unfold ReadinessContext.databaseCheck
    split
    · rfl
    · split <;> rfl
  have hemail : ctx.emailCheck.id = "email" := by
    unfold ReadinessContext.emailCheck
    dsimp only
    split
    · rfl
    · split <;> rfl
  have hkyc : ctx.kycCheck.id = "kyc" := by
    unfold ReadinessContext.kycCheck
    split <;> rfl
  have hurl : ctx.publicUrlCheck.id = "public-url" := by
    unfold ReadinessContext.publicUrlCheck
    split <;> rfl
  have hauth : ctx.authCheck.id = "auth" := by
    unfold ReadinessContext.authCheck
    split
    · rfl
    · split <;> rfl
  have hrunner : ctx.codeRunnerCheck.id = "code-runner" := by
    unfold ReadinessContext.codeRunnerCheck
    split <;> rfl
  have hproctor : ctx.proctorCheck.id = "proctor" := by
    unfold ReadinessContext.proctorCheck
    split <;> rfl
  have hice : ctx.proctorIceCheck.id = "proctor-ice" := by
    unfold ReadinessContext.proctorIceCheck
    split <;> rfl
  simp [ReadinessContext.checks, hdatabase, hemail, hkyc, hurl, hauth, hrunner, hproctor, hice]

/-- There is one check of each name. -/
theorem eq_of_id {ctx : ReadinessContext} {databaseAnswers : Bool}
    {check own : OperationsReadinessCheck} (hcheck : check ∈ ctx.checks databaseAnswers)
    (hown : own ∈ ctx.checks databaseAnswers) (hid : check.id = own.id) : check = own := by
  refine List.inj_on_of_nodup_map ?_ hcheck hown hid
  rw [id_checks]
  decide

/-- A configuration for production. All of its values are in lower case. -/
def productionReadiness : ReadinessContext where
  store :=
    { host :=
        { text := { toLowerCase := id, toUpperCase := id }
          hmac := fun _ payload => payload
          dateParse := fun _ => none }
      env :=
        { nodeEnv := some "production"
          environmentCheckSecret := some "b7f1c0a94e2d5836b7f1c0a94e2d5836" }
      localeCompare := compare
      publicWebBaseUrl := "https://exam.dcvp.kr"
      databaseUrl := some "postgres://db/dcvp" }
  email := { resendApiKey := some "re_live_key", emailFromAddress := some "exams@dcvp.kr" }
  urls :=
    { webPublicUrl := some "https://exam.dcvp.kr", apiPublicUrl := some "https://api.dcvp.kr" }
  kycSandboxApiBaseUrl := some "https://kyc.dcvp.kr"
  kycSandboxApiKey := some "kyc-live-key"
  parseUrl := fun raw =>
    let host := String.ofList (raw.toList.drop 8)
    if raw.toList.take 8 = "https://".toList then
      some { protocol := "https:", username := "", password := "", hostname := host, host
             href := raw ++ "/" }
    else none
  parseJson := fun _ => none

end Dcvp.Proofs
