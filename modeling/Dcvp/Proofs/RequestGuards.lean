import Dcvp.Modules.AppModule

/-!
# `Dcvp.Proofs.RequestGuards`: which requests reach a handler

The guard opens some paths to everybody, and the middleware lets all other paths than those of
the API pass without TLS. Both look at the text of the path. The router looks at its segments,
and finds more paths alike than they do.

`public_segments` says which segments the open paths have. With the table of the routes it
follows, for every path:

* `guard_covers_sessions`: a handler that acts for a session is reached with an active session
  only. The exceptions are the handlers of one exam, which is called `invites`;
* `insecure_requests`: without TLS, a process in production serves nothing but `/health`, unless
  the path has the segment `api` in other letters. Then it asks for an active session, whatever
  the handler is.
-/

set_option autoImplicit false

namespace Dcvp.Proofs

open Dcvp.Lib
open Dcvp.Services
open Dcvp.Shared (AuthSession)
open Dcvp.Modules.AppModule
open Dcvp.Modules.AdminUsersController (extractBearerToken)

/-! ### Paths as texts and as segments -/

/-- The beginnings that the guard and the middleware know are whole segments. -/
theorem firsts_of_startsWith {pattern : List PathPiece} {segments : List (List Char)}
    {path : String} (h : PatternMatch pattern segments path) {start : String}
    {firsts : List String}
    (hstart : start.toList = pathOf '/' (firsts.map String.toList) ++ ['/'])
    (hplain : ∀ first ∈ firsts, first.toList ≠ [] ∧ '/' ∉ first.toList)
    (hbegins : startsWith path start = true) : firsts.map String.toList <+: segments := by
  obtain ⟨trail, htrail, hpath⟩ := h.path
  obtain ⟨rest, hrest⟩ := of_decide_eq_true hbegins
  rw [hpath, hstart, List.append_assoc] at hrest
  refine prefix_pathOf ?_ h.plain (Or.inr ⟨rest, rfl⟩) htrail hrest
  intro a ha
  obtain ⟨first, hfirst, rfl⟩ := List.mem_map.mp ha
  exact hplain first hfirst

/-- Where a path that matches a pattern is a plain text, the segments of the text begin the
segments of the path. -/
theorem firsts_of_eq {pattern : List PathPiece} {segments : List (List Char)}
    {path : String} (h : PatternMatch pattern segments path) {text : String}
    {firsts : List String} (htext : text.toList = pathOf '/' (firsts.map String.toList))
    (hplain : ∀ first ∈ firsts, first.toList ≠ [] ∧ '/' ∉ first.toList)
    (heq : path = text) : firsts.map String.toList <+: segments := by
  obtain ⟨trail, htrail, hpath⟩ := h.path
  rw [heq, htext] at hpath
  have hpath' : pathOf '/' (firsts.map String.toList) ++ [] = pathOf '/' segments ++ trail :=
    (List.append_nil _).trans hpath
  refine prefix_pathOf ?_ h.plain (Or.inl rfl) htrail hpath'
  intro a ha
  obtain ⟨first, hfirst, rfl⟩ := List.mem_map.mp ha
  exact hplain first hfirst

/-- How the paths begin that the guard opens. -/
def publicFirsts : List (List String) :=
  [["health"], ["api", "mobile-access"], ["api", "auth"], ["api", "exams", "invites"]]

/-- The public paths have no empty segment, no separator within one, and no upper case. -/
theorem publicFirsts_plain : ∀ firsts ∈ publicFirsts, ∀ first ∈ firsts,
    first.toList ≠ [] ∧ '/' ∉ first.toList ∧ first.toList.map Char.toLower = first.toList := by
  decide

/-- The segments of an open path begin with those of one of the open prefixes, compared exactly. -/
theorem public_segments {pattern : List PathPiece} {segments : List (List Char)}
    {path : String} (h : PatternMatch pattern segments path) (hpublic : isPublicPath path = true) :
    ∃ firsts ∈ publicFirsts, firsts.map String.toList <+: segments := by
  have hplain : ∀ firsts ∈ publicFirsts, ∀ first ∈ firsts,
      first.toList ≠ [] ∧ '/' ∉ first.toList := fun firsts hin first hfirst =>
    ⟨(publicFirsts_plain firsts hin first hfirst).1,
      (publicFirsts_plain firsts hin first hfirst).2.1⟩
  unfold isPublicPath at hpublic
  simp only [Bool.or_eq_true, beq_iff_eq] at hpublic
  rcases hpublic with ((heq | heq) | hbegins) | hbegins
  · exact ⟨["health"], by decide, firsts_of_eq h (by decide) (hplain _ (by decide)) heq⟩
  · exact ⟨["api", "mobile-access"], by decide,
      firsts_of_eq h (by decide) (hplain _ (by decide)) heq⟩
  · exact ⟨["api", "auth"], by decide,
      firsts_of_startsWith h (by decide) (hplain _ (by decide)) hbegins⟩
  · exact ⟨["api", "exams", "invites"], by decide,
      firsts_of_startsWith h (by decide) (hplain _ (by decide)) hbegins⟩

/-- An open path and the pattern of its route begin alike. -/
theorem public_mayBegin {pattern : List PathPiece} {segments : List (List Char)}
    {path : String} (h : PatternMatch pattern segments path) (hpublic : isPublicPath path = true) :
    ∃ firsts ∈ publicFirsts, firsts.map String.toList <+: segments ∧
      mayBegin pattern firsts = true := by
  obtain ⟨firsts, hin, hinit⟩ := public_segments h hpublic
  exact ⟨firsts, hin, hinit, mayBegin_of_prefix h.pieces
    (fun first hfirst => (publicFirsts_plain firsts hin first hfirst).2.2) hinit⟩

/-! ### The table of the routes -/

/-- Whether the third piece of the pattern is the exam of a handler of `ExamsController`. -/
def namesExam (route : Route) : Bool :=
  match route.handler with
  | .exams _ => route.pattern[2]? == some (.param "examId")
  | _ => false

/-- No route of a handler that acts for a session begins like an open path, unless the name of
an exam stands where the path has `invites`. -/
theorem session_routes_begin : ∀ route ∈ routes, route.handler.actsForSession = true →
    ∀ firsts ∈ publicFirsts, mayBegin route.pattern firsts = true →
      firsts = ["api", "exams", "invites"] ∧ namesExam route = true := by
  decide +kernel

/-- Each path begins with `api`, but for that of `health`. -/
theorem routes_begin : ∀ route ∈ routes,
    route.handler = .dashboard .health ∨ route.pattern.head? = some (.literal "api") := by
  decide +kernel

/-! ### The way to a handler -/

section
variable {text : Js.CaseMapping} {config : TransportConfig} {router : Router}
  {requireActiveSession : Option String → Except ServiceException AuthSession}
  {request : HttpRequest} {route : Route} {segments : List (List Char)}

/-- What a request has passed that is handled: the middleware, the router, and the guard, which
asks for a session unless the path is open. -/
theorem handled_cases
    (h : handleRequest text config router requireActiveSession request = .handled route segments) :
    shouldRejectInsecureRequest text config request = false ∧
      router request.method request.path = some (route, segments) ∧
      (isPublicPath request.path = true ∨ ∃ session,
        requireActiveSession (extractBearerToken request.authorization) = .ok session) := by
  unfold handleRequest at h
  split at h
  · cases h
  · rename_i hsecure
    refine ⟨Bool.eq_false_iff.mpr hsecure, ?_⟩
    split at h
    · cases h
    · rename_i route' segments' hroute
      split at h
      · cases h
      · rename_i hactivate
        cases h
        refine ⟨hroute, ?_⟩
        unfold canActivate at hactivate
        split at hactivate
        · exact Or.inl ‹_›
        · obtain ⟨session, hsession, -⟩ := map_eq_ok.mp hactivate
          exact Or.inr ⟨session, hsession⟩

end

/-- No handler acts for a session that must change its password, or for none. Whatever the path
of a request is: if a handler that acts for a session gets it, then `requireActiveSession` has
accepted its token, or the request is one for the exam with the name `invites`. -/
theorem guard_covers_sessions (text : Js.CaseMapping) (config : TransportConfig)
    (router : Router) (hrouter : RoutesMatch router)
    (requireActiveSession : Option String → Except ServiceException AuthSession)
    (request : HttpRequest) (route : Route) (segments : List (List Char))
    (hhandled : handleRequest text config router requireActiveSession request =
      .handled route segments)
    (hacts : route.handler.actsForSession = true) :
    (∃ session, requireActiveSession (extractBearerToken request.authorization) = .ok session) ∨
      ∃ handler, route.handler = .exams handler ∧
        route.pattern[2]? = some (.param "examId") ∧ segments[2]? = some "invites".toList := by
  obtain ⟨-, hroute, hpublic | hsession⟩ := handled_cases hhandled
  · obtain ⟨hin, hmatch⟩ := hrouter _ _ _ _ hroute
    obtain ⟨firsts, hfirsts, hinit, hbegins⟩ := public_mayBegin hmatch hpublic
    obtain ⟨rfl, hexam⟩ := session_routes_begin route hin hacts firsts hfirsts hbegins
    obtain ⟨rest, rfl⟩ := hinit
    unfold namesExam at hexam
    split at hexam
    · rename_i handler hhandler
      exact Or.inr ⟨handler, hhandler, beq_iff_eq.mp hexam, rfl⟩
    · cases hexam
  · exact Or.inl hsession

/-- A path whose first segment is `api` is one of the API. -/
theorem isApiRoute_of_segments {pattern : List PathPiece} {segments : List (List Char)}
    {path : String} (h : PatternMatch pattern segments path)
    (hfirst : segments.head? = some "api".toList) : isApiRoute path = true := by
  obtain ⟨trail, htrail, hpath⟩ := h.path
  cases segments with
  | nil => cases hfirst
  | cons s segments =>
      cases hfirst
      have hrest := htrail.rest.pathOf segments
      have hsplit : path.toList = "/api".toList ++ (pathOf '/' segments ++ trail) := by
        rw [hpath]
        simp [pathOf]
      unfold isApiRoute startsWith
      rcases hrest with hnil | ⟨more, hmore⟩
      · have heq : path = "/api" := by
          refine String.toList_inj.mp ?_
          rw [hsplit, hnil, List.append_nil]
        simp [heq]
      · have hbegins : "/api/".toList <+: path.toList := ⟨more, by
          rw [hsplit, hmore]
          rfl⟩
        rw [decide_eq_true hbegins, Bool.or_true]

/-- In production the middleware refuses what came without TLS for a path of the API. -/
theorem shouldReject_without_tls {text : Js.CaseMapping} {config : TransportConfig}
    (hproduction : config.isProduction = true) {request : HttpRequest}
    (htls : hasTls text config request = false) :
    shouldRejectInsecureRequest text config request = isApiRoute request.path := by
  obtain ⟨hsocket, hproxy⟩ := Bool.or_eq_false_iff.mp htls
  have hrefused : (!config.trustProxy ||
      !hasForwardedHttps text (firstForwardedProto request.forwardedProto)) = true := by
    rw [← Bool.not_and, hproxy]
    rfl
  unfold shouldRejectInsecureRequest
  rw [hproduction, hsocket, hrefused]
  cases isApiRoute request.path <;> rfl

/-- What is served without TLS. If a process in production handles a request that came without
TLS, then it is one for `health`. Or its path has `api` in other letters, and then
`requireActiveSession` has accepted its token. That holds for every handler: the guard compares the
letters as the middleware does, and takes no such path for one that is open to everybody. -/
theorem insecure_requests (text : Js.CaseMapping) (config : TransportConfig)
    (hproduction : config.isProduction = true) (router : Router) (hrouter : RoutesMatch router)
    (requireActiveSession : Option String → Except ServiceException AuthSession)
    (request : HttpRequest) (htls : hasTls text config request = false)
    (route : Route) (segments : List (List Char))
    (hhandled : handleRequest text config router requireActiveSession request =
      .handled route segments) :
    route.handler = .dashboard .health ∨
      (∃ first, segments.head? = some first ∧ first ≠ "api".toList ∧
        first.map Char.toLower = "api".toList) ∧
      ∃ session, requireActiveSession (extractBearerToken request.authorization) =
        .ok session := by
  obtain ⟨hsecure, hroute, hactive⟩ := handled_cases hhandled
  obtain ⟨hin, hmatch⟩ := hrouter _ _ _ _ hroute
  rcases routes_begin route hin with hhealth | hapi
  · exact Or.inl hhealth
  right
  obtain ⟨first, hfirst, hfits⟩ : ∃ first, segments.head? = some first ∧
      first.map Char.toLower = "api".toList := by
    have hpieces := hmatch.pieces
    generalize route.pattern = pattern at hapi hpieces
    cases hpieces with
    | nil => cases hapi
    | cons hfits _ =>
        cases hapi
        exact ⟨_, rfl, hfits⟩
  -- The middleware would have refused a path of the API.
  rw [shouldReject_without_tls hproduction htls] at hsecure
  have hne : first ≠ "api".toList := by
    rintro rfl
    rw [isApiRoute_of_segments hmatch hfirst] at hsecure
    cases hsecure
  refine ⟨⟨first, hfirst, hne, hfits⟩, ?_⟩
  rcases hactive with hpublic | hsession
  · -- The open paths have `api` in small letters, or no `api` at all.
    obtain ⟨firsts, hfirsts, hinit⟩ := public_segments hmatch hpublic
    obtain ⟨rest, rfl⟩ := hinit
    simp only [publicFirsts, List.mem_cons, List.not_mem_nil, or_false] at hfirsts
    rcases hfirsts with rfl | rfl | rfl | rfl
    · cases hfirst
      exact absurd hfits (by decide)
    all_goals exact absurd (Option.some.inj hfirst).symm hne
  · exact hsession

/-! ### A router -/

/-- The segments of a path, without a separator at its end. -/
def segmentsOf (path : List Char) : List (List Char) :=
  let pieces := (go [] path).drop 1
  if pieces.getLast? = some [] then pieces.dropLast else pieces
where
  /-- What stands between the separators. -/
  go : List Char → List Char → List (List Char)
    | piece, [] => [piece.reverse]
    | piece, c :: cs => if c = '/' then piece.reverse :: go [] cs else go (c :: piece) cs

/-- Whether the segments fit the pattern. -/
def fitsPattern : List PathPiece → List (List Char) → Bool
  | [], [] => true
  | .literal text :: pieces, s :: segments =>
      decide (s.map Char.toLower = text.toList) && fitsPattern pieces segments
  | .param _ :: pieces, s :: segments => decide (s ≠ []) && fitsPattern pieces segments
  | _, _ => false

/-- The test that can be run says what the relation says. By induction on the pattern. -/
theorem fits_of_fitsPattern {pattern : List PathPiece} {segments : List (List Char)}
    (h : fitsPattern pattern segments = true) : List.Forall₂ PathPiece.Fits pattern segments := by
  induction pattern generalizing segments with
  | nil =>
      cases segments with
      | nil => exact .nil
      | cons s segments => cases h
  | cons piece pieces ih =>
      cases segments with
      | nil => cases piece <;> cases h
      | cons s segments =>
          cases piece with
          | literal text =>
              obtain ⟨hfits, hrest⟩ := (Bool.and_eq_true _ _).mp h
              have hsame : s.map Char.toLower = text.toList := of_decide_eq_true hfits
              exact .cons hsame (ih hrest)
          | param name =>
              obtain ⟨hfits, hrest⟩ := (Bool.and_eq_true _ _).mp h
              have hne : s ≠ [] := of_decide_eq_true hfits
              exact .cons hne (ih hrest)

/-- The first route of the table that fits. -/
def tableRouter : Router := fun method path =>
  let segments := segmentsOf path.toList
  if segments.all (fun s => decide ('/' ∉ s)) &&
      (path.toList == pathOf '/' segments || path.toList == pathOf '/' segments ++ ['/']) then
    (routes.find? fun route =>
      decide (route.method = method) && fitsPattern route.pattern segments).map (·, segments)
  else none

/-- A router that is given by a table matches its routes as it should. -/
theorem routesMatch_tableRouter : RoutesMatch tableRouter := by
  intro method path route segments h
  obtain ⟨hpath, h⟩ := Option.ite_none_right_eq_some.mp h
  obtain ⟨found, hfound, heq⟩ := Option.map_eq_some_iff.mp h
  cases heq
  obtain ⟨hplain, hform⟩ := (Bool.and_eq_true _ _).mp hpath
  refine ⟨List.mem_of_find?_eq_some hfound, ?_, fun s hs => ?_, ?_⟩
  · have hfits := List.find?_some hfound
    exact fits_of_fitsPattern ((Bool.and_eq_true _ _).mp hfits).2
  · exact of_decide_eq_true (List.all_eq_true.mp hplain s hs)
  · rcases (Bool.or_eq_true _ _).mp hform with hnone | hslash
    · exact ⟨[], Or.inl rfl, by rw [List.append_nil]; exact beq_iff_eq.mp hnone⟩
    · exact ⟨['/'], Or.inr rfl, beq_iff_eq.mp hslash⟩

/-- No token is accepted. -/
def acceptsNone (_ : Option String) : Except ServiceException AuthSession :=
  .error (unauthorized sessionExpiredMessage)

/-- One token is accepted, that of a proctor. -/
def acceptsToken : Option String → Except ServiceException AuthSession
  | some "token_1" => .ok
      { token := "token_1",
        user :=
          { id := "user_c0a1", email := "proctor@example.com", name := "Kim",
            role := .proctor, organizationId := some "org_a",
            createdAt := Js.toISOString 1784332800000 },
        organization :=
          { id := "org_a", name := "Example", createdAt := Js.toISOString 1784332800000 } }
  | _ => .error (unauthorized sessionExpiredMessage)

/-- A process in production that trusts no proxy. -/
def directTransport : TransportConfig := ⟨true, false⟩

/-- A request for a question of an exam that is called `invites`. -/
def invitesRequest : HttpRequest :=
  { method := .post, path := "/api/exams/invites/questions", socketEncrypted := true }

/-- The guard lets this request pass without a session. -/
theorem invitesRequest_handled :
    handleRequest ⟨id, id⟩ directTransport tableRouter acceptsNone invitesRequest =
      .handled ⟨.post, [.literal "api", .literal "exams", .param "examId", .literal "questions"],
          .exams .addQuestion⟩
        ["api".toList, "exams".toList, "invites".toList, "questions".toList] := by
  decide +kernel

/-- Without a session, only an exam that is called `invites` can be asked for a question. -/
theorem guard_covers_sessions_invites :
    (∃ session, acceptsNone none = .ok session) ∨ ∃ handler,
      Handler.exams .addQuestion = .exams handler ∧
      ["api".toList, "exams".toList, "invites".toList, "questions".toList][2]? =
        some "invites".toList := by
  rcases guard_covers_sessions ⟨id, id⟩ directTransport tableRouter routesMatch_tableRouter
    acceptsNone invitesRequest _ _ invitesRequest_handled rfl with
    hsession | ⟨handler, hhandler, -, hexam⟩
  · exact Or.inl hsession
  · exact Or.inr ⟨handler, hhandler, hexam⟩

/-- A request without TLS, with `api` in capital letters. -/
def capitalRequest : HttpRequest :=
  { method := .get, path := "/API/exams", authorization := some "Bearer token_1" }

/-- The middleware lets this request pass. -/
theorem capitalRequest_handled :
    handleRequest ⟨id, id⟩ directTransport tableRouter acceptsToken capitalRequest =
      .handled ⟨.get, [.literal "api", .literal "exams"], .exams .list⟩
        ["API".toList, "exams".toList] := by
  decide +kernel

/-- It needs an active session. -/
theorem insecure_requests_capital :
    ∃ session, acceptsToken (some "token_1") = .ok session := by
  rcases insecure_requests ⟨id, id⟩ directTransport rfl tableRouter routesMatch_tableRouter
    acceptsToken capitalRequest rfl _ _ capitalRequest_handled with hhealth | ⟨-, hsession⟩
  · cases hhealth
  · exact hsession

end Dcvp.Proofs
