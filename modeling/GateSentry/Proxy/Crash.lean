import GateSentry.Proxy.Stages

/-!
# Panics of the transparent listener

The listener's response writer cannot be hijacked, and nothing recovers from a
panic there.  A request can bring the gateway down by a credential that does not
fit its buffer, and by a URL whose text contains `:443` when it is blocked.
-/

namespace GateSentry.Proxy

open Foundation ByteText Handler Accounts

/-! ## The text of a URL -/

def portMark : Bytes := utf8 ":443"

theorem portMark_eq : portMark = Net.colon :: [52, 52, 51] := by decide

theorem contains_iff (text : Bytes) : contains text (utf8 ":443") = true ↔ portMark <:+: text :=
  Strings.occurs_iff_isInfix _ _

theorem not_portMark_isInfix {text : Bytes} (h : contains text (utf8 ":443") = false) :
    ¬ portMark <:+: text := by
  intro hmark
  rw [← contains_iff, h] at hmark
  exact nomatch hmark

namespace URL

def tailText (u : URL) : Bytes :=
  (if ¬ u.path.isEmpty ∧ u.path.head? ≠ some 47 then utf8 "/" else []) ++ u.path ++ u.queryText

theorem string_of_host {u : URL} (hscheme : u.scheme ≠ []) (hpart : u.opaquePart = [])
    (hhost : u.host ≠ []) :
    u.string = u.scheme ++ utf8 "://" ++ u.userText ++ escapeHost u.host ++ u.tailText := by
  have hcolon : utf8 "://" = utf8 ":" ++ utf8 "//" := by decide
  simp [string, authority, pathLead, tailText, hscheme, hpart, hhost, hcolon]

theorem string_of_part {u : URL} (hscheme : u.scheme ≠ []) (hpart : u.opaquePart ≠ []) :
    u.string = u.scheme ++ Net.colon :: (u.opaquePart ++ u.queryText) := by
  have hcolon : utf8 ":" = [Net.colon] := by decide
  simp [string, hscheme, hpart, hcolon]

end URL

theorem portMark_infix_append_cons {separator : UInt8} (h : separator ∉ portMark)
    (front back : Bytes) :
    portMark <:+: front ++ separator :: back ↔ portMark <:+: front ∨ portMark <:+: back :=
  Strings.isInfix_append_cons_iff h front back

theorem portMark_infix_append_colon (front back : Bytes) :
    portMark <:+: front ++ Net.colon :: back ↔
      portMark <:+: front ∨ portMark <:+: Net.colon :: back := by
  rw [portMark_eq]
  exact Strings.cons_isInfix_append_cons_iff (by decide) front back

variable {u : URL}

theorem portMark_string_iff (hscheme : u.scheme ≠ []) (hpart : u.opaquePart = [])
    (hhost : u.host ≠ []) :
    portMark <:+: u.string ↔ portMark <:+: u.scheme ++ utf8 "://" ++ u.userText ∨
        portMark <:+: escapeHost u.host ++ u.tailText := by
  rw [URL.string_of_host hscheme hpart hhost, List.append_assoc _ (escapeHost u.host)]
  obtain ⟨front, separator, hseparator, hfront⟩ : ∃ front separator,
      separator ∉ portMark ∧ u.scheme ++ utf8 "://" ++ u.userText = front ++ [separator] := by
    cases huser : u.user with
    | none =>
      refine ⟨u.scheme ++ utf8 ":/", 47, by decide, ?_⟩
      rw [URL.userText, huser, show utf8 "://" = utf8 ":/" ++ [47] by decide]
      simp
    | some user =>
      refine ⟨u.scheme ++ utf8 "://" ++ user, 64, by decide, ?_⟩
      rw [URL.userText, huser, show utf8 "@" = [64] by decide]
      simp
  have hlast : portMark <:+: front ++ [separator] ↔ portMark <:+: front := by
    rw [portMark_infix_append_cons hseparator]
    exact or_iff_left (not_portMark_isInfix rfl)
  rw [hfront, hlast, List.append_assoc, List.singleton_append,
    portMark_infix_append_cons hseparator]

/-! ## The URLs a request goes through -/

theorem escapeHost_colon (host port : Bytes) :
    escapeHost (host ++ Net.colon :: port) = escapeHost host ++ Net.colon :: escapeHost port := by
  rw [escapeHost, List.flatMap_append]
  rfl

theorem escapeHost_brackets (host port : Bytes) :
    escapeHost (Net.openBracket :: host ++ Net.closeBracket :: Net.colon :: port) =
      Net.openBracket :: (escapeHost host ++
        Net.closeBracket :: Net.colon :: escapeHost port) := by
  simp only [escapeHost, List.cons_append, List.flatMap_append, List.flatMap_cons,
    show escapeByte Net.colon = [Net.colon] by decide,
    show escapeByte Net.openBracket = [Net.openBracket] by decide,
    show escapeByte Net.closeBracket = [Net.closeBracket] by decide, List.nil_append]

theorem portMark_joinHostPort_iff (host port back : Bytes) :
    portMark <:+: escapeHost (Net.joinHostPort host port) ++ back ↔
      portMark <:+: escapeHost (host ++ Net.colon :: port) ++ back := by
  unfold Net.joinHostPort
  split
  · rw [escapeHost_brackets, escapeHost_colon]
    simp only [List.append_assoc, List.cons_append]
    rw [← List.nil_append (Net.openBracket :: _),
      portMark_infix_append_cons (by decide),
      portMark_infix_append_cons (by decide), portMark_infix_append_colon]
    exact or_iff_right (not_portMark_isInfix rfl)
  · rfl

theorem portMark_withHost_iff {host : Bytes} (hscheme : u.scheme ≠ []) (hold : u.host ≠ [])
    (hnew : host ≠ []) (hsame : ∀ back, portMark <:+: escapeHost host ++ back ↔
      portMark <:+: escapeHost u.host ++ back) :
    portMark <:+: ({ u with host } : URL).string ↔ portMark <:+: u.string := by
  by_cases hpart : u.opaquePart = []
  · have htext := portMark_string_iff (u := { u with host }) hscheme hpart hnew
    rw [htext, portMark_string_iff hscheme hpart hold]
    exact or_congr Iff.rfl (hsame _)
  · have htext := URL.string_of_part (u := { u with host }) hscheme hpart
    rw [htext, URL.string_of_part hscheme hpart]
    rfl

variable {r : Request}

theorem portMark_fixConnectHost_iff (hscheme : r.url.scheme ≠ []) :
    portMark <:+: (fixConnectHost r).url.string ↔ portMark <:+: r.url.string := by
  unfold fixConnectHost
  split
  · split
    · rfl
    · rename_i host port hcut
      split
      · have hhost := Net.eq_append_of_cutLastColon hcut
        refine portMark_withHost_iff hscheme (by rw [hhost]; simp) ?_ fun back => ?_
        · unfold Net.joinHostPort
          split <;> simp
        · rw [hhost]
          exact portMark_joinHostPort_iff host port back
      · rfl
  · rfl

theorem portMark_append_queryText {front : Bytes} (hfront : ¬ portMark <:+: front)
    (h : portMark <:+: front ++ u.queryText) : portMark <:+: u.queryText := by
  unfold URL.queryText at h ⊢
  split at h
  · rename_i hquery
    have hmark : utf8 "?" = [63] := by decide
    rw [hmark, List.singleton_append] at h ⊢
    rw [portMark_infix_append_cons (by decide)] at h
    rw [if_pos hquery]
    exact (h.resolve_left hfront).trans (List.suffix_cons _ _).isInfix
  · rw [List.append_nil] at h
    exact absurd h hfront

theorem portMark_of_redirectedURL (hscheme : u.scheme = utf8 "http") (hhost : u.host ≠ [])
    (h : portMark <:+: (redirectedURL u).string) : portMark <:+: u.string := by
  have hne : u.scheme ≠ [] := by
    rw [hscheme]
    decide
  have hsecure : (redirectedURL u).scheme = utf8 "https" := rfl
  have hblocked : (redirectedURL u).host = utf8 "blocked.gatesentryguard.com" := rfl
  have hnewScheme : (redirectedURL u).scheme ≠ [] := by
    rw [hsecure]
    decide
  by_cases hpart : u.opaquePart = []
  · have htext := portMark_string_iff (u := redirectedURL u) hnewScheme hpart
      (by rw [hblocked]; decide)
    rw [htext] at h
    rw [portMark_string_iff hne hpart hhost]
    rcases h with hfront | hback
    · left
      have huser : (redirectedURL u).userText = u.userText := rfl
      have hscheme' : utf8 "https" ++ utf8 "://" = utf8 "https:/" ++ [47] := by decide
      rw [hsecure, huser, hscheme', List.append_assoc, List.singleton_append,
        portMark_infix_append_cons (by decide)] at hfront
      exact (hfront.resolve_left (not_portMark_isInfix (by decide))).trans (List.suffix_append _ _).isInfix
    · right
      have htail : (redirectedURL u).tailText =
          47 :: (utf8 "file/gatesentryguard/blocked.svg" ++ u.queryText) := by
        rfl
      rw [hblocked, htail, portMark_infix_append_cons (by decide)] at hback
      have hquery := portMark_append_queryText (not_portMark_isInfix (by decide))
        (hback.resolve_left (not_portMark_isInfix (by decide)))
      unfold URL.tailText
      rw [← List.append_assoc]
      exact hquery.trans (List.suffix_append _ _).isInfix
  · have htext := URL.string_of_part (u := redirectedURL u) hnewScheme hpart
    have hquery : (redirectedURL u).queryText = u.queryText := rfl
    have hrest : (redirectedURL u).opaquePart = u.opaquePart := rfl
    rw [htext, hsecure, hquery, hrest, portMark_infix_append_colon] at h
    rw [URL.string_of_part hne hpart, portMark_infix_append_colon]
    exact .inr (h.resolve_left (not_portMark_isInfix (by decide)))

theorem fixConnectHost_host_ne (h : r.url.host ≠ []) : (fixConnectHost r).url.host ≠ [] := by
  unfold fixConnectHost
  split
  · split
    · exact h
    · split
      · unfold Net.joinHostPort
        split <;> simp
      · exact h
  · exact h

theorem not_pagePanics_of_reaches {ctx : Context} {r' : Request}
    (hscheme : r.url.scheme = utf8 "http") (hhost : r.url.host ≠ [])
    (hquiet : ¬ portMark <:+: r.url.string) (h : Reaches r r') : ¬ PagePanics ctx r' := by
  have hne : r.url.scheme ≠ [] := by
    rw [hscheme]
    decide
  rintro ⟨hmark, -⟩
  rw [contains_iff] at hmark
  apply hquiet
  rw [← portMark_fixConnectHost_iff hne]
  rcases h with rfl | rfl
  · exact hmark
  · obtain ⟨host, hfixed⟩ := fixConnectHost_eq r
    have hfixedScheme : (fixConnectHost r).url.scheme = utf8 "http" := by
      rw [hfixed]
      exact hscheme
    exact portMark_of_redirectedURL hfixedScheme
      (fixConnectHost_host_ne hhost) hmark

/-! ## No panic -/

def CrashFree (conn : Conn) (req : Request) (authEnabled : Bool) : Prop :=
  let r := transparentRequest conn req
  let auth := r.header.get (utf8 "Proxy-Authorization")
  10000 < r.url.string.length ∨
    ((authEnabled = true → ¬ Oversized auth) ∧
      (contains r.url.string (utf8 ":443") = true →
        authEnabled = true ∧ Refused [] auth (hostOf conn.remoteAddr)))

variable (conn : Conn) (req : Request)

theorem transparent_host_ne : (transparentRequest conn req).url.host ≠ [] := by
  simp only [transparentRequest, SocketAddr.text]
  unfold Net.joinHostPort
  split <;> simp

theorem transparent_scheme : (transparentRequest conn req).url.scheme = utf8 "http" := rfl

theorem transparent_scheme_ne : (transparentRequest conn req).url.scheme ≠ [] := by
  rw [transparent_scheme]
  decide

variable {handler : ProxyHandler}

theorem process_crashFree {ctx : Context} (hwriter : ctx.writer = .unsupported)
    (hrt : handler.rt = none) {client : Bytes} {isHostLanAddress : Bool}
    {auth : AuthResult} (hscheme : r.url.scheme = utf8 "http") (hhost : r.url.host ≠ [])
    (hquiet : ¬ portMark <:+: r.url.string) :
    Ensures (process ctx handler client isHostLanAddress auth r) (fun _ => True) False := by
  have hlocal : ∀ event : Event, event.isRoutine = true → True := fun _ _ => trivial
  have hpage : ∀ r', Reaches r r' → PagePanics ctx r' → False := fun r' hr' =>
    not_pagePanics_of_reaches hscheme hhost hquiet hr'
  apply process_ensures hlocal
  · rintro ⟨hmark, -⟩
    exact hquiet ((contains_iff _).mp hmark)
  · intro _ _
    trivial
  · exact hpage _ (.inl rfl)
  · intro policy r' hr'
    exact divert_unsupported hlocal hwriter (hpage r' hr') _ _ _ _ _
  · intro exchange hreaches _
    apply forward_ensures hlocal (hpage _ hreaches)
    · intro _
      trivial
    · intro _ _
      trivial
    · intro _ hhard
      rw [hrt] at hhard
      exact nomatch hhard

variable {world : World} {proxy : GSProxy}

theorem serveHTTP_crashFree {conn : Conn} {req : Request} (hcache : proxy.usersCache.Reachable)
    (h : CrashFree conn req proxy.authEnabled) :
    ¬ Crashes (serveHTTP { proxy, world, writer := .unsupported } transparentHandler
      (transparentRequest conn req)) := by
  have hhost := transparent_host_ne conn req
  have hscheme := transparent_scheme_ne conn req
  have hlocal : ∀ event : Event, event.isRoutine = true → True := fun _ _ => trivial
  suffices hensures : Ensures (serveHTTP { proxy, world, writer := .unsupported }
      transparentHandler (transparentRequest conn req)) (fun _ => True) False from hensures.crashes
  rw [serveHTTP_of_url _ _ hhost hscheme]
  apply ensures_scope
  refine (ensures_guard fun _ => ?_).bind fun _ hshort => ?_
  · exact (httpError_ensures hlocal _ _).seq ensures_stop
  obtain ⟨hfits, hmark⟩ := h.resolve_left (by simpa using hshort)
  -- a request that authentication lets in has no mark
  have hquiet : ∀ result, LetsThrough { proxy, world, writer := .unsupported }
      transparentHandler (hostOf conn.remoteAddr) (transparentRequest conn req) result →
      ¬ portMark <:+: (transparentRequest conn req).url.string := by
    rintro result ⟨⟨next, hresult⟩, hsomebody⟩ hinfix
    obtain ⟨hauth, hrefused⟩ := hmark ((contains_iff _).mpr hinfix)
    rw [hauth] at hresult
    rcases nobody_of_refused hcache hresult hrefused with hempty | hloopback
    · exact (hsomebody hauth).1 hempty
    · exact (hsomebody hauth).2 hloopback
  refine Ensures.bind (authenticate_ensures hlocal ?_ ?_ _) fun result hadmits => ?_
  · intro hpanics
    obtain ⟨hauth, hoversized⟩ := handleAuth_panics hcache hpanics
    exact hfits hauth hoversized
  · rintro result hadmits ⟨hport, -⟩
    exact hquiet result hadmits ((contains_iff _).mp hport)
  · exact process_crashFree rfl rfl (transparent_scheme conn req) hhost
      (hquiet result hadmits)

/-! ## Panics -/

variable {users : List GSUser} {authEnabled : Bool}

theorem checkPolicy_blocking
    (hmark : portMark <:+: r.url.string) (layer : Layer) (client user : Bytes) :
    Crashes (checkPolicy ⟨blockingProxy users authEnabled, world, .unsupported⟩ layer
      client user r) := by
  have hport := (contains_iff _).mpr hmark
  unfold checkPolicy
  dsimp only [blockingProxy]
  rw [Bool.true_or, whenever_true, crashes_bind_iff]
  left
  rw [crashes_emit_bind, crashes_bind_iff]
  left
  unfold sendBlockMessageBytes
  rw [if_pos hport]
  exact crashes_crash _

theorem process_blocking (hscheme : r.url.scheme ≠ []) (hmark : portMark <:+: r.url.string)
    (handler : ProxyHandler) (client : Bytes) (isHostLanAddress : Bool) (auth : AuthResult) :
    Crashes (process ⟨blockingProxy users authEnabled, world, .unsupported⟩ handler client
      isHostLanAddress auth r) := by
  have htime : (checkTime ⟨blockingProxy users authEnabled, world, .unsupported⟩ client
      auth.user r).flow = .next () := rfl
  apply crashes_bind_next htime
  rw [crashes_bind_iff]
  left
  exact checkPolicy_blocking ((portMark_fixConnectHost_iff hscheme).mpr hmark) _ _ _

theorem serveHTTP_oversized (hauth : proxy.authEnabled = true) (hcache : proxy.usersCache = [])
    {writer : Hijacker} (hhost : r.url.host ≠ []) (hscheme : r.url.scheme ≠ [])
    (hshort : r.url.string.length ≤ 10000)
    (hoversized : Oversized (r.header.get (utf8 "Proxy-Authorization"))) :
    Crashes (serveHTTP { proxy, world, writer } handler r) := by
  rw [serveHTTP_of_url _ _ hhost hscheme, crashes_scope_iff]
  have hlimit : decide (10000 < r.url.string.length) = false := by simpa using hshort
  rw [hlimit, whenever_false, pure_bind, crashes_bind_iff]
  left
  unfold authenticate
  rw [crashes_bind_iff, crashes_ofOutcome_iff, hauth, hcache]
  left
  exact handleAuth_panics_of_oversized _ hoversized _ _

theorem serveHTTP_blocking {result : AuthResult} {next : UsersCache}
    (hhost : r.url.host ≠ []) (hscheme : r.url.scheme ≠ []) (hshort : r.url.string.length ≤ 10000)
    (hmark : portMark <:+: r.url.string) (hresult : handleAuthAndAssignUser (isUserValid users) []
      (r.header.get (utf8 "Proxy-Authorization")) handler.user authEnabled
      (hostOf r.remoteAddr) = .ok (result, next))
    (hactive : authEnabled = true → ¬ Nobody result.user ∧
      userExists users result.user = true ∧ isUserActive users result.user = true) :
    Crashes (serveHTTP ⟨blockingProxy users authEnabled, world, .unsupported⟩ handler r) := by
  rw [serveHTTP_of_url _ _ hhost hscheme, crashes_scope_iff]
  have hlimit : decide (10000 < r.url.string.length) = false := by simpa using hshort
  rw [hlimit]
  apply crashes_bind_next (authenticate_next hresult hactive _)
  exact process_blocking hscheme hmark _ _ _ _

/-- A plain HTTP request on the transparent listener panics for no verdict of the
policy and the filters exactly if its URL is too long to be looked at, or its
credential fits the buffer and its URL has no `:443`, or authentication refuses
the request before any page is sent. -/
theorem handleTransparentHTTP_crashFree_iff (conn : Conn) (req : Request)
    (authEnabled : Bool) :
    (∀ (proxy : GSProxy) (world : World), proxy.authEnabled = authEnabled →
      proxy.usersCache.Reachable → world.readRequest conn.stream = some req →
      ¬ Crashes (handleTransparentHTTP proxy world conn)) ↔
    CrashFree conn req authEnabled := by
  have hhost := transparent_host_ne conn req
  have hscheme := transparent_scheme_ne conn req
  constructor
  · intro h
    by_contra hbad
    unfold CrashFree at hbad
    rw [not_or, not_lt] at hbad
    obtain ⟨hshort, hbad⟩ := hbad
    by_cases hfits : authEnabled = true →
        ¬ Oversized ((transparentRequest conn req).header.get (utf8 "Proxy-Authorization"))
    · have hport : contains (transparentRequest conn req).url.string (utf8 ":443") = true := by
        by_contra hquiet
        exact hbad ⟨hfits, fun hmark => absurd hmark hquiet⟩
      have hmark := (contains_iff _).mp hport
      cases authEnabled with
      | false =>
        refine h (blockingProxy [] false) (openWorld req) rfl .empty rfl ?_
        exact serveHTTP_blocking hhost hscheme hshort hmark rfl fun hon => nomatch hon
      | true =>
        have hallowed : ¬ Refused [] ((transparentRequest conn req).header.get
            (utf8 "Proxy-Authorization")) (hostOf conn.remoteAddr) := by
          intro hrefused
          exact hbad ⟨hfits, fun _ => ⟨rfl, hrefused⟩⟩
        obtain ⟨users, result, next, hresult, hactive⟩ :=
          exists_admitted (hfits rfl) hallowed
        refine h (blockingProxy users true) (openWorld req) rfl .empty rfl ?_
        exact serveHTTP_blocking hhost hscheme hshort hmark hresult fun _ => hactive
    · rw [Classical.not_imp, not_not] at hfits
      obtain ⟨rfl, hoversized⟩ := hfits
      refine h { openProxy with authEnabled := true } (openWorld req) rfl .empty rfl ?_
      exact serveHTTP_oversized rfl rfl hhost hscheme hshort hoversized
  · rintro hfree proxy world rfl hcache hread
    unfold handleTransparentHTTP
    rw [hread]
    exact serveHTTP_crashFree hcache hfree

def plainOn443 : Conn where
  remoteAddr := utf8 "10.0.0.7:50000"
  originalDst := ⟨utf8 "192.0.2.1", utf8 "443"⟩
  stream := ⟨[utf8 "GET / HTTP/1.1\r\nHost: example.com\r\n\r\n"], .eof⟩

def plainRequest : Request where
  method := utf8 "GET"
  url := { path := utf8 "/" }
  host := utf8 "example.com"
  remoteAddr := []
  header := []

/-- Blocked by a policy, it ends the process. -/
theorem handleTransparentHTTP_crashes_plainOn443 :
    (openWorld plainRequest).readRequest plainOn443.stream = some plainRequest ∧
      Crashes (handleTransparentHTTP (blockingProxy [] false) (openWorld plainRequest)
        plainOn443) := by
  refine ⟨rfl, .typeAssertion, ?_⟩
  decide +kernel

end GateSentry.Proxy
