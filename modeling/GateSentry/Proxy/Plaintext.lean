import GateSentry.Proxy.Stages

/-!
# Decrypted requests and their upstream connections

A request from an intercepted connection was sent inside TLS.  The round trip
keeps it there unless the transparent mode has rewritten its scheme; the two ways
past the round trip, tunnels and websockets, never do.
-/

namespace GateSentry.Proxy

open Foundation ByteText Handler Accounts

def bumpHandler (user : Bytes) (rt : Transport) : ProxyHandler :=
  { tls := true, user, rt := some rt }

def checkedURL (transparent : Bool) (r : Request) : URL :=
  if transparent then
    { r.url with
      scheme := utf8 "http"
      host := if r.host.contains Net.colon then r.host
        else Net.joinHostPort r.host (utf8 "80") }
  else r.url

def completedRequest (transparent : Bool) (r : Request) : Request :=
  if transparent then { r with url := checkedURL true r }
  else { r with url := { r.url with scheme := utf8 "https", host := r.host } }

/-- Neither its host, nor the length of its URL, nor authentication stops the
request for every list of accounts. -/
def Passes (transparent authEnabled : Bool) (handlerUser : Bytes) (r : Request) : Prop :=
  let auth := r.header.get (utf8 "Proxy-Authorization")
  r.host ≠ [] ∧ (checkedURL transparent r).string.length ≤ 10000 ∧
    (authEnabled = true → ¬ Oversized auth ∧ ¬ Refused handlerUser auth (hostOf r.remoteAddr))

def SentInClear (transparent authEnabled : Bool) (handlerUser : Bytes) (rt : Transport)
    (writer : Hijacker) (r : Request) : Prop :=
  Passes transparent authEnabled handlerUser r ∧
    ((r.method = utf8 "CONNECT" ∧ ∃ stream, newHijackedConn writer = .ok stream) ∨
      (IsWebsocket r ∧ ∃ flushError stream, writer = .hijackable flushError stream) ∨
      (IsPlain r ∧ transparent = true ∧ rt.http2 = false))

/-! ## The first stages -/

variable {r : Request}

theorem isTransparent_of_originForm (h : r.IsOriginForm) : isTransparentProxyRequest r = true := by
  simp [isTransparentProxyRequest, h.2.2.2.1]

theorem checkedURL_host_ne (h : r.host ≠ []) : (checkedURL true r).host ≠ [] := by
  simp only [checkedURL, if_true]
  split
  · exact h
  · unfold Net.joinHostPort
    split <;> simp

theorem rewriteTransparent_origin {proxy : GSProxy} (h : r.IsOriginForm) (hhost : r.host ≠ []) :
    rewriteTransparent proxy r =
      pure { r with url := checkedURL proxy.transparentProxyEnabled r } := by
  unfold rewriteTransparent
  rw [isTransparent_of_originForm h]
  cases htransparent : proxy.transparentProxyEnabled with
  | false => rfl
  | true =>
    have hempty : r.host.isEmpty = false := by simpa using hhost
    simp only [hempty]
    rfl

variable {rt : Transport} {user : Bytes}

theorem completeURL_origin (h : r.IsOriginForm) (hhost : r.host ≠ []) (transparent : Bool) :
    completeURL (bumpHandler user rt) { r with url := checkedURL transparent r } = (do
      whenever (10000 < (checkedURL transparent r).string.length) do
        httpError "URL too long" 414
        stop
      pure (completedRequest transparent r)) := by
  obtain ⟨hscheme, -, -, hurlHost, -⟩ := h
  cases transparent with
  | true =>
    have hempty : (checkedURL true r).host.isEmpty = false := by
      simpa using checkedURL_host_ne hhost
    have hscheme' : (checkedURL true r).scheme.isEmpty = false := by
      simp only [checkedURL, if_true]
      decide
    simp [completeURL, hempty, hscheme', completedRequest]
  | false =>
    have hempty : r.host.isEmpty = false := by simpa using hhost
    simp [completeURL, checkedURL, completedRequest, hscheme, hurlHost, hempty, bumpHandler]

theorem serveHTTP_origin (ctx : Context) (user : Bytes) (rt : Transport)
    (h : r.IsOriginForm) (hhost : r.host ≠ []) :
    ∃ isHostLanAddress, serveHTTP ctx (bumpHandler user rt) r = scope (do
      whenever (10000 < (checkedURL ctx.proxy.transparentProxyEnabled r).string.length) do
        httpError "URL too long" 414
        stop
      let auth ← authenticate ctx (bumpHandler user rt) (hostOf r.remoteAddr)
        isHostLanAddress (completedRequest ctx.proxy.transparentProxyEnabled r)
      process ctx (bumpHandler user rt) (hostOf r.remoteAddr) isHostLanAddress auth
        (completedRequest ctx.proxy.transparentProxyEnabled r)) := by
  refine ⟨isLanAddress (before Net.colon
    (checkedURL ctx.proxy.transparentProxyEnabled r).host), ?_⟩
  unfold serveHTTP
  rw [rewriteTransparent_origin h hhost, pure_bind,
    completeURL_origin h hhost ctx.proxy.transparentProxyEnabled, bind_assoc]
  rfl

theorem mem_trace_serveHTTP (ctx : Context) (user : Bytes) (rt : Transport)
    (h : r.IsOriginForm) (hhost : r.host ≠ [])
    (hshort : (checkedURL ctx.proxy.transparentProxyEnabled r).string.length ≤ 10000) :
    ∃ isHostLanAddress, ∀ result event,
      (authenticate ctx (bumpHandler user rt) (hostOf r.remoteAddr) isHostLanAddress
        (completedRequest ctx.proxy.transparentProxyEnabled r)).flow = .next result →
      event ∈ (process ctx (bumpHandler user rt) (hostOf r.remoteAddr) isHostLanAddress
        result (completedRequest ctx.proxy.transparentProxyEnabled r)).trace →
      event ∈ (serveHTTP ctx (bumpHandler user rt) r).trace := by
  obtain ⟨isHostLanAddress, hserve⟩ := serveHTTP_origin ctx user rt h hhost
  refine ⟨isHostLanAddress, fun result event hadmitted hevent => ?_⟩
  have hlimit : decide (10000 <
      (checkedURL ctx.proxy.transparentProxyEnabled r).string.length) = false := by
    simpa using hshort
  rw [hserve, trace_scope, hlimit, whenever_false, Handler.pure_bind]
  exact mem_trace_bind_next hadmitted hevent

variable {ctx : Context}

theorem serveHTTP_noHost {good : Event → Prop}
    (hlocal : ∀ event : Event, event.isRoutine = true → good event) (h : r.IsOriginForm)
    (hhost : r.host = []) : Ensures (serveHTTP ctx (bumpHandler user rt) r) good True := by
  apply ensures_scope
  have hempty : r.host.isEmpty = true := by simp [hhost]
  obtain ⟨-, -, -, hurlHost, -⟩ := id h
  have hurlEmpty : r.url.host.isEmpty = true := by simp [hurlHost]
  cases htransparent : ctx.proxy.transparentProxyEnabled with
  | true =>
    refine Ensures.bind_never ?_ _
    unfold rewriteTransparent
    rw [htransparent, isTransparent_of_originForm h, hempty]
    apply (httpError_ensures hlocal _ _).seq
    exact ensures_stop
  | false =>
    have hsame : rewriteTransparent ctx.proxy r = pure r := by
      simp [rewriteTransparent, htransparent]
    rw [hsame, Handler.pure_bind]
    refine Ensures.bind_never ?_ _
    unfold completeURL
    rw [hurlEmpty, hempty]
    refine ensures_optional (fun _ => ?_) ?_
    · exact (httpError_ensures hlocal _ _).seq ensures_stop
    · apply (httpError_ensures hlocal _ _).seq
      exact ensures_stop

/-! ## The rest of the way -/

def IsSecure : Event → Prop
  | .upstream link _ => link = .tls
  | _ => True

theorem isSecure_local (event : Event) (h : event.isRoutine = true) : IsSecure event := by
  cases event <;> trivial

theorem handleSSLBump_secure (r : Request) (user authUser : Bytes)
    (hwriter : ∀ stream, newHijackedConn ctx.writer ≠ .ok stream) :
    Ensures (handleSSLBump ctx r user authUser) IsSecure True := by
  unfold handleSSLBump
  split
  · apply (failedHijack_ensures isSecure_local _).seq
    exact sendBlockMessage_ensures isSecure_local (fun _ => trivial) _ _
  · rename_i stream hok
    exact absurd hok (hwriter stream)

theorem handleSSLConnectDirect_secure (r : Request)
    (hwriter : ∀ stream, newHijackedConn ctx.writer ≠ .ok stream) :
    Ensures (handleSSLConnectDirect ctx r) IsSecure True := by
  unfold handleSSLConnectDirect
  split
  · exact failedHijack_ensures isSecure_local _
  · rename_i stream hok
    exact absurd hok (hwriter stream)

theorem websocketConnection_secure (r : Request)
    (hwriter : ∀ flushError stream, ctx.writer ≠ .hijackable flushError stream) :
    Ensures (handleWebsocketConnection ctx r) IsSecure True := by
  unfold handleWebsocketConnection
  split
  · exact httpError_ensures isSecure_local _ _
  · exact ensures_local isSecure_local rfl
  · rename_i flushError stream hok
    exact absurd hok (hwriter flushError stream)

variable (transparent : Bool)

theorem process_secure {client : Bytes} {isHostLanAddress : Bool} {auth : AuthResult}
    (hconnect : r.method = utf8 "CONNECT" → ∀ stream, newHijackedConn ctx.writer ≠ .ok stream)
    (hwebsocket : IsWebsocket r → ∀ flushError stream, ctx.writer ≠ .hijackable flushError stream)
    (hplain : IsPlain r → transparent = true → rt.http2 = true) :
    Ensures (process ctx (bumpHandler user rt) client isHostLanAddress auth
      (completedRequest transparent r)) IsSecure True := by
  have hmethod : (completedRequest transparent r).method = r.method := by
    cases transparent <;> rfl
  have hheader : (completedRequest transparent r).header = r.header := by
    cases transparent <;> rfl
  apply process_ensures isSecure_local (fun _ => trivial) (fun _ _ => trivial) (fun _ => trivial)
  · intro policy r' hr'
    obtain ⟨url, rfl, -⟩ := hr'.exists_url
    apply divert_ensures isSecure_local
    · intro hmethod'
      exact handleSSLBump_secure _ _ _ (hconnect (hmethod.symm.trans hmethod'))
    · intro hmethod'
      exact handleSSLConnectDirect_secure _ (hconnect (hmethod.symm.trans hmethod'))
    · intro hwebsocket'
      apply websocketConnection_secure
      apply hwebsocket
      unfold IsWebsocket at hwebsocket' ⊢
      rw [← hmethod, ← hheader]
      exact hwebsocket'
  · intro exchange hreaches hplain'
    obtain ⟨url, hrequest, hscheme⟩ := hreaches.exists_url
    apply forward_ensures isSecure_local (fun _ => trivial)
    · intro _
      rfl
    · intro hinsecure hhttp1
      have hsecure : utf8 "https" ≠ utf8 "http" := by decide
      cases transparent with
      | false =>
        rw [hrequest] at hinsecure
        rcases hscheme with hscheme | hscheme
        · exact absurd (hscheme.symm.trans hinsecure) hsecure
        · exact absurd (hscheme.symm.trans hinsecure) hsecure
      | true =>
        have hhttp2 := hplain (by
          rw [hrequest] at hplain'
          exact hplain') rfl
        exact absurd (hhttp1.symm.trans hhttp2) (by decide)
    · intro _ _
      trivial

theorem completedRequest_header (r : Request) :
    (completedRequest transparent r).header = r.header := by
  cases transparent <;> rfl

theorem serveHTTP_secure (horigin : r.IsOriginForm) (hcache : ctx.proxy.usersCache.Reachable)
    (h : ¬ SentInClear ctx.proxy.transparentProxyEnabled ctx.proxy.authEnabled user rt
      ctx.writer r) : Ensures (serveHTTP ctx (bumpHandler user rt) r) IsSecure True := by
  by_cases hhost : r.host = []
  · exact serveHTTP_noHost isSecure_local horigin hhost
  · obtain ⟨isHostLanAddress, hserve⟩ := serveHTTP_origin ctx user rt horigin hhost
    rw [hserve]
    apply ensures_scope
    refine (ensures_guard fun _ => ?_).bind fun _ hshort => ?_
    · exact (httpError_ensures isSecure_local _ _).seq ensures_stop
    refine Ensures.bind (authenticate_ensures isSecure_local (fun _ => trivial)
      (fun _ _ _ => trivial) _) fun result hadmits => ?_
    have hpasses : Passes ctx.proxy.transparentProxyEnabled ctx.proxy.authEnabled user r := by
      refine ⟨hhost, by simpa using hshort, fun hauth => ?_⟩
      obtain ⟨⟨next, hresult⟩, hsomebody⟩ := hadmits
      rw [hauth, completedRequest_header] at hresult
      obtain ⟨credentials, hcredentials, -⟩ := handleAuth_cases hresult
      refine ⟨not_oversized_of_ok hcache hcredentials, fun hrefused => ?_⟩
      rcases nobody_of_refused hcache hresult hrefused with hempty | hloopback
      · exact (hsomebody hauth).1 hempty
      · exact (hsomebody hauth).2 hloopback
    have hway := not_and.mp h hpasses
    rw [not_or, not_or] at hway
    obtain ⟨hconnect, hwebsocket, hplain⟩ := hway
    apply process_secure
    · intro hmethod stream hok
      exact hconnect ⟨hmethod, stream, hok⟩
    · intro hupgrade flushError stream hok
      exact hwebsocket ⟨hupgrade, flushError, stream, hok⟩
    · intro hplain' htransparent
      by_contra hhttp1
      exact hplain ⟨hplain', htransparent, by simpa using hhttp1⟩

/-! ## Requests sent in clear -/

def settingsProxy (users : List GSUser) (transparent authEnabled : Bool) : GSProxy :=
  { openProxy with users, authEnabled, transparentProxyEnabled := transparent }

theorem process_open (users : List GSUser) (transparent authEnabled : Bool)
    (request : Request) (writer : Hijacker) (handler : ProxyHandler) (client : Bytes)
    (isHostLanAddress : Bool) (auth : AuthResult) (r : Request) :
    ∃ gzipOK, process ⟨settingsProxy users transparent authEnabled, openWorld request, writer⟩
      handler client isHostLanAddress auth r = (do
        divert ⟨settingsProxy users transparent authEnabled, openWorld request, writer⟩
          isHostLanAddress handler.layer client auth none (fixConnectHost r)
        forward ⟨settingsProxy users transparent authEnabled, openWorld request, writer⟩
          handler ⟨fixConnectHost r, client, auth.user, handler.layer, none, gzipOK⟩) :=
  ⟨_, rfl⟩

theorem fixConnectHost_completedRequest (r : Request) :
    ∃ url : URL, fixConnectHost (completedRequest transparent r) = { r with url } ∧
      url.scheme = if transparent then utf8 "http" else utf8 "https" := by
  obtain ⟨host, hfixed⟩ := fixConnectHost_eq (completedRequest transparent r)
  refine ⟨{ (completedRequest transparent r).url with host }, ?_, ?_⟩
  · rw [hfixed]
    cases transparent <;> rfl
  · cases transparent <;> rfl

section Open

variable (users : List GSUser) (transparent authEnabled : Bool) (request : Request)
  (isHostLanAddress : Bool) (layer : Layer) (client : Bytes) (auth : AuthResult) {stream : Stream}

theorem divert_connect {writer : Hijacker} (hwriter : newHijackedConn writer = .ok stream)
    {r : Request} (hmethod : r.method = utf8 "CONNECT") :
    .upstream .plain r.url.host ∈
      (divert ⟨settingsProxy users transparent authEnabled, openWorld request, writer⟩
        isHostLanAddress layer client auth none r).trace := by
  have hdirect : intercepts (settingsProxy users transparent authEnabled)
      isHostLanAddress none r = false := rfl
  unfold divert
  rw [mem_trace_bind_iff]
  left
  rw [decide_eq_true hmethod, hdirect]
  unfold handleSSLConnectDirect
  rw [hwriter]
  simp [mem_trace_bind_iff, connectDirect, openWorld]

theorem divert_websocket {flushError : Option Bytes} {r : Request} (h : IsWebsocket r) :
    .upstream .plain (websocketAddr r) ∈
      (divert ⟨settingsProxy users transparent authEnabled, openWorld request,
        .hijackable flushError stream⟩ isHostLanAddress layer client auth none r).trace := by
  rw [divert_of_websocket h]
  unfold handleWebsocketConnection
  simp [mem_trace_bind_iff, openWorld]

end Open

theorem divert_eq_pure (ctx : Context) (isHostLanAddress : Bool) (layer : Layer)
    (client : Bytes) (auth : AuthResult) (policy : Option PolicyDecision)
    (h : IsPlain r) : divert ctx isHostLanAddress layer client auth policy r = pure () := by
  obtain ⟨hmethod, hupgrade, hloop⟩ := h
  unfold divert
  have hfew : decide (10 ≤ (r.header.values (utf8 "X-Forwarded-For")).length) = false := by
    simpa using hloop
  rw [decide_eq_false hmethod, hupgrade, hfew]
  rfl

theorem divert_plain (ctx : Context) (isHostLanAddress : Bool) (layer : Layer) (client : Bytes)
    (auth : AuthResult) (policy : Option PolicyDecision) (h : IsPlain r) :
    (divert ctx isHostLanAddress layer client auth policy r).flow = .next () := by
  rw [divert_eq_pure ctx isHostLanAddress layer client auth policy h]
  rfl

theorem forward_plain (proxy : GSProxy) (request : Request) (writer : Hijacker)
    (handler : ProxyHandler) (hhttp1 : (handler.rt.getD httpTransport).http2 = false)
    {exchange : Exchange} (hscheme : exchange.request.url.scheme = utf8 "http") :
    .upstream .plain exchange.request.url.host ∈
      (forward ⟨proxy, openWorld request, writer⟩ handler exchange).trace := by
  have hinsecure : utf8 "http" ≠ utf8 "https" := by decide
  unfold forward
  rw [mem_trace_bind_iff]
  unfold roundTrip
  simp [hscheme, hinsecure, hhttp1, openWorld, mem_trace_bind_iff]

theorem exists_plain_of_sentInClear {transparent authEnabled : Bool} {writer : Hijacker}
    (horigin : r.IsOriginForm) (h : SentInClear transparent authEnabled user rt writer r) :
    ∃ users address, .upstream .plain address ∈
      (serveHTTP ⟨settingsProxy users transparent authEnabled, openWorld r, writer⟩
        (bumpHandler user rt) r).trace := by
  obtain ⟨⟨hhost, hshort, hauth⟩, hway⟩ := h
  obtain ⟨users, result, next, hresult, hactive⟩ : ∃ users result next,
      handleAuthAndAssignUser (isUserValid users) []
        (r.header.get (utf8 "Proxy-Authorization")) user authEnabled
        (hostOf r.remoteAddr) = .ok (result, next) ∧
      (authEnabled = true → ¬ Nobody result.user ∧ userExists users result.user = true ∧
        isUserActive users result.user = true) := by
    cases authEnabled with
    | false => exact ⟨[], _, _, rfl, fun hon => nomatch hon⟩
    | true =>
      obtain ⟨users, result, next, hresult, hactive⟩ :=
        exists_admitted (hauth rfl).1 (hauth rfl).2
      exact ⟨users, result, next, hresult, fun _ => hactive⟩
  obtain ⟨isHostLanAddress, htrace⟩ := mem_trace_serveHTTP
    ⟨settingsProxy users transparent authEnabled, openWorld r, writer⟩ user rt horigin hhost
    hshort
  have hadmitted : (authenticate
      ⟨settingsProxy users transparent authEnabled, openWorld r, writer⟩
      (bumpHandler user rt) (hostOf r.remoteAddr) isHostLanAddress
      (completedRequest transparent r)).flow = .next result := by
    rw [← completedRequest_header transparent r] at hresult
    exact authenticate_next hresult hactive isHostLanAddress
  obtain ⟨gzipOK, hprocess⟩ := process_open users transparent authEnabled r writer
    (bumpHandler user rt) (hostOf r.remoteAddr) isHostLanAddress result
    (completedRequest transparent r)
  obtain ⟨url, hfixed, hscheme⟩ := fixConnectHost_completedRequest transparent r
  rw [hfixed] at hprocess
  replace htrace := fun event => htrace result event hadmitted
  dsimp only [settingsProxy] at htrace hprocess
  rw [hprocess] at htrace
  rcases hway with ⟨hmethod, stream, hwriter⟩ | ⟨hwebsocket, flushError, stream, rfl⟩ |
    ⟨hplain, rfl, hhttp1⟩
  · refine ⟨users, url.host, htrace _ ?_⟩
    rw [mem_trace_bind_iff]
    exact .inl (divert_connect _ _ _ _ _ _ _ _ hwriter (r := { r with url }) hmethod)
  · refine ⟨users, websocketAddr { r with url }, htrace _ ?_⟩
    rw [mem_trace_bind_iff]
    exact .inl (divert_websocket _ _ _ _ _ _ _ _ (r := { r with url }) hwebsocket)
  · refine ⟨users, url.host, htrace _ ?_⟩
    apply mem_trace_bind_next (divert_plain _ _ _ _ _ _ (r := { r with url }) hplain)
    exact forward_plain _ _ _ (bumpHandler user rt) hhttp1 hscheme

/-! ## Decrypted requests stay inside TLS -/

/-- The connections opened for a decrypted request are TLS connections, whatever the
verdicts, the accounts and the network are, exactly if it is not sent in clear. -/
theorem serveHTTP_staysSecure_iff (r : Request) (horigin : r.IsOriginForm)
    (transparent authEnabled : Bool) (user : Bytes) (rt : Transport) (writer : Hijacker) :
    (∀ proxy world, proxy.transparentProxyEnabled = transparent →
      proxy.authEnabled = authEnabled → proxy.usersCache.Reachable →
      ∀ link address, .upstream link address ∈
        (serveHTTP ⟨proxy, world, writer⟩ (bumpHandler user rt) r).trace → link = .tls) ↔
      ¬ SentInClear transparent authEnabled user rt writer r := by
  constructor
  · intro h hclear
    obtain ⟨users, address, hplain⟩ := exists_plain_of_sentInClear horigin hclear
    exact Link.noConfusion (h _ _ rfl rfl .empty _ _ hplain)
  · rintro h proxy world rfl rfl hcache link address hevent
    exact (serveHTTP_secure horigin hcache h).events _ hevent

def pageRequest : Request where
  method := utf8 "GET"
  url := { path := utf8 "/" }
  host := utf8 "example.com"
  remoteAddr := utf8 "10.0.0.7:50000"
  header := []

theorem serveHTTP_staysSecure_pageRequest :
    pageRequest.IsOriginForm ∧ ∀ proxy world, proxy.transparentProxyEnabled = false →
      proxy.authEnabled = false → proxy.usersCache.Reachable → ∀ link address,
      .upstream link address ∈ (serveHTTP ⟨proxy, world, .unsupported⟩
        (bumpHandler [] httpTransport) pageRequest).trace → link = .tls := by
  have horigin : pageRequest.IsOriginForm := by decide
  refine ⟨horigin, (serveHTTP_staysSecure_iff _ horigin _ _ _ _ _).mpr ?_⟩
  rintro ⟨-, ⟨hmethod, -⟩ | ⟨hwebsocket, -⟩ | ⟨-, htransparent, -⟩⟩
  · exact absurd hmethod (by decide)
  · exact absurd hwebsocket.2 (by decide)
  · exact Bool.noConfusion htransparent

def websocketRequest : Request :=
  { pageRequest with header := [(utf8 "Upgrade", utf8 "websocket")] }

theorem serveHTTP_plain_websocketRequest : websocketRequest.IsOriginForm ∧
      .upstream .plain (utf8 "example.com:80") ∈ (serveHTTP
        ⟨openProxy, openWorld websocketRequest, .hijackable none ⟨[], .eof⟩⟩
        (bumpHandler [] httpTransport) websocketRequest).trace := by
  decide +kernel

end GateSentry.Proxy
