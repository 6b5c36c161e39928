import GateSentry.Proxy.Crash
import GateSentry.Proxy.Plaintext
import GateSentry.Proxy.Tunnel

/-!
# The site asked for on the transparent listener

The explicit proxy asks the policy for the host of the URL, which is the site the
client asked for.  The transparent listener puts the destination address into the
URL, so the policy is asked for that address and the `Host` header is not seen.
-/

namespace GateSentry.Proxy

open Foundation ByteText Handler

def hostName (host : Bytes) : Bytes :=
  match Net.splitHostPort host with
  | .ok (name, _) => if name.isEmpty then host else name
  | .error _ => host

def GSProxy.BlocksHost (proxy : GSProxy) (handler : ProxyHandler) (host : Bytes)
    (r : Request) : Prop :=
  ∀ result next, handleAuthAndAssignUser (Accounts.isUserValid proxy.users)
      proxy.usersCache (r.header.get (utf8 "Proxy-Authorization")) handler.user
      proxy.authEnabled (hostOf r.remoteAddr) = .ok (result, next) →
    ∃ decision, proxy.ruleMatchHandler host result.user (hostOf r.remoteAddr) =
      some decision ∧ decision.block = true

def askedHost (conn : Conn) (req : Request) : Bytes := (transparentRequest conn req).host

def explicitRequest (conn : Conn) (req : Request) : Request :=
  { req with
    url := { req.url with scheme := utf8 "http", host := askedHost conn req }
    host := askedHost conn req
    remoteAddr := conn.remoteAddr }

variable {r : Request}

theorem fixConnectHost_of_method (h : r.method ≠ utf8 "CONNECT") : fixConnectHost r = r := by
  simp [fixConnectHost, h]

theorem askedHost_ne (conn : Conn) (req : Request) : askedHost conn req ≠ [] := by
  simp only [askedHost, transparentRequest]
  split
  · exact transparent_host_ne conn req
  · rename_i h
    simpa using h

/-! ## Denied requests -/

section Denied

variable {ctx : Context} {handler : ProxyHandler} {r : Request}

theorem serveHTTP_blocksHost (hhost : r.url.host ≠ []) (hscheme : r.url.scheme ≠ [])
    (hmethod : r.method ≠ utf8 "CONNECT")
    (hblock : ctx.proxy.BlocksHost handler (hostName r.url.host) r) :
    Ensures (serveHTTP ctx handler r) IsLocal True := by
  rw [serveHTTP_of_url _ _ hhost hscheme]
  apply ensures_scope
  refine (ensures_guard fun _ => ?_).bind fun _ _ => ?_
  · exact (httpError_ensures Event.upstream_of_routine _ _).seq ensures_stop
  refine (authenticate_ensures Event.upstream_of_routine (fun _ => trivial)
    (fun _ _ _ => trivial) _).bind fun auth hadmits => ?_
  obtain ⟨⟨next, hauth⟩, -⟩ := hadmits
  obtain ⟨decision, hdecision, hblocks⟩ := hblock auth next hauth
  apply (checkTime_ensures Event.upstream_of_routine (fun _ => trivial) _ fun _ _ => rfl).seq
  rw [fixConnectHost_of_method hmethod]
  refine Ensures.bind_never ?_ _
  refine (checkPolicy_ensures Event.upstream_of_routine (fun _ => trivial) _ _ _).mono ?_
  rintro policy ⟨hpolicy, hpasses⟩
  rw [hpasses decision (hpolicy.trans hdecision)] at hblocks
  exact Bool.noConfusion hblocks

theorem serveHTTP_notPlain (hwriter : ctx.writer = .unsupported) (hhost : r.url.host ≠ [])
    (hscheme : r.url.scheme ≠ []) (hplain : ¬ IsPlain r) :
    Ensures (serveHTTP ctx handler r) IsLocal True := by
  rw [serveHTTP_of_url _ _ hhost hscheme]
  apply ensures_scope
  refine (ensures_guard fun _ => ?_).bind fun _ _ => ?_
  · exact (httpError_ensures Event.upstream_of_routine _ _).seq ensures_stop
  refine (authenticate_ensures Event.upstream_of_routine (fun _ => trivial)
    (fun _ _ _ => trivial) _).bind fun auth _ => ?_
  apply process_ensures Event.upstream_of_routine (fun _ => trivial) (fun _ _ => rfl)
    (fun _ => trivial)
  · intro policy r' _
    exact divert_unsupported Event.upstream_of_routine hwriter (fun _ => trivial) _ _ _ _ _
  · intro exchange hreaches hplain'
    obtain ⟨url, hrequest, -⟩ := hreaches.exists_url
    rw [hrequest] at hplain'
    exact absurd hplain' hplain

theorem serveHTTP_tooLong (hhost : r.url.host ≠ []) (hscheme : r.url.scheme ≠ [])
    (hlong : 10000 < r.url.string.length) : Ensures (serveHTTP ctx handler r) IsLocal True := by
  rw [serveHTTP_of_url _ _ hhost hscheme, decide_eq_true hlong]
  apply ensures_scope
  refine Ensures.bind_never ?_ _
  exact (httpError_ensures Event.upstream_of_routine _ _).seq ensures_stop

end Denied

/-! ## Requests that get through -/

def selectiveProxy (host : Bytes) : GSProxy :=
  { openProxy with
    ruleMatchHandler := fun domain _ _ =>
      if domain = host then some { block := true } else none }

theorem selectiveProxy_blocksHost (handler : ProxyHandler) (host : Bytes) (r : Request) :
    (selectiveProxy host).BlocksHost handler host r := by
  intro result next _
  exact ⟨{ block := true }, by simp [selectiveProxy], rfl⟩

theorem process_selective {host : Bytes}
    (hother : policyHost (fixConnectHost r) ≠ host) (request : Request) (writer : Hijacker)
    (handler : ProxyHandler) (client : Bytes) (isHostLanAddress : Bool) (auth : AuthResult) :
    ∃ gzipOK, process ⟨selectiveProxy host, openWorld request, writer⟩ handler client
      isHostLanAddress auth r = (do
        divert ⟨selectiveProxy host, openWorld request, writer⟩ isHostLanAddress
          handler.layer client auth none (fixConnectHost r)
        forward ⟨selectiveProxy host, openWorld request, writer⟩ handler
          ⟨fixConnectHost r, client, auth.user, handler.layer, none, gzipOK⟩) := by
  have hpolicy : checkPolicy ⟨selectiveProxy host, openWorld request, writer⟩ handler.layer
      client auth.user (fixConnectHost r) = pure none := by
    simp [checkPolicy, selectiveProxy, hother]
  unfold process
  dsimp only
  rw [hpolicy]
  exact ⟨_, rfl⟩

theorem serveHTTP_selective {host : Bytes} (hhost : r.url.host ≠ [])
    (hscheme : r.url.scheme = utf8 "http") (hshort : r.url.string.length ≤ 10000)
    (hplain : IsPlain r) (hother : hostName r.url.host ≠ host) (request : Request)
    (writer : Hijacker) (handler : ProxyHandler) (hrt : handler.rt = none) :
    .upstream .plain r.url.host ∈
      (serveHTTP ⟨selectiveProxy host, openWorld request, writer⟩ handler r).trace := by
  have hne : r.url.scheme ≠ [] := by
    rw [hscheme]
    decide
  have hlimit : decide (10000 < r.url.string.length) = false := by simpa using hshort
  have hopen : (selectiveProxy host).authEnabled ≠ true := Bool.false_ne_true
  have hadmitted : ∃ result, (authenticate ⟨selectiveProxy host, openWorld request, writer⟩
      handler (hostOf r.remoteAddr) (isLanAddress (before Net.colon r.url.host)) r).flow =
      .next result :=
    ⟨_, authenticate_next rfl (fun hon => absurd hon hopen) _⟩
  obtain ⟨result, hadmitted⟩ := hadmitted
  have hfixed := fixConnectHost_of_method hplain.1
  have hunblocked : policyHost (fixConnectHost r) ≠ host := by rwa [hfixed]
  obtain ⟨gzipOK, hprocess⟩ := process_selective hunblocked request writer handler
    (hostOf r.remoteAddr) (isLanAddress (before Net.colon r.url.host)) result
  rw [serveHTTP_of_url _ _ hhost hne, trace_scope, hlimit, whenever_false, Handler.pure_bind]
  apply mem_trace_bind_next hadmitted
  rw [hprocess, hfixed]
  apply mem_trace_bind_next (divert_plain _ _ _ _ _ _ hplain)
  exact forward_plain _ _ _ handler (by rw [hrt]; rfl) hscheme

/-! ## The two ways to the proxy -/

/-- The explicit proxy sends nothing to a site that is blocked for the client.  On the
transparent listener this holds, for every policy, exactly if the request names its
destination, or is one that is never sent on. -/
theorem transparent_deniesHost_iff (conn : Conn) (req : Request) :
    (req.method ≠ utf8 "CONNECT" → ∀ (proxy : GSProxy) (world : World) (writer : Hijacker),
      proxy.BlocksHost {} (hostName (askedHost conn req)) (explicitRequest conn req) →
      ∀ link address, .upstream link address ∉
        (serveHTTP ⟨proxy, world, writer⟩ {} (explicitRequest conn req)).trace) ∧
    ((∀ (proxy : GSProxy) (world : World), world.readRequest conn.stream = some req →
      proxy.BlocksHost transparentHandler (hostName (askedHost conn req))
        (transparentRequest conn req) →
      ∀ link address, .upstream link address ∉
        (handleTransparentHTTP proxy world conn).trace) ↔
      hostName (askedHost conn req) = hostName conn.originalDst.text ∨
        10000 < (transparentRequest conn req).url.string.length ∨ ¬ IsPlain req) := by
  have hhost := transparent_host_ne conn req
  have hscheme := transparent_scheme_ne conn req
  refine ⟨?_, ?_, ?_⟩
  · intro hmethod proxy world writer hblock link address hevent
    have hlocal : Ensures (serveHTTP ⟨proxy, world, writer⟩ {} (explicitRequest conn req))
        IsLocal True :=
      serveHTTP_blocksHost (askedHost_ne conn req) hscheme hmethod hblock
    exact Bool.noConfusion (hlocal.events _ hevent)
  · intro h
    by_contra hbad
    rw [not_or, not_or, not_lt, not_not] at hbad
    obtain ⟨hother, hshort, hplain⟩ := hbad
    apply h (selectiveProxy (hostName (askedHost conn req))) (openWorld req) rfl
      (selectiveProxy_blocksHost _ _ _) .plain conn.originalDst.text
    exact serveHTTP_selective hhost rfl hshort hplain (Ne.symm hother) _ _ _ rfl
  · intro h proxy world hread hblock link address hevent
    unfold handleTransparentHTTP at hevent
    rw [hread] at hevent
    have hlocal : Ensures (serveHTTP { proxy, world, writer := .unsupported }
        transparentHandler (transparentRequest conn req)) IsLocal True := by
      by_cases hplain : IsPlain req
      · rcases h with hsame | hlong | hnotPlain
        · rw [hsame] at hblock
          exact serveHTTP_blocksHost hhost hscheme hplain.1 hblock
        · exact serveHTTP_tooLong hhost hscheme hlong
        · exact absurd hplain hnotPlain
      · exact serveHTTP_notPlain rfl hhost hscheme hplain
    exact Bool.noConfusion (hlocal.events _ hevent)

def gamesConn : Conn where
  remoteAddr := utf8 "10.0.0.7:50000"
  originalDst := ⟨utf8 "192.0.2.1", utf8 "80"⟩
  stream := ⟨[utf8 "GET / HTTP/1.1\r\nHost: games.example\r\n\r\n"], .eof⟩

def gamesRequest : Request where
  method := utf8 "GET"
  url := { path := utf8 "/" }
  host := utf8 "games.example"
  remoteAddr := []
  header := []

/-- The explicit proxy denies the site, and the transparent listener sends the
request to its address. -/
theorem transparent_sendsBlocked_gamesRequest :
    (selectiveProxy (utf8 "games.example")).ruleMatchHandler
        (hostName (askedHost gamesConn gamesRequest)) [] (utf8 "10.0.0.7") =
      some { block := true } ∧
    (∀ event ∈ (serveHTTP ⟨selectiveProxy (utf8 "games.example"), openWorld gamesRequest,
      .unsupported⟩ {} (explicitRequest gamesConn gamesRequest)).trace,
      event.isUpstream = false) ∧
    .upstream .plain (utf8 "192.0.2.1:80") ∈
      (handleTransparentHTTP (selectiveProxy (utf8 "games.example")) (openWorld gamesRequest)
        gamesConn).trace := by
  refine ⟨?_, ?_, ?_⟩
  · decide +kernel
  · decide +kernel
  · decide +kernel

end GateSentry.Proxy
