import GateSentry.Proxy.Stages

/-!
# Inspection and its fallbacks

A policy with conditions asks for inspection.  A client's TLS connection under such a policy is
decrypted, refused, or, where it cannot be decrypted, joined to the server as it is.
-/

namespace GateSentry.Proxy

open Foundation ByteText Handler GsClientHello

def Event.isRelay : Event → Bool
  | .relay _ => true
  | _ => false

/-- The client's connection is decrypted, and each request in it is served on its own. -/
def Event.isIntercept : Event → Bool
  | .intercept _ => true
  | _ => false

def Event.Unjoined (event : Event) : Prop :=
  event.isRelay = false ∧ event.isIntercept = false

/-! ## Interception -/

section Bump

variable (world : World) (serverName serverAddr : Bytes)

/-- Whether there is a certificate for the server, from the cache or from a connection to it;
without a result where the signing panics. -/
def certified : Option Bool :=
  match world.certCache.get world.now (serverName, serverAddr) with
  | some _ => some true
  | none =>
    match world.tlsDial serverName serverAddr with
    | .error _ => some false
    | .ok _ => world.signCertificate serverName

theorem relays_connectDirect_iff :
    Does Event.isRelay (connectDirect world serverAddr) ↔ world.dial serverAddr = true := by
  unfold connectDirect
  split
  · rename_i hdial
    simp [Event.isRelay, hdial]
  · rename_i hdial
    simp [Event.isRelay, hdial]

theorem not_intercepts_connectDirect : ¬ Does Event.isIntercept (connectDirect world serverAddr) := by
  unfold connectDirect
  split <;> simp [Event.isIntercept]

theorem does_bumpTransport_iff {kind : Event → Bool}
    (hlocal : ∀ event : Event, event.Unjoined → kind event = false) (user : Bytes) :
    Does kind (bumpTransport world serverName serverAddr user) ↔
      certified world serverName serverAddr = some false ∧
        Does kind (connectDirect world serverAddr) := by
  unfold bumpTransport certified
  cases world.certCache.get world.now (serverName, serverAddr) with
  | some rt => simp
  | none =>
    cases world.tlsDial serverName serverAddr with
    | error reason => simp [does_bind_iff]
    | ok state =>
      have hdial : kind (.upstream .tls serverAddr) = false := hlocal _ ⟨rfl, rfl⟩
      cases world.signCertificate serverName with
      | none => simp [hdial]
      | some signed =>
        cases signed with
        | true => simp [hdial, hlocal (.log _) ⟨rfl, rfl⟩]
        | false => simp [does_bind_iff, hdial]

theorem bumpTransport_next_iff (user : Bytes) :
    (∃ rt, (bumpTransport world serverName serverAddr user).flow = .next rt) ↔
      certified world serverName serverAddr = some true := by
  unfold bumpTransport certified
  cases world.certCache.get world.now (serverName, serverAddr) with
  | some rt => exact iff_of_true ⟨rt, rfl⟩ rfl
  | none =>
    have hstopped : ¬ ∃ rt, (connectDirect world serverAddr >>= fun _ =>
        (stop : Handler Event Transport)).flow = .next rt := by
      rintro ⟨rt, hflow⟩
      unfold connectDirect at hflow
      split at hflow
      · cases hflow
      · cases hflow
    cases world.tlsDial serverName serverAddr with
    | error reason => exact iff_of_false hstopped (by simp)
    | ok state =>
      cases world.signCertificate serverName with
      | none => exact iff_of_false nofun nofun
      | some signed =>
        cases signed with
        | true => exact iff_of_true ⟨_, rfl⟩ rfl
        | false => exact iff_of_false hstopped (by simp)

end Bump

section Hello

variable (world : World) (serverAddr user authUser : Bytes)

/-- The hello is understood, and `certified` says whether there is a certificate for the server
that it names. -/
def NamesServer (clientHello : Bytes) (isCertified : Bool) : Prop :=
  ∃ sni, (clientHelloServerName clientHello).flow = .next sni ∧
    certified world (bumpServerName world sni serverAddr) serverAddr = some isCertified

theorem serverName_does_nothing (kind : Event → Bool) (clientHello : Bytes) :
    ¬ Does kind (clientHelloServerName clientHello) := by
  unfold clientHelloServerName
  split <;> simp

theorem relays_bumpHello_iff (clientHello : Bytes) :
    Does Event.isRelay (bumpHello world serverAddr user authUser clientHello) ↔
      NamesServer world serverAddr clientHello false ∧ world.dial serverAddr = true := by
  have hlast (rt : Transport) : ¬ Does Event.isRelay
      (if world.clientHandshake = true then
        emit (.intercept { tls := true, user := authUser, rt := some rt })
      else emit .closeConn) := by
    split <;> simp [Event.isRelay]
  unfold bumpHello NamesServer
  simp only [does_bind_iff, serverName_does_nothing, false_or,
    does_bumpTransport_iff world _ serverAddr fun _ h => h.1, relays_connectDirect_iff, hlast,
    and_false, exists_false, or_false]
  grind

theorem intercepts_bumpHello_iff (clientHello : Bytes) :
    Does Event.isIntercept (bumpHello world serverAddr user authUser clientHello) ↔
      NamesServer world serverAddr clientHello true ∧ world.clientHandshake = true := by
  have hlast (rt : Transport) : Does Event.isIntercept
      (if world.clientHandshake = true then
        emit (.intercept { tls := true, user := authUser, rt := some rt })
      else emit .closeConn) ↔ world.clientHandshake = true := by
    cases world.clientHandshake <;> simp [Event.isIntercept]
  unfold bumpHello NamesServer
  simp only [does_bind_iff, serverName_does_nothing, false_or,
    does_bumpTransport_iff world _ serverAddr fun _ h => h.2, not_intercepts_connectDirect,
    and_false, hlast, ← bumpTransport_next_iff _ _ _ user]
  grind

variable {kind : Event → Bool}

theorem does_sslBump_hello_iff (hclose : kind .closeConn = false) (stream : Stream)
    (clientHello : Bytes) :
    Does kind (sslBump world stream serverAddr user authUser (some clientHello)) ↔
      Does kind (bumpHello world serverAddr user authUser clientHello) := by
  unfold sslBump
  rw [does_scope_iff, does_recovering_iff _ (by simp [hclose])]
  rfl

def HelloUnreadable (stream : Stream) : Prop :=
  ∃ read error rest, readClientHello stream = (read, some error, rest) ∧
    isNetError error = false ∧ error ≠ .obsoleteSSLVersion

theorem does_sslBump_iff (hlocal : ∀ event : Event, event.Unjoined → kind event = false)
    (stream : Stream) :
    Does kind (sslBump world stream serverAddr user authUser none) ↔
      (HelloUnreadable stream ∧ Does kind (connectDirect world serverAddr)) ∨
        ∃ clientHello rest, readClientHello stream = (clientHello, none, rest) ∧
          Does kind (bumpHello world serverAddr user authUser clientHello) := by
  have hclose : kind .closeConn = false := hlocal _ ⟨rfl, rfl⟩
  unfold sslBump HelloUnreadable
  rw [does_scope_iff, does_recovering_iff _ (by simp [hclose])]
  unfold bump
  match hread : readClientHello stream with
  | (clientHello, none, rest) =>
    simp only [Prod.mk.injEq, reduceCtorEq, false_and, and_false, exists_false, false_or, true_and]
    constructor
    · exact fun h => ⟨clientHello, rest, ⟨rfl, rfl⟩, h⟩
    · rintro ⟨_, _, ⟨rfl, rfl⟩, h⟩
      exact h
  | (read, some error, rest) =>
    by_cases hnet : isNetError error = true
    · simp [hclose, hnet]
    · by_cases hobsolete : error = .obsoleteSSLVersion
      · simp [hobsolete, hclose]
      · simp [hnet, hobsolete, does_bind_iff]

def Undecryptable (world : World) (serverAddr : Bytes) (stream : Stream) : Prop :=
  HelloUnreadable stream ∨
    ∃ clientHello rest, readClientHello stream = (clientHello, none, rest) ∧
      NamesServer world serverAddr clientHello false

theorem relays_sslBump_iff (stream : Stream) :
    Does Event.isRelay (sslBump world stream serverAddr user authUser none) ↔
      world.dial serverAddr = true ∧ Undecryptable world serverAddr stream := by
  rw [does_sslBump_iff _ _ _ _ fun _ h => h.1]
  simp only [relays_connectDirect_iff, relays_bumpHello_iff, Undecryptable]
  grind

def Decryptable (world : World) (serverAddr : Bytes) (stream : Stream) : Prop :=
  world.clientHandshake = true ∧
    ∃ clientHello rest, readClientHello stream = (clientHello, none, rest) ∧
      NamesServer world serverAddr clientHello true

theorem intercepts_sslBump_iff (stream : Stream) :
    Does Event.isIntercept (sslBump world stream serverAddr user authUser none) ↔
      Decryptable world serverAddr stream := by
  rw [does_sslBump_iff _ _ _ _ fun _ h => h.2]
  simp only [not_intercepts_connectDirect, intercepts_bumpHello_iff, Decryptable]
  grind

end Hello

/-! ## `CONNECT` requests -/

structure Passage where
  isHostLanAddress : Bool
  auth : AuthResult
  policy : Option PolicyDecision
  request : Request
  deriving DecidableEq

def approach (ctx : Context) (handler : ProxyHandler) (request : Request) :
    Handler Event Passage := do
  let client := hostOf request.remoteAddr
  let r ← rewriteTransparent ctx.proxy request
  let isHostLanAddress := isLanAddress (before Net.colon r.url.host)
  let r ← completeURL handler r
  let auth ← authenticate ctx handler client isHostLanAddress r
  checkTime ctx client auth.user r
  let r := fixConnectHost r
  let policy ← checkPolicy ctx handler.layer client auth.user r
  let policyAllows := (policy.map (·.allow)).getD false
  checkURLFilter ctx handler.layer client auth.user policyAllows r
  let r ← redirectFileType ctx client auth.user policyAllows r
  pure { isHostLanAddress, auth, policy, request := r }

def Passage.proceed (ctx : Context) (handler : ProxyHandler) (client : Bytes)
    (passage : Passage) : Handler Event Unit := do
  let r := passage.request
  divert ctx passage.isHostLanAddress handler.layer client passage.auth passage.policy r
  forward ctx handler {
    request := r, client, user := passage.auth.user, layer := handler.layer,
    policy := passage.policy,
    gzipOK := acceptsEncoding ctx.world (r.header.get (utf8 "Accept-Encoding"))
      (utf8 "gzip") && !isLanAddress client }

theorem serveHTTP_eq_approach (ctx : Context) (handler : ProxyHandler) (request : Request) :
    serveHTTP ctx handler request = scope (approach ctx handler request >>=
      Passage.proceed ctx handler (hostOf request.remoteAddr)) := by
  unfold serveHTTP approach process Passage.proceed
  simp only [bind_assoc, Handler.pure_bind]

variable (event : Event)

theorem Event.unjoined_of_isRoutine (h : event.isRoutine = true) : event.Unjoined := by
  cases event with
  | relay | intercept => cases h
  | _ => exact ⟨rfl, rfl⟩

theorem approach_unjoined (ctx : Context) (handler : ProxyHandler) (request : Request) :
    Ensures (approach ctx handler request) Event.Unjoined True := by
  have hlocal := Event.unjoined_of_isRoutine
  refine (rewriteTransparent_ensures hlocal ctx.proxy request).bind fun routed _ => ?_
  refine (completeURL_ensures hlocal handler routed).bind fun completed _ => ?_
  refine (authenticate_ensures hlocal (fun _ => trivial) (fun _ _ _ => trivial) _).bind
    fun auth _ => ?_
  apply (checkTime_ensures hlocal (fun _ => trivial) _ fun _ _ => ⟨rfl, rfl⟩).seq
  refine (checkPolicy_ensures hlocal (fun _ => trivial) _ _ _).bind fun policy _ => ?_
  apply (checkURLFilter_ensures hlocal (fun _ => trivial) _ _ _ _).seq
  refine (redirectFileType_ensures hlocal _ _ _ _ _).bind fun r' _ => ?_
  exact ensures_pure trivial

variable {kind : Event → Bool}

theorem does_proceed_connect_iff {ctx : Context} {handler : ProxyHandler} {client : Bytes}
    {passage : Passage} (hconnect : passage.request.method = utf8 "CONNECT") :
    Does kind (passage.proceed ctx handler client) ↔
      Does kind (divert ctx passage.isHostLanAddress handler.layer client passage.auth
        passage.policy passage.request) := by
  have hany (m : Handler Event Unit) : Ensures m (fun _ => True) True :=
    ⟨fun _ _ => trivial, fun _ => trivial, fun _ _ => trivial⟩
  have hdivert : Ensures (divert ctx passage.isHostLanAddress handler.layer client
      passage.auth passage.policy passage.request) (fun _ => True) True
      fun _ => IsPlain passage.request := by
    apply divert_ensures fun _ _ => trivial
    · exact fun _ => hany _
    · exact fun _ => hany _
    · exact fun _ => hany _
  unfold Passage.proceed
  rw [does_bind_iff]
  constructor
  · rintro (hdoes | ⟨value, hnext, -⟩)
    · exact hdoes
    · exact absurd hconnect (hdivert.next value hnext).1
  · exact .inl

def Context.Hijacks (ctx : Context) (stream : Stream) : Prop :=
  newHijackedConn ctx.writer = .ok stream

section Tunnels

variable {kind : Event → Bool}
  (hlocal : ∀ event : Event, event.isRoutine = true → kind event = false)
include hlocal

variable (ctx : Context)

theorem not_does_failedHijack (writer : Hijacker) : ¬ Does kind (failedHijack writer) := by
  cases writer <;> simp [failedHijack, hlocal .hijack rfl, hlocal .closeConn rfl]

theorem does_handleSSLConnectDirect_iff (r : Request) : Does kind (handleSSLConnectDirect ctx r) ↔
      (∃ stream, ctx.Hijacks stream) ∧ Does kind (connectDirect ctx.world r.url.host) := by
  unfold handleSSLConnectDirect Context.Hijacks
  cases newHijackedConn ctx.writer with
  | error error => simp [not_does_failedHijack hlocal]
  | ok stream => simp [hlocal .hijack rfl, hlocal (.connWrite _) rfl]

theorem does_handleSSLBump_iff (r : Request) (user authUser : Bytes) :
    Does kind (handleSSLBump ctx r user authUser) ↔ ∃ stream, ctx.Hijacks stream ∧
        Does kind (sslBump ctx.world stream r.url.host user authUser none) := by
  unfold handleSSLBump Context.Hijacks
  cases newHijackedConn ctx.writer with
  | error error =>
    have hpage (ctx : Context) (page : Bytes) :
        ¬ Does kind (sendBlockMessageBytes ctx r page none) := by
      have hensures : Ensures (sendBlockMessageBytes ctx r page none)
          (fun event => kind event = false) True :=
        sendBlockMessage_ensures hlocal (fun _ => trivial) page none
      exact hensures.not_does fun _ h => h
    simp [does_bind_iff, not_does_failedHijack hlocal, hpage]
  | ok stream => simp [hlocal .hijack rfl, hlocal (.connWrite _) rfl]

theorem does_divert_inspect_iff {isHostLanAddress : Bool} {layer : Layer}
    {client : Bytes} {auth : AuthResult} {decision : PolicyDecision} {r : Request}
    (hconnect : r.method = utf8 "CONNECT") (hinspect : decision.inspect = true) :
    Does kind (divert ctx isHostLanAddress layer client auth (some decision) r) ↔
      ∃ stream, ctx.Hijacks stream ∧
        if isHostLanAddress then Does kind (connectDirect ctx.world r.url.host)
        else Does kind (sslBump ctx.world stream r.url.host auth.user auth.authUser none) := by
  have hintercepts : intercepts ctx.proxy isHostLanAddress (some decision) r =
      !isHostLanAddress := by
    simp [intercepts, hinspect]
  have hend (m : Handler Event Unit) (f : Unit → Handler Event Unit) :
      Does kind ((m >>= fun _ => stop) >>= f) ↔ Does kind m := by
    rw [bind_assoc]
    simp [does_bind_iff]
  unfold divert
  simp only [hconnect, decide_true, whenever_true, hintercepts]
  cases isHostLanAddress with
  | true =>
    have hlog : kind (.log ⟨r.url.string, auth.user, .sslDirect, client, layer, []⟩) =
        false := hlocal _ rfl
    simp only [Bool.not_true, Bool.false_eq_true, if_false, if_true, bind_assoc, stop_bind,
      does_emit_bind_iff, hlog, false_or]
    simp only [does_bind_iff, not_does_stop, and_false, exists_false, or_false,
      does_handleSSLConnectDirect_iff hlocal, exists_and_right]
  | false => simp [hend, does_handleSSLBump_iff hlocal]

end Tunnels

theorem not_isRelay_of_isRoutine (h : event.isRoutine = true) : event.isRelay = false :=
  (Event.unjoined_of_isRoutine event h).1

theorem not_isIntercept_of_isRoutine (h : event.isRoutine = true) : event.isIntercept = false :=
  (Event.unjoined_of_isRoutine event h).2

section Connect

variable {ctx : Context} {handler : ProxyHandler} {r : Request} {passage : Passage}
  {decision : PolicyDecision}

theorem does_serveHTTP_iff (hlocal : ∀ event : Event, event.Unjoined → kind event = false)
    (happroach : (approach ctx handler r).flow = .next passage)
    (hconnect : passage.request.method = utf8 "CONNECT") :
    Does kind (serveHTTP ctx handler r) ↔
      Does kind (divert ctx passage.isHostLanAddress handler.layer (hostOf r.remoteAddr)
        passage.auth passage.policy passage.request) := by
  have hbefore : ¬ Does kind (approach ctx handler r) :=
    (approach_unjoined ctx handler r).not_does hlocal
  rw [serveHTTP_eq_approach, does_scope_iff, does_bind_iff, ← does_proceed_connect_iff hconnect]
  simp [hbefore, happroach]

section

variable (happroach : (approach ctx handler r).flow = .next passage)

include happroach

section

variable (hconnect : passage.request.method = utf8 "CONNECT")

include hconnect

section

variable (hpolicy : passage.policy = some decision)

include hpolicy

theorem relays_connect_iff (hinspect : decision.inspect = true) :
    Does Event.isRelay (serveHTTP ctx handler r) ↔
      ctx.world.dial passage.request.url.host = true ∧ ∃ stream, ctx.Hijacks stream ∧
        (passage.isHostLanAddress = true ∨
          Undecryptable ctx.world passage.request.url.host stream) := by
  rw [does_serveHTTP_iff (fun _ h => h.1) happroach hconnect, hpolicy,
    does_divert_inspect_iff not_isRelay_of_isRoutine ctx hconnect hinspect]
  cases passage.isHostLanAddress with
  | true =>
    simp only [if_true, relays_connectDirect_iff, true_or, and_true, exists_and_right]
    exact and_comm
  | false =>
    simp only [Bool.false_eq_true, false_or, relays_sslBump_iff]
    grind

theorem intercepts_connect_iff (hinspect : decision.inspect = true) :
    Does Event.isIntercept (serveHTTP ctx handler r) ↔
      passage.isHostLanAddress = false ∧ ∃ stream, ctx.Hijacks stream ∧
        Decryptable ctx.world passage.request.url.host stream := by
  rw [does_serveHTTP_iff (fun _ h => h.2) happroach hconnect, hpolicy,
    does_divert_inspect_iff not_isIntercept_of_isRoutine ctx hconnect hinspect]
  cases passage.isHostLanAddress with
  | true => simp [not_intercepts_connectDirect]
  | false => simp [intercepts_sslBump_iff]

end

end

end

end Connect

/-! ## Routed TLS connections -/

/-- The name that a routed connection is for: the one in its hello, else where it was going. -/
def Conn.serverName (conn : Conn) : Bytes :=
  match readClientHello conn.stream with
  | (clientHello, none, _) =>
    match (clientHelloServerName clientHello).flow with
    | .next sni => if sni.isEmpty then hostOf conn.originalDst.text else sni
    | _ => hostOf conn.originalDst.text
  | (_, some _, _) => hostOf conn.originalDst.text

def Conn.GovernedBy (proxy : GSProxy) (conn : Conn) (decision : PolicyDecision) : Prop :=
  proxy.ruleMatchHandler conn.serverName [] (clientIPOf conn.remoteAddr) = some decision

def Conn.serverAddr (conn : Conn) : Bytes :=
  Net.joinHostPort (hostOf conn.originalDst.text) (destinationPort conn.originalDst.text)

section Routed

variable {proxy : GSProxy} {world : World} {conn : Conn} {decision : PolicyDecision}

section

variable (hlocal : ∀ event : Event, event.isRoutine = true → kind event = false)

include hlocal

theorem does_handleClientHello_iff {clientHello : Bytes} {rest : Stream}
    (hread : readClientHello conn.stream = (clientHello, none, rest))
    (hdecision : conn.GovernedBy proxy decision) (hinspect : decision.inspect = true) :
    Does kind (handleClientHello proxy world conn clientHello) ↔
      decision.block = false ∧ Does kind (bumpHello world conn.serverAddr [] [] clientHello) := by
  unfold Conn.GovernedBy Conn.serverName at hdecision
  rw [hread] at hdecision
  unfold handleClientHello
  rw [does_bind_iff]
  cases hsni : (clientHelloServerName clientHello).flow with
  | returned | panicked => simp [bumpHello, does_bind_iff, serverName_does_nothing, hsni]
  | next sni =>
    simp only [hsni] at hdecision
    simp only [serverName_does_nothing, false_or, Flow.next.injEq,
      exists_eq_left', hdecision, Option.map_some, Option.getD_some, hinspect, Bool.or_true,
      if_true]
    cases decision.block with
    | true =>
      have hlog : ∀ entry : GSLogData, entry.action = .blockedUrl →
          kind (.log entry) = false := by
        intro entry hentry
        apply hlocal
        simp [Event.isRoutine, hentry]
      simp [bind_assoc, hlog, hlocal .closeConn rfl]
    | false =>
      simp only [whenever_false, Handler.pure_bind, true_and,
        does_sslBump_hello_iff _ _ _ _ (hlocal .closeConn rfl)]
      rfl

theorem does_unreadable_iff {read : Bytes} {error : ReadHelloError} {rest : Stream}
    (hread : readClientHello conn.stream = (read, some error, rest)) :
    Does kind (handleTransparentHTTPS proxy world conn) ↔
      read ≠ [] ∧ Does kind (connectDirect world conn.serverAddr) := by
  unfold handleTransparentHTTPS
  rw [hread]
  cases read with
  | nil => simp [hlocal .closeConn rfl]
  | cons b read =>
    have hlog : kind (.log ⟨utf8 "https://" ++ conn.serverAddr, [], .sslDirect,
        clientIPOf conn.remoteAddr, .transparentProxy, []⟩) = false := hlocal _ rfl
    unfold Conn.serverAddr at hlog
    simp [hlog, Conn.serverAddr]

theorem does_routed_iff (hgoverned : conn.GovernedBy proxy decision)
    (hinspect : decision.inspect = true) :
    Does kind (handleTransparentHTTPS proxy world conn) ↔
      ((∃ read error rest, readClientHello conn.stream = (read, some error, rest) ∧ read ≠ []) ∧
          Does kind (connectDirect world conn.serverAddr)) ∨
        decision.block = false ∧ ∃ clientHello rest,
          readClientHello conn.stream = (clientHello, none, rest) ∧
            Does kind (bumpHello world conn.serverAddr [] [] clientHello) := by
  match hread : readClientHello conn.stream with
  | (read, some error, rest) =>
    rw [does_unreadable_iff hlocal hread]
    simp
  | (clientHello, none, rest) =>
    unfold handleTransparentHTTPS
    rw [does_scope_iff, hread]
    dsimp only
    rw [does_handleClientHello_iff hlocal hread hgoverned hinspect]
    simp

end

def Conn.Undecrypted (world : World) (conn : Conn) (decision : PolicyDecision) : Prop :=
  (∃ read error rest, readClientHello conn.stream = (read, some error, rest) ∧ read ≠ []) ∨
    decision.block = false ∧
      ∃ clientHello rest, readClientHello conn.stream = (clientHello, none, rest) ∧
        NamesServer world conn.serverAddr clientHello false

theorem relays_routed_iff (hgoverned : conn.GovernedBy proxy decision)
    (hinspect : decision.inspect = true) :
    Does Event.isRelay (handleTransparentHTTPS proxy world conn) ↔
      world.dial conn.serverAddr = true ∧ conn.Undecrypted world decision := by
  rw [does_routed_iff not_isRelay_of_isRoutine hgoverned hinspect]
  simp only [relays_connectDirect_iff, relays_bumpHello_iff, Conn.Undecrypted]
  grind

theorem intercepts_routed_iff (hgoverned : conn.GovernedBy proxy decision)
    (hinspect : decision.inspect = true) :
    Does Event.isIntercept (handleTransparentHTTPS proxy world conn) ↔
      decision.block = false ∧ Decryptable world conn.serverAddr conn.stream := by
  rw [does_routed_iff not_isIntercept_of_isRoutine hgoverned hinspect]
  simp only [not_intercepts_connectDirect, intercepts_bumpHello_iff, Decryptable]
  grind

end Routed

/-! ## Both ways in -/

/-- Under a policy that asks for inspection a client's TLS connection is joined to the server as
it is exactly where it cannot be decrypted, or where a `CONNECT` request is for an address of
the local network; it is decrypted exactly where it can be, and else refused. -/
theorem inspected_or_undecryptable :
    (∀ ctx handler r passage decision, (approach ctx handler r).flow = .next passage →
      passage.request.method = utf8 "CONNECT" → passage.policy = some decision →
      decision.inspect = true →
      (Does Event.isRelay (serveHTTP ctx handler r) ↔
        ctx.world.dial passage.request.url.host = true ∧ ∃ stream, ctx.Hijacks stream ∧
          (passage.isHostLanAddress = true ∨
            Undecryptable ctx.world passage.request.url.host stream)) ∧
      (Does Event.isIntercept (serveHTTP ctx handler r) ↔
        passage.isHostLanAddress = false ∧ ∃ stream, ctx.Hijacks stream ∧
          Decryptable ctx.world passage.request.url.host stream)) ∧
    ∀ proxy world (conn : Conn) decision, conn.GovernedBy proxy decision →
      decision.inspect = true →
      (Does Event.isRelay (handleTransparentHTTPS proxy world conn) ↔
        world.dial conn.serverAddr = true ∧ conn.Undecrypted world decision) ∧
      (Does Event.isIntercept (handleTransparentHTTPS proxy world conn) ↔
        decision.block = false ∧ Decryptable world conn.serverAddr conn.stream) := by
  constructor
  · intro ctx handler r passage decision happroach hconnect hpolicy hinspect
    exact ⟨relays_connect_iff happroach hconnect hpolicy hinspect,
      intercepts_connect_iff happroach hconnect hpolicy hinspect⟩
  · intro proxy world conn decision hgoverned hinspect
    exact ⟨relays_routed_iff hgoverned hinspect, intercepts_routed_iff hgoverned hinspect⟩

def gamesDecision : PolicyDecision :=
  { inspect := true, blockURLRegexes := [utf8 "/games"] }

def gamesProxy : GSProxy :=
  { openProxy with ruleMatchHandler := fun _ _ _ => some gamesDecision }

def gamesConnect : Request where
  method := utf8 "CONNECT"
  url := { host := utf8 "example.org:443" }
  host := utf8 "example.org:443"
  remoteAddr := utf8 "192.168.1.20:50000"
  header := []

def gamesHello : Stream := ⟨[[22, 3, 1, 0, 4, 1, 0, 0, 0]], .eof⟩

def gamesContext (world : World) : Context := ⟨gamesProxy, world, .hijackable none gamesHello⟩

def certifiedWorld : World :=
  { openWorld gamesConnect with
    certCache := { cache := fun _ => some (httpTransport, 0) }
    clientHandshake := true }

def gamesPassage : Passage where
  isHostLanAddress := false
  auth := ⟨utf8 "192.168.1.20", [], utf8 "192.168.1.20"⟩
  policy := some gamesDecision
  request := { gamesConnect with url := { gamesConnect.url with scheme := utf8 "http" } }

def gamesRouted : Conn where
  remoteAddr := utf8 "192.168.1.20:50000"
  originalDst := ⟨utf8 "192.0.2.1", utf8 "443"⟩
  stream := gamesHello

theorem inspects_gamesConnect :
    Does Event.isIntercept (serveHTTP (gamesContext certifiedWorld) {} gamesConnect) ∧
      ¬ Does Event.isRelay (serveHTTP (gamesContext certifiedWorld) {} gamesConnect) ∧
      Does Event.isIntercept (handleTransparentHTTPS gamesProxy certifiedWorld gamesRouted) := by
  have hread : (readClientHello gamesHello).2.1 = none := by decide +kernel
  have hhello : readClientHello gamesHello = (_, none, _) := Prod.ext rfl (Prod.ext hread rfl)
  have hsni : (clientHelloServerName (readClientHello gamesHello).1).flow = .next [] := by
    decide +kernel
  obtain ⟨hrelay, hintercept⟩ := inspected_or_undecryptable.1 (gamesContext certifiedWorld) {}
    gamesConnect gamesPassage gamesDecision (by decide +kernel) (by decide) rfl rfl
  refine ⟨?_, ?_, ?_⟩
  · exact hintercept.mpr ⟨rfl, gamesHello, rfl, rfl, _, _, hhello, [], hsni, rfl⟩
  · intro hdoes
    obtain ⟨-, stream, hstream, hlan | ⟨read, error, rest, herror, -⟩ |
      ⟨clientHello, rest, -, sni, -, hcertified⟩⟩ := hrelay.mp hdoes
    · cases hlan
    · cases hstream
      cases hread.symm.trans (congrArg (·.2.1) herror)
    · cases hcertified
  · exact (inspected_or_undecryptable.2 gamesProxy certifiedWorld gamesRouted gamesDecision
      rfl rfl).2.mpr ⟨rfl, rfl, _, _, hhello, [], hsni, rfl⟩

/-- The server cannot be reached over TLS: the client is joined to it as it is. -/
theorem relays_gamesConnect : gamesDecision.inspect = true ∧
      Does Event.isRelay (serveHTTP (gamesContext (openWorld gamesConnect)) {} gamesConnect) := by
  refine ⟨rfl, .relay (utf8 "example.org:443"), ?_, rfl⟩
  decide +kernel

/-! ## Leaf certificates and the certificate authority -/

theorem CertificateCache.get_of_later {server α : Type} {c : CertificateCache server α}
    {now : Int} {time : Nat} {name : server} {value : α}
    (h : c.get (now + time) name = some value) : c.get now name = some value := by
  unfold get at h ⊢
  grind

theorem CertificateCache.get_put {server α : Type} [DecidableEq server]
    {c : CertificateCache server α} {now : Int} {name other : server} {value found : α}
    (h : (c.put now name value).get now other = some found) :
    found = value ∨ c.get now other = some found := by
  unfold get put at h
  unfold get
  simp only [Function.update_apply] at h
  grind

/-- Interceptions find their leaf in the cache or sign it, while the CA is replaced: the CA, the
clock, the signers of the entries, and that of the leaf that each interception is going to
present. -/
structure Bumping (ca server : Type) where
  tlsCert : ca
  now : Int := 0
  certCache : CertificateCache server ca
  leaf : Nat → Option ca := fun _ => none

inductive BumpStep (ca server : Type) where
  | elapse (time : Nat)
  | reloadCertificate (cert : ca)
  | get (i : Nat) (name : server)
  | signCertificate (i : Nat)
  | put (i : Nat) (name : server)
  | handshake (i : Nat)

namespace Bumping

variable {ca server : Type} [DecidableEq server]

def step (s : Bumping ca server) : BumpStep ca server → Bumping ca server
  | .elapse time => { s with now := s.now + time }
  | .reloadCertificate cert => { s with tlsCert := cert }
  | .get i name => { s with leaf := Function.update s.leaf i (s.certCache.get s.now name) }
  | .signCertificate i => { s with leaf := Function.update s.leaf i (some s.tlsCert) }
  | .put i name =>
    { s with certCache := (s.leaf i).elim s.certCache (s.certCache.put s.now name) }
  | .handshake i => { s with leaf := Function.update s.leaf i none }

variable (ttl : Int)

/-- The steps come latest first. -/
def reached (start : ca) : List (BumpStep ca server) → Bumping ca server
  | [] => { tlsCert := start, certCache := { ttl } }
  | last :: earlier => (reached start earlier).step last

def InUse (s : Bumping ca server) (signer : ca) : Prop :=
  (∃ i, s.leaf i = some signer) ∨ ∃ name, s.certCache.get s.now name = some signer

/-- No leaf of an earlier CA is in use when the CA is replaced. -/
def LoadsUnused (start : ca) : List (BumpStep ca server) → Prop
  | [] => True
  | .reloadCertificate cert :: earlier =>
    (∀ signer, (reached ttl start earlier).InUse signer → signer = cert) ∧
      LoadsUnused start earlier
  | _ :: earlier => LoadsUnused start earlier

variable {ttl} {s : Bumping ca server} {signer : ca}

theorem InUse.of_step {last : BumpStep ca server}
    (hlast : ∀ cert, last ≠ .reloadCertificate cert) (h : (s.step last).InUse signer) :
    s.InUse signer ∨ signer = s.tlsCert := by
  unfold InUse step at h
  cases last with
  | reloadCertificate cert => exact absurd rfl (hlast cert)
  | elapse time =>
    refine .inl (h.imp_right ?_)
    rintro ⟨name, hentry⟩
    exact ⟨name, CertificateCache.get_of_later hentry⟩
  | get | signCertificate | handshake =>
    simp only [InUse, Function.update_apply] at h ⊢
    grind
  | put i name =>
    refine .inl (h.elim .inl ?_)
    rintro ⟨other, hentry⟩
    dsimp only at hentry
    cases hleaf : s.leaf i with
    | none =>
      rw [hleaf] at hentry
      exact .inr ⟨other, hentry⟩
    | some leaf =>
      rw [hleaf] at hentry
      obtain rfl | hold := CertificateCache.get_put hentry
      · exact .inl ⟨i, hleaf⟩
      · exact .inr ⟨other, hold⟩

/-- Every interception presents a leaf of the CA of that time. -/
theorem leaf_current {start : ca} {steps : List (BumpStep ca server)}
    (h : LoadsUnused ttl start steps) {i : Nat}
    (hleaf : (reached ttl start steps).leaf i = some signer) :
    signer = (reached ttl start steps).tlsCert := by
  suffices hrun : ∀ signer, (reached ttl start steps).InUse signer →
      signer = (reached ttl start steps).tlsCert from hrun signer (.inl ⟨i, hleaf⟩)
  clear hleaf
  induction steps with
  | nil => simp [InUse, reached, CertificateCache.get]
  | cons last earlier ih =>
    intro signer hsigner
    cases last with
    | reloadCertificate cert => exact h.1 signer hsigner
    | elapse | get | signCertificate | put | handshake =>
      exact (hsigner.of_step (by simp)).elim (ih h signer) id

def replacedCA : List (BumpStep Nat Unit) :=
  [.signCertificate 0, .reloadCertificate 2, .handshake 0, .signCertificate 0]

theorem replacedCA_current : 2 = (reached 0 1 replacedCA).tlsCert :=
  leaf_current (i := 0)
    (by simp [replacedCA, LoadsUnused, reached, InUse, step, CertificateCache.get]) rfl

/-- A leaf that was signed before the CA is replaced is presented afterwards. -/
theorem leaf_outdated :
    let s := reached 0 1 ([.get 1 (), .reloadCertificate 2, .put 0 (), .signCertificate 0] :
      List (BumpStep Nat Unit))
    s.leaf 0 = some 1 ∧ s.leaf 1 = some 1 ∧ s.tlsCert = 2 := by
  decide

end Bumping

end GateSentry.Proxy
