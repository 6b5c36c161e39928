import GateSentry.Proxy.Stages

/-!
# Blocked clients and the transparent listener

A policy that blocks all traffic of a client stops its plain requests in
`ServeHTTP` and its TLS connections after the client hello.  The listener asks it
only once the hello is read, so a connection whose hello cannot be read is joined
to its destination unasked.
-/

namespace GateSentry.Proxy

open Foundation ByteText Handler GsClientHello

def GSProxy.BlocksAll (proxy : GSProxy) (client : Bytes) : Prop :=
  ∀ domain user, ∃ decision, proxy.ruleMatchHandler domain user client = some decision ∧
    decision.block = true

def Conn.IsBlocked (conn : Conn) (proxy : GSProxy) : Prop :=
  proxy.BlocksAll (hostOf conn.remoteAddr) ∧ proxy.BlocksAll (clientIPOf conn.remoteAddr)

def Conn.StartsTLS (conn : Conn) : Prop :=
  3 ≤ conn.stream.bytes.length ∧ isTLS (conn.stream.bytes.take 3) = true

def Conn.SendsHello (conn : Conn) : Prop :=
  ∃ record, IsHelloRecord record ∧ record <+: conn.stream.bytes

def IsLocal (event : Event) : Prop := event.isUpstream = false

/-! ## Plain requests -/

section Blocked

variable {ctx : Context} {handler : ProxyHandler} {client : Bytes}

theorem checkPolicy_blocked (hblock : ctx.proxy.BlocksAll client) (layer : Layer) (user : Bytes)
    (r : Request) : Ensures (checkPolicy ctx layer client user r) IsLocal True fun _ => False := by
  refine (checkPolicy_ensures Event.upstream_of_routine (fun _ => trivial) layer client user).mono ?_
  rintro policy ⟨hpolicy, hpasses⟩
  obtain ⟨decision, hdecision, hblocks⟩ := hblock (policyHost r) user
  rw [hpasses decision (hpolicy.trans hdecision)] at hblocks
  exact Bool.noConfusion hblocks

theorem process_blocked (hblock : ctx.proxy.BlocksAll client) (isHostLanAddress : Bool)
    (auth : AuthResult) (r : Request) :
    Ensures (process ctx handler client isHostLanAddress auth r) IsLocal True := by
  apply (checkTime_ensures Event.upstream_of_routine (fun _ => trivial) _ fun _ _ => rfl).seq
  exact (checkPolicy_blocked hblock _ _ _).bind_never _

theorem serveHTTP_blocked {r : Request} (hblock : ctx.proxy.BlocksAll (hostOf r.remoteAddr)) :
    Ensures (serveHTTP ctx handler r) IsLocal True := by
  apply ensures_scope
  refine (rewriteTransparent_ensures Event.upstream_of_routine ctx.proxy r).bind fun routed _ => ?_
  refine (completeURL_ensures Event.upstream_of_routine handler routed).bind fun completed _ => ?_
  refine (authenticate_ensures Event.upstream_of_routine (fun _ => trivial)
    (fun _ _ _ => trivial) _).bind fun auth _ => ?_
  exact process_blocked hblock _ auth completed

end Blocked

variable {conn : Conn} {proxy : GSProxy} (world : World)

theorem handleTransparentHTTP_blocked (hblock : conn.IsBlocked proxy) :
    Ensures (handleTransparentHTTP proxy world conn) IsLocal True := by
  unfold handleTransparentHTTP
  split
  · exact ensures_pure trivial
  · exact serveHTTP_blocked hblock.1

/-! ## TLS connections -/

theorem handleClientHello_blocked (hblock : conn.IsBlocked proxy) (hello : Bytes) :
    Ensures (handleClientHello proxy world conn hello) IsLocal True := by
  unfold handleClientHello
  dsimp only
  refine (clientHelloServerName_ensures hello).bind fun serverName _ => ?_
  obtain ⟨decision, hdecision, hblocks⟩ := hblock.2
    (if serverName.isEmpty then hostOf conn.originalDst.text else serverName) []
  rw [hdecision]
  dsimp only
  rw [hblocks]
  refine Ensures.bind_never ?_ _
  apply (ensures_local Event.upstream_of_routine rfl).seq
  apply (ensures_local Event.upstream_of_routine rfl).seq
  exact ensures_stop

theorem handleTransparentHTTPS_blocked (hblock : conn.IsBlocked proxy) (hhello : conn.SendsHello) :
    Ensures (handleTransparentHTTPS proxy world conn) IsLocal True := by
  obtain ⟨record, hrecord, hpre⟩ := hhello
  obtain ⟨rest, hread⟩ := readClientHello_of_record hrecord hpre
  apply ensures_scope
  rw [hread]
  exact handleClientHello_blocked world hblock record

theorem readClientHello_nonempty {stream : Stream} (h : stream.bytes ≠ []) :
    (readClientHello stream).1 ≠ [] := by
  have hheader : (stream.readFull 5).1 ≠ [] := by
    rw [Stream.readFull_bytes]
    cases hbytes : stream.bytes with
    | nil => exact absurd hbytes h
    | cons byte rest => simp
  unfold readClientHello
  split
  · rename_i header error rest hread
    rwa [hread] at hheader
  · rename_i header rest hread
    rw [hread] at hheader
    split
    · exact hheader
    · split
      · simpa using fun hempty => absurd hempty hheader
      · split
        · simpa using fun hempty => absurd hempty hheader
        · simpa using fun hempty => absurd hempty hheader

theorem handleTransparentHTTPS_noHello (proxy : GSProxy) {world : World} (conn : Conn)
    (hbytes : conn.stream.bytes ≠ []) (hhello : ¬ conn.SendsHello)
    (hdial : ∀ address, world.dial address = true) :
    ∃ address, .upstream .plain address ∈ (handleTransparentHTTPS proxy world conn).trace := by
  have hnonempty := readClientHello_nonempty hbytes
  unfold handleTransparentHTTPS
  match hread : readClientHello conn.stream with
  | (hello, none, rest) =>
    obtain ⟨hrecord, hpre⟩ := readClientHello_record hread
    exact absurd ⟨hello, hrecord, hpre⟩ hhello
  | (hello, some error, rest) =>
    rw [hread] at hnonempty
    have hempty : hello.isEmpty = false := by simpa using hnonempty
    refine ⟨Net.joinHostPort (hostOf conn.originalDst.text)
      (destinationPort conn.originalDst.text), ?_⟩
    simp [hempty, connectDirect, hdial, mem_trace_bind_iff]

/-! ## Connections -/

theorem handleConnection_of_length (h : 3 ≤ conn.stream.bytes.length) :
    ∃ stream : Stream, stream.bytes = conn.stream.bytes ∧ ∀ proxy world,
      handleConnection proxy world conn =
        (if isTLS (conn.stream.bytes.take 3) then
          handleTransparentHTTPS proxy world { conn with stream } >>= fun _ => emit .closeConn
        else
          handleTransparentHTTP proxy world { conn with stream } >>= fun _ =>
            emit .closeConn) := by
  have hnone := (Stream.readFull_complete_iff conn.stream 3).mpr h
  have hbuf := Stream.readFull_bytes conn.stream 3
  refine ⟨_, Stream.prepend_readFull_bytes conn.stream 3, fun proxy world => ?_⟩
  rw [← hbuf]
  unfold handleConnection
  split
  · rename_i hread
    rw [hread] at hnone
    exact nomatch hnone
  · rename_i hread
    rw [hread]

theorem handleConnection_short (h : conn.stream.bytes.length < 3)
    (proxy : GSProxy) (world : World) :
    handleConnection proxy world conn = emit .closeConn := by
  have hsome := (Stream.readFull_complete_iff conn.stream 3).not.mpr (by omega)
  unfold handleConnection
  split
  · rfl
  · rename_i hread
    rw [hread] at hsome
    exact absurd rfl hsome

theorem handleConnection_noHello (htls : conn.StartsTLS) (hhello : ¬ conn.SendsHello)
    (proxy : GSProxy) (world : World) (hdial : ∀ address, world.dial address = true) :
    ∃ address, .upstream .plain address ∈ (handleConnection proxy world conn).trace := by
  obtain ⟨hlength, hstart⟩ := htls
  obtain ⟨stream, hbytes, hserve⟩ := handleConnection_of_length hlength
  have hnonempty : stream.bytes ≠ [] := by
    rw [hbytes]
    intro hempty
    simp [hempty] at hlength
  have hunread : ¬ Conn.SendsHello { conn with stream } := by
    rintro ⟨record, hrecord, hpre⟩
    exact hhello ⟨record, hrecord, hbytes ▸ hpre⟩
  obtain ⟨address, hevent⟩ := handleTransparentHTTPS_noHello proxy
    { conn with stream } hnonempty hunread hdial
  refine ⟨address, ?_⟩
  rw [hserve, if_pos hstart, mem_trace_bind_iff]
  exact .inl hevent

theorem handleConnection_blocked (hblock : conn.IsBlocked proxy)
    (hhello : conn.StartsTLS → conn.SendsHello) :
    Ensures (handleConnection proxy world conn) IsLocal True := by
  by_cases hlength : 3 ≤ conn.stream.bytes.length
  · obtain ⟨stream, hbytes, hserve⟩ := handleConnection_of_length hlength
    have hblock' : Conn.IsBlocked { conn with stream } proxy := hblock
    rw [hserve]
    apply ensures_ite
    · intro hstart
      obtain ⟨record, hrecord, hpre⟩ := hhello ⟨hlength, hstart⟩
      apply (handleTransparentHTTPS_blocked world hblock'
        ⟨record, hrecord, hbytes.symm ▸ hpre⟩).seq
      exact ensures_local Event.upstream_of_routine rfl
    · intro _
      apply (handleTransparentHTTP_blocked world hblock').seq
      exact ensures_local Event.upstream_of_routine rfl
  · rw [handleConnection_short (by omega)]
    exact ensures_local Event.upstream_of_routine rfl

/-- A client whose traffic is all blocked reaches no server over the transparent
listener exactly if it does not start like TLS without sending a client hello. -/
theorem handleConnection_blocked_iff (conn : Conn) :
    (∀ proxy world, conn.IsBlocked proxy → ∀ link address,
      .upstream link address ∉ (handleConnection proxy world conn).trace) ↔
      (conn.StartsTLS → conn.SendsHello) := by
  constructor
  · intro h htls
    by_contra hhello
    obtain ⟨address, hevent⟩ := handleConnection_noHello htls hhello (blockingProxy [] false)
      (openWorld default) fun _ => rfl
    refine h _ _ ⟨?_, ?_⟩ _ _ hevent
    · exact fun _ _ => ⟨_, rfl, rfl⟩
    · exact fun _ _ => ⟨_, rfl, rfl⟩
  · intro hhello proxy world hblock link address hevent
    exact Bool.noConfusion ((handleConnection_blocked world hblock hhello).events _ hevent)

def splitHello : Conn where
  remoteAddr := utf8 "10.0.0.7:50000"
  originalDst := ⟨utf8 "192.0.2.1", utf8 "443"⟩
  stream := ⟨[[0x16, 0x03, 0x01, 0x00, 0x02, 0x01, 0x00]], .timeout⟩

/-- It is joined to its destination although the policy blocks the client. -/
theorem handleConnection_tunnels_splitHello : splitHello.IsBlocked (blockingProxy [] false) ∧
      .upstream .plain (utf8 "192.0.2.1:443") ∈
        (handleConnection (blockingProxy [] false) (openWorld default) splitHello).trace := by
  refine ⟨⟨fun _ _ => ⟨_, rfl, rfl⟩, fun _ _ => ⟨_, rfl, rfl⟩⟩, ?_⟩
  decide +kernel

end GateSentry.Proxy
