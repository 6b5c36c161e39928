import GateSentry.Foundation.Threads
import Mathlib.Data.Fin.VecNotation

/-!
# Starting and stopping the DNS server

`StartDNSServerWithReady` and `StopDNSServer` of `server.go`.  A start makes a UDP and a TCP
server, publishes their handles under the lifecycle lock, and lets them listen outside it:
the UDP server in the start itself, the TCP server in a goroutine.  A start also makes the
browser of the local network, which only a stop ends.
-/

namespace GateSentry.Dns

open Foundation

/-- A `dns.Server`, from its making to the return of its `ListenAndServe`. -/
inductive Listener where
  | absent
  | created
  | serving
  | ended
  deriving DecidableEq

def Listener.live : Listener → Bool
  | .created => true
  | .serving => true
  | _ => false

/-- `Shutdown` of a server that has not started to listen is an error without an effect. -/
def Listener.shutdown : Listener → Listener
  | .serving => .ended
  | listener => listener

/-- `ListenAndServe`, up to where it serves, when the address can be bound. -/
def Listener.listen (bound : Bool) : Listener → Listener
  | .created => if bound then .serving else .ended
  | listener => listener

inductive LifecycleEvent where
  | startAdmitted
  | stopReturned
  deriving DecidableEq

inductive DnsThread (ι : Type) where
  | caller (i : ι)
  | tcp (i : ι)
  deriving DecidableEq

variable {ι : Type}

/-- The package state of the DNS server, with the servers that each start has made and the
record of the lifecycle, the newest first. -/
structure Lifecycle (ι : Type) where
  serverLifecycleMu : Option ι := none
  serverRunning : Bool := false
  server : Option ι := none
  tcpServer : Option ι := none
  mdnsBrowser : Bool := false
  /-- How many browsers run, whether or not there is still a handle to them. -/
  browsers : Nat := 0
  udpListener : ι → Listener := fun _ => .absent
  tcpListener : ι → Listener := fun _ => .absent
  ready : ι → Bool := fun _ => false
  trace : List LifecycleEvent := []

structure LifecycleAnswer where
  mdnsEnabled : Bool := false
  bound : Bool := true
  breaks : Bool := false

inductive StartAt where
  | locking
  | checking
  | refusing
  | creatingTCP
  | creatingUDP
  | unlocking
  | signalling
  | listening
  | serving
  | relocking
  | finishing
  | shuttingTCP
  | leaving
  | returned
  deriving DecidableEq

inductive StopServerAt where
  | locking
  | checking
  | stoppingMDNS
  | shuttingTCP
  | shuttingUDP
  | storing
  | leaving
  | returned
  deriving DecidableEq

inductive TcpAt where
  | listening
  | serving
  | returned
  deriving DecidableEq

inductive LifecycleAt where
  | start (place : StartAt)
  | stop (place : StopServerAt)
  | tcp (place : TcpAt)
  deriving DecidableEq

section Programs

variable [DecidableEq ι]

namespace Lifecycle

def shutdownTCP (l : Lifecycle ι) (i : ι) : Lifecycle ι :=
  { l with
    tcpListener := Function.update l.tcpListener i (l.tcpListener i).shutdown
    tcpServer := none }

def shutdownUDP (l : Lifecycle ι) (i : ι) : Lifecycle ι :=
  { l with
    udpListener := Function.update l.udpListener i (l.udpListener i).shutdown
    server := none }

end Lifecycle

def startDNSServerWithReady (i : ι) (answer : LifecycleAnswer) (l : Lifecycle ι) :
    StartAt → StartAt × Lifecycle ι
  | .locking =>
    if l.serverLifecycleMu.isNone then (.checking, { l with serverLifecycleMu := some i })
    else (.locking, l)
  | .checking =>
    if l.server.isSome || l.serverRunning then (.refusing, l)
    else
      (.creatingTCP, { l with
        serverRunning := true
        mdnsBrowser := l.mdnsBrowser || answer.mdnsEnabled
        browsers := l.browsers + answer.mdnsEnabled.toNat
        trace := .startAdmitted :: l.trace })
  | .refusing =>
    (.returned, { l with
      serverLifecycleMu := none
      ready := Function.update l.ready i true })
  | .creatingTCP =>
    (.creatingUDP, { l with
      tcpListener := Function.update l.tcpListener i .created
      tcpServer := some i })
  | .creatingUDP =>
    (.unlocking, { l with
      udpListener := Function.update l.udpListener i .created
      server := some i })
  | .unlocking => (.signalling, { l with serverLifecycleMu := none })
  | .signalling => (.listening, { l with ready := Function.update l.ready i true })
  | .listening =>
    (.serving, { l with
      udpListener := Function.update l.udpListener i ((l.udpListener i).listen answer.bound) })
  | .serving =>
    if l.udpListener i = .ended then (.relocking, l)
    else if answer.breaks then
      (.relocking, { l with udpListener := Function.update l.udpListener i .ended })
    else (.serving, l)
  | .relocking =>
    if l.serverLifecycleMu.isNone then (.finishing, { l with serverLifecycleMu := some i })
    else (.relocking, l)
  | .finishing =>
    if l.server = some i then
      (.shuttingTCP, { l with server := none, serverRunning := false })
    else (.leaving, l)
  | .shuttingTCP =>
    if l.tcpServer = some i then (.leaving, l.shutdownTCP i) else (.leaving, l)
  | .leaving => (.returned, { l with serverLifecycleMu := none })
  | .returned => (.returned, l)

def stopDNSServer (i : ι) (l : Lifecycle ι) : StopServerAt → StopServerAt × Lifecycle ι
  | .locking =>
    if l.serverLifecycleMu.isNone then (.checking, { l with serverLifecycleMu := some i })
    else (.locking, l)
  | .checking =>
    if l.server.isNone || !l.serverRunning then (.leaving, l) else (.stoppingMDNS, l)
  | .stoppingMDNS =>
    (.shuttingTCP, { l with
      mdnsBrowser := false
      browsers := l.browsers - l.mdnsBrowser.toNat })
  | .shuttingTCP =>
    match l.tcpServer with
    | some j => (.shuttingUDP, l.shutdownTCP j)
    | none => (.shuttingUDP, l)
  | .shuttingUDP =>
    match l.server with
    | some j => (.storing, l.shutdownUDP j)
    | none => (.storing, l)
  | .storing => (.leaving, { l with serverRunning := false })
  | .leaving =>
    (.returned, { l with serverLifecycleMu := none, trace := .stopReturned :: l.trace })
  | .returned => (.returned, l)

def serveTCP (i : ι) (answer : LifecycleAnswer) (l : Lifecycle ι) : TcpAt → TcpAt × Lifecycle ι
  | .listening =>
    if l.tcpListener i = .created then
      (.serving, { l with
        tcpListener := Function.update l.tcpListener i ((l.tcpListener i).listen answer.bound) })
    else (.listening, l)
  | .serving =>
    if l.tcpListener i = .ended then (.returned, l)
    else if answer.breaks then
      (.returned, { l with tcpListener := Function.update l.tcpListener i .ended })
    else (.serving, l)
  | .returned => (.returned, l)

def DnsThread.owner : DnsThread ι → ι
  | .caller i => i
  | .tcp i => i

def lifecycleMove (thread : DnsThread ι) (answer : LifecycleAnswer) :
    LifecycleAt → Lifecycle ι → LifecycleAt × Lifecycle ι
  | .start place, l =>
    let next := startDNSServerWithReady thread.owner answer l place
    (.start next.1, next.2)
  | .stop place, l =>
    let next := stopDNSServer thread.owner l place
    (.stop next.1, next.2)
  | .tcp place, l =>
    let next := serveTCP thread.owner answer l place
    (.tcp next.1, next.2)

end Programs

inductive LifecycleCall where
  | startDNSServerWithReady
  | stopDNSServer

def LifecycleCall.start : LifecycleCall → LifecycleAt
  | .startDNSServerWithReady => .start .locking
  | .stopDNSServer => .stop .locking

def idleServer (calls : ι → LifecycleCall) : Threads (DnsThread ι) LifecycleAt (Lifecycle ι) where
  state := {}
  place := fun
    | .caller i => (calls i).start
    | .tcp _ => .tcp .listening

/-! ## What holds at each place -/

def ReachesListener (thread : DnsThread ι) : LifecycleAt → Lifecycle ι → Prop
  | .start .shuttingTCP, l => l.tcpServer = some thread.owner →
      l.tcpListener thread.owner ≠ .created
  | .stop .shuttingTCP, l => ∀ j ∈ l.tcpServer, l.tcpListener j ≠ .created
  | .stop .shuttingUDP, l => ∀ j ∈ l.server, l.udpListener j ≠ .created
  | _, _ => True

instance [DecidableEq ι] (thread : DnsThread ι) (place : LifecycleAt) (l : Lifecycle ι) :
    Decidable (ReachesListener thread place l) := by
  unfold ReachesListener
  split <;> infer_instance

/-- No listener ends by itself while its browser runs. -/
def EndsUnbrowsed (thread : DnsThread ι) : LifecycleAt → Lifecycle ι → Prop
  | .start .finishing, l => l.server = some thread.owner → l.mdnsBrowser = false
  | _, _ => True

instance [DecidableEq ι] (thread : DnsThread ι) (place : LifecycleAt) (l : Lifecycle ι) :
    Decidable (EndsUnbrowsed thread place l) := by
  unfold EndsUnbrowsed
  split <;> infer_instance

/-- Where every shutdown is to reach its server, and where no browser is to be left behind. -/
structure Concerns where
  shutdowns : Prop
  browsers : Prop

structure Concerns.Met (concerns : Concerns) (thread : DnsThread ι) (place : LifecycleAt)
    (l : Lifecycle ι) : Prop where
  reaches : concerns.shutdowns → ReachesListener thread place l
  unbrowsed : concerns.browsers → EndsUnbrowsed thread place l

namespace Lifecycle

structure Settled (l : Lifecycle ι) : Prop where
  tcp : ∀ i, l.tcpServer = some i → l.server = some i
  running : l.server.isSome = l.serverRunning

structure Published (concerns : Concerns) (l : Lifecycle ι) : Prop where
  udp : concerns.shutdowns → ∀ i, (l.udpListener i).live = true → l.server = some i
  tcp : concerns.shutdowns → ∀ i, (l.tcpListener i).live = true → l.tcpServer = some i
  browsers : concerns.browsers → l.browsers = l.mdnsBrowser.toNat ∧
    (l.mdnsBrowser = true → l.serverRunning = true)
  free : l.serverLifecycleMu = none → l.Settled
  stopped : l.trace.head? = some .stopReturned →
    l.server = none ∧ l.tcpServer = none ∧ l.serverRunning = false

structure Grants (thread : DnsThread ι) (l l' : Lifecycle ι) : Prop where
  lock : ∀ j, .caller j ≠ thread → l.serverLifecycleMu = some j →
    l'.serverLifecycleMu = some j ∧ l'.server = l.server ∧ l'.tcpServer = l.tcpServer ∧
      l'.serverRunning = l.serverRunning ∧ l'.mdnsBrowser = l.mdnsBrowser ∧ l'.trace = l.trace
  ended : ∀ j, .caller j ≠ thread → l.udpListener j = .ended → l'.udpListener j = .ended

end Lifecycle

open Lifecycle

def StartAt.Holds (i : ι) (l : Lifecycle ι) : StartAt → Prop
  | .checking | .refusing | .unlocking | .leaving => l.serverLifecycleMu = some i ∧ l.Settled
  | .creatingTCP => l.serverLifecycleMu = some i ∧ l.server = none ∧ l.tcpServer = none ∧
      l.serverRunning = true ∧ l.trace.head? = some .startAdmitted
  | .creatingUDP => l.serverLifecycleMu = some i ∧ l.server = none ∧ l.tcpServer = some i ∧
      l.serverRunning = true ∧ l.trace.head? = some .startAdmitted
  | .relocking => l.udpListener i = .ended
  | .finishing => l.serverLifecycleMu = some i ∧ l.Settled ∧ l.udpListener i = .ended
  | .shuttingTCP => l.serverLifecycleMu = some i ∧ l.server = none ∧
      l.serverRunning = false ∧ ∀ j, l.tcpServer = some j → j = i
  | _ => True

def StopServerAt.Holds (i : ι) (l : Lifecycle ι) : StopServerAt → Prop
  | .checking => l.serverLifecycleMu = some i ∧ l.Settled
  | .stoppingMDNS => l.serverLifecycleMu = some i
  | .shuttingTCP => l.serverLifecycleMu = some i ∧ l.mdnsBrowser = false
  | .shuttingUDP => l.serverLifecycleMu = some i ∧ l.mdnsBrowser = false ∧ l.tcpServer = none
  | .storing => l.serverLifecycleMu = some i ∧ l.mdnsBrowser = false ∧ l.tcpServer = none ∧
      l.server = none
  | .leaving => l.serverLifecycleMu = some i ∧ l.tcpServer = none ∧ l.server = none ∧
      l.serverRunning = false
  | _ => True

def LifecycleAt.Holds : DnsThread ι → LifecycleAt → Lifecycle ι → Prop
  | .caller i, .start place, l => place.Holds i l
  | .caller i, .stop place, l => place.Holds i l
  | .tcp _, .tcp _, _ => True
  | _, _, _ => False

section Stable

variable {thread : DnsThread ι} {i : ι} {l l' : Lifecycle ι}

theorem Lifecycle.Settled.of_eq (h : l.Settled) (hserver : l'.server = l.server)
    (htcp : l'.tcpServer = l.tcpServer) (hrunning : l'.serverRunning = l.serverRunning) :
    l'.Settled := by
  constructor
  · rw [htcp, hserver]
    exact h.tcp
  · rw [hserver, hrunning]
    exact h.running

theorem StartAt.Holds.stable {place : StartAt} (h : place.Holds i l)
    (hne : .caller i ≠ thread) (hgrants : Grants thread l l') : place.Holds i l' := by
  have hlock := hgrants.lock i hne
  have hsettled (h : l.serverLifecycleMu = some i ∧ l.Settled) :
      l'.serverLifecycleMu = some i ∧ l'.Settled := by
    obtain ⟨hmu, hserver, htcp, hrunning, -⟩ := hlock h.1
    exact ⟨hmu, h.2.of_eq hserver htcp hrunning⟩
  cases place with
  | checking | refusing | unlocking | leaving => exact hsettled h
  | creatingTCP | creatingUDP | shuttingTCP =>
    obtain ⟨hmu, hserver, htcp, hrunning, -, htrace⟩ := hlock h.1
    simp only [StartAt.Holds, hmu, hserver, htcp, hrunning, htrace]
    exact ⟨trivial, h.2⟩
  | relocking => exact hgrants.ended i hne h
  | finishing =>
    obtain ⟨hmu, hsettled'⟩ := hsettled ⟨h.1, h.2.1⟩
    exact ⟨hmu, hsettled', hgrants.ended i hne h.2.2⟩
  | _ => trivial

theorem StopServerAt.Holds.stable {place : StopServerAt} (h : place.Holds i l)
    (hne : .caller i ≠ thread) (hgrants : Grants thread l l') : place.Holds i l' := by
  have hlock := hgrants.lock i hne
  cases place with
  | checking =>
    obtain ⟨hmu, hserver, htcp, hrunning, -⟩ := hlock h.1
    exact ⟨hmu, h.2.of_eq hserver htcp hrunning⟩
  | stoppingMDNS => exact (hlock h).1
  | shuttingTCP | shuttingUDP | storing | leaving =>
    obtain ⟨hmu, hserver, htcp, hrunning, hbrowser, -⟩ := hlock h.1
    simp only [StopServerAt.Holds, hmu, hserver, htcp, hrunning, hbrowser]
    exact ⟨trivial, h.2⟩
  | _ => trivial

theorem LifecycleAt.Holds.stable {other : DnsThread ι} {place : LifecycleAt}
    (h : place.Holds other l) (hne : other ≠ thread) (hgrants : Grants thread l l') :
    place.Holds other l' := by
  cases other with
  | caller i =>
    cases place with
    | start place => exact StartAt.Holds.stable h hne hgrants
    | stop place => exact StopServerAt.Holds.stable h hne hgrants
    | tcp place => exact h
  | tcp i =>
    cases place with
    | tcp place => trivial
    | _ => exact h

end Stable

/-! ## The steps -/

section Steps

variable {concerns : Concerns} {thread : DnsThread ι} {i : ι} {l l' : Lifecycle ι}

structure Advances (concerns : Concerns) (thread : DnsThread ι) (l l' : Lifecycle ι) : Prop where
  published : l'.Published concerns
  grants : Grants thread l l'

theorem advances_of_listeners (hl : l.Published concerns)
    (hlock : l'.serverLifecycleMu = l.serverLifecycleMu) (hserver : l'.server = l.server)
    (htcp : l'.tcpServer = l.tcpServer) (hrunning : l'.serverRunning = l.serverRunning)
    (hbrowser : l'.mdnsBrowser = l.mdnsBrowser) (hbrowsers : l'.browsers = l.browsers)
    (htrace : l'.trace = l.trace)
    (hudpLive : ∀ j, (l'.udpListener j).live = true → (l.udpListener j).live = true)
    (htcpLive : ∀ j, (l'.tcpListener j).live = true → (l.tcpListener j).live = true)
    (hended : ∀ j, l.udpListener j = .ended → l'.udpListener j = .ended) :
    Advances concerns thread l l' := by
  constructor
  · constructor
    · intro hconcern j hj
      rw [hserver]
      exact hl.udp hconcern j (hudpLive j hj)
    · intro hconcern j hj
      rw [htcp]
      exact hl.tcp hconcern j (htcpLive j hj)
    · rw [hbrowsers, hbrowser, hrunning]
      exact hl.browsers
    · intro hfree
      exact (hl.free (hlock.symm.trans hfree)).of_eq hserver htcp hrunning
    · rw [htrace, hserver, htcp, hrunning]
      exact hl.stopped
  · constructor
    · exact fun j _ hj => ⟨hlock.trans hj, hserver, htcp, hrunning, hbrowser, htrace⟩
    · exact fun j _ => hended j

theorem advances_refl (hl : l.Published concerns) : Advances concerns thread l l :=
  advances_of_listeners hl rfl rfl rfl rfl rfl rfl rfl (fun _ => id) (fun _ => id) fun _ => id

theorem advances_lock (hl : l.Published concerns) (hfree : l.serverLifecycleMu.isNone = true) :
    Advances concerns thread l { l with serverLifecycleMu := some i } ∧
      Settled { l with serverLifecycleMu := some i } := by
  refine ⟨⟨{ hl with free := fun h => absurd h (by simp) }, ?_, fun _ _ => id⟩,
    (hl.free (Option.isNone_iff_eq_none.mp hfree)).of_eq rfl rfl rfl⟩
  intro j _ hj
  simp [hj] at hfree

theorem grants_of_lock (hlock : l.serverLifecycleMu = some i)
    (hended : ∀ j, j ≠ i → l.udpListener j = .ended → l'.udpListener j = .ended) :
    Grants (.caller i) l l' := by
  constructor
  · intro j hne hj
    rw [hlock] at hj
    exact absurd (congrArg DnsThread.caller (Option.some.inj hj).symm) hne
  · intro j hne hj
    exact hended j (fun hji => hne (congrArg DnsThread.caller hji)) hj

theorem advances_unlock (hl : l.Published concerns) (hlock : l.serverLifecycleMu = some i)
    (hsettled : l.Settled) : Advances concerns (.caller i) l { l with serverLifecycleMu := none } := by
  constructor
  · exact { hl with free := fun _ => ⟨hsettled.tcp, hsettled.running⟩ }
  · exact grants_of_lock hlock fun _ _ => id

theorem settled_of_locked (hlock : l.serverLifecycleMu = some i)
    (hfree : l.serverLifecycleMu = none) : l.Settled := by
  cases hlock.symm.trans hfree

theorem Lifecycle.Settled.tcpServer_none (h : l.Settled) (hserver : l.server = none) :
    l.tcpServer = none := by
  cases htcp : l.tcpServer with
  | none => rfl
  | some j => cases hserver.symm.trans (h.tcp j htcp)

theorem settled_none (hserver : l.server = none) (htcp : l.tcpServer = none)
    (hrunning : l.serverRunning = false) : l.Settled := by
  constructor
  · intro j hj
    rw [htcp] at hj
    cases hj
  · rw [hserver, hrunning]
    rfl

theorem published_admitted (hl : l.Published concerns) (hlock : l.serverLifecycleMu = some i)
    (hstopped : l.serverRunning = false) (enabled : Bool) :
    Published concerns { l with
      serverRunning := true
      mdnsBrowser := l.mdnsBrowser || enabled
      browsers := l.browsers + enabled.toNat
      trace := .startAdmitted :: l.trace } := by
  refine ⟨hl.udp, hl.tcp, fun hconcern => ⟨?_, fun _ => rfl⟩, settled_of_locked hlock,
    fun h => by cases h⟩
  obtain ⟨hcount, hbrowsed⟩ := hl.browsers hconcern
  have hnone : l.mdnsBrowser = false := by
    rw [← Bool.not_eq_true]
    exact fun hbrowser => by cases hstopped.symm.trans (hbrowsed hbrowser)
  simp [hcount, hnone]

theorem published_finished (hl : l.Published concerns) (hlock : l.serverLifecycleMu = some i)
    (hserver : l.server = some i) (hended : l.udpListener i = .ended)
    (hunbrowsed : concerns.browsers → l.mdnsBrowser = false) :
    Published concerns { l with server := none, serverRunning := false } := by
  refine ⟨?_, hl.tcp, fun hconcern => ⟨(hl.browsers hconcern).1, fun hbrowser => ?_⟩,
    settled_of_locked hlock, fun h => ⟨rfl, (hl.stopped h).2.1, rfl⟩⟩
  · intro hconcern j hj
    have hj' := hl.udp hconcern j hj
    rw [hserver] at hj'
    cases hj'
    simp [hended, Listener.live] at hj
  · cases hbrowser.symm.trans (hunbrowsed hconcern)

variable {listener : Listener}

theorem live_listen {bound : Bool}
    (h : (listener.listen bound).live = true) : listener.live = true := by
  cases listener with
  | created | serving => rfl
  | _ => exact h

theorem live_shutdown (h : listener.shutdown.live = true) : listener = .created := by
  cases listener <;> first | rfl | cases h

variable [DecidableEq ι] {listeners : ι → Listener} {i j : ι}

theorem live_update (hlive : listener.live = true → (listeners i).live = true)
    (h : (Function.update listeners i listener j).live = true) : (listeners j).live = true := by
  by_cases hj : j = i
  · subst hj
    rw [Function.update_self] at h
    exact hlive h
  · rwa [Function.update_of_ne hj] at h

variable {handle : Option ι}

theorem live_created (hpublished : ∀ j, (listeners j).live = true → handle = some j)
    (hnone : handle = none) (h : (Function.update listeners i .created j).live = true) :
    some i = some j := by
  by_cases hj : j = i
  · rw [hj]
  · rw [Function.update_of_ne hj] at h
    have hj' := hpublished j h
    rw [hnone] at hj'
    cases hj'

theorem ended_update (hended : listeners i = .ended → listener = .ended) (h : listeners j = .ended) :
    Function.update listeners i listener j = .ended := by
  by_cases hj : j = i
  · subst hj
    rw [Function.update_self]
    exact hended h
  · rwa [Function.update_of_ne hj]

theorem advances_udp (hl : l.Published concerns)
    (hlive : listener.live = true → (l.udpListener i).live = true)
    (hended : l.udpListener i = .ended → listener = .ended) :
    Advances concerns thread l { l with udpListener := Function.update l.udpListener i listener } :=
  advances_of_listeners hl rfl rfl rfl rfl rfl rfl rfl (fun _ => live_update hlive) (fun _ => id)
    fun _ => ended_update hended

theorem advances_tcp (hl : l.Published concerns)
    (hlive : listener.live = true → (l.tcpListener i).live = true) :
    Advances concerns thread l { l with tcpListener := Function.update l.tcpListener i listener } :=
  advances_of_listeners hl rfl rfl rfl rfl rfl rfl rfl (fun _ => id) (fun _ => live_update hlive)
    fun _ => id

theorem live_shutdown_handle {j k : ι}
    (hpublished : ∀ k, (listeners k).live = true → handle = some k) (hhandle : handle = some j)
    (hreaches : listeners j ≠ .created)
    (h : (Function.update listeners j (listeners j).shutdown k).live = true) : none = some k := by
  by_cases hkj : k = j
  · subst hkj
    rw [Function.update_self] at h
    exact absurd (live_shutdown h) hreaches
  · rw [Function.update_of_ne hkj] at h
    have hk := hpublished k h
    rw [hhandle] at hk
    exact absurd (Option.some.inj hk).symm hkj

theorem published_shutdownTCP (hl : l.Published concerns) {j : ι}
    (hlock : l.serverLifecycleMu = some i) (htcp : l.tcpServer = some j)
    (hreaches : concerns.shutdowns → l.tcpListener j ≠ .created) :
    (l.shutdownTCP j).Published concerns :=
  { hl with
    tcp := fun h _ => live_shutdown_handle (hl.tcp h) htcp (hreaches h)
    free := settled_of_locked hlock
    stopped := fun h => ⟨(hl.stopped h).1, rfl, (hl.stopped h).2.2⟩ }

theorem published_shutdownUDP (hl : l.Published concerns) {j : ι}
    (hlock : l.serverLifecycleMu = some i) (hserver : l.server = some j)
    (hreaches : concerns.shutdowns → l.udpListener j ≠ .created) :
    (l.shutdownUDP j).Published concerns :=
  { hl with
    udp := fun h _ => live_shutdown_handle (hl.udp h) hserver (hreaches h)
    free := settled_of_locked hlock
    stopped := fun h => ⟨rfl, (hl.stopped h).2⟩ }

theorem ended_shutdownUDP {j k : ι} (h : l.udpListener k = .ended) :
    (l.shutdownUDP j).udpListener k = .ended := by
  refine ended_update (fun h => ?_) h
  rw [h]
  rfl

theorem start_holds (answer : LifecycleAnswer) {place : StartAt} (hl : l.Published concerns)
    (hguard : concerns.Met (.caller i) (.start place) l) (h : place.Holds i l) :
    Advances concerns (.caller i) l (startDNSServerWithReady i answer l place).2 ∧
      (startDNSServerWithReady i answer l place).1.Holds i
        (startDNSServerWithReady i answer l place).2 := by
  have hstays : Advances concerns (.caller i) l l := advances_refl hl
  cases place with
  | locking =>
    simp only [startDNSServerWithReady]
    split
    · rename_i hfree
      obtain ⟨hlocks, hsettled⟩ := advances_lock hl hfree
      exact ⟨hlocks, rfl, hsettled⟩
    · exact ⟨hstays, trivial⟩
  | checking =>
    obtain ⟨hlock, hsettled⟩ := h
    simp only [startDNSServerWithReady]
    split
    · exact ⟨hstays, hlock, hsettled⟩
    · rename_i hidle
      simp only [Bool.or_eq_true, not_or, Bool.not_eq_true, Option.isSome_eq_false_iff,
        Option.isNone_iff_eq_none] at hidle
      obtain ⟨hserver, hstopped⟩ := hidle
      exact ⟨⟨published_admitted hl hlock hstopped answer.mdnsEnabled,
        grants_of_lock hlock fun _ _ => id⟩, hlock, hserver, hsettled.tcpServer_none hserver, rfl,
        rfl⟩
  | refusing =>
    obtain ⟨hlock, hsettled⟩ := h
    refine ⟨⟨?_, ?_⟩, trivial⟩
    · exact { hl with free := fun _ => hsettled.of_eq rfl rfl rfl }
    · exact grants_of_lock hlock fun _ _ => id
  | creatingTCP =>
    obtain ⟨hlock, hserver, htcp, hrunning, htrace⟩ := h
    refine ⟨⟨⟨hl.udp, fun h j hj => live_created (hl.tcp h) htcp hj, hl.browsers,
      settled_of_locked hlock, fun hstopped => ?_⟩, grants_of_lock hlock fun _ _ => id⟩, hlock,
      hserver, rfl, hrunning, htrace⟩
    cases htrace.symm.trans hstopped
  | creatingUDP =>
    obtain ⟨hlock, hserver, htcp, hrunning, htrace⟩ := h
    refine ⟨⟨⟨?_, hl.tcp, hl.browsers, settled_of_locked hlock, ?_⟩, ?_⟩, hlock, ?_, ?_⟩
    · exact fun h j hj => live_created (hl.udp h) hserver hj
    · intro hstopped
      cases htrace.symm.trans hstopped
    · refine grants_of_lock hlock fun j hj hended => ?_
      exact (Function.update_of_ne hj ..).trans hended
    · intro j hj
      exact htcp.symm.trans hj
    · exact hrunning.symm
  | unlocking => exact ⟨advances_unlock hl h.1 h.2, trivial⟩
  | signalling =>
    exact ⟨advances_of_listeners hl rfl rfl rfl rfl rfl rfl rfl (fun _ => id) (fun _ => id)
      fun _ => id, trivial⟩
  | listening =>
    refine ⟨advances_udp hl live_listen fun hended => ?_, trivial⟩
    rw [hended]
    rfl
  | serving =>
    simp only [startDNSServerWithReady]
    split
    · exact ⟨hstays, by assumption⟩
    · split
      · exact ⟨advances_udp hl (fun h => by cases h) fun _ => rfl, Function.update_self ..⟩
      · exact ⟨hstays, trivial⟩
  | relocking =>
    simp only [startDNSServerWithReady]
    split
    · rename_i hfree
      obtain ⟨hlocks, hsettled⟩ := advances_lock hl hfree
      exact ⟨hlocks, rfl, hsettled, h⟩
    · exact ⟨hstays, h⟩
  | finishing =>
    obtain ⟨hlock, hsettled, hended⟩ := h
    simp only [startDNSServerWithReady]
    split
    · rename_i hserver
      refine ⟨⟨published_finished hl hlock hserver hended fun h => hguard.unbrowsed h hserver,
        grants_of_lock hlock fun _ _ => id⟩, hlock, rfl, rfl, fun j hj => ?_⟩
      have hj' := hsettled.tcp j hj
      rw [hserver] at hj'
      exact (Option.some.inj hj').symm
    · exact ⟨hstays, hlock, hsettled⟩
  | shuttingTCP =>
    obtain ⟨hlock, hserver, hrunning, hsole⟩ := h
    simp only [startDNSServerWithReady]
    split
    · rename_i htcp
      exact ⟨⟨published_shutdownTCP hl hlock htcp fun h => hguard.reaches h htcp,
        grants_of_lock hlock fun _ _ => id⟩, hlock, settled_none hserver rfl hrunning⟩
    · rename_i htcp
      have hnone : l.tcpServer = none := by
        cases hsome : l.tcpServer with
        | none => rfl
        | some j =>
          rw [hsole j hsome] at hsome
          exact absurd hsome htcp
      exact ⟨hstays, hlock, settled_none hserver hnone hrunning⟩
  | leaving => exact ⟨advances_unlock hl h.1 h.2, trivial⟩
  | returned => exact ⟨hstays, trivial⟩

theorem stop_holds (hl : l.Published concerns) {place : StopServerAt}
    (hguard : concerns.Met (.caller i) (.stop place) l) (h : place.Holds i l) :
    Advances concerns (.caller i) l (stopDNSServer i l place).2 ∧
      (stopDNSServer i l place).1.Holds i (stopDNSServer i l place).2 := by
  have hstays : Advances concerns (.caller i) l l := advances_refl hl
  cases place with
  | locking =>
    simp only [stopDNSServer]
    split
    · rename_i hfree
      obtain ⟨hlocks, hsettled⟩ := advances_lock hl hfree
      exact ⟨hlocks, rfl, hsettled⟩
    · exact ⟨hstays, trivial⟩
  | checking =>
    obtain ⟨hlock, hsettled⟩ := h
    simp only [stopDNSServer]
    split
    · rename_i hidle
      have hrunning := hsettled.running
      have hserver : l.server = none := by
        cases hserver : l.server with
        | none => rfl
        | some j => simp [hserver] at hidle hrunning; simp [hidle] at hrunning
      refine ⟨hstays, hlock, hsettled.tcpServer_none hserver, hserver, ?_⟩
      rw [← hrunning, hserver]
      rfl
    · exact ⟨hstays, hlock⟩
  | stoppingMDNS =>
    have hlock : l.serverLifecycleMu = some i := h
    refine ⟨⟨{ hl with
      browsers := fun hconcern => ⟨?_, fun h => by cases h⟩
      free := settled_of_locked hlock }, grants_of_lock hlock fun _ _ => id⟩, hlock, rfl⟩
    change l.browsers - l.mdnsBrowser.toNat = 0
    rw [(hl.browsers hconcern).1, Nat.sub_self]
  | shuttingTCP =>
    obtain ⟨hlock, hbrowser⟩ := h
    simp only [stopDNSServer]
    split
    · rename_i j htcp
      exact ⟨⟨published_shutdownTCP hl hlock htcp fun h => hguard.reaches h j htcp,
        grants_of_lock hlock fun _ _ => id⟩, hlock, hbrowser, rfl⟩
    · exact ⟨hstays, hlock, hbrowser, by assumption⟩
  | shuttingUDP =>
    obtain ⟨hlock, hbrowser, htcp⟩ := h
    simp only [stopDNSServer]
    split
    · rename_i j hserver
      exact ⟨⟨published_shutdownUDP hl hlock hserver fun h => hguard.reaches h j hserver,
        grants_of_lock hlock fun _ _ => ended_shutdownUDP⟩, hlock, hbrowser, htcp, rfl⟩
    · exact ⟨hstays, hlock, hbrowser, htcp, by assumption⟩
  | storing =>
    obtain ⟨hlock, hbrowser, htcp, hserver⟩ := h
    refine ⟨⟨{ hl with
      browsers := fun hconcern => ⟨(hl.browsers hconcern).1, fun h => ?_⟩
      free := settled_of_locked hlock
      stopped := fun _ => ⟨hserver, htcp, rfl⟩ }, grants_of_lock hlock fun _ _ => id⟩, hlock, htcp,
      hserver, rfl⟩
    cases hbrowser.symm.trans h
  | leaving =>
    obtain ⟨hlock, htcp, hserver, hrunning⟩ := h
    exact ⟨⟨{ hl with
      free := fun _ => settled_none hserver htcp hrunning
      stopped := fun _ => ⟨hserver, htcp, hrunning⟩ }, grants_of_lock hlock fun _ _ => id⟩, trivial⟩
  | returned => exact ⟨hstays, trivial⟩

theorem serveTCP_advances (answer : LifecycleAnswer) (place : TcpAt) (hl : l.Published concerns) :
    Advances concerns (.tcp i) l (serveTCP i answer l place).2 := by
  have hstays : Advances concerns (.tcp i) l l := advances_refl hl
  cases place with
  | listening =>
    simp only [serveTCP]
    split
    · exact advances_tcp hl live_listen
    · exact hstays
  | serving =>
    simp only [serveTCP]
    repeat' split
    · exact hstays
    · exact advances_tcp hl fun h => by cases h
    · exact hstays
  | returned => exact hstays

end Steps

/-! ## Every run -/

theorem sound_lifecycleMove [DecidableEq ι] (concerns : Concerns) :
    Threads.Sound (@lifecycleMove ι _) concerns.Met (Published concerns) LifecycleAt.Holds
      Grants := by
  have hstep : ∀ (thread : DnsThread ι) (answer : LifecycleAnswer) (place : LifecycleAt)
      (l : Lifecycle ι), concerns.Met thread place l → l.Published concerns →
        place.Holds thread l → Advances concerns thread l (lifecycleMove thread answer place l).2 ∧
          (lifecycleMove thread answer place l).1.Holds thread
            (lifecycleMove thread answer place l).2 := by
    intro thread answer place l hguard hl h
    cases thread with
    | caller i =>
      cases place with
      | start place => exact start_holds answer hl hguard h
      | stop place => exact stop_holds hl hguard h
      | tcp place => exact h.elim
    | tcp i =>
      cases place with
      | tcp place => exact ⟨serveTCP_advances answer place hl, trivial⟩
      | _ => exact h.elim
  constructor
  · exact fun thread answer place l hguard hl h => (hstep thread answer place l hguard hl h).1.1
  · exact fun thread answer place l hguard hl h => (hstep thread answer place l hguard hl h).2
  · exact fun thread answer place l hguard hl h => (hstep thread answer place l hguard hl h).1.2
  · exact fun thread other place l l' hne hgrants h => h.stable hne hgrants

theorem asserted_idleServer (concerns : Concerns) (calls : ι → LifecycleCall) :
    (idleServer calls).Asserted (Published concerns) LifecycleAt.Holds := by
  constructor
  · constructor
    · intro _ i h
      cases h
    · intro _ i h
      cases h
    · exact fun _ => ⟨rfl, fun h => by cases h⟩
    · exact fun _ => settled_none rfl rfl rfl
    · intro h
      cases h
  · intro thread
    cases thread with
    | caller i =>
      simp only [idleServer]
      cases calls i <;> trivial
    | tcp i => trivial

/-- In a run in which every shutdown reaches its server, no server is listening once
`StopDNSServer` has returned and no start has followed it. -/
theorem stopped_server_is_silent [DecidableEq ι] (calls : ι → LifecycleCall)
    (schedule : List (DnsThread ι × LifecycleAnswer))
    (hreaches : (idleServer calls).Guarded lifecycleMove ReachesListener schedule)
    (after before : List LifecycleEvent)
    (htrace : ((idleServer calls).run lifecycleMove schedule).state.trace =
      after ++ .stopReturned :: before)
    (hfollows : .startAdmitted ∉ after) (i : ι) :
    ((idleServer calls).run lifecycleMove schedule).state.udpListener i ≠ .serving ∧
      ((idleServer calls).run lifecycleMove schedule).state.tcpListener i ≠ .serving := by
  have hl := ((asserted_idleServer ⟨True, False⟩ calls).run (sound_lifecycleMove _) schedule
    (hreaches.mono fun _ _ _ h => ⟨fun _ => h, False.elim⟩)).state
  have hhead : ((idleServer calls).run lifecycleMove schedule).state.trace.head? =
      some .stopReturned := by
    rw [htrace]
    cases after with
    | nil => rfl
    | cons event rest =>
      cases event with
      | startAdmitted => simp at hfollows
      | stopReturned => rfl
  obtain ⟨hserver, htcp, -⟩ := hl.stopped hhead
  constructor
  · intro hserving
    have hi := hl.udp trivial i (by rw [hserving]; rfl)
    rw [hserver] at hi
    cases hi
  · intro hserving
    have hi := hl.tcp trivial i (by rw [hserving]; rfl)
    rw [htcp] at hi
    cases hi

def startThenStop : Fin 2 → LifecycleCall := ![.startDNSServerWithReady, .stopDNSServer]

def turns (thread : DnsThread (Fin 2)) (n : Nat) : List (DnsThread (Fin 2) × LifecycleAnswer) :=
  List.replicate n (thread, { bound := true })

theorem stopped_server_is_silent_after_listening :
    (idleServer startThenStop).Guarded lifecycleMove ReachesListener
        (turns (.caller 0) 7 ++ turns (.tcp 0) 1 ++ turns (.caller 1) 7) ∧
      ∀ i, ((idleServer startThenStop).run lifecycleMove
          (turns (.caller 0) 7 ++ turns (.tcp 0) 1 ++ turns (.caller 1) 7)).state.udpListener i ≠
        .serving := by
  have hreaches : (idleServer startThenStop).Guarded lifecycleMove ReachesListener
      (turns (.caller 0) 7 ++ turns (.tcp 0) 1 ++ turns (.caller 1) 7) := by decide +kernel
  refine ⟨hreaches, fun i => ?_⟩
  exact (stopped_server_is_silent startThenStop _ hreaches [] [.startAdmitted]
    (by decide +kernel) (by simp) i).1

/-- A stop that comes between the signal and the listening shuts down nothing, and both
servers begin to serve after it has returned. -/
theorem stop_before_listening_leaves_servers :
    ((idleServer startThenStop).run lifecycleMove (turns (.caller 0) 6)).state.ready 0 = true ∧
      ((idleServer startThenStop).run lifecycleMove
        (turns (.caller 0) 6 ++ turns (.caller 1) 7)).state.trace =
        [.stopReturned, .startAdmitted] ∧
      ((idleServer startThenStop).run lifecycleMove
        (turns (.caller 0) 6 ++ turns (.caller 1) 7 ++ turns (.caller 0) 1 ++
          turns (.tcp 0) 1)).state.trace = [.stopReturned, .startAdmitted] ∧
      ((idleServer startThenStop).run lifecycleMove
        (turns (.caller 0) 6 ++ turns (.caller 1) 7 ++ turns (.caller 0) 1 ++
          turns (.tcp 0) 1)).state.udpListener 0 = .serving ∧
      ((idleServer startThenStop).run lifecycleMove
        (turns (.caller 0) 6 ++ turns (.caller 1) 7 ++ turns (.caller 0) 1 ++
          turns (.tcp 0) 1)).state.tcpListener 0 = .serving := by
  decide +kernel

/-! ## Browsers -/

/-- At most one browser runs where none is left behind, and none once `StopDNSServer` has returned
and no start has followed it. -/
theorem browsers_le_one [DecidableEq ι] (calls : ι → LifecycleCall)
    (schedule : List (DnsThread ι × LifecycleAnswer))
    (hends : (idleServer calls).Guarded lifecycleMove EndsUnbrowsed schedule) :
    ((idleServer calls).run lifecycleMove schedule).state.browsers ≤ 1 ∧
      (((idleServer calls).run lifecycleMove schedule).state.trace.head? = some .stopReturned →
        ((idleServer calls).run lifecycleMove schedule).state.browsers = 0) := by
  have hl := ((asserted_idleServer ⟨False, True⟩ calls).run (sound_lifecycleMove _) schedule
    (hends.mono fun _ _ _ h => ⟨False.elim, fun _ => h⟩)).state
  obtain ⟨hcount, hbrowsed⟩ := hl.browsers trivial
  rw [hcount]
  refine ⟨Bool.toNat_le _, fun hhead => ?_⟩
  obtain ⟨-, -, hrunning⟩ := hl.stopped hhead
  cases hbrowser : ((idleServer calls).run lifecycleMove schedule).state.mdnsBrowser with
  | false => rfl
  | true => cases hrunning.symm.trans (hbrowsed hbrowser)

def browsing (thread : DnsThread ι) (bound : Bool) (n : Nat) :
    List (DnsThread ι × LifecycleAnswer) :=
  List.replicate n (thread, { mdnsEnabled := true, bound })

def restartRun : List (DnsThread (Fin 3) × LifecycleAnswer) :=
  browsing (.caller 0) true 8 ++ browsing (.caller 1) true 8 ++ browsing (.caller 0) true 8 ++
    browsing (.caller 2) true 8

theorem browsers_le_one_restart :
    let calls : Fin 3 → LifecycleCall :=
      ![.startDNSServerWithReady, .stopDNSServer, .startDNSServerWithReady]
    ((idleServer calls).run lifecycleMove restartRun).state.trace =
        [.startAdmitted, .stopReturned, .startAdmitted] ∧
      ((idleServer calls).run lifecycleMove restartRun).state.browsers ≤ 1 :=
  ⟨by decide +kernel, (browsers_le_one _ _ (by decide +kernel)).1⟩

/-- The listener of a start ends at once; after that another start makes a second browser, and a
stop leaves the first one. -/
theorem two_browsers :
    ((idleServer ![.startDNSServerWithReady, .startDNSServerWithReady]).run lifecycleMove
        (browsing (.caller 0) false 13 ++ browsing (.caller (1 : Fin 2)) false 8)).state.browsers =
      2 ∧
    let stopped := (idleServer startThenStop).run lifecycleMove
      (browsing (.caller 0) false 13 ++ browsing (.caller 1) false 8)
    stopped.state.trace.head? = some .stopReturned ∧ stopped.state.browsers = 1 := by
  decide +kernel

end GateSentry.Dns
