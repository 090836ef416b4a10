import AgentPulse.OrderedMap
import AgentPulse.RelayCrypto
import AgentPulse.Trace

/-!
# Matching clients with waiting hosts

The handlers of the outer connections share one map of waiting registrations. A
host adds its registration and a guard takes it off again; a client looks a
registration up, checks its proof without the lock, takes the registration off
and sends its stream through the channel of the registration. Each operation
below is one of these sections of one connection.
-/
namespace AgentPulse

open Std (ExtTreeMap)

def maxWaitingHosts : Nat := relayMaxRoutes + 1

structure WaitingHost where
  connectionId : String
  routes : ExtTreeMap String Digest

/-- What a lookup found: a registration, with the channel that goes with it, and the
key of the route. -/
structure Claim where
  connectionId : String
  key : Digest
  deriving DecidableEq

/-- How far the handler of a client has come. -/
inductive ClientPhase where
  | claimed (claim : Claim)
  | verified (claim : Claim)
  | taken (claim : Claim)
  | matched (claim : Claim)
  | failed (error : RelayError)

structure ClientHandler where
  challenge : RelayChallenge
  routeId : String
  proof : String
  phase : ClientPhase

/-- The handler of a registered host: its channel holds one client, and on return the
guard goes before the receiver. -/
structure HostHandler where
  registration : WaitingHost
  channel : Option String
  client : Option String
  guarded : Bool
  receiving : Bool

structure Relay where
  waiting : ExtTreeMap String WaitingHost
  hosts : ExtTreeMap String HostHandler
  clients : ExtTreeMap String ClientHandler

/-- The host that the relay is configured for. -/
structure RelayServerConfig where
  hostId : String
  hostAuthenticationKey : Digest

inductive RelayOp where
  /-- The first message of a connection, with the clock at its arrival. -/
  | hello (challenge : RelayChallenge) (now : Int) (message : EndpointMessage)
  | check (connectionId : String)
  | take (connectionId : String)
  | send (connectionId : String)
  | receive (connectionId : String)
  | dropGuard (connectionId : String)
  | dropReceiver (connectionId : String)
  | stop

inductive RelayOutcome where
  | registered (host : String)
  | claimed (client : String)
  | handed (host client : String)
  | refused (error : RelayError)
  | silent
  deriving DecidableEq

namespace Relay

def empty : Relay := ⟨∅, ∅, ∅⟩

section

variable (lib : RelayLibrary) (config : RelayServerConfig)

def insertRouteKeys (keys : ExtTreeMap String Digest) :
    List RouteRegistration → Except RelayError (ExtTreeMap String Digest)
  | [] => .ok keys
  | route :: routes => do
    let key ← relayDecode32 lib "authentication_key" route.authenticationKey
    insertRouteKeys (keys.insert route.routeId key) routes

/-- The keys of the routes by their identifier, of which the last one counts. -/
def routeKeys (routes : List RouteRegistration) : Except RelayError (ExtTreeMap String Digest) :=
  insertRouteKeys lib ∅ routes

/-- What a host handler does before it takes the lock. -/
def admitHost (challenge : RelayChallenge) (hostId : String) (routes : List RouteRegistration)
    (proof : String) : Except RelayError (ExtTreeMap String Digest) := do
  let expected ← hostProof lib config.hostAuthenticationKey challenge.connectionId challenge.nonce
    challenge.expiresAtUnixSeconds hostId routes
  if hostId ≠ config.hostId ∨ verifyProof lib expected proof = false then .error .authentication
  else routeKeys lib routes

def routesOverlap (waiting : ExtTreeMap String WaitingHost)
    (candidate : ExtTreeMap String Digest) : Bool :=
  candidate.keys.any fun routeId =>
    (OrderedMap.values waiting).any fun host => host.routes.contains routeId

def handleHost (self : Relay) (challenge : RelayChallenge) (hostId : String)
    (routes : List RouteRegistration) (proof : String) : Relay × RelayOutcome :=
  match admitHost lib config challenge hostId routes proof with
  | .error error => (self, .refused error)
  | .ok routeKeys =>
    if self.waiting.size ≥ maxWaitingHosts then (self, .refused .hostBusy)
    else if routesOverlap self.waiting routeKeys then (self, .refused .hostBusy)
    else
      let registration : WaitingHost := ⟨challenge.connectionId, routeKeys⟩
      ({ self with
          waiting := self.waiting.insert challenge.connectionId registration
          hosts := self.hosts.insert challenge.connectionId ⟨registration, none, none, true, true⟩ },
        .registered challenge.connectionId)

/-- The first registration, in the order of connections, that has the route. -/
def lookup (self : Relay) (routeId : String) : Option Claim :=
  self.waiting.toList.findSome? fun (_, host) =>
    host.routes[routeId]?.map fun key => ⟨host.connectionId, key⟩

/-- The first section of `handle_client`. -/
def handleClient (self : Relay) (challenge : RelayChallenge) (routeId proof : String) :
    Relay × RelayOutcome :=
  if self.waiting.isEmpty then (self, .refused .hostUnavailable)
  else
    match self.lookup routeId with
    | none => (self, .refused .authentication)
    | some claim =>
      ({ self with
          clients := self.clients.insert challenge.connectionId
            ⟨challenge, routeId, proof, .claimed claim⟩ }, .claimed challenge.connectionId)

def handleOuter (self : Relay) (challenge : RelayChallenge) (now : Int)
    (message : EndpointMessage) : Relay × RelayOutcome :=
  match validateEndpoint lib message with
  | .error error => (self, .refused error)
  | .ok () =>
    if challenge.expiresAtUnixSeconds.toInt ≤ now then
      (self, .refused (.timeout "authenticate Relay connection"))
    else
      match message with
      | .hostHello hostId routes proof => self.handleHost lib config challenge hostId routes proof
      | .clientHello routeId proof => self.handleClient challenge routeId proof
      | .pong _ => (self, .refused (.protocol "unexpected Pong before authentication"))

/-- The handler goes on to another phase. -/
def moveClient (self : Relay) (connectionId : String) (phase : ClientPhase) : Relay :=
  match self.clients[connectionId]? with
  | none => self
  | some client =>
    { self with clients := self.clients.insert connectionId { client with phase := phase } }

/-- The proof is checked with the key that the lookup copied. -/
def check (self : Relay) (connectionId : String) : Relay × RelayOutcome :=
  match self.clients[connectionId]? with
  | some ⟨challenge, routeId, proof, .claimed claim⟩ =>
    match clientProof lib claim.key challenge.connectionId challenge.nonce
        challenge.expiresAtUnixSeconds routeId with
    | .error error => (self.moveClient connectionId (.failed error), .refused error)
    | .ok expected =>
      if verifyProof lib expected proof then
        (self.moveClient connectionId (.verified claim), .silent)
      else (self.moveClient connectionId (.failed .authentication), .refused .authentication)
  | _ => (self, .silent)

/-- The second section of the client. -/
def take (self : Relay) (connectionId : String) : Relay × RelayOutcome :=
  match self.clients[connectionId]? with
  | some ⟨_, _, _, .verified claim⟩ =>
    if self.waiting.contains claim.connectionId then
      ({ self.moveClient connectionId (.taken claim) with
          waiting := self.waiting.erase claim.connectionId }, .silent)
    else (self.moveClient connectionId (.failed .hostUnavailable), .refused .hostUnavailable)
  | _ => (self, .silent)

/-- A send waits for room in the channel, and fails once the receiver is gone. -/
def send (self : Relay) (connectionId : String) : Relay × RelayOutcome :=
  match self.clients[connectionId]? with
  | some ⟨_, _, _, .taken claim⟩ =>
    match self.hosts[claim.connectionId]? with
    | none => (self, .silent)
    | some host =>
      if !host.receiving then
        (self.moveClient connectionId (.failed .hostUnavailable), .refused .hostUnavailable)
      else if host.channel.isSome then (self, .silent)
      else
        ({ self.moveClient connectionId (.matched claim) with
            hosts := self.hosts.insert claim.connectionId
              { host with channel := some connectionId } },
          .handed claim.connectionId connectionId)
  | _ => (self, .silent)

/-- A host in its loop takes the client out of its channel. -/
def receive (self : Relay) (connectionId : String) : Relay × RelayOutcome :=
  match self.hosts[connectionId]? with
  | none => (self, .silent)
  | some host =>
    if host.guarded ∧ host.client.isNone ∧ host.channel.isSome then
      ({ self with
          hosts := self.hosts.insert connectionId
            { host with client := host.channel, channel := none } }, .silent)
    else (self, .silent)

/-- A handler that returns, for whatever reason, removes its registration. -/
def dropGuard (self : Relay) (connectionId : String) : Relay × RelayOutcome :=
  match self.hosts[connectionId]? with
  | none => (self, .silent)
  | some host =>
    if host.guarded then
      ({ self with
          waiting := self.waiting.erase connectionId
          hosts := self.hosts.insert connectionId { host with guarded := false } }, .silent)
    else (self, .silent)

def dropReceiver (self : Relay) (connectionId : String) : Relay × RelayOutcome :=
  match self.hosts[connectionId]? with
  | none => (self, .silent)
  | some host =>
    if !host.guarded then
      ({ self with hosts := self.hosts.insert connectionId { host with receiving := false } }, .silent)
    else (self, .silent)

def step (self : Relay) : RelayOp → Relay × RelayOutcome
  | .hello challenge now message => self.handleOuter lib config challenge now message
  | .check connectionId => self.check lib connectionId
  | .take connectionId => self.take connectionId
  | .send connectionId => self.send connectionId
  | .receive connectionId => self.receive connectionId
  | .dropGuard connectionId => self.dropGuard connectionId
  | .dropReceiver connectionId => self.dropReceiver connectionId
  | .stop => ({ self with waiting := ∅ }, .silent)

end

end Relay

namespace ClientPhase

def found : ClientPhase → Option Claim
  | claimed claim | verified claim | taken claim | matched claim => some claim
  | failed _ => none

/-- The claim whose key has verified the proof. -/
def proven : ClientPhase → Option Claim
  | verified claim | taken claim | matched claim => some claim
  | claimed _ | failed _ => none

/-- The registration that the client has taken off the map. -/
def takenFrom : ClientPhase → Option String
  | taken claim | matched claim => some claim.connectionId
  | claimed _ | verified _ | failed _ => none

theorem proven_of_takenFrom {phase : ClientPhase} {id : String} (h : phase.takenFrom = some id) :
    ∃ claim, phase.proven = some claim ∧ claim.connectionId = id := by
  cases phase <;> cases h <;> exact ⟨_, rfl, rfl⟩

theorem found_of_proven {phase : ClientPhase} {claim : Claim} (h : phase.proven = some claim) :
    phase.found = some claim := by
  cases phase <;> cases h <;> rfl

end ClientPhase

namespace Relay

/-- The registrations that wait, and what the handlers of clients know of the others. -/
structure Safe (lib : RelayLibrary) (s : Relay) : Prop where
  listed : ∀ (id : String) (w : WaitingHost), s.waiting[id]? = some w →
    w.connectionId = id ∧ ∃ host, s.hosts[id]? = some host ∧ host.registration = w
  untaken : ∀ (id : String) (w : WaitingHost), s.waiting[id]? = some w →
    ∀ (c : String) (client : ClientHandler), s.clients[c]? = some client →
      client.phase.takenFrom ≠ some id
  disjoint : ∀ (id id' : String) (w w' : WaitingHost), s.waiting[id]? = some w →
    s.waiting[id']? = some w' → id ≠ id' → ∀ route, w.routes.contains route = true →
      w'.routes.contains route = false
  bounded : s.waiting.size ≤ maxWaitingHosts
  found : ∀ (c : String) (client : ClientHandler) claim, s.clients[c]? = some client →
    client.phase.found = some claim → ∃ host, s.hosts[claim.connectionId]? = some host ∧
      host.registration.routes[client.routeId]? = some claim.key
  proven : ∀ (c : String) (client : ClientHandler) claim, s.clients[c]? = some client →
    client.phase.proven = some claim →
      (ProofContext.client claim.key client.challenge client.routeId).Verifies lib client.proof
  single : ∀ (c c' : String) (client client' : ClientHandler) id, s.clients[c]? = some client →
    s.clients[c']? = some client' → client.phase.takenFrom = some id →
      client'.phase.takenFrom = some id → c = c'

section

variable {lib : RelayLibrary} {config : RelayServerConfig} {s : Relay}

theorem safe_empty : Safe lib empty where
  listed id w h := by simp [empty] at h
  untaken id w h := by simp [empty] at h
  disjoint id id' w w' h := by simp [empty] at h
  bounded := by simp [empty]
  found c client claim h := by simp [empty] at h
  proven c client claim h := by simp [empty] at h
  single c c' client client' id h := by simp [empty] at h

/-- Registrations may leave the map at any time. -/
theorem Safe.shrink (h : Safe lib s) {waiting : ExtTreeMap String WaitingHost}
    (hsub : ∀ (id : String) (w : WaitingHost), waiting[id]? = some w → s.waiting[id]? = some w)
    (hsize : waiting.size ≤ s.waiting.size) : Safe lib { s with waiting := waiting } where
  listed id w hw := h.listed id w (hsub id w hw)
  untaken id w hw := h.untaken id w (hsub id w hw)
  disjoint id id' w w' hw hw' := h.disjoint id id' w w' (hsub id w hw) (hsub id' w' hw')
  bounded := Nat.le_trans hsize h.bounded
  found := h.found
  proven := h.proven
  single := h.single

theorem Safe.erase (h : Safe lib s) (id : String) :
    Safe lib { s with waiting := s.waiting.erase id } := by
  refine h.shrink ?_ ExtTreeMap.size_erase_le
  intro other w hw
  rw [OrderedMap.getElem?_erase] at hw
  split at hw
  · cases hw
  · exact hw

/-- A host handler keeps its registration, whatever else happens to it. -/
theorem Safe.updateHost (h : Safe lib s) {id : String} {host host' : HostHandler}
    (hhost : s.hosts[id]? = some host) (hsame : host'.registration = host.registration) :
    Safe lib { s with hosts := s.hosts.insert id host' } := by
  have hkept : ∀ (other : String) (found : HostHandler), s.hosts[other]? = some found →
      ∃ found', (s.hosts.insert id host')[other]? = some found' ∧
        found'.registration = found.registration := by
    intro other found hfound
    rw [OrderedMap.getElem?_insert]
    split
    · next heq =>
      subst heq
      cases hhost.symm.trans hfound
      exact ⟨host', rfl, hsame⟩
    · exact ⟨found, hfound, rfl⟩
  refine ⟨?_, h.untaken, h.disjoint, h.bounded, ?_, h.proven, h.single⟩
  · intro other w hw
    obtain ⟨hnamed, found, hfound, rfl⟩ := h.listed other w hw
    obtain ⟨found', hfound', hreg⟩ := hkept other found hfound
    exact ⟨hnamed, found', hfound', hreg⟩
  · intro c client claim hclient hclaim
    obtain ⟨found, hfound, hroute⟩ := h.found c client claim hclient hclaim
    obtain ⟨found', hfound', hreg⟩ := hkept _ found hfound
    exact ⟨found', hfound', by rw [hreg]; exact hroute⟩

/-- A client goes on with its claim; it takes a registration only off the map, and only
one that nobody else has taken. -/
theorem Safe.moveClient (h : Safe lib s) {id : String} {client : ClientHandler}
    (hclient : s.clients[id]? = some client) {phase : ClientPhase}
    (hfound : ∀ claim, phase.found = some claim → client.phase.found = some claim)
    (hproven : ∀ claim, phase.proven = some claim →
      (ProofContext.client claim.key client.challenge client.routeId).Verifies lib client.proof)
    (htaken : ∀ host, phase.takenFrom = some host → s.waiting[host]? = none ∧
      ∀ (c : String) (other : ClientHandler), s.clients[c]? = some other →
        other.phase.takenFrom = some host → c = id) :
    Safe lib (s.moveClient id phase) := by
  have hmoved : s.moveClient id phase =
      { s with clients := s.clients.insert id { client with phase := phase } } := by
    unfold Relay.moveClient
    rw [hclient]
  have hcases : ∀ (c : String) (found : ClientHandler),
      (s.clients.insert id { client with phase := phase })[c]? = some found →
      (c = id ∧ found = { client with phase := phase }) ∨ (c ≠ id ∧ s.clients[c]? = some found) := by
    intro c found hc
    rw [OrderedMap.getElem?_insert] at hc
    split at hc
    · next heq =>
      cases hc
      exact .inl ⟨heq.symm, rfl⟩
    · next hne => exact .inr ⟨fun heq => hne heq.symm, hc⟩
  rw [hmoved]
  refine ⟨h.listed, ?_, h.disjoint, h.bounded, ?_, ?_, ?_⟩
  · intro host w hw c found hc hfrom
    rcases hcases c found hc with ⟨-, rfl⟩ | ⟨-, hc⟩
    · rw [(htaken host hfrom).1] at hw
      cases hw
    · exact h.untaken host w hw c found hc hfrom
  · intro c found claim hc hclaim
    rcases hcases c found hc with ⟨-, rfl⟩ | ⟨-, hc⟩
    · exact h.found id client claim hclient (hfound claim hclaim)
    · exact h.found c found claim hc hclaim
  · intro c found claim hc hclaim
    rcases hcases c found hc with ⟨-, rfl⟩ | ⟨-, hc⟩
    · exact hproven claim hclaim
    · exact h.proven c found claim hc hclaim
  · intro c c' found found' host hc hc' hfrom hfrom'
    rcases hcases c found hc with ⟨rfl, rfl⟩ | ⟨-, hold⟩
    · rcases hcases c' found' hc' with ⟨rfl, -⟩ | ⟨-, hold'⟩
      · rfl
      · exact ((htaken host hfrom).2 c' found' hold' hfrom').symm
    · rcases hcases c' found' hc' with ⟨rfl, rfl⟩ | ⟨-, hold'⟩
      · exact (htaken host hfrom').2 c found hold hfrom
      · exact h.single c c' found found' host hold hold' hfrom hfrom'

theorem overlap_false {waiting : ExtTreeMap String WaitingHost}
    {candidate : ExtTreeMap String Digest} (h : routesOverlap waiting candidate = false)
    {id : String} {w : WaitingHost} (hw : waiting[id]? = some w) {route : String}
    (hroute : candidate.contains route = true) : w.routes.contains route = false := by
  unfold routesOverlap at h
  rw [List.any_eq_false] at h
  have hnone := h route (ExtTreeMap.mem_keys.mpr hroute)
  rw [List.any_eq_true, not_exists] at hnone
  have hw' := hnone w
  rw [not_and] at hw'
  exact Bool.eq_false_iff.mpr (hw' (OrderedMap.mem_values.mpr ⟨id, hw⟩))

/-- A new registration has routes of its own. -/
theorem Safe.register (h : Safe lib s) {id : String} (hfresh : s.hosts[id]? = none)
    {routes : ExtTreeMap String Digest} (hroom : s.waiting.size < maxWaitingHosts)
    (hown : routesOverlap s.waiting routes = false) :
    Safe lib { s with
      waiting := s.waiting.insert id ⟨id, routes⟩
      hosts := s.hosts.insert id ⟨⟨id, routes⟩, none, none, true, true⟩ } := by
  have habsent : s.waiting[id]? = none := by
    cases hw : s.waiting[id]? with
    | none => rfl
    | some w =>
      obtain ⟨-, host, hhost, -⟩ := h.listed id w hw
      rw [hfresh] at hhost
      cases hhost
  have hcases : ∀ (other : String) (w : WaitingHost),
      (s.waiting.insert id ⟨id, routes⟩)[other]? = some w →
      (other = id ∧ w = ⟨id, routes⟩) ∨ (other ≠ id ∧ s.waiting[other]? = some w) := by
    intro other w hw
    rw [OrderedMap.getElem?_insert] at hw
    split at hw
    · next heq =>
      cases hw
      exact .inl ⟨heq.symm, rfl⟩
    · next hne => exact .inr ⟨fun heq => hne heq.symm, hw⟩
  have hkept : ∀ (other : String) (host : HostHandler), s.hosts[other]? = some host →
      (s.hosts.insert id ⟨⟨id, routes⟩, none, none, true, true⟩)[other]? = some host := by
    intro other host hhost
    rw [OrderedMap.getElem?_insert, if_neg]
    · exact hhost
    · rintro rfl
      rw [hfresh] at hhost
      cases hhost
  refine ⟨?_, ?_, ?_, ?_, ?_, h.proven, h.single⟩
  · intro other w hw
    rcases hcases other w hw with ⟨rfl, rfl⟩ | ⟨-, hw⟩
    · exact ⟨rfl, _, by rw [OrderedMap.getElem?_insert, if_pos rfl], rfl⟩
    · obtain ⟨hnamed, host, hhost, hreg⟩ := h.listed other w hw
      exact ⟨hnamed, host, hkept other host hhost, hreg⟩
  · intro other w hw c client hclient hfrom
    rcases hcases other w hw with ⟨rfl, -⟩ | ⟨-, hw⟩
    · -- nobody can have taken a registration that was never made
      obtain ⟨claim, hclaim, rfl⟩ := ClientPhase.proven_of_takenFrom hfrom
      obtain ⟨host, hhost, -⟩ :=
        h.found c client claim hclient (ClientPhase.found_of_proven hclaim)
      rw [hfresh] at hhost
      cases hhost
    · exact h.untaken other w hw c client hclient hfrom
  · intro a b w w' hw hw' hne route hroute
    rcases hcases a w hw with ⟨rfl, rfl⟩ | ⟨-, hold⟩
    · rcases hcases b w' hw' with ⟨rfl, -⟩ | ⟨-, hold'⟩
      · exact absurd rfl hne
      · exact overlap_false hown hold' hroute
    · rcases hcases b w' hw' with ⟨rfl, rfl⟩ | ⟨-, hold'⟩
      · rw [Bool.eq_false_iff]
        intro hmine
        rw [overlap_false hown hold hmine] at hroute
        cases hroute
      · exact h.disjoint a b w w' hold hold' hne route hroute
  · have hsize : (s.waiting.insert id ⟨id, routes⟩).size ≤ s.waiting.size + 1 :=
      ExtTreeMap.size_insert_le
    exact Nat.le_trans hsize hroom
  · intro c client claim hclient hclaim
    obtain ⟨host, hhost, hroute⟩ := h.found c client claim hclient hclaim
    exact ⟨host, hkept _ host hhost, hroute⟩

theorem lookup_eq_some (h : Safe lib s) {routeId : String} {claim : Claim}
    (hlookup : s.lookup routeId = some claim) :
    ∃ host, s.hosts[claim.connectionId]? = some host ∧
      host.registration.routes[routeId]? = some claim.key := by
  unfold lookup at hlookup
  obtain ⟨⟨id, w⟩, hmem, hfound⟩ := List.exists_of_findSome?_eq_some hlookup
  obtain ⟨key, hkey, rfl⟩ := Option.map_eq_some_iff.mp hfound
  obtain ⟨hnamed, host, hhost, rfl⟩ :=
    h.listed id w (ExtTreeMap.mem_toList_iff_getElem?_eq_some.mp hmem)
  refine ⟨host, ?_, hkey⟩
  show s.hosts[host.registration.connectionId]? = some host
  rw [hnamed]
  exact hhost

/-- A new client knows a registration that was waiting. -/
theorem Safe.claim (h : Safe lib s) (id : String)
    {challenge : RelayChallenge} {routeId proof : String} {claim : Claim}
    (hlookup : s.lookup routeId = some claim) :
    Safe lib { s with clients := s.clients.insert id ⟨challenge, routeId, proof, .claimed claim⟩ } := by
  have hcases : ∀ (c : String) (client : ClientHandler),
      (s.clients.insert id ⟨challenge, routeId, proof, .claimed claim⟩)[c]? = some client →
      client = ⟨challenge, routeId, proof, .claimed claim⟩ ∨ s.clients[c]? = some client := by
    intro c client hc
    rw [OrderedMap.getElem?_insert] at hc
    split at hc
    · cases hc
      exact .inl rfl
    · exact .inr hc
  refine ⟨h.listed, ?_, h.disjoint, h.bounded, ?_, ?_, ?_⟩
  · intro host w hw c client hc hfrom
    rcases hcases c client hc with rfl | hc
    · cases hfrom
    · exact h.untaken host w hw c client hc hfrom
  · intro c client claim' hc hclaim
    rcases hcases c client hc with rfl | hc
    · cases hclaim
      exact lookup_eq_some h hlookup
    · exact h.found c client claim' hc hclaim
  · intro c client claim' hc hclaim
    rcases hcases c client hc with rfl | hc
    · cases hclaim
    · exact h.proven c client claim' hc hclaim
  · intro c c' client client' host hc hc' hfrom hfrom'
    rcases hcases c client hc with rfl | hc
    · cases hfrom
    · rcases hcases c' client' hc' with rfl | hc'
      · cases hfrom'
      · exact h.single c c' client client' host hc hc' hfrom hfrom'

theorem moveClient_waiting (waiting : ExtTreeMap String WaitingHost) (id : String)
    (phase : ClientPhase) :
    ({ s with waiting := waiting } : Relay).moveClient id phase =
      { s.moveClient id phase with waiting := waiting } := by
  unfold Relay.moveClient
  dsimp only
  cases s.clients[id]? <;> rfl

theorem moveClient_hosts (hosts : ExtTreeMap String HostHandler) (id : String)
    (phase : ClientPhase) :
    ({ s with hosts := hosts } : Relay).moveClient id phase =
      { s.moveClient id phase with hosts := hosts } := by
  unfold Relay.moveClient
  dsimp only
  cases s.clients[id]? <;> rfl

/-- The connection that an operation is the first one of. -/
def opens : RelayOp → Option String
  | .hello challenge _ _ => some challenge.connectionId
  | _ => none

/-- No handler has run for the connection. -/
def Fresh (s : Relay) (id : String) : Prop := s.hosts[id]? = none ∧ s.clients[id]? = none

/-- The changes of the relay, each under the checks that its section has made. -/
inductive Change (lib : RelayLibrary) (config : RelayServerConfig) (s : Relay) :
    RelayOp → Relay → RelayOutcome → Prop
  | idle {op outcome} (hnone : ∀ host client, outcome ≠ .handed host client) :
      Change lib config s op s outcome
  | register {challenge now hostId routes proof keys}
      (hadmitted : admitHost lib config challenge hostId routes proof = .ok keys)
      (hroom : s.waiting.size < maxWaitingHosts) (hown : routesOverlap s.waiting keys = false) :
      Change lib config s (.hello challenge now (.hostHello hostId routes proof))
        { s with
          waiting := s.waiting.insert challenge.connectionId ⟨challenge.connectionId, keys⟩
          hosts := s.hosts.insert challenge.connectionId
            ⟨⟨challenge.connectionId, keys⟩, none, none, true, true⟩ }
        (.registered challenge.connectionId)
  | claim {challenge now routeId proof claim} (hlookup : s.lookup routeId = some claim) :
      Change lib config s (.hello challenge now (.clientHello routeId proof))
        { s with
          clients := s.clients.insert challenge.connectionId
            ⟨challenge, routeId, proof, .claimed claim⟩ }
        (.claimed challenge.connectionId)
  | fail {op id client error} (hclient : s.clients[id]? = some client)
      (hopen : ∀ claim, client.phase ≠ .matched claim) :
      Change lib config s op (s.moveClient id (.failed error)) (.refused error)
  | verify {id challenge routeId proof claim}
      (hclient : s.clients[id]? = some ⟨challenge, routeId, proof, .claimed claim⟩)
      (hverifies : (ProofContext.client claim.key challenge routeId).Verifies lib proof) :
      Change lib config s (.check id) (s.moveClient id (.verified claim)) .silent
  | take {id challenge routeId proof claim}
      (hclient : s.clients[id]? = some ⟨challenge, routeId, proof, .verified claim⟩)
      (hwaits : s.waiting.contains claim.connectionId = true) :
      Change lib config s (.take id)
        { s.moveClient id (.taken claim) with waiting := s.waiting.erase claim.connectionId } .silent
  | hand {id challenge routeId proof claim host}
      (hclient : s.clients[id]? = some ⟨challenge, routeId, proof, .taken claim⟩)
      (hhost : s.hosts[claim.connectionId]? = some host) (hreceiving : host.receiving = true) :
      Change lib config s (.send id)
        { s.moveClient id (.matched claim) with
          hosts := s.hosts.insert claim.connectionId { host with channel := some id } }
        (.handed claim.connectionId id)
  | serve {op id host host'} (hhost : s.hosts[id]? = some host)
      (hsame : host'.registration = host.registration)
      (hgone : host.receiving = false → host'.receiving = false) :
      Change lib config s op { s with hosts := s.hosts.insert id host' } .silent
  | unguard {id host} (hhost : s.hosts[id]? = some host) :
      Change lib config s (.dropGuard id)
        { s with
          waiting := s.waiting.erase id
          hosts := s.hosts.insert id { host with guarded := false } } .silent
  | stop : Change lib config s .stop { s with waiting := ∅ } .silent

theorem change_hello (challenge : RelayChallenge) (now : Int) (message : EndpointMessage) :
    Change lib config s (.hello challenge now message)
      (s.handleOuter lib config challenge now message).1
      (s.handleOuter lib config challenge now message).2 := by
  have hrefused : ∀ error, Change lib config s (.hello challenge now message) s (.refused error) :=
    fun error => .idle fun _ _ => by simp
  unfold handleOuter
  split
  · exact hrefused _
  · split
    · exact hrefused _
    · cases message with
      | hostHello hostId routes proof =>
        dsimp only
        unfold handleHost
        split
        · exact hrefused _
        · next keys hadmitted =>
          split
          · exact hrefused _
          · next hroom =>
            split
            · exact hrefused _
            · next hown =>
              exact .register hadmitted (Nat.not_le.mp hroom) (Bool.eq_false_iff.mpr hown)
      | clientHello routeId proof =>
        dsimp only
        unfold handleClient
        split
        · exact hrefused _
        · split
          · exact hrefused _
          · next claim hlookup => exact .claim hlookup
      | pong pingId => exact hrefused _

theorem change_check (id : String) :
    Change lib config s (.check id) (s.check lib id).1 (s.check lib id).2 := by
  unfold check
  split
  · next challenge routeId proof claim hclient =>
    have hopen : ∀ found, ClientPhase.claimed claim ≠ .matched found := fun _ => by simp
    split
    · exact .fail hclient hopen
    · next expected hexpected =>
      split
      · next hverified => exact .verify hclient ⟨expected, hexpected, hverified⟩
      · exact .fail hclient hopen
  · exact .idle fun _ _ => by simp

theorem change_take (id : String) : Change lib config s (.take id) (s.take id).1 (s.take id).2 := by
  unfold take
  split
  · next challenge routeId proof claim hclient =>
    split
    · next hwaits => exact .take hclient hwaits
    · exact .fail hclient fun _ => by simp
  · exact .idle fun _ _ => by simp

theorem change_send (id : String) : Change lib config s (.send id) (s.send id).1 (s.send id).2 := by
  have hidle : Change lib config s (.send id) s .silent := .idle fun _ _ => by simp
  unfold send
  split
  · next challenge routeId proof claim hclient =>
    split
    · exact hidle
    · next host hhost =>
      split
      · exact .fail hclient fun _ => by simp
      · next hreceiving =>
        split
        · exact hidle
        · exact .hand hclient hhost (by simpa using hreceiving)
  · exact hidle

variable (lib config s) in
/-- The inversion of a section. -/
theorem step_change (op : RelayOp) :
    Change lib config s op (s.step lib config op).1 (s.step lib config op).2 := by
  have hidle : ∀ op, Change lib config s op s .silent := fun _ => .idle fun _ _ => by simp
  cases op with
  | hello challenge now message => exact change_hello challenge now message
  | check id => exact change_check id
  | take id => exact change_take id
  | send id => exact change_send id
  | receive id =>
    simp only [Relay.step, receive]
    split
    · exact hidle _
    · next host hhost =>
      split
      · exact .serve hhost rfl fun hgone => hgone
      · exact hidle _
  | dropGuard id =>
    simp only [Relay.step, dropGuard]
    split
    · exact hidle _
    · next host hhost =>
      split
      · exact .unguard hhost
      · exact hidle _
  | dropReceiver id =>
    simp only [Relay.step, dropReceiver]
    split
    · exact hidle _
    · next host hhost =>
      split
      · exact .serve hhost rfl fun _ => rfl
      · exact hidle _
  | stop => exact .stop

theorem Change.safe {op : RelayOp} {s' : Relay} {outcome : RelayOutcome}
    (hchange : Change lib config s op s' outcome) (h : Safe lib s)
    (hfresh : ∀ id, opens op = some id → s.Fresh id) : Safe lib s' := by
  cases hchange with
  | idle hnone => exact h
  | register hadmitted hroom hown => exact h.register (hfresh _ rfl).1 hroom hown
  | claim hlookup => exact h.claim _ hlookup
  | fail hclient hopen =>
    exact h.moveClient hclient (fun _ hfound => by cases hfound) (fun _ hproven => by cases hproven)
      fun _ hfrom => by cases hfrom
  | verify hclient hverifies =>
    refine h.moveClient hclient (fun _ hfound => hfound) ?_ fun _ hfrom => by cases hfrom
    intro found hproven
    cases hproven
    exact hverifies
  | @take id challenge routeId proof claim hclient hwaits =>
    -- off the map first, and then the client moves on
    have hmoved : Safe lib
        (({ s with waiting := s.waiting.erase claim.connectionId } : Relay).moveClient id
          (.taken claim)) := by
      refine (h.erase claim.connectionId).moveClient hclient (fun _ hfound => hfound)
        (fun found hproven => h.proven id _ found hclient hproven) ?_
      intro host hfrom
      cases hfrom
      refine ⟨by rw [OrderedMap.getElem?_erase, if_pos rfl], ?_⟩
      intro c other hother htaken
      obtain ⟨w, hw⟩ := Option.isSome_iff_exists.mp
        (by simpa using hwaits : s.waiting[claim.connectionId]?.isSome = true)
      exact absurd htaken (h.untaken _ w hw c other hother)
    rw [moveClient_waiting] at hmoved
    exact hmoved
  | @hand id challenge routeId proof claim host hclient hhost hreceiving =>
    let hosts := s.hosts.insert claim.connectionId { host with channel := some id }
    have hupdated : Safe lib { s with hosts := hosts } := h.updateHost hhost rfl
    have hmoved : Safe lib (({ s with hosts := hosts } : Relay).moveClient id (.matched claim)) := by
      refine hupdated.moveClient hclient (fun _ hfound => hfound)
        (fun found hproven => h.proven id _ found hclient hproven) ?_
      intro taken hfrom
      cases hfrom
      constructor
      · cases hw : s.waiting[claim.connectionId]? with
        | none => rfl
        | some w => exact absurd rfl (h.untaken _ w hw id _ hclient)
      · intro c other hother htaken
        exact h.single c id other _ claim.connectionId hother hclient htaken rfl
    rw [moveClient_hosts] at hmoved
    exact hmoved
  | serve hhost hsame hgone => exact h.updateHost hhost hsame
  | @unguard id host hhost =>
    have hupdated : Safe lib { s with hosts := s.hosts.insert id { host with guarded := false } } :=
      h.updateHost hhost rfl
    exact hupdated.erase id
  | stop =>
    refine h.shrink ?_ (Nat.zero_le _)
    intro id w hw
    simp at hw

/-- A registration stays what it was, a receiver that is gone stays gone, and a matched
client stays matched. -/
structure Evolves (s s' : Relay) : Prop where
  hosts : ∀ (id : String) (host : HostHandler), s.hosts[id]? = some host →
    ∃ host', s'.hosts[id]? = some host' ∧ host'.registration = host.registration ∧
      (host.receiving = false → host'.receiving = false)
  matched : ∀ (c : String) (client : ClientHandler) claim, s.clients[c]? = some client →
    client.phase = .matched claim → s'.clients[c]? = some client

theorem evolves_moveClient {id : String} {client : ClientHandler}
    (hclient : s.clients[id]? = some client) (hopen : ∀ claim, client.phase ≠ .matched claim)
    (phase : ClientPhase) (c : String) (found : ClientHandler) (claim : Claim)
    (hfound : s.clients[c]? = some found) (hphase : found.phase = .matched claim) :
    (s.moveClient id phase).clients[c]? = some found := by
  unfold Relay.moveClient
  rw [hclient]
  dsimp only
  rw [OrderedMap.getElem?_insert, if_neg]
  · exact hfound
  · rintro rfl
    cases hclient.symm.trans hfound
    exact hopen claim hphase

theorem moveClient_same_hosts (id : String) (phase : ClientPhase) :
    (s.moveClient id phase).hosts = s.hosts := by
  unfold Relay.moveClient
  cases s.clients[id]? <;> rfl

theorem evolves_updateHost {id : String} {host host' : HostHandler}
    (hhost : s.hosts[id]? = some host) (hsame : host'.registration = host.registration)
    (hgone : host.receiving = false → host'.receiving = false) (other : String) (found : HostHandler)
    (hfound : s.hosts[other]? = some found) :
    ∃ found', (s.hosts.insert id host')[other]? = some found' ∧
      found'.registration = found.registration ∧
      (found.receiving = false → found'.receiving = false) := by
  rw [OrderedMap.getElem?_insert]
  split
  · next heq =>
    subst heq
    cases hhost.symm.trans hfound
    exact ⟨host', rfl, hsame, hgone⟩
  · exact ⟨found, hfound, rfl, fun hnone => hnone⟩

theorem Change.evolves {op : RelayOp} {s' : Relay} {outcome : RelayOutcome}
    (hchange : Change lib config s op s' outcome)
    (hfresh : ∀ id, opens op = some id → s.Fresh id) : Evolves s s' := by
  have hhosts : ∀ (id : String) (host : HostHandler), s.hosts[id]? = some host →
      ∃ host', s.hosts[id]? = some host' ∧ host'.registration = host.registration ∧
        (host.receiving = false → host'.receiving = false) :=
    fun _ host hhost => ⟨host, hhost, rfl, fun hgone => hgone⟩
  have hclients : ∀ (c : String) (client : ClientHandler) (claim : Claim),
      s.clients[c]? = some client → client.phase = .matched claim → s.clients[c]? = some client :=
    fun _ _ _ hclient _ => hclient
  cases hchange with
  | idle hnone => exact ⟨hhosts, hclients⟩
  | @register challenge now hostId routes proof keys hadmitted hroom hown =>
    refine ⟨?_, hclients⟩
    intro id host hhost
    refine ⟨host, ?_, rfl, fun hgone => hgone⟩
    rw [OrderedMap.getElem?_insert, if_neg]
    · exact hhost
    · rintro rfl
      rw [(hfresh _ rfl).1] at hhost
      cases hhost
  | @claim challenge now routeId proof claim hlookup =>
    refine ⟨hhosts, ?_⟩
    intro c client found hclient hphase
    rw [OrderedMap.getElem?_insert, if_neg]
    · exact hclient
    · rintro rfl
      rw [(hfresh _ rfl).2] at hclient
      cases hclient
  | fail hclient hopen =>
    refine ⟨?_, evolves_moveClient hclient hopen _⟩
    rw [moveClient_same_hosts]
    exact hhosts
  | verify hclient hverifies =>
    refine ⟨?_, evolves_moveClient hclient (fun _ => by simp) _⟩
    rw [moveClient_same_hosts]
    exact hhosts
  | take hclient hwaits =>
    refine ⟨?_, evolves_moveClient hclient (fun _ => by simp) _⟩
    dsimp only
    rw [moveClient_same_hosts]
    exact hhosts
  | hand hclient hhost hreceiving =>
    exact ⟨evolves_updateHost hhost rfl fun hgone => hgone,
      evolves_moveClient hclient (fun _ => by simp) _⟩
  | serve hhost hsame hgone => exact ⟨evolves_updateHost hhost hsame hgone, hclients⟩
  | unguard hhost => exact ⟨evolves_updateHost hhost rfl fun hgone => hgone, hclients⟩
  | stop => exact ⟨hhosts, hclients⟩

/-- A client is handed over by its own send, to a host whose receiver is there. -/
theorem Change.handed {op : RelayOp} {s' : Relay} {host client : String}
    (hchange : Change lib config s op s' (.handed host client)) :
    ∃ handler claim found, s.clients[client]? = some handler ∧ handler.phase = .taken claim ∧
      claim.connectionId = host ∧ s.hosts[host]? = some found ∧ found.receiving = true ∧
      s'.clients[client]? = some { handler with phase := .matched claim } := by
  cases hchange with
  | idle hnone => exact absurd rfl (hnone host client)
  | @hand _ challenge routeId proof claim found hclient hhost hreceiving =>
    refine ⟨_, claim, found, hclient, rfl, rfl, hhost, hreceiving, ?_⟩
    simp only [Relay.moveClient, hclient]
    rw [OrderedMap.getElem?_insert, if_pos rfl]

/-- Where the data of a client handler comes from. -/
def ClientOpened (ops : List RelayOp) (id : String) (client : ClientHandler) : Prop :=
  client.challenge.connectionId = id ∧
    ∃ now, .hello client.challenge now (.clientHello client.routeId client.proof) ∈ ops

/-- Where the data of a registration comes from. -/
def HostOpened (lib : RelayLibrary) (config : RelayServerConfig) (ops : List RelayOp) (id : String)
    (host : HostHandler) : Prop :=
  ∃ challenge now hostId routes proof, challenge.connectionId = id ∧
    .hello challenge now (.hostHello hostId routes proof) ∈ ops ∧
    admitHost lib config challenge hostId routes proof = .ok host.registration.routes

/-- The handlers of the relay are those of the connections so far. -/
structure Opened (lib : RelayLibrary) (config : RelayServerConfig) (ops : List RelayOp)
    (s : Relay) : Prop where
  clients : ∀ (id : String) client, s.clients[id]? = some client → ClientOpened ops id client
  hosts : ∀ (id : String) host, s.hosts[id]? = some host → HostOpened lib config ops id host

theorem Opened.fresh {ops : List RelayOp} (h : Opened lib config ops s) {id : String}
    (hid : id ∉ ops.filterMap opens) : s.Fresh id := by
  constructor
  · cases hhost : s.hosts[id]? with
    | none => rfl
    | some host =>
      obtain ⟨challenge, now, hostId, routes, proof, rfl, hmem, -⟩ := h.hosts id host hhost
      exact (hid (List.mem_filterMap.mpr ⟨_, hmem, rfl⟩)).elim
  · cases hclient : s.clients[id]? with
    | none => rfl
    | some client =>
      obtain ⟨rfl, now, hmem⟩ := h.clients id client hclient
      exact (hid (List.mem_filterMap.mpr ⟨_, hmem, rfl⟩)).elim

theorem ClientOpened.mono {ops more : List RelayOp} {id : String} {client client' : ClientHandler}
    (h : ClientOpened ops id client) (hchallenge : client'.challenge = client.challenge)
    (hroute : client'.routeId = client.routeId) (hproof : client'.proof = client.proof) :
    ClientOpened (ops ++ more) id client' := by
  obtain ⟨hid, now, hmem⟩ := h
  refine ⟨by rw [hchallenge]; exact hid, now, ?_⟩
  rw [hchallenge, hroute, hproof]
  exact List.mem_append_left more hmem

theorem HostOpened.mono {ops more : List RelayOp} {id : String} {host host' : HostHandler}
    (h : HostOpened lib config ops id host) (hsame : host'.registration = host.registration) :
    HostOpened lib config (ops ++ more) id host' := by
  obtain ⟨challenge, now, hostId, routes, proof, hid, hmem, hadmitted⟩ := h
  exact ⟨challenge, now, hostId, routes, proof, hid, List.mem_append_left more hmem,
    by rw [hsame]; exact hadmitted⟩

theorem opened_moveClient {ops : List RelayOp} (h : Opened lib config ops s) (op : RelayOp)
    {id : String} (phase : ClientPhase) (c : String) (found : ClientHandler)
    (hfound : (s.moveClient id phase).clients[c]? = some found) : ClientOpened (ops ++ [op]) c found := by
  unfold Relay.moveClient at hfound
  split at hfound
  · exact (h.clients c found hfound).mono rfl rfl rfl
  · next client hclient =>
    dsimp only at hfound
    rw [OrderedMap.getElem?_insert] at hfound
    split at hfound
    · next heq =>
      subst heq
      cases hfound
      exact (h.clients _ client hclient).mono rfl rfl rfl
    · exact (h.clients c found hfound).mono rfl rfl rfl

theorem opened_updateHost {ops : List RelayOp} (h : Opened lib config ops s) (op : RelayOp)
    {id : String} {host host' : HostHandler} (hhost : s.hosts[id]? = some host)
    (hsame : host'.registration = host.registration) (other : String) (found : HostHandler)
    (hfound : (s.hosts.insert id host')[other]? = some found) :
    HostOpened lib config (ops ++ [op]) other found := by
  rw [OrderedMap.getElem?_insert] at hfound
  split at hfound
  · next heq =>
    subst heq
    cases hfound
    exact (h.hosts _ host hhost).mono hsame
  · exact (h.hosts other found hfound).mono rfl

theorem Change.opened {ops : List RelayOp} {op : RelayOp} {s' : Relay} {outcome : RelayOutcome}
    (hchange : Change lib config s op s' outcome) (h : Opened lib config ops s) :
    Opened lib config (ops ++ [op]) s' := by
  have hclients : ∀ (id : String) client, s.clients[id]? = some client →
      ClientOpened (ops ++ [op]) id client :=
    fun id client hclient => (h.clients id client hclient).mono rfl rfl rfl
  have hhosts : ∀ (id : String) host, s.hosts[id]? = some host →
      HostOpened lib config (ops ++ [op]) id host :=
    fun id host hhost => (h.hosts id host hhost).mono rfl
  cases hchange with
  | idle hnone => exact ⟨hclients, hhosts⟩
  | @register challenge now hostId routes proof keys hadmitted hroom hown =>
    refine ⟨hclients, ?_⟩
    intro id host hhost
    dsimp only at hhost
    rw [OrderedMap.getElem?_insert] at hhost
    split at hhost
    · next heq =>
      cases hhost
      exact ⟨challenge, now, hostId, routes, proof, heq, by simp, hadmitted⟩
    · exact hhosts id host hhost
  | @claim challenge now routeId proof claim hlookup =>
    refine ⟨?_, hhosts⟩
    intro id client hclient
    dsimp only at hclient
    rw [OrderedMap.getElem?_insert] at hclient
    split at hclient
    · next heq =>
      cases hclient
      exact ⟨heq, now, by simp⟩
    · exact hclients id client hclient
  | fail hclient hopen =>
    refine ⟨opened_moveClient h op _, ?_⟩
    rw [moveClient_same_hosts]
    exact hhosts
  | verify hclient hverifies =>
    refine ⟨opened_moveClient h _ _, ?_⟩
    rw [moveClient_same_hosts]
    exact hhosts
  | take hclient hwaits =>
    refine ⟨opened_moveClient h _ _, ?_⟩
    dsimp only
    rw [moveClient_same_hosts]
    exact hhosts
  | hand hclient hhost hreceiving =>
    exact ⟨opened_moveClient h _ _, opened_updateHost h _ hhost rfl⟩
  | serve hhost hsame hgone => exact ⟨hclients, opened_updateHost h op hhost hsame⟩
  | unguard hhost => exact ⟨hclients, opened_updateHost h _ hhost rfl⟩
  | stop => exact ⟨hclients, hhosts⟩

def handedTo (host : String) : RelayOutcome → Bool
  | .handed other _ => decide (other = host)
  | _ => false

theorem handedTo_eq_true {host : String} {outcome : RelayOutcome} :
    handedTo host outcome = true ↔ ∃ client, outcome = .handed host client := by
  cases outcome <;> simp [handedTo]

/-- What holds after the operations, whose outcomes are given. -/
structure Matching (lib : RelayLibrary) (config : RelayServerConfig) (ops : List RelayOp)
    (outcomes : List RelayOutcome) (s : Relay) : Prop where
  safe : Safe lib s
  opened : Opened lib config ops s
  matched : ∀ host client, .handed host client ∈ outcomes → ∃ handler claim,
    s.clients[client]? = some handler ∧ handler.phase = .matched claim ∧ claim.connectionId = host
  once : ∀ host, (outcomes.filter (handedTo host)).length ≤ 1

theorem Matching.step {ops : List RelayOp} {outcomes : List RelayOutcome}
    (h : Matching lib config ops outcomes s) {op : RelayOp}
    (hnew : ∀ id, opens op = some id → id ∉ ops.filterMap opens) :
    Matching lib config (ops ++ [op]) (outcomes ++ [(s.step lib config op).2])
      (s.step lib config op).1 := by
  have hfresh : ∀ id, opens op = some id → s.Fresh id :=
    fun id hopens => h.opened.fresh (hnew id hopens)
  have hchange := step_change lib config s op
  have hevolves := hchange.evolves hfresh
  have hsafe := hchange.safe h.safe hfresh
  -- a client that was handed over before keeps its registration
  have hbefore : ∀ host client, .handed host client ∈ outcomes → ∃ handler claim,
      s.clients[client]? = some handler ∧ handler.phase = .matched claim ∧
        claim.connectionId = host ∧ (s.step lib config op).1.clients[client]? = some handler := by
    intro host client hmem
    obtain ⟨handler, claim, hclient, hphase, hhost⟩ := h.matched host client hmem
    exact ⟨handler, claim, hclient, hphase, hhost,
      hevolves.matched client handler claim hclient hphase⟩
  refine ⟨hsafe, hchange.opened h.opened, ?_, ?_⟩
  · intro host client hmem
    rcases List.mem_append.mp hmem with hold | hlast
    · obtain ⟨handler, claim, -, hphase, hhost, hclient⟩ := hbefore host client hold
      exact ⟨handler, claim, hclient, hphase, hhost⟩
    · rw [← List.mem_singleton.mp hlast] at hchange
      obtain ⟨handler, claim, -, -, -, hhost, -, -, hclient⟩ := hchange.handed
      exact ⟨_, claim, hclient, rfl, hhost⟩
  · intro host
    rw [List.filter_append, List.length_append]
    by_cases hhanded : handedTo host (s.step lib config op).2 = true
    · have hnone : outcomes.filter (handedTo host) = [] := by
        rw [List.filter_eq_nil_iff]
        intro outcome hmem hsame
        obtain ⟨client, rfl⟩ := handedTo_eq_true.mp hsame
        obtain ⟨client', hlast⟩ := handedTo_eq_true.mp hhanded
        rw [hlast] at hchange
        obtain ⟨handler, claim, hclient, hphase, hhost, -⟩ := hbefore host client hmem
        obtain ⟨handler', claim', -, hclient', hphase', hhost', -⟩ := hchange.handed
        -- two clients would have taken one registration
        have hsame : client = client' := by
          refine h.safe.single client client' handler handler' host hclient hclient' ?_ ?_
          · rw [hphase, ClientPhase.takenFrom, hhost]
          · rw [hphase', ClientPhase.takenFrom, hhost']
        subst hsame
        cases hclient.symm.trans hclient'
        rw [hphase] at hphase'
        cases hphase'
      rw [hnone]
      simp [hhanded]
    · have honce := h.once host
      simpa [hhanded] using honce

/-- The invariant of every run whose connections have identities of their own. -/
theorem matching_run (ops : List RelayOp) (hdistinct : (ops.filterMap opens).Nodup) :
    Matching lib config ops (Trace.outputs (step lib config) empty ops)
      (Trace.final (step lib config) empty ops) := by
  induction ops using List.reverseRecOn with
  | nil =>
    refine ⟨safe_empty, ⟨?_, ?_⟩, ?_, ?_⟩
    · intro id client hclient
      simp [empty] at hclient
    · intro id host hhost
      simp [empty] at hhost
    · intro host client hmem
      simp at hmem
    · intro host
      simp
  | append_singleton ops op ih =>
    rw [List.filterMap_append, List.nodup_append] at hdistinct
    obtain ⟨hbefore, -, hdisjoint⟩ := hdistinct
    rw [Trace.final_append, Trace.outputs_append]
    refine (ih hbefore).step ?_
    intro id hopens hmem
    exact hdisjoint id hmem id (by simp [hopens]) rfl

/-- Once the receiver of a host is gone, no client is handed over to it. -/
theorem never_handed (ops more : List RelayOp) (hdistinct : ((ops ++ more).filterMap opens).Nodup)
    {host : String} {handler : HostHandler}
    (hhandler : (Trace.final (step lib config) empty ops).hosts[host]? = some handler)
    (hgone : handler.receiving = false) (client : String) :
    .handed host client ∉
      Trace.outputs (step lib config) (Trace.final (step lib config) empty ops) more := by
  induction more generalizing ops handler with
  | nil => simp
  | cons op more ih =>
    have hsplit : ops ++ op :: more = (ops ++ [op]) ++ more := by simp
    have hsofar : ((ops ++ [op]).filterMap opens).Nodup := by
      rw [hsplit, List.filterMap_append] at hdistinct
      exact (List.nodup_append.mp hdistinct).1
    rw [List.filterMap_append, List.nodup_append] at hsofar
    have hfresh : ∀ id, opens op = some id →
        (Trace.final (step lib config) empty ops).Fresh id := by
      intro id hopens
      refine (matching_run ops hsofar.1).opened.fresh ?_
      intro hmem
      exact hsofar.2.2 id hmem id (by simp [hopens]) rfl
    have hchange := step_change lib config (Trace.final (step lib config) empty ops) op
    obtain ⟨handler', hhandler', -, hgone'⟩ := (hchange.evolves hfresh).hosts host handler hhandler
    have hlater := ih (ops ++ [op]) (by rw [← hsplit]; exact hdistinct)
      (by rw [Trace.final_append]; exact hhandler') (hgone' hgone)
    rw [Trace.final_append] at hlater
    rw [Trace.outputs_cons, List.mem_cons, not_or]
    refine ⟨?_, hlater⟩
    intro hhanded
    rw [← hhanded] at hchange
    obtain ⟨-, -, found, -, -, -, hfound, hreceiving, -⟩ := hchange.handed
    cases hfound.symm.trans hhandler
    rw [hgone] at hreceiving
    cases hreceiving

end

end Relay

/-- Any interleaving of the sections of connections with distinct identities matches safely. -/
theorem relay_matching_safe (lib : RelayLibrary) (config : RelayServerConfig) (ops : List RelayOp)
    (hdistinct : (ops.filterMap Relay.opens).Nodup) :
    let run := Trace.final (Relay.step lib config) Relay.empty ops
    let outcomes := Trace.outputs (Relay.step lib config) Relay.empty ops
    (∀ (id id' : String) (w w' : WaitingHost), run.waiting[id]? = some w →
      run.waiting[id']? = some w' → id ≠ id' →
      ∀ route, w.routes.contains route = true → w'.routes.contains route = false) ∧
    run.waiting.size ≤ maxWaitingHosts ∧
    (∀ host, (outcomes.filter (Relay.handedTo host)).length ≤ 1) ∧
    (∀ host client, .handed host client ∈ outcomes →
      ∃ challenge now hostId routes hostProof keys, challenge.connectionId = host ∧
        .hello challenge now (.hostHello hostId routes hostProof) ∈ ops ∧
        Relay.admitHost lib config challenge hostId routes hostProof = .ok keys ∧
        ∃ challenge' now' routeId proof key, challenge'.connectionId = client ∧
          .hello challenge' now' (.clientHello routeId proof) ∈ ops ∧ keys[routeId]? = some key ∧
          (ProofContext.client key challenge' routeId).Verifies lib proof) ∧
    (∀ id other : String, other ≠ id →
      (run.step lib config (.dropGuard id)).1.waiting[other]? = run.waiting[other]?) ∧
    ∀ (host : String) handler more, run.hosts[host]? = some handler → handler.receiving = false →
      ((ops ++ more).filterMap Relay.opens).Nodup →
      ∀ client, .handed host client ∉ Trace.outputs (Relay.step lib config) run more := by
  intro run outcomes
  have hrun : Relay.Matching lib config ops outcomes run := Relay.matching_run ops hdistinct
  refine ⟨hrun.safe.disjoint, hrun.safe.bounded, hrun.once, ?_, ?_, ?_⟩
  · intro host client hhanded
    obtain ⟨handler, claim, hclient, hphase, rfl⟩ := hrun.matched host client hhanded
    obtain ⟨found, hfound, hkey⟩ := hrun.safe.found client handler claim hclient (by rw [hphase]; rfl)
    have hverifies := hrun.safe.proven client handler claim hclient (by rw [hphase]; rfl)
    obtain ⟨challenge, now, hostId, routes, proof, hid, hhello, hadmitted⟩ :=
      hrun.opened.hosts _ found hfound
    obtain ⟨hid', now', hhello'⟩ := hrun.opened.clients client handler hclient
    exact ⟨challenge, now, hostId, routes, proof, _, hid, hhello, hadmitted, handler.challenge, now',
      handler.routeId, handler.proof, claim.key, hid', hhello', hkey, hverifies⟩
  · intro id other hother
    show (run.dropGuard id).1.waiting[other]? = _
    unfold Relay.dropGuard
    split
    · rfl
    · split
      · dsimp only
        rw [OrderedMap.getElem?_erase, if_neg fun heq => hother heq.symm]
      · rfl
  · intro host handler more hhandler hgone hmore client
    exact Relay.never_handed ops more hmore hhandler hgone client

namespace Sample

def relayConfig : RelayServerConfig := ⟨relayHostId, relayKey⟩

def proofIn (context : ProofContext) : String := (context.expected relayLibrary).toOption.getD ""

/-- A host registers, a client is matched with it, and the handler of the host returns. -/
def relayOps : List RelayOp :=
  let routes := [⟨routeText, relayLibrary.encode relayKey.val⟩]
  [.hello challenge 5 (.hostHello relayHostId routes
    (proofIn (.host relayKey challenge relayHostId routes))),
    .hello clientChallenge 6 (.clientHello routeText
      (proofIn (.client relayKey clientChallenge routeText))),
    .check clientChallenge.connectionId, .take clientChallenge.connectionId,
    .send clientChallenge.connectionId, .receive challenge.connectionId,
    .dropGuard challenge.connectionId, .dropReceiver challenge.connectionId]

end Sample

open Sample in
theorem relay_matching_safe_matched :
    .handed challenge.connectionId clientChallenge.connectionId ∈
      Trace.outputs (Relay.step relayLibrary relayConfig) Relay.empty relayOps ∧
    ((Trace.outputs (Relay.step relayLibrary relayConfig) Relay.empty relayOps).filter
      (Relay.handedTo challenge.connectionId)).length ≤ 1 :=
  ⟨by decide +kernel,
    (relay_matching_safe relayLibrary relayConfig relayOps (by decide +kernel)).2.2.1 _⟩

end AgentPulse
