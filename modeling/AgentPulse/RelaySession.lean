import AgentPulse.RelayConfig
import AgentPulse.RelayProtocol
import AgentPulse.RelayServer

/-!
# A host connection from both ends

The connector of a host and its handler at the relay exchange control messages
until a client is there. Each end reads what the other wrote, in order; the other
connections of the relay, the clocks, the stop flags and failures of the network
come in between. An end that has returned takes no further step.
-/
namespace AgentPulse

open Std (ExtTreeMap)
open RelayConfig (RelayHostConnectionConfig)

/-- What `Uuid::now_v7` returns. -/
abbrev UuidV7 : Type := { uuid : Uuid // uuid.getVersionNum = 7 }

/-- The handler of a host connection at the relay. -/
inductive HandlerPhase where
  /-- The challenge is written and the first message not read. -/
  | greeting
  /-- The first message was refused. -/
  | refused
  /-- In the loop of `handle_host`. -/
  | waiting
  | pinging (ping : UuidV7)
  | tunnel (client : String)
  deriving DecidableEq

/-- The connector, up to the tunnel. -/
inductive ConnectorPhase where
  | connecting
  | waiting (connectionId : String)
  | tunnel (peer : String)
  deriving DecidableEq

/-- An end of the connection, and the error that it has returned. -/
structure SessionEnd (φ : Type) where
  phase : φ
  result : Option RelayError
  deriving DecidableEq

/-- The payloads of the frames that are written and not read, whether the connector
still has its callback, and how often it has called it. -/
structure RelaySession where
  relay : Relay
  handler : SessionEnd HandlerPhase
  connector : SessionEnd ConnectorPhase
  toHost : List (List UInt8)
  toRelay : List (List UInt8)
  onWaiting : Bool
  reported : Nat

/-- The two ends of one connection, each with what it is configured with. -/
structure SessionConfig where
  server : RelayServerConfig
  host : RelayHostConnectionConfig
  routes : List RouteRegistration
  challenge : RelayChallenge

inductive SessionOp where
  /-- A section of another connection, or the end of this one's guards. -/
  | others (op : RelayOp)
  | handlerReads (now : Int)
  /-- `recv_timeout` returns without a client. -/
  | handlerPings (ping : UuidV7)
  | handlerReceives
  | handlerStops
  /-- Every sender of the channel is gone. -/
  | handlerAbandoned
  | handlerFails (operation source : String)
  | connectorReads (now : Int) (stop current : Bool)
  /-- The connection is refused by its canceller, or the loop sees the flag. -/
  | connectorStops
  | connectorFails (operation source : String)

def RelayChallenge.message (lib : RelayLibrary) (self : RelayChallenge) : RelayMessage :=
  .challenge self.connectionId (lib.encode self.nonce.val) self.expiresAtUnixSeconds

/-- The error frame that goes with a refusal; `full` is whether the registrations are
at their limit. -/
def refusalFrame (full : Bool) : RelayError → Option RelayMessage
  | .timeout _ => some (.error .invalidHandshake "authentication challenge expired" true)
  | .authentication => some (.error .authenticationFailed "authentication failed" false)
  | .hostBusy =>
    if full then some (.error .resourceLimit "Relay waiting registration capacity is full" true)
    else some (.error .hostBusy "a matching Host route is already waiting" true)
  | .protocol _ =>
    some (.error .invalidHandshake "first endpoint message must authenticate a role" false)
  | _ => none

namespace RelaySession

section

variable (lib : RelayLibrary) (json : RelayJson) (config : SessionConfig)

def handlerFailed (self : RelaySession) (error : RelayError) : RelaySession :=
  { self with handler := { self.handler with result := some error } }

def connectorFailed (self : RelaySession) (error : RelayError) : RelaySession :=
  { self with connector := { self.connector with result := some error } }

/-- The next message of the handler; one that cannot be encoded ends it. -/
def writeRelay (self : RelaySession) (message : RelayMessage) : RelaySession :=
  match encodeRelay lib json message with
  | .error error => self.handlerFailed error
  | .ok payload => { self with toHost := self.toHost ++ [payload] }

def inPhase (self : RelaySession) (phase : HandlerPhase) : RelaySession :=
  { self with handler := { self.handler with phase := phase } }

/-- A refusal is reported as far as it has a frame. -/
def refuse (self : RelaySession) (error : RelayError) : RelaySession :=
  match refusalFrame (decide (self.relay.waiting.size ≥ maxWaitingHosts)) error with
  | none => (self.inPhase .refused).handlerFailed error
  | some message =>
    let written := (self.inPhase .refused).writeRelay lib json message
    if written.handler.result.isSome then written else written.handlerFailed error

/-- `handle_outer` after its read. A client goes on in a handler of its own. -/
def greet (self : RelaySession) (now : Int) (message : EndpointMessage) : RelaySession :=
  match self.relay.handleOuter lib config.server config.challenge now message with
  | (relay, .registered _) =>
    ({ self with relay := relay }.inPhase .waiting).writeRelay lib json
      (.hostWaiting config.challenge.connectionId)
  | (_, .refused error) => self.refuse lib json error
  | (relay, _) => { self with relay := relay }.inPhase .refused

/-- The answer to a ping. -/
def answered (self : RelaySession) (ping : UuidV7) (message : EndpointMessage) : RelaySession :=
  if message = .pong ping.val.toString then self.inPhase .waiting
  else self.handlerFailed (.protocol "Host did not answer the matching Relay Ping")

def handlerReads (self : RelaySession) (now : Int) : RelaySession :=
  match self.handler.phase, self.toRelay with
  | .greeting, payload :: rest =>
    match decodeEndpoint lib json payload with
    | .error error => { self with toRelay := rest }.handlerFailed error
    | .ok message => { self with toRelay := rest }.greet lib json config now message
  | .pinging ping, payload :: rest =>
    match decodeEndpoint lib json payload with
    | .error error => { self with toRelay := rest }.handlerFailed error
    | .ok message => { self with toRelay := rest }.answered ping message
  | _, _ => self

def handlerReceives (self : RelaySession) : RelaySession :=
  match self.relay.hosts[config.challenge.connectionId]? with
  | some ⟨_, some client, _, _, _⟩ =>
    ({ self with relay := (self.relay.receive config.challenge.connectionId).1 }.inPhase
      (.tunnel client)).writeRelay lib json (.tunnelReady client)
  | _ => self

def handlerStep (self : RelaySession) : SessionOp → RelaySession
  | .handlerReads now => self.handlerReads lib json config now
  | .handlerPings ping =>
    if self.handler.phase = .waiting then
      (self.inPhase (.pinging ping)).writeRelay lib json (.ping ping.val.toString)
    else self
  | .handlerReceives =>
    if self.handler.phase = .waiting then self.handlerReceives lib json config else self
  | .handlerStops => if self.handler.phase = .waiting then self.handlerFailed .stopped else self
  | .handlerAbandoned =>
    if self.handler.phase = .waiting then self.handlerFailed .hostUnavailable else self
  | .handlerFails operation source => self.handlerFailed (.io operation source)
  | _ => self

/-- `routes.sort_by` of the route identifiers. -/
def sortRoutes (routes : List RouteRegistration) : List RouteRegistration :=
  routes.mergeSort fun left right => decide (left.routeId ≤ right.routeId)

def mapRemoteError (code : RelayErrorCode) (message : String) : RelayError :=
  match code with
  | .authenticationFailed => .authentication
  | .hostUnavailable => .hostUnavailable
  | .hostBusy => .hostBusy
  | _ => .protocol message

def readChallenge (now : Int) (message : RelayMessage) :
    Except RelayError (String × Digest × Int64) :=
  match message with
  | .challenge connectionId nonce expiresAt =>
    if expiresAt.toInt ≤ now then .error (.timeout "authenticate the Relay challenge")
    else do
      let bytes ← (lib.decode nonce).mapError .base64
      if h : bytes.length = 32 then .ok (connectionId, ⟨bytes, h⟩, expiresAt)
      else .error (.invalidField "nonce" "must contain 32 bytes")
  | _ => .error (.protocol "Relay did not begin with a challenge")

/-- The hello that answers a challenge. -/
def hostHello (connectionId : String) (nonce : Digest) (expiresAt : Int64) :
    Except RelayError EndpointMessage := do
  let routes := sortRoutes config.routes
  let proof ← hostProof lib config.host.hostAuthenticationKey connectionId nonce expiresAt
    config.host.hostId routes
  .ok (.hostHello config.host.hostId routes proof)

def introduce (self : RelaySession) (now : Int) (message : RelayMessage) : RelaySession :=
  match readChallenge lib now message with
  | .error error => self.connectorFailed error
  | .ok (connectionId, nonce, expiresAt) =>
    match (hostHello lib config connectionId nonce expiresAt).bind (encodeEndpoint lib json) with
    | .error error => self.connectorFailed error
    | .ok payload =>
      { self with
        toRelay := self.toRelay ++ [payload]
        connector := { self.connector with phase := .waiting connectionId } }

/-- `on_waiting.take()`, and the call. -/
def report (self : RelaySession) : RelaySession :=
  if self.onWaiting then { self with onWaiting := false, reported := self.reported + 1 } else self

/-- One turn of the loop after its read. -/
def connectorTurn (self : RelaySession) (connectionId : String) (current : Bool) :
    RelayMessage → RelaySession
  | .hostWaiting waitingId =>
    if waitingId = connectionId then
      if current then self.report
      else self.connectorFailed .routesChanged
    else self.connectorFailed (.protocol "unexpected message while waiting for a client")
  | .ping pingId =>
    if current then
      match encodeEndpoint lib json (.pong pingId) with
      | .error error => self.connectorFailed error
      | .ok payload => { self with toRelay := self.toRelay ++ [payload] }
    else self.connectorFailed .routesChanged
  | .tunnelReady peer => { self with connector := { self.connector with phase := .tunnel peer } }
  | .error code message _ => self.connectorFailed (mapRemoteError code message)
  | .challenge .. => self.connectorFailed (.protocol "unexpected message while waiting for a client")

def connectorReads (self : RelaySession) (now : Int) (stop current : Bool) : RelaySession :=
  match self.connector.phase, self.toHost with
  | .connecting, payload :: rest =>
    match decodeRelay lib json payload with
    | .error error => { self with toHost := rest }.connectorFailed error
    | .ok message => { self with toHost := rest }.introduce lib json config now message
  | .waiting connectionId, payload :: rest =>
    match decodeRelay lib json payload with
    | .error error => { self with toHost := rest }.connectorFailed error
    | .ok message =>
      if stop then { self with toHost := rest }.connectorFailed .stopped
      else { self with toHost := rest }.connectorTurn lib json connectionId current message
  | _, _ => self

def connectorStep (self : RelaySession) : SessionOp → RelaySession
  | .connectorReads now stop current => self.connectorReads lib json config now stop current
  | .connectorStops =>
    match self.connector.phase with
    | .connecting | .waiting _ => self.connectorFailed .stopped
    | .tunnel _ => self
  | .connectorFails operation source => self.connectorFailed (.io operation source)
  | _ => self

/-- Connections have identities of their own, and the guards of a handler are
dropped when it returns. -/
def elsewhere (self : RelaySession) : RelayOp → Bool
  | .hello other _ _ =>
    other.connectionId ≠ config.challenge.connectionId ∧
      self.relay.hosts[other.connectionId]?.isNone ∧
      self.relay.clients[other.connectionId]?.isNone
  | .receive connectionId => connectionId ≠ config.challenge.connectionId
  | .dropGuard connectionId | .dropReceiver connectionId =>
    connectionId ≠ config.challenge.connectionId ∨ self.handler.result.isSome
  | .check _ | .take _ | .send _ | .stop => true

def start : RelaySession :=
  ({ relay := .empty, handler := ⟨.greeting, none⟩, connector := ⟨.connecting, none⟩, toHost := [],
     toRelay := [], onWaiting := true, reported := 0 } : RelaySession).writeRelay lib json (config.challenge.message lib)

def step (self : RelaySession) (op : SessionOp) : RelaySession × Unit :=
  match op with
  | .others op =>
    (if self.elsewhere config op then
      { self with relay := (self.relay.step lib config.server op).1 } else self, ())
  | .connectorReads .. | .connectorStops | .connectorFails .. =>
    (if self.connector.result.isNone then self.connectorStep lib json config op else self, ())
  | _ => (if self.handler.result.isNone then self.handlerStep lib json config op else self, ())

def run (ops : List SessionOp) : RelaySession :=
  Trace.final (step lib json config) (start lib json config) ops

end

end RelaySession

/-- The payloads hold these messages. -/
def Carried {M : Type} (decode : List UInt8 → Except RelayError M) (payloads : List (List UInt8))
    (messages : List M) : Prop :=
  payloads.map decode = messages.map Except.ok

namespace Carried

variable {M : Type} {decode : List UInt8 → Except RelayError M} {payloads rest : List (List UInt8)}
  {messages : List M} {payload : List UInt8} {message : M}

theorem nil : Carried decode [] [] := rfl

theorem of_nil (h : payloads = []) : Carried decode payloads [] := by
  rw [h]
  exact nil

theorem append (h : Carried decode payloads messages) (hpayload : decode payload = .ok message) :
    Carried decode (payloads ++ [payload]) (messages ++ [message]) := by
  unfold Carried at h ⊢
  rw [List.map_append, List.map_append, h]
  simp [hpayload]

theorem cons (h : Carried decode (payload :: rest) messages) :
    ∃ message later, messages = message :: later ∧ decode payload = .ok message ∧
      Carried decode rest later := by
  unfold Carried at h
  cases messages with
  | nil => cases h
  | cons message later =>
    rw [List.map_cons, List.map_cons] at h
    obtain ⟨hpayload, hrest⟩ := List.cons.inj h
    exact ⟨message, later, rfl, hpayload, hrest⟩

end Carried

/-- The handler has made the registration. -/
def HandlerPhase.registered : HandlerPhase → Bool
  | .waiting | .pinging _ | .tunnel _ => true
  | .greeting | .refused => false

/-- What the handler is going to read. -/
def HandlerPhase.Expects (lib : RelayLibrary) (config : SessionConfig) :
    HandlerPhase → EndpointMessage → Prop
  | .greeting, message =>
    RelaySession.hostHello lib config config.challenge.connectionId config.challenge.nonce
      config.challenge.expiresAtUnixSeconds = .ok message
  | .pinging ping, message => message = .pong ping.val.toString
  | _, _ => False

/-- What the connector is going to read. -/
def ConnectorPhase.Expects (lib : RelayLibrary) (config : SessionConfig) :
    ConnectorPhase → RelayMessage → Prop
  | .connecting, message => message = config.challenge.message lib
  | .waiting connectionId, message =>
    message = .hostWaiting connectionId ∨ (∃ ping : UuidV7, message = .ping ping.val.toString) ∨
      (∃ client, message = .tunnelReady client) ∨
      ∃ code text recoverable, message = .error code text recoverable
  | .tunnel _, _ => False

/-- How the phases of the two ends and the messages between them go together. -/
def InStep (lib : RelayLibrary) (config : SessionConfig) :
    HandlerPhase → ConnectorPhase → List RelayMessage → List EndpointMessage → Prop
  | .greeting, .connecting, down, up =>
    down.Sublist [config.challenge.message lib] ∧ up = []
  | .greeting, .waiting id, down, up =>
    id = config.challenge.connectionId ∧ down = [] ∧
      ∃ hello, HandlerPhase.greeting.Expects lib config hello ∧ up.Sublist [hello]
  | .refused, .waiting id, down, up =>
    id = config.challenge.connectionId ∧ up = [] ∧
      ∃ code text recoverable, down.Sublist [.error code text recoverable]
  | .waiting, .waiting id, down, up =>
    id = config.challenge.connectionId ∧ up = [] ∧
      down.Sublist [.hostWaiting config.challenge.connectionId]
  | .pinging ping, .waiting id, down, up =>
    id = config.challenge.connectionId ∧
      (up = [] ∧ down.Sublist [.hostWaiting config.challenge.connectionId, .ping ping.val.toString] ∨
        down = [] ∧ up = [.pong ping.val.toString])
  | .tunnel client, .waiting id, down, up =>
    id = config.challenge.connectionId ∧ up = [] ∧
      down.Sublist [.hostWaiting config.challenge.connectionId, .tunnelReady client]
  | .tunnel client, .tunnel peer, down, up => client = peer ∧ down = [] ∧ up = []
  | _, _, _, _ => False

/-- The part of a short list after its first element. -/
theorem tail_of_sublist_pair {α : Type} {x a b : α} {rest : List α}
    (h : (x :: rest).Sublist [a, b]) : x = a ∧ rest.Sublist [b] ∨ x = b ∧ rest = [] := by
  rcases List.sublist_cons_iff.mp h with hlater | ⟨front, heq, hfront⟩
  · rcases List.sublist_cons_iff.mp hlater with hnone | ⟨front, heq, hfront⟩
    · cases hnone
    · obtain ⟨rfl, rfl⟩ := List.cons.inj heq
      exact .inr ⟨rfl, List.sublist_nil.mp hfront⟩
  · obtain ⟨rfl, rfl⟩ := List.cons.inj heq
    exact .inl ⟨rfl, hfront⟩

theorem tail_of_sublist_single {α : Type} {x a : α} {rest : List α}
    (h : (x :: rest).Sublist [a]) : x = a ∧ rest = [] := by
  rcases List.sublist_cons_iff.mp h with hnone | ⟨front, heq, hfront⟩
  · cases hnone
  · obtain ⟨rfl, rfl⟩ := List.cons.inj heq
    exact ⟨rfl, List.sublist_nil.mp hfront⟩

namespace InStep

variable {lib : RelayLibrary} {config : SessionConfig} {handler : HandlerPhase}
  {connector : ConnectorPhase} {down : List RelayMessage} {up : List EndpointMessage}

/-- What the connector can make of the message that it reads while it waits. -/
inductive Read (config : SessionConfig) : HandlerPhase → List RelayMessage →
    List EndpointMessage → RelayMessage → Prop
  | waiting {handler rest up} (hregistered : handler.registered = true) :
    Read config handler rest up (.hostWaiting config.challenge.connectionId)
  | ping (ping : UuidV7) : Read config (.pinging ping) [] [] (.ping ping.val.toString)
  | tunnel (client : String) : Read config (.tunnel client) [] [] (.tunnelReady client)
  | error {handler rest up} (code : RelayErrorCode) (text : String) (recoverable : Bool) :
    Read config handler rest up (.error code text recoverable)

/-- A connector that waits expects what it reads, and the rest stays in step. -/
theorem read {id : String} {message : RelayMessage} {rest : List RelayMessage}
    (h : InStep lib config handler (.waiting id) (message :: rest) up) :
    id = config.challenge.connectionId ∧ InStep lib config handler (.waiting id) rest up ∧
      Read config handler rest up message := by
  cases handler with
  | greeting =>
    obtain ⟨-, hdown, -⟩ := h
    cases hdown
  | refused =>
    obtain ⟨hid, hup, code, text, recoverable, hdown⟩ := h
    obtain ⟨rfl, rfl⟩ := tail_of_sublist_single hdown
    exact ⟨hid, ⟨hid, hup, code, text, recoverable, List.nil_sublist _⟩, .error code text recoverable⟩
  | waiting =>
    obtain ⟨hid, hup, hdown⟩ := h
    obtain ⟨rfl, rfl⟩ := tail_of_sublist_single hdown
    exact ⟨hid, ⟨hid, hup, List.nil_sublist _⟩, .waiting rfl⟩
  | pinging ping =>
    obtain ⟨hid, ⟨rfl, hdown⟩ | ⟨hdown, -⟩⟩ := h
    · rcases tail_of_sublist_pair hdown with ⟨rfl, hrest⟩ | ⟨rfl, rfl⟩
      · exact ⟨hid, ⟨hid, .inl ⟨rfl, hrest.trans (List.sublist_cons_self _ _)⟩⟩, .waiting rfl⟩
      · exact ⟨hid, ⟨hid, .inl ⟨rfl, List.nil_sublist _⟩⟩, .ping ping⟩
    · cases hdown
  | tunnel client =>
    obtain ⟨hid, rfl, hdown⟩ := h
    rcases tail_of_sublist_pair hdown with ⟨rfl, hrest⟩ | ⟨rfl, rfl⟩
    · exact ⟨hid, ⟨hid, rfl, hrest.trans (List.sublist_cons_self _ _)⟩, .waiting rfl⟩
    · exact ⟨hid, ⟨hid, rfl, List.nil_sublist _⟩, .tunnel client⟩

/-- A connector without a challenge: the relay has said nothing else. -/
theorem connecting (h : InStep lib config handler .connecting down up) :
    handler = .greeting ∧ down.Sublist [config.challenge.message lib] ∧ up = [] := by
  cases handler with
  | greeting => exact ⟨rfl, h⟩
  | refused => cases h
  | waiting => cases h
  | pinging ping => cases h
  | tunnel client => cases h

/-- The first message of the host is its hello. -/
theorem hello {message : EndpointMessage} {rest : List EndpointMessage}
    (h : InStep lib config .greeting connector down (message :: rest)) :
    connector = .waiting config.challenge.connectionId ∧ down = [] ∧ rest = [] ∧
      HandlerPhase.greeting.Expects lib config message := by
  cases connector with
  | connecting => cases h.2
  | waiting id =>
    obtain ⟨rfl, hdown, hello, hexpected, hup⟩ := h
    obtain ⟨rfl, rfl⟩ := tail_of_sublist_single hup
    exact ⟨rfl, hdown, rfl, hexpected⟩
  | tunnel peer => cases h

/-- The answer to a ping is the pong. -/
theorem pong {ping : UuidV7} {message : EndpointMessage} {rest : List EndpointMessage}
    (h : InStep lib config (.pinging ping) connector down (message :: rest)) :
    connector = .waiting config.challenge.connectionId ∧ down = [] ∧ rest = [] ∧
      message = .pong ping.val.toString := by
  cases connector with
  | connecting => cases h
  | waiting id =>
    obtain ⟨rfl, ⟨hup, -⟩ | ⟨hdown, hup⟩⟩ := h
    · cases hup
    · obtain ⟨rfl, rfl⟩ := List.cons.inj hup
      exact ⟨rfl, hdown, rfl, rfl⟩
  | tunnel peer => cases h

/-- A handler in its loop has a waiting connector on the other end. -/
theorem waits (h : InStep lib config .waiting connector down up) :
    connector = .waiting config.challenge.connectionId ∧ up = [] ∧
      down.Sublist [.hostWaiting config.challenge.connectionId] := by
  cases connector with
  | connecting => cases h
  | waiting id =>
    obtain ⟨rfl, hrest⟩ := h
    exact ⟨rfl, hrest⟩
  | tunnel peer => cases h

/-- Whatever is in flight is expected by the end that reads it. -/
theorem expected (h : InStep lib config handler connector down up) :
    (∀ message rest, down = message :: rest → connector.Expects lib config message) ∧
    ∀ message rest, up = message :: rest → handler.Expects lib config message := by
  constructor
  · rintro message rest rfl
    cases connector with
    | connecting => exact (tail_of_sublist_single h.connecting.2.1).1
    | waiting id =>
      obtain ⟨rfl, -, hread⟩ := h.read
      cases hread with
      | waiting _ => exact .inl rfl
      | ping ping => exact .inr (.inl ⟨ping, rfl⟩)
      | tunnel client => exact .inr (.inr (.inl ⟨client, rfl⟩))
      | error code text recoverable => exact .inr (.inr (.inr ⟨code, text, recoverable, rfl⟩))
    | tunnel peer =>
      cases handler with
      | greeting => cases h
      | refused => cases h
      | waiting => cases h
      | pinging ping => cases h
      | tunnel client => cases h.2.1
  · rintro message rest rfl
    cases handler with
    | greeting => exact h.hello.2.2.2
    | refused =>
      cases connector with
      | connecting => cases h
      | waiting id => cases h.2.1
      | tunnel peer => cases h
    | waiting => cases h.waits.2.1
    | pinging ping => exact h.pong.2.2.2
    | tunnel client =>
      cases connector with
      | connecting => cases h
      | waiting id => cases h.2.1
      | tunnel peer => cases h.2.2

end InStep

section Codec

variable {lib : RelayLibrary} {json : RelayJson}

theorem decodeRelay_encode (hjson : json.Lawful) {message : RelayMessage} {payload : List UInt8}
    (h : encodeRelay lib json message = .ok payload) : decodeRelay lib json payload = .ok message := by
  obtain ⟨⟨⟩, hcheck, hencoded⟩ := Fallible.bind_eq_ok.mp h
  obtain ⟨hdecoded, -, -⟩ :=
    relayDecode_encode hjson (RelayMessage.deserialize_serialize message) hencoded
  unfold decodeRelay
  rw [hdecoded]
  show (validateRelay lib message >>= fun _ => _) = _
  rw [hcheck]
  rfl

theorem decodeEndpoint_encode (hjson : json.Lawful) {message : EndpointMessage}
    {payload : List UInt8} (h : encodeEndpoint lib json message = .ok payload) :
    decodeEndpoint lib json payload = .ok message := by
  obtain ⟨⟨⟩, hcheck, hencoded⟩ := Fallible.bind_eq_ok.mp h
  obtain ⟨hdecoded, -, -⟩ :=
    relayDecode_encode hjson (EndpointMessage.deserialize_serialize message) hencoded
  unfold decodeEndpoint
  rw [hdecoded]
  show (validateEndpoint lib message >>= fun _ => _) = _
  rw [hcheck]
  rfl

theorem validate_of_decodeEndpoint {message : EndpointMessage} {payload : List UInt8}
    (h : decodeEndpoint lib json payload = .ok message) : validateEndpoint lib message = .ok () := by
  obtain ⟨found, -, hchecked⟩ := Fallible.bind_eq_ok.mp h
  obtain ⟨⟨⟩, hcheck, hsame⟩ := Fallible.bind_eq_ok.mp hchecked
  cases hsame
  exact hcheck

theorem insertRouteKeys_of_validate {previous : Option String} {routes : List RouteRegistration}
    (h : validateRoutes lib previous routes = .ok ()) (before : ExtTreeMap String Digest) :
    ∃ keys, Relay.insertRouteKeys lib before routes = .ok keys := by
  induction routes generalizing previous before with
  | nil => exact ⟨before, rfl⟩
  | cons route rest ih =>
    obtain ⟨_, -, h⟩ := Fallible.bind_eq_ok.mp h
    obtain ⟨key, hkey, h⟩ := Fallible.bind_eq_ok.mp h
    split at h
    · cases h
    · obtain ⟨keys, hkeys⟩ := ih h (before.insert route.routeId key)
      exact ⟨keys, Fallible.bind_eq_ok.mpr ⟨key, hkey, hkeys⟩⟩

/-- Routes that pass the check have keys. -/
theorem routeKeys_of_validate {previous : Option String} {routes : List RouteRegistration}
    (h : validateRoutes lib previous routes = .ok ()) :
    ∃ keys, Relay.routeKeys lib routes = .ok keys :=
  insertRouteKeys_of_validate h ∅

theorem route_of_insertRouteKeys {routes : List RouteRegistration}
    {before keys : ExtTreeMap String Digest}
    (h : Relay.insertRouteKeys lib before routes = .ok keys) {routeId : String} {key : Digest}
    (hkey : keys[routeId]? = some key) :
    before[routeId]? = some key ∨ ∃ route ∈ routes, route.routeId = routeId ∧
      relayDecode32 lib "authentication_key" route.authenticationKey = .ok key := by
  induction routes generalizing before with
  | nil =>
    cases h
    exact .inl hkey
  | cons route rest ih =>
    obtain ⟨own, hown, h⟩ := Fallible.bind_eq_ok.mp h
    rcases ih h with hfront | ⟨found, hmem, hfound⟩
    · rw [OrderedMap.getElem?_insert] at hfront
      split at hfront
      · next hid =>
        cases hfront
        exact .inr ⟨route, List.mem_cons_self, hid, hown⟩
      · exact .inl hfront
    · exact .inr ⟨found, List.mem_cons_of_mem _ hmem, hfound⟩

/-- Each key is that of a route. -/
theorem route_of_routeKeys {routes : List RouteRegistration} {keys : ExtTreeMap String Digest}
    (h : Relay.routeKeys lib routes = .ok keys) {routeId : String} {key : Digest}
    (hkey : keys[routeId]? = some key) :
    ∃ route ∈ routes, route.routeId = routeId ∧
      relayDecode32 lib "authentication_key" route.authenticationKey = .ok key := by
  rcases route_of_insertRouteKeys h hkey with hempty | hroute
  · simp at hempty
  · exact hroute

/-- A host that has the key of the relay is admitted with its routes. -/
theorem admitHost_hello {config : SessionConfig}
    (hhost : config.host.hostId = config.server.hostId)
    (hkey : config.host.hostAuthenticationKey = config.server.hostAuthenticationKey)
    {message : EndpointMessage} (hhello : HandlerPhase.greeting.Expects lib config message)
    (hvalid : validateEndpoint lib message = .ok ()) :
    ∃ proof keys, message =
        .hostHello config.host.hostId (RelaySession.sortRoutes config.routes) proof ∧
      Relay.admitHost lib config.server config.challenge config.host.hostId
        (RelaySession.sortRoutes config.routes) proof = .ok keys := by
  obtain ⟨proof, hproof, hmessage⟩ := Fallible.bind_eq_ok.mp hhello
  cases hmessage
  obtain ⟨⟨⟩, -, hvalid⟩ := Fallible.bind_eq_ok.mp hvalid
  split at hvalid
  · cases hvalid
  obtain ⟨⟨⟩, hroutes, hvalid⟩ := Fallible.bind_eq_ok.mp hvalid
  obtain ⟨digest, hdigest, -⟩ := Fallible.bind_eq_ok.mp hvalid
  obtain ⟨keys, hkeys⟩ := routeKeys_of_validate hroutes
  refine ⟨proof, keys, rfl, ?_⟩
  have hverified : verifyProof lib proof proof = true := by
    unfold verifyProof
    rw [hdigest]
    exact decide_eq_true rfl
  unfold Relay.admitHost
  rw [← hkey, hproof]
  show (if config.host.hostId ≠ config.server.hostId ∨ verifyProof lib proof proof = false then _
    else _) = _
  rw [if_neg (by simp [hhost, hverified])]
  exact hkeys

/-- What the connector makes of the challenge. -/
theorem readChallenge_message (hlib : lib.Lawful) (challenge : RelayChallenge) (now : Int) :
    RelaySession.readChallenge lib now (challenge.message lib) =
      if challenge.expiresAtUnixSeconds.toInt ≤ now then
        .error (.timeout "authenticate the Relay challenge")
      else .ok (challenge.connectionId, challenge.nonce, challenge.expiresAtUnixSeconds) := by
  unfold RelaySession.readChallenge RelayChallenge.message
  dsimp only
  split
  · rfl
  · rw [hlib.decode_encode]
    show (if h : challenge.nonce.val.length = 32 then _ else _) = _
    rw [dif_pos challenge.nonce.property]

end Codec

namespace Relay

section

variable {lib : RelayLibrary} {config : RelayServerConfig} {s s' : Relay}

/-- Nothing happens to a connection that no operation is about. -/
theorem Change.unused {op : RelayOp} {outcome : RelayOutcome}
    (hchange : Change lib config s op s' outcome) {id : String} (h : s.Fresh id)
    (hop : opens op ≠ some id) : s'.Fresh id := by
  obtain ⟨hhosts, hclients⟩ := h
  have hhost : ∀ (other : String) (host host' : HostHandler), s.hosts[other]? = some host →
      (s.hosts.insert other host')[id]? = none := by
    intro other host host' hother
    rw [OrderedMap.getElem?_insert, if_neg, hhosts]
    rintro rfl
    rw [hhosts] at hother
    cases hother
  have hclient : ∀ (other : String) (client : ClientHandler) (phase : ClientPhase),
      s.clients[other]? = some client → (s.moveClient other phase).clients[id]? = none := by
    intro other client phase hother
    unfold Relay.moveClient
    rw [hother]
    dsimp only
    rw [OrderedMap.getElem?_insert, if_neg, hclients]
    rintro rfl
    rw [hclients] at hother
    cases hother
  cases hchange with
  | idle hnone => exact ⟨hhosts, hclients⟩
  | register hadmitted hroom hown =>
    refine ⟨?_, hclients⟩
    dsimp only
    rw [OrderedMap.getElem?_insert, if_neg, hhosts]
    exact fun he => hop (congrArg some he)
  | claim hlookup =>
    refine ⟨hhosts, ?_⟩
    dsimp only
    rw [OrderedMap.getElem?_insert, if_neg, hclients]
    exact fun he => hop (congrArg some he)
  | fail hfound hopen => exact ⟨by rw [moveClient_same_hosts, hhosts], hclient _ _ _ hfound⟩
  | verify hfound hverifies => exact ⟨by rw [moveClient_same_hosts, hhosts], hclient _ _ _ hfound⟩
  | take hfound hwaits =>
    refine ⟨?_, hclient _ _ _ hfound⟩
    dsimp only
    rw [moveClient_same_hosts, hhosts]
  | hand hfound hserved hreceiving => exact ⟨hhost _ _ _ hserved, hclient _ _ _ hfound⟩
  | serve hserved hsame hgone => exact ⟨hhost _ _ _ hserved, hclients⟩
  | unguard hserved => exact ⟨hhost _ _ _ hserved, hclients⟩
  | stop => exact ⟨hhosts, hclients⟩

/-- A client in the channel of a host was matched with it. -/
def Delivered (s : Relay) : Prop :=
  ∀ (id : String) (host : HostHandler) client, s.hosts[id]? = some host →
    host.channel = some client → ∃ handler claim, s.clients[client]? = some handler ∧
      handler.phase = .matched claim ∧ claim.connectionId = id

theorem delivered_empty : Delivered empty := by
  intro id host client hhost
  simp [empty] at hhost

/-- The channels that a step fills: only a send does, for a client that it matches. -/
theorem step_channel (op : RelayOp) {id client : String} {host : HostHandler}
    (hhost : (s.step lib config op).1.hosts[id]? = some host)
    (hchannel : host.channel = some client) :
    (∃ before, s.hosts[id]? = some before ∧ before.channel = some client) ∨
      (s.step lib config op).2 = .handed id client := by
  have hkept : s.hosts[id]? = some host →
      ∃ before, s.hosts[id]? = some before ∧ before.channel = some client :=
    fun hold => ⟨host, hold, hchannel⟩
  have hserved : ∀ (other : String) (before after : HostHandler), s.hosts[other]? = some before →
      (after.channel = some client → before.channel = some client) →
      (s.hosts.insert other after)[id]? = some host →
      ∃ before, s.hosts[id]? = some before ∧ before.channel = some client := by
    intro other before after hbefore hsame hfound
    rw [OrderedMap.getElem?_insert] at hfound
    split at hfound
    · next he =>
      cases hfound
      exact ⟨before, he ▸ hbefore, hsame hchannel⟩
    · exact hkept hfound
  cases op with
  | hello challenge now message =>
    simp only [Relay.step, handleOuter] at hhost
    split at hhost
    · exact .inl (hkept hhost)
    · split at hhost
      · exact .inl (hkept hhost)
      · cases message with
        | hostHello hostId routes proof =>
          simp only [handleHost] at hhost
          split at hhost
          · exact .inl (hkept hhost)
          · split at hhost
            · exact .inl (hkept hhost)
            · split at hhost
              · exact .inl (hkept hhost)
              · rw [OrderedMap.getElem?_insert] at hhost
                split at hhost
                · cases hhost
                  cases hchannel
                · exact .inl (hkept hhost)
        | clientHello routeId proof =>
          simp only [handleClient] at hhost
          split at hhost
          · exact .inl (hkept hhost)
          · split at hhost <;> exact .inl (hkept hhost)
        | pong pingId => exact .inl (hkept hhost)
  | check other =>
    simp only [Relay.step, check] at hhost
    split at hhost
    · split at hhost
      · rw [moveClient_same_hosts] at hhost
        exact .inl (hkept hhost)
      · split at hhost <;> rw [moveClient_same_hosts] at hhost <;> exact .inl (hkept hhost)
    · exact .inl (hkept hhost)
  | take other =>
    simp only [Relay.step, take] at hhost
    split at hhost
    · split at hhost <;> dsimp only at hhost <;> rw [moveClient_same_hosts] at hhost <;>
        exact .inl (hkept hhost)
    · exact .inl (hkept hhost)
  | send other =>
    simp only [Relay.step, send] at hhost ⊢
    split at hhost
    · next claim hclient =>
      split at hhost
      · exact .inl (hkept hhost)
      · next found hfound =>
        split at hhost
        · rw [moveClient_same_hosts] at hhost
          exact .inl (hkept hhost)
        · next hreceiving =>
          split at hhost
          · exact .inl (hkept hhost)
          next hempty =>
            dsimp only at hhost
            rw [OrderedMap.getElem?_insert] at hhost
            split at hhost
            · next he =>
              cases hhost
              cases hchannel
              right
              rw [if_neg hreceiving, if_neg hempty, he]
            · exact .inl (hkept hhost)
    · exact .inl (hkept hhost)
  | receive other =>
    simp only [Relay.step, receive] at hhost
    split at hhost
    · exact .inl (hkept hhost)
    · next found hfound =>
      split at hhost
      · exact .inl (hserved other found _ hfound (fun hnone => by cases hnone) hhost)
      · exact .inl (hkept hhost)
  | dropGuard other =>
    simp only [Relay.step, dropGuard] at hhost
    split at hhost
    · exact .inl (hkept hhost)
    · next found hfound =>
      split at hhost
      · exact .inl (hserved other found { found with guarded := false } hfound
          (fun hsame => hsame) hhost)
      · exact .inl (hkept hhost)
  | dropReceiver other =>
    simp only [Relay.step, dropReceiver] at hhost
    split at hhost
    · exact .inl (hkept hhost)
    · next found hfound =>
      split at hhost
      · exact .inl (hserved other found { found with receiving := false } hfound
          (fun hsame => hsame) hhost)
      · exact .inl (hkept hhost)
  | stop => exact .inl (hkept hhost)

theorem delivered_step (h : Delivered s) (op : RelayOp)
    (hfresh : ∀ id, opens op = some id → s.Fresh id) : Delivered (s.step lib config op).1 := by
  intro id host client hhost hchannel
  have hchange := step_change lib config s op
  rcases step_channel op hhost hchannel with ⟨before, hbefore, hold⟩ | hhanded
  · obtain ⟨handler, claim, hclient, hphase, hid⟩ := h id before client hbefore hold
    exact ⟨handler, claim, (hchange.evolves hfresh).matched client handler claim hclient hphase,
      hphase, hid⟩
  · rw [hhanded] at hchange
    obtain ⟨handler, claim, -, -, -, hid, -, -, hclient⟩ := hchange.handed
    exact ⟨_, claim, hclient, rfl, hid⟩

end

end Relay

end AgentPulse
