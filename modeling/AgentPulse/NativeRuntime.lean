import AgentPulse.NativePort

/-!
# The connection worker of the native channel

One worker thread serves one client at a time. It shares the delivery state
with the port and reaches the bridge through its action handle. The worker is a
machine whose program counter names the next section: one critical section of
the delivery state, one call to the bridge, or one look at the socket. Between
two sections any other thread may run.
-/
namespace AgentPulse

open Std (ExtTreeMap ExtTreeSet)

/-- A configuration that passed its validation. Durations are whole seconds. -/
structure NativeChannelConfig where
  channelId : ChannelId
  pingIntervalSeconds : Nat
  idleTimeoutSeconds : Nat
  maxFrameBytes : Nat
  outboundCapacity : Nat
  hostRunId : String
  framesPositive : 0 < maxFrameBytes
  holdsThree : 3 ≤ outboundCapacity

theorem NativeChannelConfig.kind_slug : isSlug "native" = true := by decide

def NativeChannelConfig.descriptor (self : NativeChannelConfig) : ChannelDescriptor where
  id := self.channelId
  kind := ⟨"native", kind_slug⟩
  displayName := ⟨"Native Local", by decide⟩
  version := some ⟨"0.1.0", by decide⟩
  capabilities := nativeCapabilities

def sessionSyncPageEvents : Nat := 128

inductive ConnectionFailure where
  | recoverable (message : NativeServerMessage)
  | fatal (error : NativeProtocolError)
  deriving DecidableEq, Repr

def protocolError (requestId : Option String) (code : NativeErrorCode) (message : String)
    (recoverable : Bool) : NativeServerMessage :=
  .error requestId code message recoverable

def internalError (requestId : Option String) (message : String) : ConnectionFailure :=
  .recoverable (protocolError requestId .internal message true)

def queueError (capacity : Nat) : NativeProtocolError :=
  .invalidField "outbound queue" s!"reached its {capacity}-frame limit"

/-- `EventSequence::new` on an unsigned 64-bit value. -/
def eventSequence? (value : Nat) : Option EventSequence :=
  if h : 0 < value ∧ value < 2 ^ 64 then some ⟨value, h.1, h.2⟩ else none

section Sections

variable (codec : NativeCodec)

def runtimeFailure (requestId : Option String) (error : SubscriptionError) : ConnectionFailure :=
  let code := match error with
    | .sessionNotFound _ => .sessionNotFound
    | _ => .internal
  .recoverable (protocolError requestId code (codec.subscriptionError error) true)

def interactionResponseFailure (requestId : String) (error : ChannelActionError) :
    ConnectionFailure :=
  let code := match error with
    | .interactionNotPending _ _ => .interactionNotPending
    | .channelNotSubscribed _ _ => .sessionNotSubscribed
    | .capabilityRoute _ => .capabilityUnavailable
    | .providerHandoff _ _ _ => .providerRejected
    | _ => .internal
  .recoverable (protocolError (some requestId) code (codec.channelActionError error) true)

namespace DeliveryState

def enqueueControl (self : DeliveryState) (message : NativeServerMessage) :
    DeliveryState × Except NativeProtocolError Unit :=
  match encodeServerMessage codec message with
  | .error e => (self, .error e)
  | .ok frame => (self.enqueue frame).map id (Except.mapError queueError)

/-- The accepted hello replaces whatever an earlier connection left. -/
def openClient (self : DeliveryState) (sessionCursors : ExtTreeMap SessionId Nat) :
    DeliveryState :=
  { self.clearConnection with client := some ⟨∅, ∅, none, sessionCursors⟩ }

def isSubscribedTo (self : DeliveryState) (sessionId : SessionId) : Bool :=
  self.client.any fun client => client.subscriptions.contains sessionId

def checkDiscover (self : DeliveryState) (requestId : String) : Except ConnectionFailure Unit :=
  match self.client with
  | none => .error (internalError (some requestId) "client state is unavailable")
  | some client =>
    if client.pending.isSome then
      .error (.recoverable (protocolError (some requestId) .invalidRequest
        "wait for the active subscription baseline before discovery" true))
    else .ok ()

def discoveryFrames (requestId : String) (snapshot : ChannelDiscoverySnapshot) :
    Except NativeProtocolError (List Frame) := do
  let started ← encodeServerMessage codec
    (.syncStarted requestId snapshot.providers.length snapshot.sessions.length)
  let providers ← snapshot.providers.mapM fun provider =>
    encodeServerMessage codec (.domain (.discoveryProvider requestId) (.providerDescriptor provider))
  let sessions ← snapshot.sessions.mapM fun entry =>
    encodeServerMessage codec
      (.domain (.discoverySession requestId entry.lastSequence) (.agentSession entry.session))
  let completed ← encodeServerMessage codec (.syncCompleted requestId)
  .ok (started :: providers ++ sessions ++ [completed])

def commitDiscover (self : DeliveryState) (requestId : String)
    (snapshot : ChannelDiscoverySnapshot) : DeliveryState × Except ConnectionFailure Unit :=
  match discoveryFrames codec requestId snapshot with
  | .error e => (self, .error (.fatal e))
  | .ok frames =>
    match self.enqueueBatch frames with
    | (self, .error capacity) => (self, .error (.fatal (queueError capacity)))
    | (self, .ok ()) =>
      let discovered := ExtTreeSet.ofList (snapshot.sessions.map fun entry => entry.session.id)
      (self.updateClient fun client => { client with discovered := discovered }, .ok ())

/-- The first section of a subscribe request. `true` means that it is answered;
`false` that the synchronization is now pending. -/
def beginSubscribe (self : DeliveryState) (requestId : String) (sessionId : SessionId) :
    DeliveryState × Except ConnectionFailure Bool :=
  match self.client with
  | none => (self, .error (internalError (some requestId) "client state is unavailable"))
  | some client =>
    if !client.discovered.contains sessionId then
      (self, .error (.recoverable (protocolError (some requestId) .sessionNotDiscovered
        "Session was not present in the latest discovery snapshot" true)))
    else if client.pending.isSome then
      (self, .error (.recoverable (protocolError (some requestId) .invalidRequest
        "another subscription is being synchronized" true)))
    else if client.subscriptions.contains sessionId then
      match client.sessionCursors[sessionId]?.bind eventSequence? with
      | none =>
        (self, .error (internalError (some requestId)
          "active subscription cursor is unavailable"))
      | some baselineSequence =>
        match encodeServerMessage codec (.subscriptionResult requestId sessionId
            .alreadySubscribed baselineSequence 0 0 false) with
        | .error e => (self, .error (.fatal e))
        | .ok frame =>
          match self.enqueue frame with
          | (self, .error capacity) => (self, .error (.fatal (queueError capacity)))
          | (self, .ok ()) => (self, .ok true)
    else (self.setPending (some ⟨requestId, sessionId, [], [], false⟩), .ok false)

/-- The cursor from which the next page of a session is requested. -/
def cursor (self : DeliveryState) (sessionId : SessionId) : Nat :=
  (self.client.bind fun client => client.sessionCursors[sessionId]?).getD 0

/-- The cursor, and after a final page the subscription, of a synchronized session. -/
def recordSync (self : DeliveryState) (sessionId : SessionId) (outcome : SessionSyncOutcome) :
    DeliveryState :=
  self.updateClient fun client =>
    { client with
      sessionCursors := client.sessionCursors.insert sessionId outcome.throughSequence
      subscriptions :=
        if outcome.subscribed then client.subscriptions.insert sessionId
        else client.subscriptions }

/-- The last section of a subscribe request: the collected frames go out as one
batch, then the cursor and the subscription are recorded. -/
def commitSubscribe (self : DeliveryState) (requestId : String) (sessionId : SessionId)
    (outcome : SessionSyncOutcome) : DeliveryState × Except ConnectionFailure Unit :=
  let status := if outcome.subscribed then .subscribed else .catchingUp
  match eventSequence? outcome.throughSequence with
  | none =>
    (self, .error (internalError (some requestId) "invalid synchronized Event cursor"))
  | some baselineSequence =>
    match encodeServerMessage codec (.subscriptionResult requestId sessionId status
        baselineSequence outcome.pendingInteractionCount outcome.eventCount outcome.reset) with
    | .error e => (self, .error (.fatal e))
    | .ok resultFrame =>
      match self.client with
      | none => (self, .error (internalError none "client disconnected during subscription"))
      | some client =>
        match client.pending with
        | none =>
          (self, .error (internalError none "subscription synchronization state disappeared"))
        | some pending =>
          -- the pending frames leave the count before the batch is measured
          let self := self.setPending none
          match encodeServerMessage codec (.syncCompleted requestId) with
          | .error e => (self, .error (.fatal e))
          | .ok completed =>
            match self.enqueueBatch
                (resultFrame :: pending.frames ++ completed :: pending.trailingFrames) with
            | (self, .error capacity) => (self, .error (.fatal (queueError capacity)))
            | (self, .ok ()) =>
              (self.recordSync sessionId outcome, .ok ())

def removeSubscription (self : DeliveryState) (sessionId : SessionId) : DeliveryState :=
  self.updateClient fun client =>
    { client with subscriptions := client.subscriptions.erase sessionId }

/-- The sessions that a disconnect unsubscribes from, in identifier order. -/
def subscriptionList (self : DeliveryState) : List SessionId :=
  match self.client with
  | none => []
  | some client => client.subscriptions.toList

end DeliveryState

end Sections

inductive WorkerPc where
  /-- Top of the loop: look at the listener. -/
  | accepting
  /-- Credential and abort checks. -/
  | checking
  | draining
  /-- Timeouts, then one read from the socket. -/
  | reading
  | hello (sessionCursors : ExtTreeMap SessionId Nat) (resumeAccepted : Bool)
  | discover (requestId : String)
  | discoverSnapshot (requestId : String)
  | discoverBatch (requestId : String) (snapshot : ChannelDiscoverySnapshot)
  | subscribe (requestId : String) (sessionId : SessionId)
  | subscribeCursor (requestId : String) (sessionId : SessionId)
  | subscribeSync (requestId : String) (sessionId : SessionId) (afterSequence : Nat)
  | subscribeFailed (requestId : String) (sessionId : SessionId) (error : SubscriptionError)
  | subscribeCommit (requestId : String) (sessionId : SessionId) (outcome : SessionSyncOutcome)
  | unsubscribe (requestId : String) (sessionId : SessionId)
  | unsubscribeRecord (requestId : String) (sessionId : SessionId) (outcome : UnsubscribeOutcome)
  | respond (requestId : String) (response : InteractionResponse)
  | submitResponse (requestId : String) (response : InteractionResponse)
  | command (requestId : String) (command : AgentCommand)
  | submitCommand (requestId : String) (command : AgentCommand)
  /-- The result of a request; it must fit into the queue. -/
  | reply (message : NativeServerMessage)
  /-- A recoverable error; it may be lost. -/
  | reject (message : NativeServerMessage)
  | disconnect (last : Bool)
  | unsubscribing (remaining : List SessionId) (last : Bool)
  | stopped

structure Connection where
  connectionId : Uuid
  authenticatedClientId : Option String
  handshaken : Bool
  /-- What the worker has taken from the output queue since the hello, in order. -/
  drained : List Frame

/-- What the worker learns at its listener or socket. The sections that look at
neither ignore it. -/
inductive WorkerInput where
  | proceed
  | accept (connectionId : Uuid) (authenticatedClientId : Option String)
  /-- The transport fails, closes or times out, or the credential is revoked. -/
  | fail
  /-- A text frame that does not decode. -/
  | malformed
  | message (message : NativeClientMessage)

/-- A provider event between its reduction and its last handoff. The publishing
thread holds the bridge. `sessionView` is due to those routes that want it;
`handoff` is the view that is due next, to the first route. -/
structure Publication where
  event : AgentEvent
  sessionView : Option AgentSession
  routes : List EventRoute
  handoff : Option AgentSession
  deliveries : List ChannelDeliveryResult

/-- The first route is finished. -/
def Publication.next (self : Publication) (delivery : ChannelDeliveryResult) : Publication :=
  { self with
    routes := self.routes.tail
    handoff := none
    deliveries := self.deliveries ++ [delivery] }

/-- The session view follows only an accepted event. -/
def Publication.afterEvent (self : Publication) (route : EventRoute) :
    Except BoxAdapterError Unit → Publication
  | .error source => self.next (.failed ⟨route.channelId, .event, source⟩)
  | .ok () =>
    match route.deliverSession, self.sessionView with
    | true, some session => { self with handoff := some session }
    | _, _ => self.next (.delivered route.channelId)

def Publication.afterView (self : Publication) (route : EventRoute) :
    Except BoxAdapterError Unit → Publication
  | .error source => self.next (.failed ⟨route.channelId, .session, source⟩)
  | .ok () => self.next (.delivered route.channelId)

structure NativeSystem (Other : Type) where
  bridge : Bridge (NativeWorld Other)
  publication : Option Publication
  pc : WorkerPc
  connection : Option Connection

namespace NativeSystem

variable {Other : Type}

def delivery (self : NativeSystem Other) : DeliveryState := self.bridge.world.delivery

def setDelivery (self : NativeSystem Other) (delivery : DeliveryState) : NativeSystem Other :=
  { self with bridge := { self.bridge with world := { self.bridge.world with delivery := delivery } } }

/-- The end of a processed message. -/
def settle (self : NativeSystem Other) : Except ConnectionFailure Unit → NativeSystem Other
  | .ok () =>
    { self with
      pc := .accepting
      connection := self.connection.map fun connection => { connection with handshaken := true } }
  | .error (.recoverable message) => { self with pc := .reject message }
  | .error (.fatal _) => { self with pc := .disconnect false }

section Worker

variable (codec : NativeCodec) (config : NativeChannelConfig)

def processHello (self : NativeSystem Other) (authenticatedClientId : Option String) :
    NativeClientMessage → NativeSystem Other
  | .hello clientId _ _ supportedProtocolVersions hostRunId sessionCursors =>
    if authenticatedClientId.any (· ≠ clientId) then
      self.settle (.error (.fatal (.invalidField "client_id"
        "client hello identity does not match the authenticated upgrade")))
    else if !supportedProtocolVersions.contains v2ProtocolVersion then
      self.settle (.error (.fatal (.invalidField "supported_protocol_versions"
        "AgentPulse JSON protocol v2 is required")))
    else
      let resumeAccepted := hostRunId == some config.hostRunId
      { self with pc := .hello (if resumeAccepted then sessionCursors else ∅) resumeAccepted }
  | _ => self.settle (.error (.fatal (.invalidField "first client message"
      "expected client_hello")))

def processReadyMessage (self : NativeSystem Other) : NativeClientMessage → NativeSystem Other
  | .hello _ _ _ _ _ _ => self.settle (.error (.fatal (.invalidField "client_hello"
      "client hello may only be sent once")))
  | .discover requestId => { self with pc := .discover requestId }
  | .subscribe requestId sessionId => { self with pc := .subscribe requestId sessionId }
  | .unsubscribe requestId sessionId => { self with pc := .unsubscribe requestId sessionId }
  | .submitInteractionResponse requestId response => { self with pc := .respond requestId response }
  | .submitCommand requestId command => { self with pc := .command requestId command }

def serverHello (connectionId : Uuid) (resumeAccepted : Bool) : NativeServerMessage :=
  .hello connectionId.toString config.descriptor v2ProtocolVersion config.maxFrameBytes
    config.pingIntervalSeconds config.idleTimeoutSeconds config.hostRunId resumeAccepted

/-- One look at the listener. A second client is turned away without any effect
on the first; a listener failure ends the worker. -/
def pollListener (self : NativeSystem Other) (input : WorkerInput) : NativeSystem Other :=
  match input with
  | .fail => { self with pc := .disconnect true }
  | .accept connectionId authenticatedClientId =>
    if self.connection.isSome then { self with pc := .checking }
    else
      { self with
        connection := some ⟨connectionId, authenticatedClientId, false, []⟩
        pc := .checking }
  | _ => if self.connection.isSome then { self with pc := .checking } else self

/-- One look at the socket. -/
def readSocket (self : NativeSystem Other) (connection : Connection) :
    WorkerInput → NativeSystem Other
  | .message message =>
    match validateClientMessage codec message with
    | .error _ => { self with pc := .disconnect false }
    | .ok () =>
      if connection.handshaken then self.processReadyMessage message
      else self.processHello config connection.authenticatedClientId message
  | .malformed => { self with pc := .disconnect false }
  | .fail => { self with pc := .disconnect false }
  | _ => { self with pc := .accepting }

/-- Takes one frame from the output queue and sends it. -/
def drainOne (self : NativeSystem Other) (connection : Connection) (input : WorkerInput) :
    NativeSystem Other :=
  match self.delivery.outgoing with
  | [] => { self with pc := .reading }
  | frame :: rest =>
    let self := self.setDelivery { self.delivery with outgoing := rest }
    { self with
      connection := some { connection with drained := connection.drained ++ [frame] }
      pc := match input with
        | .fail => .disconnect false
        | _ => .draining }

/-- The sections that touch only the delivery state, the socket or the worker. -/
def localStep (self : NativeSystem Other) (input : WorkerInput) : NativeSystem Other :=
  match self.pc with
  | .accepting => self.pollListener input
  | .checking =>
    match input with
    | .fail => { self with pc := .disconnect false }
    | _ =>
      if self.delivery.abortReason.isSome then { self with pc := .disconnect false }
      else { self with pc := .draining }
  | .draining =>
    match self.connection with
    | none => { self with pc := .accepting }
    | some connection => self.drainOne connection input
  | .reading =>
    match self.connection with
    | none => { self with pc := .accepting }
    | some connection => self.readSocket codec config connection input
  | .hello sessionCursors resumeAccepted =>
    match self.connection with
    | none => { self with pc := .accepting }
    | some connection =>
      { self.setDelivery (self.delivery.openClient sessionCursors) with
        connection := some { connection with drained := [] }
        pc := .reply (serverHello config connection.connectionId resumeAccepted) }
  | .discover requestId =>
    match self.delivery.checkDiscover requestId with
    | .error e => self.settle (.error e)
    | .ok () => { self with pc := .discoverSnapshot requestId }
  | .discoverBatch requestId snapshot =>
    let (delivery, result) := self.delivery.commitDiscover codec requestId snapshot
    (self.setDelivery delivery).settle result
  | .subscribe requestId sessionId =>
    match self.delivery.beginSubscribe codec requestId sessionId with
    | (delivery, .error e) => (self.setDelivery delivery).settle (.error e)
    | (delivery, .ok true) => (self.setDelivery delivery).settle (.ok ())
    | (delivery, .ok false) =>
      { self.setDelivery delivery with pc := .subscribeCursor requestId sessionId }
  | .subscribeCursor requestId sessionId =>
    { self with pc := .subscribeSync requestId sessionId (self.delivery.cursor sessionId) }
  | .subscribeFailed requestId _ e =>
    (self.setDelivery (self.delivery.setPending none)).settle
      (.error (runtimeFailure codec (some requestId) e))
  | .subscribeCommit requestId sessionId outcome =>
    let (delivery, result) := self.delivery.commitSubscribe codec requestId sessionId outcome
    (self.setDelivery delivery).settle result
  | .unsubscribeRecord requestId sessionId outcome =>
    let status := match outcome with
      | .unsubscribed => .unsubscribed
      | .notSubscribed => .notSubscribed
    { self.setDelivery (self.delivery.removeSubscription sessionId) with
      pc := .reply (.unsubscriptionResult requestId sessionId status) }
  | .respond requestId response =>
    if self.delivery.isSubscribedTo response.sessionId then
      { self with pc := .submitResponse requestId response }
    else
      self.settle (.error (.recoverable (protocolError (some requestId) .sessionNotSubscribed
        "the current Native connection is not subscribed to the response Session" true)))
  | .command requestId command =>
    if self.delivery.isSubscribedTo command.sessionId then
      { self with pc := .submitCommand requestId command }
    else
      self.settle (.error (.recoverable (protocolError (some requestId) .sessionNotSubscribed
        "the current Native connection is not subscribed to the command Session" true)))
  | .reply message =>
    let (delivery, result) := self.delivery.enqueueControl codec message
    (self.setDelivery delivery).settle (result.mapError .fatal)
  | .reject message =>
    { self.setDelivery (self.delivery.enqueueControl codec message).1 with pc := .accepting }
  | .disconnect last => { self with pc := .unsubscribing self.delivery.subscriptionList last }
  | .unsubscribing [] last =>
    { self.setDelivery self.delivery.clearConnection with
      connection := none
      pc := if last then .stopped else .accepting }
  | _ => self

variable (otherPorts : Ports Other)

/-- The sections that call the bridge. They wait while another thread holds it. -/
def bridgeStep (self : NativeSystem Other) : NativeSystem Other :=
  let ports := nativePorts codec config.channelId otherPorts
  match self.pc with
  | .discoverSnapshot requestId =>
    { self with pc := .discoverBatch requestId self.bridge.discoverySnapshot }
  | .subscribeSync requestId sessionId afterSequence =>
    match self.bridge.syncSession ports config.channelId sessionId afterSequence
        sessionSyncPageEvents with
    | (bridge, .ok outcome) =>
      { self with bridge := bridge, pc := .subscribeCommit requestId sessionId outcome }
    | (bridge, .error e) =>
      { self with bridge := bridge, pc := .subscribeFailed requestId sessionId e }
  | .unsubscribe requestId sessionId =>
    match self.bridge.unsubscribe config.channelId sessionId with
    | (bridge, .ok outcome) =>
      { self with bridge := bridge, pc := .unsubscribeRecord requestId sessionId outcome }
    | (bridge, .error e) =>
      { self with bridge := bridge }.settle (.error (runtimeFailure codec (some requestId) e))
  | .submitResponse requestId response =>
    match self.bridge.handleInteractionResponse ports config.channelId response with
    | (bridge, .ok ()) =>
      { self with
        bridge := bridge
        pc := .reply (.interactionResponseResult requestId response.sessionId
          response.requestId.toString) }
    | (bridge, .error e) =>
      { self with bridge := bridge }.settle
        (.error (interactionResponseFailure codec requestId e))
  | .submitCommand requestId command =>
    match self.bridge.handleCommand ports config.channelId command with
    | (bridge, .ok ()) =>
      { self with
        bridge := bridge
        pc := .reply (.commandResult requestId command.sessionId command.id.toString) }
    | (bridge, .error e) =>
      { self with bridge := bridge }.settle
        (.error (interactionResponseFailure codec requestId e))
  | .unsubscribing (sessionId :: remaining) last =>
    { self with
      bridge := (self.bridge.unsubscribe config.channelId sessionId).1
      pc := .unsubscribing remaining last }
  | _ => self

end Worker

end NativeSystem

/-- The sections that call the bridge. -/
def WorkerPc.callsBridge : WorkerPc → Bool
  | .discoverSnapshot _ | .subscribeSync _ _ _ | .unsubscribe _ _ | .submitResponse _ _
  | .submitCommand _ _ | .unsubscribing (_ :: _) _ => true
  | _ => false

/-- The points between two client frames. -/
def WorkerPc.betweenFrames : WorkerPc → Bool
  | .accepting | .checking | .draining | .reading | .stopped => true
  | _ => false

/-- Operations that other threads make on the bridge. They act for other
channels; provider events are published step by step. -/
def BridgeOp.isForeign (channelId : ChannelId) : BridgeOp → Bool
  | .registerProvider _ => true
  | .registerChannel _ => true
  | .subscribe target _ => target ≠ channelId
  | .syncSession target _ _ _ => target ≠ channelId
  | .unsubscribe target _ => target ≠ channelId
  | .unsubscribeChannel target => target ≠ channelId
  | .handleProviderEvent _ _ => false
  | .handleInteractionResponse target _ => target ≠ channelId
  | .handleCommand target _ => target ≠ channelId

inductive NativeInput where
  | worker (input : WorkerInput)
  | publish (providerId : ProviderId) (event : AgentEvent)
  /-- The next handoff of the publication in progress. -/
  | deliver
  | foreign (op : BridgeOp)

namespace NativeSystem

variable {Other : Type} (codec : NativeCodec) (config : NativeChannelConfig)
  (otherPorts : Ports Other)

/-- The answer to a publication, given when it ends. -/
abbrev Answer := Option (Except ProviderEventError ProviderEventReport)

def publish (self : NativeSystem Other) (providerId : ProviderId) (event : AgentEvent) :
    NativeSystem Other × Answer :=
  match self.bridge.beginProviderEvent providerId event with
  | (bridge, .error e) => ({ self with bridge := bridge }, some (.error e))
  | (bridge, .ok none) => ({ self with bridge := bridge }, some (.ok ⟨.alreadyApplied, []⟩))
  | (bridge, .ok (some (routes, sessionView))) =>
    ({ self with bridge := bridge, publication := some ⟨event, sessionView, routes, none, []⟩ },
      none)

def publicationAnswer (deliveries : List ChannelDeliveryResult) :
    Except ProviderEventError ProviderEventReport :=
  let report : ProviderEventReport := ⟨.applied, deliveries⟩
  if report.hasFailures then .error (.channelHandoffs report) else .ok report

/-- One port call of the fan-out, or its end. -/
def deliverNext (self : NativeSystem Other) (publication : Publication) :
    NativeSystem Other × Answer :=
  let ports := nativePorts codec config.channelId otherPorts
  match publication.routes, publication.handoff with
  | [], _ =>
    ({ self with publication := none }, some (publicationAnswer publication.deliveries))
  | route :: _, none =>
    if !self.bridge.channels.contains route.channelId then
      ({ self with publication := none }, some (.error (.channelNotFound route.channelId)))
    else
      let (world, result) := ports self.bridge.world
        (.deliverEvent route.channelId publication.event route.route)
      ({ self with
        bridge := { self.bridge with world := world }
        publication := some (publication.afterEvent route result) }, none)
  | route :: _, some session =>
    let (world, result) := ports self.bridge.world (.deliverSession route.channelId session)
    ({ self with
      bridge := { self.bridge with world := world }
      publication := some (publication.afterView route result) }, none)

/-- One step of the worker, of a publication or of another thread. A step that
needs the bridge while a publication holds it does nothing yet. -/
def step (self : NativeSystem Other) : NativeInput → NativeSystem Other × Answer
  | .worker input =>
    if self.pc.callsBridge then
      if self.publication.isSome then (self, none)
      else (self.bridgeStep codec config otherPorts, none)
    else (self.localStep codec config input, none)
  | .publish providerId event =>
    if self.publication.isSome then (self, none) else self.publish providerId event
  | .deliver =>
    match self.publication with
    | none => (self, none)
    | some publication => self.deliverNext codec config otherPorts publication
  | .foreign op =>
    if self.publication.isSome || !op.isForeign config.channelId then (self, none)
    else
      ({ self with bridge :=
          (self.bridge.step (nativePorts codec config.channelId otherPorts) op).1 }, none)

/-- A host on which only the native channel is registered. -/
def start (sessionConfig : SessionAggregateConfig) (others : Other) : NativeSystem Other where
  bridge := ((Bridge.withSessionConfig sessionConfig
    ⟨DeliveryState.new config.outboundCapacity, others⟩).registerChannel config.descriptor).1
  publication := none
  pc := .accepting
  connection := none

def run (sessionConfig : SessionAggregateConfig) (others : Other) (inputs : List NativeInput) :
    NativeSystem Other :=
  Trace.final (step codec config otherPorts) (start config sessionConfig others) inputs

end NativeSystem

namespace Sample

/-- An encoder that accepts every message. -/
def codec : NativeCodec where
  encodeJson := fun _ => .ok ()
  uuidError := id
  subscriptionError := fun _ => "subscription"
  channelActionError := fun _ => "action"

def requestId (n : Nat) : String := (Ident.numbered .command n).toString

def native (outboundCapacity : Nat) (holdsThree : 3 ≤ outboundCapacity) : NativeChannelConfig where
  channelId := (channel 0).id
  pingIntervalSeconds := 15
  idleTimeoutSeconds := 45
  maxFrameBytes := 1024
  outboundCapacity := outboundCapacity
  hostRunId := requestId 0
  framesPositive := by decide
  holdsThree := holdsThree

/-- The worker alone, undisturbed. -/
def proceed (steps : Nat) : List NativeInput := List.replicate steps (.worker .proceed)

def frame (message : NativeClientMessage) : List NativeInput := [.worker (.message message)]

/-- One event, published and handed to every subscriber. -/
def publish (event : AgentEvent) : List NativeInput :=
  [.publish (provider 0).id event, .deliver, .deliver, .deliver]

/-- A session with two events, and a client that has discovered it. -/
def discovered : List NativeInput :=
  .foreign (.registerProvider (provider 0)) :: publish (started 0 0) ++ publish (message 0 1) ++
    .worker (.accept (Ident.numbered .command 9).uuid none) :: proceed 2 ++
    frame (.hello (requestId 1) "client" none [2] none ∅) ++ proceed 6 ++
    frame (.discover (requestId 2)) ++ proceed 3

/-- The client asks for the session, up to the commit of the page. -/
def subscribing : List NativeInput :=
  proceed 7 ++ frame (.subscribe (requestId 3) (started 0 0).sessionId) ++ proceed 3

end Sample

end AgentPulse
