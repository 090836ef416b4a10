import AgentPulse.Bridge

/-!
# The runtime host

`RuntimeHost` owns the bridge and one source for every registered endpoint. A
source gets a handle with each start, bound to its endpoint and guarded by a
permit that is revoked when the start fails and when the host stops. Handles can
be cloned and kept, so the host of the model remembers every permit it ever made
and a handle is the position of its permit.

What the sources do is not part of the host: a call of the host that runs their
callbacks takes what each of them does there, the calls it makes through handles
and what it returns. Calls from inside a port are left out.
-/
namespace AgentPulse

inductive ChannelSubscriptionScope where
  | persistent
  | sourceGeneration
  deriving DecidableEq, Repr

inductive RuntimeEndpointId where
  | provider (providerId : ProviderId)
  | channel (channelId : ChannelId)
  deriving DecidableEq, Repr

inductive RuntimeHostState where
  | stopped
  | started
  | stopFailed
  deriving DecidableEq, Repr

inductive AdapterLifecycleState where
  | stopped
  | running
  | startFailed
  | stopFailed
  deriving DecidableEq, Repr

inductive AdapterLifecyclePhase where
  | start
  | stop
  deriving DecidableEq, Repr

structure AdapterLifecycleError where
  endpoint : RuntimeEndpointId
  phase : AdapterLifecyclePhase
  source : BoxAdapterError
  deriving DecidableEq, Repr

inductive AdapterLifecycleResult where
  | succeeded (endpoint : RuntimeEndpointId)
  | skipped (endpoint : RuntimeEndpointId) (state : AdapterLifecycleState)
  | failed (error : AdapterLifecycleError)
  deriving DecidableEq, Repr

namespace AdapterLifecycleResult

def isSuccess : AdapterLifecycleResult → Bool
  | .failed _ => false
  | _ => true

/-- The result of a callback of the endpoint. -/
def ofResult (endpoint : RuntimeEndpointId) :
    Except AdapterLifecycleError Unit → AdapterLifecycleResult
  | .ok () => .succeeded endpoint
  | .error error => .failed error

end AdapterLifecycleResult

inductive RuntimeLifecycleOutcome where
  | started
  | alreadyStarted
  | stopped
  | alreadyStopped
  | stopFailed
  deriving DecidableEq, Repr

inductive RuntimeLifecycleOperation where
  | start
  | stop
  deriving DecidableEq, Repr

structure RuntimeLifecycleReport where
  operation : RuntimeLifecycleOperation
  outcome : RuntimeLifecycleOutcome
  adapters : List AdapterLifecycleResult
  deriving DecidableEq, Repr

def RuntimeLifecycleReport.hasFailures (self : RuntimeLifecycleReport) : Bool :=
  self.adapters.any fun result => !result.isSuccess

inductive RuntimeLifecycleError where
  | cleanupRequired
  | adapterFailures (report : RuntimeLifecycleReport)
  deriving DecidableEq, Repr

inductive RuntimeRegistrationError where
  | hostNotStopped (state : RuntimeHostState)
  | endpoint (error : EndpointRegistrationError)
  deriving DecidableEq, Repr

/-- Why the host did not take an event from the provider's handle. -/
inductive ProviderEventIngressError where
  | providerMismatch (expected actual : ProviderId)
  | inactive (providerId : ProviderId)
  | hostDropped (providerId : ProviderId)
  | bridgeAccess
  | bridge (error : ProviderEventError)
  deriving DecidableEq, Repr

/-- The report of an event that was committed although a handoff failed. -/
def ProviderEventIngressError.report : ProviderEventIngressError → Option ProviderEventReport
  | .bridge (.channelHandoffs report) => some report
  | _ => none

/-- Why the host did not take a call through the channel's handle. -/
inductive ChannelActionIngressError where
  | channelMismatch (expected actual : ChannelId)
  | inactive (channelId : ChannelId)
  | hostDropped (channelId : ChannelId)
  | bridgeAccess
  | bridge (error : ChannelActionError)
  | subscription (error : SubscriptionError)
  deriving DecidableEq, Repr

/-- A permit, with the endpoint of the handle it guards. -/
structure IngressPermit where
  endpoint : RuntimeEndpointId
  active : Bool
  deriving DecidableEq, Repr

/-- The calls of a channel's handle. -/
inductive ChannelCall where
  | discoverySnapshot
  | subscribe (sessionId : SessionId)
  | syncSession (sessionId : SessionId) (afterSequence maxEvents : Nat)
  | unsubscribe (sessionId : SessionId)
  | submitInteractionResponse (response : InteractionResponse)
  | submitCommand (command : AgentCommand)
  deriving DecidableEq, Repr

/-- What a channel's handle returns for them. -/
inductive ChannelAnswer where
  | discovery (snapshot : ChannelDiscoverySnapshot)
  | subscribed (outcome : SubscribeOutcome)
  | synced (outcome : SessionSyncOutcome)
  | unsubscribed (outcome : UnsubscribeOutcome)
  | submitted
  deriving DecidableEq, Repr

inductive IngressCall where
  | publishEvent (event : AgentEvent)
  | channel (call : ChannelCall)
  deriving DecidableEq, Repr

inductive IngressResult where
  | event (result : Except ProviderEventIngressError ProviderEventReport)
  | channel (result : Except ChannelActionIngressError ChannelAnswer)
  deriving DecidableEq

/-- The permit did not let the call in. -/
def IngressResult.isInactive : IngressResult → Bool
  | .event (.error (.inactive _)) => true
  | .channel (.error (.inactive _)) => true
  | _ => false

/-- A call through a handle. -/
structure Ingress where
  handle : Nat
  call : IngressCall
  deriving DecidableEq, Repr

/-- What handles reach: the bridge, and the permits of all handles ever given.
`calls` records the callbacks of the sources that were run. -/
structure SharedBridge (World : Type) where
  bridge : Bridge World
  permits : List IngressPermit
  calls : List (RuntimeEndpointId × AdapterLifecyclePhase)

namespace SharedBridge

variable {World : Type} (ports : Ports World)

/-- `IngressPermit::revoke`. -/
def revoke (self : SharedBridge World) (permit : Nat) : SharedBridge World :=
  { self with permits := self.permits.modify permit fun p => { p with active := false } }

/-- `ProviderEventHandle::publish_event`. -/
def publishEvent (self : SharedBridge World) (providerId : ProviderId) (permit : IngressPermit)
    (event : AgentEvent) :
    SharedBridge World × Except ProviderEventIngressError ProviderEventReport :=
  if permit.active then
    match self.bridge.handleProviderEvent ports providerId event with
    | (bridge, .ok report) => ({ self with bridge := bridge }, .ok report)
    | (bridge, .error error) => ({ self with bridge := bridge }, .error (.bridge error))
  else (self, .error (.inactive providerId))

/-- `ChannelActionHandle::with_bridge_access`. -/
def withBridgeAccess {R : Type} (self : SharedBridge World) (channelId : ChannelId)
    (permit : IngressPermit)
    (operation : Bridge World → Bridge World × Except ChannelActionIngressError R) :
    SharedBridge World × Except ChannelActionIngressError R :=
  if permit.active then
    match operation self.bridge with
    | (bridge, result) => ({ self with bridge := bridge }, result)
  else (self, .error (.inactive channelId))

/-- What the calls of a channel's handle do with the bridge. -/
def channelOperation (channelId : ChannelId) (bridge : Bridge World) :
    ChannelCall → Bridge World × Except ChannelActionIngressError ChannelAnswer
  | .discoverySnapshot => (bridge, .ok (.discovery bridge.discoverySnapshot))
  | .subscribe sessionId =>
    (bridge.subscribe ports channelId sessionId).map id fun result =>
      (result.map .subscribed).mapError .subscription
  | .syncSession sessionId afterSequence maxEvents =>
    (bridge.syncSession ports channelId sessionId afterSequence maxEvents).map id fun result =>
      (result.map .synced).mapError .subscription
  | .unsubscribe sessionId =>
    (bridge.unsubscribe channelId sessionId).map id fun result =>
      (result.map .unsubscribed).mapError .subscription
  | .submitInteractionResponse response =>
    (bridge.handleInteractionResponse ports channelId response).map id fun result =>
      (result.map fun _ => .submitted).mapError .bridge
  | .submitCommand command =>
    (bridge.handleCommand ports channelId command).map id fun result =>
      (result.map fun _ => .submitted).mapError .bridge

/-- A call through a handle. There is none through a handle that was never given, nor
one of the other kind of endpoint. -/
def ingress (self : SharedBridge World) (entry : Ingress) :
    SharedBridge World × Option IngressResult :=
  match self.permits[entry.handle]? with
  | none => (self, none)
  | some permit =>
    match permit.endpoint, entry.call with
    | .provider providerId, .publishEvent event =>
      (self.publishEvent ports providerId permit event).map id fun result => some (.event result)
    | .channel channelId, .channel call =>
      (self.withBridgeAccess channelId permit fun bridge =>
        channelOperation ports channelId bridge call).map id fun result => some (.channel result)
    | .provider _, .channel _ => (self, none)
    | .channel _, .publishEvent _ => (self, none)

def ingresses (self : SharedBridge World) (entries : List Ingress) : SharedBridge World :=
  entries.foldl (fun shared entry => (shared.ingress ports entry).1) self

end SharedBridge

inductive RegisteredSource where
  | provider (providerId : ProviderId)
  | channel (channelId : ChannelId) (subscriptionScope : ChannelSubscriptionScope)
  deriving DecidableEq, Repr

namespace RegisteredSource

def endpoint : RegisteredSource → RuntimeEndpointId
  | .provider providerId => .provider providerId
  | .channel channelId _ => .channel channelId

def sourceGenerationChannel : RegisteredSource → Option ChannelId
  | .channel channelId .sourceGeneration => some channelId
  | .channel _ .persistent => none
  | .provider _ => none

end RegisteredSource

/-- What a source does in a callback: calls through handles, then a result. -/
structure Callback where
  entries : List Ingress
  result : Except BoxAdapterError Unit

structure RegisteredAdapter where
  source : RegisteredSource
  state : AdapterLifecycleState
  permit : Option Nat
  deriving DecidableEq, Repr

namespace RegisteredAdapter

variable {World : Type} (ports : Ports World)

def new (source : RegisteredSource) : RegisteredAdapter := ⟨source, .stopped, none⟩

def endpoint (self : RegisteredAdapter) : RuntimeEndpointId := self.source.endpoint

def revokeIngress (self : RegisteredAdapter) (shared : SharedBridge World) : SharedBridge World :=
  match self.permit with
  | none => shared
  | some permit => shared.revoke permit

/-- The callback runs with a new handle; unless it succeeds, the permit of the handle
is revoked on the way out. -/
def start (self : RegisteredAdapter) (shared : SharedBridge World) (callback : Callback) :
    RegisteredAdapter × SharedBridge World × Except AdapterLifecycleError Unit :=
  let permit := shared.permits.length
  let given : SharedBridge World :=
    { shared with
      permits := shared.permits ++ [⟨self.endpoint, true⟩]
      calls := shared.calls ++ [(self.endpoint, .start)] }
  let called := given.ingresses ports callback.entries
  match callback.result with
  | .ok () => ({ self with state := .running, permit := some permit }, called, .ok ())
  | .error source =>
    ({ self with state := .startFailed, permit := some permit }, called.revoke permit,
      .error ⟨self.endpoint, .start, source⟩)

def stop (self : RegisteredAdapter) (shared : SharedBridge World) (callback : Callback) :
    RegisteredAdapter × SharedBridge World × Except AdapterLifecycleError Unit :=
  let revoked := self.revokeIngress shared
  let called := SharedBridge.ingresses ports
    { revoked with calls := revoked.calls ++ [(self.endpoint, .stop)] } callback.entries
  match callback.result with
  | .ok () => ({ self with state := .stopped }, called, .ok ())
  | .error source =>
    ({ self with state := .stopFailed }, called, .error ⟨self.endpoint, .stop, source⟩)

end RegisteredAdapter

structure RuntimeHost (World : Type) where
  state : RuntimeHostState
  adapters : List RegisteredAdapter
  shared : SharedBridge World

namespace RuntimeHost

variable {World : Type} (ports : Ports World)

def withSessionConfig (sessionConfig : SessionAggregateConfig) (world : World) :
    RuntimeHost World :=
  ⟨.stopped, [], ⟨Bridge.withSessionConfig sessionConfig world, [], []⟩⟩

def ensureRegistrationAllowed (self : RuntimeHost World) : Except RuntimeRegistrationError Unit :=
  if self.state = .stopped then .ok () else .error (.hostNotStopped self.state)

/-- The endpoint joins the bridge, then its source joins the host. -/
def register (self : RuntimeHost World) (source : RegisteredSource)
    (join : Bridge World → Bridge World × Except EndpointRegistrationError Unit) :
    RuntimeHost World × Except RuntimeRegistrationError Unit :=
  match self.ensureRegistrationAllowed with
  | .error error => (self, .error error)
  | .ok () =>
    match join self.shared.bridge with
    | (bridge, .error error) =>
      ({ self with shared := { self.shared with bridge := bridge } }, .error (.endpoint error))
    | (bridge, .ok ()) =>
      ({ self with
          shared := { self.shared with bridge := bridge }
          adapters := self.adapters ++ [RegisteredAdapter.new source] }, .ok ())

def registerProvider (self : RuntimeHost World) (descriptor : ProviderDescriptor) :
    RuntimeHost World × Except RuntimeRegistrationError Unit :=
  self.register (.provider descriptor.id) fun bridge => bridge.registerProvider descriptor

def registerChannel (self : RuntimeHost World) (descriptor : ChannelDescriptor)
    (scope : ChannelSubscriptionScope) :
    RuntimeHost World × Except RuntimeRegistrationError Unit :=
  self.register (.channel descriptor.id scope) fun bridge => bridge.registerChannel descriptor

def subscribe (self : RuntimeHost World) (channelId : ChannelId) (sessionId : SessionId) :
    RuntimeHost World × Except SubscriptionError SubscribeOutcome :=
  match self.shared.bridge.subscribe ports channelId sessionId with
  | (bridge, result) => ({ self with shared := { self.shared with bridge := bridge } }, result)

def unsubscribe (self : RuntimeHost World) (channelId : ChannelId) (sessionId : SessionId) :
    RuntimeHost World × Except SubscriptionError UnsubscribeOutcome :=
  match self.shared.bridge.unsubscribe channelId sessionId with
  | (bridge, result) => ({ self with shared := { self.shared with bridge := bridge } }, result)

/-- The callbacks of a start, in registration order. -/
def startAdapters (callbacks : RuntimeEndpointId → Callback) :
    List RegisteredAdapter → SharedBridge World →
      List RegisteredAdapter × SharedBridge World × List AdapterLifecycleResult
  | [], shared => ([], shared, [])
  | adapter :: rest, shared =>
    match adapter.start ports shared (callbacks adapter.endpoint) with
    | (started, shared, result) =>
      match startAdapters callbacks rest shared with
      | (others, shared, results) =>
        (started :: others, shared, .ofResult adapter.endpoint result :: results)

/-- The callbacks of a stop, in reverse order: those of the later adapters come first. -/
def stopAdapters (callbacks : RuntimeEndpointId → Callback) :
    List RegisteredAdapter → SharedBridge World →
      List RegisteredAdapter × SharedBridge World × List AdapterLifecycleResult
  | [], shared => ([], shared, [])
  | adapter :: rest, shared =>
    match stopAdapters callbacks rest shared with
    | (others, shared, results) =>
      if adapter.state = .stopped then
        (adapter :: others, shared, results ++ [.skipped adapter.endpoint .stopped])
      else
        match adapter.stop ports shared (callbacks adapter.endpoint) with
        | (stopped, shared, result) =>
          (stopped :: others, shared, results ++ [.ofResult adapter.endpoint result])

def start (self : RuntimeHost World) (callbacks : RuntimeEndpointId → Callback) :
    RuntimeHost World × Except RuntimeLifecycleError RuntimeLifecycleReport :=
  match self.state with
  | .started => (self, .ok ⟨.start, .alreadyStarted, []⟩)
  | .stopFailed => (self, .error .cleanupRequired)
  | .stopped =>
    match startAdapters ports callbacks self.adapters self.shared with
    | (adapters, shared, results) =>
      let report : RuntimeLifecycleReport := ⟨.start, .started, results⟩
      (⟨.started, adapters, shared⟩,
        if report.hasFailures then .error (.adapterFailures report) else .ok report)

def revokeAllIngress (self : RuntimeHost World) : SharedBridge World :=
  self.adapters.foldl (fun shared adapter => adapter.revokeIngress shared) self.shared

/-- The results of the removals are not looked at. -/
def clearSourceGenerationSubscriptions (self : RuntimeHost World) (bridge : Bridge World) :
    Bridge World :=
  (self.adapters.filterMap fun adapter => adapter.source.sourceGenerationChannel).foldl
    (fun bridge channelId => (bridge.unsubscribeChannel channelId).1) bridge

def stop (self : RuntimeHost World) (callbacks : RuntimeEndpointId → Callback) :
    RuntimeHost World × Except RuntimeLifecycleError RuntimeLifecycleReport :=
  if self.state = .stopped then (self, .ok ⟨.stop, .alreadyStopped, []⟩)
  else
    let revoked := self.revokeAllIngress
    let cleared := { revoked with bridge := self.clearSourceGenerationSubscriptions revoked.bridge }
    match stopAdapters ports callbacks self.adapters cleared with
    | (adapters, shared, results) =>
      if results.any fun result => !result.isSuccess then
        (⟨.stopFailed, adapters, shared⟩, .error (.adapterFailures ⟨.stop, .stopFailed, results⟩))
      else (⟨.stopped, adapters, shared⟩, .ok ⟨.stop, .stopped, results⟩)

def ingress (self : RuntimeHost World) (entry : Ingress) :
    RuntimeHost World × Option IngressResult :=
  (self.shared.ingress ports entry).map (fun shared => { self with shared := shared }) id

end RuntimeHost

inductive HostOp where
  | registerProvider (descriptor : ProviderDescriptor)
  | registerChannel (descriptor : ChannelDescriptor) (scope : ChannelSubscriptionScope)
  | start (callbacks : RuntimeEndpointId → Callback)
  | stop (callbacks : RuntimeEndpointId → Callback)
  | subscribe (channelId : ChannelId) (sessionId : SessionId)
  | unsubscribe (channelId : ChannelId) (sessionId : SessionId)
  | ingress (entry : Ingress)

inductive HostResult where
  | registration (result : Except RuntimeRegistrationError Unit)
  | lifecycle (result : Except RuntimeLifecycleError RuntimeLifecycleReport)
  | subscribe (result : Except SubscriptionError SubscribeOutcome)
  | unsubscribe (result : Except SubscriptionError UnsubscribeOutcome)
  | ingress (result : Option IngressResult)
  deriving DecidableEq

namespace RuntimeHost

variable {World : Type} (ports : Ports World)

def step (self : RuntimeHost World) : HostOp → RuntimeHost World × HostResult
  | .registerProvider descriptor => (self.registerProvider descriptor).map id .registration
  | .registerChannel descriptor scope =>
    (self.registerChannel descriptor scope).map id .registration
  | .start callbacks => (self.start ports callbacks).map id .lifecycle
  | .stop callbacks => (self.stop ports callbacks).map id .lifecycle
  | .subscribe channelId sessionId => (self.subscribe ports channelId sessionId).map id .subscribe
  | .unsubscribe channelId sessionId => (self.unsubscribe channelId sessionId).map id .unsubscribe
  | .ingress entry => (self.ingress ports entry).map id .ingress

/-- The host after a run from an empty host. -/
def run (sessionConfig : SessionAggregateConfig) (world : World) (ops : List HostOp) :
    RuntimeHost World :=
  Trace.final (step ports) (withSessionConfig sessionConfig world) ops

end RuntimeHost

end AgentPulse
