import AgentPulse.CoreAggregate
import AgentPulse.CoreRouting
import AgentPulse.MultiMap

/-!
# The bridge

A synchronous in-memory service between provider and channel ports. Each
operation takes the bridge and returns the bridge it leaves behind next to its
result. The registered port objects are foreign code: their joint state is the
type `World`, and `ports` answers one call to one of them.
-/
namespace AgentPulse

open Std (ExtTreeMap ExtTreeSet)

/-- The text of an adapter-defined error. -/
abbrev BoxAdapterError := String

inductive ProviderEventOutcome where
  | applied | alreadyApplied
  deriving DecidableEq, Repr

inductive ChannelDeliveryKind where
  | event | session
  deriving DecidableEq, Repr

structure ChannelDeliveryError where
  channelId : ChannelId
  delivery : ChannelDeliveryKind
  source : BoxAdapterError
  deriving DecidableEq, Repr

inductive ChannelDeliveryResult where
  | delivered (channelId : ChannelId)
  | failed (error : ChannelDeliveryError)
  deriving DecidableEq, Repr

namespace ChannelDeliveryResult

def channelId : ChannelDeliveryResult → ChannelId
  | .delivered channelId => channelId
  | .failed error => error.channelId

def isDelivered : ChannelDeliveryResult → Bool
  | .delivered _ => true
  | .failed _ => false

end ChannelDeliveryResult

structure ProviderEventReport where
  outcome : ProviderEventOutcome
  deliveries : List ChannelDeliveryResult
  deriving DecidableEq, Repr

def ProviderEventReport.hasFailures (self : ProviderEventReport) : Bool :=
  self.deliveries.any fun delivery => !delivery.isDelivered

inductive ProviderHandoffKind where
  | interactionResponse | command
  deriving DecidableEq, Repr

inductive EndpointRegistrationError where
  | providerAlreadyRegistered (providerId : ProviderId)
  | channelAlreadyRegistered (channelId : ChannelId)
  deriving DecidableEq, Repr

inductive SubscribeOutcome where
  | subscribed (sessionViewDelivered : Bool) (baselineSequence : EventSequence)
      (pendingInteractionCount : Nat)
  | alreadySubscribed (currentSequence : EventSequence)
  deriving DecidableEq, Repr

inductive UnsubscribeOutcome where
  | unsubscribed | notSubscribed
  deriving DecidableEq, Repr

inductive SubscriptionError where
  | channelNotFound (channelId : ChannelId)
  | sessionNotFound (sessionId : SessionId)
  | initialSessionHandoff (error : ChannelDeliveryError)
  | baselineRoute (error : CapabilityRouteError)
  | invalidPageSize
  deriving DecidableEq, Repr

inductive ProviderEventError where
  | providerNotFound (providerId : ProviderId)
  | channelNotFound (channelId : ChannelId)
  | sessionNotStarted (sessionId : SessionId)
  | capabilityRoute (error : CapabilityRouteError)
  | reduce (error : ReduceError)
  | channelHandoffs (report : ProviderEventReport)
  deriving DecidableEq, Repr

inductive ChannelActionError where
  | channelNotFound (channelId : ChannelId)
  | sessionNotFound (sessionId : SessionId)
  | channelNotSubscribed (channelId : ChannelId) (sessionId : SessionId)
  | providerNotFound (providerId : ProviderId)
  | interactionNotPending (sessionId : SessionId) (interactionId : InteractionId)
  | capabilityRoute (error : CapabilityRouteError)
  | providerHandoff (providerId : ProviderId) (handoff : ProviderHandoffKind)
      (source : BoxAdapterError)
  deriving DecidableEq, Repr

structure RoutedAgentEvent where
  event : AgentEvent
  route : ChannelEventRoute
  deriving DecidableEq, Repr

structure RoutedInteractionRequest where
  request : InteractionRequest
  route : InteractionRoute
  deriving DecidableEq, Repr

structure ChannelSessionBaseline where
  session : AgentSession
  sequence : EventSequence
  pendingInteractions : List RoutedInteractionRequest
  deriving DecidableEq, Repr

/-- One page of retained events; the last page carries the baseline. -/
structure ChannelSessionSync where
  afterSequence : Nat
  throughSequence : Nat
  reset : Bool
  events : List RoutedAgentEvent
  baseline : Option ChannelSessionBaseline
  deriving DecidableEq, Repr

def ChannelSessionSync.isFinal (self : ChannelSessionSync) : Bool := self.baseline.isSome

structure SessionSyncOutcome where
  throughSequence : Nat
  eventCount : Nat
  reset : Bool
  subscribed : Bool
  pendingInteractionCount : Nat
  deriving DecidableEq, Repr

structure DiscoveredSession where
  session : AgentSession
  lastSequence : EventSequence
  deriving DecidableEq, Repr

structure ChannelDiscoverySnapshot where
  providers : List ProviderDescriptor
  sessions : List DiscoveredSession
  deriving DecidableEq, Repr

/-- One call of the bridge to a registered port. -/
inductive PortCall where
  | deliverEvent (channelId : ChannelId) (event : AgentEvent) (route : ChannelEventRoute)
  | deliverSession (channelId : ChannelId) (session : AgentSession)
  | deliverSessionBaseline (channelId : ChannelId) (baseline : ChannelSessionBaseline)
  | deliverSessionSync (channelId : ChannelId) (sync : ChannelSessionSync)
  | acceptInteractionResponse (providerId : ProviderId) (response : InteractionResponse)
  | acceptCommand (providerId : ProviderId) (command : AgentCommand)
  deriving DecidableEq, Repr

/-- The channel a call goes to. -/
def PortCall.channelId? : PortCall → Option ChannelId
  | .deliverEvent channelId _ _ => some channelId
  | .deliverSession channelId _ => some channelId
  | .deliverSessionBaseline channelId _ => some channelId
  | .deliverSessionSync channelId _ => some channelId
  | .acceptInteractionResponse _ _ => none
  | .acceptCommand _ _ => none

abbrev Ports (World : Type) := World → PortCall → World × Except BoxAdapterError Unit

structure Bridge (World : Type) where
  providers : ExtTreeMap ProviderId ProviderDescriptor
  channels : ExtTreeMap ChannelId ChannelDescriptor
  sessionConfig : SessionAggregateConfig
  sessions : ExtTreeMap SessionId SessionAggregate
  subscriptions : ExtTreeMap SessionId (ExtTreeSet ChannelId)
  world : World

/-- The delivery decision for one subscriber, made before reduction. -/
structure EventRoute where
  channelId : ChannelId
  route : ChannelEventRoute
  deliverSession : Bool
  deriving DecidableEq, Repr

def eventUpdatesSessionView (event : AgentEvent) : Bool :=
  match event.payload with
  | .sessionStarted _ | .stateChanged _ | .connectionChanged _ | .sessionEnded _ => true
  | _ => false

namespace Bridge

variable {World : Type}

def withSessionConfig (sessionConfig : SessionAggregateConfig) (world : World) : Bridge World :=
  ⟨∅, ∅, sessionConfig, ∅, ∅, world⟩

def new (world : World) : Bridge World := withSessionConfig .default world

def registerProvider (self : Bridge World) (descriptor : ProviderDescriptor) :
    Bridge World × Except EndpointRegistrationError Unit :=
  if self.providers.contains descriptor.id then
    (self, .error (.providerAlreadyRegistered descriptor.id))
  else ({ self with providers := self.providers.insert descriptor.id descriptor }, .ok ())

def registerChannel (self : Bridge World) (descriptor : ChannelDescriptor) :
    Bridge World × Except EndpointRegistrationError Unit :=
  if self.channels.contains descriptor.id then
    (self, .error (.channelAlreadyRegistered descriptor.id))
  else ({ self with channels := self.channels.insert descriptor.id descriptor }, .ok ())

def discoverySnapshot (self : Bridge World) : ChannelDiscoverySnapshot :=
  ⟨OrderedMap.values self.providers,
    (OrderedMap.values self.sessions).map fun aggregate =>
      ⟨aggregate.session, aggregate.lastSequence⟩⟩

def isSubscribed (self : Bridge World) (channelId : ChannelId) (sessionId : SessionId) : Bool :=
  MultiMap.contains self.subscriptions sessionId channelId

/-- A session's subscribers in channel-identifier order. -/
def sessionSubscribers (self : Bridge World) (sessionId : SessionId) : List ChannelId :=
  MultiMap.members self.subscriptions sessionId

/-- `subscriptions.entry(session_id).or_default().insert(channel_id)`. -/
def insertSubscription (self : Bridge World) (channelId : ChannelId) (sessionId : SessionId) :
    Bridge World :=
  { self with subscriptions := MultiMap.add self.subscriptions sessionId channelId }

/-- Every pending interaction with its route, in interaction-identifier order. -/
def routedInteractions (provider : ProviderDescriptor) (channel : ChannelDescriptor)
    (aggregate : SessionAggregate) : Except SubscriptionError (List RoutedInteractionRequest) :=
  (OrderedMap.values aggregate.pendingInteractions).mapM fun request =>
    match CapabilityRouter.interactionRoute provider channel aggregate.session request with
    | .ok route => .ok ⟨request, route⟩
    | .error e => .error (.baselineRoute e)

def routedEvents (provider : ProviderDescriptor) (channel : ChannelDescriptor)
    (session : AgentSession) (events : List AgentEvent) :
    Except SubscriptionError (List RoutedAgentEvent) :=
  events.mapM fun event =>
    match CapabilityRouter.channelEventRoute provider channel session event with
    | .ok route => .ok ⟨event, route⟩
    | .error e => .error (.baselineRoute e)

/-- The retained page after the requested cursor, or from the start with the
reset mark when the window no longer covers the cursor. -/
def pageOrReset (channelId : ChannelId) (aggregate : SessionAggregate)
    (requestedAfter maxEvents : Nat) : Except SubscriptionError (Nat × Bool × List AgentEvent) :=
  match aggregate.retainedEventPageAfter requestedAfter maxEvents with
  | some events => .ok (requestedAfter, false, events)
  | none =>
    match aggregate.retainedEventPageAfter 0 maxEvents with
    | some events => .ok (0, true, events)
    | none =>
      .error (.initialSessionHandoff
        ⟨channelId, .event, "complete in-memory Session history is unavailable"⟩)

def baselineOf (provider : ProviderDescriptor) (channel : ChannelDescriptor)
    (aggregate : SessionAggregate) : Except SubscriptionError ChannelSessionBaseline := do
  let pendingInteractions ← routedInteractions provider channel aggregate
  .ok ⟨aggregate.session, aggregate.lastSequence, pendingInteractions⟩

/-- The cursor after a page: its last event, or the cursor before an empty page. -/
def pageThrough (afterSequence : Nat) (pageEvents : List AgentEvent) : Nat :=
  match pageEvents.getLast? with
  | some event => event.sequence.get
  | none => afterSequence

/-- The page that `syncSession` hands over, computed before any port is called. -/
def sessionSync (provider : ProviderDescriptor) (channel : ChannelDescriptor)
    (channelId : ChannelId) (aggregate : SessionAggregate) (requestedAfter maxEvents : Nat) :
    Except SubscriptionError ChannelSessionSync := do
  let (afterSequence, reset, pageEvents) ←
    pageOrReset channelId aggregate requestedAfter maxEvents
  let throughSequence := pageThrough afterSequence pageEvents
  let finalPage := throughSequence == aggregate.lastSequence.get
  let events ← routedEvents provider channel aggregate.session pageEvents
  if finalPage then
    let baseline ← baselineOf provider channel aggregate
    .ok ⟨afterSequence, throughSequence, reset, events, some baseline⟩
  else .ok ⟨afterSequence, throughSequence, reset, events, none⟩

def syncOutcome (sync : ChannelSessionSync) : SessionSyncOutcome where
  throughSequence := sync.throughSequence
  eventCount := sync.events.length
  reset := sync.reset
  subscribed := sync.isFinal
  pendingInteractionCount :=
    match sync.baseline with
    | some baseline => baseline.pendingInteractions.length
    | none => 0

section Operations

variable (ports : Ports World)

def syncSession (self : Bridge World) (channelId : ChannelId) (sessionId : SessionId)
    (requestedAfter maxEvents : Nat) :
    Bridge World × Except SubscriptionError SessionSyncOutcome :=
  if maxEvents = 0 then (self, .error .invalidPageSize)
  else
    match self.channels[channelId]? with
    | none => (self, .error (.channelNotFound channelId))
    | some channelDescriptor =>
      match self.sessions[sessionId]? with
      | none => (self, .error (.sessionNotFound sessionId))
      | some aggregate =>
        if self.isSubscribed channelId sessionId then
          (self, .ok ⟨aggregate.lastSequence.get, 0, false, true, 0⟩)
        else
          match self.providers[aggregate.session.providerId]? with
          | none => (self, .error (.sessionNotFound sessionId))
          | some providerDescriptor =>
            match sessionSync providerDescriptor channelDescriptor channelId aggregate
                requestedAfter maxEvents with
            | .error e => (self, .error e)
            | .ok sync =>
              match ports self.world (.deliverSessionSync channelId sync) with
              | (world, .error source) =>
                ({ self with world := world },
                  .error (.initialSessionHandoff ⟨channelId, .session, source⟩))
              | (world, .ok ()) =>
                let self := { self with world := world }
                let self :=
                  if sync.isFinal then self.insertSubscription channelId sessionId else self
                (self, .ok (syncOutcome sync))

def subscribe (self : Bridge World) (channelId : ChannelId) (sessionId : SessionId) :
    Bridge World × Except SubscriptionError SubscribeOutcome :=
  match self.channels[channelId]? with
  | none => (self, .error (.channelNotFound channelId))
  | some channelDescriptor =>
    match self.sessions[sessionId]? with
    | none => (self, .error (.sessionNotFound sessionId))
    | some aggregate =>
      if self.isSubscribed channelId sessionId then
        (self, .ok (.alreadySubscribed aggregate.lastSequence))
      else
        match self.providers[aggregate.session.providerId]? with
        | none => (self, .error (.sessionNotFound sessionId))
        | some providerDescriptor =>
          match baselineOf providerDescriptor channelDescriptor aggregate with
          | .error e => (self, .error e)
          | .ok baseline =>
            let count := baseline.pendingInteractions.length
            if channelDescriptor.capabilities.contains ChannelCapabilities.sessionView then
              match ports self.world (.deliverSessionBaseline channelId baseline) with
              | (world, .error source) =>
                ({ self with world := world },
                  .error (.initialSessionHandoff ⟨channelId, .session, source⟩))
              | (world, .ok ()) =>
                (insertSubscription { self with world := world } channelId sessionId,
                  .ok (.subscribed true aggregate.lastSequence count))
            else
              (self.insertSubscription channelId sessionId,
                .ok (.subscribed false aggregate.lastSequence count))

def unsubscribe (self : Bridge World) (channelId : ChannelId) (sessionId : SessionId) :
    Bridge World × Except SubscriptionError UnsubscribeOutcome :=
  if !self.channels.contains channelId then (self, .error (.channelNotFound channelId))
  else if !self.sessions.contains sessionId then (self, .error (.sessionNotFound sessionId))
  else
    let removed := self.isSubscribed channelId sessionId
    ({ self with subscriptions := MultiMap.remove self.subscriptions sessionId channelId },
      .ok (if removed then .unsubscribed else .notSubscribed))

def unsubscribeChannel (self : Bridge World) (channelId : ChannelId) :
    Bridge World × Except SubscriptionError Nat :=
  if !self.channels.contains channelId then (self, .error (.channelNotFound channelId))
  else
    let removed :=
      (OrderedMap.values self.subscriptions).countP fun channels => channels.contains channelId
    ({ self with subscriptions := MultiMap.removeMember self.subscriptions channelId },
      .ok removed)

/-- The session that routes the event: the aggregate's, or the started one. -/
def routingSession (self : Bridge World) (event : AgentEvent) :
    Except ProviderEventError AgentSession :=
  match self.sessions[event.sessionId]? with
  | some aggregate => .ok aggregate.session
  | none =>
    match event.payload with
    | .sessionStarted session => .ok session
    | _ => .error (.sessionNotStarted event.sessionId)

/-- The routes of all subscribers, computed before reduction. -/
def eventRoutes (self : Bridge World) (provider : ProviderDescriptor) (session : AgentSession)
    (event : AgentEvent) : Except ProviderEventError (List EventRoute) :=
  (self.sessionSubscribers event.sessionId).mapM fun channelId =>
    match self.channels[channelId]? with
    | none => .error (.channelNotFound channelId)
    | some channel =>
      match CapabilityRouter.channelEventRoute provider channel session event with
      | .error e => .error (.capabilityRoute e)
      | .ok route =>
        .ok ⟨channelId, route,
          channel.capabilities.contains ChannelCapabilities.sessionView &&
            eventUpdatesSessionView event⟩

/-- Reduces the event into its aggregate in place, or starts the session. -/
def reduceEvent (self : Bridge World) (event : AgentEvent) :
    Bridge World × Except ReduceError (ApplyOutcome × AgentSession) :=
  match self.sessions[event.sessionId]? with
  | some aggregate =>
    let (aggregate, result) := aggregate.apply event
    let self := { self with sessions := self.sessions.insert event.sessionId aggregate }
    match result with
    | .error e => (self, .error e)
    | .ok outcome => (self, .ok (outcome, aggregate.session))
  | none =>
    match SessionAggregate.fromInitialEventWithConfig event self.sessionConfig with
    | .error e => (self, .error e)
    | .ok aggregate =>
      ({ self with sessions := self.sessions.insert event.sessionId aggregate },
        .ok (.applied, aggregate.session))

/-- The handoffs of one applied event to one channel. The session view follows
only an accepted event. -/
def deliverTo (world : World) (event : AgentEvent) (sessionView : Option AgentSession)
    (route : EventRoute) : World × ChannelDeliveryResult :=
  match ports world (.deliverEvent route.channelId event route.route) with
  | (world, .error source) => (world, .failed ⟨route.channelId, .event, source⟩)
  | (world, .ok ()) =>
    match route.deliverSession, sessionView with
    | true, some session =>
      match ports world (.deliverSession route.channelId session) with
      | (world, .error source) => (world, .failed ⟨route.channelId, .session, source⟩)
      | (world, .ok ()) => (world, .delivered route.channelId)
    | _, _ => (world, .delivered route.channelId)

/-- The fan-out loop, in the order of the routes. -/
def fanOut (channels : ExtTreeMap ChannelId ChannelDescriptor) (event : AgentEvent)
    (sessionView : Option AgentSession) :
    World → List EventRoute → World × Except ProviderEventError (List ChannelDeliveryResult)
  | world, [] => (world, .ok [])
  | world, route :: routes =>
    if !channels.contains route.channelId then
      (world, .error (.channelNotFound route.channelId))
    else
      let (world, delivery) := deliverTo ports world event sessionView route
      match fanOut channels event sessionView world routes with
      | (world, .error e) => (world, .error e)
      | (world, .ok deliveries) => (world, .ok (delivery :: deliveries))

/-- Everything before the fan-out: validation, routes and reduction, in this
order. The result is the routes with the session view, or nothing for an exact
retry. -/
def beginProviderEvent (self : Bridge World) (providerId : ProviderId) (event : AgentEvent) :
    Bridge World × Except ProviderEventError (Option (List EventRoute × Option AgentSession)) :=
  match self.providers[providerId]? with
  | none => (self, .error (.providerNotFound providerId))
  | some providerDescriptor =>
    match self.routingSession event with
    | .error e => (self, .error e)
    | .ok session =>
      match CapabilityRouter.validateProviderEvent providerDescriptor session event with
      | .error e => (self, .error (.capabilityRoute e))
      | .ok () =>
        match self.eventRoutes providerDescriptor session event with
        | .error e => (self, .error e)
        | .ok routes =>
          match self.reduceEvent event with
          | (self, .error e) => (self, .error (.reduce e))
          | (self, .ok (.alreadyApplied, _)) => (self, .ok none)
          | (self, .ok (.applied, reduced)) =>
            let sessionView := if routes.any EventRoute.deliverSession then some reduced else none
            (self, .ok (some (routes, sessionView)))

def handleProviderEvent (self : Bridge World) (providerId : ProviderId) (event : AgentEvent) :
    Bridge World × Except ProviderEventError ProviderEventReport :=
  match self.beginProviderEvent providerId event with
  | (self, .error e) => (self, .error e)
  | (self, .ok none) => (self, .ok ⟨.alreadyApplied, []⟩)
  | (self, .ok (some (routes, sessionView))) =>
    match fanOut ports self.channels event sessionView self.world routes with
    | (world, .error e) => ({ self with world := world }, .error e)
    | (world, .ok deliveries) =>
      let self := { self with world := world }
      let report : ProviderEventReport := ⟨.applied, deliveries⟩
      if report.hasFailures then (self, .error (.channelHandoffs report))
      else (self, .ok report)

def actionChannelDescriptor (self : Bridge World) (channelId : ChannelId) :
    Except ChannelActionError ChannelDescriptor :=
  match self.channels[channelId]? with
  | none => .error (.channelNotFound channelId)
  | some channel => .ok channel

def validateActionSubscription (self : Bridge World) (channelId : ChannelId)
    (sessionId : SessionId) : Except ChannelActionError Unit :=
  if !self.sessions.contains sessionId then .error (.sessionNotFound sessionId)
  else if !self.isSubscribed channelId sessionId then
    .error (.channelNotSubscribed channelId sessionId)
  else .ok ()

/-- The checks of an interaction response, up to the provider it goes to. -/
def interactionResponseProvider (self : Bridge World) (channelId : ChannelId)
    (response : InteractionResponse) : Except ChannelActionError ProviderId := do
  let channel ← self.actionChannelDescriptor channelId
  self.validateActionSubscription channelId response.sessionId
  match self.sessions[response.sessionId]? with
  | none => .error (.sessionNotFound response.sessionId)
  | some aggregate =>
    let providerId := aggregate.session.providerId
    match self.providers[providerId]? with
    | none => .error (.providerNotFound providerId)
    | some provider =>
      match aggregate.pendingInteractions[response.requestId]? with
      | none => .error (.interactionNotPending response.sessionId response.requestId)
      | some request =>
        (CapabilityRouter.validateInteractionResponse provider channel aggregate.session request
          response).mapError .capabilityRoute
        .ok providerId

/-- The checks of a command, up to the provider it goes to. -/
def commandProvider (self : Bridge World) (channelId : ChannelId) (command : AgentCommand) :
    Except ChannelActionError ProviderId := do
  let channel ← self.actionChannelDescriptor channelId
  self.validateActionSubscription channelId command.sessionId
  match self.sessions[command.sessionId]? with
  | none => .error (.sessionNotFound command.sessionId)
  | some aggregate =>
    let providerId := aggregate.session.providerId
    match self.providers[providerId]? with
    | none => .error (.providerNotFound providerId)
    | some provider =>
      (CapabilityRouter.validateCommand provider channel aggregate.session command).mapError
        .capabilityRoute
      .ok providerId

/-- The final handoff of a validated action to its provider port. -/
def handToProvider (self : Bridge World) (providerId : ProviderId) (handoff : ProviderHandoffKind)
    (call : PortCall) : Bridge World × Except ChannelActionError Unit :=
  if !self.providers.contains providerId then (self, .error (.providerNotFound providerId))
  else
    match ports self.world call with
    | (world, .error source) =>
      ({ self with world := world }, .error (.providerHandoff providerId handoff source))
    | (world, .ok ()) => ({ self with world := world }, .ok ())

def handleInteractionResponse (self : Bridge World) (channelId : ChannelId)
    (response : InteractionResponse) : Bridge World × Except ChannelActionError Unit :=
  match self.interactionResponseProvider channelId response with
  | .error e => (self, .error e)
  | .ok providerId =>
    self.handToProvider ports providerId .interactionResponse
      (.acceptInteractionResponse providerId response)

def handleCommand (self : Bridge World) (channelId : ChannelId) (command : AgentCommand) :
    Bridge World × Except ChannelActionError Unit :=
  match self.commandProvider channelId command with
  | .error e => (self, .error e)
  | .ok providerId =>
    self.handToProvider ports providerId .command (.acceptCommand providerId command)

end Operations

end Bridge

inductive BridgeOp where
  | registerProvider (descriptor : ProviderDescriptor)
  | registerChannel (descriptor : ChannelDescriptor)
  | subscribe (channelId : ChannelId) (sessionId : SessionId)
  | syncSession (channelId : ChannelId) (sessionId : SessionId) (requestedAfter maxEvents : Nat)
  | unsubscribe (channelId : ChannelId) (sessionId : SessionId)
  | unsubscribeChannel (channelId : ChannelId)
  | handleProviderEvent (providerId : ProviderId) (event : AgentEvent)
  | handleInteractionResponse (channelId : ChannelId) (response : InteractionResponse)
  | handleCommand (channelId : ChannelId) (command : AgentCommand)
  deriving DecidableEq, Repr

/-- The result of each operation, tagged by the operation. -/
inductive BridgeResult where
  | registration (result : Except EndpointRegistrationError Unit)
  | subscribe (result : Except SubscriptionError SubscribeOutcome)
  | syncSession (result : Except SubscriptionError SessionSyncOutcome)
  | unsubscribe (result : Except SubscriptionError UnsubscribeOutcome)
  | unsubscribeChannel (result : Except SubscriptionError Nat)
  | providerEvent (result : Except ProviderEventError ProviderEventReport)
  | channelAction (result : Except ChannelActionError Unit)
  deriving DecidableEq

namespace Bridge

variable {World : Type} (ports : Ports World)

def step (self : Bridge World) : BridgeOp → Bridge World × BridgeResult
  | .registerProvider descriptor => (self.registerProvider descriptor).map id .registration
  | .registerChannel descriptor => (self.registerChannel descriptor).map id .registration
  | .subscribe channelId sessionId => (self.subscribe ports channelId sessionId).map id .subscribe
  | .syncSession channelId sessionId requestedAfter maxEvents =>
    (self.syncSession ports channelId sessionId requestedAfter maxEvents).map id .syncSession
  | .unsubscribe channelId sessionId => (self.unsubscribe channelId sessionId).map id .unsubscribe
  | .unsubscribeChannel channelId =>
    (self.unsubscribeChannel channelId).map id .unsubscribeChannel
  | .handleProviderEvent providerId event =>
    (self.handleProviderEvent ports providerId event).map id .providerEvent
  | .handleInteractionResponse channelId response =>
    (self.handleInteractionResponse ports channelId response).map id .channelAction
  | .handleCommand channelId command =>
    (self.handleCommand ports channelId command).map id .channelAction

/-- The bridge after a run from an empty bridge. -/
def run (sessionConfig : SessionAggregateConfig) (world : World) (ops : List BridgeOp) :
    Bridge World :=
  Trace.final (step ports) (withSessionConfig sessionConfig world) ops

end Bridge

/-- Ports that accept every call. -/
def Sample.accepting : Ports Unit := fun world _ => (world, .ok ())

end AgentPulse
