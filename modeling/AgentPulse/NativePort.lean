import AgentPulse.NativeProtocol

/-!
# The delivery state of the native channel and its port

One state is shared by the port, which the bridge calls, and by the connection
worker. It holds the active client and a bounded output queue. While one
subscription is being synchronized, the frames of its session are collected
apart from the queue.
-/
namespace AgentPulse

open Std (ExtTreeMap ExtTreeSet)

structure PendingSubscription where
  requestId : String
  sessionId : SessionId
  frames : List Frame
  trailingFrames : List Frame
  syncDelivered : Bool
  deriving DecidableEq, Repr

structure ActiveClient where
  discovered : ExtTreeSet SessionId
  subscriptions : ExtTreeSet SessionId
  pending : Option PendingSubscription
  sessionCursors : ExtTreeMap SessionId Nat

/-- The synchronization in progress, if it is about this session. -/
def ActiveClient.pendingFor (self : ActiveClient) (sessionId : SessionId) :
    Option PendingSubscription :=
  self.pending.filter fun pending => pending.sessionId = sessionId

structure DeliveryState where
  client : Option ActiveClient
  outgoing : List Frame
  abortReason : Option String
  capacity : Nat

namespace DeliveryState

def new (capacity : Nat) : DeliveryState := ⟨none, [], none, capacity⟩

def pending? (self : DeliveryState) : Option PendingSubscription :=
  self.client.bind ActiveClient.pending

def queuedLen (self : DeliveryState) : Nat :=
  self.outgoing.length +
    match self.pending? with
    | none => 0
    | some pending => pending.frames.length + pending.trailingFrames.length

/-- The state that a refused frame leaves: nothing is queued, and the worker is
told to drop the connection. -/
def abortFull (self : DeliveryState) : DeliveryState :=
  let capacity := self.capacity
  let reason := s!"Native client output queue reached its {capacity}-frame limit"
  { self with abortReason := some reason }

def enqueue (self : DeliveryState) (frame : Frame) : DeliveryState × Except Nat Unit :=
  if self.capacity ≤ self.queuedLen then (self.abortFull, .error self.capacity)
  else ({ self with outgoing := self.outgoing ++ [frame] }, .ok ())

def enqueueBatch (self : DeliveryState) (frames : List Frame) :
    DeliveryState × Except Nat Unit :=
  if self.capacity < self.queuedLen + frames.length then (self.abortFull, .error self.capacity)
  else ({ self with outgoing := self.outgoing ++ frames }, .ok ())

def clearConnection (self : DeliveryState) : DeliveryState :=
  { self with client := none, outgoing := [], abortReason := none }

/-- An update of the active client, if there is one. -/
def updateClient (self : DeliveryState) (update : ActiveClient → ActiveClient) : DeliveryState :=
  { self with client := self.client.map update }

def setPending (self : DeliveryState) (pending : Option PendingSubscription) : DeliveryState :=
  self.updateClient fun client => { client with pending := pending }

end DeliveryState

inductive NativeChannelPortError where
  | noActiveClient
  | sessionNotSubscribed (sessionId : SessionId)
  | protocol (source : NativeProtocolError)
  | queueFull (capacity : Nat)
  deriving DecidableEq, Repr

def NativeChannelPortError.toString : NativeChannelPortError → String
  | .noActiveClient => "no active Native client is available"
  | .sessionNotSubscribed sessionId =>
    let session := sessionId.toString
    s!"Native client is not subscribed to session {session}"
  | .protocol source =>
    let text := source.toString
    s!"failed to encode Native domain delivery: {text}"
  | .queueFull capacity => s!"Native client output queue reached its {capacity}-frame limit"

namespace NativeChannelPort

variable (codec : NativeCodec)

def encodedText (message : NativeServerMessage) : Except NativeChannelPortError Frame :=
  (encodeServerMessage codec message).mapError .protocol

/-- The context of a live frame: of the session being synchronized, or of a
subscribed one. -/
def deliveryContext (client : ActiveClient) (sessionId : SessionId)
    (eventRoute : Option ChannelEventRoute) :
    Except NativeChannelPortError NativeDeliveryContext :=
  match client.pendingFor sessionId with
  | some pending =>
    match eventRoute with
    | some route => .ok (.liveEvent (.fromCore route))
    | none =>
      if pending.frames.isEmpty then .ok (.subscriptionSession pending.requestId)
      else .ok .liveSession
  | none =>
    if client.subscriptions.contains sessionId then
      match eventRoute with
      | some route => .ok (.liveEvent (.fromCore route))
      | none => .ok .liveSession
    else .error (.sessionNotSubscribed sessionId)

def deliver (self : DeliveryState) (sessionId : SessionId) (message : ProtocolMessage)
    (eventRoute : Option ChannelEventRoute) :
    DeliveryState × Except NativeChannelPortError Unit :=
  match self.client with
  | none => (self, .error .noActiveClient)
  | some client =>
    match deliveryContext client sessionId eventRoute with
    | .error e => (self, .error e)
    | .ok context =>
      match encodedText codec (.domain context message) with
      | .error e => (self, .error e)
      | .ok frame =>
        match client.pendingFor sessionId with
        | some pending =>
          if self.capacity ≤ self.queuedLen then
            (self.abortFull, .error (.queueFull self.capacity))
          else if pending.syncDelivered then
            (self.setPending (some { pending with
              trailingFrames := pending.trailingFrames ++ [frame] }), .ok ())
          else
            (self.setPending (some { pending with frames := pending.frames ++ [frame] }), .ok ())
        | none => (self.enqueue frame).map id (Except.mapError .queueFull)

def deliverEvent (self : DeliveryState) (event : AgentEvent) (route : ChannelEventRoute) :
    DeliveryState × Except NativeChannelPortError Unit :=
  deliver codec self event.sessionId (.agentEvent event) (some route)

def deliverSession (self : DeliveryState) (session : AgentSession) :
    DeliveryState × Except NativeChannelPortError Unit :=
  deliver codec self session.id (.agentSession session) none

/-- The frames of a baseline: its session and every pending interaction. -/
def baselineFrames (requestId : String) (baseline : ChannelSessionBaseline) :
    Except NativeChannelPortError (List Frame) := do
  let session ← encodedText codec
    (.domain (.subscriptionSession requestId) (.agentSession baseline.session))
  let interactions ← baseline.pendingInteractions.mapM fun interaction =>
    encodedText codec
      (.domain (.subscriptionInteraction requestId (.fromCore (.interaction interaction.route)))
        (.interactionRequest interaction.request))
  .ok (session :: interactions)

def eventFrames (sessionId : SessionId) (events : List RoutedAgentEvent) :
    Except NativeChannelPortError (List Frame) :=
  events.mapM fun routed =>
    if routed.event.sessionId ≠ sessionId then .error (.sessionNotSubscribed sessionId)
    else encodedText codec (.domain (.liveEvent (.fromCore routed.route)) (.agentEvent routed.event))

/-- The frames of one page, and of its baseline when it is the last one. -/
def syncFrames (sessionId : SessionId) (requestId : String) (sync : ChannelSessionSync) :
    Except NativeChannelPortError (List Frame) := do
  let events ← eventFrames codec sessionId sync.events
  let baseline ← match sync.baseline with
    | some baseline => baselineFrames codec requestId baseline
    | none => .ok []
  .ok (events ++ baseline)

/-- Adds frames to the synchronization in progress and marks it delivered. -/
def extendPending (self : DeliveryState) (sessionId : SessionId) (requestId : String)
    (frames : List Frame) : DeliveryState × Except NativeChannelPortError Unit :=
  if self.capacity < self.queuedLen + frames.length then
    (self.abortFull, .error (.queueFull self.capacity))
  else
    match self.pending?.filter fun pending =>
        pending.sessionId = sessionId ∧ pending.requestId = requestId with
    | none => (self, .error .noActiveClient)
    | some pending =>
      (self.setPending (some { pending with
        frames := pending.frames ++ frames
        syncDelivered := true }), .ok ())

def deliverSessionBaseline (self : DeliveryState) (baseline : ChannelSessionBaseline) :
    DeliveryState × Except NativeChannelPortError Unit :=
  match self.pending? with
  | none => (self, .error .noActiveClient)
  | some pending =>
    if pending.sessionId ≠ baseline.session.id then
      (self, .error (.sessionNotSubscribed baseline.session.id))
    else
      match baselineFrames codec pending.requestId baseline with
      | .error e => (self, .error e)
      | .ok frames => extendPending self baseline.session.id pending.requestId frames

def deliverSessionSync (self : DeliveryState) (sync : ChannelSessionSync) :
    DeliveryState × Except NativeChannelPortError Unit :=
  match self.pending? with
  | none => (self, .error .noActiveClient)
  | some pending =>
    match syncFrames codec pending.sessionId pending.requestId sync with
    | .error e => (self, .error e)
    | .ok frames => extendPending self pending.sessionId pending.requestId frames

/-- The channel port interface. Provider calls never reach a channel port. -/
def call (self : DeliveryState) :
    PortCall → DeliveryState × Except NativeChannelPortError Unit
  | .deliverEvent _ event route => deliverEvent codec self event route
  | .deliverSession _ session => deliverSession codec self session
  | .deliverSessionBaseline _ baseline => deliverSessionBaseline codec self baseline
  | .deliverSessionSync _ sync => deliverSessionSync codec self sync
  | .acceptInteractionResponse _ _ => (self, .ok ())
  | .acceptCommand _ _ => (self, .ok ())

end NativeChannelPort

/-- The state behind all ports: the native delivery state and everything else. -/
structure NativeWorld (Other : Type) where
  delivery : DeliveryState
  others : Other

/-- The ports of a host with one native channel. -/
def nativePorts {Other : Type} (codec : NativeCodec) (channelId : ChannelId)
    (otherPorts : Ports Other) : Ports (NativeWorld Other) := fun world call =>
  if call.channelId? = some channelId then
    (NativeChannelPort.call codec world.delivery call).map
      (fun delivery => { world with delivery := delivery })
      (Except.mapError NativeChannelPortError.toString)
  else
    (otherPorts world.others call).map (fun others => { world with others := others }) id

end AgentPulse
