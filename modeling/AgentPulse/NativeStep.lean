import AgentPulse.NativeSection

/-!
# What one step of the native channel can do

The sections of the worker, the calls of the port and the steps of the other
threads are read once, into the list `Move`. The later modules take a step
apart through it and never unfold a section again.
-/
namespace AgentPulse

open Std (ExtTreeMap ExtTreeSet)

/-- The sections in which no subscription is being changed. -/
def WorkerPc.quiet : WorkerPc → Bool
  | .subscribeCursor _ _ | .subscribeSync _ _ _ | .subscribeFailed _ _ _ | .subscribeCommit _ _ _
  | .unsubscribeRecord _ _ _ | .unsubscribing _ _ => false
  | _ => true

/-- What holds of the data that a quiet section carries. -/
def WorkerPc.Ready (codec : NativeCodec) : WorkerPc → Prop
  | .subscribe requestId _ => validateUuidV7 codec "request_id" requestId = .ok ()
  | .reply message => message.isControl = true
  | .reject message => message.isControl = true
  | pc => pc.quiet = true

namespace NativeSystem

variable {Other : Type} (codec : NativeCodec) (config : NativeChannelConfig)
  (otherPorts : Ports Other)

def drained (self : NativeSystem Other) : List Frame :=
  match self.connection with
  | none => []
  | some connection => connection.drained

/-- Everything queued for the client since its hello, in order. -/
def log (self : NativeSystem Other) : List Frame := self.drained ++ self.delivery.outgoing

/-- What a section of the worker leaves behind. -/
structure Becomes (before after : NativeSystem Other) (state : DeliveryState)
    (taken : List Frame) (target : WorkerPc) : Prop where
  bridge : after.bridge = (before.setDelivery state).bridge
  publication : after.publication = before.publication
  pc : after.pc = target
  drained : after.drained = taken

/-- All the ways in which one step can change the system. -/
inductive Move (self next : NativeSystem Other) : Prop where
  | stay : next = self → Move self next
  -- other threads
  | foreign (bridge : Bridge (NativeWorld Other)) : self.publication = none →
      Bridge.Quiet self.bridge bridge → Untouched config.channelId self.bridge bridge →
      next = { self with bridge := bridge } → Move self next
  | published (providerId : ProviderId) (event : AgentEvent) (provider : ProviderDescriptor)
      (session : AgentSession) (routes : List EventRoute) (aggregate : SessionAggregate) :
      self.publication = none →
      Bridge.Committed self.bridge providerId event provider session routes aggregate →
      next = { self with
        bridge := self.bridge.withSession event.sessionId aggregate
        publication := some ⟨event, Bridge.sessionViewOf routes aggregate, routes, none, []⟩ } →
      Move self next
  | ended (publication : Publication) : self.publication = some publication →
      (publication.routes = [] ∨
        ∃ route ∈ publication.routes, route.channelId ∉ self.bridge.channels) →
      next = { self with publication := none } → Move self next
  | passedEvent (publication : Publication) (route : EventRoute) (others : Other)
      (result : Except BoxAdapterError Unit) : self.publication = some publication →
      publication.routes.head? = some route → publication.handoff = none →
      route.channelId ≠ config.channelId →
      next = { self with
        bridge := self.bridge.setWorld { self.bridge.world with others := others }
        publication := some (publication.afterEvent route result) } → Move self next
  | passedView (publication : Publication) (route : EventRoute) (session : AgentSession)
      (others : Other) (result : Except BoxAdapterError Unit) :
      self.publication = some publication → publication.routes.head? = some route →
      publication.handoff = some session → route.channelId ≠ config.channelId →
      next = { self with
        bridge := self.bridge.setWorld { self.bridge.world with others := others }
        publication := some (publication.afterView route result) } → Move self next
  | handedEvent (publication : Publication) (route : EventRoute) (delivery : DeliveryState)
      (result : Except NativeChannelPortError Unit) : self.publication = some publication →
      publication.routes.head? = some route → publication.handoff = none →
      route.channelId = config.channelId →
      NativeChannelPort.deliverEvent codec self.delivery publication.event route.route =
        (delivery, result) →
      next = { self.setDelivery delivery with
        publication := some (publication.afterEvent route
          (result.mapError NativeChannelPortError.toString)) } → Move self next
  | handedView (publication : Publication) (route : EventRoute) (session : AgentSession)
      (delivery : DeliveryState) (result : Except NativeChannelPortError Unit) :
      self.publication = some publication → publication.routes.head? = some route →
      publication.handoff = some session → route.channelId = config.channelId →
      NativeChannelPort.deliverSession codec self.delivery session = (delivery, result) →
      next = { self.setDelivery delivery with
        publication := some (publication.afterView route
          (result.mapError NativeChannelPortError.toString)) } → Move self next
  -- the worker away from subscriptions
  | turn (pc : WorkerPc) : self.pc.quiet = true → pc.Ready codec →
      Becomes self next self.delivery self.drained pc → Move self next
  | drained (frame : Frame) (rest : List Frame) (pc : WorkerPc) : self.pc.quiet = true →
      pc.Ready codec → self.delivery.outgoing = frame :: rest →
      Becomes self next { self.delivery with outgoing := rest } (self.drained ++ [frame]) pc →
      Move self next
  | opened (sessionCursors : ExtTreeMap SessionId Nat) (resumeAccepted : Bool)
      (message : NativeServerMessage) : self.pc = .hello sessionCursors resumeAccepted →
      message.isControl = true →
      Becomes self next (self.delivery.openClient sessionCursors) [] (.reply message) →
      Move self next
  | queued (message : NativeServerMessage) :
      self.pc = .reply message ∨ self.pc = .reject message →
      Becomes self next (self.delivery.append [message]) self.drained .accepting → Move self next
  | full (pc : WorkerPc) : self.pc.quiet = true → pc.Ready codec →
      Becomes self next self.delivery.abortFull self.drained pc → Move self next
  | discovered (requestId : String) (snapshot : ChannelDiscoverySnapshot) (frames : List Frame)
      (sessions : ExtTreeSet SessionId) : self.pc = .discoverBatch requestId snapshot →
      DeliveryState.discoveryFrames codec requestId snapshot = .ok frames →
      Becomes self next ((self.delivery.append frames).updateClient fun client =>
        { client with discovered := sessions }) self.drained .accepting → Move self next
  | submitted (bridge : Bridge (NativeWorld Other)) (pc : WorkerPc) : self.publication = none →
      self.pc.quiet = true → pc.Ready codec → Bridge.Quiet self.bridge bridge →
      Untouched config.channelId self.bridge bridge →
      next = { self with bridge := bridge, pc := pc } → Move self next
  -- a subscribe request
  | already (requestId : String) (sessionId : SessionId) (client : ActiveClient)
      (baseline : EventSequence) : self.pc = .subscribe requestId sessionId →
      self.delivery.client = some client → sessionId ∈ client.subscriptions →
      client.sessionCursors[sessionId]? = some baseline.get →
      Becomes self next (self.delivery.append
        [.subscriptionResult requestId sessionId .alreadySubscribed baseline 0 0 false])
        self.drained .accepting → Move self next
  | began (requestId : String) (sessionId : SessionId) (client : ActiveClient) :
      self.pc = .subscribe requestId sessionId → self.delivery.client = some client →
      sessionId ∉ client.subscriptions →
      Becomes self next (self.delivery.setPending (some ⟨requestId, sessionId, [], [], false⟩))
        self.drained (.subscribeCursor requestId sessionId) → Move self next
  | asked (requestId : String) (sessionId : SessionId) :
      self.pc = .subscribeCursor requestId sessionId →
      Becomes self next self.delivery self.drained
        (.subscribeSync requestId sessionId (self.delivery.cursor sessionId)) → Move self next
  | syncRefused (requestId : String) (sessionId : SessionId) (afterSequence : Nat)
      (e : SubscriptionError) (delivery : DeliveryState) :
      self.pc = .subscribeSync requestId sessionId afterSequence → self.publication = none →
      delivery = self.delivery ∨ delivery = self.delivery.abortFull →
      Becomes self next delivery self.drained (.subscribeFailed requestId sessionId e) →
      Move self next
  | syncAgain (requestId : String) (sessionId : SessionId) (afterSequence : Nat)
      (outcome : SessionSyncOutcome) :
      self.pc = .subscribeSync requestId sessionId afterSequence → self.publication = none →
      self.bridge.isSubscribed config.channelId sessionId = true →
      Becomes self next self.delivery self.drained
        (.subscribeCommit requestId sessionId outcome) → Move self next
  | synced (requestId : String) (sessionId : SessionId) (afterSequence : Nat)
      (channel : ChannelDescriptor) (aggregate : SessionAggregate) (provider : ProviderDescriptor)
      (sync : ChannelSessionSync) (pending : PendingSubscription) :
      self.pc = .subscribeSync requestId sessionId afterSequence → self.publication = none →
      Bridge.Syncs self.bridge config.channelId sessionId afterSequence sessionSyncPageEvents
        channel aggregate provider sync →
      self.delivery.pending? = some pending →
      next = { self with
        bridge := self.bridge.afterSync config.channelId sessionId sync { self.bridge.world with
          delivery := self.delivery.setPending (some (pending.withSync sync)) }
        pc := .subscribeCommit requestId sessionId (Bridge.syncOutcome sync) } → Move self next
  | syncFailed (requestId : String) (sessionId : SessionId) (e : SubscriptionError)
      (message : NativeServerMessage) : self.pc = .subscribeFailed requestId sessionId e →
      message.isControl = true →
      Becomes self next (self.delivery.setPending none) self.drained (.reject message) →
      Move self next
  | committed (requestId : String) (sessionId : SessionId) (outcome : SessionSyncOutcome)
      (baseline : EventSequence) (pending : PendingSubscription) :
      self.pc = .subscribeCommit requestId sessionId outcome →
      eventSequence? outcome.throughSequence = some baseline →
      self.delivery.pending? = some pending → self.delivery.BatchFits pending →
      Becomes self next (((self.delivery.setPending none).append
        (DeliveryState.commitBatch requestId sessionId outcome baseline pending)).recordSync
          sessionId outcome) self.drained .accepting → Move self next
  | overflowed (requestId : String) (sessionId : SessionId) (outcome : SessionSyncOutcome)
      (pending : PendingSubscription) : self.pc = .subscribeCommit requestId sessionId outcome →
      self.delivery.pending? = some pending → ¬ self.delivery.BatchFits pending →
      Becomes self next (self.delivery.setPending none).abortFull self.drained
        (.disconnect false) → Move self next
  | broken (requestId : String) (sessionId : SessionId) (outcome : SessionSyncOutcome) :
      self.pc = .subscribeCommit requestId sessionId outcome →
      (eventSequence? outcome.throughSequence = none ∨
        validateUuidV7 codec "request_id" requestId ≠ .ok () ∨ self.delivery.pending? = none) →
      (∃ delivery pc, Becomes self next delivery self.drained pc) → Move self next
  -- unsubscribe and disconnect
  | unsubscribed (requestId : String) (sessionId : SessionId) (outcome : UnsubscribeOutcome) :
      self.pc = .unsubscribe requestId sessionId → self.publication = none →
      next = { self with
        bridge := (self.bridge.unsubscribe config.channelId sessionId).1
        pc := .unsubscribeRecord requestId sessionId outcome } → Move self next
  | removed (requestId : String) (sessionId : SessionId) (outcome : UnsubscribeOutcome)
      (message : NativeServerMessage) :
      self.pc = .unsubscribeRecord requestId sessionId outcome → message.isControl = true →
      Becomes self next (self.delivery.removeSubscription sessionId) self.drained
        (.reply message) → Move self next
  | leaving (last : Bool) : self.pc = .disconnect last →
      Becomes self next self.delivery self.drained
        (.unsubscribing self.delivery.subscriptionList last) → Move self next
  | left (sessionId : SessionId) (remaining : List SessionId) (last : Bool) :
      self.pc = .unsubscribing (sessionId :: remaining) last → self.publication = none →
      next = { self with
        bridge := (self.bridge.unsubscribe config.channelId sessionId).1
        pc := .unsubscribing remaining last } → Move self next
  | cleared (last : Bool) (pc : WorkerPc) : self.pc = .unsubscribing [] last → pc.Ready codec →
      Becomes self next self.delivery.clearConnection [] pc → Move self next

@[simp] theorem setDelivery_delivery (self : NativeSystem Other) (delivery : DeliveryState) :
    (self.setDelivery delivery).delivery = delivery := rfl

theorem becomes_pc (self : NativeSystem Other) (pc : WorkerPc) :
    Becomes self { self with pc := pc } self.delivery self.drained pc := ⟨rfl, rfl, rfl, rfl⟩

theorem becomes_settle_ok (self : NativeSystem Other) (delivery : DeliveryState) :
    Becomes self ((self.setDelivery delivery).settle (.ok ())) delivery self.drained
      .accepting := by
  refine ⟨rfl, rfl, rfl, ?_⟩
  unfold NativeSystem.drained settle setDelivery
  cases self.connection <;> rfl

theorem becomes_settle_recoverable (self : NativeSystem Other) (delivery : DeliveryState)
    (message : NativeServerMessage) :
    Becomes self ((self.setDelivery delivery).settle (.error (.recoverable message))) delivery
      self.drained (.reject message) := ⟨rfl, rfl, rfl, rfl⟩

theorem becomes_settle_fatal (self : NativeSystem Other) (delivery : DeliveryState)
    (e : NativeProtocolError) :
    Becomes self ((self.setDelivery delivery).settle (.error (.fatal e))) delivery self.drained
      (.disconnect false) := ⟨rfl, rfl, rfl, rfl⟩

/-- Whatever a section ends with, the bridge and the frames already sent stay. -/
theorem becomes_settle (self : NativeSystem Other) (delivery : DeliveryState)
    (result : Except ConnectionFailure Unit) :
    ∃ pc, Becomes self ((self.setDelivery delivery).settle result) delivery self.drained pc := by
  cases result with
  | ok u => exact ⟨_, becomes_settle_ok self delivery⟩
  | error failure =>
    cases failure with
    | recoverable message => exact ⟨_, becomes_settle_recoverable self delivery message⟩
    | fatal e => exact ⟨_, becomes_settle_fatal self delivery e⟩

theorem move_settle_recoverable {self : NativeSystem Other} (hquiet : self.pc.quiet = true)
    {message : NativeServerMessage} (hcontrol : message.isControl = true) :
    Move codec config self (self.settle (.error (.recoverable message))) :=
  .turn (.reject message) hquiet hcontrol (becomes_settle_recoverable self self.delivery message)

theorem move_settle_fatal {self : NativeSystem Other} (hquiet : self.pc.quiet = true)
    (e : NativeProtocolError) : Move codec config self (self.settle (.error (.fatal e))) :=
  .turn (.disconnect false) hquiet rfl (becomes_settle_fatal self self.delivery e)

theorem pollListener_move (self : NativeSystem Other) (input : WorkerInput)
    (hpc : self.pc.quiet = true) : Move codec config self (self.pollListener input) := by
  have hturn : ∀ pc : WorkerPc, pc.Ready codec → Move codec config self { self with pc := pc } :=
    fun pc hready => .turn pc hpc hready (becomes_pc self pc)
  unfold pollListener
  split
  · exact hturn (.disconnect true) rfl
  · split
    · exact hturn .checking rfl
    · next connectionId authenticatedClientId hnone =>
      refine .turn .checking hpc rfl ⟨rfl, rfl, rfl, ?_⟩
      cases hconnection : self.connection with
      | none => simp [NativeSystem.drained, hconnection]
      | some connection => simp [hconnection] at hnone
  · split
    · exact hturn .checking rfl
    · exact .stay rfl

theorem readSocket_move (self : NativeSystem Other) (connection : Connection)
    (input : WorkerInput) (hpc : self.pc.quiet = true) :
    Move codec config self (self.readSocket codec config connection input) := by
  have hturn : ∀ pc : WorkerPc, pc.Ready codec → Move codec config self { self with pc := pc } :=
    fun pc hready => .turn pc hpc hready (becomes_pc self pc)
  cases input with
  | proceed => exact hturn .accepting rfl
  | accept connectionId authenticatedClientId => exact hturn .accepting rfl
  | fail => exact hturn (.disconnect false) rfl
  | malformed => exact hturn (.disconnect false) rfl
  | message message =>
    simp only [readSocket]
    cases hvalid : validateClientMessage codec message with
    | error e => exact hturn (.disconnect false) rfl
    | ok u =>
      by_cases hready : connection.handshaken = true
      · simp only [hready, if_true]
        cases message with
        | hello =>
          exact move_settle_fatal codec config hpc (.invalidField "client_hello"
            "client hello may only be sent once")
        | discover requestId => exact hturn (.discover requestId) rfl
        | subscribe requestId sessionId => exact hturn (.subscribe requestId sessionId) hvalid
        | unsubscribe requestId sessionId => exact hturn (.unsubscribe requestId sessionId) rfl
        | submitInteractionResponse requestId response => exact hturn (.respond requestId response) rfl
        | submitCommand requestId command => exact hturn (.command requestId command) rfl
      · simp only [hready]
        cases message with
        | hello clientId displayName version versions hostRunId sessionCursors =>
          simp only [processHello, Bool.false_eq_true, if_false]
          split
          · exact move_settle_fatal codec config hpc _
          · split
            · exact move_settle_fatal codec config hpc _
            · exact hturn _ rfl
        | _ =>
          exact move_settle_fatal codec config hpc (.invalidField "first client message"
            "expected client_hello")

theorem commitDiscover_move {self : NativeSystem Other} {requestId : String}
    {snapshot : ChannelDiscoverySnapshot} (hpc : self.pc = .discoverBatch requestId snapshot) :
    Move codec config self ((self.setDelivery
      (self.delivery.commitDiscover codec requestId snapshot).1).settle
      (self.delivery.commitDiscover codec requestId snapshot).2) := by
  have hquiet : self.pc.quiet = true := by rw [hpc]; rfl
  unfold DeliveryState.commitDiscover
  cases hframes : DeliveryState.discoveryFrames codec requestId snapshot with
  | error e => exact move_settle_fatal codec config hquiet e
  | ok frames =>
    by_cases hfull : self.delivery.capacity < self.delivery.queuedLen + frames.length
    · simp only [DeliveryState.enqueueBatch, if_pos hfull]
      exact .full (.disconnect false) hquiet rfl (becomes_settle_fatal self _ _)
    · simp only [DeliveryState.enqueueBatch, if_neg hfull]
      exact .discovered requestId snapshot frames _ hpc hframes (becomes_settle_ok self _)

theorem beginSubscribe_move {self : NativeSystem Other} {requestId : String}
    {sessionId : SessionId} (hpc : self.pc = .subscribe requestId sessionId)
    (input : WorkerInput) : Move codec config self (self.localStep codec config input) := by
  have hquiet : self.pc.quiet = true := by rw [hpc]; rfl
  simp only [localStep, hpc]
  rcases self.delivery.beginSubscribe_cases codec requestId sessionId with
    ⟨message, hcontrol, h⟩ | ⟨e, h⟩ | ⟨e, h⟩ | ⟨client, baseline, hclient, hmem, hcursor, h⟩ |
    ⟨client, hclient, -, hmem, -, h⟩
  · rw [h]
    exact .turn (.reject message) hquiet hcontrol
      (becomes_settle_recoverable self self.delivery message)
  · rw [h]
    exact .turn (.disconnect false) hquiet rfl (becomes_settle_fatal self self.delivery e)
  · rw [h]
    exact .full (.disconnect false) hquiet rfl (becomes_settle_fatal self _ e)
  · rw [h]
    exact .already requestId sessionId client baseline hpc hclient hmem hcursor
      (becomes_settle_ok self _)
  · rw [h]
    exact .began requestId sessionId client hpc hclient hmem ⟨rfl, rfl, rfl, rfl⟩

theorem commitSubscribe_move {self : NativeSystem Other} {requestId : String}
    {sessionId : SessionId} {outcome : SessionSyncOutcome}
    (hpc : self.pc = .subscribeCommit requestId sessionId outcome) :
    Move codec config self ((self.setDelivery
      (self.delivery.commitSubscribe codec requestId sessionId outcome).1).settle
      (self.delivery.commitSubscribe codec requestId sessionId outcome).2) := by
  rcases self.delivery.commitSubscribe_cases codec requestId sessionId outcome with
    ⟨baseline, pending, hbaseline, hpending, hfits, h⟩ | ⟨pending, e, hpending, hfull, h⟩ | h
  · rw [h]
    exact .committed requestId sessionId outcome baseline pending hpc hbaseline hpending hfits
      (becomes_settle_ok self _)
  · rw [h]
    exact .overflowed requestId sessionId outcome pending hpc hpending hfull
      (becomes_settle_fatal self _ e)
  · exact .broken requestId sessionId outcome hpc h ⟨_, becomes_settle self _ _⟩

theorem enqueueControl_move {self : NativeSystem Other} {message : NativeServerMessage}
    (hpc : self.pc = .reply message ∨ self.pc = .reject message) (input : WorkerInput) :
    Move codec config self (self.localStep codec config input) := by
  have hquiet : self.pc.quiet = true := by rcases hpc with hpc | hpc <;> rw [hpc] <;> rfl
  rcases self.delivery.enqueueControl_cases codec message with ⟨e, h⟩ | ⟨e, h⟩ | h
  · rcases hpc with hpc | hpc <;> simp only [localStep, hpc, h]
    · exact .turn (.disconnect false) hquiet rfl (becomes_settle_fatal self self.delivery e)
    · exact .turn .accepting hquiet rfl ⟨rfl, rfl, rfl, rfl⟩
  · rcases hpc with hpc | hpc <;> simp only [localStep, hpc, h]
    · exact .full (.disconnect false) hquiet rfl (becomes_settle_fatal self _ e)
    · exact .full .accepting hquiet rfl ⟨rfl, rfl, rfl, rfl⟩
  · refine .queued message hpc ?_
    rcases hpc with hpc | hpc <;> simp only [localStep, hpc, h]
    · exact becomes_settle_ok self _
    · exact ⟨rfl, rfl, rfl, rfl⟩

theorem runtimeFailure_control (requestId : Option String) (e : SubscriptionError) :
    ∃ message, NativeServerMessage.isControl message = true ∧
      runtimeFailure codec requestId e = .recoverable message := ⟨_, rfl, rfl⟩

theorem interactionResponseFailure_control (requestId : String) (e : ChannelActionError) :
    ∃ message, NativeServerMessage.isControl message = true ∧
      interactionResponseFailure codec requestId e = .recoverable message := ⟨_, rfl, rfl⟩

/-- A section that does not call the bridge is one of the listed moves. -/
theorem localStep_move (self : NativeSystem Other) (input : WorkerInput)
    (hcalls : self.pc.callsBridge = false) :
    Move codec config self (self.localStep codec config input) := by
  have hturn : ∀ pc : WorkerPc, self.pc.quiet = true → pc.Ready codec →
      Move codec config self { self with pc := pc } :=
    fun pc hquiet hready => .turn pc hquiet hready (becomes_pc self pc)
  cases hpc : self.pc with
  | accepting =>
    have hquiet : self.pc.quiet = true := by rw [hpc]; rfl
    simp only [localStep, hpc]
    exact pollListener_move codec config self input hquiet
  | checking =>
    have hquiet : self.pc.quiet = true := by rw [hpc]; rfl
    simp only [localStep, hpc]
    split
    · exact hturn _ hquiet rfl
    · split
      · exact hturn _ hquiet rfl
      · exact hturn _ hquiet rfl
  | draining =>
    have hquiet : self.pc.quiet = true := by rw [hpc]; rfl
    simp only [localStep, hpc]
    split
    · exact hturn _ hquiet rfl
    · next connection hconnection =>
      unfold drainOne
      split
      · exact hturn _ hquiet rfl
      · next frame rest houtgoing =>
        refine .drained frame rest _ hquiet ?_ houtgoing ⟨rfl, rfl, rfl, ?_⟩
        · cases input <;> rfl
        · simp [NativeSystem.drained, hconnection]
  | reading =>
    have hquiet : self.pc.quiet = true := by rw [hpc]; rfl
    simp only [localStep, hpc]
    split
    · exact hturn _ hquiet rfl
    · exact readSocket_move codec config self _ input hquiet
  | hello sessionCursors resumeAccepted =>
    have hquiet : self.pc.quiet = true := by rw [hpc]; rfl
    simp only [localStep, hpc]
    split
    · exact hturn _ hquiet rfl
    · exact .opened sessionCursors resumeAccepted _ hpc rfl ⟨rfl, rfl, rfl, rfl⟩
  | discover requestId =>
    have hquiet : self.pc.quiet = true := by rw [hpc]; rfl
    simp only [localStep, hpc]
    unfold DeliveryState.checkDiscover
    cases self.delivery.client with
    | none => exact move_settle_recoverable codec config hquiet rfl
    | some client =>
      by_cases hpending : client.pending.isSome = true
      · simp only [hpending, if_true]
        exact move_settle_recoverable codec config hquiet rfl
      · simp only [hpending]
        exact hturn _ hquiet rfl
  | discoverSnapshot requestId => simp [hpc, WorkerPc.callsBridge] at hcalls
  | discoverBatch requestId snapshot =>
    simp only [localStep, hpc]
    exact commitDiscover_move codec config hpc
  | subscribe requestId sessionId => exact beginSubscribe_move codec config hpc input
  | subscribeCursor requestId sessionId =>
    simp only [localStep, hpc]
    exact .asked requestId sessionId hpc ⟨rfl, rfl, rfl, rfl⟩
  | subscribeSync requestId sessionId afterSequence =>
    simp [hpc, WorkerPc.callsBridge] at hcalls
  | subscribeFailed requestId sessionId e =>
    obtain ⟨message, hcontrol, hfailure⟩ := runtimeFailure_control codec (some requestId) e
    simp only [localStep, hpc, hfailure]
    exact .syncFailed requestId sessionId e message hpc hcontrol
      (becomes_settle_recoverable self _ message)
  | subscribeCommit requestId sessionId outcome =>
    simp only [localStep, hpc]
    exact commitSubscribe_move codec config hpc
  | unsubscribe requestId sessionId => simp [hpc, WorkerPc.callsBridge] at hcalls
  | unsubscribeRecord requestId sessionId outcome =>
    simp only [localStep, hpc]
    exact .removed requestId sessionId outcome _ hpc rfl ⟨rfl, rfl, rfl, rfl⟩
  | respond requestId response =>
    have hquiet : self.pc.quiet = true := by rw [hpc]; rfl
    simp only [localStep, hpc]
    split
    · exact hturn _ hquiet rfl
    · exact move_settle_recoverable codec config hquiet rfl
  | submitResponse requestId response => simp [hpc, WorkerPc.callsBridge] at hcalls
  | command requestId command =>
    have hquiet : self.pc.quiet = true := by rw [hpc]; rfl
    simp only [localStep, hpc]
    split
    · exact hturn _ hquiet rfl
    · exact move_settle_recoverable codec config hquiet rfl
  | submitCommand requestId command => simp [hpc, WorkerPc.callsBridge] at hcalls
  | reply message => exact enqueueControl_move codec config (.inl hpc) input
  | reject message => exact enqueueControl_move codec config (.inr hpc) input
  | disconnect last =>
    simp only [localStep, hpc]
    exact .leaving last hpc ⟨rfl, rfl, rfl, rfl⟩
  | unsubscribing remaining last =>
    cases remaining with
    | nil =>
      simp only [localStep, hpc]
      refine .cleared last _ hpc ?_ ⟨rfl, rfl, rfl, rfl⟩
      cases last <;> rfl
    | cons sessionId remaining => simp [hpc, WorkerPc.callsBridge] at hcalls
  | stopped =>
    simp only [localStep, hpc]
    exact .stay rfl

theorem nativePorts_native (world : NativeWorld Other) {call : PortCall} {channelId : ChannelId}
    (h : call.channelId? = some channelId) :
    nativePorts codec channelId otherPorts world call =
      (NativeChannelPort.call codec world.delivery call).map
        (fun delivery => { world with delivery := delivery })
        (Except.mapError NativeChannelPortError.toString) := by
  unfold nativePorts
  rw [if_pos h]

theorem syncSession_move {self : NativeSystem Other} {requestId : String} {sessionId : SessionId}
    {afterSequence : Nat} (hpc : self.pc = .subscribeSync requestId sessionId afterSequence)
    (hfree : self.publication = none) :
    Move codec config self (self.bridgeStep codec config otherPorts) := by
  simp only [bridgeStep, hpc]
  rcases Bridge.syncSession_cases (nativePorts codec config.channelId otherPorts) self.bridge
    config.channelId sessionId afterSequence sessionSyncPageEvents with ⟨e, he, -⟩ |
    ⟨aggregate, -, -, -, hsub, he⟩ |
    ⟨channel, aggregate, provider, sync, world, result, hsyncs, hport, he⟩
  · rw [he]
    exact .syncRefused requestId sessionId afterSequence e self.delivery hpc hfree (.inl rfl)
      ⟨rfl, rfl, rfl, rfl⟩
  · rw [he]
    exact .syncAgain requestId sessionId afterSequence _ hpc hfree hsub ⟨rfl, rfl, rfl, rfl⟩
  · -- the page reaches the native port itself
    have hcall : nativePorts codec config.channelId otherPorts self.bridge.world
        (.deliverSessionSync config.channelId sync) =
        (NativeChannelPort.deliverSessionSync codec self.delivery sync).map
          (fun delivery => { self.bridge.world with delivery := delivery })
          (Except.mapError NativeChannelPortError.toString) :=
      nativePorts_native codec otherPorts self.bridge.world rfl
    rw [hport] at hcall
    rw [he]
    rcases NativeChannelPort.deliverSessionSync_cases codec self.delivery sync with ⟨e, hd⟩ |
      ⟨e, hd⟩ | ⟨pending, hpending, hd⟩
    · rw [hd] at hcall
      cases hcall
      exact .syncRefused requestId sessionId afterSequence _ self.delivery hpc hfree (.inl rfl)
        ⟨rfl, rfl, rfl, rfl⟩
    · rw [hd] at hcall
      cases hcall
      exact .syncRefused requestId sessionId afterSequence _ self.delivery.abortFull hpc hfree
        (.inr rfl) ⟨rfl, rfl, rfl, rfl⟩
    · rw [hd] at hcall
      cases hcall
      exact .synced requestId sessionId afterSequence channel aggregate provider sync pending hpc
        hfree hsyncs hpending rfl

/-- So is a section that calls it, as no publication is under way then. -/
theorem bridgeStep_move (self : NativeSystem Other) (hcalls : self.pc.callsBridge = true)
    (hfree : self.publication = none) :
    Move codec config self (self.bridgeStep codec config otherPorts) := by
  cases hpc : self.pc with
  | discoverSnapshot requestId =>
    have hquiet : self.pc.quiet = true := by rw [hpc]; rfl
    simp only [bridgeStep, hpc]
    exact .turn (.discoverBatch requestId self.bridge.discoverySnapshot) hquiet rfl
      (becomes_pc self _)
  | subscribeSync requestId sessionId afterSequence =>
    exact syncSession_move codec config otherPorts hpc hfree
  | unsubscribe requestId sessionId =>
    have hquiet : self.pc.quiet = true := by rw [hpc]; rfl
    simp only [bridgeStep, hpc]
    cases hresult : self.bridge.unsubscribe config.channelId sessionId with
    | mk bridge result =>
      cases result with
      | ok outcome =>
        exact .unsubscribed requestId sessionId outcome hpc hfree (by rw [hresult])
      | error e =>
        have hsame : bridge = self.bridge := by
          unfold Bridge.unsubscribe at hresult
          split at hresult
          · cases hresult
            rfl
          · split at hresult <;> cases hresult
            rfl
        subst hsame
        obtain ⟨message, hcontrol, hfailure⟩ := runtimeFailure_control codec (some requestId) e
        simp only [hfailure]
        exact .turn (.reject message) hquiet hcontrol ⟨rfl, rfl, rfl, rfl⟩
  | submitResponse requestId response =>
    have hquiet : self.pc.quiet = true := by rw [hpc]; rfl
    have hstep := Bridge.step_quiet (nativePorts codec config.channelId otherPorts) self.bridge
      (.handleInteractionResponse config.channelId response) (by simp)
    have huntouched := untouched_handleInteractionResponse codec config.channelId otherPorts
      self.bridge config.channelId response
    simp only [Bridge.step, Prod.map_fst, id_eq] at hstep
    simp only [bridgeStep, hpc]
    cases hresult : self.bridge.handleInteractionResponse
        (nativePorts codec config.channelId otherPorts) config.channelId response with
    | mk bridge result =>
      rw [hresult] at hstep huntouched
      cases result with
      | ok u =>
        exact .submitted bridge (.reply (.interactionResponseResult requestId response.sessionId
          response.requestId.toString)) hfree hquiet rfl hstep huntouched rfl
      | error e =>
        obtain ⟨message, hcontrol, hfailure⟩ := interactionResponseFailure_control codec requestId e
        simp only [hfailure]
        exact .submitted bridge (.reject message) hfree hquiet hcontrol hstep huntouched rfl
  | submitCommand requestId command =>
    have hquiet : self.pc.quiet = true := by rw [hpc]; rfl
    have hstep := Bridge.step_quiet (nativePorts codec config.channelId otherPorts) self.bridge
      (.handleCommand config.channelId command) (by simp)
    have huntouched := untouched_handleCommand codec config.channelId otherPorts self.bridge
      config.channelId command
    simp only [Bridge.step, Prod.map_fst, id_eq] at hstep
    simp only [bridgeStep, hpc]
    cases hresult : self.bridge.handleCommand (nativePorts codec config.channelId otherPorts)
        config.channelId command with
    | mk bridge result =>
      rw [hresult] at hstep huntouched
      cases result with
      | ok u =>
        exact .submitted bridge (.reply (.commandResult requestId command.sessionId
          command.id.toString)) hfree hquiet rfl hstep huntouched rfl
      | error e =>
        obtain ⟨message, hcontrol, hfailure⟩ := interactionResponseFailure_control codec requestId e
        simp only [hfailure]
        exact .submitted bridge (.reject message) hfree hquiet hcontrol hstep huntouched rfl
  | unsubscribing remaining last =>
    cases remaining with
    | nil => simp [hpc, WorkerPc.callsBridge] at hcalls
    | cons sessionId remaining =>
      simp only [bridgeStep, hpc]
      exact .left sessionId remaining last hpc hfree rfl
  | _ => simp [hpc, WorkerPc.callsBridge] at hcalls

theorem publish_move (self : NativeSystem Other) (hfree : self.publication = none)
    (providerId : ProviderId) (event : AgentEvent) :
    Move codec config self (self.publish providerId event).1 := by
  unfold publish
  rcases Bridge.beginProviderEvent_cases self.bridge providerId event with ⟨e, he, -⟩ |
    ⟨old, -, -, he⟩ | ⟨provider, session, routes, aggregate, hcommitted, he⟩
  · rw [he]
    exact .stay rfl
  · rw [he]
    exact .stay rfl
  · rw [he]
    exact .published providerId event provider session routes aggregate hfree hcommitted rfl

/-- One handoff of a publication, to the native channel or to another one. -/
theorem deliverNext_move (self : NativeSystem Other) {publication : Publication}
    (hpublication : self.publication = some publication) :
    Move codec config self (self.deliverNext codec config otherPorts publication).1 := by
  unfold deliverNext
  cases hroutes : publication.routes with
  | nil => exact .ended publication hpublication (.inl hroutes) rfl
  | cons route rest =>
    have hhead : publication.routes.head? = some route := by rw [hroutes]; rfl
    cases hhandoff : publication.handoff with
    | none =>
      simp only
      split
      · next hmissing =>
        refine .ended publication hpublication (.inr ⟨route, by simp [hroutes], ?_⟩) rfl
        intro hmem
        rw [ExtTreeMap.contains_iff_mem.mpr hmem] at hmissing
        cases hmissing
      · by_cases hnative : route.channelId = config.channelId
        · have hcall : (PortCall.deliverEvent route.channelId publication.event
              route.route).channelId? = some config.channelId := congrArg some hnative
          rw [nativePorts_native codec otherPorts self.bridge.world hcall]
          exact .handedEvent publication route _ _ hpublication hhead hhandoff hnative rfl rfl
        · have hcall : (PortCall.deliverEvent route.channelId publication.event
              route.route).channelId? ≠ some config.channelId :=
            fun h => hnative (Option.some.inj h)
          rw [nativePorts_other codec config.channelId otherPorts self.bridge.world hcall]
          exact .passedEvent publication route _ _ hpublication hhead hhandoff hnative rfl
    | some session =>
      simp only
      by_cases hnative : route.channelId = config.channelId
      · have hcall : (PortCall.deliverSession route.channelId session).channelId? =
            some config.channelId := congrArg some hnative
        rw [nativePorts_native codec otherPorts self.bridge.world hcall]
        exact .handedView publication route session _ _ hpublication hhead hhandoff hnative rfl rfl
      · have hcall : (PortCall.deliverSession route.channelId session).channelId? ≠
            some config.channelId := fun h => hnative (Option.some.inj h)
        rw [nativePorts_other codec config.channelId otherPorts self.bridge.world hcall]
        exact .passedView publication route session _ _ hpublication hhead hhandoff hnative rfl

/-- Every step of the system is one of the listed moves. -/
theorem step_move (self : NativeSystem Other) (input : NativeInput) :
    Move codec config self (step codec config otherPorts self input).1 := by
  cases input with
  | worker input =>
    simp only [step]
    by_cases hcalls : self.pc.callsBridge = true
    · rw [if_pos hcalls]
      cases hpublication : self.publication with
      | some publication => exact .stay rfl
      | none => exact bridgeStep_move codec config otherPorts self hcalls hpublication
    · rw [if_neg hcalls]
      exact localStep_move codec config self input (by simpa using hcalls)
  | publish providerId event =>
    simp only [step]
    cases hpublication : self.publication with
    | some publication => exact .stay rfl
    | none => exact publish_move codec config self hpublication providerId event
  | deliver =>
    simp only [step]
    cases hpublication : self.publication with
    | none => exact .stay rfl
    | some publication => exact deliverNext_move codec config otherPorts self hpublication
  | foreign op =>
    simp only [step]
    cases hpublication : self.publication with
    | some publication => exact .stay rfl
    | none =>
      by_cases hop : op.isForeign config.channelId = true
      · have hquiet : ∀ providerId event, op ≠ .handleProviderEvent providerId event := by
          rintro providerId event rfl
          simp [BridgeOp.isForeign] at hop
        simp only [hop, Option.isSome_none, Bool.not_true, Bool.or_self, Bool.false_eq_true,
          if_false]
        exact .foreign _ hpublication
          (Bridge.step_quiet (nativePorts codec config.channelId otherPorts) self.bridge op hquiet)
          (untouched_foreign codec config.channelId otherPorts self.bridge hop)
          (by rw [hpublication])
      · simp only [hop]
        exact .stay rfl

end NativeSystem

end AgentPulse
