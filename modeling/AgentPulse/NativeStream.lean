import AgentPulse.NativeAgreement
import AgentPulse.BridgeCatchUp

/-!
# The frames of one session

A frame of a session is queued by the port, collected while the session is being
synchronized, or still owed by a publication in progress.
-/
namespace AgentPulse

open Std (ExtTreeMap ExtTreeSet)

/-- The session that a frame of a subscription is about. Answers to other
requests, those to a discovery among them, are about none. -/
def NativeServerMessage.session? : NativeServerMessage → Option SessionId
  | .subscriptionResult _ sessionId _ _ _ _ _ => some sessionId
  | .domain (.liveEvent _) (.agentEvent event) => some event.sessionId
  | .domain .liveSession (.agentSession session) => some session.id
  | .domain (.subscriptionSession _) (.agentSession session) => some session.id
  | .domain (.subscriptionInteraction _ _) (.interactionRequest request) => some request.sessionId
  | _ => none

def stream (sessionId : SessionId) (frames : List Frame) : List Frame :=
  frames.filter fun frame => frame.session? = some sessionId

@[simp] theorem stream_nil (sessionId : SessionId) : stream sessionId [] = [] := rfl

@[simp] theorem stream_append (sessionId : SessionId) (xs ys : List Frame) :
    stream sessionId (xs ++ ys) = stream sessionId xs ++ stream sessionId ys :=
  List.filter_append xs ys

theorem stream_eq_self {sessionId : SessionId} {frames : List Frame}
    (h : ∀ frame ∈ frames, frame.session? = some sessionId) : stream sessionId frames = frames := by
  rw [stream, List.filter_eq_self]
  intro frame hframe
  simpa using h frame hframe

theorem stream_eq_nil {sessionId : SessionId} {frames : List Frame}
    (h : ∀ frame ∈ frames, frame.session? ≠ some sessionId) : stream sessionId frames = [] := by
  rw [stream, List.filter_eq_nil_iff]
  intro frame hframe
  simpa using h frame hframe

theorem stream_other {sessionId other : SessionId} {frames : List Frame}
    (h : ∀ frame ∈ frames, frame.session? = some other) (hne : sessionId ≠ other) :
    stream sessionId frames = [] := by
  refine stream_eq_nil ?_
  intro frame hframe heq
  rw [h frame hframe] at heq
  exact hne (Option.some.inj heq).symm

theorem control_session? {message : NativeServerMessage} (h : message.isControl = true) :
    message.session? = none := by
  cases message <;> first | rfl | simp [NativeServerMessage.isControl] at h

theorem discoveryFrames_session? {codec : NativeCodec} {requestId : String}
    {snapshot : ChannelDiscoverySnapshot} {frames : List Frame}
    (h : DeliveryState.discoveryFrames codec requestId snapshot = .ok frames) :
    ∀ frame ∈ frames, frame.session? = none := by
  unfold DeliveryState.discoveryFrames at h
  rw [Fallible.bind_eq_ok] at h
  obtain ⟨started, hstarted, h⟩ := h
  rw [Fallible.bind_eq_ok] at h
  obtain ⟨providers, hproviders, h⟩ := h
  rw [Fallible.bind_eq_ok] at h
  obtain ⟨sessions, hsessions, h⟩ := h
  rw [Fallible.bind_eq_ok] at h
  obtain ⟨completed, hcompleted, h⟩ := h
  have h₁ := encodeServerMessage_eq codec hstarted
  have h₂ := Fallible.mapM_eq_map (fun provider frame hframe =>
    encodeServerMessage_eq codec hframe) hproviders
  have h₃ := Fallible.mapM_eq_map (fun entry frame hframe =>
    encodeServerMessage_eq codec hframe) hsessions
  have h₄ := encodeServerMessage_eq codec hcompleted
  cases h
  subst h₁ h₂ h₃ h₄
  intro frame hframe
  simp only [List.cons_append, List.mem_cons, List.mem_append, List.mem_map,
    List.not_mem_nil, or_false] at hframe
  obtain rfl | (⟨provider, -, rfl⟩ | ⟨entry, -, rfl⟩) | rfl := hframe <;> rfl

/-- The pending interactions of a stored session are its own. -/
theorem pendingInteractions_sessionId {World : Type} {bridge : Bridge World}
    {sessionId : SessionId} {aggregate : SessionAggregate} {history : List AgentEvent}
    {provider : ProviderDescriptor}
    (h : OwnedSession bridge.providers bridge.sessionConfig sessionId aggregate history provider)
    {id : InteractionId} {request : InteractionRequest}
    (hpending : aggregate.pendingInteractions[id]? = some request) :
    request.sessionId = sessionId := by
  obtain ⟨-, -, initial, -, -, hderived⟩ := SessionAggregate.reduces_derivedFrom h.reduces
  obtain ⟨event, ⟨before, after, rfl, -, -⟩, hp⟩ := (hderived.pending id request).mp hpending
  have hsid := (SessionAggregate.reduces_anchored h.reduces).sessionIds event
    (List.mem_append_right before List.mem_cons_self)
  rw [event.request_sessionId_eq hp, hsid, h.id]

/-- A page of the history behind the stored session. -/
structure Paged {World : Type} (bridge : Bridge World) (sessionId : SessionId)
    (requestedAfter : Nat) (sync : ChannelSessionSync) (history : List AgentEvent) : Prop where
  reduced : ∃ aggregate, bridge.sessions[sessionId]? = some aggregate ∧
    SessionAggregate.Reduces bridge.sessionConfig history aggregate
  page : Bridge.PageOf history requestedAfter sessionSyncPageEvents sync
  reset : sync.reset = true → history.length < requestedAfter
  numbered : SessionAggregate.Numbered history
  sessionIds : ∀ routed ∈ sync.events, routed.event.sessionId = sessionId
  baseline : ∀ baseline ∈ sync.baseline, baseline.session.id = sessionId ∧
    ∀ interaction ∈ baseline.pendingInteractions, interaction.request.sessionId = sessionId
  snapshot : ∀ baseline ∈ sync.baseline, ∃ aggregate, bridge.sessions[sessionId]? = some aggregate ∧
    baseline.session = aggregate.session ∧
    baseline.pendingInteractions.map RoutedInteractionRequest.request =
      OrderedMap.values aggregate.pendingInteractions

/-- A page starts over only for a cursor beyond the history: where the retained
events do not reach back to the cursor, they do not reach back to the start. -/
theorem sessionSync_reset {config : SessionAggregateConfig} {history : List AgentEvent}
    {aggregate : SessionAggregate} (h : SessionAggregate.Reduces config history aggregate)
    {provider : ProviderDescriptor} {channel : ChannelDescriptor} {channelId : ChannelId}
    {requestedAfter maxEvents : Nat} {sync : ChannelSessionSync}
    (hsync : Bridge.sessionSync provider channel channelId aggregate requestedAfter maxEvents =
      .ok sync) (hreset : sync.reset = true) : history.length < requestedAfter := by
  have hstart : ∃ afterSequence events, Bridge.pageOrReset channelId aggregate requestedAfter
      maxEvents = .ok (afterSequence, true, events) := by
    unfold Bridge.sessionSync at hsync
    rw [Fallible.bind_eq_ok] at hsync
    obtain ⟨⟨afterSequence, reset, events⟩, hpage, hsync⟩ := hsync
    simp only [Fallible.bind_eq_ok] at hsync
    obtain ⟨routed, -, hsync⟩ := hsync
    have hkept : sync.reset = reset := by
      split at hsync
      · rw [Fallible.bind_eq_ok] at hsync
        obtain ⟨baseline, -, hsync⟩ := hsync
        cases hsync
        rfl
      · cases hsync
        rfl
    rw [hkept] at hreset
    subst hreset
    exact ⟨afterSequence, events, hpage⟩
  obtain ⟨afterSequence, events, hpage⟩ := hstart
  unfold Bridge.pageOrReset at hpage
  cases hfirst : aggregate.retainedEventPageAfter requestedAfter maxEvents with
  | some page => simp [hfirst] at hpage
  | none =>
    cases hzero : aggregate.retainedEventPageAfter 0 maxEvents with
    | none => simp [hfirst, hzero] at hpage
    | some page =>
      rw [SessionAggregate.retainedEventPageAfter_eq h] at hfirst hzero
      split at hfirst
      · cases hfirst
      · split at hzero
        · omega
        · cases hzero

theorem syncs_paged {World : Type} {bridge : Bridge World} (hcon : Consistent bridge)
    {channelId : ChannelId} {sessionId : SessionId} {requestedAfter : Nat}
    {channel : ChannelDescriptor} {aggregate : SessionAggregate} {provider : ProviderDescriptor}
    {sync : ChannelSessionSync}
    (h : Bridge.Syncs bridge channelId sessionId requestedAfter sessionSyncPageEvents channel
      aggregate provider sync) : ∃ history, Paged bridge sessionId requestedAfter sync history := by
  obtain ⟨history, owner, howned⟩ := hcon.sessions sessionId aggregate h.known
  obtain ⟨hpage, hbaseline⟩ := Bridge.sessionSync_ok howned.reduces h.page
  refine ⟨history, ⟨aggregate, h.known, howned.reduces⟩, hpage, sessionSync_reset howned.reduces h.page,
    (SessionAggregate.reduces_anchored howned.reduces).sequences, ?_, ?_, ?_⟩
  · intro routed hrouted
    exact Bridge.page_sessionIds hcon h routed.event (List.mem_map_of_mem hrouted)
  · intro baseline hmem
    obtain ⟨hsession, -, hinteractions⟩ := Bridge.baselineOf_ok (hbaseline baseline hmem)
    refine ⟨by rw [hsession, howned.id], ?_⟩
    intro interaction hinteraction
    have hrequest : interaction.request ∈ OrderedMap.values aggregate.pendingInteractions := by
      rw [← hinteractions]
      exact List.mem_map_of_mem hinteraction
    obtain ⟨id, hid⟩ := OrderedMap.mem_values.mp hrequest
    exact pendingInteractions_sessionId howned hid
  · intro baseline hmem
    obtain ⟨hsession, -, hinteractions⟩ := Bridge.baselineOf_ok (hbaseline baseline hmem)
    exact ⟨aggregate, h.known, hsession, hinteractions⟩

theorem syncFramesOf_session? {World : Type} {bridge : Bridge World} {sessionId : SessionId}
    {requestedAfter : Nat} {sync : ChannelSessionSync} {history : List AgentEvent}
    (h : Paged bridge sessionId requestedAfter sync history) (requestId : String) :
    ∀ frame ∈ NativeChannelPort.syncFramesOf requestId sync, frame.session? = some sessionId := by
  intro frame hframe
  rcases List.mem_append.mp hframe with hframe | hframe
  · obtain ⟨routed, hrouted, rfl⟩ := List.mem_map.mp hframe
    exact congrArg some (h.sessionIds routed hrouted)
  · cases hbaseline : sync.baseline with
    | none => simp [hbaseline] at hframe
    | some baseline =>
      obtain ⟨hsession, hinteractions⟩ := h.baseline baseline hbaseline
      rw [hbaseline] at hframe
      rcases List.mem_cons.mp hframe with rfl | hframe
      · exact congrArg some hsession
      · obtain ⟨interaction, hinteraction, rfl⟩ := List.mem_map.mp hframe
        exact congrArg some (hinteractions interaction hinteraction)

section Owed

variable (codec : NativeCodec) (channelId : ChannelId)

def sessionFrame (session : AgentSession) : Frame := .domain .liveSession (.agentSession session)

/-- A session view, where the domain encoder accepts it. -/
def viewFrames (session : AgentSession) : List Frame :=
  if codec.encodes (.agentSession session) then [sessionFrame session] else []

/-- The live frames of one event: the event, and the session when the event
changes it. An event that the encoder refuses leaves no frame. -/
def liveFrames (routed : RoutedAgentEvent) (session : AgentSession) : List Frame :=
  if codec.encodes (.agentEvent routed.event) then
    NativeChannelPort.eventFrame routed ::
      if eventUpdatesSessionView routed.event then viewFrames codec session else []
  else []

namespace Publication

/-- What one route of a publication still adds to the output. -/
def framesFor (self : Publication) (route : EventRoute) : List Frame :=
  if codec.encodes (.agentEvent self.event) then
    NativeChannelPort.eventFrame ⟨self.event, route.route⟩ ::
      if route.deliverSession then self.sessionView.toList.flatMap (viewFrames codec) else []
  else []

def framesTo (self : Publication) (routes : List EventRoute) : List Frame :=
  (routes.filter fun route => route.channelId = channelId).flatMap (self.framesFor codec)

/-- What a publication still adds to the output of a channel. -/
def owed (self : Publication) : List Frame :=
  match self.handoff with
  | none => self.framesTo codec channelId self.routes
  | some session =>
    match self.routes with
    | [] => []
    | route :: rest => (if route.channelId = channelId then viewFrames codec session else []) ++
      self.framesTo codec channelId rest

theorem framesTo_cons (self : Publication) (route : EventRoute) (rest : List EventRoute) :
    self.framesTo codec channelId (route :: rest) =
      (if route.channelId = channelId then self.framesFor codec route else []) ++
        self.framesTo codec channelId rest := by
  unfold framesTo
  by_cases h : route.channelId = channelId <;> simp [h]

theorem framesTo_nil_of_forall (self : Publication) {routes : List EventRoute}
    (h : ∀ route ∈ routes, route.channelId ≠ channelId) :
    self.framesTo codec channelId routes = [] := by
  unfold framesTo
  rw [List.filter_eq_nil_iff.mpr (by simpa using h)]
  rfl

theorem owed_next (self : Publication) (delivery : ChannelDeliveryResult) :
    (self.next delivery).owed codec channelId = self.framesTo codec channelId self.routes.tail :=
  rfl

/-- The handoffs to other channels owe the channel as much as before. -/
theorem owed_passedEvent {self : Publication} {route : EventRoute}
    (hhead : self.routes.head? = some route) (hhandoff : self.handoff = none)
    (hother : route.channelId ≠ channelId) (result : Except BoxAdapterError Unit) :
    (self.afterEvent route result).owed codec channelId = self.owed codec channelId := by
  obtain ⟨rest, hroutes⟩ := List.head?_eq_some_iff.mp hhead
  have hbefore : self.owed codec channelId = self.framesTo codec channelId rest := by
    rw [owed, hhandoff]
    simp only [hroutes]
    rw [framesTo_cons, if_neg hother, List.nil_append]
  have hnext : ∀ delivery, (self.next delivery).owed codec channelId =
      self.owed codec channelId := by
    intro delivery
    rw [owed_next, hroutes, hbefore]
    rfl
  cases result with
  | error source => exact hnext _
  | ok u =>
    simp only [afterEvent]
    split
    · next session hwants hview =>
      rw [hbefore]
      simp only [owed, hroutes]
      rw [if_neg hother, List.nil_append]
      rfl
    · exact hnext _

theorem owed_passedView {self : Publication} {route : EventRoute} {session : AgentSession}
    (hhead : self.routes.head? = some route) (hhandoff : self.handoff = some session)
    (hother : route.channelId ≠ channelId) (result : Except BoxAdapterError Unit) :
    (self.afterView route result).owed codec channelId = self.owed codec channelId := by
  obtain ⟨rest, hroutes⟩ := List.head?_eq_some_iff.mp hhead
  have hbefore : self.owed codec channelId = self.framesTo codec channelId rest := by
    rw [owed, hhandoff]
    simp only [hroutes]
    rw [if_neg hother, List.nil_append]
  have hnext : ∀ delivery, (self.next delivery).owed codec channelId =
      self.owed codec channelId := by
    intro delivery
    rw [owed_next, hroutes, hbefore]
    rfl
  cases result with
  | error source => exact hnext _
  | ok u => exact hnext _

/-- A channel is served once: nothing is owed to it behind its own route. -/
theorem framesTo_rest {self : Publication} {route : EventRoute} {rest : List EventRoute}
    (hroutes : self.routes = route :: rest)
    (hdistinct : (self.routes.map EventRoute.channelId).Nodup)
    (hnative : route.channelId = channelId) : self.framesTo codec channelId rest = [] := by
  refine framesTo_nil_of_forall codec channelId self ?_
  intro other hother heq
  rw [hroutes, List.map_cons, List.nodup_cons] at hdistinct
  refine hdistinct.1 ?_
  rw [hnative, ← heq]
  exact List.mem_map_of_mem hother

theorem owed_handedEvent {self : Publication} {route : EventRoute}
    (hhead : self.routes.head? = some route) (hhandoff : self.handoff = none)
    (hdistinct : (self.routes.map EventRoute.channelId).Nodup)
    (hnative : route.channelId = channelId) :
    (codec.encodes (.agentEvent self.event) = true → self.owed codec channelId =
      NativeChannelPort.eventFrame ⟨self.event, route.route⟩ ::
        (self.afterEvent route (.ok ())).owed codec channelId) ∧
    (codec.encodes (.agentEvent self.event) = false → ∀ source, self.owed codec channelId =
      (self.afterEvent route (.error source)).owed codec channelId) := by
  obtain ⟨rest, hroutes⟩ := List.head?_eq_some_iff.mp hhead
  have hrest := framesTo_rest codec channelId hroutes hdistinct hnative
  have hbefore : self.owed codec channelId = self.framesFor codec route := by
    rw [owed, hhandoff]
    simp only [hroutes]
    rw [framesTo_cons, if_pos hnative, hrest, List.append_nil]
  have hnext : ∀ delivery, (self.next delivery).owed codec channelId = [] := by
    intro delivery
    rw [owed_next, hroutes]
    exact hrest
  constructor
  · intro hencodes
    rw [hbefore, framesFor, if_pos hencodes]
    congr 1
    cases hwants : route.deliverSession with
    | false =>
      have hafter : self.afterEvent route (.ok ()) = self.next (.delivered route.channelId) := by
        simp [afterEvent, hwants]
      rw [hafter, hnext]
      rfl
    | true =>
      cases hview : self.sessionView with
      | none =>
        have hafter : self.afterEvent route (.ok ()) = self.next (.delivered route.channelId) := by
          simp [afterEvent, hview]
        rw [hafter, hnext]
        rfl
      | some session =>
        have hafter : self.afterEvent route (.ok ()) = { self with handoff := some session } := by
          simp [afterEvent, hwants, hview]
        have hbehind : framesTo codec channelId { self with handoff := some session } rest = [] :=
          hrest
        rw [hafter]
        simp only [owed, hroutes, if_pos hnative, if_true, Option.toList_some, List.flatMap_cons,
          List.flatMap_nil]
        simpa [hroutes] using hbehind
  · intro hrefused source
    rw [hbefore, framesFor, hrefused]
    exact (hnext _).symm

theorem owed_handedView {self : Publication} {route : EventRoute} {session : AgentSession}
    (hhead : self.routes.head? = some route) (hhandoff : self.handoff = some session)
    (hdistinct : (self.routes.map EventRoute.channelId).Nodup)
    (hnative : route.channelId = channelId) (result : Except BoxAdapterError Unit) :
    self.owed codec channelId = viewFrames codec session ∧
      (self.afterView route result).owed codec channelId = [] := by
  obtain ⟨rest, hroutes⟩ := List.head?_eq_some_iff.mp hhead
  have hrest := framesTo_rest codec channelId hroutes hdistinct hnative
  constructor
  · rw [owed, hhandoff]
    simp only [hroutes]
    rw [if_pos hnative, hrest, List.append_nil]
  · have hnext : ∀ delivery, (self.next delivery).owed codec channelId = [] := by
      intro delivery
      rw [owed_next, hroutes]
      exact hrest
    cases result with
    | error source => exact hnext _
    | ok u => exact hnext _

end Publication

end Owed

/-- The frames of the synchronization in progress. -/
def DeliveryState.collected (self : DeliveryState) : List Frame :=
  match self.pending? with
  | none => []
  | some pending => pending.frames ++ pending.trailingFrames

theorem DeliveryState.collected_congr {self other : DeliveryState}
    (h : self.pending? = other.pending?) : self.collected = other.collected := by
  rw [collected, collected, h]

theorem DeliveryState.collected_of_none {self : DeliveryState} (h : self.pending? = none) :
    self.collected = [] := by
  rw [collected, h]

theorem DeliveryState.collected_of_some {self : DeliveryState} {pending : PendingSubscription}
    (h : self.pending? = some pending) :
    self.collected = pending.frames ++ pending.trailingFrames := by
  rw [collected, h]

/-- The sections of a subscribe request for this session. -/
def WorkerPc.concerns (sessionId : SessionId) : WorkerPc → Bool
  | .subscribeCursor _ session => session = sessionId
  | .subscribeSync _ session _ => session = sessionId
  | .subscribeFailed _ session _ => session = sessionId
  | .subscribeCommit _ session _ => session = sessionId
  | _ => false

/-- The sections that start another request for this session, drop it, or open or
end the connection. -/
def WorkerPc.interrupts (sessionId : SessionId) : WorkerPc → Bool
  | .subscribe _ session => session = sessionId
  | .unsubscribe _ session => session = sessionId
  | .unsubscribeRecord _ session _ => session = sessionId
  | .hello _ _ | .disconnect _ | .unsubscribing _ _ => true
  | _ => false

/-- The sections in which the bridge may have dropped this session already. -/
def WorkerPc.drops (sessionId : SessionId) : WorkerPc → Bool
  | .unsubscribeRecord _ session _ => session = sessionId
  | .unsubscribing _ _ => true
  | _ => false

theorem WorkerPc.drops_of_quiet {pc : WorkerPc} (h : pc.quiet = true) (sessionId : SessionId) :
    pc.drops sessionId = false := by
  cases pc <;> first | rfl | simp [WorkerPc.quiet] at h

theorem WorkerPc.concerns_of_quiet {pc : WorkerPc} (h : pc.quiet = true) (sessionId : SessionId) :
    pc.concerns sessionId = false := by
  cases pc <;> first | rfl | simp [WorkerPc.quiet] at h

namespace NativeSystem

variable {Other : Type} (codec : NativeCodec) (config : NativeChannelConfig)
  (otherPorts : Ports Other)

/-- The frames of a session that the publication in progress still adds. -/
def owed (self : NativeSystem Other) (sessionId : SessionId) : List Frame :=
  match self.publication with
  | none => []
  | some publication => stream sessionId (publication.owed codec config.channelId)

theorem owed_of_none {self : NativeSystem Other} (h : self.publication = none)
    (sessionId : SessionId) : self.owed codec config sessionId = [] := by
  rw [owed, h]

theorem owed_of_some {self : NativeSystem Other} {publication : Publication}
    (h : self.publication = some publication) (sessionId : SessionId) :
    self.owed codec config sessionId =
      stream sessionId (publication.owed codec config.channelId) := by
  rw [owed, h]

theorem owed_congr {self next : NativeSystem Other} (h : next.publication = self.publication)
    (sessionId : SessionId) :
    next.owed codec config sessionId = self.owed codec config sessionId := by
  rw [owed, owed, h]

theorem filter_channelId {routes : List EventRoute}
    (hdistinct : (routes.map EventRoute.channelId).Nodup) {route : EventRoute}
    (hmem : route ∈ routes) :
    routes.filter (fun other => other.channelId = route.channelId) = [route] := by
  induction routes with
  | nil => cases hmem
  | cons head rest ih =>
    rw [List.map_cons, List.nodup_cons] at hdistinct
    rcases List.mem_cons.mp hmem with rfl | hmem
    · have hrest : rest.filter (fun other => other.channelId = route.channelId) = [] := by
        rw [List.filter_eq_nil_iff]
        intro other hother
        simp only [decide_eq_true_eq]
        intro heq
        exact hdistinct.1 (heq ▸ List.mem_map_of_mem hother)
      simp [hrest]
    · have hne : head.channelId ≠ route.channelId := by
        intro heq
        exact hdistinct.1 (heq ▸ List.mem_map_of_mem hmem)
      rw [List.filter_cons_of_neg (by simpa using hne)]
      exact ih hdistinct.2 hmem

/-- What a new publication owes to the channel: nothing without a subscription,
else the live frames of its event. -/
theorem owed_published {bridge : Bridge (NativeWorld Other)}
    (hregistered : bridge.channels[config.channelId]? = some config.descriptor)
    {providerId : ProviderId} {event : AgentEvent} {provider : ProviderDescriptor}
    {session : AgentSession} {routes : List EventRoute} {aggregate : SessionAggregate}
    (hc : Bridge.Committed bridge providerId event provider session routes aggregate) :
    let publication : Publication := ⟨event, Bridge.sessionViewOf routes aggregate, routes, none, []⟩
    (bridge.isSubscribed config.channelId event.sessionId = false →
      publication.owed codec config.channelId = []) ∧
    (bridge.isSubscribed config.channelId event.sessionId = true →
      ∃ route, publication.owed codec config.channelId =
        liveFrames codec ⟨event, route⟩ aggregate.session) := by
  intro publication
  have hflight := inFlight_published config hregistered hc
  obtain ⟨hids, -⟩ := Bridge.eventRoutes_ok hc.routed
  constructor
  · intro hnone
    refine Publication.framesTo_nil_of_forall codec config.channelId publication ?_
    intro route hroute hnative
    have hsub := hflight.subscribed route hroute
    rw [hnative] at hsub
    exact absurd (hnone.symm.trans hsub) (by simp)
  · intro hsub
    have hmem : config.channelId ∈ routes.map EventRoute.channelId := by
      rw [hids]
      exact Bridge.mem_sessionSubscribers.mpr hsub
    obtain ⟨route, hroute, hnative⟩ := List.mem_map.mp hmem
    have honly := filter_channelId hflight.distinct hroute
    rw [hnative] at honly
    have howed : publication.owed codec config.channelId = publication.framesFor codec route := by
      change Publication.framesTo codec config.channelId publication routes = _
      rw [Publication.framesTo, honly]
      simp
    refine ⟨route.route, ?_⟩
    have hwants := hflight.views route hroute hnative
    rw [howed, Publication.framesFor, liveFrames, hwants]
    by_cases hupdates : eventUpdatesSessionView event = true
    · have hany : routes.any EventRoute.deliverSession = true :=
        List.any_eq_true.mpr ⟨route, hroute, hwants.trans hupdates⟩
      have hview : Bridge.sessionViewOf routes aggregate = some aggregate.session := by
        simp [Bridge.sessionViewOf, hany]
      simp [hview, publication]
    · have hno : eventUpdatesSessionView event = false := by simpa using hupdates
      simp [hno, publication]

/-- The frames that a publication owes are about the session of its event. -/
theorem owed_session? {bridge : Bridge (NativeWorld Other)} (hcon : Consistent bridge)
    {publication : Publication} (h : InFlight config bridge publication) :
    ∀ frame ∈ publication.owed codec config.channelId,
      frame.session? = some publication.event.sessionId := by
  obtain ⟨aggregate, hstored, -, hview, hhandoff⟩ := h.stored
  obtain ⟨history, owner, howned⟩ := hcon.sessions _ aggregate hstored
  have hviewFrames : ∀ session, session = aggregate.session → ∀ frame ∈ viewFrames codec session,
      frame.session? = some publication.event.sessionId := by
    rintro session rfl frame hframe
    unfold viewFrames at hframe
    split at hframe
    · rw [List.mem_singleton.mp hframe, ← howned.id]
      rfl
    · cases hframe
  have hframesTo : ∀ routes, ∀ frame ∈ publication.framesTo codec config.channelId routes,
      frame.session? = some publication.event.sessionId := by
    intro routes frame hframe
    obtain ⟨route, -, hframe⟩ := List.mem_flatMap.mp hframe
    unfold Publication.framesFor at hframe
    split at hframe
    · rcases List.mem_cons.mp hframe with rfl | hframe
      · rfl
      · split at hframe
        · obtain ⟨session, hsession, hframe⟩ := List.mem_flatMap.mp hframe
          exact hviewFrames session (hview session (by simpa using hsession)) frame hframe
        · cases hframe
    · cases hframe
  intro frame hframe
  unfold Publication.owed at hframe
  split at hframe
  · exact hframesTo _ frame hframe
  · next session hsome =>
    split at hframe
    · cases hframe
    · rcases List.mem_append.mp hframe with hframe | hframe
      · split at hframe
        · exact hviewFrames session (hhandoff session hsome) frame hframe
        · cases hframe
      · exact hframesTo _ frame hframe

end NativeSystem

end AgentPulse
