import AgentPulse.NativeStream

/-!
# What one step does to the frames of a session

`StreamStep` reads the moves of the system from the side of one session: which
frames were queued, collected or handed over. Everything here supposes that the
output queue has not overflowed.
-/
namespace AgentPulse

open Std (ExtTreeMap ExtTreeSet)

namespace NativeSystem

variable {Other : Type} (codec : NativeCodec) (config : NativeChannelConfig)
  (otherPorts : Ports Other)

/-- Nothing of the session was touched. -/
structure Unseen (sessionId : SessionId) (before after : NativeSystem Other) : Prop where
  log : ∃ frames, after.log = before.log ++ frames ∧ stream sessionId frames = []
  collected : stream sessionId after.delivery.collected =
    stream sessionId before.delivery.collected
  cursor : after.delivery.cursor sessionId = before.delivery.cursor sessionId
  history : after.bridge.sessions[sessionId]? = before.bridge.sessions[sessionId]?
  owed : after.owed codec config sessionId = before.owed codec config sessionId

/-- Everything but the frames stays as it is. -/
structure SameRest (sessionId : SessionId) (before after : NativeSystem Other) : Prop where
  pc : after.pc = before.pc
  mine : after.delivery.isSubscribedTo sessionId = before.delivery.isSubscribedTo sessionId
  cursor : after.delivery.cursor sessionId = before.delivery.cursor sessionId
  history : after.bridge.sessions[sessionId]? = before.bridge.sessions[sessionId]?

/-- All the ways in which one step can change the frames of one session. -/
inductive StreamStep (sessionId : SessionId) (self next : NativeSystem Other) : Prop where
  | still : Unseen codec config sessionId self next → next.pc = self.pc →
      next.delivery.pending? = self.delivery.pending? →
      next.delivery.isSubscribedTo sessionId = self.delivery.isSubscribedTo sessionId →
      StreamStep sessionId self next
  | elsewhere : Unseen codec config sessionId self next → self.pc.concerns sessionId = false →
      next.pc.concerns sessionId = false →
      (next.pc.drops sessionId = true → self.pc.interrupts sessionId = true) →
      next.delivery.isSubscribedTo sessionId = self.delivery.isSubscribedTo sessionId →
      StreamStep sessionId self next
  | dropped (requestId : String) (outcome : UnsubscribeOutcome) :
      Unseen codec config sessionId self next →
      self.pc = .unsubscribeRecord requestId sessionId outcome →
      next.pc.concerns sessionId = false → StreamStep sessionId self next
  | reset : ((∃ sessionCursors resumeAccepted, self.pc = .hello sessionCursors resumeAccepted) ∨
        ∃ last, self.pc = .unsubscribing [] last) → next.pc ≠ self.pc → next.log = [] →
      next.delivery.collected = [] → next.owed codec config sessionId = [] →
      next.pc.concerns sessionId = false → StreamStep sessionId self next
  -- the event of a publication and its frames
  | published (event : AgentEvent) (aggregate : SessionAggregate) : event.sessionId = sessionId →
      self.bridge.Reduction event aggregate →
      next.bridge.sessions[sessionId]? = some aggregate →
      next.bridge.sessionConfig = self.bridge.sessionConfig → next.log = self.log →
      next.delivery = self.delivery → next.pc = self.pc →
      self.owed codec config sessionId = [] →
      (self.bridge.isSubscribed config.channelId sessionId = false →
        next.owed codec config sessionId = []) →
      (self.bridge.isSubscribed config.channelId sessionId = true → ∃ route,
        next.owed codec config sessionId = liveFrames codec ⟨event, route⟩ aggregate.session) →
      StreamStep sessionId self next
  | handed (context : NativeDeliveryContext) (message : ProtocolMessage) :
      SameRest sessionId self next →
      (NativeServerMessage.domain context message).session? = some sessionId →
      self.owed codec config sessionId =
        .domain context message :: next.owed codec config sessionId →
      next.log = self.log ++ [.domain context message] → next.delivery.pending? = self.delivery.pending? →
      stream sessionId self.delivery.collected = [] →
      self.delivery.isSubscribedTo sessionId = true → StreamStep sessionId self next
  | trailed (context : NativeDeliveryContext) (message : ProtocolMessage) (requestId : String)
      (outcome : SessionSyncOutcome) (frames trailing : List Frame) :
      SameRest sessionId self next →
      (NativeServerMessage.domain context message).session? = some sessionId →
      self.owed codec config sessionId =
        .domain context message :: next.owed codec config sessionId →
      next.log = self.log → self.pc = .subscribeCommit requestId sessionId outcome →
      self.delivery.pending? = some ⟨requestId, sessionId, frames, trailing, true⟩ →
      next.delivery.pending? = some ⟨requestId, sessionId, frames,
        trailing ++ [.domain context message], true⟩ → StreamStep sessionId self next
  -- a subscribe request for the session
  | already (requestId : String) (baseline : EventSequence) :
      self.pc = .subscribe requestId sessionId → next.pc = .accepting →
      self.delivery.cursor sessionId = baseline.get → next.log = self.log ++
        [.subscriptionResult requestId sessionId .alreadySubscribed baseline 0 0 false] →
      next.delivery.collected = [] → self.delivery.collected = [] →
      next.delivery.cursor sessionId = self.delivery.cursor sessionId →
      next.bridge.sessions = self.bridge.sessions →
      next.owed codec config sessionId = self.owed codec config sessionId →
      StreamStep sessionId self next
  | began (requestId : String) : self.pc = .subscribe requestId sessionId →
      next.pc = .subscribeCursor requestId sessionId → next.log = self.log →
      Unseen codec config sessionId self next → StreamStep sessionId self next
  | asked (requestId : String) : self.pc = .subscribeCursor requestId sessionId →
      next.pc = .subscribeSync requestId sessionId (self.delivery.cursor sessionId) →
      Unseen codec config sessionId self next → StreamStep sessionId self next
  | refused (requestId : String) (afterSequence : Nat) (e : SubscriptionError) :
      self.pc = .subscribeSync requestId sessionId afterSequence →
      next.pc = .subscribeFailed requestId sessionId e →
      Unseen codec config sessionId self next → StreamStep sessionId self next
  | failed (requestId : String) (e : SubscriptionError) :
      self.pc = .subscribeFailed requestId sessionId e → next.pc.quiet = true →
      next.delivery.isSubscribedTo sessionId = false → next.delivery.collected = [] →
      Unseen codec config sessionId self next → StreamStep sessionId self next
  | synced (requestId : String) (afterSequence : Nat) (sync : ChannelSessionSync)
      (history : List AgentEvent) : self.pc = .subscribeSync requestId sessionId afterSequence →
      Paged self.bridge sessionId afterSequence sync history →
      next.pc = .subscribeCommit requestId sessionId (Bridge.syncOutcome sync) →
      next.delivery.pending? = some ⟨requestId, sessionId,
        NativeChannelPort.syncFramesOf requestId sync, [], true⟩ →
      self.delivery.collected = [] → next.log = self.log →
      next.delivery.cursor sessionId = self.delivery.cursor sessionId →
      next.bridge.sessions = self.bridge.sessions →
      next.bridge.sessionConfig = self.bridge.sessionConfig →
      self.owed codec config sessionId = [] → next.owed codec config sessionId = [] →
      StreamStep sessionId self next
  | committed (requestId : String) (outcome : SessionSyncOutcome) (baseline : EventSequence)
      (frames trailing : List Frame) :
      self.pc = .subscribeCommit requestId sessionId outcome →
      baseline.get = outcome.throughSequence →
      self.delivery.pending? = some ⟨requestId, sessionId, frames, trailing, true⟩ →
      next.pc = .accepting → next.log = self.log ++
        (.subscriptionResult requestId sessionId
            (if outcome.subscribed then .subscribed else .catchingUp) baseline
            outcome.pendingInteractionCount outcome.eventCount outcome.reset ::
          frames ++ .syncCompleted requestId :: trailing) →
      next.delivery.collected = [] →
      next.delivery.cursor sessionId = outcome.throughSequence →
      next.delivery.isSubscribedTo sessionId = outcome.subscribed →
      next.bridge.sessions = self.bridge.sessions →
      next.owed codec config sessionId = self.owed codec config sessionId →
      StreamStep sessionId self next

/-- Only the request for a session collects frames of it. -/
def Apart (sessionId : SessionId) (self : NativeSystem Other) : Prop :=
  self.pc.concerns sessionId = false → stream sessionId self.delivery.collected = []

theorem streamStep_apart {sessionId : SessionId} {self next : NativeSystem Other}
    (h : Apart sessionId self) (st : StreamStep codec config sessionId self next) :
    Apart sessionId next := by
  intro hpc
  cases st with
  | still hunseen hsame hpending hmine =>
    rw [hunseen.collected]
    exact h (hsame ▸ hpc)
  | elsewhere hunseen hbefore hafter hdrops hmine =>
    rw [hunseen.collected]
    exact h hbefore
  | dropped requestId outcome hunseen hbefore hafter =>
    rw [hunseen.collected]
    exact h (by rw [hbefore]; rfl)
  | reset hbefore hmoved hlog hcollected howed hafter => rw [hcollected, stream_nil]
  | published event aggregate hid hreduction hstored hconfig hlog hdelivery hsame =>
    rw [hdelivery]
    exact h (hsame ▸ hpc)
  | handed context message hrest hframe howed hlog hpending hcollected hmine =>
    rw [DeliveryState.collected_congr hpending, hcollected]
  | trailed context message requestId outcome frames trailing hrest hframe howed hlog hbefore =>
    rw [hrest.pc, hbefore] at hpc
    simp [WorkerPc.concerns] at hpc
  | already requestId baseline hbefore hafter hcursor hlog hcollected => rw [hcollected, stream_nil]
  | began requestId hbefore hafter =>
    rw [hafter] at hpc
    simp [WorkerPc.concerns] at hpc
  | asked requestId hbefore hafter =>
    rw [hafter] at hpc
    simp [WorkerPc.concerns] at hpc
  | refused requestId afterSequence e hbefore hafter =>
    rw [hafter] at hpc
    simp [WorkerPc.concerns] at hpc
  | failed requestId e hbefore hafter hmine hcollected => rw [hcollected, stream_nil]
  | synced requestId afterSequence sync history hbefore hpaged hafter =>
    rw [hafter] at hpc
    simp [WorkerPc.concerns] at hpc
  | committed requestId outcome baseline frames trailing hbefore hbaseline hpending hafter hlog
      hcollected => rw [hcollected, stream_nil]

theorem becomes_log {self next : NativeSystem Other} {state : DeliveryState}
    {taken : List Frame} {target : WorkerPc} (h : Becomes self next state taken target) :
    next.log = taken ++ state.outgoing := by
  rw [log, h.drained, becomes_delivery h]

theorem becomes_sessions {self next : NativeSystem Other} {state : DeliveryState}
    {taken : List Frame} {target : WorkerPc} (h : Becomes self next state taken target) :
    next.bridge.sessions = self.bridge.sessions := by
  rw [h.bridge]
  rfl

/-- A section of the worker that adds only frames of others. -/
theorem unseen_becomes {sessionId : SessionId} {self next : NativeSystem Other}
    {state : DeliveryState} {taken : List Frame} {target : WorkerPc}
    (h : Becomes self next state taken target) (frames : List Frame)
    (hlog : taken ++ state.outgoing = self.log ++ frames)
    (hframes : stream sessionId frames = [])
    (hcollected : stream sessionId state.collected = stream sessionId self.delivery.collected)
    (hcursor : state.cursor sessionId = self.delivery.cursor sessionId) :
    Unseen codec config sessionId self next := by
  refine ⟨⟨frames, by rw [becomes_log h, hlog], hframes⟩, ?_, ?_, ?_, ?_⟩
  · rw [becomes_delivery h, hcollected]
  · rw [becomes_delivery h, hcursor]
  · rw [becomes_sessions h]
  · exact owed_congr codec config h.publication sessionId

theorem owed_nil_of_unsubscribed {bridge : Bridge (NativeWorld Other)} {publication : Publication}
    (h : InFlight config bridge publication)
    (hsub : bridge.isSubscribed config.channelId publication.event.sessionId = false) :
    publication.owed codec config.channelId = [] := by
  have hother : ∀ route ∈ publication.routes, route.channelId ≠ config.channelId := by
    intro route hroute hnative
    have hyes := h.subscribed route hroute
    rw [hnative, hsub] at hyes
    cases hyes
  unfold Publication.owed
  split
  · exact Publication.framesTo_nil_of_forall codec config.channelId publication hother
  · split
    · rfl
    · next route rest hroutes =>
      rw [hroutes] at hother
      rw [if_neg (hother route List.mem_cons_self), List.nil_append]
      exact Publication.framesTo_nil_of_forall codec config.channelId publication
        fun other hmem => hother other (List.mem_cons_of_mem route hmem)

/-- Where the channel has no subscription, nothing is owed to it. -/
theorem owed_nil {self : NativeSystem Other} (ha : Aligned codec config self)
    {sessionId : SessionId}
    (hsub : self.bridge.isSubscribed config.channelId sessionId = false) :
    self.owed codec config sessionId = [] := by
  cases hp : self.publication with
  | none => exact owed_of_none codec config hp sessionId
  | some publication =>
    have hflight := ha.inFlight publication hp
    rw [owed_of_some codec config hp]
    by_cases hs : sessionId = publication.event.sessionId
    · rw [hs] at hsub
      rw [owed_nil_of_unsubscribed codec config hflight hsub, stream_nil]
    · exact stream_other (owed_session? codec config ha.consistent hflight) hs

theorem validateDeliveryContext_live (message : ProtocolMessage)
    (route : Option ChannelEventRoute)
    (h : (contextAdmits message (liveContext route)).2 = true) :
    validateDeliveryContext codec (liveContext route) message = .ok () := by
  cases route <;> simp_all [validateDeliveryContext, liveContext,
    NativeDeliveryContext.requestId?, bind, Except.bind]

theorem stream_cons_other {sessionId : SessionId} {frame : Frame} (frames : List Frame)
    (h : frame.session? ≠ some sessionId) :
    stream sessionId (frame :: frames) = stream sessionId frames := by
  rw [stream, List.filter_cons_of_neg (by simpa using h)]
  rfl

theorem setPending_cursor (self : DeliveryState) (pending : Option PendingSubscription)
    (sessionId : SessionId) : (self.setPending pending).cursor sessionId = self.cursor sessionId := by
  unfold DeliveryState.setPending DeliveryState.updateClient DeliveryState.cursor
  cases self.client <;> rfl

/-- A request for a session has its synchronization in progress. -/
theorem stage_concerns {self : NativeSystem Other} (h : Stage codec config self self.pc)
    {sessionId : SessionId} (hpc : self.pc.concerns sessionId = true) :
    ∃ pending, self.delivery.pending? = some pending ∧ pending.sessionId = sessionId := by
  have hwaiting : ∀ requestId session, Waiting codec config self requestId session →
      session = sessionId →
      ∃ pending, self.delivery.pending? = some pending ∧ pending.sessionId = sessionId :=
    fun requestId session hw hid => ⟨_, hw.pending, hid⟩
  cases hself : self.pc with
  | subscribeCursor requestId session =>
    rw [hself] at h hpc
    exact hwaiting requestId session h (of_decide_eq_true hpc)
  | subscribeSync requestId session afterSequence =>
    rw [hself] at h hpc
    exact hwaiting requestId session h (of_decide_eq_true hpc)
  | subscribeFailed requestId session e =>
    rw [hself] at h hpc
    exact hwaiting requestId session h (of_decide_eq_true hpc)
  | subscribeCommit requestId session outcome =>
    rw [hself] at h hpc
    have hc : Committing codec config self requestId session outcome := h
    obtain ⟨frames, trailing, hpending, -⟩ := hc.pending
    exact ⟨_, hpending, of_decide_eq_true hpc⟩
  | _ => simp [hself, WorkerPc.concerns] at hpc

/-- A live frame handed to the channel moves from what is owed to what is queued
or collected. -/
theorem handed_stream {self next : NativeSystem Other} (ha : Aligned codec config self)
    {publication after : Publication} (hp : self.publication = some publication)
    (hsub : self.bridge.isSubscribed config.channelId publication.event.sessionId = true)
    (message : ProtocolMessage) (route : Option ChannelEventRoute) {delivery : DeliveryState}
    {result : Except NativeChannelPortError Unit}
    (hadmits : (contextAdmits message (liveContext route)).2 = true)
    (habout : (NativeServerMessage.domain (liveContext route) message).session? =
      some publication.event.sessionId)
    (hcall : NativeChannelPort.deliver codec self.delivery publication.event.sessionId message route =
      (delivery, result))
    (hnext : next = { self.setDelivery delivery with publication := some after })
    (hqueued : result = .ok () → codec.encodes message = true →
      publication.owed codec config.channelId =
        .domain (liveContext route) message :: after.owed codec config.channelId)
    (hrefused : ∀ e, result = .error e → codec.encodes message = false →
      publication.owed codec config.channelId = after.owed codec config.channelId)
    (hopen : next.delivery.abortReason = none) (sessionId : SessionId)
    (hapart : Apart sessionId self) : StreamStep codec config sessionId self next := by
  have hvalid := validateDeliveryContext_live codec message route hadmits
  have hdelivery : next.delivery = delivery := by rw [hnext]; rfl
  have hlog : next.log = self.drained ++ delivery.outgoing := by rw [hnext]; rfl
  have hpc : next.pc = self.pc := by rw [hnext]; rfl
  have hsessions : next.bridge.sessions = self.bridge.sessions := by rw [hnext]; rfl
  have howed : self.owed codec config sessionId =
      stream sessionId (publication.owed codec config.channelId) := owed_of_some codec config hp _
  have hafter : next.owed codec config sessionId =
      stream sessionId (after.owed codec config.channelId) :=
    owed_of_some codec config (by rw [hnext]) _
  rcases deliver_live codec config ha.stage hsub message route with ⟨e, e', he, hencode⟩ |
    ⟨e, he⟩ | ⟨hencode, hplace⟩
  · -- the encoder refused the frame
    rw [he] at hcall
    cases hcall
    have hno : codec.encodes message = false := by
      rcases encodeServerMessage_domain codec hvalid with ⟨-, hok⟩ | ⟨hno, -⟩
      · rw [hok] at hencode
        cases hencode
      · exact hno
    refine .still ⟨⟨[], by rw [hlog, List.append_nil]; rfl, rfl⟩, by rw [hdelivery],
      by rw [hdelivery], by rw [hsessions], ?_⟩ hpc (by rw [hdelivery]) (by rw [hdelivery])
    rw [howed, hafter, hrefused e rfl hno]
  · rw [he] at hcall
    cases hcall
    rw [hdelivery] at hopen
    cases hopen
  · have hyes : codec.encodes message = true := by
      rcases encodeServerMessage_domain codec hvalid with ⟨hyes, -⟩ | ⟨-, e, herror⟩
      · exact hyes
      · rw [herror] at hencode
        cases hencode
    rcases hplace with ⟨hmine, hother, he⟩ | ⟨requestId, outcome, frames, trailing, hcommit, hpending, he⟩
    · rw [he] at hcall
      cases hcall
      rw [hqueued rfl hyes] at howed
      have hlog' : next.log = self.log ++ [.domain (liveContext route) message] := by
        rw [hlog, log, List.append_assoc]
        rfl
      by_cases hs : publication.event.sessionId = sessionId
      · subst hs
        have hcollected : stream publication.event.sessionId self.delivery.collected = [] := by
          refine hapart ?_
          rw [← Bool.not_eq_true]
          intro hconcerns
          obtain ⟨pending, hpending, hid⟩ := stage_concerns codec config ha.stage hconcerns
          exact hother pending hpending hid
        refine .handed _ _ ⟨hpc, by rw [hdelivery]; rfl, by rw [hdelivery]; rfl, by rw [hsessions]⟩
          habout ?_ hlog' (by rw [hdelivery]; rfl) hcollected hmine
        rw [howed, hafter, stream, List.filter_cons_of_pos (by simpa using habout)]
        rfl
      · have hne : (NativeServerMessage.domain (liveContext route) message).session? ≠
            some sessionId := by
          rw [habout]
          exact fun h => hs (Option.some.inj h)
        refine .still ⟨⟨_, hlog', ?_⟩, by rw [hdelivery]; rfl, by rw [hdelivery]; rfl,
          by rw [hsessions], ?_⟩ hpc (by rw [hdelivery]; rfl) (by rw [hdelivery]; rfl)
        · rw [stream_cons_other [] hne, stream_nil]
        · rw [howed, hafter, stream_cons_other _ hne]
    · rw [he] at hcall
      cases hcall
      rw [hqueued rfl hyes] at howed
      obtain ⟨client, hclient, -⟩ := DeliveryState.client_of_pending? hpending
      have hpending' := DeliveryState.setPending_pending? hclient (some ⟨requestId,
        publication.event.sessionId, frames, trailing ++ [.domain (liveContext route) message], true⟩)
      rw [← hdelivery] at hpending'
      have hcursor : next.delivery.cursor sessionId = self.delivery.cursor sessionId := by
        rw [hdelivery, setPending_cursor]
      have hmine : next.delivery.isSubscribedTo sessionId = self.delivery.isSubscribedTo sessionId := by
        rw [hdelivery, DeliveryState.setPending_isSubscribedTo]
      by_cases hs : publication.event.sessionId = sessionId
      · subst hs
        refine .trailed _ _ requestId outcome frames trailing ⟨hpc, hmine, hcursor, by rw [hsessions]⟩
          habout ?_ hlog hcommit hpending hpending'
        rw [howed, hafter, stream, List.filter_cons_of_pos (by simpa using habout)]
        rfl
      · have hne : (NativeServerMessage.domain (liveContext route) message).session? ≠
            some sessionId := by
          rw [habout]
          exact fun h => hs (Option.some.inj h)
        have hconcerns : self.pc.concerns sessionId = false := by
          rw [hcommit]
          exact decide_eq_false hs
        have hdrops : next.pc.drops sessionId = false := by rw [hpc, hcommit]; rfl
        refine .elsewhere ⟨⟨[], by rw [hlog, List.append_nil]; rfl, rfl⟩, ?_, hcursor,
          by rw [hsessions], ?_⟩ hconcerns (by rw [hpc]; exact hconcerns) (by simp [hdrops]) hmine
        · rw [DeliveryState.collected_of_some hpending', DeliveryState.collected_of_some hpending]
          simp only [stream_append]
          rw [stream_cons_other [] hne, stream_nil, List.append_nil]
        · rw [howed, hafter, stream_cons_other _ hne]

theorem unseen_refl (sessionId : SessionId) (self : NativeSystem Other) :
    Unseen codec config sessionId self self :=
  ⟨⟨[], by rw [List.append_nil], rfl⟩, rfl, rfl, rfl, rfl⟩

theorem collected_of_waiting {self : NativeSystem Other} {requestId : String}
    {sessionId : SessionId} (h : Waiting codec config self requestId sessionId) :
    self.delivery.collected = [] := by
  rw [DeliveryState.collected_of_some h.pending]
  rfl

/-- A section away from subscriptions that adds frames of no session. -/
theorem quiet_stream {self next : NativeSystem Other} {state : DeliveryState}
    {taken : List Frame} {pc : WorkerPc} (hquiet : self.pc.quiet = true)
    (hready : pc.quiet = true) (hnext : Becomes self next state taken pc) (frames : List Frame)
    (hlog : taken ++ state.outgoing = self.log ++ frames)
    (hframes : ∀ frame ∈ frames, frame.session? = none)
    (hpending : state.pending? = self.delivery.pending?) {sessionId : SessionId}
    (hcursor : state.cursor sessionId = self.delivery.cursor sessionId)
    (hmine : state.isSubscribedTo sessionId = self.delivery.isSubscribedTo sessionId) :
    StreamStep codec config sessionId self next := by
  have hnone : stream sessionId frames = [] :=
    stream_eq_nil fun frame hframe => by rw [hframes frame hframe]; simp
  refine .elsewhere (unseen_becomes codec config hnext frames hlog hnone
    (by rw [DeliveryState.collected_congr hpending]) hcursor)
    (WorkerPc.concerns_of_quiet hquiet _) ?_ ?_ (by rw [becomes_delivery hnext, hmine])
  · rw [hnext.pc]
    exact WorkerPc.concerns_of_quiet hready _
  · rw [hnext.pc, WorkerPc.drops_of_quiet hready]
    simp

theorem published_stream {self next : NativeSystem Other} (ha : Aligned codec config self)
    (hfree : self.publication = none) {providerId : ProviderId} {event : AgentEvent}
    {provider : ProviderDescriptor} {session : AgentSession} {routes : List EventRoute}
    {aggregate : SessionAggregate}
    (hc : Bridge.Committed self.bridge providerId event provider session routes aggregate)
    (hnext : next = { self with
      bridge := self.bridge.withSession event.sessionId aggregate
      publication := some ⟨event, Bridge.sessionViewOf routes aggregate, routes, none, []⟩ })
    (sessionId : SessionId) : StreamStep codec config sessionId self next := by
  have hpublication : next.publication =
      some ⟨event, Bridge.sessionViewOf routes aggregate, routes, none, []⟩ := by rw [hnext]
  have howed := owed_of_some codec config hpublication sessionId
  have hbefore := owed_of_none codec config hfree sessionId
  obtain ⟨hunsubscribed, hsubscribed⟩ := owed_published codec config ha.registered hc
  have hchange : Bridge.Change self.bridge (self.bridge.withSession event.sessionId aggregate) :=
    .reduced providerId event provider session routes aggregate self.bridge.world hc
  have habout := owed_session? codec config (Bridge.consistent_change ha.consistent hchange)
    (inFlight_published config ha.registered hc)
  have hstored : next.bridge.sessions[sessionId]? =
      if event.sessionId = sessionId then some aggregate
      else self.bridge.sessions[sessionId]? := by
    rw [hnext]
    exact OrderedMap.getElem?_insert _ _ _ _
  by_cases hs : event.sessionId = sessionId
  · subst hs
    rw [stream_eq_self habout] at howed
    refine .published event aggregate rfl hc.reduced (by rw [hstored, if_pos rfl])
      (by rw [hnext]; rfl) (by rw [hnext]; rfl) (by rw [hnext]; rfl) (by rw [hnext]) hbefore ?_ ?_
    · intro hsub
      rw [howed, hunsubscribed hsub]
    · intro hsub
      obtain ⟨route, hroute⟩ := hsubscribed hsub
      exact ⟨route, by rw [howed, hroute]⟩
  · refine .still ⟨⟨[], by rw [hnext, List.append_nil]; rfl, rfl⟩, by rw [hnext]; rfl,
      by rw [hnext]; rfl, by rw [hstored, if_neg hs], ?_⟩ (by rw [hnext]) (by rw [hnext]; rfl)
      (by rw [hnext]; rfl)
    rw [howed, hbefore]
    exact stream_other habout (Ne.symm hs)

/-- A handoff to another channel. -/
theorem passed_stream {self next : NativeSystem Other} {publication after : Publication}
    {others : Other} (hp : self.publication = some publication)
    (hnext : next = { self with
      bridge := self.bridge.setWorld { self.bridge.world with others := others }
      publication := some after })
    (howed : after.owed codec config.channelId = publication.owed codec config.channelId)
    (sessionId : SessionId) : StreamStep codec config sessionId self next := by
  have hpublication : next.publication = some after := by rw [hnext]
  refine .still ⟨⟨[], by rw [hnext, List.append_nil]; rfl, rfl⟩, by rw [hnext]; rfl,
    by rw [hnext]; rfl, by rw [hnext]; rfl, ?_⟩ (by rw [hnext]) (by rw [hnext]; rfl)
    (by rw [hnext]; rfl)
  rw [owed_of_some codec config hpublication, owed_of_some codec config hp, howed]

theorem recordSync_cursor (self : DeliveryState) {client : ActiveClient}
    (hclient : self.client = some client) (sessionId other : SessionId)
    (outcome : SessionSyncOutcome) :
    (self.recordSync sessionId outcome).cursor other =
      if sessionId = other then outcome.throughSequence else self.cursor other := by
  simp only [DeliveryState.recordSync, DeliveryState.updateClient, DeliveryState.cursor, hclient,
    Option.map_some, Option.bind_some, OrderedMap.getElem?_insert]
  split <;> rfl

theorem committed_stream {self next : NativeSystem Other} (ha : Aligned codec config self)
    {requestId : String} {session : SessionId} {outcome : SessionSyncOutcome}
    {baseline : EventSequence} {pending : PendingSubscription}
    (hpc : self.pc = .subscribeCommit requestId session outcome)
    (hbaseline : eventSequence? outcome.throughSequence = some baseline)
    (hpending : self.delivery.pending? = some pending)
    (hnext : Becomes self next (((self.delivery.setPending none).append
      (DeliveryState.commitBatch requestId session outcome baseline pending)).recordSync session
        outcome) self.drained .accepting) {sessionId : SessionId} (hapart : Apart sessionId self) :
    StreamStep codec config sessionId self next := by
  have hst := ha.stage
  rw [hpc] at hst
  have hc : Committing codec config self requestId session outcome := hst
  obtain ⟨frames, trailing, hcollecting, -⟩ := hc.pending
  rw [hcollecting] at hpending
  cases hpending
  obtain ⟨client, hclient, -⟩ := DeliveryState.client_of_pending? hcollecting
  have hclient' : ((self.delivery.setPending none).append (DeliveryState.commitBatch requestId
      session outcome baseline ⟨requestId, session, frames, trailing, true⟩)).client =
      some { client with pending := none } := by
    simp [DeliveryState.setPending, DeliveryState.updateClient, hclient]
  have hdelivery := becomes_delivery hnext
  have hlog := becomes_log hnext
  have hbatch : next.log = self.log ++ DeliveryState.commitBatch requestId session outcome baseline
      ⟨requestId, session, frames, trailing, true⟩ := by
    rw [hlog, log, List.append_assoc]
    rfl
  have hempty : next.delivery.collected = [] := by
    refine DeliveryState.collected_of_none ?_
    rw [hdelivery]
    simp
  have hcursor : next.delivery.cursor sessionId =
      if session = sessionId then outcome.throughSequence else self.delivery.cursor sessionId := by
    rw [hdelivery, recordSync_cursor _ hclient']
    congr 1
    exact setPending_cursor self.delivery none sessionId
  have hmine : next.delivery.isSubscribedTo sessionId = true ↔
      self.delivery.isSubscribedTo sessionId = true ∨
        (sessionId = session ∧ outcome.subscribed = true) := by
    rw [hdelivery, DeliveryState.recordSync_isSubscribedTo hclient']
    simp
  have howed := owed_congr codec config hnext.publication sessionId
  have haccepting : next.pc.concerns sessionId = false := by rw [hnext.pc]; rfl
  by_cases hs : session = sessionId
  · subst hs
    have hget : baseline.get = outcome.throughSequence := by
      unfold eventSequence? at hbaseline
      split at hbaseline
      · cases hbaseline
        rfl
      · cases hbaseline
    refine .committed requestId outcome baseline frames trailing hpc hget hcollecting hnext.pc
      hbatch hempty (by rw [hcursor, if_pos rfl]) ?_ (becomes_sessions hnext) howed
    rw [Bool.eq_iff_iff, hmine, hc.fresh]
    simp
  · have hconcerns : self.pc.concerns sessionId = false := by
      rw [hpc]
      exact decide_eq_false hs
    have hapart' := hapart hconcerns
    rw [DeliveryState.collected_of_some hcollecting, stream_append, List.append_eq_nil_iff]
      at hapart'
    refine .elsewhere ⟨⟨_, hbatch, ?_⟩, ?_, by rw [hcursor, if_neg hs],
      by rw [becomes_sessions hnext], howed⟩ hconcerns haccepting (by simp [hnext.pc, WorkerPc.drops])
      ?_
    · have hresult : (NativeServerMessage.subscriptionResult requestId session
          (if outcome.subscribed then .subscribed else .catchingUp) baseline
          outcome.pendingInteractionCount outcome.eventCount outcome.reset).session? ≠
          some sessionId := fun h => hs (Option.some.inj h)
      rw [DeliveryState.commitBatch, List.cons_append, stream_cons_other _ hresult, stream_append,
        hapart'.1, List.nil_append, stream_cons_other _ (by simp [NativeServerMessage.session?]),
        hapart'.2]
    · rw [hempty, hapart hconcerns, stream_nil]
    · rw [Bool.eq_iff_iff, hmine]
      simp [Ne.symm hs]

theorem foreign_stream {self next : NativeSystem Other} {sessionId : SessionId}
    {bridge : Bridge (NativeWorld Other)} (hquiet : Bridge.Quiet self.bridge bridge)
    (huntouched : Untouched config.channelId self.bridge bridge)
    (hnext : next = { self with bridge := bridge }) :
    StreamStep codec config sessionId self next := by
  have hdelivery : next.delivery = self.delivery := by
    rw [hnext]
    exact huntouched.delivery
  have hlog : next.log = self.log := by
    rw [log, hdelivery, hnext]
    rfl
  have hsessions : next.bridge.sessions = self.bridge.sessions := by
    rw [hnext]
    exact (Bridge.quiet_sessions hquiet).1
  exact .still ⟨⟨[], by rw [hlog, List.append_nil], rfl⟩, by rw [hdelivery], by rw [hdelivery],
    by rw [hsessions], owed_congr codec config (by rw [hnext]) _⟩ (by rw [hnext])
    (by rw [hdelivery]) (by rw [hdelivery])

theorem ended_stream {self next : NativeSystem Other} (ha : Aligned codec config self)
    {sessionId : SessionId} {publication : Publication}
    (hpublication : self.publication = some publication) (hroutes : publication.routes = [] ∨
      ∃ route ∈ publication.routes, route.channelId ∉ self.bridge.channels)
    (hnext : next = { self with publication := none }) :
    StreamStep codec config sessionId self next := by
  have hflight := ha.inFlight publication hpublication
  have hempty : publication.routes = [] := by
    rcases hroutes with hroutes | ⟨route, hroute, hmissing⟩
    · exact hroutes
    · exact absurd (ha.consistent.subscribed _ _ (hflight.subscribed route hroute)).1 hmissing
  have hnone : publication.owed codec config.channelId = [] := by
    unfold Publication.owed
    split
    · rw [hempty]
      rfl
    · rw [hempty]
  refine .still ⟨⟨[], by rw [hnext, List.append_nil]; rfl, rfl⟩, by rw [hnext]; rfl,
    by rw [hnext]; rfl, by rw [hnext], ?_⟩ (by rw [hnext]) (by rw [hnext]; rfl)
    (by rw [hnext]; rfl)
  rw [owed_of_some codec config hpublication, hnone, stream_nil]
  exact owed_of_none codec config (by rw [hnext]) _

theorem handedEvent_stream {self next : NativeSystem Other} (ha : Aligned codec config self)
    (hopen : next.delivery.abortReason = none) {sessionId : SessionId}
    (hapart : Apart sessionId self) {publication : Publication} {route : EventRoute}
    {delivery : DeliveryState} {result : Except NativeChannelPortError Unit}
    (hpublication : self.publication = some publication)
    (hhead : publication.routes.head? = some route) (hhandoff : publication.handoff = none)
    (hnative : route.channelId = config.channelId)
    (hcall : NativeChannelPort.deliverEvent codec self.delivery publication.event route.route =
      (delivery, result)) (hnext : next = { self.setDelivery delivery with
      publication := some (publication.afterEvent route
        (result.mapError NativeChannelPortError.toString)) }) :
    StreamStep codec config sessionId self next := by
  have hflight := ha.inFlight publication hpublication
  have hsub := inFlight_native config hflight hhead hnative
  obtain ⟨hok, herror⟩ := Publication.owed_handedEvent codec config.channelId hhead hhandoff
    hflight.distinct hnative
  refine handed_stream codec config ha hpublication hsub (.agentEvent publication.event)
    (some route.route) rfl rfl hcall hnext ?_ ?_ hopen sessionId hapart
  · rintro rfl hencodes
    exact hok hencodes
  · rintro e rfl hrefused
    exact herror hrefused _

theorem handedView_stream {self next : NativeSystem Other} (ha : Aligned codec config self)
    (hopen : next.delivery.abortReason = none) {sessionId : SessionId}
    (hapart : Apart sessionId self) {publication : Publication} {route : EventRoute}
    {session : AgentSession} {delivery : DeliveryState}
    {result : Except NativeChannelPortError Unit}
    (hpublication : self.publication = some publication)
    (hhead : publication.routes.head? = some route) (hhandoff : publication.handoff = some session)
    (hnative : route.channelId = config.channelId)
    (hcall : NativeChannelPort.deliverSession codec self.delivery session = (delivery, result))
    (hnext : next = { self.setDelivery delivery with
      publication := some (publication.afterView route
        (result.mapError NativeChannelPortError.toString)) }) :
    StreamStep codec config sessionId self next := by
  have hflight := ha.inFlight publication hpublication
  have hsub := inFlight_native config hflight hhead hnative
  have hid := inFlight_view config ha.consistent hflight hhandoff
  have howed := Publication.owed_handedView codec config.channelId hhead hhandoff
    hflight.distinct hnative
  rw [NativeChannelPort.deliverSession, hid] at hcall
  refine handed_stream codec config ha hpublication hsub (.agentSession session) none
    rfl (congrArg some hid) hcall hnext ?_ ?_ hopen sessionId hapart
  · intro hok hencodes
    obtain ⟨hbefore, hafter⟩ := howed (result.mapError NativeChannelPortError.toString)
    rw [hbefore, hafter, viewFrames, if_pos hencodes]
    rfl
  · intro e herror hrefused
    obtain ⟨hbefore, hafter⟩ := howed (result.mapError NativeChannelPortError.toString)
    rw [hbefore, hafter, viewFrames, hrefused]
    rfl

theorem opened_stream {self next : NativeSystem Other} (ha : Aligned codec config self)
    {sessionId : SessionId} {sessionCursors : ExtTreeMap SessionId Nat} {resumeAccepted : Bool}
    {message : NativeServerMessage} (hpc : self.pc = .hello sessionCursors resumeAccepted)
    (hnext : Becomes self next (self.delivery.openClient sessionCursors) [] (.reply message)) :
    StreamStep codec config sessionId self next := by
  have hst := ha.stage
  have hquiet : self.pc.quiet = true := by rw [hpc]; rfl
  obtain ⟨-, -, hagrees⟩ := (stage_quiet codec config hquiet).mp hst
  have hempty := ha.unused (ha.greeting.hello _ _ hpc)
  refine .reset (.inl ⟨_, _, hpc⟩) (by rw [hnext.pc, hpc]; simp) (by rw [becomes_log hnext]; rfl)
    ?_ ?_ (by rw [hnext.pc]; rfl)
  · rw [becomes_delivery hnext]
    rfl
  · rw [owed_congr codec config hnext.publication]
    exact owed_nil codec config ha (by rw [hagrees, hempty])

theorem queued_stream {self next : NativeSystem Other} (ha : Aligned codec config self)
    {sessionId : SessionId} {message : NativeServerMessage}
    (hpc : self.pc = .reply message ∨ self.pc = .reject message)
    (hnext : Becomes self next (self.delivery.append [message]) self.drained .accepting) :
    StreamStep codec config sessionId self next := by
  have hst := ha.stage
  have hquiet : self.pc.quiet = true := by rcases hpc with hpc | hpc <;> rw [hpc] <;> rfl
  have hcontrol : message.isControl = true := by
    have hready := ((stage_quiet codec config hquiet).mp hst).1
    rcases hpc with hpc | hpc <;> rw [hpc] at hready <;> exact hready
  refine quiet_stream codec config hquiet rfl hnext [message] ?_ ?_ rfl rfl rfl
  · rw [log, List.append_assoc]
    rfl
  · simp [control_session? hcontrol]

theorem discovered_stream {self next : NativeSystem Other} {sessionId : SessionId}
    {requestId : String} {snapshot : ChannelDiscoverySnapshot} {frames : List Frame}
    {sessions : ExtTreeSet SessionId} (hpc : self.pc = .discoverBatch requestId snapshot)
    (hframes : DeliveryState.discoveryFrames codec requestId snapshot = .ok frames)
    (hnext : Becomes self next ((self.delivery.append frames).updateClient fun client =>
      { client with discovered := sessions }) self.drained .accepting) :
    StreamStep codec config sessionId self next := by
  have hquiet : self.pc.quiet = true := by rw [hpc]; rfl
  refine quiet_stream codec config hquiet rfl hnext frames ?_
    (discoveryFrames_session? hframes) (by simp) ?_ (by simp)
  · rw [log, List.append_assoc]
    rfl
  · unfold DeliveryState.updateClient DeliveryState.cursor
    simp only [DeliveryState.append_client]
    cases self.delivery.client <;> rfl

theorem submitted_stream {self next : NativeSystem Other} {sessionId : SessionId}
    {bridge : Bridge (NativeWorld Other)} {pc : WorkerPc} (hquiet : self.pc.quiet = true)
    (hready : pc.Ready codec) (hbridge : Bridge.Quiet self.bridge bridge)
    (huntouched : Untouched config.channelId self.bridge bridge)
    (hnext : next = { self with bridge := bridge, pc := pc }) :
    StreamStep codec config sessionId self next := by
  have hdelivery : next.delivery = self.delivery := by
    rw [hnext]
    exact huntouched.delivery
  have hlog : next.log = self.log := by
    rw [log, hdelivery, hnext]
    rfl
  have hsessions : next.bridge.sessions = self.bridge.sessions := by
    rw [hnext]
    exact (Bridge.quiet_sessions hbridge).1
  refine .elsewhere ⟨⟨[], by rw [hlog, List.append_nil], rfl⟩, by rw [hdelivery],
    by rw [hdelivery], by rw [hsessions], owed_congr codec config (by rw [hnext]) _⟩
    (WorkerPc.concerns_of_quiet hquiet _) ?_ ?_ (by rw [hdelivery])
  · rw [hnext]
    exact WorkerPc.concerns_of_quiet (ready_quiet codec hready) _
  · rw [hnext]
    simp [WorkerPc.drops_of_quiet (ready_quiet codec hready)]

theorem already_stream {self next : NativeSystem Other} (ha : Aligned codec config self)
    {sessionId : SessionId} {requestId : String} {session : SessionId} {client : ActiveClient}
    {baseline : EventSequence} (hpc : self.pc = .subscribe requestId session)
    (hclient : self.delivery.client = some client)
    (hcursor : client.sessionCursors[session]? = some baseline.get)
    (hnext : Becomes self next (self.delivery.append
      [.subscriptionResult requestId session .alreadySubscribed baseline 0 0 false])
      self.drained .accepting) :
    StreamStep codec config sessionId self next := by
  have hst := ha.stage
  have hquiet : self.pc.quiet = true := by rw [hpc]; rfl
  obtain ⟨-, hnone, -⟩ := (stage_quiet codec config hquiet).mp hst
  have hlog : next.log = self.log ++
      [.subscriptionResult requestId session .alreadySubscribed baseline 0 0 false] := by
    rw [becomes_log hnext, log, List.append_assoc]
    rfl
  have haccepting : next.pc.concerns sessionId = false := by rw [hnext.pc]; rfl
  have hdelivery := becomes_delivery hnext
  by_cases hs : session = sessionId
  · subst hs
    refine .already requestId baseline hpc hnext.pc ?_ hlog ?_
      (DeliveryState.collected_of_none hnone) (by rw [hdelivery]; rfl) (becomes_sessions hnext)
      (owed_congr codec config hnext.publication _)
    · simp [DeliveryState.cursor, hclient, hcursor]
    · rw [hdelivery]
      exact DeliveryState.collected_of_none hnone
  · refine .elsewhere ⟨⟨_, hlog, ?_⟩, by rw [hdelivery]; rfl, by rw [hdelivery]; rfl,
      by rw [becomes_sessions hnext], owed_congr codec config hnext.publication _⟩
      (WorkerPc.concerns_of_quiet hquiet _) haccepting (by simp [hnext.pc, WorkerPc.drops])
      (by rw [hdelivery]; rfl)
    have hne : (NativeServerMessage.subscriptionResult requestId session .alreadySubscribed
        baseline 0 0 false).session? ≠ some sessionId := fun h => hs (Option.some.inj h)
    rw [stream_cons_other [] hne, stream_nil]

theorem began_stream {self next : NativeSystem Other} (ha : Aligned codec config self)
    {sessionId : SessionId} {requestId : String} {session : SessionId} {client : ActiveClient}
    (hpc : self.pc = .subscribe requestId session) (hclient : self.delivery.client = some client)
    (hnext : Becomes self next (self.delivery.setPending (some ⟨requestId, session, [], [], false⟩))
      self.drained (.subscribeCursor requestId session)) :
    StreamStep codec config sessionId self next := by
  have hst := ha.stage
  have hquiet : self.pc.quiet = true := by rw [hpc]; rfl
  obtain ⟨-, hnone, -⟩ := (stage_quiet codec config hquiet).mp hst
  have hunseen : Unseen codec config sessionId self next := by
    refine unseen_becomes codec config hnext [] (by rw [List.append_nil]; rfl) rfl ?_
      (setPending_cursor _ _ _)
    rw [DeliveryState.collected_of_some (DeliveryState.setPending_pending? hclient _),
      DeliveryState.collected_of_none hnone]
    rfl
  by_cases hs : session = sessionId
  · subst hs
    exact .began requestId hpc hnext.pc (by rw [becomes_log hnext]; rfl) hunseen
  · refine .elsewhere hunseen (WorkerPc.concerns_of_quiet hquiet _) ?_
      (by simp [hnext.pc, WorkerPc.drops]) ?_
    · rw [hnext.pc]
      exact decide_eq_false hs
    · rw [becomes_delivery hnext, DeliveryState.setPending_isSubscribedTo]

theorem asked_stream {self next : NativeSystem Other} {sessionId : SessionId} {requestId : String}
    {session : SessionId} (hpc : self.pc = .subscribeCursor requestId session)
    (hnext : Becomes self next self.delivery self.drained
      (.subscribeSync requestId session (self.delivery.cursor session))) :
    StreamStep codec config sessionId self next := by
  have hunseen : Unseen codec config sessionId self next :=
    unseen_becomes codec config hnext [] (by rw [List.append_nil]; rfl) rfl rfl rfl
  by_cases hs : session = sessionId
  · subst hs
    exact .asked requestId hpc hnext.pc hunseen
  · refine .elsewhere hunseen ?_ ?_ (by simp [hnext.pc, WorkerPc.drops])
      (by rw [becomes_delivery hnext])
    · rw [hpc]
      exact decide_eq_false hs
    · rw [hnext.pc]
      exact decide_eq_false hs

theorem syncRefused_stream {self next : NativeSystem Other}
    (hopen : next.delivery.abortReason = none) {sessionId : SessionId} {requestId : String}
    {session : SessionId} {afterSequence : Nat} {e : SubscriptionError} {delivery : DeliveryState}
    (hpc : self.pc = .subscribeSync requestId session afterSequence)
    (hdelivery : delivery = self.delivery ∨ delivery = self.delivery.abortFull)
    (hnext : Becomes self next delivery self.drained (.subscribeFailed requestId session e)) :
    StreamStep codec config sessionId self next := by
  obtain rfl : delivery = self.delivery := by
    rcases hdelivery with rfl | rfl
    · rfl
    · rw [becomes_delivery hnext] at hopen
      cases hopen
  have hunseen : Unseen codec config sessionId self next :=
    unseen_becomes codec config hnext [] (by rw [List.append_nil]; rfl) rfl rfl rfl
  by_cases hs : session = sessionId
  · subst hs
    exact .refused requestId afterSequence e hpc hnext.pc hunseen
  · refine .elsewhere hunseen ?_ ?_ (by simp [hnext.pc, WorkerPc.drops])
      (by rw [becomes_delivery hnext])
    · rw [hpc]
      exact decide_eq_false hs
    · rw [hnext.pc]
      exact decide_eq_false hs

theorem synced_stream {self next : NativeSystem Other} (ha : Aligned codec config self)
    {sessionId : SessionId} {requestId : String} {session : SessionId} {afterSequence : Nat}
    {channel : ChannelDescriptor} {aggregate : SessionAggregate} {provider : ProviderDescriptor}
    {sync : ChannelSessionSync} {pending : PendingSubscription}
    (hpc : self.pc = .subscribeSync requestId session afterSequence)
    (hfree : self.publication = none)
    (hsyncs : Bridge.Syncs self.bridge config.channelId session afterSequence sessionSyncPageEvents
      channel aggregate provider sync) (hpending : self.delivery.pending? = some pending)
    (hnext : next = { self with
      bridge := self.bridge.afterSync config.channelId session sync { self.bridge.world with
        delivery := self.delivery.setPending (some (pending.withSync sync)) }
      pc := .subscribeCommit requestId session (Bridge.syncOutcome sync) }) :
    StreamStep codec config sessionId self next := by
  have hst := ha.stage
  rw [hpc] at hst
  have hw : Waiting codec config self requestId session := hst
  rw [hw.pending] at hpending
  cases hpending
  obtain ⟨client, hclient, -⟩ := DeliveryState.client_of_pending? hw.pending
  obtain ⟨history, hpaged⟩ := syncs_paged ha.consistent hsyncs
  obtain ⟨hsessions, hconfig⟩ := Bridge.quiet_sessions (Bridge.afterSync_quiet hsyncs
    { self.bridge.world with delivery := self.delivery.setPending (some
      (PendingSubscription.withSync ⟨requestId, session, [], [], false⟩ sync)) })
  have hdelivery : next.delivery = self.delivery.setPending (some ⟨requestId, session,
      NativeChannelPort.syncFramesOf requestId sync, [], true⟩) := by
    rw [hnext, delivery, Bridge.afterSync_world]
    rfl
  have hpending' : next.delivery.pending? = some ⟨requestId, session,
      NativeChannelPort.syncFramesOf requestId sync, [], true⟩ := by
    rw [hdelivery]
    exact DeliveryState.setPending_pending? hclient _
  have hlog : next.log = self.log := by
    rw [log, hdelivery, hnext]
    rfl
  have hcursor : next.delivery.cursor sessionId = self.delivery.cursor sessionId := by
    rw [hdelivery, setPending_cursor]
  have hsame : next.bridge.sessions = self.bridge.sessions := by
    rw [hnext]
    exact hsessions
  have hpc' : next.pc = .subscribeCommit requestId session (Bridge.syncOutcome sync) := by
    rw [hnext]
  have howed : next.owed codec config sessionId = self.owed codec config sessionId :=
    owed_congr codec config (by rw [hnext]) _
  have hnone := owed_of_none codec config hfree sessionId
  by_cases hs : session = sessionId
  · subst hs
    exact .synced requestId afterSequence sync history hpc hpaged hpc' hpending'
      (collected_of_waiting codec config hw) hlog hcursor hsame (by rw [hnext]; exact hconfig)
      hnone (by rw [howed, hnone])
  · refine .elsewhere ⟨⟨[], by rw [hlog, List.append_nil], rfl⟩, ?_, hcursor, by rw [hsame],
      howed⟩ ?_ ?_ (by simp [hpc', WorkerPc.drops]) ?_
    · rw [DeliveryState.collected_of_some hpending', collected_of_waiting codec config hw,
        List.append_nil, stream_nil]
      exact stream_other (syncFramesOf_session? hpaged requestId) (Ne.symm hs)
    · rw [hpc]
      exact decide_eq_false hs
    · rw [hpc']
      exact decide_eq_false hs
    · rw [hdelivery, DeliveryState.setPending_isSubscribedTo]

theorem syncFailed_stream {self next : NativeSystem Other} (ha : Aligned codec config self)
    {sessionId : SessionId} {requestId : String} {session : SessionId} {e : SubscriptionError}
    {message : NativeServerMessage} (hpc : self.pc = .subscribeFailed requestId session e)
    (hnext : Becomes self next (self.delivery.setPending none) self.drained (.reject message)) :
    StreamStep codec config sessionId self next := by
  have hst := ha.stage
  rw [hpc] at hst
  have hw : Waiting codec config self requestId session := hst
  have hempty : next.delivery.collected = [] := by
    rw [becomes_delivery hnext]
    exact DeliveryState.collected_of_none (DeliveryState.setPending_none_pending? _)
  have hunseen : Unseen codec config sessionId self next := by
    refine unseen_becomes codec config hnext [] (by rw [List.append_nil]; rfl) rfl ?_
      (setPending_cursor _ _ _)
    rw [← becomes_delivery hnext, hempty, collected_of_waiting codec config hw]
  have hafter : next.pc.concerns sessionId = false := by rw [hnext.pc]; rfl
  by_cases hs : session = sessionId
  · subst hs
    refine .failed requestId e hpc (by rw [hnext.pc]; rfl) ?_ hempty hunseen
    rw [becomes_delivery hnext, DeliveryState.setPending_isSubscribedTo, hw.fresh]
  · refine .elsewhere hunseen ?_ hafter (by simp [hnext.pc, WorkerPc.drops]) ?_
    · rw [hpc]
      exact decide_eq_false hs
    · rw [becomes_delivery hnext, DeliveryState.setPending_isSubscribedTo]

theorem broken_stream {self next : NativeSystem Other} (ha : Aligned codec config self)
    {sessionId : SessionId} {requestId : String} {session : SessionId}
    {outcome : SessionSyncOutcome} (hpc : self.pc = .subscribeCommit requestId session outcome)
    (hbroken : eventSequence? outcome.throughSequence = none ∨
      validateUuidV7 codec "request_id" requestId ≠ .ok () ∨ self.delivery.pending? = none) :
    StreamStep codec config sessionId self next := by
  have hst := ha.stage
  rw [hpc] at hst
  have hc : Committing codec config self requestId session outcome := hst
  obtain ⟨baseline, hbaseline⟩ := hc.baseline
  obtain ⟨frames, trailing, hpending, -⟩ := hc.pending
  simp [hbaseline, hc.valid, hpending] at hbroken

theorem unsubscribed_stream {self next : NativeSystem Other} {sessionId : SessionId}
    {requestId : String} {session : SessionId} {outcome : UnsubscribeOutcome}
    (hpc : self.pc = .unsubscribe requestId session) (hnext : next = { self with
      bridge := (self.bridge.unsubscribe config.channelId session).1
      pc := .unsubscribeRecord requestId session outcome }) :
    StreamStep codec config sessionId self next := by
  have hdelivery : next.delivery = self.delivery := by
    rw [hnext, delivery, Bridge.unsubscribe_world]
    rfl
  have hsessions : next.bridge.sessions = self.bridge.sessions := by
    rw [hnext]
    exact (Bridge.quiet_sessions (Bridge.unsubscribe_quiet _ _ _)).1
  refine .elsewhere ⟨⟨[], ?_, rfl⟩, by rw [hdelivery], by rw [hdelivery], by rw [hsessions],
    owed_congr codec config (by rw [hnext]) _⟩ (by rw [hpc]; rfl) (by rw [hnext]; rfl)
    (by simp [hnext, hpc, WorkerPc.drops, WorkerPc.interrupts]) (by rw [hdelivery])
  rw [List.append_nil, log, hdelivery, hnext]
  rfl

theorem removed_stream {self next : NativeSystem Other} {sessionId : SessionId}
    {requestId : String} {session : SessionId} {outcome : UnsubscribeOutcome}
    {message : NativeServerMessage} (hpc : self.pc = .unsubscribeRecord requestId session outcome)
    (hnext : Becomes self next (self.delivery.removeSubscription session) self.drained
      (.reply message)) :
    StreamStep codec config sessionId self next := by
  have hunseen : Unseen codec config sessionId self next := by
    refine unseen_becomes codec config hnext [] (by rw [List.append_nil]; rfl) rfl ?_
      ?_
    · rw [DeliveryState.collected_congr (DeliveryState.removeSubscription_pending? _ _)]
    · unfold DeliveryState.removeSubscription DeliveryState.updateClient DeliveryState.cursor
      cases self.delivery.client <;> rfl
  have hafter : next.pc.concerns sessionId = false := by rw [hnext.pc]; rfl
  by_cases hs : session = sessionId
  · subst hs
    exact .dropped requestId outcome hunseen hpc hafter
  · refine .elsewhere hunseen (by rw [hpc]; rfl) hafter (by simp [hnext.pc, WorkerPc.drops]) ?_
    rw [becomes_delivery hnext, Bool.eq_iff_iff, DeliveryState.removeSubscription_isSubscribedTo]
    simp [Ne.symm hs]

theorem left_stream {self next : NativeSystem Other} {sessionId : SessionId} {session : SessionId}
    {remaining : List SessionId} {last : Bool}
    (hpc : self.pc = .unsubscribing (session :: remaining) last) (hnext : next = { self with
      bridge := (self.bridge.unsubscribe config.channelId session).1
      pc := .unsubscribing remaining last }) :
    StreamStep codec config sessionId self next := by
  have hdelivery : next.delivery = self.delivery := by
    rw [hnext, delivery, Bridge.unsubscribe_world]
    rfl
  have hsessions : next.bridge.sessions = self.bridge.sessions := by
    rw [hnext]
    exact (Bridge.quiet_sessions (Bridge.unsubscribe_quiet _ _ _)).1
  refine .elsewhere ⟨⟨[], ?_, rfl⟩, by rw [hdelivery], by rw [hdelivery], by rw [hsessions],
    owed_congr codec config (by rw [hnext]) _⟩ (by rw [hpc]; rfl) (by rw [hnext]; rfl)
    (by simp [hpc, WorkerPc.interrupts]) (by rw [hdelivery])
  rw [List.append_nil, log, hdelivery, hnext]
  rfl

theorem cleared_stream {self next : NativeSystem Other} (ha : Aligned codec config self)
    {sessionId : SessionId} {last : Bool} {pc : WorkerPc} (hpc : self.pc = .unsubscribing [] last)
    (hready : pc.Ready codec) (hnext : Becomes self next self.delivery.clearConnection [] pc) :
    StreamStep codec config sessionId self next := by
  have hst := ha.stage
  rw [hpc] at hst
  refine .reset (.inr ⟨last, hpc⟩) ?_ (by rw [becomes_log hnext]; rfl) ?_ ?_ ?_
  · rw [hnext.pc, hpc]
    intro heq
    rw [heq] at hready
    simp [WorkerPc.Ready, WorkerPc.quiet] at hready
  · rw [becomes_delivery hnext]
    rfl
  · rw [owed_congr codec config hnext.publication]
    refine owed_nil codec config ha ?_
    rw [← Bool.not_eq_true]
    intro hsub
    cases (hst.2 sessionId hsub).2
  · rw [hnext.pc]
    exact WorkerPc.concerns_of_quiet (ready_quiet codec hready) _

/-- Every move of a system that stays below its queue limit is, for each session,
one of the listed stream steps. -/
theorem move_stream {self next : NativeSystem Other} (ha : Aligned codec config self)
    (m : Move codec config self next) (hopen : next.delivery.abortReason = none)
    {sessionId : SessionId} (hapart : Apart sessionId self) :
    StreamStep codec config sessionId self next := by
  have hst := ha.stage
  cases m with
  | stay hnext =>
    rw [hnext]
    exact .still (unseen_refl codec config sessionId self) rfl rfl rfl
  | foreign bridge hfree hquiet huntouched hnext =>
    exact foreign_stream codec config hquiet huntouched hnext
  | published providerId event provider session routes aggregate hfree hcommitted hnext =>
    exact published_stream codec config ha hfree hcommitted hnext sessionId
  | ended publication hpublication hroutes hnext =>
    exact ended_stream codec config ha hpublication hroutes hnext
  | passedEvent publication route others result hpublication hhead hhandoff hother hnext =>
    exact passed_stream codec config hpublication hnext
      (Publication.owed_passedEvent codec config.channelId hhead hhandoff hother result) sessionId
  | passedView publication route session others result hpublication hhead hhandoff hother hnext =>
    exact passed_stream codec config hpublication hnext
      (Publication.owed_passedView codec config.channelId hhead hhandoff hother result) sessionId
  | handedEvent publication route delivery result hpublication hhead hhandoff hnative hcall hnext =>
    exact handedEvent_stream codec config ha hopen hapart hpublication hhead hhandoff hnative hcall
      hnext
  | handedView publication route session delivery result hpublication hhead hhandoff hnative hcall
      hnext =>
    exact handedView_stream codec config ha hopen hapart hpublication hhead hhandoff hnative hcall
      hnext
  | turn pc hquiet hready hnext =>
    exact quiet_stream codec config hquiet (ready_quiet codec hready) hnext []
      (by rw [List.append_nil]; rfl) (by simp) rfl rfl rfl
  | drained frame rest pc hquiet hready houtgoing hnext =>
    refine quiet_stream codec config hquiet (ready_quiet codec hready) hnext []
      ?_ (by simp) rfl rfl rfl
    rw [log, houtgoing]
    simp
  | opened sessionCursors resumeAccepted message hpc hcontrol hnext =>
    exact opened_stream codec config ha hpc hnext
  | queued message hpc hnext =>
    exact queued_stream codec config ha hpc hnext
  | full pc hquiet hready hnext =>
    rw [becomes_delivery hnext] at hopen
    cases hopen
  | discovered requestId snapshot frames sessions hpc hframes hnext =>
    exact discovered_stream codec config hpc hframes hnext
  | submitted bridge pc hfree hquiet hready hbridge huntouched hnext =>
    exact submitted_stream codec config hquiet hready hbridge huntouched hnext
  | already requestId session client baseline hpc hclient hmem hcursor hnext =>
    exact already_stream codec config ha hpc hclient hcursor hnext
  | began requestId session client hpc hclient hmem hnext =>
    exact began_stream codec config ha hpc hclient hnext
  | asked requestId session hpc hnext =>
    exact asked_stream codec config hpc hnext
  | syncRefused requestId session afterSequence e delivery hpc hfree hdelivery hnext =>
    exact syncRefused_stream codec config hopen hpc hdelivery hnext
  | syncAgain requestId session afterSequence outcome hpc hfree hsub hnext =>
    rw [hpc] at hst
    have hw : Waiting codec config self requestId session := hst
    rw [hw.agrees, hw.fresh] at hsub
    cases hsub
  | synced requestId session afterSequence channel aggregate provider sync pending hpc hfree
      hsyncs hpending hnext =>
    exact synced_stream codec config ha hpc hfree hsyncs hpending hnext
  | syncFailed requestId session e message hpc hcontrol hnext =>
    exact syncFailed_stream codec config ha hpc hnext
  | committed requestId session outcome baseline pending hpc hbaseline hpending hfits hnext =>
    exact committed_stream codec config ha hpc hbaseline hpending hnext hapart
  | overflowed requestId session outcome pending hpc hpending hfull hnext =>
    rw [becomes_delivery hnext] at hopen
    cases hopen
  | broken requestId session outcome hpc hbroken hnext =>
    exact broken_stream codec config ha hpc hbroken
  | unsubscribed requestId session outcome hpc hfree hnext =>
    exact unsubscribed_stream codec config hpc hnext
  | removed requestId session outcome message hpc hcontrol hnext =>
    exact removed_stream codec config hpc hnext
  | leaving last hpc hnext =>
    exact .elsewhere (unseen_becomes codec config hnext []
      (by rw [List.append_nil]; rfl) rfl rfl rfl) (by rw [hpc]; rfl) (by rw [hnext.pc]; rfl)
      (by simp [hpc, WorkerPc.interrupts]) (by rw [becomes_delivery hnext])
  | left session remaining last hpc hfree hnext =>
    exact left_stream codec config hpc hnext
  | cleared last pc hpc hready hnext =>
    exact cleared_stream codec config ha hpc hready hnext

/-- The step leaves the output queue within its limit. -/
def WithinLimit (self : NativeSystem Other) (input : NativeInput) : Prop :=
  (step codec config otherPorts self input).1.delivery.abortReason = none

instance (self : NativeSystem Other) (input : NativeInput) :
    Decidable (WithinLimit codec config otherPorts self input) :=
  inferInstanceAs (Decidable (_ = none))

theorem step_stream {self : NativeSystem Other} (ha : Aligned codec config self)
    {input : NativeInput} (hlimit : WithinLimit codec config otherPorts self input)
    {sessionId : SessionId} (hapart : Apart sessionId self) :
    StreamStep codec config sessionId self (step codec config otherPorts self input).1 :=
  move_stream codec config ha (step_move codec config otherPorts self input) hlimit hapart

end NativeSystem

end AgentPulse
