import AgentPulse.BridgeDelivery

/-!
# Synchronization pages and live delivery

The log of port calls is read as the events handed to one channel for one
session. A page is a segment of the session's history, a live delivery is its
newest event, and between them the log follows the history.
-/
namespace AgentPulse

open Std (ExtTreeMap ExtTreeSet)
open SessionAggregate (Reduces reduces_anchored reduces_recentEvents reduces_replay Numbered
  numbered_page retainedEventPageAfter_eq)

namespace Bridge

variable {World : Type} (ports : Ports World)

/-- A page of a history: where it starts, what it holds and where it ends. -/
structure PageOf (history : List AgentEvent) (requestedAfter maxEvents : Nat)
    (sync : ChannelSessionSync) : Prop where
  start : (sync.reset = false ∧ sync.afterSequence = requestedAfter) ∨
    (sync.reset = true ∧ sync.afterSequence = 0)
  within : sync.afterSequence ≤ history.length
  events : sync.events.map RoutedAgentEvent.event =
    (history.drop sync.afterSequence).take maxEvents
  through : sync.throughSequence = min (sync.afterSequence + maxEvents) history.length
  final : sync.isFinal = true ↔ sync.throughSequence = history.length

theorem pageThrough_eq {history : List AgentEvent} (h : Numbered history)
    {afterSequence maxEvents : Nat} (hle : afterSequence ≤ history.length) :
    pageThrough afterSequence ((history.drop afterSequence).take maxEvents) =
      min (afterSequence + maxEvents) history.length := by
  have hpage := congrArg List.getLast? (numbered_page h afterSequence maxEvents)
  rw [List.getLast?_map, List.getLast?_range'] at hpage
  unfold pageThrough
  cases hlast : ((history.drop afterSequence).take maxEvents).getLast? with
  | none =>
    rw [hlast, Option.map_none] at hpage
    split at hpage
    · simp only
      omega
    · cases hpage
  | some event =>
    rw [hlast, Option.map_some] at hpage
    split at hpage
    · cases hpage
    · have hseq := Option.some.inj hpage
      simp only
      omega

theorem pageOrReset_ok {config : SessionAggregateConfig} {history : List AgentEvent}
    {aggregate : SessionAggregate} (h : Reduces config history aggregate) {channelId : ChannelId}
    {requestedAfter maxEvents afterSequence : Nat} {reset : Bool} {events : List AgentEvent}
    (hpage : pageOrReset channelId aggregate requestedAfter maxEvents =
      .ok (afterSequence, reset, events)) :
    ((reset = false ∧ afterSequence = requestedAfter) ∨ (reset = true ∧ afterSequence = 0)) ∧
      afterSequence ≤ history.length ∧
      events = (history.drop afterSequence).take maxEvents := by
  unfold pageOrReset at hpage
  cases hfirst : aggregate.retainedEventPageAfter requestedAfter maxEvents with
  | some page =>
    simp only [hfirst] at hpage
    cases hpage
    rw [retainedEventPageAfter_eq h] at hfirst
    split at hfirst
    · next hcovered =>
      cases hfirst
      exact ⟨.inl ⟨rfl, rfl⟩, by omega, rfl⟩
    · cases hfirst
  | none =>
    simp only [hfirst] at hpage
    cases hreset : aggregate.retainedEventPageAfter 0 maxEvents with
    | none => simp [hreset] at hpage
    | some page =>
      simp only [hreset] at hpage
      cases hpage
      rw [retainedEventPageAfter_eq h] at hreset
      split at hreset
      · cases hreset
        exact ⟨.inr ⟨rfl, rfl⟩, by omega, rfl⟩
      · cases hreset

theorem routedEvents_events {provider : ProviderDescriptor} {channel : ChannelDescriptor}
    {session : AgentSession} {events : List AgentEvent} {routed : List RoutedAgentEvent}
    (h : routedEvents provider channel session events = .ok routed) :
    routed.map RoutedAgentEvent.event = events := by
  refine Fallible.map_of_mapM_ok ?_ h
  intro event routedEvent hevent
  split at hevent
  · cases hevent
    rfl
  · cases hevent

/-- Every page that `syncSession` builds is a page of the session's history, and
its baseline is that of the current aggregate. -/
theorem sessionSync_ok {config : SessionAggregateConfig} {history : List AgentEvent}
    {aggregate : SessionAggregate} (h : Reduces config history aggregate)
    {provider : ProviderDescriptor} {channel : ChannelDescriptor} {channelId : ChannelId}
    {requestedAfter maxEvents : Nat} {sync : ChannelSessionSync}
    (hsync : sessionSync provider channel channelId aggregate requestedAfter maxEvents =
      .ok sync) :
    PageOf history requestedAfter maxEvents sync ∧
      ∀ baseline ∈ sync.baseline, baselineOf provider channel aggregate = .ok baseline := by
  have hanchor := reduces_anchored h
  unfold sessionSync at hsync
  rw [Fallible.bind_eq_ok] at hsync
  obtain ⟨⟨afterSequence, reset, events⟩, hpage, hsync⟩ := hsync
  simp only [Fallible.bind_eq_ok] at hsync
  obtain ⟨routed, hrouted, hsync⟩ := hsync
  obtain ⟨hstart, hwithin, rfl⟩ := pageOrReset_ok h hpage
  have hthrough : pageThrough afterSequence ((history.drop afterSequence).take maxEvents) =
      min (afterSequence + maxEvents) history.length := pageThrough_eq hanchor.sequences hwithin
  have hevents := routedEvents_events hrouted
  rw [hthrough, hanchor.cursor] at hsync
  by_cases hfinal : min (afterSequence + maxEvents) history.length = history.length
  · rw [if_pos (by simpa using hfinal), Fallible.bind_eq_ok] at hsync
    obtain ⟨baseline, hbaseline, hsync⟩ := hsync
    cases hsync
    refine ⟨⟨hstart, hwithin, hevents, rfl, by simpa [ChannelSessionSync.isFinal] using hfinal⟩, ?_⟩
    intro b hb
    cases hb
    exact hbaseline
  · rw [if_neg (by simpa using hfinal)] at hsync
    cases hsync
    refine ⟨⟨hstart, hwithin, hevents, rfl, by simpa [ChannelSessionSync.isFinal] using hfinal⟩, ?_⟩
    intro b hb
    cases hb

def isCommitted : Except ProviderEventError ProviderEventReport → Bool
  | .ok ⟨.applied, _⟩ => true
  | .error (.channelHandoffs _) => true
  | _ => false

theorem isCommitted_iff {result : Except ProviderEventError ProviderEventReport} :
    isCommitted result = true ↔ IsCommitted result := by
  unfold isCommitted IsCommitted
  cases result with
  | error e => cases e <;> simp
  | ok report =>
    obtain ⟨outcome, deliveries⟩ := report
    cases outcome <;> simp

/-- The event that an operation adds to the history of a session. -/
def newlyPublished (sessionId : SessionId) : BridgeOp → BridgeResult → List AgentEvent
  | .handleProviderEvent _ event, .providerEvent result =>
    if event.sessionId = sessionId ∧ isCommitted result = true then [event] else []
  | _, _ => []

/-- All events of a session that a run accepts, in order. -/
def published (sessionId : SessionId) (start : Bridge World) (ops : List BridgeOp) :
    List AgentEvent :=
  Trace.collected (step ports) (newlyPublished sessionId) start ops

/-- The stored aggregate of a session was reduced from `history`. -/
def SessionHistory (bridge : Bridge World) (sessionId : SessionId) (history : List AgentEvent) :
    Prop :=
  match bridge.sessions[sessionId]? with
  | none => history = []
  | some aggregate => Reduces bridge.sessionConfig history aggregate

theorem newlyPublished_quiet {sessionId : SessionId} {op : BridgeOp} (result : BridgeResult)
    (hop : ∀ providerId event, op ≠ .handleProviderEvent providerId event) :
    newlyPublished sessionId op result = [] := by
  cases op with
  | handleProviderEvent providerId event => exact absurd rfl (hop providerId event)
  | _ => rfl

/-- One event handled: either nothing changed and nothing is published, or the
event was committed. -/
theorem handleProviderEvent_published (self : Bridge World) (providerId : ProviderId)
    (event : AgentEvent) (sessionId : SessionId) :
    ((self.step ports (.handleProviderEvent providerId event)).1 = self ∧
      newlyPublished sessionId (.handleProviderEvent providerId event)
        (self.step ports (.handleProviderEvent providerId event)).2 = []) ∨
    (∃ provider session routes aggregate,
      Committed self providerId event provider session routes aggregate ∧
      (self.step ports (.handleProviderEvent providerId event)).1 =
        self.commit ports event routes aggregate ∧
      newlyPublished sessionId (.handleProviderEvent providerId event)
        (self.step ports (.handleProviderEvent providerId event)).2 =
        if event.sessionId = sessionId then [event] else []) := by
  simp only [step, Prod.map_fst, Prod.map_snd, id_eq, newlyPublished]
  rcases handleProviderEvent_cases ports self providerId event with ⟨e, he, hnot, -⟩ |
    ⟨old, -, -, he⟩ | ⟨provider, session, routes, aggregate, hc, he⟩
  · have hno : isCommitted (.error e) = false := by
      cases e with
      | channelHandoffs report => exact absurd rfl (hnot report)
      | _ => rfl
    exact .inl ⟨by rw [he], by simp [he, hno]⟩
  · exact .inl ⟨by rw [he], by simp [he, isCommitted]⟩
  · have hyes := isCommitted_iff.mpr (commitResult_isCommitted ports self event routes aggregate)
    exact .inr ⟨provider, session, routes, aggregate, hc, by rw [he], by simp [he, hyes]⟩

theorem sessionHistory_step {self : Bridge World} {sessionId : SessionId}
    {history : List AgentEvent} (h : SessionHistory self sessionId history) (op : BridgeOp) :
    SessionHistory (self.step ports op).1 sessionId
      (history ++ newlyPublished sessionId op (self.step ports op).2) := by
  by_cases hop : ∀ providerId event, op ≠ .handleProviderEvent providerId event
  · obtain ⟨hsessions, hconfig⟩ := quiet_sessions (step_quiet ports self op hop)
    rw [newlyPublished_quiet _ hop, List.append_nil]
    unfold SessionHistory
    rw [hsessions, hconfig]
    exact h
  · simp only [not_forall, ne_eq, not_not] at hop
    obtain ⟨providerId, event, rfl⟩ := hop
    rcases handleProviderEvent_published ports self providerId event sessionId with
      ⟨hsame, hnone⟩ | ⟨provider, session, routes, aggregate, hc, hnext, hnew⟩
    · rw [hsame, hnone, List.append_nil]
      exact h
    · rw [hnext, hnew]
      unfold SessionHistory at h ⊢
      simp only [commit, withSession, OrderedMap.getElem?_insert]
      by_cases hs : event.sessionId = sessionId
      · subst hs
        rw [if_pos rfl, if_pos rfl]
        rcases hc.reduced with ⟨old, hold, happlied, rfl⟩ | ⟨hnone, hinit⟩
        · rw [hold] at h
          exact .applied h happlied
        · rw [hnone] at h
          simp only at h
          rw [h]
          exact .initial hinit
      · rw [if_neg hs, if_neg hs, List.append_nil]
        exact h

/-- The aggregate of every session is the reduction of what was published. -/
theorem run_sessionHistory (config : SessionAggregateConfig) (world : World)
    (ops : List BridgeOp) (sessionId : SessionId) :
    SessionHistory (run ports config world ops) sessionId
      (published ports sessionId (withSessionConfig config world) ops) := by
  have hstart : SessionHistory (withSessionConfig config world) sessionId [] := by
    simp [SessionHistory, withSessionConfig]
  have h := Trace.collected_invariant (step ports) (newlyPublished sessionId)
    (fun past bridge => SessionHistory bridge sessionId past)
    (fun past bridge op hpast => sessionHistory_step ports hpast op) [] _ ops hstart
  rw [List.nil_append] at h
  exact h

/-- The events of one session that a call hands to one channel. -/
def handedBy (channelId : ChannelId) (sessionId : SessionId) : PortCall → List AgentEvent
  | .deliverEvent target event _ =>
    if target = channelId ∧ event.sessionId = sessionId then [event] else []
  | .deliverSessionSync target sync =>
    if target = channelId then
      (sync.events.map RoutedAgentEvent.event).filter fun event => event.sessionId = sessionId
    else []
  | _ => []

def handedTo (channelId : ChannelId) (sessionId : SessionId) (calls : List Handoff) :
    List AgentEvent :=
  calls.flatMap fun handoff => handedBy channelId sessionId handoff.1

@[simp] theorem handedTo_nil (channelId : ChannelId) (sessionId : SessionId) :
    handedTo channelId sessionId [] = [] := rfl

@[simp] theorem handedTo_append (channelId : ChannelId) (sessionId : SessionId)
    (calls more : List Handoff) :
    handedTo channelId sessionId (calls ++ more) =
      handedTo channelId sessionId calls ++ handedTo channelId sessionId more := by
  simp [handedTo]

theorem handedTo_subscriberCalls {event : AgentEvent} {session : AgentSession}
    {target : ChannelId} {calls : List Handoff} (h : SubscriberCalls event session target calls)
    (channelId : ChannelId) (sessionId : SessionId) :
    handedTo channelId sessionId calls =
      if target = channelId ∧ event.sessionId = sessionId then [event] else [] := by
  cases h <;> simp [handedTo, handedBy]

theorem handedTo_blocks {event : AgentEvent} {session : AgentSession}
    {subscribers : List ChannelId} {blocks : List (List Handoff)}
    (h : List.Forall₂ (SubscriberCalls event session) subscribers blocks)
    (hnodup : subscribers.Nodup) (channelId : ChannelId) (sessionId : SessionId) :
    handedTo channelId sessionId blocks.flatten =
      if channelId ∈ subscribers ∧ event.sessionId = sessionId then [event] else [] := by
  induction h with
  | nil => simp
  | @cons target calls subscribers blocks hcalls hrest ih =>
    have hhead := handedTo_subscriberCalls hcalls channelId sessionId
    have htail := ih hnodup.of_cons
    rw [List.flatten_cons, handedTo_append, hhead, htail]
    by_cases ht : target = channelId
    · subst ht
      have hnot : target ∉ subscribers := (List.nodup_cons.mp hnodup).1
      by_cases hs : event.sessionId = sessionId <;> simp [hs, hnot]
    · have ht' : ¬ channelId = target := fun h => ht h.symm
      by_cases hs : event.sessionId = sessionId <;> simp [hs, ht, ht']

/-- A delivered event reaches a channel exactly when it is subscribed. -/
theorem handedTo_delivered {before after : Bridge (Recorded World)} {event : AgentEvent}
    {aggregate : SessionAggregate} (h : Delivered before after event aggregate)
    (channelId : ChannelId) (sessionId : SessionId) :
    ∃ calls, after.world.calls = before.world.calls ++ calls ∧
      handedTo channelId sessionId calls =
        if before.isSubscribed channelId sessionId = true ∧ event.sessionId = sessionId
        then [event] else [] := by
  obtain ⟨blocks, hcalls, hblocks⟩ := h.handed
  refine ⟨blocks.flatten, hcalls, ?_⟩
  rw [handedTo_blocks hblocks (MultiMap.members_nodup _ _)]
  by_cases hs : event.sessionId = sessionId
  · subst hs
    simp only [and_true]
    by_cases hsub : before.isSubscribed channelId event.sessionId = true
    · rw [if_pos (mem_sessionSubscribers.mpr hsub), if_pos hsub]
    · rw [if_neg (fun hm => hsub (mem_sessionSubscribers.mp hm)), if_neg hsub]
  · simp [hs]

theorem recording_calls {recorded next : Recorded World} {call : PortCall}
    {result : Except BoxAdapterError Unit} (h : recording ports recorded call = (next, result)) :
    next.calls = recorded.calls ++ [(call, result)] := by
  unfold recording at h
  cases h
  rfl

@[simp] theorem afterSync_world (self : Bridge World) (channelId : ChannelId)
    (sessionId : SessionId) (sync : ChannelSessionSync) (world : World) :
    (self.afterSync channelId sessionId sync world).world = world := by
  unfold afterSync
  split <;> rfl

theorem afterSync_isSubscribed (self : Bridge World) (channelId : ChannelId)
    (sessionId session : SessionId) (sync : ChannelSessionSync) (world : World) :
    (self.afterSync channelId sessionId sync world).isSubscribed channelId session = true ↔
      self.isSubscribed channelId session = true ∨
        (session = sessionId ∧ sync.isFinal = true) := by
  unfold afterSync
  split
  · next hfinal =>
    rw [isSubscribed, insertSubscription, MultiMap.contains_add]
    simp [hfinal, isSubscribed, setWorld]
  · next hfinal => simp [hfinal, isSubscribed, setWorld]

theorem handToProvider_calls (self : Bridge (Recorded World)) (providerId : ProviderId)
    (handoff : ProviderHandoffKind) (call : PortCall) :
    (self.handToProvider (recording ports) providerId handoff call).1.world.calls =
      self.world.calls ∨
    ∃ result, (self.handToProvider (recording ports) providerId handoff call).1.world.calls =
      self.world.calls ++ [(call, result)] := by
  unfold handToProvider
  split
  · exact .inl rfl
  · refine .inr ⟨(recording ports self.world call).2, ?_⟩
    cases hport : recording ports self.world call with
    | mk world result =>
      have hcalls := recording_calls ports hport
      cases result <;> exact hcalls

/-- The page of one session holds no event of another one. -/
theorem page_sessionIds {self : Bridge World} (hcon : Consistent self) {channelId : ChannelId}
    {sessionId : SessionId} {requestedAfter maxEvents : Nat} {channel : ChannelDescriptor}
    {aggregate : SessionAggregate} {provider : ProviderDescriptor} {sync : ChannelSessionSync}
    (h : Syncs self channelId sessionId requestedAfter maxEvents channel aggregate provider sync) :
    ∀ event ∈ sync.events.map RoutedAgentEvent.event, event.sessionId = sessionId := by
  obtain ⟨history, owner, howned⟩ := hcon.sessions sessionId aggregate h.known
  obtain ⟨hpage, -⟩ := sessionSync_ok howned.reduces h.page
  intro event hevent
  rw [hpage.events] at hevent
  have hmem := List.mem_of_mem_drop (List.mem_of_mem_take hevent)
  rw [(reduces_anchored howned.reduces).sessionIds event hmem, howned.id]

/-- What the calls of one operation hand to a channel. Only the page of a fresh
synchronization hands over anything but the event just published. -/
theorem step_handed {self : Bridge (Recorded World)} (hcon : Consistent self) (op : BridgeOp)
    (channelId : ChannelId) (sessionId : SessionId)
    (hop : self.isSubscribed channelId sessionId = true ∨
      ∀ requestedAfter maxEvents, op ≠ .syncSession channelId sessionId requestedAfter maxEvents) :
    ∃ calls, (self.step (recording ports) op).1.world.calls = self.world.calls ++ calls ∧
      handedTo channelId sessionId calls =
        if self.isSubscribed channelId sessionId = true then
          newlyPublished sessionId op (self.step (recording ports) op).2
        else [] := by
  have hquiet : (∀ providerId event, op ≠ .handleProviderEvent providerId event) →
      (∃ calls, (self.step (recording ports) op).1.world.calls = self.world.calls ++ calls ∧
        handedTo channelId sessionId calls = []) →
      ∃ calls, (self.step (recording ports) op).1.world.calls = self.world.calls ++ calls ∧
        handedTo channelId sessionId calls =
          if self.isSubscribed channelId sessionId = true then
            newlyPublished sessionId op (self.step (recording ports) op).2
          else [] := by
    rintro hne ⟨calls, hcalls, hnone⟩
    exact ⟨calls, hcalls, by rw [newlyPublished_quiet _ hne, hnone, ite_self]⟩
  cases op with
  | registerProvider descriptor =>
    refine hquiet (by simp) ⟨[], ?_, rfl⟩
    simp only [step, registerProvider]
    split <;> simp
  | registerChannel descriptor =>
    refine hquiet (by simp) ⟨[], ?_, rfl⟩
    simp only [step, registerChannel]
    split <;> simp
  | unsubscribe target session =>
    refine hquiet (by simp) ⟨[], ?_, rfl⟩
    simp only [step, unsubscribe]
    split
    · simp
    · split <;> simp
  | unsubscribeChannel target =>
    refine hquiet (by simp) ⟨[], ?_, rfl⟩
    simp only [step, unsubscribeChannel]
    split <;> simp
  | subscribe target session =>
    refine hquiet (by simp) ?_
    simp only [step, Prod.map_fst, id_eq]
    rcases subscribe_cases (recording ports) self target session with ⟨e, he, -⟩ |
      ⟨aggregate, -, -, he⟩ |
      ⟨channel, aggregate, provider, baseline, -, ⟨-, he⟩ | ⟨-, world, result, hport, he⟩⟩
    · exact ⟨[], by simp [he], rfl⟩
    · exact ⟨[], by simp [he], rfl⟩
    · exact ⟨[], by simp [he, insertSubscription], rfl⟩
    · have hcalls := recording_calls ports hport
      refine ⟨[(.deliverSessionBaseline target baseline, result)], ?_, rfl⟩
      rw [he]
      cases result <;> exact hcalls
  | handleInteractionResponse target response =>
    refine hquiet (by simp) ?_
    simp only [step, Prod.map_fst, id_eq, handleInteractionResponse]
    split
    · exact ⟨[], by simp, rfl⟩
    · next providerId _ =>
      rcases handToProvider_calls ports self providerId .interactionResponse
        (.acceptInteractionResponse providerId response) with h | ⟨result, h⟩
      · exact ⟨[], by rw [h, List.append_nil], rfl⟩
      · exact ⟨_, h, rfl⟩
  | handleCommand target command =>
    refine hquiet (by simp) ?_
    simp only [step, Prod.map_fst, id_eq, handleCommand]
    split
    · exact ⟨[], by simp, rfl⟩
    · next providerId _ =>
      rcases handToProvider_calls ports self providerId .command
        (.acceptCommand providerId command) with h | ⟨result, h⟩
      · exact ⟨[], by rw [h, List.append_nil], rfl⟩
      · exact ⟨_, h, rfl⟩
  | syncSession target session requestedAfter maxEvents =>
    refine hquiet (by simp) ?_
    simp only [step, Prod.map_fst, id_eq]
    rcases syncSession_cases (recording ports) self target session requestedAfter maxEvents with
      ⟨e, he, -⟩ | ⟨aggregate, -, -, -, -, he⟩ |
      ⟨channel, aggregate, provider, sync, world, result, hs, hport, he⟩
    · exact ⟨[], by simp [he], rfl⟩
    · exact ⟨[], by simp [he], rfl⟩
    · have hcalls := recording_calls ports hport
      refine ⟨[(.deliverSessionSync target sync, result)], ?_, ?_⟩
      · rw [he]
        cases result <;> simpa [setWorld] using hcalls
      · simp only [handedTo, handedBy, List.flatMap_cons, List.flatMap_nil, List.append_nil]
        by_cases ht : target = channelId
        · subst ht
          have hother : session ≠ sessionId := by
            rintro rfl
            rcases hop with hsub | hne
            · rw [hs.fresh] at hsub
              cases hsub
            · exact hne requestedAfter maxEvents rfl
          rw [if_pos rfl, List.filter_eq_nil_iff]
          intro event hevent
          rw [page_sessionIds hcon hs event hevent]
          simpa using hother
        · rw [if_neg ht]
  | handleProviderEvent providerId event =>
    rcases handleProviderEvent_published (recording ports) self providerId event sessionId with
      ⟨hsame, hnone⟩ | ⟨provider, session, routes, aggregate, hc, hnext, hnew⟩
    · refine ⟨[], by rw [hsame, List.append_nil], ?_⟩
      rw [hnone, ite_self]
      rfl
    · obtain ⟨calls, hcalls, hhanded⟩ :=
        handedTo_delivered (delivered_commit ports hc) channelId sessionId
      refine ⟨calls, by rw [hnext, hcalls], ?_⟩
      rw [hhanded, hnew]
      by_cases hsub : self.isSubscribed channelId sessionId = true <;> simp [hsub]

end Bridge

end AgentPulse
