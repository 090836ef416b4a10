import AgentPulse.BridgeSync

/-!
# Catch-up and live delivery agree on one cursor

A subscriber is handed every event published since its subscription began. A
fresh synchronization hands over exactly the events up to the cursor it
reports. Together they give a follower that pages from the start every event
once and in order.
-/
namespace AgentPulse

open Std (ExtTreeMap ExtTreeSet)
open SessionAggregate (Reduces reduces_anchored reduces_recentEvents reduces_replay Numbered
  numbered_page retainedEventPageAfter_eq)

namespace Bridge

variable {World : Type} (ports : Ports World)

theorem run_snoc (config : SessionAggregateConfig) (world : World) (ops : List BridgeOp)
    (op : BridgeOp) :
    run ports config world (ops ++ [op]) = ((run ports config world ops).step ports op).1 := by
  unfold run
  rw [Trace.final_append]
  rfl

theorem published_snoc (sessionId : SessionId) (config : SessionAggregateConfig) (world : World)
    (ops : List BridgeOp) (op : BridgeOp) :
    published ports sessionId (withSessionConfig config world) (ops ++ [op]) =
      published ports sessionId (withSessionConfig config world) ops ++
        newlyPublished sessionId op ((run ports config world ops).step ports op).2 := by
  unfold published
  rw [Trace.collected_append]
  simp [Trace.collected, run]

/-- The run splits where the subscription began; every event published after
that point has been handed to the channel once and in order. -/
structure SubscribedSince (config : SessionAggregateConfig) (world : Recorded World)
    (ops : List BridgeOp) (channelId : ChannelId) (sessionId : SessionId)
    (earlier later : List BridgeOp) : Prop where
  split : ops = earlier ++ later
  began : ∃ before op, earlier = before ++ [op] ∧
    (run (recording ports) config world before).isSubscribed channelId sessionId = false
  kept : ∀ middle rest, later = middle ++ rest →
    (run (recording ports) config world (earlier ++ middle)).isSubscribed channelId sessionId = true
  handed : ∃ calls, (run (recording ports) config world ops).world.calls =
      (run (recording ports) config world earlier).world.calls ++ calls ∧
    handedTo channelId sessionId calls =
      (published (recording ports) sessionId (withSessionConfig config world) ops).drop
        (published (recording ports) sessionId (withSessionConfig config world) earlier).length

theorem exists_subscribedSince (config : SessionAggregateConfig) (world : Recorded World)
    (ops : List BridgeOp) (channelId : ChannelId) (sessionId : SessionId)
    (h : (run (recording ports) config world ops).isSubscribed channelId sessionId = true) :
    ∃ earlier later,
      SubscribedSince ports config world ops channelId sessionId earlier later := by
  induction ops using List.reverseRecOn with
  | nil => simp [run, isSubscribed, withSessionConfig] at h
  | append_singleton ops op ih =>
    cases hbefore : (run (recording ports) config world ops).isSubscribed channelId sessionId with
    | false =>
      refine ⟨ops ++ [op], [], by simp, ⟨ops, op, rfl, hbefore⟩, ?_, [], by simp, by simp⟩
      intro middle rest hnil
      obtain ⟨rfl, rfl⟩ := List.append_eq_nil_iff.mp hnil.symm
      rwa [List.append_nil]
    | true =>
      obtain ⟨earlier, later, hsplit, hbegan, hkept, calls, hcalls, hhanded⟩ := ih hbefore
      have hcon := run_consistent (recording ports) config world ops
      obtain ⟨new, hnew, hnewHanded⟩ :=
        step_handed ports hcon op channelId sessionId (.inl hbefore)
      rw [if_pos hbefore] at hnewHanded
      have hlength : (published (recording ports) sessionId (withSessionConfig config world)
          earlier).length ≤ (published (recording ports) sessionId
            (withSessionConfig config world) ops).length := by
        rw [hsplit]
        unfold published
        rw [Trace.collected_append, List.length_append]
        omega
      refine ⟨earlier, later ++ [op], by rw [hsplit, List.append_assoc], hbegan, ?_,
        calls ++ new, ?_, ?_⟩
      · intro middle rest hmiddle
        rcases List.eq_nil_or_concat rest with rfl | ⟨init, last, rfl⟩
        · rw [List.append_nil] at hmiddle
          rw [← hmiddle, ← List.append_assoc, ← hsplit]
          exact h
        · have hlater : later = middle ++ init := by
            rw [List.concat_eq_append, ← List.append_assoc] at hmiddle
            exact (List.append_inj' hmiddle rfl).1
          exact hkept middle init hlater
      · rw [run_snoc, hnew, hcalls, List.append_assoc]
      · rw [handedTo_append, hhanded, hnewHanded, published_snoc,
          List.drop_append_of_le_length hlength]

theorem sessionHistory_reduces {self : Bridge World} {sessionId : SessionId}
    {history : List AgentEvent} {aggregate : SessionAggregate}
    (h : SessionHistory self sessionId history)
    (hget : self.sessions[sessionId]? = some aggregate) :
    Reduces self.sessionConfig history aggregate := by
  unfold SessionHistory at h
  rw [hget] at h
  exact h

/-- A page call hands exactly the events of its page. -/
theorem handedTo_page {self : Bridge World} (hcon : Consistent self) {channelId : ChannelId}
    {sessionId : SessionId} {requestedAfter maxEvents : Nat} {channel : ChannelDescriptor}
    {aggregate : SessionAggregate} {provider : ProviderDescriptor} {sync : ChannelSessionSync}
    (h : Syncs self channelId sessionId requestedAfter maxEvents channel aggregate provider sync)
    (result : Except BoxAdapterError Unit) :
    handedTo channelId sessionId [(.deliverSessionSync channelId sync, result)] =
      sync.events.map RoutedAgentEvent.event := by
  simp only [handedTo, handedBy, List.flatMap_cons, List.flatMap_nil, List.append_nil, if_true]
  rw [List.filter_eq_self]
  intro event hevent
  simpa using page_sessionIds hcon h event hevent

theorem drop_take_eq {history : List AgentEvent} {first count : Nat}
    (hle : first ≤ history.length) :
    (history.drop first).take count =
      (history.take (min (first + count) history.length)).drop first := by
  rw [List.drop_take]
  by_cases hfit : first + count ≤ history.length
  · rw [Nat.min_eq_left hfit]
    congr 1
    omega
  · rw [Nat.min_eq_right (by omega), List.take_of_length_le (by rw [List.length_drop]; omega),
      List.take_of_length_le (by rw [List.length_drop])]

/-- Events handed in a call that was not subscribed at entry: exactly those after
the requested cursor up to the reported one, or exactly all up to it after a
reset. A call that was subscribed at entry hands over nothing and reports the
end of the history, of which the channel has been handed everything published
since its subscription began. -/
theorem run_syncSession_truthful (config : SessionAggregateConfig) (world : Recorded World)
    (ops : List BridgeOp) (channelId : ChannelId) (sessionId : SessionId)
    (requestedAfter maxEvents : Nat) (outcome : SessionSyncOutcome)
    (h : ((run (recording ports) config world ops).syncSession (recording ports) channelId
      sessionId requestedAfter maxEvents).2 = .ok outcome) :
    let bridge := run (recording ports) config world ops
    let next := (bridge.syncSession (recording ports) channelId sessionId requestedAfter
      maxEvents).1
    let history := published (recording ports) sessionId (withSessionConfig config world) ops
    Numbered history ∧ outcome.throughSequence ≤ history.length ∧
    (bridge.isSubscribed channelId sessionId = false →
      ∃ calls, next.world.calls = bridge.world.calls ++ calls ∧
        (outcome.reset = false → requestedAfter ≤ outcome.throughSequence ∧
          handedTo channelId sessionId calls =
            (history.take outcome.throughSequence).drop requestedAfter) ∧
        (outcome.reset = true →
          handedTo channelId sessionId calls = history.take outcome.throughSequence)) ∧
    (bridge.isSubscribed channelId sessionId = true →
      next = bridge ∧ outcome.reset = false ∧ outcome.throughSequence = history.length ∧
      ∃ earlier later,
        SubscribedSince ports config world ops channelId sessionId earlier later) := by
  intro bridge next history
  have hcon : Consistent bridge := run_consistent (recording ports) config world ops
  have hhistory : SessionHistory bridge sessionId history :=
    run_sessionHistory (recording ports) config world ops sessionId
  have hcases := syncSession_cases (recording ports) bridge channelId sessionId requestedAfter
    maxEvents
  rcases hcases with ⟨e, he, -⟩ | ⟨aggregate, -, -, hget, hsub, he⟩ |
    ⟨channel, aggregate, provider, sync, after, result, hs, hport, he⟩
  · have hresult : (.error e : Except SubscriptionError SessionSyncOutcome) = .ok outcome :=
      (congrArg Prod.snd he).symm.trans h
    cases hresult
  · have hresult : (.ok ⟨aggregate.lastSequence.get, 0, false, true, 0⟩ :
        Except SubscriptionError SessionSyncOutcome) = .ok outcome :=
      (congrArg Prod.snd he).symm.trans h
    cases hresult
    have hanchor := reduces_anchored (sessionHistory_reduces hhistory hget)
    refine ⟨hanchor.sequences, le_of_eq hanchor.cursor, ?_, ?_⟩
    · intro hfresh
      rw [hsub] at hfresh
      cases hfresh
    · intro _
      exact ⟨congrArg Prod.fst he, rfl, hanchor.cursor,
        exists_subscribedSince ports config world ops channelId sessionId hsub⟩
  · have hreduces := sessionHistory_reduces hhistory hs.known
    have hanchor := reduces_anchored hreduces
    obtain ⟨hpage, -⟩ := sessionSync_ok hreduces hs.page
    have hcalls := recording_calls ports hport
    cases result with
    | error source =>
      have hresult : (.error (.initialSessionHandoff ⟨channelId, .session, source⟩) :
          Except SubscriptionError SessionSyncOutcome) = .ok outcome :=
        (congrArg Prod.snd he).symm.trans h
      cases hresult
    | ok u =>
      have hresult : (.ok (syncOutcome sync) : Except SubscriptionError SessionSyncOutcome) =
          .ok outcome := (congrArg Prod.snd he).symm.trans h
      cases hresult
      have hnext : next = bridge.afterSync channelId sessionId sync after := congrArg Prod.fst he
      have hthrough := hpage.through
      have hhanded := handedTo_page hcon hs (.ok ())
      rw [hpage.events, drop_take_eq hpage.within, ← hthrough] at hhanded
      refine ⟨hanchor.sequences, by simp only [syncOutcome]; omega, ?_, ?_⟩
      · intro _
        refine ⟨[(.deliverSessionSync channelId sync, .ok ())], by rw [hnext]; simpa using hcalls,
          ?_, ?_⟩
        · intro hreset
          rcases hpage.start with ⟨-, hstart⟩ | ⟨htrue, -⟩
          · rw [hstart] at hhanded hthrough
            have hwithin := hpage.within
            exact ⟨by simp only [syncOutcome]; omega, hhanded⟩
          · exact absurd (htrue.symm.trans hreset) (by simp)
        · intro hreset
          rcases hpage.start with ⟨hfalse, -⟩ | ⟨-, hstart⟩
          · exact absurd (hfalse.symm.trans hreset) (by simp)
          · rw [hstart, List.drop_zero] at hhanded
            exact hhanded
      · intro hsub
        exact absurd (hs.fresh.symm.trans hsub) (by simp)

end Bridge

namespace Sample

/-- One provider, one channel and one started session. -/
def setup : List BridgeOp :=
  [.registerProvider (provider 0), .registerChannel (channel 0),
    .handleProviderEvent (provider 0).id (started 0 0)]

end Sample

namespace Bridge

variable {World : Type} (ports : Ports World)

theorem run_syncSession_truthful_setup :
    ((run (recording Sample.accepting) .default ⟨(), []⟩ Sample.setup).syncSession
      (recording Sample.accepting) (Sample.channel 0).id (Sample.started 0 0).sessionId 0 1).2 =
      .ok ⟨1, 1, false, true, 0⟩ ∧
    Numbered (published (recording Sample.accepting) (Sample.started 0 0).sessionId
      (withSessionConfig .default ⟨(), []⟩) Sample.setup) :=
  ⟨rfl, (run_syncSession_truthful Sample.accepting .default ⟨(), []⟩ Sample.setup
    (Sample.channel 0).id (Sample.started 0 0).sessionId 0 1 ⟨1, 1, false, true, 0⟩ rfl).1⟩

/-- A subscription opened by `subscribe` starts at the baseline. A later call with
an earlier cursor reports the end of the history although the events before the
baseline were never handed over. -/
theorem syncSession_after_subscribe :
    ¬ ∀ (ops : List BridgeOp) (channelId : ChannelId) (sessionId : SessionId)
      (requestedAfter maxEvents : Nat) (outcome : SessionSyncOutcome),
      ((run (recording Sample.accepting) .default ⟨(), []⟩ ops).syncSession
        (recording Sample.accepting) channelId sessionId requestedAfter maxEvents).2 =
        .ok outcome → outcome.reset = false →
      ∀ event ∈ published (recording Sample.accepting) sessionId
          (withSessionConfig .default ⟨(), []⟩) ops,
        requestedAfter < event.sequence.get → event.sequence.get ≤ outcome.throughSequence →
        event ∈ handedTo channelId sessionId
          ((run (recording Sample.accepting) .default ⟨(), []⟩ ops).syncSession
            (recording Sample.accepting) channelId sessionId requestedAfter
            maxEvents).1.world.calls := by
  intro h
  have hmem := h (Sample.setup ++ [.subscribe (Sample.channel 0).id (Sample.started 0 0).sessionId])
    (Sample.channel 0).id (Sample.started 0 0).sessionId 0 1 ⟨1, 0, false, true, 0⟩ rfl rfl
    (Sample.started 0 0) (by decide) (by decide) (by decide)
  exact absurd hmem (by decide)

end Bridge

/-- One move of a catch-up: the follower asks for a page, or a provider
publishes. -/
inductive Feed where
  | sync (maxEvents : Nat)
  | event (providerId : ProviderId) (event : AgentEvent)

/-- A follower asks from its cursor and adopts the one it is told. -/
structure Follower (World : Type) where
  bridge : Bridge World
  cursor : Nat

namespace Follower

variable {World : Type} (ports : Ports World) (channelId : ChannelId) (sessionId : SessionId)

def adopt (cursor : Nat) : Except SubscriptionError SessionSyncOutcome → Nat
  | .ok outcome => outcome.throughSequence
  | .error _ => cursor

def step (self : Follower World) : Feed → Follower World × BridgeResult
  | .sync maxEvents =>
    let (bridge, result) :=
      self.bridge.syncSession ports channelId sessionId self.cursor maxEvents
    (⟨bridge, adopt self.cursor result⟩, .syncSession result)
  | .event providerId event =>
    let (bridge, result) := self.bridge.handleProviderEvent ports providerId event
    (⟨bridge, self.cursor⟩, .providerEvent result)

/-- The events of the session that the bridge accepts in a catch-up. -/
def accepted : Feed → BridgeResult → List AgentEvent
  | .sync _, _ => []
  | .event providerId event, result =>
    Bridge.newlyPublished sessionId (.handleProviderEvent providerId event) result

end Follower

namespace Bridge

variable {World : Type} (ports : Ports World)

theorem retainedEventPageAfter_retainAll {history : List AgentEvent}
    {aggregate : SessionAggregate} (h : Reduces .retainAll history aggregate)
    {requestedAfter : Nat} (hle : requestedAfter ≤ history.length) (maxEvents : Nat) :
    aggregate.retainedEventPageAfter requestedAfter maxEvents =
      some ((history.drop requestedAfter).take maxEvents) := by
  have hrecent : aggregate.recentEvents = history := reduces_recentEvents h
  rw [retainedEventPageAfter_eq h, hrecent, if_pos (by omega)]

/-- With everything retained, a cursor inside the history is never reset. -/
theorem sessionSync_retainAll {history : List AgentEvent} {aggregate : SessionAggregate}
    (h : Reduces .retainAll history aggregate) {provider : ProviderDescriptor}
    {channel : ChannelDescriptor} {channelId : ChannelId} {requestedAfter maxEvents : Nat}
    {sync : ChannelSessionSync} (hle : requestedAfter ≤ history.length)
    (hsync : sessionSync provider channel channelId aggregate requestedAfter maxEvents =
      .ok sync) :
    sync.afterSequence = requestedAfter := by
  have hpage := retainedEventPageAfter_retainAll h hle maxEvents
  unfold sessionSync at hsync
  rw [Fallible.bind_eq_ok] at hsync
  obtain ⟨⟨afterSequence, reset, events⟩, hpaged, hsync⟩ := hsync
  simp only [pageOrReset, hpage, Except.ok.injEq, Prod.mk.injEq] at hpaged
  simp only [Fallible.bind_eq_ok] at hsync
  obtain ⟨routed, -, hsync⟩ := hsync
  split at hsync
  · rw [Fallible.bind_eq_ok] at hsync
    obtain ⟨baseline, -, hsync⟩ := hsync
    cases hsync
    exact hpaged.1.symm
  · cases hsync
    exact hpaged.1.symm

theorem handleProviderEvent_isSubscribed (self : Bridge World) (providerId : ProviderId)
    (event : AgentEvent) (channelId : ChannelId) (sessionId : SessionId) :
    (self.handleProviderEvent ports providerId event).1.isSubscribed channelId sessionId =
      self.isSubscribed channelId sessionId := by
  rcases handleProviderEvent_cases ports self providerId event with ⟨e, he, -⟩ |
    ⟨old, -, -, he⟩ | ⟨provider, session, routes, aggregate, -, he⟩ <;> rw [he]
  rfl

/-- What the log says about a follower: everything up to its cursor before the
subscription, everything published after it. -/
structure Follows (channelId : ChannelId) (sessionId : SessionId) (before : List Handoff)
    (follower : Follower (Recorded World)) (calls : List Handoff) (history : List AgentEvent) :
    Prop where
  consistent : Consistent follower.bridge
  config : follower.bridge.sessionConfig = .retainAll
  log : follower.bridge.world.calls = before ++ calls
  reduced : SessionHistory follower.bridge sessionId history
  live : follower.bridge.isSubscribed channelId sessionId = true →
    handedTo channelId sessionId calls = history
  paged : follower.bridge.isSubscribed channelId sessionId = false →
    follower.cursor ≤ history.length ∧
      handedTo channelId sessionId calls = history.take follower.cursor

/-- A call that reaches the port of an accepting channel succeeds. -/
def Accepts (channelId : ChannelId) : Prop :=
  ∀ world (call : PortCall), call.channelId? = some channelId → (ports world call).2 = .ok ()

/-- The page a follower is handed starts at its cursor. -/
theorem follower_page {channelId : ChannelId} {sessionId : SessionId} {before calls : List Handoff}
    {follower : Follower (Recorded World)} {history : List AgentEvent}
    (h : Follows channelId sessionId before follower calls history) {maxEvents : Nat}
    {channel : ChannelDescriptor} {aggregate : SessionAggregate} {provider : ProviderDescriptor}
    {sync : ChannelSessionSync}
    (hs : Syncs follower.bridge channelId sessionId follower.cursor maxEvents channel aggregate
      provider sync) :
    Reduces .retainAll history aggregate ∧
      sync.throughSequence = min (follower.cursor + maxEvents) history.length ∧
      (sync.isFinal = true ↔ sync.throughSequence = history.length) ∧
      ∀ result, handedTo channelId sessionId
          (calls ++ [(.deliverSessionSync channelId sync, result)]) =
        history.take sync.throughSequence := by
  have hreduces := sessionHistory_reduces h.reduced hs.known
  rw [h.config] at hreduces
  obtain ⟨hpage, -⟩ := sessionSync_ok hreduces hs.page
  obtain ⟨hcursor, hhanded⟩ := h.paged hs.fresh
  have hafter := sessionSync_retainAll hreduces hcursor hs.page
  have hthrough := hpage.through
  rw [hafter] at hthrough
  refine ⟨hreduces, hthrough, hpage.final, ?_⟩
  intro result
  rw [handedTo_append, handedTo_page h.consistent hs, hhanded, hpage.events, hafter,
    drop_take_eq hcursor, ← hthrough]
  have hle : follower.cursor ≤ sync.throughSequence := by omega
  have htake : history.take follower.cursor =
      (history.take sync.throughSequence).take follower.cursor := by
    rw [List.take_take, Nat.min_eq_left hle]
  rw [htake, List.take_append_drop]

theorem follows_event {channelId : ChannelId} {sessionId : SessionId} {before calls : List Handoff}
    {follower : Follower (Recorded World)} {history : List AgentEvent}
    (h : Follows channelId sessionId before follower calls history) (providerId : ProviderId)
    (event : AgentEvent) :
    ∃ calls', Follows channelId sessionId before
      (follower.step (recording ports) channelId sessionId (.event providerId event)).1 calls'
      (history ++ Follower.accepted sessionId (.event providerId event)
        (follower.step (recording ports) channelId sessionId (.event providerId event)).2) := by
  have hchange := step_change (recording ports) follower.bridge
    (.handleProviderEvent providerId event)
  obtain ⟨new, hnew, hhanded⟩ := step_handed ports h.consistent
    (.handleProviderEvent providerId event) channelId sessionId (.inr (by simp))
  have hhistory := sessionHistory_step (recording ports) h.reduced
    (.handleProviderEvent providerId event)
  have hsub := handleProviderEvent_isSubscribed (recording ports) follower.bridge providerId event
    channelId sessionId
  have hconfig := (change_sessionConfig hchange).trans h.config
  refine ⟨calls ++ new, consistent_change h.consistent hchange, hconfig, ?_, hhistory, ?_, ?_⟩
  · rw [← List.append_assoc, ← h.log]
    exact hnew
  · intro hlive
    have hbefore : follower.bridge.isSubscribed channelId sessionId = true :=
      hsub.symm.trans hlive
    rw [handedTo_append, h.live hbefore, hhanded, if_pos hbefore]
    rfl
  · intro hfresh
    have hbefore : follower.bridge.isSubscribed channelId sessionId = false :=
      hsub.symm.trans hfresh
    obtain ⟨hcursor, hpaged⟩ := h.paged hbefore
    refine ⟨by rw [List.length_append]; exact Nat.le_add_right_of_le hcursor, ?_⟩
    rw [handedTo_append, hpaged, hhanded, if_neg (by simp [hbefore]), List.append_nil]
    exact (List.take_append_of_le_length hcursor).symm

theorem follows_sync {channelId : ChannelId} {sessionId : SessionId}
    (haccepts : Accepts ports channelId) {before calls : List Handoff}
    {follower : Follower (Recorded World)} {history : List AgentEvent}
    (h : Follows channelId sessionId before follower calls history) (maxEvents : Nat) :
    ∃ calls', Follows channelId sessionId before
      (follower.step (recording ports) channelId sessionId (.sync maxEvents)).1 calls' history := by
  have hcases := syncSession_cases (recording ports) follower.bridge channelId sessionId
    follower.cursor maxEvents
  rcases hcases with ⟨e, he, -⟩ | ⟨aggregate, -, -, hget, hsub, he⟩ |
    ⟨channel, aggregate, provider, sync, world, result, hs, hport, he⟩
  · simp only [Follower.step, he, Follower.adopt]
    exact ⟨calls, h⟩
  · simp only [Follower.step, he, Follower.adopt]
    refine ⟨calls, h.consistent, h.config, h.log, h.reduced, h.live, ?_⟩
    intro hfresh
    exact absurd (hsub.symm.trans hfresh) (by simp)
  · have hcalls := recording_calls ports hport
    have hok : result = .ok () := by
      have hresult : result = (ports follower.bridge.world.world
          (.deliverSessionSync channelId sync)).2 := (congrArg Prod.snd hport).symm
      rw [hresult]
      exact haccepts _ _ rfl
    subst hok
    obtain ⟨hreduces, hthrough, hfinal, hhanded⟩ := follower_page h hs
    have hcon := consistent_change h.consistent (step_change (recording ports) follower.bridge
      (.syncSession channelId sessionId follower.cursor maxEvents))
    simp only [Bridge.step, Prod.map_fst, id_eq, he] at hcon
    simp only [Follower.step, he, Follower.adopt, syncOutcome]
    refine ⟨calls ++ [(.deliverSessionSync channelId sync, .ok ())], hcon, ?_, ?_, ?_, ?_, ?_⟩
    · unfold afterSync
      split <;> exact h.config
    · simp only [afterSync_world, hcalls, h.log, List.append_assoc]
    · have hsessions : (follower.bridge.afterSync channelId sessionId sync world).sessions =
          follower.bridge.sessions ∧
          (follower.bridge.afterSync channelId sessionId sync world).sessionConfig =
          follower.bridge.sessionConfig := by
        unfold afterSync
        split <;> exact ⟨rfl, rfl⟩
      unfold SessionHistory
      rw [hsessions.1, hsessions.2]
      exact h.reduced
    · intro hlive
      have hisFinal : sync.isFinal = true := by
        by_contra hnot
        unfold afterSync at hlive
        rw [if_neg hnot] at hlive
        exact absurd (hs.fresh.symm.trans hlive) (by simp)
      rw [hhanded, hfinal.mp hisFinal, List.take_length]
    · intro _
      have hend : sync.throughSequence ≤ history.length := by omega
      exact ⟨hend, hhanded _⟩

theorem numbered_of_sessionHistory {self : Bridge World} {sessionId : SessionId}
    {history : List AgentEvent} (h : SessionHistory self sessionId history) :
    Numbered history := by
  unfold SessionHistory at h
  split at h
  · rw [h]
    rfl
  · exact (reduces_anchored h).sequences

theorem baselineOf_ok {provider : ProviderDescriptor} {channel : ChannelDescriptor}
    {aggregate : SessionAggregate} {baseline : ChannelSessionBaseline}
    (h : baselineOf provider channel aggregate = .ok baseline) :
    baseline.session = aggregate.session ∧ baseline.sequence = aggregate.lastSequence ∧
      baseline.pendingInteractions.map RoutedInteractionRequest.request =
        OrderedMap.values aggregate.pendingInteractions := by
  unfold baselineOf at h
  rw [Fallible.bind_eq_ok] at h
  obtain ⟨routed, hrouted, hbaseline⟩ := h
  cases hbaseline
  refine ⟨rfl, rfl, Fallible.map_of_mapM_ok ?_ hrouted⟩
  intro request routedRequest hrequest
  split at hrequest
  · cases hrequest
    rfl
  · cases hrequest

/-- A page call of a follower reports what it handed over: the next cursor is where its
page ends, and the call subscribes exactly when that is the end of the history. -/
structure Reports (channelId : ChannelId) (sessionId : SessionId)
    (follower : Follower (Recorded World)) (history : List AgentEvent) (maxEvents : Nat)
    (outcome : SessionSyncOutcome) (next : Bridge (Recorded World)) : Prop where
  through : follower.bridge.isSubscribed channelId sessionId = false →
    outcome.throughSequence = min (follower.cursor + maxEvents) history.length
  advances : outcome.subscribed = false → follower.cursor < outcome.throughSequence
  final : outcome.subscribed = true ↔ outcome.throughSequence = history.length
  subscribes : next.isSubscribed channelId sessionId = outcome.subscribed

theorem follower_reports {channelId : ChannelId} {sessionId : SessionId}
    {before calls : List Handoff} {follower : Follower (Recorded World)}
    {history : List AgentEvent} (h : Follows channelId sessionId before follower calls history)
    {maxEvents : Nat} {outcome : SessionSyncOutcome}
    (hresult : (follower.bridge.syncSession (recording ports) channelId sessionId follower.cursor
      maxEvents).2 = .ok outcome) :
    Reports channelId sessionId follower history maxEvents outcome
      (follower.bridge.syncSession (recording ports) channelId sessionId follower.cursor
        maxEvents).1 := by
  have hcases := syncSession_cases (recording ports) follower.bridge channelId sessionId
    follower.cursor maxEvents
  rcases hcases with ⟨e, he, -⟩ | ⟨aggregate, -, -, hget, hsub, he⟩ |
    ⟨channel, aggregate, provider, sync, world, result, hs, -, he⟩
  · rw [he] at hresult
    cases hresult
  · rw [he] at hresult ⊢
    cases hresult
    have hcursor := (reduces_anchored (sessionHistory_reduces h.reduced hget)).cursor
    refine ⟨?_, ?_, ?_, hsub⟩
    · intro hfresh
      exact absurd (hsub.symm.trans hfresh) (by simp)
    · intro hmore
      cases hmore
    · simpa using hcursor
  · rw [he] at hresult ⊢
    cases result with
    | error source => cases hresult
    | ok u =>
      cases hresult
      obtain ⟨-, hthrough, hfinal, -⟩ := follower_page h hs
      have hpositive := hs.positive
      refine ⟨fun _ => hthrough, ?_, hfinal, ?_⟩
      · intro hmore
        have hnot : ¬ sync.throughSequence = history.length := by
          intro hend
          have hisFinal := hfinal.mpr hend
          simp only [syncOutcome, hisFinal] at hmore
          cases hmore
        simp only [syncOutcome]
        omega
      · rw [Bool.eq_iff_iff, afterSync_isSubscribed, hs.fresh]
        simp [syncOutcome]

/-- A page call of a follower about a known session fails only for an empty page. -/
theorem follower_served {channelId : ChannelId} {sessionId : SessionId}
    (haccepts : Accepts ports channelId) {before calls : List Handoff}
    {follower : Follower (Recorded World)} {history : List AgentEvent}
    (h : Follows channelId sessionId before follower calls history) {maxEvents : Nat}
    (hpositive : maxEvents ≠ 0) (hchannel : channelId ∈ follower.bridge.channels)
    (hsession : sessionId ∈ follower.bridge.sessions) :
    ∃ outcome, (follower.bridge.syncSession (recording ports) channelId sessionId follower.cursor
      maxEvents).2 = .ok outcome := by
  obtain ⟨channel, hregistered⟩ := Option.isSome_iff_exists.mp
    (ExtTreeMap.mem_iff_isSome_getElem?.mp hchannel)
  obtain ⟨aggregate, hget⟩ := Option.isSome_iff_exists.mp
    (ExtTreeMap.mem_iff_isSome_getElem?.mp hsession)
  obtain ⟨events, provider, howned⟩ := h.consistent.sessions sessionId aggregate hget
  unfold syncSession
  rw [if_neg hpositive, hregistered]
  dsimp only
  rw [hget]
  dsimp only
  cases hsub : follower.bridge.isSubscribed channelId sessionId with
  | true => exact ⟨_, rfl⟩
  | false =>
    rw [if_neg (by simp), howned.owner]
    dsimp only
    cases hsync : sessionSync provider channel channelId aggregate follower.cursor maxEvents with
    | error e =>
      have hreduces := sessionHistory_reduces h.reduced hget
      rw [h.config] at hreduces
      have hpage := sessionSync_error h.consistent howned channel hsync
      unfold pageOrReset at hpage
      rw [retainedEventPageAfter_retainAll hreduces (h.paged hsub).1] at hpage
      cases hpage
    | ok sync =>
      dsimp only
      have hport := haccepts follower.bridge.world.world (.deliverSessionSync channelId sync) rfl
      rcases hran : ports follower.bridge.world.world (.deliverSessionSync channelId sync) with
        ⟨world, result⟩
      rw [hran] at hport
      simp only at hport
      subst hport
      simp [recording, hran]

/-- The baseline of a follower's last page is what the events handed to it
reduce to. -/
theorem follower_baseline {channelId : ChannelId} {sessionId : SessionId}
    {before calls : List Handoff} {follower : Follower (Recorded World)}
    {history : List AgentEvent} (h : Follows channelId sessionId before follower calls history)
    {maxEvents : Nat} {sync : ChannelSessionSync} {result : Except BoxAdapterError Unit}
    {baseline : ChannelSessionBaseline}
    (hcall : (follower.bridge.syncSession (recording ports) channelId sessionId follower.cursor
      maxEvents).1.world.calls = follower.bridge.world.calls ++
        [(.deliverSessionSync channelId sync, result)])
    (hbaseline : sync.baseline = some baseline) :
    ∃ aggregate, SessionAggregate.replayWithConfig (handedTo channelId sessionId
        (calls ++ [(.deliverSessionSync channelId sync, result)])) .retainAll = .ok aggregate ∧
      baseline.session = aggregate.session ∧ baseline.sequence = aggregate.lastSequence ∧
      baseline.pendingInteractions.map RoutedInteractionRequest.request =
        OrderedMap.values aggregate.pendingInteractions := by
  have hcases := syncSession_cases (recording ports) follower.bridge channelId sessionId
    follower.cursor maxEvents
  rcases hcases with ⟨e, he, -⟩ | ⟨aggregate, -, -, -, -, he⟩ |
    ⟨channel, aggregate, provider, actual, world, answer, hs, hport, he⟩
  · rw [he] at hcall
    simp at hcall
  · rw [he] at hcall
    simp at hcall
  · have hlog : (follower.bridge.syncSession (recording ports) channelId sessionId follower.cursor
        maxEvents).1.world.calls = world.calls := by
      rw [he]
      cases answer <;> simp [setWorld]
    rw [hlog, recording_calls ports hport, List.append_cancel_left_eq] at hcall
    cases hcall
    obtain ⟨hreduces, -, hfinal, hhanded⟩ := follower_page h hs
    have hisFinal : sync.isFinal = true := by simp [ChannelSessionSync.isFinal, hbaseline]
    refine ⟨aggregate, ?_, baselineOf_ok ((sessionSync_ok hreduces hs.page).2 baseline hbaseline)⟩
    rw [hhanded, hfinal.mp hisFinal, List.take_length]
    exact reduces_replay hreduces

/-- In every interleaving of pages and published events, from any reachable bridge that
retains everything and does not yet serve the channel: the events handed over are numbered
1, 2, 3, ... They are the published ones up to the cursor, and all of them once the channel
is live; a page call moves the cursor to the end of its page and makes the channel live
when this is the end; and the baseline of the last page is what its own events reduce to. -/
theorem follower_exactly_once (channelId : ChannelId) (sessionId : SessionId)
    (haccepts : Accepts ports channelId) (world : Recorded World) (ops : List BridgeOp)
    (hfresh : (run (recording ports) .retainAll world ops).isSubscribed channelId sessionId =
      false) (feeds : List Feed) :
    let start := run (recording ports) .retainAll world ops
    let step := Follower.step (recording ports) channelId sessionId
    let reached := Trace.final step ⟨start, 0⟩ feeds
    let history := published (recording ports) sessionId (withSessionConfig .retainAll world) ops ++
      Trace.collected step (Follower.accepted sessionId) ⟨start, 0⟩ feeds
    ∃ calls, reached.bridge.world.calls = start.world.calls ++ calls ∧
      Numbered (handedTo channelId sessionId calls) ∧
      (reached.bridge.isSubscribed channelId sessionId = false →
        reached.cursor ≤ history.length ∧
          handedTo channelId sessionId calls = history.take reached.cursor) ∧
      (reached.bridge.isSubscribed channelId sessionId = true →
        handedTo channelId sessionId calls = history ∧
          ∀ aggregate, reached.bridge.sessions[sessionId]? = some aggregate →
            aggregate.recentEvents = history) ∧
      (∀ maxEvents outcome, (reached.bridge.syncSession (recording ports) channelId sessionId
          reached.cursor maxEvents).2 = .ok outcome →
        Reports channelId sessionId reached history maxEvents outcome
          (reached.bridge.syncSession (recording ports) channelId sessionId reached.cursor
            maxEvents).1) ∧
      (∀ maxEvents, maxEvents ≠ 0 → channelId ∈ reached.bridge.channels →
        sessionId ∈ reached.bridge.sessions →
        ∃ outcome, (reached.bridge.syncSession (recording ports) channelId sessionId
          reached.cursor maxEvents).2 = .ok outcome) ∧
      (∀ maxEvents sync result baseline, (reached.bridge.syncSession (recording ports) channelId
          sessionId reached.cursor maxEvents).1.world.calls = reached.bridge.world.calls ++
            [(.deliverSessionSync channelId sync, result)] → sync.baseline = some baseline →
        ∃ aggregate, SessionAggregate.replayWithConfig (handedTo channelId sessionId
            (calls ++ [(.deliverSessionSync channelId sync, result)])) .retainAll =
            .ok aggregate ∧
          baseline.session = aggregate.session ∧ baseline.sequence = aggregate.lastSequence ∧
          baseline.pendingInteractions.map RoutedInteractionRequest.request =
            OrderedMap.values aggregate.pendingInteractions) := by
  intro start step reached history
  have hstart : ∃ calls, Follows channelId sessionId start.world.calls ⟨start, 0⟩ calls
      (published (recording ports) sessionId (withSessionConfig .retainAll world) ops) := by
    have hconfig : start.sessionConfig = .retainAll :=
      run_sessionConfig (recording ports) .retainAll world ops
    refine ⟨[], run_consistent (recording ports) .retainAll world ops, hconfig, by simp,
      run_sessionHistory (recording ports) .retainAll world ops sessionId, ?_, by simp⟩
    intro hlive
    exact absurd (hfresh.symm.trans hlive) (by simp)
  have hreached : ∃ calls,
      Follows channelId sessionId start.world.calls reached calls history := by
    refine Trace.collected_invariant step (Follower.accepted sessionId)
      (fun past follower => ∃ calls,
        Follows channelId sessionId start.world.calls follower calls past) ?_ _ _ feeds hstart
    rintro past follower feed ⟨calls, h⟩
    cases feed with
    | sync maxEvents =>
      obtain ⟨calls', h'⟩ := follows_sync ports haccepts h maxEvents
      exact ⟨calls', by rwa [Follower.accepted, List.append_nil]⟩
    | event providerId event => exact follows_event ports h providerId event
  obtain ⟨calls, h⟩ := hreached
  have hnumbered := numbered_of_sessionHistory h.reduced
  refine ⟨calls, h.log, ?_, h.paged, ?_, fun _ _ => follower_reports ports h,
    fun _ => follower_served ports haccepts h, fun _ _ _ _ => follower_baseline ports h⟩
  · cases hsub : reached.bridge.isSubscribed channelId sessionId with
    | true =>
      rw [h.live hsub]
      exact hnumbered
    | false =>
      rw [(h.paged hsub).2]
      exact SessionAggregate.numbered_take hnumbered reached.cursor
  · intro hlive
    refine ⟨h.live hlive, ?_⟩
    intro aggregate hget
    have hreduces := sessionHistory_reduces h.reduced hget
    rw [h.config] at hreduces
    exact reduces_recentEvents hreduces

end Bridge

namespace Sample

/-- A session with two events, caught up in two pages and followed live. -/
def catchUp : List Feed :=
  [.sync 1, .sync 1, .event (provider 0).id (message 0 2)]

/-- The channel before it has asked for the session. -/
def beforeCatchUp : Bridge (Recorded Unit) :=
  Bridge.run (recording accepting) .retainAll ⟨(), []⟩
    (setup ++ [.handleProviderEvent (provider 0).id (message 0 1)])

end Sample

namespace Bridge

/-- Two pages and a live event hand over the three events of the session, once each. -/
theorem follower_exactly_once_setup :
    let reached := Trace.final (Follower.step (recording Sample.accepting) (Sample.channel 0).id
      (Sample.started 0 0).sessionId) ⟨Sample.beforeCatchUp, 0⟩ Sample.catchUp
    reached.bridge.isSubscribed (Sample.channel 0).id (Sample.started 0 0).sessionId = true ∧
      reached.cursor = 2 ∧
      ∃ calls : List Handoff,
        reached.bridge.world.calls = Sample.beforeCatchUp.world.calls ++ calls ∧
        handedTo (Sample.channel 0).id (Sample.started 0 0).sessionId calls =
          [Sample.started 0 0, Sample.message 0 1, Sample.message 0 2] := by
  intro reached
  have hlive : reached.bridge.isSubscribed (Sample.channel 0).id
      (Sample.started 0 0).sessionId = true := by decide +kernel
  refine ⟨hlive, by decide +kernel, ?_⟩
  obtain ⟨calls, hlog, -, -, hhanded, -⟩ := follower_exactly_once Sample.accepting
    (Sample.channel 0).id (Sample.started 0 0).sessionId (fun _ _ _ => rfl) ⟨(), []⟩
    (Sample.setup ++ [.handleProviderEvent (Sample.provider 0).id (Sample.message 0 1)]) rfl
    Sample.catchUp
  refine ⟨calls, hlog, (hhanded hlive).1.trans ?_⟩
  decide +kernel

end Bridge

end AgentPulse
