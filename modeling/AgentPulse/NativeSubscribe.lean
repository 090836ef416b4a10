import AgentPulse.NativeQueue

/-!
# The answer to one subscribe request

From the moment a request is begun, nothing of its session is queued until the
page is. Then come the result, the page, its completion and, behind a final page,
the live frames of every event that the session took since.
-/
namespace AgentPulse

open Std (ExtTreeMap ExtTreeSet)

/-- The live frames of the events that a session took after `past`, each with the
session as it was after the event. -/
inductive LiveBlocks (codec : NativeCodec) (sessionId : SessionId) (past : List AgentEvent) :
    List AgentEvent → List Frame → Prop where
  | nil : LiveBlocks codec sessionId past [] []
  | snoc {live : List AgentEvent} {frames : List Frame} (event : AgentEvent)
      (route : ChannelEventRoute) (aggregate : SessionAggregate) :
      LiveBlocks codec sessionId past live frames → event.sessionId = sessionId →
      SessionAggregate.Reduces aggregate.config (past ++ (live ++ [event])) aggregate →
      LiveBlocks codec sessionId past (live ++ [event])
        (frames ++ liveFrames codec ⟨event, route⟩ aggregate.session)

/-- The events that the encoder accepts are all there, in order. -/
theorem liveBlocks_numbers {codec : NativeCodec} {sessionId : SessionId} {past live : List AgentEvent}
    {frames : List Frame} (h : LiveBlocks codec sessionId past live frames) :
    numbers sessionId frames =
      (live.filter fun event => codec.encodes (.agentEvent event)).map
        fun event => event.sequence.get := by
  induction h with
  | nil => rfl
  | snoc event route aggregate _ hid _ ih =>
    rw [numbers_append, ih, List.filter_append, List.map_append]
    congr 1
    cases hencodes : codec.encodes (.agentEvent event) with
    | false => simp [liveFrames, hencodes]
    | true =>
      have hview : numbers sessionId (if eventUpdatesSessionView event then
          viewFrames codec aggregate.session else []) = [] := by
        split
        · exact numbers_viewFrames codec sessionId aggregate.session
        · rfl
      have hhead : (NativeChannelPort.eventFrame ⟨event, route⟩).eventNumber? sessionId =
          some event.sequence.get := if_pos hid
      simp only [liveFrames, hencodes, if_true, List.filter_cons_of_pos, List.filter_nil,
        List.map_cons, List.map_nil]
      rw [numbers, List.filterMap_cons_some hhead]
      exact congrArg (List.cons event.sequence.get) hview

/-- The interactions among the frames of a page. -/
def NativeServerMessage.isInteraction : NativeServerMessage → Bool
  | .domain (.subscriptionInteraction _ _) _ => true
  | _ => false

theorem syncFramesOf_interactions (requestId : String) (sync : ChannelSessionSync) :
    (NativeChannelPort.syncFramesOf requestId sync).countP NativeServerMessage.isInteraction =
      (Bridge.syncOutcome sync).pendingInteractionCount := by
  have hevents : (sync.events.map NativeChannelPort.eventFrame).countP
      NativeServerMessage.isInteraction = 0 := by
    rw [List.countP_eq_zero]
    intro frame hframe
    obtain ⟨routed, -, rfl⟩ := List.mem_map.mp hframe
    simp [NativeChannelPort.eventFrame, NativeServerMessage.isInteraction]
  rw [NativeChannelPort.syncFramesOf, List.countP_append, hevents, Nat.zero_add]
  unfold Bridge.syncOutcome
  cases sync.baseline with
  | none => rfl
  | some baseline =>
    simp only [NativeChannelPort.baselineFramesOf]
    rw [List.countP_cons_of_neg (by simp [NativeServerMessage.isInteraction]), List.countP_map]
    exact List.countP_eq_length.mpr fun interaction _ => rfl

namespace NativeSystem

variable {Other : Type} (codec : NativeCodec) (config : NativeChannelConfig)
  (otherPorts : Ports Other)

/-- Away from requests for the session the bridge and the client agree on it. -/
theorem stage_agrees {self : NativeSystem Other} (h : Stage codec config self self.pc)
    {sessionId : SessionId} (hconcerns : self.pc.concerns sessionId = false)
    (hdrops : self.pc.drops sessionId = false) :
    self.bridge.isSubscribed config.channelId sessionId =
      self.delivery.isSubscribedTo sessionId := by
  by_cases hquiet : self.pc.quiet = true
  · exact ((stage_quiet codec config hquiet).mp h).2.2 sessionId
  · cases hpc : self.pc with
    | subscribeCursor requestId session => rw [hpc] at h; exact h.agrees sessionId
    | subscribeSync requestId session afterSequence => rw [hpc] at h; exact h.agrees sessionId
    | subscribeFailed requestId session e => rw [hpc] at h; exact h.agrees sessionId
    | subscribeCommit requestId session outcome =>
      rw [hpc] at h hconcerns
      have hc : Committing codec config self requestId session outcome := h
      have hne : sessionId ≠ session := Ne.symm (of_decide_eq_false hconcerns)
      rw [Bool.eq_iff_iff, hc.subscribed sessionId]
      simp [hne]
    | unsubscribeRecord requestId session outcome =>
      rw [hpc] at h hdrops
      have hne : sessionId ≠ session := Ne.symm (of_decide_eq_false hdrops)
      rw [Bool.eq_iff_iff, h.2 sessionId]
      simp [hne]
    | unsubscribing remaining last => simp [hpc, WorkerPc.drops] at hdrops
    | _ => simp [hpc, WorkerPc.quiet] at hquiet

/-- The live frames behind a page: all of them if it was the final one, else
none. -/
structure Follows (sessionId : SessionId) (system : NativeSystem Other) (sync : ChannelSessionSync)
    (past live : List AgentEvent) (queued : List Frame) : Prop where
  recent : ∃ aggregate, system.bridge.sessions[sessionId]? = some aggregate ∧
    SessionAggregate.Reduces aggregate.config (past ++ live) aggregate
  final : sync.isFinal = true →
    LiveBlocks codec sessionId past live (queued ++ system.owed codec config sessionId)
  partialPage : sync.isFinal = false → queued ++ system.owed codec config sessionId = []

section Follows

variable {sessionId : SessionId} {self next : NativeSystem Other} {sync : ChannelSessionSync}
  {past live : List AgentEvent} {queued : List Frame}

theorem follows_congr (h : Follows codec config sessionId self sync past live queued)
    (hhistory : next.bridge.sessions[sessionId]? = self.bridge.sessions[sessionId]?)
    {queued' : List Frame} (howed : queued' ++ next.owed codec config sessionId =
      queued ++ self.owed codec config sessionId) :
    Follows codec config sessionId next sync past live queued' := by
  refine ⟨?_, ?_, ?_⟩
  · rw [hhistory]
    exact h.recent
  · rw [howed]
    exact h.final
  · rw [howed]
    exact h.partialPage

/-- One more event of the session. -/
theorem follows_published (h : Follows codec config sessionId self sync past live queued)
    {event : AgentEvent} {aggregate : SessionAggregate} (hid : event.sessionId = sessionId)
    (hreduction : self.bridge.Reduction event aggregate)
    (hstored : next.bridge.sessions[sessionId]? = some aggregate)
    (hbefore : self.owed codec config sessionId = [])
    (hsub : self.bridge.isSubscribed config.channelId sessionId = sync.isFinal)
    (hunsubscribed : self.bridge.isSubscribed config.channelId sessionId = false →
      next.owed codec config sessionId = [])
    (hsubscribed : self.bridge.isSubscribed config.channelId sessionId = true → ∃ route,
      next.owed codec config sessionId = liveFrames codec ⟨event, route⟩ aggregate.session) :
    Follows codec config sessionId next sync past (live ++ [event]) queued := by
  obtain ⟨old, hold, hreduces⟩ := h.recent
  have hreduces' : SessionAggregate.Reduces aggregate.config (past ++ (live ++ [event])) aggregate := by
    rcases hreduction with ⟨stored, hfound, happlied, haggregate⟩ | ⟨hnone, -⟩
    · rw [hid, hold] at hfound
      cases hfound
      have hsnoc := SessionAggregate.Reduces.applied hreduces happlied
      rw [haggregate] at hsnoc
      rw [(SessionAggregate.reduces_anchored hsnoc).config, ← List.append_assoc]
      exact hsnoc
    · rw [hid, hold] at hnone
      cases hnone
  refine ⟨⟨aggregate, hstored, hreduces'⟩, ?_, ?_⟩
  · intro hfinal
    obtain ⟨route, howed⟩ := hsubscribed (hsub.trans hfinal)
    have hblocks := h.final hfinal
    rw [hbefore, List.append_nil] at hblocks
    rw [howed]
    exact .snoc event route aggregate hblocks hid hreduces'
  · intro hshort
    have hnone := h.partialPage hshort
    rw [hbefore] at hnone
    rw [hunsubscribed (hsub.trans hshort), hnone]

end Follows

/-- A page of the session, as it was when the page was taken. -/
structure PageTaken (sessionId : SessionId) (cursor : Nat) (sync : ChannelSessionSync)
    (past : List AgentEvent) : Prop where
  page : Bridge.PageOf past cursor sessionSyncPageEvents sync
  sessionIds : ∀ routed ∈ sync.events, routed.event.sessionId = sessionId
  baseline : ∀ baseline ∈ sync.baseline, ∃ aggregate,
    SessionAggregate.Reduces aggregate.config past aggregate ∧
    baseline.session = aggregate.session ∧
    baseline.pendingInteractions.map RoutedInteractionRequest.request =
      OrderedMap.values aggregate.pendingInteractions

/-- The first frame of the answer. -/
def resultFrame (requestId : String) (sessionId : SessionId) (outcome : SessionSyncOutcome)
    (baseline : EventSequence) : Frame :=
  .subscriptionResult requestId sessionId
    (if outcome.subscribed then .subscribed else .catchingUp) baseline
    outcome.pendingInteractionCount outcome.eventCount outcome.reset

/-- Some state on the way was about to answer the request with an error. -/
def WasRefused (requestId : String) (sessionId : SessionId) (begun : NativeSystem Other)
    (inputs : List NativeInput) : Prop :=
  ∃ earlier later e, inputs = earlier ++ later ∧
    (Trace.final (step codec config otherPorts) begun earlier).pc =
      .subscribeFailed requestId sessionId e

/-- How far a request has come: `base` and `cursor` are from before it. -/
inductive Progress (requestId : String) (sessionId : SessionId) (base : List Frame) (cursor : Nat)
    (refused : Prop) (self : NativeSystem Other) : Prop where
  | begun (between : List Frame) : self.log = base ++ between → stream sessionId between = [] →
      self.pc = .subscribeCursor requestId sessionId →
      self.delivery.cursor sessionId = cursor → Progress requestId sessionId base cursor refused self
  | asking (between : List Frame) : self.log = base ++ between → stream sessionId between = [] →
      self.pc = .subscribeSync requestId sessionId cursor →
      Progress requestId sessionId base cursor refused self
  | failing (between : List Frame) (e : SubscriptionError) : self.log = base ++ between →
      stream sessionId between = [] → self.pc = .subscribeFailed requestId sessionId e →
      Progress requestId sessionId base cursor refused self
  | failed (between : List Frame) : self.log = base ++ between → stream sessionId between = [] →
      refused → self.pc.concerns sessionId = false → self.pc.drops sessionId = false →
      self.delivery.isSubscribedTo sessionId = false →
      Progress requestId sessionId base cursor refused self
  | collecting (between trailing : List Frame) (sync : ChannelSessionSync)
      (past live : List AgentEvent) : self.log = base ++ between → stream sessionId between = [] →
      PageTaken sessionId cursor sync past →
      self.pc = .subscribeCommit requestId sessionId (Bridge.syncOutcome sync) →
      self.delivery.pending? = some ⟨requestId, sessionId,
        NativeChannelPort.syncFramesOf requestId sync, trailing, true⟩ →
      Follows codec config sessionId self sync past live (stream sessionId trailing) →
      Progress requestId sessionId base cursor refused self
  | queued (between after : List Frame) (baseline : EventSequence) (sync : ChannelSessionSync)
      (past live : List AgentEvent) :
      self.log = base ++ between ++
        (resultFrame requestId sessionId (Bridge.syncOutcome sync) baseline ::
          NativeChannelPort.syncFramesOf requestId sync ++ .syncCompleted requestId :: after) →
      stream sessionId between = [] → baseline.get = sync.throughSequence →
      PageTaken sessionId cursor sync past →
      self.pc.concerns sessionId = false → self.pc.drops sessionId = false →
      self.delivery.isSubscribedTo sessionId = sync.isFinal →
      Follows codec config sessionId self sync past live (stream sessionId after) →
      Progress requestId sessionId base cursor refused self

section Step

variable {requestId : String} {sessionId : SessionId} {base : List Frame} {cursor : Nat}
  {refused refused' : Prop} {self next : NativeSystem Other}

theorem progress_drops (h : Progress codec config requestId sessionId base cursor refused self) :
    self.pc.drops sessionId = false := by
  cases h with
  | begun between hlog hnone hpc hcursor => rw [hpc]; rfl
  | asking between hlog hnone hpc => rw [hpc]; rfl
  | failing between e hlog hnone hpc => rw [hpc]; rfl
  | failed between hlog hnone href hpc hdrops hmine => exact hdrops
  | collecting between trailing sync past live hlog hnone htaken hpc => rw [hpc]; rfl
  | queued between after baseline sync past live hlog hnone hget htaken hpc hdrops => exact hdrops

/-- Frames of others extend what lies before the answer, or behind it. -/
theorem append_between {log log' between frames : List Frame} (hlog : log = base ++ between)
    (hnone : stream sessionId between = []) (hnext : log' = log ++ frames)
    (hframes : stream sessionId frames = []) :
    log' = base ++ (between ++ frames) ∧ stream sessionId (between ++ frames) = [] := by
  refine ⟨by rw [hnext, hlog, List.append_assoc], ?_⟩
  rw [stream_append, hnone, hframes]
  rfl

theorem follows_unseen {sync : ChannelSessionSync} {past live : List AgentEvent}
    {queued frames : List Frame}
    (h : Follows codec config sessionId self sync past live (stream sessionId queued))
    (hu : Unseen codec config sessionId self next) (hframes : stream sessionId frames = []) :
    Follows codec config sessionId next sync past live (stream sessionId (queued ++ frames)) := by
  refine follows_congr codec config h hu.history ?_
  rw [stream_append, hframes, List.append_nil, hu.owed]

theorem progress_still (h : Progress codec config requestId sessionId base cursor refused self)
    (hu : Unseen codec config sessionId self next) (hpc : next.pc = self.pc)
    (hpending : next.delivery.pending? = self.delivery.pending?)
    (hmine : next.delivery.isSubscribedTo sessionId = self.delivery.isSubscribedTo sessionId)
    (hkeeps : refused → refused') :
    Progress codec config requestId sessionId base cursor refused' next := by
  obtain ⟨frames, hnext, hframes⟩ := hu.log
  cases h with
  | begun between hlog hnone hself hcursor =>
    obtain ⟨hlog', hnone'⟩ := append_between hlog hnone hnext hframes
    exact .begun _ hlog' hnone' (hpc.trans hself) (hu.cursor.trans hcursor)
  | asking between hlog hnone hself =>
    obtain ⟨hlog', hnone'⟩ := append_between hlog hnone hnext hframes
    exact .asking _ hlog' hnone' (hpc.trans hself)
  | failing between e hlog hnone hself =>
    obtain ⟨hlog', hnone'⟩ := append_between hlog hnone hnext hframes
    exact .failing _ e hlog' hnone' (hpc.trans hself)
  | failed between hlog hnone href hself hdrops hfree =>
    obtain ⟨hlog', hnone'⟩ := append_between hlog hnone hnext hframes
    exact .failed _ hlog' hnone' (hkeeps href) (by rw [hpc]; exact hself)
      (by rw [hpc]; exact hdrops) (hmine.trans hfree)
  | collecting between trailing sync past live hlog hnone htaken hself hcollecting hfollows =>
    obtain ⟨hlog', hnone'⟩ := append_between hlog hnone hnext hframes
    refine .collecting _ trailing sync past live hlog' hnone' htaken (hpc.trans hself)
      (hpending.trans hcollecting) ?_
    exact follows_congr codec config hfollows hu.history (by rw [hu.owed])
  | queued between after baseline sync past live hlog hnone hget htaken hself hdrops hfinal
      hfollows =>
    refine .queued between (after ++ frames) baseline sync past live ?_ hnone hget htaken
      (by rw [hpc]; exact hself) (by rw [hpc]; exact hdrops) (hmine.trans hfinal)
      (follows_unseen codec config hfollows hu hframes)
    rw [hnext, hlog]
    simp

theorem progress_elsewhere
    (h : Progress codec config requestId sessionId base cursor refused self)
    (hu : Unseen codec config sessionId self next) (hbefore : self.pc.concerns sessionId = false)
    (hafter : next.pc.concerns sessionId = false) (hdrops' : next.pc.drops sessionId = false)
    (hmine : next.delivery.isSubscribedTo sessionId = self.delivery.isSubscribedTo sessionId)
    (hkeeps : refused → refused') :
    Progress codec config requestId sessionId base cursor refused' next := by
  obtain ⟨frames, hnext, hframes⟩ := hu.log
  cases h with
  | begun between hlog hnone hself => simp [hself, WorkerPc.concerns] at hbefore
  | asking between hlog hnone hself => simp [hself, WorkerPc.concerns] at hbefore
  | failing between e hlog hnone hself => simp [hself, WorkerPc.concerns] at hbefore
  | failed between hlog hnone href hself hdrops hfree =>
    obtain ⟨hlog', hnone'⟩ := append_between hlog hnone hnext hframes
    exact .failed _ hlog' hnone' (hkeeps href) hafter hdrops' (hmine.trans hfree)
  | collecting between trailing sync past live hlog hnone htaken hself =>
    simp [hself, WorkerPc.concerns] at hbefore
  | queued between after baseline sync past live hlog hnone hget htaken hself hdrops hfinal
      hfollows =>
    refine .queued between (after ++ frames) baseline sync past live ?_ hnone hget htaken
      hafter hdrops' (hmine.trans hfinal) (follows_unseen codec config hfollows hu hframes)
    rw [hnext, hlog]
    simp

theorem progress_published (ha : Aligned codec config self)
    (h : Progress codec config requestId sessionId base cursor refused self)
    {event : AgentEvent} {aggregate : SessionAggregate} (hid : event.sessionId = sessionId)
    (hreduction : self.bridge.Reduction event aggregate)
    (hstored : next.bridge.sessions[sessionId]? = some aggregate)
    (hlog' : next.log = self.log) (hdelivery : next.delivery = self.delivery)
    (hpc : next.pc = self.pc) (hbefore : self.owed codec config sessionId = [])
    (hunsubscribed : self.bridge.isSubscribed config.channelId sessionId = false →
      next.owed codec config sessionId = [])
    (hsubscribed : self.bridge.isSubscribed config.channelId sessionId = true → ∃ route,
      next.owed codec config sessionId = liveFrames codec ⟨event, route⟩ aggregate.session)
    (hkeeps : refused → refused') :
    Progress codec config requestId sessionId base cursor refused' next := by
  cases h with
  | begun between hlog hnone hself hcursor =>
    exact .begun between (hlog'.trans hlog) hnone (hpc.trans hself) (by rw [hdelivery]; exact hcursor)
  | asking between hlog hnone hself =>
    exact .asking between (hlog'.trans hlog) hnone (hpc.trans hself)
  | failing between e hlog hnone hself =>
    exact .failing between e (hlog'.trans hlog) hnone (hpc.trans hself)
  | failed between hlog hnone href hself hdrops hfree =>
    exact .failed between (hlog'.trans hlog) hnone (hkeeps href) (by rw [hpc]; exact hself)
      (by rw [hpc]; exact hdrops) (by rw [hdelivery]; exact hfree)
  | collecting between trailing sync past live hlog hnone htaken hself hcollecting hfollows =>
    have hst := ha.stage
    rw [hself] at hst
    have hc : Committing codec config self requestId sessionId (Bridge.syncOutcome sync) := hst
    have hsub : self.bridge.isSubscribed config.channelId sessionId = sync.isFinal := by
      rw [Bool.eq_iff_iff, hc.subscribed sessionId, hc.fresh]
      simp [Bridge.syncOutcome]
    exact .collecting between trailing sync past (live ++ [event]) (hlog'.trans hlog) hnone htaken
      (hpc.trans hself) (by rw [hdelivery]; exact hcollecting)
      (follows_published codec config hfollows hid hreduction hstored hbefore hsub hunsubscribed
        hsubscribed)
  | queued between after baseline sync past live hlog hnone hget htaken hself hdrops hfinal
      hfollows =>
    have hsub : self.bridge.isSubscribed config.channelId sessionId = sync.isFinal :=
      (stage_agrees codec config ha.stage hself hdrops).trans hfinal
    exact .queued between after baseline sync past (live ++ [event]) (hlog'.trans hlog) hnone hget
      htaken (by rw [hpc]; exact hself) (by rw [hpc]; exact hdrops)
      (by rw [hdelivery]; exact hfinal)
      (follows_published codec config hfollows hid hreduction hstored hbefore hsub hunsubscribed
        hsubscribed)

theorem progress_handed (ha : Aligned codec config self)
    (h : Progress codec config requestId sessionId base cursor refused self)
    {context : NativeDeliveryContext} {message : ProtocolMessage}
    (hrest : SameRest sessionId self next)
    (hframe : (NativeServerMessage.domain context message).session? = some sessionId)
    (howed : self.owed codec config sessionId =
      .domain context message :: next.owed codec config sessionId)
    (hlog' : next.log = self.log ++ [.domain context message])
    (hmine : self.delivery.isSubscribedTo sessionId = true) :
    Progress codec config requestId sessionId base cursor refused' next := by
  have hfree : self.pc.concerns sessionId = false := by
    rw [← Bool.not_eq_true]
    intro hconcerns
    rw [stage_fresh codec config ha.stage hconcerns] at hmine
    cases hmine
  cases h with
  | begun between hlog hnone hself => simp [hself, WorkerPc.concerns] at hfree
  | asking between hlog hnone hself => simp [hself, WorkerPc.concerns] at hfree
  | failing between e hlog hnone hself => simp [hself, WorkerPc.concerns] at hfree
  | failed between hlog hnone href hself hdrops hno =>
    rw [hno] at hmine
    cases hmine
  | collecting between trailing sync past live hlog hnone htaken hself =>
    simp [hself, WorkerPc.concerns] at hfree
  | queued between after baseline sync past live hlog hnone hget htaken hself hdrops hfinal
      hfollows =>
    refine .queued between (after ++ [.domain context message]) baseline sync past live ?_ hnone
      hget htaken (by rw [hrest.pc]; exact hself) (by rw [hrest.pc]; exact hdrops)
      (hrest.mine.trans hfinal) (follows_congr codec config hfollows hrest.history ?_)
    · rw [hlog', hlog]
      simp
    · have hmoved : stream sessionId [.domain context message] = [.domain context message] :=
        stream_eq_self fun frame hmem => by rw [List.mem_singleton.mp hmem]; exact hframe
      rw [stream_append, hmoved, howed, List.append_assoc]
      rfl

theorem progress_trailed (h : Progress codec config requestId sessionId base cursor refused self)
    {context : NativeDeliveryContext} {message : ProtocolMessage} {request : String}
    {outcome : SessionSyncOutcome} {frames trailing : List Frame}
    (hrest : SameRest sessionId self next)
    (hframe : (NativeServerMessage.domain context message).session? = some sessionId)
    (howed : self.owed codec config sessionId =
      .domain context message :: next.owed codec config sessionId)
    (hlog' : next.log = self.log) (hcommit : self.pc = .subscribeCommit request sessionId outcome)
    (hpending : self.delivery.pending? = some ⟨request, sessionId, frames, trailing, true⟩)
    (hpending' : next.delivery.pending? = some ⟨request, sessionId, frames,
      trailing ++ [.domain context message], true⟩) :
    Progress codec config requestId sessionId base cursor refused' next := by
  cases h with
  | begun between hlog hnone hself => simp [hself] at hcommit
  | asking between hlog hnone hself => simp [hself] at hcommit
  | failing between e hlog hnone hself => simp [hself] at hcommit
  | failed between hlog hnone href hself => simp [hcommit, WorkerPc.concerns] at hself
  | collecting between trailed sync past live hlog hnone htaken hself hcollecting hfollows =>
    rw [hpending] at hcollecting
    cases hcollecting
    refine .collecting between _ sync past live (hlog'.trans hlog) hnone htaken
      (hrest.pc.trans hself) hpending' (follows_congr codec config hfollows hrest.history ?_)
    have hmoved : stream sessionId [.domain context message] = [.domain context message] :=
      stream_eq_self fun frame hmem => by rw [List.mem_singleton.mp hmem]; exact hframe
    rw [stream_append, hmoved, howed, List.append_assoc]
    rfl
  | queued between after baseline sync past live hlog hnone hget htaken hself =>
    simp [hcommit, WorkerPc.concerns] at hself

theorem progress_asked (h : Progress codec config requestId sessionId base cursor refused self)
    {request : String} (hpc : self.pc = .subscribeCursor request sessionId)
    (hpc' : next.pc = .subscribeSync request sessionId (self.delivery.cursor sessionId))
    (hu : Unseen codec config sessionId self next) :
    Progress codec config requestId sessionId base cursor refused' next := by
  obtain ⟨frames, hnext, hframes⟩ := hu.log
  cases h with
  | begun between hlog hnone hself hcursor =>
    obtain ⟨hlog', hnone'⟩ := append_between hlog hnone hnext hframes
    rw [hself] at hpc
    cases hpc
    rw [hcursor] at hpc'
    exact .asking _ hlog' hnone' hpc'
  | asking between hlog hnone hself => simp [hself] at hpc
  | failing between e hlog hnone hself => simp [hself] at hpc
  | failed between hlog hnone href hself => simp [hpc, WorkerPc.concerns] at hself
  | collecting between trailing sync past live hlog hnone htaken hself => simp [hself] at hpc
  | queued between after baseline sync past live hlog hnone hget htaken hself =>
    simp [hpc, WorkerPc.concerns] at hself

theorem progress_refused (h : Progress codec config requestId sessionId base cursor refused self)
    {request : String} {afterSequence : Nat} {e : SubscriptionError}
    (hpc : self.pc = .subscribeSync request sessionId afterSequence)
    (hpc' : next.pc = .subscribeFailed request sessionId e)
    (hu : Unseen codec config sessionId self next) :
    Progress codec config requestId sessionId base cursor refused' next := by
  obtain ⟨frames, hnext, hframes⟩ := hu.log
  cases h with
  | begun between hlog hnone hself => simp [hself] at hpc
  | asking between hlog hnone hself =>
    obtain ⟨hlog', hnone'⟩ := append_between hlog hnone hnext hframes
    rw [hself] at hpc
    cases hpc
    exact .failing _ e hlog' hnone' hpc'
  | failing between e' hlog hnone hself => simp [hself] at hpc
  | failed between hlog hnone href hself => simp [hpc, WorkerPc.concerns] at hself
  | collecting between trailing sync past live hlog hnone htaken hself => simp [hself] at hpc
  | queued between after baseline sync past live hlog hnone hget htaken hself =>
    simp [hpc, WorkerPc.concerns] at hself

theorem progress_failed (h : Progress codec config requestId sessionId base cursor refused self)
    {request : String} {e : SubscriptionError}
    (hpc : self.pc = .subscribeFailed request sessionId e) (hquiet : next.pc.quiet = true)
    (hmine : next.delivery.isSubscribedTo sessionId = false)
    (hu : Unseen codec config sessionId self next)
    (hfailed : ∀ e, self.pc = .subscribeFailed requestId sessionId e → refused') :
    Progress codec config requestId sessionId base cursor refused' next := by
  obtain ⟨frames, hnext, hframes⟩ := hu.log
  cases h with
  | begun between hlog hnone hself => simp [hself] at hpc
  | asking between hlog hnone hself => simp [hself] at hpc
  | failing between e' hlog hnone hself =>
    obtain ⟨hlog', hnone'⟩ := append_between hlog hnone hnext hframes
    exact .failed _ hlog' hnone' (hfailed e' hself) (WorkerPc.concerns_of_quiet hquiet _)
      (WorkerPc.drops_of_quiet hquiet _) hmine
  | failed between hlog hnone href hself => simp [hpc, WorkerPc.concerns] at hself
  | collecting between trailing sync past live hlog hnone htaken hself => simp [hself] at hpc
  | queued between after baseline sync past live hlog hnone hget htaken hself =>
    simp [hpc, WorkerPc.concerns] at hself

theorem paged_taken {World : Type} {bridge : Bridge World} {sync : ChannelSessionSync}
    {past : List AgentEvent} (h : Paged bridge sessionId cursor sync past) :
    PageTaken sessionId cursor sync past := by
  refine ⟨h.page, h.sessionIds, ?_⟩
  intro baseline hmem
  obtain ⟨aggregate, hstored, hsession, hinteractions⟩ := h.snapshot baseline hmem
  obtain ⟨reduced, hfound, hreduces⟩ := h.reduced
  rw [hstored] at hfound
  cases hfound
  rw [← (SessionAggregate.reduces_anchored hreduces).config] at hreduces
  exact ⟨aggregate, hreduces, hsession, hinteractions⟩

theorem progress_synced (h : Progress codec config requestId sessionId base cursor refused self)
    {request : String} {afterSequence : Nat} {sync : ChannelSessionSync} {past : List AgentEvent}
    (hpc : self.pc = .subscribeSync request sessionId afterSequence)
    (hpaged : Paged self.bridge sessionId afterSequence sync past)
    (hpc' : next.pc = .subscribeCommit request sessionId (Bridge.syncOutcome sync))
    (hpending : next.delivery.pending? = some ⟨request, sessionId,
      NativeChannelPort.syncFramesOf request sync, [], true⟩)
    (hlog' : next.log = self.log) (hsessions : next.bridge.sessions = self.bridge.sessions)
    (howed : next.owed codec config sessionId = []) :
    Progress codec config requestId sessionId base cursor refused' next := by
  cases h with
  | begun between hlog hnone hself => simp [hself] at hpc
  | asking between hlog hnone hself =>
    rw [hself] at hpc
    cases hpc
    obtain ⟨aggregate, hstored, hreduces⟩ := hpaged.reduced
    rw [← (SessionAggregate.reduces_anchored hreduces).config] at hreduces
    refine .collecting between [] sync past [] (hlog'.trans hlog) hnone (paged_taken hpaged) hpc'
      hpending ⟨⟨aggregate, by rw [hsessions]; exact hstored, by simpa using hreduces⟩, ?_, ?_⟩
    · rw [howed]
      exact fun _ => .nil
    · rw [howed]
      exact fun _ => rfl
  | failing between e hlog hnone hself => simp [hself] at hpc
  | failed between hlog hnone href hself => simp [hpc, WorkerPc.concerns] at hself
  | collecting between trailing sync past live hlog hnone htaken hself => simp [hself] at hpc
  | queued between after baseline sync past live hlog hnone hget htaken hself =>
    simp [hpc, WorkerPc.concerns] at hself

theorem progress_committed (h : Progress codec config requestId sessionId base cursor refused self)
    {request : String} {outcome : SessionSyncOutcome} {baseline : EventSequence}
    {frames trailing : List Frame}
    (hpc : self.pc = .subscribeCommit request sessionId outcome)
    (hbaseline : baseline.get = outcome.throughSequence)
    (hpending : self.delivery.pending? = some ⟨request, sessionId, frames, trailing, true⟩)
    (hpc' : next.pc = .accepting)
    (hlog' : next.log = self.log ++ (resultFrame request sessionId outcome baseline ::
      frames ++ .syncCompleted request :: trailing))
    (hmine : next.delivery.isSubscribedTo sessionId = outcome.subscribed)
    (hsessions : next.bridge.sessions = self.bridge.sessions)
    (howed : next.owed codec config sessionId = self.owed codec config sessionId) :
    Progress codec config requestId sessionId base cursor refused' next := by
  cases h with
  | begun between hlog hnone hself => simp [hself] at hpc
  | asking between hlog hnone hself => simp [hself] at hpc
  | failing between e hlog hnone hself => simp [hself] at hpc
  | failed between hlog hnone href hself => simp [hpc, WorkerPc.concerns] at hself
  | collecting between trailed sync past live hlog hnone htaken hself hcollecting hfollows =>
    rw [hself] at hpc
    cases hpc
    rw [hpending] at hcollecting
    cases hcollecting
    refine .queued between trailing baseline sync past live ?_ hnone hbaseline htaken
      (by rw [hpc']; rfl) (by rw [hpc']; rfl) hmine
      (follows_congr codec config hfollows (by rw [hsessions]) (by rw [howed]))
    rw [hlog', hlog]
  | queued between after baseline sync past live hlog hnone hget htaken hself =>
    simp [hpc, WorkerPc.concerns] at hself

/-- Every stream step keeps the progress of the request, as long as the worker
does not turn to another request for the session or to another connection. -/
theorem streamStep_progress (ha : Aligned codec config self)
    (h : Progress codec config requestId sessionId base cursor refused self)
    (st : StreamStep codec config sessionId self next)
    (hundisturbed : next.pc ≠ self.pc → self.pc.interrupts sessionId = false)
    (hkeeps : refused → refused')
    (hfailed : ∀ e, self.pc = .subscribeFailed requestId sessionId e → refused') :
    Progress codec config requestId sessionId base cursor refused' next := by
  have hnot : ∀ {pc}, self.pc = pc → next.pc ≠ self.pc → pc.interrupts sessionId = true → False := by
    rintro pc rfl hmoved hyes
    rw [hundisturbed hmoved] at hyes
    cases hyes
  cases st with
  | still hu hpc hpending hmine => exact progress_still codec config h hu hpc hpending hmine hkeeps
  | elsewhere hu hbefore hafter hdrops hmine =>
    refine progress_elsewhere codec config h hu hbefore hafter ?_ hmine hkeeps
    rw [← Bool.not_eq_true]
    intro hyes
    by_cases hmoved : next.pc = self.pc
    · rw [hmoved, progress_drops codec config h] at hyes
      cases hyes
    · exact hnot rfl hmoved (hdrops hyes)
  | dropped request outcome hu hpc hafter =>
    have hdrops := progress_drops codec config h
    simp [hpc, WorkerPc.drops] at hdrops
  | reset hpc hmoved hlog hcollected howed hafter =>
    rcases hpc with ⟨sessionCursors, resumeAccepted, hpc⟩ | ⟨last, hpc⟩
    · exact (hnot hpc hmoved rfl).elim
    · exact (hnot hpc hmoved rfl).elim
  | published event aggregate hid hreduction hstored hconfig hlog hdelivery hpc hbefore
      hunsubscribed hsubscribed =>
    exact progress_published codec config ha h hid hreduction hstored hlog hdelivery hpc hbefore
      hunsubscribed hsubscribed hkeeps
  | handed context message hrest hframe howed hlog hpending hcollected hmine =>
    exact progress_handed codec config ha h hrest hframe howed hlog hmine
  | trailed context message request outcome frames trailing hrest hframe howed hlog hpc hpending
      hpending' =>
    exact progress_trailed codec config h hrest hframe howed hlog hpc hpending hpending'
  | already request baseline hpc hpc' =>
    exact (hnot hpc (by rw [hpc, hpc']; simp) (by simp [WorkerPc.interrupts])).elim
  | began request hpc hpc' =>
    exact (hnot hpc (by rw [hpc, hpc']; simp) (by simp [WorkerPc.interrupts])).elim
  | asked request hpc hpc' hu => exact progress_asked codec config h hpc hpc' hu
  | refused request afterSequence e hpc hpc' hu =>
    exact progress_refused codec config h hpc hpc' hu
  | failed request e hpc hquiet hmine hcollected hu =>
    exact progress_failed codec config h hpc hquiet hmine hu hfailed
  | synced request afterSequence sync past hpc hpaged hpc' hpending hcollected hlog hcursor
      hsessions hconfig hbefore howed =>
    exact progress_synced codec config h hpc hpaged hpc' hpending hlog hsessions howed
  | committed request outcome baseline frames trailing hpc hbaseline hpending hpc' hlog hcollected
      hcursor hmine hsessions howed =>
    exact progress_committed codec config h hpc hbaseline hpending hpc' hlog hmine hsessions howed

end Step

/-- The worker does not turn to another request for the session, and the
connection stays. -/
def Undisturbed (sessionId : SessionId) (self : NativeSystem Other) : NativeInput → Prop
  | .worker _ => self.pc.interrupts sessionId = false
  | _ => True

instance (sessionId : SessionId) (self : NativeSystem Other) :
    (input : NativeInput) → Decidable (Undisturbed sessionId self input)
  | .worker _ => inferInstanceAs (Decidable (_ = false))
  | .publish _ _ | .deliver | .foreign _ => isTrue trivial

theorem run_apart (sessionConfig : SessionAggregateConfig) (others : Other)
    {inputs : List NativeInput}
    (h : Trace.Along (step codec config otherPorts) (WithinLimit codec config otherPorts)
      (start config sessionConfig others) inputs) (sessionId : SessionId) :
    Aligned codec config (run codec config otherPorts sessionConfig others inputs) ∧
      Apart sessionId (run codec config otherPorts sessionConfig others inputs) :=
  Trace.along_invariant (step codec config otherPorts) _
    (fun system => Aligned codec config system ∧ Apart sessionId system)
    (fun _ input hself hlimit =>
      ⟨step_aligned codec config otherPorts hself.1 input (.inr hlimit),
        streamStep_apart codec config hself.2
          (step_stream codec config otherPorts hself.1 hlimit hself.2)⟩) h
    ⟨start_aligned codec config sessionConfig others, fun _ => rfl⟩

theorem step_undisturbed {sessionId : SessionId} {self : NativeSystem Other} {input : NativeInput}
    (h : Undisturbed sessionId self input)
    (hmoved : (step codec config otherPorts self input).1.pc ≠ self.pc) :
    self.pc.interrupts sessionId = false := by
  cases input with
  | worker input => exact h
  | publish providerId event =>
    exact absurd (step_other codec config otherPorts self (by simp)).1 hmoved
  | deliver => exact absurd (step_other codec config otherPorts self (by simp)).1 hmoved
  | foreign op => exact absurd (step_other codec config otherPorts self (by simp)).1 hmoved

theorem wasRefused_snoc {requestId : String} {sessionId : SessionId} {begun : NativeSystem Other}
    {inputs : List NativeInput}
    (h : WasRefused codec config otherPorts requestId sessionId begun inputs) (input : NativeInput) :
    WasRefused codec config otherPorts requestId sessionId begun (inputs ++ [input]) := by
  obtain ⟨earlier, later, e, rfl, hpc⟩ := h
  exact ⟨earlier, later ++ [input], e, by rw [List.append_assoc], hpc⟩

/-- The request makes its way from its first section on. -/
theorem run_progress {begun : NativeSystem Other} {requestId : String} {sessionId : SessionId}
    {base between : List Frame} (ha : Aligned codec config begun) (hapart : Apart sessionId begun)
    (hlog : begun.log = base ++ between) (hnone : stream sessionId between = [])
    (hpc : begun.pc = .subscribeCursor requestId sessionId) {inputs : List NativeInput}
    (h : Trace.Along (step codec config otherPorts) (fun self input =>
      WithinLimit codec config otherPorts self input ∧ Undisturbed sessionId self input) begun
      inputs) :
    Progress codec config requestId sessionId base (begun.delivery.cursor sessionId)
      (WasRefused codec config otherPorts requestId sessionId begun inputs)
      (Trace.final (step codec config otherPorts) begun inputs) := by
  have hrun := Trace.along_history (step codec config otherPorts) _
    (fun past system => Trace.final (step codec config otherPorts) begun past = system ∧
      Aligned codec config system ∧ Apart sessionId system ∧
      Progress codec config requestId sessionId base (begun.delivery.cursor sessionId)
        (WasRefused codec config otherPorts requestId sessionId begun past) system)
    ?_ h [] ⟨rfl, ha, hapart, .begun between hlog hnone hpc rfl⟩
  · exact hrun.2.2.2
  · rintro past self input ⟨rfl, haligned, hself, hprogress⟩ ⟨hlimit, hundisturbed⟩
    have hstream := step_stream codec config otherPorts haligned hlimit hself
    refine ⟨Trace.final_append _ _ _ _, step_aligned codec config otherPorts haligned input
      (.inr hlimit), streamStep_apart codec config hself hstream, ?_⟩
    refine streamStep_progress codec config haligned hprogress hstream
      (step_undisturbed codec config otherPorts hundisturbed)
      (fun hrefused => wasRefused_snoc codec config otherPorts hrefused input) ?_
    intro e hfailed
    exact ⟨past, [input], e, rfl, hfailed⟩

theorem streamStep_began {requestId : String} {sessionId : SessionId} {self next : NativeSystem Other}
    (st : StreamStep codec config sessionId self next)
    (hpc : self.pc = .subscribe requestId sessionId)
    (hpc' : next.pc = .subscribeCursor requestId sessionId) :
    next.log = self.log ∧ next.delivery.cursor sessionId = self.delivery.cursor sessionId := by
  cases st with
  | began request hself hafter hlog hu => exact ⟨hlog, hu.cursor⟩
  | still hu hsame => simp [hsame, hpc] at hpc'
  | elsewhere hu hbefore hafter => simp [hpc', WorkerPc.concerns] at hafter
  | dropped request outcome hu hself => simp [hpc] at hself
  | reset hself hmoved hlog hcollected howed hafter => simp [hpc', WorkerPc.concerns] at hafter
  | published event aggregate hid hreduction hstored hconfig hlog hdelivery hsame =>
    simp [hsame, hpc] at hpc'
  | handed context message hrest => simp [hrest.pc, hpc] at hpc'
  | trailed context message request outcome frames trailing hrest => simp [hrest.pc, hpc] at hpc'
  | already request baseline hself hafter => simp [hpc'] at hafter
  | asked request hself => simp [hpc] at hself
  | refused request afterSequence e hself => simp [hpc] at hself
  | failed request e hself => simp [hpc] at hself
  | synced request afterSequence sync history hself => simp [hpc] at hself
  | committed request outcome baseline frames trailing hself => simp [hpc] at hself

theorem pageTaken_events {sessionId : SessionId} {cursor : Nat} {sync : ChannelSessionSync}
    {past : List AgentEvent} (h : PageTaken sessionId cursor sync past) (requestId : String) :
    (numbers sessionId (NativeChannelPort.syncFramesOf requestId sync)).length =
      (Bridge.syncOutcome sync).eventCount := by
  rw [NativeChannelPort.syncFramesOf, numbers_append, numbers_eventFrames h.sessionIds]
  cases sync.baseline with
  | none => simp [Bridge.syncOutcome]
  | some baseline => simp [numbers_baselineFramesOf, Bridge.syncOutcome]

/-- Within the queue limit, and while the worker serves no other request for the
session on another connection: nothing of the session is queued before the
result, and the result is followed by the page that its counts describe, the
completion and, behind a final page, the live frames of every event that the
session took since, up to those a publication still owes. -/
theorem run_subscribe_ordered (sessionConfig : SessionAggregateConfig) (others : Other)
    (before after : List NativeInput) (input : WorkerInput) (requestId : String)
    (sessionId : SessionId)
    (hbefore : Trace.Along (step codec config otherPorts) (WithinLimit codec config otherPorts)
      (start config sessionConfig others) (before ++ [.worker input]))
    (hpc : (run codec config otherPorts sessionConfig others before).pc =
      .subscribe requestId sessionId)
    (hbegun : (run codec config otherPorts sessionConfig others (before ++ [.worker input])).pc =
      .subscribeCursor requestId sessionId)
    (hafter : Trace.Along (step codec config otherPorts) (fun self input =>
      WithinLimit codec config otherPorts self input ∧ Undisturbed sessionId self input)
      (run codec config otherPorts sessionConfig others (before ++ [.worker input])) after) :
    let initial := run codec config otherPorts sessionConfig others before
    let begun := run codec config otherPorts sessionConfig others (before ++ [.worker input])
    let reached := run codec config otherPorts sessionConfig others
      (before ++ [.worker input] ++ after)
    ∃ between, stream sessionId between = [] ∧
      ((reached.log = initial.log ++ between ∧ (reached.pc.concerns sessionId = true ∨
          WasRefused codec config otherPorts requestId sessionId begun after)) ∨
        ∃ sync past live baseline follow,
          let outcome := Bridge.syncOutcome sync
          let page := NativeChannelPort.syncFramesOf requestId sync
          reached.log = initial.log ++ between ++
            (resultFrame requestId sessionId outcome baseline :: page ++
              .syncCompleted requestId :: follow) ∧
          baseline.get = sync.throughSequence ∧
          PageTaken sessionId (initial.delivery.cursor sessionId) sync past ∧
          (numbers sessionId page).length = outcome.eventCount ∧
          page.countP NativeServerMessage.isInteraction = outcome.pendingInteractionCount ∧
          SessionAggregate.Numbered (past ++ live) ∧
          Follows codec config sessionId reached sync past live (stream sessionId follow) ∧
          (sync.isFinal = true →
            numbers sessionId (stream sessionId follow ++ reached.owed codec config sessionId) =
              (live.filter fun event => codec.encodes (.agentEvent event)).map
                fun event => event.sequence.get)) := by
  intro initial begun reached
  obtain ⟨hinitial, hlast, -⟩ := (Trace.along_append _ _ _ before [.worker input]).mp hbefore
  obtain ⟨ha, hapart⟩ := run_apart codec config otherPorts sessionConfig others hinitial sessionId
  obtain ⟨ha', hapart'⟩ := run_apart codec config otherPorts sessionConfig others hbefore sessionId
  have hnext : begun = (step codec config otherPorts initial (.worker input)).1 :=
    Trace.final_append _ _ _ _
  have hstream := step_stream codec config otherPorts ha hlast hapart
  rw [← hnext] at hstream
  obtain ⟨hlog, hcursor⟩ := streamStep_began codec config hstream hpc hbegun
  have hreached : reached = Trace.final (step codec config otherPorts) begun after :=
    Trace.final_append _ _ _ _
  have hbase : begun.log = initial.log ++ [] := by
    rw [List.append_nil]
    exact hlog
  have hprogress := run_progress codec config otherPorts ha' hapart' hbase rfl hbegun hafter
  rw [hcursor, ← hreached] at hprogress
  cases hprogress with
  | begun between hlog hnone hself hcursor =>
    exact ⟨between, hnone, .inl ⟨hlog, .inl (by simp [hself, WorkerPc.concerns])⟩⟩
  | asking between hlog hnone hself =>
    exact ⟨between, hnone, .inl ⟨hlog, .inl (by simp [hself, WorkerPc.concerns])⟩⟩
  | failing between e hlog hnone hself =>
    exact ⟨between, hnone, .inl ⟨hlog, .inl (by simp [hself, WorkerPc.concerns])⟩⟩
  | failed between hlog hnone hrefused => exact ⟨between, hnone, .inl ⟨hlog, .inr hrefused⟩⟩
  | collecting between trailing sync past live hlog hnone htaken hself =>
    exact ⟨between, hnone, .inl ⟨hlog, .inl (by simp [hself, WorkerPc.concerns])⟩⟩
  | queued between follow baseline sync past live hlog hnone hget htaken hself hdrops hfinal
      hfollows =>
    refine ⟨between, hnone, .inr ⟨sync, past, live, baseline, follow, hlog, hget, htaken,
      pageTaken_events htaken requestId, syncFramesOf_interactions requestId sync, ?_, hfollows, ?_⟩⟩
    · obtain ⟨aggregate, -, hreduces⟩ := hfollows.recent
      exact (SessionAggregate.reduces_anchored hreduces).sequences
    · exact fun hyes => liveBlocks_numbers (hfollows.final hyes)

instance (pc : WorkerPc) (requestId : String) (sessionId : SessionId) :
    Decidable (pc = .subscribe requestId sessionId) := by
  cases pc with
  | subscribe request session =>
    exact decidable_of_iff (request = requestId ∧ session = sessionId) (by simp)
  | _ => exact isFalse (by simp)

instance (pc : WorkerPc) (requestId : String) (sessionId : SessionId) :
    Decidable (pc = .subscribeCursor requestId sessionId) := by
  cases pc with
  | subscribeCursor request session =>
    exact decidable_of_iff (request = requestId ∧ session = sessionId) (by simp)
  | _ => exact isFalse (by simp)

/-- A page of two events and one live event behind its completion. -/
theorem run_subscribe_ordered_live :
    let before := Sample.discovered ++ Sample.proceed 7 ++
      Sample.frame (.subscribe (Sample.requestId 3) (Sample.started 0 0).sessionId)
    let after := Sample.proceed 3 ++ Sample.publish (Sample.message 0 2)
    let run := run Sample.codec (Sample.native 16 (by decide)) Sample.accepting .default ()
    ∃ between sync baseline follow,
      (run (before ++ [.worker .proceed] ++ after)).log = (run before).log ++ between ++
        (resultFrame (Sample.requestId 3) (Sample.started 0 0).sessionId (Bridge.syncOutcome sync)
          baseline :: NativeChannelPort.syncFramesOf (Sample.requestId 3) sync ++
            .syncCompleted (Sample.requestId 3) :: follow) := by
  intro before after run
  obtain ⟨between, hnone, ⟨hlog, -⟩ | ⟨sync, past, live, baseline, follow, hlog, -⟩⟩ :=
    run_subscribe_ordered Sample.codec (Sample.native 16 (by decide)) Sample.accepting .default ()
      before after .proceed (Sample.requestId 3) (Sample.started 0 0).sessionId (by decide +kernel)
      (by decide +kernel) (by decide +kernel) (by decide +kernel)
  · have hstream := congrArg (stream (Sample.started 0 0).sessionId) hlog
    rw [stream_append, hnone, List.append_nil] at hstream
    exact absurd hstream (by decide +kernel)
  · exact ⟨between, sync, baseline, follow, hlog⟩

/-- A live state change queues the session after the event: a frame of the
session behind the completion that is no event. -/
theorem live_session_follows_completion :
    ¬ ∀ (inputs : List NativeInput) (requestId : String) (sessionId : SessionId)
        (before after : List Frame),
      Trace.Along (step Sample.codec (Sample.native 16 (by decide)) Sample.accepting)
        (WithinLimit Sample.codec (Sample.native 16 (by decide)) Sample.accepting)
        (start (Sample.native 16 (by decide)) .default ()) inputs →
      (run Sample.codec (Sample.native 16 (by decide)) Sample.accepting .default () inputs).log =
        before ++ .syncCompleted requestId :: after →
      ∀ frame ∈ stream sessionId after, (frame.eventNumber? sessionId).isSome = true := by
  intro h
  have hevents := h (Sample.discovered ++ Sample.subscribing ++ Sample.proceed 1 ++
      Sample.publish (Sample.stateChanged 0 2 .running)) (Sample.requestId 3)
    (Sample.started 0 0).sessionId
    ((run Sample.codec (Sample.native 16 (by decide)) Sample.accepting .default ()
      (Sample.discovered ++ Sample.subscribing ++ Sample.proceed 1)).log.dropLast)
    ((run Sample.codec (Sample.native 16 (by decide)) Sample.accepting .default ()
      (Sample.discovered ++ Sample.subscribing ++ Sample.proceed 1 ++
        Sample.publish (Sample.stateChanged 0 2 .running))).log.drop
      (run Sample.codec (Sample.native 16 (by decide)) Sample.accepting .default ()
        (Sample.discovered ++ Sample.subscribing ++ Sample.proceed 1)).log.length)
    (by decide +kernel) (by decide +kernel)
  revert hevents
  decide +kernel

end NativeSystem

end AgentPulse
