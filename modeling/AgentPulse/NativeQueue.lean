import AgentPulse.NativeStreamStep

/-!
# No event is queued twice

A connection keeps one cursor for each session, and only a page moves it. While
no subscribe request follows a live event of its session, the cursor is the last
event queued, each request resumes right behind it, and the events of a session
are queued in increasing order. A request that does follow a live event starts
from a cursor that is behind the queue.
-/
namespace AgentPulse

open Std (ExtTreeMap ExtTreeSet)

/-- The sequence of an event frame of a session. -/
def NativeServerMessage.eventNumber? (sessionId : SessionId) : NativeServerMessage → Option Nat
  | .domain (.liveEvent _) (.agentEvent event) =>
    if event.sessionId = sessionId then some event.sequence.get else none
  | _ => none

/-- The sequences of the events of a session among some frames, in order. -/
def numbers (sessionId : SessionId) (frames : List Frame) : List Nat :=
  frames.filterMap (NativeServerMessage.eventNumber? sessionId)

@[simp] theorem numbers_nil (sessionId : SessionId) : numbers sessionId [] = [] := rfl

@[simp] theorem numbers_append (sessionId : SessionId) (xs ys : List Frame) :
    numbers sessionId (xs ++ ys) = numbers sessionId xs ++ numbers sessionId ys :=
  List.filterMap_append

theorem numbers_cons_none {sessionId : SessionId} {frame : Frame}
    (h : frame.eventNumber? sessionId = none) (frames : List Frame) :
    numbers sessionId (frame :: frames) = numbers sessionId frames :=
  List.filterMap_cons_none h

theorem eventNumber?_session? {sessionId : SessionId} {frame : Frame} {number : Nat}
    (h : frame.eventNumber? sessionId = some number) : frame.session? = some sessionId := by
  unfold NativeServerMessage.eventNumber? at h
  split at h
  · next route event =>
    split at h
    · next hid => exact congrArg some hid
    · cases h
  · cases h

/-- The numbers are read off the frames of the session alone. -/
theorem numbers_stream (sessionId : SessionId) (frames : List Frame) :
    numbers sessionId (stream sessionId frames) = numbers sessionId frames := by
  induction frames with
  | nil => rfl
  | cons frame frames ih =>
    by_cases h : frame.session? = some sessionId
    · rw [stream, List.filter_cons_of_pos (by simpa using h)]
      simp only [numbers, List.filterMap_cons] at ih ⊢
      rw [← stream, ih]
    · have hnone : frame.eventNumber? sessionId = none := by
        cases hnumber : frame.eventNumber? sessionId with
        | none => rfl
        | some number => exact absurd (eventNumber?_session? hnumber) h
      rw [NativeSystem.stream_cons_other _ h, ih, numbers_cons_none hnone]

theorem numbers_of_stream_nil {sessionId : SessionId} {frames : List Frame}
    (h : stream sessionId frames = []) : numbers sessionId frames = [] := by
  rw [← numbers_stream, h, numbers_nil]

theorem numbers_congr {sessionId : SessionId} {xs ys : List Frame}
    (h : stream sessionId xs = stream sessionId ys) : numbers sessionId xs = numbers sessionId ys := by
  rw [← numbers_stream, h, numbers_stream]

/-- What followed the last subscription result of a session: how many events of
its page are still to come, and the live events. -/
structure SinceResult where
  pageEvents : Nat
  live : List Nat
  deriving DecidableEq, Repr

def SinceResult.next (sessionId : SessionId) (self : SinceResult) (frame : Frame) : SinceResult :=
  match frame with
  | .subscriptionResult _ session _ _ _ eventCount _ =>
    if session = sessionId then ⟨eventCount, []⟩ else self
  | frame =>
    match frame.eventNumber? sessionId with
    | none => self
    | some number =>
      if self.pageEvents = 0 then ⟨0, self.live ++ [number]⟩
      else { self with pageEvents := self.pageEvents - 1 }

def sinceResult (sessionId : SessionId) (frames : List Frame) : SinceResult :=
  frames.foldl (SinceResult.next sessionId) ⟨0, []⟩

def NativeServerMessage.isResult : NativeServerMessage → Bool
  | .subscriptionResult _ _ _ _ _ _ _ => true
  | _ => false

namespace SinceResult

variable {sessionId : SessionId}

theorem next_number {frame : Frame} (hresult : frame.isResult = false) (self : SinceResult) :
    self.next sessionId frame =
      match frame.eventNumber? sessionId with
      | none => self
      | some number =>
        if self.pageEvents = 0 then ⟨0, self.live ++ [number]⟩
        else { self with pageEvents := self.pageEvents - 1 } := by
  cases frame <;> first | rfl | simp [NativeServerMessage.isResult] at hresult

theorem next_other {frame : Frame} (h : frame.session? ≠ some sessionId) (self : SinceResult) :
    self.next sessionId frame = self := by
  cases frame with
  | subscriptionResult requestId session status baseline interactions events reset =>
    exact if_neg fun heq => h (congrArg some heq)
  | _ =>
    rw [next_number rfl]
    split
    · rfl
    · next number hnumber => exact absurd (eventNumber?_session? hnumber) h

/-- Frames of other sessions do not count. -/
theorem foldl_other {frames : List Frame} (h : stream sessionId frames = []) (self : SinceResult) :
    frames.foldl (SinceResult.next sessionId) self = self := by
  induction frames with
  | nil => rfl
  | cons frame frames ih =>
    have hframe : frame.session? ≠ some sessionId := by
      have hall := List.filter_eq_nil_iff.mp h
      simpa using hall frame List.mem_cons_self
    rw [NativeSystem.stream_cons_other _ hframe] at h
    rw [List.foldl_cons, next_other hframe]
    exact ih h

/-- Once the page is complete, every event is live. -/
theorem foldl_live (sessionId : SessionId) {frames : List Frame} (h : ∀ frame ∈ frames, frame.isResult = false)
    (live : List Nat) :
    frames.foldl (SinceResult.next sessionId) ⟨0, live⟩ =
      ⟨0, live ++ numbers sessionId frames⟩ := by
  induction frames generalizing live with
  | nil => simp
  | cons frame frames ih =>
    have hrest := ih fun other hother => h other (List.mem_cons_of_mem frame hother)
    rw [List.foldl_cons, next_number (h frame List.mem_cons_self)]
    cases hnumber : frame.eventNumber? sessionId with
    | none => simp [hrest, numbers, hnumber]
    | some number => simp [hrest, numbers, hnumber]

/-- The events of the page are counted off. -/
theorem foldl_page (sessionId : SessionId) {frames : List Frame} (h : ∀ frame ∈ frames, frame.isResult = false)
    (count : Nat) :
    frames.foldl (SinceResult.next sessionId) ⟨(numbers sessionId frames).length + count, []⟩ =
      ⟨count, []⟩ := by
  induction frames with
  | nil => simp
  | cons frame frames ih =>
    have hrest := ih fun other hother => h other (List.mem_cons_of_mem frame hother)
    rw [List.foldl_cons, next_number (h frame List.mem_cons_self)]
    cases hnumber : frame.eventNumber? sessionId with
    | none =>
      rw [numbers_cons_none hnumber]
      exact hrest
    | some number =>
      have hlength : (numbers sessionId (frame :: frames)).length + count =
          (numbers sessionId frames).length + count + 1 := by
        simp only [numbers, List.filterMap_cons, hnumber, List.length_cons]
        omega
      rw [hlength]
      simpa using hrest

end SinceResult

theorem sinceResult_append (sessionId : SessionId) (xs ys : List Frame) :
    sinceResult sessionId (xs ++ ys) =
      ys.foldl (SinceResult.next sessionId) (sinceResult sessionId xs) :=
  List.foldl_append

theorem sinceResult_other {sessionId : SessionId} {frames : List Frame}
    (h : stream sessionId frames = []) (log : List Frame) :
    sinceResult sessionId (log ++ frames) = sinceResult sessionId log := by
  rw [sinceResult_append, SinceResult.foldl_other h]

/-- Every repeated subscribe request was answered with a baseline that is not
below an event queued before. -/
def Answered (sessionId : SessionId) (log : List Frame) : Prop :=
  ∀ before requestId baseline interactions events reset after,
    log = before ++ .subscriptionResult requestId sessionId .alreadySubscribed baseline
      interactions events reset :: after →
    ∀ number ∈ numbers sessionId before, number ≤ baseline.get

theorem answered_nil (sessionId : SessionId) : Answered sessionId [] := by
  intro before requestId baseline interactions events reset after h
  simp at h

/-- Only answers to repeated requests have to be looked at. -/
theorem answered_append {sessionId : SessionId} {log frames : List Frame}
    (h : Answered sessionId log)
    (hframes : ∀ requestId baseline interactions events reset,
      NativeServerMessage.subscriptionResult requestId sessionId .alreadySubscribed baseline
        interactions events reset ∉ frames) : Answered sessionId (log ++ frames) := by
  intro before requestId baseline interactions events reset after heq
  rcases List.append_eq_append_iff.mp heq with ⟨middle, hbefore, hrest⟩ | ⟨middle, hlog, hrest⟩
  · refine absurd ?_ (hframes requestId baseline interactions events reset)
    rw [hrest]
    exact List.mem_append_right middle List.mem_cons_self
  · cases middle with
    | nil =>
      refine absurd ?_ (hframes requestId baseline interactions events reset)
      rw [List.nil_append] at hrest
      rw [← hrest]
      exact List.mem_cons_self
    | cons frame middle =>
      rw [List.cons_append] at hrest
      cases hrest
      exact h before requestId baseline interactions events reset middle hlog

theorem answered_already {sessionId : SessionId} {log : List Frame} (h : Answered sessionId log)
    {baseline : EventSequence} (hbaseline : ∀ number ∈ numbers sessionId log,
      number ≤ baseline.get) (requestId : String) (interactions events : Nat) (reset : Bool) :
    Answered sessionId (log ++ [.subscriptionResult requestId sessionId .alreadySubscribed baseline
      interactions events reset]) := by
  intro before requestId' baseline' interactions' events' reset' after heq
  rcases List.append_eq_append_iff.mp heq with ⟨middle, hbefore, hrest⟩ | ⟨middle, hlog, hrest⟩
  · cases middle with
    | nil =>
      rw [List.append_nil] at hbefore
      rw [List.nil_append] at hrest
      cases hrest
      rw [hbefore]
      exact hbaseline
    | cons frame middle =>
      rw [List.cons_append, List.cons.injEq] at hrest
      simp at hrest
  · cases middle with
    | nil =>
      rw [List.append_nil] at hlog
      rw [List.nil_append] at hrest
      cases hrest
      rw [← hlog]
      exact hbaseline
    | cons frame middle =>
      rw [List.cons_append] at hrest
      cases hrest
      exact h before requestId' baseline' interactions' events' reset' middle hlog

theorem le_getLast? {l : List Nat} (h : l.Pairwise (· < ·)) {last : Nat}
    (hlast : l.getLast? = some last) : ∀ number ∈ l, number ≤ last := by
  obtain ⟨init, rfl⟩ := List.getLast?_eq_some_iff.mp hlast
  intro number hnumber
  rcases List.mem_append.mp hnumber with hmem | hmem
  · have hlt := (List.pairwise_append.mp h).2.2 number hmem last (by simp)
    omega
  · rw [List.mem_singleton.mp hmem]

theorem numbers_eventFrames {sessionId : SessionId} {events : List RoutedAgentEvent}
    (h : ∀ routed ∈ events, routed.event.sessionId = sessionId) :
    numbers sessionId (events.map NativeChannelPort.eventFrame) =
      events.map fun routed => routed.event.sequence.get := by
  induction events with
  | nil => rfl
  | cons routed events ih =>
    have hrest := ih fun other hother => h other (List.mem_cons_of_mem routed hother)
    have hid := h routed List.mem_cons_self
    simp only [numbers, List.map_cons, List.filterMap_cons, NativeChannelPort.eventFrame,
      NativeServerMessage.eventNumber?, if_pos hid] at hrest ⊢
    rw [hrest]

theorem numbers_baselineFramesOf (sessionId : SessionId) (requestId : String)
    (baseline : ChannelSessionBaseline) :
    numbers sessionId (NativeChannelPort.baselineFramesOf requestId baseline) = [] := by
  rw [numbers, List.filterMap_eq_nil_iff]
  intro frame hframe
  rcases List.mem_cons.mp hframe with rfl | hframe
  · rfl
  · obtain ⟨interaction, -, rfl⟩ := List.mem_map.mp hframe
    rfl

theorem syncFramesOf_isResult (requestId : String) (sync : ChannelSessionSync) :
    ∀ frame ∈ NativeChannelPort.syncFramesOf requestId sync, frame.isResult = false := by
  intro frame hframe
  rcases List.mem_append.mp hframe with hframe | hframe
  · obtain ⟨routed, -, rfl⟩ := List.mem_map.mp hframe
    rfl
  · cases hbaseline : sync.baseline with
    | none => simp [hbaseline] at hframe
    | some baseline =>
      rw [hbaseline] at hframe
      rcases List.mem_cons.mp hframe with rfl | hframe
      · rfl
      · obtain ⟨interaction, -, rfl⟩ := List.mem_map.mp hframe
        rfl

section Paged

variable {World : Type} {bridge : Bridge World} {sessionId : SessionId} {requestedAfter : Nat}
  {sync : ChannelSessionSync} {history : List AgentEvent}

theorem paged_length (h : Paged bridge sessionId requestedAfter sync history) :
    sync.events.length = min sessionSyncPageEvents (history.length - sync.afterSequence) := by
  have hlength := congrArg List.length h.page.events
  simpa using hlength

/-- The events of a page are numbered from its start. -/
theorem paged_numbers (h : Paged bridge sessionId requestedAfter sync history)
    (requestId : String) :
    numbers sessionId (NativeChannelPort.syncFramesOf requestId sync) =
      List.range' (sync.afterSequence + 1) sync.events.length := by
  have hpage : (sync.events.map fun routed => routed.event.sequence.get) =
      List.range' (sync.afterSequence + 1) sync.events.length := by
    rw [paged_length h, ← SessionAggregate.numbered_page h.numbered, ← h.page.events, List.map_map]
    rfl
  rw [NativeChannelPort.syncFramesOf, numbers_append, numbers_eventFrames h.sessionIds, hpage]
  cases sync.baseline with
  | none => exact List.append_nil _
  | some baseline =>
    simp only [numbers_baselineFramesOf, List.append_nil]

theorem paged_through (h : Paged bridge sessionId requestedAfter sync history) :
    sync.throughSequence = sync.afterSequence + sync.events.length := by
  have hwithin := h.page.within
  rw [h.page.through, paged_length h]
  omega

theorem paged_last (h : Paged bridge sessionId requestedAfter sync history) :
    ∃ aggregate, bridge.sessions[sessionId]? = some aggregate ∧
      aggregate.lastSequence.get = history.length := by
  obtain ⟨aggregate, hstored, hreduces⟩ := h.reduced
  exact ⟨aggregate, hstored, (SessionAggregate.reduces_anchored hreduces).cursor⟩

end Paged

theorem numbers_viewFrames (codec : NativeCodec) (sessionId : SessionId) (session : AgentSession) :
    numbers sessionId (viewFrames codec session) = [] := by
  unfold viewFrames
  split <;> rfl

/-- The live frames of an event show its number, or nothing. -/
theorem numbers_liveFrames (codec : NativeCodec) {sessionId : SessionId} {event : AgentEvent}
    (hid : event.sessionId = sessionId) (route : ChannelEventRoute) (session : AgentSession) :
    numbers sessionId (liveFrames codec ⟨event, route⟩ session) = [event.sequence.get] ∨
      numbers sessionId (liveFrames codec ⟨event, route⟩ session) = [] := by
  unfold liveFrames
  split
  · refine .inl ?_
    have hview : numbers sessionId (if eventUpdatesSessionView event then
        viewFrames codec session else []) = [] := by
      split
      · exact numbers_viewFrames codec sessionId session
      · rfl
    have hhead : (NativeChannelPort.eventFrame ⟨event, route⟩).eventNumber? sessionId =
        some event.sequence.get := if_pos hid
    rw [numbers, List.filterMap_cons_some hhead]
    exact congrArg (List.cons event.sequence.get) hview
  · exact .inr rfl

theorem reduction_sequence {World : Type} {bridge : Bridge World} {event : AgentEvent}
    {aggregate old : SessionAggregate} (h : bridge.Reduction event aggregate)
    (hold : bridge.sessions[event.sessionId]? = some old) :
    event.sequence.get = old.lastSequence.get + 1 := by
  rcases h with ⟨stored, hstored, happlied, -⟩ | ⟨hnone, -⟩
  · rw [hold] at hstored
    cases hstored
    obtain ⟨hvalid, -, -⟩ := SessionAggregate.apply_applied happlied
    exact (SessionAggregate.validateCursor_next hvalid).2
  · rw [hold] at hnone
    cases hnone

namespace NativeSystem

variable {Other : Type} (codec : NativeCodec) (config : NativeChannelConfig)
  (otherPorts : Ports Other)

/-- Everything of a session that is queued, collected or owed. -/
def pipeline (self : NativeSystem Other) (sessionId : SessionId) : List Nat :=
  numbers sessionId self.log ++ numbers sessionId self.delivery.collected ++
    numbers sessionId (self.owed codec config sessionId)

/-- The page that waits to be queued continues the queued events. -/
structure Continues (sessionId : SessionId) (system : NativeSystem Other) (requestId : String)
    (outcome : SessionSyncOutcome) : Prop where
  live : (sinceResult sessionId system.log).live = []
  page : ∃ start frames trailing,
    system.delivery.pending? = some ⟨requestId, sessionId, frames, trailing, true⟩ ∧
    numbers sessionId frames = List.range' (start + 1) outcome.eventCount ∧
    outcome.throughSequence = start + outcome.eventCount ∧
    (∀ frame ∈ frames ++ trailing, frame.isResult = false) ∧
    (numbers sessionId system.log = [] ∨ (numbers sessionId system.log).getLast? = some start)

/-- What a subscribe request for the session knows in each of its sections. -/
def Resuming (sessionId : SessionId) (system : NativeSystem Other) : WorkerPc → Prop
  | .subscribeCursor _ session => session = sessionId →
    (sinceResult sessionId system.log).live = []
  | .subscribeSync _ session afterSequence => session = sessionId →
    (sinceResult sessionId system.log).live = [] ∧
      afterSequence = system.delivery.cursor sessionId
  | .subscribeCommit requestId session outcome => session = sessionId →
    Continues sessionId system requestId outcome
  | _ => True

structure Tracked (sessionId : SessionId) (system : NativeSystem Other) : Prop where
  apart : Apart sessionId system
  /-- Behind the live events, the queue ends at the cursor. -/
  scanned : (sinceResult sessionId system.log).pageEvents = 0 ∧ ∃ paged,
    numbers sessionId system.log = paged ++ (sinceResult sessionId system.log).live ∧
    (paged = [] ∨ paged.getLast? = some (system.delivery.cursor sessionId))
  ordered : (system.pipeline codec config sessionId).Pairwise (· < ·)
  bounded : ∀ number ∈ system.pipeline codec config sessionId,
    ∃ aggregate, system.bridge.sessions[sessionId]? = some aggregate ∧
      number ≤ aggregate.lastSequence.get
  answered : Answered sessionId system.log
  resuming : Resuming sessionId system system.pc

theorem resuming_of_not_concerns {sessionId : SessionId} (system : NativeSystem Other)
    {pc : WorkerPc} (h : pc.concerns sessionId = false) : Resuming sessionId system pc := by
  cases pc <;> first | trivial | exact fun hid => absurd hid (of_decide_eq_false h)

/-- The numbers seen along a step that touches nothing of the session. -/
theorem unseen_numbers {sessionId : SessionId} {self next : NativeSystem Other}
    (h : Unseen codec config sessionId self next) :
    numbers sessionId next.log = numbers sessionId self.log ∧
    sinceResult sessionId next.log = sinceResult sessionId self.log ∧
    next.pipeline codec config sessionId = self.pipeline codec config sessionId := by
  obtain ⟨frames, hlog, hnone⟩ := h.log
  have hnumbers : numbers sessionId next.log = numbers sessionId self.log := by
    rw [hlog, numbers_append, numbers_of_stream_nil hnone, List.append_nil]
  refine ⟨hnumbers, by rw [hlog, sinceResult_other hnone], ?_⟩
  rw [pipeline, pipeline, hnumbers, numbers_congr h.collected, h.owed]

theorem tracked_unseen {sessionId : SessionId} {self next : NativeSystem Other}
    (h : Tracked codec config sessionId self) (hu : Unseen codec config sessionId self next)
    (hapart : Apart sessionId next) (hresuming : Resuming sessionId next next.pc) :
    Tracked codec config sessionId next := by
  obtain ⟨hnumbers, hsince, hpipeline⟩ := unseen_numbers codec config hu
  refine ⟨hapart, ?_, ?_, ?_, ?_, hresuming⟩
  · rw [hsince, hnumbers, hu.cursor]
    exact h.scanned
  · rw [hpipeline]
    exact h.ordered
  · rw [hpipeline, hu.history]
    exact h.bounded
  · obtain ⟨frames, hlog, hnone⟩ := hu.log
    rw [hlog]
    refine answered_append h.answered ?_
    intro requestId baseline interactions events reset hmem
    have hall := List.filter_eq_nil_iff.mp hnone _ hmem
    simp [NativeServerMessage.session?] at hall

/-- While the session is being synchronized it is not yet subscribed. -/
theorem stage_fresh {self : NativeSystem Other} (h : Stage codec config self self.pc)
    {sessionId : SessionId} (hpc : self.pc.concerns sessionId = true) :
    self.delivery.isSubscribedTo sessionId = false := by
  cases hself : self.pc with
  | subscribeCursor requestId session =>
    rw [hself] at h hpc
    have hw : Waiting codec config self requestId session := h
    rw [← of_decide_eq_true hpc]
    exact hw.fresh
  | subscribeSync requestId session afterSequence =>
    rw [hself] at h hpc
    have hw : Waiting codec config self requestId session := h
    rw [← of_decide_eq_true hpc]
    exact hw.fresh
  | subscribeFailed requestId session e =>
    rw [hself] at h hpc
    have hw : Waiting codec config self requestId session := h
    rw [← of_decide_eq_true hpc]
    exact hw.fresh
  | subscribeCommit requestId session outcome =>
    rw [hself] at h hpc
    have hc : Committing codec config self requestId session outcome := h
    rw [← of_decide_eq_true hpc]
    exact hc.fresh
  | _ => simp [hself, WorkerPc.concerns] at hpc

theorem tracked_handed {sessionId : SessionId} {self next : NativeSystem Other}
    (ha : Aligned codec config self) (h : Tracked codec config sessionId self)
    {context : NativeDeliveryContext} {message : ProtocolMessage}
    (hrest : SameRest sessionId self next)
    (howed : self.owed codec config sessionId =
      .domain context message :: next.owed codec config sessionId)
    (hlog : next.log = self.log ++ [.domain context message])
    (hpending : next.delivery.pending? = self.delivery.pending?)
    (hcollected : stream sessionId self.delivery.collected = [])
    (hmine : self.delivery.isSubscribedTo sessionId = true)
    (hapart : Apart sessionId next) : Tracked codec config sessionId next := by
  obtain ⟨hcounted, paged, hsplit, hcursor⟩ := h.scanned
  have hnone := numbers_of_stream_nil hcollected
  have hpipeline : next.pipeline codec config sessionId =
      self.pipeline codec config sessionId := by
    rw [pipeline, pipeline, hlog, howed, DeliveryState.collected_congr hpending, hnone]
    simp [numbers, List.filterMap_cons]
    cases NativeServerMessage.eventNumber? sessionId (.domain context message) <;> rfl
  have hsince : sinceResult sessionId next.log =
      ⟨0, (sinceResult sessionId self.log).live ++
        numbers sessionId [.domain context message]⟩ := by
    rw [hlog, sinceResult_append]
    have hstate : sinceResult sessionId self.log = ⟨0, (sinceResult sessionId self.log).live⟩ := by
      rw [← hcounted]
    rw [hstate]
    refine SinceResult.foldl_live sessionId ?_ _
    intro frame hframe
    rw [List.mem_singleton.mp hframe]
    rfl
  have hfree : self.pc.concerns sessionId = false := by
    rw [← Bool.not_eq_true]
    intro hconcerns
    rw [stage_fresh codec config ha.stage hconcerns] at hmine
    cases hmine
  refine ⟨hapart, ⟨by rw [hsince], paged, ?_, by rw [hrest.cursor]; exact hcursor⟩, ?_, ?_, ?_, ?_⟩
  · rw [hsince, hlog, numbers_append, hsplit, List.append_assoc]
  · rw [hpipeline]
    exact h.ordered
  · rw [hpipeline, hrest.history]
    exact h.bounded
  · rw [hlog]
    exact answered_append h.answered (by simp)
  · rw [hrest.pc]
    exact resuming_of_not_concerns next hfree

theorem tracked_trailed {sessionId : SessionId} {self next : NativeSystem Other}
    (h : Tracked codec config sessionId self) {context : NativeDeliveryContext}
    {message : ProtocolMessage} {requestId : String} {outcome : SessionSyncOutcome}
    {frames trailing : List Frame} (hrest : SameRest sessionId self next)
    (howed : self.owed codec config sessionId =
      .domain context message :: next.owed codec config sessionId)
    (hlog : next.log = self.log)
    (hpc : self.pc = .subscribeCommit requestId sessionId outcome)
    (hpending : self.delivery.pending? = some ⟨requestId, sessionId, frames, trailing, true⟩)
    (hpending' : next.delivery.pending? = some ⟨requestId, sessionId, frames,
      trailing ++ [.domain context message], true⟩)
    (hapart : Apart sessionId next) : Tracked codec config sessionId next := by
  have hpipeline : next.pipeline codec config sessionId =
      self.pipeline codec config sessionId := by
    rw [pipeline, pipeline, hlog, howed, DeliveryState.collected_of_some hpending,
      DeliveryState.collected_of_some hpending']
    simp [numbers, List.filterMap_cons]
    cases NativeServerMessage.eventNumber? sessionId (.domain context message) <;> rfl
  have hresuming := h.resuming
  rw [hpc] at hresuming
  obtain ⟨hlive, start, frames', trailing', hp, hnumbers, hthrough, hresults, hlast⟩ :=
    hresuming rfl
  rw [hpending] at hp
  cases hp
  refine ⟨hapart, ?_, ?_, ?_, by rw [hlog]; exact h.answered, ?_⟩
  · rw [hlog, hrest.cursor]
    exact h.scanned
  · rw [hpipeline]
    exact h.ordered
  · rw [hpipeline, hrest.history]
    exact h.bounded
  · rw [hrest.pc, hpc]
    intro _
    refine ⟨by rw [hlog]; exact hlive, start, frames, _, hpending', hnumbers, hthrough, ?_,
      by rw [hlog]; exact hlast⟩
    intro frame hframe
    rw [← List.append_assoc] at hframe
    rcases List.mem_append.mp hframe with hframe | hframe
    · exact hresults frame hframe
    · rw [List.mem_singleton.mp hframe]
      rfl

/-- A published event comes after everything queued, collected or owed. -/
theorem tracked_published {sessionId : SessionId} {self next : NativeSystem Other}
    (h : Tracked codec config sessionId self) {event : AgentEvent} {aggregate : SessionAggregate}
    (hid : event.sessionId = sessionId) (hreduction : self.bridge.Reduction event aggregate)
    (hstored : next.bridge.sessions[sessionId]? = some aggregate) (hlog : next.log = self.log)
    (hdelivery : next.delivery = self.delivery) (hpc : next.pc = self.pc)
    (hbefore : self.owed codec config sessionId = [])
    (howed : numbers sessionId (next.owed codec config sessionId) = [event.sequence.get] ∨
      numbers sessionId (next.owed codec config sessionId) = [])
    (hapart : Apart sessionId next) : Tracked codec config sessionId next := by
  have hpipeline : next.pipeline codec config sessionId = self.pipeline codec config sessionId ++
      numbers sessionId (next.owed codec config sessionId) := by
    rw [pipeline, pipeline, hlog, hdelivery, hbefore, numbers_nil, List.append_nil]
  have hlast : aggregate.lastSequence = event.sequence := by
    rw [SessionAggregate.lastSequence, reduction_lastEvent hreduction]
  have hbelow : ∀ number ∈ self.pipeline codec config sessionId,
      number < event.sequence.get := by
    intro number hnumber
    obtain ⟨old, hold, hle⟩ := h.bounded number hnumber
    rw [← hid] at hold
    have hnext := reduction_sequence hreduction hold
    omega
  have hnew : ∀ number ∈ numbers sessionId (next.owed codec config sessionId),
      number = event.sequence.get := by
    intro number hnumber
    rcases howed with howed | howed
    · rw [howed] at hnumber
      exact List.mem_singleton.mp hnumber
    · rw [howed] at hnumber
      cases hnumber
  refine ⟨hapart, ?_, ?_, ?_, by rw [hlog]; exact h.answered, ?_⟩
  · rw [hlog, hdelivery]
    exact h.scanned
  · rw [hpipeline, List.pairwise_append]
    refine ⟨h.ordered, ?_, ?_⟩
    · rcases howed with howed | howed <;> rw [howed] <;> simp
    · intro number hnumber later hlater
      rw [hnew later hlater]
      exact hbelow number hnumber
  · intro number hnumber
    refine ⟨aggregate, hstored, ?_⟩
    rw [hlast]
    rw [hpipeline] at hnumber
    rcases List.mem_append.mp hnumber with hnumber | hnumber
    · exact Nat.le_of_lt (hbelow number hnumber)
    · exact Nat.le_of_eq (hnew number hnumber)
  · have hresuming := h.resuming
    rw [← hpc] at hresuming
    cases hself : next.pc with
    | subscribeCursor requestId session =>
      rw [hself] at hresuming
      intro hs
      rw [hlog]
      exact hresuming hs
    | subscribeSync requestId session afterSequence =>
      rw [hself] at hresuming
      intro hs
      rw [hlog, hdelivery]
      exact hresuming hs
    | subscribeCommit requestId session outcome =>
      rw [hself] at hresuming
      intro hs
      obtain ⟨hlive, hpage⟩ := hresuming hs
      exact ⟨by rw [hlog]; exact hlive, by rw [hlog, hdelivery]; exact hpage⟩
    | _ => trivial

/-- A page starts right behind the last event queued. -/
theorem tracked_synced {sessionId : SessionId} {self next : NativeSystem Other}
    (h : Tracked codec config sessionId self) {requestId : String} {afterSequence : Nat}
    {sync : ChannelSessionSync} {history : List AgentEvent}
    (hpc : self.pc = .subscribeSync requestId sessionId afterSequence)
    (hpaged : Paged self.bridge sessionId afterSequence sync history)
    (hpc' : next.pc = .subscribeCommit requestId sessionId (Bridge.syncOutcome sync))
    (hpending : next.delivery.pending? = some ⟨requestId, sessionId,
      NativeChannelPort.syncFramesOf requestId sync, [], true⟩)
    (hcollected : self.delivery.collected = []) (hlog : next.log = self.log)
    (hcursor : next.delivery.cursor sessionId = self.delivery.cursor sessionId)
    (hsessions : next.bridge.sessions = self.bridge.sessions)
    (hbefore : self.owed codec config sessionId = [])
    (howed : next.owed codec config sessionId = []) (hapart : Apart sessionId next) :
    Tracked codec config sessionId next := by
  have hresuming := h.resuming
  rw [hpc] at hresuming
  obtain ⟨hlive, hafter⟩ := hresuming rfl
  obtain ⟨-, paged, hsplit, hends⟩ := h.scanned
  rw [hlive, List.append_nil] at hsplit
  subst hsplit
  obtain ⟨aggregate, hstored, hlength⟩ := paged_last hpaged
  have hnumbers := paged_numbers hpaged requestId
  have hself : self.pipeline codec config sessionId = numbers sessionId self.log := by
    simp [pipeline, hcollected, hbefore]
  have hpipeline : next.pipeline codec config sessionId = numbers sessionId self.log ++
      List.range' (sync.afterSequence + 1) sync.events.length := by
    rw [pipeline, hlog, howed, DeliveryState.collected_of_some hpending]
    simp [hnumbers]
  -- a cursor that an event was queued at is within the history, so the page does not start over
  have hstart : numbers sessionId self.log = [] ∨
      (numbers sessionId self.log).getLast? = some sync.afterSequence := by
    rcases hends with hnone | hlast
    · exact .inl hnone
    · refine .inr ?_
      obtain ⟨stored, hget, hle⟩ := h.bounded (self.delivery.cursor sessionId)
        (by rw [hself]; exact List.mem_of_getLast? hlast)
      rw [hstored] at hget
      cases hget
      rcases hpaged.page.start with ⟨-, hsame⟩ | ⟨hreset, -⟩
      · rw [hsame, hafter]
        exact hlast
      · have hbeyond := hpaged.reset hreset
        omega
  have hbelow : ∀ number ∈ numbers sessionId self.log, number ≤ sync.afterSequence := by
    intro number hnumber
    rcases hstart with hnone | hlast
    · rw [hnone] at hnumber
      cases hnumber
    · have hordered := h.ordered
      rw [hself] at hordered
      exact le_getLast? hordered hlast number hnumber
  refine ⟨hapart, ?_, ?_, ?_, by rw [hlog]; exact h.answered, ?_⟩
  · rw [hlog, hcursor]
    exact h.scanned
  · have hordered := h.ordered
    rw [hself] at hordered
    rw [hpipeline, List.pairwise_append]
    refine ⟨hordered, List.pairwise_lt_range' _ (by omega), ?_⟩
    intro number hnumber later hlater
    have hle := hbelow number hnumber
    rw [List.mem_range'_1] at hlater
    omega
  · intro number hnumber
    rw [hpipeline] at hnumber
    rw [hsessions]
    rcases List.mem_append.mp hnumber with hnumber | hnumber
    · exact h.bounded number (by rw [hself]; exact hnumber)
    · refine ⟨aggregate, hstored, ?_⟩
      have hle := paged_length hpaged
      rw [List.mem_range'_1] at hnumber
      omega
  · rw [hpc']
    intro _
    refine ⟨by rw [hlog]; exact hlive, sync.afterSequence, _, [], hpending, hnumbers,
      paged_through hpaged, ?_, by rw [hlog]; exact hstart⟩
    rw [List.append_nil]
    exact syncFramesOf_isResult requestId sync

theorem tracked_committed {sessionId : SessionId} {self next : NativeSystem Other}
    (h : Tracked codec config sessionId self) {requestId : String} {outcome : SessionSyncOutcome}
    {status : NativeSubscriptionStatus} (hstatus : status ≠ .alreadySubscribed)
    {baseline : EventSequence} {frames trailing : List Frame}
    (hpc : self.pc = .subscribeCommit requestId sessionId outcome)
    (hpending : self.delivery.pending? = some ⟨requestId, sessionId, frames, trailing, true⟩)
    (hpc' : next.pc.concerns sessionId = false)
    (hlog : next.log = self.log ++ (.subscriptionResult requestId sessionId status baseline
      outcome.pendingInteractionCount outcome.eventCount outcome.reset ::
        frames ++ .syncCompleted requestId :: trailing))
    (hcollected : next.delivery.collected = [])
    (hcursor : next.delivery.cursor sessionId = outcome.throughSequence)
    (hsessions : next.bridge.sessions = self.bridge.sessions)
    (howed : next.owed codec config sessionId = self.owed codec config sessionId)
    (hapart : Apart sessionId next) : Tracked codec config sessionId next := by
  have hresuming := h.resuming
  rw [hpc] at hresuming
  obtain ⟨hlive, start, frames', trailing', hp, hnumbers, hthrough, hresults, hlast⟩ :=
    hresuming rfl
  rw [hpending] at hp
  cases hp
  have hnew : numbers sessionId next.log =
      numbers sessionId self.log ++ numbers sessionId frames ++ numbers sessionId trailing := by
    rw [hlog, numbers_append, List.cons_append, numbers_cons_none rfl, numbers_append,
      numbers_cons_none rfl, List.append_assoc]
  have hpipeline : next.pipeline codec config sessionId =
      self.pipeline codec config sessionId := by
    rw [pipeline, pipeline, hnew, howed, hcollected, DeliveryState.collected_of_some hpending]
    simp
  have hpage : ∀ frame ∈ frames ++ [.syncCompleted requestId], frame.isResult = false := by
    intro frame hframe
    rcases List.mem_append.mp hframe with hframe | hframe
    · exact hresults frame (List.mem_append_left trailing hframe)
    · rw [List.mem_singleton.mp hframe]
      rfl
  have hcount : (numbers sessionId (frames ++ [.syncCompleted requestId])).length =
      outcome.eventCount := by
    rw [numbers_append, hnumbers, numbers_cons_none rfl, numbers_nil, List.append_nil,
      List.length_range']
  have hsince : sinceResult sessionId next.log = ⟨0, numbers sessionId trailing⟩ := by
    have hfirst : SinceResult.next sessionId (sinceResult sessionId self.log)
        (.subscriptionResult requestId sessionId status baseline outcome.pendingInteractionCount
          outcome.eventCount outcome.reset) = ⟨outcome.eventCount, []⟩ := if_pos rfl
    have hmiddle := SinceResult.foldl_page sessionId hpage 0
    rw [hcount] at hmiddle
    have hend := SinceResult.foldl_live sessionId (fun frame hframe =>
      hresults frame (List.mem_append_right frames hframe)) []
    have hsplit : frames ++ .syncCompleted requestId :: trailing =
        (frames ++ [.syncCompleted requestId]) ++ trailing := by simp
    rw [hlog, sinceResult_append, List.cons_append, List.foldl_cons, hfirst, hsplit,
      List.foldl_append]
    rw [Nat.add_zero] at hmiddle
    rw [hmiddle, hend, List.nil_append]
  refine ⟨hapart, ⟨by rw [hsince], numbers sessionId self.log ++ numbers sessionId frames,
    by rw [hnew, hsince], ?_⟩, ?_, ?_, ?_, resuming_of_not_concerns next hpc'⟩
  · rw [hcursor, hthrough, hnumbers]
    by_cases hzero : outcome.eventCount = 0
    · rw [hzero]
      simpa using hlast
    · refine .inr ?_
      rw [List.getLast?_append, List.getLast?_range', if_neg hzero]
      simp only [Option.some_or]
      congr 1
      omega
  · rw [hpipeline]
    exact h.ordered
  · rw [hpipeline, hsessions]
    exact h.bounded
  · rw [hlog]
    refine answered_append h.answered ?_
    intro r b i e x hmem
    rcases List.mem_append.mp hmem with hmem | hmem
    · rcases List.mem_cons.mp hmem with heq | hmem
      · cases heq
        exact hstatus rfl
      · have hfalse := hresults _ (List.mem_append_left trailing hmem)
        cases hfalse
    · rcases List.mem_cons.mp hmem with heq | hmem
      · cases heq
      · have hfalse := hresults _ (List.mem_append_right frames hmem)
        cases hfalse

theorem tracked_already {sessionId : SessionId} {self next : NativeSystem Other}
    (h : Tracked codec config sessionId self) {requestId : String} {baseline : EventSequence}
    (hlive : (sinceResult sessionId self.log).live = [])
    (hpc' : next.pc.concerns sessionId = false)
    (hbaseline : self.delivery.cursor sessionId = baseline.get)
    (hlog : next.log = self.log ++
      [.subscriptionResult requestId sessionId .alreadySubscribed baseline 0 0 false])
    (hcollected : next.delivery.collected = []) (hbefore : self.delivery.collected = [])
    (hcursor : next.delivery.cursor sessionId = self.delivery.cursor sessionId)
    (hsessions : next.bridge.sessions = self.bridge.sessions)
    (howed : next.owed codec config sessionId = self.owed codec config sessionId)
    (hapart : Apart sessionId next) : Tracked codec config sessionId next := by
  obtain ⟨-, paged, hsplit, hends⟩ := h.scanned
  have hnew : numbers sessionId next.log = numbers sessionId self.log := by
    rw [hlog, numbers_append, numbers_cons_none rfl, numbers_nil, List.append_nil]
  have hpipeline : next.pipeline codec config sessionId =
      self.pipeline codec config sessionId := by
    rw [pipeline, pipeline, hnew, howed, hcollected, hbefore]
  have hsince : sinceResult sessionId next.log = ⟨0, []⟩ := by
    rw [hlog, sinceResult_append]
    exact if_pos rfl
  rw [hlive, List.append_nil] at hsplit
  have hbelow : ∀ number ∈ numbers sessionId self.log, number ≤ baseline.get := by
    intro number hnumber
    rw [hsplit] at hnumber
    rcases hends with hnone | hlast
    · rw [hnone] at hnumber
      cases hnumber
    · have hordered := (List.pairwise_append.mp (List.pairwise_append.mp h.ordered).1).1
      rw [hsplit] at hordered
      rw [← hbaseline]
      exact le_getLast? hordered hlast number hnumber
  refine ⟨hapart, ⟨by rw [hsince], paged, ?_, by rw [hcursor]; exact hends⟩, ?_, ?_, ?_,
    resuming_of_not_concerns next hpc'⟩
  · rw [hnew, hsince, hsplit, List.append_nil]
  · rw [hpipeline]
    exact h.ordered
  · rw [hpipeline, hsessions]
    exact h.bounded
  · rw [hlog]
    exact answered_already h.answered hbelow requestId 0 0 false

/-- The invariant is kept by every stream step, if a subscribe request for the
session is only served when no live event followed the last result. -/
theorem streamStep_tracked {sessionId : SessionId} {self next : NativeSystem Other}
    (ha : Aligned codec config self) (h : Tracked codec config sessionId self)
    (st : StreamStep codec config sessionId self next)
    (hcaught : ∀ requestId, self.pc = .subscribe requestId sessionId → next.pc ≠ self.pc →
      (sinceResult sessionId self.log).live = []) : Tracked codec config sessionId next := by
  have hapart := streamStep_apart codec config h.apart st
  cases st with
  | still hunseen hpc hpending hmine =>
    refine tracked_unseen codec config h hunseen hapart ?_
    obtain ⟨hnumbers, hsince, -⟩ := unseen_numbers codec config hunseen
    have hresuming := h.resuming
    rw [← hpc] at hresuming
    cases hself : next.pc with
    | subscribeCursor requestId session =>
      rw [hself] at hresuming
      intro hs
      rw [hsince]
      exact hresuming hs
    | subscribeSync requestId session afterSequence =>
      rw [hself] at hresuming
      intro hs
      rw [hsince, hunseen.cursor]
      exact hresuming hs
    | subscribeCommit requestId session outcome =>
      rw [hself] at hresuming
      intro hs
      obtain ⟨hlive, hpage⟩ := hresuming hs
      exact ⟨by rw [hsince]; exact hlive, by rw [hnumbers, hpending]; exact hpage⟩
    | _ => trivial
  | elsewhere hunseen hbefore hafter hdrops hmine =>
    exact tracked_unseen codec config h hunseen hapart (resuming_of_not_concerns next hafter)
  | dropped requestId outcome hunseen hbefore hafter =>
    exact tracked_unseen codec config h hunseen hapart (resuming_of_not_concerns next hafter)
  | reset hbefore hmoved hlog hcollected howed hafter =>
    have hempty : next.pipeline codec config sessionId = [] := by
      simp [pipeline, hlog, hcollected, howed]
    refine ⟨hapart, ⟨by rw [hlog]; rfl, [], by rw [hlog]; rfl, .inl rfl⟩, by rw [hempty]; simp,
      by rw [hempty]; simp, by rw [hlog]; exact answered_nil sessionId,
      resuming_of_not_concerns next hafter⟩
  | published event aggregate hid hreduction hstored hconfig hlog hdelivery hpc hbefore
      hunsubscribed hsubscribed =>
    refine tracked_published codec config h hid hreduction hstored hlog hdelivery hpc hbefore ?_
      hapart
    cases hsub : self.bridge.isSubscribed config.channelId sessionId with
    | false =>
      rw [hunsubscribed hsub]
      exact .inr rfl
    | true =>
      obtain ⟨route, hroute⟩ := hsubscribed hsub
      rw [hroute]
      exact numbers_liveFrames codec hid route aggregate.session
  | handed context message hrest hframe howed hlog hpending hcollected hmine =>
    exact tracked_handed codec config ha h hrest howed hlog hpending hcollected hmine hapart
  | trailed context message requestId outcome frames trailing hrest hframe howed hlog hpc hpending
      hpending' =>
    exact tracked_trailed codec config h hrest howed hlog hpc hpending hpending' hapart
  | already requestId baseline hpc hafter hbaseline hlog hcollected hbefore hcursor hsessions
      howed =>
    have hmoved : next.pc ≠ self.pc := by rw [hpc, hafter]; simp
    exact tracked_already codec config h (hcaught requestId hpc hmoved) (by rw [hafter]; rfl)
      hbaseline hlog hcollected hbefore hcursor hsessions howed hapart
  | began requestId hpc hpc' hlog hunseen =>
    have hmoved : next.pc ≠ self.pc := by rw [hpc, hpc']; simp
    refine tracked_unseen codec config h hunseen hapart ?_
    obtain ⟨-, hsince, -⟩ := unseen_numbers codec config hunseen
    rw [hpc']
    intro _
    rw [hsince]
    exact hcaught requestId hpc hmoved
  | asked requestId hpc hpc' hunseen =>
    refine tracked_unseen codec config h hunseen hapart ?_
    obtain ⟨-, hsince, -⟩ := unseen_numbers codec config hunseen
    have hresuming := h.resuming
    rw [hpc] at hresuming
    rw [hpc']
    intro _
    exact ⟨by rw [hsince]; exact hresuming rfl, hunseen.cursor.symm⟩
  | refused requestId afterSequence e hpc hpc' hunseen =>
    refine tracked_unseen codec config h hunseen hapart ?_
    rw [hpc']
    trivial
  | failed requestId e hpc hquiet hmine hcollected hunseen =>
    exact tracked_unseen codec config h hunseen hapart
      (resuming_of_not_concerns next (WorkerPc.concerns_of_quiet hquiet _))
  | synced requestId afterSequence sync history hpc hpaged hpc' hpending hcollected hlog hcursor
      hsessions hconfig hbefore howed =>
    exact tracked_synced codec config h hpc hpaged hpc' hpending hcollected hlog hcursor hsessions
      hbefore howed hapart
  | committed requestId outcome baseline frames trailing hpc hbaseline hpending hafter hlog
      hcollected hcursor hmine hsessions howed =>
    have hstatus : (if outcome.subscribed then NativeSubscriptionStatus.subscribed
        else .catchingUp) ≠ .alreadySubscribed := by
      split <;> simp
    exact tracked_committed codec config h hstatus hpc hpending (by rw [hafter]; rfl) hlog
      hcollected hcursor hsessions howed hapart

/-- A subscribe request is served only when no live event of its session was
queued since the last result for it. -/
def CaughtUp (self : NativeSystem Other) : NativeInput → Prop
  | .worker _ =>
    match self.pc with
    | .subscribe _ sessionId => (sinceResult sessionId self.log).live = []
    | _ => True
  | _ => True

/-- The session that a subscribe request is about to be served for. -/
def subscribing (self : NativeSystem Other) : Option SessionId :=
  match self.pc with
  | .subscribe _ sessionId => some sessionId
  | _ => none

theorem caughtUp_worker {self : NativeSystem Other} {input : WorkerInput} :
    (∀ sessionId ∈ self.subscribing, (sinceResult sessionId self.log).live = []) ↔
      CaughtUp self (.worker input) := by
  unfold CaughtUp subscribing
  cases self.pc <;> simp

instance (self : NativeSystem Other) : (input : NativeInput) → Decidable (CaughtUp self input)
  | .worker _ => decidable_of_iff _ caughtUp_worker
  | .publish _ _ | .deliver | .foreign _ => isTrue trivial

theorem step_tracked {self : NativeSystem Other} (ha : Aligned codec config self)
    {input : NativeInput} (hcaught : CaughtUp self input)
    (hlimit : WithinLimit codec config otherPorts self input) {sessionId : SessionId}
    (h : Tracked codec config sessionId self) :
    Tracked codec config sessionId (step codec config otherPorts self input).1 := by
  refine streamStep_tracked codec config ha h
    (step_stream codec config otherPorts ha hlimit h.apart) ?_
  intro requestId hpc hmoved
  cases input with
  | worker input =>
    simp only [CaughtUp, hpc] at hcaught
    exact hcaught
  | publish providerId event =>
    exact absurd (step_other codec config otherPorts self (by simp)).1 hmoved
  | deliver => exact absurd (step_other codec config otherPorts self (by simp)).1 hmoved
  | foreign op => exact absurd (step_other codec config otherPorts self (by simp)).1 hmoved

theorem start_tracked (sessionConfig : SessionAggregateConfig) (others : Other)
    (sessionId : SessionId) :
    Tracked codec config sessionId (start config sessionConfig others) := by
  refine ⟨fun _ => rfl, ⟨rfl, [], rfl, .inl rfl⟩, .nil, ?_, answered_nil sessionId, trivial⟩
  intro number hnumber
  cases hnumber

theorem run_tracked (sessionConfig : SessionAggregateConfig) (others : Other)
    {inputs : List NativeInput}
    (h : Trace.Along (step codec config otherPorts)
      (fun self input => CaughtUp self input ∧ WithinLimit codec config otherPorts self input)
      (start config sessionConfig others) inputs) (sessionId : SessionId) :
    Tracked codec config sessionId (run codec config otherPorts sessionConfig others inputs) := by
  have hboth := Trace.along_invariant (step codec config otherPorts) _
    (fun system => Aligned codec config system ∧ Tracked codec config sessionId system)
    (fun self input hself hstep =>
      ⟨step_aligned codec config otherPorts hself.1 input (.inr hstep.2),
        step_tracked codec config otherPorts hself.1 hstep.1 hstep.2 hself.2⟩) h
    ⟨start_aligned codec config sessionConfig others,
      start_tracked codec config sessionConfig others sessionId⟩
  exact hboth.2

/-- In every run that stays within the queue limit and in which each subscribe
request comes before the first live event after the last result of its session:
the events of a session are queued on a connection in increasing order, so each
at most once; a page continues right behind the last event queued; and the
baseline of an already subscribed session is not below an event queued before. -/
theorem run_queues_once (sessionConfig : SessionAggregateConfig) (others : Other)
    (inputs : List NativeInput)
    (hrun : Trace.Along (step codec config otherPorts)
      (fun self input => CaughtUp self input ∧ WithinLimit codec config otherPorts self input)
      (start config sessionConfig others) inputs) (sessionId : SessionId) :
    let reached := run codec config otherPorts sessionConfig others inputs
    (numbers sessionId reached.log).Pairwise (· < ·) ∧
    (∀ requestId outcome pending, reached.pc = .subscribeCommit requestId sessionId outcome →
      reached.delivery.pending? = some pending →
      ∀ last ∈ (numbers sessionId reached.log).getLast?,
        numbers sessionId pending.frames = List.range' (last + 1) outcome.eventCount) ∧
    (∀ before requestId baseline interactions events reset after,
      reached.log = before ++ .subscriptionResult requestId sessionId .alreadySubscribed baseline
        interactions events reset :: after →
      ∀ number ∈ numbers sessionId before, number ≤ baseline.get) := by
  intro reached
  have h := run_tracked codec config otherPorts sessionConfig others hrun sessionId
  refine ⟨(List.pairwise_append.mp (List.pairwise_append.mp h.ordered).1).1, ?_, h.answered⟩
  intro requestId outcome pending hpc hpending last hlast
  have hresuming := h.resuming
  rw [hpc] at hresuming
  obtain ⟨-, start, frames, trailing, hp, hnumbers, -, -, hend⟩ := hresuming rfl
  rw [hpending] at hp
  cases hp
  rcases hend with hnone | hend
  · rw [hnone] at hlast
    cases hlast
  · rw [hend] at hlast
    cases hlast
    exact hnumbers

/-- A page of two events and one live event. -/
theorem run_queues_once_live :
    let inputs := Sample.discovered ++ Sample.subscribing ++ Sample.proceed 1 ++
      Sample.publish (Sample.message 0 2)
    let reached := run Sample.codec (Sample.native 16 (by decide)) Sample.accepting .default ()
      inputs
    numbers (Sample.started 0 0).sessionId reached.log = [1, 2, 3] ∧
      (numbers (Sample.started 0 0).sessionId reached.log).Pairwise (· < ·) := by
  intro inputs reached
  have hnumbers : numbers (Sample.started 0 0).sessionId reached.log = [1, 2, 3] := by
    decide +kernel
  exact ⟨hnumbers, (run_queues_once Sample.codec (Sample.native 16 (by decide)) Sample.accepting
    .default () inputs (by decide +kernel) (Sample.started 0 0).sessionId).1⟩

/-- A live event, an unsubscribe and a second subscribe: the cursor is still at
the first page, and the live event is queued again. -/
theorem resubscribed_event_queued_twice :
    ¬ ∀ (inputs : List NativeInput) (sessionId : SessionId),
      Trace.Along (step Sample.codec (Sample.native 16 (by decide)) Sample.accepting)
        (WithinLimit Sample.codec (Sample.native 16 (by decide)) Sample.accepting)
        (start (Sample.native 16 (by decide)) .default ()) inputs →
      (numbers sessionId (run Sample.codec (Sample.native 16 (by decide)) Sample.accepting .default
        () inputs).log).Nodup := by
  intro h
  have honce := h (Sample.discovered ++ Sample.subscribing ++ Sample.proceed 1 ++
    Sample.publish (Sample.message 0 2) ++ Sample.proceed 9 ++
    Sample.frame (.unsubscribe (Sample.requestId 4) (Sample.started 0 0).sessionId) ++
    Sample.proceed 7 ++
    Sample.frame (.subscribe (Sample.requestId 5) (Sample.started 0 0).sessionId) ++
    Sample.proceed 4) (Sample.started 0 0).sessionId (by decide +kernel)
  revert honce
  decide +kernel

end NativeSystem

end AgentPulse
