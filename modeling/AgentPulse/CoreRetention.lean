import AgentPulse.CoreHistory

/-!
# Retention does not affect meaning

The retained window is the end of the accepted history. Two runs that differ
only in their retention settings return the same results and agree on every
other field, and with everything retained the window alone rebuilds the
aggregate.
-/
namespace AgentPulse

open Trace (final outputs)

theorem popFrontWhileOver_eq_drop (capacity : Nat) (events : List AgentEvent) :
    popFrontWhileOver capacity events = events.drop (events.length - capacity) := by
  induction events with
  | nil => simp [popFrontWhileOver]
  | cons event rest ih =>
    unfold popFrontWhileOver
    by_cases hover : (event :: rest).length > capacity
    · rw [if_pos hover, ih]
      have hlen : (event :: rest).length - capacity = rest.length - capacity + 1 := by
        rw [List.length_cons] at hover ⊢
        omega
      rw [hlen, List.drop_succ_cons]
    · rw [if_neg hover]
      have hzero : (event :: rest).length - capacity = 0 := by omega
      rw [hzero, List.drop_zero]

namespace SessionAggregate

/-- The part of a history that the settings keep. -/
def window (config : SessionAggregateConfig) (history : List AgentEvent) : List AgentEvent :=
  if config.retainAllEvents then history
  else history.drop (history.length - config.recentEventCapacity)

theorem retainedWindow_window (config : SessionAggregateConfig) (history : List AgentEvent)
    (event : AgentEvent) :
    retainedWindow config (window config history) event = window config (history ++ [event]) := by
  unfold retainedWindow window
  cases hall : config.retainAllEvents with
  | true => simp
  | false =>
    simp only [Bool.not_false, Bool.true_and, beq_iff_eq, ↓reduceIte, Bool.false_eq_true]
    by_cases hzero : config.recentEventCapacity = 0
    · simp [hzero]
    · rw [if_neg hzero, popFrontWhileOver_eq_drop]
      have hlen : history.length - (history.length - config.recentEventCapacity) =
          min history.length config.recentEventCapacity := by omega
      have hinner : history.drop (history.length - config.recentEventCapacity) ++ [event] =
          (history ++ [event]).drop (history.length - config.recentEventCapacity) := by
        rw [List.drop_append_of_le_length (by omega)]
      rw [hinner, List.drop_drop, List.length_drop, List.length_append, List.length_singleton]
      congr 1
      omega

theorem reduces_recentEvents {config : SessionAggregateConfig} {history : List AgentEvent}
    {self : SessionAggregate} (h : Reduces config history self) :
    self.recentEvents = window config history := by
  induction h with
  | @initial event self h =>
    obtain ⟨-, session, -, rfl⟩ := fromInitialEvent_ok h
    unfold window
    cases hall : config.retainAllEvents with
    | true => simp
    | false =>
      by_cases hzero : config.recentEventCapacity = 0
      · simp [hzero]
      · have hpos : 0 < config.recentEventCapacity := by omega
        have hlen : 1 - config.recentEventCapacity = 0 := by omega
        simp [hpos, hlen]
  | @applied history self event hr ha ih =>
    obtain ⟨-, -, heq⟩ := apply_applied ha
    have hconfig := (reduces_anchored hr).config
    rw [heq]
    simp only [hconfig, ih]
    exact retainedWindow_window config history event

theorem window_suffix (config : SessionAggregateConfig) (history : List AgentEvent) :
    window config history <:+ history := by
  unfold window
  split
  · exact List.suffix_refl history
  · exact List.drop_suffix _ history

theorem length_window (config : SessionAggregateConfig) (history : List AgentEvent) :
    (window config history).length =
      if config.retainAllEvents then history.length
      else min history.length config.recentEventCapacity := by
  unfold window
  split
  · rfl
  · rw [List.length_drop]
    omega

/-- A reduced history numbers its events from one. -/
def Numbered (history : List AgentEvent) : Prop :=
  history.map (fun event => event.sequence.get) = List.range' 1 history.length

theorem numbered_page {history : List AgentEvent} (h : Numbered history) (first count : Nat) :
    ((history.drop first).take count).map (fun event => event.sequence.get) =
      List.range' (first + 1) (min count (history.length - first)) := by
  rw [List.map_take, List.map_drop, h, List.drop_range']
  have hstart : 1 + first * 1 = first + 1 := by omega
  rw [hstart]
  by_cases hle : count ≤ history.length - first
  · rw [List.take_range'_of_length_ge hle, Nat.min_eq_left hle]
  · have hge : history.length - first ≤ count := by omega
    rw [List.take_range'_of_length_le hge, Nat.min_eq_right hge]

theorem numbered_take {history : List AgentEvent} (h : Numbered history) (count : Nat) :
    Numbered (history.take count) := by
  have hpage := numbered_page h 0 count
  rw [List.drop_zero] at hpage
  unfold Numbered
  rw [hpage, List.length_take]
  rfl

theorem mem_drop_sequence {history : List AgentEvent} (h : Numbered history) {first : Nat}
    {event : AgentEvent} (hmem : event ∈ history.drop first) : first < event.sequence.get := by
  have hpage := numbered_page h first (history.drop first).length
  rw [List.take_length] at hpage
  have hin : event.sequence.get ∈ (history.drop first).map (fun e => e.sequence.get) :=
    List.mem_map.mpr ⟨event, hmem, rfl⟩
  rw [hpage, List.mem_range'_1] at hin
  omega

theorem mem_page_sequence {history : List AgentEvent} (h : Numbered history) {first count : Nat}
    {event : AgentEvent} (hmem : event ∈ (history.drop first).take count) :
    event.sequence.get ≤ first + count := by
  have hin : event.sequence.get ∈ ((history.drop first).take count).map (fun e => e.sequence.get) :=
    List.mem_map.mpr ⟨event, hmem, rfl⟩
  rw [numbered_page h, List.mem_range'_1] at hin
  omega

/-- Skipping the events up to a cursor is dropping them. -/
theorem filter_after {history : List AgentEvent} (h : Numbered history) {first afterSequence : Nat}
    (hle : first ≤ afterSequence) :
    ((history.drop first).filter fun event => decide (event.sequence.get > afterSequence)) =
      history.drop afterSequence := by
  have hsplit : history.drop first =
      (history.drop first).take (afterSequence - first) ++ history.drop afterSequence := by
    have hdrop : history.drop afterSequence =
        (history.drop first).drop (afterSequence - first) := by
      rw [List.drop_drop]
      congr 1
      omega
    rw [hdrop, List.take_append_drop]
  rw [hsplit, List.filter_append]
  have hold : ((history.drop first).take (afterSequence - first)).filter
      (fun event => decide (event.sequence.get > afterSequence)) = [] := by
    rw [List.filter_eq_nil_iff]
    intro event hmem
    have hseq := mem_page_sequence h hmem
    simp only [decide_eq_true_eq]
    omega
  have hnew : (history.drop afterSequence).filter
      (fun event => decide (event.sequence.get > afterSequence)) =
      history.drop afterSequence := by
    rw [List.filter_eq_self]
    intro event hmem
    have hseq := mem_drop_sequence h hmem
    simpa using hseq
  rw [hold, hnew, List.nil_append]

theorem window_eq_drop (config : SessionAggregateConfig) (history : List AgentEvent) :
    window config history = history.drop (history.length - (window config history).length) := by
  obtain ⟨dropped, hsplit⟩ := window_suffix config history
  have hlen : history.length - (window config history).length = dropped.length := by
    rw [← hsplit, List.length_append]
    simp only [hsplit]
    omega
  rw [hlen]
  nth_rewrite 2 [← hsplit]
  rw [List.drop_left]

/-- What a page contains: the events after the cursor, as long as the window
still covers the next one. -/
theorem retainedEventPageAfter_eq {config : SessionAggregateConfig} {history : List AgentEvent}
    {self : SessionAggregate} (h : Reduces config history self) (afterSequence maxEvents : Nat) :
    self.retainedEventPageAfter afterSequence maxEvents =
      if afterSequence = history.length ∨ (afterSequence < history.length ∧
          history.length - self.recentEvents.length ≤ afterSequence) then
        some ((history.drop afterSequence).take maxEvents)
      else none := by
  have hanchor := reduces_anchored h
  have hnumbered : Numbered history := hanchor.sequences
  have hcursor := hanchor.cursor
  have hrecent : self.recentEvents =
      history.drop (history.length - self.recentEvents.length) := by
    rw [reduces_recentEvents h]
    exact window_eq_drop config history
  generalize hfirst : history.length - self.recentEvents.length = first at hrecent
  have hbound := self.lastSequence.bounded
  unfold retainedEventPageAfter
  rw [hcursor]
  by_cases hahead : afterSequence > history.length
  · rw [if_pos hahead, if_neg (by omega)]
  · rw [if_neg hahead]
    by_cases hend : afterSequence = history.length
    · rw [if_pos hend, if_pos (.inl hend), hend, List.drop_length, List.take_nil]
    · rw [if_neg hend, if_neg (by omega)]
      cases hhead : self.recentEvents.head? with
      | none =>
        have hempty : self.recentEvents = [] := List.head?_eq_none_iff.mp hhead
        rw [hempty, List.length_nil] at hfirst
        rw [if_neg (by omega)]
      | some front =>
        have hfront : front.sequence.get = first + 1 := by
          have hpage := numbered_page hnumbered first (history.drop first).length
          rw [List.take_length, ← hrecent] at hpage
          have hmap := congrArg List.head? hpage
          rw [List.head?_map, hhead, List.head?_range'] at hmap
          simp only [Option.map_some] at hmap
          split at hmap
          · cases hmap
          · exact Option.some.inj hmap
        simp only [hfront]
        by_cases hcovered : first ≤ afterSequence
        · rw [if_neg (by omega), if_pos (by omega), hrecent, filter_after hnumbered hcovered]
        · rw [if_pos (by omega), if_neg (by omega)]

/-- The same aggregate with another retention setting and window. -/
def withRetention (self : SessionAggregate) (config : SessionAggregateConfig)
    (recentEvents : List AgentEvent) : SessionAggregate :=
  { self with config := config, recentEvents := recentEvents }

theorem applyPayload_withRetention (self : SessionAggregate) (config : SessionAggregateConfig)
    (recentEvents : List AgentEvent) (event : AgentEvent) :
    (self.withRetention config recentEvents).applyPayload event =
      ((self.applyPayload event).1.withRetention config recentEvents,
        (self.applyPayload event).2) := by
  have hrevision : (self.withRetention config recentEvents).nextSessionRevision =
      self.nextSessionRevision := rfl
  unfold applyPayload
  cases event.payload with
  | sessionStarted session => rfl
  | message message => rfl
  | commandIssued command => rfl
  | stateChanged state =>
    rw [hrevision]
    cases self.nextSessionRevision <;> rfl
  | connectionChanged state =>
    rw [hrevision]
    cases self.nextSessionRevision <;> rfl
  | sessionEnded outcome =>
    rw [hrevision]
    cases self.nextSessionRevision <;> rfl
  | toolActivity activity =>
    cases activity with
    | started callId name summary =>
      by_cases hc : self.activeToolCalls.contains callId <;>
        simp [applyToolActivity, withRetention, hc]
    | finished callId outcome summary =>
      by_cases hc : self.activeToolCalls.contains callId <;>
        simp [applyToolActivity, withRetention, hc]
  | planUpdated plan =>
    have hplan : (self.withRetention config recentEvents).plan = self.plan := rfl
    simp only [hplan]
    cases validateSnapshotRevision .plan (self.plan.map PlanSnapshot.revision) plan.revision <;> rfl
  | progressUpdated progress =>
    have hprogress : (self.withRetention config recentEvents).progress = self.progress := rfl
    simp only [hprogress]
    cases validateSnapshotRevision .progress (self.progress.map ProgressSnapshot.revision)
      progress.revision <;> rfl
  | interactionRequested request =>
    by_cases hc : self.pendingInteractions.contains request.id <;> simp [withRetention, hc]
  | interactionResponded response =>
    have hpending : (self.withRetention config recentEvents).pendingInteractions =
      self.pendingInteractions := rfl
    simp only [hpending]
    cases self.pendingInteractions[response.requestId]? with
    | none => rfl
    | some request =>
      simp only
      cases request.validateResponse response <;> rfl
  | interactionClosed closed =>
    by_cases hc : self.pendingInteractions[closed.requestId]?.isNone <;>
      simp [withRetention, hc]

/-- One call commutes with a change of the retention settings. -/
theorem apply_withRetention (self : SessionAggregate) (config : SessionAggregateConfig)
    (recentEvents : List AgentEvent) (event : AgentEvent) :
    (∃ recentEvents', ((self.withRetention config recentEvents).apply event).1 =
      (self.apply event).1.withRetention config recentEvents') ∧
    (self.apply event).2 = ((self.withRetention config recentEvents).apply event).2 := by
  have hcursor : (self.withRetention config recentEvents).validateCursor event =
      self.validateCursor event := rfl
  unfold apply
  rw [hcursor, applyPayload_withRetention]
  cases self.validateCursor event with
  | error e => exact ⟨⟨recentEvents, rfl⟩, rfl⟩
  | ok retry =>
    cases retry with
    | true => exact ⟨⟨recentEvents, rfl⟩, rfl⟩
    | false =>
      cases self.applyPayload event with
      | mk next result =>
        cases result with
        | error e => exact ⟨⟨recentEvents, rfl⟩, rfl⟩
        | ok u =>
          refine ⟨⟨retainedWindow config recentEvents event, ?_⟩, rfl⟩
          simp only [recordEvent_eq]
          rfl

theorem run_withRetention (self : SessionAggregate) (config : SessionAggregateConfig)
    (recentEvents : List AgentEvent) (calls : List AgentEvent) :
    (∃ recentEvents', final apply (self.withRetention config recentEvents) calls =
      (final apply self calls).withRetention config recentEvents') ∧
    outputs apply self calls = outputs apply (self.withRetention config recentEvents) calls := by
  apply Trace.run_related apply apply
    (fun s t => ∃ recentEvents', t = s.withRetention config recentEvents')
  · rintro s t event ⟨r, rfl⟩
    exact apply_withRetention s config r event
  · exact ⟨recentEvents, rfl⟩

theorem applyAll_append (self : SessionAggregate) (events more : List AgentEvent) :
    self.applyAll (events ++ more) = (self.applyAll events).bind fun next => next.applyAll more := by
  induction events generalizing self with
  | nil => rfl
  | cons event events ih =>
    simp only [List.cons_append, applyAll]
    cases self.apply event with
    | mk next result =>
      cases result with
      | error e => rfl
      | ok outcome => exact ih next

/-- A reduced history replays to the aggregate it was reduced to. -/
theorem reduces_replay {config : SessionAggregateConfig} {history : List AgentEvent}
    {self : SessionAggregate} (h : Reduces config history self) :
    replayWithConfig history config = .ok self := by
  induction h with
  | @initial event self h => simp [replayWithConfig, h, applyAll]
  | @applied history self event hr ha ih =>
    cases history with
    | nil => cases ih
    | cons first rest =>
      simp only [List.cons_append, replayWithConfig] at ih ⊢
      cases hinit : fromInitialEventWithConfig first config with
      | error e => simp [hinit] at ih
      | ok start =>
        simp only [hinit] at ih ⊢
        rw [applyAll_append, ih]
        simp only [Except.bind, applyAll]
        cases hap : self.apply event with
        | mk next result =>
          rw [hap] at ha
          simp only at ha
          subst ha
          rfl

/-- What a run keeps of its history under the given settings. -/
structure Retained (config : SessionAggregateConfig) (history : List AgentEvent)
    (aggregate : SessionAggregate) : Prop where
  suffix : aggregate.recentEvents <:+ history
  length : aggregate.recentEvents.length =
    if config.retainAllEvents then history.length
    else min history.length config.recentEventCapacity
  last : history.getLast? = some aggregate.lastEvent
  replay : config.retainAllEvents = true →
    replayWithConfig aggregate.recentEvents config = .ok aggregate

theorem run_retained {initial : AgentEvent} {config : SessionAggregateConfig}
    {start : SessionAggregate} (h : fromInitialEventWithConfig initial config = .ok start)
    (calls : List AgentEvent) :
    Retained config (initial :: start.accepted calls) (final apply start calls) := by
  have hreduces := reduces_of_run h calls
  have hrecent := reduces_recentEvents hreduces
  refine ⟨?_, ?_, (reduces_anchored hreduces).last, ?_⟩
  · rw [hrecent]
    exact window_suffix config _
  · rw [hrecent]
    exact length_window config _
  · intro hall
    rw [hrecent, window, if_pos hall]
    exact reduces_replay hreduces

/-- Two settings give the same results call by call and aggregates that differ
in the settings and the window alone; each window is the end of the accepted
history that its settings allow. -/
theorem run_retention (initial : AgentEvent) (config config' : SessionAggregateConfig)
    (calls : List AgentEvent) :
    match fromInitialEventWithConfig initial config,
      fromInitialEventWithConfig initial config' with
    | .ok start, .ok start' =>
      outputs apply start calls = outputs apply start' calls ∧
      final apply start' calls = { final apply start calls with
        config := (final apply start' calls).config
        recentEvents := (final apply start' calls).recentEvents } ∧
      Retained config (initial :: start.accepted calls) (final apply start calls) ∧
      Retained config' (initial :: start'.accepted calls) (final apply start' calls)
    | .error e, .error e' => e = e'
    | _, _ => False := by
  cases h : fromInitialEventWithConfig initial config with
  | error e =>
    have h' : fromInitialEventWithConfig initial config' = .error e := by
      unfold fromInitialEventWithConfig at h ⊢
      by_cases hseq : initial.sequence ≠ PositiveCounter.first
      · rwa [if_pos hseq] at h ⊢
      · rw [if_neg hseq] at h ⊢
        cases hp : initial.payload <;> simp_all
    simp [h']
  | ok start =>
    obtain ⟨hseq, session, hp, hstart⟩ := fromInitialEvent_ok h
    have h' : ∃ recentEvents, fromInitialEventWithConfig initial config' =
        .ok (start.withRetention config' recentEvents) := by
      subst hstart
      unfold fromInitialEventWithConfig
      rw [if_neg (not_not.mpr hseq)]
      simp only [hp]
      exact ⟨_, rfl⟩
    obtain ⟨recentEvents, h'⟩ := h'
    obtain ⟨⟨recentEvents', hfinal⟩, houts⟩ := run_withRetention start config' recentEvents calls
    have hretained := run_retained h calls
    have hretained' := run_retained h' calls
    rw [h']
    simp only
    refine ⟨houts, ?_, hretained, hretained'⟩
    rw [hfinal]
    rfl

end SessionAggregate

end AgentPulse
