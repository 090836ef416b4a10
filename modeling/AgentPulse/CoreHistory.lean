import AgentPulse.CoreAggregate

/-!
# The aggregate as a function of its accepted history

`Reduces config history aggregate` says that the aggregate was reduced from
exactly the accepted events `history`, oldest first and the initial event
included. Every run of `apply` is such a reduction, whatever rejected and
repeated events it contains, and every derived field of the aggregate is read
off the history alone.
-/
namespace AgentPulse

open Trace (LatestSince final selected latestSince_snoc latestSince_nil)

namespace SessionAggregate

/-- The retained window after one more event. -/
def retainedWindow (config : SessionAggregateConfig) (recent : List AgentEvent)
    (event : AgentEvent) : List AgentEvent :=
  if !config.retainAllEvents && config.recentEventCapacity == 0 then recent
  else if !config.retainAllEvents then
    popFrontWhileOver config.recentEventCapacity (recent ++ [event])
  else recent ++ [event]

theorem recordEvent_eq (self : SessionAggregate) (event : AgentEvent) :
    self.recordEvent event = { self with
      lastEvent := event
      recentEvents := retainedWindow self.config self.recentEvents event } := by
  unfold recordEvent retainedWindow
  simp only
  split <;> rfl

/-- Reducing a payload never touches the settings, the last event, the retained
window or the identity of the session. -/
theorem applyPayload_frame (self : SessionAggregate) (event : AgentEvent) :
    (self.applyPayload event).1.config = self.config ∧
    (self.applyPayload event).1.lastEvent = self.lastEvent ∧
    (self.applyPayload event).1.recentEvents = self.recentEvents ∧
    (self.applyPayload event).1.session.id = self.session.id ∧
    (self.applyPayload event).1.session.providerId = self.session.providerId ∧
    (self.applyPayload event).1.session.createdAt = self.session.createdAt := by
  unfold applyPayload
  cases event.payload with
  | sessionStarted session => simp
  | message message => simp
  | commandIssued command => simp
  | stateChanged state => cases self.nextSessionRevision <;> simp [AgentSession.observeState]
  | connectionChanged state =>
    cases self.nextSessionRevision <;> simp [AgentSession.observeConnectionState]
  | sessionEnded outcome => cases self.nextSessionRevision <;> simp [AgentSession.observeState]
  | toolActivity activity =>
    cases activity <;> simp only [applyToolActivity] <;> split <;> simp
  | planUpdated plan => simp only; split <;> simp
  | progressUpdated progress => simp only; split <;> simp
  | interactionRequested request => simp only; split <;> simp
  | interactionResponded response =>
    simp only
    split
    · simp
    · split <;> simp
  | interactionClosed closed => simp only; split <;> simp

/-- Everything `apply` does to an aggregate when it accepts an event. -/
theorem apply_applied {self : SessionAggregate} {event : AgentEvent}
    (h : (self.apply event).2 = .ok .applied) :
    self.validateCursor event = .ok false ∧ (self.applyPayload event).2 = .ok () ∧
      (self.apply event).1 = { (self.applyPayload event).1 with
        lastEvent := event
        recentEvents := retainedWindow self.config self.recentEvents event } := by
  rcases apply_cases self event with ⟨-, he⟩ | ⟨e, he⟩ | ⟨hv, hp, he⟩
  · rw [he] at h; cases h
  · rw [he] at h; cases h
  · obtain ⟨hc, -, hr, -⟩ := applyPayload_frame self event
    refine ⟨hv, hp, ?_⟩
    rw [he, recordEvent_eq]
    simp only [hc, hr]

/-- Anything but an accepted event leaves the aggregate alone. -/
theorem apply_not_applied {self : SessionAggregate} {event : AgentEvent}
    (h : (self.apply event).2 ≠ .ok .applied) : (self.apply event).1 = self := by
  rcases apply_cases self event with ⟨-, he⟩ | ⟨e, he⟩ | ⟨-, -, he⟩
  · rw [he]
  · rw [he]
  · rw [he] at h; exact absurd rfl h

/-- The test that picks the accepted calls of a run. -/
def isApplied (result : Except ReduceError ApplyOutcome) : Bool := decide (result = .ok .applied)

/-- The events that a run of `apply` accepts, in order. -/
def accepted (self : SessionAggregate) (calls : List AgentEvent) : List AgentEvent :=
  selected apply isApplied self calls

inductive Reduces (config : SessionAggregateConfig) :
    List AgentEvent → SessionAggregate → Prop where
  | initial {event : AgentEvent} {self : SessionAggregate} :
      fromInitialEventWithConfig event config = .ok self → Reduces config [event] self
  | applied {history : List AgentEvent} {self : SessionAggregate} {event : AgentEvent} :
      Reduces config history self → (self.apply event).2 = .ok .applied →
      Reduces config (history ++ [event]) (self.apply event).1

theorem reduces_run {config : SessionAggregateConfig} {history : List AgentEvent}
    {self : SessionAggregate} (h : Reduces config history self) (calls : List AgentEvent) :
    Reduces config (history ++ self.accepted calls) (final apply self calls) := by
  apply Trace.selected_invariant apply isApplied (Reduces config)
  · intro past s event hs ht
    exact .applied hs (of_decide_eq_true ht)
  · intro past s event hs ht
    rw [apply_not_applied (of_decide_eq_false ht)]
    exact hs
  · exact h

/-- A run from an initial event, with any accepted, rejected and repeated calls,
reduces its initial event followed by the accepted calls. -/
theorem reduces_of_run {config : SessionAggregateConfig} {event : AgentEvent}
    {self : SessionAggregate} (h : fromInitialEventWithConfig event config = .ok self)
    (calls : List AgentEvent) :
    Reduces config (event :: self.accepted calls) (final apply self calls) := by
  simpa using reduces_run (.initial h) calls

/-- What construction from an initial event fixes. -/
theorem fromInitialEvent_ok {config : SessionAggregateConfig} {event : AgentEvent}
    {self : SessionAggregate} (h : fromInitialEventWithConfig event config = .ok self) :
    event.sequence = PositiveCounter.first ∧
    ∃ session, event.payload = .sessionStarted session ∧ self = {
      config := config
      session := session
      plan := none
      progress := none
      activeToolCalls := ∅
      pendingInteractions := ∅
      latestOutcome := none
      lastEvent := event
      recentEvents :=
        if config.retainAllEvents || decide (config.recentEventCapacity > 0) then [event]
        else [] } := by
  unfold fromInitialEventWithConfig at h
  split at h
  · cases h
  · next hs =>
    split at h
    · next session hp => cases h; exact ⟨not_not.mp hs, session, hp, rfl⟩
    · cases h

/-- The identity of a reduction: its settings, its session and its cursor. -/
structure Anchored (config : SessionAggregateConfig) (history : List AgentEvent)
    (aggregate : SessionAggregate) : Prop where
  config : aggregate.config = config
  last : history.getLast? = some aggregate.lastEvent
  sessionIds : ∀ event ∈ history, event.sessionId = aggregate.session.id
  sequences : history.map (fun event => event.sequence.get) = List.range' 1 history.length
  cursor : aggregate.lastSequence.get = history.length

theorem reduces_anchored {config : SessionAggregateConfig} {history : List AgentEvent}
    {self : SessionAggregate} (h : Reduces config history self) :
    Anchored config history self := by
  induction h with
  | initial h =>
    obtain ⟨hs, session, hp, rfl⟩ := fromInitialEvent_ok h
    refine ⟨rfl, rfl, ?_, by simp [hs], by simp [lastSequence, hs]⟩
    intro event he
    rw [List.mem_singleton.mp he]
    exact (AgentEvent.session_id_eq _ hp).symm
  | @applied history self event hr ha ih =>
    obtain ⟨hv, -, heq⟩ := apply_applied ha
    obtain ⟨hsid, hseq⟩ := validateCursor_next hv
    obtain ⟨hc, -, -, hid, -⟩ := applyPayload_frame self event
    have hcur := ih.cursor
    rw [heq]
    refine ⟨by rw [hc, ih.config], by simp, ?_, ?_, by simp [lastSequence]; omega⟩
    · intro e he
      rcases List.mem_append.mp he with he | he
      · rw [ih.sessionIds e he, hid]
      · rw [List.mem_singleton.mp he, hsid, hid]
    · rw [List.map_append, ih.sequences, List.length_append, List.length_singleton,
        List.range'_concat]
      simp; omega

/-- A call that returns an error or recognizes a retry leaves every field of the
aggregate as it was, and a retry is recognized exactly for the event that was
applied last. -/
theorem apply_atomic {initial : AgentEvent} {config : SessionAggregateConfig}
    {start : SessionAggregate} (h : fromInitialEventWithConfig initial config = .ok start)
    (calls : List AgentEvent) (event : AgentEvent) :
    (∀ e, ((final apply start calls).apply event).2 = .error e →
      ((final apply start calls).apply event).1 = final apply start calls) ∧
    (((final apply start calls).apply event).2 = .ok .alreadyApplied →
      ((final apply start calls).apply event).1 = final apply start calls) ∧
    (((final apply start calls).apply event).2 = .ok .alreadyApplied ↔
      (initial :: start.accepted calls).getLast? = some event) := by
  have hanchor := reduces_anchored (reduces_of_run h calls)
  have hsid := hanchor.sessionIds _ (List.mem_of_getLast? hanchor.last)
  generalize final apply start calls = self at *
  refine ⟨?_, ?_, ?_⟩
  · intro e he
    exact apply_not_applied (by rw [he]; simp)
  · intro he
    exact apply_not_applied (by rw [he]; simp)
  · rw [hanchor.last, Option.some_inj, eq_comm (b := event),
      ← validateCursor_retry_iff self event hsid]
    rcases apply_cases self event with ⟨hv, he⟩ | ⟨e, he⟩ | ⟨hv, -, he⟩
    · simp [hv, he]
    · constructor
      · intro ha
        rw [he] at ha
        cases ha
      · intro hv
        simp only [apply, hv] at he
        cases he
    · simp [hv, he]

theorem apply_atomic_started :
    ∃ start, fromInitialEventWithConfig (Sample.started 0 0) (.new 1) = .ok start ∧
      (((final apply start [Sample.message 0 1]).apply (Sample.message 0 1)).2 =
        .ok .alreadyApplied ↔
        (Sample.started 0 0 :: start.accepted [Sample.message 0 1]).getLast? =
          some (Sample.message 0 1)) :=
  ⟨_, rfl, (apply_atomic rfl [Sample.message 0 1] (Sample.message 0 1)).2.2⟩

end SessionAggregate

end AgentPulse
