import AgentPulse.CoreEvent
import AgentPulse.OrderedMap
import AgentPulse.Trace

/-!
# Deterministic reduction of session events

`SessionAggregate.apply` is the reducer with its mutations in the order of the
source: every function that takes the aggregate by mutable reference returns
the aggregate it leaves behind next to its result, also when it fails. The
retained window is a list, oldest event first.
-/
namespace AgentPulse

open Std (ExtTreeMap)

inductive SnapshotKind where
  | plan | progress
  deriving DecidableEq, Repr

inductive ReduceError where
  | emptyReplay
  | invalidInitialSequence (actual : EventSequence)
  | initialEventNotSessionStarted
  | sessionMismatch (expected actual : SessionId)
  | staleSequence (last actual : EventSequence)
  | sequenceConflict (sequence : EventSequence) (expectedEventId actualEventId : EventId)
  | sequenceGap (expected actual : EventSequence)
  | sequenceExhausted
  | unexpectedSessionStarted
  | staleRevision (snapshot : SnapshotKind) (current incoming : Revision)
  | sessionRevisionExhausted
  | toolAlreadyActive (callId : ToolCallId)
  | toolNotActive (callId : ToolCallId)
  | interactionAlreadyPending (interactionId : InteractionId)
  | interactionNotPending (interactionId : InteractionId)
  | invalidInteractionResponse (interactionId : InteractionId) (source : DomainError)
  deriving DecidableEq, Repr

inductive ApplyOutcome where
  | applied | alreadyApplied
  deriving DecidableEq, Repr

structure SessionAggregateConfig where
  recentEventCapacity : Nat
  retainAllEvents : Bool
  deriving DecidableEq, Repr

namespace SessionAggregateConfig

def defaultRecentEventCapacity : Nat := 256

/-- Capacity zero disables the retained window. -/
def new (recentEventCapacity : Nat) : SessionAggregateConfig := ⟨recentEventCapacity, false⟩

def retainAll : SessionAggregateConfig := ⟨0, true⟩

def default : SessionAggregateConfig := new defaultRecentEventCapacity

end SessionAggregateConfig

structure ActiveToolCall where
  id : ToolCallId
  name : NonEmptyText
  summary : Option NonEmptyText
  startedAt : Timestamp
  deriving DecidableEq, Repr

structure SessionAggregate where
  config : SessionAggregateConfig
  session : AgentSession
  plan : Option PlanSnapshot
  progress : Option ProgressSnapshot
  activeToolCalls : ExtTreeMap ToolCallId ActiveToolCall
  pendingInteractions : ExtTreeMap InteractionId InteractionRequest
  latestOutcome : Option SessionOutcome
  lastEvent : AgentEvent
  recentEvents : List AgentEvent

def outcomeAgentState : SessionOutcome → AgentState
  | .completed _ => .completed
  | .failed _ => .failed
  | .cancelled _ => .cancelled

/-- `while recent.len() > capacity { recent.pop_front() }`. -/
def popFrontWhileOver (capacity : Nat) : List AgentEvent → List AgentEvent
  | [] => []
  | event :: rest =>
    if (event :: rest).length > capacity then popFrontWhileOver capacity rest else event :: rest

namespace SessionAggregate

def lastSequence (self : SessionAggregate) : EventSequence := self.lastEvent.sequence

/-- The only constructor: a sequence-one `sessionStarted` event. -/
def fromInitialEventWithConfig (initialEvent : AgentEvent) (config : SessionAggregateConfig) :
    Except ReduceError SessionAggregate :=
  if initialEvent.sequence ≠ PositiveCounter.first then
    .error (.invalidInitialSequence initialEvent.sequence)
  else
    match initialEvent.payload with
    | .sessionStarted session =>
      .ok {
        config := config
        session := session
        plan := none
        progress := none
        activeToolCalls := ∅
        pendingInteractions := ∅
        latestOutcome := none
        lastEvent := initialEvent
        recentEvents :=
          if config.retainAllEvents || decide (config.recentEventCapacity > 0) then [initialEvent]
          else [] }
    | _ => .error .initialEventNotSessionStarted

/-- `true` for an exact retry of the last event, `false` for the next event. -/
def validateCursor (self : SessionAggregate) (event : AgentEvent) : Except ReduceError Bool :=
  if event.sessionId ≠ self.session.id then
    .error (.sessionMismatch self.session.id event.sessionId)
  else if event.sequence < self.lastSequence then
    .error (.staleSequence self.lastSequence event.sequence)
  else if event.sequence = self.lastSequence then
    if event = self.lastEvent then .ok true
    else .error (.sequenceConflict event.sequence self.lastEvent.id event.id)
  else
    match self.lastSequence.checkedNext with
    | none => .error .sequenceExhausted
    | some expected =>
      if event.sequence ≠ expected then .error (.sequenceGap expected event.sequence)
      else .ok false

def nextSessionRevision (self : SessionAggregate) : Except ReduceError Revision :=
  match self.session.revision.checkedNext with
  | none => .error .sessionRevisionExhausted
  | some revision => .ok revision

def validateSnapshotRevision (snapshot : SnapshotKind) (current : Option Revision)
    (incoming : Revision) : Except ReduceError Unit :=
  match current with
  | none => .ok ()
  | some current =>
    if incoming ≤ current then .error (.staleRevision snapshot current incoming) else .ok ()

def applyToolActivity (self : SessionAggregate) (activity : ToolActivity) (occurredAt : Timestamp) :
    SessionAggregate × Except ReduceError Unit :=
  match activity with
  | .started callId name summary =>
    if self.activeToolCalls.contains callId then (self, .error (.toolAlreadyActive callId))
    else
      ({ self with activeToolCalls :=
          self.activeToolCalls.insert callId ⟨callId, name, summary, occurredAt⟩ }, .ok ())
  | .finished callId _ _ =>
    if !self.activeToolCalls.contains callId then (self, .error (.toolNotActive callId))
    else ({ self with activeToolCalls := self.activeToolCalls.erase callId }, .ok ())

/-- The match over all payloads in the body of `apply`. A closed interaction is
removed before the check that it was pending, as in the source. -/
def applyPayload (self : SessionAggregate) (event : AgentEvent) :
    SessionAggregate × Except ReduceError Unit :=
  match event.payload with
  | .sessionStarted _ => (self, .error .unexpectedSessionStarted)
  | .stateChanged state =>
    match self.nextSessionRevision with
    | .error e => (self, .error e)
    | .ok revision =>
      ({ self with session := self.session.observeState state revision event.occurredAt }, .ok ())
  | .connectionChanged connectionState =>
    match self.nextSessionRevision with
    | .error e => (self, .error e)
    | .ok revision =>
      ({ self with session :=
          self.session.observeConnectionState connectionState revision event.occurredAt }, .ok ())
  | .message _ => (self, .ok ())
  | .commandIssued _ => (self, .ok ())
  | .toolActivity activity => self.applyToolActivity activity event.occurredAt
  | .planUpdated plan =>
    match validateSnapshotRevision .plan (self.plan.map PlanSnapshot.revision) plan.revision with
    | .error e => (self, .error e)
    | .ok () => ({ self with plan := some plan }, .ok ())
  | .progressUpdated progress =>
    match validateSnapshotRevision .progress (self.progress.map ProgressSnapshot.revision)
        progress.revision with
    | .error e => (self, .error e)
    | .ok () => ({ self with progress := some progress }, .ok ())
  | .interactionRequested request =>
    if self.pendingInteractions.contains request.id then
      (self, .error (.interactionAlreadyPending request.id))
    else
      ({ self with pendingInteractions := self.pendingInteractions.insert request.id request },
        .ok ())
  | .interactionResponded response =>
    match self.pendingInteractions[response.requestId]? with
    | none => (self, .error (.interactionNotPending response.requestId))
    | some request =>
      match request.validateResponse response with
      | .error source => (self, .error (.invalidInteractionResponse response.requestId source))
      | .ok () =>
        ({ self with pendingInteractions := self.pendingInteractions.erase response.requestId },
          .ok ())
  | .interactionClosed closed =>
    let removed := self.pendingInteractions[closed.requestId]?
    let self := { self with pendingInteractions := self.pendingInteractions.erase closed.requestId }
    if removed.isNone then (self, .error (.interactionNotPending closed.requestId))
    else (self, .ok ())
  | .sessionEnded outcome =>
    match self.nextSessionRevision with
    | .error e => (self, .error e)
    | .ok revision =>
      ({ self with
          session :=
            self.session.observeState (outcomeAgentState outcome) revision event.occurredAt
          latestOutcome := some outcome
          activeToolCalls := ∅
          pendingInteractions := ∅ }, .ok ())

def recordEvent (self : SessionAggregate) (event : AgentEvent) : SessionAggregate :=
  let self := { self with lastEvent := event }
  if !self.config.retainAllEvents && self.config.recentEventCapacity == 0 then self
  else
    let recentEvents := self.recentEvents ++ [event]
    { self with recentEvents :=
        if !self.config.retainAllEvents then
          popFrontWhileOver self.config.recentEventCapacity recentEvents
        else recentEvents }

def apply (self : SessionAggregate) (event : AgentEvent) :
    SessionAggregate × Except ReduceError ApplyOutcome :=
  match self.validateCursor event with
  | .error e => (self, .error e)
  | .ok true => (self, .ok .alreadyApplied)
  | .ok false =>
    match self.applyPayload event with
    | (self, .error e) => (self, .error e)
    | (self, .ok ()) => (self.recordEvent event, .ok .applied)

/-- `for event in events { aggregate.apply(event)?; }`. -/
def applyAll (self : SessionAggregate) : List AgentEvent → Except ReduceError SessionAggregate
  | [] => .ok self
  | event :: events =>
    match self.apply event with
    | (_, .error e) => .error e
    | (self, .ok _) => self.applyAll events

def replayWithConfig (events : List AgentEvent) (config : SessionAggregateConfig) :
    Except ReduceError SessionAggregate :=
  match events with
  | [] => .error .emptyReplay
  | initialEvent :: events =>
    match fromInitialEventWithConfig initialEvent config with
    | .error e => .error e
    | .ok aggregate => aggregate.applyAll events

/-- At most `maxEvents` retained events after a cursor. Nothing is returned when
the cursor is ahead or the window no longer covers the next event. -/
def retainedEventPageAfter (self : SessionAggregate) (afterSequence maxEvents : Nat) :
    Option (List AgentEvent) :=
  if afterSequence > self.lastSequence.get then none
  else if afterSequence = self.lastSequence.get then some []
  else if afterSequence + 1 ≥ 2 ^ 64 then none
  else
    match self.recentEvents.head? with
    | none => none
    | some front =>
      if front.sequence.get > afterSequence + 1 then none
      else
        some ((self.recentEvents.filter fun event =>
          decide (event.sequence.get > afterSequence)).take maxEvents)

/-- A rejected payload leaves the aggregate as it was. Only the closed
interaction is removed before its check, and an absent key removes nothing. -/
theorem applyPayload_error {self : SessionAggregate} {event : AgentEvent} {e : ReduceError}
    (h : (self.applyPayload event).2 = .error e) : (self.applyPayload event).1 = self := by
  unfold applyPayload at h ⊢
  cases hp : event.payload with
  | sessionStarted session => rfl
  | message message => rfl
  | commandIssued command => rfl
  | stateChanged state =>
    simp only [hp] at h ⊢
    cases hr : self.nextSessionRevision <;> simp_all
  | connectionChanged state =>
    simp only [hp] at h ⊢
    cases hr : self.nextSessionRevision <;> simp_all
  | sessionEnded outcome =>
    simp only [hp] at h ⊢
    cases hr : self.nextSessionRevision <;> simp_all
  | toolActivity activity =>
    simp only [hp, applyToolActivity] at h ⊢
    cases activity with
    | started callId name summary =>
      simp only at h ⊢
      split <;> simp_all
    | finished callId outcome summary =>
      simp only at h ⊢
      split <;> simp_all
  | planUpdated plan =>
    simp only [hp] at h ⊢
    split <;> simp_all
  | progressUpdated progress =>
    simp only [hp] at h ⊢
    split <;> simp_all
  | interactionRequested request =>
    simp only [hp] at h ⊢
    split <;> simp_all
  | interactionResponded response =>
    simp only [hp] at h ⊢
    split
    · rfl
    · split <;> simp_all
  | interactionClosed closed =>
    simp only [hp] at h ⊢
    cases hr : self.pendingInteractions[closed.requestId]? with
    | none => simp [OrderedMap.erase_absent hr]
    | some request => simp [hr] at h

/-- The complete behaviour of one call: an exact retry, a rejection that leaves
the aggregate alone, or an accepted event that is reduced and then recorded. -/
theorem apply_cases (self : SessionAggregate) (event : AgentEvent) :
    (self.validateCursor event = .ok true ∧ self.apply event = (self, .ok .alreadyApplied)) ∨
    (∃ e, self.apply event = (self, .error e)) ∨
    (self.validateCursor event = .ok false ∧ (self.applyPayload event).2 = .ok () ∧
      self.apply event = ((self.applyPayload event).1.recordEvent event, .ok .applied)) := by
  unfold apply
  cases hv : self.validateCursor event with
  | error e => exact .inr (.inl ⟨e, rfl⟩)
  | ok retry =>
    cases retry with
    | true => exact .inl ⟨rfl, rfl⟩
    | false =>
      cases hp : self.applyPayload event with
      | mk next result =>
        cases result with
        | error e =>
          have hn : next = self := by
            have herror : (self.applyPayload event).2 = .error e := by rw [hp]
            have hsame := applyPayload_error herror
            rwa [hp] at hsame
          exact .inr (.inl ⟨e, by simp [hn]⟩)
        | ok u => exact .inr (.inr ⟨rfl, rfl, rfl⟩)

/-- The cursor accepts exactly the last event itself as a retry. -/
theorem validateCursor_retry_iff (self : SessionAggregate) (event : AgentEvent)
    (hs : self.lastEvent.sessionId = self.session.id) :
    self.validateCursor event = .ok true ↔ event = self.lastEvent := by
  constructor
  · intro h
    unfold validateCursor at h
    repeat' split at h
    all_goals simp_all
  · rintro rfl
    unfold validateCursor
    have hseq : self.lastEvent.sequence = self.lastSequence := rfl
    rw [if_neg (by simp [hs]), if_neg (by rw [PositiveCounter.lt_iff, hseq]; omega),
      if_pos hseq, if_pos rfl]

/-- An accepted cursor is the session's own next sequence. -/
theorem validateCursor_next {self : SessionAggregate} {event : AgentEvent}
    (h : self.validateCursor event = .ok false) :
    event.sessionId = self.session.id ∧ event.sequence.get = self.lastSequence.get + 1 := by
  unfold validateCursor at h
  split at h
  · cases h
  · next hs =>
    split at h
    · cases h
    · split at h
      · split at h <;> cases h
      · split at h
        · cases h
        · next expected hn =>
          split at h
          · cases h
          · next he =>
            have he : event.sequence = expected := not_not.mp he
            exact ⟨not_not.mp hs, by rw [he, PositiveCounter.checkedNext_get hn]⟩

/-- The session's own next sequence passes the cursor. -/
theorem validateCursor_of_next {self : SessionAggregate} {event : AgentEvent}
    (hs : event.sessionId = self.session.id)
    (hseq : event.sequence.get = self.lastSequence.get + 1) :
    self.validateCursor event = .ok false := by
  have hnext : self.lastSequence.checkedNext = some event.sequence := by
    have hbounded := event.sequence.bounded
    unfold PositiveCounter.checkedNext
    rw [dif_pos (by omega)]
    exact congrArg some (PositiveCounter.ext_get hseq.symm)
  have hne : event.sequence ≠ self.lastSequence := by
    intro he
    rw [he] at hseq
    omega
  unfold validateCursor
  rw [if_neg (not_not.mpr hs), if_neg (by rw [PositiveCounter.lt_iff]; omega), if_neg hne, hnext]
  simp

end SessionAggregate

end AgentPulse
