import AgentPulse.CodexMapper

/-!
# What the sections of the mapper write

Every operation of the mapper is made of a few kinds of writes. An invariant that
the common kinds keep is kept by an operation as soon as it is kept by the
operation's own writes to the running turn. Those are named here.
-/
namespace AgentPulse

namespace Codex

open Std (ExtTreeMap)
open Program (Preserves bind_apply)
open Serde (Json)

namespace Mapping

/-- A turn is started: what the thread kept of the turn before is dropped. -/
def startTurn (threadId turnId : String) (m : CodexEventMapper) : CodexEventMapper :=
  m.updateThread threadId fun mapping =>
    { mapping with
      activeTurnId := some turnId
      lastMessage := none
      lastFinalMessage := none
      proposedPlan := none
      planReady := false }

/-- A message is kept for the summary of the turn, and a plan for its end. -/
def keepMessage (threadId : String) (item : Value) (itemType text : String) (content : NonEmptyText)
    (m : CodexEventMapper) : CodexEventMapper :=
  m.updateThread threadId fun mapping =>
    { mapping with
      lastMessage := some content
      proposedPlan := if itemType = "plan" then some text else mapping.proposedPlan
      lastFinalMessage :=
        if (item.get "phase").bind Json.asStr = some "final_answer" then some content
        else mapping.lastFinalMessage }

def endTurn (threadId : String) (m : CodexEventMapper) : CodexEventMapper :=
  m.updateThread threadId fun mapping => { mapping with activeTurnId := none }

/-- A repeated resume takes over the turn that its payload lists. -/
def believeTurn (threadId : String) (activeTurn : Option String) (m : CodexEventMapper) :
    CodexEventMapper :=
  m.updateThread threadId fun mapping =>
    { mapping with
      activeTurnId := activeTurn
      lastMessage := if activeTurn.isNone then none else mapping.lastMessage
      lastFinalMessage := if activeTurn.isNone then none else mapping.lastFinalMessage }

end Mapping

/-- An invariant that the writes besides those of the running turn keep. -/
structure Steady {B : Type} (host : ProviderHost B) (I : MapperState B → Prop) : Prop where
  nowUtc : Preserves I (Mapping.nowUtc host)
  newId : ∀ k, Preserves I (Mapping.newId host k)
  publishTracked : ∀ threadId occurredAt payload,
    Preserves I (Mapping.publishTracked host threadId occurredAt payload)
  choices : ∀ f : CodexEventMapper → ExtTreeMap InteractionId (String × Bool),
    Preserves I (Mapping.onMapper fun m => { m with localChoices := f m } : Mapping B Unit)
  items : ∀ f : CodexEventMapper → ExtTreeMap ItemKey Value,
    Preserves I (Mapping.onMapper fun m => { m with items := f m } : Mapping B Unit)
  settings : ∀ threadId model reasoningEffort,
    Preserves I (Mapping.onMapper fun m => m.updateThread threadId fun mapping =>
      { mapping with model := model, reasoningEffort := reasoningEffort } : Mapping B Unit)
  planReady : ∀ threadId value,
    Preserves I (Mapping.onMapper fun m => m.updateThread threadId fun mapping =>
      { mapping with planReady := value } : Mapping B Unit)

/-- The event that a publication builds. -/
theorem event_of_new {id : EventId} {session : SessionId} {sequence : EventSequence}
    {occurredAt : Timestamp} {payload : AgentEventPayload} {event : AgentEvent}
    (h : domain (AgentEvent.new id session sequence occurredAt payload) = .ok event) :
    event.sessionId = session ∧ event.sequence = sequence ∧ event.payload = payload := by
  have hnew : AgentEvent.new id session sequence occurredAt payload = .ok event :=
    Fallible.mapError_eq_ok.mp h
  unfold AgentEvent.new at hnew
  split at hnew
  · cases hnew
    exact ⟨rfl, rfl, rfl⟩
  · split at hnew
    · cases hnew
      exact ⟨rfl, rfl, rfl⟩
    · cases hnew

theorem domain_text {text : String} (h : isBlank text = false) :
    domain (NonEmptyText.new text) = .ok ⟨text, h⟩ := by
  simp [domain, NonEmptyText.new, h, Except.mapError]

namespace Mapping

variable {B : Type} {host : ProviderHost B} {I : MapperState B → Prop}

theorem string_of_ok {value : Value} {field text : String}
    (h : stringField value field = .ok text) : (value.get field).bind Json.asStr = some text := by
  unfold stringField at h
  split at h
  · next found hfound =>
    cases h
    exact hfound
  · cases h

/-- What the two field readers found. -/
theorem fields_of_ok {params entry : Value} {field id : String}
    (hentry : objectField params field = .ok entry) (hid : stringField entry "id" = .ok id) :
    params.get field = some entry ∧ (entry.get "id").bind Json.asStr = some id := by
  refine ⟨?_, string_of_ok hid⟩
  unfold objectField at hentry
  split at hentry
  · next found hfound =>
    split at hentry
    · cases hentry
      exact hfound
    · cases hentry
  · cases hentry

theorem nestedId_of_fields {params entry : Value} {field id : String}
    (hentry : objectField params field = .ok entry) (hid : stringField entry "id" = .ok id) :
    nestedId params field = some id := by
  obtain ⟨hget, hstr⟩ := fields_of_ok hentry hid
  unfold nestedId
  rw [hget]
  exact hstr

theorem trackedThread_of_some {s : MapperState B} {threadId : String}
    {mapping : ThreadMapping} (h : s.mapper.threads[threadId]? = some mapping) :
    (trackedThread threadId : Mapping B ThreadMapping) s = (.ok mapping, s) := by
  unfold trackedThread
  simp only [bind_apply, Program.reads, h]
  rfl

theorem trackedThread_of_none {s : MapperState B} {threadId : String}
    (h : s.mapper.threads[threadId]? = none) :
    (trackedThread threadId : Mapping B ThreadMapping) s =
      (.error (.protocol "tracked thread disappeared"), s) := by
  unfold trackedThread
  simp only [bind_apply, Program.reads, h]
  rfl

/-- What follows the check of a completed turn. -/
def finishTurn (host : ProviderHost B) (threadId turnId : String) (completed : Value) :
    Mapping B MappingDisposition := do
  let turnStatus ← Program.ofExcept (stringField completed "status")
  let completedAt ← Program.ofExcept (optionalI64Field completed "completedAt")
  let timestamp ← timestampSeconds host completedAt
  let mapping ← trackedThread threadId
  let outcome ← Program.ofExcept
    (turnOutcome completed turnStatus (mapping.lastFinalMessage.or mapping.lastMessage))
  let proposed := turnStatus = "completed" ∧ mapping.proposedPlan.isSome
  onMapper fun m => m.updateThread threadId fun mapping =>
    { mapping with planReady := decide proposed }
  publishPayload host threadId timestamp
    (if proposed then .stateChanged .waitingForInteraction else .sessionEnded outcome)
  onMapper fun m => m.updateThread threadId fun mapping => { mapping with activeTurnId := none }
  onMapper fun m =>
    { m with items := m.items.filter fun key _ =>
        key.threadId ≠ threadId ∨ key.turnId ≠ turnId }
  pure .mapped

variable (h : Steady host I)

include h

theorem steady_timestampOr (value : Option Int) (multiplier : Int) :
    Preserves I (timestampOr host value multiplier) := by
  cases value with
  | none => exact h.nowUtc
  | some value => exact Preserves.ofExcept _

omit h in
theorem steady_trackedThread (threadId : String) :
    Preserves I (trackedThread threadId : Mapping B ThreadMapping) := by
  apply Preserves.bind (Preserves.reads _)
  intro mapping
  cases mapping with
  | none => exact Preserves.fail _
  | some mapping => exact Preserves.pure _

theorem steady_closeLocalChoice (id : InteractionId) : Preserves I (closeLocalChoice host id) := by
  apply Preserves.bind (Preserves.reads _)
  intro choice
  cases choice with
  | none => exact Preserves.pure _
  | some choice =>
    apply Preserves.bind (h.choices _)
    intro _
    apply Preserves.bind (Preserves.reads _)
    intro mapping
    cases mapping with
    | none => exact Preserves.fail _
    | some mapping => exact Preserves.bind h.nowUtc fun now => h.publishTracked _ _ _

theorem steady_closeLocalChoices (threadId : String) :
    Preserves I (closeLocalChoices host threadId) :=
  Preserves.bind (Preserves.reads _) fun _ =>
    Preserves.forEach fun id _ => steady_closeLocalChoice h id

theorem steady_publishPayload (threadId : String) (occurredAt : Timestamp)
    (payload : AgentEventPayload) :
    Preserves I (publishPayload host threadId occurredAt payload) := by
  apply Preserves.bind (Preserves.reads _)
  intro presented
  apply Preserves.bind (Preserves.when fun _ => steady_closeLocalChoices h threadId)
  intro _
  exact h.publishTracked _ _ _

theorem steady_publishNow (threadId : String) (payload : AgentEventPayload) :
    Preserves I (nowUtc host >>= fun now => publishPayload host threadId now payload) :=
  Preserves.bind h.nowUtc fun _ => steady_publishPayload h _ _ _

theorem steady_publishLocalChoice (threadId : String) (request : InteractionRequest) (plan : Bool) :
    Preserves I (publishLocalChoice host threadId request plan) := by
  apply Preserves.bind (Preserves.reads _)
  intro waiting
  apply Preserves.ite (fun _ => Preserves.pure _)
  intro _
  apply Preserves.bind h.nowUtc
  intro now
  apply Preserves.bind (steady_publishPayload h _ _ _)
  intro _
  exact h.choices _

theorem steady_announceConnection (connection : ConnectionState) (threadId : String) :
    Preserves I (announceConnection host connection threadId) := by
  apply Preserves.bind (Preserves.reads _)
  intro needsEvent
  exact Preserves.when fun _ => steady_publishNow h threadId _

theorem steady_beginReconnect : Preserves I (beginReconnect host) :=
  Preserves.bind (Preserves.reads _) fun _ =>
    Preserves.forEach fun threadId _ => steady_announceConnection h _ threadId

theorem steady_disconnectAll : Preserves I (disconnectAll host) := by
  apply Preserves.bind (Preserves.reads _)
  intro threadIds
  apply Preserves.forEach
  intro threadId _
  exact Preserves.bind (Preserves.attempt (steady_announceConnection h _ threadId)) fun _ =>
    Preserves.pure _

theorem steady_publishHistoryItems (threadId : String) (entries : List Value) :
    Preserves I (publishHistoryItems host threadId entries) := by
  apply Preserves.forEach
  intro entry _
  apply Preserves.bind (Preserves.ofExcept _)
  intro item
  apply Preserves.bind (Preserves.ofExcept _)
  intro message
  cases message with
  | none => exact Preserves.pure _
  | some message =>
    apply Preserves.ite (fun _ => Preserves.pure _)
    intro _
    apply Preserves.bind h.nowUtc
    intro now
    apply Preserves.bind (Preserves.ofExcept _)
    intro content
    exact steady_publishPayload h _ _ _

theorem steady_dismissPlan (threadId : String) : Preserves I (dismissPlan host threadId) := by
  apply Preserves.bind (Preserves.reads _)
  intro waiting
  apply Preserves.bind (h.planReady threadId false)
  intro _
  apply Preserves.bind (Preserves.reads _)
  intro choices
  apply Preserves.bind (Preserves.forEach fun id _ => steady_closeLocalChoice h id)
  intro _
  exact Preserves.when fun _ => steady_publishNow h threadId _

theorem steady_respondLocalChoice (threadId : String) (response : InteractionResponse) :
    Preserves I (respondLocalChoice host threadId response) := by
  apply Preserves.bind (Preserves.reads _)
  intro live
  apply Preserves.ite (fun _ => Preserves.pure _)
  intro _
  apply Preserves.bind h.nowUtc
  intro now
  apply Preserves.bind (steady_publishPayload h _ _ _)
  intro _
  apply Preserves.bind (h.choices _)
  intro _
  exact Preserves.pure _

omit h in
theorem steady_approvalContext {threadId turnId : String} (itemId : String)
    (htake : Preserves I (ensureActiveTurn threadId turnId : Mapping B Unit)) :
    Preserves I (approvalContext threadId turnId itemId :
      Mapping B (Option (SessionId × Option Value))) := by
  apply Preserves.bind (Preserves.reads _)
  intro known
  apply Preserves.ite (fun _ => Preserves.pure _)
  intro _
  apply Preserves.bind (htake)
  intro _
  apply Preserves.bind (steady_trackedThread threadId)
  intro mapping
  exact Preserves.bind (Preserves.reads _) fun _ => Preserves.pure _

theorem steady_threadSettingsUpdated (threadId : String) (params : Value) :
    Preserves I (threadSettingsUpdated threadId params : Mapping B MappingDisposition) := by
  apply Preserves.bind (Preserves.ofExcept _)
  intro settings
  apply Preserves.bind (Preserves.ofExcept _)
  intro model
  apply Preserves.bind (Preserves.ofExcept _)
  intro reasoningEffort
  apply Preserves.bind (steady_trackedThread threadId)
  intro _
  apply Preserves.bind (h.settings threadId _ _)
  intro _
  exact Preserves.pure _

theorem steady_itemStarted {threadId : String} {params : Value}
    (htake : ∀ turnId, stringField params "turnId" = .ok turnId →
      Preserves I (ensureActiveTurn threadId turnId : Mapping B Unit)) :
    Preserves I (itemStarted threadId params : Mapping B MappingDisposition) := by
  apply Preserves.ofExcept_bind
  intro turnId hturnId
  apply Preserves.bind (htake turnId hturnId)
  intro _
  apply Preserves.bind (Preserves.ofExcept _)
  intro item
  apply Preserves.bind (Preserves.ofExcept _)
  intro itemId
  apply Preserves.bind (h.items _)
  intro _
  exact Preserves.pure _

theorem steady_fileChangePatchUpdated {threadId : String} {params : Value}
    (htake : ∀ turnId, stringField params "turnId" = .ok turnId →
      Preserves I (ensureActiveTurn threadId turnId : Mapping B Unit)) :
    Preserves I (fileChangePatchUpdated threadId params : Mapping B MappingDisposition) := by
  apply Preserves.ofExcept_bind
  intro turnId hturnId
  apply Preserves.bind (Preserves.ofExcept _)
  intro itemId
  apply Preserves.bind (htake turnId hturnId)
  intro _
  split
  · apply Preserves.bind (Preserves.reads _)
    intro item
    apply Preserves.bind (h.items _)
    intro _
    apply Preserves.ite
    · intro _
      apply Preserves.bind (h.items _)
      intro _
      exact Preserves.pure _
    · exact fun _ => Preserves.fail _
  · exact Preserves.fail _

theorem steady_disconnectThread (threadId : String) :
    Preserves I (disconnectThread host threadId) := by
  apply Preserves.bind (Preserves.reads _)
  intro mapping
  apply Preserves.ite (fun _ => Preserves.pure _)
  intro _
  apply Preserves.bind h.nowUtc
  intro now
  exact Preserves.bind (steady_publishPayload h _ _ _) fun _ => Preserves.pure _

theorem steady_statusChanged (threadId : String) (statusValue : Value) :
    Preserves I (statusChanged host threadId statusValue) := by
  apply Preserves.bind (Preserves.ofExcept _)
  intro statusType
  apply Preserves.ite (fun _ => steady_disconnectThread h threadId)
  intro _
  apply Preserves.bind (Preserves.ofExcept _)
  intro loaded
  apply Preserves.bind (Preserves.reads _)
  intro waiting
  apply Preserves.bind (steady_trackedThread threadId)
  intro mapping
  apply Preserves.bind (Preserves.when fun _ => steady_publishNow h threadId _)
  intro _
  apply Preserves.bind (Preserves.when fun _ => steady_publishNow h threadId _)
  intro _
  exact Preserves.pure _

theorem steady_turnStarted {threadId : String} {params : Value}
    (hstart : ∀ turnId, nestedId params "turn" = some turnId →
      Preserves I (onMapper (startTurn threadId turnId) : Mapping B Unit)) :
    Preserves I (turnStarted host threadId params) := by
  apply Preserves.ofExcept_bind
  intro started hstarted
  apply Preserves.ofExcept_bind
  intro turnId hturnId
  apply Preserves.bind (Preserves.reads _)
  intro current
  apply Preserves.bind (Preserves.when fun _ => steady_closeLocalChoices h threadId)
  intro _
  apply Preserves.bind (Preserves.ofExcept _)
  intro startedAt
  apply Preserves.bind (steady_timestampOr h startedAt _)
  intro timestamp
  apply Preserves.bind (steady_trackedThread threadId)
  intro mapping
  apply Preserves.ite (fun _ => Preserves.pure _)
  intro _
  cases mapping.activeTurnId with
  | some active => exact Preserves.fail _
  | none =>
    apply Preserves.bind (hstart turnId (nestedId_of_fields hstarted hturnId))
    intro _
    exact Preserves.bind (Preserves.when fun _ => steady_publishPayload h _ _ _) fun _ =>
      Preserves.pure _

theorem steady_messageCompleted {threadId : String} {params item : Value} {itemType text : String}
    (hkeep : ∀ content, Preserves I (onMapper (keepMessage threadId item itemType text content) :
      Mapping B Unit)) :
    Preserves I (messageCompleted host threadId params item itemType text) := by
  apply Preserves.bind (Preserves.ofExcept _)
  intro content
  apply Preserves.bind (steady_trackedThread threadId)
  intro _
  apply Preserves.bind (hkeep content)
  intro _
  apply Preserves.bind (Preserves.ofExcept _)
  intro completedAt
  apply Preserves.bind (steady_timestampOr h _ _)
  intro timestamp
  exact Preserves.bind (steady_publishPayload h _ _ _) fun _ => Preserves.pure _

theorem steady_itemCompleted {threadId : String} {params : Value}
    (htake : ∀ turnId, stringField params "turnId" = .ok turnId →
      Preserves I (ensureActiveTurn threadId turnId : Mapping B Unit))
    (hkeep : ∀ item itemType text content,
      Preserves I (onMapper (keepMessage threadId item itemType text content) : Mapping B Unit)) :
    Preserves I (itemCompleted host threadId params) := by
  apply Preserves.ofExcept_bind
  intro turnId hturnId
  apply Preserves.bind (htake turnId hturnId)
  intro _
  apply Preserves.bind (Preserves.ofExcept _)
  intro item
  apply Preserves.bind (Preserves.ofExcept _)
  intro itemId
  apply Preserves.bind (h.items _)
  intro _
  apply Preserves.bind (Preserves.ofExcept _)
  intro itemType
  apply Preserves.ite (fun _ => Preserves.pure _)
  intro _
  apply Preserves.bind (Preserves.ofExcept _)
  intro text
  apply Preserves.ite (fun _ => Preserves.pure _)
  intro _
  exact steady_messageCompleted h (hkeep item itemType text)

theorem steady_finishTurn {threadId turnId : String} {completed : Value}
    (hend : Preserves I (onMapper (endTurn threadId) : Mapping B Unit)) :
    Preserves I (finishTurn host threadId turnId completed) := by
  apply Preserves.bind (Preserves.ofExcept _)
  intro turnStatus
  apply Preserves.bind (Preserves.ofExcept _)
  intro completedAt
  apply Preserves.bind (steady_timestampOr h _ _)
  intro timestamp
  apply Preserves.bind (steady_trackedThread threadId)
  intro mapping
  apply Preserves.bind (Preserves.ofExcept _)
  intro outcome
  apply Preserves.bind (h.planReady threadId _)
  intro _
  apply Preserves.bind (steady_publishPayload h _ _ _)
  intro _
  apply Preserves.bind hend
  intro _
  apply Preserves.bind (h.items _)
  intro _
  exact Preserves.pure _

theorem steady_resumeTracked {threadId : String} {value : Value}
    {model reasoningEffort : Option String}
    (hbelieve : ∀ activeTurn, latestInProgressTurn value = .ok activeTurn →
      Preserves I (onMapper (believeTurn threadId activeTurn) : Mapping B Unit)) :
    Preserves I (resumeTracked host threadId value model reasoningEffort) := by
  apply Preserves.bind (Preserves.ofExcept _)
  intro updatedAt
  apply Preserves.bind (steady_timestampOr h _ _)
  intro observedAt
  apply Preserves.bind (Preserves.ofExcept _)
  intro statusValue
  apply Preserves.bind (Preserves.ofExcept _)
  intro observed
  apply Preserves.bind (steady_trackedThread threadId)
  intro current
  apply Preserves.bind (Preserves.when fun _ => steady_publishPayload h _ _ _)
  intro _
  apply Preserves.bind (Preserves.when fun _ => steady_publishPayload h _ _ _)
  intro _
  apply Preserves.bind (h.settings threadId _ _)
  intro _
  apply Preserves.ofExcept_bind
  intro activeTurn hactive
  exact hbelieve activeTurn hactive

end Mapping

/-- An invariant that no write breaks, whatever it writes to the threads. -/
structure Untouched {B : Type} (host : ProviderHost B) (I : MapperState B → Prop) : Prop where
  nowUtc : Preserves I (Mapping.nowUtc host)
  newId : ∀ k, Preserves I (Mapping.newId host k)
  publishCommitted : ∀ event, Preserves I (Mapping.publishCommitted host event)
  choices : ∀ f : CodexEventMapper → ExtTreeMap InteractionId (String × Bool),
    Preserves I (Mapping.onMapper fun m => { m with localChoices := f m } : Mapping B Unit)
  items : ∀ f : CodexEventMapper → ExtTreeMap ItemKey Value,
    Preserves I (Mapping.onMapper fun m => { m with items := f m } : Mapping B Unit)
  thread : ∀ threadId f,
    Preserves I (Mapping.onMapper fun m => m.updateThread threadId f : Mapping B Unit)
  track : ∀ threadId mapping, Preserves I (Mapping.onMapper fun m =>
    { m with threads := m.threads.insert threadId mapping } : Mapping B Unit)
  discover : ∀ threadId sessionId, Preserves I (Mapping.onMapper fun m =>
    { m with
      configured := m.configured.insert threadId sessionId
      observerResumes := m.observerResumes.insert threadId } : Mapping B Unit)

open Mapping in
theorem Untouched.steady {B : Type} {host : ProviderHost B} {I : MapperState B → Prop}
    (h : Untouched host I) : Steady host I where
  nowUtc := h.nowUtc
  newId := h.newId
  publishTracked threadId occurredAt payload := by
    apply Preserves.bind (steady_trackedThread threadId)
    intro mapping
    apply Preserves.bind (h.newId .event)
    intro id
    apply Preserves.bind (Preserves.ofExcept _)
    intro event
    apply Preserves.bind (h.publishCommitted event)
    intro _
    apply Preserves.bind (steady_trackedThread threadId)
    intro published
    cases published.nextSequence.checkedNext with
    | none => exact Preserves.fail _
    | some next => exact h.thread threadId _
  choices := h.choices
  items := h.items
  settings threadId _ _ := h.thread threadId _
  planReady threadId _ := h.thread threadId _

namespace Mapping

variable {B : Type} {host : ProviderHost B} {I : MapperState B → Prop} (h : Untouched host I)

include h

theorem untouched_ensureActiveTurn (threadId turnId : String) :
    Preserves I (ensureActiveTurn threadId turnId : Mapping B Unit) := by
  apply Preserves.bind (steady_trackedThread threadId)
  intro mapping
  cases mapping.activeTurnId with
  | some active => exact Preserves.ite (fun _ => Preserves.fail _) fun _ => Preserves.pure _
  | none => exact h.thread threadId _

theorem untouched_turnCompleted (threadId : String) (params : Value) :
    Preserves I (turnCompleted host threadId params) := by
  apply Preserves.bind (Preserves.ofExcept _)
  intro completed
  apply Preserves.bind (Preserves.ofExcept _)
  intro turnId
  apply Preserves.bind (untouched_ensureActiveTurn h threadId turnId)
  intro _
  exact steady_finishTurn h.steady (h.thread threadId _)

theorem untouched_resumeNew (threadId : String) (sessionId : SessionId) (value : Value)
    (model reasoningEffort : Option String) :
    Preserves I (resumeNew host threadId sessionId value model reasoningEffort) := by
  apply Preserves.bind (Preserves.ofExcept _)
  intro created
  apply Preserves.bind (steady_timestampOr h.steady _ _)
  intro createdAt
  apply Preserves.bind (Preserves.ofExcept _)
  intro updated
  apply Preserves.bind (steady_timestampOr h.steady _ _)
  intro updatedAt
  apply Preserves.bind (Preserves.ofExcept _)
  intro statusValue
  apply Preserves.bind (Preserves.ofExcept _)
  intro status
  apply Preserves.bind (Preserves.ofExcept _)
  intro externalId
  apply Preserves.bind (Preserves.ofExcept _)
  intro title
  apply Preserves.bind (Preserves.ofExcept _)
  intro cwd
  apply Preserves.bind (Preserves.reads _)
  intro providerId
  apply Preserves.bind (Preserves.ofExcept _)
  intro session
  apply Preserves.bind (h.newId .event)
  intro id
  apply Preserves.bind (Preserves.ofExcept _)
  intro event
  apply Preserves.bind (h.publishCommitted event)
  intro _
  cases (PositiveCounter.first : EventSequence).checkedNext with
  | none => exact Preserves.fail _
  | some nextSequence =>
    apply Preserves.bind (Preserves.ofExcept _)
    intro activeTurn
    exact h.track threadId _

theorem untouched_resumeThread (result : Value) : Preserves I (resumeThread host result) := by
  apply Preserves.bind (Preserves.ofExcept _)
  intro value
  apply Preserves.bind (Preserves.ofExcept _)
  intro threadId
  apply Preserves.bind (Preserves.ofExcept _)
  intro resultModel
  apply Preserves.bind (Preserves.ofExcept _)
  intro threadModel
  apply Preserves.bind (Preserves.ofExcept _)
  intro resultEffort
  apply Preserves.bind (Preserves.ofExcept _)
  intro threadEffort
  apply Preserves.bind (Preserves.reads _)
  intro configured
  cases configured with
  | none => exact Preserves.fail _
  | some configuredSession =>
    apply Preserves.bind (Preserves.ofExcept _)
    intro _
    apply Preserves.bind (Preserves.ofExcept _)
    intro _
    apply Preserves.bind (Preserves.reads _)
    intro tracked
    apply Preserves.ite
    · intro _
      exact steady_resumeTracked h.steady fun _ _ => h.thread threadId _
    · exact fun _ => untouched_resumeNew h threadId configuredSession value _ _

theorem untouched_threadStarted (params : Value) : Preserves I (threadStarted host params) := by
  apply Preserves.bind (Preserves.ofExcept _)
  intro value
  apply Preserves.bind (Preserves.ofExcept _)
  intro threadId
  apply Preserves.bind (Preserves.reads _)
  intro known
  apply Preserves.ite (fun _ => Preserves.pure _)
  intro _
  apply Preserves.bind
  · apply Preserves.when
    intro _
    apply Preserves.bind (Preserves.ofExcept _)
    intro sessionId
    exact h.discover threadId sessionId
  intro _
  exact Preserves.bind (untouched_resumeThread h params) fun _ => Preserves.pure _

theorem untouched_dispatch (method threadId : String) (params : Value) :
    Preserves I (dispatch host method threadId params) := by
  have htake : ∀ turnId, stringField params "turnId" = .ok turnId →
      Preserves I (ensureActiveTurn threadId turnId : Mapping B Unit) :=
    fun turnId _ => untouched_ensureActiveTurn h threadId turnId
  have hsteady : Steady host I := h.steady
  unfold dispatch
  apply Preserves.ite (fun _ => steady_threadSettingsUpdated hsteady threadId params)
  intro _
  apply Preserves.ite
  · intro _
    exact Preserves.bind (Preserves.ofExcept _) fun _ => steady_statusChanged hsteady threadId _
  intro _
  apply Preserves.ite (fun _ => steady_disconnectThread hsteady threadId)
  intro _
  apply Preserves.ite (fun _ => steady_turnStarted hsteady fun _ _ => h.thread threadId _)
  intro _
  apply Preserves.ite (fun _ => steady_itemStarted hsteady htake)
  intro _
  apply Preserves.ite (fun _ => steady_fileChangePatchUpdated hsteady htake)
  intro _
  apply Preserves.ite
  · intro _
    exact steady_itemCompleted hsteady htake fun _ _ _ _ => h.thread threadId _
  intro _
  apply Preserves.ite (fun _ => untouched_turnCompleted h threadId params)
  intro _
  exact Preserves.pure _

end Mapping

end Codex

end AgentPulse
