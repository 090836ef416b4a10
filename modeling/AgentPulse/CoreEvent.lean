import AgentPulse.CoreInteraction

/-!
# Sessions, commands, snapshots and the normalized event

An event is ordered within one session. Payloads that carry their own session
identifier agree with the event, which is a field of the event type.
-/
namespace AgentPulse

inductive AgentState where
  | initializing | idle | running | waitingForInteraction | completed | failed | cancelled
  deriving DecidableEq, Repr

inductive ConnectionState where
  | connected | reconnecting | disconnected
  deriving DecidableEq, Repr

/-- A snapshot is never older than the session it describes. -/
structure AgentSession where
  id : SessionId
  providerId : ProviderId
  externalId : Option ExternalId
  title : Option NonEmptyText
  workspace : Option WorkspaceRef
  state : AgentState
  connectionState : ConnectionState
  revision : Revision
  createdAt : Timestamp
  updatedAt : Timestamp
  ordered : createdAt ≤ updatedAt
  deriving DecidableEq, Repr

namespace AgentSession

/-- The later of the two instants; an observation never moves a snapshot back. -/
def laterUpdate (self : AgentSession) (observedAt : Timestamp) : Timestamp :=
  if self.updatedAt < observedAt then observedAt else self.updatedAt

theorem updatedAt_le_laterUpdate (self : AgentSession) (observedAt : Timestamp) :
    self.updatedAt ≤ self.laterUpdate observedAt := by
  unfold laterUpdate
  split
  · rw [Timestamp.le_iff]
    rw [Timestamp.lt_iff] at *
    omega
  · exact Timestamp.le_refl _

def observeState (self : AgentSession) (state : AgentState) (revision : Revision)
    (observedAt : Timestamp) : AgentSession :=
  { self with
    state := state
    revision := revision
    updatedAt := self.laterUpdate observedAt
    ordered := Timestamp.le_trans self.ordered (self.updatedAt_le_laterUpdate observedAt) }

def observeConnectionState (self : AgentSession) (connectionState : ConnectionState)
    (revision : Revision) (observedAt : Timestamp) : AgentSession :=
  { self with
    connectionState := connectionState
    revision := revision
    updatedAt := self.laterUpdate observedAt
    ordered := Timestamp.le_trans self.ordered (self.updatedAt_le_laterUpdate observedAt) }

@[simp] theorem observeState_id (self : AgentSession) (state : AgentState) (revision : Revision)
    (observedAt : Timestamp) : (self.observeState state revision observedAt).id = self.id := rfl
@[simp] theorem observeState_providerId (self : AgentSession) (state : AgentState)
    (revision : Revision) (observedAt : Timestamp) :
    (self.observeState state revision observedAt).providerId = self.providerId := rfl
@[simp] theorem observeState_revision (self : AgentSession) (state : AgentState)
    (revision : Revision) (observedAt : Timestamp) :
    (self.observeState state revision observedAt).revision = revision := rfl
@[simp] theorem observeConnectionState_id (self : AgentSession) (connection : ConnectionState)
    (revision : Revision) (observedAt : Timestamp) :
    (self.observeConnectionState connection revision observedAt).id = self.id := rfl
@[simp] theorem observeConnectionState_providerId (self : AgentSession)
    (connection : ConnectionState) (revision : Revision) (observedAt : Timestamp) :
    (self.observeConnectionState connection revision observedAt).providerId = self.providerId := rfl
@[simp] theorem observeConnectionState_revision (self : AgentSession)
    (connection : ConnectionState) (revision : Revision) (observedAt : Timestamp) :
    (self.observeConnectionState connection revision observedAt).revision = revision := rfl

end AgentSession

/-- The builder's fields before the timestamp order is checked. -/
structure AgentSessionBuilder where
  id : SessionId
  providerId : ProviderId
  externalId : Option ExternalId
  title : Option NonEmptyText
  workspace : Option WorkspaceRef
  state : AgentState
  connectionState : ConnectionState
  revision : Revision
  createdAt : Timestamp
  updatedAt : Timestamp
  deriving DecidableEq, Repr

def AgentSession.builder (id : SessionId) (providerId : ProviderId) (createdAt : Timestamp) :
    AgentSessionBuilder :=
  ⟨id, providerId, none, none, none, .initializing, .connected, PositiveCounter.first, createdAt,
    createdAt⟩

def AgentSessionBuilder.build (self : AgentSessionBuilder) : Except DomainError AgentSession :=
  if h : self.createdAt ≤ self.updatedAt then
    .ok ⟨self.id, self.providerId, self.externalId, self.title, self.workspace, self.state,
      self.connectionState, self.revision, self.createdAt, self.updatedAt, h⟩
  else .error (.invalidTimeOrder "session created_at" "session updated_at")

inductive PromptDelivery where
  | queue | steer
  deriving DecidableEq, Repr

inductive QueueAction where
  | pause | resume | clear
  deriving DecidableEq, Repr

inductive AgentCommandPayload where
  | submitPrompt (text : NonEmptyText) (delivery : PromptDelivery)
  | cancelSession (reason : Option NonEmptyText)
  | listModels
  | selectModel (model : NonEmptyText) (effort : Option NonEmptyText)
  | setPlanMode (enabled : Bool)
  | listThreads (cursor : Option NonEmptyText)
  | resumeThread (threadId : NonEmptyText)
  | startThread (cwd : NonEmptyText)
  | compact
  | review (instructions : Option NonEmptyText)
  | rename (name : NonEmptyText)
  | fork
  | status
  | listPermissionProfiles
  | selectPermissionProfile (profile : NonEmptyText)
  | queue (action : QueueAction)
  deriving DecidableEq, Repr

namespace AgentCommandPayload

def requiredProviderCapability : AgentCommandPayload → ProviderCapabilities
  | .submitPrompt _ _ => ProviderCapabilities.promptSubmit
  | .cancelSession _ => ProviderCapabilities.cancel
  | .listModels | .selectModel _ _ | .setPlanMode _ | .listThreads _ | .resumeThread _
  | .startThread _ | .compact | .review _ | .rename _ | .fork | .status | .listPermissionProfiles
  | .selectPermissionProfile _ | .queue _ => ProviderCapabilities.control

/-- Commands that carry user text also need the text surface. -/
def requiredChannelCapabilities : AgentCommandPayload → ChannelCapabilities
  | .submitPrompt _ _ | .selectModel _ _ | .listThreads _ | .resumeThread _ | .startThread _
  | .review _ | .rename _ | .selectPermissionProfile _ =>
    ChannelCapabilities.remoteCommand.union ChannelCapabilities.textInput
  | .cancelSession _ | .listModels | .setPlanMode _ | .compact | .fork | .status
  | .listPermissionProfiles | .queue _ => ChannelCapabilities.remoteCommand

end AgentCommandPayload

structure AgentCommand where
  id : CommandId
  sessionId : SessionId
  channelId : ChannelId
  issuedAt : Timestamp
  payload : AgentCommandPayload
  deriving DecidableEq, Repr

inductive PlanItemStatus where
  | pending | inProgress | completed | blocked | skipped
  deriving DecidableEq, Repr

structure PlanItem where
  id : PlanItemId
  content : NonEmptyText
  status : PlanItemStatus
  deriving DecidableEq, Repr

structure PlanSnapshot where
  revision : Revision
  explanation : Option NonEmptyText
  items : List PlanItem
  unique : (items.map PlanItem.id).Nodup
  deriving DecidableEq, Repr

def PlanSnapshot.new (revision : Revision) (items : List PlanItem) :
    Except DomainError PlanSnapshot :=
  match hd : firstDuplicate [] (items.map PlanItem.id) with
  | some id => .error (.duplicateId "plan items" id.toString)
  | none => .ok ⟨revision, none, items, nodup_of_firstDuplicate hd⟩

structure DeterminateProgress where
  completed : Nat
  total : Nat
  positive : 0 < total
  bounded : total < 2 ^ 64
  within : completed ≤ total
  deriving Repr

theorem DeterminateProgress.ext_iff_counts {a b : DeterminateProgress} :
    a.completed = b.completed ∧ a.total = b.total ↔ a = b := by
  cases a
  cases b
  simp

instance : DecidableEq DeterminateProgress := fun _ _ =>
  decidable_of_iff _ DeterminateProgress.ext_iff_counts

def DeterminateProgress.new (completed total : Nat) (bounded : total < 2 ^ 64) :
    Except DomainError DeterminateProgress :=
  if h : 0 < total then
    if hc : completed ≤ total then .ok ⟨completed, total, h, bounded, hc⟩
    else .error (.invalidProgress completed total)
  else .error (.zeroValue "progress total")

inductive ProgressValue where
  | indeterminate
  | determinate (progress : DeterminateProgress)
  deriving DecidableEq, Repr

structure ProgressSnapshot where
  revision : Revision
  value : ProgressValue
  message : Option NonEmptyText
  deriving DecidableEq, Repr

inductive AgentMessageLevel where
  | info | warning | error
  deriving DecidableEq, Repr

inductive AgentMessageRole where
  | user | assistant | system
  deriving DecidableEq, Repr

structure AgentMessage where
  role : AgentMessageRole
  level : AgentMessageLevel
  content : NonEmptyText
  deriving DecidableEq, Repr

inductive ToolOutcome where
  | succeeded | failed | cancelled
  deriving DecidableEq, Repr

inductive ToolActivity where
  | started (callId : ToolCallId) (name : NonEmptyText) (summary : Option NonEmptyText)
  | finished (callId : ToolCallId) (outcome : ToolOutcome) (summary : Option NonEmptyText)
  deriving DecidableEq, Repr

inductive SessionOutcome where
  | completed (summary : Option NonEmptyText)
  | failed (error : NonEmptyText)
  | cancelled (reason : Option NonEmptyText)
  deriving DecidableEq, Repr

inductive AgentEventPayload where
  | sessionStarted (session : AgentSession)
  | stateChanged (state : AgentState)
  | connectionChanged (connectionState : ConnectionState)
  | message (message : AgentMessage)
  | toolActivity (activity : ToolActivity)
  | planUpdated (plan : PlanSnapshot)
  | progressUpdated (progress : ProgressSnapshot)
  | interactionRequested (request : InteractionRequest)
  | interactionResponded (response : InteractionResponse)
  | interactionClosed (closed : InteractionClosed)
  | commandIssued (command : AgentCommand)
  | sessionEnded (outcome : SessionOutcome)
  deriving DecidableEq, Repr

namespace AgentEventPayload

/-- The session identifier embedded in a correlated payload. -/
def embeddedSessionId : AgentEventPayload → Option SessionId
  | .sessionStarted session => some session.id
  | .interactionRequested request => some request.sessionId
  | .interactionResponded response => some response.sessionId
  | .interactionClosed closed => some closed.sessionId
  | .commandIssued command => some command.sessionId
  | _ => none

def requiredProviderCapability : AgentEventPayload → ProviderCapabilities
  | .sessionStarted _ | .stateChanged _ | .connectionChanged _ | .sessionEnded _ =>
    ProviderCapabilities.sessionState
  | .message _ => ProviderCapabilities.none
  | .toolActivity _ => ProviderCapabilities.toolEvents
  | .planUpdated _ => ProviderCapabilities.plan
  | .progressUpdated _ => ProviderCapabilities.progress
  | .interactionRequested request => request.payload.requiredProviderRequestCapability
  | .interactionResponded response => response.payload.requiredProviderCapability
  | .interactionClosed _ => ProviderCapabilities.approvalRequest
  | .commandIssued command => command.payload.requiredProviderCapability

end AgentEventPayload

structure AgentEvent where
  id : EventId
  sessionId : SessionId
  sequence : EventSequence
  occurredAt : Timestamp
  payload : AgentEventPayload
  correlated : payload.embeddedSessionId.getD sessionId = sessionId
  deriving DecidableEq, Repr

namespace AgentEvent

def new (id : EventId) (sessionId : SessionId) (sequence : EventSequence) (occurredAt : Timestamp)
    (payload : AgentEventPayload) : Except DomainError AgentEvent :=
  match h : payload.embeddedSessionId with
  | none => .ok ⟨id, sessionId, sequence, occurredAt, payload, by simp [h]⟩
  | some embedded =>
    if he : embedded = sessionId then
      .ok ⟨id, sessionId, sequence, occurredAt, payload, by simp [h, he]⟩
    else
      .error (.correlationMismatch "event session ID" sessionId.toString embedded.toString)

theorem session_id_eq (event : AgentEvent) {session : AgentSession}
    (h : event.payload = .sessionStarted session) : session.id = event.sessionId := by
  simpa [h, AgentEventPayload.embeddedSessionId] using event.correlated

theorem request_sessionId_eq (event : AgentEvent) {request : InteractionRequest}
    (h : event.payload = .interactionRequested request) : request.sessionId = event.sessionId := by
  simpa [h, AgentEventPayload.embeddedSessionId] using event.correlated

end AgentEvent

namespace Sample

def text : NonEmptyText := ⟨"text", by decide⟩

def instant : Timestamp := ⟨0, by decide⟩

def sequence (n : Nat) : EventSequence :=
  ⟨n % (2 ^ 64 - 1) + 1, by omega, by have := Nat.mod_lt n (show 0 < 2 ^ 64 - 1 by decide); omega⟩

/-- Provider `p` with every capability. -/
def provider (p : Nat) : ProviderDescriptor :=
  ⟨Ident.numbered .provider p, ⟨"codex", by decide⟩, text, none, ⟨2 ^ 11 - 1, by decide⟩⟩

/-- Channel `c` with every capability. -/
def channel (c : Nat) : ChannelDescriptor :=
  ⟨Ident.numbered .channel c, ⟨"native", by decide⟩, text, none, ⟨2 ^ 12 - 1, by decide⟩⟩

def session (s p : Nat) : AgentSession :=
  ⟨Ident.numbered .session s, Ident.numbered .provider p, none, none, none, .initializing,
    .connected, PositiveCounter.first, instant, instant, Timestamp.le_refl _⟩

/-- The sequence-one event that starts session `s` of provider `p`. -/
def started (s p : Nat) : AgentEvent :=
  ⟨Ident.numbered .event 0, Ident.numbered .session s, PositiveCounter.first, instant,
    .sessionStarted (session s p), rfl⟩

/-- Event `n + 1` of session `s`, a message. -/
def message (s n : Nat) : AgentEvent :=
  ⟨Ident.numbered .event n, Ident.numbered .session s, sequence n, instant,
    .message ⟨.assistant, .info, text⟩, rfl⟩

/-- Event `n + 1` of session `s`, a state change. -/
def stateChanged (s n : Nat) (state : AgentState) : AgentEvent :=
  ⟨Ident.numbered .event n, Ident.numbered .session s, sequence n, instant,
    .stateChanged state, rfl⟩

end Sample

end AgentPulse
