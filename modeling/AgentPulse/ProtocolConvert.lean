import AgentPulse.ProtocolDto

/-!
# Conversions between messages and their JSON shapes

One encoder and one decoder for each record, in the order in which the source
reads the fields, and the two entry points of the codec around them. JSON text
and RFC 3339 text are other crates' work and enter as parameters.

The encoders of the source also return an error for variants that a later
version of a core enumeration might have; those arms cannot be reached, and only
instants can fail to encode.
-/
namespace AgentPulse

/-- A local date-time of the years -9999 to 9999 with its offset from UTC. -/
structure OffsetDateTime where
  localNanos : Int
  offsetSeconds : Int
  supported : -377705116800000000000 ≤ localNanos ∧ localNanos ≤ 253402300799999999999
  offsetSupported : -93599 ≤ offsetSeconds ∧ offsetSeconds ≤ 93599
  deriving Repr

theorem OffsetDateTime.ext_iff_fields {a b : OffsetDateTime} :
    a.localNanos = b.localNanos ∧ a.offsetSeconds = b.offsetSeconds ↔ a = b := by
  cases a
  cases b
  simp

instance : DecidableEq OffsetDateTime := fun _ _ =>
  decidable_of_iff _ OffsetDateTime.ext_iff_fields

/-- The same moment counted in UTC. -/
def OffsetDateTime.utcNanos (self : OffsetDateTime) : Int :=
  self.localNanos - self.offsetSeconds * 1000000000

/-- An instant as the source formats it, with no offset. -/
def OffsetDateTime.utc (value : Timestamp) : OffsetDateTime :=
  ⟨value.unixTimestampNanos, 0, value.supported, by decide⟩

/-- The change of offset panics, shown as nothing, when the instant has no UTC
date-time in the supported years. -/
def Timestamp.fromOffsetDateTime (value : OffsetDateTime) : Option Timestamp :=
  if h : -377705116800000000000 ≤ value.utcNanos ∧ value.utcNanos ≤ 253402300799999999999 then
    some ⟨value.utcNanos, h⟩
  else none

/-- The RFC 3339 texts of the time crate. -/
structure Rfc3339 where
  format : Timestamp → Except String String
  parse : String → Except String OffsetDateTime

/-- How decoding ends without a message: with an error, or by a panic. -/
inductive Abort where
  | failed (error : ProtocolError)
  | panicked
  deriving DecidableEq, Repr

variable {α β : Type}

/-- A domain check inside a decoder. -/
def validated (x : Except DomainError α) : Except Abort α :=
  x.mapError fun source => .failed (.domain source)

/-- Any spelling of a UUID of version seven is taken. -/
def parseId (k : IdKind) (value : String) : Except Abort (Ident k) :=
  validated (Ident.fromStr k value)

/-- A text that is not blank. -/
def decodeText (value : String) : Except Abort NonEmptyText := validated (NonEmptyText.new value)

/-- An absent field is not decoded. -/
def decodeOptional (decode : α → Except Abort β) : Option α → Except Abort (Option β)
  | none => .ok none
  | some value => (decode value).map some

def decodeOptionalText (value : Option String) : Except Abort (Option NonEmptyText) :=
  decodeOptional decodeText value

def encodeOptionalText (value : Option NonEmptyText) : Option String :=
  value.map NonEmptyText.asStr

section Timestamps

variable (time : Rfc3339)

/-- An instant that cannot be written is reported under its field. -/
def encodeTimestamp (value : Timestamp) (field : String) : Except ProtocolError String :=
  (time.format value).mapError fun reason => .invalidWireValue field reason

/-- A date-time in any offset, changed to UTC. -/
def decodeTimestamp (value field : String) : Except Abort Timestamp :=
  match time.parse value with
  | .error reason => .error (.failed (.invalidWireValue field reason))
  | .ok dateTime =>
    match Timestamp.fromOffsetDateTime dateTime with
    | some instant => .ok instant
    | none => .error .panicked

end Timestamps

section Capabilities

variable {k : ComponentKind} [DecidableEq α]

/-- The listed capabilities that the set holds, in the order of the list. -/
def encodeCapabilities (known : List (Capabilities k × α)) (value : Capabilities k) : List α :=
  known.filterMap fun (capability, dto) => if value.contains capability then some dto else none

/-- The union of the named capabilities; a name may not be repeated. -/
def decodeCapabilities (field : String) (nameOf : α → String) (flagOf : α → Capabilities k) :
    List α → Capabilities k → List α → Except Abort (Capabilities k)
  | _, capabilities, [] => .ok capabilities
  | seen, capabilities, value :: values =>
    if value ∈ seen then
      .error (.failed (.invalidWireValue field
        ("duplicate capability `" ++ nameOf value ++ "`")))
    else decodeCapabilities field nameOf flagOf (value :: seen) (capabilities.union (flagOf value))
      values

end Capabilities

/-- The table of the source, in the order of its flags. -/
def encodeProviderCapabilities (value : ProviderCapabilities) : List ProviderCapabilityDto :=
  encodeCapabilities
    [(ProviderCapabilities.sessionState, .sessionState),
      (ProviderCapabilities.toolEvents, .toolEvents), (ProviderCapabilities.plan, .plan),
      (ProviderCapabilities.progress, .progress),
      (ProviderCapabilities.approvalRequest, .approvalRequest),
      (ProviderCapabilities.approvalResponse, .approvalResponse),
      (ProviderCapabilities.userInputRequest, .userInputRequest),
      (ProviderCapabilities.userInputResponse, .userInputResponse),
      (ProviderCapabilities.promptSubmit, .promptSubmit), (ProviderCapabilities.cancel, .cancel),
      (ProviderCapabilities.control, .control)] value

/-- The name of a capability in an error. -/
def providerCapabilityName : ProviderCapabilityDto → String
  | .sessionState => "session_state"
  | .toolEvents => "tool_events"
  | .plan => "plan"
  | .progress => "progress"
  | .approvalRequest => "approval_request"
  | .approvalResponse => "approval_response"
  | .userInputRequest => "user_input_request"
  | .userInputResponse => "user_input_response"
  | .promptSubmit => "prompt_submit"
  | .cancel => "cancel"
  | .control => "control"

def providerCapabilityOf : ProviderCapabilityDto → ProviderCapabilities
  | .sessionState => ProviderCapabilities.sessionState
  | .toolEvents => ProviderCapabilities.toolEvents
  | .plan => ProviderCapabilities.plan
  | .progress => ProviderCapabilities.progress
  | .approvalRequest => ProviderCapabilities.approvalRequest
  | .approvalResponse => ProviderCapabilities.approvalResponse
  | .userInputRequest => ProviderCapabilities.userInputRequest
  | .userInputResponse => ProviderCapabilities.userInputResponse
  | .promptSubmit => ProviderCapabilities.promptSubmit
  | .cancel => ProviderCapabilities.cancel
  | .control => ProviderCapabilities.control

/-- A descriptor may list no capability, but none twice. -/
def decodeProviderCapabilities (values : List ProviderCapabilityDto) :
    Except Abort ProviderCapabilities :=
  decodeCapabilities "provider capabilities" providerCapabilityName providerCapabilityOf []
    ProviderCapabilities.none values

def encodeChannelCapabilities (value : ChannelCapabilities) : List ChannelCapabilityDto :=
  encodeCapabilities
    [(ChannelCapabilities.notification, .notification),
      (ChannelCapabilities.sessionView, .sessionView), (ChannelCapabilities.toolView, .toolView),
      (ChannelCapabilities.planView, .planView), (ChannelCapabilities.progressView, .progressView),
      (ChannelCapabilities.richMessage, .richMessage), (ChannelCapabilities.approval, .approval),
      (ChannelCapabilities.choiceInput, .choiceInput), (ChannelCapabilities.textInput, .textInput),
      (ChannelCapabilities.formInput, .formInput),
      (ChannelCapabilities.realtimeSync, .realtimeSync),
      (ChannelCapabilities.remoteCommand, .remoteCommand)] value

def channelCapabilityName : ChannelCapabilityDto → String
  | .notification => "notification"
  | .sessionView => "session_view"
  | .toolView => "tool_view"
  | .planView => "plan_view"
  | .progressView => "progress_view"
  | .richMessage => "rich_message"
  | .approval => "approval"
  | .choiceInput => "choice_input"
  | .textInput => "text_input"
  | .formInput => "form_input"
  | .realtimeSync => "realtime_sync"
  | .remoteCommand => "remote_command"

def channelCapabilityOf : ChannelCapabilityDto → ChannelCapabilities
  | .notification => ChannelCapabilities.notification
  | .sessionView => ChannelCapabilities.sessionView
  | .toolView => ChannelCapabilities.toolView
  | .planView => ChannelCapabilities.planView
  | .progressView => ChannelCapabilities.progressView
  | .richMessage => ChannelCapabilities.richMessage
  | .approval => ChannelCapabilities.approval
  | .choiceInput => ChannelCapabilities.choiceInput
  | .textInput => ChannelCapabilities.textInput
  | .formInput => ChannelCapabilities.formInput
  | .realtimeSync => ChannelCapabilities.realtimeSync
  | .remoteCommand => ChannelCapabilities.remoteCommand

def decodeChannelCapabilities (values : List ChannelCapabilityDto) :
    Except Abort ChannelCapabilities :=
  decodeCapabilities "channel capabilities" channelCapabilityName channelCapabilityOf []
    ChannelCapabilities.none values

/-- The states travel under names of their own, one for each. -/
def encodeAgentState : AgentState → AgentStateDto
  | .initializing => .initializing
  | .idle => .idle
  | .running => .running
  | .waitingForInteraction => .waitingForInteraction
  | .completed => .completed
  | .failed => .failed
  | .cancelled => .cancelled

/-- No state is lost or joined with another. -/
def decodeAgentState : AgentStateDto → AgentState
  | .initializing => .initializing
  | .idle => .idle
  | .running => .running
  | .waitingForInteraction => .waitingForInteraction
  | .completed => .completed
  | .failed => .failed
  | .cancelled => .cancelled

def encodeConnectionState : ConnectionState → ConnectionStateDto
  | .connected => .connected
  | .reconnecting => .reconnecting
  | .disconnected => .disconnected

def decodeConnectionState : ConnectionStateDto → ConnectionState
  | .connected => .connected
  | .reconnecting => .reconnecting
  | .disconnected => .disconnected

def encodeMessageRole : AgentMessageRole → AgentMessageRoleDto
  | .user => .user
  | .assistant => .assistant
  | .system => .system

def decodeMessageRole : AgentMessageRoleDto → AgentMessageRole
  | .user => .user
  | .assistant => .assistant
  | .system => .system

def encodeMessageLevel : AgentMessageLevel → AgentMessageLevelDto
  | .info => .info
  | .warning => .warning
  | .error => .error

def decodeMessageLevel : AgentMessageLevelDto → AgentMessageLevel
  | .info => .info
  | .warning => .warning
  | .error => .error

def encodeToolOutcome : ToolOutcome → ToolOutcomeDto
  | .succeeded => .succeeded
  | .failed => .failed
  | .cancelled => .cancelled

def decodeToolOutcome : ToolOutcomeDto → ToolOutcome
  | .succeeded => .succeeded
  | .failed => .failed
  | .cancelled => .cancelled

def encodePlanItemStatus : PlanItemStatus → PlanItemStatusDto
  | .pending => .pending
  | .inProgress => .inProgress
  | .completed => .completed
  | .blocked => .blocked
  | .skipped => .skipped

def decodePlanItemStatus : PlanItemStatusDto → PlanItemStatus
  | .pending => .pending
  | .inProgress => .inProgress
  | .completed => .completed
  | .blocked => .blocked
  | .skipped => .skipped

def encodeApprovalCommandKind : ApprovalCommandKind → ApprovalCommandKindDto
  | .command => .command
  | .writeStdin => .writeStdin

def decodeApprovalCommandKind : ApprovalCommandKindDto → ApprovalCommandKind
  | .command => .command
  | .writeStdin => .writeStdin

def encodeApprovalFileChangeKind : ApprovalFileChangeKind → ApprovalFileChangeKindDto
  | .add => .add
  | .delete => .delete
  | .update => .update

def decodeApprovalFileChangeKind : ApprovalFileChangeKindDto → ApprovalFileChangeKind
  | .add => .add
  | .delete => .delete
  | .update => .update

def encodeApprovalDisposition : ApprovalDisposition → ApprovalDispositionDto
  | .approve => .approve
  | .reject => .reject
  | .cancel => .cancel

def decodeApprovalDisposition : ApprovalDispositionDto → ApprovalDisposition
  | .approve => .approve
  | .reject => .reject
  | .cancel => .cancel

def encodeCloseReason : InteractionCloseReason → InteractionCloseReasonDto
  | .resolvedElsewhere => .resolvedElsewhere
  | .providerCancelled => .providerCancelled

def decodeCloseReason : InteractionCloseReasonDto → InteractionCloseReason
  | .resolvedElsewhere => .resolvedElsewhere
  | .providerCancelled => .providerCancelled

def encodePromptDelivery : PromptDelivery → PromptDeliveryDto
  | .queue => .queue
  | .steer => .steer

def decodePromptDelivery : PromptDeliveryDto → PromptDelivery
  | .queue => .queue
  | .steer => .steer

def encodeQueueAction : QueueAction → QueueActionDto
  | .pause => .pause
  | .resume => .resume
  | .clear => .clear

def decodeQueueAction : QueueActionDto → QueueAction
  | .pause => .pause
  | .resume => .resume
  | .clear => .clear

def encodeProviderDescriptor (descriptor : ProviderDescriptor) : ProviderDescriptorDto where
  id := descriptor.id.toString
  kind := descriptor.kind.asStr
  displayName := descriptor.displayName.asStr
  version := encodeOptionalText descriptor.version
  capabilities := encodeProviderCapabilities descriptor.capabilities

/-- The version is checked last, after the capabilities. -/
def decodeProviderDescriptor (dto : ProviderDescriptorDto) : Except Abort ProviderDescriptor := do
  let id ← parseId .provider dto.id
  let kind ← validated (Slug.new .provider dto.kind)
  let displayName ← decodeText dto.displayName
  let capabilities ← decodeProviderCapabilities dto.capabilities
  let version ← decodeOptionalText dto.version
  return ⟨id, kind, displayName, version, capabilities⟩

def encodeChannelDescriptor (descriptor : ChannelDescriptor) : ChannelDescriptorDto where
  id := descriptor.id.toString
  kind := descriptor.kind.asStr
  displayName := descriptor.displayName.asStr
  version := encodeOptionalText descriptor.version
  capabilities := encodeChannelCapabilities descriptor.capabilities

def decodeChannelDescriptor (dto : ChannelDescriptorDto) : Except Abort ChannelDescriptor := do
  let id ← parseId .channel dto.id
  let kind ← validated (Slug.new .channel dto.kind)
  let displayName ← decodeText dto.displayName
  let capabilities ← decodeChannelCapabilities dto.capabilities
  let version ← decodeOptionalText dto.version
  return ⟨id, kind, displayName, version, capabilities⟩

def encodeWorkspace (workspace : WorkspaceRef) : WorkspaceRefDto :=
  ⟨workspace.path.asStr, encodeOptionalText workspace.displayName⟩

def decodeWorkspace (dto : WorkspaceRefDto) : Except Abort WorkspaceRef := do
  let path ← decodeText dto.path
  let displayName ← decodeOptionalText dto.displayName
  return ⟨path, displayName⟩

def encodeMessage (message : AgentMessage) : AgentMessageDto :=
  ⟨encodeMessageRole message.role, encodeMessageLevel message.level, message.content.asStr⟩

def decodeMessage (dto : AgentMessageDto) : Except Abort AgentMessage := do
  let content ← decodeText dto.content
  return ⟨decodeMessageRole dto.role, decodeMessageLevel dto.level, content⟩

def encodeToolActivity : ToolActivity → ToolActivityDto
  | .started callId name summary =>
    .started callId.toString name.asStr (encodeOptionalText summary)
  | .finished callId outcome summary =>
    .finished callId.toString (encodeToolOutcome outcome) (encodeOptionalText summary)

/-- The name of a tool is only in its start. -/
def decodeToolActivity : ToolActivityDto → Except Abort ToolActivity
  | .started callId name summary => do
    let callId ← parseId .toolCall callId
    let name ← decodeText name
    let summary ← decodeOptionalText summary
    return .started callId name summary
  | .finished callId outcome summary => do
    let callId ← parseId .toolCall callId
    let summary ← decodeOptionalText summary
    return .finished callId (decodeToolOutcome outcome) summary

/-- A failure keeps its error, the other outcomes an optional text. -/
def encodeSessionOutcome : SessionOutcome → SessionOutcomeDto
  | .completed summary => .completed (encodeOptionalText summary)
  | .failed error => .failed error.asStr
  | .cancelled reason => .cancelled (encodeOptionalText reason)

def decodeSessionOutcome : SessionOutcomeDto → Except Abort SessionOutcome
  | .completed summary => do
    let summary ← decodeOptionalText summary
    return .completed summary
  | .failed error => do
    let error ← decodeText error
    return .failed error
  | .cancelled reason => do
    let reason ← decodeOptionalText reason
    return .cancelled reason

def encodePlanItem (item : PlanItem) : PlanItemDto :=
  ⟨item.id.toString, item.content.asStr, encodePlanItemStatus item.status⟩

def decodePlanItem (dto : PlanItemDto) : Except Abort PlanItem := do
  let id ← parseId .planItem dto.id
  let content ← decodeText dto.content
  return ⟨id, content, decodePlanItemStatus dto.status⟩

def DecimalU64.ofCounter {kind : CounterKind} (counter : PositiveCounter kind) : DecimalU64 :=
  ⟨counter.get, counter.bounded⟩

/-- Counters start at one. -/
def decodeCounter (kind : CounterKind) (value : DecimalU64) :
    Except Abort (PositiveCounter kind) :=
  validated (PositiveCounter.new kind value.get value.bounded)

/-- The explanation is left out when there is none. -/
def encodePlan (plan : PlanSnapshot) : PlanSnapshotDto :=
  ⟨.ofCounter plan.revision, encodeOptionalText plan.explanation, plan.items.map encodePlanItem⟩

def PlanSnapshot.withExplanation (self : PlanSnapshot) (explanation : NonEmptyText) :
    PlanSnapshot :=
  { self with explanation := some explanation }

/-- The items are checked together before the explanation is read. -/
def decodePlan (dto : PlanSnapshotDto) : Except Abort PlanSnapshot := do
  let items ← dto.items.mapM decodePlanItem
  let revision ← decodeCounter .revision dto.revision
  let plan ← validated (PlanSnapshot.new revision items)
  match dto.explanation with
  | some explanation => return plan.withExplanation (← decodeText explanation)
  | none => return plan

def encodeProgressValue : ProgressValue → ProgressValueDto
  | .indeterminate => .indeterminate
  | .determinate progress =>
    .determinate ⟨progress.completed, Nat.lt_of_le_of_lt progress.within progress.bounded⟩
      ⟨progress.total, progress.bounded⟩

/-- More steps cannot be completed than there are. -/
def decodeProgressValue : ProgressValueDto → Except Abort ProgressValue
  | .indeterminate => .ok .indeterminate
  | .determinate completed total => do
    let progress ← validated (DeterminateProgress.new completed.get total.get total.bounded)
    return .determinate progress

def encodeProgress (progress : ProgressSnapshot) : ProgressSnapshotDto :=
  ⟨.ofCounter progress.revision, encodeProgressValue progress.value,
    encodeOptionalText progress.message⟩

def decodeProgress (dto : ProgressSnapshotDto) : Except Abort ProgressSnapshot := do
  let revision ← decodeCounter .revision dto.revision
  let value ← decodeProgressValue dto.value
  let message ← decodeOptionalText dto.message
  return ⟨revision, value, message⟩

def encodeChoiceOption (option : ChoiceOption) : ChoiceOptionDto :=
  ⟨option.id.toString, option.label.asStr, encodeOptionalText option.description⟩

/-- The label is required, the description may be absent. -/
def decodeChoiceOption (dto : ChoiceOptionDto) : Except Abort ChoiceOption := do
  let id ← parseId .choiceOption dto.id
  let label ← decodeText dto.label
  let description ← decodeOptionalText dto.description
  return ⟨id, label, description⟩

def encodeApprovalNetworkContext (context : ApprovalNetworkContext) : ApprovalNetworkContextDto :=
  ⟨context.host.asStr, context.protocol.asStr⟩

def decodeApprovalNetworkContext (dto : ApprovalNetworkContextDto) :
    Except Abort ApprovalNetworkContext := do
  let host ← decodeText dto.host
  let protocol ← decodeText dto.protocol
  return ⟨host, protocol⟩

def encodeApprovalFileChange (change : ApprovalFileChange) : ApprovalFileChangeDto :=
  ⟨change.path.asStr, encodeApprovalFileChangeKind change.kind, change.diff⟩

/-- The difference may be any text, also an empty one. -/
def decodeApprovalFileChange (dto : ApprovalFileChangeDto) : Except Abort ApprovalFileChange := do
  let path ← decodeText dto.path
  return ⟨path, decodeApprovalFileChangeKind dto.kind, dto.diff⟩

def encodeApprovalSubject : ApprovalSubject → ApprovalSubjectDto
  | .command kind command cwd reason network =>
    .command (encodeApprovalCommandKind kind) (encodeOptionalText command)
      (encodeOptionalText cwd) (encodeOptionalText reason)
      (network.map encodeApprovalNetworkContext)
  | .fileChange changes grantRoot reason =>
    .fileChange (changes.map encodeApprovalFileChange) (encodeOptionalText grantRoot)
      (encodeOptionalText reason)

/-- Of a command every text is optional. -/
def decodeApprovalSubject : ApprovalSubjectDto → Except Abort ApprovalSubject
  | .command kind command cwd reason network => do
    let command ← decodeOptionalText command
    let cwd ← decodeOptionalText cwd
    let reason ← decodeOptionalText reason
    let network ← decodeOptional decodeApprovalNetworkContext network
    return .command (decodeApprovalCommandKind kind) command cwd reason network
  | .fileChange changes grantRoot reason => do
    let changes ← changes.mapM decodeApprovalFileChange
    let grantRoot ← decodeOptionalText grantRoot
    let reason ← decodeOptionalText reason
    return .fileChange changes grantRoot reason

def encodeApprovalOption (option : ApprovalOption) : ApprovalOptionDto :=
  ⟨option.id.toString, encodeApprovalDisposition option.disposition, option.label.asStr,
    encodeOptionalText option.description⟩

def decodeApprovalOption (dto : ApprovalOptionDto) : Except Abort ApprovalOption := do
  let id ← parseId .approvalOption dto.id
  let label ← decodeText dto.label
  let description ← decodeOptionalText dto.description
  return ⟨id, decodeApprovalDisposition dto.disposition, label, description⟩

def encodeFormField (field : FormField) : FormFieldDto :=
  ⟨field.id.toString, field.header.asStr, field.prompt.asStr,
    field.options.map encodeChoiceOption, field.allowsOther, field.sensitive⟩

/-- The field is built last, by its own checks. -/
def decodeFormField (dto : FormFieldDto) : Except Abort FormField := do
  let id ← parseId .formField dto.id
  let header ← decodeText dto.header
  let prompt ← decodeText dto.prompt
  let options ← dto.options.mapM decodeChoiceOption
  validated (FormField.new id header prompt options dto.allowsOther dto.sensitive)

def encodeInteractionRequestPayload : InteractionRequestPayload → InteractionRequestPayloadDto
  | .approval request =>
    .approval (encodeApprovalSubject request.subject) (request.options.map encodeApprovalOption)
      (encodeOptionalText request.unavailableReason)
  | .choice request => .choice (request.options.map encodeChoiceOption) request.multiple
  | .text request => .text (encodeOptionalText request.placeholder) request.multiline
  | .form request => .form (request.fields.map encodeFormField) request.blocking

/-- Exactly one of options and reason must be given. -/
def decodeApproval (subject : ApprovalSubject) (options : List ApprovalOption) :
    Option String → Except Abort ApprovalRequest
  | none =>
    if options.isEmpty then
      .error (.failed (.invalidWireValue "approval"
        "an approval without options requires unavailable_reason"))
    else validated (ApprovalRequest.actionable subject options)
  | some reason =>
    if options.isEmpty then do
      let reason ← decodeText reason
      return ApprovalRequest.unavailable subject reason
    else
      .error (.failed (.invalidWireValue "approval"
        "an actionable approval cannot carry unavailable_reason"))

/-- The parts are decoded before the constructor of the request sees them. -/
def decodeInteractionRequestPayload :
    InteractionRequestPayloadDto → Except Abort InteractionRequestPayload
  | .approval subject options unavailableReason => do
    let subject ← decodeApprovalSubject subject
    let options ← options.mapM decodeApprovalOption
    let request ← decodeApproval subject options unavailableReason
    return .approval request
  | .choice options multiple => do
    let options ← options.mapM decodeChoiceOption
    let request ← validated (ChoiceRequest.new options multiple)
    return .choice request
  | .text placeholder multiline => do
    let placeholder ← decodeOptionalText placeholder
    return .text ⟨placeholder, multiline⟩
  | .form fields blocking => do
    let fields ← fields.mapM decodeFormField
    let request ← validated (FormRequest.new fields blocking)
    return .form request

def encodeFormAnswerValue : FormAnswerValue → FormAnswerValueDto
  | .choice optionId => .choice optionId.toString
  | .text value => .text value.asStr

def decodeFormAnswerValue : FormAnswerValueDto → Except Abort FormAnswerValue
  | .choice optionId => do
    let optionId ← parseId .choiceOption optionId
    return .choice optionId
  | .text text => do
    let text ← decodeText text
    return .text text

def encodeFormAnswer (answer : FormAnswer) : FormAnswerDto :=
  ⟨answer.fieldId.toString, encodeFormAnswerValue answer.value⟩

/-- The value is decoded before the field it answers. -/
def decodeFormAnswer (dto : FormAnswerDto) : Except Abort FormAnswer := do
  let value ← decodeFormAnswerValue dto.value
  let fieldId ← parseId .formField dto.fieldId
  return ⟨fieldId, value⟩

def encodeInteractionResponsePayload : InteractionResponsePayload → InteractionResponsePayloadDto
  | .approval selection => .approval selection.optionId.toString
  | .choice selection => .choice (selection.optionIds.map Ident.toString)
  | .text value => .text value.asStr
  | .form response => .form (response.answers.map encodeFormAnswer)

/-- Every identifier of a response is parsed, in its order. -/
def decodeInteractionResponsePayload :
    InteractionResponsePayloadDto → Except Abort InteractionResponsePayload
  | .approval optionId => do
    let optionId ← parseId .approvalOption optionId
    return .approval ⟨optionId⟩
  | .choice optionIds => do
    let ids ← optionIds.mapM (parseId .choiceOption)
    let selection ← validated (ChoiceSelection.new ids)
    return .choice selection
  | .text text => do
    let text ← decodeText text
    return .text text
  | .form answers => do
    let answers ← answers.mapM decodeFormAnswer
    let response ← validated (FormResponse.new answers)
    return .form response

def encodeInteractionClosed (interaction : InteractionClosed) : InteractionClosedDto :=
  ⟨interaction.requestId.toString, interaction.sessionId.toString,
    encodeCloseReason interaction.reason⟩

def decodeInteractionClosed (dto : InteractionClosedDto) : Except Abort InteractionClosed := do
  let requestId ← parseId .interaction dto.requestId
  let sessionId ← parseId .session dto.sessionId
  return ⟨requestId, sessionId, decodeCloseReason dto.reason⟩

/-- Commands without data have no record. -/
def encodeCommandPayload : AgentCommandPayload → AgentCommandPayloadDto
  | .submitPrompt text delivery => .submitPrompt text.asStr (encodePromptDelivery delivery)
  | .cancelSession reason => .cancelSession (encodeOptionalText reason)
  | .listModels => .listModels
  | .selectModel model effort => .selectModel model.asStr (encodeOptionalText effort)
  | .setPlanMode enabled => .setPlanMode enabled
  | .listThreads cursor => .listThreads (encodeOptionalText cursor)
  | .resumeThread threadId => .resumeThread threadId.asStr
  | .startThread cwd => .startThread cwd.asStr
  | .compact => .compact
  | .review instructions => .review (encodeOptionalText instructions)
  | .rename name => .rename name.asStr
  | .fork => .fork
  | .status => .status
  | .listPermissionProfiles => .listPermissionProfiles
  | .selectPermissionProfile profile => .selectPermissionProfile profile.asStr
  | .queue action => .queue (encodeQueueAction action)

def decodeCommandPayload : AgentCommandPayloadDto → Except Abort AgentCommandPayload
  | .submitPrompt text delivery => do
    let text ← decodeText text
    return .submitPrompt text (decodePromptDelivery delivery)
  | .cancelSession reason => do
    let reason ← decodeOptionalText reason
    return .cancelSession reason
  | .listModels => .ok .listModels
  | .selectModel model effort => do
    let model ← decodeText model
    let effort ← decodeOptionalText effort
    return .selectModel model effort
  | .setPlanMode enabled => .ok (.setPlanMode enabled)
  | .listThreads cursor => do
    let cursor ← decodeOptionalText cursor
    return .listThreads cursor
  | .resumeThread threadId => do
    let threadId ← decodeText threadId
    return .resumeThread threadId
  | .startThread cwd => do
    let cwd ← decodeText cwd
    return .startThread cwd
  | .compact => .ok .compact
  | .review instructions => do
    let instructions ← decodeOptionalText instructions
    return .review instructions
  | .rename name => do
    let name ← decodeText name
    return .rename name
  | .fork => .ok .fork
  | .status => .ok .status
  | .listPermissionProfiles => .ok .listPermissionProfiles
  | .selectPermissionProfile profile => do
    let profile ← decodeText profile
    return .selectPermissionProfile profile
  | .queue action => .ok (.queue (decodeQueueAction action))

section Dated

variable (time : Rfc3339)

/-- The two moments are formatted first. -/
def encodeSession (session : AgentSession) : Except ProtocolError AgentSessionDto := do
  let createdAt ← encodeTimestamp time session.createdAt "session created_at"
  let updatedAt ← encodeTimestamp time session.updatedAt "session updated_at"
  return {
    id := session.id.toString
    providerId := session.providerId.toString
    externalId := session.externalId.map fun externalId => externalId.text.asStr
    title := encodeOptionalText session.title
    workspace := session.workspace.map encodeWorkspace
    state := encodeAgentState session.state
    connectionState := encodeConnectionState session.connectionState
    revision := .ofCounter session.revision
    createdAt := createdAt
    updatedAt := updatedAt }

/-- The moments are read first, and their order is checked last. -/
def decodeSession (dto : AgentSessionDto) : Except Abort AgentSession := do
  let createdAt ← decodeTimestamp time dto.createdAt "session created_at"
  let updatedAt ← decodeTimestamp time dto.updatedAt "session updated_at"
  let id ← parseId .session dto.id
  let providerId ← parseId .provider dto.providerId
  let revision ← decodeCounter .revision dto.revision
  let externalId ← decodeOptional (fun value => validated (ExternalId.new value)) dto.externalId
  let title ← decodeOptionalText dto.title
  let workspace ← decodeOptional decodeWorkspace dto.workspace
  validated (AgentSessionBuilder.build {
    id := id
    providerId := providerId
    externalId := externalId
    title := title
    workspace := workspace
    state := decodeAgentState dto.state
    connectionState := decodeConnectionState dto.connectionState
    revision := revision
    createdAt := createdAt
    updatedAt := updatedAt })

def encodeInteractionRequest (request : InteractionRequest) :
    Except ProtocolError InteractionRequestDto := do
  let requestedAt ← encodeTimestamp time request.requestedAt "interaction requested_at"
  let expiresAt ← match request.expiresAt with
    | none => .ok none
    | some value => (encodeTimestamp time value "interaction expires_at").map some
  return ⟨request.id.toString, request.sessionId.toString, requestedAt, expiresAt,
    request.prompt.asStr, encodeInteractionRequestPayload request.payload⟩

/-- The expiration is read after the request is built. -/
def decodeInteractionRequest (dto : InteractionRequestDto) : Except Abort InteractionRequest := do
  let id ← parseId .interaction dto.id
  let sessionId ← parseId .session dto.sessionId
  let requestedAt ← decodeTimestamp time dto.requestedAt "interaction requested_at"
  let prompt ← decodeText dto.prompt
  let payload ← decodeInteractionRequestPayload dto.payload
  let request := InteractionRequest.new id sessionId requestedAt prompt payload
  match dto.expiresAt with
  | none => return request
  | some expiresAt =>
    let expiresAt ← decodeTimestamp time expiresAt "interaction expires_at"
    validated (request.withExpiration expiresAt)

def encodeInteractionResponse (response : InteractionResponse) :
    Except ProtocolError InteractionResponseDto := do
  let respondedAt ← encodeTimestamp time response.respondedAt "interaction responded_at"
  return ⟨response.requestId.toString, response.sessionId.toString, response.channelId.toString,
    respondedAt, encodeInteractionResponsePayload response.payload⟩

def decodeInteractionResponse (dto : InteractionResponseDto) :
    Except Abort InteractionResponse := do
  let requestId ← parseId .interaction dto.requestId
  let sessionId ← parseId .session dto.sessionId
  let channelId ← parseId .channel dto.channelId
  let respondedAt ← decodeTimestamp time dto.respondedAt "interaction responded_at"
  let payload ← decodeInteractionResponsePayload dto.payload
  return ⟨requestId, sessionId, channelId, respondedAt, payload⟩

def encodeCommand (command : AgentCommand) : Except ProtocolError AgentCommandDto := do
  let issuedAt ← encodeTimestamp time command.issuedAt "command issued_at"
  return ⟨command.id.toString, command.sessionId.toString, command.channelId.toString, issuedAt,
    encodeCommandPayload command.payload⟩

def decodeCommand (dto : AgentCommandDto) : Except Abort AgentCommand := do
  let id ← parseId .command dto.id
  let sessionId ← parseId .session dto.sessionId
  let channelId ← parseId .channel dto.channelId
  let issuedAt ← decodeTimestamp time dto.issuedAt "command issued_at"
  let payload ← decodeCommandPayload dto.payload
  return ⟨id, sessionId, channelId, issuedAt, payload⟩

def encodeEventPayload : AgentEventPayload → Except ProtocolError AgentEventPayloadDto
  | .sessionStarted session => (encodeSession time session).map .sessionStarted
  | .stateChanged state => .ok (.stateChanged (encodeAgentState state))
  | .connectionChanged connectionState =>
    .ok (.connectionChanged (encodeConnectionState connectionState))
  | .message message => .ok (.message (encodeMessage message))
  | .toolActivity activity => .ok (.toolActivity (encodeToolActivity activity))
  | .planUpdated plan => .ok (.planUpdated (encodePlan plan))
  | .progressUpdated progress => .ok (.progressUpdated (encodeProgress progress))
  | .interactionRequested request =>
    (encodeInteractionRequest time request).map .interactionRequested
  | .interactionResponded response =>
    (encodeInteractionResponse time response).map .interactionResponded
  | .interactionClosed interaction =>
    .ok (.interactionClosed (encodeInteractionClosed interaction))
  | .commandIssued command => (encodeCommand time command).map .commandIssued
  | .sessionEnded outcome => .ok (.sessionEnded (encodeSessionOutcome outcome))

def decodeEventPayload : AgentEventPayloadDto → Except Abort AgentEventPayload
  | .sessionStarted session => (decodeSession time session).map .sessionStarted
  | .stateChanged state => .ok (.stateChanged (decodeAgentState state))
  | .connectionChanged connectionState =>
    .ok (.connectionChanged (decodeConnectionState connectionState))
  | .message message => (decodeMessage message).map .message
  | .toolActivity activity => (decodeToolActivity activity).map .toolActivity
  | .planUpdated plan => (decodePlan plan).map .planUpdated
  | .progressUpdated progress => (decodeProgress progress).map .progressUpdated
  | .interactionRequested request =>
    (decodeInteractionRequest time request).map .interactionRequested
  | .interactionResponded response =>
    (decodeInteractionResponse time response).map .interactionResponded
  | .interactionClosed interaction =>
    (decodeInteractionClosed interaction).map .interactionClosed
  | .commandIssued command => (decodeCommand time command).map .commandIssued
  | .sessionEnded outcome => (decodeSessionOutcome outcome).map .sessionEnded

def encodeEvent (event : AgentEvent) : Except ProtocolError AgentEventDto := do
  let occurredAt ← encodeTimestamp time event.occurredAt "event occurred_at"
  let payload ← encodeEventPayload time event.payload
  return ⟨event.id.toString, event.sessionId.toString, .ofCounter event.sequence, occurredAt,
    payload⟩

/-- An event checks that its payload is about its own session. -/
def decodeEvent (dto : AgentEventDto) : Except Abort AgentEvent := do
  let id ← parseId .event dto.id
  let sessionId ← parseId .session dto.sessionId
  let sequence ← decodeCounter .eventSequence dto.sequence
  let occurredAt ← decodeTimestamp time dto.occurredAt "event occurred_at"
  let payload ← decodeEventPayload time dto.payload
  validated (AgentEvent.new id sessionId sequence occurredAt payload)

def encodeMessageDto : ProtocolMessage → Except ProtocolError MessageDto
  | .providerDescriptor descriptor => .ok (.providerDescriptor (encodeProviderDescriptor descriptor))
  | .channelDescriptor descriptor => .ok (.channelDescriptor (encodeChannelDescriptor descriptor))
  | .agentSession session => (encodeSession time session).map .agentSession
  | .agentEvent event => (encodeEvent time event).map .agentEvent
  | .interactionRequest request => (encodeInteractionRequest time request).map .interactionRequest
  | .interactionResponse response =>
    (encodeInteractionResponse time response).map .interactionResponse
  | .agentCommand command => (encodeCommand time command).map .agentCommand

/-- Every message is written under version two. -/
def encodeEnvelope (message : ProtocolMessage) : Except ProtocolError EnvelopeDto :=
  (encodeMessageDto time message).map fun dto => ⟨v2ProtocolVersion, dto⟩

def decodeMessageDto : MessageDto → Except Abort ProtocolMessage
  | .providerDescriptor descriptor =>
    (decodeProviderDescriptor descriptor).map .providerDescriptor
  | .channelDescriptor descriptor => (decodeChannelDescriptor descriptor).map .channelDescriptor
  | .agentSession session => (decodeSession time session).map .agentSession
  | .agentEvent event => (decodeEvent time event).map .agentEvent
  | .interactionRequest request => (decodeInteractionRequest time request).map .interactionRequest
  | .interactionResponse response =>
    (decodeInteractionResponse time response).map .interactionResponse
  | .agentCommand command => (decodeCommand time command).map .agentCommand

/-- The version is checked again in the typed envelope. -/
def decodeEnvelope (envelope : EnvelopeDto) : Except Abort ProtocolMessage :=
  if envelope.protocolVersion ≠ v2ProtocolVersion then
    .error (.failed (.unsupportedProtocolVersion envelope.protocolVersion v2ProtocolVersion))
  else decodeMessageDto time envelope.message

end Dated

/-- JSON text and the derived readers and writers of the records. -/
structure SerdeJson where
  Value : Type
  toVec : EnvelopeDto → Except String (List UInt8)
  fromSlice : List UInt8 → Except String Value
  /-- A member of a JSON object, if it is an unsigned integer. -/
  getU64 : Value → String → Option Nat
  fromValue : Value → Except String EnvelopeDto

section Codec

variable (serde : SerdeJson) (time : Rfc3339)

/-- `encode_json`: first the record, then its text. -/
def encodeJson (message : ProtocolMessage) : Except ProtocolError (List UInt8) := do
  let envelope ← encodeEnvelope time message
  (serde.toVec envelope).mapError .jsonEncode

/-- `decode_json`: the version is read from the raw value, before the record. -/
def decodeJson (input : List UInt8) : Except Abort ProtocolMessage :=
  match serde.fromSlice input with
  | .error source => .error (.failed (.jsonDecode source))
  | .ok value =>
    match serde.getU64 value "protocol_version" with
    | none =>
      .error (.failed (.invalidWireValue "protocol_version" "expected an unsigned JSON integer"))
    | some received =>
      if received ≠ v2ProtocolVersion then
        .error (.failed (.unsupportedProtocolVersion received v2ProtocolVersion))
      else
        match serde.fromValue value with
        | .error source => .error (.failed (.jsonDecode source))
        | .ok envelope => decodeEnvelope time envelope

end Codec

end AgentPulse
