import AgentPulse.ProtocolDto
import AgentPulse.SerdeShape

/-!
# The derived readers of protocol v2

Every record and enumeration of the codec as serde derives its reader: the names
of its fields in their order, which of them have a default, and how an
enumeration is tagged.
-/
namespace AgentPulse

open Serde (StrictShape StrictRecord)

/-- A counter is read from its decimal text only. -/
def DecimalU64.shape : StrictShape DecimalU64 :=
  StrictShape.text.andThen fun value => (DecimalU64.visitStr value).toOption

/-- A capability is read by its name; an unknown one fails the reader. -/
def ProviderCapabilityDto.shape : StrictShape ProviderCapabilityDto :=
  .units [("session_state", .sessionState), ("tool_events", .toolEvents), ("plan", .plan),
    ("progress", .progress), ("approval_request", .approvalRequest),
    ("approval_response", .approvalResponse), ("user_input_request", .userInputRequest),
    ("user_input_response", .userInputResponse), ("prompt_submit", .promptSubmit),
    ("cancel", .cancel), ("control", .control)]

def ChannelCapabilityDto.shape : StrictShape ChannelCapabilityDto :=
  .units [("notification", .notification), ("session_view", .sessionView),
    ("tool_view", .toolView), ("plan_view", .planView), ("progress_view", .progressView),
    ("rich_message", .richMessage), ("approval", .approval), ("choice_input", .choiceInput),
    ("text_input", .textInput), ("form_input", .formInput), ("realtime_sync", .realtimeSync),
    ("remote_command", .remoteCommand)]

def AgentStateDto.shape : StrictShape AgentStateDto :=
  .units [("initializing", .initializing), ("idle", .idle), ("running", .running),
    ("waiting_for_interaction", .waitingForInteraction), ("completed", .completed),
    ("failed", .failed), ("cancelled", .cancelled)]

def ConnectionStateDto.shape : StrictShape ConnectionStateDto :=
  .units [("connected", .connected), ("reconnecting", .reconnecting),
    ("disconnected", .disconnected)]

def AgentMessageRoleDto.shape : StrictShape AgentMessageRoleDto :=
  .units [("user", .user), ("assistant", .assistant), ("system", .system)]

def AgentMessageLevelDto.shape : StrictShape AgentMessageLevelDto :=
  .units [("info", .info), ("warning", .warning), ("error", .error)]

def ToolOutcomeDto.shape : StrictShape ToolOutcomeDto :=
  .units [("succeeded", .succeeded), ("failed", .failed), ("cancelled", .cancelled)]

def PlanItemStatusDto.shape : StrictShape PlanItemStatusDto :=
  .units [("pending", .pending), ("in_progress", .inProgress), ("completed", .completed),
    ("blocked", .blocked), ("skipped", .skipped)]

def ApprovalCommandKindDto.shape : StrictShape ApprovalCommandKindDto :=
  .units [("command", .command), ("write_stdin", .writeStdin)]

def ApprovalFileChangeKindDto.shape : StrictShape ApprovalFileChangeKindDto :=
  .units [("add", .add), ("delete", .delete), ("update", .update)]

def ApprovalDispositionDto.shape : StrictShape ApprovalDispositionDto :=
  .units [("approve", .approve), ("reject", .reject), ("cancel", .cancel)]

def InteractionCloseReasonDto.shape : StrictShape InteractionCloseReasonDto :=
  .units [("resolved_elsewhere", .resolvedElsewhere), ("provider_cancelled", .providerCancelled)]

def PromptDeliveryDto.shape : StrictShape PromptDeliveryDto :=
  .units [("queue", .queue), ("steer", .steer)]

def QueueActionDto.shape : StrictShape QueueActionDto :=
  .units [("pause", .pause), ("resume", .resume), ("clear", .clear)]

/-- Only the version may be left out. -/
def ProviderDescriptorDto.shape : StrictShape ProviderDescriptorDto :=
  .object (StrictRecord.start ProviderDescriptorDto.mk
    |>.required "id" .text
    |>.required "kind" .text
    |>.required "display_name" .text
    |>.optional "version" .text
    |>.required "capabilities" ProviderCapabilityDto.shape.list) (by decide)

def ChannelDescriptorDto.shape : StrictShape ChannelDescriptorDto :=
  .object (StrictRecord.start ChannelDescriptorDto.mk
    |>.required "id" .text
    |>.required "kind" .text
    |>.required "display_name" .text
    |>.optional "version" .text
    |>.required "capabilities" ChannelCapabilityDto.shape.list) (by decide)

def WorkspaceRefDto.shape : StrictShape WorkspaceRefDto :=
  .object (StrictRecord.start WorkspaceRefDto.mk
    |>.required "path" .text
    |>.optional "display_name" .text) (by decide)

/-- The three fields that a session may lack are read as absent or null. -/
def AgentSessionDto.shape : StrictShape AgentSessionDto :=
  .object (StrictRecord.start AgentSessionDto.mk
    |>.required "id" .text
    |>.required "provider_id" .text
    |>.optional "external_id" .text
    |>.optional "title" .text
    |>.optional "workspace" WorkspaceRefDto.shape
    |>.required "state" AgentStateDto.shape
    |>.required "connection_state" ConnectionStateDto.shape
    |>.required "revision" DecimalU64.shape
    |>.required "created_at" .text
    |>.required "updated_at" .text) (by decide)

def AgentMessageDto.shape : StrictShape AgentMessageDto :=
  .object (StrictRecord.start AgentMessageDto.mk
    |>.required "role" AgentMessageRoleDto.shape
    |>.required "level" AgentMessageLevelDto.shape
    |>.required "content" .text) (by decide)

/-- Tagged inside the record, by the field `type`. -/
def ToolActivityDto.shape : StrictShape ToolActivityDto :=
  .internallyTagged "type" [
    ("started", .object (StrictRecord.start ToolActivityDto.started
      |>.required "call_id" .text
      |>.required "name" .text
      |>.optional "summary" .text) (by decide)),
    ("finished", .object (StrictRecord.start ToolActivityDto.finished
      |>.required "call_id" .text
      |>.required "outcome" ToolOutcomeDto.shape
      |>.optional "summary" .text) (by decide))]

/-- A failure must give its error; the other outcomes may stay silent. -/
def SessionOutcomeDto.shape : StrictShape SessionOutcomeDto :=
  .internallyTagged "type" [
    ("completed", .object (StrictRecord.start SessionOutcomeDto.completed
      |>.optional "summary" .text) (by decide)),
    ("failed", .object (StrictRecord.start SessionOutcomeDto.failed
      |>.required "error" .text) (by decide)),
    ("cancelled", .object (StrictRecord.start SessionOutcomeDto.cancelled
      |>.optional "reason" .text) (by decide))]

def PlanItemDto.shape : StrictShape PlanItemDto :=
  .object (StrictRecord.start PlanItemDto.mk
    |>.required "id" .text
    |>.required "content" .text
    |>.required "status" PlanItemStatusDto.shape) (by decide)

def PlanSnapshotDto.shape : StrictShape PlanSnapshotDto :=
  .object (StrictRecord.start PlanSnapshotDto.mk
    |>.required "revision" DecimalU64.shape
    |>.optional "explanation" .text
    |>.required "items" PlanItemDto.shape.list) (by decide)

/-- The unit variant reads nothing beyond its tag. -/
def ProgressValueDto.shape : StrictShape ProgressValueDto :=
  .internallyTagged "type" [
    ("indeterminate", .unit .indeterminate),
    ("determinate", .object (StrictRecord.start ProgressValueDto.determinate
      |>.required "completed" DecimalU64.shape
      |>.required "total" DecimalU64.shape) (by decide))]

def ProgressSnapshotDto.shape : StrictShape ProgressSnapshotDto :=
  .object (StrictRecord.start ProgressSnapshotDto.mk
    |>.required "revision" DecimalU64.shape
    |>.required "value" ProgressValueDto.shape
    |>.optional "message" .text) (by decide)

def ApprovalNetworkContextDto.shape : StrictShape ApprovalNetworkContextDto :=
  .object (StrictRecord.start ApprovalNetworkContextDto.mk
    |>.required "host" .text
    |>.required "protocol" .text) (by decide)

def ApprovalFileChangeDto.shape : StrictShape ApprovalFileChangeDto :=
  .object (StrictRecord.start ApprovalFileChangeDto.mk
    |>.required "path" .text
    |>.required "kind" ApprovalFileChangeKindDto.shape
    |>.required "diff" .text) (by decide)

/-- Only the kind of a command is required, and only the changes of files. -/
def ApprovalSubjectDto.shape : StrictShape ApprovalSubjectDto :=
  .internallyTagged "type" [
    ("command", .object (StrictRecord.start ApprovalSubjectDto.command
      |>.required "kind" ApprovalCommandKindDto.shape
      |>.optional "command" .text
      |>.optional "cwd" .text
      |>.optional "reason" .text
      |>.optional "network" ApprovalNetworkContextDto.shape) (by decide)),
    ("file_change", .object (StrictRecord.start ApprovalSubjectDto.fileChange
      |>.required "changes" ApprovalFileChangeDto.shape.list
      |>.optional "grant_root" .text
      |>.optional "reason" .text) (by decide))]

def ApprovalOptionDto.shape : StrictShape ApprovalOptionDto :=
  .object (StrictRecord.start ApprovalOptionDto.mk
    |>.required "id" .text
    |>.required "disposition" ApprovalDispositionDto.shape
    |>.required "label" .text
    |>.optional "description" .text) (by decide)

def ChoiceOptionDto.shape : StrictShape ChoiceOptionDto :=
  .object (StrictRecord.start ChoiceOptionDto.mk
    |>.required "id" .text
    |>.required "label" .text
    |>.optional "description" .text) (by decide)

/-- Every field of a form field is required, both flags among them. -/
def FormFieldDto.shape : StrictShape FormFieldDto :=
  .object (StrictRecord.start FormFieldDto.mk
    |>.required "id" .text
    |>.required "header" .text
    |>.required "prompt" .text
    |>.required "options" ChoiceOptionDto.shape.list
    |>.required "allows_other" .flag
    |>.required "sensitive" .flag) (by decide)

/-- An approval may leave out only why it is not available. -/
def InteractionRequestPayloadDto.shape : StrictShape InteractionRequestPayloadDto :=
  .internallyTagged "type" [
    ("approval", .object (StrictRecord.start InteractionRequestPayloadDto.approval
      |>.required "subject" ApprovalSubjectDto.shape
      |>.required "options" ApprovalOptionDto.shape.list
      |>.optional "unavailable_reason" .text) (by decide)),
    ("choice", .object (StrictRecord.start InteractionRequestPayloadDto.choice
      |>.required "options" ChoiceOptionDto.shape.list
      |>.required "multiple" .flag) (by decide)),
    ("text", .object (StrictRecord.start InteractionRequestPayloadDto.text
      |>.optional "placeholder" .text
      |>.required "multiline" .flag) (by decide)),
    ("form", .object (StrictRecord.start InteractionRequestPayloadDto.form
      |>.required "fields" FormFieldDto.shape.list
      |>.required "blocking" .flag) (by decide))]

def InteractionRequestDto.shape : StrictShape InteractionRequestDto :=
  .object (StrictRecord.start InteractionRequestDto.mk
    |>.required "id" .text
    |>.required "session_id" .text
    |>.required "requested_at" .text
    |>.optional "expires_at" .text
    |>.required "prompt" .text
    |>.required "payload" InteractionRequestPayloadDto.shape) (by decide)

def FormAnswerValueDto.shape : StrictShape FormAnswerValueDto :=
  .internallyTagged "type" [
    ("choice", .object (StrictRecord.start FormAnswerValueDto.choice
      |>.required "option_id" .text) (by decide)),
    ("text", .object (StrictRecord.start FormAnswerValueDto.text
      |>.required "text" .text) (by decide))]

def FormAnswerDto.shape : StrictShape FormAnswerDto :=
  .object (StrictRecord.start FormAnswerDto.mk
    |>.required "field_id" .text
    |>.required "value" FormAnswerValueDto.shape) (by decide)

/-- One variant for each kind of request. -/
def InteractionResponsePayloadDto.shape : StrictShape InteractionResponsePayloadDto :=
  .internallyTagged "type" [
    ("approval", .object (StrictRecord.start InteractionResponsePayloadDto.approval
      |>.required "option_id" .text) (by decide)),
    ("choice", .object (StrictRecord.start InteractionResponsePayloadDto.choice
      |>.required "option_ids" StrictShape.text.list) (by decide)),
    ("text", .object (StrictRecord.start InteractionResponsePayloadDto.text
      |>.required "text" .text) (by decide)),
    ("form", .object (StrictRecord.start InteractionResponsePayloadDto.form
      |>.required "answers" FormAnswerDto.shape.list) (by decide))]

def InteractionResponseDto.shape : StrictShape InteractionResponseDto :=
  .object (StrictRecord.start InteractionResponseDto.mk
    |>.required "request_id" .text
    |>.required "session_id" .text
    |>.required "channel_id" .text
    |>.required "responded_at" .text
    |>.required "payload" InteractionResponsePayloadDto.shape) (by decide)

def InteractionClosedDto.shape : StrictShape InteractionClosedDto :=
  .object (StrictRecord.start InteractionClosedDto.mk
    |>.required "request_id" .text
    |>.required "session_id" .text
    |>.required "reason" InteractionCloseReasonDto.shape) (by decide)

/-- Five of these commands are unit variants without a record. -/
def AgentCommandPayloadDto.shape : StrictShape AgentCommandPayloadDto :=
  .internallyTagged "type" [
    ("submit_prompt", .object (StrictRecord.start AgentCommandPayloadDto.submitPrompt
      |>.required "text" .text
      |>.required "delivery" PromptDeliveryDto.shape) (by decide)),
    ("cancel_session", .object (StrictRecord.start AgentCommandPayloadDto.cancelSession
      |>.optional "reason" .text) (by decide)),
    ("list_models", .unit .listModels),
    ("select_model", .object (StrictRecord.start AgentCommandPayloadDto.selectModel
      |>.required "model" .text
      |>.optional "effort" .text) (by decide)),
    ("set_plan_mode", .object (StrictRecord.start AgentCommandPayloadDto.setPlanMode
      |>.required "enabled" .flag) (by decide)),
    ("list_threads", .object (StrictRecord.start AgentCommandPayloadDto.listThreads
      |>.optional "cursor" .text) (by decide)),
    ("resume_thread", .object (StrictRecord.start AgentCommandPayloadDto.resumeThread
      |>.required "thread_id" .text) (by decide)),
    ("start_thread", .object (StrictRecord.start AgentCommandPayloadDto.startThread
      |>.required "cwd" .text) (by decide)),
    ("compact", .unit .compact),
    ("review", .object (StrictRecord.start AgentCommandPayloadDto.review
      |>.optional "instructions" .text) (by decide)),
    ("rename", .object (StrictRecord.start AgentCommandPayloadDto.rename
      |>.required "name" .text) (by decide)),
    ("fork", .unit .fork),
    ("status", .unit .status),
    ("list_permission_profiles", .unit .listPermissionProfiles),
    ("select_permission_profile", .object
      (StrictRecord.start AgentCommandPayloadDto.selectPermissionProfile
        |>.required "profile" .text) (by decide)),
    ("queue", .object (StrictRecord.start AgentCommandPayloadDto.queue
      |>.required "action" QueueActionDto.shape) (by decide))]

def AgentCommandDto.shape : StrictShape AgentCommandDto :=
  .object (StrictRecord.start AgentCommandDto.mk
    |>.required "id" .text
    |>.required "session_id" .text
    |>.required "channel_id" .text
    |>.required "issued_at" .text
    |>.required "payload" AgentCommandPayloadDto.shape) (by decide)

/-- Every event carries one record under a name of its own. -/
def AgentEventPayloadDto.shape : StrictShape AgentEventPayloadDto :=
  .internallyTagged "type" [
    ("session_started", .object (StrictRecord.start AgentEventPayloadDto.sessionStarted
      |>.required "session" AgentSessionDto.shape) (by decide)),
    ("state_changed", .object (StrictRecord.start AgentEventPayloadDto.stateChanged
      |>.required "state" AgentStateDto.shape) (by decide)),
    ("connection_changed", .object (StrictRecord.start AgentEventPayloadDto.connectionChanged
      |>.required "connection_state" ConnectionStateDto.shape) (by decide)),
    ("message", .object (StrictRecord.start AgentEventPayloadDto.message
      |>.required "message" AgentMessageDto.shape) (by decide)),
    ("tool_activity", .object (StrictRecord.start AgentEventPayloadDto.toolActivity
      |>.required "activity" ToolActivityDto.shape) (by decide)),
    ("plan_updated", .object (StrictRecord.start AgentEventPayloadDto.planUpdated
      |>.required "plan" PlanSnapshotDto.shape) (by decide)),
    ("progress_updated", .object (StrictRecord.start AgentEventPayloadDto.progressUpdated
      |>.required "progress" ProgressSnapshotDto.shape) (by decide)),
    ("interaction_requested", .object (StrictRecord.start AgentEventPayloadDto.interactionRequested
      |>.required "request" InteractionRequestDto.shape) (by decide)),
    ("interaction_responded", .object (StrictRecord.start AgentEventPayloadDto.interactionResponded
      |>.required "response" InteractionResponseDto.shape) (by decide)),
    ("interaction_closed", .object (StrictRecord.start AgentEventPayloadDto.interactionClosed
      |>.required "interaction" InteractionClosedDto.shape) (by decide)),
    ("command_issued", .object (StrictRecord.start AgentEventPayloadDto.commandIssued
      |>.required "command" AgentCommandDto.shape) (by decide)),
    ("session_ended", .object (StrictRecord.start AgentEventPayloadDto.sessionEnded
      |>.required "outcome" SessionOutcomeDto.shape) (by decide))]

def AgentEventDto.shape : StrictShape AgentEventDto :=
  .object (StrictRecord.start AgentEventDto.mk
    |>.required "id" .text
    |>.required "session_id" .text
    |>.required "sequence" DecimalU64.shape
    |>.required "occurred_at" .text
    |>.required "payload" AgentEventPayloadDto.shape) (by decide)

/-- Tagged beside the record: `type` names what `payload` holds. -/
def MessageDto.shape : StrictShape MessageDto :=
  .adjacentlyTagged "type" "payload" (by decide) [
    ("provider_descriptor", ProviderDescriptorDto.shape.map .providerDescriptor),
    ("channel_descriptor", ChannelDescriptorDto.shape.map .channelDescriptor),
    ("agent_session", AgentSessionDto.shape.map .agentSession),
    ("agent_event", AgentEventDto.shape.map .agentEvent),
    ("interaction_request", InteractionRequestDto.shape.map .interactionRequest),
    ("interaction_response", InteractionResponseDto.shape.map .interactionResponse),
    ("agent_command", AgentCommandDto.shape.map .agentCommand)]

/-- The outermost record of a document. -/
def EnvelopeDto.shape : StrictShape EnvelopeDto :=
  .object (StrictRecord.start EnvelopeDto.mk
    |>.required "protocol_version" .u16
    |>.required "message" MessageDto.shape) (by decide)

end AgentPulse
