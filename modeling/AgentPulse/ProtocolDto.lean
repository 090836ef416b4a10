import AgentPulse.CoreEvent

/-!
# The messages of protocol v2 and their JSON shapes

`ProtocolMessage` is what the protocol carries. The `Dto` types are the records
that serde writes and reads: identifiers, texts and instants are strings there,
and unsigned 64-bit counters are decimal strings.
-/
namespace AgentPulse

/-- A semantic message of the versioned domain protocol. -/
inductive ProtocolMessage where
  | providerDescriptor (descriptor : ProviderDescriptor)
  | channelDescriptor (descriptor : ChannelDescriptor)
  | agentSession (session : AgentSession)
  | agentEvent (event : AgentEvent)
  | interactionRequest (request : InteractionRequest)
  | interactionResponse (response : InteractionResponse)
  | agentCommand (command : AgentCommand)
  deriving DecidableEq, Repr

/-- The only version that the codec reads and writes. -/
def v2ProtocolVersion : Nat := 2

/-- The failures of the codec. The source has one more, for variants added to a
core enumeration after the codec was written; there are none. -/
inductive ProtocolError where
  | jsonEncode (source : String)
  | jsonDecode (source : String)
  | unsupportedProtocolVersion (received supported : Nat)
  | invalidWireValue (field reason : String)
  | domain (source : DomainError)
  deriving DecidableEq, Repr

/-- A 64-bit counter, which travels as its decimal text. -/
structure DecimalU64 where
  get : Nat
  bounded : get < 2 ^ 64
  deriving Repr

theorem DecimalU64.ext_iff_get {a b : DecimalU64} : a.get = b.get ↔ a = b := by
  cases a
  cases b
  simp

instance : DecidableEq DecimalU64 := fun _ _ => decidable_of_iff _ DecimalU64.ext_iff_get

namespace DecimalU64

/-- The decimal text without leading zeros. -/
def serialize (self : DecimalU64) : String := self.get.repr

/-- The visitor of the deserializer: digits only, no leading zero, within range. -/
def visitStr (value : String) : Except String DecimalU64 :=
  let digits := value.toList
  if digits.isEmpty || !digits.all Char.isDigit ||
      (decide (digits.length > 1) && digits.head? == some '0') then
    .error "expected digits without signs, whitespace, or leading zeroes"
  else
    if h : Nat.ofDigitChars 10 digits 0 < 2 ^ 64 then .ok ⟨_, h⟩
    else .error "number too large to fit in target type"

theorem toDigits_head_ne_zero (n : Nat) (h : 0 < n) : (Nat.toDigits 10 n).head? ≠ some '0' := by
  induction n using Nat.strongRecOn with
  | _ n ih =>
    rw [Nat.toDigits_eq_if (by decide)]
    split
    · next hlt =>
      have hcases : ∀ m < 10, 0 < m → [m.digitChar].head? ≠ some '0' := by decide
      exact hcases n hlt h
    · next hge =>
      have hpos : 0 < n / 10 := Nat.div_pos (Nat.le_of_not_lt hge) (by decide)
      rw [List.head?_append_of_ne_nil _ Nat.toDigits_ne_nil]
      exact ih (n / 10) (Nat.div_lt_self h (by decide)) hpos

/-- A counter survives its decimal text. -/
theorem visitStr_serialize (self : DecimalU64) : visitStr self.serialize = .ok self := by
  have hdigits : ∀ c ∈ Nat.toDigits 10 self.get, c.isDigit = true :=
    fun c hc => Nat.isDigit_of_mem_toDigits (by decide) (by decide) hc
  have hzero : ¬ ((Nat.toDigits 10 self.get).length > 1 ∧
      (Nat.toDigits 10 self.get).head? = some '0') := by
    rintro ⟨hlength, hhead⟩
    by_cases hpos : 0 < self.get
    · exact toDigits_head_ne_zero self.get hpos hhead
    · rw [Nat.eq_zero_of_not_pos hpos, Nat.toDigits_zero] at hlength
      simp at hlength
  have hpass : ((Nat.toDigits 10 self.get).isEmpty || !(Nat.toDigits 10 self.get).all Char.isDigit ||
      (decide ((Nat.toDigits 10 self.get).length > 1) &&
        (Nat.toDigits 10 self.get).head? == some '0')) = false := by
    have hall : (Nat.toDigits 10 self.get).all Char.isDigit = true := List.all_eq_true.mpr hdigits
    have hne : (Nat.toDigits 10 self.get).isEmpty = false := by
      simp [Nat.toDigits_ne_nil]
    rw [hall, hne]
    simpa using hzero
  unfold visitStr serialize
  simp only [Nat.toList_repr, hpass, Nat.ofDigitChars_ten_toDigits]
  exact dif_pos self.bounded

end DecimalU64

inductive ProviderCapabilityDto where
  | sessionState | toolEvents | plan | progress | approvalRequest | approvalResponse
  | userInputRequest | userInputResponse | promptSubmit | cancel | control
  deriving DecidableEq, Repr

/-- Identifiers and texts are still unchecked here. -/
structure ProviderDescriptorDto where
  id : String
  kind : String
  displayName : String
  version : Option String
  capabilities : List ProviderCapabilityDto
  deriving DecidableEq, Repr

inductive ChannelCapabilityDto where
  | notification | sessionView | toolView | planView | progressView | richMessage | approval
  | choiceInput | textInput | formInput | realtimeSync | remoteCommand
  deriving DecidableEq, Repr

structure ChannelDescriptorDto where
  id : String
  kind : String
  displayName : String
  version : Option String
  capabilities : List ChannelCapabilityDto
  deriving DecidableEq, Repr

/-- The directory that an agent works in. -/
structure WorkspaceRefDto where
  path : String
  displayName : Option String
  deriving DecidableEq, Repr

inductive AgentStateDto where
  | initializing | idle | running | waitingForInteraction | completed | failed | cancelled
  deriving DecidableEq, Repr

inductive ConnectionStateDto where
  | connected | reconnecting | disconnected
  deriving DecidableEq, Repr

/-- A session with its two moments as RFC 3339 texts. -/
structure AgentSessionDto where
  id : String
  providerId : String
  externalId : Option String
  title : Option String
  workspace : Option WorkspaceRefDto
  state : AgentStateDto
  connectionState : ConnectionStateDto
  revision : DecimalU64
  createdAt : String
  updatedAt : String
  deriving DecidableEq, Repr

inductive AgentMessageRoleDto where
  | user | assistant | system
  deriving DecidableEq, Repr

inductive AgentMessageLevelDto where
  | info | warning | error
  deriving DecidableEq, Repr

structure AgentMessageDto where
  role : AgentMessageRoleDto
  level : AgentMessageLevelDto
  content : String
  deriving DecidableEq, Repr

inductive ToolOutcomeDto where
  | succeeded | failed | cancelled
  deriving DecidableEq, Repr

/-- The start or the end of one tool call. -/
inductive ToolActivityDto where
  | started (callId name : String) (summary : Option String)
  | finished (callId : String) (outcome : ToolOutcomeDto) (summary : Option String)
  deriving DecidableEq, Repr

inductive SessionOutcomeDto where
  | completed (summary : Option String)
  | failed (error : String)
  | cancelled (reason : Option String)
  deriving DecidableEq, Repr

inductive PlanItemStatusDto where
  | pending | inProgress | completed | blocked | skipped
  deriving DecidableEq, Repr

structure PlanItemDto where
  id : String
  content : String
  status : PlanItemStatusDto
  deriving DecidableEq, Repr

structure PlanSnapshotDto where
  revision : DecimalU64
  explanation : Option String
  items : List PlanItemDto
  deriving DecidableEq, Repr

/-- Determinate progress counts its steps as decimal texts. -/
inductive ProgressValueDto where
  | indeterminate
  | determinate (completed total : DecimalU64)
  deriving DecidableEq, Repr

structure ProgressSnapshotDto where
  revision : DecimalU64
  value : ProgressValueDto
  message : Option String
  deriving DecidableEq, Repr

inductive ApprovalCommandKindDto where
  | command | writeStdin
  deriving DecidableEq, Repr

structure ApprovalNetworkContextDto where
  host : String
  protocol : String
  deriving DecidableEq, Repr

inductive ApprovalFileChangeKindDto where
  | add | delete | update
  deriving DecidableEq, Repr

structure ApprovalFileChangeDto where
  path : String
  kind : ApprovalFileChangeKindDto
  diff : String
  deriving DecidableEq, Repr

/-- What is to be approved: a command or changes of files. -/
inductive ApprovalSubjectDto where
  | command (kind : ApprovalCommandKindDto) (command cwd reason : Option String)
      (network : Option ApprovalNetworkContextDto)
  | fileChange (changes : List ApprovalFileChangeDto) (grantRoot reason : Option String)
  deriving DecidableEq, Repr

inductive ApprovalDispositionDto where
  | approve | reject | cancel
  deriving DecidableEq, Repr

structure ApprovalOptionDto where
  id : String
  disposition : ApprovalDispositionDto
  label : String
  description : Option String
  deriving DecidableEq, Repr

structure ChoiceOptionDto where
  id : String
  label : String
  description : Option String
  deriving DecidableEq, Repr

/-- A field without options is answered with a text. -/
structure FormFieldDto where
  id : String
  header : String
  prompt : String
  options : List ChoiceOptionDto
  allowsOther : Bool
  sensitive : Bool
  deriving DecidableEq, Repr

/-- The four kinds of questions to a user. -/
inductive InteractionRequestPayloadDto where
  | approval (subject : ApprovalSubjectDto) (options : List ApprovalOptionDto)
      (unavailableReason : Option String)
  | choice (options : List ChoiceOptionDto) (multiple : Bool)
  | text (placeholder : Option String) (multiline : Bool)
  | form (fields : List FormFieldDto) (blocking : Bool)
  deriving DecidableEq, Repr

structure InteractionRequestDto where
  id : String
  sessionId : String
  requestedAt : String
  expiresAt : Option String
  prompt : String
  payload : InteractionRequestPayloadDto
  deriving DecidableEq, Repr

inductive FormAnswerValueDto where
  | choice (optionId : String)
  | text (text : String)
  deriving DecidableEq, Repr

structure FormAnswerDto where
  fieldId : String
  value : FormAnswerValueDto
  deriving DecidableEq, Repr

inductive InteractionResponsePayloadDto where
  | approval (optionId : String)
  | choice (optionIds : List String)
  | text (text : String)
  | form (answers : List FormAnswerDto)
  deriving DecidableEq, Repr

structure InteractionResponseDto where
  requestId : String
  sessionId : String
  channelId : String
  respondedAt : String
  payload : InteractionResponsePayloadDto
  deriving DecidableEq, Repr

inductive InteractionCloseReasonDto where
  | resolvedElsewhere | providerCancelled
  deriving DecidableEq, Repr

structure InteractionClosedDto where
  requestId : String
  sessionId : String
  reason : InteractionCloseReasonDto
  deriving DecidableEq, Repr

inductive PromptDeliveryDto where
  | queue | steer
  deriving DecidableEq, Repr

inductive QueueActionDto where
  | pause | resume | clear
  deriving DecidableEq, Repr

/-- What a channel may ask of a session. -/
inductive AgentCommandPayloadDto where
  | submitPrompt (text : String) (delivery : PromptDeliveryDto)
  | cancelSession (reason : Option String)
  | listModels
  | selectModel (model : String) (effort : Option String)
  | setPlanMode (enabled : Bool)
  | listThreads (cursor : Option String)
  | resumeThread (threadId : String)
  | startThread (cwd : String)
  | compact
  | review (instructions : Option String)
  | rename (name : String)
  | fork
  | status
  | listPermissionProfiles
  | selectPermissionProfile (profile : String)
  | queue (action : QueueActionDto)
  deriving DecidableEq, Repr

structure AgentCommandDto where
  id : String
  sessionId : String
  channelId : String
  issuedAt : String
  payload : AgentCommandPayloadDto
  deriving DecidableEq, Repr

inductive AgentEventPayloadDto where
  | sessionStarted (session : AgentSessionDto)
  | stateChanged (state : AgentStateDto)
  | connectionChanged (connectionState : ConnectionStateDto)
  | message (message : AgentMessageDto)
  | toolActivity (activity : ToolActivityDto)
  | planUpdated (plan : PlanSnapshotDto)
  | progressUpdated (progress : ProgressSnapshotDto)
  | interactionRequested (request : InteractionRequestDto)
  | interactionResponded (response : InteractionResponseDto)
  | interactionClosed (interaction : InteractionClosedDto)
  | commandIssued (command : AgentCommandDto)
  | sessionEnded (outcome : SessionOutcomeDto)
  deriving DecidableEq, Repr

structure AgentEventDto where
  id : String
  sessionId : String
  sequence : DecimalU64
  occurredAt : String
  payload : AgentEventPayloadDto
  deriving DecidableEq, Repr

/-- The seven messages of the protocol, by their type. -/
inductive MessageDto where
  | providerDescriptor (descriptor : ProviderDescriptorDto)
  | channelDescriptor (descriptor : ChannelDescriptorDto)
  | agentSession (session : AgentSessionDto)
  | agentEvent (event : AgentEventDto)
  | interactionRequest (request : InteractionRequestDto)
  | interactionResponse (response : InteractionResponseDto)
  | agentCommand (command : AgentCommandDto)
  deriving DecidableEq, Repr

/-- A message under the version of the protocol. -/
structure EnvelopeDto where
  protocolVersion : Nat
  message : MessageDto
  deriving DecidableEq, Repr

end AgentPulse
