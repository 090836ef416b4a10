import AgentPulse.CoreCapability

/-!
# Correlated interaction requests and responses

Requests come in four kinds and a response answers one of them. The
constructors reject empty or repeated option and field identifiers, and
`InteractionRequest.validateResponse` is the single place where a response is
compared with its request.
-/
namespace AgentPulse

inductive ApprovalDisposition where
  | approve | reject | cancel
  deriving DecidableEq, Repr

inductive ApprovalCommandKind where
  | command | writeStdin
  deriving DecidableEq, Repr

structure ApprovalNetworkContext where
  host : NonEmptyText
  protocol : NonEmptyText
  deriving DecidableEq, Repr

inductive ApprovalFileChangeKind where
  | add | delete | update
  deriving DecidableEq, Repr

/-- The diff may be empty and is kept exactly. -/
structure ApprovalFileChange where
  path : NonEmptyText
  kind : ApprovalFileChangeKind
  diff : String
  deriving DecidableEq, Repr

inductive ApprovalSubject where
  | command (kind : ApprovalCommandKind) (command cwd reason : Option NonEmptyText)
      (network : Option ApprovalNetworkContext)
  | fileChange (changes : List ApprovalFileChange) (grantRoot reason : Option NonEmptyText)
  deriving DecidableEq, Repr

structure ApprovalOption where
  id : ApprovalOptionId
  disposition : ApprovalDisposition
  label : NonEmptyText
  description : Option NonEmptyText
  deriving DecidableEq, Repr

/-- Either at least one uniquely identified option, or a reason why the
request cannot be answered; never both and never neither. -/
structure ApprovalRequest where
  subject : ApprovalSubject
  options : List ApprovalOption
  unavailableReason : Option NonEmptyText
  unique : (options.map ApprovalOption.id).Nodup
  exclusive : options = [] ↔ unavailableReason.isSome
  deriving DecidableEq, Repr

namespace ApprovalRequest

def actionable (subject : ApprovalSubject) (options : List ApprovalOption) :
    Except DomainError ApprovalRequest :=
  if h : options = [] then .error (.emptyCollection "approval options")
  else
    match hd : firstDuplicate [] (options.map ApprovalOption.id) with
    | some id => .error (.duplicateId "approval options" id.toString)
    | none => .ok ⟨subject, options, none, nodup_of_firstDuplicate hd, by simp [h]⟩

def unavailable (subject : ApprovalSubject) (reason : NonEmptyText) : ApprovalRequest :=
  ⟨subject, [], some reason, by simp, by simp⟩

def isActionable (self : ApprovalRequest) : Bool := !self.options.isEmpty

def contains (self : ApprovalRequest) (optionId : ApprovalOptionId) : Bool :=
  self.options.any fun option => option.id == optionId

end ApprovalRequest

structure ChoiceOption where
  id : ChoiceOptionId
  label : NonEmptyText
  description : Option NonEmptyText
  deriving DecidableEq, Repr

/-- A choice offers something, and nothing twice. -/
structure ChoiceRequest where
  options : List ChoiceOption
  multiple : Bool
  nonempty : options ≠ []
  unique : (options.map ChoiceOption.id).Nodup
  deriving DecidableEq, Repr

def ChoiceRequest.new (options : List ChoiceOption) (multiple : Bool) :
    Except DomainError ChoiceRequest :=
  if h : options = [] then .error (.emptyCollection "choice options")
  else
    match hd : firstDuplicate [] (options.map ChoiceOption.id) with
    | some id => .error (.duplicateId "choice options" id.toString)
    | none => .ok ⟨options, multiple, h, nodup_of_firstDuplicate hd⟩

def ChoiceRequest.contains (self : ChoiceRequest) (optionId : ChoiceOptionId) : Bool :=
  self.options.any fun option => option.id == optionId

structure TextInputRequest where
  placeholder : Option NonEmptyText
  multiline : Bool
  deriving DecidableEq, Repr

/-- A field without options is free text and must allow a custom answer. -/
structure FormField where
  id : FormFieldId
  header : NonEmptyText
  prompt : NonEmptyText
  options : List ChoiceOption
  allowsOther : Bool
  sensitive : Bool
  unique : (options.map ChoiceOption.id).Nodup
  answerable : options = [] → allowsOther = true
  deriving DecidableEq, Repr

def FormField.new (id : FormFieldId) (header prompt : NonEmptyText) (options : List ChoiceOption)
    (allowsOther sensitive : Bool) : Except DomainError FormField :=
  match hd : firstDuplicate [] (options.map ChoiceOption.id) with
  | some id => .error (.duplicateId "form field options" id.toString)
  | none =>
    if h : options = [] ∧ allowsOther = false then
      .error (.invalidChoiceSelection "a text form field must allow a custom answer")
    else
      .ok ⟨id, header, prompt, options, allowsOther, sensitive, nodup_of_firstDuplicate hd, by
        intro ho
        simpa [ho] using h⟩

def FormField.contains (self : FormField) (optionId : ChoiceOptionId) : Bool :=
  self.options.any fun option => option.id == optionId

/-- A form asks for something, and for no field twice. -/
structure FormRequest where
  fields : List FormField
  blocking : Bool
  nonempty : fields ≠ []
  unique : (fields.map FormField.id).Nodup
  deriving DecidableEq, Repr

def FormRequest.new (fields : List FormField) (blocking : Bool) :
    Except DomainError FormRequest :=
  if h : fields = [] then .error (.emptyCollection "form fields")
  else
    match hd : firstDuplicate [] (fields.map FormField.id) with
    | some id => .error (.duplicateId "form fields" id.toString)
    | none => .ok ⟨fields, blocking, h, nodup_of_firstDuplicate hd⟩

inductive FormAnswerValue where
  | choice (optionId : ChoiceOptionId)
  | text (value : NonEmptyText)
  deriving DecidableEq, Repr

structure FormAnswer where
  fieldId : FormFieldId
  value : FormAnswerValue
  deriving DecidableEq, Repr

structure FormResponse where
  answers : List FormAnswer
  nonempty : answers ≠ []
  unique : (answers.map FormAnswer.fieldId).Nodup
  deriving DecidableEq, Repr

def FormResponse.new (answers : List FormAnswer) : Except DomainError FormResponse :=
  if h : answers = [] then .error (.emptyCollection "form answers")
  else
    match hd : firstDuplicate [] (answers.map FormAnswer.fieldId) with
    | some id => .error (.duplicateId "form answers" id.toString)
    | none => .ok ⟨answers, h, nodup_of_firstDuplicate hd⟩

inductive InteractionRequestPayload where
  | approval (request : ApprovalRequest)
  | choice (request : ChoiceRequest)
  | text (request : TextInputRequest)
  | form (request : FormRequest)
  deriving DecidableEq, Repr

namespace InteractionRequestPayload

def requiredProviderRequestCapability : InteractionRequestPayload → ProviderCapabilities
  | .approval _ => ProviderCapabilities.approvalRequest
  | .choice _ | .text _ | .form _ => ProviderCapabilities.userInputRequest

def requiredProviderResponseCapability : InteractionRequestPayload → ProviderCapabilities
  | .approval _ => ProviderCapabilities.approvalResponse
  | .choice _ | .text _ | .form _ => ProviderCapabilities.userInputResponse

def requiredChannelResponseCapability : InteractionRequestPayload → ChannelCapabilities
  | .approval _ => ChannelCapabilities.approval
  | .choice _ => ChannelCapabilities.choiceInput
  | .text _ => ChannelCapabilities.textInput
  | .form _ => ChannelCapabilities.formInput

def isActionable : InteractionRequestPayload → Bool
  | .approval request => request.isActionable
  | .choice _ | .text _ | .form _ => true

end InteractionRequestPayload

/-- An expiration, when present, is later than the request. -/
structure InteractionRequest where
  id : InteractionId
  sessionId : SessionId
  requestedAt : Timestamp
  expiresAt : Option Timestamp
  prompt : NonEmptyText
  payload : InteractionRequestPayload
  expiresLater : ∀ t ∈ expiresAt, requestedAt < t
  deriving DecidableEq, Repr

def InteractionRequest.new (id : InteractionId) (sessionId : SessionId) (requestedAt : Timestamp)
    (prompt : NonEmptyText) (payload : InteractionRequestPayload) : InteractionRequest :=
  ⟨id, sessionId, requestedAt, none, prompt, payload, by simp⟩

def InteractionRequest.withExpiration (self : InteractionRequest) (expiresAt : Timestamp) :
    Except DomainError InteractionRequest :=
  if h : self.requestedAt < expiresAt then
    .ok { self with expiresAt := some expiresAt, expiresLater := by simpa using h }
  else .error (.invalidTimeOrder "interaction requested_at" "interaction expires_at")

inductive InteractionCloseReason where
  | resolvedElsewhere | providerCancelled
  deriving DecidableEq, Repr

structure InteractionClosed where
  requestId : InteractionId
  sessionId : SessionId
  reason : InteractionCloseReason
  deriving DecidableEq, Repr

structure ApprovalSelection where
  optionId : ApprovalOptionId
  deriving DecidableEq, Repr

structure ChoiceSelection where
  optionIds : List ChoiceOptionId
  nonempty : optionIds ≠ []
  unique : optionIds.Nodup
  deriving DecidableEq, Repr

def ChoiceSelection.new (optionIds : List ChoiceOptionId) : Except DomainError ChoiceSelection :=
  if h : optionIds = [] then .error (.emptyCollection "selected choice options")
  else
    match hd : firstDuplicate [] optionIds with
    | some id => .error (.duplicateId "selected choice options" id.toString)
    | none => .ok ⟨optionIds, h, nodup_of_firstDuplicate hd⟩

inductive InteractionResponsePayload where
  | approval (selection : ApprovalSelection)
  | choice (selection : ChoiceSelection)
  | text (value : NonEmptyText)
  | form (response : FormResponse)
  deriving DecidableEq, Repr

def InteractionResponsePayload.requiredProviderCapability :
    InteractionResponsePayload → ProviderCapabilities
  | .approval _ => ProviderCapabilities.approvalResponse
  | .choice _ | .text _ | .form _ => ProviderCapabilities.userInputResponse

structure InteractionResponse where
  requestId : InteractionId
  sessionId : SessionId
  channelId : ChannelId
  respondedAt : Timestamp
  payload : InteractionResponsePayload
  deriving DecidableEq, Repr

/-- The first selected option that the request does not offer. -/
def ChoiceRequest.validateSelection (self : ChoiceRequest) :
    List ChoiceOptionId → Except DomainError Unit
  | [] => .ok ()
  | optionId :: rest =>
    if self.contains optionId then self.validateSelection rest
    else .error (.unknownChoiceOption optionId.toString)

/-- One field's answer: a known option, or a text where custom text is allowed. -/
def FormField.validateAnswer (self : FormField) : FormAnswerValue → Except DomainError Unit
  | .choice optionId =>
    if self.contains optionId then .ok ()
    else .error (.invalidChoiceSelection "form answer selected an unknown option")
  | .text _ =>
    if self.allowsOther then .ok ()
    else .error (.invalidChoiceSelection "form field does not allow a custom answer")

/-- Every field in display order takes the first answer correlated with it. -/
def FormResponse.validateFields (self : FormResponse) : List FormField → Except DomainError Unit
  | [] => .ok ()
  | field :: rest =>
    match self.answers.find? fun answer => answer.fieldId == field.id with
    | none => .error (.invalidChoiceSelection "form responses must answer every field exactly once")
    | some answer =>
      match field.validateAnswer answer.value with
      | .error e => .error e
      | .ok () => self.validateFields rest

def InteractionRequestPayload.validateResponse :
    InteractionRequestPayload → InteractionResponsePayload → Except DomainError Unit
  | .approval request, .approval selection =>
    if !request.isActionable then .error .approvalUnavailable
    else if !request.contains selection.optionId then
      .error (.unknownApprovalOption selection.optionId.toString)
    else .ok ()
  | .text _, .text _ => .ok ()
  | .choice request, .choice selection =>
    if !request.multiple && selection.optionIds.length != 1 then
      .error (.invalidChoiceSelection "single-choice requests require exactly one selected option")
    else request.validateSelection selection.optionIds
  | .form request, .form response =>
    if response.answers.length != request.fields.length then
      .error (.invalidChoiceSelection "form responses must answer every field exactly once")
    else response.validateFields request.fields
  | _, _ => .error .interactionTypeMismatch

/-- A response must be correlated, timely and of the kind the request asks for,
checked in this order. -/
def InteractionRequest.validateResponse (self : InteractionRequest)
    (response : InteractionResponse) : Except DomainError Unit :=
  if response.requestId ≠ self.id then
    .error (.correlationMismatch "interaction request ID" self.id.toString
      response.requestId.toString)
  else if response.sessionId ≠ self.sessionId then
    .error (.correlationMismatch "interaction session ID" self.sessionId.toString
      response.sessionId.toString)
  else if response.respondedAt < self.requestedAt then
    .error (.invalidTimeOrder "interaction requested_at" "interaction responded_at")
  else if self.expiresAt.any fun expiresAt => decide (expiresAt < response.respondedAt) then
    .error .interactionExpired
  else self.payload.validateResponse response.payload

end AgentPulse
