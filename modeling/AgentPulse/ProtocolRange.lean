import AgentPulse.ProtocolRoundTrip

/-!
# Instants at the ends of the calendar

A text of RFC 3339 has a year between 0 and 9999 and any offset. Its instant may
have no UTC date-time at all, and then decoding panics; or it has one in a year
below 0, and then the decoded message cannot be encoded again. Both happen
exactly when the decoder meets such a text.
-/
namespace AgentPulse

/-- The computation ends with a value or an error. -/
def Calm {α : Type} (x : Except Abort α) : Prop := x ≠ .error .panicked

section Calm

variable {α β : Type}

theorem calm_ok (a : α) : Calm (.ok a : Except Abort α) := by simp [Calm]

theorem calm_bind {x : Except Abort α} {f : α → Except Abort β} (hx : Calm x)
    (hf : ∀ a, Calm (f a)) : Calm (x >>= f) := by
  intro h
  rcases Fallible.bind_eq_error.mp h with h | ⟨a, -, h⟩
  · exact hx h
  · exact hf a h

theorem calm_map {x : Except Abort α} {f : α → β} (hx : Calm x) : Calm (x.map f) :=
  fun h => hx (Fallible.map_eq_error.mp h)

theorem calm_mapM {f : α → Except Abort β} (hf : ∀ a, Calm (f a)) (xs : List α) :
    Calm (xs.mapM f) := by
  intro h
  obtain ⟨a, -, ha⟩ := Fallible.exists_of_mapM_error h
  exact hf a ha

theorem calm_validated (x : Except DomainError α) : Calm (validated x) := by
  cases x <;> simp [Calm, validated, Except.mapError]

theorem calm_parseId (k : IdKind) (value : String) : Calm (parseId k value) := calm_validated _

theorem calm_decodeText (value : String) : Calm (decodeText value) := calm_validated _

theorem calm_decodeOptional {decode : α → Except Abort β} (h : ∀ a, Calm (decode a))
    (value : Option α) : Calm (decodeOptional decode value) := by
  cases value with
  | none => exact calm_ok none
  | some a => exact calm_map (h a)

theorem calm_decodeOptionalText (value : Option String) : Calm (decodeOptionalText value) :=
  calm_decodeOptional calm_decodeText value

theorem calm_decodeCounter (kind : CounterKind) (value : DecimalU64) :
    Calm (decodeCounter kind value) := calm_validated _

theorem calm_decodeCapabilities {k : ComponentKind} [DecidableEq α] (field : String)
    (nameOf : α → String) (flagOf : α → Capabilities k) (seen : List α)
    (capabilities : Capabilities k) (values : List α) :
    Calm (decodeCapabilities field nameOf flagOf seen capabilities values) := by
  induction values generalizing seen capabilities with
  | nil => exact calm_ok capabilities
  | cons value values ih =>
    rw [decodeCapabilities]
    split
    · simp [Calm]
    · exact ih _ _

end Calm

theorem calm_decodeProviderDescriptor (dto : ProviderDescriptorDto) :
    Calm (decodeProviderDescriptor dto) :=
  calm_bind (calm_parseId _ _) fun _ => calm_bind (calm_validated _) fun _ =>
    calm_bind (calm_decodeText _) fun _ => calm_bind (calm_decodeCapabilities _ _ _ _ _ _) fun _ =>
      calm_bind (calm_decodeOptionalText _) fun _ => calm_ok _

theorem calm_decodeChannelDescriptor (dto : ChannelDescriptorDto) :
    Calm (decodeChannelDescriptor dto) :=
  calm_bind (calm_parseId _ _) fun _ => calm_bind (calm_validated _) fun _ =>
    calm_bind (calm_decodeText _) fun _ => calm_bind (calm_decodeCapabilities _ _ _ _ _ _) fun _ =>
      calm_bind (calm_decodeOptionalText _) fun _ => calm_ok _

theorem calm_decodeWorkspace (dto : WorkspaceRefDto) : Calm (decodeWorkspace dto) :=
  calm_bind (calm_decodeText _) fun _ => calm_bind (calm_decodeOptionalText _) fun _ => calm_ok _

theorem calm_decodeMessage (dto : AgentMessageDto) : Calm (decodeMessage dto) :=
  calm_bind (calm_decodeText _) fun _ => calm_ok _

theorem calm_decodeToolActivity (dto : ToolActivityDto) : Calm (decodeToolActivity dto) := by
  cases dto with
  | started callId name summary =>
    exact calm_bind (calm_parseId _ _) fun _ => calm_bind (calm_decodeText _) fun _ =>
      calm_bind (calm_decodeOptionalText _) fun _ => calm_ok _
  | finished callId outcome summary =>
    exact calm_bind (calm_parseId _ _) fun _ =>
      calm_bind (calm_decodeOptionalText _) fun _ => calm_ok _

theorem calm_decodeSessionOutcome (dto : SessionOutcomeDto) : Calm (decodeSessionOutcome dto) := by
  cases dto with
  | completed summary => exact calm_bind (calm_decodeOptionalText _) fun _ => calm_ok _
  | failed error => exact calm_bind (calm_decodeText _) fun _ => calm_ok _
  | cancelled reason => exact calm_bind (calm_decodeOptionalText _) fun _ => calm_ok _

theorem calm_decodePlanItem (dto : PlanItemDto) : Calm (decodePlanItem dto) :=
  calm_bind (calm_parseId _ _) fun _ => calm_bind (calm_decodeText _) fun _ => calm_ok _

theorem calm_decodePlan (dto : PlanSnapshotDto) : Calm (decodePlan dto) := by
  refine calm_bind (calm_mapM calm_decodePlanItem _) fun items =>
    calm_bind (calm_decodeCounter _ _) fun revision =>
      calm_bind (calm_validated _) fun plan => ?_
  cases dto.explanation with
  | none => exact calm_ok _
  | some explanation => exact calm_bind (calm_decodeText _) fun _ => calm_ok _

theorem calm_decodeProgress (dto : ProgressSnapshotDto) : Calm (decodeProgress dto) := by
  refine calm_bind (calm_decodeCounter _ _) fun revision => calm_bind ?_ fun value =>
    calm_bind (calm_decodeOptionalText _) fun _ => calm_ok _
  cases dto.value with
  | indeterminate => exact calm_ok _
  | determinate completed total => exact calm_bind (calm_validated _) fun _ => calm_ok _

theorem calm_decodeChoiceOption (dto : ChoiceOptionDto) : Calm (decodeChoiceOption dto) :=
  calm_bind (calm_parseId _ _) fun _ => calm_bind (calm_decodeText _) fun _ =>
    calm_bind (calm_decodeOptionalText _) fun _ => calm_ok _

theorem calm_decodeApprovalOption (dto : ApprovalOptionDto) : Calm (decodeApprovalOption dto) :=
  calm_bind (calm_parseId _ _) fun _ => calm_bind (calm_decodeText _) fun _ =>
    calm_bind (calm_decodeOptionalText _) fun _ => calm_ok _

theorem calm_decodeApprovalNetworkContext (dto : ApprovalNetworkContextDto) :
    Calm (decodeApprovalNetworkContext dto) :=
  calm_bind (calm_decodeText _) fun _ => calm_bind (calm_decodeText _) fun _ => calm_ok _

theorem calm_decodeApprovalFileChange (dto : ApprovalFileChangeDto) :
    Calm (decodeApprovalFileChange dto) :=
  calm_bind (calm_decodeText _) fun _ => calm_ok _

theorem calm_decodeApprovalSubject (dto : ApprovalSubjectDto) :
    Calm (decodeApprovalSubject dto) := by
  cases dto with
  | command kind command cwd reason network =>
    exact calm_bind (calm_decodeOptionalText _) fun _ =>
      calm_bind (calm_decodeOptionalText _) fun _ => calm_bind (calm_decodeOptionalText _) fun _ =>
        calm_bind (calm_decodeOptional calm_decodeApprovalNetworkContext _) fun _ => calm_ok _
  | fileChange changes grantRoot reason =>
    exact calm_bind (calm_mapM calm_decodeApprovalFileChange _) fun _ =>
      calm_bind (calm_decodeOptionalText _) fun _ =>
        calm_bind (calm_decodeOptionalText _) fun _ => calm_ok _

theorem calm_decodeApproval (subject : ApprovalSubject) (options : List ApprovalOption)
    (reason : Option String) : Calm (decodeApproval subject options reason) := by
  cases reason with
  | none =>
    rw [decodeApproval]
    split
    · simp [Calm]
    · exact calm_validated _
  | some reason =>
    rw [decodeApproval]
    split
    · exact calm_bind (calm_decodeText _) fun _ => calm_ok _
    · simp [Calm]

theorem calm_decodeFormField (dto : FormFieldDto) : Calm (decodeFormField dto) :=
  calm_bind (calm_parseId _ _) fun _ => calm_bind (calm_decodeText _) fun _ =>
    calm_bind (calm_decodeText _) fun _ =>
      calm_bind (calm_mapM calm_decodeChoiceOption _) fun _ => calm_validated _

theorem calm_decodeInteractionRequestPayload (dto : InteractionRequestPayloadDto) :
    Calm (decodeInteractionRequestPayload dto) := by
  cases dto with
  | approval subject options unavailableReason =>
    exact calm_bind (calm_decodeApprovalSubject _) fun _ =>
      calm_bind (calm_mapM calm_decodeApprovalOption _) fun _ =>
        calm_bind (calm_decodeApproval _ _ _) fun _ => calm_ok _
  | choice options multiple =>
    exact calm_bind (calm_mapM calm_decodeChoiceOption _) fun _ =>
      calm_bind (calm_validated _) fun _ => calm_ok _
  | text placeholder multiline =>
    exact calm_bind (calm_decodeOptionalText _) fun _ => calm_ok _
  | form fields blocking =>
    exact calm_bind (calm_mapM calm_decodeFormField _) fun _ =>
      calm_bind (calm_validated _) fun _ => calm_ok _

theorem calm_decodeFormAnswer (dto : FormAnswerDto) : Calm (decodeFormAnswer dto) := by
  refine calm_bind ?_ fun _ => calm_bind (calm_parseId _ _) fun _ => calm_ok _
  cases dto.value with
  | choice optionId => exact calm_bind (calm_parseId _ _) fun _ => calm_ok _
  | text text => exact calm_bind (calm_decodeText _) fun _ => calm_ok _

theorem calm_decodeInteractionResponsePayload (dto : InteractionResponsePayloadDto) :
    Calm (decodeInteractionResponsePayload dto) := by
  cases dto with
  | approval optionId => exact calm_bind (calm_parseId _ _) fun _ => calm_ok _
  | choice optionIds =>
    exact calm_bind (calm_mapM (calm_parseId _) _) fun _ =>
      calm_bind (calm_validated _) fun _ => calm_ok _
  | text text => exact calm_bind (calm_decodeText _) fun _ => calm_ok _
  | form answers =>
    exact calm_bind (calm_mapM calm_decodeFormAnswer _) fun _ =>
      calm_bind (calm_validated _) fun _ => calm_ok _

theorem calm_decodeInteractionClosed (dto : InteractionClosedDto) :
    Calm (decodeInteractionClosed dto) :=
  calm_bind (calm_parseId _ _) fun _ => calm_bind (calm_parseId _ _) fun _ => calm_ok _

theorem calm_decodeCommandPayload (dto : AgentCommandPayloadDto) :
    Calm (decodeCommandPayload dto) := by
  cases dto with
  | submitPrompt text delivery => exact calm_bind (calm_decodeText _) fun _ => calm_ok _
  | cancelSession reason => exact calm_bind (calm_decodeOptionalText _) fun _ => calm_ok _
  | selectModel model effort =>
    exact calm_bind (calm_decodeText _) fun _ =>
      calm_bind (calm_decodeOptionalText _) fun _ => calm_ok _
  | listThreads cursor => exact calm_bind (calm_decodeOptionalText _) fun _ => calm_ok _
  | resumeThread threadId => exact calm_bind (calm_decodeText _) fun _ => calm_ok _
  | startThread cwd => exact calm_bind (calm_decodeText _) fun _ => calm_ok _
  | review instructions => exact calm_bind (calm_decodeOptionalText _) fun _ => calm_ok _
  | rename name => exact calm_bind (calm_decodeText _) fun _ => calm_ok _
  | selectPermissionProfile profile => exact calm_bind (calm_decodeText _) fun _ => calm_ok _
  | _ => exact calm_ok _

/-- The UTC date-time lies in the supported years. -/
def OffsetDateTime.HasUtc (self : OffsetDateTime) : Prop :=
  -377705116800000000000 ≤ self.utcNanos ∧ self.utcNanos ≤ 253402300799999999999

instance (dateTime : OffsetDateTime) : Decidable dateTime.HasUtc :=
  inferInstanceAs (Decidable (_ ∧ _))

section Overflow

variable (time : Rfc3339)

/-- The text is an instant of RFC 3339 whose UTC date-time is not supported. -/
def Overflows (text : String) : Prop := ∃ dateTime, time.parse text = .ok dateTime ∧ ¬ dateTime.HasUtc

/-- The text is an instant of RFC 3339 with a UTC date-time. -/
def Instant (text : String) : Prop := ∃ dateTime, time.parse text = .ok dateTime ∧ dateTime.HasUtc

/-- The check passes. -/
def Passes {α : Type} (x : Except Abort α) : Prop := ∃ a, x = .ok a

/-! Each predicate reads the fields in the order of the decoder: an instant is
met only if the checks before it pass. -/

def AgentSessionDto.Overflows (dto : AgentSessionDto) : Prop :=
  AgentPulse.Overflows time dto.createdAt ∨
    (Instant time dto.createdAt ∧ AgentPulse.Overflows time dto.updatedAt)

def InteractionRequestDto.Overflows (dto : InteractionRequestDto) : Prop :=
  Passes (parseId .interaction dto.id) ∧ Passes (parseId .session dto.sessionId) ∧
    (AgentPulse.Overflows time dto.requestedAt ∨
      (Instant time dto.requestedAt ∧ Passes (decodeText dto.prompt) ∧
        Passes (decodeInteractionRequestPayload dto.payload) ∧
        ∃ expiresAt ∈ dto.expiresAt, AgentPulse.Overflows time expiresAt))

def InteractionResponseDto.Overflows (dto : InteractionResponseDto) : Prop :=
  Passes (parseId .interaction dto.requestId) ∧ Passes (parseId .session dto.sessionId) ∧
    Passes (parseId .channel dto.channelId) ∧ AgentPulse.Overflows time dto.respondedAt

def AgentCommandDto.Overflows (dto : AgentCommandDto) : Prop :=
  Passes (parseId .command dto.id) ∧ Passes (parseId .session dto.sessionId) ∧
    Passes (parseId .channel dto.channelId) ∧ AgentPulse.Overflows time dto.issuedAt

def AgentEventPayloadDto.Overflows : AgentEventPayloadDto → Prop
  | .sessionStarted session => session.Overflows time
  | .interactionRequested request => request.Overflows time
  | .interactionResponded response => response.Overflows time
  | .commandIssued command => command.Overflows time
  | _ => False

def AgentEventDto.Overflows (dto : AgentEventDto) : Prop :=
  Passes (parseId .event dto.id) ∧ Passes (parseId .session dto.sessionId) ∧
    0 < dto.sequence.get ∧ (AgentPulse.Overflows time dto.occurredAt ∨
      (Instant time dto.occurredAt ∧ dto.payload.Overflows time))

def MessageDto.Overflows : MessageDto → Prop
  | .agentSession session => session.Overflows time
  | .agentEvent event => event.Overflows time
  | .interactionRequest request => request.Overflows time
  | .interactionResponse response => response.Overflows time
  | .agentCommand command => command.Overflows time
  | .providerDescriptor _ | .channelDescriptor _ => False

variable {time}

theorem fromOffsetDateTime_some {dateTime : OffsetDateTime} (h : dateTime.HasUtc) :
    Timestamp.fromOffsetDateTime dateTime = some ⟨dateTime.utcNanos, h⟩ := dif_pos h

theorem fromOffsetDateTime_none {dateTime : OffsetDateTime} (h : ¬ dateTime.HasUtc) :
    Timestamp.fromOffsetDateTime dateTime = none := dif_neg h

theorem decodeTimestamp_panicked {text field : String} :
    decodeTimestamp time text field = .error .panicked ↔ Overflows time text := by
  unfold decodeTimestamp Overflows
  cases time.parse text with
  | error reason => simp
  | ok dateTime =>
    by_cases h : dateTime.HasUtc
    · simp [fromOffsetDateTime_some h, h]
    · simp [fromOffsetDateTime_none h, h]

theorem decodeTimestamp_passes {text field : String} :
    Passes (decodeTimestamp time text field) ↔ Instant time text := by
  unfold Passes decodeTimestamp Instant
  cases time.parse text with
  | error reason => simp
  | ok dateTime =>
    by_cases h : dateTime.HasUtc
    · simp [fromOffsetDateTime_some h, h]
    · simp [fromOffsetDateTime_none h, h]

/-- Behind a calm computation only the rest can panic. -/
theorem calm_bind_panicked {α β : Type} {x : Except Abort α} {f : α → Except Abort β} (hx : Calm x)
    {P : Prop} (hf : ∀ a, f a = .error .panicked ↔ P) :
    (x >>= f) = .error .panicked ↔ Passes x ∧ P := by
  rw [Fallible.bind_eq_error]
  constructor
  · rintro (h | ⟨a, ha, h⟩)
    · exact absurd h hx
    · exact ⟨⟨a, ha⟩, (hf a).mp h⟩
  · rintro ⟨⟨a, ha⟩, h⟩
    exact .inr ⟨a, ha, (hf a).mpr h⟩

/-- Behind an instant, the instant or the rest can panic. -/
theorem instant_bind_panicked {β : Type} {text field : String} {f : Timestamp → Except Abort β}
    {P : Prop} (hf : ∀ a, f a = .error .panicked ↔ P) :
    (decodeTimestamp time text field >>= f) = .error .panicked ↔
      Overflows time text ∨ (Instant time text ∧ P) := by
  have hpasses : Passes (decodeTimestamp time text field) ↔ Instant time text :=
    decodeTimestamp_passes
  rw [Fallible.bind_eq_error, decodeTimestamp_panicked, ← hpasses]
  constructor
  · rintro (h | ⟨a, ha, h⟩)
    · exact .inl h
    · exact .inr ⟨⟨a, ha⟩, (hf a).mp h⟩
  · rintro (h | ⟨⟨a, ha⟩, h⟩)
    · exact .inl h
    · exact .inr ⟨a, ha, (hf a).mpr h⟩

theorem instant_last_panicked {β : Type} {text field : String} {f : Timestamp → Except Abort β}
    (hf : ∀ a, Calm (f a)) :
    (decodeTimestamp time text field >>= f) = .error .panicked ↔ Overflows time text := by
  rw [instant_bind_panicked fun a => iff_false_intro (hf a)]
  simp

theorem decodeSession_panicked (dto : AgentSessionDto) :
    decodeSession time dto = .error .panicked ↔ dto.Overflows time := by
  unfold decodeSession AgentSessionDto.Overflows
  refine instant_bind_panicked fun createdAt => instant_last_panicked fun updatedAt => ?_
  exact calm_bind (calm_parseId _ _) fun _ => calm_bind (calm_parseId _ _) fun _ =>
    calm_bind (calm_decodeCounter _ _) fun _ =>
      calm_bind (calm_decodeOptional (fun _ => calm_validated _) _) fun _ =>
        calm_bind (calm_decodeOptionalText _) fun _ =>
          calm_bind (calm_decodeOptional calm_decodeWorkspace _) fun _ => calm_validated _

theorem decodeInteractionRequest_panicked (dto : InteractionRequestDto) :
    decodeInteractionRequest time dto = .error .panicked ↔ dto.Overflows time := by
  unfold decodeInteractionRequest InteractionRequestDto.Overflows
  refine calm_bind_panicked (calm_parseId _ _) fun id =>
    calm_bind_panicked (calm_parseId _ _) fun sessionId => instant_bind_panicked fun requestedAt =>
      calm_bind_panicked (calm_decodeText _) fun prompt =>
        calm_bind_panicked (calm_decodeInteractionRequestPayload _) fun payload => ?_
  cases dto.expiresAt with
  | none => simp
  | some expiresAt =>
    have h : (decodeTimestamp time expiresAt "interaction expires_at" >>= fun expiration =>
        validated ((InteractionRequest.new id sessionId requestedAt prompt payload).withExpiration
          expiration)) = .error .panicked ↔ Overflows time expiresAt :=
      instant_last_panicked fun expiration => calm_validated _
    simpa using h

theorem decodeInteractionResponse_panicked (dto : InteractionResponseDto) :
    decodeInteractionResponse time dto = .error .panicked ↔ dto.Overflows time := by
  unfold decodeInteractionResponse InteractionResponseDto.Overflows
  refine calm_bind_panicked (calm_parseId _ _) fun requestId =>
    calm_bind_panicked (calm_parseId _ _) fun sessionId =>
      calm_bind_panicked (calm_parseId _ _) fun channelId => instant_last_panicked fun respondedAt =>
        calm_bind (calm_decodeInteractionResponsePayload _) fun payload => calm_ok _

theorem decodeCommand_panicked (dto : AgentCommandDto) :
    decodeCommand time dto = .error .panicked ↔ dto.Overflows time := by
  unfold decodeCommand AgentCommandDto.Overflows
  refine calm_bind_panicked (calm_parseId _ _) fun id =>
    calm_bind_panicked (calm_parseId _ _) fun sessionId =>
      calm_bind_panicked (calm_parseId _ _) fun channelId => instant_last_panicked fun issuedAt =>
        calm_bind (calm_decodeCommandPayload _) fun payload => calm_ok _

theorem decodeEventPayload_panicked (dto : AgentEventPayloadDto) :
    decodeEventPayload time dto = .error .panicked ↔ dto.Overflows time := by
  cases dto with
  | sessionStarted session => exact Fallible.map_eq_error.trans (decodeSession_panicked session)
  | stateChanged state => exact iff_false_intro (calm_ok _)
  | connectionChanged connectionState => exact iff_false_intro (calm_ok _)
  | message message => exact iff_false_intro (calm_map (calm_decodeMessage message))
  | toolActivity activity => exact iff_false_intro (calm_map (calm_decodeToolActivity activity))
  | planUpdated plan => exact iff_false_intro (calm_map (calm_decodePlan plan))
  | progressUpdated progress => exact iff_false_intro (calm_map (calm_decodeProgress progress))
  | interactionRequested request =>
    exact Fallible.map_eq_error.trans (decodeInteractionRequest_panicked request)
  | interactionResponded response =>
    exact Fallible.map_eq_error.trans (decodeInteractionResponse_panicked response)
  | interactionClosed interaction =>
    exact iff_false_intro (calm_map (calm_decodeInteractionClosed interaction))
  | commandIssued command => exact Fallible.map_eq_error.trans (decodeCommand_panicked command)
  | sessionEnded outcome => exact iff_false_intro (calm_map (calm_decodeSessionOutcome outcome))

theorem decodeCounter_passes {kind : CounterKind} {value : DecimalU64} :
    Passes (decodeCounter kind value) ↔ 0 < value.get := by
  unfold Passes decodeCounter PositiveCounter.new
  by_cases h : 0 < value.get
  · simp [h]
  · simp [h, validated, Except.mapError]

theorem decodeEvent_panicked (dto : AgentEventDto) :
    decodeEvent time dto = .error .panicked ↔ dto.Overflows time := by
  unfold decodeEvent AgentEventDto.Overflows
  have hcounter : Passes (decodeCounter .eventSequence dto.sequence) ↔ 0 < dto.sequence.get :=
    decodeCounter_passes
  rw [← hcounter]
  refine calm_bind_panicked (calm_parseId _ _) fun id =>
    calm_bind_panicked (calm_parseId _ _) fun sessionId =>
      calm_bind_panicked (calm_decodeCounter _ _) fun sequence =>
        instant_bind_panicked fun occurredAt => ?_
  rw [Fallible.bind_eq_error, decodeEventPayload_panicked]
  constructor
  · rintro (h | ⟨payload, -, h⟩)
    · exact h
    · exact absurd h (calm_validated _)
  · exact .inl

theorem decodeMessageDto_panicked (dto : MessageDto) :
    decodeMessageDto time dto = .error .panicked ↔ dto.Overflows time := by
  cases dto with
  | providerDescriptor descriptor =>
    exact iff_false_intro (calm_map (calm_decodeProviderDescriptor descriptor))
  | channelDescriptor descriptor =>
    exact iff_false_intro (calm_map (calm_decodeChannelDescriptor descriptor))
  | agentSession session => exact Fallible.map_eq_error.trans (decodeSession_panicked session)
  | agentEvent event => exact Fallible.map_eq_error.trans (decodeEvent_panicked event)
  | interactionRequest request =>
    exact Fallible.map_eq_error.trans (decodeInteractionRequest_panicked request)
  | interactionResponse response =>
    exact Fallible.map_eq_error.trans (decodeInteractionResponse_panicked response)
  | agentCommand command => exact Fallible.map_eq_error.trans (decodeCommand_panicked command)

end Overflow

/-- The bytes are an envelope of this version as the JSON readers see it. -/
structure Reads (serde : SerdeJson) (input : List UInt8) (envelope : EnvelopeDto) : Prop where
  value : ∃ value, serde.fromSlice input = .ok value ∧
    serde.getU64 value "protocol_version" = some v2ProtocolVersion ∧
    serde.fromValue value = .ok envelope
  version : envelope.protocolVersion = v2ProtocolVersion

/-- Bytes are refused before any field is decoded, or they are an envelope. -/
theorem decodeJson_cases (serde : SerdeJson) (time : Rfc3339) (input : List UInt8) :
    ((∃ e, decodeJson serde time input = .error (.failed e)) ∧
      ∀ envelope, ¬ Reads serde input envelope) ∨
    ∃ envelope, Reads serde input envelope ∧
      (∀ other, Reads serde input other → other = envelope) ∧
      decodeJson serde time input = decodeMessageDto time envelope.message := by
  unfold decodeJson
  cases hslice : serde.fromSlice input with
  | error source =>
    refine .inl ⟨⟨_, rfl⟩, ?_⟩
    rintro envelope ⟨⟨value, h, -⟩, -⟩
    simp [hslice] at h
  | ok value =>
    cases hget : serde.getU64 value "protocol_version" with
    | none =>
      refine .inl ⟨⟨_, by simp [hget]; rfl⟩, ?_⟩
      rintro envelope ⟨⟨value', h, h', -⟩, -⟩
      rw [hslice] at h
      cases h
      simp [hget] at h'
    | some received =>
      by_cases hreceived : received = v2ProtocolVersion
      · cases hvalue : serde.fromValue value with
        | error source =>
          refine .inl ⟨⟨.jsonDecode source, by simp [hget, hreceived, hvalue]⟩, ?_⟩
          rintro envelope ⟨⟨value', h, -, h'⟩, -⟩
          rw [hslice] at h
          cases h
          simp [hvalue] at h'
        | ok envelope =>
          have hsame : ∀ other, Reads serde input other → other = envelope := by
            rintro other ⟨⟨value', h, -, h'⟩, -⟩
            rw [hslice] at h
            cases h
            rw [hvalue] at h'
            cases h'
            rfl
          by_cases hversion : envelope.protocolVersion = v2ProtocolVersion
          · refine .inr ⟨envelope, ⟨⟨value, hslice, by rw [hget, hreceived], hvalue⟩, hversion⟩,
              hsame, ?_⟩
            simp [hget, hreceived, hvalue, decodeEnvelope, hversion]
          · refine .inl ⟨⟨_, by simp [hget, hreceived, hvalue, decodeEnvelope, hversion]; rfl⟩, ?_⟩
            rintro other hreads
            rw [hsame other hreads] at hreads
            exact hversion hreads.version
      · refine .inl ⟨⟨_, by simp [hget, hreceived]; rfl⟩, ?_⟩
        rintro envelope ⟨⟨value', h, h', -⟩, -⟩
        rw [hslice] at h
        cases h
        rw [hget] at h'
        cases h'
        exact hreceived rfl

/-- Decoding returns, with a message or an error, exactly when it does not meet
an instant without a UTC date-time. -/
theorem decodeJson_returns_iff (serde : SerdeJson) (time : Rfc3339) (input : List UInt8) :
    decodeJson serde time input ≠ .error .panicked ↔
      ∀ envelope, Reads serde input envelope → ¬ envelope.message.Overflows time := by
  rcases decodeJson_cases serde time input with ⟨⟨e, he⟩, hnone⟩ | ⟨envelope, hreads, hsame, heq⟩
  · rw [he]
    simpa using fun envelope hreads _ => hnone envelope hreads
  · rw [heq, Ne, decodeMessageDto_panicked]
    constructor
    · intro h other hother
      rw [hsame other hother]
      exact h
    · intro h
      exact h envelope hreads

theorem Sample.eventSerde_reads (occurredAt : String) :
    (∀ envelope, Reads (Sample.eventSerde occurredAt)
        (Sample.eventText occurredAt).toUTF8.data.toList envelope →
      envelope = Sample.eventEnvelope occurredAt) ∧
    ∀ {time : Rfc3339}, decodeJson (Sample.eventSerde occurredAt) time
        (Sample.eventText occurredAt).toUTF8.data.toList =
      decodeMessageDto time (Sample.eventEnvelope occurredAt).message := by
  constructor
  · rintro envelope ⟨⟨value, hslice, -, hvalue⟩, -⟩
    simp only [Sample.eventSerde, Sample.serdeFor, if_pos] at hslice hvalue
    cases hslice
    cases hvalue
    rfl
  · intro time
    simp [decodeJson, Sample.eventSerde, Sample.serdeFor, decodeEnvelope, Sample.eventEnvelope,
      v2ProtocolVersion]

/-- The last second of the year 9999, a little west of Greenwich. -/
theorem decodeJson_panics_at_end_of_calendar :
    ¬ ∀ (serde : SerdeJson) (time : Rfc3339) (input : List UInt8),
      decodeJson serde time input ≠ .error .panicked := by
  intro h
  refine h (Sample.eventSerde "9999-12-31T23:59:59-23:59") Sample.rfc3339
    (Sample.eventText "9999-12-31T23:59:59-23:59").toUTF8.data.toList ?_
  have hdecode : decodeMessageDto Sample.rfc3339
      (Sample.eventEnvelope "9999-12-31T23:59:59-23:59").message = .error .panicked := by
    decide +kernel
  exact (Sample.eventSerde_reads "9999-12-31T23:59:59-23:59").2.trans hdecode

/-- The first instant of the year 0. -/
def yearZeroNanos : Int := -62167219200000000000

/-! The instants of a message, and the texts they are decoded from. -/

def AgentSession.instants (session : AgentSession) : List Timestamp :=
  [session.createdAt, session.updatedAt]

def InteractionRequest.instants (request : InteractionRequest) : List Timestamp :=
  request.requestedAt :: request.expiresAt.toList

def AgentEventPayload.instants : AgentEventPayload → List Timestamp
  | .sessionStarted session => session.instants
  | .interactionRequested request => request.instants
  | .interactionResponded response => [response.respondedAt]
  | .commandIssued command => [command.issuedAt]
  | _ => []

def AgentEvent.instants (event : AgentEvent) : List Timestamp :=
  event.occurredAt :: event.payload.instants

def ProtocolMessage.instants : ProtocolMessage → List Timestamp
  | .agentSession session => session.instants
  | .agentEvent event => event.instants
  | .interactionRequest request => request.instants
  | .interactionResponse response => [response.respondedAt]
  | .agentCommand command => [command.issuedAt]
  | .providerDescriptor _ | .channelDescriptor _ => []

def AgentSessionDto.timestamps (dto : AgentSessionDto) : List String :=
  [dto.createdAt, dto.updatedAt]

def InteractionRequestDto.timestamps (dto : InteractionRequestDto) : List String :=
  dto.requestedAt :: dto.expiresAt.toList

def AgentEventPayloadDto.timestamps : AgentEventPayloadDto → List String
  | .sessionStarted session => session.timestamps
  | .interactionRequested request => request.timestamps
  | .interactionResponded response => [response.respondedAt]
  | .commandIssued command => [command.issuedAt]
  | _ => []

def AgentEventDto.timestamps (dto : AgentEventDto) : List String :=
  dto.occurredAt :: dto.payload.timestamps

def MessageDto.timestamps : MessageDto → List String
  | .agentSession session => session.timestamps
  | .agentEvent event => event.timestamps
  | .interactionRequest request => request.timestamps
  | .interactionResponse response => [response.respondedAt]
  | .agentCommand command => [command.issuedAt]
  | .providerDescriptor _ | .channelDescriptor _ => []

section Instants

variable {time : Rfc3339}

/-- The instant is the one that the text denotes. -/
def Denotes (time : Rfc3339) (text : String) (instant : Timestamp) : Prop :=
  ∃ dateTime, time.parse text = .ok dateTime ∧ dateTime.utcNanos = instant.unixTimestampNanos

theorem decodeTimestamp_denotes {text field : String} {instant : Timestamp}
    (h : decodeTimestamp time text field = .ok instant) : Denotes time text instant := by
  unfold decodeTimestamp at h
  cases hparse : time.parse text with
  | error reason => simp [hparse] at h
  | ok dateTime =>
    by_cases hutc : dateTime.HasUtc
    · simp only [hparse, fromOffsetDateTime_some hutc] at h
      cases h
      exact ⟨dateTime, hparse, rfl⟩
    · simp [hparse, fromOffsetDateTime_none hutc] at h

theorem validated_eq_ok {α : Type} {x : Except DomainError α} {a : α} :
    validated x = .ok a ↔ x = .ok a := Fallible.mapError_eq_ok

theorem decodeSession_denotes {dto : AgentSessionDto} {session : AgentSession}
    (h : decodeSession time dto = .ok session) :
    List.Forall₂ (Denotes time) dto.timestamps session.instants := by
  unfold decodeSession at h
  simp only [Fallible.bind_eq_ok, validated_eq_ok] at h
  obtain ⟨createdAt, hcreated, updatedAt, hupdated, id, -, providerId, -, revision, -,
    externalId, -, title, -, workspace, -, h⟩ := h
  unfold AgentSessionBuilder.build at h
  split at h
  · cases h
    exact .cons (decodeTimestamp_denotes hcreated) (.cons (decodeTimestamp_denotes hupdated) .nil)
  · cases h

theorem decodeInteractionRequest_denotes {dto : InteractionRequestDto}
    {request : InteractionRequest} (h : decodeInteractionRequest time dto = .ok request) :
    List.Forall₂ (Denotes time) dto.timestamps request.instants := by
  unfold decodeInteractionRequest at h
  simp only [Fallible.bind_eq_ok] at h
  obtain ⟨id, -, sessionId, -, requestedAt, hrequested, prompt, -, payload, -, h⟩ := h
  have hfirst := decodeTimestamp_denotes hrequested
  cases hexpires : dto.expiresAt with
  | none =>
    simp only [hexpires] at h
    cases h
    rw [InteractionRequestDto.timestamps, hexpires]
    exact .cons hfirst .nil
  | some expiresAt =>
    simp only [hexpires, Fallible.bind_eq_ok, validated_eq_ok] at h
    obtain ⟨expiration, hexpiration, h⟩ := h
    unfold InteractionRequest.withExpiration at h
    split at h
    · cases h
      rw [InteractionRequestDto.timestamps, hexpires]
      exact .cons hfirst (.cons (decodeTimestamp_denotes hexpiration) .nil)
    · cases h

theorem decodeInteractionResponse_denotes {dto : InteractionResponseDto}
    {response : InteractionResponse} (h : decodeInteractionResponse time dto = .ok response) :
    Denotes time dto.respondedAt response.respondedAt := by
  unfold decodeInteractionResponse at h
  simp only [Fallible.bind_eq_ok] at h
  obtain ⟨requestId, -, sessionId, -, channelId, -, respondedAt, hresponded, payload, -, h⟩ := h
  cases h
  exact decodeTimestamp_denotes hresponded

theorem decodeCommand_denotes {dto : AgentCommandDto} {command : AgentCommand}
    (h : decodeCommand time dto = .ok command) : Denotes time dto.issuedAt command.issuedAt := by
  unfold decodeCommand at h
  simp only [Fallible.bind_eq_ok] at h
  obtain ⟨id, -, sessionId, -, channelId, -, issuedAt, hissued, payload, -, h⟩ := h
  cases h
  exact decodeTimestamp_denotes hissued

theorem decodeEventPayload_denotes {dto : AgentEventPayloadDto} {payload : AgentEventPayload}
    (h : decodeEventPayload time dto = .ok payload) :
    List.Forall₂ (Denotes time) dto.timestamps payload.instants := by
  cases dto with
  | sessionStarted session =>
    obtain ⟨session', hsession, rfl⟩ := Fallible.map_eq_ok.mp h
    exact decodeSession_denotes hsession
  | interactionRequested request =>
    obtain ⟨request', hrequest, rfl⟩ := Fallible.map_eq_ok.mp h
    exact decodeInteractionRequest_denotes hrequest
  | interactionResponded response =>
    obtain ⟨response', hresponse, rfl⟩ := Fallible.map_eq_ok.mp h
    exact .cons (decodeInteractionResponse_denotes hresponse) .nil
  | commandIssued command =>
    obtain ⟨command', hcommand, rfl⟩ := Fallible.map_eq_ok.mp h
    exact .cons (decodeCommand_denotes hcommand) .nil
  | stateChanged state =>
    cases h
    exact .nil
  | connectionChanged connectionState =>
    cases h
    exact .nil
  | _ =>
    obtain ⟨value, -, rfl⟩ := Fallible.map_eq_ok.mp h
    exact .nil

theorem decodeEvent_denotes {dto : AgentEventDto} {event : AgentEvent}
    (h : decodeEvent time dto = .ok event) :
    List.Forall₂ (Denotes time) dto.timestamps event.instants := by
  unfold decodeEvent at h
  simp only [Fallible.bind_eq_ok, validated_eq_ok] at h
  obtain ⟨id, -, sessionId, -, sequence, -, occurredAt, hoccurred, payload, hpayload, h⟩ := h
  have hfields : event.occurredAt = occurredAt ∧ event.payload = payload := by
    unfold AgentEvent.new at h
    split at h
    · cases h
      exact ⟨rfl, rfl⟩
    · split at h
      · cases h
        exact ⟨rfl, rfl⟩
      · cases h
  rw [AgentEvent.instants, hfields.1, hfields.2]
  exact .cons (decodeTimestamp_denotes hoccurred) (decodeEventPayload_denotes hpayload)

/-- The instants of a decoded message are those that its texts denote. -/
theorem decodeMessageDto_denotes {dto : MessageDto} {message : ProtocolMessage}
    (h : decodeMessageDto time dto = .ok message) :
    List.Forall₂ (Denotes time) dto.timestamps message.instants := by
  cases dto with
  | providerDescriptor descriptor =>
    obtain ⟨value, -, rfl⟩ := Fallible.map_eq_ok.mp h
    exact .nil
  | channelDescriptor descriptor =>
    obtain ⟨value, -, rfl⟩ := Fallible.map_eq_ok.mp h
    exact .nil
  | agentSession session =>
    obtain ⟨session', hsession, rfl⟩ := Fallible.map_eq_ok.mp h
    exact decodeSession_denotes hsession
  | agentEvent event =>
    obtain ⟨event', hevent, rfl⟩ := Fallible.map_eq_ok.mp h
    exact decodeEvent_denotes hevent
  | interactionRequest request =>
    obtain ⟨request', hrequest, rfl⟩ := Fallible.map_eq_ok.mp h
    exact decodeInteractionRequest_denotes hrequest
  | interactionResponse response =>
    obtain ⟨response', hresponse, rfl⟩ := Fallible.map_eq_ok.mp h
    exact .cons (decodeInteractionResponse_denotes hresponse) .nil
  | agentCommand command =>
    obtain ⟨command', hcommand, rfl⟩ := Fallible.map_eq_ok.mp h
    exact .cons (decodeCommand_denotes hcommand) .nil

end Instants

section Encodes

variable (time : Rfc3339)

/-- The writer of the time crate takes the instant. -/
def Writes (instant : Timestamp) : Prop := ∃ text, time.format instant = .ok text

/-- The encoder returns a value. -/
def Encodes {α : Type} (x : Except ProtocolError α) : Prop := ∃ a, x = .ok a

variable {time}

theorem encodes_map {α β : Type} {x : Except ProtocolError α} {f : α → β} :
    Encodes (x.map f) ↔ Encodes x := by
  constructor
  · rintro ⟨b, h⟩
    obtain ⟨a, ha, -⟩ := Fallible.map_eq_ok.mp h
    exact ⟨a, ha⟩
  · rintro ⟨a, ha⟩
    exact ⟨f a, Fallible.map_eq_ok.mpr ⟨a, ha, rfl⟩⟩

/-- A sequence encodes when its first part does and then the rest does. -/
theorem encodes_bind {α β : Type} {x : Except ProtocolError α} {f : α → Except ProtocolError β}
    {P : Prop} (hf : ∀ a, Encodes (f a) ↔ P) : Encodes (x >>= f) ↔ Encodes x ∧ P := by
  constructor
  · rintro ⟨b, h⟩
    obtain ⟨a, ha, hb⟩ := Fallible.bind_eq_ok.mp h
    exact ⟨⟨a, ha⟩, (hf a).mp ⟨b, hb⟩⟩
  · rintro ⟨⟨a, ha⟩, h⟩
    obtain ⟨b, hb⟩ := (hf a).mpr h
    exact ⟨b, Fallible.bind_eq_ok.mpr ⟨a, ha, hb⟩⟩

theorem encodes_ok {α : Type} (a : α) : Encodes (.ok a) ↔ True := iff_true_intro ⟨a, rfl⟩

theorem encodeTimestamp_encodes (instant : Timestamp) (field : String) :
    Encodes (encodeTimestamp time instant field) ↔ Writes time instant := by
  constructor
  · rintro ⟨text, h⟩
    exact ⟨text, Fallible.mapError_eq_ok.mp h⟩
  · rintro ⟨text, h⟩
    exact ⟨text, Fallible.mapError_eq_ok.mpr h⟩

theorem encodeSession_encodes (session : AgentSession) :
    Encodes (encodeSession time session) ↔ ∀ instant ∈ session.instants, Writes time instant := by
  have h : Encodes (encodeSession time session) ↔
      Encodes (encodeTimestamp time session.createdAt "session created_at") ∧
        Encodes (encodeTimestamp time session.updatedAt "session updated_at") ∧ True :=
    encodes_bind fun _ => encodes_bind fun _ => encodes_ok _
  rw [h, encodeTimestamp_encodes, encodeTimestamp_encodes]
  simp [AgentSession.instants]

theorem encodeInteractionRequest_encodes (request : InteractionRequest) :
    Encodes (encodeInteractionRequest time request) ↔
      ∀ instant ∈ request.instants, Writes time instant := by
  obtain ⟨id, sessionId, requestedAt, expiresAt, prompt, payload, hlater⟩ := request
  cases expiresAt with
  | none =>
    have h : Encodes (encodeInteractionRequest time
        ⟨id, sessionId, requestedAt, none, prompt, payload, hlater⟩) ↔
        Encodes (encodeTimestamp time requestedAt "interaction requested_at") ∧ True :=
      encodes_bind fun _ => encodes_ok _
    rw [h, encodeTimestamp_encodes]
    simp [InteractionRequest.instants]
  | some expiration =>
    have h : Encodes (encodeInteractionRequest time
        ⟨id, sessionId, requestedAt, some expiration, prompt, payload, hlater⟩) ↔
        Encodes (encodeTimestamp time requestedAt "interaction requested_at") ∧
          Encodes ((encodeTimestamp time expiration "interaction expires_at").map some) ∧ True :=
      encodes_bind fun _ => encodes_bind fun _ => encodes_ok _
    rw [h, encodes_map, encodeTimestamp_encodes, encodeTimestamp_encodes]
    simp [InteractionRequest.instants]

theorem encodeInteractionResponse_encodes (response : InteractionResponse) :
    Encodes (encodeInteractionResponse time response) ↔ Writes time response.respondedAt := by
  have h : Encodes (encodeInteractionResponse time response) ↔
      Encodes (encodeTimestamp time response.respondedAt "interaction responded_at") ∧ True :=
    encodes_bind fun _ => encodes_ok _
  rw [h, encodeTimestamp_encodes, and_true]

theorem encodeCommand_encodes (command : AgentCommand) :
    Encodes (encodeCommand time command) ↔ Writes time command.issuedAt := by
  have h : Encodes (encodeCommand time command) ↔
      Encodes (encodeTimestamp time command.issuedAt "command issued_at") ∧ True :=
    encodes_bind fun _ => encodes_ok _
  rw [h, encodeTimestamp_encodes, and_true]

theorem encodeEventPayload_encodes (payload : AgentEventPayload) :
    Encodes (encodeEventPayload time payload) ↔
      ∀ instant ∈ payload.instants, Writes time instant := by
  cases payload with
  | sessionStarted session => exact encodes_map.trans (encodeSession_encodes session)
  | interactionRequested request =>
    exact encodes_map.trans (encodeInteractionRequest_encodes request)
  | interactionResponded response =>
    refine encodes_map.trans ((encodeInteractionResponse_encodes response).trans ?_)
    simp [AgentEventPayload.instants]
  | commandIssued command =>
    refine encodes_map.trans ((encodeCommand_encodes command).trans ?_)
    simp [AgentEventPayload.instants]
  | _ =>
    refine (encodes_ok _).trans ?_
    simp [AgentEventPayload.instants]

theorem encodeEvent_encodes (event : AgentEvent) :
    Encodes (encodeEvent time event) ↔ ∀ instant ∈ event.instants, Writes time instant := by
  have h : Encodes (encodeEvent time event) ↔
      Encodes (encodeTimestamp time event.occurredAt "event occurred_at") ∧
        Encodes (encodeEventPayload time event.payload) ∧ True :=
    encodes_bind fun _ => encodes_bind fun _ => encodes_ok _
  rw [h, encodeTimestamp_encodes, encodeEventPayload_encodes]
  simp [AgentEvent.instants]

/-- A message can be encoded exactly when all of its instants can be written. -/
theorem encodeEnvelope_encodes (message : ProtocolMessage) :
    Encodes (encodeEnvelope time message) ↔
      ∀ instant ∈ message.instants, Writes time instant := by
  refine encodes_map.trans ?_
  cases message with
  | providerDescriptor descriptor =>
    refine (encodes_ok _).trans ?_
    simp [ProtocolMessage.instants]
  | channelDescriptor descriptor =>
    refine (encodes_ok _).trans ?_
    simp [ProtocolMessage.instants]
  | agentSession session => exact encodes_map.trans (encodeSession_encodes session)
  | agentEvent event => exact encodes_map.trans (encodeEvent_encodes event)
  | interactionRequest request =>
    exact encodes_map.trans (encodeInteractionRequest_encodes request)
  | interactionResponse response =>
    refine encodes_map.trans ((encodeInteractionResponse_encodes response).trans ?_)
    simp [ProtocolMessage.instants]
  | agentCommand command =>
    refine encodes_map.trans ((encodeCommand_encodes command).trans ?_)
    simp [ProtocolMessage.instants]

end Encodes

/-- An accepted message can be encoded, and comes back, exactly when none of the
texts it was decoded from denotes an instant before the year 0. The time crate
writes the years 0 to 9999, and no instant lies behind them. -/
theorem decodeJson_reencodes_iff (serde : SerdeJson) (time : Rfc3339) (hserde : serde.Inverse)
    (htime : time.Inverse) (input : List UInt8) (message : ProtocolMessage)
    (hinput : decodeJson serde time input = .ok message)
    (hwritten : ∀ envelope, encodeEnvelope time message = .ok envelope →
      ∃ output, serde.toVec envelope = .ok output)
    (hformat : ∀ instant ∈ message.instants,
      Writes time instant ↔ yearZeroNanos ≤ instant.unixTimestampNanos) :
    (∃ output, encodeJson serde time message = .ok output ∧
      decodeJson serde time output = .ok message) ↔
    ∀ envelope, Reads serde input envelope → ∀ text ∈ envelope.message.timestamps,
      ∀ dateTime, time.parse text = .ok dateTime → yearZeroNanos ≤ dateTime.utcNanos := by
  have hencodes : (∃ output, encodeJson serde time message = .ok output ∧
      decodeJson serde time output = .ok message) ↔ Encodes (encodeEnvelope time message) := by
    constructor
    · rintro ⟨output, houtput, -⟩
      obtain ⟨envelope, henvelope, -⟩ := Fallible.bind_eq_ok.mp houtput
      exact ⟨envelope, henvelope⟩
    · rintro ⟨envelope, henvelope⟩
      obtain ⟨output, houtput⟩ := hwritten envelope henvelope
      obtain ⟨hversion, hdecode⟩ := decodeEnvelope_encode htime henvelope
      refine ⟨output, ?_, ?_⟩
      · rw [encodeJson, henvelope, ok_bind, houtput]
        rfl
      · rw [decodeJson_toVec hserde time houtput hversion]
        exact hdecode
  have hinstants : (∀ instant ∈ message.instants, Writes time instant) ↔
      ∀ instant ∈ message.instants, yearZeroNanos ≤ instant.unixTimestampNanos :=
    forall₂_congr hformat
  rw [hencodes, encodeEnvelope_encodes, hinstants]
  rcases decodeJson_cases serde time input with ⟨⟨e, he⟩, -⟩ | ⟨envelope, hreads, hsame, heq⟩
  · rw [hinput] at he
    cases he
  · have hdenotes := decodeMessageDto_denotes (heq.symm.trans hinput)
    constructor
    · intro h other hother text htext dateTime hparse
      rw [hsame other hother] at htext
      obtain ⟨instant, hinstant, dateTime', hparse', hutc⟩ := Fallible.exists_of_forall₂ hdenotes htext
      rw [hparse] at hparse'
      cases hparse'
      rw [hutc]
      exact h instant hinstant
    · intro h instant hinstant
      obtain ⟨text, htext, dateTime, hparse, hutc⟩ := Fallible.exists_of_forall₂ hdenotes.flip hinstant
      rw [← hutc]
      exact h envelope hreads text htext dateTime hparse

/-- An event at the epoch can be forwarded. -/
theorem decodeJson_reencodes_epoch :
    let serde := Sample.eventSerde "1970-01-01T00:00:00Z"
    let input := (Sample.eventText "1970-01-01T00:00:00Z").toUTF8.data.toList
    decodeJson serde Sample.rfc3339 input = .ok (.agentEvent (Sample.message 0 1)) ∧
    ∃ output, encodeJson serde Sample.rfc3339 (.agentEvent (Sample.message 0 1)) = .ok output ∧
      decodeJson serde Sample.rfc3339 output = .ok (.agentEvent (Sample.message 0 1)) := by
  intro serde input
  have henvelope : encodeEnvelope Sample.rfc3339 (.agentEvent (Sample.message 0 1)) =
      .ok (Sample.eventEnvelope "1970-01-01T00:00:00Z") := by decide +kernel
  have hreads := Sample.eventSerde_reads "1970-01-01T00:00:00Z"
  have hinput : decodeJson serde Sample.rfc3339 input = .ok (.agentEvent (Sample.message 0 1)) := by
    rw [hreads.2]
    decide +kernel
  refine ⟨hinput, (decodeJson_reencodes_iff serde Sample.rfc3339 (Sample.serdeFor_inverse _ _)
    Sample.rfc3339_inverse input _ hinput ?_ ?_).mpr ?_⟩
  · intro envelope h
    rw [henvelope] at h
    cases h
    exact ⟨_, Sample.serdeFor_toVec _ _⟩
  · intro instant hinstant
    obtain rfl : instant = Sample.instant := by
      simpa [ProtocolMessage.instants, AgentEvent.instants, AgentEventPayload.instants,
        Sample.message] using hinstant
    exact ⟨fun _ => by decide, fun _ => ⟨_, rfl⟩⟩
  · intro envelope hread text htext dateTime hparse
    rw [hreads.1 envelope hread] at htext
    have hepoch : text = "1970-01-01T00:00:00Z" := by
      simpa [Sample.eventEnvelope, MessageDto.timestamps, AgentEventDto.timestamps,
        AgentEventPayloadDto.timestamps] using htext
    subst hepoch
    have heq : Sample.rfc3339.parse "1970-01-01T00:00:00Z" = .ok (.utc Sample.instant) := by
      decide +kernel
    rw [heq] at hparse
    cases hparse
    decide

/-- The first hour of the year 0, east of Greenwich: it is accepted as an instant
of the year -1, which has no text. -/
theorem decodeJson_accepts_unwritable_instant :
    ¬ ∀ (serde : SerdeJson) (time : Rfc3339) (input : List UInt8) (message : ProtocolMessage),
      serde.Inverse → time.Inverse → decodeJson serde time input = .ok message →
      ∃ output, encodeJson serde time message = .ok output ∧
        decodeJson serde time output = .ok message := by
  intro h
  have hdecode : decodeMessageDto Sample.rfc3339
      (Sample.eventEnvelope "0000-01-01T00:00:00+01:00").message = .ok (.agentEvent
        { Sample.message 0 1 with occurredAt := ⟨-62167222800000000000, by decide⟩ }) := by
    decide +kernel
  obtain ⟨output, houtput, -⟩ := h (Sample.eventSerde "0000-01-01T00:00:00+01:00") Sample.rfc3339
    (Sample.eventText "0000-01-01T00:00:00+01:00").toUTF8.data.toList _
    (Sample.serdeFor_inverse _ _) Sample.rfc3339_inverse
    ((Sample.eventSerde_reads "0000-01-01T00:00:00+01:00").2.trans hdecode)
  obtain ⟨envelope, henvelope, -⟩ := Fallible.bind_eq_ok.mp houtput
  have herror : encodeEnvelope Sample.rfc3339 (.agentEvent
      { Sample.message 0 1 with occurredAt := ⟨-62167222800000000000, by decide⟩ }) =
      .error (.invalidWireValue "event occurred_at"
        "The year component cannot be formatted into the requested format.") := by decide +kernel
  rw [herror] at henvelope
  cases henvelope

end AgentPulse
