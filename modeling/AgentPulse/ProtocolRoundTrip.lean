import AgentPulse.ProtocolConvert
import AgentPulse.CoreUuid
import AgentPulse.Fallible

/-!
# What is written reads back

Every decoder undoes its encoder: the fields come back through the checks of
their types, which the encoded value has already passed.
-/
namespace AgentPulse

@[simp] theorem parseId_toString {k : IdKind} (id : Ident k) : parseId k id.toString = .ok id := by
  rw [parseId, Ident.fromStr_toString]
  rfl

@[simp] theorem decodeText_asStr (text : NonEmptyText) : decodeText text.asStr = .ok text := by
  have hnew : NonEmptyText.new text.asStr = .ok text := by
    rw [NonEmptyText.new, dif_neg (by simp [text.nonBlank])]
  rw [decodeText, hnew]
  rfl

theorem decodeOptional_map {α β : Type} {decode : β → Except Abort α} {encode : α → β}
    (h : ∀ x, decode (encode x) = .ok x) (value : Option α) :
    decodeOptional decode (value.map encode) = .ok value := by
  cases value with
  | none => rfl
  | some x => simp [decodeOptional, h, Except.map]

@[simp] theorem decodeOptionalText_encode (value : Option NonEmptyText) :
    decodeOptionalText (encodeOptionalText value) = .ok value :=
  decodeOptional_map decodeText_asStr value

@[simp] theorem decodeSlug_asStr {kind : ComponentKind} (slug : Slug kind) :
    validated (Slug.new kind slug.asStr) = .ok slug := by
  rw [Slug.new, dif_pos slug.valid]
  rfl

@[simp] theorem decodeExternalId_asStr (externalId : ExternalId) :
    validated (ExternalId.new externalId.text.asStr) = .ok externalId := by
  rw [ExternalId.new, dif_neg (by simp [externalId.text.nonBlank])]
  rfl

@[simp] theorem decodeCounter_ofCounter {kind : CounterKind} (counter : PositiveCounter kind) :
    decodeCounter kind (.ofCounter counter) = .ok counter := by
  have hnew : PositiveCounter.new kind counter.get counter.bounded = .ok counter :=
    dif_pos counter.positive
  rw [decodeCounter, DecimalU64.ofCounter, hnew]
  rfl

theorem firstDuplicate_of_nodup {α : Type} [DecidableEq α] {xs : List α} (h : xs.Nodup) :
    firstDuplicate [] xs = none :=
  (firstDuplicate_eq_none_iff xs []).mpr ⟨h, by simp⟩

section Capabilities

variable {k : ComponentKind} {α : Type}

/-- Distinct names decode to the union of their flags. -/
theorem decodeCapabilities_ok [DecidableEq α] (field : String) (nameOf : α → String) (flagOf : α → Capabilities k)
    {values seen : List α} (hnodup : values.Nodup) (hfresh : ∀ value ∈ values, value ∉ seen)
    (capabilities : Capabilities k) :
    decodeCapabilities field nameOf flagOf seen capabilities values =
      .ok (values.foldl (fun held value => held.union (flagOf value)) capabilities) := by
  induction values generalizing seen capabilities with
  | nil => rfl
  | cons value values ih =>
    rw [List.nodup_cons] at hnodup
    rw [decodeCapabilities, if_neg (hfresh value List.mem_cons_self), List.foldl_cons]
    refine ih hnodup.2 ?_ _
    intro other hother hmem
    rcases List.mem_cons.mp hmem with rfl | hmem
    · exact hnodup.1 hother
    · exact hfresh other (List.mem_cons_of_mem value hother) hmem

/-- A bit of the union is a bit of the start or of one of the flags. -/
theorem foldl_union_getLsbD (flagOf : α → Capabilities k) (values : List α)
    (capabilities : Capabilities k) (j : Nat) :
    (values.foldl (fun held value => held.union (flagOf value)) capabilities).bits.getLsbD j =
      (capabilities.bits.getLsbD j || values.any fun value => (flagOf value).bits.getLsbD j) := by
  induction values generalizing capabilities with
  | nil => simp
  | cons value values ih =>
    rw [List.foldl_cons, ih]
    simp [Capabilities.union, Bool.or_assoc]

/-- A set contains a single flag exactly if it has its bit. -/
theorem contains_twoPow {value flag : Capabilities k} {i : Nat} (hi : i < 16)
    (hflag : flag.bits = BitVec.twoPow 16 i) : value.contains flag = value.bits.getLsbD i := by
  rw [Capabilities.contains, hflag, BitVec.and_twoPow]
  cases hbit : value.bits.getLsbD i with
  | true => simp
  | false =>
    have hne : (0#16 : BitVec 16) ≠ BitVec.twoPow 16 i := by
      intro heq
      have hbits := congrArg (fun bits => BitVec.getLsbD bits i) heq
      simp [hi] at hbits
    simpa using hne

/-- The flags of a set, collected one by one, are the set. -/
theorem foldl_union_contained {flagOf : α → Capabilities k} {names : List α} {index : α → Nat}
    (hflag : ∀ name, (flagOf name).bits = BitVec.twoPow 16 (index name))
    (hindex : ∀ name, index name < 16)
    (hcover : ∀ j < k.flagCount, ∃ name ∈ names, index name = j)
    {empty : Capabilities k} (hempty : empty.bits = 0#16) (value : Capabilities k) :
    (names.filter fun name => value.contains (flagOf name)).foldl
      (fun held name => held.union (flagOf name)) empty = value := by
  have hbits : ∀ j, ((names.filter fun name => value.contains (flagOf name)).foldl
      (fun held name => held.union (flagOf name)) empty).bits.getLsbD j = value.bits.getLsbD j := by
    intro j
    rw [foldl_union_getLsbD, hempty, BitVec.getLsbD_zero, Bool.false_or, Bool.eq_iff_iff,
      List.any_eq_true]
    constructor
    · rintro ⟨name, hname, hbit⟩
      obtain ⟨-, hcontains⟩ := List.mem_filter.mp hname
      rw [contains_twoPow (hindex name) (hflag name)] at hcontains
      rw [hflag, BitVec.getLsbD_twoPow] at hbit
      have hj : index name = j := by simpa [hindex name] using hbit
      rw [← hj]
      exact hcontains
    · intro hbit
      have hj : j < k.flagCount := by
        by_contra hge
        have hzero : value.bits.getLsbD j = false := by
          rw [BitVec.getLsbD, Nat.testBit_eq_false_of_lt]
          exact Nat.lt_of_lt_of_le value.known (Nat.pow_le_pow_right (by decide) (Nat.le_of_not_lt hge))
        rw [hzero] at hbit
        cases hbit
      obtain ⟨name, hname, rfl⟩ := hcover j hj
      refine ⟨name, List.mem_filter.mpr ⟨hname, ?_⟩, ?_⟩
      · rw [contains_twoPow (hindex name) (hflag name)]
        exact hbit
      · rw [hflag, BitVec.getLsbD_twoPow]
        simp [hindex name]
  have heq : ((names.filter fun name => value.contains (flagOf name)).foldl
      (fun held name => held.union (flagOf name)) empty).bits = value.bits :=
    BitVec.eq_of_getLsbD_eq fun j _ => hbits j
  revert heq
  generalize (names.filter fun name => value.contains (flagOf name)).foldl
    (fun held name => held.union (flagOf name)) empty = held
  intro heq
  cases held
  cases value
  simp_all

end Capabilities

/-- The bit that each provider capability stands for. -/
def providerCapabilityIndex : ProviderCapabilityDto → Nat
  | .sessionState => 0
  | .toolEvents => 1
  | .plan => 2
  | .progress => 3
  | .approvalRequest => 4
  | .approvalResponse => 5
  | .userInputRequest => 6
  | .userInputResponse => 7
  | .promptSubmit => 8
  | .cancel => 9
  | .control => 10

def providerCapabilityDtos : List ProviderCapabilityDto :=
  [.sessionState, .toolEvents, .plan, .progress, .approvalRequest, .approvalResponse,
    .userInputRequest, .userInputResponse, .promptSubmit, .cancel, .control]

/-- The table lists the capabilities by their own names. -/
theorem encodeProviderCapabilities_eq (value : ProviderCapabilities) :
    encodeProviderCapabilities value =
      providerCapabilityDtos.filter fun name => value.contains (providerCapabilityOf name) := by
  rw [← List.filterMap_eq_filter]
  rfl

@[simp] theorem decodeProviderCapabilities_encode (value : ProviderCapabilities) :
    decodeProviderCapabilities (encodeProviderCapabilities value) = .ok value := by
  have hnodup : providerCapabilityDtos.Nodup := by decide
  rw [decodeProviderCapabilities, encodeProviderCapabilities_eq,
    decodeCapabilities_ok _ _ _ (hnodup.filter _) (by simp)]
  have hflag : ∀ name, (providerCapabilityOf name).bits =
      BitVec.twoPow 16 (providerCapabilityIndex name) := by
    intro name
    cases name <;> rfl
  have hindex : ∀ name, providerCapabilityIndex name < 16 := by
    intro name
    cases name <;> decide
  have hcover : ∀ j < ComponentKind.provider.flagCount, ∃ name ∈ providerCapabilityDtos,
      providerCapabilityIndex name = j := by decide
  rw [foldl_union_contained hflag hindex hcover rfl]

/-- The bit that each channel capability stands for. -/
def channelCapabilityIndex : ChannelCapabilityDto → Nat
  | .notification => 0
  | .sessionView => 1
  | .toolView => 2
  | .planView => 3
  | .progressView => 4
  | .richMessage => 5
  | .approval => 6
  | .choiceInput => 7
  | .textInput => 8
  | .formInput => 9
  | .realtimeSync => 10
  | .remoteCommand => 11

def channelCapabilityDtos : List ChannelCapabilityDto :=
  [.notification, .sessionView, .toolView, .planView, .progressView, .richMessage, .approval,
    .choiceInput, .textInput, .formInput, .realtimeSync, .remoteCommand]

theorem encodeChannelCapabilities_eq (value : ChannelCapabilities) :
    encodeChannelCapabilities value =
      channelCapabilityDtos.filter fun name => value.contains (channelCapabilityOf name) := by
  rw [← List.filterMap_eq_filter]
  rfl

@[simp] theorem decodeChannelCapabilities_encode (value : ChannelCapabilities) :
    decodeChannelCapabilities (encodeChannelCapabilities value) = .ok value := by
  have hnodup : channelCapabilityDtos.Nodup := by decide
  rw [decodeChannelCapabilities, encodeChannelCapabilities_eq,
    decodeCapabilities_ok _ _ _ (hnodup.filter _) (by simp)]
  have hflag : ∀ name, (channelCapabilityOf name).bits =
      BitVec.twoPow 16 (channelCapabilityIndex name) := by
    intro name
    cases name <;> rfl
  have hindex : ∀ name, channelCapabilityIndex name < 16 := by
    intro name
    cases name <;> decide
  have hcover : ∀ j < ComponentKind.channel.flagCount, ∃ name ∈ channelCapabilityDtos,
      channelCapabilityIndex name = j := by decide
  rw [foldl_union_contained hflag hindex hcover rfl]

@[simp] theorem decodeAgentState_encode (value : AgentState) :
    decodeAgentState (encodeAgentState value) = value := by
  cases value <;> rfl

@[simp] theorem decodeConnectionState_encode (value : ConnectionState) :
    decodeConnectionState (encodeConnectionState value) = value := by
  cases value <;> rfl

@[simp] theorem decodeMessageRole_encode (value : AgentMessageRole) :
    decodeMessageRole (encodeMessageRole value) = value := by
  cases value <;> rfl

@[simp] theorem decodeMessageLevel_encode (value : AgentMessageLevel) :
    decodeMessageLevel (encodeMessageLevel value) = value := by
  cases value <;> rfl

@[simp] theorem decodeToolOutcome_encode (value : ToolOutcome) :
    decodeToolOutcome (encodeToolOutcome value) = value := by
  cases value <;> rfl

@[simp] theorem decodePlanItemStatus_encode (value : PlanItemStatus) :
    decodePlanItemStatus (encodePlanItemStatus value) = value := by
  cases value <;> rfl

@[simp] theorem decodeApprovalCommandKind_encode (value : ApprovalCommandKind) :
    decodeApprovalCommandKind (encodeApprovalCommandKind value) = value := by
  cases value <;> rfl

@[simp] theorem decodeApprovalFileChangeKind_encode (value : ApprovalFileChangeKind) :
    decodeApprovalFileChangeKind (encodeApprovalFileChangeKind value) = value := by
  cases value <;> rfl

@[simp] theorem decodeApprovalDisposition_encode (value : ApprovalDisposition) :
    decodeApprovalDisposition (encodeApprovalDisposition value) = value := by
  cases value <;> rfl

@[simp] theorem decodeCloseReason_encode (value : InteractionCloseReason) :
    decodeCloseReason (encodeCloseReason value) = value := by
  cases value <;> rfl

@[simp] theorem decodePromptDelivery_encode (value : PromptDelivery) :
    decodePromptDelivery (encodePromptDelivery value) = value := by
  cases value <;> rfl

@[simp] theorem decodeQueueAction_encode (value : QueueAction) :
    decodeQueueAction (encodeQueueAction value) = value := by
  cases value <;> rfl

@[simp] theorem ok_bind {ε α β : Type} (a : α) (f : α → Except ε β) :
    ((Except.ok a : Except ε α) >>= f) = f a := rfl

@[simp] theorem ok_map {ε α β : Type} (a : α) (f : α → β) :
    (Except.ok a : Except ε α).map f = .ok (f a) := rfl

@[simp] theorem validated_ok {α : Type} (a : α) : validated (.ok a) = .ok a := rfl

@[simp] theorem pure_eq_ok {ε α : Type} (a : α) : (pure a : Except ε α) = .ok a := rfl

@[simp] theorem decodeProviderDescriptor_encode (descriptor : ProviderDescriptor) :
    decodeProviderDescriptor (encodeProviderDescriptor descriptor) = .ok descriptor := by
  simp [decodeProviderDescriptor, encodeProviderDescriptor]

@[simp] theorem decodeChannelDescriptor_encode (descriptor : ChannelDescriptor) :
    decodeChannelDescriptor (encodeChannelDescriptor descriptor) = .ok descriptor := by
  simp [decodeChannelDescriptor, encodeChannelDescriptor]

@[simp] theorem decodeWorkspace_encode (workspace : WorkspaceRef) :
    decodeWorkspace (encodeWorkspace workspace) = .ok workspace := by
  simp [decodeWorkspace, encodeWorkspace]

@[simp] theorem decodeMessage_encode (message : AgentMessage) :
    decodeMessage (encodeMessage message) = .ok message := by
  simp [decodeMessage, encodeMessage]

@[simp] theorem decodeToolActivity_encode (activity : ToolActivity) :
    decodeToolActivity (encodeToolActivity activity) = .ok activity := by
  cases activity with
  | started callId name summary => simp [decodeToolActivity, encodeToolActivity]
  | finished callId outcome summary => simp [decodeToolActivity, encodeToolActivity]

@[simp] theorem decodeSessionOutcome_encode (outcome : SessionOutcome) :
    decodeSessionOutcome (encodeSessionOutcome outcome) = .ok outcome := by
  cases outcome with
  | completed summary => simp [decodeSessionOutcome, encodeSessionOutcome]
  | failed error => simp [decodeSessionOutcome, encodeSessionOutcome]
  | cancelled reason => simp [decodeSessionOutcome, encodeSessionOutcome]

@[simp] theorem decodePlanItem_encode (item : PlanItem) :
    decodePlanItem (encodePlanItem item) = .ok item := by
  simp [decodePlanItem, encodePlanItem]

/-- Distinct items are what the constructor asks for. -/
theorem planSnapshot_new {revision : Revision} {items : List PlanItem}
    (h : (items.map PlanItem.id).Nodup) :
    PlanSnapshot.new revision items = .ok ⟨revision, none, items, h⟩ := by
  unfold PlanSnapshot.new
  split
  · next id hd =>
    rw [firstDuplicate_of_nodup h] at hd
    cases hd
  · rfl

@[simp] theorem decodePlan_encode (plan : PlanSnapshot) :
    decodePlan (encodePlan plan) = .ok plan := by
  obtain ⟨revision, explanation, items, hunique⟩ := plan
  have hitems := Fallible.mapM_map_ok decodePlanItem_encode items
  cases explanation with
  | none => simp [decodePlan, encodePlan, hitems, planSnapshot_new hunique, encodeOptionalText]
  | some explanation =>
    simp [decodePlan, encodePlan, hitems, planSnapshot_new hunique, encodeOptionalText,
      PlanSnapshot.withExplanation]

@[simp] theorem decodeProgressValue_encode (value : ProgressValue) :
    decodeProgressValue (encodeProgressValue value) = .ok value := by
  cases value with
  | indeterminate => rfl
  | determinate progress =>
    have hnew : DeterminateProgress.new progress.completed progress.total progress.bounded =
        .ok progress := by
      rw [DeterminateProgress.new, dif_pos progress.positive, dif_pos progress.within]
    simp [decodeProgressValue, encodeProgressValue, hnew]

@[simp] theorem decodeProgress_encode (progress : ProgressSnapshot) :
    decodeProgress (encodeProgress progress) = .ok progress := by
  simp [decodeProgress, encodeProgress]

@[simp] theorem decodeChoiceOption_encode (option : ChoiceOption) :
    decodeChoiceOption (encodeChoiceOption option) = .ok option := by
  simp [decodeChoiceOption, encodeChoiceOption]

@[simp] theorem decodeApprovalNetworkContext_encode (context : ApprovalNetworkContext) :
    decodeApprovalNetworkContext (encodeApprovalNetworkContext context) = .ok context := by
  simp [decodeApprovalNetworkContext, encodeApprovalNetworkContext]

@[simp] theorem decodeApprovalFileChange_encode (change : ApprovalFileChange) :
    decodeApprovalFileChange (encodeApprovalFileChange change) = .ok change := by
  simp [decodeApprovalFileChange, encodeApprovalFileChange]

@[simp] theorem decodeApprovalSubject_encode (subject : ApprovalSubject) :
    decodeApprovalSubject (encodeApprovalSubject subject) = .ok subject := by
  cases subject with
  | command kind command cwd reason network =>
    have hnetwork := decodeOptional_map decodeApprovalNetworkContext_encode network
    simp [decodeApprovalSubject, encodeApprovalSubject, hnetwork]
  | fileChange changes grantRoot reason =>
    have hchanges := Fallible.mapM_map_ok decodeApprovalFileChange_encode changes
    simp [decodeApprovalSubject, encodeApprovalSubject, hchanges]

@[simp] theorem decodeApprovalOption_encode (option : ApprovalOption) :
    decodeApprovalOption (encodeApprovalOption option) = .ok option := by
  simp [decodeApprovalOption, encodeApprovalOption]

/-- Options that are there and distinct make a request that can be answered. -/
theorem approvalRequest_actionable (subject : ApprovalSubject) {options : List ApprovalOption}
    (hne : options ≠ []) (h : (options.map ApprovalOption.id).Nodup) :
    ∃ request, ApprovalRequest.actionable subject options = .ok request ∧
      request.subject = subject ∧ request.options = options ∧ request.unavailableReason = none := by
  unfold ApprovalRequest.actionable
  rw [dif_neg hne]
  split
  · next id hd =>
    rw [firstDuplicate_of_nodup h] at hd
    cases hd
  · exact ⟨_, rfl, rfl, rfl, rfl⟩

@[simp] theorem decodeApproval_encode (request : ApprovalRequest) :
    decodeApproval request.subject request.options (encodeOptionalText request.unavailableReason) =
      .ok request := by
  obtain ⟨subject, options, unavailableReason, hunique, hexclusive⟩ := request
  cases unavailableReason with
  | none =>
    have hne : options ≠ [] := by simpa using hexclusive
    obtain ⟨⟨_, _, _, _, _⟩, hrequest, rfl, rfl, rfl⟩ :=
      approvalRequest_actionable subject hne hunique
    simp [decodeApproval, encodeOptionalText, hne, hrequest]
  | some reason =>
    have hnil : options = [] := hexclusive.mpr rfl
    subst hnil
    simp [decodeApproval, encodeOptionalText, ApprovalRequest.unavailable]

theorem choiceRequest_new (request : ChoiceRequest) :
    ChoiceRequest.new request.options request.multiple = .ok request := by
  unfold ChoiceRequest.new
  rw [dif_neg request.nonempty]
  split
  · next id hd =>
    rw [firstDuplicate_of_nodup request.unique] at hd
    cases hd
  · rfl

theorem formField_new (field : FormField) :
    FormField.new field.id field.header field.prompt field.options field.allowsOther
      field.sensitive = .ok field := by
  unfold FormField.new
  split
  · next id hd =>
    rw [firstDuplicate_of_nodup field.unique] at hd
    cases hd
  · have hanswerable : ¬ (field.options = [] ∧ field.allowsOther = false) := by
      rintro ⟨hnil, hno⟩
      rw [field.answerable hnil] at hno
      cases hno
    rw [dif_neg hanswerable]

@[simp] theorem decodeFormField_encode (field : FormField) :
    decodeFormField (encodeFormField field) = .ok field := by
  have hoptions := Fallible.mapM_map_ok decodeChoiceOption_encode field.options
  simp [decodeFormField, encodeFormField, hoptions, formField_new]

theorem formRequest_new (request : FormRequest) :
    FormRequest.new request.fields request.blocking = .ok request := by
  unfold FormRequest.new
  rw [dif_neg request.nonempty]
  split
  · next id hd =>
    rw [firstDuplicate_of_nodup request.unique] at hd
    cases hd
  · rfl

@[simp] theorem decodeInteractionRequestPayload_encode (payload : InteractionRequestPayload) :
    decodeInteractionRequestPayload (encodeInteractionRequestPayload payload) = .ok payload := by
  cases payload with
  | approval request =>
    have hoptions := Fallible.mapM_map_ok decodeApprovalOption_encode request.options
    simp [decodeInteractionRequestPayload, encodeInteractionRequestPayload, hoptions]
  | choice request =>
    have hoptions := Fallible.mapM_map_ok decodeChoiceOption_encode request.options
    simp [decodeInteractionRequestPayload, encodeInteractionRequestPayload, hoptions,
      choiceRequest_new]
  | text request => simp [decodeInteractionRequestPayload, encodeInteractionRequestPayload]
  | form request =>
    have hfields := Fallible.mapM_map_ok decodeFormField_encode request.fields
    simp [decodeInteractionRequestPayload, encodeInteractionRequestPayload, hfields,
      formRequest_new]

@[simp] theorem decodeFormAnswerValue_encode (value : FormAnswerValue) :
    decodeFormAnswerValue (encodeFormAnswerValue value) = .ok value := by
  cases value with
  | choice optionId => simp [decodeFormAnswerValue, encodeFormAnswerValue]
  | text text => simp [decodeFormAnswerValue, encodeFormAnswerValue]

@[simp] theorem decodeFormAnswer_encode (answer : FormAnswer) :
    decodeFormAnswer (encodeFormAnswer answer) = .ok answer := by
  simp [decodeFormAnswer, encodeFormAnswer]

theorem choiceSelection_new (selection : ChoiceSelection) :
    ChoiceSelection.new selection.optionIds = .ok selection := by
  unfold ChoiceSelection.new
  rw [dif_neg selection.nonempty]
  split
  · next id hd =>
    rw [firstDuplicate_of_nodup selection.unique] at hd
    cases hd
  · rfl

theorem formResponse_new (response : FormResponse) :
    FormResponse.new response.answers = .ok response := by
  unfold FormResponse.new
  rw [dif_neg response.nonempty]
  split
  · next id hd =>
    rw [firstDuplicate_of_nodup response.unique] at hd
    cases hd
  · rfl

@[simp] theorem decodeInteractionResponsePayload_encode (payload : InteractionResponsePayload) :
    decodeInteractionResponsePayload (encodeInteractionResponsePayload payload) = .ok payload := by
  cases payload with
  | approval selection =>
    simp [decodeInteractionResponsePayload, encodeInteractionResponsePayload]
  | choice selection =>
    have hids := Fallible.mapM_map_ok (parseId_toString (k := .choiceOption)) selection.optionIds
    simp [decodeInteractionResponsePayload, encodeInteractionResponsePayload, hids,
      choiceSelection_new]
  | text value => simp [decodeInteractionResponsePayload, encodeInteractionResponsePayload]
  | form response =>
    have hanswers := Fallible.mapM_map_ok decodeFormAnswer_encode response.answers
    simp [decodeInteractionResponsePayload, encodeInteractionResponsePayload, hanswers,
      formResponse_new]

@[simp] theorem decodeInteractionClosed_encode (interaction : InteractionClosed) :
    decodeInteractionClosed (encodeInteractionClosed interaction) = .ok interaction := by
  simp [decodeInteractionClosed, encodeInteractionClosed]

@[simp] theorem decodeCommandPayload_encode (payload : AgentCommandPayload) :
    decodeCommandPayload (encodeCommandPayload payload) = .ok payload := by
  cases payload <;> simp [decodeCommandPayload, encodeCommandPayload]

/-- The reader of the time crate undoes its writer. -/
def Rfc3339.Inverse (time : Rfc3339) : Prop :=
  ∀ value text, time.format value = .ok text → time.parse text = .ok (.utc value)

/-- A UTC date-time is the instant it was made of. -/
theorem fromOffsetDateTime_utc (value : Timestamp) :
    Timestamp.fromOffsetDateTime (.utc value) = some value := by
  have hutc : (OffsetDateTime.utc value).utcNanos = value.unixTimestampNanos := by
    simp [OffsetDateTime.utcNanos, OffsetDateTime.utc]
  rw [Timestamp.fromOffsetDateTime, dif_pos (by rw [hutc]; exact value.supported)]
  simp [hutc]

section Dated

variable {time : Rfc3339} (htime : time.Inverse)

include htime

/-- An instant that could be written is read back, whatever the field is called. -/
theorem decodeTimestamp_encode {value : Timestamp} {field text : String}
    (h : encodeTimestamp time value field = .ok text) (field' : String) :
    decodeTimestamp time text field' = .ok value := by
  have hformat := Fallible.mapError_eq_ok.mp h
  simp [decodeTimestamp, htime value text hformat, fromOffsetDateTime_utc]

theorem decodeSession_encode {session : AgentSession} {dto : AgentSessionDto}
    (h : encodeSession time session = .ok dto) : decodeSession time dto = .ok session := by
  unfold encodeSession at h
  simp only [Fallible.bind_eq_ok] at h
  obtain ⟨createdAt, hcreated, updatedAt, hupdated, h⟩ := h
  cases h
  have hexternal : decodeOptional (fun value => validated (ExternalId.new value))
      (session.externalId.map fun externalId => externalId.text.asStr) = .ok session.externalId := by
    refine decodeOptional_map ?_ session.externalId
    exact decodeExternalId_asStr
  have hworkspace := decodeOptional_map decodeWorkspace_encode session.workspace
  have hbuild : AgentSessionBuilder.build ⟨session.id, session.providerId, session.externalId,
      session.title, session.workspace, session.state, session.connectionState, session.revision,
      session.createdAt, session.updatedAt⟩ = .ok session := dif_pos session.ordered
  simp [decodeSession, decodeTimestamp_encode htime hcreated, decodeTimestamp_encode htime hupdated,
    hexternal, hworkspace, hbuild]

/-- The expiration that was written is later than the request, so it is accepted again. -/
theorem decodeInteractionRequest_encode {request : InteractionRequest}
    {dto : InteractionRequestDto} (h : encodeInteractionRequest time request = .ok dto) :
    decodeInteractionRequest time dto = .ok request := by
  obtain ⟨id, sessionId, requestedAt, expiresAt, prompt, payload, hlater⟩ := request
  cases expiresAt with
  | none =>
    simp only [encodeInteractionRequest, Fallible.bind_eq_ok] at h
    obtain ⟨requested, hrequested, expires, hexpires, h⟩ := h
    cases hexpires
    cases h
    simp [decodeInteractionRequest, decodeTimestamp_encode htime hrequested,
      InteractionRequest.new]
  | some expiration =>
    simp only [encodeInteractionRequest, Fallible.bind_eq_ok] at h
    obtain ⟨requested, hrequested, expires, hexpires, h⟩ := h
    obtain ⟨text, htext, rfl⟩ := Fallible.map_eq_ok.mp hexpires
    cases h
    have hwith : (InteractionRequest.new id sessionId requestedAt prompt payload).withExpiration
        expiration = .ok ⟨id, sessionId, requestedAt, some expiration, prompt, payload, hlater⟩ :=
      dif_pos (hlater expiration rfl)
    simp [decodeInteractionRequest, decodeTimestamp_encode htime hrequested,
      decodeTimestamp_encode htime htext, hwith]

theorem decodeInteractionResponse_encode {response : InteractionResponse}
    {dto : InteractionResponseDto} (h : encodeInteractionResponse time response = .ok dto) :
    decodeInteractionResponse time dto = .ok response := by
  unfold encodeInteractionResponse at h
  simp only [Fallible.bind_eq_ok] at h
  obtain ⟨respondedAt, hresponded, h⟩ := h
  cases h
  simp [decodeInteractionResponse, decodeTimestamp_encode htime hresponded]

theorem decodeCommand_encode {command : AgentCommand} {dto : AgentCommandDto}
    (h : encodeCommand time command = .ok dto) : decodeCommand time dto = .ok command := by
  unfold encodeCommand at h
  simp only [Fallible.bind_eq_ok] at h
  obtain ⟨issuedAt, hissued, h⟩ := h
  cases h
  simp [decodeCommand, decodeTimestamp_encode htime hissued]

theorem decodeEventPayload_encode {payload : AgentEventPayload} {dto : AgentEventPayloadDto}
    (h : encodeEventPayload time payload = .ok dto) :
    decodeEventPayload time dto = .ok payload := by
  cases payload with
  | sessionStarted session =>
    obtain ⟨session', hsession, rfl⟩ := Fallible.map_eq_ok.mp h
    simp [decodeEventPayload, decodeSession_encode htime hsession]
  | interactionRequested request =>
    obtain ⟨request', hrequest, rfl⟩ := Fallible.map_eq_ok.mp h
    simp [decodeEventPayload, decodeInteractionRequest_encode htime hrequest]
  | interactionResponded response =>
    obtain ⟨response', hresponse, rfl⟩ := Fallible.map_eq_ok.mp h
    simp [decodeEventPayload, decodeInteractionResponse_encode htime hresponse]
  | commandIssued command =>
    obtain ⟨command', hcommand, rfl⟩ := Fallible.map_eq_ok.mp h
    simp [decodeEventPayload, decodeCommand_encode htime hcommand]
  | _ =>
    cases h
    simp [decodeEventPayload]

/-- An event value is about its own session, so the check of the decoder passes. -/
theorem decodeEvent_encode {event : AgentEvent} {dto : AgentEventDto}
    (h : encodeEvent time event = .ok dto) : decodeEvent time dto = .ok event := by
  unfold encodeEvent at h
  simp only [Fallible.bind_eq_ok] at h
  obtain ⟨occurredAt, hoccurred, payload, hpayload, h⟩ := h
  cases h
  have hnew : AgentEvent.new event.id event.sessionId event.sequence event.occurredAt
      event.payload = .ok event := by
    have hcorrelated := event.correlated
    unfold AgentEvent.new
    split
    · rfl
    · next embedded hembedded =>
      have hid : embedded = event.sessionId := by simpa [hembedded] using hcorrelated
      rw [dif_pos hid]
  simp [decodeEvent, decodeTimestamp_encode htime hoccurred,
    decodeEventPayload_encode htime hpayload, hnew]

theorem decodeMessageDto_encode {message : ProtocolMessage} {dto : MessageDto}
    (h : encodeMessageDto time message = .ok dto) : decodeMessageDto time dto = .ok message := by
  cases message with
  | providerDescriptor descriptor =>
    cases h
    simp [decodeMessageDto]
  | channelDescriptor descriptor =>
    cases h
    simp [decodeMessageDto]
  | agentSession session =>
    obtain ⟨session', hsession, rfl⟩ := Fallible.map_eq_ok.mp h
    simp [decodeMessageDto, decodeSession_encode htime hsession]
  | agentEvent event =>
    obtain ⟨event', hevent, rfl⟩ := Fallible.map_eq_ok.mp h
    simp [decodeMessageDto, decodeEvent_encode htime hevent]
  | interactionRequest request =>
    obtain ⟨request', hrequest, rfl⟩ := Fallible.map_eq_ok.mp h
    simp [decodeMessageDto, decodeInteractionRequest_encode htime hrequest]
  | interactionResponse response =>
    obtain ⟨response', hresponse, rfl⟩ := Fallible.map_eq_ok.mp h
    simp [decodeMessageDto, decodeInteractionResponse_encode htime hresponse]
  | agentCommand command =>
    obtain ⟨command', hcommand, rfl⟩ := Fallible.map_eq_ok.mp h
    simp [decodeMessageDto, decodeCommand_encode htime hcommand]

/-- An envelope is written under version two and read back as its message. -/
theorem decodeEnvelope_encode {message : ProtocolMessage} {envelope : EnvelopeDto}
    (h : encodeEnvelope time message = .ok envelope) :
    envelope.protocolVersion = v2ProtocolVersion ∧
      decodeEnvelope time envelope = .ok message := by
  obtain ⟨dto, hdto, rfl⟩ := Fallible.map_eq_ok.mp h
  refine ⟨rfl, ?_⟩
  rw [decodeEnvelope, if_neg (by simp)]
  exact decodeMessageDto_encode htime hdto

end Dated

/-- The derived readers undo the derived writers, if the scalar that is written
by hand comes back from its text. -/
def SerdeJson.Inverse (serde : SerdeJson) : Prop :=
  (∀ scalar : DecimalU64, DecimalU64.visitStr scalar.serialize = .ok scalar) →
  ∀ envelope bytes, serde.toVec envelope = .ok bytes →
    ∃ value, serde.fromSlice bytes = .ok value ∧
      serde.getU64 value "protocol_version" = some envelope.protocolVersion ∧
      serde.fromValue value = .ok envelope

/-- The version that is written passes the check on the raw value. -/
theorem decodeJson_toVec {serde : SerdeJson} (hserde : serde.Inverse) (time : Rfc3339)
    {envelope : EnvelopeDto} {bytes : List UInt8} (h : serde.toVec envelope = .ok bytes)
    (hversion : envelope.protocolVersion = v2ProtocolVersion) :
    decodeJson serde time bytes = decodeEnvelope time envelope := by
  obtain ⟨value, hslice, hget, hvalue⟩ :=
    hserde DecimalU64.visitStr_serialize envelope bytes h
  simp [decodeJson, hslice, hget, hvalue, hversion]

theorem decodeJson_of_encodeJson {serde : SerdeJson} {time : Rfc3339} (hserde : serde.Inverse)
    (htime : time.Inverse) {message : ProtocolMessage} {bytes : List UInt8}
    (h : encodeJson serde time message = .ok bytes) :
    decodeJson serde time bytes = .ok message := by
  unfold encodeJson at h
  rw [Fallible.bind_eq_ok] at h
  obtain ⟨envelope, henvelope, hbytes⟩ := h
  obtain ⟨hversion, hdecode⟩ := decodeEnvelope_encode htime henvelope
  rw [decodeJson_toVec hserde time (Fallible.mapError_eq_ok.mp hbytes) hversion]
  exact hdecode

/-- Whatever the codec writes, it reads back as the same message. -/
theorem decodeJson_encodeJson (serde : SerdeJson) (time : Rfc3339) (hserde : serde.Inverse)
    (htime : time.Inverse) (message : ProtocolMessage) (bytes : List UInt8)
    (h : encodeJson serde time message = .ok bytes) :
    decodeJson serde time bytes = .ok message :=
  decodeJson_of_encodeJson hserde htime h

namespace Sample

/-- The crate's answers for a few texts: the epoch, and the two ends of the
calendar with an offset that leads out of it. -/
def dateTimes : List (String × OffsetDateTime) :=
  [("1970-01-01T00:00:00Z", .utc instant),
    ("0000-01-01T00:00:00+01:00",
      ⟨-62167219200000000000, 3600, by decide, by decide⟩),
    ("9999-12-31T23:59:59-23:59",
      ⟨253402300799000000000, -86340, by decide, by decide⟩)]

def rfc3339 : Rfc3339 where
  format value :=
    if value = instant then .ok "1970-01-01T00:00:00Z"
    else if value.unixTimestampNanos < -62167219200000000000 then
      .error "The year component cannot be formatted into the requested format."
    else .error "not listed"
  parse text :=
    match dateTimes.lookup text with
    | some dateTime => .ok dateTime
    | none => .error "not listed"

theorem rfc3339_inverse : rfc3339.Inverse := by
  intro value text h
  simp only [rfc3339] at h ⊢
  split at h
  · next heq =>
    cases h
    rw [heq]
    rfl
  · split at h <;> cases h

/-- A writer and reader that know one envelope and its text. -/
def serdeFor (envelope : EnvelopeDto) (text : String) : SerdeJson where
  Value := EnvelopeDto
  toVec value := if value = envelope then .ok text.toUTF8.data.toList else .error "not listed"
  fromSlice bytes :=
    if bytes = text.toUTF8.data.toList then .ok envelope else .error "not listed"
  getU64 value name := if name = "protocol_version" then some value.protocolVersion else none
  fromValue value := .ok value

theorem serdeFor_toVec (envelope : EnvelopeDto) (text : String) :
    (serdeFor envelope text).toVec envelope = .ok text.toUTF8.data.toList := by
  simp [serdeFor]

theorem serdeFor_inverse (envelope : EnvelopeDto) (text : String) :
    (serdeFor envelope text).Inverse := by
  intro _ value bytes h
  simp only [serdeFor] at h ⊢
  split at h
  · next heq =>
    cases h
    exact ⟨envelope, if_pos rfl, by simp [heq], by rw [heq]⟩
  · cases h

def eventEnvelope (occurredAt : String) : EnvelopeDto :=
  ⟨2, .agentEvent ⟨"00000000-0000-7000-0000-000000000001", "00000000-0000-7000-0000-000000000000",
    ⟨2, by decide⟩, occurredAt, .message ⟨.assistant, .info, "text"⟩⟩⟩

def eventText (occurredAt : String) : String :=
  "\x7b\"protocol_version\":2,\"message\":\x7b\"type\":\"agent_event\",\"payload\":\x7b" ++
    "\"id\":\"00000000-0000-7000-0000-000000000001\"," ++
    "\"session_id\":\"00000000-0000-7000-0000-000000000000\",\"sequence\":\"2\"," ++
    "\"occurred_at\":\"" ++ occurredAt ++ "\",\"payload\":\x7b\"type\":\"message\"," ++
    "\"message\":\x7b\"role\":\"assistant\",\"level\":\"info\",\"content\":\"text\"" ++
    "\x7d\x7d\x7d\x7d\x7d"

def eventSerde (occurredAt : String) : SerdeJson :=
  serdeFor (eventEnvelope occurredAt) (eventText occurredAt)

end Sample

/-- An event at the epoch. -/
theorem decodeJson_encodeJson_event :
    let serde := Sample.eventSerde "1970-01-01T00:00:00Z"
    let bytes := (Sample.eventText "1970-01-01T00:00:00Z").toUTF8.data.toList
    encodeJson serde Sample.rfc3339 (.agentEvent (Sample.message 0 1)) = .ok bytes ∧
      decodeJson serde Sample.rfc3339 bytes = .ok (.agentEvent (Sample.message 0 1)) := by
  intro serde bytes
  have henvelope : encodeEnvelope Sample.rfc3339 (.agentEvent (Sample.message 0 1)) =
      .ok (Sample.eventEnvelope "1970-01-01T00:00:00Z") := by decide +kernel
  have hbytes : encodeJson serde Sample.rfc3339 (.agentEvent (Sample.message 0 1)) = .ok bytes := by
    rw [encodeJson, henvelope, ok_bind]
    have hvec : serde.toVec (Sample.eventEnvelope "1970-01-01T00:00:00Z") = .ok bytes :=
      Sample.serdeFor_toVec _ _
    rw [hvec]
    rfl
  exact ⟨hbytes, decodeJson_encodeJson serde Sample.rfc3339 (Sample.serdeFor_inverse _ _)
    Sample.rfc3339_inverse _ bytes hbytes⟩

end AgentPulse
