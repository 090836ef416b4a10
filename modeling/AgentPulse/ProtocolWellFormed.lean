import AgentPulse.ProtocolRange

/-!
# What decoding lets through

`WellFormed` is stated twice. For the wire shapes it speaks of the texts as they
stand in the document, before any constructor has seen them; for the messages it
speaks of the values. A decoder returns only when its own shape is well formed,
shape by shape, and the values it builds are.
-/
namespace AgentPulse

open Fallible (bind_eq_ok)

/-- The text has a character other than white space. -/
def NonBlank (text : String) : Prop := isBlank text = false

/-- The text is a UUID of version seven, in any spelling. -/
def VersionSeven (text : String) : Prop :=
  ∃ uuid, Uuid.parseStr text = some uuid ∧ uuid.getVersionNum = 7

/-- Two spellings of one identifier count as one. -/
def DistinctIds (texts : List String) : Prop := (texts.map Uuid.parseStr).Nodup

theorem parseId_reads {k : IdKind} {text : String} {id : Ident k} (h : parseId k text = .ok id) :
    Uuid.parseStr text = some id.uuid := by
  rw [parseId, validated_eq_ok, Ident.fromStr] at h
  split at h
  · cases h
  · next uuid hparse =>
    rw [Ident.tryFromUuid] at h
    split at h
    · cases h
      exact hparse
    · cases h

/-- An identifier is decoded only from such a text. -/
theorem parseId_versionSeven {k : IdKind} {text : String} {id : Ident k}
    (h : parseId k text = .ok id) : VersionSeven text :=
  ⟨id.uuid, parseId_reads h, id.version7⟩

theorem decodeText_nonBlank {text : String} {value : NonEmptyText}
    (h : decodeText text = .ok value) : NonBlank text := by
  rw [decodeText, validated_eq_ok, NonEmptyText.new] at h
  split at h
  · cases h
  · next hblank => simpa [NonBlank] using hblank

/-- What decoding demands of a value holds of an optional one that is there. -/
theorem decodeOptional_holds {α β : Type} {decode : α → Except Abort β} {P : α → Prop}
    (hdecode : ∀ {a b}, decode a = .ok b → P a) {value : Option α} {result : Option β}
    (h : decodeOptional decode value = .ok result) : ∀ a ∈ value, P a := by
  cases value with
  | none => simp
  | some a =>
    rw [decodeOptional, Fallible.map_eq_ok] at h
    obtain ⟨b, hb, -⟩ := h
    simpa using hdecode hb

theorem decodeOptionalText_nonBlank {value : Option String} {result : Option NonEmptyText}
    (h : decodeOptionalText value = .ok result) : ∀ text ∈ value, NonBlank text :=
  decodeOptional_holds decodeText_nonBlank h

theorem mapM_holds {α β : Type} {decode : α → Except Abort β} {P : α → Prop}
    (hdecode : ∀ {a b}, decode a = .ok b → P a) {xs : List α} {ys : List β}
    (h : xs.mapM decode = .ok ys) : ∀ x ∈ xs, P x := by
  rw [Fallible.mapM_eq_ok] at h
  intro x hx
  obtain ⟨y, -, hy⟩ := Fallible.exists_of_forall₂ h hx
  exact hdecode hy

/-- Distinct identifiers of the decoded entries are distinct in the texts. -/
theorem mapM_distinctIds {k : IdKind} {α β : Type} {decode : α → Except Abort β} {text : α → String}
    {id : β → Ident k} (hdecode : ∀ {a b}, decode a = .ok b → parseId k (text a) = .ok (id b))
    {xs : List α} {ys : List β} (h : xs.mapM decode = .ok ys) (hnodup : (ys.map id).Nodup) :
    DistinctIds (xs.map text) := by
  rw [Fallible.mapM_eq_ok] at h
  have hread : (xs.map text).map Uuid.parseStr = (ys.map id).map fun i => some i.uuid := by
    induction h with
    | nil => rfl
    | cons hxy _ ih =>
      simp only [List.map_cons, List.nodup_cons] at hnodup ⊢
      rw [ih hnodup.2, parseId_reads (hdecode hxy)]
  rw [DistinctIds, hread]
  apply hnodup.map
  intro i j hij
  obtain ⟨u, hu⟩ := i
  obtain ⟨v, hv⟩ := j
  simpa using hij

theorem decodeCounter_positive {kind : CounterKind} {value : DecimalU64}
    {counter : PositiveCounter kind} (h : decodeCounter kind value = .ok counter) : 0 < value.get := by
  rw [decodeCounter, validated_eq_ok, PositiveCounter.new] at h
  split at h
  · assumption
  · cases h

/-- A list with a repeated capability is not decoded. -/
theorem decodeCapabilities_nodup {α : Type} [DecidableEq α] {k : ComponentKind} {field : String}
    {nameOf : α → String} {flagOf : α → Capabilities k} {seen : List α} {start result : Capabilities k}
    {values : List α}
    (h : decodeCapabilities field nameOf flagOf seen start values = .ok result) :
    values.Nodup ∧ ∀ value ∈ values, value ∉ seen := by
  induction values generalizing seen start with
  | nil => simp
  | cons value values ih =>
    rw [decodeCapabilities] at h
    split at h
    · cases h
    · next hfresh =>
      obtain ⟨hnodup, hother⟩ := ih h
      refine ⟨List.nodup_cons.mpr ⟨fun hmem => hother value hmem (by simp), hnodup⟩, ?_⟩
      intro other hmem hseen
      rcases List.mem_cons.mp hmem with rfl | hmem
      · exact hfresh hseen
      · exact hother other hmem (by simp [hseen])

/-- What the decoder demands of the texts of a descriptor. -/
structure ProviderDescriptorDto.WellFormed (dto : ProviderDescriptorDto) : Prop where
  id : VersionSeven dto.id
  kind : isSlug dto.kind = true
  displayName : NonBlank dto.displayName
  version : ∀ text ∈ dto.version, NonBlank text
  capabilities : dto.capabilities.Nodup

structure ChannelDescriptorDto.WellFormed (dto : ChannelDescriptorDto) : Prop where
  id : VersionSeven dto.id
  kind : isSlug dto.kind = true
  displayName : NonBlank dto.displayName
  version : ∀ text ∈ dto.version, NonBlank text
  capabilities : dto.capabilities.Nodup

structure WorkspaceRefDto.WellFormed (dto : WorkspaceRefDto) : Prop where
  path : NonBlank dto.path
  displayName : ∀ text ∈ dto.displayName, NonBlank text

/-- A session was not updated before it was created. -/
structure AgentSessionDto.WellFormed (time : Rfc3339) (dto : AgentSessionDto) : Prop where
  id : VersionSeven dto.id
  providerId : VersionSeven dto.providerId
  externalId : ∀ text ∈ dto.externalId, NonBlank text
  title : ∀ text ∈ dto.title, NonBlank text
  workspace : ∀ workspace ∈ dto.workspace, workspace.WellFormed
  revision : 0 < dto.revision.get
  ordered : ∃ createdAt updatedAt, Denotes time dto.createdAt createdAt ∧
    Denotes time dto.updatedAt updatedAt ∧ createdAt ≤ updatedAt

def ToolActivityDto.WellFormed : ToolActivityDto → Prop
  | .started callId name summary =>
    VersionSeven callId ∧ NonBlank name ∧ ∀ text ∈ summary, NonBlank text
  | .finished callId _ summary => VersionSeven callId ∧ ∀ text ∈ summary, NonBlank text

def SessionOutcomeDto.WellFormed : SessionOutcomeDto → Prop
  | .completed summary => ∀ text ∈ summary, NonBlank text
  | .failed error => NonBlank error
  | .cancelled reason => ∀ text ∈ reason, NonBlank text

structure PlanItemDto.WellFormed (dto : PlanItemDto) : Prop where
  id : VersionSeven dto.id
  content : NonBlank dto.content

/-- The items of a plan are distinct as identifiers. -/
structure PlanSnapshotDto.WellFormed (dto : PlanSnapshotDto) : Prop where
  revision : 0 < dto.revision.get
  explanation : ∀ text ∈ dto.explanation, NonBlank text
  items : ∀ item ∈ dto.items, item.WellFormed
  unique : DistinctIds (dto.items.map PlanItemDto.id)

/-- Progress is out of a positive total and within it. -/
def ProgressValueDto.WellFormed : ProgressValueDto → Prop
  | .indeterminate => True
  | .determinate completed total => 0 < total.get ∧ completed.get ≤ total.get

structure ProgressSnapshotDto.WellFormed (dto : ProgressSnapshotDto) : Prop where
  revision : 0 < dto.revision.get
  value : dto.value.WellFormed
  message : ∀ text ∈ dto.message, NonBlank text

structure ChoiceOptionDto.WellFormed (dto : ChoiceOptionDto) : Prop where
  id : VersionSeven dto.id
  label : NonBlank dto.label
  description : ∀ text ∈ dto.description, NonBlank text

structure ApprovalNetworkContextDto.WellFormed (dto : ApprovalNetworkContextDto) : Prop where
  host : NonBlank dto.host
  protocol : NonBlank dto.protocol

/-- Every text that is there is not blank; a difference may be. -/
def ApprovalSubjectDto.WellFormed : ApprovalSubjectDto → Prop
  | .command _ line cwd reason network =>
    (∀ text ∈ line, NonBlank text) ∧ (∀ text ∈ cwd, NonBlank text) ∧
      (∀ text ∈ reason, NonBlank text) ∧ ∀ context ∈ network, context.WellFormed
  | .fileChange changes grantRoot reason =>
    (∀ change ∈ changes, NonBlank change.path) ∧ (∀ text ∈ grantRoot, NonBlank text) ∧
      ∀ text ∈ reason, NonBlank text

structure ApprovalOptionDto.WellFormed (dto : ApprovalOptionDto) : Prop where
  id : VersionSeven dto.id
  label : NonBlank dto.label
  description : ∀ text ∈ dto.description, NonBlank text

/-- A field can be answered: it has options or takes a text. -/
structure FormFieldDto.WellFormed (dto : FormFieldDto) : Prop where
  id : VersionSeven dto.id
  header : NonBlank dto.header
  prompt : NonBlank dto.prompt
  options : ∀ option ∈ dto.options, option.WellFormed
  unique : DistinctIds (dto.options.map ChoiceOptionDto.id)
  answerable : dto.options = [] → dto.allowsOther = true

/-- An approval has options and no reason, or a reason and no options. -/
def InteractionRequestPayloadDto.WellFormed : InteractionRequestPayloadDto → Prop
  | .approval subject options unavailableReason =>
    subject.WellFormed ∧ (∀ option ∈ options, option.WellFormed) ∧
      DistinctIds (options.map ApprovalOptionDto.id) ∧
      ((options ≠ [] ∧ unavailableReason = none) ∨
        options = [] ∧ ∃ reason, unavailableReason = some reason ∧ NonBlank reason)
  | .choice options _ =>
    options ≠ [] ∧ (∀ option ∈ options, option.WellFormed) ∧
      DistinctIds (options.map ChoiceOptionDto.id)
  | .text placeholder _ => ∀ text ∈ placeholder, NonBlank text
  | .form fields _ =>
    fields ≠ [] ∧ (∀ field ∈ fields, field.WellFormed) ∧
      DistinctIds (fields.map FormFieldDto.id)

/-- A request that expires does so after it was made. -/
structure InteractionRequestDto.WellFormed (time : Rfc3339) (dto : InteractionRequestDto) : Prop where
  id : VersionSeven dto.id
  sessionId : VersionSeven dto.sessionId
  prompt : NonBlank dto.prompt
  payload : dto.payload.WellFormed
  expires : ∃ requestedAt, Denotes time dto.requestedAt requestedAt ∧
    ∀ text ∈ dto.expiresAt, ∃ expiresAt, Denotes time text expiresAt ∧ requestedAt < expiresAt

structure FormAnswerDto.WellFormed (dto : FormAnswerDto) : Prop where
  fieldId : VersionSeven dto.fieldId
  value : match dto.value with
    | .choice optionId => VersionSeven optionId
    | .text text => NonBlank text

/-- No option is chosen twice and no field answered twice. -/
def InteractionResponsePayloadDto.WellFormed : InteractionResponsePayloadDto → Prop
  | .approval optionId => VersionSeven optionId
  | .choice optionIds =>
    optionIds ≠ [] ∧ (∀ optionId ∈ optionIds, VersionSeven optionId) ∧ DistinctIds optionIds
  | .text value => NonBlank value
  | .form answers =>
    answers ≠ [] ∧ (∀ answer ∈ answers, answer.WellFormed) ∧
      DistinctIds (answers.map FormAnswerDto.fieldId)

structure InteractionResponseDto.WellFormed (time : Rfc3339) (dto : InteractionResponseDto) :
    Prop where
  requestId : VersionSeven dto.requestId
  sessionId : VersionSeven dto.sessionId
  channelId : VersionSeven dto.channelId
  respondedAt : ∃ instant, Denotes time dto.respondedAt instant
  payload : dto.payload.WellFormed

structure InteractionClosedDto.WellFormed (dto : InteractionClosedDto) : Prop where
  requestId : VersionSeven dto.requestId
  sessionId : VersionSeven dto.sessionId

/-- Every text of a command that must be there is not blank. -/
def AgentCommandPayloadDto.WellFormed : AgentCommandPayloadDto → Prop
  | .submitPrompt text _ => NonBlank text
  | .cancelSession reason => ∀ text ∈ reason, NonBlank text
  | .selectModel model effort => NonBlank model ∧ ∀ text ∈ effort, NonBlank text
  | .listThreads cursor => ∀ text ∈ cursor, NonBlank text
  | .resumeThread threadId => NonBlank threadId
  | .startThread cwd => NonBlank cwd
  | .review instructions => ∀ text ∈ instructions, NonBlank text
  | .rename name => NonBlank name
  | .selectPermissionProfile profile => NonBlank profile
  | .listModels | .setPlanMode _ | .compact | .fork | .status | .listPermissionProfiles
  | .queue _ => True

structure AgentCommandDto.WellFormed (time : Rfc3339) (dto : AgentCommandDto) : Prop where
  id : VersionSeven dto.id
  sessionId : VersionSeven dto.sessionId
  channelId : VersionSeven dto.channelId
  issuedAt : ∃ instant, Denotes time dto.issuedAt instant
  payload : dto.payload.WellFormed

/-- An event is as well formed as the record in it. -/
def AgentEventPayloadDto.WellFormed (time : Rfc3339) : AgentEventPayloadDto → Prop
  | .sessionStarted session => session.WellFormed time
  | .stateChanged _ | .connectionChanged _ => True
  | .message content => NonBlank content.content
  | .toolActivity activity => activity.WellFormed
  | .planUpdated plan => plan.WellFormed
  | .progressUpdated progress => progress.WellFormed
  | .interactionRequested request => request.WellFormed time
  | .interactionResponded response => response.WellFormed time
  | .interactionClosed interaction => interaction.WellFormed
  | .commandIssued command => command.WellFormed time
  | .sessionEnded outcome => outcome.WellFormed

/-- The session identifier that a payload carries itself. -/
def AgentEventPayloadDto.embeddedSessionId : AgentEventPayloadDto → Option String
  | .sessionStarted session => some session.id
  | .interactionRequested request => some request.sessionId
  | .interactionResponded response => some response.sessionId
  | .interactionClosed interaction => some interaction.sessionId
  | .commandIssued command => some command.sessionId
  | _ => none

/-- An event is about the session that its payload names. -/
structure AgentEventDto.WellFormed (time : Rfc3339) (dto : AgentEventDto) : Prop where
  id : VersionSeven dto.id
  sessionId : VersionSeven dto.sessionId
  sequence : 0 < dto.sequence.get
  occurredAt : ∃ instant, Denotes time dto.occurredAt instant
  payload : dto.payload.WellFormed time
  correlated : ∀ text ∈ dto.payload.embeddedSessionId, Uuid.parseStr text = Uuid.parseStr dto.sessionId

/-- A message is as well formed as its record. -/
def MessageDto.WellFormed (time : Rfc3339) : MessageDto → Prop
  | .providerDescriptor descriptor => descriptor.WellFormed
  | .channelDescriptor descriptor => descriptor.WellFormed
  | .agentSession session => session.WellFormed time
  | .agentEvent event => event.WellFormed time
  | .interactionRequest request => request.WellFormed time
  | .interactionResponse response => response.WellFormed time
  | .agentCommand command => command.WellFormed time

theorem decodeProviderDescriptor_wellFormed {dto : ProviderDescriptorDto}
    {descriptor : ProviderDescriptor} (h : decodeProviderDescriptor dto = .ok descriptor) :
    dto.WellFormed := by
  simp only [decodeProviderDescriptor, bind_eq_ok] at h
  obtain ⟨id, hid, kind, hkind, displayName, hname, capabilities, hcapabilities, version, hversion, -⟩ := h
  refine ⟨parseId_versionSeven hid, ?_, decodeText_nonBlank hname,
    decodeOptionalText_nonBlank hversion, (decodeCapabilities_nodup hcapabilities).1⟩
  rw [validated_eq_ok, Slug.new] at hkind
  split at hkind
  · assumption
  · cases hkind

theorem decodeChannelDescriptor_wellFormed {dto : ChannelDescriptorDto}
    {descriptor : ChannelDescriptor} (h : decodeChannelDescriptor dto = .ok descriptor) :
    dto.WellFormed := by
  simp only [decodeChannelDescriptor, bind_eq_ok] at h
  obtain ⟨id, hid, kind, hkind, displayName, hname, capabilities, hcapabilities, version, hversion, -⟩ := h
  refine ⟨parseId_versionSeven hid, ?_, decodeText_nonBlank hname,
    decodeOptionalText_nonBlank hversion, (decodeCapabilities_nodup hcapabilities).1⟩
  rw [validated_eq_ok, Slug.new] at hkind
  split at hkind
  · assumption
  · cases hkind

theorem decodeWorkspace_wellFormed {dto : WorkspaceRefDto} {workspace : WorkspaceRef}
    (h : decodeWorkspace dto = .ok workspace) : dto.WellFormed := by
  simp only [decodeWorkspace, bind_eq_ok] at h
  obtain ⟨path, hpath, displayName, hname, -⟩ := h
  exact ⟨decodeText_nonBlank hpath, decodeOptionalText_nonBlank hname⟩

theorem decodeToolActivity_wellFormed {dto : ToolActivityDto} {activity : ToolActivity}
    (h : decodeToolActivity dto = .ok activity) : dto.WellFormed := by
  cases dto with
  | started callId name summary =>
    simp only [decodeToolActivity, bind_eq_ok] at h
    obtain ⟨_, hcall, _, hname, _, hsummary, -⟩ := h
    exact ⟨parseId_versionSeven hcall, decodeText_nonBlank hname,
      decodeOptionalText_nonBlank hsummary⟩
  | finished callId outcome summary =>
    simp only [decodeToolActivity, bind_eq_ok] at h
    obtain ⟨_, hcall, _, hsummary, -⟩ := h
    exact ⟨parseId_versionSeven hcall, decodeOptionalText_nonBlank hsummary⟩

theorem decodeSessionOutcome_wellFormed {dto : SessionOutcomeDto} {outcome : SessionOutcome}
    (h : decodeSessionOutcome dto = .ok outcome) : dto.WellFormed := by
  cases dto with
  | completed summary =>
    simp only [decodeSessionOutcome, bind_eq_ok] at h
    obtain ⟨_, hsummary, -⟩ := h
    exact decodeOptionalText_nonBlank hsummary
  | failed error =>
    simp only [decodeSessionOutcome, bind_eq_ok] at h
    obtain ⟨_, herror, -⟩ := h
    exact decodeText_nonBlank herror
  | cancelled reason =>
    simp only [decodeSessionOutcome, bind_eq_ok] at h
    obtain ⟨_, hreason, -⟩ := h
    exact decodeOptionalText_nonBlank hreason

theorem decodePlan_wellFormed {dto : PlanSnapshotDto} {plan : PlanSnapshot}
    (h : decodePlan dto = .ok plan) : dto.WellFormed := by
  have hitem : ∀ {item decoded}, decodePlanItem item = .ok decoded →
      item.WellFormed ∧ parseId .planItem item.id = .ok decoded.id := by
    intro item decoded h
    simp only [decodePlanItem, bind_eq_ok] at h
    obtain ⟨id, hid, content, hcontent, h⟩ := h
    cases h
    exact ⟨⟨parseId_versionSeven hid, decodeText_nonBlank hcontent⟩, hid⟩
  simp only [decodePlan, bind_eq_ok] at h
  obtain ⟨items, hitems, revision, hrevision, snapshot, hsnapshot, h⟩ := h
  refine ⟨decodeCounter_positive hrevision, ?_, mapM_holds (fun h => (hitem h).1) hitems,
    mapM_distinctIds (fun h => (hitem h).2) hitems ?_⟩
  · intro text htext
    rw [Option.mem_def] at htext
    simp only [htext, bind_eq_ok] at h
    obtain ⟨_, hexplanation, -⟩ := h
    exact decodeText_nonBlank hexplanation
  · rw [validated_eq_ok, PlanSnapshot.new] at hsnapshot
    split at hsnapshot
    · cases hsnapshot
    · next hdistinct => exact nodup_of_firstDuplicate hdistinct

theorem decodeProgress_wellFormed {dto : ProgressSnapshotDto} {progress : ProgressSnapshot}
    (h : decodeProgress dto = .ok progress) : dto.WellFormed := by
  simp only [decodeProgress, bind_eq_ok] at h
  obtain ⟨revision, hrevision, value, hvalue, message, hmessage, -⟩ := h
  refine ⟨decodeCounter_positive hrevision, ?_, decodeOptionalText_nonBlank hmessage⟩
  cases hdto : dto.value with
  | indeterminate => trivial
  | determinate completed total =>
    simp only [hdto, decodeProgressValue, bind_eq_ok, validated_eq_ok, DeterminateProgress.new] at hvalue
    obtain ⟨determinate, hdeterminate, -⟩ := hvalue
    split at hdeterminate
    · next hpositive =>
      split at hdeterminate
      · next hwithin => exact ⟨hpositive, hwithin⟩
      · cases hdeterminate
    · cases hdeterminate

theorem decodeChoiceOption_wellFormed {dto : ChoiceOptionDto} {option : ChoiceOption}
    (h : decodeChoiceOption dto = .ok option) :
    dto.WellFormed ∧ parseId .choiceOption dto.id = .ok option.id := by
  simp only [decodeChoiceOption, bind_eq_ok] at h
  obtain ⟨id, hid, label, hlabel, description, hdescription, h⟩ := h
  cases h
  exact ⟨⟨parseId_versionSeven hid, decodeText_nonBlank hlabel,
    decodeOptionalText_nonBlank hdescription⟩, hid⟩

theorem decodeApprovalOption_wellFormed {dto : ApprovalOptionDto} {option : ApprovalOption}
    (h : decodeApprovalOption dto = .ok option) :
    dto.WellFormed ∧ parseId .approvalOption dto.id = .ok option.id := by
  simp only [decodeApprovalOption, bind_eq_ok] at h
  obtain ⟨id, hid, label, hlabel, description, hdescription, h⟩ := h
  cases h
  exact ⟨⟨parseId_versionSeven hid, decodeText_nonBlank hlabel,
    decodeOptionalText_nonBlank hdescription⟩, hid⟩

theorem decodeApprovalSubject_wellFormed {dto : ApprovalSubjectDto} {subject : ApprovalSubject}
    (h : decodeApprovalSubject dto = .ok subject) : dto.WellFormed := by
  cases dto with
  | command kind line cwd reason network =>
    simp only [decodeApprovalSubject, bind_eq_ok] at h
    obtain ⟨_, hline, _, hcwd, _, hreason, _, hnetwork, -⟩ := h
    refine ⟨decodeOptionalText_nonBlank hline, decodeOptionalText_nonBlank hcwd,
      decodeOptionalText_nonBlank hreason, decodeOptional_holds ?_ hnetwork⟩
    intro context decoded hcontext
    simp only [decodeApprovalNetworkContext, bind_eq_ok] at hcontext
    obtain ⟨_, hhost, _, hprotocol, -⟩ := hcontext
    exact ⟨decodeText_nonBlank hhost, decodeText_nonBlank hprotocol⟩
  | fileChange changes grantRoot reason =>
    simp only [decodeApprovalSubject, bind_eq_ok] at h
    obtain ⟨_, hchanges, _, hroot, _, hreason, -⟩ := h
    refine ⟨mapM_holds ?_ hchanges, decodeOptionalText_nonBlank hroot,
      decodeOptionalText_nonBlank hreason⟩
    intro change decoded hchange
    simp only [decodeApprovalFileChange, bind_eq_ok] at hchange
    obtain ⟨_, hpath, -⟩ := hchange
    exact decodeText_nonBlank hpath

/-- A form field is built only if it can be answered. -/
theorem decodeFormField_wellFormed {dto : FormFieldDto} {field : FormField}
    (h : decodeFormField dto = .ok field) :
    dto.WellFormed ∧ parseId .formField dto.id = .ok field.id := by
  simp only [decodeFormField, bind_eq_ok, validated_eq_ok] at h
  obtain ⟨id, hid, header, hheader, prompt, hprompt, options, hoptions, h⟩ := h
  have hempty : dto.options = [] → options = [] := by
    intro hnone
    rw [hnone] at hoptions
    cases hoptions
    rfl
  rw [FormField.new] at h
  split at h
  · cases h
  · next hdistinct =>
    split at h
    · cases h
    · next hanswerable =>
      cases h
      refine ⟨⟨parseId_versionSeven hid, decodeText_nonBlank hheader, decodeText_nonBlank hprompt,
        mapM_holds (fun h => (decodeChoiceOption_wellFormed h).1) hoptions,
        mapM_distinctIds (fun h => (decodeChoiceOption_wellFormed h).2) hoptions
          (nodup_of_firstDuplicate hdistinct), ?_⟩, hid⟩
      intro hnone
      simpa [hempty hnone] using hanswerable

/-- Decoding the entries keeps the list empty or not. -/
theorem mapM_nil_iff {α β : Type} {decode : α → Except Abort β} {xs : List α} {ys : List β}
    (h : xs.mapM decode = .ok ys) : xs = [] ↔ ys = [] := by
  rw [Fallible.mapM_eq_ok] at h
  have hlength := h.length_eq
  rw [← List.length_eq_zero_iff, ← List.length_eq_zero_iff, hlength]

theorem decodeInteractionRequestPayload_wellFormed {dto : InteractionRequestPayloadDto}
    {payload : InteractionRequestPayload} (h : decodeInteractionRequestPayload dto = .ok payload) :
    dto.WellFormed := by
  cases dto with
  | approval subject options unavailableReason =>
    simp only [decodeInteractionRequestPayload, bind_eq_ok] at h
    obtain ⟨_, hsubject, decoded, hoptions, request, hrequest, -⟩ := h
    have hnil := mapM_nil_iff hoptions
    refine ⟨decodeApprovalSubject_wellFormed hsubject,
      mapM_holds (fun h => (decodeApprovalOption_wellFormed h).1) hoptions, ?_, ?_⟩
    · apply mapM_distinctIds (fun h => (decodeApprovalOption_wellFormed h).2) hoptions
      by_cases hempty : decoded = []
      · simp [hempty]
      · cases hreason : unavailableReason with
        | none =>
          simp only [hreason, decodeApproval, List.isEmpty_iff, hempty, if_false, validated_eq_ok,
            ApprovalRequest.actionable, dite_false] at hrequest
          split at hrequest
          · cases hrequest
          · next hdistinct => exact nodup_of_firstDuplicate hdistinct
        | some reason => simp [hreason, decodeApproval, List.isEmpty_iff, hempty] at hrequest
    · cases hreason : unavailableReason with
      | none =>
        by_cases hempty : decoded = []
        · simp [hreason, decodeApproval, hempty] at hrequest
        · exact .inl ⟨fun hoptions => hempty (hnil.mp hoptions), rfl⟩
      | some reason =>
        by_cases hempty : decoded = []
        · simp only [hreason, decodeApproval, hempty, List.isEmpty_nil, if_true, bind_eq_ok] at hrequest
          obtain ⟨_, htext, -⟩ := hrequest
          exact .inr ⟨hnil.mpr hempty, reason, rfl, decodeText_nonBlank htext⟩
        · simp [hreason, decodeApproval, List.isEmpty_iff, hempty] at hrequest
  | choice options multiple =>
    simp only [decodeInteractionRequestPayload, bind_eq_ok, validated_eq_ok, ChoiceRequest.new] at h
    obtain ⟨decoded, hoptions, request, hrequest, -⟩ := h
    have hnil := mapM_nil_iff hoptions
    split at hrequest
    · cases hrequest
    · next hnonempty =>
      split at hrequest
      · cases hrequest
      · next hdistinct =>
        exact ⟨fun hempty => hnonempty (hnil.mp hempty),
          mapM_holds (fun h => (decodeChoiceOption_wellFormed h).1) hoptions,
          mapM_distinctIds (fun h => (decodeChoiceOption_wellFormed h).2) hoptions
            (nodup_of_firstDuplicate hdistinct)⟩
  | text placeholder multiline =>
    simp only [decodeInteractionRequestPayload, bind_eq_ok] at h
    obtain ⟨_, hplaceholder, -⟩ := h
    exact decodeOptionalText_nonBlank hplaceholder
  | form fields blocking =>
    simp only [decodeInteractionRequestPayload, bind_eq_ok, validated_eq_ok, FormRequest.new] at h
    obtain ⟨decoded, hfields, request, hrequest, -⟩ := h
    have hnil := mapM_nil_iff hfields
    split at hrequest
    · cases hrequest
    · next hnonempty =>
      split at hrequest
      · cases hrequest
      · next hdistinct =>
        exact ⟨fun hempty => hnonempty (hnil.mp hempty),
          mapM_holds (fun h => (decodeFormField_wellFormed h).1) hfields,
          mapM_distinctIds (fun h => (decodeFormField_wellFormed h).2) hfields
            (nodup_of_firstDuplicate hdistinct)⟩

theorem decodeFormAnswer_wellFormed {dto : FormAnswerDto} {answer : FormAnswer}
    (h : decodeFormAnswer dto = .ok answer) :
    dto.WellFormed ∧ parseId .formField dto.fieldId = .ok answer.fieldId := by
  simp only [decodeFormAnswer, bind_eq_ok] at h
  obtain ⟨value, hvalue, fieldId, hfield, h⟩ := h
  cases h
  refine ⟨⟨parseId_versionSeven hfield, ?_⟩, hfield⟩
  cases hdto : dto.value with
  | choice optionId =>
    simp only [hdto, decodeFormAnswerValue, bind_eq_ok] at hvalue
    obtain ⟨_, hoption, -⟩ := hvalue
    exact parseId_versionSeven hoption
  | text text =>
    simp only [hdto, decodeFormAnswerValue, bind_eq_ok] at hvalue
    obtain ⟨_, htext, -⟩ := hvalue
    exact decodeText_nonBlank htext

theorem decodeInteractionResponsePayload_wellFormed {dto : InteractionResponsePayloadDto}
    {payload : InteractionResponsePayload} (h : decodeInteractionResponsePayload dto = .ok payload) :
    dto.WellFormed := by
  cases dto with
  | approval optionId =>
    simp only [decodeInteractionResponsePayload, bind_eq_ok] at h
    obtain ⟨_, hoption, -⟩ := h
    exact parseId_versionSeven hoption
  | choice optionIds =>
    simp only [decodeInteractionResponsePayload, bind_eq_ok, validated_eq_ok, ChoiceSelection.new] at h
    obtain ⟨ids, hids, selection, hselection, -⟩ := h
    have hnil := mapM_nil_iff hids
    split at hselection
    · cases hselection
    · next hnonempty =>
      split at hselection
      · cases hselection
      · next hdistinct =>
        have hnodup : (ids.map id).Nodup := by
          rw [List.map_id]
          exact nodup_of_firstDuplicate hdistinct
        have hunique := mapM_distinctIds (fun h => h) hids hnodup
        rw [List.map_id'] at hunique
        exact ⟨fun hempty => hnonempty (hnil.mp hempty), mapM_holds parseId_versionSeven hids, hunique⟩
  | text text =>
    simp only [decodeInteractionResponsePayload, bind_eq_ok] at h
    obtain ⟨_, htext, -⟩ := h
    exact decodeText_nonBlank htext
  | form answers =>
    simp only [decodeInteractionResponsePayload, bind_eq_ok, validated_eq_ok, FormResponse.new] at h
    obtain ⟨decoded, hanswers, response, hresponse, -⟩ := h
    have hnil := mapM_nil_iff hanswers
    split at hresponse
    · cases hresponse
    · next hnonempty =>
      split at hresponse
      · cases hresponse
      · next hdistinct =>
        exact ⟨fun hempty => hnonempty (hnil.mp hempty),
          mapM_holds (fun h => (decodeFormAnswer_wellFormed h).1) hanswers,
          mapM_distinctIds (fun h => (decodeFormAnswer_wellFormed h).2) hanswers
            (nodup_of_firstDuplicate hdistinct)⟩

theorem decodeCommandPayload_wellFormed {dto : AgentCommandPayloadDto} {payload : AgentCommandPayload}
    (h : decodeCommandPayload dto = .ok payload) : dto.WellFormed := by
  cases dto with
  | submitPrompt text delivery =>
    simp only [decodeCommandPayload, bind_eq_ok] at h
    obtain ⟨_, htext, -⟩ := h
    exact decodeText_nonBlank htext
  | selectModel model effort =>
    simp only [decodeCommandPayload, bind_eq_ok] at h
    obtain ⟨_, hmodel, _, heffort, -⟩ := h
    exact ⟨decodeText_nonBlank hmodel, decodeOptionalText_nonBlank heffort⟩
  | resumeThread text | startThread text | rename text | selectPermissionProfile text =>
    simp only [decodeCommandPayload, bind_eq_ok] at h
    obtain ⟨_, htext, -⟩ := h
    exact decodeText_nonBlank htext
  | cancelSession text | listThreads text | review text =>
    simp only [decodeCommandPayload, bind_eq_ok] at h
    obtain ⟨_, htext, -⟩ := h
    exact decodeOptionalText_nonBlank htext
  | listModels | setPlanMode | compact | fork | status | listPermissionProfiles | queue => trivial

section Dated

variable {time : Rfc3339}

/-- The order of the two moments is checked by the builder. -/
theorem decodeSession_wellFormed {dto : AgentSessionDto} {session : AgentSession}
    (h : decodeSession time dto = .ok session) :
    dto.WellFormed time ∧ Uuid.parseStr dto.id = some session.id.uuid := by
  simp only [decodeSession, bind_eq_ok, validated_eq_ok] at h
  obtain ⟨createdAt, hcreated, updatedAt, hupdated, id, hid, providerId, hprovider, revision,
    hrevision, externalId, hexternal, title, htitle, workspace, hworkspace, h⟩ := h
  rw [AgentSessionBuilder.build] at h
  split at h
  · next hordered =>
    cases h
    refine ⟨⟨parseId_versionSeven hid, parseId_versionSeven hprovider, decodeOptional_holds ?_ hexternal,
      decodeOptionalText_nonBlank htitle, decodeOptional_holds decodeWorkspace_wellFormed hworkspace,
      decodeCounter_positive hrevision, createdAt, updatedAt, decodeTimestamp_denotes hcreated,
      decodeTimestamp_denotes hupdated, hordered⟩, parseId_reads hid⟩
    intro text external hvalid
    rw [validated_eq_ok, ExternalId.new] at hvalid
    split at hvalid
    · cases hvalid
    · next hblank => simpa [NonBlank] using hblank
  · cases h

theorem decodeInteractionRequest_wellFormed {dto : InteractionRequestDto}
    {request : InteractionRequest} (h : decodeInteractionRequest time dto = .ok request) :
    dto.WellFormed time ∧ Uuid.parseStr dto.sessionId = some request.sessionId.uuid := by
  simp only [decodeInteractionRequest, bind_eq_ok] at h
  obtain ⟨id, hid, sessionId, hsession, requestedAt, hrequested, prompt, hprompt, payload, hpayload,
    h⟩ := h
  have hbase : request.sessionId = sessionId ∧ ∀ text ∈ dto.expiresAt, ∃ expiresAt,
      Denotes time text expiresAt ∧ requestedAt < expiresAt := by
    cases hexpires : dto.expiresAt with
    | none =>
      simp only [hexpires] at h
      cases h
      exact ⟨rfl, by simp⟩
    | some text =>
      simp only [hexpires, bind_eq_ok, validated_eq_ok, InteractionRequest.withExpiration] at h
      obtain ⟨expiresAt, hexpires, h⟩ := h
      split at h
      · next hlater =>
        cases h
        refine ⟨rfl, ?_⟩
        intro other hother
        cases hother
        exact ⟨expiresAt, decodeTimestamp_denotes hexpires, hlater⟩
      · cases h
  refine ⟨⟨parseId_versionSeven hid, parseId_versionSeven hsession, decodeText_nonBlank hprompt,
    decodeInteractionRequestPayload_wellFormed hpayload, requestedAt,
    decodeTimestamp_denotes hrequested, hbase.2⟩, ?_⟩
  rw [hbase.1]
  exact parseId_reads hsession

theorem decodeInteractionResponse_wellFormed {dto : InteractionResponseDto}
    {response : InteractionResponse} (h : decodeInteractionResponse time dto = .ok response) :
    dto.WellFormed time ∧ Uuid.parseStr dto.sessionId = some response.sessionId.uuid := by
  simp only [decodeInteractionResponse, bind_eq_ok] at h
  obtain ⟨requestId, hrequest, sessionId, hsession, channelId, hchannel, respondedAt, hresponded,
    payload, hpayload, h⟩ := h
  cases h
  exact ⟨⟨parseId_versionSeven hrequest, parseId_versionSeven hsession,
    parseId_versionSeven hchannel, ⟨respondedAt, decodeTimestamp_denotes hresponded⟩,
    decodeInteractionResponsePayload_wellFormed hpayload⟩, parseId_reads hsession⟩

theorem decodeInteractionClosed_wellFormed {dto : InteractionClosedDto}
    {interaction : InteractionClosed} (h : decodeInteractionClosed dto = .ok interaction) :
    dto.WellFormed ∧ Uuid.parseStr dto.sessionId = some interaction.sessionId.uuid := by
  simp only [decodeInteractionClosed, bind_eq_ok] at h
  obtain ⟨requestId, hrequest, sessionId, hsession, h⟩ := h
  cases h
  exact ⟨⟨parseId_versionSeven hrequest, parseId_versionSeven hsession⟩, parseId_reads hsession⟩

theorem decodeCommand_wellFormed {dto : AgentCommandDto} {command : AgentCommand}
    (h : decodeCommand time dto = .ok command) :
    dto.WellFormed time ∧ Uuid.parseStr dto.sessionId = some command.sessionId.uuid := by
  simp only [decodeCommand, bind_eq_ok] at h
  obtain ⟨id, hid, sessionId, hsession, channelId, hchannel, issuedAt, hissued, payload, hpayload,
    h⟩ := h
  cases h
  exact ⟨⟨parseId_versionSeven hid, parseId_versionSeven hsession, parseId_versionSeven hchannel,
    ⟨issuedAt, decodeTimestamp_denotes hissued⟩, decodeCommandPayload_wellFormed hpayload⟩,
    parseId_reads hsession⟩

/-- A payload reads the session identifier that it carries. -/
theorem decodeEventPayload_wellFormed {dto : AgentEventPayloadDto} {payload : AgentEventPayload}
    (h : decodeEventPayload time dto = .ok payload) :
    dto.WellFormed time ∧
      dto.embeddedSessionId.map Uuid.parseStr =
        payload.embeddedSessionId.map fun id => some id.uuid := by
  cases dto with
  | stateChanged state | connectionChanged state =>
    simp only [decodeEventPayload] at h
    cases h
    exact ⟨trivial, rfl⟩
  | message content =>
    simp only [decodeEventPayload, Fallible.map_eq_ok, decodeMessage, bind_eq_ok] at h
    obtain ⟨_, ⟨_, hcontent, -⟩, rfl⟩ := h
    exact ⟨decodeText_nonBlank hcontent, rfl⟩
  | toolActivity activity =>
    simp only [decodeEventPayload, Fallible.map_eq_ok] at h
    obtain ⟨_, hactivity, rfl⟩ := h
    exact ⟨decodeToolActivity_wellFormed hactivity, rfl⟩
  | planUpdated plan =>
    simp only [decodeEventPayload, Fallible.map_eq_ok] at h
    obtain ⟨_, hplan, rfl⟩ := h
    exact ⟨decodePlan_wellFormed hplan, rfl⟩
  | progressUpdated progress =>
    simp only [decodeEventPayload, Fallible.map_eq_ok] at h
    obtain ⟨_, hprogress, rfl⟩ := h
    exact ⟨decodeProgress_wellFormed hprogress, rfl⟩
  | sessionEnded outcome =>
    simp only [decodeEventPayload, Fallible.map_eq_ok] at h
    obtain ⟨_, houtcome, rfl⟩ := h
    exact ⟨decodeSessionOutcome_wellFormed houtcome, rfl⟩
  | sessionStarted session =>
    simp only [decodeEventPayload, Fallible.map_eq_ok] at h
    obtain ⟨_, hsession, rfl⟩ := h
    obtain ⟨hwell, hread⟩ := decodeSession_wellFormed hsession
    exact ⟨hwell, congrArg some hread⟩
  | interactionRequested request =>
    simp only [decodeEventPayload, Fallible.map_eq_ok] at h
    obtain ⟨_, hrequest, rfl⟩ := h
    obtain ⟨hwell, hread⟩ := decodeInteractionRequest_wellFormed hrequest
    exact ⟨hwell, congrArg some hread⟩
  | interactionResponded response =>
    simp only [decodeEventPayload, Fallible.map_eq_ok] at h
    obtain ⟨_, hresponse, rfl⟩ := h
    obtain ⟨hwell, hread⟩ := decodeInteractionResponse_wellFormed hresponse
    exact ⟨hwell, congrArg some hread⟩
  | interactionClosed interaction =>
    simp only [decodeEventPayload, Fallible.map_eq_ok] at h
    obtain ⟨_, hclosed, rfl⟩ := h
    obtain ⟨hwell, hread⟩ := decodeInteractionClosed_wellFormed hclosed
    exact ⟨hwell, congrArg some hread⟩
  | commandIssued command =>
    simp only [decodeEventPayload, Fallible.map_eq_ok] at h
    obtain ⟨_, hcommand, rfl⟩ := h
    obtain ⟨hwell, hread⟩ := decodeCommand_wellFormed hcommand
    exact ⟨hwell, congrArg some hread⟩

/-- The session of the payload is compared as an identifier. -/
theorem decodeEvent_wellFormed {dto : AgentEventDto} {event : AgentEvent}
    (h : decodeEvent time dto = .ok event) : dto.WellFormed time := by
  simp only [decodeEvent, bind_eq_ok, validated_eq_ok] at h
  obtain ⟨id, hid, sessionId, hsession, sequence, hsequence, occurredAt, hoccurred, payload,
    hpayload, h⟩ := h
  obtain ⟨hwell, hread⟩ := decodeEventPayload_wellFormed hpayload
  refine ⟨parseId_versionSeven hid, parseId_versionSeven hsession, decodeCounter_positive hsequence,
    ⟨occurredAt, decodeTimestamp_denotes hoccurred⟩, hwell, ?_⟩
  intro text htext
  rw [Option.mem_def] at htext
  rw [htext, Option.map_some] at hread
  obtain ⟨embedded, hembedded, hparse⟩ := Option.map_eq_some_iff.mp hread.symm
  have hsame : embedded = sessionId := by
    unfold AgentEvent.new at h
    split at h
    · next hnone => simp [hembedded] at hnone
    · next other hother =>
      split at h
      · next hequal =>
        rw [hembedded] at hother
        exact (Option.some.inj hother).trans hequal
      · cases h
  rw [← hparse, hsame, parseId_reads hsession]

/-- The shape by shape results put together. -/
theorem decodeMessageDto_wellFormed {dto : MessageDto} {message : ProtocolMessage}
    (h : decodeMessageDto time dto = .ok message) : dto.WellFormed time := by
  cases dto with
  | providerDescriptor descriptor =>
    simp only [decodeMessageDto, Fallible.map_eq_ok] at h
    obtain ⟨_, hdescriptor, -⟩ := h
    exact decodeProviderDescriptor_wellFormed hdescriptor
  | channelDescriptor descriptor =>
    simp only [decodeMessageDto, Fallible.map_eq_ok] at h
    obtain ⟨_, hdescriptor, -⟩ := h
    exact decodeChannelDescriptor_wellFormed hdescriptor
  | agentSession session =>
    simp only [decodeMessageDto, Fallible.map_eq_ok] at h
    obtain ⟨_, hsession, -⟩ := h
    exact (decodeSession_wellFormed hsession).1
  | agentEvent event =>
    simp only [decodeMessageDto, Fallible.map_eq_ok] at h
    obtain ⟨_, hevent, -⟩ := h
    exact decodeEvent_wellFormed hevent
  | interactionRequest request =>
    simp only [decodeMessageDto, Fallible.map_eq_ok] at h
    obtain ⟨_, hrequest, -⟩ := h
    exact (decodeInteractionRequest_wellFormed hrequest).1
  | interactionResponse response =>
    simp only [decodeMessageDto, Fallible.map_eq_ok] at h
    obtain ⟨_, hresponse, -⟩ := h
    exact (decodeInteractionResponse_wellFormed hresponse).1
  | agentCommand command =>
    simp only [decodeMessageDto, Fallible.map_eq_ok] at h
    obtain ⟨_, hcommand, -⟩ := h
    exact (decodeCommand_wellFormed hcommand).1

end Dated

def NonEmptyText.WellFormed (text : NonEmptyText) : Prop := isBlank text.asStr = false

def Ident.WellFormed {k : IdKind} (id : Ident k) : Prop := id.uuid.getVersionNum = 7

def PositiveCounter.WellFormed {k : CounterKind} (counter : PositiveCounter k) : Prop :=
  1 ≤ counter.get

/-- The same of the values that were built. -/
def ProviderDescriptor.WellFormed (descriptor : ProviderDescriptor) : Prop :=
  descriptor.id.WellFormed ∧ isSlug descriptor.kind.asStr = true ∧
    descriptor.displayName.WellFormed ∧ ∀ text ∈ descriptor.version, text.WellFormed

def ChannelDescriptor.WellFormed (descriptor : ChannelDescriptor) : Prop :=
  descriptor.id.WellFormed ∧ isSlug descriptor.kind.asStr = true ∧
    descriptor.displayName.WellFormed ∧ ∀ text ∈ descriptor.version, text.WellFormed

/-- A session value, whatever built it. -/
def AgentSession.WellFormed (session : AgentSession) : Prop :=
  session.id.WellFormed ∧ session.providerId.WellFormed ∧
    (∀ externalId ∈ session.externalId, externalId.text.WellFormed) ∧
    (∀ text ∈ session.title, text.WellFormed) ∧
    (∀ workspace ∈ session.workspace,
      workspace.path.WellFormed ∧ ∀ text ∈ workspace.displayName, text.WellFormed) ∧
    session.revision.WellFormed ∧ session.createdAt ≤ session.updatedAt

def ToolActivity.WellFormed : ToolActivity → Prop
  | .started callId name summary =>
    callId.WellFormed ∧ name.WellFormed ∧ ∀ text ∈ summary, text.WellFormed
  | .finished callId _ summary => callId.WellFormed ∧ ∀ text ∈ summary, text.WellFormed

def SessionOutcome.WellFormed : SessionOutcome → Prop
  | .completed summary => ∀ text ∈ summary, text.WellFormed
  | .failed error => error.WellFormed
  | .cancelled reason => ∀ text ∈ reason, text.WellFormed

def PlanSnapshot.WellFormed (plan : PlanSnapshot) : Prop :=
  plan.revision.WellFormed ∧ (∀ text ∈ plan.explanation, text.WellFormed) ∧
    (∀ item ∈ plan.items, item.id.WellFormed ∧ item.content.WellFormed) ∧
    (plan.items.map PlanItem.id).Nodup

def ProgressSnapshot.WellFormed (progress : ProgressSnapshot) : Prop :=
  progress.revision.WellFormed ∧ (∀ text ∈ progress.message, text.WellFormed) ∧
    match progress.value with
    | .indeterminate => True
    | .determinate value => 0 < value.total ∧ value.completed ≤ value.total

def ChoiceOption.WellFormed (option : ChoiceOption) : Prop :=
  option.id.WellFormed ∧ option.label.WellFormed ∧ ∀ text ∈ option.description, text.WellFormed

def ApprovalSubject.WellFormed : ApprovalSubject → Prop
  | .command _ line cwd reason network =>
    (∀ text ∈ line, text.WellFormed) ∧ (∀ text ∈ cwd, text.WellFormed) ∧
      (∀ text ∈ reason, text.WellFormed) ∧
      ∀ context ∈ network, context.host.WellFormed ∧ context.protocol.WellFormed
  | .fileChange changes grantRoot reason =>
    (∀ change ∈ changes, change.path.WellFormed) ∧ (∀ text ∈ grantRoot, text.WellFormed) ∧
      ∀ text ∈ reason, text.WellFormed

/-- Actionable without a reason, or unavailable with one and without options. -/
def ApprovalRequest.WellFormed (request : ApprovalRequest) : Prop :=
  request.subject.WellFormed ∧
    (∀ option ∈ request.options, option.id.WellFormed ∧ option.label.WellFormed ∧
      ∀ text ∈ option.description, text.WellFormed) ∧
    (request.options.map ApprovalOption.id).Nodup ∧
    ((request.options ≠ [] ∧ request.unavailableReason = none) ∨
      request.options = [] ∧ ∃ reason, request.unavailableReason = some reason ∧ reason.WellFormed)

def FormField.WellFormed (field : FormField) : Prop :=
  field.id.WellFormed ∧ field.header.WellFormed ∧ field.prompt.WellFormed ∧
    (∀ option ∈ field.options, option.WellFormed) ∧ (field.options.map ChoiceOption.id).Nodup ∧
    (field.options = [] → field.allowsOther = true)

def InteractionRequestPayload.WellFormed : InteractionRequestPayload → Prop
  | .approval request => request.WellFormed
  | .choice request =>
    request.options ≠ [] ∧ (∀ option ∈ request.options, option.WellFormed) ∧
      (request.options.map ChoiceOption.id).Nodup
  | .text request => ∀ text ∈ request.placeholder, text.WellFormed
  | .form request =>
    request.fields ≠ [] ∧ (∀ field ∈ request.fields, field.WellFormed) ∧
      (request.fields.map FormField.id).Nodup

def InteractionRequest.WellFormed (request : InteractionRequest) : Prop :=
  request.id.WellFormed ∧ request.sessionId.WellFormed ∧ request.prompt.WellFormed ∧
    request.payload.WellFormed ∧ ∀ expiresAt ∈ request.expiresAt, request.requestedAt < expiresAt

def FormAnswer.WellFormed (answer : FormAnswer) : Prop :=
  answer.fieldId.WellFormed ∧
    match answer.value with
    | .choice optionId => optionId.WellFormed
    | .text text => text.WellFormed

def InteractionResponsePayload.WellFormed : InteractionResponsePayload → Prop
  | .approval selection => selection.optionId.WellFormed
  | .choice selection =>
    selection.optionIds ≠ [] ∧ (∀ id ∈ selection.optionIds, id.WellFormed) ∧
      selection.optionIds.Nodup
  | .text value => value.WellFormed
  | .form response =>
    response.answers ≠ [] ∧ (∀ answer ∈ response.answers, answer.WellFormed) ∧
      (response.answers.map FormAnswer.fieldId).Nodup

def InteractionResponse.WellFormed (response : InteractionResponse) : Prop :=
  response.requestId.WellFormed ∧ response.sessionId.WellFormed ∧ response.channelId.WellFormed ∧
    response.payload.WellFormed

def AgentCommandPayload.WellFormed : AgentCommandPayload → Prop
  | .submitPrompt text _ => text.WellFormed
  | .cancelSession reason => ∀ text ∈ reason, text.WellFormed
  | .selectModel model effort => model.WellFormed ∧ ∀ text ∈ effort, text.WellFormed
  | .listThreads cursor => ∀ text ∈ cursor, text.WellFormed
  | .resumeThread threadId => threadId.WellFormed
  | .startThread cwd => cwd.WellFormed
  | .review instructions => ∀ text ∈ instructions, text.WellFormed
  | .rename name => name.WellFormed
  | .selectPermissionProfile profile => profile.WellFormed
  | .listModels | .setPlanMode _ | .compact | .fork | .status | .listPermissionProfiles
  | .queue _ => True

def AgentCommand.WellFormed (command : AgentCommand) : Prop :=
  command.id.WellFormed ∧ command.sessionId.WellFormed ∧ command.channelId.WellFormed ∧
    command.payload.WellFormed

def AgentEventPayload.WellFormed : AgentEventPayload → Prop
  | .sessionStarted session => session.WellFormed
  | .stateChanged _ | .connectionChanged _ => True
  | .message content => content.content.WellFormed
  | .toolActivity activity => activity.WellFormed
  | .planUpdated plan => plan.WellFormed
  | .progressUpdated progress => progress.WellFormed
  | .interactionRequested request => request.WellFormed
  | .interactionResponded response => response.WellFormed
  | .interactionClosed interaction =>
    interaction.requestId.WellFormed ∧ interaction.sessionId.WellFormed
  | .commandIssued command => command.WellFormed
  | .sessionEnded outcome => outcome.WellFormed

/-- An event value and all that is in it. -/
def AgentEvent.WellFormed (event : AgentEvent) : Prop :=
  event.id.WellFormed ∧ event.sessionId.WellFormed ∧ event.sequence.WellFormed ∧
    event.payload.WellFormed ∧ ∀ id ∈ event.payload.embeddedSessionId, id = event.sessionId

def ProtocolMessage.WellFormed : ProtocolMessage → Prop
  | .providerDescriptor descriptor => descriptor.WellFormed
  | .channelDescriptor descriptor => descriptor.WellFormed
  | .agentSession session => session.WellFormed
  | .agentEvent event => event.WellFormed
  | .interactionRequest request => request.WellFormed
  | .interactionResponse response => response.WellFormed
  | .agentCommand command => command.WellFormed

/-- The fields of the type carry this. -/
theorem AgentSession.wellFormed (session : AgentSession) : session.WellFormed :=
  ⟨session.id.version7, session.providerId.version7, fun id _ => id.text.nonBlank,
    fun text _ => text.nonBlank, fun workspace _ => ⟨workspace.path.nonBlank, fun text _ => text.nonBlank⟩,
    session.revision.positive, session.ordered⟩

theorem ChoiceOption.wellFormed (option : ChoiceOption) : option.WellFormed :=
  ⟨option.id.version7, option.label.nonBlank, fun text _ => text.nonBlank⟩

theorem ApprovalRequest.wellFormed (request : ApprovalRequest) : request.WellFormed := by
  refine ⟨?_, fun option _ => ⟨option.id.version7, option.label.nonBlank, fun text _ => text.nonBlank⟩,
    request.unique, ?_⟩
  · cases request.subject with
    | command kind line cwd reason network =>
      exact ⟨fun text _ => text.nonBlank, fun text _ => text.nonBlank, fun text _ => text.nonBlank,
        fun context _ => ⟨context.host.nonBlank, context.protocol.nonBlank⟩⟩
    | fileChange changes grantRoot reason =>
      exact ⟨fun change _ => change.path.nonBlank, fun text _ => text.nonBlank,
        fun text _ => text.nonBlank⟩
  · have hexclusive := request.exclusive
    cases hreason : request.unavailableReason with
    | none => exact .inl ⟨by simpa [hreason] using hexclusive, rfl⟩
    | some reason => exact .inr ⟨by simpa [hreason] using hexclusive, reason, rfl, reason.nonBlank⟩

theorem FormField.wellFormed (field : FormField) : field.WellFormed :=
  ⟨field.id.version7, field.header.nonBlank, field.prompt.nonBlank,
    fun option _ => option.wellFormed, field.unique, field.answerable⟩

theorem InteractionRequest.wellFormed (request : InteractionRequest) : request.WellFormed := by
  refine ⟨request.id.version7, request.sessionId.version7, request.prompt.nonBlank, ?_,
    request.expiresLater⟩
  cases request.payload with
  | approval request => exact request.wellFormed
  | choice request => exact ⟨request.nonempty, fun option _ => option.wellFormed, request.unique⟩
  | text request => exact fun text _ => text.nonBlank
  | form request => exact ⟨request.nonempty, fun field _ => field.wellFormed, request.unique⟩

theorem InteractionResponse.wellFormed (response : InteractionResponse) : response.WellFormed := by
  refine ⟨response.requestId.version7, response.sessionId.version7, response.channelId.version7, ?_⟩
  cases response.payload with
  | approval selection => exact selection.optionId.version7
  | choice selection => exact ⟨selection.nonempty, fun id _ => id.version7, selection.unique⟩
  | text value => exact value.nonBlank
  | form response =>
    refine ⟨response.nonempty, fun answer _ => ⟨answer.fieldId.version7, ?_⟩, response.unique⟩
    cases answer.value with
    | choice optionId => exact optionId.version7
    | text text => exact text.nonBlank

theorem AgentCommand.wellFormed (command : AgentCommand) : command.WellFormed := by
  refine ⟨command.id.version7, command.sessionId.version7, command.channelId.version7, ?_⟩
  cases command.payload with
  | submitPrompt text delivery => exact text.nonBlank
  | selectModel model effort => exact ⟨model.nonBlank, fun text _ => text.nonBlank⟩
  | resumeThread text | startThread text | rename text | selectPermissionProfile text =>
    exact text.nonBlank
  | cancelSession text | listThreads text | review text => exact fun text _ => text.nonBlank
  | listModels | setPlanMode | compact | fork | status | listPermissionProfiles | queue => trivial

theorem AgentEvent.wellFormed (event : AgentEvent) : event.WellFormed := by
  refine ⟨event.id.version7, event.sessionId.version7, event.sequence.positive, ?_, ?_⟩
  · cases event.payload with
    | sessionStarted session => exact session.wellFormed
    | stateChanged state | connectionChanged state => trivial
    | message content => exact content.content.nonBlank
    | toolActivity activity =>
      cases activity with
      | started callId name summary =>
        exact ⟨callId.version7, name.nonBlank, fun text _ => text.nonBlank⟩
      | finished callId outcome summary => exact ⟨callId.version7, fun text _ => text.nonBlank⟩
    | planUpdated plan =>
      exact ⟨plan.revision.positive, fun text _ => text.nonBlank,
        fun item _ => ⟨item.id.version7, item.content.nonBlank⟩, plan.unique⟩
    | progressUpdated progress =>
      refine ⟨progress.revision.positive, fun text _ => text.nonBlank, ?_⟩
      cases progress.value with
      | indeterminate => trivial
      | determinate value => exact ⟨value.positive, value.within⟩
    | interactionRequested request => exact request.wellFormed
    | interactionResponded response => exact response.wellFormed
    | interactionClosed interaction =>
      exact ⟨interaction.requestId.version7, interaction.sessionId.version7⟩
    | commandIssued command => exact command.wellFormed
    | sessionEnded outcome =>
      cases outcome with
      | completed summary => exact fun text _ => text.nonBlank
      | failed error => exact error.nonBlank
      | cancelled reason => exact fun text _ => text.nonBlank
  · intro id hid
    have hcorrelated := event.correlated
    rw [Option.mem_def] at hid
    rw [hid] at hcorrelated
    exact hcorrelated

/-- No message value breaks its own rules. -/
theorem ProtocolMessage.wellFormed (message : ProtocolMessage) : message.WellFormed := by
  cases message with
  | providerDescriptor descriptor =>
    exact ⟨descriptor.id.version7, descriptor.kind.valid, descriptor.displayName.nonBlank,
      fun text _ => text.nonBlank⟩
  | channelDescriptor descriptor =>
    exact ⟨descriptor.id.version7, descriptor.kind.valid, descriptor.displayName.nonBlank,
      fun text _ => text.nonBlank⟩
  | agentSession session => exact session.wellFormed
  | agentEvent event => exact event.wellFormed
  | interactionRequest request => exact request.wellFormed
  | interactionResponse response => exact response.wellFormed
  | agentCommand command => exact command.wellFormed

/-- Decoding returns a message only from a well-formed document, with every
capability named once, and every value of the message is well formed. -/
theorem decodeJson_wellFormed (serde : SerdeJson) (time : Rfc3339) (input : List UInt8)
    (message : ProtocolMessage) (h : decodeJson serde time input = .ok message) :
    message.WellFormed ∧ ∃ envelope, Reads serde input envelope ∧
      decodeMessageDto time envelope.message = .ok message ∧ envelope.message.WellFormed time := by
  refine ⟨message.wellFormed, ?_⟩
  rcases decodeJson_cases serde time input with ⟨⟨e, he⟩, -⟩ | ⟨envelope, hreads, -, hdecode⟩
  · rw [he] at h
    cases h
  · rw [hdecode] at h
    exact ⟨envelope, hreads, h, decodeMessageDto_wellFormed h⟩

/-- A message event of the sample document. -/
theorem decodeJson_wellFormed_event :
    (ProtocolMessage.agentEvent (Sample.message 0 1)).WellFormed ∧
      ∃ envelope, Reads (Sample.eventSerde "1970-01-01T00:00:00Z")
          (Sample.eventText "1970-01-01T00:00:00Z").toUTF8.data.toList envelope ∧
        decodeMessageDto Sample.rfc3339 envelope.message = .ok (.agentEvent (Sample.message 0 1)) ∧
        envelope.message.WellFormed Sample.rfc3339 := by
  apply decodeJson_wellFormed
  have hdecode : decodeMessageDto Sample.rfc3339
      (Sample.eventEnvelope "1970-01-01T00:00:00Z").message = .ok (.agentEvent (Sample.message 0 1)) := by
    decide +kernel
  exact (Sample.eventSerde_reads "1970-01-01T00:00:00Z").2.trans hdecode

end AgentPulse
