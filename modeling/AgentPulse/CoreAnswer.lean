import AgentPulse.CoreRouting

/-!
# Answerable requests

A request is answerable when some response would be accepted. The constructors
leave only one kind of request without an answer, the approval that names a
reason why it is unavailable; for every other request an answer is built here
from its own options and fields.
-/
namespace AgentPulse

open Fallible (bind_eq_ok mapError_eq_ok)

/-- Where no key occurs twice, the search for a key finds its own entry. -/
theorem find_of_nodup {α κ : Type} [DecidableEq κ] (key : α → κ) {entries : List α}
    (h : (entries.map key).Nodup) {entry : α} (hentry : entry ∈ entries) :
    entries.find? (fun other => key other == key entry) = some entry := by
  induction entries with
  | nil => cases hentry
  | cons first rest ih =>
    obtain ⟨hfirst, hrest⟩ := List.nodup_cons.mp h
    by_cases he : key first = key entry
    · have hsame : entry = first := by
        rcases List.mem_cons.mp hentry with rfl | hmem
        · rfl
        · exact absurd (he ▸ List.mem_map_of_mem hmem) hfirst
      rw [hsame, List.find?_cons_of_pos (by simp)]
    · have hmem : entry ∈ rest := by
        rcases List.mem_cons.mp hentry with rfl | hmem
        · exact absurd rfl he
        · exact hmem
      rw [List.find?_cons_of_neg (by simpa using he)]
      exact ih hrest hmem

namespace FormField

def anyText : NonEmptyText := ⟨"ok", by decide⟩

/-- The first option of the field, or a text where it has none. -/
def someAnswer (self : FormField) : FormAnswer :=
  ⟨self.id,
    match self.options with
    | [] => .text anyText
    | option :: _ => .choice option.id⟩

theorem validateAnswer_someAnswer (self : FormField) :
    self.validateAnswer self.someAnswer.value = .ok () := by
  unfold someAnswer validateAnswer
  cases hoptions : self.options with
  | nil => simp [self.answerable hoptions]
  | cons option rest => simp [contains, hoptions]

end FormField

namespace FormRequest

/-- Every field is answered once, in display order. -/
def someResponse (self : FormRequest) : FormResponse where
  answers := self.fields.map FormField.someAnswer
  nonempty := by simp [self.nonempty]
  unique := by simpa [Function.comp_def, FormField.someAnswer] using self.unique

/-- With different identifiers each field finds its own answer. -/
theorem find_someAnswer {fields : List FormField} (h : (fields.map FormField.id).Nodup)
    {field : FormField} (hfield : field ∈ fields) :
    (fields.map FormField.someAnswer).find? (fun answer => answer.fieldId == field.id) =
      some field.someAnswer := by
  have hkeys : (fields.map FormField.someAnswer).map FormAnswer.fieldId = fields.map FormField.id := by
    rw [List.map_map]
    rfl
  exact find_of_nodup FormAnswer.fieldId (hkeys ▸ h) (List.mem_map_of_mem hfield)

theorem validateFields_someResponse (self : FormRequest) (fields : List FormField)
    (h : ∀ field ∈ fields, field ∈ self.fields) :
    self.someResponse.validateFields fields = .ok () := by
  induction fields with
  | nil => rfl
  | cons field rest ih =>
    have hfind := find_someAnswer self.unique (h field (by simp))
    unfold FormResponse.validateFields
    rw [show self.someResponse.answers = self.fields.map FormField.someAnswer from rfl, hfind]
    simp only [FormField.validateAnswer_someAnswer]
    exact ih fun f hf => h f (by simp [hf])

end FormRequest

namespace InteractionRequestPayload

/-- A request shows a response action exactly when it accepts some response. -/
theorem isActionable_iff (payload : InteractionRequestPayload) :
    payload.isActionable = true ↔ ∃ response, payload.validateResponse response = .ok () := by
  cases payload with
  | approval request =>
    constructor
    · intro h
      cases hoptions : request.options with
      | nil => simp [isActionable, ApprovalRequest.isActionable, hoptions] at h
      | cons option rest =>
        refine ⟨.approval ⟨option.id⟩, ?_⟩
        simp [validateResponse, ApprovalRequest.isActionable, ApprovalRequest.contains, hoptions]
    · rintro ⟨response, h⟩
      cases response with
      | approval selection =>
        by_contra hnone
        have hclosed : request.isActionable = false := by simpa [isActionable] using hnone
        simp [validateResponse, hclosed] at h
      | choice selection => cases h
      | text value => cases h
      | form response => cases h
  | choice request =>
    refine iff_of_true rfl ?_
    obtain ⟨option, rest, hoptions⟩ := List.exists_cons_of_ne_nil request.nonempty
    refine ⟨.choice ⟨[option.id], by simp, by simp⟩, ?_⟩
    simp [validateResponse, ChoiceRequest.validateSelection, ChoiceRequest.contains, hoptions]
  | text request => exact iff_of_true rfl ⟨.text FormField.anyText, rfl⟩
  | form request =>
    refine iff_of_true rfl ⟨.form request.someResponse, ?_⟩
    have hlength : request.someResponse.answers.length = request.fields.length := by
      simp [FormRequest.someResponse]
    simp only [validateResponse, hlength, bne_self_eq_false, Bool.false_eq_true, if_false]
    exact request.validateFields_someResponse request.fields fun _ h => h

end InteractionRequestPayload

namespace InteractionRequest

/-- A response that names its request, comes in time and is accepted by the payload. -/
theorem validateResponse_ok {self : InteractionRequest} {response : InteractionResponse} :
    self.validateResponse response = .ok () ↔
      response.requestId = self.id ∧ response.sessionId = self.sessionId ∧
      ¬ response.respondedAt < self.requestedAt ∧
      (∀ expiresAt ∈ self.expiresAt, ¬ expiresAt < response.respondedAt) ∧
      self.payload.validateResponse response.payload = .ok () := by
  have hany : (self.expiresAt.any fun expiresAt => decide (expiresAt < response.respondedAt)) =
      true ↔ ¬ ∀ expiresAt ∈ self.expiresAt, ¬ expiresAt < response.respondedAt := by
    cases self.expiresAt <;> simp
  unfold validateResponse
  by_cases hid : response.requestId = self.id
  · by_cases hsession : response.sessionId = self.sessionId
    · by_cases hearly : response.respondedAt < self.requestedAt
      · simp [hid, hsession, hearly]
      · by_cases hlate : ∀ expiresAt ∈ self.expiresAt, ¬ expiresAt < response.respondedAt
        · have hnot : ¬ (self.expiresAt.any fun expiresAt =>
              decide (expiresAt < response.respondedAt)) = true := by
            rw [hany]
            exact not_not.mpr hlate
          rw [if_neg (not_not.mpr hid), if_neg (not_not.mpr hsession), if_neg hearly, if_neg hnot]
          exact ⟨fun h => ⟨hid, hsession, hearly, hlate, h⟩, fun h => h.2.2.2.2⟩
        · rw [if_neg (not_not.mpr hid), if_neg (not_not.mpr hsession), if_neg hearly,
            if_pos (hany.mpr hlate)]
          exact ⟨fun h => (by cases h), fun h => absurd h.2.2.2.1 hlate⟩
    · simp [hid, hsession]
  · simp [hid]

end InteractionRequest

namespace CapabilityRouter

@[simp] theorem validateChannelId_ok {expected actual : ChannelId} {u : Unit} :
    validateChannelId expected actual = .ok u ↔ expected = actual := by
  unfold validateChannelId
  by_cases h : expected = actual <;> simp [h]

@[simp] theorem validateChannelCapabilities_ok {channel : ChannelDescriptor}
    {required : ChannelCapabilities} {u : Unit} :
    validateChannelCapabilities channel required = .ok u ↔
      channel.capabilities.contains required = true := by
  unfold validateChannelCapabilities
  by_cases h : channel.capabilities.contains required = true <;> simp [h]

theorem validateInteractionResponse_ok {provider : ProviderDescriptor}
    {channel : ChannelDescriptor} {session : AgentSession} {request : InteractionRequest}
    {response : InteractionResponse} :
    validateInteractionResponse provider channel session request response = .ok () ↔
      provider.id = session.providerId ∧ session.id = request.sessionId ∧
      session.id = response.sessionId ∧ channel.id = response.channelId ∧
      request.validateResponse response = .ok () ∧
      provider.capabilities.contains request.payload.requiredProviderRequestCapability = true ∧
      provider.capabilities.contains request.payload.requiredProviderResponseCapability = true ∧
      channel.capabilities.contains request.payload.requiredChannelResponseCapability = true := by
  have hunit : (∃ u : Unit, request.validateResponse response = .ok u) ↔
      request.validateResponse response = .ok () := ⟨fun ⟨_, h⟩ => h, fun h => ⟨(), h⟩⟩
  unfold validateInteractionResponse
  simp [bind_eq_ok, mapError_eq_ok, hunit]

theorem validateCommand_ok {provider : ProviderDescriptor} {channel : ChannelDescriptor}
    {session : AgentSession} {command : AgentCommand} :
    validateCommand provider channel session command = .ok () ↔
      provider.id = session.providerId ∧ session.id = command.sessionId ∧
      channel.id = command.channelId ∧
      provider.capabilities.contains command.payload.requiredProviderCapability = true ∧
      channel.capabilities.contains command.payload.requiredChannelCapabilities = true := by
  unfold validateCommand
  simp [bind_eq_ok]

/-- The route of a request that may be published, by its three conditions. -/
theorem interactionRoute_eq {provider : ProviderDescriptor} {channel : ChannelDescriptor}
    {session : AgentSession} {request : InteractionRequest} {route : InteractionRoute} :
    interactionRoute provider channel session request = .ok route ↔
      (provider.id = session.providerId ∧ session.id = request.sessionId ∧
        provider.capabilities.contains request.payload.requiredProviderRequestCapability = true) ∧
      (route = .interactive ↔ request.payload.isActionable = true ∧
        provider.capabilities.contains request.payload.requiredProviderResponseCapability = true ∧
        channel.capabilities.contains request.payload.requiredChannelResponseCapability = true) := by
  unfold interactionRoute
  simp only [bind_eq_ok, validateProviderSession_ok, validateSessionId_ok,
    validateProviderCapabilities_ok]
  by_cases ha : (request.payload.isActionable &&
      provider.capabilities.contains request.payload.requiredProviderResponseCapability &&
      channel.capabilities.contains request.payload.requiredChannelResponseCapability) = true
  · have hall := ha
    simp only [Bool.and_eq_true, and_assoc] at hall
    rw [if_pos ha]
    cases route <;> simp [hall]
  · have hall := ha
    simp only [Bool.and_eq_true, and_assoc] at hall
    rw [if_neg ha]
    cases route <;> simp [hall]

/-- Some response to the request would be accepted. -/
def Answerable (provider : ProviderDescriptor) (channel : ChannelDescriptor)
    (session : AgentSession) (request : InteractionRequest) : Prop :=
  ∃ response, validateInteractionResponse provider channel session request response = .ok ()

/-- The provider may publish the request in the session. -/
def MayPublish (provider : ProviderDescriptor) (session : AgentSession)
    (request : InteractionRequest) : Prop :=
  ∃ event : AgentEvent, event.payload = .interactionRequested request ∧
    validateProviderEvent provider session event = .ok ()

theorem mayPublish_iff {provider : ProviderDescriptor} {session : AgentSession}
    {request : InteractionRequest} :
    MayPublish provider session request ↔
      provider.id = session.providerId ∧ session.id = request.sessionId ∧
      provider.capabilities.contains request.payload.requiredProviderRequestCapability = true := by
  constructor
  · rintro ⟨event, hpayload, hvalid⟩
    obtain ⟨hprovider, hsession, -, hcapability⟩ := validateProviderEvent_ok.mp hvalid
    rw [hpayload] at hcapability
    exact ⟨hprovider, hsession.trans (event.request_sessionId_eq hpayload).symm, hcapability⟩
  · rintro ⟨hprovider, hsession, hcapability⟩
    refine ⟨⟨Ident.numbered .event 0, request.sessionId, PositiveCounter.first,
      request.requestedAt, .interactionRequested request, rfl⟩, rfl, ?_⟩
    apply validateProviderEvent_ok.mpr
    refine ⟨hprovider, hsession, ?_, hcapability⟩
    intro started h
    cases h

/-- An answer is given at once, through the channel that asks for it. -/
theorem answerable_iff {provider : ProviderDescriptor} {channel : ChannelDescriptor}
    {session : AgentSession} {request : InteractionRequest} :
    Answerable provider channel session request ↔
      MayPublish provider session request ∧ request.payload.isActionable = true ∧
      provider.capabilities.contains request.payload.requiredProviderResponseCapability = true ∧
      channel.capabilities.contains request.payload.requiredChannelResponseCapability = true := by
  rw [mayPublish_iff, InteractionRequestPayload.isActionable_iff]
  constructor
  · rintro ⟨response, h⟩
    obtain ⟨hprovider, hsession, -, -, hresponse, hrequest, haccepts, hcollects⟩ :=
      validateInteractionResponse_ok.mp h
    have hpayload := (InteractionRequest.validateResponse_ok.mp hresponse).2.2.2.2
    exact ⟨⟨hprovider, hsession, hrequest⟩, ⟨response.payload, hpayload⟩, haccepts, hcollects⟩
  · rintro ⟨⟨hprovider, hsession, hrequest⟩, ⟨payload, hpayload⟩, haccepts, hcollects⟩
    refine ⟨⟨request.id, request.sessionId, channel.id, request.requestedAt, payload⟩, ?_⟩
    apply validateInteractionResponse_ok.mpr
    refine ⟨hprovider, hsession, hsession, rfl, ?_, hrequest, haccepts, hcollects⟩
    apply InteractionRequest.validateResponse_ok.mpr
    refine ⟨rfl, rfl, ?_, ?_, hpayload⟩
    · exact Int.lt_irrefl _
    · intro expiresAt hexpires hlate
      exact Int.lt_asymm (request.expiresLater expiresAt hexpires) hlate

/-- An interactive route is an answerable one, and a read-only route is one that
may be shown and that no response at all would answer. -/
theorem interactionRoute_answerable (provider : ProviderDescriptor) (channel : ChannelDescriptor)
    (session : AgentSession) (request : InteractionRequest) :
    (interactionRoute provider channel session request = .ok .interactive ↔
      ∃ response, validateInteractionResponse provider channel session request response =
        .ok ()) ∧
    (interactionRoute provider channel session request = .ok .readOnly ↔
      MayPublish provider session request ∧
      ¬ ∃ response, validateInteractionResponse provider channel session request response =
        .ok ()) := by
  have hanswer : (∃ response, validateInteractionResponse provider channel session request
      response = .ok ()) ↔ _ := answerable_iff
  rw [interactionRoute_eq, interactionRoute_eq, ← mayPublish_iff, hanswer]
  constructor
  · simp
  · simp only [reduceCtorEq, false_iff]
    constructor
    · exact fun h => ⟨h.1, fun hall => h.2 hall.2⟩
    · exact fun h => ⟨h.1, fun hall => h.2 ⟨h.1, hall⟩⟩

end CapabilityRouter

end AgentPulse
