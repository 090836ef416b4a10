import AgentPulse.CoreAnswer

/-!
# Answers of a form

The validator compares two lengths and then looks up one answer for each field.
Both lists name no field twice, so this is a comparison of the fields themselves:
every field is answered once and nothing else is.
-/
namespace AgentPulse

/-- An answer to this field: one of its own options, or a text where it takes one. -/
structure FormField.AnsweredBy (field : FormField) (answer : FormAnswer) : Prop where
  ofField : answer.fieldId = field.id
  allowed : match answer.value with
    | .choice optionId => optionId ∈ field.options.map ChoiceOption.id
    | .text _ => field.allowsOther = true

theorem FormField.validateAnswer_ok (self : FormField) (value : FormAnswerValue) :
    self.validateAnswer value = .ok () ↔
      match value with
      | .choice optionId => optionId ∈ self.options.map ChoiceOption.id
      | .text _ => self.allowsOther = true := by
  unfold validateAnswer
  cases value with
  | choice optionId =>
    have hcontains : self.contains optionId = true ↔ optionId ∈ self.options.map ChoiceOption.id := by
      simp [contains]
    by_cases h : self.contains optionId = true
    · simp [h, hcontains.mp h]
    · have hnone : optionId ∉ self.options.map ChoiceOption.id := fun hmem => h (hcontains.mpr hmem)
      simp only [if_neg h, reduceCtorEq, hnone]
  | text text =>
    by_cases h : self.allowsOther = true <;> simp [h]

namespace FormResponse

/-- The lookup for a field finds the one answer that names it. -/
theorem find_answer (self : FormResponse) {answer : FormAnswer} {fieldId : FormFieldId} :
    (self.answers.find? fun answer => answer.fieldId == fieldId) = some answer ↔
      answer ∈ self.answers ∧ answer.fieldId = fieldId := by
  constructor
  · intro h
    exact ⟨List.mem_of_find?_eq_some h, by simpa using List.find?_some h⟩
  · rintro ⟨hmem, rfl⟩
    exact find_of_nodup FormAnswer.fieldId self.unique hmem

theorem validateFields_ok (self : FormResponse) (fields : List FormField) :
    self.validateFields fields = .ok () ↔
      ∀ field ∈ fields, ∃ answer ∈ self.answers, field.AnsweredBy answer := by
  induction fields with
  | nil => simp [validateFields]
  | cons field rest ih =>
    rw [List.forall_mem_cons, ← ih, validateFields]
    cases hfound : self.answers.find? fun answer => answer.fieldId == field.id with
    | none =>
      have hnone : ¬ ∃ answer ∈ self.answers, field.AnsweredBy answer := by
        rintro ⟨answer, hmem, hanswers⟩
        rw [self.find_answer.mpr ⟨hmem, hanswers.ofField⟩] at hfound
        cases hfound
      exact iff_of_false (by simp) fun h => hnone h.1
    | some answer =>
      obtain ⟨hmem, hid⟩ := self.find_answer.mp hfound
      have hvalue := field.validateAnswer_ok answer.value
      dsimp only
      cases hchecked : field.validateAnswer answer.value with
      | ok u =>
        exact ⟨fun h => ⟨⟨answer, hmem, hid, hvalue.mp hchecked⟩, h⟩, fun h => h.2⟩
      | error e =>
        refine iff_of_false (by simp) ?_
        rintro ⟨⟨other, hother, hanswers⟩, -⟩
        have hsame : answer = other :=
          Option.some.inj (hfound.symm.trans (self.find_answer.mpr ⟨hother, hanswers.ofField⟩))
        subst hsame
        rw [hvalue.mpr hanswers.allowed] at hchecked
        cases hchecked

/-- Lists of the same length without repetitions name the same fields once one of
them names all fields of the other. -/
theorem perm_fields (self : FormResponse) (request : FormRequest)
    (hlength : self.answers.length = request.fields.length)
    (hall : ∀ field ∈ request.fields, ∃ answer ∈ self.answers, answer.fieldId = field.id) :
    (self.answers.map FormAnswer.fieldId).Perm (request.fields.map FormField.id) := by
  have hsubset : request.fields.map FormField.id ⊆ self.answers.map FormAnswer.fieldId := by
    intro id hid
    obtain ⟨field, hfield, rfl⟩ := List.mem_map.mp hid
    obtain ⟨answer, hanswer, hsame⟩ := hall field hfield
    exact List.mem_map.mpr ⟨answer, hanswer, hsame⟩
  have hsubperm : (request.fields.map FormField.id).Subperm (self.answers.map FormAnswer.fieldId) :=
    List.Nodup.subperm request.unique hsubset
  apply (hsubperm.perm_of_length_le _).symm
  rw [List.length_map, List.length_map, hlength]

/-- The order of the answers makes no difference to any field. -/
theorem validateFields_perm {self other : FormResponse} (h : self.answers.Perm other.answers)
    (fields : List FormField) : self.validateFields fields = other.validateFields fields := by
  have hfind : ∀ fieldId : FormFieldId,
      (self.answers.find? fun answer => answer.fieldId == fieldId) =
        other.answers.find? fun answer => answer.fieldId == fieldId := by
    intro fieldId
    apply Option.ext
    intro answer
    rw [self.find_answer, other.find_answer, h.mem_iff]
  induction fields with
  | nil => rfl
  | cons field rest ih =>
    unfold validateFields
    rw [hfind, ih]

end FormResponse

namespace FormRequest

/-- Every field is answered exactly once, each with an answer of its own. -/
structure Answered (form : FormRequest) (response : FormResponse) : Prop where
  fields : (response.answers.map FormAnswer.fieldId).Perm (form.fields.map FormField.id)
  values : ∀ answer ∈ response.answers, ∃ field ∈ form.fields, field.AnsweredBy answer

theorem answered_iff (self : FormRequest) (response : FormResponse) :
    self.Answered response ↔
      response.answers.length = self.fields.length ∧
        ∀ field ∈ self.fields, ∃ answer ∈ response.answers, field.AnsweredBy answer := by
  constructor
  · intro h
    refine ⟨by simpa using h.fields.length_eq, ?_⟩
    intro field hfield
    have hnamed : field.id ∈ response.answers.map FormAnswer.fieldId :=
      h.fields.mem_iff.mpr (List.mem_map_of_mem hfield)
    obtain ⟨answer, hanswer, hid⟩ := List.mem_map.mp hnamed
    obtain ⟨other, hother, hanswers⟩ := h.values answer hanswer
    -- two fields of one identifier are the same field
    have hsame : other = field :=
      List.inj_on_of_nodup_map self.unique hother hfield (hanswers.ofField.symm.trans hid)
    exact ⟨answer, hanswer, hsame ▸ hanswers⟩
  · rintro ⟨hlength, hall⟩
    have hfields := response.perm_fields self hlength fun field hfield => by
      obtain ⟨answer, hanswer, hanswers⟩ := hall field hfield
      exact ⟨answer, hanswer, hanswers.ofField⟩
    refine ⟨hfields, ?_⟩
    intro answer hanswer
    have hnamed : answer.fieldId ∈ self.fields.map FormField.id :=
      hfields.mem_iff.mp (List.mem_map_of_mem hanswer)
    obtain ⟨field, hfield, hid⟩ := List.mem_map.mp hnamed
    obtain ⟨other, hother, hanswers⟩ := hall field hfield
    have hsame : other = answer :=
      List.inj_on_of_nodup_map response.unique hother hanswer (hanswers.ofField.trans hid)
    exact ⟨field, hfield, hsame ▸ hanswers⟩

end FormRequest

theorem InteractionRequestPayload.validateResponse_form (request : FormRequest)
    (response : FormResponse) :
    (InteractionRequestPayload.form request).validateResponse (.form response) = .ok () ↔
      request.Answered response := by
  rw [request.answered_iff, ← response.validateFields_ok]
  show (if response.answers.length != request.fields.length then _
    else response.validateFields request.fields) = .ok () ↔ _
  by_cases h : response.answers.length = request.fields.length
  · simp [h]
  · simp [h]

/-- A timely answer to a form is accepted exactly when it answers every field once with an answer
of that field, in whatever order. -/
theorem InteractionRequest.validateResponse_form_iff (request : InteractionRequest)
    (form : FormRequest) (hform : request.payload = .form form) (response : InteractionResponse)
    (answers : FormResponse) (hanswers : response.payload = .form answers)
    (hid : response.requestId = request.id) (hsession : response.sessionId = request.sessionId)
    (hearly : ¬ response.respondedAt < request.requestedAt)
    (hlate : ∀ expiresAt ∈ request.expiresAt, ¬ expiresAt < response.respondedAt) :
    (request.validateResponse response = .ok () ↔ form.Answered answers) ∧
    ∀ permuted : FormResponse, permuted.answers.Perm answers.answers →
      request.validateResponse { response with payload := .form permuted } =
        request.validateResponse response := by
  constructor
  · rw [InteractionRequest.validateResponse_ok, hform, hanswers,
      InteractionRequestPayload.validateResponse_form]
    exact ⟨fun h => h.2.2.2.2, fun h => ⟨hid, hsession, hearly, hlate, h⟩⟩
  · intro permuted hpermuted
    have hpayload : (InteractionRequestPayload.form form).validateResponse (.form permuted) =
        (InteractionRequestPayload.form form).validateResponse (.form answers) := by
      unfold InteractionRequestPayload.validateResponse
      dsimp only
      rw [hpermuted.length_eq, FormResponse.validateFields_perm hpermuted]
    unfold InteractionRequest.validateResponse
    rw [hform, hanswers]
    dsimp only
    rw [hpayload]

namespace Sample

/-- A form with a choice and a text. -/
def form : FormRequest where
  fields := [
    ⟨Ident.numbered .formField 0, text, text, [⟨Ident.numbered .choiceOption 0, text, none⟩],
      false, false, by simp, by simp⟩,
    ⟨Ident.numbered .formField 1, text, text, [], true, false, by simp, by simp⟩]
  blocking := true
  nonempty := by simp
  unique := by decide

def formRequest : InteractionRequest :=
  .new (Ident.numbered .interaction 0) (Ident.numbered .session 0) instant text (.form form)

def formAnswers : FormResponse where
  answers := [
    ⟨Ident.numbered .formField 1, .text text⟩,
    ⟨Ident.numbered .formField 0, .choice (Ident.numbered .choiceOption 0)⟩]
  nonempty := by simp
  unique := by decide

def formResponse : InteractionResponse :=
  ⟨Ident.numbered .interaction 0, Ident.numbered .session 0, Ident.numbered .channel 0, instant,
    .form formAnswers⟩

end Sample

open Sample in
theorem InteractionRequest.validateResponse_form_swapped :
    formRequest.validateResponse formResponse = .ok () ↔ form.Answered formAnswers :=
  (validateResponse_form_iff formRequest form rfl formResponse formAnswers rfl rfl rfl
    (by decide) (by simp [formRequest, InteractionRequest.new])).1

end AgentPulse
