import AgentPulse.CodexOffer

/-!
# Forms of schema-valid requests

A request for user input becomes a form of one field for each question. The texts
that the schema admits are not all texts that can be shown: a blank one is refused, and
so is a request without questions.
-/
namespace AgentPulse

namespace Codex

open Std (ExtTreeMap)
open Program (Triple)
open Serde (Json)

namespace Shape

def boolean : Shape := fun value => value.asBool.isSome

def toolRequestUserInputOption : Shape :=
  object [required "description" string, required "label" string]

def toolRequestUserInputQuestion : Shape :=
  object [required "header" string, required "id" string, required "question" string,
    optional "isOther" boolean, optional "isSecret" boolean,
    optional "options" (nullable (arrayOf toolRequestUserInputOption))]

def toolRequestUserInputParams : Shape :=
  object [required "isBlocking" boolean, required "itemId" string,
    required "questions" (arrayOf toolRequestUserInputQuestion), required "threadId" string,
    required "turnId" string]

end Shape

def questionsOf (params : Value) : List Value :=
  ((params.get "questions").bind Json.asArray).getD []

def optionsOf (question : Value) : List Value :=
  ((question.get "options").bind Json.asArray).getD []

/-- The property, where it is a text, is not blank. -/
def Nonblank (value : Value) (field : String) : Prop :=
  ∀ text, stringField value field = .ok text → isBlank text = false

structure ReadableOption (value : Value) : Prop where
  label : Nonblank value "label"
  description : Nonblank value "description"

structure ReadableQuestion (question : Value) : Prop where
  header : Nonblank question "header"
  prompt : Nonblank question "question"
  options : ∀ value ∈ optionsOf question, ReadableOption value

/-- There is a question, and nothing that is shown is blank. -/
structure ReadableForm (params : Value) : Prop where
  some : questionsOf params ≠ []
  questions : ∀ question ∈ questionsOf params, ReadableQuestion question

theorem questionsOf_shape {params : Value} (h : Shape.toolRequestUserInputParams params = true) :
    (params.get "questions").bind Json.asArray = some (questionsOf params) ∧
      ∀ question ∈ questionsOf params, Shape.toolRequestUserInputQuestion question = true := by
  have hproperty : Shape.required "questions" (Shape.arrayOf Shape.toolRequestUserInputQuestion)
      params = true := Shape.property_of_object h (by simp)
  unfold Shape.required Shape.arrayOf at hproperty
  unfold questionsOf
  cases hget : params.get "questions" with
  | none => simp [hget] at hproperty
  | some value =>
    rw [hget, Option.any_some] at hproperty
    cases hitems : value.asArray with
    | none => simp [hitems] at hproperty
    | some items =>
      rw [hitems, Option.any_some, List.all_eq_true] at hproperty
      exact ⟨by simp [hitems], by simpa [hitems] using hproperty⟩

theorem optionsOf_shape {question : Value}
    (h : Shape.toolRequestUserInputQuestion question = true) :
    ∀ value ∈ optionsOf question, Shape.toolRequestUserInputOption value = true := by
  have hproperty : Shape.optional "options"
      (Shape.nullable (Shape.arrayOf Shape.toolRequestUserInputOption)) question = true :=
    Shape.property_of_object h (by simp)
  unfold Shape.optional at hproperty
  unfold optionsOf
  intro value hvalue
  cases hget : question.get "options" with
  | none => simp [hget] at hvalue
  | some entry =>
    cases entry with
    | array items =>
      have hall : items.all Shape.toolRequestUserInputOption = true := by
        rw [hget] at hproperty
        exact hproperty
      have hmem : value ∈ items := by simpa [hget, Json.asArray] using hvalue
      exact List.all_eq_true.mp hall value hmem
    | _ => simp [hget, Json.asArray] at hvalue

theorem shown_of_nonblank {value : Value} {field : String}
    (hshape : Shape.required field Shape.string value = true) (h : Nonblank value field) :
    ∃ shown : NonEmptyText, stringField value field = .ok shown.asStr ∧
      domain (NonEmptyText.new shown.asStr) = .ok shown := by
  obtain ⟨text, htext, -⟩ := Shape.string_of_required hshape
  exact ⟨⟨text, h text htext⟩, htext, domain_text (h text htext)⟩

theorem nonblank_of_shown {value : Value} {field : String} {shown : NonEmptyText}
    (h : stringField value field = .ok shown.asStr) : Nonblank value field := by
  intro text htext
  obtain rfl := Except.ok.inj (h.symm.trans htext)
  exact shown.nonBlank

/-- An option of a question as it is shown. -/
structure OptionOf (value : Value) (option : ChoiceOption) : Prop where
  label : stringField value "label" = .ok option.label.asStr
  description : ∃ shown, option.description = some shown ∧
    stringField value "description" = .ok shown.asStr

/-- The field of a question. -/
structure FieldOf (question : Value) (field : FormField) : Prop where
  header : stringField question "header" = .ok field.header.asStr
  prompt : stringField question "question" = .ok field.prompt.asStr
  options : List.Forall₂ OptionOf (optionsOf question) field.options
  allowsOther : field.allowsOther =
    (((question.get "isOther").bind Json.asBool).getD false || field.options.isEmpty)
  sensitive : field.sensitive = ((question.get "isSecret").bind Json.asBool).getD false

/-- The labels of the options under their identifiers. -/
def labelsOf (options : List ChoiceOption) : List (ChoiceOptionId × String) :=
  options.map fun option => (option.id, option.label.asStr)

theorem OptionOf.readable {value : Value} {option : ChoiceOption} (h : OptionOf value option) :
    ReadableOption value := by
  obtain ⟨shown, -, hdescription⟩ := h.description
  exact ⟨nonblank_of_shown h.label, nonblank_of_shown hdescription⟩

theorem FieldOf.readable {question : Value} {field : FormField} (h : FieldOf question field) :
    ReadableQuestion question where
  header := nonblank_of_shown h.header
  prompt := nonblank_of_shown h.prompt
  options value hvalue := by
    obtain ⟨option, -, hoption⟩ := Fallible.exists_of_forall₂ h.options hvalue
    exact hoption.readable

namespace Hosting

variable {B : Type} {host : ProviderHost B} {b b' : B}

theorem read_bind {α β : Type} {x : Sourced α} {f : α → Hosting B β} {result : β}
    (h : (Program.ofExcept x >>= f) b = (.ok result, b')) :
    ∃ a, x = .ok a ∧ f a b = (.ok result, b') := by
  obtain ⟨a, c, hread, hrest⟩ := Program.bind_eq_ok h
  obtain ⟨hx, hc⟩ := Program.ofExcept_eq_ok hread
  rw [hc] at hrest
  exact ⟨a, hx, hrest⟩

theorem newId_bind {β : Type} {k : IdKind} {f : Ident k → Hosting B β} {result : β}
    (h : (newId host k >>= f) b = (.ok result, b')) :
    f (host.newId k b).1 (host.newId k b).2 = (.ok result, b') := h

theorem questionOptions_of_ok {values : List Value} {options : List ChoiceOption}
    {labels : List (ChoiceOptionId × String)}
    (h : questionOptions host values b = (.ok (options, labels), b')) :
    List.Forall₂ OptionOf values options ∧ labels = labelsOf options ∧
      options.map ChoiceOption.id = host.drawn .choiceOption values.length b ∧
      b' = host.afterDraws .choiceOption values.length b := by
  induction values generalizing options labels b with
  | nil =>
    obtain ⟨hresult, rfl⟩ := Prod.mk.inj h
    obtain ⟨rfl, rfl⟩ := Prod.mk.inj (Except.ok.inj hresult)
    exact ⟨.nil, rfl, rfl, rfl⟩
  | cons value rest ih =>
    obtain ⟨label, hlabel, h⟩ := read_bind h
    obtain ⟨labelText, hlabelText, h⟩ := read_bind (newId_bind h)
    obtain ⟨description, hdescription, h⟩ := read_bind h
    obtain ⟨descriptionText, hdescriptionText, h⟩ := read_bind h
    obtain ⟨⟨others, otherLabels⟩, c, hrest, h⟩ := Program.bind_eq_ok h
    obtain ⟨hresult, rfl⟩ := Prod.mk.inj h
    obtain ⟨rfl, rfl⟩ := Prod.mk.inj (Except.ok.inj hresult)
    obtain ⟨hothers, rfl, hids, hafter⟩ := ih hrest
    obtain rfl := asStr_of_domain hlabelText
    obtain rfl := asStr_of_domain hdescriptionText
    refine ⟨.cons ⟨hlabel, _, rfl, hdescription⟩ hothers, rfl, ?_, hafter⟩
    rw [List.map_cons, hids]
    rfl

/-- What a question draws: the identifiers of its field and of its options. -/
abbrev Draw := FormFieldId × List ChoiceOptionId

def questionDraw (host : ProviderHost B) (question : Value) (b : B) : Draw × B :=
  let c := (host.newId .formField b).2
  let count := (optionsOf question).length
  (((host.newId .formField b).1, host.drawn .choiceOption count c),
    host.afterDraws .choiceOption count c)

def questionDraws (host : ProviderHost B) : List Value → B → List Draw
  | [], _ => []
  | question :: rest, b =>
    (questionDraw host question b).1 :: questionDraws host rest (questionDraw host question b).2

/-- The identifiers of a field and of its options. -/
def drawOf (field : FormField) : Draw := (field.id, field.options.map ChoiceOption.id)

theorem questionField_of_ok {question : Value} {field : FormField} {externalId : String}
    {labels : List (ChoiceOptionId × String)}
    (h : questionField host question b = (.ok (field, externalId, labels), b')) :
    FieldOf question field ∧ stringField question "id" = .ok externalId ∧
      labels = labelsOf field.options ∧ questionDraw host question b = (drawOf field, b') := by
  obtain ⟨found, hfound, h⟩ := read_bind h
  obtain ⟨⟨options, optionLabels⟩, c, hoptions, h⟩ := Program.bind_eq_ok (newId_bind h)
  obtain ⟨header, hheader, h⟩ := read_bind h
  obtain ⟨headerText, hheaderText, h⟩ := read_bind h
  obtain ⟨prompt, hprompt, h⟩ := read_bind h
  obtain ⟨promptText, hpromptText, h⟩ := read_bind h
  obtain ⟨made, hmade, h⟩ := read_bind h
  obtain ⟨hresult, rfl⟩ := Prod.mk.inj h
  obtain ⟨rfl, htail⟩ := Prod.mk.inj (Except.ok.inj hresult)
  obtain ⟨rfl, rfl⟩ := Prod.mk.inj htail
  obtain ⟨hshown, rfl, hids, hafter⟩ := questionOptions_of_ok hoptions
  obtain rfl := asStr_of_domain hheaderText
  obtain rfl := asStr_of_domain hpromptText
  have hnew := Fallible.mapError_eq_ok.mp hmade
  unfold FormField.new at hnew
  split at hnew
  · cases hnew
  · split at hnew
    · cases hnew
    · obtain rfl := Except.ok.inj hnew
      refine ⟨⟨hheader, hprompt, hshown, rfl, rfl⟩, hfound, rfl, ?_⟩
      show (((host.newId .formField b).1, host.drawn .choiceOption (optionsOf question).length _),
        host.afterDraws .choiceOption (optionsOf question).length _) =
          (((host.newId .formField b).1, options.map ChoiceOption.id), _)
      rw [hids, hafter]
      rfl

/-- The tables after the fields have been added to them in their order. -/
def FormTables.addAll (self : FormTables) (asked : List (FormField × String)) : FormTables :=
  asked.foldl (fun tables entry => tables.add entry.1 entry.2 (labelsOf entry.1.options)) self

/-- The field of a question with its external name. -/
def Asks (question : Value) (entry : FormField × String) : Prop :=
  FieldOf question entry.1 ∧ stringField question "id" = .ok entry.2

theorem questionTables_of_ok {tables next : FormTables} {questions : List Value}
    (h : questionTables host tables questions b = (.ok next, b')) :
    ∃ asked, List.Forall₂ Asks questions asked ∧ next = tables.addAll asked ∧
      asked.map (fun entry => drawOf entry.1) = questionDraws host questions b := by
  induction questions generalizing tables b with
  | nil =>
    obtain rfl := Except.ok.inj (Prod.mk.inj h).1
    exact ⟨[], .nil, rfl, rfl⟩
  | cons question rest ih =>
    obtain ⟨⟨field, externalId, labels⟩, c, hfield, h⟩ := Program.bind_eq_ok h
    obtain ⟨hof, hname, rfl, hdraw⟩ := questionField_of_ok hfield
    obtain ⟨asked, hasked, rfl, hdraws⟩ := ih h
    refine ⟨(field, externalId) :: asked, .cons ⟨hof, hname⟩ hasked, rfl, ?_⟩
    rw [List.map_cons, hdraws, questionDraws, hdraw]

/-- What a prepared form is made of. -/
structure FormOf (params : Value) (sessionId : SessionId) (asked : List (FormField × String))
    (draws : List Draw) (prepared : PreparedApproval) : Prop where
  asks : List.Forall₂ Asks (questionsOf params) asked
  draws : asked.map (fun entry => drawOf entry.1) = draws
  payload : ∃ form, prepared.request.payload = .form form ∧ form.fields = asked.map Prod.fst
  session : prepared.request.sessionId = sessionId
  mapping : prepared.responseMapping =
    .form (FormTables.empty.addAll asked).questionIds (FormTables.empty.addAll asked).optionValues
      (FormTables.empty.addAll asked).allowsText
  threadId : stringField params "threadId" = .ok prepared.threadId

theorem fields_addAll (tables : FormTables) (asked : List (FormField × String)) :
    (tables.addAll asked).fields = tables.fields ++ asked.map Prod.fst := by
  induction asked generalizing tables with
  | nil => simp [FormTables.addAll]
  | cons entry rest ih =>
    show ((tables.add entry.1 entry.2 (labelsOf entry.1.options)).addAll rest).fields = _
    rw [ih]
    simp [FormTables.add]

theorem prepareUserInput_of_ok {params : Value} {sessionId : SessionId} {prepared : PreparedApproval}
    (h : prepareUserInput host params sessionId b = (.ok prepared, b')) :
    ∃ asked, FormOf params sessionId asked (questionDraws host (questionsOf params) b) prepared := by
  obtain ⟨threadId, hthread, h⟩ := read_bind h
  obtain ⟨turnId, -, h⟩ := read_bind h
  obtain ⟨itemId, -, h⟩ := read_bind h
  cases hblocking : (params.get "isBlocking").bind Json.asBool with
  | none =>
    simp only [hblocking] at h
    cases h
  | some blocking =>
    cases hquestions : (params.get "questions").bind Json.asArray with
    | none =>
      simp only [hblocking, hquestions] at h
      cases h
    | some questions =>
      simp only [hblocking, hquestions] at h
      obtain ⟨tables, c, htables, h⟩ := Program.bind_eq_ok h
      obtain ⟨now, d, -, h⟩ := Program.bind_eq_ok (newId_bind h)
      obtain ⟨promptText, -, h⟩ := read_bind h
      obtain ⟨form, hform, h⟩ := read_bind h
      obtain rfl := Except.ok.inj (Prod.mk.inj h).1
      have hasks : questionsOf params = questions := by
        rw [questionsOf, hquestions, Option.getD_some]
      obtain ⟨asked, hasked, rfl, hdraws⟩ := questionTables_of_ok htables
      rw [← hasks] at hasked hdraws
      have hfields : form.fields = asked.map Prod.fst := by
        have hnew := Fallible.mapError_eq_ok.mp hform
        unfold FormRequest.new at hnew
        split at hnew
        · cases hnew
        · split at hnew
          · cases hnew
          · obtain rfl := Except.ok.inj hnew
            exact fields_addAll .empty asked
      exact ⟨asked, ⟨hasked, hdraws, ⟨form, rfl, hfields⟩, rfl, rfl, hthread⟩⟩

theorem FormOf.readable {params : Value} {sessionId : SessionId} {asked : List (FormField × String)}
    {draws : List Draw} {prepared : PreparedApproval}
    (h : FormOf params sessionId asked draws prepared) : ReadableForm params := by
  obtain ⟨form, -, hfields⟩ := h.payload
  constructor
  · intro hnone
    have hasked := h.asks
    rw [hnone, List.forall₂_nil_left_iff] at hasked
    exact form.nonempty (by rw [hfields, hasked]; rfl)
  · intro question hquestion
    obtain ⟨entry, -, hentry⟩ := Fallible.exists_of_forall₂ h.asks hquestion
    exact hentry.1.readable

/-- The identifiers of the fields are distinct, and those of the options of each field. -/
structure FreshDraws (draws : List Draw) : Prop where
  fields : (draws.map Prod.fst).Nodup
  options : ∀ draw ∈ draws, draw.2.Nodup

theorem read_bind_of_ok {α β : Type} {x : Sourced α} {f : α → Hosting B β} {a : α} (h : x = .ok a) :
    (Program.ofExcept x >>= f) b = f a b := by
  rw [h]
  rfl

theorem newId_bind_apply {β : Type} {k : IdKind} {f : Ident k → Hosting B β} :
    (newId host k >>= f) b = f (host.newId k b).1 (host.newId k b).2 := rfl

variable (host) in
theorem questionOptions_ok {values : List Value}
    (hshape : ∀ value ∈ values, Shape.toolRequestUserInputOption value = true)
    (hreadable : ∀ value ∈ values, ReadableOption value) (b : B) :
    ∃ options labels b', questionOptions host values b = (.ok (options, labels), b') := by
  induction values generalizing b with
  | nil => exact ⟨[], [], b, rfl⟩
  | cons value rest ih =>
    have hvalue := hshape value List.mem_cons_self
    have hread := hreadable value List.mem_cons_self
    obtain ⟨label, hlabel, hlabelText⟩ :=
      shown_of_nonblank (Shape.property_of_object hvalue (by simp)) hread.label
    obtain ⟨description, hdescription, hdescriptionText⟩ :=
      shown_of_nonblank (Shape.property_of_object hvalue (by simp)) hread.description
    obtain ⟨options, labels, b', hrest⟩ := ih
      (fun v hv => hshape v (List.mem_cons_of_mem _ hv))
      (fun v hv => hreadable v (List.mem_cons_of_mem _ hv)) (host.newId .choiceOption b).2
    refine ⟨⟨(host.newId .choiceOption b).1, label, some description⟩ :: options,
      ((host.newId .choiceOption b).1, label.asStr) :: labels, b', ?_⟩
    rw [questionOptions, read_bind_of_ok hlabel, newId_bind_apply, read_bind_of_ok hlabelText,
      read_bind_of_ok hdescription, read_bind_of_ok hdescriptionText, Program.bind_of_ok hrest]
    rfl

theorem formField_ok (id : FormFieldId) (header prompt : NonEmptyText) {options : List ChoiceOption}
    (hunique : (options.map ChoiceOption.id).Nodup) (other sensitive : Bool) :
    ∃ field, domain (FormField.new id header prompt options (other || options.isEmpty) sensitive) =
      .ok field := by
  have hscan : firstDuplicate [] (options.map ChoiceOption.id) = none :=
    (firstDuplicate_eq_none_iff _ []).mpr ⟨hunique, by simp⟩
  unfold FormField.new
  split
  · next found hfound =>
    rw [hscan] at hfound
    cases hfound
  · rw [dif_neg]
    · exact ⟨_, rfl⟩
    · rintro ⟨rfl, hother⟩
      rw [List.isEmpty_nil, Bool.or_true] at hother
      cases hother

theorem questionField_ok {question : Value}
    (hshape : Shape.toolRequestUserInputQuestion question = true)
    (hreadable : ReadableQuestion question) (hunique : (questionDraw host question b).1.2.Nodup) :
    ∃ field externalId labels b', questionField host question b =
      (.ok (field, externalId, labels), b') := by
  obtain ⟨externalId, hname, -⟩ : ∃ text, stringField question "id" = .ok text ∧ _ :=
    Shape.string_of_required (Shape.property_of_object hshape (by simp))
  obtain ⟨header, hheader, hheaderText⟩ :=
    shown_of_nonblank (Shape.property_of_object hshape (by simp)) hreadable.header
  obtain ⟨prompt, hprompt, hpromptText⟩ :=
    shown_of_nonblank (Shape.property_of_object hshape (by simp)) hreadable.prompt
  obtain ⟨options, labels, c, hoptions⟩ := questionOptions_ok host (optionsOf_shape hshape)
    hreadable.options (host.newId .formField b).2
  obtain ⟨-, -, hids, -⟩ := questionOptions_of_ok hoptions
  have hdistinct : (options.map ChoiceOption.id).Nodup := by
    rw [hids]
    exact hunique
  obtain ⟨field, hfield⟩ := formField_ok (host.newId .formField b).1 header prompt hdistinct
    (((question.get "isOther").bind Json.asBool).getD false)
    (((question.get "isSecret").bind Json.asBool).getD false)
  refine ⟨field, externalId, labels, c, ?_⟩
  rw [questionField, read_bind_of_ok hname, newId_bind_apply, ← optionsOf,
    Program.bind_of_ok hoptions]
  dsimp only
  rw [read_bind_of_ok hheader, read_bind_of_ok hheaderText, read_bind_of_ok hprompt,
    read_bind_of_ok hpromptText, read_bind_of_ok hfield]
  rfl

theorem questionTables_ok (tables : FormTables) {questions : List Value}
    (hshape : ∀ question ∈ questions, Shape.toolRequestUserInputQuestion question = true)
    (hreadable : ∀ question ∈ questions, ReadableQuestion question)
    (hunique : ∀ draw ∈ questionDraws host questions b, draw.2.Nodup) :
    ∃ next b', questionTables host tables questions b = (.ok next, b') := by
  induction questions generalizing tables b with
  | nil => exact ⟨tables, b, rfl⟩
  | cons question rest ih =>
    obtain ⟨field, externalId, labels, c, hfield⟩ :=
      questionField_ok (hshape question List.mem_cons_self)
        (hreadable question List.mem_cons_self) (hunique _ List.mem_cons_self)
    obtain ⟨-, -, -, hdraw⟩ := questionField_of_ok hfield
    have hrest : ∀ draw ∈ questionDraws host rest c, draw.2.Nodup := by
      intro draw hdrawn
      refine hunique draw (List.mem_cons_of_mem _ ?_)
      rw [hdraw]
      exact hdrawn
    obtain ⟨next, b', hnext⟩ := ih (tables.add field externalId labels) (fun q hq => hshape q (List.mem_cons_of_mem _ hq))
      (fun q hq => hreadable q (List.mem_cons_of_mem _ hq)) hrest
    refine ⟨next, b', ?_⟩
    rw [questionTables, Program.bind_of_ok hfield]
    exact hnext

theorem formRequest_ok {fields : List FormField} (hsome : fields ≠ [])
    (hunique : (fields.map FormField.id).Nodup) (blocking : Bool) :
    ∃ form, domain (FormRequest.new fields blocking) = .ok form := by
  have hscan : firstDuplicate [] (fields.map FormField.id) = none :=
    (firstDuplicate_eq_none_iff _ []).mpr ⟨hunique, by simp⟩
  unfold FormRequest.new
  rw [dif_neg hsome]
  split
  · next found hfound =>
    rw [hscan] at hfound
    cases hfound
  · exact ⟨_, rfl⟩

theorem prepareUserInput_ok {params : Value} (sessionId : SessionId)
    (hshape : Shape.toolRequestUserInputParams params = true) (hreadable : ReadableForm params)
    (hfresh : FreshDraws (questionDraws host (questionsOf params) b)) :
    ∃ prepared b', prepareUserInput host params sessionId b = (.ok prepared, b') := by
  have hstring : ∀ field ∈ ["threadId", "turnId", "itemId"],
      ∃ text, stringField params field = .ok text := by
    intro field hfield
    have hrequired : Shape.required field Shape.string params = true := by
      apply Shape.property_of_object hshape
      simp only [List.mem_cons, List.not_mem_nil, or_false] at hfield
      rcases hfield with rfl | rfl | rfl <;> simp
    obtain ⟨text, htext, -⟩ := Shape.string_of_required hrequired
    exact ⟨text, htext⟩
  obtain ⟨threadId, hthread⟩ := hstring "threadId" (by simp)
  obtain ⟨turnId, hturn⟩ := hstring "turnId" (by simp)
  obtain ⟨itemId, hitem⟩ := hstring "itemId" (by simp)
  obtain ⟨blocking, hblocking⟩ : ∃ flag, (params.get "isBlocking").bind Json.asBool = some flag := by
    have hrequired : Shape.required "isBlocking" Shape.boolean params = true :=
      Shape.property_of_object hshape (by simp)
    unfold Shape.required Shape.boolean at hrequired
    cases hget : params.get "isBlocking" with
    | none => simp [hget] at hrequired
    | some value => exact Option.isSome_iff_exists.mp (by simpa [hget] using hrequired)
  obtain ⟨hquestions, hshapes⟩ := questionsOf_shape hshape
  obtain ⟨tables, c, htables⟩ := questionTables_ok .empty hshapes hreadable.questions
    hfresh.options
  obtain ⟨asked, hasked, rfl, hdraws⟩ := questionTables_of_ok htables
  have hfields : (FormTables.empty.addAll asked).fields = asked.map Prod.fst := fields_addAll .empty asked
  have hsome : (FormTables.empty.addAll asked).fields ≠ [] := by
    rw [hfields]
    intro hnone
    rw [List.map_eq_nil_iff] at hnone
    rw [hnone, List.forall₂_nil_right_iff] at hasked
    exact hreadable.some hasked
  have hunique : ((FormTables.empty.addAll asked).fields.map FormField.id).Nodup := by
    have hids : (asked.map Prod.fst).map FormField.id =
        (questionDraws host (questionsOf params) b).map Prod.fst := by
      rw [← hdraws, List.map_map, List.map_map]
      rfl
    rw [hfields, hids]
    exact hfresh.fields
  obtain ⟨form, hform⟩ := formRequest_ok hsome hunique blocking
  obtain ⟨prompt, hprompt⟩ : ∃ text, domain (NonEmptyText.new "Codex needs your input") = .ok text :=
    ⟨_, domain_text (by decide)⟩
  unfold prepareUserInput
  rw [read_bind_of_ok hthread, read_bind_of_ok hturn, read_bind_of_ok hitem, hblocking]
  dsimp only
  rw [hquestions]
  dsimp only
  rw [Program.bind_of_ok htables, newId_bind_apply]
  have hnow : nowUtc host (host.newId .interaction c).2 =
      (.ok (host.nowUtc (host.newId .interaction c).2).1, (host.nowUtc (host.newId .interaction c).2).2) :=
    rfl
  rw [Program.bind_of_ok hnow, read_bind_of_ok hprompt, read_bind_of_ok hform]
  exact ⟨_, _, rfl⟩

/-- Every failure of the program is a protocol error. -/
def Complains {α : Type} (x : Hosting B α) : Prop :=
  Triple (fun _ => True) x (fun _ _ => True) fun e _ => ∃ message, e = .protocol message

namespace Complains

variable {α β : Type}

theorem bind {x : Hosting B α} {f : α → Hosting B β} (hx : Complains x) (hf : ∀ a, Complains (f a)) :
    Complains (x >>= f) := Triple.bind hx hf

theorem pure (a : α) : Complains (Pure.pure a : Hosting B α) := Triple.pure fun _ _ => trivial

theorem update (f : B → α × B) : Complains (Program.update f : Hosting B α) :=
  Triple.update fun _ _ => trivial

theorem fail (message : String) : Complains (Program.fail (.protocol message) : Hosting B α) :=
  Triple.fail fun _ _ => ⟨message, rfl⟩

theorem string (value : Value) (field : String) :
    Complains (Program.ofExcept (stringField value field) : Hosting B String) := by
  refine Triple.ofExcept (fun _ _ _ _ => trivial) fun e _ herror _ => ?_
  unfold stringField at herror
  split at herror
  · cases herror
  · exact ⟨_, (Except.error.inj herror).symm⟩

theorem domain (x : Except DomainError α) :
    Complains (Program.ofExcept (Codex.domain x) : Hosting B α) := by
  refine Triple.ofExcept (fun _ _ _ _ => trivial) fun e _ herror _ => ?_
  cases x with
  | error error => exact ⟨_, (Except.error.inj herror).symm⟩
  | ok a => cases herror

end Complains

theorem complains_questionOptions (values : List Value) : Complains (questionOptions host values) := by
  induction values with
  | nil => exact .pure _
  | cons value rest ih =>
    unfold questionOptions
    refine .bind (.string _ _) fun label => ?_
    refine .bind (.update _) fun optionId => ?_
    refine .bind (.domain _) fun labelText => ?_
    refine .bind (.string _ _) fun description => ?_
    refine .bind (.domain _) fun descriptionText => ?_
    exact .bind ih fun _ => .pure _

theorem complains_questionField (question : Value) : Complains (questionField host question) := by
  unfold questionField
  refine .bind (.string _ _) fun externalId => ?_
  refine .bind (.update _) fun fieldId => ?_
  refine .bind (complains_questionOptions _) fun result => ?_
  refine .bind (.string _ _) fun header => ?_
  refine .bind (.domain _) fun headerText => ?_
  refine .bind (.string _ _) fun prompt => ?_
  refine .bind (.domain _) fun promptText => ?_
  exact .bind (.domain _) fun field => .pure _

theorem complains_questionTables (tables : FormTables) (questions : List Value) :
    Complains (questionTables host tables questions) := by
  induction questions generalizing tables with
  | nil => exact .pure _
  | cons question rest ih =>
    unfold questionTables
    exact .bind (complains_questionField question) fun _ => ih _

theorem complains_prepareUserInput (params : Value) (sessionId : SessionId) :
    Complains (prepareUserInput host params sessionId) := by
  unfold prepareUserInput
  refine .bind (.string _ _) fun threadId => ?_
  refine .bind (.string _ _) fun turnId => ?_
  refine .bind (.string _ _) fun itemId => ?_
  split
  · exact .fail _
  · split
    · exact .fail _
    · refine .bind (complains_questionTables _ _) fun tables => ?_
      refine .bind (.update _) fun id => ?_
      refine .bind (.update _) fun now => ?_
      refine .bind (.domain _) fun promptText => ?_
      exact .bind (.domain _) fun form => .pure _

/-- A schema-valid request becomes a form exactly if it is readable; otherwise its reading ends in
a protocol error. -/
theorem prepareUserInput_cases {params : Value} (sessionId : SessionId)
    (hshape : Shape.toolRequestUserInputParams params = true)
    (hfresh : FreshDraws (questionDraws host (questionsOf params) b)) :
    (ReadableForm params ∧
      ∃ prepared b', prepareUserInput host params sessionId b = (.ok prepared, b')) ∨
    (¬ReadableForm params ∧
      ∃ message b', prepareUserInput host params sessionId b = (.error (.protocol message), b')) := by
  by_cases hreadable : ReadableForm params
  · exact .inl ⟨hreadable, prepareUserInput_ok sessionId hshape hreadable hfresh⟩
  · right
    refine ⟨hreadable, ?_⟩
    rcases hrun : prepareUserInput host params sessionId b with ⟨result, b'⟩
    cases result with
    | ok prepared =>
      obtain ⟨asked, hform⟩ := prepareUserInput_of_ok hrun
      exact absurd hform.readable hreadable
    | error e =>
      obtain ⟨message, rfl⟩ := (complains_prepareUserInput params sessionId).fails b e b' trivial hrun
      exact ⟨message, b', rfl⟩

end Hosting

end Codex

end AgentPulse
