import AgentPulse.CodexForms
import AgentPulse.CoreForm

/-!
# Answers of a form for the server

An answer reaches the server through three tables that are keyed by generated
identifiers, and is entered under the name that the server chose for its question.
The tables keep the answers of different fields apart; the names need not.
-/
namespace AgentPulse

open Std (ExtTreeMap)

namespace Codex

open Serde (Json)

/-- The text that a value gives to a field: the label of one of its options, or the text. -/
def said (field : FormField) : FormAnswerValue → Option String
  | .choice optionId =>
    (field.options.find? fun option => option.id == optionId).map fun option => option.label.asStr
  | .text text => some text.asStr

/-- The text of the answer to a field. -/
def saidTo (response : FormResponse) (field : FormField) : Option String :=
  (response.answers.find? fun answer => answer.fieldId == field.id).bind fun answer =>
    said field answer.value

theorem saidTo_of_mem {response : FormResponse} {field : FormField} {answer : FormAnswer}
    (hmem : answer ∈ response.answers) (hfield : answer.fieldId = field.id) :
    saidTo response field = said field answer.value := by
  rw [saidTo, response.find_answer.mpr ⟨hmem, hfield⟩, Option.bind_some]

/-- A choice among the options of a field says the label of that option. -/
theorem said_choice {field : FormField} {optionId : ChoiceOptionId}
    (h : optionId ∈ field.options.map ChoiceOption.id) :
    ∃ option ∈ field.options, option.id = optionId ∧
      said field (.choice optionId) = some option.label.asStr := by
  obtain ⟨option, hoption, rfl⟩ := List.mem_map.mp h
  refine ⟨option, hoption, rfl, ?_⟩
  rw [said, find_of_nodup ChoiceOption.id field.unique hoption, Option.map_some]

/-- The entry of a question in the result. -/
def answerEntry (text : String) : Value := .object [("answers", .array [.string text])]

theorem answerEntry_inj {text other : String} (h : answerEntry text = answerEntry other) :
    text = other := by
  simpa [answerEntry] using h

/-- Every question has the answer to its field, and nothing else is answered. -/
structure Carries (asked : List (FormField × String)) (response : FormResponse)
    (entries : List (String × Value)) : Prop where
  each : ∀ entry ∈ asked, ∃ text, saidTo response entry.1 = some text ∧
    (Json.object entries).get entry.2 = some (answerEntry text)
  only : ∀ name ∈ entries.map Prod.fst, ∃ entry ∈ asked, entry.2 = name
  once : (entries.map Prod.fst).Nodup

/-- Questions of one name are given the same answer. -/
def Agreeing (asked : List (FormField × String)) (response : FormResponse) : Prop :=
  ∀ entry ∈ asked, ∀ other ∈ asked, entry.2 = other.2 →
    saidTo response entry.1 = saidTo response other.1

namespace Hosting

theorem questionIds_addAll (tables : FormTables) (asked : List (FormField × String)) :
    (tables.addAll asked).questionIds =
      (asked.map fun entry => (entry.1.id, entry.2)).foldl (fun m entry => m.insert entry.1 entry.2)
        tables.questionIds := by
  induction asked generalizing tables with
  | nil => rfl
  | cons entry rest ih => exact ih (tables.add entry.1 entry.2 (labelsOf entry.1.options))

theorem allowsText_addAll (tables : FormTables) (asked : List (FormField × String)) :
    (tables.addAll asked).allowsText =
      (asked.map fun entry => (entry.1.id, entry.1.allowsOther)).foldl
        (fun m entry => m.insert entry.1 entry.2) tables.allowsText := by
  induction asked generalizing tables with
  | nil => rfl
  | cons entry rest ih => exact ih (tables.add entry.1 entry.2 (labelsOf entry.1.options))

theorem optionValues_addAll (tables : FormTables) (asked : List (FormField × String)) :
    (tables.addAll asked).optionValues =
      (asked.flatMap fun entry => labelsOf entry.1.options).foldl
        (fun m entry => m.insert entry.1 entry.2) tables.optionValues := by
  induction asked generalizing tables with
  | nil => rfl
  | cons entry rest ih =>
    rw [List.flatMap_cons, List.foldl_append]
    exact ih (tables.add entry.1 entry.2 (labelsOf entry.1.options))

/-- Under identifiers of their own, the fields and their options are found in the tables. -/
structure Tabled (asked : List (FormField × String)) (tables : FormTables) : Prop where
  name : ∀ entry ∈ asked, tables.questionIds[entry.1.id]? = some entry.2
  text : ∀ entry ∈ asked, tables.allowsText[entry.1.id]? = some entry.1.allowsOther
  label : ∀ entry ∈ asked, ∀ option ∈ entry.1.options,
    tables.optionValues[option.id]? = some option.label.asStr

theorem tabled_addAll {asked : List (FormField × String)}
    (hfields : (asked.map fun entry => entry.1.id).Nodup)
    (hoptions : (asked.flatMap fun entry => entry.1.options.map ChoiceOption.id).Nodup) :
    Tabled asked (FormTables.empty.addAll asked) where
  name entry hentry := by
    rw [questionIds_addAll]
    apply OrderedMap.getElem?_insertAll
    · rw [List.map_map]
      exact hfields
    · exact .inl (List.mem_map.mpr ⟨entry, hentry, rfl⟩)
  text entry hentry := by
    rw [allowsText_addAll]
    apply OrderedMap.getElem?_insertAll
    · rw [List.map_map]
      exact hfields
    · exact .inl (List.mem_map.mpr ⟨entry, hentry, rfl⟩)
  label entry hentry option hoption := by
    rw [optionValues_addAll]
    apply OrderedMap.getElem?_insertAll
    · have hids : (asked.flatMap fun entry => labelsOf entry.1.options).map Prod.fst =
          asked.flatMap fun entry => entry.1.options.map ChoiceOption.id := by
        rw [List.map_flatMap]
        simp only [labelsOf, List.map_map]
        rfl
      rw [hids]
      exact hoptions
    · exact .inl (List.mem_flatMap.mpr ⟨entry, hentry, List.mem_map.mpr ⟨option, hoption, rfl⟩⟩)

end Hosting

namespace ApprovalRuntimeState

variable {questionIds : ExtTreeMap FormFieldId String} {optionValues : ExtTreeMap ChoiceOptionId String}
  {allowsText : ExtTreeMap FormFieldId Bool}

/-- What one answer writes. -/
def Writes (questionIds : ExtTreeMap FormFieldId String)
    (optionValues : ExtTreeMap ChoiceOptionId String) (allowsText : ExtTreeMap FormFieldId Bool)
    (answer : FormAnswer) (write : String × Value) : Prop :=
  questionIds[answer.fieldId]? = some write.1 ∧
    ∃ text, answerValue optionValues allowsText answer = .ok text ∧ write.2 = answerEntry text

theorem formAnswers_writes {given : List FormAnswer} (sofar : List (String × Value))
    (h : ∀ answer ∈ given, ∃ write, Writes questionIds optionValues allowsText answer write) :
    ∃ writes, List.Forall₂ (Writes questionIds optionValues allowsText) given writes ∧
      formAnswers questionIds optionValues allowsText sofar given =
        .ok (Json.writeAll sofar writes) := by
  induction given generalizing sofar with
  | nil => exact ⟨[], .nil, rfl⟩
  | cons answer rest ih =>
    obtain ⟨⟨name, value⟩, hname, text, htext, rfl⟩ := h answer List.mem_cons_self
    obtain ⟨writes, hwrites, hrest⟩ := ih (Json.insertEntry name (answerEntry text) sofar)
      fun other hother => h other (List.mem_cons_of_mem _ hother)
    refine ⟨(name, answerEntry text) :: writes, .cons ⟨hname, text, htext, rfl⟩ hwrites, ?_⟩
    rw [formAnswers, hname, htext]
    exact hrest

variable {asked : List (FormField × String)} {tables : Hosting.FormTables}

/-- An answer to a field writes what it says to that field under the name of its question. -/
theorem writes_of_answered (h : Hosting.Tabled asked tables) {entry : FormField × String}
    (hentry : entry ∈ asked) {answer : FormAnswer} (hanswer : entry.1.AnsweredBy answer) :
    ∃ text, said entry.1 answer.value = some text ∧
      Writes tables.questionIds tables.optionValues tables.allowsText answer
        (entry.2, answerEntry text) := by
  have hname : tables.questionIds[answer.fieldId]? = some entry.2 := by
    rw [hanswer.ofField]
    exact h.name entry hentry
  have hallowed := hanswer.allowed
  cases hvalue : answer.value with
  | choice optionId =>
    rw [hvalue] at hallowed
    obtain ⟨option, hoption, rfl, hsaid⟩ := said_choice hallowed
    refine ⟨_, hsaid, hname, _, ?_, rfl⟩
    unfold answerValue
    rw [hvalue]
    dsimp only
    rw [h.label entry hentry option hoption]
  | text text =>
    rw [hvalue] at hallowed
    have hother : entry.1.allowsOther = true := hallowed
    refine ⟨text.asStr, rfl, hname, text.asStr, ?_, rfl⟩
    unfold answerValue
    rw [hvalue, hanswer.ofField]
    dsimp only
    rw [h.text entry hentry, Option.getD_some, if_pos hother]

/-- The result of an answered form has the answer to every question if questions of one name are
given the same answer, and only then. -/
theorem formAnswers_carries {form : FormRequest} {response : FormResponse}
    (hfields : form.fields = asked.map Prod.fst) (htabled : Hosting.Tabled asked tables)
    (hanswered : form.Answered response) :
    ∃ entries, formAnswers tables.questionIds tables.optionValues tables.allowsText []
        response.answers = .ok entries ∧ (Carries asked response entries ↔ Agreeing asked response) := by
  -- an answer belongs to a field, and the field to a question
  have hfor : ∀ answer ∈ response.answers, ∃ entry ∈ asked, entry.1.AnsweredBy answer := by
    intro answer hanswer
    obtain ⟨field, hfield, hanswers⟩ := hanswered.values answer hanswer
    rw [hfields] at hfield
    obtain ⟨entry, hentry, rfl⟩ := List.mem_map.mp hfield
    exact ⟨entry, hentry, hanswers⟩
  have hgiven : ∀ entry ∈ asked, ∃ answer ∈ response.answers, entry.1.AnsweredBy answer := by
    intro entry hentry
    have hfield : entry.1 ∈ form.fields := by
      rw [hfields]
      exact List.mem_map_of_mem hentry
    exact ((form.answered_iff response).mp hanswered).2 entry.1 hfield
  obtain ⟨writes, hwrites, hresult⟩ := formAnswers_writes []
    fun answer hanswer => by
      obtain ⟨entry, hentry, hanswers⟩ := hfor answer hanswer
      obtain ⟨text, -, hwrite⟩ := writes_of_answered htabled hentry hanswers
      exact ⟨_, hwrite⟩
  refine ⟨Json.writeAll [] writes, hresult, ?_⟩
  -- every write is that of a question and says the answer to its field
  have hof : ∀ write ∈ writes, ∃ entry ∈ asked, entry.2 = write.1 ∧
      ∃ text, saidTo response entry.1 = some text ∧ write.2 = answerEntry text := by
    intro write hwrite
    obtain ⟨answer, hanswer, hname, text, htext, hvalue⟩ := Fallible.exists_of_forall₂ hwrites.flip hwrite
    obtain ⟨entry, hentry, hanswers⟩ := hfor answer hanswer
    obtain ⟨own, hsaid, hown, ownText, hvalue', hsame⟩ := writes_of_answered htabled hentry hanswers
    refine ⟨entry, hentry, Option.some.inj (hown.symm.trans hname), own, ?_, ?_⟩
    · rw [saidTo_of_mem hanswer hanswers.ofField]
      exact hsaid
    · obtain rfl := Except.ok.inj (hvalue'.symm.trans htext)
      exact hvalue.trans hsame.symm
  have hfound : ∀ entry ∈ asked, ∃ write ∈ writes, write.1 = entry.2 := by
    intro entry hentry
    obtain ⟨answer, hanswer, hanswers⟩ := hgiven entry hentry
    obtain ⟨write, hwrite, hname, -⟩ := Fallible.exists_of_forall₂ hwrites hanswer
    obtain ⟨own, -, hown, -⟩ := writes_of_answered htabled hentry hanswers
    exact ⟨write, hwrite, Option.some.inj (hname.symm.trans hown)⟩
  constructor
  · intro hcarries entry hentry other hother hname
    obtain ⟨text, hsaid, hget⟩ := hcarries.each entry hentry
    obtain ⟨otherText, hsaid', hget'⟩ := hcarries.each other hother
    rw [hname, hget'] at hget
    rw [hsaid, hsaid', answerEntry_inj (Option.some.inj hget)]
  · intro hagreeing
    refine ⟨fun entry hentry => ?_, fun name hname => ?_, Json.nodup_writeAll .nil⟩
    · obtain ⟨answer, hanswer, hanswers⟩ := hgiven entry hentry
      obtain ⟨text, hsaid, -⟩ := writes_of_answered htabled hentry hanswers
      rw [← saidTo_of_mem hanswer hanswers.ofField] at hsaid
      refine ⟨text, hsaid, Json.get_writeAll ?_ (.inr (hfound entry hentry))⟩
      intro write hwrite hname
      obtain ⟨other, hother, hsame, otherText, hsaid', hvalue⟩ := hof write hwrite
      have hequal := hagreeing entry hentry other hother (hname.symm.trans hsame.symm)
      rw [hsaid, hsaid'] at hequal
      rw [hvalue, Option.some.inj hequal]
    · rcases Json.mem_keys_writeAll hname with hnone | ⟨write, hwrite, rfl⟩
      · cases hnone
      · obtain ⟨entry, hentry, hsame, -⟩ := hof write hwrite
        exact ⟨entry, hentry, hsame⟩

/-- The response is accepted and queued, and what is queued has the answer to every question. -/
structure Delivers (asked : List (FormField × String)) (s : ApprovalRuntimeState)
    (outbound : Value → OutboundApproval) (response : InteractionResponse) (answers : FormResponse) :
    Prop where
  accepted : (s.claim response).1 = .ok ()
  queued : ∃ entries, (s.claim response).2.outbound =
      s.outbound ++ [outbound (.object [("answers", .object entries)])] ∧
    Carries asked answers entries

end ApprovalRuntimeState

namespace Hosting

open ApprovalRuntimeState

/-- A prepared form can be claimed with every response that its request accepts, and the answers
reach the server unchanged exactly if questions of one name are given the same answer. -/
theorem prepareUserInput_delivers_iff {B : Type} (host : ProviderHost B) (b b' : B) (params : Value)
    (sessionId : SessionId) (prepared : PreparedApproval)
    (hprepared : prepareUserInput host params sessionId b = (.ok prepared, b'))
    (hfresh : ((questionDraws host (questionsOf params) b).flatMap Prod.snd).Nodup)
    (before after : List ApprovalOp) (s : ApprovalRuntimeState) (route : ApprovalRoute)
    (requestId : RequestId) (method : String)
    (hregister : (run before).register route requestId method prepared = (.ok (), s))
    (hstays : Stays prepared.request.id s after) :
    ∃ asked, FormOf params sessionId asked (questionDraws host (questionsOf params) b) prepared ∧
      ∀ (response : InteractionResponse) (answers : FormResponse) (p : PendingApproval),
        response.payload = .form answers → prepared.request.validateResponse response = .ok () →
        (Trace.final step s after).pending[prepared.request.id]? = some p → p.status = .awaiting →
        (Trace.final step s after).outbound.length < maxPendingApprovals →
        (Delivers asked (Trace.final step s after)
            (fun result => ⟨route, prepared.request.id, requestId, method, result⟩) response answers ↔
          Agreeing asked answers) := by
  obtain ⟨asked, hform⟩ := prepareUserInput_of_ok hprepared
  refine ⟨asked, hform, fun response answers p hpayload hvalid hp hstatus hroom => ?_⟩
  obtain ⟨form, hrequest, hfields⟩ := hform.payload
  obtain ⟨status, hentry⟩ := registered_entry hregister hstays
  obtain rfl := Option.some.inj (hentry.symm.trans hp)
  -- the identifiers of the fields differ because the request is a form
  have hids : (asked.map fun entry => entry.1.id).Nodup := by
    have hunique := form.unique
    rw [hfields, List.map_map] at hunique
    exact hunique
  have hoptions : (asked.flatMap fun entry => entry.1.options.map ChoiceOption.id).Nodup := by
    rw [← hform.draws, List.flatMap_map] at hfresh
    exact hfresh
  obtain ⟨hid, hsession, -, -, hanswers⟩ := InteractionRequest.validateResponse_ok.mp hvalid
  rw [hrequest, hpayload, InteractionRequestPayload.validateResponse_form] at hanswers
  obtain ⟨entries, hentries, hcarries⟩ :=
    formAnswers_carries hfields (tabled_addAll hids hoptions) hanswers
  have hresult : responseResult response.requestId prepared.responseMapping response.payload =
      .ok (.object [("answers", .object entries)]) := by
    rw [hform.mapping, hpayload, responseResult, hentries]
    rfl
  rw [← hid] at hentry hp
  have hclaim := claim_of_result hentry hsession hstatus hroom hresult
  rw [← hcarries]
  constructor
  · rintro ⟨-, queued, hqueued, hsame⟩
    rw [hclaim] at hqueued
    have hlast := List.append_cancel_left hqueued
    obtain rfl : entries = queued := by simpa [registered, hid] using hlast
    exact hsame
  · intro hsame
    refine ⟨by rw [hclaim], entries, ?_, hsame⟩
    rw [hclaim, hid]
    rfl

end Hosting

namespace Sample

/-- Two questions that are answered with a text; the second is named as given. -/
def twoQuestions (second : String) : Value :=
  .object [
    ("threadId", .string Codex.Sample.thread), ("turnId", .string "t1"), ("itemId", .string "i1"),
    ("isBlocking", .bool true), ("questions", .array [
      .object [("id", .string "scope"), ("header", .string "Scope"), ("question", .string "Which?")],
      .object [("id", .string second), ("header", .string "Mode"), ("question", .string "How?")]])]

def twoAnswers : FormResponse where
  answers := [
    ⟨Ident.numbered .formField 0, .text ⟨"all", by decide⟩⟩,
    ⟨Ident.numbered .formField 1, .text ⟨"fast", by decide⟩⟩]
  nonempty := by simp
  unique := by decide

def twoAnswered : InteractionResponse :=
  ⟨Ident.numbered .interaction 2, Ident.numbered .session 0, Ident.numbered .channel 0,
    AgentPulse.Sample.instant, .form twoAnswers⟩

/-- The request is prepared, and its form accepts the two answers. -/
def acceptsTwo (second : String) : Bool :=
  match (Hosting.prepareUserInput host (twoQuestions second) (Ident.numbered .session 0) 0).1 with
  | .ok prepared => prepared.request.validateResponse twoAnswered == .ok ()
  | .error _ => false

theorem twoAnswered_accepted {second : String} (h : acceptsTwo second = true) :
    ∃ prepared b', Hosting.prepareUserInput host (twoQuestions second) (Ident.numbered .session 0) 0 =
      (.ok prepared, b') ∧ prepared.request.validateResponse twoAnswered = .ok () := by
  unfold acceptsTwo at h
  rcases hrun : Hosting.prepareUserInput host (twoQuestions second) (Ident.numbered .session 0) 0
    with ⟨result, b'⟩
  rw [hrun] at h
  cases result with
  | error e => cases h
  | ok prepared => exact ⟨prepared, b', rfl, by simpa using h⟩

theorem twoQuestions_asked {second : String} {prepared : PreparedApproval}
    {asked : List (FormField × String)}
    (h : Hosting.FormOf (twoQuestions second) (Ident.numbered .session 0) asked
      (Hosting.questionDraws host (questionsOf (twoQuestions second)) 0) prepared) :
    ∃ first last, asked = [(first, "scope"), (last, second)] ∧
      saidTo twoAnswers first = some "all" ∧ saidTo twoAnswers last = some "fast" := by
  have hquestions : questionsOf (twoQuestions second) = [
      .object [("id", .string "scope"), ("header", .string "Scope"), ("question", .string "Which?")],
      .object [("id", .string second), ("header", .string "Mode"), ("question", .string "How?")]] := rfl
  have hdraws : Hosting.questionDraws host (questionsOf (twoQuestions second)) 0 =
      [(Ident.numbered .formField 0, []), (Ident.numbered .formField 1, [])] := rfl
  obtain ⟨hasks, hdrawn⟩ := And.intro h.asks h.draws
  rw [hquestions] at hasks
  rw [hdraws] at hdrawn
  obtain _ | ⟨⟨-, hscope⟩, hasks⟩ := hasks
  obtain _ | ⟨⟨-, hsecond⟩, hasks⟩ := hasks
  obtain _ | _ := hasks
  rename_i first last
  obtain ⟨hfirst, hlast⟩ : Hosting.drawOf first.1 = (Ident.numbered .formField 0, []) ∧
      Hosting.drawOf last.1 = (Ident.numbered .formField 1, []) := by simpa using hdrawn
  have hsaid : ∀ (field : FormField) (answer : FormAnswer), answer ∈ twoAnswers.answers →
      answer.fieldId = field.id → saidTo twoAnswers field = said field answer.value :=
    fun field answer hmem hfield => saidTo_of_mem hmem hfield
  refine ⟨first.1, last.1, ?_, ?_, ?_⟩
  · have hnames : "scope" = first.2 ∧ second = last.2 := ⟨Except.ok.inj hscope, Except.ok.inj hsecond⟩
    rw [hnames.1, hnames.2]
  · rw [hsaid first.1 ⟨Ident.numbered .formField 0, .text ⟨"all", by decide⟩⟩ (by simp [twoAnswers])
      (Prod.mk.inj hfirst).1.symm]
    rfl
  · rw [hsaid last.1 ⟨Ident.numbered .formField 1, .text ⟨"fast", by decide⟩⟩ (by simp [twoAnswers])
      (Prod.mk.inj hlast).1.symm]
    rfl

end Sample

namespace Hosting

open ApprovalRuntimeState

/-- The answers to questions of different names arrive. -/
theorem prepareUserInput_delivers_two :
    ∃ prepared asked s, FormOf (Sample.twoQuestions "mode") (Ident.numbered .session 0) asked
        (questionDraws Sample.host (questionsOf (Sample.twoQuestions "mode")) 0) prepared ∧
      Delivers asked s (fun result => ⟨.observer, prepared.request.id, .number 1,
        "item/tool/requestUserInput", result⟩) Sample.twoAnswered Sample.twoAnswers := by
  obtain ⟨prepared, b', hprepared, hvalid⟩ := Sample.twoAnswered_accepted
    (show Sample.acceptsTwo "mode" = true by rfl)
  have hregister : (run []).register .observer (.number 1) "item/tool/requestUserInput" prepared =
      (.ok (), ⟨(∅ : ExtTreeMap InteractionId PendingApproval).insert prepared.request.id
        (registered .observer (.number 1) "item/tool/requestUserInput" prepared),
        (∅ : ExtTreeMap RequestKey InteractionId).insert ⟨.observer, .number 1⟩ prepared.request.id,
        []⟩) := by
    simp [ApprovalRuntimeState.register, run, ApprovalRuntimeState.new, registered,
      maxPendingApprovals]
  obtain ⟨asked, hform, hdelivers⟩ := prepareUserInput_delivers_iff _ _ _ _ _ _ hprepared
    (by decide +kernel) [] [] _ _ _ _ hregister trivial
  obtain ⟨first, last, hasked, -, -⟩ := Sample.twoQuestions_asked hform
  refine ⟨prepared, asked, _, hform, (hdelivers Sample.twoAnswered Sample.twoAnswers
    (registered .observer (.number 1) "item/tool/requestUserInput" prepared) rfl hvalid ?_ rfl
    (show 0 < maxPendingApprovals by decide)).mpr ?_⟩
  · show (ExtTreeMap.insert _ _ _)[prepared.request.id]? = _
    rw [OrderedMap.getElem?_insert, if_pos rfl]
  · rw [hasked]
    intro entry hentry other hother hname
    simp only [List.mem_cons, List.not_mem_nil, or_false] at hentry hother
    rcases hentry with rfl | rfl <;> rcases hother with rfl | rfl
    · rfl
    · exact absurd hname (show "scope" ≠ "mode" by decide)
    · exact absurd hname (show "mode" ≠ "scope" by decide)
    · rfl

/-- Two questions of one name: the answer to the second replaces that to the first. -/
theorem prepareUserInput_overwrites :
    ¬∀ (B : Type) (host : ProviderHost B) (b b' : B) (params : Value) (sessionId : SessionId)
      (prepared : PreparedApproval) (asked : List (FormField × String)),
      Shape.toolRequestUserInputParams params = true →
      prepareUserInput host params sessionId b = (.ok prepared, b') →
      FormOf params sessionId asked (questionDraws host (questionsOf params) b) prepared →
      ∀ (route : ApprovalRoute) (requestId : RequestId) (response : InteractionResponse)
        (answers : FormResponse), response.payload = .form answers →
        prepared.request.validateResponse response = .ok () →
        Delivers asked
          (ApprovalOp.apply .new (.register route requestId "item/tool/requestUserInput" prepared))
          (fun result => ⟨route, prepared.request.id, requestId, "item/tool/requestUserInput", result⟩)
          response answers := by
  intro h
  obtain ⟨prepared, b', hprepared, hvalid⟩ := Sample.twoAnswered_accepted
    (show Sample.acceptsTwo "scope" = true by rfl)
  obtain ⟨asked, hform⟩ := prepareUserInput_of_ok hprepared
  obtain ⟨-, queued, -, hcarries⟩ := h _ _ _ _ _ _ _ _ (by rfl) hprepared hform .observer (.number 1)
    _ _ rfl hvalid
  obtain ⟨first, last, rfl, hfirst, hlast⟩ := Sample.twoQuestions_asked hform
  obtain ⟨text, hsaid, hget⟩ := hcarries.each _ List.mem_cons_self
  obtain ⟨other, hsaid', hget'⟩ := hcarries.each _ (List.mem_cons_of_mem _ List.mem_cons_self)
  have hsame : answerEntry text = answerEntry other := Option.some.inj (hget.symm.trans hget')
  rw [hfirst] at hsaid
  rw [hlast, ← answerEntry_inj hsame, ← hsaid] at hsaid'
  exact absurd hsaid' (by decide)

end Hosting

end Codex

end AgentPulse
