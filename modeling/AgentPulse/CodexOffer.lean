import AgentPulse.CodexLifecycle
import AgentPulse.CodexPresentable

/-!
# What a tap on an option sends

The options of an approval and the decisions that they stand for are built side by
side. An option that is shown keeps its own decision, and claiming it queues that
decision for the server.
-/
namespace AgentPulse

namespace Codex

open Std (ExtTreeMap)
open Serde (Json)

namespace Shape

/-- The properties that are not listed are not there. -/
def only (names : List String) : Shape
  | .object entries => entries.all fun entry => names.contains entry.1
  | _ => true

def oneOf (shapes : List Shape) : Shape := fun value => shapes.countP (fun shape => shape value) == 1

def commandExecutionApprovalDecision : Shape :=
  oneOf [enum ["accept"], enum ["acceptForSession"],
    object [only ["acceptWithExecpolicyAmendment"],
      required "acceptWithExecpolicyAmendment"
        (object [required "execpolicy_amendment" (arrayOf string)])],
    object [only ["applyNetworkPolicyAmendment"],
      required "applyNetworkPolicyAmendment"
        (object [required "network_policy_amendment" networkPolicyAmendment])],
    enum ["decline"], enum ["cancel"]]

def fileChangeApprovalDecision : Shape :=
  oneOf [enum ["accept"], enum ["acceptForSession"], enum ["decline"], enum ["cancel"]]

def approvalResponse (method : String) : Shape :=
  if method = "item/commandExecution/requestApproval" then
    object [required "decision" commandExecutionApprovalDecision]
  else if method = "item/fileChange/requestApproval" then
    object [required "decision" fileChangeApprovalDecision]
  else fun _ => false

end Shape

def execpolicyAmendment (amendment : List Value) : Value :=
  .object [("acceptWithExecpolicyAmendment", .object [("execpolicy_amendment", .array amendment)])]

def networkPolicyAmendment (amendment : Value) : Value :=
  .object [("applyNetworkPolicyAmendment", .object [("network_policy_amendment", amendment)])]

/-- The decisions that a request leads to, and what a user who picks one of them means. -/
inductive Decides (method : String) (params : Value) : ApprovalDisposition → Value → Prop
  | accept : Decides method params .approve (.string "accept")
  | acceptForSession : Decides method params .approve (.string "acceptForSession")
  | execpolicy {amendment : List Value}
      (hmethod : method = "item/commandExecution/requestApproval")
      (hproposed : params.get "proposedExecpolicyAmendment" = some (.array amendment))
      (hsome : amendment ≠ []) : Decides method params .approve (execpolicyAmendment amendment)
  | allow {amendment : Value} (hproposed : amendment ∈ networkAmendments method params)
      (haction : stringField amendment "action" = .ok "allow") :
      Decides method params .approve (networkPolicyAmendment amendment)
  | deny {amendment : Value} (hproposed : amendment ∈ networkAmendments method params)
      (haction : stringField amendment "action" = .ok "deny") :
      Decides method params .reject (networkPolicyAmendment amendment)
  | decline : Decides method params .reject (.string "decline")
  | cancel : Decides method params .cancel (.string "cancel")

/-- Everything that is offered for a request, in its order. -/
def offeredDecisions (method : String) (params : Value) (subject : ApprovalSubject) :
    Sourced (List OfferedDecision) :=
  ((networkAmendments method params).mapM networkDecision).map fun amended =>
    leadingDecisions method params subject ++ amended ++ closingDecisions

theorem execpolicyDecision_decides {method : String} {params : Value}
    (hmethod : method = "item/commandExecution/requestApproval") {offered : OfferedDecision}
    (h : offered ∈ execpolicyDecision params) :
    ∃ amendment, params.get "proposedExecpolicyAmendment" = some (.array amendment) ∧
      amendment ≠ [] ∧ offered.decision = execpolicyAmendment amendment ∧
      Decides method params offered.disposition offered.decision := by
  unfold execpolicyDecision at h
  split at h
  · cases h
  · cases h
  · rename_i amendment hsome hamendment
    obtain ⟨value, hvalue, harray⟩ := Option.bind_eq_some_iff.mp hamendment
    have hproposed : params.get "proposedExecpolicyAmendment" = some (.array amendment) := by
      cases value with
      | array items =>
        obtain rfl := Option.some.inj harray
        exact hvalue
      | _ => cases harray
    obtain rfl := List.mem_singleton.mp h
    have hne : amendment ≠ [] := fun hnone => hsome hnone
    exact ⟨amendment, hproposed, hne, rfl, .execpolicy hmethod hproposed hne⟩

theorem networkDecision_decides {method : String} {params amendment : Value}
    (hproposed : amendment ∈ networkAmendments method params) {offered : OfferedDecision}
    (h : networkDecision amendment = .ok offered) :
    offered.decision = networkPolicyAmendment amendment ∧
      Decides method params offered.disposition offered.decision := by
  simp only [networkDecision, Fallible.bind_eq_ok] at h
  obtain ⟨action, haction, host, -, h⟩ := h
  split at h
  · next hallow =>
    obtain rfl := Except.ok.inj h
    exact ⟨rfl, .allow hproposed (hallow ▸ haction)⟩
  · split at h
    · next hdeny =>
      obtain rfl := Except.ok.inj h
      exact ⟨rfl, .deny hproposed (hdeny ▸ haction)⟩
    · cases h

theorem leadingDecisions_decides {method : String} {params : Value} {subject : ApprovalSubject}
    {offered : OfferedDecision} (h : offered ∈ leadingDecisions method params subject) :
    Decides method params offered.disposition offered.decision := by
  rcases List.mem_append.mp h with hfixed | hamended
  · simp only [List.mem_cons, List.not_mem_nil, or_false] at hfixed
    rcases hfixed with rfl | rfl
    · exact .accept
    · exact .acceptForSession
  · split at hamended
    · next hmethod =>
      obtain ⟨-, -, -, -, hdecides⟩ := execpolicyDecision_decides hmethod hamended
      exact hdecides
    · cases hamended

theorem closingDecisions_decides {method : String} {params : Value} {offered : OfferedDecision}
    (h : offered ∈ closingDecisions) :
    Decides method params offered.disposition offered.decision := by
  simp only [closingDecisions, List.mem_cons, List.not_mem_nil, or_false] at h
  rcases h with rfl | rfl
  · exact .decline
  · exact .cancel

theorem offeredDecisions_decides {method : String} {params : Value} {subject : ApprovalSubject}
    {all : List OfferedDecision} (h : offeredDecisions method params subject = .ok all)
    {offered : OfferedDecision} (hoffered : offered ∈ all) :
    Decides method params offered.disposition offered.decision := by
  obtain ⟨amended, hamended, rfl⟩ := Fallible.map_eq_ok.mp h
  rcases List.mem_append.mp hoffered with hfront | hclosing
  · rcases List.mem_append.mp hfront with hleading | hnetwork
    · exact leadingDecisions_decides hleading
    · obtain ⟨amendment, hproposed, hdecision⟩ :=
        Fallible.exists_of_forall₂ (Fallible.mapM_eq_ok.mp hamended).flip hnetwork
      exact (networkDecision_decides hproposed hdecision).2
  · exact closingDecisions_decides hclosing

namespace Shape

theorem decision_execpolicy {amendment : List Value} (h : amendment.all string = true) :
    commandExecutionApprovalDecision (execpolicyAmendment amendment) = true := by
  simp [commandExecutionApprovalDecision, oneOf, execpolicyAmendment, enum, Json.asStr, object,
    only, required, Json.get, Json.isObject, arrayOf, Json.asArray, h]

theorem decision_network {amendment : Value} (h : networkPolicyAmendment amendment = true) :
    commandExecutionApprovalDecision (Codex.networkPolicyAmendment amendment) = true := by
  simp [commandExecutionApprovalDecision, oneOf, Codex.networkPolicyAmendment, enum, Json.asStr,
    object, only, required, Json.get, Json.isObject, h]

end Shape

/-- A decision on a schema-valid request passes the schema of its result. -/
theorem Decides.response {method : String} {params : Value} {disposition : ApprovalDisposition}
    {decision : Value} (h : Decides method params disposition decision)
    (hparams : Shape.approvalParams method params = true) :
    Shape.approvalResponse method (.object [("decision", decision)]) = true := by
  have hshape : (method = "item/commandExecution/requestApproval" →
        Shape.commandExecutionApprovalDecision decision = true) ∧
      (method = "item/fileChange/requestApproval" →
        Shape.fileChangeApprovalDecision decision = true) := by
    have hother : "item/fileChange/requestApproval" ≠ "item/commandExecution/requestApproval" := by
      decide
    cases h with
    | accept | acceptForSession | decline | cancel =>
      exact ⟨fun _ => by decide +kernel, fun _ => by decide +kernel⟩
    | execpolicy hmethod hproposed hsome =>
      rename_i amendment
      have hstrings : amendment.all Shape.string = true := by
        rw [Shape.approvalParams, if_pos hmethod] at hparams
        have hproperty : Shape.optional "proposedExecpolicyAmendment"
            (Shape.nullable (Shape.arrayOf Shape.string)) params = true :=
          Shape.property_of_object hparams (by simp)
        rw [Shape.optional, hproposed] at hproperty
        exact hproperty
      refine ⟨fun _ => ?_, fun hfile => absurd (hfile.symm.trans hmethod) hother⟩
      exact Shape.decision_execpolicy hstrings
    | allow hproposed haction | deny hproposed haction =>
      rename_i amendment
      have hamendment := networkAmendments_of_shape hparams _ hproposed
      have hmethod : method = "item/commandExecution/requestApproval" := by
        unfold networkAmendments at hproposed
        split at hproposed
        · assumption
        · cases hproposed
      refine ⟨fun _ => ?_, fun hfile => absurd (hfile.symm.trans hmethod) hother⟩
      exact Shape.decision_network hamendment
  unfold Shape.approvalParams at hparams
  unfold Shape.approvalResponse
  split at hparams
  · next hmethod =>
    rw [if_pos hmethod]
    simpa [Shape.object, Shape.required, Json.get, Json.isObject] using hshape.1 hmethod
  · next hnot =>
    split at hparams
    · next hmethod =>
      rw [if_neg hnot, if_pos hmethod]
      simpa [Shape.object, Shape.required, Json.get, Json.isObject] using hshape.2 hmethod
    · cases hparams

theorem asStr_of_domain {text : String} {shown : NonEmptyText}
    (h : domain (NonEmptyText.new text) = .ok shown) : shown.asStr = text := by
  unfold domain NonEmptyText.new at h
  split at h
  · cases h
  · obtain rfl := Except.ok.inj h
    rfl

/-- The option shows the decision and leads to it. -/
structure Presents (decisions : ExtTreeMap ApprovalOptionId Value) (option : ApprovalOption)
    (offered : OfferedDecision) : Prop where
  disposition : option.disposition = offered.disposition
  label : option.label.asStr = offered.label
  description : option.description.map NonEmptyText.asStr = some offered.description
  decision : decisions[option.id]? = some offered.decision

namespace Hosting

variable {B : Type} {host : ProviderHost B}

/-- Options and decisions as they are added one after the other. -/
inductive Built : Offer → List OfferedDecision → Prop
  | nil : Built ([], ∅) []
  | snoc {offer : Offer} {all : List OfferedDecision} {option : ApprovalOption}
      {offered : OfferedDecision} (hbefore : Built offer all)
      (hdisposition : option.disposition = offered.disposition)
      (hlabel : option.label.asStr = offered.label)
      (hdescription : option.description.map NonEmptyText.asStr = some offered.description) :
      Built (offer.1 ++ [option], offer.2.insert option.id offered.decision) (all ++ [offered])

namespace Built

variable {offer : Offer} {all : List OfferedDecision}

/-- The identifiers of the options are the keys of the decisions. -/
theorem keys (h : Built offer all) (id : ApprovalOptionId) :
    (∃ decision, offer.2[id]? = some decision) ↔ id ∈ offer.1.map ApprovalOption.id := by
  induction h with
  | nil => simp
  | @snoc offer all option offered hbefore _ _ _ ih =>
    rw [List.map_append, List.mem_append, ← ih, OrderedMap.getElem?_insert]
    by_cases hsame : option.id = id
    · rw [if_pos hsame]
      exact ⟨fun _ => .inr (by simp [hsame]), fun _ => ⟨_, rfl⟩⟩
    · rw [if_neg hsame]
      exact ⟨.inl, fun h => h.resolve_right (by simpa using Ne.symm hsame)⟩

/-- Under an identifier of its own every option keeps its decision. -/
theorem presents (h : Built offer all) (hunique : (offer.1.map ApprovalOption.id).Nodup) :
    List.Forall₂ (Presents offer.2) offer.1 all := by
  induction h with
  | nil => exact .nil
  | @snoc offer all option offered hbefore hdisposition hlabel hdescription ih =>
    rw [List.map_append, List.nodup_append] at hunique
    obtain ⟨hfront, -, hnew⟩ := hunique
    have hother : ∀ earlier ∈ offer.1, option.id ≠ earlier.id := by
      intro earlier hmem hsame
      exact hnew _ (List.mem_map_of_mem hmem) _ (by simp) hsame.symm
    have hlast : Presents (offer.2.insert option.id offered.decision) option offered :=
      ⟨hdisposition, hlabel, hdescription, by rw [OrderedMap.getElem?_insert, if_pos rfl]⟩
    refine List.rel_append ?_ (.cons hlast .nil)
    refine ((List.forall₂_and_left _ _).mpr ⟨hother, ih hfront⟩).imp fun earlier shown h => ?_
    obtain ⟨hne, hshown⟩ := h
    refine { hshown with decision := ?_ }
    rw [OrderedMap.getElem?_insert, if_neg hne]
    exact hshown.decision

end Built

theorem addOption_built {offer next : Offer} {all : List OfferedDecision} {offered : OfferedDecision}
    {b b' : B} (h : Built offer all) (hadd : addOption host offer offered b = (.ok next, b')) :
    Built next (all ++ [offered]) := by
  obtain ⟨id, c, -, hadd⟩ := Program.bind_eq_ok hadd
  obtain ⟨label, d, hlabel, hadd⟩ := Program.bind_eq_ok hadd
  obtain ⟨description, e, hdescription, hadd⟩ := Program.bind_eq_ok hadd
  obtain rfl := Except.ok.inj (Prod.mk.inj hadd).1
  refine .snoc h rfl ?_ ?_
  · exact asStr_of_domain (Program.ofExcept_eq_ok hlabel).1
  · rw [Option.map_some, asStr_of_domain (Program.ofExcept_eq_ok hdescription).1]

theorem addOptions_built {offer next : Offer} {all decisions : List OfferedDecision} {b b' : B}
    (h : Built offer all) (hadd : addOptions host offer decisions b = (.ok next, b')) :
    Built next (all ++ decisions) := by
  induction decisions generalizing offer all b with
  | nil =>
    obtain rfl := Except.ok.inj (Prod.mk.inj hadd).1
    rw [List.append_nil]
    exact h
  | cons offered rest ih =>
    obtain ⟨middle, c, hfirst, hrest⟩ := Program.bind_eq_ok hadd
    have hbuilt := ih (addOption_built h hfirst) hrest
    rw [List.append_assoc] at hbuilt
    exact hbuilt

theorem addNetworkOptions_built {offer next : Offer} {all : List OfferedDecision}
    {amendments : List Value} {b b' : B} (h : Built offer all)
    (hadd : addNetworkOptions host offer amendments b = (.ok next, b')) :
    ∃ amended, amendments.mapM networkDecision = .ok amended ∧ Built next (all ++ amended) := by
  induction amendments generalizing offer all b with
  | nil =>
    obtain rfl := Except.ok.inj (Prod.mk.inj hadd).1
    refine ⟨[], rfl, ?_⟩
    rw [List.append_nil]
    exact h
  | cons amendment rest ih =>
    obtain ⟨offered, c, hdecision, hadd⟩ := Program.bind_eq_ok hadd
    obtain ⟨middle, d, hfirst, hrest⟩ := Program.bind_eq_ok hadd
    obtain ⟨amended, hamended, hbuilt⟩ := ih (addOption_built h hfirst) hrest
    refine ⟨offered :: amended, ?_, ?_⟩
    · exact Fallible.mapM_eq_ok.mpr
        (.cons (Program.ofExcept_eq_ok hdecision).1 (Fallible.mapM_eq_ok.mp hamended))
    · rw [List.append_assoc] at hbuilt
      exact hbuilt

theorem approvalOptions_built {method : String} {params : Value} {subject : ApprovalSubject}
    {offer : Offer} {b b' : B}
    (h : approvalOptions host method params subject b = (.ok offer, b')) :
    ∃ all, offeredDecisions method params subject = .ok all ∧ Built offer all := by
  obtain ⟨leading, c, hleading, h⟩ := Program.bind_eq_ok h
  obtain ⟨amended, d, hamended, hclosing⟩ := Program.bind_eq_ok h
  obtain ⟨middle, hmiddle, hbuilt⟩ := addNetworkOptions_built (addOptions_built .nil hleading) hamended
  refine ⟨_, ?_, addOptions_built hbuilt hclosing⟩
  exact Fallible.map_eq_ok.mpr ⟨middle, hmiddle, rfl⟩

/-- Nothing is offered and there is a reason, or all that fits the display is offered. -/
theorem offeredOptions_cases {method : String} {params : Value} {subject : ApprovalSubject}
    {unavailable reason : Option NonEmptyText} {offer : Offer} {b b' : B}
    (h : offeredOptions host method params subject unavailable b = (.ok (reason, offer), b')) :
    (∃ text, reason = some text ∧ offer = ([], ∅)) ∨
      (reason = none ∧ ∃ all, offeredDecisions method params subject = .ok all ∧ Built offer all ∧
        approvalPresentationBytes subject offer.1 ≤ maxApprovalPresentationBytes) := by
  obtain ⟨found, c, hfound, h⟩ := Program.bind_eq_ok h
  cases found with
  | some text =>
    obtain ⟨rfl, rfl⟩ := Prod.mk.inj (Except.ok.inj (Prod.mk.inj h).1)
    exact .inl ⟨text, rfl, rfl⟩
  | none =>
    obtain ⟨built, d, hbuilt, h⟩ := Program.bind_eq_ok h
    rw [Program.ite_apply] at h
    split at h
    · obtain ⟨oversized, e, -, h⟩ := Program.bind_eq_ok h
      obtain ⟨rfl, rfl⟩ := Prod.mk.inj (Except.ok.inj (Prod.mk.inj h).1)
      exact .inl ⟨oversized, rfl, rfl⟩
    · next hfits =>
      obtain ⟨rfl, rfl⟩ := Prod.mk.inj (Except.ok.inj (Prod.mk.inj h).1)
      obtain ⟨all, hall, hoffer⟩ := approvalOptions_built hbuilt
      exact .inr ⟨rfl, all, hall, hoffer, Nat.le_of_not_lt hfits⟩

end Hosting

/-- An approval that can be answered, with the decision of each of its options. -/
structure Answerable (method : String) (params : Value) (approval : ApprovalRequest)
    (decisions : ExtTreeMap ApprovalOptionId Value) : Prop where
  actionable : approval.isActionable = true
  keys : ∀ id : ApprovalOptionId,
    (∃ decision, decisions[id]? = some decision) ↔ id ∈ approval.options.map ApprovalOption.id
  offered : ∃ all, offeredDecisions method params approval.subject = .ok all ∧
    List.Forall₂ (Presents decisions) approval.options all
  decides : ∀ (option : ApprovalOption) (decision : Value), option ∈ approval.options →
    decisions[option.id]? = some decision → Decides method params option.disposition decision ∧
      Shape.approvalResponse method (.object [("decision", decision)]) = true
  bounded : approvalPresentationBytes approval.subject approval.options ≤
    maxApprovalPresentationBytes

/-- An approval that shows nothing but the reason why it cannot be answered. -/
structure Withheld (approval : ApprovalRequest) (decisions : ExtTreeMap ApprovalOptionId Value) :
    Prop where
  options : approval.options = []
  reason : approval.unavailableReason.isSome = true
  redacted : redactedSubject approval.subject = approval.subject
  decisions : decisions = ∅

namespace Hosting

variable {B : Type} {host : ProviderHost B}

theorem redactedSubject_idem (subject : ApprovalSubject) :
    redactedSubject (redactedSubject subject) = redactedSubject subject := by
  cases subject <;> rfl

theorem actionable_eq_ok {subject : ApprovalSubject} {options : List ApprovalOption}
    {approval : ApprovalRequest} (h : domain (ApprovalRequest.actionable subject options) = .ok approval) :
    approval.subject = subject ∧ approval.options = options ∧ options ≠ [] := by
  unfold domain ApprovalRequest.actionable at h
  split at h
  · cases h
  · next hsome =>
    split at h
    · cases h
    · obtain rfl := Except.ok.inj h
      exact ⟨rfl, rfl, hsome⟩

/-- Every prepared approval is answerable with its decisions or withheld. -/
theorem prepareApproval_cases {method : String} {params : Value} {item : Option Value}
    {sessionId : SessionId} {prepared : PreparedApproval} {b b' : B}
    (hparams : Shape.approvalParams method params = true)
    (h : prepareApproval host method params item sessionId b = (.ok prepared, b')) :
    ∃ approval decisions, prepared.request.payload = .approval approval ∧
      prepared.responseMapping = .approval decisions ∧ prepared.request.sessionId = sessionId ∧
      (Answerable method params approval decisions ∨ Withheld approval decisions) := by
  obtain ⟨threadId, c, -, h⟩ := Program.bind_eq_ok h
  obtain ⟨turnId, c, -, h⟩ := Program.bind_eq_ok h
  obtain ⟨itemId, c, -, h⟩ := Program.bind_eq_ok h
  obtain ⟨startedAt, c, -, h⟩ := Program.bind_eq_ok h
  obtain ⟨requestedAt, c, -, h⟩ := Program.bind_eq_ok h
  obtain ⟨⟨subject, unavailable⟩, c, -, h⟩ := Program.bind_eq_ok h
  obtain ⟨⟨reason, options, decisions⟩, d, hoffered, h⟩ := Program.bind_eq_ok h
  obtain ⟨approval, e, happroval, h⟩ := Program.bind_eq_ok h
  obtain ⟨prompt, c, -, h⟩ := Program.bind_eq_ok h
  obtain ⟨id, c, -, h⟩ := Program.bind_eq_ok h
  obtain ⟨promptText, c, -, h⟩ := Program.bind_eq_ok h
  obtain rfl := Except.ok.inj (Prod.mk.inj h).1
  refine ⟨approval, decisions, rfl, rfl, rfl, ?_⟩
  obtain ⟨happroval, -⟩ := Program.ofExcept_eq_ok happroval
  obtain ⟨text, rfl, hnone⟩ | ⟨rfl, all, hall, hbuilt, hbounded⟩ := offeredOptions_cases hoffered
  · right
    obtain ⟨rfl, rfl⟩ := Prod.mk.inj hnone
    obtain rfl := Except.ok.inj happroval
    exact ⟨rfl, rfl, redactedSubject_idem subject, rfl⟩
  · left
    obtain ⟨rfl, rfl, hsome⟩ := actionable_eq_ok happroval
    have hpresents := hbuilt.presents approval.unique
    refine ⟨by simpa [ApprovalRequest.isActionable] using hsome, hbuilt.keys, ⟨all, hall, hpresents⟩,
      ?_, hbounded⟩
    intro option decision hoption hdecision
    obtain ⟨offered, hoffered, hshown⟩ := Fallible.exists_of_forall₂ hpresents hoption
    obtain rfl := Option.some.inj (hdecision.symm.trans hshown.decision)
    rw [hshown.disposition]
    have hdecides := offeredDecisions_decides hall hoffered
    exact ⟨hdecides, hdecides.response hparams⟩

end Hosting

namespace ApprovalRuntimeState

/-- While an interaction stays pending, only the status of its entry changes. -/
theorem apply_entry {s : ApprovalRuntimeState} (hs : Indexed s) (op : ApprovalOp)
    {id : InteractionId} {p : PendingApproval} (hp : s.pending[id]? = some p)
    (hstays : (op.apply s).pending[id]? ≠ none) :
    ∃ status, (op.apply s).pending[id]? = some { p with status := status } := by
  have heffect := ApprovalOp.apply_effect hs op
  generalize op.apply s = s' at heffect hstays ⊢
  -- an entry is written over by itself with another status
  have hwritten : ∀ (a : InteractionId) (q : PendingApproval) (status : PendingStatus),
      s.pending[a]? = some q →
      ∃ found, (s.pending.insert a { q with status := status })[id]? =
        some { p with status := found } := by
    intro a q status hq
    rw [OrderedMap.getElem?_insert]
    by_cases hsame : a = id
    · subst hsame
      obtain rfl := Option.some.inj (hp.symm.trans hq)
      exact ⟨status, if_pos rfl⟩
    · rw [if_neg hsame]
      exact ⟨p.status, hp⟩
  cases heffect with
  | refused => exact ⟨p.status, hp⟩
  | removed _ h =>
    rw [h.pending] at hstays ⊢
    split at hstays
    · exact absurd rfl hstays
    · next hkept =>
      rw [if_neg hkept]
      exact ⟨p.status, hp⟩
  | added route requestId method prepared hkey hid =>
    have hother : prepared.request.id ≠ id := by
      rintro rfl
      rw [hid] at hp
      cases hp
    refine ⟨p.status, ?_⟩
    show (s.pending.insert _ _)[id]? = _
    rw [OrderedMap.getElem?_insert, if_neg hother]
    exact hp
  | claimed response q result hq => exact hwritten _ q _ hq
  | popped route =>
    rw [popOutboundFor_pending]
    exact ⟨p.status, hp⟩
  | marked a q response status hq => exact hwritten a q _ hq

/-- The interaction is pending after every one of the operations. -/
def Stays (id : InteractionId) (s : ApprovalRuntimeState) (ops : List ApprovalOp) : Prop :=
  Trace.Along step (fun s op => (op.apply s).pending[id]? ≠ none) s ops

theorem final_entry {s : ApprovalRuntimeState} (hs : Indexed s) {id : InteractionId}
    {p : PendingApproval} (hp : s.pending[id]? = some p) {ops : List ApprovalOp}
    (hstays : Stays id s ops) :
    ∃ status, (Trace.final step s ops).pending[id]? = some { p with status := status } := by
  have hinvariant := Trace.along_invariant step _
    (fun s => Indexed s ∧ ∃ status, s.pending[id]? = some { p with status := status })
    (fun s op hbefore hpending => by
      obtain ⟨hindexed, status, hentry⟩ := hbefore
      obtain ⟨found, hfound⟩ := apply_entry hindexed op hentry hpending
      exact ⟨ApprovalOp.apply_indexed hindexed op, found, hfound⟩)
    hstays ⟨hs, p.status, hp⟩
  exact hinvariant.2

/-- The entry of a registration, after operations that leave it pending. -/
theorem registered_entry {before after : List ApprovalOp} {s : ApprovalRuntimeState}
    {route : ApprovalRoute} {requestId : RequestId} {method : String} {prepared : PreparedApproval}
    (hregister : (run before).register route requestId method prepared = (.ok (), s))
    (hstays : Stays prepared.request.id s after) :
    ∃ status, (Trace.final step s after).pending[prepared.request.id]? =
      some { registered route requestId method prepared with status := status } := by
  have hstate : s = (ApprovalOp.register route requestId method prepared).apply (run before) := by
    show s = ((run before).register route requestId method prepared).2
    rw [hregister]
  have hindexed : Indexed s := by
    rw [hstate]
    exact ApprovalOp.apply_indexed (run_orderly before).indexed _
  obtain ⟨e, he⟩ | ⟨-, -, hadded⟩ := register_cases (run before) route requestId method prepared
  · rw [he] at hregister
    cases (Prod.mk.inj hregister).1
  · have hpending : s.pending[prepared.request.id]? =
        some (registered route requestId method prepared) := by
      rw [hadded] at hregister
      rw [← (Prod.mk.inj hregister).2]
      show (ExtTreeMap.insert _ _ _)[prepared.request.id]? = _
      rw [OrderedMap.getElem?_insert, if_pos rfl]
    exact final_entry hindexed hpending hstays

/-- An accepted answer to a waiting entry is queued with its result. -/
theorem claim_of_result {s : ApprovalRuntimeState} {response : InteractionResponse}
    {p : PendingApproval} {result : Value} (hp : s.pending[response.requestId]? = some p)
    (hsession : response.sessionId = p.sessionId) (hstatus : p.status = .awaiting)
    (hroom : s.outbound.length < maxPendingApprovals)
    (hresult : responseResult response.requestId p.responseMapping response.payload = .ok result) :
    s.claim response = (.ok (),
      { s with
        pending := s.pending.insert response.requestId { p with status := .queued response }
        outbound := s.outbound ++
          [⟨p.route, response.requestId, p.requestId, p.method, result⟩] }) := by
  unfold claim
  simp only [hp, hsession, hstatus, hresult, ne_eq, not_true_eq_false, if_false,
    if_neg (Nat.not_le_of_lt hroom)]

end ApprovalRuntimeState

namespace Hosting

open ApprovalRuntimeState

variable {B : Type}

/-- A prepared approval is answerable, and then claiming an option queues the decision that the
option shows, or it is withheld, and then no claim succeeds. -/
theorem prepareApproval_claims (host : ProviderHost B) (b b' : B) (method : String)
    (params : Value) (item : Option Value) (sessionId : SessionId) (prepared : PreparedApproval)
    (hparams : Shape.approvalParams method params = true)
    (hprepared : prepareApproval host method params item sessionId b = (.ok prepared, b'))
    (before after : List ApprovalOp) (s : ApprovalRuntimeState) (route : ApprovalRoute)
    (requestId : RequestId)
    (hregister : (run before).register route requestId method prepared = (.ok (), s))
    (hstays : Stays prepared.request.id s after) :
    ∃ approval decisions, prepared.request.payload = .approval approval ∧
      prepared.responseMapping = .approval decisions ∧
      ((Answerable method params approval decisions ∧
        ∀ option ∈ approval.options, ∃ decision, decisions[option.id]? = some decision ∧
          ∀ (response : InteractionResponse) (p : PendingApproval),
            response.requestId = prepared.request.id → response.sessionId = sessionId →
            response.payload = .approval ⟨option.id⟩ →
            (Trace.final step s after).pending[prepared.request.id]? = some p →
            p.status = .awaiting →
            (Trace.final step s after).outbound.length < maxPendingApprovals →
            ((Trace.final step s after).claim response).1 = .ok () ∧
              ((Trace.final step s after).claim response).2.outbound =
                (Trace.final step s after).outbound ++
                  [⟨route, prepared.request.id, requestId, method, .object [("decision", decision)]⟩]) ∨
      (Withheld approval decisions ∧
        ∀ response : InteractionResponse, response.requestId = prepared.request.id →
          ((Trace.final step s after).claim response).1 ≠ .ok ())) := by
  obtain ⟨approval, decisions, hpayload, hmapping, hsession, hcases⟩ :=
    prepareApproval_cases hparams hprepared
  obtain ⟨status, hentry⟩ := registered_entry hregister hstays
  refine ⟨approval, decisions, hpayload, hmapping, ?_⟩
  obtain hanswerable | hwithheld := hcases
  · left
    refine ⟨hanswerable, fun option hoption => ?_⟩
    obtain ⟨decision, hdecision⟩ := (hanswerable.keys option.id).mpr (List.mem_map_of_mem hoption)
    refine ⟨decision, hdecision, ?_⟩
    intro response p hrequest hsame hchosen hp hstatus hroom
    obtain rfl := Option.some.inj (hentry.symm.trans hp)
    have hresult : responseResult response.requestId prepared.responseMapping response.payload =
        .ok (.object [("decision", decision)]) := by
      rw [hmapping, hchosen, responseResult, hdecision]
    rw [← hrequest] at hentry
    have hclaim := claim_of_result hentry (hsame.trans hsession.symm) hstatus hroom hresult
    rw [hclaim, hrequest]
    exact ⟨rfl, rfl⟩
  · right
    refine ⟨hwithheld, fun response hrequest haccepted => ?_⟩
    obtain ⟨e, he⟩ | ⟨p, result, hp, -, hresult, -⟩ := claim_cases (Trace.final step s after) response
    · rw [he] at haccepted
      cases haccepted
    · rw [hrequest] at hp
      obtain rfl := Option.some.inj (hentry.symm.trans hp)
      change responseResult _ prepared.responseMapping _ = _ at hresult
      rw [hmapping, hwithheld.decisions] at hresult
      cases hresponse : response.payload with
      | approval selection =>
        rw [hresponse] at hresult
        simp [responseResult] at hresult
      | _ =>
        rw [hresponse] at hresult
        cases hresult

/-- The list has every decision that is offered for the request: the four without data, the
command rule that is proposed, if it has any words, and the network rule of each proposal. -/
structure Covered (params : Value) (available : List Value) : Prop where
  plain : ∀ name ∈ ["accept", "acceptForSession", "decline", "cancel"], .string name ∈ available
  execpolicy : ∀ amendment, params.get "proposedExecpolicyAmendment" = some (.array amendment) →
    amendment ≠ [] → execpolicyAmendment amendment ∈ available
  network : ∀ amendments, params.get "proposedNetworkPolicyAmendments" = some (.array amendments) →
    ∀ amendment ∈ amendments, networkPolicyAmendment amendment ∈ available

/-- Every decision of a request is offered. -/
theorem exists_offered {params : Value} {subject : ApprovalSubject} {all : List OfferedDecision}
    (h : offeredDecisions "item/commandExecution/requestApproval" params subject = .ok all)
    {disposition : ApprovalDisposition} {decision : Value}
    (hdecides : Decides "item/commandExecution/requestApproval" params disposition decision) :
    ∃ offered ∈ all, offered.decision = decision := by
  obtain ⟨amended, hamended, rfl⟩ := Fallible.map_eq_ok.mp h
  have hnetwork : ∀ amendment ∈ networkAmendments "item/commandExecution/requestApproval" params,
      ∃ offered ∈ leadingDecisions "item/commandExecution/requestApproval" params subject ++ amended ++
        closingDecisions, offered.decision = networkPolicyAmendment amendment := by
    intro amendment hproposed
    obtain ⟨offered, hmem, hoffered⟩ :=
      Fallible.exists_of_forall₂ (Fallible.mapM_eq_ok.mp hamended) hproposed
    exact ⟨offered, by simp [hmem], (networkDecision_decides hproposed hoffered).1⟩
  have hleading : ∀ offered ∈ leadingDecisions "item/commandExecution/requestApproval" params subject,
      offered ∈ leadingDecisions "item/commandExecution/requestApproval" params subject ++ amended ++
        closingDecisions := fun offered hmem => List.mem_append_left _ (List.mem_append_left _ hmem)
  have hclosing : ∀ offered ∈ closingDecisions,
      offered ∈ leadingDecisions "item/commandExecution/requestApproval" params subject ++ amended ++
        closingDecisions := fun offered hmem => List.mem_append_right _ hmem
  cases hdecides with
  | accept => exact ⟨_, hleading _ (List.mem_append_left _ List.mem_cons_self), rfl⟩
  | acceptForSession =>
    exact ⟨_, hleading _ (List.mem_append_left _ (List.mem_cons_of_mem _ List.mem_cons_self)), rfl⟩
  | decline => exact ⟨_, hclosing _ List.mem_cons_self, rfl⟩
  | cancel => exact ⟨_, hclosing _ (List.mem_cons_of_mem _ List.mem_cons_self), rfl⟩
  | @execpolicy amendment _ hproposed hsome =>
    obtain ⟨first, rest, rfl⟩ := List.exists_cons_of_ne_nil hsome
    have hrule : execpolicyDecision params ≠ [] ∧
        ∀ offered ∈ execpolicyDecision params, offered.decision = execpolicyAmendment (first :: rest) := by
      simp [execpolicyDecision, hproposed, Json.asArray, execpolicyAmendment]
    obtain ⟨offered, hmem⟩ := List.exists_mem_of_ne_nil _ hrule.1
    have hin : offered ∈ leadingDecisions "item/commandExecution/requestApproval" params subject := by
      rw [leadingDecisions, if_pos rfl]
      exact List.mem_append_right _ hmem
    exact ⟨offered, hleading _ hin, hrule.2 _ hmem⟩
  | allow hproposed => exact hnetwork _ hproposed
  | deny hproposed => exact hnetwork _ hproposed

theorem mem_networkAmendments {params amendment : Value} :
    amendment ∈ networkAmendments "item/commandExecution/requestApproval" params ↔
      ∃ amendments, params.get "proposedNetworkPolicyAmendments" = some (.array amendments) ∧
        amendment ∈ amendments := by
  rw [networkAmendments, if_pos rfl]
  cases hget : params.get "proposedNetworkPolicyAmendments" with
  | none => simp
  | some value =>
    cases value with
    | array items => simp [Json.asArray]
    | _ => simp [Json.asArray]

theorem covered_iff {params : Value} {available : List Value}
    (hshape : Shape.commandExecutionRequestApprovalParams params = true) :
    Covered params available ↔ ∀ disposition decision,
      Decides "item/commandExecution/requestApproval" params disposition decision →
      decision ∈ available := by
  constructor
  · intro h disposition decision hdecides
    cases hdecides with
    | accept | acceptForSession | decline | cancel => exact h.plain _ (by simp)
    | execpolicy _ hproposed hsome => exact h.execpolicy _ hproposed hsome
    | allow hproposed | deny hproposed =>
      obtain ⟨amendments, hget, hmem⟩ := mem_networkAmendments.mp hproposed
      exact h.network amendments hget _ hmem
  · intro h
    refine ⟨?_, fun amendment hget hsome => h _ _ (.execpolicy rfl hget hsome), ?_⟩
    · intro name hname
      simp only [List.mem_cons, List.not_mem_nil, or_false] at hname
      rcases hname with rfl | rfl | rfl | rfl
      · exact h _ _ .accept
      · exact h _ _ .acceptForSession
      · exact h _ _ .decline
      · exact h _ _ .cancel
    · intro amendments hget amendment hmem
      have hproposed := mem_networkAmendments.mpr ⟨amendments, hget, hmem⟩
      have hparams : Shape.approvalParams "item/commandExecution/requestApproval" params = true := by
        rw [Shape.approvalParams, if_pos rfl]
        exact hshape
      obtain ⟨action, haction, hread⟩ := Shape.name_of_required (Shape.property_of_object
        (networkAmendments_of_shape hparams _ hproposed) (List.mem_cons_self))
      simp only [List.mem_cons, List.not_mem_nil, or_false] at haction
      rcases haction with rfl | rfl
      · exact h _ _ (.allow hproposed hread)
      · exact h _ _ (.deny hproposed hread)

/-- Only decisions that the server permits are offered exactly if the server permits all that
can be offered for the request. -/
theorem prepareApproval_available_iff (host : ProviderHost B) (b b' : B) (params : Value)
    (item : Option Value) (sessionId : SessionId) (prepared : PreparedApproval)
    (approval : ApprovalRequest) (decisions : ExtTreeMap ApprovalOptionId Value)
    (hshape : Shape.commandExecutionRequestApprovalParams params = true)
    (hprepared : prepareApproval host "item/commandExecution/requestApproval" params item sessionId b =
      (.ok prepared, b'))
    (hpayload : prepared.request.payload = .approval approval)
    (hmapping : prepared.responseMapping = .approval decisions)
    (hactionable : approval.isActionable = true) :
    ∀ available, params.get "availableDecisions" = some (.array available) →
      ((∀ option ∈ approval.options, ∀ decision, decisions[option.id]? = some decision →
        decision ∈ available) ↔ Covered params available) := by
  intro available _
  have hparams : Shape.approvalParams "item/commandExecution/requestApproval" params = true := by
    rw [Shape.approvalParams, if_pos rfl]
    exact hshape
  obtain ⟨approval', decisions', hpayload', hmapping', -, hcases⟩ :=
    prepareApproval_cases hparams hprepared
  obtain rfl := InteractionRequestPayload.approval.inj (hpayload.symm.trans hpayload')
  obtain rfl := ResponseMapping.approval.inj (hmapping.symm.trans hmapping')
  obtain hanswerable | hwithheld := hcases
  · obtain ⟨all, hall, hpresents⟩ := hanswerable.offered
    rw [covered_iff hshape]
    constructor
    · intro h disposition decision hdecides
      obtain ⟨offered, hoffered, rfl⟩ := exists_offered hall hdecides
      obtain ⟨option, hoption, hshown⟩ := Fallible.exists_of_forall₂ hpresents.flip hoffered
      exact h option hoption _ hshown.decision
    · intro h option hoption decision hdecision
      exact h _ _ (hanswerable.decides option decision hoption hdecision).1
  · rw [ApprovalRequest.isActionable, hwithheld.options] at hactionable
    cases hactionable

namespace Sample

/-- A command with a proposed rule, and the decisions that the server permits. -/
def commandParams (available : List Value) : Value :=
  .object [
    ("threadId", .string Codex.Sample.thread), ("turnId", .string "t1"), ("itemId", .string "i1"),
    ("startedAtMs", .int 1000), ("command", .string "cargo test"), ("cwd", .string "/work"),
    ("proposedExecpolicyAmendment", .array [.string "cargo", .string "test"]),
    ("proposedNetworkPolicyAmendments", .array [
      .object [("action", .string "deny"), ("host", .string "example.invalid")]]),
    ("availableDecisions", .array available)]

def prepareCommand (available : List Value) : Sourced PreparedApproval × Nat :=
  prepareApproval Codex.Sample.host "item/commandExecution/requestApproval" (commandParams available)
    none (Ident.numbered .session 0) 0

def shownOptions (result : Sourced PreparedApproval) : Nat :=
  match result with
  | .ok prepared =>
    match prepared.request.payload with
    | .approval approval => approval.options.length
    | _ => 0
  | .error _ => 0

theorem prepareCommand_ok (available : List Value) :
    ∃ prepared approval decisions b', prepareCommand available = (.ok prepared, b') ∧
      prepared.request.payload = .approval approval ∧
      prepared.responseMapping = .approval decisions ∧ approval.isActionable = true ∧
      Answerable "item/commandExecution/requestApproval" (commandParams available) approval decisions := by
  have hparams : Shape.approvalParams "item/commandExecution/requestApproval"
      (commandParams available) = true := by rfl
  have hshown : shownOptions (prepareCommand available).1 = 6 := by rfl
  rcases hrun : prepareCommand available with ⟨result, b'⟩
  rw [hrun] at hshown
  cases result with
  | error e => cases hshown
  | ok prepared =>
    obtain ⟨approval, decisions, hpayload, hmapping, -, hcases⟩ := prepareApproval_cases hparams hrun
    rw [shownOptions, hpayload] at hshown
    obtain hanswerable | hwithheld := hcases
    · exact ⟨prepared, approval, decisions, b', rfl, hpayload, hmapping, hanswerable.actionable,
        hanswerable⟩
    · change approval.options.length = 6 at hshown
      rw [hwithheld.options] at hshown
      cases hshown

end Sample

/-- The options of a prepared command are claimed with their decisions. -/
theorem prepareApproval_claims_command :
    ∃ prepared approval decisions, prepared.request.payload = .approval approval ∧
      Answerable "item/commandExecution/requestApproval" (Sample.commandParams []) approval decisions ∧
      ∃ s, (run []).register .observer (.number 1) "item/commandExecution/requestApproval" prepared =
          (.ok (), s) ∧
        ∀ option ∈ approval.options, ∃ decision, decisions[option.id]? = some decision ∧
          ∀ response : InteractionResponse, response.requestId = prepared.request.id →
            response.sessionId = Ident.numbered .session 0 →
            response.payload = .approval ⟨option.id⟩ →
            (s.claim response).2.outbound =
              [⟨.observer, prepared.request.id, .number 1, "item/commandExecution/requestApproval",
                .object [("decision", decision)]⟩] := by
  obtain ⟨prepared, approval, decisions, b', hprepared, hpayload, hmapping, -, hanswerable⟩ :=
    Sample.prepareCommand_ok []
  have hparams : Shape.approvalParams "item/commandExecution/requestApproval" (Sample.commandParams []) = true := by
    rfl
  have hregister : (run []).register .observer (.number 1) "item/commandExecution/requestApproval"
      prepared = (.ok (), ⟨(∅ : ExtTreeMap InteractionId PendingApproval).insert prepared.request.id
        (registered .observer (.number 1) "item/commandExecution/requestApproval" prepared),
        (∅ : ExtTreeMap RequestKey InteractionId).insert ⟨.observer, .number 1⟩ prepared.request.id,
        []⟩) := by
    simp [ApprovalRuntimeState.register, run, ApprovalRuntimeState.new, registered,
      maxPendingApprovals]
  obtain ⟨approval', decisions', hpayload', hmapping', hcases⟩ :=
    prepareApproval_claims _ _ _ _ _ _ _ _ hparams hprepared [] [] _ _ _ hregister trivial
  obtain rfl := InteractionRequestPayload.approval.inj (hpayload.symm.trans hpayload')
  obtain rfl := ResponseMapping.approval.inj (hmapping.symm.trans hmapping')
  refine ⟨prepared, approval, decisions, hpayload, hanswerable, _, hregister, ?_⟩
  obtain ⟨-, hclaims⟩ | ⟨hwithheld, -⟩ := hcases
  · intro option hoption
    obtain ⟨decision, hdecision, hclaim⟩ := hclaims option hoption
    refine ⟨decision, hdecision, fun response hrequest hsession hchosen => ?_⟩
    have hentry : ((∅ : ExtTreeMap InteractionId PendingApproval).insert prepared.request.id
        (registered .observer (.number 1) "item/commandExecution/requestApproval" prepared))[
          prepared.request.id]? = some (registered .observer (.number 1)
            "item/commandExecution/requestApproval" prepared) := by
      rw [OrderedMap.getElem?_insert, if_pos rfl]
    exact (hclaim response (registered .observer (.number 1) _ prepared) hrequest hsession hchosen
      hentry rfl (show 0 < maxPendingApprovals by decide)).2
  · have hactionable := hanswerable.actionable
    rw [ApprovalRequest.isActionable, hwithheld.options] at hactionable
    cases hactionable

/-- The command may only be accepted or cancelled, and its rule may be remembered too. -/
theorem prepareApproval_not_available :
    ¬∀ (B : Type) (host : ProviderHost B) (b b' : B) params item sessionId prepared approval
      (decisions : ExtTreeMap ApprovalOptionId Value),
      Shape.commandExecutionRequestApprovalParams params = true →
      prepareApproval host "item/commandExecution/requestApproval" params item sessionId b =
        (.ok prepared, b') →
      prepared.request.payload = .approval approval →
      prepared.responseMapping = .approval decisions → approval.isActionable = true →
      ∀ available, params.get "availableDecisions" = some (.array available) →
        ∀ option ∈ approval.options, ∀ decision, decisions[option.id]? = some decision →
          decision ∈ available := by
  intro h
  obtain ⟨prepared, approval, decisions, b', hprepared, hpayload, hmapping, hactionable, hanswerable⟩ :=
    Sample.prepareCommand_ok [.string "accept", .string "cancel"]
  obtain ⟨all, hall, hpresents⟩ := hanswerable.offered
  obtain ⟨offered, hoffered, hdecision⟩ := exists_offered hall .acceptForSession
  obtain ⟨option, hoption, hshown⟩ := Fallible.exists_of_forall₂ hpresents.flip hoffered
  have hpermitted := h _ _ _ _ _ _ _ _ _ _ (by rfl) hprepared hpayload hmapping hactionable _ (by rfl)
    option hoption _ hshown.decision
  rw [hdecision] at hpermitted
  simp at hpermitted

namespace Sample

/-- All that can be decided about the command. -/
def commandDecisions : List Value :=
  [.string "accept", .string "acceptForSession",
    execpolicyAmendment [.string "cargo", .string "test"],
    networkPolicyAmendment
      (.object [("action", .string "deny"), ("host", .string "example.invalid")]),
    .string "decline", .string "cancel"]

theorem commandDecisions_covered : Covered (commandParams commandDecisions) commandDecisions := by
  refine ⟨?_, ?_, ?_⟩
  · intro name hname
    simp only [List.mem_cons, List.not_mem_nil, or_false] at hname
    rcases hname with rfl | rfl | rfl | rfl <;> simp [commandDecisions]
  · intro amendment hget _
    cases hget
    simp [commandDecisions]
  · intro amendments hget amendment hmem
    cases hget
    rw [List.mem_singleton.mp hmem]
    simp [commandDecisions]

end Sample

/-- With every decision in its list the request offers nothing else. -/
theorem prepareApproval_available_all :
    ∃ (prepared : PreparedApproval) (approval : ApprovalRequest)
      (decisions : ExtTreeMap ApprovalOptionId Value),
      prepared.request.payload = .approval approval ∧
      prepared.responseMapping = .approval decisions ∧ approval.isActionable = true ∧
      ∀ option ∈ approval.options, ∀ decision, decisions[option.id]? = some decision →
        decision ∈ Sample.commandDecisions := by
  obtain ⟨prepared, approval, decisions, b', hprepared, hpayload, hmapping, hactionable, -⟩ :=
    Sample.prepareCommand_ok Sample.commandDecisions
  exact ⟨prepared, approval, decisions, hpayload, hmapping, hactionable,
    (prepareApproval_available_iff _ _ _ _ _ _ _ _ _ (by rfl) hprepared hpayload hmapping
      hactionable _ rfl).mpr Sample.commandDecisions_covered⟩

end Hosting

end Codex

end AgentPulse
