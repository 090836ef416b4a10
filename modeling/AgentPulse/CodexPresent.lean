import AgentPulse.CodexApproval

/-!
# Presenting server requests

An approval or a request for user input becomes an interaction request together
with the table that turns the user's answer back into a result. Details that
would not fit on a display are withheld and make the approval unavailable.
-/
namespace AgentPulse

def NonEmptyText.bytes (self : NonEmptyText) : Nat := self.asStr.utf8ByteSize

namespace Codex

open Std (ExtTreeMap)
open Program (fail ofExcept)
open Serde (Json)

def maxApprovalPresentationBytes : Nat := 256 * 1024

def optionalBytes (text : Option NonEmptyText) : Nat := (text.map NonEmptyText.bytes).getD 0

/-- The text of the parameters, or else the one of the cached item. -/
def paramOrItem (params : Value) (item : Option Value) (field : String) :
    Sourced (Option NonEmptyText) := do
  match ← optionalNonEmptyString params field with
  | some text => .ok (some text)
  | none =>
    .ok (item.bind fun value =>
      match optionalNonEmptyString value field with
      | .ok found => found
      | .error _ => none)

def commandKind (params : Value) : Sourced ApprovalCommandKind :=
  let kind := ((params.get "kind").bind Json.asStr).getD "command"
  if kind = "command" then .ok .command
  else if kind = "writeStdin" then .ok .writeStdin
  else protocolError s!"unsupported command approval kind {kind}"

def networkContext (params : Value) : Sourced (Option ApprovalNetworkContext) :=
  match params.get "networkApprovalContext" with
  | none | some .null => .ok none
  | some value => do
    let host ← stringField value "host"
    let hostText ← domain (NonEmptyText.new host)
    let protocol ← stringField value "protocol"
    let protocolText ← domain (NonEmptyText.new protocol)
    .ok (some ⟨hostText, protocolText⟩)

def commandSubject (params : Value) (item : Option Value) :
    Sourced (ApprovalSubject × Option NonEmptyText) := do
  let item := item.filter fun value =>
    (value.get "type").bind Json.asStr = some "commandExecution"
  let kind ← commandKind params
  let command ← paramOrItem params item "command"
  let cwd ← paramOrItem params item "cwd"
  let reason ← optionalNonEmptyString params "reason"
  let network ← networkContext params
  if command.isNone ∧ network.isNone then do
    let unavailable ← domain (NonEmptyText.new
      "Codex did not provide command or network details; use the desktop Codex client")
    .ok (.command kind command cwd reason network, some unavailable)
  else .ok (.command kind command cwd reason network, none)

def fileChange (value : Value) : Sourced ApprovalFileChange := do
  let kindName ← stringField value "kind"
  let kind ←
    if kindName = "add" then (.ok .add : Sourced ApprovalFileChangeKind)
    else if kindName = "delete" then .ok .delete
    else if kindName = "update" then .ok .update
    else protocolError s!"unsupported file change kind {kindName}"
  let path ← stringField value "path"
  let pathText ← domain (NonEmptyText.new path)
  let diff ← stringField value "diff"
  .ok ⟨pathText, kind, diff⟩

def fileSubject (params : Value) (item : Option Value) :
    Sourced (ApprovalSubject × Option NonEmptyText) := do
  let reason ← optionalNonEmptyString params "reason"
  let grantRoot ← optionalNonEmptyString params "grantRoot"
  let validItem := item.filter fun value =>
    (value.get "type").bind Json.asStr = some "fileChange"
  let values := ((validItem.bind fun value => value.get "changes").bind Json.asArray).getD []
  let changes ← values.mapM fileChange
  if changes.isEmpty then do
    let unavailable ← domain (NonEmptyText.new
      "Codex file-change details were not available; use the desktop Codex client")
    .ok (.fileChange changes grantRoot reason, some unavailable)
  else .ok (.fileChange changes grantRoot reason, none)

def presentationBytes : ApprovalSubject → Nat
  | .command _ command cwd reason network =>
    optionalBytes command + optionalBytes cwd + optionalBytes reason +
      (network.map fun value => value.host.bytes + value.protocol.bytes).getD 0
  | .fileChange changes grantRoot reason =>
    (changes.map fun change => change.path.bytes + change.diff.utf8ByteSize).sum +
      optionalBytes grantRoot + optionalBytes reason

def approvalPresentationBytes (subject : ApprovalSubject) (options : List ApprovalOption) : Nat :=
  presentationBytes subject +
    (options.map fun option => option.label.bytes + optionalBytes option.description).sum

def oversizedReason : Sourced NonEmptyText :=
  domain (NonEmptyText.new ("Approval details exceed the " ++ toString maxApprovalPresentationBytes
    ++ "-byte display limit; use the desktop Codex client"))

def redactedSubject : ApprovalSubject → ApprovalSubject
  | .command kind _ _ _ _ => .command kind none none none none
  | .fileChange _ _ _ => .fileChange [] none none

/-- One decision that Codex understands, as it is offered. -/
structure OfferedDecision where
  disposition : ApprovalDisposition
  label : String
  description : String
  decision : Value

def sessionScope : ApprovalSubject → String
  | .fileChange _ (some root) _ =>
    s!"Allow this change and future writes under {root.asStr} for this Codex session"
  | .fileChange _ none _ =>
    "Allow this change and future changes to the same files for this Codex session"
  | .command _ _ _ _ _ => "Allow this operation and matching future prompts for this Codex session"

def execpolicyDecision (params : Value) : List OfferedDecision :=
  match (params.get "proposedExecpolicyAmendment").bind Json.asArray with
  | none | some [] => []
  | some amendment =>
    let exact := " ".intercalate (amendment.map fun value => value.asStr.getD "")
    [⟨.approve, "Approve and remember command rule",
      s!"Apply Codex exec policy amendment: {exact}",
      .object [("acceptWithExecpolicyAmendment",
        .object [("execpolicy_amendment", .array amendment)])]⟩]

def networkDecision (amendment : Value) : Sourced OfferedDecision := do
  let action ← stringField amendment "action"
  let host ← stringField amendment "host"
  let description := s!"Apply persistent Codex network policy for {host}"
  let decision := Json.object [("applyNetworkPolicyAmendment",
    .object [("network_policy_amendment", amendment)])]
  if action = "allow" then .ok ⟨.approve, s!"Always allow {host}", description, decision⟩
  else if action = "deny" then .ok ⟨.reject, s!"Always deny {host}", description, decision⟩
  else protocolError s!"unsupported network policy action {action}"

/-- The decisions offered before the network amendments, in order. -/
def leadingDecisions (method : String) (params : Value) (subject : ApprovalSubject) :
    List OfferedDecision :=
  [⟨.approve, "Approve once", "Allow only this operation", .string "accept"⟩,
    ⟨.approve, "Approve for session", sessionScope subject, .string "acceptForSession"⟩] ++
  if method = "item/commandExecution/requestApproval" then execpolicyDecision params else []

def closingDecisions : List OfferedDecision :=
  [⟨.reject, "Reject", "Deny this operation and continue the turn", .string "decline"⟩,
    ⟨.cancel, "Reject and stop", "Deny this operation and immediately interrupt the turn",
      .string "cancel"⟩]

def networkAmendments (method : String) (params : Value) : List Value :=
  if method = "item/commandExecution/requestApproval" then
    ((params.get "proposedNetworkPolicyAmendments").bind Json.asArray).getD []
  else []

/-- The options of an approval with the decision each stands for. -/
abbrev Offer := List ApprovalOption × ExtTreeMap ApprovalOptionId Value

namespace Hosting

variable {B : Type} (host : ProviderHost B)

def addOption (offer : Offer) (offered : OfferedDecision) : Hosting B Offer := do
  let id ← newId host .approvalOption
  let label ← ofExcept (domain (NonEmptyText.new offered.label))
  let description ← ofExcept (domain (NonEmptyText.new offered.description))
  pure (offer.1 ++ [⟨id, offered.disposition, label, some description⟩],
    offer.2.insert id offered.decision)

def addOptions : Offer → List OfferedDecision → Hosting B Offer
  | offer, [] => pure offer
  | offer, offered :: rest => do
    let next ← addOption host offer offered
    addOptions next rest

def addNetworkOptions : Offer → List Value → Hosting B Offer
  | offer, [] => pure offer
  | offer, amendment :: rest => do
    let offered ← ofExcept (networkDecision amendment)
    let next ← addOption host offer offered
    addNetworkOptions next rest

def approvalOptions (method : String) (params : Value) (subject : ApprovalSubject) :
    Hosting B Offer := do
  let leading ← addOptions host ([], ∅) (leadingDecisions method params subject)
  let amended ← addNetworkOptions host leading (networkAmendments method params)
  addOptions host amended closingDecisions

def approvalSubject (method : String) (params : Value) (item : Option Value) :
    Sourced (ApprovalSubject × Option NonEmptyText) :=
  if method = "item/commandExecution/requestApproval" then commandSubject params item
  else if method = "item/fileChange/requestApproval" then fileSubject params item
  else protocolError s!"unsupported approval method {method}"

def approvalPrompt (method : String) : Sourced String :=
  if method = "item/commandExecution/requestApproval" then .ok "Command approval required"
  else if method = "item/fileChange/requestApproval" then .ok "File change approval required"
  else protocolError s!"unsupported approval method {method}"

/-- The options of a subject that fits the display, or the reason why there are none. -/
def offeredOptions (method : String) (params : Value) (subject : ApprovalSubject)
    (unavailable : Option NonEmptyText) : Hosting B (Option NonEmptyText × Offer) := do
  let oversized := presentationBytes subject > maxApprovalPresentationBytes
  let reason ← ofExcept (if oversized then oversizedReason.map some else .ok unavailable)
  match reason with
  | some reason => pure (some reason, ([], ∅))
  | none =>
    let offer ← approvalOptions host method params subject
    if approvalPresentationBytes subject offer.1 > maxApprovalPresentationBytes then do
      let reason ← ofExcept oversizedReason
      pure (some reason, ([], ∅))
    else pure (none, offer)

def prepareApproval (method : String) (params : Value) (item : Option Value)
    (sessionId : SessionId) : Hosting B PreparedApproval := do
  let threadId ← ofExcept (stringField params "threadId")
  let turnId ← ofExcept (stringField params "turnId")
  let itemId ← ofExcept (stringField params "itemId")
  let startedAt ← ofExcept (i64Field params "startedAtMs")
  let requestedAt ← ofExcept (domain (Timestamp.fromUnixTimestampNanos (startedAt * 1000000)))
  let (subject, unavailable) ← ofExcept (approvalSubject method params item)
  let (reason, options, decisions) ← offeredOptions host method params subject unavailable
  let approval ← ofExcept (match reason with
    | some reason => .ok (ApprovalRequest.unavailable (redactedSubject subject) reason)
    | none => domain (ApprovalRequest.actionable subject options))
  let prompt ← ofExcept (approvalPrompt method)
  let id ← newId host .interaction
  let promptText ← ofExcept (domain (NonEmptyText.new prompt))
  pure
    { request := .new id sessionId requestedAt promptText (.approval approval)
      responseMapping := .approval decisions
      threadId := threadId
      turnId := turnId
      itemId := itemId }

/-- The options of one question with the label each stands for. -/
def questionOptions : List Value → Hosting B (List ChoiceOption × List (ChoiceOptionId × String))
  | [] => pure ([], [])
  | value :: rest => do
    let label ← ofExcept (stringField value "label")
    let optionId ← newId host .choiceOption
    let labelText ← ofExcept (domain (NonEmptyText.new label))
    let description ← ofExcept (stringField value "description")
    let descriptionText ← ofExcept (domain (NonEmptyText.new description))
    let (options, labels) ← questionOptions rest
    pure (⟨optionId, labelText, some descriptionText⟩ :: options, (optionId, label) :: labels)

/-- The field of a question, its external name and the labels of its options. -/
def questionField (question : Value) :
    Hosting B (FormField × String × List (ChoiceOptionId × String)) := do
  let externalId ← ofExcept (stringField question "id")
  let fieldId ← newId host .formField
  let (options, labels) ← questionOptions host
    (((question.get "options").bind Json.asArray).getD [])
  let allowOther := ((question.get "isOther").bind Json.asBool).getD false || options.isEmpty
  let header ← ofExcept (stringField question "header")
  let headerText ← ofExcept (domain (NonEmptyText.new header))
  let prompt ← ofExcept (stringField question "question")
  let promptText ← ofExcept (domain (NonEmptyText.new prompt))
  let field ← ofExcept (domain (FormField.new fieldId headerText promptText options allowOther
    (((question.get "isSecret").bind Json.asBool).getD false)))
  pure (field, externalId, labels)

/-- The three tables of a form, extended by one question. -/
structure FormTables where
  fields : List FormField
  questionIds : ExtTreeMap FormFieldId String
  optionValues : ExtTreeMap ChoiceOptionId String
  allowsText : ExtTreeMap FormFieldId Bool

def FormTables.empty : FormTables := ⟨[], ∅, ∅, ∅⟩

def FormTables.add (self : FormTables) (field : FormField) (externalId : String)
    (labels : List (ChoiceOptionId × String)) : FormTables where
  fields := self.fields ++ [field]
  questionIds := self.questionIds.insert field.id externalId
  optionValues := labels.foldl (fun m entry => m.insert entry.1 entry.2) self.optionValues
  allowsText := self.allowsText.insert field.id field.allowsOther

def questionTables : FormTables → List Value → Hosting B FormTables
  | tables, [] => pure tables
  | tables, question :: rest => do
    let (field, externalId, labels) ← questionField host question
    questionTables (tables.add field externalId labels) rest

def prepareUserInput (params : Value) (sessionId : SessionId) : Hosting B PreparedApproval := do
  let threadId ← ofExcept (stringField params "threadId")
  let turnId ← ofExcept (stringField params "turnId")
  let itemId ← ofExcept (stringField params "itemId")
  match (params.get "isBlocking").bind Json.asBool with
  | none => fail (.protocol "isBlocking must be a boolean")
  | some blocking =>
    match (params.get "questions").bind Json.asArray with
    | none => fail (.protocol "questions must be an array")
    | some questions => do
      let tables ← questionTables host .empty questions
      let id ← newId host .interaction
      let now ← nowUtc host
      let promptText ← ofExcept (domain (NonEmptyText.new "Codex needs your input"))
      let form ← ofExcept (domain (FormRequest.new tables.fields blocking))
      pure
        { request := .new id sessionId now promptText (.form form)
          responseMapping := .form tables.questionIds tables.optionValues tables.allowsText
          threadId := threadId
          turnId := turnId
          itemId := itemId }

end Hosting

end Codex

end AgentPulse
