import AgentPulse.CodexControl

/-!
# Pending server requests

`ApprovalRuntimeState` correlates the server requests that wait for a user with
the interactions shown to channels, and queues the answers for the connection
each request came from. The connections share it.
-/
namespace AgentPulse

namespace Codex

open Std (ExtTreeMap)
open Serde (Json)

def maxPendingApprovals : Nat := 64

/-- A JSON-RPC identifier. -/
inductive RequestId where
  | number (value : Int)
  | string (value : String)
  deriving DecidableEq, Repr

namespace RequestId

def fromValue (value : Value) : Sourced RequestId :=
  match value.asI64 with
  | some integer => .ok (.number integer)
  | none =>
    match value.asStr with
    | some name => .ok (.string name)
    | none => protocolError "request ID is neither an int64 nor a string"

def intoValue : RequestId → Value
  | .number value => .int value
  | .string value => .string value

def rank : RequestId → Nat
  | .number _ => 0
  | .string _ => 1

def numeral : RequestId → Int
  | .number value => value
  | .string _ => 0

def text : RequestId → String
  | .number _ => ""
  | .string value => value

/-- Numbers come before strings. -/
instance : Ord RequestId :=
  ⟨compareLex (compareOn rank) (compareLex (compareOn numeral) (compareOn text))⟩

instance : Std.TransOrd RequestId :=
  inferInstanceAs (Std.TransCmp
    (compareLex (compareOn rank) (compareLex (compareOn numeral) (compareOn text))))

instance : Std.LawfulEqOrd RequestId where
  eq_of_compare := by
    intro a b h
    have h' : compareLex (compareOn rank) (compareLex (compareOn numeral) (compareOn text)) a b =
        .eq := h
    simp only [compareLex_eq_eq, compareOn, Std.compare_eq_iff_eq] at h'
    cases a <;> cases b <;> simp_all [rank, numeral, text]

end RequestId

/-- The connection a server request came from. -/
inductive ApprovalRoute where
  | observer
  | proxy (number : Nat)
  deriving DecidableEq, Repr

/-- The key of `by_request`. -/
structure RequestKey where
  route : ApprovalRoute
  requestId : RequestId
  deriving DecidableEq, Repr

namespace RequestKey

def routeRank (key : RequestKey) : Nat :=
  match key.route with
  | .observer => 0
  | .proxy number => number + 1

instance : Ord RequestKey := ⟨compareLex (compareOn routeRank) (compareOn requestId)⟩

instance : Std.TransOrd RequestKey :=
  inferInstanceAs (Std.TransCmp (compareLex (compareOn routeRank) (compareOn requestId)))

instance : Std.LawfulEqOrd RequestKey where
  eq_of_compare := by
    intro a b h
    have h' : compareLex (compareOn routeRank) (compareOn requestId) a b = .eq := h
    simp only [compareLex_eq_eq, compareOn, Std.compare_eq_iff_eq] at h'
    obtain ⟨aRoute, aId⟩ := a
    obtain ⟨bRoute, bId⟩ := b
    cases aRoute <;> cases bRoute <;> simp_all [routeRank]

end RequestKey

structure OutboundApproval where
  route : ApprovalRoute
  interactionId : InteractionId
  requestId : RequestId
  method : String
  result : Value

/-- How the answer to an interaction becomes the result of its server request. -/
inductive ResponseMapping where
  | approval (decisions : ExtTreeMap ApprovalOptionId Value)
  | form (questionIds : ExtTreeMap FormFieldId String)
      (optionValues : ExtTreeMap ChoiceOptionId String) (allowsText : ExtTreeMap FormFieldId Bool)

inductive PendingStatus where
  | awaiting
  | queued (response : InteractionResponse)
  | sentApproval (response : InteractionResponse)
  | sentForm
  deriving DecidableEq, Repr

structure PendingApproval where
  route : ApprovalRoute
  requestId : RequestId
  method : String
  threadId : String
  turnId : String
  itemId : String
  sessionId : SessionId
  responseMapping : ResponseMapping
  status : PendingStatus

/-- The key under which a pending request is indexed. -/
def PendingApproval.key (self : PendingApproval) : RequestKey := ⟨self.route, self.requestId⟩

inductive ResolvedApproval where
  | responded (threadId : String) (response : InteractionResponse)
  | closed (threadId : String) (sessionId : SessionId) (interactionId : InteractionId)
  | respondedForm (threadId : String) (sessionId : SessionId) (interactionId : InteractionId)
  deriving DecidableEq, Repr

structure ClosedApproval where
  threadId : String
  sessionId : SessionId
  interactionId : InteractionId
  deriving DecidableEq, Repr

/-- A server request made presentable. -/
structure PreparedApproval where
  request : InteractionRequest
  responseMapping : ResponseMapping
  threadId : String
  turnId : String
  itemId : String

structure ApprovalRuntimeState where
  pending : ExtTreeMap InteractionId PendingApproval
  byRequest : ExtTreeMap RequestKey InteractionId
  outbound : List OutboundApproval

namespace ApprovalRuntimeState

def new : ApprovalRuntimeState := ⟨∅, ∅, []⟩

def register (self : ApprovalRuntimeState) (route : ApprovalRoute) (requestId : RequestId)
    (method : String) (prepared : PreparedApproval) : Sourced Unit × ApprovalRuntimeState :=
  if self.pending.size ≥ maxPendingApprovals then
    (protocolError s!"pending approval limit of {maxPendingApprovals} reached", self)
  else if self.byRequest.contains ⟨route, requestId⟩ then
    (protocolError "Codex reused a pending server request ID", self)
  else if self.pending.contains prepared.request.id then
    (protocolError "generated interaction ID is already pending", self)
  else
    (.ok (),
      { self with
        byRequest := self.byRequest.insert ⟨route, requestId⟩ prepared.request.id
        pending := self.pending.insert prepared.request.id
          { route := route
            requestId := requestId
            method := method
            threadId := prepared.threadId
            turnId := prepared.turnId
            itemId := prepared.itemId
            sessionId := prepared.request.sessionId
            responseMapping := prepared.responseMapping
            status := .awaiting } })

/-- The pending entry and its index, without the queued answers. -/
def drop (self : ApprovalRuntimeState) (interactionId : InteractionId) : ApprovalRuntimeState :=
  match self.pending[interactionId]? with
  | none => self
  | some pending =>
    { self with
      pending := self.pending.erase interactionId
      byRequest := self.byRequest.erase pending.key }

def retainOutbound (self : ApprovalRuntimeState) (test : OutboundApproval → Bool) :
    ApprovalRuntimeState :=
  { self with outbound := self.outbound.filter test }

def remove (self : ApprovalRuntimeState) (interactionId : InteractionId) : ApprovalRuntimeState :=
  (self.drop interactionId).retainOutbound fun outbound => outbound.interactionId ≠ interactionId

/-- The value that one answer of a form stands for. -/
def answerValue (optionValues : ExtTreeMap ChoiceOptionId String)
    (allowsText : ExtTreeMap FormFieldId Bool) (answer : FormAnswer) :
    Except CodexProviderPortError String :=
  match answer.value with
  | .choice optionId =>
    match optionValues[optionId]? with
    | some value => .ok value
    | none => .error .unsupportedInteractionResponse
  | .text text =>
    if (allowsText[answer.fieldId]?).getD false then .ok text.asStr
    else .error .unsupportedInteractionResponse

/-- The answers of a form under the names of its questions; a later answer to a
question replaces an earlier one. -/
def formAnswers (questionIds : ExtTreeMap FormFieldId String)
    (optionValues : ExtTreeMap ChoiceOptionId String) (allowsText : ExtTreeMap FormFieldId Bool) :
    List (String × Value) → List FormAnswer → Except CodexProviderPortError (List (String × Value))
  | answers, [] => .ok answers
  | answers, answer :: rest =>
    match questionIds[answer.fieldId]? with
    | none => .error .unsupportedInteractionResponse
    | some questionId =>
      match answerValue optionValues allowsText answer with
      | .error error => .error error
      | .ok value =>
        formAnswers questionIds optionValues allowsText
          (Json.insertEntry questionId (.object [("answers", .array [.string value])]) answers)
          rest

/-- The result that a response gives to its server request. -/
def responseResult (interactionId : InteractionId) :
    ResponseMapping → InteractionResponsePayload → Except CodexProviderPortError Value
  | .approval decisions, .approval selection =>
    match decisions[selection.optionId]? with
    | some decision => .ok (.object [("decision", decision)])
    | none => .error (.unknownApprovalOption interactionId selection.optionId)
  | .form questionIds optionValues allowsText, .form form =>
    (formAnswers questionIds optionValues allowsText [] form.answers).map fun answers =>
      .object [("answers", .object answers)]
  | _, _ => .error .unsupportedInteractionResponse

def claim (self : ApprovalRuntimeState) (response : InteractionResponse) :
    Except CodexProviderPortError Unit × ApprovalRuntimeState :=
  match self.pending[response.requestId]? with
  | none => (.error (.interactionNotPending response.requestId), self)
  | some pending =>
    if response.sessionId ≠ pending.sessionId then
      (.error (.sessionMismatch pending.sessionId response.sessionId), self)
    else if pending.status ≠ .awaiting then
      (.error (.interactionAlreadyClaimed response.requestId), self)
    else
      match responseResult response.requestId pending.responseMapping response.payload with
      | .error error => (.error error, self)
      | .ok result =>
        if self.outbound.length ≥ maxPendingApprovals then
          (.error (.outboundQueueFull maxPendingApprovals), self)
        else
          (.ok (),
            { self with
              pending := self.pending.insert response.requestId
                { pending with status := .queued response }
              outbound := self.outbound ++ [
                { route := pending.route
                  interactionId := response.requestId
                  requestId := pending.requestId
                  method := pending.method
                  result := result }] })

/-- The first queued answer of the route leaves the queue. -/
def popOutboundFor (self : ApprovalRuntimeState) (route : ApprovalRoute) :
    Option OutboundApproval × ApprovalRuntimeState :=
  match self.outbound.find? fun outbound => outbound.route == route with
  | none => (none, self)
  | some outbound =>
    (some outbound,
      { self with outbound := self.outbound.eraseP fun outbound => outbound.route == route })

/-- The status of an answered interaction once its answer is written. -/
def sentStatus (response : InteractionResponse) : Sourced PendingStatus :=
  match response.payload with
  | .approval _ => .ok (.sentApproval response)
  | .form _ => .ok .sentForm
  | _ => protocolError "queued interaction changed to an unsupported response type"

def markSent (self : ApprovalRuntimeState) (interactionId : InteractionId) :
    Sourced Unit × ApprovalRuntimeState :=
  match self.pending[interactionId]? with
  | none => (protocolError "queued approval disappeared before write", self)
  | some pending =>
    match pending.status with
    | .queued response =>
      match sentStatus response with
      | .error error => (.error error, self)
      | .ok status =>
        (.ok (),
          { self with
            pending := self.pending.insert interactionId { pending with status := status } })
    | _ => (protocolError "approval was not queued when its response was written", self)

/-- What a resolution by the server means for a pending request. -/
def resolution (interactionId : InteractionId) (pending : PendingApproval) : ResolvedApproval :=
  match pending.status with
  | .sentApproval response => .responded pending.threadId response
  | .sentForm => .respondedForm pending.threadId pending.sessionId interactionId
  | .awaiting | .queued _ => .closed pending.threadId pending.sessionId interactionId

/-- The index and the entry go together; the second lookup of the entry cannot
fail after the first. -/
def resolve (self : ApprovalRuntimeState) (route : ApprovalRoute) (requestId : RequestId)
    (threadId : String) : Sourced (Option ResolvedApproval) × ApprovalRuntimeState :=
  match self.byRequest[(⟨route, requestId⟩ : RequestKey)]? with
  | none => (.ok none, self)
  | some interactionId =>
    match self.pending[interactionId]? with
    | none => (protocolError "approval request index was inconsistent", self)
    | some pending =>
      if pending.threadId ≠ threadId then
        (protocolError "serverRequest/resolved thread did not match the pending approval", self)
      else
        (.ok (some (resolution interactionId pending)),
          { pending := self.pending.erase interactionId
            byRequest := self.byRequest.erase ⟨route, requestId⟩
            outbound := self.outbound.filter fun outbound =>
              outbound.interactionId ≠ interactionId })

/-- Every matching entry leaves, in identifier order, with its queued answers. -/
def closeMatching (self : ApprovalRuntimeState) (matching : PendingApproval → Bool) :
    List ClosedApproval × ApprovalRuntimeState :=
  let found := self.pending.toList.filter fun entry => matching entry.2
  let closed := found.map fun entry =>
    (⟨entry.2.threadId, entry.2.sessionId, entry.1⟩ : ClosedApproval)
  let dropped := (found.map Prod.fst).foldl drop self
  (closed, dropped.retainOutbound fun outbound =>
    !closed.any fun entry => entry.interactionId == outbound.interactionId)

def closeItem (self : ApprovalRuntimeState) (threadId turnId itemId : String) :
    List ClosedApproval × ApprovalRuntimeState :=
  self.closeMatching fun pending =>
    pending.threadId == threadId && pending.turnId == turnId && pending.itemId == itemId

def closeTurn (self : ApprovalRuntimeState) (threadId turnId : String) :
    List ClosedApproval × ApprovalRuntimeState :=
  self.closeMatching fun pending => pending.threadId == threadId && pending.turnId == turnId

def closeThread (self : ApprovalRuntimeState) (threadId : String) :
    List ClosedApproval × ApprovalRuntimeState :=
  self.closeMatching fun pending => pending.threadId == threadId

def closeAll (self : ApprovalRuntimeState) : List ClosedApproval × ApprovalRuntimeState :=
  self.closeMatching fun _ => true

def closeRoute (self : ApprovalRuntimeState) (route : ApprovalRoute) :
    List ClosedApproval × ApprovalRuntimeState :=
  self.closeMatching fun pending => pending.route == route

end ApprovalRuntimeState

/-- One section of a thread that holds the registry. -/
inductive ApprovalOp where
  | register (route : ApprovalRoute) (requestId : RequestId) (method : String)
      (prepared : PreparedApproval)
  | remove (interactionId : InteractionId)
  | claim (response : InteractionResponse)
  | popOutboundFor (route : ApprovalRoute)
  | markSent (interactionId : InteractionId)
  | resolve (route : ApprovalRoute) (requestId : RequestId) (threadId : String)
  | closeItem (threadId turnId itemId : String)
  | closeTurn (threadId turnId : String)
  | closeThread (threadId : String)
  | closeAll
  | closeRoute (route : ApprovalRoute)

namespace ApprovalOp

def apply (self : ApprovalRuntimeState) : ApprovalOp → ApprovalRuntimeState
  | .register route requestId method prepared =>
    (self.register route requestId method prepared).2
  | .remove interactionId => self.remove interactionId
  | .claim response => (self.claim response).2
  | .popOutboundFor route => (self.popOutboundFor route).2
  | .markSent interactionId => (self.markSent interactionId).2
  | .resolve route requestId threadId => (self.resolve route requestId threadId).2
  | .closeItem threadId turnId itemId => (self.closeItem threadId turnId itemId).2
  | .closeTurn threadId turnId => (self.closeTurn threadId turnId).2
  | .closeThread threadId => (self.closeThread threadId).2
  | .closeAll => self.closeAll.2
  | .closeRoute route => (self.closeRoute route).2

/-- What threads other than the one of a route do. Each thread registers, pops
and resolves for its own route, removes and marks only what it registered, and
the observer alone closes everything; lifecycle closes and answers reach every
route. -/
def otherThan (own : ApprovalRoute) (self : ApprovalRuntimeState) : ApprovalOp → Bool
  | .register route _ _ _ | .popOutboundFor route | .resolve route _ _ | .closeRoute route =>
    route ≠ own
  | .remove interactionId | .markSent interactionId =>
    self.pending[interactionId]?.all fun pending => pending.route ≠ own
  | .closeAll => own ≠ .observer
  | .claim _ | .closeItem _ _ _ | .closeTurn _ _ | .closeThread _ => true

end ApprovalOp

end Codex

end AgentPulse
