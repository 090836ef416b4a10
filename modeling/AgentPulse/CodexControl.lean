import AgentPulse.CodexMapper

/-!
# Commands, prompts and host-owned choices

The bounded state that channels write and the observer worker empties: the
command queue, one prompt queue per session with its defaults, the marks of
turns in flight, and the choices the host itself offers. Every accepted prompt
carries the number of its acceptance. The number is history: no operation
reads it, and only the statements about runs compare it.
-/
namespace AgentPulse

namespace Codex

open Std (ExtTreeMap ExtTreeSet)
open Program (ofExcept update forEach)

def maxCommands : Nat := 64
def maxPromptsPerSession : Nat := 32
def maxPromptBytes : Nat := 64 * 1024
def maxQueuedPromptBytes : Nat := 1024 * 1024

/-- Why a command or a response is not taken. -/
inductive CodexProviderPortError where
  | interactionNotPending (interactionId : InteractionId)
  | sessionMismatch (expected actual : SessionId)
  | interactionAlreadyClaimed (interactionId : InteractionId)
  | unsupportedInteractionResponse
  | unknownApprovalOption (interactionId : InteractionId) (optionId : ApprovalOptionId)
  | outboundQueueFull (capacity : Nat)
  | promptTooLarge (bytes maximum : Nat)
  | promptQueueFull (capacity : Nat)
  | commandQueueFull (capacity : Nat)
  deriving DecidableEq, Repr

/-- What the selection of an option does. -/
inductive LocalAction where
  | implement
  | revise
  | model (entry : Value)
  | selectModel (model : String) (effort : Option String)
  | models
  | cancel
  deriving Repr

structure LocalChoice where
  request : InteractionRequest
  threadId : String
  plan : Bool
  actions : ExtTreeMap ChoiceOptionId LocalAction
  claimed : Bool

/-- Programs that only draw on the host's clock and identifiers. -/
abbrev Hosting (B α : Type) := Program B CodexProviderSourceError α

namespace Hosting

variable {B : Type} (host : ProviderHost B)

def nowUtc : Hosting B Timestamp := update host.nowUtc

def newId (k : IdKind) : Hosting B (Ident k) := update (host.newId k)

/-- One offered option: its identifier is drawn before its texts are read. -/
def choiceOption (label : String) (description : Option String) : Hosting B ChoiceOption := do
  let id ← newId host .choiceOption
  let labelText ← ofExcept (domain (NonEmptyText.new label))
  match description.filter fun text => !isBlank text with
  | none => pure ⟨id, labelText, none⟩
  | some shown =>
    let descriptionText ← ofExcept (domain (NonEmptyText.new shown))
    pure ⟨id, labelText, some descriptionText⟩

/-- The offered options in order, with the action of each. -/
def choiceOptions : List (String × Option String × LocalAction) →
    Hosting B (List ChoiceOption × List (ChoiceOptionId × LocalAction))
  | [] => pure ([], [])
  | (label, description, action) :: rest => do
    let choice ← choiceOption host label description
    let (choices, actions) ← choiceOptions rest
    pure (choice :: choices, (choice.id, action) :: actions)

/-- `LocalChoice::new`: a form of one field whose options are all offered. -/
def localChoice (sessionId : SessionId) (threadId title prompt : String) (plan : Bool)
    (options : List (String × Option String × LocalAction)) : Hosting B LocalChoice := do
  let (choices, actions) ← choiceOptions host options
  let fieldId ← newId host .formField
  let titleText ← ofExcept (domain (NonEmptyText.new title))
  let promptText ← ofExcept (domain (NonEmptyText.new prompt))
  let field ← ofExcept (domain (FormField.new fieldId titleText promptText choices false false))
  let id ← newId host .interaction
  let now ← nowUtc host
  let form ← ofExcept (domain (FormRequest.new [field] plan))
  pure
    { request := .new id sessionId now titleText (.form form)
      threadId := threadId
      plan := plan
      actions := actions.foldl (fun m entry => m.insert entry.1 entry.2) ∅
      claimed := false }

end Hosting

structure LocalInteractions where
  pending : ExtTreeMap InteractionId LocalChoice
  responses : List (InteractionResponse × LocalAction)

namespace LocalInteractions

def new : LocalInteractions := ⟨∅, []⟩

/-- The action that a response to a choice selects. -/
def selectedAction (choice : LocalChoice) (response : InteractionResponse) :
    Except CodexProviderPortError LocalAction :=
  match choice.request.validateResponse response with
  | .error _ => .error .unsupportedInteractionResponse
  | .ok () =>
    match response.payload with
    | .form form =>
      match form.answers.head? with
      | some ⟨_, .choice option⟩ =>
        match choice.actions[option]? with
        | some action => .ok action
        | none => .error .unsupportedInteractionResponse
      | _ => .error .unsupportedInteractionResponse
    | _ => .error .unsupportedInteractionResponse

def claim (self : LocalInteractions) (response : InteractionResponse) :
    Except CodexProviderPortError Unit × LocalInteractions :=
  match self.pending[response.requestId]? with
  | none => (.error (.interactionNotPending response.requestId), self)
  | some choice =>
    if choice.claimed then (.error (.interactionAlreadyClaimed response.requestId), self)
    else
      match selectedAction choice response with
      | .error error => (.error error, self)
      | .ok action =>
        (.ok (),
          { pending := self.pending.insert response.requestId { choice with claimed := true }
            responses := self.responses ++ [(response, action)] })

end LocalInteractions

structure TurnDefaults where
  model : Option String
  effort : Option String
  planMode : Bool
  permissionProfile : Option String
  deriving DecidableEq, Repr

def TurnDefaults.default : TurnDefaults := ⟨none, none, false, none⟩

/-- A prompt with the number of its acceptance. -/
structure QueuedPrompt where
  number : Nat
  text : NonEmptyText
  deriving DecidableEq, Repr

structure PromptQueue where
  paused : Bool
  bytes : Nat
  prompts : List QueuedPrompt
  deriving DecidableEq, Repr

def PromptQueue.new : PromptQueue := ⟨false, 0, []⟩

/-- `accepted` counts the prompts that were ever queued. -/
structure ControlRuntimeState where
  localInteractions : LocalInteractions
  reviseRequested : ExtTreeSet SessionId
  commands : List AgentCommand
  prompts : ExtTreeMap SessionId PromptQueue
  defaultsOf : ExtTreeMap SessionId TurnDefaults
  inflightTurns : ExtTreeMap SessionId Bool
  accepted : Nat

namespace ControlRuntimeState

def new : ControlRuntimeState where
  localInteractions := .new
  reviseRequested := ∅
  commands := []
  prompts := ∅
  defaultsOf := ∅
  inflightTurns := ∅
  accepted := 0

/-- `self.prompts.entry(session_id).or_insert_with(PromptQueue::new)`. -/
def queue (self : ControlRuntimeState) (sessionId : SessionId) : PromptQueue :=
  (self.prompts[sessionId]?).getD .new

def setQueue (self : ControlRuntimeState) (sessionId : SessionId) (queue : PromptQueue) :
    ControlRuntimeState :=
  { self with prompts := self.prompts.insert sessionId queue }

def push (self : ControlRuntimeState) (command : AgentCommand) :
    Except CodexProviderPortError Unit × ControlRuntimeState :=
  if self.commands.length ≥ maxCommands then (.error (.commandQueueFull maxCommands), self)
  else (.ok (), { self with commands := self.commands ++ [command] })

def totalBytes (self : ControlRuntimeState) : Nat :=
  ((OrderedMap.values self.prompts).map PromptQueue.bytes).sum

/-- A plan of the session is waiting for a decision. -/
def offersPlan (self : ControlRuntimeState) (sessionId : SessionId) : Bool :=
  (OrderedMap.values self.localInteractions.pending).any fun choice =>
    choice.plan && choice.request.sessionId == sessionId

/-- A queued prompt. The limits are checked before the prompt is stored, the
entry of the session is created before they are. -/
def acceptPrompt (self : ControlRuntimeState) (sessionId : SessionId) (text : NonEmptyText) :
    Except CodexProviderPortError Unit × ControlRuntimeState :=
  let bytes := text.asStr.utf8ByteSize
  if bytes > maxPromptBytes then (.error (.promptTooLarge bytes maxPromptBytes), self)
  else
    let queue := self.queue sessionId
    if queue.prompts.length ≥ maxPromptsPerSession ∨
        self.totalBytes + bytes > maxQueuedPromptBytes then
      (.error (.promptQueueFull maxPromptsPerSession), self.setQueue sessionId queue)
    else
      let stored := self.setQueue sessionId
        { queue with
          bytes := queue.bytes + bytes
          prompts := queue.prompts ++ [⟨self.accepted, text⟩] }
      (.ok (),
        { stored with
          accepted := self.accepted + 1
          reviseRequested :=
            if self.offersPlan sessionId then self.reviseRequested.insert sessionId
            else self.reviseRequested })

def editQueue (queue : PromptQueue) : QueueAction → PromptQueue
  | .pause => { queue with paused := true }
  | .resume => { queue with paused := false }
  | .clear => { queue with bytes := 0, prompts := [] }

def pausePrompts (self : ControlRuntimeState) (sessionId : SessionId) : ControlRuntimeState :=
  self.setQueue sessionId { self.queue sessionId with paused := true }

/-- Queue edits take effect before the command itself is queued, and stay when
that fails. -/
def accept (self : ControlRuntimeState) (command : AgentCommand) :
    Except CodexProviderPortError Unit × ControlRuntimeState :=
  match command.payload with
  | .submitPrompt text .queue => self.acceptPrompt command.sessionId text
  | .queue action =>
    (self.setQueue command.sessionId (editQueue (self.queue command.sessionId) action)).push command
  | .cancelSession _ => (self.pausePrompts command.sessionId).push command
  | _ => self.push command

def popCommand (self : ControlRuntimeState) : Option AgentCommand × ControlRuntimeState :=
  match self.commands with
  | [] => (none, self)
  | command :: rest => (some command, { self with commands := rest })

/-- The sessions whose front prompt may be sent, in session order. -/
def queuedSessions (self : ControlRuntimeState) : List SessionId :=
  (self.prompts.toList.filter fun (sessionId, queue) =>
    !queue.paused && !queue.prompts.isEmpty && !self.inflightTurns.contains sessionId).map Prod.fst

def frontPrompt (self : ControlRuntimeState) (sessionId : SessionId) : Option QueuedPrompt :=
  self.prompts[sessionId]?.bind fun queue => queue.prompts.head?

def popPrompt (self : ControlRuntimeState) (sessionId : SessionId) :
    Option QueuedPrompt × ControlRuntimeState :=
  match self.prompts[sessionId]? with
  | none => (none, self)
  | some queue =>
    match queue.prompts with
    | [] => (none, self)
    | prompt :: rest =>
      (some prompt,
        self.setQueue sessionId
          { queue with
            bytes := queue.bytes - prompt.text.asStr.utf8ByteSize
            prompts := rest })

def markTurnInflight (self : ControlRuntimeState) (sessionId : SessionId) : ControlRuntimeState :=
  { self with inflightTurns := self.inflightTurns.insert sessionId false }

def inflightSessions (self : ControlRuntimeState) : List SessionId := self.inflightTurns.keys

/-- The mark is dropped once the turn was seen active and is active no more. -/
def observeTurn (self : ControlRuntimeState) (sessionId : SessionId) (active : Bool) :
    ControlRuntimeState :=
  match self.inflightTurns[sessionId]? with
  | none => self
  | some observedActive =>
    if active then { self with inflightTurns := self.inflightTurns.insert sessionId true }
    else if observedActive then { self with inflightTurns := self.inflightTurns.erase sessionId }
    else self

def clearTurnInflight (self : ControlRuntimeState) (sessionId : SessionId) : ControlRuntimeState :=
  { self with inflightTurns := self.inflightTurns.erase sessionId }

def clearAllInflight (self : ControlRuntimeState) : ControlRuntimeState :=
  { self with inflightTurns := ∅ }

def defaults (self : ControlRuntimeState) (sessionId : SessionId) : TurnDefaults :=
  (self.defaultsOf[sessionId]?).getD .default

/-- An assignment through `defaults_mut`. -/
def updateDefaults (self : ControlRuntimeState) (sessionId : SessionId)
    (f : TurnDefaults → TurnDefaults) : ControlRuntimeState :=
  { self with defaultsOf := self.defaultsOf.insert sessionId (f (self.defaults sessionId)) }

def queueSummary (self : ControlRuntimeState) (sessionId : SessionId) : Nat × Nat × Bool :=
  match self.prompts[sessionId]? with
  | some queue => (queue.prompts.length, queue.bytes, queue.paused)
  | none => (0, 0, false)

/-- `controls.local.claim`. -/
def claimLocal (self : ControlRuntimeState) (response : InteractionResponse) :
    Except CodexProviderPortError Unit × ControlRuntimeState :=
  let (result, localInteractions) := self.localInteractions.claim response
  (result, { self with localInteractions := localInteractions })

/-- An update of the choices the host offers. -/
def updateLocal (self : ControlRuntimeState) (f : LocalInteractions → LocalInteractions) :
    ControlRuntimeState :=
  { self with localInteractions := f self.localInteractions }

end ControlRuntimeState

end Codex

end AgentPulse
