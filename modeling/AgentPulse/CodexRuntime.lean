import AgentPulse.CodexPresent
import AgentPulse.CodexProtocol
import AgentPulse.Interference

/-!
# The observer worker: control commands

The worker shares the mapper, the control state and the registry of approvals
with the threads of the proxied connections and of the channels. Its functions
are programs whose lock sections interleave with their steps. The log keeps
what the statements about runs speak of; nothing reads it.
-/
namespace AgentPulse

namespace Codex

open Std (ExtTreeMap)
open Program (fail ofExcept reads modify update forEach when)
open Serde (Json)

/-- What the answer to a request of the worker is for. -/
inductive PendingControl where
  | observeThread (sessionId : SessionId) (threadId : String)
  | models (sessionId : SessionId) (models : List Value) (cursors : List String)
  | implementPlan (sessionId : SessionId) (threadId : String)
  | report (sessionId : SessionId)
  | selectModel (sessionId : SessionId) (model : String) (effort : Option String)
      (models : List Value) (cursors : List String)
  | resumeThread (sourceSessionId : SessionId)
  | startThread
  | forkThread
  | turnStart (sessionId : SessionId) (threadId : String) (prompt : QueuedPrompt)
  | silent (sessionId : SessionId)
  | historyItems (sessionId : SessionId) (threadId : String)

/-- What happened, in order. -/
inductive Record where
  /-- Another thread emptied the prompt queue of a session. -/
  | cleared (sessionId : SessionId)
  /-- Another thread took interactions off the registry. -/
  | lost (interactionIds : List InteractionId)
  /-- The worker took a command from the queue. -/
  | taken (command : AgentCommand)
  /-- The mark of a turn in flight was dropped by sampling the mapper. -/
  | released (sessionId : SessionId)
  /-- The front prompt was read in order to send it. -/
  | picked (sessionId : SessionId) (prompt : QueuedPrompt)
  /-- The settings under which a prompt is going to be sent. -/
  | dispatched (sessionId : SessionId) (defaults : TurnDefaults)
      (settings : Option (String × Option String))
  /-- A turn/start request with a queued prompt was written. -/
  | started (sessionId : SessionId) (prompt : QueuedPrompt)
  /-- A turn/start request that implements a plan was written. -/
  | implementing (sessionId : SessionId)
  /-- The turn/start of a prompt was answered with success, and a prompt left the queue. -/
  | completed (sessionId : SessionId) (prompt : QueuedPrompt) (removed : Option QueuedPrompt)
  /-- The turn/start of a prompt was answered with an error. -/
  | rejected (sessionId : SessionId) (prompt : QueuedPrompt)
  /-- The turn/start of a plan was answered. -/
  | implemented (sessionId : SessionId)
  /-- The publication of a closed interaction is attempted. -/
  | closing (interactionId : InteractionId)
  /-- A queued answer was taken in order to write it. -/
  | popped (interactionId : InteractionId)
  /-- The interaction of a written answer was marked. -/
  | marked (interactionId : InteractionId)
  deriving DecidableEq, Repr

/-- The shared state, what belongs to the worker alone, and the outcomes of its
next writes; writes beyond these succeed. -/
structure Worker (B : Type) where
  mapping : MapperState B
  controls : ControlRuntimeState
  approvals : ApprovalRuntimeState
  protocol : ProtocolEngine
  pending : ExtTreeMap RequestId PendingControl
  writes : List (Except String Unit)
  log : List Record

/-- Why a program ends without a result: an error of the source, or a loop that
has not ended within the given number of rounds. -/
inductive Halt where
  | source (error : CodexProviderSourceError)
  | unfinished
  deriving DecidableEq, Repr

/-- A section of another thread: a channel that hands in a command or a response,
a proxied connection at the mapper or the registry, or anything that moves the
host. -/
inductive Foreign (B : Type) where
  | accept (command : AgentCommand)
  | claimLocal (response : InteractionResponse)
  | mapping (op : MapperOp)
  | approval (op : ApprovalOp)
  | host (f : B → B)

namespace Worker

variable {B : Type} (host : ProviderHost B) (route : ApprovalRoute)

def record (self : Worker B) (entry : Record) : Worker B := { self with log := self.log ++ [entry] }

def clearedSession (command : AgentCommand) : Option SessionId :=
  match command.payload with
  | .queue .clear => some command.sessionId
  | _ => none

def accept (self : Worker B) (command : AgentCommand) : Worker B :=
  let accepted := { self with controls := (self.controls.accept command).2 }
  match clearedSession command with
  | some sessionId => accepted.record (.cleared sessionId)
  | none => accepted

/-- The interactions that are pending before and no more after. -/
def removedBetween (before after : ApprovalRuntimeState) : List InteractionId :=
  before.pending.keys.filter fun id => !after.pending.contains id

/-- A step at the registry that no other thread takes has no effect. -/
def approval (self : Worker B) (op : ApprovalOp) : Worker B :=
  if op.otherThan route self.approvals then
    let approvals := op.apply self.approvals
    { self with approvals := approvals }.record (.lost (removedBetween self.approvals approvals))
  else self

def foreign (step : Foreign B) (self : Worker B) : Worker B :=
  match step with
  | .accept command => self.accept command
  | .claimLocal response => { self with controls := (self.controls.claimLocal response).2 }
  | .mapping op => { self with mapping := (self.mapping.step host op).1 }
  | .approval op => self.approval route op
  | .host f => { self with mapping := { self.mapping with host := f self.mapping.host } }

end Worker

abbrev Work (B α : Type) := Program (Interleaved (Worker B) (Foreign B)) Halt α

namespace Work

variable {B α : Type} (host : ProviderHost B) (route : ApprovalRoute)

def ofSourced (x : Sourced α) : Work B α := ofExcept (x.mapError Halt.source)

/-- One lock section. -/
def locked (x : Program (Worker B) Halt α) : Work B α :=
  Interleaved.atomically (Worker.foreign host route) x

def alone (x : Program (Worker B) Halt α) : Work B α := Interleaved.locally x

def note (entry : Record) : Work B Unit := alone (modify fun w => w.record entry)

/-- A part of the worker's state and its failures as those of the worker. -/
def part {τ : Type} (view : Worker B → τ) (put : Worker B → τ → Worker B)
    (x : Program τ CodexProviderSourceError α) : Program (Worker B) Halt α :=
  fun w => ((x (view w)).1.mapError Halt.source, put w (x (view w)).2)

def onMapping (x : Mapping B α) : Work B α :=
  locked host route (part Worker.mapping (fun w mapping => { w with mapping := mapping }) x)

def readMapper (f : CodexEventMapper → α) : Work B α := onMapping host route (reads fun s => f s.mapper)

def onMapper (f : CodexEventMapper → CodexEventMapper) : Work B Unit :=
  onMapping host route (Mapping.onMapper f)

/-- Identifiers and instants drawn outside of every lock. -/
def onHost (x : Hosting B α) : Work B α :=
  locked host route (part (fun w => w.mapping.host)
    (fun w b => { w with mapping := { w.mapping with host := b } }) x)

def onControls (f : ControlRuntimeState → α × ControlRuntimeState) : Work B α :=
  locked host route (update fun w => ((f w.controls).1, { w with controls := (f w.controls).2 }))

def readControls (f : ControlRuntimeState → α) : Work B α :=
  locked host route (reads fun w => f w.controls)

def editControls (f : ControlRuntimeState → ControlRuntimeState) : Work B Unit :=
  locked host route (modify fun w => { w with controls := f w.controls })

def onApprovals (f : ApprovalRuntimeState → Sourced α × ApprovalRuntimeState) : Work B α :=
  locked host route
    (part Worker.approvals (fun w approvals => { w with approvals := approvals }) f)

def onProtocol (x : Program ProtocolEngine CodexProviderSourceError α) : Work B α :=
  alone (part Worker.protocol (fun w protocol => { w with protocol := protocol }) x)

def nextWrite : Program (Worker B) Halt (Except String Unit) :=
  update fun w => (w.writes.headD (.ok ()), { w with writes := w.writes.tail })

/-- `io.write_text`. The frame itself has no further effect here. -/
def writeText (_frame : Value) : Work B Unit := do
  match ← alone nextWrite with
  | .ok () => pure ()
  | .error message => fail (.source (.transport message))

/-- A request that is not written is not pending. -/
def sendControlRequest (schema : ProtocolSchema) (expected : ExpectedResponse) (params : Value)
    (kind : PendingControl) : Work B Unit := do
  let (id, request) ← onProtocol fun engine => engine.request schema expected params
  match ← Program.attempt (writeText request) with
  | .error error =>
    onProtocol (modify fun engine => engine.cancelPending id)
    fail error
  | .ok () => alone (modify fun w => { w with pending := w.pending.insert id kind })

def message (role : AgentMessageRole) (threadId text : String) : Mapping B Unit := do
  let now ← Mapping.nowUtc host
  let content ← ofExcept (domain (NonEmptyText.new text))
  Mapping.publishPayload host threadId now (.message ⟨role, .info, content⟩)

def publishUserMessage (threadId text : String) : Work B Unit :=
  onMapping host route (message host .user threadId text)

/-- Thread, running turn and state of a session. -/
abbrev Context := Option (String × Option String × AgentState)

/-- A session without a thread hears nothing. -/
def publishSystemForSession (context : Context) (text : String) : Work B Unit :=
  match context with
  | none => pure ()
  | some (threadId, _, _) => onMapping host route (message host .system threadId text)

def commandContext (sessionId : SessionId) : Work B Context :=
  readMapper host route fun m => m.commandContext sessionId

def dismissPlan (threadId : String) : Work B Unit :=
  onMapping host route (Mapping.dismissPlan host threadId)

def report (sessionId : SessionId) (text : String) : Work B Unit := do
  let context ← commandContext host route sessionId
  publishSystemForSession host route context text

end Work

def textInput (text : String) : Value := .object [("type", .string "text"), ("text", .string text)]

def turnInput (text : String) : Value := .array [textInput text]

def optionalText (text : Option String) : Value :=
  match text with
  | some text => .string text
  | none => .null

def sandboxPolicy (profile : String) : Option Value :=
  if profile = "read-only" ∨ profile = "read_only" then
    some (.object [("type", .string "readOnly")])
  else if profile = "workspace-write" ∨ profile = "workspace_write" then
    some (.object [("type", .string "workspaceWrite")])
  else if profile = "danger-full-access" ∨ profile = "danger_full_access" then
    some (.object [("type", .string "dangerFullAccess")])
  else none

def insertSome (params : Value) (field : String) (value : Option Value) : Value :=
  match value with
  | some value => params.insert field value
  | none => params

def effectiveModel (defaults : TurnDefaults) (settings : Option (String × Option String)) :
    Option String :=
  defaults.model.or (settings.map Prod.fst)

def effectiveEffort (defaults : TurnDefaults) (settings : Option (String × Option String)) :
    Option String :=
  defaults.effort.or (settings.bind Prod.snd)

def collaborationMode (defaults : TurnDefaults) (settings : Option (String × Option String))
    (model : String) : Value :=
  .object [("mode", .string (if defaults.planMode then "plan" else "default")),
    ("settings", .object [("model", .string model),
      ("reasoning_effort", optionalText (effectiveEffort defaults settings)),
      ("developer_instructions", .null)])]

def applyTurnDefaults (params : Value) (defaults : TurnDefaults)
    (settings : Option (String × Option String)) : Sourced Value :=
  if !params.isObject then protocolError "turn/start params must be an object"
  else
    let params := insertSome params "model" (defaults.model.map Json.string)
    let params := insertSome params "effort" (defaults.effort.map Json.string)
    let model := effectiveModel defaults settings
    if defaults.planMode ∧ model.isNone then
      protocolError "cannot start a Plan turn before Codex reports the thread model"
    else
      let params := insertSome params "collaborationMode"
        (model.map (collaborationMode defaults settings))
      .ok (insertSome params "sandboxPolicy" (defaults.permissionProfile.bind sandboxPolicy))

def applyThreadDefaults (params : Value) (defaults : TurnDefaults) : Value :=
  insertSome params "model" (defaults.model.map Json.string)

def turnParams (threadId text : String) : Value :=
  .object [("threadId", .string threadId), ("input", turnInput text)]

def pageLimit : Value := .object [("limit", .int 50)]

end Codex

end AgentPulse
