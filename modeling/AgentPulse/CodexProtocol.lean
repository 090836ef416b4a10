import AgentPulse.CodexApproval

/-!
# The JSON-RPC engine of a connection

Requests get consecutive identifiers, and an incoming frame is a notification, a
server request, or the answer to one pending request. The compiled schemas are
parameters: a validator returns the path of the first violation it finds. A text
read from the socket stands for what the JSON parser makes of it.
-/
namespace AgentPulse

namespace Codex

open Std (ExtTreeMap)
open Program (fail ofExcept reads modify)
open Serde (Json)

inductive ExpectedResponse where
  | initializeResponse | threadResume | modelList | permissionProfileList | threadList
  | threadItemsList | threadStart | threadFork | turnStart | turnSteer | turnInterrupt
  | threadCompact | reviewStart | threadSetName
  deriving DecidableEq, Repr

def ExpectedResponse.method : ExpectedResponse → String
  | .initializeResponse => "initialize"
  | .threadResume => "thread/resume"
  | .modelList => "model/list"
  | .permissionProfileList => "permissionProfile/list"
  | .threadList => "thread/list"
  | .threadItemsList => "thread/items/list"
  | .threadStart => "thread/start"
  | .threadFork => "thread/fork"
  | .turnStart => "turn/start"
  | .turnSteer => "turn/steer"
  | .turnInterrupt => "turn/interrupt"
  | .threadCompact => "thread/compact/start"
  | .reviewStart => "review/start"
  | .threadSetName => "thread/name/set"

/-- The path of the first violation, or none for a valid value. -/
abbrev Validator := Value → Option String

/-- `empty_response` is the schema of three of the answers. -/
structure ProtocolSchema where
  clientRequest : Validator
  serverNotification : Validator
  serverRequest : Validator
  jsonrpcResponse : Validator
  jsonrpcError : Validator
  response : ExpectedResponse → Validator
  commandApprovalResponse : Validator
  fileApprovalResponse : Validator
  userInputResponse : Validator

inductive ServerFrame where
  | notification (method : String) (params : Value)
  | request (id : RequestId) (method : String) (params : Value)
  | response (id : RequestId) (expected : ExpectedResponse) (result : Value)
  | error (id : RequestId) (expected : ExpectedResponse) (code : Int) (message : String)

/-- What a proxied connection sees of a frame that is forwarded anyway. -/
inductive ObservedServerFrame where
  | notification (method : String) (params : Value)
  | request (id : RequestId) (method : String) (params : Value)
  | passThrough

/-- The requests without an answer and the next identifier, an `i64` in the source: no run
makes the 2^63 requests after which it would overflow. -/
structure ProtocolEngine where
  pending : ExtTreeMap RequestId ExpectedResponse
  nextRequestId : Int

def validate (validator : Validator) (value : Value) (category : String) : Sourced Unit :=
  match validator value with
  | some path => protocolError s!"schema rejected {category} at {path}"
  | none => .ok ()

/-- The JSON value of a text, or the place where its syntax fails. -/
abbrev ParsedText := Except (Nat × Nat) Value

def parsedValue : ParsedText → Sourced Value
  | .ok value => .ok value
  | .error (line, column) => protocolError s!"invalid JSON at line {line}, column {column}"

namespace ProtocolEngine

def new : ProtocolEngine := ⟨∅, 1⟩

def cancelPending (self : ProtocolEngine) (id : RequestId) : ProtocolEngine :=
  { self with pending := self.pending.erase id }

def allocate (self : ProtocolEngine) (expected : ExpectedResponse) : RequestId × ProtocolEngine :=
  let id := RequestId.number self.nextRequestId
  (id, { pending := self.pending.insert id expected, nextRequestId := self.nextRequestId + 1 })

def requestValue (id : RequestId) (expected : ExpectedResponse) (params : Value) : Value :=
  .object [("id", id.intoValue), ("method", .string expected.method), ("params", params)]

/-- A request that its schema rejects is not pending. -/
def request (schema : ProtocolSchema) (self : ProtocolEngine) (expected : ExpectedResponse)
    (params : Value) : Sourced (RequestId × Value) × ProtocolEngine :=
  let (id, allocated) := self.allocate expected
  let value := requestValue id expected params
  match validate schema.clientRequest value "client request" with
  | .error error => (.error error, allocated.cancelPending id)
  | .ok () => (.ok (id, value), allocated)

def unsupportedRequestResponse (schema : ProtocolSchema) (id : RequestId) (method : String) :
    Sourced Value := do
  let value := Json.object [("id", id.intoValue),
    ("error", .object [("code", .int (-32601)),
      ("message", .string s!"AgentPulse does not implement {method}")])]
  validate schema.jsonrpcError value "client error response"
  .ok value

def interactionValidator (schema : ProtocolSchema) (method : String) : Sourced Validator :=
  if method = "item/commandExecution/requestApproval" then .ok schema.commandApprovalResponse
  else if method = "item/fileChange/requestApproval" then .ok schema.fileApprovalResponse
  else if method = "item/tool/requestUserInput" then .ok schema.userInputResponse
  else protocolError s!"cannot encode a response for unsupported interaction method {method}"

def interactionResponse (schema : ProtocolSchema) (id : RequestId) (method : String)
    (result : Value) : Sourced Value := do
  let validator ← interactionValidator schema method
  validate validator result "interaction response result"
  let value := Json.object [("id", id.intoValue), ("result", result)]
  validate schema.jsonrpcResponse value "client approval response"
  .ok value

/-- The parts of a method frame, which carries neither a result nor an error. -/
def methodFrame (value : Value) : Sourced (String × Value) :=
  if (value.get "result").isSome ∨ (value.get "error").isSome then
    protocolError "method frame cannot also contain result or error"
  else
    match (value.get "method").bind Json.asStr with
    | none => protocolError "method must be a string"
    | some method => .ok (method, value.index "params")

/-- A successful answer, checked against the schema of what was asked. -/
def responseFrame (schema : ProtocolSchema) (id : RequestId) (expected : ExpectedResponse)
    (value : Value) : Sourced ServerFrame := do
  validate schema.jsonrpcResponse value "server response"
  match value.get "result" with
  | none => protocolError "successful response has no result"
  | some result =>
    validate (schema.response expected) result expected.method
    .ok (.response id expected result)

/-- The message is cut after 512 characters. -/
def errorFrame (schema : ProtocolSchema) (id : RequestId) (expected : ExpectedResponse)
    (value : Value) : Sourced ServerFrame := do
  validate schema.jsonrpcError value "server error response"
  let error := value.index "error"
  if !error.isObject then protocolError "error response has no error object"
  else
    match (error.get "code").bind Json.asI64 with
    | none => protocolError "error response code must be an int64"
    | some code =>
      match (error.get "message").bind Json.asStr with
      | none => protocolError "error response message must be a string"
      | some message => .ok (.error id expected code (String.ofList (message.toList.take 512)))

/-- An answer takes its request off the pending ones before it is validated. -/
def parseServerValue (schema : ProtocolSchema) (value : Value) :
    Program ProtocolEngine CodexProviderSourceError ServerFrame :=
  if !value.isObject then fail (.protocol "protocol frame must be a JSON object")
  else if (value.get "method").isSome then do
    let (method, params) ← ofExcept (methodFrame value)
    if (value.get "id").isSome then do
      ofExcept (validate schema.serverRequest value "server request")
      let id ← ofExcept (RequestId.fromValue (value.index "id"))
      pure (.request id method params)
    else do
      ofExcept (validate schema.serverNotification value "server notification")
      pure (.notification method params)
  else if (value.get "id").isSome ∧ (value.get "result").isSome ≠ (value.get "error").isSome then do
    let id ← ofExcept (RequestId.fromValue (value.index "id"))
    match ← reads fun engine => engine.pending[id]? with
    | none => fail (.protocol "response ID does not match a pending request")
    | some expected =>
      modify fun engine => engine.cancelPending id
      if (value.get "result").isSome then ofExcept (responseFrame schema id expected value)
      else ofExcept (errorFrame schema id expected value)
  else
    fail (.protocol "frame is not one unambiguous request, notification, response, or error")

def parseServerText (schema : ProtocolSchema) (text : ParsedText) :
    Program ProtocolEngine CodexProviderSourceError ServerFrame := do
  let value ← ofExcept (parsedValue text)
  parseServerValue schema value

/-- The same reading for a frame that is only observed: no request is pending here. -/
def parseObservedServerText (schema : ProtocolSchema) (text : ParsedText) :
    Sourced ObservedServerFrame := do
  let value ← parsedValue text
  if !value.isObject then protocolError "protocol frame must be a JSON object"
  else if (value.get "method").isSome then do
    let (method, params) ← methodFrame value
    if (value.get "id").isSome then do
      validate schema.serverRequest value "server request"
      let id ← RequestId.fromValue (value.index "id")
      .ok (.request id method params)
    else do
      validate schema.serverNotification value "server notification"
      .ok (.notification method params)
  else if (value.get "id").isSome ∧ (value.get "result").isSome ≠ (value.get "error").isSome then do
    if (value.get "result").isSome then validate schema.jsonrpcResponse value "server response"
    else validate schema.jsonrpcError value "server error response"
    .ok .passThrough
  else
    protocolError "frame is not one unambiguous request, notification, response, or error"

end ProtocolEngine

end Codex

end AgentPulse
