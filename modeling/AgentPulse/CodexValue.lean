import AgentPulse.CoreDisplay
import AgentPulse.HostRuntime
import AgentPulse.Program
import AgentPulse.Serde

/-!
# JSON values and errors of the Codex provider

The provider reads untyped JSON values that passed the schema of the App Server
protocol. An object is a list of entries, looked up by the first entry of a
name; nothing the provider does depends on the order of the others. A number is
an integer or any other numeral, which is kept as its text.
-/
namespace AgentPulse

namespace Codex

open Serde (Json)

abbrev Value := Json

/-- The failures of a live source. An ingress failure keeps the host's error,
whose text is the message. -/
inductive CodexProviderSourceError where
  | protocol (message : String)
  | transport (message : String)
  | eventIngress (source : ProviderEventIngressError)
  deriving DecidableEq, Repr

/-- The conversion of a domain error by `?`. -/
def CodexProviderSourceError.fromDomain (error : DomainError) : CodexProviderSourceError :=
  .protocol ("domain mapping rejected Codex data: " ++ error.display)

abbrev Sourced (α : Type) := Except CodexProviderSourceError α

/-- `?` on a domain constructor. -/
def domain {α : Type} (x : Except DomainError α) : Sourced α :=
  x.mapError CodexProviderSourceError.fromDomain

def protocolError {α : Type} (message : String) : Sourced α := .error (.protocol message)

def objectField (value : Value) (field : String) : Sourced Value :=
  match value.get field with
  | some entry =>
    if entry.isObject then .ok entry else protocolError s!"{field} must be an object"
  | none => protocolError s!"{field} must be an object"

def stringField (value : Value) (field : String) : Sourced String :=
  match (value.get field).bind Json.asStr with
  | some text => .ok text
  | none => protocolError s!"{field} must be a string"

def i64Field (value : Value) (field : String) : Sourced Int :=
  match (value.get field).bind Json.asI64 with
  | some number => .ok number
  | none => protocolError s!"{field} must be an int64"

def optionalI64Field (value : Value) (field : String) : Sourced (Option Int) :=
  match value.get field with
  | none | some .null => .ok none
  | some entry =>
    match entry.asI64 with
    | some number => .ok (some number)
    | none => protocolError s!"{field} must be an int64 or null"

def optionalString (value : Value) (field : String) : Sourced (Option String) :=
  match value.get field with
  | none | some .null => .ok none
  | some (.string text) => .ok (some text)
  | some _ => protocolError s!"{field} must be a string or null"

/-- A blank text counts as absent. -/
def optionalNonEmptyString (value : Value) (field : String) : Sourced (Option NonEmptyText) :=
  match value.get field with
  | none | some .null => .ok none
  | some (.string text) =>
    if isBlank text then .ok none else (domain (NonEmptyText.new text)).map some
  | some _ => protocolError s!"{field} must be a string or null"

/-- The clock, the identifier generator and the event handle of the process.
`B` is their joint state. -/
structure ProviderHost (B : Type) where
  nowUtc : B → Timestamp × B
  newId (k : IdKind) : B → Ident k × B
  publishEvent : B → AgentEvent → B × Except ProviderEventIngressError ProviderEventReport

end Codex

end AgentPulse
