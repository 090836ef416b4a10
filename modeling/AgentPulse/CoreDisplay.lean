import AgentPulse.CoreValue

/-!
# The texts of domain errors
-/
namespace AgentPulse

/-- The text of a domain error. -/
def DomainError.display : DomainError → String
  | .blankText field => s!"{field} must not be blank"
  | .invalidKind field value =>
    field ++ " must be a lowercase ASCII slug, got \x60" ++ value ++ "\x60"
  | .invalidId entity value => "invalid " ++ entity ++ " UUIDv7: \x60" ++ value ++ "\x60"
  | .invalidTimestamp value => s!"invalid Unix timestamp in nanoseconds: {value}"
  | .zeroValue field => s!"{field} must be greater than zero"
  | .invalidTimeOrder earlierField laterField =>
    s!"{laterField} must not be earlier than {earlierField}"
  | .emptyCollection field => s!"{field} must contain at least one item"
  | .duplicateId field value => s!"duplicate identifier in {field}: {value}"
  | .duplicateValue field value => s!"duplicate value in {field}: {value}"
  | .invalidProgress completed total => s!"completed progress {completed} exceeds total {total}"
  | .invalidChoiceSelection reason => s!"invalid choice selection: {reason}"
  | .correlationMismatch field expected actual =>
    s!"{field} mismatch: expected {expected}, got {actual}"
  | .interactionTypeMismatch => "interaction response type does not match its request"
  | .interactionExpired => "interaction response was produced after the request expired"
  | .approvalUnavailable => "approval request is unavailable for response"
  | .unknownApprovalOption option => s!"approval option is not present in the request: {option}"
  | .unknownChoiceOption option => s!"choice option is not present in the request: {option}"

end AgentPulse
