import AgentPulse.CoreValue

/-!
# Capability sets and endpoint descriptors

A capability set is a sixteen-bit flag word. The flags of both endpoint sides
are numbered as in the source; the word never holds an undeclared bit.
-/
namespace AgentPulse

/-- How many flags the source declares for a side. -/
def ComponentKind.flagCount : ComponentKind → Nat
  | .provider => 11
  | .channel => 12

/-- A set of flags of one side. The unknown bits are clear. -/
structure Capabilities (kind : ComponentKind) where
  bits : BitVec 16
  known : bits.toNat < 2 ^ kind.flagCount
  deriving DecidableEq, Repr

abbrev ProviderCapabilities := Capabilities .provider
abbrev ChannelCapabilities := Capabilities .channel

namespace Capabilities

variable {k : ComponentKind}

/-- All requested capabilities are present. -/
def contains (self other : Capabilities k) : Bool := self.bits &&& other.bits == other.bits

/-- Every flag of either set. -/
def union (self other : Capabilities k) : Capabilities k :=
  ⟨self.bits ||| other.bits, by
    rw [BitVec.toNat_or]
    exact Nat.or_lt_two_pow self.known other.known⟩

end Capabilities

namespace ProviderCapabilities

/-- No capability at all. -/
def none : ProviderCapabilities := ⟨0, by decide⟩
def sessionState : ProviderCapabilities := ⟨1 <<< 0, by decide⟩
def toolEvents : ProviderCapabilities := ⟨1 <<< 1, by decide⟩
def plan : ProviderCapabilities := ⟨1 <<< 2, by decide⟩
def progress : ProviderCapabilities := ⟨1 <<< 3, by decide⟩
def approvalRequest : ProviderCapabilities := ⟨1 <<< 4, by decide⟩
def approvalResponse : ProviderCapabilities := ⟨1 <<< 5, by decide⟩
def userInputRequest : ProviderCapabilities := ⟨1 <<< 6, by decide⟩
def userInputResponse : ProviderCapabilities := ⟨1 <<< 7, by decide⟩
def promptSubmit : ProviderCapabilities := ⟨1 <<< 8, by decide⟩
def cancel : ProviderCapabilities := ⟨1 <<< 9, by decide⟩
def control : ProviderCapabilities := ⟨1 <<< 10, by decide⟩

end ProviderCapabilities

namespace ChannelCapabilities

def none : ChannelCapabilities := ⟨0, by decide⟩
def notification : ChannelCapabilities := ⟨1 <<< 0, by decide⟩
def sessionView : ChannelCapabilities := ⟨1 <<< 1, by decide⟩
def toolView : ChannelCapabilities := ⟨1 <<< 2, by decide⟩
def planView : ChannelCapabilities := ⟨1 <<< 3, by decide⟩
def progressView : ChannelCapabilities := ⟨1 <<< 4, by decide⟩
def richMessage : ChannelCapabilities := ⟨1 <<< 5, by decide⟩
def approval : ChannelCapabilities := ⟨1 <<< 6, by decide⟩
def choiceInput : ChannelCapabilities := ⟨1 <<< 7, by decide⟩
def textInput : ChannelCapabilities := ⟨1 <<< 8, by decide⟩
def formInput : ChannelCapabilities := ⟨1 <<< 9, by decide⟩
def realtimeSync : ChannelCapabilities := ⟨1 <<< 10, by decide⟩
def remoteCommand : ChannelCapabilities := ⟨1 <<< 11, by decide⟩

end ChannelCapabilities

/-- What a provider tells about itself when it registers. -/
structure ProviderDescriptor where
  id : ProviderId
  kind : ProviderKind
  displayName : NonEmptyText
  version : Option NonEmptyText
  capabilities : ProviderCapabilities
  deriving DecidableEq, Repr

/-- What a channel tells about itself when it registers. -/
structure ChannelDescriptor where
  id : ChannelId
  kind : ChannelKind
  displayName : NonEmptyText
  version : Option NonEmptyText
  capabilities : ChannelCapabilities
  deriving DecidableEq, Repr

end AgentPulse
