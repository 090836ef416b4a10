import AgentPulse.CodexMapper
import AgentPulse.BridgeAction

/-!
# The mapper over a shared bridge

The host of a mapper whose handle publishes into a bridge that others use as
well. What the others do between two publications, and whether the handle is
let in, is written down in advance, so that a run over such a host stands for
every mix of accepted, committed but undelivered, and refused publications.
-/
namespace AgentPulse

namespace Codex

variable {World : Type}

/-- Whether the handle lets a publication in. -/
inductive Admission where
  | admitted | inactive | hostDropped | bridgeAccess
  deriving DecidableEq, Repr

/-- What happens at one publication: the others come first, then the handle is tried. -/
structure Arrival where
  others : List BridgeOp
  admission : Admission

/-- A bridge with the publications to come; when none is listed, the handle is let in at once. -/
structure Hosted (World : Type) where
  bridge : Bridge World
  arrivals : List Arrival
  drawn : Nat

namespace Hosted

def arrival (self : Hosted World) : Arrival := self.arrivals.head?.getD ⟨[], .admitted⟩

/-- The bridge that a publication meets. -/
def met (ports : Ports World) (self : Hosted World) : Bridge World :=
  Trace.final (Bridge.step ports) self.bridge self.arrival.others

def withBridge (self : Hosted World) (bridge : Bridge World) : Hosted World :=
  { self with bridge := bridge, arrivals := self.arrivals.tail }

/-- `ProviderEventHandle::publish_event` of the provider. -/
def publishEvent (ports : Ports World) (providerId : ProviderId) (self : Hosted World)
    (event : AgentEvent) : Hosted World × Except ProviderEventIngressError ProviderEventReport :=
  match self.arrival.admission with
  | .inactive => (self.withBridge (self.met ports), .error (.inactive providerId))
  | .hostDropped => (self.withBridge (self.met ports), .error (.hostDropped providerId))
  | .bridgeAccess => (self.withBridge (self.met ports), .error .bridgeAccess)
  | .admitted =>
    match (self.met ports).handleProviderEvent ports providerId event with
    | (bridge, .ok report) => (self.withBridge bridge, .ok report)
    | (bridge, .error error) => (self.withBridge bridge, .error (.bridge error))

end Hosted

/-- The host of the provider: a clock and a generator of identifiers, read by how often
they were asked, and the bridge. -/
def hosted (ports : Ports World) (providerId : ProviderId) (clock : Nat → Timestamp)
    (ids : (k : IdKind) → Nat → Ident k) : ProviderHost (Hosted World) where
  nowUtc b := (clock b.drawn, { b with drawn := b.drawn + 1 })
  newId k b := (ids k b.drawn, { b with drawn := b.drawn + 1 })
  publishEvent := Hosted.publishEvent ports providerId

namespace Hosted

variable (ports : Ports World) (providerId : ProviderId)

/-- The complete behaviour of one publication: refused without a report, recognized as a
retry, or committed with or without failed handoffs. -/
theorem publishEvent_cases (self : Hosted World) (event : AgentEvent) :
    (∃ e, self.publishEvent ports providerId event = (self.withBridge (self.met ports), .error e) ∧
      e.report = none) ∨
    (∃ old report, (self.met ports).sessions[event.sessionId]? = some old ∧
      (old.apply event).2 = .ok .alreadyApplied ∧
      self.publishEvent ports providerId event =
        (self.withBridge (self.met ports), .ok report)) ∨
    (∃ provider session routes aggregate,
      Bridge.Committed (self.met ports) providerId event provider session routes aggregate ∧
      (self.publishEvent ports providerId event).1 =
        self.withBridge ((self.met ports).commit ports event routes aggregate) ∧
      ∀ e, (self.publishEvent ports providerId event).2 = .error e → e.report.isSome = true) := by
  unfold publishEvent
  cases self.arrival.admission with
  | inactive => exact .inl ⟨_, rfl, rfl⟩
  | hostDropped => exact .inl ⟨_, rfl, rfl⟩
  | bridgeAccess => exact .inl ⟨_, rfl, rfl⟩
  | admitted =>
    dsimp only
    rcases Bridge.handleProviderEvent_cases ports (self.met ports) providerId event with
      ⟨e, he, hnot, -⟩ | ⟨old, hold, hretry, he⟩ | ⟨provider, session, routes, aggregate, hc, he⟩
    · left
      refine ⟨.bridge e, by rw [he], ?_⟩
      cases e with
      | channelHandoffs report => exact absurd rfl (hnot report)
      | _ => rfl
    · right
      left
      exact ⟨old, _, hold, hretry, by rw [he]⟩
    · right
      right
      refine ⟨provider, session, routes, aggregate, hc, ?_⟩
      rw [he]
      have hresult : (∃ report, (self.met ports).commitResult ports event routes aggregate =
            .ok report) ∨
          ∃ report, (self.met ports).commitResult ports event routes aggregate =
            .error (.channelHandoffs report) := by
        unfold Bridge.commitResult
        dsimp only
        split
        · exact .inr ⟨_, rfl⟩
        · exact .inl ⟨_, rfl⟩
      rcases hresult with ⟨report, hreport⟩ | ⟨report, hreport⟩
      · rw [hreport]
        exact ⟨rfl, fun e herror => nomatch herror⟩
      · rw [hreport]
        refine ⟨rfl, ?_⟩
        intro e herror
        cases herror
        rfl

end Hosted

end Codex

end AgentPulse
