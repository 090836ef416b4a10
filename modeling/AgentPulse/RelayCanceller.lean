import AgentPulse.Cancellation
import AgentPulse.RelayCrypto

/-!
# Cancelling the connections of a relay connector

Every socket that a host connector opens is registered with the canceller of the
connector until the connection is over. The socket itself is a parameter.
-/
namespace AgentPulse

open Std (ExtTreeMap)
open Cancellation (Registry Call System Op Doomed)

/-- The map holds one handle for each open connection, under a number of its own. The
counter is an atomic `u64` in the source and would repeat only after 2^64 connections. -/
structure RelayConnectionCanceller (σ : Type) where
  cancelled : Bool
  nextConnection : Nat
  connections : ExtTreeMap Nat σ

namespace RelayConnectionCanceller

variable {σ : Type}

def new : RelayConnectionCanceller σ := ⟨false, 0, ∅⟩

/-- `self.inner.cancelled.store(true)`. -/
def raise (self : RelayConnectionCanceller σ) : RelayConnectionCanceller σ :=
  { self with cancelled := true }

/-- The section of `cancel`: `std::mem::take(&mut *connections)`. -/
def takeConnections (self : RelayConnectionCanceller σ) : RelayConnectionCanceller σ × List σ :=
  ({ self with connections := ∅ }, OrderedMap.values self.connections)

/-- The section of `register`, with the stop flag of the connector. -/
def register (self : RelayConnectionCanceller σ) (stop : Bool) (interrupt : σ) :
    RelayConnectionCanceller σ × Except RelayError Nat :=
  if self.cancelled || stop then (self, .error .stopped)
  else
    ({ self with
      nextConnection := self.nextConnection + 1
      connections := self.connections.insert self.nextConnection interrupt },
      .ok self.nextConnection)

/-- What the registration does when it is dropped. -/
def unregister (self : RelayConnectionCanceller σ) (connection : Nat) : RelayConnectionCanceller σ :=
  { self with connections := self.connections.erase connection }

/-- The sections as those of a cancellable collection. -/
def registry : Registry (RelayConnectionCanceller σ) Nat Bool σ where
  raise := raise
  take := takeConnections
  enter self stop interrupt :=
    ((self.register stop interrupt).1, (self.register stop interrupt).2.toOption)
  remove := unregister

/-- The next number is above all numbers in use. -/
def Fresh (self : RelayConnectionCanceller σ) : Prop :=
  ∀ (connection : Nat) (s : σ), self.connections[connection]? = some s →
    connection < self.nextConnection

theorem fresh_new : Fresh (new : RelayConnectionCanceller σ) := by
  intro connection s h
  simp [new] at h

theorem fresh_register {self : RelayConnectionCanceller σ} (h : self.Fresh) (stop : Bool)
    (interrupt : σ) : (self.register stop interrupt).1.Fresh := by
  unfold register
  split
  · exact h
  · intro connection s hs
    simp only at hs ⊢
    rw [OrderedMap.getElem?_insert] at hs
    split at hs
    · omega
    · have hbelow := h connection s hs
      omega

/-- The map is a lawful collection as long as its numbers are fresh. -/
theorem registry_lawful :
    (registry : Registry (RelayConnectionCanceller σ) Nat Bool σ).Lawful Fresh cancelled
      fun self connection s => self.connections[connection]? = some s where
  valid_raise h := h
  valid_take _ connection s hs := by simp [registry, takeConnections] at hs
  valid_enter stop interrupt h := fresh_register h stop interrupt
  valid_remove connection h other s hs := by
    simp only [registry, unregister] at hs ⊢
    rw [OrderedMap.getElem?_erase] at hs
    split at hs
    · cases hs
    · exact h other s hs
  raised _ := rfl
  raise_held _ _ _ := Iff.rfl
  take_cancelled _ := rfl
  take_held _ connection s hs := by simp [registry, takeConnections] at hs
  taken _ hs := OrderedMap.mem_values.mpr ⟨_, hs⟩
  enter_cancelled self stop interrupt := by
    simp only [registry, register]
    split <;> rfl
  admitted := by
    intro self stop interrupt connection hfresh henter
    simp only [registry, register] at henter ⊢
    split at henter
    · cases henter
    · next hopen =>
      rw [Bool.or_eq_true, not_or, Bool.not_eq_true, Bool.not_eq_true] at hopen
      obtain rfl : self.nextConnection = connection := Option.some.inj henter
      refine ⟨hopen.1, ?_⟩
      intro other s
      rw [if_neg (by simp [hopen])]
      simp only [OrderedMap.getElem?_insert]
      by_cases hother : self.nextConnection = other
      · subst hother
        have hunused : self.connections[self.nextConnection]? = none := by
          cases hs : self.connections[self.nextConnection]? with
          | none => rfl
          | some s => exact absurd (hfresh _ s hs) (Nat.lt_irrefl _)
        simp [hunused, eq_comm]
      · simp [hother, Ne.symm hother]
  refused := by
    intro self stop interrupt henter
    simp only [registry, register] at henter ⊢
    split
    · rfl
    · next hopen => simp [hopen, Except.toOption] at henter
  remove_cancelled _ _ := rfl
  removed connection other s _ := by
    simp only [registry, unregister]
    rw [OrderedMap.getElem?_erase]
    by_cases hother : connection = other
    · simp [hother]
    · simp [hother, Ne.symm hother]

/-- Whatever the connectors and the owner do in whatever order: before a
cancellation every open connection is registered, and after one has returned no
connection is admitted, and each connection that is still open was shut down or is
in the hands of a call that has not returned yet. -/
theorem run_cancels (ops : List (Op Nat Bool σ)) :
    let system := System.run registry new ops
    (system.registry.cancelled = false → ∀ entry ∈ system.live,
      system.registry.connections[entry.1]? = some entry.2) ∧
    (∀ (id : Nat) (s : σ), system.calls[id]? = some (.refused s) → s ∈ system.shut) ∧
    ∀ id : Nat, system.calls[id]? = some .cancelled →
      (∀ stop interrupt, (system.registry.register stop interrupt).2 = .error .stopped) ∧
      (∀ connection : Nat, system.registry.connections[connection]? = none) ∧
      (∀ entry ∈ system.live, Doomed system entry.2) ∧
      ((∀ (other : Nat) (call : Call σ), system.calls[other]? = some call → call.inHand = []) →
        ∀ entry ∈ system.live, entry.2 ∈ system.shut) := by
  intro system
  have hsound := Cancellation.sound_run registry_lawful fresh_new ops
  refine ⟨hsound.kept, fun id s hcall => hsound.refused id _ hcall s rfl, ?_⟩
  intro id hcall
  refine ⟨?_, ?_, Cancellation.doomed_of_emptied hsound hcall rfl,
    Cancellation.shut_of_cancelled hsound hcall⟩
  · intro stop interrupt
    have hraised : system.registry.cancelled = true := hsound.raised id _ hcall rfl
    simp [register, hraised]
  · intro connection
    cases hs : system.registry.connections[connection]? with
    | none => rfl
    | some s => exact absurd hs (hsound.emptied id _ hcall rfl connection s)

end RelayConnectionCanceller

end AgentPulse
