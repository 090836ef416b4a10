import AgentPulse.NativeInvariant

/-!
# The handshake of a native connection

Requests of a connection are served only after its hello, and a second hello
ends it. A hello therefore never replaces a client that has subscriptions.
-/
namespace AgentPulse

/-- The sections that a connection without an accepted hello can reach. -/
def WorkerPc.early : WorkerPc → Bool
  | .accepting | .checking | .draining | .reading | .hello _ _ | .reply _ | .disconnect _
  | .unsubscribing _ _ | .stopped => true
  | _ => false

namespace NativeSystem

variable {Other : Type} (codec : NativeCodec) (config : NativeChannelConfig)
  (otherPorts : Ports Other)

def handshaken (self : NativeSystem Other) : Bool := self.connection.any Connection.handshaken

/-- Requests are served only after the hello, and a hello only once. -/
structure Greeting (system : NativeSystem Other) : Prop where
  early : system.handshaken = false → system.pc.early = true
  hello : ∀ sessionCursors resumeAccepted,
    system.pc = .hello sessionCursors resumeAccepted → system.handshaken = false

theorem greeting_late {self : NativeSystem Other} (h : Greeting self)
    (hlate : self.pc.early = false) : self.handshaken = true := by
  by_contra hfalse
  have hearly := h.early (by simpa using hfalse)
  rw [hlate] at hearly
  cases hearly

/-- The greeting holds after a step, and a connection that has lost its hello
has lost its client. -/
structure KeepsGreeting (before after : NativeSystem Other) : Prop where
  greeting : Greeting after
  lost : after.handshaken = false → before.handshaken = false ∨ after.delivery.client = none

theorem keepsGreeting_of_handshaken {before after : NativeSystem Other}
    (h : after.handshaken = true)
    (hpc : ∀ sessionCursors resumeAccepted, after.pc ≠ .hello sessionCursors resumeAccepted) :
    KeepsGreeting before after := by
  refine ⟨⟨?_, fun c r hc => absurd hc (hpc c r)⟩, ?_⟩ <;> simp [h]

theorem keepsGreeting_of_early {before after : NativeSystem Other}
    (h : after.connection = before.connection) (hearly : after.pc.early = true)
    (hpc : ∀ sessionCursors resumeAccepted, after.pc ≠ .hello sessionCursors resumeAccepted) :
    KeepsGreeting before after := by
  refine ⟨⟨fun _ => hearly, fun c r hc => absurd hc (hpc c r)⟩, fun hf => .inl ?_⟩
  rw [handshaken, ← h]
  exact hf

theorem keepsGreeting_settle {before self : NativeSystem Other} (htrue : before.handshaken = true)
    (hsame : self.connection = before.connection) (result : Except ConnectionFailure Unit) :
    KeepsGreeting before (self.settle result) := by
  have h : self.handshaken = true := by rw [handshaken, hsame]; exact htrue
  cases result with
  | ok u =>
    refine keepsGreeting_of_handshaken ?_ (by simp [settle])
    unfold handshaken at h ⊢
    cases hc : self.connection with
    | none => simp [hc] at h
    | some connection => simp [settle, hc]
  | error e =>
    cases e with
    | recoverable message => exact keepsGreeting_of_handshaken h (by simp [settle])
    | fatal e => exact keepsGreeting_of_handshaken h (by simp [settle])

theorem readSocket_greeting {self : NativeSystem Other} {connection : Connection}
    (hconnection : self.connection = some connection) (input : WorkerInput) :
    KeepsGreeting self (self.readSocket codec config connection input) := by
  have hearly : ∀ pc : WorkerPc, pc.early = true →
      (∀ sessionCursors resumeAccepted, pc ≠ .hello sessionCursors resumeAccepted) →
      KeepsGreeting self { self with pc := pc } :=
    fun pc h hpc => keepsGreeting_of_early rfl h hpc
  cases input with
  | proceed => exact hearly .accepting rfl (by simp)
  | accept connectionId authenticatedClientId => exact hearly .accepting rfl (by simp)
  | fail => exact hearly (.disconnect false) rfl (by simp)
  | malformed => exact hearly (.disconnect false) rfl (by simp)
  | message message =>
    simp only [readSocket]
    cases validateClientMessage codec message with
    | error e => exact hearly (.disconnect false) rfl (by simp)
    | ok u =>
      by_cases hready : connection.handshaken = true
      · have htrue : self.handshaken = true := by simp [handshaken, hconnection, hready]
        simp only [hready, if_true]
        cases message with
        | hello =>
          simp only [processReadyMessage]
          exact keepsGreeting_settle htrue (by rfl) _
        | _ => exact keepsGreeting_of_handshaken htrue (by simp [processReadyMessage])
      · have hfalse : self.handshaken = false := by simpa [handshaken, hconnection] using hready
        simp only [hready, Bool.false_eq_true, if_false]
        cases message with
        | hello clientId displayName version versions hostRunId sessionCursors =>
          simp only [processHello]
          split
          · exact hearly (.disconnect false) rfl (by simp)
          · split
            · exact hearly (.disconnect false) rfl (by simp)
            · exact ⟨⟨fun _ => rfl, fun _ _ _ => hfalse⟩, fun _ => .inl hfalse⟩
        | _ => exact hearly (.disconnect false) rfl (by simp)

theorem localStep_greeting {self : NativeSystem Other} (h : Greeting self) (input : WorkerInput) :
    KeepsGreeting self (self.localStep codec config input) := by
  have hsame : KeepsGreeting self self := ⟨h, .inl⟩
  cases hpc : self.pc with
  | accepting =>
    simp only [localStep, hpc]
    cases input with
    | fail => exact keepsGreeting_of_early rfl rfl (by simp [pollListener])
    | accept connectionId authenticatedClientId =>
      simp only [pollListener]
      split
      · exact keepsGreeting_of_early rfl rfl (by simp)
      · next hnone =>
        have hfalse : self.handshaken = false := by
          have : self.connection = none := by simpa using hnone
          simp [handshaken, this]
        exact ⟨⟨fun _ => rfl, by simp⟩, fun _ => .inl hfalse⟩
    | _ =>
      simp only [pollListener]
      split
      · exact keepsGreeting_of_early rfl rfl (by simp)
      · exact hsame
  | checking =>
    simp only [localStep, hpc]
    split
    · exact keepsGreeting_of_early rfl rfl (by simp)
    · split <;> exact keepsGreeting_of_early rfl rfl (by simp)
  | draining =>
    simp only [localStep, hpc]
    split
    · exact keepsGreeting_of_early rfl rfl (by simp)
    · next connection hconnection =>
      unfold drainOne
      split
      · exact keepsGreeting_of_early rfl rfl (by simp)
      · refine ⟨⟨fun _ => by cases input <;> rfl, by cases input <;> simp⟩, fun hf => .inl ?_⟩
        simpa [handshaken, hconnection] using hf
  | reading =>
    simp only [localStep, hpc]
    split
    · exact keepsGreeting_of_early rfl rfl (by simp)
    · next connection hconnection => exact readSocket_greeting codec config hconnection input
  | hello sessionCursors resumeAccepted =>
    have hfalse := h.hello sessionCursors resumeAccepted hpc
    simp only [localStep, hpc]
    split
    · exact keepsGreeting_of_early rfl rfl (by simp)
    · exact ⟨⟨fun _ => rfl, by simp⟩, fun _ => .inl hfalse⟩
  | discover requestId =>
    have htrue := greeting_late h (by rw [hpc]; rfl)
    simp only [localStep, hpc]
    split
    · exact keepsGreeting_settle htrue (by rfl) _
    · exact keepsGreeting_of_handshaken htrue (by simp)
  | discoverBatch requestId snapshot =>
    have htrue := greeting_late h (by rw [hpc]; rfl)
    simp only [localStep, hpc]
    exact keepsGreeting_settle htrue (by rfl) _
  | subscribe requestId sessionId =>
    have htrue := greeting_late h (by rw [hpc]; rfl)
    simp only [localStep, hpc]
    split
    · exact keepsGreeting_settle htrue (by rfl) _
    · exact keepsGreeting_settle htrue (by rfl) _
    · exact keepsGreeting_of_handshaken htrue (by simp)
  | subscribeCursor requestId sessionId =>
    have htrue := greeting_late h (by rw [hpc]; rfl)
    simp only [localStep, hpc]
    exact keepsGreeting_of_handshaken htrue (by simp)
  | subscribeFailed requestId sessionId e =>
    have htrue := greeting_late h (by rw [hpc]; rfl)
    simp only [localStep, hpc]
    exact keepsGreeting_settle htrue (by rfl) _
  | subscribeCommit requestId sessionId outcome =>
    have htrue := greeting_late h (by rw [hpc]; rfl)
    simp only [localStep, hpc]
    exact keepsGreeting_settle htrue (by rfl) _
  | unsubscribeRecord requestId sessionId outcome =>
    have htrue := greeting_late h (by rw [hpc]; rfl)
    simp only [localStep, hpc]
    exact keepsGreeting_of_handshaken htrue (by simp)
  | respond requestId response =>
    have htrue := greeting_late h (by rw [hpc]; rfl)
    simp only [localStep, hpc]
    split
    · exact keepsGreeting_of_handshaken htrue (by simp)
    · exact keepsGreeting_settle htrue (by rfl) _
  | command requestId command =>
    have htrue := greeting_late h (by rw [hpc]; rfl)
    simp only [localStep, hpc]
    split
    · exact keepsGreeting_of_handshaken htrue (by simp)
    · exact keepsGreeting_settle htrue (by rfl) _
  | reply message =>
    simp only [localStep, hpc]
    cases (self.delivery.enqueueControl codec message).2 with
    | error e => exact keepsGreeting_of_early rfl rfl (by simp [settle, Except.mapError])
    | ok u =>
      refine ⟨⟨fun _ => rfl, by simp [settle, Except.mapError]⟩, fun hf => .inl ?_⟩
      cases hconnection : self.connection with
      | none => simp [handshaken, hconnection]
      | some connection =>
        simp [handshaken, settle, Except.mapError, setDelivery, hconnection] at hf
  | reject message =>
    have htrue := greeting_late h (by rw [hpc]; rfl)
    simp only [localStep, hpc]
    exact keepsGreeting_of_handshaken htrue (by simp)
  | disconnect last =>
    simp only [localStep, hpc]
    exact keepsGreeting_of_early rfl rfl (by simp)
  | unsubscribing remaining last =>
    cases remaining with
    | nil =>
      simp only [localStep, hpc]
      refine ⟨⟨fun _ => by cases last <;> rfl, by cases last <;> simp⟩, fun _ => .inr rfl⟩
    | cons sessionId remaining =>
      simp only [localStep, hpc]
      exact hsame
  | _ =>
    simp only [localStep, hpc]
    exact hsame

theorem bridgeStep_greeting {self : NativeSystem Other} (h : Greeting self)
    (hcalls : self.pc.callsBridge = true) :
    KeepsGreeting self (self.bridgeStep codec config otherPorts) := by
  cases hpc : self.pc with
  | discoverSnapshot requestId =>
    have htrue := greeting_late h (by rw [hpc]; rfl)
    simp only [bridgeStep, hpc]
    exact keepsGreeting_of_handshaken htrue (by simp)
  | subscribeSync requestId sessionId afterSequence =>
    have htrue := greeting_late h (by rw [hpc]; rfl)
    simp only [bridgeStep, hpc]
    split <;> exact keepsGreeting_of_handshaken htrue (by simp)
  | unsubscribe requestId sessionId =>
    have htrue := greeting_late h (by rw [hpc]; rfl)
    simp only [bridgeStep, hpc]
    split
    · exact keepsGreeting_of_handshaken htrue (by simp)
    · exact keepsGreeting_settle htrue (by rfl) _
  | submitResponse requestId response =>
    have htrue := greeting_late h (by rw [hpc]; rfl)
    simp only [bridgeStep, hpc]
    split
    · exact keepsGreeting_of_handshaken htrue (by simp)
    · exact keepsGreeting_settle htrue (by rfl) _
  | submitCommand requestId command =>
    have htrue := greeting_late h (by rw [hpc]; rfl)
    simp only [bridgeStep, hpc]
    split
    · exact keepsGreeting_of_handshaken htrue (by simp)
    · exact keepsGreeting_settle htrue (by rfl) _
  | unsubscribing remaining last =>
    cases remaining with
    | nil => simp [hpc, WorkerPc.callsBridge] at hcalls
    | cons sessionId remaining =>
      simp only [bridgeStep, hpc]
      exact keepsGreeting_of_early rfl rfl (by simp)
  | _ => simp [hpc, WorkerPc.callsBridge] at hcalls

/-- Other threads leave the worker where it is. -/
theorem step_other (self : NativeSystem Other) {input : NativeInput}
    (hinput : ∀ i, input ≠ .worker i) :
    (step codec config otherPorts self input).1.pc = self.pc ∧
      (step codec config otherPorts self input).1.connection = self.connection := by
  cases input with
  | worker i => exact absurd rfl (hinput i)
  | publish providerId event =>
    simp only [step]
    split
    · exact ⟨rfl, rfl⟩
    · unfold publish
      split <;> exact ⟨rfl, rfl⟩
  | deliver =>
    simp only [step]
    split
    · exact ⟨rfl, rfl⟩
    · unfold deliverNext
      split
      · exact ⟨rfl, rfl⟩
      · split <;> exact ⟨rfl, rfl⟩
      · exact ⟨rfl, rfl⟩
  | foreign op =>
    simp only [step]
    split <;> exact ⟨rfl, rfl⟩

theorem step_greeting {self : NativeSystem Other} (h : Greeting self) (input : NativeInput) :
    KeepsGreeting self (step codec config otherPorts self input).1 := by
  by_cases hinput : ∀ i, input ≠ .worker i
  · obtain ⟨hpc, hconnection⟩ := step_other codec config otherPorts self hinput
    have hsame : (step codec config otherPorts self input).1.handshaken = self.handshaken := by
      rw [handshaken, handshaken, hconnection]
    refine ⟨⟨?_, ?_⟩, ?_⟩
    · rw [hsame, hpc]
      exact h.early
    · rw [hsame, hpc]
      exact h.hello
    · rw [hsame]
      exact .inl
  · simp only [ne_eq, not_forall, not_not] at hinput
    obtain ⟨i, rfl⟩ := hinput
    simp only [step]
    split
    · next hcalls =>
      split
      · exact ⟨h, .inl⟩
      · exact bridgeStep_greeting codec config otherPorts h hcalls
    · exact localStep_greeting codec config h i

end NativeSystem

end AgentPulse
