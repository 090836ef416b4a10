import AgentPulse.CodexSection

/-!
# Publications with their record

A host that also keeps the events that it committed, in order. A publication of
the mapper adds one event to this record or none, and the mapping of its thread
moves on exactly when it returns.
-/
namespace AgentPulse

namespace Codex

open Program (bind_apply)

/-- The outcome of a publication after which the event is part of its session. -/
def committed : Except ProviderEventIngressError ProviderEventReport → Bool
  | .ok _ => true
  | .error error => error.report.isSome

/-- The same host, with the committed events in order. -/
def recording {B : Type} (host : ProviderHost B) : ProviderHost (B × List AgentEvent) where
  nowUtc b := ((host.nowUtc b.1).1, (host.nowUtc b.1).2, b.2)
  newId k b := ((host.newId k b.1).1, (host.newId k b.1).2, b.2)
  publishEvent b event :=
    (((host.publishEvent b.1 event).1,
      if committed (host.publishEvent b.1 event).2 then b.2 ++ [event] else b.2),
      (host.publishEvent b.1 event).2)

namespace Mapping

variable {B : Type} {host : ProviderHost B}

/-- The mapping after a publication. -/
def advance (threadId : String) (payload : AgentEventPayload) (next : EventSequence)
    (m : CodexEventMapper) : CodexEventMapper :=
  m.updateThread threadId fun mapping =>
    (payloadState payload).apply { mapping with nextSequence := next }

variable (host) in
theorem publishCommitted_apply (event : AgentEvent) (s : MapperState (B × List AgentEvent)) :
    (∃ e b, publishCommitted (recording host) event s = (.error e, ⟨s.mapper, b, s.host.2⟩) ∧
      committed (host.publishEvent s.host.1 event).2 = false) ∨
    ∃ b, publishCommitted (recording host) event s = (.ok (), ⟨s.mapper, b, s.host.2 ++ [event]⟩) := by
  unfold publishCommitted
  simp only [bind_apply, Program.update, recording]
  cases hresult : (host.publishEvent s.host.1 event).2 with
  | ok report => exact .inr ⟨_, rfl⟩
  | error error =>
    by_cases hreport : error.report.isSome = true
    · have hcommitted : committed (.error error) = true := hreport
      right
      simp [hcommitted, hreport, Program.pure_apply]
    · have hrefused : committed (.error error) = false := Bool.eq_false_iff.mpr hreport
      left
      simp [hrefused, hreport, Program.fail]

/-- A message is published as it is. -/
theorem publishPayload_message (threadId : String) (occurredAt : Timestamp)
    (message : AgentMessage) :
    publishPayload host threadId occurredAt (.message message) =
      publishTracked host threadId occurredAt (.message message) := by
  funext s
  have hpresented : presentedPayload s.mapper threadId (.message message) = .message message :=
    if_neg (by simp)
  unfold publishPayload
  rw [bind_apply, Program.reads, hpresented]
  rfl

variable (host) in
/-- What a publication can come to. -/
theorem publishTracked_cases (threadId : String) (occurredAt : Timestamp)
    (payload : AgentEventPayload) (s : MapperState (B × List AgentEvent)) :
    (∃ e b, publishTracked (recording host) threadId occurredAt payload s =
      (.error e, ⟨s.mapper, b, s.host.2⟩)) ∨
    ∃ mapping event b, s.mapper.threads[threadId]? = some mapping ∧
      event.sessionId = mapping.sessionId ∧ event.payload = payload ∧
      ((mapping.nextSequence.checkedNext = none ∧
        ∃ e, publishTracked (recording host) threadId occurredAt payload s =
          (.error e, ⟨s.mapper, b, s.host.2 ++ [event]⟩)) ∨
      ∃ next, mapping.nextSequence.checkedNext = some next ∧
        publishTracked (recording host) threadId occurredAt payload s =
          (.ok (), ⟨advance threadId payload next s.mapper, b, s.host.2 ++ [event]⟩)) := by
  unfold publishTracked
  cases hmapping : s.mapper.threads[threadId]? with
  | none =>
    rw [Program.bind_of_error (trackedThread_of_none hmapping)]
    exact .inl ⟨_, _, rfl⟩
  | some mapping =>
    rw [Program.bind_of_ok (trackedThread_of_some hmapping)]
    have hdrawn : newId (recording host) .event s =
        (.ok (host.newId .event s.host.1).1, ⟨s.mapper, (host.newId .event s.host.1).2, s.host.2⟩) :=
      rfl
    rw [Program.bind_of_ok hdrawn, bind_apply, Program.ofExcept]
    cases hnew : domain (AgentEvent.new (host.newId .event s.host.1).1 mapping.sessionId
        mapping.nextSequence occurredAt payload) with
    | error e => exact .inl ⟨_, _, rfl⟩
    | ok event =>
      obtain ⟨hsession, -, hpayload⟩ := event_of_new hnew
      rcases publishCommitted_apply host event
          ⟨s.mapper, (host.newId .event s.host.1).2, s.host.2⟩ with ⟨e, b, hrefused, -⟩ | ⟨b, hok⟩
      · dsimp only
        rw [Program.bind_of_error hrefused]
        exact .inl ⟨_, _, rfl⟩
      · right
        refine ⟨mapping, event, b, rfl, hsession, hpayload, ?_⟩
        have hfound : (trackedThread threadId : Mapping (B × List AgentEvent) ThreadMapping)
            ⟨s.mapper, b, s.host.2 ++ [event]⟩ = (.ok mapping, ⟨s.mapper, b, s.host.2 ++ [event]⟩) :=
          trackedThread_of_some hmapping
        dsimp only
        rw [Program.bind_of_ok hok, Program.bind_of_ok hfound]
        cases hnext : mapping.nextSequence.checkedNext with
        | none => exact .inl ⟨rfl, _, rfl⟩
        | some next => exact .inr ⟨next, rfl, rfl⟩

/-- A payload that names no session is published once the host takes it. -/
theorem publishTracked_of_commits {threadId : String} {occurredAt : Timestamp}
    {payload : AgentEventPayload} {s : MapperState (B × List AgentEvent)} {mapping : ThreadMapping}
    (hmapping : s.mapper.threads[threadId]? = some mapping)
    (hroom : mapping.nextSequence.checkedNext.isSome) (hfree : payload.embeddedSessionId = none)
    (hcommits : ∀ event, event.sessionId = mapping.sessionId →
      event.sequence = mapping.nextSequence → event.payload = payload →
      committed (host.publishEvent (host.newId .event s.host.1).2 event).2 = true) :
    ∃ s', publishTracked (recording host) threadId occurredAt payload s = (.ok (), s') := by
  unfold publishTracked
  rw [Program.bind_of_ok (trackedThread_of_some hmapping)]
  have hdrawn : newId (recording host) .event s =
      (.ok (host.newId .event s.host.1).1, ⟨s.mapper, (host.newId .event s.host.1).2, s.host.2⟩) :=
    rfl
  obtain ⟨event, hnew⟩ : ∃ event, domain (AgentEvent.new (host.newId .event s.host.1).1
      mapping.sessionId mapping.nextSequence occurredAt payload) = .ok event := by
    unfold AgentEvent.new
    split
    · exact ⟨_, rfl⟩
    · next embedded hembedded =>
      rw [hfree] at hembedded
      cases hembedded
  obtain ⟨hsession, hsequence, hpayload⟩ := event_of_new hnew
  rw [Program.bind_of_ok hdrawn, bind_apply, Program.ofExcept, hnew]
  rcases publishCommitted_apply host event
      ⟨s.mapper, (host.newId .event s.host.1).2, s.host.2⟩ with ⟨e, b, -, hrefused⟩ | ⟨b, hok⟩
  · rw [hcommits event hsession hsequence hpayload] at hrefused
    cases hrefused
  · obtain ⟨next, hnext⟩ := Option.isSome_iff_exists.mp hroom
    have hfound : (trackedThread threadId : Mapping (B × List AgentEvent) ThreadMapping)
        ⟨s.mapper, b, s.host.2 ++ [event]⟩ = (.ok mapping, ⟨s.mapper, b, s.host.2 ++ [event]⟩) :=
      trackedThread_of_some hmapping
    dsimp only
    rw [Program.bind_of_ok hok, Program.bind_of_ok hfound, hnext]
    exact ⟨_, rfl⟩

end Mapping

end Codex

end AgentPulse
