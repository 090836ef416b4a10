import AgentPulse.CodexLockstep

/-!
# Mapper and bridge stay in step

Everything the mapper does besides publishing leaves the copies alone, except
for the first resume of a thread: that one starts the session before it has
read the turns of the payload, so a payload without turns leaves a session that
no thread stands for.
-/
namespace AgentPulse

namespace Codex

open Std (ExtTreeMap)
open Program (Preserves Triple bind_apply)
open Serde (Json)

/-- An invariant that publications keep, and that reads the mapper through its copies. -/
structure Copied {B : Type} (host : ProviderHost B) (I : MapperState B → Prop) : Prop where
  nowUtc : Preserves I (Mapping.nowUtc host)
  newId : ∀ k, Preserves I (Mapping.newId host k)
  publishTracked : ∀ threadId occurredAt payload,
    Preserves I (Mapping.publishTracked host threadId occurredAt payload)
  aside : ∀ f : CodexEventMapper → CodexEventMapper, (∀ m, SameCopies m (f m)) →
    Preserves I (Mapping.onMapper f : Mapping B Unit)

namespace Mapping

variable {B : Type} {host : ProviderHost B} {I : MapperState B → Prop} (h : Copied host I)

include h

/-- Fields that are not copied. -/
theorem copied_update (threadId : String) {f : ThreadMapping → ThreadMapping}
    (hf : ∀ mapping, (f mapping).copy = mapping.copy) :
    Preserves I (onMapper fun m => m.updateThread threadId f : Mapping B Unit) :=
  h.aside _ fun m => sameCopies_updateThread m threadId hf

/-- A field of the mapper besides its threads. -/
theorem copied_field {f : CodexEventMapper → CodexEventMapper}
    (hprovider : ∀ m, (f m).providerId = m.providerId)
    (hconfigured : ∀ m, (f m).configured = m.configured)
    (hthreads : ∀ m, (f m).threads = m.threads) :
    Preserves I (onMapper f : Mapping B Unit) :=
  h.aside f fun m => .of_threads (hprovider m) (hconfigured m) (hthreads m)

theorem copied_timestampOr (value : Option Int) (multiplier : Int) :
    Preserves I (timestampOr host value multiplier) := by
  cases value with
  | none => exact h.nowUtc
  | some value => exact Preserves.ofExcept _

omit h in
theorem copied_trackedThread (threadId : String) :
    Preserves I (trackedThread threadId : Mapping B ThreadMapping) := by
  apply Preserves.bind (Preserves.reads _)
  intro mapping
  cases mapping with
  | none => exact Preserves.fail _
  | some mapping => exact Preserves.pure _

theorem copied_closeLocalChoice (id : InteractionId) : Preserves I (closeLocalChoice host id) := by
  apply Preserves.bind (Preserves.reads _)
  intro choice
  cases choice with
  | none => exact Preserves.pure _
  | some choice =>
    apply Preserves.bind
    · exact copied_field h (fun _ => rfl) (fun _ => rfl) fun _ => rfl
    intro _
    apply Preserves.bind (Preserves.reads _)
    intro mapping
    cases mapping with
    | none => exact Preserves.fail _
    | some mapping => exact Preserves.bind h.nowUtc fun now => h.publishTracked _ _ _

theorem copied_closeLocalChoices (threadId : String) :
    Preserves I (closeLocalChoices host threadId) :=
  Preserves.bind (Preserves.reads _) fun _ =>
    Preserves.forEach fun id _ => copied_closeLocalChoice h id

theorem copied_publishPayload (threadId : String) (occurredAt : Timestamp)
    (payload : AgentEventPayload) :
    Preserves I (publishPayload host threadId occurredAt payload) := by
  apply Preserves.bind (Preserves.reads _)
  intro presented
  apply Preserves.bind (Preserves.when fun _ => copied_closeLocalChoices h threadId)
  intro _
  exact h.publishTracked _ _ _

theorem copied_publishNow (threadId : String) (payload : AgentEventPayload) :
    Preserves I (nowUtc host >>= fun now => publishPayload host threadId now payload) :=
  Preserves.bind h.nowUtc fun _ => copied_publishPayload h _ _ _

theorem copied_publishLocalChoice (threadId : String) (request : InteractionRequest) (plan : Bool) :
    Preserves I (publishLocalChoice host threadId request plan) := by
  apply Preserves.bind (Preserves.reads _)
  intro waiting
  apply Preserves.ite (fun _ => Preserves.pure _)
  intro _
  apply Preserves.bind h.nowUtc
  intro now
  apply Preserves.bind (copied_publishPayload h _ _ _)
  intro _
  exact copied_field h (fun _ => rfl) (fun _ => rfl) fun _ => rfl

theorem copied_announceConnection (connection : ConnectionState) (threadId : String) :
    Preserves I (announceConnection host connection threadId) := by
  apply Preserves.bind (Preserves.reads _)
  intro needsEvent
  exact Preserves.when fun _ => copied_publishNow h threadId _

theorem copied_beginReconnect : Preserves I (beginReconnect host) :=
  Preserves.bind (Preserves.reads _) fun _ =>
    Preserves.forEach fun threadId _ => copied_announceConnection h _ threadId

theorem copied_disconnectAll : Preserves I (disconnectAll host) := by
  apply Preserves.bind (Preserves.reads _)
  intro threadIds
  apply Preserves.forEach
  intro threadId _
  exact Preserves.bind (Preserves.attempt (copied_announceConnection h _ threadId)) fun _ =>
    Preserves.pure _

theorem copied_publishHistoryItems (threadId : String) (entries : List Value) :
    Preserves I (publishHistoryItems host threadId entries) := by
  apply Preserves.forEach
  intro entry _
  apply Preserves.bind (Preserves.ofExcept _)
  intro item
  apply Preserves.bind (Preserves.ofExcept _)
  intro message
  cases message with
  | none => exact Preserves.pure _
  | some message =>
    apply Preserves.ite (fun _ => Preserves.pure _)
    intro _
    apply Preserves.bind h.nowUtc
    intro now
    apply Preserves.bind (Preserves.ofExcept _)
    intro content
    exact copied_publishPayload h _ _ _

theorem copied_dismissPlan (threadId : String) : Preserves I (dismissPlan host threadId) := by
  apply Preserves.bind (Preserves.reads _)
  intro waiting
  apply Preserves.bind
  · exact copied_update h threadId fun _ => rfl
  intro _
  apply Preserves.bind (Preserves.reads _)
  intro choices
  apply Preserves.bind (Preserves.forEach fun id _ => copied_closeLocalChoice h id)
  intro _
  exact Preserves.when fun _ => copied_publishNow h threadId _

theorem copied_respondLocalChoice (threadId : String) (response : InteractionResponse) :
    Preserves I (respondLocalChoice host threadId response) := by
  apply Preserves.bind (Preserves.reads _)
  intro live
  apply Preserves.ite (fun _ => Preserves.pure _)
  intro _
  apply Preserves.bind h.nowUtc
  intro now
  apply Preserves.bind (copied_publishPayload h _ _ _)
  intro _
  apply Preserves.bind
  · exact copied_field h (fun _ => rfl) (fun _ => rfl) fun _ => rfl
  intro _
  exact Preserves.pure _

theorem copied_ensureActiveTurn (threadId turnId : String) :
    Preserves I (ensureActiveTurn threadId turnId : Mapping B Unit) := by
  apply Preserves.bind (copied_trackedThread threadId)
  intro mapping
  cases mapping.activeTurnId with
  | some active => exact Preserves.ite (fun _ => Preserves.fail _) fun _ => Preserves.pure _
  | none => exact copied_update h threadId fun _ => rfl

theorem copied_approvalContext (threadId turnId itemId : String) :
    Preserves I (approvalContext threadId turnId itemId :
      Mapping B (Option (SessionId × Option Value))) := by
  apply Preserves.bind (Preserves.reads _)
  intro known
  apply Preserves.ite (fun _ => Preserves.pure _)
  intro _
  apply Preserves.bind (copied_ensureActiveTurn h threadId turnId)
  intro _
  apply Preserves.bind (copied_trackedThread threadId)
  intro mapping
  exact Preserves.bind (Preserves.reads _) fun _ => Preserves.pure _

theorem copied_threadSettingsUpdated (threadId : String) (params : Value) :
    Preserves I (threadSettingsUpdated threadId params : Mapping B MappingDisposition) := by
  apply Preserves.bind (Preserves.ofExcept _)
  intro settings
  apply Preserves.bind (Preserves.ofExcept _)
  intro model
  apply Preserves.bind (Preserves.ofExcept _)
  intro reasoningEffort
  apply Preserves.bind (copied_trackedThread threadId)
  intro _
  apply Preserves.bind
  · exact copied_update h threadId fun _ => rfl
  intro _
  exact Preserves.pure _

theorem copied_itemStarted (threadId : String) (params : Value) :
    Preserves I (itemStarted threadId params : Mapping B MappingDisposition) := by
  apply Preserves.bind (Preserves.ofExcept _)
  intro turnId
  apply Preserves.bind (copied_ensureActiveTurn h threadId turnId)
  intro _
  apply Preserves.bind (Preserves.ofExcept _)
  intro item
  apply Preserves.bind (Preserves.ofExcept _)
  intro itemId
  apply Preserves.bind
  · exact copied_field h (fun _ => rfl) (fun _ => rfl) fun _ => rfl
  intro _
  exact Preserves.pure _

theorem copied_fileChangePatchUpdated (threadId : String) (params : Value) :
    Preserves I (fileChangePatchUpdated threadId params : Mapping B MappingDisposition) := by
  apply Preserves.bind (Preserves.ofExcept _)
  intro turnId
  apply Preserves.bind (Preserves.ofExcept _)
  intro itemId
  apply Preserves.bind (copied_ensureActiveTurn h threadId turnId)
  intro _
  split
  · apply Preserves.bind (Preserves.reads _)
    intro item
    apply Preserves.bind
    · exact copied_field h (fun _ => rfl) (fun _ => rfl) fun _ => rfl
    intro _
    apply Preserves.ite
    · intro _
      apply Preserves.bind
      · exact copied_field h (fun _ => rfl) (fun _ => rfl) fun _ => rfl
      intro _
      exact Preserves.pure _
    · exact fun _ => Preserves.fail _
  · exact Preserves.fail _

theorem copied_disconnectThread (threadId : String) :
    Preserves I (disconnectThread host threadId) := by
  apply Preserves.bind (Preserves.reads _)
  intro mapping
  apply Preserves.ite (fun _ => Preserves.pure _)
  intro _
  apply Preserves.bind h.nowUtc
  intro now
  exact Preserves.bind (copied_publishPayload h _ _ _) fun _ => Preserves.pure _

theorem copied_statusChanged (threadId : String) (statusValue : Value) :
    Preserves I (statusChanged host threadId statusValue) := by
  apply Preserves.bind (Preserves.ofExcept _)
  intro statusType
  apply Preserves.ite (fun _ => copied_disconnectThread h threadId)
  intro _
  apply Preserves.bind (Preserves.ofExcept _)
  intro loaded
  apply Preserves.bind (Preserves.reads _)
  intro waiting
  apply Preserves.bind (copied_trackedThread threadId)
  intro mapping
  apply Preserves.bind (Preserves.when fun _ => copied_publishNow h threadId _)
  intro _
  apply Preserves.bind (Preserves.when fun _ => copied_publishNow h threadId _)
  intro _
  exact Preserves.pure _

theorem copied_turnStarted (threadId : String) (params : Value) :
    Preserves I (turnStarted host threadId params) := by
  apply Preserves.bind (Preserves.ofExcept _)
  intro started
  apply Preserves.bind (Preserves.ofExcept _)
  intro turnId
  apply Preserves.bind (Preserves.reads _)
  intro current
  apply Preserves.bind (Preserves.when fun _ => copied_closeLocalChoices h threadId)
  intro _
  apply Preserves.bind (Preserves.ofExcept _)
  intro startedAt
  apply Preserves.bind (copied_timestampOr h startedAt _)
  intro timestamp
  apply Preserves.bind (copied_trackedThread threadId)
  intro mapping
  apply Preserves.ite (fun _ => Preserves.pure _)
  intro _
  cases mapping.activeTurnId with
  | some active => exact Preserves.fail _
  | none =>
    apply Preserves.bind
    · exact copied_update h threadId fun _ => rfl
    intro _
    exact Preserves.bind (Preserves.when fun _ => copied_publishPayload h _ _ _) fun _ =>
      Preserves.pure _

theorem copied_itemCompleted (threadId : String) (params : Value) :
    Preserves I (itemCompleted host threadId params) := by
  apply Preserves.bind (Preserves.ofExcept _)
  intro turnId
  apply Preserves.bind (copied_ensureActiveTurn h threadId turnId)
  intro _
  apply Preserves.bind (Preserves.ofExcept _)
  intro item
  apply Preserves.bind (Preserves.ofExcept _)
  intro itemId
  apply Preserves.bind
  · exact copied_field h (fun _ => rfl) (fun _ => rfl) fun _ => rfl
  intro _
  apply Preserves.bind (Preserves.ofExcept _)
  intro itemType
  apply Preserves.ite (fun _ => Preserves.pure _)
  intro _
  apply Preserves.bind (Preserves.ofExcept _)
  intro text
  apply Preserves.ite (fun _ => Preserves.pure _)
  intro _
  apply Preserves.bind (Preserves.ofExcept _)
  intro content
  apply Preserves.bind (copied_trackedThread threadId)
  intro _
  apply Preserves.bind
  · exact copied_update h threadId fun _ => rfl
  intro _
  apply Preserves.bind (Preserves.ofExcept _)
  intro completedAt
  apply Preserves.bind (copied_timestampOr h _ _)
  intro timestamp
  exact Preserves.bind (copied_publishPayload h _ _ _) fun _ => Preserves.pure _

theorem copied_turnCompleted (threadId : String) (params : Value) :
    Preserves I (turnCompleted host threadId params) := by
  apply Preserves.bind (Preserves.ofExcept _)
  intro completed
  apply Preserves.bind (Preserves.ofExcept _)
  intro turnId
  apply Preserves.bind (copied_ensureActiveTurn h threadId turnId)
  intro _
  apply Preserves.bind (Preserves.ofExcept _)
  intro turnStatus
  apply Preserves.bind (Preserves.ofExcept _)
  intro completedAt
  apply Preserves.bind (copied_timestampOr h _ _)
  intro timestamp
  apply Preserves.bind (copied_trackedThread threadId)
  intro mapping
  apply Preserves.bind (Preserves.ofExcept _)
  intro outcome
  apply Preserves.bind
  · exact copied_update h threadId fun _ => rfl
  intro _
  apply Preserves.bind (copied_publishPayload h _ _ _)
  intro _
  apply Preserves.bind
  · exact copied_update h threadId fun _ => rfl
  intro _
  apply Preserves.bind
  · exact copied_field h (fun _ => rfl) (fun _ => rfl) fun _ => rfl
  intro _
  exact Preserves.pure _

theorem copied_resumeTracked (threadId : String) (value : Value)
    (model reasoningEffort : Option String) :
    Preserves I (resumeTracked host threadId value model reasoningEffort) := by
  apply Preserves.bind (Preserves.ofExcept _)
  intro updatedAt
  apply Preserves.bind (copied_timestampOr h _ _)
  intro observedAt
  apply Preserves.bind (Preserves.ofExcept _)
  intro statusValue
  apply Preserves.bind (Preserves.ofExcept _)
  intro observed
  apply Preserves.bind (copied_trackedThread threadId)
  intro current
  apply Preserves.bind (Preserves.when fun _ => copied_publishPayload h _ _ _)
  intro _
  apply Preserves.bind (Preserves.when fun _ => copied_publishPayload h _ _ _)
  intro _
  apply Preserves.bind
  · exact copied_update h threadId fun _ => rfl
  intro _
  apply Preserves.bind (Preserves.ofExcept _)
  intro found
  exact copied_update h threadId fun _ => rfl

theorem copied_dispatch (method threadId : String) (params : Value) :
    Preserves I (dispatch host method threadId params) := by
  unfold dispatch
  apply Preserves.ite (fun _ => copied_threadSettingsUpdated h threadId params)
  intro _
  apply Preserves.ite
  · intro _
    exact Preserves.bind (Preserves.ofExcept _) fun _ => copied_statusChanged h threadId _
  intro _
  apply Preserves.ite (fun _ => copied_disconnectThread h threadId)
  intro _
  apply Preserves.ite (fun _ => copied_turnStarted h threadId params)
  intro _
  apply Preserves.ite (fun _ => copied_itemStarted h threadId params)
  intro _
  apply Preserves.ite (fun _ => copied_fileChangePatchUpdated h threadId params)
  intro _
  apply Preserves.ite (fun _ => copied_itemCompleted h threadId params)
  intro _
  exact Preserves.ite (fun _ => copied_turnCompleted h threadId params) fun _ => Preserves.pure _

omit h in
theorem sameCopies_rememberKey (m : CodexEventMapper) (key : String) :
    SameCopies m (m.rememberKey key) := by
  unfold CodexEventMapper.rememberKey
  dsimp only
  split
  · split <;> exact .of_threads rfl rfl rfl
  · exact .of_threads rfl rfl rfl

omit h in
theorem sameCopies_retryObserverResume (m : CodexEventMapper) (threadId : String) :
    SameCopies m (m.retryObserverResume threadId) := by
  unfold CodexEventMapper.retryObserverResume
  split <;> exact .of_threads rfl rfl rfl

theorem copied_notifyThread (method : String) (params : Value) :
    Preserves I (notifyThread host method params) := by
  unfold notifyThread
  split
  · exact Preserves.pure _
  · next threadId _ =>
    apply Preserves.bind (Preserves.reads _)
    intro known
    apply Preserves.ite (fun _ => Preserves.pure _)
    intro _
    apply Preserves.bind
    · apply Preserves.when
      intro _
      exact h.aside _ fun m => sameCopies_retryObserverResume m threadId
    intro _
    apply Preserves.bind (Preserves.reads _)
    intro late
    apply Preserves.ite (fun _ => Preserves.pure _)
    intro _
    apply Preserves.bind (Preserves.ofExcept _)
    intro key
    apply Preserves.bind (Preserves.reads _)
    intro seen
    apply Preserves.ite (fun _ => Preserves.pure _)
    intro _
    apply Preserves.bind (copied_dispatch h method threadId params)
    intro disposition
    cases key with
    | none => exact Preserves.pure _
    | some key =>
      apply Preserves.bind
      · apply Preserves.when
        intro _
        exact h.aside _ fun m => sameCopies_rememberKey m key
      intro _
      exact Preserves.pure _

end Mapping

section Starting

variable {World : Type} {ports : Ports World} {providerId : ProviderId} {clock : Nat → Timestamp}
  {ids : (k : IdKind) → Nat → Ident k}

theorem lockstep_copied :
    Copied (hosted ports providerId clock ids) (@Lockstep World providerId) where
  nowUtc := ⟨fun _ hs => ⟨hs.coupled, hs.foreign⟩⟩
  newId := fun _ => ⟨fun _ hs => ⟨hs.coupled, hs.foreign⟩⟩
  publishTracked := Mapping.lockstep_publishTracked
  aside := fun _ hf => ⟨fun s hs => ⟨hs.coupled.of_copies (hf s.mapper), hs.foreign⟩⟩

/-- The thread stands for a session, but is not tracked yet. -/
structure Unstarted (providerId : ProviderId) (thread : String) (session : SessionId)
    (s : MapperState (Hosted World)) : Prop where
  lockstep : Lockstep providerId s
  configured : s.mapper.configured[thread]? = some session
  untracked : s.mapper.threads[thread]? = none

/-- A retry of the event that starts the session shows that the provider owns it. -/
theorem owns_of_retry {bridge : Bridge World} (hcon : Consistent bridge) {event : AgentEvent}
    {old : SessionAggregate} {started : AgentSession}
    (hold : bridge.sessions[event.sessionId]? = some old)
    (hretry : (old.apply event).2 = .ok .alreadyApplied)
    (hpayload : event.payload = .sessionStarted started) (hstarted : started.providerId = providerId) :
    bridge.Owns providerId event.sessionId old := by
  obtain ⟨history, owner, howned⟩ := hcon.sessions event.sessionId old hold
  have hlast : event ∈ history := by
    rw [(sequence_of_retry hretry).1]
    exact List.mem_of_getLast? (SessionAggregate.reduces_anchored howned.reduces).last
  have hid : owner.id = started.providerId := (howned.published event hlast).2 started hpayload
  refine ⟨hold, ?_⟩
  rw [← hcon.providerIds _ _ howned.owner, hid, hstarted]

/-- A committed start makes a session with the started state at the first sequence number. -/
theorem started_of_committed {m : CodexEventMapper} {met : Bridge World} {event : AgentEvent}
    {provider : ProviderDescriptor} {session : AgentSession} {routes : List EventRoute}
    {aggregate : SessionAggregate} {thread : String} {started : AgentSession}
    (hmet : Coupled providerId m met) (hconfigured : m.configured[thread]? = some event.sessionId)
    (huntracked : m.threads[thread]? = none) (hpayload : event.payload = .sessionStarted started)
    (hc : Bridge.Committed met providerId event provider session routes aggregate) :
    aggregate.lastSequence = PositiveCounter.first ∧ aggregate.session = started := by
  rcases hc.reduced with ⟨old, hold, -, -⟩ | ⟨-, hinit⟩
  · exact absurd ⟨hold, (hc.owner hmet.consistent).2 old hold⟩
      (hmet.not_owns hconfigured huntracked old)
  · obtain ⟨hfirst, session, hp, heq⟩ := SessionAggregate.fromInitialEvent_ok hinit
    rw [hpayload] at hp
    cases hp
    rw [heq]
    exact ⟨hfirst, rfl⟩

theorem session_of_build {builder : AgentSessionBuilder} {session : AgentSession}
    (h : domain builder.build = .ok session) :
    session.providerId = builder.providerId ∧ session.state = builder.state ∧
      session.connectionState = builder.connectionState := by
  have hbuild : builder.build = .ok session := Fallible.mapError_eq_ok.mp h
  unfold AgentSessionBuilder.build at hbuild
  split at hbuild
  · cases hbuild
    exact ⟨rfl, rfl, rfl⟩
  · cases hbuild

open Mapping in
/-- From the start of the session to the tracked thread. -/
theorem lockstep_start {thread : String} {session : SessionId} {started : AgentSession}
    {event : AgentEvent} {next : EventSequence} {mapping : ThreadMapping}
    (hsession : event.sessionId = session) (hpayload : event.payload = .sessionStarted started)
    (howner : started.providerId = providerId)
    (hnext : (PositiveCounter.first : EventSequence).checkedNext = some next)
    (hmapping : mapping.copy = (session, next, started.state, started.connectionState)) :
    Triple (Unstarted providerId thread session)
      (publishCommitted (hosted ports providerId clock ids) event >>= fun _ =>
        (onMapper fun m => { m with threads := m.threads.insert thread mapping } :
          Mapping (Hosted World) Unit))
      (fun _ => Lockstep providerId) fun _ => Lockstep providerId := by
  subst hsession
  apply Triple.of_exits
  intro s hs
  obtain ⟨hcopied, hsequence, hstate, hconnection⟩ :
      mapping.sessionId = event.sessionId ∧ mapping.nextSequence = next ∧
        mapping.state = started.state ∧ mapping.connection = started.connectionState := by
    simpa [ThreadMapping.copy] using hmapping
  rcases publishCommitted_cases ports providerId clock ids hs.lockstep event with ⟨e, s', he, hs'⟩ |
    ⟨bridge, he, hbridge⟩
  · rw [Program.bind_of_error he]
    exact hs'
  · rw [Program.bind_of_ok he]
    have hmet : Coupled providerId s.mapper (s.host.met ports) := hs.lockstep.met
    rcases hbridge with ⟨old, hold, hretry, -⟩ | ⟨provider, routed, routes, aggregate, hc, rfl⟩
    · exact absurd (owns_of_retry hmet.consistent hold hretry hpayload howner)
        (hmet.not_owns hs.configured hs.untracked old)
    · obtain ⟨hfirst, hstarted⟩ := started_of_committed hmet hs.configured hs.untracked hpayload hc
      have hcon : Consistent ((s.host.met ports).commit ports event routes aggregate) :=
        Bridge.consistent_change hmet.consistent (.reduced providerId event provider routed routes
          aggregate ((s.host.met ports).commit ports event routes aggregate).world hc)
      refine ⟨?_, hs.lockstep.tail⟩
      refine hmet.of_started hcon ?_ rfl rfl rfl ⟨?_, (hc.owner hmet.consistent).1⟩ ?_ ?_
      · rw [hcopied]
        exact hs.configured
      · show ((s.host.met ports).sessions.insert event.sessionId aggregate)[mapping.sessionId]? = _
        rw [OrderedMap.getElem?_insert, hcopied, if_pos rfl]
      · intro other hother
        rw [hcopied] at hother
        show ((s.host.met ports).sessions.insert event.sessionId aggregate)[other]? = _
        rw [OrderedMap.getElem?_insert, if_neg hother]
      · intro _
        rw [hsequence, PositiveCounter.checkedNext_get hnext, hfirst, hstate, hconnection, hstarted]
        exact ⟨rfl, rfl, rfl⟩

theorem unstarted_kept {thread : String} {session : SessionId} {α : Type}
    {x : Mapping (Hosted World) α} (hx : Preserves (Unstarted providerId thread session) x) :
    Triple (Unstarted providerId thread session) x (fun _ => Unstarted providerId thread session)
      fun _ => Lockstep providerId :=
  (Triple.of_preserves hx).weaken (fun _ hs => hs) (fun _ _ hs => hs) fun _ _ hs => hs.lockstep

open Mapping in
/-- The first resume of a thread, if its payload lists turns. -/
theorem lockstep_resumeNew {thread : String} {session : SessionId} {value : Value}
    {model reasoningEffort : Option String}
    (hturns : ∃ found, latestInProgressTurn value = .ok found) :
    Triple (Unstarted providerId thread session)
      (resumeNew (hosted ports providerId clock ids) thread session value model reasoningEffort :
        Mapping (Hosted World) Unit)
      (fun _ => Lockstep providerId) fun _ => Lockstep providerId := by
  obtain ⟨found, hfound⟩ := hturns
  have herror : ∀ (e : CodexProviderSourceError) (s : MapperState (Hosted World)),
      Unstarted providerId thread session s → Lockstep providerId s := fun _ _ hs => hs.lockstep
  unfold resumeNew
  refine Triple.ofExcept_bind (fun created _ => ?_) herror
  refine Triple.ofExcept_bind (fun createdAt _ => ?_) herror
  refine Triple.ofExcept_bind (fun updated _ => ?_) herror
  refine Triple.ofExcept_bind (fun updatedAt _ => ?_) herror
  refine Triple.ofExcept_bind (fun statusValue _ => ?_) herror
  refine Triple.ofExcept_bind (fun status _ => ?_) herror
  refine Triple.ofExcept_bind (fun externalId _ => ?_) herror
  refine Triple.ofExcept_bind (fun title _ => ?_) herror
  refine Triple.ofExcept_bind (fun cwd _ => ?_) herror
  -- the session names the provider of the mapper, which is the one of the handle
  apply Triple.bind (Q := fun owner s => Unstarted providerId thread session s ∧
    s.mapper.providerId = owner) (Triple.reads fun s hs => ⟨hs, rfl⟩)
  intro owner
  have howner : ∀ s : MapperState (Hosted World), Unstarted providerId thread session s ∧
      s.mapper.providerId = owner → owner = providerId := by
    rintro s ⟨hs, rfl⟩
    exact hs.lockstep.coupled.provider
  apply Triple.of_fact howner
  intro howner
  refine Triple.weaken ?_ (fun s hs => hs.1) (fun _ _ hs => hs) (fun _ _ hs => hs)
  refine Triple.ofExcept_bind (fun started hstarted => ?_) herror
  obtain ⟨hprovider, hstate, hconnection⟩ := session_of_build hstarted
  apply Triple.bind (unstarted_kept ?_)
  · intro id
    refine Triple.ofExcept_bind (fun event hevent => ?_) herror
    obtain ⟨hsession, -, hpayload⟩ := event_of_new hevent
    have hnext : (PositiveCounter.first : EventSequence).checkedNext = some ⟨2, by decide, by decide⟩ :=
      rfl
    have hstart : ∀ mapping : ThreadMapping,
        mapping.copy = (session, ⟨2, by decide, by decide⟩, started.state, started.connectionState) →
        Triple (Unstarted providerId thread session)
          (publishCommitted (hosted ports providerId clock ids) event >>= fun _ =>
            (onMapper fun m => { m with threads := m.threads.insert thread mapping } :
              Mapping (Hosted World) Unit))
          (fun _ => Lockstep providerId) fun _ => Lockstep providerId :=
      fun mapping => lockstep_start hsession hpayload (hprovider.trans howner) hnext
    rw [hnext, hfound]
    refine hstart
      { sessionId := session
        nextSequence := ⟨2, by decide, by decide⟩
        state := status.1
        connection := status.2
        cwd := cwd
        model := model
        reasoningEffort := reasoningEffort
        activeTurnId := found
        lastMessage := none
        lastFinalMessage := none
        proposedPlan := none
        planReady := false } ?_
    rw [hstate, hconnection]
    rfl
  · exact ⟨fun s hs => ⟨⟨hs.lockstep.coupled, hs.lockstep.foreign⟩, hs.configured, hs.untracked⟩⟩

/-- A payload that starts a session lists the turns of its thread. -/
def TurnsListed (m : CodexEventMapper) (payload : Value) : Prop :=
  ∀ value thread, payload.get "thread" = some value → (value.get "id").bind Json.asStr = some thread →
    m.threads[thread]? = none → ∃ found, latestInProgressTurn value = .ok found

/-- The thread may stand for the session that its identifier spells. -/
def StandsAlone (m : CodexEventMapper) (thread : String) : Prop :=
  ∀ session, Ident.fromStr .session thread = .ok session →
    ∀ other, m.configured[other]? = some session → other = thread

/-- Lockstep with a mapper that is known. -/
structure At (providerId : ProviderId) (m : CodexEventMapper) (s : MapperState (Hosted World)) :
    Prop where
  lockstep : Lockstep providerId s
  mapper : s.mapper = m

open Mapping in
theorem lockstep_resumeThread {m : CodexEventMapper} {result : Value}
    (hturns : TurnsListed m result) :
    Triple (At providerId m)
      (resumeThread (hosted ports providerId clock ids) result : Mapping (Hosted World) Unit)
      (fun _ => Lockstep providerId) fun _ => Lockstep providerId := by
  have herror : ∀ (e : CodexProviderSourceError) (s : MapperState (Hosted World)),
      At providerId m s → Lockstep providerId s := fun _ _ hs => hs.lockstep
  have hreads : ∀ {α : Type} (f : CodexEventMapper → α),
      Triple (At providerId m)
        (Program.reads fun s => f s.mapper : Mapping (Hosted World) α)
        (fun a s => At providerId m s ∧ a = f m) fun _ => Lockstep providerId := by
    intro α f
    apply Triple.reads
    intro s hs
    exact ⟨hs, by rw [hs.mapper]⟩
  refine Triple.ofExcept_bind (fun value hvalue => ?_) herror
  refine Triple.ofExcept_bind (fun thread hthread => ?_) herror
  refine Triple.ofExcept_bind (fun resultModel _ => ?_) herror
  refine Triple.ofExcept_bind (fun threadModel _ => ?_) herror
  refine Triple.ofExcept_bind (fun resultEffort _ => ?_) herror
  refine Triple.ofExcept_bind (fun threadEffort _ => ?_) herror
  refine Triple.bind (hreads fun m => m.configured[thread]?) fun configured => ?_
  refine Triple.of_fact (fun s hs => hs.2) fun hconfigured => ?_
  refine Triple.weaken ?_ (fun s hs => hs.1) (fun _ _ hs => hs) fun _ _ hs => hs
  cases configured with
  | none => exact Triple.fail fun s hs => hs.lockstep
  | some session =>
    refine Triple.ofExcept_bind (fun _ _ => ?_) herror
    refine Triple.ofExcept_bind (fun _ _ => ?_) herror
    refine Triple.bind (hreads fun m => m.isThreadTracked thread) fun tracked => ?_
    refine Triple.of_fact (fun s hs => hs.2) fun htracked => ?_
    refine Triple.weaken ?_ (fun s hs => hs.1) (fun _ _ hs => hs) fun _ _ hs => hs
    refine Triple.ite (fun _ => ?_) fun hnew => ?_
    · exact Triple.of_exits fun s hs => (copied_resumeTracked lockstep_copied _ _ _ _).holds s hs.lockstep
    · have huntracked : m.threads[thread]? = none := by
        rw [htracked] at hnew
        simpa [CodexEventMapper.isThreadTracked] using hnew
      obtain ⟨hget, hid⟩ := fields_of_ok hvalue hthread
      refine (lockstep_resumeNew (hturns value thread hget hid huntracked)).weaken ?_
        (fun _ _ hs => hs) fun _ _ hs => hs
      intro s hs
      exact ⟨hs.lockstep, by rw [hs.mapper]; exact hconfigured.symm, by rw [hs.mapper]; exact huntracked⟩

/-- A new thread that no other configured thread shares its session with. -/
theorem Coupled.of_configured {m m' : CodexEventMapper} {bridge : Bridge World}
    (h : Coupled providerId m bridge) {thread : String} {session : SessionId}
    (hfresh : m.configured[thread]? = none)
    (halone : ∀ other, m.configured[other]? = some session → other = thread)
    (hprovider : m'.providerId = m.providerId) (hthreads : m'.threads = m.threads)
    (hconfigured : m'.configured = m.configured.insert thread session) :
    Coupled providerId m' bridge := by
  have hother : ∀ other : String, m.configured[other]? ≠ none → thread ≠ other := by
    rintro other hsome rfl
    exact hsome hfresh
  refine ⟨h.consistent, hprovider.trans h.provider, ?_, ?_, ?_, ?_⟩
  · intro other mapping hmapping
    rw [hthreads] at hmapping
    have hconf := h.configured other mapping hmapping
    rw [hconfigured, OrderedMap.getElem?_insert, if_neg (hother other (by simp [hconf]))]
    exact hconf
  · intro a b found ha hb
    rw [hconfigured, OrderedMap.getElem?_insert] at ha hb
    split at ha
    · next hta =>
      cases ha
      split at hb
      · next htb => exact hta.symm.trans htb
      · exact hta.symm.trans (halone b hb).symm
    · split at hb
      · next htb =>
        cases hb
        exact (halone a ha).trans htb
      · exact h.distinct a b found ha hb
  · rw [hthreads]
    exact h.aligned
  · rw [hthreads]
    exact h.exact

theorem TurnsListed.of_threads {m m' : CodexEventMapper} {payload : Value}
    (h : TurnsListed m payload) (hthreads : m'.threads = m.threads) : TurnsListed m' payload := by
  intro value thread hvalue hid huntracked
  rw [hthreads] at huntracked
  exact h value thread hvalue hid huntracked

open Mapping in
theorem lockstep_trackDiscoveredThread {s : MapperState (Hosted World)} {thread : String}
    (hs : Lockstep providerId s) (halone : StandsAlone s.mapper thread) :
    Lockstep providerId (trackDiscoveredThread thread s).2 ∧
      (trackDiscoveredThread thread s).2.mapper.threads = s.mapper.threads := by
  unfold trackDiscoveredThread
  simp only [bind_apply, Program.ofExcept]
  cases hparsed : domain (Ident.fromStr .session thread) with
  | error e => exact ⟨hs, rfl⟩
  | ok session =>
    have hsession : Ident.fromStr .session thread = .ok session := Fallible.mapError_eq_ok.mp hparsed
    simp only [onMapper, Program.modify]
    split
    · exact ⟨hs, rfl⟩
    · next hnew =>
      have hfresh : s.mapper.configured[thread]? = none := by simpa using hnew
      refine ⟨⟨?_, hs.foreign⟩, rfl⟩
      exact hs.coupled.of_configured hfresh (halone session hsession) rfl rfl rfl

open Mapping in
theorem lockstep_startThread {s : MapperState (Hosted World)} {thread : String} {result : Value}
    (hs : Lockstep providerId s) (halone : StandsAlone s.mapper thread)
    (hturns : TurnsListed s.mapper result) :
    Lockstep providerId (startThread (hosted ports providerId clock ids) thread result s).2 := by
  obtain ⟨htracked, hthreads⟩ := lockstep_trackDiscoveredThread hs halone
  unfold startThread
  rcases hrun : trackDiscoveredThread thread s with ⟨r, s'⟩
  rw [hrun] at htracked hthreads
  cases r with
  | error e =>
    rw [Program.bind_of_error hrun]
    exact htracked
  | ok u =>
    rw [Program.bind_of_ok hrun]
    exact (lockstep_resumeThread (hturns.of_threads hthreads)).exits ⟨htracked, rfl⟩

open Mapping in
theorem lockstep_threadStarted {s : MapperState (Hosted World)} {params : Value}
    (hs : Lockstep providerId s)
    (halone : ∀ thread, nestedId params "thread" = some thread → StandsAlone s.mapper thread)
    (hturns : TurnsListed s.mapper params) :
    Lockstep providerId (threadStarted (hosted ports providerId clock ids) params s).2 := by
  unfold threadStarted
  simp only [bind_apply, Program.ofExcept]
  cases hvalue : objectField params "thread" with
  | error e => exact hs
  | ok value =>
    dsimp only
    cases hthread : stringField value "id" with
    | error e => exact hs
    | ok thread =>
      simp only [Program.reads, Program.ite_apply]
      split
      · exact hs
      · -- a thread that is new is configured first
        have hconfigure : ∃ r s', (Program.when (!s.mapper.configured.contains thread) (do
              let sessionId ← Program.ofExcept (domain (Ident.fromStr .session thread))
              onMapper fun m =>
                { m with
                  configured := m.configured.insert thread sessionId
                  observerResumes := m.observerResumes.insert thread }) :
                Mapping (Hosted World) Unit) s = (r, s') ∧ Lockstep providerId s' ∧
              s'.mapper.threads = s.mapper.threads := by
          unfold Program.when
          rw [Program.ite_apply]
          split
          · next hnew =>
            have habsent : ¬ s.mapper.configured.contains thread = true := by
              intro hknown
              rw [hknown] at hnew
              cases hnew
            simp only [bind_apply, Program.ofExcept]
            cases hparsed : domain (Ident.fromStr .session thread) with
            | error e => exact ⟨_, _, rfl, hs, rfl⟩
            | ok session =>
              have hsession : Ident.fromStr .session thread = .ok session :=
                Fallible.mapError_eq_ok.mp hparsed
              have hfresh : s.mapper.configured[thread]? = none := by simpa using habsent
              refine ⟨_, _, rfl, ⟨?_, hs.foreign⟩, rfl⟩
              exact hs.coupled.of_configured hfresh
                (halone thread (nestedId_of_fields hvalue hthread) session hsession) rfl rfl rfl
          · exact ⟨_, _, rfl, hs, rfl⟩
        obtain ⟨r, s', hran, hs', hthreads⟩ := hconfigure
        cases r with
        | error e =>
          rw [Program.bind_of_error hran]
          exact hs'
        | ok u =>
          rw [Program.bind_of_ok hran]
          have hresumed : Lockstep providerId
              (resumeThread (hosted ports providerId clock ids) params s').2 :=
            (lockstep_resumeThread (hturns.of_threads hthreads)).exits ⟨hs', rfl⟩
          rcases hresume : resumeThread (hosted ports providerId clock ids) params s' with ⟨result, t⟩
          rw [hresume] at hresumed
          cases result with
          | error e =>
            rw [Program.bind_of_error hresume]
            exact hresumed
          | ok v =>
            rw [Program.bind_of_ok hresume]
            exact hresumed

end Starting

namespace MapperOp

/-- The thread that an operation configures, if it is new. -/
def configures (m : CodexEventMapper) : MapperOp → Option String
  | .trackDiscoveredThread threadId => some threadId
  | .startThread threadId _ => some threadId
  | .notification method params =>
    if method = "thread/started" ∧ m.discoverThreads then nestedId params "thread" else none
  | _ => none

end MapperOp

namespace MapperState

variable {World : Type} {ports : Ports World} {providerId : ProviderId} {clock : Nat → Timestamp}
  {ids : (k : IdKind) → Nat → Ident k}

/-- A payload that starts a session lists its turns, and a new thread does not spell the
session of another one. -/
structure KeepsStep (s : MapperState (Hosted World)) (op : MapperOp) : Prop where
  turns : ∀ payload ∈ op.resumed s.mapper, TurnsListed s.mapper payload
  alone : ∀ thread ∈ op.configures s.mapper, StandsAlone s.mapper thread

open Mapping in
/-- One operation keeps mapper and bridge in step, whether it succeeds or fails. -/
theorem step_lockstep {s : MapperState (Hosted World)} {op : MapperOp} (hs : Lockstep providerId s)
    (hop : KeepsStep s op) : Lockstep providerId (s.step (hosted ports providerId clock ids) op).1 := by
  have h : Copied (hosted ports providerId clock ids) (@Lockstep World providerId) := lockstep_copied
  cases op with
  | notification method params =>
    have hstate : (s.step (hosted ports providerId clock ids) (.notification method params)).1 =
        (notification (hosted ports providerId clock ids) method params s).2 :=
      Program.discard_state _ s
    rw [hstate, notification_apply]
    split
    · next hdiscovers =>
      apply lockstep_threadStarted hs
      · intro thread hthread
        exact hop.alone thread ((if_pos hdiscovers).trans hthread)
      · exact hop.turns params (if_pos hdiscovers)
    · exact (copied_notifyThread h method params).holds s hs
  | resumeThread result =>
    exact (lockstep_resumeThread (hop.turns result rfl)).exits ⟨hs, rfl⟩
  | approvalContext threadId turnId itemId =>
    exact (Preserves.bind (copied_approvalContext h threadId turnId itemId) fun _ =>
      Preserves.pure _).holds s hs
  | beginReconnect => exact (copied_beginReconnect h).holds s hs
  | disconnectAll => exact (copied_disconnectAll h).holds s hs
  | publishPayload threadId occurredAt payload =>
    exact (copied_publishPayload h threadId occurredAt payload).holds s hs
  | publishHistoryItems threadId entries =>
    exact (copied_publishHistoryItems h threadId entries).holds s hs
  | trackDiscoveredThread threadId =>
    exact (lockstep_trackDiscoveredThread hs (hop.alone threadId rfl)).1
  | startThread threadId result =>
    exact lockstep_startThread hs (hop.alone threadId rfl) (hop.turns result rfl)
  | publishLocalChoice threadId request plan =>
    exact (copied_publishLocalChoice h threadId request plan).holds s hs
  | closeLocalChoice id => exact (copied_closeLocalChoice h id).holds s hs
  | respondLocalChoice threadId response =>
    exact (Preserves.bind (copied_respondLocalChoice h threadId response) fun _ =>
      Preserves.pure _).holds s hs
  | dismissLocalPlan threadId => exact (copied_dismissPlan h threadId).holds s hs
  | dismissPlan threadId =>
    exact ⟨hs.coupled.of_copies (sameCopies_updateThread _ threadId fun _ => rfl), hs.foreign⟩
  | deferObserverResume threadId => exact ⟨hs.coupled.of_copies (.of_threads rfl rfl rfl), hs.foreign⟩
  | retryObserverResume threadId =>
    exact ⟨hs.coupled.of_copies (sameCopies_retryObserverResume _ threadId), hs.foreign⟩
  | takeObserverResumes => exact ⟨hs.coupled.of_copies (.of_threads rfl rfl rfl), hs.foreign⟩

/-- Mapper and bridge agree: every tracked thread with its session, and on which sessions
there are. -/
structure InStep (providerId : ProviderId) (m : CodexEventMapper) (bridge : Bridge World) : Prop where
  aligned : ∀ (thread : String) mapping, m.threads[thread]? = some mapping →
    ∃ aggregate, bridge.Owns providerId mapping.sessionId aggregate ∧ Agrees mapping aggregate
  present : ∀ (thread : String) session, m.configured[thread]? = some session →
    ((∃ aggregate, bridge.Owns providerId session aggregate) ↔ m.threads.contains thread = true)
  exact : ∀ session aggregate, bridge.Owns providerId session aggregate →
    ∃ thread : String, m.configured[thread]? = some session ∧ m.threads.contains thread = true

theorem inStep_of_coupled {m : CodexEventMapper} {bridge : Bridge World}
    (h : Coupled providerId m bridge) : InStep providerId m bridge := by
  have htracked : ∀ {thread : String} {mapping : ThreadMapping},
      m.threads[thread]? = some mapping → m.threads.contains thread = true := by
    intro thread mapping hmapping
    rw [ExtTreeMap.contains_eq_isSome_getElem?, hmapping]
    rfl
  refine ⟨h.aligned, ?_, ?_⟩
  · intro thread session hconfigured
    constructor
    · rintro ⟨aggregate, howned⟩
      obtain ⟨other, mapping, hmapping, rfl⟩ := h.exact session aggregate howned
      have hsame : other = thread :=
        h.distinct other thread _ (h.configured other mapping hmapping) hconfigured
      rw [← hsame]
      exact htracked hmapping
    · intro hcontains
      rw [ExtTreeMap.contains_eq_isSome_getElem?, Option.isSome_iff_exists] at hcontains
      obtain ⟨mapping, hmapping⟩ := hcontains
      obtain ⟨aggregate, howned, -⟩ := h.aligned thread mapping hmapping
      have hsession := h.configured thread mapping hmapping
      rw [hconfigured] at hsession
      rw [Option.some.inj hsession]
      exact ⟨aggregate, howned⟩
  · intro session aggregate howned
    obtain ⟨thread, mapping, hmapping, rfl⟩ := h.exact session aggregate howned
    exact ⟨thread, h.configured thread mapping hmapping, htracked hmapping⟩

/-- The configured sessions of a new mapper are those of the listed threads. -/
theorem configured_new {threads : List ConfiguredThread} {discover : Bool} {thread : String}
    {session : SessionId}
    (h : (CodexEventMapper.new providerId threads discover).configured[thread]? = some session) :
    ∃ entry ∈ threads, entry.externalId.text.asStr = thread ∧ entry.sessionId = session := by
  have hfold : ∀ (entries : List ConfiguredThread) (m : ExtTreeMap String SessionId),
      (entries.foldl (fun m entry => m.insert entry.externalId.text.asStr entry.sessionId)
        m)[thread]? = some session →
      m[thread]? = some session ∨
        ∃ entry ∈ entries, entry.externalId.text.asStr = thread ∧ entry.sessionId = session := by
    intro entries
    induction entries with
    | nil => exact fun m hm => .inl hm
    | cons entry rest ih =>
      intro m hm
      rcases ih _ hm with hinserted | ⟨found, hfound, hid⟩
      · rw [OrderedMap.getElem?_insert] at hinserted
        split at hinserted
        · next hthread => exact .inr ⟨entry, by simp, hthread, Option.some.inj hinserted⟩
        · exact .inl hinserted
      · exact .inr ⟨found, by simp [hfound], hid⟩
  rcases hfold threads ∅ h with hempty | hlisted
  · simp at hempty
  · exact hlisted

/-- The mapper of a provider before its first operation, over a bridge that others have used. -/
def initial (ports : Ports World) (providerId : ProviderId) (threads : List ConfiguredThread)
    (discover : Bool) (config : SessionAggregateConfig) (world : World) (setup : List BridgeOp)
    (arrivals : List Arrival) : MapperState (Hosted World) where
  mapper := .new providerId threads discover
  host := ⟨Bridge.run ports config world setup, arrivals, 0⟩

/-- No two configured threads stand for one session. -/
def DistinctSessions (threads : List ConfiguredThread) : Prop :=
  ∀ a ∈ threads, ∀ b ∈ threads, a.sessionId = b.sessionId → a.externalId = b.externalId

theorem lockstep_initial {threads : List ConfiguredThread} (hdistinct : DistinctSessions threads)
    (discover : Bool) (config : SessionAggregateConfig) (world : World) {setup : List BridgeOp}
    (hsetup : ∀ op ∈ setup, op.publishes providerId = false) {arrivals : List Arrival}
    (harrivals : ForeignArrivals providerId arrivals) :
    Lockstep providerId (initial ports providerId threads discover config world setup arrivals) := by
  obtain ⟨hcon, howns⟩ := Bridge.final_owns ports
    (Bridge.consistent_withSessionConfig config world) hsetup
  refine ⟨⟨hcon, rfl, ?_, ?_, ?_, ?_⟩, harrivals⟩
  · intro thread mapping hmapping
    simp [initial, CodexEventMapper.new] at hmapping
  · intro a b session ha hb
    obtain ⟨first, hfirst, rfl, hs⟩ := configured_new ha
    obtain ⟨second, hsecond, rfl, hs'⟩ := configured_new hb
    rw [hdistinct first hfirst second hsecond (hs.trans hs'.symm)]
  · intro thread mapping hmapping
    simp [initial, CodexEventMapper.new] at hmapping
  · intro session aggregate howned
    have hempty := ((howns session aggregate).mp howned).stored
    simp [Bridge.withSessionConfig] at hempty

/-- Over every run, with publications accepted, committed but undelivered, or refused in any
mix, mapper and bridge agree after every operation. -/
theorem run_lockstep (ports : Ports World) (providerId : ProviderId) (clock : Nat → Timestamp)
    (ids : (k : IdKind) → Nat → Ident k) (threads : List ConfiguredThread) (discover : Bool)
    (config : SessionAggregateConfig) (world : World) (setup : List BridgeOp)
    (arrivals : List Arrival) (ops : List MapperOp) (hdistinct : DistinctSessions threads)
    (hsetup : ∀ op ∈ setup, op.publishes providerId = false)
    (harrivals : ForeignArrivals providerId arrivals)
    (hops : Trace.Along (step (hosted ports providerId clock ids)) KeepsStep
      (initial ports providerId threads discover config world setup arrivals) ops) :
    InStep providerId
      (Trace.final (step (hosted ports providerId clock ids))
        (initial ports providerId threads discover config world setup arrivals) ops).mapper
      (Trace.final (step (hosted ports providerId clock ids))
        (initial ports providerId threads discover config world setup arrivals) ops).host.bridge := by
  have hfinal : Lockstep providerId (Trace.final (step (hosted ports providerId clock ids))
      (initial ports providerId threads discover config world setup arrivals) ops) :=
    Trace.along_invariant (step (hosted ports providerId clock ids)) KeepsStep (Lockstep providerId)
      (fun s op hs hop => step_lockstep hs hop) hops
      (lockstep_initial hdistinct discover config world hsetup harrivals)
  exact inStep_of_coupled hfinal.coupled

open AgentPulse.Codex.Sample (threadStarted turnStarted)

/-- The provider registered in a bridge whose channels take everything. -/
def sampleHost : ProviderHost (Hosted Unit) :=
  hosted AgentPulse.Sample.accepting (Ident.numbered .provider 0) (fun _ => AgentPulse.Sample.instant)
    Ident.numbered

def sampleStart (threads : List ConfiguredThread) (arrivals : List Arrival) :
    MapperState (Hosted Unit) :=
  initial AgentPulse.Sample.accepting (Ident.numbered .provider 0) threads threads.isEmpty .default ()
    [.registerProvider (AgentPulse.Sample.provider 0)] arrivals

theorem keepsStep_started (arrivals : List Arrival) :
    KeepsStep (sampleStart [] arrivals) threadStarted := by
  constructor
  · intro payload hpayload value thread hvalue hid _
    cases hpayload
    cases hvalue
    exact ⟨none, rfl⟩
  · intro thread _ session _ other hother
    cases hother

theorem keepsStep_turnStarted (s : MapperState (Hosted Unit)) (id : String) :
    KeepsStep s (turnStarted id) := by
  constructor
  · intro payload hpayload
    have hnone : (turnStarted id).resumed s.mapper = none := by
      simp [turnStarted, MapperOp.resumed]
    rw [hnone] at hpayload
    cases hpayload
  · intro thread hthread
    have hnone : (turnStarted id).configures s.mapper = none := by
      simp [turnStarted, MapperOp.configures]
    rw [hnone] at hthread
    cases hthread

/-- A refused publication leaves both sides where they were. -/
theorem run_lockstep_refused :
    InStep (Ident.numbered .provider 0)
      (Trace.final (step sampleHost) (sampleStart [] [⟨[], .admitted⟩, ⟨[], .inactive⟩])
        [threadStarted, turnStarted "t1"]).mapper
      (Trace.final (step sampleHost) (sampleStart [] [⟨[], .admitted⟩, ⟨[], .inactive⟩])
        [threadStarted, turnStarted "t1"]).host.bridge := by
  apply run_lockstep
  · intro a ha
    cases ha
  · decide
  · intro arrival harrival op hop
    simp only [List.mem_cons, List.not_mem_nil, or_false] at harrival
    rcases harrival with rfl | rfl <;> cases hop
  · exact ⟨keepsStep_started _, keepsStep_turnStarted _ "t1", trivial⟩

/-- A thread whose session exists although it is not tracked. -/
theorem not_inStep {m : CodexEventMapper} {bridge : Bridge World} (thread : String)
    (session : SessionId) (hconfigured : m.configured[thread]? = some session)
    (hstored : bridge.sessions[session]?.map (fun aggregate => aggregate.session.providerId) =
      some providerId) (huntracked : m.threads.contains thread = false) :
    ¬ InStep providerId m bridge := by
  intro h
  obtain ⟨aggregate, haggregate, howner⟩ := Option.map_eq_some_iff.mp hstored
  have htracked := (h.present thread session hconfigured).mp ⟨aggregate, haggregate, howner⟩
  rw [huntracked] at htracked
  cases htracked

def configuredThread (id : String) (h : isBlank id = false) : ConfiguredThread :=
  ⟨⟨⟨id, h⟩⟩, Ident.numbered .session 10⟩

/-- Two spellings of one identifier, which the configuration takes for two threads. -/
def spelledTwice : List ConfiguredThread :=
  [configuredThread "00000000-0000-7000-0000-00000000000a" (by decide),
    configuredThread "00000000-0000-7000-0000-00000000000A" (by decide)]

/-- The answer to the resume of the first of them, with or without turns. -/
def resumeAnswer (turns : List (String × Value)) : MapperOp :=
  .resumeThread (.object [("thread", .object (turns ++ [
    ("createdAt", .int 1), ("cwd", .string "/work"),
    ("id", .string "00000000-0000-7000-0000-00000000000a"), ("preview", .string "sample"),
    ("status", Sample.idle), ("updatedAt", .int 2)]))])

/-- A session that two configured threads stand for leaves one of them out of step; a first
resume without turns fails after it has started the session. -/
theorem out_of_step :
    (spelledTwice.map fun entry => Ident.fromStr .session entry.externalId.text.asStr) =
      spelledTwice.map (fun entry => .ok entry.sessionId) ∧
    ¬ InStep (Ident.numbered .provider 0)
      ((sampleStart spelledTwice []).step sampleHost (resumeAnswer [("turns", .array [])])).1.mapper
      ((sampleStart spelledTwice []).step sampleHost
        (resumeAnswer [("turns", .array [])])).1.host.bridge ∧
    ((sampleStart (spelledTwice.take 1) []).step sampleHost (resumeAnswer [])).2 =
      .error (.protocol "turns must be an array") ∧
    ¬ InStep (Ident.numbered .provider 0)
      ((sampleStart (spelledTwice.take 1) []).step sampleHost (resumeAnswer [])).1.mapper
      ((sampleStart (spelledTwice.take 1) []).step sampleHost (resumeAnswer [])).1.host.bridge := by
  refine ⟨?_, ?_, ?_, ?_⟩
  · decide +kernel
  · apply not_inStep "00000000-0000-7000-0000-00000000000A" (Ident.numbered .session 10) <;>
      decide +kernel
  · decide +kernel
  · apply not_inStep "00000000-0000-7000-0000-00000000000a" (Ident.numbered .session 10) <;>
      decide +kernel

end MapperState

end Codex

end AgentPulse
