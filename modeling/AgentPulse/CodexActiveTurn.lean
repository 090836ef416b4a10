import AgentPulse.CodexSection

/-!
# The running turn of a thread

Five places write the turn that a thread is taken to run. All of them keep a
running turn, except the completion of that very turn and a resume of the
tracked thread, which takes over whatever turn its payload lists.
-/
namespace AgentPulse

namespace Codex

open Std (ExtTreeMap)
open Program (Preserves bind_apply)
open Serde (Json)

namespace CodexEventMapper

/-- The turn that a thread is taken to run. -/
def activeTurn (self : CodexEventMapper) (threadId : String) : Option String :=
  self.threads[threadId]?.bind ThreadMapping.activeTurnId

theorem threads_updateThread (self : CodexEventMapper) (id threadId : String)
    (f : ThreadMapping → ThreadMapping) :
    (self.updateThread id f).threads[threadId]? =
      if id = threadId then self.threads[threadId]?.map f else self.threads[threadId]? := by
  unfold updateThread
  cases h : self.threads[id]? with
  | none =>
    by_cases hid : id = threadId
    · subst hid
      simp [h]
    · simp [hid]
  | some mapping =>
    simp only [OrderedMap.getElem?_insert]
    by_cases hid : id = threadId
    · subst hid
      simp [h]
    · simp [hid]

theorem activeTurn_updateThread_other (self : CodexEventMapper) {id threadId : String}
    (f : ThreadMapping → ThreadMapping) (h : id ≠ threadId) :
    (self.updateThread id f).activeTurn threadId = self.activeTurn threadId := by
  simp [activeTurn, threads_updateThread, h]

/-- An update that does not touch the running turn. -/
theorem activeTurn_updateThread_keep (self : CodexEventMapper) (id threadId : String)
    {f : ThreadMapping → ThreadMapping} (hf : ∀ mapping, (f mapping).activeTurnId = mapping.activeTurnId) :
    (self.updateThread id f).activeTurn threadId = self.activeTurn threadId := by
  unfold activeTurn
  rw [threads_updateThread]
  split
  · cases self.threads[threadId]? with
    | none => rfl
    | some mapping => simp [hf]
  · rfl

theorem activeTurn_congr {m m' : CodexEventMapper} (h : m'.threads = m.threads)
    (threadId : String) : m'.activeTurn threadId = m.activeTurn threadId := by
  unfold activeTurn
  rw [h]

theorem activeTurn_rememberKey (self : CodexEventMapper) (key threadId : String) :
    (self.rememberKey key).activeTurn threadId = self.activeTurn threadId := by
  apply activeTurn_congr
  unfold rememberKey
  dsimp only
  split
  · split <;> rfl
  · rfl

theorem activeTurn_retryObserverResume (self : CodexEventMapper) (id threadId : String) :
    (self.retryObserverResume id).activeTurn threadId = self.activeTurn threadId := by
  apply activeTurn_congr
  unfold retryObserverResume
  split <;> rfl

end CodexEventMapper

namespace Mapping

variable {B : Type} {host : ProviderHost B} {thread turn : String} {P : Option String → Prop}

/-- The thread is taken to run the turn. -/
def Running (thread turn : String) (s : MapperState B) : Prop :=
  s.mapper.activeTurn thread = some turn

/-- What holds of the turn that a thread is taken to run. -/
def OfTurn (thread : String) (P : Option String → Prop) (s : MapperState B) : Prop :=
  P (s.mapper.activeTurn thread)

theorem preserves_onMapper {f : CodexEventMapper → CodexEventMapper}
    (h : ∀ m, (f m).activeTurn thread = m.activeTurn thread) :
    Preserves (OfTurn thread P) (onMapper f : Mapping B Unit) := by
  constructor
  intro s hs
  show P ((f s.mapper).activeTurn thread)
  rw [h s.mapper]
  exact hs

/-- A step of the host leaves the mapper alone. -/
theorem preserves_host {α : Type} {f : MapperState B → α × MapperState B}
    (h : ∀ s, (f s).2.mapper = s.mapper) :
    Preserves (OfTurn thread P) (Program.update f : Mapping B α) := by
  constructor
  intro s hs
  have hm : (f s).2.mapper = s.mapper := h s
  show P ((f s).2.mapper.activeTurn thread)
  rw [hm]
  exact hs

theorem preserves_nowUtc : Preserves (OfTurn thread P) (nowUtc host) :=
  preserves_host fun _ => rfl

theorem preserves_newId (k : IdKind) : Preserves (OfTurn thread P) (newId host k) :=
  preserves_host fun _ => rfl

theorem preserves_timestampOr (value : Option Int) (multiplier : Int) :
    Preserves (OfTurn thread P) (timestampOr host value multiplier) := by
  cases value with
  | none => exact preserves_nowUtc
  | some value => exact Preserves.ofExcept _

theorem preserves_trackedThread (threadId : String) :
    Preserves (OfTurn thread P) (trackedThread threadId : Mapping B ThreadMapping) := by
  apply Preserves.bind (Preserves.reads _)
  intro mapping
  cases mapping with
  | none => exact Preserves.fail _
  | some mapping => exact Preserves.pure _

theorem preserves_publishCommitted (event : AgentEvent) :
    Preserves (OfTurn thread P) (publishCommitted host event) := by
  apply Preserves.bind (preserves_host fun _ => rfl)
  intro result
  cases result with
  | ok report => exact Preserves.pure _
  | error error => exact Preserves.ite (fun _ => Preserves.pure _) fun _ => Preserves.fail _

theorem activeTurnId_apply (payload : PayloadState) (mapping : ThreadMapping) :
    (payload.apply mapping).activeTurnId = mapping.activeTurnId := by
  cases payload <;> rfl

theorem preserves_publishTracked (threadId : String) (occurredAt : Timestamp)
    (payload : AgentEventPayload) :
    Preserves (OfTurn thread P) (publishTracked host threadId occurredAt payload) := by
  apply Preserves.bind (preserves_trackedThread threadId)
  intro mapping
  apply Preserves.bind (preserves_newId .event)
  intro id
  apply Preserves.bind (Preserves.ofExcept _)
  intro event
  apply Preserves.bind (preserves_publishCommitted event)
  intro _
  apply Preserves.bind (preserves_trackedThread threadId)
  intro mapping
  cases mapping.nextSequence.checkedNext with
  | none => exact Preserves.fail _
  | some next =>
    apply preserves_onMapper
    intro m
    exact m.activeTurn_updateThread_keep threadId thread fun mapping => activeTurnId_apply _ _

theorem preserves_closeLocalChoice (id : InteractionId) :
    Preserves (OfTurn thread P) (closeLocalChoice host id) := by
  apply Preserves.bind (Preserves.reads _)
  intro choice
  cases choice with
  | none => exact Preserves.pure _
  | some choice =>
    apply Preserves.bind
    · exact preserves_onMapper fun _ => rfl
    intro _
    apply Preserves.bind (Preserves.reads _)
    intro mapping
    cases mapping with
    | none => exact Preserves.fail _
    | some mapping =>
      exact Preserves.bind preserves_nowUtc fun now => preserves_publishTracked _ _ _

theorem preserves_closeLocalChoices (threadId : String) :
    Preserves (OfTurn thread P) (closeLocalChoices host threadId) :=
  Preserves.bind (Preserves.reads _) fun _ =>
    Preserves.forEach fun id _ => preserves_closeLocalChoice id

theorem preserves_publishPayload (threadId : String) (occurredAt : Timestamp)
    (payload : AgentEventPayload) :
    Preserves (OfTurn thread P) (publishPayload host threadId occurredAt payload) := by
  apply Preserves.bind (Preserves.reads _)
  intro payload
  apply Preserves.bind (Preserves.when fun _ => preserves_closeLocalChoices threadId)
  intro _
  exact preserves_publishTracked _ _ _

/-- The publications that take the current time as their instant. -/
theorem preserves_publishNow (threadId : String) (payload : AgentEventPayload) :
    Preserves (OfTurn thread P)
      (nowUtc host >>= fun now => publishPayload host threadId now payload) :=
  Preserves.bind preserves_nowUtc fun _ => preserves_publishPayload _ _ _

theorem preserves_publishLocalChoice (threadId : String) (request : InteractionRequest)
    (plan : Bool) :
    Preserves (OfTurn thread P) (publishLocalChoice host threadId request plan) := by
  apply Preserves.bind (Preserves.reads _)
  intro waiting
  apply Preserves.ite (fun _ => Preserves.pure _)
  intro _
  apply Preserves.bind preserves_nowUtc
  intro now
  apply Preserves.bind (preserves_publishPayload _ _ _)
  intro _
  exact preserves_onMapper fun _ => rfl

theorem preserves_announceConnection (connection : ConnectionState) (threadId : String) :
    Preserves (OfTurn thread P) (announceConnection host connection threadId) := by
  apply Preserves.bind (Preserves.reads _)
  intro needsEvent
  exact Preserves.when fun _ => preserves_publishNow threadId _

theorem preserves_beginReconnect : Preserves (OfTurn thread P) (beginReconnect host) :=
  Preserves.bind (Preserves.reads _) fun _ =>
    Preserves.forEach fun threadId _ => preserves_announceConnection _ threadId

theorem preserves_disconnectAll : Preserves (OfTurn thread P) (disconnectAll host) := by
  apply Preserves.bind (Preserves.reads _)
  intro threadIds
  apply Preserves.forEach
  intro threadId _
  exact Preserves.bind (Preserves.attempt (preserves_announceConnection _ threadId)) fun _ =>
    Preserves.pure _

theorem preserves_publishHistoryItems (threadId : String) (entries : List Value) :
    Preserves (OfTurn thread P) (publishHistoryItems host threadId entries) := by
  apply Preserves.forEach
  intro entry _
  apply Preserves.bind (Preserves.ofExcept _)
  intro item
  apply Preserves.bind (Preserves.ofExcept _)
  intro message
  cases message with
  | none => exact Preserves.pure _
  | some message =>
    apply Preserves.ite (fun _ => Preserves.pure _)
    intro _
    apply Preserves.bind preserves_nowUtc
    intro now
    apply Preserves.bind (Preserves.ofExcept _)
    intro content
    exact preserves_publishPayload _ _ _

theorem preserves_trackDiscoveredThread (threadId : String) :
    Preserves (OfTurn thread P) (trackDiscoveredThread threadId : Mapping B Unit) := by
  apply Preserves.bind (Preserves.ofExcept _)
  intro sessionId
  apply preserves_onMapper
  intro m
  apply CodexEventMapper.activeTurn_congr
  split <;> rfl

theorem preserves_dismissPlan (threadId : String) :
    Preserves (OfTurn thread P) (dismissPlan host threadId) := by
  apply Preserves.bind (Preserves.reads _)
  intro waiting
  apply Preserves.bind
  · exact preserves_onMapper fun m =>
      m.activeTurn_updateThread_keep threadId thread fun _ => rfl
  intro _
  apply Preserves.bind (Preserves.reads _)
  intro ids
  apply Preserves.bind (Preserves.forEach fun id _ => preserves_closeLocalChoice id)
  intro _
  exact Preserves.when fun _ => preserves_publishNow threadId _

theorem preserves_respondLocalChoice (threadId : String) (response : InteractionResponse) :
    Preserves (OfTurn thread P) (respondLocalChoice host threadId response) := by
  apply Preserves.bind (Preserves.reads _)
  intro live
  apply Preserves.ite (fun _ => Preserves.pure _)
  intro _
  apply Preserves.bind preserves_nowUtc
  intro now
  apply Preserves.bind (preserves_publishPayload _ _ _)
  intro _
  apply Preserves.bind
  · exact preserves_onMapper fun _ => rfl
  intro _
  exact Preserves.pure _

/-- What follows the lookup of a thread may use the mapping that was found. -/
theorem preserves_trackedThread_bind {α : Type} {threadId : String}
    {f : ThreadMapping → Mapping B α}
    (h : ∀ (s : MapperState B) mapping, OfTurn thread P s →
      s.mapper.threads[threadId]? = some mapping →
      OfTurn thread P (f mapping s).2) :
    Preserves (OfTurn thread P) (trackedThread threadId >>= f) := by
  constructor
  intro s hs
  unfold trackedThread
  simp only [bind_apply, Program.reads]
  cases hm : s.mapper.threads[threadId]? with
  | none => exact hs
  | some mapping => exact h s mapping hs hm

theorem activeTurn_of_mapping {m : CodexEventMapper} {threadId : String} {mapping : ThreadMapping}
    (hm : m.threads[threadId]? = some mapping) : m.activeTurn threadId = mapping.activeTurnId := by
  unfold CodexEventMapper.activeTurn
  rw [hm]
  rfl

/-- Writing the running turn of a tracked thread. -/
theorem ofTurn_write {s : MapperState B} {threadId : String} {mapping : ThreadMapping}
    {f : ThreadMapping → ThreadMapping} (hs : OfTurn thread P s)
    (hm : s.mapper.threads[threadId]? = some mapping)
    (hwrite : threadId = thread → P mapping.activeTurnId → P (f mapping).activeTurnId) :
    OfTurn thread P { s with mapper := s.mapper.updateThread threadId f } := by
  by_cases hid : threadId = thread
  · subst hid
    have hbefore : P mapping.activeTurnId := by
      rw [← activeTurn_of_mapping hm]
      exact hs
    have hafter : (s.mapper.updateThread threadId f).threads[threadId]? = some (f mapping) := by
      rw [CodexEventMapper.threads_updateThread, if_pos rfl, hm]
      rfl
    show P ((s.mapper.updateThread threadId f).activeTurn threadId)
    rw [activeTurn_of_mapping hafter]
    exact hwrite rfl hbefore
  · show P ((s.mapper.updateThread threadId f).activeTurn thread)
    rw [s.mapper.activeTurn_updateThread_other f hid]
    exact hs

/-- An idle thread takes over the turn of a notification. -/
theorem preserves_ensureActiveTurn {threadId turnId : String}
    (h : threadId = thread → P none → P (some turnId)) :
    Preserves (OfTurn thread P) (ensureActiveTurn threadId turnId : Mapping B Unit) := by
  apply preserves_trackedThread_bind
  intro s mapping hs hm
  cases hactive : mapping.activeTurnId with
  | some active =>
    exact (Preserves.ite (fun _ => Preserves.fail _) fun _ => Preserves.pure _).holds s hs
  | none =>
    apply ofTurn_write hs hm
    rw [hactive]
    exact h

theorem preserves_approvalContext {threadId turnId : String} (itemId : String)
    (h : threadId = thread → P none → P (some turnId)) :
    Preserves (OfTurn thread P) (approvalContext threadId turnId itemId :
      Mapping B (Option (SessionId × Option Value))) := by
  apply Preserves.bind (Preserves.reads _)
  intro known
  apply Preserves.ite (fun _ => Preserves.pure _)
  intro _
  apply Preserves.bind (preserves_ensureActiveTurn h)
  intro _
  apply Preserves.bind (preserves_trackedThread threadId)
  intro mapping
  exact Preserves.bind (Preserves.reads _) fun _ => Preserves.pure _

theorem preserves_threadSettingsUpdated (threadId : String) (params : Value) :
    Preserves (OfTurn thread P)
      (threadSettingsUpdated threadId params : Mapping B MappingDisposition) := by
  apply Preserves.bind (Preserves.ofExcept _)
  intro settings
  apply Preserves.bind (Preserves.ofExcept _)
  intro model
  apply Preserves.bind (Preserves.ofExcept _)
  intro reasoningEffort
  apply Preserves.bind (preserves_trackedThread threadId)
  intro _
  apply Preserves.bind
  · exact preserves_onMapper fun m =>
      m.activeTurn_updateThread_keep threadId thread fun _ => rfl
  intro _
  exact Preserves.pure _

theorem preserves_itemStarted {threadId : String} {params : Value}
    (h : threadId = thread → ∀ turnId, (params.get "turnId").bind Json.asStr = some turnId →
      P none → P (some turnId)) :
    Preserves (OfTurn thread P)
      (itemStarted threadId params : Mapping B MappingDisposition) := by
  apply Preserves.ofExcept_bind
  intro turnId hturnId
  apply Preserves.bind (preserves_ensureActiveTurn fun hid => h hid turnId (string_of_ok hturnId))
  intro _
  apply Preserves.bind (Preserves.ofExcept _)
  intro item
  apply Preserves.bind (Preserves.ofExcept _)
  intro itemId
  apply Preserves.bind
  · exact preserves_onMapper fun _ => rfl
  intro _
  exact Preserves.pure _

theorem preserves_fileChangePatchUpdated {threadId : String} {params : Value}
    (h : threadId = thread → ∀ turnId, (params.get "turnId").bind Json.asStr = some turnId →
      P none → P (some turnId)) :
    Preserves (OfTurn thread P)
      (fileChangePatchUpdated threadId params : Mapping B MappingDisposition) := by
  apply Preserves.ofExcept_bind
  intro turnId hturnId
  apply Preserves.bind (Preserves.ofExcept _)
  intro itemId
  apply Preserves.bind (preserves_ensureActiveTurn fun hid => h hid turnId (string_of_ok hturnId))
  intro _
  split
  · apply Preserves.bind (Preserves.reads _)
    intro item
    apply Preserves.bind
    · exact preserves_onMapper fun _ => rfl
    intro _
    apply Preserves.ite
    · intro _
      apply Preserves.bind
      · exact preserves_onMapper fun _ => rfl
      intro _
      exact Preserves.pure _
    · exact fun _ => Preserves.fail _
  · exact Preserves.fail _

theorem preserves_disconnectThread (threadId : String) :
    Preserves (OfTurn thread P) (disconnectThread host threadId) := by
  apply Preserves.bind (Preserves.reads _)
  intro mapping
  apply Preserves.ite (fun _ => Preserves.pure _)
  intro _
  apply Preserves.bind preserves_nowUtc
  intro now
  exact Preserves.bind (preserves_publishPayload _ _ _) fun _ => Preserves.pure _

theorem preserves_statusChanged (threadId : String) (statusValue : Value) :
    Preserves (OfTurn thread P) (statusChanged host threadId statusValue) := by
  apply Preserves.bind (Preserves.ofExcept _)
  intro statusType
  apply Preserves.ite (fun _ => preserves_disconnectThread threadId)
  intro _
  apply Preserves.bind (Preserves.ofExcept _)
  intro loaded
  apply Preserves.bind (Preserves.reads _)
  intro waiting
  apply Preserves.bind (preserves_trackedThread threadId)
  intro mapping
  apply Preserves.bind (Preserves.when fun _ => preserves_publishNow threadId _)
  intro _
  apply Preserves.bind (Preserves.when fun _ => preserves_publishNow threadId _)
  intro _
  exact Preserves.pure _

/-- A turn is started only on an idle thread. -/
theorem preserves_turnStarted {threadId : String} {params : Value}
    (h : threadId = thread → ∀ turnId, nestedId params "turn" = some turnId →
      P none → P (some turnId)) :
    Preserves (OfTurn thread P) (turnStarted host threadId params) := by
  apply Preserves.ofExcept_bind
  intro started hstarted
  apply Preserves.ofExcept_bind
  intro turnId hturnId
  apply Preserves.bind (Preserves.reads _)
  intro current
  apply Preserves.bind (Preserves.when fun _ => preserves_closeLocalChoices threadId)
  intro _
  apply Preserves.bind (Preserves.ofExcept _)
  intro startedAt
  apply Preserves.bind (preserves_timestampOr startedAt _)
  intro timestamp
  apply preserves_trackedThread_bind
  intro s mapping hs hm
  rw [Program.ite_apply]
  split
  · exact hs
  · cases hactive : mapping.activeTurnId with
    | some active => exact hs
    | none =>
      have hpublish : Preserves (OfTurn thread P) (do
          Program.when (mapping.state ≠ .running)
            (publishPayload host threadId timestamp (.stateChanged .running))
          pure (if mapping.state ≠ .running then .mapped else .validatedUnmapped) :
            Mapping B MappingDisposition) :=
        Preserves.bind (Preserves.when fun _ => preserves_publishPayload _ _ _) fun _ =>
          Preserves.pure _
      apply hpublish.holds
      apply ofTurn_write hs hm
      rw [hactive]
      exact fun hid => h hid turnId (nestedId_of_fields hstarted hturnId)

theorem preserves_itemCompleted {threadId : String} {params : Value}
    (h : threadId = thread → ∀ turnId, (params.get "turnId").bind Json.asStr = some turnId →
      P none → P (some turnId)) :
    Preserves (OfTurn thread P) (itemCompleted host threadId params) := by
  apply Preserves.ofExcept_bind
  intro turnId hturnId
  apply Preserves.bind (preserves_ensureActiveTurn fun hid => h hid turnId (string_of_ok hturnId))
  intro _
  apply Preserves.bind (Preserves.ofExcept _)
  intro item
  apply Preserves.bind (Preserves.ofExcept _)
  intro itemId
  apply Preserves.bind
  · exact preserves_onMapper fun _ => rfl
  intro _
  apply Preserves.bind (Preserves.ofExcept _)
  intro itemType
  apply Preserves.ite (fun _ => Preserves.pure _)
  intro _
  apply Preserves.bind (Preserves.ofExcept _)
  intro text
  apply Preserves.ite (fun _ => Preserves.pure _)
  intro _
  apply Preserves.bind (Preserves.ofExcept _)
  intro content
  apply Preserves.bind (preserves_trackedThread threadId)
  intro _
  apply Preserves.bind
  · exact preserves_onMapper fun m =>
      m.activeTurn_updateThread_keep threadId thread fun _ => rfl
  intro _
  apply Preserves.bind (Preserves.ofExcept _)
  intro completedAt
  apply Preserves.bind (preserves_timestampOr _ _)
  intro timestamp
  exact Preserves.bind (preserves_publishPayload _ _ _) fun _ => Preserves.pure _

theorem preserves_finishTurn {threadId turnId : String} {completed : Value}
    (h : threadId = thread → P none) :
    Preserves (OfTurn thread P) (finishTurn host threadId turnId completed) := by
  apply Preserves.bind (Preserves.ofExcept _)
  intro turnStatus
  apply Preserves.bind (Preserves.ofExcept _)
  intro completedAt
  apply Preserves.bind (preserves_timestampOr _ _)
  intro timestamp
  apply Preserves.bind (preserves_trackedThread threadId)
  intro mapping
  apply Preserves.bind (Preserves.ofExcept _)
  intro outcome
  apply Preserves.bind
  · exact preserves_onMapper fun m =>
      m.activeTurn_updateThread_keep threadId thread fun _ => rfl
  intro _
  apply Preserves.bind (preserves_publishPayload _ _ _)
  intro _
  apply Preserves.bind
  · constructor
    intro s hs
    cases hm : s.mapper.threads[threadId]? with
    | none =>
      show P ((s.mapper.updateThread threadId _).activeTurn thread)
      unfold CodexEventMapper.updateThread
      rw [hm]
      exact hs
    | some found => exact ofTurn_write hs hm fun hid _ => h hid
  intro _
  apply Preserves.bind
  · exact preserves_onMapper fun _ => rfl
  intro _
  exact Preserves.pure _

/-- The check of the running turn passes only for that turn, or on an idle thread. -/
theorem ensureActiveTurn_passes {s s' : MapperState B} {threadId turnId : String}
    (h : (ensureActiveTurn threadId turnId : Mapping B Unit) s = (.ok (), s')) :
    (s.mapper.activeTurn threadId = none ∨ s.mapper.activeTurn threadId = some turnId) ∧
      s'.mapper.activeTurn threadId = some turnId := by
  unfold ensureActiveTurn trackedThread at h
  simp only [bind_apply, Program.reads] at h
  cases hm : s.mapper.threads[threadId]? with
  | none =>
    simp only [hm] at h
    cases h
  | some mapping =>
    simp only [hm, Program.pure_apply] at h
    rw [activeTurn_of_mapping hm]
    cases hactive : mapping.activeTurnId with
    | some active =>
      simp only [hactive, Program.ite_apply] at h
      split at h
      · cases h
      · next hsame =>
        cases h
        rw [activeTurn_of_mapping hm, hactive, not_not.mp hsame]
        exact ⟨.inr rfl, rfl⟩
    | none =>
      simp only [hactive] at h
      cases h
      refine ⟨.inl rfl, ?_⟩
      have hafter : (s.mapper.updateThread threadId fun mapping =>
          { mapping with activeTurnId := some turnId }).threads[threadId]? =
          some { mapping with activeTurnId := some turnId } := by
        rw [CodexEventMapper.threads_updateThread, if_pos rfl, hm]
        rfl
      exact activeTurn_of_mapping hafter

/-- A completion takes over an idle thread and ends the turn it names. -/
theorem preserves_turnCompleted {threadId : String} {params : Value}
    (h : threadId = thread → ∀ turnId, nestedId params "turn" = some turnId →
      (P none → P (some turnId)) ∧ (P (some turnId) → P none)) :
    Preserves (OfTurn thread P) (turnCompleted host threadId params) := by
  apply Preserves.ofExcept_bind
  intro completed hcompleted
  apply Preserves.ofExcept_bind
  intro turnId hturnId
  have hnamed := nestedId_of_fields hcompleted hturnId
  constructor
  intro s hs
  show OfTurn thread P ((ensureActiveTurn threadId turnId >>= fun _ =>
    finishTurn host threadId turnId completed) s).2
  have hensured := (preserves_ensureActiveTurn (B := B) fun hid => (h hid turnId hnamed).1).holds s hs
  rcases hresult : (ensureActiveTurn threadId turnId : Mapping B Unit) s with ⟨result, s'⟩
  rw [hresult] at hensured
  cases result with
  | error e =>
    rw [Program.bind_of_error hresult]
    exact hensured
  | ok u =>
    rw [Program.bind_of_ok hresult]
    have hpasses := ensureActiveTurn_passes hresult
    refine (preserves_finishTurn ?_).holds s' hensured
    -- the turn that is ended is the one that the check left
    rintro rfl
    apply (h rfl turnId hnamed).2
    have hactive : P (s'.mapper.activeTurn threadId) := hensured
    rw [hpasses.2] at hactive
    exact hactive

/-- A repeated resume takes over the turn that its payload lists. -/
theorem preserves_resumeTracked {threadId : String} {value : Value}
    {model reasoningEffort : Option String}
    (h : threadId = thread → ∀ found, latestInProgressTurn value = .ok found → P found) :
    Preserves (OfTurn thread P)
      (resumeTracked host threadId value model reasoningEffort) := by
  apply Preserves.bind (Preserves.ofExcept _)
  intro updatedAt
  apply Preserves.bind (preserves_timestampOr _ _)
  intro observedAt
  apply Preserves.bind (Preserves.ofExcept _)
  intro statusValue
  apply Preserves.bind (Preserves.ofExcept _)
  intro observed
  apply Preserves.bind (preserves_trackedThread threadId)
  intro current
  apply Preserves.bind (Preserves.when fun _ => preserves_publishPayload _ _ _)
  intro _
  apply Preserves.bind (Preserves.when fun _ => preserves_publishPayload _ _ _)
  intro _
  apply Preserves.bind
  · exact preserves_onMapper fun m =>
      m.activeTurn_updateThread_keep threadId thread fun _ => rfl
  intro _
  apply Preserves.ofExcept_bind
  intro found hfound
  constructor
  intro s hs
  cases hm : s.mapper.threads[threadId]? with
  | none =>
    show P ((s.mapper.updateThread threadId _).activeTurn thread)
    unfold CodexEventMapper.updateThread
    rw [hm]
    exact hs
  | some mapping => exact ofTurn_write hs hm fun hid _ => h hid found hfound

theorem preserves_resumeNew {threadId : String} {sessionId : SessionId} {value : Value}
    {model reasoningEffort : Option String}
    (h : threadId = thread → ∀ found, latestInProgressTurn value = .ok found → P found) :
    Preserves (OfTurn thread P)
      (resumeNew host threadId sessionId value model reasoningEffort) := by
  apply Preserves.bind (Preserves.ofExcept _)
  intro created
  apply Preserves.bind (preserves_timestampOr _ _)
  intro createdAt
  apply Preserves.bind (Preserves.ofExcept _)
  intro updated
  apply Preserves.bind (preserves_timestampOr _ _)
  intro updatedAt
  apply Preserves.bind (Preserves.ofExcept _)
  intro statusValue
  apply Preserves.bind (Preserves.ofExcept _)
  intro status
  apply Preserves.bind (Preserves.ofExcept _)
  intro externalId
  apply Preserves.bind (Preserves.ofExcept _)
  intro title
  apply Preserves.bind (Preserves.ofExcept _)
  intro cwd
  apply Preserves.bind (Preserves.reads _)
  intro providerId
  apply Preserves.bind (Preserves.ofExcept _)
  intro session
  apply Preserves.bind (preserves_newId .event)
  intro id
  apply Preserves.bind (Preserves.ofExcept _)
  intro event
  apply Preserves.bind (preserves_publishCommitted event)
  intro _
  cases (PositiveCounter.first : EventSequence).checkedNext with
  | none => exact Preserves.fail _
  | some nextSequence =>
    apply Preserves.ofExcept_bind
    intro activeTurn hfound
    constructor
    intro s hs
    show P (CodexEventMapper.activeTurn { s.mapper with threads := s.mapper.threads.insert _ _ } thread)
    unfold CodexEventMapper.activeTurn
    rw [OrderedMap.getElem?_insert]
    split
    · next hid => exact h hid activeTurn hfound
    · exact hs

/-- The payload lists no turn in place of a running one. -/
def ListsTurn (thread turn : String) (payload : Value) : Prop :=
  ∀ value, payload.get "thread" = some value → (value.get "id").bind Json.asStr = some thread →
    ∀ found, latestInProgressTurn value = .ok found → found = some turn

/-- What holds of the turn that the payload lists for the thread. -/
def Lists (thread : String) (P : Option String → Prop) (payload : Value) : Prop :=
  ∀ value, payload.get "thread" = some value → (value.get "id").bind Json.asStr = some thread →
    ∀ found, latestInProgressTurn value = .ok found → P found

theorem preserves_resumeThread {result : Value} (h : Lists thread P result) :
    Preserves (OfTurn thread P) (resumeThread host result) := by
  apply Preserves.ofExcept_bind
  intro value hvalue
  apply Preserves.ofExcept_bind
  intro threadId hthreadId
  apply Preserves.bind (Preserves.ofExcept _)
  intro resultModel
  apply Preserves.bind (Preserves.ofExcept _)
  intro threadModel
  apply Preserves.bind (Preserves.ofExcept _)
  intro resultEffort
  apply Preserves.bind (Preserves.ofExcept _)
  intro threadEffort
  apply Preserves.bind (Preserves.reads _)
  intro configured
  cases configured with
  | none => exact Preserves.fail _
  | some configuredSession =>
    apply Preserves.bind (Preserves.ofExcept _)
    intro _
    apply Preserves.bind (Preserves.ofExcept _)
    intro _
    have hlists : threadId = thread → ∀ found, latestInProgressTurn value = .ok found → P found := by
      rintro rfl
      obtain ⟨hget, hid⟩ := fields_of_ok hvalue hthreadId
      exact h value hget hid
    apply Preserves.bind (Preserves.reads _)
    intro tracked
    exact Preserves.ite (fun _ => preserves_resumeTracked hlists) fun _ => preserves_resumeNew hlists

theorem preserves_threadStarted {params : Value} (h : Lists thread P params) :
    Preserves (OfTurn thread P) (threadStarted host params) := by
  apply Preserves.bind (Preserves.ofExcept _)
  intro value
  apply Preserves.bind (Preserves.ofExcept _)
  intro threadId
  apply Preserves.bind (Preserves.reads _)
  intro known
  apply Preserves.ite (fun _ => Preserves.pure _)
  intro _
  apply Preserves.bind
  · apply Preserves.when
    intro _
    apply Preserves.bind (Preserves.ofExcept _)
    intro sessionId
    exact preserves_onMapper fun _ => rfl
  intro _
  exact Preserves.bind (preserves_resumeThread h) fun _ => Preserves.pure _

/-- The turn that the handler of a notification takes over. -/
def namedTurn (method : String) (params : Value) : Option String :=
  if method = "turn/started" ∨ method = "turn/completed" then nestedId params "turn"
  else (params.get "turnId").bind Json.asStr

/-- The turn of the notification may be taken over, and ended if it is complete. -/
structure Admits (P : Option String → Prop) (method : String) (params : Value) : Prop where
  takes : ∀ turnId, namedTurn method params = some turnId → P none → P (some turnId)
  ends : method = "turn/completed" → ∀ turnId, namedTurn method params = some turnId →
    P (some turnId) → P none

theorem preserves_dispatch {method threadId : String} {params : Value}
    (h : threadId = thread → Admits P method params) :
    Preserves (OfTurn thread P) (dispatch host method threadId params) := by
  have hitem : method ≠ "turn/started" → method ≠ "turn/completed" → threadId = thread →
      ∀ turnId, (params.get "turnId").bind Json.asStr = some turnId → P none → P (some turnId) := by
    intro hstarted hcompleted hid turnId hturnId
    apply (h hid).takes turnId
    rw [namedTurn, if_neg (by simp [hstarted, hcompleted])]
    exact hturnId
  unfold dispatch
  apply Preserves.ite (fun _ => preserves_threadSettingsUpdated threadId params)
  intro _
  apply Preserves.ite
  · intro _
    exact Preserves.bind (Preserves.ofExcept _) fun _ => preserves_statusChanged threadId _
  intro _
  apply Preserves.ite (fun _ => preserves_disconnectThread threadId)
  intro _
  apply Preserves.ite
  · intro hmethod
    apply preserves_turnStarted
    intro hid turnId hturnId
    apply (h hid).takes turnId
    rw [namedTurn, if_pos (.inl hmethod)]
    exact hturnId
  intro hstarted
  apply Preserves.ite
  · rintro rfl
    exact preserves_itemStarted (hitem (by decide) (by decide))
  intro _
  apply Preserves.ite
  · rintro rfl
    exact preserves_fileChangePatchUpdated (hitem (by decide) (by decide))
  intro _
  apply Preserves.ite
  · rintro rfl
    exact preserves_itemCompleted (hitem (by decide) (by decide))
  intro _
  apply Preserves.ite
  · intro hmethod
    apply preserves_turnCompleted
    intro hid turnId hturnId
    have hnamed : namedTurn method params = some turnId := by
      rw [namedTurn, if_pos (.inr hmethod)]
      exact hturnId
    exact ⟨(h hid).takes turnId hnamed, (h hid).ends hmethod turnId hnamed⟩
  intro _
  exact Preserves.pure _

/-- Leaving the key of a mapped notification touches no turn. -/
theorem preserves_remember (key : Option String) (disposition : MappingDisposition) :
    Preserves (OfTurn thread P) (match key with
      | some key => do
        Program.when (disposition = .mapped) (onMapper fun m => m.rememberKey key)
        pure disposition
      | none => pure disposition : Mapping B MappingDisposition) := by
  cases key with
  | none => exact Preserves.pure _
  | some key =>
    apply Preserves.bind
    · apply Preserves.when
      intro _
      exact preserves_onMapper fun m => m.activeTurn_rememberKey key thread
    intro _
    exact Preserves.pure _

/-- A notification with a key is handled only while its key is not remembered. -/
theorem ofTurn_notifyTracked {s : MapperState B} {method threadId : String} {params : Value}
    (hs : OfTurn thread P s)
    (h : threadId = thread → (∀ key, notificationKey method params thread = .ok (some key) →
      s.mapper.recentKeys.contains key = false) → Admits P method params) :
    OfTurn thread P (notifyTracked host method threadId params s).2 := by
  unfold notifyTracked
  simp only [bind_apply, Program.ofExcept]
  cases hkey : notificationKey method params threadId with
  | error e => exact hs
  | ok key =>
    simp only [Program.reads, Program.ite_apply]
    split
    · exact hs
    · next hfresh =>
      have hadmits : threadId = thread → Admits P method params := by
        rintro rfl
        apply h rfl
        intro found hfound
        rw [hkey] at hfound
        cases hfound
        exact Bool.eq_false_iff.mpr hfresh
      exact (Preserves.bind (preserves_dispatch hadmits) (preserves_remember key)).holds s hs

/-- A notification other than the discovery of a thread. The ones of a turn that is
remembered as complete are dropped. -/
theorem ofTurn_notifyThread {s : MapperState B} {method : String} {params : Value}
    (hs : OfTurn thread P s)
    (h : notificationThread params = some thread →
      ((notificationTurn params).any fun turnId =>
        s.mapper.recentKeys.contains (completedKey thread turnId)) = false →
      (∀ key, notificationKey method params thread = .ok (some key) →
        s.mapper.recentKeys.contains key = false) →
      Admits P method params) :
    OfTurn thread P (notifyThread host method params s).2 := by
  unfold notifyThread
  cases hthread : notificationThread params with
  | none => exact hs
  | some threadId =>
    simp only [bind_apply, Program.reads, Program.ite_apply]
    split
    · exact hs
    · -- asking again for the observer's subscription touches neither turns nor keys
      have hretried : ∃ m : CodexEventMapper,
          (Program.when (method = "thread/status/changed")
            (onMapper fun m => m.retryObserverResume threadId) : Mapping B Unit) s =
            (.ok (), { s with mapper := m }) ∧
          m.activeTurn thread = s.mapper.activeTurn thread ∧
          m.recentKeys = s.mapper.recentKeys := by
        unfold Program.when
        rw [Program.ite_apply]
        split
        · refine ⟨s.mapper.retryObserverResume threadId, rfl,
            s.mapper.activeTurn_retryObserverResume threadId thread, ?_⟩
          unfold CodexEventMapper.retryObserverResume
          split <;> rfl
        · exact ⟨s.mapper, rfl, rfl, rfl⟩
      obtain ⟨m, hran, hturn, hkeys⟩ := hretried
      simp only [hran]
      have hm : OfTurn thread P { s with mapper := m } := by
        show P (m.activeTurn thread)
        rw [hturn]
        exact hs
      split
      · exact hm
      · next hcurrent =>
        apply ofTurn_notifyTracked hm
        rintro rfl hfresh
        rw [hkeys] at hfresh
        refine h hthread ?_ hfresh
        rw [← hkeys]
        simpa using hcurrent

theorem trackedThread_eq_ok {s s' : MapperState B} {threadId : String} {mapping : ThreadMapping}
    (h : (trackedThread threadId : Mapping B ThreadMapping) s = (.ok mapping, s')) :
    s.mapper.threads[threadId]? = some mapping ∧ s' = s := by
  unfold trackedThread at h
  simp only [bind_apply, Program.reads] at h
  cases hm : s.mapper.threads[threadId]? with
  | none =>
    rw [hm] at h
    cases h
  | some found =>
    rw [hm] at h
    cases h
    exact ⟨rfl, rfl⟩

/-- A started turn that is not refused is the running one. -/
theorem turnStarted_running {s s' : MapperState B} {params : Value} {d : MappingDisposition}
    (hid : nestedId params "turn" = some turn)
    (h : turnStarted host thread params s = (.ok d, s')) : Running thread turn s' := by
  obtain ⟨value, s₁, hvalue, h⟩ := Program.bind_eq_ok h
  obtain ⟨hvalue, -⟩ := Program.ofExcept_eq_ok hvalue
  obtain ⟨turnId, s₂, hturnId, h⟩ := Program.bind_eq_ok h
  obtain ⟨hturnId, -⟩ := Program.ofExcept_eq_ok hturnId
  have hturn : turnId = turn := by
    have hnested : nestedId params "turn" = some turnId := nestedId_of_fields hvalue hturnId
    exact Option.some.inj (hnested.symm.trans hid)
  subst hturn
  obtain ⟨current, s₃, -, h⟩ := Program.bind_eq_ok h
  obtain ⟨u, s₄, -, h⟩ := Program.bind_eq_ok h
  obtain ⟨startedAt, s₅, -, h⟩ := Program.bind_eq_ok h
  obtain ⟨timestamp, s₆, -, h⟩ := Program.bind_eq_ok h
  obtain ⟨mapping, s₇, hmapping, hrest⟩ := Program.bind_eq_ok h
  obtain ⟨hm, hs₇⟩ := trackedThread_eq_ok hmapping
  rw [hs₇, Program.ite_apply] at hrest
  split at hrest
  · next hactive =>
    cases hrest
    show s'.mapper.threads[thread]?.bind ThreadMapping.activeTurnId = some turnId
    rw [hm]
    exact hactive
  · cases hidle : mapping.activeTurnId with
    | some active =>
      simp only [hidle] at hrest
      cases hrest
    | none =>
      simp only [hidle] at hrest
      obtain ⟨u, s₈, hset, hpublish⟩ := Program.bind_eq_ok hrest
      have hrunning : Running thread turnId s₈ := by
        cases hset
        show (s₆.mapper.updateThread thread _).threads[thread]?.bind _ = some turnId
        rw [CodexEventMapper.threads_updateThread, if_pos rfl, hm]
        rfl
      have hkept : Preserves (OfTurn thread (· = some turnId)) (do
          Program.when (mapping.state ≠ .running)
            (publishPayload host thread timestamp (.stateChanged .running))
          pure (if mapping.state ≠ .running then .mapped else .validatedUnmapped) :
            Mapping B MappingDisposition) :=
        Preserves.bind (Preserves.when fun _ => preserves_publishPayload _ _ _) fun _ =>
          Preserves.pure _
      have hfinal := hkept.holds s₈ hrunning
      rw [hpublish] at hfinal
      exact hfinal

theorem notification_apply (method : String) (params : Value) (s : MapperState B) :
    notification host method params s =
      if method = "thread/started" ∧ s.mapper.discoverThreads then threadStarted host params s
      else notifyThread host method params s :=
  Program.ite_apply _ _ _ s

/-- A notification that no check of `notifyThread` drops. -/
theorem notifyThread_of_current {s : MapperState B} {method threadId : String} {params : Value}
    (hthread : notificationThread params = some threadId)
    (hknown : (s.mapper.configured.contains threadId && s.mapper.threads.contains threadId) = true)
    (hmethod : method ≠ "thread/status/changed")
    (hcurrent : ((notificationTurn params).any fun turnId =>
      s.mapper.recentKeys.contains (completedKey threadId turnId)) = false) :
    notifyThread host method params s = notifyTracked host method threadId params s := by
  unfold notifyThread
  simp only [hthread, bind_apply, Program.reads, hknown, Program.ite_apply, Program.when,
    if_neg hmethod, Program.pure_apply, hcurrent]
  rfl

theorem dispatch_turnStarted (threadId : String) (params : Value) :
    dispatch host "turn/started" threadId params = turnStarted host threadId params := by
  simp [dispatch]

/-- A first delivery of a started turn that is not refused makes it the running one. -/
theorem notifyTracked_running {s s' : MapperState B} {params : Value} {d : MappingDisposition}
    {key : String} (hid : nestedId params "turn" = some turn)
    (hkey : notificationKey "turn/started" params thread = .ok (some key))
    (hfresh : s.mapper.recentKeys.contains key = false)
    (h : notifyTracked host "turn/started" thread params s = (.ok d, s')) :
    Running thread turn s' := by
  unfold notifyTracked at h
  rw [hkey, dispatch_turnStarted] at h
  obtain ⟨found, s₁, hread, h⟩ := Program.bind_eq_ok h
  cases hread
  obtain ⟨seen, s₂, hseen, h⟩ := Program.bind_eq_ok h
  cases hseen
  simp only [Option.any_some, hfresh, Program.ite_apply, Bool.false_eq_true, if_false] at h
  obtain ⟨disposition, s₃, hstarted, h⟩ := Program.bind_eq_ok h
  have hrunning : Running thread turn s₃ := turnStarted_running hid hstarted
  have hfinal := (preserves_remember (P := (· = some turn)) (some key) disposition).holds s₃ hrunning
  simp only [h] at hfinal
  exact hfinal

end Mapping

namespace MapperOp

/-- The notification that a turn of a thread is complete. -/
def completes (thread turn : String) : MapperOp → Bool
  | .notification method params =>
    method == "turn/completed" && Mapping.notificationThread params == some thread &&
      nestedId params "turn" == some turn
  | _ => false

/-- The payload that an operation hands to `resume_thread`. -/
def resumed (m : CodexEventMapper) : MapperOp → Option Value
  | .resumeThread result => some result
  | .startThread _ result => some result
  | .notification method params =>
    if method = "thread/started" ∧ m.discoverThreads then some params else none
  | _ => none

end MapperOp

namespace MapperState

variable {B : Type} (host : ProviderHost B) {thread turn : String}

/-- No resumed payload lists another turn, or none, for a thread that runs one. -/
def ListsRunningTurns (s : MapperState B) (op : MapperOp) : Prop :=
  ∀ payload ∈ op.resumed s.mapper, ∀ thread turn, Mapping.Running thread turn s →
    Mapping.ListsTurn thread turn payload

open Mapping in
/-- One operation keeps what holds of the turn of a thread, if the turns that it takes
over, ends and lists allow it. -/
theorem step_ofTurn {s : MapperState B} {op : MapperOp} {P : Option String → Prop}
    (hs : OfTurn thread P s) (hlists : ∀ payload ∈ op.resumed s.mapper, Lists thread P payload)
    (hrequest : ∀ turnId itemId, op = .approvalContext thread turnId itemId →
      P none → P (some turnId))
    (hnotified : ∀ method params, op = .notification method params →
      notificationThread params = some thread →
      ((notificationTurn params).any fun turnId =>
        s.mapper.recentKeys.contains (completedKey thread turnId)) = false →
      (∀ key, notificationKey method params thread = .ok (some key) →
        s.mapper.recentKeys.contains key = false) →
      Admits P method params) :
    OfTurn thread P (s.step host op).1 := by
  cases op with
  | notification method params =>
    have hstate : (s.step host (.notification method params)).1 =
        (notification host method params s).2 := Program.discard_state _ s
    rw [hstate]
    by_cases hd : method = "thread/started" ∧ s.mapper.discoverThreads
    · have hpayload : params ∈ (MapperOp.notification method params).resumed s.mapper := if_pos hd
      have hrun : notification host method params s = threadStarted host params s :=
        congrFun (if_pos hd) s
      rw [hrun]
      exact (preserves_threadStarted (hlists params hpayload)).holds s hs
    · have hrun : notification host method params s = notifyThread host method params s :=
        congrFun (if_neg hd) s
      rw [hrun]
      exact ofTurn_notifyThread hs (hnotified method params rfl)
  | resumeThread result => exact (preserves_resumeThread (hlists result rfl)).holds s hs
  | approvalContext threadId turnId itemId =>
    apply (Preserves.bind (preserves_approvalContext itemId ?_) fun _ => Preserves.pure _).holds s hs
    rintro rfl
    exact hrequest turnId itemId rfl
  | beginReconnect => exact preserves_beginReconnect.holds s hs
  | disconnectAll => exact preserves_disconnectAll.holds s hs
  | publishPayload threadId occurredAt payload =>
    exact (preserves_publishPayload threadId occurredAt payload).holds s hs
  | publishHistoryItems threadId entries =>
    exact (preserves_publishHistoryItems threadId entries).holds s hs
  | trackDiscoveredThread threadId => exact (preserves_trackDiscoveredThread threadId).holds s hs
  | startThread threadId result =>
    exact (Preserves.bind (preserves_trackDiscoveredThread threadId) fun _ =>
      preserves_resumeThread (hlists result rfl)).holds s hs
  | publishLocalChoice threadId request plan =>
    exact (preserves_publishLocalChoice threadId request plan).holds s hs
  | closeLocalChoice id => exact (preserves_closeLocalChoice id).holds s hs
  | respondLocalChoice threadId response =>
    exact (Preserves.bind (preserves_respondLocalChoice threadId response) fun _ =>
      Preserves.pure _).holds s hs
  | dismissLocalPlan threadId => exact (preserves_dismissPlan threadId).holds s hs
  | dismissPlan threadId =>
    have hkeep : (s.mapper.dismissPlan threadId).activeTurn thread = s.mapper.activeTurn thread :=
      s.mapper.activeTurn_updateThread_keep threadId thread fun _ => rfl
    show P ((s.mapper.dismissPlan threadId).activeTurn thread)
    rw [hkeep]
    exact hs
  | deferObserverResume threadId => exact hs
  | retryObserverResume threadId =>
    show P ((s.mapper.retryObserverResume threadId).activeTurn thread)
    rw [s.mapper.activeTurn_retryObserverResume threadId thread]
    exact hs
  | takeObserverResumes => exact hs

open Mapping in
/-- One operation keeps a running turn, unless it completes it or resumes the
thread with another turn. -/
theorem step_running {s : MapperState B} {op : MapperOp} (hs : Running thread turn s)
    (hopen : op.completes thread turn = false) (hlists : ListsRunningTurns s op) :
    Running thread turn (s.step host op).1 := by
  apply step_ofTurn host (P := fun active => active = some turn) hs
  · intro payload hpayload
    exact hlists payload hpayload thread turn hs
  · intro turnId itemId _ hidle
    cases hidle
  · intro method params hop hthread _ _
    constructor
    · intro turnId _ hidle
      cases hidle
    · rintro rfl turnId hnamed hactive
      cases hactive
      subst hop
      have hnested : nestedId params "turn" = some turn := by simpa [namedTurn] using hnamed
      simp [MapperOp.completes, hthread, hnested] at hopen

/-- A turn/started notification that reaches the mapper: its thread is tracked,
it is no repeated delivery, and it is not refused. -/
structure Starts (s : MapperState B) (op : MapperOp) (thread turn : String) (params : Value) :
    Prop where
  started : op = .notification "turn/started" params
  ofThread : Mapping.notificationThread params = some thread
  ofTurn : nestedId params "turn" = some turn
  known : (s.mapper.configured.contains thread && s.mapper.threads.contains thread) = true
  current : ((Mapping.notificationTurn params).any fun turnId =>
    s.mapper.recentKeys.contains (Mapping.completedKey thread turnId)) = false
  fresh : s.mapper.recentKeys.contains s!"turn/started:{thread}:{turn}" = false
  accepted : (s.step host op).2 = .ok ()

open Mapping in
theorem Starts.running {s : MapperState B} {op : MapperOp} {params : Value}
    (h : Starts host s op thread turn params) : Running thread turn (s.step host op).1 := by
  have hrun : notification host "turn/started" params s =
      notifyTracked host "turn/started" thread params s := by
    rw [notification_apply, if_neg (by simp)]
    exact notifyThread_of_current h.ofThread h.known (by decide) h.current
  have hkey : notificationKey "turn/started" params thread =
      .ok (some s!"turn/started:{thread}:{turn}") := by
    simp only [notificationKey, h.ofTurn, true_or, if_true]
    rfl
  have haccepted : op.run host s = (.ok (), (s.step host op).1) := Prod.ext h.accepted rfl
  generalize (s.step host op).1 = final at haccepted ⊢
  rw [h.started] at haccepted
  obtain ⟨d, t, hnotified, hreturned⟩ := Program.bind_eq_ok haccepted
  cases hreturned
  rw [hrun] at hnotified
  exact notifyTracked_running h.ofTurn hkey h.fresh hnotified

/-- The context of a session is read from a tracked thread. -/
theorem commandContext_activeTurn {m : CodexEventMapper} {session : SessionId} {threadId : String}
    {active : Option String} {state : AgentState}
    (h : m.commandContext session = some (threadId, active, state)) :
    m.activeTurn threadId = active := by
  unfold CodexEventMapper.commandContext at h
  obtain ⟨⟨id, mapping⟩, hmem, hfound⟩ := List.exists_of_findSome?_eq_some h
  simp only [Option.ite_none_right_eq_some, Option.some.injEq, Prod.mk.injEq] at hfound
  obtain ⟨-, rfl, rfl, -⟩ := hfound
  have hget : m.threads[id]? = some mapping := ExtTreeMap.mem_toList_iff_getElem?_eq_some.mp hmem
  rw [CodexEventMapper.activeTurn, hget]
  rfl

open Mapping in
/-- From a started turn on, up to its completion, the thread runs it: no flush
finds the thread idle, so none sends it a queued prompt. -/
theorem run_activeTurn (s : MapperState B) (start : MapperOp) (params : Value)
    (ops : List MapperOp) (hstart : Starts host s start thread turn params)
    (hopen : ∀ op ∈ ops, op.completes thread turn = false)
    (hlists : Trace.Along (step host) ListsRunningTurns (s.step host start).1 ops) :
    (Trace.final (step host) (s.step host start).1 ops).mapper.activeTurn thread = some turn ∧
      ∀ session active state,
        (Trace.final (step host) (s.step host start).1 ops).mapper.commandContext session =
          some (thread, active, state) → active = some turn := by
  have hrunning : Running thread turn (Trace.final (step host) (s.step host start).1 ops) := by
    have hs : Running thread turn (s.step host start).1 := hstart.running
    revert hs hlists
    generalize (s.step host start).1 = t
    induction ops generalizing t with
    | nil => exact fun _ ht => ht
    | cons op rest ih =>
      intro hlists ht
      have hnext : Running thread turn (t.step host op).1 :=
        step_running host ht (hopen op (by simp)) hlists.1
      exact ih (fun o ho => hopen o (by simp [ho])) _ hlists.2 hnext
  refine ⟨hrunning, fun session active state hcontext => ?_⟩
  rw [← commandContext_activeTurn hcontext]
  exact hrunning

end MapperState

namespace Sample

/-- A host that accepts every event; its state counts the identifiers drawn. -/
def host : ProviderHost Nat where
  nowUtc n := (AgentPulse.Sample.instant, n)
  newId k n := (Ident.numbered k n, n + 1)
  publishEvent n _ := (n, .ok ⟨.applied, []⟩)

def thread : String := "00000000-0000-7000-8000-000000000001"

/-- A thread of the server as its messages show it. -/
def threadValue (status : Value) (turns : List Value) : Value :=
  .object [
    ("cliVersion", .string "0.166.0"), ("createdAt", .int 1), ("cwd", .string "/work"),
    ("ephemeral", .bool false), ("id", .string thread), ("modelProvider", .string "openai"),
    ("preview", .string "sample"), ("projectId", .null), ("sessionId", .string thread),
    ("source", .string "cli"), ("status", status), ("turns", .array turns), ("updatedAt", .int 2)]

def idle : Value := .object [("type", .string "idle")]

def active : Value := .object [("type", .string "active"), ("activeFlags", .array [])]

def turn (id status : String) : Value :=
  .object [("id", .string id), ("items", .array []), ("status", .string status)]

def threadStarted : MapperOp :=
  .notification "thread/started" (.object [("thread", threadValue idle [])])

def turnParams (id status : String) : Value :=
  .object [("threadId", .string thread), ("turn", turn id status)]

def turnStarted (id : String) : MapperOp :=
  .notification "turn/started" (turnParams id "inProgress")

/-- The answer to a thread/resume request. -/
def resumeResult (turns : List Value) : Value :=
  .object [
    ("approvalPolicy", .string "on-request"), ("approvalsReviewer", .string "user"),
    ("cwd", .string "/work"), ("model", .string "gpt"), ("modelProvider", .string "openai"),
    ("sandbox", .object [("type", .string "readOnly")]), ("thread", threadValue active turns)]

/-- The observer before the server has announced anything. -/
def empty : MapperState Nat := ⟨.new (Ident.numbered .provider 0) [] true, 0⟩

/-- The observer after another client has started the thread. -/
def discovered : MapperState Nat := (empty.step host threadStarted).1

end Sample

namespace MapperState

open AgentPulse.Codex.Sample (discovered turnStarted resumeResult)

theorem starts_first : Starts Sample.host discovered (turnStarted "t1") Sample.thread "t1"
    (Sample.turnParams "t1" "inProgress") where
  started := rfl
  ofThread := by decide +kernel
  ofTurn := by decide +kernel
  known := by decide +kernel
  current := by decide +kernel
  fresh := by decide +kernel
  accepted := by decide +kernel

/-- A resume that lists the running turn keeps it. -/
theorem run_activeTurn_listed :
    (Trace.final (step Sample.host) (discovered.step Sample.host (turnStarted "t1")).1
      [.resumeThread (resumeResult [Sample.turn "t1" "inProgress"])]).mapper.activeTurn
        Sample.thread = some "t1" := by
  refine (run_activeTurn Sample.host discovered (turnStarted "t1") (Sample.turnParams "t1" "inProgress")
    [.resumeThread (resumeResult [Sample.turn "t1" "inProgress"])] starts_first (by decide) ?_).1
  refine ⟨?_, trivial⟩
  intro payload hpayload thread turn hrunning value hvalue hid found hfound
  cases hpayload
  cases hvalue
  cases hid
  cases hfound
  exact starts_first.running.symm.trans hrunning

/-- The observer's own resume asks for no turns; its answer ends the running
turn in the mapper, and the next flush sees an idle thread. -/
theorem activeTurn_lost_by_resume :
    Starts Sample.host discovered (turnStarted "t1") Sample.thread "t1"
      (Sample.turnParams "t1" "inProgress") ∧
    (MapperOp.resumeThread (resumeResult [])).completes Sample.thread "t1" = false ∧
    ((discovered.step Sample.host (turnStarted "t1")).1.step Sample.host
      (.resumeThread (resumeResult []))).2 = .ok () ∧
    (Trace.final (step Sample.host) (discovered.step Sample.host (turnStarted "t1")).1
      [.resumeThread (resumeResult [])]).mapper.activeTurn Sample.thread = none := by
  refine ⟨starts_first, rfl, ?_, ?_⟩
  · decide +kernel
  · decide +kernel

end MapperState

end Codex

end AgentPulse
