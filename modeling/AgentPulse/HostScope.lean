import AgentPulse.HostPermit

/-!
# Subscriptions of one source generation

A channel whose subscriptions last as long as its source loses them when the host
stops. Between stops they can also come from the host itself, and from a start that
joins a session and then fails. There is no other way to a subscription of a channel
whose source does not run.
-/
namespace AgentPulse

open Std (ExtTreeMap)

/-- The operation may subscribe the channel to the session. -/
def BridgeOp.joins (channelId : ChannelId) (sessionId : SessionId) : BridgeOp → Bool
  | .subscribe channel session => decide (channel = channelId ∧ session = sessionId)
  | .syncSession channel session _ _ => decide (channel = channelId ∧ session = sessionId)
  | _ => false

namespace Bridge

variable {World : Type} (ports : Ports World)

theorem isSubscribed_insert {self : Bridge World} {channelId other : ChannelId}
    {sessionId session : SessionId} :
    (self.insertSubscription channelId sessionId).isSubscribed other session = true ↔
      self.isSubscribed other session = true ∨ (session = sessionId ∧ other = channelId) :=
  MultiMap.contains_add self.subscriptions sessionId session channelId other

/-- Removing a channel's subscriptions adds none. -/
theorem unsubscribeChannel_kept {self : Bridge World} {channel channelId : ChannelId}
    {sessionId : SessionId}
    (h : (self.unsubscribeChannel channel).1.isSubscribed channelId sessionId = true) :
    self.isSubscribed channelId sessionId = true := by
  unfold unsubscribeChannel at h
  split at h
  · exact h
  · exact ((MultiMap.contains_removeMember _ _ _ _).mp h).1

theorem unsubscribeChannel_channels (self : Bridge World) (channelId : ChannelId) :
    (self.unsubscribeChannel channelId).1.channels = self.channels := by
  unfold unsubscribeChannel
  split <;> rfl

/-- Only the operations that join subscribe. -/
theorem step_isSubscribed {self : Bridge World} {op : BridgeOp} {channelId : ChannelId}
    {sessionId : SessionId} (h : (self.step ports op).1.isSubscribed channelId sessionId = true) :
    self.isSubscribed channelId sessionId = true ∨ op.joins channelId sessionId = true := by
  have hinsert : ∀ {bridge : Bridge World} {channel : ChannelId} {session : SessionId},
      bridge.subscriptions = self.subscriptions →
      (bridge.insertSubscription channel session).isSubscribed channelId sessionId = true →
      self.isSubscribed channelId sessionId = true ∨
        decide (channel = channelId ∧ session = sessionId) = true := by
    intro bridge channel session hsame hjoined
    rcases isSubscribed_insert.mp hjoined with hbefore | ⟨rfl, rfl⟩
    · unfold isSubscribed at hbefore ⊢
      rw [← hsame]
      exact .inl hbefore
    · exact .inr (by simp)
  cases op with
  | registerProvider descriptor =>
    simp only [step, registerProvider] at h
    split at h <;> exact .inl h
  | registerChannel descriptor =>
    simp only [step, registerChannel] at h
    split at h <;> exact .inl h
  | subscribe channel session =>
    simp only [step, Prod.map_fst, id_eq] at h
    rcases subscribe_cases ports self channel session with ⟨e, he, -⟩ | ⟨aggregate, -, -, he⟩ |
      ⟨descriptor, aggregate, provider, baseline, -, ⟨-, he⟩ | ⟨-, world, result, -, he⟩⟩
    · rw [he] at h
      exact .inl h
    · rw [he] at h
      exact .inl h
    · rw [he] at h
      exact hinsert rfl h
    · rw [he] at h
      cases result with
      | error source => exact .inl h
      | ok u => exact hinsert rfl h
  | syncSession channel session requestedAfter maxEvents =>
    simp only [step, Prod.map_fst, id_eq] at h
    rcases syncSession_cases ports self channel session requestedAfter maxEvents with
      ⟨e, he, -⟩ | ⟨aggregate, -, -, -, -, he⟩ |
      ⟨descriptor, aggregate, provider, sync, world, result, -, -, he⟩
    · rw [he] at h
      exact .inl h
    · rw [he] at h
      exact .inl h
    · rw [he] at h
      cases result with
      | error source => exact .inl h
      | ok u =>
        simp only [afterSync] at h
        split at h
        · exact hinsert rfl h
        · exact .inl h
  | unsubscribe channel session =>
    simp only [step, unsubscribe] at h
    split at h
    · exact .inl h
    · split at h
      · exact .inl h
      · exact .inl ((MultiMap.contains_remove _ _ _ _ _).mp h).1
  | unsubscribeChannel channel => exact .inl (unsubscribeChannel_kept h)
  | handleProviderEvent providerId event =>
    simp only [step, Prod.map_fst, id_eq] at h
    rcases handleProviderEvent_cases ports self providerId event with ⟨e, he, -⟩ |
      ⟨old, -, -, he⟩ | ⟨provider, session, routes, aggregate, -, he⟩
    · rw [he] at h
      exact .inl h
    · rw [he] at h
      exact .inl h
    · rw [he] at h
      exact .inl h
  | handleInteractionResponse channel response =>
    obtain ⟨world, hw⟩ := handleInteractionResponse_setWorld ports self channel response
    simp only [step, Prod.map_fst, id_eq, hw] at h
    exact .inl h
  | handleCommand channel command =>
    obtain ⟨world, hw⟩ := handleCommand_setWorld ports self channel command
    simp only [step, Prod.map_fst, id_eq, hw] at h
    exact .inl h

/-- A registered channel without its subscriptions. -/
theorem unsubscribeChannel_isSubscribed {self : Bridge World} {channelId : ChannelId}
    (h : channelId ∈ self.channels) (sessionId : SessionId) :
    (self.unsubscribeChannel channelId).1.isSubscribed channelId sessionId = false := by
  unfold unsubscribeChannel
  rw [ExtTreeMap.contains_iff_mem.mpr h]
  rw [Bool.eq_false_iff]
  intro hstill
  exact ((MultiMap.contains_removeMember _ _ _ _).mp hstill).2 rfl

end Bridge

/-- The call may subscribe the channel of its handle to the session. -/
def IngressCall.joins (sessionId : SessionId) : IngressCall → Bool
  | .channel (.subscribe session) => session = sessionId
  | .channel (.syncSession session _ _) => session = sessionId
  | _ => false

/-- An operation that joins was called through a handle of the channel. -/
theorem IngressCall.operation_joins {endpoint : RuntimeEndpointId} {call : IngressCall}
    {op : BridgeOp} {channelId : ChannelId} {sessionId : SessionId}
    (hop : call.operation endpoint = some op) (h : op.joins channelId sessionId = true) :
    endpoint = .channel channelId ∧ call.joins sessionId = true := by
  unfold IngressCall.operation at hop
  split at hop <;> cases hop
  · cases h
  · obtain ⟨rfl, rfl⟩ := of_decide_eq_true h
    exact ⟨rfl, by simp [joins]⟩
  · obtain ⟨rfl, rfl⟩ := of_decide_eq_true h
    exact ⟨rfl, by simp [joins]⟩
  · cases h
  · cases h
  · cases h

namespace RuntimeHost

variable {World : Type} (ports : Ports World)

/-- The entry was made through an active handle of the channel and may join the session. -/
def JoinsThrough (permits : List IngressPermit) (channelId : ChannelId) (sessionId : SessionId)
    (entry : Ingress) : Prop :=
  permits[entry.handle]? = some ⟨.channel channelId, true⟩ ∧ entry.call.joins sessionId = true

theorem ingress_isSubscribed {shared : SharedBridge World} {entry : Ingress}
    {channelId : ChannelId} {sessionId : SessionId}
    (h : (shared.ingress ports entry).1.bridge.isSubscribed channelId sessionId = true) :
    shared.bridge.isSubscribed channelId sessionId = true ∨
      JoinsThrough shared.permits channelId sessionId entry := by
  obtain hsame | ⟨permit, op, hpermit, hactive, hop, hnext⟩ :=
    SharedBridge.ingress_cases ports shared entry
  · rw [hsame] at h
    exact .inl h
  · rw [hnext] at h
    rcases Bridge.step_isSubscribed ports h with hbefore | hjoins
    · exact .inl hbefore
    · obtain ⟨hendpoint, hcall⟩ := IngressCall.operation_joins hop hjoins
      obtain ⟨endpoint, active⟩ := permit
      cases hendpoint
      cases hactive
      exact .inr ⟨hpermit, hcall⟩

theorem ingresses_isSubscribed {shared : SharedBridge World} {entries : List Ingress}
    {channelId : ChannelId} {sessionId : SessionId}
    (h : (shared.ingresses ports entries).bridge.isSubscribed channelId sessionId = true) :
    shared.bridge.isSubscribed channelId sessionId = true ∨
      ∃ entry ∈ entries, JoinsThrough shared.permits channelId sessionId entry := by
  induction entries generalizing shared with
  | nil => exact .inl h
  | cons entry rest ih =>
    rcases ih h with hafter | ⟨later, hmem, hjoins⟩
    · rcases ingress_isSubscribed ports hafter with hbefore | hjoins
      · exact .inl hbefore
      · exact .inr ⟨entry, List.mem_cons_self, hjoins⟩
    · rw [SharedBridge.ingress_permits] at hjoins
      exact .inr ⟨later, List.mem_cons_of_mem _ hmem, hjoins⟩

/-- The channel has an active handle. -/
def HasActive (permits : List IngressPermit) (channelId : ChannelId) : Prop :=
  ∃ handle : Nat, permits[handle]? = some ⟨.channel channelId, true⟩

/-- The start of one adapter: a subscription that is new came through an active handle
of its channel, the new one or one from before. -/
theorem adapter_start_isSubscribed {adapter : RegisteredAdapter} {shared : SharedBridge World}
    {callback : Callback} {channelId : ChannelId} {sessionId : SessionId}
    (h : (adapter.start ports shared callback).2.1.bridge.isSubscribed channelId sessionId =
      true) :
    shared.bridge.isSubscribed channelId sessionId = true ∨ HasActive shared.permits channelId ∨
    (adapter.endpoint = .channel channelId ∧ ∃ entry ∈ callback.entries,
      entry.handle = shared.permits.length ∧ entry.call.joins sessionId = true) := by
  have hcalled : (SharedBridge.ingresses ports
      { shared with
        permits := shared.permits ++ [⟨adapter.endpoint, true⟩]
        calls := shared.calls ++ [(adapter.endpoint, .start)] }
      callback.entries).bridge.isSubscribed channelId sessionId = true := by
    unfold RegisteredAdapter.start at h
    cases hresult : callback.result with
    | ok u =>
      rw [hresult] at h
      exact h
    | error source =>
      rw [hresult] at h
      exact h
  rcases ingresses_isSubscribed ports hcalled with hbefore | ⟨entry, hmem, hpermit, hcall⟩
  · exact .inl hbefore
  · by_cases hold : entry.handle < shared.permits.length
    · rw [List.getElem?_append_left hold] at hpermit
      exact .inr (.inl ⟨entry.handle, hpermit⟩)
    · have hle := Nat.le_of_not_lt hold
      rw [List.getElem?_append_right hle, List.getElem?_singleton] at hpermit
      split at hpermit
      · next hzero =>
        have hhandle : entry.handle = shared.permits.length := by omega
        have hendpoint : adapter.endpoint = .channel channelId :=
          congrArg IngressPermit.endpoint (Option.some.inj hpermit)
        exact .inr (.inr ⟨hendpoint, entry, hmem, hhandle, hcall⟩)
      · cases hpermit

/-- The adapter runs, or its last callback joined the session through its own handle. -/
def Joined (callbacks : RuntimeEndpointId → Callback) (sessionId : SessionId)
    (adapter : RegisteredAdapter) : Prop :=
  adapter.state = .running ∨ ∃ entry ∈ (callbacks adapter.endpoint).entries,
    adapter.permit = some entry.handle ∧ entry.call.joins sessionId = true

/-- A start of the host: a subscription that is new is one of a channel that has been
started, and that runs or has joined in its callback. -/
theorem startAdapters_isSubscribed {callbacks : RuntimeEndpointId → Callback}
    {adapters : List RegisteredAdapter} {shared : SharedBridge World} {channelId : ChannelId}
    {sessionId : SessionId}
    (h : (startAdapters ports callbacks adapters shared).2.1.bridge.isSubscribed channelId
      sessionId = true) :
    shared.bridge.isSubscribed channelId sessionId = true ∨ HasActive shared.permits channelId ∨
    ∃ adapter ∈ (startAdapters ports callbacks adapters shared).1,
      adapter.endpoint = .channel channelId ∧ Joined callbacks sessionId adapter := by
  induction adapters generalizing shared with
  | nil => exact .inl h
  | cons adapter rest ih =>
    obtain ⟨hstarted, hpermits, -⟩ :=
      RegisteredAdapter.start_eq ports adapter shared (callbacks adapter.endpoint)
    rw [startAdapters_cons] at h ⊢
    dsimp only at h ⊢
    rcases ih h with hafter | ⟨handle, hactive⟩ | ⟨other, hmem, hother⟩
    · rcases adapter_start_isSubscribed ports hafter with hbefore | hactive |
        ⟨hendpoint, entry, hentry, hhandle, hcall⟩
      · exact .inl hbefore
      · exact .inr (.inl hactive)
      · refine .inr (.inr ⟨_, List.mem_cons_self, ?_, .inr ⟨entry, ?_, ?_, hcall⟩⟩)
        · rw [hstarted]
          exact hendpoint
        · rw [hstarted]
          exact hentry
        · rw [hstarted, hhandle]
          rfl
    · rw [hpermits] at hactive
      by_cases hold : handle < shared.permits.length
      · rw [List.getElem?_append_left hold] at hactive
        exact .inr (.inl ⟨handle, hactive⟩)
      · -- the new permit is active only if the callback succeeded
        rw [List.getElem?_append_right (Nat.le_of_not_lt hold), List.getElem?_singleton] at hactive
        split at hactive
        · have hpermit := Option.some.inj hactive
          have hendpoint := congrArg IngressPermit.endpoint hpermit
          have hok := congrArg IngressPermit.active hpermit
          refine .inr (.inr ⟨_, List.mem_cons_self, ?_, .inl ?_⟩)
          · rw [hstarted]
            exact hendpoint
          · rw [hstarted]
            exact if_pos hok
        · cases hactive
    · exact .inr (.inr ⟨other, List.mem_cons_of_mem _ hmem, hother⟩)

/-- Without an active permit, callbacks do not subscribe. -/
theorem ingresses_inactive {shared : SharedBridge World} {entries : List Ingress}
    (hinactive : ∀ (handle : Nat) (permit : IngressPermit), shared.permits[handle]? = some permit →
      permit.active = false) {channelId : ChannelId} {sessionId : SessionId}
    (h : (shared.ingresses ports entries).bridge.isSubscribed channelId sessionId = true) :
    shared.bridge.isSubscribed channelId sessionId = true := by
  rcases ingresses_isSubscribed ports h with hbefore | ⟨entry, -, hpermit, -⟩
  · exact hbefore
  · cases hinactive entry.handle _ hpermit

theorem stopAdapters_isSubscribed {callbacks : RuntimeEndpointId → Callback}
    {adapters : List RegisteredAdapter} {shared : SharedBridge World}
    (hinactive : ∀ (handle : Nat) (permit : IngressPermit), shared.permits[handle]? = some permit →
      permit.active = false) {channelId : ChannelId} {sessionId : SessionId}
    (h : (stopAdapters ports callbacks adapters shared).2.1.bridge.isSubscribed channelId
      sessionId = true) :
    shared.bridge.isSubscribed channelId sessionId = true := by
  induction adapters with
  | nil => exact h
  | cons adapter rest ih =>
    unfold stopAdapters at h
    dsimp only at h
    split at h
    · exact ih h
    · apply ih
      have hrevoked : ∀ other ∈ rest, other.Revoked shared.permits :=
        fun _ _ handle permit _ hpermit => hinactive handle permit hpermit
      have hpermits := (stopAdapters_eq ports callbacks hrevoked).2.1
      have hsame : adapter.revokeIngress (stopAdapters ports callbacks rest shared).2.1 =
          (stopAdapters ports callbacks rest shared).2.1 := by
        apply RegisteredAdapter.revokeIngress_revoked
        intro handle permit _ hpermit
        rw [hpermits] at hpermit
        exact hinactive handle permit hpermit
      unfold RegisteredAdapter.stop at h
      rw [hsame] at h
      have hcalled : (SharedBridge.ingresses ports
          { (stopAdapters ports callbacks rest shared).2.1 with
            calls := (stopAdapters ports callbacks rest shared).2.1.calls ++
              [(adapter.endpoint, .stop)] }
          (callbacks adapter.endpoint).entries).bridge.isSubscribed channelId sessionId = true := by
        cases hresult : (callbacks adapter.endpoint).result with
        | ok u =>
          rw [hresult] at h
          exact h
        | error source =>
          rw [hresult] at h
          exact h
      have hbefore := ingresses_inactive ports
        (fun handle permit hpermit => hinactive handle permit (by rw [← hpermits]; exact hpermit))
        hcalled
      exact hbefore

/-- The channels that are cleared have no subscription afterwards. -/
theorem clear_isSubscribed {channelIds : List ChannelId} {bridge : Bridge World}
    {channelId : ChannelId} (hmem : channelId ∈ channelIds) (hknown : channelId ∈ bridge.channels)
    (sessionId : SessionId) :
    (channelIds.foldl (fun bridge channelId => (bridge.unsubscribeChannel channelId).1)
      bridge).isSubscribed channelId sessionId = false := by
  -- once cleared, a later removal does not subscribe again
  have hstays : ∀ (rest : List ChannelId) (bridge : Bridge World),
      bridge.isSubscribed channelId sessionId = false →
      (rest.foldl (fun bridge channelId => (bridge.unsubscribeChannel channelId).1)
        bridge).isSubscribed channelId sessionId = false := by
    intro rest
    induction rest with
    | nil => exact fun _ h => h
    | cons other rest ih =>
      intro bridge h
      apply ih
      rw [Bool.eq_false_iff]
      intro hagain
      rw [Bridge.unsubscribeChannel_kept hagain] at h
      cases h
  induction channelIds generalizing bridge with
  | nil => cases hmem
  | cons first rest ih =>
    by_cases hfirst : first = channelId
    · subst hfirst
      exact hstays rest _ (Bridge.unsubscribeChannel_isSubscribed hknown sessionId)
    · have hrest : channelId ∈ rest := by
        rcases List.mem_cons.mp hmem with rfl | hrest
        · exact absurd rfl hfirst
        · exact hrest
      apply ih hrest
      rw [Bridge.unsubscribeChannel_channels]
      exact hknown

/-- A stop leaves no subscription of a channel that lives with its source. -/
theorem stop_isSubscribed {host : RuntimeHost World} (h : Sound host)
    (hstate : host.state ≠ .stopped) (callbacks : RuntimeEndpointId → Callback)
    {adapter : RegisteredAdapter} {channelId : ChannelId} (hmem : adapter ∈ host.adapters)
    (hscope : adapter.source = .channel channelId .sourceGeneration) (sessionId : SessionId) :
    (host.stop ports callbacks).1.shared.bridge.isSubscribed channelId sessionId = false := by
  obtain ⟨-, hshared, -⟩ := stop_eq ports h hstate callbacks
  rw [hshared, Bool.eq_false_iff]
  intro hstill
  have hinactive : ∀ (handle : Nat) (permit : IngressPermit),
      host.cleared.permits[handle]? = some permit → permit.active = false :=
    fun _ _ hpermit => revokeAll_inactive h hpermit
  have hcleared := stopAdapters_isSubscribed ports hinactive hstill
  have hchannel : channelId ∈
      host.adapters.filterMap fun adapter => adapter.source.sourceGenerationChannel := by
    apply List.mem_filterMap.mpr
    exact ⟨adapter, hmem, by rw [hscope]; rfl⟩
  have hknown : channelId ∈ host.revokeAllIngress.bridge.channels := by
    have hendpoint : adapter.endpoint = .channel channelId := by
      unfold RegisteredAdapter.endpoint
      rw [hscope]
      rfl
    have hknows := h.known adapter hmem
    rw [hendpoint] at hknows
    rw [show host.revokeAllIngress.bridge = _ from (revokeAll_others host.adapters host.shared).1]
    exact hknows
  have hnone := clear_isSubscribed hchannel hknown sessionId
  rw [show host.cleared.bridge.isSubscribed channelId sessionId = false from hnone] at hcleared
  cases hcleared

/-- The subscriptions the host itself was asked for since it last stopped its sources,
and the callbacks of the last start since then. -/
structure Origins where
  asked : List (ChannelId × SessionId)
  callbacks : RuntimeEndpointId → Callback

def Origins.none : Origins := ⟨[], succeeding⟩

def Origins.next (self : Origins) (host : RuntimeHost World) : HostOp → Origins
  | .subscribe channelId sessionId =>
    { self with asked := self.asked ++ [(channelId, sessionId)] }
  | .start callbacks => if host.state = .stopped then { self with callbacks := callbacks } else self
  | .stop _ => if host.state = .stopped then self else .none
  | _ => self

/-- The host together with the origins. -/
def trackedStep (tracked : RuntimeHost World × Origins) (op : HostOp) :
    (RuntimeHost World × Origins) × HostResult :=
  (((tracked.1.step ports op).1, tracked.2.next tracked.1 op), (tracked.1.step ports op).2)

def origins (config : SessionAggregateConfig) (world : World) (ops : List HostOp) : Origins :=
  (Trace.final (trackedStep ports) (withSessionConfig config world, .none) ops).2

/-- Tracking does not change the host. -/
theorem tracked_host (host : RuntimeHost World) (start : Origins) (ops : List HostOp) :
    (Trace.final (trackedStep ports) (host, start) ops).1 = Trace.final (step ports) host ops := by
  induction ops generalizing host start with
  | nil => rfl
  | cons op rest ih => exact ih _ _

/-- The host was asked for the subscription, or the source joined it in the callback of
a start that failed. -/
def Explained (origins : Origins) (adapter : RegisteredAdapter) (channelId : ChannelId)
    (sessionId : SessionId) : Prop :=
  (channelId, sessionId) ∈ origins.asked ∨
  (adapter.state = .startFailed ∧
    ∃ entry ∈ (origins.callbacks adapter.endpoint).entries,
      adapter.permit = some entry.handle ∧ entry.call.joins sessionId = true)

/-- Every subscription of a channel that lives with its source is explained while the
source does not run. -/
def Scoped (host : RuntimeHost World) (origins : Origins) : Prop :=
  ∀ adapter ∈ host.adapters, ∀ channelId, adapter.source = .channel channelId .sourceGeneration →
    adapter.state ≠ .running → ∀ sessionId,
      host.shared.bridge.isSubscribed channelId sessionId = true →
      Explained origins adapter channelId sessionId

theorem endpoint_of_source {adapter : RegisteredAdapter} {channelId : ChannelId}
    {scope : ChannelSubscriptionScope} (h : adapter.source = .channel channelId scope) :
    adapter.endpoint = .channel channelId := by
  unfold RegisteredAdapter.endpoint
  rw [h]
  rfl

/-- A call through a handle: only the channel of a source that runs can join. -/
theorem scoped_ingress {host : RuntimeHost World} {origins : Origins} (hsound : Sound host)
    (h : Scoped host origins) (entry : Ingress) : Scoped (host.ingress ports entry).1 origins := by
  intro adapter hmem channelId hsource hstate sessionId hsubscribed
  rcases ingress_isSubscribed ports hsubscribed with hbefore | ⟨hpermit, -⟩
  · exact h adapter hmem channelId hsource hstate sessionId hbefore
  · obtain ⟨⟨running, hrunning, hendpoint, hstate'⟩, -⟩ := (active_iff hsound hpermit).mp rfl
    have hsame : running = adapter :=
      adapter_unique hsound hrunning hmem (hendpoint.trans (endpoint_of_source hsource).symm)
    rw [hsame] at hstate'
    exact absurd hstate' hstate

theorem scoped_start {host : RuntimeHost World} {origins : Origins} (hsound : Sound host)
    (h : Scoped host origins) (callbacks : RuntimeEndpointId → Callback) :
    Scoped (host.start ports callbacks).1 (origins.next host (.start callbacks)) := by
  have hafter := sound_start ports hsound callbacks
  unfold start at hafter ⊢
  unfold Origins.next
  cases hhost : host.state with
  | started => exact h
  | stopFailed => exact h
  | stopped =>
    rw [hhost] at hafter
    have hphase := hsound.phase
    rw [hhost] at hphase
    obtain ⟨hadapters, -, -⟩ := startAdapters_eq ports callbacks host.adapters host.shared
    intro adapter hmem channelId hsource hstate sessionId hsubscribed
    rcases startAdapters_isSubscribed ports hsubscribed with hbefore | ⟨handle, hactive⟩ |
      ⟨joined, hjoined, hendpoint, hrunning | hjoins⟩
    · -- the adapter was stopped, and what it had then was explained
      replace hmem : adapter ∈ (startAdapters ports callbacks host.adapters host.shared).1 := hmem
      rw [hadapters] at hmem
      obtain ⟨i, before, hfound, rfl⟩ := mem_startedFrom hmem
      have hold := List.mem_of_getElem? hfound
      have hstopped := hphase before hold
      have hexplained := h before hold channelId hsource (by rw [hstopped]; simp) sessionId hbefore
      rcases hexplained with hasked | ⟨hfailed, -⟩
      · exact .inl hasked
      · rw [hstopped] at hfailed
        cases hfailed
    · -- no permit is active before the start
      obtain ⟨owner, howner, hhandle⟩ := hsound.guarded.active handle _ hactive rfl
      obtain ⟨permit, hpermit, -, hrunning⟩ := hsound.guarded.latest owner howner handle hhandle
      rw [hactive] at hpermit
      cases hpermit
      rw [hphase owner howner] at hrunning
      cases hrunning
    · have hsame : joined = adapter :=
        adapter_unique hafter hjoined hmem (hendpoint.trans (endpoint_of_source hsource).symm)
      rw [hsame] at hrunning
      exact absurd hrunning hstate
    · have hsame : joined = adapter :=
        adapter_unique hafter hjoined hmem (hendpoint.trans (endpoint_of_source hsource).symm)
      rw [hsame] at hjoins
      have hfailed : adapter.state = .startFailed := by
        rcases hafter.phase adapter hmem with hrunning | hfailed
        · exact absurd hrunning hstate
        · exact hfailed
      exact .inr ⟨hfailed, hjoins⟩

theorem scoped_stop {host : RuntimeHost World} {origins : Origins} (hsound : Sound host)
    (h : Scoped host origins) (callbacks : RuntimeEndpointId → Callback) :
    Scoped (host.stop ports callbacks).1 (origins.next host (.stop callbacks)) := by
  by_cases hhost : host.state = .stopped
  · unfold stop Origins.next
    rw [if_pos hhost, if_pos hhost]
    exact h
  · obtain ⟨hadapters, -⟩ := stop_eq ports hsound hhost callbacks
    intro adapter hmem channelId hsource hstate sessionId hsubscribed
    rw [hadapters] at hmem
    obtain ⟨before, hold, rfl⟩ := List.mem_map.mp hmem
    rw [RegisteredAdapter.stopped_source] at hsource
    rw [stop_isSubscribed ports hsound hhost callbacks hold hsource] at hsubscribed
    cases hsubscribed

/-- A new endpoint has no subscription. -/
theorem scoped_register {host : RuntimeHost World} {origins : Origins}
    (hconsistent : Consistent host.shared.bridge) (h : Scoped host origins)
    {source : RegisteredSource}
    {join : Bridge World → Bridge World × Except EndpointRegistrationError Unit}
    (hjoin : ∀ bridge, (join bridge).2 = .ok () → ¬ Knows bridge source.endpoint)
    (hkeeps : ∀ bridge channelId sessionId,
      (join bridge).1.isSubscribed channelId sessionId = true →
        bridge.isSubscribed channelId sessionId = true) :
    Scoped (host.register source join).1 origins := by
  have hjoined := hjoin host.shared.bridge
  have hkept := hkeeps host.shared.bridge
  unfold register
  cases host.ensureRegistrationAllowed with
  | error error => exact h
  | ok u =>
    dsimp only
    rcases hpair : join host.shared.bridge with ⟨bridge, result⟩
    rw [hpair] at hjoined hkept
    cases result with
    | error error =>
      intro adapter hmem channelId hsource hstate sessionId hsubscribed
      exact h adapter hmem channelId hsource hstate sessionId (hkept channelId sessionId hsubscribed)
    | ok u =>
      intro adapter hmem channelId hsource hstate sessionId hsubscribed
      have hbefore := hkept channelId sessionId hsubscribed
      rcases List.mem_append.mp hmem with hmem | hmem
      · exact h adapter hmem channelId hsource hstate sessionId hbefore
      · cases List.mem_singleton.mp hmem
        have hregistered : channelId ∈ host.shared.bridge.channels :=
          (hconsistent.subscribed channelId sessionId hbefore).1
        have hendpoint : (RegisteredAdapter.new source).endpoint = .channel channelId :=
          endpoint_of_source hsource
        have hnew := hjoined rfl
        rw [show source.endpoint = _ from hendpoint] at hnew
        exact absurd hregistered hnew

theorem registerProvider_isSubscribed (descriptor : ProviderDescriptor) (bridge : Bridge World)
    (channelId : ChannelId) (sessionId : SessionId)
    (h : (bridge.registerProvider descriptor).1.isSubscribed channelId sessionId = true) :
    bridge.isSubscribed channelId sessionId = true := by
  unfold Bridge.registerProvider at h
  split at h <;> exact h

theorem registerChannel_isSubscribed (descriptor : ChannelDescriptor) (bridge : Bridge World)
    (channelId : ChannelId) (sessionId : SessionId)
    (h : (bridge.registerChannel descriptor).1.isSubscribed channelId sessionId = true) :
    bridge.isSubscribed channelId sessionId = true := by
  unfold Bridge.registerChannel at h
  split at h <;> exact h

/-- Every call explains the subscriptions it leaves. -/
theorem scoped_step {host : RuntimeHost World} {origins : Origins} (hsound : Sound host)
    (hconsistent : Consistent host.shared.bridge) (h : Scoped host origins) (op : HostOp) :
    Scoped (host.step ports op).1 (origins.next host op) := by
  cases op with
  | registerProvider descriptor =>
    show Scoped (host.register (.provider descriptor.id) fun bridge =>
      bridge.registerProvider descriptor).1 origins
    exact scoped_register hconsistent h
      (fun bridge hok => (registerProvider_knows descriptor bridge hok).1)
      (registerProvider_isSubscribed descriptor)
  | registerChannel descriptor scope =>
    show Scoped (host.register (.channel descriptor.id scope) fun bridge =>
      bridge.registerChannel descriptor).1 origins
    exact scoped_register hconsistent h
      (fun bridge hok => (registerChannel_knows descriptor bridge hok).1)
      (registerChannel_isSubscribed descriptor)
  | start callbacks => exact scoped_start ports hsound h callbacks
  | stop callbacks => exact scoped_stop ports hsound h callbacks
  | subscribe channel session =>
    intro adapter hmem channelId hsource hstate sessionId hsubscribed
    have hjoined : (host.shared.bridge.step ports (.subscribe channel session)).1.isSubscribed
        channelId sessionId = true := hsubscribed
    rcases Bridge.step_isSubscribed ports hjoined with hbefore | hjoins
    · rcases h adapter hmem channelId hsource hstate sessionId hbefore with hasked | hfailed
      · exact .inl (List.mem_append_left _ hasked)
      · exact .inr hfailed
    · obtain ⟨rfl, rfl⟩ := of_decide_eq_true hjoins
      exact .inl (List.mem_append_right _ (List.mem_singleton.mpr rfl))
  | unsubscribe channel session =>
    intro adapter hmem channelId hsource hstate sessionId hsubscribed
    have hleft : (host.shared.bridge.step ports (.unsubscribe channel session)).1.isSubscribed
        channelId sessionId = true := hsubscribed
    rcases Bridge.step_isSubscribed ports hleft with hbefore | hjoins
    · exact h adapter hmem channelId hsource hstate sessionId hbefore
    · cases hjoins
  | ingress entry => exact scoped_ingress ports hsound h entry

theorem consistent_reaches {before after : Bridge World} (h : Reaches ports before after)
    (hconsistent : Consistent before) : Consistent after := by
  obtain ⟨ops, rfl⟩ := h
  exact Trace.final_invariant (Bridge.step ports) Consistent
    (fun bridge op hbefore => Bridge.consistent_change hbefore (Bridge.step_change ports bridge op))
    before ops hconsistent

theorem run_scoped (config : SessionAggregateConfig) (world : World) (ops : List HostOp) :
    Scoped (run ports config world ops) (origins ports config world ops) := by
  have hrun := Trace.final_invariant (trackedStep ports)
    (fun tracked => Sound tracked.1 ∧ Consistent tracked.1.shared.bridge ∧
      Scoped tracked.1 tracked.2)
    (fun tracked op ⟨hsound, hconsistent, hscoped⟩ =>
      ⟨sound_step ports hsound op,
        consistent_reaches ports (step_reaches ports tracked.1 op) hconsistent,
        scoped_step ports hsound hconsistent hscoped op⟩)
    (withSessionConfig config world, Origins.none) ops
    ⟨sound_withSessionConfig config world, Bridge.consistent_withSessionConfig config world,
      fun adapter hmem => by cases hmem⟩
  have hhost := tracked_host ports (withSessionConfig config world) Origins.none ops
  have hscoped := hrun.2.2
  rw [hhost] at hscoped
  exact hscoped

/-- After any calls of the host, a channel that lives with its source and whose source
does not run is subscribed only to sessions that the host was asked for since its last
stop, or that a failed start joined through its own handle; and a stop leaves no
subscription of such a channel at all. -/
theorem run_generation_subscriptions (config : SessionAggregateConfig) (world : World)
    (ops : List HostOp) (adapter : RegisteredAdapter) (channelId : ChannelId)
    (hmem : adapter ∈ (run ports config world ops).adapters)
    (hsource : adapter.source = .channel channelId .sourceGeneration) :
    let host := run ports config world ops
    (adapter.state ≠ .running → ∀ sessionId,
      host.shared.bridge.isSubscribed channelId sessionId = true →
      Explained (origins ports config world ops) adapter channelId sessionId) ∧
    (host.state ≠ .stopped → ∀ callbacks sessionId,
      (host.stop ports callbacks).1.shared.bridge.isSubscribed channelId sessionId = false) := by
  intro host
  have hsound : Sound host := run_sound ports config world ops
  constructor
  · exact run_scoped ports config world ops adapter hmem channelId hsource
  · intro hstate callbacks sessionId
    exact stop_isSubscribed ports hsound hstate callbacks hmem hsource sessionId

end RuntimeHost

namespace Sample

/-- The provider opens a session in its start; the channel joins it in its own, and
returns the given result. -/
def opening (result : Except BoxAdapterError Unit) : RuntimeEndpointId → Callback
  | .provider _ => ⟨[⟨0, .publishEvent (started 0 0)⟩], .ok ()⟩
  | .channel _ => ⟨[⟨1, .channel (.subscribe (Ident.numbered .session 0))⟩], result⟩

/-- A host with one provider and a channel that lives with its source. -/
def openedRun (result : Except BoxAdapterError Unit) : List HostOp :=
  [.registerProvider (provider 0), .registerChannel (channel 0) .sourceGeneration,
    .start (opening result)]

/-- The states of the adapters, and whether the channel follows the session. -/
def openedView (ops : List HostOp) : List AdapterLifecycleState × Bool :=
  let host := RuntimeHost.run accepting .default () ops
  (host.adapters.map RegisteredAdapter.state,
    host.shared.bridge.isSubscribed (channel 0).id (Ident.numbered .session 0))

end Sample

namespace RuntimeHost

/-- The subscription of a channel whose start failed is one that its callback joined. -/
theorem generation_subscriptions_failed :
    Explained (origins Sample.accepting .default () (Sample.openedRun (.error "refused")))
      ⟨.channel (Sample.channel 0).id .sourceGeneration, .startFailed, some 1⟩
      (Sample.channel 0).id (Ident.numbered .session 0) := by
  have hmem : (⟨.channel (Sample.channel 0).id .sourceGeneration, .startFailed, some 1⟩ :
      RegisteredAdapter) ∈
      (run Sample.accepting .default () (Sample.openedRun (.error "refused"))).adapters := by
    decide +kernel
  have hsubscribed : (run Sample.accepting .default ()
      (Sample.openedRun (.error "refused"))).shared.bridge.isSubscribed (Sample.channel 0).id
        (Ident.numbered .session 0) = true := by
    decide +kernel
  exact (run_generation_subscriptions Sample.accepting .default ()
    (Sample.openedRun (.error "refused")) _ (Sample.channel 0).id hmem rfl).1 (by simp) _ hsubscribed

/-- The channel joins a session in a start that fails; and the host, stopped, is asked
for the subscription, with which the next generation begins. -/
theorem subscription_without_source :
    Sample.openedView (Sample.openedRun (.error "refused")) = ([.running, .startFailed], true) ∧
    Sample.openedView (Sample.openedRun (.ok ()) ++ [.stop succeeding]) =
      ([.stopped, .stopped], false) ∧
    Sample.openedView (Sample.openedRun (.ok ()) ++ [.stop succeeding,
      .subscribe (Sample.channel 0).id (Ident.numbered .session 0)]) =
      ([.stopped, .stopped], true) ∧
    Sample.openedView (Sample.openedRun (.ok ()) ++ [.stop succeeding,
      .subscribe (Sample.channel 0).id (Ident.numbered .session 0), .start succeeding]) =
      ([.running, .running], true) := by
  refine ⟨?_, ?_, ?_, ?_⟩
  · decide +kernel
  · decide +kernel
  · decide +kernel
  · decide +kernel

end RuntimeHost

end AgentPulse
