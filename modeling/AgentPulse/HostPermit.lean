import AgentPulse.BridgeInvariant
import AgentPulse.HostRuntime

/-!
# Which handles are let in

Between two calls of the host the handles that are let in are those of the last
start of the sources that run. A permit is made active and never becomes active
again once it is revoked.
-/
namespace AgentPulse

open Std (ExtTreeMap)

/-- The operation of the bridge that a call through a handle of the endpoint asks for. -/
def IngressCall.operation : RuntimeEndpointId → IngressCall → Option BridgeOp
  | .provider providerId, .publishEvent event => some (.handleProviderEvent providerId event)
  | .channel channelId, .channel (.subscribe sessionId) => some (.subscribe channelId sessionId)
  | .channel channelId, .channel (.syncSession sessionId afterSequence maxEvents) =>
    some (.syncSession channelId sessionId afterSequence maxEvents)
  | .channel channelId, .channel (.unsubscribe sessionId) => some (.unsubscribe channelId sessionId)
  | .channel channelId, .channel (.submitInteractionResponse response) =>
    some (.handleInteractionResponse channelId response)
  | .channel channelId, .channel (.submitCommand command) => some (.handleCommand channelId command)
  | _, _ => none

namespace SharedBridge

variable {World : Type} (ports : Ports World)

def withBridge (self : SharedBridge World) (bridge : Bridge World) : SharedBridge World :=
  { self with bridge := bridge }

/-- A call changes nothing, or is let in and runs its operation. -/
theorem ingress_cases (self : SharedBridge World) (entry : Ingress) :
    (self.ingress ports entry).1 = self ∨
    ∃ permit op, self.permits[entry.handle]? = some permit ∧ permit.active = true ∧
      entry.call.operation permit.endpoint = some op ∧
      (self.ingress ports entry).1 = self.withBridge (self.bridge.step ports op).1 := by
  unfold ingress
  cases hpermit : self.permits[entry.handle]? with
  | none => exact .inl rfl
  | some permit =>
    dsimp only
    cases hendpoint : permit.endpoint with
    | provider providerId =>
      cases hcall : entry.call with
      | publishEvent event =>
        dsimp only [Prod.map_fst]
        unfold publishEvent
        cases hactive : permit.active with
        | false => exact .inl rfl
        | true =>
          refine .inr ⟨permit, .handleProviderEvent providerId event, rfl, hactive, ?_, ?_⟩
          · rw [hendpoint]
            rfl
          · simp only [if_true, id_eq, Bridge.step, Prod.map_fst]
            rcases self.bridge.handleProviderEvent ports providerId event with ⟨bridge, result⟩
            cases result <;> rfl
      | channel call => exact .inl rfl
    | channel channelId =>
      cases hcall : entry.call with
      | publishEvent event => exact .inl rfl
      | channel call =>
        dsimp only [Prod.map_fst]
        unfold withBridgeAccess
        cases hactive : permit.active with
        | false => exact .inl rfl
        | true =>
          cases call with
          | discoverySnapshot => exact .inl rfl
          | subscribe | syncSession | unsubscribe | submitInteractionResponse | submitCommand =>
            exact .inr ⟨permit, _, rfl, hactive, by rw [hendpoint]; rfl, rfl⟩

/-- The bridge's own refusals are not those of the permit. -/
theorem channelOperation_not_inactive (channelId : ChannelId) (bridge : Bridge World)
    (call : ChannelCall) (id : ChannelId) :
    (channelOperation ports channelId bridge call).2 ≠ .error (.inactive id) := by
  cases call with
  | discoverySnapshot => simp [channelOperation]
  | subscribe sessionId =>
    show Except.mapError _ (Except.map _ (bridge.subscribe ports channelId sessionId).2) ≠ _
    cases (bridge.subscribe ports channelId sessionId).2 <;> simp [Except.map, Except.mapError]
  | syncSession sessionId afterSequence maxEvents =>
    show Except.mapError _ (Except.map _
      (bridge.syncSession ports channelId sessionId afterSequence maxEvents).2) ≠ _
    cases (bridge.syncSession ports channelId sessionId afterSequence maxEvents).2 <;>
      simp [Except.map, Except.mapError]
  | unsubscribe sessionId =>
    show Except.mapError _ (Except.map _ (bridge.unsubscribe channelId sessionId).2) ≠ _
    cases (bridge.unsubscribe channelId sessionId).2 <;> simp [Except.map, Except.mapError]
  | submitInteractionResponse response =>
    show Except.mapError _ (Except.map _
      (bridge.handleInteractionResponse ports channelId response).2) ≠ _
    cases (bridge.handleInteractionResponse ports channelId response).2 <;>
      simp [Except.map, Except.mapError]
  | submitCommand command =>
    show Except.mapError _ (Except.map _ (bridge.handleCommand ports channelId command).2) ≠ _
    cases (bridge.handleCommand ports channelId command).2 <;> simp [Except.map, Except.mapError]

/-- A call is refused as inactive exactly if its permit is not active. -/
theorem ingress_inactive {self : SharedBridge World} {entry : Ingress} {permit : IngressPermit}
    {result : IngressResult} (hpermit : self.permits[entry.handle]? = some permit)
    (hresult : (self.ingress ports entry).2 = some result) :
    result.isInactive = !permit.active := by
  unfold ingress at hresult
  rw [hpermit] at hresult
  dsimp only at hresult
  cases hendpoint : permit.endpoint with
  | provider providerId =>
    cases hcall : entry.call with
    | channel call =>
      rw [hendpoint, hcall] at hresult
      cases hresult
    | publishEvent event =>
      rw [hendpoint, hcall] at hresult
      dsimp only [Prod.map_snd] at hresult
      cases hresult
      unfold publishEvent
      cases permit.active with
      | false => rfl
      | true =>
        simp only [if_true]
        rcases self.bridge.handleProviderEvent ports providerId event with ⟨bridge, result⟩
        cases result <;> rfl
  | channel channelId =>
    cases hcall : entry.call with
    | publishEvent event =>
      rw [hendpoint, hcall] at hresult
      cases hresult
    | channel call =>
      rw [hendpoint, hcall] at hresult
      dsimp only [Prod.map_snd] at hresult
      cases hresult
      unfold withBridgeAccess
      cases permit.active with
      | false => rfl
      | true =>
        have hnot := channelOperation_not_inactive ports channelId self.bridge call
        simp only [if_true, Bool.not_true]
        cases hop : (channelOperation ports channelId self.bridge call).2 with
        | ok answer => rfl
        | error error =>
          cases error with
          | inactive id => exact absurd hop (hnot id)
          | channelMismatch | hostDropped | bridgeAccess | bridge | subscription => rfl

theorem ingress_permits (self : SharedBridge World) (entry : Ingress) :
    (self.ingress ports entry).1.permits = self.permits := by
  obtain h | ⟨permit, op, -, -, -, h⟩ := ingress_cases ports self entry
  · rw [h]
  · rw [h]
    rfl

theorem ingress_calls (self : SharedBridge World) (entry : Ingress) :
    (self.ingress ports entry).1.calls = self.calls := by
  obtain h | ⟨permit, op, -, -, -, h⟩ := ingress_cases ports self entry
  · rw [h]
  · rw [h]
    rfl

@[simp] theorem ingresses_permits (self : SharedBridge World) (entries : List Ingress) :
    (self.ingresses ports entries).permits = self.permits := by
  induction entries generalizing self with
  | nil => rfl
  | cons entry rest ih => exact (ih _).trans (ingress_permits ports self entry)

@[simp] theorem ingresses_calls (self : SharedBridge World) (entries : List Ingress) :
    (self.ingresses ports entries).calls = self.calls := by
  induction entries generalizing self with
  | nil => rfl
  | cons entry rest ih => exact (ih _).trans (ingress_calls ports self entry)

theorem revoke_permits (self : SharedBridge World) (permit handle : Nat) :
    (self.revoke permit).permits[handle]? =
      if permit = handle then self.permits[handle]?.map fun p => { p with active := false }
      else self.permits[handle]? := by
  show (self.permits.modify permit _)[handle]? = _
  rw [List.getElem?_modify]
  split <;> simp

end SharedBridge

namespace RegisteredAdapter

variable {World : Type} (ports : Ports World)

/-- The adapter after a start with the handle. -/
def started (self : RegisteredAdapter) (callback : Callback) (handle : Nat) : RegisteredAdapter :=
  { self with
    state := if callback.result.isOk then .running else .startFailed
    permit := some handle }

/-- The adapter after a stop of the host. -/
def stopped (self : RegisteredAdapter) (callback : Callback) : RegisteredAdapter :=
  if self.state = .stopped then self
  else { self with state := if callback.result.isOk then .stopped else .stopFailed }

@[simp] theorem started_endpoint (self : RegisteredAdapter) (callback : Callback) (handle : Nat) :
    (self.started callback handle).endpoint = self.endpoint := rfl

@[simp] theorem stopped_source (self : RegisteredAdapter) (callback : Callback) :
    (self.stopped callback).source = self.source := by
  unfold stopped
  split <;> rfl

@[simp] theorem stopped_endpoint (self : RegisteredAdapter) (callback : Callback) :
    (self.stopped callback).endpoint = self.endpoint :=
  congrArg RegisteredSource.endpoint (stopped_source self callback)

@[simp] theorem stopped_permit (self : RegisteredAdapter) (callback : Callback) :
    (self.stopped callback).permit = self.permit := by
  unfold stopped
  split <;> rfl

theorem modify_append_last {α : Type} (xs : List α) (x : α) (f : α → α) :
    (xs ++ [x]).modify xs.length f = xs ++ [f x] := by
  induction xs with
  | nil => rfl
  | cons y rest ih => exact congrArg (y :: ·) ih

/-- A start adds one permit, which stays active if the callback succeeds. -/
theorem start_eq (self : RegisteredAdapter) (shared : SharedBridge World) (callback : Callback) :
    (self.start ports shared callback).1 = self.started callback shared.permits.length ∧
    (self.start ports shared callback).2.1.permits =
      shared.permits ++ [⟨self.endpoint, callback.result.isOk⟩] ∧
    (self.start ports shared callback).2.1.calls = shared.calls ++ [(self.endpoint, .start)] := by
  unfold start started
  cases callback.result with
  | ok u =>
    refine ⟨rfl, ?_, ?_⟩
    · exact SharedBridge.ingresses_permits ports _ _
    · exact SharedBridge.ingresses_calls ports _ _
  | error source =>
    refine ⟨rfl, ?_, ?_⟩
    · show List.modify (SharedBridge.ingresses ports _ _).permits _ _ = _
      rw [SharedBridge.ingresses_permits]
      exact modify_append_last shared.permits ⟨self.endpoint, true⟩ _
    · exact SharedBridge.ingresses_calls ports _ _

/-- The permit of the adapter, if it has one, is revoked. -/
def Revoked (self : RegisteredAdapter) (permits : List IngressPermit) : Prop :=
  ∀ handle permit, self.permit = some handle → permits[handle]? = some permit →
    permit.active = false

/-- Revoking again changes nothing. -/
theorem revokeIngress_revoked {self : RegisteredAdapter} {shared : SharedBridge World}
    (h : self.Revoked shared.permits) : self.revokeIngress shared = shared := by
  unfold revokeIngress
  cases hpermit : self.permit with
  | none => rfl
  | some handle =>
    have hsame : (shared.revoke handle).permits = shared.permits := by
      apply List.ext_getElem?
      intro other
      rw [SharedBridge.revoke_permits]
      split
      · next he =>
        subst he
        cases hfound : shared.permits[handle]? with
        | none => rfl
        | some permit =>
          have hinactive := h handle permit hpermit hfound
          obtain ⟨endpoint, active⟩ := permit
          cases hinactive
          rfl
      · rfl
    show ({ shared with permits := (shared.revoke handle).permits } : SharedBridge World) = shared
    rw [hsame]

/-- A stop of an adapter that is not stopped, once its permit is revoked. -/
theorem stop_eq {self : RegisteredAdapter} {shared : SharedBridge World} (callback : Callback)
    (hstate : self.state ≠ .stopped) (h : self.Revoked shared.permits) :
    (self.stop ports shared callback).1 = self.stopped callback ∧
    (self.stop ports shared callback).2.1.permits = shared.permits ∧
    (self.stop ports shared callback).2.1.calls = shared.calls ++ [(self.endpoint, .stop)] := by
  unfold stop stopped
  rw [revokeIngress_revoked h, if_neg hstate]
  cases callback.result with
  | ok u =>
    refine ⟨rfl, ?_, ?_⟩
    · exact SharedBridge.ingresses_permits ports _ _
    · exact SharedBridge.ingresses_calls ports _ _
  | error source =>
    refine ⟨rfl, ?_, ?_⟩
    · exact SharedBridge.ingresses_permits ports _ _
    · exact SharedBridge.ingresses_calls ports _ _

end RegisteredAdapter

namespace RuntimeHost

variable {World : Type} (ports : Ports World)

/-- The adapters after a start whose first handle is the given one. -/
def startedFrom (callbacks : RuntimeEndpointId → Callback) :
    Nat → List RegisteredAdapter → List RegisteredAdapter
  | _, [] => []
  | handle, adapter :: rest =>
    adapter.started (callbacks adapter.endpoint) handle :: startedFrom callbacks (handle + 1) rest

theorem getElem?_startedFrom (callbacks : RuntimeEndpointId → Callback) (handle : Nat)
    (adapters : List RegisteredAdapter) (i : Nat) :
    (startedFrom callbacks handle adapters)[i]? =
      adapters[i]?.map fun adapter =>
        adapter.started (callbacks adapter.endpoint) (handle + i) := by
  induction adapters generalizing handle i with
  | nil => rfl
  | cons adapter rest ih =>
    cases i with
    | zero => rfl
    | succ i =>
      show (startedFrom callbacks (handle + 1) rest)[i]? = _
      rw [ih, Nat.add_right_comm, Nat.add_assoc]
      rfl

theorem startedFrom_endpoints (callbacks : RuntimeEndpointId → Callback) (handle : Nat)
    (adapters : List RegisteredAdapter) :
    (startedFrom callbacks handle adapters).map RegisteredAdapter.endpoint =
      adapters.map RegisteredAdapter.endpoint := by
  induction adapters generalizing handle with
  | nil => rfl
  | cons adapter rest ih => exact congrArg (adapter.endpoint :: ·) (ih (handle + 1))

/-- The permits that a start makes. -/
def newPermits (callbacks : RuntimeEndpointId → Callback) (adapters : List RegisteredAdapter) :
    List IngressPermit :=
  adapters.map fun adapter => ⟨adapter.endpoint, (callbacks adapter.endpoint).result.isOk⟩

theorem startAdapters_cons (callbacks : RuntimeEndpointId → Callback) (adapter : RegisteredAdapter)
    (rest : List RegisteredAdapter) (shared : SharedBridge World) :
    startAdapters ports callbacks (adapter :: rest) shared =
      let first := adapter.start ports shared (callbacks adapter.endpoint)
      let others := startAdapters ports callbacks rest first.2.1
      (first.1 :: others.1, others.2.1, .ofResult adapter.endpoint first.2.2 :: others.2.2) := rfl

theorem startAdapters_eq (callbacks : RuntimeEndpointId → Callback)
    (adapters : List RegisteredAdapter) (shared : SharedBridge World) :
    (startAdapters ports callbacks adapters shared).1 =
      startedFrom callbacks shared.permits.length adapters ∧
    (startAdapters ports callbacks adapters shared).2.1.permits =
      shared.permits ++ newPermits callbacks adapters ∧
    (startAdapters ports callbacks adapters shared).2.1.calls =
      shared.calls ++ adapters.map fun adapter => (adapter.endpoint, .start) := by
  induction adapters generalizing shared with
  | nil => simp [startAdapters, startedFrom, newPermits]
  | cons adapter rest ih =>
    obtain ⟨hstarted, hpermits, hcalls⟩ :=
      RegisteredAdapter.start_eq ports adapter shared (callbacks adapter.endpoint)
    obtain ⟨hothers, hrestPermits, hrestCalls⟩ :=
      ih (adapter.start ports shared (callbacks adapter.endpoint)).2.1
    rw [startAdapters_cons]
    refine ⟨?_, ?_, ?_⟩
    · dsimp only
      rw [hstarted, hothers, hpermits, List.length_append]
      rfl
    · dsimp only
      rw [hrestPermits, hpermits, List.append_assoc]
      rfl
    · dsimp only
      rw [hrestCalls, hcalls, List.append_assoc]
      rfl

/-- The adapters whose source a stop calls, last first. -/
def toStop (adapters : List RegisteredAdapter) : List RegisteredAdapter :=
  (adapters.filter fun adapter => adapter.state ≠ .stopped).reverse

theorem stopAdapters_eq (callbacks : RuntimeEndpointId → Callback)
    {adapters : List RegisteredAdapter} {shared : SharedBridge World}
    (h : ∀ adapter ∈ adapters, adapter.Revoked shared.permits) :
    (stopAdapters ports callbacks adapters shared).1 =
      adapters.map (fun adapter => adapter.stopped (callbacks adapter.endpoint)) ∧
    (stopAdapters ports callbacks adapters shared).2.1.permits = shared.permits ∧
    (stopAdapters ports callbacks adapters shared).2.1.calls =
      shared.calls ++ (toStop adapters).map fun adapter => (adapter.endpoint, .stop) := by
  induction adapters with
  | nil => simp [stopAdapters, toStop]
  | cons adapter rest ih =>
    obtain ⟨hothers, hpermits, hcalls⟩ := ih fun other hmem => h other (List.mem_cons_of_mem _ hmem)
    unfold stopAdapters
    dsimp only
    by_cases hstate : adapter.state = .stopped
    · rw [if_pos hstate]
      refine ⟨?_, hpermits, ?_⟩
      · show adapter :: _ = _
        rw [hothers]
        simp [RegisteredAdapter.stopped, hstate]
      · show SharedBridge.calls _ = _
        rw [hcalls]
        simp [toStop, hstate]
    · rw [if_neg hstate]
      have hrevoked : adapter.Revoked
          (stopAdapters ports callbacks rest shared).2.1.permits := by
        rw [hpermits]
        exact h adapter List.mem_cons_self
      obtain ⟨hstopped, hsame, hlast⟩ :=
        RegisteredAdapter.stop_eq ports (callbacks adapter.endpoint) hstate hrevoked
      refine ⟨?_, hsame.trans hpermits, ?_⟩
      · show _ :: _ = _
        rw [hstopped, hothers]
        rfl
      · show SharedBridge.calls _ = _
        rw [hlast, hcalls]
        simp [toStop, hstate]

/-- A stop reports a failure exactly if a callback that it runs fails. -/
theorem stopAdapters_fails (callbacks : RuntimeEndpointId → Callback)
    (adapters : List RegisteredAdapter) (shared : SharedBridge World) :
    ((stopAdapters ports callbacks adapters shared).2.2.any fun result => !result.isSuccess) =
      adapters.any fun adapter =>
        decide (adapter.state ≠ .stopped) && !(callbacks adapter.endpoint).result.isOk := by
  induction adapters with
  | nil => rfl
  | cons adapter rest ih =>
    unfold stopAdapters
    dsimp only
    by_cases hstate : adapter.state = .stopped
    · rw [if_pos hstate, List.any_append, ih, List.any_cons, Bool.or_comm]
      congr 1
      simp [hstate, AdapterLifecycleResult.isSuccess]
    · rw [if_neg hstate, List.any_append, ih, List.any_cons, Bool.or_comm]
      congr 1
      unfold RegisteredAdapter.stop
      cases hresult : (callbacks adapter.endpoint).result <;>
        simp [hstate, hresult, AdapterLifecycleResult.ofResult, AdapterLifecycleResult.isSuccess,
          Except.isOk, Except.toBool]

theorem revokeAll_permits (adapters : List RegisteredAdapter) (shared : SharedBridge World)
    (handle : Nat) :
    (adapters.foldl (fun shared adapter => adapter.revokeIngress shared) shared).permits[handle]? =
      shared.permits[handle]?.map fun permit =>
        if adapters.any fun adapter => adapter.permit = some handle then
          { permit with active := false }
        else permit := by
  induction adapters generalizing shared with
  | nil => simp
  | cons adapter rest ih =>
    rw [List.foldl_cons, ih]
    unfold RegisteredAdapter.revokeIngress
    cases hpermit : adapter.permit with
    | none => simp [hpermit]
    | some revoked =>
      dsimp only
      rw [SharedBridge.revoke_permits]
      by_cases hsame : revoked = handle
      · subst hsame
        rw [if_pos rfl, Option.map_map]
        congr 1
        funext permit
        simp [hpermit]
      · rw [if_neg hsame]
        simp [hpermit, hsame]

theorem revokeAll_others (adapters : List RegisteredAdapter) (shared : SharedBridge World) :
    (adapters.foldl (fun shared adapter => adapter.revokeIngress shared) shared).bridge =
      shared.bridge ∧
    (adapters.foldl (fun shared adapter => adapter.revokeIngress shared) shared).calls =
      shared.calls := by
  induction adapters generalizing shared with
  | nil => exact ⟨rfl, rfl⟩
  | cons adapter rest ih =>
    obtain ⟨hbridge, hcalls⟩ := ih (adapter.revokeIngress shared)
    have hkeeps : (adapter.revokeIngress shared).bridge = shared.bridge ∧
        (adapter.revokeIngress shared).calls = shared.calls := by
      unfold RegisteredAdapter.revokeIngress
      cases adapter.permit <;> exact ⟨rfl, rfl⟩
    exact ⟨hbridge.trans hkeeps.1, hcalls.trans hkeeps.2⟩

/-- The operations of the bridge lead from one bridge to the other. -/
def Reaches (before after : Bridge World) : Prop :=
  ∃ ops, after = Trace.final (Bridge.step ports) before ops

theorem reaches_refl (bridge : Bridge World) : Reaches ports bridge bridge := ⟨[], rfl⟩

theorem reaches_trans {a b c : Bridge World} (hab : Reaches ports a b) (hbc : Reaches ports b c) :
    Reaches ports a c := by
  obtain ⟨first, rfl⟩ := hab
  obtain ⟨second, rfl⟩ := hbc
  exact ⟨first ++ second, (Trace.final_append (Bridge.step ports) a first second).symm⟩

theorem reaches_step (bridge : Bridge World) (op : BridgeOp) :
    Reaches ports bridge (bridge.step ports op).1 := ⟨[op], rfl⟩

theorem ingress_reaches (shared : SharedBridge World) (entry : Ingress) :
    Reaches ports shared.bridge (shared.ingress ports entry).1.bridge := by
  obtain h | ⟨permit, op, -, -, -, h⟩ := SharedBridge.ingress_cases ports shared entry
  · rw [h]
    exact reaches_refl ports shared.bridge
  · rw [h]
    exact reaches_step ports shared.bridge op

theorem ingresses_reaches (shared : SharedBridge World) (entries : List Ingress) :
    Reaches ports shared.bridge (shared.ingresses ports entries).bridge := by
  induction entries generalizing shared with
  | nil => exact reaches_refl ports shared.bridge
  | cons entry rest ih => exact reaches_trans ports (ingress_reaches ports shared entry) (ih _)

theorem adapter_start_reaches (adapter : RegisteredAdapter) (shared : SharedBridge World)
    (callback : Callback) :
    Reaches ports shared.bridge (adapter.start ports shared callback).2.1.bridge := by
  unfold RegisteredAdapter.start
  cases callback.result with
  | ok u => exact ingresses_reaches ports _ callback.entries
  | error source => exact ingresses_reaches ports _ callback.entries

theorem revokeIngress_bridge (adapter : RegisteredAdapter) (shared : SharedBridge World) :
    (adapter.revokeIngress shared).bridge = shared.bridge := by
  unfold RegisteredAdapter.revokeIngress
  cases adapter.permit <;> rfl

theorem adapter_stop_reaches (adapter : RegisteredAdapter) (shared : SharedBridge World)
    (callback : Callback) :
    Reaches ports shared.bridge (adapter.stop ports shared callback).2.1.bridge := by
  have hcalled := ingresses_reaches ports
    { adapter.revokeIngress shared with
      calls := (adapter.revokeIngress shared).calls ++ [(adapter.endpoint, .stop)] } callback.entries
  rw [show SharedBridge.bridge _ = _ from revokeIngress_bridge adapter shared] at hcalled
  unfold RegisteredAdapter.stop
  cases callback.result with
  | ok u => exact hcalled
  | error source => exact hcalled

theorem startAdapters_reaches (callbacks : RuntimeEndpointId → Callback)
    (adapters : List RegisteredAdapter) (shared : SharedBridge World) :
    Reaches ports shared.bridge (startAdapters ports callbacks adapters shared).2.1.bridge := by
  induction adapters generalizing shared with
  | nil => exact reaches_refl ports shared.bridge
  | cons adapter rest ih =>
    exact reaches_trans ports (adapter_start_reaches ports adapter shared _) (ih _)

theorem stopAdapters_reaches (callbacks : RuntimeEndpointId → Callback)
    (adapters : List RegisteredAdapter) (shared : SharedBridge World) :
    Reaches ports shared.bridge (stopAdapters ports callbacks adapters shared).2.1.bridge := by
  induction adapters with
  | nil => exact reaches_refl ports shared.bridge
  | cons adapter rest ih =>
    unfold stopAdapters
    dsimp only
    split
    · exact ih
    · exact reaches_trans ports ih (adapter_stop_reaches ports adapter _ _)

theorem clear_reaches (channelIds : List ChannelId) (bridge : Bridge World) :
    Reaches ports bridge
      (channelIds.foldl (fun bridge channelId => (bridge.unsubscribeChannel channelId).1)
        bridge) := by
  induction channelIds generalizing bridge with
  | nil => exact reaches_refl ports bridge
  | cons channelId rest ih =>
    exact reaches_trans ports (reaches_step ports bridge (.unsubscribeChannel channelId)) (ih _)

theorem register_reaches (host : RuntimeHost World) (source : RegisteredSource)
    (join : Bridge World → Bridge World × Except EndpointRegistrationError Unit)
    (hjoin : ∀ bridge, Reaches ports bridge (join bridge).1) :
    Reaches ports host.shared.bridge (host.register source join).1.shared.bridge := by
  have hjoined := hjoin host.shared.bridge
  unfold register
  cases host.ensureRegistrationAllowed with
  | error error => exact reaches_refl ports _
  | ok u =>
    dsimp only
    rcases hpair : join host.shared.bridge with ⟨bridge, result⟩
    rw [hpair] at hjoined
    cases result <;> exact hjoined

/-- Whatever the host does, its bridge goes through operations of the bridge. -/
theorem step_reaches (host : RuntimeHost World) (op : HostOp) :
    Reaches ports host.shared.bridge (host.step ports op).1.shared.bridge := by
  cases op with
  | registerProvider descriptor =>
    exact register_reaches ports host _ _ fun bridge =>
      reaches_step ports bridge (.registerProvider descriptor)
  | registerChannel descriptor scope =>
    exact register_reaches ports host _ _ fun bridge =>
      reaches_step ports bridge (.registerChannel descriptor)
  | start callbacks =>
    show Reaches ports _ (host.start ports callbacks).1.shared.bridge
    unfold start
    cases host.state with
    | started => exact reaches_refl ports _
    | stopFailed => exact reaches_refl ports _
    | stopped => exact startAdapters_reaches ports callbacks host.adapters host.shared
  | stop callbacks =>
    show Reaches ports _ (host.stop ports callbacks).1.shared.bridge
    unfold stop
    split
    · exact reaches_refl ports _
    · have hrevoked : host.revokeAllIngress.bridge = host.shared.bridge :=
        (revokeAll_others host.adapters host.shared).1
      have hcleared := clear_reaches ports
        (host.adapters.filterMap fun adapter => adapter.source.sourceGenerationChannel)
        host.revokeAllIngress.bridge
      rw [hrevoked] at hcleared
      dsimp only
      split
      · refine reaches_trans ports hcleared ?_
        rw [← hrevoked]
        exact stopAdapters_reaches ports callbacks host.adapters _
      · refine reaches_trans ports hcleared ?_
        rw [← hrevoked]
        exact stopAdapters_reaches ports callbacks host.adapters _
  | subscribe channelId sessionId =>
    exact reaches_step ports host.shared.bridge (.subscribe channelId sessionId)
  | unsubscribe channelId sessionId =>
    exact reaches_step ports host.shared.bridge (.unsubscribe channelId sessionId)
  | ingress entry => exact ingress_reaches ports host.shared entry

theorem run_reaches (config : SessionAggregateConfig) (world : World) (ops : List HostOp) :
    Reaches ports (Bridge.withSessionConfig config world)
      (run ports config world ops).shared.bridge :=
  Trace.final_invariant (step ports)
    (fun host => Reaches ports (Bridge.withSessionConfig config world) host.shared.bridge)
    (fun host op h => reaches_trans ports h (step_reaches ports host op)) _ ops
    (reaches_refl ports _)

/-- The endpoint is registered with the bridge. -/
def Knows (bridge : Bridge World) : RuntimeEndpointId → Prop
  | .provider providerId => providerId ∈ bridge.providers
  | .channel channelId => channelId ∈ bridge.channels

/-- What the state of the host says about those of its adapters. -/
def InPhase (state : RuntimeHostState) (adapters : List RegisteredAdapter) : Prop :=
  match state with
  | .stopped => ∀ adapter ∈ adapters, adapter.state = .stopped
  | .started => ∀ adapter ∈ adapters, adapter.state = .running ∨ adapter.state = .startFailed
  | .stopFailed =>
    (∀ adapter ∈ adapters, adapter.state = .stopped ∨ adapter.state = .stopFailed) ∧
      ∃ adapter ∈ adapters, adapter.state = .stopFailed

/-- The permits against the adapters. Every handle belongs to an adapter, which has
the last of its handles; the active permits are those of the adapters that run. -/
structure Guarded (adapters : List RegisteredAdapter) (permits : List IngressPermit) : Prop where
  owned : ∀ (handle : Nat) (permit : IngressPermit), permits[handle]? = some permit →
    ∃ adapter ∈ adapters, adapter.endpoint = permit.endpoint ∧
      ∃ latest, adapter.permit = some latest ∧ handle ≤ latest
  latest : ∀ adapter ∈ adapters, ∀ handle, adapter.permit = some handle →
    ∃ permit, permits[handle]? = some permit ∧ permit.endpoint = adapter.endpoint ∧
      permit.active = decide (adapter.state = .running)
  running : ∀ adapter ∈ adapters, adapter.state = .running → adapter.permit.isSome
  active : ∀ (handle : Nat) (permit : IngressPermit), permits[handle]? = some permit →
    permit.active = true → ∃ adapter ∈ adapters, adapter.permit = some handle

structure Sound (host : RuntimeHost World) : Prop where
  endpoints : (host.adapters.map RegisteredAdapter.endpoint).Nodup
  known : ∀ adapter ∈ host.adapters, Knows host.shared.bridge adapter.endpoint
  phase : InPhase host.state host.adapters
  guarded : Guarded host.adapters host.shared.permits

theorem knows_reaches {before after : Bridge World} (h : Reaches ports before after)
    {endpoint : RuntimeEndpointId} (hknows : Knows before endpoint) : Knows after endpoint := by
  obtain ⟨ops, rfl⟩ := h
  have hkeeps := Bridge.final_keeps ports before ops
  cases endpoint with
  | provider providerId =>
    obtain ⟨descriptor, hfound⟩ := Option.isSome_iff_exists.mp
      (ExtTreeMap.mem_iff_isSome_getElem?.mp hknows)
    exact Bridge.mem_of_getElem? (hkeeps.providers providerId descriptor hfound)
  | channel channelId =>
    obtain ⟨descriptor, hfound⟩ := Option.isSome_iff_exists.mp
      (ExtTreeMap.mem_iff_isSome_getElem?.mp hknows)
    exact Bridge.mem_of_getElem? (hkeeps.channels channelId descriptor hfound)

/-- A step that leaves adapters, permits and the state of the host alone. -/
theorem sound_bridge {host next : RuntimeHost World} (h : Sound host)
    (hbridge : Reaches ports host.shared.bridge next.shared.bridge) (hstate : next.state = host.state)
    (hadapters : next.adapters = host.adapters)
    (hpermits : next.shared.permits = host.shared.permits) : Sound next where
  endpoints := hadapters ▸ h.endpoints
  known adapter hmem := by
    rw [hadapters] at hmem
    exact knows_reaches ports hbridge (h.known adapter hmem)
  phase := by
    rw [hstate, hadapters]
    exact h.phase
  guarded := by
    rw [hadapters, hpermits]
    exact h.guarded

theorem sound_withSessionConfig (config : SessionAggregateConfig) (world : World) :
    Sound (withSessionConfig config world) where
  endpoints := List.nodup_nil
  known adapter h := by cases h
  phase adapter h := by cases h
  guarded := by
    constructor
    · intro handle permit h
      simp [withSessionConfig] at h
    · intro adapter h
      cases h
    · intro adapter h
      cases h
    · intro handle permit h
      simp [withSessionConfig] at h

theorem sound_registered {host : RuntimeHost World} (h : Sound host) (hstate : host.state = .stopped)
    {source : RegisteredSource} {bridge : Bridge World}
    (hbridge : Reaches ports host.shared.bridge bridge)
    (hnew : ¬ Knows host.shared.bridge source.endpoint) (hknown : Knows bridge source.endpoint) :
    Sound { host with
      shared := { host.shared with bridge := bridge }
      adapters := host.adapters ++ [RegisteredAdapter.new source] } where
  endpoints := by
    rw [List.map_append]
    apply List.nodup_append.mpr
    refine ⟨h.endpoints, List.nodup_singleton _, ?_⟩
    rintro a ha b hb rfl
    obtain ⟨adapter, hmem, rfl⟩ := List.mem_map.mp ha
    rw [List.map_singleton, List.mem_singleton] at hb
    have hknows := h.known adapter hmem
    rw [hb] at hknows
    exact hnew hknows
  known adapter hmem := by
    rcases List.mem_append.mp hmem with hmem | hmem
    · exact knows_reaches ports hbridge (h.known adapter hmem)
    · cases List.mem_singleton.mp hmem
      exact hknown
  phase := by
    have hphase := h.phase
    rw [hstate] at hphase ⊢
    intro adapter hmem
    rcases List.mem_append.mp hmem with hmem | hmem
    · exact hphase adapter hmem
    · cases List.mem_singleton.mp hmem
      rfl
  guarded := by
    constructor
    · intro handle permit hpermit
      obtain ⟨adapter, hmem, howned⟩ := h.guarded.owned handle permit hpermit
      exact ⟨adapter, List.mem_append_left _ hmem, howned⟩
    · intro adapter hmem handle hhandle
      rcases List.mem_append.mp hmem with hmem | hmem
      · exact h.guarded.latest adapter hmem handle hhandle
      · cases List.mem_singleton.mp hmem
        cases hhandle
    · intro adapter hmem hrunning
      rcases List.mem_append.mp hmem with hmem | hmem
      · exact h.guarded.running adapter hmem hrunning
      · cases List.mem_singleton.mp hmem
        cases hrunning
    · intro handle permit hpermit hactive
      obtain ⟨adapter, hmem, hhandle⟩ := h.guarded.active handle permit hpermit hactive
      exact ⟨adapter, List.mem_append_left _ hmem, hhandle⟩

theorem sound_register {host : RuntimeHost World} (h : Sound host) {source : RegisteredSource}
    {join : Bridge World → Bridge World × Except EndpointRegistrationError Unit}
    (hreaches : ∀ bridge, Reaches ports bridge (join bridge).1)
    (hjoin : ∀ bridge, (join bridge).2 = .ok () →
      ¬ Knows bridge source.endpoint ∧ Knows (join bridge).1 source.endpoint) :
    Sound (host.register source join).1 := by
  have hbridge := hreaches host.shared.bridge
  have hjoined := hjoin host.shared.bridge
  unfold register ensureRegistrationAllowed
  split
  · exact h
  · next hallowed =>
    have hstate : host.state = .stopped := by
      by_contra hnot
      rw [if_neg hnot] at hallowed
      cases hallowed
    rcases hpair : join host.shared.bridge with ⟨bridge, result⟩
    rw [hpair] at hbridge hjoined
    cases result with
    | error error => exact sound_bridge ports h hbridge rfl rfl rfl
    | ok u =>
      obtain ⟨hnew, hknown⟩ := hjoined rfl
      exact sound_registered ports h hstate hbridge hnew hknown

theorem registerProvider_knows (descriptor : ProviderDescriptor) (bridge : Bridge World)
    (h : (bridge.registerProvider descriptor).2 = .ok ()) :
    ¬ Knows bridge (.provider descriptor.id) ∧
      Knows (bridge.registerProvider descriptor).1 (.provider descriptor.id) := by
  unfold Bridge.registerProvider at h ⊢
  split at h
  · cases h
  · next hnew =>
    rw [if_neg hnew]
    constructor
    · intro hknows
      exact hnew (ExtTreeMap.contains_iff_mem.mpr hknows)
    · exact ExtTreeMap.mem_insert_self

theorem registerChannel_knows (descriptor : ChannelDescriptor) (bridge : Bridge World)
    (h : (bridge.registerChannel descriptor).2 = .ok ()) :
    ¬ Knows bridge (.channel descriptor.id) ∧
      Knows (bridge.registerChannel descriptor).1 (.channel descriptor.id) := by
  unfold Bridge.registerChannel at h ⊢
  split at h
  · cases h
  · next hnew =>
    rw [if_neg hnew]
    constructor
    · intro hknows
      exact hnew (ExtTreeMap.contains_iff_mem.mpr hknows)
    · exact ExtTreeMap.mem_insert_self

theorem mem_startedFrom {callbacks : RuntimeEndpointId → Callback} {handle : Nat}
    {adapters : List RegisteredAdapter} {adapter : RegisteredAdapter}
    (h : adapter ∈ startedFrom callbacks handle adapters) :
    ∃ (i : Nat) (before : RegisteredAdapter), adapters[i]? = some before ∧
      adapter = before.started (callbacks before.endpoint) (handle + i) := by
  obtain ⟨i, hi⟩ := List.mem_iff_getElem?.mp h
  rw [getElem?_startedFrom] at hi
  obtain ⟨before, hbefore, heq⟩ := Option.map_eq_some_iff.mp hi
  exact ⟨i, before, hbefore, heq.symm⟩

theorem started_mem {callbacks : RuntimeEndpointId → Callback} {handle i : Nat}
    {adapters : List RegisteredAdapter} {before : RegisteredAdapter}
    (h : adapters[i]? = some before) :
    before.started (callbacks before.endpoint) (handle + i) ∈
      startedFrom callbacks handle adapters := by
  apply List.mem_of_getElem? (i := i)
  rw [getElem?_startedFrom, h]
  rfl

theorem getElem?_newPermits {callbacks : RuntimeEndpointId → Callback}
    {adapters : List RegisteredAdapter} {i : Nat} {before : RegisteredAdapter}
    (permits : List IngressPermit) (h : adapters[i]? = some before) :
    (permits ++ newPermits callbacks adapters)[permits.length + i]? =
      some ⟨before.endpoint, (callbacks before.endpoint).result.isOk⟩ := by
  rw [List.getElem?_append_right (Nat.le_add_right _ _), Nat.add_sub_cancel_left, newPermits,
    List.getElem?_map, h]
  rfl

/-- A handle is an old one or that of one of the adapters. -/
theorem handle_cases {callbacks : RuntimeEndpointId → Callback}
    {adapters : List RegisteredAdapter} {permits : List IngressPermit} {handle : Nat}
    {permit : IngressPermit}
    (h : (permits ++ newPermits callbacks adapters)[handle]? = some permit) :
    permits[handle]? = some permit ∨
    ∃ (i : Nat) (before : RegisteredAdapter), handle = permits.length + i ∧ adapters[i]? = some before ∧
      permit = ⟨before.endpoint, (callbacks before.endpoint).result.isOk⟩ := by
  by_cases hold : handle < permits.length
  · rw [List.getElem?_append_left hold] at h
    exact .inl h
  · have hle : permits.length ≤ handle := Nat.le_of_not_lt hold
    rw [List.getElem?_append_right hle, newPermits, List.getElem?_map] at h
    obtain ⟨before, hbefore, heq⟩ := Option.map_eq_some_iff.mp h
    exact .inr ⟨handle - permits.length, before, by omega, hbefore, heq.symm⟩

/-- A start of adapters that are all stopped. -/
theorem guarded_started {adapters : List RegisteredAdapter} {permits : List IngressPermit}
    (h : Guarded adapters permits) (hstopped : ∀ adapter ∈ adapters, adapter.state = .stopped)
    (callbacks : RuntimeEndpointId → Callback) :
    Guarded (startedFrom callbacks permits.length adapters)
      (permits ++ newPermits callbacks adapters) where
  owned handle permit hpermit := by
    rcases handle_cases hpermit with hold | ⟨i, before, rfl, hbefore, rfl⟩
    · obtain ⟨adapter, hmem, hendpoint, -⟩ := h.owned handle permit hold
      obtain ⟨i, hi⟩ := List.mem_iff_getElem?.mp hmem
      have hlt : handle < permits.length := (List.getElem?_eq_some_iff.mp hold).1
      exact ⟨_, started_mem hi, hendpoint, _, rfl, by omega⟩
    · exact ⟨_, started_mem hbefore, rfl, _, rfl, Nat.le_refl _⟩
  latest adapter hmem handle hhandle := by
    obtain ⟨i, before, hbefore, rfl⟩ := mem_startedFrom hmem
    cases hhandle
    refine ⟨_, getElem?_newPermits permits hbefore, rfl, ?_⟩
    unfold RegisteredAdapter.started
    cases (callbacks before.endpoint).result.isOk <;> rfl
  running adapter hmem hrunning := by
    obtain ⟨i, before, hbefore, rfl⟩ := mem_startedFrom hmem
    rfl
  active handle permit hpermit hactive := by
    rcases handle_cases hpermit with hold | ⟨i, before, rfl, hbefore, rfl⟩
    · -- a permit of an earlier start is that of an adapter that runs
      obtain ⟨adapter, hmem, hhandle⟩ := h.active handle permit hold hactive
      obtain ⟨found, hfound, -, hrunning⟩ := h.latest adapter hmem handle hhandle
      rw [hold] at hfound
      cases hfound
      rw [hactive, hstopped adapter hmem] at hrunning
      cases hrunning
    · exact ⟨_, started_mem hbefore, rfl⟩

theorem sound_start {host : RuntimeHost World} (h : Sound host)
    (callbacks : RuntimeEndpointId → Callback) : Sound (host.start ports callbacks).1 := by
  unfold start
  cases hstate : host.state with
  | started => exact h
  | stopFailed => exact h
  | stopped =>
    have hphase := h.phase
    rw [hstate] at hphase
    have hbridge := startAdapters_reaches ports callbacks host.adapters host.shared
    obtain ⟨hadapters, hpermits, -⟩ :=
      startAdapters_eq ports callbacks host.adapters host.shared
    constructor
    · show (List.map _ (startAdapters ports callbacks host.adapters host.shared).1).Nodup
      rw [hadapters, startedFrom_endpoints]
      exact h.endpoints
    · intro adapter hmem
      replace hmem : adapter ∈ (startAdapters ports callbacks host.adapters host.shared).1 := hmem
      rw [hadapters] at hmem
      obtain ⟨i, before, hbefore, rfl⟩ := mem_startedFrom hmem
      exact knows_reaches ports hbridge (h.known before (List.mem_of_getElem? hbefore))
    · intro adapter hmem
      replace hmem : adapter ∈ (startAdapters ports callbacks host.adapters host.shared).1 := hmem
      rw [hadapters] at hmem
      obtain ⟨i, before, -, rfl⟩ := mem_startedFrom hmem
      unfold RegisteredAdapter.started
      cases (callbacks before.endpoint).result.isOk
      · exact .inr rfl
      · exact .inl rfl
    · show Guarded (startAdapters ports callbacks host.adapters host.shared).1
        (startAdapters ports callbacks host.adapters host.shared).2.1.permits
      rw [hadapters, hpermits]
      exact guarded_started h.guarded hphase callbacks

/-- Once every adapter's permit is revoked, no permit is active. -/
theorem revokeAll_inactive {host : RuntimeHost World} (h : Sound host) {handle : Nat}
    {permit : IngressPermit} (hpermit : host.revokeAllIngress.permits[handle]? = some permit) :
    permit.active = false := by
  unfold revokeAllIngress at hpermit
  rw [revokeAll_permits] at hpermit
  obtain ⟨before, hbefore, rfl⟩ := Option.map_eq_some_iff.mp hpermit
  split
  · rfl
  · next hnone =>
    cases hactive : before.active with
    | false => rfl
    | true =>
      obtain ⟨adapter, hmem, hhandle⟩ := h.guarded.active handle before hbefore hactive
      exact absurd (List.any_eq_true.mpr ⟨adapter, hmem, by simpa using hhandle⟩) hnone

theorem revokeAll_revoked {host : RuntimeHost World} (h : Sound host)
    (adapter : RegisteredAdapter) : adapter.Revoked host.revokeAllIngress.permits :=
  fun _ _ _ hpermit => revokeAll_inactive h hpermit

/-- The shared state in which a stop runs the callbacks. -/
def cleared (host : RuntimeHost World) : SharedBridge World :=
  { host.revokeAllIngress with
    bridge := host.clearSourceGenerationSubscriptions host.revokeAllIngress.bridge }

/-- What a stop of a host that is not stopped leaves. -/
theorem stop_eq {host : RuntimeHost World} (h : Sound host) (hstate : host.state ≠ .stopped)
    (callbacks : RuntimeEndpointId → Callback) :
    (host.stop ports callbacks).1.adapters =
      host.adapters.map (fun adapter => adapter.stopped (callbacks adapter.endpoint)) ∧
    (host.stop ports callbacks).1.shared =
      (stopAdapters ports callbacks host.adapters host.cleared).2.1 ∧
    (host.stop ports callbacks).1.shared.permits = host.revokeAllIngress.permits ∧
    (host.stop ports callbacks).1.shared.calls =
      host.shared.calls ++ (toStop host.adapters).map (fun adapter => (adapter.endpoint, .stop)) ∧
    (host.stop ports callbacks).1.state =
      if host.adapters.any fun adapter =>
        decide (adapter.state ≠ .stopped) && !(callbacks adapter.endpoint).result.isOk
      then .stopFailed else .stopped := by
  have hrevoked : ∀ adapter ∈ host.adapters, adapter.Revoked host.cleared.permits :=
    fun adapter _ => revokeAll_revoked h adapter
  obtain ⟨hadapters, hpermits, hcalls⟩ := stopAdapters_eq ports callbacks hrevoked
  have hfails := stopAdapters_fails ports callbacks host.adapters host.cleared
  have hrecorded : host.cleared.calls = host.shared.calls :=
    (revokeAll_others host.adapters host.shared).2
  rw [hrecorded] at hcalls
  have hstop : (host.stop ports callbacks).1 =
      ⟨if (stopAdapters ports callbacks host.adapters host.cleared).2.2.any fun result =>
          !result.isSuccess then .stopFailed else .stopped,
        (stopAdapters ports callbacks host.adapters host.cleared).1,
        (stopAdapters ports callbacks host.adapters host.cleared).2.1⟩ := by
    unfold stop
    rw [if_neg hstate]
    show Prod.fst (if (stopAdapters ports callbacks host.adapters host.cleared).2.2.any _ then _
      else _) = _
    split
    · rfl
    · rfl
  rw [hstop]
  exact ⟨hadapters, rfl, hpermits, hcalls, by rw [hfails]⟩

theorem stopped_state (adapter : RegisteredAdapter) (callback : Callback) :
    (adapter.stopped callback).state =
      if decide (adapter.state ≠ .stopped) && !callback.result.isOk then .stopFailed
      else .stopped := by
  unfold RegisteredAdapter.stopped
  by_cases hstate : adapter.state = .stopped
  · simp [hstate]
  · rw [if_neg hstate]
    cases hok : callback.result.isOk with
    | true => simp
    | false => simp [hstate]

theorem sound_stop {host : RuntimeHost World} (h : Sound host)
    (callbacks : RuntimeEndpointId → Callback) : Sound (host.stop ports callbacks).1 := by
  by_cases hstate : host.state = .stopped
  · unfold stop
    rw [if_pos hstate]
    exact h
  · obtain ⟨hadapters, -, hpermits, -, hnext⟩ := stop_eq ports h hstate callbacks
    constructor
    · rw [hadapters, List.map_map]
      have hsame : (RegisteredAdapter.endpoint ∘ fun adapter =>
          RegisteredAdapter.stopped adapter (callbacks adapter.endpoint)) =
          RegisteredAdapter.endpoint := by
        funext adapter
        exact RegisteredAdapter.stopped_endpoint adapter _
      rw [hsame]
      exact h.endpoints
    · intro adapter hmem
      rw [hadapters] at hmem
      obtain ⟨before, hbefore, rfl⟩ := List.mem_map.mp hmem
      rw [RegisteredAdapter.stopped_endpoint]
      exact knows_reaches ports (step_reaches ports host (.stop callbacks)) (h.known before hbefore)
    · rw [hadapters, hnext]
      split
      · next hfails =>
        obtain ⟨failed, hmem, hfailed⟩ := List.any_eq_true.mp hfails
        refine ⟨?_, _, List.mem_map_of_mem hmem, ?_⟩
        · intro adapter hadapter
          obtain ⟨before, -, rfl⟩ := List.mem_map.mp hadapter
          rw [stopped_state]
          split
          · exact .inr rfl
          · exact .inl rfl
        · rw [stopped_state, if_pos hfailed]
      · next hfine =>
        intro adapter hadapter
        obtain ⟨before, hbefore, rfl⟩ := List.mem_map.mp hadapter
        rw [stopped_state]
        split
        · next hfailed => exact absurd (List.any_eq_true.mpr ⟨before, hbefore, hfailed⟩) hfine
        · rfl
    · rw [hadapters, hpermits]
      have hnotRunning : ∀ before ∈ host.adapters,
          (before.stopped (callbacks before.endpoint)).state ≠ .running := by
        intro before _
        rw [stopped_state]
        split <;> simp
      constructor
      · intro handle permit hpermit
        unfold revokeAllIngress at hpermit
        rw [revokeAll_permits] at hpermit
        obtain ⟨old, hold, rfl⟩ := Option.map_eq_some_iff.mp hpermit
        obtain ⟨before, hbefore, hendpoint, latest, hlatest, hle⟩ :=
          h.guarded.owned handle old hold
        refine ⟨_, List.mem_map_of_mem hbefore, ?_, latest, ?_, hle⟩
        · rw [RegisteredAdapter.stopped_endpoint, hendpoint]
          split <;> rfl
        · rw [RegisteredAdapter.stopped_permit]
          exact hlatest
      · intro adapter hadapter handle hhandle
        obtain ⟨before, hbefore, rfl⟩ := List.mem_map.mp hadapter
        rw [RegisteredAdapter.stopped_permit] at hhandle
        obtain ⟨old, hold, hendpoint, -⟩ := h.guarded.latest before hbefore handle hhandle
        have hany : (host.adapters.any fun adapter => adapter.permit = some handle) = true :=
          List.any_eq_true.mpr ⟨before, hbefore, by simpa using hhandle⟩
        refine ⟨{ old with active := false }, ?_, ?_, ?_⟩
        · unfold revokeAllIngress
          rw [revokeAll_permits, hold, Option.map_some, if_pos hany]
        · rw [RegisteredAdapter.stopped_endpoint]
          exact hendpoint
        · exact (decide_eq_false (hnotRunning before hbefore)).symm
      · intro adapter hadapter hrunning
        obtain ⟨before, hbefore, rfl⟩ := List.mem_map.mp hadapter
        exact absurd hrunning (hnotRunning before hbefore)
      · intro handle permit hpermit hactive
        rw [revokeAll_inactive h hpermit] at hactive
        cases hactive

/-- Every call keeps the invariant. -/
theorem sound_step {host : RuntimeHost World} (h : Sound host) (op : HostOp) :
    Sound (host.step ports op).1 := by
  have hbridge := step_reaches ports host op
  cases op with
  | registerProvider descriptor =>
    exact sound_register ports h (fun bridge => reaches_step ports bridge (.registerProvider descriptor))
      (registerProvider_knows descriptor)
  | registerChannel descriptor scope =>
    exact sound_register ports h (fun bridge => reaches_step ports bridge (.registerChannel descriptor))
      (registerChannel_knows descriptor)
  | start callbacks => exact sound_start ports h callbacks
  | stop callbacks => exact sound_stop ports h callbacks
  | subscribe channelId sessionId => exact sound_bridge ports h hbridge rfl rfl rfl
  | unsubscribe channelId sessionId => exact sound_bridge ports h hbridge rfl rfl rfl
  | ingress entry =>
    exact sound_bridge ports h hbridge rfl rfl (SharedBridge.ingress_permits ports host.shared entry)

theorem run_sound (config : SessionAggregateConfig) (world : World) (ops : List HostOp) :
    Sound (run ports config world ops) :=
  Trace.final_invariant (step ports) Sound (fun _ op h => sound_step ports h op) _ ops
    (sound_withSessionConfig config world)

/-- Later permits are the same or more, and none became active again. -/
def Fades (before after : List IngressPermit) : Prop :=
  ∀ (handle : Nat) (permit : IngressPermit), before[handle]? = some permit →
    ∃ later, after[handle]? = some later ∧ later.endpoint = permit.endpoint ∧
      (later.active = true → permit.active = true)

theorem fades_refl (permits : List IngressPermit) : Fades permits permits :=
  fun _ permit h => ⟨permit, h, rfl, id⟩

theorem fades_trans {a b c : List IngressPermit} (hab : Fades a b) (hbc : Fades b c) :
    Fades a c := by
  intro handle permit h
  obtain ⟨middle, hmiddle, hsame, hactive⟩ := hab handle permit h
  obtain ⟨later, hlater, hsame', hactive'⟩ := hbc handle middle hmiddle
  exact ⟨later, hlater, hsame'.trans hsame, fun hl => hactive (hactive' hl)⟩

theorem register_permits (host : RuntimeHost World) (source : RegisteredSource)
    (join : Bridge World → Bridge World × Except EndpointRegistrationError Unit) :
    (host.register source join).1.shared.permits = host.shared.permits := by
  unfold register
  cases host.ensureRegistrationAllowed with
  | error error => rfl
  | ok u =>
    dsimp only
    rcases join host.shared.bridge with ⟨bridge, result⟩
    cases result <;> rfl

/-- The permits after a start of the host. -/
theorem start_permits (host : RuntimeHost World) (callbacks : RuntimeEndpointId → Callback) :
    (host.start ports callbacks).1.shared.permits =
      if host.state = .stopped then host.shared.permits ++ newPermits callbacks host.adapters
      else host.shared.permits := by
  unfold start
  cases host.state with
  | started => rfl
  | stopFailed => rfl
  | stopped => exact (startAdapters_eq ports callbacks host.adapters host.shared).2.1

theorem step_fades {host : RuntimeHost World} (h : Sound host) (op : HostOp) :
    Fades host.shared.permits (host.step ports op).1.shared.permits := by
  have hsame : ∀ {permits : List IngressPermit}, permits = host.shared.permits →
      Fades host.shared.permits permits := by
    rintro permits rfl
    exact fades_refl _
  cases op with
  | registerProvider descriptor =>
    exact hsame (register_permits host (.provider descriptor.id) fun bridge =>
      bridge.registerProvider descriptor)
  | registerChannel descriptor scope =>
    exact hsame (register_permits host (.channel descriptor.id scope) fun bridge =>
      bridge.registerChannel descriptor)
  | start callbacks =>
    have hpermits := start_permits ports host callbacks
    show Fades _ (host.start ports callbacks).1.shared.permits
    rw [hpermits]
    split
    · intro handle permit hpermit
      have hlt : handle < host.shared.permits.length := (List.getElem?_eq_some_iff.mp hpermit).1
      exact ⟨permit, (List.getElem?_append_left hlt).trans hpermit, rfl, id⟩
    · exact fades_refl _
  | stop callbacks =>
    show Fades _ (host.stop ports callbacks).1.shared.permits
    by_cases hstate : host.state = .stopped
    · unfold stop
      rw [if_pos hstate]
      exact fades_refl _
    · obtain ⟨-, -, hpermits, -⟩ := stop_eq ports h hstate callbacks
      rw [hpermits]
      intro handle permit hpermit
      unfold revokeAllIngress
      rw [revokeAll_permits, hpermit, Option.map_some]
      split
      · exact ⟨_, rfl, rfl, fun hactive => by cases hactive⟩
      · exact ⟨permit, rfl, rfl, id⟩
  | subscribe channelId sessionId => exact hsame rfl
  | unsubscribe channelId sessionId => exact hsame rfl
  | ingress entry => exact hsame (SharedBridge.ingress_permits ports host.shared entry)

theorem final_fades {host : RuntimeHost World} (h : Sound host) (ops : List HostOp) :
    Fades host.shared.permits (Trace.final (step ports) host ops).shared.permits := by
  have hrun := Trace.final_invariant (step ports)
    (fun next => Sound next ∧ Fades host.shared.permits next.shared.permits)
    (fun next op hnext =>
      ⟨sound_step ports hnext.1 op, fades_trans hnext.2 (step_fades ports hnext.1 op)⟩)
    host ops ⟨h, fades_refl _⟩
  exact hrun.2

/-- The handle is the last one given to the source of its endpoint, and that source runs. -/
def LatestOfRunning (host : RuntimeHost World) (handle : Nat) (endpoint : RuntimeEndpointId) :
    Prop :=
  (∃ adapter ∈ host.adapters, adapter.endpoint = endpoint ∧ adapter.state = .running) ∧
  ∀ (later : Nat) (permit : IngressPermit), host.shared.permits[later]? = some permit →
    permit.endpoint = endpoint → later ≤ handle

theorem adapter_unique {host : RuntimeHost World} (h : Sound host)
    {a b : RegisteredAdapter} (ha : a ∈ host.adapters) (hb : b ∈ host.adapters)
    (hsame : a.endpoint = b.endpoint) : a = b :=
  List.inj_on_of_nodup_map h.endpoints ha hb hsame

theorem active_iff {host : RuntimeHost World} (h : Sound host) {handle : Nat}
    {permit : IngressPermit} (hpermit : host.shared.permits[handle]? = some permit) :
    permit.active = true ↔ LatestOfRunning host handle permit.endpoint := by
  constructor
  · intro hactive
    obtain ⟨adapter, hmem, hhandle⟩ := h.guarded.active handle permit hpermit hactive
    obtain ⟨found, hfound, hendpoint, hrunning⟩ := h.guarded.latest adapter hmem handle hhandle
    rw [hpermit] at hfound
    cases hfound
    rw [hactive] at hrunning
    refine ⟨⟨adapter, hmem, hendpoint.symm, of_decide_eq_true hrunning.symm⟩, ?_⟩
    intro later other hother hsame
    obtain ⟨owner, howner, hown, latest, hlatest, hle⟩ := h.guarded.owned later other hother
    have heq : owner = adapter := adapter_unique h howner hmem (by rw [hown, hsame, hendpoint])
    rw [heq, hhandle] at hlatest
    cases hlatest
    exact hle
  · rintro ⟨⟨adapter, hmem, hendpoint, hrunning⟩, hlast⟩
    obtain ⟨current, hcurrent⟩ := Option.isSome_iff_exists.mp
      (h.guarded.running adapter hmem hrunning)
    obtain ⟨found, hfound, hsame, hactive⟩ := h.guarded.latest adapter hmem current hcurrent
    obtain ⟨owner, howner, hown, latest, hlatest, hle⟩ := h.guarded.owned handle permit hpermit
    have heq : owner = adapter := adapter_unique h howner hmem (by rw [hown, hendpoint])
    rw [heq, hcurrent] at hlatest
    cases hlatest
    have hback := hlast current found hfound (hsame.trans hendpoint)
    have hhandle : current = handle := Nat.le_antisymm hback hle
    rw [hhandle, hpermit] at hfound
    cases hfound
    rw [hactive, hrunning]
    rfl

/-- A call that was made through a handle has a permit. -/
theorem ingress_permit {shared : SharedBridge World} {entry : Ingress} {result : IngressResult}
    (h : (shared.ingress ports entry).2 = some result) :
    ∃ permit, shared.permits[entry.handle]? = some permit := by
  cases hpermit : shared.permits[entry.handle]? with
  | some permit => exact ⟨permit, rfl⟩
  | none =>
    unfold SharedBridge.ingress at h
    rw [hpermit] at h
    cases h

/-- A refused handle stays refused. -/
theorem inactive_later {host : RuntimeHost World} (h : Sound host) {entry again : Ingress}
    {result : IngressResult} (hresult : (host.shared.ingress ports entry).2 = some result)
    (hinactive : result.isInactive = true) (hhandle : again.handle = entry.handle)
    (later : List HostOp) {next : IngressResult}
    (hnext : ((Trace.final (step ports) host later).shared.ingress ports again).2 = some next) :
    next.isInactive = true := by
  obtain ⟨permit, hpermit⟩ := ingress_permit ports hresult
  rw [SharedBridge.ingress_inactive ports hpermit hresult] at hinactive
  obtain ⟨after, hafter, -, hfades⟩ := final_fades ports h later entry.handle permit hpermit
  rw [← hhandle] at hafter
  rw [SharedBridge.ingress_inactive ports hafter hnext]
  cases hactive : after.active with
  | false => rfl
  | true =>
    rw [hfades hactive] at hinactive
    cases hinactive

/-- A handle given to a callback that fails is refused once the start returns. -/
theorem start_failed_inactive (host : RuntimeHost World) (callbacks : RuntimeEndpointId → Callback)
    {entry : Ingress} {permit : IngressPermit} {error : BoxAdapterError} {result : IngressResult}
    (hpermit : (host.start ports callbacks).1.shared.permits[entry.handle]? = some permit)
    (hnew : host.shared.permits.length ≤ entry.handle)
    (hfailed : (callbacks permit.endpoint).result = .error error)
    (hresult : ((host.start ports callbacks).1.shared.ingress ports entry).2 = some result) :
    result.isInactive = true := by
  rw [SharedBridge.ingress_inactive ports hpermit hresult]
  have hnotOld : host.shared.permits[entry.handle]? ≠ some permit := by
    rw [List.getElem?_eq_none hnew]
    simp
  rw [start_permits] at hpermit
  split at hpermit
  · rcases handle_cases hpermit with hold | ⟨i, before, -, -, rfl⟩
    · exact absurd hold hnotOld
    · rw [show (callbacks before.endpoint).result = _ from hfailed]
      rfl
  · exact absurd hpermit hnotOld

/-- A host that is stopped has only stopped adapters; with an adapter the converse
holds too. -/
theorem stopped_iff {host : RuntimeHost World} (h : Sound host) (hsome : host.adapters ≠ []) :
    host.state = .stopped ↔ ∀ adapter ∈ host.adapters, adapter.state = .stopped := by
  have hphase := h.phase
  constructor
  · intro hstate
    rw [hstate] at hphase
    exact hphase
  · intro hall
    obtain ⟨adapter, hmem⟩ := List.exists_mem_of_ne_nil host.adapters hsome
    cases hstate : host.state with
    | stopped => rfl
    | started =>
      rw [hstate] at hphase
      rcases hphase adapter hmem with hrunning | hfailed
      · rw [hall adapter hmem] at hrunning
        cases hrunning
      · rw [hall adapter hmem] at hfailed
        cases hfailed
    | stopFailed =>
      rw [hstate] at hphase
      obtain ⟨failed, hfailed, hstopFailed⟩ := hphase.2
      rw [hall failed hfailed] at hstopFailed
      cases hstopFailed

/-- After any calls of the host, with callbacks that do and return anything: a handle
is let in exactly if it is the last one of a source that runs, once refused it is
refused for ever, those of failed starts are refused when the start returns, a host
with adapters is stopped exactly if all of them are, and the stop that cleans up calls
the sources that are not stopped, last first. -/
theorem run_permits (config : SessionAggregateConfig) (world : World) (ops : List HostOp) :
    let host := run ports config world ops
    (∀ entry permit result, host.shared.permits[entry.handle]? = some permit →
      (host.ingress ports entry).2 = some result →
      (result.isInactive = false ↔ LatestOfRunning host entry.handle permit.endpoint)) ∧
    (∀ entry again result next later, (host.ingress ports entry).2 = some result →
      result.isInactive = true → again.handle = entry.handle →
      ((run ports config world (ops ++ later)).ingress ports again).2 = some next →
      next.isInactive = true) ∧
    (∀ callbacks entry permit error result,
      (host.start ports callbacks).1.shared.permits[entry.handle]? = some permit →
      host.shared.permits.length ≤ entry.handle →
      (callbacks permit.endpoint).result = .error error →
      ((host.start ports callbacks).1.ingress ports entry).2 = some result →
      result.isInactive = true) ∧
    (host.state = .stopped → ∀ adapter ∈ host.adapters, adapter.state = .stopped) ∧
    (host.adapters ≠ [] →
      (host.state = .stopped ↔ ∀ adapter ∈ host.adapters, adapter.state = .stopped)) ∧
    (host.state = .stopFailed → ∀ callbacks,
      (host.stop ports callbacks).1.shared.calls =
        host.shared.calls ++ (host.adapters.filter fun adapter =>
          adapter.state ≠ .stopped).reverse.map fun adapter => (adapter.endpoint, .stop)) := by
  intro host
  have hsound : Sound host := run_sound ports config world ops
  refine ⟨?_, ?_, ?_, ?_, stopped_iff hsound, ?_⟩
  · intro entry permit result hpermit hresult
    rw [SharedBridge.ingress_inactive ports hpermit hresult, Bool.not_eq_false']
    exact active_iff hsound hpermit
  · intro entry again result next later hresult hinactive hhandle hnext
    unfold run at hnext
    rw [Trace.final_append] at hnext
    exact inactive_later ports hsound hresult hinactive hhandle later hnext
  · intro callbacks entry permit error result hpermit hnew hfailed hresult
    exact start_failed_inactive ports host callbacks hpermit hnew hfailed hresult
  · intro hstate
    have hphase := hsound.phase
    rw [hstate] at hphase
    exact hphase
  · intro hstate callbacks
    have hnot : host.state ≠ .stopped := by
      rw [hstate]
      simp
    exact (stop_eq ports hsound hnot callbacks).2.2.2.1

/-- Callbacks that do nothing and succeed. -/
def succeeding : RuntimeEndpointId → Callback := fun _ => ⟨[], .ok ()⟩

/-- A host without adapters is started like any other. -/
theorem started_without_adapters :
    (run Sample.accepting .default () [.start succeeding]).state = .started ∧
    ∀ adapter ∈ (run Sample.accepting .default () [.start succeeding]).adapters,
      adapter.state = .stopped := by
  constructor
  · rfl
  · intro adapter hmem
    cases hmem

end RuntimeHost

end AgentPulse
