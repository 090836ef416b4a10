import AgentPulse.CodexIngress
import AgentPulse.CodexActiveTurn

/-!
# Mapper and bridge in step

The mapper keeps a copy of the cursor, the state and the connection of every
session it has started. A publication is reduced by the bridge first and then
copied; the copy follows whenever the event was committed, and only then.
-/
namespace AgentPulse

open Std (ExtTreeMap)

namespace Codex

/-- State and connection after a payload. -/
def PayloadState.observed (self : PayloadState) (before : AgentState × ConnectionState) :
    AgentState × ConnectionState :=
  match self with
  | .execution value => (value, before.2)
  | .connection value => (before.1, value)
  | .none => before

/-- The reducer reads a payload as the mapper does. -/
theorem applyPayload_observed {aggregate : SessionAggregate} {event : AgentEvent}
    (h : (aggregate.applyPayload event).2 = .ok ()) :
    ((aggregate.applyPayload event).1.session.state,
        (aggregate.applyPayload event).1.session.connectionState) =
      (payloadState event.payload).observed
        (aggregate.session.state, aggregate.session.connectionState) := by
  unfold SessionAggregate.applyPayload at h ⊢
  cases hp : event.payload with
  | sessionStarted session => rfl
  | message message => rfl
  | commandIssued command => rfl
  | stateChanged state =>
    simp only [hp] at h ⊢
    cases hr : aggregate.nextSessionRevision with
    | error e => simp [hr] at h
    | ok revision => rfl
  | connectionChanged connection =>
    simp only [hp] at h ⊢
    cases hr : aggregate.nextSessionRevision with
    | error e => simp [hr] at h
    | ok revision => rfl
  | sessionEnded outcome =>
    simp only [hp] at h ⊢
    cases hr : aggregate.nextSessionRevision with
    | error e => simp [hr] at h
    | ok revision => rfl
  | toolActivity activity =>
    simp only [SessionAggregate.applyToolActivity]
    cases activity <;> dsimp only <;> split <;> rfl
  | planUpdated plan =>
    dsimp only
    split <;> rfl
  | progressUpdated progress =>
    dsimp only
    split <;> rfl
  | interactionRequested request =>
    dsimp only
    split <;> rfl
  | interactionResponded response =>
    dsimp only
    split
    · rfl
    · split <;> rfl
  | interactionClosed closed =>
    dsimp only
    split <;> rfl

/-- An accepted event moves the cursor by one and shows in state and connection. -/
theorem apply_observed {aggregate : SessionAggregate} {event : AgentEvent}
    (h : (aggregate.apply event).2 = .ok .applied) :
    event.sequence.get = aggregate.lastSequence.get + 1 ∧
    (aggregate.apply event).1.lastSequence = event.sequence ∧
    (aggregate.apply event).1.session.providerId = aggregate.session.providerId ∧
    ((aggregate.apply event).1.session.state, (aggregate.apply event).1.session.connectionState) =
      (payloadState event.payload).observed
        (aggregate.session.state, aggregate.session.connectionState) := by
  obtain ⟨hcursor, hpayload, heq⟩ := SessionAggregate.apply_applied h
  obtain ⟨-, -, -, -, hprovider, -⟩ := SessionAggregate.applyPayload_frame aggregate event
  rw [heq]
  exact ⟨(SessionAggregate.validateCursor_next hcursor).2, rfl, hprovider,
    applyPayload_observed hpayload⟩

end Codex

/-- The operation is an event of the provider. -/
def BridgeOp.publishes (providerId : ProviderId) : BridgeOp → Bool
  | .handleProviderEvent id _ => id == providerId
  | _ => false

namespace Bridge

variable {World : Type} (ports : Ports World) {self : Bridge World} {providerId : ProviderId}

/-- A session of the bridge that the provider has started. -/
structure Owns (bridge : Bridge World) (providerId : ProviderId) (sessionId : SessionId)
    (aggregate : SessionAggregate) : Prop where
  stored : bridge.sessions[sessionId]? = some aggregate
  owner : aggregate.session.providerId = providerId

/-- The publisher of a committed event owns its session, before and after. -/
theorem Committed.owner (hcon : Consistent self) {event : AgentEvent}
    {provider : ProviderDescriptor} {session : AgentSession} {routes : List EventRoute}
    {aggregate : SessionAggregate}
    (h : Committed self providerId event provider session routes aggregate) :
    aggregate.session.providerId = providerId ∧
      ∀ old, self.sessions[event.sessionId]? = some old → old.session.providerId = providerId := by
  have hid := hcon.providerIds providerId provider h.registered
  have hvalid := CapabilityRouter.validateProviderEvent_ok.mp h.valid
  have hold : ∀ old, self.sessions[event.sessionId]? = some old →
      old.session.providerId = providerId := by
    intro old hold
    have hrouting := h.routing
    simp only [routingSession, hold, Except.ok.injEq] at hrouting
    rw [hrouting, ← hvalid.1, hid]
  refine ⟨?_, hold⟩
  rcases h.reduced with ⟨old, hstored, happlied, rfl⟩ | ⟨-, hinit⟩
  · rw [(Codex.apply_observed happlied).2.2.1]
    exact hold old hstored
  · obtain ⟨-, started, hp, heq⟩ := SessionAggregate.fromInitialEvent_ok hinit
    rw [heq, ← hid]
    exact (hvalid.2.2.1 started hp).symm

/-- What others do leaves the provider's sessions alone. -/
theorem step_owns (hcon : Consistent self) {op : BridgeOp}
    (hop : op.publishes providerId = false) (sessionId : SessionId) (aggregate : SessionAggregate) :
    Owns (self.step ports op).1 providerId sessionId aggregate ↔
      Owns self providerId sessionId aggregate := by
  have hsame : ∀ {next : Bridge World}, next.sessions = self.sessions →
      (Owns next providerId sessionId aggregate ↔ Owns self providerId sessionId aggregate) := by
    intro next hsessions
    constructor
    · rintro ⟨hstored, howner⟩
      rw [hsessions] at hstored
      exact ⟨hstored, howner⟩
    · rintro ⟨hstored, howner⟩
      rw [← hsessions] at hstored
      exact ⟨hstored, howner⟩
  by_cases hevent : ∃ id event, op = .handleProviderEvent id event
  · obtain ⟨id, event, rfl⟩ := hevent
    have hother : id ≠ providerId := by simpa [BridgeOp.publishes] using hop
    show Owns (self.handleProviderEvent ports id event).1 providerId sessionId aggregate ↔ _
    rcases handleProviderEvent_cases ports self id event with ⟨e, he, -⟩ | ⟨old, -, -, he⟩ |
      ⟨provider, session, routes, reduced, hc, he⟩
    · rw [he]
    · rw [he]
    · rw [he]
      obtain ⟨hreduced, hold⟩ := hc.owner hcon
      by_cases hid : event.sessionId = sessionId
      · subst hid
        constructor
        · rintro ⟨hstored, howner⟩
          simp only [commit, withSession, OrderedMap.getElem?_insert, if_true] at hstored
          cases hstored
          exact absurd (hreduced.symm.trans howner) hother
        · rintro ⟨hstored, howner⟩
          exact absurd ((hold aggregate hstored).symm.trans howner) hother
      · have hkept : (self.commit ports event routes reduced).sessions[sessionId]? =
            self.sessions[sessionId]? := by
          simp only [commit, withSession, OrderedMap.getElem?_insert, if_neg hid]
        constructor
        · rintro ⟨hstored, howner⟩
          rw [hkept] at hstored
          exact ⟨hstored, howner⟩
        · rintro ⟨hstored, howner⟩
          rw [← hkept] at hstored
          exact ⟨hstored, howner⟩
  · have hquiet := step_quiet ports self op fun id event heq => hevent ⟨id, event, heq⟩
    exact hsame (quiet_sessions hquiet).1

theorem final_owns (hcon : Consistent self) {ops : List BridgeOp}
    (hops : ∀ op ∈ ops, op.publishes providerId = false) :
    Consistent (Trace.final (step ports) self ops) ∧ ∀ sessionId aggregate,
      Owns (Trace.final (step ports) self ops) providerId sessionId aggregate ↔
        Owns self providerId sessionId aggregate := by
  induction ops generalizing self with
  | nil => exact ⟨hcon, fun _ _ => Iff.rfl⟩
  | cons op rest ih =>
    have hnext : Consistent (self.step ports op).1 := consistent_change hcon (step_change ports self op)
    obtain ⟨hfinal, howns⟩ := ih hnext fun o ho => hops o (by simp [ho])
    refine ⟨hfinal, fun sessionId aggregate => ?_⟩
    exact (howns sessionId aggregate).trans (step_owns ports hcon (hops op (by simp)) sessionId aggregate)

end Bridge

namespace Codex

open Program (Preserves Triple bind_apply)

/-- As long as the session has a next sequence number, the copy names it, and shows the state
and the connection of the session. -/
def Agrees (mapping : ThreadMapping) (aggregate : SessionAggregate) : Prop :=
  aggregate.lastSequence.get + 1 < 2 ^ 64 →
    mapping.nextSequence.get = aggregate.lastSequence.get + 1 ∧
    mapping.state = aggregate.session.state ∧ mapping.connection = aggregate.session.connectionState

/-- Every tracked thread has its session in the bridge and agrees with it, and every session of
the provider is one of a tracked thread. -/
structure Coupled {World : Type} (providerId : ProviderId) (m : CodexEventMapper)
    (bridge : Bridge World) : Prop where
  consistent : Consistent bridge
  provider : m.providerId = providerId
  configured : ∀ (thread : String) mapping, m.threads[thread]? = some mapping →
    m.configured[thread]? = some mapping.sessionId
  distinct : ∀ (a b : String) session, m.configured[a]? = some session →
    m.configured[b]? = some session → a = b
  aligned : ∀ (thread : String) mapping, m.threads[thread]? = some mapping →
    ∃ aggregate, bridge.Owns providerId mapping.sessionId aggregate ∧ Agrees mapping aggregate
  exact : ∀ session aggregate, bridge.Owns providerId session aggregate →
    ∃ (thread : String) (mapping : ThreadMapping), m.threads[thread]? = some mapping ∧
      mapping.sessionId = session

/-- What the mapper copies of a session. -/
def ThreadMapping.copy (self : ThreadMapping) :
    SessionId × EventSequence × AgentState × ConnectionState :=
  (self.sessionId, self.nextSequence, self.state, self.connection)

/-- The copies, and the sessions that threads stand for, are the same. -/
structure SameCopies (m m' : CodexEventMapper) : Prop where
  provider : m'.providerId = m.providerId
  configured : m'.configured = m.configured
  copies : ∀ thread : String,
    m'.threads[thread]?.map ThreadMapping.copy = m.threads[thread]?.map ThreadMapping.copy

theorem SameCopies.of_threads {m m' : CodexEventMapper} (hprovider : m'.providerId = m.providerId)
    (hconfigured : m'.configured = m.configured) (hthreads : m'.threads = m.threads) :
    SameCopies m m' :=
  ⟨hprovider, hconfigured, fun _ => by rw [hthreads]⟩

theorem updateThread_providerId (m : CodexEventMapper) (threadId : String)
    (f : ThreadMapping → ThreadMapping) : (m.updateThread threadId f).providerId = m.providerId := by
  unfold CodexEventMapper.updateThread
  split <;> rfl

theorem updateThread_configured (m : CodexEventMapper) (threadId : String)
    (f : ThreadMapping → ThreadMapping) : (m.updateThread threadId f).configured = m.configured := by
  unfold CodexEventMapper.updateThread
  split <;> rfl

theorem sameCopies_updateThread (m : CodexEventMapper) (threadId : String)
    {f : ThreadMapping → ThreadMapping} (hf : ∀ mapping, (f mapping).copy = mapping.copy) :
    SameCopies m (m.updateThread threadId f) := by
  refine ⟨updateThread_providerId m threadId f, updateThread_configured m threadId f, fun thread => ?_⟩
  · rw [CodexEventMapper.threads_updateThread]
    split
    · cases m.threads[thread]? with
      | none => rfl
      | some mapping => simp [hf]
    · rfl

theorem agrees_of_copy {mapping mapping' : ThreadMapping} {aggregate : SessionAggregate}
    (hcopy : mapping'.copy = mapping.copy) (h : Agrees mapping aggregate) :
    Agrees mapping' aggregate := by
  unfold ThreadMapping.copy at hcopy
  simp only [Prod.mk.injEq] at hcopy
  obtain ⟨-, hsequence, hstate, hconnection⟩ := hcopy
  intro hnext
  rw [hsequence, hstate, hconnection]
  exact h hnext

namespace Coupled

variable {World : Type} {providerId : ProviderId} {m m' : CodexEventMapper}
  {bridge bridge' : Bridge World}

/-- The coupling reads the bridge only through the provider's sessions. -/
theorem of_owns (h : Coupled providerId m bridge) (hcon : Consistent bridge')
    (howns : ∀ session aggregate, bridge'.Owns providerId session aggregate ↔
      bridge.Owns providerId session aggregate) : Coupled providerId m bridge' where
  consistent := hcon
  provider := h.provider
  configured := h.configured
  distinct := h.distinct
  aligned := by
    intro thread mapping hmapping
    obtain ⟨aggregate, howned, hagrees⟩ := h.aligned thread mapping hmapping
    exact ⟨aggregate, (howns _ _).mpr howned, hagrees⟩
  exact := fun session aggregate howned => h.exact session aggregate ((howns _ _).mp howned)

theorem of_copies (h : Coupled providerId m bridge) (hsame : SameCopies m m') :
    Coupled providerId m' bridge := by
  have hback : ∀ (thread : String) mapping', m'.threads[thread]? = some mapping' →
      ∃ mapping, m.threads[thread]? = some mapping ∧ mapping'.copy = mapping.copy := by
    intro thread mapping' hmapping'
    have hcopy := hsame.copies thread
    rw [hmapping'] at hcopy
    obtain ⟨mapping, hmapping, heq⟩ := Option.map_eq_some_iff.mp hcopy.symm
    exact ⟨mapping, hmapping, heq.symm⟩
  have hsession : ∀ {a b : ThreadMapping}, a.copy = b.copy → a.sessionId = b.sessionId :=
    fun hcopy => congrArg Prod.fst hcopy
  refine ⟨h.consistent, hsame.provider.trans h.provider, ?_, ?_, ?_, ?_⟩
  · intro thread mapping' hmapping'
    obtain ⟨mapping, hmapping, hcopy⟩ := hback thread mapping' hmapping'
    rw [hsame.configured, hsession hcopy]
    exact h.configured thread mapping hmapping
  · rw [hsame.configured]
    exact h.distinct
  · intro thread mapping' hmapping'
    obtain ⟨mapping, hmapping, hcopy⟩ := hback thread mapping' hmapping'
    obtain ⟨aggregate, howned, hagrees⟩ := h.aligned thread mapping hmapping
    rw [hsession hcopy]
    exact ⟨aggregate, howned, agrees_of_copy hcopy hagrees⟩
  · intro session aggregate howned
    obtain ⟨thread, mapping, hmapping, rfl⟩ := h.exact session aggregate howned
    have hcopy := hsame.copies thread
    rw [hmapping] at hcopy
    obtain ⟨mapping', hmapping', heq⟩ := Option.map_eq_some_iff.mp hcopy
    exact ⟨thread, mapping', hmapping', hsession heq⟩

/-- One session of the bridge and its copy are replaced together. -/
theorem of_replaced (h : Coupled providerId m bridge) (hcon : Consistent bridge')
    {thread : String} {mapping mapping' : ThreadMapping} {aggregate' : SessionAggregate}
    (hmapping : m.threads[thread]? = some mapping)
    (hprovider : m'.providerId = m.providerId) (hconfigured : m'.configured = m.configured)
    (hmapping' : m'.threads[thread]? = some mapping')
    (hothers : ∀ other, thread ≠ other → m'.threads[other]? = m.threads[other]?)
    (hsession : mapping'.sessionId = mapping.sessionId)
    (howned' : bridge'.Owns providerId mapping.sessionId aggregate')
    (hkept : ∀ session, mapping.sessionId ≠ session →
      bridge'.sessions[session]? = bridge.sessions[session]?)
    (hagrees : Agrees mapping' aggregate') : Coupled providerId m' bridge' := by
  refine ⟨hcon, hprovider.trans h.provider, ?_, ?_, ?_, ?_⟩
  · intro other found hfound
    rw [hconfigured]
    by_cases hother : thread = other
    · subst hother
      rw [hmapping'] at hfound
      cases hfound
      rw [hsession]
      exact h.configured thread mapping hmapping
    · rw [hothers other hother] at hfound
      exact h.configured other found hfound
  · rw [hconfigured]
    exact h.distinct
  · intro other found hfound
    by_cases hother : thread = other
    · subst hother
      rw [hmapping'] at hfound
      cases hfound
      rw [hsession]
      exact ⟨aggregate', howned', hagrees⟩
    · rw [hothers other hother] at hfound
      obtain ⟨aggregate, howned, hcopied⟩ := h.aligned other found hfound
      -- two tracked threads never stand for one session
      have hapart : mapping.sessionId ≠ found.sessionId := by
        intro hsame
        apply hother
        apply h.distinct thread other mapping.sessionId (h.configured thread mapping hmapping)
        rw [hsame]
        exact h.configured other found hfound
      refine ⟨aggregate, ⟨?_, howned.owner⟩, hcopied⟩
      rw [hkept _ hapart]
      exact howned.stored
  · intro session aggregate howned
    by_cases hsame : mapping.sessionId = session
    · exact ⟨thread, mapping', hmapping', hsession.trans hsame⟩
    · have hbefore : bridge.Owns providerId session aggregate := by
        refine ⟨?_, howned.owner⟩
        rw [← hkept _ hsame]
        exact howned.stored
      obtain ⟨other, found, hfound, hid⟩ := h.exact session aggregate hbefore
      have hother : thread ≠ other := by
        rintro rfl
        rw [hmapping] at hfound
        cases hfound
        exact hsame hid
      exact ⟨other, found, (hothers other hother).trans hfound, hid⟩

theorem not_owns (h : Coupled providerId m bridge) {thread : String} {session : SessionId}
    (hconfigured : m.configured[thread]? = some session) (huntracked : m.threads[thread]? = none)
    (aggregate : SessionAggregate) : ¬ bridge.Owns providerId session aggregate := by
  intro howned
  obtain ⟨other, mapping, hmapping, rfl⟩ := h.exact session aggregate howned
  have hsame : other = thread := h.distinct other thread _ (h.configured other mapping hmapping) hconfigured
  subst hsame
  rw [huntracked] at hmapping
  cases hmapping

theorem of_started (h : Coupled providerId m bridge) (hcon : Consistent bridge')
    {thread : String} {mapping : ThreadMapping} {aggregate : SessionAggregate}
    (hconfigured : m.configured[thread]? = some mapping.sessionId)
    (hprovider : m'.providerId = m.providerId) (hsame : m'.configured = m.configured)
    (hthreads : m'.threads = m.threads.insert thread mapping)
    (howned : bridge'.Owns providerId mapping.sessionId aggregate)
    (hkept : ∀ session, mapping.sessionId ≠ session →
      bridge'.sessions[session]? = bridge.sessions[session]?)
    (hagrees : Agrees mapping aggregate) : Coupled providerId m' bridge' := by
  refine ⟨hcon, hprovider.trans h.provider, ?_, ?_, ?_, ?_⟩
  · intro other found hfound
    rw [hthreads, OrderedMap.getElem?_insert] at hfound
    rw [hsame]
    split at hfound
    · next hother =>
      cases hfound
      rw [← hother]
      exact hconfigured
    · exact h.configured other found hfound
  · rw [hsame]
    exact h.distinct
  · intro other found hfound
    rw [hthreads, OrderedMap.getElem?_insert] at hfound
    split at hfound
    · cases hfound
      exact ⟨aggregate, howned, hagrees⟩
    · next hother =>
      obtain ⟨kept, hbefore, hcopied⟩ := h.aligned other found hfound
      have hapart : mapping.sessionId ≠ found.sessionId := by
        intro hid
        apply hother
        apply h.distinct thread other mapping.sessionId hconfigured
        rw [hid]
        exact h.configured other found hfound
      refine ⟨kept, ⟨?_, hbefore.owner⟩, hcopied⟩
      rw [hkept _ hapart]
      exact hbefore.stored
  · intro session found hfound
    by_cases hid : mapping.sessionId = session
    · exact ⟨thread, mapping, by rw [hthreads, OrderedMap.getElem?_insert, if_pos rfl], hid⟩
    · have hbefore : bridge.Owns providerId session found := by
        refine ⟨?_, hfound.owner⟩
        rw [← hkept _ hid]
        exact hfound.stored
      obtain ⟨other, tracked, htracked, hsession⟩ := h.exact session found hbefore
      by_cases hother : thread = other
      · subst hother
        have hconf := h.configured thread tracked htracked
        rw [hconfigured] at hconf
        exact absurd ((Option.some.inj hconf).trans hsession) hid
      · refine ⟨other, tracked, ?_, hsession⟩
        rw [hthreads, OrderedMap.getElem?_insert, if_neg hother]
        exact htracked

end Coupled

section Publishing

variable {World : Type} (ports : Ports World) (providerId : ProviderId) (clock : Nat → Timestamp)
  (ids : (k : IdKind) → Nat → Ident k)

/-- What others do is no event of the provider. -/
def ForeignArrivals (providerId : ProviderId) (arrivals : List Arrival) : Prop :=
  ∀ arrival ∈ arrivals, ∀ op ∈ arrival.others, op.publishes providerId = false

/-- The coupling of a mapper with the bridge of its host. -/
structure Lockstep (s : MapperState (Hosted World)) : Prop where
  coupled : Coupled providerId s.mapper s.host.bridge
  foreign : ForeignArrivals providerId s.host.arrivals

namespace Lockstep

variable {ports providerId clock ids} {s : MapperState (Hosted World)}

/-- The coupling with the bridge that the next publication meets. -/
theorem met (h : Lockstep providerId s) : Coupled providerId s.mapper (s.host.met ports) := by
  have hothers : ∀ op ∈ s.host.arrival.others, op.publishes providerId = false := by
    intro op hop
    unfold Hosted.arrival at hop
    cases harrivals : s.host.arrivals with
    | nil => simp [harrivals] at hop
    | cons arrival rest =>
      rw [harrivals] at hop
      exact h.foreign arrival (by simp [harrivals]) op hop
  obtain ⟨hcon, howns⟩ := Bridge.final_owns ports h.coupled.consistent hothers
  exact h.coupled.of_owns hcon howns

theorem tail (h : Lockstep providerId s) : ForeignArrivals providerId s.host.arrivals.tail :=
  fun arrival harrival => h.foreign arrival (List.mem_of_mem_tail harrival)

end Lockstep

/-- A retry repeats the last sequence number. -/
theorem sequence_of_retry {old : SessionAggregate} {event : AgentEvent}
    (h : (old.apply event).2 = .ok .alreadyApplied) :
    event = old.lastEvent ∧ event.sequence = old.lastSequence := by
  have hcursor : old.validateCursor event = .ok true := by
    rcases SessionAggregate.apply_cases old event with ⟨hcursor, -⟩ | ⟨e, he⟩ | ⟨-, -, he⟩
    · exact hcursor
    · rw [he] at h
      cases h
    · rw [he] at h
      cases h
  unfold SessionAggregate.validateCursor at hcursor
  split at hcursor
  · cases hcursor
  · split at hcursor
    · cases hcursor
    · split at hcursor
      · next hsequence =>
        split at hcursor
        · next hevent => exact ⟨hevent, hsequence⟩
        · cases hcursor
      · split at hcursor
        · cases hcursor
        · split at hcursor <;> cases hcursor

/-- What a publication leaves, by the answer of the host. -/
theorem publishCommitted_eq (s : MapperState (Hosted World)) (event : AgentEvent) :
    Mapping.publishCommitted (hosted ports providerId clock ids) event s =
      match (s.host.publishEvent ports providerId event).2 with
      | .ok _ => (.ok (), ⟨s.mapper, (s.host.publishEvent ports providerId event).1⟩)
      | .error e =>
        if e.report.isSome then (.ok (), ⟨s.mapper, (s.host.publishEvent ports providerId event).1⟩)
        else (.error (.eventIngress e), ⟨s.mapper, (s.host.publishEvent ports providerId event).1⟩) := by
  unfold Mapping.publishCommitted
  simp only [bind_apply, Program.update, hosted]
  cases (s.host.publishEvent ports providerId event).2 with
  | ok report => rfl
  | error e =>
    dsimp only
    rw [Program.ite_apply]
    rfl

open Mapping in
/-- One publication: it fails and leaves the coupling, or it is a retry, or it is committed. -/
theorem publishCommitted_cases {s : MapperState (Hosted World)} (hs : Lockstep providerId s)
    (event : AgentEvent) :
    (∃ e s', publishCommitted (hosted ports providerId clock ids) event s = (.error e, s') ∧
      Lockstep providerId s') ∨
    ∃ bridge, publishCommitted (hosted ports providerId clock ids) event s =
        (.ok (), ⟨s.mapper, s.host.withBridge bridge⟩) ∧
      ((∃ old, (s.host.met ports).sessions[event.sessionId]? = some old ∧
          (old.apply event).2 = .ok .alreadyApplied ∧ bridge = s.host.met ports) ∨
        ∃ provider session routes aggregate,
          Bridge.Committed (s.host.met ports) providerId event provider session routes aggregate ∧
          bridge = (s.host.met ports).commit ports event routes aggregate) := by
  rw [publishCommitted_eq]
  rcases s.host.publishEvent_cases ports providerId event with ⟨e, he, hreport⟩ |
    ⟨old, report, hold, hretry, he⟩ | ⟨provider, session, routes, aggregate, hc, hnext, hreport⟩
  · left
    rw [he]
    refine ⟨.eventIngress e, ⟨s.mapper, s.host.withBridge (s.host.met ports)⟩, ?_, hs.met, hs.tail⟩
    simp [hreport]
  · right
    rw [he]
    exact ⟨s.host.met ports, rfl, .inl ⟨old, hold, hretry, rfl⟩⟩
  · right
    refine ⟨_, ?_, .inr ⟨provider, session, routes, aggregate, hc, rfl⟩⟩
    rw [hnext]
    cases hresult : (s.host.publishEvent ports providerId event).2 with
    | ok report => rfl
    | error e =>
      dsimp only
      rw [if_pos (hreport e hresult)]

/-- The copy follows the event that was published. -/
theorem agrees_published {mapping : ThreadMapping} {old : SessionAggregate} {event : AgentEvent}
    {next : EventSequence} (hagrees : Agrees mapping old)
    (hsequence : event.sequence = mapping.nextSequence)
    (happlied : (old.apply event).2 = .ok .applied)
    (hnext : mapping.nextSequence.checkedNext = some next) :
    Agrees ((payloadState event.payload).apply { mapping with nextSequence := next })
      (old.apply event).1 := by
  obtain ⟨hcursor, hlast, -, hobserved⟩ := apply_observed happlied
  have hbound := event.sequence.bounded
  obtain ⟨-, hstate, hconnection⟩ := hagrees (by omega)
  have hget := PositiveCounter.checkedNext_get hnext
  intro _
  rw [hlast, hsequence]
  rw [← hstate, ← hconnection] at hobserved
  cases hpayload : payloadState event.payload with
  | execution value =>
    rw [hpayload] at hobserved
    obtain ⟨hs, hc⟩ := Prod.mk.inj hobserved
    exact ⟨hget, hs.symm, hc.symm⟩
  | connection value =>
    rw [hpayload] at hobserved
    obtain ⟨hs, hc⟩ := Prod.mk.inj hobserved
    exact ⟨hget, hs.symm, hc.symm⟩
  | none =>
    rw [hpayload] at hobserved
    obtain ⟨hs, hc⟩ := Prod.mk.inj hobserved
    exact ⟨hget, hs.symm, hc.symm⟩

variable {ports providerId clock ids}

/-- What a made publication of a tracked thread leaves in the bridge, seen from its copy. -/
structure Followed (met bridge : Bridge World) (providerId : ProviderId) (mapping : ThreadMapping)
    (payload : AgentEventPayload) (aggregate : SessionAggregate) : Prop where
  consistent : Consistent bridge
  owned : bridge.Owns providerId mapping.sessionId aggregate
  kept : ∀ session, mapping.sessionId ≠ session → bridge.sessions[session]? = met.sessions[session]?
  copied : ∀ next, mapping.nextSequence.checkedNext = some next →
    Agrees ((payloadState payload).apply { mapping with nextSequence := next }) aggregate
  exhausted : mapping.nextSequence.checkedNext = none → Agrees mapping aggregate

theorem followed_of_retry {met : Bridge World} {m : CodexEventMapper} {thread : String}
    {mapping : ThreadMapping} {event : AgentEvent} {old : SessionAggregate}
    (hmet : Coupled providerId m met) (hmapping : m.threads[thread]? = some mapping)
    (hsession : event.sessionId = mapping.sessionId) (hsequence : event.sequence = mapping.nextSequence)
    (hold : met.sessions[event.sessionId]? = some old)
    (hretry : (old.apply event).2 = .ok .alreadyApplied) :
    Followed met met providerId mapping event.payload old := by
  obtain ⟨aggregate, howned, hagrees⟩ := hmet.aligned thread mapping hmapping
  have hsame : aggregate = old := by
    have hstored := howned.stored
    rw [← hsession, hold] at hstored
    exact (Option.some.inj hstored).symm
  subst hsame
  -- the copy is one ahead of the cursor, so only a used-up session sees a retry
  have hused : ¬ aggregate.lastSequence.get + 1 < 2 ^ 64 := by
    intro hnext
    have hcursor := (hagrees hnext).1
    have hlast := (sequence_of_retry hretry).2
    rw [hsequence] at hlast
    rw [hlast] at hcursor
    omega
  exact ⟨hmet.consistent, howned, fun _ _ => rfl, fun _ _ hnext => absurd hnext hused,
    fun _ hnext => absurd hnext hused⟩

theorem followed_of_committed {met : Bridge World} {m : CodexEventMapper} {thread : String}
    {mapping : ThreadMapping} {event : AgentEvent} {provider : ProviderDescriptor}
    {session : AgentSession} {routes : List EventRoute} {aggregate : SessionAggregate}
    (hmet : Coupled providerId m met) (hmapping : m.threads[thread]? = some mapping)
    (hsession : event.sessionId = mapping.sessionId) (hsequence : event.sequence = mapping.nextSequence)
    (hc : Bridge.Committed met providerId event provider session routes aggregate) :
    Followed met (met.commit ports event routes aggregate) providerId mapping event.payload
      aggregate := by
  obtain ⟨old, howned, hagrees⟩ := hmet.aligned thread mapping hmapping
  have hstored : met.sessions[event.sessionId]? = some old := by
    rw [hsession]
    exact howned.stored
  have happlied : (old.apply event).2 = .ok .applied ∧ (old.apply event).1 = aggregate := by
    rcases hc.reduced with ⟨found, hfound, happlied, hresult⟩ | ⟨hnone, -⟩
    · rw [hstored] at hfound
      cases hfound
      exact ⟨happlied, hresult⟩
    · rw [hstored] at hnone
      cases hnone
  obtain ⟨happlied, rfl⟩ := happlied
  obtain ⟨hcursor, hlast, -, -⟩ := apply_observed happlied
  have hcon : Consistent (met.commit ports event routes (old.apply event).1) := by
    have hchange := Bridge.consistent_change hmet.consistent (.reduced providerId event provider
      session routes _ (met.commit ports event routes (old.apply event).1).world hc)
    exact hchange
  refine ⟨hcon, ⟨?_, (hc.owner hmet.consistent).1⟩, ?_, ?_, ?_⟩
  · simp [Bridge.commit, Bridge.withSession, hsession]
  · intro other hother
    simp [Bridge.commit, Bridge.withSession, OrderedMap.getElem?_insert, hsession, hother]
  · exact fun next hnext => agrees_published hagrees hsequence happlied hnext
  · intro hnone hnext
    unfold PositiveCounter.checkedNext at hnone
    split at hnone
    · cases hnone
    · next hused =>
      rw [hlast, hsequence] at hnext
      exact absurd hnext hused

namespace Mapping

theorem lockstep_publishTracked (threadId : String) (occurredAt : Timestamp)
    (payload : AgentEventPayload) :
    Preserves (Lockstep providerId)
      (publishTracked (hosted ports providerId clock ids) threadId occurredAt payload) := by
  constructor
  intro s hs
  unfold publishTracked
  cases hmapping : s.mapper.threads[threadId]? with
  | none =>
    rw [Program.bind_of_error (trackedThread_of_none hmapping)]
    exact hs
  | some mapping =>
    rw [Program.bind_of_ok (trackedThread_of_some hmapping)]
    obtain ⟨id, s₁, hdrawn, hs₁, hmapper⟩ : ∃ id s₁, newId (hosted ports providerId clock ids) .event s =
        (.ok id, s₁) ∧ Lockstep providerId s₁ ∧ s₁.mapper = s.mapper :=
      ⟨_, _, rfl, ⟨hs.coupled, hs.foreign⟩, rfl⟩
    rw [← hmapper] at hmapping
    rw [Program.bind_of_ok hdrawn]
    cases hnew : domain (AgentEvent.new id mapping.sessionId mapping.nextSequence occurredAt
        payload) with
    | error e => exact hs₁
    | ok event =>
      obtain ⟨hsession, hsequence, hpayload⟩ := event_of_new hnew
      show Lockstep providerId ((publishCommitted (hosted ports providerId clock ids) event >>= _)
        s₁).2
      rcases publishCommitted_cases ports providerId clock ids hs₁ event with ⟨e, s', he, hs'⟩ |
        ⟨bridge, he, hbridge⟩
      · rw [Program.bind_of_error he]
        exact hs'
      · obtain ⟨aggregate, hfollowed⟩ : ∃ aggregate, Followed (s₁.host.met ports) bridge providerId
            mapping payload aggregate := by
          rw [← hpayload]
          rcases hbridge with ⟨old, hold, hretry, rfl⟩ |
            ⟨provider, session, routes, aggregate, hc, rfl⟩
          · exact ⟨old, followed_of_retry hs₁.met hmapping hsession hsequence hold hretry⟩
          · exact ⟨aggregate, followed_of_committed hs₁.met hmapping hsession hsequence hc⟩
        have hfound : (trackedThread threadId : Mapping (Hosted World) ThreadMapping)
            ⟨s₁.mapper, s₁.host.withBridge bridge⟩ =
            (.ok mapping, ⟨s₁.mapper, s₁.host.withBridge bridge⟩) := trackedThread_of_some hmapping
        rw [Program.bind_of_ok he, Program.bind_of_ok hfound]
        cases hnext : mapping.nextSequence.checkedNext with
        | none =>
          exact ⟨hs₁.met.of_replaced hfollowed.consistent hmapping rfl rfl hmapping
            (fun _ _ => rfl) rfl hfollowed.owned hfollowed.kept (hfollowed.exhausted hnext), hs₁.tail⟩
        | some next =>
          refine ⟨?_, hs₁.tail⟩
          refine hs₁.met.of_replaced hfollowed.consistent hmapping ?_ ?_ ?_ ?_ ?_ hfollowed.owned
            hfollowed.kept (hfollowed.copied next hnext)
          · exact updateThread_providerId _ _ _
          · exact updateThread_configured _ _ _
          · show (s₁.mapper.updateThread threadId _).threads[threadId]? = _
            rw [CodexEventMapper.threads_updateThread, if_pos rfl, hmapping]
            rfl
          · intro other hother
            show (s₁.mapper.updateThread threadId _).threads[other]? = _
            rw [CodexEventMapper.threads_updateThread, if_neg hother]
          · cases payloadState payload <;> rfl

end Mapping

end Publishing

end Codex

end AgentPulse
