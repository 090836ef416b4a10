import AgentPulse.CoreHistory

/-!
# Derived state of a session

Each piece of derived state is a query on the accepted history: the pending
interactions and active tool calls since the last end of the session, the
latest snapshots and outcome, and the number of events that advance the
session revision. One lemma says what an accepted event does to each piece;
the induction over the history is the same for all of them.
-/
namespace AgentPulse

open Trace (LatestSince final exists_latestSince_snoc latestSince_nil)

namespace AgentEvent

/-- Requests, responses and closures carry the interaction they are about. -/
def AboutInteraction (id : InteractionId) (event : AgentEvent) : Prop :=
  match event.payload with
  | .interactionRequested request => request.id = id
  | .interactionResponded response => response.requestId = id
  | .interactionClosed closed => closed.requestId = id
  | _ => False

def AboutToolCall (id : ToolCallId) (event : AgentEvent) : Prop :=
  match event.payload with
  | .toolActivity (.started callId _ _) => callId = id
  | .toolActivity (.finished callId _ _) => callId = id
  | _ => False

def EndsSession (event : AgentEvent) : Prop :=
  match event.payload with
  | .sessionEnded _ => True
  | _ => False

def UpdatesPlan (event : AgentEvent) : Prop := ∃ plan, event.payload = .planUpdated plan

def UpdatesProgress (event : AgentEvent) : Prop :=
  ∃ progress, event.payload = .progressUpdated progress

def planRevision (event : AgentEvent) : Option Revision :=
  match event.payload with
  | .planUpdated plan => some plan.revision
  | _ => none

def progressRevision (event : AgentEvent) : Option Revision :=
  match event.payload with
  | .progressUpdated progress => some progress.revision
  | _ => none

/-- The three kinds of events that give the session a new revision. -/
def advancesRevision (event : AgentEvent) : Bool :=
  match event.payload with
  | .stateChanged _ => true
  | .connectionChanged _ => true
  | .sessionEnded _ => true
  | _ => false

end AgentEvent

open AgentEvent

/-- Every derived field as a query on the history. -/
structure DerivedFrom (initial : AgentSession) (history : List AgentEvent)
    (aggregate : SessionAggregate) : Prop where
  pending : ∀ id request, aggregate.pendingInteractions[id]? = some request ↔
    ∃ event, LatestSince (AboutInteraction id) EndsSession history event ∧
      event.payload = .interactionRequested request
  active : ∀ id call, aggregate.activeToolCalls[id]? = some call ↔
    ∃ event, LatestSince (AboutToolCall id) EndsSession history event ∧
      event.payload = .toolActivity (.started id call.name call.summary) ∧
      event.occurredAt = call.startedAt ∧ call.id = id
  plan : ∀ plan, aggregate.plan = some plan ↔
    ∃ event, LatestSince UpdatesPlan (fun _ => False) history event ∧
      event.payload = .planUpdated plan
  progress : ∀ progress, aggregate.progress = some progress ↔
    ∃ event, LatestSince UpdatesProgress (fun _ => False) history event ∧
      event.payload = .progressUpdated progress
  planRevisions : (history.filterMap planRevision).Pairwise (· < ·)
  progressRevisions : (history.filterMap progressRevision).Pairwise (· < ·)
  outcome : ∀ outcome, aggregate.latestOutcome = some outcome ↔
    ∃ event, LatestSince EndsSession (fun _ => False) history event ∧
      event.payload = .sessionEnded outcome
  revision : aggregate.session.revision.get =
    initial.revision.get + history.countP advancesRevision

namespace SessionAggregate

theorem nextSessionRevision_get {self : SessionAggregate} {revision : Revision}
    (h : self.nextSessionRevision = .ok revision) :
    revision.get = self.session.revision.get + 1 := by
  unfold nextSessionRevision at h
  split at h
  · cases h
  · next hn => cases h; exact PositiveCounter.checkedNext_get hn

theorem validateSnapshotRevision_ok {kind : SnapshotKind} {current : Option Revision}
    {incoming : Revision} (h : validateSnapshotRevision kind current incoming = .ok ()) :
    ∀ r ∈ current, r < incoming := by
  unfold validateSnapshotRevision at h
  rintro r hr
  rw [Option.mem_def] at hr
  subst hr
  simp only at h
  split at h
  · cases h
  · next hle =>
    rw [PositiveCounter.le_iff] at hle
    rw [PositiveCounter.lt_iff]
    omega

/-- What an accepted event does to the pending interaction `id`. -/
theorem applyPayload_pending {self : SessionAggregate} {event : AgentEvent}
    (h : (self.applyPayload event).2 = .ok ()) (id : InteractionId) :
    (self.applyPayload event).1.pendingInteractions[id]? =
      match event.payload with
      | .interactionRequested request =>
        if request.id = id then some request else self.pendingInteractions[id]?
      | .interactionResponded response =>
        if response.requestId = id then none else self.pendingInteractions[id]?
      | .interactionClosed closed =>
        if closed.requestId = id then none else self.pendingInteractions[id]?
      | .sessionEnded _ => none
      | _ => self.pendingInteractions[id]? := by
  unfold applyPayload at h ⊢
  cases hp : event.payload with
  | sessionStarted session => rfl
  | message message => rfl
  | commandIssued command => rfl
  | stateChanged state => cases hr : self.nextSessionRevision <;> rfl
  | connectionChanged state => cases hr : self.nextSessionRevision <;> rfl
  | sessionEnded outcome =>
    simp only [hp] at h ⊢
    cases hr : self.nextSessionRevision with
    | error e => simp [hr] at h
    | ok revision => simp
  | toolActivity activity =>
    cases activity <;> simp only [applyToolActivity] <;> split <;> rfl
  | planUpdated plan => simp only; split <;> rfl
  | progressUpdated progress => simp only; split <;> rfl
  | interactionRequested request =>
    simp only [hp] at h ⊢
    split at h
    · cases h
    · next hc => rw [if_neg hc]; exact OrderedMap.getElem?_insert _ _ _ _
  | interactionResponded response =>
    simp only [hp] at h ⊢
    split at h
    · cases h
    · split at h
      · cases h
      · next hv => exact OrderedMap.getElem?_erase _ _ _
  | interactionClosed closed =>
    simp only [hp] at h ⊢
    split at h
    · cases h
    · next hr => rw [if_neg hr]; exact OrderedMap.getElem?_erase _ _ _

/-- What an accepted event does to the active tool call `id`. -/
theorem applyPayload_active {self : SessionAggregate} {event : AgentEvent}
    (h : (self.applyPayload event).2 = .ok ()) (id : ToolCallId) :
    (self.applyPayload event).1.activeToolCalls[id]? =
      match event.payload with
      | .toolActivity (.started callId name summary) =>
        if callId = id then some ⟨callId, name, summary, event.occurredAt⟩
        else self.activeToolCalls[id]?
      | .toolActivity (.finished callId _ _) =>
        if callId = id then none else self.activeToolCalls[id]?
      | .sessionEnded _ => none
      | _ => self.activeToolCalls[id]? := by
  unfold applyPayload at h ⊢
  cases hp : event.payload with
  | sessionStarted session => rfl
  | message message => rfl
  | commandIssued command => rfl
  | stateChanged state => cases hr : self.nextSessionRevision <;> rfl
  | connectionChanged state => cases hr : self.nextSessionRevision <;> rfl
  | sessionEnded outcome =>
    simp only [hp] at h ⊢
    cases hr : self.nextSessionRevision with
    | error e => simp [hr] at h
    | ok revision => simp
  | toolActivity activity =>
    simp only [hp, applyToolActivity] at h ⊢
    cases activity with
    | started callId name summary =>
      simp only at h ⊢
      split at h
      · cases h
      · next hc => rw [if_neg hc]; exact OrderedMap.getElem?_insert _ _ _ _
    | finished callId outcome summary =>
      simp only at h ⊢
      split at h
      · cases h
      · next hc => rw [if_neg hc]; exact OrderedMap.getElem?_erase _ _ _
  | planUpdated plan => simp only; split <;> rfl
  | progressUpdated progress => simp only; split <;> rfl
  | interactionRequested request => simp only; split <;> rfl
  | interactionResponded response =>
    simp only
    split
    · rfl
    · split <;> rfl
  | interactionClosed closed => simp only; split <;> rfl

/-- What an accepted event does to the snapshots, the outcome and the revision. -/
theorem applyPayload_snapshots {self : SessionAggregate} {event : AgentEvent}
    (h : (self.applyPayload event).2 = .ok ()) :
    (self.applyPayload event).1.plan =
      (match event.payload with | .planUpdated plan => some plan | _ => self.plan) ∧
    (self.applyPayload event).1.progress =
      (match event.payload with | .progressUpdated progress => some progress | _ => self.progress) ∧
    (self.applyPayload event).1.latestOutcome =
      (match event.payload with | .sessionEnded outcome => some outcome | _ => self.latestOutcome) ∧
    (self.applyPayload event).1.session.revision.get =
      self.session.revision.get + (if event.advancesRevision then 1 else 0) ∧
    (∀ r ∈ event.planRevision, ∀ plan ∈ self.plan, plan.revision < r) ∧
    (∀ r ∈ event.progressRevision, ∀ progress ∈ self.progress, progress.revision < r) := by
  unfold applyPayload at h ⊢
  unfold advancesRevision planRevision progressRevision
  cases hp : event.payload with
  | sessionStarted session => simp [hp] at h
  | message message => simp
  | commandIssued command => simp
  | stateChanged state =>
    simp only [hp] at h ⊢
    cases hr : self.nextSessionRevision with
    | error e => simp [hr] at h
    | ok revision => simp [nextSessionRevision_get hr]
  | connectionChanged state =>
    simp only [hp] at h ⊢
    cases hr : self.nextSessionRevision with
    | error e => simp [hr] at h
    | ok revision => simp [nextSessionRevision_get hr]
  | sessionEnded outcome =>
    simp only [hp] at h ⊢
    cases hr : self.nextSessionRevision with
    | error e => simp [hr] at h
    | ok revision => simp [nextSessionRevision_get hr]
  | toolActivity activity =>
    cases activity <;> simp only [applyToolActivity] <;> split <;> simp
  | planUpdated plan =>
    simp only [hp] at h ⊢
    split at h
    · cases h
    · next hv =>
      have hlt := validateSnapshotRevision_ok hv
      simp only [Option.mem_map, forall_exists_index, and_imp, forall_apply_eq_imp_iff₂] at hlt
      simpa using hlt
  | progressUpdated progress =>
    simp only [hp] at h ⊢
    split at h
    · cases h
    · next hv =>
      have hlt := validateSnapshotRevision_ok hv
      simp only [Option.mem_map, forall_exists_index, and_imp, forall_apply_eq_imp_iff₂] at hlt
      simpa using hlt
  | interactionRequested request => simp only; split <;> simp
  | interactionResponded response =>
    simp only
    split
    · simp
    · split <;> simp
  | interactionClosed closed => simp only; split <;> simp

/-- Snapshot revisions of the past stay at or below the snapshot held. -/
structure RevisionsBelow (history : List AgentEvent) (aggregate : SessionAggregate) : Prop where
  plan : ∀ r ∈ history.filterMap planRevision,
    ∃ plan, aggregate.plan = some plan ∧ r ≤ plan.revision
  progress : ∀ r ∈ history.filterMap progressRevision,
    ∃ progress, aggregate.progress = some progress ∧ r ≤ progress.revision

theorem reduces_revisionsBelow {config : SessionAggregateConfig} {history : List AgentEvent}
    {self : SessionAggregate} (h : Reduces config history self) :
    RevisionsBelow history self := by
  induction h with
  | initial h =>
    obtain ⟨-, session, hp, rfl⟩ := fromInitialEvent_ok h
    constructor <;> simp [planRevision, progressRevision, hp]
  | @applied history self event hr ha ih =>
    obtain ⟨-, hok, heq⟩ := apply_applied ha
    obtain ⟨hplan, hprogress, -, -, hltPlan, hltProgress⟩ := applyPayload_snapshots hok
    rw [heq]
    constructor
    · intro r hr
      simp only [hplan]
      rw [List.filterMap_append, List.mem_append] at hr
      cases hp : event.payload with
      | planUpdated plan =>
        simp only [planRevision, hp] at hltPlan
        refine ⟨plan, rfl, ?_⟩
        rcases hr with hr | hr
        · obtain ⟨old, hold, hle⟩ := ih.plan r hr
          have hlt := hltPlan plan.revision rfl old hold
          rw [PositiveCounter.lt_iff] at hlt
          rw [PositiveCounter.le_iff] at hle ⊢
          omega
        · simp only [List.filterMap_cons, planRevision, hp, List.filterMap_nil,
            List.mem_singleton] at hr
          rw [hr, PositiveCounter.le_iff]
      | _ =>
        have hnone : ∀ r, r ∉ [event].filterMap planRevision := by simp [planRevision, hp]
        exact ih.plan r (hr.resolve_right (hnone r))
    · intro r hr
      simp only [hprogress]
      rw [List.filterMap_append, List.mem_append] at hr
      cases hp : event.payload with
      | progressUpdated progress =>
        simp only [progressRevision, hp] at hltProgress
        refine ⟨progress, rfl, ?_⟩
        rcases hr with hr | hr
        · obtain ⟨old, hold, hle⟩ := ih.progress r hr
          have hlt := hltProgress progress.revision rfl old hold
          rw [PositiveCounter.lt_iff] at hlt
          rw [PositiveCounter.le_iff] at hle ⊢
          omega
        · simp only [List.filterMap_cons, progressRevision, hp, List.filterMap_nil,
            List.mem_singleton] at hr
          rw [hr, PositiveCounter.le_iff]
      | _ =>
        have hnone : ∀ r, r ∉ [event].filterMap progressRevision := by simp [progressRevision, hp]
        exact ih.progress r (hr.resolve_right (hnone r))

theorem derivedFrom_initial {config : SessionAggregateConfig} {event : AgentEvent}
    {self : SessionAggregate} (h : fromInitialEventWithConfig event config = .ok self) :
    DerivedFrom self.session [event] self := by
  obtain ⟨-, session, hp, rfl⟩ := fromInitialEvent_ok h
  have hnone : ∀ (about ended query : AgentEvent → Prop), ¬ about event →
      ¬ ∃ x, LatestSince about ended [event] x ∧ query x := by
    intro about ended query ha hx
    rcases (exists_latestSince_snoc about ended query [] event).mp hx with ⟨ha', -⟩ | ⟨-, -, x, hx, -⟩
    · exact ha ha'
    · exact latestSince_nil about ended x hx
  constructor
  · intro id request
    exact iff_of_false (by simp) (hnone _ _ _ (by simp [AboutInteraction, hp]))
  · intro id call
    exact iff_of_false (by simp) (hnone _ _ _ (by simp [AboutToolCall, hp]))
  · intro plan
    exact iff_of_false (by simp) (hnone _ _ _ (by simp [UpdatesPlan, hp]))
  · intro progress
    exact iff_of_false (by simp) (hnone _ _ _ (by simp [UpdatesProgress, hp]))
  · simp [planRevision, hp]
  · simp [progressRevision, hp]
  · intro outcome
    exact iff_of_false (by simp) (hnone _ _ _ (by simp [EndsSession, hp]))
  · simp [advancesRevision, hp]

/-- One accepted event extends every query by that event. -/
theorem derivedFrom_applied {initial : AgentSession} {history : List AgentEvent}
    {self : SessionAggregate} {event : AgentEvent} (hbelow : RevisionsBelow history self)
    (hd : DerivedFrom initial history self) (ha : (self.apply event).2 = .ok .applied) :
    DerivedFrom initial (history ++ [event]) (self.apply event).1 := by
  obtain ⟨-, hok, heq⟩ := apply_applied ha
  obtain ⟨hplan, hprogress, houtcome, hrevision, hltPlan, hltProgress⟩ :=
    applyPayload_snapshots hok
  rw [heq]
  constructor
  · intro id request
    rw [exists_latestSince_snoc, ← hd.pending id request, applyPayload_pending hok id]
    cases hp : event.payload with
    | interactionRequested other =>
      by_cases hid : other.id = id <;> simp [AboutInteraction, EndsSession, hp, hid]
    | interactionResponded response =>
      by_cases hid : response.requestId = id <;> simp [AboutInteraction, EndsSession, hp, hid]
    | interactionClosed closed =>
      by_cases hid : closed.requestId = id <;> simp [AboutInteraction, EndsSession, hp, hid]
    | _ => simp [AboutInteraction, EndsSession, hp]
  · intro id call
    rw [exists_latestSince_snoc, ← hd.active id call, applyPayload_active hok id]
    cases hp : event.payload with
    | toolActivity activity =>
      cases activity with
      | started callId name summary =>
        by_cases hid : callId = id
        · cases call
          simp [AboutToolCall, hp, hid]
          grind
        · simp [AboutToolCall, EndsSession, hp, hid]
      | finished callId outcome summary =>
        by_cases hid : callId = id <;> simp [AboutToolCall, EndsSession, hp, hid]
    | _ => simp [AboutToolCall, EndsSession, hp]
  · intro plan
    rw [exists_latestSince_snoc, ← hd.plan plan]
    simp only [hplan]
    cases hp : event.payload <;> simp [UpdatesPlan, hp]
  · intro progress
    rw [exists_latestSince_snoc, ← hd.progress progress]
    simp only [hprogress]
    cases hp : event.payload <;> simp [UpdatesProgress, hp]
  · rw [List.filterMap_append, List.pairwise_append]
    refine ⟨hd.planRevisions, ?_, ?_⟩
    · cases hp : event.payload <;> simp [planRevision, hp]
    · intro r hr r' hr'
      obtain ⟨plan, hcurrent, hle⟩ := hbelow.plan r hr
      have hlt := hltPlan r' (by simpa using hr') plan hcurrent
      rw [PositiveCounter.le_iff] at hle
      rw [PositiveCounter.lt_iff] at hlt ⊢
      omega
  · rw [List.filterMap_append, List.pairwise_append]
    refine ⟨hd.progressRevisions, ?_, ?_⟩
    · cases hp : event.payload <;> simp [progressRevision, hp]
    · intro r hr r' hr'
      obtain ⟨progress, hcurrent, hle⟩ := hbelow.progress r hr
      have hlt := hltProgress r' (by simpa using hr') progress hcurrent
      rw [PositiveCounter.le_iff] at hle
      rw [PositiveCounter.lt_iff] at hlt ⊢
      omega
  · intro outcome
    rw [exists_latestSince_snoc, ← hd.outcome outcome]
    simp only [houtcome]
    cases hp : event.payload <;> simp [EndsSession, hp]
  · have hrev := hd.revision
    simp only [hrevision, List.countP_append, List.countP_singleton]
    omega

theorem reduces_derivedFrom {config : SessionAggregateConfig} {history : List AgentEvent}
    {self : SessionAggregate} (h : Reduces config history self) :
    ∃ event rest initial, history = event :: rest ∧ event.payload = .sessionStarted initial ∧
      DerivedFrom initial history self := by
  induction h with
  | @initial event self h =>
    have hd := derivedFrom_initial h
    obtain ⟨-, session, hp, rfl⟩ := fromInitialEvent_ok h
    exact ⟨event, [], session, rfl, hp, hd⟩
  | @applied history self event hr ha ih =>
    obtain ⟨first, rest, initial, rfl, hp, hd⟩ := ih
    have hbelow := reduces_revisionsBelow hr
    exact ⟨first, rest ++ [event], initial, rfl, hp, derivedFrom_applied hbelow hd ha⟩

theorem applyPayload_updatedAt_le (self : SessionAggregate) (event : AgentEvent) :
    self.session.updatedAt ≤ (self.applyPayload event).1.session.updatedAt := by
  have hlater := self.session.updatedAt_le_laterUpdate event.occurredAt
  have hrefl := Timestamp.le_refl self.session.updatedAt
  unfold applyPayload
  cases event.payload with
  | sessionStarted session => exact hrefl
  | message message => exact hrefl
  | commandIssued command => exact hrefl
  | stateChanged state =>
    cases self.nextSessionRevision with
    | error e => exact hrefl
    | ok revision => exact hlater
  | connectionChanged state =>
    cases self.nextSessionRevision with
    | error e => exact hrefl
    | ok revision => exact hlater
  | sessionEnded outcome =>
    cases self.nextSessionRevision with
    | error e => exact hrefl
    | ok revision => exact hlater
  | toolActivity activity =>
    cases activity <;> simp only [applyToolActivity] <;> split <;> exact hrefl
  | planUpdated plan => simp only; split <;> exact hrefl
  | progressUpdated progress => simp only; split <;> exact hrefl
  | interactionRequested request => simp only; split <;> exact hrefl
  | interactionResponded response =>
    simp only
    split
    · exact hrefl
    · split <;> exact hrefl
  | interactionClosed closed => simp only; split <;> exact hrefl

theorem apply_updatedAt_le (self : SessionAggregate) (event : AgentEvent) :
    self.session.updatedAt ≤ (self.apply event).1.session.updatedAt := by
  rcases apply_cases self event with ⟨-, he⟩ | ⟨e, he⟩ | ⟨-, -, he⟩
  · rw [he]
    exact Timestamp.le_refl _
  · rw [he]
    exact Timestamp.le_refl _
  · rw [he, recordEvent_eq]
    exact applyPayload_updatedAt_le self event

theorem final_updatedAt_le (self : SessionAggregate) (calls : List AgentEvent) :
    self.session.updatedAt ≤ (final apply self calls).session.updatedAt :=
  Trace.final_monotone apply (fun s t => s.session.updatedAt ≤ t.session.updatedAt)
    (fun _ => Timestamp.le_refl _) (fun _ _ _ => Timestamp.le_trans) apply_updatedAt_le self calls

/-- The aggregate after any calls is determined by the initial event and the
accepted calls, and the session's clock only moves forward. -/
theorem run_derivedFrom {initial : AgentEvent} {config : SessionAggregateConfig}
    {start : SessionAggregate} (h : fromInitialEventWithConfig initial config = .ok start)
    (calls : List AgentEvent) :
    DerivedFrom start.session (initial :: start.accepted calls) (final apply start calls) ∧
    (∀ earlier later, calls = earlier ++ later →
      (final apply start earlier).session.updatedAt ≤
        (final apply start calls).session.updatedAt) ∧
    (final apply start calls).session.createdAt ≤ (final apply start calls).session.updatedAt := by
  refine ⟨?_, ?_, (final apply start calls).session.ordered⟩
  · obtain ⟨first, rest, session, hcons, hp, hd⟩ := reduces_derivedFrom (reduces_of_run h calls)
    obtain ⟨-, session', hp', rfl⟩ := fromInitialEvent_ok h
    cases hcons
    rw [hp] at hp'
    cases hp'
    exact hd
  · rintro earlier later rfl
    rw [Trace.final_append]
    exact final_updatedAt_le _ later

theorem run_derivedFrom_stateChanged :
    ∃ start, fromInitialEventWithConfig (Sample.started 0 0) .retainAll = .ok start ∧
      DerivedFrom start.session
        (Sample.started 0 0 :: start.accepted [Sample.stateChanged 0 1 .running])
        (final apply start [Sample.stateChanged 0 1 .running]) :=
  ⟨_, rfl, (run_derivedFrom rfl [Sample.stateChanged 0 1 .running]).1⟩

end SessionAggregate

end AgentPulse
