import AgentPulse.CodexView

/-!
# A thread followed through its notifications

The mapping of a tracked thread against its view, on a host that takes every
event. Each part of a notification handler moves the mapping as it moves the
view, and publishes what is told of it.
-/
namespace AgentPulse

namespace Codex

open Std (ExtTreeMap ExtTreeSet)
open Program (Preserves Triple bind_apply)
open Serde (Json)

/-- The host takes every event. -/
def Commits {B : Type} (host : ProviderHost B) : Prop :=
  ∀ b event, committed (host.publishEvent b event).2 = true

/-- The payloads that are told: messages and the ends of turns. -/
def isTold : AgentEventPayload → Bool
  | .message _ => true
  | .sessionEnded _ => true
  | _ => false

def told (events : List AgentEvent) : List AgentEventPayload :=
  (events.map AgentEvent.payload).filter isTold

theorem told_snoc (events : List AgentEvent) (event : AgentEvent) :
    told (events ++ [event]) = told events ++ [event.payload].filter isTold := by
  rw [told, told, List.map_append, List.filter_append]
  rfl

namespace ThreadView

/-- The mapping has the fields of the view. -/
structure Describes (view : ThreadView) (mapping : ThreadMapping) : Prop where
  state : mapping.state = view.state
  connection : mapping.connection = view.connection
  activeTurnId : mapping.activeTurnId = view.activeTurnId
  lastMessage : mapping.lastMessage = view.lastMessage
  lastFinalMessage : mapping.lastFinalMessage = view.lastFinalMessage
  proposedPlan : mapping.proposedPlan = view.proposedPlan
  planReady : mapping.planReady = view.planReady

/-- The view after a published payload. -/
def published (self : ThreadView) (payload : AgentEventPayload) : ThreadView :=
  match payloadState payload with
  | .execution state => { self with state := state }
  | .connection connection => { self with connection := connection }
  | .none => self

/-- The payload that is published in place of this one. -/
def presentedPayload (self : ThreadView) (payload : AgentEventPayload) : AgentEventPayload :=
  if payload = .stateChanged .idle ∧ self.planReady then .stateChanged .waitingForInteraction
  else payload

theorem Describes.published {view : ThreadView} {mapping : ThreadMapping}
    (h : view.Describes mapping) (payload : AgentEventPayload) (next : EventSequence) :
    (view.published payload).Describes
      ((payloadState payload).apply { mapping with nextSequence := next }) := by
  unfold ThreadView.published PayloadState.apply
  obtain ⟨hstate, hconnection, hactive, hlast, hfinal, hplan, hready⟩ := h
  cases payloadState payload with
  | execution value => exact ⟨rfl, hconnection, hactive, hlast, hfinal, hplan, hready⟩
  | connection value => exact ⟨hstate, rfl, hactive, hlast, hfinal, hplan, hready⟩
  | none => exact ⟨hstate, hconnection, hactive, hlast, hfinal, hplan, hready⟩

end ThreadView

/-- The thread is tracked as the view says, and its numbers last for `budget`
more events after every open choice has been closed. -/
structure Follows (thread : String) (view : ThreadView) (budget : Nat) (m : CodexEventMapper) :
    Prop where
  configured : m.configured.contains thread = true
  tracked : ∃ mapping, m.threads[thread]? = some mapping ∧ view.Describes mapping ∧
    mapping.nextSequence.get + m.localChoices.size + budget < 2 ^ 64

/-- A state of the run in which the thread is followed and this has been told. -/
def Hears {B : Type} (thread : String) (view : ThreadView) (budget : Nat)
    (said : List AgentEventPayload) (s : MapperState (B × List AgentEvent)) : Prop :=
  Follows thread view budget s.mapper ∧ told s.host.2 = said

namespace Mapping

variable {B : Type} {host : ProviderHost B} {thread : String} {view view' : ThreadView}
  {budget : Nat} {said : List AgentEventPayload}

theorem follows_updateThread {m : CodexEventMapper} (h : Follows thread view budget m)
    {f : ThreadMapping → ThreadMapping}
    (hview : ∀ mapping, view.Describes mapping → view'.Describes (f mapping))
    (hsequence : ∀ mapping, (f mapping).nextSequence = mapping.nextSequence) :
    Follows thread view' budget (m.updateThread thread f) := by
  obtain ⟨hconfigured, mapping, hmapping, hdescribes, hroom⟩ := h
  have hrest : (m.updateThread thread f).configured = m.configured ∧
      (m.updateThread thread f).localChoices = m.localChoices := by
    unfold CodexEventMapper.updateThread
    split <;> exact ⟨rfl, rfl⟩
  refine ⟨by rw [hrest.1]; exact hconfigured, f mapping, ?_, hview mapping hdescribes, ?_⟩
  · rw [CodexEventMapper.threads_updateThread, if_pos rfl, hmapping]
    rfl
  · rw [hsequence, hrest.2]
    exact hroom

theorem follows_spend {m : CodexEventMapper} {more : Nat} (h : Follows thread view budget m)
    (hmore : more ≤ budget) : Follows thread view more m := by
  obtain ⟨hconfigured, mapping, hmapping, hdescribes, hroom⟩ := h
  exact ⟨hconfigured, mapping, hmapping, hdescribes, by omega⟩

/-- The keys of the view are not part of the mapping. -/
theorem hears_keys {s : MapperState (B × List AgentEvent)} (h : Hears thread view budget said s)
    (keys : List String) : Hears thread { view with keys := keys } budget said s := by
  obtain ⟨⟨hconfigured, mapping, hmapping, hdescribes, hroom⟩, hsaid⟩ := h
  obtain ⟨hstate, hconnection, hactive, hlast, hfinal, hplan, hready⟩ := hdescribes
  exact ⟨⟨hconfigured, mapping, hmapping,
    ⟨hstate, hconnection, hactive, hlast, hfinal, hplan, hready⟩, hroom⟩, hsaid⟩

theorem triple_trackedThread_follows :
    Triple (Hears thread view budget said)
      (trackedThread thread : Mapping (B × List AgentEvent) ThreadMapping)
      (fun mapping s => Hears thread view budget said s ∧ view.Describes mapping)
      fun _ _ => False where
  returns s mapping s' hs h := by
    obtain ⟨hmapping, rfl⟩ := trackedThread_eq_ok h
    obtain ⟨found, hfound, hdescribes, -⟩ := hs.1.tracked
    rw [hmapping] at hfound
    cases hfound
    exact ⟨hs, hdescribes⟩
  fails s e s' hs h := by
    obtain ⟨mapping, hmapping, -⟩ := hs.1.tracked
    rw [trackedThread_of_some hmapping] at h
    cases h

theorem triple_nowUtc : Triple (Hears thread view budget said) (nowUtc (recording host))
    (fun _ => Hears thread view budget said) fun _ _ => False :=
  Triple.update fun _ hs => hs

/-- A host that takes every event leaves nothing to fail. -/
theorem publishTracked_commits (hcommits : Commits host) (occurredAt : Timestamp)
    (payload : AgentEventPayload) {s : MapperState (B × List AgentEvent)} {mapping : ThreadMapping}
    (hmapping : s.mapper.threads[thread]? = some mapping)
    (hroom : mapping.nextSequence.get + 1 < 2 ^ 64)
    (hsame : payload.embeddedSessionId.getD mapping.sessionId = mapping.sessionId) :
    ∃ event b next, event.payload = payload ∧ next.get = mapping.nextSequence.get + 1 ∧
      publishTracked (recording host) thread occurredAt payload s =
        (.ok (), ⟨advance thread payload next s.mapper, b, s.host.2 ++ [event]⟩) := by
  unfold publishTracked
  rw [Program.bind_of_ok (trackedThread_of_some hmapping)]
  have hdrawn : newId (recording host) .event s =
      (.ok (host.newId .event s.host.1).1, ⟨s.mapper, (host.newId .event s.host.1).2, s.host.2⟩) :=
    rfl
  obtain ⟨event, hnew⟩ : ∃ event, domain (AgentEvent.new (host.newId .event s.host.1).1
      mapping.sessionId mapping.nextSequence occurredAt payload) = .ok event := by
    unfold AgentEvent.new
    split
    · exact ⟨_, rfl⟩
    · next embedded hembedded =>
      rw [hembedded, Option.getD_some] at hsame
      rw [dif_pos hsame]
      exact ⟨_, rfl⟩
  obtain ⟨-, -, hpayload⟩ := event_of_new hnew
  have hnext : mapping.nextSequence.checkedNext =
      some ⟨mapping.nextSequence.get + 1, by omega, hroom⟩ := dif_pos hroom
  rw [Program.bind_of_ok hdrawn, bind_apply, Program.ofExcept, hnew]
  rcases publishCommitted_apply host event
      ⟨s.mapper, (host.newId .event s.host.1).2, s.host.2⟩ with ⟨e, b, -, hrefused⟩ | ⟨b, hok⟩
  · rw [hcommits] at hrefused
    cases hrefused
  · have hfound : (trackedThread thread : Mapping (B × List AgentEvent) ThreadMapping)
        ⟨s.mapper, b, s.host.2 ++ [event]⟩ = (.ok mapping, ⟨s.mapper, b, s.host.2 ++ [event]⟩) :=
      trackedThread_of_some hmapping
    dsimp only
    rw [Program.bind_of_ok hok, Program.bind_of_ok hfound, hnext]
    exact ⟨event, b, _, hpayload, rfl, rfl⟩

theorem follows_advance {m : CodexEventMapper} {payload : AgentEventPayload} {next : EventSequence}
    {mapping : ThreadMapping} (hconfigured : m.configured.contains thread = true)
    (hmapping : m.threads[thread]? = some mapping) (hdescribes : view.Describes mapping)
    (hroom : next.get + m.localChoices.size + budget < 2 ^ 64) :
    Follows thread (view.published payload) budget (advance thread payload next m) := by
  have hrest : (advance thread payload next m).configured = m.configured ∧
      (advance thread payload next m).localChoices = m.localChoices := by
    unfold advance CodexEventMapper.updateThread
    split <;> exact ⟨rfl, rfl⟩
  refine ⟨by rw [hrest.1]; exact hconfigured,
    (payloadState payload).apply { mapping with nextSequence := next }, ?_,
    hdescribes.published payload next, ?_⟩
  · rw [advance, CodexEventMapper.threads_updateThread, if_pos rfl, hmapping]
    rfl
  · have hsequence : ((payloadState payload).apply
        { mapping with nextSequence := next }).nextSequence = next := by
      unfold PayloadState.apply
      cases payloadState payload <;> rfl
    rw [hsequence, hrest.2]
    exact hroom

theorem triple_publishTracked (hcommits : Commits host) (occurredAt : Timestamp)
    {payload : AgentEventPayload} (hfree : payload.embeddedSessionId = none) :
    Triple (Hears thread view (budget + 1) said)
      (publishTracked (recording host) thread occurredAt payload)
      (fun _ => Hears thread (view.published payload) budget (said ++ [payload].filter isTold))
      fun _ _ => False := by
  have hreturns : ∀ s, Hears thread view (budget + 1) said s →
      ∃ s', publishTracked (recording host) thread occurredAt payload s = (.ok (), s') ∧
        Hears thread (view.published payload) budget (said ++ [payload].filter isTold) s' := by
    rintro s ⟨⟨hconfigured, mapping, hmapping, hdescribes, hroom⟩, hsaid⟩
    obtain ⟨event, b, next, hpayload, hnext, hrun⟩ := publishTracked_commits hcommits
      occurredAt payload hmapping (by omega) (by rw [hfree]; rfl)
    refine ⟨_, hrun, follows_advance hconfigured hmapping hdescribes (by omega), ?_⟩
    rw [told_snoc, hsaid, hpayload]
  constructor
  · intro s _ s' hs h
    obtain ⟨t, hrun, ht⟩ := hreturns s hs
    rw [hrun] at h
    cases h
    exact ht
  · intro s e s' hs h
    obtain ⟨t, hrun, -⟩ := hreturns s hs
    rw [hrun] at h
    cases h

/-- Each of the choices that is still open belongs to the thread. -/
def Owns (thread : String) (ids : List InteractionId) (m : CodexEventMapper) : Prop :=
  ∀ id ∈ ids, ∀ choice, m.localChoices[id]? = some choice → choice.1 = thread

theorem size_erase_of_getElem? {m : CodexEventMapper} {id : InteractionId} {choice : String × Bool}
    (h : m.localChoices[id]? = some choice) :
    (m.localChoices.erase id).size + 1 = m.localChoices.size := by
  have hcontains : m.localChoices.contains id = true := by
    rw [ExtTreeMap.contains_eq_isSome_getElem?, h]
    rfl
  have hpositive : m.localChoices.size ≠ 0 := by
    intro hzero
    rw [← ExtTreeMap.eq_empty_iff_size_eq_zero] at hzero
    rw [hzero] at h
    simp at h
  rw [ExtTreeMap.size_erase, if_pos hcontains]
  omega

/-- The number that a closing takes is the one that the choice leaves free. -/
theorem closeLocalChoice_follows (hcommits : Commits host) {id : InteractionId}
    {s : MapperState (B × List AgentEvent)} (hs : Hears thread view budget said s)
    (howns : ∀ choice, s.mapper.localChoices[id]? = some choice → choice.1 = thread) :
    ∃ s', closeLocalChoice (recording host) id s = (.ok (), s') ∧
      Hears thread view budget said s' ∧
      ∀ (other : InteractionId) (choice : String × Bool),
        s'.mapper.localChoices[other]? = some choice →
        s.mapper.localChoices[other]? = some choice := by
  unfold closeLocalChoice
  rw [bind_apply, Program.reads]
  cases hchoice : s.mapper.localChoices[id]? with
  | none => exact ⟨s, by simp only [Program.pure_apply], hs, fun _ _ h => h⟩
  | some choice =>
    obtain ⟨owner, plan⟩ := choice
    obtain rfl : owner = thread := howns _ hchoice
    obtain ⟨⟨hconfigured, mapping, hmapping, hdescribes, hroom⟩, hsaid⟩ := hs
    have hsize := size_erase_of_getElem? hchoice
    let closed : CodexEventMapper :=
      { s.mapper with localChoices := s.mapper.localChoices.erase id }
    let payload : AgentEventPayload :=
      .interactionClosed ⟨id, mapping.sessionId, .providerCancelled⟩
    obtain ⟨event, b, next, hpayload, hnext, hrun⟩ := publishTracked_commits hcommits
      (host.nowUtc s.host.1).1 payload (s := ⟨closed, ((host.nowUtc s.host.1).2, s.host.2)⟩)
      hmapping (by omega) rfl
    refine ⟨⟨advance owner payload next closed, b, s.host.2 ++ [event]⟩, ?_, ⟨?_, ?_⟩, ?_⟩
    · simp only [bind_apply, onMapper, Program.modify, Program.reads, hmapping]
      exact hrun
    · have hadvanced : Follows owner (view.published payload) budget
          (advance owner payload next closed) :=
        follows_advance hconfigured hmapping hdescribes (by
          show next.get + (s.mapper.localChoices.erase id).size + budget < 2 ^ 64
          omega)
      exact hadvanced
    · rw [told_snoc, hsaid, hpayload]
      exact List.append_nil said
    · intro other choice hother
      have hchoices : (advance owner payload next closed).localChoices =
          s.mapper.localChoices.erase id := by
        unfold advance CodexEventMapper.updateThread
        split <;> rfl
      simp only [hchoices, OrderedMap.getElem?_erase] at hother
      split at hother
      · cases hother
      · exact hother

theorem triple_closeLocalChoices (hcommits : Commits host) :
    Triple (Hears thread view budget said) (closeLocalChoices (recording host) thread)
      (fun _ => Hears thread view budget said) fun _ _ => False := by
  have hloop : ∀ ids : List InteractionId,
      Triple (fun s => Hears thread view budget said s ∧ Owns thread ids s.mapper)
        (Program.forEach (closeLocalChoice (recording host)) ids)
        (fun _ s => Hears thread view budget said s ∧ Owns thread [] s.mapper)
        fun _ _ => False := by
    refine Triple.forEach (I := fun ids s =>
      Hears thread view budget said s ∧ Owns thread ids s.mapper) ?_
    intro id rest
    have hbody : ∀ s : MapperState (B × List AgentEvent), Hears thread view budget said s ∧
        Owns thread (id :: rest) s.mapper →
        ∃ s', closeLocalChoice (recording host) id s = (.ok (), s') ∧
          Hears thread view budget said s' ∧ Owns thread rest s'.mapper := by
      rintro s ⟨hs, howns⟩
      obtain ⟨s', hrun, hs', hkept⟩ := closeLocalChoice_follows hcommits hs
        fun choice => howns id List.mem_cons_self choice
      exact ⟨s', hrun, hs', fun other hother choice hchoice =>
        howns other (List.mem_cons_of_mem _ hother) choice (hkept other choice hchoice)⟩
    constructor
    · intro s u s' hs h
      obtain ⟨t, hrun, ht⟩ := hbody s hs
      rw [hrun] at h
      cases h
      exact ht
    · intro s e s' hs h
      obtain ⟨t, hrun, -⟩ := hbody s hs
      rw [hrun] at h
      cases h
  refine Triple.bind (Q := fun ids (s : MapperState (B × List AgentEvent)) =>
    Hears thread view budget said s ∧ Owns thread ids s.mapper) (Triple.reads ?_) fun ids =>
      (hloop ids).weaken (fun _ hs => hs) (fun _ _ hs => hs.1) fun _ _ hs => hs
  intro s hs
  refine ⟨hs, ?_⟩
  intro id hid choice hchoice
  obtain ⟨⟨found, owner, plan⟩, hmem, rfl⟩ := List.mem_map.mp hid
  obtain ⟨hlisted, howner⟩ := List.mem_filter.mp hmem
  have hget : s.mapper.localChoices[found]? = some (owner, plan) :=
    ExtTreeMap.mem_toList_iff_getElem?_eq_some.mp hlisted
  simp only at hchoice
  rw [hget] at hchoice
  cases hchoice
  simpa using howner

theorem hasPlan_of_follows {m : CodexEventMapper} (h : Follows thread view budget m) :
    m.hasPlan thread = view.planReady := by
  obtain ⟨mapping, hmapping, hdescribes, -⟩ := h.tracked
  rw [CodexEventMapper.hasPlan, hmapping]
  exact hdescribes.planReady

theorem activeTurn_of_follows {m : CodexEventMapper} (h : Follows thread view budget m) :
    m.threads[thread]?.bind ThreadMapping.activeTurnId = view.activeTurnId := by
  obtain ⟨mapping, hmapping, hdescribes, -⟩ := h.tracked
  rw [hmapping]
  exact hdescribes.activeTurnId

theorem triple_publishPayload (hcommits : Commits host) (occurredAt : Timestamp)
    {payload : AgentEventPayload} (hfree : payload.embeddedSessionId = none) :
    Triple (Hears thread view (budget + 1) said)
      (publishPayload (recording host) thread occurredAt payload)
      (fun _ => Hears thread (view.published (view.presentedPayload payload)) budget
        (said ++ [view.presentedPayload payload].filter isTold))
      fun _ _ => False := by
  have hpresented : (view.presentedPayload payload).embeddedSessionId = none := by
    unfold ThreadView.presentedPayload
    split
    · rfl
    · exact hfree
  refine Triple.bind (Q := fun shown s => shown = view.presentedPayload payload ∧
    Hears thread view (budget + 1) said s) (Triple.reads ?_) ?_
  · intro s hs
    refine ⟨?_, hs⟩
    unfold Mapping.presentedPayload ThreadView.presentedPayload
    rw [hasPlan_of_follows hs.1]
  · intro shown
    refine Triple.of_fact (fun s hs => hs.1) ?_
    rintro rfl
    refine Triple.bind (Q := fun _ => Hears thread view (budget + 1) said) ?_ fun _ =>
      triple_publishTracked hcommits occurredAt hpresented
    refine Triple.ite (fun _ => ?_) fun _ => Triple.pure fun s hs => hs.2
    exact (triple_closeLocalChoices hcommits).weaken (fun _ hs => hs.2) (fun _ _ hs => hs)
      fun _ _ hs => hs

/-- The same for a payload that is published as it is and not told. -/
theorem triple_publishNow (hcommits : Commits host) {payload : AgentEventPayload}
    (hfree : payload.embeddedSessionId = none) (hsilent : isTold payload = false)
    (hshown : view.presentedPayload payload = payload) :
    Triple (Hears thread view (budget + 1) said)
      (nowUtc (recording host) >>= fun now => publishPayload (recording host) thread now payload)
      (fun _ => Hears thread (view.published payload) budget said) fun _ _ => False := by
  refine Triple.bind triple_nowUtc fun now => ?_
  refine (triple_publishPayload hcommits now hfree).weaken (fun _ hs => hs) ?_ fun _ _ hs => hs
  intro _ s hs
  rw [hshown, List.filter_cons_of_neg (by rw [hsilent]; simp), List.filter_nil,
    List.append_nil] at hs
  exact hs

theorem triple_onMapping {f : ThreadMapping → ThreadMapping}
    (hview : ∀ mapping, view.Describes mapping → view'.Describes (f mapping))
    (hsequence : ∀ mapping, (f mapping).nextSequence = mapping.nextSequence) :
    Triple (Hears thread view budget said)
      (onMapper fun m => m.updateThread thread f : Mapping (B × List AgentEvent) Unit)
      (fun _ => Hears thread view' budget said) fun _ _ => False :=
  Triple.modify fun _ hs => ⟨follows_updateThread hs.1 hview hsequence, hs.2⟩

theorem triple_onItems (f : CodexEventMapper → ExtTreeMap ItemKey Value) :
    Triple (Hears thread view budget said)
      (onMapper fun m => { m with items := f m } : Mapping (B × List AgentEvent) Unit)
      (fun _ => Hears thread view budget said) fun _ _ => False :=
  Triple.modify fun _ hs => ⟨⟨hs.1.configured, hs.1.tracked⟩, hs.2⟩

theorem triple_ensureActiveTurn_follows {turn : String}
    (hfits : view.activeTurnId = none ∨ view.activeTurnId = some turn) :
    Triple (Hears thread view budget said)
      (ensureActiveTurn thread turn : Mapping (B × List AgentEvent) Unit)
      (fun _ => Hears thread { view with activeTurnId := some turn } budget said)
      fun _ _ => False := by
  refine Triple.bind triple_trackedThread_follows ?_
  intro mapping
  refine Triple.of_fact (fun s hs => hs.2) ?_
  intro hdescribes
  have hactive := hdescribes.activeTurnId
  rcases hfits with hnone | hsome
  · rw [hnone] at hactive
    simp only [hactive]
    have htaken : Triple (Hears thread view budget said)
        (onMapper fun m => m.updateThread thread fun mapping =>
          { mapping with activeTurnId := some turn } : Mapping (B × List AgentEvent) Unit)
        (fun _ => Hears thread { view with activeTurnId := some turn } budget said)
        fun _ _ => False := by
      refine triple_onMapping ?_ fun _ => rfl
      rintro mapping ⟨hstate, hconnection, -, hlast, hfinal, hplan, hready⟩
      exact ⟨hstate, hconnection, rfl, hlast, hfinal, hplan, hready⟩
    exact htaken.weaken (fun _ hs => hs.1) (fun _ _ hs => hs) fun _ _ hs => hs
  · rw [hsome] at hactive
    simp only [hactive, ne_eq, not_true_eq_false, if_false]
    have hsame : { view with activeTurnId := some turn } = view := by rw [← hsome]
    rw [hsame]
    exact Triple.pure fun _ hs => hs.1

/-- An instant that the calendar has, or none. -/
def Datable (multiplier : Int) (value : Option Int) : Prop :=
  ∀ instant ∈ value, ∃ at_, timestampWithMultiplier instant multiplier = .ok at_

theorem triple_timestampOr {value : Option Int} {multiplier : Int}
    (h : Datable multiplier value) :
    Triple (Hears thread view budget said) (timestampOr (recording host) value multiplier)
      (fun _ => Hears thread view budget said) fun _ _ => False := by
  cases value with
  | none => exact triple_nowUtc
  | some instant =>
    obtain ⟨found, hfound⟩ := h instant rfl
    simp only [timestampOr, hfound]
    exact Triple.pure fun _ hs => hs

end Mapping

/-- The loaded state that a status names; a thread that is not loaded has none. -/
def SaysStatus (statusValue : Value) : Option AgentState → Prop
  | none => stringField statusValue "type" = .ok "notLoaded"
  | some loaded => (∃ kind, stringField statusValue "type" = .ok kind ∧ kind ≠ "notLoaded") ∧
      mapLoadedState statusValue = .ok loaded

/-- The text of a completed item of this type. -/
structure SaysText (params item : Value) (kind : String) (text : ItemText) : Prop where
  shown : kind = "agentMessage" ∨ kind = "plan"
  content : stringField item "text" = .ok text.content.asStr
  plan : text.plan = decide (kind = "plan")
  final : text.final = decide ((item.get "phase").bind Json.asStr = some "final_answer")
  instant : ∃ value, i64Field params "completedAtMs" = .ok value ∧
    Mapping.Datable 1000000 (some value)

/-- An item of another type, or one without a readable text, says nothing. -/
def SaysItem (params item : Value) (kind : String) : Option ItemText → Prop
  | some text => SaysText params item kind text
  | none => kind ≠ "agentMessage" ∧ kind ≠ "plan" ∨
      ∃ text, stringField item "text" = .ok text ∧ isBlank text = true

/-- How a turn ended, by its status. -/
def SaysEnding (turn : Value) (status : String) : TurnEnding → Prop
  | .completed => status = "completed"
  | .interrupted => status = "interrupted"
  | .failed error => status = "failed" ∧
      NonEmptyText.new (((((turn.get "error").bind fun error => error.get "message").bind
        Json.asStr).filter fun text => !isBlank text).getD "Codex turn failed") = .ok error

/-- The fields of a notification that are read, all of the types that its schema
gives them, with instants that the calendar has. A completed turn is not
reported as running. -/
inductive Says (thread : String) : String → Value → ThreadReport → Prop where
  | status {params statusValue : Value} {loaded : Option AgentState} :
      Mapping.notificationThread params = some thread → Mapping.notificationTurn params = none →
      objectField params "status" = .ok statusValue → SaysStatus statusValue loaded →
      Says thread "thread/status/changed" params (.status loaded)
  | turnStarted {params turnValue : Value} {turn : String} {startedAt : Option Int} :
      Mapping.notificationThread params = some thread →
      Mapping.notificationTurn params = some turn → objectField params "turn" = .ok turnValue →
      stringField turnValue "id" = .ok turn → optionalI64Field turnValue "startedAt" = .ok startedAt →
      Mapping.Datable 1000000000 startedAt → Says thread "turn/started" params (.turnStarted turn)
  | itemStarted {params itemValue : Value} {turn item : String} :
      Mapping.notificationThread params = some thread → stringField params "turnId" = .ok turn →
      objectField params "item" = .ok itemValue → stringField itemValue "id" = .ok item →
      Says thread "item/started" params (.itemStarted turn)
  | itemCompleted {params itemValue : Value} {turn item kind : String} {text : Option ItemText} :
      Mapping.notificationThread params = some thread → stringField params "turnId" = .ok turn →
      objectField params "item" = .ok itemValue → stringField itemValue "id" = .ok item →
      stringField itemValue "type" = .ok kind → SaysItem params itemValue kind text →
      Says thread "item/completed" params (.itemCompleted turn item text)
  | turnCompleted {params turnValue : Value} {turn status : String} {completedAt : Option Int}
      {ending : TurnEnding} : Mapping.notificationThread params = some thread →
      Mapping.notificationTurn params = some turn → objectField params "turn" = .ok turnValue →
      stringField turnValue "id" = .ok turn → stringField turnValue "status" = .ok status →
      optionalI64Field turnValue "completedAt" = .ok completedAt →
      Mapping.Datable 1000000000 completedAt → SaysEnding turnValue status ending →
      Says thread "turn/completed" params (.turnCompleted turn ending)

namespace Mapping

variable {B : Type} {host : ProviderHost B} {thread : String} {view view' : ThreadView}
  {budget : Nat} {said : List AgentEventPayload}

theorem triple_ofExcept_ok {α β : Type} {value : Except CodexProviderSourceError α} {a : α}
    (h : value = .ok a) {P : MapperState B → Prop} {f : α → Mapping B β}
    {Q : β → MapperState B → Prop} {E : CodexProviderSourceError → MapperState B → Prop}
    (hf : Triple P (f a) Q E) : Triple P (Program.ofExcept value >>= f) Q E := by
  rw [Program.ofExcept_ok_bind h]
  exact hf

theorem triple_disconnectThread (hcommits : Commits host) :
    Triple (Hears thread view (budget + 1) said) (disconnectThread (recording host) thread)
      (fun _ => Hears thread { view with connection := .disconnected } budget said)
      fun _ _ => False := by
  refine Triple.bind (Q := fun found s => Hears thread view (budget + 1) said s ∧
    (found.any fun mapping => mapping.connection = .disconnected) =
      decide (view.connection = .disconnected)) (Triple.reads ?_) ?_
  · intro s hs
    obtain ⟨mapping, hmapping, hdescribes, -⟩ := hs.1.tracked
    refine ⟨hs, ?_⟩
    rw [hmapping, Option.any_some, hdescribes.connection]
  · intro found
    refine Triple.of_fact (fun s hs => hs.2) ?_
    intro hfound
    rw [hfound]
    refine Triple.ite ?_ fun _ => ?_
    · intro halready
      have hsame : { view with connection := .disconnected } = view := by
        rw [← of_decide_eq_true halready]
      rw [hsame]
      exact Triple.pure fun s hs => ⟨follows_spend hs.1.1 (Nat.le_succ budget), hs.1.2⟩
    · have hnow : Triple (Hears thread view (budget + 1) said)
          (nowUtc (recording host) >>= fun now =>
            publishPayload (recording host) thread now (.connectionChanged .disconnected))
          (fun _ => Hears thread (view.published (.connectionChanged .disconnected)) budget said)
          fun _ _ => False :=
        triple_publishNow hcommits rfl rfl (if_neg (by simp))
      have hpublished : Triple (Hears thread view (budget + 1) said)
          (nowUtc (recording host) >>= fun now =>
            publishPayload (recording host) thread now (.connectionChanged .disconnected) >>=
              fun _ => (pure .mapped : Mapping (B × List AgentEvent) MappingDisposition))
          (fun _ => Hears thread { view with connection := .disconnected } budget said)
          fun _ _ => False := by
        rw [← Program.bind_assoc]
        exact Triple.bind hnow fun _ => Triple.pure fun _ hs => hs
      exact hpublished.weaken (fun _ hs => hs.1) (fun _ _ hs => hs) fun _ _ hs => hs

theorem triple_spend {P : Prop} [Decidable P] {x : Mapping (B × List AgentEvent) Unit}
    (hx : P → Triple (Hears thread view (budget + 1) said) x
      (fun _ => Hears thread view' budget said) fun _ _ => False)
    (hsame : ¬ P → view' = view) :
    Triple (Hears thread view (budget + 1) said) (Program.when P x)
      (fun _ => Hears thread view' budget said) fun _ _ => False := by
  refine Triple.ite hx fun hnot => ?_
  rw [hsame hnot]
  exact Triple.pure fun s hs => ⟨follows_spend hs.1 (Nat.le_succ budget), hs.2⟩

/-- A status moves the connection first and then the state, as far as they differ. -/
theorem triple_statusChanged (hcommits : Commits host) {statusValue : Value}
    {loaded : Option AgentState} (hsaid : SaysStatus statusValue loaded) :
    Triple (Hears thread view (budget + 2) said) (statusChanged (recording host) thread statusValue)
      (fun _ => Hears thread (view.hear thread (.status loaded)) budget
        (said ++ view.tells thread (.status loaded)))
      fun _ _ => False := by
  have htells : said ++ view.tells thread (.status loaded) = said := by
    simp [ThreadView.tells]
  have hheard : ¬ view.Ignores thread (.status loaded) := by
    simp [ThreadView.Ignores, ThreadView.Drops, ThreadView.Fits, ThreadView.Restarts,
      ThreadReport.turn, ThreadReport.subject]
  rw [htells]
  unfold statusChanged
  cases loaded with
  | none =>
    refine triple_ofExcept_ok hsaid ?_
    rw [if_pos rfl]
    have hhear : view.hear thread (.status none) = { view with connection := .disconnected } := by
      simp only [ThreadView.hear, if_neg hheard, ThreadView.takes, ThreadView.shows,
        ThreadView.connects, Option.map_none, Option.getD_none, Option.getD_some]
    rw [hhear]
    exact (triple_disconnectThread hcommits).weaken
      (fun s hs => ⟨follows_spend hs.1 (Nat.le_succ _), hs.2⟩)
      (fun _ s hs => hs) fun _ _ hs => hs
  | some loaded =>
    obtain ⟨⟨kind, hkind, hother⟩, hloaded⟩ := hsaid
    have hhear : view.hear thread (.status (some loaded)) =
        { view with
          state := view.presented loaded
          connection := .connected } := by
      simp only [ThreadView.hear, if_neg hheard, ThreadView.takes, ThreadView.shows,
        ThreadView.connects, Option.map_some, Option.getD_some]
    rw [hhear]
    refine triple_ofExcept_ok hkind ?_
    rw [if_neg hother]
    refine triple_ofExcept_ok hloaded ?_
    refine Triple.bind (Q := fun waiting s => waiting = view.planReady ∧
      Hears thread view (budget + 2) said s)
      (Triple.reads fun s hs => ⟨hasPlan_of_follows hs.1, hs⟩) ?_
    intro waiting
    refine Triple.of_fact (fun s hs => hs.1) ?_
    rintro rfl
    refine Triple.bind (triple_trackedThread_follows.weaken (fun s hs => hs.2)
      (fun _ _ hs => hs) fun _ _ hs => hs) ?_
    intro mapping
    refine Triple.of_fact (fun s hs => hs.2) ?_
    intro hdescribes
    have hstate : (if loaded = .idle ∧ view.planReady = true then
        AgentState.waitingForInteraction else loaded) = view.presented loaded := rfl
    rw [hstate, hdescribes.connection, hdescribes.state]
    have hconnect : Triple (Hears thread view (budget + 2) said)
        (Program.when (view.connection ≠ .connected) (nowUtc (recording host) >>= fun now =>
          publishPayload (recording host) thread now (.connectionChanged .connected)))
        (fun _ => Hears thread { view with connection := .connected } (budget + 1) said)
        fun _ _ => False := by
      refine triple_spend (fun _ => triple_publishNow hcommits rfl rfl (if_neg (by simp))) ?_
      intro hsame
      rw [← not_not.mp hsame]
    have hshow : Triple (Hears thread { view with connection := .connected } (budget + 1) said)
        (Program.when (view.state ≠ view.presented loaded) (nowUtc (recording host) >>= fun now =>
          publishPayload (recording host) thread now (.stateChanged (view.presented loaded))))
        (fun _ => Hears thread { view with
          state := view.presented loaded
          connection := .connected } budget said)
        fun _ _ => False := by
      refine triple_spend (fun _ => triple_publishNow hcommits rfl rfl (if_neg ?_)) ?_
      · -- an idle thread with a plan is not presented as idle
        rintro ⟨hidle, hplan⟩
        unfold ThreadView.presented at hidle
        split at hidle
        · cases hidle
        · next hnot => exact hnot ⟨AgentEventPayload.stateChanged.inj hidle, hplan⟩
      · intro hsame
        rw [← not_not.mp hsame]
    refine Triple.bind (hconnect.weaken (fun s hs => hs.1) (fun _ _ hs => hs)
      fun _ _ hs => hs) fun _ => ?_
    exact Triple.bind hshow fun _ => Triple.pure fun _ hs => hs

/-- A turn that starts again, or on an idle thread. -/
theorem triple_turnStarted (hcommits : Commits host) {params turnValue : Value} {turn : String}
    {startedAt : Option Int} (hvalue : objectField params "turn" = .ok turnValue)
    (hid : stringField turnValue "id" = .ok turn)
    (hstarted : optionalI64Field turnValue "startedAt" = .ok startedAt)
    (hdatable : Datable 1000000000 startedAt)
    (hdrops : ¬ view.Drops thread (.turnStarted turn)) (hfits : view.Fits (.turnStarted turn)) :
    Triple (Hears thread view (budget + 2) said) (turnStarted (recording host) thread params)
      (fun d s => Hears thread (view.hear thread (.turnStarted turn)) budget
          (said ++ view.tells thread (.turnStarted turn)) s ∧
        (d = .mapped ↔ ¬ view.Ignores thread (.turnStarted turn) ∧ view.state ≠ .running))
      fun _ _ => False := by
  have htells : said ++ view.tells thread (.turnStarted turn) = said := by
    simp [ThreadView.tells]
  rw [htells]
  unfold turnStarted
  refine triple_ofExcept_ok hvalue (triple_ofExcept_ok hid ?_)
  refine Triple.bind (Q := fun current s => current = view.activeTurnId ∧
    Hears thread view (budget + 2) said s)
    (Triple.reads fun s hs => ⟨activeTurn_of_follows hs.1, hs⟩) ?_
  intro current
  refine Triple.of_fact (fun s hs => hs.1) ?_
  rintro rfl
  refine Triple.bind (Q := fun _ => Hears thread view (budget + 2) said) ?_ ?_
  · refine Triple.ite (fun _ => ?_) fun _ => Triple.pure fun s hs => hs.2
    exact (triple_closeLocalChoices hcommits).weaken (fun _ hs => hs.2) (fun _ _ hs => hs)
      fun _ _ hs => hs
  intro _
  refine triple_ofExcept_ok hstarted ?_
  refine Triple.bind (triple_timestampOr hdatable) ?_
  intro timestamp
  refine Triple.bind triple_trackedThread_follows ?_
  intro mapping
  refine Triple.of_fact (fun s hs => hs.2) ?_
  intro hdescribes
  rw [hdescribes.activeTurnId, hdescribes.state]
  refine Triple.ite ?_ ?_
  · intro hagain
    have hignored : view.Ignores thread (.turnStarted turn) := .inr (.inr hagain)
    have hhear : view.hear thread (.turnStarted turn) = view := by
      simp only [ThreadView.hear, if_pos hignored, ThreadView.shows, ThreadView.connects,
        Option.getD_none]
    rw [hhear]
    exact Triple.pure fun s hs => ⟨⟨follows_spend hs.1.1 (by omega), hs.1.2⟩,
      by simp [hignored]⟩
  · intro hother
    have hnone : view.activeTurnId = none := (hfits turn rfl).resolve_right hother
    have hheard : ¬ view.Ignores thread (.turnStarted turn) := by
      rintro (h | h | h)
      · exact hdrops h
      · exact h hfits
      · exact hother h
    let taken : ThreadView :=
      { view with
        activeTurnId := some turn
        lastMessage := none
        lastFinalMessage := none
        proposedPlan := none
        planReady := false }
    have hhear : view.hear thread (.turnStarted turn) =
        { (view.takes thread (.turnStarted turn)) with state := .running } := by
      simp only [ThreadView.hear, if_neg hheard, ThreadView.shows, ThreadView.connects,
        Option.getD_none, Option.getD_some]
      rfl
    rw [hnone]
    have htaken : Triple (Hears thread view (budget + 1) said)
        (onMapper fun m => m.updateThread thread fun mapping =>
          { mapping with
            activeTurnId := some turn
            lastMessage := none
            lastFinalMessage := none
            proposedPlan := none
            planReady := false } : Mapping (B × List AgentEvent) Unit)
        (fun _ => Hears thread taken (budget + 1) said) fun _ _ => False := by
      refine triple_onMapping ?_ fun _ => rfl
      rintro mapping ⟨hstate, hconnection, -, -, -, -, -⟩
      exact ⟨hstate, hconnection, rfl, rfl, rfl, rfl, rfl⟩
    have hrun : Triple (Hears thread taken (budget + 1) said)
        (Program.when (view.state ≠ .running)
          (publishPayload (recording host) thread timestamp (.stateChanged .running)))
        (fun _ => Hears thread { taken with state := .running } budget said)
        fun _ _ => False := by
      refine triple_spend (fun _ => ?_) ?_
      · refine (triple_publishPayload hcommits timestamp rfl).weaken (fun _ hs => hs) ?_
          fun _ _ hs => hs
        intro _ s hs
        have hshown : taken.presentedPayload (.stateChanged .running) = .stateChanged .running :=
          if_neg (by simp)
        rw [hshown, List.filter_cons_of_neg (by simp [isTold]), List.filter_nil,
          List.append_nil] at hs
        exact hs
      · intro hrunning
        show { taken with state := .running } = { taken with state := view.state }
        rw [not_not.mp hrunning]
    refine Triple.bind (htaken.weaken (fun s hs => ⟨follows_spend hs.1.1 (by omega), hs.1.2⟩)
      (fun _ _ hs => hs) fun _ _ hs => hs) fun _ => ?_
    refine Triple.bind hrun fun _ => Triple.pure fun s hs => ⟨?_, ?_⟩
    · rw [hhear]
      exact hears_keys hs _
    · by_cases hrunning : view.state = .running <;> simp [hrunning, hheard]

theorem triple_itemStarted {params itemValue : Value} {turn item : String}
    (hturn : stringField params "turnId" = .ok turn)
    (hvalue : objectField params "item" = .ok itemValue)
    (hid : stringField itemValue "id" = .ok item)
    (hdrops : ¬ view.Drops thread (.itemStarted turn)) (hfits : view.Fits (.itemStarted turn)) :
    Triple (Hears thread view (budget + 2) said)
      (itemStarted thread params : Mapping (B × List AgentEvent) MappingDisposition)
      (fun _ => Hears thread (view.hear thread (.itemStarted turn)) budget
        (said ++ view.tells thread (.itemStarted turn)))
      fun _ _ => False := by
  have htells : said ++ view.tells thread (.itemStarted turn) = said := by
    simp [ThreadView.tells]
  have hheard : ¬ view.Ignores thread (.itemStarted turn) := by
    rintro (h | h | h)
    · exact hdrops h
    · exact h hfits
    · exact h
  have hhear : view.hear thread (.itemStarted turn) = { view with activeTurnId := some turn } := by
    simp only [ThreadView.hear, if_neg hheard, ThreadView.takes, ThreadView.shows,
      ThreadView.connects, Option.getD_none]
  rw [htells, hhear]
  unfold itemStarted
  refine triple_ofExcept_ok hturn ?_
  refine Triple.bind (triple_ensureActiveTurn_follows (hfits turn rfl)) fun _ => ?_
  refine triple_ofExcept_ok hvalue (triple_ofExcept_ok hid ?_)
  refine Triple.bind (triple_onItems _) fun _ => ?_
  exact Triple.pure fun s hs => ⟨follows_spend hs.1 (by omega), hs.2⟩

theorem heard_of_fits {report : ThreadReport} (hdrops : ¬ view.Drops thread report)
    (hfits : view.Fits report) (hagain : ¬ view.Restarts report) :
    ¬ view.Ignores thread report := by
  rintro (h | h | h)
  · exact hdrops h
  · exact h hfits
  · exact hagain h

theorem triple_itemCompleted_follows (hcommits : Commits host) {params itemValue : Value}
    {turn item kind : String} {text : Option ItemText}
    (hturn : stringField params "turnId" = .ok turn)
    (hvalue : objectField params "item" = .ok itemValue)
    (hid : stringField itemValue "id" = .ok item) (hkind : stringField itemValue "type" = .ok kind)
    (hsaid : SaysItem params itemValue kind text)
    (hdrops : ¬ view.Drops thread (.itemCompleted turn item text))
    (hfits : view.Fits (.itemCompleted turn item text)) :
    Triple (Hears thread view (budget + 2) said) (itemCompleted (recording host) thread params)
      (fun d s => Hears thread (view.hear thread (.itemCompleted turn item text)) budget
          (said ++ view.tells thread (.itemCompleted turn item text)) s ∧
        (d = .mapped ↔ text.isSome))
      fun _ _ => False := by
  have hheard := heard_of_fits hdrops hfits id
  unfold itemCompleted
  refine triple_ofExcept_ok hturn ?_
  refine Triple.bind (triple_ensureActiveTurn_follows (hfits turn rfl)) fun _ => ?_
  refine triple_ofExcept_ok hvalue (triple_ofExcept_ok hid ?_)
  refine Triple.bind (triple_onItems _) fun _ => ?_
  refine triple_ofExcept_ok hkind ?_
  cases text with
  | none =>
    have htells : said ++ view.tells thread (.itemCompleted turn item none) = said := by
      simp [ThreadView.tells]
    have hhear : view.hear thread (.itemCompleted turn item none) =
        { view with activeTurnId := some turn } := by
      simp only [ThreadView.hear, if_neg hheard, ThreadView.takes, ThreadView.shows,
        ThreadView.connects, Option.getD_none]
    rw [htells, hhear]
    have hdone : ∀ s : MapperState (B × List AgentEvent),
        Hears thread { view with activeTurnId := some turn } (budget + 2) said s →
        Hears thread { view with activeTurnId := some turn } budget said s :=
      fun s hs => ⟨follows_spend hs.1 (by omega), hs.2⟩
    refine Triple.ite (fun _ => Triple.pure fun s hs => ⟨hdone s hs, by simp⟩) fun hshown => ?_
    rcases hsaid with hother | ⟨found, hfound, hblank⟩
    · exact absurd hother hshown
    · refine triple_ofExcept_ok hfound ?_
      rw [if_pos hblank]
      exact Triple.pure fun s hs => ⟨hdone s hs, by simp⟩
  | some text =>
    obtain ⟨hshown, hcontent, hplan, hfinal, value, hinstant, hdatable⟩ := hsaid
    have htells : view.tells thread (.itemCompleted turn item (some text)) =
        [.message ⟨.assistant, .info, text.content⟩] := if_neg hheard
    have hhear : view.hear thread (.itemCompleted turn item (some text)) =
        { view with activeTurnId := some turn }.read thread turn item text := by
      simp only [ThreadView.hear, if_neg hheard, ThreadView.takes, ThreadView.shows,
        ThreadView.connects, Option.getD_none]
      rfl
    have hmessage : ¬ (kind ≠ "agentMessage" ∧ kind ≠ "plan") := by
      rcases hshown with rfl | rfl <;> simp
    have hcontentNew : domain (NonEmptyText.new text.content.asStr) = .ok text.content :=
      domain_text text.content.nonBlank
    rw [htells, hhear, if_neg hmessage]
    refine triple_ofExcept_ok hcontent ?_
    rw [if_neg (Bool.eq_false_iff.mp text.content.nonBlank)]
    unfold messageCompleted
    refine triple_ofExcept_ok hcontentNew ?_
    refine Triple.bind (triple_trackedThread_follows.weaken (fun _ hs => hs)
      (fun _ _ hs => hs.1) fun _ _ hs => hs) fun _ => ?_
    have hread : Triple (Hears thread { view with activeTurnId := some turn } (budget + 2) said)
        (onMapper fun m => m.updateThread thread fun mapping =>
          { mapping with
            lastMessage := some text.content
            proposedPlan :=
              if kind = "plan" then some text.content.asStr else mapping.proposedPlan
            lastFinalMessage :=
              if (itemValue.get "phase").bind Json.asStr = some "final_answer" then
                some text.content
              else mapping.lastFinalMessage } : Mapping (B × List AgentEvent) Unit)
        (fun _ => Hears thread ({ view with activeTurnId := some turn }.read thread turn item text)
          (budget + 2) said) fun _ _ => False := by
      refine triple_onMapping ?_ fun _ => rfl
      rintro mapping ⟨hstate, hconnection, hactive, -, hlastFinal, hproposed, hready⟩
      refine ⟨hstate, hconnection, hactive, rfl, ?_, ?_, hready⟩
      · simp only [ThreadView.read, hfinal, decide_eq_true_eq, hlastFinal]
      · simp only [ThreadView.read, hplan, decide_eq_true_eq, hproposed]
    refine Triple.bind hread fun _ => ?_
    refine triple_ofExcept_ok hinstant ?_
    refine Triple.bind (triple_timestampOr hdatable) ?_
    intro timestamp
    have hpublished : Triple (Hears thread
          ({ view with activeTurnId := some turn }.read thread turn item text) (budget + 2) said)
        (publishPayload (recording host) thread timestamp
          (.message ⟨.assistant, .info, text.content⟩))
        (fun _ => Hears thread
          ({ view with activeTurnId := some turn }.read thread turn item text) (budget + 1)
          (said ++ [.message ⟨.assistant, .info, text.content⟩])) fun _ _ => False := by
      refine (triple_publishPayload hcommits timestamp rfl).weaken (fun _ hs => hs) ?_
        fun _ _ hs => hs
      intro _ s hs
      rw [ThreadView.presentedPayload, if_neg (by simp)] at hs
      exact hs
    exact Triple.bind hpublished fun _ => Triple.pure fun s hs =>
      ⟨⟨follows_spend hs.1 (Nat.le_succ budget), hs.2⟩, by simp⟩

theorem turnOutcome_of_says {turnValue : Value} {status : String} {ending : TurnEnding}
    (h : SaysEnding turnValue status ending) :
    turnOutcome turnValue status (view.lastFinalMessage.or view.lastMessage) =
      .ok (view.outcome ending) := by
  unfold turnOutcome
  cases ending with
  | completed =>
    obtain rfl : status = "completed" := h
    rfl
  | interrupted =>
    obtain rfl : status = "interrupted" := h
    rfl
  | failed error =>
    obtain ⟨rfl, herror⟩ := h
    have hdomain : domain (NonEmptyText.new (((((turnValue.get "error").bind fun error =>
        error.get "message").bind Json.asStr).filter fun text => !isBlank text).getD
        "Codex turn failed")) = .ok error := Fallible.mapError_eq_ok.mpr herror
    simp only [hdomain]
    rfl

theorem completed_iff_of_says {turnValue : Value} {status : String} {ending : TurnEnding}
    (h : SaysEnding turnValue status ending) : status = "completed" ↔ ending = .completed := by
  cases ending with
  | completed => simp [show status = "completed" from h]
  | interrupted => simp [show status = "interrupted" from h]
  | failed error => simp [h.1]

theorem triple_turnCompleted_follows (hcommits : Commits host) {params turnValue : Value}
    {turn status : String} {completedAt : Option Int} {ending : TurnEnding}
    (hvalue : objectField params "turn" = .ok turnValue)
    (hid : stringField turnValue "id" = .ok turn)
    (hstatus : stringField turnValue "status" = .ok status)
    (hcompleted : optionalI64Field turnValue "completedAt" = .ok completedAt)
    (hdatable : Datable 1000000000 completedAt) (hsaid : SaysEnding turnValue status ending)
    (hdrops : ¬ view.Drops thread (.turnCompleted turn ending))
    (hfits : view.Fits (.turnCompleted turn ending)) :
    Triple (Hears thread view (budget + 2) said) (turnCompleted (recording host) thread params)
      (fun d s => Hears thread (view.hear thread (.turnCompleted turn ending)) budget
          (said ++ view.tells thread (.turnCompleted turn ending)) s ∧ d = .mapped)
      fun _ _ => False := by
  have hheard := heard_of_fits hdrops hfits id
  unfold turnCompleted
  refine triple_ofExcept_ok hvalue (triple_ofExcept_ok hid ?_)
  refine Triple.bind (triple_ensureActiveTurn_follows (hfits turn rfl)) fun _ => ?_
  refine triple_ofExcept_ok hstatus (triple_ofExcept_ok hcompleted ?_)
  refine Triple.bind (triple_timestampOr hdatable) ?_
  intro timestamp
  refine Triple.bind triple_trackedThread_follows ?_
  intro mapping
  refine Triple.of_fact (fun s hs => hs.2) ?_
  rintro ⟨-, -, -, hlast, hlastFinal, hproposed, -⟩
  have hproposes : (status = "completed" ∧ mapping.proposedPlan.isSome = true) ↔
      view.Proposes ending := by
    rw [hproposed, completed_iff_of_says hsaid]
    exact Iff.rfl
  have houtcome : turnOutcome turnValue status (view.lastFinalMessage.or view.lastMessage) =
      .ok (view.outcome ending) := turnOutcome_of_says hsaid
  rw [hlast, hlastFinal]
  refine triple_ofExcept_ok houtcome ?_
  simp only [hproposes]
  have hready : Triple (Hears thread { view with activeTurnId := some turn } (budget + 2) said)
      (onMapper fun m => m.updateThread thread fun mapping =>
        { mapping with planReady := decide (view.Proposes ending) } :
        Mapping (B × List AgentEvent) Unit)
      (fun _ => Hears thread { view with
        activeTurnId := some turn
        planReady := decide (view.Proposes ending) } (budget + 2) said) fun _ _ => False := by
    refine triple_onMapping ?_ fun _ => rfl
    rintro mapping ⟨hstate, hconnection, hactive, hlast, hfinal, hplan, -⟩
    exact ⟨hstate, hconnection, hactive, hlast, hfinal, hplan, rfl⟩
  refine Triple.bind (hready.weaken (fun s hs => hs.1) (fun _ _ hs => hs) fun _ _ hs => hs)
    fun _ => ?_
  have hpresented : ∀ shown : ThreadView, shown.presentedPayload
      (if view.Proposes ending then .stateChanged .waitingForInteraction
        else .sessionEnded (view.outcome ending)) =
      if view.Proposes ending then .stateChanged .waitingForInteraction
        else .sessionEnded (view.outcome ending) := by
    intro shown
    refine if_neg ?_
    split <;> simp
  have hfree : (if view.Proposes ending then AgentEventPayload.stateChanged .waitingForInteraction
      else .sessionEnded (view.outcome ending)).embeddedSessionId = none := by
    split <;> rfl
  refine Triple.bind (triple_publishPayload hcommits timestamp hfree) fun _ => ?_
  rw [hpresented]
  have hended : ∀ (shown : ThreadView) (more : List AgentEventPayload),
      Triple (Hears thread shown (budget + 1) more)
        (onMapper fun m => m.updateThread thread fun mapping =>
          { mapping with activeTurnId := none } : Mapping (B × List AgentEvent) Unit)
        (fun _ => Hears thread { shown with activeTurnId := none } (budget + 1) more)
        fun _ _ => False := by
    intro shown more
    refine triple_onMapping ?_ fun _ => rfl
    rintro mapping ⟨hstate, hconnection, -, hlast, hfinal, hplan, hready⟩
    exact ⟨hstate, hconnection, rfl, hlast, hfinal, hplan, hready⟩
  refine Triple.bind (hended _ _) fun _ => ?_
  refine Triple.bind (triple_onItems _) fun _ => Triple.pure fun s hs => ⟨?_, rfl⟩
  have htold : said ++ [if view.Proposes ending then AgentEventPayload.stateChanged
      .waitingForInteraction else .sessionEnded (view.outcome ending)].filter isTold =
      said ++ view.tells thread (.turnCompleted turn ending) := by
    by_cases hplan : view.Proposes ending
    · simp only [ThreadView.tells, if_neg hheard, if_pos hplan]
      rfl
    · simp only [ThreadView.tells, if_neg hheard, if_neg hplan]
      rfl
  rw [htold] at hs
  have hview : view.hear thread (.turnCompleted turn ending) =
      { ({ view with
          activeTurnId := some turn
          planReady := decide (view.Proposes ending) } : ThreadView).published
          (if view.Proposes ending then .stateChanged .waitingForInteraction
            else .sessionEnded (view.outcome ending)) with
        activeTurnId := none
        keys := (view.takes thread (.turnCompleted turn ending)).keys } := by
    simp only [ThreadView.hear, if_neg hheard, ThreadView.takes, ThreadView.shows,
      ThreadView.connects, Option.getD_none, Option.getD_some]
    split <;> rfl
  rw [hview]
  exact ⟨follows_spend (hears_keys hs _).1 (Nat.le_succ budget), hs.2⟩

theorem says_thread {method : String} {params : Value} {report : ThreadReport}
    (h : Says thread method params report) : notificationThread params = some thread := by
  cases h <;> assumption

theorem says_turn {method : String} {params : Value} {report : ThreadReport}
    (h : Says thread method params report) : notificationTurn params = report.turn := by
  cases h with
  | status hthread hturn hvalue hloaded => exact hturn
  | turnStarted hthread hturn => exact hturn
  | itemStarted hthread hturn =>
    rw [notificationTurn, string_of_ok hturn, Option.some_or]
    rfl
  | itemCompleted hthread hturn =>
    rw [notificationTurn, string_of_ok hturn, Option.some_or]
    rfl
  | turnCompleted hthread hturn => exact hturn

theorem says_key {method : String} {params : Value} {report : ThreadReport}
    (h : Says thread method params report) :
    notificationKey method params thread = .ok ((report.subject thread).map Subject.key) := by
  cases h with
  | status => simp [notificationKey, ThreadReport.subject]
  | turnStarted hthread hturn hvalue hid =>
    simp only [notificationKey, nestedId_of_fields hvalue hid, true_or, if_true]
    rfl
  | itemStarted => simp [notificationKey, ThreadReport.subject]
  | itemCompleted hthread hturn hvalue hid =>
    have hstarted : ¬ ("item/completed" = "turn/started" ∨ "item/completed" = "turn/completed") := by
      simp
    simp only [notificationKey, nestedId_of_fields hvalue hid, if_neg hstarted, if_true]
    rfl
  | turnCompleted hthread hturn hvalue hid =>
    simp only [notificationKey, nestedId_of_fields hvalue hid, or_true, if_true]
    rfl

/-- A report that is not dropped moves the thread as it moves the view; it is
mapped exactly if something is remembered of it. -/
theorem says_dispatch (hcommits : Commits host) {method : String} {params : Value}
    {report : ThreadReport} (h : Says thread method params report)
    (hdrops : ¬ view.Drops thread report) (hfits : view.Fits report) :
    Triple (Hears thread view (budget + 2) said) (dispatch (recording host) method thread params)
      (fun d s => Hears thread (view.hear thread report) budget
          (said ++ view.tells thread report) s ∧
        ((report.subject thread).isSome → (d = .mapped ↔
          ¬ view.Ignores thread report ∧ (view.leaves thread report).isSome)))
      fun _ _ => False := by
  cases h with
  | status hthread hturn hvalue hloaded =>
    simp only [dispatch, String.reduceEq, if_false, if_true]
    refine triple_ofExcept_ok hvalue ?_
    exact (triple_statusChanged hcommits hloaded).weaken (fun _ hs => hs)
      (fun _ s hs => ⟨hs, by simp [ThreadReport.subject]⟩) fun _ _ hs => hs
  | turnStarted hthread hturn hvalue hid hstarted hdatable =>
    simp only [dispatch, String.reduceEq, if_false, if_true]
    refine (triple_turnStarted hcommits hvalue hid hstarted hdatable hdrops hfits).weaken
      (fun _ hs => hs) ?_ fun _ _ hs => hs
    rintro d s ⟨hs, hmapped⟩
    refine ⟨hs, fun _ => hmapped.trans ?_⟩
    by_cases hrunning : view.state = .running <;> simp [ThreadView.leaves, hrunning]
  | itemStarted hthread hturn hvalue hid =>
    simp only [dispatch, String.reduceEq, if_false, if_true]
    exact (triple_itemStarted hturn hvalue hid hdrops hfits).weaken (fun _ hs => hs)
      (fun _ s hs => ⟨hs, by simp [ThreadReport.subject]⟩) fun _ _ hs => hs
  | @itemCompleted _ _ _ _ _ text hthread hturn hvalue hid hkind hsaid =>
    simp only [dispatch, String.reduceEq, if_false, if_true]
    refine (triple_itemCompleted_follows hcommits hturn hvalue hid hkind hsaid hdrops
      hfits).weaken (fun _ hs => hs) ?_ fun _ _ hs => hs
    rintro d s ⟨hs, hmapped⟩
    refine ⟨hs, fun _ => hmapped.trans ?_⟩
    have hheard := heard_of_fits hdrops hfits id
    cases text <;> simp [ThreadView.leaves, hheard]
  | turnCompleted hthread hturn hvalue hid hstatus hcompleted hdatable hsaid =>
    simp only [dispatch, String.reduceEq, if_false, if_true]
    refine (triple_turnCompleted_follows hcommits hvalue hid hstatus hcompleted hdatable hsaid
      hdrops hfits).weaken (fun _ hs => hs) ?_ fun _ _ hs => hs
    rintro d s ⟨hs, rfl⟩
    have hheard := heard_of_fits hdrops hfits id
    exact ⟨hs, fun _ => by simp [ThreadView.leaves, hheard]⟩

/-- The remembered keys are those of the view, in order. -/
structure Recalls (keys : List String) (m : CodexEventMapper) : Prop where
  order : m.recentOrder = keys
  contains : ∀ key, m.recentKeys.contains key = true ↔ key ∈ keys

theorem known_of_follows {m : CodexEventMapper} (h : Follows thread view budget m) :
    (m.configured.contains thread && m.threads.contains thread) = true := by
  obtain ⟨mapping, hmapping, -⟩ := h.tracked
  have htracked : m.threads.contains thread = true := by
    rw [ExtTreeMap.contains_eq_isSome_getElem?, hmapping]
    rfl
  rw [h.configured, htracked]
  rfl

theorem follows_retryObserverResume {m : CodexEventMapper} (h : Follows thread view budget m)
    (id : String) : Follows thread view budget (m.retryObserverResume id) := by
  unfold CodexEventMapper.retryObserverResume
  split
  · exact ⟨h.configured, h.tracked⟩
  · exact h

theorem recalls_retryObserverResume {m : CodexEventMapper} {keys : List String}
    (h : Recalls keys m) (id : String) : Recalls keys (m.retryObserverResume id) := by
  unfold CodexEventMapper.retryObserverResume
  split
  · exact ⟨h.order, h.contains⟩
  · exact h

variable (host) in
/-- A status is looked at first by the observer, which may ask for its thread again. -/
theorem notification_checked {method : String} {params : Value} {report : ThreadReport}
    {keys : List String} (h : Says thread method params report)
    {s : MapperState (B × List AgentEvent)} (hs : Hears thread view budget said s)
    (hkeys : Recalls keys s.mapper) :
    ∃ m, Follows thread view budget m ∧ Recalls keys m ∧
      notification (recording host) method params s =
        if (report.turn.any fun turn => m.recentKeys.contains (completedKey thread turn)) = true then
          (.ok .validatedUnmapped, { s with mapper := m })
        else notifyTracked (recording host) method thread params { s with mapper := m } := by
  have hmethod : method ≠ "thread/started" := by
    cases h <;> simp
  have hnotified : notification (recording host) method params s =
      notifyThread (recording host) method params s := by
    rw [notification_apply, if_neg fun hboth => hmethod hboth.1]
  have hknown := known_of_follows hs.1
  rw [hnotified]
  unfold notifyThread
  rw [says_thread h, says_turn h]
  by_cases hstatus : method = "thread/status/changed"
  · refine ⟨s.mapper.retryObserverResume thread, follows_retryObserverResume hs.1 thread,
      recalls_retryObserverResume hkeys thread, ?_⟩
    simp only [bind_apply, Program.reads, Program.ite_apply, Program.when, hknown, Bool.not_true,
      Bool.false_eq_true, if_false, if_pos hstatus]
    rfl
  · refine ⟨s.mapper, hs.1, hkeys, ?_⟩
    simp only [bind_apply, Program.reads, Program.ite_apply, Program.when, hknown, Bool.not_true,
      Bool.false_eq_true, if_false, if_neg hstatus, Program.pure_apply]

theorem late_iff {m : CodexEventMapper} (hkeys : Recalls view.keys m) (report : ThreadReport) :
    (report.turn.any fun turn => m.recentKeys.contains (completedKey thread turn)) = true ↔
      ∃ turn ∈ report.turn, view.Knows (.completed thread turn) := by
  cases hturn : report.turn with
  | none => simp
  | some turn =>
    rw [Option.any_some, hkeys.contains]
    simp only [Option.mem_def, Option.some.injEq, exists_eq_left']
    exact Iff.rfl

theorem seen_iff {m : CodexEventMapper} (hkeys : Recalls view.keys m) (report : ThreadReport) :
    (((report.subject thread).map Subject.key).any fun key => m.recentKeys.contains key) = true ↔
      ∃ subject ∈ report.subject thread, view.Knows subject := by
  cases hsubject : report.subject thread with
  | none => simp
  | some subject =>
    rw [Option.map_some, Option.any_some, hkeys.contains]
    simp only [Option.mem_def, Option.some.injEq, exists_eq_left']
    exact Iff.rfl

theorem recalls_rememberKey {m : CodexEventMapper} {keys : List String} (h : Recalls keys m)
    {key : String} (hroom : keys.length < recentNotificationLimit) :
    Recalls (keys ++ [key]) (m.rememberKey key) := by
  have hfits : ¬ (m.recentOrder ++ [key]).length > recentNotificationLimit := by
    rw [h.order, List.length_append, List.length_singleton]
    omega
  unfold CodexEventMapper.rememberKey
  dsimp only
  rw [if_neg hfits]
  refine ⟨congrArg (· ++ [key]) h.order, ?_⟩
  intro other
  simp only [ExtTreeSet.contains_insert, Bool.or_eq_true, h.contains, List.mem_append,
    List.mem_singleton, beq_iff_eq, Std.compare_eq_iff_eq]
  rw [or_comm, @eq_comm _ key]

theorem follows_rememberKey {m : CodexEventMapper} (h : Follows thread view budget m)
    (key : String) : Follows thread view budget (m.rememberKey key) := by
  unfold CodexEventMapper.rememberKey
  dsimp only
  split
  · split
    · exact ⟨h.configured, h.tracked⟩
    · exact ⟨h.configured, h.tracked⟩
  · exact ⟨h.configured, h.tracked⟩

theorem window_of_dispatch {method : String} {params : Value} {s s' : MapperState B}
    {d : MappingDisposition} (h : dispatch host method thread params s = (.ok d, s')) :
    s'.mapper.recentKeys = s.mapper.recentKeys ∧ s'.mapper.recentOrder = s.mapper.recentOrder := by
  have huntouched : Untouched host _ := untouched_window s.mapper
  have hwindow := (untouched_dispatch huntouched method thread params).holds s ⟨rfl, rfl⟩
  rw [h] at hwindow
  exact hwindow

theorem subject_of_leaves {report : ThreadReport} {subject : Subject}
    (h : view.leaves thread report = some subject) : report.subject thread = some subject := by
  cases report with
  | status loaded => cases h
  | turnStarted turn =>
    simp only [ThreadView.leaves, Option.ite_none_right_eq_some] at h
    exact h.2
  | itemStarted turn => cases h
  | itemCompleted turn item text =>
    cases text with
    | none => cases h
    | some text => exact h
  | turnCompleted turn ending => exact h

/-- A notification whose turn fits does to the thread what its report does to the
view, and returns. -/
theorem notification_follows (hcommits : Commits host) {method : String} {params : Value}
    {report : ThreadReport} (h : Says thread method params report)
    {s : MapperState (B × List AgentEvent)} (hs : Hears thread view (budget + 2) said s)
    (hkeys : Recalls view.keys s.mapper) (hfits : view.Drops thread report ∨ view.Fits report)
    (hlimit : (view.hear thread report).keys.length ≤ recentNotificationLimit) :
    ∃ d s', notification (recording host) method params s = (.ok d, s') ∧
      Hears thread (view.hear thread report) budget (said ++ view.tells thread report) s' ∧
      Recalls (view.hear thread report).keys s'.mapper := by
  obtain ⟨m, hm, hmkeys, hrun⟩ := notification_checked host h hs hkeys
  rw [hrun]
  have hturned : view.Drops thread report → report.turn ≠ none := by
    rintro (⟨turn, hturn, -⟩ | ⟨subject, hsubject, -⟩) hnone
    · rw [hnone] at hturn
      cases hturn
    · have hsilent : report.subject thread = none := by
        cases report with
        | status loaded => rfl
        | _ => cases hnone
      rw [hsilent] at hsubject
      cases hsubject
  by_cases hdrops : view.Drops thread report
  · -- dropped by the filter of completed turns, or by its key
    have hdropped : ∃ d, (if (report.turn.any fun turn =>
          m.recentKeys.contains (completedKey thread turn)) = true then
          (.ok .validatedUnmapped, { s with mapper := m })
        else notifyTracked (recording host) method thread params { s with mapper := m }) =
        ((.ok d : Except CodexProviderSourceError MappingDisposition), { s with mapper := m }) := by
      split
      · exact ⟨_, rfl⟩
      · next hcurrent =>
        have hseen : (((report.subject thread).map Subject.key).any fun key =>
            m.recentKeys.contains key) = true := by
          rw [seen_iff hmkeys]
          exact hdrops.resolve_left fun hlate => hcurrent ((late_iff hmkeys report).mpr hlate)
        unfold notifyTracked
        simp only [bind_apply, Program.ofExcept, says_key h, Program.reads, Program.ite_apply,
          hseen, if_true, Program.pure_apply]
        exact ⟨_, rfl⟩
    obtain ⟨d, hd⟩ := hdropped
    obtain ⟨hsame, hsilent, -⟩ := ThreadView.hear_of_ignores (.inl hdrops) (hturned hdrops)
    refine ⟨d, _, hd, ?_, ?_⟩
    · rw [hsame, hsilent, List.append_nil]
      exact ⟨follows_spend hm (by omega), hs.2⟩
    · rw [hsame]
      exact hmkeys
  · have hcurrent : ¬ (report.turn.any fun turn =>
        m.recentKeys.contains (completedKey thread turn)) = true :=
      fun hlate => hdrops (.inl ((late_iff hmkeys report).mp hlate))
    have hfresh : ¬ (((report.subject thread).map Subject.key).any fun key =>
        m.recentKeys.contains key) = true :=
      fun hseen => hdrops (.inr ((seen_iff hmkeys report).mp hseen))
    obtain ⟨d, t, hdispatch, ht, hmapped⟩ := (says_dispatch hcommits h hdrops
      (hfits.resolve_left hdrops)).exists_return (s := { s with mapper := m }) ⟨hm, hs.2⟩
    obtain ⟨hkept, horder⟩ := window_of_dispatch hdispatch
    have htkeys : Recalls view.keys t.mapper := by
      refine ⟨horder.trans hmkeys.order, ?_⟩
      intro key
      rw [hkept]
      exact hmkeys.contains key
    rw [if_neg hcurrent]
    unfold notifyTracked
    simp only [bind_apply, Program.ofExcept, says_key h, Program.reads, Program.ite_apply,
      if_neg hfresh, hdispatch]
    have hleft : ∀ left : Option Subject, (left = if view.Ignores thread report then none
        else view.leaves thread report) → (view.hear thread report).keys =
          view.keys ++ (left.map Subject.key).toList := by
      rintro left rfl
      rw [ThreadView.keys_hear]
      split
      · simp
      · exact ThreadView.keys_takes view report
    cases hsubject : report.subject thread with
    | none =>
      refine ⟨d, t, rfl, ht, ?_⟩
      have hnone : view.leaves thread report = none := by
        cases hleaves : view.leaves thread report with
        | none => rfl
        | some subject =>
          rw [subject_of_leaves hleaves] at hsubject
          cases hsubject
      rw [hleft none (by rw [hnone, ite_self]), Option.map_none, Option.toList_none,
        List.append_nil]
      exact htkeys
    | some subject =>
      have hmapped := hmapped (by rw [hsubject]; rfl)
      by_cases hd : d = .mapped
      · obtain ⟨hheard, hleaves⟩ := hmapped.mp hd
        obtain ⟨left, hleaves⟩ := Option.isSome_iff_exists.mp hleaves
        have hsame : left = subject := by
          rw [subject_of_leaves hleaves] at hsubject
          exact Option.some.inj hsubject
        subst hsame
        have hnext := hleft (some left) (by rw [if_neg hheard, hleaves])
        rw [Option.map_some, Option.toList_some] at hnext
        have hroom : view.keys.length < recentNotificationLimit := by
          rw [hnext, List.length_append, List.length_singleton] at hlimit
          omega
        refine ⟨d, { t with mapper := t.mapper.rememberKey left.key }, ?_,
          ⟨follows_rememberKey ht.1 _, ht.2⟩, ?_⟩
        · simp only [Option.map_some, bind_apply, Program.when, if_pos hd]
          rfl
        · rw [hnext]
          exact recalls_rememberKey htkeys hroom
      · refine ⟨d, t, ?_, ht, ?_⟩
        · simp only [Option.map_some, bind_apply, Program.when, if_neg hd]
          rfl
        · have hnone : (if view.Ignores thread report then none
              else view.leaves thread report) = none := by
            split
            · rfl
            · next hheard =>
              rw [← Option.not_isSome_iff_eq_none]
              exact fun hleaves => hd (hmapped.mpr ⟨hheard, hleaves⟩)
          rw [hleft none hnone.symm, Option.map_none, Option.toList_none, List.append_nil]
          exact htkeys

end Mapping

end Codex

end AgentPulse
