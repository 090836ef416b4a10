import AgentPulse.CodexForms
import AgentPulse.CodexRecord
import AgentPulse.CodexWorker

/-!
# Requests for user input among other threads

A request is looked up, prepared, registered and published in separate sections, and
the other threads move between them. Each section has its own way to refuse; what the
request itself contributes is only whether everything in it can be shown.
-/
namespace AgentPulse

namespace Codex

open Std (ExtTreeMap)
open Program (bind_apply)
open Serde (Json)

/-- The text of a property; a schema-valid request has all that are read so. -/
def textOf (params : Value) (field : String) : String :=
  ((params.get field).bind Json.asStr).getD ""

theorem stringField_textOf {params : Value} {field : String}
    (h : Shape.required field Shape.string params = true) :
    stringField params field = .ok (textOf params field) := by
  obtain ⟨text, htext, hfound⟩ := Shape.string_of_required h
  rw [htext, textOf, hfound, Option.getD_some]

/-- The thread is known, and the turn is its running one or none is running. -/
structure OnTurn (m : CodexEventMapper) (threadId turnId : String) (mapping : ThreadMapping) :
    Prop where
  configured : m.configured.contains threadId = true
  tracked : m.threads[threadId]? = some mapping
  active : mapping.activeTurnId = none ∨ mapping.activeTurnId = some turnId

namespace Mapping

variable {B : Type}

theorem ensureActiveTurn_ok {threadId turnId : String} {mapping : ThreadMapping} {m : MapperState B}
    (h : OnTurn m.mapper threadId turnId mapping) :
    ∃ m' mapping', (ensureActiveTurn threadId turnId : Mapping B Unit) m = (.ok (), m') ∧
      m'.mapper.threads[threadId]? = some mapping' ∧ mapping'.sessionId = mapping.sessionId := by
  unfold ensureActiveTurn
  rw [Program.bind_of_ok (trackedThread_of_some h.tracked)]
  obtain hnone | hsame := h.active
  · rw [hnone]
    refine ⟨_, { mapping with activeTurnId := some turnId }, rfl, ?_, rfl⟩
    show (m.mapper.updateThread threadId _).threads[threadId]? = _
    rw [CodexEventMapper.threads_updateThread, if_pos rfl, h.tracked, Option.map_some]
  · rw [hsame]
    exact ⟨m, mapping, by simp [Program.pure_apply], h.tracked, rfl⟩

theorem approvalContext_ok {threadId turnId : String} (itemId : String) {mapping : ThreadMapping}
    {m : MapperState B} (h : OnTurn m.mapper threadId turnId mapping) :
    ∃ item m', (approvalContext threadId turnId itemId :
      Mapping B (Option (SessionId × Option Value))) m =
        (.ok (some (mapping.sessionId, item)), m') := by
  have hknown : (m.mapper.configured.contains threadId && m.mapper.threads.contains threadId) = true := by
    rw [h.configured, ExtTreeMap.contains_eq_isSome_getElem?, h.tracked]
    rfl
  obtain ⟨m', mapping', hensured, hmapping', hsession⟩ := ensureActiveTurn_ok h
  unfold approvalContext
  have hread : (Program.reads fun s : MapperState B =>
      s.mapper.configured.contains threadId && s.mapper.threads.contains threadId :
      Mapping B Bool) m = (.ok true, m) := by
    rw [Program.reads, hknown]
  rw [Program.bind_of_ok hread]
  simp only [Bool.not_true, Bool.false_eq_true, if_false]
  rw [Program.bind_of_ok hensured, Program.bind_of_ok (trackedThread_of_some hmapping'), ← hsession]
  exact ⟨_, _, rfl⟩

/-- The thread can take the event, and its sequence goes on if the host takes it too. -/
def Publishable (host : ProviderHost B) (prepared : PreparedApproval) (m : MapperState B) : Prop :=
  ∃ mapping event, m.mapper.threads[prepared.threadId]? = some mapping ∧
    AgentEvent.new (host.newId .event m.host).1 mapping.sessionId mapping.nextSequence
      prepared.request.requestedAt (.interactionRequested prepared.request) = .ok event ∧
    (committed (host.publishEvent (host.newId .event m.host).2 event).2 = true →
      mapping.nextSequence.checkedNext.isSome)

/-- The request of a prepared interaction as its publication writes it. -/
def publishRequest (host : ProviderHost B) (prepared : PreparedApproval) : Mapping B Unit :=
  publishPayload host prepared.threadId prepared.request.requestedAt
    (.interactionRequested prepared.request)

theorem publishRequest_tracked (host : ProviderHost B) (prepared : PreparedApproval) :
    publishRequest host prepared = publishTracked host prepared.threadId
      prepared.request.requestedAt (.interactionRequested prepared.request) := by
  funext m
  have hshown : presentedPayload m.mapper prepared.threadId (.interactionRequested prepared.request) =
      .interactionRequested prepared.request := by
    simp [presentedPayload]
  unfold publishRequest publishPayload
  rw [bind_apply, Program.reads, hshown]
  rfl

/-- An event that the host does not take is reported with the host's own error. -/
theorem publishCommitted_outcome (host : ProviderHost B) (event : AgentEvent)
    (m : MapperState (B × List AgentEvent)) :
    (committed (host.publishEvent m.host.1 event).2 = true ∧
      ∃ b, publishCommitted (recording host) event m = (.ok (), ⟨m.mapper, b, m.host.2 ++ [event]⟩)) ∨
    (committed (host.publishEvent m.host.1 event).2 = false ∧
      ∃ error m', publishCommitted (recording host) event m = (.error (.eventIngress error), m')) := by
  unfold publishCommitted
  simp only [bind_apply, Program.update, recording]
  cases hresult : (host.publishEvent m.host.1 event).2 with
  | ok report => exact .inl ⟨rfl, _, rfl⟩
  | error error =>
    by_cases hreport : error.report.isSome = true
    · left
      have hcommitted : committed (.error error) = true := hreport
      exact ⟨hcommitted, by simp [hcommitted, hreport, Program.pure_apply]⟩
    · right
      have hrefused : committed (.error error) = false := Bool.eq_false_iff.mpr hreport
      exact ⟨hrefused, by simp [hreport, Program.fail]⟩

/-- A publication adds the request to the record, is refused by the host, or is a protocol
error. -/
theorem publishRequest_cases (host : ProviderHost B) (prepared : PreparedApproval)
    (m : MapperState (B × List AgentEvent)) :
    (Publishable (recording host) prepared m ∧
      ((∃ event m', publishRequest (recording host) prepared m = (.ok (), m') ∧
        event.payload = .interactionRequested prepared.request ∧ m'.host.2 = m.host.2 ++ [event]) ∨
      ∃ error m', publishRequest (recording host) prepared m = (.error (.eventIngress error), m'))) ∨
    (¬Publishable (recording host) prepared m ∧
      ∃ message m', publishRequest (recording host) prepared m = (.error (.protocol message), m')) := by
  rw [publishRequest_tracked]
  unfold publishTracked
  cases hmapping : m.mapper.threads[prepared.threadId]? with
  | none =>
    rw [Program.bind_of_error (trackedThread_of_none hmapping)]
    refine .inr ⟨?_, _, _, rfl⟩
    rintro ⟨mapping, -, hfound, -⟩
    rw [hmapping] at hfound
    cases hfound
  | some mapping =>
    rw [Program.bind_of_ok (trackedThread_of_some hmapping)]
    have hdrawn : newId (recording host) .event m =
        (.ok (host.newId .event m.host.1).1, ⟨m.mapper, (host.newId .event m.host.1).2, m.host.2⟩) :=
      rfl
    rw [Program.bind_of_ok hdrawn, bind_apply, Program.ofExcept]
    cases hnew : AgentEvent.new (host.newId .event m.host.1).1 mapping.sessionId
        mapping.nextSequence prepared.request.requestedAt
        (.interactionRequested prepared.request) with
    | error e =>
      refine .inr ⟨?_, _, _, rfl⟩
      rintro ⟨found, event, hfound, hevent, -⟩
      obtain rfl := Option.some.inj (hmapping.symm.trans hfound)
      cases hnew.symm.trans hevent
    | ok event =>
      obtain ⟨-, -, hpayload⟩ := event_of_new (congrArg domain hnew)
      have hpublishable : Publishable (recording host) prepared m ↔
          (committed (host.publishEvent (host.newId .event m.host.1).2 event).2 = true →
            mapping.nextSequence.checkedNext.isSome) := by
        constructor
        · rintro ⟨found, built, hfound, hbuilt, hgoes⟩
          obtain rfl := Option.some.inj (hmapping.symm.trans hfound)
          obtain rfl := Except.ok.inj (hnew.symm.trans hbuilt)
          exact hgoes
        · exact fun hgoes => ⟨mapping, event, hmapping, hnew, hgoes⟩
      have hevent : domain (.ok event) = .ok event := rfl
      rw [hpublishable, hevent]
      dsimp only
      rcases publishCommitted_outcome host event
          ⟨m.mapper, (host.newId .event m.host.1).2, m.host.2⟩ with
        ⟨htaken, b, hok⟩ | ⟨hrefused, error, m', herror⟩
      · have hfound : (trackedThread prepared.threadId : Mapping (B × List AgentEvent) ThreadMapping)
            ⟨m.mapper, b, m.host.2 ++ [event]⟩ = (.ok mapping, ⟨m.mapper, b, m.host.2 ++ [event]⟩) :=
          trackedThread_of_some hmapping
        rw [htaken, Program.bind_of_ok hok, Program.bind_of_ok hfound]
        cases mapping.nextSequence.checkedNext with
        | none => exact .inr ⟨by simp, _, _, rfl⟩
        | some next => exact .inl ⟨by simp, .inl ⟨event, _, rfl, hpayload, rfl⟩⟩
      · rw [hrefused, Program.bind_of_error herror]
        exact .inl ⟨by simp, .inr ⟨error, m', rfl⟩⟩

end Mapping

namespace Work

section Sections

variable {B α : Type} {host : ProviderHost B} {route : ApprovalRoute}

variable (host route) in
/-- The shared state as the next section finds it. -/
def found (s : Interleaved (Worker B) (Foreign B)) : Worker B :=
  (Interleaved.advance (Worker.foreign host route) s).state

theorem locked_part {τ : Type} (view : Worker B → τ) (put : Worker B → τ → Worker B)
    {x : Program τ CodexProviderSourceError α} {s : Interleaved (Worker B) (Foreign B)}
    {result : Sourced α} {t : τ} (h : x (view (found host route s)) = (result, t)) :
    ∃ s', locked host route (part view put x) s = (result.mapError Halt.source, s') ∧
      s'.state = put (found host route s) t := by
  refine ⟨⟨put (found host route s) t, (Interleaved.advance (Worker.foreign host route) s).schedule⟩,
    ?_, rfl⟩
  have hrun : locked host route (part view put x) s =
      (((x (view (found host route s))).1.mapError Halt.source),
        ⟨put (found host route s) (x (view (found host route s))).2,
          (Interleaved.advance (Worker.foreign host route) s).schedule⟩) := rfl
  rw [hrun, h]

end Sections

variable {B : Type} (host : ProviderHost B) (schema : ProtocolSchema) (route : ApprovalRoute)
  (answers : Bool) (requestId : RequestId) (params : Value)
  (s : Interleaved (Worker B) (Foreign B))

/-- The thread and the turn of the request are looked up. -/
def readContext : Work B (Option (SessionId × Option Value)) :=
  onMapping host route (Mapping.approvalContext (textOf params "threadId") (textOf params "turnId")
    (textOf params "itemId"))

/-- What the preparation of the request finds. -/
def atPreparation : Interleaved (Worker B) (Foreign B) := (readContext host route params s).2

/-- The form that the request becomes. -/
def preparation (session : SessionId) : Sourced PreparedApproval × B :=
  Hosting.prepareUserInput host params session
    (found host route (atPreparation host route params s)).mapping.host

/-- What the registration finds. -/
def atRegistration (session : SessionId) : Interleaved (Worker B) (Foreign B) :=
  (onHost host route (Hosting.prepareUserInput host params session)
    (atPreparation host route params s)).2

def registration (prepared : PreparedApproval) : Work B Unit :=
  onApprovals host route fun approvals =>
    approvals.register route requestId "item/tool/requestUserInput" prepared

/-- What the publication finds. -/
def atPublication (session : SessionId) (prepared : PreparedApproval) :
    Interleaved (Worker B) (Foreign B) :=
  (registration host route requestId prepared (atRegistration host route params s session)).2

/-- The registry takes one more request, and the identifier of this one is not in use. -/
structure Registrable (route : ApprovalRoute) (requestId : RequestId)
    (approvals : ApprovalRuntimeState) : Prop where
  room : approvals.pending.size < maxPendingApprovals
  unused : approvals.byRequest.contains ⟨route, requestId⟩ = false

theorem register_registrable {approvals : ApprovalRuntimeState} (method : String)
    {prepared : PreparedApproval} (hnew : approvals.pending.contains prepared.request.id = false) :
    ((approvals.register route requestId method prepared).1 = .ok () ∧
      Registrable route requestId approvals) ∨
    (¬Registrable route requestId approvals ∧ ∃ message,
      (approvals.register route requestId method prepared).1 = .error (.protocol message)) := by
  unfold ApprovalRuntimeState.register
  split
  · next hfull => exact .inr ⟨fun h => absurd h.room (by omega), _, rfl⟩
  · next hroom =>
    split
    · next hused => exact .inr ⟨fun h => absurd hused (by simp [h.unused]), _, rfl⟩
    · next hunused =>
      rw [if_neg (by simp [hnew])]
      exact .inl ⟨rfl, by omega, Bool.eq_false_iff.mpr hunused⟩

/-- A request on its turn reaches its preparation with the session of the thread. -/
theorem processApprovalRequest_prepares {mapping : ThreadMapping}
    (hshape : Shape.toolRequestUserInputParams params = true)
    (hturn : OnTurn (found host route s).mapping.mapper (textOf params "threadId")
      (textOf params "turnId") mapping) :
    processApprovalRequest host schema route answers requestId "item/tool/requestUserInput" params s =
      (onHost host route (Hosting.prepareUserInput host params mapping.sessionId) >>=
        publishPrepared host route requestId "item/tool/requestUserInput")
          (atPreparation host route params s) := by
  have hstring : ∀ field ∈ ["threadId", "turnId", "itemId"],
      stringField params field = .ok (textOf params field) := by
    intro field hfield
    apply stringField_textOf
    apply Shape.property_of_object hshape
    simp only [List.mem_cons, List.not_mem_nil, or_false] at hfield
    rcases hfield with rfl | rfl | rfl <;> simp
  obtain ⟨item, m', hcontext⟩ := Mapping.approvalContext_ok (textOf params "itemId") hturn
  obtain ⟨s', hs', -⟩ := locked_part Worker.mapping (fun w mapping => { w with mapping := mapping }) hcontext
  have hleft : atPreparation host route params s = s' := congrArg Prod.snd hs'
  have hread : readContext host route params s = (.ok (some (mapping.sessionId, item)), s') := hs'
  unfold processApprovalRequest
  have hok : ∀ (field : String) (f : String → Work B Unit) (t : Interleaved (Worker B) (Foreign B)),
      field ∈ ["threadId", "turnId", "itemId"] →
        (ofSourced (stringField params field) >>= f) t = f (textOf params field) t := by
    intro field f t hfield
    rw [hstring field hfield]
    rfl
  rw [hok _ _ _ (by simp), hok _ _ _ (by simp), hok _ _ _ (by simp)]
  show (readContext host route params >>= _) s = _
  rw [Program.bind_of_ok hread, hleft]
  rfl

section Publication

variable {B : Type} {host : ProviderHost B} {route : ApprovalRoute} {prepared : PreparedApproval}

variable (host route prepared) in
/-- The publication, and the removal of the interaction when it fails. -/
def publication : Work B Unit := do
  match ← Program.attempt (onMapping host route (Mapping.publishRequest host prepared)) with
  | .ok () => pure ()
  | .error error =>
    onApprovals host route fun approvals => (.ok (), approvals.remove prepared.request.id)
    Program.fail error

variable (route) in
theorem publication_of_ok {s : Interleaved (Worker B) (Foreign B)} {m : MapperState B}
    (h : Mapping.publishRequest host prepared (found host route s).mapping = (.ok (), m)) :
    ∃ s', publication host route prepared s = (.ok (), s') ∧ s'.state.mapping = m := by
  obtain ⟨s', hs', hstate⟩ := locked_part Worker.mapping (fun w mapping => { w with mapping := mapping }) h
  have hpublish : onMapping host route (Mapping.publishRequest host prepared) s = (.ok (), s') := hs'
  have hattempt : Program.attempt (onMapping host route (Mapping.publishRequest host prepared)) s =
      (.ok (.ok ()), s') := by
    rw [Program.attempt, hpublish]
  refine ⟨s', ?_, by rw [hstate]⟩
  unfold publication
  rw [Program.bind_of_ok hattempt]
  rfl

variable (route) in
theorem publication_of_error {s : Interleaved (Worker B) (Foreign B)} {m : MapperState B}
    {error : CodexProviderSourceError}
    (h : Mapping.publishRequest host prepared (found host route s).mapping = (.error error, m)) :
    (publication host route prepared s).1 = .error (.source error) := by
  obtain ⟨s', hs', -⟩ := locked_part Worker.mapping (fun w mapping => { w with mapping := mapping }) h
  have hpublish : onMapping host route (Mapping.publishRequest host prepared) s =
      (.error (.source error), s') := hs'
  have hattempt : Program.attempt (onMapping host route (Mapping.publishRequest host prepared)) s =
      (.ok (.error (.source error)), s') := by
    rw [Program.attempt, hpublish]
  unfold publication
  rw [Program.bind_of_ok hattempt]
  rfl

theorem publishPrepared_eq (requestId : RequestId) :
    publishPrepared host route requestId "item/tool/requestUserInput" prepared =
      (registration host route requestId prepared >>= fun _ => publication host route prepared) := rfl

end Publication

section Handled

variable {B : Type} (host : ProviderHost B) (schema : ProtocolSchema) (route : ApprovalRoute)
  (answers : Bool) (requestId : RequestId) (params : Value) (session : SessionId)
  (s : Interleaved (Worker (B × List AgentEvent)) (Foreign (B × List AgentEvent)))

/-- The request does not end the worker; unless the host refuses its event, the interaction is
registered and published once. -/
structure Handled : Prop where
  survives : ∀ message, (processApprovalRequest (recording host) schema route answers requestId
    "item/tool/requestUserInput" params s).1 ≠ .error (.source (.protocol message))
  presents : (processApprovalRequest (recording host) schema route answers requestId
      "item/tool/requestUserInput" params s).1 = .ok () →
    ∃ prepared event, (preparation (recording host) route params s session).1 = .ok prepared ∧
      (registration (recording host) route requestId prepared
        (atRegistration (recording host) route params s session)).1 = .ok () ∧
      event.payload = .interactionRequested prepared.request ∧
      (processApprovalRequest (recording host) schema route answers requestId
        "item/tool/requestUserInput" params s).2.state.mapping.host.2 =
          (found (recording host) route (atPublication (recording host) route requestId params s
            session prepared)).mapping.host.2 ++ [event]

/-- Everything in the request can be shown, and the registry and the thread take it as they are
found. -/
structure Admitted : Prop where
  readable : ReadableForm params
  registrable : Registrable route requestId
    (found (recording host) route (atRegistration (recording host) route params s session)).approvals
  publishable : ∀ prepared, (preparation (recording host) route params s session).1 = .ok prepared →
    Mapping.Publishable (recording host) prepared
      (found (recording host) route (atPublication (recording host) route requestId params s session
        prepared)).mapping

end Handled

/-- On its turn, with fresh identifiers, a schema-valid request is handled exactly if it is
admitted. -/
theorem processApprovalRequest_handled_iff {B : Type} (host : ProviderHost B)
    (schema : ProtocolSchema) (route : ApprovalRoute) (answers : Bool) (requestId : RequestId)
    {params : Value} {mapping : ThreadMapping}
    {s : Interleaved (Worker (B × List AgentEvent)) (Foreign (B × List AgentEvent))}
    (hshape : Shape.toolRequestUserInputParams params = true)
    (hturn : OnTurn (found (recording host) route s).mapping.mapper (textOf params "threadId")
      (textOf params "turnId") mapping)
    (hfresh : Hosting.FreshDraws (Hosting.questionDraws (recording host) (questionsOf params)
      (found (recording host) route (atPreparation (recording host) route params s)).mapping.host))
    (hnew : ∀ prepared,
      (preparation (recording host) route params s mapping.sessionId).1 = .ok prepared →
        (found (recording host) route (atRegistration (recording host) route params s
          mapping.sessionId)).approvals.pending.contains prepared.request.id = false) :
    Handled host schema route answers requestId params mapping.sessionId s ↔
      Admitted host route requestId params mapping.sessionId s := by
  have hrun := processApprovalRequest_prepares (recording host) schema route answers requestId
    params s hshape hturn
  rcases Hosting.prepareUserInput_cases mapping.sessionId hshape hfresh with
    ⟨hreadable, prepared, b, hprepared⟩ | ⟨hblank, message, b, hrefused⟩
  · obtain ⟨s₁, hs₁, -⟩ := locked_part (fun w => w.mapping.host)
      (fun w b => { w with mapping := { w.mapping with host := b } }) hprepared
    have hprepare : onHost (recording host) route
        (Hosting.prepareUserInput (recording host) params mapping.sessionId)
        (atPreparation (recording host) route params s) = (.ok prepared, s₁) := hs₁
    have hpreparation : preparation (recording host) route params s mapping.sessionId =
        (.ok prepared, b) := hprepared
    have hfound : atRegistration (recording host) route params s mapping.sessionId = s₁ :=
      congrArg Prod.snd hprepare
    rw [Program.bind_of_ok hprepare, publishPrepared_eq] at hrun
    have hfree := hnew prepared (congrArg Prod.fst hpreparation)
    rw [hfound] at hfree
    rcases hregistered : registration (recording host) route requestId prepared s₁ with ⟨result, s₂⟩
    have hregister : ((found (recording host) route s₁).approvals.register route requestId
        "item/tool/requestUserInput" prepared).1.mapError Halt.source = result :=
      congrArg Prod.fst hregistered
    have hleft : atPublication (recording host) route requestId params s mapping.sessionId prepared =
        s₂ := by
      rw [atPublication, hfound, hregistered]
    have hadmitted : Registrable route requestId (found (recording host) route s₁).approvals →
        Mapping.Publishable (recording host) prepared (found (recording host) route s₂).mapping →
        Admitted host route requestId params mapping.sessionId s := by
      intro hregistrable hpublishable
      refine ⟨hreadable, hfound ▸ hregistrable, fun other hother => ?_⟩
      obtain rfl := Except.ok.inj ((congrArg Prod.fst hpreparation).symm.trans hother)
      rw [hleft]
      exact hpublishable
    rcases register_registrable route requestId "item/tool/requestUserInput" hfree with
      ⟨hok, hregistrable⟩ | ⟨hnot, message, herror⟩
    · rw [hok] at hregister
      obtain rfl : .ok () = result := hregister
      rw [Program.bind_of_ok hregistered] at hrun
      rcases Mapping.publishRequest_cases host prepared
          (found (recording host) route s₂).mapping with
        ⟨hpublishable, ⟨event, m, hpublished, hpayload, hrecord⟩ | ⟨error, m, hrefused⟩⟩ |
        ⟨hnot, message, m, hfailed⟩
      · obtain ⟨t, ht, hmapping⟩ := publication_of_ok route hpublished
        rw [ht] at hrun
        refine iff_of_true ⟨fun message h => ?_, fun _ => ?_⟩ (hadmitted hregistrable hpublishable)
        · rw [hrun] at h
          cases h
        · refine ⟨prepared, event, congrArg Prod.fst hpreparation, ?_, hpayload, ?_⟩
          · rw [hfound, hregistered]
          · rw [hrun, hleft, ← hrecord, ← hmapping]
      · have hended := publication_of_error route hrefused
        refine iff_of_true ⟨fun message h => ?_, fun h => ?_⟩ (hadmitted hregistrable hpublishable)
        · rw [hrun, hended] at h
          cases h
        · rw [hrun, hended] at h
          cases h
      · have hended := publication_of_error route hfailed
        refine iff_of_false (fun h => h.survives message (hrun ▸ hended)) fun h => hnot ?_
        rw [← hleft]
        exact h.publishable prepared (congrArg Prod.fst hpreparation)
    · rw [herror] at hregister
      obtain rfl : .error (.source (.protocol message)) = result := hregister
      rw [Program.bind_of_error hregistered] at hrun
      refine iff_of_false (fun h => h.survives message (congrArg Prod.fst hrun)) fun h => hnot ?_
      rw [← hfound]
      exact h.registrable
  · obtain ⟨s₁, hs₁, -⟩ := locked_part (fun w => w.mapping.host)
      (fun w b => { w with mapping := { w.mapping with host := b } }) hrefused
    have hprepare : onHost (recording host) route
        (Hosting.prepareUserInput (recording host) params mapping.sessionId)
        (atPreparation (recording host) route params s) =
          (.error (.source (.protocol message)), s₁) := hs₁
    rw [Program.bind_of_error hprepare] at hrun
    exact iff_of_false (fun h => h.survives message (congrArg Prod.fst hrun)) fun h =>
      hblank h.readable

end Work

namespace Sample

/-- One question with one option. -/
def inputParams (description : String) : Value :=
  .object [
    ("threadId", .string Codex.Sample.thread), ("turnId", .string "t1"), ("itemId", .string "i1"),
    ("isBlocking", .bool true), ("questions", .array [
      .object [
        ("id", .string "q1"), ("header", .string "Scope"), ("question", .string "Which files?"),
        ("options", .array [
          .object [("label", .string "All"), ("description", .string description)]])]])]

/-- The worker while the thread runs its turn and nothing is pending. -/
def inputAsked : Interleaved (Worker (Nat × List AgentEvent)) (Foreign (Nat × List AgentEvent)) :=
  ⟨{ mapping := ⟨(discovered.step host (turnStarted "t1")).1.mapper, 9, []⟩
     controls := .new
     approvals := .new
     protocol := .new
     pending := ∅
     writes := []
     log := [] }, []⟩

def inputMapping : ThreadMapping :=
  (inputAsked.state.mapping.mapper.threads[Codex.Sample.thread]?).get (by decide +kernel)

theorem inputAsked_onTurn (description : String) :
    OnTurn (Work.found (recording host) .observer inputAsked).mapping.mapper
      (textOf (inputParams description) "threadId") (textOf (inputParams description) "turnId")
      inputMapping := by
  have hthread : textOf (inputParams description) "threadId" = Codex.Sample.thread := rfl
  have hturn : textOf (inputParams description) "turnId" = "t1" := rfl
  rw [hthread, hturn]
  exact ⟨by decide +kernel, by decide +kernel, by decide +kernel⟩

end Sample

namespace Work

open AgentPulse.Codex.Sample (inputAsked inputMapping inputAsked_onTurn inputParams)

/-- A question whose texts can all be shown is handled. -/
theorem processApprovalRequest_handled_readable :
    Handled Sample.host Sample.schema .observer true (.number 7) (inputParams "Every file")
      inputMapping.sessionId inputAsked := by
  have hunchanged : (found (recording Sample.host) .observer (atRegistration
      (recording Sample.host) .observer (inputParams "Every file") inputAsked
        inputMapping.sessionId)).approvals = .new := rfl
  obtain ⟨prepared, hprepared⟩ : ∃ prepared, (preparation (recording Sample.host) .observer
      (inputParams "Every file") inputAsked inputMapping.sessionId).1 = .ok prepared := by
    have hok : (preparation (recording Sample.host) .observer (inputParams "Every file") inputAsked
        inputMapping.sessionId).1.toOption.isSome = true := by decide +kernel
    obtain ⟨prepared, hprepared⟩ := Option.isSome_iff_exists.mp hok
    exact ⟨prepared, Fallible.toOption_eq_some.mp hprepared⟩
  have hrun : preparation (recording Sample.host) .observer (inputParams "Every file") inputAsked
      inputMapping.sessionId = (.ok prepared, _) := Prod.ext hprepared rfl
  obtain ⟨entries, hform⟩ := Hosting.prepareUserInput_of_ok hrun
  refine (processApprovalRequest_handled_iff Sample.host Sample.schema .observer true (.number 7)
    (by decide +kernel) (inputAsked_onTurn _) ⟨by decide +kernel, by decide +kernel⟩ ?_).mpr
      ⟨hform.readable, ?_, ?_⟩
  · intro other hother
    rw [hunchanged]
    rfl
  · rw [hunchanged]
    exact ⟨by decide +kernel, by decide +kernel⟩
  · intro other hother
    obtain rfl := Except.ok.inj (hprepared.symm.trans hother)
    have hthread : prepared.threadId = Codex.Sample.thread :=
      (Except.ok.inj (hform.threadId.symm.trans rfl))
    have hmapper : (found (recording Sample.host) .observer (atPublication (recording Sample.host)
        .observer (.number 7) (inputParams "Every file") inputAsked inputMapping.sessionId
          prepared)).mapping.mapper = inputAsked.state.mapping.mapper := rfl
    obtain ⟨event, hevent⟩ : ∃ event, AgentEvent.new ((recording Sample.host).newId .event
        (found (recording Sample.host) .observer (atPublication (recording Sample.host) .observer
          (.number 7) (inputParams "Every file") inputAsked inputMapping.sessionId
            prepared)).mapping.host).1 inputMapping.sessionId inputMapping.nextSequence
        prepared.request.requestedAt (.interactionRequested prepared.request) = .ok event :=
      ⟨_, dif_pos hform.session⟩
    refine ⟨inputMapping, event, ?_, hevent, fun _ => by decide +kernel⟩
    rw [hthread, hmapper]
    exact (inputAsked_onTurn "Every file").tracked

/-- A blank description passes the schema and ends the worker. -/
theorem processApprovalRequest_blank :
    Shape.toolRequestUserInputParams (inputParams " ") = true ∧
    (processApprovalRequest (recording Sample.host) Sample.schema .observer true (.number 7)
      "item/tool/requestUserInput" (inputParams " ") inputAsked).1 = .error (.source (.protocol
        "domain mapping rejected Codex data: text must not be blank")) ∧
    ¬Handled Sample.host Sample.schema .observer true (.number 7) (inputParams " ")
      inputMapping.sessionId inputAsked := by
  have hends : (processApprovalRequest (recording Sample.host) Sample.schema .observer true (.number 7)
      "item/tool/requestUserInput" (inputParams " ") inputAsked).1 = .error (.source (.protocol
        "domain mapping rejected Codex data: text must not be blank")) := by decide +kernel
  exact ⟨by decide +kernel, hends, fun h => h.survives _ hends⟩

end Work

end Codex

end AgentPulse
