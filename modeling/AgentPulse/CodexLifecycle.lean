import AgentPulse.CodexOutbound
import AgentPulse.Trace

/-!
# The life of a pending request

Over any sequence of operations the index and the entries name each other, each
queued answer belongs to one claimed entry, and no more requests wait than the
registry has room for. An interaction is registered, answered at most once and
removed once; only then it can be registered again.
-/
namespace AgentPulse

namespace Codex

open Std (ExtTreeMap)

namespace ApprovalRuntimeState

/-- The registry after an operation, with the registry it started from. -/
def step (s : ApprovalRuntimeState) (op : ApprovalOp) :
    ApprovalRuntimeState × ApprovalRuntimeState :=
  (op.apply s, s)

def run (ops : List ApprovalOp) : ApprovalRuntimeState := Trace.final step new ops

/-- A queued answer is one to the request of the entry. -/
structure Answers (p : PendingApproval) (outbound : OutboundApproval) : Prop where
  route : outbound.route = p.route
  requestId : outbound.requestId = p.requestId
  method : outbound.method = p.method

/-- What holds after any operations. -/
structure Orderly (s : ApprovalRuntimeState) : Prop where
  indexed : Indexed s
  answers : ∀ outbound ∈ s.outbound, ∃ p, s.pending[outbound.interactionId]? = some p ∧
    Answers p outbound ∧ p.status ≠ .awaiting
  nodup : (s.outbound.map OutboundApproval.interactionId).Nodup
  room : s.pending.size ≤ maxPendingApprovals

theorem sentStatus_ne_awaiting {response : InteractionResponse} {status : PendingStatus}
    (h : sentStatus response = .ok status) : status ≠ .awaiting := by
  rintro rfl
  unfold sentStatus at h
  split at h <;> cases h

theorem popOutboundFor_sublist (s : ApprovalRuntimeState) (route : ApprovalRoute) :
    (s.popOutboundFor route).2.outbound.Sublist s.outbound := by
  unfold popOutboundFor
  split
  · exact List.Sublist.refl _
  · exact List.eraseP_sublist

/-- An answer to a form is refused in one way. -/
theorem formAnswers_error {questionIds : ExtTreeMap FormFieldId String}
    {optionValues : ExtTreeMap ChoiceOptionId String} {allowsText : ExtTreeMap FormFieldId Bool}
    {sofar : List (String × Value)} {given : List FormAnswer} {e : CodexProviderPortError}
    (h : formAnswers questionIds optionValues allowsText sofar given = .error e) :
    e = .unsupportedInteractionResponse := by
  induction given generalizing sofar with
  | nil => cases h
  | cons answer rest ih =>
    unfold formAnswers at h
    split at h
    · cases h
      rfl
    · split at h
      · next hvalue =>
        cases h
        unfold answerValue at hvalue
        split at hvalue
        · split at hvalue <;> cases hvalue
          rfl
        · split at hvalue <;> cases hvalue
          rfl
      · exact ih h

/-- An answer without a result is unsupported or selects an option that was not offered. -/
theorem responseResult_error {id : InteractionId} {mapping : ResponseMapping}
    {payload : InteractionResponsePayload} {e : CodexProviderPortError}
    (h : responseResult id mapping payload = .error e) :
    e = .unsupportedInteractionResponse ∨ ∃ option, e = .unknownApprovalOption id option := by
  unfold responseResult at h
  split at h
  · split at h
    · cases h
    · cases h
      exact .inr ⟨_, rfl⟩
  · next questionIds optionValues allowsText form =>
    cases hform : formAnswers questionIds optionValues allowsText [] form.answers with
    | ok answers =>
      rw [hform] at h
      cases h
    | error refused =>
      rw [hform] at h
      cases h
      exact .inl (formAnswers_error hform)
  · cases h
    exact .inl rfl

theorem register_room {s : ApprovalRuntimeState} {route : ApprovalRoute} {requestId : RequestId}
    {method : String} {prepared : PreparedApproval}
    (h : (s.register route requestId method prepared).1 = .ok ()) :
    s.pending.size < maxPendingApprovals := by
  unfold register at h
  split at h
  · cases h
  · next hroom => exact Nat.lt_of_not_le hroom

theorem Removes.size_le {gone : InteractionId → Bool} {s s' : ApprovalRuntimeState}
    (h : Removes gone s s') : s'.pending.size ≤ s.pending.size := by
  rw [← ExtTreeMap.length_keys (t := s'.pending)]
  apply OrderedMap.length_le_size ExtTreeMap.nodup_keys
  intro id hid
  have hsome := ExtTreeMap.mem_iff_isSome_getElem?.mp (ExtTreeMap.mem_keys.mp hid)
  obtain ⟨p, hp⟩ := Option.isSome_iff_exists.mp hsome
  apply ExtTreeMap.mem_iff_isSome_getElem?.mpr
  rw [(h.kept hp).1]
  rfl

theorem restatus_size {s : ApprovalRuntimeState} {id : InteractionId} {p q : PendingApproval}
    (hp : s.pending[id]? = some p) : (s.pending.insert id q).size = s.pending.size := by
  have hmem : id ∈ s.pending := by
    apply ExtTreeMap.mem_iff_isSome_getElem?.mpr
    rw [hp]
    rfl
  rw [ExtTreeMap.size_insert, if_pos (ExtTreeMap.contains_iff_mem.mpr hmem)]

namespace Orderly

variable {s s' : ApprovalRuntimeState}

theorem new : Orderly .new where
  indexed := indexed_new
  answers outbound h := by cases h
  nodup := List.nodup_nil
  room := by simp [ApprovalRuntimeState.new]

/-- There is an entry for every queued answer, so there is room for one more
answer while an entry waits. -/
theorem outbound_lt (h : Orderly s) {id : InteractionId} {p : PendingApproval}
    (hp : s.pending[id]? = some p) (hawaiting : p.status = .awaiting) :
    s.outbound.length < s.pending.size := by
  have hnot : id ∉ s.outbound.map OutboundApproval.interactionId := by
    intro hid
    obtain ⟨outbound, hmem, rfl⟩ := List.mem_map.mp hid
    obtain ⟨q, hq, -, hclaimed⟩ := h.answers outbound hmem
    rw [hp] at hq
    cases hq
    exact hclaimed hawaiting
  have hlength : (id :: s.outbound.map OutboundApproval.interactionId).length ≤ s.pending.size := by
    apply OrderedMap.length_le_size (List.nodup_cons.mpr ⟨hnot, h.nodup⟩)
    intro a ha
    apply ExtTreeMap.mem_iff_isSome_getElem?.mpr
    rcases List.mem_cons.mp ha with rfl | ha
    · rw [hp]
      rfl
    · obtain ⟨outbound, hmem, rfl⟩ := List.mem_map.mp ha
      obtain ⟨q, hq, -⟩ := h.answers outbound hmem
      rw [hq]
      rfl
  simpa using hlength

theorem outbound_le (h : Orderly s) : s.outbound.length ≤ s.pending.size := by
  rw [← List.length_map OutboundApproval.interactionId]
  apply OrderedMap.length_le_size h.nodup
  intro a ha
  obtain ⟨outbound, hmem, rfl⟩ := List.mem_map.mp ha
  obtain ⟨q, hq, -⟩ := h.answers outbound hmem
  apply ExtTreeMap.mem_iff_isSome_getElem?.mpr
  rw [hq]
  rfl

/-- The queue of answers is never what refuses an answer. -/
theorem claim_not_full (h : Orderly s) (response : InteractionResponse) (capacity : Nat) :
    (s.claim response).1 ≠ .error (.outboundQueueFull capacity) := by
  unfold claim
  cases hp : s.pending[response.requestId]? with
  | none => simp
  | some p =>
    dsimp only
    split
    · simp
    · split
      · simp
      · next hstatus =>
        have hroom : ¬ s.outbound.length ≥ maxPendingApprovals := by
          have hlt := h.outbound_lt hp (not_not.mp hstatus)
          have hle := h.room
          omega
        cases hresult : responseResult response.requestId p.responseMapping response.payload with
        | error e =>
          rintro ⟨rfl⟩
          obtain hunsupported | ⟨option, hoption⟩ := responseResult_error hresult
          · cases hunsupported
          · cases hoption
        | ok result =>
          dsimp only
          rw [if_neg hroom]
          simp

/-- The same answers, or fewer, to entries that are still claimed. -/
theorem of_sublist (h : Orderly s) (hindexed : Indexed s')
    (houtbound : s'.outbound.Sublist s.outbound) (hsize : s'.pending.size ≤ s.pending.size)
    (hkept : ∀ outbound ∈ s'.outbound, ∀ p, s.pending[outbound.interactionId]? = some p →
      Answers p outbound → p.status ≠ .awaiting →
      ∃ q, s'.pending[outbound.interactionId]? = some q ∧ Answers q outbound ∧
        q.status ≠ .awaiting) :
    Orderly s' where
  indexed := hindexed
  answers outbound hmem := by
    obtain ⟨p, hp, hanswers, hclaimed⟩ := h.answers outbound (houtbound.subset hmem)
    exact hkept outbound hmem p hp hanswers hclaimed
  nodup := h.nodup.sublist (houtbound.map _)
  room := hsize.trans h.room

theorem removes (h : Orderly s) {gone : InteractionId → Bool} (hr : Removes gone s s') :
    Orderly s' := by
  apply h.of_sublist (hr.indexed h.indexed)
  · rw [hr.outbound]
    exact List.filter_sublist
  · exact hr.size_le
  · intro outbound hmem p hp hanswers hclaimed
    rw [hr.outbound] at hmem
    have hstays : gone outbound.interactionId = false := by
      simpa using (List.mem_filter.mp hmem).2
    exact ⟨p, by rw [hr.pending, hstays]; exact hp, hanswers, hclaimed⟩

theorem added (h : Orderly s) {key : RequestKey} {id : InteractionId} {p : PendingApproval}
    (hkey : s.byRequest[key]? = none) (hid : s.pending[id]? = none) (hp : p.key = key)
    (hroom : s.pending.size < maxPendingApprovals) :
    Orderly
      { s with byRequest := s.byRequest.insert key id, pending := s.pending.insert id p } where
  indexed := ApprovalOp.added_indexed h.indexed hkey hid hp
  answers outbound hmem := by
    obtain ⟨q, hq, hanswers, hclaimed⟩ := h.answers outbound hmem
    have hne : id ≠ outbound.interactionId := by
      rintro rfl
      rw [hid] at hq
      cases hq
    exact ⟨q, by simpa [OrderedMap.getElem?_insert, hne] using hq, hanswers, hclaimed⟩
  nodup := h.nodup
  room := ExtTreeMap.size_insert_le.trans hroom

theorem restatus (h : Orderly s) {id : InteractionId} {p : PendingApproval}
    (hp : s.pending[id]? = some p) {status : PendingStatus} (hstatus : status ≠ .awaiting) :
    Orderly { s with pending := s.pending.insert id { p with status := status } } := by
  apply h.of_sublist (h.indexed.restatus hp status s.outbound) (List.Sublist.refl _)
  · exact (restatus_size hp).le
  · intro outbound hmem q hq hanswers hclaimed
    by_cases hid : id = outbound.interactionId
    · rw [← hid, hp] at hq
      cases hq
      refine ⟨{ p with status := status }, by simp [hid], ?_, hstatus⟩
      exact ⟨hanswers.route, hanswers.requestId, hanswers.method⟩
    · exact ⟨q, by simpa [OrderedMap.getElem?_insert, hid] using hq, hanswers, hclaimed⟩

/-- An entry that is claimed has no answer yet, and gets one. -/
theorem claimed (h : Orderly s) {response : InteractionResponse} {p : PendingApproval}
    (hp : s.pending[response.requestId]? = some p) (hawaiting : p.status = .awaiting)
    (result : Value) :
    Orderly
      { s with
        pending := s.pending.insert response.requestId { p with status := .queued response }
        outbound := s.outbound ++
          [⟨p.route, response.requestId, p.requestId, p.method, result⟩] } := by
  have hqueued : Orderly { s with
      pending := s.pending.insert response.requestId { p with status := .queued response } } :=
    h.restatus hp (by simp)
  constructor
  · exact h.indexed.restatus hp _ _
  · intro outbound hmem
    rcases List.mem_append.mp hmem with hmem | hmem
    · exact hqueued.answers outbound hmem
    · cases List.mem_singleton.mp hmem
      exact ⟨{ p with status := .queued response }, by simp, ⟨rfl, rfl, rfl⟩, by simp⟩
  · show (List.map _ (s.outbound ++ _)).Nodup
    rw [List.map_append]
    apply List.nodup_append.mpr
    refine ⟨h.nodup, List.nodup_singleton _, ?_⟩
    rintro a ha b hb rfl
    obtain ⟨outbound, hmem, hout⟩ := List.mem_map.mp ha
    obtain ⟨q, hq, -, hclaimed⟩ := h.answers outbound hmem
    rw [hout, List.mem_singleton.mp hb, hp] at hq
    cases hq
    exact hclaimed hawaiting
  · exact hqueued.room

theorem apply (h : Orderly s) (op : ApprovalOp) : Orderly (op.apply s) := by
  have heffect := ApprovalOp.apply_effect h.indexed op
  generalize hnext : op.apply s = s' at heffect ⊢
  cases heffect with
  | refused => exact h
  | removed _ hr => exact h.removes hr
  | added route requestId method prepared hkey hid =>
    apply h.added hkey hid rfl
    obtain ⟨e, he⟩ | ⟨-, -, hok⟩ := register_cases s route requestId method prepared
    · have hsame : (s.register route requestId method prepared).2.pending[prepared.request.id]? =
          some (registered route requestId method prepared) := by
        rw [show (s.register route requestId method prepared).2 = _ from hnext]
        simp
      rw [he, hid] at hsame
      cases hsame
    · exact register_room (by rw [hok])
  | claimed response p result hp hawaiting => exact h.claimed hp hawaiting result
  | popped route =>
    apply h.of_sublist
    · have hindexed := ApprovalOp.apply_indexed h.indexed (.popOutboundFor route)
      exact hindexed
    · exact popOutboundFor_sublist s route
    · rw [popOutboundFor_pending]
    · intro outbound hmem p hp hanswers hclaimed
      exact ⟨p, by rw [popOutboundFor_pending]; exact hp, hanswers, hclaimed⟩
  | marked id p response status hp hstatus hsent =>
    exact h.restatus hp (sentStatus_ne_awaiting hsent)

end Orderly

theorem run_orderly (ops : List ApprovalOp) : Orderly (run ops) :=
  Trace.final_invariant step Orderly (fun _ op h => h.apply op) new ops Orderly.new

/-- An answer is marked as written only once it has left the queue. -/
def MarksTaken (s : ApprovalRuntimeState) (op : ApprovalOp) : Prop :=
  ∀ id, op = .markSent id → ∀ outbound ∈ s.outbound, outbound.interactionId ≠ id

theorem run_reached {ops : List ApprovalOp} (h : Trace.Along step MarksTaken new ops) :
    Reached (run ops) :=
  Trace.along_invariant step MarksTaken Reached (fun _ op hs hmark => .step op hs hmark) h .new

/-- The entry of a queued answer still waits for it. -/
theorem Reached.queued {s : ApprovalRuntimeState} (h : Reached s) {outbound : OutboundApproval}
    (hmem : outbound ∈ s.outbound) :
    ∃ p response, s.pending[outbound.interactionId]? = some p ∧ p.status = .queued response := by
  have hanswer : outbound.interactionId ∈ s.answers outbound.route := by
    apply List.mem_map_of_mem
    exact List.mem_filter.mpr ⟨hmem, by simp⟩
  obtain ⟨p, response, status, hp, -, hqueued, -⟩ :=
    (h.sound outbound.route).waits outbound.interactionId (by simpa using hanswer)
  exact ⟨p, response, hp, hqueued⟩

/-- The four operations that may fail change nothing when they do. -/
structure FailsInPlace (s : ApprovalRuntimeState) : Prop where
  register : ∀ route requestId method prepared e,
    (s.register route requestId method prepared).1 = .error e →
      (s.register route requestId method prepared).2 = s
  claim : ∀ response e, (s.claim response).1 = .error e → (s.claim response).2 = s
  markSent : ∀ id e, (s.markSent id).1 = .error e → (s.markSent id).2 = s
  resolve : ∀ route requestId threadId e, (s.resolve route requestId threadId).1 = .error e →
    (s.resolve route requestId threadId).2 = s

theorem failsInPlace (s : ApprovalRuntimeState) : FailsInPlace s where
  register route requestId method prepared e h := by
    obtain ⟨error, he⟩ | ⟨-, -, hok⟩ := register_cases s route requestId method prepared
    · rw [he]
    · rw [hok] at h
      cases h
  claim response e h := by
    obtain ⟨error, he⟩ | ⟨p, result, -, -, -, hok⟩ := claim_cases s response
    · rw [he]
    · rw [hok] at h
      cases h
  markSent id e h := by
    obtain ⟨error, he⟩ | ⟨p, response, status, -, -, -, hok⟩ := markSent_cases s id
    · rw [he]
    · rw [hok] at h
      cases h
  resolve route requestId threadId e h := by
    unfold resolve at h ⊢
    cases hk : s.byRequest[(⟨route, requestId⟩ : RequestKey)]? with
    | none => rfl
    | some id =>
      cases hp : s.pending[id]? with
      | none => simp only [hp]
      | some p =>
        simp only [hk, hp] at h ⊢
        split
        · rfl
        · next hthread =>
          rw [if_neg hthread] at h
          cases h

end ApprovalRuntimeState

/-- What happens to one interaction. -/
inductive LifeEvent where
  | registered
  | claimed
  | left
  deriving DecidableEq, Repr

/-- Where an interaction stands. -/
inductive Life where
  | absent
  | waiting
  | answered
  deriving DecidableEq, Repr

/-- The order in which things may happen: one answer at most after a registration,
and one removal before the next. -/
def Life.next : Life → LifeEvent → Option Life
  | .absent, .registered => some .waiting
  | .waiting, .claimed => some .answered
  | .waiting, .left => some .absent
  | .answered, .left => some .absent
  | _, _ => none

namespace ApprovalOp

def registers (s : ApprovalRuntimeState) (id : InteractionId) : ApprovalOp → Bool
  | .register route requestId method prepared =>
    prepared.request.id == id && (s.register route requestId method prepared).1.isOk
  | _ => false

def claims (s : ApprovalRuntimeState) (id : InteractionId) : ApprovalOp → Bool
  | .claim response => response.requestId == id && (s.claim response).1.isOk
  | _ => false

/-- The operation takes the interaction out of the registry. -/
def takesOut (s : ApprovalRuntimeState) (id : InteractionId) (op : ApprovalOp) : Bool :=
  s.pending[id]?.isSome && (op.apply s).pending[id]?.isNone

def lifeEvents (id : InteractionId) (op : ApprovalOp) (s : ApprovalRuntimeState) :
    List LifeEvent :=
  (if op.registers s id then [.registered] else []) ++
    (if op.claims s id then [.claimed] else []) ++
    (if op.takesOut s id then [.left] else [])

end ApprovalOp

namespace ApprovalRuntimeState

/-- All that happened to an interaction, in order. -/
def lifeOf (id : InteractionId) (ops : List ApprovalOp) : List LifeEvent :=
  Trace.collected step (ApprovalOp.lifeEvents id) new ops

def life (s : ApprovalRuntimeState) (id : InteractionId) : Life :=
  match s.pending[id]? with
  | none => .absent
  | some p => if p.status = .awaiting then .waiting else .answered

theorem life_congr {s s' : ApprovalRuntimeState} {id : InteractionId}
    (h : s'.pending[id]? = s.pending[id]?) : s'.life id = s.life id := by
  unfold life
  rw [h]

/-- An operation that neither registers nor claims takes an interaction out or
leaves it where it stands. -/
theorem life_kept {s s' : ApprovalRuntimeState} {op : ApprovalOp} (heffect : op.Effect s s')
    (hregister : ∀ route requestId method prepared, op ≠ .register route requestId method prepared)
    (hclaim : ∀ response, op ≠ .claim response) (id : InteractionId) :
    s'.pending[id]? = none ∨ s'.life id = s.life id := by
  cases heffect with
  | refused => exact .inr rfl
  | removed _ h =>
    have hpending := h.pending id
    split at hpending
    · exact .inl hpending
    · exact .inr (life_congr hpending)
  | added route requestId method prepared => exact absurd rfl (hregister route requestId method prepared)
  | claimed response => exact absurd rfl (hclaim response)
  | popped route =>
    apply Or.inr
    apply life_congr
    rw [popOutboundFor_pending]
  | marked marked p response status hp hstatus hsent =>
    apply Or.inr
    by_cases hid : marked = id
    · subst hid
      have hclaimed := sentStatus_ne_awaiting hsent
      simp [life, hp, hstatus, hclaimed]
    · apply life_congr
      simp [OrderedMap.getElem?_insert, hid]

/-- Such an operation is at most a removal in the life of the interaction. -/
theorem life_quiet {s : ApprovalRuntimeState} {op : ApprovalOp} {id : InteractionId}
    (hregister : op.registers s id = false) (hclaim : op.claims s id = false)
    (h : (op.apply s).pending[id]? = none ∨ (op.apply s).life id = s.life id) :
    (op.lifeEvents id s).foldlM Life.next (s.life id) = some ((op.apply s).life id) := by
  have hevents : op.lifeEvents id s = if op.takesOut s id then [.left] else [] := by
    simp [ApprovalOp.lifeEvents, hregister, hclaim]
  rw [hevents]
  cases hbefore : s.pending[id]? with
  | none =>
    have hstays : op.takesOut s id = false := by simp [ApprovalOp.takesOut, hbefore]
    have habsent : (op.apply s).life id = s.life id := by
      rcases h with h | h
      · simp [life, h, hbefore]
      · exact h
    rw [hstays, habsent]
    rfl
  | some p =>
    cases hafter : (op.apply s).pending[id]? with
    | none =>
      have hleaves : op.takesOut s id = true := by simp [ApprovalOp.takesOut, hbefore, hafter]
      rw [hleaves]
      by_cases hstatus : p.status = .awaiting
      · simp [life, hbefore, hafter, hstatus, Life.next]
      · simp [life, hbefore, hafter, hstatus, Life.next]
    | some q =>
      have hstays : op.takesOut s id = false := by simp [ApprovalOp.takesOut, hafter]
      have hsame : (op.apply s).life id = s.life id := by
        rcases h with h | h
        · rw [h] at hafter
          cases hafter
        · exact h
      rw [hstays, hsame]
      rfl

theorem life_register (s : ApprovalRuntimeState) (id : InteractionId) (route : ApprovalRoute)
    (requestId : RequestId) (method : String) (prepared : PreparedApproval) :
    ((ApprovalOp.register route requestId method prepared).lifeEvents id s).foldlM Life.next
      (s.life id) = some ((s.register route requestId method prepared).2.life id) := by
  have hregisters : (ApprovalOp.register route requestId method prepared).registers s id =
      (prepared.request.id == id && (s.register route requestId method prepared).1.isOk) := rfl
  obtain ⟨e, he⟩ | ⟨-, hid, hok⟩ := register_cases s route requestId method prepared
  · apply life_quiet
    · rw [hregisters, he]
      simp [Except.isOk, Except.toBool]
    · rfl
    · apply Or.inr
      show (s.register route requestId method prepared).2.life id = _
      rw [he]
  · by_cases hown : prepared.request.id = id
    · subst hown
      have htakes : (ApprovalOp.register route requestId method prepared).takesOut s
          prepared.request.id = false := by simp [ApprovalOp.takesOut, hid]
      have hclaims : (ApprovalOp.register route requestId method prepared).claims s
          prepared.request.id = false := rfl
      have hregistered : (ApprovalOp.register route requestId method prepared).registers s
          prepared.request.id = true := by
        rw [hregisters, hok]
        simp [Except.isOk, Except.toBool]
      simp [ApprovalOp.lifeEvents, hregistered, hclaims, htakes, hok, life, hid, registered,
        Life.next]
    · apply life_quiet
      · rw [hregisters]
        simp [hown]
      · rfl
      · apply Or.inr
        show (s.register route requestId method prepared).2.life id = _
        apply life_congr
        rw [hok]
        simp [OrderedMap.getElem?_insert, hown]

theorem life_claim (s : ApprovalRuntimeState) (id : InteractionId)
    (response : InteractionResponse) :
    ((ApprovalOp.claim response).lifeEvents id s).foldlM Life.next (s.life id) =
      some ((s.claim response).2.life id) := by
  have hclaims : (ApprovalOp.claim response).claims s id =
      (response.requestId == id && (s.claim response).1.isOk) := rfl
  obtain ⟨e, he⟩ | ⟨p, result, hp, hawaiting, -, hok⟩ := claim_cases s response
  · apply life_quiet
    · rfl
    · rw [hclaims, he]
      simp [Except.isOk, Except.toBool]
    · apply Or.inr
      show (s.claim response).2.life id = _
      rw [he]
  · by_cases hown : response.requestId = id
    · subst hown
      have htakes : (ApprovalOp.claim response).takesOut s response.requestId = false := by
        simp [ApprovalOp.takesOut, ApprovalOp.apply, hok]
      have hregisters : (ApprovalOp.claim response).registers s response.requestId = false := rfl
      have hclaimed : (ApprovalOp.claim response).claims s response.requestId = true := by
        rw [hclaims, hok]
        simp [Except.isOk, Except.toBool]
      simp [ApprovalOp.lifeEvents, hregisters, hclaimed, htakes, hok, life, hp, hawaiting,
        Life.next]
    · apply life_quiet
      · rfl
      · rw [hclaims]
        simp [hown]
      · apply Or.inr
        show (s.claim response).2.life id = _
        apply life_congr
        rw [hok]
        simp [OrderedMap.getElem?_insert, hown]

/-- One operation moves an interaction along its life. -/
theorem life_step {s : ApprovalRuntimeState} (hs : Indexed s) (op : ApprovalOp)
    (id : InteractionId) :
    (op.lifeEvents id s).foldlM Life.next (s.life id) = some ((op.apply s).life id) := by
  have heffect := ApprovalOp.apply_effect hs op
  cases op with
  | register route requestId method prepared => exact life_register s id route requestId method prepared
  | claim response => exact life_claim s id response
  | remove | popOutboundFor | markSent | resolve | closeItem | closeTurn | closeThread | closeAll
  | closeRoute => exact life_quiet rfl rfl (life_kept heffect (by simp) (by simp) id)

/-- What happened to an interaction leads from its absence to where it stands. -/
theorem run_life (ops : List ApprovalOp) (id : InteractionId) :
    (lifeOf id ops).foldlM Life.next .absent = some ((run ops).life id) := by
  have hrun : Indexed (run ops) ∧
      ([] ++ lifeOf id ops).foldlM Life.next .absent = some ((run ops).life id) := by
    apply Trace.collected_invariant step (ApprovalOp.lifeEvents id) (fun past s =>
      Indexed s ∧ past.foldlM Life.next .absent = some (s.life id))
    · rintro past s op ⟨hs, hpast⟩
      refine ⟨ApprovalOp.apply_indexed hs op, ?_⟩
      show (past ++ op.lifeEvents id s).foldlM _ _ = some ((op.apply s).life id)
      rw [List.foldlM_append, hpast]
      exact life_step hs op id
    · exact ⟨indexed_new, by simp [life, new]⟩
  simpa using hrun.2

/-- The registry after any operations. Each entry is indexed under its own request
and each request names its entry. Each queued answer is one of a claimed entry and
the only one of it, and the entry still waits for it if answers are marked only
after they are taken. There is room for every answer. Each registration is claimed
at most once and ends once, and what fails changes nothing. -/
theorem run_registry (ops : List ApprovalOp) :
    (∀ (key : RequestKey) (id : InteractionId), (run ops).byRequest[key]? = some id ↔
      ∃ p, (run ops).pending[id]? = some p ∧ p.key = key) ∧
    (∀ outbound ∈ (run ops).outbound, ∃ p, (run ops).pending[outbound.interactionId]? = some p ∧
      Answers p outbound ∧ p.status ≠ .awaiting ∧
      (Trace.Along step MarksTaken new ops → ∃ response, p.status = .queued response)) ∧
    ((run ops).outbound.map OutboundApproval.interactionId).Nodup ∧
    (run ops).pending.size ≤ maxPendingApprovals ∧
    (run ops).outbound.length ≤ maxPendingApprovals ∧
    (∀ response capacity,
      ((run ops).claim response).1 ≠ .error (.outboundQueueFull capacity)) ∧
    (∀ id, (lifeOf id ops).foldlM Life.next .absent = some ((run ops).life id)) ∧
    FailsInPlace (run ops) := by
  have horderly := run_orderly ops
  refine ⟨?_, ?_, horderly.nodup, horderly.room, horderly.outbound_le.trans horderly.room,
    horderly.claim_not_full, run_life ops, failsInPlace (run ops)⟩
  · intro key id
    constructor
    · exact horderly.indexed.requests key id
    · rintro ⟨p, hp, rfl⟩
      exact horderly.indexed.entries id p hp
  · intro outbound hmem
    obtain ⟨p, hp, hanswers, hclaimed⟩ := horderly.answers outbound hmem
    refine ⟨p, hp, hanswers, hclaimed, ?_⟩
    intro htaken
    obtain ⟨q, response, hq, hqueued⟩ := (run_reached htaken).queued hmem
    rw [hp] at hq
    cases hq
    exact ⟨response, hqueued⟩

end ApprovalRuntimeState

namespace Sample

/-- The question is registered and answered. -/
def answered : List ApprovalOp :=
  [.register .observer (.number 1) "item/tool/requestUserInput" prepared, .claim answer]

end Sample

namespace ApprovalRuntimeState

/-- The statuses of the entries with a queued answer. -/
def queuedStatuses (s : ApprovalRuntimeState) : List (Option PendingStatus) :=
  s.outbound.map fun outbound => s.pending[outbound.interactionId]?.map PendingApproval.status

/-- The answer to the question is queued, and its entry waits for it. -/
theorem run_registry_answered :
    (run Sample.answered).outbound.length = 1 ∧
    ∀ outbound ∈ (run Sample.answered).outbound, ∃ p response,
      (run Sample.answered).pending[outbound.interactionId]? = some p ∧
        p.status = .queued response := by
  refine ⟨by decide +kernel, ?_⟩
  intro outbound hmem
  obtain ⟨p, hp, -, -, hqueued⟩ := (run_registry Sample.answered).2.1 outbound hmem
  have htaken : Trace.Along step MarksTaken new Sample.answered :=
    ⟨by simp [MarksTaken], by simp [MarksTaken], trivial⟩
  obtain ⟨response, hresponse⟩ := hqueued htaken
  exact ⟨p, response, hp, hresponse⟩

/-- An answer that is marked while it is still queued leaves an entry behind that is
not in status `Queued`. -/
theorem markSent_before_taken :
    let s := run (Sample.answered ++ [.markSent Sample.prepared.request.id])
    s.queuedStatuses = [some .sentForm] ∧
    ¬ ∀ outbound ∈ s.outbound, ∃ p response,
      s.pending[outbound.interactionId]? = some p ∧ p.status = .queued response := by
  intro s
  have hstatuses : s.queuedStatuses = [some .sentForm] := by decide +kernel
  refine ⟨hstatuses, ?_⟩
  intro hqueued
  have hmem : some PendingStatus.sentForm ∈ s.queuedStatuses := by
    rw [hstatuses]
    exact List.mem_singleton.mpr rfl
  obtain ⟨outbound, hout, hstatus⟩ := List.mem_map.mp hmem
  obtain ⟨p, response, hp, hresponse⟩ := hqueued outbound hout
  rw [hp, Option.map_some, hresponse] at hstatus
  cases hstatus

end ApprovalRuntimeState

end Codex

end AgentPulse
