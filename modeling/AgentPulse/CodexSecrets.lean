import AgentPulse.CodexLifecycle

/-!
# Secrets in form answers

The answer to a form is kept twice until it is written: in the status of its entry and
in the queue. Two runs that differ in such answers are compared side by side. What may
differ between them is named for each of the two places.
-/
namespace AgentPulse

namespace Codex

open Std (ExtTreeMap)

namespace ApprovalRuntimeState

/-- The status holds the answer to a form. -/
def FormQueued (status : PendingStatus) : Prop :=
  ∃ response form, status = .queued response ∧ response.payload = .form form

/-- Entries that are the same but for the answer that they hold, if that is allowed. -/
def AlikeEntry (allowed : Prop) (p q : PendingApproval) : Prop :=
  ∃ status, q = { p with status := status } ∧
    (p.status = status ∨ allowed ∧ FormQueued p.status ∧ FormQueued status)

/-- Queued answers that are the same but for their result, if that is allowed. -/
def AlikeOutbound (allowed : InteractionId → Prop) (o o' : OutboundApproval) : Prop :=
  ∃ result, o' = { o with result := result } ∧ (o.result = result ∨ allowed o.interactionId)

/-- The statuses may differ under the first identifiers, the queued results under the second. -/
structure Alike (held queued : InteractionId → Prop) (s t : ApprovalRuntimeState) : Prop where
  byRequest : s.byRequest = t.byRequest
  pending : ∀ id : InteractionId, Option.Rel (AlikeEntry (held id)) s.pending[id]? t.pending[id]?
  outbound : List.Forall₂ (AlikeOutbound queued) s.outbound t.outbound

theorem AlikeEntry.refl {allowed : Prop} (p : PendingApproval) : AlikeEntry allowed p p :=
  ⟨p.status, rfl, .inl rfl⟩

theorem AlikeOutbound.refl {allowed : InteractionId → Prop} (o : OutboundApproval) :
    AlikeOutbound allowed o o := ⟨o.result, rfl, .inl rfl⟩

theorem AlikeEntry.awaiting_iff {allowed : Prop} {p q : PendingApproval} (h : AlikeEntry allowed p q) :
    p.status = .awaiting ↔ q.status = .awaiting := by
  obtain ⟨status, rfl, rfl | ⟨-, ⟨response, form, hp, -⟩, response', form', hq, -⟩⟩ := h
  · exact Iff.rfl
  · rw [hp, hq]
    simp

namespace Alike

variable {held queued held' queued' : InteractionId → Prop} {s t s' t' : ApprovalRuntimeState}

theorem entry (h : Alike held queued s t) (id : InteractionId) :
    (s.pending[id]? = none ∧ t.pending[id]? = none) ∨
    ∃ p q, s.pending[id]? = some p ∧ t.pending[id]? = some q ∧ AlikeEntry (held id) p q := by
  have hpending := h.pending id
  cases hp : s.pending[id]? with
  | none =>
    cases hq : t.pending[id]? with
    | none => exact .inl ⟨rfl, rfl⟩
    | some q =>
      rw [hp, hq] at hpending
      cases hpending
  | some p =>
    cases hq : t.pending[id]? with
    | none =>
      rw [hp, hq] at hpending
      cases hpending
    | some q =>
      rw [hp, hq] at hpending
      obtain hentry : AlikeEntry (held id) p q := by
        cases hpending
        assumption
      exact .inr ⟨p, q, rfl, rfl, hentry⟩

/-- A difference that is allowed where there is something may be allowed for another reason. -/
theorem mono (h : Alike held queued s t)
    (hheld : ∀ id : InteractionId, s.pending[id]? ≠ none → held id → held' id)
    (hqueued : ∀ o ∈ s.outbound, queued o.interactionId → queued' o.interactionId) :
    Alike held' queued' s t where
  byRequest := h.byRequest
  pending id := by
    obtain ⟨hp, hq⟩ | ⟨p, q, hp, hq, status, rfl, hstatus⟩ := h.entry id
    · rw [hp, hq]
      exact .none
    · rw [hp, hq]
      refine .some ⟨status, rfl, hstatus.imp_right fun hdiffer => ⟨?_, hdiffer.2⟩⟩
      exact hheld id (by simp [hp]) hdiffer.1
  outbound := by
    have hboth : List.Forall₂ (fun o o' => o ∈ s.outbound ∧ AlikeOutbound queued o o')
        s.outbound t.outbound := (List.forall₂_and_left _ _).mpr ⟨fun o ho => ho, h.outbound⟩
    refine hboth.imp fun o o' ho => ?_
    obtain ⟨hmem, result, rfl, hresult⟩ := ho
    exact ⟨result, rfl, hresult.imp_right (hqueued o hmem)⟩

/-- Without an allowed difference there is none. -/
theorem eq (h : Alike held queued s t) (hheld : ∀ id : InteractionId, s.pending[id]? ≠ none → ¬held id)
    (hqueued : ∀ o ∈ s.outbound, ¬queued o.interactionId) : s = t := by
  have hpending : s.pending = t.pending := by
    apply ExtTreeMap.ext_getElem?
    intro id
    obtain ⟨hp, hq⟩ | ⟨p, q, hp, hq, status, rfl, rfl | ⟨hallowed, -⟩⟩ := h.entry id
    · rw [hp, hq]
    · rw [hp, hq]
    · exact absurd hallowed (hheld id (by simp [hp]))
  have hboth : List.Forall₂ (fun o o' => o ∈ s.outbound ∧ AlikeOutbound queued o o')
      s.outbound t.outbound := (List.forall₂_and_left _ _).mpr ⟨fun o ho => ho, h.outbound⟩
  have houtbound : s.outbound = t.outbound := by
    rw [← List.forall₂_eq_eq_eq]
    refine hboth.imp fun o o' ho => ?_
    obtain ⟨hmem, result, rfl, rfl | hallowed⟩ := ho
    · rfl
    · exact absurd hallowed (hqueued o hmem)
  obtain ⟨pending, byRequest, outbound⟩ := s
  obtain rfl := hpending
  obtain rfl := houtbound
  obtain rfl := h.byRequest
  rfl

theorem removes (h : Alike held queued s t) {gone : InteractionId → Bool} (hs : Removes gone s s')
    (ht : Removes gone t t') : Alike held queued s' t' where
  byRequest := by
    apply ExtTreeMap.ext_getElem?
    intro key
    rw [hs.byRequest, ht.byRequest, h.byRequest]
  pending id := by
    rw [hs.pending, ht.pending]
    split
    · exact .none
    · exact h.pending id
  outbound := by
    rw [hs.outbound, ht.outbound]
    refine List.rel_filter ?_ h.outbound
    rintro o o' ⟨result, rfl, -⟩
    exact Iff.rfl

theorem stripped (h : Alike held queued s t) :
    (s.pending.map fun _ p => { p with status := .awaiting }) =
      t.pending.map fun _ p => { p with status := .awaiting } := by
  apply ExtTreeMap.ext_getElem?
  intro id
  rw [ExtTreeMap.getElem?_map, ExtTreeMap.getElem?_map]
  obtain ⟨hp, hq⟩ | ⟨p, q, hp, hq, status, rfl, -⟩ := h.entry id
  · rw [hp, hq]
  · rw [hp, hq]
    rfl

theorem size_eq (h : Alike held queued s t) : s.pending.size = t.pending.size := by
  rw [← ExtTreeMap.size_map (f := fun _ p => { p with status := .awaiting }), h.stripped,
    ExtTreeMap.size_map]

theorem closeMatching (h : Alike held queued s t) (hs : Indexed s) (ht : Indexed t)
    {matching : PendingApproval → Bool}
    (hblind : ∀ p status, matching { p with status := status } = matching p) :
    (s.closeMatching matching).1 = (t.closeMatching matching).1 ∧
      Alike held queued (s.closeMatching matching).2 (t.closeMatching matching).2 := by
  constructor
  · have hclosed : ∀ u : ApprovalRuntimeState, (u.closeMatching matching).1 =
        ((u.pending.map fun _ p => { p with status := .awaiting }).toList.filter fun entry =>
          matching entry.2).map fun entry => ⟨entry.2.threadId, entry.2.sessionId, entry.1⟩ := by
      intro u
      rw [ExtTreeMap.toList_map, List.filter_map, List.map_map]
      show ((u.pending.toList.filter fun entry => matching entry.2).map _) = _
      simp only [Function.comp_def, hblind]
    rw [hclosed, hclosed, h.stripped]
  · have hsame : s.holds matching = t.holds matching := by
      funext id
      unfold holds
      obtain ⟨hp, hq⟩ | ⟨p, q, hp, hq, status, rfl, -⟩ := h.entry id
      · rw [hp, hq]
      · rw [hp, hq, Option.any_some, Option.any_some]
        exact (hblind p status).symm
    exact h.removes (closeMatching_removes hs matching) (hsame ▸ closeMatching_removes ht matching)

theorem resolve (h : Alike held queued s t) (hs : Indexed s) (ht : Indexed t) (route : ApprovalRoute)
    (requestId : RequestId) (threadId : String) :
    (s.resolve route requestId threadId).1 = (t.resolve route requestId threadId).1 ∧
      Alike held queued (s.resolve route requestId threadId).2
        (t.resolve route requestId threadId).2 := by
  unfold ApprovalRuntimeState.resolve
  rw [← h.byRequest]
  cases hkey : s.byRequest[(⟨route, requestId⟩ : RequestKey)]? with
  | none => exact ⟨rfl, h⟩
  | some id =>
    obtain ⟨p, hp, hpkey⟩ := hs.requests _ id hkey
    obtain ⟨q, hq, hqkey⟩ := ht.requests _ id (h.byRequest ▸ hkey)
    obtain ⟨hnone, -⟩ | ⟨found, other, hfound, hother, halike⟩ := h.entry id
    · rw [hp] at hnone
      cases hnone
    · obtain rfl := Option.some.inj (hp.symm.trans hfound)
      obtain rfl := Option.some.inj (hq.symm.trans hother)
      obtain ⟨status, rfl, hstatus⟩ := halike
      dsimp only
      rw [hp, hq]
      dsimp only
      split
      · exact ⟨rfl, h⟩
      · have hresolution : resolution id p = resolution id { p with status := status } := by
          obtain rfl | ⟨-, ⟨response, form, hqueued, -⟩, response', form', rfl, -⟩ := hstatus
          · rfl
          · rw [resolution, resolution, hqueued]
        refine ⟨by rw [hresolution], ?_⟩
        have hdropped := h.removes (remove_removes hs id) (remove_removes ht id)
        have hsdrop : s.remove id = { s with
            pending := s.pending.erase id
            byRequest := s.byRequest.erase ⟨route, requestId⟩
            outbound := s.outbound.filter fun outbound => outbound.interactionId ≠ id } := by
          rw [remove, drop, hp, ← hpkey]
          rfl
        have htdrop : t.remove id = { t with
            pending := t.pending.erase id
            byRequest := t.byRequest.erase ⟨route, requestId⟩
            outbound := t.outbound.filter fun outbound => outbound.interactionId ≠ id } := by
          rw [remove, drop, hq, ← hqkey]
          rfl
        rw [hsdrop, htdrop] at hdropped
        rw [← h.byRequest] at hdropped
        exact hdropped

theorem insert (h : Alike held queued s t) (id : InteractionId) {p q : PendingApproval}
    (hentry : AlikeEntry (held id) p q) : Alike held queued
      { s with pending := s.pending.insert id p } { t with pending := t.pending.insert id q } where
  byRequest := h.byRequest
  pending a := by
    rw [OrderedMap.getElem?_insert, OrderedMap.getElem?_insert]
    split
    · next hsame =>
      obtain rfl := hsame
      exact .some hentry
    · exact h.pending a
  outbound := h.outbound

theorem register (h : Alike held queued s t) (route : ApprovalRoute) (requestId : RequestId)
    (method : String) (prepared : PreparedApproval) :
    Alike held queued (s.register route requestId method prepared).2
      (t.register route requestId method prepared).2 := by
  have hcontains : s.pending.contains prepared.request.id = t.pending.contains prepared.request.id := by
    rw [ExtTreeMap.contains_eq_isSome_getElem?, ExtTreeMap.contains_eq_isSome_getElem?]
    obtain ⟨hp, hq⟩ | ⟨p, q, hp, hq, -⟩ := h.entry prepared.request.id
    · rw [hp, hq]
    · rw [hp, hq]
      rfl
  unfold ApprovalRuntimeState.register
  rw [h.size_eq, h.byRequest, hcontains]
  split
  · exact h
  · split
    · exact h
    · split
      · exact h
      · have hentry := h.insert prepared.request.id
          (.refl (registered route requestId method prepared))
        exact ⟨rfl, hentry.pending, h.outbound⟩

theorem claim (h : Alike held queued s t) (response : InteractionResponse) :
    Alike held queued (s.claim response).2 (t.claim response).2 := by
  unfold ApprovalRuntimeState.claim
  obtain ⟨hp, hq⟩ | ⟨p, q, hp, hq, halike⟩ := h.entry response.requestId
  · rw [hp, hq]
    exact h
  · have hawaiting := halike.awaiting_iff
    obtain ⟨status, rfl, -⟩ := halike
    rw [hp, hq, ← h.outbound.length_eq]
    dsimp only at hawaiting ⊢
    simp only [ne_eq, hawaiting]
    split
    · exact h
    · split
      · exact h
      · split
        · exact h
        · split
          · exact h
          · next result hresult hroom =>
            have hentry := h.insert response.requestId
              (.refl { p with status := .queued response })
            exact ⟨h.byRequest, hentry.pending, List.rel_append h.outbound (.cons (.refl _) .nil)⟩

/-- Two answers to one form, each accepted: from now on they are what differs. -/
theorem answer (h : Alike held queued s t) {response response' : InteractionResponse}
    (hid : response'.requestId = response.requestId) {form form' : FormResponse}
    (hform : response.payload = .form form) (hform' : response'.payload = .form form')
    (hs : (s.claim response).1 = .ok ()) (ht : (t.claim response').1 = .ok ()) :
    Alike (fun id => held id ∨ id = response.requestId)
      (fun id => queued id ∨ id = response.requestId) (s.claim response).2 (t.claim response').2 := by
  obtain ⟨e, he⟩ | ⟨p, result, hp, hstatus, -, hclaim⟩ := claim_cases s response
  · rw [he] at hs
    cases hs
  obtain ⟨e, he⟩ | ⟨q, result', hq, hstatus', -, hclaim'⟩ := claim_cases t response'
  · rw [he] at ht
    cases ht
  rw [hclaim, hclaim']
  rw [hid] at hq ⊢
  obtain ⟨hnone, -⟩ | ⟨found, other, hfound, hother, halike⟩ := h.entry response.requestId
  · rw [hp] at hnone
    cases hnone
  obtain rfl := Option.some.inj (hp.symm.trans hfound)
  obtain rfl := Option.some.inj (hq.symm.trans hother)
  obtain ⟨status, rfl, -⟩ := halike
  have hwider : Alike (fun id => held id ∨ id = response.requestId)
      (fun id => queued id ∨ id = response.requestId) s t := h.mono (fun _ _ => .inl) fun _ _ => .inl
  have hentry := hwider.insert response.requestId (p := { p with status := .queued response })
    (q := { p with status := .queued response' })
    ⟨_, rfl, .inr ⟨.inr rfl, ⟨response, form, rfl, hform⟩, response', form', rfl, hform'⟩⟩
  exact ⟨h.byRequest, hentry.pending,
    List.rel_append hwider.outbound (.cons ⟨result', rfl, .inr (.inr rfl)⟩ .nil)⟩

/-- An identifier whose entries are the same need not be allowed to differ. -/
theorem narrow (h : Alike held queued s t) {id : InteractionId}
    (hsame : s.pending[id]? = t.pending[id]?) : Alike (fun a => held a ∧ a ≠ id) queued s t where
  byRequest := h.byRequest
  pending a := by
    by_cases ha : a = id
    · subst ha
      rw [hsame]
      cases t.pending[a]? with
      | none => exact .none
      | some q => exact .some (.refl q)
    · obtain ⟨hp, hq⟩ | ⟨p, q, hp, hq, status, rfl, hstatus⟩ := h.entry a
      · rw [hp, hq]
        exact .none
      · rw [hp, hq]
        exact .some ⟨status, rfl, hstatus.imp_right fun hdiffer => ⟨⟨hdiffer.1, ha⟩, hdiffer.2⟩⟩
  outbound := h.outbound

/-- A marked entry holds no answer to a form. -/
theorem markSent (h : Alike held queued s t) (id : InteractionId) :
    Alike (fun a => held a ∧ a ≠ id) queued (s.markSent id).2 (t.markSent id).2 := by
  unfold ApprovalRuntimeState.markSent
  obtain ⟨hp, hq⟩ | ⟨p, q, hp, hq, status, rfl, hstatus⟩ := h.entry id
  · rw [hp, hq]
    exact h.narrow (by rw [hp, hq])
  · have hmarked : ∀ sent, Alike (fun a => held a ∧ a ≠ id) queued
        { s with pending := s.pending.insert id { p with status := sent } }
        { t with pending := t.pending.insert id { p with status := sent } } := by
      intro sent
      apply (h.insert id (.refl _)).narrow
      rw [OrderedMap.getElem?_insert, OrderedMap.getElem?_insert, if_pos rfl, if_pos rfl]
    rw [hp, hq]
    obtain rfl | ⟨-, ⟨response, form, hqueued, hform⟩, response', form', rfl, hform'⟩ := hstatus
    · dsimp only
      cases p.status with
      | queued response =>
        dsimp only
        cases sentStatus response with
        | error e => exact h.narrow (by rw [hp, hq])
        | ok sent => exact hmarked sent
      | _ => exact h.narrow (by rw [hp, hq])
    · simp only [hqueued, sentStatus, hform, hform']
      exact hmarked .sentForm

/-- The next answer for the route is one with this identifier. -/
def Pops (s : ApprovalRuntimeState) (route : ApprovalRoute) (id : InteractionId) : Prop :=
  ∃ outbound, (s.popOutboundFor route).1 = some outbound ∧ outbound.interactionId = id

/-- The first answer that passes a test leaves both queues, and no other has its identifier. -/
theorem queues {xs ys : List OutboundApproval} (h : List.Forall₂ (AlikeOutbound queued) xs ys)
    (hnodup : (xs.map OutboundApproval.interactionId).Nodup) (test : OutboundApproval → Bool)
    (hblind : ∀ o result, test { o with result := result } = test o) :
    (xs.find? test = none ∧ ys.find? test = none) ∨
    ∃ o o', xs.find? test = some o ∧ ys.find? test = some o' ∧
      List.Forall₂ (AlikeOutbound fun id => queued id ∧ id ≠ o.interactionId)
        (xs.eraseP test) (ys.eraseP test) := by
  induction h with
  | nil => exact .inl ⟨rfl, rfl⟩
  | @cons x y xs ys hfirst hrest ih =>
    obtain ⟨result, rfl, hresult⟩ := hfirst
    rw [List.map_cons, List.nodup_cons] at hnodup
    by_cases htest : test x = true
    · have htest' := (hblind x result).trans htest
      right
      refine ⟨x, { x with result := result }, List.find?_cons_of_pos htest,
        List.find?_cons_of_pos htest', ?_⟩
      rw [List.eraseP_cons_of_pos htest, List.eraseP_cons_of_pos htest']
      have hboth : List.Forall₂ (fun o o' => o ∈ xs ∧ AlikeOutbound queued o o') xs ys :=
        (List.forall₂_and_left _ _).mpr ⟨fun o ho => ho, hrest⟩
      refine hboth.imp fun o o' ho => ?_
      obtain ⟨hmem, own, rfl, hown⟩ := ho
      refine ⟨own, rfl, hown.imp_right fun hallowed => ⟨hallowed, ?_⟩⟩
      intro hsame
      exact hnodup.1 (hsame ▸ List.mem_map_of_mem hmem)
    · have htest' : ¬test { x with result := result } = true := fun h => htest ((hblind x result).symm.trans h)
      rw [List.find?_cons_of_neg htest, List.find?_cons_of_neg htest',
        List.eraseP_cons_of_neg htest, List.eraseP_cons_of_neg htest']
      obtain hnone | ⟨o, o', ho, ho', hlists⟩ := ih hnodup.2
      · exact .inl hnone
      · refine .inr ⟨o, o', ho, ho', .cons ⟨result, rfl, ?_⟩ hlists⟩
        refine hresult.imp_right fun hallowed => ⟨hallowed, ?_⟩
        intro hsame
        exact hnodup.1 (hsame ▸ List.mem_map_of_mem (List.mem_of_find?_eq_some ho))

theorem popOutboundFor (h : Alike held queued s t)
    (hnodup : (s.outbound.map OutboundApproval.interactionId).Nodup) (route : ApprovalRoute) :
    Alike held (fun id => queued id ∧ ¬Pops s route id) (s.popOutboundFor route).2
      (t.popOutboundFor route).2 := by
  unfold Pops ApprovalRuntimeState.popOutboundFor
  obtain ⟨hnone, hnone'⟩ | ⟨o, o', ho, ho', hlists⟩ := queues h.outbound hnodup
    (fun o => o.route == route) fun _ _ => rfl
  · rw [hnone, hnone']
    exact h.mono (fun _ _ hheld => hheld) fun _ _ hallowed => ⟨hallowed, by simp⟩
  · rw [ho, ho']
    refine ⟨h.byRequest, h.pending, hlists.imp fun x y hxy => ?_⟩
    obtain ⟨result, rfl, hresult⟩ := hxy
    refine ⟨result, rfl, hresult.imp_right fun hallowed => ⟨hallowed.1, ?_⟩⟩
    rintro ⟨popped, hpopped, hsame⟩
    obtain rfl := Option.some.inj hpopped
    exact hallowed.2 hsame.symm

end Alike

/-- What the server or the lifecycle of a thread makes of the pending requests. -/
inductive Report where
  | resolved (result : Sourced (Option ResolvedApproval))
  | closed (entries : List ClosedApproval)
  | nothing

def report (s : ApprovalRuntimeState) : ApprovalOp → Report
  | .resolve route requestId threadId => .resolved (s.resolve route requestId threadId).1
  | .closeItem threadId turnId itemId => .closed (s.closeItem threadId turnId itemId).1
  | .closeTurn threadId turnId => .closed (s.closeTurn threadId turnId).1
  | .closeThread threadId => .closed (s.closeThread threadId).1
  | .closeAll => .closed s.closeAll.1
  | .closeRoute route => .closed (s.closeRoute route).1
  | _ => .nothing

def reporting (s : ApprovalRuntimeState) (op : ApprovalOp) : ApprovalRuntimeState × Report :=
  (op.apply s, report s op)

/-- Both runs do the same, or both accept an answer to the same form. -/
inductive Twins (s t : ApprovalRuntimeState) : ApprovalOp × ApprovalOp → Prop
  | same (op : ApprovalOp) : Twins s t (op, op)
  | answers {response response' : InteractionResponse} {form form' : FormResponse}
      (hid : response'.requestId = response.requestId) (hform : response.payload = .form form)
      (hform' : response'.payload = .form form') (hother : response ≠ response')
      (hs : (s.claim response).1 = .ok ()) (ht : (t.claim response').1 = .ok ()) :
      Twins s t (.claim response, .claim response')

def both (p : ApprovalRuntimeState × ApprovalRuntimeState) (ops : ApprovalOp × ApprovalOp) :
    (ApprovalRuntimeState × ApprovalRuntimeState) × Unit :=
  ((ops.1.apply p.1, ops.2.apply p.2), ())

/-- Two runs that are the same but for accepted answers to forms. -/
def Paired (ops : List (ApprovalOp × ApprovalOp)) : Prop :=
  Trace.Along both (fun p ops => Twins p.1 p.2 ops) (new, new) ops

/-- The condition holds at some step of the run. -/
def Sometime (P : ApprovalRuntimeState → ApprovalOp → Prop) (s : ApprovalRuntimeState)
    (ops : List ApprovalOp) : Prop :=
  ¬Trace.Along step (fun s op => ¬P s op) s ops

/-- The interaction is not pending after the operation: it was removed, resolved or closed. -/
def Leaves (id : InteractionId) (s : ApprovalRuntimeState) (op : ApprovalOp) : Prop :=
  (op.apply s).pending[id]? = none

/-- The queued answer of the interaction is taken. -/
def Sends (id : InteractionId) (s : ApprovalRuntimeState) (op : ApprovalOp) : Prop :=
  ∃ route, op = .popOutboundFor route ∧ Alike.Pops s route id

/-- The answer is written, or it is not wanted any more. -/
def Settled (id : InteractionId) (s : ApprovalRuntimeState) (ops : List ApprovalOp) : Prop :=
  Sometime (Leaves id) s ops ∨
    Sometime (Sends id) s ops ∧ Sometime (fun _ op => op = .markSent id) s ops

/-- A differing answer for which the condition has not held since. -/
def Held (P : InteractionId → ApprovalRuntimeState → ApprovalOp → Prop)
    (history : List (ApprovalOp × ApprovalOp)) (id : InteractionId) : Prop :=
  ∃ before response response' after,
    history = before ++ (.claim response, .claim response') :: after ∧ response.requestId = id ∧
      response ≠ response' ∧
      Trace.Along step (fun s op => ¬P id s op)
        (run ((before ++ [(.claim response, .claim response')]).map Prod.fst)) (after.map Prod.fst)

theorem run_append (xs ys : List ApprovalOp) : run (xs ++ ys) = Trace.final step (run xs) ys :=
  Trace.final_append step new xs ys

section Histories

variable {P : InteractionId → ApprovalRuntimeState → ApprovalOp → Prop}
  {history : List (ApprovalOp × ApprovalOp)} {id : InteractionId}

theorem Held.snoc (h : Held P history id) {x y : ApprovalOp}
    (hkept : ¬P id (run (history.map Prod.fst)) x) : Held P (history ++ [(x, y)]) id := by
  obtain ⟨before, response, response', after, rfl, hid, hother, halong⟩ := h
  refine ⟨before, response, response', after ++ [(x, y)], by simp, hid, hother, ?_⟩
  have hafter : (after ++ [(x, y)]).map Prod.fst = after.map Prod.fst ++ [x] := by simp
  rw [hafter, Trace.along_append]
  refine ⟨halong, ?_, trivial⟩
  rw [← run_append, ← List.map_append, List.append_assoc, List.singleton_append]
  exact hkept

theorem held_answer {response response' : InteractionResponse} (hother : response ≠ response') :
    Held P (history ++ [(.claim response, .claim response')]) response.requestId :=
  ⟨history, response, response', [], rfl, rfl, hother, trivial⟩

end Histories

/-- The answer is still in the status of its entry. -/
def OutOfStatus (id : InteractionId) (s : ApprovalRuntimeState) (op : ApprovalOp) : Prop :=
  Leaves id s op ∨ op = .markSent id

/-- The answer is still in the queue. -/
def OutOfQueue (id : InteractionId) (s : ApprovalRuntimeState) (op : ApprovalOp) : Prop :=
  Leaves id s op ∨ Sends id s op

/-- After a common history the registries differ where an answer is still held. -/
structure Tracks (history : List (ApprovalOp × ApprovalOp)) (s t : ApprovalRuntimeState) : Prop where
  first : s = run (history.map Prod.fst)
  second : t = run (history.map Prod.snd)
  alike : Alike (Held OutOfStatus history) (Held OutOfQueue history) s t

section Steps

variable {history : List (ApprovalOp × ApprovalOp)} {s t : ApprovalRuntimeState}

/-- What differs after a step was held before it and was not let go by it. -/
theorem Tracks.snoc (h : Tracks history s t) {x y : ApprovalOp}
    (halike : Alike
      (fun id => Held OutOfStatus history id ∧ x ≠ .markSent id ∨
        Held OutOfStatus (history ++ [(x, y)]) id)
      (fun id => Held OutOfQueue history id ∧ ¬Sends id s x ∨
        Held OutOfQueue (history ++ [(x, y)]) id) (x.apply s) (y.apply t)) :
    Tracks (history ++ [(x, y)]) (x.apply s) (y.apply t) := by
  obtain ⟨rfl, rfl, -⟩ := h
  have hrun : x.apply (run (history.map Prod.fst)) = run ((history ++ [(x, y)]).map Prod.fst) := by
    rw [List.map_append, run_append]
    rfl
  refine ⟨hrun, ?_, halike.mono ?_ ?_⟩
  · rw [List.map_append, run_append]
    rfl
  · rintro id hpending (⟨hheld, hnot⟩ | hheld)
    · exact hheld.snoc (not_or.mpr ⟨hpending, hnot⟩)
    · exact hheld
  · rintro o ho (⟨hheld, hnot⟩ | hheld)
    · refine hheld.snoc (not_or.mpr ⟨?_, hnot⟩)
      rw [hrun] at ho
      obtain ⟨p, hp, -⟩ := (run_orderly _).answers o ho
      intro hleaves
      rw [Leaves, hrun, hp] at hleaves
      cases hleaves
    · exact hheld

/-- An operation that takes nothing out of the queue and marks nothing. -/
theorem Tracks.quiet (h : Tracks history s t) {op : ApprovalOp} (hmark : ∀ id, op ≠ .markSent id)
    (hpop : ∀ route, op ≠ .popOutboundFor route)
    (halike : Alike (Held OutOfStatus history) (Held OutOfQueue history) (op.apply s) (op.apply t)) :
    Tracks (history ++ [(op, op)]) (op.apply s) (op.apply t) :=
  h.snoc (halike.mono (fun id _ hheld => .inl ⟨hheld, hmark id⟩) fun _ _ hheld =>
    .inl ⟨hheld, fun hsends => hpop hsends.choose hsends.choose_spec.1⟩)

theorem Tracks.closes (h : Tracks history s t) (op : ApprovalOp) (hmark : ∀ id, op ≠ .markSent id)
    (hpop : ∀ route, op ≠ .popOutboundFor route) {matching : PendingApproval → Bool}
    (hblind : ∀ p status, matching { p with status := status } = matching p)
    (hs : op.apply s = (s.closeMatching matching).2) (ht : op.apply t = (t.closeMatching matching).2) :
    Tracks (history ++ [(op, op)]) (op.apply s) (op.apply t) ∧
      (s.closeMatching matching).1 = (t.closeMatching matching).1 := by
  have hsindexed : Indexed s := h.first ▸ (run_orderly _).indexed
  have htindexed : Indexed t := h.second ▸ (run_orderly _).indexed
  obtain ⟨hclosed, halike⟩ := h.alike.closeMatching hsindexed htindexed hblind
  rw [← hs, ← ht] at halike
  exact ⟨h.quiet hmark hpop halike, hclosed⟩

/-- One step of both runs: they report the same, and what differs is accounted for. -/
theorem Tracks.next (h : Tracks history s t) {x y : ApprovalOp} (hpair : Twins s t (x, y)) :
    Tracks (history ++ [(x, y)]) (x.apply s) (y.apply t) ∧ report s x = report t y := by
  have hsorderly : Orderly s := h.first ▸ run_orderly _
  have htindexed : Indexed t := h.second ▸ (run_orderly _).indexed
  cases hpair with
  | answers hid hform hform' hother hs ht =>
    refine ⟨h.snoc ((h.alike.answer hid hform hform' hs ht).mono ?_ ?_), rfl⟩
    · rintro id - (hheld | rfl)
      · exact .inl ⟨hheld, nofun⟩
      · exact .inr (held_answer hother)
    · rintro o - (hheld | hsame)
      · exact .inl ⟨hheld, by rintro ⟨route, ⟨⟩, -⟩⟩
      · rw [hsame]
        exact .inr (held_answer hother)
  | same =>
    cases x with
    | register route requestId method prepared =>
      exact ⟨h.quiet nofun nofun (h.alike.register route requestId method prepared), rfl⟩
    | remove id =>
      exact ⟨h.quiet nofun nofun (h.alike.removes (remove_removes hsorderly.indexed id)
        (remove_removes htindexed id)), rfl⟩
    | claim response => exact ⟨h.quiet nofun nofun (h.alike.claim response), rfl⟩
    | popOutboundFor route =>
      refine ⟨h.snoc ((h.alike.popOutboundFor hsorderly.nodup route).mono ?_ ?_), rfl⟩
      · exact fun id _ hheld => .inl ⟨hheld, nofun⟩
      · rintro o - ⟨hheld, hnot⟩
        refine .inl ⟨hheld, ?_⟩
        rintro ⟨own, hown, hpops⟩
        obtain rfl := ApprovalOp.popOutboundFor.inj hown
        exact hnot hpops
    | markSent id =>
      refine ⟨h.snoc ((h.alike.markSent id).mono ?_ ?_), rfl⟩
      · rintro a - ⟨hheld, hne⟩
        refine .inl ⟨hheld, fun hsame => hne ?_⟩
        exact (ApprovalOp.markSent.inj hsame).symm
      · exact fun o _ hheld => .inl ⟨hheld, by rintro ⟨route, ⟨⟩, -⟩⟩
    | resolve route requestId threadId =>
      obtain ⟨hreport, halike⟩ :=
        h.alike.resolve hsorderly.indexed htindexed route requestId threadId
      exact ⟨h.quiet nofun nofun halike, congrArg Report.resolved hreport⟩
    | closeItem threadId turnId itemId =>
      obtain ⟨htracks, hclosed⟩ :=
        h.closes (.closeItem threadId turnId itemId) nofun nofun (fun _ _ => rfl) rfl rfl
      exact ⟨htracks, congrArg Report.closed hclosed⟩
    | closeTurn threadId turnId =>
      obtain ⟨htracks, hclosed⟩ :=
        h.closes (.closeTurn threadId turnId) nofun nofun (fun _ _ => rfl) rfl rfl
      exact ⟨htracks, congrArg Report.closed hclosed⟩
    | closeThread threadId =>
      obtain ⟨htracks, hclosed⟩ :=
        h.closes (.closeThread threadId) nofun nofun (fun _ _ => rfl) rfl rfl
      exact ⟨htracks, congrArg Report.closed hclosed⟩
    | closeAll =>
      obtain ⟨htracks, hclosed⟩ :=
        h.closes (.closeAll) nofun nofun (fun _ _ => rfl) rfl rfl
      exact ⟨htracks, congrArg Report.closed hclosed⟩
    | closeRoute route =>
      obtain ⟨htracks, hclosed⟩ :=
        h.closes (.closeRoute route) nofun nofun (fun _ _ => rfl) rfl rfl
      exact ⟨htracks, congrArg Report.closed hclosed⟩

/-- The rest of both runs from a common history. -/
theorem Tracks.all (h : Tracks history s t) {ops : List (ApprovalOp × ApprovalOp)}
    (hops : Trace.Along both (fun p ops => Twins p.1 p.2 ops) (s, t) ops) :
    Tracks (history ++ ops) (Trace.final step s (ops.map Prod.fst))
        (Trace.final step t (ops.map Prod.snd)) ∧
      Trace.outputs reporting s (ops.map Prod.fst) = Trace.outputs reporting t (ops.map Prod.snd) := by
  induction ops generalizing history s t with
  | nil => exact ⟨by simpa using h, rfl⟩
  | cons pair rest ih =>
    obtain ⟨hpair, hrest⟩ := hops
    obtain ⟨hstep, hreport⟩ := h.next hpair
    obtain ⟨htracks, hreports⟩ := ih hstep hrest
    rw [List.append_assoc, List.singleton_append] at htracks
    refine ⟨htracks, ?_⟩
    show report s pair.1 :: _ = report t pair.2 :: _
    rw [hreport]
    exact congrArg _ hreports

end Steps

/-- Two runs that differ in accepted form answers report the same throughout, and once every
such answer is written or not wanted any more nothing of it is left. -/
theorem run_forgets (ops : List (ApprovalOp × ApprovalOp)) (h : Paired ops) :
    Trace.outputs reporting new (ops.map Prod.fst) = Trace.outputs reporting new (ops.map Prod.snd) ∧
    ((∀ before response response' after,
        ops = before ++ (.claim response, .claim response') :: after → response ≠ response' →
          Settled response.requestId
            (run ((before ++ [(.claim response, .claim response')]).map Prod.fst))
            (after.map Prod.fst)) →
      run (ops.map Prod.fst) = run (ops.map Prod.snd)) := by
  have hstart : Tracks [] new new := by
    refine ⟨rfl, rfl, rfl, fun id => ?_, .nil⟩
    simp only [new, ExtTreeMap.getElem?_empty]
    exact .none
  obtain ⟨⟨-, -, halike⟩, hreports⟩ := hstart.all h
  refine ⟨hreports, fun hsettled => ?_⟩
  have hgone : ∀ (P : ApprovalRuntimeState → ApprovalOp → Prop) {Q : ApprovalRuntimeState → ApprovalOp → Prop}
      {s : ApprovalRuntimeState} {rest : List ApprovalOp}, (∀ s op, P s op → Q s op) →
        Trace.Along step (fun s op => ¬Q s op) s rest → ¬Sometime P s rest := by
    intro P Q s rest hPQ halong hsometime
    exact hsometime (Trace.along_mono step (fun s op hnot hP => hnot (hPQ s op hP)) halong)
  refine halike.eq ?_ ?_
  · rintro id - ⟨before, response, response', after, hsplit, rfl, hother, halong⟩
    obtain hleaves | ⟨-, hmarks⟩ := hsettled before response response' after hsplit hother
    · exact hgone _ (fun _ _ => .inl) halong hleaves
    · exact hgone _ (fun _ _ => .inr) halong hmarks
  · rintro o - ⟨before, response, response', after, hsplit, hid, hother, halong⟩
    rw [← hid] at halong
    obtain hleaves | ⟨hsends, -⟩ := hsettled before response response' after hsplit hother
    · exact hgone _ (fun _ _ => .inl) halong hleaves
    · exact hgone _ (fun _ _ => .inr) halong hsends

end ApprovalRuntimeState

namespace Sample

def secondAnswer : InteractionResponse :=
  { answer with payload := .form ⟨[⟨field.id, .text ⟨"hunter2", by decide⟩⟩], by decide, by decide⟩ }

/-- The question is answered in two ways; the answer is written and the question resolved. -/
def answeredTwice : List (ApprovalOp × ApprovalOp) :=
  [(.register .observer (.number 1) "item/tool/requestUserInput" prepared,
      .register .observer (.number 1) "item/tool/requestUserInput" prepared),
    (.claim answer, .claim secondAnswer), (.popOutboundFor .observer, .popOutboundFor .observer),
    (.markSent prepared.request.id, .markSent prepared.request.id)]

end Sample

namespace ApprovalRuntimeState

open AgentPulse.Codex.Sample (answer answeredTwice secondAnswer)

theorem run_forgets_answered : run (answeredTwice.map Prod.fst) = run (answeredTwice.map Prod.snd) := by
  have hpaired : Paired answeredTwice :=
    ⟨.same _, .answers rfl rfl rfl (by decide +kernel) (by decide +kernel) (by decide +kernel),
      .same _, .same _, trivial⟩
  refine (run_forgets answeredTwice hpaired).2 fun before response response' after hsplit hother => ?_
  unfold answeredTwice at hsplit
  rcases before with _ | ⟨first, _ | ⟨second, _ | ⟨third, _ | ⟨fourth, rest⟩⟩⟩⟩
  · cases hsplit
  · obtain ⟨rfl, hrest⟩ := List.cons.inj hsplit
    obtain ⟨hclaims, rfl⟩ := List.cons.inj hrest
    obtain ⟨hclaim, hclaim'⟩ := Prod.mk.inj hclaims
    obtain rfl := ApprovalOp.claim.inj hclaim
    obtain rfl := ApprovalOp.claim.inj hclaim'
    refine .inr ⟨fun hkept => hkept.1 ⟨.observer, rfl, ?_⟩, fun hkept => hkept.2.1 rfl⟩
    have hpopped : (((run [.register .observer (.number 1) "item/tool/requestUserInput"
        Codex.Sample.prepared, .claim answer]).popOutboundFor .observer).1.map
          OutboundApproval.interactionId) = some answer.requestId := by decide +kernel
    obtain ⟨outbound, houtbound, hid⟩ := Option.map_eq_some_iff.mp hpopped
    exact ⟨outbound, houtbound, hid⟩
  · cases hsplit
  · cases hsplit
  · simp at hsplit

end ApprovalRuntimeState

end Codex

end AgentPulse
