import AgentPulse.CodexApproval

/-!
# What the operations of the registry do

Every operation leaves the registry alone, adds one entry, moves the status of
one entry along, or removes entries together with their index and their queued
answers. The index and the entries name each other.
-/
namespace AgentPulse

namespace Codex

open Std (ExtTreeMap)

namespace ApprovalRuntimeState

/-- Each indexed request is pending under its own key, and each entry is indexed. -/
structure Indexed (s : ApprovalRuntimeState) : Prop where
  requests : ∀ (key : RequestKey) (id : InteractionId), s.byRequest[key]? = some id →
    ∃ p : PendingApproval, s.pending[id]? = some p ∧ p.key = key
  entries : ∀ (id : InteractionId) (p : PendingApproval), s.pending[id]? = some p →
    s.byRequest[p.key]? = some id

theorem indexed_new : Indexed new where
  requests key id h := by simp [new] at h
  entries id p h := by simp [new] at h

/-- The entries of a set are gone, with their index and their queued answers. -/
structure Removes (gone : InteractionId → Bool) (s s' : ApprovalRuntimeState) : Prop where
  pending : ∀ id : InteractionId, s'.pending[id]? = if gone id then none else s.pending[id]?
  byRequest : ∀ key : RequestKey, s'.byRequest[key]? = s.byRequest[key]?.filter fun id => !gone id
  outbound : s'.outbound = s.outbound.filter fun entry => !gone entry.interactionId

namespace Removes

variable {gone : InteractionId → Bool} {s s' : ApprovalRuntimeState}

theorem refl (s : ApprovalRuntimeState) : Removes (fun _ => false) s s where
  pending := by simp
  byRequest key := by cases s.byRequest[key]? <;> rfl
  outbound := by simp

/-- What is still there was there before and is not among the removed. -/
theorem kept (h : Removes gone s s') {id : InteractionId} {p : PendingApproval}
    (hp : s'.pending[id]? = some p) : s.pending[id]? = some p ∧ gone id = false := by
  rw [h.pending] at hp
  cases hgone : gone id with
  | true => simp [hgone] at hp
  | false => exact ⟨by simpa [hgone] using hp, rfl⟩

theorem indexed (h : Removes gone s s') (hs : Indexed s) : Indexed s' where
  requests key id hid := by
    rw [h.byRequest, Option.filter_eq_some_iff] at hid
    obtain ⟨hfound, hstays⟩ := hid
    obtain ⟨p, hp, hkey⟩ := hs.requests key id hfound
    refine ⟨p, ?_, hkey⟩
    rw [h.pending, hp]
    simpa using hstays
  entries id p hp := by
    obtain ⟨hbefore, hstays⟩ := h.kept hp
    rw [h.byRequest, hs.entries id p hbefore, Option.filter_some]
    simp [hstays]

end Removes

theorem drop_pending (s : ApprovalRuntimeState) (id a : InteractionId) :
    (s.drop id).pending[a]? = if a = id then none else s.pending[a]? := by
  unfold drop
  cases h : s.pending[id]? with
  | none =>
    by_cases hid : a = id
    · subst hid
      simp [h]
    · simp [hid]
  | some p =>
    show (s.pending.erase id)[a]? = _
    rw [OrderedMap.getElem?_erase]
    by_cases hid : a = id
    · simp [hid]
    · rw [if_neg hid, if_neg fun he => hid he.symm]

theorem drop_outbound (s : ApprovalRuntimeState) (id : InteractionId) :
    (s.drop id).outbound = s.outbound := by
  unfold drop
  cases s.pending[id]? <;> rfl

/-- With a consistent index, the erased key is the only one of the entry. -/
theorem drop_byRequest {s : ApprovalRuntimeState} (hs : Indexed s) (id : InteractionId)
    (key : RequestKey) :
    (s.drop id).byRequest[key]? = s.byRequest[key]?.filter fun found => !decide (found = id) := by
  cases hk : s.byRequest[key]? with
  | none =>
    unfold drop
    cases hp : s.pending[id]? with
    | none => simpa using hk
    | some p =>
      show (s.byRequest.erase p.key)[key]? = none
      simp [OrderedMap.getElem?_erase, hk]
  | some found =>
    obtain ⟨q, hq, hkey⟩ := hs.requests key found hk
    unfold drop
    cases hp : s.pending[id]? with
    | none =>
      have hne : found ≠ id := by
        rintro rfl
        rw [hp] at hq
        cases hq
      simp [hk, hne, Option.filter_some]
    | some p =>
      show (s.byRequest.erase p.key)[key]? = _
      rw [OrderedMap.getElem?_erase, hk, Option.filter_some]
      by_cases hid : found = id
      · subst hid
        rw [hp] at hq
        cases hq
        simp [hkey]
      · have hne : p.key ≠ key := by
          intro he
          have hown := hs.entries id p hp
          rw [he, hk] at hown
          exact hid (Option.some.inj hown)
        simp [hne, hid]

theorem remove_removes {s : ApprovalRuntimeState} (hs : Indexed s) (id : InteractionId) :
    Removes (fun a => decide (a = id)) s (s.remove id) where
  pending a := by
    show (s.drop id).pending[a]? = _
    rw [drop_pending]
    by_cases h : a = id
    · simp [h]
    · simp [h]
  byRequest := drop_byRequest hs id
  outbound := by
    show (s.drop id).outbound.filter _ = _
    rw [drop_outbound]
    congr 1
    funext entry
    simp

theorem drop_indexed {s : ApprovalRuntimeState} (hs : Indexed s) (id : InteractionId) :
    Indexed (s.drop id) :=
  ⟨((remove_removes hs id).indexed hs).requests, ((remove_removes hs id).indexed hs).entries⟩

/-- Dropping the entries of a list one after the other. -/
theorem drop_all {s : ApprovalRuntimeState} (hs : Indexed s) (ids : List InteractionId) :
    Indexed (ids.foldl drop s) ∧ (ids.foldl drop s).outbound = s.outbound ∧
    (∀ a : InteractionId, (ids.foldl drop s).pending[a]? =
      if a ∈ ids then none else s.pending[a]?) ∧
    ∀ key : RequestKey, (ids.foldl drop s).byRequest[key]? =
      s.byRequest[key]?.filter fun found => !decide (found ∈ ids) := by
  induction ids generalizing s with
  | nil => exact ⟨hs, rfl, by simp, (Removes.refl s).byRequest⟩
  | cons id rest ih =>
    obtain ⟨hindexed, houtbound, hpending, hrequests⟩ := ih (drop_indexed hs id)
    refine ⟨hindexed, houtbound.trans (drop_outbound s id), ?_, ?_⟩
    · intro a
      show (rest.foldl drop (s.drop id)).pending[a]? = _
      rw [hpending, drop_pending]
      by_cases ha : a ∈ rest
      · simp [ha]
      · by_cases hid : a = id
        · simp [hid]
        · simp [ha, hid]
    · intro key
      show (rest.foldl drop (s.drop id)).byRequest[key]? = _
      rw [hrequests, drop_byRequest hs]
      cases s.byRequest[key]? with
      | none => rfl
      | some found =>
        by_cases hid : found = id
        · simp [hid, Option.filter_some]
        · simp [hid, Option.filter_some]

/-- The entries that satisfy a test. -/
def holds (s : ApprovalRuntimeState) (matching : PendingApproval → Bool) (id : InteractionId) :
    Bool :=
  s.pending[id]?.any matching

theorem mem_found {s : ApprovalRuntimeState} {matching : PendingApproval → Bool}
    {id : InteractionId} :
    id ∈ (s.pending.toList.filter fun entry => matching entry.2).map Prod.fst ↔
      s.holds matching id = true := by
  unfold holds
  rw [Option.any_eq_true]
  constructor
  · intro h
    obtain ⟨⟨a, p⟩, hfound, rfl⟩ := List.mem_map.mp h
    obtain ⟨hmem, hm⟩ := List.mem_filter.mp hfound
    exact ⟨p, ExtTreeMap.mem_toList_iff_getElem?_eq_some.mp hmem, hm⟩
  · rintro ⟨p, hp, hm⟩
    have hmem : (id, p) ∈ s.pending.toList := ExtTreeMap.mem_toList_iff_getElem?_eq_some.mpr hp
    exact List.mem_map.mpr ⟨(id, p), List.mem_filter.mpr ⟨hmem, hm⟩, rfl⟩

theorem closeMatching_removes {s : ApprovalRuntimeState} (hs : Indexed s)
    (matching : PendingApproval → Bool) :
    Removes (s.holds matching) s (s.closeMatching matching).2 := by
  obtain ⟨-, houtbound, hpending, hrequests⟩ :=
    drop_all hs ((s.pending.toList.filter fun entry => matching entry.2).map Prod.fst)
  constructor
  · intro id
    show (List.foldl drop s _).pending[id]? = _
    rw [hpending]
    by_cases h : s.holds matching id = true
    · rw [if_pos (mem_found.mpr h), if_pos h]
    · rw [if_neg fun hmem => h (mem_found.mp hmem), if_neg h]
  · intro key
    show (List.foldl drop s _).byRequest[key]? = _
    rw [hrequests]
    congr 1
    funext id
    by_cases h : s.holds matching id = true
    · simp only [h, decide_eq_true (mem_found.mpr h)]
    · have hmem := fun hmem => h (mem_found.mp hmem)
      simp only [Bool.not_eq_true] at h
      simp only [h, decide_eq_false hmem]
  · show (List.foldl drop s _).outbound.filter _ = _
    rw [houtbound]
    congr 1
    funext entry
    congr 1
    rw [List.any_map]
    by_cases h : s.holds matching entry.interactionId = true
    · rw [h, List.any_eq_true]
      obtain ⟨found, hfound, hid⟩ := List.mem_map.mp (mem_found.mpr h)
      exact ⟨found, hfound, by simpa using hid⟩
    · have hmem := fun hmem => h (mem_found.mp hmem)
      simp only [Bool.not_eq_true] at h
      rw [h, List.any_eq_false]
      intro found hfound he
      apply hmem
      rw [List.mem_map]
      exact ⟨found, hfound, by simpa using he⟩

/-- What a close reports is what it removed. -/
theorem mem_closed {s : ApprovalRuntimeState} {matching : PendingApproval → Bool}
    {id : InteractionId} :
    id ∈ (s.closeMatching matching).1.map ClosedApproval.interactionId ↔
      s.holds matching id = true := by
  rw [← mem_found]
  show id ∈ List.map _ (List.map _ _) ↔ _
  rw [List.map_map]
  rfl

/-- A resolution removes the entry of its request. -/
theorem resolve_removes {s : ApprovalRuntimeState} (hs : Indexed s) (route : ApprovalRoute)
    (requestId : RequestId) (threadId : String) :
    (s.resolve route requestId threadId).2 = s ∨
    ∃ id p, s.pending[id]? = some p ∧ p.key = ⟨route, requestId⟩ ∧
      Removes (fun a => decide (a = id)) s (s.resolve route requestId threadId).2 := by
  unfold resolve
  cases hk : s.byRequest[(⟨route, requestId⟩ : RequestKey)]? with
  | none => exact .inl rfl
  | some id =>
    obtain ⟨p, hp, hkey⟩ := hs.requests _ id hk
    simp only [hp]
    split
    · exact .inl rfl
    · refine .inr ⟨id, p, hp, hkey, ?_⟩
      have hremove := remove_removes hs id
      have hdrop : s.drop id = { s with
          pending := s.pending.erase id
          byRequest := s.byRequest.erase p.key } := by
        unfold drop
        rw [hp]
      constructor
      · intro a
        have hpending := hremove.pending a
        rw [remove, hdrop] at hpending
        exact hpending
      · intro key
        have hrequests := hremove.byRequest key
        rw [remove, hdrop, hkey] at hrequests
        exact hrequests
      · have houtbound := hremove.outbound
        rw [remove, hdrop] at houtbound
        exact houtbound

/-- The entry that a registration stores. -/
def registered (route : ApprovalRoute) (requestId : RequestId) (method : String)
    (prepared : PreparedApproval) : PendingApproval where
  route := route
  requestId := requestId
  method := method
  threadId := prepared.threadId
  turnId := prepared.turnId
  itemId := prepared.itemId
  sessionId := prepared.request.sessionId
  responseMapping := prepared.responseMapping
  status := .awaiting

/-- A registration is refused, or adds an entry under a new identifier and a new key. -/
theorem register_cases (s : ApprovalRuntimeState) (route : ApprovalRoute) (requestId : RequestId)
    (method : String) (prepared : PreparedApproval) :
    (∃ e, s.register route requestId method prepared = (.error e, s)) ∨
    (s.byRequest[(⟨route, requestId⟩ : RequestKey)]? = none ∧
      s.pending[prepared.request.id]? = none ∧
      s.register route requestId method prepared = (.ok (),
        { s with
          byRequest := s.byRequest.insert ⟨route, requestId⟩ prepared.request.id
          pending := s.pending.insert prepared.request.id
            (registered route requestId method prepared) })) := by
  unfold register
  split
  · exact .inl ⟨_, rfl⟩
  · split
    · exact .inl ⟨_, rfl⟩
    · next hkey =>
      split
      · exact .inl ⟨_, rfl⟩
      · next hid =>
        refine .inr ⟨?_, ?_, rfl⟩
        · simpa using hkey
        · simpa using hid

/-- An answer is refused, or takes a waiting entry along and is queued for its route. -/
theorem claim_cases (s : ApprovalRuntimeState) (response : InteractionResponse) :
    (∃ e, s.claim response = (.error e, s)) ∨
    ∃ p result, s.pending[response.requestId]? = some p ∧ p.status = .awaiting ∧
      responseResult response.requestId p.responseMapping response.payload = .ok result ∧
      s.claim response = (.ok (),
        { s with
          pending := s.pending.insert response.requestId { p with status := .queued response }
          outbound := s.outbound ++
            [⟨p.route, response.requestId, p.requestId, p.method, result⟩] }) := by
  unfold claim
  cases hp : s.pending[response.requestId]? with
  | none => exact .inl ⟨_, rfl⟩
  | some p =>
    dsimp only
    split
    · exact .inl ⟨_, rfl⟩
    · split
      · exact .inl ⟨_, rfl⟩
      · next hstatus =>
        cases hresult : responseResult response.requestId p.responseMapping response.payload with
        | error e => exact .inl ⟨e, rfl⟩
        | ok result =>
          dsimp only
          split
          · exact .inl ⟨_, rfl⟩
          · exact .inr ⟨p, result, rfl, not_not.mp hstatus, hresult, rfl⟩

/-- Marking is refused, or takes a queued entry along. -/
theorem markSent_cases (s : ApprovalRuntimeState) (id : InteractionId) :
    (∃ e, s.markSent id = (.error e, s)) ∨
    ∃ p response status, s.pending[id]? = some p ∧ p.status = .queued response ∧
      sentStatus response = .ok status ∧
      s.markSent id =
        (.ok (), { s with pending := s.pending.insert id { p with status := status } }) := by
  unfold markSent
  cases hp : s.pending[id]? with
  | none => exact .inl ⟨_, rfl⟩
  | some p =>
    cases hstatus : p.status with
    | queued response =>
      cases hsent : sentStatus response with
      | error e => exact .inl ⟨e, by simp only [hstatus, hsent]⟩
      | ok status =>
        exact .inr ⟨p, response, status, rfl, hstatus, hsent, by simp only [hstatus, hsent]⟩
    | awaiting => exact .inl ⟨_, by simp only [hstatus]; rfl⟩
    | sentApproval response => exact .inl ⟨_, by simp only [hstatus]; rfl⟩
    | sentForm => exact .inl ⟨_, by simp only [hstatus]; rfl⟩

theorem markSent_outbound (s : ApprovalRuntimeState) (id : InteractionId) :
    (s.markSent id).2.outbound = s.outbound := by
  obtain ⟨e, he⟩ | ⟨p, response, status, -, -, -, hmark⟩ := markSent_cases s id
  · rw [he]
  · rw [hmark]

theorem popOutboundFor_pending (s : ApprovalRuntimeState) (route : ApprovalRoute) :
    (s.popOutboundFor route).2.pending = s.pending := by
  unfold popOutboundFor
  split <;> rfl

theorem popOutboundFor_byRequest (s : ApprovalRuntimeState) (route : ApprovalRoute) :
    (s.popOutboundFor route).2.byRequest = s.byRequest := by
  unfold popOutboundFor
  split <;> rfl

/-- A new status of an entry keeps the index. -/
theorem Indexed.restatus {s : ApprovalRuntimeState} (hs : Indexed s) {id : InteractionId}
    {p : PendingApproval} (hp : s.pending[id]? = some p) (status : PendingStatus)
    (outbound : List OutboundApproval) :
    Indexed { s with pending := s.pending.insert id { p with status := status }, outbound := outbound } where
  requests key found hfound := by
    obtain ⟨q, hq, hkey⟩ := hs.requests key found hfound
    by_cases h : id = found
    · subst h
      rw [hp] at hq
      cases hq
      exact ⟨{ p with status := status }, by simp, hkey⟩
    · exact ⟨q, by simpa [OrderedMap.getElem?_insert, h] using hq, hkey⟩
  entries found q hq := by
    simp only [OrderedMap.getElem?_insert] at hq
    split at hq
    · next h =>
      subst h
      cases hq
      exact hs.entries id p hp
    · exact hs.entries found q hq

end ApprovalRuntimeState

namespace ApprovalOp

open ApprovalRuntimeState

/-- All that one operation can do to the registry. -/
inductive Effect (s : ApprovalRuntimeState) : ApprovalOp → ApprovalRuntimeState → Prop
  | refused (op : ApprovalOp) : Effect s op s
  | removed (op : ApprovalOp) {gone : InteractionId → Bool} {s' : ApprovalRuntimeState}
      (h : Removes gone s s') : Effect s op s'
  | added (route : ApprovalRoute) (requestId : RequestId) (method : String)
      (prepared : PreparedApproval)
      (hkey : s.byRequest[(⟨route, requestId⟩ : RequestKey)]? = none)
      (hid : s.pending[prepared.request.id]? = none) :
      Effect s (.register route requestId method prepared)
        { s with
          byRequest := s.byRequest.insert ⟨route, requestId⟩ prepared.request.id
          pending := s.pending.insert prepared.request.id
            (registered route requestId method prepared) }
  | claimed (response : InteractionResponse) (p : PendingApproval) (result : Value)
      (hp : s.pending[response.requestId]? = some p) (hstatus : p.status = .awaiting)
      (hresult : responseResult response.requestId p.responseMapping response.payload = .ok result) :
      Effect s (.claim response)
        { s with
          pending := s.pending.insert response.requestId { p with status := .queued response }
          outbound := s.outbound ++
            [⟨p.route, response.requestId, p.requestId, p.method, result⟩] }
  | popped (route : ApprovalRoute) :
      Effect s (.popOutboundFor route) (s.popOutboundFor route).2
  | marked (id : InteractionId) (p : PendingApproval) (response : InteractionResponse)
      (status : PendingStatus) (hp : s.pending[id]? = some p) (hstatus : p.status = .queued response)
      (hsent : sentStatus response = .ok status) :
      Effect s (.markSent id) { s with pending := s.pending.insert id { p with status := status } }

theorem apply_effect {s : ApprovalRuntimeState} (hs : Indexed s) (op : ApprovalOp) :
    Effect s op (op.apply s) := by
  cases op with
  | register route requestId method prepared =>
    show Effect s _ (s.register route requestId method prepared).2
    obtain ⟨e, he⟩ | ⟨hkey, hid, h⟩ := register_cases s route requestId method prepared
    · rw [he]
      exact .refused _
    · rw [h]
      exact .added route requestId method prepared hkey hid
  | remove id => exact .removed _ (remove_removes hs id)
  | claim response =>
    show Effect s _ (s.claim response).2
    obtain ⟨e, he⟩ | ⟨p, result, hp, hstatus, hresult, h⟩ := claim_cases s response
    · rw [he]
      exact .refused _
    · rw [h]
      exact .claimed response p result hp hstatus hresult
  | popOutboundFor route => exact .popped route
  | markSent id =>
    show Effect s _ (s.markSent id).2
    obtain ⟨e, he⟩ | ⟨p, response, status, hp, hstatus, hsent, h⟩ := markSent_cases s id
    · rw [he]
      exact .refused _
    · rw [h]
      exact .marked id p response status hp hstatus hsent
  | resolve route requestId threadId =>
    show Effect s _ (s.resolve route requestId threadId).2
    obtain he | ⟨id, p, -, -, h⟩ := resolve_removes hs route requestId threadId
    · rw [he]
      exact .refused _
    · exact .removed _ h
  | closeItem threadId turnId itemId => exact .removed _ (closeMatching_removes hs _)
  | closeTurn threadId turnId => exact .removed _ (closeMatching_removes hs _)
  | closeThread threadId => exact .removed _ (closeMatching_removes hs _)
  | closeAll => exact .removed _ (closeMatching_removes hs _)
  | closeRoute route => exact .removed _ (closeMatching_removes hs _)

/-- A registration under a new key and a new identifier. -/
theorem added_indexed {s : ApprovalRuntimeState} (hs : Indexed s) {key : RequestKey}
    {id : InteractionId} {p : PendingApproval} (hkey : s.byRequest[key]? = none)
    (hid : s.pending[id]? = none) (hp : p.key = key) :
    Indexed { s with byRequest := s.byRequest.insert key id, pending := s.pending.insert id p } where
  requests k found hfound := by
    simp only [OrderedMap.getElem?_insert] at hfound ⊢
    split at hfound
    · next he =>
      cases hfound
      exact ⟨p, if_pos rfl, hp.trans he⟩
    · obtain ⟨q, hq, hkeyed⟩ := hs.requests k found hfound
      have hne : id ≠ found := by
        rintro rfl
        rw [hid] at hq
        cases hq
      exact ⟨q, by rw [if_neg hne]; exact hq, hkeyed⟩
  entries found q hq := by
    simp only [OrderedMap.getElem?_insert] at hq ⊢
    split at hq
    · next he =>
      cases hq
      rw [← he]
      exact if_pos hp.symm
    · have hfound := hs.entries found q hq
      have hne : key ≠ q.key := by
        intro he
        rw [← he, hkey] at hfound
        cases hfound
      rw [if_neg hne]
      exact hfound

/-- Every operation keeps the index consistent. -/
theorem apply_indexed {s : ApprovalRuntimeState} (hs : Indexed s) (op : ApprovalOp) :
    Indexed (op.apply s) := by
  have heffect := apply_effect hs op
  generalize op.apply s = s' at heffect ⊢
  cases heffect with
  | refused => exact hs
  | removed _ h => exact h.indexed hs
  | added route requestId method prepared hkey hid => exact added_indexed hs hkey hid rfl
  | claimed response p result hp => exact hs.restatus hp _ _
  | popped route =>
    constructor
    · rw [popOutboundFor_pending, popOutboundFor_byRequest]
      exact hs.requests
    · rw [popOutboundFor_pending, popOutboundFor_byRequest]
      exact hs.entries
  | marked id p response status hp => exact hs.restatus hp _ _

/-- An operation queues at most one answer. -/
theorem apply_outbound_length {s : ApprovalRuntimeState} (hs : Indexed s) (op : ApprovalOp) :
    (op.apply s).outbound.length ≤ s.outbound.length + 1 := by
  have heffect := apply_effect hs op
  generalize op.apply s = s' at heffect ⊢
  cases heffect with
  | refused => exact Nat.le_succ _
  | removed _ h =>
    rw [h.outbound]
    exact (List.length_filter_le _ _).trans (Nat.le_succ _)
  | added => exact Nat.le_succ _
  | claimed => simp
  | popped route =>
    unfold ApprovalRuntimeState.popOutboundFor
    split
    · exact Nat.le_succ _
    · exact List.eraseP_sublist.length_le.trans (Nat.le_succ _)
  | marked => exact Nat.le_succ _

end ApprovalOp

end Codex

end AgentPulse
