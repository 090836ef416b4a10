import AgentPulse.CodexActiveTurn
import AgentPulse.CodexKeep
import AgentPulse.History

/-!
# Answers on their way to the server

A queued answer is taken, written and marked in three sections. Every answer that
is queued for a route, or taken and not yet marked, belongs to an entry of that
route that waits for it. Another thread can break this only by removing the entry
between the first section and the last.
-/
namespace AgentPulse

namespace Codex

open Std (ExtTreeMap)
open Program (Preserves Triple)
open Interleaved (Holds)

namespace ApprovalRuntimeState

/-- The interactions with a queued answer of the route, in order. -/
def answers (own : ApprovalRoute) (s : ApprovalRuntimeState) : List InteractionId :=
  (s.outbound.filter fun outbound => outbound.route == own).map OutboundApproval.interactionId

/-- An entry of the route whose answer is claimed and can be marked once it is written. -/
def Waits (own : ApprovalRoute) (s : ApprovalRuntimeState) (id : InteractionId) : Prop :=
  ∃ p response status, s.pending[id]? = some p ∧ p.route = own ∧ p.status = .queued response ∧
    sentStatus response = .ok status

/-- The answers of a route, with the one in hand first, wait under different
entries of the route. -/
structure Sound (own : ApprovalRoute) (hand : Option InteractionId) (s : ApprovalRuntimeState) :
    Prop where
  indexed : Indexed s
  waits : ∀ id ∈ hand.toList ++ s.answers own, Waits own s id
  nodup : (hand.toList ++ s.answers own).Nodup

/-- An answer that has a result for the server is an approval or a form. -/
theorem sentStatus_of_responseResult {id : InteractionId} {mapping : ResponseMapping}
    {response : InteractionResponse} {result : Value}
    (h : responseResult id mapping response.payload = .ok result) :
    ∃ status, sentStatus response = .ok status := by
  unfold sentStatus
  cases hpayload : response.payload with
  | approval selection => exact ⟨_, rfl⟩
  | form form => exact ⟨_, rfl⟩
  | choice selection =>
    rw [hpayload] at h
    cases mapping <;> cases h
  | text value =>
    rw [hpayload] at h
    cases mapping <;> cases h

/-- The first element that passes a test heads the list of all of them. -/
theorem filter_eq_cons_eraseP {α : Type} {p : α → Bool} {xs : List α} {a : α}
    (h : xs.find? p = some a) : xs.filter p = a :: (xs.eraseP p).filter p := by
  induction xs with
  | nil => cases h
  | cons x rest ih =>
    by_cases hx : p x = true
    · rw [List.find?_cons_of_pos hx] at h
      cases h
      rw [List.eraseP_cons_of_pos hx, List.filter_cons_of_pos hx]
    · rw [List.find?_cons_of_neg hx] at h
      rw [List.eraseP_cons_of_neg hx, List.filter_cons_of_neg hx, List.filter_cons_of_neg hx, ih h]

/-- Taking an answer does not change what is queued or in hand. -/
theorem answers_pop {own : ApprovalRoute} {s : ApprovalRuntimeState} {outbound : OutboundApproval}
    (h : (s.popOutboundFor own).1 = some outbound) :
    s.answers own = outbound.interactionId :: (s.popOutboundFor own).2.answers own := by
  unfold popOutboundFor at h ⊢
  cases hfind : s.outbound.find? fun outbound => outbound.route == own with
  | none =>
    rw [hfind] at h
    cases h
  | some found =>
    rw [hfind] at h
    cases h
    show List.map _ _ = _
    rw [filter_eq_cons_eraseP hfind]
    rfl

/-- What is taken off the queue of any route leaves a part of it. -/
theorem answers_pop_sublist (own route : ApprovalRoute) (s : ApprovalRuntimeState) :
    ((s.popOutboundFor route).2.answers own).Sublist (s.answers own) := by
  unfold popOutboundFor
  split
  · exact List.Sublist.refl _
  · exact (List.eraseP_sublist.filter _).map _

namespace Sound

variable {own : ApprovalRoute} {hand : Option InteractionId} {s s' : ApprovalRuntimeState}

/-- The same answers, or fewer, under entries that still wait. -/
theorem of_sublist (h : Sound own hand s) (hindexed : Indexed s')
    (hanswers : (s'.answers own).Sublist (s.answers own))
    (hwaits : ∀ id ∈ hand.toList ++ s'.answers own, Waits own s id → Waits own s' id) :
    Sound own hand s' where
  indexed := hindexed
  waits id hid := by
    have hsub := (List.Sublist.refl hand.toList).append hanswers
    exact hwaits id hid (h.waits id (hsub.subset hid))
  nodup := h.nodup.sublist ((List.Sublist.refl hand.toList).append hanswers)

/-- Removal that spares the answer in hand. -/
theorem removes (h : Sound own hand s) {gone : InteractionId → Bool} (hr : Removes gone s s')
    (hhand : ∀ id ∈ hand, gone id = false) : Sound own hand s' := by
  apply h.of_sublist (hr.indexed h.indexed)
  · unfold answers
    rw [hr.outbound]
    exact (List.filter_sublist.filter _).map _
  · intro id hid hwaits
    have hgone : gone id = false := by
      rcases List.mem_append.mp hid with hid | hid
      · exact hhand id (by simpa using hid)
      · obtain ⟨outbound, hmem, rfl⟩ := List.mem_map.mp hid
        rw [hr.outbound] at hmem
        simpa using (List.mem_filter.mp (List.mem_filter.mp hmem).1).2
    obtain ⟨p, response, status, hp, hrest⟩ := hwaits
    exact ⟨p, response, status, by rw [hr.pending, hgone]; exact hp, hrest⟩

/-- Taking the first answer puts it in hand. -/
theorem pop (h : Sound own none s) {outbound : OutboundApproval}
    (hpop : (s.popOutboundFor own).1 = some outbound) :
    Sound own (some outbound.interactionId) (s.popOutboundFor own).2 := by
  have hanswers := answers_pop hpop
  have hindexed := ApprovalOp.apply_indexed h.indexed (.popOutboundFor own)
  constructor
  · exact hindexed
  · intro id hid
    have hwaits := h.waits id (by simpa [hanswers] using hid)
    obtain ⟨p, response, status, hp, hrest⟩ := hwaits
    exact ⟨p, response, status, by rw [popOutboundFor_pending]; exact hp, hrest⟩
  · simpa [hanswers] using h.nodup

/-- A change of one entry that is not among the answers. -/
theorem waits_of_ne {id a : InteractionId} {p : PendingApproval} {outbound : List OutboundApproval}
    (hne : id ≠ a) (h : Waits own s a) :
    Waits own { s with pending := s.pending.insert id p, outbound := outbound } a := by
  obtain ⟨q, response, status, hq, hrest⟩ := h
  exact ⟨q, response, status, by simpa [OrderedMap.getElem?_insert, hne] using hq, hrest⟩

/-- A claimed answer is queued behind the others. -/
theorem claimed (h : Sound own hand s) {response : InteractionResponse} {p : PendingApproval}
    {result : Value} (hp : s.pending[response.requestId]? = some p)
    (hawaiting : p.status = .awaiting)
    (hresult : responseResult response.requestId p.responseMapping response.payload = .ok result) :
    Sound own hand
      { s with
        pending := s.pending.insert response.requestId { p with status := .queued response }
        outbound := s.outbound ++
          [⟨p.route, response.requestId, p.requestId, p.method, result⟩] } := by
  have hne : ∀ a ∈ hand.toList ++ s.answers own, response.requestId ≠ a := by
    rintro a ha rfl
    obtain ⟨q, r, status, hq, -, hqueued, -⟩ := h.waits _ ha
    rw [hp] at hq
    cases hq
    rw [hawaiting] at hqueued
    cases hqueued
  obtain ⟨status, hstatus⟩ := sentStatus_of_responseResult hresult
  by_cases hroute : p.route = own
  · have hanswers : answers own
        { s with
          pending := s.pending.insert response.requestId { p with status := .queued response }
          outbound := s.outbound ++
            [⟨p.route, response.requestId, p.requestId, p.method, result⟩] } =
        s.answers own ++ [response.requestId] := by
      simp [answers, hroute]
    constructor
    · exact h.indexed.restatus hp _ _
    · intro a ha
      rw [hanswers, ← List.append_assoc] at ha
      rcases List.mem_append.mp ha with ha | ha
      · exact waits_of_ne (hne a ha) (h.waits a ha)
      · cases List.mem_singleton.mp ha
        exact ⟨{ p with status := .queued response }, response, status, by simp, hroute, rfl,
          hstatus⟩
    · rw [hanswers, ← List.append_assoc]
      apply List.nodup_append.mpr
      refine ⟨h.nodup, List.nodup_singleton _, ?_⟩
      intro a ha b hb hab
      cases List.mem_singleton.mp hb
      exact hne a ha hab.symm
  · have hanswers : answers own
        { s with
          pending := s.pending.insert response.requestId { p with status := .queued response }
          outbound := s.outbound ++
            [⟨p.route, response.requestId, p.requestId, p.method, result⟩] } = s.answers own := by
      simp [answers, hroute]
    apply h.of_sublist (h.indexed.restatus hp _ _)
    · rw [hanswers]
    · intro a ha hwaits
      rw [hanswers] at ha
      exact waits_of_ne (hne a ha) hwaits

/-- Every operation that keeps the answer in hand and marks no queued one. -/
theorem apply (h : Sound own hand s) (op : ApprovalOp)
    (hhand : ∀ id ∈ hand, (op.apply s).pending[id]?.isSome)
    (hmark : ∀ id, op = .markSent id → id ∉ hand.toList ++ s.answers own) :
    Sound own hand (op.apply s) := by
  have hindexed := ApprovalOp.apply_indexed h.indexed op
  have heffect := ApprovalOp.apply_effect h.indexed op
  generalize op.apply s = s' at heffect hindexed hhand ⊢
  cases heffect with
  | refused => exact h
  | removed _ hr =>
    apply h.removes hr
    intro id hid
    obtain ⟨p, hp⟩ := Option.isSome_iff_exists.mp (hhand id hid)
    exact (hr.kept hp).2
  | added route requestId method prepared hkey hid =>
    apply h.of_sublist (ApprovalOp.added_indexed h.indexed hkey hid rfl) (List.Sublist.refl _)
    intro a ha hwaits
    have hne : prepared.request.id ≠ a := by
      rintro rfl
      obtain ⟨q, -, -, hq, -⟩ := hwaits
      rw [hid] at hq
      cases hq
    obtain ⟨q, response, status, hq, hrest⟩ := hwaits
    exact ⟨q, response, status, by simpa [OrderedMap.getElem?_insert, hne] using hq, hrest⟩
  | claimed response p result hp hawaiting hresult => exact h.claimed hp hawaiting hresult
  | popped route =>
    apply h.of_sublist hindexed (answers_pop_sublist own route s)
    rintro a - ⟨q, response, status, hq, hrest⟩
    exact ⟨q, response, status, by rw [popOutboundFor_pending]; exact hq, hrest⟩
  | marked id p response status hp =>
    apply h.of_sublist (h.indexed.restatus hp status s.outbound) (List.Sublist.refl _)
    intro a ha hwaits
    exact waits_of_ne (fun he => hmark id rfl (he ▸ ha)) hwaits

/-- The answer in hand can be marked, and leaves. -/
theorem marked {id : InteractionId} (h : Sound own (some id) s) :
    (s.markSent id).1 = .ok () ∧ Sound own none (s.markSent id).2 := by
  obtain ⟨p, response, status, hp, hroute, hqueued, hsent⟩ := h.waits id (by simp)
  obtain ⟨hnot, hnodup⟩ := List.nodup_cons.mp h.nodup
  have hdropped : Sound own none s := by
    constructor
    · exact h.indexed
    · intro a ha
      exact h.waits a (List.mem_cons_of_mem _ ha)
    · exact hnodup
  constructor
  · unfold markSent
    simp only [hp, hqueued, hsent]
  · apply hdropped.apply (.markSent id)
    · intro a ha
      cases ha
    · rintro a ⟨rfl⟩
      exact hnot

/-- Another thread marks no answer of the route. -/
theorem otherThan_markSent (h : Sound own hand s) {op : ApprovalOp}
    (hop : op.otherThan own s = true) (id : InteractionId) (hmark : op = .markSent id) :
    id ∉ hand.toList ++ s.answers own := by
  intro hid
  subst hmark
  obtain ⟨p, response, status, hp, hroute, -⟩ := h.waits id hid
  simp [ApprovalOp.otherThan, hp, hroute] at hop

end Sound

/-- The registry after any sections of any threads. Only the flush marks, and it
marks an answer that it has taken off the queue. -/
inductive Reached : ApprovalRuntimeState → Prop
  | new : Reached .new
  | step {s : ApprovalRuntimeState} (op : ApprovalOp) (h : Reached s)
      (hmark : ∀ id, op = .markSent id → ∀ outbound ∈ s.outbound, outbound.interactionId ≠ id) :
      Reached (op.apply s)

theorem Reached.sound {s : ApprovalRuntimeState} (h : Reached s) (own : ApprovalRoute) :
    Sound own none s := by
  induction h with
  | new =>
    constructor
    · exact indexed_new
    · intro id hid
      cases hid
    · exact List.nodup_nil
  | step op h hmark ih =>
    apply ih.apply op
    · intro id hid
      cases hid
    · intro id hop hid
      obtain ⟨outbound, hmem, hout⟩ := List.mem_map.mp hid
      exact hmark id hop outbound (List.mem_filter.mp hmem).1 hout

end ApprovalRuntimeState

/-- The interaction whose answer is taken and not yet marked. -/
def inHand (log : List Record) : Option InteractionId :=
  log.foldl (fun hand entry =>
    match entry with
    | .popped id => some id
    | .marked _ => none
    | _ => hand) none

/-- A step of another thread does not remove the interaction in hand. -/
def Record.spares (hand : Option InteractionId) : Record → Bool
  | .lost ids => hand.all fun id => !ids.contains id
  | _ => true

/-- No other thread removes the interaction whose answer is on its way. -/
def Undisturbed (log : List Record) : Prop :=
  History.Throughout (fun before entry => entry.spares (inHand before) = true) log

instance (log : List Record) : Decidable (Undisturbed log) :=
  inferInstanceAs (Decidable (History.Throughout _ log))

@[simp] theorem inHand_cleared (log : List Record) (session : SessionId) :
    inHand (log ++ [.cleared session]) = inHand log := by simp [inHand]
@[simp] theorem inHand_lost (log : List Record) (ids : List InteractionId) :
    inHand (log ++ [.lost ids]) = inHand log := by simp [inHand]
@[simp] theorem inHand_popped (log : List Record) (id : InteractionId) :
    inHand (log ++ [.popped id]) = some id := by simp [inHand]
@[simp] theorem inHand_marked (log : List Record) (id : InteractionId) :
    inHand (log ++ [.marked id]) = none := by simp [inHand]

namespace Worker

variable {B : Type}

/-- What holds between the sections of a flush: the writes are among the given
ones, and unless another thread interfered the answers wait for their marks. -/
structure Flushing (own : ApprovalRoute) (writes : List (Except String Unit))
    (hand : Option InteractionId) (w : Worker B) : Prop where
  outcomes : ∀ result ∈ w.writes, result ∈ writes
  inHand : inHand w.log = hand
  sound : Undisturbed w.log → ApprovalRuntimeState.Sound own hand w.approvals

variable {own : ApprovalRoute} {writes : List (Except String Unit)} {hand : Option InteractionId}
  {w : Worker B}

theorem mem_removedBetween {before after : ApprovalRuntimeState} {id : InteractionId} :
    id ∈ removedBetween before after ↔
      before.pending[id]?.isSome ∧ after.pending[id]?.isSome = false := by
  unfold removedBetween
  rw [List.mem_filter, ExtTreeMap.mem_keys, ExtTreeMap.isSome_getElem?_eq_contains,
    ExtTreeMap.isSome_getElem?_eq_contains]
  simp

/-- A section of another thread at the registry. -/
theorem Flushing.approval (h : Flushing own writes hand w) (op : ApprovalOp) :
    Flushing own writes hand (w.approval own op) := by
  unfold Worker.approval
  split
  · next hop =>
    constructor
    · exact h.outcomes
    · exact (inHand_lost _ _).trans h.inHand
    · intro hlog
      have hsound := h.sound hlog.snoc_left
      apply hsound.apply op
      · intro id hid
        subst hid
        have hspared := hlog.last
        rw [h.inHand] at hspared
        obtain ⟨p, -, -, hp, -⟩ := hsound.waits id (by simp)
        by_contra hgone
        have hremoved : id ∈ removedBetween w.approvals (op.apply w.approvals) :=
          mem_removedBetween.mpr ⟨by rw [hp]; rfl, Bool.eq_false_of_not_eq_true hgone⟩
        simp [Record.spares, hremoved] at hspared
      · exact hsound.otherThan_markSent hop
  · exact h

theorem Flushing.foreign (host : ProviderHost B) (h : Flushing own writes hand w)
    (step : Foreign B) : Flushing own writes hand (w.foreign host own step) := by
  cases step with
  | accept command =>
    show Flushing own writes hand (w.accept command)
    unfold Worker.accept
    split
    · constructor
      · exact h.outcomes
      · exact (inHand_cleared _ _).trans h.inHand
      · exact fun hlog => h.sound hlog.snoc_left
    · exact ⟨h.outcomes, h.inHand, h.sound⟩
  | claimLocal response => exact ⟨h.outcomes, h.inHand, h.sound⟩
  | mapping op => exact ⟨h.outcomes, h.inHand, h.sound⟩
  | approval op => exact h.approval op
  | host f => exact ⟨h.outcomes, h.inHand, h.sound⟩

end Worker

namespace Work

variable {B : Type} (host : ProviderHost B) (schema : ProtocolSchema) (own : ApprovalRoute)
  (writes : List (Except String Unit))

/-- The write of an answer failed, or the answer has no frame that the schema accepts. -/
def OwnFailure (error : CodexProviderSourceError) : Prop :=
  (∃ message, .error message ∈ writes ∧ error = .transport message) ∨
  ∃ id method result, ProtocolEngine.interactionResponse schema id method result = .error error

/-- The end of a flush that another thread has not interfered with. -/
def FlushFailure (halt : Halt) (w : Worker B) : Prop :=
  Undisturbed w.log → ∀ error, halt = .source error → OwnFailure schema writes error

theorem triple_popOutbound :
    Triple (Holds (Worker.Flushing own writes none)) (popOutbound host own)
      (fun outbound => Holds fun w : Worker B =>
        Worker.Flushing own writes (outbound.map OutboundApproval.interactionId) w)
      fun halt => Holds (FlushFailure schema writes halt) := by
  apply Interleaved.triple_atomically fun step w hw => hw.foreign host step
  apply Triple.update
  intro w hw
  dsimp only
  cases hpop : (w.approvals.popOutboundFor own).1 with
  | none => exact hw
  | some outbound =>
    constructor
    · exact hw.outcomes
    · exact inHand_popped _ _
    · intro hlog
      exact (hw.sound hlog.snoc_left).pop hpop

theorem triple_writeText (hand : Option InteractionId) (frame : Value) :
    Triple (Holds (Worker.Flushing own writes hand)) (writeText frame : Work B Unit)
      (fun _ => Holds (Worker.Flushing own writes hand))
      fun halt => Holds (FlushFailure schema writes halt) := by
  have hnext : Triple (Worker.Flushing own writes hand)
      (nextWrite : Program (Worker B) Halt (Except String Unit))
      (fun result w => Worker.Flushing own writes hand w ∧
        ∀ message, result = .error message → .error message ∈ writes)
      fun halt => FlushFailure schema writes halt := by
    apply Triple.update
    intro w hw
    refine ⟨⟨fun result hresult => hw.outcomes result (List.mem_of_mem_tail hresult), hw.inHand,
      hw.sound⟩, ?_⟩
    intro message hmessage
    cases hwrites : w.writes with
    | nil =>
      rw [hwrites] at hmessage
      cases hmessage
    | cons result rest =>
      rw [hwrites] at hmessage
      apply hw.outcomes
      rw [hwrites, ← hmessage]
      exact List.mem_cons_self
  apply Triple.bind (Interleaved.triple_locally hnext)
  intro result
  cases result with
  | ok _ => exact Triple.pure fun s hs => hs.1
  | error message =>
    apply Triple.fail
    intro s hs hlog error herror
    cases herror
    exact .inl ⟨message, hs.2 message rfl, rfl⟩

theorem triple_sendOutbound (outbound : OutboundApproval) :
    Triple (Holds (Worker.Flushing own writes (some outbound.interactionId)))
      (sendOutbound host schema own outbound)
      (fun _ => Holds fun w : Worker B => Worker.Flushing own writes none w)
      fun halt => Holds (FlushFailure schema writes halt) := by
  -- The frame is checked before anything is written.
  apply Triple.bind (Q := fun _ => Holds (Worker.Flushing own writes (some outbound.interactionId)))
  · apply Triple.ofExcept
    · exact fun frame s _ hs => hs
    · intro halt s hframe hs hlog error herror
      obtain ⟨found, hfound, rfl⟩ := mapError_source hframe
      cases herror
      exact .inr ⟨outbound.requestId, outbound.method, outbound.result, hfound⟩
  intro frame
  apply Triple.bind (triple_writeText schema own writes _ frame)
  intro _
  -- The mark succeeds unless the entry was removed since the answer was taken.
  have hmark : Triple (Worker.Flushing own writes (some outbound.interactionId))
      (part Worker.approvals (fun w approvals => { w with approvals := approvals })
        fun approvals => approvals.markSent outbound.interactionId)
      (fun _ (w : Worker B) => (∀ result ∈ w.writes, result ∈ writes) ∧
        (Undisturbed w.log → ApprovalRuntimeState.Sound own none w.approvals))
      fun halt => FlushFailure schema writes halt := by
    constructor
    · intro w _ w' hw h
      obtain ⟨-, rfl⟩ := Prod.mk.inj h
      exact ⟨hw.outcomes, fun hlog => (hw.sound hlog).marked.2⟩
    · intro w halt w' hw h hlog
      obtain ⟨hresult, rfl⟩ := Prod.mk.inj h
      rw [(hw.sound hlog).marked.1] at hresult
      cases hresult
  apply Triple.bind (Interleaved.triple_atomically (fun step w hw => hw.foreign host step) hmark)
  intro _
  apply Interleaved.triple_locally
  apply Triple.modify
  intro w hw
  constructor
  · exact hw.1
  · exact inHand_marked _ _
  · exact fun hlog => hw.2 hlog.snoc_left

theorem triple_flushApprovalResponses (fuel : Nat) :
    Triple (Holds (Worker.Flushing own writes none)) (flushApprovalResponses host schema own fuel)
      (fun _ => Holds fun w : Worker B => Worker.Flushing own writes none w)
      fun halt => Holds (FlushFailure schema writes halt) := by
  induction fuel with
  | zero =>
    apply Triple.fail
    intro s _ _ error herror
    cases herror
  | succ fuel ih =>
    apply Triple.bind (triple_popOutbound host schema own writes)
    intro outbound
    cases outbound with
    | none => exact Triple.pure fun s hs => hs
    | some outbound => exact Triple.bind (triple_sendOutbound host schema own writes outbound) fun _ => ih

/-- The queued answers and the steps to come, of which each queues at most one more. -/
structure Bounded (bound left : Nat) (w : Worker B) : Prop where
  indexed : ApprovalRuntimeState.Indexed w.approvals
  within : w.approvals.outbound.length + left ≤ bound

omit schema in
theorem bounded_foreign (bound left : Nat) (step : Foreign B) (w : Worker B)
    (hw : Bounded bound (left + 1) w) : Bounded bound left (w.foreign host own step) := by
  have hless : w.approvals.outbound.length + left ≤ bound := by
    have hwithin := hw.within
    omega
  cases step with
  | accept command =>
    show Bounded bound left (w.accept command)
    unfold Worker.accept
    split <;> exact ⟨hw.indexed, hless⟩
  | claimLocal response => exact ⟨hw.indexed, hless⟩
  | mapping op => exact ⟨hw.indexed, hless⟩
  | host f => exact ⟨hw.indexed, hless⟩
  | approval op =>
    show Bounded bound left (w.approval own op)
    unfold Worker.approval
    split
    · constructor
      · exact ApprovalOp.apply_indexed hw.indexed op
      · have hgrows := ApprovalOp.apply_outbound_length hw.indexed op
        have hwithin := hw.within
        show (op.apply w.approvals).outbound.length + left ≤ bound
        omega
    · exact ⟨hw.indexed, hless⟩

theorem bounded_popOutbound (bound : Nat) :
    Triple (Interleaved.Remaining (Bounded bound)) (popOutbound host own)
      (fun outbound => Interleaved.Remaining fun left (w : Worker B) =>
        Bounded (bound - outbound.toList.length) left w ∧ outbound.toList.length ≤ bound)
      fun halt _ => halt ≠ .unfinished := by
  apply Interleaved.triple_remaining_atomically (bounded_foreign host own bound)
  intro left
  apply Triple.update
  intro w hw
  have hpopped := ApprovalOp.apply_indexed hw.indexed (.popOutboundFor own)
  have hwithin := hw.within
  dsimp only
  cases hpop : (w.approvals.popOutboundFor own).1 with
  | none => exact ⟨⟨hw.indexed, hwithin⟩, Nat.zero_le _⟩
  | some outbound =>
    have hlength : (w.approvals.popOutboundFor own).2.outbound.length + 1 =
        w.approvals.outbound.length := by
      unfold ApprovalRuntimeState.popOutboundFor at hpop ⊢
      cases hfind : w.approvals.outbound.find? fun outbound => outbound.route == own with
      | none =>
        rw [hfind] at hpop
        cases hpop
      | some found =>
        have hmem := List.mem_of_find?_eq_some hfind
        have hroute := List.find?_some hfind
        show (List.eraseP _ _).length + 1 = _
        rw [List.length_eraseP_of_mem hmem hroute]
        have hpos := List.length_pos_of_mem hmem
        omega
    show Bounded (bound - 1) left _ ∧ 1 ≤ bound
    refine ⟨⟨hpopped, ?_⟩, by omega⟩
    show (w.approvals.popOutboundFor own).2.outbound.length + left ≤ bound - 1
    omega

/-- Sending an answer takes no loop. -/
theorem bounded_sendOutbound (bound : Nat) (outbound : OutboundApproval) :
    Triple (Interleaved.Remaining (Bounded bound)) (sendOutbound host schema own outbound)
      (fun _ => Interleaved.Remaining fun left (w : Worker B) => Bounded bound left w)
      fun halt _ => halt ≠ .unfinished := by
  apply Triple.bind (Q := fun _ => Interleaved.Remaining (Bounded bound))
  · apply Triple.ofExcept
    · exact fun frame s _ hs => hs
    · intro halt s hframe hs
      obtain ⟨error, -, rfl⟩ := mapError_source hframe
      exact nofun
  intro frame
  apply Triple.bind (Q := fun _ => Interleaved.Remaining (Bounded bound))
  · apply Triple.bind (Q := fun _ => Interleaved.Remaining (Bounded bound))
    · apply Interleaved.triple_remaining_locally
      exact fun left => Triple.update fun w hw => ⟨hw.indexed, hw.within⟩
    · intro result
      cases result with
      | ok _ => exact Triple.pure fun s hs => hs
      | error message => exact Triple.fail fun s hs => by simp
  intro _
  apply Triple.bind (Q := fun _ => Interleaved.Remaining (Bounded bound))
  · apply Interleaved.triple_remaining_atomically (bounded_foreign host own bound)
    intro left
    constructor
    · intro w _ w' hw h
      obtain ⟨-, rfl⟩ := Prod.mk.inj h
      have hwithin := hw.within
      rw [← ApprovalRuntimeState.markSent_outbound w.approvals outbound.interactionId] at hwithin
      exact ⟨ApprovalOp.apply_indexed hw.indexed (.markSent outbound.interactionId), hwithin⟩
    · intro w halt w' hw h
      obtain ⟨error, -, rfl⟩ := mapError_source (Prod.mk.inj h).1
      exact nofun
  intro _
  apply Interleaved.triple_remaining_locally
  exact fun left => Triple.modify fun w hw => ⟨hw.indexed, hw.within⟩

/-- A flush ends: only the steps to come can queue further answers. -/
theorem flushApprovalResponses_finishes (fuel bound : Nat) (h : bound < fuel) :
    Triple (Interleaved.Remaining (Bounded bound)) (flushApprovalResponses host schema own fuel)
      (fun _ _ => True) fun (halt : Halt) (_ : Interleaved (Worker B) (Foreign B)) =>
        halt ≠ .unfinished := by
  induction fuel generalizing bound with
  | zero => omega
  | succ fuel ih =>
    apply Triple.bind (bounded_popOutbound host own bound)
    intro outbound
    cases outbound with
    | none => exact Triple.pure fun _ _ => trivial
    | some outbound =>
      by_cases hbound : 1 ≤ bound
      · have hrest := Triple.bind (bounded_sendOutbound host schema own (bound - 1) outbound)
          fun _ => ih (bound - 1) (by omega)
        exact hrest.weaken (fun s hs => hs.1) (fun _ _ h => h) fun _ _ h => h
      · constructor
        · exact fun s a s' hs _ => absurd hs.2 hbound
        · exact fun s e s' hs _ => absurd hs.2 hbound

/-- From every registry of the program and for every schedule of the other threads:
if no other thread removes an interaction while its answer is on its way, the
flush ends, and it fails only by its own write or encoding. -/
theorem flushApprovalResponses_undisturbed (w : Worker B)
    (hreached : ApprovalRuntimeState.Reached w.approvals) (hlog : w.log = [])
    (schedule : List (List (Foreign B))) (fuel : Nat)
    (hfuel : w.approvals.outbound.length + (schedule.map List.length).sum < fuel)
    (hundisturbed : Undisturbed
      (flushApprovalResponses host schema own fuel ⟨w, schedule⟩).2.state.log) :
    (flushApprovalResponses host schema own fuel ⟨w, schedule⟩).1 = .ok () ∨
    ∃ error, (flushApprovalResponses host schema own fuel ⟨w, schedule⟩).1 =
        .error (.source error) ∧ OwnFailure schema w.writes error := by
  have hflushing : Holds (Worker.Flushing own w.writes none) (⟨w, schedule⟩ :
      Interleaved (Worker B) (Foreign B)) := by
    constructor
    · exact fun result hresult => hresult
    · show inHand w.log = none
      rw [hlog]
      rfl
    · exact fun _ => hreached.sound own
  have hbounded : Interleaved.Remaining
      (Bounded (w.approvals.outbound.length + (schedule.map List.length).sum))
      (⟨w, schedule⟩ : Interleaved (Worker B) (Foreign B)) :=
    ⟨(hreached.sound own).indexed, Nat.le_refl _⟩
  rcases hresult : flushApprovalResponses host schema own fuel ⟨w, schedule⟩ with ⟨result, s'⟩
  rw [hresult] at hundisturbed
  cases result with
  | ok _ => exact .inl rfl
  | error halt =>
    cases halt with
    | unfinished =>
      exact absurd rfl
        ((flushApprovalResponses_finishes host schema own fuel _ hfuel).fails _ _ _ hbounded hresult)
    | source error =>
      have hfailure := (triple_flushApprovalResponses host schema own w.writes fuel).fails _ _ _
        hflushing hresult
      exact .inr ⟨error, rfl, hfailure hundisturbed error rfl⟩

end Work

namespace Sample

/-- A schema that accepts every value. -/
def schema : ProtocolSchema where
  clientRequest _ := none
  serverNotification _ := none
  serverRequest _ := none
  jsonrpcResponse _ := none
  jsonrpcError _ := none
  response _ _ := none
  commandApprovalResponse _ := none
  fileApprovalResponse _ := none
  userInputResponse _ := none

/-- The session of the sample thread. -/
def session : SessionId := ⟨⟨0x00000000000070008000000000000001#128⟩, by decide⟩

theorem unique_of_text : (([] : List ChoiceOption).map ChoiceOption.id).Nodup := List.nodup_nil

theorem answerable_of_text : ([] : List ChoiceOption) = [] → true = true := fun _ => rfl

def field : FormField :=
  ⟨Ident.numbered .formField 0, AgentPulse.Sample.text, AgentPulse.Sample.text, [], true, false,
    unique_of_text, answerable_of_text⟩

/-- A question of the running turn, ready to be shown. -/
def prepared : PreparedApproval where
  request := .new (Ident.numbered .interaction 0) session AgentPulse.Sample.instant
    AgentPulse.Sample.text (.form ⟨[field], true, by decide, by decide⟩)
  responseMapping := .form (Std.ExtTreeMap.ofList [(field.id, "question")]) ∅
    (Std.ExtTreeMap.ofList [(field.id, true)])
  threadId := thread
  turnId := "t1"
  itemId := "i1"

def answer : InteractionResponse where
  requestId := prepared.request.id
  sessionId := session
  channelId := Ident.numbered .channel 0
  respondedAt := AgentPulse.Sample.instant
  payload := .form ⟨[⟨field.id, .text AgentPulse.Sample.text⟩], by decide, by decide⟩

/-- The registry while the observer's question waits. -/
def waiting : ApprovalRuntimeState :=
  ApprovalOp.apply .new (.register .observer (.number 1) "item/tool/requestUserInput" prepared)

theorem waiting_reached : ApprovalRuntimeState.Reached waiting :=
  .step _ .new (by simp)

/-- The worker while the sample thread runs its first turn and the registry is given. -/
def worker (approvals : ApprovalRuntimeState) : Worker Nat where
  mapping := (discovered.step host (turnStarted "t1")).1
  controls := .new
  approvals := approvals
  protocol := .new
  pending := ∅
  writes := []
  log := []

/-- The question is answered before the flush; the turn ends on another connection. -/
def closedBy (turn : String) : List (List (Foreign Nat)) :=
  [[.approval (.claim answer)], [.approval (.closeTurn thread turn)]]

end Sample

namespace Work

/-- Another turn that ends between the sections of the flush does not disturb it. -/
theorem flushApprovalResponses_other_turn :
    (flushApprovalResponses Sample.host Sample.schema .observer 4
      ⟨Sample.worker Sample.waiting, Sample.closedBy "t2"⟩).1 = .ok () ∨
    ∃ error, (flushApprovalResponses Sample.host Sample.schema .observer 4
        ⟨Sample.worker Sample.waiting, Sample.closedBy "t2"⟩).1 = .error (.source error) ∧
      OwnFailure Sample.schema [] error :=
  flushApprovalResponses_undisturbed Sample.host Sample.schema .observer
    (Sample.worker Sample.waiting) Sample.waiting_reached rfl (Sample.closedBy "t2") 4
    (by decide +kernel) (by decide +kernel)

/-- Every write succeeds and every frame is accepted, but the turn ends on another
connection after the answer is written: the mark fails the flush. -/
theorem flushApprovalResponses_fails_by_close :
    ApprovalRuntimeState.Reached Sample.waiting ∧
    (flushApprovalResponses Sample.host Sample.schema .observer 4
      ⟨Sample.worker Sample.waiting, Sample.closedBy "t1"⟩).1 =
      .error (.source (.protocol "queued approval disappeared before write")) ∧
    (flushApprovalResponses Sample.host Sample.schema .observer 4
      ⟨Sample.worker Sample.waiting, [[.approval (.claim Sample.answer)]]⟩).1 = .ok () := by
  refine ⟨Sample.waiting_reached, ?_, ?_⟩
  · decide +kernel
  · decide +kernel

end Work

end Codex

end AgentPulse
