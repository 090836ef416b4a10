import AgentPulse.CodexOutbound

/-!
# Leaving the worker

The registry outlives the worker. Three of the four ways out close every pending
interaction and publish each close; the way out after a failed flush of the
control commands does not.
-/
namespace AgentPulse

namespace Codex

open Std (ExtTreeMap)
open Program (Preserves Triple)
open Interleaved (Holds)

namespace ApprovalRuntimeState

/-- No entry of the route is pending, in a consistent registry. -/
structure Cleared (own : ApprovalRoute) (s : ApprovalRuntimeState) : Prop where
  indexed : Indexed s
  pending : ∀ (id : InteractionId) (p : PendingApproval), s.pending[id]? = some p → p.route ≠ own

/-- Then no request of the route is indexed either. -/
theorem Cleared.byRequest {own : ApprovalRoute} {s : ApprovalRuntimeState} (h : Cleared own s)
    (key : RequestKey) (id : InteractionId) (hkey : s.byRequest[key]? = some id) :
    key.route ≠ own := by
  obtain ⟨p, hp, rfl⟩ := h.indexed.requests key id hkey
  exact h.pending id p hp

theorem cleared_closeAll (own : ApprovalRoute) {s : ApprovalRuntimeState} (hs : Indexed s) :
    Cleared own s.closeAll.2 := by
  have hr := closeMatching_removes hs fun _ => true
  constructor
  · exact hr.indexed hs
  · intro id p hp
    obtain ⟨hbefore, hstays⟩ := hr.kept hp
    simp [holds, hbefore] at hstays

/-- Other threads register nothing for the route. -/
theorem Cleared.otherThan {own : ApprovalRoute} {s : ApprovalRuntimeState} (h : Cleared own s)
    {op : ApprovalOp} (hop : op.otherThan own s = true) : Cleared own (op.apply s) := by
  have hindexed := ApprovalOp.apply_indexed h.indexed op
  have heffect := ApprovalOp.apply_effect h.indexed op
  generalize op.apply s = s' at hindexed heffect ⊢
  refine ⟨hindexed, fun id p hp => ?_⟩
  cases heffect with
  | refused => exact h.pending id p hp
  | removed _ hr => exact h.pending id p (hr.kept hp).1
  | added route requestId method prepared =>
    simp only [OrderedMap.getElem?_insert] at hp
    split at hp
    · cases hp
      simpa [ApprovalOp.otherThan, registered] using hop
    · exact h.pending id p hp
  | claimed response q result hq =>
    simp only [OrderedMap.getElem?_insert] at hp
    split at hp
    · cases hp
      exact h.pending _ q hq
    · exact h.pending id p hp
  | popped route =>
    rw [popOutboundFor_pending] at hp
    exact h.pending id p hp
  | marked found q response status hq =>
    simp only [OrderedMap.getElem?_insert] at hp
    split at hp
    · cases hp
      exact h.pending _ q hq
    · exact h.pending id p hp

end ApprovalRuntimeState

namespace Work

variable {B : Type} {host : ProviderHost B} {schema : ProtocolSchema} {route : ApprovalRoute}
  {J : ApprovalRuntimeState → Prop}

theorem neutral_registry
    (hJ : ∀ s op, ApprovalOp.otherThan route s op = true → J s → J (op.apply s)) :
    Neutral host route fun w : Worker B => J w.approvals where
  mapping _ _ hw := hw
  protocol _ _ hw := hw
  writes _ _ hw := hw
  controls _ _ _ hw := hw
  asked _ _ _ _ hw := hw
  remark _ _ _ hw := hw
  foreign step w hw := by
    cases step with
    | accept command =>
      show J (w.accept command).approvals
      unfold Worker.accept
      split <;> exact hw
    | claimLocal response => exact hw
    | mapping op => exact hw
    | approval op =>
      show J (w.approval route op).approvals
      unfold Worker.approval
      split
      · next hop => exact hJ _ op hop hw
      · exact hw
    | host f => exact hw

theorem indifferent_registry (h : Neutral host route fun w : Worker B => J w.approvals) :
    Indifferent host schema route fun w : Worker B => J w.approvals where
  mapping := h.mapping
  writes := h.writes
  controls _ _ hw := hw
  record _ _ hw := hw
  foreign := h.foreign
  asks expected params _kind := keeps_request h expected params fun _ _ hw => hw

/-- The sections about turns do not touch the registry. -/
theorem keepsTurns_registry (h : Neutral host route fun w : Worker B => J w.approvals) :
    KeepsTurns host schema route (fun w : Worker B => J w.approvals) fun _ _ => True := by
  have htake : ∀ id message,
      Preserves (Holds fun w : Worker B => J w.approvals) (takePending id message) := by
    intro id message
    apply Preserves.bind (keeps_alone (Preserves.update fun _ hw => hw))
    intro kind
    cases kind with
    | some kind => exact Preserves.pure _
    | none => exact Preserves.fail _
  have hindifferent : Indifferent host schema route fun w : Worker B => J w.approvals :=
    indifferent_registry h
  have hprompts := hindifferent.keepsPrompts
  have hanswers := hindifferent.keepsAnswers
  constructor
  · exact hprompts.observe
  · exact hprompts.plan
  · exact hprompts.dispatch
  · intro id message
    exact (Triple.of_preserves (htake id message)).weaken (fun _ hs => hs)
      (fun _ _ hs => ⟨hs, trivial⟩) fun _ _ hs => hs
  · exact hanswers.turnAccepted
  · exact hanswers.turnRejected
  · exact hanswers.planAccepted
  · exact hanswers.planRejected

theorem keepsRegistry_registry (h : Neutral host route fun w : Worker B => J w.approvals)
    (hJ : ∀ s op, J s → J (ApprovalOp.apply s op)) :
    KeepsRegistry host route fun w : Worker B => J w.approvals where
  apply w op hw := hJ w.approvals op hw
  popOutbound := by
    apply Interleaved.preserves_atomically h.foreign
    apply Preserves.update
    intro w hw
    have hpopped := hJ w.approvals (.popOutboundFor route) hw
    dsimp only
    split
    · exact hw
    · exact hpopped
  marked _ _ hw := hw

end Work

/-- Since the log was `base`, the close of the interaction was attempted, or another
thread took the interaction off the registry. -/
def Accounted (base : List Record) (id : InteractionId) (log : List Record) : Prop :=
  ∃ rest, log = base ++ rest ∧
    (Record.closing id ∈ rest ∨ ∃ ids, Record.lost ids ∈ rest ∧ id ∈ ids)

theorem Accounted.append {base log : List Record} {id : InteractionId} (h : Accounted base id log)
    (more : List Record) : Accounted base id (log ++ more) := by
  obtain ⟨rest, rfl, hentry⟩ := h
  refine ⟨rest ++ more, List.append_assoc _ _ _, ?_⟩
  rcases hentry with hclosing | ⟨ids, hlost, hid⟩
  · exact .inl (List.mem_append_left _ hclosing)
  · exact .inr ⟨ids, List.mem_append_left _ hlost, hid⟩

/-- An entry that was just made. -/
theorem accounted_last {base log : List Record} (hbase : base <+: log) {id : InteractionId}
    {entry : Record} (h : entry = .closing id ∨ ∃ ids, entry = .lost ids ∧ id ∈ ids) :
    Accounted base id (log ++ [entry]) := by
  obtain ⟨rest, rfl⟩ := hbase
  refine ⟨rest ++ [entry], List.append_assoc _ _ _, ?_⟩
  rcases h with rfl | ⟨ids, rfl, hid⟩
  · exact .inl (by simp)
  · exact .inr ⟨ids, by simp, hid⟩

namespace Worker

variable {B : Type} (host : ProviderHost B) (own : ApprovalRoute)

theorem foreign_log (step : Foreign B) (w : Worker B) :
    ∃ more, (w.foreign host own step).log = w.log ++ more := by
  cases step with
  | accept command =>
    show ∃ more, (w.accept command).log = w.log ++ more
    unfold Worker.accept
    split
    · exact ⟨_, rfl⟩
    · exact ⟨[], (List.append_nil _).symm⟩
  | claimLocal response => exact ⟨[], (List.append_nil _).symm⟩
  | mapping op => exact ⟨[], (List.append_nil _).symm⟩
  | approval op =>
    show ∃ more, (w.approval own op).log = w.log ++ more
    unfold Worker.approval
    split
    · exact ⟨_, rfl⟩
    · exact ⟨[], (List.append_nil _).symm⟩
  | host f => exact ⟨[], (List.append_nil _).symm⟩

/-- Between the end of the loop and the section that closes everything: whatever
was pending still is, or another thread has taken it. -/
structure Departing (before w : Worker B) : Prop where
  indexed : ApprovalRuntimeState.Indexed w.approvals
  grows : before.log <+: w.log
  pending : ∀ id : InteractionId, before.approvals.pending[id]?.isSome →
    w.approvals.pending[id]?.isSome ∨ Accounted before.log id w.log

/-- After that section: nothing of the route is left, and what was pending is in the
list of closes to come or accounted for. -/
structure Closing (before : Worker B) (rest : List ClosedApproval) (w : Worker B) : Prop where
  cleared : ApprovalRuntimeState.Cleared own w.approvals
  grows : before.log <+: w.log
  pending : ∀ id : InteractionId, before.approvals.pending[id]?.isSome →
    id ∈ rest.map ClosedApproval.interactionId ∨ Accounted before.log id w.log

variable {own} {before w : Worker B}

theorem Departing.foreign (h : Departing before w) (step : Foreign B) :
    Departing before (w.foreign host own step) := by
  have hkept : ∀ w' : Worker B, w'.approvals = w.approvals → (∃ more, w'.log = w.log ++ more) →
      Departing before w' := by
    rintro w' happrovals ⟨more, hmore⟩
    constructor
    · rw [happrovals]
      exact h.indexed
    · rw [hmore]
      exact h.grows.trans (List.prefix_append _ _)
    · intro id hid
      rw [happrovals, hmore]
      exact (h.pending id hid).imp_right fun haccounted => haccounted.append more
  have hlog := foreign_log host own step w
  cases step with
  | accept command =>
    apply hkept _ _ hlog
    show (w.accept command).approvals = _
    unfold Worker.accept
    split <;> rfl
  | claimLocal response => exact hkept _ rfl hlog
  | mapping op => exact hkept _ rfl hlog
  | host f => exact hkept _ rfl hlog
  | approval op =>
    show Departing before (w.approval own op)
    unfold Worker.approval
    split
    · constructor
      · exact ApprovalOp.apply_indexed h.indexed op
      · exact h.grows.trans (List.prefix_append _ _)
      · intro id hid
        rcases h.pending id hid with hpending | haccounted
        · cases hafter : (op.apply w.approvals).pending[id]?.isSome with
          | true => exact .inl hafter
          | false =>
            have hremoved := mem_removedBetween.mpr ⟨hpending, hafter⟩
            exact .inr (accounted_last h.grows (.inr ⟨_, rfl, hremoved⟩))
        · exact .inr (haccounted.append _)
    · exact h

theorem Closing.foreign {rest : List ClosedApproval} (h : Closing own before rest w)
    (step : Foreign B) : Closing own before rest (w.foreign host own step) := by
  have hneutral : Neutral host own fun w : Worker B =>
      ApprovalRuntimeState.Cleared own w.approvals :=
    Work.neutral_registry fun s op hop hs => hs.otherThan hop
  obtain ⟨more, hmore⟩ := foreign_log host own step w
  constructor
  · exact hneutral.foreign step w h.cleared
  · rw [hmore]
    exact h.grows.trans (List.prefix_append _ _)
  · intro id hid
    rw [hmore]
    exact (h.pending id hid).imp_right fun haccounted => haccounted.append more

end Worker

namespace Work

variable {B : Type} (host : ProviderHost B) (schema : ProtocolSchema) (own : ApprovalRoute)
  (before : Worker B)

/-- The prologue and the loop, up to the way out. -/
def untilExit (fuel : Nat) (rounds : List Round) : Work B WorkerExit := do
  editControls host own ControlRuntimeState.clearAllInflight
  alone (Program.modify fun w => { w with pending := ∅ })
  workerLoop host schema own fuel rounds

theorem runWorker_eq (fuel : Nat) (rounds : List Round) :
    runWorker host schema own fuel rounds =
      untilExit host schema own fuel rounds >>= fun exit =>
        leave host own exit >>= fun _ => pure exit := by
  unfold runWorker untilExit
  rw [Program.bind_assoc]
  congr 1

theorem keeps_closing (rest : List ClosedApproval) {α : Type} (x : Mapping B α) :
    Preserves (Holds (Worker.Closing own before rest)) (onMapping host own x) := by
  apply Interleaved.preserves_atomically fun step w hw => Worker.Closing.foreign host hw step
  exact ⟨fun w hw => ⟨hw.cleared, hw.grows, hw.pending⟩⟩

theorem triple_publishAllClosed (closed : List ClosedApproval) :
    Triple (Holds (Worker.Closing own before closed)) (publishAllClosed host own closed)
      (fun _ => Holds (Worker.Closing own before [])) fun _ => Holds fun _ => False := by
  apply Triple.forEach (I := fun rest => Holds (Worker.Closing own before rest))
  intro entry rest
  -- The attempt is in the log before the publication can fail.
  have hnote : Triple (Holds (Worker.Closing own before (entry :: rest)))
      (note (.closing entry.interactionId)) (fun _ => Holds (Worker.Closing own before rest))
      fun (_ : Halt) => Holds (Worker.Closing own before rest) := by
    apply Interleaved.triple_locally
    apply Triple.modify
    intro w hw
    constructor
    · exact hw.cleared
    · exact hw.grows.trans (List.prefix_append _ _)
    · intro id hid
      rcases hw.pending id hid with hmem | haccounted
      · rcases List.mem_cons.mp hmem with rfl | hmem
        · exact .inr (accounted_last hw.grows (.inl rfl))
        · exact .inl hmem
      · exact .inr (haccounted.append _)
  have hpublish : Triple (Holds (Worker.Closing own before (entry :: rest)))
      (publishClosed host own entry .providerCancelled)
      (fun _ => Holds (Worker.Closing own before rest))
      fun _ => Holds (Worker.Closing own before rest) :=
    Triple.bind hnote fun _ => Triple.of_preserves (keeps_closing host own before rest _)
  apply Triple.bind (Q := fun _ => Holds (Worker.Closing own before rest))
  · exact hpublish.attempt (fun _ _ hs => hs) fun _ _ hs => hs
  · exact fun _ => Triple.pure fun s hs => hs

theorem triple_closeAllApprovals :
    Triple (Holds (Worker.Departing before)) (closeAllApprovals host own)
      (fun _ => Holds (Worker.Closing own before [])) fun _ => Holds fun _ => False := by
  have hclose : Triple (Worker.Departing before)
      (part Worker.approvals (fun w approvals => { w with approvals := approvals })
        fun approvals => (.ok approvals.closeAll.1, approvals.closeAll.2))
      (fun closed => Worker.Closing own before closed) fun (_ : Halt) _ => False := by
    constructor
    · intro w closed w' hw hrun
      obtain ⟨hclosed, rfl⟩ := Prod.mk.inj hrun
      cases hclosed
      constructor
      · exact ApprovalRuntimeState.cleared_closeAll own hw.indexed
      · exact hw.grows
      · intro id hid
        rcases hw.pending id hid with hpending | haccounted
        · left
          apply ApprovalRuntimeState.mem_closed.mpr
          obtain ⟨p, hp⟩ := Option.isSome_iff_exists.mp hpending
          simp [ApprovalRuntimeState.holds, hp]
        · exact .inr haccounted
    · intro w halt w' hw hrun
      cases hrun
  apply Triple.bind
    (Interleaved.triple_atomically (fun step w hw => Worker.Departing.foreign host hw step) hclose)
  exact fun closed => triple_publishAllClosed host own before closed

/-- The ways out after which nothing of the route may be left: every one but that of
a failed flush of the control commands, and that one if nothing was pending. -/
def WorkerExit.clean (own : ApprovalRoute) (approvals : ApprovalRuntimeState) : WorkerExit → Prop
  | .controlsFailed _ => ∀ (id : InteractionId) (p : PendingApproval),
      approvals.pending[id]? = some p → p.route ≠ own
  | _ => True

theorem closeAllApprovals_run {s : Interleaved (Worker B) (Foreign B)}
    (hs : ApprovalRuntimeState.Indexed s.state.approvals) :
    ∃ t, closeAllApprovals host own s = (.ok (), t) ∧ Worker.Closing own s.state [] t.state := by
  have hdeparting : Holds (Worker.Departing s.state) s := by
    constructor
    · exact hs
    · exact List.prefix_refl _
    · exact fun id hid => .inl hid
  rcases hrun : closeAllApprovals host own s with ⟨result, t⟩
  cases result with
  | ok _ => exact ⟨t, rfl, (triple_closeAllApprovals host own s.state).returns _ _ _ hdeparting hrun⟩
  | error halt =>
    exact absurd ((triple_closeAllApprovals host own s.state).fails _ _ _ hdeparting hrun) not_false

theorem leave_closing {exit : WorkerExit} {s : Interleaved (Worker B) (Foreign B)}
    (hs : ApprovalRuntimeState.Indexed s.state.approvals)
    (hexit : ∀ error, exit ≠ .controlsFailed error) :
    Worker.Closing own s.state [] (leave host own exit s).2.state := by
  obtain ⟨t, hrun, ht⟩ := closeAllApprovals_run host own hs
  have hboth : Worker.Closing own s.state []
      ((closeAllApprovals host own >>= fun _ => disconnectAll host own) s).2.state := by
    rw [Program.bind_of_ok hrun]
    exact (keeps_closing host own s.state [] _).holds t ht
  cases exit with
  | stopped =>
    show Worker.Closing own s.state [] (closeAllApprovals host own s).2.state
    rw [hrun]
    exact ht
  | approvalsFailed error => exact hboth
  | readFailed error => exact hboth
  | controlsFailed error => exact absurd rfl (hexit error)

/-- Every announcement is attempted, whatever the others do. -/
theorem disconnectAll_ok (s : Interleaved (Worker B) (Foreign B)) :
    (disconnectAll host own s).1 = .ok () := by
  have hmapping : Triple (fun _ => True) (Mapping.disconnectAll host) (fun _ _ => True)
      fun _ _ => False := by
    apply Triple.bind (Q := fun _ _ => True) (Triple.reads fun _ _ => trivial)
    intro threadIds
    apply Triple.forEach (I := fun _ _ => True)
    intro threadId rest
    have hannounce : Triple (fun _ => True) (Mapping.announceConnection host .disconnected threadId)
        (fun _ _ => True) fun _ _ => True := ⟨fun _ _ _ _ _ => trivial, fun _ _ _ _ _ => trivial⟩
    apply Triple.bind (Q := fun _ _ => True)
    · exact hannounce.attempt (fun _ _ hs => hs) fun _ _ hs => hs
    · exact fun _ => Triple.pure fun _ _ => trivial
  generalize hmoved : Interleaved.advance (Worker.foreign host own) s = moved
  have hrun : (disconnectAll host own s).1 =
      ((Mapping.disconnectAll host moved.state.mapping).1.mapError Halt.source) := by
    rw [← hmoved]
    rfl
  rw [hrun]
  rcases hresult : Mapping.disconnectAll host moved.state.mapping with ⟨result, t⟩
  cases result with
  | ok _ => rfl
  | error error => exact absurd (hmapping.fails _ _ _ trivial hresult) not_false

theorem leave_ok (exit : WorkerExit) {s : Interleaved (Worker B) (Foreign B)}
    (hs : ApprovalRuntimeState.Indexed s.state.approvals) : (leave host own exit s).1 = .ok () := by
  obtain ⟨t, hrun, -⟩ := closeAllApprovals_run host own hs
  have hboth : ((closeAllApprovals host own >>= fun _ => disconnectAll host own) s).1 = .ok () := by
    rw [Program.bind_of_ok hrun]
    exact disconnectAll_ok host own t
  cases exit with
  | stopped =>
    show (closeAllApprovals host own s).1 = _
    rw [hrun]
  | approvalsFailed error => exact hboth
  | readFailed error => exact hboth
  | controlsFailed error => exact disconnectAll_ok host own s

/-- Every section of the worker keeps the index consistent. -/
theorem untilExit_indexed (fuel : Nat) (rounds : List Round)
    {s : Interleaved (Worker B) (Foreign B)}
    (hs : ApprovalRuntimeState.Indexed s.state.approvals) :
    ApprovalRuntimeState.Indexed (untilExit host schema own fuel rounds s).2.state.approvals := by
  have hneutral : Neutral host own fun w : Worker B =>
      ApprovalRuntimeState.Indexed w.approvals :=
    neutral_registry fun s op _ hs => ApprovalOp.apply_indexed hs op
  have hturns : KeepsTurns host schema own
      (fun w : Worker B => ApprovalRuntimeState.Indexed w.approvals) fun _ _ => True :=
    keepsTurns_registry hneutral
  have hregistry := keepsRegistry_registry hneutral fun s op hs => ApprovalOp.apply_indexed hs op
  have hrun : Preserves (Holds fun w : Worker B => ApprovalRuntimeState.Indexed w.approvals)
      (untilExit host schema own fuel rounds) := by
    apply Preserves.bind
    · apply Interleaved.preserves_atomically hneutral.foreign
      exact Preserves.modify fun _ hw => hw
    intro _
    apply Preserves.bind
    · apply keeps_alone
      exact Preserves.modify fun _ hw => hw
    intro _
    exact keeps_workerLoop hneutral hregistry hturns fuel rounds
  exact hrun.holds s hs

/-- After a clean way out nothing of the route is pending. -/
theorem leave_cleared {exit : WorkerExit} {s : Interleaved (Worker B) (Foreign B)}
    (hs : ApprovalRuntimeState.Indexed s.state.approvals)
    (hclean : exit.clean own s.state.approvals) :
    ApprovalRuntimeState.Cleared own (leave host own exit s).2.state.approvals := by
  cases exit with
  | stopped => exact (leave_closing host own hs (by simp)).cleared
  | approvalsFailed error => exact (leave_closing host own hs (by simp)).cleared
  | readFailed error => exact (leave_closing host own hs (by simp)).cleared
  | controlsFailed error =>
    have hneutral : Neutral host own fun w : Worker B =>
        ApprovalRuntimeState.Cleared own w.approvals :=
      neutral_registry fun s op hop hs => hs.otherThan hop
    have hkeep : Preserves (Holds fun w : Worker B => ApprovalRuntimeState.Cleared own w.approvals)
        (disconnectAll host own) :=
      Interleaved.preserves_atomically hneutral.foreign ⟨fun _ hw => hw⟩
    exact hkeep.holds s ⟨hs, hclean⟩

/-- What was pending for the route when the loop ended is accounted for. -/
theorem leave_accounted {exit : WorkerExit} {s : Interleaved (Worker B) (Foreign B)}
    (hs : ApprovalRuntimeState.Indexed s.state.approvals)
    (hclean : exit.clean own s.state.approvals) (id : InteractionId) (p : PendingApproval)
    (hp : s.state.approvals.pending[id]? = some p) (hroute : p.route = own) :
    Accounted s.state.log id (leave host own exit s).2.state.log := by
  have hclosing : ∀ hexit : ∀ error, exit ≠ .controlsFailed error,
      Accounted s.state.log id (leave host own exit s).2.state.log := by
    intro hexit
    rcases (leave_closing host own hs hexit).pending id (by rw [hp]; rfl) with hmem | haccounted
    · cases hmem
    · exact haccounted
  cases exit with
  | stopped => exact hclosing (by simp)
  | approvalsFailed error => exact hclosing (by simp)
  | readFailed error => exact hclosing (by simp)
  | controlsFailed error => exact absurd hroute (hclean id p hp)

/-- A registration for a cleared route finds no earlier request under its key. -/
theorem register_not_reused {s : ApprovalRuntimeState}
    (hs : ApprovalRuntimeState.Cleared own s) (requestId : RequestId) (method : String)
    (prepared : PreparedApproval) :
    (s.register own requestId method prepared).1 ≠
      protocolError "Codex reused a pending server request ID" := by
  have hkey : s.byRequest.contains (⟨own, requestId⟩ : RequestKey) = false := by
    cases hfound : s.byRequest[(⟨own, requestId⟩ : RequestKey)]? with
    | none => rw [← ExtTreeMap.isSome_getElem?_eq_contains, hfound]; rfl
    | some id => exact absurd rfl (hs.byRequest _ id hfound)
  unfold ApprovalRuntimeState.register
  split
  · show (protocolError _ : Sourced Unit) ≠ _
    decide
  · split
    · next hcontains =>
      rw [hkey] at hcontains
      cases hcontains
    · split
      · show (protocolError _ : Sourced Unit) ≠ _
        decide
      · exact nofun

/-- Whatever the worker did before, and whatever the other threads do: unless the
flush of the control commands failed while an interaction of the observer was
pending, no such interaction is left when the worker returns, each one has been
closed or was taken by another thread, and the next worker can register any request. -/
theorem runWorker_leaves_nothing (w : Worker B)
    (hreached : ApprovalRuntimeState.Reached w.approvals) (schedule : List (List (Foreign B)))
    (fuel : Nat) (rounds : List Round) (exit : WorkerExit)
    (s : Interleaved (Worker B) (Foreign B))
    (hloop : untilExit host schema .observer fuel rounds ⟨w, schedule⟩ = (.ok exit, s))
    (hclean : exit.clean .observer s.state.approvals) :
    (runWorker host schema .observer fuel rounds ⟨w, schedule⟩).1 = .ok exit ∧
    (∀ (id : InteractionId) (p : PendingApproval), (runWorker host schema .observer fuel rounds
      ⟨w, schedule⟩).2.state.approvals.pending[id]? = some p → p.route ≠ .observer) ∧
    (∀ (key : RequestKey) (id : InteractionId), (runWorker host schema .observer fuel rounds
      ⟨w, schedule⟩).2.state.approvals.byRequest[key]? = some id → key.route ≠ .observer) ∧
    (∀ (id : InteractionId) (p : PendingApproval), s.state.approvals.pending[id]? = some p →
      p.route = .observer →
      Accounted s.state.log id
        (runWorker host schema .observer fuel rounds ⟨w, schedule⟩).2.state.log) ∧
    ∀ (steps : List (Foreign B)) (requestId : RequestId) (method : String)
      (prepared : PreparedApproval),
      ((steps.foldl (fun w step => w.foreign host .observer step)
        (runWorker host schema .observer fuel rounds
          ⟨w, schedule⟩).2.state).approvals.register .observer requestId method prepared).1 ≠
        protocolError "Codex reused a pending server request ID" := by
  have hindexed : ApprovalRuntimeState.Indexed s.state.approvals := by
    have hrun := untilExit_indexed host schema .observer fuel rounds (s := ⟨w, schedule⟩)
      (hreached.sound .observer).indexed
    rw [hloop] at hrun
    exact hrun
  have hrun : runWorker host schema .observer fuel rounds ⟨w, schedule⟩ =
      (.ok exit, (leave host .observer exit s).2) := by
    rw [runWorker_eq, Program.bind_of_ok hloop]
    apply Program.bind_of_ok
    exact Prod.ext (leave_ok host .observer exit hindexed) rfl
  have hcleared := leave_cleared host .observer hindexed hclean
  rw [hrun]
  refine ⟨rfl, hcleared.pending, hcleared.byRequest, ?_, ?_⟩
  · exact leave_accounted host .observer hindexed hclean
  · intro steps requestId method prepared
    apply register_not_reused
    have hneutral : Neutral host .observer fun w : Worker B =>
        ApprovalRuntimeState.Cleared .observer w.approvals :=
      neutral_registry fun s op hop hs => hs.otherThan hop
    generalize (leave host .observer exit s).2.state = final at hcleared ⊢
    induction steps generalizing final with
    | nil => exact hcleared
    | cons step rest ih => exact ih _ (hneutral.foreign step final hcleared)

end Work

namespace Sample

def question : Value :=
  .object [("id", .string "question"), ("header", .string "Header"),
    ("question", .string "Question?"), ("isOther", .bool true)]

/-- A question of the server in the running turn. -/
def inputRequest : Value :=
  .object [("id", .int 1), ("method", .string "item/tool/requestUserInput"),
    ("params", .object [("threadId", .string thread), ("turnId", .string "t1"),
      ("itemId", .string "i1"), ("isBlocking", .bool true), ("questions", .array [question])])]

def listModels : AgentCommand :=
  ⟨Ident.numbered .command 0, session, Ident.numbered .channel 0, AgentPulse.Sample.instant,
    .listModels⟩

/-- The observer has subscribed to the running thread; the outcomes of its writes are given. -/
def observing (writes : List (Except String Unit)) : Worker Nat :=
  { worker .new with
    mapping := ((worker .new).mapping.step host .takeObserverResumes).1
    writes := writes }

/-- A question, a quiet round and a stop; the phone asks for the models after the question. -/
def rounds : List Work.Round :=
  [⟨false, .text (.ok inputRequest), false⟩, ⟨false, .timeout, false⟩, ⟨true, .timeout, false⟩]

def askModels : List (List (Foreign Nat)) := List.replicate 12 [] ++ [[.accept listModels]]

/-- The question that `inputRequest` asks, as it is shown again. -/
def asked : InteractionId := Ident.numbered .interaction 3

end Sample

namespace Work

/-- The loop of the sample run, with the outcomes of the writes. -/
def sampleLoop (writes : List (Except String Unit)) :
    Except Halt WorkerExit × Interleaved (Worker Nat) (Foreign Nat) :=
  untilExit Sample.host Sample.schema .observer 3 Sample.rounds
    ⟨Sample.observing writes, Sample.askModels⟩

def sampleRun (writes : List (Except String Unit)) :
    Except Halt WorkerExit × Interleaved (Worker Nat) (Foreign Nat) :=
  runWorker Sample.host Sample.schema .observer 3 Sample.rounds
    ⟨Sample.observing writes, Sample.askModels⟩

theorem sample_reached (writes : List (Except String Unit)) :
    ApprovalRuntimeState.Reached (Sample.observing writes).approvals := .new

theorem clean_stopped (own : ApprovalRoute) (approvals : ApprovalRuntimeState) :
    WorkerExit.stopped.clean own approvals := trivial

/-- A stopped worker has closed the question. -/
theorem runWorker_stopped_closes :
    (sampleLoop []).1 = .ok .stopped ∧
    ((sampleLoop []).2.state.approvals.pending[Sample.asked]?.map PendingApproval.route) =
      some .observer ∧
    ∀ (id : InteractionId) (p : PendingApproval),
      (sampleRun []).2.state.approvals.pending[id]? = some p → p.route ≠ .observer := by
  have hstopped : (sampleLoop []).1 = .ok .stopped := by decide +kernel
  have hpair : ∀ x : Except Halt WorkerExit × Interleaved (Worker Nat) (Foreign Nat),
      x.1 = .ok .stopped → x = (.ok .stopped, x.2) := fun x hx => Prod.ext hx rfl
  have hloop := hpair _ hstopped
  refine ⟨hstopped, by decide +kernel, ?_⟩
  have hrun := runWorker_leaves_nothing Sample.host Sample.schema (Sample.observing [])
    (sample_reached []) Sample.askModels 3 Sample.rounds .stopped (sampleLoop []).2 hloop
    (clean_stopped _ _)
  unfold sampleRun
  exact hrun.2.1

/-- The write of the phone's request fails: the worker returns, the question stays
in the registry without an attempt to close it, and the next worker cannot register
a request of the same identifier. -/
theorem runWorker_keeps_question :
    ApprovalRuntimeState.Reached (Sample.observing [.error "broken pipe"]).approvals ∧
    (sampleRun [.error "broken pipe"]).1 =
      .ok (.controlsFailed (.transport "broken pipe")) ∧
    ((sampleRun [.error "broken pipe"]).2.state.approvals.pending[Sample.asked]?.map
      PendingApproval.route) = some .observer ∧
    Record.closing Sample.asked ∉ (sampleRun [.error "broken pipe"]).2.state.log ∧
    ((sampleRun [.error "broken pipe"]).2.state.approvals.register .observer (.number 1)
      "item/tool/requestUserInput" Sample.prepared).1 =
      protocolError "Codex reused a pending server request ID" := by
  refine ⟨sample_reached _, ?_, ?_, ?_, ?_⟩
  · decide +kernel
  · decide +kernel
  · decide +kernel
  · decide +kernel

end Work

end Codex

end AgentPulse
