import AgentPulse.CodexOutbound
import AgentPulse.CodexTurn

/-!
# Turns over a run of the worker

Every section of the worker keeps the turns of all sessions, under every schedule
of the other threads, as long as the log shows no mark that was dropped, and no plan
that was implemented, before the turn/start of its session was answered.
-/
namespace AgentPulse

namespace Codex

open Std (ExtTreeMap)
open Program (Preserves Triple)
open Interleaved (Holds)
open History (Throughout throughout_snoc)
open Worker (Drift Still Turns Ready AllAnswered)

namespace Work

variable {B α : Type}

/-- What holds as long as no mark was dropped too early. -/
def Calmly (P : Worker B → Prop) (w : Worker B) : Prop := Timely w.log → P w

/-- What sections that are no part of a turn do not touch. -/
def Stable (P : Worker B → Prop) : Prop := ∀ w w' : Worker B, Drift w w' → P w → P w'

theorem stable_calmly {P : Worker B → Prop} (h : Stable P) : Stable (Calmly P) :=
  fun w w' hdrift hw htimely => h w w' hdrift (hw (hdrift.timely.mp htimely))

theorem stable_turns (opening : Option SessionId) : Stable (Turns opening : Worker B → Prop) :=
  fun _ _ hdrift hw => hdrift.turns hw

/-- The turns, and no unanswered request of the given sessions. -/
def Dispatching (sessions : List SessionId) (w : Worker B) : Prop :=
  Turns none w ∧ AllAnswered sessions w

theorem stable_dispatching (sessions : List SessionId) :
    Stable (Dispatching sessions : Worker B → Prop) :=
  fun _ _ hdrift hw => ⟨hdrift.turns hw.1, hdrift.answered hw.2⟩

section Neutral

variable {host : ProviderHost B} {schema : ProtocolSchema} {route : ApprovalRoute}

/-- A request that starts no turn. -/
theorem turns_asked {w : Worker B} (hw : Turns none w) (id : RequestId) {kind : PendingControl}
    (hkind : kind.startsTurn = none) :
    Turns none { w with pending := w.pending.insert id kind } := by
  refine ⟨hw.inOrder, hw.numbered, ?_, hw.kept⟩
  intro session
  have hstill : Still session w { w with pending := w.pending.insert id kind } := by
    constructor
    · exact SameLedger.refl _ _
    · exact fun hunedited => hunedited
    · rfl
    · exact Worker.pending_insert_other (by simp [hkind])
    · exact Nat.le_refl _
    · exact fun _ _ _ hbound => hbound
    · exact fun _ _ _ hhead => hhead
  exact hstill.turn (hw.turn session)

theorem neutral_turns : Neutral host route (Calmly (Turns none) : Worker B → Prop) := by
  have hstable : Stable (Calmly (Turns none) : Worker B → Prop) := stable_calmly (stable_turns none)
  constructor
  · exact fun w mapping hw => hstable w _ (.of_same rfl rfl ⟨rfl, rfl, rfl⟩) hw
  · exact fun w protocol hw => hstable w _ (.of_same rfl rfl ⟨rfl, rfl, rfl⟩) hw
  · exact fun w writes hw => hstable w _ (.of_same rfl rfl ⟨rfl, rfl, rfl⟩) hw
  · exact fun w controls hsame hw => hstable w _ (.of_same rfl rfl hsame) hw
  · exact fun w id kind hkind hw htimely => turns_asked (hw htimely) id hkind
  · intro w entry hentry hw
    apply hstable w _ (Drift.of_record w _ _) hw
    · cases entry <;> first | rfl | cases hentry
    · cases entry <;> trivial
  · exact fun step w hw => hstable w _ (Worker.drift_foreign host route step w) hw

theorem quiet_turns : Quiet host schema route (Calmly (Turns none) : Worker B → Prop) :=
  quiet_of_neutral neutral_turns

/-- What a section that takes a lock keeps of the turns. -/
theorem keeps_section {x : Program (Worker B) Halt α} (hx : Preserves (Calmly (Turns none)) x) :
    Preserves (Holds (Calmly (Turns none))) (locked host route x) :=
  Interleaved.preserves_atomically neutral_turns.foreign hx

theorem keeps_mapping (x : Mapping B α) :
    Preserves (Holds (Calmly (Turns none))) (onMapping host route x) := by
  have hneutral : Neutral host route (Calmly (Turns none) : Worker B → Prop) := neutral_turns
  exact keeps_section ⟨fun w hw => hneutral.mapping w _ hw⟩

theorem registry_turns : KeepsRegistry host route (Calmly (Turns none) : Worker B → Prop) := by
  have hstable : Stable (Calmly (Turns none) : Worker B → Prop) := stable_calmly (stable_turns none)
  constructor
  · exact fun w op hw => hstable w _ (.of_same rfl rfl ⟨rfl, rfl, rfl⟩) hw
  · apply keeps_section
    apply Preserves.update
    intro w hw
    dsimp only
    split
    · exact hw
    · exact hstable w _ ⟨rfl, .inr ⟨.popped _, rfl, trivial, rfl⟩, none, .of_prompts rfl rfl rfl _,
        nofun⟩ hw
  · exact fun w id hw => hstable w _ (Drift.of_record w rfl trivial) hw

theorem triple_locked {P : Worker B → Prop} (hP : Stable P) {x : Program (Worker B) Halt α}
    {Q : α → Worker B → Prop} {E : Halt → Worker B → Prop} (hx : Triple P x Q E) :
    Triple (Holds P) (locked host route x) (fun a => Holds (Q a)) fun e => Holds (E e) :=
  Interleaved.triple_atomically
    (fun step w hw => hP _ _ (Worker.drift_foreign host route step w) hw) hx

theorem triple_onMapping {P E : Worker B → Prop} (hP : Stable P) (hE : ∀ w, P w → E w)
    (x : Mapping B α) :
    Triple (Holds P) (onMapping host route x) (fun _ => Holds P) fun _ => Holds E := by
  have hkeeps : Preserves P (part Worker.mapping (fun w mapping => { w with mapping := mapping }) x) :=
    ⟨fun w hw => hP w _ (.of_same rfl rfl ⟨rfl, rfl, rfl⟩) hw⟩
  exact (triple_locked hP (Triple.of_preserves hkeeps)).weaken (fun _ hs => hs) (fun _ _ hs => hs)
    fun _ _ hs => hE _ hs

theorem triple_readControls {P E : Worker B → Prop} (hP : Stable P) (f : ControlRuntimeState → α) :
    Triple (Holds P) (readControls host route f) (fun _ => Holds P) fun _ => Holds E :=
  triple_locked hP (Triple.reads fun _ hw => hw)

/-- A request that is written is pending; one that is not has no effect. -/
theorem triple_sendControlRequest {P E : Worker B → Prop} (hP : Stable P) (hE : ∀ w, P w → E w)
    (expected : ExpectedResponse) (params : Value) (kind : PendingControl) :
    Triple (Holds P) (sendControlRequest schema expected params kind : Work B Unit)
      (fun _ => Holds fun w => ∃ before id, P before ∧
        w = { before with pending := before.pending.insert id kind })
      fun _ => Holds E := by
  have hprotocol : ∀ {β : Type} (x : Program ProtocolEngine CodexProviderSourceError β),
      Triple (Holds P) (onProtocol x : Work B β) (fun _ => Holds P) fun _ => Holds E := by
    intro β x
    have hkeeps : Preserves (Holds P) (onProtocol x : Work B β) :=
      keeps_alone ⟨fun w hw => hP w _ (.of_same rfl rfl ⟨rfl, rfl, rfl⟩) hw⟩
    exact (Triple.of_preserves hkeeps).weaken (fun _ hs => hs) (fun _ _ hs => hs)
      fun _ _ hs => hE _ hs
  have hwrite : ∀ frame, Triple (Holds P) (writeText frame : Work B Unit) (fun _ => Holds P)
      fun _ => Holds P := by
    intro frame
    apply Triple.bind (Q := fun _ => Holds P)
    · apply Triple.of_preserves
      exact keeps_alone (Preserves.update fun w hw => hP w _ (.of_same rfl rfl ⟨rfl, rfl, rfl⟩) hw)
    · intro result
      cases result with
      | ok _ => exact Triple.pure fun _ hs => hs
      | error message => exact Triple.fail fun _ hs => hs
  apply Triple.bind (hprotocol _)
  intro request
  apply Triple.bind (Q := fun _ => Holds P)
    (Triple.attempt (hwrite request.2) (fun _ _ hs => hs) fun _ _ hs => hs)
  intro result
  cases result with
  | error error => exact Triple.bind (hprotocol _) fun _ => Triple.fail fun _ hs => hE _ hs
  | ok _ =>
    apply Interleaved.triple_locally
    exact Triple.modify fun w hw => ⟨w, request.1, hw, rfl⟩

end Neutral

section Turns

variable {host : ProviderHost B} {schema : ProtocolSchema} {route : ApprovalRoute}

/-- Sampling drops a mark only together with an entry that says so. -/
theorem keeps_observeTurn (session : SessionId) (active : Bool) :
    Preserves (Holds (Calmly (Turns none) : Worker B → Prop))
      (observeTurn host route session active) := by
  apply keeps_section
  apply Preserves.modify
  intro w hw
  dsimp only
  have hprompts : (w.controls.observeTurn session active).prompts = w.controls.prompts := by
    unfold ControlRuntimeState.observeTurn
    split
    · rfl
    · split
      · rfl
      · split <;> rfl
  have haccepted : (w.controls.observeTurn session active).accepted = w.controls.accepted := by
    unfold ControlRuntimeState.observeTurn
    split
    · rfl
    · split
      · rfl
      · split <;> rfl
  have hothers : ∀ other, session ≠ other →
      (w.controls.observeTurn session active).inflightTurns.contains other =
        w.controls.inflightTurns.contains other := by
    intro other hother
    unfold ControlRuntimeState.observeTurn
    split
    · rfl
    · split
      · show (w.controls.inflightTurns.insert session true).contains other = _
        rw [ExtTreeMap.contains_insert]
        simp [hother]
      · split
        · show (w.controls.inflightTurns.erase session).contains other = _
          rw [ExtTreeMap.contains_erase]
          simp [hother]
        · rfl
  have hkept : ∀ (turns : Turns none w), (outstanding session w.log ≠ 0 →
      w.controls.inflightTurns.contains session = true →
      (w.controls.observeTurn session active).inflightTurns.contains session = true) →
      Turns none { w with controls := w.controls.observeTurn session active } := by
    intro turns hsession
    apply Worker.turns_remarked _ turns hprompts haccepted
    intro other hopen hmarked
    by_cases hother : session = other
    · subst hother
      exact hsession hopen (hmarked nofun)
    · rw [hothers other hother]
      exact hmarked nofun
  split
  · next hreleased =>
    intro htimely
    have hzero : outstanding session w.log = 0 := htimely.last
    have hturns := hkept (hw htimely.snoc_left) fun hopen => absurd hzero hopen
    have hdrift : Drift { w with controls := w.controls.observeTurn session active }
        ({ w with controls := w.controls.observeTurn session active }.record (.released session)) :=
      Drift.of_record _ rfl hzero
    exact hdrift.turns hturns
  · next hkeeps =>
    intro htimely
    apply hkept (hw htimely)
    intro _ hmarked
    by_contra hdropped
    exact hkeeps ⟨hmarked, hdropped⟩

/-- The mark that follows a written request. -/
theorem triple_mark {sessions : List SessionId} {E : Worker B → Prop} (session : SessionId) :
    Triple (Holds (Calmly fun w : Worker B => Turns (some session) w ∧ AllAnswered sessions w))
      (editControls host route fun controls => controls.markTurnInflight session)
      (fun _ => Holds (Calmly (Dispatching sessions))) fun _ => Holds E := by
  apply triple_locked
  · apply stable_calmly
    exact fun _ _ hdrift hw => ⟨hdrift.turns hw.1, hdrift.answered hw.2⟩
  · apply Triple.modify
    intro w hw htimely
    obtain ⟨hturns, hanswered⟩ := hw htimely
    exact ⟨Worker.turns_marked hturns, hanswered⟩

theorem keeps_startPlan (session : SessionId) (thread : String) (params : Value) :
    Preserves (Holds (Calmly (Turns none) : Worker B → Prop))
      (startPlan host schema route session thread params) := by
  apply Triple.preserves
  apply Triple.bind
    (triple_sendControlRequest (stable_calmly (stable_turns none)) (fun _ hw => hw) _ _ _)
  intro _
  apply Triple.bind (Q := fun _ => Holds (Calmly fun w : Worker B =>
    Turns (some session) w ∧ AllAnswered [] w))
  · apply Interleaved.triple_locally
    apply Triple.modify
    rintro w ⟨before, id, hbefore, rfl⟩ htimely
    have hzero : outstanding session before.log = 0 := htimely.last
    exact ⟨Worker.turns_implementing (hbefore htimely.snoc_left) hzero id thread, nofun⟩
  · intro _
    exact (triple_mark session).weaken (fun _ hs => hs) (fun _ _ hs htimely => (hs htimely).1)
      fun _ _ hs => hs

theorem stable_ready (session : SessionId) (prompt : QueuedPrompt) (rest : List SessionId) :
    Stable (Ready session prompt rest : Worker B → Prop) :=
  fun _ _ hdrift hw => hdrift.ready hw

theorem triple_startPrompt {session : SessionId} {rest : List SessionId} (hrest : session ∉ rest)
    (thread : String) (prompt : QueuedPrompt) (params : Value) :
    Triple (Holds (Calmly (Ready session prompt rest) : Worker B → Prop))
      (startPrompt host schema route session thread prompt params)
      (fun _ => Holds (Calmly (Dispatching rest))) fun _ => Holds (Calmly (Turns none)) := by
  apply Triple.bind (triple_sendControlRequest (stable_calmly (stable_ready session prompt rest))
    (fun _ hw htimely => (hw htimely).turns) _ _ _)
  intro _
  apply Triple.bind (Q := fun _ => Holds (Calmly fun w : Worker B =>
    Turns (some session) w ∧ AllAnswered rest w))
  · apply Interleaved.triple_locally
    apply Triple.modify
    rintro w ⟨before, id, hbefore, rfl⟩ htimely
    have hready := hbefore htimely.snoc_left
    refine ⟨Worker.turns_started hready id thread, ?_⟩
    intro other hother
    have hne : session ≠ other := by
      rintro rfl
      exact hrest hother
    have habout : (Record.started session prompt).about ≠ some other := by
      simpa [Record.about] using hne
    exact (sameLedger_snoc _ habout).outstanding.trans (hready.answered other (by simp [hother]))
  · exact fun _ => triple_mark session

theorem triple_pickPrompt (session : SessionId) (rest : List SessionId) :
    Triple (Holds (Calmly (Dispatching (session :: rest)) : Worker B → Prop))
      (pickPrompt host route session)
      (fun picked => Holds (Calmly fun w => match picked with
        | none => Dispatching rest w
        | some prompt => Ready session prompt rest w))
      fun _ => Holds (Calmly (Turns none)) := by
  apply triple_locked (stable_calmly (stable_dispatching _))
  apply Triple.update
  intro w hw
  cases hfront : w.controls.frontPrompt session with
  | none =>
    intro htimely
    obtain ⟨hturns, hanswered⟩ := hw htimely
    exact ⟨hturns, fun other hother => hanswered other (by simp [hother])⟩
  | some prompt =>
    intro htimely
    obtain ⟨hturns, hanswered⟩ := hw htimely.snoc_left
    exact Worker.ready_picked hturns hanswered hfront

theorem triple_dispatchPrompt {session : SessionId} {rest : List SessionId}
    (hrest : session ∉ rest) :
    Triple (Holds (Calmly (Dispatching (session :: rest)) : Worker B → Prop))
      (dispatchPrompt host schema route session)
      (fun _ => Holds (Calmly (Dispatching rest))) fun _ => Holds (Calmly (Turns none)) := by
  have hless : ∀ w : Worker B, Calmly (Dispatching (session :: rest)) w →
      Calmly (Dispatching rest) w :=
    fun w hw htimely => ⟨(hw htimely).1, fun other hother => (hw htimely).2 other (by simp [hother])⟩
  have hturns : ∀ w : Worker B, Calmly (Dispatching (session :: rest)) w → Calmly (Turns none) w :=
    fun w hw htimely => (hw htimely).1
  apply Triple.bind (triple_onMapping (stable_calmly (stable_dispatching _)) hturns _)
  intro context
  split
  · next thread _ =>
    apply Triple.bind (triple_onMapping (stable_calmly (stable_dispatching _)) hturns _)
    intro waiting
    apply Triple.ite
    · exact fun _ => Triple.pure fun s hs => hless s.state hs
    intro _
    apply Triple.bind (triple_pickPrompt session rest)
    intro picked
    cases picked with
    | none => exact Triple.pure fun _ hs => hs
    | some prompt =>
      have hready : Stable (Calmly (Ready session prompt rest) : Worker B → Prop) :=
        stable_calmly (stable_ready session prompt rest)
      have hreadyTurns : ∀ w : Worker B, Calmly (Ready session prompt rest) w →
          Calmly (Turns none) w := fun w hw htimely => (hw htimely).turns
      apply Triple.bind (triple_readControls hready _)
      intro defaults
      apply Triple.bind (triple_onMapping hready hreadyTurns _)
      intro settings
      apply Triple.bind (Q := fun _ => Holds (Calmly (Ready session prompt rest) : Worker B → Prop))
      · apply Interleaved.triple_locally
        exact Triple.modify fun w hw => hready w _ (Drift.of_record w rfl trivial) hw
      intro _
      apply Triple.bind (Q := fun _ => Holds (Calmly (Ready session prompt rest) : Worker B → Prop))
      · exact Triple.ofExcept (fun _ _ _ hs => hs) fun _ s _ hs => hreadyTurns s.state hs
      · intro params
        exact triple_startPrompt hrest thread prompt params
  · exact Triple.pure fun s hs => hless s.state hs

/-- A queued session has no mark, so no unanswered request. -/
theorem dispatching_queued {w : Worker B} (hw : Turns none w) :
    Dispatching w.controls.queuedSessions w := by
  refine ⟨hw, ?_⟩
  intro session hsession
  unfold ControlRuntimeState.queuedSessions at hsession
  obtain ⟨⟨found, queue⟩, hentry, rfl⟩ := List.mem_map.mp hsession
  have hunmarked : (!queue.paused && !queue.prompts.isEmpty &&
      !w.controls.inflightTurns.contains found) = true := (List.mem_filter.mp hentry).2
  by_contra hopen
  rw [(hw.turn found).marked hopen nofun] at hunmarked
  simp at hunmarked

theorem nodup_queuedSessions (controls : ControlRuntimeState) : controls.queuedSessions.Nodup := by
  unfold ControlRuntimeState.queuedSessions
  have hdistinct := controls.prompts.distinct_keys_toList
  apply List.Pairwise.map _ _ (hdistinct.filter _)
  intro a b hne hsame
  exact hne (by rw [hsame]; exact Std.ReflCmp.compare_self)

theorem keeps_dispatch :
    Preserves (Holds (Calmly (Turns none) : Worker B → Prop))
      (readControls host route ControlRuntimeState.queuedSessions >>=
        Program.forEach (dispatchPrompt host schema route)) := by
  apply Triple.preserves
  apply Triple.bind (Q := fun sessions => Holds fun w : Worker B =>
    Calmly (Dispatching sessions) w ∧ sessions.Nodup)
  · apply triple_locked (stable_calmly (stable_turns none))
    apply Triple.reads
    exact fun w hw => ⟨fun htimely => dispatching_queued (hw htimely), nodup_queuedSessions _⟩
  · intro sessions
    have hbody : ∀ session rest,
        Triple (Holds fun w : Worker B => Calmly (Dispatching (session :: rest)) w ∧
          (session :: rest).Nodup) (dispatchPrompt host schema route session)
          (fun _ => Holds fun w : Worker B => Calmly (Dispatching rest) w ∧ rest.Nodup)
          fun _ => Holds (Calmly (Turns none)) := by
      intro session rest
      apply Triple.of_fact (fun _ hs => hs.2)
      intro hnodup
      obtain ⟨hrest, hnodup'⟩ := List.nodup_cons.mp hnodup
      exact (triple_dispatchPrompt hrest).weaken (fun _ hs => hs.1) (fun _ _ hs => ⟨hs, hnodup'⟩)
        fun _ _ hs => hs
    exact (Triple.forEach (I := fun rest => Holds fun w : Worker B =>
      Calmly (Dispatching rest) w ∧ rest.Nodup) hbody sessions).weaken (fun _ hs => hs)
        (fun _ _ hs htimely => (hs.1 htimely).1) fun _ _ hs => hs

theorem stable_claimed (kind : PendingControl) :
    Stable (fun w : Worker B => Calmly (Turns none) w ∧ Calmly (Worker.Claimed kind) w) := by
  rintro w w' hdrift ⟨hturns, hclaimed⟩
  refine ⟨stable_calmly (stable_turns none) w w' hdrift hturns, ?_⟩
  intro htimely
  have hbefore := hdrift.timely.mp htimely
  exact hdrift.claimed (hturns hbefore) (hclaimed hbefore)

theorem triple_takePending (id : RequestId) (message : String) :
    Triple (Holds (Calmly (Turns none))) (takePending id message : Work B PendingControl)
      (fun kind => Holds fun w => Calmly (Turns none) w ∧ Calmly (Worker.Claimed kind) w)
      fun _ => Holds (Calmly (Turns none)) := by
  apply Triple.bind (Q := fun found => Holds fun w : Worker B => Calmly (Turns none) w ∧
    ∀ kind, found = some kind → Calmly (Worker.Claimed kind) w)
  · apply Interleaved.triple_locally
    apply Triple.update
    intro w hw
    cases hkind : w.pending[id]? with
    | none =>
      have hsame : w.pending.erase id = w.pending := OrderedMap.erase_absent hkind
      rw [hsame]
      exact ⟨hw, nofun⟩
    | some kind =>
      refine ⟨fun htimely => (Worker.turns_taken (hw htimely) hkind).1, ?_⟩
      rintro found ⟨⟩ htimely
      exact (Worker.turns_taken (hw htimely) hkind).2
  · intro found
    cases found with
    | some kind => exact Triple.pure fun _ hs => ⟨hs.1, hs.2 kind rfl⟩
    | none => exact Triple.fail fun _ hs => hs.1

theorem triple_turnAccepted (session : SessionId) (threadId : String) (prompt : QueuedPrompt) :
    Triple (Holds fun w : Worker B => Calmly (Turns none) w ∧
        Calmly (Worker.Claimed (.turnStart session threadId prompt)) w)
      (turnAccepted host route session threadId prompt) (fun _ => Holds (Calmly (Turns none)))
      fun _ => Holds (Calmly (Turns none)) := by
  apply Triple.bind (triple_onMapping (stable_claimed _) (fun _ hw => hw.1) _)
  intro _
  apply Triple.bind (Q := fun _ => Holds (Calmly (Turns none) : Worker B → Prop))
  · apply triple_locked (stable_claimed _)
    apply Triple.update
    rintro w ⟨hturns, hclaimed⟩ htimely
    exact Worker.turns_completed (hturns htimely.snoc_left) (hclaimed htimely.snoc_left)
  · intro removed
    apply Triple.ite
    · exact fun _ => Triple.fail fun _ hs => hs
    · exact fun _ => Triple.of_preserves (keeps_mapping _)

theorem triple_turnRejected (session : SessionId) (threadId : String) (prompt : QueuedPrompt) :
    Triple (Holds fun w : Worker B => Calmly (Turns none) w ∧
        Calmly (Worker.Claimed (.turnStart session threadId prompt)) w)
      (turnRejected host route session prompt) (fun _ => Holds (Calmly (Turns none)))
      fun _ => Holds (Calmly (Turns none)) := by
  apply triple_locked (stable_claimed _)
  apply Triple.modify
  rintro w ⟨hturns, hclaimed⟩ htimely
  exact Worker.turns_rejected (hturns htimely.snoc_left) (hclaimed htimely.snoc_left)

/-- The answer to a plan leaves nothing of its session unanswered. -/
theorem triple_implemented (session : SessionId) (threadId : String) {E : Worker B → Prop} :
    Triple (Holds fun w : Worker B => Calmly (Turns none) w ∧
        Calmly (Worker.Claimed (.implementPlan session threadId)) w)
      (note (.implemented session) : Work B Unit)
      (fun _ => Holds (Calmly (Dispatching [session]))) fun _ => Holds E := by
  apply Interleaved.triple_locally
  apply Triple.modify
  rintro w ⟨hturns, hclaimed⟩ htimely
  exact Worker.turns_implemented (hturns htimely.snoc_left) (hclaimed htimely.snoc_left)

theorem triple_planAccepted (session : SessionId) (threadId : String) :
    Triple (Holds fun w : Worker B => Calmly (Turns none) w ∧
        Calmly (Worker.Claimed (.implementPlan session threadId)) w)
      (planAccepted host route session threadId) (fun _ => Holds (Calmly (Turns none)))
      fun _ => Holds (Calmly (Turns none)) := by
  apply Triple.bind ((triple_implemented session threadId).weaken (fun _ hs => hs)
    (fun _ _ hs htimely => (hs htimely).1) fun _ _ hs => hs)
  intro _
  have hneutral : Neutral host route (Calmly (Turns none) : Worker B → Prop) := neutral_turns
  apply Triple.of_preserves
  apply Preserves.bind
  · apply keeps_section
    exact Preserves.modify fun w hw =>
      hneutral.controls w _ (sameTurns_updateDefaults _ _ w.controls) hw
  intro _
  exact Preserves.bind (keeps_mapping _) fun _ => keeps_mapping _

theorem triple_planRejected (session : SessionId) (threadId : String) :
    Triple (Holds fun w : Worker B => Calmly (Turns none) w ∧
        Calmly (Worker.Claimed (.implementPlan session threadId)) w)
      (planRejected host route session) (fun _ => Holds (Calmly (Turns none)))
      fun _ => Holds (Calmly (Turns none)) := by
  apply Triple.bind (triple_implemented session threadId)
  intro _
  apply triple_locked (stable_calmly (stable_dispatching [session]))
  apply Triple.modify
  intro w hw htimely
  obtain ⟨hturns, hanswered⟩ := hw htimely
  exact Worker.turns_unmarked (w.controls.clearTurnInflight session) hturns
    (hanswered session (by simp)) rfl rfl rfl

theorem keepsTurns : KeepsTurns host schema route (Calmly (Turns none) : Worker B → Prop)
    (fun kind => Calmly (Worker.Claimed kind)) where
  observe := keeps_observeTurn
  plan := keeps_startPlan
  dispatch := keeps_dispatch
  take := triple_takePending
  turnAccepted := triple_turnAccepted
  turnRejected := triple_turnRejected
  planAccepted := triple_planAccepted
  planRejected := triple_planRejected

/-- The worker before it sends anything. -/
structure Fresh (w : Worker B) : Prop where
  numbered : w.controls.Numbered
  inOrder : InOrder w.log
  untouched : ∀ session, outstanding session w.log = 0 ∧ nextNumber session w.log = 0
  kept : ∀ session prompt removed, Record.completed session prompt removed ∉ w.log

theorem stable_fresh : Stable (Fresh : Worker B → Prop) := by
  intro w w' hdrift hw
  obtain ⟨cleared, hadmits, -⟩ := hdrift.controls
  constructor
  · exact hadmits.numbered hw.numbered
  · rcases hdrift.log with hlog | ⟨entry, habout, -, hlog⟩
    · rw [hlog]
      exact hw.inOrder
    · rw [hlog]
      exact throughout_snoc.mpr ⟨hw.inOrder, Worker.inOrder_of_about habout _⟩
  · intro session
    obtain ⟨hzero, hnext⟩ := hw.untouched session
    exact ⟨(hdrift.ledger session).outstanding.trans hzero,
      (hdrift.ledger session).nextNumber.trans hnext⟩
  · intro session prompt removed hmem
    rcases hdrift.log with hlog | ⟨entry, habout, -, hlog⟩
    · rw [hlog] at hmem
      exact hw.kept session prompt removed hmem
    · rw [hlog] at hmem
      rcases List.mem_append.mp hmem with hold | hnew
      · exact hw.kept session prompt removed hold
      · cases List.mem_singleton.mp hnew
        cases habout

theorem Fresh.of_empty {w : Worker B} (hlog : w.log = []) (hnumbered : w.controls.Numbered) :
    Fresh w where
  numbered := hnumbered
  inOrder := by
    rw [hlog]
    exact History.throughout_nil _
  untouched session := by
    rw [hlog]
    exact ⟨rfl, rfl⟩
  kept session prompt removed := by
    rw [hlog]
    exact List.not_mem_nil

/-- With no request pending the turns are in order from the start. -/
theorem Fresh.turns {w : Worker B} (h : Fresh w) : Turns none { w with pending := ∅ } where
  inOrder := h.inOrder
  numbered := h.numbered
  kept _ session prompt removed hmem := absurd hmem (h.kept session prompt removed)
  turn session := by
    obtain ⟨hzero, hnext⟩ := h.untouched session
    constructor
    · exact hnext.symm ▸ Nat.zero_le _
    · exact fun prompt _ => hnext.symm ▸ Nat.zero_le _
    · exact fun _ prompt _ => hnext.symm ▸ Nat.zero_le _
    · exact fun hopen => absurd hzero hopen
    · exact fun id kind hkind => by simp at hkind
    · exact fun id id' kind kind' hkind => by simp at hkind

/-- The two sections with which the worker begins. -/
theorem triple_begin {E : Worker B → Prop} :
    Triple (Holds (Fresh : Worker B → Prop))
      (editControls host route ControlRuntimeState.clearAllInflight >>= fun _ =>
        alone (Program.modify fun w => { w with pending := ∅ }))
      (fun _ => Holds (Calmly (Turns none))) fun _ => Holds E := by
  apply Triple.bind (Q := fun _ => Holds (Fresh : Worker B → Prop))
  · apply triple_locked stable_fresh
    apply Triple.modify
    exact fun w hw => ⟨⟨hw.numbered.ascending, hw.numbered.given⟩, hw.inOrder, hw.untouched, hw.kept⟩
  · intro _
    apply Interleaved.triple_locally
    exact Triple.modify fun w hw _ => hw.turns

theorem runWorker_turns {w : Worker B} (hlog : w.log = []) (hnumbered : w.controls.Numbered)
    (schedule : List (List (Foreign B))) (fuel : Nat) (rounds : List Round) :
    Calmly (Turns none) (runWorker host schema route fuel rounds ⟨w, schedule⟩).2.state := by
  have hloop : Triple (Holds (Fresh : Worker B → Prop)) (runWorker host schema route fuel rounds)
      (fun _ => Holds (Calmly (Turns none))) fun _ => Holds (Calmly (Turns none)) := by
    unfold runWorker
    rw [← Program.bind_assoc]
    apply Triple.bind triple_begin
    intro _
    apply Triple.of_preserves
    have hquiet : Quiet host schema route (Calmly (Turns none) : Worker B → Prop) := quiet_turns
    apply Preserves.bind (keeps_workerLoop neutral_turns registry_turns keepsTurns fuel rounds)
    intro exit
    exact Preserves.bind (keeps_leave hquiet registry_turns exit) fun _ => Preserves.pure _
  exact hloop.exits (I := Holds (Calmly (Turns none))) (Fresh.of_empty hlog hnumbered)

variable (host schema route)

/-- The log after a run of the worker. -/
def runLog (w : Worker B) (schedule : List (List (Foreign B))) (fuel : Nat) (rounds : List Round) :
    List Record :=
  (runWorker host schema route fuel rounds ⟨w, schedule⟩).2.state.log

/-- Over every run and every schedule of the other threads: as long as no mark is dropped
and no plan implemented while a turn/start of the session is unanswered, at most one is
unanswered at any time, and the prompts of a session are started in the order of their
acceptance, each once unless its first start was refused. -/
theorem runWorker_starts_in_order (w : Worker B) (hlog : w.log = [])
    (hnumbered : w.controls.Numbered) (schedule : List (List (Foreign B))) (fuel : Nat)
    (rounds : List Round) (htimely : Timely (runLog host schema route w schedule fuel rounds)) :
    (∀ session before, before <+: runLog host schema route w schedule fuel rounds →
      outstanding session before ≤ 1) ∧
    ∀ session first second before middle,
      before ++ .started session first :: middle ++ [.started session second] <+:
        runLog host schema route w schedule fuel rounds →
      first.number ≤ second.number ∧
      (first.number = second.number →
        ∃ refused, refused.number = first.number ∧ Record.rejected session refused ∈ middle) := by
  have hturns : Turns none (runWorker host schema route fuel rounds ⟨w, schedule⟩).2.state :=
    runWorker_turns hlog hnumbered schedule fuel rounds htimely
  have hinOrder : ∀ before, before <+: runLog host schema route w schedule fuel rounds →
      InOrder before :=
    fun before hbefore earlier entry hentry => hturns.inOrder earlier entry (hentry.trans hbefore)
  constructor
  · intro session before hbefore
    exact outstanding_le_one (hinOrder before hbefore) session
  · intro session first second before middle hstarted
    exact started_in_order (hinOrder _ hstarted)

variable {host schema route}

/-- The states of a worker between two of its operations. -/
inductive Between (host : ProviderHost B) (schema : ProtocolSchema) (route : ApprovalRoute) :
    Interleaved (Worker B) (Foreign B) → Prop
  | begun {w : Worker B} (hlog : w.log = []) (hnumbered : w.controls.Numbered)
      (schedule : List (List (Foreign B))) :
      Between host schema route
        ⟨{ w with controls := w.controls.clearAllInflight, pending := ∅ }, schedule⟩
  | answersFlushed {s s' : Interleaved (Worker B) (Foreign B)} (h : Between host schema route s)
      (fuel : Nat) (hflush : flushApprovalResponses host schema route fuel s = (.ok (), s')) :
      Between host schema route s'
  | commandsFlushed {s s' : Interleaved (Worker B) (Foreign B)} (h : Between host schema route s)
      (fuel : Nat) (hflush : flushControlCommands host schema route fuel s = (.ok (), s')) :
      Between host schema route s'
  | frameRead {s s' : Interleaved (Worker B) (Foreign B)} (h : Between host schema route s)
      (read : ReadOutcome) (hread : readFrame host schema route read s = (.ok (), s')) :
      Between host schema route s'

theorem Between.turns {s : Interleaved (Worker B) (Foreign B)} (h : Between host schema route s) :
    Holds (Calmly (Turns none)) s := by
  induction h with
  | @begun w hlog hnumbered schedule =>
    intro _
    have hfresh : Fresh { w with controls := w.controls.clearAllInflight } :=
      Fresh.of_empty hlog ⟨hnumbered.ascending, hnumbered.given⟩
    exact hfresh.turns
  | answersFlushed h fuel hflush ih =>
    have hkeeps : Preserves (Holds (Calmly (Turns none))) (flushApprovalResponses host schema route fuel) :=
      keeps_flushApprovalResponses quiet_turns registry_turns fuel
    have hafter := hkeeps.holds _ ih
    rw [hflush] at hafter
    exact hafter
  | commandsFlushed h fuel hflush ih =>
    have hkeeps : Preserves (Holds (Calmly (Turns none))) (flushControlCommands host schema route fuel) :=
      keeps_flushControlCommands quiet_turns keepsTurns.prompts fuel
    have hafter := hkeeps.holds _ ih
    rw [hflush] at hafter
    exact hafter
  | frameRead h read hread ih =>
    have hkeeps : Preserves (Holds (Calmly (Turns none))) (readFrame host schema route read) :=
      keeps_readFrame neutral_turns registry_turns keepsTurns read
    have hafter := hkeeps.holds _ ih
    rw [hread] at hafter
    exact hafter

/-- The failure of an answer whose prompt is gone. -/
def promptChanged : CodexProviderSourceError :=
  .protocol "queued prompt changed before turn/start completed"

theorem ne_promptChanged {text : String} (h : text.toList.head? ≠ some 'q') :
    CodexProviderSourceError.protocol text ≠ promptChanged := by
  intro heq
  apply h
  rw [CodexProviderSourceError.protocol.inj heq]
  decide

theorem domain_ne_promptChanged {β : Type} {x : Except DomainError β}
    {error : CodexProviderSourceError} (h : domain x = .error error) : error ≠ promptChanged := by
  cases x with
  | ok value => cases h
  | error found =>
    cases h
    apply ne_promptChanged
    simp

/-- A program that may fail, but not with a changed prompt. -/
def FailsOtherwise {β : Type} (x : Mapping B β) : Prop :=
  Triple (fun _ => True) x (fun _ _ => True) fun error _ => error ≠ promptChanged

theorem failsOtherwise_bind {β γ : Type} {x : Mapping B β} {f : β → Mapping B γ}
    (hx : FailsOtherwise x) (hf : ∀ b, FailsOtherwise (f b)) : FailsOtherwise (x >>= f) :=
  Triple.bind hx hf

theorem failsOtherwise_trackedThread (threadId : String) :
    FailsOtherwise (Mapping.trackedThread threadId : Mapping B ThreadMapping) := by
  apply failsOtherwise_bind (Triple.reads fun _ _ => trivial)
  intro mapping
  cases mapping with
  | some mapping => exact Triple.pure fun _ _ => trivial
  | none => exact Triple.fail fun _ _ => by decide

theorem failsOtherwise_publishTracked (threadId : String) (occurredAt : Timestamp)
    (payload : AgentEventPayload) :
    FailsOtherwise (Mapping.publishTracked host threadId occurredAt payload) := by
  apply failsOtherwise_bind (failsOtherwise_trackedThread threadId)
  intro mapping
  apply failsOtherwise_bind (Triple.update fun _ _ => trivial)
  intro id
  apply failsOtherwise_bind
  · exact Triple.ofExcept (fun _ _ _ _ => trivial) fun _ _ herror _ => domain_ne_promptChanged herror
  intro event
  apply failsOtherwise_bind
  · apply failsOtherwise_bind (Triple.update fun _ _ => trivial)
    intro result
    cases result with
    | ok report => exact Triple.pure fun _ _ => trivial
    | error error =>
      exact Triple.ite (fun _ => Triple.pure fun _ _ => trivial) fun _ =>
        Triple.fail fun _ _ => nofun
  intro _
  apply failsOtherwise_bind (failsOtherwise_trackedThread threadId)
  intro current
  cases current.nextSequence.checkedNext with
  | none =>
    apply Triple.fail
    intro _ _
    apply ne_promptChanged
    show ("event sequence exhausted for thread " ++ threadId).toList.head? ≠ some 'q'
    simp
  | some next => exact Triple.modify fun _ _ => trivial

theorem failsOtherwise_closeLocalChoice (id : InteractionId) :
    FailsOtherwise (Mapping.closeLocalChoice host id) := by
  apply failsOtherwise_bind (Triple.reads fun _ _ => trivial)
  intro choice
  cases choice with
  | none => exact Triple.pure fun _ _ => trivial
  | some choice =>
    apply failsOtherwise_bind (Triple.modify fun _ _ => trivial)
    intro _
    apply failsOtherwise_bind (Triple.reads fun _ _ => trivial)
    intro mapping
    cases mapping with
    | none => exact Triple.fail fun _ _ => by decide
    | some mapping =>
      apply failsOtherwise_bind (Triple.update fun _ _ => trivial)
      intro now
      exact failsOtherwise_publishTracked _ _ _

/-- A message to a thread. -/
theorem failsOtherwise_message (role : AgentMessageRole) (threadId text : String) :
    FailsOtherwise (message host role threadId text) := by
  apply failsOtherwise_bind (Triple.update fun _ _ => trivial)
  intro now
  apply failsOtherwise_bind
  · exact Triple.ofExcept (fun _ _ _ _ => trivial) fun _ _ herror _ => domain_ne_promptChanged herror
  intro content
  apply failsOtherwise_bind (Triple.reads fun _ _ => trivial)
  intro payload
  apply failsOtherwise_bind
  · apply Triple.ite
    · intro _
      apply failsOtherwise_bind (Triple.reads fun _ _ => trivial)
      intro ids
      exact Triple.forEach (I := fun _ _ => True) (fun id _ => failsOtherwise_closeLocalChoice id) ids
    · exact fun _ => Triple.pure fun _ _ => trivial
  · exact fun _ => failsOtherwise_publishTracked _ _ _

/-- The log keeps an entry. -/
theorem stable_mem_log (entry : Record) : Stable fun w : Worker B => entry ∈ w.log := by
  intro w w' hdrift hmem
  rcases hdrift.log with hlog | ⟨added, -, -, hlog⟩
  · rwa [hlog]
  · rw [hlog]
    exact List.mem_append_left _ hmem

/-- An update of the mapper does not fail. -/
theorem triple_onMapper {P E : Worker B → Prop} (hP : Stable P)
    (f : CodexEventMapper → CodexEventMapper) :
    Triple (Holds P) (onMapper host route f) (fun _ => Holds P) fun _ => Holds E := by
  apply triple_locked hP
  constructor
  · intro w _ w' hw h
    cases h
    exact hP w _ (.of_same rfl rfl ⟨rfl, rfl, rfl⟩) hw
  · intro w _ w' _ h
    cases h

theorem triple_onMapping_fails {P : Worker B → Prop} (hP : Stable P) {x : Mapping B α}
    (hx : FailsOtherwise x) :
    Triple (Holds P) (onMapping host route x) (fun _ => Holds P)
      fun halt => Holds fun w => P w ∧ halt ≠ .source promptChanged := by
  apply triple_locked hP
  constructor
  · intro w _ w' hw h
    obtain ⟨-, rfl⟩ := Prod.mk.inj h
    exact hP w _ (.of_same rfl rfl ⟨rfl, rfl, rfl⟩) hw
  · intro w halt w' hw h
    obtain ⟨hresult, rfl⟩ := Prod.mk.inj h
    obtain ⟨error, herror, rfl⟩ := mapError_source hresult
    refine ⟨hP w _ (.of_same rfl rfl ⟨rfl, rfl, rfl⟩) hw, ?_⟩
    rintro ⟨⟩
    exact hx.fails w.mapping _ _ trivial (Prod.ext herror rfl) rfl

/-- An accepted turn takes a prompt off the queue, and its failure as a changed prompt
means that this was not the one it was sent with. -/
theorem triple_turnAccepted_pops (session : SessionId) (threadId : String)
    (prompt : QueuedPrompt) :
    Triple (fun _ => True) (turnAccepted host route session threadId prompt)
      (fun _ => Holds fun w : Worker B => ∃ removed, Record.completed session prompt removed ∈ w.log)
      fun halt => Holds fun w => ∃ removed, Record.completed session prompt removed ∈ w.log ∧
        (halt = .source promptChanged → removed ≠ some prompt) := by
  have hdone : Stable fun _ : Worker B => True := fun _ _ _ _ => trivial
  apply Triple.bind (Q := fun _ => Holds fun _ => True)
  · exact (triple_onMapper (E := fun _ => False) hdone _).weaken (fun _ hs => hs) (fun _ _ hs => hs)
      fun _ _ hs => hs.elim
  intro _
  apply Triple.bind (Q := fun removed => Holds fun w : Worker B =>
    Record.completed session prompt removed ∈ w.log)
  · apply triple_locked hdone
    apply Triple.update
    intro w _
    exact List.mem_append_right _ (List.mem_singleton.mpr rfl)
  intro removed
  apply Triple.ite
  · intro hchanged
    apply Triple.fail
    intro s hs
    refine ⟨removed, hs, ?_⟩
    rintro - rfl
    exact hchanged rfl
  · intro _
    apply (triple_onMapping_fails (stable_mem_log _) (failsOtherwise_message _ _ _)).weaken
      (fun _ hs => hs)
    · exact fun _ _ hs => ⟨removed, hs⟩
    · exact fun _ _ hs => ⟨removed, hs.1, fun hhalt => absurd hhalt hs.2⟩

theorem takePending_of_some {s : Interleaved (Worker B) (Foreign B)} {id : RequestId}
    {kind : PendingControl} (h : s.state.pending[id]? = some kind) (message : String) :
    takePending id message s =
      (.ok kind, ⟨{ s.state with pending := s.state.pending.erase id }, s.schedule⟩) := by
  have htaken : (alone (Program.update fun w : Worker B =>
      (w.pending[id]?, { w with pending := w.pending.erase id })) : Work B _) s =
      (.ok (some kind), ⟨{ s.state with pending := s.state.pending.erase id }, s.schedule⟩) := by
    rw [← h]
    rfl
  exact Program.bind_of_ok htaken

/-- From every state between two operations of the worker: as long as no mark is dropped
too early and no queue is emptied while its front is underway, the answer to a started
prompt takes that prompt off the queue, and does not fail the worker as one whose prompt
changed. -/
theorem processControlResponse_finds_prompt {s : Interleaved (Worker B) (Foreign B)}
    (h : Between host schema route s) {id : RequestId} {session : SessionId} {threadId : String}
    {prompt : QueuedPrompt} (hkind : s.state.pending[id]? = some (.turnStart session threadId prompt))
    (expected : ExpectedResponse) (result : Value)
    (htimely : Timely (processControlResponse host schema route id expected result s).2.state.log)
    (hunedited : Unedited
      (processControlResponse host schema route id expected result s).2.state.log) :
    .completed session prompt (some prompt) ∈
      (processControlResponse host schema route id expected result s).2.state.log ∧
    (processControlResponse host schema route id expected result s).1 ≠
      .error (.source promptChanged) := by
  have hrun : processControlResponse host schema route id expected result s =
      turnAccepted host route session threadId prompt
        ⟨{ s.state with pending := s.state.pending.erase id }, s.schedule⟩ :=
    Program.bind_of_ok (takePending_of_some hkind _)
  have hkeeps : Preserves (Holds (Calmly (Turns none)))
      (processControlResponse host schema route id expected result) :=
    keeps_processControlResponse quiet_turns keepsTurns id expected result
  have hturns : Turns none (processControlResponse host schema route id expected result s).2.state :=
    hkeeps.holds s h.turns htimely
  have hpops := @triple_turnAccepted_pops B host route session threadId prompt
  rcases hresult : turnAccepted host route session threadId prompt
      ⟨{ s.state with pending := s.state.pending.erase id }, s.schedule⟩ with ⟨outcome, s'⟩
  rw [hrun, hresult] at hturns hunedited ⊢
  cases outcome with
  | ok _ =>
    obtain ⟨removed, hmem⟩ := hpops.returns _ _ _ trivial hresult
    have hsame := hturns.kept hunedited session prompt removed hmem
    exact ⟨hsame ▸ hmem, nofun⟩
  | error halt =>
    obtain ⟨removed, hmem, hchanged⟩ := hpops.fails _ _ _ trivial hresult
    have hsame := hturns.kept hunedited session prompt removed hmem
    refine ⟨hsame ▸ hmem, ?_⟩
    intro herror
    exact hchanged (Except.error.inj herror) hsame

end Turns

end Work

namespace Sample

def prompt : NonEmptyText := ⟨"go", by decide⟩

def command (number : Nat) (payload : AgentCommandPayload) : AgentCommand :=
  ⟨Ident.numbered .command number, session, Ident.numbered .channel 0, AgentPulse.Sample.instant,
    payload⟩

/-- The worker of an idle thread that it has subscribed to. -/
def idling : Worker Nat :=
  { worker .new with mapping := (discovered.step host .takeObserverResumes).1 }

/-- A round without a frame. -/
def quiet : Work.Round := ⟨false, .timeout, false⟩

def stopping : Work.Round := ⟨true, .timeout, false⟩

/-- A round that reads the answer to the first request of the worker. -/
def promptAnswered : Work.Round :=
  ⟨false, .text (.ok (.object [("id", .int 1),
    ("result", .object [("turn", turn "t1" "inProgress")])])), false⟩

/-- A prompt is queued before the worker begins; the other threads move once more
after its first round. -/
def queuedThen (steps : List (Foreign Nat)) : List (List (Foreign Nat)) :=
  [.accept (command 0 (.submitPrompt prompt .queue))] :: List.replicate 17 [] ++ [steps]

/-- A proxied connection maps the start of the turn before the second round of the worker
and its end before the third; the answer is still on its way. -/
def overtaken : List (List (Foreign Nat)) :=
  queuedThen [.mapping (turnStarted "t1")] ++ List.replicate 12 [] ++
    [[.mapping (.notification "turn/completed" (turnParams "t1" "completed"))]]

end Sample

namespace Work

/-- A prompt that is queued, started and answered. -/
theorem runWorker_starts_once :
    Record.started Sample.session ⟨0, Sample.prompt⟩ ∈ runLog Sample.host Sample.schema .observer
      Sample.idling (Sample.queuedThen []) 3 [Sample.quiet, Sample.promptAnswered, Sample.stopping] ∧
    ∀ session before, before <+: runLog Sample.host Sample.schema .observer Sample.idling
      (Sample.queuedThen []) 3 [Sample.quiet, Sample.promptAnswered, Sample.stopping] →
      outstanding session before ≤ 1 := by
  refine ⟨by decide +kernel, ?_⟩
  exact (runWorker_starts_in_order Sample.host Sample.schema .observer Sample.idling rfl
    ControlRuntimeState.numbered_new (Sample.queuedThen []) 3
    [Sample.quiet, Sample.promptAnswered, Sample.stopping] (by decide +kernel)).1

/-- The turn starts and ends on a proxied connection before its answer is read: the mark is
dropped, and the same prompt is sent again while the first request is unanswered. -/
theorem runWorker_starts_twice :
    Sample.idling.log = [] ∧ Sample.idling.controls.Numbered ∧
    runLog Sample.host Sample.schema .observer Sample.idling Sample.overtaken 3
        [Sample.quiet, Sample.quiet, Sample.quiet] =
      [.picked Sample.session ⟨0, Sample.prompt⟩, .dispatched Sample.session .default none,
        .started Sample.session ⟨0, Sample.prompt⟩, .released Sample.session,
        .picked Sample.session ⟨0, Sample.prompt⟩, .dispatched Sample.session .default none,
        .started Sample.session ⟨0, Sample.prompt⟩] ∧
    outstanding Sample.session (runLog Sample.host Sample.schema .observer Sample.idling
      Sample.overtaken 3 [Sample.quiet, Sample.quiet, Sample.quiet]) = 2 := by
  refine ⟨rfl, ControlRuntimeState.numbered_new, ?_, ?_⟩
  · decide +kernel
  · decide +kernel

/-- The worker when its first flush begins, with a prompt in the queue; the given steps of
other threads come after the flush. -/
def promptWaiting (steps : List (Foreign Nat)) : Interleaved (Worker Nat) (Foreign Nat) :=
  ⟨{ Sample.idling.accept (Sample.command 0 (.submitPrompt Sample.prompt .queue)) with
      controls := (Sample.idling.accept
        (Sample.command 0 (.submitPrompt Sample.prompt .queue))).controls.clearAllInflight
      pending := ∅ }, List.replicate 16 [] ++ [steps]⟩

def promptSent (steps : List (Foreign Nat)) : Interleaved (Worker Nat) (Foreign Nat) :=
  (flushControlCommands Sample.host Sample.schema .observer 3 (promptWaiting steps)).2

theorem between_promptSent {steps : List (Foreign Nat)}
    (h : (flushControlCommands Sample.host Sample.schema .observer 3 (promptWaiting steps)).1 =
      .ok ()) : Between Sample.host Sample.schema .observer (promptSent steps) := by
  have hbegun : Between Sample.host Sample.schema .observer (promptWaiting steps) := by
    apply Between.begun
    · rfl
    · exact (ControlRuntimeState.admits_accept _ _).numbered ControlRuntimeState.numbered_new
  have hpair : ∀ x : Except Halt Unit × Interleaved (Worker Nat) (Foreign Nat),
      x.1 = .ok () → x = (.ok (), x.2) := fun x hx => Prod.ext hx rfl
  exact hbegun.commandsFlushed 3 (hpair _ h)

/-- The request of the started prompt, if the entry is one. -/
def isSample : PendingControl → Bool
  | .turnStart session thread prompt =>
    session = Sample.session ∧ thread = Sample.thread ∧ prompt = ⟨0, Sample.prompt⟩
  | _ => false

theorem eq_of_isSample {kind : PendingControl} (h : isSample kind = true) :
    kind = .turnStart Sample.session Sample.thread ⟨0, Sample.prompt⟩ := by
  cases kind <;> simp [isSample] at h
  case turnStart session thread prompt =>
    obtain ⟨rfl, rfl, rfl⟩ := h
    rfl

/-- A command that pauses the queue leaves the prompt that the answer takes. -/
theorem processControlResponse_paused :
    .completed Sample.session ⟨0, Sample.prompt⟩ (some ⟨0, Sample.prompt⟩) ∈
      (processControlResponse Sample.host Sample.schema .observer (.number 1) .turnStart .null
        (promptSent [.accept (Sample.command 1 (.queue .pause))])).2.state.log ∧
    (processControlResponse Sample.host Sample.schema .observer (.number 1) .turnStart .null
      (promptSent [.accept (Sample.command 1 (.queue .pause))])).1 ≠
      .error (.source promptChanged) := by
  have hbetween : Between Sample.host Sample.schema .observer
      (promptSent [.accept (Sample.command 1 (.queue .pause))]) :=
    between_promptSent (by decide +kernel)
  have hsent : (promptSent [.accept (Sample.command 1 (.queue .pause))]).state.pending[
      RequestId.number 1]?.any isSample = true := by decide +kernel
  obtain ⟨kind, hkind, hsample⟩ := (Option.any_eq_true _ _).mp hsent
  rw [eq_of_isSample hsample] at hkind
  exact processControlResponse_finds_prompt hbetween hkind
    .turnStart .null (by decide +kernel) (by decide +kernel)

/-- A Queue Clear between the request and its answer: the prompt is gone, and the answer
fails the worker. -/
theorem processControlResponse_cleared :
    Between Sample.host Sample.schema .observer
      (promptSent [.accept (Sample.command 1 (.queue .clear))]) ∧
    (promptSent [.accept (Sample.command 1 (.queue .clear))]).state.pending[
      RequestId.number 1]?.any isSample = true ∧
    (processControlResponse Sample.host Sample.schema .observer (.number 1) .turnStart .null
      (promptSent [.accept (Sample.command 1 (.queue .clear))])).1 =
      .error (.source promptChanged) ∧
    (runWorker Sample.host Sample.schema .observer 3 [Sample.quiet, Sample.promptAnswered]
      ⟨Sample.idling, Sample.queuedThen [.accept (Sample.command 1 (.queue .clear))]⟩).1 =
      .ok (.readFailed promptChanged) := by
  refine ⟨between_promptSent ?_, ?_, ?_, ?_⟩
  · decide +kernel
  · decide +kernel
  · decide +kernel
  · decide +kernel

end Work

end Codex

end AgentPulse
