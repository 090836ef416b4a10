import AgentPulse.CodexRegistry
import AgentPulse.CodexWorker

/-!
# What the worker keeps

A property of the shared state that no neutral section touches is kept by the
whole worker as soon as the few sections about turns keep it. The sections are
said once here, by the part of the state that they may write.
-/
namespace AgentPulse

namespace Codex

open Std (ExtTreeMap)
open Program (Preserves Triple)
open Interleaved (Holds)

/-- The session for which the answer to a request settles a turn/start. -/
def PendingControl.startsTurn : PendingControl → Option SessionId
  | .turnStart sessionId _ _ | .implementPlan sessionId _ => some sessionId
  | _ => none

/-- The entries of the log that no statement about turns or answers reads. -/
def Record.isRemark : Record → Bool
  | .taken _ | .dispatched _ _ _ | .closing _ => true
  | _ => false

/-- The parts of the control state that carry prompts and marks are the same. -/
structure SameTurns (c c' : ControlRuntimeState) : Prop where
  prompts : c'.prompts = c.prompts
  inflightTurns : c'.inflightTurns = c.inflightTurns
  accepted : c'.accepted = c.accepted

/-- What every neutral section and every step of another thread keeps. -/
structure Neutral {B : Type} (host : ProviderHost B) (route : ApprovalRoute)
    (I : Worker B → Prop) : Prop where
  mapping : ∀ w mapping, I w → I { w with mapping := mapping }
  protocol : ∀ w protocol, I w → I { w with protocol := protocol }
  writes : ∀ w writes, I w → I { w with writes := writes }
  controls : ∀ w controls, SameTurns w.controls controls → I w → I { w with controls := controls }
  asked : ∀ w id kind, kind.startsTurn = none → I w →
    I { w with pending := w.pending.insert id kind }
  remark : ∀ w entry, entry.isRemark = true → I w → I (w.record entry)
  foreign : ∀ step w, I w → I (w.foreign host route step)

namespace Work

variable {B α : Type} {host : ProviderHost B} {schema : ProtocolSchema} {route : ApprovalRoute}
  {I : Worker B → Prop}

/-- The failures of a part of the state are failures of the source. -/
theorem mapError_source {x : Sourced α} {halt : Halt} (h : x.mapError Halt.source = .error halt) :
    ∃ error, x = .error error ∧ halt = .source error := by
  cases x with
  | ok a => cases h
  | error error =>
    cases h
    exact ⟨error, rfl, rfl⟩

/-- A part that takes no lock. -/
theorem keeps_alone {x : Program (Worker B) Halt α} (hx : Preserves I x) :
    Preserves (Holds I) (alone x : Work B α) :=
  Interleaved.preserves_locally hx

theorem keeps_record {entry : Record} (hentry : ∀ w : Worker B, I w → I (w.record entry)) :
    Preserves (Holds I) (note entry : Work B Unit) :=
  keeps_alone (Preserves.modify hentry)

theorem keeps_write (hwrites : ∀ (w : Worker B) writes, I w → I { w with writes := writes })
    (frame : Value) : Preserves (Holds I) (writeText frame : Work B Unit) := by
  apply Preserves.bind (keeps_alone (Preserves.update fun w hw => hwrites w _ hw))
  intro result
  cases result with
  | ok _ => exact Preserves.pure _
  | error message => exact Preserves.fail _

/-- What the sections that are no part of a turn keep, and what a request that starts
no turn keeps. -/
structure Quiet (host : ProviderHost B) (schema : ProtocolSchema) (route : ApprovalRoute)
    (I : Worker B → Prop) : Prop where
  mapping : ∀ w mapping, I w → I { w with mapping := mapping }
  writes : ∀ w writes, I w → I { w with writes := writes }
  controls : ∀ w controls, SameTurns w.controls controls → I w → I { w with controls := controls }
  remark : ∀ w entry, entry.isRemark = true → I w → I (w.record entry)
  foreign : ∀ step w, I w → I (w.foreign host route step)
  asks : ∀ expected params kind, kind.startsTurn = none →
    Preserves (Holds I) (sendControlRequest schema expected params kind : Work B Unit)

section Requests

variable (h : Neutral host route I)
include h

theorem keeps_onProtocol (x : Program ProtocolEngine CodexProviderSourceError α) :
    Preserves (Holds I) (onProtocol x : Work B α) :=
  keeps_alone ⟨fun w hw => h.protocol w _ hw⟩

/-- A request, if it may be pending. -/
theorem keeps_request (expected : ExpectedResponse) (params : Value) {kind : PendingControl}
    (hkind : ∀ w id, I w → I { w with pending := w.pending.insert id kind }) :
    Preserves (Holds I) (sendControlRequest schema expected params kind : Work B Unit) := by
  apply Preserves.bind (keeps_onProtocol h _)
  intro request
  apply Preserves.bind (Preserves.attempt (keeps_write h.writes _))
  intro result
  cases result with
  | error error => exact Preserves.bind (keeps_onProtocol h _) fun _ => Preserves.fail _
  | ok _ => exact keeps_alone (Preserves.modify fun w hw => hkind w _ hw)

theorem quiet_of_neutral : Quiet host schema route I where
  mapping := h.mapping
  writes := h.writes
  controls := h.controls
  remark := h.remark
  foreign := h.foreign
  asks expected params kind hkind :=
    keeps_request h expected params fun w id hw => h.asked w id kind hkind hw

end Requests

section Sections

variable (h : Quiet host schema route I)
include h

theorem keeps_locked {x : Program (Worker B) Halt α} (hx : Preserves I x) :
    Preserves (Holds I) (locked host route x) :=
  Interleaved.preserves_atomically h.foreign hx

theorem keeps_note {entry : Record} (hentry : entry.isRemark = true) :
    Preserves (Holds I) (note entry : Work B Unit) :=
  keeps_record fun w hw => h.remark w entry hentry hw

theorem keeps_onMapping (x : Mapping B α) : Preserves (Holds I) (onMapping host route x) :=
  keeps_locked h ⟨fun w hw => h.mapping w _ hw⟩

theorem keeps_onHost (x : Hosting B α) : Preserves (Holds I) (onHost host route x) :=
  keeps_locked h ⟨fun w hw => h.mapping w _ hw⟩

theorem keeps_readControls (f : ControlRuntimeState → α) :
    Preserves (Holds I) (readControls host route f) :=
  keeps_locked h (Preserves.reads _)

theorem keeps_onControls {f : ControlRuntimeState → α × ControlRuntimeState}
    (hf : ∀ c, SameTurns c (f c).2) : Preserves (Holds I) (onControls host route f) :=
  keeps_locked h (Preserves.update fun w hw => h.controls w _ (hf w.controls) hw)

theorem keeps_editControls {f : ControlRuntimeState → ControlRuntimeState}
    (hf : ∀ c, SameTurns c (f c)) : Preserves (Holds I) (editControls host route f) :=
  keeps_locked h (Preserves.modify fun w hw => h.controls w _ (hf w.controls) hw)

theorem keeps_writeText (frame : Value) : Preserves (Holds I) (writeText frame : Work B Unit) :=
  keeps_write h.writes frame

/-- A request that starts no turn. -/
theorem keeps_send (expected : ExpectedResponse) (params : Value) {kind : PendingControl}
    (hkind : kind.startsTurn = none) :
    Preserves (Holds I) (sendControlRequest schema expected params kind : Work B Unit) :=
  h.asks expected params kind hkind

theorem keeps_publishSystemForSession (context : Context) (text : String) :
    Preserves (Holds I) (publishSystemForSession host route context text) := by
  cases context with
  | none => exact Preserves.pure _
  | some context => exact keeps_onMapping h _

theorem keeps_report (session : SessionId) (text : String) :
    Preserves (Holds I) (report host route session text) :=
  Preserves.bind (keeps_onMapping h _) fun context =>
    keeps_publishSystemForSession h context text

end Sections

theorem sameTurns_updateDefaults (session : SessionId) (f : TurnDefaults → TurnDefaults)
    (c : ControlRuntimeState) : SameTurns c (c.updateDefaults session f) := ⟨rfl, rfl, rfl⟩

theorem sameTurns_updateLocal (f : LocalInteractions → LocalInteractions)
    (c : ControlRuntimeState) : SameTurns c (c.updateLocal f) := ⟨rfl, rfl, rfl⟩

theorem sameTurns_popCommand (c : ControlRuntimeState) : SameTurns c c.popCommand.2 := by
  unfold ControlRuntimeState.popCommand
  split <;> exact ⟨rfl, rfl, rfl⟩

section Choices

variable (h : Quiet host schema route I)
include h

theorem keeps_showChoice (choice : LocalChoice) :
    Preserves (Holds I) (showChoice host route choice) := by
  apply Preserves.bind (keeps_readControls h _)
  intro old
  apply Preserves.bind
  · apply Preserves.forEach
    intro id _
    exact Preserves.bind (keeps_onMapping h _) fun _ =>
      keeps_editControls h (sameTurns_updateLocal _)
  intro _
  apply Preserves.bind (keeps_readControls h _)
  intro shown
  apply Preserves.ite (fun _ => keeps_report h _ _)
  intro _
  apply Preserves.bind (keeps_editControls h (sameTurns_updateLocal _))
  intro _
  apply Preserves.bind (Preserves.attempt (keeps_onMapping h _))
  intro result
  cases result with
  | ok _ => exact Preserves.pure _
  | error error =>
    exact Preserves.bind (keeps_editControls h (sameTurns_updateLocal _)) fun _ => Preserves.fail _

theorem keeps_showModels (session : SessionId) (catalog : Value) :
    Preserves (Holds I) (showModels host route session catalog) := by
  apply Preserves.bind (keeps_onMapping h _)
  intro context
  cases context with
  | none => exact Preserves.pure _
  | some context =>
    apply Preserves.bind (keeps_readControls h _)
    intro explicit
    apply Preserves.bind
    · cases explicit with
      | some model => exact Preserves.pure _
      | none => exact keeps_onMapping h _
    intro current
    apply Preserves.ite (fun _ => keeps_report h _ _)
    intro _
    exact Preserves.bind (keeps_onHost h _) fun choice => keeps_showChoice h choice

theorem keeps_reviseSession (live : List (InteractionId × String × Bool)) (session : SessionId) :
    Preserves (Holds I) (reviseSession host route live session) := by
  apply Preserves.bind (keeps_onMapping h _)
  intro context
  cases context with
  | none => exact Preserves.pure _
  | some context =>
    apply Preserves.bind (keeps_onMapping h _)
    intro waiting
    apply Preserves.when
    intro _
    apply Preserves.bind (keeps_editControls h (sameTurns_updateDefaults _ _))
    intro _
    apply Preserves.bind (keeps_onMapping h _)
    intro _
    exact Preserves.forEach fun entry _ => Preserves.when fun _ => keeps_onMapping h _

theorem keeps_implementPlan (session : SessionId) (thread : String)
    (hplan : ∀ params, Preserves (Holds I) (startPlan host schema route session thread params)) :
    Preserves (Holds I) (implementPlan host schema route session thread) := by
  apply Preserves.bind (keeps_onMapping h _)
  intro waiting
  apply Preserves.when
  intro _
  apply Preserves.bind (keeps_readControls h _)
  intro defaults
  apply Preserves.bind (keeps_onMapping h _)
  intro settings
  apply Preserves.ite (fun _ => keeps_report h _ _)
  intro _
  exact Preserves.bind (Preserves.ofExcept _) hplan

variable (hplan : ∀ session thread params,
  Preserves (Holds I) (startPlan host schema route session thread params))
include hplan

theorem keeps_localAction (session : SessionId) (thread : String) (action : LocalAction) :
    Preserves (Holds I) (localAction host schema route session thread action) := by
  cases action with
  | implement => exact keeps_implementPlan h session thread (hplan session thread)
  | revise =>
    apply Preserves.bind (keeps_editControls h (sameTurns_updateDefaults _ _))
    intro _
    apply Preserves.bind (keeps_onMapping h _)
    intro _
    exact Preserves.bind (keeps_onMapping h _) fun _ => keeps_report h _ _
  | model model =>
    exact Preserves.bind (keeps_onHost h _) fun choice => keeps_showChoice h choice
  | selectModel model effort => exact keeps_send h _ _ rfl
  | models => exact keeps_send h _ _ rfl
  | cancel => exact keeps_report h _ _

theorem keeps_localResponse (response : InteractionResponse) (action : LocalAction) :
    Preserves (Holds I) (localResponse host schema route response action) := by
  apply Preserves.bind (keeps_onControls h fun c => ⟨rfl, rfl, rfl⟩)
  intro choice
  cases choice with
  | none => exact Preserves.pure _
  | some choice =>
    apply Preserves.bind (keeps_onMapping h _)
    intro live
    exact Preserves.when fun _ => keeps_localAction h hplan _ _ action

theorem keeps_localResponses (fuel : Nat) :
    Preserves (Holds I) (localResponses host schema route fuel) := by
  induction fuel with
  | zero => exact Preserves.fail _
  | succ fuel ih =>
    apply Preserves.bind (keeps_onControls h fun c => ⟨rfl, rfl, rfl⟩)
    intro next
    cases next with
    | none => exact Preserves.pure _
    | some next => exact Preserves.bind (keeps_localResponse h hplan _ _) fun _ => ih

omit hplan in
theorem keeps_offerPlan (session : SessionId) (thread : String) :
    Preserves (Holds I) (offerPlan host route session thread) := by
  apply Preserves.bind (keeps_readControls h _)
  intro offered
  apply Preserves.ite (fun _ => Preserves.pure _)
  intro _
  apply Preserves.bind (keeps_readControls h _)
  intro inflight
  apply Preserves.ite (fun _ => Preserves.pure _)
  intro _
  exact Preserves.bind (keeps_onHost h _) fun choice => keeps_showChoice h choice

theorem keeps_flushLocalChoices (fuel : Nat) :
    Preserves (Holds I) (flushLocalChoices host schema route fuel) := by
  apply Preserves.bind (keeps_onMapping h _)
  intro live
  apply Preserves.bind (keeps_onControls h fun c => ⟨rfl, rfl, rfl⟩)
  intro revisions
  apply Preserves.bind (Preserves.forEach fun session _ => keeps_reviseSession h live session)
  intro _
  apply Preserves.bind (keeps_localResponses h hplan fuel)
  intro _
  apply Preserves.bind (keeps_onMapping h _)
  intro current
  apply Preserves.bind (keeps_editControls h (sameTurns_updateLocal _))
  intro _
  apply Preserves.bind (keeps_onMapping h _)
  intro plans
  exact Preserves.forEach fun plan _ => keeps_offerPlan h plan.1 plan.2

end Choices

section Commands

variable (h : Quiet host schema route I)
include h

omit h in
theorem keeps_forThread {context : Context} {x : String → Work B Unit}
    (hx : ∀ thread, Preserves (Holds I) (x thread)) :
    Preserves (Holds I) (forThread context x) := by
  cases context with
  | none => exact Preserves.pure _
  | some context => exact hx _

omit h in
theorem keeps_forTurn {context : Context} {x : String → String → Work B Unit}
    {otherwise : Work B Unit} (hx : ∀ thread turn, Preserves (Holds I) (x thread turn))
    (hotherwise : Preserves (Holds I) otherwise) :
    Preserves (Holds I) (forTurn context x otherwise) := by
  unfold forTurn
  split
  · exact hx _ _
  · exact hotherwise

theorem keeps_runCommand (command : AgentCommand) :
    Preserves (Holds I) (runCommand host schema route command) := by
  apply Preserves.bind (keeps_onMapping h _)
  intro context
  cases command.payload with
  | selectModel model effort => exact keeps_send h _ _ rfl
  | setPlanMode enabled =>
    apply Preserves.bind (keeps_editControls h (sameTurns_updateDefaults _ _))
    intro _
    apply Preserves.bind (keeps_forThread fun thread => keeps_onMapping h _)
    intro _
    exact keeps_publishSystemForSession h _ _
  | selectPermissionProfile profile =>
    apply Preserves.bind (keeps_editControls h (sameTurns_updateDefaults _ _))
    intro _
    exact keeps_publishSystemForSession h _ _
  | queue action =>
    exact Preserves.bind (keeps_readControls h _) fun _ => keeps_publishSystemForSession h _ _
  | status =>
    apply Preserves.bind (keeps_readControls h _)
    intro defaults
    exact Preserves.bind (keeps_readControls h _) fun _ => keeps_publishSystemForSession h _ _
  | listModels => exact keeps_send h _ _ rfl
  | listPermissionProfiles => exact keeps_send h _ _ rfl
  | listThreads cursor => exact keeps_send h _ _ rfl
  | resumeThread threadId =>
    exact Preserves.bind (keeps_onMapping h _) fun _ => keeps_send h _ _ rfl
  | startThread cwd =>
    exact Preserves.bind (keeps_readControls h _) fun _ => keeps_send h _ _ rfl
  | compact => exact keeps_forThread fun thread => keeps_send h _ _ rfl
  | review instructions => exact keeps_forThread fun thread => keeps_send h _ _ rfl
  | rename name => exact keeps_forThread fun thread => keeps_send h _ _ rfl
  | fork => exact keeps_forThread fun thread => keeps_send h _ _ rfl
  | cancelSession reason =>
    apply Preserves.bind (keeps_forThread fun thread => keeps_onMapping h _)
    intro _
    exact keeps_forTurn (fun thread turn => keeps_send h _ _ rfl) (Preserves.pure _)
  | submitPrompt text delivery =>
    cases delivery with
    | queue => exact Preserves.pure _
    | steer =>
      apply keeps_forTurn
      · intro thread turn
        exact Preserves.bind (keeps_send h _ _ rfl) fun _ => keeps_onMapping h _
      · exact keeps_publishSystemForSession h _ _

theorem keeps_commandLoop (fuel : Nat) :
    Preserves (Holds I) (commandLoop host schema route fuel) := by
  induction fuel with
  | zero => exact Preserves.fail _
  | succ fuel ih =>
    apply Preserves.bind (keeps_onControls h sameTurns_popCommand)
    intro command
    cases command with
    | none => exact Preserves.pure _
    | some command =>
      apply Preserves.bind (keeps_note h rfl)
      intro _
      exact Preserves.bind (keeps_runCommand h command) fun _ => ih

end Commands

/-- The sections about turns. What the answer to a taken request may rely on is
`Claimed`. -/
structure KeepsTurns (host : ProviderHost B) (schema : ProtocolSchema) (route : ApprovalRoute)
    (I : Worker B → Prop) (Claimed : PendingControl → Worker B → Prop) : Prop where
  observe : ∀ session active, Preserves (Holds I) (observeTurn host route session active)
  plan : ∀ session thread params,
    Preserves (Holds I) (startPlan host schema route session thread params)
  dispatch : Preserves (Holds I) (readControls host route ControlRuntimeState.queuedSessions >>=
    Program.forEach (dispatchPrompt host schema route))
  take : ∀ id message, Triple (Holds I) (takePending id message : Work B PendingControl)
    (fun kind => Holds fun w => I w ∧ Claimed kind w) fun _ => Holds I
  turnAccepted : ∀ session threadId prompt,
    Triple (Holds fun w => I w ∧ Claimed (.turnStart session threadId prompt) w)
      (turnAccepted host route session threadId prompt) (fun _ => Holds I) fun _ => Holds I
  turnRejected : ∀ session threadId prompt,
    Triple (Holds fun w => I w ∧ Claimed (.turnStart session threadId prompt) w)
      (turnRejected host route session prompt) (fun _ => Holds I) fun _ => Holds I
  planAccepted : ∀ session threadId,
    Triple (Holds fun w => I w ∧ Claimed (.implementPlan session threadId) w)
      (planAccepted host route session threadId) (fun _ => Holds I) fun _ => Holds I
  planRejected : ∀ session threadId,
    Triple (Holds fun w => I w ∧ Claimed (.implementPlan session threadId) w)
      (planRejected host route session) (fun _ => Holds I) fun _ => Holds I

/-- The sections about turns that a flush goes through. -/
structure KeepsPrompts (host : ProviderHost B) (schema : ProtocolSchema) (route : ApprovalRoute)
    (I : Worker B → Prop) : Prop where
  observe : ∀ session active, Preserves (Holds I) (observeTurn host route session active)
  plan : ∀ session thread params,
    Preserves (Holds I) (startPlan host schema route session thread params)
  dispatch : Preserves (Holds I) (readControls host route ControlRuntimeState.queuedSessions >>=
    Program.forEach (dispatchPrompt host schema route))

/-- The sections about turns that an answer goes through. -/
structure KeepsAnswers (host : ProviderHost B) (route : ApprovalRoute) (I : Worker B → Prop)
    (Claimed : PendingControl → Worker B → Prop) : Prop where
  turnAccepted : ∀ session threadId prompt,
    Triple (Holds fun w => I w ∧ Claimed (.turnStart session threadId prompt) w)
      (turnAccepted host route session threadId prompt) (fun _ => Holds I) fun _ => Holds I
  turnRejected : ∀ session threadId prompt,
    Triple (Holds fun w => I w ∧ Claimed (.turnStart session threadId prompt) w)
      (turnRejected host route session prompt) (fun _ => Holds I) fun _ => Holds I
  planAccepted : ∀ session threadId,
    Triple (Holds fun w => I w ∧ Claimed (.implementPlan session threadId) w)
      (planAccepted host route session threadId) (fun _ => Holds I) fun _ => Holds I
  planRejected : ∀ session threadId,
    Triple (Holds fun w => I w ∧ Claimed (.implementPlan session threadId) w)
      (planRejected host route session) (fun _ => Holds I) fun _ => Holds I

namespace KeepsTurns

variable {Claimed : PendingControl → Worker B → Prop} (ht : KeepsTurns host schema route I Claimed)
include ht

theorem prompts : KeepsPrompts host schema route I := ⟨ht.observe, ht.plan, ht.dispatch⟩

theorem answers : KeepsAnswers host route I Claimed :=
  ⟨ht.turnAccepted, ht.turnRejected, ht.planAccepted, ht.planRejected⟩

end KeepsTurns

/-- Knowledge about a taken request that is not used. -/
theorem triple_of_keeps {x : Work B Unit} {C : Worker B → Prop} (hx : Preserves (Holds I) x) :
    Triple (Holds fun w => I w ∧ C w) x (fun _ => Holds I) fun _ => Holds I :=
  (Triple.of_preserves hx).weaken (fun _ hs => hs.1) (fun _ _ hs => hs) fun _ _ hs => hs

/-- What every section about controls and the log keeps, and every request. -/
structure Indifferent (host : ProviderHost B) (schema : ProtocolSchema) (route : ApprovalRoute)
    (I : Worker B → Prop) : Prop where
  mapping : ∀ w mapping, I w → I { w with mapping := mapping }
  writes : ∀ w writes, I w → I { w with writes := writes }
  controls : ∀ w controls, I w → I { w with controls := controls }
  record : ∀ w entry, I w → I (w.record entry)
  foreign : ∀ step w, I w → I (w.foreign host route step)
  asks : ∀ expected params kind,
    Preserves (Holds I) (sendControlRequest schema expected params kind : Work B Unit)

namespace Indifferent

variable (h : Indifferent host schema route I)
include h

theorem quiet : Quiet host schema route I where
  mapping := h.mapping
  writes := h.writes
  controls w controls _ := h.controls w controls
  remark w entry _ := h.record w entry
  foreign := h.foreign
  asks expected params kind _ := h.asks expected params kind

theorem keepsNote (entry : Record) : Preserves (Holds I) (note entry : Work B Unit) :=
  keeps_record fun w hw => h.record w entry hw

theorem keepsControls (f : ControlRuntimeState → ControlRuntimeState) :
    Preserves (Holds I) (editControls host route f) :=
  keeps_locked h.quiet (Preserves.modify fun w hw => h.controls w _ hw)

theorem keepsStartPrompt (session : SessionId) (thread : String) (prompt : QueuedPrompt)
    (params : Value) :
    Preserves (Holds I) (startPrompt host schema route session thread prompt params) := by
  apply Preserves.bind (h.asks _ _ _)
  intro _
  exact Preserves.bind (h.keepsNote _) fun _ => h.keepsControls _

theorem keepsDispatch (session : SessionId) :
    Preserves (Holds I) (dispatchPrompt host schema route session) := by
  have hpick : Preserves (Holds I) (pickPrompt host route session) := by
    apply keeps_locked h.quiet
    apply Preserves.update
    intro w hw
    split
    · exact hw
    · exact h.record w _ hw
  apply Preserves.bind (keeps_onMapping h.quiet _)
  intro context
  split
  · apply Preserves.bind (keeps_onMapping h.quiet _)
    intro waiting
    apply Preserves.ite (fun _ => Preserves.pure _)
    intro _
    apply Preserves.bind hpick
    intro prompt
    cases prompt with
    | none => exact Preserves.pure _
    | some prompt =>
      apply Preserves.bind (keeps_readControls h.quiet _)
      intro defaults
      apply Preserves.bind (keeps_onMapping h.quiet _)
      intro settings
      apply Preserves.bind (h.keepsNote _)
      intro _
      exact Preserves.bind (Preserves.ofExcept _) fun params => h.keepsStartPrompt _ _ _ _
  · exact Preserves.pure _

theorem keepsPrompts : KeepsPrompts host schema route I where
  observe session active := by
    apply keeps_locked h.quiet
    apply Preserves.modify
    intro w hw
    dsimp only
    split
    · exact h.record _ _ (h.controls w _ hw)
    · exact h.controls w _ hw
  plan session thread params := by
    apply Preserves.bind (h.asks _ _ _)
    intro _
    exact Preserves.bind (h.keepsNote _) fun _ => h.keepsControls _
  dispatch := by
    apply Preserves.bind (keeps_readControls h.quiet _)
    intro sessions
    exact Preserves.forEach fun session _ => h.keepsDispatch session

theorem keepsTurnAccepted (session : SessionId) (threadId : String) (prompt : QueuedPrompt) :
    Preserves (Holds I) (turnAccepted host route session threadId prompt) := by
  have hpop : Preserves (Holds I) (popAccepted host route session prompt) := by
    apply keeps_locked h.quiet
    exact Preserves.update fun w hw => h.record _ _ (h.controls w _ hw)
  apply Preserves.bind (keeps_onMapping h.quiet _)
  intro _
  apply Preserves.bind hpop
  intro removed
  exact Preserves.ite (fun _ => Preserves.fail _) fun _ => keeps_onMapping h.quiet _

theorem keepsAnswers : KeepsAnswers host route I fun _ _ => True where
  turnAccepted session threadId prompt :=
    triple_of_keeps (h.keepsTurnAccepted session threadId prompt)
  turnRejected session threadId prompt := by
    apply triple_of_keeps
    exact keeps_locked h.quiet (Preserves.modify fun w hw => h.record _ _ (h.controls w _ hw))
  planAccepted session threadId := by
    apply triple_of_keeps
    apply Preserves.bind (h.keepsNote _)
    intro _
    apply Preserves.bind (h.keepsControls _)
    intro _
    exact Preserves.bind (keeps_onMapping h.quiet _) fun _ => keeps_onMapping h.quiet _
  planRejected session threadId := by
    apply triple_of_keeps
    exact Preserves.bind (h.keepsNote _) fun _ => h.keepsControls _

end Indifferent

section Flush

variable {Claimed : PendingControl → Worker B → Prop} (h : Quiet host schema route I)
include h

theorem keeps_flushControlCommands (ht : KeepsPrompts host schema route I) (fuel : Nat) :
    Preserves (Holds I) (flushControlCommands host schema route fuel) := by
  apply Preserves.bind (keeps_onMapping h _)
  intro discovered
  apply Preserves.bind (Preserves.forEach fun entry _ => keeps_send h _ _ rfl)
  intro _
  apply Preserves.bind (keeps_alone (Preserves.reads _))
  intro awaits
  apply Preserves.ite (fun _ => Preserves.pure _)
  intro _
  apply Preserves.bind (keeps_readControls h _)
  intro inflight
  apply Preserves.bind
  · apply Preserves.forEach
    intro session _
    exact Preserves.bind (keeps_onMapping h _) fun active => ht.observe session active
  intro _
  apply Preserves.bind (keeps_flushLocalChoices h ht.plan fuel)
  intro _
  exact Preserves.bind (keeps_commandLoop h fuel) fun _ => ht.dispatch

theorem keeps_readPage {session : SessionId} {result : Value} {models : List Value}
    {cursors : List String} {kind : List Value → List String → PendingControl}
    {whole : Value → Work B Unit} (hkind : ∀ m c, (kind m c).startsTurn = none)
    (hwhole : ∀ value, Preserves (Holds I) (whole value)) :
    Preserves (Holds I) (readPage host schema route session result models cursors kind whole) := by
  unfold readPage
  cases catalogPage result models cursors with
  | report text => exact keeps_report h _ _
  | next cursor models cursors => exact keeps_send h _ _ (hkind _ _)
  | whole models => exact hwhole _

theorem keeps_modelSelected (session : SessionId) (model : String) (effort : Option String)
    (result : Value) : Preserves (Holds I) (modelSelected host route session model effort result) := by
  apply Preserves.bind (keeps_onMapping h _)
  intro context
  cases validateModelSelection result model effort with
  | ok _ =>
    apply Preserves.bind (keeps_editControls h (sameTurns_updateDefaults _ _))
    intro _
    exact keeps_publishSystemForSession h _ _
  | error message => exact keeps_publishSystemForSession h _ _

theorem keeps_threadResumed (result : Value) :
    Preserves (Holds I) (threadResumed host schema route result) := by
  apply Preserves.bind (Preserves.ofExcept _)
  intro threadId
  apply Preserves.bind (keeps_onMapping h _)
  intro tracked
  apply Preserves.bind (keeps_onMapping h _)
  intro _
  apply Preserves.ite (fun _ => Preserves.pure _)
  intro _
  apply Preserves.bind (keeps_onMapping h _)
  intro session
  cases session with
  | none => exact Preserves.fail _
  | some session => exact keeps_send h _ _ rfl

theorem keeps_historyPage (session : SessionId) (threadId : String) (result : Value) :
    Preserves (Holds I) (historyPage host schema route session threadId result) := by
  unfold historyPage
  split
  · exact Preserves.fail _
  · apply Preserves.bind (keeps_onMapping h _)
    intro _
    split
    · exact Preserves.pure _
    · exact keeps_send h _ _ rfl

theorem triple_controlResponse (ht : KeepsAnswers host route I Claimed)
    (expected : ExpectedResponse) (result : Value) (kind : PendingControl) :
    Triple (Holds fun w => I w ∧ Claimed kind w)
      (controlResponse host schema route expected result kind) (fun _ => Holds I)
      fun _ => Holds I := by
  cases kind with
  | models session models cursors =>
    exact triple_of_keeps
      (keeps_readPage h (fun _ _ => rfl) fun value => keeps_showModels h session value)
  | selectModel session model effort models cursors =>
    exact triple_of_keeps
      (keeps_readPage h (fun _ _ => rfl) fun value => keeps_modelSelected h session model effort value)
  | implementPlan session threadId => exact ht.planAccepted session threadId
  | report session =>
    apply triple_of_keeps
    apply Preserves.bind (keeps_onMapping h _)
    intro currentCwd
    exact Preserves.bind (Preserves.ofExcept _) fun text => keeps_report h _ _
  | observeThread session threadId => exact triple_of_keeps (keeps_onMapping h _)
  | resumeThread session => exact triple_of_keeps (keeps_threadResumed h result)
  | startThread =>
    exact triple_of_keeps (Preserves.bind (Preserves.ofExcept _) fun threadId =>
      keeps_onMapping h _)
  | forkThread =>
    exact triple_of_keeps (Preserves.bind (Preserves.ofExcept _) fun threadId =>
      keeps_onMapping h _)
  | turnStart session threadId prompt => exact ht.turnAccepted session threadId prompt
  | silent session => exact triple_of_keeps (Preserves.pure _)
  | historyItems session threadId =>
    exact triple_of_keeps (keeps_historyPage h session threadId result)

theorem keeps_processControlResponse (ht : KeepsTurns host schema route I Claimed) (id : RequestId)
    (expected : ExpectedResponse) (result : Value) :
    Preserves (Holds I) (processControlResponse host schema route id expected result) :=
  Triple.preserves (Triple.bind (ht.take id _) fun kind =>
    triple_controlResponse h ht.answers expected result kind)

theorem keeps_observerRejected (session : SessionId) (threadId : String) (code : Int)
    (message : String) :
    Preserves (Holds I) (observerRejected host route session threadId code message) := by
  unfold observerRejected
  apply Preserves.ite (fun _ => keeps_onMapping h _)
  intro _
  apply Preserves.ite (fun _ => Preserves.pure _)
  intro _
  exact Preserves.bind (keeps_report h _ _) fun _ => keeps_onMapping h _

theorem triple_controlError (ht : KeepsAnswers host route I Claimed) (expected : ExpectedResponse)
    (code : Int) (message : String) (kind : PendingControl) :
    Triple (Holds fun w => I w ∧ Claimed kind w)
      (controlError host route expected code message kind) (fun _ => Holds I)
      fun _ => Holds I := by
  have hreport : ∀ session text, Triple (Holds I) (report host route session text)
      (fun _ => Holds I) fun _ => Holds I :=
    fun session text => Triple.of_preserves (keeps_report h session text)
  cases kind with
  | observeThread session threadId =>
    exact triple_of_keeps (keeps_observerRejected h session threadId code message)
  | implementPlan session threadId =>
    exact Triple.bind (ht.planRejected session threadId) fun _ => hreport session _
  | report session => exact triple_of_keeps (keeps_report h _ _)
  | models session models cursors => exact triple_of_keeps (keeps_report h _ _)
  | selectModel session model effort models cursors => exact triple_of_keeps (keeps_report h _ _)
  | silent session => exact triple_of_keeps (keeps_report h _ _)
  | historyItems session threadId => exact triple_of_keeps (keeps_report h _ _)
  | resumeThread session => exact triple_of_keeps (keeps_report h _ _)
  | turnStart session threadId prompt =>
    exact Triple.bind (ht.turnRejected session threadId prompt) fun _ => hreport session _
  | startThread => exact triple_of_keeps (Preserves.pure _)
  | forkThread => exact triple_of_keeps (Preserves.pure _)

theorem keeps_processControlError (ht : KeepsTurns host schema route I Claimed) (id : RequestId)
    (expected : ExpectedResponse) (code : Int) (message : String) :
    Preserves (Holds I) (processControlError host route id expected code message) :=
  Triple.preserves (Triple.bind (ht.take id _) fun kind =>
    triple_controlError h ht.answers expected code message kind)

end Flush

/-- The sections at the registry of approvals. -/
structure KeepsRegistry (host : ProviderHost B) (route : ApprovalRoute) (I : Worker B → Prop) :
    Prop where
  apply : ∀ w (op : ApprovalOp), I w → I { w with approvals := op.apply w.approvals }
  popOutbound : Preserves (Holds I) (popOutbound host route)
  marked : ∀ w id, I w → I (w.record (.marked id))

section Interactions

variable (h : Quiet host schema route I) (hr : KeepsRegistry host route I)
include h

theorem keeps_publishClosed (closed : ClosedApproval) (reason : InteractionCloseReason) :
    Preserves (Holds I) (publishClosed host route closed reason) :=
  Preserves.bind (keeps_note h rfl) fun _ => keeps_onMapping h _

theorem keeps_publishAllClosed (closed : List ClosedApproval) :
    Preserves (Holds I) (publishAllClosed host route closed) :=
  Preserves.forEach fun entry _ =>
    Preserves.bind (Preserves.attempt (keeps_publishClosed h entry _)) fun _ => Preserves.pure _

include hr

/-- A section that does what one operation of the registry does. -/
theorem keeps_onApprovals {f : ApprovalRuntimeState → Sourced α × ApprovalRuntimeState}
    (op : ApprovalOp) (hf : ∀ s, (f s).2 = op.apply s) :
    Preserves (Holds I) (onApprovals host route f) := by
  apply keeps_locked h
  constructor
  intro w hw
  show I { w with approvals := (f w.approvals).2 }
  rw [hf]
  exact hr.apply w op hw

theorem keeps_publishPrepared (requestId : RequestId) (method : String)
    (prepared : PreparedApproval) :
    Preserves (Holds I) (publishPrepared host route requestId method prepared) := by
  apply Preserves.bind
    (keeps_onApprovals h hr (.register route requestId method prepared) fun _ => rfl)
  intro _
  apply Preserves.bind (Preserves.attempt (keeps_onMapping h _))
  intro result
  cases result with
  | ok _ => exact Preserves.pure _
  | error error =>
    exact Preserves.bind (keeps_onApprovals h hr (.remove prepared.request.id) fun _ => rfl)
      fun _ => Preserves.fail _

theorem keeps_processApprovalRequest (answers : Bool) (requestId : RequestId) (method : String)
    (params : Value) :
    Preserves (Holds I)
      (processApprovalRequest host schema route answers requestId method params) := by
  apply Preserves.bind (Preserves.ofExcept _)
  intro threadId
  apply Preserves.bind (Preserves.ofExcept _)
  intro turnId
  apply Preserves.bind (Preserves.ofExcept _)
  intro itemId
  apply Preserves.bind (keeps_onMapping h _)
  intro context
  cases context with
  | none =>
    apply Preserves.when
    intro _
    exact Preserves.bind (Preserves.ofExcept _) fun frame => keeps_writeText h frame
  | some context =>
    exact Preserves.bind (keeps_onHost h _) fun prepared =>
      keeps_publishPrepared h hr requestId method prepared

theorem keeps_sendOutbound (outbound : OutboundApproval) :
    Preserves (Holds I) (sendOutbound host schema route outbound) := by
  apply Preserves.bind (Preserves.ofExcept _)
  intro frame
  apply Preserves.bind (keeps_writeText h frame)
  intro _
  apply Preserves.bind (keeps_onApprovals h hr (.markSent outbound.interactionId) fun _ => rfl)
  intro _
  exact keeps_alone (Preserves.modify fun w hw => hr.marked w _ hw)

theorem keeps_flushApprovalResponses (fuel : Nat) :
    Preserves (Holds I) (flushApprovalResponses host schema route fuel) := by
  induction fuel with
  | zero => exact Preserves.fail _
  | succ fuel ih =>
    apply Preserves.bind hr.popOutbound
    intro outbound
    cases outbound with
    | none => exact Preserves.pure _
    | some outbound => exact Preserves.bind (keeps_sendOutbound h hr outbound) fun _ => ih

theorem keeps_processResolvedNotification (params : Value) :
    Preserves (Holds I) (processResolvedNotification host route params) := by
  apply Preserves.bind (Preserves.ofExcept _)
  intro threadId
  apply Preserves.bind (Preserves.ofExcept _)
  intro requestId
  apply Preserves.bind (keeps_onApprovals h hr (.resolve route requestId threadId) fun _ => rfl)
  intro resolved
  cases resolved with
  | none => exact Preserves.pure _
  | some resolved =>
    cases resolved with
    | responded threadId response => exact keeps_onMapping h _
    | closed threadId sessionId id => exact keeps_publishClosed h _ _
    | respondedForm threadId sessionId id => exact keeps_publishClosed h _ _

theorem keeps_lifecycleClosed (method : String) (params : Value) :
    Preserves (Holds I) (lifecycleClosed host route method params) := by
  unfold lifecycleClosed
  apply Preserves.ite
  · intro _
    apply Preserves.bind (Preserves.ofExcept _)
    intro threadId
    apply Preserves.bind (Preserves.ofExcept _)
    intro turnId
    apply Preserves.bind (Preserves.ofExcept _)
    intro itemId
    exact keeps_onApprovals h hr (.closeItem threadId turnId itemId) fun _ => rfl
  intro _
  apply Preserves.ite
  · intro _
    apply Preserves.bind (Preserves.ofExcept _)
    intro threadId
    apply Preserves.bind (Preserves.ofExcept _)
    intro turnId
    exact keeps_onApprovals h hr (.closeTurn threadId turnId) fun _ => rfl
  intro _
  apply Preserves.ite
  · intro _
    apply Preserves.bind (Preserves.ofExcept _)
    intro threadId
    exact keeps_onApprovals h hr (.closeThread threadId) fun _ => rfl
  intro _
  exact Preserves.pure _

theorem keeps_processNotification (method : String) (params : Value) :
    Preserves (Holds I) (processNotification host route method params) := by
  unfold processNotification
  apply Preserves.ite (fun _ => keeps_processResolvedNotification h hr params)
  intro _
  apply Preserves.bind
  · apply Preserves.bind (keeps_lifecycleClosed h hr method params)
    intro closed
    exact Preserves.forEach fun entry _ => keeps_publishClosed h entry _
  intro _
  exact Preserves.bind (keeps_onMapping h _) fun _ => Preserves.pure _

end Interactions

theorem keeps_outcome {x : Work B Unit} (hx : Preserves (Holds I) x) :
    Preserves (Holds I) (outcome x) := by
  apply Preserves.bind (Preserves.attempt hx)
  intro result
  cases result with
  | ok _ => exact Preserves.pure _
  | error halt =>
    cases halt with
    | source error => exact Preserves.pure _
    | unfinished => exact Preserves.fail _

theorem keeps_leave (h : Quiet host schema route I) (hr : KeepsRegistry host route I)
    (exit : WorkerExit) : Preserves (Holds I) (leave host route exit) := by
  have hclose : Preserves (Holds I) (closeAllApprovals host route) :=
    Preserves.bind (keeps_onApprovals h hr .closeAll fun _ => rfl) fun closed =>
      keeps_publishAllClosed h closed
  cases exit with
  | stopped => exact hclose
  | approvalsFailed error => exact Preserves.bind hclose fun _ => keeps_onMapping h _
  | controlsFailed error => exact keeps_onMapping h _
  | readFailed error => exact Preserves.bind hclose fun _ => keeps_onMapping h _

section Loop

variable (h : Neutral host route I) (hr : KeepsRegistry host route I)
  {Claimed : PendingControl → Worker B → Prop} (ht : KeepsTurns host schema route I Claimed)
include h hr ht

theorem keeps_processLiveFrame (text : ParsedText) :
    Preserves (Holds I) (processLiveFrame host schema route text) := by
  have hq : Quiet host schema route I := quiet_of_neutral h
  apply Preserves.bind (keeps_onProtocol h _)
  intro frame
  cases frame with
  | notification method params => exact keeps_processNotification hq hr method params
  | request id method params =>
    apply Preserves.ite (fun _ => keeps_processApprovalRequest hq hr _ _ _ _)
    intro _
    exact Preserves.bind (Preserves.ofExcept _) fun frame => keeps_writeText hq frame
  | response id expected result => exact keeps_processControlResponse hq ht id expected result
  | error id expected code message => exact keeps_processControlError hq ht id expected code message

theorem keeps_readFrame (read : ReadOutcome) :
    Preserves (Holds I) (readFrame host schema route read) := by
  cases read with
  | timeout => exact Preserves.pure _
  | closed => exact Preserves.fail _
  | text text => exact keeps_processLiveFrame h hr ht text
  | failed message => exact Preserves.fail _

theorem keeps_workerRound (fuel : Nat) (round : Round) :
    Preserves (Holds I) (workerRound host schema route fuel round) := by
  apply Preserves.ite (fun _ => Preserves.pure _)
  intro _
  apply Preserves.bind (keeps_outcome (keeps_flushApprovalResponses (quiet_of_neutral h) hr fuel))
  intro failure
  cases failure with
  | some error => exact Preserves.pure _
  | none =>
    apply Preserves.bind (keeps_outcome (keeps_flushControlCommands (quiet_of_neutral h) ht.prompts fuel))
    intro failure
    cases failure with
    | some error => exact Preserves.pure _
    | none =>
      apply Preserves.bind (keeps_outcome (keeps_readFrame h hr ht round.read))
      intro failure
      cases failure with
      | none => exact Preserves.pure _
      | some error => exact Preserves.pure _

/-- The whole loop keeps what its sections keep. -/
theorem keeps_workerLoop (fuel : Nat) (rounds : List Round) :
    Preserves (Holds I) (workerLoop host schema route fuel rounds) := by
  induction rounds with
  | nil => exact Preserves.fail _
  | cons round rest ih =>
    apply Preserves.bind (keeps_workerRound h hr ht fuel round)
    intro exit
    cases exit with
    | some exit => exact Preserves.pure _
    | none => exact ih

end Loop

end Work

end Codex

end AgentPulse
