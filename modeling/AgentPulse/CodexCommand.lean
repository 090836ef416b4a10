import AgentPulse.CodexControl

/-!
# Rejected commands

A prompt is checked against its limits before it is queued. An edit of a prompt
queue takes effect before its command is checked against the room of the command
queue, and nothing takes it back when there is no room.
-/
namespace AgentPulse

namespace Codex

namespace ControlRuntimeState

/-- Every part of the state that an operation reads is what it was. A session without an entry
has the queue that a new entry has. -/
structure Unchanged (before after : ControlRuntimeState) : Prop where
  queues : ∀ sessionId, after.queue sessionId = before.queue sessionId
  commands : after.commands = before.commands
  revised : after.reviseRequested = before.reviseRequested
  defaults : after.defaultsOf = before.defaultsOf
  inflight : after.inflightTurns = before.inflightTurns
  choices : after.localInteractions = before.localInteractions

theorem queue_setQueue (self : ControlRuntimeState) (sessionId other : SessionId)
    (queue : PromptQueue) :
    (self.setQueue sessionId queue).queue other =
      if sessionId = other then queue else self.queue other := by
  unfold ControlRuntimeState.queue setQueue
  dsimp only
  rw [OrderedMap.getElem?_insert]
  split <;> rfl

theorem mem_queuedSessions (self : ControlRuntimeState) (sessionId : SessionId) :
    sessionId ∈ self.queuedSessions ↔
      (self.queue sessionId).paused = false ∧ (self.queue sessionId).prompts ≠ [] ∧
        self.inflightTurns.contains sessionId = false := by
  have hentries : sessionId ∈ self.queuedSessions ↔ ∃ queue, self.prompts[sessionId]? = some queue ∧
      (!queue.paused && !queue.prompts.isEmpty && !self.inflightTurns.contains sessionId) = true := by
    unfold queuedSessions
    simp only [List.mem_map, List.mem_filter, Prod.exists, Std.ExtTreeMap.mem_toList_iff_getElem?_eq_some]
    constructor
    · rintro ⟨id, queue, ⟨hfound, hready⟩, rfl⟩
      exact ⟨queue, hfound, hready⟩
    · rintro ⟨queue, hfound, hready⟩
      exact ⟨sessionId, queue, ⟨hfound, hready⟩, rfl⟩
  rw [hentries]
  unfold ControlRuntimeState.queue
  cases self.prompts[sessionId]? with
  | none => simp [PromptQueue.new]
  | some queue => simp [and_assoc]

namespace Unchanged

variable {before after : ControlRuntimeState}

theorem refl (self : ControlRuntimeState) : Unchanged self self :=
  ⟨fun _ => rfl, rfl, rfl, rfl, rfl, rfl⟩

/-- Creating the entry of a session shows in none of its queue's readings. -/
theorem setQueue_self (self : ControlRuntimeState) (sessionId : SessionId) {queue : PromptQueue}
    (h : queue = self.queue sessionId) : Unchanged self (self.setQueue sessionId queue) := by
  refine ⟨?_, rfl, rfl, rfl, rfl, rfl⟩
  intro other
  rw [queue_setQueue]
  split
  · next hsame => rw [h, hsame]
  · rfl

theorem queueSummary (h : Unchanged before after) (sessionId : SessionId) :
    after.queueSummary sessionId = before.queueSummary sessionId := by
  have hsummary : ∀ self : ControlRuntimeState, self.queueSummary sessionId =
      ((self.queue sessionId).prompts.length, (self.queue sessionId).bytes,
        (self.queue sessionId).paused) := by
    intro self
    unfold ControlRuntimeState.queueSummary ControlRuntimeState.queue
    cases self.prompts[sessionId]? <;> rfl
  rw [hsummary, hsummary, h.queues]

theorem frontPrompt (h : Unchanged before after) (sessionId : SessionId) :
    after.frontPrompt sessionId = before.frontPrompt sessionId := by
  have hfront : ∀ self : ControlRuntimeState,
      self.frontPrompt sessionId = (self.queue sessionId).prompts.head? := by
    intro self
    unfold ControlRuntimeState.frontPrompt ControlRuntimeState.queue
    cases self.prompts[sessionId]? <;> rfl
  rw [hfront, hfront, h.queues]

theorem queuedSessions (h : Unchanged before after) (sessionId : SessionId) :
    sessionId ∈ after.queuedSessions ↔ sessionId ∈ before.queuedSessions := by
  rw [mem_queuedSessions, mem_queuedSessions, h.queues, h.inflight]

end Unchanged

/-- The edit of its session's prompt queue that comes before a command is queued. -/
def queueEdit : AgentCommandPayload → Option (PromptQueue → PromptQueue)
  | .queue action => some fun queue => editQueue queue action
  | .cancelSession _ => some fun queue => { queue with paused := true }
  | _ => none

/-- A rejected prompt is not queued. -/
theorem acceptPrompt_rejected (self : ControlRuntimeState) (sessionId : SessionId)
    (text : NonEmptyText) {e : CodexProviderPortError}
    (h : (self.acceptPrompt sessionId text).1 = .error e) :
    Unchanged self (self.acceptPrompt sessionId text).2 := by
  unfold acceptPrompt at h ⊢
  dsimp only at h ⊢
  by_cases hlarge : text.asStr.utf8ByteSize > maxPromptBytes
  · rw [if_pos hlarge]
    exact .refl self
  · rw [if_neg hlarge] at h ⊢
    split at h
    · next hfull =>
      rw [if_pos hfull]
      exact .setQueue_self self sessionId rfl
    · cases h

theorem push_rejected (self : ControlRuntimeState) (command : AgentCommand) :
    (self.push command = (.error (.commandQueueFull maxCommands), self) ∧
        maxCommands ≤ self.commands.length) ∨
      ((self.push command).1 = .ok () ∧ self.commands.length < maxCommands) := by
  unfold push
  by_cases hfull : self.commands.length ≥ maxCommands
  · exact .inl ⟨if_pos hfull, hfull⟩
  · right
    rw [if_neg hfull]
    exact ⟨rfl, Nat.lt_of_not_le hfull⟩

/-- An edited queue and then the command. -/
theorem accept_edit {self : ControlRuntimeState} {command : AgentCommand}
    {edit : PromptQueue → PromptQueue} (h : queueEdit command.payload = some edit) :
    self.accept command =
      (self.setQueue command.sessionId (edit (self.queue command.sessionId))).push command := by
  unfold accept
  cases hpayload : command.payload <;> rw [hpayload] at h <;> cases h <;> rfl

/-- A command that edits no queue and queues no prompt is only pushed. -/
theorem accept_plain (self : ControlRuntimeState) {command : AgentCommand}
    (h : queueEdit command.payload = none) :
    (∃ text, self.accept command = self.acceptPrompt command.sessionId text) ∨
      self.accept command = self.push command := by
  unfold accept
  cases hpayload : command.payload with
  | submitPrompt text delivery =>
    cases delivery with
    | queue => exact .inl ⟨text, rfl⟩
    | steer => exact .inr rfl
  | queue action =>
    rw [hpayload] at h
    cases h
  | cancelSession reason =>
    rw [hpayload] at h
    cases h
  | _ => exact .inr rfl

/-- A rejected command leaves the state as it was exactly when it had room after all, or edits no
prompt queue, or its edit leaves the queue of its session as it is. -/
theorem accept_rejected_unchanged (self : ControlRuntimeState) (command : AgentCommand) :
    (∀ e, (self.accept command).1 = .error e → Unchanged self (self.accept command).2) ↔
      self.commands.length < maxCommands ∨
        ∀ edit, queueEdit command.payload = some edit →
          edit (self.queue command.sessionId) = self.queue command.sessionId := by
  cases hedit : queueEdit command.payload with
  | none =>
    refine iff_of_true ?_ (.inr fun edit hsome => by cases hsome)
    intro e he
    rcases accept_plain self hedit with ⟨text, hprompt⟩ | hpush
    · rw [hprompt] at he ⊢
      exact self.acceptPrompt_rejected command.sessionId text he
    · rw [hpush] at he ⊢
      rcases self.push_rejected command with ⟨hfull, -⟩ | ⟨hok, -⟩
      · rw [hfull]
        exact .refl self
      · rw [hok] at he
        cases he
  | some edit =>
    rw [accept_edit hedit]
    have hcommands : (self.setQueue command.sessionId
        (edit (self.queue command.sessionId))).commands = self.commands := rfl
    rcases (self.setQueue command.sessionId (edit (self.queue command.sessionId))).push_rejected
      command with ⟨hfull, hlong⟩ | ⟨hok, hroom⟩
    · rw [hfull]
      have hnone : ¬ self.commands.length < maxCommands := Nat.not_lt.mpr hlong
      constructor
      · intro h
        right
        rintro found ⟨⟩
        have hqueue := (h _ rfl).queues command.sessionId
        rwa [queue_setQueue, if_pos rfl] at hqueue
      · rintro (hroom | hsame) e -
        · exact absurd hroom hnone
        · exact .setQueue_self self command.sessionId (hsame edit rfl)
    · refine iff_of_true ?_ (.inl hroom)
      intro e he
      rw [hok] at he
      cases he

end ControlRuntimeState

namespace Sample

def controlCommand (payload : AgentCommandPayload) : AgentCommand :=
  ⟨Ident.numbered .command 0, Ident.numbered .session 0, Ident.numbered .channel 0,
    AgentPulse.Sample.instant, payload⟩

/-- A queued prompt, and a command queue without room. -/
def fullControls : ControlRuntimeState :=
  Trace.final (fun state command => ((state.accept command).2, (state.accept command).1))
    ControlRuntimeState.new
    (controlCommand (.submitPrompt AgentPulse.Sample.text .queue) ::
      List.replicate maxCommands (controlCommand .status))

end Sample

/-- The queue is cleared although the command to clear it is rejected. -/
theorem ControlRuntimeState.rejected_clear :
    (Sample.fullControls.accept (Sample.controlCommand (.queue .clear))).1 =
      .error (.commandQueueFull 64) ∧
    (Sample.fullControls.queueSummary (Ident.numbered .session 0)).1 = 1 ∧
    ((Sample.fullControls.accept (Sample.controlCommand (.queue .clear))).2.queueSummary
      (Ident.numbered .session 0)).1 = 0 := by
  decide +kernel

end Codex

end AgentPulse
