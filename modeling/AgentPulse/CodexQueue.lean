import AgentPulse.CodexCommand
import AgentPulse.MapSums
import AgentPulse.Trace

/-!
# The prompt queues

Each queue caches the bytes of its prompts, and the limit of all sessions is checked
against these counts. They stay exact, so the limits hold of the prompts themselves;
and a queue holds the prompts that were accepted and neither cleared nor popped, in
the order of their acceptance.
-/
namespace AgentPulse

namespace Codex

namespace ControlRuntimeState

open OrderedMap (values sum_values_insert)

/-- One call of the control state. -/
inductive ControlOp where
  | accept (command : AgentCommand)
  | popCommand
  | popPrompt (session : SessionId)
  | pausePrompts (session : SessionId)
  | markTurnInflight (session : SessionId)
  | observeTurn (session : SessionId) (active : Bool)
  | clearTurnInflight (session : SessionId)
  | clearAllInflight
  | updateDefaults (session : SessionId) (f : TurnDefaults → TurnDefaults)
  | claimLocal (response : InteractionResponse)
  | updateLocal (f : LocalInteractions → LocalInteractions)

/-- What a call means for the prompts of a session. -/
inductive QueueEvent where
  | accepted (session : SessionId) (text : NonEmptyText)
  | cleared (session : SessionId)
  | popped (session : SessionId)
  deriving DecidableEq, Repr

def apply (self : ControlRuntimeState) : ControlOp → ControlRuntimeState
  | .accept command => (self.accept command).2
  | .popCommand => self.popCommand.2
  | .popPrompt session => (self.popPrompt session).2
  | .pausePrompts session => self.pausePrompts session
  | .markTurnInflight session => self.markTurnInflight session
  | .observeTurn session active => self.observeTurn session active
  | .clearTurnInflight session => self.clearTurnInflight session
  | .clearAllInflight => self.clearAllInflight
  | .updateDefaults session f => self.updateDefaults session f
  | .claimLocal response => (self.claimLocal response).2
  | .updateLocal f => self.updateLocal f

/-- An edit takes effect also when its command is refused. -/
def acceptEvent (self : ControlRuntimeState) (command : AgentCommand) : Option QueueEvent :=
  match command.payload with
  | .submitPrompt text .queue =>
    match (self.acceptPrompt command.sessionId text).1 with
    | .ok () => some (.accepted command.sessionId text)
    | .error _ => none
  | .queue .clear => some (.cleared command.sessionId)
  | _ => none

def event (self : ControlRuntimeState) : ControlOp → Option QueueEvent
  | .accept command => self.acceptEvent command
  | .popPrompt session => some (.popped session)
  | _ => none

def call (self : ControlRuntimeState) (op : ControlOp) : ControlRuntimeState × Option QueueEvent :=
  (self.apply op, self.event op)

/-- What an event makes of the prompts of a session. -/
def follow (session : SessionId) (texts : List NonEmptyText) :
    Option QueueEvent → List NonEmptyText
  | some (.accepted found text) => if found = session then texts ++ [text] else texts
  | some (.cleared found) => if found = session then [] else texts
  | some (.popped found) => if found = session then texts.tail else texts
  | none => texts

/-- The prompts of a session that were accepted and neither cleared nor popped since. -/
def kept (session : SessionId) (events : List (Option QueueEvent)) : List NonEmptyText :=
  events.foldl (follow session) []

/-- The bytes of some prompts. -/
def held (prompts : List QueuedPrompt) : Nat :=
  (prompts.map fun prompt => prompt.text.asStr.utf8ByteSize).sum

/-- The counts are exact, and the limits hold. -/
structure Bounded (c : ControlRuntimeState) : Prop where
  bytes : ∀ session, (c.queue session).bytes = held (c.queue session).prompts
  prompts : ∀ session, (c.queue session).prompts.length ≤ maxPromptsPerSession
  sizes : ∀ session, ∀ prompt ∈ (c.queue session).prompts,
    prompt.text.asStr.utf8ByteSize ≤ maxPromptBytes
  total : ((values c.prompts).map fun queue => held queue.prompts).sum ≤ maxQueuedPromptBytes
  commands : c.commands.length ≤ maxCommands

theorem bounded_new : Bounded new where
  bytes session := by simp [queue, new, PromptQueue.new, held]
  prompts session := by simp [queue, new, PromptQueue.new]
  sizes session prompt h := by simp [queue, new, PromptQueue.new] at h
  total := Nat.zero_le _
  commands := Nat.zero_le _

namespace Bounded

variable {c c' : ControlRuntimeState}

/-- What does not touch the queues keeps their limits. -/
theorem of_same (h : Bounded c) (hprompts : c'.prompts = c.prompts)
    (hcommands : c'.commands.length ≤ maxCommands) : Bounded c' := by
  have hqueue : ∀ session, c'.queue session = c.queue session := by
    intro session
    rw [queue, queue, hprompts]
  refine ⟨?_, ?_, ?_, hprompts ▸ h.total, hcommands⟩
  · intro session
    rw [hqueue]
    exact h.bytes session
  · intro session
    rw [hqueue]
    exact h.prompts session
  · intro session
    rw [hqueue]
    exact h.sizes session

/-- The cached total is that of the prompts. -/
theorem totalBytes (h : Bounded c) :
    c.totalBytes = ((values c.prompts).map fun queue => held queue.prompts).sum := by
  unfold ControlRuntimeState.totalBytes
  congr 1
  apply List.map_congr_left
  intro queue hqueue
  obtain ⟨session, hfound⟩ := OrderedMap.mem_values.mp hqueue
  have hbytes := h.bytes session
  rwa [ControlRuntimeState.queue, hfound] at hbytes

/-- A queue within its limits is stored if it does not exceed what is left. -/
theorem setQueue (h : Bounded c) {session : SessionId} {queue : PromptQueue}
    (hbytes : queue.bytes = held queue.prompts)
    (hlength : queue.prompts.length ≤ maxPromptsPerSession)
    (hsizes : ∀ prompt ∈ queue.prompts, prompt.text.asStr.utf8ByteSize ≤ maxPromptBytes)
    (htotal : c.totalBytes + queue.bytes ≤ maxQueuedPromptBytes + (c.queue session).bytes) :
    Bounded (c.setQueue session queue) where
  bytes other := by
    rw [queue_setQueue]
    split
    · exact hbytes
    · exact h.bytes other
  prompts other := by
    rw [queue_setQueue]
    split
    · exact hlength
    · exact h.prompts other
  sizes other := by
    rw [queue_setQueue]
    split
    · exact hsizes
    · exact h.sizes other
  total := by
    have hsum := sum_values_insert (fun queue => held queue.prompts) c.prompts session queue
    have hold : (c.prompts[session]?.map fun queue => held queue.prompts).getD 0 =
        (c.queue session).bytes := by
      rw [h.bytes session, ControlRuntimeState.queue]
      cases c.prompts[session]? <;> rfl
    rw [hold, ← h.totalBytes, ← hbytes] at hsum
    show ((values (c.prompts.insert session queue)).map _).sum ≤ _
    omega
  commands := h.commands

/-- An edit that adds no prompt. -/
theorem edit (h : Bounded c) {session : SessionId} {queue : PromptQueue}
    (hbytes : queue.bytes = held queue.prompts)
    (hsub : queue.prompts.Sublist (c.queue session).prompts) :
    Bounded (c.setQueue session queue) := by
  have hless : queue.bytes ≤ (c.queue session).bytes := by
    rw [hbytes, h.bytes session]
    exact (hsub.map _).sum_le_sum fun _ _ => Nat.zero_le _
  have htotal := h.total
  rw [← h.totalBytes] at htotal
  exact h.setQueue hbytes (hsub.length_le.trans (h.prompts session))
    (fun prompt hmem => h.sizes session prompt (hsub.subset hmem)) (by omega)

theorem push (h : Bounded c) (command : AgentCommand) : Bounded (c.push command).2 := by
  unfold ControlRuntimeState.push
  split
  · exact h
  · next hroom => exact h.of_same rfl (by rw [List.length_append, List.length_singleton]; omega)

theorem acceptPrompt (h : Bounded c) (session : SessionId) (text : NonEmptyText) :
    Bounded (c.acceptPrompt session text).2 := by
  have hcreated : Bounded (c.setQueue session (c.queue session)) :=
    h.edit (h.bytes session) (List.Sublist.refl _)
  unfold ControlRuntimeState.acceptPrompt
  dsimp only
  split
  · exact h
  · next hsize =>
    split
    · exact hcreated
    · next hroom =>
      rw [not_or, Nat.not_le, Nat.not_lt] at hroom
      refine Bounded.of_same (h.setQueue ?_ ?_ ?_ ?_) rfl h.commands
      · simp [held, h.bytes session]
      · rw [List.length_append, List.length_singleton]
        exact hroom.1
      · intro prompt hmem
        rcases List.mem_append.mp hmem with hold | hnew
        · exact h.sizes session prompt hold
        · obtain rfl := List.mem_singleton.mp hnew
          exact Nat.not_lt.mp hsize
      · have hfits := hroom.2
        dsimp only
        omega

theorem pausePrompts (h : Bounded c) (session : SessionId) : Bounded (c.pausePrompts session) :=
  h.edit (h.bytes session) (List.Sublist.refl _)

theorem editQueue (h : Bounded c) (session : SessionId) (action : QueueAction) :
    Bounded (c.setQueue session (editQueue (c.queue session) action)) := by
  cases action with
  | pause => exact h.edit (h.bytes session) (List.Sublist.refl _)
  | resume => exact h.edit (h.bytes session) (List.Sublist.refl _)
  | clear => exact h.edit rfl (List.nil_sublist _)

theorem accept (h : Bounded c) (command : AgentCommand) : Bounded (c.accept command).2 := by
  unfold ControlRuntimeState.accept
  cases command.payload with
  | submitPrompt text delivery =>
    cases delivery with
    | queue => exact h.acceptPrompt command.sessionId text
    | _ => exact h.push command
  | queue action => exact (h.editQueue command.sessionId action).push command
  | cancelSession reason => exact (h.pausePrompts command.sessionId).push command
  | _ => exact h.push command

end Bounded

theorem popPrompt_of_nil {c : ControlRuntimeState} {session : SessionId}
    (h : (c.queue session).prompts = []) : c.popPrompt session = (none, c) := by
  unfold queue at h
  unfold popPrompt
  cases hqueue : c.prompts[session]? with
  | none => rfl
  | some queue =>
    have hprompts : queue.prompts = [] := by simpa [hqueue] using h
    simp [hprompts]

theorem popPrompt_of_cons {c : ControlRuntimeState} {session : SessionId} {prompt : QueuedPrompt}
    {rest : List QueuedPrompt} (h : (c.queue session).prompts = prompt :: rest) :
    c.popPrompt session =
      (some prompt, c.setQueue session
        { c.queue session with
          bytes := (c.queue session).bytes - prompt.text.asStr.utf8ByteSize
          prompts := rest }) := by
  have hqueue : c.prompts[session]? = some (c.queue session) := by
    unfold queue at h ⊢
    cases hfound : c.prompts[session]? with
    | none => simp [hfound, PromptQueue.new] at h
    | some queue => rfl
  unfold popPrompt
  simp only [hqueue, h]

/-- The bytes of the front are among those that are counted. -/
theorem Bounded.front_le {c : ControlRuntimeState} (h : Bounded c) {session : SessionId}
    {prompt : QueuedPrompt} {rest : List QueuedPrompt}
    (hprompts : (c.queue session).prompts = prompt :: rest) :
    (c.queue session).bytes = prompt.text.asStr.utf8ByteSize + held rest := by
  rw [h.bytes session, hprompts]
  simp [held]

theorem Bounded.popPrompt {c : ControlRuntimeState} (h : Bounded c) (session : SessionId) :
    Bounded (c.popPrompt session).2 := by
  cases hprompts : (c.queue session).prompts with
  | nil =>
    rw [popPrompt_of_nil hprompts]
    exact h
  | cons prompt rest =>
    rw [popPrompt_of_cons hprompts]
    have hfront := h.front_le hprompts
    apply h.edit
    · dsimp only
      omega
    · rw [hprompts]
      exact List.sublist_cons_self prompt rest

/-- One call keeps the limits. -/
theorem Bounded.call {c : ControlRuntimeState} (h : Bounded c) (op : ControlOp) :
    Bounded (c.call op).1 := by
  cases op with
  | accept command => exact h.accept command
  | popCommand =>
    show Bounded c.popCommand.2
    unfold popCommand
    have hcommands := h.commands
    split
    · exact h
    · next command rest hqueued =>
      rw [hqueued, List.length_cons] at hcommands
      exact h.of_same rfl (by dsimp only; omega)
  | popPrompt session => exact h.popPrompt session
  | pausePrompts session => exact h.pausePrompts session
  | markTurnInflight session => exact h.of_same rfl h.commands
  | observeTurn session active =>
    show Bounded (c.observeTurn session active)
    unfold observeTurn
    split
    · exact h
    · split
      · exact h.of_same rfl h.commands
      · split
        · exact h.of_same rfl h.commands
        · exact h
  | clearTurnInflight session => exact h.of_same rfl h.commands
  | clearAllInflight => exact h.of_same rfl h.commands
  | updateDefaults session f => exact h.of_same rfl h.commands
  | claimLocal response => exact h.of_same rfl h.commands
  | updateLocal f => exact h.of_same rfl h.commands

/-- The texts that wait in the queue of a session, in order. -/
def texts (c : ControlRuntimeState) (session : SessionId) : List NonEmptyText :=
  (c.queue session).prompts.map QueuedPrompt.text

theorem texts_setQueue (c : ControlRuntimeState) (session other : SessionId) (queue : PromptQueue) :
    (c.setQueue session queue).texts other =
      if session = other then queue.prompts.map QueuedPrompt.text else c.texts other := by
  rw [texts, queue_setQueue]
  split <;> rfl

theorem texts_push (c : ControlRuntimeState) (command : AgentCommand) (session : SessionId) :
    (c.push command).2.texts session = c.texts session := by
  unfold push
  split <;> rfl

theorem texts_acceptPrompt (c : ControlRuntimeState) (found session : SessionId)
    (text : NonEmptyText) :
    (c.acceptPrompt found text).2.texts session =
      follow session (c.texts session)
        (match (c.acceptPrompt found text).1 with
        | .ok () => some (.accepted found text)
        | .error _ => none) := by
  unfold acceptPrompt
  dsimp only
  split
  · rfl
  · split
    · show (c.setQueue found (c.queue found)).texts session = c.texts session
      rw [texts_setQueue]
      split
      · next hsame => rw [hsame, texts]
      · rfl
    · show (c.setQueue found _).texts session = if found = session then _ else _
      rw [texts_setQueue]
      split
      · next hsame => rw [List.map_append, hsame, texts]; rfl
      · rfl

theorem texts_accept (c : ControlRuntimeState) (command : AgentCommand) (session : SessionId) :
    (c.accept command).2.texts session =
      follow session (c.texts session) (c.acceptEvent command) := by
  have hedit : ∀ queue : PromptQueue, queue.prompts = (c.queue command.sessionId).prompts →
      ((c.setQueue command.sessionId queue).push command).2.texts session = c.texts session := by
    intro queue hprompts
    rw [texts_push, texts_setQueue]
    split
    · next hsame => rw [hprompts, hsame, texts]
    · rfl
  unfold accept acceptEvent
  cases command.payload with
  | submitPrompt text delivery =>
    cases delivery with
    | queue => exact texts_acceptPrompt c command.sessionId session text
    | _ => exact texts_push c command session
  | queue action =>
    cases action with
    | pause => exact hedit _ rfl
    | resume => exact hedit _ rfl
    | clear =>
      show ((c.setQueue command.sessionId _).push command).2.texts session =
        if command.sessionId = session then [] else c.texts session
      rw [texts_push, texts_setQueue]
      rfl
  | cancelSession reason => exact hedit _ rfl
  | _ => exact texts_push c command session

theorem texts_popPrompt (c : ControlRuntimeState) (found session : SessionId) :
    (c.popPrompt found).2.texts session =
      follow session (c.texts session) (some (.popped found)) := by
  show _ = if found = session then (c.texts session).tail else c.texts session
  cases hprompts : (c.queue found).prompts with
  | nil =>
    rw [popPrompt_of_nil hprompts]
    split
    · next hsame =>
      subst hsame
      simp [texts, hprompts]
    · rfl
  | cons prompt rest =>
    rw [popPrompt_of_cons hprompts]
    show (c.setQueue found _).texts session = _
    rw [texts_setQueue]
    split
    · next hsame =>
      subst hsame
      simp [texts, hprompts]
    · rfl

/-- One call changes the texts of a session as its event says. -/
theorem texts_call (c : ControlRuntimeState) (op : ControlOp) (session : SessionId) :
    (c.call op).1.texts session = follow session (c.texts session) (c.call op).2 := by
  cases op with
  | accept command => exact texts_accept c command session
  | popCommand =>
    show c.popCommand.2.texts session = c.texts session
    unfold popCommand
    split <;> rfl
  | popPrompt found => exact texts_popPrompt c found session
  | pausePrompts found =>
    show (c.setQueue found _).texts session = c.texts session
    rw [texts_setQueue]
    split
    · next hsame => rw [hsame, texts]
    · rfl
  | observeTurn found active =>
    show (c.observeTurn found active).texts session = c.texts session
    unfold observeTurn
    split
    · rfl
    · split
      · rfl
      · split <;> rfl
  | markTurnInflight found => rfl
  | clearTurnInflight found => rfl
  | clearAllInflight => rfl
  | updateDefaults found f => rfl
  | claimLocal response => rfl
  | updateLocal f => rfl

theorem texts_run (c : ControlRuntimeState) (ops : List ControlOp) (session : SessionId) :
    (Trace.final call c ops).texts session =
      (Trace.outputs call c ops).foldl (follow session) (c.texts session) := by
  induction ops generalizing c with
  | nil => rfl
  | cons op rest ih =>
    rw [Trace.final_cons, ih, texts_call, Trace.outputs_cons, List.foldl_cons]

/-- In every run the counts are exact and within their limits, and the next prompt of a
session is the oldest that was accepted and neither cleared nor popped. -/
theorem run_queues (ops : List ControlOp) :
    let c := Trace.final call new ops
    Bounded c ∧ ∀ session,
      let kept := kept session (Trace.outputs call new ops)
      c.texts session = kept ∧
        (c.popPrompt session).1.map QueuedPrompt.text = kept.head? ∧
        ∀ prompt, (c.popPrompt session).1 = some prompt →
          prompt.text.asStr.utf8ByteSize ≤ (c.queue session).bytes := by
  have hbounded : Bounded (Trace.final call new ops) :=
    Trace.final_invariant call Bounded (fun _ op h => h.call op) new ops bounded_new
  refine ⟨hbounded, fun session => ?_⟩
  have htexts : (Trace.final call new ops).texts session =
      kept session (Trace.outputs call new ops) := texts_run new ops session
  refine ⟨htexts, ?_, ?_⟩
  · rw [← htexts, texts]
    cases hprompts : ((Trace.final call new ops).queue session).prompts with
    | nil => rw [popPrompt_of_nil hprompts]; rfl
    | cons prompt rest => rw [popPrompt_of_cons hprompts]; rfl
  · intro prompt hpopped
    cases hprompts : ((Trace.final call new ops).queue session).prompts with
    | nil =>
      rw [popPrompt_of_nil hprompts] at hpopped
      cases hpopped
    | cons front rest =>
      rw [popPrompt_of_cons hprompts] at hpopped
      cases hpopped
      have hfront := hbounded.front_le hprompts
      omega

end ControlRuntimeState

end Codex

end AgentPulse
