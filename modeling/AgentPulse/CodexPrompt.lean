import AgentPulse.CodexKeep
import AgentPulse.History

/-!
# Prompts in the queue and in the log

The log tells which turn/start requests of a session are unanswered and which
prompt may be started next. The queue of a session holds prompts in the order of
their acceptance: another thread appends to it or empties it, and the worker
takes its front.
-/
namespace AgentPulse

namespace Codex

open Std (ExtTreeMap)
open History (Throughout throughout_snoc)

/-- The session whose turn/start request is written. -/
def Record.opens : Record → Option SessionId
  | .started session _ | .implementing session => some session
  | _ => none

/-- The session whose turn/start request is answered. -/
def Record.settles : Record → Option SessionId
  | .completed session _ _ | .rejected session _ | .implemented session => some session
  | _ => none

/-- The number of unanswered turn/start requests of a session. -/
def outstanding (session : SessionId) (log : List Record) : Nat :=
  log.foldl (fun n entry =>
    if entry.opens = some session then n + 1
    else if entry.settles = some session then n - 1
    else n) 0

/-- The least number that a started prompt of a session may have now. A prompt
whose start was refused may be started again. -/
def nextNumber (session : SessionId) (log : List Record) : Nat :=
  log.foldl (fun n entry =>
    match entry with
    | .started other prompt => if other = session then prompt.number + 1 else n
    | .rejected other prompt => if other = session then prompt.number else n
    | _ => n) 0

/-- The prompt whose turn/start was written last, as long as it is unanswered. -/
def opened (session : SessionId) (log : List Record) : Option QueuedPrompt :=
  log.foldl (fun current entry =>
    match entry with
    | .started other prompt => if other = session then some prompt else current
    | .implementing other | .completed other _ _ | .rejected other _ | .implemented other =>
      if other = session then none else current
    | _ => current) none

/-- A prompt of the session was read in order to send it and is not answered yet. -/
def underway (session : SessionId) (log : List Record) : Bool :=
  log.foldl (fun busy entry =>
    match entry with
    | .picked other _ => if other = session then true else busy
    | .completed other _ _ | .rejected other _ => if other = session then false else busy
    | _ => busy) false

theorem outstanding_snoc (session : SessionId) (log : List Record) (entry : Record) :
    outstanding session (log ++ [entry]) =
      if entry.opens = some session then outstanding session log + 1
      else if entry.settles = some session then outstanding session log - 1
      else outstanding session log := by
  simp [outstanding]

theorem outstanding_opens {session : SessionId} {entry : Record} (log : List Record)
    (h : entry.opens = some session) :
    outstanding session (log ++ [entry]) = outstanding session log + 1 := by
  rw [outstanding_snoc, if_pos h]

theorem outstanding_settles {session : SessionId} {entry : Record} (log : List Record)
    (h : entry.settles = some session) :
    outstanding session (log ++ [entry]) = outstanding session log - 1 := by
  have hopens : entry.opens ≠ some session := by
    cases entry <;> simp [Record.opens, Record.settles] at h ⊢
  rw [outstanding_snoc, if_neg hopens, if_pos h]

theorem nextNumber_snoc (session : SessionId) (log : List Record) (entry : Record) :
    nextNumber session (log ++ [entry]) =
      match entry with
      | .started other prompt => if other = session then prompt.number + 1 else nextNumber session log
      | .rejected other prompt => if other = session then prompt.number else nextNumber session log
      | _ => nextNumber session log := by
  simp [nextNumber]

theorem opened_snoc (session : SessionId) (log : List Record) (entry : Record) :
    opened session (log ++ [entry]) =
      match entry with
      | .started other prompt => if other = session then some prompt else opened session log
      | .implementing other | .completed other _ _ | .rejected other _ | .implemented other =>
        if other = session then none else opened session log
      | _ => opened session log := by
  simp [opened]

theorem underway_snoc (session : SessionId) (log : List Record) (entry : Record) :
    underway session (log ++ [entry]) =
      match entry with
      | .picked other _ => if other = session then true else underway session log
      | .completed other _ _ | .rejected other _ =>
        if other = session then false else underway session log
      | _ => underway session log := by
  simp [underway]

/-- A mark is dropped, and a plan implemented, only when every turn/start of the
session is answered. Where no plan is ready only the first happens; where one is, a form
can outlive it, since `turn_completed` drops a plan before it closes the form. -/
def Record.timely (before : List Record) : Record → Prop
  | .released session | .implementing session => outstanding session before = 0
  | _ => True

def Timely (log : List Record) : Prop := Throughout (fun before entry => entry.timely before) log

/-- The queue of a session is not emptied while one of its prompts is underway. -/
def Record.sparesQueue (before : List Record) : Record → Prop
  | .cleared session => underway session before = false
  | _ => True

def Unedited (log : List Record) : Prop :=
  Throughout (fun before entry => entry.sparesQueue before) log

instance (before : List Record) (entry : Record) : Decidable (entry.timely before) := by
  unfold Record.timely
  split <;> infer_instance

instance (before : List Record) (entry : Record) : Decidable (entry.sparesQueue before) := by
  unfold Record.sparesQueue
  split <;> infer_instance

instance (log : List Record) : Decidable (Timely log) :=
  inferInstanceAs (Decidable (Throughout _ log))

instance (log : List Record) : Decidable (Unedited log) :=
  inferInstanceAs (Decidable (Throughout _ log))

/-- A turn is started when none is unanswered, with a prompt that may be next; what is
refused is the prompt that was started last. -/
def Record.inOrder (before : List Record) : Record → Prop
  | .started session prompt =>
    outstanding session before = 0 ∧ nextNumber session before ≤ prompt.number
  | .implementing session => outstanding session before = 0
  | .rejected session prompt => opened session before = some prompt
  | _ => True

def InOrder (log : List Record) : Prop := Throughout (fun before entry => entry.inOrder before) log

theorem outstanding_le_one {log : List Record} (h : InOrder log) (session : SessionId) :
    outstanding session log ≤ 1 := by
  induction log using List.reverseRecOn with
  | nil => exact Nat.zero_le 1
  | append_singleton log entry ih =>
    obtain ⟨hlog, hentry⟩ := throughout_snoc.mp h
    have hbefore := ih hlog
    rw [outstanding_snoc]
    split
    · next hopens =>
      have hzero : outstanding session log = 0 := by
        cases entry <;> simp only [Record.opens, Option.some.injEq, reduceCtorEq] at hopens
        case started other prompt => exact hopens ▸ hentry.1
        case implementing other => exact hopens ▸ hentry
      omega
    · split <;> omega

/-- After a prompt was started: the numbers do not fall below its own, stay above it
until it is refused, and the prompt in flight is not an earlier one. -/
structure StartedBefore (session : SessionId) (prompt : QueuedPrompt) (middle log : List Record) :
    Prop where
  least : prompt.number ≤ nextNumber session log
  above : (∀ refused, refused.number = prompt.number → Record.rejected session refused ∉ middle) →
    prompt.number < nextNumber session log
  latest : ∀ current, opened session log = some current →
    nextNumber session log = current.number + 1 ∧ prompt.number ≤ current.number

/-- An entry that neither starts nor refuses a prompt. -/
theorem StartedBefore.snoc {session : SessionId} {prompt : QueuedPrompt} {middle log : List Record}
    {entry : Record} (h : StartedBefore session prompt middle log)
    (hnext : nextNumber session (log ++ [entry]) = nextNumber session log)
    (hopened : ∀ current, opened session (log ++ [entry]) = some current →
      opened session log = some current) :
    StartedBefore session prompt (middle ++ [entry]) (log ++ [entry]) where
  least := by
    rw [hnext]
    exact h.least
  above hnone := by
    rw [hnext]
    exact h.above fun refused hnumber hmem => hnone refused hnumber (List.mem_append_left _ hmem)
  latest current hcurrent := by
    rw [hnext]
    exact h.latest current (hopened current hcurrent)

theorem startedBefore_of_inOrder {before middle : List Record} {session : SessionId}
    {prompt : QueuedPrompt} (h : InOrder (before ++ .started session prompt :: middle)) :
    StartedBefore session prompt middle (before ++ .started session prompt :: middle) := by
  induction middle using List.reverseRecOn with
  | nil =>
    have hnext : nextNumber session (before ++ [.started session prompt]) = prompt.number + 1 := by
      rw [nextNumber_snoc]
      simp
    have hopened : opened session (before ++ [.started session prompt]) = some prompt := by
      rw [opened_snoc]
      simp
    constructor
    · omega
    · intro _
      omega
    · intro current hcurrent
      rw [hopened] at hcurrent
      cases hcurrent
      exact ⟨hnext, Nat.le_refl _⟩
  | append_singleton middle entry ih =>
    have hsplit : before ++ .started session prompt :: (middle ++ [entry]) =
        (before ++ .started session prompt :: middle) ++ [entry] := by simp
    rw [hsplit] at h ⊢
    obtain ⟨hlog, hentry⟩ := throughout_snoc.mp h
    have hbefore := ih hlog
    generalize before ++ Record.started session prompt :: middle = log at hbefore hentry
    cases entry with
    | started other started =>
      by_cases hother : other = session
      · subst hother
        have hnext : nextNumber other (log ++ [.started other started]) = started.number + 1 := by
          rw [nextNumber_snoc]
          simp
        have hleast := hbefore.least
        have hstarted := hentry.2
        constructor
        · omega
        · intro _
          omega
        · intro current hcurrent
          rw [opened_snoc] at hcurrent
          simp only [if_true, Option.some.injEq] at hcurrent
          subst hcurrent
          exact ⟨hnext, by omega⟩
      · apply hbefore.snoc
        · simp [nextNumber_snoc, hother]
        · intro current hcurrent
          simpa [opened_snoc, hother] using hcurrent
    | rejected other refused =>
      by_cases hother : other = session
      · subst hother
        have hnext : nextNumber other (log ++ [.rejected other refused]) = refused.number := by
          rw [nextNumber_snoc]
          simp
        obtain ⟨hlast, hleast⟩ := hbefore.latest refused hentry
        constructor
        · omega
        · intro hnone
          have hother : refused.number ≠ prompt.number := by
            intro hnumber
            exact hnone refused hnumber (by simp)
          omega
        · intro current hcurrent
          simp [opened_snoc] at hcurrent
      · apply hbefore.snoc
        · simp [nextNumber_snoc, hother]
        · intro current hcurrent
          simpa [opened_snoc, hother] using hcurrent
    | implementing other | completed other completed removed | implemented other =>
      apply hbefore.snoc (nextNumber_snoc _ _ _)
      intro current hcurrent
      by_cases hother : other = session
      · simp [opened_snoc, hother] at hcurrent
      · simpa [opened_snoc, hother] using hcurrent
    | cleared _ | lost _ | taken _ | released _ | picked _ _ | dispatched _ _ _ | closing _
    | popped _ | marked _ =>
      apply hbefore.snoc (nextNumber_snoc _ _ _)
      intro current hcurrent
      rwa [opened_snoc] at hcurrent

/-- Of two started prompts of a session the later one was accepted later, unless it is
the same one and was refused in between. -/
theorem started_in_order {before middle : List Record} {session : SessionId}
    {first second : QueuedPrompt}
    (h : InOrder (before ++ .started session first :: middle ++ [.started session second])) :
    first.number ≤ second.number ∧
    (first.number = second.number →
      ∃ refused, refused.number = first.number ∧ Record.rejected session refused ∈ middle) := by
  obtain ⟨hlog, -, hsecond⟩ := throughout_snoc.mp h
  have hstarted := startedBefore_of_inOrder hlog
  have hleast := hstarted.least
  refine ⟨by omega, ?_⟩
  intro hsame
  by_contra hnone
  have habove := hstarted.above fun refused hnumber hmem => hnone ⟨refused, hnumber, hmem⟩
  omega

namespace ControlRuntimeState

/-- The prompts of a session that are not taken yet, in order. -/
def waiting (self : ControlRuntimeState) (session : SessionId) : List QueuedPrompt :=
  (self.queue session).prompts

/-- Every queue is in the order of acceptance, and every number was given. -/
structure Numbered (c : ControlRuntimeState) : Prop where
  ascending : ∀ session, (c.waiting session).Pairwise fun p q => p.number < q.number
  given : ∀ session, ∀ prompt ∈ c.waiting session, prompt.number < c.accepted

theorem waiting_setQueue (self : ControlRuntimeState) (session : SessionId) (queue : PromptQueue)
    (other : SessionId) :
    (self.setQueue session queue).waiting other =
      if session = other then queue.prompts else self.waiting other := by
  unfold waiting ControlRuntimeState.queue setQueue
  rw [OrderedMap.getElem?_insert]
  split <;> rfl

theorem waiting_congr {c c' : ControlRuntimeState} (h : c'.prompts = c.prompts)
    (session : SessionId) : c'.waiting session = c.waiting session := by
  unfold waiting queue
  rw [h]

theorem numbered_new : Numbered .new where
  ascending session := by simp [waiting, queue, new, PromptQueue.new]
  given session := by simp [waiting, queue, new, PromptQueue.new]

theorem frontPrompt_eq (self : ControlRuntimeState) (session : SessionId) :
    self.frontPrompt session = (self.waiting session).head? := by
  unfold frontPrompt waiting queue
  cases self.prompts[session]? <;> rfl

theorem popPrompt_nil {self : ControlRuntimeState} {session : SessionId}
    (h : self.waiting session = []) : self.popPrompt session = (none, self) := by
  unfold waiting queue at h
  unfold popPrompt
  cases hqueue : self.prompts[session]? with
  | none => rfl
  | some queue =>
    have hprompts : queue.prompts = [] := by simpa [hqueue] using h
    simp [hprompts]

theorem popPrompt_cons {self : ControlRuntimeState} {session : SessionId} {prompt : QueuedPrompt}
    {rest : List QueuedPrompt} (h : self.waiting session = prompt :: rest) :
    ∃ queue, queue.prompts = rest ∧
      self.popPrompt session = (some prompt, self.setQueue session queue) := by
  unfold waiting queue at h
  unfold popPrompt
  cases hqueue : self.prompts[session]? with
  | none => simp [hqueue, PromptQueue.new] at h
  | some queue =>
    have hprompts : queue.prompts = prompt :: rest := by simpa [hqueue] using h
    simp only [hprompts]
    exact ⟨_, rfl, rfl⟩

/-- The worker takes the front of a queue and leaves the others. -/
theorem popPrompt_eq (self : ControlRuntimeState) (session : SessionId) :
    (self.popPrompt session).1 = (self.waiting session).head? ∧
    (self.popPrompt session).2.inflightTurns = self.inflightTurns ∧
    (self.popPrompt session).2.accepted = self.accepted ∧
    ∀ other, (self.popPrompt session).2.waiting other =
      if session = other then (self.waiting session).tail else self.waiting other := by
  cases hwaiting : self.waiting session with
  | nil =>
    rw [popPrompt_nil hwaiting]
    refine ⟨rfl, rfl, rfl, ?_⟩
    intro other
    split
    · next hsame => rw [← hsame, hwaiting, List.tail_nil]
    · rfl
  | cons prompt rest =>
    obtain ⟨queue, rfl, hpop⟩ := popPrompt_cons hwaiting
    rw [hpop]
    exact ⟨rfl, rfl, rfl, waiting_setQueue self session queue⟩

/-- What another thread does to the queues: nothing, one more prompt at the end, or
the removal of all of them. -/
structure Admits (cleared : Option SessionId) (c c' : ControlRuntimeState) : Prop where
  inflightTurns : c'.inflightTurns = c.inflightTurns
  accepted : c.accepted ≤ c'.accepted
  waiting : ∀ session, c'.waiting session = c.waiting session ∨
    (cleared = some session ∧ c'.waiting session = []) ∨
    ∃ text, c.accepted < c'.accepted ∧
      c'.waiting session = c.waiting session ++ [⟨c.accepted, text⟩]

theorem Admits.of_prompts {c c' : ControlRuntimeState} (hprompts : c'.prompts = c.prompts)
    (hinflight : c'.inflightTurns = c.inflightTurns) (haccepted : c'.accepted = c.accepted)
    (cleared : Option SessionId) : Admits cleared c c' where
  inflightTurns := hinflight
  accepted := by rw [haccepted]
  waiting session := .inl (waiting_congr hprompts session)

theorem Admits.push {cleared : Option SessionId} {c c' : ControlRuntimeState}
    (h : Admits cleared c c') (command : AgentCommand) : Admits cleared c (c'.push command).2 := by
  unfold ControlRuntimeState.push
  split
  · exact h
  · exact ⟨h.inflightTurns, h.accepted, h.waiting⟩

/-- A new setting of one queue that leaves its prompts. -/
theorem Admits.setQueue (c : ControlRuntimeState) (session : SessionId) (queue : PromptQueue)
    (hqueue : queue.prompts = c.waiting session) (cleared : Option SessionId) :
    Admits cleared c (c.setQueue session queue) where
  inflightTurns := rfl
  accepted := Nat.le_refl _
  waiting other := by
    left
    rw [waiting_setQueue]
    split
    · next hsame => rw [← hsame, hqueue]
    · rfl

theorem admits_acceptPrompt (c : ControlRuntimeState) (session : SessionId) (text : NonEmptyText)
    (cleared : Option SessionId) : Admits cleared c (c.acceptPrompt session text).2 := by
  unfold acceptPrompt
  dsimp only
  split
  · exact .of_prompts rfl rfl rfl cleared
  split
  · exact .setQueue c session _ rfl cleared
  · refine ⟨rfl, Nat.le_succ _, ?_⟩
    intro other
    by_cases hsame : session = other
    · refine .inr (.inr ⟨text, Nat.lt_succ_self _, ?_⟩)
      show (c.setQueue session _).waiting other = _
      rw [waiting_setQueue, if_pos hsame, ← hsame]
      rfl
    · left
      show (c.setQueue session _).waiting other = _
      rw [waiting_setQueue, if_neg hsame]

/-- Only a Queue Clear empties a queue. -/
theorem admits_accept (c : ControlRuntimeState) (command : AgentCommand) :
    Admits (Worker.clearedSession command) c (c.accept command).2 := by
  unfold accept Worker.clearedSession
  cases command.payload with
  | submitPrompt text delivery =>
    cases delivery with
    | queue => exact admits_acceptPrompt c command.sessionId text _
    | steer => exact Admits.push (.of_prompts rfl rfl rfl _) command
  | queue action =>
    cases action with
    | pause => exact Admits.push (.setQueue c command.sessionId (editQueue _ .pause) rfl _) command
    | resume => exact Admits.push (.setQueue c command.sessionId (editQueue _ .resume) rfl _) command
    | clear =>
      apply Admits.push
      refine ⟨rfl, Nat.le_refl _, ?_⟩
      intro other
      rw [waiting_setQueue]
      split
      · next hsame => exact .inr (.inl ⟨congrArg some hsame, rfl⟩)
      · exact .inl rfl
  | cancelSession reason =>
    exact Admits.push
      (.setQueue c command.sessionId { c.queue command.sessionId with paused := true } rfl _) command
  | selectModel model effort => exact Admits.push (.of_prompts rfl rfl rfl _) command
  | setPlanMode enabled => exact Admits.push (.of_prompts rfl rfl rfl _) command
  | selectPermissionProfile profile => exact Admits.push (.of_prompts rfl rfl rfl _) command
  | status => exact Admits.push (.of_prompts rfl rfl rfl _) command
  | listModels => exact Admits.push (.of_prompts rfl rfl rfl _) command
  | listPermissionProfiles => exact Admits.push (.of_prompts rfl rfl rfl _) command
  | listThreads cursor => exact Admits.push (.of_prompts rfl rfl rfl _) command
  | resumeThread threadId => exact Admits.push (.of_prompts rfl rfl rfl _) command
  | startThread cwd => exact Admits.push (.of_prompts rfl rfl rfl _) command
  | compact => exact Admits.push (.of_prompts rfl rfl rfl _) command
  | review instructions => exact Admits.push (.of_prompts rfl rfl rfl _) command
  | rename name => exact Admits.push (.of_prompts rfl rfl rfl _) command
  | fork => exact Admits.push (.of_prompts rfl rfl rfl _) command

namespace Admits

variable {cleared : Option SessionId} {c c' : ControlRuntimeState}

/-- A prompt of a queue was there before or is the one just accepted. -/
theorem mem_waiting (h : Admits cleared c c') {session : SessionId} {prompt : QueuedPrompt}
    (hprompt : prompt ∈ c'.waiting session) :
    prompt ∈ c.waiting session ∨ (prompt.number = c.accepted ∧ c.accepted < c'.accepted) := by
  rcases h.waiting session with hsame | ⟨-, hnone⟩ | ⟨text, hmore, hsnoc⟩
  · rw [hsame] at hprompt
    exact .inl hprompt
  · rw [hnone] at hprompt
    cases hprompt
  · rw [hsnoc] at hprompt
    rcases List.mem_append.mp hprompt with hold | hnew
    · exact .inl hold
    · cases List.mem_singleton.mp hnew
      exact .inr ⟨rfl, hmore⟩

/-- A bound on the numbers of a queue that covers the prompts still to come. -/
theorem bound_waiting (h : Admits cleared c c') {session : SessionId} {n k : Nat}
    (hn : n ≤ c.accepted + k) (hbound : ∀ prompt ∈ c.waiting session, n ≤ prompt.number + k) :
    ∀ prompt ∈ c'.waiting session, n ≤ prompt.number + k := by
  intro prompt hprompt
  rcases h.mem_waiting hprompt with hold | ⟨hnew, -⟩
  · exact hbound prompt hold
  · omega

theorem numbered (h : Admits cleared c c') (hc : Numbered c) : Numbered c' := by
  constructor
  · intro session
    rcases h.waiting session with hsame | ⟨-, hnone⟩ | ⟨text, -, hsnoc⟩
    · rw [hsame]
      exact hc.ascending session
    · rw [hnone]
      exact List.Pairwise.nil
    · rw [hsnoc]
      apply List.pairwise_append.mpr
      refine ⟨hc.ascending session, List.pairwise_singleton _ _, ?_⟩
      intro earlier hearlier later hlater
      cases List.mem_singleton.mp hlater
      exact hc.given session earlier hearlier
  · intro session prompt hprompt
    have haccepted := h.accepted
    rcases h.mem_waiting hprompt with hold | ⟨hnew, hmore⟩
    · have hgiven := hc.given session prompt hold
      omega
    · omega

/-- The front of a queue stays as long as the queue is not emptied. -/
theorem head (h : Admits cleared c c') {session : SessionId} {prompt : QueuedPrompt}
    (hcleared : cleared ≠ some session) (hhead : (c.waiting session).head? = some prompt) :
    (c'.waiting session).head? = some prompt := by
  rcases h.waiting session with hsame | ⟨hgone, -⟩ | ⟨text, -, hsnoc⟩
  · rw [hsame]
    exact hhead
  · exact absurd hgone hcleared
  · rw [hsnoc, List.head?_append, hhead]
    rfl

end Admits

end ControlRuntimeState

end Codex

end AgentPulse
