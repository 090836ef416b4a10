import AgentPulse.CodexTurnRun

/-!
# The mark of a finished turn

The worker learns of the turns of a session by sampling: a flush that gets past the
observer's subscriptions looks whether the thread of each marked session runs a turn. The
sections of these flushes and of the other threads take turns here; `underway` keeps whether
a turn of the thread has started since the session's turn/start was written.
-/
namespace AgentPulse

namespace Codex

open Std (ExtTreeMap)
open OrderedMap (getElem?_insert getElem?_erase)

/-- The turn that the thread of a session runs. -/
def CodexEventMapper.runningTurn (self : CodexEventMapper) (sessionId : SessionId) : Option String :=
  (self.commandContext sessionId).bind fun context => context.2.1

inductive SamplePhase where
  | resting
  /-- Inside a flush, with the marked sessions that are still to be sampled. -/
  | sampling (remaining : List SessionId)
  /-- Between the look at the mapper and the write of the mark. -/
  | observing (sessionId : SessionId) (active : Bool) (remaining : List SessionId)
  deriving DecidableEq

structure Sampler (B : Type) where
  worker : Worker B
  phase : SamplePhase
  underway : SessionId → Option Bool

/-- One section. The first four come when the worker is in no flush that samples. -/
inductive SamplerStep (B : Type) where
  /-- A turn/start of the session is written. -/
  | send (sessionId : SessionId)
  | mark (sessionId : SessionId)
  /-- The turn/start is answered with an error. -/
  | refuse (sessionId : SessionId)
  /-- A flush gets past the observer's subscriptions and reads the marked sessions. -/
  | flush
  | sample
  | observe
  /-- Any other section, at the mapper or of another thread. -/
  | foreign (step : Foreign B)

/-- The sections between the beginning of a flush and the end of its sampling. -/
def SamplerStep.isOfFlush {B : Type} : SamplerStep B → Bool
  | .sample | .observe | .foreign _ => true
  | _ => false

namespace Sampler

variable {B : Type} (host : ProviderHost B) (route : ApprovalRoute)

def setUnderway (underway : SessionId → Option Bool) (sessionId : SessionId)
    (value : Option Bool) (other : SessionId) : Option Bool :=
  if other = sessionId then value else underway other

/-- The sessions whose thread runs another turn than before. -/
def started (before after : CodexEventMapper) (underway : SessionId → Option Bool)
    (sessionId : SessionId) : Option Bool :=
  if underway sessionId = some false ∧ after.runningTurn sessionId ≠ none ∧
      after.runningTurn sessionId ≠ before.runningTurn sessionId then some true
  else underway sessionId

/-- The section of `observe_turn`. -/
def observed (sessionId : SessionId) (active : Bool) (worker : Worker B) : Worker B :=
  (Work.observeTurn host route sessionId active ⟨worker, []⟩).2.state

def step (self : Sampler B) (input : SamplerStep B) : Sampler B × Unit :=
  (match input, self.phase with
  | .send sessionId, .resting =>
    { self with underway := setUnderway self.underway sessionId (some false) }
  | .mark sessionId, .resting =>
    { self with
      worker := { self.worker with controls := self.worker.controls.markTurnInflight sessionId } }
  | .refuse sessionId, .resting =>
    { self with
      worker := { self.worker with controls := self.worker.controls.clearTurnInflight sessionId }
      underway := setUnderway self.underway sessionId none }
  | .flush, .resting =>
    { self with phase := .sampling self.worker.controls.inflightSessions }
  | .sample, .sampling [] => { self with phase := .resting }
  | .sample, .sampling (sessionId :: remaining) =>
    { self with
      phase := .observing sessionId
        (self.worker.mapping.mapper.runningTurn sessionId).isSome remaining }
  | .observe, .observing sessionId active remaining =>
    let worker := observed host route sessionId active self.worker
    { worker
      phase := .sampling remaining
      underway :=
        if worker.controls.inflightTurns.contains sessionId then self.underway
        else setUnderway self.underway sessionId none }
  | .foreign input, _ =>
    let worker := self.worker.foreign host route input
    { self with
      worker
      underway := started self.worker.mapping.mapper worker.mapping.mapper self.underway }
  | _, _ => self, ())

/-- At the start of the worker no session is marked. -/
def initial (worker : Worker B) : Sampler B :=
  ⟨{ worker with controls := worker.controls.clearAllInflight }, .resting, fun _ => none⟩

/-- The mark says that the session was seen active, or is about to say so. -/
def Seen (self : Sampler B) (sessionId : SessionId) : Prop :=
  self.worker.controls.inflightTurns[sessionId]? = some true ∨
    ∃ remaining, self.phase = .observing sessionId true remaining ∧
      self.worker.controls.inflightTurns.contains sessionId = true

/-- The turn of a session that waits for its end does not end unseen, and is not over when the
session is marked. -/
def Sighted (self : Sampler B) (input : SamplerStep B) : Prop :=
  match input with
  | .foreign other => ∀ sessionId, self.underway sessionId = some true →
      self.worker.mapping.mapper.runningTurn sessionId ≠ none →
      (self.worker.foreign host route other).mapping.mapper.runningTurn sessionId = none →
      self.Seen sessionId
  | .mark sessionId => self.underway sessionId = some true →
      self.worker.mapping.mapper.runningTurn sessionId ≠ none
  | _ => True

/-- A turn that has started since the turn/start was written, and is over, was seen. -/
def Remembers (self : Sampler B) : Prop :=
  ∀ sessionId, self.underway sessionId = some true →
    self.worker.mapping.mapper.runningTurn sessionId = none → self.Seen sessionId

variable {host route}

theorem observed_mapping (sessionId : SessionId) (active : Bool) (worker : Worker B) :
    (observed host route sessionId active worker).mapping = worker.mapping := by
  show (if _ then _ else _ : Worker B).mapping = _
  split <;> rfl

variable (host route) in
theorem observed_controls (sessionId : SessionId) (active : Bool) (worker : Worker B) :
    (observed host route sessionId active worker).controls =
      worker.controls.observeTurn sessionId active := by
  show (if _ then _ else _ : Worker B).controls = _
  split <;> rfl

/-- One observation, by the mark that it finds. -/
theorem getElem?_observeTurn (controls : ControlRuntimeState) (sessionId other : SessionId)
    (active : Bool) :
    (controls.observeTurn sessionId active).inflightTurns[other]? =
      if sessionId = other then
        controls.inflightTurns[other]?.bind fun seen =>
          if active then some true else if seen then none else some false
      else controls.inflightTurns[other]? := by
  unfold ControlRuntimeState.observeTurn
  by_cases hsame : sessionId = other
  · subst hsame
    rw [if_pos rfl]
    cases hmark : controls.inflightTurns[sessionId]? with
    | none => simp [hmark]
    | some seen =>
      cases active <;> cases seen <;> simp [hmark]
  · rw [if_neg hsame]
    cases hmark : controls.inflightTurns[sessionId]? with
    | none => rfl
    | some seen =>
      cases active <;> cases seen <;> simp [getElem?_insert, getElem?_erase, hsame]

variable (host route) in
theorem foreign_inflightTurns (input : Foreign B) (worker : Worker B) :
    (worker.foreign host route input).controls.inflightTurns = worker.controls.inflightTurns := by
  obtain ⟨cleared, hadmits, -⟩ := (Worker.drift_foreign host route input worker).controls
  exact hadmits.inflightTurns

theorem started_eq_true {before after : CodexEventMapper} {underway : SessionId → Option Bool}
    {sessionId : SessionId} (h : started before after underway sessionId = some true) :
    underway sessionId = some true ∨ after.runningTurn sessionId ≠ none := by
  unfold started at h
  split at h
  · next hnew => exact .inr hnew.2.1
  · exact .inl h

theorem setUnderway_other {underway : SessionId → Option Bool} {sessionId other : SessionId}
    {value : Option Bool} (h : setUnderway underway sessionId value other = some true)
    (hvalue : value ≠ some true) : other ≠ sessionId ∧ underway other = some true := by
  unfold setUnderway at h
  split at h
  · exact absurd h hvalue
  · next hother => exact ⟨hother, h⟩

/-- A section of the worker that leaves the mapper and the other marks alone. -/
theorem Seen.other {s t : Sampler B} {other : SessionId} (h : s.Seen other)
    (hphase : s.phase = .resting)
    (hmark : t.worker.controls.inflightTurns[other]? = s.worker.controls.inflightTurns[other]?) :
    t.Seen other := by
  rcases h with hseen | ⟨remaining, hobserving, -⟩
  · exact .inl (hmark.trans hseen)
  · rw [hphase] at hobserving
    cases hobserving

/-- One section. -/
theorem step_remembers {s : Sampler B} {input : SamplerStep B} (hsighted : s.Sighted host route input)
    (h : s.Remembers) : (s.step host route input).1.Remembers := by
  obtain ⟨worker, phase, underway⟩ := s
  cases input with
  | send sessionId =>
    cases phase with
    | resting =>
      intro other hother hidle
      obtain ⟨-, hbefore⟩ := setUnderway_other hother (by simp)
      exact h other hbefore hidle
    | _ => exact h
  | mark sessionId =>
    cases phase with
    | resting =>
      intro other hother hidle
      have hne : sessionId ≠ other := by
        rintro rfl
        exact hsighted hother hidle
      refine (h other hother hidle).other rfl ?_
      show (worker.controls.inflightTurns.insert sessionId false)[other]? = _
      rw [getElem?_insert, if_neg hne]
    | _ => exact h
  | refuse sessionId =>
    cases phase with
    | resting =>
      intro other hother hidle
      obtain ⟨hne, hbefore⟩ := setUnderway_other hother (by simp)
      refine (h other hbefore hidle).other rfl ?_
      show (worker.controls.inflightTurns.erase sessionId)[other]? = _
      rw [getElem?_erase, if_neg hne.symm]
    | _ => exact h
  | flush =>
    cases phase with
    | resting => exact fun other hother hidle => (h other hother hidle).other rfl rfl
    | _ => exact h
  | sample =>
    cases phase with
    | sampling remaining =>
      have hmarked : ∀ other, underway other = some true →
          worker.mapping.mapper.runningTurn other = none →
          worker.controls.inflightTurns[other]? = some true := by
        intro other hother hidle
        rcases h other hother hidle with hseen | ⟨_, hobserving, -⟩
        · exact hseen
        · cases hobserving
      cases remaining with
      | nil => exact fun other hother hidle => .inl (hmarked other hother hidle)
      | cons sessionId remaining =>
        exact fun other hother hidle => .inl (hmarked other hother hidle)
    | _ => exact h
  | observe =>
    cases phase with
    | observing sessionId active remaining =>
      have hcontrols := observed_controls host route sessionId active worker
      have hmark := getElem?_observeTurn worker.controls sessionId
      have hunderway : ∀ other, (step host route
          ⟨worker, .observing sessionId active remaining, underway⟩ .observe).1.underway other =
            if (observed host route sessionId active worker).controls.inflightTurns.contains sessionId
            then underway other else setUnderway underway sessionId none other := by
        intro other
        show (if _ then _ else _ : SessionId → Option Bool) other = _
        split <;> rfl
      intro other hother hidle
      rw [hunderway] at hother
      have hmapping : (observed host route sessionId active worker).mapping = worker.mapping :=
        observed_mapping sessionId active worker
      have hbefore : worker.mapping.mapper.runningTurn other = none := hmapping ▸ hidle
      left
      show (observed host route sessionId active worker).controls.inflightTurns[other]? = some true
      rw [hcontrols, hmark]
      by_cases hsame : sessionId = other
      · subst hsame
        have hcontains : (observed host route sessionId active worker).controls.inflightTurns.contains
            sessionId = true := by
          by_contra hnone
          have hcleared : setUnderway underway sessionId none sessionId = some true :=
            (if_neg hnone).symm.trans hother
          exact absurd (setUnderway_other hcleared (by simp)).1 (by simp)
        have hbegun : underway sessionId = some true := (if_pos hcontains).symm.trans hother
        rw [hcontrols, ExtTreeMap.contains_eq_isSome_getElem?, hmark, if_pos rfl] at hcontains
        rw [if_pos rfl]
        rcases h sessionId hbegun hbefore with hseen | ⟨_, hobserving, hmarked⟩
        · have hseen : worker.controls.inflightTurns[sessionId]? = some true := hseen
          rw [hseen] at hcontains ⊢
          cases active with
          | true => rfl
          | false => simp at hcontains
        · cases hobserving
          have hmarked : worker.controls.inflightTurns.contains sessionId = true := hmarked
          rw [ExtTreeMap.contains_eq_isSome_getElem?] at hmarked
          obtain ⟨seen, hseen⟩ := Option.isSome_iff_exists.mp hmarked
          rw [hseen]
          rfl
      · rw [if_neg hsame]
        have hbegun : underway other = some true := by
          split at hother
          · exact hother
          · exact (setUnderway_other hother (by simp)).2
        rcases h other hbegun hbefore with hseen | ⟨_, hobserving, -⟩
        · exact hseen
        · cases hobserving
          exact absurd rfl hsame
    | _ => exact h
  | foreign input =>
    intro other hother hidle
    have hmarks := foreign_inflightTurns host route input worker
    have hkept : Seen ⟨worker, phase, underway⟩ other →
        Seen (step host route ⟨worker, phase, underway⟩ (.foreign input)).1 other := by
      rintro (hseen | ⟨remaining, hobserving, hcontains⟩)
      · exact .inl ((congrArg (·[other]?) hmarks).trans hseen)
      · exact .inr ⟨remaining, hobserving, (congrArg (·.contains other) hmarks).trans hcontains⟩
    apply hkept
    rcases started_eq_true hother with hbefore | hrunning
    · by_cases hbusy : worker.mapping.mapper.runningTurn other = none
      · exact h other hbefore hbusy
      · exact hsighted other hbefore hbusy hidle
    · exact absurd hidle hrunning

theorem run_remembers (worker : Worker B) {inputs : List (SamplerStep B)}
    (h : Trace.Along (step host route) (Sighted host route) (initial worker) inputs) :
    (Trace.final (step host route) (initial worker) inputs).Remembers :=
  Trace.along_invariant (step host route) (Sighted host route) Remembers
    (fun _ _ hs hsighted => step_remembers hsighted hs) h fun _ hother => nomatch hother

/-- The flush has dropped the mark of an idle session, or is going to. -/
def Due (sessionId : SessionId) (self : Sampler B) : Prop :=
  self.worker.controls.inflightTurns[sessionId]? = none ∨
    (self.worker.controls.inflightTurns[sessionId]? = some true ∧
      match self.phase with
      | .resting => False
      | .sampling remaining => sessionId ∈ remaining
      | .observing other active remaining =>
        (other = sessionId ∧ active = false) ∨ sessionId ∈ remaining)

theorem step_due {s : Sampler B} {input : SamplerStep B} {sessionId : SessionId}
    (hinput : input.isOfFlush = true)
    (hidle : s.worker.mapping.mapper.runningTurn sessionId = none) (h : s.Due sessionId) :
    (s.step host route input).1.Due sessionId := by
  obtain ⟨worker, phase, underway⟩ := s
  cases input with
  | foreign input =>
    have hmarks := congrArg (·[sessionId]?)
      (foreign_inflightTurns host route input worker)
    rcases h with hnone | ⟨hmark, hphase⟩
    · exact .inl (hmarks.trans hnone)
    · exact .inr ⟨hmarks.trans hmark, hphase⟩
  | sample =>
    cases phase with
    | sampling remaining =>
      rcases h with hnone | ⟨hmark, hphase⟩
      · cases remaining <;> exact .inl hnone
      · cases remaining with
        | nil => cases hphase
        | cons other remaining =>
          refine .inr ⟨hmark, ?_⟩
          rcases List.mem_cons.mp hphase with rfl | hlater
          · exact .inl ⟨rfl, Option.isSome_eq_false_iff.mpr (Option.isNone_iff_eq_none.mpr hidle)⟩
          · exact .inr hlater
    | _ => exact h
  | observe =>
    cases phase with
    | observing other active remaining =>
      have hmark' : (observed host route other active worker).controls.inflightTurns[sessionId]? =
          if other = sessionId then
            worker.controls.inflightTurns[sessionId]?.bind fun seen =>
              if active then some true else if seen then none else some false
          else worker.controls.inflightTurns[sessionId]? := by
        rw [observed_controls, getElem?_observeTurn]
      rcases h with hnone | ⟨hmark, hphase⟩
      · left
        have hnone : worker.controls.inflightTurns[sessionId]? = none := hnone
        refine hmark'.trans ?_
        rw [hnone]
        split <;> rfl
      · have hmark : worker.controls.inflightTurns[sessionId]? = some true := hmark
        rw [hmark] at hmark'
        rcases hphase with ⟨rfl, rfl⟩ | hlater
        · rw [if_pos rfl] at hmark'
          exact .inl hmark'
        · by_cases hdropped : other = sessionId ∧ active = false
          · obtain ⟨rfl, rfl⟩ := hdropped
            rw [if_pos rfl] at hmark'
            exact .inl hmark'
          · refine .inr ⟨hmark'.trans ?_, hlater⟩
            split
            · next hsame =>
              cases active with
              | true => rfl
              | false => exact absurd ⟨hsame, rfl⟩ hdropped
            · rfl
    | _ => exact h
  | _ => cases hinput

theorem run_due {s : Sampler B} {inputs : List (SamplerStep B)} {sessionId : SessionId}
    (hinputs : ∀ input ∈ inputs, input.isOfFlush = true)
    (hidle : Trace.Along (step host route)
      (fun s _ => s.worker.mapping.mapper.runningTurn sessionId = none) s inputs)
    (h : s.Due sessionId) : (Trace.final (step host route) s inputs).Due sessionId := by
  induction inputs generalizing s with
  | nil => exact h
  | cons input inputs ih =>
    obtain ⟨hnow, hrest⟩ := hidle
    exact ih (fun other hother => hinputs other (by simp [hother])) hrest
      (step_due (hinputs input (by simp)) hnow h)

/-- A free session whose queue has a prompt and is not paused is served next. -/
theorem mem_queuedSessions {controls : ControlRuntimeState} {sessionId : SessionId}
    (hfree : controls.inflightTurns.contains sessionId = false) {queue : PromptQueue}
    (hqueue : controls.prompts[sessionId]? = some queue) (hpaused : queue.paused = false)
    (hprompts : queue.prompts ≠ []) : sessionId ∈ controls.queuedSessions := by
  unfold ControlRuntimeState.queuedSessions
  refine List.mem_map.mpr ⟨(sessionId, queue), List.mem_filter.mpr ⟨?_, ?_⟩, rfl⟩
  · exact ExtTreeMap.mem_toList_iff_getElem?_eq_some.mpr hqueue
  · simp [hpaused, hprompts, hfree]

/-- What other threads do before a section. -/
def others (s : Interleaved (Worker B) (Foreign B)) : List (SamplerStep B) :=
  (s.schedule.headD []).map .foreign

variable (host route) in
/-- The sections of the worker's loop over the marked sessions. -/
def sections : List SessionId → Interleaved (Worker B) (Foreign B) → List (SamplerStep B)
  | [], _ => [.sample]
  | sessionId :: sessions, s =>
    let looked := s.advance (Worker.foreign host route)
    let active := (looked.state.mapping.mapper.runningTurn sessionId).isSome
    let wrote := looked.advance (Worker.foreign host route)
    others s ++ .sample :: (others looked ++ .observe ::
      sections sessions ⟨observed host route sessionId active wrote.state, wrote.schedule⟩)

theorem others_of_flush (s : Interleaved (Worker B) (Foreign B)) :
    ∀ input ∈ others s, SamplerStep.isOfFlush input = true := by
  intro input hinput
  obtain ⟨other, -, rfl⟩ := List.mem_map.mp hinput
  rfl

theorem sections_of_flush (sessions : List SessionId) (s : Interleaved (Worker B) (Foreign B)) :
    ∀ input ∈ sections host route sessions s, SamplerStep.isOfFlush input = true := by
  induction sessions generalizing s with
  | nil => simp [sections, SamplerStep.isOfFlush]
  | cons sessionId sessions ih =>
    simp only [sections, List.mem_append, List.mem_cons]
    rintro input (h | rfl | h | rfl | h)
    · exact others_of_flush _ input h
    · rfl
    · exact others_of_flush _ input h
    · rfl
    · exact ih _ input h

variable (host route) in
theorem run_foreign (batch : List (Foreign B)) (worker : Worker B) (phase : SamplePhase)
    (underway : SessionId → Option Bool) : ∃ underway',
      Trace.final (step host route) ⟨worker, phase, underway⟩ (batch.map .foreign) =
        ⟨batch.foldl (fun worker input => worker.foreign host route input) worker, phase, underway'⟩ := by
  induction batch generalizing worker underway with
  | nil => exact ⟨underway, rfl⟩
  | cons input batch ih => exact ih _ _

variable (host route) in
theorem run_others (s : Interleaved (Worker B) (Foreign B)) (phase : SamplePhase)
    (underway : SessionId → Option Bool) :
    ∃ underway', Trace.final (step host route) ⟨s.state, phase, underway⟩ (others s) =
      ⟨(s.advance (Worker.foreign host route)).state, phase, underway'⟩ := by
  obtain ⟨worker, schedule⟩ := s
  cases schedule with
  | nil => exact ⟨underway, rfl⟩
  | cons batch rest => exact run_foreign host route batch worker phase underway

variable (host route) in
/-- The worker's loop over the marked sessions is the run of these sections. -/
theorem sampling_is_run (sessions : List SessionId) (s : Interleaved (Worker B) (Foreign B))
    (underway : SessionId → Option Bool) :
    (Program.forEach (Work.sampleTurn host route) sessions s).1 = .ok () ∧ ∃ underway',
      Trace.final (step host route) ⟨s.state, .sampling sessions, underway⟩
          (sections host route sessions s) =
        ⟨(Program.forEach (Work.sampleTurn host route) sessions s).2.state, .resting, underway'⟩ := by
  induction sessions generalizing s underway with
  | nil => exact ⟨rfl, underway, rfl⟩
  | cons sessionId sessions ih =>
    let looked := s.advance (Worker.foreign host route)
    let active := (looked.state.mapping.mapper.runningTurn sessionId).isSome
    let wrote := looked.advance (Worker.foreign host route)
    have hactive : ((looked.state.mapping.mapper.commandContext sessionId).any fun context =>
        context.2.1.isSome) = active := by
      unfold active CodexEventMapper.runningTurn
      cases looked.state.mapping.mapper.commandContext sessionId <;> rfl
    have hsample : Work.sampleTurn host route sessionId s =
        (.ok (), ⟨observed host route sessionId active wrote.state, wrote.schedule⟩) := by
      rw [← hactive]
      rfl
    obtain ⟨afterFirst, hlook⟩ := run_others host route s (.sampling (sessionId :: sessions)) underway
    obtain ⟨afterSecond, hwrite⟩ :=
      run_others host route looked (.observing sessionId active sessions) afterFirst
    have hobserve : ∃ afterThird, (step host route
        ⟨wrote.state, .observing sessionId active sessions, afterSecond⟩ .observe).1 =
          ⟨observed host route sessionId active wrote.state, .sampling sessions, afterThird⟩ :=
      ⟨_, rfl⟩
    obtain ⟨afterThird, hobserve⟩ := hobserve
    obtain ⟨hresult, afterRest, hrun⟩ :=
      ih ⟨observed host route sessionId active wrote.state, wrote.schedule⟩ afterThird
    have hloop : Program.forEach (Work.sampleTurn host route) (sessionId :: sessions) s =
        Program.forEach (Work.sampleTurn host route) sessions
          ⟨observed host route sessionId active wrote.state, wrote.schedule⟩ :=
      Program.bind_of_ok hsample
    have hlooked : (step host route ⟨looked.state, .sampling (sessionId :: sessions), afterFirst⟩
        .sample).1 = ⟨looked.state, .observing sessionId active sessions, afterFirst⟩ := rfl
    rw [hloop]
    refine ⟨hresult, afterRest, ?_⟩
    rw [sections, Trace.final_append, hlook, Trace.final_cons, hlooked, Trace.final_append, hwrite,
      Trace.final_cons, hobserve, hrun]

/-- A flush that begins at rest after a turn of the session is over, and during whose sampling
the thread stays idle, frees the session. -/
theorem flush_frees {s : Sampler B} (hremembers : s.Remembers) {sessionId : SessionId}
    (hphase : s.phase = .resting) (hbegun : s.underway sessionId = some true)
    {pass : List (SamplerStep B)} (hpass : ∀ input ∈ pass, input.isOfFlush = true)
    (hidle : Trace.Along (step host route)
      (fun s _ => s.worker.mapping.mapper.runningTurn sessionId = none) s (.flush :: pass))
    (hended : (Trace.final (step host route) s (.flush :: pass)).phase = .resting) :
    (Trace.final (step host route) s (.flush :: pass)).worker.controls.inflightTurns.contains
      sessionId = false := by
  obtain ⟨hnow, hrest⟩ := hidle
  have hmark : s.worker.controls.inflightTurns[sessionId]? = some true := by
    rcases hremembers sessionId hbegun hnow with hseen | ⟨_, hobserving, -⟩
    · exact hseen
    · rw [hphase] at hobserving
      cases hobserving
  have hbegins : (s.step host route .flush).1 =
      { s with phase := .sampling s.worker.controls.inflightSessions } := by
    obtain ⟨worker, phase, underway⟩ := s
    cases hphase
    rfl
  have hlisted : sessionId ∈ s.worker.controls.inflightSessions := by
    refine ExtTreeMap.mem_keys.mpr (ExtTreeMap.mem_iff_isSome_getElem?.mpr ?_)
    rw [hmark]
    rfl
  have hdue : (s.step host route .flush).1.Due sessionId := by
    rw [hbegins]
    exact .inr ⟨hmark, hlisted⟩
  rw [Trace.final_cons] at hended ⊢
  rw [ExtTreeMap.contains_eq_isSome_getElem?]
  rcases run_due hpass hrest hdue with hnone | ⟨-, hsampling⟩
  · rw [hnone]
    rfl
  · rw [hended] at hsampling
    cases hsampling

/-- The worker's own loop over the marked sessions frees the session, if the thread stays idle
while it runs. -/
theorem sampling_frees (worker : Worker B) {before : List (SamplerStep B)}
    (hsighted : Trace.Along (step host route) (Sighted host route) (initial worker) before)
    {s : Sampler B} (hs : Trace.final (step host route) (initial worker) before = s)
    (hphase : s.phase = .resting) {sessionId : SessionId} (hbegun : s.underway sessionId = some true)
    (schedule : List (List (Foreign B)))
    (hidle : Trace.Along (step host route)
      (fun s _ => s.worker.mapping.mapper.runningTurn sessionId = none) s
      (.flush :: sections host route s.worker.controls.inflightSessions ⟨s.worker, schedule⟩)) :
    let sampled := Program.forEach (Work.sampleTurn host route) s.worker.controls.inflightSessions
      ⟨s.worker, schedule⟩
    sampled.1 = .ok () ∧ sampled.2.state.controls.inflightTurns.contains sessionId = false := by
  intro sampled
  obtain ⟨hresult, underway', hrun⟩ := sampling_is_run host route
    s.worker.controls.inflightSessions ⟨s.worker, schedule⟩ s.underway
  have hbegins : (s.step host route .flush).1 =
      ⟨s.worker, .sampling s.worker.controls.inflightSessions, s.underway⟩ := by
    obtain ⟨worker, phase, underway⟩ := s
    cases hphase
    rfl
  have hfinal : Trace.final (step host route) s
      (.flush :: sections host route s.worker.controls.inflightSessions ⟨s.worker, schedule⟩) =
        ⟨sampled.2.state, .resting, underway'⟩ := by
    rw [Trace.final_cons, hbegins]
    exact hrun
  have hremembers : s.Remembers := by
    rw [← hs]
    exact run_remembers worker hsighted
  have hfrees := flush_frees hremembers hphase hbegun (sections_of_flush _ _) hidle (by rw [hfinal])
  rw [hfinal] at hfrees
  exact ⟨hresult, hfrees⟩

end Sampler

open Sampler in
/-- In every run in which no turn that was awaited ends unseen: a flush that begins when such a
turn is over, and during whose sampling the thread stays idle, frees the session. -/
theorem finished_turn_frees {B : Type} (host : ProviderHost B) (route : ApprovalRoute)
    (worker : Worker B) {before pass : List (SamplerStep B)}
    (hsighted : Trace.Along (step host route) (Sighted host route) (initial worker) before)
    {sessionId : SessionId}
    (hphase : (Trace.final (step host route) (initial worker) before).phase = .resting)
    (hbegun : (Trace.final (step host route) (initial worker) before).underway sessionId = some true)
    (hpass : ∀ input ∈ pass, input.isOfFlush = true)
    (hidle : Trace.Along (step host route)
      (fun s _ => s.worker.mapping.mapper.runningTurn sessionId = none)
      (Trace.final (step host route) (initial worker) before) (.flush :: pass))
    (hended : (Trace.final (step host route) (initial worker) (before ++ .flush :: pass)).phase =
      .resting) :
    let controls := (Trace.final (step host route) (initial worker)
      (before ++ .flush :: pass)).worker.controls
    controls.inflightTurns.contains sessionId = false ∧
      ∀ queue, controls.prompts[sessionId]? = some queue → queue.paused = false →
        queue.prompts ≠ [] → sessionId ∈ controls.queuedSessions := by
  intro controls
  have hfinal := Trace.final_append (step host route) (initial worker) before (.flush :: pass)
  have hfree : controls.inflightTurns.contains sessionId = false := by
    rw [hfinal] at hended
    have hfrees := flush_frees (run_remembers worker hsighted) hphase hbegun hpass hidle hended
    rw [← hfinal] at hfrees
    exact hfrees
  exact ⟨hfree, fun queue hqueue hpaused hprompts => mem_queuedSessions hfree hqueue hpaused hprompts⟩

namespace Sample

/-- A prompt of the session is sent and marked, and a proxied connection maps the start of its
turn. -/
def promptRunning : List (SamplerStep Nat) :=
  [.send session, .mark session, .foreign (.mapping (turnStarted "t1"))]

def turnCompleted : SamplerStep Nat :=
  .foreign (.mapping (.notification "turn/completed" (turnParams "t1" "completed")))

/-- The sampling of one marked session, to the end of the loop. -/
def samplingOne : List (SamplerStep Nat) := [.sample, .observe, .sample]

def sampledRun : List (SamplerStep Nat) := promptRunning ++ .flush :: samplingOne ++ [turnCompleted]

def unsampledRun : List (SamplerStep Nat) := promptRunning ++ [turnCompleted]

/-- Nothing but the turns of the sample session is awaited. -/
def OnlySample (s : Sampler Nat) : Prop := ∀ other, other ≠ session → s.underway other = none

/-- The condition on a step, as far as the sample session goes. -/
def sightedSample (s : Sampler Nat) : SamplerStep Nat → Bool
  | .send sessionId => sessionId = session
  | .mark sessionId => s.underway sessionId = some true →
      s.worker.mapping.mapper.runningTurn sessionId ≠ none
  | .foreign input => s.underway session = some true →
      s.worker.mapping.mapper.runningTurn session ≠ none →
      (s.worker.foreign host .observer input).mapping.mapper.runningTurn session = none →
      s.worker.controls.inflightTurns[session]? = some true
  | _ => true

theorem step_onlySample {s : Sampler Nat} {input : SamplerStep Nat} (hs : OnlySample s)
    (hinput : sightedSample s input = true) : OnlySample (s.step host .observer input).1 := by
  obtain ⟨worker, phase, underway⟩ := s
  have hset : ∀ sessionId value, value = none ∨ sessionId = session → ∀ other, other ≠ session →
      Sampler.setUnderway underway sessionId value other = none := by
    intro sessionId value hvalue other hother
    unfold Sampler.setUnderway
    split
    · next hsame =>
      rcases hvalue with hnone | hsample
      · exact hnone
      · exact absurd (hsame.trans hsample) hother
    · exact hs other hother
  cases input with
  | send sessionId =>
    cases phase with
    | resting => exact hset sessionId _ (.inr (of_decide_eq_true hinput))
    | _ => exact hs
  | mark sessionId => cases phase <;> exact hs
  | refuse sessionId =>
    cases phase with
    | resting => exact hset sessionId none (.inl rfl)
    | _ => exact hs
  | flush => cases phase <;> exact hs
  | sample =>
    cases phase with
    | sampling remaining => cases remaining <;> exact hs
    | _ => exact hs
  | observe =>
    cases phase with
    | observing sessionId active remaining =>
      intro other hother
      show (if _ then _ else _ : SessionId → Option Bool) other = none
      split
      · exact hs other hother
      · exact hset sessionId none (.inl rfl) other hother
    | _ => exact hs
  | foreign input =>
    intro other hother
    have hnone : underway other = none := hs other hother
    show Sampler.started _ _ underway other = none
    simp [Sampler.started, hnone]

theorem sighted_of_sample {s : Sampler Nat} {input : SamplerStep Nat} (hs : OnlySample s)
    (hinput : sightedSample s input = true) : s.Sighted host .observer input := by
  cases input with
  | mark sessionId =>
    have hrunning : s.underway sessionId = some true →
        s.worker.mapping.mapper.runningTurn sessionId ≠ none := of_decide_eq_true hinput
    exact hrunning
  | foreign input =>
    intro sessionId hbegun hrunning hidle
    have hsample : sessionId = session := by
      by_contra hother
      rw [hs sessionId hother] at hbegun
      cases hbegun
    subst hsample
    exact .inl (of_decide_eq_true hinput hbegun hrunning hidle)
  | _ => trivial

theorem along_sample {s : Sampler Nat} {inputs : List (SamplerStep Nat)} (hs : OnlySample s)
    (h : Trace.Along (Sampler.step host .observer) (fun s input => sightedSample s input = true) s
      inputs) : Trace.Along (Sampler.step host .observer) (Sampler.Sighted host .observer) s inputs := by
  induction inputs generalizing s with
  | nil => trivial
  | cons input inputs ih =>
    exact ⟨sighted_of_sample hs h.1, ih (step_onlySample hs h.1) h.2⟩

/-- Two prompts are queued; a proxied connection maps the start and the end of the first turn
between two flushes of the worker. -/
def betweenFlushes : List (List (Foreign Nat)) :=
  [.accept (command 0 (.submitPrompt prompt .queue)),
    .accept (command 1 (.submitPrompt prompt .queue))] :: List.replicate 17 [] ++
    [[.mapping (turnStarted "t1"),
      .mapping (.notification "turn/completed" (turnParams "t1" "completed"))]]

/-- The worker reads the answer in its second round and goes on. -/
def stalledRounds : List Work.Round := [quiet, promptAnswered, quiet, quiet, quiet]

end Sample

open AgentPulse.Codex.Sample Sampler in
/-- A turn that a flush has seen frees its session when it is over. -/
theorem finished_turn_frees_sampled :
    (Trace.final (Sampler.step host .observer) (Sampler.initial idling)
      (sampledRun ++ .flush :: samplingOne)).worker.controls.inflightTurns.contains session = false := by
  have hsighted : Trace.Along (Sampler.step host .observer) (Sampler.Sighted host .observer)
      (Sampler.initial idling) sampledRun :=
    along_sample (fun _ _ => rfl) (by decide +kernel)
  exact (finished_turn_frees host .observer idling hsighted (by decide +kernel) (by decide +kernel)
    (by decide) (by decide +kernel) (by decide +kernel)).1

open AgentPulse.Codex.Sample Sampler in
/-- A turn that starts and ends between two flushes leaves its session marked: the next flush
does not free it, and in a run of the worker the second prompt is never sent. -/
theorem finished_turn_stalls :
    (Trace.final (Sampler.step host .observer) (Sampler.initial idling) unsampledRun).underway session =
        some true ∧
    Trace.Along (Sampler.step host .observer)
      (fun s _ => s.worker.mapping.mapper.runningTurn session = none)
      (Trace.final (Sampler.step host .observer) (Sampler.initial idling) unsampledRun)
      (.flush :: samplingOne) ∧
    (Trace.final (Sampler.step host .observer) (Sampler.initial idling)
      (unsampledRun ++ .flush :: samplingOne)).phase = .resting ∧
    (Trace.final (Sampler.step host .observer) (Sampler.initial idling)
      (unsampledRun ++ .flush :: samplingOne)).worker.controls.inflightTurns.contains session = true ∧
    Work.runLog host schema .observer idling betweenFlushes 3 stalledRounds =
      [.picked session ⟨0, prompt⟩, .dispatched session .default none, .started session ⟨0, prompt⟩,
        .completed session ⟨0, prompt⟩ (some ⟨0, prompt⟩)] := by
  refine ⟨?_, ?_, ?_, ?_, ?_⟩
  · decide +kernel
  · decide +kernel
  · decide +kernel
  · decide +kernel
  · decide +kernel

end Codex

end AgentPulse
