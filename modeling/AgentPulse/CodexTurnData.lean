import AgentPulse.CodexCompletedTurn
import AgentPulse.CodexRecord

/-!
# What one turn leaves to the next

Of the running turn of a thread the mapper keeps the proposed plan, the last
final answer and the last message. Only a started turn drops what the turn before
left. The other ways to take over a turn keep it, so it is the turn's own only
if nothing of another turn was left. A message is kept before it is published, so
one whose publication fails is kept without having been mapped.
-/
namespace AgentPulse

namespace Codex

open Std (ExtTreeMap)
open Program (Preserves Triple bind_apply)
open Serde (Json)

/-- What the mapper keeps of a turn. -/
structure TurnData where
  plan : Option String
  final : Option NonEmptyText
  message : Option NonEmptyText
  deriving DecidableEq

def TurnData.empty : TurnData := ⟨none, none, none⟩

/-- The running turn of a thread and what is kept for it. -/
structure TurnView where
  turn : Option String
  data : TurnData

def ThreadMapping.turnView (self : ThreadMapping) : TurnView :=
  ⟨self.activeTurnId, ⟨self.proposedPlan, self.lastFinalMessage, self.lastMessage⟩⟩

def CodexEventMapper.turnView (self : CodexEventMapper) (threadId : String) : TurnView :=
  match self.threads[threadId]? with
  | some mapping => mapping.turnView
  | none => ⟨none, .empty⟩

/-- A message or a plan of a turn in an `item/completed`. -/
structure Told where
  turn : String
  plan : Bool
  final : Bool
  content : NonEmptyText
  deriving DecidableEq

/-- A plan of the turn was told. -/
def Proposed (told : List Told) (turn : String) : Prop :=
  ∃ item ∈ told, item.turn = turn ∧ item.plan = true

def lastMessageOf (told : List Told) (turn : String) : Option NonEmptyText :=
  ((told.filter fun item => item.turn == turn).getLast?).map Told.content

def lastFinalOf (told : List Told) (turn : String) : Option NonEmptyText :=
  ((told.filter fun item => item.turn == turn && item.final).getLast?).map Told.content

/-- What is kept for a turn is what the server told of it. -/
structure Own (told : List Told) (turn : String) (data : TurnData) : Prop where
  plan : data.plan.isSome = true → Proposed told turn
  final : data.final = lastFinalOf told turn
  message : ∀ content, data.message = some content → lastMessageOf told turn = some content

/-- What is kept for a running turn is its own. -/
def Owned (told : List Told) (view : TurnView) : Prop :=
  ∀ turn, view.turn = some turn → Own told turn view.data

/-- The text is the last final answer of the turn, or its last message if it has none. -/
def Summarizes (told : List Told) (turn : String) (text : NonEmptyText) : Prop :=
  lastFinalOf told turn = some text ∨
    lastFinalOf told turn = none ∧ lastMessageOf told turn = some text

/-- The payload says nothing of the end of the turn that the server did not tell of it. -/
structure FairTo (told : List Told) (turn : String) (payload : AgentEventPayload) : Prop where
  waiting : payload = .stateChanged .waitingForInteraction → Proposed told turn
  summary : ∀ text, payload = .sessionEnded (.completed (some text)) → Summarizes told turn text

def messageTold (turn itemType : String) (item : Value) (content : NonEmptyText) : Told :=
  ⟨turn, decide (itemType = "plan"),
    decide ((item.get "phase").bind Json.asStr = some "final_answer"), content⟩

/-- The message of a completed item of a turn. -/
def messageOfItem (turn : String) (params : Value) : Option Told := do
  let item ← (objectField params "item").toOption
  let _ ← (stringField item "id").toOption
  let itemType ← (stringField item "type").toOption
  if itemType ≠ "agentMessage" ∧ itemType ≠ "plan" then none
  else do
    let text ← (stringField item "text").toOption
    let content ← (NonEmptyText.new text).toOption
    some (messageTold turn itemType item content)

/-- The message that the handler of an `item/completed` keeps on a thread that runs `active`. -/
def completedMessage (active : Option String) (params : Value) : Option Told := do
  let turn ← (stringField params "turnId").toOption
  if active.any fun running => running != turn then none else messageOfItem turn params

/-- The notification is about the thread, and none of the checks before its handler drops it. -/
def CodexEventMapper.handles (self : CodexEventMapper) (thread method : String) (params : Value) :
    Bool :=
  Mapping.notificationThread params == some thread &&
    (self.configured.contains thread && self.threads.contains thread) &&
    !((Mapping.notificationTurn params).any fun turn =>
      self.recentKeys.contains (Mapping.completedKey thread turn)) &&
    match notificationKey method params thread with
    | .ok key => !(key.any fun key => self.recentKeys.contains key)
    | .error _ => false

/-- The turn that the handler of a notification makes an idle thread run. Only a started
turn drops what is kept. -/
def takenBy (method : String) (params : Value) (data : TurnData) : Option (String × TurnData) :=
  if method = "turn/started" then (nestedId params "turn").map fun turn => (turn, .empty)
  else if method = "turn/completed" then (nestedId params "turn").map fun turn => (turn, data)
  else if method = "item/started" ∨ method = "item/fileChange/patchUpdated" ∨
      method = "item/completed" then
    ((params.get "turnId").bind Json.asStr).map fun turn => (turn, data)
  else none

namespace MapperOp

/-- The message of the thread that the operation has the mapper keep, mapped or not. -/
def kept (thread : String) (m : CodexEventMapper) : MapperOp → Option Told
  | .notification method params =>
    if method = "item/completed" ∧ m.handles thread method params = true then
      completedMessage (m.turnView thread).turn params
    else none
  | _ => none

/-- The turn that the operation would make an idle thread run, with what is kept for it then. -/
def takes (thread : String) (m : CodexEventMapper) : MapperOp → Option (String × TurnData)
  | .notification method params =>
    if m.handles thread method params = true then
      takenBy method params (m.turnView thread).data
    else none
  | .approvalContext threadId turn _ =>
    if threadId = thread ∧ m.configured.contains thread = true then
      some (turn, (m.turnView thread).data)
    else none
  | _ => none

end MapperOp

/-- What the mapper keeps once it has taken a message. -/
def TurnData.keep (data : TurnData) (item : Told) : TurnData where
  plan := if item.plan = true then some item.content.asStr else data.plan
  final := if item.final = true then some item.content else data.final
  message := some item.content

/-- The session of the thread and the number of its next event. -/
def CodexEventMapper.nextPlace (self : CodexEventMapper) (threadId : String) :
    Option (SessionId × EventSequence) :=
  self.threads[threadId]?.map fun mapping => (mapping.sessionId, mapping.nextSequence)

namespace Mapping

variable {B : Type} (host : ProviderHost B)

/-- The event that a completed message is to be published as, where its time is a timestamp
and the thread has a number left after it. -/
def messageEvent (threadId : String) (params : Value) (content : NonEmptyText)
    (s : MapperState B) : Option AgentEvent := do
  let completedAt ← (i64Field params "completedAtMs").toOption
  let occurredAt ← (timestampWithMultiplier completedAt 1000000).toOption
  let (sessionId, sequence) ← s.mapper.nextPlace threadId
  let _ ← sequence.checkedNext
  (domain (AgentEvent.new (host.newId .event s.host).1 sessionId sequence occurredAt
    (.message ⟨.assistant, .info, content⟩))).toOption

/-- A completed message has an event, and the host takes it. -/
def delivers (threadId : String) (params : Value) (content : NonEmptyText) (s : MapperState B) :
    Bool :=
  (messageEvent host threadId params content s).any fun event =>
    committed (host.publishEvent (host.newId .event s.host).2 event).2

/-- The message of the thread that the operation maps. -/
def mappedMessage (thread : String) (s : MapperState B) : MapperOp → Option Told
  | .notification method params =>
    if (notification host method params s).1 = .ok .mapped then
      (MapperOp.notification method params).kept thread s.mapper
    else none
  | _ => none

end Mapping

/-- The mapper with its host, and the messages of one thread that were mapped so far. -/
structure Listened (B : Type) where
  state : MapperState (B × List AgentEvent)
  told : List Told

namespace Listened

variable {B : Type} (host : ProviderHost B) (thread : String)

def step (self : Listened B) (op : MapperOp) :
    Listened B × Except CodexProviderSourceError Unit :=
  (⟨(self.state.step (recording host) op).1,
    self.told ++ (Mapping.mappedMessage (recording host) thread self.state op).toList⟩,
    (self.state.step (recording host) op).2)

/-- Where the operation lets the thread run a turn, all that is kept then is the turn's own.
A message that it has the mapper keep is also published, or leaves what is the turn's own. -/
structure KeepsApart (listened : Listened B) (op : MapperOp) : Prop where
  taken : (listened.state.mapper.turnView thread).turn = none → ∀ turn data,
    op.takes thread listened.state.mapper = some (turn, data) → Own listened.told turn data
  resumed : ∀ payload ∈ op.resumed listened.state.mapper,
    Mapping.Lists thread (fun active => ∀ turn, active = some turn →
      Own listened.told turn (listened.state.mapper.turnView thread).data) payload
  published : ∀ method params message, op = .notification method params →
    op.kept thread listened.state.mapper = some message →
    Mapping.delivers (recording host) thread params message.content listened.state = true ∨
      Own listened.told message.turn
        ((listened.state.mapper.turnView thread).data.keep message)

/-- A completed turn is offered with its own plan only, and summed up by its own messages. -/
def EndsFairly (self : Listened B) (op : MapperOp) : Prop :=
  ∀ params turn s', op = .notification "turn/completed" params →
    Mapping.notificationThread params = some thread → nestedId params "turn" = some turn →
    Mapping.notification (recording host) "turn/completed" params self.state =
      (.ok .mapped, s') →
    (s'.mapper.hasPlan thread = true → Proposed self.told turn) ∧
      ∃ events, s'.host.2 = self.state.host.2 ++ events ∧
        ∀ event ∈ events, FairTo self.told turn event.payload

end Listened

theorem lastMessageOf_snoc (told : List Told) (item : Told) (turn : String) :
    lastMessageOf (told ++ [item]) turn =
      if item.turn = turn then some item.content else lastMessageOf told turn := by
  by_cases h : item.turn = turn <;> simp [lastMessageOf, List.filter_append, h]

theorem lastFinalOf_snoc (told : List Told) (item : Told) (turn : String) :
    lastFinalOf (told ++ [item]) turn =
      if item.turn = turn ∧ item.final = true then some item.content
      else lastFinalOf told turn := by
  by_cases h : item.turn = turn ∧ item.final = true
  · simp [lastFinalOf, List.filter_append, h]
  · have hfilter : (item.turn == turn && item.final) = false := by simpa using h
    simp [lastFinalOf, List.filter_append, hfilter, h]

theorem Proposed.snoc {told : List Told} {turn : String} (h : Proposed told turn) (item : Told) :
    Proposed (told ++ [item]) turn := by
  obtain ⟨found, hmem, hfound⟩ := h
  exact ⟨found, List.mem_append_left _ hmem, hfound⟩

theorem Own.keep {told : List Told} {data : TurnData} {item : Told}
    (h : Own told item.turn data) : Own (told ++ [item]) item.turn (data.keep item) where
  plan hplan := by
    by_cases hitem : item.plan = true
    · exact ⟨item, by simp, rfl, hitem⟩
    · simp only [TurnData.keep, if_neg hitem] at hplan
      exact (h.plan hplan).snoc item
  final := by
    rw [lastFinalOf_snoc, ← h.final]
    by_cases hitem : item.final = true <;> simp [TurnData.keep, hitem]
  message content hcontent := by
    rw [lastMessageOf_snoc, if_pos rfl]
    exact hcontent

theorem Own.summarizes {told : List Told} {turn : String} {data : TurnData} {text : NonEmptyText}
    (h : Own told turn data) (htext : data.final.or data.message = some text) :
    Summarizes told turn text := by
  cases hfinal : data.final with
  | some content =>
    left
    rw [← h.final, hfinal]
    simpa [hfinal] using htext
  | none =>
    right
    refine ⟨by rw [← h.final, hfinal], h.message text ?_⟩
    simpa [hfinal] using htext

theorem own_nil (turn : String) : Own [] turn .empty where
  plan h := by cases h
  final := rfl
  message content h := by cases h

theorem owned_idle (told : List Told) (data : TurnData) : Owned told ⟨none, data⟩ := by
  intro turn hturn
  cases hturn

theorem owned_running {told : List Told} {turn : String} {data : TurnData}
    (h : Own told turn data) : Owned told ⟨some turn, data⟩ := by
  intro found hfound
  cases hfound
  exact h

namespace CodexEventMapper

theorem turnView_of_mapping {m : CodexEventMapper} {thread : String} {mapping : ThreadMapping}
    (h : m.threads[thread]? = some mapping) : m.turnView thread = mapping.turnView := by
  simp [turnView, h]

theorem turn_turnView (m : CodexEventMapper) (thread : String) :
    (m.turnView thread).turn = m.activeTurn thread := by
  unfold turnView activeTurn
  cases m.threads[thread]? <;> rfl

theorem turnView_congr {m m' : CodexEventMapper} (h : m'.threads = m.threads) (thread : String) :
    m'.turnView thread = m.turnView thread := by
  simp [turnView, h]

theorem turnView_updateThread_other (m : CodexEventMapper) {id thread : String}
    (f : ThreadMapping → ThreadMapping) (h : id ≠ thread) :
    (m.updateThread id f).turnView thread = m.turnView thread := by
  simp [turnView, threads_updateThread, h]

/-- An update that touches nothing of the running turn. -/
theorem turnView_updateThread_keep (m : CodexEventMapper) (id thread : String)
    {f : ThreadMapping → ThreadMapping} (hf : ∀ mapping, (f mapping).turnView = mapping.turnView) :
    (m.updateThread id f).turnView thread = m.turnView thread := by
  unfold turnView
  rw [threads_updateThread]
  by_cases hid : id = thread
  · rw [if_pos hid]
    cases m.threads[thread]? with
    | none => rfl
    | some mapping => exact hf mapping
  · rw [if_neg hid]

theorem turnView_updateThread_self {m : CodexEventMapper} {thread : String}
    {mapping : ThreadMapping} {f : ThreadMapping → ThreadMapping}
    (h : m.threads[thread]? = some mapping) :
    (m.updateThread thread f).turnView thread = (f mapping).turnView := by
  apply turnView_of_mapping
  rw [threads_updateThread, if_pos rfl, h]
  rfl

theorem threads_rememberKey (m : CodexEventMapper) (key : String) :
    (m.rememberKey key).threads = m.threads := by
  unfold rememberKey
  dsimp only
  split
  · split <;> rfl
  · rfl

theorem threads_retryObserverResume (m : CodexEventMapper) (id : String) :
    (m.retryObserverResume id).threads = m.threads := by
  unfold retryObserverResume
  split <;> rfl

theorem recentKeys_retryObserverResume (m : CodexEventMapper) (id : String) :
    (m.retryObserverResume id).recentKeys = m.recentKeys := by
  unfold retryObserverResume
  split <;> rfl

end CodexEventMapper

theorem PayloadState.turnView_apply (payload : PayloadState) (mapping : ThreadMapping) :
    (payload.apply mapping).turnView = mapping.turnView := by
  cases payload <;> rfl

namespace Mapping

variable {B : Type} {host : ProviderHost B} {thread turn : String} {P : TurnView → Prop}

/-- What holds of the running turn of a thread and of what is kept for it. -/
def Viewed (thread : String) (P : TurnView → Prop) (s : MapperState B) : Prop :=
  P (s.mapper.turnView thread)

theorem viewed_onMapper {f : CodexEventMapper → CodexEventMapper}
    (h : ∀ m, (f m).turnView thread = m.turnView thread) :
    Preserves (Viewed thread P) (onMapper f : Mapping B Unit) := by
  apply Preserves.modify
  intro s hs
  show P ((f s.mapper).turnView thread)
  rw [h s.mapper]
  exact hs

theorem viewed_publishCommitted (event : AgentEvent) :
    Preserves (Viewed thread P) (publishCommitted host event) := by
  apply Preserves.bind (Preserves.update fun s hs => hs)
  intro result
  cases result with
  | ok report => exact Preserves.pure _
  | error error => exact Preserves.ite (fun _ => Preserves.pure _) fun _ => Preserves.fail _

theorem steady_viewed (host : ProviderHost B) (thread : String) (P : TurnView → Prop) :
    Steady host (Viewed thread P) where
  nowUtc := Preserves.update fun _ hs => hs
  newId _ := Preserves.update fun _ hs => hs
  publishTracked threadId occurredAt payload := by
    apply Preserves.bind (steady_trackedThread threadId)
    intro mapping
    apply Preserves.bind (Preserves.update fun _ hs => hs)
    intro id
    apply Preserves.bind (Preserves.ofExcept _)
    intro event
    apply Preserves.bind (viewed_publishCommitted event)
    intro _
    apply Preserves.bind (steady_trackedThread threadId)
    intro published
    cases published.nextSequence.checkedNext with
    | none => exact Preserves.fail _
    | some next =>
      apply viewed_onMapper
      intro m
      exact m.turnView_updateThread_keep threadId thread fun mapping =>
        PayloadState.turnView_apply _ _
  choices _ := viewed_onMapper fun _ => rfl
  items _ := viewed_onMapper fun _ => rfl
  settings threadId _ _ :=
    viewed_onMapper fun m => m.turnView_updateThread_keep threadId thread fun _ => rfl
  planReady threadId _ :=
    viewed_onMapper fun m => m.turnView_updateThread_keep threadId thread fun _ => rfl

/-- Writing to a tracked thread. -/
theorem viewed_write {s : MapperState B} {threadId : String} {mapping : ThreadMapping}
    {f : ThreadMapping → ThreadMapping} (hs : Viewed thread P s)
    (hm : s.mapper.threads[threadId]? = some mapping)
    (hwrite : threadId = thread → P mapping.turnView → P (f mapping).turnView) :
    Viewed thread P { s with mapper := s.mapper.updateThread threadId f } := by
  show P ((s.mapper.updateThread threadId f).turnView thread)
  by_cases hid : threadId = thread
  · subst hid
    rw [CodexEventMapper.turnView_updateThread_self hm]
    apply hwrite rfl
    rw [← CodexEventMapper.turnView_of_mapping hm]
    exact hs
  · rw [s.mapper.turnView_updateThread_other f hid]
    exact hs

/-- The same where the thread need not be tracked. -/
theorem viewed_update {threadId : String} {f : ThreadMapping → ThreadMapping}
    (hwrite : threadId = thread → ∀ mapping : ThreadMapping,
      P mapping.turnView → P (f mapping).turnView) :
    Preserves (Viewed thread P)
      (onMapper fun m => m.updateThread threadId f : Mapping B Unit) := by
  apply Preserves.modify
  intro s hs
  cases hm : s.mapper.threads[threadId]? with
  | none =>
    show P ((s.mapper.updateThread threadId f).turnView thread)
    unfold CodexEventMapper.updateThread
    rw [hm]
    exact hs
  | some mapping => exact viewed_write hs hm fun hid hP => hwrite hid mapping hP

theorem viewed_ensureActiveTurn {threadId turnId : String}
    (h : threadId = thread → ∀ data, P ⟨none, data⟩ → P ⟨some turnId, data⟩) :
    Preserves (Viewed thread P) (ensureActiveTurn threadId turnId : Mapping B Unit) := by
  constructor
  intro s hs
  unfold ensureActiveTurn
  cases hm : s.mapper.threads[threadId]? with
  | none =>
    rw [Program.bind_of_error (trackedThread_of_none hm)]
    exact hs
  | some mapping =>
    rw [Program.bind_of_ok (trackedThread_of_some hm)]
    cases hactive : mapping.activeTurnId with
    | some active =>
      exact (Preserves.ite (fun _ => Preserves.fail _) fun _ => Preserves.pure _).holds s hs
    | none =>
      apply viewed_write hs hm
      intro hid hP
      apply h hid
      rw [← hactive]
      exact hP

/-- A turn is started only on an idle thread, which drops what was kept. -/
theorem viewed_turnStarted {threadId : String} {params : Value}
    (h : threadId = thread → ∀ turnId data, nestedId params "turn" = some turnId →
      P ⟨none, data⟩ → P ⟨some turnId, .empty⟩) :
    Preserves (Viewed thread P) (turnStarted host threadId params) := by
  have hsteady := steady_viewed host thread P
  apply Preserves.ofExcept_bind
  intro started hstarted
  apply Preserves.ofExcept_bind
  intro turnId hturnId
  apply Preserves.bind (Preserves.reads _)
  intro current
  apply Preserves.bind (Preserves.when fun _ => steady_closeLocalChoices hsteady threadId)
  intro _
  apply Preserves.bind (Preserves.ofExcept _)
  intro startedAt
  apply Preserves.bind (steady_timestampOr hsteady startedAt _)
  intro timestamp
  constructor
  intro s hs
  cases hm : s.mapper.threads[threadId]? with
  | none =>
    rw [Program.bind_of_error (trackedThread_of_none hm)]
    exact hs
  | some mapping =>
    rw [Program.bind_of_ok (trackedThread_of_some hm), Program.ite_apply]
    split
    · exact hs
    · cases hactive : mapping.activeTurnId with
      | some active => exact hs
      | none =>
        have hpublish : Preserves (Viewed thread P) (do
            Program.when (mapping.state ≠ .running)
              (publishPayload host threadId timestamp (.stateChanged .running))
            pure (if mapping.state ≠ .running then .mapped else .validatedUnmapped) :
              Mapping B MappingDisposition) :=
          Preserves.bind (Preserves.when fun _ => steady_publishPayload hsteady _ _ _) fun _ =>
            Preserves.pure _
        apply hpublish.holds
        apply viewed_write hs hm
        intro hid hP
        apply h hid turnId mapping.turnView.data (nestedId_of_fields hstarted hturnId)
        rw [← hactive]
        exact hP

/-- A completion takes over an idle thread and ends the turn it names. -/
theorem viewed_turnCompleted {threadId : String} {params : Value}
    (h : threadId = thread → ∀ turnId data, nestedId params "turn" = some turnId →
      (P ⟨none, data⟩ → P ⟨some turnId, data⟩) ∧ (P ⟨some turnId, data⟩ → P ⟨none, data⟩)) :
    Preserves (Viewed thread P) (turnCompleted host threadId params) := by
  apply Preserves.ofExcept_bind
  intro completed hcompleted
  apply Preserves.ofExcept_bind
  intro turnId hturnId
  have hnamed := nestedId_of_fields hcompleted hturnId
  constructor
  intro s hs
  show Viewed thread P ((ensureActiveTurn threadId turnId >>= fun _ =>
    finishTurn host threadId turnId completed) s).2
  have hensured := (viewed_ensureActiveTurn (B := B) fun hid data =>
    (h hid turnId data hnamed).1).holds s hs
  rcases hresult : (ensureActiveTurn threadId turnId : Mapping B Unit) s with ⟨result, s'⟩
  rw [hresult] at hensured
  cases result with
  | error e =>
    rw [Program.bind_of_error hresult]
    exact hensured
  | ok u =>
    rw [Program.bind_of_ok hresult]
    -- up to its end the thread runs the turn that the check left
    have hrunning : Viewed thread (fun view => P view ∧
        (threadId = thread → view.turn = some turnId ∨ view.turn = none)) s' := by
      refine ⟨hensured, ?_⟩
      rintro rfl
      left
      rw [CodexEventMapper.turn_turnView]
      exact (ensureActiveTurn_passes hresult).2
    refine ((steady_finishTurn (steady_viewed host thread _) ?_).holds s' hrunning).1
    apply viewed_update
    rintro hid mapping ⟨hP, hturn⟩
    refine ⟨?_, fun _ => .inr rfl⟩
    rcases hturn hid with hactive | hidle
    · apply (h hid turnId mapping.turnView.data hnamed).2
      rw [← hactive]
      exact hP
    · have hview : mapping.turnView = ⟨none, mapping.turnView.data⟩ := by rw [← hidle]
      rw [hview] at hP
      exact hP

/-- What a repeated resume that takes over the turn `found` leaves of what was kept. -/
def believed (found : Option String) (data : TurnData) : TurnData where
  plan := data.plan
  final := if found.isNone then none else data.final
  message := if found.isNone then none else data.message

/-- The turn that the payload lists may be taken over with what is kept for its thread. -/
def Believes (thread : String) (P : TurnView → Prop) (payload : Value) : Prop :=
  Lists thread (fun found => (P ⟨none, .empty⟩ → P ⟨found, .empty⟩) ∧
    ∀ active data, P ⟨active, data⟩ → P ⟨found, believed found data⟩) payload

theorem viewed_resumeNew {threadId : String} {sessionId : SessionId} {value : Value}
    {model reasoningEffort : Option String}
    (h : threadId = thread → ∀ found, latestInProgressTurn value = .ok found → P ⟨found, .empty⟩) :
    Preserves (Viewed thread P)
      (resumeNew host threadId sessionId value model reasoningEffort) := by
  have hsteady := steady_viewed host thread P
  apply Preserves.bind (Preserves.ofExcept _)
  intro created
  apply Preserves.bind (steady_timestampOr hsteady _ _)
  intro createdAt
  apply Preserves.bind (Preserves.ofExcept _)
  intro updated
  apply Preserves.bind (steady_timestampOr hsteady _ _)
  intro updatedAt
  apply Preserves.bind (Preserves.ofExcept _)
  intro statusValue
  apply Preserves.bind (Preserves.ofExcept _)
  intro status
  apply Preserves.bind (Preserves.ofExcept _)
  intro externalId
  apply Preserves.bind (Preserves.ofExcept _)
  intro title
  apply Preserves.bind (Preserves.ofExcept _)
  intro cwd
  apply Preserves.bind (Preserves.reads _)
  intro providerId
  apply Preserves.bind (Preserves.ofExcept _)
  intro session
  apply Preserves.bind (hsteady.newId .event)
  intro id
  apply Preserves.bind (Preserves.ofExcept _)
  intro event
  apply Preserves.bind (viewed_publishCommitted event)
  intro _
  cases (PositiveCounter.first : EventSequence).checkedNext with
  | none => exact Preserves.fail _
  | some nextSequence =>
    apply Preserves.ofExcept_bind
    intro found hfound
    apply Preserves.modify
    intro s hs
    show P (CodexEventMapper.turnView
      { s.mapper with threads := s.mapper.threads.insert _ _ } thread)
    unfold CodexEventMapper.turnView
    rw [OrderedMap.getElem?_insert]
    by_cases hid : threadId = thread
    · rw [if_pos hid]
      exact h hid found hfound
    · rw [if_neg hid]
      exact hs

theorem viewed_resumeThread {result : Value} (h : Believes thread P result) :
    Preserves (Viewed thread P) (resumeThread host result) := by
  have hsteady := steady_viewed host thread P
  apply Preserves.ofExcept_bind
  intro value hvalue
  apply Preserves.ofExcept_bind
  intro threadId hthreadId
  apply Preserves.bind (Preserves.ofExcept _)
  intro resultModel
  apply Preserves.bind (Preserves.ofExcept _)
  intro threadModel
  apply Preserves.bind (Preserves.ofExcept _)
  intro resultEffort
  apply Preserves.bind (Preserves.ofExcept _)
  intro threadEffort
  apply Preserves.bind (Preserves.reads _)
  intro configured
  cases configured with
  | none => exact Preserves.fail _
  | some configuredSession =>
    apply Preserves.bind (Preserves.ofExcept _)
    intro _
    apply Preserves.bind (Preserves.ofExcept _)
    intro _
    have hlists : threadId = thread → ∀ found, latestInProgressTurn value = .ok found →
        (P ⟨none, .empty⟩ → P ⟨found, .empty⟩) ∧
          ∀ active data, P ⟨active, data⟩ → P ⟨found, believed found data⟩ := by
      rintro rfl
      obtain ⟨hget, hid⟩ := fields_of_ok hvalue hthreadId
      exact h value hget hid
    constructor
    intro s hs
    rw [bind_apply]
    show Viewed thread P
      ((if s.mapper.isThreadTracked threadId = true then _ else _ : Mapping B Unit) s).2
    rw [Program.ite_apply]
    split
    · refine (steady_resumeTracked hsteady ?_).holds s hs
      intro found hfound
      apply viewed_update
      intro hid mapping
      exact (hlists hid found hfound).2 _ _
    · next huntracked =>
      refine (viewed_resumeNew ?_).holds s hs
      intro hid found hfound
      apply (hlists hid found hfound).1
      -- nothing is kept for a thread that is not tracked
      subst hid
      have hnone : s.mapper.threads[threadId]? = none := by
        rw [CodexEventMapper.isThreadTracked,
          Std.ExtTreeMap.contains_eq_isSome_getElem?] at huntracked
        simpa using huntracked
      have hview : s.mapper.turnView threadId = ⟨none, .empty⟩ := by
        simp [CodexEventMapper.turnView, hnone]
      have hP : P (s.mapper.turnView threadId) := hs
      rw [hview] at hP
      exact hP

theorem viewed_threadStarted {params : Value} (h : Believes thread P params) :
    Preserves (Viewed thread P) (threadStarted host params) := by
  apply Preserves.bind (Preserves.ofExcept _)
  intro value
  apply Preserves.bind (Preserves.ofExcept _)
  intro threadId
  apply Preserves.bind (Preserves.reads _)
  intro known
  apply Preserves.ite (fun _ => Preserves.pure _)
  intro _
  apply Preserves.bind
  · apply Preserves.when
    intro _
    apply Preserves.bind (Preserves.ofExcept _)
    intro sessionId
    exact viewed_onMapper fun _ => rfl
  intro _
  exact Preserves.bind (viewed_resumeThread h) fun _ => Preserves.pure _

theorem viewed_trackDiscoveredThread (threadId : String) :
    Preserves (Viewed thread P) (trackDiscoveredThread threadId : Mapping B Unit) := by
  apply Preserves.bind (Preserves.ofExcept _)
  intro sessionId
  apply viewed_onMapper
  intro m
  apply CodexEventMapper.turnView_congr
  split <;> rfl

/-- The handlers besides that of a completed item. -/
theorem viewed_dispatch {method threadId : String} {params : Value}
    (hmethod : threadId = thread → method ≠ "item/completed")
    (htakes : threadId = thread → ∀ data turn kept,
      takenBy method params data = some (turn, kept) → P ⟨none, data⟩ → P ⟨some turn, kept⟩)
    (hends : threadId = thread → method = "turn/completed" → ∀ turn data,
      nestedId params "turn" = some turn → P ⟨some turn, data⟩ → P ⟨none, data⟩) :
    Preserves (Viewed thread P) (dispatch host method threadId params) := by
  have hsteady := steady_viewed host thread P
  have hitem : method = "item/started" ∨ method = "item/fileChange/patchUpdated" ∨
      method = "item/completed" → ∀ turnId, stringField params "turnId" = .ok turnId →
      Preserves (Viewed thread P) (ensureActiveTurn threadId turnId : Mapping B Unit) := by
    intro hkind turnId hturnId
    apply viewed_ensureActiveTurn
    intro hid data
    apply htakes hid data turnId data
    have hstarted : method ≠ "turn/started" := by
      rintro rfl
      simp at hkind
    have hcompleted : method ≠ "turn/completed" := by
      rintro rfl
      simp at hkind
    rw [takenBy, if_neg hstarted, if_neg hcompleted, if_pos hkind, string_of_ok hturnId]
    rfl
  unfold dispatch
  apply Preserves.ite (fun _ => steady_threadSettingsUpdated hsteady threadId params)
  intro _
  apply Preserves.ite
  · intro _
    exact Preserves.bind (Preserves.ofExcept _) fun _ => steady_statusChanged hsteady threadId _
  intro _
  apply Preserves.ite (fun _ => steady_disconnectThread hsteady threadId)
  intro _
  apply Preserves.ite
  · intro hstarted
    apply viewed_turnStarted
    intro hid turn data hturn
    apply htakes hid data turn .empty
    rw [takenBy, if_pos hstarted, hturn]
    rfl
  intro hstarted
  apply Preserves.ite (fun h => steady_itemStarted hsteady (hitem (.inl h)))
  intro _
  apply Preserves.ite (fun h => steady_fileChangePatchUpdated hsteady (hitem (.inr (.inl h))))
  intro _
  apply Preserves.ite
  · intro h
    apply steady_itemCompleted hsteady (hitem (.inr (.inr h)))
    intro item itemType text content
    exact viewed_update fun hid => absurd h (hmethod hid)
  intro _
  apply Preserves.ite
  · intro hcompleted
    apply viewed_turnCompleted
    intro hid turn data hturn
    refine ⟨htakes hid data turn data ?_, hends hid hcompleted turn data hturn⟩
    rw [takenBy, if_neg hstarted, if_pos hcompleted, hturn]
    rfl
  intro _
  exact Preserves.pure _

/-- What follows the handler of a notification. -/
def remember (key : Option String) (disposition : MappingDisposition) :
    Mapping B MappingDisposition :=
  match key with
  | some key => do
    Program.when (disposition = .mapped) (onMapper fun m => m.rememberKey key)
    pure disposition
  | none => pure disposition

theorem viewed_remember (key : Option String) (disposition : MappingDisposition) :
    Preserves (Viewed thread P) (remember key disposition : Mapping B MappingDisposition) := by
  cases key with
  | none => exact Preserves.pure _
  | some key =>
    apply Preserves.bind
    · apply Preserves.when
      intro _
      exact viewed_onMapper fun m => CodexEventMapper.turnView_congr (m.threads_rememberKey key) _
    intro _
    exact Preserves.pure _

/-- What is remembered after a handler leaves its disposition as it is. -/
theorem remember_mapped {x : Mapping B MappingDisposition} (key : Option String)
    (s : MapperState B) : ((x >>= remember key) s).1 = .ok .mapped ↔ (x s).1 = .ok .mapped := by
  rcases hran : x s with ⟨result, t⟩
  cases result with
  | error e => rw [Program.bind_of_error hran]
  | ok disposition =>
    rw [Program.bind_of_ok hran]
    cases key with
    | none => rfl
    | some key =>
      unfold remember Program.when
      split <;> rfl

/-- A notification is dropped, or its handler runs on the threads as they are. -/
theorem notifyThread_cases (host : ProviderHost B) (method : String) {threadId : String}
    {params : Value} (s : MapperState B) (hthread : notificationThread params = some threadId) :
    ∃ m : CodexEventMapper, m.threads = s.mapper.threads ∧
      ((s.mapper.handles threadId method params = false ∧ ∃ result,
          notifyThread host method params s = (result, { s with mapper := m }) ∧
          result ≠ .ok .mapped) ∨
        (s.mapper.handles threadId method params = true ∧ ∃ key,
          notifyThread host method params s =
            (dispatch host method threadId params >>= remember key) { s with mapper := m })) := by
  unfold notifyThread
  rw [hthread]
  dsimp only
  rw [bind_apply]
  dsimp only [Program.reads]
  rw [Program.ite_apply]
  by_cases hknown :
      (s.mapper.configured.contains threadId && s.mapper.threads.contains threadId) = true
  · rw [if_neg (by simp [hknown])]
    -- asking again for the observer's subscription touches neither threads nor keys
    obtain ⟨m, hran, hthreads, hkeys⟩ : ∃ m : CodexEventMapper,
        (Program.when (method = "thread/status/changed")
          (onMapper fun m => m.retryObserverResume threadId) : Mapping B Unit) s =
          (.ok (), { s with mapper := m }) ∧
        m.threads = s.mapper.threads ∧ m.recentKeys = s.mapper.recentKeys := by
      unfold Program.when
      rw [Program.ite_apply]
      split
      · exact ⟨_, rfl, s.mapper.threads_retryObserverResume threadId,
          s.mapper.recentKeys_retryObserverResume threadId⟩
      · exact ⟨_, rfl, rfl, rfl⟩
    refine ⟨m, hthreads, ?_⟩
    rw [Program.bind_of_ok hran, bind_apply]
    dsimp only [Program.reads]
    rw [Program.ite_apply]
    by_cases hlate : ((notificationTurn params).any fun turn =>
        m.recentKeys.contains (completedKey threadId turn)) = true
    · left
      rw [if_pos hlate]
      rw [hkeys] at hlate
      refine ⟨by simp [CodexEventMapper.handles, hlate], _, rfl, by simp⟩
    · rw [if_neg hlate]
      rw [hkeys] at hlate
      unfold notifyTracked
      rw [bind_apply]
      dsimp only [Program.ofExcept]
      cases hkey : notificationKey method params threadId with
      | error e =>
        left
        exact ⟨by simp [CodexEventMapper.handles, hkey], _, rfl, by simp⟩
      | ok key =>
        dsimp only
        rw [bind_apply]
        dsimp only [Program.reads]
        rw [Program.ite_apply]
        by_cases hseen : (key.any fun key => m.recentKeys.contains key) = true
        · left
          rw [if_pos hseen]
          rw [hkeys] at hseen
          exact ⟨by simp [CodexEventMapper.handles, hkey, hseen], _, rfl, by simp⟩
        · right
          rw [if_neg hseen]
          rw [hkeys] at hseen
          refine ⟨?_, key, ?_⟩
          · simp only [CodexEventMapper.handles, hthread, hknown, hkey]
            simp [hlate, hseen]
          · cases key <;> rfl
  · refine ⟨s.mapper, rfl, .inl ⟨?_, ?_⟩⟩
    · simp only [CodexEventMapper.handles, Bool.eq_false_iff.mpr hknown]
      simp
    · rw [if_pos (by rw [Bool.eq_false_iff.mpr hknown]; rfl)]
      exact ⟨_, rfl, by simp⟩

/-- What follows the check of a completed item. -/
def finishItem (host : ProviderHost B) (threadId turnId : String) (params : Value) :
    Mapping B MappingDisposition := do
  let item ← Program.ofExcept (objectField params "item")
  let itemId ← Program.ofExcept (stringField item "id")
  onMapper fun m => { m with items := m.items.erase ⟨threadId, turnId, itemId⟩ }
  let itemType ← Program.ofExcept (stringField item "type")
  if itemType ≠ "agentMessage" ∧ itemType ≠ "plan" then pure .validatedUnmapped
  else do
    let text ← Program.ofExcept (stringField item "text")
    if isBlank text then pure .validatedUnmapped
    else messageCompleted host threadId params item itemType text

/-- An item without a message changes nothing of what is kept. -/
theorem finishItem_silent {turnId : String} {params : Value}
    (h : messageOfItem turnId params = none) :
    Preserves (Viewed thread P) (finishItem host thread turnId params) := by
  apply Preserves.ofExcept_bind
  intro item hitem
  apply Preserves.ofExcept_bind
  intro itemId hid
  apply Preserves.bind ((steady_viewed host thread P).items _)
  intro _
  apply Preserves.ofExcept_bind
  intro itemType htype
  apply Preserves.ite (fun _ => Preserves.pure _)
  intro hkind
  apply Preserves.ofExcept_bind
  intro text htext
  apply Preserves.ite (fun _ => Preserves.pure _)
  intro hblank
  exfalso
  have hcontent : NonEmptyText.new text = .ok ⟨text, Bool.eq_false_iff.mpr hblank⟩ := by
    simp [NonEmptyText.new, hblank]
  simp [messageOfItem, hitem, hid, htype, hkind, htext, hcontent, Except.toOption] at h

/-- A thread once it has taken a message. -/
def withMessage (itemType : String) (item : Value) (content : NonEmptyText)
    (mapping : ThreadMapping) : ThreadMapping :=
  { mapping with
    lastMessage := some content
    proposedPlan := if itemType = "plan" then some content.asStr else mapping.proposedPlan
    lastFinalMessage :=
      if (item.get "phase").bind Json.asStr = some "final_answer" then some content
      else mapping.lastFinalMessage }

theorem turnView_withMessage {turnId itemType : String} {item : Value} {content : NonEmptyText}
    {mapping : ThreadMapping} (hturn : mapping.turnView.turn = some turnId) :
    (withMessage itemType item content mapping).turnView =
      ⟨some turnId, mapping.turnView.data.keep (messageTold turnId itemType item content)⟩ := by
  have hactive : mapping.activeTurnId = some turnId := hturn
  simp [ThreadMapping.turnView, withMessage, TurnData.keep, messageTold, hactive]

/-- A message is taken before it is published. -/
theorem messageCompleted_of_mapping {itemType text : String} {params item : Value}
    {s : MapperState B} {mapping : ThreadMapping} (htext : isBlank text = false)
    (hm : s.mapper.threads[thread]? = some mapping) :
    messageCompleted host thread params item itemType text s =
      (do
        let completedAt ← Program.ofExcept (i64Field params "completedAtMs")
        let timestamp ← timestampMilliseconds host (some completedAt)
        publishPayload host thread timestamp (.message ⟨.assistant, .info, ⟨text, htext⟩⟩)
        pure .mapped : Mapping B MappingDisposition)
        { s with
          mapper := s.mapper.updateThread thread (withMessage itemType item ⟨text, htext⟩) } := by
  unfold messageCompleted
  rw [Program.ofExcept_ok_bind (domain_text htext), Program.bind_of_ok (trackedThread_of_some hm)]
  rfl

/-- The message of the running turn is kept, also where its publication fails. -/
theorem messageCompleted_keeps {turnId itemType text : String} {params item : Value}
    {s : MapperState B} (htext : isBlank text = false)
    (hturn : (s.mapper.turnView thread).turn = some turnId) :
    Viewed thread (fun view => view = ⟨some turnId, (s.mapper.turnView thread).data.keep
        (messageTold turnId itemType item ⟨text, htext⟩)⟩)
      (messageCompleted host thread params item itemType text s).2 := by
  have hsteady := steady_viewed host thread (fun view => view = ⟨some turnId,
    (s.mapper.turnView thread).data.keep (messageTold turnId itemType item ⟨text, htext⟩)⟩)
  cases hm : s.mapper.threads[thread]? with
  | none => simp [CodexEventMapper.turnView, hm] at hturn
  | some mapping =>
    rw [CodexEventMapper.turnView_of_mapping hm] at hturn
    rw [messageCompleted_of_mapping htext hm]
    apply Preserves.holds
    · apply Preserves.bind (Preserves.ofExcept _)
      intro completedAt
      apply Preserves.bind (steady_timestampOr hsteady _ _)
      intro timestamp
      exact Preserves.bind (steady_publishPayload hsteady _ _ _) fun _ => Preserves.pure _
    · show (s.mapper.updateThread thread _).turnView thread = _
      rw [CodexEventMapper.turnView_updateThread_self hm, turnView_withMessage hturn,
        CodexEventMapper.turnView_of_mapping hm]

theorem nextPlace_updateThread (m : CodexEventMapper) (threadId : String)
    {f : ThreadMapping → ThreadMapping}
    (hsession : ∀ mapping, (f mapping).sessionId = mapping.sessionId)
    (hsequence : ∀ mapping, (f mapping).nextSequence = mapping.nextSequence) :
    (m.updateThread threadId f).nextPlace threadId = m.nextPlace threadId := by
  unfold CodexEventMapper.nextPlace
  rw [CodexEventMapper.threads_updateThread, if_pos rfl]
  cases m.threads[threadId]? with
  | none => rfl
  | some mapping => simp [hsession, hsequence]

theorem delivers_congr {threadId : String} {s s' : MapperState B} (params : Value)
    (content : NonEmptyText) (hplace : s'.mapper.nextPlace threadId = s.mapper.nextPlace threadId)
    (hhost : s'.host = s.host) :
    delivers host threadId params content s' = delivers host threadId params content s := by
  unfold delivers messageEvent
  rw [hplace, hhost]

/-- A publication whose event the host takes succeeds, if there is a number left after it. -/
theorem publishTracked_of_committed {threadId : String} {occurredAt : Timestamp}
    {payload : AgentEventPayload} {s : MapperState B} {mapping : ThreadMapping}
    {event : AgentEvent} {next : EventSequence} (hm : s.mapper.threads[threadId]? = some mapping)
    (hevent : domain (AgentEvent.new (host.newId .event s.host).1 mapping.sessionId
      mapping.nextSequence occurredAt payload) = .ok event)
    (htaken : committed (host.publishEvent (host.newId .event s.host).2 event).2 = true)
    (hnext : mapping.nextSequence.checkedNext = some next) :
    (publishTracked host threadId occurredAt payload s).1 = .ok () := by
  have hdrawn : newId host .event s =
      (.ok (host.newId .event s.host).1, { s with host := (host.newId .event s.host).2 }) := rfl
  have hpublished : publishCommitted host event { s with host := (host.newId .event s.host).2 } =
      (.ok (), { s with host := (host.publishEvent (host.newId .event s.host).2 event).1 }) := by
    unfold publishCommitted
    rw [bind_apply]
    dsimp only [Program.update]
    cases hresult : (host.publishEvent (host.newId .event s.host).2 event).2 with
    | ok report => rfl
    | error error =>
      rw [hresult] at htaken
      have hreport : error.report.isSome = true := htaken
      dsimp only
      rw [if_pos hreport]
      rfl
  have hfound : (trackedThread threadId : Mapping B ThreadMapping)
      { s with host := (host.publishEvent (host.newId .event s.host).2 event).1 } =
      (.ok mapping, { s with host := (host.publishEvent (host.newId .event s.host).2 event).1 }) :=
    trackedThread_of_some hm
  unfold publishTracked
  rw [Program.bind_of_ok (trackedThread_of_some hm), Program.bind_of_ok hdrawn,
    Program.ofExcept_ok_bind hevent, Program.bind_of_ok hpublished, Program.bind_of_ok hfound,
    hnext]
  rfl

theorem ok_of_toOption {x : Sourced α} {a : α} (h : x.toOption = some a) : x = .ok a := by
  cases x with
  | error e => cases h
  | ok found =>
    cases h
    rfl

/-- A message that can be delivered is mapped. -/
theorem messageCompleted_mapped {itemType text : String} {params item : Value}
    {s : MapperState B} (htext : isBlank text = false)
    (h : delivers host thread params ⟨text, htext⟩ s = true) :
    (messageCompleted host thread params item itemType text s).1 = .ok .mapped := by
  obtain ⟨event, hevent, htaken⟩ := (Option.any_eq_true _ _).mp h
  simp only [messageEvent, Option.bind_eq_bind, Option.bind_eq_some_iff] at hevent
  obtain ⟨completedAt, hcompleted, occurredAt, hoccurred, ⟨sessionId, sequence⟩, hplace, next,
    hnext, hnew⟩ := hevent
  obtain ⟨mapping, hm, hfields⟩ := Option.map_eq_some_iff.mp hplace
  cases hfields
  have hupdated : (s.mapper.updateThread thread
      (withMessage itemType item ⟨text, htext⟩)).threads[thread]? =
      some (withMessage itemType item ⟨text, htext⟩ mapping) := by
    rw [CodexEventMapper.threads_updateThread, if_pos rfl, hm]
    rfl
  have htime : timestampMilliseconds host (some completedAt) =
      (Program.ofExcept (.ok occurredAt) : Mapping B Timestamp) :=
    congrArg Program.ofExcept (ok_of_toOption hoccurred)
  have hok := publishTracked_of_committed
    (s := ⟨s.mapper.updateThread thread (withMessage itemType item ⟨text, htext⟩), s.host⟩)
    hupdated (ok_of_toOption hnew) htaken hnext
  rw [messageCompleted_of_mapping htext hm,
    Program.ofExcept_ok_bind (ok_of_toOption hcompleted), htime, Program.ofExcept_ok_bind rfl,
    publishPayload_message]
  rcases hran : publishTracked host thread occurredAt (.message ⟨.assistant, .info, ⟨text, htext⟩⟩)
      { s with
        mapper := s.mapper.updateThread thread (withMessage itemType item ⟨text, htext⟩) } with
    ⟨result, t⟩
  rw [hran] at hok
  cases hok
  rw [Program.bind_of_ok hran]
  rfl

theorem turn_messageOfItem {turnId : String} {params : Value} {message : Told}
    (h : messageOfItem turnId params = some message) : message.turn = turnId := by
  simp only [messageOfItem, Option.bind_eq_bind, Option.bind_eq_some_iff] at h
  obtain ⟨item, -, itemId, -, itemType, -, h⟩ := h
  split at h
  · cases h
  · simp only [Option.bind_eq_some_iff, Option.some.injEq] at h
    obtain ⟨text, -, content, -, rfl⟩ := h
    rfl

/-- The message of an item of the running turn is the last one that is kept. It is mapped,
or it leaves what is the turn's own without it. -/
theorem finishItem_keeps {told : List Told} {turnId : String} {params : Value} {s : MapperState B}
    (hs : Viewed thread (fun view => view.turn = some turnId ∧ Own told turnId view.data) s)
    (hpublished : ∀ message, messageOfItem turnId params = some message →
      delivers host thread params message.content s = true ∨
        Own told turnId ((s.mapper.turnView thread).data.keep message)) :
    Viewed thread (Owned (told ++ (if (finishItem host thread turnId params s).1 = .ok .mapped then
        messageOfItem turnId params else none).toList))
      (finishItem host thread turnId params s).2 := by
  obtain ⟨hturn, hown⟩ := hs
  cases hmessage : messageOfItem turnId params with
  | none =>
    have howned : Viewed thread (Owned told) s := by
      intro turn hfound
      rw [hturn] at hfound
      cases hfound
      exact hown
    rw [ite_self, Option.toList_none, List.append_nil]
    exact (finishItem_silent hmessage).holds s howned
  | some message =>
    have hleft := hpublished message hmessage
    simp only [messageOfItem, Option.bind_eq_bind, Option.bind_eq_some_iff] at hmessage
    obtain ⟨item, hitem, itemId, hid, itemType, htype, hmessage⟩ := hmessage
    split at hmessage
    · cases hmessage
    · next hkind =>
      simp only [Option.bind_eq_some_iff, Option.some.injEq] at hmessage
      obtain ⟨text, htext, content, hcontent, rfl⟩ := hmessage
      unfold NonEmptyText.new at hcontent
      split at hcontent
      · cases hcontent
      · next hblank =>
        cases hcontent
        have hrun : finishItem host thread turnId params s =
            messageCompleted host thread params item itemType text
              { s with mapper :=
                { s.mapper with items := s.mapper.items.erase ⟨thread, turnId, itemId⟩ } } := by
          unfold finishItem
          rw [Program.ofExcept_ok_bind (ok_of_toOption hitem),
            Program.ofExcept_ok_bind (ok_of_toOption hid), bind_apply]
          dsimp only [onMapper, Program.modify]
          rw [Program.ofExcept_ok_bind (ok_of_toOption htype), if_neg hkind,
            Program.ofExcept_ok_bind (ok_of_toOption htext), if_neg hblank]
        rw [hrun]
        have hkept : (messageCompleted host thread params item itemType text
            { s with mapper := { s.mapper with
              items := s.mapper.items.erase ⟨thread, turnId, itemId⟩ } }).2.mapper.turnView thread =
            _ := messageCompleted_keeps (Bool.eq_false_iff.mpr hblank) hturn
        unfold Viewed
        rw [hkept]
        split
        · exact owned_running (Own.keep hown)
        · next hfailed =>
          have hdropped : ¬ delivers host thread params ⟨text, Bool.eq_false_iff.mpr hblank⟩ s =
              true :=
            fun h => hfailed (messageCompleted_mapped _ ((delivers_congr params _ rfl rfl).trans h))
          rw [Option.toList_none, List.append_nil]
          exact owned_running (hleft.resolve_left hdropped)

/-- What the check of the running turn comes to on a tracked thread. -/
theorem ensureActiveTurn_cases (s : MapperState B) (turnId : String)
    (h : s.mapper.threads.contains thread = true) :
    (((s.mapper.turnView thread).turn.any fun running => running != turnId) = true ∧
      ∃ e, (ensureActiveTurn thread turnId : Mapping B Unit) s = (.error e, s)) ∨
    ((s.mapper.turnView thread).turn.any fun running => running != turnId) = false ∧
      ∃ s', (ensureActiveTurn thread turnId : Mapping B Unit) s = (.ok (), s') ∧
        s'.mapper.turnView thread = ⟨some turnId, (s.mapper.turnView thread).data⟩ ∧
        s'.mapper.nextPlace thread = s.mapper.nextPlace thread ∧ s'.host = s.host := by
  rw [Std.ExtTreeMap.contains_eq_isSome_getElem?] at h
  obtain ⟨mapping, hm⟩ := Option.isSome_iff_exists.mp h
  rw [CodexEventMapper.turnView_of_mapping hm]
  unfold ensureActiveTurn
  rw [Program.bind_of_ok (trackedThread_of_some hm)]
  cases hactive : mapping.activeTurnId with
  | some active =>
    dsimp only
    rw [Program.ite_apply]
    by_cases hsame : active = turnId
    · right
      refine ⟨by simp [ThreadMapping.turnView, hactive, hsame], s,
        by simp [hsame, Program.pure_apply], ?_, rfl, rfl⟩
      rw [CodexEventMapper.turnView_of_mapping hm, ← hsame]
      simp [ThreadMapping.turnView, hactive]
    · left
      refine ⟨by simp [ThreadMapping.turnView, hactive, hsame],
        .protocol s!"notification for turn {turnId} arrived while {active} is active", ?_⟩
      rw [if_pos hsame]
      rfl
  | none =>
    right
    refine ⟨by simp [ThreadMapping.turnView, hactive], _, rfl, ?_, ?_, rfl⟩
    · exact CodexEventMapper.turnView_updateThread_self hm
    · exact nextPlace_updateThread s.mapper thread (fun _ => rfl) fun _ => rfl

/-- A completed item leaves to the running turn what is its own. -/
theorem itemCompleted_keeps {told : List Told} {params : Value} {s : MapperState B}
    (htracked : s.mapper.threads.contains thread = true) (hs : Viewed thread (Owned told) s)
    (htake : (s.mapper.turnView thread).turn = none → ∀ turnId,
      (params.get "turnId").bind Json.asStr = some turnId →
      Own told turnId (s.mapper.turnView thread).data)
    (hpublished : ∀ message,
      completedMessage (s.mapper.turnView thread).turn params = some message →
      delivers host thread params message.content s = true ∨
        Own told message.turn ((s.mapper.turnView thread).data.keep message)) :
    Viewed thread (Owned (told ++ (if (itemCompleted host thread params s).1 = .ok .mapped then
        completedMessage (s.mapper.turnView thread).turn params else none).toList))
      (itemCompleted host thread params s).2 := by
  cases hturn : stringField params "turnId" with
  | error e =>
    have hnone : completedMessage (s.mapper.turnView thread).turn params = none := by
      simp [completedMessage, hturn, Except.toOption]
    have hrun : itemCompleted host thread params s = (.error e, s) := by
      unfold itemCompleted
      rw [bind_apply, Program.ofExcept, hturn]
    rw [hnone, hrun, ite_self, Option.toList_none, List.append_nil]
    exact hs
  | ok turnId =>
    have hmessage : completedMessage (s.mapper.turnView thread).turn params =
        if ((s.mapper.turnView thread).turn.any fun running => running != turnId) = true then none
        else messageOfItem turnId params := by
      simp [completedMessage, hturn, Except.toOption]
    have hrun : itemCompleted host thread params s =
        (ensureActiveTurn thread turnId >>= fun _ => finishItem host thread turnId params) s := by
      unfold itemCompleted
      rw [Program.ofExcept_ok_bind hturn]
      rfl
    rw [hrun]
    rcases ensureActiveTurn_cases s turnId htracked with
      ⟨hother, e, herror⟩ | ⟨hsame, s', hok, hview, hplace, hhost⟩
    · rw [hmessage, if_pos hother, Program.bind_of_error herror, ite_self, Option.toList_none,
        List.append_nil]
      exact hs
    · have hitem : completedMessage (s.mapper.turnView thread).turn params =
          messageOfItem turnId params := by rw [hmessage, if_neg (by simp [hsame])]
      rw [hitem] at hpublished ⊢
      rw [Program.bind_of_ok hok]
      apply finishItem_keeps
      · show (s'.mapper.turnView thread).turn = some turnId ∧ Own told turnId _
        rw [hview]
        refine ⟨rfl, ?_⟩
        cases hactive : (s.mapper.turnView thread).turn with
        | none => exact htake hactive turnId (string_of_ok hturn)
        | some active =>
          rw [hactive] at hsame
          have hactive' : active = turnId := by simpa using hsame
          exact hs turnId (hactive'.symm ▸ hactive)
      · intro message hmessage
        rw [hview]
        rw [← turn_messageOfItem hmessage]
        exact (hpublished message hmessage).imp_left (delivers_congr params _ hplace hhost).trans

theorem bind_exits {α β : Type} {I : MapperState B → Prop} {x : Mapping B α} {f : α → Mapping B β}
    {s : MapperState B} (hx : I (x s).2) (hf : ∀ a, Preserves I (f a)) : I ((x >>= f) s).2 := by
  rcases hresult : x s with ⟨result, t⟩
  rw [hresult] at hx
  cases result with
  | error e =>
    rw [Program.bind_of_error hresult]
    exact hx
  | ok a =>
    rw [Program.bind_of_ok hresult]
    exact (hf a).holds t hx

/-- What is kept is the turn's own, also where the notification takes over a turn. -/
def ReadyFor (told : List Told) (method : String) (params : Value) (view : TurnView) : Prop :=
  Owned told view ∧ (view.turn = none → ∀ turn kept,
    takenBy method params view.data = some (turn, kept) → Own told turn kept)

theorem ready_dispatch {told : List Told} {method : String} {params : Value}
    (hmethod : method ≠ "item/completed") :
    Preserves (Viewed thread (ReadyFor told method params))
      (dispatch host method thread params) := by
  apply viewed_dispatch
  · exact fun _ => hmethod
  · rintro - data turn kept htaken ⟨-, hready⟩
    refine ⟨owned_running (hready rfl turn kept htaken), ?_⟩
    intro hidle
    cases hidle
  · rintro - hcompleted turn data hturn ⟨howned, -⟩
    refine ⟨owned_idle told data, ?_⟩
    rintro - found kept htaken
    have hstarted : method ≠ "turn/started" := by
      rintro rfl
      simp at hcompleted
    rw [takenBy, if_neg hstarted, if_pos hcompleted, hturn] at htaken
    cases htaken
    exact howned turn rfl

/-- A notification leaves to a running turn of the thread what is its own. -/
theorem notifyThread_keeps {told : List Told} {method : String} {params : Value}
    {s : MapperState B} (hs : Viewed thread (Owned told) s)
    (htake : (s.mapper.turnView thread).turn = none →
      s.mapper.handles thread method params = true → ∀ turn kept,
      takenBy method params (s.mapper.turnView thread).data = some (turn, kept) →
      Own told turn kept)
    (hpublished : ∀ message,
      (MapperOp.notification method params).kept thread s.mapper = some message →
      delivers host thread params message.content s = true ∨
        Own told message.turn ((s.mapper.turnView thread).data.keep message)) :
    Viewed thread (Owned (told ++ (if (notifyThread host method params s).1 = .ok .mapped then
        (MapperOp.notification method params).kept thread s.mapper else none).toList))
      (notifyThread host method params s).2 := by
  have hquiet : ¬ (method = "item/completed" ∧ s.mapper.handles thread method params = true) →
      Viewed thread (Owned told) (notifyThread host method params s).2 →
      Viewed thread (Owned (told ++ (if (notifyThread host method params s).1 = .ok .mapped then
        (MapperOp.notification method params).kept thread s.mapper else none).toList))
        (notifyThread host method params s).2 := by
    intro hnot hview
    have hnone : (MapperOp.notification method params).kept thread s.mapper = none := if_neg hnot
    rw [hnone, ite_self, Option.toList_none, List.append_nil]
    exact hview
  cases hthread : notificationThread params with
  | none =>
    have hrun : notifyThread host method params s = (.ok .validatedUnmapped, s) := by
      unfold notifyThread
      rw [hthread]
      rfl
    apply hquiet (by simp [CodexEventMapper.handles, hthread])
    rw [hrun]
    exact hs
  | some threadId =>
    obtain ⟨m, hthreads, hrest⟩ := notifyThread_cases host method s hthread
    have hview : m.turnView thread = s.mapper.turnView thread :=
      CodexEventMapper.turnView_congr hthreads thread
    have hm : Viewed thread (Owned told) { s with mapper := m } := by
      show Owned told (m.turnView thread)
      rw [hview]
      exact hs
    by_cases hid : threadId = thread
    · subst hid
      rcases hrest with ⟨hdropped, result, hrun, -⟩ | ⟨hhandled, key, hrun⟩
      · apply hquiet (by simp [hdropped])
        rw [hrun]
        exact hm
      · by_cases hitem : method = "item/completed"
        · subst hitem
          have hkept : (MapperOp.notification "item/completed" params).kept threadId s.mapper =
              completedMessage (s.mapper.turnView threadId).turn params := if_pos ⟨rfl, hhandled⟩
          have hdispatch : dispatch host "item/completed" threadId params =
              itemCompleted host threadId params := by
            simp [dispatch]
          have hknown := hhandled
          simp only [CodexEventMapper.handles, Bool.and_eq_true] at hknown
          rw [hkept] at hpublished ⊢
          rw [hrun, hdispatch, ← hview]
          simp only [remember_mapped]
          apply bind_exits _ fun disposition => viewed_remember key disposition
          apply itemCompleted_keeps _ hm
          · intro hturn turnId hnamed
            dsimp only at hturn ⊢
            rw [hview] at hturn ⊢
            apply htake hturn hhandled turnId
            simp [takenBy, hnamed]
          · intro message hmessage
            dsimp only at hmessage ⊢
            rw [hview] at hmessage ⊢
            have hplace : m.nextPlace threadId = s.mapper.nextPlace threadId := by
              simp [CodexEventMapper.nextPlace, hthreads]
            have hsame : delivers host threadId params message.content ⟨m, s.host⟩ =
                delivers host threadId params message.content s :=
              delivers_congr params _ hplace rfl
            exact (hpublished message hmessage).imp_left hsame.trans
          · dsimp only
            rw [hthreads]
            exact hknown.1.1.2.2
        · apply hquiet (by simp [hitem])
          rw [hrun]
          have hready : Viewed threadId (ReadyFor told method params) { s with mapper := m } := by
            refine ⟨hm, ?_⟩
            rw [show CodexEventMapper.turnView _ threadId = s.mapper.turnView threadId from hview]
            exact fun hturn => htake hturn hhandled
          exact ((Preserves.bind (ready_dispatch hitem) fun disposition =>
            viewed_remember key disposition).holds _ hready).1
    · apply hquiet (by simp [CodexEventMapper.handles, hthread, hid])
      rcases hrest with ⟨-, result, hrun, -⟩ | ⟨-, key, hrun⟩
      · rw [hrun]
        exact hm
      · rw [hrun]
        have hdispatch : Preserves (Viewed thread (Owned told))
            (dispatch host method threadId params) := by
          apply viewed_dispatch <;> exact fun h => absurd h hid
        exact (Preserves.bind hdispatch fun disposition =>
          viewed_remember key disposition).holds _ hm

/-- Only events that are fair to the turn were committed since the record. -/
structure Sums (told : List Told) (thread turn : String) (record : List AgentEvent)
    (s : MapperState (B × List AgentEvent)) : Prop where
  plan : s.mapper.hasPlan thread = true → Proposed told turn
  events : ∃ events, s.host.2 = record ++ events ∧ ∀ event ∈ events, FairTo told turn event.payload

theorem hasPlan_advance (m : CodexEventMapper) (threadId : String) (payload : AgentEventPayload)
    (next : EventSequence) :
    (advance threadId payload next m).hasPlan thread = m.hasPlan thread := by
  unfold CodexEventMapper.hasPlan advance
  rw [CodexEventMapper.threads_updateThread]
  split
  · cases m.threads[thread]? with
    | none => rfl
    | some mapping =>
      cases hstate : payloadState payload <;> rfl
  · rfl

section Ends

variable {told : List Told} {record : List AgentEvent}

theorem sums_publishTracked {threadId : String} {occurredAt : Timestamp}
    {payload : AgentEventPayload} (hfair : FairTo told turn payload) :
    Preserves (Sums told thread turn record)
      (publishTracked (recording host) threadId occurredAt payload) := by
  constructor
  rintro s ⟨hplan, events, hevents, hall⟩
  have hmore : ∀ event : AgentEvent, event.payload = payload →
      ∃ events, s.host.2 ++ [event] = record ++ events ∧
        ∀ event ∈ events, FairTo told turn event.payload := by
    intro event hpayload
    refine ⟨events ++ [event], by rw [hevents, List.append_assoc], ?_⟩
    simp only [List.mem_append, List.mem_singleton]
    rintro found (hfound | rfl)
    · exact hall found hfound
    · rw [hpayload]
      exact hfair
  rcases publishTracked_cases host threadId occurredAt payload s with
    ⟨e, b, hrun⟩ | ⟨mapping, event, b, -, -, hpayload, ⟨-, e, hrun⟩ | ⟨next, -, hrun⟩⟩
  · rw [hrun]
    exact ⟨hplan, events, hevents, hall⟩
  · rw [hrun]
    exact ⟨hplan, hmore event hpayload⟩
  · rw [hrun]
    refine ⟨?_, hmore event hpayload⟩
    rw [hasPlan_advance]
    exact hplan

theorem sums_closeLocalChoice (id : InteractionId) :
    Preserves (Sums told thread turn record) (closeLocalChoice (recording host) id) := by
  apply Preserves.bind (Preserves.reads _)
  intro choice
  cases choice with
  | none => exact Preserves.pure _
  | some choice =>
    apply Preserves.bind (Preserves.modify fun _ hs => ⟨hs.plan, hs.events⟩)
    intro _
    apply Preserves.bind (Preserves.reads _)
    intro mapping
    cases mapping with
    | none => exact Preserves.fail _
    | some mapping =>
      apply Preserves.bind (Preserves.update fun _ hs => ⟨hs.plan, hs.events⟩)
      intro now
      apply sums_publishTracked
      constructor
      · intro h
        cases h
      · intro text h
        cases h

theorem sums_publishPayload {threadId : String} {occurredAt : Timestamp}
    {payload : AgentEventPayload} (hidle : payload ≠ .stateChanged .idle)
    (hfair : FairTo told turn payload) :
    Preserves (Sums told thread turn record)
      (publishPayload (recording host) threadId occurredAt payload) := by
  apply Preserves.reads_bind
  intro s _
  have hpresented : presentedPayload s.mapper threadId payload = payload :=
    if_neg fun h => hidle h.1
  rw [hpresented]
  apply Preserves.bind
  · apply Preserves.when
    intro _
    apply Preserves.bind (Preserves.reads _)
    intro ids
    exact Preserves.forEach fun id _ => sums_closeLocalChoice id
  intro _
  exact sums_publishTracked hfair

/-- The summary of a completed turn is one of its own messages. -/
theorem turnOutcome_completed {completed : Value} {turnStatus : String}
    {summary : Option NonEmptyText} {outcome : SessionOutcome} {text : NonEmptyText}
    (h : turnOutcome completed turnStatus summary = .ok outcome)
    (houtcome : outcome = .completed (some text)) : summary = some text := by
  subst houtcome
  unfold turnOutcome at h
  split at h
  · cases h
    rfl
  · split at h
    · cases h
    · split at h
      · obtain ⟨error, -, h⟩ := Fallible.bind_eq_ok.mp h
        cases h
      · split at h <;> cases h

theorem hasPlan_updateThread (m : CodexEventMapper) (f : ThreadMapping → ThreadMapping) :
    (m.updateThread thread f).hasPlan thread =
      m.threads[thread]?.any fun mapping => (f mapping).planReady := by
  unfold CodexEventMapper.hasPlan
  rw [CodexEventMapper.threads_updateThread, if_pos rfl]
  cases m.threads[thread]? <;> rfl

/-- The end of a turn that is left with its own: neither its state nor its summary is
another turn's. -/
theorem finishTurn_fair (completed : Value) :
    Triple (fun s : MapperState (B × List AgentEvent) =>
        Own told turn (s.mapper.turnView thread).data ∧ s.host.2 = record)
      (finishTurn (recording host) thread turn completed)
      (fun _ => Sums told thread turn record) fun _ _ => True := by
  apply Triple.ofExcept_bind _ fun _ _ _ => trivial
  intro turnStatus _
  apply Triple.ofExcept_bind _ fun _ _ _ => trivial
  intro completedAt _
  have htime : Preserves (fun s : MapperState (B × List AgentEvent) =>
      Own told turn (s.mapper.turnView thread).data ∧ s.host.2 = record)
      (timestampSeconds (recording host) completedAt) := by
    cases completedAt with
    | none => exact Preserves.update fun _ hs => hs
    | some value => exact Preserves.ofExcept _
  apply Triple.bind ((Triple.of_preserves htime).weaken (fun _ hs => hs) (fun _ _ hs => hs)
    fun _ _ _ => trivial)
  intro timestamp
  have hfound : Triple (fun s : MapperState (B × List AgentEvent) =>
      Own told turn (s.mapper.turnView thread).data ∧ s.host.2 = record)
      (trackedThread thread)
      (fun mapping s => Own told turn mapping.turnView.data ∧ s.host.2 = record)
      fun _ _ => True := by
    constructor
    · rintro s mapping s' ⟨hown, hrecord⟩ h
      obtain ⟨hm, rfl⟩ := trackedThread_eq_ok h
      rw [CodexEventMapper.turnView_of_mapping hm] at hown
      exact ⟨hown, hrecord⟩
    · exact fun _ _ _ _ _ => trivial
  apply Triple.bind hfound
  intro mapping
  apply Triple.ofExcept_bind _ fun _ _ _ => trivial
  intro outcome houtcome
  apply Triple.of_fact fun _ hs => hs.1
  intro hown
  have hfair : FairTo told turn
      (if turnStatus = "completed" ∧ mapping.proposedPlan.isSome = true then
        .stateChanged .waitingForInteraction else .sessionEnded outcome) := by
    split
    · next hproposed =>
      refine ⟨fun _ => hown.plan hproposed.2, ?_⟩
      intro text h
      cases h
    · refine ⟨?_, ?_⟩
      · intro h
        cases h
      · intro text h
        exact hown.summarizes
          (turnOutcome_completed houtcome (AgentEventPayload.sessionEnded.inj h))
  apply Triple.bind (Q := fun _ => Sums told thread turn record)
  · apply Triple.modify
    rintro s ⟨-, hrecord⟩
    refine ⟨?_, [], by simp [hrecord], by simp⟩
    intro hplan
    rw [hasPlan_updateThread] at hplan
    have hproposed : turnStatus = "completed" ∧ mapping.proposedPlan.isSome = true := by
      cases hm : s.mapper.threads[thread]? with
      | none =>
        rw [hm] at hplan
        cases hplan
      | some found =>
        rw [hm] at hplan
        exact of_decide_eq_true hplan
    exact hown.plan hproposed.2
  intro _
  apply Triple.bind ((Triple.of_preserves (sums_publishPayload _ hfair)).weaken (fun _ hs => hs)
    (fun _ _ hs => hs) fun _ _ _ => trivial)
  · intro _
    apply Triple.bind (Q := fun _ => Sums told thread turn record)
    · apply Triple.modify
      rintro s ⟨hplan, hevents⟩
      refine ⟨?_, hevents⟩
      rw [hasPlan_updateThread]
      exact hplan
    intro _
    apply Triple.bind (Q := fun _ => Sums told thread turn record)
    · exact Triple.modify fun _ hs => ⟨hs.plan, hs.events⟩
    intro _
    exact Triple.pure fun _ hs => hs
  · split <;> simp

theorem sums_remember (key : Option String) (disposition : MappingDisposition) :
    Preserves (Sums told thread turn record)
      (remember key disposition : Mapping (B × List AgentEvent) MappingDisposition) := by
  cases key with
  | none => exact Preserves.pure _
  | some key =>
    apply Preserves.bind
    · apply Preserves.when
      intro _
      apply Preserves.modify
      rintro s ⟨hplan, hevents⟩
      refine ⟨?_, hevents⟩
      unfold CodexEventMapper.hasPlan
      rw [s.mapper.threads_rememberKey key]
      exact hplan
    intro _
    exact Preserves.pure _

end Ends

end Mapping

namespace Listened

variable {B : Type} {host : ProviderHost B} {thread : String}

open Mapping

theorem handles_tracked {m : CodexEventMapper} {method : String} {params : Value}
    (h : m.handles thread method params = true) : m.threads.contains thread = true := by
  simp only [CodexEventMapper.handles, Bool.and_eq_true] at h
  exact h.1.1.2.2

/-- What is kept is the own of the turn that the payload lists for the thread. -/
def Listed (thread : String) (told : List Told) (payload : Value) (view : TurnView) : Prop :=
  Owned told view ∧
    Lists thread (fun found => ∀ turn, found = some turn → Own told turn view.data) payload

theorem believes_listed (told : List Told) (payload : Value) :
    Believes thread (Listed thread told payload) payload := by
  intro value hvalue hid found hfound
  constructor
  · rintro ⟨-, hlists⟩
    refine ⟨?_, hlists⟩
    intro turn hturn
    exact hlists value hvalue hid found hfound turn hturn
  · rintro active data ⟨-, hlists⟩
    cases found with
    | none =>
      refine ⟨owned_idle told _, ?_⟩
      intro other hother _ listed hlisted turn hturn
      have hsame : other = value := Option.some.inj (hother.symm.trans hvalue)
      rw [hsame, hfound] at hlisted
      cases hlisted
      cases hturn
    | some running =>
      refine ⟨?_, hlists⟩
      intro turn hturn
      exact hlists value hvalue hid _ hfound turn hturn

/-- One operation leaves to the running turn what is its own. -/
theorem step_owned {self : Listened B} {op : MapperOp}
    (hs : Viewed thread (Owned self.told) self.state) (hkeeps : self.KeepsApart host thread op) :
    Viewed thread (Owned (self.step host thread op).1.told) (self.step host thread op).1.state := by
  have hsteady := steady_viewed (recording host) thread (Owned self.told)
  have hquiet : mappedMessage (recording host) thread self.state op = none →
      Viewed thread (Owned self.told) (op.run (recording host) self.state).2 →
      Viewed thread (Owned (self.step host thread op).1.told)
        (self.step host thread op).1.state := by
    intro hnone hview
    show Viewed thread
      (Owned (self.told ++ (mappedMessage (recording host) thread self.state op).toList)) _
    rw [hnone, Option.toList_none, List.append_nil]
    exact hview
  have hlisted : ∀ payload ∈ op.resumed self.state.mapper,
      Viewed thread (Listed thread self.told payload) self.state :=
    fun payload hpayload => ⟨hs, hkeeps.resumed payload hpayload⟩
  cases op with
  | notification method params =>
    show Viewed thread (Owned (self.told ++ (if (notification (recording host) method params
          self.state).1 = .ok .mapped then
        (MapperOp.notification method params).kept thread self.state.mapper else none).toList))
      ((notification (recording host) method params >>= fun _ => pure () :
        Mapping (B × List AgentEvent) Unit) self.state).2
    rw [Program.discard_state, notification_apply]
    by_cases hdiscovers : method = "thread/started" ∧ self.state.mapper.discoverThreads = true
    · have hpayload : params ∈ (MapperOp.notification method params).resumed self.state.mapper :=
        if_pos hdiscovers
      have hnone : (MapperOp.notification method params).kept thread self.state.mapper = none := by
        apply if_neg
        rw [hdiscovers.1]
        simp
      rw [if_pos hdiscovers, hnone, ite_self, Option.toList_none, List.append_nil]
      exact ((viewed_threadStarted (believes_listed self.told params)).holds _
        (hlisted params hpayload)).1
    · rw [if_neg hdiscovers]
      apply notifyThread_keeps hs
      · intro hidle hhandled turn kept htaken
        apply hkeeps.taken hidle turn kept
        exact (if_pos hhandled).trans htaken
      · exact fun message => hkeeps.published method params message rfl
  | approvalContext threadId turnId itemId =>
    apply hquiet rfl
    show Viewed thread (Owned self.told)
      ((approvalContext threadId turnId itemId >>= fun _ => pure () :
        Mapping (B × List AgentEvent) Unit) self.state).2
    rw [Program.discard_state]
    by_cases hid : threadId = thread
    · subst hid
      by_cases hconfigured : self.state.mapper.configured.contains threadId = true
      · have hready : Viewed threadId (fun view => Owned self.told view ∧
            (view.turn = none → Own self.told turnId view.data)) self.state := by
          refine ⟨hs, fun hidle => hkeeps.taken hidle turnId _ ?_⟩
          exact if_pos ⟨rfl, hconfigured⟩
        refine ((steady_approvalContext itemId (viewed_ensureActiveTurn ?_)).holds _ hready).1
        rintro - data ⟨-, hown⟩
        refine ⟨owned_running (hown rfl), ?_⟩
        intro hidle
        cases hidle
      · have hrun : (approvalContext threadId turnId itemId :
            Mapping (B × List AgentEvent) (Option (SessionId × Option Value))) self.state =
            (.ok none, self.state) := by
          simp only [approvalContext, bind_apply, Program.reads, Bool.eq_false_iff.mpr hconfigured,
            Bool.false_and, Program.ite_apply, Program.pure_apply]
          rfl
        rw [hrun]
        exact hs
    · exact (steady_approvalContext itemId
        (viewed_ensureActiveTurn fun h => absurd h hid)).holds _ hs
  | resumeThread result =>
    apply hquiet rfl
    exact ((viewed_resumeThread (believes_listed self.told result)).holds _ (hlisted result rfl)).1
  | startThread threadId result =>
    apply hquiet rfl
    exact ((Preserves.bind (viewed_trackDiscoveredThread threadId) fun _ =>
      viewed_resumeThread (believes_listed self.told result)).holds _ (hlisted result rfl)).1
  | beginReconnect => exact hquiet rfl ((steady_beginReconnect hsteady).holds _ hs)
  | disconnectAll => exact hquiet rfl ((steady_disconnectAll hsteady).holds _ hs)
  | publishPayload threadId occurredAt payload =>
    exact hquiet rfl ((steady_publishPayload hsteady threadId occurredAt payload).holds _ hs)
  | publishHistoryItems threadId entries =>
    exact hquiet rfl ((steady_publishHistoryItems hsteady threadId entries).holds _ hs)
  | trackDiscoveredThread threadId =>
    exact hquiet rfl ((viewed_trackDiscoveredThread threadId).holds _ hs)
  | publishLocalChoice threadId request plan =>
    exact hquiet rfl ((steady_publishLocalChoice hsteady threadId request plan).holds _ hs)
  | closeLocalChoice id => exact hquiet rfl ((steady_closeLocalChoice hsteady id).holds _ hs)
  | respondLocalChoice threadId response =>
    exact hquiet rfl ((Preserves.bind (steady_respondLocalChoice hsteady threadId response) fun _ =>
      Preserves.pure _).holds _ hs)
  | dismissLocalPlan threadId =>
    exact hquiet rfl ((steady_dismissPlan hsteady threadId).holds _ hs)
  | dismissPlan threadId => exact hquiet rfl ((hsteady.planReady threadId false).holds _ hs)
  | deferObserverResume threadId => exact hquiet rfl hs
  | retryObserverResume threadId =>
    apply hquiet rfl
    exact (viewed_onMapper fun m => CodexEventMapper.turnView_congr
      (m.threads_retryObserverResume threadId) thread).holds _ hs
  | takeObserverResumes => exact hquiet rfl hs

theorem step_endsFairly {self : Listened B} {op : MapperOp}
    (hs : Viewed thread (Owned self.told) self.state) (hkeeps : self.KeepsApart host thread op) :
    self.EndsFairly host thread op := by
  rintro params turn s' rfl hthread hturn hrun
  rw [notification_apply, if_neg (by simp)] at hrun
  obtain ⟨m, hthreads, hrest⟩ :=
    notifyThread_cases (recording host) "turn/completed" self.state hthread
  have hview : m.turnView thread = self.state.mapper.turnView thread :=
    CodexEventMapper.turnView_congr hthreads thread
  rcases hrest with ⟨-, result, hdropped, hother⟩ | ⟨hhandled, key, hhandler⟩
  · rw [hdropped] at hrun
    cases hrun
    exact absurd rfl hother
  · rw [hhandler, dispatch_turnCompleted] at hrun
    obtain ⟨disposition, t, hcompleted, hremember⟩ := Program.bind_eq_ok hrun
    obtain ⟨completed, t₁, hread, hcompleted₁⟩ := Program.bind_eq_ok hcompleted
    obtain ⟨hfound, rfl⟩ := Program.ofExcept_eq_ok hread
    obtain ⟨turnId, t₂, hread₂, hcompleted₂⟩ := Program.bind_eq_ok hcompleted₁
    obtain ⟨hid, rfl⟩ := Program.ofExcept_eq_ok hread₂
    obtain ⟨u, t₃, hensured, hfinish⟩ := Program.bind_eq_ok hcompleted₂
    have hnamed : turnId = turn :=
      Option.some.inj ((nestedId_of_fields hfound hid).symm.trans hturn)
    subst hnamed
    have htracked : m.threads.contains thread = true := by
      rw [hthreads]
      exact handles_tracked hhandled
    rcases ensureActiveTurn_cases ⟨m, self.state.host⟩ turnId htracked with
      ⟨-, e, herror⟩ | ⟨hsame, t₄, hok, hviewed, -, hhost⟩
    · cases hensured.symm.trans herror
    · cases hok.symm.trans hensured
      have hown : Own self.told turnId (m.turnView thread).data := by
        dsimp only at hsame
        rw [hview] at hsame ⊢
        cases hactive : (self.state.mapper.turnView thread).turn with
        | none =>
          apply hkeeps.taken hactive turnId
          exact (if_pos hhandled).trans (by simp [takenBy, hturn])
        | some active =>
          rw [hactive] at hsame
          have hnamed : active = turnId := by simpa using hsame
          exact hs turnId (hnamed ▸ hactive)
      have hsums : Sums self.told thread turnId self.state.host.2 t := by
        apply (finishTurn_fair completed).returns t₃ disposition t _ hfinish
        rw [hviewed, hhost]
        exact ⟨hown, rfl⟩
      have hfinal := (sums_remember key disposition).holds t hsums
      rw [hremember] at hfinal
      exact ⟨hfinal.plan, hfinal.events⟩

/-- The mapper as it starts. -/
def new (provider : ProviderId) (threads : List ConfiguredThread) (discoverThreads : Bool) (b : B) :
    Listened B :=
  ⟨⟨.new provider threads discoverThreads, b, []⟩, []⟩

/-- Where no turn is run with what another turn left, no completed turn is offered with
another turn's plan or summed up by another turn's message. -/
theorem run_endsFairly (provider : ProviderId) (threads : List ConfiguredThread)
    (discoverThreads : Bool) (b : B) (ops : List MapperOp)
    (hkeeps : Trace.Along (step host thread) (KeepsApart host thread)
      (new provider threads discoverThreads b) ops) :
    Trace.Along (step host thread) (EndsFairly host thread)
      (new provider threads discoverThreads b) ops := by
  have hstart : Viewed thread (Owned (new provider threads discoverThreads b).told)
      (new provider threads discoverThreads b).state := owned_idle [] .empty
  revert hkeeps hstart
  generalize new provider threads discoverThreads b = self
  induction ops generalizing self with
  | nil => exact fun _ _ => trivial
  | cons op rest ih =>
    intro hkeeps howned
    exact ⟨step_endsFairly howned hkeeps.1, ih _ hkeeps.2 (step_owned howned hkeeps.1)⟩

end Listened

namespace Sample

/-- A plan of the agent as the server reports it. -/
def planParams (turn item text : String) : Value :=
  .object [
    ("threadId", .string thread), ("turnId", .string turn), ("completedAtMs", .int 3),
    ("item", .object [("id", .string item), ("type", .string "plan"), ("text", .string text)])]

/-- A turn that ends with a plan. -/
def planned : List MapperOp :=
  [threadStarted, turnStarted "t1", .notification "item/completed" (planParams "t1" "i1" "plan"),
    .notification "turn/completed" (turnParams "t1" "completed")]

/-- The next turn, first seen through an item. -/
def superseded : List MapperOp :=
  [.notification "item/started" (.object [
      ("threadId", .string thread), ("turnId", .string "t2"), ("startedAtMs", .int 4),
      ("item", .object [("id", .string "i2"), ("type", .string "agentMessage")])]),
    turnStarted "t2"]

/-- The observer before the server has announced anything. -/
def listening : Listened Nat := .new (Ident.numbered .provider 0) [] true 0

end Sample

namespace Listened

open AgentPulse.Codex.Sample (listening planned superseded)

theorem takes_started {thread turn : String} {m : CodexEventMapper} {params : Value}
    {data : TurnData}
    (h : (MapperOp.notification "turn/started" params).takes thread m = some (turn, data)) :
    data = .empty := by
  have htaken : (if m.handles thread "turn/started" params = true then
      takenBy "turn/started" params (m.turnView thread).data else none) = some (turn, data) := h
  split at htaken
  · rw [takenBy, if_pos rfl] at htaken
    obtain ⟨found, -, hfound⟩ := Option.map_eq_some_iff.mp htaken
    cases hfound
    rfl
  · cases htaken

/-- Between the first turn and its end the thread is never idle. -/
theorem planned_busy :
    ((Trace.final (step Sample.host Sample.thread) listening
        (planned.take 2)).state.mapper.turnView Sample.thread).turn.isSome = true ∧
      ((Trace.final (step Sample.host Sample.thread) listening
        (planned.take 3)).state.mapper.turnView Sample.thread).turn.isSome = true ∧
      (Trace.final (step Sample.host Sample.thread) listening
        planned).state.mapper.hasPlan Sample.thread = true := by
  decide +kernel

/-- The plan is published. -/
theorem planned_delivers :
    let self := Trace.final (step Sample.host Sample.thread) listening (planned.take 2)
    ∀ message ∈ (MapperOp.notification "item/completed"
        (Sample.planParams "t1" "i1" "plan")).kept Sample.thread self.state.mapper,
      Mapping.delivers (recording Sample.host) Sample.thread (Sample.planParams "t1" "i1" "plan")
        message.content self.state = true := by
  decide +kernel

theorem planned_keepsApart :
    Trace.Along (step Sample.host Sample.thread) (KeepsApart Sample.host Sample.thread)
      listening planned := by
  have hbusy : ∀ {view : TurnView}, view.turn.isSome = true → view.turn ≠ none := by
    intro view hsome hnone
    rw [hnone] at hsome
    cases hsome
  have hsilent : ∀ {method : String} {params : Value} {message : Told} {m : CodexEventMapper},
      method ≠ "item/completed" →
      (MapperOp.notification method params).kept Sample.thread m ≠ some message := by
    intro method params message m hmethod hkept
    have hnone : (MapperOp.notification method params).kept Sample.thread m = none :=
      if_neg (by simp [hmethod])
    cases hnone.symm.trans hkept
  refine ⟨⟨?_, ?_, ?_⟩, ⟨?_, ?_, ?_⟩, ⟨?_, ?_, ?_⟩, ⟨?_, ?_, ?_⟩, trivial⟩
  · intro _ turn data htaken
    have hnone : Sample.threadStarted.takes Sample.thread listening.state.mapper = none := by
      decide +kernel
    cases hnone.symm.trans htaken
  · intro payload hpayload value hvalue hid found hfound turn hturn
    cases hpayload
    cases hvalue
    cases hid
    cases hfound
    cases hturn
  · intro method params message hop hkept
    cases hop
    exact absurd hkept (hsilent (by simp))
  · intro _ turn data htaken
    have htold : (step Sample.host Sample.thread listening Sample.threadStarted).1.told = [] := rfl
    rw [htold, takes_started htaken]
    exact own_nil turn
  · intro payload hpayload
    cases hpayload
  · intro method params message hop hkept
    cases hop
    exact absurd hkept (hsilent (by simp))
  · exact fun hidle => absurd hidle (hbusy planned_busy.1)
  · intro payload hpayload
    cases hpayload
  · intro method params message hop hkept
    cases hop
    exact .inl (planned_delivers message hkept)
  · exact fun hidle => absurd hidle (hbusy planned_busy.2.1)
  · intro payload hpayload
    cases hpayload
  · intro method params message hop hkept
    cases hop
    exact absurd hkept (hsilent (by simp))

/-- A turn that ends with a plan offers it. -/
theorem run_endsFairly_planned :
    Trace.Along (step Sample.host Sample.thread) (EndsFairly Sample.host Sample.thread)
      listening planned ∧
    (Trace.final (step Sample.host Sample.thread) listening
      planned).state.mapper.hasPlan Sample.thread = true :=
  ⟨run_endsFairly _ _ _ _ planned planned_keepsApart, planned_busy.2.2⟩

/-- The next turn is first seen through an item, and its turn/started comes later: when
it is complete the plan of the turn before is offered again. -/
theorem plan_offered_again :
    ¬ EndsFairly Sample.host Sample.thread
      (Trace.final (step Sample.host Sample.thread) listening (planned ++ superseded))
      (.notification "turn/completed" (Sample.turnParams "t2" "completed")) := by
  have hrun :
      let self := Trace.final (step Sample.host Sample.thread) listening (planned ++ superseded)
      let ended := Mapping.notification (recording Sample.host) "turn/completed"
        (Sample.turnParams "t2" "completed") self.state
      ended.1 = .ok .mapped ∧ ended.2.mapper.hasPlan Sample.thread = true ∧
        (self.told.all fun item => !(item.turn == "t2")) = true := by
    decide +kernel
  obtain ⟨hmapped, hplan, htold⟩ := hrun
  intro hfair
  obtain ⟨hproposed, -⟩ := hfair _ "t2" _ rfl (by decide +kernel) (by decide +kernel)
    (Prod.ext hmapped rfl)
  obtain ⟨item, hitem, hturn, -⟩ := hproposed hplan
  have hother := List.all_eq_true.mp htold item hitem
  simp [hturn] at hother

end Listened

end Codex

end AgentPulse
