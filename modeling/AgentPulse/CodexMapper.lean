import AgentPulse.CodexValue

/-!
# Threads and turns as session events

`CodexEventMapper` turns notifications and responses of the App Server into the
events of one session per thread. Its operations are programs over the mapper
and the host: a failed publication leaves the mapper as far as it had come.
-/
namespace AgentPulse

namespace Codex

open Std (ExtTreeMap ExtTreeSet)
open Program (fail ofExcept reads modify update forEach when)
open Serde (Json)

def recentNotificationLimit : Nat := 2048

inductive MappingDisposition where
  | mapped | validatedUnmapped
  deriving DecidableEq, Repr

structure ThreadMapping where
  sessionId : SessionId
  nextSequence : EventSequence
  state : AgentState
  connection : ConnectionState
  cwd : Option NonEmptyText
  model : Option String
  reasoningEffort : Option String
  activeTurnId : Option String
  lastMessage : Option NonEmptyText
  lastFinalMessage : Option NonEmptyText
  proposedPlan : Option String
  planReady : Bool
  deriving DecidableEq, Repr

/-- Thread, turn and item of a cached item. -/
structure ItemKey where
  threadId : String
  turnId : String
  itemId : String
  deriving DecidableEq, Repr

namespace ItemKey

instance : Ord ItemKey :=
  ⟨compareLex (compareOn threadId) (compareLex (compareOn turnId) (compareOn itemId))⟩

instance : Std.TransOrd ItemKey :=
  inferInstanceAs (Std.TransCmp
    (compareLex (compareOn threadId) (compareLex (compareOn turnId) (compareOn itemId))))

instance : Std.LawfulEqOrd ItemKey where
  eq_of_compare := by
    intro a b h
    have h' : compareLex (compareOn threadId) (compareLex (compareOn turnId) (compareOn itemId))
        a b = .eq := h
    simp only [compareLex_eq_eq, compareOn, Std.compare_eq_iff_eq] at h'
    cases a
    cases b
    simp_all

end ItemKey

structure CodexEventMapper where
  providerId : ProviderId
  discoverThreads : Bool
  configured : ExtTreeMap String SessionId
  threads : ExtTreeMap String ThreadMapping
  items : ExtTreeMap ItemKey Value
  recentKeys : ExtTreeSet String
  recentOrder : List String
  observerResumes : ExtTreeSet String
  deferredObserverResumes : ExtTreeSet String
  localChoices : ExtTreeMap InteractionId (String × Bool)

structure ConfiguredThread where
  externalId : ExternalId
  sessionId : SessionId
  deriving DecidableEq, Repr

namespace CodexEventMapper

def new (providerId : ProviderId) (threads : List ConfiguredThread) (discoverThreads : Bool) :
    CodexEventMapper where
  providerId := providerId
  discoverThreads := discoverThreads
  configured :=
    threads.foldl (fun m thread => m.insert thread.externalId.text.asStr thread.sessionId) ∅
  threads := ∅
  items := ∅
  recentKeys := ∅
  recentOrder := []
  observerResumes := ∅
  deferredObserverResumes := ∅
  localChoices := ∅

def deferObserverResume (self : CodexEventMapper) (threadId : String) : CodexEventMapper :=
  { self with deferredObserverResumes := self.deferredObserverResumes.insert threadId }

def retryObserverResume (self : CodexEventMapper) (threadId : String) : CodexEventMapper :=
  if self.deferredObserverResumes.contains threadId then
    { self with
      deferredObserverResumes := self.deferredObserverResumes.erase threadId
      observerResumes := self.observerResumes.insert threadId }
  else self

/-- The requested subscriptions of configured threads; the request set is emptied. -/
def takeObserverResumes (self : CodexEventMapper) :
    List (SessionId × String) × CodexEventMapper :=
  (self.observerResumes.toList.filterMap fun thread =>
      self.configured[thread]?.map fun id => (id, thread),
    { self with observerResumes := ∅ })

def readyPlans (self : CodexEventMapper) : List (SessionId × String) :=
  (self.threads.toList.filter fun (_, t) => t.planReady && t.connection == .connected).map
    fun (id, t) => (t.sessionId, id)

/-- `if let Some(mapping) = self.threads.get_mut(thread_id) { … }`. -/
def updateThread (self : CodexEventMapper) (threadId : String)
    (f : ThreadMapping → ThreadMapping) : CodexEventMapper :=
  match self.threads[threadId]? with
  | some mapping => { self with threads := self.threads.insert threadId (f mapping) }
  | none => self

def dismissPlan (self : CodexEventMapper) (threadId : String) : CodexEventMapper :=
  self.updateThread threadId fun mapping => { mapping with planReady := false }

def hasPlan (self : CodexEventMapper) (threadId : String) : Bool :=
  self.threads[threadId]?.any ThreadMapping.planReady

def isThreadTracked (self : CodexEventMapper) (threadId : String) : Bool :=
  self.threads.contains threadId

/-- The first thread of the session, in thread order, with its running turn. -/
def commandContext (self : CodexEventMapper) (sessionId : SessionId) :
    Option (String × Option String × AgentState) :=
  self.threads.toList.findSome? fun (threadId, mapping) =>
    if mapping.sessionId = sessionId then some (threadId, mapping.activeTurnId, mapping.state)
    else none

def sessionIdForThread (self : CodexEventMapper) (threadId : String) : Option SessionId :=
  self.threads[threadId]?.map ThreadMapping.sessionId

def mappingOfSession (self : CodexEventMapper) (sessionId : SessionId) : Option ThreadMapping :=
  (OrderedMap.values self.threads).find? fun mapping => mapping.sessionId == sessionId

def cwdForSession (self : CodexEventMapper) (sessionId : SessionId) : Option String :=
  ((self.mappingOfSession sessionId).bind ThreadMapping.cwd).map NonEmptyText.asStr

def modelSettingsForSession (self : CodexEventMapper) (sessionId : SessionId) :
    Option (String × Option String) :=
  (self.mappingOfSession sessionId).bind fun mapping =>
    mapping.model.map fun model => (model, mapping.reasoningEffort)

/-- The oldest key leaves when the window is over its limit. -/
def rememberKey (self : CodexEventMapper) (key : String) : CodexEventMapper :=
  let self :=
    { self with
      recentKeys := self.recentKeys.insert key
      recentOrder := self.recentOrder ++ [key] }
  if self.recentOrder.length > recentNotificationLimit then
    match self.recentOrder with
    | expired :: rest =>
      { self with recentOrder := rest, recentKeys := self.recentKeys.erase expired }
    | [] => self
  else self

end CodexEventMapper

def timestampWithMultiplier (value multiplier : Int) : Sourced Timestamp :=
  let nanos := value * multiplier
  if -(2 ^ 127) ≤ nanos ∧ nanos < 2 ^ 127 then domain (Timestamp.fromUnixTimestampNanos nanos)
  else protocolError "Codex timestamp overflowed Unix nanoseconds"

def mapLoadedState (status : Value) : Sourced AgentState := do
  let statusType ← stringField status "type"
  if statusType = "idle" then .ok .idle
  else if statusType = "systemError" then .ok .failed
  else if statusType = "active" then
    let waiting := ((status.get "activeFlags").bind Json.asArray).any fun flags =>
      flags.any fun flag =>
        flag.asStr = some "waitingOnApproval" || flag.asStr = some "waitingOnUserInput"
    .ok (if waiting then .waitingForInteraction else .running)
  else if statusType = "notLoaded" then
    protocolError "notLoaded status has no connected execution state"
  else protocolError s!"unsupported thread status {statusType}"

def initialStatus (status : Value) : Sourced (AgentState × ConnectionState) := do
  let statusType ← stringField status "type"
  if statusType = "notLoaded" then .ok (.initializing, .disconnected)
  else do
    let state ← mapLoadedState status
    .ok (state, .connected)

def threadTitle (thread : Value) : Sourced (Option NonEmptyText) := do
  match ← optionalNonEmptyString thread "name" with
  | some name => .ok (some name)
  | none => optionalNonEmptyString thread "preview"

/-- The last turn of the payload that is marked as running and has an identifier. -/
def latestInProgressTurn (thread : Value) : Sourced (Option String) :=
  match (thread.get "turns").bind Json.asArray with
  | none => protocolError "turns must be an array"
  | some turns =>
    .ok (turns.reverse.findSome? fun turn =>
      if (turn.get "status").bind Json.asStr = some "inProgress" then
        (turn.get "id").bind Json.asStr
      else none)

def nestedId (params : Value) (field : String) : Option String :=
  ((params.get field).bind fun entry => entry.get "id").bind Json.asStr

/-- The deduplication key of the three notifications that carry one. -/
def notificationKey (method : String) (params : Value) (threadId : String) :
    Sourced (Option String) :=
  let id :=
    if method = "turn/started" ∨ method = "turn/completed" then nestedId params "turn"
    else if method = "item/completed" then nestedId params "item"
    else none
  match id with
  | some id => .ok (some s!"{method}:{threadId}:{id}")
  | none =>
    if method = "turn/started" ∨ method = "turn/completed" ∨ method = "item/completed" then
      protocolError s!"{method} notification has no item or turn ID"
    else .ok none

inductive PayloadState where
  | execution (state : AgentState)
  | connection (connection : ConnectionState)
  | none
  deriving DecidableEq, Repr

def payloadState : AgentEventPayload → PayloadState
  | .stateChanged state => .execution state
  | .connectionChanged connection => .connection connection
  | .sessionEnded outcome => .execution (outcomeAgentState outcome)
  | _ => .none

def PayloadState.apply (self : PayloadState) (mapping : ThreadMapping) : ThreadMapping :=
  match self with
  | .execution value => { mapping with state := value }
  | .connection value => { mapping with connection := value }
  | .none => mapping

structure MapperState (B : Type) where
  mapper : CodexEventMapper
  host : B

abbrev Mapping (B α : Type) := Program (MapperState B) CodexProviderSourceError α

namespace Mapping

variable {B : Type} (host : ProviderHost B)

def onMapper (f : CodexEventMapper → CodexEventMapper) : Mapping B Unit :=
  modify fun s => { s with mapper := f s.mapper }

def nowUtc : Mapping B Timestamp :=
  update fun s => ((host.nowUtc s.host).1, { s with host := (host.nowUtc s.host).2 })

def newId (k : IdKind) : Mapping B (Ident k) :=
  update fun s => ((host.newId k s.host).1, { s with host := (host.newId k s.host).2 })

/-- The current time stands in for an absent instant. -/
def timestampOr (value : Option Int) (multiplier : Int) : Mapping B Timestamp :=
  match value with
  | none => nowUtc host
  | some value => ofExcept (timestampWithMultiplier value multiplier)

def timestampSeconds (value : Option Int) : Mapping B Timestamp :=
  timestampOr host value 1000000000

def timestampMilliseconds (value : Option Int) : Mapping B Timestamp :=
  timestampOr host value 1000000

def trackedThread (threadId : String) : Mapping B ThreadMapping := do
  match ← reads fun s => s.mapper.threads[threadId]? with
  | some mapping => pure mapping
  | none => fail (.protocol "tracked thread disappeared")

/-- A publication counts as made when the bridge committed the event, also when
a channel did not take it. -/
def publishCommitted (event : AgentEvent) : Mapping B Unit := do
  let result ← update fun s =>
    ((host.publishEvent s.host event).2, { s with host := (host.publishEvent s.host event).1 })
  match result with
  | .ok _ => pure ()
  | .error error =>
    if error.report.isSome then pure () else fail (.eventIngress error)

/-- `publish_payload` from the lookup of the thread on: the event takes the next
sequence number of the thread, and the mapping follows the published event. -/
def publishTracked (threadId : String) (occurredAt : Timestamp) (payload : AgentEventPayload) :
    Mapping B Unit := do
  let mapping ← trackedThread threadId
  let id ← newId host .event
  let event ← ofExcept
    (domain (AgentEvent.new id mapping.sessionId mapping.nextSequence occurredAt payload))
  publishCommitted host event
  let mapping ← trackedThread threadId
  match mapping.nextSequence.checkedNext with
  | none => fail (.protocol s!"event sequence exhausted for thread {threadId}")
  | some next =>
    onMapper fun m => m.updateThread threadId fun mapping =>
      (payloadState payload).apply { mapping with nextSequence := next }

/-- The closing event is none of the payloads that `publish_payload` rewrites or
prepares for, so it is published as it is. -/
def closeLocalChoice (id : InteractionId) : Mapping B Unit := do
  match ← reads fun s => s.mapper.localChoices[id]? with
  | none => pure ()
  | some (threadId, _) =>
    onMapper fun m => { m with localChoices := m.localChoices.erase id }
    match ← reads fun s => s.mapper.threads[threadId]? with
    | none => fail (.protocol "local choice thread disappeared")
    | some mapping =>
      let now ← nowUtc host
      publishTracked host threadId now
        (.interactionClosed ⟨id, mapping.sessionId, .providerCancelled⟩)

/-- The live choices of a thread that satisfy a test, in identifier order. -/
def localChoicesOf (m : CodexEventMapper) (threadId : String) (test : Bool → Bool) :
    List InteractionId :=
  (m.localChoices.toList.filter fun (_, thread, plan) => thread == threadId && test plan).map
    Prod.fst

def closeLocalChoices (threadId : String) : Mapping B Unit := do
  let ids ← reads fun s => localChoicesOf s.mapper threadId fun _ => true
  forEach (closeLocalChoice host) ids

/-- The payloads that end every open choice of their thread. -/
def endsLocalChoices : AgentEventPayload → Bool
  | .sessionEnded _ => true
  | .connectionChanged connection => connection == .disconnected
  | _ => false

/-- A thread with a plan to decide is shown as waiting instead of idle. -/
def presentedPayload (m : CodexEventMapper) (threadId : String) (payload : AgentEventPayload) :
    AgentEventPayload :=
  if payload = .stateChanged .idle ∧ m.hasPlan threadId then .stateChanged .waitingForInteraction
  else payload

def publishPayload (threadId : String) (occurredAt : Timestamp) (payload : AgentEventPayload) :
    Mapping B Unit := do
  let payload ← reads fun s => presentedPayload s.mapper threadId payload
  when (endsLocalChoices payload) (closeLocalChoices host threadId)
  publishTracked host threadId occurredAt payload

def publishLocalChoice (threadId : String) (request : InteractionRequest) (plan : Bool) :
    Mapping B Unit := do
  let waiting ← reads fun s => s.mapper.hasPlan threadId
  if plan && !waiting then pure ()
  else do
    let now ← nowUtc host
    publishPayload host threadId now (.interactionRequested request)
    onMapper fun m => { m with localChoices := m.localChoices.insert request.id (threadId, plan) }

/-- The part of `resume_thread` for a thread that is already tracked. -/
def resumeTracked (threadId : String) (thread : Value) (model reasoningEffort : Option String) :
    Mapping B Unit := do
  let updatedAt ← ofExcept (optionalI64Field thread "updatedAt")
  let observedAt ← timestampSeconds host updatedAt
  let statusValue ← ofExcept (objectField thread "status")
  let (observedState, observedConnection) ← ofExcept (initialStatus statusValue)
  let current ← trackedThread threadId
  when (current.connection ≠ observedConnection)
    (publishPayload host threadId observedAt (.connectionChanged observedConnection))
  when (current.state ≠ observedState)
    (publishPayload host threadId observedAt (.stateChanged observedState))
  onMapper fun m => m.updateThread threadId fun mapping =>
    { mapping with model := model, reasoningEffort := reasoningEffort }
  let activeTurn ← ofExcept (latestInProgressTurn thread)
  onMapper fun m => m.updateThread threadId fun mapping =>
    { mapping with
      activeTurnId := activeTurn
      lastMessage := if activeTurn.isNone then none else mapping.lastMessage
      lastFinalMessage := if activeTurn.isNone then none else mapping.lastFinalMessage }

/-- The part of `resume_thread` that starts the session of a new thread. -/
def resumeNew (threadId : String) (sessionId : SessionId) (thread : Value)
    (model reasoningEffort : Option String) : Mapping B Unit := do
  let created ← ofExcept (i64Field thread "createdAt")
  let createdAt ← timestampSeconds host (some created)
  let updated ← ofExcept (i64Field thread "updatedAt")
  let updatedAt ← timestampSeconds host (some updated)
  let statusValue ← ofExcept (objectField thread "status")
  let (state, connection) ← ofExcept (initialStatus statusValue)
  let externalId ← ofExcept (domain (ExternalId.new threadId))
  let title ← ofExcept (threadTitle thread)
  let cwd ← ofExcept (optionalNonEmptyString thread "cwd")
  let providerId ← reads fun s => s.mapper.providerId
  let session ← ofExcept (domain (AgentSessionBuilder.build
    { AgentSession.builder sessionId providerId createdAt with
      externalId := some externalId
      title := title
      workspace := cwd.map fun path => ⟨path, none⟩
      state := state
      connectionState := connection
      revision := PositiveCounter.first
      updatedAt := updatedAt }))
  let id ← newId host .event
  let event ← ofExcept
    (domain (AgentEvent.new id sessionId PositiveCounter.first updatedAt (.sessionStarted session)))
  publishCommitted host event
  match (PositiveCounter.first : EventSequence).checkedNext with
  | none => fail (.protocol "event sequence exhausted after SessionStarted")
  | some nextSequence => do
    let activeTurn ← ofExcept (latestInProgressTurn thread)
    let mapping : ThreadMapping :=
      { sessionId := sessionId
        nextSequence := nextSequence
        state := state
        connection := connection
        cwd := cwd
        model := model
        reasoningEffort := reasoningEffort
        activeTurnId := activeTurn
        lastMessage := none
        lastFinalMessage := none
        proposedPlan := none
        planReady := false }
    onMapper fun m => { m with threads := m.threads.insert threadId mapping }

def resumeThread (result : Value) : Mapping B Unit := do
  let thread ← ofExcept (objectField result "thread")
  let threadId ← ofExcept (stringField thread "id")
  let resultModel ← ofExcept (optionalString result "model")
  let threadModel ← ofExcept (optionalString thread "model")
  let resultEffort ← ofExcept (optionalString result "reasoningEffort")
  let threadEffort ← ofExcept (optionalString thread "reasoningEffort")
  let model := resultModel.or threadModel
  let reasoningEffort := resultEffort.or threadEffort
  match ← reads fun s => s.mapper.configured[threadId]? with
  | none => fail (.protocol s!"thread/resume returned unconfigured thread {threadId}")
  | some configuredSession => do
    let _ ← ofExcept (threadTitle thread)
    let _ ← ofExcept (optionalString thread "cwd")
    let tracked ← reads fun s => s.mapper.isThreadTracked threadId
    if tracked then resumeTracked host threadId thread model reasoningEffort
    else resumeNew host threadId configuredSession thread model reasoningEffort

/-- The text and role of a history item that is shown, if it is. -/
def historyMessage (item : Value) : Sourced (Option (AgentMessageRole × String)) := do
  let itemType ← stringField item "type"
  if itemType = "agentMessage" ∨ itemType = "plan" then do
    let text ← stringField item "text"
    .ok (some (.assistant, text))
  else if itemType = "userMessage" then
    match (item.get "content").bind Json.asArray with
    | none => protocolError "user message content must be an array"
    | some content =>
      let texts := (content.filter fun input =>
        (input.get "type").bind Json.asStr = some "text").filterMap fun input =>
          (input.get "text").bind Json.asStr
      let shown := texts.filter fun text => !"Work in Plan mode:".isPrefixOf text
      .ok (some (.user, "\n".intercalate shown))
  else .ok none

def publishHistoryItem (threadId : String) (entry : Value) : Mapping B Unit := do
  let item ← ofExcept (objectField entry "item")
  match ← ofExcept (historyMessage item) with
  | none => pure ()
  | some (role, text) =>
    if isBlank text then pure ()
    else do
      let now ← nowUtc host
      let content ← ofExcept (domain (NonEmptyText.new text))
      publishPayload host threadId now (.message ⟨role, .info, content⟩)

def publishHistoryItems (threadId : String) (entries : List Value) : Mapping B Unit :=
  forEach (publishHistoryItem host threadId) entries

/-- The identifier is parsed whether or not the thread is already configured. -/
def trackDiscoveredThread (threadId : String) : Mapping B Unit := do
  let sessionId ← ofExcept (domain (Ident.fromStr .session threadId))
  onMapper fun m =>
    if m.configured.contains threadId then m
    else { m with configured := m.configured.insert threadId sessionId }

/-- `needs_event` of both connection loops. -/
def needsConnection (m : CodexEventMapper) (threadId : String) (connection : ConnectionState) :
    Bool :=
  m.threads[threadId]?.any fun mapping => mapping.connection ≠ connection

/-- One round of the connection loops. -/
def announceConnection (connection : ConnectionState) (threadId : String) : Mapping B Unit := do
  let needsEvent ← reads fun s => needsConnection s.mapper threadId connection
  when needsEvent do
    let now ← nowUtc host
    publishPayload host threadId now (.connectionChanged connection)

def beginReconnect : Mapping B Unit := do
  let threadIds ← reads fun s => s.mapper.threads.keys
  forEach (announceConnection host .reconnecting) threadIds

/-- A failed announcement does not keep the others back. -/
def disconnectAll : Mapping B Unit := do
  let threadIds ← reads fun s => s.mapper.threads.keys
  forEach (fun threadId => do
    let _ ← Program.attempt (announceConnection host .disconnected threadId)) threadIds

def ensureActiveTurn (threadId turnId : String) : Mapping B Unit := do
  let mapping ← trackedThread threadId
  match mapping.activeTurnId with
  | some active =>
    if active ≠ turnId then
      fail (.protocol s!"notification for turn {turnId} arrived while {active} is active")
    else pure ()
  | none =>
    onMapper fun m => m.updateThread threadId fun mapping =>
      { mapping with activeTurnId := some turnId }

def approvalContext (threadId turnId itemId : String) :
    Mapping B (Option (SessionId × Option Value)) := do
  let known ← reads fun s =>
    s.mapper.configured.contains threadId && s.mapper.threads.contains threadId
  if !known then pure none
  else do
    ensureActiveTurn threadId turnId
    let mapping ← trackedThread threadId
    let item ← reads fun s => s.mapper.items[(⟨threadId, turnId, itemId⟩ : ItemKey)]?
    pure (some (mapping.sessionId, item))

def threadSettingsUpdated (threadId : String) (params : Value) : Mapping B MappingDisposition := do
  let settings ← ofExcept (objectField params "threadSettings")
  let model ← ofExcept (stringField settings "model")
  let reasoningEffort ← ofExcept (optionalString settings "effort")
  let _ ← trackedThread threadId
  onMapper fun m => m.updateThread threadId fun mapping =>
    { mapping with model := some model, reasoningEffort := reasoningEffort }
  pure .validatedUnmapped

def itemStarted (threadId : String) (params : Value) : Mapping B MappingDisposition := do
  let turnId ← ofExcept (stringField params "turnId")
  ensureActiveTurn threadId turnId
  let item ← ofExcept (objectField params "item")
  let itemId ← ofExcept (stringField item "id")
  onMapper fun m => { m with items := m.items.insert ⟨threadId, turnId, itemId⟩ item }
  pure .validatedUnmapped

def fileChangePatchUpdated (threadId : String) (params : Value) :
    Mapping B MappingDisposition := do
  let turnId ← ofExcept (stringField params "turnId")
  let itemId ← ofExcept (stringField params "itemId")
  ensureActiveTurn threadId turnId
  match params.get "changes" with
  | some (.array changes) =>
    let key : ItemKey := ⟨threadId, turnId, itemId⟩
    let item ← reads fun s => (s.mapper.items[key]?).getD
      (.object [("id", .string itemId), ("type", .string "fileChange"), ("changes", .array [])])
    onMapper fun m => { m with items := m.items.insert key item }
    if item.isObject then do
      onMapper fun m =>
        { m with items := m.items.insert key (item.insert "changes" (.array changes)) }
      pure .validatedUnmapped
    else fail (.protocol "cached item must be an object")
  | _ => fail (.protocol "changes must be an array")

/-- `already_disconnected` of the two notifications that end a connection. -/
def disconnectThread (threadId : String) : Mapping B MappingDisposition := do
  let mapping ← reads fun s => s.mapper.threads[threadId]?
  if mapping.any fun mapping => mapping.connection = .disconnected then pure .validatedUnmapped
  else do
    let now ← nowUtc host
    publishPayload host threadId now (.connectionChanged .disconnected)
    pure .mapped

def statusChanged (threadId : String) (statusValue : Value) : Mapping B MappingDisposition := do
  let statusType ← ofExcept (stringField statusValue "type")
  if statusType = "notLoaded" then disconnectThread host threadId
  else do
    let loaded ← ofExcept (mapLoadedState statusValue)
    let waiting ← reads fun s => s.mapper.hasPlan threadId
    let state := if loaded = .idle ∧ waiting then AgentState.waitingForInteraction else loaded
    let mapping ← trackedThread threadId
    when (mapping.connection ≠ .connected) do
      let now ← nowUtc host
      publishPayload host threadId now (.connectionChanged .connected)
    when (mapping.state ≠ state) do
      let now ← nowUtc host
      publishPayload host threadId now (.stateChanged state)
    pure (if mapping.connection ≠ .connected ∨ mapping.state ≠ state then .mapped
      else .validatedUnmapped)

def turnStarted (threadId : String) (params : Value) : Mapping B MappingDisposition := do
  let turn ← ofExcept (objectField params "turn")
  let turnId ← ofExcept (stringField turn "id")
  let current ← reads fun s => s.mapper.threads[threadId]?.bind ThreadMapping.activeTurnId
  when (current ≠ some turnId) (closeLocalChoices host threadId)
  let startedAt ← ofExcept (optionalI64Field turn "startedAt")
  let timestamp ← timestampSeconds host startedAt
  let mapping ← trackedThread threadId
  if mapping.activeTurnId = some turnId then pure .validatedUnmapped
  else
    match mapping.activeTurnId with
    | some activeTurn =>
      fail (.protocol s!"turn {turnId} started while {activeTurn} is still active")
    | none => do
      onMapper fun m => m.updateThread threadId fun mapping =>
        { mapping with
          activeTurnId := some turnId
          lastMessage := none
          lastFinalMessage := none
          proposedPlan := none
          planReady := false }
      when (mapping.state ≠ .running)
        (publishPayload host threadId timestamp (.stateChanged .running))
      pure (if mapping.state ≠ .running then .mapped else .validatedUnmapped)

/-- The message part of a completed item: it is remembered before its instant
is read, and then published. -/
def messageCompleted (threadId : String) (params item : Value) (itemType text : String) :
    Mapping B MappingDisposition := do
  let content ← ofExcept (domain (NonEmptyText.new text))
  let final := (item.get "phase").bind Json.asStr = some "final_answer"
  let _ ← trackedThread threadId
  onMapper fun m => m.updateThread threadId fun mapping =>
    { mapping with
      lastMessage := some content
      proposedPlan := if itemType = "plan" then some text else mapping.proposedPlan
      lastFinalMessage := if final then some content else mapping.lastFinalMessage }
  let completedAt ← ofExcept (i64Field params "completedAtMs")
  let timestamp ← timestampMilliseconds host (some completedAt)
  publishPayload host threadId timestamp (.message ⟨.assistant, .info, content⟩)
  pure .mapped

def itemCompleted (threadId : String) (params : Value) : Mapping B MappingDisposition := do
  let turnId ← ofExcept (stringField params "turnId")
  ensureActiveTurn threadId turnId
  let item ← ofExcept (objectField params "item")
  let itemId ← ofExcept (stringField item "id")
  onMapper fun m => { m with items := m.items.erase ⟨threadId, turnId, itemId⟩ }
  let itemType ← ofExcept (stringField item "type")
  if itemType ≠ "agentMessage" ∧ itemType ≠ "plan" then pure .validatedUnmapped
  else do
    let text ← ofExcept (stringField item "text")
    if isBlank text then pure .validatedUnmapped
    else messageCompleted host threadId params item itemType text

/-- The outcome that a finished turn's status stands for. -/
def turnOutcome (turn : Value) (turnStatus : String) (summary : Option NonEmptyText) :
    Sourced SessionOutcome :=
  if turnStatus = "completed" then .ok (.completed summary)
  else if turnStatus = "interrupted" then .ok (.cancelled none)
  else if turnStatus = "failed" then do
    let message := ((turn.get "error").bind fun error => error.get "message").bind Json.asStr
    let shown := (message.filter fun text => !isBlank text).getD "Codex turn failed"
    let error ← domain (NonEmptyText.new shown)
    .ok (.failed error)
  else if turnStatus = "inProgress" then protocolError "turn/completed carried inProgress status"
  else protocolError s!"unsupported turn status {turnStatus}"

def turnCompleted (threadId : String) (params : Value) : Mapping B MappingDisposition := do
  let turn ← ofExcept (objectField params "turn")
  let turnId ← ofExcept (stringField turn "id")
  ensureActiveTurn threadId turnId
  let turnStatus ← ofExcept (stringField turn "status")
  let completedAt ← ofExcept (optionalI64Field turn "completedAt")
  let timestamp ← timestampSeconds host completedAt
  let mapping ← trackedThread threadId
  let outcome ← ofExcept
    (turnOutcome turn turnStatus (mapping.lastFinalMessage.or mapping.lastMessage))
  let proposed := turnStatus = "completed" ∧ mapping.proposedPlan.isSome
  onMapper fun m => m.updateThread threadId fun mapping =>
    { mapping with planReady := decide proposed }
  publishPayload host threadId timestamp
    (if proposed then .stateChanged .waitingForInteraction else .sessionEnded outcome)
  onMapper fun m => m.updateThread threadId fun mapping => { mapping with activeTurnId := none }
  onMapper fun m =>
    { m with items := m.items.filter fun key _ =>
        key.threadId ≠ threadId ∨ key.turnId ≠ turnId }
  pure .mapped

/-- A thread announced by another client of the server. -/
def threadStarted (params : Value) : Mapping B MappingDisposition := do
  let thread ← ofExcept (objectField params "thread")
  let threadId ← ofExcept (stringField thread "id")
  let known ← reads fun s => s.mapper.configured.contains threadId
  if (thread.get "ephemeral").bind Json.asBool = some true ∧ !known then pure .validatedUnmapped
  else do
    when (!known) do
      let sessionId ← ofExcept (domain (Ident.fromStr .session threadId))
      onMapper fun m =>
        { m with
          configured := m.configured.insert threadId sessionId
          observerResumes := m.observerResumes.insert threadId }
    resumeThread host params
    pure .mapped

/-- The thread a notification is about. -/
def notificationThread (params : Value) : Option String :=
  ((params.get "threadId").bind Json.asStr).or (nestedId params "thread")

/-- The turn a notification is about. -/
def notificationTurn (params : Value) : Option String :=
  ((params.get "turnId").bind Json.asStr).or (nestedId params "turn")

def completedKey (threadId turnId : String) : String := s!"turn/completed:{threadId}:{turnId}"

/-- The match over the method of a notification for a tracked thread. -/
def dispatch (method threadId : String) (params : Value) : Mapping B MappingDisposition :=
  if method = "thread/settings/updated" then threadSettingsUpdated threadId params
  else if method = "thread/status/changed" then do
    let statusValue ← ofExcept (objectField params "status")
    statusChanged host threadId statusValue
  else if method = "thread/closed" then disconnectThread host threadId
  else if method = "turn/started" then turnStarted host threadId params
  else if method = "item/started" then itemStarted threadId params
  else if method = "item/fileChange/patchUpdated" then fileChangePatchUpdated threadId params
  else if method = "item/completed" then itemCompleted host threadId params
  else if method = "turn/completed" then turnCompleted host threadId params
  else pure .validatedUnmapped

/-- A notification for a tracked thread, past the deduplication by completed
turns: duplicates by key are dropped, and a mapped one leaves its key. -/
def notifyTracked (method threadId : String) (params : Value) : Mapping B MappingDisposition := do
  let key ← ofExcept (notificationKey method params threadId)
  let seen ← reads fun s => key.any fun key => s.mapper.recentKeys.contains key
  if seen then pure .validatedUnmapped
  else do
    let disposition ← dispatch host method threadId params
    match key with
    | some key =>
      when (disposition = .mapped) (onMapper fun m => m.rememberKey key)
      pure disposition
    | none => pure disposition

/-- A notification other than the discovery of a thread. A late notification of
a completed turn is dropped before anything else is read from it. -/
def notifyThread (method : String) (params : Value) : Mapping B MappingDisposition :=
  match notificationThread params with
  | none => pure .validatedUnmapped
  | some threadId => do
    let known ← reads fun s =>
      s.mapper.configured.contains threadId && s.mapper.threads.contains threadId
    if !known then pure .validatedUnmapped
    else do
      when (method = "thread/status/changed") (onMapper fun m => m.retryObserverResume threadId)
      let late ← reads fun s => (notificationTurn params).any fun turnId =>
        s.mapper.recentKeys.contains (completedKey threadId turnId)
      if late then pure .validatedUnmapped
      else notifyTracked host method threadId params

def notification (method : String) (params : Value) : Mapping B MappingDisposition := do
  let discovers ← reads fun s => s.mapper.discoverThreads
  if method = "thread/started" ∧ discovers then threadStarted host params
  else notifyThread host method params

/-- `local::dismiss_plan`, which holds the mapper throughout. -/
def dismissPlan (threadId : String) : Mapping B Unit := do
  let waiting ← reads fun s => s.mapper.hasPlan threadId
  onMapper fun m => m.dismissPlan threadId
  let ids ← reads fun s => localChoicesOf s.mapper threadId id
  forEach (closeLocalChoice host) ids
  when waiting do
    let now ← nowUtc host
    publishPayload host threadId now (.stateChanged .idle)

/-- The check and the publication of an answered choice under one lock; `false`
when a lifecycle event has closed the choice before. -/
def respondLocalChoice (threadId : String) (response : InteractionResponse) :
    Mapping B Bool := do
  let live ← reads fun s => s.mapper.localChoices.contains response.requestId
  if !live then pure false
  else do
    let now ← nowUtc host
    publishPayload host threadId now (.interactionResponded response)
    onMapper fun m => { m with localChoices := m.localChoices.erase response.requestId }
    pure true

end Mapping

/-- One section of a thread that holds the mapper. -/
inductive MapperOp where
  | notification (method : String) (params : Value)
  | resumeThread (result : Value)
  | approvalContext (threadId turnId itemId : String)
  | beginReconnect
  | disconnectAll
  | publishPayload (threadId : String) (occurredAt : Timestamp) (payload : AgentEventPayload)
  | publishHistoryItems (threadId : String) (entries : List Value)
  | trackDiscoveredThread (threadId : String)
  | startThread (threadId : String) (result : Value)
  | publishLocalChoice (threadId : String) (request : InteractionRequest) (plan : Bool)
  | closeLocalChoice (id : InteractionId)
  | respondLocalChoice (threadId : String) (response : InteractionResponse)
  | dismissLocalPlan (threadId : String)
  | dismissPlan (threadId : String)
  | deferObserverResume (threadId : String)
  | retryObserverResume (threadId : String)
  | takeObserverResumes

variable {B : Type} (host : ProviderHost B)

/-- `StartThread` and `ForkThread` responses track and resume under one lock. -/
def Mapping.startThread (threadId : String) (result : Value) : Mapping B Unit := do
  trackDiscoveredThread threadId
  resumeThread host result

def MapperOp.run : MapperOp → Mapping B Unit
  | .notification method params => do
    let _ ← Mapping.notification host method params
  | .resumeThread result => Mapping.resumeThread host result
  | .approvalContext threadId turnId itemId => do
    let _ ← Mapping.approvalContext threadId turnId itemId
  | .beginReconnect => Mapping.beginReconnect host
  | .disconnectAll => Mapping.disconnectAll host
  | .publishPayload threadId occurredAt payload =>
    Mapping.publishPayload host threadId occurredAt payload
  | .publishHistoryItems threadId entries => Mapping.publishHistoryItems host threadId entries
  | .trackDiscoveredThread threadId => Mapping.trackDiscoveredThread threadId
  | .startThread threadId result => Mapping.startThread host threadId result
  | .publishLocalChoice threadId request plan =>
    Mapping.publishLocalChoice host threadId request plan
  | .closeLocalChoice id => Mapping.closeLocalChoice host id
  | .respondLocalChoice threadId response => do
    let _ ← Mapping.respondLocalChoice host threadId response
  | .dismissLocalPlan threadId => Mapping.dismissPlan host threadId
  | .dismissPlan threadId => Mapping.onMapper fun m => m.dismissPlan threadId
  | .deferObserverResume threadId => Mapping.onMapper fun m => m.deferObserverResume threadId
  | .retryObserverResume threadId => Mapping.onMapper fun m => m.retryObserverResume threadId
  | .takeObserverResumes => Mapping.onMapper fun m => m.takeObserverResumes.2

def MapperState.step (self : MapperState B) (op : MapperOp) :
    MapperState B × Except CodexProviderSourceError Unit :=
  ((op.run host self).2, (op.run host self).1)

end Codex

end AgentPulse
