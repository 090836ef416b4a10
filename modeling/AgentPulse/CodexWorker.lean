import AgentPulse.CodexFlush

/-!
# The observer worker: answers, frames and the loop

An incoming frame answers a request of the worker, asks the user something, or
reports what the server did. The worker reads frames between flushes until it
is told to stop or something fails; a proxied connection runs the same frames
past the shared state on its own thread.
-/
namespace AgentPulse

namespace Codex

open Std (ExtTreeMap)
open Program (fail ofExcept reads modify update forEach when)
open Serde (Json)

def textOr (value : Value) (field fallback : String) : String :=
  ((value.get field).bind Json.asStr).getD fallback

def modelLine (value : Value) : String :=
  let id := textOr value "id" "?"
  let name := textOr value "displayName" id
  let efforts := supportedReasoningEfforts value
  if efforts.isEmpty then s!"{id} — {name}"
  else s!"{id} — {name} — efforts: " ++ ", ".intercalate efforts

def profileLine (value : Value) : String :=
  textOr value "id" "?" ++ " — " ++ textOr value "description" ""

/-- The name, when the entry is there at all, else the preview. -/
def threadLine (value : Value) : String :=
  let title := (((value.get "name").or (value.get "preview")).bind Json.asStr).getD "Untitled"
  textOr value "id" "?" ++ " — " ++ title ++ " — " ++ textOr value "cwd" "?"

/-- The entries of the current directory first, otherwise in order. -/
def currentFirst (currentCwd : Option String) (data : List Value) : List Value :=
  let here := fun value : Value => (value.get "cwd").bind Json.asStr = currentCwd
  data.filter (fun value => decide (here value)) ++ data.filter fun value => !decide (here value)

def formatCatalog (expected : ExpectedResponse) (result : Value) (currentCwd : Option String) :
    Sourced String :=
  match (result.get "data").bind Json.asArray with
  | none => protocolError "catalog response omitted data"
  | some data =>
    match expected with
    | .modelList =>
      .ok ("\n".intercalate ("Available models (/model <id> [effort]):" ::
        (currentFirst currentCwd data).map modelLine))
    | .permissionProfileList =>
      .ok ("\n".intercalate ("Permission profiles (/permissions <id>):" :: data.map profileLine))
    | .threadList =>
      let more := match (result.get "nextCursor").bind Json.asStr with
        | some cursor => [s!"More: /resume --cursor {cursor}"]
        | none => []
      .ok ("\n".intercalate
        ("Threads, newest first (/resume <id>):" :: data.map threadLine ++ more))
    | _ => protocolError "non-catalog response used as a catalog"

/-- The message of a selection that the catalog does not allow. -/
def validateModelSelection (result : Value) (requestedModel : String)
    (requestedEffort : Option String) : Except String Unit :=
  match (result.get "data").bind Json.asArray with
  | none => .error "Codex model catalog omitted data"
  | some models =>
    match models.find? fun value => (value.get "id").bind Json.asStr = some requestedModel with
    | none =>
      .error ("unknown model \x60" ++ requestedModel ++ "\x60; run /model to list valid IDs")
    | some model =>
      match requestedEffort with
      | none => .ok ()
      | some effort =>
        let supported := supportedReasoningEfforts model
        if supported.contains effort then .ok ()
        else .error ("effort \x60" ++ effort ++ "\x60 is not supported by \x60" ++ requestedModel ++
          "\x60; valid efforts: " ++
          (if supported.isEmpty then "none advertised" else ", ".intercalate supported))

/-- The defaults after a valid selection. -/
def selectedDefaults (result : Value) (model : String) (effort : Option String)
    (defaults : TurnDefaults) : TurnDefaults :=
  let entry := ((result.index "data").asArray.getD []).find? fun entry =>
    (entry.index "id").asStr = some model
  { defaults with
    model := some ((entry.bind fun entry => (entry.index "model").asStr).getD model)
    effort := effort.or (entry.bind fun entry => (entry.index "defaultReasoningEffort").asStr) }

def responseThread (result : Value) (message : String) : Sourced String :=
  match nestedId result "thread" with
  | some threadId => .ok threadId
  | none => protocolError message

namespace Work

variable {B : Type} (host : ProviderHost B) (schema : ProtocolSchema) (route : ApprovalRoute)

/-- The outcome of one catalog page: a message to the session, a request for the
next page, or the whole catalog. -/
inductive Page where
  | report (text : String)
  | next (cursor : String) (models : List Value) (cursors : List String)
  | whole (models : List Value)

def catalogPage (result : Value) (models : List Value) (cursors : List String) : Page :=
  let models := models ++ ((result.get "data").bind Json.asArray).getD []
  if models.length > 1000 then .report "模型目录超过上限，请重试 /model"
  else
    match (result.get "nextCursor").bind Json.asStr with
    | some cursor =>
      if cursors.length ≥ 20 ∨ cursor ∈ cursors then .report "模型目录分页异常，请重试 /model"
      else .next cursor models (cursors ++ [cursor])
    | none => .whole models

def nextPage (cursor : String) (kind : PendingControl) : Work B Unit :=
  sendControlRequest schema .modelList
    (.object [("limit", .int 50), ("cursor", .string cursor)]) kind

/-- A page of a catalog request; `kind` is what the next page is for. -/
def readPage (session : SessionId) (result : Value) (models : List Value) (cursors : List String)
    (kind : List Value → List String → PendingControl) (whole : Value → Work B Unit) :
    Work B Unit :=
  match catalogPage result models cursors with
  | .report text => report host route session text
  | .next cursor models cursors => nextPage schema cursor (kind models cursors)
  | .whole models => whole (.object [("data", .array models)])

def modelSelected (session : SessionId) (model : String) (effort : Option String)
    (result : Value) : Work B Unit := do
  let context ← commandContext host route session
  match validateModelSelection result model effort with
  | .ok () => do
    editControls host route fun controls =>
      controls.updateDefaults session (selectedDefaults result model effort)
    publishSystemForSession host route context
      ("Model set to " ++ model ++ ((effort.map fun value => " (" ++ value ++ ")").getD ""))
  | .error message =>
    publishSystemForSession host route context s!"Model selection rejected: {message}"

def threadResumed (result : Value) : Work B Unit := do
  let threadId ← ofSourced (responseThread result "thread/resume omitted thread.id")
  let tracked ← readMapper host route fun m => m.isThreadTracked threadId
  onMapping host route (Mapping.resumeThread host result)
  if tracked then pure ()
  else
    match ← readMapper host route fun m => m.sessionIdForThread threadId with
    | none => fail (.source (.protocol "resumed thread was not tracked"))
    | some session =>
      sendControlRequest schema .threadItemsList
        (.object [("threadId", .string threadId), ("limit", .int 100),
          ("sortDirection", .string "asc")]) (.historyItems session threadId)

/-- The prompt of an accepted turn leaves the queue, if it still is the front one. -/
def popAccepted (session : SessionId) (prompt : QueuedPrompt) : Work B (Option QueuedPrompt) :=
  locked host route (update fun w =>
    let (removed, controls) := w.controls.popPrompt session
    (removed, { w with controls := controls }.record (.completed session prompt removed)))

def turnAccepted (session : SessionId) (threadId : String) (prompt : QueuedPrompt) :
    Work B Unit := do
  onMapper host route fun m => m.retryObserverResume threadId
  let removed ← popAccepted host route session prompt
  if removed.map QueuedPrompt.text ≠ some prompt.text then
    fail (.source (.protocol "queued prompt changed before turn/start completed"))
  else publishUserMessage host route threadId prompt.text.asStr

def planAccepted (session : SessionId) (threadId : String) : Work B Unit := do
  note (.implemented session)
  editControls host route fun controls =>
    controls.updateDefaults session fun defaults => { defaults with planMode := false }
  onMapper host route fun m => m.dismissPlan threadId
  publishUserMessage host route threadId "Implement the plan."

def historyPage (session : SessionId) (threadId : String) (result : Value) : Work B Unit :=
  match (result.get "data").bind Json.asArray with
  | none => fail (.source (.protocol "thread/items/list omitted data"))
  | some data => do
    onMapping host route (Mapping.publishHistoryItems host threadId data)
    match (result.get "nextCursor").bind Json.asStr with
    | none => pure ()
    | some cursor =>
      sendControlRequest schema .threadItemsList
        (.object [("threadId", .string threadId), ("cursor", .string cursor),
          ("limit", .int 100), ("sortDirection", .string "asc")]) (.historyItems session threadId)

/-- The request that an answer settles. -/
def takePending (id : RequestId) (message : String) : Work B PendingControl := do
  match ← alone (update fun w => (w.pending[id]?, { w with pending := w.pending.erase id })) with
  | some kind => pure kind
  | none => fail (.source (.protocol message))

def controlResponse (expected : ExpectedResponse) (result : Value) :
    PendingControl → Work B Unit
  | .models session models cursors =>
    readPage host schema route session result models cursors (.models session)
      (showModels host route session)
  | .selectModel session model effort models cursors =>
    readPage host schema route session result models cursors (.selectModel session model effort)
      (modelSelected host route session model effort)
  | .implementPlan session threadId => planAccepted host route session threadId
  | .report session => do
    let currentCwd ← readMapper host route fun m => m.cwdForSession session
    let text ← ofSourced (formatCatalog expected result currentCwd)
    report host route session text
  | .observeThread _ _ => onMapping host route (Mapping.resumeThread host result)
  | .resumeThread _ => threadResumed host schema route result
  | .startThread | .forkThread => do
    let threadId ← ofSourced (responseThread result "thread response omitted thread.id")
    onMapping host route (Mapping.startThread host threadId result)
  | .turnStart session threadId prompt => turnAccepted host route session threadId prompt
  | .silent _ => pure ()
  | .historyItems session threadId => historyPage host schema route session threadId result

def processControlResponse (id : RequestId) (expected : ExpectedResponse) (result : Value) :
    Work B Unit := do
  let kind ← takePending id s!"unexpected live {expected.method} response"
  controlResponse host schema route expected result kind

/-- A turn that was not started pauses the prompts of its session. -/
def turnRejected (session : SessionId) (prompt : QueuedPrompt) : Work B Unit :=
  locked host route (modify fun w =>
    { w with controls := (w.controls.clearTurnInflight session).pausePrompts session }.record
      (.rejected session prompt))

/-- A plan that was not started can be offered again. -/
def planRejected (session : SessionId) : Work B Unit := do
  note (.implemented session)
  editControls host route fun controls => controls.clearTurnInflight session

/-- A subscription that cannot be made now is retried later or given up. -/
def observerRejected (session : SessionId) (threadId : String) (code : Int) (message : String) :
    Work B Unit :=
  if code = -32600 ∧ message = s!"no rollout found for thread id {threadId}" then
    onMapper host route fun m => m.deferObserverResume threadId
  else if code = -32601 ∧ message = "list_turns is not supported yet" then pure ()
  else do
    report host route session ("Could not subscribe to Codex thread (" ++ toString code ++ "): " ++
      message ++ "; resume the thread to retry.")
    onMapping host route (do
      let now ← Mapping.nowUtc host
      Mapping.publishPayload host threadId now (.connectionChanged .disconnected))

def controlError (expected : ExpectedResponse) (code : Int) (message : String) :
    PendingControl → Work B Unit
  | .observeThread session threadId => observerRejected host route session threadId code message
  | .implementPlan session _ => do
    planRejected host route session
    report host route session
      ("实施计划启动失败 (" ++ toString code ++ "): " ++ message ++ "；请重试或继续修改。")
  | .report session | .models session _ _ | .selectModel session _ _ _ _ | .silent session
  | .historyItems session _ | .resumeThread session =>
    report host route session (expected.method ++ " failed (" ++ toString code ++ "): " ++ message)
  | .turnStart session _ prompt => do
    turnRejected host route session prompt
    report host route session (expected.method ++ " failed (" ++ toString code ++ "): " ++ message)
  | .startThread | .forkThread => pure ()

def processControlError (id : RequestId) (expected : ExpectedResponse) (code : Int)
    (message : String) : Work B Unit := do
  let kind ← takePending id s!"unexpected live {expected.method} error response"
  controlError host route expected code message kind

def isInteractionMethod (method : String) : Bool :=
  method == "item/commandExecution/requestApproval" ||
    method == "item/fileChange/requestApproval" || method == "item/tool/requestUserInput"

def publishClosed (closed : ClosedApproval) (reason : InteractionCloseReason) : Work B Unit := do
  note (.closing closed.interactionId)
  onMapping host route (do
    let now ← Mapping.nowUtc host
    Mapping.publishPayload host closed.threadId now
      (.interactionClosed ⟨closed.interactionId, closed.sessionId, reason⟩))

/-- Registration, publication and, when that fails, removal are separate sections. -/
def publishPrepared (requestId : RequestId) (method : String) (prepared : PreparedApproval) :
    Work B Unit := do
  onApprovals host route fun approvals => approvals.register route requestId method prepared
  match ← Program.attempt (onMapping host route (Mapping.publishPayload host prepared.threadId
    prepared.request.requestedAt (.interactionRequested prepared.request))) with
  | .ok () => pure ()
  | .error error =>
    onApprovals host route fun approvals => (.ok (), approvals.remove prepared.request.id)
    fail error

/-- A proxied request is answered by its own client when it is not presented. -/
def processApprovalRequest (answers : Bool) (requestId : RequestId) (method : String)
    (params : Value) : Work B Unit := do
  let threadId ← ofSourced (stringField params "threadId")
  let turnId ← ofSourced (stringField params "turnId")
  let itemId ← ofSourced (stringField params "itemId")
  match ← onMapping host route (Mapping.approvalContext threadId turnId itemId) with
  | none =>
    when answers do
      let frame ← ofSourced (ProtocolEngine.unsupportedRequestResponse schema requestId method)
      writeText frame
  | some (session, item) =>
    let prepared ← onHost host route
      (if method = "item/tool/requestUserInput" then Hosting.prepareUserInput host params session
      else Hosting.prepareApproval host method params item session)
    publishPrepared host route requestId method prepared

def popOutbound : Work B (Option OutboundApproval) :=
  locked host route (update fun w =>
    let (outbound, approvals) := w.approvals.popOutboundFor route
    match outbound with
    | none => (none, w)
    | some outbound =>
      (some outbound, { w with approvals := approvals }.record (.popped outbound.interactionId)))

/-- One queued answer: taken, written and marked in separate sections. -/
def sendOutbound (outbound : OutboundApproval) : Work B Unit := do
  let frame ← ofSourced (ProtocolEngine.interactionResponse schema outbound.requestId
    outbound.method outbound.result)
  writeText frame
  onApprovals host route fun approvals => approvals.markSent outbound.interactionId
  note (.marked outbound.interactionId)

def flushApprovalResponses : Nat → Work B Unit
  | 0 => fail .unfinished
  | fuel + 1 => do
    match ← popOutbound host route with
    | none => pure ()
    | some outbound =>
      sendOutbound host schema route outbound
      flushApprovalResponses fuel

/-- Form answers are not republished: they may hold secrets. -/
def publishResolved : ResolvedApproval → Work B Unit
  | .responded threadId response =>
    onMapping host route
      (Mapping.publishPayload host threadId response.respondedAt (.interactionResponded response))
  | .closed threadId sessionId interactionId | .respondedForm threadId sessionId interactionId =>
    publishClosed host route ⟨threadId, sessionId, interactionId⟩ .resolvedElsewhere

def resolvedRequest (params : Value) : Sourced RequestId :=
  match params.get "requestId" with
  | some value => RequestId.fromValue value
  | none => protocolError "requestId is required"

def processResolvedNotification (params : Value) : Work B Unit := do
  let threadId ← ofSourced (stringField params "threadId")
  let requestId ← ofSourced (resolvedRequest params)
  match ← onApprovals host route fun approvals => approvals.resolve route requestId threadId with
  | none => pure ()
  | some resolved => publishResolved host route resolved

def nestedField (params : Value) (field : String) : Sourced String :=
  match nestedId params field with
  | some id => .ok id
  | none => protocolError s!"{field}.id must be a string"

/-- The interactions that a lifecycle notification ends. -/
def lifecycleClosed (method : String) (params : Value) : Work B (List ClosedApproval) :=
  if method = "item/completed" then do
    let threadId ← ofSourced (stringField params "threadId")
    let turnId ← ofSourced (stringField params "turnId")
    let itemId ← ofSourced (nestedField params "item")
    onApprovals host route fun approvals =>
      (.ok (approvals.closeItem threadId turnId itemId).1,
        (approvals.closeItem threadId turnId itemId).2)
  else if method = "turn/completed" then do
    let threadId ← ofSourced (stringField params "threadId")
    let turnId ← ofSourced (nestedField params "turn")
    onApprovals host route fun approvals =>
      (.ok (approvals.closeTurn threadId turnId).1, (approvals.closeTurn threadId turnId).2)
  else if method = "thread/closed" ∨ method = "thread/status/changed" ∧
      ((params.get "status").bind fun status => status.get "type").bind Json.asStr =
        some "notLoaded" then do
    let threadId ← ofSourced (stringField params "threadId")
    onApprovals host route fun approvals =>
      (.ok (approvals.closeThread threadId).1, (approvals.closeThread threadId).2)
  else pure []

def closeApprovalsForLifecycle (method : String) (params : Value) : Work B Unit := do
  let closed ← lifecycleClosed host route method params
  forEach (fun entry => publishClosed host route entry .providerCancelled) closed

/-- A failed publication does not keep the others back. -/
def publishAllClosed (closed : List ClosedApproval) : Work B Unit :=
  forEach (fun entry => do
    let _ ← Program.attempt (publishClosed host route entry .providerCancelled)) closed

def closeAllApprovals : Work B Unit := do
  let closed ← onApprovals host route fun approvals => (.ok approvals.closeAll.1, approvals.closeAll.2)
  publishAllClosed host route closed

def processNotification (method : String) (params : Value) : Work B Unit :=
  if method = "serverRequest/resolved" then processResolvedNotification host route params
  else do
    closeApprovalsForLifecycle host route method params
    let _ ← onMapping host route (Mapping.notification host method params)

def processLiveFrame (text : ParsedText) : Work B Unit := do
  match ← onProtocol (ProtocolEngine.parseServerText schema text) with
  | .notification method params => processNotification host route method params
  | .request id method params =>
    if isInteractionMethod method then
      processApprovalRequest host schema route true id method params
    else do
      let frame ← ofSourced (ProtocolEngine.unsupportedRequestResponse schema id method)
      writeText frame
  | .response id expected result => processControlResponse host schema route id expected result
  | .error id expected code message =>
    processControlError host route id expected code message

/-- What a read of the socket brings. -/
inductive ReadOutcome where
  | timeout
  | closed
  | text (text : ParsedText)
  | failed (message : String)

/-- What the surroundings decide in one round: whether a stop was requested before
it, what the read brings, and whether a stop was requested when that failed. -/
structure Round where
  stop : Bool
  read : ReadOutcome
  stopOnFailure : Bool

/-- The way out of the loop. -/
inductive WorkerExit where
  | stopped
  | approvalsFailed (error : CodexProviderSourceError)
  | controlsFailed (error : CodexProviderSourceError)
  | readFailed (error : CodexProviderSourceError)
  deriving DecidableEq, Repr

def readFrame : ReadOutcome → Work B Unit
  | .timeout => pure ()
  | .closed => fail (.source (.transport "App Server closed the WebSocket"))
  | .text text => processLiveFrame host schema route text
  | .failed message => fail (.source (.transport message))

/-- The outcome of a fallible call that does not end the program by itself. -/
def outcome (x : Work B Unit) : Work B (Option CodexProviderSourceError) := do
  match ← Program.attempt x with
  | .ok () => pure none
  | .error (.source error) => pure (some error)
  | .error .unfinished => fail .unfinished

/-- One round of the loop, and the exit if it ends there. -/
def workerRound (fuel : Nat) (round : Round) : Work B (Option WorkerExit) := do
  if round.stop then pure (some .stopped)
  else
    match ← outcome (flushApprovalResponses host schema route fuel) with
    | some error => pure (some (.approvalsFailed error))
    | none =>
      match ← outcome (flushControlCommands host schema route fuel) with
      | some error => pure (some (.controlsFailed error))
      | none =>
        match ← outcome (readFrame host schema route round.read) with
        | none => pure none
        | some error =>
          pure (some (if round.stopOnFailure then .stopped else .readFailed error))

def workerLoop (fuel : Nat) : List Round → Work B WorkerExit
  | [] => fail .unfinished
  | round :: rest => do
    match ← workerRound host schema route fuel round with
    | some exit => pure exit
    | none => workerLoop fuel rest

def disconnectAll : Work B Unit := onMapping host route (Mapping.disconnectAll host)

/-- What each exit does before the worker returns. -/
def leave : WorkerExit → Work B Unit
  | .stopped => closeAllApprovals host route
  | .approvalsFailed _ | .readFailed _ => do
    closeAllApprovals host route
    disconnectAll host route
  | .controlsFailed _ => disconnectAll host route

def runWorker (fuel : Nat) (rounds : List Round) : Work B WorkerExit := do
  editControls host route ControlRuntimeState.clearAllInflight
  alone (modify fun w => { w with pending := ∅ })
  let exit ← workerLoop host schema route fuel rounds
  leave host route exit
  pure exit

/-- A frame that the proxy forwards is mirrored as far as that succeeds. -/
def observeProxyServerText (text : ParsedText) : Work B Unit := do
  match ← ofSourced (ProtocolEngine.parseObservedServerText schema text) with
  | .notification method params => processNotification host route method params
  | .request id method params =>
    when (isInteractionMethod method) (processApprovalRequest host schema route false id method params)
  | .passThrough => pure ()

end Work

end Codex

end AgentPulse
