import AgentPulse.CodexRuntime

/-!
# Flushing control commands

Before each read the worker samples the turns in flight, answers the choices it
offered itself, carries out the queued commands and starts at most one queued
prompt per session. A failed step ends the flush where it stands.
-/
namespace AgentPulse

def AgentState.debugName : AgentState → String
  | .initializing => "Initializing"
  | .idle => "Idle"
  | .running => "Running"
  | .waitingForInteraction => "WaitingForInteraction"
  | .completed => "Completed"
  | .failed => "Failed"
  | .cancelled => "Cancelled"

namespace Codex

open Std (ExtTreeMap ExtTreeSet)
open Program (fail ofExcept reads modify update forEach when)
open Serde (Json)

def maxLocalChoices : Nat := 64

def supportedReasoningEfforts (model : Value) : List String :=
  (((model.get "supportedReasoningEfforts").bind Json.asArray).getD []).filterMap fun option =>
    (option.get "reasoningEffort").bind Json.asStr

namespace Work

variable {B : Type} (host : ProviderHost B) (schema : ProtocolSchema) (route : ApprovalRoute)

/-- The choices of the same session and kind that a new one replaces. -/
def replacedChoices (controls : ControlRuntimeState) (choice : LocalChoice) : List InteractionId :=
  (controls.localInteractions.pending.toList.filter fun (_, old) =>
    old.request.sessionId == choice.request.sessionId && old.plan == choice.plan).map Prod.fst

def removeChoice (id : InteractionId) (controls : ControlRuntimeState) : ControlRuntimeState :=
  controls.updateLocal fun interactions =>
    { interactions with pending := interactions.pending.erase id }

def insertChoice (choice : LocalChoice) (controls : ControlRuntimeState) : ControlRuntimeState :=
  controls.updateLocal fun interactions =>
    { interactions with pending := interactions.pending.insert choice.request.id choice }

/-- `local::show`: the choice is registered before it is published. -/
def showChoice (choice : LocalChoice) : Work B Unit := do
  let old ← readControls host route fun controls => replacedChoices controls choice
  forEach (fun id => do
    onMapping host route (Mapping.closeLocalChoice host id)
    editControls host route (removeChoice id)) old
  let shown ← readControls host route fun controls => controls.localInteractions.pending.size
  if shown ≥ maxLocalChoices then
    report host route choice.request.sessionId "待处理选择过多，请先完成或取消已有选择。"
  else do
    editControls host route (insertChoice choice)
    match ← Program.attempt
      (onMapping host route (Mapping.publishLocalChoice host choice.threadId choice.request choice.plan)) with
    | .ok () => pure ()
    | .error error =>
      editControls host route (removeChoice choice.request.id)
      fail error

def modelOption (current : Option String) (model : Value) :
    Option (String × Option String × LocalAction) :=
  (model.index "id").asStr.map fun id =>
    let name := (model.index "displayName").asStr.getD id
    let selected := current.any fun value =>
      value == id || some value == (model.index "model").asStr
    (name ++ (if selected then "（当前）" else ""), (model.index "description").asStr, .model model)

def modelOptions (catalog : Value) (current : Option String) :
    List (String × Option String × LocalAction) :=
  (((catalog.index "data").asArray.getD []).filter fun model =>
    (model.index "hidden").asBool ≠ some true).filterMap (modelOption current)

/-- The chosen model, or else the one the thread reports. -/
def currentModel (session : SessionId) (explicit : Option String) : Work B (Option String) :=
  match explicit with
  | some model => pure (some model)
  | none => readMapper host route fun m => (m.modelSettingsForSession session).map Prod.fst

def showModels (session : SessionId) (catalog : Value) : Work B Unit := do
  match ← commandContext host route session with
  | none => pure ()
  | some (thread, _, _) =>
    let explicit ← readControls host route fun controls => (controls.defaults session).model
    let current ← currentModel host route session explicit
    let options := modelOptions catalog current
    if options.isEmpty then report host route session "暂无可用模型，请稍后重试 /model"
    else do
      let choice ← onHost host route (Hosting.localChoice host session thread "选择模型"
        "第 1 步：选择模型，下一步选择推理强度。" false (options ++ [("取消", none, .cancel)]))
      showChoice host route choice

/-- A revised plan goes back to Plan mode; the forms that offered it are closed. -/
def reviseSession (live : List (InteractionId × String × Bool)) (session : SessionId) :
    Work B Unit := do
  match ← commandContext host route session with
  | none => pure ()
  | some (thread, _, _) =>
    let waiting ← readMapper host route fun m => m.hasPlan thread
    when waiting do
      editControls host route fun controls =>
        controls.updateDefaults session fun defaults => { defaults with planMode := true }
      onMapper host route fun m => m.dismissPlan thread
      forEach (fun entry => when (entry.2.1 = thread ∧ entry.2.2)
        (onMapping host route (Mapping.closeLocalChoice host entry.1))) live

/-- The request and the mark of a plan that is implemented. -/
def startPlan (session : SessionId) (thread : String) (params : Value) : Work B Unit := do
  sendControlRequest schema .turnStart params (.implementPlan session thread)
  note (.implementing session)
  editControls host route fun controls => controls.markTurnInflight session

def implementPlan (session : SessionId) (thread : String) : Work B Unit := do
  let waiting ← readMapper host route fun m => m.hasPlan thread
  when waiting do
    let defaults ← readControls host route fun controls => controls.defaults session
    let settings ← readMapper host route fun m => m.modelSettingsForSession session
    if settings.isNone ∧ defaults.model.isNone then
      report host route session "尚未获取当前模型，请稍后重试实施。"
    else do
      let params ← ofSourced (applyTurnDefaults (turnParams thread "Implement the plan.")
        { defaults with planMode := false } settings)
      startPlan host schema route session thread params

def effortOptions (model : Value) (id : String) : List (String × Option String × LocalAction) :=
  let default := (model.index "defaultReasoningEffort").asStr
  let efforts := (supportedReasoningEfforts model).map fun effort =>
    ("使用 " ++ effort ++ (if some effort = default then "（默认）" else ""), none,
      LocalAction.selectModel id (some effort))
  let options :=
    if efforts.isEmpty then [("使用模型默认值", none, LocalAction.selectModel id none)] else efforts
  options ++ [("返回模型列表", none, .models), ("取消", none, .cancel)]

/-- What an answered choice does. -/
def localAction (session : SessionId) (thread : String) : LocalAction → Work B Unit
  | .implement => implementPlan host schema route session thread
  | .revise => do
    editControls host route fun controls =>
      controls.updateDefaults session fun defaults => { defaults with planMode := true }
    onMapper host route fun m => m.dismissPlan thread
    onMapping host route (do
      let now ← Mapping.nowUtc host
      Mapping.publishPayload host thread now (.stateChanged .idle))
    report host route session "继续修改计划：请输入修改意见。"
  | .model model => do
    let id := (model.index "id").asStr.getD ""
    let choice ← onHost host route (Hosting.localChoice host session thread "选择推理强度"
      ("第 2 步：" ++ id ++ "；点击强度确认切换。") false (effortOptions model id))
    showChoice host route choice
  | .selectModel model effort =>
    sendControlRequest schema .modelList pageLimit (.selectModel session model effort [] [])
  | .models => sendControlRequest schema .modelList pageLimit (.models session [] [])
  | .cancel => report host route session "已取消模型选择，当前模型未改变。"

/-- One answered choice; it has no effect once a lifecycle event has closed it. -/
def localResponse (response : InteractionResponse) (action : LocalAction) : Work B Unit := do
  let choice ← onControls host route fun controls =>
    (controls.localInteractions.pending[response.requestId]?,
      removeChoice response.requestId controls)
  match choice with
  | none => pure ()
  | some choice =>
    let live ← onMapping host route (Mapping.respondLocalChoice host choice.threadId response)
    when live (localAction host schema route response.sessionId choice.threadId action)

def popResponse (controls : ControlRuntimeState) :
    Option (InteractionResponse × LocalAction) × ControlRuntimeState :=
  (controls.localInteractions.responses.head?,
    controls.updateLocal fun interactions =>
      { interactions with responses := interactions.responses.tail })

def localResponses : Nat → Work B Unit
  | 0 => fail .unfinished
  | fuel + 1 => do
    match ← onControls host route popResponse with
    | none => pure ()
    | some (response, action) =>
      localResponse host schema route response action
      localResponses fuel

/-- A ready plan is offered once, and not while a turn is in flight. -/
def offerPlan (session : SessionId) (thread : String) : Work B Unit := do
  let offered ← readControls host route fun controls => controls.offersPlan session
  if offered then pure ()
  else do
    let inflight ← readControls host route fun controls => controls.inflightSessions.contains session
    if inflight then pure ()
    else do
      let choice ← onHost host route (Hosting.localChoice host session thread "计划已准备好"
        "请选择实施计划，或继续修改。" true
        [("实施计划", some "切换到执行模式并立即开始", .implement),
          ("继续修改", some "保留计划模式，输入修改意见", .revise)])
      showChoice host route choice

def takeRevisions (controls : ControlRuntimeState) : List SessionId × ControlRuntimeState :=
  (controls.reviseRequested.toList, { controls with reviseRequested := ∅ })

def flushLocalChoices (fuel : Nat) : Work B Unit := do
  let live ← readMapper host route fun m => m.localChoices.toList
  let revisions ← onControls host route takeRevisions
  forEach (reviseSession host route live) revisions
  localResponses host schema route fuel
  let live ← readMapper host route fun m => m.localChoices
  editControls host route fun controls => controls.updateLocal fun interactions =>
    { interactions with pending := interactions.pending.filter fun id _ => live.contains id }
  let plans ← readMapper host route fun m => m.readyPlans
  forEach (fun plan => offerPlan host route plan.1 plan.2) plans

/-- A request about the thread of a session; a session without one is skipped. -/
def forThread (context : Context) (x : String → Work B Unit) : Work B Unit :=
  match context with
  | some (threadId, _, _) => x threadId
  | none => pure ()

/-- The same for a running turn. -/
def forTurn (context : Context) (x : String → String → Work B Unit) (otherwise : Work B Unit) :
    Work B Unit :=
  match context with
  | some (threadId, some turnId, _) => x threadId turnId
  | _ => otherwise

def queueReport (summary : Nat × Nat × Bool) : String :=
  "Queue " ++ (if summary.2.2 then "paused" else "active") ++ ": " ++ toString summary.1 ++
    " prompt(s), " ++ toString summary.2.1 ++ " bytes"

def statusReport (context : Context) (defaults : TurnDefaults) (summary : Nat × Nat × Bool) :
    String :=
  "State: " ++ ((context.map fun c => c.2.2.debugName).getD "unknown") ++
    "; model: " ++ defaults.model.getD "default" ++
    "; plan: " ++ (if defaults.planMode then "on" else "off") ++
    "; permissions: " ++ defaults.permissionProfile.getD "default" ++
    "; queue: " ++ toString summary.1 ++ " item(s)/" ++ toString summary.2.1 ++ " bytes" ++
    (if summary.2.2 then " (paused)" else "")

def threadListParams (cursor : Option NonEmptyText) : Value :=
  .object [("cursor", optionalText (cursor.map NonEmptyText.asStr)), ("limit", .int 50),
    ("sortKey", .string "updated_at"), ("sortDirection", .string "desc")]

def reviewTarget (instructions : Option NonEmptyText) : Value :=
  match instructions with
  | none => .object [("type", .string "uncommittedChanges")]
  | some text => .object [("type", .string "custom"), ("instructions", .string text.asStr)]

/-- One command from the queue. Queued prompts and prompt-queue edits have taken
effect when they were accepted. -/
def runCommand (command : AgentCommand) : Work B Unit := do
  let session := command.sessionId
  let context ← commandContext host route session
  match command.payload with
  | .selectModel model effort =>
    sendControlRequest schema .modelList pageLimit
      (.selectModel session model.asStr (effort.map NonEmptyText.asStr) [] [])
  | .setPlanMode enabled => do
    editControls host route fun controls =>
      controls.updateDefaults session fun defaults => { defaults with planMode := enabled }
    forThread context fun thread => dismissPlan host route thread
    publishSystemForSession host route context
      (if enabled then "Plan mode enabled" else "Plan mode disabled")
  | .selectPermissionProfile profile => do
    editControls host route fun controls =>
      controls.updateDefaults session fun defaults =>
        { defaults with permissionProfile := some profile.asStr }
    publishSystemForSession host route context s!"Permission profile set to {profile.asStr}"
  | .queue _ => do
    let summary ← readControls host route fun controls => controls.queueSummary session
    publishSystemForSession host route context (queueReport summary)
  | .status => do
    let defaults ← readControls host route fun controls => controls.defaults session
    let summary ← readControls host route fun controls => controls.queueSummary session
    publishSystemForSession host route context (statusReport context defaults summary)
  | .listModels => sendControlRequest schema .modelList pageLimit (.models session [] [])
  | .listPermissionProfiles =>
    sendControlRequest schema .permissionProfileList pageLimit (.report session)
  | .listThreads cursor =>
    sendControlRequest schema .threadList (threadListParams cursor) (.report session)
  | .resumeThread threadId => do
    onMapping host route (Mapping.trackDiscoveredThread threadId.asStr)
    sendControlRequest schema .threadResume (.object [("threadId", .string threadId.asStr)])
      (.resumeThread session)
  | .startThread cwd => do
    let defaults ← readControls host route fun controls => controls.defaults session
    sendControlRequest schema .threadStart
      (applyThreadDefaults (.object [("cwd", .string cwd.asStr),
        ("sessionStartSource", .string "clear")]) defaults) .startThread
  | .compact =>
    forThread context fun thread => sendControlRequest schema .threadCompact
      (.object [("threadId", .string thread)]) (.silent session)
  | .review instructions =>
    forThread context fun thread => sendControlRequest schema .reviewStart
      (.object [("threadId", .string thread), ("target", reviewTarget instructions),
        ("delivery", .string "inline")]) (.silent session)
  | .rename name =>
    forThread context fun thread => sendControlRequest schema .threadSetName
      (.object [("threadId", .string thread), ("name", .string name.asStr)]) (.silent session)
  | .fork =>
    forThread context fun thread => sendControlRequest schema .threadFork
      (.object [("threadId", .string thread)]) .forkThread
  | .cancelSession _ => do
    forThread context fun thread => dismissPlan host route thread
    forTurn context (fun thread turn => sendControlRequest schema .turnInterrupt
      (.object [("threadId", .string thread), ("turnId", .string turn)]) (.silent session))
      (pure ())
  | .submitPrompt text .steer =>
    forTurn context (fun thread turn => do
      sendControlRequest schema .turnSteer
        (.object [("threadId", .string thread), ("expectedTurnId", .string turn),
          ("input", .array [textInput text.asStr])]) (.silent session)
      publishUserMessage host route thread text.asStr)
      (publishSystemForSession host route context "Cannot steer: no active turn")
  | .submitPrompt _ .queue => pure ()

def commandLoop : Nat → Work B Unit
  | 0 => fail .unfinished
  | fuel + 1 => do
    match ← onControls host route ControlRuntimeState.popCommand with
    | none => pure ()
    | some command =>
      note (.taken command)
      runCommand host schema route command
      commandLoop fuel

/-- The request and the mark of a prompt that is started. -/
def startPrompt (session : SessionId) (thread : String) (prompt : QueuedPrompt) (params : Value) :
    Work B Unit := do
  sendControlRequest schema .turnStart params (.turnStart session thread prompt)
  note (.started session prompt)
  editControls host route fun controls => controls.markTurnInflight session

/-- The front prompt, read in its own section. -/
def pickPrompt (session : SessionId) : Work B (Option QueuedPrompt) :=
  locked host route (update fun w =>
    match w.controls.frontPrompt session with
    | none => (none, w)
    | some prompt => (some prompt, w.record (.picked session prompt)))

/-- One session of the queue dispatch: it must be idle and without a plan to decide. -/
def dispatchPrompt (session : SessionId) : Work B Unit := do
  match ← commandContext host route session with
  | some (thread, none, _) =>
    let waiting ← readMapper host route fun m => m.hasPlan thread
    if waiting then pure ()
    else
      match ← pickPrompt host route session with
      | none => pure ()
      | some prompt =>
        let defaults ← readControls host route fun controls => controls.defaults session
        let settings ← readMapper host route fun m => m.modelSettingsForSession session
        note (.dispatched session defaults settings)
        let params ← ofSourced
          (applyTurnDefaults (turnParams thread prompt.text.asStr) defaults settings)
        startPrompt host schema route session thread prompt params
  | _ => pure ()

/-- The mark is dropped when the session was seen active before and is idle now. -/
def observeTurn (session : SessionId) (active : Bool) : Work B Unit :=
  locked host route (modify fun w =>
    let observed := { w with controls := w.controls.observeTurn session active }
    if w.controls.inflightTurns.contains session ∧
        ¬ observed.controls.inflightTurns.contains session then
      observed.record (.released session)
    else observed)

def sampleTurn (session : SessionId) : Work B Unit := do
  let active ← readMapper host route fun m =>
    (m.commandContext session).any fun context => context.2.1.isSome
  observeTurn host route session active

def observeThread (entry : SessionId × String) : Work B Unit :=
  sendControlRequest schema .threadResume
    (.object [("threadId", .string entry.2), ("excludeTurns", .bool true)])
    (.observeThread entry.1 entry.2)

def awaitsObserver (pending : ExtTreeMap RequestId PendingControl) : Bool :=
  (OrderedMap.values pending).any fun kind =>
    match kind with
    | .observeThread _ _ => true
    | _ => false

/-- Phone operations wait until every requested subscription is answered. -/
def flushControlCommands (fuel : Nat) : Work B Unit := do
  let discovered ← onMapping host route (update fun s =>
    (s.mapper.takeObserverResumes.1, { s with mapper := s.mapper.takeObserverResumes.2 }))
  forEach (observeThread schema) discovered
  if ← alone (reads fun w => awaitsObserver w.pending) then pure ()
  else do
    let inflight ← readControls host route ControlRuntimeState.inflightSessions
    forEach (sampleTurn host route) inflight
    flushLocalChoices host schema route fuel
    commandLoop host schema route fuel
    let queued ← readControls host route ControlRuntimeState.queuedSessions
    forEach (dispatchPrompt host schema route) queued

end Work

end Codex

end AgentPulse
