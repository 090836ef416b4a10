import AgentPulse.NativeWire
import AgentPulse.ProtocolShape

/-!
# The derived readers of the native frames

The frames are read over the shape of a nested domain message. The codec reads
that message as a bare JSON value and decodes it afterwards; reading it as a
domain message at once accepts the same frames.
-/
namespace AgentPulse

open Serde (Json Shape Record Refines StrictShape StrictRecord bind_of_rel_some object_bind
  rel_field)

def SessionCursorDto.shape : StrictShape SessionCursorDto :=
  .object (StrictRecord.start SessionCursorDto.mk
    |>.required "session_id" .text
    |>.required "last_sequence" .text) (by decide)

def EventRouteDto.shape : StrictShape EventRouteDto :=
  .units [("observe_only", .observeOnly), ("interaction_read_only", .interactionReadOnly),
    ("interaction_interactive", .interactionInteractive)]

def SubscriptionStatusDto.shape : StrictShape SubscriptionStatusDto :=
  .units [("catching_up", .catchingUp), ("subscribed", .subscribed),
    ("already_subscribed", .alreadySubscribed)]

def UnsubscriptionStatusDto.shape : StrictShape UnsubscriptionStatusDto :=
  .units [("unsubscribed", .unsubscribed), ("not_subscribed", .notSubscribed)]

def ErrorCodeDto.shape : StrictShape ErrorCodeDto :=
  .units [("connection_busy", .connectionBusy), ("invalid_handshake", .invalidHandshake),
    ("invalid_request", .invalidRequest), ("session_not_discovered", .sessionNotDiscovered),
    ("session_not_found", .sessionNotFound), ("internal", .internal),
    ("capability_unavailable", .capabilityUnavailable),
    ("interaction_not_pending", .interactionNotPending),
    ("session_not_subscribed", .sessionNotSubscribed), ("provider_rejected", .providerRejected)]

/-- Tagged inside the record, as the messages themselves. -/
def DeliveryContextDto.shape : StrictShape DeliveryContextDto :=
  .internallyTagged "type" [
    ("discovery_provider", .object (StrictRecord.start DeliveryContextDto.discoveryProvider
      |>.required "request_id" .text) (by decide)),
    ("discovery_session", .object (StrictRecord.start DeliveryContextDto.discoverySession
      |>.required "request_id" .text
      |>.required "last_sequence" .text) (by decide)),
    ("subscription_session", .object (StrictRecord.start DeliveryContextDto.subscriptionSession
      |>.required "request_id" .text) (by decide)),
    ("subscription_interaction", .object
      (StrictRecord.start DeliveryContextDto.subscriptionInteraction
        |>.required "request_id" .text
        |>.required "route" EventRouteDto.shape) (by decide)),
    ("live_event", .object (StrictRecord.start DeliveryContextDto.liveEvent
      |>.required "route" EventRouteDto.shape) (by decide)),
    ("live_session", .unit .liveSession)]

section Frames

variable {V W : Type}

/-- A frame of a client, whose nested values have the given shape. -/
def ClientMessageDto.shape (value : Shape V) : Shape (ClientMessageDto V) :=
  .internallyTagged "type" [
    ("client_hello", (StrictShape.object (StrictRecord.start ClientMessageDto.clientHello
      |>.required "client_id" .text
      |>.required "display_name" .text
      |>.optional "version" .text
      |>.required "supported_protocol_versions" StrictShape.u16.list
      |>.optional "host_run_id" .text
      |>.defaulted "session_cursors" [] SessionCursorDto.shape.list) (of_decide_eq_true rfl)).toShape),
    ("discover_sessions", (StrictShape.object (StrictRecord.start ClientMessageDto.discoverSessions
      |>.required "request_id" .text) (of_decide_eq_true rfl)).toShape),
    ("subscribe_session", (StrictShape.object (StrictRecord.start ClientMessageDto.subscribeSession
      |>.required "request_id" .text
      |>.required "session_id" .text) (of_decide_eq_true rfl)).toShape),
    ("unsubscribe_session", (StrictShape.object
      (StrictRecord.start ClientMessageDto.unsubscribeSession
        |>.required "request_id" .text
        |>.required "session_id" .text) (of_decide_eq_true rfl)).toShape),
    ("submit_interaction_response", .object
      (Record.start ClientMessageDto.submitInteractionResponse
        |>.required "request_id" .text
        |>.required "response" value)),
    ("submit_command", .object (Record.start ClientMessageDto.submitCommand
      |>.required "request_id" .text
      |>.required "command" value))]

def ServerMessageDto.helloShape (value : Shape V) : Shape (ServerMessageDto V) :=
  .object (Record.start ServerMessageDto.serverHello
    |>.required "connection_id" .text
    |>.required "channel" value
    |>.required "protocol_version" .u16
    |>.required "max_frame_bytes" .u64
    |>.required "ping_interval_seconds" .u64
    |>.required "idle_timeout_seconds" .u64
    |>.required "host_run_id" .text
    |>.required "resume_accepted" .flag)

/-- A frame of the server, whose nested values have the given shape. -/
def ServerMessageDto.shape (value : Shape V) : Shape (ServerMessageDto V) :=
  .internallyTagged "type" [
    ("server_hello", helloShape value),
    ("sync_started", (StrictShape.object (StrictRecord.start ServerMessageDto.syncStarted
      |>.required "request_id" .text
      |>.required "provider_count" .u64
      |>.required "session_count" .u64) (of_decide_eq_true rfl)).toShape),
    ("domain_message", .object (Record.start ServerMessageDto.domainMessage
      |>.required "context" DeliveryContextDto.shape.toShape
      |>.required "domain" value)),
    ("sync_completed", (StrictShape.object (StrictRecord.start ServerMessageDto.syncCompleted
      |>.required "request_id" .text) (of_decide_eq_true rfl)).toShape),
    ("subscription_result", (StrictShape.object
      (StrictRecord.start ServerMessageDto.subscriptionResult
        |>.required "request_id" .text
        |>.required "session_id" .text
        |>.required "status" SubscriptionStatusDto.shape
        |>.required "baseline_sequence" .text
        |>.required "pending_interaction_count" .u64
        |>.required "event_count" .u64
        |>.required "reset" .flag) (of_decide_eq_true rfl)).toShape),
    ("unsubscription_result", (StrictShape.object
      (StrictRecord.start ServerMessageDto.unsubscriptionResult
        |>.required "request_id" .text
        |>.required "session_id" .text
        |>.required "status" UnsubscriptionStatusDto.shape) (of_decide_eq_true rfl)).toShape),
    ("interaction_response_result", (StrictShape.object
      (StrictRecord.start ServerMessageDto.interactionResponseResult
        |>.required "request_id" .text
        |>.required "session_id" .text
        |>.required "interaction_id" .text) (of_decide_eq_true rfl)).toShape),
    ("command_result", (StrictShape.object (StrictRecord.start ServerMessageDto.commandResult
      |>.required "request_id" .text
      |>.required "session_id" .text
      |>.required "command_id" .text) (of_decide_eq_true rfl)).toShape),
    ("error", (StrictShape.object (StrictRecord.start ServerMessageDto.error
      |>.optional "request_id" .text
      |>.required "code" ErrorCodeDto.shape
      |>.required "message" .text
      |>.required "recoverable" .flag) (of_decide_eq_true rfl)).toShape)]

/-- The version of the transport beside the message. -/
def NativeEnvelope.shape {T : Type} (message : Shape T) : Shape (NativeEnvelope T) :=
  .object (Record.start NativeEnvelope.mk
    |>.required "native_transport_version" .u16
    |>.required "message" message)

theorem ClientMessageDto.shape_strict {value : Shape V} (h : value.Strict) :
    (shape value).Strict := by
  apply Shape.internallyTagged_strict
  simp only [List.forall_mem_cons, List.not_mem_nil, false_implies, implies_true, and_true]
  refine ⟨StrictShape.strict _, StrictShape.strict _, StrictShape.strict _, StrictShape.strict _,
    ?_, ?_⟩
  · refine Shape.object_strict ?_ (of_decide_eq_true rfl)
    exact Record.required_strict (Record.required_strict (Record.start_strict _) Shape.text_strict _)
      h _
  · refine Shape.object_strict ?_ (of_decide_eq_true rfl)
    exact Record.required_strict (Record.required_strict (Record.start_strict _) Shape.text_strict _)
      h _

theorem ServerMessageDto.helloShape_strict {value : Shape V} (h : value.Strict) :
    (helloShape value).Strict := by
  refine Shape.object_strict ?_ (of_decide_eq_true rfl)
  have hfront := Record.required_strict (Record.required_strict
    (Record.start_strict (ServerMessageDto.serverHello (V := V))) Shape.text_strict
    "connection_id") h "channel"
  have hlimits := Record.required_strict (Record.required_strict (Record.required_strict
    (Record.required_strict hfront Shape.u16_strict "protocol_version") Shape.u64_strict
    "max_frame_bytes") Shape.u64_strict "ping_interval_seconds") Shape.u64_strict
    "idle_timeout_seconds"
  exact Record.required_strict (Record.required_strict hlimits Shape.text_strict _)
    Shape.flag_strict _

theorem ServerMessageDto.shape_strict {value : Shape V} (h : value.Strict) :
    (shape value).Strict := by
  apply Shape.internallyTagged_strict
  simp only [List.forall_mem_cons, List.not_mem_nil, false_implies, implies_true, and_true]
  refine ⟨helloShape_strict h, StrictShape.strict _, ?_, StrictShape.strict _,
    StrictShape.strict _, StrictShape.strict _, StrictShape.strict _, StrictShape.strict _,
    StrictShape.strict _⟩
  refine Shape.object_strict ?_ (of_decide_eq_true rfl)
  exact Record.required_strict (Record.required_strict (Record.start_strict _)
    DeliveryContextDto.shape.strict _) h _

end Frames

theorem NativeEnvelope.shape_strict {T : Type} {message : Shape T} (h : message.Strict) :
    (shape message).Strict := by
  refine Shape.object_strict ?_ (of_decide_eq_true rfl)
  exact Record.required_strict (Record.required_strict (Record.start_strict _) Shape.u16_strict _)
    h _

section Decoding

variable {V W : Type}

/-- Decodes the nested values of a frame. -/
def ClientMessageDto.mapM (f : V → Option W) : ClientMessageDto V → Option (ClientMessageDto W)
  | .clientHello clientId displayName version supportedProtocolVersions hostRunId sessionCursors =>
    some (.clientHello clientId displayName version supportedProtocolVersions hostRunId
      sessionCursors)
  | .discoverSessions requestId => some (.discoverSessions requestId)
  | .subscribeSession requestId sessionId => some (.subscribeSession requestId sessionId)
  | .unsubscribeSession requestId sessionId => some (.unsubscribeSession requestId sessionId)
  | .submitInteractionResponse requestId response =>
    (f response).map (.submitInteractionResponse requestId)
  | .submitCommand requestId command => (f command).map (.submitCommand requestId)

def ServerMessageDto.mapM (f : V → Option W) : ServerMessageDto V → Option (ServerMessageDto W)
  | .serverHello connectionId channel protocolVersion maxFrameBytes pingIntervalSeconds
      idleTimeoutSeconds hostRunId resumeAccepted =>
    (f channel).map fun channel => .serverHello connectionId channel protocolVersion maxFrameBytes
      pingIntervalSeconds idleTimeoutSeconds hostRunId resumeAccepted
  | .syncStarted requestId providerCount sessionCount =>
    some (.syncStarted requestId providerCount sessionCount)
  | .domainMessage context domain => (f domain).map (.domainMessage context)
  | .syncCompleted requestId => some (.syncCompleted requestId)
  | .subscriptionResult requestId sessionId status baselineSequence pendingInteractionCount
      eventCount reset =>
    some (.subscriptionResult requestId sessionId status baselineSequence pendingInteractionCount
      eventCount reset)
  | .unsubscriptionResult requestId sessionId status =>
    some (.unsubscriptionResult requestId sessionId status)
  | .interactionResponseResult requestId sessionId interactionId =>
    some (.interactionResponseResult requestId sessionId interactionId)
  | .commandResult requestId sessionId commandId =>
    some (.commandResult requestId sessionId commandId)
  | .error requestId code message recoverable => some (.error requestId code message recoverable)

end Decoding

/-- Any value, as it is. -/
def rawShape : Shape Json := ⟨fun _ value => some value, fun _ _ _ => .bare⟩

section Frames

variable {V W : Type} {value : Shape V} {f : V → Option W} {nested : Shape W}

/-- Reading the nested values later gives the frame that is read at once. -/
theorem ClientMessageDto.refines (hvalue : Refines value f nested) :
    Refines (shape value) (mapM f) (shape nested) := by
  intro buffered v
  symm
  show (Option.bind _ _).bind _ = Option.bind _ _
  rw [Option.bind_assoc]
  refine congrArg _ (funext ?_)
  rintro ⟨index, content⟩
  rcases index with _ | _ | _ | _ | _ | _ | index
  all_goals
    simp only [List.getElem?_cons_zero, List.getElem?_cons_succ, List.getElem?_nil,
      Option.bind_some]
  · refine object_bind ?_ (fun fields => ?_) content
    · rfl
    refine bind_of_rel_some ?_
    exact rel_field _ _ _ (rel_field _ _ _ (rel_field _ _ _ (rel_field _ _ _ (rel_field _ _ _
      (rel_field _ _ _ (.some fun _ _ _ _ _ _ => rfl))))))
  · refine object_bind ?_ (fun fields => ?_) content
    · rfl
    refine bind_of_rel_some ?_
    exact rel_field _ _ _ (.some fun _ => rfl)
  · refine object_bind ?_ (fun fields => ?_) content
    · rfl
    refine bind_of_rel_some ?_
    exact rel_field _ _ _ (rel_field _ _ _ (.some fun _ _ => rfl))
  · refine object_bind ?_ (fun fields => ?_) content
    · rfl
    refine bind_of_rel_some ?_
    exact rel_field _ _ _ (rel_field _ _ _ (.some fun _ _ => rfl))
  · refine object_bind ?_ (fun fields => ?_) content
    · rfl
    refine hvalue.bind_of_rel _ ?_
    exact rel_field _ _ _ (.some fun _ _ => rfl)
  · refine object_bind ?_ (fun fields => ?_) content
    · rfl
    refine hvalue.bind_of_rel _ ?_
    exact rel_field _ _ _ (.some fun _ _ => rfl)
  · rfl

theorem ServerMessageDto.hello_refines (hvalue : Refines value f nested) :
    Refines (helloShape value) (mapM f) (helloShape nested) := by
  intro buffered v
  symm
  simp only [helloShape, Shape.object, Record.start, Record.required, Record.field, hvalue.getD]
  simp only [Option.map_eq_bind, Option.bind_assoc, Option.bind_some, Function.comp_def, mapM]
  congr 1
  funext fields
  congr 1
  funext connectionId
  congr 1
  funext channel
  cases f channel with
  | none => simp only [Option.bind_none, Option.bind_fun_none]
  | some decoded => simp only [Option.bind_some]

theorem ServerMessageDto.refines (hvalue : Refines value f nested) :
    Refines (shape value) (mapM f) (shape nested) := by
  intro buffered v
  symm
  show (Option.bind _ _).bind _ = Option.bind _ _
  rw [Option.bind_assoc]
  refine congrArg _ (funext ?_)
  rintro ⟨index, content⟩
  rcases index with _ | _ | _ | _ | _ | _ | _ | _ | _ | index
  all_goals
    simp only [List.getElem?_cons_zero, List.getElem?_cons_succ, List.getElem?_nil,
      Option.bind_some]
  · exact (hello_refines hvalue true content).symm
  · refine object_bind ?_ (fun fields => ?_) content
    · rfl
    refine bind_of_rel_some ?_
    exact rel_field _ _ _ (rel_field _ _ _ (rel_field _ _ _ (.some fun _ _ _ => rfl)))
  · refine object_bind ?_ (fun fields => ?_) content
    · rfl
    refine hvalue.bind_of_rel _ ?_
    exact rel_field _ _ _ (.some fun _ _ => rfl)
  · refine object_bind ?_ (fun fields => ?_) content
    · rfl
    refine bind_of_rel_some ?_
    exact rel_field _ _ _ (.some fun _ => rfl)
  · refine object_bind ?_ (fun fields => ?_) content
    · rfl
    refine bind_of_rel_some ?_
    exact rel_field _ _ _ (rel_field _ _ _ (rel_field _ _ _ (rel_field _ _ _ (rel_field _ _ _
      (rel_field _ _ _ (rel_field _ _ _ (.some fun _ _ _ _ _ _ _ => rfl)))))))
  · refine object_bind ?_ (fun fields => ?_) content
    · rfl
    refine bind_of_rel_some ?_
    exact rel_field _ _ _ (rel_field _ _ _ (rel_field _ _ _ (.some fun _ _ _ => rfl)))
  · refine object_bind ?_ (fun fields => ?_) content
    · rfl
    refine bind_of_rel_some ?_
    exact rel_field _ _ _ (rel_field _ _ _ (rel_field _ _ _ (.some fun _ _ _ => rfl)))
  · refine object_bind ?_ (fun fields => ?_) content
    · rfl
    refine bind_of_rel_some ?_
    exact rel_field _ _ _ (rel_field _ _ _ (rel_field _ _ _ (.some fun _ _ _ => rfl)))
  · refine object_bind ?_ (fun fields => ?_) content
    · rfl
    refine bind_of_rel_some ?_
    exact rel_field _ _ _ (rel_field _ _ _ (rel_field _ _ _ (rel_field _ _ _
      (.some fun _ _ _ _ => rfl))))
  · rfl

/-- The version of a frame, and its message with its nested values decoded. -/
def NativeEnvelope.mapM {T U : Type} (f : T → Option U) (self : NativeEnvelope T) :
    Option (NativeEnvelope U) :=
  (f self.message).map (NativeEnvelope.mk self.nativeTransportVersion)

theorem NativeEnvelope.refines (hvalue : Refines value f nested) :
    Refines (shape value) (mapM f) (shape nested) := by
  intro buffered v
  symm
  refine object_bind ?_ (fun fields => ?_) v
  · rfl
  refine hvalue.bind_of_rel _ ?_
  exact rel_field _ _ _ (.some fun _ _ => rfl)

end Frames

end AgentPulse
