import AgentPulse.NativeWire
import Mathlib.Tactic.DeriveEncodable

/-!
# Native messages come back from the wire

What the native codec writes, it reads back as the same message. What it reads is
canonical, and is written and read again unless the domain codec refuses the
nested message.
-/
namespace AgentPulse

open Std (ExtTreeMap)
open Fallible (bind_eq_ok mapError_eq_ok)

def NativeClientMessage.InRange : NativeClientMessage → Prop
  | .hello _ _ _ supportedProtocolVersions _ sessionCursors =>
    (∀ version ∈ supportedProtocolVersions, version < 2 ^ 16) ∧
      ∀ (sessionId : SessionId) lastSequence,
        sessionCursors[sessionId]? = some lastSequence → lastSequence < 2 ^ 64
  | _ => True

def ClientMessageDto.InRange {V : Type} : ClientMessageDto V → Prop
  | .clientHello _ _ _ supportedProtocolVersions _ _ =>
    ∀ version ∈ supportedProtocolVersions, version < 2 ^ 16
  | _ => True

def NativeServerMessage.InRange : NativeServerMessage → Prop
  | .hello _ _ protocolVersion maxFrameBytes pingIntervalSeconds idleTimeoutSeconds _ _ =>
    protocolVersion < 2 ^ 16 ∧ maxFrameBytes < 2 ^ 64 ∧ pingIntervalSeconds < 2 ^ 64 ∧
      idleTimeoutSeconds < 2 ^ 64
  | .syncStarted _ providerCount sessionCount => providerCount < 2 ^ 64 ∧ sessionCount < 2 ^ 64
  | .subscriptionResult _ _ _ _ pendingInteractionCount eventCount _ =>
    pendingInteractionCount < 2 ^ 64 ∧ eventCount < 2 ^ 64
  | _ => True

def ServerMessageDto.InRange {V : Type} : ServerMessageDto V → Prop
  | .serverHello _ _ protocolVersion maxFrameBytes pingIntervalSeconds idleTimeoutSeconds _ _ =>
    protocolVersion < 2 ^ 16 ∧ maxFrameBytes < 2 ^ 64 ∧ pingIntervalSeconds < 2 ^ 64 ∧
      idleTimeoutSeconds < 2 ^ 64
  | .syncStarted _ providerCount sessionCount => providerCount < 2 ^ 64 ∧ sessionCount < 2 ^ 64
  | .subscriptionResult _ _ _ _ pendingInteractionCount eventCount _ =>
    pendingInteractionCount < 2 ^ 64 ∧ eventCount < 2 ^ 64
  | _ => True

def CanonicalUuidV7 (text : String) : Prop :=
  ∃ uuid, Uuid.parseStr text = some uuid ∧ uuid.getVersionNum = 7 ∧ uuid.toString = text

/-- The identifiers that stay texts after decoding. -/
def NativeClientMessage.controlIds : NativeClientMessage → List String
  | .hello clientId _ _ _ hostRunId _ => clientId :: hostRunId.toList
  | .discover requestId => [requestId]
  | .subscribe requestId _ => [requestId]
  | .unsubscribe requestId _ => [requestId]
  | .submitInteractionResponse requestId _ => [requestId]
  | .submitCommand requestId _ => [requestId]

def NativeServerMessage.controlIds : NativeServerMessage → List String
  | .hello connectionId _ _ _ _ _ hostRunId _ => [connectionId, hostRunId]
  | .syncStarted requestId _ _ => [requestId]
  | .domain context _ => context.requestId?.toList
  | .syncCompleted requestId => [requestId]
  | .subscriptionResult requestId _ _ _ _ _ _ => [requestId]
  | .unsubscriptionResult requestId _ _ => [requestId]
  | .interactionResponseResult requestId _ interactionId => [requestId, interactionId]
  | .commandResult requestId _ commandId => [requestId, commandId]
  | .error requestId _ _ _ => requestId.toList

def NativeClientMessage.PositiveCursors : NativeClientMessage → Prop
  | .hello _ _ _ _ _ sessionCursors =>
    ∀ (sessionId : SessionId) lastSequence,
      sessionCursors[sessionId]? = some lastSequence → 0 < lastSequence
  | _ => True

def NativeServerMessage.ContextMatches : NativeServerMessage → Prop
  | .domain context message => (contextAdmits message context).2 = true
  | _ => True

/-- The sessions of the cursors are valid, and all different. -/
def ClientMessageDto.DistinctSessions {V : Type} : ClientMessageDto V → Prop
  | .clientHello _ _ _ _ _ sessionCursors =>
    ∃ sessionIds : List SessionId,
      sessionCursors.map (fun cursor => parseSessionId cursor.sessionId) = sessionIds.map .ok ∧
        sessionIds.Nodup
  | _ => True

/-- The domain message inside, where there is one. -/
def NativeClientMessage.nested : NativeClientMessage → Option ProtocolMessage
  | .submitInteractionResponse _ response => some (.interactionResponse response)
  | .submitCommand _ command => some (.agentCommand command)
  | _ => none

def NativeServerMessage.nested : NativeServerMessage → Option ProtocolMessage
  | .hello _ channel _ _ _ _ _ _ => some (.channelDescriptor channel)
  | .domain _ message => some message
  | _ => none

/-- Serde and its JSON library round trip: a parsed value keeps its meaning when
it is written and parsed again, and a record in range is written to a text whose
value has the version member and reads as the record. -/
structure NativeSerde.Lawful (serde : SerdeJson) (native : NativeSerde serde.Value) : Prop where
  value : ∀ bytes value, serde.fromSlice bytes = .ok value →
    ∃ again, native.toVecValue value = .ok again ∧ serde.fromSlice again = .ok value
  client : ∀ envelope : NativeEnvelope (ClientMessageDto serde.Value), envelope.message.InRange →
    ∃ bytes value, native.toVecClient envelope = .ok bytes ∧ serde.fromSlice bytes = .ok value ∧
      serde.getU64 value "native_transport_version" = some envelope.nativeTransportVersion ∧
      native.fromValueClient value = .ok envelope
  server : ∀ envelope : NativeEnvelope (ServerMessageDto serde.Value), envelope.message.InRange →
    ∃ bytes value, native.toVecServer envelope = .ok bytes ∧ serde.fromSlice bytes = .ok value ∧
      serde.getU64 value "native_transport_version" = some envelope.nativeTransportVersion ∧
      native.fromValueServer value = .ok envelope
  clientRange : ∀ value envelope, native.fromValueClient value = .ok envelope →
    envelope.message.InRange
  serverRange : ∀ value envelope, native.fromValueServer value = .ok envelope →
    envelope.message.InRange

section Validation

variable {codec : NativeCodec}

theorem validateUuidV7_canonical {field value : String}
    (h : validateUuidV7 codec field value = .ok ()) : CanonicalUuidV7 value := by
  unfold validateUuidV7 at h
  split at h
  · cases h
  · next uuid hparse =>
    split at h
    · cases h
    · next hform =>
      rw [not_or, not_not, not_not] at hform
      exact ⟨uuid, hparse, hform.1, hform.2⟩

/-- A check of an optional field, and what follows it. -/
theorem optional_then {α : Type} {check : String → Except NativeProtocolError Unit}
    {value : Option String} {rest : Except NativeProtocolError α} {a : α}
    (h : (match value with
      | some value => do
        check value
        rest
      | none => do
        (.ok () : Except NativeProtocolError Unit)
        rest) = .ok a) : (∀ text ∈ value.toList, check text = .ok ()) ∧ rest = .ok a := by
  cases value with
  | none => exact ⟨by simp, h⟩
  | some value =>
    obtain ⟨_, hcheck, hrest⟩ := bind_eq_ok.mp h
    exact ⟨by simpa using hcheck, hrest⟩

theorem validateClientMessage_canonical {message : NativeClientMessage}
    (h : validateClientMessage codec message = .ok ()) :
    (∀ text ∈ message.controlIds, CanonicalUuidV7 text) ∧ message.PositiveCursors := by
  cases message with
  | hello clientId displayName version supportedProtocolVersions hostRunId sessionCursors =>
    simp only [validateClientMessage, bind_eq_ok] at h
    obtain ⟨_, hclient, _, -, h⟩ := h
    obtain ⟨-, h⟩ := optional_then h
    obtain ⟨hhost, hchecks⟩ := optional_then h
    constructor
    · intro text htext
      rcases List.mem_cons.mp htext with rfl | htext
      · exact validateUuidV7_canonical hclient
      · exact validateUuidV7_canonical (hhost text htext)
    · intro sessionId lastSequence hcursor
      split at hchecks
      · cases hchecks
      · split at hchecks
        · cases hchecks
        · next hvalues =>
          have hne : lastSequence ≠ 0 := by
            rintro rfl
            apply hvalues
            rw [List.any_eq_true]
            exact ⟨0, OrderedMap.mem_values.mpr ⟨sessionId, hcursor⟩, rfl⟩
          exact Nat.pos_of_ne_zero hne
  | discover requestId =>
    exact ⟨by simpa [NativeClientMessage.controlIds] using validateUuidV7_canonical h, trivial⟩
  | subscribe requestId sessionId =>
    exact ⟨by simpa [NativeClientMessage.controlIds] using validateUuidV7_canonical h, trivial⟩
  | unsubscribe requestId sessionId =>
    exact ⟨by simpa [NativeClientMessage.controlIds] using validateUuidV7_canonical h, trivial⟩
  | submitInteractionResponse requestId response =>
    exact ⟨by simpa [NativeClientMessage.controlIds] using validateUuidV7_canonical h, trivial⟩
  | submitCommand requestId command =>
    exact ⟨by simpa [NativeClientMessage.controlIds] using validateUuidV7_canonical h, trivial⟩

theorem validateServerMessage_canonical {message : NativeServerMessage}
    (h : validateServerMessage codec message = .ok ()) :
    (∀ text ∈ message.controlIds, CanonicalUuidV7 text) ∧ message.ContextMatches := by
  cases message with
  | hello connectionId channel protocolVersion maxFrameBytes ping idle hostRunId resume =>
    simp only [validateServerMessage, bind_eq_ok] at h
    obtain ⟨_, hconnection, _, hhost, -⟩ := h
    refine ⟨?_, trivial⟩
    simp only [NativeServerMessage.controlIds, List.forall_mem_cons, List.not_mem_nil, false_implies,
      implies_true, and_true]
    exact ⟨validateUuidV7_canonical hconnection, validateUuidV7_canonical hhost⟩
  | syncStarted requestId providers sessions =>
    exact ⟨by simpa [NativeServerMessage.controlIds] using validateUuidV7_canonical h, trivial⟩
  | domain context message =>
    obtain ⟨hrequest, hadmits⟩ := optional_then h
    refine ⟨fun text htext => validateUuidV7_canonical (hrequest text htext), ?_⟩
    split at hadmits
    next contextName valid hpair =>
      split at hadmits
      · next hvalid =>
        show (contextAdmits message context).2 = true
        rw [hpair]
        exact hvalid
      · cases hadmits
  | syncCompleted requestId =>
    exact ⟨by simpa [NativeServerMessage.controlIds] using validateUuidV7_canonical h, trivial⟩
  | subscriptionResult requestId sessionId status baseline pending events reset =>
    exact ⟨by simpa [NativeServerMessage.controlIds] using validateUuidV7_canonical h, trivial⟩
  | unsubscriptionResult requestId sessionId status =>
    exact ⟨by simpa [NativeServerMessage.controlIds] using validateUuidV7_canonical h, trivial⟩
  | interactionResponseResult requestId sessionId interactionId =>
    simp only [validateServerMessage, bind_eq_ok] at h
    obtain ⟨_, hrequest, hinteraction⟩ := h
    refine ⟨?_, trivial⟩
    simp only [NativeServerMessage.controlIds, List.forall_mem_cons, List.not_mem_nil, false_implies,
      implies_true, and_true]
    exact ⟨validateUuidV7_canonical hrequest, validateUuidV7_canonical hinteraction⟩
  | commandResult requestId sessionId commandId =>
    simp only [validateServerMessage, bind_eq_ok] at h
    obtain ⟨_, hrequest, hcommand⟩ := h
    refine ⟨?_, trivial⟩
    simp only [NativeServerMessage.controlIds, List.forall_mem_cons, List.not_mem_nil, false_implies,
      implies_true, and_true]
    exact ⟨validateUuidV7_canonical hrequest, validateUuidV7_canonical hcommand⟩
  | error requestId code message recoverable =>
    obtain ⟨hrequest, -⟩ := optional_then h
    exact ⟨fun text htext => validateUuidV7_canonical (hrequest text htext), trivial⟩

end Validation

/-- Reading cursors adds counters that are positive and in range, of sessions
that are valid, all different and not read before. -/
theorem parseSessionCursors_reads {parsed sessionCursors : ExtTreeMap SessionId Nat}
    {cursors : List SessionCursorDto} (h : parseSessionCursors parsed cursors = .ok sessionCursors) :
    (∀ (sessionId : SessionId) lastSequence, sessionCursors[sessionId]? = some lastSequence →
      parsed[sessionId]? = some lastSequence ∨ lastSequence < 2 ^ 64) ∧
    ∃ sessionIds : List SessionId,
      cursors.map (fun cursor => parseSessionId cursor.sessionId) = sessionIds.map .ok ∧
        sessionIds.Nodup ∧ ∀ sessionId ∈ sessionIds, parsed[sessionId]? = none := by
  induction cursors generalizing parsed with
  | nil =>
    cases h
    exact ⟨fun sessionId lastSequence hcursor => .inl hcursor, [], rfl, List.nodup_nil, by simp⟩
  | cons cursor cursors ih =>
    obtain ⟨sessionId, hsession, h⟩ := bind_eq_ok.mp h
    split at h
    · cases h
    · next lastSequence hparse =>
      split at h
      · cases h
      · split at h
        · cases h
        · next hnew =>
          rw [Bool.not_eq_true, Option.isSome_eq_false_iff, Option.isNone_iff_eq_none] at hnew
          obtain ⟨hrange, sessionIds, hids, hnodup, hfresh⟩ := ih h
          have hbound : lastSequence < 2 ^ 64 := by
            unfold parseU64 at hparse
            grind
          constructor
          · intro other sequence hcursor
            rcases hrange other sequence hcursor with hinsert | hbounded
            · rw [OrderedMap.getElem?_insert] at hinsert
              split at hinsert
              · cases hinsert
                exact .inr hbound
              · exact .inl hinsert
            · exact .inr hbounded
          · have habsent : ∀ other ∈ sessionIds, other ≠ sessionId ∧ parsed[other]? = none := by
              intro other hother
              have hinsert := hfresh other hother
              rw [OrderedMap.getElem?_insert] at hinsert
              split at hinsert
              · cases hinsert
              · next hne => exact ⟨Ne.symm hne, hinsert⟩
            refine ⟨sessionId :: sessionIds, by simp [hsession, hids], ?_, ?_⟩
            · exact List.nodup_cons.mpr ⟨fun hmem => (habsent sessionId hmem).1 rfl, hnodup⟩
            · intro other hother
              rcases List.mem_cons.mp hother with rfl | hother
              · exact hnew
              · exact (habsent other hother).2

/-- The cursors of a map come back from their texts. -/
theorem parseSessionCursors_map {sessionCursors : ExtTreeMap SessionId Nat}
    (hrange : ∀ (sessionId : SessionId) lastSequence, sessionCursors[sessionId]? = some lastSequence →
      0 < lastSequence ∧ lastSequence < 2 ^ 64) :
    parseSessionCursors ∅ (sessionCursors.toList.map fun (sessionId, lastSequence) =>
      ⟨sessionId.toString, lastSequence.repr⟩) = .ok sessionCursors := by
  rw [parseSessionCursors_entries, foldl_insert_toList]
  · exact nodup_keys_toList sessionCursors
  · simp
  · intro entry hentry
    exact hrange entry.1 entry.2 (ExtTreeMap.mem_toList_iff_getElem?_eq_some.mp hentry)

theorem decodeJson_congr {serde : SerdeJson} {time : Rfc3339} {input other : List UInt8}
    (h : serde.fromSlice input = serde.fromSlice other) :
    decodeJson serde time input = decodeJson serde time other := by
  rw [decodeJson, decodeJson, h]

namespace NativeWire

section Laws

variable {codec : NativeCodec} {serde : SerdeJson} {time : Rfc3339}
  {native : NativeSerde serde.Value} (hserde : serde.Inverse) (htime : time.Inverse)
  (hnative : native.Lawful serde)

include hserde htime hnative in
theorem decodeDomainValue_encode {message : ProtocolMessage} {value : serde.Value}
    (h : encodeDomainValue serde time message = .ok value) :
    decodeDomainValue serde time native value = .ok message := by
  obtain ⟨bytes, hbytes, hvalue⟩ := bind_eq_ok.mp h
  rw [mapError_eq_ok] at hbytes hvalue
  obtain ⟨again, hagain, hslice⟩ := hnative.value bytes value hvalue
  have hsame : decodeJson serde time again = decodeJson serde time bytes :=
    decodeJson_congr (hslice.trans hvalue.symm)
  have hdecode := decodeJson_of_encodeJson hserde htime hbytes
  refine bind_eq_ok.mpr ⟨again, mapError_eq_ok.mpr hagain, ?_⟩
  rw [hsame, hdecode]
  rfl

include hserde in
/-- What the domain codec writes is a JSON value. -/
theorem encodeDomainValue_total {message : ProtocolMessage} {bytes : List UInt8}
    (h : encodeJson serde time message = .ok bytes) :
    ∃ value, encodeDomainValue serde time message = .ok value := by
  obtain ⟨envelope, -, hbytes⟩ := bind_eq_ok.mp h
  obtain ⟨value, hvalue, -⟩ :=
    hserde DecimalU64.visitStr_serialize envelope bytes (mapError_eq_ok.mp hbytes)
  exact ⟨value, bind_eq_ok.mpr ⟨bytes, mapError_eq_ok.mpr h, mapError_eq_ok.mpr hvalue⟩⟩

include hserde htime hnative in
theorem clientIntoSemantic_from {message : NativeClientMessage} {dto : ClientMessageDto serde.Value}
    (hrange : message.InRange) (hpositive : message.PositiveCursors)
    (h : clientFromSemantic serde time message = .ok dto) :
    dto.InRange ∧ clientIntoSemantic serde time native dto = .ok message := by
  cases message with
  | hello clientId displayName version supportedProtocolVersions hostRunId sessionCursors =>
    cases h
    have hcursors := parseSessionCursors_map fun sessionId lastSequence hcursor =>
      ⟨hpositive sessionId lastSequence hcursor, hrange.2 sessionId lastSequence hcursor⟩
    exact ⟨hrange.1, bind_eq_ok.mpr ⟨sessionCursors, hcursors, rfl⟩⟩
  | discover requestId =>
    cases h
    exact ⟨trivial, rfl⟩
  | subscribe requestId sessionId =>
    cases h
    exact ⟨trivial, bind_eq_ok.mpr ⟨sessionId, parseSessionId_toString sessionId, rfl⟩⟩
  | unsubscribe requestId sessionId =>
    cases h
    exact ⟨trivial, bind_eq_ok.mpr ⟨sessionId, parseSessionId_toString sessionId, rfl⟩⟩
  | submitInteractionResponse requestId response =>
    obtain ⟨value, hvalue, hdto⟩ := bind_eq_ok.mp h
    cases hdto
    have hread := decodeDomainValue_encode hserde htime hnative hvalue
    exact ⟨trivial, bind_eq_ok.mpr ⟨_, hread, rfl⟩⟩
  | submitCommand requestId command =>
    obtain ⟨value, hvalue, hdto⟩ := bind_eq_ok.mp h
    cases hdto
    have hread := decodeDomainValue_encode hserde htime hnative hvalue
    exact ⟨trivial, bind_eq_ok.mpr ⟨_, hread, rfl⟩⟩

include hserde in
theorem clientFromSemantic_total {message : NativeClientMessage}
    (h : ∀ nested ∈ message.nested, ∃ bytes, encodeJson serde time nested = .ok bytes) :
    ∃ dto, clientFromSemantic serde time message = .ok dto := by
  cases message with
  | hello clientId displayName version supportedProtocolVersions hostRunId sessionCursors =>
    exact ⟨_, rfl⟩
  | discover requestId => exact ⟨_, rfl⟩
  | subscribe requestId sessionId => exact ⟨_, rfl⟩
  | unsubscribe requestId sessionId => exact ⟨_, rfl⟩
  | submitInteractionResponse requestId response =>
    obtain ⟨bytes, hbytes⟩ := h _ rfl
    obtain ⟨value, hvalue⟩ := encodeDomainValue_total hserde hbytes
    exact ⟨_, bind_eq_ok.mpr ⟨value, hvalue, rfl⟩⟩
  | submitCommand requestId command =>
    obtain ⟨bytes, hbytes⟩ := h _ rfl
    obtain ⟨value, hvalue⟩ := encodeDomainValue_total hserde hbytes
    exact ⟨_, bind_eq_ok.mpr ⟨value, hvalue, rfl⟩⟩

/-- What a record in range is read as is in range, and names no session twice. -/
theorem clientIntoSemantic_reads {message : NativeClientMessage}
    {dto : ClientMessageDto serde.Value} (hrange : dto.InRange)
    (h : clientIntoSemantic serde time native dto = .ok message) :
    message.InRange ∧ dto.DistinctSessions := by
  cases dto with
  | clientHello clientId displayName version supportedProtocolVersions hostRunId cursors =>
    obtain ⟨sessionCursors, hcursors, hmessage⟩ := bind_eq_ok.mp h
    cases hmessage
    obtain ⟨hbounds, sessionIds, hids, hnodup, -⟩ := parseSessionCursors_reads hcursors
    refine ⟨⟨hrange, ?_⟩, sessionIds, hids, hnodup⟩
    intro sessionId lastSequence hcursor
    rcases hbounds sessionId lastSequence hcursor with hempty | hbound
    · simp at hempty
    · exact hbound
  | discoverSessions requestId =>
    cases h
    exact ⟨trivial, trivial⟩
  | subscribeSession requestId sessionId =>
    obtain ⟨sessionId, -, hmessage⟩ := bind_eq_ok.mp h
    cases hmessage
    exact ⟨trivial, trivial⟩
  | unsubscribeSession requestId sessionId =>
    obtain ⟨sessionId, -, hmessage⟩ := bind_eq_ok.mp h
    cases hmessage
    exact ⟨trivial, trivial⟩
  | submitInteractionResponse requestId response =>
    obtain ⟨nested, -, hmessage⟩ := bind_eq_ok.mp h
    split at hmessage
    · cases hmessage
      exact ⟨trivial, trivial⟩
    · cases hmessage
  | submitCommand requestId command =>
    obtain ⟨nested, -, hmessage⟩ := bind_eq_ok.mp h
    split at hmessage
    · cases hmessage
      exact ⟨trivial, trivial⟩
    · cases hmessage

theorem contextIntoSemantic_from (context : NativeDeliveryContext) :
    contextIntoSemantic (contextFromSemantic context) = .ok context := by
  cases context with
  | discoverySession requestId lastSequence =>
    exact bind_eq_ok.mpr ⟨lastSequence, parseSequence_repr lastSequence, rfl⟩
  | discoveryProvider requestId => rfl
  | subscriptionSession requestId => rfl
  | subscriptionInteraction requestId route =>
    simp [contextFromSemantic, contextIntoSemantic]
  | liveEvent route => simp [contextFromSemantic, contextIntoSemantic]
  | liveSession => rfl

include hserde htime hnative in
theorem serverIntoSemantic_from {message : NativeServerMessage} {dto : ServerMessageDto serde.Value}
    (hrange : message.InRange) (h : serverFromSemantic serde time message = .ok dto) :
    dto.InRange ∧ serverIntoSemantic serde time native dto = .ok message := by
  cases message with
  | hello connectionId channel protocolVersion maxFrameBytes ping idle hostRunId resume =>
    obtain ⟨value, hvalue, hdto⟩ := bind_eq_ok.mp h
    cases hdto
    have hread := decodeDomainValue_encode hserde htime hnative hvalue
    exact ⟨hrange, bind_eq_ok.mpr ⟨_, hread, rfl⟩⟩
  | syncStarted requestId providers sessions =>
    cases h
    exact ⟨hrange, rfl⟩
  | domain context message =>
    obtain ⟨value, hvalue, hdto⟩ := bind_eq_ok.mp h
    cases hdto
    have hread := decodeDomainValue_encode hserde htime hnative hvalue
    exact ⟨trivial, bind_eq_ok.mpr ⟨_, contextIntoSemantic_from context,
      bind_eq_ok.mpr ⟨_, hread, rfl⟩⟩⟩
  | syncCompleted requestId =>
    cases h
    exact ⟨trivial, rfl⟩
  | subscriptionResult requestId sessionId status baseline pending events reset =>
    cases h
    refine ⟨hrange, bind_eq_ok.mpr ⟨_, parseSessionId_toString sessionId,
      bind_eq_ok.mpr ⟨_, parseSequence_repr baseline, ?_⟩⟩⟩
    rw [SubscriptionStatusDto.toNative_ofNative]
  | unsubscriptionResult requestId sessionId status =>
    cases h
    refine ⟨trivial, bind_eq_ok.mpr ⟨_, parseSessionId_toString sessionId, ?_⟩⟩
    rw [UnsubscriptionStatusDto.toNative_ofNative]
  | interactionResponseResult requestId sessionId interactionId =>
    cases h
    exact ⟨trivial, bind_eq_ok.mpr ⟨_, parseSessionId_toString sessionId, rfl⟩⟩
  | commandResult requestId sessionId commandId =>
    cases h
    exact ⟨trivial, bind_eq_ok.mpr ⟨_, parseSessionId_toString sessionId, rfl⟩⟩
  | error requestId code message recoverable =>
    cases h
    refine ⟨trivial, ?_⟩
    rw [serverIntoSemantic, ErrorCodeDto.toNative_ofNative]

include hserde in
theorem serverFromSemantic_total {message : NativeServerMessage}
    (h : ∀ nested ∈ message.nested, ∃ bytes, encodeJson serde time nested = .ok bytes) :
    ∃ dto, serverFromSemantic serde time message = .ok dto := by
  cases message with
  | hello connectionId channel protocolVersion maxFrameBytes ping idle hostRunId resume =>
    obtain ⟨bytes, hbytes⟩ := h _ rfl
    obtain ⟨value, hvalue⟩ := encodeDomainValue_total hserde hbytes
    exact ⟨_, bind_eq_ok.mpr ⟨value, hvalue, rfl⟩⟩
  | domain context message =>
    obtain ⟨bytes, hbytes⟩ := h _ rfl
    obtain ⟨value, hvalue⟩ := encodeDomainValue_total hserde hbytes
    exact ⟨_, bind_eq_ok.mpr ⟨value, hvalue, rfl⟩⟩
  | syncStarted requestId providers sessions => exact ⟨_, rfl⟩
  | syncCompleted requestId => exact ⟨_, rfl⟩
  | subscriptionResult requestId sessionId status baseline pending events reset => exact ⟨_, rfl⟩
  | unsubscriptionResult requestId sessionId status => exact ⟨_, rfl⟩
  | interactionResponseResult requestId sessionId interactionId => exact ⟨_, rfl⟩
  | commandResult requestId sessionId commandId => exact ⟨_, rfl⟩
  | error requestId code message recoverable => exact ⟨_, rfl⟩

theorem serverIntoSemantic_inRange {message : NativeServerMessage}
    {dto : ServerMessageDto serde.Value} (hrange : dto.InRange)
    (h : serverIntoSemantic serde time native dto = .ok message) : message.InRange := by
  cases dto with
  | serverHello connectionId channel protocolVersion maxFrameBytes ping idle hostRunId resume =>
    obtain ⟨nested, -, hmessage⟩ := bind_eq_ok.mp h
    split at hmessage
    · cases hmessage
      exact hrange
    · cases hmessage
  | syncStarted requestId providers sessions =>
    cases h
    exact hrange
  | domainMessage context domain =>
    obtain ⟨context, -, h⟩ := bind_eq_ok.mp h
    obtain ⟨nested, -, hmessage⟩ := bind_eq_ok.mp h
    cases hmessage
    exact trivial
  | syncCompleted requestId =>
    cases h
    exact trivial
  | subscriptionResult requestId sessionId status baseline pending events reset =>
    obtain ⟨sessionId, -, h⟩ := bind_eq_ok.mp h
    obtain ⟨baseline, -, hmessage⟩ := bind_eq_ok.mp h
    cases hmessage
    exact hrange
  | unsubscriptionResult requestId sessionId status =>
    obtain ⟨sessionId, -, hmessage⟩ := bind_eq_ok.mp h
    cases hmessage
    exact trivial
  | interactionResponseResult requestId sessionId interactionId =>
    obtain ⟨sessionId, -, hmessage⟩ := bind_eq_ok.mp h
    cases hmessage
    exact trivial
  | commandResult requestId sessionId commandId =>
    obtain ⟨sessionId, -, hmessage⟩ := bind_eq_ok.mp h
    cases hmessage
    exact trivial
  | error requestId code message recoverable =>
    cases h
    exact trivial

/-- The document is read as the record. -/
def Reads {T : Type} (serde : SerdeJson)
    (fromValue : serde.Value → Except String (NativeEnvelope T)) (input : List UInt8) (dto : T) :
    Prop :=
  ∃ value, serde.fromSlice input = .ok value ∧
    serde.getU64 value "native_transport_version" = some nativeTransportVersion ∧
    ∃ version, fromValue value = .ok ⟨version, dto⟩

theorem decodeEnvelope_eq_ok {T : Type} {fromValue : serde.Value → Except String (NativeEnvelope T)}
    {input : List UInt8} {envelope : NativeEnvelope T} :
    decodeEnvelope serde fromValue input = .ok envelope ↔
      ∃ value, serde.fromSlice input = .ok value ∧
        serde.getU64 value "native_transport_version" = some nativeTransportVersion ∧
        fromValue value = .ok envelope := by
  unfold decodeEnvelope
  cases hslice : serde.fromSlice input with
  | error source => simp
  | ok value =>
    cases hversion : serde.getU64 value "native_transport_version" with
    | none => simp [hversion, wireInvalid]
    | some received =>
      by_cases hreceived : received = nativeTransportVersion
      · simp [hversion, hreceived, mapError_eq_ok]
      · simp [hversion, hreceived]

theorem encodeClientMessage_eq_ok {message : NativeClientMessage} {bytes : List UInt8} :
    encodeClientMessage codec serde time native message = .ok bytes ↔
      validateClientMessage codec message = .ok () ∧
        ∃ dto, clientFromSemantic serde time message = .ok dto ∧
          native.toVecClient ⟨nativeTransportVersion, dto⟩ = .ok bytes := by
  simp only [encodeClientMessage, bind_eq_ok, mapError_eq_ok]
  exact ⟨fun ⟨_, hvalid, hrest⟩ => ⟨hvalid, hrest⟩, fun ⟨hvalid, hrest⟩ => ⟨(), hvalid, hrest⟩⟩

theorem encodeServerMessage_eq_ok {message : NativeServerMessage} {bytes : List UInt8} :
    encodeServerMessage codec serde time native message = .ok bytes ↔
      validateServerMessage codec message = .ok () ∧
        ∃ dto, serverFromSemantic serde time message = .ok dto ∧
          native.toVecServer ⟨nativeTransportVersion, dto⟩ = .ok bytes := by
  simp only [encodeServerMessage, bind_eq_ok, mapError_eq_ok]
  exact ⟨fun ⟨_, hvalid, hrest⟩ => ⟨hvalid, hrest⟩, fun ⟨hvalid, hrest⟩ => ⟨(), hvalid, hrest⟩⟩

theorem decodeClientMessage_eq_ok {input : List UInt8} {message : NativeClientMessage} :
    decodeClientMessage codec serde time native input = .ok message ↔
      ∃ dto, Reads serde native.fromValueClient input dto ∧
        clientIntoSemantic serde time native dto = .ok message ∧
        validateClientMessage codec message = .ok () := by
  simp only [decodeClientMessage, bind_eq_ok, mapError_eq_ok, decodeEnvelope_eq_ok, Reads]
  constructor
  · rintro ⟨⟨version, dto⟩, ⟨value, hslice, hversion, hread⟩, decoded, hdecoded, _, hvalid, hmessage⟩
    cases hmessage
    exact ⟨dto, ⟨value, hslice, hversion, version, hread⟩, hdecoded, hvalid⟩
  · rintro ⟨dto, ⟨value, hslice, hversion, version, hread⟩, hdecoded, hvalid⟩
    exact ⟨⟨version, dto⟩, ⟨value, hslice, hversion, hread⟩, message, hdecoded, (), hvalid, rfl⟩

theorem decodeServerMessage_eq_ok {input : List UInt8} {message : NativeServerMessage} :
    decodeServerMessage codec serde time native input = .ok message ↔
      ∃ dto, Reads serde native.fromValueServer input dto ∧
        serverIntoSemantic serde time native dto = .ok message ∧
        validateServerMessage codec message = .ok () := by
  simp only [decodeServerMessage, bind_eq_ok, mapError_eq_ok, decodeEnvelope_eq_ok, Reads]
  constructor
  · rintro ⟨⟨version, dto⟩, ⟨value, hslice, hversion, hread⟩, decoded, hdecoded, _, hvalid, hmessage⟩
    cases hmessage
    exact ⟨dto, ⟨value, hslice, hversion, version, hread⟩, hdecoded, hvalid⟩
  · rintro ⟨dto, ⟨value, hslice, hversion, version, hread⟩, hdecoded, hvalid⟩
    exact ⟨⟨version, dto⟩, ⟨value, hslice, hversion, hread⟩, message, hdecoded, (), hvalid, rfl⟩

include hserde htime hnative in
theorem decodeClientMessage_encode {message : NativeClientMessage} {bytes : List UInt8}
    (hrange : message.InRange) (h : encodeClientMessage codec serde time native message = .ok bytes) :
    decodeClientMessage codec serde time native bytes = .ok message := by
  obtain ⟨hvalid, dto, hdto, hbytes⟩ := encodeClientMessage_eq_ok.mp h
  obtain ⟨hbounds, hback⟩ := clientIntoSemantic_from hserde htime hnative hrange
    (validateClientMessage_canonical hvalid).2 hdto
  obtain ⟨written, value, hwritten, hslice, hversion, hread⟩ := hnative.client ⟨_, dto⟩ hbounds
  obtain rfl : bytes = written := Except.ok.inj (hbytes.symm.trans hwritten)
  exact decodeClientMessage_eq_ok.mpr ⟨dto, ⟨value, hslice, hversion, _, hread⟩, hback, hvalid⟩

include hserde htime hnative in
theorem decodeServerMessage_encode {message : NativeServerMessage} {bytes : List UInt8}
    (hrange : message.InRange) (h : encodeServerMessage codec serde time native message = .ok bytes) :
    decodeServerMessage codec serde time native bytes = .ok message := by
  obtain ⟨hvalid, dto, hdto, hbytes⟩ := encodeServerMessage_eq_ok.mp h
  obtain ⟨hbounds, hback⟩ := serverIntoSemantic_from hserde htime hnative hrange hdto
  obtain ⟨written, value, hwritten, hslice, hversion, hread⟩ := hnative.server ⟨_, dto⟩ hbounds
  obtain rfl : bytes = written := Except.ok.inj (hbytes.symm.trans hwritten)
  exact decodeServerMessage_eq_ok.mpr ⟨dto, ⟨value, hslice, hversion, _, hread⟩, hback, hvalid⟩

include hserde htime hnative in
/-- A message that was read is written again, and read again as the same one. -/
theorem encodeClientMessage_decode {input : List UInt8} {message : NativeClientMessage}
    (h : decodeClientMessage codec serde time native input = .ok message)
    (hnested : ∀ nested ∈ message.nested, ∃ bytes, encodeJson serde time nested = .ok bytes) :
    ∃ bytes, encodeClientMessage codec serde time native message = .ok bytes ∧
      decodeClientMessage codec serde time native bytes = .ok message := by
  obtain ⟨dto, ⟨value, -, -, version, hread⟩, hinto, hvalid⟩ := decodeClientMessage_eq_ok.mp h
  obtain ⟨hrange, -⟩ := clientIntoSemantic_reads (hnative.clientRange value _ hread) hinto
  obtain ⟨written, hwritten⟩ := clientFromSemantic_total hserde hnested
  obtain ⟨hbounds, -⟩ := clientIntoSemantic_from hserde htime hnative hrange
    (validateClientMessage_canonical hvalid).2 hwritten
  obtain ⟨bytes, -, hbytes, -⟩ := hnative.client ⟨nativeTransportVersion, written⟩ hbounds
  have hencode := encodeClientMessage_eq_ok.mpr ⟨hvalid, written, hwritten, hbytes⟩
  exact ⟨bytes, hencode, decodeClientMessage_encode hserde htime hnative hrange hencode⟩

include hserde htime hnative in
theorem encodeServerMessage_decode {input : List UInt8} {message : NativeServerMessage}
    (h : decodeServerMessage codec serde time native input = .ok message)
    (hnested : ∀ nested ∈ message.nested, ∃ bytes, encodeJson serde time nested = .ok bytes) :
    ∃ bytes, encodeServerMessage codec serde time native message = .ok bytes ∧
      decodeServerMessage codec serde time native bytes = .ok message := by
  obtain ⟨dto, ⟨value, -, -, version, hread⟩, hinto, hvalid⟩ := decodeServerMessage_eq_ok.mp h
  have hrange := serverIntoSemantic_inRange (hnative.serverRange value _ hread) hinto
  obtain ⟨written, hwritten⟩ := serverFromSemantic_total hserde hnested
  obtain ⟨hbounds, -⟩ := serverIntoSemantic_from hserde htime hnative hrange hwritten
  obtain ⟨bytes, -, hbytes, -⟩ := hnative.server ⟨nativeTransportVersion, written⟩ hbounds
  have hencode := encodeServerMessage_eq_ok.mpr ⟨hvalid, written, hwritten, hbytes⟩
  exact ⟨bytes, hencode, decodeServerMessage_encode hserde htime hnative hrange hencode⟩

end Laws

end NativeWire

namespace Sample

/-- Parsed JSON, as far as the sample documents and the coded ones go. -/
inductive NativeValue where
  | event | hello | live
  | client (code : Nat)
  | server (code : Nat)
  deriving DecidableEq, Encodable

deriving instance DecidableEq for ClientMessageDto
deriving instance DecidableEq for ServerMessageDto
deriving instance DecidableEq for NativeEnvelope

instance encodableChar : Encodable Char := Encodable.ofLeftInverse Char.toNat Char.ofNat Char.ofNat_toNat

instance encodableString : Encodable String :=
  Encodable.ofLeftInverse String.toList String.ofList fun _ => String.ofList_toList

deriving instance Encodable for SessionCursorDto
deriving instance Encodable for ClientMessageDto
deriving instance Encodable for EventRouteDto
deriving instance Encodable for DeliveryContextDto
deriving instance Encodable for SubscriptionStatusDto
deriving instance Encodable for UnsubscriptionStatusDto
deriving instance Encodable for ErrorCodeDto
deriving instance Encodable for ServerMessageDto
deriving instance Encodable for NativeEnvelope

instance (dto : ClientMessageDto NativeValue) : Decidable dto.InRange :=
  match dto with
  | .clientHello _ _ _ versions _ _ =>
    inferInstanceAs (Decidable (∀ version ∈ versions, version < 2 ^ 16))
  | .discoverSessions _ => .isTrue trivial
  | .subscribeSession _ _ => .isTrue trivial
  | .unsubscribeSession _ _ => .isTrue trivial
  | .submitInteractionResponse _ _ => .isTrue trivial
  | .submitCommand _ _ => .isTrue trivial

instance (dto : ServerMessageDto NativeValue) : Decidable dto.InRange :=
  match dto with
  | .serverHello _ _ version frame ping idle _ _ =>
    inferInstanceAs (Decidable (version < 2 ^ 16 ∧ frame < 2 ^ 64 ∧ ping < 2 ^ 64 ∧ idle < 2 ^ 64))
  | .syncStarted _ providers sessions =>
    inferInstanceAs (Decidable (providers < 2 ^ 64 ∧ sessions < 2 ^ 64))
  | .domainMessage _ _ => .isTrue trivial
  | .syncCompleted _ => .isTrue trivial
  | .subscriptionResult _ _ _ _ pending events _ =>
    inferInstanceAs (Decidable (pending < 2 ^ 64 ∧ events < 2 ^ 64))
  | .unsubscriptionResult _ _ _ => .isTrue trivial
  | .interactionResponseResult _ _ _ => .isTrue trivial
  | .commandResult _ _ _ => .isTrue trivial
  | .error _ _ _ _ => .isTrue trivial

def helloEnvelope : NativeEnvelope (ClientMessageDto NativeValue) :=
  ⟨3, .clientHello "00000000-0000-7000-0000-00000000000a" "Phone" none [2]
    (some "00000000-0000-7000-0000-00000000000b")
    [⟨"00000000-0000-7000-0000-000000000000", "7"⟩]⟩

def helloText : String :=
  "\x7b\"native_transport_version\":3,\"message\":\x7b\"type\":\"client_hello\"," ++
    "\"client_id\":\"00000000-0000-7000-0000-00000000000a\",\"display_name\":\"Phone\"," ++
    "\"supported_protocol_versions\":[2]," ++
    "\"host_run_id\":\"00000000-0000-7000-0000-00000000000b\",\"session_cursors\":[\x7b" ++
    "\"session_id\":\"00000000-0000-7000-0000-000000000000\",\"last_sequence\":\"7\"\x7d]\x7d\x7d"

def liveEnvelope : NativeEnvelope (ServerMessageDto NativeValue) :=
  ⟨3, .domainMessage (.liveEvent .observeOnly) .event⟩

def liveText : String :=
  "\x7b\"native_transport_version\":3,\"message\":\x7b\"type\":\"domain_message\"," ++
    "\"context\":\x7b\"type\":\"live_event\",\"route\":\"observe_only\"\x7d,\"domain\":" ++
    eventText "1970-01-01T00:00:00Z" ++ "\x7d\x7d"

/-- The texts of the sample documents; any other record is coded by a number. -/
def nativeBytes : NativeValue → List UInt8
  | .event => (eventText "1970-01-01T00:00:00Z").toUTF8.data.toList
  | .hello => helloText.toUTF8.data.toList
  | .live => liveText.toUTF8.data.toList
  | .client code => 0 :: List.replicate code 0
  | .server code => 1 :: List.replicate code 0

def nativeValue : List UInt8 → Except String NativeValue
  | 0 :: rest => .ok (.client rest.length)
  | 1 :: rest => .ok (.server rest.length)
  | bytes =>
    if bytes = nativeBytes .event then .ok .event
    else if bytes = nativeBytes .hello then .ok .hello
    else if bytes = nativeBytes .live then .ok .live
    else .error "not listed"

theorem nativeValue_bytes (value : NativeValue) : nativeValue (nativeBytes value) = .ok value := by
  cases value with
  | event => decide +kernel
  | hello => decide +kernel
  | live => decide +kernel
  | client code => simp [nativeBytes, nativeValue]
  | server code => simp [nativeBytes, nativeValue]

def clientOfCode (code : Nat) : Option (NativeEnvelope (ClientMessageDto NativeValue)) :=
  Encodable.decode code

def serverOfCode (code : Nat) : Option (NativeEnvelope (ServerMessageDto NativeValue)) :=
  Encodable.decode code

def nativeVersion : NativeValue → Option Nat
  | .event => none
  | .hello => some 3
  | .live => some 3
  | .client code => (clientOfCode code).map (·.nativeTransportVersion)
  | .server code => (serverOfCode code).map (·.nativeTransportVersion)

def nestedSerde : SerdeJson where
  Value := NativeValue
  toVec envelope :=
    if envelope = eventEnvelope "1970-01-01T00:00:00Z" then .ok (nativeBytes .event)
    else .error "not listed"
  fromSlice := nativeValue
  getU64 value name :=
    if name = "native_transport_version" then nativeVersion value
    else if name = "protocol_version" ∧ value = .event then some 2
    else none
  fromValue
    | .event => .ok (eventEnvelope "1970-01-01T00:00:00Z")
    | _ => .error "not listed"

def nativeSerde : NativeSerde NativeValue where
  toVecValue value := .ok (nativeBytes value)
  toVecClient envelope :=
    if envelope = helloEnvelope then .ok (nativeBytes .hello)
    else .ok (nativeBytes (.client (Encodable.encode envelope)))
  toVecServer envelope :=
    if envelope = liveEnvelope then .ok (nativeBytes .live)
    else .ok (nativeBytes (.server (Encodable.encode envelope)))
  fromValueClient
    | .hello => .ok helloEnvelope
    | .client code =>
      match clientOfCode code with
      | some envelope => if envelope.message.InRange then .ok envelope else .error "out of range"
      | none => .error "not listed"
    | _ => .error "not listed"
  fromValueServer
    | .live => .ok liveEnvelope
    | .server code =>
      match serverOfCode code with
      | some envelope => if envelope.message.InRange then .ok envelope else .error "out of range"
      | none => .error "not listed"
    | _ => .error "not listed"

theorem nestedSerde_fromSlice (value : NativeValue) :
    nestedSerde.fromSlice (nativeBytes value) = .ok value :=
  nativeValue_bytes value

theorem nestedSerde_inverse : nestedSerde.Inverse := by
  intro _ envelope bytes h
  simp only [nestedSerde] at h
  split at h
  · next heq =>
    obtain rfl := Except.ok.inj h
    refine ⟨.event, nestedSerde_fromSlice .event, ?_, ?_⟩
    · rw [heq]
      rfl
    · rw [heq]
      rfl
  · cases h

theorem nativeSerde_lawful : NativeSerde.Lawful nestedSerde nativeSerde where
  value bytes value _ := ⟨nativeBytes value, rfl, nestedSerde_fromSlice value⟩
  client (envelope : NativeEnvelope (ClientMessageDto NativeValue)) hrange := by
    by_cases hhello : envelope = helloEnvelope
    · have hwrite : nativeSerde.toVecClient envelope = .ok (nativeBytes .hello) := by
        simp [nativeSerde, hhello]
      refine ⟨_, .hello, hwrite, nestedSerde_fromSlice .hello, ?_, ?_⟩
      · rw [hhello]
        rfl
      · rw [hhello]
        rfl
    · have hcode : clientOfCode (Encodable.encode envelope) = some envelope :=
        Encodable.encodek envelope
      have hwrite : nativeSerde.toVecClient envelope =
          .ok (nativeBytes (.client (Encodable.encode envelope))) := by
        simp [nativeSerde, hhello]
      refine ⟨_, .client (Encodable.encode envelope), hwrite, nestedSerde_fromSlice _, ?_, ?_⟩
      · simp [nestedSerde, nativeVersion, hcode]
      · simp only [nativeSerde, hcode]
        exact if_pos hrange
  server (envelope : NativeEnvelope (ServerMessageDto NativeValue)) hrange := by
    by_cases hlive : envelope = liveEnvelope
    · have hwrite : nativeSerde.toVecServer envelope = .ok (nativeBytes .live) := by
        simp [nativeSerde, hlive]
      refine ⟨_, .live, hwrite, nestedSerde_fromSlice .live, ?_, ?_⟩
      · rw [hlive]
        rfl
      · rw [hlive]
        rfl
    · have hcode : serverOfCode (Encodable.encode envelope) = some envelope :=
        Encodable.encodek envelope
      have hwrite : nativeSerde.toVecServer envelope =
          .ok (nativeBytes (.server (Encodable.encode envelope))) := by
        simp [nativeSerde, hlive]
      refine ⟨_, .server (Encodable.encode envelope), hwrite, nestedSerde_fromSlice _, ?_, ?_⟩
      · simp [nestedSerde, nativeVersion, hcode]
      · simp only [nativeSerde, hcode]
        exact if_pos hrange
  clientRange (value : NativeValue) envelope h := by
    cases value with
    | hello =>
      cases h
      exact (by decide : helloEnvelope.message.InRange)
    | client code =>
      simp only [nativeSerde] at h
      split at h
      · split at h
        · next hrange =>
          cases h
          exact hrange
        · cases h
      · cases h
    | event => cases h
    | live => cases h
    | server code => cases h
  serverRange (value : NativeValue) envelope h := by
    cases value with
    | live =>
      cases h
      exact trivial
    | server code =>
      simp only [nativeSerde] at h
      split at h
      · split at h
        · next hrange =>
          cases h
          exact hrange
        · cases h
      · cases h
    | event => cases h
    | hello => cases h
    | client code => cases h

def helloMessage : NativeClientMessage :=
  .hello "00000000-0000-7000-0000-00000000000a" "Phone" none [2]
    (some "00000000-0000-7000-0000-00000000000b")
    ((∅ : ExtTreeMap SessionId Nat).insert (Ident.numbered .session 0) 7)

def liveMessage : NativeServerMessage := .domain (.liveEvent .observeOnly) (.agentEvent (message 0 1))

def nativeCodec : NativeCodec where
  encodeJson _ := .ok ()
  uuidError := id
  subscriptionError _ := "subscription"
  channelActionError _ := "action"

theorem decode_hello : NativeWire.decodeClientMessage nativeCodec nestedSerde rfc3339 nativeSerde
    (nativeBytes .hello) = .ok helloMessage := by
  have hreads : NativeWire.Reads nestedSerde nativeSerde.fromValueClient (nativeBytes .hello)
      helloEnvelope.message :=
    ⟨.hello, nestedSerde_fromSlice .hello, rfl, 3, rfl⟩
  refine NativeWire.decodeClientMessage_eq_ok.mpr ⟨_, hreads, ?_, ?_⟩
  · rfl
  · decide +kernel

theorem encode_event :
    encodeJson nestedSerde rfc3339 (.agentEvent (message 0 1)) = .ok (nativeBytes .event) := by
  have henvelope : encodeEnvelope rfc3339 (.agentEvent (message 0 1)) =
      .ok (eventEnvelope "1970-01-01T00:00:00Z") := by decide +kernel
  have hwrite : nestedSerde.toVec (eventEnvelope "1970-01-01T00:00:00Z") =
      .ok (nativeBytes .event) := by
    simp [nestedSerde]
  exact bind_eq_ok.mpr ⟨_, henvelope, mapError_eq_ok.mpr hwrite⟩

theorem encode_live : NativeWire.encodeServerMessage nativeCodec nestedSerde rfc3339 nativeSerde
    liveMessage = .ok (nativeBytes .live) := by
  have hvalue : NativeWire.encodeDomainValue nestedSerde rfc3339 (.agentEvent (message 0 1)) =
      .ok NativeValue.event :=
    bind_eq_ok.mpr ⟨_, mapError_eq_ok.mpr encode_event,
      mapError_eq_ok.mpr (nestedSerde_fromSlice .event)⟩
  have hdto : NativeWire.serverFromSemantic nestedSerde rfc3339 liveMessage =
      .ok liveEnvelope.message := bind_eq_ok.mpr ⟨_, hvalue, rfl⟩
  have hwrite : nativeSerde.toVecServer liveEnvelope = .ok (nativeBytes .live) := by
    simp [nativeSerde]
  have hvalid : validateServerMessage nativeCodec liveMessage = .ok () := by decide +kernel
  exact NativeWire.encodeServerMessage_eq_ok.mpr ⟨hvalid, _, hdto, hwrite⟩

end Sample

namespace NativeWire

/-- The codec round trips in both directions, and reads canonical messages only. -/
theorem roundTrip (codec : NativeCodec) (serde : SerdeJson) (time : Rfc3339)
    (native : NativeSerde serde.Value) (hserde : serde.Inverse) (htime : time.Inverse)
    (hnative : native.Lawful serde) :
    (∀ message bytes, message.InRange →
      encodeClientMessage codec serde time native message = .ok bytes →
      decodeClientMessage codec serde time native bytes = .ok message) ∧
    (∀ message bytes, message.InRange →
      encodeServerMessage codec serde time native message = .ok bytes →
      decodeServerMessage codec serde time native bytes = .ok message) ∧
    (∀ input message, decodeClientMessage codec serde time native input = .ok message →
      (∀ text ∈ message.controlIds, CanonicalUuidV7 text) ∧ message.PositiveCursors ∧
      (∃ dto, Reads serde native.fromValueClient input dto ∧ dto.DistinctSessions ∧
        clientIntoSemantic serde time native dto = .ok message) ∧
      ((∀ nested ∈ message.nested, ∃ bytes, encodeJson serde time nested = .ok bytes) →
        ∃ bytes, encodeClientMessage codec serde time native message = .ok bytes ∧
          decodeClientMessage codec serde time native bytes = .ok message)) ∧
    (∀ input message, decodeServerMessage codec serde time native input = .ok message →
      (∀ text ∈ message.controlIds, CanonicalUuidV7 text) ∧ message.ContextMatches ∧
      ((∀ nested ∈ message.nested, ∃ bytes, encodeJson serde time nested = .ok bytes) →
        ∃ bytes, encodeServerMessage codec serde time native message = .ok bytes ∧
          decodeServerMessage codec serde time native bytes = .ok message)) := by
  refine ⟨fun message bytes hrange h => decodeClientMessage_encode hserde htime hnative hrange h,
    fun message bytes hrange h => decodeServerMessage_encode hserde htime hnative hrange h, ?_, ?_⟩
  · intro input message h
    obtain ⟨dto, hreads, hinto, hvalid⟩ := decodeClientMessage_eq_ok.mp h
    obtain ⟨hids, hpositive⟩ := validateClientMessage_canonical hvalid
    obtain ⟨value, -, -, version, hread⟩ := id hreads
    obtain ⟨-, hdistinct⟩ := clientIntoSemantic_reads (hnative.clientRange value _ hread) hinto
    exact ⟨hids, hpositive, ⟨dto, hreads, hdistinct, hinto⟩,
      encodeClientMessage_decode hserde htime hnative h⟩
  · intro input message h
    obtain ⟨dto, -, -, hvalid⟩ := decodeServerMessage_eq_ok.mp h
    obtain ⟨hids, hmatches⟩ := validateServerMessage_canonical hvalid
    exact ⟨hids, hmatches, encodeServerMessage_decode hserde htime hnative h⟩

open Sample

/-- A handshake with one cursor is read and can be written again; a live event
is written and read back. -/
theorem roundTrip_frames :
    (CanonicalUuidV7 "00000000-0000-7000-0000-00000000000a" ∧ helloMessage.PositiveCursors ∧
      ∃ bytes, encodeClientMessage nativeCodec nestedSerde rfc3339 nativeSerde helloMessage =
          .ok bytes ∧
        decodeClientMessage nativeCodec nestedSerde rfc3339 nativeSerde bytes = .ok helloMessage) ∧
    encodeServerMessage nativeCodec nestedSerde rfc3339 nativeSerde liveMessage =
        .ok (nativeBytes .live) ∧
      decodeServerMessage nativeCodec nestedSerde rfc3339 nativeSerde (nativeBytes .live) =
        .ok liveMessage := by
  obtain ⟨-, hserver, hclient, -⟩ := roundTrip nativeCodec nestedSerde rfc3339 nativeSerde
    nestedSerde_inverse rfc3339_inverse nativeSerde_lawful
  obtain ⟨hids, hpositive, -, hagain⟩ := hclient _ _ decode_hello
  refine ⟨⟨hids _ (by simp [helloMessage, NativeClientMessage.controlIds]), hpositive,
    hagain (by simp [helloMessage, NativeClientMessage.nested])⟩, encode_live, ?_⟩
  exact hserver liveMessage _ trivial encode_live

end NativeWire

end AgentPulse
