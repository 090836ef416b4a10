import AgentPulse.Bytes
import AgentPulse.NativeRoundTrip
import AgentPulse.NativeShape
import AgentPulse.ProtocolRange

/-!
# Further entries in wire documents

A further entry in an object of an accepted document makes the decoder refuse
it, in both formats and at any depth. The exception is a variant without fields
of an internally tagged enumeration: it reads its tag and looks at nothing else.
-/
namespace AgentPulse

open Serde (Alike Inserted Json Refines Shape Standing Step)

/-- The text side of serde_json, and the texts of its refusals. -/
structure JsonText where
  fromSlice : List UInt8 → Except String Json
  toVec : Json → Except String (List UInt8)
  toVecEnvelope : EnvelopeDto → Except String (List UInt8)
  toVecClient : NativeEnvelope (ClientMessageDto Json) → Except String (List UInt8)
  toVecServer : NativeEnvelope (ServerMessageDto Json) → Except String (List UInt8)
  refusal : Json → String

namespace JsonText

variable (text : JsonText)

def fromValue {α : Type} (shape : Shape α) (value : Json) : Except String α :=
  match shape.read false value with
  | some a => .ok a
  | none => .error (text.refusal value)

def serde : SerdeJson where
  Value := Json
  toVec := text.toVecEnvelope
  fromSlice := text.fromSlice
  getU64 value name := (value.get name).bind (Shape.u64.read false)
  fromValue := text.fromValue EnvelopeDto.shape.toShape

def native : NativeSerde Json where
  toVecValue := text.toVec
  toVecClient := text.toVecClient
  toVecServer := text.toVecServer
  fromValueClient := text.fromValue (NativeEnvelope.shape (ClientMessageDto.shape rawShape))
  fromValueServer := text.fromValue (NativeEnvelope.shape (ServerMessageDto.shape rawShape))

/-- A value that is printed parses again, up to its floating-point numbers. -/
def Reparses (value : Json) : Prop :=
  ∃ bytes again, text.toVec value = .ok bytes ∧ text.fromSlice bytes = .ok again ∧
    Alike value again

end JsonText

/-- The nested values of a frame. -/
def ClientMessageDto.values {V : Type} : ClientMessageDto V → List V
  | .submitInteractionResponse _ response => [response]
  | .submitCommand _ command => [command]
  | _ => []

def ServerMessageDto.values {V : Type} : ServerMessageDto V → List V
  | .serverHello _ channel _ _ _ _ _ _ => [channel]
  | .domainMessage _ domain => [domain]
  | _ => []

/-- The nested values of frames reparse. -/
structure JsonText.Lawful (text : JsonText) : Prop where
  client : ∀ bytes document frame, text.fromSlice bytes = .ok document →
    text.native.fromValueClient document = .ok frame →
    ∀ value ∈ frame.message.values, text.Reparses value
  server : ∀ bytes document frame, text.fromSlice bytes = .ok document →
    text.native.fromValueServer document = .ok frame →
    ∀ value ∈ frame.message.values, text.Reparses value

/-- The version in front of a record is the one that is looked up. -/
theorem lookup_of_version {α β : Type} {make : Nat → α → β} {name other : String} {shape : Shape α}
    {version : β → Nat} (hversion : ∀ n a, version (make n a) = n)
    {entries : List (String × Json)} {b : β}
    (h : (Shape.object ((Serde.Record.start make).required name .u16 |>.required other shape)).read
      false (.object entries) = some b) :
    ((Json.object entries).get name).bind (Shape.u64.read false) = some (version b) := by
  obtain ⟨given, hgiven, hread⟩ := Option.bind_eq_some_iff.mp h
  obtain rfl : (⟨false, entries⟩ : Serde.Fields) = given := by
    unfold Serde.fields at hgiven
    simp only at hgiven
    split at hgiven
    · exact Option.some.inj hgiven
    · cases hgiven
  obtain ⟨made, hmade, hrest⟩ := Option.bind_eq_some_iff.mp hread
  obtain ⟨a, -, rfl⟩ := Option.map_eq_some_iff.mp hrest
  have hmade : (((entries.lookup name).map (Shape.u16.read false)).getD none).map make =
    some made := hmade
  obtain ⟨n, hn, rfl⟩ := Option.map_eq_some_iff.mp hmade
  rw [hversion]
  show (entries.lookup name).bind (Shape.u64.read false) = some n
  cases hlookup : entries.lookup name with
  | none =>
    rw [hlookup] at hn
    cases hn
  | some value =>
    rw [hlookup] at hn
    obtain ⟨m, hm, rfl⟩ := Option.map_eq_some_iff.mp (show (Serde.u16 value).map _ = some n from hn)
    obtain rfl := Serde.u16_eq_some.mp hm
    have hwide : Serde.u64 (.int m.toNat) = some m.toUInt64 := by
      rw [← UInt16.toNat_toUInt64]
      exact Serde.u64_int _
    have hread : Shape.u64.read false (.int m.toNat) = some m.toUInt64.toNat := by
      simp only [Shape.u64, Shape.scalar, hwide, Option.map_some]
    rw [Option.bind_some, hread, UInt16.toNat_toUInt64]

/-- A document is refused as it is read, or decoding goes on with its envelope. -/
theorem decodeJson_document (text : JsonText) (time : Rfc3339) {input : List UInt8}
    {document : Json} (h : text.fromSlice input = .ok document) :
    (EnvelopeDto.shape.document.read false document = none ∧
      ∃ e, decodeJson text.serde time input = .error (.failed e)) ∨
    ∃ envelope, EnvelopeDto.shape.document.read false document = some envelope ∧
      decodeJson text.serde time input = decodeEnvelope time envelope := by
  have hslice : text.serde.fromSlice input = .ok document := h
  cases hread : EnvelopeDto.shape.document.read false document with
  | none =>
    refine .inl ⟨rfl, ?_⟩
    cases hget : text.serde.getU64 document "protocol_version" with
    | none => exact ⟨_, by simp only [decodeJson, hslice, hget]; rfl⟩
    | some received =>
      by_cases hreceived : received = v2ProtocolVersion
      · have hvalue : text.serde.fromValue document = .error (text.refusal document) := by
          cases document with
          | object entries =>
            have hnone : EnvelopeDto.shape.read false (.object entries) = none := hread
            show text.fromValue _ _ = _
            rw [JsonText.fromValue, hnone]
          | _ => cases hget
        exact ⟨_, by simp only [decodeJson, hslice, hget, hreceived, hvalue]; rfl⟩
      · exact ⟨_, by simp only [decodeJson, hslice, hget]; exact if_pos hreceived⟩
  | some envelope =>
    refine .inr ⟨envelope, rfl, ?_⟩
    cases document with
    | object entries =>
      have hsome : EnvelopeDto.shape.read false (.object entries) = some envelope := hread
      have hget : text.serde.getU64 (Json.object entries) "protocol_version" =
          some envelope.protocolVersion := lookup_of_version (fun _ _ => rfl) hsome
      have hvalue : text.serde.fromValue (Json.object entries) = .ok envelope := by
        show text.fromValue _ _ = _
        rw [JsonText.fromValue, hsome]
      unfold decodeJson decodeEnvelope
      rw [hslice]
      simp only [hget, hvalue]
      split
      · rfl
      · rfl
    | _ => cases hread

/-- A further entry in an accepted document of protocol v2: it changes nothing
where others are ignored, and is refused everywhere else. -/
theorem decodeJson_inserted (text : JsonText) (time : Rfc3339) {input changed : List UInt8}
    {document extended : Json} {name : String} {path : List Step} {message : ProtocolMessage}
    (hinput : text.fromSlice input = .ok document)
    (hchanged : text.fromSlice changed = .ok extended)
    (h : Inserted name path document extended)
    (hname : name ∉ (EnvelopeDto.shape.standing false document path).names)
    (haccepted : decodeJson text.serde time input = .ok message) :
    ((EnvelopeDto.shape.standing false document path).ignores = true ∧
      decodeJson text.serde time changed = .ok message) ∨
    ((EnvelopeDto.shape.standing false document path).ignores = false ∧
      ∃ e, decodeJson text.serde time changed = .error (.failed e)) := by
  rcases decodeJson_document text time hinput with ⟨-, e, hfailed⟩ | ⟨envelope, hread, hdecode⟩
  · rw [hfailed] at haccepted
    cases haccepted
  · have hagain := (Shape.document_strict EnvelopeDto.shape.strict).inserted h hname hread
    have hstanding : EnvelopeDto.shape.document.standing false document path =
      EnvelopeDto.shape.standing false document path := rfl
    rw [hstanding] at hagain
    cases hignores : (EnvelopeDto.shape.standing false document path).ignores with
    | true =>
      rw [Standing.leaves, hignores, if_pos rfl] at hagain
      refine .inl ⟨rfl, ?_⟩
      rcases decodeJson_document text time hchanged with ⟨hnone, -⟩ | ⟨again, hread', hdecode'⟩
      · rw [hagain] at hnone
        cases hnone
      · rw [hagain] at hread'
        cases hread'
        rw [hdecode', ← hdecode, haccepted]
    | false =>
      rw [Standing.leaves, hignores, if_neg (by simp)] at hagain
      refine .inr ⟨rfl, ?_⟩
      rcases decodeJson_document text time hchanged with ⟨-, hfailed⟩ | ⟨again, hread', -⟩
      · exact hfailed
      · rw [hagain] at hread'
        cases hread'

section Frames

variable (text : JsonText) (time : Rfc3339) {T U M : Type} {raw : Shape T} {nested : Shape U}
  {f : T → Option U} {decode : T → Except NativeWireError M}

/-- Both directions read an envelope and decode its message. -/
def decodeFrame (raw : Shape T) (decode : T → Except NativeWireError M) (input : List UInt8) :
    Except NativeWireError M := do
  let envelope ← NativeWire.decodeEnvelope text.serde (text.fromValue (NativeEnvelope.shape raw)) input
  decode envelope.message

variable (raw decode) in
theorem decodeFrame_document {input : List UInt8} {document : Json}
    (h : text.fromSlice input = .ok document) :
    ((NativeEnvelope.shape raw).document.read false document = none ∧
      ∃ e, decodeFrame text raw decode input = .error e ∧ e ≠ .panicked) ∨
    ∃ envelope, (NativeEnvelope.shape raw).document.read false document = some envelope ∧
      (envelope.nativeTransportVersion = nativeTransportVersion ∧
        decodeFrame text raw decode input = decode envelope.message ∨
      envelope.nativeTransportVersion ≠ nativeTransportVersion ∧
        ∃ e, decodeFrame text raw decode input = .error e ∧ e ≠ .panicked) := by
  have hslice : text.serde.fromSlice input = .ok document := h
  cases hread : (NativeEnvelope.shape raw).document.read false document with
  | none =>
    refine .inl ⟨rfl, ?_⟩
    cases hget : text.serde.getU64 document "native_transport_version" with
    | none => exact ⟨_, by simp only [decodeFrame, NativeWire.decodeEnvelope, hslice, hget]; rfl, by simp⟩
    | some received =>
      by_cases hreceived : received = nativeTransportVersion
      · have hvalue : text.fromValue (NativeEnvelope.shape raw) document =
            .error (text.refusal document) := by
          cases document with
          | object entries =>
            have hnone : (NativeEnvelope.shape raw).read false (.object entries) = none := hread
            rw [JsonText.fromValue, hnone]
          | _ => cases hget
        exact ⟨.json (text.refusal document), by
          simp only [decodeFrame, NativeWire.decodeEnvelope, hslice, hget, hreceived]
          rw [hvalue]
          rfl, by simp⟩
      · exact ⟨.unsupportedVersion received nativeTransportVersion, by
          simp only [decodeFrame, NativeWire.decodeEnvelope, hslice, hget, if_pos hreceived]
          rfl, by simp⟩
  | some envelope =>
    refine .inr ⟨envelope, rfl, ?_⟩
    cases document with
    | object entries =>
      have hsome : (NativeEnvelope.shape raw).read false (.object entries) = some envelope := hread
      have hget : text.serde.getU64 (Json.object entries) "native_transport_version" =
          some envelope.nativeTransportVersion := lookup_of_version (fun _ _ => rfl) hsome
      have hvalue : text.fromValue (NativeEnvelope.shape raw) (Json.object entries) =
          .ok envelope := by
        rw [JsonText.fromValue, hsome]
      by_cases hversion : envelope.nativeTransportVersion = nativeTransportVersion
      · refine .inl ⟨hversion, ?_⟩
        simp only [decodeFrame, NativeWire.decodeEnvelope, hslice, hget]
        rw [if_neg (not_not.mpr hversion), hvalue]
        rfl
      · refine .inr ⟨hversion, .unsupportedVersion envelope.nativeTransportVersion
          nativeTransportVersion, ?_, by simp⟩
        simp only [decodeFrame, NativeWire.decodeEnvelope, hslice, hget, if_pos hversion]
        rfl
    | _ => cases hread

/-- The same for a frame whose nested values are decoded as `f` decodes them. -/
theorem decodeFrame_inserted (hrefines : Refines raw f nested) (hstrict : nested.Strict)
    (sound : T → Prop)
    (hsound : ∀ input document frame, text.fromSlice input = .ok document →
      text.fromValue (NativeEnvelope.shape raw) document = .ok frame → sound frame.message)
    (hsame : ∀ a b u, sound a → sound b → f a = some u → f b = some u → decode a = decode b)
    (hnone : ∀ a, sound a → f a = none → ∃ e, decode a = .error e ∧ e ≠ .panicked)
    {input changed : List UInt8} {document extended : Json} {name : String} {path : List Step} {m : M}
    (hinput : text.fromSlice input = .ok document)
    (hchanged : text.fromSlice changed = .ok extended)
    (h : Inserted name path document extended)
    (hname : name ∉ ((NativeEnvelope.shape nested).standing false document path).names)
    (haccepted : decodeFrame text raw decode input = .ok m) :
    (((NativeEnvelope.shape nested).standing false document path).ignores = true ∧
      decodeFrame text raw decode changed = .ok m) ∨
    (((NativeEnvelope.shape nested).standing false document path).ignores = false ∧
      ∃ e, decodeFrame text raw decode changed = .error e ∧ e ≠ .panicked) := by
  have hwhole : ∀ document, (NativeEnvelope.shape nested).document.read false document =
      ((NativeEnvelope.shape raw).document.read false document).bind (NativeEnvelope.mapM f) := by
    intro document
    cases document with
    | object entries => exact NativeEnvelope.refines hrefines false (.object entries)
    | _ => rfl
  have hfits : ∀ input document envelope, text.fromSlice input = .ok document →
      (NativeEnvelope.shape raw).document.read false document = some envelope →
      sound envelope.message := by
    intro input document envelope hslice hread
    refine hsound input document envelope hslice ?_
    cases document with
    | object entries =>
      have hread : (NativeEnvelope.shape raw).read false (.object entries) = some envelope := hread
      rw [JsonText.fromValue, hread]
    | _ => cases hread
  rcases decodeFrame_document text raw decode hinput with
    ⟨-, e, hfailed, -⟩ | ⟨envelope, hread, ⟨hversion, hdecode⟩ | ⟨-, e, hfailed, -⟩⟩
  · rw [hfailed] at haccepted
    cases haccepted
  · rw [hdecode] at haccepted
    have hfirst := hfits input document envelope hinput hread
    cases hmessage : f envelope.message with
    | none =>
      obtain ⟨e, he, -⟩ := hnone _ hfirst hmessage
      rw [he] at haccepted
      cases haccepted
    | some u =>
      have hnested := hwhole document
      rw [hread, Option.bind_some, NativeEnvelope.mapM, hmessage, Option.map_some] at hnested
      have hagain : (NativeEnvelope.shape nested).document.read false extended =
          ((NativeEnvelope.shape nested).standing false document path).leaves
            ⟨envelope.nativeTransportVersion, u⟩ :=
        (Shape.document_strict (NativeEnvelope.shape_strict hstrict)).inserted h hname hnested
      rw [Standing.leaves] at hagain
      cases hignores : ((NativeEnvelope.shape nested).standing false document path).ignores with
      | true =>
        rw [hignores, if_pos rfl] at hagain
        refine .inl ⟨rfl, ?_⟩
        rw [hwhole] at hagain
        obtain ⟨again, hreadAgain, hmapped⟩ := Option.bind_eq_some_iff.mp hagain
        obtain ⟨u', hu, heq⟩ := Option.map_eq_some_iff.mp hmapped
        obtain ⟨hversion', rfl⟩ := NativeEnvelope.mk.inj heq
        rcases decodeFrame_document text raw decode hchanged with
          ⟨hmissing, -⟩ | ⟨found, hfound, ⟨-, hdecode'⟩ | ⟨hother, -⟩⟩
        · rw [hreadAgain] at hmissing
          cases hmissing
        · rw [hreadAgain] at hfound
          cases hfound
          rw [hdecode', ← haccepted]
          exact hsame _ _ _ (hfits changed extended again hchanged hreadAgain) hfirst hu hmessage
        · rw [hreadAgain] at hfound
          cases hfound
          exact absurd (hversion'.trans hversion) hother
      | false =>
        rw [hignores, if_neg (by simp)] at hagain
        refine .inr ⟨rfl, ?_⟩
        rw [hwhole] at hagain
        rcases decodeFrame_document text raw decode hchanged with
          ⟨-, hfailed⟩ | ⟨again, hreadAgain, ⟨-, hdecode'⟩ | ⟨-, hfailed⟩⟩
        · exact hfailed
        · rw [hreadAgain, Option.bind_some, NativeEnvelope.mapM, Option.map_eq_none_iff] at hagain
          rw [hdecode']
          exact hnone _ (hfits changed extended again hchanged hreadAgain) hagain
        · exact hfailed
  · rw [hfailed] at haccepted
    cases haccepted

/-- What decoding a nested value makes of its envelope. -/
def decodedNested (envelope : EnvelopeDto) : Except NativeWireError ProtocolMessage :=
  (decodeEnvelope time envelope).mapError fun
    | .failed error => .domainProtocol error
    | .panicked => .panicked

def nestedShape : Shape EnvelopeDto := EnvelopeDto.shape.document

theorem nested_refines : Refines rawShape (nestedShape.read false) nestedShape :=
  fun _ _ => rfl

theorem decodeDomainValue_document {value : Json} (h : text.Reparses value) :
    (nestedShape.read false value = none ∧
      ∃ e, NativeWire.decodeDomainValue text.serde time text.native value = .error e ∧
        e ≠ .panicked) ∨
    ∃ envelope, nestedShape.read false value = some envelope ∧
      NativeWire.decodeDomainValue text.serde time text.native value =
        decodedNested time envelope := by
  obtain ⟨bytes, again, hvec, hslice, halike⟩ := h
  have hvec : text.native.toVecValue value = .ok bytes := hvec
  have hread : nestedShape.read false value = nestedShape.read false again :=
    (Shape.document_strict EnvelopeDto.shape.strict).alike halike
  have hdecode : NativeWire.decodeDomainValue text.serde time text.native value =
      (decodeJson text.serde time bytes).mapError fun
        | .failed error => .domainProtocol error
        | .panicked => .panicked := by
    unfold NativeWire.decodeDomainValue
    rw [hvec]
    rfl
  rw [hdecode, hread]
  rcases decodeJson_document text time hslice with ⟨hnone, e, hfailed⟩ | ⟨envelope, hsome, hrest⟩
  · exact .inl ⟨hnone, .domainProtocol e, by rw [hfailed]; rfl, by simp⟩
  · exact .inr ⟨envelope, hsome, by rw [hrest]; rfl⟩

/-- Nested values with one envelope are decoded alike. -/
theorem decodeDomainValue_same {v w : Json} {envelope : EnvelopeDto} (hv : text.Reparses v)
    (hw : text.Reparses w) (hread : nestedShape.read false v = some envelope)
    (hread' : nestedShape.read false w = some envelope) :
    NativeWire.decodeDomainValue text.serde time text.native v =
      NativeWire.decodeDomainValue text.serde time text.native w := by
  have hdecoded : ∀ {u}, text.Reparses u → nestedShape.read false u = some envelope →
      NativeWire.decodeDomainValue text.serde time text.native u = decodedNested time envelope := by
    intro u hu h
    rcases decodeDomainValue_document text time hu with ⟨hnone, -⟩ | ⟨found, hfound, hdecode⟩
    · rw [h] at hnone
      cases hnone
    · rw [h] at hfound
      cases hfound
      exact hdecode
  rw [hdecoded hv hread, hdecoded hw hread']

theorem decodeDomainValue_none {v : Json} (hv : text.Reparses v)
    (h : nestedShape.read false v = none) :
    ∃ e, NativeWire.decodeDomainValue text.serde time text.native v = .error e ∧ e ≠ .panicked := by
  rcases decodeDomainValue_document text time hv with ⟨-, hfailed⟩ | ⟨found, hfound, -⟩
  · exact hfailed
  · rw [h] at hfound
    cases hfound

theorem client_same {a b : ClientMessageDto Json} {u : ClientMessageDto EnvelopeDto}
    (ha : ∀ value ∈ a.values, text.Reparses value) (hb : ∀ value ∈ b.values, text.Reparses value)
    (h : a.mapM (nestedShape.read false) = some u) (h' : b.mapM (nestedShape.read false) = some u) :
    NativeWire.clientIntoSemantic text.serde time text.native a =
      NativeWire.clientIntoSemantic text.serde time text.native b := by
  cases a with
  | submitInteractionResponse requestId response =>
    obtain ⟨envelope, hread, rfl⟩ := Option.map_eq_some_iff.mp h
    cases b with
    | submitInteractionResponse requestId' response' =>
      obtain ⟨envelope', hread', heq⟩ := Option.map_eq_some_iff.mp h'
      cases heq
      have hnested := decodeDomainValue_same text time (ha response (by simp [ClientMessageDto.values]))
        (hb response' (by simp [ClientMessageDto.values])) hread hread'
      simp only [NativeWire.clientIntoSemantic, hnested]
    | submitCommand requestId' command =>
      obtain ⟨envelope', -, heq⟩ := Option.map_eq_some_iff.mp h'
      cases heq
    | _ => cases h'
  | submitCommand requestId command =>
    obtain ⟨envelope, hread, rfl⟩ := Option.map_eq_some_iff.mp h
    cases b with
    | submitCommand requestId' command' =>
      obtain ⟨envelope', hread', heq⟩ := Option.map_eq_some_iff.mp h'
      cases heq
      have hnested := decodeDomainValue_same text time (ha command (by simp [ClientMessageDto.values]))
        (hb command' (by simp [ClientMessageDto.values])) hread hread'
      simp only [NativeWire.clientIntoSemantic, hnested]
    | submitInteractionResponse requestId' response =>
      obtain ⟨envelope', -, heq⟩ := Option.map_eq_some_iff.mp h'
      cases heq
    | _ => cases h'
  | _ =>
    cases h
    cases b with
    | submitInteractionResponse requestId' response =>
      obtain ⟨envelope', -, heq⟩ := Option.map_eq_some_iff.mp h'
      cases heq
    | submitCommand requestId' command =>
      obtain ⟨envelope', -, heq⟩ := Option.map_eq_some_iff.mp h'
      cases heq
    | _ =>
      cases h' <;> rfl

theorem client_none {a : ClientMessageDto Json} (ha : ∀ value ∈ a.values, text.Reparses value)
    (h : a.mapM (nestedShape.read false) = none) :
    ∃ e, NativeWire.clientIntoSemantic text.serde time text.native a = .error e ∧
      e ≠ .panicked := by
  cases a with
  | submitInteractionResponse requestId response =>
    obtain ⟨e, he, hcalm⟩ := decodeDomainValue_none text time
      (ha response (by simp [ClientMessageDto.values])) (Option.map_eq_none_iff.mp h)
    exact ⟨e, by simp only [NativeWire.clientIntoSemantic, he]; rfl, hcalm⟩
  | submitCommand requestId command =>
    obtain ⟨e, he, hcalm⟩ := decodeDomainValue_none text time
      (ha command (by simp [ClientMessageDto.values])) (Option.map_eq_none_iff.mp h)
    exact ⟨e, by simp only [NativeWire.clientIntoSemantic, he]; rfl, hcalm⟩
  | _ => cases h

theorem server_same {a b : ServerMessageDto Json} {u : ServerMessageDto EnvelopeDto}
    (ha : ∀ value ∈ a.values, text.Reparses value) (hb : ∀ value ∈ b.values, text.Reparses value)
    (h : a.mapM (nestedShape.read false) = some u) (h' : b.mapM (nestedShape.read false) = some u) :
    NativeWire.serverIntoSemantic text.serde time text.native a =
      NativeWire.serverIntoSemantic text.serde time text.native b := by
  cases a with
  | serverHello connectionId channel =>
    obtain ⟨envelope, hread, rfl⟩ := Option.map_eq_some_iff.mp h
    cases b with
    | serverHello connectionId' channel' =>
      obtain ⟨envelope', hread', heq⟩ := Option.map_eq_some_iff.mp h'
      cases heq
      have hnested := decodeDomainValue_same text time (ha channel (by simp [ServerMessageDto.values]))
        (hb channel' (by simp [ServerMessageDto.values])) hread hread'
      simp only [NativeWire.serverIntoSemantic, hnested]
    | domainMessage context domain =>
      obtain ⟨envelope', -, heq⟩ := Option.map_eq_some_iff.mp h'
      cases heq
    | _ => cases h'
  | domainMessage context domain =>
    obtain ⟨envelope, hread, rfl⟩ := Option.map_eq_some_iff.mp h
    cases b with
    | domainMessage context' domain' =>
      obtain ⟨envelope', hread', heq⟩ := Option.map_eq_some_iff.mp h'
      cases heq
      have hnested := decodeDomainValue_same text time (ha domain (by simp [ServerMessageDto.values]))
        (hb domain' (by simp [ServerMessageDto.values])) hread hread'
      simp only [NativeWire.serverIntoSemantic, hnested]
    | serverHello connectionId' channel =>
      obtain ⟨envelope', -, heq⟩ := Option.map_eq_some_iff.mp h'
      cases heq
    | _ => cases h'
  | _ =>
    cases h
    cases b with
    | serverHello connectionId' channel =>
      obtain ⟨envelope', -, heq⟩ := Option.map_eq_some_iff.mp h'
      cases heq
    | domainMessage context domain =>
      obtain ⟨envelope', -, heq⟩ := Option.map_eq_some_iff.mp h'
      cases heq
    | _ =>
      cases h' <;> rfl

theorem parseSequence_calm (value : String) : parseSequence value ≠ .error .panicked := by
  unfold parseSequence wireInvalid
  dsimp only
  split
  · simp
  · split
    · cases PositiveCounter.new .eventSequence _ _ with
      | error e => simp [Except.mapError]
      | ok sequence => simp [Except.mapError]
    · simp

theorem contextIntoSemantic_calm (context : DeliveryContextDto) :
    NativeWire.contextIntoSemantic context ≠ .error .panicked := by
  cases context with
  | discoverySession requestId lastSequence =>
    intro h
    simp only [NativeWire.contextIntoSemantic] at h
    cases hsequence : parseSequence lastSequence with
    | error e =>
      rw [hsequence] at h
      cases h
      exact parseSequence_calm lastSequence hsequence
    | ok sequence =>
      rw [hsequence] at h
      cases h
  | _ => simp [NativeWire.contextIntoSemantic]

theorem server_none {a : ServerMessageDto Json} (ha : ∀ value ∈ a.values, text.Reparses value)
    (h : a.mapM (nestedShape.read false) = none) :
    ∃ e, NativeWire.serverIntoSemantic text.serde time text.native a = .error e ∧
      e ≠ .panicked := by
  cases a with
  | serverHello connectionId channel =>
    obtain ⟨e, he, hcalm⟩ := decodeDomainValue_none text time
      (ha channel (by simp [ServerMessageDto.values])) (Option.map_eq_none_iff.mp h)
    exact ⟨e, by simp only [NativeWire.serverIntoSemantic, he]; rfl, hcalm⟩
  | domainMessage context domain =>
    obtain ⟨e, he, hcalm⟩ := decodeDomainValue_none text time
      (ha domain (by simp [ServerMessageDto.values])) (Option.map_eq_none_iff.mp h)
    cases hcontext : NativeWire.contextIntoSemantic context with
    | error refused =>
      refine ⟨refused, by simp only [NativeWire.serverIntoSemantic, hcontext]; rfl, ?_⟩
      rintro rfl
      exact contextIntoSemantic_calm context hcontext
    | ok context' =>
      exact ⟨e, by simp only [NativeWire.serverIntoSemantic, hcontext, he]; rfl, hcalm⟩
  | _ => cases h

end Frames

section Formats

variable (text : JsonText) (time : Rfc3339) (codec : NativeCodec)

/-- How a client frame takes the object at a position. -/
def clientStanding (document : Json) (path : List Step) : Standing :=
  (NativeEnvelope.shape (ClientMessageDto.shape nestedShape)).standing false document path

def serverStanding (document : Json) (path : List Step) : Standing :=
  (NativeEnvelope.shape (ServerMessageDto.shape nestedShape)).standing false document path

/-- What the codec makes of the message of a client frame. -/
def acceptClient (dto : ClientMessageDto Json) : Except NativeWireError NativeClientMessage := do
  let message ← NativeWire.clientIntoSemantic text.serde time text.native dto
  (validateClientMessage codec message).mapError .protocol
  .ok message

def acceptServer (dto : ServerMessageDto Json) : Except NativeWireError NativeServerMessage := do
  let message ← NativeWire.serverIntoSemantic text.serde time text.native dto
  (validateServerMessage codec message).mapError .protocol
  .ok message

theorem decodeClientMessage_frame (input : List UInt8) :
    NativeWire.decodeClientMessage codec text.serde time text.native input =
      decodeFrame text (ClientMessageDto.shape rawShape) (acceptClient text time codec) input := rfl

theorem decodeServerMessage_frame (input : List UInt8) :
    NativeWire.decodeServerMessage codec text.serde time text.native input =
      decodeFrame text (ServerMessageDto.shape rawShape) (acceptServer text time codec) input := rfl

variable {text} {input changed : List UInt8} {document extended : Json} {name : String}
  {path : List Step} (h : text.Lawful) (hinput : text.fromSlice input = .ok document)
  (hchanged : text.fromSlice changed = .ok extended)
  (hinserted : Inserted name path document extended)
include h hinput hchanged hinserted

theorem decodeClientMessage_inserted {message : NativeClientMessage}
    (haccepted : NativeWire.decodeClientMessage codec text.serde time text.native input =
      .ok message) (hname : name ∉ (clientStanding document path).names) :
    ((clientStanding document path).ignores = true ∧
      NativeWire.decodeClientMessage codec text.serde time text.native changed = .ok message) ∨
    ((clientStanding document path).ignores = false ∧
      ∃ e, NativeWire.decodeClientMessage codec text.serde time text.native changed = .error e ∧
        e ≠ .panicked) := by
  rw [decodeClientMessage_frame] at haccepted ⊢
  refine decodeFrame_inserted text (ClientMessageDto.refines nested_refines)
    (ClientMessageDto.shape_strict (Shape.document_strict EnvelopeDto.shape.strict))
    (fun dto => ∀ value ∈ dto.values, text.Reparses value) h.client
    ?_ ?_ hinput hchanged hinserted hname haccepted
  · intro a b u ha hb hread hread'
    unfold acceptClient
    rw [client_same text time ha hb hread hread']
  · intro a ha hread
    obtain ⟨e, he, hcalm⟩ := client_none text time ha hread
    exact ⟨e, by unfold acceptClient; rw [he]; rfl, hcalm⟩

theorem decodeServerMessage_inserted {message : NativeServerMessage}
    (haccepted : NativeWire.decodeServerMessage codec text.serde time text.native input =
      .ok message) (hname : name ∉ (serverStanding document path).names) :
    ((serverStanding document path).ignores = true ∧
      NativeWire.decodeServerMessage codec text.serde time text.native changed = .ok message) ∨
    ((serverStanding document path).ignores = false ∧
      ∃ e, NativeWire.decodeServerMessage codec text.serde time text.native changed = .error e ∧
        e ≠ .panicked) := by
  rw [decodeServerMessage_frame] at haccepted ⊢
  refine decodeFrame_inserted text (ServerMessageDto.refines nested_refines)
    (ServerMessageDto.shape_strict (Shape.document_strict EnvelopeDto.shape.strict))
    (fun dto => ∀ value ∈ dto.values, text.Reparses value) h.server
    ?_ ?_ hinput hchanged hinserted hname haccepted
  · intro a b u ha hb hread hread'
    unfold acceptServer
    rw [server_same text time ha hb hread hread']
  · intro a ha hread
    obtain ⟨e, he, hcalm⟩ := server_none text time ha hread
    exact ⟨e, by unfold acceptServer; rw [he]; rfl, hcalm⟩

end Formats

/-- A further entry in any object of an accepted document, under a name that is
not its own, is refused, in both formats and both directions, exactly if the
object is not one whose other entries are ignored. -/
theorem further_entry_refused_iff (text : JsonText) (time : Rfc3339) (codec : NativeCodec)
    (h : text.Lawful) (input changed : List UInt8) (document extended : Json) (name : String)
    (path : List Step) (hinput : text.fromSlice input = .ok document)
    (hchanged : text.fromSlice changed = .ok extended)
    (hinserted : Inserted name path document extended) :
    (∀ message, decodeJson text.serde time input = .ok message →
      name ∉ (EnvelopeDto.shape.standing false document path).names →
      ((∃ e, decodeJson text.serde time changed = .error (.failed e)) ↔
        (EnvelopeDto.shape.standing false document path).ignores = false)) ∧
    (∀ message, NativeWire.decodeClientMessage codec text.serde time text.native input =
        .ok message → name ∉ (clientStanding document path).names →
      ((∃ e, NativeWire.decodeClientMessage codec text.serde time text.native changed = .error e ∧
          e ≠ .panicked) ↔ (clientStanding document path).ignores = false)) ∧
    (∀ message, NativeWire.decodeServerMessage codec text.serde time text.native input =
        .ok message → name ∉ (serverStanding document path).names →
      ((∃ e, NativeWire.decodeServerMessage codec text.serde time text.native changed = .error e ∧
          e ≠ .panicked) ↔ (serverStanding document path).ignores = false)) := by
  refine ⟨?_, ?_, ?_⟩
  · intro message haccepted hname
    rcases decodeJson_inserted text time hinput hchanged hinserted hname haccepted with
      ⟨hignores, hsame⟩ | ⟨hignores, hrefused⟩
    · simp [hignores, hsame]
    · simp [hignores, hrefused]
  · intro message haccepted hname
    rcases decodeClientMessage_inserted time codec h hinput hchanged hinserted haccepted hname with
      ⟨hignores, hsame⟩ | ⟨hignores, hrefused⟩
    · simp [hignores, hsame]
    · exact ⟨fun _ => hignores, fun _ => hrefused⟩
  · intro message haccepted hname
    rcases decodeServerMessage_inserted time codec h hinput hchanged hinserted haccepted hname with
      ⟨hignores, hsame⟩ | ⟨hignores, hrefused⟩
    · simp [hignores, hsame]
    · exact ⟨fun _ => hignores, fun _ => hrefused⟩

namespace Sample

/-- The document of a command, by the object of its payload. -/
def commandDocument (payload : List (String × Json)) : Json :=
  .object [
    ("message", .object [
      ("payload", .object [
        ("channel_id", .string "00000000-0000-7000-0000-000000000002"),
        ("id", .string "00000000-0000-7000-0000-000000000001"),
        ("issued_at", .string "1970-01-01T00:00:00Z"),
        ("payload", .object payload),
        ("session_id", .string "00000000-0000-7000-0000-000000000000")]),
      ("type", .string "agent_command")]),
    ("protocol_version", .int 2)]

def commandText (payload : String) : String :=
  "\x7b\"protocol_version\":2,\"message\":\x7b\"type\":\"agent_command\",\"payload\":\x7b" ++
    "\"id\":\"00000000-0000-7000-0000-000000000001\"," ++
    "\"session_id\":\"00000000-0000-7000-0000-000000000000\"," ++
    "\"channel_id\":\"00000000-0000-7000-0000-000000000002\"," ++
    "\"issued_at\":\"1970-01-01T00:00:00Z\",\"payload\":" ++ payload ++ "\x7d\x7d\x7d"

def compactCommand : List UInt8 := Bytes.utf8 (commandText "\x7b\"type\":\"compact\"\x7d")

def extendedCommand : List UInt8 :=
  Bytes.utf8 (commandText "\x7b\"type\":\"compact\",\"unexpected\":true\x7d")

def compactDocument : Json := commandDocument [("type", .string "compact")]

def extendedDocument : Json :=
  commandDocument [("type", .string "compact"), ("unexpected", .bool true)]

def compactPath : List Step := [.entry "message", .entry "payload", .entry "payload"]

/-- The crate's answers for the two texts. -/
def commandJson : JsonText where
  fromSlice bytes :=
    if bytes = compactCommand then .ok compactDocument
    else if bytes = extendedCommand then .ok extendedDocument
    else .error "not listed"
  toVec _ := .error "not listed"
  toVecEnvelope _ := .error "not listed"
  toVecClient _ := .error "not listed"
  toVecServer _ := .error "not listed"
  refusal _ := "unknown field"

theorem commandJson_compact : commandJson.fromSlice compactCommand = .ok compactDocument := by
  simp [commandJson]

theorem commandJson_extended : commandJson.fromSlice extendedCommand = .ok extendedDocument := by
  have hother : extendedCommand ≠ compactCommand := by
    intro h
    unfold extendedCommand compactCommand at h
    exact absurd (Bytes.utf8_injective h) (by decide +kernel)
  simp [commandJson, hother]

/-- Neither document is a frame. -/
theorem commandJson_lawful : commandJson.Lawful := by
  have hdocument : ∀ bytes document, commandJson.fromSlice bytes = .ok document →
      document = compactDocument ∨ document = extendedDocument := by
    intro bytes document h
    simp only [commandJson] at h
    split at h
    · exact .inl (Except.ok.inj h).symm
    · split at h
      · exact .inr (Except.ok.inj h).symm
      · cases h
  constructor
  · intro bytes document frame hslice hframe
    rcases hdocument bytes document hslice with rfl | rfl <;> cases hframe
  · intro bytes document frame hslice hframe
    rcases hdocument bytes document hslice with rfl | rfl <;> cases hframe

theorem inserted_unexpected :
    Inserted "unexpected" compactPath compactDocument extendedDocument :=
  .entry [] _ "message" (.entry [] _ "payload" (.entry
    [("channel_id", .string "00000000-0000-7000-0000-000000000002"),
      ("id", .string "00000000-0000-7000-0000-000000000001"),
      ("issued_at", .string "1970-01-01T00:00:00Z")] _ "payload"
    (.here [("type", .string "compact")] [] (.bool true))))

theorem decode_compact :
    ∃ message, decodeJson commandJson.serde rfc3339 compactCommand = .ok message := by
  have hsample : (EnvelopeDto.shape.document.read false compactDocument).any
      (fun envelope => (decodeEnvelope rfc3339 envelope).isOk) = true := by decide +kernel
  obtain ⟨envelope, hread, hok⟩ := (Option.any_eq_true _ _).mp hsample
  rcases decodeJson_document commandJson rfc3339 commandJson_compact with
    ⟨hnone, -⟩ | ⟨found, hfound, hdecode⟩
  · rw [hread] at hnone
    cases hnone
  · rw [hread] at hfound
    cases hfound
    rw [hdecode]
    cases hresult : decodeEnvelope rfc3339 envelope with
    | ok message => exact ⟨message, rfl⟩
    | error e =>
      rw [hresult] at hok
      cases hok

theorem compact_standing :
    EnvelopeDto.shape.standing false compactDocument compactPath = ⟨["type"], true⟩ := by
  decide +kernel

end Sample

open Sample in
theorem further_entry_refused_iff_compact :
    ¬ ∃ e, decodeJson commandJson.serde rfc3339 extendedCommand = .error (.failed e) := by
  obtain ⟨message, hmessage⟩ := decode_compact
  obtain ⟨hcommand, -⟩ := further_entry_refused_iff commandJson rfc3339 nativeCodec
    commandJson_lawful compactCommand extendedCommand compactDocument extendedDocument
    "unexpected" compactPath commandJson_compact commandJson_extended inserted_unexpected
  rw [hcommand message hmessage (by rw [compact_standing]; decide), compact_standing]
  simp

open Sample in
/-- A command without fields is accepted with any other entry beside its type. -/
theorem compact_ignores_unexpected :
    (∃ message, decodeJson commandJson.serde rfc3339 compactCommand = .ok message) ∧
      Inserted "unexpected" compactPath compactDocument extendedDocument ∧
      "unexpected" ∉ (EnvelopeDto.shape.standing false compactDocument compactPath).names ∧
      ∃ message, decodeJson commandJson.serde rfc3339 extendedCommand = .ok message := by
  obtain ⟨message, hmessage⟩ := decode_compact
  have hname : "unexpected" ∉
      (EnvelopeDto.shape.standing false compactDocument compactPath).names := by
    rw [compact_standing]
    decide
  refine ⟨⟨message, hmessage⟩, inserted_unexpected, hname, message, ?_⟩
  rcases decodeJson_inserted commandJson rfc3339 commandJson_compact commandJson_extended
    inserted_unexpected hname hmessage with ⟨-, hsame⟩ | ⟨hignores, -⟩
  · exact hsame
  · rw [compact_standing] at hignores
    cases hignores

end AgentPulse
