import AgentPulse.Bytes
import AgentPulse.PairingProtocol

/-!
# What the pairing codecs accept

A bundle, a request or a server message that is written is read back, and what a decoder
returns can be written again. The decoder of the URI looks up the discovery fields of the
other version in an object; a document that is an array has no entries to find.
-/
namespace AgentPulse

open Fallible (bind_eq_ok mapError_eq_ok toOption_eq_some)
open Serde (Json)

/-- What serde_json and base64 guarantee for a value. -/
def PairingCodec.RoundTrips (codec : PairingCodec) (value : Json) : Prop :=
  ∃ bytes, codec.toVec value = .ok bytes ∧ codec.fromSlice bytes = .ok value ∧
    codec.decode (codec.encode bytes) = .ok bytes

section

variable {codec : PairingCodec}

theorem readJson_eq_ok {T : Type} {read : Json → Option T} {bytes : List UInt8} {record : T} :
    readJson codec read bytes = .ok record ↔
      ∃ value, codec.fromSlice bytes = .ok value ∧ read value = some record := by
  unfold readJson
  rw [bind_eq_ok]
  constructor
  · rintro ⟨value, hvalue, hrecord⟩
    refine ⟨value, mapError_eq_ok.mp hvalue, ?_⟩
    split at hrecord
    · next hread =>
      cases hrecord
      exact hread
    · cases hrecord
  · rintro ⟨value, hvalue, hread⟩
    refine ⟨value, mapError_eq_ok.mpr hvalue, ?_⟩
    rw [hread]

theorem stripPrefix_append (front text : String) : stripPrefix front (front ++ text) = some text := by
  have hfront : front.toList.isPrefixOf? (front ++ text).toList = some text.toList := by
    rw [List.isPrefixOf?_eq_some_iff_append_eq, String.toList_append]
  rw [stripPrefix, hfront, Option.map_some, String.ofList_toList]

theorem stripPrefix_other (text : String) : stripPrefix (uriFront 1) (uriFront 2 ++ text) = none := by
  have hfronts : (uriFront 1).toList = "agentpulse://pair/v".toList ++ ['1', '/'] ∧
      (uriFront 2).toList = "agentpulse://pair/v".toList ++ ['2', '/'] := by decide +kernel
  unfold stripPrefix
  rw [Option.map_eq_none_iff]
  cases hprefix : (uriFront 1).toList.isPrefixOf? (uriFront 2 ++ text).toList with
  | none => rfl
  | some rest =>
    rw [List.isPrefixOf?_eq_some_iff_append_eq, String.toList_append, hfronts.1, hfronts.2,
      List.append_assoc, List.append_assoc, List.append_cancel_left_eq] at hprefix
    cases hprefix

theorem require_bind {α : Type} {condition : Prop} [Decidable condition] {error : PairingError}
    {next : Except PairingError α} {a : α} :
    (require condition error >>= fun _ => next) = .ok a ↔ condition ∧ next = .ok a := by
  rw [bind_eq_ok]
  constructor
  · rintro ⟨u, hcondition, hnext⟩
    exact ⟨require_eq_ok.mp hcondition, hnext⟩
  · rintro ⟨hcondition, hnext⟩
    exact ⟨(), require_eq_ok.mpr hcondition, hnext⟩

/-- The discovery fields of a valid bundle are those of its version. -/
theorem validateBundle_discovery {bundle : PairingBundle} (h : validateBundle codec bundle = .ok ()) :
    (bundle.pairingVersion = 1 ∧ bundle.route = none ∧ bundle.relayEndpoint ≠ "") ∨
      (bundle.pairingVersion = 2 ∧ bundle.route = some "direct" ∧ bundle.relayEndpoint = "") := by
  unfold validateBundle at h
  obtain ⟨-, h⟩ := require_bind.mp h
  obtain ⟨-, -, h⟩ := bind_eq_ok.mp h
  obtain ⟨-, -, h⟩ := bind_eq_ok.mp h
  obtain ⟨-, -, h⟩ := bind_eq_ok.mp h
  obtain ⟨-, -, h⟩ := bind_eq_ok.mp h
  obtain ⟨-, -, h⟩ := bind_eq_ok.mp h
  obtain ⟨-, h⟩ := require_bind.mp h
  obtain ⟨-, -, h⟩ := bind_eq_ok.mp h
  obtain ⟨⟨⟩, hroute, -⟩ := bind_eq_ok.mp h
  unfold validateDiscovery at hroute
  split at hroute
  · next hone =>
    refine .inl ⟨hone.1, hone.2, ?_⟩
    intro hempty
    rw [hempty] at hroute
    cases hroute
  · split at hroute
    · next htwo => exact .inr htwo
    · cases hroute

theorem get_entries (self : PairingBundle) (name : String) :
    self.serialize.get name = self.entries.lookup name := rfl

theorem get_route (self : PairingBundle) :
    self.serialize.get "route" = self.route.map Json.string := by
  rw [get_entries]
  cases hroute : self.route with
  | none =>
    apply Serde.lookup_of_not_mem
    by_cases hrelay : self.relayEndpoint = "" <;>
      simp [PairingBundle.entries, nonEmptyEntry, someEntry, hrelay, hroute]
  | some route =>
    apply Serde.lookup_of_mem self.names_entries.2
    simp [PairingBundle.entries, someEntry, hroute]

theorem get_relayEndpoint (self : PairingBundle) :
    self.serialize.get "relay_endpoint" =
      if self.relayEndpoint = "" then none else some (.string self.relayEndpoint) := by
  rw [get_entries]
  split
  · next hrelay =>
    apply Serde.lookup_of_not_mem
    cases hroute : self.route <;>
      simp [PairingBundle.entries, nonEmptyEntry, someEntry, hrelay, hroute]
  · next hrelay =>
    apply Serde.lookup_of_mem self.names_entries.2
    simp [PairingBundle.entries, nonEmptyEntry, hrelay]

/-- The JSON document inside a URI. -/
def document (codec : PairingCodec) (uri : String) : Option Json := do
  let encoded ← (stripPrefix (uriFront 1) uri).or (stripPrefix (uriFront 2) uri)
  let bytes ← (codec.decode encoded).toOption
  (codec.fromSlice bytes).toOption

/-- The document agrees with the path of its URI and has no field of the other version. -/
def Discovers (uri : String) (value : Json) (bundle : PairingBundle) : Prop :=
  (stripPrefix (uriFront bundle.pairingVersion.toNat) uri).isSome = true ∧
    (bundle.pairingVersion = 1 →
      value.get "route" = none ∧ (value.get "relay_endpoint").isSome = true) ∧
    (bundle.pairingVersion = 2 → value.get "relay_endpoint" = none)

theorem decodePairingUri_eq_ok {now : Int} {uri : String} {bundle : PairingBundle} :
    decodePairingUri codec now uri = .ok bundle ↔
      ∃ value, document codec uri = some value ∧ PairingBundle.deserialize value = some bundle ∧
        validateBundle codec bundle = .ok () ∧ Discovers uri value bundle ∧
        now < bundle.expiresAtUnixSeconds.toInt := by
  unfold decodePairingUri document
  cases hfront : (stripPrefix (uriFront 1) uri).or (stripPrefix (uriFront 2) uri) with
  | none =>
    constructor
    · intro h
      cases h
    · rintro ⟨value, hvalue, -⟩
      cases hvalue
  | some encoded =>
    constructor
    · intro h
      obtain ⟨bytes, hbytes, h⟩ := bind_eq_ok.mp h
      obtain ⟨read, hread, h⟩ := bind_eq_ok.mp h
      obtain ⟨⟨⟩, hvalid, h⟩ := bind_eq_ok.mp h
      obtain ⟨value, hvalue, h⟩ := bind_eq_ok.mp h
      obtain ⟨value, hparsed, hvalue⟩ := readJson_eq_ok.mp hvalue
      cases hvalue
      obtain ⟨same, hsame, hread⟩ := readJson_eq_ok.mp hread
      cases hparsed.symm.trans hsame
      split at h
      · cases h
      · next hdiscovers =>
        split at h
        · cases h
        · next hfuture =>
          cases h
          rw [not_or, not_or, not_and_or, not_or] at hdiscovers
          refine ⟨value, ?_, hread, hvalid, ⟨?_, ?_, ?_⟩, Int.not_le.mp hfuture⟩
          · refine Option.bind_eq_some_iff.mpr ⟨encoded, rfl, ?_⟩
            refine Option.bind_eq_some_iff.mpr ⟨bytes, ?_, toOption_eq_some.mpr hparsed⟩
            exact toOption_eq_some.mpr (mapError_eq_ok.mp hbytes)
          · simpa [Option.isSome_iff_ne_none] using hdiscovers.1
          · intro hone
            rcases hdiscovers.2.1 with hnot | ⟨hroute, hrelay⟩
            · exact absurd hone hnot
            · exact ⟨by simpa using hroute, by simpa [Option.isSome_iff_ne_none] using hrelay⟩
          · intro htwo
            have hrelay := not_and.mp hdiscovers.2.2 htwo
            simpa using hrelay
    · rintro ⟨value, hdocument, hread, hvalid, ⟨hpath, hone, htwo⟩, hfuture⟩
      obtain ⟨found, hfound, hdocument⟩ := Option.bind_eq_some_iff.mp hdocument
      cases hfound
      obtain ⟨bytes, hbytes, hparsed⟩ := Option.bind_eq_some_iff.mp hdocument
      have hbytes' := toOption_eq_some.mp hbytes
      have hparsed' := toOption_eq_some.mp hparsed
      refine bind_eq_ok.mpr ⟨bytes, mapError_eq_ok.mpr hbytes', ?_⟩
      refine bind_eq_ok.mpr ⟨bundle, readJson_eq_ok.mpr ⟨value, hparsed', hread⟩, ?_⟩
      refine bind_eq_ok.mpr ⟨(), hvalid, ?_⟩
      refine bind_eq_ok.mpr ⟨value, readJson_eq_ok.mpr ⟨value, hparsed', rfl⟩, ?_⟩
      rw [if_neg, if_neg (Int.not_le.mpr hfuture)]
      rintro (hnone | ⟨hversion, hroute | hrelay⟩ | ⟨hversion, hrelay⟩)
      · rw [Option.isNone_iff_eq_none] at hnone
        rw [hnone] at hpath
        cases hpath
      · rw [(hone hversion).1] at hroute
        cases hroute
      · rw [Option.isNone_iff_eq_none] at hrelay
        rw [hrelay] at hone
        cases (hone hversion).2
      · rw [htwo hversion] at hrelay
        cases hrelay

theorem uriFront_version {bundle : PairingBundle} (h : validateBundle codec bundle = .ok ())
    (text : String) :
    (stripPrefix (uriFront 1) (uriFront bundle.pairingVersion.toNat ++ text)).or
        (stripPrefix (uriFront 2) (uriFront bundle.pairingVersion.toNat ++ text)) = some text := by
  rcases validateBundle_discovery h with ⟨hone, -⟩ | ⟨htwo, -⟩
  · rw [hone]
    exact congrArg (fun found => Option.or found _) (stripPrefix_append (uriFront 1) text)
  · rw [htwo]
    show (stripPrefix (uriFront 1) (uriFront 2 ++ text)).or
      (stripPrefix (uriFront 2) (uriFront 2 ++ text)) = some text
    rw [stripPrefix_other, stripPrefix_append]
    rfl

/-- A valid bundle is written, and read back while it has not expired. -/
theorem decodePairingUri_toUri {bundle : PairingBundle} {now : Int}
    (hvalid : validateBundle codec bundle = .ok ()) (hround : codec.RoundTrips bundle.serialize)
    (hfuture : now < bundle.expiresAtUnixSeconds.toInt) :
    ∃ uri, bundle.toUri codec = .ok uri ∧ decodePairingUri codec now uri = .ok bundle := by
  obtain ⟨bytes, hwritten, hread, hdecoded⟩ := hround
  refine ⟨uriFront bundle.pairingVersion.toNat ++ codec.encode bytes, ?_, ?_⟩
  · refine bind_eq_ok.mpr ⟨(), hvalid, ?_⟩
    exact bind_eq_ok.mpr ⟨bytes, mapError_eq_ok.mpr hwritten, rfl⟩
  · refine decodePairingUri_eq_ok.mpr
      ⟨_, ?_, bundle.deserialize_serialize, hvalid, ⟨?_, ?_, ?_⟩, hfuture⟩
    · refine Option.bind_eq_some_iff.mpr ⟨_, uriFront_version hvalid _, ?_⟩
      refine Option.bind_eq_some_iff.mpr ⟨bytes, toOption_eq_some.mpr hdecoded, ?_⟩
      exact toOption_eq_some.mpr hread
    · rw [stripPrefix_append]
      rfl
    · intro hversion
      rw [get_route, get_relayEndpoint]
      rcases validateBundle_discovery hvalid with ⟨-, hroute, hrelay⟩ | ⟨htwo, -⟩
      · rw [hroute, if_neg hrelay]
        exact ⟨rfl, rfl⟩
      · rw [hversion] at htwo
        cases htwo
    · intro hversion
      rw [get_relayEndpoint]
      rcases validateBundle_discovery hvalid with ⟨hone, -⟩ | ⟨-, -, hrelay⟩
      · rw [hversion] at hone
        cases hone
      · rw [if_pos hrelay]

theorem encodePairingEnvelope_eq_ok {valid : Except PairingError Unit} {message : Json}
    {bytes : List UInt8} :
    encodePairingEnvelope codec valid message = .ok bytes ↔
      valid = .ok () ∧ codec.toVec (envelope message) = .ok bytes := by
  unfold encodePairingEnvelope
  rw [bind_eq_ok]
  constructor
  · rintro ⟨⟨⟩, hvalid, hwritten⟩
    exact ⟨hvalid, mapError_eq_ok.mp hwritten⟩
  · rintro ⟨hvalid, hwritten⟩
    exact ⟨(), hvalid, mapError_eq_ok.mpr hwritten⟩

theorem decodePairingEnvelope_eq_ok {T : Type} {read : Json → Option T}
    {validate : T → Except PairingError Unit} {input : List UInt8} {message : T} :
    decodePairingEnvelope codec read validate input = .ok message ↔
      validate message = .ok () ∧ ∃ value version, codec.fromSlice input = .ok value ∧
        readEnvelope read value = some (version, message) ∧
        validatePairingVersion version = .ok () := by
  unfold decodePairingEnvelope
  constructor
  · intro h
    obtain ⟨⟨version, found⟩, hread, h⟩ := bind_eq_ok.mp h
    obtain ⟨⟨⟩, hversion, h⟩ := bind_eq_ok.mp h
    obtain ⟨⟨⟩, hvalid, h⟩ := bind_eq_ok.mp h
    cases h
    obtain ⟨value, hvalue, hread⟩ := readJson_eq_ok.mp hread
    exact ⟨hvalid, value, version, hvalue, hread, hversion⟩
  · rintro ⟨hvalid, value, version, hvalue, hread, hversion⟩
    refine bind_eq_ok.mpr ⟨_, readJson_eq_ok.mpr ⟨value, hvalue, hread⟩, ?_⟩
    refine bind_eq_ok.mpr ⟨(), hversion, ?_⟩
    exact bind_eq_ok.mpr ⟨(), hvalid, rfl⟩

/-- What is written in an envelope is read back. -/
theorem decodePairingEnvelope_encode {T : Type} {read : Json → Option T}
    {validate : T → Except PairingError Unit} {message : T} {written : Json} {bytes : List UInt8}
    (hread : read written = some message) (hround : codec.RoundTrips (envelope written))
    (hencoded : encodePairingEnvelope codec (validate message) written = .ok bytes) :
    decodePairingEnvelope codec read validate bytes = .ok message := by
  obtain ⟨hvalid, hwritten⟩ := encodePairingEnvelope_eq_ok.mp hencoded
  obtain ⟨found, hfound, hparsed, -⟩ := hround
  cases hwritten.symm.trans hfound
  exact decodePairingEnvelope_eq_ok.mpr ⟨hvalid, _, 1, hparsed, readEnvelope_envelope hread, rfl⟩

/-- What is read from an envelope can be written again, and is read back once more. -/
theorem encodePairingEnvelope_decode {T : Type} {read : Json → Option T}
    {validate : T → Except PairingError Unit} {message : T} {written : Json} {input : List UInt8}
    (hread : read written = some message) (hround : codec.RoundTrips (envelope written))
    (hdecoded : decodePairingEnvelope codec read validate input = .ok message) :
    ∃ bytes, encodePairingEnvelope codec (validate message) written = .ok bytes ∧
      decodePairingEnvelope codec read validate bytes = .ok message := by
  obtain ⟨hvalid, -⟩ := decodePairingEnvelope_eq_ok.mp hdecoded
  obtain ⟨bytes, hwritten, -⟩ := id hround
  have hencoded := encodePairingEnvelope_eq_ok.mpr ⟨hvalid, hwritten⟩
  exact ⟨bytes, hencoded, decodePairingEnvelope_encode hread hround hencoded⟩

/-- The document has a value for the field, under its name or at its position. -/
def carries (name : String) : Json → Bool
  | .object entries => (entries.lookup name).isSome
  | .array items => ((PairingBundle.fieldNames.zip items).lookup name).isSome
  | _ => false

/-- The path of the URI is for another version than its bundle, or the document carries the
discovery field of the other version. -/
def Mismatched (uri : String) (value : Json) (bundle : PairingBundle) : Prop :=
  (stripPrefix (uriFront bundle.pairingVersion.toNat) uri).isNone = true ∨
    (bundle.pairingVersion = 1 ∧ carries "route" value = true) ∨
    (bundle.pairingVersion = 2 ∧ carries "relay_endpoint" value = true)

/-- A live bundle of version two whose document is an array of its fields. -/
def Positional (codec : PairingCodec) (now : Int) (uri : String) : Prop :=
  ∃ items bundle, document codec uri = some (.array items) ∧
    PairingBundle.deserialize (.array items) = some bundle ∧ bundle.pairingVersion = 2 ∧
    (stripPrefix (uriFront 2) uri).isSome = true ∧ validateBundle codec bundle = .ok () ∧
    now < bundle.expiresAtUnixSeconds.toInt

/-- An array is a bundle only with all of its fields. -/
theorem carries_of_array {items : List Json} {bundle : PairingBundle}
    (h : PairingBundle.deserialize (.array items) = some bundle) :
    carries "relay_endpoint" (.array items) = true := by
  have hdistinct : PairingBundle.fieldNames.Nodup := by simp [PairingBundle.fieldNames]
  unfold PairingBundle.deserialize at h
  obtain ⟨fields, hfields, h⟩ := Option.bind_eq_some_iff.mp h
  cases Serde.fields_array hfields
  -- the last field of the record is required
  obtain ⟨version, -, h⟩ := Option.bind_eq_some_iff.mp h
  obtain ⟨pairing, -, h⟩ := Option.bind_eq_some_iff.mp h
  obtain ⟨host, -, h⟩ := Option.bind_eq_some_iff.mp h
  obtain ⟨hostName, -, h⟩ := Option.bind_eq_some_iff.mp h
  obtain ⟨server, -, h⟩ := Option.bind_eq_some_iff.mp h
  obtain ⟨address, -, h⟩ := Option.bind_eq_some_iff.mp h
  obtain ⟨port, -, h⟩ := Option.bind_eq_some_iff.mp h
  obtain ⟨leaf, -, h⟩ := Option.bind_eq_some_iff.mp h
  obtain ⟨token, -, h⟩ := Option.bind_eq_some_iff.mp h
  obtain ⟨relay, -, h⟩ := Option.bind_eq_some_iff.mp h
  obtain ⟨route, -, h⟩ := Option.bind_eq_some_iff.mp h
  obtain ⟨expires, hexpires, -⟩ := Option.bind_eq_some_iff.mp h
  obtain ⟨last, hlast, -⟩ := Option.bind_eq_some_iff.mp hexpires
  have hlastItem : items[11]? = some last :=
    (Serde.lookup_zip hdistinct items (show 11 < PairingBundle.fieldNames.length by decide)).symm.trans
      hlast
  obtain ⟨hlength, -⟩ := List.getElem?_eq_some_iff.mp hlastItem
  have hrelay : (PairingBundle.fieldNames.zip items).lookup "relay_endpoint" = items[9]? :=
    Serde.lookup_zip hdistinct items (show 9 < PairingBundle.fieldNames.length by decide)
  rw [carries, hrelay, List.getElem?_eq_getElem (by omega)]
  rfl

/-- Nothing but a positional bundle hides a field of the other version. -/
theorem rejects_mismatched_iff (now : Int) (uri : String) :
    (∀ value bundle, document codec uri = some value →
      PairingBundle.deserialize value = some bundle → Mismatched uri value bundle →
      ∃ error, decodePairingUri codec now uri = .error error) ↔
    ¬ Positional codec now uri := by
  constructor
  · rintro h ⟨items, bundle, hdocument, hread, hversion, hpath, hvalid, hfuture⟩
    have hmismatched : Mismatched uri (.array items) bundle :=
      .inr (.inr ⟨hversion, carries_of_array hread⟩)
    have haccepted : decodePairingUri codec now uri = .ok bundle := by
      refine decodePairingUri_eq_ok.mpr ⟨_, hdocument, hread, hvalid, ⟨?_, ?_, ?_⟩, hfuture⟩
      · rw [hversion]
        exact hpath
      · intro hone
        rw [hversion] at hone
        cases hone
      · exact fun _ => rfl
    obtain ⟨error, hrejected⟩ := h _ bundle hdocument hread hmismatched
    rw [haccepted] at hrejected
    cases hrejected
  · intro hnot value bundle hdocument hread hmismatched
    cases hresult : decodePairingUri codec now uri with
    | error error => exact ⟨error, rfl⟩
    | ok accepted =>
      obtain ⟨value', hdocument', hread', hvalid, ⟨hpath, hone, htwo⟩, hfuture⟩ :=
        decodePairingUri_eq_ok.mp hresult
      cases hdocument.symm.trans hdocument'
      cases hread.symm.trans hread'
      rcases hmismatched with hother | ⟨hversion, hroute⟩ | ⟨hversion, hrelay⟩
      · rw [Option.isNone_iff_eq_none] at hother
        rw [hother] at hpath
        cases hpath
      · obtain ⟨hnone, hsome⟩ := hone hversion
        cases value with
        | object entries =>
          have hcarried : (entries.lookup "route").isSome = true := hroute
          have habsent : entries.lookup "route" = none := hnone
          rw [habsent] at hcarried
          cases hcarried
        | array items => cases hsome
        | null | bool _ | int _ | float _ | string _ => cases hsome
      · cases value with
        | object entries =>
          have hcarried : (entries.lookup "relay_endpoint").isSome = true := hrelay
          have habsent : entries.lookup "relay_endpoint" = none := htwo hversion
          rw [habsent] at hcarried
          cases hcarried
        | array items =>
          rw [hversion] at hpath
          exact absurd ⟨items, _, hdocument, hread, hversion, hpath, hvalid, hfuture⟩ hnot
        | null | bool _ | int _ | float _ | string _ => cases hrelay

end

/-- The formats round trip, and a field of the other version is refused in every document but
a positional one. -/
theorem pairing_formats_round_trip (codec : PairingCodec) :
    (∀ (bundle : PairingBundle) (now : Int), validateBundle codec bundle = .ok () →
      now < bundle.expiresAtUnixSeconds.toInt → codec.RoundTrips bundle.serialize →
      ∃ uri, bundle.toUri codec = .ok uri ∧ decodePairingUri codec now uri = .ok bundle) ∧
    (∀ (request : PairingRequest) bytes, codec.RoundTrips (envelope request.serialize) →
      encodePairingRequest codec request = .ok bytes →
      decodePairingRequest codec bytes = .ok request) ∧
    (∀ (message : PairingServerMessage) bytes, codec.RoundTrips (envelope message.serialize) →
      encodePairingMessage codec message = .ok bytes →
      decodePairingMessage codec bytes = .ok message) ∧
    (∀ (now : Int) uri (bundle : PairingBundle), codec.RoundTrips bundle.serialize →
      decodePairingUri codec now uri = .ok bundle →
      ∃ again, bundle.toUri codec = .ok again ∧ decodePairingUri codec now again = .ok bundle) ∧
    (∀ input (request : PairingRequest), codec.RoundTrips (envelope request.serialize) →
      decodePairingRequest codec input = .ok request →
      ∃ bytes, encodePairingRequest codec request = .ok bytes ∧
        decodePairingRequest codec bytes = .ok request) ∧
    (∀ input (message : PairingServerMessage), codec.RoundTrips (envelope message.serialize) →
      decodePairingMessage codec input = .ok message →
      ∃ bytes, encodePairingMessage codec message = .ok bytes ∧
        decodePairingMessage codec bytes = .ok message) ∧
    ∀ (now : Int) uri,
      (∀ value bundle, document codec uri = some value →
        PairingBundle.deserialize value = some bundle → Mismatched uri value bundle →
        ∃ error, decodePairingUri codec now uri = .error error) ↔
      ¬ Positional codec now uri := by
  refine ⟨?_, ?_, ?_, ?_, ?_, ?_, rejects_mismatched_iff⟩
  · exact fun bundle now hvalid hfuture hround => decodePairingUri_toUri hvalid hround hfuture
  · exact fun request bytes hround h => decodePairingEnvelope_encode request.deserialize_serialize hround h
  · exact fun message bytes hround h => decodePairingEnvelope_encode message.deserialize_serialize hround h
  · intro now uri bundle hround h
    obtain ⟨value, -, -, hvalid, -, hfuture⟩ := decodePairingUri_eq_ok.mp h
    exact decodePairingUri_toUri hvalid hround hfuture
  · exact fun input request hround h => encodePairingEnvelope_decode request.deserialize_serialize hround h
  · exact fun input message hround h => encodePairingEnvelope_decode message.deserialize_serialize hround h

namespace Sample

def directBundle : PairingBundle where
  pairingVersion := 2
  pairingId := "0198f142-5a00-7000-8000-000000000001"
  hostId := "0198f142-5a00-7000-8000-000000000002"
  hostName := "Studio"
  serverName := "h.local"
  address := "10.0.0.1"
  port := 49321
  leafSha256 := "abababababababababababababababababababababababababababababababab"
  bootstrapToken := "secret"
  relayEndpoint := ""
  route := some "direct"
  expiresAtUnixSeconds := 4102444800

/-- The fields of the bundle by position, the empty endpoint of a relay among them. -/
def positionalBundle : Json :=
  .array [.int 2, .string directBundle.pairingId, .string directBundle.hostId, .string "Studio",
    .string "h.local", .string "10.0.0.1", .int 49321, .string directBundle.leafSha256,
    .string "secret", .string "", .string "direct", .int 4102444800]

def positionalText : String :=
  "[2,\"0198f142-5a00-7000-8000-000000000001\",\"0198f142-5a00-7000-8000-000000000002\"," ++
    "\"Studio\",\"h.local\",\"10.0.0.1\",49321," ++
    "\"abababababababababababababababababababababababababababababababab\"," ++
    "\"secret\",\"\",\"direct\",4102444800]"

def positionalBase64 : String :=
  "WzIsIjAxOThmMTQyLTVhMDAtNzAwMC04MDAwLTAwMDAwMDAwMDAwMSIsIjAxOThmMTQyLTVhMDAtNzAwMC04MDAwLTAw" ++
    "MDAwMDAwMDAwMiIsIlN0dWRpbyIsImgubG9jYWwiLCIxMC4wLjAuMSIsNDkzMjEsImFiYWJhYmFiYWJhYmFiYWJhYmFi" ++
    "YWJhYmFiYWJhYmFiYWJhYmFiYWJhYmFiYWJhYmFiYWJhYmFiYWJhYmFiYWIiLCJzZWNyZXQiLCIiLCJkaXJlY3QiLDQx" ++
    "MDI0NDQ4MDBd"

def positionalCodec : PairingCodec := tableCodec [positionalBundle]

def formatsRequest : PairingRequest where
  pairingId := directBundle.pairingId
  bootstrapToken := "secret"
  clientId := "0198f142-5a00-7000-8000-000000000003"
  displayName := "Pixel"
  version := some "1.2.0"

def formatsRequestText : String :=
  "\x7b\"pairing_version\":1,\"message\":\x7b\"type\":\"pair_request\"," ++
    "\"pairing_id\":\"0198f142-5a00-7000-8000-000000000001\",\"bootstrap_token\":\"secret\"," ++
    "\"client_id\":\"0198f142-5a00-7000-8000-000000000003\",\"display_name\":\"Pixel\"," ++
    "\"version\":\"1.2.0\"\x7d\x7d"

def formatsMessage : PairingServerMessage := .pending formatsRequest.clientId "Pixel"

def formatsMessageText : String :=
  "\x7b\"pairing_version\":1,\"message\":\x7b\"type\":\"pairing_pending\"," ++
    "\"client_id\":\"0198f142-5a00-7000-8000-000000000003\",\"display_name\":\"Pixel\"\x7d\x7d"

def formatsValues : List Json :=
  [directBundle.serialize, envelope formatsRequest.serialize, envelope formatsMessage.serialize]

def formatsCodec : PairingCodec := tableCodec formatsValues

theorem formatsCodec_roundTrips {value : Json} (h : value ∈ formatsValues) :
    formatsCodec.RoundTrips value := by
  have hdistinct : (formatsValues.map Json.toVec).Nodup := by decide +kernel
  refine ⟨value.toVec, rfl, ?_, ?_⟩
  · simp only [formatsCodec, tableCodec, Json.readAmong_toVec hdistinct h]
  · simp only [formatsCodec, tableCodec, Base64.decode_encode]

end Sample

open Sample in
/-- A bundle, a request and a message are written and read back, and written again. -/
theorem pairing_formats_round_trip_studio :
    (∃ uri, directBundle.toUri formatsCodec = .ok uri ∧
      decodePairingUri formatsCodec 1790000000 uri = .ok directBundle) ∧
    decodePairingRequest formatsCodec (Bytes.utf8 formatsRequestText) = .ok formatsRequest ∧
    decodePairingMessage formatsCodec (Bytes.utf8 formatsMessageText) = .ok formatsMessage ∧
    (∃ uri, directBundle.toUri formatsCodec = .ok uri) ∧
    (∃ bytes, encodePairingRequest formatsCodec formatsRequest = .ok bytes) ∧
    ∃ bytes, encodePairingMessage formatsCodec formatsMessage = .ok bytes := by
  have hbundle : formatsCodec.RoundTrips directBundle.serialize :=
    formatsCodec_roundTrips (by simp [formatsValues])
  have hrequest : formatsCodec.RoundTrips (envelope formatsRequest.serialize) :=
    formatsCodec_roundTrips (by simp [formatsValues])
  have hmessage : formatsCodec.RoundTrips (envelope formatsMessage.serialize) :=
    formatsCodec_roundTrips (by simp [formatsValues])
  obtain ⟨huri, hreq, hmsg, huri', hreq', hmsg', -⟩ := pairing_formats_round_trip formatsCodec
  obtain ⟨uri, hwritten, hread⟩ :=
    huri directBundle 1790000000 (by decide +kernel) (by decide +kernel) hbundle
  have hreadRequest := hreq formatsRequest (Bytes.utf8 formatsRequestText) hrequest (by decide +kernel)
  have hreadMessage := hmsg formatsMessage (Bytes.utf8 formatsMessageText) hmessage (by decide +kernel)
  obtain ⟨uri', hagain, -⟩ := huri' 1790000000 uri directBundle hbundle hread
  obtain ⟨bytes, hrequestAgain, -⟩ := hreq' _ formatsRequest hrequest hreadRequest
  obtain ⟨bytes', hmessageAgain, -⟩ := hmsg' _ formatsMessage hmessage hreadMessage
  exact ⟨⟨uri, hwritten, hread⟩, hreadRequest, hreadMessage, ⟨uri', hagain⟩,
    ⟨bytes, hrequestAgain⟩, bytes', hmessageAgain⟩

open Sample in
/-- A document without names passes the check for the field of the other version. -/
theorem pairing_formats_positional :
    let uri := uriFront 2 ++ positionalBase64
    document positionalCodec uri = some positionalBundle ∧
      PairingBundle.deserialize positionalBundle = some directBundle ∧
      Mismatched uri positionalBundle directBundle ∧
      decodePairingUri positionalCodec 1790000000 uri = .ok directBundle := by
  intro uri
  have hdecoded : positionalCodec.decode positionalBase64 = .ok (Bytes.utf8 positionalText) := by
    decide +kernel
  have hparsed : positionalCodec.fromSlice (Bytes.utf8 positionalText) = .ok positionalBundle := by
    decide +kernel
  have hdocument : document positionalCodec uri = some positionalBundle := by
    unfold document
    refine Option.bind_eq_some_iff.mpr ⟨positionalBase64, ?_, ?_⟩
    · rw [stripPrefix_other, stripPrefix_append]
      rfl
    · refine Option.bind_eq_some_iff.mpr ⟨Bytes.utf8 positionalText, ?_, ?_⟩
      · exact toOption_eq_some.mpr hdecoded
      · exact toOption_eq_some.mpr hparsed
  have hread : PairingBundle.deserialize positionalBundle = some directBundle := by decide +kernel
  refine ⟨hdocument, hread, .inr (.inr ⟨rfl, by decide +kernel⟩), ?_⟩
  refine decodePairingUri_eq_ok.mpr
    ⟨_, hdocument, hread, by decide +kernel, ⟨?_, ?_, fun _ => rfl⟩, by decide +kernel⟩
  · show (stripPrefix (uriFront 2) (uriFront 2 ++ positionalBase64)).isSome = true
    rw [stripPrefix_append]
    rfl
  · intro hversion
    cases hversion

end AgentPulse
