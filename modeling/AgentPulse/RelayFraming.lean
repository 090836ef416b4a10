import AgentPulse.RelayCrypto

/-!
# Frames of the control protocol

A frame is the length of its payload in four bytes, and the payload. A stream that
is read delivers its bytes in pieces of any size, with interruptions; a frame is
read to its end and not beyond it.
-/
namespace AgentPulse

open Bytes (bigEndian ofBigEndian)

inductive IoErrorKind where
  | wouldBlock | timedOut | interrupted | writeZero | unexpectedEof | other
  deriving DecidableEq, Repr

structure IoError where
  kind : IoErrorKind
  text : String
  deriving DecidableEq, Repr

/-- The largest JSON payload of a control frame. -/
def maxControlBytes : Nat := 16 * 1024

structure Sink (W : Type) where
  writeAll : W → List UInt8 → Except IoError Unit × W
  flush : W → Except IoError Unit × W

/-- A vector of bytes takes everything. -/
def byteSink : Sink (List UInt8) where
  writeAll written bytes := (.ok (), written ++ bytes)
  flush written := (.ok (), written)

/-- What the next read of a stream comes to. A piece is read in parts when it is
larger than the buffer; no bytes are the end of the file. -/
abbrev Arrival := Except IoError (List UInt8)

/-- The bytes that a stream has still to deliver. -/
def unread (arrivals : List Arrival) : List UInt8 :=
  arrivals.flatMap fun arrival => arrival.toOption.getD []

def endOfFile : IoError := ⟨.unexpectedEof, "failed to fill whole buffer"⟩

/-- `Read::read_exact` into a buffer of `n` bytes. -/
def readExact : List Arrival → (n : Nat) → Except IoError (List UInt8) × List Arrival
  | arrivals, 0 => (.ok [], arrivals)
  | [], _ + 1 => (.error endOfFile, [])
  | .error error :: arrivals, n + 1 =>
    if error.kind = .interrupted then readExact arrivals (n + 1) else (.error error, arrivals)
  | .ok bytes :: arrivals, n + 1 =>
    if bytes.length = 0 then (.error endOfFile, arrivals)
    else if bytes.length ≤ n + 1 then
      match readExact arrivals (n + 1 - bytes.length) with
      | (.ok more, arrivals) => (.ok (bytes ++ more), arrivals)
      | (.error error, arrivals) => (.error error, arrivals)
    else (.ok (bytes.take (n + 1)), .ok (bytes.drop (n + 1)) :: arrivals)

def framePayloadError : RelayError :=
  .invalidField "control_frame" "payload must be between 1 byte and 16 KiB"

def writeFrame {W : Type} (sink : Sink W) (stream : W) (payload : List UInt8) :
    Except RelayError Unit × W :=
  if payload.isEmpty ∨ payload.length > maxControlBytes then (.error framePayloadError, stream)
  else if payload.length ≥ 2 ^ 32 then
    (.error (.invalidField "control_frame" "payload length overflow"), stream)
  else
    match sink.writeAll stream (bigEndian 4 payload.length) with
    | (.error error, stream) => (.error (.io "write control-frame length" error.text), stream)
    | (.ok (), stream) =>
      match sink.writeAll stream payload with
      | (.error error, stream) => (.error (.io "write control-frame payload" error.text), stream)
      | (.ok (), stream) =>
        match sink.flush stream with
        | (.error error, stream) => (.error (.io "flush control frame" error.text), stream)
        | (.ok (), stream) => (.ok (), stream)

/-- The result of reading a frame, with the bytes set aside for its buffers. -/
structure FrameRead where
  allocated : Nat
  result : Except RelayError (List UInt8)
  rest : List Arrival

def readFrame (stream : List Arrival) : FrameRead :=
  match readExact stream 4 with
  | (.error error, stream) => ⟨4, .error (.io "read control-frame length" error.text), stream⟩
  | (.ok length, stream) =>
    let length := ofBigEndian length
    if length = 0 ∨ length > maxControlBytes then ⟨4, .error framePayloadError, stream⟩
    else
      match readExact stream length with
      | (.error error, stream) =>
        ⟨4 + length, .error (.io "read control-frame payload" error.text), stream⟩
      | (.ok payload, stream) => ⟨4 + length, .ok payload, stream⟩

@[simp] theorem unread_nil : unread [] = [] := rfl

@[simp] theorem unread_ok (bytes : List UInt8) (arrivals : List Arrival) :
    unread (.ok bytes :: arrivals) = bytes ++ unread arrivals := rfl

@[simp] theorem unread_error (error : IoError) (arrivals : List Arrival) :
    unread (.error error :: arrivals) = unread arrivals := rfl

/-- Whatever comes of it, a read takes no more than the buffer holds. -/
theorem readExact_takes (arrivals : List Arrival) (n : Nat) :
    ∃ taken, unread arrivals = taken ++ unread (readExact arrivals n).2 ∧ taken.length ≤ n := by
  induction arrivals, n using readExact.induct with
  | case1 arrivals => exact ⟨[], by rw [readExact]; rfl, Nat.le_refl 0⟩
  | case2 n => exact ⟨[], rfl, Nat.zero_le _⟩
  | case3 error arrivals n hinterrupted ih =>
    rw [readExact, if_pos hinterrupted]
    exact ih
  | case4 error arrivals n hfailed =>
    rw [readExact, if_neg hfailed]
    exact ⟨[], rfl, Nat.zero_le _⟩
  | case5 bytes arrivals n hend =>
    rw [readExact, if_pos hend]
    exact ⟨[], by simp [List.eq_nil_of_length_eq_zero hend], Nat.zero_le _⟩
  | case6 bytes arrivals n hmore hwithin more rest hread ih =>
    rw [readExact, if_neg hmore, if_pos hwithin, hread]
    rw [hread] at ih
    obtain ⟨taken, htaken, hlength⟩ := ih
    exact ⟨bytes ++ taken, by rw [unread_ok, htaken, List.append_assoc],
      by rw [List.length_append]; omega⟩
  | case7 bytes arrivals n hmore hwithin error rest hread ih =>
    rw [readExact, if_neg hmore, if_pos hwithin, hread]
    rw [hread] at ih
    obtain ⟨taken, htaken, hlength⟩ := ih
    exact ⟨bytes ++ taken, by rw [unread_ok, htaken, List.append_assoc],
      by rw [List.length_append]; omega⟩
  | case8 bytes arrivals n hmore hbeyond =>
    rw [readExact, if_neg hmore, if_neg hbeyond]
    exact ⟨bytes.take (n + 1), by simp [← List.append_assoc], List.length_take_le ..⟩

/-- Two divisions of one string: the longer front has the shorter one in front. -/
theorem split_front {a b c d : List UInt8} (h : a ++ b = c ++ d) (hlength : a.length ≤ c.length) :
    ∃ more, c = a ++ more ∧ b = more ++ d := by
  rcases List.append_eq_append_iff.mp h with hmore | ⟨more, rfl, rfl⟩
  · exact hmore
  · rw [List.length_append] at hlength
    obtain rfl := List.eq_nil_of_length_eq_zero (Nat.le_zero.mp (by omega : more.length ≤ 0))
    exact ⟨[], by simp, rfl⟩

/-- The stream neither fails nor ends before its last piece. -/
def Flows (arrivals : List Arrival) : Prop :=
  ∀ arrival ∈ arrivals, (∃ bytes, arrival = .ok bytes ∧ bytes ≠ []) ∨
    ∃ error, arrival = .error error ∧ error.kind = .interrupted

theorem Flows.tail {arrival : Arrival} {arrivals : List Arrival}
    (h : Flows (arrival :: arrivals)) : Flows arrivals :=
  fun found hfound => h found (List.mem_cons_of_mem _ hfound)

/-- A stream that flows delivers the bytes that fill the buffer, and keeps the others. -/
theorem readExact_of_flows (arrivals : List Arrival) (n : Nat) (hflows : Flows arrivals) :
    ∀ front rest, unread arrivals = front ++ rest → front.length = n →
      (readExact arrivals n).1 = .ok front ∧ unread (readExact arrivals n).2 = rest ∧
        Flows (readExact arrivals n).2 := by
  induction arrivals, n using readExact.induct with
  | case1 arrivals =>
    intro front rest hunread hlength
    obtain rfl := List.eq_nil_of_length_eq_zero hlength
    rw [readExact]
    exact ⟨rfl, hunread, hflows⟩
  | case2 n =>
    intro front rest hunread hlength
    obtain ⟨rfl, rfl⟩ := List.append_eq_nil_iff.mp hunread.symm
    cases hlength
  | case3 error arrivals n hinterrupted ih =>
    rw [readExact, if_pos hinterrupted]
    exact ih hflows.tail
  | case4 error arrivals n hfailed =>
    rcases hflows _ (List.mem_cons_self ..) with ⟨bytes, hbytes, -⟩ | ⟨found, hfound, hkind⟩
    · cases hbytes
    · cases hfound
      exact absurd hkind hfailed
  | case5 bytes arrivals n hend =>
    rcases hflows _ (List.mem_cons_self ..) with ⟨found, hfound, hsome⟩ | ⟨error, herror, -⟩
    · cases hfound
      exact absurd (List.eq_nil_of_length_eq_zero hend) hsome
    · cases herror
  | case6 bytes arrivals n hmore hwithin more after hread ih =>
    intro front rest hunread hlength
    rw [unread_ok] at hunread
    obtain ⟨front, rfl, hrest⟩ := split_front hunread (by omega)
    have hnext := ih hflows.tail front rest hrest (by rw [List.length_append] at hlength; omega)
    rw [hread] at hnext
    rw [readExact, if_neg hmore, if_pos hwithin, hread]
    cases hnext.1
    exact ⟨rfl, hnext.2⟩
  | case7 bytes arrivals n hmore hwithin error after hread ih =>
    intro front rest hunread hlength
    rw [unread_ok] at hunread
    obtain ⟨front, rfl, hrest⟩ := split_front hunread (by omega)
    have hnext := ih hflows.tail front rest hrest (by rw [List.length_append] at hlength; omega)
    rw [hread] at hnext
    cases hnext.1
  | case8 bytes arrivals n hmore hbeyond =>
    intro front rest hunread hlength
    rw [unread_ok] at hunread
    obtain ⟨more, rfl, rfl⟩ := split_front hunread.symm (by omega)
    rw [readExact, if_neg hmore, if_neg hbeyond, List.take_left' hlength, List.drop_left' hlength]
    refine ⟨rfl, rfl, ?_⟩
    intro arrival hmem
    rcases List.mem_cons.mp hmem with rfl | hlater
    · refine .inl ⟨more, rfl, ?_⟩
      rintro rfl
      rw [List.append_nil] at hbeyond
      omega
    · exact hflows.tail arrival hlater

theorem writeFrame_bytes {payload : List UInt8} (hsome : payload ≠ [])
    (hfits : payload.length ≤ maxControlBytes) :
    writeFrame byteSink [] payload = (.ok (), bigEndian 4 payload.length ++ payload) := by
  have hvalid : ¬ (payload.isEmpty = true ∨ payload.length > maxControlBytes) := by
    rintro (hempty | hover)
    · exact hsome (List.isEmpty_iff.mp hempty)
    · omega
  have hsmall : ¬ payload.length ≥ 2 ^ 32 := by
    unfold maxControlBytes at hfits
    omega
  rw [writeFrame, if_neg hvalid, if_neg hsmall]
  rfl

/-- A frame is read to its end, and what follows it stays unread. -/
theorem readFrame_frame {payload rest : List UInt8} {stream : List Arrival} (hsome : payload ≠ [])
    (hfits : payload.length ≤ maxControlBytes) (hflows : Flows stream)
    (hunread : unread stream = bigEndian 4 payload.length ++ payload ++ rest) :
    (readFrame stream).result = .ok payload ∧ unread (readFrame stream).rest = rest := by
  have hnumber : ofBigEndian (bigEndian 4 payload.length) = payload.length := by
    apply Bytes.ofBigEndian_bigEndian
    unfold maxControlBytes at hfits
    omega
  obtain ⟨hlength, hafter, hflows'⟩ := readExact_of_flows stream 4 hflows
    (bigEndian 4 payload.length) (payload ++ rest) (by rw [hunread, List.append_assoc])
    (Bytes.length_bigEndian 4 _)
  obtain ⟨hpayload, hrest, -⟩ := readExact_of_flows _ payload.length hflows' payload rest hafter rfl
  have hvalid : ¬ (payload.length = 0 ∨ payload.length > maxControlBytes) := by
    rintro (hempty | hover)
    · exact hsome (List.eq_nil_of_length_eq_zero hempty)
    · omega
  unfold readFrame
  rcases hfirst : readExact stream 4 with ⟨result, stream'⟩
  rw [hfirst] at hlength hpayload hrest
  dsimp only at hlength hpayload hrest ⊢
  subst hlength
  dsimp only
  rw [hnumber, if_neg hvalid]
  rcases hsecond : readExact stream' payload.length with ⟨result', stream''⟩
  rw [hsecond] at hpayload hrest
  dsimp only at hpayload hrest ⊢
  subst hpayload
  exact ⟨rfl, hrest⟩

/-- A frame never takes more from the stream, and never sets more aside, than the
largest frame needs. -/
theorem readFrame_bounded (stream : List Arrival) :
    (readFrame stream).allocated ≤ 4 + maxControlBytes ∧
      ∃ taken, unread stream = taken ++ unread (readFrame stream).rest ∧
        taken.length ≤ 4 + maxControlBytes := by
  obtain ⟨front, hfront, hfour⟩ := readExact_takes stream 4
  unfold readFrame
  rcases hfirst : readExact stream 4 with ⟨result, stream'⟩
  rw [hfirst] at hfront
  have hlimit : 0 < maxControlBytes := by decide
  cases result with
  | error error => exact ⟨by dsimp only; omega, front, hfront, by omega⟩
  | ok length =>
    dsimp only
    split
    · exact ⟨by dsimp only; omega, front, hfront, by omega⟩
    · next hvalid =>
      obtain ⟨taken, htaken, hlength⟩ := readExact_takes stream' (ofBigEndian length)
      have hboth : unread stream =
          (front ++ taken) ++ unread (readExact stream' (ofBigEndian length)).2 := by
        rw [hfront, htaken, List.append_assoc]
      have hcount : (front ++ taken).length ≤ 4 + maxControlBytes := by
        rw [List.length_append]
        omega
      rcases hsecond : readExact stream' (ofBigEndian length) with ⟨result', stream''⟩
      rw [hsecond] at hboth
      cases result' <;> exact ⟨by dsimp only; omega, front ++ taken, hboth, hcount⟩

end AgentPulse
