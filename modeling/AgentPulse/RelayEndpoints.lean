import AgentPulse.Numerals
import AgentPulse.PairingProtocol
import AgentPulse.RelayCrypto

/-!
# The public endpoint of the relay

The host reads an endpoint into its lowercase name and its port and writes it as an
authority again; the pairing bundle carries the authority as a text, which its own
validator only checks. Both keys of a route are derived from the authority.
-/
namespace AgentPulse

/-- `str::to_ascii_lowercase`. -/
def toAsciiLowercase (text : String) : String := String.ofList (text.toList.map Char.toLower)

/-- `str::trim`. -/
def trim (text : List Char) : List Char :=
  ((text.dropWhile isWhitespace).reverse.dropWhile isWhitespace).reverse

def relayInvalid {α : Type} (field reason : String) : Except RelayError α :=
  .error (.invalidField field reason)

def validateHost (host : String) : Except RelayError Unit :=
  let text := host.toList
  if text.isEmpty ∨ 253 < host.utf8ByteSize ∨ text.getLast? = some '.' ∨
      (IpAddr.parse host).isSome ∨ isAscii text = false then
    relayInvalid "host" "must be a canonical ASCII DNS name"
  else if (text.splitOn '.').all (dnsLabel Char.isLower) = false then
    relayInvalid "host" "contains an invalid DNS label"
  else if text.contains '.' = false then
    relayInvalid "host" "must contain at least two DNS labels"
  else .ok ()

namespace RelayEndpoint

def new (host : String) (port : UInt16) : Except RelayError RelayEndpoint := do
  let host := toAsciiLowercase host
  validateHost host
  if port = 0 then relayInvalid "port" "must be non-zero" else .ok ⟨host, port⟩

def fromStr (value : String) : Except RelayError RelayEndpoint :=
  let text := trim value.toList
  -- a double slash has a slash in it
  if text.any (fun c => "/?#@".toList.contains c) = true then
    relayInvalid "endpoint" "must be a DNS name and port without a scheme or path"
  else
    match rsplitOnce ':' text with
    | none => relayInvalid "endpoint" "must use host:port"
    | some (host, port) =>
      match parseU16 port with
      | none => relayInvalid "endpoint" "port is invalid"
      | some port => new (String.ofList host) (UInt16.ofNat port)

/-- The name passes its validation, the port is not zero, and the written endpoint is read
back. -/
structure Canonical (e : RelayEndpoint) : Prop where
  host : validateHost e.host = .ok ()
  port : e.port ≠ 0
  read : fromStr e.authority = .ok e

end RelayEndpoint

theorem rsplitOnce_append {separator : Char} {front back : List Char} (h : separator ∉ back) :
    rsplitOnce separator (front ++ separator :: back) = some (front, back) := by
  have hback : ∀ c ∈ back.reverse, (c != separator) = true := by
    intro c hc
    rw [bne_iff_ne]
    rintro rfl
    exact h (List.mem_reverse.mp hc)
  have hreverse : (front ++ separator :: back).reverse =
      back.reverse ++ separator :: front.reverse := by simp
  have hdrop : (back.reverse ++ separator :: front.reverse).dropWhile (· != separator) =
      separator :: front.reverse := by
    rw [List.dropWhile_append_of_pos hback, List.dropWhile_cons_of_neg (by simp)]
  have htake : (back.reverse ++ separator :: front.reverse).takeWhile (· != separator) =
      back.reverse := by
    rw [List.takeWhile_append_of_pos hback, List.takeWhile_cons_of_neg (by simp), List.append_nil]
  rw [rsplitOnce, hreverse, hdrop, htake]
  simp

theorem rsplitOnce_eq_some {separator : Char} {text front back : List Char} :
    rsplitOnce separator text = some (front, back) ↔
      text = front ++ separator :: back ∧ separator ∉ back := by
  constructor
  · intro h
    have hwhole := List.takeWhile_append_dropWhile (p := (· != separator)) (l := text.reverse)
    simp only [rsplitOnce] at h
    split at h
    · cases h
    · rename_i c rest hdrop
      have hseparator : c = separator := by
        have hhead := List.head?_dropWhile_not (· != separator) text.reverse
        rw [hdrop] at hhead
        simpa using hhead
      simp only [Option.some.injEq, Prod.mk.injEq] at h
      obtain ⟨rfl, rfl⟩ := h
      rw [hdrop, hseparator] at hwhole
      constructor
      · calc text = text.reverse.reverse := text.reverse_reverse.symm
          _ = (text.reverse.takeWhile (· != separator) ++ separator :: rest).reverse := by
            rw [hwhole]
          _ = _ := by simp
      · intro hmem
        have hpassed := List.mem_takeWhile_imp (List.mem_reverse.mp hmem)
        simp at hpassed
  · rintro ⟨rfl, hback⟩
    exact rsplitOnce_append hback

/-- The characters of a checked name. -/
def HostChar (c : Char) : Prop := c = '.' ∨ c.isLower = true ∨ c.isDigit = true ∨ c = '-'

theorem hostChar_of_labels {host : List Char}
    (h : (host.splitOn '.').all (dnsLabel Char.isLower) = true) {c : Char} (hc : c ∈ host) :
    HostChar c := by
  rcases Numerals.mem_part '.' hc with hdot | ⟨label, hlabel, hmem⟩
  · exact .inl hdot
  · have hvalid := List.all_eq_true.mp h label hlabel
    simp only [dnsLabel, Bool.and_eq_true, List.all_eq_true] at hvalid
    have hchar := hvalid.2 c hmem
    rw [Bool.or_eq_true, Bool.or_eq_true, beq_iff_eq] at hchar
    rcases hchar with (hlower | hdigit) | hdash
    · exact .inr (.inl hlower)
    · exact .inr (.inr (.inl hdigit))
    · exact .inr (.inr (.inr hdash))

theorem range_of_hostChar {c : Char} (h : HostChar c) :
    c = '.' ∨ (97 ≤ c.toNat ∧ c.toNat ≤ 122) ∨ (48 ≤ c.toNat ∧ c.toNat ≤ 57) ∨ c = '-' := by
  rcases h with hdot | hlower | hdigit | hdash
  · exact .inl hdot
  · rw [Char.isLower, Bool.and_eq_true, decide_eq_true_eq, decide_eq_true_eq] at hlower
    exact .inr (.inl hlower)
  · rw [Char.isDigit, Bool.and_eq_true, decide_eq_true_eq, decide_eq_true_eq] at hdigit
    exact .inr (.inr (.inl hdigit))
  · exact .inr (.inr (.inr hdash))

theorem not_isUpper_of_hostChar {c : Char} (h : HostChar c) : ¬c.isUpper = true := by
  intro hupper
  rw [Char.isUpper, decide_eq_true_eq] at hupper
  obtain ⟨hlow, hhigh⟩ := hupper
  change 65 ≤ c.toNat at hlow
  change c.toNat ≤ 90 at hhigh
  rcases range_of_hostChar h with rfl | hlower | hdigit | rfl
  · exact absurd hlow (by decide)
  · omega
  · omega
  · exact absurd hlow (by decide)

theorem toLower_of_hostChar {c : Char} (h : HostChar c) : c.toLower = c := by
  have hupper := not_isUpper_of_hostChar h
  rw [Char.isUpper, decide_eq_true_eq] at hupper
  rw [Char.toLower, dif_neg hupper]

theorem not_isWhitespace_of_hostChar {c : Char} (h : HostChar c) : isWhitespace c = false := by
  rcases range_of_hostChar h with rfl | hlower | hdigit | rfl
  · rfl
  · simp only [isWhitespace, Bool.or_eq_false_iff, Bool.and_eq_false_iff, decide_eq_false_iff_not,
      beq_eq_false_iff_ne]
    omega
  · simp only [isWhitespace, Bool.or_eq_false_iff, Bool.and_eq_false_iff, decide_eq_false_iff_not,
      beq_eq_false_iff_ne]
    omega
  · rfl

/-- No character of a name separates the parts of an address. -/
theorem not_delimiter_of_hostChar {c : Char} (h : HostChar c) : c ∉ ":/?#@".toList := by
  intro hmem
  have hcases : c = ':' ∨ c = '/' ∨ c = '?' ∨ c = '#' ∨ c = '@' := by simpa using hmem
  rcases hcases with rfl | rfl | rfl | rfl | rfl
  all_goals exact absurd (range_of_hostChar h) (by decide)

theorem validateHost_eq_ok {host : String} {u : Unit} :
    validateHost host = .ok u ↔ canonicalDnsName host.toList = true := by
  have hlength : byteLength host.toList = host.utf8ByteSize := by
    rw [byteLength, String.ofList_toList]
  simp only [canonicalDnsName, hlength, String.ofList_toList, Bool.and_eq_true, Bool.not_eq_true',
    decide_eq_true_eq]
  constructor
  · intro h
    simp only [validateHost, relayInvalid] at h
    split at h
    · cases h
    · rename_i hname
      split at h
      · cases h
      · rename_i hlabels
        split at h
        · cases h
        · rename_i hdot
          push Not at hname
          rw [Bool.not_eq_false] at hlabels hdot
          obtain ⟨hsome, hlong, -, haddress, hascii⟩ := hname
          have hchars : ∀ c ∈ host.toList, HostChar c := fun c hc => hostChar_of_labels hlabels hc
          refine ⟨⟨⟨⟨⟨⟨?_, hlong⟩, hdot⟩, ?_⟩, by simpa using hascii⟩, by simpa using haddress⟩, hlabels⟩
          · rw [List.contains_eq_mem, decide_eq_false_iff_not]
            intro hcolon
            exact not_delimiter_of_hostChar (hchars _ hcolon) (by decide)
          · rw [List.any_eq_false]
            intro c hc hupper
            exact not_isUpper_of_hostChar (hchars c hc) hupper
  · rintro ⟨⟨⟨⟨⟨⟨-, hlong⟩, hdot⟩, -⟩, hascii⟩, haddress⟩, hlabels⟩
    have hsome : host.toList ≠ [] := by
      rintro hnone
      rw [hnone] at hdot
      cases hdot
    have hend : host.toList.getLast? ≠ some '.' := by
      intro hlast
      have hempty := List.all_eq_true.mp hlabels [] (Numerals.nil_mem_splitOn hlast)
      simp [dnsLabel] at hempty
    rw [validateHost, if_neg, if_neg (by rw [hlabels]; simp), if_neg (by rw [hdot]; simp)]
    push Not
    exact ⟨by simpa using hsome, hlong, hend, by simpa using haddress, by simp [hascii]⟩

theorem colon_not_mem_toDigits (value : Nat) : ':' ∉ Nat.toDigits 10 value := by
  intro h
  have hdigit := Nat.isDigit_of_mem_toDigits (by decide) (by decide) h
  exact absurd hdigit (by decide)

theorem parseU16_toDigits {value : Nat} (h : value < 2 ^ 16) :
    parseU16 (Nat.toDigits 10 value) = some value := by
  have hdigits := Numerals.all_isDigit_toDigits value
  obtain ⟨c, rest, htext⟩ := List.exists_cons_of_ne_nil (Nat.toDigits_ne_nil (n := value) (b := 10))
  have hplus : c ≠ '+' := by
    rintro rfl
    rw [htext] at hdigits
    cases hdigits
  have hvalue : Nat.ofDigitChars 10 (c :: rest) 0 = value := by
    rw [← htext]
    exact Nat.ofDigitChars_toDigits (by decide) (by decide)
  rw [htext] at hdigits ⊢
  unfold parseU16
  split
  case h_1 heq => exact absurd (List.cons.inj heq).1 hplus
  case h_2 =>
    rw [if_neg (by rw [hdigits]; simp), hvalue, if_pos h]

/-- A port that is read is at most an added plus sign away from its digits. -/
theorem digits_of_parseU16 {text : List Char} {value : Nat} (h : parseU16 text = some value) :
    value < 2 ^ 16 ∧ ∃ digits, (text = digits ∨ text = '+' :: digits) ∧ digits ≠ [] ∧
      digits.all Char.isDigit = true ∧ Nat.ofDigitChars 10 digits 0 = value := by
  have hread : ∀ digits : List Char,
      (if (digits.isEmpty || !digits.all Char.isDigit) = true then none
        else if Nat.ofDigitChars 10 digits 0 < 2 ^ 16 then some (Nat.ofDigitChars 10 digits 0)
          else none) = some value →
      value < 2 ^ 16 ∧ digits ≠ [] ∧ digits.all Char.isDigit = true ∧
        Nat.ofDigitChars 10 digits 0 = value := by
    intro digits hdigits
    split at hdigits
    · cases hdigits
    · rename_i hvalid
      split at hdigits
      · rename_i hsmall
        obtain rfl := Option.some.inj hdigits
        simp only [Bool.or_eq_true, Bool.not_eq_true', not_or, List.isEmpty_iff,
          Bool.not_eq_false] at hvalid
        exact ⟨hsmall, hvalid.1, hvalid.2, rfl⟩
      · cases hdigits
  unfold parseU16 at h
  split at h
  case h_1 rest =>
    obtain ⟨hsmall, hsome, hall, hvalue⟩ := hread rest h
    exact ⟨hsmall, rest, .inr rfl, hsome, hall, hvalue⟩
  case h_2 =>
    obtain ⟨hsmall, hsome, hall, hvalue⟩ := hread text h
    exact ⟨hsmall, text, .inl rfl, hsome, hall, hvalue⟩

/-- A port spelled without a plus sign and without a leading zero is spelled as it is
written. -/
theorem spelling_iff {text : List Char} {value : Nat} (h : parseU16 text = some value)
    (hvalue : value ≠ 0) :
    text = Nat.toDigits 10 value ↔ text.head? ≠ some '+' ∧ text.head? ≠ some '0' := by
  constructor
  · rintro rfl
    refine ⟨?_, Numerals.head_toDigits (Nat.pos_of_ne_zero hvalue)⟩
    intro hplus
    have hdigit := Nat.isDigit_of_mem_toDigits (by decide) (by decide) (List.mem_of_head? hplus)
    exact absurd hdigit (by decide)
  · rintro ⟨hplus, hzero⟩
    obtain ⟨-, digits, rfl | rfl, hsome, hall, hread⟩ := digits_of_parseU16 h
    · rw [← hread, Numerals.toDigits_of_leading hall hsome hzero]
    · exact absurd rfl hplus

/-- No character of a port separates the parts of an address. -/
theorem portChar_of_parseU16 {text : List Char} {value : Nat} (h : parseU16 text = some value)
    {c : Char} (hc : c ∈ text) : c = '+' ∨ (48 ≤ c.toNat ∧ c.toNat ≤ 57) := by
  have hdigit : ∀ digits : List Char, digits.all Char.isDigit = true → c ∈ digits →
      48 ≤ c.toNat ∧ c.toNat ≤ 57 := by
    intro digits hall hmem
    have hchar := List.all_eq_true.mp hall c hmem
    rw [Char.isDigit, Bool.and_eq_true, decide_eq_true_eq, decide_eq_true_eq] at hchar
    exact hchar
  obtain ⟨-, digits, rfl | rfl, -, hall, -⟩ := digits_of_parseU16 h
  · exact .inr (hdigit _ hall hc)
  · rcases List.mem_cons.mp hc with hplus | hrest
    · exact .inl hplus
    · exact .inr (hdigit _ hall hrest)

theorem RelayEndpoint.toList_authority (self : RelayEndpoint) :
    self.authority.toList = self.host.toList ++ ':' :: Nat.toDigits 10 self.port.toNat := by
  simp only [RelayEndpoint.authority, String.toList_append, Nat.toString_eq_repr, Nat.toList_repr,
    List.append_assoc]
  rfl

theorem hostChars_of_canonical {host : List Char} (h : canonicalDnsName host = true) {c : Char}
    (hc : c ∈ host) : HostChar c := by
  simp only [canonicalDnsName, Bool.and_eq_true] at h
  exact hostChar_of_labels h.2 hc

/-- A character of an authority is no blank and no delimiter of an address. -/
theorem authorityChar {host port : List Char} {value : Nat} (hhost : canonicalDnsName host = true)
    (hport : parseU16 port = some value) {c : Char} (hc : c ∈ host ++ ':' :: port) :
    isWhitespace c = false ∧ "/?#@".toList.contains c = false := by
  have hdelimiter : c ∉ "/?#@".toList → "/?#@".toList.contains c = false := by
    intro h
    rw [List.contains_eq_mem, decide_eq_false_iff_not]
    exact h
  rcases List.mem_append.mp hc with hname | hrest
  · have hchar := hostChars_of_canonical hhost hname
    refine ⟨not_isWhitespace_of_hostChar hchar, hdelimiter fun hmem => ?_⟩
    exact not_delimiter_of_hostChar hchar (List.mem_cons_of_mem _ hmem)
  · rcases List.mem_cons.mp hrest with rfl | hdigits
    · exact ⟨rfl, by decide⟩
    · rcases portChar_of_parseU16 hport hdigits with rfl | hdigit
      · exact ⟨rfl, by decide⟩
      · have hchar : HostChar c := by
          refine .inr (.inr (.inl ?_))
          rw [Char.isDigit, Bool.and_eq_true, decide_eq_true_eq, decide_eq_true_eq]
          exact hdigit
        refine ⟨not_isWhitespace_of_hostChar hchar, hdelimiter fun hmem => ?_⟩
        exact not_delimiter_of_hostChar hchar (List.mem_cons_of_mem _ hmem)

theorem colon_not_mem_of_parseU16 {text : List Char} {value : Nat}
    (h : parseU16 text = some value) : ':' ∉ text := by
  intro hmem
  exact absurd (portChar_of_parseU16 h hmem) (by decide)

theorem any_false_of_forall {p : Char → Bool} {text : List Char} (h : ∀ c ∈ text, p c = false) :
    text.head?.any p = false ∧ text.getLast?.any p = false := by
  constructor
  · cases hhead : text.head? with
    | none => rfl
    | some c => exact h c (List.mem_of_head? hhead)
  · cases hlast : text.getLast? with
    | none => rfl
    | some c => exact h c (List.mem_of_getLast? hlast)

/-- What the validator of bundles accepts: a checked name and any spelling of a port. -/
theorem validateRelayEndpoint_eq_ok {endpoint : String} :
    validateRelayEndpoint endpoint = .ok () ↔
      ∃ host port value, endpoint.toList = host ++ ':' :: port ∧ canonicalDnsName host = true ∧
        parseU16 port = some value ∧ value ≠ 0 := by
  constructor
  · intro h
    simp only [validateRelayEndpoint, Fallible.bind_eq_ok, require_eq_ok] at h
    obtain ⟨-, -, h⟩ := h
    split at h
    · cases h
    · rename_i host port hsplit
      obtain ⟨-, hhost, hport⟩ := by simpa only [Fallible.bind_eq_ok, require_eq_ok] using h
      rw [Option.any_eq_true] at hport
      obtain ⟨value, hvalue, hpositive⟩ := hport
      exact ⟨host, port, value, (rsplitOnce_eq_some.mp hsplit).1, hhost, hvalue,
        by simpa using hpositive⟩
  · rintro ⟨host, port, value, htext, hhost, hport, hvalue⟩
    have hchars : ∀ c ∈ endpoint.toList,
        isWhitespace c = false ∧ "/?#@".toList.contains c = false := by
      intro c hc
      rw [htext] at hc
      exact authorityChar hhost hport hc
    obtain ⟨hhead, hlast⟩ := any_false_of_forall fun c hc => (hchars c hc).1
    have hdelimiter : (endpoint.toList.any fun c => "/?#@".toList.contains c) = false := by
      rw [List.any_eq_false]
      intro c hc
      rw [(hchars c hc).2]
      simp
    have hsplit : rsplitOnce ':' endpoint.toList = some (host, port) :=
      rsplitOnce_eq_some.mpr ⟨htext, colon_not_mem_of_parseU16 hport⟩
    simp only [validateRelayEndpoint, Fallible.bind_eq_ok, require_eq_ok]
    refine ⟨(), ⟨hhead, hlast, hdelimiter⟩, ?_⟩
    rw [hsplit]
    simp only [Fallible.bind_eq_ok, require_eq_ok]
    refine ⟨(), hhost, ?_⟩
    rw [hport]
    simpa using hvalue

theorem RelayEndpoint.new_eq_ok {host : String} {port : UInt16} {e : RelayEndpoint} :
    RelayEndpoint.new host port = .ok e ↔
      e = ⟨toAsciiLowercase host, port⟩ ∧ canonicalDnsName e.host.toList = true ∧ port ≠ 0 := by
  simp only [RelayEndpoint.new, Fallible.bind_eq_ok, validateHost_eq_ok]
  constructor
  · rintro ⟨-, hhost, h⟩
    split at h
    · cases h
    · rename_i hport
      obtain rfl := Except.ok.inj h
      exact ⟨rfl, hhost, hport⟩
  · rintro ⟨rfl, hhost, hport⟩
    exact ⟨(), hhost, if_neg hport⟩

theorem toAsciiLowercase_of_canonical {host : String} (h : canonicalDnsName host.toList = true) :
    toAsciiLowercase host = host := by
  have hsame : host.toList.map Char.toLower = host.toList := by
    refine (List.map_congr_left fun c hc => ?_).trans (List.map_id _)
    exact toLower_of_hostChar (hostChars_of_canonical h hc)
  rw [toAsciiLowercase, hsame, String.ofList_toList]

/-- The written endpoints are the texts of a checked name and the numeral of a port. -/
theorem exists_authority_iff {text : String} :
    (∃ host port e, RelayEndpoint.new host port = .ok e ∧ text = e.authority) ↔
      ∃ host value, text.toList = host ++ ':' :: Nat.toDigits 10 value ∧
        canonicalDnsName host = true ∧ value < 2 ^ 16 ∧ value ≠ 0 := by
  constructor
  · rintro ⟨host, port, e, hnew, rfl⟩
    obtain ⟨rfl, hhost, hport⟩ := RelayEndpoint.new_eq_ok.mp hnew
    refine ⟨_, port.toNat, RelayEndpoint.toList_authority _, hhost, port.toNat_lt, ?_⟩
    intro hzero
    exact hport (UInt16.toNat_inj.mp hzero)
  · rintro ⟨host, value, htext, hhost, hsmall, hvalue⟩
    have hname : canonicalDnsName (String.ofList host).toList = true := by
      rw [String.toList_ofList]
      exact hhost
    have hport : (UInt16.ofNat value).toNat = value := UInt16.toNat_ofNat_of_lt hsmall
    refine ⟨String.ofList host, UInt16.ofNat value, ⟨String.ofList host, UInt16.ofNat value⟩,
      RelayEndpoint.new_eq_ok.mpr ⟨?_, hname, ?_⟩, ?_⟩
    · rw [toAsciiLowercase_of_canonical hname]
    · rintro hzero
      rw [hzero] at hport
      exact hvalue hport.symm
    · apply String.toList_injective
      rw [htext, RelayEndpoint.toList_authority, String.toList_ofList, hport]

/-- The port of a text that the validator could accept is spelled without a plus sign and
without leading zeros. -/
def PlainPort (endpoint : String) : Prop :=
  ∀ host port value, rsplitOnce ':' endpoint.toList = some (host, port) →
    canonicalDnsName host = true → parseU16 port = some value → value ≠ 0 →
    port.head? ≠ some '+' ∧ port.head? ≠ some '0'

/-- The validator of bundles accepts the written endpoints and nothing else exactly on the
texts whose port is spelled plainly. -/
theorem validateRelayEndpoint_iff (endpoint : String) :
    (validateRelayEndpoint endpoint = .ok () ↔
      ∃ host port e, RelayEndpoint.new host port = .ok e ∧ endpoint = e.authority) ↔
      PlainPort endpoint := by
  rw [validateRelayEndpoint_eq_ok, exists_authority_iff]
  constructor
  · intro h host port value hsplit hhost hport hvalue
    obtain ⟨htext, hcolon⟩ := rsplitOnce_eq_some.mp hsplit
    obtain ⟨host', value', htext', -, hsmall', -⟩ := h.mp ⟨host, port, value, htext, hhost, hport, hvalue⟩
    have hsplit' := rsplitOnce_eq_some.mpr ⟨htext', colon_not_mem_toDigits value'⟩
    obtain ⟨rfl, rfl⟩ := Prod.mk.inj (Option.some.inj (hsplit.symm.trans hsplit'))
    obtain rfl := Option.some.inj (hport.symm.trans (parseU16_toDigits hsmall'))
    exact (spelling_iff hport hvalue).mp rfl
  · intro hplain
    constructor
    · rintro ⟨host, port, value, htext, hhost, hport, hvalue⟩
      have hsplit := rsplitOnce_eq_some.mpr ⟨htext, colon_not_mem_of_parseU16 hport⟩
      have hspelling := (spelling_iff hport hvalue).mpr (hplain host port value hsplit hhost hport hvalue)
      obtain ⟨hsmall, -⟩ := digits_of_parseU16 hport
      rw [hspelling] at htext
      exact ⟨host, value, htext, hhost, hsmall, hvalue⟩
    · rintro ⟨host, value, htext, hhost, hsmall, hvalue⟩
      exact ⟨host, _, value, htext, hhost, parseU16_toDigits hsmall, hvalue⟩

/-- A bundle may carry a port with a plus sign, which no endpoint is written with. -/
theorem validateRelayEndpoint_plus :
    ¬∀ endpoint : String, validateRelayEndpoint endpoint = .ok () ↔
      ∃ host port e, RelayEndpoint.new host port = .ok e ∧ endpoint = e.authority := by
  intro h
  have haccepted : validateRelayEndpoint "relay.example.com:+443" = .ok () := by decide +kernel
  obtain ⟨host, value, htext, -, -, -⟩ := exists_authority_iff.mp ((h _).mp haccepted)
  have hwritten := rsplitOnce_eq_some.mpr ⟨htext, colon_not_mem_toDigits value⟩
  have hsplit : rsplitOnce ':' "relay.example.com:+443".toList =
      some ("relay.example.com".toList, "+443".toList) := by decide +kernel
  have hport : "+443".toList = Nat.toDigits 10 value :=
    (Prod.mk.inj (Option.some.inj (hsplit.symm.trans hwritten))).2
  have hplus : '+' ∈ Nat.toDigits 10 value := by
    rw [← hport]
    decide
  have hdigit := Nat.isDigit_of_mem_toDigits (by decide) (by decide) hplus
  exact absurd hdigit (by decide)

end AgentPulse
