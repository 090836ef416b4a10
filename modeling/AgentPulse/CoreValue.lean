import Mathlib

/-!
# Domain values of the core crate

Identifiers, texts, instants and counters with the invariant that their
constructors check. A value of one of these types can only be built through
the check, so no later module has to validate it again.

The eleven identifier types, the two counters and the two component kinds are
families produced by one macro each in the source. Here each family is one
type indexed by the member, and the index carries the member's own texts.
-/
namespace AgentPulse

/-- Every error a domain constructor or a correlation check can raise. -/
inductive DomainError where
  | blankText (field : String)
  | invalidKind (field value : String)
  | invalidId (entity value : String)
  | invalidTimestamp (value : Int)
  | zeroValue (field : String)
  | invalidTimeOrder (earlierField laterField : String)
  | emptyCollection (field : String)
  | duplicateId (field value : String)
  | duplicateValue (field value : String)
  | invalidProgress (completed total : Nat)
  | invalidChoiceSelection (reason : String)
  | correlationMismatch (field expected actual : String)
  | interactionTypeMismatch
  | interactionExpired
  | approvalUnavailable
  | unknownApprovalOption (option : String)
  | unknownChoiceOption (option : String)
  deriving DecidableEq, Repr

structure Uuid where
  value : BitVec 128
  deriving DecidableEq, Repr

namespace Uuid

/-- The high nibble of byte six, counted from the most significant byte. -/
def getVersionNum (u : Uuid) : Nat := (u.value >>> 76).toNat % 16

def hexDigit (n : Nat) : Char :=
  if n < 10 then Char.ofNat ('0'.toNat + n) else Char.ofNat ('a'.toNat + (n - 10))

/-- `count` hexadecimal digits starting at digit `first` of the thirty-two. -/
def digits (u : Uuid) (first count : Nat) : List Char :=
  (List.range count).map fun i => hexDigit ((u.value >>> (4 * (31 - (first + i)))).toNat % 16)

/-- The canonical hyphenated lowercase rendering. -/
def toString (u : Uuid) : String :=
  String.ofList (u.digits 0 8 ++ '-' :: u.digits 8 4 ++ '-' :: u.digits 12 4 ++
    '-' :: u.digits 16 4 ++ '-' :: u.digits 20 12)

def hexValue (c : Char) : Option Nat :=
  if '0' ≤ c ∧ c ≤ '9' then some (c.toNat - '0'.toNat)
  else if 'a' ≤ c ∧ c ≤ 'f' then some (c.toNat - 'a'.toNat + 10)
  else if 'A' ≤ c ∧ c ≤ 'F' then some (c.toNat - 'A'.toNat + 10)
  else none

/-- Thirty-two hexadecimal digits, most significant first. -/
def parseSimple (cs : List Char) : Option Uuid :=
  if cs.length = 32 then
    (cs.foldl (fun acc c => acc.bind fun n => (hexValue c).map (16 * n + ·)) (some 0)).map
      fun n => ⟨BitVec.ofNat 128 n⟩
  else none

/-- Thirty-six characters with hyphens at positions 8, 13, 18 and 23. -/
def parseHyphenated (cs : List Char) : Option Uuid :=
  if cs.length = 36 ∧ cs[8]? = some '-' ∧ cs[13]? = some '-' ∧ cs[18]? = some '-' ∧
      cs[23]? = some '-' then
    parseSimple (cs.take 8 ++ (cs.drop 9).take 4 ++ (cs.drop 14).take 4 ++
      (cs.drop 19).take 4 ++ cs.drop 24)
  else none

/-- The simple, hyphenated, braced and URN forms that the uuid crate accepts. -/
def parseStr (s : String) : Option Uuid :=
  let cs := s.toList
  if cs.length = 32 then parseSimple cs
  else if cs.length = 36 then parseHyphenated cs
  else if cs.length = 38 ∧ cs.head? = some '\x7b' ∧ cs.getLast? = some '\x7d' then
    parseHyphenated ((cs.drop 1).take 36)
  else if cs.length = 45 ∧ cs.take 9 = "urn:uuid:".toList then parseHyphenated (cs.drop 9)
  else none

end Uuid

inductive IdKind where
  | provider | channel | session | event | interaction | command | planItem | choiceOption
  | formField | approvalOption | toolCall
  deriving DecidableEq, Repr

/-- The entity name each identifier type reports in its errors. -/
def IdKind.entity : IdKind → String
  | .provider => "provider ID"
  | .channel => "channel ID"
  | .session => "session ID"
  | .event => "event ID"
  | .interaction => "interaction ID"
  | .command => "command ID"
  | .planItem => "plan item ID"
  | .choiceOption => "choice option ID"
  | .formField => "form field ID"
  | .approvalOption => "approval option ID"
  | .toolCall => "tool call ID"

/-- A strongly typed identifier. Only UUID version seven can be wrapped. -/
structure Ident (kind : IdKind) where
  uuid : Uuid
  version7 : uuid.getVersionNum = 7
  deriving DecidableEq, Repr

abbrev ProviderId := Ident .provider
abbrev ChannelId := Ident .channel
abbrev SessionId := Ident .session
abbrev EventId := Ident .event
abbrev InteractionId := Ident .interaction
abbrev CommandId := Ident .command
abbrev PlanItemId := Ident .planItem
abbrev ChoiceOptionId := Ident .choiceOption
abbrev FormFieldId := Ident .formField
abbrev ApprovalOptionId := Ident .approvalOption
abbrev ToolCallId := Ident .toolCall

namespace Ident

variable {k : IdKind}

def tryFromUuid (k : IdKind) (value : Uuid) : Except DomainError (Ident k) :=
  if h : value.getVersionNum = 7 then .ok ⟨value, h⟩
  else .error (.invalidId k.entity value.toString)

def fromStr (k : IdKind) (value : String) : Except DomainError (Ident k) :=
  match Uuid.parseStr value with
  | none => .error (.invalidId k.entity value)
  | some uuid => tryFromUuid k uuid

def toString (i : Ident k) : String := i.uuid.toString

/-- A version-seven identifier with a chosen low part, for concrete runs of the
model. Real identifiers carry a time and random bits there. -/
def numbered (k : IdKind) (n : Nat) : Ident k :=
  ⟨⟨BitVec.ofNat 128 (7 * 2 ^ 76 + n % 2 ^ 62)⟩, by
    have hn : n % 2 ^ 62 < 2 ^ 62 := Nat.mod_lt _ (by decide)
    simp only [Uuid.getVersionNum, BitVec.toNat_ushiftRight, BitVec.toNat_ofNat,
      Nat.shiftRight_eq_div_pow]
    omega⟩

/-- Byte order of the UUID, which is the order of every ordered map below. -/
instance : Ord (Ident k) := ⟨compareOn fun i => i.uuid.value.toNat⟩

instance : Std.TransOrd (Ident k) :=
  inferInstanceAs (Std.TransCmp (compareOn fun i : Ident k => i.uuid.value.toNat))

instance : Std.LawfulEqOrd (Ident k) where
  eq_of_compare := by
    intro a b h
    have hn : a.uuid.value.toNat = b.uuid.value.toNat := Std.LawfulEqOrd.eq_of_compare (α := Nat) h
    obtain ⟨⟨a⟩, ha⟩ := a
    obtain ⟨⟨b⟩, hb⟩ := b
    cases BitVec.eq_of_toNat_eq hn
    rfl

end Ident

/-- The Unicode White_Space property, as `char::is_whitespace` decides it. -/
def isWhitespace (c : Char) : Bool :=
  let n := c.toNat
  (9 ≤ n && n ≤ 13) || n == 0x20 || n == 0x85 || n == 0xA0 || n == 0x1680 ||
    (0x2000 ≤ n && n ≤ 0x200A) || n == 0x2028 || n == 0x2029 || n == 0x202F || n == 0x205F ||
    n == 0x3000

/-- `value.trim().is_empty()`. -/
def isBlank (value : String) : Bool := value.toList.all isWhitespace

/-- A text is not blank if it does not begin with white space. -/
theorem isBlank_cons {c : Char} {cs : List Char} (h : isWhitespace c = false) :
    isBlank (String.ofList (c :: cs)) = false := by
  simp [isBlank, h]

structure NonEmptyText where
  asStr : String
  nonBlank : isBlank asStr = false
  deriving DecidableEq, Repr

def NonEmptyText.new (value : String) : Except DomainError NonEmptyText :=
  if h : isBlank value then .error (.blankText "text") else .ok ⟨value, by simpa using h⟩

structure ExternalId where
  text : NonEmptyText
  deriving DecidableEq, Repr

/-- Checks the same condition as `NonEmptyText.new` under its own field name. -/
def ExternalId.new (value : String) : Except DomainError ExternalId :=
  if h : isBlank value then .error (.blankText "external ID")
  else .ok ⟨⟨value, by simpa using h⟩⟩

structure WorkspaceRef where
  path : NonEmptyText
  displayName : Option NonEmptyText
  deriving DecidableEq, Repr

inductive ComponentKind where
  | provider | channel
  deriving DecidableEq, Repr

def ComponentKind.field : ComponentKind → String
  | .provider => "provider kind"
  | .channel => "channel kind"

def isSlugStart (c : Char) : Bool := ('a' ≤ c && c ≤ 'z') || ('0' ≤ c && c ≤ '9')

/-- A nonempty lowercase ASCII slug with the restricted first character. -/
def isSlug (value : String) : Bool :=
  match value.toList with
  | [] => false
  | first :: rest =>
    isSlugStart first && rest.all fun c => isSlugStart c || c == '-' || c == '_' || c == '.'

structure Slug (kind : ComponentKind) where
  asStr : String
  valid : isSlug asStr = true
  deriving DecidableEq, Repr

abbrev ProviderKind := Slug .provider
abbrev ChannelKind := Slug .channel

def Slug.new (kind : ComponentKind) (value : String) : Except DomainError (Slug kind) :=
  if h : isSlug value then .ok ⟨value, h⟩ else .error (.invalidKind kind.field value)

/-- A UTC instant of the years -9999 to 9999, in Unix nanoseconds. -/
structure Timestamp where
  unixTimestampNanos : Int
  supported : -377705116800000000000 ≤ unixTimestampNanos ∧
    unixTimestampNanos ≤ 253402300799999999999
  deriving DecidableEq, Repr

namespace Timestamp

def fromUnixTimestampNanos (value : Int) : Except DomainError Timestamp :=
  if h : -377705116800000000000 ≤ value ∧ value ≤ 253402300799999999999 then .ok ⟨value, h⟩
  else .error (.invalidTimestamp value)

instance : LT Timestamp := ⟨fun a b => a.unixTimestampNanos < b.unixTimestampNanos⟩
instance : LE Timestamp := ⟨fun a b => a.unixTimestampNanos ≤ b.unixTimestampNanos⟩
instance (a b : Timestamp) : Decidable (a < b) :=
  inferInstanceAs (Decidable (a.unixTimestampNanos < b.unixTimestampNanos))
instance (a b : Timestamp) : Decidable (a ≤ b) :=
  inferInstanceAs (Decidable (a.unixTimestampNanos ≤ b.unixTimestampNanos))

theorem lt_iff (a b : Timestamp) : a < b ↔ a.unixTimestampNanos < b.unixTimestampNanos := Iff.rfl
theorem le_iff (a b : Timestamp) : a ≤ b ↔ a.unixTimestampNanos ≤ b.unixTimestampNanos := Iff.rfl

theorem le_refl (a : Timestamp) : a ≤ a := (le_iff a a).mpr (Int.le_refl _)

theorem le_trans {a b c : Timestamp} (h : a ≤ b) (h' : b ≤ c) : a ≤ c := by
  rw [le_iff] at *
  omega

end Timestamp

inductive CounterKind where
  | revision | eventSequence
  deriving DecidableEq, Repr

def CounterKind.field : CounterKind → String
  | .revision => "revision"
  | .eventSequence => "event sequence"

/-- A non-zero unsigned 64-bit counter. -/
structure PositiveCounter (kind : CounterKind) where
  get : Nat
  positive : 0 < get
  bounded : get < 2 ^ 64
  deriving DecidableEq, Repr

abbrev Revision := PositiveCounter .revision
abbrev EventSequence := PositiveCounter .eventSequence

namespace PositiveCounter

variable {k : CounterKind}

def first : PositiveCounter k := ⟨1, by decide, by decide⟩

/-- Construction from an unsigned 64-bit value rejects exactly zero. -/
def new (k : CounterKind) (value : Nat) (bounded : value < 2 ^ 64) :
    Except DomainError (PositiveCounter k) :=
  if h : 0 < value then .ok ⟨value, h, bounded⟩ else .error (.zeroValue k.field)

/-- The next value, or nothing when the counter is exhausted. -/
def checkedNext (c : PositiveCounter k) : Option (PositiveCounter k) :=
  if h : c.get + 1 < 2 ^ 64 then some ⟨c.get + 1, by omega, h⟩ else none

instance : LT (PositiveCounter k) := ⟨fun a b => a.get < b.get⟩
instance : LE (PositiveCounter k) := ⟨fun a b => a.get ≤ b.get⟩
instance (a b : PositiveCounter k) : Decidable (a < b) :=
  inferInstanceAs (Decidable (a.get < b.get))
instance (a b : PositiveCounter k) : Decidable (a ≤ b) :=
  inferInstanceAs (Decidable (a.get ≤ b.get))

theorem lt_iff (a b : PositiveCounter k) : a < b ↔ a.get < b.get := Iff.rfl
theorem le_iff (a b : PositiveCounter k) : a ≤ b ↔ a.get ≤ b.get := Iff.rfl

theorem ext_get {a b : PositiveCounter k} (h : a.get = b.get) : a = b := by
  cases a
  cases b
  simp_all

@[simp] theorem first_get : (first : PositiveCounter k).get = 1 := rfl

theorem checkedNext_get {c n : PositiveCounter k} (h : c.checkedNext = some n) :
    n.get = c.get + 1 := by
  unfold checkedNext at h
  split at h
  · cases h; rfl
  · cases h

end PositiveCounter

/-- The scan with a growing set that every collection constructor performs:
the first identifier already seen, if any. -/
def firstDuplicate {α : Type} [DecidableEq α] : List α → List α → Option α
  | _, [] => none
  | seen, x :: xs => if x ∈ seen then some x else firstDuplicate (x :: seen) xs

theorem firstDuplicate_eq_none_iff {α : Type} [DecidableEq α] (xs seen : List α) :
    firstDuplicate seen xs = none ↔ xs.Nodup ∧ ∀ x ∈ xs, x ∉ seen := by
  induction xs generalizing seen with
  | nil => simp [firstDuplicate]
  | cons x xs ih =>
    by_cases hx : x ∈ seen
    · simp [firstDuplicate, hx]
    · simp only [firstDuplicate, hx, ↓reduceIte, ih, List.nodup_cons, List.mem_cons]
      constructor
      · rintro ⟨hn, hm⟩
        refine ⟨⟨fun h => hm x h (.inl rfl), hn⟩, ?_⟩
        rintro y (rfl | hy)
        · exact hx
        · exact fun h => hm y hy (.inr h)
      · rintro ⟨⟨hx', hn⟩, hm⟩
        refine ⟨hn, fun y hy h => ?_⟩
        rcases h with rfl | h
        · exact hx' hy
        · exact hm y (.inr hy) h

/-- A collection passes the scan exactly when its identifiers are distinct. -/
theorem nodup_of_firstDuplicate {α : Type} [DecidableEq α] {xs : List α}
    (h : firstDuplicate [] xs = none) : xs.Nodup :=
  ((firstDuplicate_eq_none_iff xs []).mp h).1

end AgentPulse
