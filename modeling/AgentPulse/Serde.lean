import AgentPulse.Bytes

/-!
# Derived readers of JSON values

A record with named fields is read from an object, whose entries may come in any
order, or from an array of the fields in theirs. Unknown and repeated names are
refused. A tagged union carries the name of its variant in one entry of the
object, or in front of the array; the rest is the record of the variant.
-/
namespace Serde

open Bytes (utf8)

inductive Json where
  | null
  | bool (value : Bool)
  | int (value : Int)
  | float (numeral : String)
  | string (value : String)
  | array (items : List Json)
  | object (entries : List (String × Json))
  deriving Repr

namespace Json

mutual

/-- Equality of values. -/
def same : Json → Json → Bool
  | .null, .null => true
  | .bool a, .bool b => a == b
  | .int a, .int b => a == b
  | .float a, .float b => a == b
  | .string a, .string b => a == b
  | .array a, .array b => sameItems a b
  | .object a, .object b => sameEntries a b
  | _, _ => false

def sameItems : List Json → List Json → Bool
  | [], [] => true
  | a :: as, b :: bs => same a b && sameItems as bs
  | _, _ => false

def sameEntries : List (String × Json) → List (String × Json) → Bool
  | [], [] => true
  | (name, a) :: as, (name', b) :: bs => name == name' && (same a b && sameEntries as bs)
  | _, _ => false

end

mutual

theorem same_eq_true : ∀ a b : Json, same a b = true ↔ a = b
  | .null, b => by cases b <;> simp [same]
  | .bool a, b => by cases b <;> simp [same]
  | .int a, b => by cases b <;> simp [same]
  | .float a, b => by cases b <;> simp [same]
  | .string a, b => by cases b <;> simp [same]
  | .array as, b => by cases b <;> simp [same, sameItems_eq_true as]
  | .object as, b => by cases b <;> simp [same, sameEntries_eq_true as]

theorem sameItems_eq_true : ∀ as bs : List Json, sameItems as bs = true ↔ as = bs
  | [], bs => by cases bs <;> simp [sameItems]
  | a :: as, bs => by cases bs <;> simp [sameItems, same_eq_true a, sameItems_eq_true as]

theorem sameEntries_eq_true :
    ∀ as bs : List (String × Json), sameEntries as bs = true ↔ as = bs
  | [], bs => by cases bs <;> simp [sameEntries]
  | (name, a) :: as, bs => by
    cases bs with
    | nil => simp [sameEntries]
    | cons b bs =>
      simp [sameEntries, same_eq_true a, sameEntries_eq_true as, Prod.ext_iff, and_assoc]

end

instance : DecidableEq Json := fun a b => decidable_of_iff _ (same_eq_true a b)

/-- The entry of an object; no other value has entries. -/
def get (self : Json) (name : String) : Option Json :=
  match self with
  | .object entries => entries.lookup name
  | _ => none

/-- `value[name]`, which reads a missing entry as null. -/
def index (self : Json) (name : String) : Json := (self.get name).getD .null

def asStr : Json → Option String
  | .string value => some value
  | _ => none

def asBool : Json → Option Bool
  | .bool value => some value
  | _ => none

/-- Integers outside the signed 64-bit range and other numerals have no `i64`. -/
def asI64 : Json → Option Int
  | .int value => if -(2 ^ 63) ≤ value ∧ value < 2 ^ 63 then some value else none
  | _ => none

def asArray : Json → Option (List Json)
  | .array items => some items
  | _ => none

def isObject : Json → Bool
  | .object _ => true
  | _ => false

/-- The entry replaces an existing one of its name. -/
def insertEntry (name : String) (value : Json) : List (String × Json) → List (String × Json)
  | [] => [(name, value)]
  | entry :: rest =>
    if entry.1 = name then (name, value) :: rest else entry :: insertEntry name value rest

/-- `object.insert(name, value)` on a value that is an object. -/
def insert (self : Json) (name : String) (value : Json) : Json :=
  match self with
  | .object entries => .object (insertEntry name value entries)
  | other => other

/-- A byte of the text of a string. -/
def escaped (b : UInt8) : List UInt8 :=
  if b = 34 then [92, 34]
  else if b = 92 then [92, 92]
  else if b = 8 then [92, 98]
  else if b = 12 then [92, 102]
  else if b = 10 then [92, 110]
  else if b = 13 then [92, 114]
  else if b = 9 then [92, 116]
  else if b < 16 then [92, 117, 48, 48, 48, if b < 10 then 48 + b else 87 + b]
  else if b < 32 then [92, 117, 48, 48, 49, if b < 26 then 32 + b else 71 + b]
  else [b]

def quoted (text : String) : List UInt8 := 34 :: ((utf8 text).flatMap escaped ++ [34])

mutual

/-- The compact text of a value. -/
def toVec : Json → List UInt8
  | .null => utf8 "null"
  | .bool value => utf8 (if value then "true" else "false")
  | .int value => utf8 (toString value)
  | .float numeral => utf8 numeral
  | .string value => quoted value
  | .array items => 91 :: (itemsText items ++ [93])
  | .object entries => 123 :: (entriesText entries ++ [125])

def itemsText : List Json → List UInt8
  | [] => []
  | [item] => toVec item
  | item :: items => toVec item ++ 44 :: itemsText items

def entriesText : List (String × Json) → List UInt8
  | [] => []
  | [(name, value)] => quoted name ++ 58 :: toVec value
  | (name, value) :: entries => quoted name ++ 58 :: toVec value ++ 44 :: entriesText entries

end

/-- The value of a list that has this text. -/
def readAmong (values : List Json) (bytes : List UInt8) : Option Json :=
  values.find? fun value => value.toVec = bytes

theorem mem_of_readAmong {values : List Json} {bytes : List UInt8} {value : Json}
    (h : readAmong values bytes = some value) : value ∈ values ∧ value.toVec = bytes :=
  ⟨List.mem_of_find?_eq_some h, by simpa using List.find?_some h⟩

theorem readAmong_toVec {values : List Json} (hdistinct : (values.map toVec).Nodup) {value : Json}
    (h : value ∈ values) : readAmong values value.toVec = some value := by
  cases hfound : readAmong values value.toVec with
  | none =>
    have hmissing := List.find?_eq_none.mp hfound value h
    simp at hmissing
  | some other =>
    obtain ⟨hother, htext⟩ := mem_of_readAmong hfound
    rw [List.inj_on_of_nodup_map hdistinct hother h htext]

theorem get_cons (entry : String × Json) (rest : List (String × Json)) (name : String) :
    (object (entry :: rest)).get name =
      if entry.1 = name then some entry.2 else (object rest).get name := by
  obtain ⟨key, value⟩ := entry
  by_cases h : key = name
  · simp [get, h]
  · have hother : (name == key) = false := beq_false_of_ne (Ne.symm h)
    simp [get, List.lookup_cons, h, hother]

theorem get_insertEntry (entries : List (String × Json)) (added name : String) (value : Json) :
    (object (insertEntry added value entries)).get name =
      if added = name then some value else (object entries).get name := by
  induction entries with
  | nil => rw [insertEntry, get_cons]
  | cons entry rest ih =>
    unfold insertEntry
    by_cases hentry : entry.1 = added
    · rw [if_pos hentry, get_cons, get_cons, hentry]
      by_cases h : added = name <;> simp [h]
    · rw [if_neg hentry, get_cons, get_cons, ih]
      by_cases h : entry.1 = name
      · have hother : added ≠ name := fun hsame => hentry (h.trans hsame.symm)
        simp [h, hother]
      · simp [h]

theorem mem_keys_insertEntry (entries : List (String × Json)) (added name : String) (value : Json) :
    name ∈ (insertEntry added value entries).map Prod.fst ↔
      name = added ∨ name ∈ entries.map Prod.fst := by
  induction entries with
  | nil => simp [insertEntry]
  | cons entry rest ih =>
    unfold insertEntry
    by_cases hentry : entry.1 = added
    · simp [hentry]
    · rw [if_neg hentry, List.map_cons, List.mem_cons, ih, List.map_cons, List.mem_cons]
      tauto

/-- The entries after all writes; a later write to a name replaces an earlier one. -/
def writeAll (entries : List (String × Json)) (writes : List (String × Json)) :
    List (String × Json) :=
  writes.foldl (fun entries write => insertEntry write.1 write.2 entries) entries

/-- Writes that agree on a name leave their value there. -/
theorem get_writeAll {entries writes : List (String × Json)} {name : String} {value : Json}
    (hagree : ∀ write ∈ writes, write.1 = name → write.2 = value)
    (hsome : (object entries).get name = some value ∨ ∃ write ∈ writes, write.1 = name) :
    (object (writeAll entries writes)).get name = some value := by
  induction writes generalizing entries with
  | nil => exact hsome.resolve_right (by simp)
  | cons write rest ih =>
    apply ih fun other hother => hagree other (List.mem_cons_of_mem _ hother)
    rw [get_insertEntry]
    by_cases hname : write.1 = name
    · left
      rw [if_pos hname, hagree write List.mem_cons_self hname]
    · rw [if_neg hname]
      refine hsome.imp_right ?_
      rintro ⟨other, hother, hsame⟩
      rcases List.mem_cons.mp hother with rfl | hrest
      · exact absurd hsame hname
      · exact ⟨other, hrest, hsame⟩

theorem mem_keys_writeAll {entries writes : List (String × Json)} {name : String}
    (h : name ∈ (writeAll entries writes).map Prod.fst) :
    name ∈ entries.map Prod.fst ∨ ∃ write ∈ writes, write.1 = name := by
  induction writes generalizing entries with
  | nil => exact .inl h
  | cons write rest ih =>
    rcases ih h with hbefore | ⟨other, hother, hsame⟩
    · rcases (mem_keys_insertEntry entries write.1 name write.2).mp hbefore with rfl | hentry
      · exact .inr ⟨write, List.mem_cons_self, rfl⟩
      · exact .inl hentry
    · exact .inr ⟨other, List.mem_cons_of_mem _ hother, hsame⟩

theorem nodup_insertEntry {entries : List (String × Json)} {added : String} {value : Json}
    (h : (entries.map Prod.fst).Nodup) : ((insertEntry added value entries).map Prod.fst).Nodup := by
  induction entries with
  | nil => simp [insertEntry]
  | cons entry rest ih =>
    rw [List.map_cons, List.nodup_cons] at h
    unfold insertEntry
    by_cases hentry : entry.1 = added
    · rw [if_pos hentry, List.map_cons, List.nodup_cons, ← hentry]
      exact h
    · rw [if_neg hentry, List.map_cons, List.nodup_cons, mem_keys_insertEntry, not_or]
      exact ⟨⟨hentry, h.1⟩, ih h.2⟩

theorem nodup_writeAll {entries writes : List (String × Json)} (h : (entries.map Prod.fst).Nodup) :
    ((writeAll entries writes).map Prod.fst).Nodup := by
  induction writes generalizing entries with
  | nil => exact h
  | cons write rest ih => exact ih (nodup_insertEntry h)

end Json

def text : Json → Option String
  | .string value => some value
  | _ => none

def flag : Json → Option Bool
  | .bool value => some value
  | _ => none

def u16 : Json → Option UInt16
  | .int value => if 0 ≤ value ∧ value < 2 ^ 16 then some (UInt16.ofNat value.toNat) else none
  | _ => none

def u64 : Json → Option UInt64
  | .int value => if 0 ≤ value ∧ value < 2 ^ 64 then some (UInt64.ofNat value.toNat) else none
  | _ => none

def i64 : Json → Option Int64
  | .int value => if -(2 ^ 63) ≤ value ∧ value < 2 ^ 63 then some (Int64.ofInt value) else none
  | _ => none

def list {α : Type} (read : Json → Option α) : Json → Option (List α)
  | .array items => items.mapM read
  | _ => none

/-- A variant without fields: its name, or an object from the name to nothing. -/
def unitVariant : Json → Option String
  | .string name => some name
  | .object [(name, .null)] => some name
  | .object [(name, .object [])] => some name
  | _ => none

@[simp] theorem text_string (value : String) : text (.string value) = some value := rfl

@[simp] theorem flag_bool (value : Bool) : flag (.bool value) = some value := rfl

@[simp] theorem u16_int (value : UInt16) : u16 (.int value.toNat) = some value := by
  have hvalue := value.toNat_lt
  rw [u16, if_pos ⟨by omega, by omega⟩]
  simp

@[simp] theorem u64_int (value : UInt64) : u64 (.int value.toNat) = some value := by
  have hvalue := value.toNat_lt
  rw [u64, if_pos ⟨by omega, by omega⟩]
  simp

@[simp] theorem i64_int (value : Int64) : i64 (.int value.toInt) = some value := by
  have hlow := value.le_toInt
  have hhigh := value.toInt_lt
  rw [i64, if_pos ⟨hlow, hhigh⟩]
  simp

theorem text_eq_some {value : Json} {s : String} : text value = some s ↔ value = .string s := by
  cases value <;> simp [text]

theorem u16_eq_some {value : Json} {n : UInt16} : u16 value = some n ↔ value = .int n.toNat := by
  constructor
  · intro h
    simp only [u16] at h
    split at h
    · split at h
      · rename_i i hrange
        obtain rfl := Option.some.inj h
        have hsmall : i.toNat < UInt16.size := by
          have hsize : UInt16.size = 2 ^ 16 := rfl
          omega
        have hvalue : ((UInt16.ofNat i.toNat).toNat : Int) = i := by
          rw [UInt16.toNat_ofNat_of_lt' hsmall]
          omega
        rw [hvalue]
      · cases h
    · cases h
  · rintro rfl
    exact u16_int n

theorem list_map {α : Type} {read : Json → Option α} {write : α → Json}
    (h : ∀ a, read (write a) = some a) (values : List α) :
    list read (.array (values.map write)) = some values := by
  rw [list]
  induction values with
  | nil => rfl
  | cons a values ih => simp [h a, ih]

/-- What a record is read from: its entries, and whether they were given by position. -/
structure Fields where
  positional : Bool
  entries : List (String × Json)

def fields (names : List String) : Json → Option Fields
  | .object entries =>
    if (∀ name ∈ entries.map Prod.fst, name ∈ names) ∧ (entries.map Prod.fst).Nodup then
      some ⟨false, entries⟩
    else none
  | .array items => if items.length ≤ names.length then some ⟨true, names.zip items⟩ else none
  | _ => none

namespace Fields

variable {α : Type} (self : Fields)

def required (name : String) (read : Json → Option α) : Option α :=
  (self.entries.lookup name).bind read

/-- A field that a null leaves out, or, in an object, its absence. -/
def optional (name : String) (read : Json → Option α) : Option (Option α) :=
  match self.entries.lookup name with
  | none => if self.positional then none else some none
  | some .null => some none
  | some value => (read value).map some

/-- A field with a default for its absence. -/
def defaulted (name : String) (default : α) (read : Json → Option α) : Option α :=
  match self.entries.lookup name with
  | none => some default
  | some value => read value

end Fields

/-- A field that may be null. -/
def nullable {α : Type} (read : Json → Option α) : Json → Option (Option α)
  | .null => some none
  | value => (read value).map some

/-- An object with some of the names, each at most once. -/
theorem fields_object {names : List String} {entries : List (String × Json)} (present : List String)
    (hpresent : entries.map Prod.fst = present) (hknown : present ⊆ names)
    (hdistinct : present.Nodup) : fields names (.object entries) = some ⟨false, entries⟩ := by
  subst hpresent
  exact if_pos ⟨hknown, hdistinct⟩

theorem fields_array {names : List String} {items : List Json} {self : Fields}
    (h : fields names (.array items) = some self) : self = ⟨true, names.zip items⟩ := by
  simp only [fields] at h
  split at h
  · exact (Option.some.inj h).symm
  · cases h

theorem lookup_of_mem {entries : List (String × Json)} (hdistinct : (entries.map Prod.fst).Nodup)
    {name : String} {value : Json} (h : (name, value) ∈ entries) :
    entries.lookup name = some value := by
  induction entries with
  | nil => cases h
  | cons entry entries ih =>
    rw [List.map_cons, List.nodup_cons] at hdistinct
    rcases List.mem_cons.mp h with rfl | hrest
    · exact List.lookup_cons_self
    · have hother : (name == entry.1) = false := by
        rw [beq_eq_false_iff_ne]
        rintro rfl
        exact hdistinct.1 (List.mem_map.mpr ⟨_, hrest, rfl⟩)
      rw [List.lookup_cons, hother]
      exact ih hdistinct.2 hrest

theorem lookup_of_not_mem {entries : List (String × Json)} {name : String}
    (h : name ∉ entries.map Prod.fst) : entries.lookup name = none := by
  rw [List.lookup_eq_none_iff]
  intro entry hentry
  rw [bne_iff_ne]
  rintro rfl
  exact h (List.mem_map_of_mem hentry)

/-- An entry of an object is read as the field of its name. -/
theorem Fields.required_of_mem {α : Type} {entries : List (String × Json)}
    (hdistinct : (entries.map Prod.fst).Nodup) {name : String} {value : Json}
    (h : (name, value) ∈ entries) {read : Json → Option α} {a : α} (hread : read value = some a) :
    (Fields.mk false entries).required name read = some a := by
  rw [required, lookup_of_mem hdistinct h]
  exact hread

/-- The field of a name in an array is the item at its position. -/
theorem lookup_zip {names : List String} (hdistinct : names.Nodup) (items : List Json) {i : Nat}
    (h : i < names.length) : (names.zip items).lookup names[i] = items[i]? := by
  induction names generalizing items i with
  | nil => cases h
  | cons name names ih =>
    rw [List.nodup_cons] at hdistinct
    cases items with
    | nil => simp
    | cons item items =>
      rw [List.zip_cons_cons]
      cases i with
      | zero => exact List.lookup_cons_self
      | succ i =>
        have hi : i < names.length := Nat.lt_of_succ_lt_succ h
        have hother : (names[i] == name) = false := by
          rw [beq_eq_false_iff_ne]
          intro hsame
          exact hdistinct.1 (hsame ▸ List.getElem_mem hi)
        rw [List.getElem_cons_succ, List.lookup_cons, hother]
        exact ih hdistinct.2 items hi

/-- The name of the variant and the value of its record. -/
def tagged (tag : String) : Json → Option (String × Json)
  | .object entries =>
    match entries.filter fun entry => entry.1 == tag with
    | [(_, .string name)] => some (name, .object (entries.filter fun entry => entry.1 != tag))
    | _ => none
  | .array (.string name :: items) => some (name, .array items)
  | _ => none

theorem tagged_object {tag name : String} {entries : List (String × Json)}
    (h : ∀ entry ∈ entries, entry.1 ≠ tag) :
    tagged tag (.object ((tag, .string name) :: entries)) = some (name, .object entries) := by
  have hnone : entries.filter (fun entry => entry.1 == tag) = [] := by
    rw [List.filter_eq_nil_iff]
    intro entry hentry
    simpa using h entry hentry
  have hall : entries.filter (fun entry => entry.1 != tag) = entries := by
    rw [List.filter_eq_self]
    intro entry hentry
    simpa using h entry hentry
  simp [tagged, hnone, hall]

end Serde
