import AgentPulse.Serde

/-!
# What a further entry does to a reader

Shapes describe derived readers as data. Content that serde has held back is read
by other rules than a value, so every reader knows which of them it is given. A
strict shape refuses a further entry in any object of what it accepts, but for
the objects whose entries it does not look at: there the entry changes nothing.
-/
namespace Serde

/-- From a value to one of its parts. -/
inductive Step where
  | entry (name : String)
  | item (index : Nat)
  deriving DecidableEq, Repr

/-- The second value has one more entry in the object at the position. -/
inductive Inserted (name : String) : List Step → Json → Json → Prop
  | here (before after : List (String × Json)) (value : Json) :
    Inserted name [] (.object (before ++ after)) (.object (before ++ (name, value) :: after))
  | entry {path : List Step} {value changed : Json} (before after : List (String × Json))
    (key : String) (h : Inserted name path value changed) :
    Inserted name (.entry key :: path) (.object (before ++ (key, value) :: after))
      (.object (before ++ (key, changed) :: after))
  | item {path : List Step} {value changed : Json} (before after : List Json)
    (h : Inserted name path value changed) :
    Inserted name (.item before.length :: path) (.array (before ++ value :: after))
      (.array (before ++ changed :: after))

/-- Entries of one name with related values. -/
inductive Entry (R : Json → Json → Prop) : String × Json → String × Json → Prop
  | mk (name : String) {v w : Json} (h : R v w) : Entry R (name, v) (name, w)

/-- The two values differ at most in the texts of floating-point numbers. -/
inductive Alike : Json → Json → Prop
  | refl (value : Json) : Alike value value
  | float (first second : String) : Alike (.float first) (.float second)
  | array {first second : List Json} (h : List.Forall₂ Alike first second) :
    Alike (.array first) (.array second)
  | object {first second : List (String × Json)}
    (h : List.Forall₂ (Entry Alike) first second) :
    Alike (.object first) (.object second)

/-- How the object at a position is read: the names that are its own, and whether
others are ignored. -/
structure Standing where
  names : List String
  ignores : Bool
  deriving DecidableEq, Repr

/-- What an insertion leaves of the value that was read. -/
def Standing.leaves {α : Type} (self : Standing) (a : α) : Option α :=
  if self.ignores then some a else none

/-- An object without names of its own, or no object at all. -/
def Standing.bare : Standing := ⟨[], false⟩

/-- A reader of values or, if they are buffered, of content, and how it takes the
objects of what it accepts. -/
structure Shape (α : Type) where
  read : Bool → Json → Option α
  standing : Bool → Json → List Step → Standing

structure Shape.Strict {α : Type} (shape : Shape α) : Prop where
  alike : ∀ {buffered : Bool} {v w : Json}, Alike v w →
    shape.read buffered v = shape.read buffered w
  inserted : ∀ {buffered : Bool} {name : String} {path : List Step} {v w : Json} {a : α},
    Inserted name path v w → name ∉ (shape.standing buffered v path).names →
    shape.read buffered v = some a →
    shape.read buffered w = (shape.standing buffered v path).leaves a

namespace Shape

variable {α β : Type}

/-- Values without parts. -/
def scalar (read : Json → Option α) : Shape α where
  read _ := read
  standing _ _ _ := .bare

theorem scalar_strict {read : Json → Option α} (hfloat : ∀ a b, read (.float a) = read (.float b))
    (harray : ∀ items, read (.array items) = none)
    (hobject : ∀ entries, read (.object entries) = none) : (scalar read).Strict where
  alike h := by
    cases h with
    | refl => rfl
    | float a b => exact hfloat a b
    | array h => exact (harray _).trans (harray _).symm
    | object h => exact (hobject _).trans (hobject _).symm
  inserted h _ hread := by
    cases h with
    | here before after value => exact absurd hread (by simp [scalar, hobject])
    | entry before after key h => exact absurd hread (by simp [scalar, hobject])
    | item before after h => exact absurd hread (by simp [scalar, harray])

def text : Shape String := scalar Serde.text
def flag : Shape Bool := scalar Serde.flag
def u16 : Shape Nat := scalar fun value => (Serde.u16 value).map UInt16.toNat
def u64 : Shape Nat := scalar fun value => (Serde.u64 value).map UInt64.toNat

theorem text_strict : text.Strict :=
  scalar_strict (fun _ _ => rfl) (fun _ => rfl) fun _ => rfl

theorem flag_strict : flag.Strict :=
  scalar_strict (fun _ _ => rfl) (fun _ => rfl) fun _ => rfl

theorem u16_strict : u16.Strict :=
  scalar_strict (fun _ _ => rfl) (fun _ => rfl) fun _ => rfl

theorem u64_strict : u64.Strict :=
  scalar_strict (fun _ _ => rfl) (fun _ => rfl) fun _ => rfl

/-- A shape whose value has to pass a further reader. -/
def andThen (self : Shape α) (f : α → Option β) : Shape β where
  read buffered value := (self.read buffered value).bind f
  standing := self.standing

theorem andThen_strict {self : Shape α} (h : self.Strict) (f : α → Option β) :
    (self.andThen f).Strict where
  alike halike := by
    show (self.read _ _).bind f = (self.read _ _).bind f
    rw [h.alike halike]
  inserted {buffered name path v w b} hinserted hname hread := by
    obtain ⟨a, ha, hb⟩ := Option.bind_eq_some_iff.mp hread
    show (self.read buffered w).bind f = (self.standing buffered v path).leaves b
    rw [h.inserted hinserted hname ha]
    unfold Standing.leaves
    split
    · exact hb
    · rfl

/-- A value, or a null for none. -/
def nullable (self : Shape α) : Shape (Option α) where
  read buffered := Serde.nullable (self.read buffered)
  standing := self.standing

theorem ne_null_of_inserted {name : String} {path : List Step} {v w : Json}
    (h : Inserted name path v w) : v ≠ .null ∧ w ≠ .null := by
  cases h <;> exact ⟨by simp, by simp⟩

theorem nullable_of_ne {read : Json → Option α} {value : Json} (h : value ≠ .null) :
    Serde.nullable read value = (read value).map some := by
  cases value with
  | null => exact absurd rfl h
  | _ => rfl

theorem nullable_strict {self : Shape α} (h : self.Strict) : self.nullable.Strict where
  alike {buffered v w} halike := by
    show Serde.nullable _ v = Serde.nullable _ w
    cases halike with
    | refl => rfl
    | float a b => exact congrArg (Option.map some) (h.alike (.float a b))
    | array hitems => exact congrArg (Option.map some) (h.alike (.array hitems))
    | object hentries => exact congrArg (Option.map some) (h.alike (.object hentries))
  inserted {buffered name path v w b} hinserted hname hread := by
    obtain ⟨hv, hw⟩ := ne_null_of_inserted hinserted
    have hread : (self.read buffered v).map some = some b := by rwa [← nullable_of_ne hv]
    obtain ⟨a, ha, rfl⟩ := Option.map_eq_some_iff.mp hread
    show Serde.nullable (self.read buffered) w = _
    rw [nullable_of_ne hw, h.inserted hinserted hname ha]
    show ((self.standing buffered v path).leaves a).map some =
      (self.standing buffered v path).leaves (some a)
    unfold Standing.leaves
    split <;> rfl

/-- The items of an array. -/
def list (self : Shape α) : Shape (List α) where
  read buffered := Serde.list (self.read buffered)
  standing buffered value path :=
    match value, path with
    | .array items, .item i :: rest =>
      match items[i]? with
      | some item => self.standing buffered item rest
      | none => .bare
    | _, _ => .bare

theorem list_strict {self : Shape α} (h : self.Strict) : self.list.Strict where
  alike {buffered v w} halike := by
    show Serde.list _ v = Serde.list _ w
    cases halike with
    | refl => rfl
    | float a b => rfl
    | object hentries => rfl
    | array hitems =>
      show List.mapM _ _ = List.mapM _ _
      induction hitems with
      | nil => rfl
      | cons hitem _ ih => rw [List.mapM_cons, List.mapM_cons, h.alike hitem, ih]
  inserted {buffered name path v w as} hinserted hname hread := by
    cases hinserted with
    | here before after value => cases hread
    | entry before after key hpart => cases hread
    | @item path value changed before after hpart =>
      have hstanding : self.list.standing buffered (.array (before ++ value :: after))
          (.item before.length :: path) = self.standing buffered value path := by
        simp [list]
      rw [hstanding] at hname ⊢
      have hread : (before ++ value :: after).mapM (self.read buffered) = some as := hread
      rw [List.mapM_append, List.mapM_cons] at hread
      simp only [Option.bind_eq_bind, Option.bind_eq_some_iff, Option.pure_def] at hread
      obtain ⟨front, hfront, rest, ⟨a, ha, back, hback, hrest⟩, has⟩ := hread
      cases hrest
      cases has
      show (before ++ changed :: after).mapM (self.read buffered) = _
      rw [List.mapM_append, List.mapM_cons, hfront, hback, h.inserted hpart hname ha]
      unfold Standing.leaves
      split <;> rfl

/-- What a variant without fields may be written with. -/
def isUnit (buffered : Bool) : Json → Bool
  | .null => true
  | .object [] => buffered
  | _ => false

/-- The name of a variant without fields: alone, or the only entry of an object. -/
def unitName (buffered : Bool) : Json → Option String
  | .string name => some name
  | .object [(name, value)] => if isUnit buffered value then some name else none
  | _ => none

/-- An enumeration of variants without fields. -/
def units (variants : List (String × α)) : Shape α where
  read buffered value := (unitName buffered value).bind fun name => variants.lookup name
  standing _ _ _ := .bare

theorem isUnit_alike {buffered : Bool} {v w : Json} (h : Alike v w) :
    isUnit buffered v = isUnit buffered w := by
  cases h with
  | refl => rfl
  | float a b => rfl
  | array hitems => rfl
  | object hentries =>
    cases hentries with
    | nil => rfl
    | cons hentry hrest => rfl

theorem unitName_cons_cons (buffered : Bool) (first second : String × Json)
    (rest : List (String × Json)) : unitName buffered (.object (first :: second :: rest)) = none := by
  obtain ⟨name, value⟩ := first
  rfl

theorem unitName_alike {buffered : Bool} {v w : Json} (h : Alike v w) :
    unitName buffered v = unitName buffered w := by
  cases h with
  | refl => rfl
  | float a b => rfl
  | array hitems => rfl
  | object hentries =>
    cases hentries with
    | nil => rfl
    | cons hentry hrest =>
      cases hrest with
      | nil =>
        obtain ⟨name, hvalue⟩ := hentry
        simp only [unitName, isUnit_alike hvalue]
      | cons hother hrest => rw [unitName_cons_cons, unitName_cons_cons]

theorem isUnit_inserted {buffered : Bool} {name : String} {path : List Step} {v w : Json}
    (h : Inserted name path v w) : isUnit buffered w = false := by
  cases h with
  | item before after h => rfl
  | entry before after key h =>
    rcases before with _ | ⟨entry, before⟩ <;> rfl
  | here before after value =>
    rcases before with _ | ⟨entry, before⟩ <;> rfl

theorem unitName_inserted {buffered : Bool} {name read : String} {path : List Step} {v w : Json}
    (h : Inserted name path v w) (hread : unitName buffered v = some read) :
    unitName buffered w = none := by
  cases h with
  | item before after h => cases hread
  | here before after value =>
    rcases before with _ | ⟨first, before⟩
    · rcases after with _ | ⟨second, after⟩
      · cases hread
      · exact unitName_cons_cons ..
    · rcases before with _ | ⟨second, before⟩ <;> exact unitName_cons_cons ..
  | @entry path value changed before after key h =>
    rcases before with _ | ⟨first, before⟩
    · rcases after with _ | ⟨second, after⟩
      · simp only [List.nil_append, unitName, isUnit_inserted h, Bool.false_eq_true, if_false]
      · rw [List.nil_append, unitName_cons_cons] at hread
        cases hread
    · rcases before with _ | ⟨second, before⟩ <;>
        · simp only [List.cons_append, unitName_cons_cons] at hread
          cases hread

theorem units_strict (variants : List (String × α)) : (units variants).Strict where
  alike halike := congrArg (Option.bind · fun name => variants.lookup name) (unitName_alike halike)
  inserted {buffered name path v w a} hinserted hname hread := by
    obtain ⟨read, hunit, -⟩ := Option.bind_eq_some_iff.mp hread
    show (unitName buffered w).bind _ = none
    rw [unitName_inserted hinserted hunit]
    rfl

end Shape

/-- The part of a value that a step leads to. -/
def Json.part : Json → Step → Option Json
  | .object entries, .entry name => entries.lookup name
  | .array items, .item i => items[i]?
  | _, _ => none

/-- The field that a step into a record leads to. -/
def fieldAt (names : List String) : Step → Option String
  | .entry name => some name
  | .item i => names[i]?

/-- The fields of a record, and how the objects in their values are taken. -/
structure Record (α : Type) where
  names : List String
  read : Bool → Fields → Option α
  standing : Bool → String → Json → List Step → Standing

/-- A record depends on the values of its fields alone, and takes a further entry
inside of one as the shape of the field does. -/
structure Record.Strict {α : Type} (record : Record α) : Prop where
  alike : ∀ {buffered : Bool} {f g : Fields},
    (∀ name ∈ record.names, Option.Rel Alike (f.entries.lookup name) (g.entries.lookup name)) →
    record.read buffered f = record.read buffered g
  inserted : ∀ {buffered : Bool} {name key : String} {path : List Step} {v w : Json} {f g : Fields}
    {a : α}, record.names.Nodup → key ∈ record.names → Inserted name path v w →
    name ∉ (record.standing buffered key v path).names →
    f.entries.lookup key = some v → g.entries.lookup key = some w →
    (∀ other ≠ key, g.entries.lookup other = f.entries.lookup other) →
    record.read buffered f = some a →
    record.read buffered g = (record.standing buffered key v path).leaves a

theorem rel_refl (value : Option Json) : Option.Rel Alike value value := by
  cases value with
  | none => exact .none
  | some value => exact .some (.refl value)

namespace Record

variable {α β : Type}

/-- A record without fields yet. -/
def start (make : α) : Record α where
  names := []
  read _ _ := some make
  standing _ _ _ _ := .bare

/-- One more field, and what stands for its absence. -/
def field (self : Record (α → β)) (name : String) (absent : Option α) (shape : Shape α) :
    Record β where
  names := self.names ++ [name]
  read buffered fields := (self.read buffered fields).bind fun make =>
    (((fields.entries.lookup name).map (shape.read buffered)).getD absent).map make
  standing buffered key :=
    if key = name then shape.standing buffered else self.standing buffered key

def required (self : Record (α → β)) (name : String) (shape : Shape α) : Record β :=
  self.field name none shape

def defaulted (self : Record (α → β)) (name : String) (default : α) (shape : Shape α) : Record β :=
  self.field name (some default) shape

/-- An optional field whose default is its absence. -/
def optional (self : Record (Option α → β)) (name : String) (shape : Shape α) : Record β :=
  self.field name (some none) shape.nullable

theorem start_strict (make : α) : (start make).Strict where
  alike _ := rfl
  inserted _ hkey := by cases hkey

theorem field_strict {self : Record (α → β)} {shape : Shape α} (h : self.Strict)
    (hshape : shape.Strict) (name : String) (absent : Option α) :
    (self.field name absent shape).Strict where
  alike {buffered f g} halike := by
    have hfront : self.read buffered f = self.read buffered g :=
      h.alike fun other hother => halike other (List.mem_append_left _ hother)
    have hvalue : ((f.entries.lookup name).map (shape.read buffered)).getD absent =
        ((g.entries.lookup name).map (shape.read buffered)).getD absent := by
      have hlast := halike name (by simp [field])
      revert hlast
      cases f.entries.lookup name <;> cases g.entries.lookup name
      · intro _
        rfl
      · intro hlast
        cases hlast
      · intro hlast
        cases hlast
      · intro hlast
        cases hlast with
        | some hlast => exact hshape.alike hlast
    simp only [field, hfront, hvalue]
  inserted {buffered inside key path v w f g b} hnodup hkey hinserted hname hv hw hrest hread := by
    have hdistinct := List.nodup_append.mp (show (self.names ++ [name]).Nodup from hnodup)
    obtain ⟨make, hmake, hlast⟩ := Option.bind_eq_some_iff.mp hread
    obtain ⟨a, ha, rfl⟩ := Option.map_eq_some_iff.mp hlast
    show (self.read buffered g).bind _ = _
    by_cases hown : key = name
    · subst hown
      have hfront : self.read buffered g = some make := by
        rw [← hmake]
        refine h.alike fun other hother => ?_
        have hother : other ≠ key := hdistinct.2.2 other hother key (by simp)
        rw [hrest other hother]
        exact rel_refl _
      have hstanding : (self.field key absent shape).standing buffered key =
          shape.standing buffered := if_pos rfl
      rw [hstanding] at hname ⊢
      rw [hv, Option.map_some, Option.getD_some] at ha
      rw [hfront, Option.bind_some, hw, Option.map_some, Option.getD_some,
        hshape.inserted hinserted hname ha]
      unfold Standing.leaves
      split <;> rfl
    · have hbefore : key ∈ self.names := by
        rcases List.mem_append.mp hkey with hbefore | hlast
        · exact hbefore
        · exact absurd (List.mem_singleton.mp hlast) hown
      have hstanding : (self.field name absent shape).standing buffered key =
          self.standing buffered key := if_neg hown
      rw [hstanding] at hname ⊢
      rw [h.inserted hdistinct.1 hbefore hinserted hname hv hw hrest hmake,
        hrest name (Ne.symm hown)]
      unfold Standing.leaves
      split
      · rw [Option.bind_some, ha]
        rfl
      · rfl

theorem required_strict {self : Record (α → β)} {shape : Shape α} (h : self.Strict)
    (hshape : shape.Strict) (name : String) : (self.required name shape).Strict :=
  field_strict h hshape name none

theorem defaulted_strict {self : Record (α → β)} {shape : Shape α} (h : self.Strict)
    (hshape : shape.Strict) (name : String) (default : α) :
    (self.defaulted name default shape).Strict :=
  field_strict h hshape name (some default)

theorem optional_strict {self : Record (Option α → β)} {shape : Shape α} (h : self.Strict)
    (hshape : shape.Strict) (name : String) : (self.optional name shape).Strict :=
  field_strict h (Shape.nullable_strict hshape) name (some none)

end Record

theorem map_fst_alike {first second : List (String × Json)}
    (h : List.Forall₂ (Entry Alike) first second) : first.map Prod.fst = second.map Prod.fst := by
  induction h with
  | nil => rfl
  | cons hentry _ ih =>
    obtain ⟨name, -⟩ := hentry
    rw [List.map_cons, List.map_cons, ih]

theorem lookup_alike {first second : List (String × Json)}
    (h : List.Forall₂ (Entry Alike) first second) (name : String) :
    Option.Rel Alike (first.lookup name) (second.lookup name) := by
  induction h with
  | nil => exact .none
  | cons hentry _ ih =>
    obtain ⟨other, hvalue⟩ := hentry
    rw [List.lookup_cons, List.lookup_cons]
    split
    · exact .some hvalue
    · exact ih

theorem zip_alike (names : List String) {first second : List Json}
    (h : List.Forall₂ Alike first second) :
    List.Forall₂ (Entry Alike) (names.zip first) (names.zip second) := by
  induction h generalizing names with
  | nil =>
    rw [List.zip_nil_right]
    exact .nil
  | cons hitem _ ih =>
    cases names with
    | nil => exact .nil
    | cons name names => exact .cons ⟨name, hitem⟩ (ih names)

/-- Replacing the value of one of distinct names. -/
theorem lookup_replaced {before after : List (String × Json)} {key : String} {v : Json}
    (hdistinct : ((before ++ (key, v) :: after).map Prod.fst).Nodup) (w : Json) :
    (before ++ (key, v) :: after).lookup key = some v ∧
      (before ++ (key, w) :: after).lookup key = some w ∧
      ∀ other ≠ key, (before ++ (key, w) :: after).lookup other =
        (before ++ (key, v) :: after).lookup other := by
  have hnames : (before ++ (key, w) :: after).map Prod.fst =
      (before ++ (key, v) :: after).map Prod.fst := by simp
  refine ⟨lookup_of_mem hdistinct (by simp), lookup_of_mem (hnames ▸ hdistinct) (by simp), ?_⟩
  intro other hother
  have hne : (other == key) = false := by simpa using hother
  simp only [List.lookup_append, List.lookup_cons, hne]

/-- Replacing one item. -/
theorem lookup_zip_replaced {names : List String} (hdistinct : names.Nodup) {before after : List Json}
    {v : Json} (hlength : (before ++ v :: after).length ≤ names.length) (w : Json) :
    ∃ key, names[before.length]? = some key ∧ key ∈ names ∧
      (names.zip (before ++ v :: after)).lookup key = some v ∧
      (names.zip (before ++ w :: after)).lookup key = some w ∧
      ∀ other ≠ key, (names.zip (before ++ w :: after)).lookup other =
        (names.zip (before ++ v :: after)).lookup other := by
  have hindex : before.length < names.length := by
    rw [List.length_append, List.length_cons] at hlength
    omega
  have hitem : ∀ u : Json, (names.zip (before ++ u :: after)).lookup names[before.length] = some u := by
    intro u
    rw [lookup_zip hdistinct _ hindex, List.getElem?_append_right le_rfl, Nat.sub_self]
    rfl
  refine ⟨names[before.length], List.getElem?_eq_getElem hindex, List.getElem_mem hindex,
    hitem v, hitem w, ?_⟩
  intro other hother
  by_cases hknown : other ∈ names
  · obtain ⟨i, hi, rfl⟩ := List.getElem_of_mem hknown
    have hne : before.length ≠ i := by
      rintro rfl
      exact hother rfl
    rw [lookup_zip hdistinct _ hi, lookup_zip hdistinct _ hi, List.getElem?_append,
      List.getElem?_append, List.getElem?_cons, List.getElem?_cons]
    split
    · rfl
    · rw [if_neg (by omega), if_neg (by omega)]
  · have hnone : ∀ items : List Json, (names.zip items).lookup other = none := by
      intro items
      refine lookup_of_not_mem fun hmem => hknown ?_
      obtain ⟨entry, hentry, rfl⟩ := List.mem_map.mp hmem
      exact (List.of_mem_zip hentry).1
    rw [hnone, hnone]

namespace Shape

variable {α : Type}

/-- A record with the names of its fields, or the array of their values. -/
def object (record : Record α) : Shape α where
  read buffered value := (fields record.names value).bind (record.read buffered)
  standing buffered value path :=
    match path with
    | [] => ⟨record.names, false⟩
    | step :: rest =>
      match fieldAt record.names step, value.part step with
      | some key, some part => record.standing buffered key part rest
      | _, _ => .bare

theorem object_strict {record : Record α} (h : record.Strict) (hnames : record.names.Nodup) :
    (object record).Strict where
  alike {buffered v w} halike := by
    show (fields record.names v).bind _ = (fields record.names w).bind _
    cases halike with
    | refl => rfl
    | float a b => rfl
    | @array first second hitems =>
      simp only [fields, hitems.length_eq]
      split
      · exact h.alike fun name _ => lookup_alike (zip_alike _ hitems) name
      · rfl
    | @object first second hentries =>
      simp only [fields, map_fst_alike hentries]
      split
      · exact h.alike fun name _ => lookup_alike hentries name
      · rfl
  inserted {buffered name path v w a} hinserted hname hread := by
    obtain ⟨f, hf, ha⟩ := Option.bind_eq_some_iff.mp hread
    show (fields record.names w).bind (record.read buffered) = _
    cases hinserted with
    | here before after value =>
      have hunknown : fields record.names (.object (before ++ (name, value) :: after)) = none := by
        refine if_neg fun hboth => hname ?_
        exact hboth.1 name (by simp)
      rw [hunknown]
      rfl
    | @entry path value changed before after key hpart =>
      unfold fields at hf
      simp only at hf
      split at hf
      · next hboth =>
        cases hf
        obtain ⟨hknown, hdistinct⟩ := hboth
        obtain ⟨hv, hw, hrest⟩ := lookup_replaced hdistinct changed
        have hkey : key ∈ record.names := hknown key (by simp)
        have hfields : fields record.names (.object (before ++ (key, changed) :: after)) =
            some ⟨false, before ++ (key, changed) :: after⟩ := by
          refine if_pos ?_
          have hsame : (before ++ (key, changed) :: after).map Prod.fst =
              (before ++ (key, value) :: after).map Prod.fst := by simp
          rw [hsame]
          exact ⟨hknown, hdistinct⟩
        have hstanding : (object record).standing buffered
            (.object (before ++ (key, value) :: after)) (.entry key :: path) =
            record.standing buffered key value path := by
          simp only [object, fieldAt, Json.part, hv]
        rw [hstanding] at hname ⊢
        rw [hfields]
        exact h.inserted hnames hkey hpart hname hv hw hrest ha
      · cases hf
    | @item path value changed before after hpart =>
      unfold fields at hf
      simp only at hf
      split at hf
      · next hlength =>
        cases hf
        obtain ⟨key, hindex, hkey, hv, hw, hrest⟩ := lookup_zip_replaced hnames hlength changed
        have hfields : fields record.names (.array (before ++ changed :: after)) =
            some ⟨true, record.names.zip (before ++ changed :: after)⟩ := by
          refine if_pos ?_
          simpa using hlength
        have hstanding : (object record).standing buffered
            (.array (before ++ value :: after)) (.item before.length :: path) =
            record.standing buffered key value path := by
          simp [object, fieldAt, Json.part, hindex]
        rw [hstanding] at hname ⊢
        rw [hfields]
        exact h.inserted hnames hkey hpart hname hv hw hrest ha
      · cases hf

end Shape

/-- The variant that a tag names. Content may also give its index. -/
def variantIndex (buffered : Bool) (names : List String) : Json → Option Nat
  | .string name => names.idxOf? name
  | .int index => if buffered ∧ 0 ≤ index then some index.toNat else none
  | _ => none

/-- The variant of an internally tagged value and what is left beside its tag. -/
def untag (buffered : Bool) (tag : String) (names : List String) : Json → Option (Nat × Json)
  | .object entries =>
    match entries.filter fun entry => entry.1 == tag with
    | [(_, value)] => (variantIndex buffered names value).map fun index =>
      (index, .object (entries.filter fun entry => entry.1 != tag))
    | _ => none
  | .array (value :: items) => (variantIndex buffered names value).map fun index =>
    (index, .array items)
  | _ => none

theorem variantIndex_alike {buffered : Bool} {names : List String} {v w : Json} (h : Alike v w) :
    variantIndex buffered names v = variantIndex buffered names w := by
  cases h <;> rfl

theorem variantIndex_inserted {buffered : Bool} {names : List String} {name : String}
    {path : List Step} {v w : Json} (h : Inserted name path v w) :
    variantIndex buffered names v = none := by
  cases h <;> rfl

theorem filter_alike {first second : List (String × Json)} (p : String → Bool)
    (h : List.Forall₂ (Entry Alike) first second) :
    List.Forall₂ (Entry Alike) (first.filter fun entry => p entry.1)
      (second.filter fun entry => p entry.1) := by
  induction h with
  | nil => exact .nil
  | cons hentry _ ih =>
    obtain ⟨name, hvalue⟩ := hentry
    rw [List.filter_cons, List.filter_cons]
    split
    · exact .cons ⟨name, hvalue⟩ ih
    · exact ih

theorem untag_alike {buffered : Bool} {tag : String} {names : List String} {v w : Json}
    (h : Alike v w) :
    Option.Rel (fun a b => a.1 = b.1 ∧ Alike a.2 b.2) (untag buffered tag names v)
      (untag buffered tag names w) := by
  cases h with
  | refl v =>
    cases untag buffered tag names v with
    | none => exact .none
    | some found => exact .some ⟨rfl, .refl _⟩
  | float a b => exact .none
  | array hitems =>
    cases hitems with
    | nil => exact .none
    | cons hitem hrest =>
      simp only [untag, variantIndex_alike hitem]
      cases variantIndex buffered names _ with
      | none => exact .none
      | some index => exact .some ⟨rfl, .array hrest⟩
  | @object first second hentries =>
    have htags := filter_alike (· == tag) hentries
    have hothers := filter_alike (· != tag) hentries
    simp only [untag]
    revert htags
    generalize first.filter (fun entry => entry.1 == tag) = own
    generalize second.filter (fun entry => entry.1 == tag) = others
    intro htags
    cases htags with
    | nil => exact .none
    | cons hentry hmore =>
      obtain ⟨name, hvalue⟩ := hentry
      cases hmore with
      | cons hnext hmore => exact .none
      | nil =>
        simp only [variantIndex_alike hvalue]
        cases variantIndex buffered names _ with
        | none => exact .none
        | some index => exact .some ⟨rfl, .object hothers⟩

/-- Where a step into a tagged value leads in what is left beside the tag. -/
def contentStep (tag : String) : Step → Option Step
  | .entry name => if name = tag then none else some (.entry name)
  | .item 0 => none
  | .item (i + 1) => some (.item i)

/-- A further entry beside the tag is one of the content. -/
theorem untag_inserted {buffered : Bool} {tag name : String} {names : List String}
    {path : List Step} {v w : Json} {index : Nat} {content : Json} (h : Inserted name path v w)
    (hread : untag buffered tag names v = some (index, content)) (hname : path = [] → name ≠ tag) :
    ∃ changed rest, untag buffered tag names w = some (index, changed) ∧
      Inserted name rest content changed ∧
      ((path = [] ∧ rest = []) ∨
        ∃ step under inner, path = step :: under ∧ contentStep tag step = some inner ∧
          rest = inner :: under) := by
  cases h with
  | here before after value =>
    have hother : (name == tag) = false := by simpa using hname rfl
    have hown : (before ++ (name, value) :: after).filter (fun entry => entry.1 == tag) =
        (before ++ after).filter fun entry => entry.1 == tag := by
      rw [List.filter_append, List.filter_append, List.filter_cons_of_neg (by simp [hother])]
    have hrest : (before ++ (name, value) :: after).filter (fun entry => entry.1 != tag) =
        before.filter (fun entry => entry.1 != tag) ++
          (name, value) :: after.filter fun entry => entry.1 != tag := by
      rw [List.filter_append, List.filter_cons_of_pos (by simp [bne, hother])]
    simp only [untag] at hread ⊢
    rw [hown]
    split at hread
    · next key tagged htagged =>
      obtain ⟨found, hfound, heq⟩ := Option.map_eq_some_iff.mp hread
      cases heq
      refine ⟨_, [], by rw [hfound]; rfl, ?_, .inl ⟨trivial, rfl⟩⟩
      rw [hrest, List.filter_append]
      exact .here _ _ _
    · cases hread
  | @entry path value changed before after key hpart =>
    simp only [untag] at hread ⊢
    by_cases hown : key = tag
    · subst hown
      exfalso
      have hmem : (key, value) ∈ (before ++ (key, value) :: after).filter
          fun entry => entry.1 == key := by simp
      split at hread
      · next other tagged htagged =>
        rw [htagged, List.mem_singleton] at hmem
        cases hmem
        rw [variantIndex_inserted hpart] at hread
        cases hread
      · cases hread
    · have hother : (key == tag) = false := by simpa using hown
      have htags : ∀ u, (before ++ (key, u) :: after).filter (fun entry => entry.1 == tag) =
          (before ++ after).filter fun entry => entry.1 == tag := by
        intro u
        rw [List.filter_append, List.filter_append, List.filter_cons_of_neg (by simp [hother])]
      have hrest : ∀ u, (before ++ (key, u) :: after).filter (fun entry => entry.1 != tag) =
          before.filter (fun entry => entry.1 != tag) ++
            (key, u) :: after.filter fun entry => entry.1 != tag := by
        intro u
        rw [List.filter_append, List.filter_cons_of_pos (by simp [bne, hother])]
      rw [htags] at hread ⊢
      split at hread
      · next other tagged htagged =>
        obtain ⟨found, hfound, heq⟩ := Option.map_eq_some_iff.mp hread
        cases heq
        refine ⟨_, .entry key :: path, by rw [hfound]; rfl, ?_,
          .inr ⟨.entry key, path, .entry key, rfl, if_neg hown, rfl⟩⟩
        rw [hrest, hrest]
        exact .entry _ _ key hpart
      · cases hread
  | @item path value changed before after hpart =>
    rcases before with _ | ⟨tagged, before⟩
    · simp only [List.nil_append, untag, variantIndex_inserted hpart] at hread
      cases hread
    · simp only [List.cons_append, untag] at hread ⊢
      obtain ⟨found, hfound, heq⟩ := Option.map_eq_some_iff.mp hread
      cases heq
      exact ⟨_, .item before.length :: path, by rw [hfound]; rfl, .item _ _ hpart,
        .inr ⟨_, path, .item before.length, rfl, rfl, rfl⟩⟩

namespace Shape

variable {α : Type}

/-- A variant without fields looks at no entry beside its tag. -/
def unit (a : α) : Shape α where
  read _
    | .object _ => some a
    | .array [] => some a
    | _ => none
  standing _ _ _ := ⟨[], true⟩

theorem unit_strict (a : α) : (unit a).Strict where
  alike {buffered v w} h := by
    cases h with
    | refl => rfl
    | float a b => rfl
    | object hentries => rfl
    | array hitems =>
      cases hitems with
      | nil => rfl
      | cons hitem hrest => rfl
  inserted {buffered name path v w b} h hname hread := by
    cases h with
    | here before after value => exact hread
    | entry before after key h => exact hread
    | item before after h =>
      rcases before with _ | ⟨first, before⟩ <;> cases hread

/-- A union whose tag stands among the fields of its variants. -/
def internallyTagged (tag : String) (variants : List (String × Shape α)) : Shape α where
  read buffered value :=
    (untag buffered tag (variants.map Prod.fst) value).bind fun (index, content) =>
      (variants[index]?).bind fun variant => variant.2.read true content
  standing buffered value path :=
    match untag buffered tag (variants.map Prod.fst) value with
    | some (index, content) =>
      match variants[index]? with
      | some variant =>
        match path with
        | [] =>
          let beside := variant.2.standing true content []
          ⟨tag :: beside.names, beside.ignores⟩
        | step :: rest =>
          match contentStep tag step with
          | some inner => variant.2.standing true content (inner :: rest)
          | none => .bare
      | none => .bare
    | none => .bare

theorem internallyTagged_strict {variants : List (String × Shape α)}
    (h : ∀ variant ∈ variants, variant.2.Strict) (tag : String) :
    (internallyTagged tag variants).Strict where
  alike {buffered v w} halike := by
    show (untag _ _ _ v).bind _ = (untag _ _ _ w).bind _
    have huntag : Option.Rel (fun a b => a.1 = b.1 ∧ Alike a.2 b.2)
        (untag buffered tag (variants.map Prod.fst) v)
        (untag buffered tag (variants.map Prod.fst) w) := untag_alike halike
    revert huntag
    cases untag buffered tag (variants.map Prod.fst) v <;>
      cases untag buffered tag (variants.map Prod.fst) w
    · intro _
      rfl
    · intro huntag
      cases huntag
    · intro huntag
      cases huntag
    · next found other =>
      intro huntag
      cases huntag with
      | some huntag =>
        obtain ⟨index, content⟩ := found
        obtain ⟨index', changed⟩ := other
        obtain ⟨rfl, hcontent⟩ : index = index' ∧ Alike content changed := huntag
        simp only [Option.bind_some]
        cases hvariant : variants[index]? with
        | none => rfl
        | some variant => exact (h variant (List.mem_of_getElem? hvariant)).alike hcontent
  inserted {buffered name path v w a} hinserted hname hread := by
    obtain ⟨⟨index, content⟩, huntag, hread⟩ := Option.bind_eq_some_iff.mp hread
    obtain ⟨variant, hvariant, hread⟩ := Option.bind_eq_some_iff.mp hread
    have hstrict := h variant (List.mem_of_getElem? hvariant)
    have htag : path = [] → name ≠ tag := by
      rintro rfl rfl
      refine hname ?_
      simp [internallyTagged, huntag, hvariant]
    obtain ⟨changed, rest, hchanged, hinner, hplace⟩ := untag_inserted hinserted huntag htag
    show (untag buffered tag (variants.map Prod.fst) w).bind _ = _
    rw [hchanged, Option.bind_some]
    simp only [hvariant, Option.bind_some]
    rcases hplace with ⟨rfl, rfl⟩ | ⟨step, under, inner, rfl, hstep, rfl⟩
    · simp only [internallyTagged, huntag, hvariant] at hname ⊢
      rw [hstrict.inserted hinner (fun hmem => hname (List.mem_cons_of_mem _ hmem)) hread]
      rfl
    · simp only [internallyTagged, huntag, hvariant, hstep] at hname ⊢
      exact hstrict.inserted hinner hname hread

end Shape

/-- What an adjacently tagged value is read from: its variant, whether the value
of the variant is buffered, which it is if it comes before the tag, that value
and where it stands. -/
def adjacent (buffered : Bool) (tag content : String) (names : List String) :
    Json → Option (Nat × Bool × Json × Step)
  | .object [(first, v), (second, w)] =>
    if first = tag ∧ second = content then
      ((Shape.unitName buffered v).bind names.idxOf?).map fun index =>
        (index, buffered, w, .entry content)
    else if first = content ∧ second = tag then
      ((Shape.unitName buffered w).bind names.idxOf?).map fun index =>
        (index, true, v, .entry content)
    else none
  | .array [v, w] => (variantIndex buffered names v).map fun index => (index, buffered, w, .item 1)
  | _ => none

/-- One variant and one place in values that are alike. -/
def SameVariant (first second : Nat × Bool × Json × Step) : Prop :=
  first.1 = second.1 ∧ first.2.1 = second.2.1 ∧ Alike first.2.2.1 second.2.2.1 ∧
    first.2.2.2 = second.2.2.2

theorem rel_map_same {index : Option Nat} {buffered : Bool} {v w : Json} {place : Step}
    (h : Alike v w) : Option.Rel SameVariant
      (index.map fun index => (index, buffered, v, place))
      (index.map fun index => (index, buffered, w, place)) := by
  cases index with
  | none => exact .none
  | some index => exact .some ⟨rfl, rfl, h, rfl⟩

theorem adjacent_alike {buffered : Bool} {tag content : String} {names : List String} {v w : Json}
    (h : Alike v w) : Option.Rel SameVariant (adjacent buffered tag content names v)
      (adjacent buffered tag content names w) := by
  cases h with
  | refl v =>
    cases adjacent buffered tag content names v with
    | none => exact .none
    | some found => exact .some ⟨rfl, rfl, .refl _, rfl⟩
  | float a b => exact .none
  | array hitems =>
    cases hitems with
    | nil => exact .none
    | cons hfirst hitems =>
      cases hitems with
      | nil => exact .none
      | cons hsecond hitems =>
        cases hitems with
        | cons hthird hitems => exact .none
        | nil =>
          simp only [adjacent, variantIndex_alike hfirst]
          exact rel_map_same hsecond
  | object hentries =>
    cases hentries with
    | nil => exact .none
    | cons hfirst hentries =>
      obtain ⟨first, hfirst⟩ := hfirst
      cases hentries with
      | nil => exact .none
      | cons hsecond hentries =>
        obtain ⟨second, hsecond⟩ := hsecond
        cases hentries with
        | cons hthird hentries => exact .none
        | nil =>
          simp only [adjacent, Shape.unitName_alike hfirst, Shape.unitName_alike hsecond]
          split
          · exact rel_map_same hsecond
          · split
            · exact rel_map_same hfirst
            · exact .none

/-- A further entry is refused, or it is one of the value of the variant. -/
theorem adjacent_inserted {buffered : Bool} {tag content name : String} (hne : tag ≠ content)
    {names : List String} {path : List Step} {v w : Json} {found : Nat × Bool × Json × Step}
    (h : Inserted name path v w) (hread : adjacent buffered tag content names v = some found) :
    (adjacent buffered tag content names w = none ∧ ∀ rest, path ≠ found.2.2.2 :: rest) ∨
      ∃ changed rest, path = found.2.2.2 :: rest ∧ Inserted name rest found.2.2.1 changed ∧
        adjacent buffered tag content names w = some (found.1, found.2.1, changed, found.2.2.2) := by
  cases h with
  | here before after value =>
    left
    refine ⟨?_, fun rest h => by cases h⟩
    obtain ⟨first, second, hentries⟩ : ∃ first second, before ++ after = [first, second] := by
      unfold adjacent at hread
      split at hread
      · next hobject => exact ⟨_, _, Json.object.inj hobject⟩
      · next hobject => cases hobject
      · cases hread
    have hlength := congrArg List.length hentries
    rw [List.length_append] at hlength
    unfold adjacent
    split
    · next hobject =>
      have hlonger := congrArg List.length (Json.object.inj hobject)
      simp only [List.length_append, List.length_cons, List.length_nil] at hlonger hlength
      omega
    · next hobject => cases hobject
    · rfl
  | @entry path value changed before after key hpart =>
    rcases before with _ | ⟨⟨first, v⟩, before⟩
    · rcases after with _ | ⟨⟨second, w⟩, _ | ⟨third, after⟩⟩
      · cases hread
      · simp only [List.nil_append, adjacent] at hread ⊢
        split at hread
        · next hkeys =>
          obtain ⟨index, hindex, rfl⟩ := Option.map_eq_some_iff.mp hread
          obtain ⟨read, hunit, -⟩ := Option.bind_eq_some_iff.mp hindex
          left
          rw [if_pos hkeys, Shape.unitName_inserted hpart hunit]
          refine ⟨rfl, fun rest h => hne ?_⟩
          rw [← hkeys.1]
          exact Step.entry.inj (List.cons.inj h).1
        · next hkeys =>
          split at hread
          · next hswapped =>
            obtain ⟨index, hindex, rfl⟩ := Option.map_eq_some_iff.mp hread
            right
            rw [if_neg hkeys, if_pos hswapped, hindex]
            exact ⟨changed, path, by rw [hswapped.1], hpart, rfl⟩
          · cases hread
      · cases hread
    · rcases before with _ | ⟨other, before⟩
      · rcases after with _ | ⟨third, after⟩
        · simp only [List.cons_append, List.nil_append, adjacent] at hread ⊢
          split at hread
          · next hkeys =>
            obtain ⟨index, hindex, rfl⟩ := Option.map_eq_some_iff.mp hread
            right
            rw [if_pos hkeys, hindex]
            exact ⟨changed, path, by rw [hkeys.2], hpart, rfl⟩
          · next hkeys =>
            split at hread
            · next hswapped =>
              obtain ⟨index, hindex, rfl⟩ := Option.map_eq_some_iff.mp hread
              obtain ⟨read, hunit, -⟩ := Option.bind_eq_some_iff.mp hindex
              left
              rw [if_neg hkeys, if_pos hswapped, Shape.unitName_inserted hpart hunit]
              refine ⟨rfl, fun rest h => hne ?_⟩
              rw [← hswapped.2]
              exact Step.entry.inj (List.cons.inj h).1
            · cases hread
        · cases hread
      · rcases before with _ | ⟨third, before⟩ <;> cases hread
  | @item path value changed before after hpart =>
    rcases before with _ | ⟨v, before⟩
    · rcases after with _ | ⟨w, _ | ⟨third, after⟩⟩
      · cases hread
      · simp only [List.nil_append, adjacent, variantIndex_inserted hpart] at hread
        cases hread
      · cases hread
    · rcases before with _ | ⟨other, before⟩
      · rcases after with _ | ⟨third, after⟩
        · simp only [List.cons_append, List.nil_append, adjacent] at hread ⊢
          obtain ⟨index, hindex, rfl⟩ := Option.map_eq_some_iff.mp hread
          right
          rw [hindex]
          exact ⟨changed, path, rfl, hpart, rfl⟩
        · cases hread
      · rcases before with _ | ⟨third, before⟩ <;> cases hread

namespace Shape

variable {α : Type}

/-- A union whose tag stands beside the value of its variant. -/
def adjacentlyTagged (tag content : String) (variants : List (String × Shape α)) : Shape α where
  read buffered value :=
    (adjacent buffered tag content (variants.map Prod.fst) value).bind fun (index, held, inner, _) =>
      (variants[index]?).bind fun variant => variant.2.read held inner
  standing buffered value path :=
    match path with
    | [] => ⟨[tag, content], false⟩
    | step :: rest =>
      match adjacent buffered tag content (variants.map Prod.fst) value with
      | some (index, held, inner, place) =>
        match variants[index]? with
        | some variant => if step = place then variant.2.standing held inner rest else .bare
        | none => .bare
      | none => .bare

theorem adjacentlyTagged_strict {variants : List (String × Shape α)}
    (h : ∀ variant ∈ variants, variant.2.Strict) {tag content : String} (hne : tag ≠ content) :
    (adjacentlyTagged tag content variants).Strict where
  alike {buffered v w} halike := by
    show (adjacent _ _ _ _ v).bind _ = (adjacent _ _ _ _ w).bind _
    have hadjacent : Option.Rel SameVariant
        (adjacent buffered tag content (variants.map Prod.fst) v)
        (adjacent buffered tag content (variants.map Prod.fst) w) := adjacent_alike halike
    revert hadjacent
    cases adjacent buffered tag content (variants.map Prod.fst) v <;>
      cases adjacent buffered tag content (variants.map Prod.fst) w
    · intro _
      rfl
    · intro hadjacent
      cases hadjacent
    · intro hadjacent
      cases hadjacent
    · next found other =>
      intro hadjacent
      cases hadjacent with
      | some hsame =>
        obtain ⟨index, held, inner, place⟩ := found
        obtain ⟨index', held', changed, place'⟩ := other
        obtain ⟨rfl, rfl, hinner, -⟩ : index = index' ∧ held = held' ∧ Alike inner changed ∧
          place = place' := hsame
        simp only [Option.bind_some]
        cases hvariant : variants[index]? with
        | none => rfl
        | some variant => exact (h variant (List.mem_of_getElem? hvariant)).alike hinner
  inserted {buffered name path v w a} hinserted hname hread := by
    obtain ⟨⟨index, held, inner, place⟩, hadjacent, hread⟩ := Option.bind_eq_some_iff.mp hread
    obtain ⟨variant, hvariant, hread⟩ := Option.bind_eq_some_iff.mp hread
    have hstrict := h variant (List.mem_of_getElem? hvariant)
    show (adjacent buffered tag content (variants.map Prod.fst) w).bind _ = _
    rcases adjacent_inserted hne hinserted hadjacent with ⟨hrefused, hplace⟩ |
      ⟨changed, rest, rfl, hinner, hchanged⟩
    · rw [hrefused]
      cases path with
      | nil => rfl
      | cons step rest =>
        have hstep : step ≠ place := by
          rintro rfl
          exact hplace rest rfl
        simp only [adjacentlyTagged, hadjacent, hvariant, if_neg hstep]
        rfl
    · simp only [adjacentlyTagged, hadjacent, hvariant, if_true] at hname
      rw [hchanged, Option.bind_some]
      simp only [adjacentlyTagged, hadjacent, hvariant, Option.bind_some, if_true]
      exact hstrict.inserted hinner hname hread

end Shape

section Nested

variable {α β γ V W : Type} {buffered : Bool} {given : Fields}

/-- Records with the same field make related values if they made related
functions of it. -/
theorem rel_field {R : β → γ → Prop} {self : Record (α → β)} {other : Record (α → γ)} (name : String)
    (absent : Option α) (shape : Shape α)
    (h : Option.Rel (fun make make' => ∀ a, R (make a) (make' a)) (self.read buffered given)
      (other.read buffered given)) :
    Option.Rel R ((self.field name absent shape).read buffered given)
      ((other.field name absent shape).read buffered given) := by
  show Option.Rel R (Option.bind _ _) (Option.bind _ _)
  revert h
  cases self.read buffered given <;> cases other.read buffered given
  · intro _
    exact .none
  · intro h
    cases h
  · intro h
    cases h
  · intro h
    cases h with
    | some h =>
      simp only [Option.bind_some]
      cases ((given.entries.lookup name).map (shape.read buffered)).getD absent with
      | none => exact .none
      | some a => exact .some (h a)

/-- The second shape reads what the first one does and passes it to the reader. -/
def Refines (value : Shape V) (f : V → Option W) (other : Shape W) : Prop :=
  ∀ buffered v, other.read buffered v = (value.read buffered v).bind f

theorem Refines.getD {value : Shape V} {f : V → Option W} {other : Shape W}
    (h : Refines value f other) (found : Option Json) :
    (found.map (other.read buffered)).getD none =
      ((found.map (value.read buffered)).getD none).bind f := by
  cases found with
  | none => rfl
  | some v => exact h buffered v

theorem bind_of_rel_some {f : α → Option β} {x : Option α} {y : Option β}
    (h : Option.Rel (fun a b => f a = some b) x y) : x.bind f = y := by
  cases h with
  | none => rfl
  | some h => exact h

/-- The last field of a record is the nested value. -/
theorem Refines.bind_of_rel {value : Shape V} {f : V → Option W} {nested : Shape W}
    (hvalue : Refines value f nested) {g : α → Option β} {self : Record (V → α)}
    {other : Record (W → β)} (name : String)
    (h : Option.Rel (fun make make' => ∀ v, g (make v) = (f v).map make')
      (self.read buffered given) (other.read buffered given)) :
    ((self.required name value).read buffered given).bind g =
      (other.required name nested).read buffered given := by
  show (Option.bind _ _).bind g = Option.bind _ _
  revert h
  cases self.read buffered given <;> cases other.read buffered given
  · intro _
    rfl
  · intro h
    cases h
  · intro h
    cases h
  · intro h
    cases h with
    | some h =>
      simp only [Option.bind_some, hvalue.getD]
      cases ((given.entries.lookup name).map (value.read buffered)).getD none with
      | none => rfl
      | some v => exact h v

theorem object_bind {self : Record α} {other : Record β} {f : α → Option β}
    (hnames : self.names = other.names)
    (h : ∀ given, (self.read buffered given).bind f = other.read buffered given) (v : Json) :
    ((Shape.object self).read buffered v).bind f = (Shape.object other).read buffered v := by
  show ((fields self.names v).bind _).bind f = (fields other.names v).bind _
  rw [Option.bind_assoc, hnames]
  exact congrArg _ (funext h)

/-- The shape of a document, which is an object and no content. -/
def Shape.document (self : Shape α) : Shape α where
  read _ value :=
    match value with
    | .object _ => self.read false value
    | _ => none
  standing _ := self.standing false

theorem Shape.document_strict {shape : Shape α} (h : shape.Strict) : shape.document.Strict where
  alike {buffered v w} halike := by
    cases halike with
    | refl => rfl
    | float a b => rfl
    | array hitems => rfl
    | object hentries => exact h.alike (.object hentries)
  inserted {buffered name path v w a} hinserted hname hread := by
    cases hinserted with
    | here before after value => exact h.inserted (.here before after value) hname hread
    | entry before after key hpart => exact h.inserted (.entry before after key hpart) hname hread
    | item before after hpart => cases hread

end Nested

structure StrictShape (α : Type) extends Shape α where
  strict : toShape.Strict

structure StrictRecord (α : Type) extends Record α where
  strict : toRecord.Strict

namespace StrictRecord

variable {α β : Type}

def start (make : α) : StrictRecord α := ⟨.start make, Record.start_strict make⟩

def required (self : StrictRecord (α → β)) (name : String) (shape : StrictShape α) :
    StrictRecord β :=
  ⟨self.toRecord.required name shape.toShape, Record.required_strict self.strict shape.strict name⟩

def defaulted (self : StrictRecord (α → β)) (name : String) (default : α)
    (shape : StrictShape α) : StrictRecord β :=
  ⟨self.toRecord.defaulted name default shape.toShape,
    Record.defaulted_strict self.strict shape.strict name default⟩

def optional (self : StrictRecord (Option α → β)) (name : String) (shape : StrictShape α) :
    StrictRecord β :=
  ⟨self.toRecord.optional name shape.toShape, Record.optional_strict self.strict shape.strict name⟩

end StrictRecord

namespace StrictShape

variable {α β : Type}

def text : StrictShape String := ⟨.text, Shape.text_strict⟩
def flag : StrictShape Bool := ⟨.flag, Shape.flag_strict⟩
def u16 : StrictShape Nat := ⟨.u16, Shape.u16_strict⟩
def u64 : StrictShape Nat := ⟨.u64, Shape.u64_strict⟩

def andThen (self : StrictShape α) (f : α → Option β) : StrictShape β :=
  ⟨self.toShape.andThen f, Shape.andThen_strict self.strict f⟩

def map (self : StrictShape α) (f : α → β) : StrictShape β := self.andThen fun a => some (f a)

def list (self : StrictShape α) : StrictShape (List α) :=
  ⟨self.toShape.list, Shape.list_strict self.strict⟩

def units (variants : List (String × α)) : StrictShape α := ⟨.units variants, Shape.units_strict variants⟩

def unit (a : α) : StrictShape α := ⟨.unit a, Shape.unit_strict a⟩

def object (record : StrictRecord α) (h : record.names.Nodup) : StrictShape α :=
  ⟨.object record.toRecord, Shape.object_strict record.strict h⟩

theorem forall_strict (variants : List (String × StrictShape α)) :
    ∀ variant ∈ variants.map fun variant => (variant.1, variant.2.toShape), variant.2.Strict := by
  intro variant hvariant
  obtain ⟨⟨name, shape⟩, -, rfl⟩ := List.mem_map.mp hvariant
  exact shape.strict

def internallyTagged (tag : String) (variants : List (String × StrictShape α)) : StrictShape α :=
  ⟨.internallyTagged tag (variants.map fun variant => (variant.1, variant.2.toShape)),
    Shape.internallyTagged_strict (forall_strict variants) tag⟩

def adjacentlyTagged (tag content : String) (h : tag ≠ content)
    (variants : List (String × StrictShape α)) : StrictShape α :=
  ⟨.adjacentlyTagged tag content (variants.map fun variant => (variant.1, variant.2.toShape)),
    Shape.adjacentlyTagged_strict (forall_strict variants) h⟩

end StrictShape

end Serde
