import GhostLayer.Foundation.Json
import Mathlib.Data.List.Nodup

/-! # Decoding records and variants

Decoders from JSON values with the conventions of derived deserializers. A
record is read from an object, where unknown fields are ignored and a repeated
field is refused, or from an array of its fields in order. A variant is tagged
by its name from outside.
-/

namespace Foundation.Serde

variable {α : Type}

abbrev Decoder (α : Type) := Json → Option α

def text : Decoder String
  | .str value => some value
  | _ => none

/-- A natural number below a bound. -/
def natBelow (bound : Nat) : Decoder Nat
  | .num value => if value < bound then some value else none
  | _ => none

def u8 : Decoder UInt8 := fun json => (natBelow (2 ^ 8) json).map UInt8.ofNat

def u32 : Decoder UInt32 := fun json => (natBelow (2 ^ 32) json).map UInt32.ofNat

def u64 : Decoder UInt64 := fun json => (natBelow (2 ^ 64) json).map UInt64.ofNat

def seq (item : Decoder α) : Decoder (List α)
  | .arr items => items.mapM item
  | _ => none

def bytes : Decoder Bytes := seq u8

/-- An array of a fixed length. -/
def byteArray (length : Nat) : Decoder (Vector UInt8 length) := fun json =>
  match bytes json with
  | some values =>
      if hlength : values.length = length then some ⟨values.toArray, by simpa using hlength⟩
      else none
  | none => none

def nullable (item : Decoder α) : Decoder (Option α)
  | .null => some none
  | json => (item json).map some

def ofBytes (values : Bytes) : Json := .arr (values.map (fun byte => .num byte.toNat))

def ofNullable (encode : α → Json) : Option α → Json
  | none => .null
  | some value => encode value

/-! ## Records -/

/-- The fields of a record, in the order of their names. The last `defaults` of them have a
default and may be left out of the array form; whether a field may be left out of the object form
is up to the field. -/
def record (names : List String) (defaults : Nat) : Decoder (List (Option Json))
  | .obj fields =>
      if ∀ name ∈ names, (fields.filter (fun field => field.1 == name)).length ≤ 1 then
        some (names.map (fun name => fields.lookup name))
      else none
  | .arr items =>
      if names.length - defaults ≤ items.length ∧ items.length ≤ names.length then
        some (items.map some ++ List.replicate (names.length - items.length) none)
      else none
  | _ => none

def required (decode : Decoder α) (field : Option Json) : Option α := field.bind decode

/-- A field that is absent when it is left out. -/
def optional (decode : Decoder α) : Option Json → Option (Option α)
  | none => some none
  | some json => nullable decode json

/-! ## Variants -/

/-- The name of a variant and its content; a bare name has none. -/
def variant : Decoder (String × Option Json)
  | .str name => some (name, none)
  | .obj [(name, content)] => some (name, some content)
  | _ => none

/-- A variant that carries nothing, from a table of such variants. -/
def unitVariant (table : List (String × α)) : Decoder α := fun json =>
  match variant json with
  | some (name, none) => table.lookup name
  | some (name, some .null) => table.lookup name
  | _ => none

/-! ## Reading back -/

@[simp] theorem text_str (value : String) : text (.str value) = some value := rfl

@[simp] theorem u8_num (byte : UInt8) : u8 (.num byte.toNat) = some byte := by
  have hlt : byte.toNat < 256 := byte.toNat_lt
  simp [u8, natBelow, hlt]

@[simp] theorem u32_num (value : UInt32) : u32 (.num value.toNat) = some value := by
  have hlt : value.toNat < 4294967296 := value.toNat_lt
  simp [u32, natBelow, hlt]

@[simp] theorem u64_num (value : UInt64) : u64 (.num value.toNat) = some value := by
  have hlt : value.toNat < 18446744073709551616 := value.toNat_lt
  simp [u64, natBelow, hlt]

theorem mapM_map_of_inverse {β : Type} {encode : β → Json} {decode : Decoder β}
    (hinverse : ∀ value, decode (encode value) = some value) (values : List β) :
    (values.map encode).mapM decode = some values := by
  induction values with
  | nil => rfl
  | cons value values ih => simp [hinverse, ih]

@[simp] theorem bytes_ofBytes (values : Bytes) : bytes (ofBytes values) = some values :=
  mapM_map_of_inverse u8_num values

@[simp] theorem byteArray_ofBytes {length : Nat} (values : Vector UInt8 length) :
    byteArray length (ofBytes values.toList) = some values := by
  simp only [byteArray, bytes_ofBytes, Vector.length_toList, ↓reduceDIte, Option.some.injEq]
  exact Vector.toArray_inj.mp (by simp [Vector.toList])

@[simp] theorem nullable_null (decode : Decoder α) : nullable decode .null = some none := rfl

theorem nullable_ofNullable {encode : α → Json} {decode : Decoder α}
    (hinverse : ∀ value, decode (encode value) = some value) (hnull : ∀ value, encode value ≠ .null)
    (value : Option α) : nullable decode (ofNullable encode value) = some value := by
  cases value with
  | none => rfl
  | some value =>
      have hitem := hinverse value
      have hvalue := hnull value
      rw [ofNullable]
      cases hjson : encode value <;> simp_all [nullable]

@[simp] theorem required_some (decode : Decoder α) (json : Json) :
    required decode (some json) = decode json := rfl

@[simp] theorem optional_some (decode : Decoder α) (json : Json) :
    optional decode (some json) = nullable decode json := rfl

theorem lookup_zip {names : List String} {values : List Json} (hnames : names.Nodup)
    (hlength : values.length = names.length) :
    names.map (fun name => (names.zip values).lookup name) = values.map some := by
  induction names generalizing values with
  | nil => simp [List.length_eq_zero_iff.mp hlength]
  | cons name names ih =>
      cases values with
      | nil => simp at hlength
      | cons value values =>
          obtain ⟨hfresh, hnames⟩ := List.nodup_cons.mp hnames
          have hrest := ih hnames (Nat.succ.inj hlength)
          simp only [List.zip_cons_cons, List.map_cons, List.lookup_cons_self, List.cons.injEq,
            true_and]
          rw [← hrest]
          apply List.map_congr_left
          intro other hother
          have hne : (other == name) = false := by
            rw [beq_eq_false_iff_ne]
            rintro rfl
            exact hfresh hother
          simp only [List.lookup_cons, hne]

/-- A record written as an object is read back field by field. -/
theorem record_zip {names : List String} {values : List Json} (defaults : Nat)
    (hnames : names.Nodup) (hlength : values.length = names.length) :
    record names defaults (.obj (names.zip values)) = some (values.map some) := by
  have honce : ∀ name ∈ names,
      ((names.zip values).filter (fun field => field.1 == name)).length ≤ 1 := by
    intro name _
    have hcount : ((names.zip values).filter (fun field => field.1 == name)).length =
        names.count name := by
      rw [← List.countP_eq_length_filter, List.count]
      conv_rhs => rw [← List.map_fst_zip (Nat.le_of_eq hlength.symm)]
      rw [List.countP_map]
      rfl
    rw [hcount]
    exact List.nodup_iff_count_le_one.mp hnames name
  rw [record, if_pos honce, lookup_zip hnames hlength]

/-! ## Values within the parser's limits -/

open Json in
theorem readableItems_map_num (depth : Nat) (values : Bytes) :
    readableItems depth (values.map (fun byte => .num byte.toNat)) = true := by
  induction values with
  | nil => rfl
  | cons byte values ih =>
      have hlt : byte.toNat < 2 ^ 64 := lt_trans byte.toNat_lt (by decide)
      simp [readableItems, readable, ih]
      omega

@[simp] theorem readable_ofBytes (depth : Nat) (values : Bytes) :
    Json.readable (depth + 1) (ofBytes values) = true :=
  readableItems_map_num depth values

theorem readable_ofNullable {encode : α → Json} {depth : Nat} {value : Option α}
    (hitem : ∀ item ∈ value, Json.readable depth (encode item) = true) :
    Json.readable depth (ofNullable encode value) = true := by
  cases value with
  | none => simp [ofNullable, Json.readable]
  | some item => exact hitem item rfl

theorem readableItems_texts (depth : Nat) (texts : List String) :
    Json.readableItems depth (texts.map .str) = true := by
  induction texts with
  | nil => rfl
  | cons text texts ih => simp [Json.readableItems, Json.readable, ih]

theorem readable_u64 (depth : Nat) (value : UInt64) :
    Json.readable depth (.num value.toNat) = true := by
  have hlt : value.toNat < 2 ^ 64 := value.toNat_lt
  simpa [Json.readable] using hlt

end Foundation.Serde
