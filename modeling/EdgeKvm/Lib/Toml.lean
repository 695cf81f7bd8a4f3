/-!
# TOML documents

The values of a document, and how a reader with named fields takes them apart: a field may be
required, optional, or have a value that stands in for it. A writer leaves out the fields that
have no value. Tables have their keys in alphabetical order.
-/

namespace EdgeKvm.Lib.Toml

/-- A value. Floating-point numbers and dates are kept as they are written. -/
inductive Value where
  | string (text : String)
  | integer (n : Int)
  | boolean (b : Bool)
  | other (text : String)
  | array (items : List Value)
  | table (fields : List (String × Value))

/-- The fields of a table. -/
abbrev Fields : Type := List (String × Value)

variable {α : Type}

/-! ## Writing -/

/-- The fields that have a value. -/
def record (entries : List (String × Option Value)) : Fields :=
  entries.filterMap fun entry => entry.2.map fun value => (entry.1, value)

@[simp] theorem lookup_record_nil (key : String) : (record []).lookup key = none := rfl

@[simp] theorem lookup_record_cons (name : String) (value : Option Value)
    (rest : List (String × Option Value)) (key : String) :
    (record ((name, value) :: rest)).lookup key =
      if key = name then value <|> (record rest).lookup key else (record rest).lookup key := by
  unfold record
  rw [List.filterMap_cons]
  cases value with
  | none =>
    by_cases same : key = name
    · rw [if_pos same]
      rfl
    · rw [if_neg same]
      rfl
  | some value =>
    dsimp only [Option.map_some]
    rw [List.lookup_cons]
    by_cases same : key = name
    · rw [if_pos same, beq_iff_eq.mpr same]
      rfl
    · rw [if_neg same, beq_eq_false_iff_ne.mpr same]

/-! ## Reading -/

/-- The fields of a structure whose fields have these names; an array gives them in order. -/
def Value.fields (names : List String) : Value → Option Fields
  | .table fields => some fields
  | .array items => some (names.zip items)
  | _ => none

def Value.asTable : Value → Option Fields
  | .table fields => some fields
  | _ => none

def string : Value → Option String
  | .string text => some text
  | _ => none

def boolean : Value → Option Bool
  | .boolean b => some b
  | _ => none

/-- A number below `size`. -/
def natural (size : Nat) : Value → Option Nat
  | .integer n => if 0 ≤ n ∧ n < size then some n.toNat else none
  | _ => none

def u16 (value : Value) : Option UInt16 := (natural UInt16.size value).map UInt16.ofNat

def u32 (value : Value) : Option UInt32 := (natural UInt32.size value).map UInt32.ofNat

def u64 (value : Value) : Option UInt64 := (natural UInt64.size value).map UInt64.ofNat

def list (decode : Value → Option α) : Value → Option (List α)
  | .array items => items.mapM decode
  | _ => none

/-- One of several names, alone or as the only key of a table with nothing in it. -/
def variant (names : List (String × α)) : Value → Option α
  | .string name => names.lookup name
  | .table [(name, .table [])] => names.lookup name
  | .table [(name, .array [])] => names.lookup name
  | _ => none

/-- A field that must be there. -/
def Fields.required (fields : Fields) (decode : Value → Option α) (key : String) : Option α :=
  (fields.lookup key).bind decode

/-- A field that may be missing. -/
def Fields.optional (fields : Fields) (decode : Value → Option α) (key : String) :
    Option (Option α) :=
  match fields.lookup key with
  | none => some none
  | some value => (decode value).map some

/-- A field that has a value when it is missing. -/
def Fields.defaulted (fields : Fields) (decode : Value → Option α) (key : String) (missing : α) :
    Option α :=
  match fields.lookup key with
  | none => some missing
  | some value => decode value

/-- How texts stand for documents: `read` is what the readers of structures see, `value` a reader
    of any document, which refuses some numbers, and `print` the text of a written `α`. -/
structure Format (α : Type) (write : α → Fields) where
  read : String → Option Fields
  value : String → Option Fields
  print : α → Option String
  read_print : ∀ {a text}, print a = some text → read text = some (write a)
  read_value : ∀ {text fields}, value text = some fields → read text = some fields

/-! ## What was written is read -/

@[simp] theorem string_string (text : String) : string (.string text) = some text := rfl

@[simp] theorem boolean_boolean (b : Bool) : boolean (.boolean b) = some b := rfl

theorem natural_integer {size n : Nat} (small : n < size) :
    natural size (.integer n) = some n := by
  have fits : 0 ≤ (n : Int) ∧ (n : Int) < size := by omega
  show (if 0 ≤ (n : Int) ∧ (n : Int) < size then some (n : Int).toNat else none) = some n
  rw [if_pos fits, Int.toNat_natCast]

@[simp] theorem u16_integer (n : UInt16) : u16 (.integer n.toNat) = some n := by
  rw [u16, natural_integer n.toNat_lt_size, Option.map_some, UInt16.ofNat_toNat]

@[simp] theorem u32_integer (n : UInt32) : u32 (.integer n.toNat) = some n := by
  rw [u32, natural_integer n.toNat_lt_size, Option.map_some, UInt32.ofNat_toNat]

@[simp] theorem u64_integer (n : UInt64) : u64 (.integer n.toNat) = some n := by
  rw [u64, natural_integer n.toNat_lt_size, Option.map_some, UInt64.ofNat_toNat]

theorem list_array {decode : Value → Option α} {encode : α → Value}
    (inverse : ∀ a, decode (encode a) = some a) (items : List α) :
    list decode (.array (items.map encode)) = some items := by
  unfold list
  induction items with
  | nil => rfl
  | cons a items ih =>
    dsimp only at ih ⊢
    rw [List.map_cons, List.mapM_cons, inverse, ih]
    rfl

variable {fields : Fields} {decode : Value → Option α} {key : String} {value : Value}
  {missing a : α}

@[simp] theorem required_of_some (found : fields.lookup key = some value) :
    fields.required decode key = decode value := by
  unfold Fields.required
  rw [found, Option.bind_some]

@[simp] theorem optional_of_some (found : fields.lookup key = some value) :
    fields.optional decode key = (decode value).map some := by
  unfold Fields.optional
  rw [found]

@[simp] theorem optional_of_none (absent : fields.lookup key = none) :
    fields.optional decode key = some none := by
  unfold Fields.optional
  rw [absent]

@[simp] theorem defaulted_of_some (found : fields.lookup key = some value) :
    fields.defaulted decode key missing = decode value := by
  unfold Fields.defaulted
  rw [found]

@[simp] theorem defaulted_of_none (absent : fields.lookup key = none) :
    fields.defaulted decode key missing = some missing := by
  unfold Fields.defaulted
  rw [absent]

/-- A field that is written only if it has a value. -/
theorem optional_of_map {encode : α → Value} {field : Option α}
    (inverse : ∀ a, decode (encode a) = some a) (found : fields.lookup key = field.map encode) :
    fields.optional decode key = some field := by
  cases field with
  | none => exact optional_of_none found
  | some a =>
    rw [optional_of_some found, inverse]
    rfl

/-- A field that is left out when it has the value that stands in for it. -/
theorem defaulted_of_skipped {encode : α → Value} {skip : Bool}
    (inverse : ∀ a, decode (encode a) = some a) (skipped : skip = true → a = missing)
    (found : fields.lookup key = if skip then none else some (encode a)) :
    fields.defaulted decode key missing = some a := by
  cases skip with
  | true =>
    rw [skipped rfl]
    exact defaulted_of_none found
  | false =>
    rw [defaulted_of_some found]
    exact inverse a

end EdgeKvm.Lib.Toml
