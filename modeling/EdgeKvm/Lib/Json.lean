import EdgeKvm.Lib.Cut
import Mathlib.Data.Nat.Basic

/-!
# JSON

The text of values as an encoder writes them that puts no blanks between them and escapes only
what it has to.
-/

namespace EdgeKvm.Lib.Json

/-- A letter of a string. -/
def escape (c : Char) : List Char :=
  if c = Char.ofNat 0x22 then [Char.ofNat 0x5c, Char.ofNat 0x22]
  else if c = Char.ofNat 0x5c then [Char.ofNat 0x5c, Char.ofNat 0x5c]
  else if c.toNat = 0x08 then [Char.ofNat 0x5c, 'b']
  else if c.toNat = 0x09 then [Char.ofNat 0x5c, 't']
  else if c.toNat = 0x0a then [Char.ofNat 0x5c, 'n']
  else if c.toNat = 0x0c then [Char.ofNat 0x5c, 'f']
  else if c.toNat = 0x0d then [Char.ofNat 0x5c, 'r']
  else if c.toNat < 0x20 then
    [Char.ofNat 0x5c, 'u', '0', '0', Nat.digitChar (c.toNat / 16), Nat.digitChar (c.toNat % 16)]
  else [c]

def null : List Char := ['n', 'u', 'l', 'l']

def bool (b : Bool) : List Char :=
  if b then ['t', 'r', 'u', 'e'] else ['f', 'a', 'l', 's', 'e']

def number (n : Nat) : List Char := Nat.toDigits 10 n

def string (text : String) : List Char :=
  Char.ofNat 0x22 :: (text.toList.flatMap escape ++ [Char.ofNat 0x22])

/-- What stands between the brackets. -/
def list (items : List (List Char)) : List Char := [','].intercalate items

def array (items : List (List Char)) : List Char := '[' :: (list items ++ [']'])

def object (entries : List (String × List Char)) : List Char :=
  Char.ofNat 0x7b :: (list (entries.map fun entry => string entry.1 ++ ':' :: entry.2) ++
    [Char.ofNat 0x7d])

/-- The bytes of a `Vec<u8>`, each a number of its own. -/
def byteArray (bytes : List UInt8) : List Char := array (bytes.map fun byte => number byte.toNat)

/-! ## Sizes -/

/-- The size of a text in UTF-8. -/
def size (text : List Char) : Nat := weight Char.utf8Size text

@[simp] theorem size_nil : size [] = 0 := rfl

@[simp] theorem size_cons (c : Char) (text : List Char) :
    size (c :: text) = c.utf8Size + size text := rfl

@[simp] theorem size_append (text more : List Char) :
    size (text ++ more) = size text + size more := weight_append _ text more

theorem length_le_size (text : List Char) : text.length ≤ size text := by
  induction text with
  | nil => exact Nat.le_refl 0
  | cons c text ih =>
    have positive := c.utf8Size_pos
    rw [List.length_cons, size_cons]
    omega

theorem utf8Size_of_ascii {c : Char} (ascii : c.toNat < 0x80) : c.utf8Size = 1 := by
  refine Char.utf8Size_eq_one_iff.mpr (UInt32.le_iff_toNat_le.mpr ?_)
  exact Nat.le_of_lt_succ ascii

/-- Only letters of ASCII are escaped. -/
theorem escape_cases (c : Char) : escape c = [c] ∨ c.toNat < 0x80 ∧ 1 ≤ (escape c).length := by
  unfold escape
  split_ifs with quote slash
  · exact .inr ⟨quote ▸ by decide, by decide⟩
  · exact .inr ⟨slash ▸ by decide, by decide⟩
  all_goals first
    | exact .inr ⟨by omega, Nat.le_add_left 1 _⟩
    | exact .inl rfl

/-- No letter gets shorter. -/
theorem utf8Size_le_escape (c : Char) : c.utf8Size ≤ size (escape c) := by
  obtain plain | ⟨ascii, some⟩ := escape_cases c
  · rw [plain]
    exact Nat.le_refl _
  · rw [utf8Size_of_ascii ascii]
    exact Nat.le_trans some (length_le_size _)

theorem le_size_string (text : String) : text.utf8ByteSize ≤ size (string text) := by
  rw [utf8ByteSize_eq_weight]
  have letters : ∀ text : List Char, size text ≤ size (text.flatMap escape) := by
    intro text
    induction text with
    | nil => exact Nat.le_refl 0
    | cons c text ih =>
      have letter := utf8Size_le_escape c
      rw [List.flatMap_cons, size_append, size_cons]
      omega
  have inner := letters text.toList
  rw [string, size_cons, size_append]
  exact Nat.le_trans inner (by omega)

/-- The sizes of several texts. -/
def sizes (items : List (List Char)) : Nat := (items.map size).foldr (· + ·) 0

@[simp] theorem sizes_nil : sizes [] = 0 := rfl

@[simp] theorem sizes_cons (item : List Char) (items : List (List Char)) :
    sizes (item :: items) = size item + sizes items := rfl

/-- The commas come on top of the items. -/
theorem le_size_list (items : List (List Char)) : sizes items + items.length ≤ size (list items) + 1 := by
  induction items with
  | nil => exact Nat.le_succ 0
  | cons item items ih =>
    cases items with
    | nil => simp [list]
    | cons next items =>
      have comma : size [','] = 1 := by decide
      rw [list, List.intercalate_cons_cons, size_append, size_append, comma, sizes_cons,
        List.length_cons]
      rw [list] at ih
      omega

theorem le_size_array (items : List (List Char)) : sizes items ≤ size (array items) := by
  have inner := le_size_list items
  have bracket : 1 ≤ '['.utf8Size := Char.utf8Size_pos _
  rw [array, size_cons, size_append]
  omega

/-- An object takes its values. -/
theorem le_size_object (entries : List (String × List Char)) :
    sizes (entries.map Prod.snd) ≤ size (object entries) := by
  have values : sizes (entries.map Prod.snd) ≤
      sizes (entries.map fun entry => string entry.1 ++ ':' :: entry.2) := by
    induction entries with
    | nil => exact Nat.le_refl 0
    | cons entry entries ih =>
      simp only [List.map_cons, sizes_cons, size_append, size_cons]
      omega
  have inner := le_size_list (entries.map fun entry => string entry.1 ++ ':' :: entry.2)
  have brace : 1 ≤ (Char.ofNat 0x7b).utf8Size := Char.utf8Size_pos _
  rw [object, size_cons, size_append]
  omega

/-- A byte takes a digit and a comma or bracket. -/
theorem le_size_byteArray (bytes : List UInt8) : 2 * bytes.length ≤ size (byteArray bytes) := by
  have digits : ∀ bytes : List UInt8,
      bytes.length ≤ sizes (bytes.map fun byte => number byte.toNat) := by
    intro bytes
    induction bytes with
    | nil => exact Nat.le_refl 0
    | cons byte bytes ih =>
      have digit : 1 ≤ (number byte.toNat).length := Nat.length_toDigits_pos
      have sized := length_le_size (number byte.toNat)
      rw [List.map_cons, sizes_cons, List.length_cons]
      omega
  have inner := le_size_list (bytes.map fun byte => number byte.toNat)
  have each := digits bytes
  have bracket : 1 ≤ '['.utf8Size := Char.utf8Size_pos _
  rw [List.length_map] at inner
  rw [byteArray, array, size_cons, size_append]
  omega

end EdgeKvm.Lib.Json
