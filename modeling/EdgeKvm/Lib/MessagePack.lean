import Mathlib.Data.List.Basic
import Mathlib.Data.UInt

/-!
# MessagePack

The bytes of values as an encoder writes them that always takes the shortest format. A map has
texts as its keys.
-/

namespace EdgeKvm.Lib.MessagePack

/-- The last `width` bytes of a number, the highest first. -/
def bigEndian : Nat → Nat → List UInt8
  | 0, _ => []
  | width + 1, n => UInt8.ofNat (n / 256 ^ width) :: bigEndian width n

/-- A length in the shortest of the formats that hold it: in the byte that starts at `fixed` if it
    is less than `limit`, or after one of the `markers` in so many bytes. -/
def header (fixed limit : Nat) (markers : List (UInt8 × Nat)) (n : Nat) : List UInt8 :=
  if n < limit then [UInt8.ofNat (fixed + n)]
  else
    match markers.find? fun marker => n < 256 ^ marker.2 with
    | some (marker, width) => marker :: bigEndian width n
    | none => []

def nil : List UInt8 := [0xc0]

def uint (n : UInt64) : List UInt8 :=
  header 0 128 [(0xcc, 1), (0xcd, 2), (0xce, 4), (0xcf, 8)] n.toNat

def str (text : String) : List UInt8 :=
  header 0xa0 32 [(0xd9, 1), (0xda, 2), (0xdb, 4)] text.utf8ByteSize ++ text.toByteArray.data.toList

def array (items : List (List UInt8)) : List UInt8 :=
  header 0x90 16 [(0xdc, 2), (0xdd, 4)] items.length ++ items.flatten

def map (entries : List (String × List UInt8)) : List UInt8 :=
  header 0x80 16 [(0xde, 2), (0xdf, 4)] entries.length ++
    entries.flatMap fun entry => str entry.1 ++ entry.2

/-- The bytes of a `Vec<u8>`, each a number of its own. -/
def byteArray (bytes : List UInt8) : List UInt8 := array (bytes.map fun byte => uint byte.toUInt64)

/-! ## Lengths -/

variable {n width : Nat}

@[simp] theorem length_bigEndian : (bigEndian width n).length = width := by
  induction width with
  | zero => rfl
  | succ width ih => rw [bigEndian, List.length_cons, ih]

/-- A header takes no more than a marker and the widest of its formats. -/
theorem length_header_le {fixed limit : Nat} {markers : List (UInt8 × Nat)}
    (narrow : ∀ marker ∈ markers, marker.2 ≤ width) :
    (header fixed limit markers n).length ≤ width + 1 := by
  unfold header
  split
  · exact Nat.succ_le_succ (Nat.zero_le width)
  · split
    · rename_i marker width' found
      rw [List.length_cons, length_bigEndian]
      exact Nat.succ_le_succ (narrow _ (List.mem_of_find?_eq_some found))
    · exact Nat.zero_le _

theorem length_uint_le (number : UInt64) : (uint number).length ≤ 9 :=
  length_header_le (by decide)

/-- A byte takes two bytes at most. -/
theorem length_uint_byte (byte : UInt8) : (uint byte.toUInt64).length ≤ 2 := by
  have small : byte.toUInt64.toNat < 256 ^ 1 := by
    rw [UInt8.toNat_toUInt64]
    exact byte.toNat_lt
  have found : [((0xcc : UInt8), 1), (0xcd, 2), (0xce, 4), (0xcf, 8)].find?
      (fun marker => byte.toUInt64.toNat < 256 ^ marker.2) = some (0xcc, 1) :=
    List.find?_cons_of_pos (decide_eq_true small)
  unfold uint header
  split
  · exact Nat.le_succ 1
  · rw [found]
    exact Nat.le_refl 2

theorem length_str_le (text : String) : (str text).length ≤ text.utf8ByteSize + 5 := by
  have headed := @length_header_le text.utf8ByteSize 4 0xa0 32 [(0xd9, 1), (0xda, 2), (0xdb, 4)]
    (by decide)
  have bytes : text.toByteArray.data.toList.length = text.utf8ByteSize := by
    rw [Array.length_toList]
    rfl
  rw [str, List.length_append, bytes]
  omega

/-- An array takes its items and a header. -/
theorem length_array_le {items : List (List UInt8)} {most : Nat}
    (small : ∀ item ∈ items, item.length ≤ most) :
    (array items).length ≤ most * items.length + 5 := by
  have headed := @length_header_le items.length 4 0x90 16 [(0xdc, 2), (0xdd, 4)] (by decide)
  have flat : items.flatten.length ≤ most * items.length := by
    clear headed
    induction items with
    | nil => exact Nat.zero_le _
    | cons item items ih =>
      obtain ⟨first, rest⟩ := List.forall_mem_cons.mp small
      rw [List.flatten_cons, List.length_append, List.length_cons, Nat.mul_succ]
      have others := ih rest
      omega
  rw [array, List.length_append]
  omega

theorem length_byteArray_le (bytes : List UInt8) :
    (byteArray bytes).length ≤ 2 * bytes.length + 5 := by
  have items := @length_array_le (bytes.map fun byte => uint byte.toUInt64) 2 (by
    intro item inside
    obtain ⟨byte, -, rfl⟩ := List.mem_map.mp inside
    exact length_uint_byte byte)
  rwa [List.length_map] at items

/-- What the entries of a map take. -/
def entriesLength (entries : List (String × List UInt8)) : Nat :=
  (entries.map fun entry => entry.1.utf8ByteSize + 5 + entry.2.length).foldr (· + ·) 0

/-- A map takes its keys, its values and the headers. -/
theorem length_map_le (entries : List (String × List UInt8)) :
    (map entries).length ≤ entriesLength entries + 5 := by
  have headed := @length_header_le entries.length 4 0x80 16 [(0xde, 2), (0xdf, 4)] (by decide)
  have flat : (entries.flatMap fun entry => str entry.1 ++ entry.2).length ≤
      entriesLength entries := by
    clear headed
    induction entries with
    | nil => exact Nat.le_refl _
    | cons entry entries ih =>
      have key := length_str_le entry.1
      rw [List.flatMap_cons, List.length_append, List.length_append]
      simp only [entriesLength, List.map_cons, List.foldr_cons] at ih ⊢
      omega
  rw [map, List.length_append]
  omega

end EdgeKvm.Lib.MessagePack
