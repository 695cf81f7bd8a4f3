import EdgeKvm.Lib.MessagePack
import Mathlib.Data.List.Basic

/-!
# Slices of a byte string

Bytes read at fixed places. Reading outside of the string fails. Adjacent slices make one, and
numbers are read back from their bytes.
-/

namespace EdgeKvm.Lib

open MessagePack

universe u

variable {ε : Type u} {α : Type} {bytes : List α}

/-- The bytes from `start` up to `stop`. -/
def between (bytes : List α) (start stop : Nat) : List α := (bytes.drop start).take (stop - start)

/-- `bytes[start..stop]` -/
def slice (outside : ε) (bytes : List α) (start stop : Nat) : Except ε (List α) :=
  if start ≤ stop ∧ stop ≤ bytes.length then .ok (between bytes start stop) else .error outside

/-- `bytes[place]` -/
def byteAt (outside : ε) (bytes : List α) (place : Nat) : Except ε α :=
  match bytes[place]? with
  | some byte => .ok byte
  | none => .error outside

/-- `copy_from_slice` into an array, and `try_into` of one. -/
def toArray (outside : ε) (bytes : List α) (width : Nat) : Except ε (List α) :=
  if bytes.length = width then .ok bytes else .error outside

theorem length_between {start stop : Nat} (ordered : start ≤ stop) (inside : stop ≤ bytes.length) :
    (between bytes start stop).length = stop - start := by
  unfold between
  rw [List.length_take, List.length_drop]
  omega

theorem slice_inside (outside : ε) {start stop : Nat} (ordered : start ≤ stop)
    (inside : stop ≤ bytes.length) :
    slice outside bytes start stop = .ok (between bytes start stop) :=
  if_pos ⟨ordered, inside⟩

theorem byteAt_inside (outside : ε) {place : Nat} (inside : place < bytes.length) :
    ∃ byte, byteAt outside bytes place = .ok byte ∧ between bytes place (place + 1) = [byte] := by
  refine ⟨bytes[place], ?_, ?_⟩
  · unfold byteAt
    rw [List.getElem?_eq_getElem inside]
  · unfold between
    rw [Nat.add_sub_cancel_left, List.drop_eq_getElem_cons inside, List.take_succ_cons,
      List.take_zero]

/-- Adjacent slices make one. -/
theorem between_append {start middle stop : Nat} (left : start ≤ middle) (right : middle ≤ stop) :
    between bytes start middle ++ between bytes middle stop = between bytes start stop := by
  unfold between
  have places : stop - start = (middle - start) + (stop - middle) := by omega
  have behind : bytes.drop middle = (bytes.drop start).drop (middle - start) := by
    rw [List.drop_drop, Nat.add_sub_cancel' left]
  rw [places, List.take_add, behind]

theorem between_zero {stop : Nat} : between bytes 0 stop = bytes.take stop := rfl

/-! ## Numbers -/

/-- The number these bytes are, the highest first. -/
def ofBigEndian : List UInt8 → Nat
  | [] => 0
  | byte :: bytes => byte.toNat * 256 ^ bytes.length + ofBigEndian bytes

theorem ofBigEndian_lt (bytes : List UInt8) : ofBigEndian bytes < 256 ^ bytes.length := by
  induction bytes with
  | nil => exact Nat.one_pos
  | cons byte bytes ih =>
    have bound : byte.toNat + 1 ≤ 256 := byte.toNat_lt
    have top := Nat.mul_le_mul_right (256 ^ bytes.length) bound
    rw [Nat.add_mul, Nat.one_mul] at top
    rw [ofBigEndian, List.length_cons, Nat.pow_succ']
    omega

/-- A number is read back from its bytes, but for what they do not hold. -/
theorem ofBigEndian_bigEndian {width n : Nat} :
    ofBigEndian (bigEndian width n) = n % 256 ^ width := by
  induction width with
  | zero => rw [Nat.pow_zero, Nat.mod_one]; rfl
  | succ width ih =>
    rw [bigEndian, ofBigEndian, length_bigEndian, ih, UInt8.toNat_ofNat']
    show n / 256 ^ width % 256 * 256 ^ width + n % 256 ^ width = n % (256 ^ width * 256)
    rw [Nat.mod_mul, Nat.add_comm, Nat.mul_comm (256 ^ width)]

/-- Higher digits are not among the bytes. -/
theorem bigEndian_add_mul {width n high more : Nat} (above : width ≤ more) :
    bigEndian width (high * 256 ^ more + n) = bigEndian width n := by
  induction width with
  | zero => rfl
  | succ width ih =>
    obtain ⟨rest, rfl⟩ := Nat.exists_eq_add_of_le above
    have split : high * 256 ^ (width + 1 + rest) = 256 ^ width * (256 * (high * 256 ^ rest)) := by
      rw [Nat.pow_add, Nat.pow_succ]
      simp only [Nat.mul_comm, Nat.mul_left_comm, Nat.mul_assoc]
    have digit : (high * 256 ^ (width + 1 + rest) + n) / 256 ^ width =
        256 * (high * 256 ^ rest) + n / 256 ^ width := by
      rw [split, Nat.mul_add_div (Nat.pow_pos (by decide))]
    rw [bigEndian, bigEndian, ih (Nat.le_of_succ_le above), digit]
    congr 1
    refine UInt8.toNat_inj.mp ?_
    rw [UInt8.toNat_ofNat', UInt8.toNat_ofNat']
    exact Nat.mul_add_mod _ _ _

/-- The bytes are those of the number read. -/
theorem bigEndian_ofBigEndian (bytes : List UInt8) :
    bigEndian bytes.length (ofBigEndian bytes) = bytes := by
  induction bytes with
  | nil => rfl
  | cons byte bytes ih =>
    have low := ofBigEndian_lt bytes
    have digit : ofBigEndian (byte :: bytes) / 256 ^ bytes.length = byte.toNat := by
      rw [ofBigEndian, Nat.mul_comm, Nat.mul_add_div (Nat.pow_pos (by decide)),
        Nat.div_eq_of_lt low, Nat.add_zero]
    rw [List.length_cons, bigEndian, digit, UInt8.ofNat_toNat, ofBigEndian,
      bigEndian_add_mul (Nat.le_refl _), ih]

end EdgeKvm.Lib
