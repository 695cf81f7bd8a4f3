import Mathlib.Algebra.Order.Floor.Ring
import Mathlib.Tactic.Linarith

/-!
# Rounding to integers

Rounding toward zero, rounding to the nearest integer with ties away from zero, and the cast that
cuts an integer off at the ends of a range.
-/

namespace EdgeKvm.Lib

universe u

variable {α : Type u} [Field α] [LinearOrder α] [IsStrictOrderedRing α] [FloorRing α] {a : α}
  {k lo hi : Int}

/-- `value` rounded toward zero. -/
def truncate (value : α) : Int := if 0 ≤ value then ⌊value⌋ else ⌈value⌉

/-- The integer nearest to `value`, ties away from zero. -/
def roundAway (value : α) : Int := if 0 ≤ value then ⌊value + 1 / 2⌋ else ⌈value - 1 / 2⌉

/-- The integer of the range that is nearest to `k`. -/
def saturate (lo hi k : Int) : Int := max lo (min k hi)

theorem saturate_mem (ordered : lo ≤ hi) : lo ≤ saturate lo hi k ∧ saturate lo hi k ≤ hi := by
  unfold saturate
  omega

theorem saturate_of_mem (above : lo ≤ k) (below : k ≤ hi) : saturate lo hi k = k := by
  unfold saturate
  omega

/-! ## Toward zero -/

omit [IsStrictOrderedRing α] in
theorem truncate_of_nonneg (nonneg : 0 ≤ a) : truncate a = ⌊a⌋ := if_pos nonneg

omit [IsStrictOrderedRing α] in
theorem truncate_of_neg (neg : a < 0) : truncate a = ⌈a⌉ := if_neg (not_le.mpr neg)

/-- Less than one unit is cut off. -/
theorem abs_sub_truncate_lt_one (a : α) : |a - truncate a| < 1 := by
  rw [abs_lt]
  by_cases nonneg : 0 ≤ a
  · have below := Int.floor_le a
    have above := Int.lt_floor_add_one a
    rw [truncate_of_nonneg nonneg]
    constructor <;> linarith
  · have below := Int.le_ceil a
    have above := Int.ceil_lt_add_one a
    rw [truncate_of_neg (not_le.mp nonneg)]
    constructor <;> linarith

theorem truncate_le_iff (nonneg : 0 ≤ hi) : truncate a ≤ hi ↔ a < hi + 1 := by
  have cast : (0 : α) ≤ hi := by exact_mod_cast nonneg
  by_cases sign : 0 ≤ a
  · rw [truncate_of_nonneg sign, ← Int.lt_add_one_iff, Int.floor_lt]
    push_cast
    exact Iff.rfl
  · have neg := not_le.mp sign
    have below : ⌈a⌉ ≤ 0 := Int.ceil_le.mpr (by push_cast; exact neg.le)
    rw [truncate_of_neg neg]
    exact ⟨fun _ => by linarith, fun _ => le_trans below nonneg⟩

theorem le_truncate_iff (nonpos : lo ≤ 0) : lo ≤ truncate a ↔ (lo : α) - 1 < a := by
  have cast : (lo : α) ≤ 0 := by exact_mod_cast nonpos
  by_cases sign : 0 ≤ a
  · have above : 0 ≤ ⌊a⌋ := Int.floor_nonneg.mpr sign
    rw [truncate_of_nonneg sign]
    exact ⟨fun _ => by linarith, fun _ => le_trans nonpos above⟩
  · rw [truncate_of_neg (not_le.mp sign), ← Int.sub_one_lt_iff, Int.lt_ceil]
    push_cast
    exact Iff.rfl

/-- A value that truncates into the range keeps less than one unit behind the cast, and a value
    beyond it one unit or more. -/
theorem abs_sub_saturate_truncate_lt_one (nonpos : lo ≤ 0) (nonneg : 0 ≤ hi) :
    |a - saturate lo hi (truncate a)| < 1 ↔ (lo : α) - 1 < a ∧ a < hi + 1 := by
  constructor
  · intro small
    obtain ⟨above, below⟩ := abs_lt.mp small
    obtain ⟨least, most⟩ := saturate_mem (k := truncate a) (le_trans nonpos nonneg)
    have least : (lo : α) ≤ saturate lo hi (truncate a) := by exact_mod_cast least
    have most : (saturate lo hi (truncate a) : α) ≤ hi := by exact_mod_cast most
    exact ⟨by linarith, by linarith⟩
  · rintro ⟨above, below⟩
    rw [saturate_of_mem ((le_truncate_iff nonpos).mpr above) ((truncate_le_iff nonneg).mpr below)]
    exact abs_sub_truncate_lt_one a

/-! ## To the nearest integer -/

/-- Rounding does not leave a range that has integer ends. -/
theorem roundAway_mem (above : (lo : α) ≤ a) (below : a ≤ hi) :
    lo ≤ roundAway a ∧ roundAway a ≤ hi := by
  have half : (0 : α) < 1 / 2 := by norm_num
  unfold roundAway
  by_cases sign : 0 ≤ a
  · rw [if_pos sign]
    refine ⟨Int.le_floor.mpr (by linarith), Int.lt_add_one_iff.mp (Int.floor_lt.mpr ?_)⟩
    push_cast
    linarith
  · rw [if_neg sign]
    refine ⟨Int.sub_one_lt_iff.mp (Int.lt_ceil.mpr ?_), Int.ceil_le.mpr (by linarith)⟩
    push_cast
    linarith

end EdgeKvm.Lib
