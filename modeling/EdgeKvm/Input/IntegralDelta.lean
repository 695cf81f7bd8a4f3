import EdgeKvm.Lib.Rounding
import Mathlib.Data.List.Induction
import Mathlib.Data.Rat.Floor
import Mathlib.Tactic.Ring

/-!
# Fractions of motion

`integral_delta` of `crates/edge-linux-input/src/uinput.rs`: evdev takes whole units, and what is
left over waits for the next delta. Deltas are exact; the device may refuse what is emitted.
-/

namespace EdgeKvm.Input

open EdgeKvm.Lib

/-- `i32::MIN` -/
def i32Min : Int := -2147483648

/-- `i32::MAX` -/
def i32Max : Int := 2147483647

/-- `value.trunc() as i32`, whose cast saturates. -/
def truncToI32 (value : ℚ) : Int := saturate i32Min i32Max (truncate value)

/-- `integral_delta`: the integers to emit and the new remainder. -/
def integralDelta (remainder : ℚ × ℚ) (x y : ℚ) : (Int × Int) × (ℚ × ℚ) :=
  let sum := (remainder.1 + x, remainder.2 + y)
  let integral := (truncToI32 sum.1, truncToI32 sum.2)
  (integral, (sum.1 - integral.1, sum.2 - integral.2))

/-! ## The accumulator -/

/-- The remainder after some deltas, and the integers returned so far. -/
structure Accumulated where
  returned : List (Int × Int) := []
  remainder : ℚ × ℚ := (0, 0)
  deriving DecidableEq

namespace Accumulated

def add (sum : Accumulated) (delta : ℚ × ℚ) : Accumulated :=
  let next := integralDelta sum.remainder delta.1 delta.2
  { returned := sum.returned ++ [next.1], remainder := next.2 }

end Accumulated

/-- A new accumulator after the deltas. -/
def accumulate (deltas : List (ℚ × ℚ)) : Accumulated := deltas.foldl Accumulated.add {}

/-! ## The pointer -/

/-- The events whose deltas are accumulated, and the one that forgets them. -/
inductive PointerEvent where
  | pointerMotion (dx dy : ℚ)
  | pointerWheel (x y : ℚ)
  | allKeysUp

/-- The remainders of `UinputSender`. -/
structure UinputPointer where
  motionRemainder : ℚ × ℚ := (0, 0)
  wheelRemainder : ℚ × ℚ := (0, 0)
  deriving DecidableEq

namespace UinputPointer

/-- `emit_relative`: the axes that moved go to the device, which answers `accepted`. -/
def emitRelative (delta : Int × Int) (accepted : Bool) : Except Unit Unit :=
  if delta.1 = 0 ∧ delta.2 = 0 then .ok () else if accepted then .ok () else .error ()

/-- `UinputSender::inject`; `accepted` is the answer of the device. Both remainders are gone after
    `release_all`, which has keys to emit or not. -/
def inject (pointer : UinputPointer) (accepted : Bool) :
    PointerEvent → Except Unit Unit × UinputPointer
  | .pointerMotion dx dy =>
    let delta := integralDelta pointer.motionRemainder dx dy
    (emitRelative delta.1 accepted, { pointer with motionRemainder := delta.2 })
  | .pointerWheel x y =>
    let delta := integralDelta pointer.wheelRemainder x y
    (emitRelative delta.1 accepted, { pointer with wheelRemainder := delta.2 })
  | .allKeysUp => (if accepted then .ok () else .error (), {})

/-- A new pointer after the events, each with the answer of the device to it. -/
def after (events : List (PointerEvent × Bool)) : UinputPointer :=
  events.foldl (fun pointer event => (pointer.inject event.2 event.1).2) {}

end UinputPointer

/-! ## What is left over -/

/-- `value` truncates to an `i32`. -/
def Fits (value : ℚ) : Prop := (i32Min : ℚ) - 1 < value ∧ value < i32Max + 1

theorem abs_sub_truncToI32_lt_one {value : ℚ} : |value - truncToI32 value| < 1 ↔ Fits value :=
  abs_sub_saturate_truncate_lt_one (by decide) (by decide)

/-- A value that does not fit returns the end of the range on its side. -/
theorem truncToI32_of_not_fits {value : ℚ} (beyond : ¬ Fits value) :
    truncToI32 value = i32Min ∨ truncToI32 value = i32Max := by
  by_cases above : (i32Min : ℚ) - 1 < value
  · have most : ¬ truncate value ≤ i32Max := fun within =>
      beyond ⟨above, (truncate_le_iff (by decide)).mp within⟩
    right
    unfold truncToI32 saturate i32Min
    rw [min_eq_right (not_le.mp most).le]
    rfl
  · have least : ¬ i32Min ≤ truncate value := fun within =>
      above ((le_truncate_iff (by decide)).mp within)
    left
    unfold truncToI32 saturate
    exact max_eq_left (le_trans (min_le_left _ _) (not_le.mp least).le)

theorem accumulate_append (deltas : List (ℚ × ℚ)) (delta : ℚ × ℚ) :
    accumulate (deltas ++ [delta]) = (accumulate deltas).add delta := by
  rw [accumulate, List.foldl_append]
  rfl

/-- What was returned and what is left over is what was put in. -/
structure Accumulated.Conserves (sum : Accumulated) (deltas : List (ℚ × ℚ)) : Prop where
  first : ((sum.returned.map fun integral => integral.1).sum : ℚ) + sum.remainder.1 =
    (deltas.map fun delta => delta.1).sum
  second : ((sum.returned.map fun integral => integral.2).sum : ℚ) + sum.remainder.2 =
    (deltas.map fun delta => delta.2).sum

theorem Accumulated.Conserves.add {sum : Accumulated} {deltas : List (ℚ × ℚ)} (delta : ℚ × ℚ)
    (conserves : sum.Conserves deltas) : (sum.add delta).Conserves (deltas ++ [delta]) := by
  have first := conserves.first
  have second := conserves.second
  constructor
  · simp only [Accumulated.add, integralDelta, List.map_append, List.map_cons, List.map_nil,
      List.sum_append, List.sum_cons, List.sum_nil, add_zero]
    rw [← first]
    ring
  · simp only [Accumulated.add, integralDelta, List.map_append, List.map_cons, List.map_nil,
      List.sum_append, List.sum_cons, List.sum_nil, add_zero]
    rw [← second]
    ring

theorem accumulate_conserves (deltas : List (ℚ × ℚ)) : (accumulate deltas).Conserves deltas := by
  induction deltas using List.reverseRecOn with
  | nil => exact ⟨by simp [accumulate], by simp [accumulate]⟩
  | append_singleton deltas delta ih =>
    rw [accumulate_append]
    exact ih.add delta

/-! ## The answers of the device -/

/-- A motion adds its delta, `AllKeysUp` forgets them all. -/
def addMotion (deltas : List (ℚ × ℚ)) : PointerEvent → List (ℚ × ℚ)
  | .pointerMotion dx dy => deltas ++ [(dx, dy)]
  | .pointerWheel _ _ => deltas
  | .allKeysUp => []

def addWheel (deltas : List (ℚ × ℚ)) : PointerEvent → List (ℚ × ℚ)
  | .pointerMotion _ _ => deltas
  | .pointerWheel x y => deltas ++ [(x, y)]
  | .allKeysUp => []

/-- The deltas of the motions since the last `AllKeysUp`. -/
def motions (events : List PointerEvent) : List (ℚ × ℚ) := events.foldl addMotion []

/-- The deltas of the wheel since the last `AllKeysUp`. -/
def wheels (events : List PointerEvent) : List (ℚ × ℚ) := events.foldl addWheel []

theorem motions_append (events : List PointerEvent) (event : PointerEvent) :
    motions (events ++ [event]) = addMotion (motions events) event := by
  rw [motions, List.foldl_append]
  rfl

theorem wheels_append (events : List PointerEvent) (event : PointerEvent) :
    wheels (events ++ [event]) = addWheel (wheels events) event := by
  rw [wheels, List.foldl_append]
  rfl

/-- The remainders depend on the deltas only, whatever the device answered. -/
theorem after_eq (events : List (PointerEvent × Bool)) :
    UinputPointer.after events =
      { motionRemainder := (accumulate (motions (events.map (·.1)))).remainder
        wheelRemainder := (accumulate (wheels (events.map (·.1)))).remainder } := by
  induction events using List.reverseRecOn with
  | nil => rfl
  | append_singleton events event ih =>
    obtain ⟨event, accepted⟩ := event
    have last : UinputPointer.after (events ++ [(event, accepted)]) =
        ((UinputPointer.after events).inject accepted event).2 := by
      rw [UinputPointer.after, List.foldl_append]
      rfl
    rw [last, ih, List.map_append, List.map_singleton, motions_append, wheels_append]
    cases event with
    | pointerMotion dx dy =>
      rw [addMotion, accumulate_append]
      rfl
    | pointerWheel x y =>
      rw [addWheel, accumulate_append]
      rfl
    | allKeysUp => rfl

/-! ## No motion is lost -/

/-- Nothing is lost by rounding: the returned integers and the remainder make up the deltas, the
    remainder of an axis is a fraction exactly when the value last rounded fits an `i32`, the excess
    of one that does not stays in the remainder, and an emit that fails changes no remainder. -/
theorem no_motion_lost (deltas : List (ℚ × ℚ)) (events : List (PointerEvent × Bool)) :
    (accumulate deltas).Conserves deltas ∧
    (∀ delta : ℚ × ℚ,
      let sum := (accumulate deltas).remainder + delta
      let next := accumulate (deltas ++ [delta])
      (|next.remainder.1| < 1 ↔ Fits sum.1) ∧ (|next.remainder.2| < 1 ↔ Fits sum.2) ∧
      (Fits sum.1 ∨ next.remainder.1 = sum.1 - i32Min ∨ next.remainder.1 = sum.1 - i32Max) ∧
      (Fits sum.2 ∨ next.remainder.2 = sum.2 - i32Min ∨ next.remainder.2 = sum.2 - i32Max)) ∧
    UinputPointer.after events =
      { motionRemainder := (accumulate (motions (events.map (·.1)))).remainder
        wheelRemainder := (accumulate (wheels (events.map (·.1)))).remainder } := by
  have excess (value : ℚ) : Fits value ∨ value - truncToI32 value = value - i32Min ∨
      value - truncToI32 value = value - i32Max := by
    by_cases fits : Fits value
    · exact .inl fits
    · rcases truncToI32_of_not_fits fits with least | most
      · exact .inr (.inl (by rw [least]))
      · exact .inr (.inr (by rw [most]))
  refine ⟨accumulate_conserves deltas, ?_, after_eq events⟩
  intro delta
  rw [accumulate_append]
  exact ⟨abs_sub_truncToI32_lt_one, abs_sub_truncToI32_lt_one, excess _, excess _⟩

/-- A motion of more units than an `i32` holds leaves whole units behind. -/
theorem motion_leaves_units :
    ¬ ∀ deltas : List (ℚ × ℚ), |(accumulate deltas).remainder.1| < 1 := by
  intro fraction
  exact absurd (fraction [(4294967296, 0)]) (by decide +kernel)

end EdgeKvm.Input
