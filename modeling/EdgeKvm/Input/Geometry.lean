import EdgeKvm.Lib.Rounding
import EdgeKvm.Session.Role
import Mathlib.Data.Rat.Floor

/-!
# Screens and their edges

`edge-geometry/src/lib.rs`, with exact coordinates: where the pointer enters the other screen, where
it comes back, and which edges take it across.
-/

namespace EdgeKvm.Input

open EdgeKvm.Lib EdgeKvm.Session

structure Size where
  width : Nat
  height : Nat
  deriving DecidableEq, Repr

structure Point where
  x : ℚ
  y : ℚ
  deriving DecidableEq, Repr

structure Rect where
  x : ℚ
  y : ℚ
  width : Nat
  height : Nat
  deriving DecidableEq, Repr

/-- `f64::from(extent.saturating_sub(1))`: the coordinate of the last pixel. -/
def lastPixel (extent : Nat) : ℚ := ((extent - 1 : Nat) : ℚ)

namespace Rect

def right (rect : Rect) : ℚ := rect.x + lastPixel rect.width

def bottom (rect : Rect) : ℚ := rect.y + lastPixel rect.height

/-- The point is on the screen. -/
structure Inside (rect : Rect) (point : Point) : Prop where
  left : rect.x ≤ point.x
  right : point.x ≤ rect.right
  top : rect.y ≤ point.y
  bottom : point.y ≤ rect.bottom

end Rect

/-- The remote screen as the controller tracks it, from its own corner. -/
def Size.rect (size : Size) : Rect := ⟨0, 0, size.width, size.height⟩

/-- `clamp`: `value.max(min).min(max)`. -/
def clamp (value least most : ℚ) : ℚ := min (max value least) most

def applyRemoteMotion (cursor : Point) (dx dy : ℚ) (remote : Size) : Point where
  x := clamp (cursor.x + dx) 0 (lastPixel remote.width)
  y := clamp (cursor.y + dy) 0 (lastPixel remote.height)

def pointIsAtEdge (edge : Edge) (point : Point) (bounds : Rect) : Bool :=
  match edge with
  | .left => point.x ≤ bounds.x
  | .right => point.x ≥ bounds.right
  | .top => point.y ≤ bounds.y
  | .bottom => point.y ≥ bounds.bottom

def edgeAnchor (edge : Edge) (point : Point) (bounds : Rect) (inset : ℚ) : Point :=
  match edge with
  | .left => ⟨bounds.x + inset, clamp point.y bounds.y bounds.bottom⟩
  | .right => ⟨bounds.right - inset, clamp point.y bounds.y bounds.bottom⟩
  | .top => ⟨clamp point.x bounds.x bounds.right, bounds.y + inset⟩
  | .bottom => ⟨clamp point.x bounds.x bounds.right, bounds.bottom - inset⟩

def normalizedAxis (pos : ℚ) (extent : Nat) : ℚ :=
  if extent ≤ 1 then 0 else clamp pos 0 (lastPixel extent) / lastPixel extent

def normalizedPerpendicular (edge : Edge) (point : Point) (bounds : Rect) : ℚ :=
  match edge with
  | .left | .right => normalizedAxis (point.y - bounds.y) bounds.height
  | .top | .bottom => normalizedAxis (point.x - bounds.x) bounds.width

def boundedInset (inset : ℚ) (extent : Nat) : ℚ := clamp inset 1 (lastPixel extent)

def remoteEntryPoint (edge : Edge) (normalized : ℚ) (remote : Size) (inset : ℚ) : Point :=
  let xInset := boundedInset inset remote.width
  let yInset := boundedInset inset remote.height
  let x := lastPixel remote.width * normalized
  let y := lastPixel remote.height * normalized
  match edge with
  | .left => ⟨lastPixel remote.width - xInset, y⟩
  | .right => ⟨xInset, y⟩
  | .top => ⟨x, lastPixel remote.height - yInset⟩
  | .bottom => ⟨x, yInset⟩

def localRestorePoint (edge : Edge) (normalized : ℚ) (bounds : Rect) (inset : ℚ) : Point :=
  let x : ℚ := roundAway
    (clamp (bounds.x + lastPixel bounds.width * normalized) bounds.x bounds.right)
  let y : ℚ := roundAway
    (clamp (bounds.y + lastPixel bounds.height * normalized) bounds.y bounds.bottom)
  match edge with
  | .left => ⟨bounds.x + inset, y⟩
  | .right => ⟨bounds.right - inset, y⟩
  | .top => ⟨x, bounds.y + inset⟩
  | .bottom => ⟨x, bounds.bottom - inset⟩

def remoteReturnEdgeReached (controllerEdge : Edge) (cursor : Point) (remote : Size) (margin : ℚ) :
    Bool :=
  match controllerEdge with
  | .left => cursor.x ≥ lastPixel remote.width - margin
  | .right => cursor.x ≤ margin
  | .top => cursor.y ≥ lastPixel remote.height - margin
  | .bottom => cursor.y ≤ margin

/-! ## Clamping -/

variable {value least most normalized inset margin dx dy : ℚ} {extent : Nat} {edge : Edge}
  {remote : Size} {point cursor : Point}

theorem clamp_mem (value : ℚ) (ordered : least ≤ most) :
    least ≤ clamp value least most ∧ clamp value least most ≤ most :=
  ⟨le_min (le_max_right _ _) ordered, min_le_right _ _⟩

theorem clamp_of_mem (above : least ≤ value) (below : value ≤ most) :
    clamp value least most = value := by
  rw [clamp, max_eq_left above, min_eq_left below]

theorem lastPixel_nonneg (extent : Nat) : 0 ≤ lastPixel extent := Nat.cast_nonneg _

/-- A screen of more than `2 * inset` pixels has its last one beyond. -/
theorem lastPixel_of_lt {inset : Nat} (large : 2 * inset < extent) :
    2 * (inset : ℚ) ≤ lastPixel extent := by
  have fits : 2 * inset ≤ extent - 1 := by omega
  unfold lastPixel
  exact_mod_cast fits

/-- A fraction of the screen is on the screen. -/
theorem fraction_mem (extent : Nat) (nonneg : 0 ≤ normalized) (unit : normalized ≤ 1) :
    0 ≤ lastPixel extent * normalized ∧ lastPixel extent * normalized ≤ lastPixel extent :=
  ⟨mul_nonneg (lastPixel_nonneg _) nonneg, mul_le_of_le_one_right (lastPixel_nonneg _) unit⟩

theorem normalizedAxis_mem : 0 ≤ normalizedAxis value extent ∧ normalizedAxis value extent ≤ 1 := by
  unfold normalizedAxis
  split
  · exact ⟨le_refl 0, zero_le_one⟩
  · obtain ⟨nonneg, below⟩ := clamp_mem value (lastPixel_nonneg extent)
    exact ⟨div_nonneg nonneg (lastPixel_nonneg _), div_le_one_of_le₀ below (lastPixel_nonneg _)⟩

/-- Every point has a position between the corners. -/
theorem normalizedPerpendicular_mem (edge : Edge) (point : Point) (bounds : Rect) :
    0 ≤ normalizedPerpendicular edge point bounds ∧
      normalizedPerpendicular edge point bounds ≤ 1 := by
  cases edge <;> exact normalizedAxis_mem

/-! ## Points on the screen -/

/-- The remote screen starts at the origin. -/
theorem inside_remote {x y : ℚ} (left : 0 ≤ x) (right : x ≤ lastPixel remote.width) (top : 0 ≤ y)
    (bottom : y ≤ lastPixel remote.height) : remote.rect.Inside ⟨x, y⟩ :=
  ⟨left, by rw [Rect.right, Size.rect, zero_add]; exact right, top,
    by rw [Rect.bottom, Size.rect, zero_add]; exact bottom⟩

/-- The tracked cursor never leaves the screen, whatever the motion. -/
theorem applyRemoteMotion_inside : remote.rect.Inside (applyRemoteMotion cursor dx dy remote) := by
  obtain ⟨left, right⟩ := clamp_mem (cursor.x + dx) (lastPixel_nonneg remote.width)
  obtain ⟨top, bottom⟩ := clamp_mem (cursor.y + dy) (lastPixel_nonneg remote.height)
  exact inside_remote left right top bottom

/-- The remote screen is larger than the inset on both sides. -/
structure Size.Holds (size : Size) (inset : Nat) : Prop where
  width : 2 * inset < size.width
  height : 2 * inset < size.height

theorem boundedInset_of_lt {inset : Nat} (positive : 1 ≤ inset) (large : 2 * inset < extent) :
    boundedInset inset extent = inset := by
  have last := lastPixel_of_lt large
  have positive : (1 : ℚ) ≤ inset := by exact_mod_cast positive
  exact clamp_of_mem positive (by linarith)

/-- The pointer enters on the remote screen, away from the edge that takes it back. -/
theorem remoteEntryPoint_safe {inset margin : Nat} (holds : remote.Holds inset)
    (apart : margin < inset) (nonneg : 0 ≤ normalized) (unit : normalized ≤ 1) :
    remote.rect.Inside (remoteEntryPoint edge normalized remote inset) ∧
      remoteReturnEdgeReached edge (remoteEntryPoint edge normalized remote inset) remote margin =
        false := by
  have wide := lastPixel_of_lt holds.width
  have high := lastPixel_of_lt holds.height
  have inset_nonneg : (0 : ℚ) ≤ inset := Nat.cast_nonneg _
  have apart' : (margin : ℚ) < inset := by exact_mod_cast apart
  obtain ⟨x_nonneg, x_le⟩ := fraction_mem remote.width nonneg unit
  obtain ⟨y_nonneg, y_le⟩ := fraction_mem remote.height nonneg unit
  have xInset := boundedInset_of_lt (by omega) holds.width
  have yInset := boundedInset_of_lt (by omega) holds.height
  cases edge with
  | left =>
    simp only [remoteEntryPoint, remoteReturnEdgeReached, xInset, decide_eq_false_iff_not, not_le]
    exact ⟨inside_remote (by linarith) (by linarith) y_nonneg y_le, by linarith⟩
  | right =>
    simp only [remoteEntryPoint, remoteReturnEdgeReached, xInset, decide_eq_false_iff_not, not_le]
    exact ⟨inside_remote inset_nonneg (by linarith) y_nonneg y_le, apart'⟩
  | top =>
    simp only [remoteEntryPoint, remoteReturnEdgeReached, yInset, decide_eq_false_iff_not, not_le]
    exact ⟨inside_remote x_nonneg x_le (by linarith) (by linarith), by linarith⟩
  | bottom =>
    simp only [remoteEntryPoint, remoteReturnEdgeReached, yInset, decide_eq_false_iff_not, not_le]
    exact ⟨inside_remote x_nonneg x_le inset_nonneg (by linarith), apart'⟩

/-! ## Points on the local screen -/

theorem inside_local {left top x y : ℚ} {width height : Nat} (above : left ≤ x)
    (below : x ≤ left + lastPixel width) (under : top ≤ y) (over' : y ≤ top + lastPixel height) :
    (Rect.mk left top width height).Inside ⟨x, y⟩ := ⟨above, below, under, over'⟩

/-- The coordinate along an edge is rounded without leaving the screen. -/
theorem roundAway_fraction_mem (start : Int) (extent : Nat) (nonneg : 0 ≤ normalized)
    (unit : normalized ≤ 1) :
    let along :=
      clamp ((start : ℚ) + lastPixel extent * normalized) start (start + lastPixel extent)
    (start : ℚ) ≤ roundAway along ∧ (roundAway along : ℚ) ≤ start + lastPixel extent := by
  obtain ⟨above, below⟩ := fraction_mem extent nonneg unit
  have ordered : (start : ℚ) ≤ start + lastPixel extent := by
    have last := lastPixel_nonneg extent
    linarith
  obtain ⟨least, most⟩ := clamp_mem ((start : ℚ) + lastPixel extent * normalized) ordered
  have ends : (start : ℚ) + lastPixel extent =
      ((start + ((extent - 1 : Nat) : Int) : Int) : ℚ) := by
    unfold lastPixel
    push_cast
    rfl
  obtain ⟨left, right⟩ := roundAway_mem least (le_of_le_of_eq most ends)
  have right : (roundAway (clamp ((start : ℚ) + lastPixel extent * normalized) start
      (start + lastPixel extent)) : ℚ) ≤ ((start + ((extent - 1 : Nat) : Int) : Int) : ℚ) := by
    exact_mod_cast right
  exact ⟨by exact_mod_cast left, le_of_le_of_eq right ends.symm⟩

/-- The pointer comes back on the local screen, away from the edge that takes it across. -/
theorem localRestorePoint_safe {inset : Nat} {left top : Int} {width height : Nat}
    (wide : 2 * inset < width) (high : 2 * inset < height) (positive : 0 < inset)
    (nonneg : 0 ≤ normalized) (unit : normalized ≤ 1) :
    (Rect.mk left top width height).Inside
        (localRestorePoint edge normalized ⟨left, top, width, height⟩ inset) ∧
      pointIsAtEdge edge (localRestorePoint edge normalized ⟨left, top, width, height⟩ inset)
        ⟨left, top, width, height⟩ = false := by
  have wide := lastPixel_of_lt wide
  have high := lastPixel_of_lt high
  have positive' : (0 : ℚ) < inset := by exact_mod_cast positive
  obtain ⟨x_ge, x_le⟩ := roundAway_fraction_mem left width nonneg unit
  obtain ⟨y_ge, y_le⟩ := roundAway_fraction_mem top height nonneg unit
  cases edge with
  | left =>
    simp only [localRestorePoint, pointIsAtEdge]
    exact ⟨inside_local (by linarith) (by linarith) y_ge y_le,
      decide_eq_false (not_le.mpr (by linarith))⟩
  | right =>
    simp only [localRestorePoint, pointIsAtEdge, Rect.right]
    exact ⟨inside_local (by linarith) (by linarith) y_ge y_le,
      decide_eq_false (not_le.mpr (by linarith))⟩
  | top =>
    simp only [localRestorePoint, pointIsAtEdge]
    exact ⟨inside_local x_ge x_le (by linarith) (by linarith),
      decide_eq_false (not_le.mpr (by linarith))⟩
  | bottom =>
    simp only [localRestorePoint, pointIsAtEdge, Rect.bottom]
    exact ⟨inside_local x_ge x_le (by linarith) (by linarith),
      decide_eq_false (not_le.mpr (by linarith))⟩

end EdgeKvm.Input
