import EdgeKvm.Input.Geometry
import EdgeKvm.Input.IntegralDelta
import EdgeKvm.Input.WindowsCapture
import EdgeKvm.Lib.Machine

/-!
# Crossing between the screens

The positions of `CaptureState` in `crates/edge-windows-input/src/lib.rs`: entering the remote
screen, the motions of the tracked cursor, and the way back. The guards of the capture answer
through the events.
-/

namespace EdgeKvm.Input

open EdgeKvm.Lib EdgeKvm.Session Machine

/-- `REMOTE_ENTRY_PADDING` -/
def remoteEntryPadding : Nat := 32

/-- `REMOTE_RETURN_MARGIN` -/
def remoteReturnMargin : Nat := 12

/-- The inset of `restore_for`. -/
def localRestoreInset : Nat := 3

/-- `value.round() as i32` -/
def roundToI32 (value : ℚ) : Int := saturate i32Min i32Max (roundAway value)

def ScreenPoint.toPoint (point : ScreenPoint) : Point := ⟨point.x, point.y⟩

def Point.round (point : Point) : ScreenPoint := ⟨roundToI32 point.x, roundToI32 point.y⟩

namespace LocalBounds

def right (bounds : LocalBounds) : Int :=
  bounds.left + saturate i32Min i32Max (bounds.width - 1)

def bottom (bounds : LocalBounds) : Int :=
  bounds.top + saturate i32Min i32Max (bounds.height - 1)

def center (bounds : LocalBounds) : Point where
  x := ((bounds.left + bounds.width.tdiv 2 : Int) : ℚ)
  y := ((bounds.top + bounds.height.tdiv 2 : Int) : ℚ)

def rect (bounds : LocalBounds) : Rect :=
  ⟨bounds.left, bounds.top, (max bounds.width 1).toNat, (max bounds.height 1).toNat⟩

def anchorFor (bounds : LocalBounds) (edge : Edge) (point : ScreenPoint) : ScreenPoint :=
  (edgeAnchor edge point.toPoint bounds.rect 2).round

def restoreFor (bounds : LocalBounds) (edge : Edge) (normalized : ℚ) : ScreenPoint :=
  (localRestorePoint edge normalized bounds.rect localRestoreInset).round

end LocalBounds

/-- `remote_cursor_at_return_edge` -/
def remoteCursorAtReturnEdge (edge : Edge) (cursor : Point) (remote : Size) : Bool :=
  remoteReturnEdgeReached edge cursor remote remoteReturnMargin

/-! ## The capture -/

/-- The positions of `CaptureState`, and where `SetCursorPos` last put the cursor. -/
structure CrossingState where
  edge : Edge
  remoteSize : Size
  localBounds : LocalBounds
  active : Bool := false
  anchor : ScreenPoint := ⟨0, 0⟩
  remoteCursor : Point := ⟨0, 0⟩
  virtualLocalCursor : Point
  rawAbsolutePosition : Option (Int × Int) := none
  cursor : Option ScreenPoint := none
  deriving DecidableEq

/-- What moves the cursors: `virtualEdge` is the answer of `virtual_edge_required`, `allowed` that
    of `activation_allowed`, `recent` that of `raw_input_is_recent`. -/
inductive CrossingEvent where
  | mouseMove (point : ScreenPoint) (virtualEdge allowed recent : Bool)
  | rawMove (x y : Int) (absolute virtualEdge allowed : Bool)
  | release (virtualEdge : Bool)
  deriving DecidableEq, Repr

namespace CrossingState

def start (edge : Edge) (remoteSize : Size) (localBounds : LocalBounds) : CrossingState :=
  { edge, remoteSize, localBounds, virtualLocalCursor := localBounds.center }

def atActivationEdge (s : CrossingState) (point : ScreenPoint) : Bool :=
  pointIsAtEdge s.edge point.toPoint s.localBounds.rect

def remoteAtReturnEdge (s : CrossingState) : Bool :=
  remoteCursorAtReturnEdge s.edge s.remoteCursor s.remoteSize

/-- `remote_start` -/
def remoteStart (s : CrossingState) (point : ScreenPoint) : Point :=
  remoteEntryPoint s.edge (normalizedPerpendicular s.edge point.toPoint s.localBounds.rect)
    s.remoteSize remoteEntryPadding

/-- `local_restore` -/
def localRestore (s : CrossingState) : ScreenPoint :=
  s.localBounds.restoreFor s.edge
    (normalizedPerpendicular s.edge s.remoteCursor s.remoteSize.rect)

def enterRemote (point : ScreenPoint) (s : CrossingState) : CrossingState :=
  let anchor := s.localBounds.anchorFor s.edge point
  { s with
    active := true
    anchor
    remoteCursor := s.remoteStart point
    rawAbsolutePosition := none
    cursor := some anchor }

def releaseToLocal (virtualEdge : Bool) (s : CrossingState) : CrossingState :=
  if !s.active then s
  else
    { s with
      active := false
      rawAbsolutePosition := none
      virtualLocalCursor :=
        if virtualEdge then s.localBounds.center else s.localRestore.toPoint
      cursor := some s.localRestore }

/-- `release_if_remote_return_edge` -/
def releaseIfRemoteReturnEdge (virtualEdge : Bool) (s : CrossingState) : CrossingState :=
  if s.remoteAtReturnEdge then s.releaseToLocal virtualEdge else s

/-- The motion of the tracked cursor, in `remote_motion` and `raw_remote_motion`. -/
def moveRemote (virtualEdge : Bool) (dx dy : Int) (s : CrossingState) : CrossingState :=
  if dx = 0 ∧ dy = 0 then s
  else
    { s with
      remoteCursor := applyRemoteMotion s.remoteCursor dx dy s.remoteSize
    }.releaseIfRemoteReturnEdge virtualEdge

def remoteMotion (virtualEdge : Bool) (point : ScreenPoint) (s : CrossingState) : CrossingState :=
  { s with cursor := some s.anchor }.moveRemote virtualEdge
    (point.x - s.anchor.x) (point.y - s.anchor.y)

/-- The relative motion of a raw event, if it has one. -/
def rawDelta (x y : Int) (absolute : Bool) (s : CrossingState) : Option (Int × Int) :=
  if absolute then s.rawAbsolutePosition.map fun previous => (x - previous.1, y - previous.2)
  else some (x, y)

/-- Absolute positions are remembered for the next event. -/
def remember (x y : Int) (absolute : Bool) (s : CrossingState) : CrossingState :=
  { s with rawAbsolutePosition := if absolute then some (x, y) else none }

def rawRemoteMotion (virtualEdge : Bool) (x y : Int) (absolute : Bool) (s : CrossingState) :
    CrossingState :=
  match s.rawDelta x y absolute with
  | none => s.remember x y absolute
  | some (dx, dy) => (s.remember x y absolute).moveRemote virtualEdge dx dy

/-- The virtual cursor of a game moves, and crosses where it touches the edge. -/
def moveLocal (allowed : Bool) (dx dy : Int) (s : CrossingState) : CrossingState :=
  if dx = 0 ∧ dy = 0 then s
  else
    let bounds := s.localBounds
    let moved := { s with
      virtualLocalCursor :=
        ⟨clamp (s.virtualLocalCursor.x + dx) bounds.left bounds.right,
          clamp (s.virtualLocalCursor.y + dy) bounds.top bounds.bottom⟩ }
    let point := moved.virtualLocalCursor.round
    if allowed && moved.atActivationEdge point then moved.enterRemote point else moved

def rawLocalMotion (virtualEdge allowed : Bool) (x y : Int) (absolute : Bool) (s : CrossingState) :
    CrossingState :=
  if !virtualEdge then { s with rawAbsolutePosition := none }
  else
    match s.rawDelta x y absolute with
    | none => s.remember x y absolute
    | some (dx, dy) => (s.remember x y absolute).moveLocal allowed dx dy

/-- The mouse hook on `WM_MOUSEMOVE` while the pointer is here. -/
def mouseLocal (point : ScreenPoint) (virtualEdge allowed : Bool) (s : CrossingState) :
    CrossingState :=
  let moved := if !virtualEdge then { s with virtualLocalCursor := point.toPoint } else s
  if allowed && moved.atActivationEdge point then moved.enterRemote point else moved

def exec (s : CrossingState) : CrossingEvent → CrossingState
  | .mouseMove point virtualEdge allowed recent =>
    if s.active then (if recent then s else s.remoteMotion virtualEdge point)
    else s.mouseLocal point virtualEdge allowed
  | .rawMove x y absolute virtualEdge allowed =>
    if s.active then s.rawRemoteMotion virtualEdge x y absolute
    else s.rawLocalMotion virtualEdge allowed x y absolute
  | .release virtualEdge => s.releaseToLocal virtualEdge

def machine : Machine CrossingState CrossingEvent := ⟨fun s event => some (s.exec event)⟩

end CrossingState

/-! ## Points of the system -/

/-- The corners of the local screens, as `left`, `right`, `top` and `bottom` compute them, are points
    of the system, which has `i32` coordinates. -/
structure LocalBounds.OnScreen (bounds : LocalBounds) : Prop where
  left : i32Min ≤ bounds.left
  right : bounds.left + (bounds.width - 1) ≤ i32Max
  top : i32Min ≤ bounds.top
  bottom : bounds.top + (bounds.height - 1) ≤ i32Max

/-- The local screens are larger than the inset on both sides. -/
structure LocalBounds.Holds (bounds : LocalBounds) (inset : Nat) : Prop where
  width : 2 * (inset : Int) < bounds.width
  height : 2 * (inset : Int) < bounds.height

theorem roundAway_intCast (k : Int) : roundAway (k : ℚ) = k := by
  obtain ⟨least, most⟩ := roundAway_mem (le_refl (k : ℚ)) (le_refl (k : ℚ))
  exact le_antisymm most least

variable {bounds : LocalBounds} {remote : Size} {edge : Edge} {point : ScreenPoint} {inset : Nat}
  {normalized : ℚ}

/-- A point on the local screens is not changed by the cast. -/
theorem round_toPoint (onScreen : bounds.OnScreen) (holds : bounds.Holds inset)
    (inside : bounds.rect.Inside point.toPoint) : point.toPoint.round = point := by
  have width := holds.width
  have height := holds.height
  have lastX : ((((max bounds.width 1).toNat - 1 : Nat) : Int)) = bounds.width - 1 := by omega
  have lastY : ((((max bounds.height 1).toNat - 1 : Nat) : Int)) = bounds.height - 1 := by omega
  have left : (bounds.left : ℚ) ≤ point.x := inside.left
  have top : (bounds.top : ℚ) ≤ point.y := inside.top
  have right : (point.x : ℚ) ≤ bounds.left + (((max bounds.width 1).toNat - 1 : Nat) : ℚ) :=
    inside.right
  have bottom : (point.y : ℚ) ≤ bounds.top + (((max bounds.height 1).toNat - 1 : Nat) : ℚ) :=
    inside.bottom
  have left : bounds.left ≤ point.x := by exact_mod_cast left
  have top : bounds.top ≤ point.y := by exact_mod_cast top
  have right : point.x ≤ bounds.left + (bounds.width - 1) := by
    rw [← lastX]
    exact_mod_cast right
  have bottom : point.y ≤ bounds.top + (bounds.height - 1) := by
    rw [← lastY]
    exact_mod_cast bottom
  have x : roundToI32 point.x = point.x := by
    rw [roundToI32, roundAway_intCast]
    exact saturate_of_mem (le_trans onScreen.left left) (le_trans right onScreen.right)
  have y : roundToI32 point.y = point.y := by
    rw [roundToI32, roundAway_intCast]
    exact saturate_of_mem (le_trans onScreen.top top) (le_trans bottom onScreen.bottom)
  simp only [ScreenPoint.toPoint, Point.round, x, y]

/-- The way back has whole coordinates. -/
theorem localRestorePoint_whole {left top : Int} {width height : Nat} :
    ∃ point : ScreenPoint,
      localRestorePoint edge normalized ⟨left, top, width, height⟩ inset = point.toPoint := by
  have last (start : Int) (extent : Nat) : (start : ℚ) + lastPixel extent - inset =
      ((start + ((extent - 1 : Nat) : Int) - inset : Int) : ℚ) := by
    unfold lastPixel
    push_cast
    rfl
  have first (start : Int) : (start : ℚ) + inset = ((start + inset : Int) : ℚ) := by push_cast; rfl
  cases edge with
  | left => exact ⟨⟨left + inset, _⟩, by simp only [localRestorePoint, first]; rfl⟩
  | right => exact ⟨⟨left + ((width - 1 : Nat) : Int) - inset, _⟩, by
      simp only [localRestorePoint, Rect.right, last]; rfl⟩
  | top => exact ⟨⟨_, top + inset⟩, by simp only [localRestorePoint, first]; rfl⟩
  | bottom => exact ⟨⟨_, top + ((height - 1 : Nat) : Int) - inset⟩, by
      simp only [localRestorePoint, Rect.bottom, last]; rfl⟩

/-- The point where the cursor of the system comes back. -/
theorem restoreFor_safe (onScreen : bounds.OnScreen) (holds : bounds.Holds localRestoreInset)
    (nonneg : 0 ≤ normalized) (unit : normalized ≤ 1) :
    bounds.rect.Inside (bounds.restoreFor edge normalized).toPoint ∧
      pointIsAtEdge edge (bounds.restoreFor edge normalized).toPoint bounds.rect = false := by
  have width := holds.width
  have height := holds.height
  have safe : bounds.rect.Inside (localRestorePoint edge normalized bounds.rect localRestoreInset) ∧
      pointIsAtEdge edge (localRestorePoint edge normalized bounds.rect localRestoreInset)
        bounds.rect = false :=
    localRestorePoint_safe (by omega) (by omega) (by decide) nonneg unit
  obtain ⟨inside, away⟩ := safe
  have integral : ∃ point : ScreenPoint,
      localRestorePoint edge normalized bounds.rect localRestoreInset = point.toPoint :=
    localRestorePoint_whole
  obtain ⟨point, whole⟩ := integral
  rw [whole] at inside away
  have same : bounds.restoreFor edge normalized = point := by
    rw [LocalBounds.restoreFor, whole]
    exact round_toPoint onScreen holds inside
  rw [same]
  exact ⟨inside, away⟩

/-- The middle of the local screens, where the virtual cursor starts over. -/
theorem center_safe (onScreen : bounds.OnScreen) (holds : bounds.Holds localRestoreInset) :
    bounds.rect.Inside bounds.center.round.toPoint ∧
      pointIsAtEdge edge bounds.center.round.toPoint bounds.rect = false := by
  have width : 6 < bounds.width := holds.width
  have height : 6 < bounds.height := holds.height
  have whole : bounds.center = ScreenPoint.toPoint
      ⟨bounds.left + bounds.width.tdiv 2, bounds.top + bounds.height.tdiv 2⟩ := rfl
  have halfX : bounds.width.tdiv 2 = bounds.width / 2 := Int.tdiv_eq_ediv_of_nonneg (by omega)
  have halfY : bounds.height.tdiv 2 = bounds.height / 2 := Int.tdiv_eq_ediv_of_nonneg (by omega)
  have x : 0 < bounds.width.tdiv 2 ∧
      bounds.width.tdiv 2 < (((max bounds.width 1).toNat - 1 : Nat) : Int) := by omega
  have y : 0 < bounds.height.tdiv 2 ∧
      bounds.height.tdiv 2 < (((max bounds.height 1).toNat - 1 : Nat) : Int) := by omega
  have xLow : (bounds.left : ℚ) < (bounds.left + bounds.width.tdiv 2 : Int) := by
    exact_mod_cast lt_add_of_pos_right _ x.1
  have xHigh : ((bounds.left + bounds.width.tdiv 2 : Int) : ℚ) <
      bounds.left + (((max bounds.width 1).toNat - 1 : Nat) : ℚ) := by
    exact_mod_cast Int.add_lt_add_left x.2 bounds.left
  have yLow : (bounds.top : ℚ) < (bounds.top + bounds.height.tdiv 2 : Int) := by
    exact_mod_cast lt_add_of_pos_right _ y.1
  have yHigh : ((bounds.top + bounds.height.tdiv 2 : Int) : ℚ) <
      bounds.top + (((max bounds.height 1).toNat - 1 : Nat) : ℚ) := by
    exact_mod_cast Int.add_lt_add_left y.2 bounds.top
  have inside : bounds.rect.Inside bounds.center := by
    rw [LocalBounds.rect, whole]
    exact inside_local xLow.le xHigh.le yLow.le yHigh.le
  rw [whole] at inside ⊢
  rw [round_toPoint onScreen holds inside]
  refine ⟨inside, ?_⟩
  cases edge with
  | left =>
    simp only [pointIsAtEdge, ScreenPoint.toPoint, LocalBounds.rect]
    exact decide_eq_false (not_le.mpr xLow)
  | right =>
    simp only [pointIsAtEdge, ScreenPoint.toPoint, LocalBounds.rect, Rect.right, lastPixel]
    exact decide_eq_false (not_le.mpr xHigh)
  | top =>
    simp only [pointIsAtEdge, ScreenPoint.toPoint, LocalBounds.rect]
    exact decide_eq_false (not_le.mpr yLow)
  | bottom =>
    simp only [pointIsAtEdge, ScreenPoint.toPoint, LocalBounds.rect, Rect.bottom, lastPixel]
    exact decide_eq_false (not_le.mpr yHigh)

/-! ## One event -/

namespace CrossingState

/-- The state is that of a capture with this configuration, and the tracked cursor is on the
    remote screen. -/
structure Sound (edge : Edge) (remote : Size) (bounds : LocalBounds) (s : CrossingState) :
    Prop where
  edge : s.edge = edge
  remoteSize : s.remoteSize = remote
  localBounds : s.localBounds = bounds
  inside : remote.rect.Inside s.remoteCursor

variable {s t : CrossingState} {dx dy x y : Int} {virtualEdge allowed absolute : Bool}

theorem sound_start : (start edge remote bounds).Sound edge remote bounds :=
  ⟨rfl, rfl, rfl, inside_remote (le_refl 0) (lastPixel_nonneg _) (le_refl 0) (lastPixel_nonneg _)⟩

/-- The pointer enters away from the edge that takes it back. -/
theorem Sound.enterRemote (large : remote.Holds remoteEntryPadding)
    (sound : s.Sound edge remote bounds) :
    (s.enterRemote point).Sound edge remote bounds ∧
      (s.enterRemote point).remoteAtReturnEdge = false := by
  obtain ⟨rfl, rfl, rfl, -⟩ := sound
  obtain ⟨nonneg, unit⟩ := normalizedPerpendicular_mem s.edge point.toPoint s.localBounds.rect
  have apart : remoteReturnMargin < remoteEntryPadding := by decide
  obtain ⟨inside, away⟩ := remoteEntryPoint_safe large apart nonneg unit
  exact ⟨⟨rfl, rfl, rfl, inside⟩, away⟩

theorem Sound.releaseToLocal (sound : s.Sound edge remote bounds) :
    (s.releaseToLocal virtualEdge).Sound edge remote bounds := by
  unfold CrossingState.releaseToLocal
  split
  · exact sound
  · exact ⟨sound.edge, sound.remoteSize, sound.localBounds, sound.inside⟩

/-- The pointer comes back away from the edge that takes it across, and so does the virtual
    cursor. -/
theorem Sound.release_safe (onScreen : bounds.OnScreen) (holds : bounds.Holds localRestoreInset)
    (sound : s.Sound edge remote bounds) (active : s.active = true) :
    ∃ restore, (s.releaseToLocal virtualEdge).cursor = some restore ∧
      bounds.rect.Inside restore.toPoint ∧
      (s.releaseToLocal virtualEdge).atActivationEdge restore = false ∧
      (s.releaseToLocal virtualEdge).atActivationEdge
        (s.releaseToLocal virtualEdge).virtualLocalCursor.round = false := by
  obtain ⟨rfl, rfl, rfl, -⟩ := sound
  obtain ⟨nonneg, unit⟩ := normalizedPerpendicular_mem s.edge s.remoteCursor s.remoteSize.rect
  obtain ⟨inside, away⟩ := restoreFor_safe onScreen holds nonneg unit
  have released : s.releaseToLocal virtualEdge =
      { s with
        active := false
        rawAbsolutePosition := none
        virtualLocalCursor :=
          if virtualEdge then s.localBounds.center else s.localRestore.toPoint
        cursor := some s.localRestore } := by
    simp [CrossingState.releaseToLocal, active]
  rw [released]
  refine ⟨s.localRestore, rfl, inside, away, ?_⟩
  cases virtualEdge with
  | true => exact (center_safe onScreen holds).2
  | false =>
    have same : s.localRestore.toPoint.round = s.localRestore :=
      round_toPoint onScreen holds inside
    simp only [Bool.false_eq_true, if_false, same]
    exact away

/-- What an event makes of a state: the pointer stays on its side, enters, or comes back. -/
inductive Outcome (edge : Edge) (remote : Size) (bounds : LocalBounds) (active : Bool) :
    CrossingState → Prop where
  | stays {t : CrossingState} (sound : t.Sound edge remote bounds) (same : t.active = active) :
    Outcome edge remote bounds active t
  | enters {moved : CrossingState} (point : ScreenPoint) (sound : moved.Sound edge remote bounds)
    (here : active = false) : Outcome edge remote bounds active (moved.enterRemote point)
  | leaves {moved : CrossingState} (virtualEdge : Bool) (sound : moved.Sound edge remote bounds)
    (there : moved.active = true) (same : active = true) :
    Outcome edge remote bounds active (moved.releaseToLocal virtualEdge)

theorem Sound.remember (sound : s.Sound edge remote bounds) :
    (s.remember x y absolute).Sound edge remote bounds :=
  ⟨sound.edge, sound.remoteSize, sound.localBounds, sound.inside⟩

theorem moveRemote_outcome (sound : s.Sound edge remote bounds) (active : s.active = true) :
    Outcome edge remote bounds true (s.moveRemote virtualEdge dx dy) := by
  obtain ⟨rfl, rfl, rfl, inside⟩ := sound
  unfold moveRemote
  split
  · exact .stays ⟨rfl, rfl, rfl, inside⟩ active
  · unfold releaseIfRemoteReturnEdge
    split
    · exact .leaves virtualEdge ⟨rfl, rfl, rfl, applyRemoteMotion_inside⟩ active rfl
    · exact .stays ⟨rfl, rfl, rfl, applyRemoteMotion_inside⟩ active

theorem rawRemoteMotion_outcome (sound : s.Sound edge remote bounds) (active : s.active = true) :
    Outcome edge remote bounds true (s.rawRemoteMotion virtualEdge x y absolute) := by
  unfold rawRemoteMotion
  split
  · exact .stays sound.remember active
  · exact moveRemote_outcome sound.remember active

theorem moveLocal_outcome (sound : s.Sound edge remote bounds) (here : s.active = false) :
    Outcome edge remote bounds false (s.moveLocal allowed dx dy) := by
  obtain ⟨rfl, rfl, rfl, inside⟩ := sound
  unfold moveLocal
  split
  · exact .stays ⟨rfl, rfl, rfl, inside⟩ here
  · dsimp only
    split
    · exact .enters _ ⟨rfl, rfl, rfl, inside⟩ rfl
    · exact .stays ⟨rfl, rfl, rfl, inside⟩ here

theorem rawLocalMotion_outcome (sound : s.Sound edge remote bounds) (here : s.active = false) :
    Outcome edge remote bounds false (s.rawLocalMotion virtualEdge allowed x y absolute) := by
  unfold rawLocalMotion
  split
  · exact .stays ⟨sound.edge, sound.remoteSize, sound.localBounds, sound.inside⟩ here
  · split
    · exact .stays sound.remember here
    · exact moveLocal_outcome sound.remember here

theorem mouseLocal_outcome (sound : s.Sound edge remote bounds) (here : s.active = false) :
    Outcome edge remote bounds false (s.mouseLocal point virtualEdge allowed) := by
  obtain ⟨rfl, rfl, rfl, inside⟩ := sound
  unfold mouseLocal
  cases virtualEdge with
  | true =>
    simp only [Bool.not_true, Bool.false_eq_true, if_false]
    split
    · exact .enters point ⟨rfl, rfl, rfl, inside⟩ rfl
    · exact .stays ⟨rfl, rfl, rfl, inside⟩ here
  | false =>
    simp only [Bool.not_false, if_true]
    split
    · exact .enters point ⟨rfl, rfl, rfl, inside⟩ rfl
    · exact .stays ⟨rfl, rfl, rfl, inside⟩ here

theorem exec_outcome (sound : s.Sound edge remote bounds) (event : CrossingEvent) :
    Outcome edge remote bounds s.active (s.exec event) := by
  cases active : s.active with
  | true =>
    cases event with
    | mouseMove point virtualEdge allowed recent =>
      simp only [exec, active, if_true]
      cases recent with
      | true => exact .stays sound active
      | false =>
        exact moveRemote_outcome
          ⟨sound.edge, sound.remoteSize, sound.localBounds, sound.inside⟩ active
    | rawMove x y absolute virtualEdge allowed =>
      simp only [exec, active, if_true]
      exact rawRemoteMotion_outcome sound active
    | release virtualEdge => exact .leaves virtualEdge sound active rfl
  | false =>
    cases event with
    | mouseMove point virtualEdge allowed recent =>
      simp only [exec, active, Bool.false_eq_true, if_false]
      exact mouseLocal_outcome sound active
    | rawMove x y absolute virtualEdge allowed =>
      simp only [exec, active, Bool.false_eq_true, if_false]
      exact rawLocalMotion_outcome sound active
    | release virtualEdge =>
      have unchanged : s.exec (.release virtualEdge) = s := by
        simp [exec, CrossingState.releaseToLocal, active]
      rw [unchanged]
      exact .stays sound active

theorem Sound.exec (large : remote.Holds remoteEntryPadding) (sound : s.Sound edge remote bounds)
    (event : CrossingEvent) : (s.exec event).Sound edge remote bounds := by
  have outcome := exec_outcome sound event
  generalize s.exec event = t at outcome ⊢
  cases outcome with
  | stays sound same => exact sound
  | enters point sound here => exact (sound.enterRemote large).1
  | leaves virtualEdge sound there same => exact sound.releaseToLocal

/-! ## Every run -/

theorem sound_run (large : remote.Holds remoteEntryPadding)
    (run : machine.Run anyAction (start edge remote bounds) s) : s.Sound edge remote bounds := by
  refine run.invariant (I := Sound edge remote bounds) ?_ sound_start
  intro s event t _ executed sound
  cases executed
  exact sound.exec large event

/-- The points of a crossing are on their screens and away from the edge that would take the
    pointer back, the tracked cursor is on the remote screen in every run, and neither entering nor
    leaving leaves the pointer where the opposite transition begins. -/
theorem crossing_points_safe (edge : Edge) (remote : Size) (bounds : LocalBounds)
    (remoteLarge : remote.Holds remoteEntryPadding)
    (localLarge : bounds.Holds localRestoreInset) :
    (∀ normalized, 0 ≤ normalized → normalized ≤ 1 →
      let entry := remoteEntryPoint edge normalized remote remoteEntryPadding
      let restore := localRestorePoint edge normalized bounds.rect localRestoreInset
      (remote.rect.Inside entry ∧ remoteCursorAtReturnEdge edge entry remote = false) ∧
      (bounds.rect.Inside restore ∧ pointIsAtEdge edge restore bounds.rect = false) ∧
      ∀ motions : List (ℚ × ℚ), remote.rect.Inside
        (motions.foldl (fun cursor motion => applyRemoteMotion cursor motion.1 motion.2 remote)
          entry)) ∧
    ∀ s event, machine.Run anyAction (start edge remote bounds) s →
      remote.rect.Inside s.remoteCursor ∧
      (s.active = false → (s.exec event).active = true →
        (s.exec event).remoteAtReturnEdge = false) ∧
      (bounds.OnScreen → s.active = true → (s.exec event).active = false →
        ∃ restore, (s.exec event).cursor = some restore ∧ bounds.rect.Inside restore.toPoint ∧
          (s.exec event).atActivationEdge restore = false ∧
          (s.exec event).atActivationEdge (s.exec event).virtualLocalCursor.round = false) := by
  constructor
  · intro normalized nonneg unit
    have width := localLarge.width
    have height := localLarge.height
    have apart : remoteReturnMargin < remoteEntryPadding := by decide
    have entry : remote.rect.Inside (remoteEntryPoint edge normalized remote remoteEntryPadding) ∧
        remoteReturnEdgeReached edge (remoteEntryPoint edge normalized remote remoteEntryPadding)
          remote remoteReturnMargin = false := remoteEntryPoint_safe remoteLarge apart nonneg unit
    refine ⟨entry, localRestorePoint_safe (by omega) (by omega) (by decide) nonneg unit, ?_⟩
    intro motions
    cases motions using List.reverseRecOn with
    | nil => exact entry.1
    | append_singleton motions motion _ =>
      rw [List.foldl_append]
      exact applyRemoteMotion_inside
  · intro s event run
    have sound := sound_run remoteLarge run
    have outcome := exec_outcome sound event
    generalize s.exec event = t at outcome ⊢
    refine ⟨sound.inside, fun here there => ?_, fun onScreen there here => ?_⟩
    · cases outcome with
      | stays sound same =>
        rw [there, here] at same
        cases same
      | enters point sound here => exact (sound.enterRemote remoteLarge).2
      | leaves virtualEdge sound there same =>
        rw [here] at same
        cases same
    · cases outcome with
      | stays sound same =>
        rw [there, here] at same
        cases same
      | enters point sound absent =>
        rw [there] at absent
        cases absent
      | leaves virtualEdge sound there same =>
        exact sound.release_safe onScreen localLarge there

theorem crossing_points_safe_sample :
    (remoteEntryPoint .left (1 / 4) ⟨1920, 1080⟩ remoteEntryPadding).x = 1887 ∧
      remoteCursorAtReturnEdge .left (remoteEntryPoint .left (1 / 4) ⟨1920, 1080⟩
        remoteEntryPadding) ⟨1920, 1080⟩ = false := by
  have safe := crossing_points_safe .left ⟨1920, 1080⟩ ⟨-2560, 0, 2560, 1440⟩
    ⟨by decide, by decide⟩ ⟨by decide, by decide⟩
  exact ⟨by decide +kernel, (safe.1 (1 / 4) (by norm_num) (by norm_num)).1.2⟩

end CrossingState

end EdgeKvm.Input
