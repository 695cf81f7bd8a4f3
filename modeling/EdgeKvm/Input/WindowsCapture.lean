import EdgeKvm.Input.Keymap
import EdgeKvm.Lib.Handler
import EdgeKvm.Session.Protocol

/-!
# The capture of Windows

`CaptureState` of `crates/edge-windows-input/src/lib.rs`: the two hooks, raw mouse input, and the
calls that enable, disable and release the capture. The geometry is a parameter, and so is what
the system says when it is asked: the time, the foreground window, and whether it covers the
screen or confines the cursor.
-/

namespace EdgeKvm.Input

open EdgeKvm.Lib EdgeKvm.Session Handler

/-- `POINT`. -/
structure ScreenPoint where
  x : Int
  y : Int
  deriving DecidableEq, Repr

/-- `Point`, as the bits of its coordinates. -/
abbrev FloatPoint := UInt64 × UInt64

/-- `LocalBounds`. -/
structure LocalBounds where
  left : Int
  top : Int
  width : Int
  height : Int
  deriving DecidableEq, Repr

/-- `GameCompatibilityMode`. -/
inductive GameCompatibilityMode where
  | compatible
  | borderless
  | alwaysEnabled
  deriving DecidableEq, Repr

/-- `CaptureConfig`. -/
structure CaptureConfig where
  edge : Edge
  remoteSize : Nat × Nat
  gameCompatibility : GameCompatibilityMode
  deriving DecidableEq, Repr

/-- The geometry of `edge-geometry` as the capture uses it, and the fractions of `f64`. -/
structure CaptureGeometry where
  fromInt : Int → UInt64
  wheelFraction : UInt32 → UInt64
  pointOf : ScreenPoint → FloatPoint
  rounded : FloatPoint → ScreenPoint
  center : LocalBounds → FloatPoint
  pointIsAtEdge : Edge → ScreenPoint → LocalBounds → Bool
  anchorFor : LocalBounds → Edge → ScreenPoint → ScreenPoint
  normalizedPerpendicular : Edge → ScreenPoint → LocalBounds → UInt32
  remoteEntryPoint : Edge → UInt32 → Nat × Nat → FloatPoint
  remoteNormalizedPerpendicular : Edge → FloatPoint → Nat × Nat → UInt32
  restoreFor : LocalBounds → Edge → UInt32 → ScreenPoint
  applyRemoteMotion : FloatPoint → Int → Int → Nat × Nat → FloatPoint
  remoteReturnEdgeReached : Edge → FloatPoint → Nat × Nat → Bool
  applyLocalMotion : FloatPoint → Int → Int → LocalBounds → FloatPoint

/-- What the system answers while an event is handled. -/
structure Surroundings where
  now : Nat
  foreground : Int := 0
  fullscreen : Bool := false
  cursorConfined : Bool := false
  deriving DecidableEq, Repr

/-- `GAME_GUARD_CHECK_INTERVAL`, in milliseconds. -/
def gameGuardCheckInterval : Nat := 250

/-- `RELEASE_REENTRY_COOLDOWN`, in milliseconds. -/
def releaseReentryCooldown : Nat := 750

/-- `GameGuard`; it has not been checked when `lastCheck` is `none`. -/
structure GameGuard where
  lastCheck : Option Nat := none
  blocksCapture : Bool := false
  fullscreen : Bool := false
  cursorConfined : Bool := false
  deriving DecidableEq, Repr

/-- `game_guard_should_block`. -/
def gameGuardShouldBlock (mode : GameCompatibilityMode) (fullscreen cursorConfined : Bool) : Bool :=
  match mode with
  | .compatible => fullscreen || cursorConfined
  | .borderless => cursorConfined
  | .alwaysEnabled => false

/-- `GameGuard::refresh`. -/
def GameGuard.refresh (mode : GameCompatibilityMode) (at' : Surroundings) (guard : GameGuard) :
    GameGuard :=
  if guard.lastCheck.any fun last => at'.now - last < gameGuardCheckInterval then guard
  else
    { lastCheck := some at'.now
      fullscreen := at'.fullscreen
      cursorConfined := at'.cursorConfined
      blocksCapture := gameGuardShouldBlock mode at'.fullscreen at'.cursorConfined }

/-- `CaptureState`. -/
structure CaptureState where
  config : CaptureConfig
  localBounds : LocalBounds
  active : Bool := false
  enabled : Bool := true
  anchor : ScreenPoint := ⟨0, 0⟩
  remoteCursor : FloatPoint := (0, 0)
  virtualLocalCursor : FloatPoint
  ctrlDown : Bool := false
  altDown : Bool := false
  captureSuspended : Bool := false
  suspendForeground : Option Int := none
  cursorHidden : Bool := false
  gameGuard : GameGuard := {}
  rawAbsolutePosition : Option (Int × Int) := none
  lastRawInput : Option Nat := none
  activationBlockedUntil : Nat
  deriving DecidableEq, Repr

/-- The state that `start` makes. -/
def CaptureState.start (g : CaptureGeometry) (config : CaptureConfig) (localBounds : LocalBounds)
    (now : Nat) : CaptureState :=
  { config, localBounds, virtualLocalCursor := g.center localBounds, activationBlockedUntil := now }

/-- `CapturedInput`. -/
inductive CapturedInput where
  | input (event : InputEvent)
  | control (event : ControlEvent)
  deriving DecidableEq, Repr

/-- What the capture does to its surroundings. -/
inductive CaptureEffect where
  | sent (captured : CapturedInput)
  | setCursorPos (point : ScreenPoint)
  | hideCursor
  | showCursor
  | installMouseHook
  | uninstallMouseHook
  deriving DecidableEq, Repr

/-- Whether a hook passes its event on to the next one. -/
inductive HookResult where
  | callNext
  | consumed
  deriving DecidableEq, Repr

namespace CaptureState

abbrev CaptureM := Handler CaptureState CaptureEffect Empty

variable (g : CaptureGeometry) (at' : Surroundings)

def sendInput (event : InputEvent) : CaptureM Unit := emit (.sent (.input event))

def sendControl (event : ControlEvent) : CaptureM Unit := emit (.sent (.control event))

/-- `at_activation_edge`. -/
def atActivationEdge (s : CaptureState) (point : ScreenPoint) : Bool :=
  g.pointIsAtEdge s.config.edge point s.localBounds

/-- `game_guard_blocks_capture`. -/
def gameGuardBlocksCapture : CaptureM Bool := do
  let s ← read
  let guard := s.gameGuard.refresh s.config.gameCompatibility at'
  update fun s => { s with gameGuard := guard }
  pure guard.blocksCapture

/-- `virtual_edge_required`. -/
def virtualEdgeRequired : CaptureM Bool := do
  let s ← read
  let guard := s.gameGuard.refresh s.config.gameCompatibility at'
  update fun s => { s with gameGuard := guard }
  pure (s.config.gameCompatibility ≠ .compatible && (guard.fullscreen || guard.cursorConfined))

/-- `activation_allowed`. -/
def activationAllowed (s : CaptureState) : Bool := at'.now ≥ s.activationBlockedUntil

/-- `hide_source_cursor`, and so `keep_source_cursor_hidden`. -/
def hideSourceCursor : CaptureM Unit := do
  let s ← read
  if !s.cursorHidden then
    emit .hideCursor
    update fun s => { s with cursorHidden := true }

/-- `show_source_cursor`. -/
def showSourceCursor : CaptureM Unit := do
  let s ← read
  if s.cursorHidden then
    emit .showCursor
    update fun s => { s with cursorHidden := false }

/-- `local_restore`. -/
def localRestore (s : CaptureState) : ScreenPoint :=
  g.restoreFor s.localBounds s.config.edge
    (g.remoteNormalizedPerpendicular s.config.edge s.remoteCursor s.config.remoteSize)

/-- `CaptureState::release_to_local`. -/
def release (reason : ReleaseReason) : CaptureM Unit := do
  let s ← read
  if s.active then
    update fun s =>
      { s with
        active := false
        rawAbsolutePosition := none
        activationBlockedUntil := at'.now + releaseReentryCooldown }
    sendInput .allKeysUp
    sendControl (.releaseToLocal reason)
    showSourceCursor
    let restore := s.localRestore g
    let virtualEdge ← virtualEdgeRequired at'
    update fun s =>
      { s with
        virtualLocalCursor :=
          if virtualEdge then g.center s.localBounds else g.pointOf restore }
    emit (.setCursorPos restore)

/-- `enter_remote`. -/
def enterRemote (point : ScreenPoint) : CaptureM Unit := do
  let s ← read
  let anchor := g.anchorFor s.localBounds s.config.edge point
  let normalized := g.normalizedPerpendicular s.config.edge point s.localBounds
  update fun s =>
    { s with
      active := true
      anchor
      remoteCursor := g.remoteEntryPoint s.config.edge normalized s.config.remoteSize
      rawAbsolutePosition := none }
  sendControl (.enterRemote s.config.edge normalized)
  emit (.setCursorPos anchor)
  hideSourceCursor

/-- `remote_at_return_edge`. -/
def remoteAtReturnEdge (s : CaptureState) : Bool :=
  g.remoteReturnEdgeReached s.config.edge s.remoteCursor s.config.remoteSize

/-- `release_if_remote_return_edge`. -/
def releaseIfRemoteReturnEdge : CaptureM Unit := do
  let s ← read
  if s.remoteAtReturnEdge g then release g at' .userRequest

/-- The motion of the remote cursor, in `remote_motion` and `raw_remote_motion`. -/
def moveRemote (dx dy : Int) : CaptureM Unit := do
  update fun s =>
    { s with remoteCursor := g.applyRemoteMotion s.remoteCursor dx dy s.config.remoteSize }
  sendInput (.pointerMotion (g.fromInt dx) (g.fromInt dy))
  releaseIfRemoteReturnEdge g at'

/-- `remote_motion`. -/
def remoteMotion (point : ScreenPoint) : CaptureM Unit := do
  let s ← read
  let dx := point.x - s.anchor.x
  let dy := point.y - s.anchor.y
  emit (.setCursorPos s.anchor)
  if !(dx = 0 && dy = 0) then moveRemote g at' dx dy

/-- The relative motion of a raw event, in `raw_remote_motion` and `raw_local_motion`. -/
def rawDelta (x y : Int) (absolute : Bool) : CaptureM (Option (Int × Int)) := do
  let s ← read
  if absolute then
    update fun s => { s with rawAbsolutePosition := some (x, y) }
    pure (s.rawAbsolutePosition.map fun previous => (x - previous.1, y - previous.2))
  else
    update fun s => { s with rawAbsolutePosition := none }
    pure (some (x, y))

/-- `raw_remote_motion`. -/
def rawRemoteMotion (x y : Int) (absolute : Bool) : CaptureM Unit := do
  let delta ← rawDelta x y absolute
  match delta with
  | none => pure ()
  | some (dx, dy) => if !(dx = 0 && dy = 0) then moveRemote g at' dx dy

/-- `raw_local_motion`. -/
def rawLocalMotion (x y : Int) (absolute : Bool) : CaptureM Unit := do
  let virtualEdge ← virtualEdgeRequired at'
  if !virtualEdge then
    update fun s => { s with rawAbsolutePosition := none }
  else
    let delta ← rawDelta x y absolute
    match delta with
    | none => pure ()
    | some (dx, dy) =>
      if !(dx = 0 && dy = 0) then
        update fun s =>
          { s with
            virtualLocalCursor := g.applyLocalMotion s.virtualLocalCursor dx dy s.localBounds }
        let s ← read
        let point := g.rounded s.virtualLocalCursor
        if s.activationAllowed at' && s.atActivationEdge g point then enterRemote g point

/-- `refresh_capture_suspension`. -/
def refreshCaptureSuspension : CaptureM Unit := do
  let s ← read
  if s.captureSuspended && s.suspendForeground.any fun suspended =>
      at'.foreground ≠ 0 && at'.foreground ≠ suspended then
    update fun s => { s with captureSuspended := false, suspendForeground := none }
    emit .installMouseHook

/-- `toggle_capture_suspended`. -/
def toggleCaptureSuspended : CaptureM Unit := do
  let s ← read
  let suspended := !s.captureSuspended
  update fun s =>
    { s with
      captureSuspended := suspended
      suspendForeground :=
        if suspended && at'.foreground ≠ 0 then some at'.foreground else none }
  if suspended then
    release g at' .userRequest
    showSourceCursor
    emit .uninstallMouseHook
  else emit .installMouseHook

end CaptureState

/-! ## Events -/

/-- The messages of the mouse hook. -/
inductive MouseMessage where
  | mouseMove
  | button (button : MouseButton) (down : Bool)
  | xButton (down : Bool)
  | mouseWheel
  | mouseHWheel
  | other
  deriving DecidableEq, Repr

/-- A call of the mouse hook: `action` is `HC_ACTION`, `ownInput` an event that the program
    injected itself, `locked` that the state could be locked, `injected` `LLMHF_INJECTED`. -/
structure MouseHookEvent where
  action : Bool := true
  ownInput : Bool := false
  locked : Bool := true
  message : MouseMessage
  point : ScreenPoint
  mouseData : UInt32 := 0
  injected : Bool := false
  deriving DecidableEq, Repr

/-- The messages of the keyboard hook; down and up include the `WM_SYSKEY` ones. -/
inductive KeyMessage where
  | down
  | up
  | other
  deriving DecidableEq, Repr

/-- A call of the keyboard hook. -/
structure KeyboardHookEvent where
  action : Bool := true
  ownInput : Bool := false
  locked : Bool := true
  message : KeyMessage
  vkCode : UInt32
  scanCode : UInt16
  extended : Bool := false
  injected : Bool := false
  deriving DecidableEq, Repr

/-- A raw mouse event. -/
structure RawMouseEvent where
  locked : Bool := true
  lastX : Int
  lastY : Int
  absolute : Bool := false
  deriving DecidableEq, Repr

/-- What reaches the `CaptureState`: the hooks, raw input and the functions of the session. -/
inductive CaptureCall where
  | mouseHook (event : MouseHookEvent)
  | keyboardHook (event : KeyboardHookEvent)
  | rawMouse (event : RawMouseEvent)
  | releaseToLocal (reason : ReleaseReason)
  | handleReceiverRelease (reason : ReleaseReason)
  | setEnabled (enabled : Bool) (reason : ReleaseReason)
  deriving DecidableEq, Repr

def vkControl : UInt32 := 0x11
def vkMenu : UInt32 := 0x12
def vkLControl : UInt32 := 0xa2
def vkRControl : UInt32 := 0xa3
def vkLMenu : UInt32 := 0xa4
def vkRMenu : UInt32 := 0xa5
def vkPause : UInt32 := 0x13
def vkEscape : UInt32 := 0x1b
def vkG : UInt32 := 0x47

/-- `is_release_hotkey`. -/
def isReleaseHotkey (vkCode : UInt32) : Bool := vkCode = vkPause || vkCode = vkEscape

/-- `x_button`. -/
def xButton (mouseData : UInt32) : Option MouseButton :=
  let word := (mouseData >>> 16) &&& 0xffff
  if word = 1 then some .back else if word = 2 then some .forward else none

namespace CaptureState

variable (g : CaptureGeometry) (at' : Surroundings)

/-- `update_modifier`. -/
def updateModifier (vkCode : UInt32) (down : Bool) (s : CaptureState) : CaptureState :=
  if vkCode = vkControl ∨ vkCode = vkLControl ∨ vkCode = vkRControl then { s with ctrlDown := down }
  else if vkCode = vkMenu ∨ vkCode = vkLMenu ∨ vkCode = vkRMenu then { s with altDown := down }
  else s

/-- The mouse hook while the remote side is controlled. -/
def mouseRemote (event : MouseHookEvent) : CaptureM HookResult := do
  if event.injected then pure .consumed
  else
    match event.message with
    | .mouseMove =>
      hideSourceCursor
      let s ← read
      let recent := s.lastRawInput.any fun last => at'.now - last < 250
      if recent then pure .consumed
      else
        remoteMotion g at' event.point
        pure .consumed
    | .button button down =>
      sendInput (.pointerButton button down)
      pure .consumed
    | .xButton down =>
      match xButton event.mouseData with
      | some button =>
        sendInput (.pointerButton button down)
        pure .consumed
      | none => pure .consumed
    | .mouseWheel =>
      sendInput (.pointerWheel 0 (g.wheelFraction event.mouseData))
      pure .consumed
    | .mouseHWheel =>
      sendInput (.pointerWheel (g.wheelFraction event.mouseData) 0)
      pure .consumed
    | .other => pure .consumed

/-- Enters the remote side if the cursor has reached the edge. -/
def enterAtEdge (point : ScreenPoint) : CaptureM HookResult := do
  let s ← read
  if s.activationAllowed at' && s.atActivationEdge g point then
    enterRemote g point
    pure .consumed
  else pure .callNext

/-- The mouse hook while the local side is controlled. -/
def mouseLocal (event : MouseHookEvent) : CaptureM HookResult := do
  if event.message = .mouseMove then
    let virtualEdge ← virtualEdgeRequired at'
    update fun s =>
      { s with
        virtualLocalCursor := if virtualEdge then s.virtualLocalCursor else g.pointOf event.point }
    enterAtEdge g at' event.point
  else pure .callNext

/-- `mouse_hook`. -/
def mouseHook (event : MouseHookEvent) : CaptureM HookResult := do
  let before ← read
  if !event.action || event.ownInput then pure .callNext
  else if !event.locked then pure (if before.active then .consumed else .callNext)
  else if !before.enabled then pure .callNext
  else
    refreshCaptureSuspension at'
    let s ← read
    if s.captureSuspended then
      if s.active then release g at' .userRequest
      pure .callNext
    else
      let blocked ← gameGuardBlocksCapture at'
      if blocked then
        if s.active then release g at' .userRequest
        pure .callNext
      else if s.active then mouseRemote g at' event
      else mouseLocal g at' event

/-- A key while the remote side is controlled, in `keyboard_hook`. -/
def keyRemote (event : KeyboardHookEvent) (down : Bool) : CaptureM HookResult := do
  hideSourceCursor
  match windowsScancodeToEvdev ⟨event.scanCode, event.extended⟩ with
  | some evdevCode =>
    sendInput (.key evdevCode down)
    pure .consumed
  | none => pure .consumed

/-- `keyboard_hook`. -/
def keyboardHook (event : KeyboardHookEvent) : CaptureM HookResult := do
  let before ← read
  let down := event.message = .down
  let changed := event.message ≠ .other
  if !event.action || event.ownInput then pure .callNext
  else if !event.locked then pure (if before.active then .consumed else .callNext)
  else if event.injected && before.active then pure .consumed
  else if !before.enabled then pure .callNext
  else
    refreshCaptureSuspension at'
    update fun s => if changed then s.updateModifier event.vkCode down else s
    let s ← read
    if down && s.ctrlDown && s.altDown && event.vkCode = vkG then
      toggleCaptureSuspended g at'
      pure .consumed
    else if !s.active then pure .callNext
    else if down && s.ctrlDown && s.altDown && isReleaseHotkey event.vkCode then
      release g at' .hotkey
      pure .consumed
    else if changed then keyRemote event down
    else pure .consumed

/-- `handle_raw_mouse_input`. -/
def rawMouse (event : RawMouseEvent) : CaptureM HookResult := do
  if !event.locked then pure .callNext
  else
    update fun s => { s with lastRawInput := some at'.now }
    let s ← read
    if !s.enabled then pure .callNext
    else if s.active then
      rawRemoteMotion g at' event.lastX event.lastY event.absolute
      pure .callNext
    else
      rawLocalMotion g at' event.lastX event.lastY event.absolute
      pure .callNext

/-- `capture::release_to_local`. -/
def releaseToLocal (reason : ReleaseReason) : CaptureM HookResult := do
  release g at' reason
  showSourceCursor
  pure .callNext

/-- `capture::handle_receiver_release`; a plausible release is `consumed`. -/
def handleReceiverRelease (reason : ReleaseReason) : CaptureM HookResult := do
  let s ← read
  if !s.active then pure .callNext
  else if reason = .userRequest && !s.remoteAtReturnEdge g then pure .callNext
  else
    release g at' reason
    pure .consumed

/-- `set_enabled_with_release_reason`. -/
def setEnabled (enabled : Bool) (reason : ReleaseReason) : CaptureM HookResult := do
  let s ← read
  if s.enabled = enabled then pure .callNext
  else
    if !enabled then release g at' reason
    update fun s => { s with enabled }
    showSourceCursor
    pure .callNext

def handle : CaptureCall → CaptureM HookResult
  | .mouseHook event => mouseHook g at' event
  | .keyboardHook event => keyboardHook g at' event
  | .rawMouse event => rawMouse g at' event
  | .releaseToLocal reason => releaseToLocal g at' reason
  | .handleReceiverRelease reason => handleReceiverRelease g at' reason
  | .setEnabled enabled reason => setEnabled g at' enabled reason

end CaptureState

end EdgeKvm.Input
