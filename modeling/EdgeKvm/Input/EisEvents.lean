import EdgeKvm.Lib.Ordered
import EdgeKvm.Session.Protocol

/-!
# Input from the compositor

`CaptureInputState` and `handle_eis_event` of `crates/edge-linux-input/src/portal_capture.rs`: what
an event of the EIS stream becomes, and the keys that count toward the emergency chord. The
arithmetic on fractions is a parameter.
-/

namespace EdgeKvm.Input

open EdgeKvm.Lib EdgeKvm.Session

/-- The floating-point arithmetic of `handle_eis_event`, on bits. -/
structure EiArithmetic where
  widened : UInt32 → UInt64
  discrete : Int → UInt64
  negatedDiscrete : Int → UInt64
  delta : UInt32 → UInt64
  negatedDelta : UInt32 → UInt64

/-- The events of the EIS stream; `flushFailed` is the failure of `context.flush()`. -/
inductive EiEvent where
  | seatAdded (flushFailed : Option String)
  | pointerMotion (dx dy : UInt32)
  | button (button : UInt32) (pressed : Bool)
  | scrollDiscrete (dx dy : Int)
  | scrollDelta (dx dy : UInt32)
  | keyboardKey (key : UInt32) (pressed : Bool)
  | deviceStopEmulating
  | disconnected
  | other
  deriving DecidableEq, Repr

/-- `CaptureInputState`. -/
structure CaptureInputState where
  pressedKeys : List UInt16 := []
  deriving DecidableEq, Repr

/-- `EisAction`. -/
inductive EisAction where
  | none
  | input (event : InputEvent)
  | emergencyRelease
  deriving DecidableEq, Repr

/-- `CONTROL_KEYS`. -/
def controlKeys : List UInt16 := [29, 97]

/-- `ALT_KEYS`. -/
def altKeys : List UInt16 := [56, 100]

/-- `KEY_PAUSE`. -/
def keyPause : UInt16 := 119

/-- `KEY_ESC`. -/
def keyEsc : UInt16 := 1

namespace CaptureInputState

/-- `CaptureInputState::clear`. -/
def clear (_ : CaptureInputState) : CaptureInputState := { pressedKeys := [] }

/-- The keys after a key event, in `CaptureInputState::update_key`. -/
def press (evdevCode : UInt16) (down : Bool) (s : CaptureInputState) : CaptureInputState :=
  { pressedKeys :=
      if down then Ordered.insertKey evdevCode s.pressedKeys
      else Ordered.removeKey evdevCode s.pressedKeys }

/-- `CaptureInputState::update_key`. -/
def updateKey (evdevCode : UInt16) (down : Bool) (s : CaptureInputState) :
    Bool × CaptureInputState :=
  let after := s.press evdevCode down
  (down && (evdevCode = keyPause || evdevCode = keyEsc) &&
      after.pressedKeys.any (· ∈ controlKeys) && after.pressedKeys.any (· ∈ altKeys),
    after)

end CaptureInputState

/-- `mouse_button`. -/
def mouseButton (button : UInt32) : Option MouseButton :=
  if button = 0x110 then some .left
  else if button = 0x111 then some .right
  else if button = 0x112 then some .middle
  else if button = 0x115 then some .forward
  else if button = 0x116 then some .back
  else none

/-- The key case of `handle_eis_event`. -/
def handleKeyboardKey (key : UInt32) (down : Bool) (state : CaptureInputState) :
    EisAction × CaptureInputState :=
  if key > 0xffff then (.none, state)
  else
    let evdevCode := key.toUInt16
    let updated := state.updateKey evdevCode down
    if updated.1 then (.emergencyRelease, updated.2.clear)
    else (.input (.key evdevCode down), updated.2)

/-- `handle_eis_event`. -/
def handleEisEvent (a : EiArithmetic) (event : EiEvent) (state : CaptureInputState) :
    Except String EisAction × CaptureInputState :=
  match event with
  | .seatAdded none => (.ok .none, state)
  | .seatAdded (some failure) => (.error failure, state)
  | .pointerMotion dx dy => (.ok (.input (.pointerMotion (a.widened dx) (a.widened dy))), state)
  | .button button pressed =>
    (.ok ((mouseButton button).elim .none fun button => .input (.pointerButton button pressed)),
      state)
  | .scrollDiscrete dx dy =>
    (.ok (.input (.pointerWheel (a.discrete dx) (a.negatedDiscrete dy))), state)
  | .scrollDelta dx dy => (.ok (.input (.pointerWheel (a.delta dx) (a.negatedDelta dy))), state)
  | .keyboardKey key pressed =>
    let handled := handleKeyboardKey key pressed state
    (.ok handled.1, handled.2)
  | .deviceStopEmulating | .disconnected => (.ok (.input .allKeysUp), state.clear)
  | .other => (.ok .none, state)

end EdgeKvm.Input
