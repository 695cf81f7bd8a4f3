import EdgeKvm.Input.Keymap
import EdgeKvm.Lib.Device
import EdgeKvm.Lib.Machine
import EdgeKvm.Lib.Ordered
import EdgeKvm.Session.Protocol

/-!
# The injectors

The injection of input frames on Windows (`crates/edge-windows-input/src/injection.rs`) and
through uinput (`crates/edge-linux-input/src/uinput.rs`): what each records as held, and the sends
it makes, each of which may fail. The arithmetic on fractions is a parameter.
-/

namespace EdgeKvm.Input

open EdgeKvm.Lib EdgeKvm.Session

/-- The floating-point arithmetic of the injectors, on the bits of `f64`. -/
structure Rounding where
  roundedI32 : UInt64 → Int
  wheelData : UInt64 → UInt32
  integralDelta : UInt64 × UInt64 → UInt64 → UInt64 → (Int × Int) × (UInt64 × UInt64)

/-- `value == 0.0`, for zeros of both signs. -/
def isZero (value : UInt64) : Bool := value &&& 0x7fffffffffffffff == 0

/-! ## Windows -/

/-- What `SendInput` can hold down. -/
inductive WindowsHeld where
  | key (key : WindowsScanCode)
  | button (button : MouseButton)
  deriving DecidableEq, Repr

/-- An `INPUT` as `send_mouse` and `send_key` make it. -/
inductive WindowsInput where
  | key (key : WindowsScanCode) (down : Bool)
  | button (button : MouseButton) (down : Bool)
  | motion (dx dy : Int)
  | verticalWheel (data : UInt32)
  | horizontalWheel (data : UInt32)
  deriving DecidableEq, Repr

def WindowsInput.touch : WindowsInput → Option (WindowsHeld × Bool)
  | .key scan down => some (.key scan, down)
  | .button held down => some (.button held, down)
  | _ => none

/-- The errors of `WindowsInputError` that an injection returns. -/
inductive WindowsInputError where
  | unmappedEvdevKey (evdevCode : UInt16)
  | injection (message : String)
  deriving DecidableEq, Repr

/-- `WindowsInputInjector`, with the device that its sends go to. -/
structure WindowsInjector where
  heldKeys : List UInt16 := []
  heldButtons : MouseButton → Bool := fun _ => false
  device : Device WindowsHeld := {}

namespace WindowsInjector

/-- The buttons in the order of `button_index`. -/
def buttons : List MouseButton := [.left, .right, .middle, .back, .forward]

/-- `send_inputs` with one input. -/
def sendInputs (input : WindowsInput) (w : WindowsInjector) :
    Except WindowsInputError Unit × WindowsInjector :=
  let sent := w.device.send WindowsInput.touch [input]
  (if sent.1 then .ok ()
    else .error (.injection
      "SendInput accepted 0 of 1 events (UIPI may be blocking injection)"),
    { w with device := sent.2 })

/-- `send_key`. -/
def sendKey (evdevCode : UInt16) (down : Bool) (w : WindowsInjector) :
    Except WindowsInputError Unit × WindowsInjector :=
  match evdevToWindowsScancode evdevCode with
  | none => (.error (.unmappedEvdevKey evdevCode), w)
  | some key => sendInputs (.key key down) w

/-- Keeps the first error of a loop. -/
def firstError (seen : Option WindowsInputError) :
    Except WindowsInputError Unit → Option WindowsInputError
  | .ok () => seen
  | .error error => seen.orElse fun _ => some error

/-- The loop of `all_keys_up` over the keys. -/
def releaseKeys (seen : Option WindowsInputError) (w : WindowsInjector) :
    List UInt16 → Option WindowsInputError × WindowsInjector
  | [] => (seen, w)
  | key :: keys =>
    let sent := w.sendKey key false
    releaseKeys (firstError seen sent.1) sent.2 keys

/-- The loop of `all_keys_up` over the buttons. -/
def releaseButtons (seen : Option WindowsInputError) (w : WindowsInjector) :
    List MouseButton → Option WindowsInputError × WindowsInjector
  | [] => (seen, w)
  | button :: rest =>
    if w.heldButtons button then
      let sent := w.sendInputs (.button button false)
      releaseButtons (firstError seen sent.1)
        { sent.2 with heldButtons := Function.update sent.2.heldButtons button false } rest
    else releaseButtons seen w rest

/-- `WindowsInputInjector::all_keys_up`. -/
def allKeysUp (w : WindowsInjector) : Except WindowsInputError Unit × WindowsInjector :=
  let keys := w.releaseKeys none w.heldKeys
  let released := releaseButtons keys.1 { keys.2 with heldKeys := [] } buttons
  (match released.1 with
    | some error => .error error
    | none => .ok (),
    released.2)

/-- `WindowsInputInjector::inject`: keys and buttons are recorded before they are sent. -/
def inject (p : Rounding) (event : InputEvent) (w : WindowsInjector) :
    Except WindowsInputError Unit × WindowsInjector :=
  match event with
  | .pointerMotion dx dy => w.sendInputs (.motion (p.roundedI32 dx) (p.roundedI32 dy))
  | .pointerButton button down =>
    sendInputs (.button button down)
      { w with heldButtons := Function.update w.heldButtons button down }
  | .pointerWheel x y =>
    let vertical :=
      if isZero y then (.ok (), w) else w.sendInputs (.verticalWheel (p.wheelData y))
    match vertical.1 with
    | .error error => (.error error, vertical.2)
    | .ok () =>
      if isZero x then (.ok (), vertical.2)
      else vertical.2.sendInputs (.horizontalWheel (p.wheelData x))
  | .key evdevCode down =>
    sendKey evdevCode down
      { w with
        heldKeys :=
          if down then Ordered.insertKey evdevCode w.heldKeys
          else Ordered.removeKey evdevCode w.heldKeys }
  | .allKeysUp => w.allKeysUp

end WindowsInjector

/-! ## uinput -/

/-- `EVDEV_KEY_MAX`. -/
def evdevKeyMax : UInt16 := 0x2ff

/-- `RelativeAxisCode`. -/
inductive RelativeAxisCode where
  | relX
  | relY
  | relWheel
  | relHWheel
  deriving DecidableEq, Repr

/-- The events that `UinputSender` emits. -/
inductive EvdevEvent where
  | key (code : UInt16) (value : Bool)
  | relative (axis : RelativeAxisCode) (value : Int)
  deriving DecidableEq, Repr

def EvdevEvent.touch : EvdevEvent → Option (UInt16 × Bool)
  | .key code value => some (code, value)
  | .relative _ _ => none

/-- The errors of `LinuxInputError` that an injection returns. -/
inductive UinputError where
  | unsupportedKey (evdevCode : UInt16)
  | io
  deriving DecidableEq, Repr

/-- `mouse_button_code`. -/
def mouseButtonCode : MouseButton → UInt16
  | .left => 0x110
  | .right => 0x111
  | .middle => 0x112
  | .back => 0x116
  | .forward => 0x115

/-- `UinputSender`. -/
structure UinputSender where
  device : Device UInt16 := {}
  pressedKeys : List UInt16 := []
  pressedButtons : List UInt16 := []
  motionRemainder : UInt64 × UInt64 := (0, 0)
  wheelRemainder : UInt64 × UInt64 := (0, 0)

namespace UinputSender

/-- `VirtualDevice::emit`, with its failure as an error of the sender. -/
def emit (events : List EvdevEvent) (u : UinputSender) : Except UinputError Unit × UinputSender :=
  let sent := u.device.send EvdevEvent.touch events
  (if sent.1 then .ok () else .error .io, { u with device := sent.2 })

/-- `emit_relative`. -/
def emitRelative (x y : Int) (xAxis yAxis : RelativeAxisCode) (u : UinputSender) :
    Except UinputError Unit × UinputSender :=
  let events :=
    (if x ≠ 0 then [EvdevEvent.relative xAxis x] else []) ++
      (if y ≠ 0 then [EvdevEvent.relative yAxis y] else [])
  if events.isEmpty then (.ok (), u) else u.emit events

/-- `emit_key`. -/
def emitKey (code : UInt16) (down : Bool) (u : UinputSender) :
    Except UinputError Unit × UinputSender := u.emit [.key code down]

/-- `release_all`. -/
def releaseAll (u : UinputSender) : Except UinputError Unit × UinputSender :=
  let events := (u.pressedKeys ++ u.pressedButtons).map fun code => EvdevEvent.key code false
  let still := { u with motionRemainder := (0, 0), wheelRemainder := (0, 0) }
  if events.isEmpty then (.ok (), still)
  else
    match still.emit events with
    | (.error error, sent) => (.error error, sent)
    | (.ok (), sent) => (.ok (), { sent with pressedKeys := [], pressedButtons := [] })

/-- `UinputSender::inject`: keys and buttons are recorded after they are sent. -/
def inject (p : Rounding) (event : InputEvent) (u : UinputSender) :
    Except UinputError Unit × UinputSender :=
  match event with
  | .pointerMotion dx dy =>
    let delta := p.integralDelta u.motionRemainder dx dy
    emitRelative delta.1.1 delta.1.2 .relX .relY { u with motionRemainder := delta.2 }
  | .pointerWheel x y =>
    let delta := p.integralDelta u.wheelRemainder x y
    emitRelative delta.1.1 delta.1.2 .relHWheel .relWheel { u with wheelRemainder := delta.2 }
  | .pointerButton button down =>
    let code := mouseButtonCode button
    match u.emitKey code down with
    | (.error error, sent) => (.error error, sent)
    | (.ok (), sent) =>
      (.ok (),
        { sent with
          pressedButtons :=
            if down then Ordered.insertKey code sent.pressedButtons
            else Ordered.removeKey code sent.pressedButtons })
  | .key evdevCode down =>
    if evdevCode > evdevKeyMax then (.error (.unsupportedKey evdevCode), u)
    else
      match u.emitKey evdevCode down with
      | (.error error, sent) => (.error error, sent)
      | (.ok (), sent) =>
        (.ok (),
          { sent with
            pressedKeys :=
              if down then Ordered.insertKey evdevCode sent.pressedKeys
              else Ordered.removeKey evdevCode sent.pressedKeys })
  | .allKeysUp => u.releaseAll

/-- `UinputBackend::all_keys_up`. -/
def allKeysUp (p : Rounding) (u : UinputSender) : Except UinputError Unit × UinputSender :=
  u.inject p .allKeysUp

end UinputSender

end EdgeKvm.Input
