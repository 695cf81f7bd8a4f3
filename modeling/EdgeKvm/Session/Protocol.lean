import EdgeKvm.Session.Role

/-!
# Frames and events of a PC session

The frames of `crates/edge-protocol/src/lib.rs` that the two session loops of `main.rs` act on,
and the events both loops wait for besides frames. Floating-point fields are carried as their
bits; no rule looks into them.
-/

namespace EdgeKvm.Session

/-- `INITIAL_ROLE_EPOCH`. -/
def initialRoleEpoch : Nat := 1

/-- `MouseButton`. -/
inductive MouseButton where
  | left
  | right
  | middle
  | back
  | forward
  deriving DecidableEq, Repr

/-- `InputEvent`. -/
inductive InputEvent where
  | pointerMotion (dx dy : UInt64)
  | pointerButton (button : MouseButton) (down : Bool)
  | pointerWheel (x y : UInt64)
  | key (evdevCode : UInt16) (down : Bool)
  | allKeysUp
  deriving DecidableEq, Repr

/-- `ReleaseReason`. -/
inductive ReleaseReason where
  | hotkey
  | peerDisconnected
  | heartbeatTimeout
  | backendFailure
  | userRequest
  | shutdown
  deriving DecidableEq, Repr

/-- `ControlEvent`. -/
inductive ControlEvent where
  | enterRemote (edge : Edge) (normalizedPosition : UInt32)
  | leaveRemote (edge : Edge) (normalizedPosition : UInt32)
  | releaseToLocal (reason : ReleaseReason)
  | setInputForwarding (enabled : Bool)
  deriving DecidableEq, Repr

/-- `RoleEvent`. -/
inductive RoleEvent where
  | sessionState (state : RoleState)
  | request (controllerFingerprint : String)
  | prepare (state : RoleState)
  | ready (roleEpoch : Nat) (captureReady injectReady : Bool) (failureDetail : Option String)
  | commit (state : RoleState)
  | applied (roleEpoch : Nat)
  | abort (state : RoleState)
  | setPaused (paused : Bool)
  deriving DecidableEq, Repr

/-- `AudioCodec`. -/
inductive AudioCodec where
  | pcmS16Stereo48Khz
  deriving DecidableEq, Repr

/-- `AudioStreamState`. -/
inductive AudioStreamState where
  | disabled
  | waitingForUdp
  | starting
  | streaming
  | error
  deriving DecidableEq, Repr

/-- `AudioStopReason`. -/
inductive AudioStopReason where
  | userRequest
  | peerDisconnected
  | transportFailure
  | captureFailure
  | playbackFailure
  | shutdown
  deriving DecidableEq, Repr

/-- `SessionSecrets`; the three byte arrays are one value, compared as a whole. -/
structure SessionSecrets where
  value : Nat
  deriving DecidableEq, Repr

/-- `AudioControl`. -/
inductive AudioControl where
  | requestRoute (sourceFingerprint : Option String)
  | setRoute (sourceFingerprint : Option String)
  | offer (udpPort : Nat) (codecs : List AudioCodec)
  | start (udpPort : Nat) (secrets : SessionSecrets) (codec : AudioCodec)
      (frameMs jitterTargetMs : Nat)
  | setEnabled (enabled : Bool)
  | state (state : AudioStreamState) (detail : Option String)
  | stop (reason : AudioStopReason)
  deriving DecidableEq, Repr

/-- `Frame`; `other` stands for the frames that change nothing modelled here. -/
inductive Frame where
  | input (roleEpoch : Nat) (event : InputEvent)
  | control (roleEpoch : Nat) (event : ControlEvent)
  | role (event : RoleEvent)
  | audio (control : AudioControl)
  | error (code message : String)
  | other
  deriving DecidableEq, Repr

/-- `CaptureEvent`. -/
inductive CaptureEvent where
  | activated (edge : Edge) (normalizedPosition : UInt32)
  | input (event : InputEvent)
  | deactivated
  | emergencyReleased
  | layoutChanged
  | backendFailed (error : String)
  deriving DecidableEq, Repr

/-- `ControllerChoice`. -/
inductive ControllerChoice where
  | local'
  | peer
  deriving DecidableEq, Repr

/-- `AudioChoice`. -/
inductive AudioChoice where
  | off
  | local'
  | peer
  deriving DecidableEq, Repr

/-- `TrayCommand`, without the commands that only open a window. -/
inductive TrayCommand where
  | disconnect
  | reconnect
  | toggleInputForwarding
  | setAudio (choice : AudioChoice)
  | setController (choice : ControllerChoice)
  | quit
  deriving DecidableEq, Repr

/-- `LivenessEvent`. -/
inductive LivenessEvent where
  | softInputTimeout
  | hardSessionTimeout
  deriving DecidableEq, Repr

/-- `ControllerSessionExit`, or the error a loop ends with. -/
inductive SessionExit where
  | quitRequested
  | disconnectRequested
  | replaced
  | failed (error : String)
  deriving DecidableEq, Repr

/-- What a loop does to the outside: a frame written to the peer, or an event given to
    `inject`. -/
inductive Effect where
  | send (frame : Frame)
  | inject (event : InputEvent)
  deriving DecidableEq, Repr

/-- The frames among the effects. -/
def sent (effects : List Effect) : List Frame :=
  effects.filterMap fun
    | .send frame => some frame
    | .inject _ => none

/-- The frames that carry a role, pause or forwarding decision to the peer. -/
def Frame.isSignal : Frame → Bool
  | .role (.request _) | .role (.applied _) => false
  | .role _ => true
  | .control _ (.setInputForwarding _) => true
  | _ => false

/-- The signals among the effects. -/
def signals (effects : List Effect) : List Frame := (sent effects).filter (·.isSignal)

/-- The injected events among the effects. -/
def injected (effects : List Effect) : List InputEvent :=
  effects.filterMap fun
    | .send _ => none
    | .inject event => some event

section Effects

variable (a b rest : List Effect) (frame : Frame) (event : InputEvent)

@[simp] theorem signals_nil : signals [] = [] := rfl

@[simp] theorem signals_append : signals (a ++ b) = signals a ++ signals b := by
  simp [signals, sent]

@[simp] theorem signals_send :
    signals (.send frame :: rest) = (if frame.isSignal then [frame] else []) ++ signals rest := by
  cases signal : frame.isSignal <;> simp [signals, sent, signal]

@[simp] theorem signals_inject : signals (.inject event :: rest) = signals rest := by
  simp [signals, sent]

@[simp] theorem injected_nil : injected [] = [] := rfl

@[simp] theorem injected_append : injected (a ++ b) = injected a ++ injected b := by
  simp [injected]

@[simp] theorem injected_send : injected (.send frame :: rest) = injected rest := by
  simp [injected]

@[simp] theorem injected_inject : injected (.inject event :: rest) = event :: injected rest := by
  simp [injected]

end Effects

/-- `PortalCaptureBackend`: whether its task has the capture enabled. A task that ended counts
    as not armed. -/
structure PortalCaptureBackend where
  armed : Bool := false
  deriving DecidableEq, Repr

/-- Whether there is a backend with the capture enabled. -/
def isArmed (capture : Option PortalCaptureBackend) : Bool := capture.any (·.armed)

/-- `PortalCaptureBackend::disarm`. -/
def disarmed (capture : Option PortalCaptureBackend) : Option PortalCaptureBackend :=
  capture.map fun _ => { armed := false }

@[simp, grind =] theorem isArmed_none : isArmed none = false := rfl

@[simp, grind =] theorem isArmed_some (backend : PortalCaptureBackend) :
    isArmed (some backend) = backend.armed := rfl

@[simp, grind =] theorem isArmed_disarmed (capture : Option PortalCaptureBackend) :
    isArmed (disarmed capture) = false := by
  cases capture <;> rfl

@[simp] theorem disarmed_eq_none {capture : Option PortalCaptureBackend} :
    disarmed capture = none ↔ capture = none := by
  simp [disarmed]

@[simp, grind =] theorem isSome_disarmed (capture : Option PortalCaptureBackend) :
    (disarmed capture).isSome = capture.isSome := by
  simp [disarmed]

@[simp] theorem armed_getD (capture : Option PortalCaptureBackend) :
    (capture.getD {}).armed = isArmed capture := by
  cases capture <;> rfl

/-- `InputEpochGate`. -/
structure InputEpochGate where
  suspended : Bool := true
  deriving DecidableEq, Repr

namespace InputEpochGate

/-- `InputEpochGate::suspend`. -/
def suspend (_gate : InputEpochGate) : InputEpochGate := { suspended := true }

/-- `InputEpochGate::observe_control`. -/
def observeControl (gate : InputEpochGate) : ControlEvent → InputEpochGate
  | .enterRemote _ _ => { suspended := false }
  | _ => gate

/-- `InputEpochGate::accepts_input`. -/
def acceptsInput (gate : InputEpochGate) : Bool := !gate.suspended

end InputEpochGate

/-- How the calls end that a handler makes to the outside: `none` for success, or the error.
    `secrets` is what `SessionSecrets::generate` draws. -/
structure Platform where
  arm : Option String := none
  release : Option String := none
  disarm : Option String := none
  preflight : Option String := none
  inject : Option String := none
  allKeysUp : Option String := none
  save : Option String := none
  receiverStart : Option String := none
  secrets : SessionSecrets := ⟨0⟩

end EdgeKvm.Session
