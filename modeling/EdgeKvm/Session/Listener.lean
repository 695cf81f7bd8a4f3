import EdgeKvm.Session.Audio
import EdgeKvm.Lib.Handler

/-!
# The listener's session loop

`handle_controller` of `main.rs`: the loop's variables and one handler for each branch of its
`select!`. Clipboard and notification branches are left out, they touch none of these
variables. A write that fails ends the session like a closed reader.
-/

namespace EdgeKvm.Session

open EdgeKvm.Lib Handler

/-- What the listener's loop knows about itself and its peer, the connector. -/
structure ListenerSetup where
  localFingerprint : String
  controllerFingerprint : String
  listenerPosition : Edge
  controllerSupportsInputCapture : Bool
  controllerSupportsInputInjection : Bool
  controllerSupportsRoleSwitch : Bool
  controllerSupportsInputToggle : Bool
  controllerSupportsAudioCapture : Bool
  controllerSupportsAudioPlayback : Bool
  controllerSupportsAudioRoute : Bool
  audioPort : Nat
  jitterTargetMs : Nat
  deriving DecidableEq, Repr

/-- `role_switch_available`. -/
def ListenerSetup.roleSwitchAvailable (setup : ListenerSetup) : Bool :=
  setup.controllerSupportsRoleSwitch && setup.controllerSupportsInputCapture &&
    setup.controllerSupportsInputInjection

/-- The variables of the listener's loop. The deadline of the source is set or not; when it
    passes is up to the watchdog event. -/
structure Listener where
  setup : ListenerSetup
  inputEpoch : InputEpochGate := {}
  returnEdge : Option Edge := none
  inputForwardingEnabled : Bool := true
  sessionPaused : Bool := false
  roleEpoch : Nat := initialRoleEpoch
  currentRoleState : RoleState
  localIsController : Bool := false
  captureInputActive : Bool := false
  preparedRole : Option RoleState := none
  roleRequestDeadline : Bool := false
  storedRole : Option String := none
  capture : Option PortalCaptureBackend
  audio : AudioEnd := {}

/-- The events of the listener's `select!`. `captureDisarmed` is the portal's doing: its task
    gave up the capture and has not said so yet. -/
inductive ListenerEvent where
  | watchdog (deadlinePassed : Bool) (liveness : Option LivenessEvent)
  | capture (event : Option CaptureEvent)
  | captureDisarmed
  | heartbeat
  | statusLog (senderFinished : Bool) (receiverFailure : Option String)
  | audioStarted
  | audioTask (index : Nat) (failure : Option String)
  | audioTaskCancelled (index : Nat)
  | replaced
  | tray (command : TrayCommand)
  | returnRelease (edge : Edge) (normalizedPosition : UInt32)
  | frame (frame : Frame)
  | closed

abbrev ListenerM := Handler Listener Effect SessionExit

namespace Listener

/-- Writes a frame to the peer. -/
def send (frame : Frame) : ListenerM Unit := emit (.send frame)

/-- Gives an event to the injector. -/
def inject (event : InputEvent) : ListenerM Unit := emit (.inject event)

/-- The guard of most re-arms: the committed controller, enabled and unpaused. -/
def mayCapture (l : Listener) : Bool :=
  l.localIsController && l.inputForwardingEnabled && !l.sessionPaused

/-- `capture.arm().await?`, when the backend exists. -/
def armCapture (p : Platform) : ListenerM Unit := do
  let l ← read
  if l.capture.isSome then
    check (p.arm.map .failed)
    update fun l => { l with capture := some { armed := true } }

/-- `capture.release(None)` and `capture.disarm()` with their errors ignored. -/
def releaseAndDisarm : ListenerM Unit :=
  update fun l => { l with capture := disarmed l.capture }

/-- `capture.release(..).await?`. -/
def releaseCapture (p : Platform) : ListenerM Unit := do
  let l ← read
  if l.capture.isSome then check (p.release.map .failed)

/-- `request_connector_control_after_capture_failure` and the deadline set after it. -/
def requestControlAfterCaptureFailure : ListenerM Unit := do
  let l ← read
  send (.role (.request l.setup.controllerFingerprint))
  update fun l => { l with roleRequestDeadline := true }

section Rules

variable {l : Listener} {p : Platform} {Q : Except SessionExit Unit → Listener → List Effect → Prop}

@[simp] theorem wp_send {frame : Frame} : (send frame).wp Q l ↔ Q (.ok ()) l [.send frame] := Iff.rfl

@[simp] theorem wp_inject {event : InputEvent} :
    (inject event).wp Q l ↔ Q (.ok ()) l [.inject event] := Iff.rfl

@[simp] theorem wp_armCapture :
    (armCapture p).wp Q l ↔
      (l.capture = none → Q (.ok ()) l []) ∧
      (l.capture.isSome → p.arm = none →
        Q (.ok ()) { l with capture := some { armed := true } } []) ∧
      ∀ error, l.capture.isSome → p.arm = some error → Q (.error (.failed error)) l [] := by
  unfold armCapture
  cases found : l.capture <;> cases p.arm <;> simp [found]

@[simp] theorem wp_releaseAndDisarm :
    releaseAndDisarm.wp Q l ↔
      Q (.ok ()) { l with capture := disarmed l.capture } [] := Iff.rfl

@[simp] theorem wp_releaseCapture :
    (releaseCapture p).wp Q l ↔
      (l.capture = none ∨ p.release = none → Q (.ok ()) l []) ∧
      ∀ error, l.capture.isSome → p.release = some error → Q (.error (.failed error)) l [] := by
  unfold releaseCapture
  cases found : l.capture <;> cases p.release <;> simp [found]

@[simp] theorem wp_requestControlAfterCaptureFailure :
    requestControlAfterCaptureFailure.wp Q l ↔
      Q (.ok ()) { l with roleRequestDeadline := true }
        [.send (.role (.request l.setup.controllerFingerprint))] := Iff.rfl

end Rules

/-! ## Watchdog and capture events -/

/-- The handover deadline of the watchdog branch. -/
def expireRequest (p : Platform) (deadlinePassed : Bool) : ListenerM Unit := do
  let l ← read
  if l.roleRequestDeadline && deadlinePassed then
    update fun l => { l with
      roleRequestDeadline := false
      preparedRole := none
      -- The error of this `arm` is ignored and the backend kept.
      capture :=
        if l.mayCapture then l.capture.map fun _ => { armed := p.arm.isNone } else l.capture }

/-- The liveness poll of the watchdog branch; it times out softly only while input is active. -/
def pollLiveness (liveness : Option LivenessEvent) : ListenerM Unit := do
  let l ← read
  match liveness with
  | some .softInputTimeout =>
    if (if l.localIsController then l.captureInputActive else l.inputEpoch.acceptsInput) then
      update fun l => { l with captureInputActive := false, inputEpoch := l.inputEpoch.suspend }
      send (.control l.roleEpoch (.releaseToLocal .heartbeatTimeout))
  | some .hardSessionTimeout => leave (.failed "peer stopped responding; closing session")
  | none => pure ()

/-- A capture event while the backend exists; `none` when its task ended. -/
def captureEvent (p : Platform) (event : Option CaptureEvent) : ListenerM Unit := do
  let l ← read
  if l.capture = none then
    pure ()
  else match event with
  | some (.activated edge normalizedPosition) =>
    if l.mayCapture then
      update fun l => { l with captureInputActive := true }
      send (.control l.roleEpoch (.enterRemote edge normalizedPosition))
  | some (.input event) =>
    if l.mayCapture then send (.input l.roleEpoch event)
  | some .deactivated | some .emergencyReleased => do
    update fun l => { l with captureInputActive := false }
    send (.input l.roleEpoch .allKeysUp)
  | some .layoutChanged => do
    update fun l => { l with captureInputActive := false }
    match l.preparedRole with
    | some prepared => do
      update fun l => { l with preparedRole := none, roleRequestDeadline := false }
      send (.role (.ready prepared.roleEpoch false true
        (some "monitor layout changed during capture preflight")))
    | none => if l.mayCapture then armCapture p
  | some (.backendFailed error) => do
    send (.input l.roleEpoch .allKeysUp)
    update fun l => { l with captureInputActive := false, capture := none }
    if l.localIsController && l.setup.roleSwitchAvailable && !l.sessionPaused &&
        !l.roleRequestDeadline then
      requestControlAfterCaptureFailure
    else
      leave (.failed ("Linux capture backend failed: " ++ error))
  | none =>
    if l.localIsController then leave (.failed "Linux capture backend stopped unexpectedly")

/-- Stream tasks that ended on their own, in the status branch. -/
def reapAudio (senderFinished : Bool) (receiverFailure : Option String) : ListenerM Unit := do
  let l ← read
  if senderFinished && l.audio.sender.isSome then
    update fun l => { l with audio := { l.audio with sender := none } }
    send (.audio (.state .error (some "Linux audio capture stopped unexpectedly")))
  match receiverFailure with
  | none => pure ()
  | some failure =>
    if l.audio.receiver.isSome then
      update fun l => { l with audio := { l.audio with receiver := none } }
      send (.audio (.state .error (some failure)))

/-- The `audio_start_rx` branch. -/
def audioStarted : ListenerM Unit := do
  let l ← read
  match l.audio.takeResult with
  | none => pure ()
  | some (audio, control) =>
    update fun l => { l with audio }
    match control with
    | none => pure ()
    | some control => send (.audio control)

/-! ## Tray commands -/

/-- `TrayCommand::Disconnect`. -/
def disconnect : ListenerM Unit := do
  let l ← read
  if l.setup.controllerSupportsRoleSwitch then
    update fun l => { l with sessionPaused := true, audio := l.audio.stopStreams }
    releaseAndDisarm
    send (.role (.setPaused true))
  else
    update fun l => { l with audio := l.audio.finish }
    send (.control l.roleEpoch (.releaseToLocal .userRequest))
    leave .disconnectRequested

/-- `TrayCommand::Reconnect`. -/
def reconnect (p : Platform) : ListenerM Unit := do
  let l ← read
  if l.setup.controllerSupportsRoleSwitch then
    update fun l => { l with sessionPaused := false }
    send (.role (.setPaused false))
    if l.localIsController && l.inputForwardingEnabled then armCapture p

/-- `TrayCommand::SetController`. -/
def setController (choice : ControllerChoice) : ListenerM Unit := do
  let l ← read
  let requested := match choice with
    | .local' => l.setup.localFingerprint
    | .peer => l.setup.controllerFingerprint
  if !l.sessionPaused && l.setup.roleSwitchAvailable && l.preparedRole.isNone &&
      !l.roleRequestDeadline && l.currentRoleState.controllerFingerprint ≠ some requested then
    send (.role (.request requested))
    update fun l => { l with roleRequestDeadline := true }

/-- `TrayCommand::ToggleInputForwarding`. -/
def toggleInputForwarding (p : Platform) : ListenerM Unit := do
  let l ← read
  if l.preparedRole.isNone then
    update fun l => { l with inputForwardingEnabled := !l.inputForwardingEnabled }
    if l.inputForwardingEnabled then
      update fun l => { l with returnEdge := none }
      releaseAndDisarm
    else if l.localIsController then
      armCapture p
    if l.setup.controllerSupportsInputToggle then
      send (.control l.roleEpoch (.setInputForwarding (!l.inputForwardingEnabled)))
    else if l.inputForwardingEnabled then
      send (.control l.roleEpoch (.releaseToLocal .backendFailure))

/-- `TrayCommand::SetAudio`. -/
def setAudio (choice : AudioChoice) : ListenerM Unit := do
  let l ← read
  let source := match choice with
    | .off => some none
    | .local' =>
      if l.setup.controllerSupportsAudioPlayback then some (some l.setup.localFingerprint)
      else none
    | .peer =>
      if l.setup.controllerSupportsAudioCapture && l.setup.controllerSupportsAudioRoute then
        some (some l.setup.controllerFingerprint)
      else none
  match source with
  | none => pure ()
  | some source =>
    if l.setup.controllerSupportsAudioRoute then
      send (.audio (.requestRoute source))
    else
      send (.audio (.setEnabled (source = some l.setup.localFingerprint)))

def tray (p : Platform) : TrayCommand → ListenerM Unit
  | .disconnect => disconnect
  | .reconnect => reconnect p
  | .toggleInputForwarding => toggleInputForwarding p
  | .setAudio choice => setAudio choice
  | .setController choice => setController choice
  | .quit => do
    update fun l => { l with audio := l.audio.finish }
    leave .quitRequested

/-- The `return_watcher` branch; `poll_return_edge` reports where the cursor left. -/
def returnRelease (edge : Edge) (normalizedPosition : UInt32) : ListenerM Unit := do
  let l ← read
  if l.returnEdge.isSome && !l.localIsController && l.inputForwardingEnabled &&
      !l.sessionPaused && l.inputEpoch.acceptsInput then
    update fun l => { l with returnEdge := none, inputEpoch := l.inputEpoch.suspend }
    send (.control l.roleEpoch (.leaveRemote edge normalizedPosition))

/-! ## Frames -/

/-- `Frame::Input`. -/
def onInput (p : Platform) (epoch : Nat) (event : InputEvent) : ListenerM Unit := do
  let l ← read
  if epoch = l.roleEpoch && !l.sessionPaused && !l.localIsController then
    if event = .allKeysUp then
      check (p.allKeysUp.map .failed)
    else if l.inputForwardingEnabled && l.inputEpoch.acceptsInput then
      inject event
      check (p.inject.map .failed)

/-- `SetInputForwarding` from the peer. -/
def onSetInputForwarding (p : Platform) (enabled : Bool) : ListenerM Unit := do
  let l ← read
  if l.setup.controllerSupportsInputToggle then
    update fun l => { l with inputForwardingEnabled := enabled }
    if !enabled then
      update fun l => { l with
        captureInputActive := false, inputEpoch := l.inputEpoch.suspend, returnEdge := none }
      releaseAndDisarm
    else if l.localIsController then
      armCapture p

/-- `RemoteReturnWatcher::record_control`, as far as the edge it watches. -/
def recordControl (edge : Option Edge) : ControlEvent → Option Edge
  | .enterRemote edge _ => some edge
  | .releaseToLocal _ | .leaveRemote _ _ | .setInputForwarding false => none
  | .setInputForwarding true => edge

/-- `should_release_legacy_controller`. -/
def shouldReleaseLegacyController (inputForwardingEnabled controllerSupportsInputToggle : Bool) :
    ControlEvent → Bool
  | .enterRemote _ _ => !inputForwardingEnabled && !controllerSupportsInputToggle
  | _ => false

/-- `Frame::Control`. -/
def onControl (p : Platform) (epoch : Nat) (event : ControlEvent) : ListenerM Unit := do
  let l ← read
  if epoch = l.roleEpoch then
    match event with
    | .setInputForwarding enabled => onSetInputForwarding p enabled
    | event =>
      if l.localIsController then
        match event with
        | .leaveRemote _ _ => do
          update fun l => { l with captureInputActive := false }
          send (.input l.roleEpoch .allKeysUp)
          releaseCapture p
        | .releaseToLocal _ => do
          update fun l => { l with captureInputActive := false }
          releaseCapture p
        | _ => pure ()
      else
        update fun l => { l with
          inputEpoch := l.inputEpoch.observeControl event
          returnEdge := recordControl l.returnEdge event }
        if shouldReleaseLegacyController l.inputForwardingEnabled
            l.setup.controllerSupportsInputToggle event then
          send (.control l.roleEpoch (.releaseToLocal .backendFailure))

/-- `AudioControl::Start`. -/
def onStart (udpPort : Nat) (secrets : SessionSecrets) (codec : AudioCodec) (frame : Nat) :
    ListenerM Unit := do
  let l ← read
  if l.audio.source = some l.setup.localFingerprint then
    if udpPort = 0 ∨ codec ≠ .pcmS16Stereo48Khz ∨ frame ≠ frameMs then
      send (.audio (.state .error (some "unsupported audio format")))
    else
      update fun l => { l with audio := l.audio.spawnStart secrets }
      send (.audio (.state .waitingForUdp none))

/-- Whether this side can carry audio from `source`, in `SetRoute`. -/
def validSource (l : Listener) (source : Option String) : Bool :=
  source.all fun source =>
    (source = l.setup.localFingerprint && l.setup.controllerSupportsAudioPlayback) ||
    (source = l.setup.controllerFingerprint && l.setup.controllerSupportsAudioCapture &&
      l.setup.controllerSupportsAudioRoute)

/-- `AudioControl::SetRoute`. -/
def onSetRoute (source : Option String) : ListenerM Unit := do
  let l ← read
  if !l.validSource source then
    leave (.failed "connector committed an unsupported audio route")
  else
    update fun l => { l with audio := { l.audio.stopStreams with source } }
    if source = some l.setup.localFingerprint ∧ l.sessionPaused = false then
      send (.audio (.offer l.setup.audioPort [.pcmS16Stereo48Khz]))
    else if source = none then
      send (.audio (.state .disabled none))

/-- `AudioControl::Offer`. -/
def onOffer (p : Platform) (codecs : List AudioCodec) : ListenerM Unit := do
  let l ← read
  if l.audio.source = some l.setup.controllerFingerprint ∧
      AudioCodec.pcmS16Stereo48Khz ∈ codecs then
    send (.audio (.start l.setup.audioPort p.secrets .pcmS16Stereo48Khz frameMs
      l.setup.jitterTargetMs))
    match p.receiverStart with
    | none =>
      update fun l => { l with audio := { l.audio with receiver := some p.secrets } }
      send (.audio (.state .streaming none))
    | some error => send (.audio (.state .error (some error)))

def onAudio (p : Platform) : AudioControl → ListenerM Unit
  | .start udpPort secrets codec frame _ => onStart udpPort secrets codec frame
  | .setRoute source => onSetRoute source
  | .stop _ => do
    update fun l => { l with audio := l.audio.stopStreams }
    send (.audio (.state .disabled none))
  | .offer _ codecs => onOffer p codecs
  | .setEnabled enabled => do
    let l ← read
    update fun l => { l with
      audio := { l.audio.stopStreams with
        source := if enabled then some l.setup.localFingerprint else none } }
    if enabled && !l.sessionPaused then
      send (.audio (.offer l.setup.audioPort [.pcmS16Stereo48Khz]))
    else
      send (.audio (.state .disabled none))
  | .requestRoute _ | .state _ _ => pure ()

/-- Whether a listener that is told to control fails to prepare or to arm its capture. -/
def captureFails (p : Platform) (l : Listener) : Bool :=
  l.localIsController &&
    ((l.capture.isNone && p.preflight.isSome) || (l.mayCapture && p.arm.isSome))

/-- The capture once the assignment of a `SessionState` is applied. -/
def assignedCapture (p : Platform) (l : Listener) : Option PortalCaptureBackend :=
  if l.localIsController then
    if l.captureFails p then none
    else if l.mayCapture then some { armed := true }
    else some (l.capture.getD {})
  else disarmed l.capture

/-- `RoleEvent::SessionState`. -/
def onSessionState (p : Platform) (state : RoleState) : ListenerM Unit := do
  let l ← read
  if state.controllerFingerprint.any fun controller =>
      controller ≠ l.setup.controllerFingerprint && controller ≠ l.setup.localFingerprint then
    leave (.failed "connector role state names a controller outside the authenticated pair")
  if state.roleEpoch = 0 ∨ state.transition ≠ .stable then
    leave (.failed "connector sent invalid zero role epoch")
  update fun l => { l with
    roleEpoch := state.roleEpoch
    sessionPaused := state.paused
    localIsController := state.controllerFingerprint = some l.setup.localFingerprint }
  let assigned ← read
  update fun l => { l with
    capture := assigned.assignedCapture p
    inputEpoch :=
      if state.paused || state.controllerFingerprint.isNone then l.inputEpoch.suspend
      else l.inputEpoch }
  if state.controllerFingerprint.isSome then check (p.save.map .failed)
  update fun l => { l with
    storedRole := state.controllerFingerprint.orElse fun _ => l.storedRole
    currentRoleState := state
    captureInputActive := false
    preparedRole := none
    roleRequestDeadline := false }
  if assigned.captureFails p && l.setup.roleSwitchAvailable && !state.paused then
    requestControlAfterCaptureFailure

/-- `opposite_edge`. -/
def oppositeEdge : Edge → Edge
  | .left => .right
  | .right => .left
  | .top => .bottom
  | .bottom => .top

/-- `RoleEvent::Prepare`. -/
def onPrepare (p : Platform) (prepare : RoleState) : ListenerM Unit := do
  let l ← read
  if l.sessionPaused || !l.setup.roleSwitchAvailable then
    send (.role (.ready prepare.roleEpoch false false
      (some "role switching is unavailable while this session is paused")))
  else
    match validatePrepare l.currentRoleState prepare l.setup.controllerFingerprint
        l.setup.localFingerprint with
    | .error _ => pure ()
    | .ok () => do
      if l.localIsController then
        update fun l => { l with captureInputActive := false }
        releaseAndDisarm
        send (.input l.roleEpoch .allKeysUp)
      else
        update fun l => { l with inputEpoch := l.inputEpoch.suspend }
      let proposesLocal :=
        prepare.controllerFingerprint = some l.setup.localFingerprint ∧ l.capture = none
      let failure := if proposesLocal then p.preflight else none
      update fun l => { l with
        capture := if proposesLocal ∧ p.preflight = none then some {} else l.capture
        preparedRole := some prepare
        roleRequestDeadline := true }
      send (.role (.ready prepare.roleEpoch failure.isNone true
        (failure.map fun error => "listener capture preflight failed: " ++ error)))

/-- `RoleEvent::Commit`. -/
def onCommit (p : Platform) (commit : RoleState) : ListenerM Unit := do
  let l ← read
  match l.preparedRole with
  | none => leave (.failed "received role commit without a matching prepare")
  | some prepared =>
    match validateCommit prepared commit, commit.controllerFingerprint with
    | .error _, _ => pure ()
    | .ok (), none => leave (.failed "role commit omitted controller identity")
    | .ok (), some controller => do
      update fun l => { l with
        roleEpoch := commit.roleEpoch
        localIsController := controller = l.setup.localFingerprint
        captureInputActive := false
        currentRoleState := commit
        preparedRole := none
        roleRequestDeadline := false
        inputEpoch := l.inputEpoch.suspend }
      let l ← read
      match l.mayCapture && l.capture.isSome, p.arm with
      | true, some error => do
        update fun l => { l with capture := none }
        if l.setup.roleSwitchAvailable && !l.sessionPaused then
          requestControlAfterCaptureFailure
        else
          leave (.failed ("failed to apply Linux controller role: " ++ error))
      | arms, _ => do
        if arms then update fun l => { l with capture := some { armed := true } }
        check (p.save.map .failed)
        update fun l => { l with storedRole := some controller }
        send (.role (.applied l.roleEpoch))

/-- `RoleEvent::Abort`. -/
def onAbort (p : Platform) (abort : RoleState) : ListenerM Unit := do
  let l ← read
  if l.preparedRole.isSome && abort.roleEpoch = l.currentRoleState.roleEpoch &&
      abort.controllerFingerprint = l.currentRoleState.controllerFingerprint then
    update fun l => { l with preparedRole := none, roleRequestDeadline := false }
    if l.mayCapture then armCapture p

/-- `RoleEvent::SetPaused`. -/
def onSetPaused (p : Platform) (paused : Bool) : ListenerM Unit := do
  let l ← read
  update fun l => { l with sessionPaused := paused }
  if paused then
    update fun l => { l with
      captureInputActive := false, audio := l.audio.stopStreams
      inputEpoch := l.inputEpoch.suspend }
    releaseAndDisarm
  else if l.localIsController then
    armCapture p

def onRole (p : Platform) : RoleEvent → ListenerM Unit
  | .sessionState state => onSessionState p state
  | .prepare state => onPrepare p state
  | .commit state => onCommit p state
  | .abort state => onAbort p state
  | .setPaused paused => onSetPaused p paused
  -- Connector-only events from the connector are ignored.
  | .request _ | .ready _ _ _ _ | .applied _ => pure ()

/-- The `frame_rx` branch. -/
def onFrame (p : Platform) : Frame → ListenerM Unit
  | .input epoch event => onInput p epoch event
  | .control epoch event => onControl p epoch event
  | .role event => onRole p event
  | .audio control => onAudio p control
  | .error _ _ | .other => pure ()

/-! ## The loop -/

/-- One turn of the loop. -/
def handle (p : Platform) : ListenerEvent → ListenerM Unit
  | .watchdog deadlinePassed liveness => do
    expireRequest p deadlinePassed
    pollLiveness liveness
  | .capture event => captureEvent p event
  | .captureDisarmed => releaseAndDisarm
  | .heartbeat => send .other
  | .statusLog senderFinished receiverFailure => reapAudio senderFinished receiverFailure
  | .audioStarted => audioStarted
  | .audioTask index failure =>
    update fun l => { l with audio := (l.audio.report index failure).getD l.audio }
  | .audioTaskCancelled index =>
    update fun l => { l with audio := (l.audio.cancel index).getD l.audio }
  | .replaced => do
    update fun l => { l with audio := l.audio.finish }
    leave .replaced
  | .tray command => tray p command
  | .returnRelease edge normalizedPosition => returnRelease edge normalizedPosition
  | .frame frame => onFrame p frame
  | .closed => leave (.failed "controller frame reader ended")

/-- The variables before the loop. -/
def initial (setup : ListenerSetup) (capture : Option PortalCaptureBackend) : Listener :=
  { setup, capture
    currentRoleState :=
      { controllerFingerprint := some setup.controllerFingerprint
        roleEpoch := initialRoleEpoch
        transition := .stable
        listenerPosition := setup.listenerPosition
        paused := false
        failureDetail := none } }

end Listener

end EdgeKvm.Session
