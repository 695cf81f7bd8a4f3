import EdgeKvm.Session.Audio
import EdgeKvm.Lib.Handler

/-!
# The connector's session loop

`run_linux_controller_session` of `main.rs`: the loop's variables and one handler for each
branch of its `select!`. Clipboard and notification branches are left out, they touch none of
these variables. A write that fails ends the session like a closed reader.
-/

namespace EdgeKvm.Session

open EdgeKvm.Lib Handler

/-- What the connector's loop knows about itself and its peer. -/
structure ConnectorSetup where
  localFingerprint : String
  peerFingerprint : String
  edge : Edge
  peerSupportsInputCapture : Bool
  peerSupportsInputInjection : Bool
  peerSupportsRoleSwitch : Bool
  peerSupportsAudioCapture : Bool
  peerSupportsAudioPlayback : Bool
  peerSupportsAudioRoute : Bool
  audioPort : Nat
  jitterTargetMs : Nat
  deriving DecidableEq, Repr

/-- `role_switch_available`. -/
def ConnectorSetup.roleSwitchAvailable (setup : ConnectorSetup) : Bool :=
  setup.peerSupportsRoleSwitch && setup.peerSupportsInputCapture &&
    setup.peerSupportsInputInjection

/-- `ConnectorRoleReadiness`. -/
structure ConnectorRoleReadiness where
  captureReady : Bool
  injectReady : Bool
  failureDetail : Option String
  deriving DecidableEq, Repr

/-- The variables of the connector's loop. The two deadlines of the source are set or not;
    when one passes is up to the watchdog event. -/
structure Connector where
  setup : ConnectorSetup
  coordinator : RoleCoordinator
  roleEpoch : Nat
  localIsController : Bool
  sessionPaused : Bool
  inputForwardingEnabled : Bool
  capture : Option PortalCaptureBackend
  inputEpoch : InputEpochGate := {}
  returnEdge : Option Edge := none
  pendingReadiness : Option ConnectorRoleReadiness := none
  transitionDeadline : Bool := false
  pendingRolePersistence : Option (Nat × String) := none
  storedRole : Option String := none
  inputActive : Bool := false
  captureReleasedForLiveness : Bool := false
  connectorPause : Bool := false
  audio : AudioEnd := {}

/-- The events of the connector's `select!`. `captureDisarmed` is the portal's doing: its task
    gave up the capture and has not said so yet. -/
inductive ConnectorEvent where
  | replaced
  | watchdog (deadlinePassed : Bool) (liveness : Option LivenessEvent) (senderFinished : Bool)
      (receiverFailure : Option String)
  | heartbeat
  | capture (event : Option CaptureEvent)
  | captureDisarmed
  | audioStarted
  | audioTask (index : Nat) (failure : Option String)
  | audioTaskCancelled (index : Nat)
  | tray (command : TrayCommand)
  | returnRelease (edge : Edge) (normalizedPosition : UInt32)
  | frame (frame : Frame)
  | closed

abbrev ConnectorM := Handler Connector Effect SessionExit

namespace Connector

/-- Writes a frame to the peer. -/
def send (frame : Frame) : ConnectorM Unit := emit (.send frame)

/-- Gives an event to the injector. -/
def inject (event : InputEvent) : ConnectorM Unit := emit (.inject event)

/-- A step of the coordinator whose error ends the session. -/
def role {α : Type} (x : Except RoleStateError α) : ConnectorM α :=
  ofExcept (fun error => .failed error.message) x

/-- `arm_connector_capture`. -/
def armConnectorCapture (p : Platform) (context : String) : ConnectorM Unit := do
  let c ← read
  match c.capture, p.arm with
  | none, _ => leave (.failed (context ++ ": capture backend is unavailable"))
  | some _, none => update fun c => { c with capture := some { armed := true } }
  | some _, some _ => do
    -- The object is unusable; a new one is made after the transport reconnects.
    update fun c => { c with capture := none }
    leave (.failed context)

/-- `disarm_connector_capture`, whose error is only shown. -/
def disarmConnectorCapture (p : Platform) : ConnectorM Unit :=
  update fun c => { c with
    capture := if p.disarm.isSome then none else disarmed c.capture }

/-- `capture.release(None)` and `capture.disarm()` with their errors ignored. -/
def releaseAndDisarm : ConnectorM Unit :=
  update fun c => { c with capture := disarmed c.capture }

/-- `capture.release(..).await?`. -/
def releaseCapture (p : Platform) : ConnectorM Unit := do
  let c ← read
  if c.capture.isSome then check (p.release.map .failed)

/-- The message `send_linux_audio_route` sends. -/
def audioRoute (c : Connector) : AudioControl :=
  if c.setup.peerSupportsAudioRoute then .setRoute c.audio.source
  else .setEnabled (c.audio.source = some c.setup.peerFingerprint)

/-- `send_linux_audio_route`. -/
def sendAudioRoute : ConnectorM Unit := do
  let c ← read
  send (.audio c.audioRoute)

/-- `send_linux_audio_offer`. -/
def sendAudioOffer : ConnectorM Unit := do
  let c ← read
  send (.audio (.offer c.setup.audioPort [.pcmS16Stereo48Khz]))

/-- `request_connector_control_after_capture_failure`. -/
def requestControlAfterCaptureFailure : ConnectorM Unit := do
  let c ← read
  send (.role (.request c.setup.peerFingerprint))

section Rules

variable {c : Connector} {p : Platform} {Q : Except SessionExit Unit → Connector → List Effect → Prop}

@[simp] theorem wp_send {frame : Frame} : (send frame).wp Q c ↔ Q (.ok ()) c [.send frame] := Iff.rfl

@[simp] theorem wp_inject {event : InputEvent} :
    (inject event).wp Q c ↔ Q (.ok ()) c [.inject event] := Iff.rfl

@[simp] theorem wp_role {α : Type} {x : Except RoleStateError α}
    {Q : Except SessionExit α → Connector → List Effect → Prop} :
    (role x).wp Q c ↔ (∀ a, x = .ok a → Q (.ok a) c []) ∧
      ∀ error, x = .error error → Q (.error (.failed error.message)) c [] := wp_ofExcept

@[simp] theorem wp_armConnectorCapture {context : String} :
    (armConnectorCapture p context).wp Q c ↔
      (c.capture = none →
        Q (.error (.failed (context ++ ": capture backend is unavailable"))) c []) ∧
      (c.capture.isSome → p.arm = none →
        Q (.ok ()) { c with capture := some { armed := true } } []) ∧
      (c.capture.isSome → p.arm.isSome →
        Q (.error (.failed context)) { c with capture := none } []) := by
  unfold armConnectorCapture
  cases found : c.capture <;> cases p.arm <;> simp [found]

@[simp] theorem wp_disarmConnectorCapture :
    (disarmConnectorCapture p).wp Q c ↔
      Q (.ok ()) { c with
        capture := if p.disarm.isSome then none else disarmed c.capture }
        [] := Iff.rfl

@[simp] theorem wp_releaseAndDisarm :
    releaseAndDisarm.wp Q c ↔
      Q (.ok ()) { c with capture := disarmed c.capture } [] := Iff.rfl

@[simp] theorem wp_releaseCapture :
    (releaseCapture p).wp Q c ↔
      (c.capture = none ∨ p.release = none → Q (.ok ()) c []) ∧
      ∀ error, c.capture.isSome → p.release = some error → Q (.error (.failed error)) c [] := by
  unfold releaseCapture
  cases found : c.capture <;> cases p.release <;> simp [found]

@[simp] theorem wp_sendAudioRoute :
    sendAudioRoute.wp Q c ↔ Q (.ok ()) c [.send (.audio c.audioRoute)] := Iff.rfl

@[simp] theorem wp_sendAudioOffer :
    sendAudioOffer.wp Q c ↔
      Q (.ok ()) c [.send (.audio (.offer c.setup.audioPort [.pcmS16Stereo48Khz]))] := Iff.rfl

@[simp] theorem wp_requestControlAfterCaptureFailure :
    requestControlAfterCaptureFailure.wp Q c ↔
      Q (.ok ()) c [.send (.role (.request c.setup.peerFingerprint))] := Iff.rfl

end Rules

/-- The guard of every re-arm: the committed controller, enabled and unpaused. -/
def mayCapture (c : Connector) : Bool :=
  c.localIsController && c.inputForwardingEnabled && !c.sessionPaused

/-- `begin_connector_role_switch` and the statements around both of its calls. -/
def beginRoleSwitch (p : Platform) (requested : String) : ConnectorM Unit := do
  update fun c => { c with inputEpoch := c.inputEpoch.suspend }
  let c ← read
  if c.coordinator.stable.controllerFingerprint = some c.setup.localFingerprint then
    releaseAndDisarm
    send (.input c.coordinator.stable.roleEpoch .allKeysUp)
  let (prepare, coordinator) ← role (c.coordinator.prepare requested)
  update fun c => { c with coordinator }
  send (.role (.prepare prepare))
  let failure := if requested = c.setup.localFingerprint ∧ c.capture = none then p.preflight
    else none
  update fun c => { c with
    capture :=
      if requested = c.setup.localFingerprint ∧ c.capture = none ∧ p.preflight = none then
        some {}
      else c.capture
    pendingReadiness := some
      { captureReady := failure.isNone
        injectReady := true
        failureDetail := failure.map fun error => "capture preflight failed: " ++ error }
    transitionDeadline := true
    inputActive := false }

/-- The route change of `SetAudio`, `RequestRoute` and `SetEnabled`. -/
def commitAudioRoute (p : Platform) (source : Option String) : ConnectorM Unit := do
  update fun c => { c with audio := { c.audio.stopStreams with source } }
  check (p.save.map .failed)
  update fun c => { c with audio := { c.audio with stored := some source } }
  sendAudioRoute

/-- An offer when this side is the source, unless `quiet`. -/
def offerIfSource (quiet : Bool) : ConnectorM Unit := do
  let c ← read
  if c.audio.source = some c.setup.localFingerprint ∧ quiet = false then sendAudioOffer

/-- What `offerIfSource` sends. -/
def audioOffer (c : Connector) (quiet : Bool) : List Effect :=
  if c.audio.source = some c.setup.localFingerprint ∧ quiet = false then
    [.send (.audio (.offer c.setup.audioPort [.pcmS16Stereo48Khz]))]
  else []

@[simp] theorem signals_audioOffer (c : Connector) (quiet : Bool) :
    signals (c.audioOffer quiet) = [] := by
  unfold audioOffer
  split <;> rfl

@[simp] theorem injected_audioOffer (c : Connector) (quiet : Bool) :
    injected (c.audioOffer quiet) = [] := by
  unfold audioOffer
  split <;> rfl

@[simp] theorem wp_offerIfSource {quiet : Bool} {c : Connector}
    {Q : Except SessionExit Unit → Connector → List Effect → Prop} :
    (offerIfSource quiet).wp Q c ↔ Q (.ok ()) c (c.audioOffer quiet) := by
  unfold offerIfSource audioOffer
  split
  · rename_i offers
    simp [offers]
  · rename_i silent
    simp only [wp_bind, wp_read, wp_ite, wp_pure, List.nil_append]
    exact ⟨fun both => both.2 silent, fun holds => ⟨fun both => absurd both silent, fun _ => holds⟩⟩

/-! ## Watchdog and capture events -/

/-- The handover deadline of the watchdog branch. -/
def expireTransition (p : Platform) (deadlinePassed : Bool) : ConnectorM Unit := do
  let c ← read
  if c.transitionDeadline && deadlinePassed && c.coordinator.isTransitioning then
    update fun c => { c with transitionDeadline := false, pendingReadiness := none }
    let (abort, coordinator) ←
      role (c.coordinator.abort "peer did not complete role preflight in time")
    update fun c => { c with coordinator }
    send (.role (.abort abort))
    if c.mayCapture then
      armConnectorCapture p "failed to re-arm capture after role switch timeout"

/-- The liveness poll of the watchdog branch; it times out softly only while input is active. -/
def pollLiveness (liveness : Option LivenessEvent) : ConnectorM Unit := do
  let c ← read
  match liveness with
  | some .softInputTimeout =>
    if c.inputActive then
      if c.localIsController && c.capture.isSome then
        releaseAndDisarm
        update fun c => { c with captureReleasedForLiveness := true }
      else
        update fun c => { c with inputEpoch := c.inputEpoch.suspend }
      update fun c => { c with inputActive := false }
      send (.input c.roleEpoch .allKeysUp)
  | some .hardSessionTimeout =>
    leave (.failed "Linux peer stopped responding for five seconds")
  | none => pure ()

/-- Stream tasks that ended on their own. -/
def reapAudio (senderFinished : Bool) (receiverFailure : Option String) : ConnectorM Unit := do
  let c ← read
  if senderFinished && c.audio.sender.isSome then
    update fun c => { c with audio := { c.audio with sender := none } }
    send (.audio (.state .error (some "Linux audio capture stopped unexpectedly")))
  match receiverFailure with
  | none => pure ()
  | some failure =>
    if c.audio.receiver.isSome then
      update fun c => { c with audio := { c.audio with receiver := none } }
      send (.audio (.state .error (some failure)))

/-- The capture backend is gone. -/
def loseCapture : ConnectorM Unit := do
  update fun c => { c with capture := none, inputActive := false }
  let c ← read
  if c.localIsController && c.setup.roleSwitchAvailable && !c.sessionPaused &&
      !c.coordinator.isTransitioning then
    requestControlAfterCaptureFailure

/-- A capture event while the backend exists; `none` when its task ended. -/
def captureEvent (p : Platform) (event : Option CaptureEvent) : ConnectorM Unit := do
  let c ← read
  if c.capture = none then
    pure ()
  else match event with
  | some (.activated edge normalizedPosition) =>
    if c.mayCapture then
      update fun c => { c with inputActive := true }
      send (.control c.roleEpoch (.enterRemote edge normalizedPosition))
  | some (.input event) =>
    if c.mayCapture then send (.input c.roleEpoch event)
  | some .deactivated | some .emergencyReleased => do
    update fun c => { c with inputActive := false }
    send (.input c.roleEpoch .allKeysUp)
  | some .layoutChanged => do
    update fun c => { c with inputActive := false }
    if c.coordinator.isTransitioning then
      let (abort, coordinator) ←
        role (c.coordinator.abort "monitor layout changed during capture preflight")
      update fun c => { c with coordinator, pendingReadiness := none, transitionDeadline := false }
      send (.role (.abort abort))
    if c.mayCapture then
      armConnectorCapture p "monitor layout changed and capture could not be re-armed"
  | some (.backendFailed _) => do
    send (.input c.roleEpoch .allKeysUp)
    loseCapture
  | none => loseCapture

/-- The `audio_start_rx` branch. -/
def audioStarted : ConnectorM Unit := do
  let c ← read
  match c.audio.takeResult with
  | none => pure ()
  | some (audio, control) =>
    update fun c => { c with audio }
    match control with
    | none => pure ()
    | some control => send (.audio control)

/-! ## Tray commands -/

/-- `TrayCommand::ToggleInputForwarding`. -/
def toggleInputForwarding (p : Platform) : ConnectorM Unit := do
  let c ← read
  if !c.sessionPaused && !c.coordinator.isTransitioning &&
      c.coordinator.stable.controllerFingerprint.isSome then
    update fun c => { c with
      inputForwardingEnabled := !c.inputForwardingEnabled, inputActive := false }
    if c.localIsController then
      if c.inputForwardingEnabled then disarmConnectorCapture p
      else armConnectorCapture p "failed to arm capture after enabling input forwarding"
    send (.control c.roleEpoch (.setInputForwarding (!c.inputForwardingEnabled)))

/-- `TrayCommand::SetController`. -/
def setController (p : Platform) (choice : ControllerChoice) : ConnectorM Unit := do
  let c ← read
  let requested := match choice with
    | .local' => c.setup.localFingerprint
    | .peer => c.setup.peerFingerprint
  if !c.sessionPaused && c.setup.roleSwitchAvailable &&
      c.coordinator.stable.controllerFingerprint ≠ some requested &&
      !c.coordinator.isTransitioning then
    beginRoleSwitch p requested

/-- The source a tray choice asks for, when its direction is available. -/
def requestedSource (c : Connector) : AudioChoice → Option (Option String)
  | .off => some none
  | .local' =>
    if c.setup.peerSupportsAudioPlayback && c.setup.peerSupportsAudioRoute then
      some (some c.setup.localFingerprint)
    else none
  | .peer =>
    if c.setup.peerSupportsAudioCapture then some (some c.setup.peerFingerprint) else none

/-- `TrayCommand::SetAudio`. -/
def setAudio (p : Platform) (choice : AudioChoice) : ConnectorM Unit := do
  let c ← read
  match c.requestedSource choice with
  | none => pure ()
  | some source =>
    commitAudioRoute p source
    offerIfSource c.sessionPaused

/-- The statements both ways of pausing run. -/
def pause : ConnectorM Unit := do
  releaseAndDisarm
  update fun c => { c with inputEpoch := c.inputEpoch.suspend, audio := c.audio.stopStreams }

/-- `TrayCommand::Disconnect`. -/
def disconnect : ConnectorM Unit := do
  let c ← read
  if !c.coordinator.isTransitioning then
    let coordinator ← role (c.coordinator.setPaused true)
    update fun c => { c with coordinator, sessionPaused := true, connectorPause := true }
    pause
    send (.audio (.stop .userRequest))
    send (.role (.setPaused true))

/-- `TrayCommand::Reconnect`. -/
def reconnect (p : Platform) : ConnectorM Unit := do
  let c ← read
  let coordinator ← role (c.coordinator.setPaused false)
  update fun c => { c with coordinator, sessionPaused := false, connectorPause := false }
  send (.role (.setPaused false))
  sendAudioRoute
  offerIfSource false
  if c.localIsController && c.inputForwardingEnabled then
    armConnectorCapture p "failed to re-arm capture after resuming the session"

def tray (p : Platform) : TrayCommand → ConnectorM Unit
  | .disconnect => disconnect
  | .reconnect => reconnect p
  | .toggleInputForwarding => toggleInputForwarding p
  | .setAudio choice => setAudio p choice
  | .setController choice => setController p choice
  | .quit => leave .quitRequested

/-- The `return_watcher` branch; `poll_return_edge` reports where the cursor left. -/
def returnRelease (edge : Edge) (normalizedPosition : UInt32) : ConnectorM Unit := do
  let c ← read
  if c.returnEdge.isSome && !c.localIsController && c.inputForwardingEnabled &&
      !c.sessionPaused && c.inputEpoch.acceptsInput then
    update fun c => { c with returnEdge := none, inputEpoch := c.inputEpoch.suspend }
    send (.control c.roleEpoch (.leaveRemote edge normalizedPosition))

/-! ## Frames -/

/-- The re-arm of the frame branch once a silent peer is heard again. -/
def recoverLiveness (p : Platform) : ConnectorM Unit := do
  let c ← read
  if c.captureReleasedForLiveness && c.mayCapture && !c.coordinator.isTransitioning then
    armConnectorCapture p "failed to re-arm capture after peer recovered"
    update fun c => { c with captureReleasedForLiveness := false }

/-- `Frame::Input`. -/
def onInput (p : Platform) (epoch : Nat) (event : InputEvent) : ConnectorM Unit := do
  let c ← read
  if epoch = c.roleEpoch && !c.localIsController && c.inputForwardingEnabled &&
      !c.sessionPaused then
    if event = .allKeysUp then
      check (p.allKeysUp.map .failed)
    else if c.inputEpoch.acceptsInput then
      inject event
      check (p.inject.map .failed)

/-- `SetInputForwarding` from the peer. -/
def onSetInputForwarding (p : Platform) (enabled : Bool) : ConnectorM Unit := do
  let c ← read
  update fun c => { c with inputForwardingEnabled := enabled, inputActive := false }
  if c.localIsController then
    if enabled then
      if !c.sessionPaused then
        armConnectorCapture p "failed to arm capture after peer enabled input forwarding"
    else
      disarmConnectorCapture p
  else if !enabled then
    update fun c => { c with inputEpoch := c.inputEpoch.suspend }

/-- `Frame::Control`. -/
def onControl (p : Platform) (epoch : Nat) (event : ControlEvent) : ConnectorM Unit := do
  let c ← read
  if epoch = c.roleEpoch then
    match event with
    | .leaveRemote _ _ =>
      if c.localIsController then
        send (.input c.roleEpoch .allKeysUp)
        releaseCapture p
        update fun c => { c with inputActive := false }
    | .releaseToLocal _ =>
      if c.localIsController then
        releaseCapture p
        update fun c => { c with inputActive := false }
    | .enterRemote edge _ =>
      if !c.localIsController then
        update fun c => { c with
          inputEpoch := c.inputEpoch.observeControl event, returnEdge := some edge }
    | .setInputForwarding enabled => onSetInputForwarding p enabled

/-- `RoleEvent::Request`. -/
def onRequest (p : Platform) (requested : String) : ConnectorM Unit := do
  let c ← read
  if !c.sessionPaused && c.setup.roleSwitchAvailable &&
      (requested = c.setup.localFingerprint || requested = c.setup.peerFingerprint) &&
      c.coordinator.stable.controllerFingerprint ≠ some requested &&
      !c.coordinator.isTransitioning then
    beginRoleSwitch p requested

/-- A `RoleDecision::Commit`. -/
def applyCommit (p : Platform) (commit : RoleState) : ConnectorM Unit := do
  match commit.controllerFingerprint with
  | none => leave (.failed "role commit omitted controller identity")
  | some controller =>
    send (.role (.commit commit))
    update fun c => { c with
      pendingRolePersistence := some (commit.roleEpoch, controller)
      roleEpoch := commit.roleEpoch
      localIsController := controller = c.setup.localFingerprint
      inputEpoch := c.inputEpoch.suspend }
    let c ← read
    if c.mayCapture then armConnectorCapture p "failed to arm capture after role commit"

/-- A `RoleDecision::Abort`. -/
def applyAbort (p : Platform) (abort : RoleState) : ConnectorM Unit := do
  let c ← read
  send (.role (.abort abort))
  if c.mayCapture then armConnectorCapture p "failed to re-arm capture after aborted role switch"

/-- `RoleEvent::Ready`. -/
def onReady (p : Platform) (readyEpoch : Nat) (captureReady injectReady : Bool)
    (failureDetail : Option String) : ConnectorM Unit := do
  let c ← read
  match c.pendingReadiness with
  | none => pure ()
  | some localReady =>
    match c.coordinator.finishReady readyEpoch localReady.captureReady localReady.injectReady
        captureReady injectReady (failureDetail.orElse fun _ => localReady.failureDetail) with
    | .error (.unexpectedEpoch _ _) => update fun c => { c with transitionDeadline := true }
    | .error error => do
      update fun c => { c with pendingReadiness := none, transitionDeadline := false }
      leave (.failed error.message)
    | .ok (decision, coordinator) => do
      update fun c => { c with
        pendingReadiness := none, transitionDeadline := false, coordinator }
      match decision with
      | .commit commit => applyCommit p commit
      | .abort abort => applyAbort p abort

/-- `RoleEvent::Applied`. -/
def onApplied (p : Platform) (appliedEpoch : Nat) : ConnectorM Unit := do
  let c ← read
  match c.pendingRolePersistence with
  | none => pure ()
  | some (expectedEpoch, controller) =>
    if appliedEpoch = expectedEpoch ∧ appliedEpoch = c.roleEpoch then
      check (p.save.map .failed)
      update fun c => { c with pendingRolePersistence := none, storedRole := some controller }

/-- `RoleEvent::SetPaused`. -/
def onSetPaused (p : Platform) (paused : Bool) : ConnectorM Unit := do
  let c ← read
  if !c.coordinator.isTransitioning then
    let coordinator ← role (c.coordinator.setPaused paused)
    update fun c => { c with coordinator, sessionPaused := paused, connectorPause := paused }
    if paused then
      pause
    else if c.localIsController && c.inputForwardingEnabled then
      armConnectorCapture p "failed to re-arm capture after peer resumed the session"
    send (.role (.setPaused paused))
    if !paused then
      sendAudioRoute
      offerIfSource false

def onRole (p : Platform) : RoleEvent → ConnectorM Unit
  | .request requested => onRequest p requested
  | .ready epoch captureReady injectReady detail => onReady p epoch captureReady injectReady detail
  | .applied epoch => onApplied p epoch
  | .setPaused paused => onSetPaused p paused
  -- Connector-authoritative messages from the listener are ignored.
  | .sessionState _ | .prepare _ | .commit _ | .abort _ => pure ()

/-- Whether this side can carry audio from `source`, in `RequestRoute`. -/
def validSource (c : Connector) (source : Option String) : Bool :=
  source.all fun source =>
    (source = c.setup.localFingerprint && c.setup.peerSupportsAudioPlayback &&
      c.setup.peerSupportsAudioRoute) ||
    (source = c.setup.peerFingerprint && c.setup.peerSupportsAudioCapture)

/-- `AudioControl::Offer`. -/
def onOffer (p : Platform) (codecs : List AudioCodec) : ConnectorM Unit := do
  let c ← read
  if c.audio.source = some c.setup.peerFingerprint ∧ AudioCodec.pcmS16Stereo48Khz ∈ codecs then
    send (.audio (.start c.setup.audioPort p.secrets .pcmS16Stereo48Khz frameMs
      c.setup.jitterTargetMs))
    match p.receiverStart with
    | none =>
      update fun c => { c with audio := { c.audio with receiver := some p.secrets } }
      send (.audio (.state .streaming none))
    | some error => send (.audio (.state .error (some error)))

/-- `AudioControl::Start`. -/
def onStart (udpPort : Nat) (secrets : SessionSecrets) (codec : AudioCodec) (frame : Nat) :
    ConnectorM Unit := do
  let c ← read
  if c.audio.source = some c.setup.localFingerprint ∧ udpPort ≠ 0 ∧
      codec = .pcmS16Stereo48Khz ∧ frame = frameMs then
    update fun c => { c with audio := c.audio.spawnStart secrets }

def onAudio (p : Platform) : AudioControl → ConnectorM Unit
  | .requestRoute source => do
    let c ← read
    if c.validSource source then
      commitAudioRoute p source
      offerIfSource c.sessionPaused
    else
      sendAudioRoute
  | .offer _ codecs => onOffer p codecs
  | .start udpPort secrets codec frame _ => onStart udpPort secrets codec frame
  | .stop _ => update fun c => { c with audio := c.audio.stopStreams }
  | .setEnabled enabled => do
    let c ← read
    commitAudioRoute p (if enabled then some c.setup.peerFingerprint else none)
  | .setRoute _ | .state _ _ => pure ()

/-- The `frame_rx` branch. -/
def onFrame (p : Platform) (frame : Frame) : ConnectorM Unit := do
  recoverLiveness p
  match frame with
  | .input epoch event => onInput p epoch event
  | .control epoch event => onControl p epoch event
  | .role event => onRole p event
  | .audio control => onAudio p control
  | .error code message => leave (.failed ("Linux peer error: " ++ code ++ ": " ++ message))
  | .other => pure ()

/-! ## The loop -/

/-- One turn of the loop. -/
def handle (p : Platform) : ConnectorEvent → ConnectorM Unit
  | .replaced => leave .replaced
  | .watchdog deadlinePassed liveness senderFinished receiverFailure => do
    expireTransition p deadlinePassed
    pollLiveness liveness
    reapAudio senderFinished receiverFailure
  | .heartbeat => send .other
  | .capture event => captureEvent p event
  | .captureDisarmed => releaseAndDisarm
  | .audioStarted => audioStarted
  | .audioTask index failure =>
    update fun c => { c with audio := (c.audio.report index failure).getD c.audio }
  | .audioTaskCancelled index =>
    update fun c => { c with audio := (c.audio.cancel index).getD c.audio }
  | .tray command => tray p command
  | .returnRelease edge normalizedPosition => returnRelease edge normalizedPosition
  | .frame frame => onFrame p frame
  | .closed => leave (.failed "Linux peer frame reader ended")

/-- The variables before the loop, for the role state sent to the peer and the route committed
    before. -/
def initial (setup : ConnectorSetup) (state : RoleState) (capture : Option PortalCaptureBackend)
    (source : Option String) : Except RoleStateError Connector :=
  (RoleCoordinator.new setup.localFingerprint setup.peerFingerprint state.controllerFingerprint
    state.roleEpoch setup.edge state.paused).map fun coordinator =>
      { setup, coordinator
        roleEpoch := state.roleEpoch
        localIsController := state.controllerFingerprint = some setup.localFingerprint
        sessionPaused := state.paused
        inputForwardingEnabled := state.controllerFingerprint.isSome
        capture
        storedRole := state.controllerFingerprint
        audio := { source, stored := some source } }

theorem initial_eq_ok {setup : ConnectorSetup} {state : RoleState}
    {capture : Option PortalCaptureBackend} {source : Option String} {c : Connector}
    (made : initial setup state capture source = .ok c) :
    c =
      { setup
        coordinator :=
          { connectorFingerprint := setup.localFingerprint
            listenerFingerprint := setup.peerFingerprint
            stable := { state with
              transition := .stable, listenerPosition := setup.edge, failureDetail := none } }
        roleEpoch := state.roleEpoch
        localIsController := state.controllerFingerprint = some setup.localFingerprint
        sessionPaused := state.paused
        inputForwardingEnabled := state.controllerFingerprint.isSome
        capture
        storedRole := state.controllerFingerprint
        audio := { source, stored := some source } } := by
  unfold initial at made
  cases fresh : RoleCoordinator.new setup.localFingerprint setup.peerFingerprint
      state.controllerFingerprint state.roleEpoch setup.edge state.paused with
  | error error => simp [fresh, Except.map] at made
  | ok coordinator =>
    simp only [fresh, Except.map, Except.ok.injEq] at made
    rw [← made, RoleCoordinator.new_eq_ok fresh]

/-- Whether a connector that starts as the controller fails to prepare or to arm its capture. -/
def initialCaptureFails (p : Platform) (c : Connector) : Bool :=
  c.localIsController && c.setup.peerSupportsInputInjection &&
    ((c.capture.isNone && p.preflight.isSome) || (c.mayCapture && p.arm.isSome))

/-- The capture the loop starts with. -/
def initialCapture (p : Platform) (c : Connector) : Option PortalCaptureBackend :=
  if c.localIsController && c.setup.peerSupportsInputInjection then
    if c.initialCaptureFails p then none
    else if c.mayCapture then some { armed := true }
    else some (c.capture.getD {})
  else c.capture

/-- The statements before the loop that touch the capture and the wire. -/
def start (p : Platform) : ConnectorM Unit := do
  let c ← read
  update fun _ => { c with capture := c.initialCapture p }
  if c.initialCaptureFails p && c.setup.roleSwitchAvailable && !c.sessionPaused then
    requestControlAfterCaptureFailure
  sendAudioRoute
  offerIfSource c.sessionPaused

end Connector

end EdgeKvm.Session
