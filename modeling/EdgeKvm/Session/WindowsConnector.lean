import EdgeKvm.Session.Connector

/-!
# The Windows connector's session loop

`run_connected_inner` of the Windows `main.rs`: the loop's variables and one handler for each
branch of its `select!` that touches them. Clipboard, live input, configuration and status
branches are left out, they touch none of these variables. A write that fails ends the session
like a closed reader.
-/

namespace EdgeKvm.Session

open EdgeKvm.Lib Handler

/-- What the Windows loop knows about itself and its peer. -/
structure WindowsSetup where
  localFingerprint : String
  peerFingerprint : String
  peerSupportsInputCapture : Bool
  peerSupportsInputInjection : Bool
  peerSupportsRoleSwitch : Bool
  peerSupportsInputToggle : Bool
  peerSupportsAudioCapture : Bool
  peerSupportsAudioPlayback : Bool
  peerSupportsAudioRoute : Bool
  jitterTargetMs : Nat
  deriving DecidableEq, Repr

/-- `role_switch_available`. -/
def WindowsSetup.roleSwitchAvailable (setup : WindowsSetup) : Bool :=
  setup.peerSupportsRoleSwitch && setup.peerSupportsInputCapture &&
    setup.peerSupportsInputInjection

/-- `WindowsTrayCommand`. -/
inductive WindowsTrayCommand where
  | openSettings
  | pair
  | releaseControl
  | disconnect
  | reconnect
  | toggleInputForwarding
  | setAudio (choice : AudioChoice)
  | setController (choice : ControllerChoice)
  | quit
  deriving DecidableEq, Repr

/-- `TrayCommandOutcome`. -/
inductive TrayCommandOutcome where
  | continue'
  | quit
  | disconnect
  | reconnect
  | pair
  | inputForwardingChanged (enabled : Bool)
  | audioChanged (choice : AudioChoice)
  | controllerRequested (choice : ControllerChoice)
  deriving DecidableEq, Repr

/-- `ConnectedSessionExit`, or the error the loop ends with. -/
inductive ConnectedSessionExit where
  | quit
  | disconnect
  | pair
  | failed (error : String)
  deriving DecidableEq, Repr

/-- What the loop does to the outside: frames to the peer, events to the injector, and calls
    into the capture hooks. -/
inductive WindowsEffect where
  | send (frame : Frame)
  | inject (event : InputEvent)
  | allKeysUp
  | setForwardingEnabled (enabled : Bool)
  | forceReleaseToLocal
  | releaseToLocal (reason : ReleaseReason)
  | handleReceiverRelease (reason : ReleaseReason)
  deriving DecidableEq, Repr

/-- The variables of the loop. `trayCommands` is the unread command channel, `returnEdge` the
    edge the return watcher waits at; the stream objects and the deadline are there or not. -/
structure WindowsConnector where
  setup : WindowsSetup
  coordinator : RoleCoordinator
  roleEpoch : Nat
  localIsController : Bool
  sessionPaused : Bool
  inputForwardingEnabled : Bool
  inputEpoch : InputEpochGate := {}
  returnEdge : Option Edge := none
  pendingRoleReadiness : Option (Bool × Bool × Option String) := none
  transitionDeadline : Bool := false
  pendingRolePersistence : Option (Nat × String) := none
  storedRole : Option String := none
  audioSource : Option String := none
  audioEnabled : Bool := false
  audioRestartAttempted : Bool := false
  audioReceiver : Bool := false
  audioSender : Bool := false
  pendingAudioSocket : Bool := false
  storedRoute : Option (Option String) := none
  trayCommands : List WindowsTrayCommand := []
  deriving DecidableEq, Repr

/-- How the calls end that a turn makes to the outside. `offer` is the port of a new UDP socket,
    `returnPosition` what the return watcher reports. -/
structure WindowsPlatform where
  inject : Option String := none
  allKeysUp : Option String := none
  save : Option String := none
  offer : Except String Nat := .ok 0
  returnPosition : Except String (Option UInt32) := .ok none
  receiverSocket : Option Nat := none
  receiverStart : Bool := true
  senderStart : Except Bool Unit := .ok ()
  secrets : SessionSecrets := ⟨0⟩

/-- The events of the loop's `select!`. `trayCommand` is the tray's doing. -/
inductive WindowsSessionEvent where
  | ctrlC
  | audioWatch (receiverFinished senderFinished : Bool)
  | watchdog (deadlinePassed : Bool) (liveness : Option LivenessEvent)
  | heartbeat
  | trayCommand (command : WindowsTrayCommand)
  | trayTick
  | frame (frame : Frame)
  | closed
  deriving DecidableEq, Repr

abbrev WindowsM := Handler WindowsConnector WindowsEffect ConnectedSessionExit

namespace WindowsConnector

/-- Writes a frame to the peer. -/
def send (frame : Frame) : WindowsM Unit := emit (.send frame)

/-- A step of the coordinator whose error ends the session. -/
def role {α : Type} (x : Except RoleStateError α) : WindowsM α :=
  ofExcept (fun error => .failed error.message) x

/-- The controller's side of `set_forwarding_enabled`, at most of its calls. -/
def mayCapture (w : WindowsConnector) : Bool :=
  w.localIsController && w.inputForwardingEnabled && !w.sessionPaused

/-- `edge_windows_input::set_forwarding_enabled(..)` with that flag. -/
def setForwarding : WindowsM Unit := do
  let w ← read
  emit (.setForwardingEnabled w.mayCapture)

/-- `input_epoch.suspend()` and `injector.all_keys_up().ok()`. -/
def suspendInput : WindowsM Unit := do
  update fun w => { w with inputEpoch := w.inputEpoch.suspend }
  emit .allKeysUp

/-- The stream objects are dropped. -/
def stopStreams : WindowsM Unit :=
  update fun w => { w with
    audioReceiver := false, audioSender := false, pendingAudioSocket := false }

/-- `send_windows_audio_route`. -/
def sendAudioRoute : WindowsM Unit := do
  let w ← read
  send (.audio
    (if w.setup.peerSupportsAudioRoute then .setRoute w.audioSource
    else .setEnabled (w.audioSource = some w.setup.peerFingerprint)))

/-- `send_windows_audio_offer`, over a socket it binds first. -/
def sendAudioOffer (p : WindowsPlatform) : WindowsM Unit := do
  let port ← ofExcept .failed p.offer
  send (.audio (.offer port [.pcmS16Stereo48Khz]))
  update fun w => { w with pendingAudioSocket := true }

/-- An offer when this side is the source, unless `quiet`. -/
def offerIfSource (p : WindowsPlatform) (quiet : Bool) : WindowsM Unit := do
  let w ← read
  if w.audioSource = some w.setup.localFingerprint ∧ quiet = false then sendAudioOffer p

/-- The route change of `AudioChanged`, `RequestRoute` and `SetEnabled`. -/
def commitAudioRoute (p : WindowsPlatform) (source : Option String) : WindowsM Unit := do
  update fun w => { w with audioSource := source, audioEnabled := source.isSome }
  stopStreams
  check (p.save.map .failed)
  update fun w => { w with storedRoute := some source }
  sendAudioRoute

/-- `begin_windows_role_switch` and the statements around both of its calls. -/
def beginRoleSwitch (requested : String) : WindowsM Unit := do
  let w ← read
  if w.coordinator.stable.controllerFingerprint = some w.setup.localFingerprint then
    emit (.setForwardingEnabled false)
    emit .forceReleaseToLocal
    send (.input w.coordinator.stable.roleEpoch .allKeysUp)
  else
    suspendInput
  let (prepare, coordinator) ← role (w.coordinator.prepare requested)
  update fun w => { w with coordinator }
  send (.role (.prepare prepare))
  update fun w => { w with
    pendingRoleReadiness := some (true, true, none), transitionDeadline := true }

/-! ## Timers -/

/-- The `audio_watch` branch. -/
def audioWatch (p : WindowsPlatform) (receiverFinished senderFinished : Bool) :
    WindowsM Unit := do
  let w ← read
  if w.audioReceiver && receiverFinished then
    update fun w => { w with audioReceiver := false }
    if w.audioSource = some w.setup.peerFingerprint ∧ w.audioRestartAttempted = false then
      update fun w => { w with audioRestartAttempted := true }
      sendAudioRoute
    else
      send (.audio (.stop .transportFailure))
  let w ← read
  if w.audioSender && senderFinished then
    update fun w => { w with audioSender := false }
    if w.audioSource = some w.setup.localFingerprint ∧ w.audioRestartAttempted = false then
      update fun w => { w with audioRestartAttempted := true }
      sendAudioOffer p

/-- The handover deadline of the watchdog branch. -/
def expireTransition (deadlinePassed : Bool) : WindowsM Unit := do
  let w ← read
  if w.transitionDeadline && deadlinePassed && w.coordinator.isTransitioning then
    update fun w => { w with transitionDeadline := false, pendingRoleReadiness := none }
    let (abort, coordinator) ←
      role (w.coordinator.abort "peer did not complete role preflight in time")
    update fun w => { w with coordinator }
    send (.role (.abort abort))
    setForwarding

/-- The liveness poll of the watchdog branch. -/
def pollLiveness : Option LivenessEvent → WindowsM Unit
  | some .softInputTimeout => do
    let w ← read
    if w.localIsController then emit .forceReleaseToLocal else suspendInput
  | some .hardSessionTimeout => leave (.failed "peer stopped responding; reconnecting")
  | none => pure ()

/-! ## Tray commands -/

/-- `handle_pending_windows_tray_commands`; the first command that needs the loop ends it. -/
def handlePendingTrayCommands (inputForwardingEnabled : Bool) :
    List WindowsTrayCommand → WindowsM TrayCommandOutcome
  | [] => pure .continue'
  | command :: commands => do
    update fun w => { w with trayCommands := commands }
    match command with
    | .openSettings => handlePendingTrayCommands inputForwardingEnabled commands
    | .pair => pure .pair
    | .releaseControl => do
      emit (.releaseToLocal .userRequest)
      handlePendingTrayCommands inputForwardingEnabled commands
    | .disconnect => pure .disconnect
    | .reconnect => pure .reconnect
    | .toggleInputForwarding => pure (.inputForwardingChanged (!inputForwardingEnabled))
    | .setAudio choice => pure (.audioChanged choice)
    | .setController choice => pure (.controllerRequested choice)
    | .quit => pure .quit

/-- The stop that is written when audio was enabled. -/
def sendAudioStop (reason : AudioStopReason) : WindowsM Unit := do
  let w ← read
  if w.audioEnabled then send (.audio (.stop reason))

/-- `TrayCommandOutcome::Quit`, and Ctrl+C. -/
def quit : WindowsM Unit := do
  let w ← read
  send (.input w.roleEpoch .allKeysUp)
  sendAudioStop .shutdown
  leave .quit

/-- `TrayCommandOutcome::Disconnect`. -/
def disconnect : WindowsM Unit := do
  let w ← read
  if w.setup.roleSwitchAvailable && !w.coordinator.isTransitioning then
    let coordinator ← role (w.coordinator.setPaused true)
    update fun w => { w with coordinator, sessionPaused := true }
    emit .forceReleaseToLocal
    emit (.setForwardingEnabled false)
    suspendInput
    send (.role (.setPaused true))
    sendAudioStop .userRequest
    stopStreams
  else
    send (.input w.roleEpoch .allKeysUp)
    sendAudioStop .userRequest
    update fun w => { w with audioReceiver := false, audioSender := false }
    emit .forceReleaseToLocal
    leave .disconnect

/-- The audio a resumed session takes up again. -/
def resumeAudio (p : WindowsPlatform) : WindowsM Unit := do
  let w ← read
  if w.audioEnabled then
    sendAudioRoute
    offerIfSource p false

/-- `TrayCommandOutcome::Reconnect`. -/
def reconnect (p : WindowsPlatform) : WindowsM Unit := do
  let w ← read
  if w.setup.roleSwitchAvailable then
    let coordinator ← role (w.coordinator.setPaused false)
    update fun w => { w with coordinator, sessionPaused := false }
    send (.role (.setPaused false))
    setForwarding
    resumeAudio p

/-- `TrayCommandOutcome::Pair`. -/
def pair : WindowsM Unit := do
  let w ← read
  send (.input w.roleEpoch .allKeysUp)
  emit .forceReleaseToLocal
  leave .pair

/-- `TrayCommandOutcome::InputForwardingChanged`. -/
def inputForwardingChanged (enabled : Bool) : WindowsM Unit := do
  let w ← read
  if !enabled then
    send (.input w.roleEpoch .allKeysUp)
    suspendInput
  update fun w => { w with inputForwardingEnabled := enabled }
  setForwarding
  if w.setup.peerSupportsInputToggle then
    send (.control w.roleEpoch (.setInputForwarding enabled))

/-- The source a tray choice asks for, when its direction is available. -/
def requestedSource (w : WindowsConnector) : AudioChoice → Option (Option String)
  | .off => some none
  | .local' =>
    if w.setup.peerSupportsAudioPlayback && w.setup.peerSupportsAudioRoute then
      some (some w.setup.localFingerprint)
    else none
  | .peer =>
    if w.setup.peerSupportsAudioCapture then some (some w.setup.peerFingerprint) else none

/-- `TrayCommandOutcome::AudioChanged`. -/
def audioChanged (p : WindowsPlatform) (choice : AudioChoice) : WindowsM Unit := do
  let w ← read
  match w.requestedSource choice with
  | none => pure ()
  | some source =>
    update fun w => { w with audioRestartAttempted := false }
    commitAudioRoute p source
    offerIfSource p w.sessionPaused

/-- The node a tray choice names. -/
def requestedController (w : WindowsConnector) : ControllerChoice → String
  | .local' => w.setup.localFingerprint
  | .peer => w.setup.peerFingerprint

/-- The guard of both ways a handover is asked for. -/
def mayBeginRoleSwitch (w : WindowsConnector) (requested : String) : Bool :=
  !w.sessionPaused && w.setup.roleSwitchAvailable && !w.coordinator.isTransitioning &&
    w.coordinator.stable.controllerFingerprint ≠ some requested

/-- `TrayCommandOutcome::ControllerRequested`. -/
def controllerRequested (choice : ControllerChoice) : WindowsM Unit := do
  let w ← read
  if w.mayBeginRoleSwitch (w.requestedController choice) then
    beginRoleSwitch (w.requestedController choice)

/-- What the loop does with the outcome. -/
def onOutcome (p : WindowsPlatform) : TrayCommandOutcome → WindowsM Unit
  | .continue' => pure ()
  | .quit => quit
  | .disconnect => disconnect
  | .reconnect => reconnect p
  | .pair => pair
  | .inputForwardingChanged enabled => inputForwardingChanged enabled
  | .audioChanged choice => audioChanged p choice
  | .controllerRequested choice => controllerRequested choice

/-- The `tray_command_poll` branch. -/
def trayTick (p : WindowsPlatform) : WindowsM Unit := do
  let w ← read
  let outcome ← handlePendingTrayCommands w.inputForwardingEnabled w.trayCommands
  onOutcome p outcome

/-! ## Frames -/

/-- `release_if_at_edge`, and the release it leads to. -/
def releaseIfAtEdge (p : WindowsPlatform) : WindowsM Unit := do
  let w ← read
  match w.returnEdge with
  | none => pure ()
  | some edge => do
    let position ← ofExcept .failed p.returnPosition
    match position with
    | none => pure ()
    | some normalizedPosition => do
      update fun w => { w with returnEdge := none }
      suspendInput
      send (.control w.roleEpoch (.leaveRemote edge normalizedPosition))

/-- Whether an input event moves the pointer. -/
def isMotion : InputEvent → Bool
  | .pointerMotion _ _ => true
  | _ => false

/-- `Frame::Input`. -/
def onInput (p : WindowsPlatform) (epoch : Nat) (event : InputEvent) : WindowsM Unit := do
  let w ← read
  if epoch = w.roleEpoch && !w.localIsController && !w.sessionPaused then
    if event = .allKeysUp then
      emit .allKeysUp
      check (p.allKeysUp.map .failed)
    else if w.inputForwardingEnabled && w.inputEpoch.acceptsInput then
      emit (.inject event)
      check (p.inject.map .failed)
      if isMotion event then releaseIfAtEdge p

/-- `SetInputForwarding` from the peer. -/
def onSetInputForwarding (enabled : Bool) : WindowsM Unit := do
  let w ← read
  if w.setup.peerSupportsInputToggle then
    update fun w => { w with inputForwardingEnabled := enabled }
    setForwarding
    if !enabled then
      suspendInput
      update fun w => { w with returnEdge := none }

/-- `Frame::Control`. -/
def onControl (epoch : Nat) (event : ControlEvent) : WindowsM Unit := do
  let w ← read
  if epoch = w.roleEpoch then
    match event with
    | .releaseToLocal reason =>
      if w.localIsController then emit (.handleReceiverRelease reason)
    | .leaveRemote _ _ =>
      if w.localIsController then emit (.handleReceiverRelease .userRequest)
    | .setInputForwarding enabled => onSetInputForwarding enabled
    | .enterRemote edge _ =>
      if !w.localIsController then
        update fun w => { w with
          inputEpoch := w.inputEpoch.observeControl event, returnEdge := some edge }

/-- `RoleEvent::Request`. -/
def onRequest (requested : String) : WindowsM Unit := do
  let w ← read
  if (requested = w.setup.localFingerprint || requested = w.setup.peerFingerprint) &&
      w.mayBeginRoleSwitch requested then
    beginRoleSwitch requested

/-- A `RoleDecision::Commit`. -/
def applyCommit (commit : RoleState) : WindowsM Unit := do
  match commit.controllerFingerprint with
  | none => leave (.failed "role commit omitted controller identity")
  | some controller =>
    send (.role (.commit commit))
    update fun w => { w with
      pendingRolePersistence := some (commit.roleEpoch, controller)
      roleEpoch := commit.roleEpoch
      localIsController := controller = w.setup.localFingerprint }
    suspendInput
    setForwarding

/-- A `RoleDecision::Abort`. -/
def applyAbort (abort : RoleState) : WindowsM Unit := do
  setForwarding
  send (.role (.abort abort))

/-- `RoleEvent::Ready`. -/
def onReady (readyEpoch : Nat) (captureReady injectReady : Bool)
    (failureDetail : Option String) : WindowsM Unit := do
  let w ← read
  match w.pendingRoleReadiness with
  | none => pure ()
  | some (localCapture, localInject, localDetail) =>
    match w.coordinator.finishReady readyEpoch localCapture localInject captureReady injectReady
        (failureDetail.orElse fun _ => localDetail) with
    | .error (.unexpectedEpoch _ _) => update fun w => { w with transitionDeadline := true }
    | .error error => do
      update fun w => { w with pendingRoleReadiness := none, transitionDeadline := false }
      leave (.failed error.message)
    | .ok (decision, coordinator) => do
      update fun w => { w with
        pendingRoleReadiness := none, transitionDeadline := false, coordinator }
      match decision with
      | .commit commit => applyCommit commit
      | .abort abort => applyAbort abort

/-- `RoleEvent::Applied`. -/
def onApplied (p : WindowsPlatform) (appliedEpoch : Nat) : WindowsM Unit := do
  let w ← read
  match w.pendingRolePersistence with
  | none => pure ()
  | some (expectedEpoch, controller) =>
    if appliedEpoch = expectedEpoch ∧ appliedEpoch = w.roleEpoch then
      update fun w => { w with pendingRolePersistence := none }
      check (p.save.map .failed)
      update fun w => { w with storedRole := some controller }

/-- `RoleEvent::SetPaused`. -/
def onSetPaused (p : WindowsPlatform) (paused : Bool) : WindowsM Unit := do
  let w ← read
  if !w.coordinator.isTransitioning then
    let coordinator ← role (w.coordinator.setPaused paused)
    update fun w => { w with coordinator, sessionPaused := paused }
    if paused then
      emit .forceReleaseToLocal
      emit (.setForwardingEnabled false)
      suspendInput
      stopStreams
    else
      setForwarding
      resumeAudio p
    send (.role (.setPaused paused))

def onRole (p : WindowsPlatform) : RoleEvent → WindowsM Unit
  | .request requested => onRequest requested
  | .ready epoch captureReady injectReady detail => onReady epoch captureReady injectReady detail
  | .applied epoch => onApplied p epoch
  | .setPaused paused => onSetPaused p paused
  -- Connector-authoritative messages from the listener are ignored.
  | .sessionState _ | .prepare _ | .commit _ | .abort _ => pure ()

/-- Whether this side can carry audio from `source`, in `RequestRoute`. -/
def validSource (w : WindowsConnector) (source : Option String) : Bool :=
  source.all fun source =>
    (source = w.setup.localFingerprint && w.setup.peerSupportsAudioPlayback &&
      w.setup.peerSupportsAudioRoute) ||
    (source = w.setup.peerFingerprint && w.setup.peerSupportsAudioCapture)

/-- `AudioControl::Offer`; no socket, no answer. -/
def onOffer (p : WindowsPlatform) (codecs : List AudioCodec) : WindowsM Unit := do
  let w ← read
  if w.audioSource = some w.setup.peerFingerprint ∧ AudioCodec.pcmS16Stereo48Khz ∈ codecs then
    match p.receiverSocket with
    | none => pure ()
    | some port => do
      send (.audio (.start port p.secrets .pcmS16Stereo48Khz frameMs w.setup.jitterTargetMs))
      if p.receiverStart then update fun w => { w with audioReceiver := true }
      else send (.audio (.stop .playbackFailure))

/-- `AudioControl::Start`, for the socket of the last offer; `senderStart` says whether the
    capture could not be started over the path, or there was no path. -/
def onStart (p : WindowsPlatform) : WindowsM Unit := do
  let w ← read
  if w.audioSource = some w.setup.localFingerprint ∧ w.pendingAudioSocket = true then
    update fun w => { w with pendingAudioSocket := false }
    match p.senderStart with
    | .ok () => do
      update fun w => { w with audioSender := true }
      send (.audio (.state .streaming none))
    | .error true => send (.audio (.stop .captureFailure))
    | .error false => pure ()

/-- `AudioControl::State`; one failed playback is renegotiated. -/
def onState (p : WindowsPlatform) (state : AudioStreamState) : WindowsM Unit := do
  let w ← read
  if state = .error ∧ w.audioSource = some w.setup.localFingerprint ∧
      w.audioRestartAttempted = false ∧ w.sessionPaused = false then
    update fun w => { w with audioRestartAttempted := true, audioSender := false }
    sendAudioOffer p

def onAudio (p : WindowsPlatform) : AudioControl → WindowsM Unit
  | .requestRoute source => do
    let w ← read
    if w.validSource source then
      commitAudioRoute p source
      offerIfSource p w.sessionPaused
    else
      sendAudioRoute
  | .offer _ codecs => onOffer p codecs
  | .start _ _ .pcmS16Stereo48Khz _ _ => onStart p
  | .setEnabled enabled => do
    let w ← read
    commitAudioRoute p (if enabled then some w.setup.peerFingerprint else none)
  | .state state _ => onState p state
  | .stop _ => stopStreams
  | .setRoute _ => pure ()

/-- The `receiver_rx` branch. -/
def onFrame (p : WindowsPlatform) : Frame → WindowsM Unit
  | .input epoch event => onInput p epoch event
  | .control epoch event => onControl epoch event
  | .role event => onRole p event
  | .audio control => onAudio p control
  | .error code message => leave (.failed ("peer error: " ++ code ++ ": " ++ message))
  | .other => pure ()

/-! ## The loop -/

/-- One turn of the loop. -/
def handle (p : WindowsPlatform) : WindowsSessionEvent → WindowsM Unit
  | .ctrlC => quit
  | .audioWatch receiverFinished senderFinished => audioWatch p receiverFinished senderFinished
  | .watchdog deadlinePassed liveness => do
    expireTransition deadlinePassed
    pollLiveness liveness
  | .heartbeat => send .other
  | .trayCommand command =>
    update fun w => { w with trayCommands := w.trayCommands ++ [command] }
  | .trayTick => trayTick p
  | .frame frame => onFrame p frame
  | .closed => leave (.failed "receiver frame reader ended")

/-- The loop; what the outside answers is part of the action. -/
def loop : Machine WindowsConnector (WindowsPlatform × WindowsSessionEvent) :=
  Handler.loop fun action => handle action.1 action.2

/-- The source the loop starts with: the committed one, else the configured one, if its direction
    is there. -/
def initialSource (setup : WindowsSetup) (stored : Option (Option String))
    (preferred : Option String) : Option String :=
  (stored.getD preferred).filter fun source =>
    !((source = setup.localFingerprint &&
        (!setup.peerSupportsAudioPlayback || !setup.peerSupportsAudioRoute)) ||
      (source = setup.peerFingerprint && !setup.peerSupportsAudioCapture))

/-- The variables before the loop, for the role state sent to the peer, the committed and the
    configured route, and the forwarding switch the process keeps. -/
def initial (setup : WindowsSetup) (state : RoleState) (stored : Option (Option String))
    (preferred : Option String) (inputForwardingEnabled : Bool) :
    Except RoleStateError WindowsConnector :=
  (RoleCoordinator.new setup.localFingerprint setup.peerFingerprint state.controllerFingerprint
    state.roleEpoch state.listenerPosition state.paused).map fun coordinator =>
      { setup, coordinator
        roleEpoch := state.roleEpoch
        localIsController := state.controllerFingerprint = some setup.localFingerprint
        sessionPaused := state.paused
        inputForwardingEnabled
        storedRole := state.controllerFingerprint
        audioSource := initialSource setup stored preferred
        audioEnabled := (initialSource setup stored preferred).isSome
        storedRoute := stored }

/-- The statements before the loop that write. -/
def start (p : WindowsPlatform) : WindowsM Unit := do
  let w ← read
  setForwarding
  if w.storedRoute = none then
    check (p.save.map .failed)
    update fun w => { w with storedRoute := some w.audioSource }
  if !w.sessionPaused then
    sendAudioRoute
    offerIfSource p false
  if w.setup.peerSupportsInputToggle then
    send (.control w.roleEpoch (.setInputForwarding w.inputForwardingEnabled))

/-- A connector whose loop starts. -/
def Started (w : WindowsConnector) : Prop :=
  ∃ setup state stored preferred enabled p first,
    initial setup state stored preferred enabled = .ok first ∧
      (start p first).result = .ok () ∧ (start p first).state = w

end WindowsConnector

end EdgeKvm.Session
