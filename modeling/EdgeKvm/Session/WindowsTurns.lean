import EdgeKvm.Session.WindowsConnector
import EdgeKvm.Session.ConnectorTurns

/-!
# The Windows loop and its coordinator

Every turn of the Windows loop leaves the setup alone, and a coordinator that names its two
nodes.
-/

namespace EdgeKvm.Session

open EdgeKvm.Lib Handler Machine

namespace WindowsConnector

/-- The setup and its coordinator name the same two nodes. -/
structure Names (setup : WindowsSetup) (w : WindowsConnector) : Prop where
  same : w.setup = setup
  connector : w.coordinator.connectorFingerprint = setup.localFingerprint
  listener : w.coordinator.listenerFingerprint = setup.peerFingerprint

section Rules

variable {w : WindowsConnector} {p : WindowsPlatform}
  {Q : Except ConnectedSessionExit Unit → WindowsConnector → List WindowsEffect → Prop}

@[simp] theorem wp_send {frame : Frame} : (send frame).wp Q w ↔ Q (.ok ()) w [.send frame] :=
  Iff.rfl

@[simp] theorem wp_role {α : Type} {x : Except RoleStateError α}
    {Q : Except ConnectedSessionExit α → WindowsConnector → List WindowsEffect → Prop} :
    (role x).wp Q w ↔ (∀ a, x = .ok a → Q (.ok a) w []) ∧
      ∀ error, x = .error error → Q (.error (.failed error.message)) w [] := wp_ofExcept

@[simp] theorem wp_setForwarding :
    setForwarding.wp Q w ↔ Q (.ok ()) w [.setForwardingEnabled w.mayCapture] := Iff.rfl

@[simp] theorem wp_suspendInput :
    suspendInput.wp Q w ↔
      Q (.ok ()) { w with inputEpoch := w.inputEpoch.suspend } [.allKeysUp] := Iff.rfl

@[simp] theorem wp_stopStreams :
    stopStreams.wp Q w ↔ Q (.ok ())
      { w with audioReceiver := false, audioSender := false, pendingAudioSocket := false } [] :=
  Iff.rfl

end Rules

section Names

variable {setup : WindowsSetup} {w : WindowsConnector} {p : WindowsPlatform}

theorem commitAudioRoute_names (names : w.Names setup) {source : Option String} :
    (commitAudioRoute p source).Keeps (Names setup) w := by
  unfold commitAudioRoute sendAudioRoute Handler.Keeps
  simp
  grind [Names]

theorem offerIfSource_names (names : w.Names setup) {quiet : Bool} :
    (offerIfSource p quiet).Keeps (Names setup) w := by
  unfold offerIfSource sendAudioOffer Handler.Keeps
  simp
  grind [Names]

theorem audioWatch_names (names : w.Names setup) {receiver sender : Bool} :
    (audioWatch p receiver sender).Keeps (Names setup) w := by
  unfold audioWatch sendAudioRoute sendAudioOffer Handler.Keeps
  simp
  grind [Names]

theorem watchdog_names (names : w.Names setup) {passed : Bool}
    {liveness : Option LivenessEvent} :
    (handle p (.watchdog passed liveness)).Keeps (Names setup) w := by
  refine Handler.Keeps.bind (J := Names setup) ?_ ?_
  · unfold expireTransition Handler.Keeps
    simp
    grind [Names]
  · intro _ t names
    unfold pollLiveness Handler.Keeps
    cases liveness with
    | none => simpa
    | some verdict =>
      cases verdict with
      | softInputTimeout =>
        simp
        grind [Names]
      | hardSessionTimeout => simp

theorem beginRoleSwitch_names (names : w.Names setup) {requested : String} :
    (beginRoleSwitch requested).Keeps (Names setup) w := by
  unfold beginRoleSwitch Handler.Keeps
  simp
  grind [Names]

theorem applyCommit_names (names : w.Names setup) {commit : RoleState} :
    (applyCommit commit).Keeps (Names setup) w := by
  unfold applyCommit Handler.Keeps
  cases commit.controllerFingerprint with
  | none => simp
  | some controller =>
    simp
    grind [Names]

theorem applyAbort_names (names : w.Names setup) {abort : RoleState} :
    (applyAbort abort).Keeps (Names setup) w := by
  unfold applyAbort Handler.Keeps
  simpa

theorem onReady_names (names : w.Names setup) {epoch : Nat} {capture inject : Bool}
    {detail : Option String} :
    (onReady epoch capture inject detail).Keeps (Names setup) w := by
  unfold onReady Handler.Keeps
  rw [Handler.wp_read_bind]
  split
  · simpa
  · split
    · simp
      grind [Names]
    · simp
    · rename_i decision coordinator decided
      obtain ⟨pending, -, -, outcome⟩ := RoleCoordinator.finishReady_eq_ok decided
      have nodes : coordinator.connectorFingerprint = w.coordinator.connectorFingerprint ∧
          coordinator.listenerFingerprint = w.coordinator.listenerFingerprint := by
        rcases outcome with ⟨-, -, -, -, -, rfl⟩ | ⟨-, detail, -, rfl⟩ <;> exact ⟨rfl, rfl⟩
      refine Handler.Keeps.bind (J := Names setup) ?_ ?_
      · exact fun _ _ => ⟨names.same, nodes.1.trans names.connector, nodes.2.trans names.listener⟩
      · intro _ t names
        cases decision with
        | commit commit => exact applyCommit_names names
        | abort abort => exact applyAbort_names names

theorem onSetPaused_names (names : w.Names setup) {paused : Bool} :
    (onSetPaused p paused).Keeps (Names setup) w := by
  unfold onSetPaused resumeAudio sendAudioRoute offerIfSource sendAudioOffer Handler.Keeps
  cases paused
  · simp
    grind [Names]
  · simp
    grind [Names]

theorem onRole_names (names : w.Names setup) {event : RoleEvent} :
    (onRole p event).Keeps (Names setup) w := by
  cases event with
  | request requested =>
    unfold onRole onRequest Handler.Keeps
    rw [Handler.wp_read_bind]
    split
    · exact beginRoleSwitch_names names
    · simpa
  | ready epoch capture inject detail => exact onReady_names names
  | applied epoch =>
    unfold onRole onApplied Handler.Keeps
    rw [Handler.wp_read_bind]
    split
    · simpa
    · simp
      grind [Names]
  | setPaused paused => exact onSetPaused_names names
  | sessionState state | prepare state | commit state | abort state =>
    simpa [onRole, Handler.Keeps]

theorem onInput_names (names : w.Names setup) {epoch : Nat} {event : InputEvent} :
    (onInput p epoch event).Keeps (Names setup) w := by
  have released : (releaseIfAtEdge p).Keeps (Names setup) w := by
    unfold releaseIfAtEdge Handler.Keeps
    rw [Handler.wp_read_bind]
    split
    · simpa
    · cases answer : p.returnPosition with
      | error error => simp
      | ok position =>
        cases position with
        | none => simpa
        | some position =>
          simp
          grind [Names]
  unfold Handler.Keeps at released
  unfold onInput Handler.Keeps
  cases moved : isMotion event
  · simp
    grind [Names]
  · simp
    grind

theorem onControl_names (names : w.Names setup) {epoch : Nat} {event : ControlEvent} :
    (onControl epoch event).Keeps (Names setup) w := by
  unfold onControl onSetInputForwarding Handler.Keeps
  cases event with
  | enterRemote | leaveRemote | releaseToLocal | setInputForwarding =>
    simp
    grind [Names]

theorem onAudio_names (names : w.Names setup) {control : AudioControl} :
    (onAudio p control).Keeps (Names setup) w := by
  cases control with
  | requestRoute source =>
    unfold onAudio Handler.Keeps
    rw [Handler.wp_read_bind]
    split
    · exact Handler.Keeps.bind (commitAudioRoute_names names)
        fun _ _ names => offerIfSource_names names
    · simpa [sendAudioRoute]
  | setEnabled enabled =>
    unfold onAudio Handler.Keeps
    rw [Handler.wp_read_bind]
    exact commitAudioRoute_names names
  | offer port codecs =>
    unfold onAudio onOffer Handler.Keeps
    cases p.receiverSocket with
    | none => simpa
    | some socket =>
      simp
      grind [Names]
  | start port secrets codec frame jitter =>
    cases codec
    unfold onAudio onStart Handler.Keeps
    cases p.senderStart with
    | ok started =>
      simp
      grind [Names]
    | error path =>
      cases path <;> simp <;> grind [Names]
  | state state detail =>
    unfold onAudio onState sendAudioOffer Handler.Keeps
    simp
    grind [Names]
  | setRoute source => simpa [onAudio, Handler.Keeps]
  | stop reason =>
    unfold onAudio Handler.Keeps
    simp
    grind [Names]

theorem onFrame_names (names : w.Names setup) {frame : Frame} :
    (onFrame p frame).Keeps (Names setup) w := by
  cases frame with
  | input epoch event => exact onInput_names names
  | control epoch event => exact onControl_names names
  | role event => exact onRole_names names
  | audio control => exact onAudio_names names
  | error code message => simp [onFrame, Handler.Keeps]
  | other => simpa [onFrame, Handler.Keeps]

theorem handlePendingTrayCommands_names {enabled : Bool} (commands : List WindowsTrayCommand) :
    ∀ {w : WindowsConnector}, w.Names setup →
      (handlePendingTrayCommands enabled commands).Keeps (Names setup) w := by
  induction commands with
  | nil =>
    intro w names
    simpa [handlePendingTrayCommands, Handler.Keeps]
  | cons command commands ih =>
    intro w names
    have popped : Names setup { w with trayCommands := commands } :=
      ⟨names.same, names.connector, names.listener⟩
    refine Handler.Keeps.bind (J := Names setup) (fun _ _ => popped) ?_
    intro _ t names
    cases command with
    | openSettings => exact ih names
    | releaseControl =>
      exact Handler.Keeps.bind (J := Names setup) (fun _ _ => names) fun _ _ names => ih names
    | pair | disconnect | reconnect | toggleInputForwarding | setAudio | setController | quit =>
      exact fun _ _ => names

theorem onOutcome_names (names : w.Names setup) {outcome : TrayCommandOutcome} :
    (onOutcome p outcome).Keeps (Names setup) w := by
  cases outcome with
  | continue' => exact fun _ _ => names
  | quit =>
    unfold onOutcome quit sendAudioStop Handler.Keeps
    simp
  | pair =>
    unfold onOutcome pair Handler.Keeps
    simp
  | disconnect =>
    unfold onOutcome disconnect sendAudioStop Handler.Keeps
    simp
    grind [Names]
  | reconnect =>
    unfold onOutcome reconnect resumeAudio sendAudioRoute offerIfSource sendAudioOffer
      Handler.Keeps
    simp
    grind [Names]
  | inputForwardingChanged enabled =>
    unfold onOutcome inputForwardingChanged Handler.Keeps
    simp
    grind [Names]
  | audioChanged choice =>
    unfold onOutcome audioChanged Handler.Keeps
    rw [Handler.wp_read_bind]
    split
    · simpa
    · have reset : Names setup { w with audioRestartAttempted := false } :=
        ⟨names.same, names.connector, names.listener⟩
      refine Handler.Keeps.bind (J := Names setup) (fun _ _ => reset) ?_
      intro _ t names
      exact Handler.Keeps.bind (commitAudioRoute_names names)
        fun _ _ names => offerIfSource_names names
  | controllerRequested choice =>
    unfold onOutcome controllerRequested Handler.Keeps
    rw [Handler.wp_read_bind]
    split
    · exact beginRoleSwitch_names names
    · simpa

theorem handle_names (names : w.Names setup) {event : WindowsSessionEvent} :
    (handle p event).Keeps (Names setup) w := by
  cases event with
  | ctrlC => exact @onOutcome_names setup w p names .quit
  | audioWatch receiver sender => exact audioWatch_names names
  | watchdog passed liveness => exact watchdog_names names
  | heartbeat => exact fun _ _ => names
  | trayCommand command => exact fun _ _ => ⟨names.same, names.connector, names.listener⟩
  | trayTick =>
    unfold handle trayTick Handler.Keeps
    rw [Handler.wp_read_bind]
    exact Handler.Keeps.bind (handlePendingTrayCommands_names w.trayCommands names)
      fun _ _ names => onOutcome_names names
  | frame frame => exact onFrame_names names
  | closed => simp [handle, Handler.Keeps]

theorem initial_names {setup : WindowsSetup} {state : RoleState}
    {stored : Option (Option String)} {preferred : Option String} {enabled : Bool}
    (made : initial setup state stored preferred enabled = .ok w) : w.Names setup := by
  unfold initial at made
  cases fresh : RoleCoordinator.new setup.localFingerprint setup.peerFingerprint
      state.controllerFingerprint state.roleEpoch state.listenerPosition state.paused with
  | error error => simp [fresh, Except.map] at made
  | ok coordinator =>
    simp only [fresh, Except.map, Except.ok.injEq] at made
    rw [← made, RoleCoordinator.new_eq_ok fresh]
    exact ⟨rfl, rfl, rfl⟩

theorem start_names (names : w.Names setup) : (start p).Keeps (Names setup) w := by
  unfold start sendAudioRoute offerIfSource sendAudioOffer Handler.Keeps
  simp
  grind [Names]

end Names

theorem Started.names {w : WindowsConnector} (started : w.Started) : w.Names w.setup := by
  obtain ⟨setup, state, stored, preferred, enabled, p, first, made, begun, rfl⟩ := started
  have names : Names setup (start p first).state := start_names (initial_names made) () begun
  exact ⟨rfl, names.connector.trans (by rw [names.same]), names.listener.trans (by rw [names.same])⟩

/-- In every reachable state the coordinator names the two nodes of the session. -/
theorem run_names {first w : WindowsConnector} (started : first.Started)
    (run : loop.Run anyAction first w) : w.Names first.setup := by
  refine run.invariant ?_ started.names
  intro u action t _ executed names
  obtain ⟨result, rfl⟩ := exec_loop.mp executed
  exact handle_names names () result

end WindowsConnector

/-! ## A sample connector -/

/-- A Windows connector that controls an unpaused session. -/
def sampleWindowsFirst : WindowsConnector :=
  { setup :=
      { localFingerprint := "connector", peerFingerprint := "listener"
        peerSupportsInputCapture := true, peerSupportsInputInjection := true
        peerSupportsRoleSwitch := true, peerSupportsInputToggle := true
        peerSupportsAudioCapture := true, peerSupportsAudioPlayback := true
        peerSupportsAudioRoute := true, jitterTargetMs := 20 }
    coordinator := { connectorFingerprint := "connector", listenerFingerprint := "listener"
                     stable := sampleRoleState "connector" }
    roleEpoch := initialRoleEpoch, localIsController := true, sessionPaused := false
    inputForwardingEnabled := true, storedRole := some "connector", storedRoute := some none }

theorem sampleWindows_started : sampleWindowsFirst.Started :=
  ⟨sampleWindowsFirst.setup, sampleRoleState "connector", some none, none, true, {},
    sampleWindowsFirst, rfl, rfl, rfl⟩

/-- The same with the user's commands in the channel. -/
def sampleWindows (commands : List WindowsTrayCommand) : WindowsConnector :=
  { sampleWindowsFirst with trayCommands := commands }

theorem sampleWindows_run : WindowsConnector.loop.Run anyAction sampleWindowsFirst
    (sampleWindows [.openSettings, .reconnect]) :=
  run_of_runList [({}, .trayCommand .openSettings), ({}, .trayCommand .reconnect)] rfl

end EdgeKvm.Session
