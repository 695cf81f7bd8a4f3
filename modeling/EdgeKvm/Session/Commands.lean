import EdgeKvm.Session.WindowsTurns
import EdgeKvm.Session.ListenerTurns

/-!
# Tray commands and the session

Which tray commands the Linux connector's, the Windows connector's and the listener's loop handle
without ending the session, for any state they can be in.
-/

namespace EdgeKvm.Session

open EdgeKvm.Lib Handler Machine

/-! ## The commands each loop accepts -/

/-- A coordinator without a handover accepts one of its nodes, below the last epoch. -/
theorem RoleCoordinator.prepare_of_idle {coordinator : RoleCoordinator} {requested : String}
    (idle : coordinator.pending = none)
    (known : requested = coordinator.connectorFingerprint ∨
      requested = coordinator.listenerFingerprint) :
    (∃ prepared, coordinator.prepare requested = .ok prepared) ↔
      coordinator.stable.roleEpoch + 1 < UInt64.size := by
  have free : coordinator.isTransitioning = false := isTransitioning_eq_false.mpr idle
  have accepted : ¬ (requested ≠ coordinator.connectorFingerprint ∧
      requested ≠ coordinator.listenerFingerprint) := by
    rintro ⟨notConnector, notListener⟩
    exact known.elim notConnector notListener
  unfold prepare
  rw [if_neg (by simp [free]), if_neg accepted]
  unfold nextEpoch
  split
  · rename_i below
    simp [Except.map, below]
  · rename_i last
    simp [Except.map, last]

/-- Every call into the capture backend and the file system succeeds. -/
structure Platform.Succeeds (p : Platform) : Prop where
  arm : p.arm = none
  release : p.release = none
  disarm : p.disarm = none
  preflight : p.preflight = none
  save : p.save = none

/-- `TrayCommand` in full. -/
inductive LinuxTrayCommand where
  | openSettings
  | addPhone
  | armPairing
  | session (command : TrayCommand)
  deriving DecidableEq, Repr

/-- Quit and Disconnect. -/
def LinuxTrayCommand.endsSession : LinuxTrayCommand → Bool
  | .session .quit | .session .disconnect => true
  | _ => false

/-- Quit, Disconnect and Pair. -/
def TrayCommandOutcome.endsSession : TrayCommandOutcome → Bool
  | .quit | .disconnect | .pair => true
  | _ => false

namespace Connector

/-- The tray branch; the commands that start another program and the pairing request leave the
    loop alone. -/
def onTrayCommand (p : Platform) : LinuxTrayCommand → ConnectorM Unit
  | .session command => tray p command
  | .openSettings | .addPhone | .armPairing => pure ()

/-- The node a tray choice names. -/
def requestedController (c : Connector) : ControllerChoice → String
  | .local' => c.setup.localFingerprint
  | .peer => c.setup.peerFingerprint

/-- The guard of `SetController`. -/
def mayBeginRoleSwitch (c : Connector) (requested : String) : Bool :=
  !c.sessionPaused && c.setup.roleSwitchAvailable &&
    c.coordinator.stable.controllerFingerprint ≠ some requested && !c.coordinator.isTransitioning

/-- The guard of `ToggleInputForwarding`. -/
def mayToggle (c : Connector) : Bool :=
  !c.sessionPaused && !c.coordinator.isTransitioning &&
    c.coordinator.stable.controllerFingerprint.isSome

/-- The states in which a command goes through: a resume needs that no handover is pending, what
    arms the capture needs its backend, and a handover a next epoch. -/
def Accepts (c : Connector) : LinuxTrayCommand → Prop
  | .session .reconnect =>
    c.coordinator.pending = none ∧
      (c.localIsController = true → c.inputForwardingEnabled = true → c.capture.isSome)
  | .session .toggleInputForwarding =>
    c.mayToggle = true → c.localIsController = true → c.inputForwardingEnabled = false →
      c.capture.isSome
  | .session (.setController choice) =>
    c.mayBeginRoleSwitch (c.requestedController choice) = true →
      c.coordinator.stable.roleEpoch + 1 < UInt64.size
  | _ => True

section Accepts

variable {c : Connector} {p : Platform}

theorem reconnect_accepts (works : p.Succeeds) :
    (reconnect p c).result = .ok () ↔ c.Accepts (.session .reconnect) := by
  change (reconnect p).wp (fun r _ _ => r = .ok ()) c ↔ _
  unfold reconnect RoleCoordinator.setPaused Accepts
  cases waiting : c.coordinator.pending with
  | none => simp [waiting, works.arm, Option.isSome_iff_ne_none]
  | some pending => simp [waiting]

theorem toggleInputForwarding_accepts (works : p.Succeeds) :
    (toggleInputForwarding p c).result = .ok () ↔ c.Accepts (.session .toggleInputForwarding) := by
  change (toggleInputForwarding p).wp (fun r _ _ => r = .ok ()) c ↔ _
  unfold toggleInputForwarding Accepts mayToggle
  simp [works.arm, Option.isSome_iff_ne_none]

theorem setAudio_accepts (works : p.Succeeds) {choice : AudioChoice} :
    (setAudio p choice c).result = .ok () := by
  change (setAudio p choice).wp (fun r _ _ => r = .ok ()) c
  unfold setAudio commitAudioRoute
  rw [Handler.wp_read_bind]
  split
  · simp
  · simp [works.save]

theorem beginRoleSwitch_accepts {requested : String} :
    (beginRoleSwitch p requested c).result = .ok () ↔
      ∃ prepared, c.coordinator.prepare requested = .ok prepared := by
  change (beginRoleSwitch p requested).wp (fun r _ _ => r = .ok ()) c ↔ _
  unfold beginRoleSwitch
  cases prepared : c.coordinator.prepare requested <;> simp [prepared]

theorem setController_accepts {choice : ControllerChoice} (coordinated : c.core.Coordinated) :
    (setController p choice c).result = .ok () ↔ c.Accepts (.session (.setController choice)) := by
  have named : c.requestedController choice = c.coordinator.connectorFingerprint ∨
      c.requestedController choice = c.coordinator.listenerFingerprint := by
    obtain ⟨connector, listener⟩ := coordinated.identity
    cases choice
    · exact .inl connector.symm
    · exact .inr listener.symm
  have unfolded : setController p choice c =
      (if c.mayBeginRoleSwitch (c.requestedController choice) then
        beginRoleSwitch p (c.requestedController choice)
      else pure ()) c := by
    cases choice <;> rfl
  rw [unfolded, Accepts]
  split
  · rename_i allowed
    have idle : c.coordinator.pending = none := by
      simp only [mayBeginRoleSwitch, Bool.and_eq_true, Bool.not_eq_true'] at allowed
      exact RoleCoordinator.isTransitioning_eq_false.mp allowed.2
    rw [beginRoleSwitch_accepts, RoleCoordinator.prepare_of_idle idle named]
    exact (imp_iff_right allowed).symm
  · rename_i refused
    exact ⟨fun _ allowed => absurd allowed refused, fun _ => rfl⟩

/-- A command other than Quit and Disconnect goes through exactly where it is accepted. -/
theorem onTrayCommand_accepts (works : p.Succeeds) (coordinated : c.core.Coordinated)
    {command : LinuxTrayCommand} (stays : command.endsSession = false) :
    (onTrayCommand p command c).result = .ok () ↔ c.Accepts command := by
  cases command with
  | openSettings | addPhone | armPairing => exact ⟨fun _ => trivial, fun _ => rfl⟩
  | session command =>
    cases command with
    | quit | disconnect => cases stays
    | reconnect => exact reconnect_accepts works
    | toggleInputForwarding => exact toggleInputForwarding_accepts works
    | setAudio choice => exact ⟨fun _ => trivial, fun _ => setAudio_accepts works⟩
    | setController choice => exact setController_accepts coordinated

theorem run_coordinated {first : Connector} (started : first.Started)
    (run : loop.Run anyAction first c) : c.core.Coordinated :=
  run.invariant (I := fun c => c.core.Coordinated)
    (fun _ _ _ _ executed coordinated => (exec_turned executed).coordinated coordinated)
    started.coordinated

end Accepts

end Connector

namespace Listener

/-- The tray branch; the commands that start another program and the pairing request leave the
    loop alone. -/
def onTrayCommand (p : Platform) : LinuxTrayCommand → ListenerM Unit
  | .session command => tray p command
  | .openSettings | .addPhone | .armPairing => pure ()

/-- No command other than Quit and Disconnect ends the listener's session. -/
theorem onTrayCommand_accepts {l : Listener} {p : Platform} (works : p.Succeeds)
    {command : LinuxTrayCommand} (stays : command.endsSession = false) :
    (onTrayCommand p command l).result = .ok () := by
  change (onTrayCommand p command).wp (fun r _ _ => r = .ok ()) l
  cases command with
  | openSettings | addPhone | armPairing => exact rfl
  | session command =>
    cases command with
    | quit | disconnect => cases stays
    | reconnect =>
      unfold onTrayCommand tray reconnect
      simp [works.arm]
    | toggleInputForwarding =>
      unfold onTrayCommand tray toggleInputForwarding
      simp [works.arm]
    | setAudio choice =>
      unfold onTrayCommand tray setAudio
      rw [Handler.wp_read_bind]
      cases choice <;> dsimp only <;> split <;> simp
    | setController choice =>
      unfold onTrayCommand tray setController
      simp

end Listener

namespace WindowsConnector

/-- The states in which an outcome goes through: a resume needs that no handover is pending, what
    offers audio needs a socket, and a handover a next epoch. -/
def Accepts (p : WindowsPlatform) (w : WindowsConnector) : TrayCommandOutcome → Prop
  | .reconnect =>
    w.setup.roleSwitchAvailable = true → w.coordinator.pending = none ∧
      (w.audioEnabled = true → w.audioSource = some w.setup.localFingerprint → p.offer.isOk)
  | .audioChanged choice =>
    w.requestedSource choice = some (some w.setup.localFingerprint) → w.sessionPaused = false →
      p.offer.isOk
  | .controllerRequested choice =>
    w.mayBeginRoleSwitch (w.requestedController choice) = true →
      w.coordinator.stable.roleEpoch + 1 < UInt64.size
  | _ => True

section Accepts

variable {w : WindowsConnector} {p : WindowsPlatform}

theorem reconnect_accepts : (reconnect p w).result = .ok () ↔ w.Accepts p .reconnect := by
  change (reconnect p).wp (fun r _ _ => r = .ok ()) w ↔ _
  unfold reconnect RoleCoordinator.setPaused resumeAudio sendAudioRoute offerIfSource sendAudioOffer
    Accepts
  cases waiting : w.coordinator.pending with
  | none => cases p.offer <;> simp [waiting, Except.isOk, Except.toBool]
  | some pending => simp [waiting]

theorem audioChanged_accepts (saves : p.save = none) {choice : AudioChoice} :
    (audioChanged p choice w).result = .ok () ↔ w.Accepts p (.audioChanged choice) := by
  change (audioChanged p choice).wp (fun r _ _ => r = .ok ()) w ↔ _
  unfold audioChanged Accepts
  rw [Handler.wp_read_bind]
  cases asked : w.requestedSource choice with
  | none => simp [asked]
  | some source =>
    unfold commitAudioRoute sendAudioRoute offerIfSource sendAudioOffer
    cases p.offer <;> simp [asked, saves, Except.isOk, Except.toBool]

theorem beginRoleSwitch_accepts {requested : String} :
    (beginRoleSwitch requested w).result = .ok () ↔
      ∃ prepared, w.coordinator.prepare requested = .ok prepared := by
  change (beginRoleSwitch requested).wp (fun r _ _ => r = .ok ()) w ↔ _
  unfold beginRoleSwitch
  cases prepared : w.coordinator.prepare requested <;> simp [prepared]

theorem controllerRequested_accepts {setup : WindowsSetup} (names : w.Names setup)
    {choice : ControllerChoice} :
    (controllerRequested choice w).result = .ok () ↔
      w.Accepts p (.controllerRequested choice) := by
  have named : w.requestedController choice = w.coordinator.connectorFingerprint ∨
      w.requestedController choice = w.coordinator.listenerFingerprint := by
    rw [names.connector, names.listener, ← names.same]
    cases choice
    · exact .inl rfl
    · exact .inr rfl
  have unfolded : controllerRequested choice w =
      (if w.mayBeginRoleSwitch (w.requestedController choice) then
        beginRoleSwitch (w.requestedController choice)
      else pure ()) w := rfl
  rw [unfolded, Accepts]
  split
  · rename_i allowed
    have idle : w.coordinator.pending = none := by
      simp only [mayBeginRoleSwitch, Bool.and_eq_true, Bool.not_eq_true'] at allowed
      exact RoleCoordinator.isTransitioning_eq_false.mp allowed.1.2
    rw [beginRoleSwitch_accepts, RoleCoordinator.prepare_of_idle idle named]
    exact (imp_iff_right allowed).symm
  · rename_i refused
    exact ⟨fun _ allowed => absurd allowed refused, fun _ => rfl⟩

theorem inputForwardingChanged_accepts {enabled : Bool} :
    (inputForwardingChanged enabled w).result = .ok () := by
  change (inputForwardingChanged enabled).wp (fun r _ _ => r = .ok ()) w
  unfold inputForwardingChanged
  simp

/-- An outcome other than Quit, Disconnect and Pair goes through exactly where it is accepted. -/
theorem onOutcome_accepts {setup : WindowsSetup} (names : w.Names setup) (saves : p.save = none)
    {outcome : TrayCommandOutcome} (stays : outcome.endsSession = false) :
    (onOutcome p outcome w).result = .ok () ↔ w.Accepts p outcome := by
  cases outcome with
  | quit | disconnect | pair => cases stays
  | continue' => exact ⟨fun _ => trivial, fun _ => rfl⟩
  | reconnect => exact reconnect_accepts
  | inputForwardingChanged enabled =>
    exact ⟨fun _ => trivial, fun _ => inputForwardingChanged_accepts⟩
  | audioChanged choice => exact audioChanged_accepts saves
  | controllerRequested choice => exact controllerRequested_accepts names

end Accepts

end WindowsConnector

/-- What the loop is asked to do by a command, if anything. -/
def WindowsTrayCommand.outcome (inputForwardingEnabled : Bool) :
    WindowsTrayCommand → Option TrayCommandOutcome
  | .openSettings | .releaseControl => none
  | .pair => some .pair
  | .disconnect => some .disconnect
  | .reconnect => some .reconnect
  | .toggleInputForwarding => some (.inputForwardingChanged (!inputForwardingEnabled))
  | .setAudio choice => some (.audioChanged choice)
  | .setController choice => some (.controllerRequested choice)
  | .quit => some .quit

namespace WindowsConnector

/-- The outcome of the first command in the channel that has one. -/
def nextOutcome (w : WindowsConnector) : TrayCommandOutcome :=
  (w.trayCommands.findSome? (·.outcome w.inputForwardingEnabled)).getD .continue'

section Tick

variable {w : WindowsConnector} {p : WindowsPlatform}

/-- The commands are taken up to the first one that has an outcome, and nothing fails. -/
theorem handlePendingTrayCommands_spec {enabled : Bool} (commands : List WindowsTrayCommand) :
    ∀ {w : WindowsConnector}, (handlePendingTrayCommands enabled commands).wp
      (fun r t _ => r = .ok ((commands.findSome? (·.outcome enabled)).getD .continue') ∧
        ∃ left, t = { w with trayCommands := left }) w := by
  induction commands with
  | nil =>
    intro w
    exact ⟨rfl, w.trayCommands, rfl⟩
  | cons command commands ih =>
    intro w
    have rest := @ih { w with trayCommands := commands }
    unfold handlePendingTrayCommands
    rw [Handler.wp_bind, Handler.wp_update]
    cases command with
    | openSettings => exact rest
    | releaseControl =>
      rw [Handler.wp_bind, Handler.wp_emit]
      exact rest
    | pair | disconnect | reconnect | toggleInputForwarding | setAudio | setController | quit =>
      exact ⟨rfl, commands, rfl⟩

/-- A turn on the tray goes through exactly where the outcome is accepted. -/
theorem trayTick_accepts {setup : WindowsSetup} (names : w.Names setup) (saves : p.save = none)
    (stays : w.nextOutcome.endsSession = false) :
    (trayTick p w).result = .ok () ↔ w.Accepts p w.nextOutcome := by
  obtain ⟨taken, left, state⟩ :=
    @handlePendingTrayCommands_spec w.inputForwardingEnabled w.trayCommands w
  have unfolded : (trayTick p).wp (fun r _ _ => r = .ok ()) w ↔
      (onOutcome p w.nextOutcome { w with trayCommands := left }).result = .ok () := by
    unfold trayTick
    rw [Handler.wp_read_bind, Handler.wp_bind, Handler.wp, taken, state]
    exact Iff.rfl
  have popped : Names setup { w with trayCommands := left } :=
    ⟨names.same, names.connector, names.listener⟩
  refine unfolded.trans ((onOutcome_accepts popped saves stays).trans ?_)
  cases w.nextOutcome <;> exact Iff.rfl

end Tick

end WindowsConnector

/-! ## The three sessions -/

/-- While files and the capture backend work, a tray command other than Quit, Disconnect and Pair
    ends no listener's session, and a connector's exactly where the connector does not accept
    it. -/
theorem tray_commands_keep_session {p : Platform} {windows : WindowsPlatform}
    (works : p.Succeeds) (saves : windows.save = none) :
    (∀ first c command, first.Started → Connector.loop.Run anyAction first c →
      command.endsSession = false →
        ((Connector.onTrayCommand p command c).result = .ok () ↔ c.Accepts command)) ∧
    (∀ first w, first.Started → WindowsConnector.loop.Run anyAction first w →
      w.nextOutcome.endsSession = false →
        ((WindowsConnector.handle windows .trayTick w).result = .ok () ↔
          w.Accepts windows w.nextOutcome)) ∧
    (∀ first l command, first.Started → Listener.loop.Run anyAction first l →
      command.endsSession = false → (Listener.onTrayCommand p command l).result = .ok ()) := by
  refine ⟨?_, ?_, ?_⟩
  · intro first c command started run stays
    exact Connector.onTrayCommand_accepts works (Connector.run_coordinated started run) stays
  · intro first w started run stays
    exact WindowsConnector.trayTick_accepts (WindowsConnector.run_names started run) saves stays
  · intro first l command _ _ stays
    exact Listener.onTrayCommand_accepts works stays

theorem tray_commands_keep_session_sample :
    (Connector.onTrayCommand {} (.session .reconnect) sampleConnector).result = .ok () ∧
      (WindowsConnector.handle {} .trayTick
        (sampleWindows [.openSettings, .reconnect])).result = .ok () ∧
      (Listener.onTrayCommand {} (.session .reconnect) sampleListener).result = .ok () := by
  have sessions := @tray_commands_keep_session {} {} ⟨rfl, rfl, rfl, rfl, rfl⟩ rfl
  refine ⟨?_, ?_, ?_⟩
  · exact (sessions.1 _ _ (.session .reconnect) sampleConnector_started .refl rfl).mpr
      ⟨rfl, fun _ _ => rfl⟩
  · exact (sessions.2.1 _ _ sampleWindows_started sampleWindows_run rfl).mpr
      (fun _ => ⟨rfl, nofun⟩)
  · exact sessions.2.2 _ _ (.session .reconnect) sampleListener_started .refl rfl

/-- A connector whose user has just given the control away. -/
def switchingConnector : Connector :=
  Connector.loop.reach sampleConnector [({}, .tray (.setController .peer))]

/-- Resuming then ends the session with the coordinator's error. -/
theorem resume_ends_handover :
    ¬ ∀ (p : Platform) (first c : Connector) (command : LinuxTrayCommand), p.Succeeds →
      first.Started → Connector.loop.Run anyAction first c → command.endsSession = false →
        (Connector.onTrayCommand p command c).result = .ok () := by
  intro keeps
  have run : Connector.loop.Run anyAction sampleConnector switchingConnector :=
    run_reach _ (by decide +kernel)
  have resumed := keeps {} sampleConnector switchingConnector (.session .reconnect)
    ⟨rfl, rfl, rfl, rfl, rfl⟩ sampleConnector_started run rfl
  have refused : (Connector.onTrayCommand {} (.session .reconnect) switchingConnector).result =
      .error (.failed "a role transition is already in progress") := by decide +kernel
  rw [refused] at resumed
  cases resumed

end EdgeKvm.Session
