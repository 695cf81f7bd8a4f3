import EdgeKvm.Session.ConnectorTurns
import EdgeKvm.Session.ListenerTurns

/-!
# Who may capture

Both loops arm the portal capture from about a dozen places, each with its own part of the guard.
The places that leave a part out are listed in `armsUnguarded`; runs that avoid them keep the
capture to the active controller.
-/

namespace EdgeKvm.Session

open EdgeKvm.Lib Handler Machine

/-! ## The connector -/

namespace Connector

/-- An armed capture belongs to the committed controller of an enabled, unpaused session with no
    handover pending. -/
def CaptureGuarded (c : Connector) : Prop :=
  isArmed c.capture = true → c.mayCapture = true ∧ c.coordinator.isTransitioning = false

/-- `SetInputForwarding` does not look at the pending handover before it arms. -/
def armsUnguarded (p : Platform) (c : Connector) : ConnectorEvent → Bool
  | .frame (.control epoch (.setInputForwarding true)) =>
    epoch = c.roleEpoch && c.localIsController && !c.sessionPaused &&
      c.coordinator.isTransitioning && c.capture.isSome && p.arm.isNone
  | _ => false

variable {c : Connector} {p : Platform}

section Handlers

attribute [local simp] Keeps CaptureGuarded mayCapture

theorem expireTransition_guarded {passed : Bool} (guarded : c.CaptureGuarded) :
    (expireTransition p passed).Keeps CaptureGuarded c := by
  unfold expireTransition
  simp at *
  grind

theorem pollLiveness_guarded {liveness : Option LivenessEvent} (guarded : c.CaptureGuarded) :
    (pollLiveness liveness).Keeps CaptureGuarded c := by
  unfold pollLiveness
  rcases liveness with _ | _ | _ <;> simp at * <;> grind

theorem reapAudio_guarded {senderFinished : Bool} {failure : Option String}
    (guarded : c.CaptureGuarded) : (reapAudio senderFinished failure).Keeps CaptureGuarded c := by
  unfold reapAudio
  cases failure <;> simp at * <;> grind

theorem captureEvent_guarded {event : Option CaptureEvent} (guarded : c.CaptureGuarded) :
    (captureEvent p event).Keeps CaptureGuarded c := by
  unfold captureEvent loseCapture
  rcases event with _ | _ | _ | _ | _ | _ | _
  case some.layoutChanged =>
    by_cases waiting : c.coordinator.pending = none <;> simp [waiting] at * <;> grind
  all_goals
    simp at *
    grind

theorem audioStarted_guarded (guarded : c.CaptureGuarded) :
    audioStarted.Keeps CaptureGuarded c := by
  unfold audioStarted
  rcases taken : c.audio.takeResult with _ | ⟨_, _ | _⟩ <;> simp [taken] at * <;> grind

/-- A handover starts with the controller's capture disarmed. -/
theorem beginRoleSwitch_guarded {requested : String} (guarded : c.CaptureGuarded)
    (coordinated : c.core.Coordinated) :
    (beginRoleSwitch p requested).Keeps CaptureGuarded c := by
  have controls := coordinated.controls
  simp only [core] at controls
  unfold beginRoleSwitch
  simp at *
  grind

theorem setController_guarded {choice : ControllerChoice} (guarded : c.CaptureGuarded)
    (coordinated : c.core.Coordinated) : (setController p choice).Keeps CaptureGuarded c := by
  unfold setController Keeps
  simp only [wp_bind, wp_read, wp_ite, wp_pure]
  exact ⟨fun _ => beginRoleSwitch_guarded guarded coordinated, fun _ _ _ => guarded⟩

theorem toggleInputForwarding_guarded (guarded : c.CaptureGuarded) :
    (toggleInputForwarding p).Keeps CaptureGuarded c := by
  unfold toggleInputForwarding
  simp at *
  grind

theorem setAudio_guarded {choice : AudioChoice} (guarded : c.CaptureGuarded) :
    (setAudio p choice).Keeps CaptureGuarded c := by
  unfold setAudio commitAudioRoute
  cases asked : c.requestedSource choice <;> simp [asked] at * <;> grind

theorem disconnect_guarded (guarded : c.CaptureGuarded) :
    disconnect.Keeps CaptureGuarded c := by
  unfold disconnect pause
  simp at *
  grind

theorem reconnect_guarded (guarded : c.CaptureGuarded) :
    (reconnect p).Keeps CaptureGuarded c := by
  unfold reconnect
  simp at *
  grind

theorem tray_guarded {command : TrayCommand} (guarded : c.CaptureGuarded)
    (coordinated : c.core.Coordinated) : (tray p command).Keeps CaptureGuarded c := by
  cases command with
  | disconnect => exact disconnect_guarded guarded
  | reconnect => exact reconnect_guarded guarded
  | toggleInputForwarding => exact toggleInputForwarding_guarded guarded
  | setAudio choice => exact setAudio_guarded guarded
  | setController choice => exact setController_guarded guarded coordinated
  | quit => exact nofun

theorem returnRelease_guarded {edge : Edge} {position : UInt32} (guarded : c.CaptureGuarded) :
    (returnRelease edge position).Keeps CaptureGuarded c := by
  unfold returnRelease
  simp at *
  grind

theorem recoverLiveness_guarded (guarded : c.CaptureGuarded) :
    (recoverLiveness p).Keeps (fun t => t.CaptureGuarded ∧ t.core = c.core ∧
      t.capture.isSome = c.capture.isSome) c := by
  unfold recoverLiveness
  simp [core] at *
  grind

theorem onInput_guarded {epoch : Nat} {event : InputEvent} (guarded : c.CaptureGuarded) :
    (onInput p epoch event).Keeps CaptureGuarded c := by
  unfold onInput
  simp at *
  grind

theorem onControl_guarded {epoch : Nat} {event : ControlEvent} (guarded : c.CaptureGuarded)
    (allowed : c.armsUnguarded p (.frame (.control epoch event)) = false) :
    (onControl p epoch event).Keeps CaptureGuarded c := by
  unfold onControl onSetInputForwarding
  rcases event with _ | _ | _ | (_ | _)
  case setInputForwarding.true =>
    cases waiting : c.coordinator.pending <;> simp [armsUnguarded, waiting] at * <;> grind
  all_goals
    simp at *
    grind

theorem onReady_guarded {epoch : Nat} {captureReady injectReady : Bool} {detail : Option String}
    (guarded : c.CaptureGuarded) :
    (onReady p epoch captureReady injectReady detail).Keeps CaptureGuarded c := by
  unfold onReady applyCommit applyAbort
  cases waiting : c.pendingReadiness with
  | none => simpa [waiting] using guarded
  | some localReady =>
    simp only [Keeps, wp_bind, wp_read, waiting]
    rcases finished : c.coordinator.finishReady epoch localReady.captureReady
        localReady.injectReady captureReady injectReady
        (detail.orElse fun _ => localReady.failureDetail) with error | ⟨decision, coordinator⟩
    · cases error <;> simp at * <;> grind
    · obtain ⟨pending, found, rfl, ⟨-, -, -, -, rfl, rfl⟩ | ⟨-, failure, rfl, rfl⟩⟩ :=
        RoleCoordinator.finishReady_eq_ok finished
      all_goals
        simp [PendingRole.committed] at *
        grind

theorem onSetPaused_guarded {paused : Bool} (guarded : c.CaptureGuarded) :
    (onSetPaused p paused).Keeps CaptureGuarded c := by
  unfold onSetPaused pause
  cases paused <;> simp at * <;> grind

theorem onApplied_guarded {epoch : Nat} (guarded : c.CaptureGuarded) :
    (onApplied p epoch).Keeps CaptureGuarded c := by
  unfold onApplied
  rcases waiting : c.pendingRolePersistence with _ | ⟨_, _⟩ <;> simp [waiting] at * <;> grind

theorem onAudio_guarded {control : AudioControl} (guarded : c.CaptureGuarded) :
    (onAudio p control).Keeps CaptureGuarded c := by
  unfold onAudio onOffer onStart commitAudioRoute
  cases control <;> cases p.receiverStart <;> simp at * <;> grind

end Handlers

theorem onRequest_guarded {requested : String} (guarded : c.CaptureGuarded)
    (coordinated : c.core.Coordinated) : (onRequest p requested).Keeps CaptureGuarded c := by
  unfold onRequest Keeps
  simp only [wp_bind, wp_read, wp_ite, wp_pure]
  exact ⟨fun _ => beginRoleSwitch_guarded guarded coordinated, fun _ _ _ => guarded⟩

theorem onRole_guarded {event : RoleEvent} (guarded : c.CaptureGuarded)
    (coordinated : c.core.Coordinated) : (onRole p event).Keeps CaptureGuarded c := by
  cases event with
  | request requested => exact onRequest_guarded guarded coordinated
  | ready epoch captureReady injectReady detail => exact onReady_guarded guarded
  | applied epoch => exact onApplied_guarded guarded
  | setPaused paused => exact onSetPaused_guarded guarded
  | sessionState state | prepare state | commit state | abort state => exact fun _ _ => guarded

theorem onFrame_guarded {frame : Frame} (guarded : c.CaptureGuarded)
    (coordinated : c.core.Coordinated) (allowed : c.armsUnguarded p (.frame frame) = false) :
    (onFrame p frame).Keeps CaptureGuarded c := by
  refine (recoverLiveness_guarded guarded).bind ?_
  rintro - t ⟨guarded, same, backend⟩
  have coordinated : t.core.Coordinated := same ▸ coordinated
  have committed : t.roleEpoch = c.roleEpoch := congrArg (·.roleEpoch) same
  have controls : t.localIsController = c.localIsController :=
    congrArg (·.localIsController) same
  have paused : t.sessionPaused = c.sessionPaused := congrArg (·.sessionPaused) same
  have coordinator : t.coordinator = c.coordinator := congrArg (·.coordinator) same
  cases frame with
  | input epoch event => exact onInput_guarded guarded
  | control epoch event =>
    refine onControl_guarded guarded ?_
    rw [← allowed]
    rcases event with _ | _ | _ | (_ | _) <;>
      simp [armsUnguarded, committed, controls, paused, coordinator, backend]
  | role event => exact onRole_guarded guarded coordinated
  | audio control => exact onAudio_guarded guarded
  | error code message => exact nofun
  | other => exact fun _ _ => guarded

/-- What one turn keeps, away from the unguarded place. -/
theorem handle_guarded {event : ConnectorEvent} (guarded : c.CaptureGuarded)
    (coordinated : c.core.Coordinated) (allowed : c.armsUnguarded p event = false) :
    (handle p event).Keeps CaptureGuarded c := by
  cases event with
  | replaced | closed => exact nofun
  | watchdog passed liveness senderFinished failure =>
    exact (expireTransition_guarded guarded).bind fun _ _ guarded =>
      (pollLiveness_guarded guarded).bind fun _ _ guarded => reapAudio_guarded guarded
  | heartbeat | audioTask index failure | audioTaskCancelled index => exact fun _ _ => guarded
  | captureDisarmed =>
    intro _ _
    simp [CaptureGuarded, handle, releaseAndDisarm, update]
  | capture event => exact captureEvent_guarded guarded
  | audioStarted => exact audioStarted_guarded guarded
  | tray command => exact tray_guarded guarded coordinated
  | returnRelease edge position => exact returnRelease_guarded guarded
  | frame frame => exact onFrame_guarded guarded coordinated allowed

end Connector

/-! ## The listener -/

namespace Listener

/-- An armed capture belongs to the committed controller of an enabled, unpaused session with no
    handover prepared. -/
def CaptureGuarded (l : Listener) : Prop :=
  isArmed l.capture = true → l.mayCapture = true ∧ l.preparedRole = none

/-- The places that arm without the whole guard: `Reconnect` and the frames do not look at the
    prepared handover, the toggle and `SetInputForwarding` not at the pause, `SetPaused` not at
    the forwarding, and a `SessionState` that pauses leaves an armed capture armed. -/
def armsUnguarded (p : Platform) (l : Listener) : ListenerEvent → Bool
  | .tray .reconnect =>
    l.setup.controllerSupportsRoleSwitch && l.localIsController && l.inputForwardingEnabled &&
      l.preparedRole.isSome && l.capture.isSome && p.arm.isNone
  | .tray .toggleInputForwarding =>
    l.preparedRole.isNone && !l.inputForwardingEnabled && l.localIsController &&
      l.sessionPaused && l.capture.isSome && p.arm.isNone
  | .frame (.control epoch (.setInputForwarding true)) =>
    epoch = l.roleEpoch && l.setup.controllerSupportsInputToggle && l.localIsController &&
      (l.sessionPaused || l.preparedRole.isSome) && l.capture.isSome && p.arm.isNone
  | .frame (.role (.setPaused false)) =>
    l.localIsController && (!l.inputForwardingEnabled || l.preparedRole.isSome) &&
      l.capture.isSome && p.arm.isNone
  | .frame (.role (.sessionState state)) =>
    state.paused && state.controllerFingerprint = some l.setup.localFingerprint &&
      isArmed l.capture
  | _ => false

variable {l : Listener} {p : Platform}

section Handlers

attribute [local simp] Keeps CaptureGuarded mayCapture

theorem expireRequest_guarded {passed : Bool} (guarded : l.CaptureGuarded) :
    (expireRequest p passed).Keeps CaptureGuarded l := by
  unfold expireRequest
  simp at *
  grind

theorem pollLiveness_guarded {liveness : Option LivenessEvent} (guarded : l.CaptureGuarded) :
    (pollLiveness liveness).Keeps CaptureGuarded l := by
  unfold pollLiveness
  rcases liveness with _ | _ | _ <;> simp at * <;> grind

theorem reapAudio_guarded {senderFinished : Bool} {failure : Option String}
    (guarded : l.CaptureGuarded) : (reapAudio senderFinished failure).Keeps CaptureGuarded l := by
  unfold reapAudio
  cases failure <;> simp at * <;> grind

theorem captureEvent_guarded {event : Option CaptureEvent} (guarded : l.CaptureGuarded) :
    (captureEvent p event).Keeps CaptureGuarded l := by
  unfold captureEvent
  rcases event with _ | _ | _ | _ | _ | _ | _
  case some.layoutChanged =>
    cases waiting : l.preparedRole <;> simp [waiting] at * <;> grind
  all_goals
    simp at *
    grind

theorem audioStarted_guarded (guarded : l.CaptureGuarded) :
    audioStarted.Keeps CaptureGuarded l := by
  unfold audioStarted
  rcases taken : l.audio.takeResult with _ | ⟨_, _ | _⟩ <;> simp [taken] at * <;> grind

theorem tray_guarded {command : TrayCommand} (guarded : l.CaptureGuarded)
    (allowed : l.armsUnguarded p (.tray command) = false) :
    (tray p command).Keeps CaptureGuarded l := by
  unfold tray disconnect reconnect toggleInputForwarding setAudio setController
  cases command with
  | disconnect | quit =>
    simp at *
  | reconnect =>
    cases waiting : l.preparedRole <;> simp [armsUnguarded, waiting] at * <;> grind
  | toggleInputForwarding =>
    cases enabled : l.inputForwardingEnabled <;> cases paused : l.sessionPaused <;>
      simp [armsUnguarded, enabled, paused] at * <;> grind
  | setController choice =>
    simp at *
    grind
  | setAudio choice =>
    rcases choice with _ | _ | _
    · simp at *
      grind
    · by_cases plays : l.setup.controllerSupportsAudioPlayback <;> simp [plays] at * <;> grind
    · by_cases captures : l.setup.controllerSupportsAudioCapture = true ∧
        l.setup.controllerSupportsAudioRoute = true <;> simp [captures] at * <;> grind

theorem returnRelease_guarded {edge : Edge} {position : UInt32} (guarded : l.CaptureGuarded) :
    (returnRelease edge position).Keeps CaptureGuarded l := by
  unfold returnRelease
  simp at *
  grind

theorem onInput_guarded {epoch : Nat} {event : InputEvent} (guarded : l.CaptureGuarded) :
    (onInput p epoch event).Keeps CaptureGuarded l := by
  unfold onInput
  simp at *
  grind

theorem onControl_guarded {epoch : Nat} {event : ControlEvent} (guarded : l.CaptureGuarded)
    (allowed : l.armsUnguarded p (.frame (.control epoch event)) = false) :
    (onControl p epoch event).Keeps CaptureGuarded l := by
  unfold onControl onSetInputForwarding
  rcases event with _ | _ | _ | (_ | _)
  case setInputForwarding.true =>
    cases waiting : l.preparedRole <;> cases paused : l.sessionPaused <;>
      simp [armsUnguarded, waiting, paused] at * <;> grind
  all_goals
    simp at *
    grind

/-- An assignment arms the capture of the controller, or leaves an armed one armed. -/
theorem armed_assignedCapture (armed : isArmed (l.assignedCapture p) = true) :
    l.localIsController = true ∧ (l.mayCapture = true ∨ isArmed l.capture = true) := by
  unfold assignedCapture at armed
  split at armed
  · rename_i controls
    split at armed
    · simp at armed
    · split at armed
      · exact ⟨controls, .inl ‹_›⟩
      · exact ⟨controls, .inr (by simpa using armed)⟩
  · simp at armed

theorem onSessionState_guarded {state : RoleState} (guarded : l.CaptureGuarded)
    (allowed : l.armsUnguarded p (.frame (.role (.sessionState state))) = false) :
    (onSessionState p state).Keeps CaptureGuarded l := by
  have armed := armed_assignedCapture (p := p) (l := { l with
    roleEpoch := state.roleEpoch, sessionPaused := state.paused
    localIsController := state.controllerFingerprint = some l.setup.localFingerprint })
  unfold onSessionState
  simp [armsUnguarded] at *
  generalize isArmed (assignedCapture p _) = arms at *
  cases named : state.controllerFingerprint <;> cases paused : state.paused <;>
    simp [named, paused] at * <;> grind

theorem onPrepare_guarded {prepare : RoleState} (guarded : l.CaptureGuarded) :
    (onPrepare p prepare).Keeps CaptureGuarded l := by
  unfold onPrepare
  cases valid : validatePrepare l.currentRoleState prepare l.setup.controllerFingerprint
      l.setup.localFingerprint <;> simp [valid] at * <;> grind

theorem onCommit_guarded {commit : RoleState} (guarded : l.CaptureGuarded) :
    (onCommit p commit).Keeps CaptureGuarded l := by
  unfold onCommit
  cases waiting : l.preparedRole with
  | none => simp [waiting]
  | some prepared =>
    rcases valid : validateCommit prepared commit with error | _
    · simpa [waiting, valid] using guarded
    · cases named : commit.controllerFingerprint with
      | none => simp [waiting, valid]
      | some controller =>
        simp [waiting, valid, named] at *
        generalize arming : (_ && l.capture.isSome) = arms
        cases arms <;> cases p.arm <;> simp at * <;> grind

theorem onAbort_guarded {abort : RoleState} (guarded : l.CaptureGuarded) :
    (onAbort p abort).Keeps CaptureGuarded l := by
  unfold onAbort
  simp at *
  grind

theorem onSetPaused_guarded {paused : Bool} (guarded : l.CaptureGuarded)
    (allowed : l.armsUnguarded p (.frame (.role (.setPaused paused))) = false) :
    (onSetPaused p paused).Keeps CaptureGuarded l := by
  unfold onSetPaused
  cases paused <;> cases waiting : l.preparedRole <;> simp [armsUnguarded, waiting] at * <;> grind

theorem onAudio_guarded {control : AudioControl} (guarded : l.CaptureGuarded) :
    (onAudio p control).Keeps CaptureGuarded l := by
  unfold onAudio onOffer onStart onSetRoute
  cases control <;> cases p.receiverStart <;> simp at * <;> grind

end Handlers

/-- What one turn keeps, away from the unguarded places. -/
theorem handle_guarded {event : ListenerEvent} (guarded : l.CaptureGuarded)
    (allowed : l.armsUnguarded p event = false) : (handle p event).Keeps CaptureGuarded l := by
  cases event with
  | watchdog passed liveness =>
    exact (expireRequest_guarded guarded).bind fun _ _ guarded => pollLiveness_guarded guarded
  | capture event => exact captureEvent_guarded guarded
  | captureDisarmed =>
    intro _ _
    simp [CaptureGuarded, handle, releaseAndDisarm, update]
  | heartbeat | audioTask index failure | audioTaskCancelled index => exact fun _ _ => guarded
  | statusLog senderFinished failure => exact reapAudio_guarded guarded
  | audioStarted => exact audioStarted_guarded guarded
  | replaced | closed => exact nofun
  | tray command => exact tray_guarded guarded allowed
  | returnRelease edge position => exact returnRelease_guarded guarded
  | frame frame =>
    cases frame with
    | input epoch event => exact onInput_guarded guarded
    | control epoch event => exact onControl_guarded guarded allowed
    | role event =>
      cases event with
      | sessionState state => exact onSessionState_guarded guarded allowed
      | prepare prepare => exact onPrepare_guarded guarded
      | commit commit => exact onCommit_guarded guarded
      | abort abort => exact onAbort_guarded guarded
      | setPaused paused => exact onSetPaused_guarded guarded allowed
      | request _ | ready _ _ _ _ | applied _ => exact fun _ _ => guarded
    | audio control => exact onAudio_guarded guarded
    | error _ _ | other => exact fun _ _ => guarded

end Listener

/-! ## Whole runs -/

theorem Connector.armed_initialCapture {p : Platform} {c : Connector}
    (disarmed : isArmed c.capture = false) (armed : isArmed (c.initialCapture p) = true) :
    c.mayCapture = true := by
  unfold initialCapture at armed
  split at armed
  · split at armed
    · simp at armed
    · split at armed
      · assumption
      · simp [disarmed] at armed
  · simp [disarmed] at armed

theorem Connector.start_guarded {p : Platform} {c : Connector}
    (disarmed : isArmed c.capture = false) (free : c.coordinator.isTransitioning = false) :
    (start p).Keeps CaptureGuarded c := by
  have guarded : ({ c with capture := c.initialCapture p } : Connector).CaptureGuarded :=
    fun armed => ⟨armed_initialCapture (c := c) disarmed armed, free⟩
  unfold start
  simp [Keeps]
  exact ⟨fun _ _ _ => guarded, fun _ => guarded⟩

theorem Connector.Started.guarded {c : Connector} (started : c.Started) : c.CaptureGuarded := by
  obtain ⟨setup, state, capture, source, p, first, disarmed, made, result, rfl⟩ := started
  have fresh := initial_eq_ok made
  subst fresh
  exact start_guarded (p := p) disarmed rfl () result

/-- In runs that avoid the unguarded places, an armed capture belongs to the committed controller,
    forwarding is enabled, the session is not paused, and no handover is under way. -/
theorem capture_armed_only_by_controller {start c : Connector} {start' l : Listener} :
    (start.Started →
      Connector.loop.Run (fun c action => c.armsUnguarded action.1 action.2 = false) start c →
      isArmed c.capture = true → c.localIsController = true ∧ c.inputForwardingEnabled = true ∧
        c.sessionPaused = false ∧ c.coordinator.pending = none) ∧
    (start'.Started →
      Listener.loop.Run (fun l action => l.armsUnguarded action.1 action.2 = false) start' l →
      isArmed l.capture = true → l.localIsController = true ∧ l.inputForwardingEnabled = true ∧
        l.sessionPaused = false ∧ l.preparedRole = none) := by
  constructor
  · intro started run armed
    have inv : c.core.Coordinated ∧ c.CaptureGuarded := by
      refine run.invariant (I := fun c => c.core.Coordinated ∧ c.CaptureGuarded) ?_
        ⟨started.coordinated, started.guarded⟩
      rintro c ⟨p, event⟩ t allowed executed ⟨coordinated, guarded⟩
      exact ⟨(Connector.exec_turned executed).coordinated coordinated,
        (Connector.handle_guarded guarded coordinated allowed).exec executed⟩
    simpa [Connector.mayCapture, and_assoc] using inv.2 armed
  · intro started run armed
    have inv : l.CaptureGuarded := by
      refine run.invariant (I := Listener.CaptureGuarded) ?_ ?_
      · rintro l ⟨p, event⟩ t allowed executed guarded
        exact (Listener.handle_guarded guarded allowed).exec executed
      · obtain ⟨setup, capture, disarmed, rfl⟩ := started
        exact fun armed => absurd armed (by simp [Listener.initial, disarmed])
    simpa [Listener.mayCapture, and_assoc] using inv armed

/-- A session in which the listener is told to control, switches the forwarding off and on, and
    in between pauses. -/
def samplePausedToggle : List (Platform × ListenerEvent) :=
  [({}, .frame (.role (.sessionState (sampleRoleState "listener")))),
    ({}, .tray .toggleInputForwarding), ({}, .tray .disconnect), ({}, .tray .toggleInputForwarding)]

/-- The second toggle arms the capture of the paused session. -/
theorem capture_armed_while_paused :
    sampleListener.Started ∧
    Listener.loop.Run Machine.anyAction sampleListener
      (Listener.loop.reach sampleListener samplePausedToggle) ∧
    isArmed (Listener.loop.reach sampleListener samplePausedToggle).capture = true ∧
    (Listener.loop.reach sampleListener samplePausedToggle).sessionPaused = true :=
  ⟨sampleListener_started, run_reach _ (by decide +kernel), by decide +kernel, by decide +kernel⟩

/-- The listener resumes before it switches the forwarding on again. -/
def sampleResumedToggle : List (Platform × ListenerEvent) :=
  [({}, .frame (.role (.sessionState (sampleRoleState "listener")))),
    ({}, .tray .toggleInputForwarding), ({}, .tray .disconnect), ({}, .tray .reconnect),
    ({}, .tray .toggleInputForwarding)]

def samplePause : List (Platform × ConnectorEvent) :=
  [({}, .tray .disconnect), ({}, .tray .reconnect)]

theorem capture_armed_only_by_controller_sample :
    ((Connector.loop.reach sampleConnector samplePause).localIsController = true ∧
      (Connector.loop.reach sampleConnector samplePause).inputForwardingEnabled = true ∧
      (Connector.loop.reach sampleConnector samplePause).sessionPaused = false ∧
      (Connector.loop.reach sampleConnector samplePause).coordinator.pending = none) ∧
    ((Listener.loop.reach sampleListener sampleResumedToggle).localIsController = true ∧
      (Listener.loop.reach sampleListener sampleResumedToggle).inputForwardingEnabled = true ∧
      (Listener.loop.reach sampleListener sampleResumedToggle).sessionPaused = false ∧
      (Listener.loop.reach sampleListener sampleResumedToggle).preparedRole = none) :=
  have guarded := capture_armed_only_by_controller
    (c := Connector.loop.reach sampleConnector samplePause)
    (l := Listener.loop.reach sampleListener sampleResumedToggle)
  ⟨guarded.1 sampleConnector_started
      (run_reach_of_allowedList (fun c action => !c.armsUnguarded action.1 action.2)
        (by simp) samplePause (by decide +kernel) (by decide +kernel)) (by decide +kernel),
    guarded.2 sampleListener_started
      (run_reach_of_allowedList (fun l action => !l.armsUnguarded action.1 action.2)
        (by simp) sampleResumedToggle (by decide +kernel) (by decide +kernel))
      (by decide +kernel)⟩

end EdgeKvm.Session
