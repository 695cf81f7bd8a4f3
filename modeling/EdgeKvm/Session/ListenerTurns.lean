import EdgeKvm.Session.Listener

/-!
# What one turn of the listener's loop does

`ListenerCore` holds the role, pause and forwarding variables, and `ListenerCore.Turned` lists
everything a turn can do to them, with the signals it sends and the events it injects.
`Listener.turned` proves that every turn of the loop is in the list.
-/

namespace EdgeKvm.Session

open EdgeKvm.Lib Handler

/-- The role, pause and forwarding variables of the listener's loop. -/
structure ListenerCore where
  setup : ListenerSetup
  inputEpoch : InputEpochGate
  inputForwardingEnabled : Bool
  sessionPaused : Bool
  roleEpoch : Nat
  currentRoleState : RoleState
  localIsController : Bool
  preparedRole : Option RoleState

namespace ListenerCore

/-- The frames a turn may pass over, of those that carry a decision of the connector. -/
def MayIgnore (k : ListenerCore) : ListenerEvent → Prop
  | .frame (.control epoch (.setInputForwarding _)) =>
    epoch ≠ k.roleEpoch ∨ k.setup.controllerSupportsInputToggle = false
  | .frame (.role (.prepare prepare)) =>
    validatePrepare k.currentRoleState prepare k.setup.controllerFingerprint
      k.setup.localFingerprint ≠ .ok ()
  | .frame (.role (.commit commit)) =>
    ∃ prepared, k.preparedRole = some prepared ∧ validateCommit prepared commit ≠ .ok ()
  | .frame (.role (.abort abort)) =>
    ¬ (k.preparedRole.isSome ∧ abort.roleEpoch = k.currentRoleState.roleEpoch ∧
      abort.controllerFingerprint = k.currentRoleState.controllerFingerprint)
  | .frame (.role (.setPaused _)) | .frame (.role (.sessionState _)) => False
  | _ => True

/-- The frames that cannot end the session before they are applied. -/
def MayLeave (k : ListenerCore) : ListenerEvent → Prop
  | .frame (.role (.commit commit)) =>
    k.preparedRole = none ∨ commit.controllerFingerprint = none
  | _ => True

/-- The gate after a turn that suspends it only where the node is `released`. -/
def GateAfter (k : ListenerCore) (released : Prop) (result : Except SessionExit Unit)
    (gate : InputEpochGate) : Prop :=
  gate.suspended = true ∨ (gate = k.inputEpoch ∧ (result = .ok () → ¬ released))

/-- What a turn on `event` does to the variables `k`. -/
inductive Turned (k : ListenerCore) (released : Prop) (event : ListenerEvent)
    (result : Except SessionExit Unit) (k' : ListenerCore) (out : List Effect) : Prop
  /-- Nothing changes, except that the gate may be suspended. -/
  | idle (gate : InputEpochGate) (after : k.GateAfter released result gate)
      (ignored : k.MayIgnore event) (core : k' = { k with inputEpoch := gate })
      (silent : signals out = []) (still : injected out = [])
  /-- The turn ends the session. -/
  | left (ended : result ≠ .ok ()) (allowed : k.MayLeave event)
      (silent : signals out = []) (still : injected out = [])
  /-- An input event of the committed epoch goes to the injector. -/
  | injected (input : InputEvent) (received : event = .frame (.input k.roleEpoch input))
      (receives : k.localIsController = false ∧ k.inputForwardingEnabled = true ∧
        k.sessionPaused = false ∧ k.inputEpoch.acceptsInput = true)
      (core : k' = k) (effects : out = [.inject input])
  /-- The peer's pointer enters. -/
  | entered (edge : Edge) (position : UInt32)
      (received : event = .frame (.control k.roleEpoch (.enterRemote edge position)))
      (receives : k.localIsController = false)
      (core : k' = { k with inputEpoch := { suspended := false } })
      (silent : signals out = []) (still : injected out = [])
  /-- The user switches the forwarding. -/
  | toggled (command : event = .tray .toggleInputForwarding) (free : k.preparedRole = none)
      (core : k' = { k with inputForwardingEnabled := !k.inputForwardingEnabled })
      (sends : signals out =
        if k.setup.controllerSupportsInputToggle then
          [.control k.roleEpoch (.setInputForwarding (!k.inputForwardingEnabled))]
        else [])
      (still : injected out = [])
  /-- The connector switches the forwarding. -/
  | forwarded (enabled : Bool)
      (received : event = .frame (.control k.roleEpoch (.setInputForwarding enabled)))
      (gate : InputEpochGate)
      (after : gate.suspended = true ∨ (gate = k.inputEpoch ∧ enabled = true))
      (core : k' = { k with inputForwardingEnabled := enabled, inputEpoch := gate })
      (silent : signals out = []) (still : injected out = [])
  /-- The user pauses or resumes; the gate stays. -/
  | paused (paused : Bool) (command : event = .tray (if paused then .disconnect else .reconnect))
      (supported : k.setup.controllerSupportsRoleSwitch = true)
      (core : k' = { k with sessionPaused := paused })
      (sends : signals out = [.role (.setPaused paused)]) (still : injected out = [])
  /-- The connector pauses or resumes. -/
  | pausedByPeer (paused : Bool) (received : event = .frame (.role (.setPaused paused)))
      (gate : InputEpochGate)
      (after : gate.suspended = true ∨ (gate = k.inputEpoch ∧ paused = false))
      (core : k' = { k with sessionPaused := paused, inputEpoch := gate })
      (silent : signals out = []) (still : injected out = [])
  /-- The connector states the assignment. -/
  | session (state : RoleState) (received : event = .frame (.role (.sessionState state)))
      (gate : InputEpochGate)
      (after : gate.suspended = true ∨
        (gate = k.inputEpoch ∧ state.paused = false ∧ state.controllerFingerprint.isSome))
      (core : k' = { k with
        inputEpoch := gate, sessionPaused := state.paused, roleEpoch := state.roleEpoch
        currentRoleState := state
        localIsController := state.controllerFingerprint = some k.setup.localFingerprint
        preparedRole := none })
      (silent : signals out = []) (still : injected out = [])
  /-- The handover deadline passes. -/
  | expired (passes : ∃ liveness, event = .watchdog true liveness)
      (gate : InputEpochGate) (after : k.GateAfter released result gate)
      (core : k' = { k with preparedRole := none, inputEpoch := gate })
      (silent : signals out = []) (still : injected out = [])
  /-- A layout change makes the prepared handover impossible. -/
  | dropped (event_eq : event = .capture (some .layoutChanged)) (prepared : RoleState)
      (waiting : k.preparedRole = some prepared) (detail : Option String)
      (core : k' = { k with preparedRole := none })
      (sends : signals out = [.role (.ready prepared.roleEpoch false true detail)])
      (still : injected out = [])
  /-- A handover is refused. -/
  | refused (prepare : RoleState) (received : event = .frame (.role (.prepare prepare)))
      (unable : k.sessionPaused = true ∨ k.setup.roleSwitchAvailable = false)
      (detail : Option String) (core : k' = k)
      (sends : signals out = [.role (.ready prepare.roleEpoch false false detail)])
      (still : injected out = [])
  /-- A handover is prepared. -/
  | prepared (prepare : RoleState) (received : event = .frame (.role (.prepare prepare)))
      (valid : validatePrepare k.currentRoleState prepare k.setup.controllerFingerprint
        k.setup.localFingerprint = .ok ())
      (gate : InputEpochGate)
      (after : gate.suspended = true ∨ (gate = k.inputEpoch ∧ k.localIsController = true))
      (captureReady : Bool) (detail : Option String)
      (core : k' = { k with preparedRole := some prepare, inputEpoch := gate })
      (sends : signals out = [.role (.ready prepare.roleEpoch captureReady true detail)])
      (still : injected out = [])
  /-- The prepared handover is committed. -/
  | committed (prepared commit : RoleState) (controller : String)
      (received : event = .frame (.role (.commit commit)))
      (waiting : k.preparedRole = some prepared) (valid : validateCommit prepared commit = .ok ())
      (named : commit.controllerFingerprint = some controller)
      (core : k' = { k with
        roleEpoch := commit.roleEpoch, currentRoleState := commit
        localIsController := controller = k.setup.localFingerprint, preparedRole := none
        inputEpoch := k.inputEpoch.suspend })
      (silent : signals out = []) (still : injected out = [])
  /-- The prepared handover is given up. -/
  | aborted (abort : RoleState) (received : event = .frame (.role (.abort abort)))
      (core : k' = { k with preparedRole := none })
      (silent : signals out = []) (still : injected out = [])

/-- The setup of a session stays. -/
theorem Turned.setup_eq {k k' : ListenerCore} {released : Prop} {event : ListenerEvent}
    {out : List Effect} (turned : k.Turned released event (.ok ()) k' out) :
    k'.setup = k.setup := by
  cases turned with
  | left ended => exact absurd rfl ended
  | idle _ _ _ core | injected _ _ _ core | entered _ _ _ _ core | toggled _ _ core
  | forwarded _ _ _ _ core | paused _ _ _ core | pausedByPeer _ _ _ _ core
  | session _ _ _ _ core | expired _ _ _ core | dropped _ _ _ _ core | refused _ _ _ _ core
  | prepared _ _ _ _ _ _ _ core | committed _ _ _ _ _ _ _ core | aborted _ _ core =>
    exact congrArg (·.setup) core

end ListenerCore

namespace Listener

def core (l : Listener) : ListenerCore :=
  { setup := l.setup, inputEpoch := l.inputEpoch
    inputForwardingEnabled := l.inputForwardingEnabled, sessionPaused := l.sessionPaused
    roleEpoch := l.roleEpoch, currentRoleState := l.currentRoleState
    localIsController := l.localIsController, preparedRole := l.preparedRole }

/-- The soft timeout and the return release that make the listener stop. -/
def Releases (l : Listener) : ListenerEvent → Prop
  | .watchdog _ (some .softInputTimeout) =>
    (if l.localIsController then l.captureInputActive else l.inputEpoch.acceptsInput) = true
  | .returnRelease _ _ =>
    l.returnEdge.isSome ∧ l.localIsController = false ∧ l.inputForwardingEnabled = true ∧
      l.sessionPaused = false ∧ l.inputEpoch.acceptsInput = true
  | _ => False

/-- A turn of the loop on `event`, as the list above has it. -/
def Turned (l : Listener) (event : ListenerEvent) (result : Except SessionExit Unit)
    (l' : Listener) (out : List Effect) : Prop :=
  l.core.Turned (l.Releases event) event result l'.core out

/-- A turn that keeps the variables and says nothing about them. -/
def Quiet (l : Listener) (_ : Except SessionExit Unit) (l' : Listener) (out : List Effect) :
    Prop :=
  l'.core = l.core ∧ signals out = [] ∧ injected out = []

variable {l l' : Listener} {p : Platform} {event : ListenerEvent} {out : List Effect}
  {result : Except SessionExit Unit}

theorem Quiet.turned (quiet : l.Quiet result l' out) (calm : ¬ l.Releases event)
    (ignored : l.core.MayIgnore event) : l.Turned event result l' out :=
  .idle l.inputEpoch (.inr ⟨rfl, fun _ => calm⟩) ignored quiet.1 quiet.2.1 quiet.2.2

/-! ## Handlers that keep the variables -/

theorem reapAudio_quiet {senderFinished : Bool} {receiverFailure : Option String} :
    (reapAudio senderFinished receiverFailure).wp l.Quiet l := by
  unfold reapAudio
  cases receiverFailure <;> simp [Quiet, core, Frame.isSignal]

theorem audioStarted_quiet : audioStarted.wp l.Quiet l := by
  unfold audioStarted
  rcases taken : l.audio.takeResult with _ | ⟨audio, _ | control⟩ <;>
    simp [taken, Quiet, core, Frame.isSignal]

theorem captureEvent_quiet {event : Option CaptureEvent} (same : event ≠ some .layoutChanged) :
    (captureEvent p event).wp l.Quiet l := by
  unfold captureEvent
  rcases event with _ | _ | _ | _ | _ | _ | _
  case some.layoutChanged => exact absurd rfl same
  all_goals simp [Quiet, core, Frame.isSignal]

theorem setAudio_quiet {choice : AudioChoice} : (setAudio choice).wp l.Quiet l := by
  unfold setAudio
  rcases choice with _ | _ | _
  · simp [Quiet, core, Frame.isSignal]
  · by_cases plays : l.setup.controllerSupportsAudioPlayback <;>
      simp [plays, Quiet, core, Frame.isSignal]
  · by_cases captures : l.setup.controllerSupportsAudioCapture = true ∧
      l.setup.controllerSupportsAudioRoute = true <;>
      simp [captures, Quiet, core, Frame.isSignal]

theorem onAudio_quiet {control : AudioControl} : (onAudio p control).wp l.Quiet l := by
  unfold onAudio onOffer onStart onSetRoute
  cases control <;> cases p.receiverStart <;> simp [Quiet, core, Frame.isSignal]

/-! ## Handlers that change them -/

theorem layoutChanged_turned :
    (captureEvent p (some .layoutChanged)).wp (l.Turned (.capture (some .layoutChanged))) l := by
  have quiet : ∀ {result l'}, l'.core = l.core →
      l.Turned (.capture (some .layoutChanged)) result l' [] := fun core =>
    Quiet.turned ⟨core, rfl, rfl⟩ id trivial
  unfold captureEvent
  cases waiting : l.preparedRole with
  | none =>
    have same : ∀ {l' : Listener}, l'.core = { l.core with preparedRole := none } →
        l'.core = l.core := fun core => core.trans (by simp [Listener.core, waiting])
    simp [waiting]
    exact ⟨fun _ => quiet rfl, fun _ => ⟨fun _ => ⟨fun _ => quiet (same rfl),
      fun _ _ => quiet (same rfl), fun _ _ _ => quiet (same rfl)⟩, fun _ => quiet (same rfl)⟩⟩
  | some prepared =>
    simp [waiting]
    exact ⟨fun _ => quiet rfl, fun _ => .dropped rfl prepared waiting _ rfl rfl rfl⟩

theorem disconnect_turned : disconnect.wp (l.Turned (.tray .disconnect)) l := by
  unfold disconnect
  simp
  exact ⟨fun supported => .paused true rfl supported rfl rfl rfl,
    fun _ => .left nofun trivial rfl rfl⟩

theorem reconnect_turned : (reconnect p).wp (l.Turned (.tray .reconnect)) l := by
  unfold reconnect
  simp
  refine ⟨fun supported => ?_, fun _ => Quiet.turned ⟨rfl, rfl, rfl⟩ id trivial⟩
  have resumed : ∀ {result l'}, l'.core = { l.core with sessionPaused := false } →
      l.Turned (.tray .reconnect) result l' [.send (.role (.setPaused false))] :=
    fun core => .paused false rfl supported core rfl rfl
  exact ⟨fun _ _ => ⟨fun _ => resumed rfl, fun _ _ => resumed rfl, fun _ _ _ => resumed rfl⟩,
    fun _ => resumed rfl⟩

theorem setController_turned {choice : ControllerChoice} :
    (setController choice).wp (l.Turned (.tray (.setController choice))) l := by
  refine Handler.wp_mono (fun _ _ _ quiet => Quiet.turned quiet id trivial) ?_
  unfold setController
  simp [Quiet, core, Frame.isSignal]

theorem toggleInputForwarding_turned :
    (toggleInputForwarding p).wp (l.Turned (.tray .toggleInputForwarding)) l := by
  have failed : ∀ {exit l'}, l.Turned (.tray .toggleInputForwarding) (.error exit) l' [] :=
    .left nofun trivial rfl rfl
  have toggled : ∀ {l' out} (_ : l.preparedRole = none),
      l'.core = { l.core with inputForwardingEnabled := !l.inputForwardingEnabled } →
      signals out = (if l.setup.controllerSupportsInputToggle then
        [.control l.roleEpoch (.setInputForwarding (!l.inputForwardingEnabled))] else []) →
      Session.injected out = [] → l.Turned (.tray .toggleInputForwarding) (.ok ()) l' out :=
    fun free core sends still => .toggled rfl free core sends still
  unfold toggleInputForwarding
  cases supported : l.setup.controllerSupportsInputToggle <;>
    rw [supported] at toggled <;> simp [supported]
  · refine ⟨fun free => ⟨fun enabled => ?_, fun disabled => ⟨fun _ => ?_, fun _ => ?_⟩⟩,
      fun _ => Quiet.turned ⟨rfl, rfl, rfl⟩ id trivial⟩
    · exact ⟨fun _ => toggled free rfl rfl rfl, fun _ => toggled free rfl rfl rfl⟩
    · exact ⟨fun _ => ⟨fun _ => toggled free rfl rfl rfl, fun _ => toggled free rfl rfl rfl⟩,
        fun _ _ => ⟨fun _ => toggled free rfl rfl rfl, fun _ => toggled free rfl rfl rfl⟩,
        fun _ _ _ => failed⟩
    · exact ⟨fun _ => toggled free rfl rfl rfl, fun _ => toggled free rfl rfl rfl⟩
  · exact ⟨fun free => ⟨fun _ => toggled free rfl rfl rfl,
      fun _ => ⟨fun _ => ⟨fun _ => toggled free rfl rfl rfl, fun _ _ => toggled free rfl rfl rfl,
        fun _ _ _ => failed⟩, fun _ => toggled free rfl rfl rfl⟩⟩,
      fun _ => Quiet.turned ⟨rfl, rfl, rfl⟩ id trivial⟩

theorem returnRelease_turned {edge : Edge} {position : UInt32} :
    (returnRelease edge position).wp (l.Turned (.returnRelease edge position)) l := by
  unfold returnRelease
  simp
  refine ⟨fun _ _ _ _ _ => .idle _ (.inl rfl) trivial rfl rfl rfl,
    fun held => Quiet.turned ⟨rfl, rfl, rfl⟩ ?_ trivial⟩
  rintro ⟨watched, receives, enabled, unpaused, accepts⟩
  exact absurd (held watched receives enabled unpaused) (by simp [accepts])

theorem onInput_turned {epoch : Nat} {input : InputEvent} :
    (onInput p epoch input).wp (l.Turned (.frame (.input epoch input))) l := by
  have quiet : ∀ {result}, l.Turned (.frame (.input epoch input)) result l [] :=
    Quiet.turned ⟨rfl, rfl, rfl⟩ id trivial
  unfold onInput
  simp
  refine ⟨fun committed unpaused receives => ⟨fun _ => ⟨fun _ => quiet, fun _ _ => quiet⟩,
    fun _ => ⟨fun enabled accepts => ?_, fun _ => quiet⟩⟩, fun _ => quiet⟩
  subst committed
  exact ⟨fun _ => .injected input rfl ⟨receives, enabled, unpaused, accepts⟩ rfl rfl,
    fun _ _ => .injected input rfl ⟨receives, enabled, unpaused, accepts⟩ rfl rfl⟩

theorem setInputForwarding_turned {enabled : Bool} :
    (onSetInputForwarding p enabled).wp
      (l.Turned (.frame (.control l.roleEpoch (.setInputForwarding enabled)))) l := by
  unfold onSetInputForwarding
  cases enabled <;> simp
  · exact ⟨fun _ => .forwarded false rfl _ (.inl rfl) rfl rfl rfl,
      fun unsupported => Quiet.turned ⟨rfl, rfl, rfl⟩ id (.inr unsupported)⟩
  · have enabled : ∀ {l'}, l'.core = { l.core with inputForwardingEnabled := true } →
        l.Turned (.frame (.control l.roleEpoch (.setInputForwarding true))) (.ok ()) l' [] :=
      fun core => .forwarded true rfl _ (.inr ⟨rfl, rfl⟩) core rfl rfl
    exact ⟨fun _ => ⟨fun _ => ⟨fun _ => enabled rfl, fun _ _ => enabled rfl,
      fun _ _ _ => .left nofun trivial rfl rfl⟩, fun _ => enabled rfl⟩,
      fun unsupported => Quiet.turned ⟨rfl, rfl, rfl⟩ id (.inr unsupported)⟩

theorem onControl_turned {epoch : Nat} {control : ControlEvent} :
    (onControl p epoch control).wp (l.Turned (.frame (.control epoch control))) l := by
  unfold onControl
  by_cases committed : epoch = l.roleEpoch
  · subst committed
    cases control with
    | setInputForwarding enabled => simpa using setInputForwarding_turned
    | enterRemote edge position =>
      have entered : ∀ {l' out}, l.localIsController = false →
          l'.core = { l.core with inputEpoch := { suspended := false } } →
          signals out = [] → Session.injected out = [] →
          l.Turned (.frame (.control l.roleEpoch (.enterRemote edge position))) (.ok ()) l' out :=
        fun receives core silent still => .entered edge position rfl receives core silent still
      simp [shouldReleaseLegacyController]
      exact ⟨fun _ => Quiet.turned ⟨rfl, rfl, rfl⟩ id trivial,
        fun receives => ⟨fun _ _ => entered receives rfl rfl rfl,
          fun _ => entered receives rfl rfl rfl⟩⟩
    | leaveRemote edge position | releaseToLocal reason =>
      refine Handler.wp_mono (fun _ _ _ quiet => Quiet.turned quiet id trivial) ?_
      simp [Quiet, core, Frame.isSignal, shouldReleaseLegacyController,
        InputEpochGate.observeControl]
  · simp [committed]
    refine Quiet.turned ⟨rfl, rfl, rfl⟩ id ?_
    cases control <;> first | exact .inl committed | trivial

theorem onSetPaused_turned {paused : Bool} :
    (onSetPaused p paused).wp (l.Turned (.frame (.role (.setPaused paused)))) l := by
  unfold onSetPaused
  cases paused <;> simp
  · have resumed : ∀ {result l'}, l'.core = { l.core with sessionPaused := false } →
        l.Turned (.frame (.role (.setPaused false))) result l' [] :=
      fun core => .pausedByPeer false rfl _ (.inr ⟨rfl, rfl⟩) core rfl rfl
    exact ⟨fun _ => ⟨fun _ => resumed rfl, fun _ _ => resumed rfl, fun _ _ _ => resumed rfl⟩,
      fun _ => resumed rfl⟩
  · exact .pausedByPeer true rfl _ (.inl rfl) rfl rfl rfl

theorem onSessionState_turned {state : RoleState} :
    (onSessionState p state).wp (l.Turned (.frame (.role (.sessionState state)))) l := by
  have left : ∀ {exit l'}, l.Turned (.frame (.role (.sessionState state))) (.error exit) l' [] :=
    .left nofun trivial rfl rfl
  have stated : ∀ {l' out gate}, (gate.suspended = true ∨
        (gate = l.inputEpoch ∧ state.paused = false ∧ state.controllerFingerprint.isSome)) →
      l'.core = { l.core with
        inputEpoch := gate, sessionPaused := state.paused, roleEpoch := state.roleEpoch
        currentRoleState := state
        localIsController := state.controllerFingerprint = some l.setup.localFingerprint
        preparedRole := none } →
      signals out = [] → Session.injected out = [] →
      l.Turned (.frame (.role (.sessionState state))) (.ok ()) l' out :=
    fun after core silent still => .session state rfl _ after core silent still
  have gate : ((if state.paused = true ∨ state.controllerFingerprint = none then
      l.inputEpoch.suspend else l.inputEpoch).suspended = true) ∨
      ((if state.paused = true ∨ state.controllerFingerprint = none then
        l.inputEpoch.suspend else l.inputEpoch) = l.inputEpoch ∧ state.paused = false ∧
        state.controllerFingerprint.isSome) := by
    split
    · exact .inl rfl
    · rename_i open'
      exact .inr ⟨rfl, by simpa [Option.isSome_iff_ne_none] using open'⟩
  unfold onSessionState
  simp
  exact ⟨fun _ => left, fun _ => ⟨fun _ => left, fun _ _ =>
    ⟨fun _ => ⟨fun _ => ⟨fun _ _ _ => stated gate rfl rfl rfl, fun _ => stated gate rfl rfl rfl⟩,
        fun _ _ => left⟩,
      fun _ => ⟨fun _ _ _ => stated gate rfl rfl rfl, fun _ => stated gate rfl rfl rfl⟩⟩⟩⟩

theorem onPrepare_turned {prepare : RoleState} :
    (onPrepare p prepare).wp (l.Turned (.frame (.role (.prepare prepare)))) l := by
  have prepared : ∀ {l' out gate captureReady detail},
      validatePrepare l.currentRoleState prepare l.setup.controllerFingerprint
        l.setup.localFingerprint = .ok () →
      (gate.suspended = true ∨ (gate = l.inputEpoch ∧ l.localIsController = true)) →
      l'.core = { l.core with preparedRole := some prepare, inputEpoch := gate } →
      signals out = [.role (.ready prepare.roleEpoch captureReady true detail)] →
      Session.injected out = [] →
      l.Turned (.frame (.role (.prepare prepare))) (.ok ()) l' out :=
    fun valid after core sends still =>
      .prepared prepare rfl valid _ after _ _ core sends still
  unfold onPrepare
  simp only [wp_bind, wp_read, wp_ite, wp_send, List.nil_append]
  refine ⟨fun unable => .refused prepare rfl (by simpa [core] using unable) _ rfl rfl rfl,
    fun able => ?_⟩
  cases valid : validatePrepare l.currentRoleState prepare l.setup.controllerFingerprint
      l.setup.localFingerprint with
  | error error => exact Quiet.turned ⟨rfl, rfl, rfl⟩ id (by simp [ListenerCore.MayIgnore, core, valid])
  | ok value =>
    simp
    exact ⟨fun controls => prepared valid (.inr ⟨rfl, controls⟩) rfl rfl rfl,
      fun _ => prepared valid (.inl rfl) rfl rfl rfl⟩

theorem onAbort_turned {abort : RoleState} :
    (onAbort p abort).wp (l.Turned (.frame (.role (.abort abort)))) l := by
  unfold onAbort
  simp
  have aborted : ∀ {result l'}, l'.core = { l.core with preparedRole := none } →
      l.Turned (.frame (.role (.abort abort))) result l' [] :=
    fun core => .aborted abort rfl core rfl rfl
  refine ⟨fun _ _ _ => ⟨fun _ => ⟨fun _ => aborted rfl, fun _ _ => aborted rfl,
    fun _ _ _ => aborted rfl⟩, fun _ => aborted rfl⟩, fun other => ?_⟩
  refine Quiet.turned ⟨rfl, rfl, rfl⟩ id ?_
  rintro ⟨waiting, epoch, controller⟩
  exact other waiting epoch controller

theorem onCommit_turned {commit : RoleState} :
    (onCommit p commit).wp (l.Turned (.frame (.role (.commit commit)))) l := by
  unfold onCommit
  cases waiting : l.preparedRole with
  | none =>
    simp [waiting]
    exact .left nofun (.inl waiting) rfl rfl
  | some prepared =>
    cases valid : validateCommit prepared commit with
    | error error =>
      simp [waiting, valid]
      exact Quiet.turned ⟨rfl, rfl, rfl⟩ id ⟨prepared, waiting, by simp [valid]⟩
    | ok value =>
      cases named : commit.controllerFingerprint with
      | none =>
        simp [waiting, valid]
        exact .left nofun (.inr named) rfl rfl
      | some controller =>
        have committed : ∀ {result l' out}, l'.core = { l.core with
              roleEpoch := commit.roleEpoch, currentRoleState := commit
              localIsController := controller = l.setup.localFingerprint, preparedRole := none
              inputEpoch := l.inputEpoch.suspend } →
            signals out = [] → Session.injected out = [] →
            l.Turned (.frame (.role (.commit commit))) result l' out :=
          fun core silent still =>
            .committed prepared commit controller rfl waiting valid named core silent still
        simp [waiting, valid]
        generalize (_ && l.capture.isSome) = arms
        cases arms <;> cases p.arm <;> simp
        case true.some =>
          exact ⟨fun _ _ => committed rfl rfl rfl, fun _ => committed rfl rfl rfl⟩
        all_goals exact ⟨fun _ => committed rfl rfl rfl, fun _ _ => committed rfl rfl rfl⟩

/-! ## The branches of the loop -/

theorem onRole_turned {event : RoleEvent} :
    (onRole p event).wp (l.Turned (.frame (.role event))) l := by
  cases event with
  | sessionState state => exact onSessionState_turned
  | prepare prepare => exact onPrepare_turned
  | commit commit => exact onCommit_turned
  | abort abort => exact onAbort_turned
  | setPaused paused => exact onSetPaused_turned
  | request requested | ready epoch captureReady injectReady detail | applied epoch =>
    exact Quiet.turned ⟨rfl, rfl, rfl⟩ id trivial

theorem onFrame_turned {frame : Frame} : (onFrame p frame).wp (l.Turned (.frame frame)) l := by
  cases frame with
  | input epoch event => exact onInput_turned
  | control epoch event => exact onControl_turned
  | role event => exact onRole_turned
  | audio control =>
    exact Handler.wp_mono (fun _ _ _ quiet => Quiet.turned quiet id trivial) onAudio_quiet
  | error code message | other => exact Quiet.turned ⟨rfl, rfl, rfl⟩ id trivial

/-- The handover deadline of a watchdog tick. -/
theorem expireRequest_spec {passed : Bool} :
    (expireRequest p passed).wp (fun result l' out => result = .ok () ∧ out = [] ∧
      l'.captureInputActive = l.captureInputActive ∧
      (l'.core = l.core ∨ (passed = true ∧ l'.core = { l.core with preparedRole := none }))) l := by
  unfold expireRequest
  simp
  exact fun _ passes => .inr ⟨passes, rfl⟩

theorem pollLiveness_spec (passed : Bool) {liveness : Option LivenessEvent} :
    (pollLiveness liveness).wp (fun result l' out =>
      signals out = [] ∧ injected out = [] ∧ ∃ gate,
        l.core.GateAfter (l.Releases (.watchdog passed liveness)) result gate ∧
        l'.core = { l.core with inputEpoch := gate }) l := by
  have same : ∀ {result : Except SessionExit Unit} {released : Prop}, ¬ released →
      l.core.GateAfter released result l.inputEpoch := fun calm => .inr ⟨rfl, fun _ => calm⟩
  unfold pollLiveness
  rcases liveness with _ | _ | _ <;> simp
  · exact ⟨_, same id, rfl⟩
  · refine ⟨fun _ => ⟨rfl, _, .inl rfl, rfl⟩, fun inactive => ⟨_, same ?_, rfl⟩⟩
    unfold Releases
    split at inactive <;> simp_all
  · exact ⟨_, same id, rfl⟩

theorem watchdog_turned {passed : Bool} {liveness : Option LivenessEvent} :
    (handle p (.watchdog passed liveness)).wp (l.Turned (.watchdog passed liveness)) l := by
  refine Handler.wp_seq expireRequest_spec (fun _ _ _ expired => nomatch expired.1) ?_
  rintro - l₁ out ⟨-, rfl, active, checked⟩
  refine Handler.wp_mono ?_ (pollLiveness_spec passed)
  rintro result l₂ rest ⟨silent, still, gate, after, core⟩
  have controls : l₁.localIsController = l.localIsController := by
    rcases checked with same | ⟨-, same⟩ <;> exact congrArg (·.localIsController) same
  have unchanged : l₁.inputEpoch = l.inputEpoch := by
    rcases checked with same | ⟨-, same⟩ <;> exact congrArg (·.inputEpoch) same
  have releases : l₁.Releases (.watchdog passed liveness) =
      l.Releases (.watchdog passed liveness) := by
    rcases liveness with _ | _ | _ <;> simp [Releases, active, controls, unchanged]
  have after : l.core.GateAfter (l.Releases (.watchdog passed liveness)) result gate := by
    rw [releases] at after
    exact Or.imp_right (fun held => ⟨held.1.trans unchanged, held.2⟩) after
  rcases checked with same | ⟨rfl, same⟩
  · exact .idle gate after trivial (core.trans (by rw [same])) silent still
  · exact .expired ⟨liveness, rfl⟩ gate after (core.trans (by rw [same])) silent still

/-- Every turn of the loop is in the list. -/
theorem turned (p : Platform) (l : Listener) (event : ListenerEvent) :
    (handle p event).wp (l.Turned event) l := by
  cases event with
  | watchdog passed liveness => exact watchdog_turned
  | capture event =>
    by_cases layout : event = some .layoutChanged
    · subst layout
      exact layoutChanged_turned
    · exact Handler.wp_mono (fun _ _ _ quiet => Quiet.turned quiet id trivial)
        (captureEvent_quiet layout)
  | captureDisarmed | heartbeat | audioTask index failure | audioTaskCancelled index | replaced
  | closed => exact Quiet.turned ⟨rfl, rfl, rfl⟩ id trivial
  | statusLog senderFinished failure =>
    exact Handler.wp_mono (fun _ _ _ quiet => Quiet.turned quiet id trivial) reapAudio_quiet
  | audioStarted =>
    exact Handler.wp_mono (fun _ _ _ quiet => Quiet.turned quiet id trivial) audioStarted_quiet
  | tray command =>
    cases command with
    | disconnect => exact disconnect_turned
    | reconnect => exact reconnect_turned
    | toggleInputForwarding => exact toggleInputForwarding_turned
    | setAudio choice =>
      exact Handler.wp_mono (fun _ _ _ quiet => Quiet.turned quiet id trivial) setAudio_quiet
    | setController choice => exact setController_turned
    | quit => exact Quiet.turned ⟨rfl, rfl, rfl⟩ id trivial
  | returnRelease edge position => exact returnRelease_turned
  | frame frame => exact onFrame_turned

/-- The listener's loop; what the portal and the file system answer is part of the action. -/
def loop : Machine Listener (Platform × ListenerEvent) :=
  Handler.loop fun action => handle action.1 action.2

/-- A listener whose loop starts, with no capture armed before. -/
def Started (l : Listener) : Prop :=
  ∃ setup capture, isArmed capture = false ∧ initial setup capture = l

theorem exec_turned {t : Listener} (executed : loop.exec l (p, event) = some t) :
    l.Turned event (.ok ()) t (handle p event l).output := by
  obtain ⟨result, state⟩ := exec_loop.mp executed
  have turned := turned p l event
  rwa [Handler.wp, result, state] at turned

end Listener

/-! ## A sample listener -/

def sampleListenerSetup : ListenerSetup :=
  { localFingerprint := "listener", controllerFingerprint := "connector"
    listenerPosition := .right, controllerSupportsInputCapture := true
    controllerSupportsInputInjection := true, controllerSupportsRoleSwitch := true
    controllerSupportsInputToggle := true, controllerSupportsAudioCapture := true
    controllerSupportsAudioPlayback := true, controllerSupportsAudioRoute := true
    audioPort := 40001, jitterTargetMs := 20 }

def sampleListener : Listener := .initial sampleListenerSetup (some {})

theorem sampleListener_started : sampleListener.Started := ⟨_, _, rfl, rfl⟩

end EdgeKvm.Session
