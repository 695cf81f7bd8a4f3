import EdgeKvm.Session.Connector

/-!
# What one turn of the connector's loop does

`ConnectorCore` holds the role, pause and forwarding variables, and `ConnectorCore.Turned` lists
everything a turn can do to them, with the signals it sends and the events it injects.
`Connector.turned` proves that every turn of the loop is in the list; what follows about whole
runs is derived from it.
-/

namespace EdgeKvm.Session

open EdgeKvm.Lib Handler

/-- The role, pause and forwarding variables of the connector's loop. -/
structure ConnectorCore where
  setup : ConnectorSetup
  coordinator : RoleCoordinator
  roleEpoch : Nat
  localIsController : Bool
  sessionPaused : Bool
  inputForwardingEnabled : Bool
  inputEpoch : InputEpochGate
  pendingReadiness : Option ConnectorRoleReadiness

/-- The events that may begin a handover. -/
def ConnectorEvent.beginsSwitch : ConnectorEvent → Bool
  | .tray (.setController _) | .frame (.role (.request _)) => true
  | _ => false

namespace ConnectorCore

/-- The tray command or the frame that pauses or resumes. -/
def Pauses (event : ConnectorEvent) (paused : Bool) : Prop :=
  event = .tray (if paused then .disconnect else .reconnect) ∨
    event = .frame (.role (.setPaused paused))

/-- The events a turn may pass over, of those that decide about pause and forwarding. -/
def MayIgnore (k : ConnectorCore) : ConnectorEvent → Prop
  | .frame (.control epoch (.setInputForwarding _)) => epoch ≠ k.roleEpoch
  | .frame (.role (.setPaused _)) => k.coordinator.pending.isSome
  | _ => True

theorem mayIgnore_of_begins {k : ConnectorCore} {event : ConnectorEvent}
    (begun : event.beginsSwitch = true) : k.MayIgnore event := by
  unfold ConnectorEvent.beginsSwitch at begun
  split at begun
  · trivial
  · trivial
  · cases begun

/-- The gate after a turn that suspends it only where the node is `released`. -/
def GateAfter (k : ConnectorCore) (released : Prop) (result : Except SessionExit Unit)
    (gate : InputEpochGate) : Prop :=
  gate.suspended = true ∨ (gate = k.inputEpoch ∧ (result = .ok () → ¬ released))

/-- What a turn on `event` does to the variables `k`. -/
inductive Turned (k : ConnectorCore) (released : Prop) (event : ConnectorEvent)
    (result : Except SessionExit Unit) (k' : ConnectorCore) (out : List Effect) : Prop
  /-- Nothing changes, except that the gate may be suspended. -/
  | idle (gate : InputEpochGate) (after : k.GateAfter released result gate)
      (ignored : k.MayIgnore event) (core : k' = { k with inputEpoch := gate })
      (silent : signals out = []) (still : injected out = [])
  /-- The turn ends the session; the assignment stays. -/
  | left (ended : result ≠ .ok ()) (epoch : k'.roleEpoch = k.roleEpoch)
      (stable : ∃ paused, k'.coordinator.stable = { k.coordinator.stable with paused })
      (silent : signals out = []) (still : injected out = [])
  /-- An input event of the committed epoch goes to the injector. -/
  | injected (input : InputEvent) (received : event = .frame (.input k.roleEpoch input))
      (receives : k.localIsController = false ∧ k.inputForwardingEnabled = true ∧
        k.sessionPaused = false ∧ k.inputEpoch.acceptsInput = true)
      (core : k' = k) (effects : out = [.inject input])
  /-- The peer's pointer enters. -/
  | entered (edge : Edge) (position : UInt32)
      (received : event = .frame (.control k.roleEpoch (.enterRemote edge position)))
      (receives : k.localIsController = false)
      (core : k' = { k with inputEpoch := { suspended := false } })
      (silent : signals out = []) (still : injected out = [])
  /-- The user switches the forwarding. -/
  | toggled (command : event = .tray .toggleInputForwarding)
      (free : k.sessionPaused = false ∧ k.coordinator.pending = none ∧
        k.coordinator.stable.controllerFingerprint.isSome)
      (core : k' = { k with inputForwardingEnabled := !k.inputForwardingEnabled })
      (sends : signals out = [.control k.roleEpoch (.setInputForwarding (!k.inputForwardingEnabled))])
      (still : injected out = [])
  /-- The peer switches the forwarding. -/
  | forwarded (enabled : Bool)
      (received : event = .frame (.control k.roleEpoch (.setInputForwarding enabled)))
      (gate : InputEpochGate)
      (after : gate.suspended = true ∨
        (gate = k.inputEpoch ∧ (enabled = true ∨ k.localIsController = true)))
      (core : k' = { k with inputForwardingEnabled := enabled, inputEpoch := gate })
      (silent : signals out = []) (still : injected out = [])
  /-- A handover is proposed. -/
  | prepared (requested : String) (prepare : RoleState) (coordinator : RoleCoordinator)
      (readiness : ConnectorRoleReadiness) (begun : event.beginsSwitch = true)
      (proposed : k.coordinator.prepare requested = .ok (prepare, coordinator))
      (core : k' = { k with
        coordinator, inputEpoch := k.inputEpoch.suspend, pendingReadiness := some readiness })
      (sends : signals out = [.role (.prepare prepare)]) (still : injected out = [])
  /-- The pending handover is given up. -/
  | aborted (detail : String) (pending : PendingRole) (ignored : k.MayIgnore event)
      (waiting : k.coordinator.pending = some pending)
      (gate : InputEpochGate) (after : k.GateAfter released result gate)
      (core : k' = { k with
        coordinator := { k.coordinator with stable := pending.previous, pending := none }
        inputEpoch := gate, pendingReadiness := none })
      (sends : signals out =
        [.role (.abort (RoleCoordinator.failedState pending.previous (some detail)))])
      (still : injected out = [])
  /-- The pending handover is committed on a positive readiness of its epoch. -/
  | committed (pending : PendingRole) (waiting : k.coordinator.pending = some pending)
      (detail : Option String)
      (received : event = .frame (.role (.ready pending.proposedEpoch true true detail)))
      (ready : ∃ localReady, k.pendingReadiness = some localReady ∧
        localReady.captureReady = true ∧ localReady.injectReady = true)
      (core : k' = { k with
        coordinator := { k.coordinator with stable := pending.committed, pending := none }
        roleEpoch := pending.proposedEpoch
        localIsController := pending.proposedControllerFingerprint = k.setup.localFingerprint
        inputEpoch := k.inputEpoch.suspend, pendingReadiness := none })
      (sends : signals out = [.role (.commit pending.committed)]) (still : injected out = [])
  /-- The session is paused or resumed. -/
  | paused (paused : Bool) (commanded : Pauses event paused) (free : k.coordinator.pending = none)
      (gate : InputEpochGate)
      (after : gate.suspended = true ∨ (gate = k.inputEpoch ∧ paused = false))
      (core : k' = { k with
        coordinator := { k.coordinator with stable := { k.coordinator.stable with paused } }
        sessionPaused := paused, inputEpoch := gate })
      (sends : signals out = [.role (.setPaused paused)]) (still : injected out = [])

/-- The setup of a session stays. -/
theorem Turned.setup_eq {k k' : ConnectorCore} {released : Prop} {event : ConnectorEvent}
    {out : List Effect} (turned : k.Turned released event (.ok ()) k' out) :
    k'.setup = k.setup := by
  cases turned with
  | left ended => exact absurd rfl ended
  | idle _ _ _ core | injected _ _ _ core | entered _ _ _ _ core | toggled _ _ core
  | forwarded _ _ _ _ core | prepared _ _ _ _ _ _ core | aborted _ _ _ _ _ _ core
  | committed _ _ _ _ _ core | paused _ _ _ _ _ core =>
    exact congrArg (·.setup) core

end ConnectorCore

namespace Connector

def core (c : Connector) : ConnectorCore :=
  { setup := c.setup, coordinator := c.coordinator, roleEpoch := c.roleEpoch
    localIsController := c.localIsController, sessionPaused := c.sessionPaused
    inputForwardingEnabled := c.inputForwardingEnabled, inputEpoch := c.inputEpoch
    pendingReadiness := c.pendingReadiness }

/-- The soft timeout and the return release that make a receiving connector stop. -/
def Releases (c : Connector) : ConnectorEvent → Prop
  | .watchdog _ (some .softInputTimeout) _ _ =>
    c.inputActive = true ∧ ¬ (c.localIsController = true ∧ c.capture.isSome)
  | .returnRelease _ _ =>
    c.returnEdge.isSome ∧ c.localIsController = false ∧ c.inputForwardingEnabled = true ∧
      c.sessionPaused = false ∧ c.inputEpoch.acceptsInput = true
  | _ => False

/-- A turn of the loop on `event`, as the list above has it. -/
def Turned (c : Connector) (event : ConnectorEvent) (result : Except SessionExit Unit)
    (c' : Connector) (out : List Effect) : Prop :=
  c.core.Turned (c.Releases event) event result c'.core out

/-- A turn that keeps the variables and says nothing about them. -/
def Quiet (c : Connector) (_ : Except SessionExit Unit) (c' : Connector) (out : List Effect) :
    Prop :=
  c'.core = c.core ∧ signals out = [] ∧ injected out = []

variable {c c' : Connector} {p : Platform} {event : ConnectorEvent} {out : List Effect}
  {result : Except SessionExit Unit}

theorem Quiet.turned (quiet : c.Quiet result c' out) (calm : ¬ c.Releases event)
    (ignored : c.core.MayIgnore event) : c.Turned event result c' out :=
  .idle c.inputEpoch (.inr ⟨rfl, fun _ => calm⟩) ignored quiet.1 quiet.2.1 quiet.2.2

/-- A turn that ends the session without a word. -/
theorem Quiet.left {exit : SessionExit} (same : c'.core = c.core) :
    c.Turned event (.error exit) c' [] := by
  refine ConnectorCore.Turned.left nofun ?_ ⟨c.coordinator.stable.paused, ?_⟩ rfl rfl <;>
    rw [same]
  rfl

/-! ## Handlers that keep the variables -/

theorem reapAudio_quiet {senderFinished : Bool} {receiverFailure : Option String} :
    (reapAudio senderFinished receiverFailure).wp c.Quiet c := by
  unfold reapAudio
  cases receiverFailure <;> simp [Quiet, core, Frame.isSignal]

theorem audioStarted_quiet : audioStarted.wp c.Quiet c := by
  unfold audioStarted
  rcases taken : c.audio.takeResult with _ | ⟨audio, _ | control⟩ <;>
    simp [taken, Quiet, core, Frame.isSignal]

theorem captureEvent_quiet {event : Option CaptureEvent} (same : event ≠ some .layoutChanged) :
    (captureEvent p event).wp c.Quiet c := by
  unfold captureEvent loseCapture
  rcases event with _ | _ | _ | _ | _ | _ | _
  case some.layoutChanged => exact absurd rfl same
  all_goals simp [Quiet, core, Frame.isSignal]

theorem commitAudioRoute_quiet {source : Option String} :
    (commitAudioRoute p source).wp c.Quiet c := by
  unfold commitAudioRoute
  simp [Quiet, core, Frame.isSignal]

theorem setAudio_quiet {choice : AudioChoice} : (setAudio p choice).wp c.Quiet c := by
  unfold setAudio commitAudioRoute
  cases asked : c.requestedSource choice <;> simp [asked, Quiet, core, Frame.isSignal]

theorem onAudio_quiet {control : AudioControl} : (onAudio p control).wp c.Quiet c := by
  unfold onAudio onOffer onStart commitAudioRoute
  cases control <;> cases p.receiverStart <;> simp [Quiet, core, Frame.isSignal]

theorem onApplied_quiet {epoch : Nat} : (onApplied p epoch).wp c.Quiet c := by
  unfold onApplied
  rcases waiting : c.pendingRolePersistence with _ | ⟨expected, controller⟩ <;>
    simp [waiting, Quiet, core]

theorem recoverLiveness_silent :
    (recoverLiveness p).wp (fun _ c' out => c'.core = c.core ∧ out = []) c := by
  unfold recoverLiveness
  simp [core]

/-! ## Handlers that change them -/

theorem Turned.abort {state : RoleState} {coordinator : RoleCoordinator} {detail : String}
    {gate : InputEpochGate} (given : c.coordinator.abort detail = .ok (state, coordinator))
    (ignored : c.core.MayIgnore event)
    (after : c.core.GateAfter (c.Releases event) result gate)
    (core : c'.core = { c.core with coordinator, inputEpoch := gate, pendingReadiness := none })
    (sends : signals out = [.role (.abort state)]) (still : injected out = []) :
    c.Turned event result c' out := by
  obtain ⟨pending, waiting, rfl, rfl⟩ := RoleCoordinator.abort_eq_ok given
  exact .aborted detail pending ignored waiting gate after core sends still

theorem layoutChanged_turned :
    (captureEvent p (some .layoutChanged)).wp (c.Turned (.capture (some .layoutChanged))) c := by
  have quiet : ∀ {result c'}, c'.core = c.core →
      c.Turned (.capture (some .layoutChanged)) result c' [] := fun core =>
    Quiet.turned ⟨core, rfl, rfl⟩ id trivial
  have aborted : ∀ {result c' state coordinator},
      c.coordinator.abort "monitor layout changed during capture preflight" =
        .ok (state, coordinator) →
      c'.core = { c.core with coordinator, pendingReadiness := none } →
      c.Turned (.capture (some .layoutChanged)) result c' [.send (.role (.abort state))] :=
    fun given core => .abort given trivial (.inr ⟨rfl, fun _ => id⟩) core rfl rfl
  unfold captureEvent
  simp
  exact ⟨fun _ => quiet rfl, fun _ =>
    ⟨fun _ => ⟨fun state coordinator given =>
        ⟨fun _ => ⟨fun _ => aborted given rfl, fun _ _ => aborted given rfl,
          fun _ _ => aborted given rfl⟩, fun _ => aborted given rfl⟩,
        fun _ _ => quiet rfl⟩,
      fun _ => ⟨fun _ => ⟨fun _ => quiet rfl, fun _ _ => quiet rfl, fun _ _ => quiet rfl⟩,
        fun _ => quiet rfl⟩⟩⟩

theorem toggleInputForwarding_turned :
    (toggleInputForwarding p).wp (c.Turned (.tray .toggleInputForwarding)) c := by
  have failed : ∀ {exit c'},
      c'.core = { c.core with inputForwardingEnabled := !c.inputForwardingEnabled } →
      c.Turned (.tray .toggleInputForwarding) (.error exit) c' [] := by
    intro exit c' core
    refine .left nofun ?_ ⟨c.coordinator.stable.paused, ?_⟩ rfl rfl <;> rw [core]
    rfl
  unfold toggleInputForwarding
  simp
  refine ⟨fun unpaused free known => ?_, fun _ => Quiet.turned ⟨rfl, rfl, rfl⟩ id trivial⟩
  have toggled : ∀ {c'},
      c'.core = { c.core with inputForwardingEnabled := !c.inputForwardingEnabled } →
      c.Turned (.tray .toggleInputForwarding) (.ok ()) c'
        [.send (.control c.roleEpoch (.setInputForwarding (!c.inputForwardingEnabled)))] :=
    fun core => .toggled rfl ⟨unpaused, free, known⟩ core rfl rfl
  exact ⟨fun _ => ⟨fun _ => toggled rfl,
    fun _ => ⟨fun _ => failed rfl, fun _ _ => toggled rfl, fun _ _ => failed rfl⟩⟩,
    fun _ => toggled rfl⟩

theorem beginRoleSwitch_turned {requested : String} {event : ConnectorEvent}
    (begun : event.beginsSwitch = true) :
    (beginRoleSwitch p requested).wp (c.Turned event) c := by
  have failed : ∀ {exit c' out}, c'.core = { c.core with inputEpoch := c.inputEpoch.suspend } →
      signals out = [] → injected out = [] → c.Turned event (.error exit) c' out :=
    fun core silent still => .idle _ (.inl rfl) (ConnectorCore.mayIgnore_of_begins begun) core silent still
  unfold beginRoleSwitch
  simp
  exact ⟨fun _ => ⟨fun prepare _ proposed => .prepared requested _ _ _ begun proposed rfl rfl rfl,
      fun _ _ => failed rfl rfl rfl⟩,
    fun _ => ⟨fun prepare _ proposed => .prepared requested _ _ _ begun proposed rfl rfl rfl,
      fun _ _ => failed rfl rfl rfl⟩⟩

theorem setController_turned {choice : ControllerChoice} :
    (setController p choice).wp (c.Turned (.tray (.setController choice))) c := by
  unfold setController
  simp
  exact ⟨fun _ _ _ _ => beginRoleSwitch_turned rfl,
    fun _ => Quiet.turned ⟨rfl, rfl, rfl⟩ id trivial⟩

theorem onRequest_turned {requested : String} :
    (onRequest p requested).wp (c.Turned (.frame (.role (.request requested)))) c := by
  unfold onRequest
  simp
  exact ⟨fun _ _ _ _ _ => beginRoleSwitch_turned rfl,
    fun _ => Quiet.turned ⟨rfl, rfl, rfl⟩ id trivial⟩

theorem returnRelease_turned {edge : Edge} {position : UInt32} :
    (returnRelease edge position).wp (c.Turned (.returnRelease edge position)) c := by
  unfold returnRelease
  simp
  refine ⟨fun _ _ _ _ _ => .idle _ (.inl rfl) trivial rfl rfl rfl,
    fun held => Quiet.turned ⟨rfl, rfl, rfl⟩ ?_ trivial⟩
  rintro ⟨watched, receives, enabled, unpaused, accepts⟩
  exact absurd (held watched receives enabled unpaused) (by simp [accepts])

theorem Turned.pause {paused : Bool} {coordinator : RoleCoordinator} {gate : InputEpochGate}
    (commanded : ConnectorCore.Pauses event paused)
    (changed : c.coordinator.setPaused paused = .ok coordinator)
    (after : gate.suspended = true ∨ (gate = c.inputEpoch ∧ paused = false))
    (core : c'.core = { c.core with coordinator, sessionPaused := paused, inputEpoch := gate })
    (sends : signals out = [.role (.setPaused paused)]) (still : injected out = []) :
    c.Turned event result c' out := by
  obtain ⟨free, rfl⟩ := RoleCoordinator.setPaused_eq_ok changed
  exact .paused paused commanded free gate after core sends still

theorem disconnect_turned : disconnect.wp (c.Turned (.tray .disconnect)) c := by
  unfold disconnect pause
  simp
  exact ⟨fun _ => ⟨fun _ changed => .pause (.inl rfl) changed (.inl rfl) rfl rfl rfl,
      fun _ _ => Quiet.turned ⟨rfl, rfl, rfl⟩ id trivial⟩,
    fun _ => Quiet.turned ⟨rfl, rfl, rfl⟩ id trivial⟩

theorem reconnect_turned : (reconnect p).wp (c.Turned (.tray .reconnect)) c := by
  have resumed : ∀ {result c' out coordinator}, c.coordinator.setPaused false = .ok coordinator →
      c'.core = { c.core with coordinator, sessionPaused := false } →
      signals out = [.role (.setPaused false)] → injected out = [] →
      c.Turned (.tray .reconnect) result c' out :=
    fun changed core sends still =>
      .pause (.inl rfl) changed (.inr ⟨rfl, rfl⟩) core sends still
  unfold reconnect
  simp
  refine ⟨fun coordinator changed => ?_, fun _ _ => Quiet.turned ⟨rfl, rfl, rfl⟩ id trivial⟩
  exact ⟨fun _ _ => ⟨fun _ => resumed changed rfl (by simp [Frame.isSignal]) (by simp),
      fun _ _ => resumed changed rfl (by simp [Frame.isSignal]) (by simp),
      fun _ _ => resumed changed rfl (by simp [Frame.isSignal]) (by simp)⟩,
    fun _ => resumed changed rfl (by simp [Frame.isSignal]) (by simp)⟩

theorem onSetPaused_turned {paused : Bool} :
    (onSetPaused p paused).wp (c.Turned (.frame (.role (.setPaused paused)))) c := by
  have failed : ∀ {exit c' coordinator}, c.coordinator.setPaused paused = .ok coordinator →
      c'.core = { c.core with coordinator, sessionPaused := paused } →
      c.Turned (.frame (.role (.setPaused paused))) (.error exit) c' [] := by
    intro exit c' coordinator changed core
    obtain ⟨-, rfl⟩ := RoleCoordinator.setPaused_eq_ok changed
    refine .left nofun ?_ ⟨paused, ?_⟩ rfl rfl <;> rw [core]
    rfl
  have changed : ∀ {result c' out coordinator} {gate : InputEpochGate},
      c.coordinator.setPaused paused = .ok coordinator →
      gate.suspended = true ∨ (gate = c.inputEpoch ∧ paused = false) →
      c'.core = { c.core with coordinator, sessionPaused := paused, inputEpoch := gate } →
      signals out = [.role (.setPaused paused)] → injected out = [] →
      c.Turned (.frame (.role (.setPaused paused))) result c' out :=
    fun given after core sends still => .pause (.inr rfl) given after core sends still
  have ignored : ¬ c.coordinator.pending = none →
      c.Turned (.frame (.role (.setPaused paused))) (.ok ()) c [] := fun waiting =>
    Quiet.turned ⟨rfl, rfl, rfl⟩ id (Option.isSome_iff_ne_none.mpr waiting)
  have refused : ∀ {exit}, c.Turned (.frame (.role (.setPaused paused))) (.error exit) c [] :=
    .left nofun rfl ⟨c.coordinator.stable.paused, rfl⟩ rfl rfl
  unfold onSetPaused pause
  cases paused <;> simp
  · refine ⟨fun _ => ⟨fun coordinator given => ⟨fun _ _ => ?_, fun _ => ?_⟩, fun _ _ => refused⟩,
      ignored⟩
    · exact ⟨fun _ => failed given rfl,
        fun _ _ => changed given (.inr ⟨rfl, rfl⟩) rfl (by simp [Frame.isSignal]) (by simp),
        fun _ _ => failed given rfl⟩
    · exact changed given (.inr ⟨rfl, rfl⟩) rfl (by simp [Frame.isSignal]) (by simp)
  · exact ⟨fun _ => ⟨fun coordinator given => changed given (.inl rfl) rfl rfl rfl,
      fun _ _ => refused⟩, ignored⟩

theorem onInput_turned {epoch : Nat} {input : InputEvent} :
    (onInput p epoch input).wp (c.Turned (.frame (.input epoch input))) c := by
  have quiet : ∀ {result}, c.Turned (.frame (.input epoch input)) result c [] :=
    Quiet.turned ⟨rfl, rfl, rfl⟩ id trivial
  unfold onInput
  simp
  refine ⟨fun committed receives enabled unpaused => ⟨fun _ => ⟨fun _ => quiet, fun _ _ => quiet⟩,
    fun _ => ⟨fun accepts => ?_, fun _ => quiet⟩⟩, fun _ => quiet⟩
  subst committed
  exact ⟨fun _ => .injected input rfl ⟨receives, enabled, unpaused, accepts⟩ rfl rfl,
    fun _ _ => .injected input rfl ⟨receives, enabled, unpaused, accepts⟩ rfl rfl⟩

theorem onControl_turned {epoch : Nat} {control : ControlEvent} :
    (onControl p epoch control).wp (c.Turned (.frame (.control epoch control))) c := by
  unfold onControl onSetInputForwarding
  by_cases committed : epoch = c.roleEpoch
  · subst committed
    cases control with
    | enterRemote edge position =>
      simp
      exact ⟨fun receives => .entered edge position rfl receives rfl rfl rfl,
        fun _ => Quiet.turned ⟨rfl, rfl, rfl⟩ id trivial⟩
    | leaveRemote edge position =>
      refine Handler.wp_mono (fun _ _ _ quiet => Quiet.turned quiet id trivial) ?_
      simp [Quiet, core, Frame.isSignal]
    | releaseToLocal reason =>
      refine Handler.wp_mono (fun _ _ _ quiet => Quiet.turned quiet id trivial) ?_
      simp [Quiet, core]
    | setInputForwarding enabled =>
      have failed : ∀ {exit c'}, c'.core = { c.core with inputForwardingEnabled := enabled } →
          c.Turned (.frame (.control c.roleEpoch (.setInputForwarding enabled))) (.error exit)
            c' [] := by
        intro exit c' core
        refine .left nofun ?_ ⟨c.coordinator.stable.paused, ?_⟩ rfl rfl <;> rw [core]
        rfl
      have kept : ∀ {c'}, (enabled = true ∨ c.localIsController = true) →
          c'.core = { c.core with inputForwardingEnabled := enabled } →
          c.Turned (.frame (.control c.roleEpoch (.setInputForwarding enabled))) (.ok ()) c' [] :=
        fun sound core => .forwarded enabled rfl _ (.inr ⟨rfl, sound⟩) core rfl rfl
      cases enabled <;> simp
      · exact ⟨fun controls => kept (.inr controls) rfl,
          fun _ => .forwarded false rfl _ (.inl rfl) rfl rfl rfl⟩
      · exact ⟨fun _ => ⟨fun _ => ⟨fun _ => failed rfl, fun _ _ => kept (.inl rfl) rfl,
          fun _ _ => failed rfl⟩, fun _ => kept (.inl rfl) rfl⟩, fun _ => kept (.inl rfl) rfl⟩
  · simp [committed]
    refine Quiet.turned ⟨rfl, rfl, rfl⟩ id ?_
    cases control <;> first | exact committed | trivial

theorem onReady_turned {epoch : Nat} {captureReady injectReady : Bool} {detail : Option String} :
    (onReady p epoch captureReady injectReady detail).wp
      (c.Turned (.frame (.role (.ready epoch captureReady injectReady detail)))) c := by
  unfold onReady
  cases waiting : c.pendingReadiness with
  | none =>
    simp [waiting]
    exact Quiet.turned ⟨rfl, rfl, rfl⟩ id trivial
  | some localReady =>
    simp only [wp_bind, wp_read, waiting]
    rcases finished : c.coordinator.finishReady epoch localReady.captureReady
        localReady.injectReady captureReady injectReady
        (detail.orElse fun _ => localReady.failureDetail) with error | ⟨decision, coordinator⟩
    · cases error
      case unexpectedEpoch =>
        simp
        exact Quiet.turned ⟨rfl, rfl, rfl⟩ id trivial
      all_goals
        simp
        exact .left (by simp) rfl ⟨c.coordinator.stable.paused, rfl⟩ rfl rfl
    · obtain ⟨pending, found, rfl, ready | ⟨-, failure, aborted, rfl⟩⟩ :=
        RoleCoordinator.finishReady_eq_ok finished
      · obtain ⟨captures, injects, rfl, rfl, rfl, rfl⟩ := ready
        have committed : ∀ {result c' out}, c'.core = { c.core with
              coordinator := { c.coordinator with stable := pending.committed, pending := none }
              roleEpoch := pending.proposedEpoch
              localIsController :=
                pending.proposedControllerFingerprint = c.setup.localFingerprint
              inputEpoch := c.inputEpoch.suspend, pendingReadiness := none } →
            signals out = [.role (.commit pending.committed)] → Session.injected out = [] →
            c.Turned (.frame (.role (.ready pending.proposedEpoch true true detail))) result
              c' out :=
          fun core sends still =>
            .committed pending found detail rfl ⟨localReady, waiting, captures, injects⟩ core
              sends still
        simp [applyCommit, PendingRole.committed]
        exact ⟨fun _ => ⟨fun _ => committed rfl rfl rfl, fun _ _ => committed rfl rfl rfl,
          fun _ _ => committed rfl rfl rfl⟩, fun _ => committed rfl rfl rfl⟩
      · subst aborted
        have aborted : ∀ {result c'}, c'.core = { c.core with
              coordinator := { c.coordinator with stable := pending.previous, pending := none }
              pendingReadiness := none } →
            c.Turned (.frame (.role (.ready pending.proposedEpoch captureReady injectReady detail)))
              result c'
              [.send (.role (.abort (RoleCoordinator.failedState pending.previous
                (some failure))))] :=
          fun core => .aborted failure pending trivial found c.inputEpoch (.inr ⟨rfl, fun _ => id⟩)
            core rfl rfl
        simp [applyAbort]
        exact ⟨fun _ => ⟨fun _ => aborted rfl, fun _ _ => aborted rfl, fun _ _ => aborted rfl⟩,
          fun _ => aborted rfl⟩

/-! ## The branches of the loop -/

theorem onRole_turned {event : RoleEvent} :
    (onRole p event).wp (c.Turned (.frame (.role event))) c := by
  cases event with
  | request requested => exact onRequest_turned
  | ready epoch captureReady injectReady detail => exact onReady_turned
  | applied epoch =>
    exact Handler.wp_mono (fun _ _ _ quiet => Quiet.turned quiet id trivial) onApplied_quiet
  | setPaused paused => exact onSetPaused_turned
  | sessionState state | prepare state | commit state | abort state =>
    exact Quiet.turned ⟨rfl, rfl, rfl⟩ id trivial

/-- The re-arm before a frame changes nothing that matters to the frame. -/
theorem onFrame_turned {frame : Frame} : (onFrame p frame).wp (c.Turned (.frame frame)) c := by
  refine Handler.wp_seq recoverLiveness_silent ?_ ?_
  · rintro exit c' out ⟨same, rfl⟩
    exact Quiet.left same
  · rintro - c' out ⟨same, rfl⟩
    have recovered : ∀ {result c'' out}, c'.Turned (.frame frame) result c'' out →
        c.Turned (.frame frame) result c'' ([] ++ out) := by
      intro result c'' out turned
      unfold Turned at turned ⊢
      rwa [same] at turned
    refine Handler.wp_mono (fun _ _ _ => recovered) ?_
    cases frame with
    | input epoch event => exact onInput_turned
    | control epoch event => exact onControl_turned
    | role event => exact onRole_turned
    | audio control =>
      exact Handler.wp_mono (fun _ _ _ quiet => Quiet.turned quiet id trivial) onAudio_quiet
    | error code message | other => exact Quiet.turned ⟨rfl, rfl, rfl⟩ id trivial

/-- The handover deadline of a watchdog tick: it waits on, or gives the pending handover up. -/
inductive Expired (c : Connector) (result : Except SessionExit Unit) (c' : Connector)
    (out : List Effect) : Prop
  | waited (same : c' = c) (silent : out = [])
  | gaveUp (state : RoleState) (coordinator : RoleCoordinator)
      (given : c.coordinator.abort "peer did not complete role preflight in time" =
        .ok (state, coordinator))
      (core : c'.core = { c.core with coordinator, pendingReadiness := none })
      (active : c'.inputActive = c.inputActive)
      (capture : result = .ok () → c'.capture.isSome = c.capture.isSome)
      (sends : out = [.send (.role (.abort state))])

theorem expireTransition_expired {passed : Bool} :
    (expireTransition p passed).wp c.Expired c := by
  unfold expireTransition
  simp
  refine ⟨fun _ _ waiting => ⟨fun state coordinator given => ?_, fun error refused => ?_⟩,
    fun _ => .waited rfl rfl⟩
  · have gaveUp : ∀ {result c'}, c'.core = { c.core with coordinator, pendingReadiness := none } →
        c'.inputActive = c.inputActive → (result = .ok () → c'.capture.isSome = c.capture.isSome) →
        c.Expired result c' [.send (.role (.abort state))] :=
      fun core active capture => .gaveUp state coordinator given core active capture rfl
    exact ⟨fun _ => ⟨fun _ => gaveUp rfl rfl nofun, fun backend _ => gaveUp rfl rfl (by simp [backend]),
      fun _ _ => gaveUp rfl rfl nofun⟩, fun _ => gaveUp rfl rfl fun _ => rfl⟩
  · obtain ⟨pending, found⟩ := Option.isSome_iff_exists.mp waiting
    simp [RoleCoordinator.abort, found] at refused

theorem pollLiveness_spec (passed senderFinished : Bool) (failure : Option String)
    {liveness : Option LivenessEvent} :
    (pollLiveness liveness).wp (fun result c' out =>
      signals out = [] ∧ injected out = [] ∧ ∃ gate,
        c.core.GateAfter (c.Releases (.watchdog passed liveness senderFinished failure)) result
          gate ∧
        c'.core = { c.core with inputEpoch := gate }) c := by
  have same : ∀ {result : Except SessionExit Unit} {released : Prop}, ¬ released →
      c.core.GateAfter released result c.inputEpoch := fun calm => .inr ⟨rfl, fun _ => calm⟩
  unfold pollLiveness
  rcases liveness with _ | _ | _ <;> simp
  · exact ⟨_, same id, rfl⟩
  · refine ⟨fun active => ⟨fun controls captures => ?_, fun receives => ?_⟩, fun inactive => ?_⟩
    · exact ⟨rfl, _, same (fun released => released.2 ⟨controls, captures⟩), rfl⟩
    · exact ⟨rfl, _, .inl rfl, rfl⟩
    · exact ⟨_, same (fun released => by simp [released.1] at inactive), rfl⟩
  · exact ⟨_, same id, rfl⟩

/-- What follows the deadline check only touches the gate. -/
theorem Expired.turned {passed senderFinished : Bool} {liveness : Option LivenessEvent}
    {failure : Option String} {c₁ : Connector} {rest : List Effect} {gate : InputEpochGate}
    (expired : c.Expired (.ok ()) c₁ out)
    (after : c₁.core.GateAfter (c₁.Releases (.watchdog passed liveness senderFinished failure))
      result gate)
    (core : c'.core = { c₁.core with inputEpoch := gate }) (silent : signals rest = [])
    (still : injected rest = []) :
    c.Turned (.watchdog passed liveness senderFinished failure) result c' (out ++ rest) := by
  cases expired with
  | waited same spoken =>
    subst same spoken
    exact .idle gate after trivial core silent still
  | gaveUp state coordinator given kept active capture sends =>
    have controls : c₁.localIsController = c.localIsController := congrArg (·.localIsController) kept
    have releases : c₁.Releases (.watchdog passed liveness senderFinished failure) =
        c.Releases (.watchdog passed liveness senderFinished failure) := by
      rcases liveness with _ | _ | _ <;> simp [Releases, active, controls, capture rfl]
    have unchanged : c₁.inputEpoch = c.inputEpoch := congrArg (·.inputEpoch) kept
    refine .abort given trivial ?_ (core.trans (by rw [kept])) ?_ ?_
    · rw [releases] at after
      exact Or.imp_right (fun held => ⟨held.1.trans unchanged, held.2⟩) after
    · simp [sends, silent, Frame.isSignal]
    · simp [sends, still]

theorem watchdog_turned {passed senderFinished : Bool} {liveness : Option LivenessEvent}
    {failure : Option String} :
    (handle p (.watchdog passed liveness senderFinished failure)).wp
      (c.Turned (.watchdog passed liveness senderFinished failure)) c := by
  refine Handler.wp_seq expireTransition_expired ?_ ?_
  · intro exit c₁ out expired
    cases expired with
    | waited same silent =>
      subst same silent
      exact Quiet.left rfl
    | gaveUp state coordinator given core active capture sends =>
      subst sends
      exact .abort given trivial (.inr ⟨rfl, nofun⟩) core rfl rfl
  · intro _ c₁ out expired
    refine Handler.wp_seq (pollLiveness_spec passed senderFinished failure) ?_ ?_
    · rintro exit c₂ rest ⟨silent, still, gate, after, core⟩
      exact expired.turned after core silent still
    · rintro ⟨⟩ c₂ rest ⟨silent, still, gate, after, core⟩
      refine Handler.wp_mono ?_ reapAudio_quiet
      rintro result c₃ last ⟨same, lastSilent, lastStill⟩
      have spoken : c.Turned (.watchdog passed liveness senderFinished failure) result c₃
          (out ++ (rest ++ last)) :=
        expired.turned (Or.imp_right (fun held => ⟨held.1, fun _ => held.2 rfl⟩) after)
          (same.trans core) (by simp [silent, lastSilent]) (by simp [still, lastStill])
      simpa using spoken

/-- Every turn of the loop is in the list. -/
theorem turned (p : Platform) (c : Connector) (event : ConnectorEvent) :
    (handle p event).wp (c.Turned event) c := by
  cases event with
  | replaced | closed => exact Quiet.turned ⟨rfl, rfl, rfl⟩ id trivial
  | watchdog passed liveness senderFinished failure => exact watchdog_turned
  | heartbeat | captureDisarmed | audioTask index failure | audioTaskCancelled index =>
    exact Quiet.turned ⟨rfl, rfl, rfl⟩ id trivial
  | capture event =>
    by_cases layout : event = some .layoutChanged
    · subst layout
      exact layoutChanged_turned
    · exact Handler.wp_mono (fun _ _ _ quiet => Quiet.turned quiet id trivial)
        (captureEvent_quiet layout)
  | audioStarted =>
    exact Handler.wp_mono (fun _ _ _ quiet => Quiet.turned quiet id trivial) audioStarted_quiet
  | tray command =>
    cases command with
    | disconnect => exact disconnect_turned
    | reconnect => exact reconnect_turned
    | toggleInputForwarding => exact toggleInputForwarding_turned
    | setAudio choice =>
      exact Handler.wp_mono (fun _ _ _ quiet => Quiet.turned quiet id trivial) setAudio_quiet
    | setController choice => exact setController_turned
    | quit => exact Quiet.turned ⟨rfl, rfl, rfl⟩ id trivial
  | returnRelease edge position => exact returnRelease_turned
  | frame frame => exact onFrame_turned

/-- The connector's loop; what the portal and the file system answer is part of the action. -/
def loop : Machine Connector (Platform × ConnectorEvent) :=
  Handler.loop fun action => handle action.1 action.2

/-- A connector whose loop starts, with no capture armed before. -/
def Started (c : Connector) : Prop :=
  ∃ setup state capture source p first, isArmed capture = false ∧
    initial setup state capture source = .ok first ∧ (start p first).result = .ok () ∧
    (start p first).state = c

/-! ## The coordinator and the loop's own variables -/

end Connector

/-- The loop's variables repeat the committed assignment, and a pending handover is the next
    epoch of it. -/
structure ConnectorCore.Coordinated (k : ConnectorCore) : Prop where
  identity : k.coordinator.connectorFingerprint = k.setup.localFingerprint ∧
    k.coordinator.listenerFingerprint = k.setup.peerFingerprint
  epoch : k.roleEpoch = k.coordinator.stable.roleEpoch
  controls : k.localIsController =
    decide (k.coordinator.stable.controllerFingerprint = some k.setup.localFingerprint)
  paused : k.sessionPaused = k.coordinator.stable.paused
  proposed : ∀ pending, k.coordinator.pending = some pending →
    pending.previous = k.coordinator.stable ∧
    pending.proposedEpoch = k.coordinator.stable.roleEpoch + 1 ∧
    (pending.proposedControllerFingerprint = k.setup.localFingerprint ∨
      pending.proposedControllerFingerprint = k.setup.peerFingerprint)

namespace Connector

variable {c t : Connector} {p : Platform} {event : ConnectorEvent}

theorem exec_turned (executed : loop.exec c (p, event) = some t) :
    c.Turned event (.ok ()) t (handle p event c).output := by
  obtain ⟨result, state⟩ := exec_loop.mp executed
  have turned := turned p c event
  rwa [Handler.wp, result, state] at turned

end Connector

theorem ConnectorCore.Turned.coordinated {k k' : ConnectorCore} {released : Prop}
    {event : ConnectorEvent} {out : List Effect} (turned : k.Turned released event (.ok ()) k' out)
    (coordinated : k.Coordinated) : k'.Coordinated := by
  obtain ⟨identity, epoch, controls, paused, proposed⟩ := coordinated
  cases turned with
  | left ended => exact absurd rfl ended
  | idle gate after ignored core | entered edge position received receives core
  | toggled command free core | forwarded enabled received gate after core =>
    subst core
    exact ⟨identity, epoch, controls, paused, proposed⟩
  | injected input received receives core =>
    subst core
    exact ⟨identity, epoch, controls, paused, proposed⟩
  | prepared requested prepare coordinator readiness begun given core =>
    obtain ⟨-, known, -, rfl⟩ := RoleCoordinator.prepare_eq_ok given
    subst core
    refine ⟨identity, epoch, controls, paused, ?_⟩
    rintro pending ⟨⟩
    rw [identity.1, identity.2] at known
    exact ⟨rfl, rfl, known⟩
  | aborted detail pending ignored waiting gate after core =>
    subst core
    have previous := (proposed pending waiting).1
    refine ⟨identity, ?_, ?_, ?_, nofun⟩ <;> simpa [previous]
  | committed pending waiting detail received ready core =>
    subst core
    have previous := (proposed pending waiting).1
    refine ⟨identity, rfl, ?_, ?_, nofun⟩
    · simp [PendingRole.committed]
    · simpa [PendingRole.committed, previous]
  | paused paused commanded free gate after core =>
    subst core
    exact ⟨identity, epoch, controls, rfl, by simp [free]⟩

namespace Connector

/-- The statements before the loop touch none of the variables, and send no signal. -/
theorem start_quiet (p : Platform) (c : Connector) : (start p).wp c.Quiet c := by
  unfold start
  simp [Quiet, core, Frame.isSignal]

theorem Started.coordinated {c : Connector} (started : c.Started) : c.core.Coordinated := by
  obtain ⟨setup, state, capture, source, p, first, -, made, -, rfl⟩ := started
  rw [(start_quiet p first).1, initial_eq_ok made]
  exact ⟨⟨rfl, rfl⟩, rfl, rfl, rfl, nofun⟩

/-- The gate is closed until the peer's pointer enters. -/
theorem Started.suspended {c : Connector} (started : c.Started) :
    c.inputEpoch.suspended = true := by
  obtain ⟨setup, state, capture, source, p, first, -, made, -, rfl⟩ := started
  have gate := congrArg (·.inputEpoch.suspended) (start_quiet p first).1
  exact gate.trans (initial_eq_ok made ▸ rfl)

end Connector

/-! ## A sample connector -/

def sampleConnectorSetup : ConnectorSetup :=
  { localFingerprint := "connector", peerFingerprint := "listener", edge := .right
    peerSupportsInputCapture := true, peerSupportsInputInjection := true
    peerSupportsRoleSwitch := true, peerSupportsAudioCapture := true
    peerSupportsAudioPlayback := true, peerSupportsAudioRoute := true
    audioPort := 40000, jitterTargetMs := 20 }

def sampleRoleState (controller : String) : RoleState :=
  { controllerFingerprint := some controller, roleEpoch := initialRoleEpoch
    transition := .stable, listenerPosition := .right, paused := false, failureDetail := none }

/-- The variables before the statements that come before the loop. -/
def sampleConnectorFirst : Connector :=
  { setup := sampleConnectorSetup
    coordinator := { connectorFingerprint := "connector", listenerFingerprint := "listener"
                     stable := sampleRoleState "connector" }
    roleEpoch := initialRoleEpoch, localIsController := true, sessionPaused := false
    inputForwardingEnabled := true, capture := some {}, storedRole := some "connector"
    audio := { stored := some none } }

def sampleConnector : Connector := (Connector.start {} sampleConnectorFirst).state

theorem sampleConnector_started : sampleConnector.Started :=
  ⟨sampleConnectorSetup, sampleRoleState "connector", some {}, none, {}, sampleConnectorFirst,
    rfl, rfl, rfl, rfl⟩

end EdgeKvm.Session
