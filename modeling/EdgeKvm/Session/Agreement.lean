import EdgeKvm.Session.Pair

/-!
# Agreement on pause and forwarding

Either side changes its flag first and tells the other. A toggle carries the value it sets, so
the side that takes in the last one decides; a pause is the connector's to state, and a request
of the listener comes back as the connector's statement. `PairView.Agreeing` says that the two
sides hold the same values once everything on the way is taken in.
-/

namespace EdgeKvm.Session

open EdgeKvm.Lib Handler Machine

/-- The forwarding that a frame sets. -/
def Frame.setsForwarding : Frame → Option Bool
  | .control _ (.setInputForwarding enabled) => some enabled
  | _ => none

/-- The pause that a frame of the connector states. -/
def Frame.statesPause : Frame → Option Bool
  | .role (.setPaused paused) => some paused
  | .role (.sessionState state) => some state.paused
  | _ => none

/-- A frame of the listener asks for a pause or its end. -/
def Frame.asksPause : Frame → Bool
  | .role (.setPaused _) => true
  | _ => false

/-- What is on its way with the frame a turn takes in front of it. -/
theorem heading_signal {carries : Frame → Option Bool} {own : Bool} {frame : Option Frame}
    {queue : List Frame} (signals : ∀ f, (carries f).isSome → f.isSignal = true) :
    heading carries own (signal frame ++ queue) =
      heading carries ((frame.bind carries).getD own) queue := by
  cases frame with
  | none => rfl
  | some f =>
    cases signal : f.isSignal with
    | true => simp [signal_some, signal]
    | false =>
      have carried : carries f = none := by
        rw [← Option.not_isSome_iff_eq_none]
        exact fun some => by simp [signals f some] at signal
      simp [signal_some, signal, carried]

theorem Frame.setsForwarding_signal (f : Frame) :
    f.setsForwarding.isSome → f.isSignal = true := by
  unfold setsForwarding
  split <;> simp [isSignal]

theorem Frame.statesPause_signal (f : Frame) : f.statesPause.isSome → f.isSignal = true := by
  unfold statesPause
  split <;> simp [isSignal]

namespace PairView

/-- Both sides hold the same values once everything on the way is taken in; a pause that the
    listener asked for is still the connector's to state. -/
structure Agreeing (v : PairView) : Prop where
  toggles : v.listener.setup.controllerSupportsInputToggle = true
  forwarding : heading Frame.setsForwarding v.connector.inputForwardingEnabled v.up =
    heading Frame.setsForwarding v.listener.inputForwardingEnabled v.down
  pause : (∀ f ∈ v.up, f.asksPause = false) →
    heading Frame.statesPause v.listener.sessionPaused v.down = v.connector.sessionPaused

/-- The turns that leave the sides with different values: a toggle of another epoch or a pause
    request is passed over although the values would become equal by it, and a toggle crosses
    one of the other side that sets the other value. -/
def disagrees (v : PairView) : PairEvent → Bool
  | .connector (.frame (.control epoch (.setInputForwarding enabled))) =>
    epoch != v.connector.roleEpoch &&
      heading Frame.setsForwarding v.connector.inputForwardingEnabled v.up.tail !=
        heading Frame.setsForwarding enabled v.up.tail
  | .connector (.frame (.role (.setPaused _))) =>
    v.connector.coordinator.pending.isSome && v.up.tail.all (!·.asksPause) &&
      heading Frame.statesPause v.listener.sessionPaused v.down != v.connector.sessionPaused
  | .connector (.tray .toggleInputForwarding) =>
    !v.connector.sessionPaused && v.connector.coordinator.pending.isNone &&
      v.connector.coordinator.stable.controllerFingerprint.isSome &&
      heading Frame.setsForwarding (!v.connector.inputForwardingEnabled) v.up !=
        !v.connector.inputForwardingEnabled
  | .listener (.frame (.control epoch (.setInputForwarding enabled))) =>
    epoch != v.listener.roleEpoch &&
      heading Frame.setsForwarding v.listener.inputForwardingEnabled v.down.tail !=
        heading Frame.setsForwarding enabled v.down.tail
  | .listener (.tray .toggleInputForwarding) =>
    v.listener.preparedRole.isNone &&
      heading Frame.setsForwarding (!v.listener.inputForwardingEnabled) v.down !=
        !v.listener.inputForwardingEnabled
  | _ => false

variable {v : PairView} {released : Prop} {out : List Effect} {up down : List Frame}
  {result : Except SessionExit Unit}

/-! ## The turns of the connector -/

section Connector

variable {event : ConnectorEvent} {k' : ConnectorCore}

theorem forwarding_passed (ignored : v.connector.MayIgnore event)
    (kept : v.disagrees (.connector event) = false) (taken : v.up = signal event.frame? ++ up) :
    heading Frame.setsForwarding v.connector.inputForwardingEnabled up =
      heading Frame.setsForwarding v.connector.inputForwardingEnabled v.up := by
  rw [taken, heading_signal Frame.setsForwarding_signal]
  cases carried : event.frame?.bind Frame.setsForwarding with
  | none => rfl
  | some enabled =>
    obtain ⟨frame, received, sets⟩ := Option.bind_eq_some_iff.mp carried
    obtain rfl := ConnectorEvent.frame?_eq_some.mp received
    unfold Frame.setsForwarding at sets
    split at sets
    · cases sets
      have other : ¬ (_ = v.connector.roleEpoch) := ignored
      simp only [ConnectorEvent.frame?, signal_some] at taken
      simpa [disagrees, taken, Frame.isSignal, other] using kept
    · cases sets

/-- A turn of the connector moves what it will hold to what it tells the listener. -/
theorem forwarding_connector (kept : v.disagrees (.connector event) = false)
    (taken : v.up = signal event.frame? ++ up)
    (turned : v.connector.Turned released event (.ok ()) k' out) :
    heading Frame.setsForwarding k'.inputForwardingEnabled up =
      heading Frame.setsForwarding
        (heading Frame.setsForwarding v.connector.inputForwardingEnabled v.up) (signals out) := by
  have quiet : event.frame?.bind Frame.setsForwarding = none →
      heading Frame.setsForwarding v.connector.inputForwardingEnabled v.up =
        heading Frame.setsForwarding v.connector.inputForwardingEnabled up := by
    intro nothing
    rw [taken, heading_signal Frame.setsForwarding_signal, nothing, Option.getD_none]
  cases turned with
  | idle gate after ignored core silent still =>
    subst core
    simp [silent, forwarding_passed ignored kept taken]
  | left ended => exact absurd rfl ended
  | injected input received receives core effects =>
    subst received core effects
    simp [quiet rfl]
  | entered edge position received receives core silent still =>
    subst received core
    simp [silent, quiet rfl]
  | toggled command free core sends still =>
    subst command core
    obtain rfl : v.up = up := taken
    have decides : heading Frame.setsForwarding (!v.connector.inputForwardingEnabled) v.up =
        !v.connector.inputForwardingEnabled :=
      Bool.eq_not.mpr (by simpa [disagrees, free] using kept)
    simpa [sends, Frame.setsForwarding] using decides
  | forwarded enabled received gate after core silent still =>
    subst received core
    rw [silent, taken, heading_signal Frame.setsForwarding_signal]
    rfl
  | prepared requested prepare coordinator readiness begun proposed core sends still =>
    subst core
    have ignored := ConnectorCore.mayIgnore_of_begins (k := v.connector) begun
    simp [sends, Frame.setsForwarding, forwarding_passed ignored kept taken]
  | aborted detail pending ignored waiting gate after core sends still =>
    subst core
    simp [sends, Frame.setsForwarding, forwarding_passed ignored kept taken]
  | committed pending waiting detail received ready core sends still =>
    subst received core
    simp [sends, Frame.setsForwarding, quiet rfl]
  | paused paused commanded free gate after core sends still =>
    subst core
    have nothing : event.frame?.bind Frame.setsForwarding = none := by
      obtain rfl | rfl := commanded
      · cases paused <;> rfl
      · rfl
    simp [sends, Frame.setsForwarding, quiet nothing]

/-- What the connector tells the listener about the pause is what it holds itself, unless a
    request is still on its way. -/
theorem pause_connector (kept : v.disagrees (.connector event) = false)
    (taken : v.up = signal event.frame? ++ up) (agreeing : v.Agreeing)
    (turned : v.connector.Turned released event (.ok ()) k' out)
    (none : ∀ f ∈ up, f.asksPause = false) :
    heading Frame.statesPause v.listener.sessionPaused (v.down ++ signals out) =
      k'.sessionPaused := by
  have quiet : event.frame?.any Frame.asksPause = false →
      heading Frame.statesPause v.listener.sessionPaused v.down = v.connector.sessionPaused := by
    intro quiet
    refine agreeing.pause fun f member => ?_
    rw [taken, List.mem_append] at member
    refine member.elim (fun member => ?_) (none f)
    have received := (Option.mem_filter_iff.mp (Option.mem_toList.mp member)).1
    simpa [Option.mem_def.mp received] using quiet
  have passed : v.connector.MayIgnore event →
      heading Frame.statesPause v.listener.sessionPaused v.down = v.connector.sessionPaused := by
    intro ignored
    cases requests : event.frame?.any Frame.asksPause with
    | false => exact quiet requests
    | true =>
      obtain ⟨frame, received, asks⟩ := (Option.any_eq_true ..).mp requests
      obtain rfl := ConnectorEvent.frame?_eq_some.mp received
      unfold Frame.asksPause at asks
      split at asks
      · have pending : v.connector.coordinator.pending.isSome := ignored
        simp only [ConnectorEvent.frame?, signal_some] at taken
        have free : up.all (!·.asksPause) = true := by simpa using none
        simpa [disagrees, taken, Frame.isSignal, pending, free] using kept
      · cases asks
  rw [heading_append]
  cases turned with
  | idle gate after ignored core silent still =>
    subst core
    simp [silent, passed ignored]
  | left ended => exact absurd rfl ended
  | injected input received receives core effects =>
    subst received core effects
    simp [quiet rfl]
  | entered edge position received receives core silent still =>
    subst received core
    simp [silent, quiet rfl]
  | toggled command free core sends still =>
    subst command core
    simp [sends, Frame.statesPause, quiet rfl]
  | forwarded enabled received gate after core silent still =>
    subst received core
    simp [silent, quiet rfl]
  | prepared requested prepare coordinator readiness begun proposed core sends still =>
    subst core
    simp [sends, Frame.statesPause, passed (ConnectorCore.mayIgnore_of_begins begun)]
  | aborted detail pending ignored waiting gate after core sends still =>
    subst core
    simp [sends, Frame.statesPause, passed ignored]
  | committed pending waiting detail received ready core sends still =>
    subst received core
    simp [sends, Frame.statesPause, quiet rfl]
  | paused paused commanded free gate after core sends still =>
    subst core
    simp [sends, Frame.statesPause]

/-- A turn of the connector keeps the agreement. -/
theorem Agreeing.connectorTurn {connectorOpen : Bool} (agreeing : v.Agreeing)
    (kept : v.disagrees (.connector event) = false) (taken : v.up = signal event.frame? ++ up)
    (turned : v.connector.Turned released event (.ok ()) k' out) :
    Agreeing { v with connector := k', connectorOpen, down := v.down ++ signals out, up } where
  toggles := agreeing.toggles
  forwarding := by
    rw [forwarding_connector kept taken turned, agreeing.forwarding, heading_append]
  pause := pause_connector kept taken agreeing turned

end Connector

/-! ## The turns of the listener -/

section Listener

variable {event : ListenerEvent} {k' : ListenerCore}

/-- A turn of the listener moves what it will hold to what it tells the connector. -/
theorem forwarding_listener (toggles : v.listener.setup.controllerSupportsInputToggle = true)
    (kept : v.disagrees (.listener event) = false) (taken : v.down = signal event.frame? ++ down)
    (turned : v.listener.Turned released event (.ok ()) k' out) :
    heading Frame.setsForwarding k'.inputForwardingEnabled down =
      heading Frame.setsForwarding
        (heading Frame.setsForwarding v.listener.inputForwardingEnabled v.down) (signals out) := by
  have quiet : event.frame?.bind Frame.setsForwarding = none →
      heading Frame.setsForwarding v.listener.inputForwardingEnabled v.down =
        heading Frame.setsForwarding v.listener.inputForwardingEnabled down := by
    intro nothing
    rw [taken, heading_signal Frame.setsForwarding_signal, nothing, Option.getD_none]
  cases turned with
  | idle gate after ignored core silent still =>
    subst core
    cases carried : event.frame?.bind Frame.setsForwarding with
    | none => simp [silent, quiet carried]
    | some enabled =>
      obtain ⟨frame, received, sets⟩ := Option.bind_eq_some_iff.mp carried
      obtain rfl := ListenerEvent.frame?_eq_some.mp received
      unfold Frame.setsForwarding at sets
      split at sets
      · cases sets
        rename_i epoch
        have other : epoch ≠ v.listener.roleEpoch := by
          simpa [ListenerCore.MayIgnore, toggles] using ignored
        simp only [ListenerEvent.frame?, signal_some] at taken
        simpa [disagrees, taken, Frame.isSignal, other, silent, Frame.setsForwarding] using kept
      · cases sets
  | left ended => exact absurd rfl ended
  | injected input received receives core effects =>
    subst received core effects
    simp [quiet rfl]
  | entered edge position received receives core silent still =>
    subst received core
    simp [silent, quiet rfl]
  | toggled command free core sends still =>
    subst command core
    obtain rfl : v.down = down := taken
    have decides : heading Frame.setsForwarding (!v.listener.inputForwardingEnabled) v.down =
        !v.listener.inputForwardingEnabled :=
      Bool.eq_not.mpr (by simpa [disagrees, free] using kept)
    simpa [sends, toggles, Frame.setsForwarding] using decides
  | forwarded enabled received gate after core silent still =>
    subst received core
    rw [silent, taken, heading_signal Frame.setsForwarding_signal]
    rfl
  | paused paused command supported core sends still =>
    subst command core
    have nothing : (ListenerEvent.tray (if paused then .disconnect else .reconnect)).frame? =
      none := rfl
    simp [sends, Frame.setsForwarding, quiet (by rw [nothing]; rfl)]
  | pausedByPeer paused received gate after core silent still
  | session state received gate after core silent still
  | committed prepared commit controller received waiting valid named core silent still =>
    subst received core
    simp [silent, quiet rfl]
  | expired passes gate after core silent still =>
    obtain ⟨liveness, rfl⟩ := passes
    subst core
    simp [silent, quiet rfl]
  | dropped event_eq prepared waiting detail core sends still =>
    subst event_eq core
    simp [sends, Frame.setsForwarding, quiet rfl]
  | refused prepare received unable detail core sends still =>
    subst received core
    simp [sends, Frame.setsForwarding, quiet rfl]
  | prepared prepare received valid gate after captureReady detail core sends still =>
    subst received core
    simp [sends, Frame.setsForwarding, quiet rfl]
  | aborted abort received core silent still =>
    subst received core
    simp [silent, quiet rfl]

/-- Only a request of the listener's user makes its pause another one than the connector
    stated. -/
theorem pause_listener (taken : v.down = signal event.frame? ++ down)
    (turned : v.listener.Turned released event (.ok ()) k' out)
    (none : ∀ f ∈ signals out, f.asksPause = false) :
    heading Frame.statesPause k'.sessionPaused down =
      heading Frame.statesPause v.listener.sessionPaused v.down := by
  rw [taken, heading_signal Frame.statesPause_signal]
  have quiet : v.listener.MayIgnore event → event.frame?.bind Frame.statesPause = Option.none := by
    intro ignored
    cases event with
    | frame frame =>
      cases frame with
      | role event => cases event <;> first | rfl | exact absurd ignored id
      | _ => rfl
    | _ => rfl
  cases turned with
  | idle gate after ignored core silent still =>
    subst core
    rw [quiet ignored, Option.getD_none]
  | left ended => exact absurd rfl ended
  | injected input received receives core | entered edge position received receives core
  | forwarded enabled received gate after core | pausedByPeer paused received gate after core
  | session state received gate after core | refused prepare received unable detail core
  | prepared prepare received valid gate after captureReady detail core
  | committed prepared commit controller received waiting valid named core
  | aborted abort received core =>
    subst received core
    rfl
  | toggled command free core =>
    subst command core
    rfl
  | paused paused command supported core sends still => simp [sends, Frame.asksPause] at none
  | expired passes gate after core =>
    obtain ⟨liveness, rfl⟩ := passes
    subst core
    rfl
  | dropped event_eq prepared waiting detail core =>
    subst event_eq core
    rfl

/-- A turn of the listener keeps the agreement. -/
theorem Agreeing.listenerTurn {listenerOpen : Bool} (agreeing : v.Agreeing)
    (kept : v.disagrees (.listener event) = false) (taken : v.down = signal event.frame? ++ down)
    (turned : v.listener.Turned released event (.ok ()) k' out) :
    Agreeing { v with listener := k', listenerOpen, up := v.up ++ signals out, down } where
  toggles := (congrArg (·.controllerSupportsInputToggle) turned.setup_eq).trans
    agreeing.toggles
  forwarding := by
    rw [forwarding_listener agreeing.toggles kept taken turned, ← agreeing.forwarding,
      heading_append]
  pause := by
    intro none
    rw [List.forall_mem_append] at none
    rw [pause_listener taken turned none.2, agreeing.pause none.1]

end Listener

/-- A step keeps the agreement of two sides that both still run. -/
theorem Step.agreeing {v' : PairView} {event : PairEvent} (step : v.Step event v')
    (kept : v.disagrees event = false)
    (agreeing : v.connectorOpen = true → v.listenerOpen = true → v.Agreeing) :
    v'.connectorOpen = true → v'.listenerOpen = true → v'.Agreeing := by
  intro connectorRuns listenerRuns
  cases step with
  | @connector _ _ result _ _ _ runs taken turned =>
    obtain rfl := isOk_eq_true connectorRuns
    exact (agreeing runs listenerRuns).connectorTurn kept taken turned
  | @listener _ _ result _ _ _ runs taken turned =>
    obtain rfl := isOk_eq_true listenerRuns
    exact (agreeing connectorRuns runs).listenerTurn kept taken turned

end PairView

theorem ConnectorSetup.isSome_initialRoleState {setup : ConnectorSetup}
    {persisted : Option String} {preferConnector paused : Bool}
    (switches : setup.roleSwitchAvailable = true) :
    (setup.initialRoleState persisted preferConnector paused).controllerFingerprint.isSome := by
  simp only [roleSwitchAvailable, Bool.and_eq_true] at switches
  have found : (selectInitialController setup.localFingerprint setup.peerFingerprint
      preferConnector setup.peerSupportsInputInjection setup.peerSupportsInputCapture).isSome :=
    isSome_selectInitialController (.inl switches.2)
  simp only [initialRoleState]
  cases persisted.filter _ with
  | none => exact found
  | some controller => rfl

/-- Before the first turn the sides agree, if one direction of control is complete. -/
theorem PairView.first_agreeing {setup : ConnectorSetup} {listenerSetup : ListenerSetup}
    {state : RoleState} (known : state.controllerFingerprint.isSome)
    (toggles : listenerSetup.controllerSupportsInputToggle = true) :
    (PairView.first setup state listenerSetup).Agreeing where
  toggles := toggles
  forwarding := known
  pause := fun _ => rfl

/-- In every run without a turn that makes the sides differ, once nothing is on its way both
    sides hold the same pause and the same forwarding. -/
theorem sides_agree {start s : Pair} (started : start.Started)
    (switches : start.connector.setup.roleSwitchAvailable = true)
    (toggles : start.listener.setup.controllerSupportsInputToggle = true)
    (run : Pair.machine.Run
      (fun s action => s.meets (fun v event => !v.disagrees event) action = true) start s)
    (connectorRuns : s.connectorOpen = true) (listenerRuns : s.listenerOpen = true)
    (down : s.down = []) (up : s.up = []) :
    s.connector.sessionPaused = s.listener.sessionPaused ∧
      s.connector.inputForwardingEnabled = s.listener.inputForwardingEnabled := by
  obtain ⟨setup, persisted, preferConnector, paused, listenerSetup, paired, first⟩ :=
    started.view_eq
  have switches : setup.roleSwitchAvailable = true :=
    (congrArg (·.connector.setup.roleSwitchAvailable) first).symm.trans switches
  have toggles : listenerSetup.controllerSupportsInputToggle = true :=
    (congrArg (·.listener.setup.controllerSupportsInputToggle) first).symm.trans toggles
  have agreeing : s.view.Agreeing := by
    refine Pair.invariant (I := fun v => v.connectorOpen = true → v.listenerOpen = true → v.Agreeing)
      _ (fun v event v' kept step agreeing => step.agreeing (by simpa using kept) agreeing) run
      ?_ connectorRuns listenerRuns
    rw [first]
    exact fun _ _ => PairView.first_agreeing (ConnectorSetup.isSome_initialRoleState switches) toggles
  have downView : s.view.down = [] := by simp [Pair.view, down]
  have upView : s.view.up = [] := by simp [Pair.view, up]
  have pause := agreeing.pause (by simp [upView])
  have forwarding := agreeing.forwarding
  rw [downView] at pause
  rw [downView, upView] at forwarding
  exact ⟨pause.symm, forwarding⟩

/-- The user of the listener pauses the session. -/
def samplePaused : List (Platform × PairAction) :=
  [({}, .toListener), ({}, .toListener), ({}, .listener (.tray .disconnect)), ({}, .toConnector),
    ({}, .toConnector), ({}, .toListener)]

theorem sides_agree_sample :
    (Pair.machine.reach samplePair samplePaused).connector.sessionPaused =
        (Pair.machine.reach samplePair samplePaused).listener.sessionPaused ∧
      (Pair.machine.reach samplePair samplePaused).connector.inputForwardingEnabled =
        (Pair.machine.reach samplePair samplePaused).listener.inputForwardingEnabled :=
  sides_agree samplePair_started (by decide +kernel) (by decide +kernel)
    (run_reach_of_allowedList (Pair.meets fun v event => !v.disagrees event) (fun _ _ => id)
      samplePaused (by decide +kernel) (by decide +kernel))
    (by decide +kernel) (by decide +kernel) (by decide +kernel) (by decide +kernel)

/-- The user of the listener pauses the session while a handover to the listener is pending. -/
def samplePauseDropped : List (Platform × PairAction) :=
  [({}, .toListener), ({}, .toListener), ({}, .connector (.tray (.setController .peer))),
    ({}, .listener (.tray .disconnect)), ({}, .toConnector), ({}, .toConnector),
    ({}, .toListener), ({}, .toListener), ({}, .toConnector), ({}, .toListener)]

/-- The connector passes the request over and never answers it. -/
theorem pause_dropped_in_handover :
    samplePair.Started ∧
    samplePair.connector.setup.roleSwitchAvailable = true ∧
    samplePair.listener.setup.controllerSupportsInputToggle = true ∧
    Pair.machine.Run Machine.anyAction samplePair
      (Pair.machine.reach samplePair samplePauseDropped) ∧
    (Pair.machine.reach samplePair samplePauseDropped).connectorOpen = true ∧
    (Pair.machine.reach samplePair samplePauseDropped).listenerOpen = true ∧
    (Pair.machine.reach samplePair samplePauseDropped).down = [] ∧
    (Pair.machine.reach samplePair samplePauseDropped).up = [] ∧
    (Pair.machine.reach samplePair samplePauseDropped).connector.coordinator.pending = none ∧
    (Pair.machine.reach samplePair samplePauseDropped).listener.preparedRole = none ∧
    (Pair.machine.reach samplePair samplePauseDropped).connector.sessionPaused = false ∧
    (Pair.machine.reach samplePair samplePauseDropped).listener.sessionPaused = true :=
  ⟨samplePair_started, by decide +kernel, by decide +kernel, run_reach _ (by decide +kernel),
    by decide +kernel, by decide +kernel, by decide +kernel, by decide +kernel,
    by decide +kernel, by decide +kernel, by decide +kernel, by decide +kernel⟩

end EdgeKvm.Session
