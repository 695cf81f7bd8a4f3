import EdgeKvm.Session.ConnectorTurns
import EdgeKvm.Session.ListenerTurns

/-!
# What may be injected

Both loops forward input only while the `InputEpochGate` is open. The gate knows no epoch, so
it must be suspended wherever the node stops receiving; the places that leave it open are
listed in `keepsStale`. In runs that avoid them every injected event was announced by an
`EnterRemote` of its epoch after the node last stopped receiving.
-/

namespace EdgeKvm.Session

open EdgeKvm.Lib Handler Machine

/-- The epochs of the `EnterRemote` frames since the node last stopped receiving, after a turn. -/
def heard (entered : List Nat) (stopped : Bool) (announced : Option Nat) : List Nat :=
  announced.toList ++ if stopped then [] else entered

theorem mem_heard {entered : List Nat} {epoch : Nat} (before : epoch ∈ entered)
    (announced : Option Nat) : epoch ∈ heard entered false announced :=
  List.mem_append_right _ (by simpa using before)

/-- The epoch an `EnterRemote` frame carries. -/
def Frame.announces : Frame → Option Nat
  | .control epoch (.enterRemote _ _) => some epoch
  | _ => none

/-! ## The connector -/

namespace Connector

instance (c : Connector) (event : ConnectorEvent) : Decidable (c.Releases event) :=
  match event with
  | .watchdog _ (some .softInputTimeout) _ _ =>
    inferInstanceAs (Decidable (_ ∧ ¬ (_ ∧ _)))
  | .returnRelease _ _ => inferInstanceAs (Decidable (_ ∧ _ ∧ _ ∧ _ ∧ _))
  | .watchdog _ none _ _ | .watchdog _ (some .hardSessionTimeout) _ _ | .replaced | .heartbeat
  | .capture _ | .captureDisarmed | .audioStarted | .audioTask _ _ | .audioTaskCancelled _
  | .tray _ | .frame _ | .closed => inferInstanceAs (Decidable False)

/-- A turn from `c` to `c'` at which the node stops receiving: a pause or a resume, forwarding
    disabled, a handover prepared or committed, the soft timeout and the return release. -/
def stops (c : Connector) (event : ConnectorEvent) (c' : Connector) : Bool :=
  c'.sessionPaused != c.sessionPaused ||
    (c.inputForwardingEnabled && !c'.inputForwardingEnabled) ||
    (!c.coordinator.isTransitioning && c'.coordinator.isTransitioning) ||
    c'.roleEpoch != c.roleEpoch || c.Releases event

def announces : ConnectorEvent → Option Nat
  | .frame frame => frame.announces
  | _ => none

/-- The loop that remembers which epochs entered since the node last stopped receiving. -/
def hearing : Machine (Connector × List Nat) (Platform × ConnectorEvent) :=
  loop.recording fun entered c action c' =>
    heard entered (c.stops action.2 c') (announces action.2)

/-- The places that leave an open gate open where the node stops: the toggle, and a resume. -/
def keepsStale (c : Connector) (event : ConnectorEvent) : Bool :=
  c.inputEpoch.acceptsInput && !c.coordinator.isTransitioning &&
    match event with
    | .tray .toggleInputForwarding =>
      !c.sessionPaused && c.inputForwardingEnabled &&
        c.coordinator.stable.controllerFingerprint.isSome
    | .tray .reconnect | .frame (.role (.setPaused false)) => c.sessionPaused
    | _ => false

/-- An open gate belongs to a receiver that heard of the committed epoch. -/
def Fresh (s : Connector × List Nat) : Prop :=
  s.1.inputEpoch.acceptsInput = true → s.1.localIsController = false ∧ s.1.roleEpoch ∈ s.2

variable {c c' : Connector} {entered : List Nat} {p : Platform} {event : ConnectorEvent}
  {out : List Effect}

theorem stops_eq_false : c.stops event c' = false ↔
    c'.sessionPaused = c.sessionPaused ∧
      (c.inputForwardingEnabled = true → c'.inputForwardingEnabled = true) ∧
      (c.coordinator.pending = none → c'.coordinator.pending = none) ∧
      c'.roleEpoch = c.roleEpoch ∧ ¬ c.Releases event := by
  simp [stops, and_assoc]

/-- A turn that leaves the gate and the assignment as they are keeps what was heard, unless the
    node stops there. -/
theorem Fresh.kept (fresh : Fresh (c, entered)) (gate : c'.inputEpoch = c.inputEpoch)
    (epoch : c'.roleEpoch = c.roleEpoch) (controls : c'.localIsController = c.localIsController)
    (continues : c.inputEpoch.acceptsInput = true → c.localIsController = false →
      c.stops event c' = false) : Fresh (c', heard entered (c.stops event c') (announces event)) := by
  intro accepts
  simp only [gate] at accepts
  obtain ⟨receives, before⟩ := fresh accepts
  refine ⟨controls.trans receives, ?_⟩
  simp only [epoch, continues accepts receives]
  exact mem_heard before _

theorem Fresh.suspended (suspended : c'.inputEpoch.suspended = true) :
    Fresh (c', entered) := by
  intro accepts
  simp [InputEpochGate.acceptsInput, suspended] at accepts

/-- What one turn keeps, away from the stale places. -/
theorem Turned.fresh (turned : c.Turned event (.ok ()) c' out)
    (allowed : c.keepsStale event = false) (fresh : Fresh (c, entered)) :
    Fresh (c', heard entered (c.stops event c') (announces event)) := by
  cases turned with
  | left ended => exact absurd rfl ended
  | idle gate after ignored core silent still =>
    simp only [Connector.core, ConnectorCore.mk.injEq] at core
    obtain ⟨-, pending, epoch, controls, paused, enabled, gated, -⟩ := core
    obtain suspended | ⟨same, calm⟩ := after
    · exact .suspended (gated ▸ suspended)
    · refine fresh.kept (gated.trans same) epoch controls fun _ _ => stops_eq_false.mpr ?_
      exact ⟨paused, enabled.trans, (congrArg (·.pending) pending).trans, epoch, calm rfl⟩
  | injected input received receives core effects =>
    simp only [Connector.core, ConnectorCore.mk.injEq] at core
    obtain ⟨-, pending, epoch, controls, paused, enabled, gate, -⟩ := core
    subst received
    refine fresh.kept gate epoch controls fun _ _ => stops_eq_false.mpr ?_
    exact ⟨paused, enabled.trans, (congrArg (·.pending) pending).trans, epoch, id⟩
  | entered edge position received receives core silent still =>
    simp only [Connector.core, ConnectorCore.mk.injEq] at core
    subst received
    intro _
    have epoch : c'.roleEpoch = c.core.roleEpoch := core.2.2.1
    exact ⟨core.2.2.2.1.trans receives, by simp [heard, announces, Frame.announces, epoch]⟩
  | toggled command free core sends still =>
    simp only [Connector.core, ConnectorCore.mk.injEq] at core free
    obtain ⟨-, pending, epoch, controls, paused, enabled, gate, -⟩ := core
    subst command
    refine fresh.kept gate epoch controls fun accepts _ => stops_eq_false.mpr ?_
    have disabled : c.inputForwardingEnabled = false := by
      cases enabled : c.inputForwardingEnabled
      · rfl
      · simp [keepsStale, accepts, free, enabled] at allowed
    exact ⟨paused, by simp [disabled], (congrArg (·.pending) pending).trans, epoch, id⟩
  | forwarded enabled received gate after core silent still =>
    simp only [Connector.core, ConnectorCore.mk.injEq] at core after
    obtain ⟨-, pending, epoch, controls, paused, forwarding, gated, -⟩ := core
    subst received
    obtain suspended | ⟨same, switched⟩ := after
    · exact .suspended (gated ▸ suspended)
    · refine fresh.kept (gated.trans same) epoch controls fun _ receives => stops_eq_false.mpr ?_
      have enabled : enabled = true := switched.resolve_right (by simp [receives])
      exact ⟨paused, fun _ => forwarding.trans enabled,
        (congrArg (·.pending) pending).trans, epoch, id⟩
  | prepared requested prepare coordinator readiness begun proposed core sends still =>
    simp only [Connector.core, ConnectorCore.mk.injEq] at core
    exact .suspended (core.2.2.2.2.2.2.1 ▸ rfl)
  | aborted detail pending ignored waiting gate after core sends still =>
    simp only [Connector.core, ConnectorCore.mk.injEq] at core
    obtain ⟨-, given, epoch, controls, paused, enabled, gated, -⟩ := core
    obtain suspended | ⟨same, calm⟩ := after
    · exact .suspended (gated ▸ suspended)
    · refine fresh.kept (gated.trans same) epoch controls fun _ _ => stops_eq_false.mpr ?_
      exact ⟨paused, enabled.trans, fun _ => given ▸ rfl, epoch, calm rfl⟩
  | committed pending waiting detail received ready core sends still =>
    simp only [Connector.core, ConnectorCore.mk.injEq] at core
    exact .suspended (core.2.2.2.2.2.2.1 ▸ rfl)
  | paused paused commanded free gate after core sends still =>
    simp only [Connector.core, ConnectorCore.mk.injEq] at core free
    obtain ⟨-, changed, epoch, controls, pausing, enabled, gated, -⟩ := core
    obtain suspended | ⟨same, resumes⟩ := after
    · exact .suspended (gated ▸ suspended)
    · refine fresh.kept (gated.trans same) epoch controls fun accepts _ => stops_eq_false.mpr ?_
      subst resumes
      have calm : ¬ c.Releases event := by
        obtain command | received := commanded <;> subst event <;> exact id
      have unpaused : c.sessionPaused = false := by
        obtain command | received := commanded <;> subst event <;>
          simpa [keepsStale, accepts, free] using allowed
      exact ⟨pausing.trans unpaused.symm, enabled.trans,
        fun _ => (congrArg (·.pending) changed).trans free, epoch, calm⟩

theorem fresh_of_run {start : Connector} (started : start.Started) {s : Connector × List Nat}
    (run : hearing.Run (fun s action => s.1.keepsStale action.2 = false) (start, []) s) :
    Fresh s := by
  refine run.invariant (I := Fresh) ?_ ?_
  · rintro ⟨c, entered⟩ ⟨p, event⟩ ⟨c', entered'⟩ allowed executed fresh
    obtain ⟨executed, noted⟩ := exec_recording.mp executed
    simp only at noted
    subst noted
    exact (exec_turned executed).fresh allowed fresh
  · exact .suspended started.suspended

/-- What a turn injects was received with the committed epoch by a node that receives. -/
theorem injected_receives {input : InputEvent} (injects : input ∈ injected (handle p event c).output) :
    event = .frame (.input c.roleEpoch input) ∧ c.localIsController = false ∧
      c.inputForwardingEnabled = true ∧ c.sessionPaused = false ∧
      c.inputEpoch.acceptsInput = true := by
  cases turned p c event with
  | injected other received receives core effects =>
    rw [effects] at injects
    obtain rfl : input = other := by simpa using injects
    exact ⟨received, receives⟩
  | _ => simp_all

end Connector

/-! ## The listener -/

namespace Listener

instance (l : Listener) (event : ListenerEvent) : Decidable (l.Releases event) :=
  match event with
  | .watchdog _ (some .softInputTimeout) => inferInstanceAs (Decidable (_ = true))
  | .returnRelease _ _ => inferInstanceAs (Decidable (_ ∧ _ ∧ _ ∧ _ ∧ _))
  | .watchdog _ none | .watchdog _ (some .hardSessionTimeout) | .replaced | .heartbeat
  | .statusLog _ _ | .capture _ | .captureDisarmed | .audioStarted | .audioTask _ _
  | .audioTaskCancelled _ | .tray _ | .frame _ | .closed => inferInstanceAs (Decidable False)

/-- A frame that prepares or commits a handover. -/
def handsOver (l : Listener) (event : ListenerEvent) (l' : Listener) : Bool :=
  match event with
  | .frame (.role (.prepare prepare)) =>
    !l.sessionPaused && l.setup.roleSwitchAvailable &&
      (validatePrepare l.currentRoleState prepare l.setup.controllerFingerprint
        l.setup.localFingerprint).isOk
  | .frame (.role (.commit _)) => l'.roleEpoch != l.roleEpoch
  | _ => false

/-- A turn from `l` to `l'` at which the node stops receiving: a pause or a resume, forwarding
    disabled, a handover prepared or committed, the soft timeout and the return release. -/
def stops (l : Listener) (event : ListenerEvent) (l' : Listener) : Bool :=
  l'.sessionPaused != l.sessionPaused ||
    (l.inputForwardingEnabled && !l'.inputForwardingEnabled) || l.handsOver event l' ||
    l.Releases event

def announces : ListenerEvent → Option Nat
  | .frame frame => frame.announces
  | _ => none

/-- The loop that remembers which epochs entered since the node last stopped receiving. -/
def hearing : Machine (Listener × List Nat) (Platform × ListenerEvent) :=
  loop.recording fun entered l action l' =>
    heard entered (l.stops action.2 l') (announces action.2)

/-- The places that leave an open gate open where the node stops: the tray commands, a resume,
    and a `SessionState` that changes the assignment or resumes. -/
def keepsStale (l : Listener) (event : ListenerEvent) : Bool :=
  l.inputEpoch.acceptsInput &&
    match event with
    | .tray .disconnect => l.setup.controllerSupportsRoleSwitch && !l.sessionPaused
    | .tray .reconnect => l.setup.controllerSupportsRoleSwitch && l.sessionPaused
    | .tray .toggleInputForwarding => l.preparedRole.isNone && l.inputForwardingEnabled
    | .frame (.role (.setPaused false)) => l.sessionPaused
    | .frame (.role (.sessionState state)) =>
      !state.paused && state.controllerFingerprint.isSome &&
        (l.sessionPaused || state.roleEpoch != l.roleEpoch ||
          state.controllerFingerprint = some l.setup.localFingerprint)
    | _ => false

/-- An open gate belongs to a receiver that heard of the committed epoch. -/
def Fresh (s : Listener × List Nat) : Prop :=
  s.1.inputEpoch.acceptsInput = true → s.1.localIsController = false ∧ s.1.roleEpoch ∈ s.2

variable {l l' : Listener} {entered : List Nat} {p : Platform} {event : ListenerEvent}
  {out : List Effect}

theorem stops_eq_false : l.stops event l' = false ↔
    l'.sessionPaused = l.sessionPaused ∧
      (l.inputForwardingEnabled = true → l'.inputForwardingEnabled = true) ∧
      l.handsOver event l' = false ∧ ¬ l.Releases event := by
  simp [stops, and_assoc]

/-- A turn that leaves the gate and the epoch as they are keeps what was heard, unless the node
    stops there. -/
theorem Fresh.kept (fresh : Fresh (l, entered)) (gate : l'.inputEpoch = l.inputEpoch)
    (continues : l.inputEpoch.acceptsInput = true → l.localIsController = false →
      l'.roleEpoch = l.roleEpoch ∧ l'.localIsController = false ∧ l.stops event l' = false) :
    Fresh (l', heard entered (l.stops event l') (announces event)) := by
  intro accepts
  simp only [gate] at accepts
  obtain ⟨receives, before⟩ := fresh accepts
  obtain ⟨epoch, receiving, goes⟩ := continues accepts receives
  refine ⟨receiving, ?_⟩
  simp only [epoch, goes]
  exact mem_heard before _

theorem Fresh.suspended (suspended : l'.inputEpoch.suspended = true) :
    Fresh (l', entered) := by
  intro accepts
  simp [InputEpochGate.acceptsInput, suspended] at accepts

/-- What one turn keeps, away from the stale places. -/
theorem Turned.fresh (turned : l.Turned event (.ok ()) l' out)
    (allowed : l.keepsStale event = false) (fresh : Fresh (l, entered)) :
    Fresh (l', heard entered (l.stops event l') (announces event)) := by
  cases turned with
  | left ended => exact absurd rfl ended
  | idle gate after ignored core silent still =>
    simp only [Listener.core, ListenerCore.mk.injEq] at core
    obtain ⟨-, gated, enabled, paused, epoch, -, controls, -⟩ := core
    obtain suspended | ⟨same, calm⟩ := after
    · exact .suspended (gated ▸ suspended)
    · refine fresh.kept (gated.trans same) fun _ receives =>
        ⟨epoch, controls.trans receives, stops_eq_false.mpr ?_⟩
      refine ⟨paused, enabled.trans, ?_, calm rfl⟩
      unfold handsOver
      split
      · have invalid := ignored
        simp only [ListenerCore.MayIgnore, Listener.core] at invalid
        simp [isOk_eq_false invalid]
      · simp [epoch]
      · rfl
  | injected input received receives core effects =>
    simp only [Listener.core, ListenerCore.mk.injEq] at core
    obtain ⟨-, gate, enabled, paused, epoch, -, controls, -⟩ := core
    subst received
    exact fresh.kept gate fun _ receives =>
      ⟨epoch, controls.trans receives, stops_eq_false.mpr ⟨paused, enabled.trans, rfl, id⟩⟩
  | entered edge position received receives core silent still =>
    simp only [Listener.core, ListenerCore.mk.injEq] at core
    obtain ⟨-, -, -, -, epoch, -, controls, -⟩ := core
    subst received
    exact fun _ => ⟨controls.trans receives, by
      simp [heard, announces, Frame.announces, epoch, Listener.core]⟩
  | toggled command free core sends still =>
    simp only [Listener.core, ListenerCore.mk.injEq] at core free
    obtain ⟨-, gate, enabled, paused, epoch, -, controls, -⟩ := core
    subst command
    refine fresh.kept gate fun accepts receives =>
      ⟨epoch, controls.trans receives, stops_eq_false.mpr ⟨paused, ?_, rfl, id⟩⟩
    have disabled : l.inputForwardingEnabled = false := by
      cases enabled : l.inputForwardingEnabled
      · rfl
      · simp [keepsStale, accepts, free, enabled] at allowed
    simp [disabled]
  | forwarded enabled received gate after core silent still =>
    simp only [Listener.core, ListenerCore.mk.injEq] at core after
    obtain ⟨-, gated, forwarding, paused, epoch, -, controls, -⟩ := core
    subst received
    obtain suspended | ⟨same, enabled⟩ := after
    · exact .suspended (gated ▸ suspended)
    · exact fresh.kept (gated.trans same) fun _ receives =>
        ⟨epoch, controls.trans receives, stops_eq_false.mpr
          ⟨paused, fun _ => forwarding.trans enabled, rfl, id⟩⟩
  | paused paused command supported core sends still =>
    simp only [Listener.core, ListenerCore.mk.injEq] at core supported
    obtain ⟨-, gate, enabled, pausing, epoch, -, controls, -⟩ := core
    subst command
    refine fresh.kept gate fun accepts receives =>
      ⟨epoch, controls.trans receives, stops_eq_false.mpr ?_⟩
    cases paused with
    | false =>
      have unpaused : l.sessionPaused = false := by
        simpa [keepsStale, accepts, supported] using allowed
      exact ⟨pausing.trans unpaused.symm, enabled.trans, rfl, id⟩
    | true =>
      have already : l.sessionPaused = true := by
        simpa [keepsStale, accepts, supported] using allowed
      exact ⟨pausing.trans already.symm, enabled.trans, rfl, id⟩
  | pausedByPeer paused received gate after core silent still =>
    simp only [Listener.core, ListenerCore.mk.injEq] at core after
    obtain ⟨-, gated, enabled, pausing, epoch, -, controls, -⟩ := core
    obtain suspended | ⟨same, resumes⟩ := after
    · exact .suspended (gated ▸ suspended)
    · subst received resumes
      refine fresh.kept (gated.trans same) fun accepts receives =>
        ⟨epoch, controls.trans receives, stops_eq_false.mpr ?_⟩
      have unpaused : l.sessionPaused = false := by
        simpa [keepsStale, accepts] using allowed
      exact ⟨pausing.trans unpaused.symm, enabled.trans, rfl, id⟩
  | session state received gate after core silent still =>
    simp only [Listener.core, ListenerCore.mk.injEq] at core after
    obtain ⟨-, gated, enabled, pausing, epoch, -, controls, -⟩ := core
    obtain suspended | ⟨same, resumes, named⟩ := after
    · exact .suspended (gated ▸ suspended)
    · subst received
      refine fresh.kept (gated.trans same) fun accepts receives => ?_
      have unchanged : (l.sessionPaused = false ∧ state.roleEpoch = l.roleEpoch) ∧
          state.controllerFingerprint ≠ some l.setup.localFingerprint := by
        simpa [keepsStale, accepts, resumes, named] using allowed
      exact ⟨epoch.trans unchanged.1.2, controls.trans (decide_eq_false unchanged.2),
        stops_eq_false.mpr ⟨by rw [pausing, resumes, unchanged.1.1], enabled.trans, rfl, id⟩⟩
  | expired passes gate after core silent still =>
    simp only [Listener.core, ListenerCore.mk.injEq] at core
    obtain ⟨-, gated, enabled, paused, epoch, -, controls, -⟩ := core
    obtain ⟨liveness, rfl⟩ := passes
    obtain suspended | ⟨same, calm⟩ := after
    · exact .suspended (gated ▸ suspended)
    · exact fresh.kept (gated.trans same) fun _ receives =>
        ⟨epoch, controls.trans receives, stops_eq_false.mpr ⟨paused, enabled.trans, rfl, calm rfl⟩⟩
  | dropped event_eq prepared waiting detail core sends still =>
    simp only [Listener.core, ListenerCore.mk.injEq] at core
    obtain ⟨-, gate, enabled, paused, epoch, -, controls, -⟩ := core
    subst event_eq
    exact fresh.kept gate fun _ receives =>
      ⟨epoch, controls.trans receives, stops_eq_false.mpr ⟨paused, enabled.trans, rfl, id⟩⟩
  | refused prepare received unable detail core sends still =>
    simp only [Listener.core, ListenerCore.mk.injEq] at core unable
    obtain ⟨-, gate, enabled, paused, epoch, -, controls, -⟩ := core
    subst received
    refine fresh.kept gate fun _ receives =>
      ⟨epoch, controls.trans receives, stops_eq_false.mpr ⟨paused, enabled.trans, ?_, id⟩⟩
    obtain pausing | unavailable := unable <;> simp [handsOver, *]
  | prepared prepare received valid gate after captureReady detail core sends still =>
    simp only [Listener.core, ListenerCore.mk.injEq] at core after
    obtain ⟨-, gated, -⟩ := core
    obtain suspended | ⟨same, controls⟩ := after
    · exact .suspended (gated ▸ suspended)
    · exact fresh.kept (gated.trans same) fun _ receives => by simp [receives] at controls
  | committed prepared commit controller received waiting valid named core sends still =>
    simp only [Listener.core, ListenerCore.mk.injEq] at core
    exact .suspended (core.2.1 ▸ rfl)
  | aborted abort received core silent still =>
    simp only [Listener.core, ListenerCore.mk.injEq] at core
    obtain ⟨-, gate, enabled, paused, epoch, -, controls, -⟩ := core
    subst received
    exact fresh.kept gate fun _ receives =>
      ⟨epoch, controls.trans receives, stops_eq_false.mpr ⟨paused, enabled.trans, rfl, id⟩⟩

theorem fresh_of_run {start : Listener} (started : start.Started) {s : Listener × List Nat}
    (run : hearing.Run (fun s action => s.1.keepsStale action.2 = false) (start, []) s) :
    Fresh s := by
  refine run.invariant (I := Fresh) ?_ ?_
  · rintro ⟨l, entered⟩ ⟨p, event⟩ ⟨l', entered'⟩ allowed executed fresh
    obtain ⟨executed, noted⟩ := exec_recording.mp executed
    simp only at noted
    subst noted
    exact (exec_turned executed).fresh allowed fresh
  · obtain ⟨setup, capture, -, rfl⟩ := started
    exact .suspended rfl

/-- What a turn injects was received with the committed epoch by a node that receives. -/
theorem injected_receives {input : InputEvent}
    (injects : input ∈ injected (handle p event l).output) :
    event = .frame (.input l.roleEpoch input) ∧ l.localIsController = false ∧
      l.inputForwardingEnabled = true ∧ l.sessionPaused = false ∧
      l.inputEpoch.acceptsInput = true := by
  cases turned p l event with
  | injected other received receives core effects =>
    rw [effects] at injects
    obtain rfl : input = other := by simpa using injects
    exact ⟨received, receives⟩
  | _ => simp_all

end Listener

/-! ## Whole runs -/

/-- In runs that avoid the stale places, what either loop injects was received with the committed
    epoch by an unpaused, enabled receiver, after an `EnterRemote` of that epoch which came after
    the node last stopped receiving. -/
theorem no_stale_input_injected {start c : Connector} {start' l : Listener}
    {entered entered' : List Nat} :
    (start.Started →
      Connector.hearing.Run (fun s action => s.1.keepsStale action.2 = false) (start, [])
        (c, entered) →
      ∀ p event input, input ∈ injected (Connector.handle p event c).output →
        event = .frame (.input c.roleEpoch input) ∧ c.localIsController = false ∧
          c.sessionPaused = false ∧ c.inputForwardingEnabled = true ∧ c.roleEpoch ∈ entered) ∧
    (start'.Started →
      Listener.hearing.Run (fun s action => s.1.keepsStale action.2 = false) (start', [])
        (l, entered') →
      ∀ p event input, input ∈ injected (Listener.handle p event l).output →
        event = .frame (.input l.roleEpoch input) ∧ l.localIsController = false ∧
          l.sessionPaused = false ∧ l.inputForwardingEnabled = true ∧ l.roleEpoch ∈ entered') := by
  constructor
  · intro started run p event input injects
    obtain ⟨received, receives, enabled, unpaused, accepts⟩ := Connector.injected_receives injects
    exact ⟨received, receives, unpaused, enabled, (Connector.fresh_of_run started run accepts).2⟩
  · intro started run p event input injects
    obtain ⟨received, receives, enabled, unpaused, accepts⟩ := Listener.injected_receives injects
    exact ⟨received, receives, unpaused, enabled, (Listener.fresh_of_run started run accepts).2⟩

/-- The connector hands the control over, and the listener's pointer enters. -/
def sampleEntered : List (Platform × ConnectorEvent) :=
  [({}, .tray (.setController .peer)), ({}, .frame (.role (.ready 2 true true none))),
    ({}, .frame (.control 2 (.enterRemote .right 0)))]

/-- The pointer enters a listener that was paused and resumed before. -/
def sampleResumedEntered : List (Platform × ListenerEvent) :=
  [({}, .tray .disconnect), ({}, .tray .reconnect),
    ({}, .frame (.control initialRoleEpoch (.enterRemote .left 0)))]

def sampleMotion : InputEvent := .pointerMotion 1 1

theorem no_stale_input_injected_sample :
    2 ∈ (Connector.hearing.reach (sampleConnector, []) sampleEntered).2 ∧
    initialRoleEpoch ∈ (Listener.hearing.reach (sampleListener, []) sampleResumedEntered).2 :=
  have fresh := no_stale_input_injected
    (c := (Connector.hearing.reach (sampleConnector, []) sampleEntered).1)
    (l := (Listener.hearing.reach (sampleListener, []) sampleResumedEntered).1)
  ⟨(fresh.1 sampleConnector_started
      (run_reach_of_allowedList (fun s action => !s.1.keepsStale action.2) (by simp)
        sampleEntered (by decide +kernel) (by decide +kernel))
      {} (.frame (.input 2 sampleMotion)) sampleMotion (by decide +kernel)).2.2.2.2,
    (fresh.2 sampleListener_started
      (run_reach_of_allowedList (fun s action => !s.1.keepsStale action.2) (by simp)
        sampleResumedEntered (by decide +kernel) (by decide +kernel))
      {} (.frame (.input initialRoleEpoch sampleMotion)) sampleMotion
      (by decide +kernel)).2.2.2.2⟩

/-- The pointer enters a listener, which is then paused and resumed from the tray. -/
def sampleStaleGate : List (Platform × ListenerEvent) :=
  [({}, .frame (.control initialRoleEpoch (.enterRemote .left 0))), ({}, .tray .disconnect),
    ({}, .tray .reconnect)]

/-- The gate survives the pause, and input from before it is injected. -/
theorem stale_input_injected :
    sampleListener.Started ∧
    Listener.hearing.Run Machine.anyAction (sampleListener, [])
      (Listener.hearing.reach (sampleListener, []) sampleStaleGate) ∧
    sampleMotion ∈ injected (Listener.handle {} (.frame (.input initialRoleEpoch sampleMotion))
      (Listener.hearing.reach (sampleListener, []) sampleStaleGate).1).output ∧
    (Listener.hearing.reach (sampleListener, []) sampleStaleGate).2 = [] :=
  ⟨sampleListener_started, run_reach _ (by decide +kernel), by decide +kernel, by decide +kernel⟩

end EdgeKvm.Session
