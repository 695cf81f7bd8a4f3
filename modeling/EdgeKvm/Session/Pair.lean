import EdgeKvm.Session.ConnectorTurns
import EdgeKvm.Session.ListenerTurns
import EdgeKvm.Lib.Transit

/-!
# A connector and a listener

The two loops of one session and the frames between them. Either loop takes a turn on an event
of its own or on the oldest frame of its queue; what it sends is put behind the frames already
on their way. `PairView` keeps of this what the handover, the pause and the forwarding depend
on, and `Pair.exec_step` says that every action is one step of it.
-/

namespace EdgeKvm.Session

open EdgeKvm.Lib Handler Machine

/-- Both loops, whether they still run, and the frames on their way, oldest first. -/
structure Pair where
  connector : Connector
  listener : Listener
  connectorOpen : Bool := true
  listenerOpen : Bool := true
  down : List Frame
  up : List Frame := []

/-- Which loop takes the next turn, and on what. -/
inductive PairAction where
  | connector (event : ConnectorEvent)
  | listener (event : ListenerEvent)
  | toConnector
  | toListener

/-- The event a loop takes its turn on. -/
inductive PairEvent where
  | connector (event : ConnectorEvent)
  | listener (event : ListenerEvent)

def ConnectorEvent.frame? : ConnectorEvent → Option Frame
  | .frame received => some received
  | _ => none

def ListenerEvent.frame? : ListenerEvent → Option Frame
  | .frame received => some received
  | _ => none

@[simp] theorem ConnectorEvent.frame?_eq_some {event : ConnectorEvent} {received : Frame} :
    event.frame? = some received ↔ event = .frame received := by
  cases event <;> simp [frame?]

@[simp] theorem ListenerEvent.frame?_eq_some {event : ListenerEvent} {received : Frame} :
    event.frame? = some received ↔ event = .frame received := by
  cases event <;> simp [frame?]

namespace Pair

/-- The event of an action, and the queues without the frame it takes. -/
def take (s : Pair) : PairAction → Option (PairEvent × Pair)
  | .connector event => if event.frame?.isNone then some (.connector event, s) else none
  | .listener event => if event.frame?.isNone then some (.listener event, s) else none
  | .toConnector =>
    match s.up with
    | frame :: up => some (.connector (.frame frame), { s with up })
    | [] => none
  | .toListener =>
    match s.down with
    | frame :: down => some (.listener (.frame frame), { s with down })
    | [] => none

/-- The turn of a loop that still runs. -/
def turn (p : Platform) (s : Pair) : PairEvent → Option Pair
  | .connector event =>
    let turn := Connector.handle p event s.connector
    if s.connectorOpen then
      some { s with
        connector := turn.state, connectorOpen := turn.result.isOk
        down := s.down ++ sent turn.output }
    else none
  | .listener event =>
    let turn := Listener.handle p event s.listener
    if s.listenerOpen then
      some { s with
        listener := turn.state, listenerOpen := turn.result.isOk
        up := s.up ++ sent turn.output }
    else none

/-- The two loops of a session; what the portal and the file system answer is part of the
    action. -/
def machine : Machine Pair (Platform × PairAction) where
  exec s action := (s.take action.2).bind fun taken => taken.2.turn action.1 taken.1

end Pair

/-! ## The start of a session -/

/-- The setups name each other. -/
structure Paired (connector : ConnectorSetup) (listener : ListenerSetup) : Prop where
  connectorKnown : listener.controllerFingerprint = connector.localFingerprint
  listenerKnown : listener.localFingerprint = connector.peerFingerprint
  distinct : connector.localFingerprint ≠ connector.peerFingerprint

/-- The assignment the connector starts a session with: the one stored for this pair, or the one
    `select_initial_controller` finds. -/
def ConnectorSetup.initialRoleState (setup : ConnectorSetup) (persisted : Option String)
    (preferConnector paused : Bool) : RoleState :=
  { controllerFingerprint :=
      (persisted.filter fun controller =>
        controller = setup.localFingerprint || controller = setup.peerFingerprint).orElse fun _ =>
      selectInitialController setup.localFingerprint setup.peerFingerprint preferConnector
        setup.peerSupportsInputInjection setup.peerSupportsInputCapture
    roleEpoch := initialRoleEpoch
    transition := .stable
    listenerPosition := setup.edge
    paused
    failureDetail := none }

/-- Both loops before their first turn: the connector has sent its assignment and whatever comes
    before its loop. -/
def Pair.Started (s : Pair) : Prop :=
  ∃ setup persisted preferConnector paused capture source p first listenerSetup listenerCapture,
    Paired setup listenerSetup ∧
    Connector.initial setup (setup.initialRoleState persisted preferConnector paused) capture source
      = .ok first ∧
    (Connector.start p first).result = .ok () ∧
    s =
      { connector := (Connector.start p first).state
        listener := .initial listenerSetup listenerCapture
        down :=
          .role (.sessionState (setup.initialRoleState persisted preferConnector paused)) ::
            sent (Connector.start p first).output }

/-! ## The view on a pair -/

/-- The role, pause and forwarding variables of both loops, and the signals on their way. -/
structure PairView where
  connector : ConnectorCore
  listener : ListenerCore
  connectorOpen : Bool
  listenerOpen : Bool
  down : List Frame
  up : List Frame

def Pair.view (s : Pair) : PairView :=
  { connector := s.connector.core, listener := s.listener.core
    connectorOpen := s.connectorOpen, listenerOpen := s.listenerOpen
    down := s.down.filter (·.isSignal), up := s.up.filter (·.isSignal) }

/-- The signal a turn takes from its queue. -/
def signal (frame : Option Frame) : List Frame := (frame.filter (·.isSignal)).toList

@[simp] theorem signal_none : signal none = [] := rfl

theorem signal_eq {frame : Option Frame} : signal frame = frame.toList.filter (·.isSignal) := by
  cases frame with
  | none => rfl
  | some frame => cases signals : frame.isSignal <;> simp [signal, signals]

theorem signal_some {frame : Frame} : signal (some frame) = [frame].filter (·.isSignal) :=
  signal_eq

/-- One turn of either loop, as the view sees it. -/
inductive PairView.Step (v : PairView) : PairEvent → PairView → Prop
  | connector {event : ConnectorEvent} {released : Prop} {result : Except SessionExit Unit}
      {k' : ConnectorCore} {out : List Effect} {up : List Frame}
      (runs : v.connectorOpen = true) (taken : v.up = signal event.frame? ++ up)
      (turned : v.connector.Turned released event result k' out) :
      Step v (.connector event)
        { v with
          connector := k', connectorOpen := result.isOk, down := v.down ++ signals out, up }
  | listener {event : ListenerEvent} {released : Prop} {result : Except SessionExit Unit}
      {k' : ListenerCore} {out : List Effect} {down : List Frame}
      (runs : v.listenerOpen = true) (taken : v.down = signal event.frame? ++ down)
      (turned : v.listener.Turned released event result k' out) :
      Step v (.listener event)
        { v with
          listener := k', listenerOpen := result.isOk, up := v.up ++ signals out, down }

/-- A loop that runs has run before, with the same setup. -/
theorem PairView.Step.setups {v v' : PairView} {event : PairEvent} (step : v.Step event v') :
    (v'.connectorOpen = true →
      v.connectorOpen = true ∧ v'.connector.setup = v.connector.setup) ∧
    (v'.listenerOpen = true → v.listenerOpen = true ∧ v'.listener.setup = v.listener.setup) := by
  cases step with
  | connector runs taken turned =>
    refine ⟨fun runs' => ?_, fun runs => ⟨runs, rfl⟩⟩
    rw [isOk_eq_true runs'] at turned
    exact ⟨runs, turned.setup_eq⟩
  | listener runs taken turned =>
    refine ⟨fun runs => ⟨runs, rfl⟩, fun runs' => ?_⟩
    rw [isOk_eq_true runs'] at turned
    exact ⟨runs, turned.setup_eq⟩

namespace Pair

variable {s s' t : Pair} {p : Platform} {action : PairAction} {event : PairEvent}

/-- The queues a turn starts from: only its own gives a frame. -/
theorem take_frame (taken : s.take action = some (event, s')) :
    match event with
    | .connector event => s' = { s with up := s'.up } ∧ s.up = event.frame?.toList ++ s'.up
    | .listener event => s' = { s with down := s'.down } ∧
        s.down = event.frame?.toList ++ s'.down := by
  cases action with
  | connector event' | listener event' =>
    simp only [take, Option.ite_none_right_eq_some, Option.some.injEq, Prod.mk.injEq] at taken
    obtain ⟨own, rfl, rfl⟩ := taken
    simp [Option.isNone_iff_eq_none.mp own]
  | toConnector | toListener =>
    simp only [take] at taken
    split at taken
    · rename_i queue
      cases taken
      exact ⟨rfl, queue⟩
    · cases taken

/-- The view of the queues a turn starts from. -/
theorem take_view (taken : s.take action = some (event, s')) :
    s'.connector = s.connector ∧ s'.listener = s.listener ∧
      s'.connectorOpen = s.connectorOpen ∧ s'.listenerOpen = s.listenerOpen ∧
      match event with
      | .connector event => s'.view.down = s.view.down ∧
          s.view.up = signal event.frame? ++ s'.view.up
      | .listener event => s'.view.up = s.view.up ∧
          s.view.down = signal event.frame? ++ s'.view.down := by
  have queues := take_frame taken
  cases event with
  | connector event =>
    obtain ⟨same, up⟩ := queues
    refine ⟨by rw [same], by rw [same], by rw [same], by rw [same], by rw [same]; rfl, ?_⟩
    simp only [view, up, List.filter_append, signal_eq]
  | listener event =>
    obtain ⟨same, down⟩ := queues
    refine ⟨by rw [same], by rw [same], by rw [same], by rw [same], by rw [same]; rfl, ?_⟩
    simp only [view, down, List.filter_append, signal_eq]

/-- Every action of the pair is one step of the view. -/
theorem exec_step (executed : machine.exec s (p, action) = some t) :
    ∃ event s', s.take action = some (event, s') ∧ s.view.Step event t.view := by
  obtain ⟨⟨event, s'⟩, taken, turned⟩ := Option.bind_eq_some_iff.mp executed
  refine ⟨event, s', taken, ?_⟩
  obtain ⟨connector, listener, connectorOpen, listenerOpen, queues⟩ := take_view taken
  cases event with
  | connector event =>
    simp only [turn, Option.ite_none_right_eq_some, Option.some.injEq] at turned
    obtain ⟨runs, rfl⟩ := turned
    obtain ⟨(down : s'.down.filter (·.isSignal) = s.down.filter (·.isSignal)), up⟩ := queues
    have step := PairView.Step.connector (v := s.view) (connectorOpen.symm.trans runs) up
      (Connector.turned p s.connector event)
    simpa only [view, connector, listener, listenerOpen, down, signals, List.filter_append]
      using step
  | listener event =>
    simp only [turn, Option.ite_none_right_eq_some, Option.some.injEq] at turned
    obtain ⟨runs, rfl⟩ := turned
    obtain ⟨(up : s'.up.filter (·.isSignal) = s.up.filter (·.isSignal)), down⟩ := queues
    have step := PairView.Step.listener (v := s.view) (listenerOpen.symm.trans runs) down
      (Listener.turned p s.listener event)
    simpa only [view, connector, listener, connectorOpen, up, signals, List.filter_append]
      using step

/-- The event that `action` is a turn on passes the test on the view. -/
def meets (test : PairView → PairEvent → Bool) (s : Pair) (action : Platform × PairAction) : Bool :=
  match s.take action.2 with
  | some (event, _) => test s.view event
  | none => true

/-- What the steps of the view preserve holds along a run. -/
theorem invariant {I : PairView → Prop} (test : PairView → PairEvent → Bool)
    (preserved : ∀ v event v', test v event = true → v.Step event v' → I v → I v')
    {start s : Pair} (run : machine.Run (fun s action => s.meets test action = true) start s)
    (initial : I start.view) : I s.view := by
  refine run.invariant (I := fun s => I s.view) ?_ initial
  rintro s ⟨p, action⟩ t allowed executed holds
  obtain ⟨event, s', taken, step⟩ := exec_step executed
  exact preserved _ event _ (by simpa [meets, taken] using allowed) step holds

/-- A loop that runs has run all along, with the setup it started with. -/
theorem exec_setups (executed : machine.exec s (p, action) = some t) :
    (t.connectorOpen = true →
      s.connectorOpen = true ∧ t.connector.setup = s.connector.setup) ∧
    (t.listenerOpen = true → s.listenerOpen = true ∧ t.listener.setup = s.listener.setup) := by
  obtain ⟨event, s', taken, step⟩ := exec_step executed
  exact step.setups

theorem run_setups {ok : Pair → Platform × PairAction → Prop} (run : machine.Run ok s t) :
    (t.connectorOpen = true →
      s.connectorOpen = true ∧ t.connector.setup = s.connector.setup) ∧
    (t.listenerOpen = true → s.listenerOpen = true ∧ t.listener.setup = s.listener.setup) := by
  refine run.invariant (I := fun t => (t.connectorOpen = true →
      s.connectorOpen = true ∧ t.connector.setup = s.connector.setup) ∧
    (t.listenerOpen = true → s.listenerOpen = true ∧ t.listener.setup = s.listener.setup)) ?_
    ⟨fun runs => ⟨runs, rfl⟩, fun runs => ⟨runs, rfl⟩⟩
  rintro u ⟨p, action⟩ v - executed ⟨connector, listener⟩
  obtain ⟨connector', listener'⟩ := exec_setups executed
  refine ⟨fun runs => ?_, fun runs => ?_⟩
  · obtain ⟨ran, same⟩ := connector' runs
    exact ⟨(connector ran).1, same.trans (connector ran).2⟩
  · obtain ⟨ran, same⟩ := listener' runs
    exact ⟨(listener ran).1, same.trans (listener ran).2⟩

end Pair

/-- The view before the first turn: the assignment `state` is on its way to the listener. -/
def PairView.first (setup : ConnectorSetup) (state : RoleState) (listenerSetup : ListenerSetup) :
    PairView :=
  { connector :=
      { setup
        coordinator :=
          { connectorFingerprint := setup.localFingerprint
            listenerFingerprint := setup.peerFingerprint
            stable := state }
        roleEpoch := state.roleEpoch
        localIsController := state.controllerFingerprint = some setup.localFingerprint
        sessionPaused := state.paused
        inputForwardingEnabled := state.controllerFingerprint.isSome
        inputEpoch := {}
        pendingReadiness := none }
    listener := (Listener.initial listenerSetup none).core
    connectorOpen := true, listenerOpen := true
    down := [.role (.sessionState state)], up := [] }

theorem Pair.Started.view_eq {s : Pair} (started : s.Started) :
    ∃ setup persisted preferConnector paused listenerSetup, Paired setup listenerSetup ∧
      s.view =
        .first setup (setup.initialRoleState persisted preferConnector paused) listenerSetup := by
  obtain ⟨setup, persisted, preferConnector, paused, capture, source, p, first, listenerSetup,
    listenerCapture, paired, made, -, rfl⟩ := started
  refine ⟨setup, persisted, preferConnector, paused, listenerSetup, paired, ?_⟩
  have fresh := Connector.initial_eq_ok made
  subst fresh
  obtain ⟨core, silent, -⟩ := Connector.start_quiet p _
  unfold view
  rw [core, List.filter_cons_of_pos rfl, show List.filter _ (sent _) = [] from silent]
  rfl

/-! ## A sample pair -/

def samplePair : Pair :=
  { connector := sampleConnector, listener := sampleListener
    down :=
      .role (.sessionState (sampleConnectorSetup.initialRoleState none true false)) ::
        sent (Connector.start {} sampleConnectorFirst).output }

theorem samplePair_started : samplePair.Started :=
  ⟨sampleConnectorSetup, none, true, false, some {}, none, {}, sampleConnectorFirst,
    sampleListenerSetup, some {}, ⟨rfl, rfl, by decide⟩, rfl, rfl, rfl⟩

end EdgeKvm.Session
