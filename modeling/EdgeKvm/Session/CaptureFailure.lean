import EdgeKvm.Session.Handover

/-!
# The control after a capture failure

A controlling node whose capture is gone asks for the other node to take over, with a `Request`
behind the frames already on their way. The frames of a queue are delivered in order, so the
request is the next one once all but the last of the frames behind the failing turn were taken.
-/

namespace EdgeKvm.Session

open EdgeKvm.Lib Handler Machine

/-- One of the two loops. -/
inductive Side where
  | connector
  | listener
  deriving DecidableEq, Repr

namespace Side

/-- The frames it has on their way. -/
def queue : Side → Pair → List Frame
  | .connector, s => s.down
  | .listener, s => s.up

/-- The action delivers one of them. -/
def delivers : Side → PairAction → Bool
  | .connector, .toListener => true
  | .listener, .toConnector => true
  | _, _ => false

def delivery : Side → PairAction
  | .connector => .toListener
  | .listener => .toConnector

/-- Its capture backend reports `event`; `none` when its task ended. -/
def capture (event : Option CaptureEvent) : Side → PairAction
  | .connector => .connector (.capture event)
  | .listener => .listener (.capture event)

/-- The fingerprint of the other node. -/
def other (setup : ConnectorSetup) : Side → String
  | .connector => setup.peerFingerprint
  | .listener => setup.localFingerprint

end Side

/-- The backend failed, or its task ended. -/
def captureLost : Option CaptureEvent → Bool
  | some (.backendFailed _) | none => true
  | _ => false

/-- The events that may begin a handover. -/
def PairEvent.beginsSwitch : PairEvent → Bool
  | .connector event => event.beginsSwitch
  | .listener _ => false

namespace Pair

/-- The node of `side` controls an unpaused session without a handover, and has a capture to
    lose. -/
def capturing (s : Pair) : Side → Bool
  | .connector => s.connector.localIsController && s.connector.capture.isSome &&
      !s.connector.sessionPaused && s.connector.coordinator.pending.isNone &&
      s.listener.preparedRole.isNone
  | .listener => s.listener.localIsController && s.listener.capture.isSome &&
      !s.listener.sessionPaused && s.connector.coordinator.pending.isNone &&
      s.listener.preparedRole.isNone

/-- The connector has a handover pending that gives the control to the other node. -/
def handsOver (s : Pair) (side : Side) : Bool :=
  s.connector.coordinator.pending.any
    (·.proposedControllerFingerprint == side.other s.connector.setup)

/-- When the frames of the failure arrive at the other side: a handover to the other node is
    already pending, or the listener is the one that failed and the connector is unpaused,
    without a handover and not itself the controller. -/
def returnsControl (s : Pair) (side : Side) : Bool :=
  s.handsOver side ||
    (side = .listener && !s.connector.sessionPaused && s.connector.coordinator.pending.isNone &&
      s.connector.coordinator.stable.controllerFingerprint ≠
        some s.connector.setup.localFingerprint)

variable {s s₁ t u : Pair} {side : Side} {p : Platform} {action : PairAction}
  {actions : List (Platform × PairAction)}

/-! ## Delivery in order -/

/-- What an action leaves of a queue, and what it puts behind it. -/
theorem exec_queue (side : Side) (executed : machine.exec s (p, action) = some t) :
    (side.delivers action = true → side.queue s ≠ []) ∧
    ∃ more, side.queue t = (side.queue s).drop (side.delivers action).toNat ++ more := by
  obtain ⟨⟨event, s'⟩, taken, turned⟩ := Option.bind_eq_some_iff.mp executed
  have sends : ∃ more, side.queue t = side.queue s' ++ more := by
    cases event <;> simp only [turn, Option.ite_none_right_eq_some, Option.some.injEq] at turned <;>
      obtain ⟨-, rfl⟩ := turned <;> cases side <;>
      first | exact ⟨_, rfl⟩ | exact ⟨[], (List.append_nil _).symm⟩
  obtain ⟨more, sends⟩ := sends
  have left : side.queue s' = (side.queue s).drop (side.delivers action).toNat ∧
      (side.delivers action = true → side.queue s ≠ []) := by
    cases action with
    | connector own | listener own =>
      simp only [take, Option.ite_none_right_eq_some, Option.some.injEq, Prod.mk.injEq] at taken
      obtain ⟨-, rfl, rfl⟩ := taken
      cases side <;> exact ⟨rfl, fun delivers => by cases delivers⟩
    | toConnector | toListener =>
      simp only [take] at taken
      split at taken
      · cases taken
        cases side <;> simp_all [Side.queue, Side.delivers]
      · cases taken
  exact ⟨left.2, more, left.1 ▸ sends⟩

/-- How many frames of `side` a list of actions delivers. -/
def delivered (side : Side) (actions : List (Platform × PairAction)) : Nat :=
  actions.countP fun action => side.delivers action.2

/-- The frames of a queue that a list of actions delivers are its first ones. -/
theorem runList_queue (side : Side) : ∀ (actions : List (Platform × PairAction)) {s u : Pair},
    machine.runList s actions = some u → delivered side actions ≤ (side.queue s).length →
    ∃ more, side.queue u = (side.queue s).drop (delivered side actions) ++ more := by
  intro actions
  induction actions with
  | nil =>
    rintro s u ⟨⟩ -
    exact ⟨[], by simp [delivered]⟩
  | cons action actions ih =>
    intro s u ran few
    obtain ⟨mid, executed, ran⟩ := Option.bind_eq_some_iff.mp ran
    obtain ⟨-, more, queue⟩ := exec_queue side executed
    have counted : delivered side (action :: actions) =
        (side.delivers action.2).toNat + delivered side actions := by
      cases delivers : side.delivers action.2 <;> simp [delivered, delivers, Nat.add_comm]
    have short : delivered side actions ≤
        ((side.queue s).drop (side.delivers action.2).toNat).length := by
      rw [List.length_drop]
      omega
    obtain ⟨rest, last⟩ := ih ran (by rw [queue, List.length_append]; omega)
    refine ⟨more ++ rest, ?_⟩
    rw [last, queue, List.drop_append_of_le_length short, List.drop_drop, counted,
      List.append_assoc]

/-- The last frame of a queue is the next one once all before it are delivered. -/
theorem last_next (side : Side) {frames : List Frame} {frame : Frame}
    (queue : side.queue s₁ = frames ++ [frame]) (ran : machine.runList s₁ actions = some u)
    (all : delivered side actions = frames.length) :
    ∃ more, side.queue u = frame :: more := by
  obtain ⟨more, rest⟩ := runList_queue side actions ran (by simp [queue, all])
  exact ⟨more, by simp [rest, queue, all]⟩

/-! ## The failing turn -/

/-- A listener that loses its capture as the controller asks for the connector, or ends the
    session. -/
theorem listener_requests {event : Option CaptureEvent} (lost : captureLost event = true)
    (capturing : s.capturing .listener = true)
    (executed : machine.exec s (p, .listener (.capture event)) = some s₁)
    (runs : s₁.listenerOpen = true) :
    ∃ frames, s₁.up = frames ++ [.role (.request s.listener.setup.controllerFingerprint)] := by
  have requests : (Listener.captureEvent p event).wp
      (fun result _ out => result = .ok () → ∃ before,
        out = before ++ [.send (.role (.request s.listener.setup.controllerFingerprint))])
      s.listener := by
    simp only [Pair.capturing, Bool.and_eq_true, Bool.not_eq_true'] at capturing
    obtain ⟨⟨⟨⟨controls, captures⟩, unpaused⟩, -⟩, -⟩ := capturing
    have found : s.listener.capture ≠ none := Option.isSome_iff_ne_none.mp captures
    unfold Listener.captureEvent
    rcases event with _ | _ | _ | _ | _ | _ | _
    case none => simp [found, controls]
    case some.backendFailed error =>
      simp [found, controls, unpaused]
      exact fun _ _ => ⟨[_], rfl⟩
    all_goals cases lost
  have executed : turn p s (.listener (.capture event)) = some s₁ := executed
  simp only [turn, Option.ite_none_right_eq_some, Option.some.injEq] at executed
  obtain ⟨-, rfl⟩ := executed
  obtain ⟨before, out⟩ := requests (isOk_eq_true runs)
  exact ⟨s.up ++ sent before, by simp [Listener.handle, out, sent]⟩

/-! ## The delivery -/

/-- The connector takes up a request for itself exactly when it returns the control. -/
theorem request_pending {c : Connector} (switches : c.setup.roleSwitchAvailable = true) :
    (Connector.handle p (.frame (.role (.request c.setup.localFingerprint)))).wp
      (fun result c' _ => result = .ok () →
        (c'.coordinator.pending.any
            (·.proposedControllerFingerprint == c.setup.localFingerprint) =
          (c.coordinator.pending.any
              (·.proposedControllerFingerprint == c.setup.localFingerprint) ||
            (!c.sessionPaused && c.coordinator.pending.isNone &&
              c.coordinator.stable.controllerFingerprint ≠ some c.setup.localFingerprint)))) c := by
  refine Handler.wp_seq Connector.recoverLiveness_silent (fun exit c' out _ => nofun) ?_
  rintro - c' out ⟨same, -⟩
  simp only [Connector.core, ConnectorCore.mk.injEq] at same
  obtain ⟨setup, coordinator, -, -, paused, -⟩ := same
  have recovered : (Connector.onRequest p c'.setup.localFingerprint).wp
      (fun result t _ => result = .ok () →
        (t.coordinator.pending.any
            (·.proposedControllerFingerprint == c'.setup.localFingerprint) =
          (c'.coordinator.pending.any
              (·.proposedControllerFingerprint == c'.setup.localFingerprint) ||
            (!c'.sessionPaused && c'.coordinator.pending.isNone &&
              c'.coordinator.stable.controllerFingerprint ≠ some c'.setup.localFingerprint)))) c' := by
    unfold Connector.onRequest Connector.beginRoleSwitch
    simp
    refine ⟨fun unpaused _ other idle prepare coordinator proposed => ?_,
      fun refused unpaused idle other => absurd idle (refused unpaused (setup ▸ switches) other)⟩
    obtain ⟨-, -, -, rfl⟩ := RoleCoordinator.prepare_eq_ok proposed
    simp [unpaused, other, idle]
  rw [setup, coordinator, paused] at recovered
  exact recovered

/-- Delivering the request makes the connector return the control, where it does. -/
theorem request_delivered {rest : List Frame}
    (switches : u.connector.setup.roleSwitchAvailable = true)
    (next : u.up = .role (.request u.connector.setup.localFingerprint) :: rest)
    (executed : machine.exec u (p, .toConnector) = some t) (runs : t.connectorOpen = true) :
    t.handsOver .listener = u.returnsControl .listener := by
  have executed : turn p { u with up := rest }
      (.connector (.frame (.role (.request u.connector.setup.localFingerprint)))) = some t := by
    simpa only [machine, take, next, Option.bind_some] using executed
  have moved : machine.exec u (p, .toConnector) = some t := by
    simpa only [machine, take, next, Option.bind_some] using executed
  have same := (exec_setups moved).1 runs
  simp only [turn, Option.ite_none_right_eq_some, Option.some.injEq] at executed
  obtain ⟨-, rfl⟩ := executed
  have answered := request_pending (p := p) switches (isOk_eq_true runs)
  simp only [handsOver, returnsControl, Side.other]
  rw [same.2]
  simpa using answered

/-- Without an event that begins a handover none becomes pending. -/
theorem still_idle {v v' : PairView} {event : PairEvent} (step : v.Step event v')
    (quiet : event.beginsSwitch = false)
    (idle : v.connectorOpen = true → v.connector.coordinator.pending = none)
    (runs : v'.connectorOpen = true) : v'.connector.coordinator.pending = none := by
  cases step with
  | listener => exact idle runs
  | @connector event _ _ _ _ _ runs' taken turned =>
    rw [isOk_eq_true runs] at turned
    have idle := idle runs'
    cases turned with
    | left ended => exact absurd rfl ended
    | idle _ _ _ core | injected _ _ _ core | entered _ _ _ _ core | toggled _ _ core
    | forwarded _ _ _ _ core | paused _ _ _ _ _ core =>
      subst core
      exact idle
    | prepared _ _ _ _ begun => exact absurd (begun.symm.trans quiet) nofun
    | aborted _ _ _ waiting | committed _ waiting => simp [idle] at waiting

/-- Delivering a frame of the connector leaves the connector as it is. -/
theorem toListener_connector (executed : machine.exec u (p, .toListener) = some t) :
    t.connector = u.connector := by
  obtain ⟨⟨event, s'⟩, taken, turned⟩ := Option.bind_eq_some_iff.mp executed
  obtain ⟨connector, -⟩ := take_view taken
  simp only [take] at taken
  split at taken
  · cases taken
    simp only [turn, Option.ite_none_right_eq_some, Option.some.injEq] at turned
    obtain ⟨-, rfl⟩ := turned
    exact connector
  · cases taken

end Pair

def sampleFailure : Option CaptureEvent := some (.backendFailed "the portal session has ended")

/-- The listener of the sample pair has lost the control it was handed. -/
def sampleListenerFailed : Pair :=
  Pair.machine.reach (Pair.machine.reach samplePair sampleHandedOver)
    [({}, Side.capture sampleFailure .listener)]

/-- Its request is the next frame. -/
def sampleBeforeRequest : Pair :=
  Pair.machine.reach sampleListenerFailed [({}, .toConnector), ({}, .toConnector)]

/-- The connector of the sample pair has lost its capture as the controller. -/
def sampleConnectorFailed : Pair :=
  Pair.machine.reach samplePair
    [({}, .toListener), ({}, .toListener), ({}, Side.capture sampleFailure .connector)]

def sampleRequestIgnored : Pair :=
  Pair.machine.reach sampleConnectorFailed [({}, .toListener), ({}, .toListener)]

end EdgeKvm.Session
