import EdgeKvm.Session.Handover
import EdgeKvm.Session.Injection

/-!
# One controller for each epoch

The epochs of the two sides differ by one at most, an epoch has one controller, and input only
travels from the controller of its epoch to the other side.
-/

namespace EdgeKvm.Session

open EdgeKvm.Lib Handler Machine

/-! ## Which turns send input -/

/-- Input for the peer to inject. -/
def Effect.isLive : Effect → Bool
  | .send (.input _ event) => event != .allKeysUp
  | _ => false

/-- The input for the peer among the effects. -/
def live (effects : List Effect) : List Effect := effects.filter (·.isLive)

section Effects

variable {a b rest : List Effect} {effect : Effect}

@[simp] theorem live_nil : live [] = [] := rfl

@[simp] theorem live_append : live (a ++ b) = live a ++ live b :=
  List.filter_append ..

@[simp] theorem live_cons :
    live (effect :: rest) = (if effect.isLive then [effect] else []) ++ live rest := by
  cases lives : effect.isLive <;> simp [live, lives]

end Effects

@[simp] theorem Connector.live_audioOffer (c : Connector) (quiet : Bool) :
    live (c.audioOffer quiet) = [] := by
  unfold audioOffer
  split <;> rfl

namespace Connector

variable {p : Platform} {c : Connector}

/-- The effects carry no input. -/
def Still (_ : Except SessionExit Unit) (_ : Connector) (out : List Effect) : Prop := live out = []

section Handlers

attribute [local simp] Effect.isLive Still

theorem expireTransition_still {passed : Bool} : (expireTransition p passed).wp Still c := by
  unfold expireTransition
  simp

theorem pollLiveness_still {liveness : Option LivenessEvent} :
    (pollLiveness liveness).wp Still c := by
  unfold pollLiveness
  rcases liveness with _ | _ | _ <;> simp

theorem reapAudio_still {senderFinished : Bool} {failure : Option String} :
    (reapAudio senderFinished failure).wp Still c := by
  unfold reapAudio
  cases failure <;> simp

theorem audioStarted_still : audioStarted.wp Still c := by
  unfold audioStarted
  rcases taken : c.audio.takeResult with _ | ⟨_, _ | _⟩ <;> simp [taken]

/-- Still handlers one after the other. -/
theorem Still.seq {h : ConnectorM Unit} {k : ConnectorM Unit} (first : h.wp Still c)
    (rest : ∀ t, k.wp Still t) : (h >>= fun _ => k).wp Still c := by
  refine Handler.wp_seq first (fun _ _ _ still => still) fun _ t out still => ?_
  refine Handler.wp_mono (fun _ _ later calm => ?_) (rest t)
  simp only [Still] at still calm
  simp [still, calm]

theorem tray_still {command : TrayCommand} : (tray p command).wp Still c := by
  unfold tray
  cases command with
  | disconnect =>
    unfold disconnect pause
    simp
  | reconnect =>
    unfold reconnect
    simp
  | toggleInputForwarding =>
    unfold toggleInputForwarding
    simp
  | setAudio choice =>
    unfold setAudio commitAudioRoute
    cases asked : c.requestedSource choice <;> simp [asked]
  | setController choice =>
    unfold setController beginRoleSwitch
    simp
  | quit => simp

theorem onReady_still {epoch : Nat} {captureReady injectReady : Bool} {detail : Option String} :
    (onReady p epoch captureReady injectReady detail).wp Still c := by
  unfold onReady applyCommit applyAbort
  cases waiting : c.pendingReadiness with
  | none => simp [waiting]
  | some localReady =>
    simp only [wp_bind, wp_read, waiting]
    rcases finished : c.coordinator.finishReady epoch localReady.captureReady
        localReady.injectReady captureReady injectReady
        (detail.orElse fun _ => localReady.failureDetail) with error | ⟨decision, coordinator⟩
    · cases error <;> simp
    · rcases decision with commit | abort
      · cases named : commit.controllerFingerprint <;> simp [named]
      · simp

theorem onFrame_still {frame : Frame} : (onFrame p frame).wp Still c := by
  refine Handler.wp_seq recoverLiveness_silent ?_ ?_
  · rintro exit c' out ⟨-, rfl⟩
    rfl
  · rintro - c' out ⟨-, rfl⟩
    cases frame with
    | input epoch event =>
      unfold onInput
      simp
    | control epoch event =>
      unfold onControl onSetInputForwarding
      rcases event with _ | _ | _ | (_ | _) <;> simp
    | role event =>
      cases event with
      | request requested =>
        unfold onRole onRequest beginRoleSwitch
        simp
      | ready epoch captureReady injectReady detail => exact onReady_still
      | applied epoch =>
        unfold onRole onApplied
        rcases waiting : c'.pendingRolePersistence with _ | ⟨_, _⟩ <;> simp [waiting]
      | setPaused paused =>
        unfold onRole onSetPaused pause
        simp
      | sessionState state | prepare state | commit state | abort state => simp [onRole]
    | audio control =>
      unfold onAudio onOffer onStart commitAudioRoute
      cases control <;> cases p.receiverStart <;> simp
    | error code message | other => simp

theorem returnRelease_still {edge : Edge} {position : UInt32} :
    (returnRelease edge position).wp Still c := by
  unfold returnRelease
  simp

theorem captureEvent_live {event : Option CaptureEvent} :
    (captureEvent p event).wp (fun _ _ out => ∀ effect ∈ live out,
      c.localIsController = true ∧ ∃ input, effect = .send (.input c.roleEpoch input)) c := by
  unfold captureEvent loseCapture
  rcases event with _ | _ | input | _ | _ | _ | _
  case some.input =>
    simp
    intro _ captures
    simp only [mayCapture, Bool.and_eq_true] at captures
    exact fun _ => captures.1.1
  all_goals simp

/-- Only captured input goes out as input, from the controller that captured it. -/
theorem live_of_turn (p : Platform) (c : Connector) (event : ConnectorEvent) :
    ∀ effect ∈ live (handle p event c).output,
      c.localIsController = true ∧ ∃ input, effect = .send (.input c.roleEpoch input) := by
  have still : (handle p event).wp Still c → ∀ effect ∈ live (handle p event c).output,
      c.localIsController = true ∧ ∃ input, effect = .send (.input c.roleEpoch input) := by
    intro still effect member
    rw [show live (handle p event c).output = [] from still] at member
    cases member
  cases event with
  | capture event => exact captureEvent_live
  | watchdog passed liveness senderFinished failure =>
    exact still (.seq expireTransition_still fun _ =>
      .seq pollLiveness_still fun _ => reapAudio_still)
  | audioStarted => exact still audioStarted_still
  | returnRelease edge position => exact still returnRelease_still
  | frame frame => exact still onFrame_still
  | tray command => exact still tray_still
  | captureDisarmed | heartbeat | audioTask _ _ | audioTaskCancelled _ | replaced | closed =>
    exact still rfl

end Handlers

end Connector

namespace Listener

variable {p : Platform} {l : Listener}

/-- The effects carry no input. -/
def Still (_ : Except SessionExit Unit) (_ : Listener) (out : List Effect) : Prop := live out = []

section Handlers

attribute [local simp] Effect.isLive Still

theorem tray_still {command : TrayCommand} : (tray p command).wp Still l := by
  unfold tray
  cases command with
  | disconnect =>
    unfold disconnect
    simp
  | reconnect =>
    unfold reconnect
    simp
  | toggleInputForwarding =>
    unfold toggleInputForwarding
    cases l.setup.controllerSupportsInputToggle <;> simp
  | setAudio choice =>
    unfold setAudio
    rcases choice with _ | _ | _
    · simp
    · cases plays : l.setup.controllerSupportsAudioPlayback <;> simp [plays]
    · by_cases captures : l.setup.controllerSupportsAudioCapture = true ∧
        l.setup.controllerSupportsAudioRoute = true <;> simp [captures]
  | setController choice =>
    unfold setController
    simp
  | quit => simp

theorem onCommit_still {commit : RoleState} : (onCommit p commit).wp Still l := by
  unfold onCommit
  cases waiting : l.preparedRole with
  | none => simp [waiting]
  | some prepared =>
    cases valid : validateCommit prepared commit with
    | error error => simp [waiting, valid]
    | ok value =>
      cases named : commit.controllerFingerprint with
      | none => simp [waiting, valid]
      | some controller =>
        simp [waiting, valid]
        generalize (_ && l.capture.isSome) = arms
        cases arms <;> cases p.arm <;> simp

theorem onFrame_still {frame : Frame} : (onFrame p frame).wp Still l := by
  cases frame with
  | input epoch event =>
    unfold onFrame onInput
    simp
  | control epoch event =>
    unfold onFrame onControl onSetInputForwarding
    rcases event with _ | _ | _ | (_ | _) <;> simp
  | role event =>
    cases event with
    | sessionState state =>
      unfold onFrame onRole onSessionState
      simp
    | prepare prepare =>
      unfold onFrame onRole onPrepare
      cases valid : validatePrepare l.currentRoleState prepare l.setup.controllerFingerprint
        l.setup.localFingerprint <;> simp [valid]
    | commit commit => exact onCommit_still
    | abort abort =>
      unfold onFrame onRole onAbort
      simp
    | setPaused paused =>
      unfold onFrame onRole onSetPaused
      simp
    | request _ | ready _ _ _ _ | applied _ => simp [onFrame, onRole]
  | audio control =>
    unfold onFrame onAudio onOffer onStart onSetRoute
    cases control <;> cases p.receiverStart <;> simp
  | error code message | other => simp [onFrame]

theorem captureEvent_live {event : Option CaptureEvent} :
    (captureEvent p event).wp (fun _ _ out => ∀ effect ∈ live out,
      l.localIsController = true ∧ ∃ input, effect = .send (.input l.roleEpoch input)) l := by
  unfold captureEvent
  rcases event with _ | _ | input | _ | _ | _ | _
  case some.input =>
    simp
    intro _ captures
    simp only [mayCapture, Bool.and_eq_true] at captures
    exact fun _ => captures.1.1
  case some.layoutChanged => cases waiting : l.preparedRole <;> simp [waiting]
  all_goals simp

/-- Only captured input goes out as input, from the controller that captured it. -/
theorem live_of_turn (p : Platform) (l : Listener) (event : ListenerEvent) :
    ∀ effect ∈ live (handle p event l).output,
      l.localIsController = true ∧ ∃ input, effect = .send (.input l.roleEpoch input) := by
  have still : (handle p event).wp Still l → ∀ effect ∈ live (handle p event l).output,
      l.localIsController = true ∧ ∃ input, effect = .send (.input l.roleEpoch input) := by
    intro still effect member
    rw [show live (handle p event l).output = [] from still] at member
    cases member
  cases event with
  | capture event => exact captureEvent_live
  | watchdog passed liveness =>
    refine still ?_
    unfold handle expireRequest pollLiveness
    rcases liveness with _ | _ | _ <;> simp
  | statusLog senderFinished failure =>
    refine still ?_
    unfold handle reapAudio
    cases failure <;> simp
  | audioStarted =>
    refine still ?_
    unfold handle audioStarted
    rcases taken : l.audio.takeResult with _ | ⟨_, _ | _⟩ <;> simp [taken]
  | returnRelease edge position =>
    refine still ?_
    unfold handle returnRelease
    simp
  | frame frame => exact still onFrame_still
  | tray command => exact still tray_still
  | captureDisarmed | heartbeat | audioTask _ _ | audioTaskCancelled _ | replaced | closed =>
    exact still rfl

end Handlers

end Listener

/-! ## Where input comes from -/

theorem mem_live {out : List Effect} {epoch : Nat} {input : InputEvent}
    (member : .input epoch input ∈ sent out) (pressed : input ≠ .allKeysUp) :
    Effect.send (.input epoch input) ∈ live out := by
  obtain ⟨effect, member, sends⟩ := List.mem_filterMap.mp member
  cases effect with
  | inject event => cases sends
  | send frame =>
    cases sends
    exact List.mem_filter.mpr ⟨member, by simpa [Effect.isLive] using pressed⟩

theorem Connector.start_still (p : Platform) (c : Connector) : live (start p c).output = [] := by
  have still : (start p).wp (fun _ _ out => live out = []) c := by
    unfold start
    simp [Effect.isLive]
  exact still

namespace Pair

variable {start s t : Pair} {p : Platform} {action : PairAction} {epoch : Nat} {input : InputEvent}

/-- What an action does to the queues. -/
theorem exec_queues (executed : machine.exec s (p, action) = some t) :
    (∃ event, t.down = s.down ++ sent (Connector.handle p event s.connector).output ∧
      t.up <:+ s.up) ∨
    (∃ event, t.up = s.up ++ sent (Listener.handle p event s.listener).output ∧
      t.down <:+ s.down) := by
  obtain ⟨⟨event, s'⟩, taken, turned⟩ := Option.bind_eq_some_iff.mp executed
  cases action with
  | connector own =>
    simp only [take, Option.ite_none_right_eq_some, Option.some.injEq, Prod.mk.injEq] at taken
    obtain ⟨-, rfl, rfl⟩ := taken
    simp only [turn, Option.ite_none_right_eq_some, Option.some.injEq] at turned
    obtain ⟨-, rfl⟩ := turned
    exact .inl ⟨own, rfl, List.suffix_refl _⟩
  | listener own =>
    simp only [take, Option.ite_none_right_eq_some, Option.some.injEq, Prod.mk.injEq] at taken
    obtain ⟨-, rfl, rfl⟩ := taken
    simp only [turn, Option.ite_none_right_eq_some, Option.some.injEq] at turned
    obtain ⟨-, rfl⟩ := turned
    exact .inr ⟨own, rfl, List.suffix_refl _⟩
  | toConnector =>
    simp only [take] at taken
    split at taken
    · rename_i frame up queue
      cases taken
      simp only [turn, Option.ite_none_right_eq_some, Option.some.injEq] at turned
      obtain ⟨-, rfl⟩ := turned
      exact .inl ⟨_, rfl, queue ▸ List.suffix_cons ..⟩
    · cases taken
  | toListener =>
    simp only [take] at taken
    split at taken
    · rename_i frame down queue
      cases taken
      simp only [turn, Option.ite_none_right_eq_some, Option.some.injEq] at turned
      obtain ⟨-, rfl⟩ := turned
      exact .inr ⟨_, rfl, queue ▸ List.suffix_cons ..⟩
    · cases taken

/-- Input on its way to the listener was sent by the connector as the controller of its epoch. -/
theorem down_origin (started : start.Started) (run : machine.Run anyAction start s)
    (member : .input epoch input ∈ s.down) (pressed : input ≠ .allKeysUp) :
    ∃ action u v, machine.Run anyAction start u ∧ machine.exec u action = some v ∧
      machine.Run anyAction v s ∧ .input epoch input ∉ u.down ∧ .input epoch input ∈ v.down ∧
      u.connector.localIsController = true ∧ u.connector.roleEpoch = epoch := by
  have before : .input epoch input ∉ start.down := by
    obtain ⟨setup, persisted, preferConnector, paused, capture, source, p, first, listenerSetup,
      listenerCapture, paired, made, -, rfl⟩ := started
    simp only [List.mem_cons, reduceCtorEq, false_or]
    intro member
    have lives := mem_live member pressed
    simp [Connector.start_still] at lives
  obtain ⟨⟨p, action⟩, u, v, toU, executed, fromV, absent, present⟩ :=
    run.became (P := fun s => .input epoch input ∈ s.down) before member
  refine ⟨(p, action), u, v, toU, executed, fromV, absent, present, ?_⟩
  obtain ⟨event, down, -⟩ | ⟨event, -, down⟩ := exec_queues executed
  · rw [down, List.mem_append] at present
    have lives := mem_live (present.resolve_left absent) pressed
    obtain ⟨controls, other, same⟩ := Connector.live_of_turn p u.connector event _ lives
    cases same
    exact ⟨controls, rfl⟩
  · exact absurd (down.mem present) absent

/-- Input on its way to the connector was sent by the listener as the controller of its epoch. -/
theorem up_origin (started : start.Started) (run : machine.Run anyAction start s)
    (member : .input epoch input ∈ s.up) (pressed : input ≠ .allKeysUp) :
    ∃ action u v, machine.Run anyAction start u ∧ machine.exec u action = some v ∧
      machine.Run anyAction v s ∧ .input epoch input ∉ u.up ∧ .input epoch input ∈ v.up ∧
      u.listener.localIsController = true ∧ u.listener.roleEpoch = epoch := by
  have before : .input epoch input ∉ start.up := by
    obtain ⟨_, _, _, _, _, _, _, _, _, _, -, -, -, rfl⟩ := started
    simp
  obtain ⟨⟨p, action⟩, u, v, toU, executed, fromV, absent, present⟩ :=
    run.became (P := fun s => .input epoch input ∈ s.up) before member
  refine ⟨(p, action), u, v, toU, executed, fromV, absent, present, ?_⟩
  obtain ⟨event, -, up⟩ | ⟨event, up, -⟩ := exec_queues executed
  · exact absurd (up.mem present) absent
  · rw [up, List.mem_append] at present
    have lives := mem_live (present.resolve_left absent) pressed
    obtain ⟨controls, other, same⟩ := Listener.live_of_turn p u.listener event _ lives
    cases same
    exact ⟨controls, rfl⟩

/-- Both sides of an epoch name one controller, once the listener was told of it. -/
theorem epochs_agree (started : start.Started) (run : machine.Run anyAction start s)
    (connectorRuns : s.connectorOpen = true) (listenerRuns : s.listenerOpen = true) :
    (s.listener.roleEpoch ≤ s.connector.roleEpoch ∧
      s.connector.roleEpoch ≤ s.listener.roleEpoch + 1) ∧
    (s.connector.roleEpoch = s.listener.roleEpoch →
      ¬ (s.connector.localIsController = true ∧ s.listener.localIsController = true) ∧
      ((∀ state, .role (.sessionState state) ∉ s.down) →
        s.listener.currentRoleState.controllerFingerprint =
          s.connector.coordinator.stable.controllerFingerprint)) := by
  obtain ⟨from', upTo, following, -⟩ := Pair.following (fun _ _ => true) started
    (run.mono fun _ _ _ => by unfold meets; split <;> rfl) listenerRuns
  have connectorEpoch : s.connector.roleEpoch = s.connector.coordinator.stable.roleEpoch :=
    following.epoch
  have listenerEpoch : s.listener.roleEpoch = from'.roleEpoch :=
    following.agrees.epoch.trans following.stands.1.symm
  have reached : upTo.roleEpoch = s.connector.coordinator.stable.roleEpoch := following.reaches.2.1
  have grown := Standing.epoch_le following.replays
  have ahead : s.connector.coordinator.stable.roleEpoch ≤ from'.roleEpoch + 1 := following.ahead
  have paired : Paired s.connector.setup s.listener.setup := following.paired connectorRuns
  have connectorControls : s.connector.localIsController = decide
      (s.connector.coordinator.stable.controllerFingerprint =
        some s.connector.setup.localFingerprint) :=
    (following.coordinated connectorRuns).controls
  have listenerControls : s.listener.localIsController = decide
      (s.listener.currentRoleState.controllerFingerprint =
        some s.listener.setup.localFingerprint) :=
    following.agrees.controls
  refine ⟨⟨by omega, by omega⟩, fun same => ?_⟩
  have named : from'.announced = true → s.listener.currentRoleState.controllerFingerprint =
      s.connector.coordinator.stable.controllerFingerprint := by
    intro announced
    have kept := Standing.controller_eq following.replays announced (by omega)
    exact following.stands.2.symm.trans (kept.symm.trans following.reaches.2.2)
  constructor
  · rintro ⟨connector, listener⟩
    rw [connectorControls, decide_eq_true_iff] at connector
    rw [listenerControls, decide_eq_true_iff, paired.listenerKnown] at listener
    cases announced : from'.announced with
    | true =>
      have one := named announced
      rw [connector, listener] at one
      exact paired.distinct (Option.some.inj one).symm
    | false =>
      have told := following.stands.2.symm.trans (following.fresh announced)
      have one : some s.connector.setup.peerFingerprint =
          some s.listener.setup.controllerFingerprint := listener.symm.trans told
      rw [paired.connectorKnown] at one
      exact paired.distinct (Option.some.inj one).symm
  · intro none
    refine named (Standing.announced_of following.replays following.reaches.1 fun state member => ?_)
    exact none state (List.mem_filter.mp member).1

end Pair

/-- In every state of a session that neither side has ended: the epochs differ by one at most;
    equal epochs have at most one controller, and once the connector's assignment was delivered
    both sides name the same; and what a side injects was sent by the controller of its epoch. -/
theorem single_controller_per_epoch {start s : Pair} (started : start.Started)
    (run : Pair.machine.Run anyAction start s) (connectorRuns : s.connectorOpen = true)
    (listenerRuns : s.listenerOpen = true) :
    (s.listener.roleEpoch ≤ s.connector.roleEpoch ∧
      s.connector.roleEpoch ≤ s.listener.roleEpoch + 1) ∧
    (s.connector.roleEpoch = s.listener.roleEpoch →
      ¬ (s.connector.localIsController = true ∧ s.listener.localIsController = true) ∧
      ((∀ state, .role (.sessionState state) ∉ s.down) →
        s.listener.currentRoleState.controllerFingerprint =
          s.connector.coordinator.stable.controllerFingerprint)) ∧
    (∀ p frame rest input, s.down = frame :: rest →
      input ∈ injected (Listener.handle p (.frame frame) s.listener).output → input ≠ .allKeysUp →
      ∃ action u v, Pair.machine.Run anyAction start u ∧ Pair.machine.exec u action = some v ∧
        Pair.machine.Run anyAction v s ∧ frame ∉ u.down ∧ frame ∈ v.down ∧
        frame = .input s.listener.roleEpoch input ∧ u.connector.localIsController = true ∧
        u.connector.roleEpoch = s.listener.roleEpoch) ∧
    (∀ p frame rest input, s.up = frame :: rest →
      input ∈ injected (Connector.handle p (.frame frame) s.connector).output →
      input ≠ .allKeysUp →
      ∃ action u v, Pair.machine.Run anyAction start u ∧ Pair.machine.exec u action = some v ∧
        Pair.machine.Run anyAction v s ∧ frame ∉ u.up ∧ frame ∈ v.up ∧
        frame = .input s.connector.roleEpoch input ∧ u.listener.localIsController = true ∧
        u.listener.roleEpoch = s.connector.roleEpoch) := by
  obtain ⟨apart, equal⟩ := Pair.epochs_agree started run connectorRuns listenerRuns
  refine ⟨apart, equal, ?_, ?_⟩
  · intro p frame rest input queue injects pressed
    obtain ⟨received, -⟩ := Listener.injected_receives injects
    cases received
    have member : .input s.listener.roleEpoch input ∈ s.down := queue ▸ List.mem_cons_self
    obtain ⟨action, u, v, toU, executed, fromV, absent, present, controls, epoch⟩ :=
      Pair.down_origin started run member pressed
    exact ⟨action, u, v, toU, executed, fromV, absent, present, rfl, controls, epoch⟩
  · intro p frame rest input queue injects pressed
    obtain ⟨received, -⟩ := Connector.injected_receives injects
    cases received
    have member : .input s.connector.roleEpoch input ∈ s.up := queue ▸ List.mem_cons_self
    obtain ⟨action, u, v, toU, executed, fromV, absent, present, controls, epoch⟩ :=
      Pair.up_origin started run member pressed
    exact ⟨action, u, v, toU, executed, fromV, absent, present, rfl, controls, epoch⟩

theorem single_controller_per_epoch_sample :
    ¬ ((Pair.machine.reach samplePair sampleHandedOver).connector.localIsController = true ∧
      (Pair.machine.reach samplePair sampleHandedOver).listener.localIsController = true) ∧
    (Pair.machine.reach samplePair
        sampleHandedOver).listener.currentRoleState.controllerFingerprint =
      (Pair.machine.reach samplePair
        sampleHandedOver).connector.coordinator.stable.controllerFingerprint := by
  have handedOver := single_controller_per_epoch samplePair_started
    (run_reach sampleHandedOver (by decide +kernel)) (by decide +kernel) (by decide +kernel)
  have agreed := handedOver.2.1 (by decide +kernel)
  have empty : (Pair.machine.reach samplePair sampleHandedOver).down = [] := by decide +kernel
  exact ⟨agreed.1, agreed.2 (by simp [empty])⟩

/-- A connector whose stored assignment makes the listener the controller. -/
def sampleReceiverFirst : Connector :=
  { sampleConnectorFirst with
    coordinator := { sampleConnectorFirst.coordinator with stable := sampleRoleState "listener" }
    localIsController := false, storedRole := some "listener" }

def sampleReceiverPair : Pair :=
  { connector := (Connector.start {} sampleReceiverFirst).state, listener := sampleListener
    down :=
      .role (.sessionState (sampleConnectorSetup.initialRoleState (some "listener") true false)) ::
        sent (Connector.start {} sampleReceiverFirst).output }

/-- Before the listener is told of that assignment it takes the connector for the controller of
    the same epoch. -/
theorem controllers_differ_before_the_session_state :
    sampleReceiverPair.Started ∧
    sampleReceiverPair.connectorOpen = true ∧ sampleReceiverPair.listenerOpen = true ∧
    sampleReceiverPair.connector.roleEpoch = sampleReceiverPair.listener.roleEpoch ∧
    sampleReceiverPair.listener.currentRoleState.controllerFingerprint ≠
      sampleReceiverPair.connector.coordinator.stable.controllerFingerprint :=
  ⟨⟨sampleConnectorSetup, some "listener", true, false, some {}, none, {}, sampleReceiverFirst,
    sampleListenerSetup, some {}, ⟨rfl, rfl, by decide⟩, rfl, rfl, rfl⟩, rfl, rfl, rfl,
    by decide +kernel⟩

end EdgeKvm.Session
