import EdgeKvm.Session.Pair
import EdgeKvm.Session.AudioEnds
import EdgeKvm.Session.ConnectorAudio
import EdgeKvm.Session.ListenerAudio
import Mathlib.Tactic.ByContra

/-!
# The sound of a session

The route, the direction of the streams and their secrets, over the runs of a connector and a
listener. The route of the listener is the route of the connector as soon as the messages on their
way have been handled.
-/

namespace EdgeKvm.Session

open EdgeKvm.Lib Handler Machine

/-! ## The route -/

/-- The route of a listener once it has handled these messages. -/
def routeAfter (listener : String) (controls : List AudioControl) (source : Option String) :
    Option String :=
  controls.foldl (fun source control => control.route listener source) source

section RouteAfter

variable {listener : String} {source : Option String} {control : AudioControl}
  {controls more : List AudioControl}

theorem routeAfter_append :
    routeAfter listener (controls ++ more) source =
      routeAfter listener more (routeAfter listener controls source) :=
  List.foldl_append

theorem AudioControl.route_of_not (other : control.isRoute = false) :
    control.route listener source = source := by
  cases control <;> first | rfl | cases other

/-- Messages that name no route change none. -/
theorem routeAfter_of_not (other : ∀ control ∈ controls, control.isRoute = false) :
    routeAfter listener controls source = source := by
  induction controls with
  | nil => rfl
  | cons first rest ih =>
    obtain ⟨head, tail⟩ := List.forall_mem_cons.mp other
    calc routeAfter listener (first :: rest) source
        = routeAfter listener rest (first.route listener source) := rfl
      _ = routeAfter listener rest source := by rw [AudioControl.route_of_not head]
      _ = source := ih tail

/-- Messages that all name one route lead to it, if there is one. -/
theorem routeAfter_of_route {named : AudioControl} {target : Option String}
    (leads : ∀ source, named.route listener source = target)
    (all : ∀ control ∈ controls, control.isRoute = true → control = named)
    (unnamed : (∀ control ∈ controls, control.isRoute = false) → source = target) :
    routeAfter listener controls source = target := by
  induction controls generalizing source with
  | nil => exact unnamed fun _ absent => by cases absent
  | cons first rest ih =>
    obtain ⟨head, tail⟩ := List.forall_mem_cons.mp all
    refine @ih (first.route listener source) tail fun other => ?_
    cases route : first.isRoute with
    | true =>
      rw [head route]
      exact leads source
    | false =>
      rw [AudioControl.route_of_not route]
      exact unnamed (List.forall_mem_cons.mpr ⟨route, other⟩)

end RouteAfter

namespace Connector

variable {c : Connector} {p : Platform}

/-- The route the connector names is the one it has. -/
theorem Capable.leads {listener : String} (capable : c.Capable)
    (known : listener = c.setup.peerFingerprint) (source : Option String) :
    c.audioRoute.route listener source = c.audio.source := by
  unfold audioRoute
  subst known
  rcases capable with able | off | peer
  · rw [if_pos able]
    rfl
  · split <;> simp [AudioControl.route, off]
  · split <;> simp [AudioControl.route, peer]

/-- A turn of the connector names the route it ends with, unless that is the one it began with. -/
theorem AudioTurn.routeAfter {received : Option AudioControl} {c' : Connector} {out : List Effect}
    {listener : String} (turn : c.AudioTurn p received c' out) (capable : c.Capable)
    (known : listener = c.setup.peerFingerprint) :
    Session.routeAfter listener (spoken out) c.audio.source = c'.audio.source := by
  refine routeAfter_of_route ((turn.capable capable).leads (by rw [turn.setup]; exact known))
    turn.routes fun unnamed => (turn.kept unnamed).symm

/-- What the connector says before its loop. -/
theorem start_spoken :
    (start p).wp (fun _ c' out => c'.audio = c.audio ∧ c'.setup = c.setup ∧
      ∃ more, spoken out = c.audioRoute :: more ∧
        ∀ control ∈ more, control.isRoute = false ∧ control.startSecrets = none) c := by
  unfold start
  simp [Frame.audioControl]
  exact ⟨fun _ _ _ => ⟨rfl, mem_audioOffer⟩, fun _ => ⟨rfl, mem_audioOffer⟩⟩

end Connector

theorem Listener.routed_eq {l : Listener} {received : Option AudioControl} :
    l.routed received =
      routeAfter l.setup.localFingerprint received.toList l.audio.source := by
  cases received <;> rfl

/-! ## The pair -/

/-- The loop that takes an action. -/
def PairAction.connectors : PairAction → Bool
  | .connector _ | .toConnector => true
  | .listener _ | .toListener => false

theorem ConnectorEvent.audioControls_frame (event : ConnectorEvent) :
    audioControls event.frame?.toList = event.audioControl.toList := by
  cases event with
  | frame frame => cases frame <;> rfl
  | _ => rfl

theorem ListenerEvent.audioControls_frame (event : ListenerEvent) :
    audioControls event.frame?.toList = event.audioControl.toList := by
  cases event with
  | frame frame => cases frame <;> rfl
  | _ => rfl

namespace Pair

variable {s s' t : Pair} {p : Platform} {action : PairAction} {event : PairEvent}

/-- One turn of either loop, as the sound sees it. -/
inductive AudioStep (p : Platform) (connectors : Bool) (s t : Pair) : Prop
  | connector {received : Option AudioControl} {out : List Effect} (acts : connectors = true)
      (listener : t.listener = s.listener) (listenerOpen : t.listenerOpen = s.listenerOpen)
      (taken : audioControls s.up = received.toList ++ audioControls t.up)
      (told : audioControls t.down = audioControls s.down ++ spoken out)
      (turned : t.connectorOpen = true →
        s.connectorOpen = true ∧ s.connector.AudioTurn p received t.connector out)
  | listener {received : Option AudioControl} {out : List Effect} (acts : connectors = false)
      (connector : t.connector = s.connector) (connectorOpen : t.connectorOpen = s.connectorOpen)
      (taken : audioControls s.down = received.toList ++ audioControls t.down)
      (told : audioControls t.up = audioControls s.up ++ spoken out)
      (turned : t.listenerOpen = true →
        s.listenerOpen = true ∧ s.listener.AudioTurn p received t.listener out)

/-- An action is a turn of the loop that takes it. -/
theorem take_acts (taken : s.take action = some (event, s')) :
    match event with
    | .connector _ => action.connectors = true
    | .listener _ => action.connectors = false := by
  cases action with
  | connector event' | listener event' =>
    simp only [take, Option.ite_none_right_eq_some, Option.some.injEq, Prod.mk.injEq] at taken
    obtain ⟨-, rfl, -⟩ := taken
    rfl
  | toConnector | toListener =>
    simp only [take] at taken
    split at taken
    · cases taken
      rfl
    · cases taken

/-- The audio messages of the queues a turn starts from. -/
theorem take_audio (taken : s.take action = some (event, s')) :
    match event with
    | .connector event => action.connectors = true ∧ s'.down = s.down ∧
        audioControls s.up = event.audioControl.toList ++ audioControls s'.up
    | .listener event => action.connectors = false ∧ s'.up = s.up ∧
        audioControls s.down = event.audioControl.toList ++ audioControls s'.down := by
  have queues := take_frame taken
  have acts := take_acts taken
  cases event with
  | connector event =>
    obtain ⟨same, up⟩ := queues
    refine ⟨acts, by rw [same], ?_⟩
    rw [up, audioControls_append, event.audioControls_frame]
  | listener event =>
    obtain ⟨same, down⟩ := queues
    refine ⟨acts, by rw [same], ?_⟩
    rw [down, audioControls_append, event.audioControls_frame]

theorem exec_audioStep (executed : machine.exec s (p, action) = some t) :
    AudioStep p action.connectors s t := by
  obtain ⟨⟨event, s'⟩, taken, turned⟩ := Option.bind_eq_some_iff.mp executed
  obtain ⟨connector, listener, connectorOpen, listenerOpen, -⟩ := take_view taken
  have queues := take_audio taken
  cases event with
  | connector event =>
    simp only [turn, Option.ite_none_right_eq_some, Option.some.injEq] at turned
    obtain ⟨runs, rfl⟩ := turned
    obtain ⟨acts, down, up⟩ := queues
    have told : audioControls (s'.down ++ sent (Connector.handle p event s'.connector).output) =
        audioControls s.down ++ spoken (Connector.handle p event s'.connector).output := by
      rw [down]
      exact audioControls_append
    refine .connector acts listener listenerOpen up told fun runs' =>
      ⟨connectorOpen.symm.trans runs, ?_⟩
    rw [← connector]
    exact Connector.turnsAudio p s'.connector event (isOk_eq_true runs')
  | listener event =>
    simp only [turn, Option.ite_none_right_eq_some, Option.some.injEq] at turned
    obtain ⟨runs, rfl⟩ := turned
    obtain ⟨acts, up, down⟩ := queues
    have told : audioControls (s'.up ++ sent (Listener.handle p event s'.listener).output) =
        audioControls s.up ++ spoken (Listener.handle p event s'.listener).output := by
      rw [up]
      exact audioControls_append
    refine .listener acts connector connectorOpen down told fun runs' =>
      ⟨listenerOpen.symm.trans runs, ?_⟩
    rw [← listener]
    exact Listener.turnsAudio p s'.listener event (isOk_eq_true runs')

/-! ### The direction -/

/-- Each end has only the streams its route allows. -/
structure Accord (s : Pair) : Prop where
  paired : Paired s.connector.setup s.listener.setup
  connector :
    s.connector.audio.Sided s.connector.setup.localFingerprint s.connector.setup.peerFingerprint
  listener :
    s.listener.audio.Sided s.listener.setup.localFingerprint s.listener.setup.controllerFingerprint

/-- The listener is on its way to the route of the connector, which can be named to it. -/
structure Routed (s : Pair) : Prop where
  paired : Paired s.connector.setup s.listener.setup
  capable : s.connector.Capable
  leads : routeAfter s.listener.setup.localFingerprint (audioControls s.down)
    s.listener.audio.source = s.connector.audio.source

/-- What both loops keep while they run. -/
def Running (I : Pair → Prop) (s : Pair) : Prop :=
  s.connectorOpen = true → s.listenerOpen = true → I s

theorem AudioStep.accord {connectors : Bool} (step : AudioStep p connectors s t)
    (accord : s.Running Accord) : t.Running Accord := by
  intro connectorOpen listenerOpen
  cases step with
  | connector acts listener listener' taken told turned =>
    obtain ⟨runs, turn⟩ := turned connectorOpen
    have before := accord runs (listener'.symm.trans listenerOpen)
    refine ⟨?_, ?_, ?_⟩
    · rw [turn.setup, listener]
      exact before.paired
    · rw [turn.setup]
      exact turn.turned.sided before.connector
    · rw [listener]
      exact before.listener
  | listener acts connector connector' taken told turned =>
    obtain ⟨runs, turn⟩ := turned listenerOpen
    have before := accord (connector'.symm.trans connectorOpen) runs
    refine ⟨?_, ?_, ?_⟩
    · rw [turn.setup, connector]
      exact before.paired
    · rw [connector]
      exact before.connector
    · rw [turn.setup]
      exact turn.turned.sided before.listener

theorem AudioStep.routed {connectors : Bool} (step : AudioStep p connectors s t)
    (routed : s.Running Routed) : t.Running Routed := by
  intro connectorOpen listenerOpen
  cases step with
  | connector acts listener listener' taken told turned =>
    obtain ⟨runs, turn⟩ := turned connectorOpen
    obtain ⟨paired, capable, leads⟩ := routed runs (listener'.symm.trans listenerOpen)
    refine ⟨?_, turn.capable capable, ?_⟩
    · rw [turn.setup, listener]
      exact paired
    · rw [listener, told, routeAfter_append, leads]
      exact turn.routeAfter capable paired.listenerKnown
  | listener acts connector connector' taken told turned =>
    obtain ⟨runs, turn⟩ := turned listenerOpen
    obtain ⟨paired, capable, leads⟩ := routed (connector'.symm.trans connectorOpen) runs
    refine ⟨?_, ?_, ?_⟩
    · rw [turn.setup, connector]
      exact paired
    · rw [connector]
      exact capable
    · rw [taken, routeAfter_append] at leads
      rw [turn.setup, turn.source, connector, Listener.routed_eq, leads]

/-! ### The secrets -/

/-- A turn in which no start generation is used again, and no receiver fails to start while an
    older one is held. -/
def undisturbed (s : Pair) (action : Platform × PairAction) : Bool :=
  s.connector.audio.generation + 1 < UInt64.size && s.listener.audio.generation + 1 < UInt64.size &&
    (action.1.receiverStart.isNone ||
      if action.2.connectors then s.connector.audio.receiver.isNone
      else s.listener.audio.receiver.isNone)

theorem undisturbed_iff : s.undisturbed (p, action) = true ↔
    s.connector.audio.generation + 1 < UInt64.size ∧
    s.listener.audio.generation + 1 < UInt64.size ∧
    (p.receiverStart ≠ none →
      if action.connectors then s.connector.audio.receiver = none
      else s.listener.audio.receiver = none) := by
  unfold undisturbed
  cases p.receiverStart <;> cases action.connectors <;> simp [and_assoc]

/-- Both receivers hold the secrets the other end sends with or is about to hear of. -/
structure Keyed (s : Pair) : Prop where
  connectorPort : s.connector.setup.audioPort ≠ 0
  listenerPort : s.listener.setup.audioPort ≠ 0
  connector : s.connector.audio.Numbered
  listener : s.listener.audio.Numbered
  up : ∀ control ∈ audioControls s.up, AudioEnd.Proper control
  down : ∀ control ∈ audioControls s.down, AudioEnd.Proper control
  toConnector : s.listener.audio.KeysAgree (audioControls s.up) s.connector.audio
  toListener : s.connector.audio.KeysAgree (audioControls s.down) s.listener.audio

theorem AudioStep.keyed (step : AudioStep p action.connectors s t)
    (undisturbed : s.undisturbed (p, action) = true) (accord : s.Running Accord)
    (keyed : s.Running Keyed) : t.Running Keyed := by
  intro connectorOpen listenerOpen
  obtain ⟨connectorBelow, listenerBelow, calm⟩ := undisturbed_iff.mp undisturbed
  cases step with
  | connector acts listener listenerRan taken told turned =>
    obtain ⟨runs, turn⟩ := turned connectorOpen
    have ran := listenerRan.symm.trans listenerOpen
    have before := keyed runs ran
    rw [acts, if_pos rfl] at calm
    have up := before.up
    rw [taken] at up
    obtain ⟨head, rest⟩ := List.forall_mem_append.mp up
    refine ⟨?_, ?_, ?_, ?_, rest, ?_, ?_, ?_⟩
    · rw [turn.setup]
      exact before.connectorPort
    · rw [listener]
      exact before.listenerPort
    · exact turn.turned.numbered connectorBelow before.connector
    · rw [listener]
      exact before.listener
    · rw [told]
      exact List.forall_mem_append.mpr ⟨before.down, turn.turned.proper before.connectorPort⟩
    · have agree := before.toConnector
      rw [taken] at agree
      rw [listener]
      exact turn.turned.keys_sending before.connector connectorBelow
        (accord runs ran).connector head agree
    · rw [told, listener]
      exact turn.turned.keys_receiving calm before.toListener
  | listener acts connector connectorRan taken told turned =>
    obtain ⟨runs, turn⟩ := turned listenerOpen
    have ran := connectorRan.symm.trans connectorOpen
    have before := keyed ran runs
    rw [acts, if_neg Bool.false_ne_true] at calm
    have down := before.down
    rw [taken] at down
    obtain ⟨head, rest⟩ := List.forall_mem_append.mp down
    refine ⟨?_, ?_, ?_, ?_, ?_, rest, ?_, ?_⟩
    · rw [connector]
      exact before.connectorPort
    · rw [turn.setup]
      exact before.listenerPort
    · rw [connector]
      exact before.connector
    · exact turn.turned.numbered listenerBelow before.listener
    · rw [told]
      exact List.forall_mem_append.mpr ⟨before.up, turn.turned.proper before.listenerPort⟩
    · rw [told, connector]
      exact turn.turned.keys_receiving calm before.toConnector
    · have agree := before.toListener
      rw [taken] at agree
      rw [connector]
      exact turn.turned.keys_sending before.listener listenerBelow
        (accord ran runs).listener head agree

/-! ### Whole runs -/

/-- The sound before the first turn: nothing runs yet, and the connector has named its route. -/
theorem Started.heard (started : s.Started) :
    Paired s.connector.setup s.listener.setup ∧
      (∃ source, s.connector.audio = { source, stored := some source }) ∧
      s.listener.audio = {} ∧ s.up = [] ∧
      ∃ more, audioControls s.down = s.connector.audioRoute :: more ∧
        ∀ control ∈ more, control.isRoute = false ∧ control.startSecrets = none := by
  obtain ⟨setup, persisted, preferConnector, paused, capture, source, p, first, listenerSetup,
    listenerCapture, paired, made, -, rfl⟩ := started
  obtain ⟨audio, same, more, spoken, others⟩ := Connector.start_spoken (c := first) (p := p)
  have fresh := Connector.initial_eq_ok made
  have named : first.audioRoute = (Connector.start p first).state.audioRoute := by
    unfold Connector.audioRoute
    rw [audio, same]
  refine ⟨?_, ⟨source, ?_⟩, rfl, rfl, more, ?_, others⟩
  · rw [same, fresh]
    exact paired
  · rw [audio, fresh]
  · exact spoken.trans (by rw [named])

theorem Started.accord (started : s.Started) : s.Running Accord := by
  intro _ _
  obtain ⟨paired, ⟨source, connector⟩, listener, -⟩ := started.heard
  refine ⟨paired, ?_, ?_⟩
  · rw [connector]
    exact ⟨Bool.noConfusion, Bool.noConfusion, Bool.noConfusion⟩
  · rw [listener]
    exact ⟨Bool.noConfusion, Bool.noConfusion, Bool.noConfusion⟩

theorem Started.routed (started : s.Started)
    (valid : s.connector.validSource s.connector.audio.source = true) : s.Running Routed := by
  intro _ _
  obtain ⟨paired, -, -, -, more, named, others⟩ := started.heard
  have capable : s.connector.Capable := Connector.able_of_validSource valid
  refine ⟨paired, capable, ?_⟩
  calc routeAfter s.listener.setup.localFingerprint (audioControls s.down) s.listener.audio.source
      = routeAfter s.listener.setup.localFingerprint more
          (s.connector.audioRoute.route s.listener.setup.localFingerprint
            s.listener.audio.source) := by rw [named]; rfl
    _ = s.connector.audioRoute.route s.listener.setup.localFingerprint s.listener.audio.source :=
        routeAfter_of_not fun control member => (others control member).1
    _ = s.connector.audio.source := capable.leads paired.listenerKnown _

theorem Started.keyed (started : s.Started) (connectorPort : s.connector.setup.audioPort ≠ 0)
    (listenerPort : s.listener.setup.audioPort ≠ 0) : s.Running Keyed := by
  intro _ _
  obtain ⟨-, ⟨source, connector⟩, listener, up, more, named, others⟩ := started.heard
  have absent {P : AudioControl → Prop} : ∀ control ∈ audioControls s.up, P control := by
    rw [up]
    exact List.forall_mem_nil _
  refine ⟨connectorPort, listenerPort, ?_, ?_, absent, ?_, ?_, ?_⟩
  · rw [connector]
    exact AudioEnd.numbered_of_idle rfl rfl
  · rw [listener]
    exact AudioEnd.numbered_of_idle rfl rfl
  · rw [named]
    refine List.forall_mem_cons.mpr ⟨?_, fun control member => ?_⟩
    · rintro _ _ _ _ _ start
      have route := s.connector.audioRoute_isRoute
      rw [start] at route
      cases route
    · rintro _ _ _ _ _ rfl
      cases (others _ member).2
  · rw [listener]
    rintro secrets ⟨⟩
  · rw [connector]
    rintro secrets ⟨⟩

/-- Each end sends and receives only what its route allows, the messages on their way lead the
    listener to the connector's route, and both ends send only while a route is on its way. -/
theorem audio_follows_route {start : Pair} {ok : Pair → Platform × PairAction → Prop}
    (started : start.Started)
    (valid : start.connector.validSource start.connector.audio.source = true)
    (run : machine.Run ok start s) (connectorOpen : s.connectorOpen = true)
    (listenerOpen : s.listenerOpen = true) :
    s.connector.audio.Sided s.connector.setup.localFingerprint s.connector.setup.peerFingerprint ∧
    s.listener.audio.Sided s.listener.setup.localFingerprint
      s.listener.setup.controllerFingerprint ∧
    routeAfter s.listener.setup.localFingerprint (audioControls s.down) s.listener.audio.source =
      s.connector.audio.source ∧
    (s.connector.audio.sender.isSome = true → s.listener.audio.sender.isSome = true →
      ∃ control ∈ audioControls s.down, control.isRoute = true) := by
  have accord : s.Running Accord :=
    run.invariant (fun u action v _ executed => (exec_audioStep executed).accord) started.accord
  have routed : s.Running Routed :=
    run.invariant (fun u action v _ executed => (exec_audioStep executed).routed)
      (started.routed valid)
  obtain ⟨paired, connector, listener⟩ := accord connectorOpen listenerOpen
  obtain ⟨-, -, leads⟩ := routed connectorOpen listenerOpen
  refine ⟨connector, listener, leads, fun sends sends' => ?_⟩
  by_contra unnamed
  have other : ∀ control ∈ audioControls s.down, control.isRoute = false := fun control member =>
    Bool.eq_false_iff.mpr fun route => unnamed ⟨control, member, route⟩
  rw [routeAfter_of_not other, listener.sends sends', connector.sends sends] at leads
  exact paired.distinct (paired.listenerKnown ▸ (Option.some.inj leads).symm)

/-- The user of the connector has its sound played by the listener, and the listener answers the
    offer. -/
def sampleAnswered : List (Platform × PairAction) :=
  [({}, .toListener), ({}, .toListener), ({}, .connector (.tray (.setAudio .local'))),
    ({}, .toListener), ({ secrets := ⟨7⟩ }, .toListener)]

/-- The connector sends what the listener receives. -/
def sampleStreaming : List (Platform × PairAction) :=
  sampleAnswered.append
    [({}, .toConnector), ({}, .toConnector), ({}, .connector (.audioTask 0 none)),
      ({}, .connector .audioStarted)]

theorem audio_follows_route_streaming :
    let s := machine.reach samplePair sampleStreaming
    s.connector.audio.Sided s.connector.setup.localFingerprint s.connector.setup.peerFingerprint ∧
    s.listener.audio.Sided s.listener.setup.localFingerprint
      s.listener.setup.controllerFingerprint ∧
    routeAfter s.listener.setup.localFingerprint (audioControls s.down) s.listener.audio.source =
      s.connector.audio.source ∧
    (s.connector.audio.sender.isSome = true → s.listener.audio.sender.isSome = true →
      ∃ control ∈ audioControls s.down, control.isRoute = true) :=
  audio_follows_route samplePair_started (by decide +kernel)
    (run_reach sampleStreaming (by decide +kernel)) (by decide +kernel) (by decide +kernel)

/-- A receiver holds the secrets of the last `Start` its end has sent: the other end is about to
    hear of it, or sends with no others. -/
theorem audio_secrets_agree {start : Pair} (started : start.Started)
    (connectorPort : start.connector.setup.audioPort ≠ 0)
    (listenerPort : start.listener.setup.audioPort ≠ 0)
    (run : machine.Run (fun s action => s.undisturbed action = true) start s)
    (connectorOpen : s.connectorOpen = true) (listenerOpen : s.listenerOpen = true) :
    s.listener.audio.KeysAgree (audioControls s.up) s.connector.audio ∧
      s.connector.audio.KeysAgree (audioControls s.down) s.listener.audio := by
  have both : s.Running Accord ∧ s.Running Keyed := by
    refine run.invariant (I := fun s => s.Running Accord ∧ s.Running Keyed) ?_
      ⟨started.accord, started.keyed connectorPort listenerPort⟩
    rintro u ⟨p, action⟩ v undisturbed executed ⟨accord, keyed⟩
    have step := exec_audioStep executed
    exact ⟨step.accord accord, step.keyed undisturbed accord keyed⟩
  have keyed := both.2 connectorOpen listenerOpen
  exact ⟨keyed.toConnector, keyed.toListener⟩

theorem audio_secrets_agree_streaming :
    (machine.reach samplePair sampleStreaming).listener.audio.KeysAgree
        (audioControls (machine.reach samplePair sampleStreaming).up)
        (machine.reach samplePair sampleStreaming).connector.audio ∧
      (machine.reach samplePair sampleStreaming).connector.audio.KeysAgree
        (audioControls (machine.reach samplePair sampleStreaming).down)
        (machine.reach samplePair sampleStreaming).listener.audio :=
  audio_secrets_agree samplePair_started (by decide +kernel) (by decide +kernel)
    (run_reach_of_allowedList undisturbed (fun _ _ => id) sampleStreaming (by decide +kernel)
      (by decide +kernel))
    (by decide +kernel) (by decide +kernel)

end Pair

end EdgeKvm.Session
