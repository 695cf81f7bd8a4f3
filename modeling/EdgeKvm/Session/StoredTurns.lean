import EdgeKvm.Session.Pair

/-!
# What one turn does to the stored roles

The connector stores a committed assignment once the listener confirms it, the listener when it
applies it. Every other turn leaves both files alone.
-/

namespace EdgeKvm.Session

open EdgeKvm.Lib Handler

/-- The frames by which the connector tells the listener its assignment. -/
def Frame.assigns : Frame → Bool
  | .role (.sessionState _) | .role (.commit _) => true
  | _ => false

theorem Frame.isSignal_of_assigns {frame : Frame} (assigns : frame.assigns = true) :
    frame.isSignal = true := by
  unfold Frame.assigns at assigns
  split at assigns
  · rfl
  · rfl
  · cases assigns

namespace Connector

variable {c c' : Connector} {p : Platform} {event : ConnectorEvent}

/-- A handler that leaves the stored role alone, and what waits for the peer's word. -/
def Unstored (c : Connector) (_ : Except SessionExit Unit) (c' : Connector) (_ : List Effect) :
    Prop :=
  c'.pendingRolePersistence = c.pendingRolePersistence ∧ c'.storedRole = c.storedRole

/-- What the handler of a readiness does: it keeps both, or commits and waits. -/
def Commits (c : Connector) (result : Except SessionExit Unit) (c' : Connector)
    (out : List Effect) : Prop :=
  (c.Unstored result c' out ∧ ∀ commit, .role (.commit commit) ∉ signals out) ∨
    ∃ commit controller, commit.controllerFingerprint = some controller ∧
      .role (.commit commit) ∈ signals out ∧
      c'.pendingRolePersistence = some (commit.roleEpoch, controller) ∧
      c'.storedRole = c.storedRole

/-- What the handler of a confirmation does: it stores the role that waits for it. -/
def Confirms (c : Connector) (epoch : Nat) (result : Except SessionExit Unit) (c' : Connector)
    (_ : List Effect) : Prop :=
  result = .ok () →
    (c.Unstored result c' [] ∧
      ∀ controller, c.pendingRolePersistence = some (epoch, controller) → epoch ≠ c.roleEpoch) ∨
    ∃ controller, c.pendingRolePersistence = some (epoch, controller) ∧
      c'.pendingRolePersistence = none ∧ c'.storedRole = some controller

/-- What a turn does to the stored role and to the assignment that waits for the peer's word. -/
inductive Stores (c : Connector) (event : ConnectorEvent) (c' : Connector) (out : List Effect) :
    Prop
  /-- Nothing is committed or confirmed. -/
  | kept (unstored : c.Unstored (.ok ()) c' out)
      (epoch : c'.roleEpoch = c.roleEpoch)
      (stable : c'.coordinator.stable.controllerFingerprint =
        c.coordinator.stable.controllerFingerprint)
      (untold : ∀ frame ∈ signals out, frame.assigns = false)
      (passed : ∀ epoch controller, event = .frame (.role (.applied epoch)) →
        c.pendingRolePersistence = some (epoch, controller) → epoch ≠ c.roleEpoch)
  /-- A handover is committed, and waits for the word of the peer. -/
  | awaits (pending : PendingRole) (detail : Option String)
      (received : event = .frame (.role (.ready pending.proposedEpoch true true detail)))
      (next : pending.proposedEpoch = c.roleEpoch + 1)
      (sends : signals out = [.role (.commit pending.committed)])
      (epoch : c'.roleEpoch = pending.proposedEpoch)
      (stable : c'.coordinator.stable.controllerFingerprint =
        some pending.proposedControllerFingerprint)
      (awaited : c'.pendingRolePersistence =
        some (pending.proposedEpoch, pending.proposedControllerFingerprint))
      (stored : c'.storedRole = c.storedRole)
  /-- The peer confirms what waits for it. -/
  | confirmed (epoch : Nat) (controller : String)
      (received : event = .frame (.role (.applied epoch)))
      (awaited : c.pendingRolePersistence = some (epoch, controller))
      (epoch_eq : c'.roleEpoch = c.roleEpoch)
      (stable : c'.coordinator.stable.controllerFingerprint =
        c.coordinator.stable.controllerFingerprint)
      (untold : ∀ frame ∈ signals out, frame.assigns = false)
      (settled : c'.pendingRolePersistence = none) (stored : c'.storedRole = some controller)

/-! ## The handlers -/

theorem beginRoleSwitch_unstored {requested : String} :
    (beginRoleSwitch p requested).wp c.Unstored c := by
  unfold beginRoleSwitch
  simp [Unstored]

theorem watchdog_unstored {passed senderFinished : Bool} {liveness : Option LivenessEvent}
    {failure : Option String} :
    (handle p (.watchdog passed liveness senderFinished failure)).wp c.Unstored c := by
  unfold handle expireTransition pollLiveness reapAudio
  rcases liveness with _ | _ | _ <;> cases failure <;> simp [Unstored]

theorem captureEvent_unstored {event : Option CaptureEvent} :
    (captureEvent p event).wp c.Unstored c := by
  unfold captureEvent loseCapture
  rcases event with _ | _ | _ | _ | _ | _ | _ <;> simp [Unstored]

theorem audioStarted_unstored : audioStarted.wp c.Unstored c := by
  unfold audioStarted
  rcases taken : c.audio.takeResult with _ | ⟨audio, _ | control⟩ <;> simp [taken, Unstored]

theorem setAudio_unstored {choice : AudioChoice} : (setAudio p choice).wp c.Unstored c := by
  unfold setAudio commitAudioRoute
  cases asked : c.requestedSource choice <;> simp [asked, Unstored]

theorem disconnect_unstored : disconnect.wp c.Unstored c := by
  unfold disconnect pause
  simp [Unstored]

theorem reconnect_unstored : (reconnect p).wp c.Unstored c := by
  unfold reconnect
  simp [Unstored]

theorem tray_unstored {command : TrayCommand} : (tray p command).wp c.Unstored c := by
  cases command with
  | disconnect => exact disconnect_unstored
  | reconnect => exact reconnect_unstored
  | toggleInputForwarding =>
    simp only [tray]
    unfold toggleInputForwarding
    simp [Unstored]
  | setAudio choice => exact setAudio_unstored
  | setController choice =>
    simp only [tray]
    unfold setController
    simp
    exact ⟨fun _ _ _ _ => beginRoleSwitch_unstored, fun _ => ⟨rfl, rfl⟩⟩
  | quit => exact ⟨rfl, rfl⟩

theorem recoverLiveness_unstored : (recoverLiveness p).wp c.Unstored c := by
  unfold recoverLiveness
  simp [Unstored]

theorem onInput_unstored {epoch : Nat} {input : InputEvent} :
    (onInput p epoch input).wp c.Unstored c := by
  unfold onInput
  simp [Unstored]

theorem onControl_unstored {epoch : Nat} {control : ControlEvent} :
    (onControl p epoch control).wp c.Unstored c := by
  unfold onControl onSetInputForwarding
  cases control <;> simp [Unstored]

theorem onRequest_unstored {requested : String} : (onRequest p requested).wp c.Unstored c := by
  unfold onRequest
  simp
  exact ⟨fun _ _ _ _ _ => beginRoleSwitch_unstored, fun _ => ⟨rfl, rfl⟩⟩

theorem onSetPaused_unstored {paused : Bool} : (onSetPaused p paused).wp c.Unstored c := by
  unfold onSetPaused pause
  cases paused <;> simp [Unstored]

theorem onAudio_unstored {control : AudioControl} : (onAudio p control).wp c.Unstored c := by
  unfold onAudio onOffer onStart commitAudioRoute
  cases control <;> cases p.receiverStart <;> simp [Unstored]

theorem onReady_commits {epoch : Nat} {captureReady injectReady : Bool} {detail : Option String} :
    (onReady p epoch captureReady injectReady detail).wp c.Commits c := by
  unfold onReady
  rw [wp_read_bind]
  cases c.pendingReadiness with
  | none => exact .inl ⟨⟨rfl, rfl⟩, fun _ => List.not_mem_nil⟩
  | some localReady =>
    dsimp only
    split
    · exact .inl ⟨⟨rfl, rfl⟩, fun _ => List.not_mem_nil⟩
    · exact .inl ⟨⟨rfl, rfl⟩, fun _ => List.not_mem_nil⟩
    · rename_i decision coordinator _
      cases decision with
      | commit commit =>
        unfold applyCommit
        cases named : commit.controllerFingerprint with
        | none =>
          simp [named]
          exact .inl ⟨⟨rfl, rfl⟩, fun _ => List.not_mem_nil⟩
        | some controller =>
          have committed : ∀ {result c' out}, .role (.commit commit) ∈ signals out →
              c'.pendingRolePersistence = some (commit.roleEpoch, controller) →
              c'.storedRole = c.storedRole → c.Commits result c' out := fun sends awaited stored =>
            .inr ⟨commit, controller, named, sends, awaited, stored⟩
          simp [named]
          exact ⟨fun _ => ⟨fun _ => committed (.head _) rfl rfl,
            fun _ _ => committed (.head _) rfl rfl, fun _ _ => committed (.head _) rfl rfl⟩,
            fun _ => committed (.head _) rfl rfl⟩
      | abort abort =>
        have aborted : ∀ {result c' out}, c.Unstored result c' out →
            signals out = [.role (.abort abort)] → c.Commits result c' out :=
          fun unstored sends => .inl ⟨unstored, by simp [sends]⟩
        unfold applyAbort
        simp
        exact ⟨fun _ => ⟨fun _ => aborted ⟨rfl, rfl⟩ rfl,
          fun _ _ => aborted ⟨rfl, rfl⟩ rfl, fun _ _ => aborted ⟨rfl, rfl⟩ rfl⟩,
          fun _ => aborted ⟨rfl, rfl⟩ rfl⟩

theorem onApplied_confirms {epoch : Nat} : (onApplied p epoch).wp (c.Confirms epoch) c := by
  unfold onApplied
  rw [wp_read_bind]
  cases awaited : c.pendingRolePersistence with
  | none => exact fun _ => .inl ⟨⟨rfl, rfl⟩, by simp [awaited]⟩
  | some waiting =>
    obtain ⟨expected, controller⟩ := waiting
    simp
    refine ⟨fun same current => ⟨fun _ _ => .inr ⟨controller, ?_, rfl, rfl⟩, ?_⟩, ?_⟩
    · rw [awaited, same]
    · rintro error _ ⟨⟩
    · intro other _
      refine .inl ⟨⟨rfl, rfl⟩, fun named same current => ?_⟩
      rw [awaited] at same
      cases same
      exact other rfl current

theorem start_unstored : (start p).wp c.Unstored c := by
  unfold start
  simp [Unstored]

/-! ## The loop -/

/-- The frames whose handlers touch the stored role or what waits for it. -/
def stores : Frame → Bool
  | .role (.ready _ _ _ _) | .role (.applied _) => true
  | _ => false

theorem onFrame_after {frame : Frame} {Q : Except SessionExit Unit → Connector → List Effect → Prop}
    (failed : ∀ exit c', c.Unstored (.error exit) c' [] → Q (.error exit) c' [])
    (rest : ∀ c', c.Unstored (.ok ()) c' [] → c'.roleEpoch = c.roleEpoch →
      (match frame with
        | .input epoch event => onInput p epoch event
        | .control epoch event => onControl p epoch event
        | .role event => onRole p event
        | .audio control => onAudio p control
        | .error code message => leave (.failed ("Linux peer error: " ++ code ++ ": " ++ message))
        | .other => pure ()).wp Q c') :
    (onFrame p frame).wp Q c := by
  refine Handler.wp_seq (Handler.wp_and recoverLiveness_unstored recoverLiveness_silent) ?_ ?_
  · rintro exit c' out ⟨unstored, -, rfl⟩
    exact failed exit c' unstored
  · rintro ⟨⟩ c' out ⟨unstored, core, rfl⟩
    exact rest c' unstored (congrArg (·.roleEpoch) core)

theorem onFrame_unstored {frame : Frame} (other : stores frame = false) :
    (onFrame p frame).wp c.Unstored c := by
  refine onFrame_after (fun _ _ unstored => unstored) fun c' before _ => ?_
  have through : ∀ {h : ConnectorM Unit}, h.wp c'.Unstored c' → h.wp c.Unstored c' :=
    Handler.wp_mono fun _ _ _ after => ⟨after.1.trans before.1, after.2.trans before.2⟩
  cases frame with
  | input epoch input => exact through onInput_unstored
  | control epoch control => exact through onControl_unstored
  | audio control => exact through onAudio_unstored
  | error code message => exact before
  | other => exact before
  | role event =>
    cases event with
    | request requested => exact through onRequest_unstored
    | setPaused paused => exact through onSetPaused_unstored
    | ready | applied => cases other
    | sessionState | prepare | commit | abort => exact before

theorem handle_unstored (other : event.frame?.any stores = false) :
    (handle p event).wp c.Unstored c := by
  cases event with
  | watchdog passed liveness senderFinished failure => exact watchdog_unstored
  | capture event => exact captureEvent_unstored
  | audioStarted => exact audioStarted_unstored
  | tray command => exact tray_unstored
  | returnRelease edge position =>
    simp only [handle]
    unfold returnRelease
    simp [Unstored]
  | frame frame => exact onFrame_unstored other
  | replaced | heartbeat | captureDisarmed | audioTask | audioTaskCancelled | closed =>
    exact ⟨rfl, rfl⟩

theorem onFrame_commits {epoch : Nat} {captureReady injectReady : Bool} {detail : Option String} :
    (onFrame p (.role (.ready epoch captureReady injectReady detail))).wp c.Commits c := by
  refine onFrame_after (fun _ _ unstored => .inl ⟨unstored, fun _ => List.not_mem_nil⟩)
    fun c' before _ => Handler.wp_mono ?_ onReady_commits
  rintro result c'' out (⟨after, uncommitted⟩ | ⟨commit, controller, named, sends, awaited, stored⟩)
  · exact .inl ⟨⟨after.1.trans before.1, after.2.trans before.2⟩, uncommitted⟩
  · exact .inr ⟨commit, controller, named, sends, awaited, stored.trans before.2⟩

theorem onFrame_confirms {epoch : Nat} :
    (onFrame p (.role (.applied epoch))).wp (c.Confirms epoch) c := by
  refine onFrame_after (fun _ _ _ => by rintro ⟨⟩) fun c' before current =>
    Handler.wp_mono ?_ onApplied_confirms
  intro result c'' out confirms succeeded
  obtain ⟨after, passed⟩ | ⟨controller, awaited, settled, stored⟩ := confirms succeeded
  · refine .inl ⟨⟨after.1.trans before.1, after.2.trans before.2⟩, fun controller awaited => ?_⟩
    rw [← current]
    exact passed controller (before.1.trans awaited)
  · exact .inr ⟨controller, before.1.symm.trans awaited, settled, stored⟩

end Connector

/-- A turn commits a pending handover on a positive readiness, or keeps the assignment. -/
theorem ConnectorCore.Turned.assignment {k k' : ConnectorCore} {released : Prop}
    {event : ConnectorEvent} {out : List Effect} (coordinated : k.Coordinated)
    (turned : k.Turned released event (.ok ()) k' out) :
    (k'.roleEpoch = k.roleEpoch ∧ k'.coordinator.stable.controllerFingerprint =
        k.coordinator.stable.controllerFingerprint ∧
      ∀ frame ∈ signals out, frame.assigns = false) ∨
    ∃ pending detail, event = .frame (.role (.ready (PendingRole.proposedEpoch pending) true true
        detail)) ∧ pending.proposedEpoch = k.roleEpoch + 1 ∧
      signals out = [.role (.commit pending.committed)] ∧
      k'.roleEpoch = pending.proposedEpoch ∧
      k'.coordinator.stable.controllerFingerprint =
        some pending.proposedControllerFingerprint := by
  cases turned with
  | left ended => exact absurd rfl ended
  | committed pending waiting detail received ready core sends still =>
    subst core
    obtain ⟨-, next, -⟩ := coordinated.proposed pending waiting
    exact .inr ⟨pending, detail, received, next.trans (by rw [coordinated.epoch]), sends, rfl, rfl⟩
  | idle gate after ignored core silent | entered edge position received receives core silent
  | forwarded enabled received gate after core silent =>
    subst core
    exact .inl ⟨rfl, rfl, by simp [silent]⟩
  | injected input received receives core effects =>
    subst core
    exact .inl ⟨rfl, rfl, by simp [effects]⟩
  | toggled command free core sends | paused paused commanded free gate after core sends =>
    subst core
    exact .inl ⟨rfl, rfl, by simp [sends, Frame.assigns]⟩
  | prepared requested prepare coordinator readiness begun proposed core sends =>
    subst core
    obtain ⟨-, -, -, rfl⟩ := RoleCoordinator.prepare_eq_ok proposed
    exact .inl ⟨rfl, rfl, by simp [sends, Frame.assigns]⟩
  | aborted detail pending ignored waiting gate after core sends =>
    subst core
    obtain ⟨previous, -⟩ := coordinated.proposed pending waiting
    exact .inl ⟨rfl, by rw [previous], by simp [sends, Frame.assigns]⟩

namespace Connector

variable {c : Connector} {p : Platform} {event : ConnectorEvent}

/-- Every turn that goes on is in the list. -/
theorem storesRole (coordinated : c.core.Coordinated)
    (succeeded : (handle p event c).result = .ok ()) :
    c.Stores event (handle p event c).state (handle p event c).output := by
  have turned := turned p c event
  rw [Handler.wp, succeeded] at turned
  have assignment := ConnectorCore.Turned.assignment coordinated turned
  by_cases other : event.frame?.any stores = false
  · have unstored := handle_unstored (p := p) (c := c) other
    rw [Handler.wp, succeeded] at unstored
    obtain ⟨epoch, stable, untold⟩ | ⟨pending, detail, rfl, -⟩ := assignment
    · refine .kept unstored epoch stable untold ?_
      rintro _ _ rfl
      cases other
    · cases other
  · obtain ⟨frame, received, touches⟩ := (Option.any_eq_true ..).mp (Bool.not_eq_false _ ▸ other)
    obtain rfl := ConnectorEvent.frame?_eq_some.mp received
    unfold stores at touches
    split at touches
    · rename_i ready captureReady injectReady detail
      have commits : (handle p (.frame (.role (.ready ready captureReady injectReady detail)))).wp
        c.Commits c := onFrame_commits
      rw [Handler.wp] at commits
      obtain ⟨unstored, uncommitted⟩ | ⟨commit, controller, named, sent, awaited, stored⟩ := commits
      · obtain ⟨epoch, stable, untold⟩ | ⟨pending, -, -, -, sends, -⟩ := assignment
        · exact .kept unstored epoch stable untold fun _ _ applied => by cases applied
        · exact absurd (sends ▸ List.mem_singleton_self _) (uncommitted pending.committed)
      · obtain ⟨-, -, untold⟩ | ⟨pending, detail, same, next, sends, epoch, stable⟩ := assignment
        · cases untold _ sent
        · rw [sends, List.mem_singleton] at sent
          cases sent
          cases named
          exact .awaits pending detail same next sends epoch stable awaited stored
    · rename_i applied
      have confirms : (handle p (.frame (.role (.applied applied)))).wp (c.Confirms applied) c :=
        onFrame_confirms
      rw [Handler.wp] at confirms
      obtain ⟨epoch, stable, untold⟩ | ⟨pending, detail, same, -⟩ := assignment
      · obtain ⟨unstored, passed⟩ | ⟨controller, awaited, settled, stored⟩ := confirms succeeded
        · refine .kept unstored epoch stable untold ?_
          rintro _ controller ⟨⟩ awaited
          exact passed controller awaited
        · exact .confirmed _ controller rfl awaited epoch stable untold settled stored
      · cases same
    · cases touches

end Connector

/-! ## The listener -/

def Frame.isApplied : Frame → Bool
  | .role (.applied _) => true
  | _ => false

/-- The confirmations among the effects. -/
def confirmations (effects : List Effect) : List Frame := (sent effects).filter (·.isApplied)

section Confirmations

variable {a b rest : List Effect} {frame : Frame} {event : InputEvent}

@[simp] theorem confirmations_nil : confirmations [] = [] := rfl

@[simp] theorem confirmations_append :
    confirmations (a ++ b) = confirmations a ++ confirmations b := by
  simp [confirmations, sent]

@[simp] theorem confirmations_send :
    confirmations (.send frame :: rest) =
      (if frame.isApplied then [frame] else []) ++ confirmations rest := by
  cases applied : frame.isApplied <;> simp [confirmations, sent, applied]

@[simp] theorem confirmations_inject :
    confirmations (.inject event :: rest) = confirmations rest := by
  simp [confirmations, sent]

end Confirmations

namespace Listener

variable {l l' : Listener} {p : Platform} {event : ListenerEvent}

/-- A handler that leaves the stored role alone. -/
def Unstored (l : Listener) (_ : Except SessionExit Unit) (l' : Listener) (out : List Effect) :
    Prop :=
  l'.storedRole = l.storedRole ∧ confirmations out = []

/-- What a turn does to the stored role. -/
inductive Stores (l : Listener) (event : ListenerEvent) (l' : Listener) (out : List Effect) : Prop
  /-- Nothing is stored. -/
  | kept (unstored : l.Unstored (.ok ()) l' out)
      (other : ∀ state, event ≠ .frame (.role (.sessionState state)))
  /-- The assignment of the connector is stored, if there is one. -/
  | mirrored (state : RoleState) (received : event = .frame (.role (.sessionState state)))
      (stored : l'.storedRole = state.controllerFingerprint.orElse fun _ => l.storedRole)
      (silent : confirmations out = [])
  /-- A committed handover is stored and confirmed. -/
  | applied (commit : RoleState) (controller : String)
      (received : event = .frame (.role (.commit commit)))
      (named : commit.controllerFingerprint = some controller)
      (stored : l'.storedRole = some controller)
      (sends : confirmations out = [.role (.applied commit.roleEpoch)])

theorem watchdog_unstored {passed : Bool} {liveness : Option LivenessEvent} :
    (handle p (.watchdog passed liveness)).wp l.Unstored l := by
  unfold handle expireRequest pollLiveness
  rcases liveness with _ | _ | _ <;> simp [Unstored, Frame.isApplied]

theorem captureEvent_unstored {event : Option CaptureEvent} :
    (captureEvent p event).wp l.Unstored l := by
  unfold captureEvent
  rcases event with _ | _ | _ | _ | _ | _ | _
  case some.layoutChanged =>
    cases waiting : l.preparedRole <;> simp [waiting, Unstored, Frame.isApplied]
  all_goals simp [Unstored, Frame.isApplied]

theorem reapAudio_unstored {senderFinished : Bool} {failure : Option String} :
    (reapAudio senderFinished failure).wp l.Unstored l := by
  unfold reapAudio
  cases failure <;> simp [Unstored, Frame.isApplied]

theorem audioStarted_unstored : audioStarted.wp l.Unstored l := by
  unfold audioStarted
  rcases taken : l.audio.takeResult with _ | ⟨audio, _ | control⟩ <;>
    simp [taken, Unstored, Frame.isApplied]

theorem setAudio_unstored {choice : AudioChoice} : (setAudio choice).wp l.Unstored l := by
  unfold setAudio
  rcases choice with _ | _ | _
  · simp [Unstored, Frame.isApplied]
  · by_cases plays : l.setup.controllerSupportsAudioPlayback <;>
      simp [plays, Unstored, Frame.isApplied]
  · by_cases captures : l.setup.controllerSupportsAudioCapture = true ∧
      l.setup.controllerSupportsAudioRoute = true <;>
      simp [captures, Unstored, Frame.isApplied]

theorem tray_unstored {command : TrayCommand} : (tray p command).wp l.Unstored l := by
  cases command with
  | disconnect =>
    simp only [tray]
    unfold disconnect
    simp [Unstored, Frame.isApplied]
  | reconnect =>
    simp only [tray]
    unfold reconnect
    simp [Unstored, Frame.isApplied]
  | toggleInputForwarding =>
    simp only [tray]
    unfold toggleInputForwarding
    simp [Unstored, Frame.isApplied]
  | setAudio choice => exact setAudio_unstored
  | setController choice =>
    simp only [tray]
    unfold setController
    simp [Unstored, Frame.isApplied]
  | quit => exact ⟨rfl, rfl⟩

theorem onControl_unstored {epoch : Nat} {control : ControlEvent} :
    (onControl p epoch control).wp l.Unstored l := by
  unfold onControl onSetInputForwarding
  cases control <;> simp [Unstored, Frame.isApplied]

theorem onAudio_unstored {control : AudioControl} : (onAudio p control).wp l.Unstored l := by
  unfold onAudio onOffer onStart onSetRoute
  cases control <;> cases p.receiverStart <;> simp [Unstored, Frame.isApplied]

theorem onPrepare_unstored {prepare : RoleState} : (onPrepare p prepare).wp l.Unstored l := by
  unfold onPrepare
  cases valid : validatePrepare l.currentRoleState prepare l.setup.controllerFingerprint
    l.setup.localFingerprint <;> simp [valid, Unstored, Frame.isApplied]

theorem onAbort_unstored {abort : RoleState} : (onAbort p abort).wp l.Unstored l := by
  unfold onAbort
  simp [Unstored]

theorem onSetPaused_unstored {paused : Bool} : (onSetPaused p paused).wp l.Unstored l := by
  unfold onSetPaused
  cases paused <;> simp [Unstored]

theorem onSessionState_mirrors {state : RoleState} :
    (onSessionState p state).wp (fun result l' out => result = .ok () →
      l'.storedRole = (state.controllerFingerprint.orElse fun _ => l.storedRole) ∧
        confirmations out = []) l := by
  unfold onSessionState
  simp [Frame.isApplied]

theorem onCommit_applies {commit : RoleState} :
    (onCommit p commit).wp (fun result l' out => result = .ok () →
      l.Unstored result l' out ∨ ∃ controller, commit.controllerFingerprint = some controller ∧
        l'.storedRole = some controller ∧
          confirmations out = [.role (.applied commit.roleEpoch)]) l := by
  unfold onCommit
  cases waiting : l.preparedRole with
  | none => simp [waiting]
  | some prepared =>
    cases valid : validateCommit prepared commit with
    | error error => simp [waiting, valid, Unstored]
    | ok value =>
      cases named : commit.controllerFingerprint with
      | none => simp [waiting, valid]
      | some controller =>
        simp [waiting, valid]
        generalize (_ && l.capture.isSome) = arms
        cases arms <;> cases p.arm <;> simp [Unstored, Frame.isApplied]

theorem handle_unstored (other : event.frame?.any (·.assigns) = false) :
    (handle p event).wp l.Unstored l := by
  cases event with
  | watchdog passed liveness => exact watchdog_unstored
  | capture event => exact captureEvent_unstored
  | statusLog senderFinished failure => exact reapAudio_unstored
  | audioStarted => exact audioStarted_unstored
  | tray command => exact tray_unstored
  | returnRelease edge position =>
    simp only [handle]
    unfold returnRelease
    simp [Unstored, Frame.isApplied]
  | captureDisarmed | heartbeat | audioTask | audioTaskCancelled | replaced | closed =>
    exact ⟨rfl, rfl⟩
  | frame frame =>
    cases frame with
    | input epoch input =>
      simp only [handle, onFrame]
      unfold onInput
      simp [Unstored]
    | control epoch control => exact onControl_unstored
    | audio control => exact onAudio_unstored
    | error | other => exact ⟨rfl, rfl⟩
    | role event =>
      cases event with
      | sessionState | commit => cases other
      | prepare prepare => exact onPrepare_unstored
      | abort abort => exact onAbort_unstored
      | setPaused paused => exact onSetPaused_unstored
      | request | ready | applied => exact ⟨rfl, rfl⟩

/-- Every turn that goes on is in the list. -/
theorem storesRole (succeeded : (handle p event l).result = .ok ()) :
    l.Stores event (handle p event l).state (handle p event l).output := by
  by_cases other : event.frame?.any (·.assigns) = false
  · have unstored := handle_unstored (p := p) (l := l) other
    rw [Handler.wp, succeeded] at unstored
    refine .kept unstored ?_
    rintro state rfl
    cases other
  · obtain ⟨frame, received, touches⟩ := (Option.any_eq_true ..).mp (Bool.not_eq_false _ ▸ other)
    obtain rfl := ListenerEvent.frame?_eq_some.mp received
    unfold Frame.assigns at touches
    split at touches
    · rename_i state
      obtain ⟨stored, silent⟩ := @onSessionState_mirrors l p state succeeded
      exact .mirrored state rfl stored silent
    · rename_i commit
      obtain unstored | ⟨controller, named, stored, sends⟩ :=
        @onCommit_applies l p commit succeeded
      · exact .kept unstored fun state same => by cases same
      · exact .applied commit controller rfl named stored sends
    · cases touches

end Listener

end EdgeKvm.Session
