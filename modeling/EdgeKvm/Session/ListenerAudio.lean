import EdgeKvm.Session.AudioTurns
import EdgeKvm.Session.Listener

/-!
# What one turn of the listener does to its audio

The listener follows the route the connector names.
-/

namespace EdgeKvm.Session

open EdgeKvm.Lib Handler

namespace Listener

variable {l l' : Listener} {p : Platform} {received : Option AudioControl}

/-- A handler that leaves the audio alone. -/
def Unheard (l : Listener) (_ : Except SessionExit Unit) (l' : Listener) (out : List Effect) :
    Prop :=
  l'.audio = l.audio ∧ l'.setup = l.setup ∧ startSecrets (spoken out) = []

/-- The route behind a message. -/
def routed (l : Listener) (received : Option AudioControl) : Option String :=
  received.elim l.audio.source fun control =>
    control.route l.setup.localFingerprint l.audio.source

/-- What a turn does to the audio. -/
structure AudioTurn (p : Platform) (l : Listener) (received : Option AudioControl) (l' : Listener)
    (out : List Effect) : Prop where
  turned : AudioEnd.Turned p l.setup.localFingerprint l.setup.controllerFingerprint
    l.setup.audioPort received l.audio l'.audio (spoken out)
  source : l'.audio.source = l.routed received
  setup : l'.setup = l.setup

/-- A turn that does not end the session. -/
def Heard (p : Platform) (l : Listener) (received : Option AudioControl)
    (result : Except SessionExit Unit) (l' : Listener) (out : List Effect) : Prop :=
  result = .ok () → l.AudioTurn p received l' out

theorem heard_failed {exit : SessionExit} {out : List Effect} :
    l.Heard p received (.error exit) l' out := by
  intro ok
  cases ok

theorem Unheard.heard {result : Except SessionExit Unit} {out : List Effect}
    (unheard : l.Unheard result l' out) : l.Heard p none result l' out := by
  obtain ⟨audio, setup, silent⟩ := unheard
  intro _
  refine ⟨?_, by rw [audio]; rfl, setup⟩
  rw [audio]
  exact .same AudioEnd.refuses_none silent

/-! ## Handlers that leave it alone -/

theorem expireRequest_unheard {passed : Bool} : (expireRequest p passed).wp l.Unheard l := by
  unfold expireRequest
  simp [Unheard]

theorem pollLiveness_unheard {liveness : Option LivenessEvent} :
    (pollLiveness liveness).wp l.Unheard l := by
  unfold pollLiveness
  rcases liveness with _ | _ | _ <;> simp [Unheard, Frame.audioControl]

theorem captureEvent_unheard {event : Option CaptureEvent} :
    (captureEvent p event).wp l.Unheard l := by
  unfold captureEvent
  rcases event with _ | _ | _ | _ | _ | _ | _
  case some.layoutChanged =>
    cases prepared : l.preparedRole <;> simp [prepared, Unheard, Frame.audioControl]
  all_goals simp [Unheard, Frame.audioControl]

theorem reconnect_unheard : (reconnect p).wp l.Unheard l := by
  unfold reconnect
  simp [Unheard, Frame.audioControl]

theorem setController_unheard {choice : ControllerChoice} :
    (setController choice).wp l.Unheard l := by
  unfold setController
  simp [Unheard, Frame.audioControl]

theorem toggleInputForwarding_unheard : (toggleInputForwarding p).wp l.Unheard l := by
  unfold toggleInputForwarding
  simp [Unheard, Frame.audioControl]

theorem setAudio_unheard {choice : AudioChoice} : (setAudio choice).wp l.Unheard l := by
  unfold setAudio
  rw [wp_read_bind]
  dsimp only
  split
  · exact ⟨rfl, rfl, rfl⟩
  · simp [Unheard, Frame.audioControl, AudioControl.startSecrets]

theorem returnRelease_unheard {edge : Edge} {position : UInt32} :
    (returnRelease edge position).wp l.Unheard l := by
  unfold returnRelease
  simp [Unheard, Frame.audioControl]

theorem onInput_unheard {epoch : Nat} {event : InputEvent} :
    (onInput p epoch event).wp l.Unheard l := by
  unfold onInput
  simp [Unheard]

theorem onControl_unheard {epoch : Nat} {event : ControlEvent} :
    (onControl p epoch event).wp l.Unheard l := by
  unfold onControl onSetInputForwarding
  cases event <;> simp [Unheard, Frame.audioControl]

theorem onSessionState_unheard {state : RoleState} :
    (onSessionState p state).wp l.Unheard l := by
  unfold onSessionState
  simp [Unheard, Frame.audioControl]

theorem onPrepare_unheard {prepare : RoleState} : (onPrepare p prepare).wp l.Unheard l := by
  unfold onPrepare
  cases valid : validatePrepare l.currentRoleState prepare l.setup.controllerFingerprint
    l.setup.localFingerprint <;> simp [valid, Unheard, Frame.audioControl]

theorem onCommit_unheard {commit : RoleState} : (onCommit p commit).wp l.Unheard l := by
  unfold onCommit
  cases waiting : l.preparedRole with
  | none => simp [waiting, Unheard]
  | some prepared =>
    cases valid : validateCommit prepared commit with
    | error error => simp [waiting, valid, Unheard]
    | ok value =>
      cases commit.controllerFingerprint with
      | none => simp [waiting, valid, Unheard]
      | some controller =>
        simp [waiting, valid]
        generalize (_ && l.capture.isSome) = arms
        cases arms <;> cases p.arm <;> simp [Unheard, Frame.audioControl]

theorem onAbort_unheard {abort : RoleState} : (onAbort p abort).wp l.Unheard l := by
  unfold onAbort
  simp [Unheard]

/-! ## Handlers that change it -/

/-- The streams are stopped; the route stays. -/
theorem AudioTurn.stopped {out : List Effect} (audio : l'.audio = l.audio.stopStreams)
    (setup : l'.setup = l.setup) (routed : l.routed received = l.audio.source)
    (quiet : startSecrets (spoken out) = []) : l.AudioTurn p received l' out := by
  refine ⟨?_, ?_, setup⟩
  · rw [audio]
    exact .stopped l.audio.source l.audio.stored quiet
  · rw [audio, routed]
    rfl

/-- The route is another. -/
theorem AudioTurn.changed {source : Option String} {out : List Effect}
    (audio : l'.audio = { l.audio.stopStreams with source }) (setup : l'.setup = l.setup)
    (routed : l.routed received = source) (quiet : startSecrets (spoken out) = []) :
    l.AudioTurn p received l' out := by
  refine ⟨?_, ?_, setup⟩
  · rw [audio]
    exact .stopped source l.audio.stored quiet
  · rw [audio, routed]

theorem AudioTurn.reaped {sender receiver : Option SessionSecrets} {out : List Effect}
    (fewerSenders : sender = none ∨ sender = l.audio.sender)
    (fewerReceivers : receiver = none ∨ receiver = l.audio.receiver)
    (quiet : startSecrets (spoken out) = []) :
    l.AudioTurn p none { l with audio := { l.audio with sender, receiver } } out :=
  ⟨.reaped rfl fewerSenders fewerReceivers quiet, rfl, rfl⟩

theorem reapAudio_heard {senderFinished : Bool} {receiverFailure : Option String} :
    (reapAudio senderFinished receiverFailure).wp (l.Heard p none) l := by
  have silent : l.Heard p none (.ok ()) l [] := Unheard.heard ⟨rfl, rfl, rfl⟩
  unfold reapAudio
  cases receiverFailure with
  | none =>
    simp
    exact ⟨fun _ _ _ => .reaped (.inl rfl) (.inr rfl) rfl, fun _ => silent⟩
  | some failure =>
    simp
    exact ⟨fun _ _ => ⟨fun _ _ => .reaped (.inl rfl) (.inl rfl) rfl,
        fun _ _ => .reaped (.inl rfl) (.inr rfl) rfl⟩,
      fun _ => ⟨fun _ _ => .reaped (.inr rfl) (.inl rfl) rfl, fun _ => silent⟩⟩

theorem audioStarted_heard : audioStarted.wp (l.Heard p none) l := by
  unfold audioStarted
  rw [wp_read_bind]
  cases taken : l.audio.takeResult with
  | none => exact Unheard.heard ⟨rfl, rfl, rfl⟩
  | some report =>
    obtain ⟨audio, control⟩ := report
    obtain ⟨source, -, quiet⟩ := AudioEnd.takeResult_eq_some taken
    dsimp only
    cases control with
    | none =>
      simp only [wp_bind, wp_update, wp_pure]
      exact fun _ => ⟨.started rfl taken rfl, source, rfl⟩
    | some control =>
      simp only [wp_bind, wp_update, wp_send, List.nil_append]
      refine fun _ => ⟨.started rfl taken ?_, source, rfl⟩
      simp [Frame.audioControl, (quiet control rfl).2]

theorem disconnect_heard : disconnect.wp (l.Heard p none) l := by
  unfold disconnect
  simp
  exact ⟨fun _ _ => .stopped rfl rfl rfl rfl, fun _ => heard_failed⟩

theorem onSetPaused_heard {paused : Bool} : (onSetPaused p paused).wp (l.Heard p none) l := by
  unfold onSetPaused
  cases paused <;> simp
  · refine ⟨fun _ => ⟨fun _ => ?_, fun _ _ => ?_, fun _ _ _ => heard_failed⟩, fun _ => ?_⟩
    all_goals exact Unheard.heard ⟨rfl, rfl, rfl⟩
  · exact fun _ => .stopped rfl rfl rfl rfl

theorem onStart_heard {udpPort jitterTargetMs frame : Nat} {secrets : SessionSecrets}
    {codec : AudioCodec} :
    (onStart udpPort secrets codec frame).wp
      (l.Heard p (some (.start udpPort secrets codec frame jitterTargetMs))) l := by
  unfold onStart
  simp
  refine ⟨fun sends => ⟨fun unsupported _ => ⟨.same ?_ rfl, rfl, rfl⟩,
    fun bound whole _ => ⟨.spawned rfl sends rfl, rfl, rfl⟩⟩,
    fun elsewhere _ => ⟨.same ?_ rfl, rfl, rfl⟩⟩
  · rintro _ _ _ ⟨⟩ bound
    exact absurd rfl (unsupported.resolve_left bound)
  · intro _ _ _ _ _
    exact elsewhere

theorem onSetRoute_heard {source : Option String} :
    (onSetRoute source).wp (l.Heard p (some (.setRoute source))) l := by
  unfold onSetRoute
  simp
  refine ⟨fun _ => heard_failed,
    fun _ => ⟨fun _ _ _ => ?_, fun _ => ⟨fun _ _ => ?_, fun _ _ => ?_⟩⟩⟩
  all_goals exact .changed rfl rfl rfl rfl

theorem onOffer_heard {udpPort : Nat} {codecs : List AudioCodec} :
    (onOffer p codecs).wp (l.Heard p (some (.offer udpPort codecs))) l := by
  have ignored : l.Heard p (some (.offer udpPort codecs)) (.ok ()) l [] := by
    refine fun _ => ⟨.same ?_ rfl, rfl, rfl⟩
    intro _ _ _ other
    cases other
  have answered : ∀ {state detail}, l.audio.source = some l.setup.controllerFingerprint →
      l.AudioTurn p (some (.offer udpPort codecs))
        { l with audio := { l.audio with
          receiver := if p.receiverStart.isNone then some p.secrets else l.audio.receiver } }
        [.send (.audio (.start l.setup.audioPort p.secrets .pcmS16Stereo48Khz frameMs
          l.setup.jitterTargetMs)), .send (.audio (.state state detail))] := by
    intro state detail receives
    refine ⟨.answered l.setup.jitterTargetMs (.state state detail) ?_ receives rfl, rfl, rfl⟩
    rintro answer ⟨⟩
    rfl
  unfold onOffer
  cases ends : p.receiverStart <;> simp
  · refine ⟨fun receives _ _ => ?_, fun _ => ignored⟩
    simpa [ends] using answered receives
  · refine ⟨fun receives _ _ => ?_, fun _ => ignored⟩
    simpa [ends] using answered receives

theorem onAudio_heard {control : AudioControl} :
    (onAudio p control).wp (l.Heard p (some control)) l := by
  cases control with
  | requestRoute source | state state detail =>
    refine fun _ => ⟨.same ?_ rfl, rfl, rfl⟩
    intro _ _ _ other
    cases other
  | setRoute source => exact onSetRoute_heard
  | offer udpPort codecs => exact onOffer_heard
  | start udpPort secrets codec frame jitterTargetMs => exact onStart_heard
  | setEnabled enabled =>
    unfold onAudio
    rw [wp_read_bind]
    simp
    exact ⟨fun _ _ _ => .changed rfl rfl rfl rfl, fun _ _ => .changed rfl rfl rfl rfl⟩
  | stop reason =>
    unfold onAudio
    simp
    exact fun _ => .stopped rfl rfl rfl rfl

/-- A start task ends while the loop goes on. -/
theorem taskEnded_heard {next : Option AudioEnd}
    (ends : ∀ a', next = some a' →
      ∃ index, (∃ failure, l.audio.report index failure = some a') ∨
        l.audio.cancel index = some a') :
    l.AudioTurn p none { l with audio := next.getD l.audio } [] := by
  cases next with
  | none => exact ⟨.same AudioEnd.refuses_none rfl, rfl, rfl⟩
  | some a' => exact ⟨.ended rfl (ends a' rfl), (AudioEnd.ended_eq_some (ends a' rfl)).1, rfl⟩

theorem onRole_heard {event : RoleEvent} : (onRole p event).wp (l.Heard p none) l := by
  have heard : ∀ {h : ListenerM Unit}, h.wp l.Unheard l → h.wp (l.Heard p none) l :=
    fun unheard => Unheard.heard unheard
  cases event with
  | sessionState state => exact heard onSessionState_unheard
  | prepare state => exact heard onPrepare_unheard
  | commit state => exact heard onCommit_unheard
  | abort state => exact heard onAbort_unheard
  | setPaused paused => exact onSetPaused_heard
  | request requested | ready epoch captureReady injectReady detail | applied epoch =>
    exact heard ⟨rfl, rfl, rfl⟩

theorem onFrame_heard {frame : Frame} : (onFrame p frame).wp (l.Heard p frame.audioControl) l := by
  have heard : ∀ {h : ListenerM Unit}, h.wp l.Unheard l → h.wp (l.Heard p none) l :=
    fun unheard => Unheard.heard unheard
  cases frame with
  | input epoch event => exact heard onInput_unheard
  | control epoch event => exact heard onControl_unheard
  | role event => exact onRole_heard
  | audio control => exact onAudio_heard
  | error code message => exact heard ⟨rfl, rfl, rfl⟩
  | other => exact heard ⟨rfl, rfl, rfl⟩

theorem tray_heard {command : TrayCommand} : (tray p command).wp (l.Heard p none) l := by
  have heard : ∀ {h : ListenerM Unit}, h.wp l.Unheard l → h.wp (l.Heard p none) l :=
    fun unheard => Unheard.heard unheard
  cases command with
  | disconnect => exact disconnect_heard
  | reconnect => exact heard reconnect_unheard
  | toggleInputForwarding => exact heard toggleInputForwarding_unheard
  | setAudio choice => exact heard setAudio_unheard
  | setController choice => exact heard setController_unheard
  | quit => exact heard_failed

end Listener

/-- The audio message a turn of the listener is on. -/
def ListenerEvent.audioControl : ListenerEvent → Option AudioControl
  | .frame received => received.audioControl
  | _ => none

/-- Every turn of the listener's loop. -/
theorem Listener.turnsAudio (p : Platform) (l : Listener) (event : ListenerEvent) :
    (Listener.handle p event).wp (l.Heard p event.audioControl) l := by
  have heard : ∀ {h : ListenerM Unit}, h.wp l.Unheard l → h.wp (l.Heard p none) l :=
    fun unheard => Unheard.heard unheard
  cases event with
  | watchdog deadlinePassed liveness =>
    refine heard (wp_seq expireRequest_unheard (fun _ _ _ unheard => unheard) ?_)
    rintro ⟨⟩ t before ⟨audio, setup, silent⟩
    refine wp_mono ?_ pollLiveness_unheard
    rintro result t' out ⟨audio', setup', silent'⟩
    refine ⟨audio'.trans audio, setup'.trans setup, ?_⟩
    rw [spoken_append, startSecrets_append, silent, silent']
    rfl
  | capture event => exact heard captureEvent_unheard
  | captureDisarmed => exact heard ⟨rfl, rfl, rfl⟩
  | heartbeat => exact heard ⟨rfl, rfl, rfl⟩
  | statusLog senderFinished receiverFailure => exact reapAudio_heard
  | audioStarted => exact audioStarted_heard
  | audioTask index failure =>
    exact fun _ => taskEnded_heard fun a' ends => ⟨index, .inl ⟨failure, ends⟩⟩
  | audioTaskCancelled index => exact fun _ => taskEnded_heard fun a' ends => ⟨index, .inr ends⟩
  | replaced | closed => exact heard_failed
  | tray command => exact tray_heard
  | returnRelease edge position => exact heard returnRelease_unheard
  | frame frame => exact onFrame_heard

end EdgeKvm.Session
