import EdgeKvm.Session.AudioTurns
import EdgeKvm.Session.Connector

/-!
# What one turn of the connector does to its audio

The connector decides about the route: whatever it names is the route it has, and a new one is
named in the turn that commits it.
-/

namespace EdgeKvm.Session

open EdgeKvm.Lib Handler

namespace Connector

variable {c c' : Connector} {p : Platform} {received : Option AudioControl}

/-- A handler that leaves the audio alone. -/
def Unheard (c : Connector) (_ : Except SessionExit Unit) (c' : Connector) (out : List Effect) :
    Prop :=
  c'.audio = c.audio ∧ c'.setup = c.setup ∧ spoken out = []

/-- A peer that knows only `SetEnabled` never plays the sound of this computer. -/
def Capable (c : Connector) : Prop :=
  c.setup.peerSupportsAudioRoute = true ∨ c.audio.source = none ∨
    c.audio.source = some c.setup.peerFingerprint

/-- What a turn does to the audio: every route the connector names is the one it has then, and a
    new one is named. -/
structure AudioTurn (p : Platform) (c : Connector) (received : Option AudioControl) (c' : Connector)
    (out : List Effect) : Prop where
  turned : AudioEnd.Turned p c.setup.localFingerprint c.setup.peerFingerprint c.setup.audioPort
    received c.audio c'.audio (spoken out)
  routes : ∀ control ∈ spoken out, control.isRoute = true → control = c'.audioRoute
  kept : (∀ control ∈ spoken out, control.isRoute = false) → c'.audio.source = c.audio.source
  capable : c.Capable → c'.Capable
  setup : c'.setup = c.setup

/-- A turn that does not end the session. -/
def Heard (p : Platform) (c : Connector) (received : Option AudioControl)
    (result : Except SessionExit Unit) (c' : Connector) (out : List Effect) : Prop :=
  result = .ok () → c.AudioTurn p received c' out

theorem Unheard.heard {result : Except SessionExit Unit} {out : List Effect}
    (unheard : c.Unheard result c' out)
    (refused : c.audio.Refuses c.setup.localFingerprint received) :
    c.Heard p received result c' out := by
  obtain ⟨audio, setup, silent⟩ := unheard
  intro _
  refine ⟨?_, ?_, fun _ => by rw [audio], ?_, setup⟩
  · rw [audio, silent]
    exact .same refused rfl
  · simp [silent]
  · unfold Capable
    rw [audio, setup]
    exact id

/-! ## Handlers that leave it alone -/

theorem beginRoleSwitch_unheard {requested : String} :
    (beginRoleSwitch p requested).wp c.Unheard c := by
  unfold beginRoleSwitch
  simp [Unheard, Frame.audioControl]

theorem expireTransition_unheard {passed : Bool} :
    (expireTransition p passed).wp c.Unheard c := by
  unfold expireTransition
  simp [Unheard, Frame.audioControl]

theorem pollLiveness_unheard {liveness : Option LivenessEvent} :
    (pollLiveness liveness).wp c.Unheard c := by
  unfold pollLiveness
  rcases liveness with _ | _ | _ <;> simp [Unheard, Frame.audioControl]

theorem captureEvent_unheard {event : Option CaptureEvent} :
    (captureEvent p event).wp c.Unheard c := by
  unfold captureEvent loseCapture
  rcases event with _ | _ | _ | _ | _ | _ | _ <;> simp [Unheard, Frame.audioControl]

theorem toggleInputForwarding_unheard : (toggleInputForwarding p).wp c.Unheard c := by
  unfold toggleInputForwarding
  simp [Unheard, Frame.audioControl]

theorem setController_unheard {choice : ControllerChoice} :
    (setController p choice).wp c.Unheard c := by
  unfold setController
  simp
  exact ⟨fun _ _ _ _ => beginRoleSwitch_unheard, fun _ => ⟨rfl, rfl, rfl⟩⟩

theorem returnRelease_unheard {edge : Edge} {position : UInt32} :
    (returnRelease edge position).wp c.Unheard c := by
  unfold returnRelease
  simp [Unheard, Frame.audioControl]

theorem recoverLiveness_unheard : (recoverLiveness p).wp c.Unheard c := by
  unfold recoverLiveness
  simp [Unheard]

theorem onInput_unheard {epoch : Nat} {event : InputEvent} :
    (onInput p epoch event).wp c.Unheard c := by
  unfold onInput
  simp [Unheard]

theorem onControl_unheard {epoch : Nat} {event : ControlEvent} :
    (onControl p epoch event).wp c.Unheard c := by
  unfold onControl onSetInputForwarding
  cases event <;> simp [Unheard, Frame.audioControl]

theorem onReady_unheard {epoch : Nat} {captureReady injectReady : Bool} {detail : Option String} :
    (onReady p epoch captureReady injectReady detail).wp c.Unheard c := by
  unfold onReady
  rw [wp_read_bind]
  cases c.pendingReadiness with
  | none => exact ⟨rfl, rfl, rfl⟩
  | some localReady =>
    dsimp only
    split
    · simp [Unheard]
    · simp [Unheard]
    · rename_i decision coordinator _
      cases decision with
      | commit commit =>
        unfold applyCommit
        cases named : commit.controllerFingerprint <;> simp [named, Unheard, Frame.audioControl]
      | abort abort =>
        unfold applyAbort
        simp [Unheard, Frame.audioControl]

theorem onApplied_unheard {epoch : Nat} : (onApplied p epoch).wp c.Unheard c := by
  unfold onApplied
  rcases waiting : c.pendingRolePersistence with _ | ⟨expected, controller⟩ <;>
    simp [waiting, Unheard]

theorem onRequest_unheard {requested : String} : (onRequest p requested).wp c.Unheard c := by
  unfold onRequest
  simp
  exact ⟨fun _ _ _ _ _ => beginRoleSwitch_unheard, fun _ => ⟨rfl, rfl, rfl⟩⟩

/-! ## Handlers that change it -/

theorem audioRoute_isRoute : c.audioRoute.isRoute = true := by
  unfold audioRoute
  split <;> rfl

theorem startSecrets_audioRoute : startSecrets [c.audioRoute] = [] := by
  unfold audioRoute
  split <;> rfl

/-- The route is named again, and the stream offered. -/
theorem AudioTurn.again {out : List Effect} (audio : c'.audio = c.audio)
    (setup : c'.setup = c.setup)
    (named : ∀ control ∈ spoken out, control = c'.audioRoute ∨
      (control.isRoute = false ∧ control.startSecrets = none))
    (refused : c.audio.Refuses c.setup.localFingerprint received) :
    c.AudioTurn p received c' out := by
  refine ⟨?_, ?_, fun _ => by rw [audio], ?_, setup⟩
  · rw [audio]
    refine .same refused (List.filterMap_eq_nil_iff.mpr ?_)
    intro control member
    rcases named control member with rfl | ⟨-, quiet⟩
    · unfold audioRoute
      split <;> rfl
    · exact quiet
  · intro control member route
    rcases named control member with same | ⟨other, -⟩
    · exact same
    · exact absurd route (by simp [other])
  · unfold Capable
    rw [audio, setup]
    exact id

/-- Another route is committed and named. -/
theorem AudioTurn.routed {source : Option String} {out : List Effect} {more : List AudioControl}
    (audio : c'.audio = { c.audio.stopStreams with source, stored := some source })
    (setup : c'.setup = c.setup) (named : spoken out = c'.audioRoute :: more)
    (others : ∀ control ∈ more, control.isRoute = false ∧ control.startSecrets = none)
    (able : c.setup.peerSupportsAudioRoute = true ∨ source = none ∨
      source = some c.setup.peerFingerprint) : c.AudioTurn p received c' out := by
  refine ⟨?_, ?_, ?_, ?_, setup⟩
  · rw [audio, named]
    refine .stopped source (some source) ?_
    rw [← List.singleton_append, startSecrets_append, startSecrets_audioRoute, List.nil_append]
    exact List.filterMap_eq_nil_iff.mpr fun control member => (others control member).2
  · intro control member route
    rw [named] at member
    rcases List.mem_cons.mp member with same | later
    · exact same
    · exact absurd route (by simp [(others control later).1])
  · intro silent
    have route := silent c'.audioRoute (by simp [named])
    exact absurd (audioRoute_isRoute (c := c')) (by simp [route])
  · intro _
    unfold Capable
    rw [audio, setup]
    exact able

/-- The streams are stopped; the route stays. -/
theorem AudioTurn.stopped {out : List Effect} (audio : c'.audio = c.audio.stopStreams)
    (setup : c'.setup = c.setup)
    (named : ∀ control ∈ spoken out, control.isRoute = false ∧ control.startSecrets = none) :
    c.AudioTurn p received c' out := by
  refine ⟨?_, ?_, fun _ => by rw [audio]; rfl, ?_, setup⟩
  · rw [audio]
    exact .stopped c.audio.source c.audio.stored
      (List.filterMap_eq_nil_iff.mpr fun control member => (named control member).2)
  · intro control member route
    exact absurd route (by simp [(named control member).1])
  · unfold Capable
    rw [audio, setup]
    exact id

/-- The route stays. -/
theorem AudioTurn.keeping {out : List Effect}
    (turned : AudioEnd.Turned p c.setup.localFingerprint c.setup.peerFingerprint c.setup.audioPort
      received c.audio c'.audio (spoken out))
    (source : c'.audio.source = c.audio.source) (setup : c'.setup = c.setup)
    (named : ∀ control ∈ spoken out, control.isRoute = false) : c.AudioTurn p received c' out := by
  refine ⟨turned, ?_, fun _ => source, ?_, setup⟩
  · intro control member route
    exact absurd route (by simp [named control member])
  · unfold Capable
    rw [source, setup]
    exact id

theorem AudioTurn.after {t : Connector} {before out : List Effect} (audio : t.audio = c.audio)
    (setup : t.setup = c.setup) (silent : spoken before = [])
    (turn : t.AudioTurn p received c' out) : c.AudioTurn p received c' (before ++ out) := by
  have spoke : spoken (before ++ out) = spoken out := by rw [spoken_append, silent, List.nil_append]
  obtain ⟨turned, routes, kept, capable, same⟩ := turn
  rw [audio, setup] at turned
  unfold Capable at capable
  rw [audio, setup] at capable
  refine ⟨?_, ?_, ?_, capable, same.trans setup⟩
  · rwa [spoke]
  · rwa [spoke]
  · rw [spoke, ← audio]
    exact kept

/-- What follows a handler that leaves the audio alone. -/
theorem heard_seq {h : ConnectorM Unit} {f : Unit → ConnectorM Unit} (first : h.wp c.Unheard c)
    (rest : ∀ t, t.audio = c.audio → t.setup = c.setup → (f ()).wp (t.Heard p received) t) :
    (h >>= f).wp (c.Heard p received) c := by
  refine wp_seq first ?_ ?_
  · intro error t o _ ok
    cases ok
  · rintro ⟨⟩ t o ⟨audio, setup, silent⟩
    refine wp_mono ?_ (rest t audio setup)
    intro result c' out heard ok
    exact (heard ok).after audio setup silent

theorem mem_audioOffer {quiet : Bool} :
    ∀ control ∈ spoken (c.audioOffer quiet),
      control.isRoute = false ∧ control.startSecrets = none := by
  intro control member
  unfold audioOffer at member
  split at member
  · obtain rfl := List.mem_singleton.mp member
    exact ⟨rfl, rfl⟩
  · cases member

theorem commitAudioRoute_heard {source : Option String} {f : Unit → ConnectorM Unit}
    (able : c.setup.peerSupportsAudioRoute = true ∨ source = none ∨
      source = some c.setup.peerFingerprint)
    (rest : ∀ t, (f ()).wp (fun result c' out => result = .ok () → c' = t ∧
      ∀ control ∈ spoken out, control.isRoute = false ∧ control.startSecrets = none) t) :
    (commitAudioRoute p source >>= f).wp (c.Heard p received) c := by
  unfold commitAudioRoute
  simp
  refine ⟨fun _ => ?_, fun _ _ ok => by cases ok⟩
  refine wp_mono ?_ (rest _)
  intro result c' out kept ok
  obtain ⟨rfl, others⟩ := kept ok
  exact .routed rfl rfl rfl others able

theorem setAudio_heard {choice : AudioChoice} : (setAudio p choice).wp (c.Heard p none) c := by
  unfold setAudio
  rw [wp_read_bind]
  cases asked : c.requestedSource choice with
  | none => exact Unheard.heard ⟨rfl, rfl, rfl⟩ AudioEnd.refuses_none
  | some source =>
    refine commitAudioRoute_heard ?_ fun t => wp_offerIfSource.mpr fun _ => ⟨rfl, mem_audioOffer⟩
    cases choice with
    | off => exact .inr (.inl (Option.some.inj asked).symm)
    | local' =>
      simp only [requestedSource, Option.ite_none_right_eq_some, Bool.and_eq_true] at asked
      exact .inl asked.1.2
    | peer =>
      simp only [requestedSource, Option.ite_none_right_eq_some, Option.some.injEq] at asked
      exact .inr (.inr asked.2.symm)

theorem disconnect_heard : disconnect.wp (c.Heard p none) c := by
  unfold disconnect pause
  simp
  refine ⟨fun _ => ⟨fun coordinator _ => ?_, fun _ _ ok => by cases ok⟩, fun _ => ?_⟩
  · exact fun _ => .stopped rfl rfl (by simp [Frame.audioControl, AudioControl.isRoute,
      AudioControl.startSecrets])
  · exact Unheard.heard ⟨rfl, rfl, rfl⟩ AudioEnd.refuses_none

theorem heard_failed {exit : SessionExit} {out : List Effect} :
    c.Heard p received (.error exit) c' out := by
  intro ok
  cases ok

/-- The session is resumed: the route is named again. -/
theorem AudioTurn.resumed {u : Connector} {paused quiet : Bool} (audio : c'.audio = c.audio)
    (setup : c'.setup = c.setup) (mid : u.audio = c'.audio ∧ u.setup = c'.setup)
    (refused : c.audio.Refuses c.setup.localFingerprint received) :
    c.AudioTurn p received c' (.send (.role (.setPaused paused)) :: .send (.audio u.audioRoute) ::
      u.audioOffer quiet) := by
  have same : u.audioRoute = c'.audioRoute := by
    unfold audioRoute
    rw [mid.1, mid.2]
  refine .again audio setup ?_ refused
  intro control member
  simp only [spoken_send, Frame.audioControl, Option.toList_none, List.nil_append,
    Option.toList_some, List.singleton_append, List.mem_cons] at member
  rcases member with route | offered
  · exact .inl (route.trans same)
  · exact .inr (mem_audioOffer control offered)

theorem reconnect_heard : (reconnect p).wp (c.Heard p none) c := by
  unfold reconnect
  simp
  refine ⟨fun coordinator _ => ⟨fun _ _ => ⟨fun _ => heard_failed, fun _ _ => ?_,
    fun _ _ => heard_failed⟩, fun _ => ?_⟩, fun _ _ => heard_failed⟩
  · exact fun _ => .resumed rfl rfl ⟨rfl, rfl⟩ AudioEnd.refuses_none
  · exact fun _ => .resumed rfl rfl ⟨rfl, rfl⟩ AudioEnd.refuses_none

theorem onSetPaused_heard {paused : Bool} : (onSetPaused p paused).wp (c.Heard p none) c := by
  have ignored : c.Heard p none (.ok ()) c [] := Unheard.heard ⟨rfl, rfl, rfl⟩ AudioEnd.refuses_none
  unfold onSetPaused pause
  cases paused <;> simp
  · refine ⟨fun _ => ⟨fun coordinator _ => ⟨fun _ _ => ⟨fun _ => heard_failed, fun _ _ => ?_,
      fun _ _ => heard_failed⟩, fun _ => ?_⟩, fun _ _ => heard_failed⟩, fun _ => ignored⟩
    · exact fun _ => .resumed rfl rfl ⟨rfl, rfl⟩ AudioEnd.refuses_none
    · exact fun _ => .resumed rfl rfl ⟨rfl, rfl⟩ AudioEnd.refuses_none
  · refine ⟨fun _ => ⟨fun coordinator _ => ?_, fun _ _ => heard_failed⟩, fun _ => ignored⟩
    exact fun _ => .stopped rfl rfl (by simp [Frame.audioControl])

/-- An answer to an `Offer`. -/
theorem AudioTurn.answered {udpPort : Nat} {codecs : List AudioCodec} {state : AudioStreamState}
    {detail : Option String} (receives : c.audio.source = some c.setup.peerFingerprint) :
    c.AudioTurn p (some (.offer udpPort codecs))
      { c with audio := { c.audio with
        receiver := if p.receiverStart.isNone then some p.secrets else c.audio.receiver } }
      [.send (.audio (.start c.setup.audioPort p.secrets .pcmS16Stereo48Khz frameMs
        c.setup.jitterTargetMs)), .send (.audio (.state state detail))] := by
  refine .keeping ?_ rfl rfl (by simp [Frame.audioControl, AudioControl.isRoute])
  refine .answered c.setup.jitterTargetMs (.state state detail) ?_ receives rfl
  rintro answer ⟨⟩
  rfl

theorem onOffer_heard {udpPort : Nat} {codecs : List AudioCodec} :
    (onOffer p codecs).wp (c.Heard p (some (.offer udpPort codecs))) c := by
  have ignored : c.Heard p (some (.offer udpPort codecs)) (.ok ()) c [] := by
    refine Unheard.heard ⟨rfl, rfl, rfl⟩ ?_
    intro _ _ _ other
    cases other
  unfold onOffer
  cases ends : p.receiverStart <;> simp
  · refine ⟨fun receives _ _ => ?_, fun _ => ignored⟩
    simpa [ends] using AudioTurn.answered (p := p) receives
  · refine ⟨fun receives _ _ => ?_, fun _ => ignored⟩
    simpa [ends] using AudioTurn.answered (p := p) receives

theorem onStart_heard {udpPort jitterTargetMs frame : Nat} {secrets : SessionSecrets}
    {codec : AudioCodec} :
    (onStart udpPort secrets codec frame).wp
      (c.Heard p (some (.start udpPort secrets codec frame jitterTargetMs))) c := by
  unfold onStart
  simp
  refine ⟨fun sends bound whole => ?_, fun refused => Unheard.heard ⟨rfl, rfl, rfl⟩ ?_⟩
  · exact fun _ => .keeping (.spawned rfl sends rfl) rfl rfl (by simp)
  · rintro _ _ _ ⟨⟩ bound sends
    exact refused sends bound rfl

/-- A source that may be asked for can be named to the peer. -/
theorem able_of_validSource {source : Option String} (valid : c.validSource source = true) :
    c.setup.peerSupportsAudioRoute = true ∨ source = none ∨
      source = some c.setup.peerFingerprint := by
  cases source with
  | none => exact .inr (.inl rfl)
  | some source =>
    simp only [validSource, Option.all_some, Bool.or_eq_true, Bool.and_eq_true,
      decide_eq_true_eq] at valid
    rcases valid with ⟨-, able⟩ | ⟨rfl, -⟩
    · exact .inl able
    · exact .inr (.inr rfl)

theorem onAudio_heard {control : AudioControl} :
    (onAudio p control).wp (c.Heard p (some control)) c := by
  cases control with
  | requestRoute source =>
    unfold onAudio
    rw [wp_read_bind, wp_ite]
    refine ⟨fun valid => ?_, fun _ _ => ?_⟩
    · refine commitAudioRoute_heard ?_ fun t => wp_offerIfSource.mpr fun _ => ⟨rfl, mem_audioOffer⟩
      exact able_of_validSource valid
    · refine .again rfl rfl ?_ ?_
      · intro control member
        exact .inl (List.mem_singleton.mp member)
      · intro _ _ _ other
        cases other
  | setRoute source | state state detail =>
    refine Unheard.heard ⟨rfl, rfl, rfl⟩ ?_
    intro _ _ _ other
    cases other
  | offer udpPort codecs => exact onOffer_heard
  | start udpPort secrets codec frame jitterTargetMs => exact onStart_heard
  | setEnabled enabled =>
    unfold onAudio
    rw [wp_read_bind]
    unfold commitAudioRoute
    simp
    refine ⟨fun _ _ => .routed rfl rfl rfl (by simp) ?_, fun _ _ => heard_failed⟩
    cases enabled
    · exact .inr (.inl rfl)
    · exact .inr (.inr rfl)
  | stop reason =>
    unfold onAudio
    rw [wp_update]
    exact fun _ => .stopped rfl rfl (by simp)

theorem AudioTurn.reaped {sender receiver : Option SessionSecrets} {out : List Effect}
    (fewerSenders : sender = none ∨ sender = c.audio.sender)
    (fewerReceivers : receiver = none ∨ receiver = c.audio.receiver)
    (named : ∀ control ∈ spoken out, control.isRoute = false ∧ control.startSecrets = none) :
    c.AudioTurn p none { c with audio := { c.audio with sender, receiver } } out := by
  refine .keeping (.reaped rfl fewerSenders fewerReceivers ?_) rfl rfl ?_
  · exact List.filterMap_eq_nil_iff.mpr fun control member => (named control member).2
  · exact fun control member => (named control member).1

theorem reapAudio_heard {senderFinished : Bool} {receiverFailure : Option String} :
    (reapAudio senderFinished receiverFailure).wp (c.Heard p none) c := by
  have silent : c.Heard p none (.ok ()) c [] := Unheard.heard ⟨rfl, rfl, rfl⟩ AudioEnd.refuses_none
  unfold reapAudio
  cases receiverFailure with
  | none =>
    simp
    refine ⟨fun _ _ _ => .reaped (.inl rfl) (.inr rfl) ?_, fun _ => silent⟩
    simp [Frame.audioControl, AudioControl.isRoute, AudioControl.startSecrets]
  | some failure =>
    simp
    refine ⟨fun _ _ => ⟨fun _ _ => .reaped (.inl rfl) (.inl rfl) ?_,
        fun _ _ => .reaped (.inl rfl) (.inr rfl) ?_⟩,
      fun _ => ⟨fun _ _ => .reaped (.inr rfl) (.inl rfl) ?_, fun _ => silent⟩⟩
    all_goals simp [Frame.audioControl, AudioControl.isRoute, AudioControl.startSecrets]

theorem audioStarted_heard : audioStarted.wp (c.Heard p none) c := by
  unfold audioStarted
  rw [wp_read_bind]
  cases taken : c.audio.takeResult with
  | none => exact Unheard.heard ⟨rfl, rfl, rfl⟩ AudioEnd.refuses_none
  | some report =>
    obtain ⟨audio, control⟩ := report
    obtain ⟨source, -, quiet⟩ := AudioEnd.takeResult_eq_some taken
    dsimp only
    cases control with
    | none =>
      simp only [wp_bind, wp_update, wp_pure]
      exact fun _ => .keeping (.started rfl taken rfl) source rfl (by simp)
    | some control =>
      simp only [wp_bind, wp_update, wp_send, List.nil_append]
      obtain ⟨route, start⟩ := quiet control rfl
      refine fun _ => .keeping (.started rfl taken ?_) source rfl ?_
      · simp [Frame.audioControl, startSecrets, start]
      · simp [Frame.audioControl, route]

/-- A start task ends while the loop goes on. -/
theorem taskEnded_heard {next : Option AudioEnd}
    (ends : ∀ a', next = some a' →
      ∃ index, (∃ failure, c.audio.report index failure = some a') ∨
        c.audio.cancel index = some a') :
    c.AudioTurn p none { c with audio := next.getD c.audio } [] := by
  cases next with
  | none => exact .keeping (.same AudioEnd.refuses_none rfl) rfl rfl (by simp)
  | some a' =>
    obtain ⟨source, -⟩ := AudioEnd.ended_eq_some (ends a' rfl)
    exact .keeping (.ended rfl (ends a' rfl)) source rfl (by simp)

theorem onRole_heard {event : RoleEvent} : (onRole p event).wp (c.Heard p none) c := by
  have heard : ∀ {h : ConnectorM Unit}, h.wp c.Unheard c → h.wp (c.Heard p none) c :=
    fun unheard => Unheard.heard unheard AudioEnd.refuses_none
  cases event with
  | request requested => exact heard onRequest_unheard
  | ready epoch captureReady injectReady detail => exact heard onReady_unheard
  | applied epoch => exact heard onApplied_unheard
  | setPaused paused => exact onSetPaused_heard
  | sessionState state | prepare state | commit state | abort state => exact heard ⟨rfl, rfl, rfl⟩

theorem onFrame_heard {frame : Frame} :
    (onFrame p frame).wp (c.Heard p frame.audioControl) c := by
  refine heard_seq recoverLiveness_unheard fun t _ _ => ?_
  have heard : ∀ {h : ConnectorM Unit}, h.wp t.Unheard t → h.wp (t.Heard p none) t :=
    fun unheard => Unheard.heard unheard AudioEnd.refuses_none
  cases frame with
  | input epoch event => exact heard onInput_unheard
  | control epoch event => exact heard onControl_unheard
  | role event => exact onRole_heard
  | audio control => exact onAudio_heard
  | error code message => exact heard_failed
  | other => exact heard ⟨rfl, rfl, rfl⟩

theorem tray_heard {command : TrayCommand} : (tray p command).wp (c.Heard p none) c := by
  have heard : ∀ {h : ConnectorM Unit}, h.wp c.Unheard c → h.wp (c.Heard p none) c :=
    fun unheard => Unheard.heard unheard AudioEnd.refuses_none
  cases command with
  | disconnect => exact disconnect_heard
  | reconnect => exact reconnect_heard
  | toggleInputForwarding => exact heard toggleInputForwarding_unheard
  | setAudio choice => exact setAudio_heard
  | setController choice => exact heard setController_unheard
  | quit => exact heard_failed

end Connector

/-- The audio message a turn of the connector is on. -/
def ConnectorEvent.audioControl : ConnectorEvent → Option AudioControl
  | .frame received => received.audioControl
  | _ => none

/-- Every turn of the connector's loop. -/
theorem Connector.turnsAudio (p : Platform) (c : Connector) (event : ConnectorEvent) :
    (Connector.handle p event).wp (c.Heard p event.audioControl) c := by
  have heard : ∀ {h : ConnectorM Unit}, h.wp c.Unheard c → h.wp (c.Heard p none) c :=
    fun unheard => Unheard.heard unheard AudioEnd.refuses_none
  cases event with
  | replaced | closed => exact heard_failed
  | watchdog deadlinePassed liveness senderFinished receiverFailure =>
    exact heard_seq expireTransition_unheard fun t _ _ =>
      heard_seq pollLiveness_unheard fun t _ _ => reapAudio_heard
  | heartbeat => exact heard ⟨rfl, rfl, rfl⟩
  | capture event => exact heard captureEvent_unheard
  | captureDisarmed => exact heard ⟨rfl, rfl, rfl⟩
  | audioStarted => exact audioStarted_heard
  | audioTask index failure =>
    exact fun _ => taskEnded_heard fun a' ends => ⟨index, .inl ⟨failure, ends⟩⟩
  | audioTaskCancelled index => exact fun _ => taskEnded_heard fun a' ends => ⟨index, .inr ends⟩
  | tray command => exact tray_heard
  | returnRelease edge position => exact heard returnRelease_unheard
  | frame frame => exact onFrame_heard

end EdgeKvm.Session
