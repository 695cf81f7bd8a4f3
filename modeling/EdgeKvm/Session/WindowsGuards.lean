import EdgeKvm.Session.WindowsLoop

/-!
# When the connector's branches capture

Every branch of `WindowsConnector`, except the two that switch forwarding on in a handover, leaves
the capture to the active controller and sends nothing that drives the peer.
-/

namespace EdgeKvm.Session

open EdgeKvm.Lib Handler

namespace WindowsConnector

section Captures

variable {before enabled : Bool} {output more : List WindowsEffect}

@[simp] theorem captures_nil : captures before [] = before := rfl

@[simp] theorem captures_set :
    captures before (.setForwardingEnabled enabled :: output) = captures enabled output := rfl

@[simp] theorem captures_send {frame : Frame} :
    captures before (.send frame :: output) = captures before output := rfl

@[simp] theorem captures_inject {event : InputEvent} :
    captures before (.inject event :: output) = captures before output := rfl

@[simp] theorem captures_allKeysUp :
    captures before (.allKeysUp :: output) = captures before output := rfl

@[simp] theorem captures_forceReleaseToLocal :
    captures before (.forceReleaseToLocal :: output) = captures before output := rfl

@[simp] theorem captures_releaseToLocal {reason : ReleaseReason} :
    captures before (.releaseToLocal reason :: output) = captures before output := rfl

@[simp] theorem captures_handleReceiverRelease {reason : ReleaseReason} :
    captures before (.handleReceiverRelease reason :: output) = captures before output := rfl

theorem captures_append :
    captures before (output ++ more) = captures (captures before output) more := by
  induction output generalizing before with
  | nil => rfl
  | cons effect output ih => cases effect <;> exact ih

end Captures

theorem mayDrive_iff {w : WindowsConnector} : w.mayDrive = true ↔
    w.coordinator.stable.controllerFingerprint = some w.setup.localFingerprint ∧
      w.inputForwardingEnabled = true ∧ w.sessionPaused = false ∧ w.coordinator.pending = none := by
  simp [mayDrive, and_assoc]

theorem mayCapture_iff {w : WindowsConnector} : w.mayCapture = true ↔
    w.localIsController = true ∧ w.inputForwardingEnabled = true ∧ w.sessionPaused = false := by
  simp [mayCapture, and_assoc]

/-- The loop's variables are the coordinator's. -/
structure Coordinated (w : WindowsConnector) : Prop where
  controls : w.localIsController = true ↔
    w.coordinator.stable.controllerFingerprint = some w.setup.localFingerprint
  epoch : w.roleEpoch = w.coordinator.stable.roleEpoch
  previous : ∀ pending, w.coordinator.pending = some pending →
    pending.previous = w.coordinator.stable

/-- The capture is on for the active controller only. -/
structure Fits (capture : Bool) (w : WindowsConnector) : Prop where
  coordinated : w.Coordinated
  drives : capture = true → w.mayDrive = true

/-- A handler that keeps the capture to the active controller and sends nothing that drives. -/
def Guards {α : Type} (h : WindowsM α) (capture : Bool) (w : WindowsConnector) : Prop :=
  h.wp (fun r t output => (∀ frame, .send frame ∈ output → frame.drives = false) ∧
    ∀ a, r = .ok a → Fits (captures capture output) t) w

theorem Guards.bind {α β : Type} {h : WindowsM α} {f : α → WindowsM β} {capture : Bool}
    {w : WindowsConnector} (first : Guards h capture w)
    (rest : ∀ a capture t, Fits capture t → Guards (f a) capture t) :
    Guards (h >>= f) capture w := by
  refine Handler.wp_seq first ?_ ?_
  · rintro e t output ⟨silent, -⟩
    exact ⟨silent, fun a failed => by cases failed⟩
  · rintro a t output ⟨silent, fits⟩
    refine Handler.wp_mono ?_ (rest a _ t (fits a rfl))
    rintro r u more ⟨quiet, ends⟩
    refine ⟨fun frame found => ?_, fun b done => ?_⟩
    · rcases List.mem_append.mp found with found | found
      · exact silent frame found
      · exact quiet frame found
    · rw [captures_append]
      exact ends b done

section Handlers

variable {w : WindowsConnector} {p : WindowsPlatform} {capture : Bool}

theorem audioWatch_guards (fits : Fits capture w) {receiver sender : Bool} :
    Guards (audioWatch p receiver sender) capture w := by
  unfold audioWatch sendAudioRoute sendAudioOffer Guards
  simp
  grind [Fits, Coordinated, mayDrive_iff]

theorem expireTransition_guards (fits : Fits capture w) {passed : Bool} :
    Guards (expireTransition passed) capture w := by
  unfold expireTransition Guards
  simp
  grind [Fits, Coordinated, mayDrive_iff, mayCapture_iff]

theorem pollLiveness_guards (fits : Fits capture w) {liveness : Option LivenessEvent} :
    Guards (pollLiveness liveness) capture w := by
  unfold pollLiveness Guards
  rcases liveness with _ | _ | _
  · simpa
  · simp
    grind [Fits, Coordinated, mayDrive_iff]
  · simp

theorem beginRoleSwitch_guards (fits : Fits capture w) {requested : String} :
    Guards (beginRoleSwitch requested) capture w := by
  unfold beginRoleSwitch Guards
  simp
  grind [Fits, Coordinated, mayDrive_iff]

theorem commitAudioRoute_guards (fits : Fits capture w) {source : Option String} :
    Guards (commitAudioRoute p source) capture w := by
  unfold commitAudioRoute sendAudioRoute Guards
  simp
  grind [Fits, Coordinated, mayDrive_iff]

theorem offerIfSource_guards (fits : Fits capture w) {quiet : Bool} :
    Guards (offerIfSource p quiet) capture w := by
  unfold offerIfSource sendAudioOffer Guards
  simp
  grind [Fits, Coordinated, mayDrive_iff]

theorem resumeAudio_guards (fits : Fits capture w) : Guards (resumeAudio p) capture w := by
  unfold resumeAudio sendAudioRoute offerIfSource sendAudioOffer Guards
  simp
  grind [Fits, Coordinated, mayDrive_iff]

/-! ### Tray commands -/

/-- The commands that need no loop send nothing, and leave the capture alone. -/
theorem handlePendingTrayCommands_quiet {enabled : Bool} (commands : List WindowsTrayCommand) :
    ∀ w : WindowsConnector, (handlePendingTrayCommands enabled commands).wp (fun _ _ output =>
      (∀ frame, .send frame ∉ output) ∧ ∀ capture, captures capture output = capture) w := by
  induction commands with
  | nil =>
    intro w
    exact ⟨fun _ => List.not_mem_nil, fun _ => rfl⟩
  | cons command commands ih =>
    intro w
    unfold handlePendingTrayCommands
    rw [Handler.wp_bind, wp_update]
    cases command with
    | openSettings => exact ih { w with trayCommands := commands }
    | releaseControl =>
      rw [Handler.wp_bind, wp_emit]
      refine Handler.wp_mono ?_ (ih { w with trayCommands := commands })
      rintro r t output ⟨silent, kept⟩
      refine ⟨fun frame found => ?_, kept⟩
      rcases List.mem_cons.mp found with same | found
      · cases same
      · exact silent frame found
    | pair | disconnect | reconnect | toggleInputForwarding | setAudio | setController | quit =>
      exact ⟨fun _ => List.not_mem_nil, fun _ => rfl⟩

theorem disconnect_guards (fits : Fits capture w) : Guards disconnect capture w := by
  unfold disconnect sendAudioStop Guards
  simp
  grind [Fits, Coordinated, mayDrive_iff]

theorem reconnect_guards (fits : Fits capture w) : Guards (reconnect p) capture w := by
  unfold reconnect resumeAudio sendAudioRoute offerIfSource sendAudioOffer Guards
  simp
  grind [Fits, Coordinated, mayDrive_iff, mayCapture_iff]

theorem inputForwardingChanged_guards (fits : Fits capture w) {enabled : Bool}
    (free : enabled = true → w.localIsController = true → w.sessionPaused = false →
      w.coordinator.pending = none) :
    Guards (inputForwardingChanged enabled) capture w := by
  unfold inputForwardingChanged Guards
  cases enabled
  · simp
    grind [Fits, Coordinated, mayDrive_iff, mayCapture_iff]
  · simp
    grind [Fits, Coordinated, mayDrive_iff, mayCapture_iff]

theorem quit_guards : Guards quit capture w := by
  unfold quit sendAudioStop Guards
  simp

theorem pair_guards : Guards pair capture w := by
  unfold pair Guards
  simp

theorem audioChanged_guards (fits : Fits capture w) {choice : AudioChoice} :
    Guards (audioChanged p choice) capture w := by
  unfold audioChanged Guards
  rw [Handler.wp_read_bind]
  split
  · simpa
  · refine Guards.bind (h := update _) ?_ ?_
    · simp [Guards]
      grind [Fits, Coordinated, mayDrive_iff]
    · intro _ capture t fits
      exact (commitAudioRoute_guards fits).bind fun _ _ _ fits => offerIfSource_guards fits

theorem controllerRequested_guards (fits : Fits capture w) {choice : ControllerChoice} :
    Guards (controllerRequested choice) capture w := by
  unfold controllerRequested Guards
  rw [Handler.wp_read_bind]
  split
  · exact beginRoleSwitch_guards fits
  · simpa

theorem onOutcome_guards (fits : Fits capture w) {outcome : TrayCommandOutcome}
    (free : outcome = .inputForwardingChanged true → w.localIsController = true →
      w.sessionPaused = false → w.coordinator.pending = none) :
    Guards (onOutcome p outcome) capture w := by
  cases outcome with
  | continue' => simpa [onOutcome, Guards]
  | quit => exact quit_guards
  | disconnect => exact disconnect_guards fits
  | reconnect => exact reconnect_guards fits
  | pair => exact pair_guards
  | inputForwardingChanged enabled =>
    refine inputForwardingChanged_guards fits fun on => ?_
    cases on
    exact free rfl
  | audioChanged choice => exact audioChanged_guards fits
  | controllerRequested choice => exact controllerRequested_guards fits

theorem trayTick_guards (fits : Fits capture w) (careful : w.switchesOn .trayTick = false) :
    Guards (trayTick p) capture w := by
  unfold trayTick Guards
  rw [Handler.wp_read_bind]
  refine Handler.wp_seq (Handler.wp_and (handlePendingTrayCommands_quiet w.trayCommands w)
    (handlePendingTrayCommands_spec w.trayCommands)) ?_ ?_
  · rintro e t output ⟨-, failed, -⟩
    cases failed
  · rintro outcome t output ⟨⟨silent, kept⟩, taken, left, rfl⟩
    have same : Fits capture { w with trayCommands := left } := by
      grind [Fits, Coordinated, mayDrive_iff]
    refine Handler.wp_mono ?_ (onOutcome_guards same ?_)
    · rintro r u more ⟨quiet, ends⟩
      refine ⟨fun frame found => ?_, fun a done => ?_⟩
      · rcases List.mem_append.mp found with found | found
        · exact absurd found (silent frame)
        · exact quiet frame found
      · rw [captures_append, kept]
        exact ends a done
    · rintro rfl controls unpaused
      have next : w.nextOutcome = .inputForwardingChanged true := (Except.ok.inj taken).symm
      have controls : w.localIsController = true := controls
      have unpaused : w.sessionPaused = false := unpaused
      simpa [switchesOn, next, controls, unpaused] using careful

/-! ### Frames -/

theorem releaseIfAtEdge_guards (fits : Fits capture w) :
    Guards (releaseIfAtEdge p) capture w := by
  unfold releaseIfAtEdge Guards
  rw [Handler.wp_read_bind]
  split
  · simpa
  · cases answer : p.returnPosition with
    | error error => simp
    | ok position =>
      cases position with
      | none => simpa
      | some position =>
        simp
        grind [Fits, Coordinated, mayDrive_iff]

theorem onInput_guards (fits : Fits capture w) {epoch : Nat} {event : InputEvent} :
    Guards (onInput p epoch event) capture w := by
  have released := releaseIfAtEdge_guards (p := p) fits
  unfold Guards at released
  unfold onInput Guards
  cases moved : isMotion event
  · simp
    grind
  · simp
    grind

theorem onControl_guards (fits : Fits capture w) {epoch : Nat} {event : ControlEvent}
    (careful : w.switchesOn (.frame (.control epoch event)) = false) :
    Guards (onControl epoch event) capture w := by
  unfold onControl onSetInputForwarding Guards
  cases event with
  | enterRemote | leaveRemote | releaseToLocal =>
    simp
    grind [Fits, Coordinated, mayDrive_iff]
  | setInputForwarding enabled =>
    cases enabled
    · simp
      grind [Fits, Coordinated, mayDrive_iff, mayCapture_iff]
    · have free : epoch = w.roleEpoch → w.setup.peerSupportsInputToggle = true →
          w.localIsController = true → w.sessionPaused = false → w.coordinator.pending = none := by
        intro current toggles controls unpaused
        simpa [switchesOn, current, toggles, controls, unpaused] using careful
      simp
      grind [Fits, Coordinated, mayDrive_iff, mayCapture_iff]

theorem applyCommit_guards {commit : RoleState} (stable : w.coordinator.stable = commit)
    (free : w.coordinator.pending = none) : Guards (applyCommit commit) capture w := by
  unfold applyCommit Guards
  cases named : commit.controllerFingerprint with
  | none => simp
  | some controller =>
    simp only [wp_bind, wp_send, wp_update, wp_suspendInput, wp_setForwarding]
    refine ⟨by simp, fun _ _ => ⟨⟨?_, congrArg RoleState.roleEpoch stable.symm, ?_⟩, ?_⟩⟩
    · simp [stable, named]
    · intro pending found
      rw [free] at found
      cases found
    · intro on
      have may := mayCapture_iff.mp on
      simp only [decide_eq_true_eq] at may
      refine mayDrive_iff.mpr ⟨?_, may.2.1, may.2.2, free⟩
      show w.coordinator.stable.controllerFingerprint = some w.setup.localFingerprint
      rw [stable, named, may.1]

theorem applyAbort_guards (coordinated : w.Coordinated) (free : w.coordinator.pending = none)
    {abort : RoleState} : Guards (applyAbort abort) capture w := by
  unfold applyAbort Guards
  simp
  grind [Fits, Coordinated, mayDrive_iff, mayCapture_iff]

theorem onReady_guards (fits : Fits capture w) {epoch : Nat} {captureReady injectReady : Bool}
    {detail : Option String} :
    Guards (onReady epoch captureReady injectReady detail) capture w := by
  unfold onReady Guards
  rw [Handler.wp_read_bind]
  split
  · simpa
  · split
    · simp
      grind [Fits, Coordinated, mayDrive_iff]
    · simp
    · rename_i decision coordinator decided
      obtain ⟨pending, found, rfl, outcome⟩ := RoleCoordinator.finishReady_eq_ok decided
      rw [Handler.wp_bind, wp_update]
      rcases outcome with ⟨-, -, -, -, rfl, rfl⟩ | ⟨-, failure, rfl, rfl⟩
      · exact applyCommit_guards rfl rfl
      · refine applyAbort_guards ⟨?_, ?_, fun _ found => by cases found⟩ rfl
        · rw [fits.coordinated.previous pending found]
          exact fits.coordinated.controls
        · rw [fits.coordinated.previous pending found]
          exact fits.coordinated.epoch

theorem onApplied_guards (fits : Fits capture w) {epoch : Nat} :
    Guards (onApplied p epoch) capture w := by
  unfold onApplied Guards
  rw [Handler.wp_read_bind]
  split
  · simpa
  · simp
    grind [Fits, Coordinated, mayDrive_iff]

theorem onSetPaused_guards (fits : Fits capture w) {paused : Bool} :
    Guards (onSetPaused p paused) capture w := by
  unfold onSetPaused resumeAudio sendAudioRoute offerIfSource sendAudioOffer Guards
  cases paused
  · simp
    grind [Fits, Coordinated, mayDrive_iff, mayCapture_iff, Frame.drives]
  · simp
    grind [Fits, Coordinated, mayDrive_iff, mayCapture_iff]

theorem onRole_guards (fits : Fits capture w) {event : RoleEvent} :
    Guards (onRole p event) capture w := by
  cases event with
  | request requested =>
    unfold onRole onRequest Guards
    rw [Handler.wp_read_bind]
    split
    · exact beginRoleSwitch_guards fits
    · simpa
  | ready epoch captureReady injectReady detail => exact onReady_guards fits
  | applied epoch => exact onApplied_guards fits
  | setPaused paused => exact onSetPaused_guards fits
  | sessionState state | prepare state | commit state | abort state =>
    simpa [onRole, Guards]

theorem onAudio_guards (fits : Fits capture w) {control : AudioControl} :
    Guards (onAudio p control) capture w := by
  cases control with
  | requestRoute source =>
    unfold onAudio Guards
    rw [Handler.wp_read_bind]
    split
    · exact (commitAudioRoute_guards fits).bind fun _ _ _ fits => offerIfSource_guards fits
    · simp [sendAudioRoute]
      grind
  | setEnabled enabled =>
    unfold onAudio Guards
    rw [Handler.wp_read_bind]
    exact commitAudioRoute_guards fits
  | offer port codecs =>
    unfold onAudio onOffer Guards
    cases p.receiverSocket with
    | none => simpa
    | some socket =>
      simp
      grind [Fits, Coordinated, mayDrive_iff]
  | start port secrets codec frame jitter =>
    cases codec
    unfold onAudio onStart Guards
    cases p.senderStart with
    | ok started =>
      simp
      grind [Fits, Coordinated, mayDrive_iff]
    | error path =>
      cases path <;> simp <;> grind [Fits, Coordinated, mayDrive_iff]
  | state state detail =>
    unfold onAudio onState sendAudioOffer Guards
    simp
    grind [Fits, Coordinated, mayDrive_iff]
  | setRoute source => simpa [onAudio, Guards]
  | stop reason =>
    unfold onAudio Guards
    simp
    grind [Fits, Coordinated, mayDrive_iff]

theorem onFrame_guards (fits : Fits capture w) {frame : Frame}
    (careful : w.switchesOn (.frame frame) = false) : Guards (onFrame p frame) capture w := by
  cases frame with
  | input epoch event => exact onInput_guards fits
  | control epoch event => exact onControl_guards fits careful
  | role event => exact onRole_guards fits
  | audio control => exact onAudio_guards fits
  | error code message => simp [onFrame, Guards]
  | other => simpa [onFrame, Guards]

theorem handle_guards (fits : Fits capture w) {event : WindowsSessionEvent}
    (careful : w.switchesOn event = false) : Guards (handle p event) capture w := by
  cases event with
  | ctrlC => exact quit_guards
  | audioWatch receiver sender => exact audioWatch_guards fits
  | watchdog passed liveness =>
    exact (expireTransition_guards fits).bind fun _ _ _ fits => pollLiveness_guards fits
  | heartbeat => simpa [handle, Guards]
  | trayCommand command =>
    simp [handle, Guards]
    grind [Fits, Coordinated, mayDrive_iff]
  | trayTick => exact trayTick_guards fits careful
  | frame frame => exact onFrame_guards fits careful
  | closed => simp [handle, Guards]

theorem initial_fits {setup : WindowsSetup} {state : RoleState}
    {stored : Option (Option String)} {preferred : Option String} {enabled : Bool}
    (made : initial setup state stored preferred enabled = .ok w) :
    w.Coordinated ∧ w.coordinator.pending = none := by
  unfold initial at made
  cases fresh : RoleCoordinator.new setup.localFingerprint setup.peerFingerprint
      state.controllerFingerprint state.roleEpoch state.listenerPosition state.paused with
  | error error => simp [fresh, Except.map] at made
  | ok coordinator =>
    simp only [fresh, Except.map, Except.ok.injEq] at made
    rw [← made, RoleCoordinator.new_eq_ok fresh]
    exact ⟨⟨by simp, rfl, fun _ found => by cases found⟩, rfl⟩

theorem start_keeps : (start p).Keeps (fun t => t.setup = w.setup ∧
    t.coordinator = w.coordinator ∧ t.roleEpoch = w.roleEpoch ∧
      t.localIsController = w.localIsController) w := by
  unfold start sendAudioRoute offerIfSource sendAudioOffer Handler.Keeps
  simp

theorem Started.fits (started : w.Started) : Fits w.mayCapture w := by
  obtain ⟨setup, state, stored, preferred, enabled, p, first, made, begun, rfl⟩ := started
  obtain ⟨fresh, free⟩ := initial_fits made
  obtain ⟨same, coordinator, epoch, controls⟩ := start_keeps () begun
  have coordinated : (start p first).state.Coordinated := by
    refine ⟨?_, ?_, ?_⟩
    · rw [same, coordinator, controls]
      exact fresh.controls
    · rw [epoch, coordinator]
      exact fresh.epoch
    · rw [coordinator]
      exact fresh.previous
  refine ⟨coordinated, fun on => ?_⟩
  obtain ⟨controls, enabled, unpaused⟩ := mayCapture_iff.mp on
  exact mayDrive_iff.mpr
    ⟨coordinated.controls.mp controls, enabled, unpaused, by rw [coordinator, free]⟩

end Handlers

end WindowsConnector

end EdgeKvm.Session
