import EdgeKvm.Input.WindowsCapture

/-!
# The events a Windows capture sends

Whatever reaches the capture, what it sends is a sequence of local periods, without input, and
remote periods, from an `EnterRemote` to an `AllKeysUp` and the release; the cursor is hidden in
the remote ones.
-/

namespace EdgeKvm.Input

open EdgeKvm.Lib EdgeKvm.Session Handler Machine

/-- Alternating periods; the flag says whether the last one is remote. -/
inductive Periods : List CapturedInput → Bool → Prop
  | start : Periods [] false
  | enter {l : List CapturedInput} (edge : Edge) (normalizedPosition : UInt32)
      (before : Periods l false) :
    Periods (l ++ [.control (.enterRemote edge normalizedPosition)]) true
  | input {l : List CapturedInput} {event : InputEvent} (inside : event ≠ .allKeysUp)
      (before : Periods l true) : Periods (l ++ [.input event]) true
  | close {l : List CapturedInput} (reason : ReleaseReason) (before : Periods l true) :
    Periods (l ++ [.input .allKeysUp, .control (.releaseToLocal reason)]) false

/-- What one call can send, from and to a remote or local period. -/
inductive Sends : Bool → List CapturedInput → Bool → Prop
  | nothing {remote : Bool} : Sends remote [] remote
  | enter (edge : Edge) (normalizedPosition : UInt32) :
    Sends false [.control (.enterRemote edge normalizedPosition)] true
  | input {event : InputEvent} (inside : event ≠ .allKeysUp) : Sends true [.input event] true
  | close (reason : ReleaseReason) :
    Sends true [.input .allKeysUp, .control (.releaseToLocal reason)] false
  | inputClose {event : InputEvent} (inside : event ≠ .allKeysUp) (reason : ReleaseReason) :
    Sends true [.input event, .input .allKeysUp, .control (.releaseToLocal reason)] false

theorem Periods.append {l more : List CapturedInput} {remote after : Bool}
    (periods : Periods l remote) (sends : Sends remote more after) :
    Periods (l ++ more) after := by
  cases sends with
  | nothing => rwa [List.append_nil]
  | enter edge normalizedPosition => exact .enter edge normalizedPosition periods
  | input inside => exact .input inside periods
  | close reason => exact .close reason periods
  | @inputClose event inside reason =>
    have closed := Periods.close reason (.input inside periods)
    rwa [List.append_assoc] at closed

/-- The captured input among the effects. -/
def captured (effects : List CaptureEffect) : List CapturedInput :=
  effects.filterMap fun
    | .sent event => some event
    | _ => none

/-- Whether the cursor is hidden after the effects. -/
def cursorAfter (hidden : Bool) (effects : List CaptureEffect) : Bool :=
  effects.foldl (fun hidden effect => match effect with
    | .hideCursor => true
    | .showCursor => false
    | _ => hidden) hidden

@[simp] theorem captured_append {first rest : List CaptureEffect} :
    captured (first ++ rest) = captured first ++ captured rest := List.filterMap_append

@[simp] theorem cursorAfter_append {hidden : Bool} {first rest : List CaptureEffect} :
    cursorAfter hidden (first ++ rest) = cursorAfter (cursorAfter hidden first) rest :=
  List.foldl_append

/-- How a remote period ends. -/
def closing (reason : ReleaseReason) : List CapturedInput :=
  [.input .allKeysUp, .control (.releaseToLocal reason)]

namespace CaptureState

/-- What a call that leaves `enabled` alone does. -/
structure Turned (s : CaptureState) (effects : List CaptureEffect) (t : CaptureState) : Prop where
  enabled : t.enabled = s.enabled
  hidden : t.cursorHidden = t.active
  cursor : cursorAfter s.cursorHidden effects = t.cursorHidden
  sends : Sends s.active (captured effects) t.active

variable {g : CaptureGeometry} {at' : Surroundings} {s : CaptureState}

/-- Nothing is sent, and neither the capture nor the cursor changes. -/
structure Quiet (s : CaptureState) (effects : List CaptureEffect) (t : CaptureState) : Prop where
  active : t.active = s.active
  enabled : t.enabled = s.enabled
  cursorHidden : t.cursorHidden = s.cursorHidden
  cursor : cursorAfter s.cursorHidden effects = s.cursorHidden
  silent : captured effects = []

theorem Quiet.turned {effects : List CaptureEffect} {t : CaptureState} (quiet : Quiet s effects t)
    (hidden : s.cursorHidden = s.active) : Turned s effects t :=
  { enabled := quiet.enabled
    hidden := by rw [quiet.cursorHidden, hidden, quiet.active]
    cursor := by rw [quiet.cursor, quiet.cursorHidden]
    sends := by rw [quiet.silent, quiet.active]; exact .nothing }

theorem Quiet.hidden {effects : List CaptureEffect} {t : CaptureState} (quiet : Quiet s effects t)
    (hidden : s.cursorHidden = s.active) : t.cursorHidden = t.active := by
  rw [quiet.cursorHidden, hidden, quiet.active]

/-- What comes after nothing. -/
theorem Quiet.trans {first rest : List CaptureEffect} {t u : CaptureState}
    (quiet : Quiet s first t) (turned : Turned t rest u) : Turned s (first ++ rest) u :=
  { enabled := turned.enabled.trans quiet.enabled
    hidden := turned.hidden
    cursor := by
      rw [cursorAfter_append, quiet.cursor, ← quiet.cursorHidden]
      exact turned.cursor
    sends := by
      rw [captured_append, quiet.silent, List.nil_append, ← quiet.active]
      exact turned.sends }

/-- What comes before nothing. -/
theorem Turned.trans {first rest : List CaptureEffect} {t u : CaptureState}
    (turned : Turned s first t) (quiet : Quiet t rest u) : Turned s (first ++ rest) u :=
  { enabled := quiet.enabled.trans turned.enabled
    hidden := quiet.hidden turned.hidden
    cursor := by rw [cursorAfter_append, turned.cursor, quiet.cursor, quiet.cursorHidden]
    sends := by
      rw [captured_append, quiet.silent, List.append_nil, quiet.active]
      exact turned.sends }

/-- Nothing happens to the capture. -/
theorem Turned.still {t : CaptureState} (hidden : s.cursorHidden = s.active)
    (active : t.active = s.active) (enabled : t.enabled = s.enabled)
    (cursorHidden : t.cursorHidden = s.cursorHidden) : Turned s [] t :=
  { enabled
    hidden := by rw [cursorHidden, hidden, active]
    cursor := cursorHidden.symm
    sends := by rw [active]; exact .nothing }

theorem release_turned (hidden : s.cursorHidden = s.active) {reason : ReleaseReason} :
    (release g at' reason).wp (fun _ t o => Turned s o t ∧
      t.active = false ∧ captured o = if s.active then closing reason else []) s := by
  unfold release showSourceCursor virtualEdgeRequired sendInput sendControl
  cases active : s.active with
  | false =>
    simp only [wp_bind, wp_read, active, Bool.false_eq_true, if_false, wp_pure]
    exact ⟨.still hidden rfl rfl rfl, trivial, rfl⟩
  | true =>
    rw [active] at hidden
    simp only [wp_bind, wp_read, active, if_true, wp_update, wp_emit, hidden, wp_pure]
    exact ⟨⟨rfl, rfl, rfl, by rw [active]; exact .close reason⟩, trivial, rfl⟩

theorem enterRemote_turned (hidden : s.cursorHidden = s.active) (idle : s.active = false)
    {point : ScreenPoint} :
    (enterRemote g point).wp (fun _ t o => Turned s o t) s := by
  unfold enterRemote sendControl hideSourceCursor
  rw [idle] at hidden
  simp only [wp_bind, wp_read, wp_update, wp_emit, hidden, Bool.not_false, if_true]
  exact ⟨rfl, rfl, rfl, by rw [idle]; exact .enter _ _⟩

/-! ### Motion -/

theorem moveRemote_turned (hidden : s.cursorHidden = s.active) (active : s.active = true)
    {dx dy : Int} : (moveRemote g at' dx dy).wp (fun _ t o => Turned s o t) s := by
  unfold moveRemote releaseIfRemoteReturnEdge sendInput
  simp only [wp_bind, wp_update, wp_emit, wp_read]
  split
  · refine wp_mono ?_ (release_turned ?_)
    · rintro result t o ⟨turned, idle, closed⟩
      rw [if_pos active] at closed
      refine ⟨turned.enabled, turned.hidden, turned.cursor, ?_⟩
      change Sends s.active (.input _ :: captured o) t.active
      rw [closed, idle, active]
      exact .inputClose (by simp) .userRequest
    · exact hidden
  · simp only [wp_pure]
    exact ⟨rfl, hidden, rfl, by rw [active]; exact .input (by simp)⟩

theorem remoteMotion_turned (hidden : s.cursorHidden = s.active) (active : s.active = true)
    {point : ScreenPoint} :
    (remoteMotion g at' point).wp (fun _ t o => Turned s o t) s := by
  unfold remoteMotion
  simp only [wp_bind, wp_read, wp_emit]
  split
  · refine wp_mono ?_ (moveRemote_turned hidden active)
    exact fun result t o turned => ⟨turned.enabled, turned.hidden, turned.cursor, turned.sends⟩
  · exact (⟨rfl, rfl, rfl, rfl, rfl⟩ : Quiet _ _ _).turned hidden

theorem rawDelta_quiet {x y : Int} {absolute : Bool} :
    (rawDelta x y absolute).wp (fun _ t o => Quiet s o t) s := by
  unfold rawDelta
  cases absolute with
  | true =>
    simp only [wp_bind, wp_read, wp_update, wp_pure, if_true]
    exact ⟨rfl, rfl, rfl, rfl, rfl⟩
  | false =>
    simp only [wp_bind, wp_read, wp_update, wp_pure, if_false, Bool.false_eq_true]
    exact ⟨rfl, rfl, rfl, rfl, rfl⟩

theorem rawRemoteMotion_turned (hidden : s.cursorHidden = s.active) (active : s.active = true)
    {x y : Int} {absolute : Bool} : (rawRemoteMotion g at' x y absolute).wp
      (fun _ t o => Turned s o t) s := by
  unfold rawRemoteMotion
  refine wp_total rawDelta_quiet fun delta t o quiet => ?_
  have hidden' := quiet.hidden hidden
  have active' := quiet.active.trans active
  cases delta with
  | none =>
    simp only [wp_pure, List.append_nil]
    exact quiet.turned hidden
  | some delta =>
    simp only
    split
    · refine wp_mono ?_ (moveRemote_turned hidden' active')
      exact fun result u o' turned => quiet.trans turned
    · simp only [wp_pure, List.append_nil]
      exact quiet.turned hidden

theorem virtualEdgeRequired_quiet :
    (virtualEdgeRequired at').wp (fun _ t o => Quiet s o t) s := by
  unfold virtualEdgeRequired
  simp only [wp_bind, wp_read, wp_update, wp_pure]
  exact ⟨rfl, rfl, rfl, rfl, rfl⟩

theorem rawLocalMotion_turned (hidden : s.cursorHidden = s.active) (idle : s.active = false)
    {x y : Int} {absolute : Bool} :
    (rawLocalMotion g at' x y absolute).wp (fun _ t o => Turned s o t) s := by
  unfold rawLocalMotion
  refine wp_total virtualEdgeRequired_quiet fun virtualEdge t o quiet => ?_
  split
  · simp only [wp_update]
    exact quiet.trans (.still (quiet.hidden hidden) rfl rfl rfl)
  refine wp_total rawDelta_quiet fun delta u o' still => ?_
  have hidden' := still.hidden (quiet.hidden hidden)
  have idle' := still.active.trans (quiet.active.trans idle)
  cases delta with
  | none =>
    simp only [wp_pure, List.append_nil]
    exact quiet.trans (still.turned (quiet.hidden hidden))
  | some delta =>
    simp only
    split
    · simp only [wp_bind, wp_update, wp_read]
      split
      · refine wp_mono ?_ (enterRemote_turned ?_ ?_)
        · intro result v o'' turned
          exact quiet.trans (still.trans ⟨turned.enabled, turned.hidden, turned.cursor, turned.sends⟩)
        · exact hidden'
        · exact idle'
      · simp only [wp_pure]
        exact quiet.trans (still.trans (.still hidden' rfl rfl rfl))
    · simp only [wp_pure, List.append_nil]
      exact quiet.trans (still.turned (quiet.hidden hidden))

/-! ### Suspension -/

theorem showSourceCursor_quiet (shown : s.cursorHidden = false) :
    (showSourceCursor).wp (fun _ t o => Quiet s o t) s := by
  unfold showSourceCursor
  simp only [wp_bind, wp_read, shown, Bool.false_eq_true, if_false, wp_pure]
  exact ⟨rfl, rfl, rfl, rfl, rfl⟩

theorem refreshCaptureSuspension_quiet :
    (refreshCaptureSuspension at').wp (fun _ t o => Quiet s o t) s := by
  unfold refreshCaptureSuspension
  simp only [wp_bind, wp_read]
  split
  · simp only [wp_bind, wp_update, wp_emit]
    exact ⟨rfl, rfl, rfl, rfl, rfl⟩
  · exact ⟨rfl, rfl, rfl, rfl, rfl⟩

theorem gameGuardBlocksCapture_quiet :
    (gameGuardBlocksCapture at').wp (fun _ t o => Quiet s o t) s := by
  unfold gameGuardBlocksCapture
  simp only [wp_bind, wp_read, wp_update, wp_pure]
  exact ⟨rfl, rfl, rfl, rfl, rfl⟩

theorem toggleCaptureSuspended_turned (hidden : s.cursorHidden = s.active) :
    (toggleCaptureSuspended g at').wp (fun _ t o => Turned s o t) s := by
  unfold toggleCaptureSuspended
  simp only [wp_bind, wp_read, wp_update]
  split
  · refine wp_total (release_turned ?_) fun _ t o released => ?_
    · exact hidden
    obtain ⟨turned, idle, -⟩ := released
    have shown : t.cursorHidden = false := turned.hidden.trans idle
    refine wp_total (showSourceCursor_quiet shown) fun _ u o' quiet => ?_
    simp only [wp_emit]
    have rest : Quiet t (o' ++ [.uninstallMouseHook]) u :=
      ⟨quiet.active, quiet.enabled, quiet.cursorHidden,
        by rw [cursorAfter_append, quiet.cursor]; rfl,
        by rw [captured_append, quiet.silent]; rfl⟩
    have all := turned.trans rest
    exact ⟨all.enabled, all.hidden, all.cursor, all.sends⟩
  · simp only [wp_emit]
    exact Quiet.turned ⟨rfl, rfl, rfl, rfl, rfl⟩ hidden

/-! ### The hooks -/

/-- A handler that ends with its answer to the hook. -/
theorem wp_answer {body : CaptureM Unit} {result : HookResult}
    (turned : body.wp (fun _ t o => Turned s o t) s) :
    (do body; pure result : CaptureM HookResult).wp (fun _ t o => Turned s o t) s := by
  refine wp_total turned fun _ t o done => ?_
  simp only [wp_pure, List.append_nil]
  exact done

theorem hideSourceCursor_quiet (hidden : s.cursorHidden = true) :
    (hideSourceCursor).wp (fun _ t o => Quiet s o t) s := by
  unfold hideSourceCursor
  simp only [wp_bind, wp_read, hidden, Bool.not_true, Bool.false_eq_true, if_false, wp_pure]
  exact ⟨rfl, rfl, rfl, rfl, rfl⟩

theorem sendInput_turned (hidden : s.cursorHidden = s.active) (active : s.active = true)
    {event : InputEvent} (inside : event ≠ .allKeysUp) {result : HookResult} :
    (do sendInput event; pure result : CaptureM HookResult).wp (fun _ t o => Turned s o t) s := by
  unfold sendInput
  simp only [wp_bind, wp_emit, wp_pure]
  exact ⟨rfl, hidden, rfl, by rw [active]; exact .input inside⟩

theorem mouseRemote_turned (hidden : s.cursorHidden = s.active) (active : s.active = true)
    {event : MouseHookEvent} :
    (mouseRemote g at' event).wp (fun _ t o => Turned s o t) s := by
  have still : Turned s [] s := .still hidden rfl rfl rfl
  unfold mouseRemote
  split
  · exact still
  cases event.message with
  | mouseMove =>
    refine wp_total (hideSourceCursor_quiet (hidden.trans active)) fun _ t o quiet => ?_
    simp only [wp_bind, wp_read]
    split
    · simp only [wp_pure, List.append_nil]
      exact quiet.turned hidden
    · have moved : (do remoteMotion g at' event.point; pure .consumed : CaptureM HookResult).wp
          (fun _ u o' => Turned t o' u) t :=
        wp_answer (remoteMotion_turned (quiet.hidden hidden) (quiet.active.trans active))
      exact wp_mono (fun _ u o' turned => quiet.trans turned) moved
  | button button down => exact sendInput_turned hidden active (by simp)
  | xButton down =>
    cases xButton event.mouseData with
    | some button => exact sendInput_turned hidden active (by simp)
    | none => exact still
  | mouseWheel => exact sendInput_turned hidden active (by simp)
  | mouseHWheel => exact sendInput_turned hidden active (by simp)
  | other => exact still

theorem enterAtEdge_turned (hidden : s.cursorHidden = s.active) (idle : s.active = false)
    {point : ScreenPoint} : (enterAtEdge g at' point).wp (fun _ t o => Turned s o t) s := by
  unfold enterAtEdge
  rw [wp_read_bind]
  split
  · exact wp_answer (enterRemote_turned hidden idle)
  · exact .still hidden rfl rfl rfl

theorem mouseLocal_turned (hidden : s.cursorHidden = s.active) (idle : s.active = false)
    {event : MouseHookEvent} :
    (mouseLocal g at' event).wp (fun _ t o => Turned s o t) s := by
  have still : Turned s [] s := .still hidden rfl rfl rfl
  unfold mouseLocal
  split
  · refine wp_total virtualEdgeRequired_quiet fun virtualEdge t o quiet => ?_
    rw [wp_bind, wp_update]
    refine wp_mono ?_ (enterAtEdge_turned ?_ ?_)
    · intro result u o' turned
      exact quiet.trans ⟨turned.enabled, turned.hidden, turned.cursor, turned.sends⟩
    · exact quiet.hidden hidden
    · exact quiet.active.trans idle
  · exact still

/-- A release, if there is something to release, that leaves the event to the next hook. -/
theorem releaseIfActive_turned (hidden : s.cursorHidden = s.active) {reason : ReleaseReason} :
    (do
      if s.active then release g at' reason
      pure .callNext : CaptureM HookResult).wp (fun _ t o => Turned s o t) s := by
  split
  · refine wp_answer (wp_mono ?_ (release_turned hidden))
    exact fun _ t o released => released.1
  · exact .still hidden rfl rfl rfl

theorem mouseHook_turned (hidden : s.cursorHidden = s.active) {event : MouseHookEvent} :
    (mouseHook g at' event).wp (fun _ t o => Turned s o t) s := by
  have still : Turned s [] s := .still hidden rfl rfl rfl
  unfold mouseHook
  rw [wp_read_bind]
  split
  · exact still
  split
  · exact still
  split
  · exact still
  refine wp_total refreshCaptureSuspension_quiet fun _ t o quiet => ?_
  have hidden' := quiet.hidden hidden
  rw [wp_read_bind]
  split
  · exact wp_mono (fun _ u o' turned => quiet.trans turned) (releaseIfActive_turned hidden')
  refine wp_total gameGuardBlocksCapture_quiet fun blocked u o' unblocked => ?_
  have hidden'' := unblocked.hidden hidden'
  have later : ∀ {v : CaptureState} {o'' : List CaptureEffect}, Turned u o'' v →
      Turned s (o ++ (o' ++ o'')) v := fun turned => quiet.trans (unblocked.trans turned)
  rw [← unblocked.active]
  split
  · exact wp_mono (fun _ v o'' turned => later turned) (releaseIfActive_turned hidden'')
  split
  · rename_i active
    exact wp_mono (fun _ v o'' turned => later turned) (mouseRemote_turned hidden'' active)
  · rename_i idle
    exact wp_mono (fun _ v o'' turned => later turned)
      (mouseLocal_turned hidden'' (Bool.eq_false_iff.mpr idle))

theorem updateModifier_quiet {vkCode : UInt32} {down : Bool} :
    Quiet s [] (s.updateModifier vkCode down) := by
  unfold updateModifier
  split
  · exact ⟨rfl, rfl, rfl, rfl, rfl⟩
  split
  · exact ⟨rfl, rfl, rfl, rfl, rfl⟩
  · exact ⟨rfl, rfl, rfl, rfl, rfl⟩

/-- A key that is passed to the remote side. -/
theorem keyRemote_turned (hidden : s.cursorHidden = s.active) (active : s.active = true)
    {event : KeyboardHookEvent} {down : Bool} :
    (keyRemote event down).wp (fun _ t o => Turned s o t) s := by
  unfold keyRemote
  refine wp_total (hideSourceCursor_quiet (hidden.trans active)) fun _ t o quiet => ?_
  have hidden' := quiet.hidden hidden
  cases windowsScancodeToEvdev ⟨event.scanCode, event.extended⟩ with
  | some evdevCode =>
    exact wp_mono (fun _ u o' turned => quiet.trans turned)
      (sendInput_turned hidden' (quiet.active.trans active) (by simp))
  | none =>
    simp only [wp_pure, List.append_nil]
    exact quiet.turned hidden

theorem keyboardHook_turned (hidden : s.cursorHidden = s.active) {event : KeyboardHookEvent} :
    (keyboardHook g at' event).wp (fun _ t o => Turned s o t) s := by
  have still : Turned s [] s := .still hidden rfl rfl rfl
  unfold keyboardHook
  simp only [wp_read_bind]
  split
  · exact still
  split
  · exact still
  split
  · exact still
  split
  · exact still
  refine wp_total refreshCaptureSuspension_quiet fun _ t o quiet => ?_
  have modified : (update fun s : CaptureState =>
      if event.message ≠ .other then s.updateModifier event.vkCode (event.message = .down) else s :
        CaptureM Unit).wp (fun _ u o' => Quiet t o' u) t := by
    rw [wp_update]
    split
    · exact updateModifier_quiet
    · exact ⟨rfl, rfl, rfl, rfl, rfl⟩
  refine wp_total modified fun _ u o' still' => ?_
  have hidden' := still'.hidden (quiet.hidden hidden)
  have later : ∀ {v : CaptureState} {o'' : List CaptureEffect}, Turned u o'' v →
      Turned s (o ++ (o' ++ o'')) v := fun turned => quiet.trans (still'.trans turned)
  rw [wp_read_bind]
  split
  · exact wp_mono (fun _ v o'' turned => later turned)
      (wp_answer (toggleCaptureSuspended_turned hidden'))
  split
  · exact later (.still hidden' rfl rfl rfl)
  rename_i active
  split
  · refine wp_mono (fun _ v o'' turned => later turned)
      (wp_answer (wp_mono (fun _ v o'' released => released.1) (release_turned hidden')))
  split
  · exact wp_mono (fun _ v o'' turned => later turned)
      (keyRemote_turned hidden' (by simpa using active))
  · exact later (.still hidden' rfl rfl rfl)

theorem rawMouse_turned (hidden : s.cursorHidden = s.active) {event : RawMouseEvent} :
    (rawMouse g at' event).wp (fun _ t o => Turned s o t) s := by
  unfold rawMouse
  split
  · exact .still hidden rfl rfl rfl
  rw [wp_bind, wp_update]
  simp only [wp_read_bind]
  split
  · exact .still hidden rfl rfl rfl
  split
  · rename_i active
    refine wp_mono ?_ (wp_answer (rawRemoteMotion_turned ?_ ?_))
    · exact fun _ t o turned => ⟨turned.enabled, turned.hidden, turned.cursor, turned.sends⟩
    · exact hidden
    · exact active
  · rename_i idle
    refine wp_mono ?_ (wp_answer (rawLocalMotion_turned ?_ ?_))
    · exact fun _ t o turned => ⟨turned.enabled, turned.hidden, turned.cursor, turned.sends⟩
    · exact hidden
    · exact Bool.eq_false_iff.mpr idle

theorem releaseToLocal_turned (hidden : s.cursorHidden = s.active) {reason : ReleaseReason} :
    (releaseToLocal g at' reason).wp (fun _ t o => Turned s o t) s := by
  unfold releaseToLocal
  refine wp_total (release_turned hidden) fun _ t o released => ?_
  obtain ⟨turned, idle, -⟩ := released
  refine wp_total (showSourceCursor_quiet (turned.hidden.trans idle)) fun _ u o' quiet => ?_
  simp only [wp_pure, List.append_nil]
  exact turned.trans quiet

theorem handleReceiverRelease_turned (hidden : s.cursorHidden = s.active)
    {reason : ReleaseReason} :
    (handleReceiverRelease g at' reason).wp (fun _ t o => Turned s o t) s := by
  have still : Turned s [] s := .still hidden rfl rfl rfl
  unfold handleReceiverRelease
  rw [wp_read_bind]
  split
  · exact still
  split
  · exact still
  · exact wp_answer (wp_mono (fun _ t o released => released.1) (release_turned hidden))

/-- What a call that sets `enabled` does. -/
structure Switched (s : CaptureState) (effects : List CaptureEffect) (t : CaptureState) : Prop where
  hidden : t.cursorHidden = t.active
  cursor : cursorAfter s.cursorHidden effects = t.cursorHidden
  idle : t.enabled = false → t.active = false
  sends : Sends s.active (captured effects) t.active
  closes : captured effects = [] ∨ ∃ reason, captured effects = closing reason

/-- Disabling closes a remote period, and enabling sends nothing. -/
theorem setEnabled_switched (hidden : s.cursorHidden = s.active)
    (idle : s.enabled = false → s.active = false) {enabled : Bool} {reason : ReleaseReason} :
    (setEnabled g at' enabled reason).wp (fun _ t o => Switched s o t ∧
      (s.enabled = false → captured o = [])) s := by
  unfold setEnabled
  rw [wp_read_bind]
  split
  · exact ⟨⟨hidden, rfl, idle, .nothing, .inl rfl⟩, fun _ => rfl⟩
  rename_i changes
  cases enabled with
  | true =>
    have local' : s.active = false := idle (by simpa using changes)
    have shown : s.cursorHidden = false := hidden.trans local'
    simp only [showSourceCursor, Bool.not_true, Bool.false_eq_true, if_false, wp_bind, wp_update,
      wp_read, shown, wp_pure]
    exact ⟨⟨local'.symm, shown, fun _ => local', .nothing, .inl rfl⟩, fun _ => rfl⟩
  | false =>
    simp only [Bool.not_false, if_true]
    refine wp_total (release_turned hidden) fun _ t o released => ?_
    obtain ⟨turned, local', closed⟩ := released
    have shown : t.cursorHidden = false := turned.hidden.trans local'
    simp only [showSourceCursor, wp_bind, wp_update, wp_read, shown, Bool.false_eq_true, if_false,
      wp_pure, List.append_nil]
    refine ⟨⟨local'.symm, turned.cursor.trans shown, fun _ => local', turned.sends, ?_⟩,
      fun disabled => ?_⟩
    · rw [closed]
      split
      · exact .inr ⟨reason, rfl⟩
      · exact .inl rfl
    · rw [closed, idle disabled]
      rfl

/-- A disabled capture sends nothing and stays as it is. -/
theorem handle_disabled (hidden : s.cursorHidden = s.active) (disabled : s.enabled = false)
    (idle : s.active = false) {call : CaptureCall} :
    (handle g at' call).wp (fun _ t o => captured o = [] ∧ t.active = false) s := by
  have unlocked : ∀ {locked : Bool}, (if !locked then pure (if s.active then .consumed else .callNext)
      else pure .callNext : CaptureM HookResult).wp (fun _ t o => captured o = [] ∧ t.active = false)
        s := by
    intro locked
    split <;> exact ⟨rfl, idle⟩
  cases call with
  | mouseHook event =>
    simp only [handle, mouseHook, wp_read_bind, disabled, Bool.not_false, if_true]
    split
    · exact ⟨rfl, idle⟩
    · exact unlocked
  | keyboardHook event =>
    simp only [handle, keyboardHook, wp_read_bind, disabled, idle, Bool.and_false,
      Bool.false_eq_true, if_false, Bool.not_false, if_true]
    split
    · exact ⟨rfl, idle⟩
    · split <;> exact ⟨rfl, idle⟩
  | rawMouse event =>
    simp only [handle, rawMouse]
    split
    · exact ⟨rfl, idle⟩
    · simp only [wp_bind, wp_update, wp_read, disabled, Bool.not_false, if_true]
      exact ⟨rfl, idle⟩
  | releaseToLocal reason =>
    refine wp_total (release_turned hidden) fun _ t o released => ?_
    obtain ⟨turned, local', closed⟩ := released
    rw [if_neg (by simp [idle])] at closed
    refine wp_total (showSourceCursor_quiet (turned.hidden.trans local')) fun _ u o' quiet => ?_
    simp only [wp_pure, captured_append, closed, quiet.silent]
    exact ⟨rfl, quiet.active.trans local'⟩
  | handleReceiverRelease reason =>
    simp only [handle, handleReceiverRelease, wp_read_bind, idle, Bool.not_false, if_true]
    exact ⟨rfl, idle⟩
  | setEnabled enabled reason =>
    refine wp_mono ?_ (setEnabled_switched hidden fun _ => idle)
    rintro _ t o ⟨switched, silent⟩
    have sends := switched.sends
    rw [silent disabled, idle] at sends
    refine ⟨silent disabled, ?_⟩
    generalize t.active = active at sends
    cases sends
    rfl

end CaptureState

/-! ## Runs -/

/-- A capture, what it has sent, and whether the cursor of the system is hidden. -/
structure CaptureRun where
  state : CaptureState
  trace : List CapturedInput := []
  cursorHidden : Bool := false
  deriving DecidableEq, Repr

namespace CaptureRun

def next (g : CaptureGeometry) (run : CaptureRun) (event : CaptureCall × Surroundings) :
    CaptureRun :=
  let turn := CaptureState.handle g event.2 event.1 run.state
  { state := turn.state
    trace := run.trace ++ captured turn.output
    cursorHidden := cursorAfter run.cursorHidden turn.output }

/-- Everything is handled, one event after the other. -/
def machine (g : CaptureGeometry) : Machine CaptureRun (CaptureCall × Surroundings) where
  exec run event := some (run.next g event)

/-- The invariant of a run. -/
structure Kept (run : CaptureRun) : Prop where
  periods : Periods run.trace run.state.active
  hidden : run.state.cursorHidden = run.state.active
  cursor : run.cursorHidden = run.state.cursorHidden
  idle : run.state.enabled = false → run.state.active = false

variable {g : CaptureGeometry} {run : CaptureRun} {event : CaptureCall × Surroundings}

open CaptureState

/-- Every call is like one of the two kinds. -/
theorem Kept.handled (kept : Kept run) :
    (handle g event.2 event.1).wp (fun _ t o =>
      Switched run.state o t ∨ Turned run.state o t) run.state := by
  obtain ⟨call, at'⟩ := event
  cases call with
  | mouseHook event =>
    exact wp_mono (fun _ _ _ turned => .inr turned) (mouseHook_turned kept.hidden)
  | keyboardHook event =>
    exact wp_mono (fun _ _ _ turned => .inr turned) (keyboardHook_turned kept.hidden)
  | rawMouse event =>
    exact wp_mono (fun _ _ _ turned => .inr turned) (rawMouse_turned kept.hidden)
  | releaseToLocal reason =>
    exact wp_mono (fun _ _ _ turned => .inr turned) (releaseToLocal_turned kept.hidden)
  | handleReceiverRelease reason =>
    exact wp_mono (fun _ _ _ turned => .inr turned) (handleReceiverRelease_turned kept.hidden)
  | setEnabled enabled reason =>
    exact wp_mono (fun _ _ _ switched => .inl switched.1)
      (setEnabled_switched kept.hidden kept.idle)

/-- A call keeps the invariant; it sends nothing while the capture is disabled, and at most the
    end of a remote period when it disables the capture. -/
theorem Kept.next (kept : Kept run) :
    Kept (run.next g event) ∧ ∃ emitted, (run.next g event).trace = run.trace ++ emitted ∧
      (run.state.enabled = false → emitted = []) ∧
      (run.state.enabled = true → (run.next g event).state.enabled = false →
        emitted = [] ∨ ∃ reason, emitted = closing reason) := by
  have silent : run.state.enabled = false →
      captured (handle g event.2 event.1 run.state).output = [] ∧
        (handle g event.2 event.1 run.state).state.active = false :=
    fun disabled => handle_disabled kept.hidden disabled (kept.idle disabled)
  have kinds : Switched run.state (handle g event.2 event.1 run.state).output
        (handle g event.2 event.1 run.state).state ∨
      Turned run.state (handle g event.2 event.1 run.state).output
        (handle g event.2 event.1 run.state).state := kept.handled
  simp only [CaptureRun.next]
  generalize (handle g event.2 event.1 run.state).output = effects at *
  generalize (handle g event.2 event.1 run.state).state = t at *
  rcases kinds with switched | turned
  · refine ⟨⟨kept.periods.append switched.sends, switched.hidden, ?_, switched.idle⟩,
      captured effects, rfl, fun disabled => (silent disabled).1, fun _ _ => switched.closes⟩
    exact (congrArg (cursorAfter · effects) kept.cursor).trans switched.cursor
  · refine ⟨⟨kept.periods.append turned.sends, turned.hidden, ?_, fun disabled => ?_⟩,
      captured effects, rfl, fun disabled => (silent disabled).1, fun enabled disabled => ?_⟩
    · exact (congrArg (cursorAfter · effects) kept.cursor).trans turned.cursor
    · exact (silent (turned.enabled ▸ disabled)).2
    · rw [turned.enabled, enabled] at disabled
      cases disabled

theorem Kept.of_run {from' : CaptureRun} (kept : Kept from')
    (calls : (machine g).Run anyAction from' run) : Kept run := by
  refine calls.invariant ?_ kept
  rintro s event t - executed held
  cases executed
  exact held.next.1

end CaptureRun

/-- In every run of a capture, what it has sent alternates between local and remote periods, the
    cursor is hidden in the remote ones, nothing is sent while it is disabled, and disabling it
    sends nothing but the end of a remote period. -/
theorem capture_trace {g : CaptureGeometry} {config : CaptureConfig} {bounds : LocalBounds}
    {now : Nat} {run : CaptureRun}
    (calls : (CaptureRun.machine g).Run anyAction
      { state := CaptureState.start g config bounds now } run) :
    Periods run.trace run.state.active ∧
    run.cursorHidden = run.state.active ∧
    (run.state.enabled = false → run.state.active = false) ∧
    ∀ event t, (CaptureRun.machine g).exec run event = some t →
      ∃ emitted, t.trace = run.trace ++ emitted ∧
        (run.state.enabled = false → emitted = []) ∧
        (run.state.enabled = true → t.state.enabled = false →
          emitted = [] ∨ ∃ reason, emitted = closing reason) := by
  have kept : CaptureRun.Kept run :=
    CaptureRun.Kept.of_run ⟨.start, rfl, rfl, fun disabled => by cases disabled⟩ calls
  refine ⟨kept.periods, kept.cursor.trans kept.hidden, kept.idle, ?_⟩
  rintro event t executed
  cases executed
  exact kept.next.2

/-- A desktop whose every point is at the edge, and a remote side that has no way back. -/
def sampleGeometry : CaptureGeometry :=
  { fromInt := fun _ => 0
    wheelFraction := fun _ => 0
    pointOf := fun _ => (0, 0)
    rounded := fun _ => ⟨0, 0⟩
    center := fun _ => (0, 0)
    pointIsAtEdge := fun _ _ _ => true
    anchorFor := fun _ _ point => point
    normalizedPerpendicular := fun _ _ _ => 0
    remoteEntryPoint := fun _ _ _ => (0, 0)
    remoteNormalizedPerpendicular := fun _ _ _ => 0
    restoreFor := fun _ _ _ => ⟨0, 0⟩
    applyRemoteMotion := fun point _ _ _ => point
    remoteReturnEdgeReached := fun _ _ _ => false
    applyLocalMotion := fun point _ _ _ => point }

theorem capture_trace_sample :
    let g := sampleGeometry
    let start := CaptureState.start g ⟨.right, (1920, 1080), .alwaysEnabled⟩ ⟨0, 0, 1920, 1080⟩ 0
    let events : List (CaptureCall × Surroundings) :=
      [(.mouseHook { message := .mouseMove, point := ⟨1919, 5⟩ }, { now := 10 }),
        (.keyboardHook { message := .down, vkCode := 0x41, scanCode := 0x1e }, { now := 20 }),
        (.setEnabled false .peerDisconnected, { now := 30 }),
        (.rawMouse { lastX := 4, lastY := 0 }, { now := 40 })]
    let run := (CaptureRun.machine g).reach { state := start } events
    run.trace = [.control (.enterRemote .right 0), .input (.key 30 true)] ++
      closing .peerDisconnected ∧ Periods run.trace run.state.active := by
  intro g start events run
  have kept := capture_trace (run_reach events (by decide +kernel) :
    (CaptureRun.machine g).Run anyAction { state := start } run)
  exact ⟨by decide +kernel, kept.1⟩

end EdgeKvm.Input
