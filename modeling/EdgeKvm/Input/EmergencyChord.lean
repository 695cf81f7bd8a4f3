import EdgeKvm.Input.CaptureTrace
import EdgeKvm.Input.EisEvents

/-!
# The emergency chord

The keys of one activation as both captures see them: the keyboard hook of Windows, with its two
modifier flags, and the EIS events of Linux, with a set of pressed keys. Both are compared with
what the chord means: the release key goes down while a Control and an Alt key are held.
-/

namespace EdgeKvm.Input

open EdgeKvm.Lib EdgeKvm.Session Handler Machine

/-- The virtual keys of a keyboard: which ones are Control, Alt and the release keys. -/
structure VirtualKeys where
  vkCode : UInt16 → UInt32
  scanCode : UInt16 → WindowsScanCode
  control : ∀ key, vkCode key = vkControl ∨ vkCode key = vkLControl ∨ vkCode key = vkRControl ↔
    key ∈ controlKeys
  alt : ∀ key, vkCode key = vkMenu ∨ vkCode key = vkLMenu ∨ vkCode key = vkRMenu ↔ key ∈ altKeys
  release : ∀ key, isReleaseHotkey (vkCode key) = true ↔ key = keyPause ∨ key = keyEsc

/-- A key going down or up. -/
structure KeyEvent where
  key : UInt16
  down : Bool
  deriving DecidableEq, Repr

/-- The event as the keyboard hook receives it, with the state `locked` for it or not. -/
def VirtualKeys.hookEvent (v : VirtualKeys) (event : KeyEvent) (locked : Bool) :
    KeyboardHookEvent :=
  { locked
    message := if event.down then .down else .up
    vkCode := v.vkCode event.key
    scanCode := (v.scanCode event.key).scanCode
    extended := (v.scanCode event.key).extended }

/-! ## What the chord means -/

/-- The last event of any of the keys is a press. -/
def LastPressed (keys : List UInt16) (events : List KeyEvent) : Prop :=
  (events.reverse.find? fun event => event.key ∈ keys).any KeyEvent.down = true

/-- The key is held after the events. -/
def Held (key : UInt16) (events : List KeyEvent) : Prop := LastPressed [key] events

/-- A release key is pressed while a Control and an Alt key are held. -/
def Chord (events : List KeyEvent) (event : KeyEvent) : Prop :=
  event.down = true ∧ (event.key = keyPause ∨ event.key = keyEsc) ∧
    (∃ key ∈ controlKeys, Held key events) ∧ ∃ key ∈ altKeys, Held key events

/-- The last event of a Control key and the last of an Alt key are presses. -/
def ModifiersLastPressed (events : List KeyEvent) : Prop :=
  LastPressed controlKeys events ∧ LastPressed altKeys events

instance (keys : List UInt16) (events : List KeyEvent) : Decidable (LastPressed keys events) :=
  inferInstanceAs (Decidable (_ = true))

instance (key : UInt16) (events : List KeyEvent) : Decidable (Held key events) :=
  inferInstanceAs (Decidable (LastPressed _ _))

instance (events : List KeyEvent) (event : KeyEvent) : Decidable (Chord events event) :=
  inferInstanceAs (Decidable (_ ∧ _ ∧ _ ∧ _))

instance (events : List KeyEvent) : Decidable (ModifiersLastPressed events) :=
  inferInstanceAs (Decidable (_ ∧ _))

section Lists

variable {events : List KeyEvent} {event : KeyEvent} {key : UInt16} {keys : List UInt16}

theorem lastPressed_append : LastPressed keys (events ++ [event]) ↔
    if event.key ∈ keys then event.down = true else LastPressed keys events := by
  unfold LastPressed
  rw [List.reverse_append, List.reverse_singleton, List.singleton_append, List.find?_cons]
  by_cases listed : event.key ∈ keys
  · simp [listed]
  · simp [listed]

theorem held_append : Held key (events ++ [event]) ↔
    if event.key = key then event.down = true else Held key events := by
  unfold Held
  rw [lastPressed_append]
  simp only [List.mem_singleton]

/-- A last press is of a key that is held. -/
theorem LastPressed.held (last : LastPressed keys events) : ∃ key ∈ keys, Held key events := by
  obtain ⟨event, found, down⟩ := (Option.any_eq_true _ _).mp last
  obtain ⟨listed, before, after, split, apart⟩ := List.find?_eq_some_iff_append.mp found
  have listed' : event.key ∈ keys := of_decide_eq_true listed
  have own : events.reverse.find? (fun other => other.key ∈ [event.key]) = some event := by
    refine List.find?_eq_some_iff_append.mpr ⟨by simp, before, after, split, ?_⟩
    intro other inside
    have outside : other.key ∉ keys := by simpa using apart other inside
    have other' : other.key ≠ event.key := fun same => outside (by rw [same]; exact listed')
    simpa using other'
  refine ⟨event.key, listed', ?_⟩
  unfold Held LastPressed
  rw [own]
  exact down

end Lists

/-! ## Linux -/

section Linux

variable {events : List KeyEvent} {event : KeyEvent} {state : CaptureInputState}

/-- The set of pressed keys is that of the held ones. -/
def Records (state : CaptureInputState) (events : List KeyEvent) : Prop :=
  ∀ key, key ∈ state.pressedKeys ↔ Held key events

theorem Records.press (records : Records state events) :
    Records (state.press event.key event.down) (events ++ [event]) := by
  intro key
  rw [held_append]
  unfold CaptureInputState.press
  by_cases same : event.key = key
  · subst same
    cases event.down <;> simp
  · have other : key ≠ event.key := Ne.symm same
    cases event.down <;> simp [same, other, records key]

/-- The event as the EIS stream carries it. -/
def KeyEvent.eiKey (event : KeyEvent) : UInt32 := event.key.toUInt32

theorem handleKeyboardKey_eiKey : handleKeyboardKey event.eiKey event.down state =
    if (state.updateKey event.key event.down).1 then
      (.emergencyRelease, (state.updateKey event.key event.down).2.clear)
    else (.input (.key event.key event.down), (state.updateKey event.key event.down).2) := by
  have small : ¬ event.eiKey > 0xffff := by
    have bound := event.key.toNat_lt
    rw [gt_iff_lt, UInt32.lt_iff_toNat_lt]
    simp only [KeyEvent.eiKey, UInt16.toNat_toUInt32]
    exact Nat.not_lt.mpr (Nat.le_of_lt_succ bound)
  have same : event.eiKey.toUInt16 = event.key := UInt16.toUInt16_toUInt32 _
  unfold handleKeyboardKey
  rw [if_neg small, same]

/-- Linux detects the chord exactly when it is pressed. -/
theorem updateKey_iff_chord (records : Records state events) :
    (state.updateKey event.key event.down).1 = true ↔ Chord (events ++ [event]) event := by
  have after := @Records.press _ event _ records
  unfold CaptureInputState.updateKey Chord
  simp only [Bool.and_eq_true, Bool.or_eq_true, decide_eq_true_iff, List.any_eq_true, and_assoc]
  have controls : (∃ key ∈ (state.press event.key event.down).pressedKeys, key ∈ controlKeys) ↔
      ∃ key ∈ controlKeys, Held key (events ++ [event]) :=
    ⟨fun ⟨key, inside, listed⟩ => ⟨key, listed, (after key).mp inside⟩,
      fun ⟨key, listed, held⟩ => ⟨key, (after key).mpr held, listed⟩⟩
  have alts : (∃ key ∈ (state.press event.key event.down).pressedKeys, key ∈ altKeys) ↔
      ∃ key ∈ altKeys, Held key (events ++ [event]) :=
    ⟨fun ⟨key, inside, listed⟩ => ⟨key, listed, (after key).mp inside⟩,
      fun ⟨key, listed, held⟩ => ⟨key, (after key).mpr held, listed⟩⟩
  rw [controls, alts]

end Linux

/-! ## Windows -/

section Windows

variable {g : CaptureGeometry} {at' : Surroundings} {v : VirtualKeys} {s : CaptureState}
  {event : KeyEvent} {events : List KeyEvent}

/-- The modifier flags are those of the last modifier events. -/
structure Flags (s : CaptureState) (events : List KeyEvent) : Prop where
  control : s.ctrlDown = true ↔ LastPressed controlKeys events
  alt : s.altDown = true ↔ LastPressed altKeys events

theorem Flags.update (flags : Flags s events) :
    Flags (s.updateModifier (v.vkCode event.key) event.down) (events ++ [event]) := by
  have disjoint : event.key ∈ controlKeys → event.key ∉ altKeys := by
    intro control alt
    simp only [controlKeys, altKeys, List.mem_cons, List.not_mem_nil, or_false] at control alt
    rcases control with same | same <;> rw [same] at alt <;> revert alt <;> decide
  unfold CaptureState.updateModifier
  constructor
  · rw [lastPressed_append]
    split
    next control => rw [if_pos ((v.control event.key).mp control)]
    next plain =>
      rw [if_neg (fun listed => plain ((v.control event.key).mpr listed))]
      split <;> exact flags.control
  · rw [lastPressed_append]
    split
    next control =>
      rw [if_neg (disjoint ((v.control event.key).mp control))]
      exact flags.alt
    next =>
      split
      next alt => rw [if_pos ((v.alt event.key).mp alt)]
      next plain =>
        rw [if_neg (fun listed => plain ((v.alt event.key).mpr listed))]
        exact flags.alt

/-- The hook released the capture for the chord. -/
def Fired (effects : List CaptureEffect) : Prop :=
  .sent (.control (.releaseToLocal .hotkey)) ∈ effects

instance (effects : List CaptureEffect) : Decidable (Fired effects) :=
  inferInstanceAs (Decidable (_ ∈ effects))

/-- What a release leaves of the flags, and that it is for the reason given. -/
theorem release_flags {reason : ReleaseReason} :
    (CaptureState.release g at' reason).wp (fun _ t o => t.ctrlDown = s.ctrlDown ∧
      t.altDown = s.altDown ∧ t.enabled = s.enabled ∧
      (Fired o ↔ s.active = true ∧ reason = .hotkey)) s := by
  unfold CaptureState.release CaptureState.showSourceCursor CaptureState.virtualEdgeRequired
    CaptureState.sendInput CaptureState.sendControl
  by_cases active : s.active = true
  · by_cases hidden : s.cursorHidden = true
    · simp [active, hidden, Fired, @eq_comm _ ReleaseReason.hotkey]
    · simp [active, hidden, Fired, @eq_comm _ ReleaseReason.hotkey]
  · simp [active, Fired]

/-- Suspending releases for another reason. -/
theorem toggle_flags :
    (CaptureState.toggleCaptureSuspended g at').wp (fun _ t o => t.ctrlDown = s.ctrlDown ∧
      t.altDown = s.altDown ∧ t.enabled = s.enabled ∧ ¬ Fired o) s := by
  unfold CaptureState.toggleCaptureSuspended
  simp only [wp_bind, wp_read, wp_update]
  split
  · refine wp_total release_flags fun _ t o released => ?_
    obtain ⟨control, alt, enabled, fired⟩ := released
    have silent : ¬ Fired o := fun inside => by cases (fired.mp inside).2
    unfold CaptureState.showSourceCursor
    by_cases hidden : t.cursorHidden = true
    · simpa [hidden, control, alt, enabled, Fired] using silent
    · simpa [hidden, control, alt, enabled, Fired] using silent
  · simp [Fired]

theorem refresh_flags :
    (CaptureState.refreshCaptureSuspension at').wp (fun _ t o => t.ctrlDown = s.ctrlDown ∧
      t.altDown = s.altDown ∧ t.enabled = s.enabled ∧ t.active = s.active ∧ ¬ Fired o) s := by
  unfold CaptureState.refreshCaptureSuspension
  simp only [wp_bind, wp_read]
  split
  · simp [Fired]
  · simp [Fired]

theorem keyRemote_flags {hookEvent : KeyboardHookEvent} {down : Bool} :
    (CaptureState.keyRemote hookEvent down).wp (fun _ t o => t.ctrlDown = s.ctrlDown ∧
      t.altDown = s.altDown ∧ t.enabled = s.enabled ∧ ¬ Fired o) s := by
  unfold CaptureState.keyRemote CaptureState.hideSourceCursor CaptureState.sendInput
  by_cases hidden : s.cursorHidden = true <;>
    cases windowsScancodeToEvdev ⟨hookEvent.scanCode, hookEvent.extended⟩ <;>
      simp [hidden, Fired]

/-- The modifier flags after an event depend on the flags before it alone. -/
theorem updateModifier_flags {t : CaptureState} {vkCode : UInt32} {down : Bool}
    (control : t.ctrlDown = s.ctrlDown) (alt : t.altDown = s.altDown) :
    (t.updateModifier vkCode down).ctrlDown = (s.updateModifier vkCode down).ctrlDown ∧
      (t.updateModifier vkCode down).altDown = (s.updateModifier vkCode down).altDown ∧
      (t.updateModifier vkCode down).active = t.active ∧
      (t.updateModifier vkCode down).enabled = t.enabled := by
  unfold CaptureState.updateModifier
  split
  · exact ⟨rfl, alt, rfl, rfl⟩
  split
  · exact ⟨control, rfl, rfl, rfl⟩
  · exact ⟨control, alt, rfl, rfl⟩

/-- Neither flag depends on the capture being enabled. -/
theorem setEnabled_flags {enabled : Bool} {reason : ReleaseReason} :
    (CaptureState.setEnabled g at' enabled reason).wp (fun _ t _ =>
      t.ctrlDown = s.ctrlDown ∧ t.altDown = s.altDown) s := by
  unfold CaptureState.setEnabled CaptureState.showSourceCursor
  rw [wp_read_bind]
  split
  · exact ⟨rfl, rfl⟩
  split
  · refine wp_total release_flags fun _ t o released => ?_
    by_cases hidden : t.cursorHidden = true
    · simp [hidden, released.1, released.2.1]
    · simp [hidden, released.1, released.2.1]
  · by_cases hidden : s.cursorHidden = true
    · simp [hidden]
    · simp [hidden]

/-- Entering the remote side takes the flags along. -/
theorem enterRemote_flags {point : ScreenPoint} :
    (CaptureState.enterRemote g point).wp (fun _ t _ =>
      t.ctrlDown = s.ctrlDown ∧ t.altDown = s.altDown ∧ t.enabled = s.enabled) s := by
  unfold CaptureState.enterRemote CaptureState.sendControl CaptureState.hideSourceCursor
  by_cases hidden : s.cursorHidden = true
  · simp [hidden]
  · simp [hidden]

/-- The hook drops an event when it cannot lock the state, or the capture is disabled. -/
theorem keyboardHook_dropped {locked : Bool} (dropped : (locked && s.enabled) = false) :
    (CaptureState.keyboardHook g at' (v.hookEvent event locked)).wp
      (fun _ t o => t = s ∧ ¬ Fired o) s := by
  unfold CaptureState.keyboardHook
  rw [wp_read_bind]
  by_cases free : locked = true
  · have disabled : s.enabled = false := by simpa [free] using dropped
    simp [VirtualKeys.hookEvent, free, disabled, Fired]
  · simp [VirtualKeys.hookEvent, free, Fired]

/-- The hook fires when the capture is active and the flags and the key say so. -/
theorem keyboardHook_fired (enabled : s.enabled = true) :
    (CaptureState.keyboardHook g at' (v.hookEvent event true)).wp (fun _ t o =>
      (Fired o ↔ s.active = true ∧ event.down = true ∧
        isReleaseHotkey (v.vkCode event.key) = true ∧
        (s.updateModifier (v.vkCode event.key) event.down).ctrlDown = true ∧
        (s.updateModifier (v.vkCode event.key) event.down).altDown = true) ∧
      t.ctrlDown = (s.updateModifier (v.vkCode event.key) event.down).ctrlDown ∧
      t.altDown = (s.updateModifier (v.vkCode event.key) event.down).altDown ∧
      t.enabled = true) s := by
  have isDown : decide ((v.hookEvent event true).message = .down) = event.down := by
    unfold VirtualKeys.hookEvent
    cases event.down <;> rfl
  have isKey : (v.hookEvent event true).message ≠ .other := by
    unfold VirtualKeys.hookEvent
    cases event.down <;> nofun
  have code : (v.hookEvent event true).vkCode = v.vkCode event.key := rfl
  have delivered : (v.hookEvent event true).action = true ∧
      (v.hookEvent event true).ownInput = false ∧ (v.hookEvent event true).locked = true ∧
      (v.hookEvent event true).injected = false := ⟨rfl, rfl, rfl, rfl⟩
  generalize v.hookEvent event true = hookEvent at *
  unfold CaptureState.keyboardHook
  simp only [wp_read_bind, delivered, code, isDown, if_pos isKey, enabled, Bool.not_true,
    Bool.or_self, Bool.false_eq_true, if_false, Bool.false_and]
  refine wp_total refresh_flags fun _ t o refreshed => ?_
  obtain ⟨control, alt, enabled', active', silent⟩ := refreshed
  rw [wp_bind, wp_update]
  simp only [wp_read_bind, List.nil_append]
  have flags := @updateModifier_flags s t (v.vkCode event.key) event.down control alt
  generalize t.updateModifier (v.vkCode event.key) event.down = u at flags ⊢
  rw [← flags.1, ← flags.2.1]
  have active'' : u.active = s.active := flags.2.2.1.trans active'
  have enabled'' : u.enabled = true := by rw [flags.2.2.2, enabled', enabled]
  have silent' : ∀ {o' : List CaptureEffect}, Fired (o ++ o') ↔ Fired o' := by
    intro o'
    exact ⟨fun fired => (List.mem_append.mp fired).resolve_left silent,
      fun fired => List.mem_append_right _ fired⟩
  rw [← active'']
  split
  · rename_i suspends
    refine wp_total toggle_flags fun _ w o' toggled => ?_
    obtain ⟨control', alt', stays, quiet⟩ := toggled
    simp only [wp_pure, List.append_nil, silent', quiet, false_iff]
    refine ⟨fun chord => ?_, control', alt', stays.trans enabled''⟩
    have isG : v.vkCode event.key = vkG := by simpa using (Bool.and_eq_true_iff.mp suspends).2
    have notG : isReleaseHotkey vkG = false := by decide
    rw [isG, notG] at chord
    cases chord.2.2.1
  split
  · rename_i idle
    have local' : u.active = false := by simpa using idle
    have quiet : ¬ Fired (o ++ []) := by rwa [List.append_nil]
    exact ⟨⟨fun fired => absurd fired quiet, fun chord => by simp [local'] at chord⟩, rfl, rfl,
      enabled''⟩
  rename_i busy
  have capturing : u.active = true := by simpa using busy
  split
  · rename_i chord
    refine wp_total release_flags fun _ w o' released => ?_
    obtain ⟨control', alt', stays, fired⟩ := released
    simp only [wp_pure, List.append_nil, silent', fired]
    simp only [Bool.and_eq_true] at chord
    obtain ⟨⟨⟨down, held⟩, heldAlt⟩, hotkey⟩ := chord
    exact ⟨⟨fun _ => ⟨capturing, down, hotkey, held, heldAlt⟩, fun _ => ⟨capturing, trivial⟩⟩,
      control', alt', stays.trans enabled''⟩
  · rename_i chord
    refine wp_mono ?_ keyRemote_flags
    rintro _ w o' ⟨control', alt', stays, quiet⟩
    simp only [silent', quiet, false_iff]
    refine ⟨?_, control', alt', stays.trans enabled''⟩
    rintro ⟨-, down, hotkey, held, heldAlt⟩
    exact chord (by simp [down, hotkey, held, heldAlt])

end Windows

/-! ## Both sides -/

/-- The two captures of one keyboard, with every key event so far, those that reached the modifier
    flags of Windows and those since the capture began. -/
structure ChordRun where
  windows : CaptureState
  linux : CaptureInputState := {}
  capturing : Bool := false
  released : Bool := false
  events : List KeyEvent := []
  reached : List KeyEvent := []
  since : List KeyEvent := []
  deriving DecidableEq, Repr

/-- A key event, which finds the state of the Windows hook `locked` for it or not; the beginning of
    the capture on both sides; and the session enabling or disabling the capture before it. -/
inductive ChordCall where
  | key (event : KeyEvent) (locked : Bool)
  | begin (point : ScreenPoint)
  | setEnabled (enabled : Bool) (reason : ReleaseReason)
  deriving DecidableEq, Repr

namespace ChordRun

variable (g : CaptureGeometry) (v : VirtualKeys)

/-- What the keyboard hook does with the event. -/
def hooked (at' : Surroundings) (event : KeyEvent) (locked : Bool) (run : ChordRun) :=
  CaptureState.keyboardHook g at' (v.hookEvent event locked) run.windows

/-- The run after the keyboard hook. -/
def hook (at' : Surroundings) (event : KeyEvent) (locked : Bool) (run : ChordRun) : ChordRun :=
  { run with
    windows := (run.hooked g v at' event locked).state
    events := run.events ++ [event]
    reached := run.reached ++ if locked && run.windows.enabled then [event] else [] }

/-- The run after the EIS stream. -/
def stream (event : KeyEvent) (run : ChordRun) : ChordRun :=
  let handled := handleKeyboardKey event.eiKey event.down run.linux
  { run with
    linux := handled.2
    released := handled.1 = .emergencyRelease
    since := run.since ++ [event] }

/-- Until the capture begins only the hook sees the keys; afterwards both sides do, until one of
    them has released the capture. -/
def next (at' : Surroundings) (call : ChordCall) (run : ChordRun) : Option ChordRun :=
  match call with
  | .key event locked =>
    if !run.capturing then some (run.hook g v at' event locked)
    else if run.windows.active && !run.released then
      some ((run.hook g v at' event locked).stream event)
    else none
  | .begin point =>
    if !run.capturing && run.windows.enabled then
      some { run with
        capturing := true
        windows := (CaptureState.enterRemote g point run.windows).state }
    else none
  | .setEnabled enabled reason =>
    if !run.capturing then
      some { run with windows := (CaptureState.setEnabled g at' enabled reason run.windows).state }
    else none

/-- Keys, and what surrounds them. -/
def machine : Machine ChordRun (ChordCall × Surroundings) where
  exec run call := run.next g v call.2 call.1

/-- The Windows side detects the chord. -/
def WindowsFires (at' : Surroundings) (event : KeyEvent) (locked : Bool) (run : ChordRun) : Prop :=
  Fired (run.hooked g v at' event locked).output

/-- The Linux side detects the chord. -/
def LinuxFires (event : KeyEvent) (run : ChordRun) : Prop :=
  (handleKeyboardKey event.eiKey event.down run.linux).1 = .emergencyRelease

instance (at' : Surroundings) (event : KeyEvent) (locked : Bool) (run : ChordRun) :
    Decidable (run.WindowsFires g v at' event locked) := inferInstanceAs (Decidable (Fired _))

instance (event : KeyEvent) (run : ChordRun) : Decidable (run.LinuxFires event) :=
  inferInstanceAs (Decidable (_ = _))

/-- When a release key goes down: a Control and an Alt key are held exactly when the event reaches
    the hook and the last such events that did were presses, and if they are held, such keys went
    down since the capture began. -/
def InStep (event : KeyEvent) (locked : Bool) (run : ChordRun) : Prop :=
  event.down = true → event.key = keyPause ∨ event.key = keyEsc →
    ((∃ key ∈ controlKeys, Held key (run.events ++ [event])) ∧
        (∃ key ∈ altKeys, Held key (run.events ++ [event])) ↔
      locked = true ∧ ModifiersLastPressed (run.reached ++ [event])) ∧
    ((∃ key ∈ controlKeys, Held key (run.events ++ [event])) →
      (∃ key ∈ altKeys, Held key (run.events ++ [event])) →
      (∃ key ∈ controlKeys, Held key (run.since ++ [event])) ∧
        ∃ key ∈ altKeys, Held key (run.since ++ [event]))

instance (event : KeyEvent) (locked : Bool) (run : ChordRun) :
    Decidable (run.InStep event locked) := inferInstanceAs (Decidable (_ → _ → _))

variable {g v} {run t : ChordRun} {at' : Surroundings} {event : KeyEvent} {locked : Bool}

/-- What holds in every run. -/
structure Kept (run : ChordRun) : Prop where
  flags : Flags run.windows run.reached
  records : run.released = false → Records run.linux run.since
  enabled : run.capturing = true → run.windows.enabled = true
  inside : ∃ before, run.events = before ++ run.since
  fresh : run.capturing = false → run.since = []

/-- The hook keeps the flags, whether the event reaches them or not. -/
theorem hook_flags (flags : Flags run.windows run.reached) :
    Flags (run.hook g v at' event locked).windows (run.hook g v at' event locked).reached ∧
      (run.hook g v at' event locked).windows.enabled = run.windows.enabled := by
  cases reaches : locked && run.windows.enabled with
  | false =>
    have dropped : (run.hook g v at' event locked).windows = run.windows :=
      (@keyboardHook_dropped g at' v run.windows event locked reaches).1
    have same : (run.hook g v at' event locked).reached = run.reached := by
      simp [hook, reaches]
    rw [dropped, same]
    exact ⟨flags, rfl⟩
  | true =>
    obtain ⟨rfl, enabled⟩ := Bool.and_eq_true_iff.mp reaches
    obtain ⟨-, control, alt, enabled'⟩ :=
      @keyboardHook_fired g at' v run.windows event enabled
    have more : (run.hook g v at' event true).reached = run.reached ++ [event] := by
      simp [hook, enabled]
    have after := @Flags.update v run.windows event run.reached flags
    rw [more]
    exact ⟨⟨control ▸ after.control, alt ▸ after.alt⟩, enabled'.trans enabled.symm⟩

theorem Kept.next (kept : Kept run) {call : ChordCall}
    (executed : run.next g v at' call = some t) : Kept t := by
  obtain ⟨before, split⟩ := kept.inside
  cases call with
  | key event locked =>
    obtain ⟨flags, enabled⟩ :=
      @hook_flags g v run at' event locked kept.flags
    have more : (run.hook g v at' event locked).events = run.events ++ [event] := rfl
    unfold ChordRun.next at executed
    cases begun : run.capturing with
    | false =>
      rw [begun] at executed
      cases executed
      refine ⟨flags, kept.records, fun capturing => ?_, ⟨before ++ [event], ?_⟩, kept.fresh⟩
      · exact absurd (begun.symm.trans capturing) Bool.false_ne_true
      · have none : run.since = [] := kept.fresh begun
        rw [more, split]
        simp [hook, none]
    | true =>
      simp only [begun, Bool.not_true, Bool.false_eq_true, if_false] at executed
      split at executed
      · rename_i going
        have held : run.released = false := by
          simpa using (Bool.and_eq_true_iff.mp going).2
        cases executed
        refine ⟨flags, fun stays => ?_, fun _ => enabled.trans (kept.enabled begun),
          ⟨before, ?_⟩, fun idle => ?_⟩
        · have records := @Records.press _ event _ (kept.records held)
          have quiet : (handleKeyboardKey event.eiKey event.down run.linux).1 ≠
              .emergencyRelease := by simpa [ChordRun.stream, hook] using stays
          rw [handleKeyboardKey_eiKey] at quiet
          have unfired : (run.linux.updateKey event.key event.down).1 = false := by
            by_contra fires
            exact quiet (by rw [if_pos (by simpa using fires)])
          simp only [ChordRun.stream, hook, handleKeyboardKey_eiKey, unfired]
          exact records
        · simp only [ChordRun.stream, more, split, List.append_assoc]
          rfl
        · exact absurd (begun.symm.trans idle) (by decide)
      · cases executed
  | begin point =>
    simp only [ChordRun.next] at executed
    split at executed
    · rename_i ready
      obtain ⟨control, alt, enabled⟩ :=
        @enterRemote_flags g run.windows point
      cases executed
      exact ⟨⟨control ▸ kept.flags.control, alt ▸ kept.flags.alt⟩, kept.records,
        fun _ => enabled.trans (Bool.and_eq_true_iff.mp ready).2, ⟨before, split⟩,
        fun idle => nomatch idle⟩
    · cases executed
  | setEnabled enabled reason =>
    simp only [ChordRun.next] at executed
    split at executed
    · rename_i waiting
      obtain ⟨control, alt⟩ := @setEnabled_flags g at' run.windows enabled reason
      cases executed
      refine ⟨⟨control ▸ kept.flags.control, alt ▸ kept.flags.alt⟩, kept.records,
        fun capturing => ?_, ⟨before, split⟩, kept.fresh⟩
      have idle : run.capturing = false := by simpa using waiting
      exact absurd (idle.symm.trans capturing) Bool.false_ne_true
    · cases executed

theorem Kept.of_run {from' : ChordRun} (kept : Kept from')
    (keys : (machine g v).Run anyAction from' run) : Kept run := by
  refine keys.invariant ?_ kept
  intro s call t _ executed held
  exact held.next executed

/-- The hook fires when it gets the event and its flags are set. -/
theorem windowsFires_iff (kept : Kept run) (begun : run.capturing = true)
    (active : run.windows.active = true) :
    run.WindowsFires g v at' event locked ↔ event.down = true ∧
      (event.key = keyPause ∨ event.key = keyEsc) ∧ locked = true ∧
      ModifiersLastPressed (run.reached ++ [event]) := by
  have enabled := kept.enabled begun
  unfold WindowsFires hooked
  cases locked with
  | false =>
    have silent := (@keyboardHook_dropped g at' v run.windows event false rfl).2
    exact ⟨fun fired => absurd fired silent, fun fires => absurd fires.2.2.1 (by decide)⟩
  | true =>
    have fired := (@keyboardHook_fired g at' v run.windows event enabled).1
    have after := @Flags.update v run.windows event run.reached kept.flags
    rw [fired, v.release event.key, after.control, after.alt]
    exact ⟨fun ⟨_, down, hotkey, held⟩ => ⟨down, hotkey, rfl, held⟩,
      fun ⟨down, hotkey, _, held⟩ => ⟨active, down, hotkey, held⟩⟩

/-- The stream fires when the chord is of keys pressed since the capture began. -/
theorem linuxFires_iff (kept : Kept run) (going : run.released = false) :
    run.LinuxFires event ↔ Chord (run.since ++ [event]) event := by
  rw [← updateKey_iff_chord (kept.records going)]
  unfold LinuxFires
  rw [handleKeyboardKey_eiKey]
  by_cases fires : (run.linux.updateKey event.key event.down).1 = true
  · simp [fires]
  · simp [fires]

/-- A key that is held by what came later is held by everything. -/
theorem held_inside {before : List KeyEvent} {events : List KeyEvent} {key : UInt16}
    (held : Held key events) : Held key (before ++ events) := by
  unfold Held LastPressed at held ⊢
  obtain ⟨event, found, down⟩ := (Option.any_eq_true _ _).mp held
  rw [List.reverse_append, List.find?_append, found]
  exact down

end ChordRun

/-- While both sides capture, they fire exactly when the chord is pressed if and only if they are
    in step at the event. -/
theorem chord_fires_alike {g : CaptureGeometry} {v : VirtualKeys} {config : CaptureConfig}
    {bounds : LocalBounds} {now : Nat} {run : ChordRun}
    (keys : (ChordRun.machine g v).Run anyAction
      { windows := CaptureState.start g config bounds now } run)
    (begun : run.capturing = true) (active : run.windows.active = true)
    (going : run.released = false) (event : KeyEvent) (locked : Bool) (at' : Surroundings) :
    ((run.WindowsFires g v at' event locked ↔ Chord (run.events ++ [event]) event) ∧
      (run.LinuxFires event ↔ Chord (run.events ++ [event]) event)) ↔ run.InStep event locked := by
  have fresh : ∀ keys, ¬ LastPressed keys [] := fun keys last => by cases last
  have start : ChordRun.Kept { windows := CaptureState.start g config bounds now } := by
    refine ⟨⟨?_, ?_⟩, fun _ key => ?_, fun _ => rfl, ⟨[], rfl⟩, fun _ => rfl⟩
    · exact ⟨fun down => absurd down Bool.false_ne_true, fun last => absurd last (fresh _)⟩
    · exact ⟨fun down => absurd down Bool.false_ne_true, fun last => absurd last (fresh _)⟩
    · exact ⟨fun inside => absurd inside List.not_mem_nil, fun last => absurd last (fresh _)⟩
  have kept : ChordRun.Kept run := start.of_run keys
  rw [ChordRun.windowsFires_iff kept begun active, ChordRun.linuxFires_iff kept going]
  obtain ⟨before, split⟩ := kept.inside
  have later : ∀ {key : UInt16}, Held key (run.since ++ [event]) →
      Held key (run.events ++ [event]) := by
    intro key held
    rw [split, List.append_assoc]
    exact ChordRun.held_inside held
  have controls : (∃ key ∈ controlKeys, Held key (run.since ++ [event])) →
      ∃ key ∈ controlKeys, Held key (run.events ++ [event]) :=
    fun ⟨key, listed, held⟩ => ⟨key, listed, later held⟩
  have alts : (∃ key ∈ altKeys, Held key (run.since ++ [event])) →
      ∃ key ∈ altKeys, Held key (run.events ++ [event]) :=
    fun ⟨key, listed, held⟩ => ⟨key, listed, later held⟩
  unfold Chord ChordRun.InStep
  constructor
  · rintro ⟨windows, linux⟩ down hotkey
    refine ⟨⟨fun held => ?_, fun reports => ?_⟩, fun control alt => ?_⟩
    · exact (windows.mpr ⟨down, hotkey, held⟩).2.2
    · exact (windows.mp ⟨down, hotkey, reports⟩).2.2
    · exact (linux.mpr ⟨down, hotkey, control, alt⟩).2.2
  · intro inStep
    refine ⟨⟨?_, ?_⟩, ?_, ?_⟩
    · rintro ⟨down, hotkey, reports⟩
      exact ⟨down, hotkey, (inStep down hotkey).1.mpr reports⟩
    · rintro ⟨down, hotkey, held⟩
      exact ⟨down, hotkey, (inStep down hotkey).1.mp held⟩
    · rintro ⟨down, hotkey, control, alt⟩
      exact ⟨down, hotkey, controls control, alts alt⟩
    · rintro ⟨down, hotkey, control, alt⟩
      exact ⟨down, hotkey, (inStep down hotkey).2 control alt⟩

/-- The keys of a usual layout that matter to the chord. -/
def sampleKeys : VirtualKeys where
  vkCode key :=
    if key = 29 then vkLControl else if key = 97 then vkRControl
    else if key = 56 then vkLMenu else if key = 100 then vkRMenu
    else if key = keyPause then vkPause else if key = keyEsc then vkEscape else 0
  scanCode key := (evdevToWindowsScancode key).getD ⟨0, false⟩
  control key := by
    simp only [controlKeys, List.mem_cons, List.not_mem_nil, or_false]
    split_ifs <;> simp_all +decide
  alt key := by
    simp only [altKeys, List.mem_cons, List.not_mem_nil, or_false]
    split_ifs <;> simp_all +decide
  release key := by
    split_ifs <;> simp_all +decide

/-- The capture begins, and the keys go down and up. -/
def sampleKeyCalls (events : List KeyEvent) : List (ChordCall × Surroundings) :=
  (.begin ⟨0, 0⟩, { now := 0 }) :: events.map fun event => (.key event true, { now := 0 })

def sampleChord (events : List KeyEvent) : ChordRun :=
  (ChordRun.machine sampleGeometry sampleKeys).reach
    { windows :=
        CaptureState.start sampleGeometry ⟨.right, (1920, 1080), .alwaysEnabled⟩ ⟨0, 0, 1920, 1080⟩
          0 }
    (sampleKeyCalls events)

theorem chord_fires_alike_sample :
    let run := sampleChord [⟨29, true⟩, ⟨56, true⟩]
    Chord (run.events ++ [⟨keyEsc, true⟩]) ⟨keyEsc, true⟩ ∧
      run.WindowsFires sampleGeometry sampleKeys { now := 9 } ⟨keyEsc, true⟩ true ∧
      run.LinuxFires ⟨keyEsc, true⟩ := by
  intro run
  have alike := chord_fires_alike
    (run_reach (sampleKeyCalls [⟨29, true⟩, ⟨56, true⟩]) (by decide +kernel) :
      (ChordRun.machine sampleGeometry sampleKeys).Run anyAction _ run)
    (by decide +kernel) (by decide +kernel) (by decide +kernel) ⟨keyEsc, true⟩ true { now := 9 }
  have inStep : run.InStep ⟨keyEsc, true⟩ true := by decide +kernel
  have chord : Chord (run.events ++ [⟨keyEsc, true⟩]) ⟨keyEsc, true⟩ := by decide +kernel
  exact ⟨chord, (alike.mpr inStep).1.mpr chord, (alike.mpr inStep).2.mpr chord⟩

/-- With one of two held Control keys released, the Windows hook no longer knows of the other, and
    the chord releases nothing there. -/
theorem second_control_unseen :
    ¬ ∀ (g : CaptureGeometry) (v : VirtualKeys) (config : CaptureConfig) (bounds : LocalBounds)
      (now : Nat) (run : ChordRun), (ChordRun.machine g v).Run anyAction
        { windows := CaptureState.start g config bounds now } run →
      run.capturing = true → run.windows.active = true → run.released = false →
      ∀ (event : KeyEvent) (at' : Surroundings),
        (run.WindowsFires g v at' event true ↔ Chord (run.events ++ [event]) event) ∧
        (run.LinuxFires event ↔ Chord (run.events ++ [event]) event) := by
  intro alike
  let keys : List KeyEvent := [⟨29, true⟩, ⟨97, true⟩, ⟨97, false⟩, ⟨56, true⟩]
  have fires := (alike _ _ _ _ _ (sampleChord keys)
    (run_reach (sampleKeyCalls keys) (by decide +kernel)) (by decide +kernel) (by decide +kernel)
    (by decide +kernel) ⟨keyPause, true⟩ { now := 9 }).1.mpr (by decide +kernel)
  revert fires
  decide +kernel

end EdgeKvm.Input
