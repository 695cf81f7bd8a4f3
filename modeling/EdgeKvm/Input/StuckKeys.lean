import EdgeKvm.Input.Injectors

/-!
# Keys held down by an injector

An injector is used by one call after another, and every send of a call may fail. The keys and
buttons the system holds down are compared with those the injector has recorded: uinput keeps
them recorded in every run; Windows does as long as no release of a held key fails.
-/

namespace EdgeKvm.Input

open EdgeKvm.Lib EdgeKvm.Session

/-- A call of an injector. -/
inductive InjectorRequest where
  | inject (event : InputEvent)
  | allKeysUp
  deriving DecidableEq, Repr

/-- A call together with how its sends end. -/
structure InjectorCall where
  request : InjectorRequest
  sends : List (Option Nat) := []
  deriving DecidableEq, Repr

variable {p : Rounding} {sends : List (Option Nat)}

/-! ## Windows -/

namespace WindowsInjector

def call (p : Rounding) (c : InjectorCall) (w : WindowsInjector) :
    Except WindowsInputError Unit × WindowsInjector :=
  let ready := { w with device := { w.device with outcomes := c.sends } }
  match c.request with
  | .inject event => ready.inject p event
  | .allKeysUp => ready.allKeysUp

def machine (p : Rounding) : Machine WindowsInjector InjectorCall where
  exec w c := some (w.call p c).2

/-- What the keys are sent as; unmapped keys are not sent. -/
def keyTargets (keys : List UInt16) : List WindowsHeld :=
  (keys.filterMap evdevToWindowsScancode).map .key

def buttonTargets (held : MouseButton → Bool) (of' : List MouseButton) : List WindowsHeld :=
  (of'.filter held).map .button

/-- The releases that a call sends, in order. -/
def releases (w : WindowsInjector) : InjectorRequest → List WindowsHeld
  | .inject (.key evdevCode false) => keyTargets [evdevCode]
  | .inject (.pointerButton button false) => [.button button]
  | .inject .allKeysUp | .allKeysUp => keyTargets w.heldKeys ++ buttonTargets w.heldButtons buttons
  | .inject _ => []

/-- No release in `targets` fails, unless of a key that is not held. -/
def Arriving (targets : List WindowsHeld) (device : Device WindowsHeld) : Prop :=
  ∀ entry ∈ targets.zip device.outcomes, entry.2.isSome = true → entry.1 ∉ device.held

instance (targets : List WindowsHeld) (device : Device WindowsHeld) :
    Decidable (Arriving targets device) :=
  inferInstanceAs (Decidable (∀ entry ∈ targets.zip device.outcomes, _))

/-- No release in `targets` fails. -/
def Succeeding (targets : List WindowsHeld) (device : Device WindowsHeld) : Prop :=
  ∀ entry ∈ targets.zip device.outcomes, entry.2.isSome = false

/-- No send of the call fails to release a key or button that is held. -/
def Arrives (w : WindowsInjector) (c : InjectorCall) : Prop :=
  Arriving (w.releases c.request) { w.device with outcomes := c.sends }

instance (w : WindowsInjector) (c : InjectorCall) : Decidable (w.Arrives c) :=
  inferInstanceAs (Decidable (Arriving _ _))

/-- The injector has recorded a key or button as held. -/
def Records (w : WindowsInjector) : WindowsHeld → Prop
  | .key key => ∃ code ∈ w.heldKeys, evdevToWindowsScancode code = some key
  | .button button => w.heldButtons button = true

/-- Everything held is recorded. -/
def Covered (w : WindowsInjector) : Prop := ∀ target ∈ w.device.held, w.Records target

/-! ### One send -/

section Sends

variable {w : WindowsInjector} {input : WindowsInput} {target : WindowsHeld}
  {targets : List WindowsHeld} {seen : Option WindowsInputError}

theorem sendInputs_eq_ok : (w.sendInputs input).1 = .ok () ↔ w.device.failsNext = false := by
  simp only [sendInputs, Device.send_fst]
  cases w.device.failsNext <;> simp

@[simp] theorem heldKeys_sendInputs : (w.sendInputs input).2.heldKeys = w.heldKeys := rfl

@[simp] theorem heldButtons_sendInputs : (w.sendInputs input).2.heldButtons = w.heldButtons := rfl

theorem outcomes_sendInputs :
    (w.sendInputs input).2.device.outcomes = w.device.outcomes.tail := Device.outcomes_send

theorem held_sendInputs : (w.sendInputs input).2.device.held =
    if w.device.failsNext then w.device.held
    else Device.apply WindowsInput.touch w.device.held input := Device.held_send_one

theorem Arriving.head {device : Device WindowsHeld} (arriving : Arriving (target :: targets) device)
    (fails : device.failsNext = true) : target ∉ device.held := by
  unfold Device.failsNext at fails
  cases outcomes : device.outcomes with
  | nil => simp [outcomes] at fails
  | cons outcome rest =>
    rw [outcomes] at fails
    refine arriving (target, outcome) ?_ (by simpa using fails)
    rw [outcomes]
    exact List.mem_cons_self

/-- The releases after one that arrives. -/
theorem Arriving.tail {device after : Device WindowsHeld}
    (arriving : Arriving (target :: targets) device)
    (outcomes : after.outcomes = device.outcomes.tail) (held : after.held ⊆ device.held) :
    Arriving targets after := by
  intro entry listed failed stays
  rw [outcomes] at listed
  refine arriving entry ?_ failed (held stays)
  cases all : device.outcomes with
  | nil => simp [all] at listed
  | cons outcome rest =>
    rw [all] at listed
    exact List.mem_cons_of_mem _ listed

theorem Succeeding.arriving {device : Device WindowsHeld} (succeeding : Succeeding targets device) :
    Arriving targets device := by
  intro entry listed failed
  rw [succeeding entry listed] at failed
  cases failed

theorem Succeeding.cons {device after : Device WindowsHeld} (succeeds : device.failsNext = false)
    (outcomes : after.outcomes = device.outcomes.tail) (rest : Succeeding targets after) :
    Succeeding (target :: targets) device := by
  intro entry listed
  unfold Device.failsNext at succeeds
  cases all : device.outcomes with
  | nil => simp [all] at listed
  | cons outcome others =>
    rw [all] at listed succeeds outcomes
    rcases List.mem_cons.mp listed with rfl | later
    · simpa using succeeds
    · refine rest entry ?_
      rw [outcomes]
      exact later

/-- A release that arrives takes its target. -/
theorem held_release (touched : input.touch = some (target, false))
    (arriving : Arriving (target :: targets) w.device) :
    (w.sendInputs input).2.device.held = w.device.held.erase target :=
  Device.held_send_release touched arriving.head

end Sends

/-! ### The loops of a release -/

section Loops

variable {w : WindowsInjector} {seen : Option WindowsInputError} {targets : List WindowsHeld}

theorem keyTargets_cons {code : UInt16} {keys : List UInt16} :
    keyTargets (code :: keys) =
      match evdevToWindowsScancode code with
      | none => keyTargets keys
      | some key => .key key :: keyTargets keys := by
  unfold keyTargets
  rw [List.filterMap_cons]
  cases evdevToWindowsScancode code <;> rfl

@[simp] theorem heldButtons_releaseKeys {keys : List UInt16} :
    (w.releaseKeys seen keys).2.heldButtons = w.heldButtons := by
  induction keys generalizing w seen with
  | nil => rfl
  | cons code keys ih =>
    unfold releaseKeys sendKey
    cases evdevToWindowsScancode code with
    | none => exact ih
    | some key => exact ih

/-- If every release arrives, the keys of the loop are released, and what is sent after the
    loop still arrives. -/
theorem releaseKeys_arrive {keys : List UInt16}
    (arriving : Arriving (keyTargets keys ++ targets) w.device) :
    Arriving targets (w.releaseKeys seen keys).2.device ∧
      ∀ target, target ∈ (w.releaseKeys seen keys).2.device.held ↔
        target ∈ w.device.held ∧ target ∉ keyTargets keys := by
  induction keys generalizing w seen with
  | nil => exact ⟨arriving, fun target => by simp [releaseKeys, keyTargets]⟩
  | cons code keys ih =>
    rw [keyTargets_cons] at arriving ⊢
    unfold releaseKeys sendKey
    cases mapped : evdevToWindowsScancode code with
    | none =>
      rw [mapped] at arriving
      exact ih arriving
    | some key =>
      rw [mapped] at arriving
      have held : (w.sendInputs (.key key false)).2.device.held = w.device.held.erase (.key key) :=
        held_release rfl arriving
      have rest : Arriving (keyTargets keys ++ targets) (w.sendInputs (.key key false)).2.device :=
        arriving.tail outcomes_sendInputs (by rw [held]; exact Finset.erase_subset _ _)
      obtain ⟨after, released⟩ := ih rest
      refine ⟨after, fun target => ?_⟩
      rw [released target, held, Finset.mem_erase, List.mem_cons, not_or]
      exact ⟨fun ⟨⟨other, inside⟩, absent⟩ => ⟨inside, other, absent⟩,
        fun ⟨inside, other, absent⟩ => ⟨⟨other, inside⟩, absent⟩⟩

theorem buttonTargets_cons {held : MouseButton → Bool} {button : MouseButton}
    {rest : List MouseButton} :
    buttonTargets held (button :: rest) =
      if held button then .button button :: buttonTargets held rest else buttonTargets held rest := by
  unfold buttonTargets
  rw [List.filter_cons]
  split <;> rfl

theorem buttonTargets_update {held : MouseButton → Bool} {button : MouseButton}
    {rest : List MouseButton} (absent : button ∉ rest) :
    buttonTargets (Function.update held button false) rest = buttonTargets held rest := by
  unfold buttonTargets
  congr 1
  refine List.filter_congr fun other listed => ?_
  have other' : other ≠ button := fun same => absent (by rw [← same]; exact listed)
  rw [Function.update_of_ne other']

/-- If every release arrives, the buttons of the loop are released and no longer recorded. -/
theorem releaseButtons_arrive {rest : List MouseButton} (distinct : rest.Nodup)
    (arriving : Arriving (buttonTargets w.heldButtons rest) w.device) :
    (∀ button, (releaseButtons seen w rest).2.heldButtons button =
        (w.heldButtons button && button ∉ rest)) ∧
      (releaseButtons seen w rest).2.heldKeys = w.heldKeys ∧
      ∀ target, target ∈ (releaseButtons seen w rest).2.device.held ↔
        target ∈ w.device.held ∧ target ∉ buttonTargets w.heldButtons rest := by
  induction rest generalizing w seen with
  | nil => exact ⟨fun button => by simp [releaseButtons], rfl,
      fun target => by simp [releaseButtons, buttonTargets]⟩
  | cons button rest ih =>
    obtain ⟨absent, distinctRest⟩ := List.nodup_cons.mp distinct
    rw [buttonTargets_cons] at arriving ⊢
    unfold releaseButtons
    by_cases recorded : w.heldButtons button = true
    · rw [if_pos recorded] at arriving ⊢
      rw [if_pos recorded]
      have held : (w.sendInputs (.button button false)).2.device.held =
          w.device.held.erase (.button button) := held_release rfl arriving
      have later : Arriving (buttonTargets w.heldButtons rest)
          (w.sendInputs (.button button false)).2.device :=
        arriving.tail outcomes_sendInputs (by rw [held]; exact Finset.erase_subset _ _)
      rw [← buttonTargets_update absent] at later
      obtain ⟨records, keys, released⟩ := @ih
        { (w.sendInputs (.button button false)).2 with
          heldButtons := Function.update w.heldButtons button false }
        (firstError seen (w.sendInputs (.button button false)).1) distinctRest later
      refine ⟨fun other => (records other).trans ?_, keys,
        fun target => (released target).trans ?_⟩
      · by_cases same : other = button
        · subst same
          simp
        · simp [same]
      · simp only [held, Finset.mem_erase, List.mem_cons, not_or, buttonTargets_update absent]
        exact ⟨fun ⟨⟨other, inside⟩, absent⟩ => ⟨inside, other, absent⟩,
          fun ⟨inside, other, absent⟩ => ⟨⟨other, inside⟩, absent⟩⟩
    · rw [if_neg recorded] at arriving ⊢
      rw [if_neg recorded]
      obtain ⟨records, keys, released⟩ := @ih w seen distinctRest arriving
      refine ⟨fun other => ?_, keys, released⟩
      rw [records other]
      by_cases same : other = button
      · subst same
        simp [recorded]
      · simp [same]

theorem firstError_eq_none {result : Except WindowsInputError Unit} :
    firstError seen result = none ↔ seen = none ∧ result = .ok () := by
  cases result with
  | ok done => simp [firstError]
  | error error => cases seen <;> simp [firstError]

/-- A loop that keeps no error has sent every key, with success. -/
theorem releaseKeys_succeed {keys : List UInt16} (silent : (w.releaseKeys seen keys).1 = none) :
    seen = none ∧ (Succeeding targets (w.releaseKeys seen keys).2.device →
      Succeeding (keyTargets keys ++ targets) w.device) := by
  induction keys generalizing w seen with
  | nil => exact ⟨silent, fun later => later⟩
  | cons code keys ih =>
    unfold releaseKeys at silent ⊢
    obtain ⟨none, later⟩ := ih silent
    obtain ⟨unseen, sent⟩ := firstError_eq_none.mp none
    refine ⟨unseen, fun after => ?_⟩
    rw [keyTargets_cons]
    unfold sendKey at sent later after
    cases mapped : evdevToWindowsScancode code with
    | none =>
      rw [mapped] at sent
      cases sent
    | some key =>
      rw [mapped] at sent later after
      exact .cons (sendInputs_eq_ok.mp sent) outcomes_sendInputs (later after)

theorem releaseButtons_succeed {rest : List MouseButton} (distinct : rest.Nodup)
    (silent : (releaseButtons seen w rest).1 = none) :
    seen = none ∧ Succeeding (buttonTargets w.heldButtons rest) w.device := by
  induction rest generalizing w seen with
  | nil => exact ⟨silent, nofun⟩
  | cons button rest ih =>
    obtain ⟨absent, distinctRest⟩ := List.nodup_cons.mp distinct
    unfold releaseButtons at silent
    rw [buttonTargets_cons]
    by_cases recorded : w.heldButtons button = true
    · rw [if_pos recorded] at silent ⊢
      obtain ⟨none, later⟩ := ih distinctRest silent
      obtain ⟨unseen, sent⟩ := firstError_eq_none.mp none
      rw [heldButtons_sendInputs, buttonTargets_update absent] at later
      exact ⟨unseen, .cons (sendInputs_eq_ok.mp sent) outcomes_sendInputs later⟩
    · rw [if_neg recorded] at silent ⊢
      exact ih distinctRest silent

theorem records_iff {target : WindowsHeld} :
    w.Records target ↔
      target ∈ keyTargets w.heldKeys ++ buttonTargets w.heldButtons buttons := by
  have listed : ∀ button, button ∈ buttons := by
    intro button
    cases button <;> decide
  cases target with
  | key key => simp [Records, keyTargets, buttonTargets]
  | button button => simp [Records, keyTargets, buttonTargets, listed]

/-- Once everything held is recorded, a release whose sends arrive leaves nothing held. -/
theorem held_allKeysUp (covered : w.Covered)
    (arriving : Arriving (keyTargets w.heldKeys ++ buttonTargets w.heldButtons buttons) w.device) :
    w.allKeysUp.2.device.held = ∅ := by
  obtain ⟨after, keysReleased⟩ := @releaseKeys_arrive w none _ w.heldKeys arriving
  rw [← heldButtons_releaseKeys] at after
  have loop := @releaseButtons_arrive { (w.releaseKeys none w.heldKeys).2 with heldKeys := [] }
    (w.releaseKeys none w.heldKeys).1 buttons (by decide) after
  refine Finset.eq_empty_of_forall_notMem fun target stays => ?_
  obtain ⟨inside, noButton⟩ := (loop.2.2 target).mp stays
  obtain ⟨held, noKey⟩ := (keysReleased target).mp inside
  rw [heldButtons_releaseKeys] at noButton
  rcases List.mem_append.mp (records_iff.mp (covered target held)) with key | button
  · exact noKey key
  · exact noButton button

/-- A release that returns no error has sent everything recorded. -/
theorem allKeysUp_ok (ok : w.allKeysUp.1 = .ok ()) :
    Arriving (keyTargets w.heldKeys ++ buttonTargets w.heldButtons buttons) w.device := by
  have silent : (releaseButtons (w.releaseKeys none w.heldKeys).1
      { (w.releaseKeys none w.heldKeys).2 with heldKeys := [] } buttons).1 = none := by
    unfold allKeysUp at ok
    simp only at ok
    split at ok
    · cases ok
    · assumption
  obtain ⟨none, buttonsSent⟩ := releaseButtons_succeed (by decide) silent
  simp only [heldButtons_releaseKeys] at buttonsSent
  exact ((releaseKeys_succeed none).2 buttonsSent).arriving

end Loops

/-! ### Runs -/

section Runs

variable {w : WindowsInjector} {input : WindowsInput} {target : WindowsHeld} {c : InjectorCall}

/-- Sends that touch no key keep what is covered. -/
theorem Covered.still (covered : w.Covered) (still : input.touch = none) :
    (w.sendInputs input).2.Covered := by
  have held : (w.sendInputs input).2.device.held = w.device.held := by
    rw [held_sendInputs]
    simp [Device.apply, still]
  intro target inside
  rw [held] at inside
  exact covered target inside

/-- A press that is recorded keeps what is covered. -/
theorem Covered.press (covered : w.Covered) (touched : input.touch = some (target, true))
    (recorded : w.Records target) : (w.sendInputs input).2.Covered := by
  intro other inside
  rw [held_sendInputs] at inside
  split at inside
  · exact covered other inside
  · simp only [Device.apply, touched, Finset.mem_insert] at inside
    rcases inside with rfl | inside
    · exact recorded
    · exact covered other inside

/-- So does a release that arrives, when the others stay recorded. -/
theorem Covered.release (touched : input.touch = some (target, false))
    (arriving : Arriving [target] w.device)
    (others : ∀ other ∈ w.device.held, other ≠ target → w.Records other) :
    (w.sendInputs input).2.Covered := by
  intro other inside
  rw [held_release touched arriving, Finset.mem_erase] at inside
  exact others other inside.2 inside.1

theorem Covered.inject_wheel (covered : w.Covered) {x y : UInt64} :
    (w.inject p (.pointerWheel x y)).2.Covered := by
  have vertical : (if isZero y then (Except.ok (), w)
      else w.sendInputs (.verticalWheel (p.wheelData y))).2.Covered := by
    split
    · exact covered
    · exact covered.still rfl
  unfold inject
  simp only
  split
  · exact vertical
  · split
    · exact vertical
    · exact vertical.still rfl

theorem Covered.inject_key (covered : w.Covered) {code : UInt16} {down : Bool}
    (arriving : down = false → Arriving (keyTargets [code]) w.device) :
    (w.inject p (.key code down)).2.Covered := by
  cases down with
  | true =>
    change (sendKey code true { w with heldKeys := Ordered.insertKey code w.heldKeys }).2.Covered
    have more : ∀ other, w.Records other →
        Records { w with heldKeys := Ordered.insertKey code w.heldKeys } other := by
      intro other recorded
      cases other with
      | key key =>
        obtain ⟨code', listed, mapped⟩ := recorded
        exact ⟨code', Ordered.mem_insertKey.mpr (.inr listed), mapped⟩
      | button button => exact recorded
    have kept : Covered { w with heldKeys := Ordered.insertKey code w.heldKeys } :=
      fun other inside => more other (covered other inside)
    unfold sendKey
    cases mapped : evdevToWindowsScancode code with
    | none => exact kept
    | some key =>
      have touched : (WindowsInput.key key true).touch = some (.key key, true) := rfl
      exact kept.press touched ⟨code, Ordered.mem_insertKey.mpr (.inl rfl), mapped⟩
  | false =>
    change (sendKey code false { w with heldKeys := Ordered.removeKey code w.heldKeys }).2.Covered
    have fewer : ∀ other, w.Records other → (∀ key, evdevToWindowsScancode code = some key →
        other ≠ .key key) →
        Records { w with heldKeys := Ordered.removeKey code w.heldKeys } other := by
      intro other recorded apart
      cases other with
      | key key =>
        obtain ⟨code', listed, mapped⟩ := recorded
        refine ⟨code', Ordered.mem_removeKey.mpr ⟨listed, ?_⟩, mapped⟩
        rintro rfl
        exact apart key mapped rfl
      | button button => exact recorded
    unfold sendKey
    cases mapped : evdevToWindowsScancode code with
    | none =>
      intro other inside
      exact fewer other (covered other inside) (by simp [mapped])
    | some key =>
      have arrives : Arriving [.key key] w.device := by
        simpa [keyTargets, mapped] using arriving rfl
      have touched : (WindowsInput.key key false).touch = some (.key key, false) := rfl
      refine Covered.release touched arrives fun other inside apart => ?_
      refine fewer other (covered other inside) fun key' mapped' => ?_
      rw [mapped] at mapped'
      cases mapped'
      exact apart

theorem Covered.inject_button (covered : w.Covered) {button : MouseButton} {down : Bool}
    (arriving : down = false → Arriving [.button button] w.device) :
    (w.inject p (.pointerButton button down)).2.Covered := by
  have records : ∀ other, other ≠ .button button → w.Records other →
      Records { w with heldButtons := Function.update w.heldButtons button down } other := by
    intro other apart recorded
    cases other with
    | key key => exact recorded
    | button which =>
      have other' : which ≠ button := fun same => apart (by rw [same])
      simpa [Records, Function.update_of_ne other'] using recorded
  cases down with
  | true =>
    have pressed : Records { w with heldButtons := Function.update w.heldButtons button true }
        (.button button) := by simp [Records]
    have touched : (WindowsInput.button button true).touch = some (.button button, true) := rfl
    refine Covered.press (fun other inside => ?_) touched pressed
    by_cases same : other = .button button
    · rw [same]
      exact pressed
    · exact records other same (covered other inside)
  | false =>
    have touched : (WindowsInput.button button false).touch = some (.button button, false) := rfl
    refine Covered.release touched (arriving rfl) ?_
    exact fun other inside apart => records other apart (covered other inside)

/-- A call whose releases arrive keeps everything held recorded. -/
theorem Covered.call (covered : w.Covered) (arrives : w.Arrives c) :
    (w.call p c).2.Covered := by
  obtain ⟨request, sends⟩ := c
  have ready : Covered { w with device := { w.device with outcomes := sends } } := covered
  have released : Arriving (keyTargets w.heldKeys ++ buttonTargets w.heldButtons buttons)
      { w.device with outcomes := sends } →
      Covered (allKeysUp { w with device := { w.device with outcomes := sends } }).2 := by
    intro arriving target inside
    rw [held_allKeysUp ready arriving] at inside
    exact absurd inside (Finset.notMem_empty target)
  cases request with
  | allKeysUp => exact released arrives
  | inject event =>
    cases event with
    | pointerMotion dx dy => exact ready.still rfl
    | pointerWheel x y => exact ready.inject_wheel
    | pointerButton button down =>
      refine ready.inject_button (p := p) ?_
      rintro rfl
      exact arrives
    | key code down =>
      refine ready.inject_key (p := p) ?_
      rintro rfl
      exact arrives
    | allKeysUp => exact released arrives

theorem Covered.of_run {from' : WindowsInjector} (covered : from'.Covered)
    (run : (machine p).Run Arrives from' w) : w.Covered := by
  refine run.invariant ?_ covered
  rintro s c t arrives executed covered
  cases executed
  exact covered.call arrives

end Runs

end WindowsInjector

/-! ## uinput -/

namespace UinputSender

def call (p : Rounding) (c : InjectorCall) (u : UinputSender) :
    Except UinputError Unit × UinputSender :=
  let ready := { u with device := { u.device with outcomes := c.sends } }
  match c.request with
  | .inject event => ready.inject p event
  | .allKeysUp => ready.allKeysUp p

def machine (p : Rounding) : Machine UinputSender InjectorCall where
  exec u c := some (u.call p c).2

/-- Everything held is recorded, as a key or as a button. -/
def Covered (u : UinputSender) : Prop :=
  ∀ code ∈ u.device.held, code ∈ u.pressedKeys ∨ code ∈ u.pressedButtons

variable {u : UinputSender} {events : List EvdevEvent} {code : UInt16} {down : Bool}

theorem emit_eq_ok : (u.emit events).1 = .ok () ↔ u.device.failsNext = false := by
  simp only [emit, Device.send_fst]
  cases u.device.failsNext <;> simp

theorem held_emitKey : (u.emitKey code down).2.device.held =
    if u.device.failsNext then u.device.held
    else if down then insert code u.device.held else u.device.held.erase code := by
  refine Device.held_send_one.trans ?_
  cases down <;> rfl

/-- Relative motion holds nothing down. -/
theorem Covered.emitRelative (covered : u.Covered) {x y : Int} {xAxis yAxis : RelativeAxisCode} :
    (u.emitRelative x y xAxis yAxis).2.Covered := by
  have still : ∀ event ∈ (if x ≠ 0 then [EvdevEvent.relative xAxis x] else []) ++
      (if y ≠ 0 then [EvdevEvent.relative yAxis y] else []), event.touch = none := by
    intro event listed
    rcases List.mem_append.mp listed with first | second
    · split at first
      · rw [List.mem_singleton.mp first]
        rfl
      · exact absurd first List.not_mem_nil
    · split at second
      · rw [List.mem_singleton.mp second]
        rfl
      · exact absurd second List.not_mem_nil
  unfold UinputSender.emitRelative
  generalize (if x ≠ 0 then [EvdevEvent.relative xAxis x] else []) ++
    (if y ≠ 0 then [EvdevEvent.relative yAxis y] else []) = events at still ⊢
  by_cases none : events.isEmpty = true
  · simp only [none, if_true]
    exact covered
  · simp only [none, if_false, Bool.false_eq_true]
    exact fun code inside => covered code (Device.held_send_still still inside)

/-- A key that is recorded only after it was sent stays covered. -/
theorem Covered.emitKey (covered : u.Covered) {keys buttons : List UInt16}
    (pressed : down = true → code ∈ keys ∨ code ∈ buttons)
    (others : ∀ other, other ≠ code → other ∈ u.pressedKeys ∨ other ∈ u.pressedButtons →
      other ∈ keys ∨ other ∈ buttons)
    (sent : (u.emitKey code down).1 = .ok ()) :
    Covered { (u.emitKey code down).2 with pressedKeys := keys, pressedButtons := buttons } := by
  intro other inside
  change other ∈ (u.emitKey code down).2.device.held at inside
  rw [held_emitKey, emit_eq_ok.mp sent] at inside
  cases down with
  | true =>
    rcases Finset.mem_insert.mp inside with rfl | held
    · exact pressed rfl
    · by_cases same : other = code
      · exact same ▸ pressed rfl
      · exact others other same (covered other held)
  | false =>
    obtain ⟨apart, held⟩ := Finset.mem_erase.mp inside
    exact others other apart (covered other held)

/-- A key whose send failed is held as before. -/
theorem Covered.emitKey_error (covered : u.Covered) {error : UinputError}
    (failed : (u.emitKey code down).1 = .error error) : (u.emitKey code down).2.Covered := by
  have fails : u.device.failsNext = true := by
    cases fails : u.device.failsNext with
    | true => rfl
    | false =>
      rw [show (u.emitKey code down).1 = .ok () from emit_eq_ok.mpr fails] at failed
      cases failed
  intro other inside
  rw [held_emitKey, fails] at inside
  exact covered other inside

/-- The release of all recorded keys fails with its send. -/
theorem releaseAll_error (pressed : u.pressedKeys ++ u.pressedButtons ≠ []) {error : UinputError}
    {after : UinputSender}
    (sent : UinputSender.emit
        ((u.pressedKeys ++ u.pressedButtons).map fun code => EvdevEvent.key code false)
        { u with motionRemainder := (0, 0), wheelRemainder := (0, 0) } = (.error error, after)) :
    u.releaseAll = (.error error, after) := by
  unfold UinputSender.releaseAll
  rw [if_neg (by rwa [List.isEmpty_map, List.isEmpty_iff]), sent]

/-- The release of all recorded keys records none once they are sent. -/
theorem releaseAll_ok (pressed : u.pressedKeys ++ u.pressedButtons ≠ []) {after : UinputSender}
    (sent : UinputSender.emit
        ((u.pressedKeys ++ u.pressedButtons).map fun code => EvdevEvent.key code false)
        { u with motionRemainder := (0, 0), wheelRemainder := (0, 0) } = (.ok (), after)) :
    u.releaseAll = (.ok (), { after with pressedKeys := [], pressedButtons := [] }) := by
  unfold UinputSender.releaseAll
  rw [if_neg (by rwa [List.isEmpty_map, List.isEmpty_iff]), sent]

/-- Releasing keeps everything held recorded, and leaves nothing held unless it fails. -/
theorem Covered.releaseAll (covered : u.Covered) :
    u.releaseAll.2.Covered ∧ (u.releaseAll.1 = .ok () → u.releaseAll.2.device.held = ∅) := by
  have releases : ∀ code, EvdevEvent.touch (.key code false) = some (code, false) := fun _ => rfl
  by_cases pressed : u.pressedKeys ++ u.pressedButtons = []
  · have idle : u.releaseAll =
        (.ok (), { u with motionRemainder := (0, 0), wheelRemainder := (0, 0) }) := by
      unfold UinputSender.releaseAll
      simp only [pressed, List.map_nil, List.isEmpty_nil, if_true]
    rw [idle]
    refine ⟨covered, fun _ => Finset.eq_empty_of_forall_notMem fun code inside => ?_⟩
    have recorded := List.mem_append.mpr (covered code inside)
    rw [pressed] at recorded
    exact absurd recorded List.not_mem_nil
  · cases sent : UinputSender.emit
        ((u.pressedKeys ++ u.pressedButtons).map fun code => EvdevEvent.key code false)
        { u with motionRemainder := (0, 0), wheelRemainder := (0, 0) } with
    | mk result after =>
      have same := congrArg Prod.snd sent
      have device : after.device =
          (u.device.send EvdevEvent.touch ((u.pressedKeys ++ u.pressedButtons).map
            fun code => EvdevEvent.key code false)).2 := (congrArg UinputSender.device same).symm
      cases result with
      | error error =>
        rw [releaseAll_error pressed sent]
        have keys : after.pressedKeys = u.pressedKeys :=
          (congrArg UinputSender.pressedKeys same).symm
        have buttons : after.pressedButtons = u.pressedButtons :=
          (congrArg UinputSender.pressedButtons same).symm
        refine ⟨fun code inside => ?_, nofun⟩
        rw [keys, buttons]
        change code ∈ after.device.held at inside
        rw [device] at inside
        refine covered code (Device.held_send_subset (fun event listed => ?_) inside)
        obtain ⟨released, -, rfl⟩ := List.mem_map.mp listed
        exact ⟨released, rfl⟩
      | ok done =>
        rw [releaseAll_ok pressed sent]
        have succeeds : u.device.failsNext = false := emit_eq_ok.mp (congrArg Prod.fst sent)
        have empty : after.device.held = ∅ := by
          refine Finset.eq_empty_of_forall_notMem fun code inside => ?_
          rw [device, Device.held_send_of_succeeds succeeds,
            Device.mem_foldl_release releases] at inside
          exact inside.2 (List.mem_append.mpr (covered code inside.1))
        refine ⟨fun code inside => ?_, fun _ => empty⟩
        change code ∈ after.device.held at inside
        rw [empty] at inside
        exact absurd inside (Finset.notMem_empty code)

/-- The set that `inject` leaves of the recorded keys or buttons. -/
theorem mem_recorded {keys : List UInt16} {other : UInt16} :
    other ∈ (if down then Ordered.insertKey code keys else Ordered.removeKey code keys) ↔
      if down then other = code ∨ other ∈ keys else other ∈ keys ∧ other ≠ code := by
  cases down <;> simp

theorem Covered.inject_button (covered : u.Covered) {button : MouseButton} :
    (u.inject p (.pointerButton button down)).2.Covered := by
  unfold UinputSender.inject
  simp only
  cases sent : u.emitKey (mouseButtonCode button) down with
  | mk result after =>
    have same := congrArg Prod.snd sent
    cases result with
    | error error =>
      have kept := covered.emitKey_error (congrArg Prod.fst sent)
      rwa [same] at kept
    | ok done =>
      have kept : Covered
          { (u.emitKey (mouseButtonCode button) down).2 with
            pressedKeys := u.pressedKeys
            pressedButtons :=
              if down then Ordered.insertKey (mouseButtonCode button) u.pressedButtons
              else Ordered.removeKey (mouseButtonCode button) u.pressedButtons } := by
        refine covered.emitKey ?_ ?_ (congrArg Prod.fst sent)
        · rintro rfl
          exact .inr (mem_recorded.mpr (.inl rfl))
        · intro other apart recorded
          refine recorded.imp_right fun listed => mem_recorded.mpr ?_
          cases down
          · exact ⟨listed, apart⟩
          · exact .inr listed
      subst same
      exact kept

theorem Covered.inject_key (covered : u.Covered) :
    (u.inject p (.key code down)).2.Covered := by
  unfold UinputSender.inject
  simp only
  by_cases unsupported : code > evdevKeyMax
  · rw [if_pos unsupported]
    exact covered
  rw [if_neg unsupported]
  cases sent : u.emitKey code down with
  | mk result after =>
    have same := congrArg Prod.snd sent
    cases result with
    | error error =>
      have kept := covered.emitKey_error (congrArg Prod.fst sent)
      rwa [same] at kept
    | ok done =>
      have kept : Covered
          { (u.emitKey code down).2 with
            pressedKeys :=
              if down then Ordered.insertKey code u.pressedKeys
              else Ordered.removeKey code u.pressedKeys
            pressedButtons := u.pressedButtons } := by
        refine covered.emitKey ?_ ?_ (congrArg Prod.fst sent)
        · rintro rfl
          exact .inl (mem_recorded.mpr (.inl rfl))
        · intro other apart recorded
          refine recorded.imp_left fun listed => mem_recorded.mpr ?_
          cases down
          · exact ⟨listed, apart⟩
          · exact .inr listed
      subst same
      exact kept

/-- Every call keeps everything held recorded, however its sends end. -/
theorem Covered.call {c : InjectorCall} (covered : u.Covered) : (u.call p c).2.Covered := by
  obtain ⟨request, sends⟩ := c
  have ready : Covered { u with device := { u.device with outcomes := sends } } := covered
  cases request with
  | allKeysUp => exact ready.releaseAll.1
  | inject event =>
    cases event with
    | pointerMotion dx dy =>
      have moved : Covered
          { u with
            device := { u.device with outcomes := sends }
            motionRemainder := (p.integralDelta u.motionRemainder dx dy).2 } := covered
      exact moved.emitRelative
    | pointerWheel x y =>
      have moved : Covered
          { u with
            device := { u.device with outcomes := sends }
            wheelRemainder := (p.integralDelta u.wheelRemainder x y).2 } := covered
      exact moved.emitRelative
    | allKeysUp => exact ready.releaseAll.1
    | pointerButton button down => exact ready.inject_button (p := p)
    | key code down => exact ready.inject_key (p := p)

theorem Covered.of_run {from' : UinputSender} (covered : from'.Covered)
    (run : (machine p).Run Machine.anyAction from' u) : u.Covered := by
  refine run.invariant ?_ covered
  rintro s c t - executed covered
  cases executed
  exact covered.call

end UinputSender

/-- A release of all keys that returns no error leaves nothing held: through uinput after every
    run, on Windows after every run in which no release of a held key or button failed. -/
theorem all_keys_up_leaves_none {w : WindowsInjector} {u : UinputSender}
    (windows : (WindowsInjector.machine p).Run WindowsInjector.Arrives {} w)
    (uinput : (UinputSender.machine p).Run Machine.anyAction {} u) :
    ((w.call p { request := .allKeysUp, sends }).1 = .ok () →
      (w.call p { request := .allKeysUp, sends }).2.device.held = ∅) ∧
    ((u.call p { request := .allKeysUp, sends }).1 = .ok () →
      (u.call p { request := .allKeysUp, sends }).2.device.held = ∅) := by
  constructor
  · intro ok
    have covered : w.Covered := WindowsInjector.Covered.of_run
      (fun target inside => absurd inside (Finset.notMem_empty target)) windows
    have ready : WindowsInjector.Covered
        { w with device := { w.device with outcomes := sends } } := covered
    exact WindowsInjector.held_allKeysUp ready (WindowsInjector.allKeysUp_ok ok)
  · intro ok
    have covered : u.Covered := UinputSender.Covered.of_run
      (fun target inside => absurd inside (Finset.notMem_empty target)) uinput
    have ready : UinputSender.Covered
        { u with device := { u.device with outcomes := sends } } := covered
    exact ready.releaseAll.2 ok

/-- An arithmetic for the runs below, which move nothing. -/
def sampleRounding : Rounding :=
  { roundedI32 := fun _ => 0, wheelData := fun _ => 0, integralDelta := fun r _ _ => ((0, 0), r) }

/-- A key goes down; both sends of a click fail. -/
def sampleCalls : List InjectorCall :=
  [{ request := .inject (.key 30 true) },
    { request := .inject (.pointerButton .left true), sends := [some 0] },
    { request := .inject (.pointerButton .left false), sends := [some 0] }]

theorem all_keys_up_leaves_none_sample :
    let w := (WindowsInjector.machine sampleRounding).reach {} sampleCalls
    let u := (UinputSender.machine sampleRounding).reach {} sampleCalls
    ((w.call sampleRounding { request := .allKeysUp }).1 = .ok () →
      (w.call sampleRounding { request := .allKeysUp }).2.device.held = ∅) ∧
    ((u.call sampleRounding { request := .allKeysUp }).1 = .ok () →
      (u.call sampleRounding { request := .allKeysUp }).2.device.held = ∅) :=
  all_keys_up_leaves_none
    (Machine.run_reach_of_allowedList (fun w c => decide (w.Arrives c))
      (fun _ _ arrives => of_decide_eq_true arrives) sampleCalls (by decide +kernel)
      (by decide +kernel))
    (Machine.run_reach sampleCalls (by decide +kernel))

/-- On Windows a key whose release failed stays down, and no later release finds it. -/
theorem failed_release_sticks :
    ¬ ∀ (p : Rounding) (w : WindowsInjector) (sends : List (Option Nat)),
      (WindowsInjector.machine p).Run Machine.anyAction {} w →
      (w.call p { request := .allKeysUp, sends }).1 = .ok () →
      (w.call p { request := .allKeysUp, sends }).2.device.held = ∅ := by
  intro released
  have empty := released sampleRounding _ [] (Machine.run_reach
    [{ request := .inject (.key 30 true) },
      { request := .inject (.key 30 false), sends := [some 0] }] (by decide +kernel))
    (by decide +kernel)
  revert empty
  decide +kernel

end EdgeKvm.Input
