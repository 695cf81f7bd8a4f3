import EdgeKvm.Input.Injectors
import EdgeKvm.Lib.Handler

/-!
# Modifiers of the virtual keyboard

`crates/edge-linux-input/src/wayland_virtual_input.rs`: the requests that an input frame becomes on
the Wayland connection, and the counters behind the modifier mask. The mask is compared with the
keys that are recorded as held. The time, the arithmetic on fractions and the answers of the
connection are parameters.
-/

namespace EdgeKvm.Input

open EdgeKvm.Lib EdgeKvm.Session Handler

/-- The four modifiers that are counted. -/
inductive ModifierClass where
  | shift
  | control
  | alt
  | logo
  deriving DecidableEq, Repr

/-- The match of `ModifierState::update`. -/
def modifierClass (evdevCode : UInt16) : Option ModifierClass :=
  if evdevCode = 42 ∨ evdevCode = 54 then some .shift
  else if evdevCode = 29 ∨ evdevCode = 97 then some .control
  else if evdevCode = 56 ∨ evdevCode = 100 then some .alt
  else if evdevCode = 125 ∨ evdevCode = 126 then some .logo
  else none

/-- `ModifierState`. -/
structure ModifierState where
  shift : UInt8 := 0
  control : UInt8 := 0
  alt : UInt8 := 0
  logo : UInt8 := 0
  capsLock : Bool := false
  deriving DecidableEq, Repr

namespace ModifierState

/-- `saturating_add(1)`. -/
def saturatingSucc (count : UInt8) : UInt8 := if count = 255 then 255 else count + 1

/-- `saturating_sub(1)`. -/
def saturatingPred (count : UInt8) : UInt8 := if count = 0 then 0 else count - 1

def counter (m : ModifierState) : ModifierClass → UInt8
  | .shift => m.shift
  | .control => m.control
  | .alt => m.alt
  | .logo => m.logo

def setCounter (m : ModifierState) (count : UInt8) : ModifierClass → ModifierState
  | .shift => { m with shift := count }
  | .control => { m with control := count }
  | .alt => { m with alt := count }
  | .logo => { m with logo := count }

/-- `ModifierState::update`. -/
def update (evdevCode : UInt16) (down wasPressed : Bool) (m : ModifierState) :
    Bool × ModifierState :=
  if evdevCode = 58 then
    if down && !wasPressed then (true, { m with capsLock := !m.capsLock }) else (false, m)
  else if down && wasPressed then (false, m)
  else
    match modifierClass evdevCode with
    | none => (false, m)
    | some which =>
      let previous := m.counter which
      let next := if down then saturatingSucc previous else saturatingPred previous
      (decide (previous > 0) != decide (next > 0), m.setCounter next which)

/-- The mask of the modifiers that are on. -/
def maskOf (on : ModifierClass → Bool) : UInt32 :=
  let bit (which : ModifierClass) (shift : UInt32) : UInt32 := if on which then 1 <<< shift else 0
  bit .shift 0 ||| bit .control 2 ||| bit .alt 3 ||| bit .logo 6

/-- `ModifierState::depressed`. -/
def depressed (m : ModifierState) : UInt32 := maskOf fun which => m.counter which > 0

/-- `ModifierState::clear_depressed`. -/
def clearDepressed (m : ModifierState) : Bool × ModifierState :=
  (m.depressed != 0, { m with shift := 0, control := 0, alt := 0, logo := 0 })

/-- `ModifierState::locked`. -/
def locked (m : ModifierState) : UInt32 := if m.capsLock then (1 : UInt32) <<< 1 else 0

end ModifierState

/-! ## The virtual input -/

/-- The arithmetic on wheel fractions, on the bits of `f64`. -/
structure WheelArithmetic where
  axisValue : UInt64 → UInt64
  rounded : UInt64 → Int
  negatedAxisValue : UInt64 → UInt64
  negatedSign : UInt64 → Int

/-- The requests on the virtual pointer and keyboard. -/
inductive WaylandRequest where
  | motion (timeMs : UInt32) (dx dy : UInt64)
  | button (timeMs : UInt32) (code : UInt32) (pressed : Bool)
  | axisSourceWheel
  | axisDiscrete (timeMs : UInt32) (vertical : Bool) (value : UInt64) (discrete : Int)
  | frame
  | key (timeMs : UInt32) (code : UInt32) (pressed : Bool)
  | modifiers (depressed latched locked group : UInt32)
  deriving DecidableEq, Repr

/-- `HyprlandVirtualInput`. -/
structure HyprlandVirtualInput where
  pressedKeys : List UInt16 := []
  pressedButtons : List UInt32 := []
  modifiers : ModifierState := {}
  deriving DecidableEq, Repr

/-- `linux_button_code`. -/
def linuxButtonCode : MouseButton → UInt32
  | .left => 0x110
  | .right => 0x111
  | .middle => 0x112
  | .back => 0x116
  | .forward => 0x115

/-- A call of `inject`, with its time and how the connection answers it. -/
structure HyprlandCall where
  event : InputEvent
  timeMs : UInt32 := 0
  dispatchFailed : Option String := none
  flushFailed : Option String := none
  deriving DecidableEq, Repr

namespace HyprlandVirtualInput

abbrev HyprlandM := Handler HyprlandVirtualInput WaylandRequest String

/-- Emits a request for each element. -/
def emitEach {α : Type} (request : α → WaylandRequest) : List α → HyprlandM Unit
  | [] => pure ()
  | first :: rest => do
    emit (request first)
    emitEach request rest

/-- `HyprlandVirtualInput::all_keys_up`. -/
def allKeysUp (timeMs : UInt32) : HyprlandM Unit := do
  let h ← read
  update fun h => { h with pressedKeys := [] }
  emitEach (fun key => .key timeMs key.toUInt32 false) h.pressedKeys
  let cleared := h.modifiers.clearDepressed
  update fun h => { h with modifiers := cleared.2 }
  if cleared.1 then emit (.modifiers 0 0 cleared.2.locked 0) else pure ()
  update fun h => { h with pressedButtons := [] }
  emitEach (fun button => .button timeMs button false) h.pressedButtons
  emit .frame

def pointerButton (timeMs : UInt32) (button : MouseButton) (down : Bool) : HyprlandM Unit := do
  let code := linuxButtonCode button
  emit (.button timeMs code down)
  emit .frame
  update fun h =>
    { h with
      pressedButtons :=
        if down then Ordered.insertKey code h.pressedButtons
        else Ordered.removeKey code h.pressedButtons }

def pointerWheel (a : WheelArithmetic) (timeMs : UInt32) (x y : UInt64) : HyprlandM Unit := do
  if isZero x then pure ()
  else
    emit .axisSourceWheel
    emit (.axisDiscrete timeMs false (a.axisValue x) (a.rounded x))
  if isZero y then pure ()
  else
    emit .axisSourceWheel
    emit (.axisDiscrete timeMs true (a.negatedAxisValue y) (a.negatedSign y))
  emit .frame

def key (timeMs : UInt32) (evdevCode : UInt16) (down : Bool) : HyprlandM Unit := do
  emit (.key timeMs evdevCode.toUInt32 down)
  let h ← read
  let wasPressed := decide (evdevCode ∈ h.pressedKeys)
  let updated := h.modifiers.update evdevCode down wasPressed
  update fun h =>
    { h with
      pressedKeys :=
        if down then Ordered.insertKey evdevCode h.pressedKeys
        else Ordered.removeKey evdevCode h.pressedKeys
      modifiers := updated.2 }
  if updated.1 then emit (.modifiers updated.2.depressed 0 updated.2.locked 0) else pure ()

/-- `HyprlandVirtualInput::inject`. -/
def inject (a : WheelArithmetic) (call : HyprlandCall) : HyprlandM Unit := do
  check call.dispatchFailed
  match call.event with
  | .pointerMotion dx dy =>
    emit (.motion call.timeMs dx dy)
    emit .frame
  | .pointerButton button down => pointerButton call.timeMs button down
  | .pointerWheel x y => pointerWheel a call.timeMs x y
  | .key evdevCode down => key call.timeMs evdevCode down
  | .allKeysUp => allKeysUp call.timeMs
  check call.flushFailed

/-- The backend takes one call after another, whatever they return. -/
def machine (a : WheelArithmetic) : Machine HyprlandVirtualInput HyprlandCall where
  exec h call := some (inject a call h).state

end HyprlandVirtualInput

/-! ## Counters and keys -/

namespace ModifierState

variable {m : ModifierState} {evdevCode : UInt16} {down wasPressed : Bool} {which : ModifierClass}

/-- The mask says which modifiers are on. -/
theorem maskOf_injective {first second : ModifierClass → Bool}
    (same : maskOf first = maskOf second) : first = second := by
  have decided : ∀ a b c d a' b' c' d' : Bool,
      maskOf (fun | .shift => a | .control => b | .alt => c | .logo => d) =
        maskOf (fun | .shift => a' | .control => b' | .alt => c' | .logo => d') →
      a = a' ∧ b = b' ∧ c = c' ∧ d = d' := by decide +kernel
  have parts := decided (first .shift) (first .control) (first .alt) (first .logo)
    (second .shift) (second .control) (second .alt) (second .logo) same
  funext which
  cases which
  · exact parts.1
  · exact parts.2.1
  · exact parts.2.2.1
  · exact parts.2.2.2

@[simp] theorem counter_setCounter {count : UInt8} {other : ModifierClass} :
    (m.setCounter count which).counter other = if other = which then count else m.counter other := by
  cases which <;> cases other <;> rfl

@[simp] theorem counter_clearDepressed : m.clearDepressed.2.counter which = 0 := by
  cases which <;> rfl

/-- What an update does to each counter. -/
theorem counter_update :
    (m.update evdevCode down wasPressed).2.counter which =
      if modifierClass evdevCode = some which ∧ ¬ (down = true ∧ wasPressed = true) then
        if down then saturatingSucc (m.counter which) else saturatingPred (m.counter which)
      else m.counter which := by
  unfold update
  by_cases caps : evdevCode = 58
  · subst caps
    have uncounted : ¬ (modifierClass 58 = some which ∧ ¬ (down = true ∧ wasPressed = true)) := by
      rintro ⟨classified, -⟩
      cases which <;> revert classified <;> decide
    rw [if_pos rfl, if_neg uncounted]
    split <;> cases which <;> rfl
  rw [if_neg caps]
  by_cases again : down = true ∧ wasPressed = true
  · rw [if_pos (by simpa using again), if_neg (fun counted => counted.2 again)]
  rw [if_neg (by simpa using again)]
  cases classified : modifierClass evdevCode with
  | none => simp
  | some other =>
    simp only [counter_setCounter]
    by_cases same : which = other
    · subst same
      simp [again]
    · simp [same, Ne.symm same]

theorem toNat_saturatingSucc {count : UInt8} (bound : count.toNat < 255) :
    (saturatingSucc count).toNat = count.toNat + 1 := by
  have notLast : count ≠ 255 := by
    rintro rfl
    exact absurd bound (by decide)
  rw [saturatingSucc, if_neg notLast, UInt8.toNat_add]
  exact Nat.mod_eq_of_lt (Nat.succ_lt_succ bound)

theorem toNat_saturatingPred {count : UInt8} :
    (saturatingPred count).toNat = count.toNat - 1 := by
  unfold saturatingPred
  split
  next zero => rw [zero]; rfl
  next positive =>
    have atLeast : 1 ≤ count.toNat :=
      Nat.one_le_iff_ne_zero.mpr fun zero => positive (UInt8.toNat_inj.mp zero)
    exact UInt8.toNat_sub_of_le _ _ (UInt8.le_iff_toNat_le.mpr atLeast)

end ModifierState

/-! ## What a run keeps -/

namespace HyprlandVirtualInput

open ModifierState

/-- A key of the modifier. -/
def inClass (which : ModifierClass) (key : UInt16) : Bool := modifierClass key = some which

/-- The mask of the modifiers with a key among `keys`. -/
def heldMask (keys : List UInt16) : UInt32 := maskOf fun which => keys.any (inClass which)

/-- The call releases no modifier key that is not recorded as held, unless no key of that
    modifier is. -/
def matched (h : HyprlandVirtualInput) (call : HyprlandCall) : Bool :=
  match call.dispatchFailed, call.event with
  | none, .key evdevCode false =>
    decide (evdevCode ∈ h.pressedKeys) || decide (modifierClass evdevCode = none) ||
      h.pressedKeys.all fun held => modifierClass held ≠ modifierClass evdevCode
  | _, _ => true

/-- The allowed calls of a run. -/
def Matched (h : HyprlandVirtualInput) (call : HyprlandCall) : Prop := h.matched call = true

/-- Each counter is the number of recorded keys of its modifier. -/
structure Counted (h : HyprlandVirtualInput) : Prop where
  distinct : h.pressedKeys.Nodup
  counts : ∀ which, (h.modifiers.counter which).toNat = h.pressedKeys.countP (inClass which)

variable {h : HyprlandVirtualInput} {a : WheelArithmetic} {call : HyprlandCall}
  {evdevCode : UInt16} {down : Bool} {timeMs : UInt32}

/-- The recorded keys and the modifiers after an event. -/
def boardAfter (h : HyprlandVirtualInput) : InputEvent → List UInt16 × ModifierState
  | .key evdevCode down =>
    (if down then Ordered.insertKey evdevCode h.pressedKeys
      else Ordered.removeKey evdevCode h.pressedKeys,
      (h.modifiers.update evdevCode down (decide (evdevCode ∈ h.pressedKeys))).2)
  | .allKeysUp => ([], h.modifiers.clearDepressed.2)
  | _ => (h.pressedKeys, h.modifiers)

theorem boardAfter_key : h.boardAfter (.key evdevCode down) =
    (if down then Ordered.insertKey evdevCode h.pressedKeys
      else Ordered.removeKey evdevCode h.pressedKeys,
      (h.modifiers.update evdevCode down (decide (evdevCode ∈ h.pressedKeys))).2) := rfl

theorem emitEach_still {α : Type} {request : α → WaylandRequest} {l : List α} :
    (emitEach request l).wp (fun result t _ => result = .ok () ∧ t = h) h := by
  induction l with
  | nil => exact ⟨rfl, rfl⟩
  | cons first rest ih =>
    unfold emitEach
    simp only [wp_bind, wp_emit]
    exact wp_mono (fun _ _ _ still => still) ih

theorem allKeysUp_board : (allKeysUp timeMs).wp (fun result t _ =>
    result = .ok () ∧ (t.pressedKeys, t.modifiers) = h.boardAfter .allKeysUp) h := by
  unfold allKeysUp
  simp only [wp_bind, wp_read, wp_update]
  refine wp_mono (fun result t _ still => ?_) emitEach_still
  obtain ⟨rfl, rfl⟩ := still
  simp only [wp_bind, wp_update, wp_ite, wp_emit]
  refine ⟨fun _ => ?_, fun _ => ?_⟩
  · refine wp_mono (fun result t _ still => ?_) emitEach_still
    obtain ⟨rfl, rfl⟩ := still
    exact ⟨trivial, rfl⟩
  · refine wp_mono (fun result t _ still => ?_) emitEach_still
    obtain ⟨rfl, rfl⟩ := still
    exact ⟨trivial, rfl⟩

theorem key_board : (key timeMs evdevCode down).wp (fun result t _ =>
    result = .ok () ∧ (t.pressedKeys, t.modifiers) = h.boardAfter (.key evdevCode down)) h := by
  unfold key
  simp only [wp_bind, wp_emit, wp_read, wp_update, wp_ite, wp_pure]
  exact ⟨fun _ => ⟨trivial, rfl⟩, fun _ => ⟨trivial, rfl⟩⟩

theorem pointerButton_board {button : MouseButton} : (pointerButton timeMs button down).wp
    (fun result t _ => result = .ok () ∧ (t.pressedKeys, t.modifiers) = (h.pressedKeys, h.modifiers))
    h := by
  unfold pointerButton
  simp only [wp_bind, wp_emit, wp_update]
  simp

theorem pointerWheel_board {x y : UInt64} : (pointerWheel a timeMs x y).wp
    (fun result t _ => result = .ok () ∧ (t.pressedKeys, t.modifiers) = (h.pressedKeys, h.modifiers))
    h := by
  unfold pointerWheel
  by_cases noX : isZero x = true
  · by_cases noY : isZero y = true <;>
      simp [noX, noY]
  · by_cases noY : isZero y = true <;>
      simp [noX, noY]

/-- Where a call leaves the recorded keys and the modifiers, whatever it returns. -/
theorem inject_board : ((inject a call h).state.pressedKeys, (inject a call h).state.modifiers) =
    if call.dispatchFailed = none then h.boardAfter call.event
    else (h.pressedKeys, h.modifiers) := by
  have flushed : ∀ {body : HyprlandM Unit} {board : List UInt16 × ModifierState},
      body.wp (fun result t _ => result = .ok () ∧ (t.pressedKeys, t.modifiers) = board) h →
      (body >>= fun _ => check call.flushFailed).wp
        (fun _ t _ => (t.pressedKeys, t.modifiers) = board) h := by
    intro body board ran
    rw [wp_bind]
    refine wp_mono (fun result t _ after => ?_) ran
    obtain ⟨rfl, same⟩ := after
    simp only [wp_check]
    exact ⟨fun _ => same, fun _ _ => same⟩
  change (inject a call).wp (fun _ t _ => (t.pressedKeys, t.modifiers) = _) h
  unfold inject
  rw [wp_bind, wp_check]
  refine ⟨fun dispatched => ?_, fun failure failed => ?_⟩
  · rw [if_pos dispatched]
    cases call.event with
    | pointerMotion dx dy =>
      have moved : (do
          emit (.motion call.timeMs dx dy)
          emit .frame : HyprlandM Unit).wp (fun result t _ =>
            result = .ok () ∧ (t.pressedKeys, t.modifiers) = (h.pressedKeys, h.modifiers)) h := by
        simp
      exact flushed moved
    | pointerButton button down => exact flushed pointerButton_board
    | pointerWheel x y => exact flushed pointerWheel_board
    | key evdevCode down => exact flushed key_board
    | allKeysUp => exact flushed allKeysUp_board
  · rw [if_neg (by simp [failed])]

/-- A modifier has two keys. -/
theorem countP_inClass_le {keys : List UInt16} {which : ModifierClass} (distinct : keys.Nodup) :
    keys.countP (inClass which) ≤ 2 := by
  have pair : ∃ first second, ∀ key, inClass which key = true → key ∈ [first, second] := by
    cases which
    · exact ⟨42, 54, fun key inside => by unfold inClass modifierClass at inside; grind⟩
    · exact ⟨29, 97, fun key inside => by unfold inClass modifierClass at inside; grind⟩
    · exact ⟨56, 100, fun key inside => by unfold inClass modifierClass at inside; grind⟩
    · exact ⟨125, 126, fun key inside => by unfold inClass modifierClass at inside; grind⟩
  obtain ⟨first, second, either⟩ := pair
  have subset : keys.filter (inClass which) ⊆ [first, second] := fun key listed =>
    either key (List.mem_filter.mp listed).2
  rw [List.countP_eq_length_filter]
  exact (List.subperm_of_subset (distinct.filter _) subset).length_le

/-- With another key of the modifier up, at most one is held. -/
theorem countP_inClass_lt {keys : List UInt16} {which : ModifierClass} (distinct : keys.Nodup)
    (absent : evdevCode ∉ keys) (classified : inClass which evdevCode = true) :
    keys.countP (inClass which) ≤ 1 := by
  have both : (Ordered.insertKey evdevCode keys).countP (inClass which) ≤ 2 :=
    countP_inClass_le (Ordered.nodup_insertKey distinct)
  rw [Ordered.countP_insertKey absent, if_pos classified] at both
  exact Nat.le_of_succ_le_succ both

theorem Counted.press_counts (counted : Counted h) (which : ModifierClass) :
    ((h.boardAfter (.key evdevCode true)).2.counter which).toNat =
      (h.boardAfter (.key evdevCode true)).1.countP (inClass which) := by
  simp only [boardAfter_key, if_true, counter_update]
  by_cases present : evdevCode ∈ h.pressedKeys
  · rw [if_neg (by simp [present]), Ordered.insertKey_of_mem present]
    exact counted.counts which
  rw [Ordered.countP_insertKey present]
  by_cases classified : modifierClass evdevCode = some which
  · have inside : inClass which evdevCode = true := decide_eq_true classified
    have few := countP_inClass_lt counted.distinct present inside
    have bound : (h.modifiers.counter which).toNat < 255 := by
      rw [counted.counts which]
      omega
    rw [if_pos (by simp [present, classified]), toNat_saturatingSucc bound,
      if_pos inside, counted.counts which]
  · have outside : ¬ inClass which evdevCode = true := by simpa [inClass] using classified
    rw [if_neg (by simp [classified]), if_neg outside]
    exact counted.counts which

theorem Counted.press (counted : Counted h) :
    (h.boardAfter (.key evdevCode true)).1.Nodup ∧ ∀ which,
      ((h.boardAfter (.key evdevCode true)).2.counter which).toNat =
        (h.boardAfter (.key evdevCode true)).1.countP (inClass which) :=
  ⟨Ordered.nodup_insertKey counted.distinct, counted.press_counts⟩

theorem Counted.release_counts (counted : Counted h) (which : ModifierClass) :
    ((h.boardAfter (.key evdevCode false)).2.counter which).toNat =
      if evdevCode ∉ h.pressedKeys ∧ modifierClass evdevCode = some which then
        (h.boardAfter (.key evdevCode false)).1.countP (inClass which) - 1
      else (h.boardAfter (.key evdevCode false)).1.countP (inClass which) := by
  simp only [boardAfter_key, counter_update, Bool.false_eq_true, false_and, not_false_eq_true, and_true,
    if_false]
  by_cases classified : modifierClass evdevCode = some which
  · have inside : inClass which evdevCode = true := decide_eq_true classified
    rw [if_pos classified, toNat_saturatingPred, counted.counts which]
    by_cases present : evdevCode ∈ h.pressedKeys
    · rw [if_neg (fun stray => stray.1 present),
        Ordered.countP_removeKey counted.distinct present, if_pos inside]
      rfl
    · rw [if_pos ⟨present, classified⟩, Ordered.removeKey_of_notMem present]
  · have outside : ¬ inClass which evdevCode = true := by simpa [inClass] using classified
    rw [if_neg classified, if_neg (fun stray => classified stray.2), counted.counts which]
    by_cases present : evdevCode ∈ h.pressedKeys
    · rw [Ordered.countP_removeKey counted.distinct present, if_neg outside]
      rfl
    · rw [Ordered.removeKey_of_notMem present]

theorem Counted.release (counted : Counted h) :
    (h.boardAfter (.key evdevCode false)).1.Nodup ∧ ∀ which,
      ((h.boardAfter (.key evdevCode false)).2.counter which).toNat =
        if evdevCode ∉ h.pressedKeys ∧ modifierClass evdevCode = some which then
          (h.boardAfter (.key evdevCode false)).1.countP (inClass which) - 1
        else (h.boardAfter (.key evdevCode false)).1.countP (inClass which) :=
  ⟨Ordered.nodup_removeKey counted.distinct, counted.release_counts⟩

/-- No key of the modifier is held when the held ones are of others. -/
theorem countP_inClass_eq_zero {keys : List UInt16} {which : ModifierClass}
    (classified : modifierClass evdevCode = some which)
    (apart : ∀ held ∈ keys, modifierClass held ≠ modifierClass evdevCode) :
    keys.countP (inClass which) = 0 := by
  refine List.countP_eq_zero.mpr fun held listed inside => apart held listed ?_
  exact (of_decide_eq_true inside).trans classified.symm

/-- The mask is that of the recorded keys exactly when every counter is positive exactly for a
    modifier with a recorded key. -/
theorem depressed_eq_heldMask {m : ModifierState} {keys : List UInt16} :
    m.depressed = heldMask keys ↔
      ∀ which, 0 < (m.counter which).toNat ↔ 0 < keys.countP (inClass which) := by
  have positive : ∀ which, decide (m.counter which > 0) = true ↔ 0 < (m.counter which).toNat :=
    fun which => by rw [decide_eq_true_iff]; exact UInt8.lt_iff_toNat_lt
  have held : ∀ which, keys.any (inClass which) = true ↔ 0 < keys.countP (inClass which) :=
    fun which => by rw [List.countP_pos_iff, List.any_eq_true]
  constructor
  · intro same which
    have agree := congrFun (maskOf_injective same) which
    rw [← positive which, ← held which, agree]
  · intro agree
    have same : (fun which => decide (m.counter which > 0)) = fun which => keys.any (inClass which) := by
      funext which
      rw [Bool.eq_iff_iff, positive which, held which]
      exact agree which
    rw [depressed, heldMask, same]

/-- The modifier mask is that of the keys recorded as held. -/
def Follows (h : HyprlandVirtualInput) : Prop := h.modifiers.depressed = heldMask h.pressedKeys

instance (h : HyprlandVirtualInput) : Decidable h.Follows := inferInstanceAs (Decidable (_ = _))

theorem Counted.follows (counted : Counted h) : h.Follows :=
  depressed_eq_heldMask.mpr fun which => by rw [counted.counts which]

theorem Counted.still {t : HyprlandVirtualInput} (counted : Counted h)
    (board : (t.pressedKeys, t.modifiers) = (h.pressedKeys, h.modifiers)) : Counted t := by
  obtain ⟨keys, modifiers⟩ := Prod.mk.inj board
  exact ⟨keys ▸ counted.distinct, fun which => by rw [keys, modifiers]; exact counted.counts which⟩

/-- A release that is not matched leaves a held key without its modifier. -/
theorem Counted.stray {t : HyprlandVirtualInput} {held : UInt16} {which : ModifierClass}
    (counted : Counted h) (board : (t.pressedKeys, t.modifiers) = h.boardAfter (.key evdevCode false))
    (absent : evdevCode ∉ h.pressedKeys) (listed : held ∈ h.pressedKeys)
    (heldClass : modifierClass held = some which)
    (classified : modifierClass evdevCode = some which) : ¬ t.Follows := by
  have keys : (h.boardAfter (.key evdevCode false)).1 = h.pressedKeys :=
    Ordered.removeKey_of_notMem absent
  have one : h.pressedKeys.countP (inClass which) = 1 := by
    have few : h.pressedKeys.countP (inClass which) ≤ 1 :=
      countP_inClass_lt counted.distinct absent (decide_eq_true classified)
    have some' : 0 < h.pressedKeys.countP (inClass which) :=
      List.countP_pos_iff.mpr ⟨held, listed, decide_eq_true heldClass⟩
    omega
  have zero := (@Counted.release h evdevCode counted).2 which
  rw [if_pos ⟨absent, classified⟩, keys, one] at zero
  have keysAfter : t.pressedKeys = h.pressedKeys := (congrArg Prod.fst board).trans keys
  have modifiersAfter : t.modifiers = (h.boardAfter (.key evdevCode false)).2 :=
    congrArg Prod.snd board
  intro follows
  have positive := (depressed_eq_heldMask.mp follows which).mpr
  rw [keysAfter, modifiersAfter, one, zero] at positive
  exact absurd (positive Nat.one_pos) (Nat.lt_irrefl 0)

/-- After counted keys, a call keeps the counts if it is matched, and else leaves a wrong mask. -/
theorem Counted.inject (counted : Counted h) :
    (Matched h call → Counted (inject a call h).state) ∧
      (¬ Matched h call → ¬ (HyprlandVirtualInput.inject a call h).state.Follows) := by
  have board := @inject_board h a call
  generalize (HyprlandVirtualInput.inject a call h).state = t at board
  unfold Matched matched
  cases dispatch : call.dispatchFailed with
  | some failure =>
    rw [if_neg (by simp [dispatch])] at board
    exact ⟨fun _ => counted.still board, fun unmatched => absurd rfl unmatched⟩
  | none =>
    rw [if_pos dispatch] at board
    cases event : call.event with
    | pointerMotion dx dy =>
      rw [event] at board
      exact ⟨fun _ => counted.still board, fun unmatched => absurd rfl unmatched⟩
    | pointerButton button down =>
      rw [event] at board
      exact ⟨fun _ => counted.still board, fun unmatched => absurd rfl unmatched⟩
    | pointerWheel x y =>
      rw [event] at board
      exact ⟨fun _ => counted.still board, fun unmatched => absurd rfl unmatched⟩
    | allKeysUp =>
      rw [event] at board
      obtain ⟨keys, modifiers⟩ := Prod.mk.inj board
      refine ⟨fun _ => ⟨keys ▸ List.nodup_nil, fun which => ?_⟩,
        fun unmatched => absurd rfl unmatched⟩
      rw [keys, modifiers, counter_clearDepressed]
      rfl
    | key evdevCode down =>
      rw [event] at board
      cases down with
      | true =>
        obtain ⟨keys, modifiers⟩ := Prod.mk.inj board
        obtain ⟨distinct, counts⟩ := @Counted.press h evdevCode counted
        refine ⟨fun _ => ⟨keys ▸ distinct, fun which => ?_⟩,
          fun unmatched => absurd rfl unmatched⟩
        rw [keys, modifiers]
        exact counts which
      | false =>
        constructor
        · intro matched
          obtain ⟨distinct, counts⟩ := @Counted.release h evdevCode counted
          obtain ⟨keys, modifiers⟩ := Prod.mk.inj board
          refine ⟨keys ▸ distinct, fun which => ?_⟩
          have count := counts which
          rw [keys, modifiers]
          split at count
          next stray =>
            have none : h.pressedKeys.countP (inClass which) = 0 := by
              refine countP_inClass_eq_zero stray.2 fun held listed => ?_
              simp only [stray.1, stray.2, decide_false, reduceCtorEq, Bool.false_or,
                List.all_eq_true, decide_eq_true_iff] at matched
              rw [stray.2]
              exact matched held listed
            have same : Ordered.removeKey evdevCode h.pressedKeys = h.pressedKeys :=
              Ordered.removeKey_of_notMem stray.1
            simp only [boardAfter_key, Bool.false_eq_true, if_false, same, none] at count ⊢
            exact count
          next => exact count
        · intro unmatched
          simp only [Bool.or_eq_true, decide_eq_true_iff, not_or, List.all_eq_true, not_forall,
            not_not] at unmatched
          obtain ⟨⟨absent, counted'⟩, held, listed, same⟩ := unmatched
          obtain ⟨which, classified⟩ := Option.ne_none_iff_exists'.mp counted'
          exact counted.stray board absent listed (same.trans classified) classified

theorem Counted.of_run {from' : HyprlandVirtualInput} (counted : Counted from')
    (run : (machine a).Run Matched from' h) : Counted h := by
  refine run.invariant ?_ counted
  rintro s call t matched executed counted
  cases executed
  exact counted.inject.1 matched

end HyprlandVirtualInput

/-- In every run of matched calls the mask follows the recorded keys and the counters count them,
    and the next call keeps the mask right exactly when it is matched. -/
theorem mask_follows_held {a : WheelArithmetic} {h : HyprlandVirtualInput}
    (run : (HyprlandVirtualInput.machine a).Run HyprlandVirtualInput.Matched {} h) :
    h.Follows ∧
      (∀ which, (h.modifiers.counter which).toNat =
        h.pressedKeys.countP (HyprlandVirtualInput.inClass which)) ∧
      ∀ call t, (HyprlandVirtualInput.machine a).exec h call = some t →
        (t.Follows ↔ HyprlandVirtualInput.Matched h call) := by
  have counted : HyprlandVirtualInput.Counted h :=
    HyprlandVirtualInput.Counted.of_run
      ⟨List.nodup_nil, fun which => by cases which <;> rfl⟩ run
  refine ⟨counted.follows, counted.counts, ?_⟩
  rintro call t executed
  cases executed
  constructor
  · intro follows
    by_contra unmatched
    exact counted.inject.2 unmatched follows
  · exact fun matched => (counted.inject.1 matched).follows

/-- No arithmetic on wheel fractions. -/
def sampleWheel : WheelArithmetic :=
  { axisValue := id, rounded := fun _ => 0, negatedAxisValue := id, negatedSign := fun _ => 0 }

theorem mask_follows_held_sample :
    let calls : List HyprlandCall :=
      [{ event := .key 29 true }, { event := .key 97 true }, { event := .key 29 true },
        { event := .key 29 false }, { event := .key 56 false }]
    let h := (HyprlandVirtualInput.machine sampleWheel).reach {} calls
    h.modifiers.depressed = 4 ∧ h.Follows := by
  intro calls h
  have follows := mask_follows_held
    (Machine.run_reach_of_allowedList HyprlandVirtualInput.matched (fun _ _ matched => matched) calls
      (by decide +kernel) (by decide +kernel) : (HyprlandVirtualInput.machine sampleWheel).Run _ {} h)
  exact ⟨by decide +kernel, follows.1⟩

/-- A key let go after a release of all keys takes the modifier of its held twin. -/
theorem stray_release_unmasks :
    ¬ ∀ (a : WheelArithmetic) (h : HyprlandVirtualInput),
      (HyprlandVirtualInput.machine a).Run Machine.anyAction {} h → h.Follows := by
  intro follows
  have wrong := follows sampleWheel _ (Machine.run_reach
    [{ event := .key 29 true }, { event := .allKeysUp }, { event := .key 97 true },
      { event := .key 29 false }] (by decide +kernel))
  revert wrong
  decide +kernel

end EdgeKvm.Input
