import EdgeKvm.Input.PortalCapture
import EdgeKvm.Lib.Log

/-!
# What a Linux capture never does

The compositor never keeps the input without somebody who gives it back: the lease watchdog runs
while capture may be enabled, activations are announced, keys come up, and the emergency chord is
made of the keys of one activation. The loop ensures it except in a few branches; `careful` says
which, and a run has the guarantees exactly if all its steps are careful.
-/

namespace EdgeKvm.Input

open EdgeKvm.Lib EdgeKvm.Session Handler Machine

/-! ## What the record says -/

namespace PortalEffect

/-- A key or a button goes down. -/
def presses : PortalEffect → Bool
  | .sent (.input (.key _ down)) | .sent (.input (.pointerButton _ down)) => down
  | _ => false

/-- `AllKeysUp`. -/
def releasesAll : PortalEffect → Bool
  | .sent (.input .allKeysUp) => true
  | _ => false

/-- An activation ends, or the worker. -/
def endsActivation : PortalEffect → Bool
  | .sent .deactivated | .sent .emergencyReleased | .sent (.layoutChanged _ _) | .ended => true
  | _ => false

/-- The activation is announced or released. -/
def answers (id : UInt32) : PortalEffect → Bool
  | .sent (.activated announced _ _) => announced = id
  | .called (.release released _) .done => released = id
  | _ => false

/-- Whether the compositor may have capture enabled: a call that timed out may have taken
    effect. -/
def enabledAfter (before : Bool) : PortalEffect → Bool
  | .called .enable .done | .called .enable .timedOut => true
  | .called .disable .done | .called .close .done => false
  | _ => before

/-- The keys pressed since the last activation was reported. -/
def keysAfter (before : List UInt16) : PortalEffect → List UInt16
  | .reported _ => []
  | .sent (.input (.key evdevCode true)) => evdevCode :: before
  | _ => before

end PortalEffect

/-- The compositor may still have capture enabled. -/
def mayCapture (history : List PortalEffect) : Bool :=
  history.foldl PortalEffect.enabledAfter false

/-- The keys pressed in the last activation. -/
def activationKeys (history : List PortalEffect) : List UInt16 :=
  history.foldl PortalEffect.keysAfter []

/-- Every activation that was reported is announced or released. -/
def Answered (history : List PortalEffect) : Prop :=
  After (fun effect rest => ∀ id, effect = .reported id → rest.any (·.answers id) = true) history

/-- After every press all keys come up before the activation or the worker ends. -/
def Closed (history : List PortalEffect) : Prop :=
  ClosedBefore PortalEffect.presses PortalEffect.releasesAll PortalEffect.endsActivation history

/-- All keys come up before an activation or the worker ends. -/
def Settled (effects : List PortalEffect) : Prop :=
  Precedes (PortalEffect.releasesAll · = true) (PortalEffect.endsActivation · = true) effects

/-- All keys come up. -/
def lifts (effects : List PortalEffect) : Bool := effects.any PortalEffect.releasesAll

/-- A key or button press has not been followed by `AllKeysUp` yet. -/
def pressed (history : List PortalEffect) : Bool :=
  leftOpen PortalEffect.presses PortalEffect.releasesAll history

/-- A `Disarm` or `Shutdown` of the owner is on its way to the worker. -/
def stopping (commands : List CaptureCommand) : Bool :=
  commands.any fun command => command = .disarm || command = .shutdown

namespace PortalCapture

/-- The worker runs and is not in the middle of a `Disarm` or `Shutdown`, which begin with the call
    of the owner. -/
def BetweenEvents (s : PortalCapture) : Prop :=
  s.finished = none ∧ stopping s.worker.commands = false

instance (s : PortalCapture) : Decidable s.BetweenEvents := inferInstanceAs (Decidable (_ ∧ _))

/-- When the owner stays silent until the deadline has passed, a lease tick closes the session. -/
def ClosesWhenSilent (a : PortalArithmetic) (s : PortalCapture) : Prop :=
  ∀ millis replies, s.worker.deadlineMillis ≤ s.worker.elapsedMillis + millis →
    ∃ t, (machine a).runList s [.elapse millis, .event .leaseTick replies] = some t ∧
      t.finished = some (.error PortalM.ownerSilent) ∧
      .called .disable replies.failsafe.disable ∈ t.history.drop s.history.length ∧
      .called .close replies.failsafe.close ∈ t.history.drop s.history.length

/-- Nothing keeps the input for good. -/
structure NeverTraps (a : PortalArithmetic) (s : PortalCapture) : Prop where
  watched : s.BetweenEvents → mayCapture s.history = true →
    s.worker.armed = true ∧ s.worker.deadlineMillis ≠ 0
  silent : s.BetweenEvents → mayCapture s.history = true → s.ClosesWhenSilent a
  answered : Answered s.history
  closed : Closed s.history
  counted : s.finished = none → ∀ key ∈ s.worker.inputState.pressedKeys,
    s.worker.activationId.isSome = true ∧ key ∈ activationKeys s.history

/-! ## Careful steps -/

/-- The commands that keep the guarantees: an `Arm` has to end with the capture enabled and leased,
    or certainly off, and no key is pressed when the activation or the worker ends. -/
def carefulCommand (s : PortalCapture) (reply : CallEnd) : Bool :=
  match s.worker.commands with
  | [] => true
  | .arm :: rest =>
    stopping rest || match reply with
      | .done => s.worker.deadlineMillis ≠ 0
      | .failed => !mayCapture s.history
      | .timedOut => false
  | .release _ :: _ | .disarm :: _ => reply ≠ .done || s.worker.inputState.pressedKeys = []
  | .shutdown :: _ => !pressed s.history

/-- An activation with an id comes from a known barrier, while no key is pressed. -/
def carefulActivation (s : PortalCapture) (signal : ActivatedSignal) : Bool :=
  signal.activationId = none ||
    ((signal.barrierId.bind (barrierMetadata s.worker.barriers)).isSome &&
      s.worker.inputState.pressedKeys = [])

/-- The stream fails only while nothing is pressed, and keys go down in an activation. -/
def carefulEis (s : PortalCapture) : Option (Except String EiEvent) → Bool
  | some (.error _) | some (.ok (.seatAdded (some _))) => !pressed s.history
  | some (.ok (.keyboardKey key true)) => key > 0xffff || s.worker.activationId.isSome
  | _ => true

/-- The steps that keep the guarantees. -/
def careful (s : PortalCapture) : PortalStep → Bool
  | .elapse _ | .owner _ => true
  | .event event replies =>
    match event with
    | .command => s.carefulCommand replies.call.ending
    | .activated signal => s.carefulActivation signal
    | .zonesChanged _ => replies.call.ending = .done || !pressed s.history
    | .eis event => s.carefulEis event
    | .ownerChanged _ | .leaseTick | .deactivated | .disabled | .closed => true

/-! ## The record along a run -/

end PortalCapture

section Record

variable {history more : List PortalEffect}

theorem mayCapture_append : mayCapture (history ++ more) =
    more.foldl PortalEffect.enabledAfter (mayCapture history) := List.foldl_append

theorem activationKeys_append : activationKeys (history ++ more) =
    more.foldl PortalEffect.keysAfter (activationKeys history) := List.foldl_append

theorem answered_append (answered : Answered history) :
    Answered (history ++ more) ↔ Answered more := by
  unfold Answered at *
  rw [after_append, and_iff_right_iff_imp]
  intro _ before effect rest split id same
  rw [List.any_append, answered before effect rest split id same, Bool.true_or]

theorem closed_append (closed : Closed history) : Closed (history ++ more) ↔ Closed more ∧
    (pressed history = true → Settled more) :=
  closedBefore_append.trans (and_iff_right closed)

end Record

namespace PortalCapture

/-- The guarantees, apart from what the lease adds. -/
structure Guarded (s : PortalCapture) : Prop where
  watched : s.BetweenEvents → mayCapture s.history = true →
    s.worker.armed = true ∧ s.worker.deadlineMillis ≠ 0
  answered : Answered s.history
  closed : Closed s.history
  counted : s.finished = none → ∀ key ∈ s.worker.inputState.pressedKeys,
    s.worker.activationId.isSome = true ∧ key ∈ activationKeys s.history

variable {s t : PortalCapture} {a : PortalArithmetic} {w : PortalWorker}
  {output : List PortalEffect}

/-- The calls of `tearDown`. -/
def tearDownCalls (replies : TeardownReplies) (activationId : Option UInt32) :
    List PortalEffect :=
  (activationId.map fun id => .called (.release id none) replies.release).toList ++
    [.called .disable replies.disable, .called .close replies.close]

theorem tearDown_spec {replies : TeardownReplies}
    {Q : Except (Except String Unit) Unit → PortalWorker → List PortalEffect → Prop} :
    (tearDown replies).wp Q w ↔
      Q (.ok ()) { w with activationId := none } (tearDownCalls replies w.activationId) := by
  unfold tearDown
  cases active : w.activationId with
  | none =>
    have same : { w with activationId := none } = w := by rw [← active]
    simp [active, same, tearDownCalls]
  | some id => simp [active, tearDownCalls]

/-- It says nothing of reported activations and of keys. -/
def Quiet (effect : PortalEffect) : Prop :=
  effect.presses = false ∧ effect.releasesAll = false ∧ ∀ id, effect ≠ .reported id

section Quiet

variable {history more : List PortalEffect}

theorem answered_of_quiet (quiet : ∀ e ∈ more, Quiet e) : Answered more := by
  refine after_of_forall ?_
  rintro e found rest id rfl
  exact absurd rfl ((quiet _ found).2.2 id)

theorem closed_of_quiet (quiet : ∀ e ∈ more, Quiet e) : Closed more := by
  refine after_of_forall ?_
  intro e found rest presses
  rw [(quiet e found).1] at presses
  cases presses

/-- The end of the worker, among what is quiet, wants all keys up before it. -/
theorem precedes_of_quiet (quiet : ∀ e ∈ more, Quiet e) (ends : .ended ∈ more) :
    ¬ Settled more := by
  intro ordered
  refine ordered.none ?_ _ ends rfl
  intro e found
  rw [(quiet e found).2.1]
  decide

end Quiet

/-- What the worker does behind the loop. -/
def lastEffects (w : PortalWorker) (outcome : Except String Unit) (shutdown : TeardownReplies) :
    List PortalEffect :=
  (if w.portalOwnerValid then tearDownCalls shutdown w.activationId else []) ++ farewell outcome

theorem lastEffects_quiet {outcome : Except String Unit} {shutdown : TeardownReplies} :
    ∀ e ∈ lastEffects w outcome shutdown, Quiet e := by
  unfold lastEffects
  cases w.portalOwnerValid <;> cases w.activationId <;> cases outcome <;>
    simp [tearDownCalls, farewell, Quiet, PortalEffect.presses, PortalEffect.releasesAll]

theorem ended_mem_lastEffects {outcome : Except String Unit} {shutdown : TeardownReplies} :
    .ended ∈ lastEffects w outcome shutdown := by
  cases outcome <;> simp [lastEffects, farewell]

theorem finish_history {turn : Turn PortalWorker PortalEffect (Except String Unit) Unit}
    {outcome : Except String Unit} {shutdown : TeardownReplies} :
    (s.finish turn outcome shutdown).history =
      s.history ++ turn.output ++ lastEffects turn.state outcome shutdown := by
  unfold finish lastEffects
  by_cases valid : turn.state.portalOwnerValid = true
  · have calls : (tearDown shutdown).wp (fun _ _ output =>
        output = tearDownCalls shutdown turn.state.activationId) turn.state :=
      tearDown_spec.mpr rfl
    simp only [valid, if_true]
    rw [show (tearDown shutdown turn.state).output = _ from calls, List.append_assoc]
  · simp [valid]
    rfl

/-- What a branch may do in `s`: how it ends, the variables it leaves, and what it does. -/
def Goes (s : PortalCapture) (shutdown : TeardownReplies)
    (result : Except (Except String Unit) Unit) (w : PortalWorker) (output : List PortalEffect) :
    Prop :=
  Closed output ∧
    (pressed s.history = true → Settled output) ∧
    match result with
    | .ok () => Answered output ∧
      (stopping w.commands = false →
        output.foldl PortalEffect.enabledAfter (mayCapture s.history) = true →
          w.armed = true ∧ w.deadlineMillis ≠ 0) ∧
      ∀ key ∈ w.inputState.pressedKeys, w.activationId.isSome = true ∧
        key ∈ output.foldl PortalEffect.keysAfter (activationKeys s.history)
    | .error outcome => Answered (output ++ lastEffects w outcome shutdown) ∧
      pressed (s.history ++ output) = false

theorem guarded_running (holds : s.Guarded) (running : s.finished = none)
    (shutdown : TeardownReplies) :
    Guarded { s with worker := w, history := s.history ++ output } ↔
      s.Goes shutdown (.ok ()) w output := by
  constructor
  · intro after
    obtain ⟨own, before⟩ := (closed_append holds.closed).mp after.closed
    refine ⟨own, before, (answered_append holds.answered).mp after.answered, ?_, ?_⟩
    · intro free enabled
      exact after.watched ⟨running, free⟩ (by rwa [mayCapture_append])
    · intro key found
      rw [← activationKeys_append]
      exact after.counted running key found
  · rintro ⟨own, before, answered, watched, counted⟩
    refine ⟨?_, (answered_append holds.answered).mpr answered,
      (closed_append holds.closed).mpr ⟨own, before⟩, ?_⟩
    · rintro ⟨-, free⟩ enabled
      exact watched free (by rwa [← mayCapture_append])
    · intro _ key found
      rw [activationKeys_append]
      exact counted key found

theorem guarded_finish (holds : s.Guarded)
    {turn : Turn PortalWorker PortalEffect (Except String Unit) Unit}
    {outcome : Except String Unit} {shutdown : TeardownReplies} :
    Guarded (s.finish turn outcome shutdown) ↔
      s.Goes shutdown (.error outcome) turn.state turn.output := by
  have quiet := @lastEffects_quiet turn.state outcome shutdown
  have stuck := precedes_of_quiet quiet ended_mem_lastEffects
  have ended : (s.finish turn outcome shutdown).finished ≠ none := by simp [finish]
  constructor
  · rintro ⟨-, answered, closed, -⟩
    rw [finish_history] at answered closed
    rw [List.append_assoc, answered_append holds.answered] at answered
    obtain ⟨both, -, last⟩ := closedBefore_append.mp closed
    obtain ⟨own, before⟩ := (closed_append holds.closed).mp both
    refine ⟨own, before, answered, ?_⟩
    rw [← Bool.not_eq_true]
    exact fun left => stuck (last left)
  · rintro ⟨own, before, answered, up⟩
    refine ⟨fun between => absurd between.1 ended, ?_, ?_, fun running => absurd running ended⟩
    · rw [finish_history, List.append_assoc, answered_append holds.answered]
      exact answered
    · rw [finish_history]
      refine closedBefore_append.mpr
        ⟨(closed_append holds.closed).mpr ⟨own, before⟩, closed_of_quiet quiet, fun left => ?_⟩
      rw [show leftOpen _ _ _ = false from up] at left
      cases left

theorem guarded_event (holds : s.Guarded) {event : PortalEvent} {replies : PortalReplies}
    (executed : exec a s (.event event replies) = some t) :
    Guarded t ↔ (PortalM.handle a replies event).wp (s.Goes replies.shutdown) s.worker := by
  have running : s.finished = none := by
    by_contra finished
    simp [exec, Option.isSome_iff_ne_none.mpr finished] at executed
  simp only [exec, running, Option.isSome_none, Bool.false_eq_true, if_false] at executed
  split at executed
  · rename_i done
    cases executed
    rw [← running, guarded_running holds running replies.shutdown, ← done]
    exact Iff.rfl
  · rename_i outcome left
    cases executed
    rw [guarded_finish holds, ← left]
    exact Iff.rfl

section Effects

attribute [local simp] PortalWorker.clearInput PortalWorker.clearLease CaptureInputState.clear
  PortalEffect.presses PortalEffect.releasesAll PortalEffect.answers
  PortalEffect.enabledAfter PortalEffect.keysAfter

variable {effect : PortalEffect} {more : List PortalEffect}

@[local simp] theorem endsActivation_ends : (PortalEffect.sent .deactivated).endsActivation = true ∧
    (PortalEffect.sent .emergencyReleased).endsActivation = true ∧
    (∀ a b, (PortalEffect.sent (.layoutChanged a b)).endsActivation = true) ∧
    PortalEffect.ended.endsActivation = true :=
  ⟨rfl, rfl, fun _ _ => rfl, rfl⟩

@[local simp] theorem endsActivation_goesOn :
    (∀ call e, (PortalEffect.called call e).endsActivation = false) ∧
    (∀ result, (PortalEffect.answered result).endsActivation = false) ∧
    (∀ id, (PortalEffect.reported id).endsActivation = false) ∧
    (∀ id edge p, (PortalEffect.sent (.activated id edge p)).endsActivation = false) ∧
    (∀ event, (PortalEffect.sent (.input event)).endsActivation = false) ∧
    ∀ detail, (PortalEffect.sent (.backendFailed detail)).endsActivation = false :=
  ⟨fun _ _ => rfl, fun _ => rfl, fun _ => rfl, fun _ _ _ => rfl, fun _ => rfl, fun _ => rfl⟩

@[simp] theorem settled_nil : Settled [] := precedes_nil

@[simp] theorem settled_cons : Settled (effect :: more) ↔
    effect.endsActivation = false ∧ (effect.releasesAll = true ∨ Settled more) := by
  rw [Settled, precedes_cons, Bool.not_eq_true]
  exact Iff.rfl

@[simp] theorem lifts_nil : lifts [] = false := rfl

@[simp] theorem lifts_cons : lifts (effect :: more) = (effect.releasesAll || lifts more) := rfl

@[simp] theorem lifts_append {history : List PortalEffect} :
    lifts (history ++ more) = (lifts history || lifts more) := List.any_append

@[simp] theorem answered_nil : Answered [] := after_nil

@[simp] theorem answered_cons : Answered (effect :: more) ↔
    (∀ id, effect = .reported id → more.any (·.answers id) = true) ∧ Answered more := after_cons

@[simp] theorem answered_lastEffects {outcome : Except String Unit} {shutdown : TeardownReplies} :
    Answered (lastEffects w outcome shutdown) := answered_of_quiet lastEffects_quiet

@[simp] theorem closed_nil : Closed [] := closedBefore_nil

@[simp] theorem closed_cons : Closed (effect :: more) ↔
    (effect.presses = true → Settled more) ∧ Closed more := closedBefore_cons

@[simp] theorem pressed_nil : pressed [] = false := rfl

@[simp] theorem pressed_cons : pressed (effect :: more) =
    (pressed more || (effect.presses && !lifts more)) := leftOpen_cons

@[simp] theorem pressed_append {history : List PortalEffect} : pressed (history ++ more) =
    (pressed more || (pressed history && !lifts more)) := leftOpen_append

section TearDown

variable {replies : TeardownReplies} {activationId : Option UInt32}

@[simp] theorem answered_tearDownCalls :
    Answered (tearDownCalls replies activationId ++ more) ↔ Answered more := by
  cases activationId <;> simp [tearDownCalls]

@[simp] theorem closed_tearDownCalls :
    Closed (tearDownCalls replies activationId ++ more) ↔ Closed more := by
  cases activationId <;> simp [tearDownCalls]

@[simp] theorem pressed_tearDownCalls : pressed (tearDownCalls replies activationId) = false := by
  cases activationId <;> simp [tearDownCalls]

@[simp] theorem lifts_tearDownCalls : lifts (tearDownCalls replies activationId) = false := by
  cases activationId <;> simp [tearDownCalls]

end TearDown

section Branches

variable {shutdown failsafe : TeardownReplies} {reply : CallReply Unit}

/-- Nothing happens. -/
theorem Guarded.idle (holds : s.Guarded) (running : s.finished = none) :
    (stopping s.worker.commands = false → mayCapture s.history = true →
      s.worker.armed = true ∧ ¬ s.worker.deadlineMillis = 0) ∧
    ∀ key ∈ s.worker.inputState.pressedKeys,
      s.worker.activationId.isSome = true ∧ key ∈ activationKeys s.history :=
  ⟨fun free enabled => holds.watched ⟨running, free⟩ enabled, holds.counted running⟩

theorem releaseKeys_goes {Q : Except (Except String Unit) Unit → PortalWorker →
    List PortalEffect → Prop} : releaseKeys.wp Q w ↔
      Q (.ok ()) w.clearInput [.sent (.input .allKeysUp)] := by
  simp [releaseKeys]

theorem deactivated_goes (holds : s.Guarded) (running : s.finished = none) :
    PortalM.deactivated.wp (s.Goes shutdown) s.worker := by
  simpa [PortalM.deactivated, releaseKeys_goes, Goes] using (holds.idle running).1

theorem closed_goes : PortalM.closed.wp (s.Goes shutdown) s.worker := by
  simp [PortalM.closed, releaseKeys_goes, Goes]

theorem ownerChanged_goes (holds : s.Guarded) (running : s.finished = none)
    {change : OwnerChange} : (PortalM.ownerChanged change).wp (s.Goes shutdown) s.worker := by
  simp [PortalM.ownerChanged, releaseKeys_goes, Goes]
  exact fun _ => holds.idle running

theorem leaseTick_goes (holds : s.Guarded) (running : s.finished = none) :
    (PortalM.leaseTick failsafe).wp (s.Goes shutdown) s.worker := by
  simp [PortalM.leaseTick, releaseKeys_goes, tearDown_spec, Goes]
  exact fun _ => holds.idle running

theorem activated_goes (holds : s.Guarded) (running : s.finished = none)
    {signal : ActivatedSignal} : (PortalM.activated a signal).wp (s.Goes shutdown) s.worker ↔
      s.carefulActivation signal = true := by
  have idle := holds.idle running
  cases named : signal.activationId with
  | none =>
    simp [PortalM.activated, named, Goes, carefulActivation]
    exact idle
  | some id =>
    cases known : signal.barrierId.bind (barrierMetadata s.worker.barriers) with
    | none => simp [PortalM.activated, named, known, Goes, carefulActivation]
    | some metadata =>
      simp [PortalM.activated, named, known, Goes, carefulActivation,
        List.eq_nil_iff_forall_not_mem]
      exact fun _ => idle.1

section Commands

variable {rest : List CaptureCommand}

@[simp] theorem stopping_nil : stopping [] = false := rfl

@[simp] theorem stopping_arm : stopping (.arm :: rest) = stopping rest := by simp [stopping]

@[simp] theorem stopping_release {cursorPosition : Option (UInt64 × UInt64)} :
    stopping (.release cursorPosition :: rest) = stopping rest := by simp [stopping]

theorem arm_goes (holds : s.Guarded) (running : s.finished = none)
    (waiting : s.worker.commands = .arm :: rest) :
    (PortalM.arm reply).wp (s.Goes shutdown) { s.worker with commands := rest } ↔
      s.carefulCommand reply.ending = true := by
  obtain ⟨-, counted⟩ := holds.idle running
  cases reply with
  | done value =>
    simp [PortalM.arm, callPortal, waiting, Goes, carefulCommand, portalCommand, CallReply.ending,
      Except.isOk, Except.toBool, or_iff_not_imp_left]
    exact fun _ => counted
  | failed error =>
    simp [PortalM.arm, callPortal, waiting, Goes, carefulCommand, portalCommand, CallReply.ending,
      Except.isOk, Except.toBool, or_iff_not_imp_left]
    exact fun _ => counted
  | timedOut =>
    simp [PortalM.arm, callPortal, waiting, Goes, carefulCommand, portalCommand, CallReply.ending,
      Except.isOk, Except.toBool]
    exact fun _ => counted

theorem release_goes (holds : s.Guarded) (running : s.finished = none)
    {cursorPosition : Option (UInt64 × UInt64)}
    (waiting : s.worker.commands = .release cursorPosition :: rest) :
    (PortalM.release cursorPosition reply).wp (s.Goes shutdown) { s.worker with commands := rest } ↔
      s.carefulCommand reply.ending = true := by
  obtain ⟨watched, counted⟩ := holds.idle running
  rw [waiting, stopping_release] at watched
  cases active : s.worker.activationId with
  | none =>
    have free : s.worker.inputState.pressedKeys = [] := by
      simpa [active, List.eq_nil_iff_forall_not_mem] using counted
    simp [PortalM.release, active, waiting, Goes, carefulCommand, free]
    exact watched
  | some id =>
    have counted : ∀ key ∈ s.worker.inputState.pressedKeys, key ∈ activationKeys s.history :=
      fun key found => (counted key found).2
    cases reply with
    | done value =>
      simp [PortalM.release, active, callPortal, waiting, Goes, carefulCommand, portalCommand,
        CallReply.ending, Except.isOk, Except.toBool, List.eq_nil_iff_forall_not_mem]
      exact fun _ => watched
    | failed error =>
      simp [PortalM.release, active, callPortal, waiting, Goes, carefulCommand, portalCommand,
        CallReply.ending, Except.isOk, Except.toBool]
      exact ⟨watched, counted⟩
    | timedOut =>
      simp [PortalM.release, active, callPortal, waiting, Goes, carefulCommand, portalCommand,
        CallReply.ending, Except.isOk, Except.toBool]
      exact ⟨watched, counted⟩

theorem disarm_goes (waiting : s.worker.commands = .disarm :: rest) :
    (PortalM.disarm reply failsafe).wp (s.Goes shutdown) { s.worker with commands := rest } ↔
      s.carefulCommand reply.ending = true := by
  cases reply with
  | done =>
    simp [PortalM.disarm, callPortal, waiting, Goes, carefulCommand, portalCommand,
      CallReply.ending, List.eq_nil_iff_forall_not_mem]
  | failed error =>
    simp [PortalM.disarm, callPortal, waiting, Goes, carefulCommand, portalCommand,
      CallReply.ending, tearDown_spec, releaseKeys_goes]
  | timedOut =>
    simp [PortalM.disarm, callPortal, waiting, Goes, carefulCommand, portalCommand,
      CallReply.ending, tearDown_spec, releaseKeys_goes]

theorem command_goes (holds : s.Guarded) (running : s.finished = none) {replies : PortalReplies} :
    (PortalM.command replies).wp (s.Goes shutdown) s.worker ↔
      s.carefulCommand replies.call.ending = true := by
  cases waiting : s.worker.commands with
  | nil =>
    have idle := holds.idle running
    rw [waiting, stopping_nil] at idle
    simpa [PortalM.command, waiting, Goes, carefulCommand] using idle
  | cons command rest =>
    unfold PortalM.command
    rw [Handler.wp_read_bind]
    simp only [waiting, wp_bind, wp_update]
    cases command with
    | arm => exact arm_goes holds running waiting
    | release cursorPosition => exact release_goes holds running waiting
    | disarm => exact disarm_goes waiting
    | shutdown => simp [PortalM.shutdown, waiting, Goes, carefulCommand]

end Commands

/-- The calls of `configureBarriers`. -/
def IsBarrierCalls (calls : List PortalEffect) : Prop :=
  ∃ first, calls = [.called .zones first] ∨
    ∃ barriers zoneSet second, calls = [.called .zones first,
      .called (.setPointerBarriers barriers zoneSet) second]

theorem isBarrierCalls_zones {first : CallEnd} : IsBarrierCalls [.called .zones first] :=
  ⟨first, .inl rfl⟩

theorem isBarrierCalls_both {first second : CallEnd} {zoneSet : UInt32}
    {barriers : List (UInt32 × (Int × Int × Int × Int))} :
    IsBarrierCalls
      [.called .zones first, .called (.setPointerBarriers barriers zoneSet) second] :=
  ⟨first, .inr ⟨barriers, zoneSet, second, rfl⟩⟩

theorem callOrLeave_spec {α : Type} {name : String} {call : PortalCall} {reply : CallReply α}
    {Q : Except (Except String Unit) α → PortalWorker → List PortalEffect → Prop} :
    (callOrLeave name call reply).wp Q w ↔
      (∀ value, portalCommand name reply = .ok value →
        Q (.ok value) w [.called call reply.ending]) ∧
      ∀ detail, portalCommand name reply = .error detail →
        Q (.error (.error detail)) w [.called call reply.ending] := by
  simp [callOrLeave, callPortal]

theorem configureBarriers_spec {edge : Edge} {replies : PortalReplies} :
    (configureBarriers edge replies).wp (fun _ t output => t = w ∧ IsBarrierCalls output) w := by
  unfold configureBarriers
  simp only [wp_bind, callOrLeave_spec, wp_ite, wp_leave, wp_pure, List.append_nil,
    List.cons_append, List.nil_append]
  refine ⟨fun zones _ => ⟨fun _ => ⟨trivial, isBarrierCalls_zones⟩, fun _ => ⟨fun failed _ => ?_, ?_⟩⟩,
    fun _ _ => ⟨trivial, isBarrierCalls_zones⟩⟩
  · exact ⟨fun _ => ⟨trivial, isBarrierCalls_both⟩, fun _ => ⟨trivial, isBarrierCalls_both⟩⟩
  · exact fun _ _ => ⟨trivial, isBarrierCalls_both⟩

theorem zonesChanged_goes {zoneSet : Option UInt32} {replies : PortalReplies} :
    (PortalM.zonesChanged zoneSet replies).wp (s.Goes shutdown) s.worker ↔
      (replies.call.ending = .done || !pressed s.history) = true := by
  cases replied : replies.call with
  | done value =>
    simp only [PortalM.zonesChanged, replied, portalCommand, CallReply.ending, wp_bind, wp_read,
      wp_update, wp_emit, callOrLeave_spec, releaseKeys_goes, decide_true, Bool.true_or, iff_true]
    refine ⟨fun _ _ => wp_mono ?_ configureBarriers_spec, fun _ failed => by cases failed⟩
    rintro r t output ⟨rfl, calls⟩
    obtain ⟨first, rfl | ⟨barriers, zoneSet, second, rfl⟩⟩ := calls
    · cases r <;> simp [Goes]
    · cases r <;> simp [Goes]
  | failed error =>
    simp [PortalM.zonesChanged, callOrLeave_spec, replied, Goes, portalCommand, CallReply.ending]
  | timedOut =>
    simp [PortalM.zonesChanged, callOrLeave_spec, replied, Goes, portalCommand, CallReply.ending]

section Eis

variable {inputState : CaptureInputState}

theorem perform_none_goes (holds : s.Guarded) (running : s.finished = none) :
    (PortalM.perform reply (.ok .none)).wp (s.Goes shutdown) { s.worker with inputState } ↔
      ∀ key ∈ inputState.pressedKeys,
        s.worker.activationId.isSome = true ∧ key ∈ activationKeys s.history := by
  simp [PortalM.perform, Goes]
  exact fun _ => (holds.idle running).1

theorem perform_input_goes (holds : s.Guarded) (running : s.finished = none) {event : InputEvent} :
    (PortalM.perform reply (.ok (.input event))).wp (s.Goes shutdown)
        { s.worker with inputState } ↔
      ∀ key ∈ inputState.pressedKeys, s.worker.activationId.isSome = true ∧
        key ∈ (PortalEffect.sent (.input event)).keysAfter (activationKeys s.history) := by
  simp [PortalM.perform, Goes, -PortalEffect.keysAfter]
  exact fun _ => (holds.idle running).1

theorem perform_emergencyRelease_goes (holds : s.Guarded) (running : s.finished = none) :
    (PortalM.perform reply (.ok .emergencyRelease)).wp (s.Goes shutdown)
      { s.worker with inputState := {} } := by
  have watched := (holds.idle running).1
  cases active : s.worker.activationId with
  | none =>
    simp [PortalM.perform, active, Goes]
    exact watched
  | some id =>
    simp [PortalM.perform, active, callOrLeave_spec, Goes]
    exact fun _ _ => watched

theorem eis_event {event : EiEvent}
    {Q : Except (Except String Unit) Unit → PortalWorker → List PortalEffect → Prop} :
    (PortalM.eis a (some (.ok event)) reply).wp Q w ↔
      (PortalM.perform reply (handleEisEvent a.ei event w.inputState).1).wp Q
        { w with inputState := (handleEisEvent a.ei event w.inputState).2 } := by
  unfold PortalM.eis
  rw [wp_read_bind]
  simp only [wp_bind, wp_update, List.nil_append]

/-- Without an activation no key is pressed, so none completes the chord. -/
theorem active_of_chord (holds : s.Guarded) (running : s.finished = none) {evdevCode : UInt16}
    (chord : (s.worker.inputState.updateKey evdevCode true).1 = true) :
    s.worker.activationId.isSome = true := by
  cases pressed : s.worker.inputState.pressedKeys with
  | cons key keys => exact (holds.counted running key (by simp [pressed])).1
  | nil =>
    have alone : (s.worker.inputState.press evdevCode true).pressedKeys = [evdevCode] := by
      simp [CaptureInputState.press, pressed, Ordered.insertKey]
    simp only [CaptureInputState.updateKey, alone, keyPause, keyEsc, controlKeys, List.any_cons,
      List.any_nil, Bool.or_false, Bool.and_eq_true, Bool.or_eq_true, decide_eq_true_eq,
      List.mem_cons, List.not_mem_nil, or_false] at chord
    obtain ⟨⟨⟨-, released | released⟩, control⟩, -⟩ := chord
    · rw [of_decide_eq_true released] at control
      exact absurd control (by decide)
    · rw [of_decide_eq_true released] at control
      exact absurd control (by decide)

theorem keyboardKey_goes (holds : s.Guarded) (running : s.finished = none) {key : UInt32}
    {down : Bool} :
    (PortalM.eis a (some (.ok (.keyboardKey key down))) reply).wp (s.Goes shutdown) s.worker ↔
      s.carefulEis (some (.ok (.keyboardKey key down))) = true := by
  have counted := holds.counted running
  rw [eis_event]
  simp only [handleEisEvent, handleKeyboardKey]
  by_cases wide : key > 0xffff
  · have careful : s.carefulEis (some (.ok (.keyboardKey key down))) = true := by
      cases down <;> simp [carefulEis, wide]
    rw [if_pos wide, perform_none_goes holds running]
    exact iff_of_true counted careful
  · rw [if_neg wide]
    cases down with
    | false =>
      have silent : (s.worker.inputState.updateKey key.toUInt16 false).1 = false := rfl
      simp only [silent, Bool.false_eq_true, if_false]
      rw [perform_input_goes holds running]
      refine iff_of_true ?_ rfl
      intro other found
      exact counted other (Ordered.mem_removeKey.mp found).1
    | true =>
      have careful : s.carefulEis (some (.ok (.keyboardKey key true))) =
          s.worker.activationId.isSome := by simp [carefulEis, wide]
      rw [careful]
      by_cases chord : (s.worker.inputState.updateKey key.toUInt16 true).1 = true
      · simp only [chord, if_true]
        exact iff_of_true (perform_emergencyRelease_goes holds running)
          (active_of_chord holds running chord)
      · simp only [if_neg chord]
        rw [perform_input_goes holds running]
        constructor
        · intro all
          exact (all key.toUInt16 (Ordered.mem_insertKey.mpr (.inl rfl))).1
        · intro active other found
          refine ⟨active, ?_⟩
          rcases Ordered.mem_insertKey.mp found with rfl | found
          · exact List.mem_cons_self
          · exact List.mem_cons_of_mem _ (counted other found).2

theorem eis_goes (holds : s.Guarded) (running : s.finished = none)
    {event : Option (Except String EiEvent)} :
    (PortalM.eis a event reply).wp (s.Goes shutdown) s.worker ↔ s.carefulEis event = true := by
  have counted := holds.counted running
  cases event with
  | none => simp [PortalM.eis, releaseKeys_goes, Goes, carefulEis]
  | some event =>
    cases event with
    | error failure => simp [PortalM.eis, Goes, carefulEis]
    | ok event =>
      cases event with
      | keyboardKey key down => exact keyboardKey_goes holds running
      | seatAdded failure =>
        rw [eis_event]
        cases failure with
        | none =>
          rw [handleEisEvent, perform_none_goes holds running]
          exact iff_of_true counted rfl
        | some failure => simp [handleEisEvent, PortalM.perform, Goes, carefulEis]
      | pointerMotion | scrollDiscrete | scrollDelta =>
        rw [eis_event, handleEisEvent, perform_input_goes holds running]
        exact iff_of_true counted rfl
      | other =>
        rw [eis_event, handleEisEvent, perform_none_goes holds running]
        exact iff_of_true counted rfl
      | deviceStopEmulating | disconnected =>
        rw [eis_event, handleEisEvent, perform_input_goes holds running]
        exact iff_of_true (fun key found => by cases found) rfl
      | button button pressed =>
        rw [eis_event, handleEisEvent]
        cases mouseButton button with
        | none =>
          rw [Option.elim_none, perform_none_goes holds running]
          exact iff_of_true counted rfl
        | some button =>
          rw [Option.elim_some, perform_input_goes holds running]
          exact iff_of_true counted rfl

end Eis

end Branches

end Effects

/-! ## Every run -/

theorem handle_guarded (holds : s.Guarded) (running : s.finished = none) {event : PortalEvent}
    {replies : PortalReplies} :
    (PortalM.handle a replies event).wp (s.Goes replies.shutdown) s.worker ↔
      s.careful (.event event replies) = true := by
  cases event with
  | ownerChanged change => exact iff_of_true (ownerChanged_goes holds running) rfl
  | command => exact command_goes holds running
  | leaseTick => exact iff_of_true (leaseTick_goes holds running) rfl
  | activated signal => exact activated_goes holds running
  | deactivated | disabled => exact iff_of_true (deactivated_goes holds running) rfl
  | zonesChanged zoneSet => exact zonesChanged_goes
  | closed => exact iff_of_true closed_goes rfl
  | eis event => exact eis_goes holds running

theorem renew_deadline : w.renew.deadlineMillis ≠ 0 := by
  simp [PortalWorker.renew]

theorem stopping_append {commands more : List CaptureCommand} :
    stopping (commands ++ more) = (stopping commands || stopping more) := List.any_append

/-- What the owner leaves alone. -/
theorem apply_spec {call : OwnerCall} : (call.apply w).armed = w.armed ∧
    (call.apply w).activationId = w.activationId ∧ (call.apply w).inputState = w.inputState := by
  cases call <;> simp [OwnerCall.apply, PortalWorker.renew, PortalWorker.clearLease]

/-- Unless it ends the capture, the owner does not clear the lease. -/
theorem apply_lease {call : OwnerCall} (free : stopping (call.apply w).commands = false) :
    stopping w.commands = false ∧
      (w.deadlineMillis ≠ 0 → (call.apply w).deadlineMillis ≠ 0) := by
  cases call with
  | keepAlive =>
    have same : w.renew.commands = w.commands := by simp [PortalWorker.renew]
    rw [OwnerCall.apply, same] at free
    exact ⟨free, fun _ => renew_deadline⟩
  | arm =>
    simp only [OwnerCall.apply, stopping_append, Bool.or_eq_false_iff] at free ⊢
    exact ⟨free.1, fun _ => renew_deadline⟩
  | release cursorPosition =>
    simp only [OwnerCall.apply, stopping_append, Bool.or_eq_false_iff] at free ⊢
    exact ⟨free.1, fun leased => leased⟩
  | disarm | drop =>
    simp only [OwnerCall.apply, stopping_append, Bool.or_eq_false_iff] at free
    exact absurd free.2 (by decide)

theorem guarded_owner (holds : s.Guarded) (running : s.finished = none) (call : OwnerCall) :
    Guarded { s with worker := call.apply s.worker } := by
  obtain ⟨armed, active, input⟩ := @apply_spec s.worker call
  refine ⟨?_, holds.answered, holds.closed, ?_⟩
  · rintro ⟨-, free⟩ enabled
    obtain ⟨free, kept⟩ := apply_lease free
    obtain ⟨watched, leased⟩ := holds.watched ⟨running, free⟩ enabled
    exact ⟨armed.trans watched, kept leased⟩
  · simp only [active, input]
    exact holds.counted

theorem guarded_step (holds : s.Guarded) {step : PortalStep} (executed : exec a s step = some t) :
    t.Guarded ↔ s.careful step = true := by
  cases ended : s.finished with
  | some outcome => simp [exec, ended] at executed
  | none =>
    cases step with
    | event event replies =>
      rw [guarded_event holds executed]
      exact handle_guarded holds ended
    | elapse millis =>
      simp only [exec, ended, Option.isSome_none, Bool.false_eq_true, if_false] at executed
      cases executed
      refine iff_of_true ⟨?_, holds.answered, holds.closed, fun _ => holds.counted ended⟩ rfl
      exact fun between => holds.watched ⟨ended, between.2⟩
    | owner call =>
      simp only [exec, ended, Option.isSome_none, Bool.false_eq_true, if_false] at executed
      cases executed
      have after := guarded_owner holds ended call
      rw [ended] at after
      exact iff_of_true after rfl

/-- What the lease tick does behind the deadline. -/
theorem leaseTick_spec (failsafe : TeardownReplies) (armed : w.armed = true)
    (expired : w.expired = true) :
    (PortalM.leaseTick failsafe).wp (fun result _ output =>
      result = .error (.error PortalM.ownerSilent) ∧
        .called .disable failsafe.disable ∈ output ∧ .called .close failsafe.close ∈ output) w := by
  simp [PortalM.leaseTick, armed, expired, releaseKeys_goes, tearDown_spec, tearDownCalls]

theorem closesWhenSilent (running : s.finished = none) (armed : s.worker.armed = true)
    (leased : s.worker.deadlineMillis ≠ 0) : s.ClosesWhenSilent a := by
  intro millis replies passed
  let late : PortalWorker :=
    { s.worker with elapsedMillis := s.worker.elapsedMillis + millis }
  have expired : late.expired = true := by simp [late, PortalWorker.expired, leased, passed]
  obtain ⟨ends, disabled, closed⟩ :=
    leaseTick_spec (w := late) replies.failsafe armed expired
  have executed : exec a { s with worker := late } (.event .leaseTick replies) =
      some (finish { s with worker := late } (PortalM.leaseTick replies.failsafe late)
        (.error PortalM.ownerSilent) replies.shutdown) := by
    simp only [exec, running, Option.isSome_none, Bool.false_eq_true, if_false, PortalM.handle,
      ends]
  have waited : exec a s (.elapse millis) = some { s with worker := late } := by
    simp [exec, running, late]
  have recorded : ∀ e ∈ (PortalM.leaseTick replies.failsafe late).output,
      e ∈ (finish { s with worker := late } (PortalM.leaseTick replies.failsafe late)
        (.error PortalM.ownerSilent) replies.shutdown).history.drop s.history.length := by
    intro e found
    rw [finish_history, List.append_assoc, List.drop_left]
    exact List.mem_append_left _ found
  refine ⟨_, ?_, rfl, recorded _ disabled, recorded _ closed⟩
  simp only [Machine.runList, machine, waited, executed, Option.bind_some]

theorem neverTraps_iff : s.NeverTraps a ↔ s.Guarded := by
  constructor
  · intro holds
    exact ⟨holds.watched, holds.answered, holds.closed, holds.counted⟩
  · intro holds
    refine ⟨holds.watched, ?_, holds.answered, holds.closed, holds.counted⟩
    intro between enabled
    obtain ⟨armed, leased⟩ := holds.watched between enabled
    exact closesWhenSilent between.1 armed leased

/-- A run keeps every guarantee in all its states, exactly if all its steps are careful. -/
theorem capture_never_traps (a : PortalArithmetic) (edge : Edge) (portalGeneration : String)
    (zoneSet : UInt32) (barriers : List (UInt32 × BarrierMetadata)) (steps : List PortalStep)
    (enabled : ((machine a).runList (start edge portalGeneration zoneSet barriers) steps).isSome) :
    (∀ done, done <+: steps → ∀ s,
      (machine a).runList (start edge portalGeneration zoneSet barriers) done = some s →
        s.NeverTraps a) ↔
      (machine a).allowedList careful (start edge portalGeneration zoneSet barriers) steps =
        true := by
  refine always_iff_allowedList (I := fun _ => True) (fun _ _ _ _ _ => trivial) ?_ steps trivial
    ?_ enabled
  · intro s step t executed _ holds
    rw [neverTraps_iff] at holds ⊢
    exact guarded_step holds executed
  · refine neverTraps_iff.mpr ⟨fun _ enabled => ?_, after_nil, after_nil, fun _ key found => ?_⟩
    · cases enabled
    · cases found

/-! ### Runs -/

/-- An arithmetic that keeps the bits it is handed. -/
def plainArithmetic : PortalArithmetic where
  ei :=
    { widened := fun x => x.toUInt64
      discrete := fun n => UInt64.ofInt n
      negatedDiscrete := fun n => UInt64.ofInt (-n)
      delta := fun x => x.toUInt64
      negatedDelta := fun x => x.toUInt64 }
  normalized := fun position _ _ => position

/-- One screen, with a barrier on its right. -/
def sampleCapture : PortalCapture :=
  start .right ":1.40" 1 [(1, { edge := .right, x := 0, y := 0, width := 1920, height := 1080 })]

/-- The owner arms the capture, and the portal answers. -/
def arms (reply : CallReply Unit) : List PortalStep :=
  [.owner .arm, .event .command { call := reply }]

/-- The pointer crosses the barrier. -/
def crosses (id : UInt32) : PortalStep :=
  .event (.activated { activationId := some id, barrierId := some (.barrier 1) }) {}

/-- A key goes down. -/
def keyDown (key : UInt32) : PortalStep := .event (.eis (some (.ok (.keyboardKey key true)))) {}

/-- A capture that is used once and then disarmed. -/
def usedOnce : List PortalStep :=
  arms (.done ()) ++ [crosses 7, keyDown 29, .owner .keepAlive, .event .deactivated {}] ++
    [.owner .disarm, .event .command {}, .owner .drop, .event .command {}]

theorem capture_never_traps_used :
    (∀ done, done <+: usedOnce → ∀ s,
      (machine plainArithmetic).runList sampleCapture done = some s →
        s.NeverTraps plainArithmetic) ∧
    ((machine plainArithmetic).reach sampleCapture usedOnce).finished = some (.ok ()) :=
  ⟨(capture_never_traps plainArithmetic .right ":1.40" 1 _ usedOnce (by decide +kernel)).mpr
    (by decide +kernel), by decide +kernel⟩

/-- Control and Alt go down in one activation, which the owner releases, and Escape in the
    next. -/
def chordInTwo : List PortalStep :=
  arms (.done ()) ++ [crosses 7, keyDown 29, keyDown 56, .owner (.release none),
    .event .command {}, crosses 8]

/-- An `Enable` that timed out leaves the compositor with the capture and nobody to watch it; keys
    of an activation that was released complete the chord in the next one. -/
theorem capture_traps :
    (∃ s, (machine plainArithmetic).Run anyAction sampleCapture s ∧ s.BetweenEvents ∧
      mayCapture s.history = true ∧ s.worker.armed = false ∧ s.worker.deadlineMillis = 0 ∧
      ¬ s.NeverTraps plainArithmetic) ∧
    ∃ s t, (machine plainArithmetic).Run anyAction sampleCapture s ∧
      activationKeys s.history = [] ∧ (machine plainArithmetic).exec s (keyDown 1) = some t ∧
      .sent .emergencyReleased ∈ t.history ∧ ¬ s.NeverTraps plainArithmetic := by
  constructor
  · have between : ((machine plainArithmetic).reach sampleCapture (arms .timedOut)).BetweenEvents :=
      by decide +kernel
    refine ⟨_, run_reach (arms .timedOut) (by decide +kernel), between, by decide +kernel,
      by decide +kernel, by decide +kernel, fun holds => ?_⟩
    exact absurd (holds.watched between (by decide +kernel)).1 (by decide +kernel)
  · refine ⟨_, _, run_reach chordInTwo (by decide +kernel), by decide +kernel,
      exec_reach (by decide +kernel),
      by decide +kernel, fun holds => ?_⟩
    have counted := (holds.counted (by decide +kernel) 29 (by decide +kernel)).2
    exact absurd counted (by decide +kernel)

end PortalCapture

end EdgeKvm.Input
