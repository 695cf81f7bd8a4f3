import EdgeKvm.Lib.Fallible

/-!
# Role assignments

`crates/edge-runtime/src/role.rs`: the connector's serialization of the two-node role
assignment, and the checks of the listener. Fingerprints are strings, epochs are `u64`.
-/

namespace EdgeKvm.Session

open EdgeKvm.Lib

/-- `Edge`. -/
inductive Edge where
  | left
  | right
  | top
  | bottom
  deriving DecidableEq, Repr

/-- `RoleTransitionState`. -/
inductive RoleTransitionState where
  | stable
  | preparing (proposedControllerFingerprint : String)
  | failed
  deriving DecidableEq, Repr

def RoleTransitionState.isPreparing : RoleTransitionState → Bool
  | preparing _ => true
  | _ => false

/-- `RoleState`. -/
structure RoleState where
  controllerFingerprint : Option String
  roleEpoch : Nat
  transition : RoleTransitionState
  listenerPosition : Edge
  paused : Bool
  failureDetail : Option String
  deriving DecidableEq, Repr

/-- `RoleStateError`. -/
inductive RoleStateError where
  | unknownController
  | transitionInProgress
  | epochOverflow
  | unexpectedEpoch (expected actual : Nat)
  | controllerMismatch
  | invalidTransition
  | noTransition
  deriving DecidableEq, Repr

/-- The messages of `RoleStateError`. -/
def RoleStateError.message : RoleStateError → String
  | unknownController => "controller identity is not part of this authenticated pair"
  | transitionInProgress => "a role transition is already in progress"
  | epochOverflow => "role epoch overflow"
  | unexpectedEpoch expected actual =>
    "role message has stale or unexpected epoch " ++ toString actual ++ "; expected " ++
      toString expected
  | controllerMismatch => "role message does not match the prepared controller"
  | invalidTransition => "role message has an invalid transition state"
  | noTransition => "no role transition is in progress"

/-- `RoleDecision`. -/
inductive RoleDecision where
  | commit (state : RoleState)
  | abort (state : RoleState)
  deriving DecidableEq, Repr

/-- `PendingRole`. -/
structure PendingRole where
  previous : RoleState
  proposedControllerFingerprint : String
  proposedEpoch : Nat
  deriving DecidableEq, Repr

/-- The state a pending role is committed as, in `RoleCoordinator::finish_ready`. -/
def PendingRole.committed (pending : PendingRole) : RoleState :=
  { controllerFingerprint := some pending.proposedControllerFingerprint
    roleEpoch := pending.proposedEpoch
    transition := .stable
    listenerPosition := pending.previous.listenerPosition
    paused := pending.previous.paused
    failureDetail := none }

/-- `select_initial_controller`; the two flags say whether a direction is complete. -/
def selectInitialController (connectorFingerprint listenerFingerprint : String)
    (preferConnector connectorControls listenerControls : Bool) : Option String :=
  let preferred := if preferConnector then (connectorFingerprint, connectorControls)
    else (listenerFingerprint, listenerControls)
  let fallback := if preferConnector then (listenerFingerprint, listenerControls)
    else (connectorFingerprint, connectorControls)
  if preferred.2 then some preferred.1 else if fallback.2 then some fallback.1 else none

/-- A complete direction is found. -/
theorem isSome_selectInitialController {connectorFingerprint listenerFingerprint : String}
    {preferConnector connectorControls listenerControls : Bool}
    (complete : connectorControls = true ∨ listenerControls = true) :
    (selectInitialController connectorFingerprint listenerFingerprint preferConnector
      connectorControls listenerControls).isSome := by
  unfold selectInitialController
  cases preferConnector <;> grind

/-- `RoleCoordinator`. -/
structure RoleCoordinator where
  connectorFingerprint : String
  listenerFingerprint : String
  stable : RoleState
  pending : Option PendingRole := none
  deriving DecidableEq, Repr

/-- `checked_add(1)` on a `u64`. -/
def nextEpoch (epoch : Nat) : Except RoleStateError Nat :=
  if epoch + 1 < UInt64.size then .ok (epoch + 1) else .error .epochOverflow

namespace RoleCoordinator

/-- `RoleCoordinator::new`. -/
def new (connectorFingerprint listenerFingerprint : String)
    (controllerFingerprint : Option String) (roleEpoch : Nat) (listenerPosition : Edge)
    (paused : Bool) : Except RoleStateError RoleCoordinator :=
  if controllerFingerprint.any fun controller =>
      controller ≠ connectorFingerprint && controller ≠ listenerFingerprint then
    .error .unknownController
  else
    .ok { connectorFingerprint, listenerFingerprint
          stable := { controllerFingerprint, roleEpoch, transition := .stable, listenerPosition,
                      paused, failureDetail := none } }

/-- `RoleCoordinator::is_transitioning`. -/
def isTransitioning (coordinator : RoleCoordinator) : Bool := coordinator.pending.isSome

/-- `RoleCoordinator::set_paused`. -/
def setPaused (coordinator : RoleCoordinator) (paused : Bool) :
    Except RoleStateError RoleCoordinator :=
  if coordinator.isTransitioning then .error .transitionInProgress
  else .ok { coordinator with stable := { coordinator.stable with paused } }

/-- The `Prepare` state of a proposal, in `RoleCoordinator::prepare`. -/
def proposal (coordinator : RoleCoordinator) (controllerFingerprint : String)
    (proposedEpoch : Nat) : RoleState :=
  { controllerFingerprint := some controllerFingerprint
    roleEpoch := proposedEpoch
    transition := .preparing controllerFingerprint
    listenerPosition := coordinator.stable.listenerPosition
    paused := coordinator.stable.paused
    failureDetail := none }

/-- `RoleCoordinator::prepare`. -/
def prepare (coordinator : RoleCoordinator) (controllerFingerprint : String) :
    Except RoleStateError (RoleState × RoleCoordinator) :=
  if coordinator.isTransitioning then
    .error .transitionInProgress
  else if controllerFingerprint ≠ coordinator.connectorFingerprint ∧
      controllerFingerprint ≠ coordinator.listenerFingerprint then
    .error .unknownController
  else
    (nextEpoch coordinator.stable.roleEpoch).map fun proposedEpoch =>
      (coordinator.proposal controllerFingerprint proposedEpoch,
        { coordinator with
          pending := some
            { previous := coordinator.stable
              proposedControllerFingerprint := controllerFingerprint
              proposedEpoch } })

/-- The failed state an abort announces. -/
def failedState (previous : RoleState) (failureDetail : Option String) : RoleState :=
  { previous with transition := .failed, failureDetail }

/-- `RoleCoordinator::finish_ready`. -/
def finishReady (coordinator : RoleCoordinator) (roleEpoch : Nat)
    (localCaptureReady localInjectReady remoteCaptureReady remoteInjectReady : Bool)
    (failureDetail : Option String) : Except RoleStateError (RoleDecision × RoleCoordinator) :=
  match coordinator.pending with
  | none => .error .noTransition
  | some pending =>
    if roleEpoch ≠ pending.proposedEpoch then
      .error (.unexpectedEpoch pending.proposedEpoch roleEpoch)
    else if localCaptureReady && localInjectReady && remoteCaptureReady && remoteInjectReady then
      .ok (.commit pending.committed,
        { coordinator with stable := pending.committed, pending := none })
    else
      .ok (.abort (failedState pending.previous
          (failureDetail.orElse fun _ => some "one or more input backends were not ready")),
        { coordinator with stable := pending.previous, pending := none })

/-- `RoleCoordinator::abort`. -/
def abort (coordinator : RoleCoordinator) (detail : String) :
    Except RoleStateError (RoleState × RoleCoordinator) :=
  match coordinator.pending with
  | none => .error .noTransition
  | some pending =>
    .ok (failedState pending.previous (some detail),
      { coordinator with stable := pending.previous, pending := none })

/-! ## What a successful step does -/

section Steps

variable {coordinator next : RoleCoordinator} {state : RoleState}

theorem new_eq_ok {connectorFingerprint listenerFingerprint : String}
    {controllerFingerprint : Option String} {roleEpoch : Nat} {listenerPosition : Edge}
    {paused : Bool}
    (made : new connectorFingerprint listenerFingerprint controllerFingerprint roleEpoch
      listenerPosition paused = .ok coordinator) :
    coordinator =
      { connectorFingerprint, listenerFingerprint
        stable := { controllerFingerprint, roleEpoch, transition := .stable, listenerPosition,
                    paused, failureDetail := none } } := by
  unfold new at made
  split at made
  · cases made
  · cases made
    rfl

@[simp] theorem isTransitioning_eq_true :
    coordinator.isTransitioning = true ↔ coordinator.pending.isSome := Iff.rfl

@[simp] theorem isTransitioning_eq_false :
    coordinator.isTransitioning = false ↔ coordinator.pending = none := by
  simp [isTransitioning]

@[grind →] theorem setPaused_eq_ok {paused : Bool}
    (changed : coordinator.setPaused paused = .ok next) :
    coordinator.pending = none ∧
      next = { coordinator with stable := { coordinator.stable with paused } } := by
  unfold setPaused at changed
  split at changed
  · cases changed
  · rename_i idle
    cases changed
    exact ⟨by simpa using idle, rfl⟩

@[grind →] theorem prepare_eq_ok {controllerFingerprint : String}
    (prepared : coordinator.prepare controllerFingerprint = .ok (state, next)) :
    coordinator.pending = none ∧
      (controllerFingerprint = coordinator.connectorFingerprint ∨
        controllerFingerprint = coordinator.listenerFingerprint) ∧
      state = coordinator.proposal controllerFingerprint (coordinator.stable.roleEpoch + 1) ∧
      next = { coordinator with
        pending := some
          { previous := coordinator.stable
            proposedControllerFingerprint := controllerFingerprint
            proposedEpoch := coordinator.stable.roleEpoch + 1 } } := by
  unfold prepare nextEpoch at prepared
  split at prepared
  · cases prepared
  · rename_i idle
    split at prepared
    · cases prepared
    · rename_i known
      split at prepared
      · cases prepared
        exact ⟨by simpa using idle, Decidable.or_iff_not_not_and_not.mpr known, rfl, rfl⟩
      · cases prepared

theorem prepare_bound {controllerFingerprint : String}
    (prepared : coordinator.prepare controllerFingerprint = .ok (state, next)) :
    coordinator.stable.roleEpoch + 1 < UInt64.size := by
  unfold prepare at prepared
  split at prepared
  · cases prepared
  · split at prepared
    · cases prepared
    · unfold nextEpoch at prepared
      split at prepared
      · assumption
      · cases prepared

@[grind →] theorem abort_eq_ok {detail : String}
    (aborted : coordinator.abort detail = .ok (state, next)) :
    ∃ pending, coordinator.pending = some pending ∧
      state = failedState pending.previous (some detail) ∧
      next = { coordinator with stable := pending.previous, pending := none } := by
  unfold abort at aborted
  split at aborted
  · cases aborted
  · rename_i pending found
    cases aborted
    exact ⟨pending, found, rfl, rfl⟩

/-- A readiness of the pending epoch decides it, for the commit if everything is ready. -/
@[grind →] theorem finishReady_eq_ok {roleEpoch : Nat} {a b r d : Bool}
    {failureDetail : Option String} {decision : RoleDecision}
    (finished : coordinator.finishReady roleEpoch a b r d failureDetail = .ok (decision, next)) :
    ∃ pending, coordinator.pending = some pending ∧ roleEpoch = pending.proposedEpoch ∧
      ((a = true ∧ b = true ∧ r = true ∧ d = true ∧ decision = .commit pending.committed ∧
          next = { coordinator with stable := pending.committed, pending := none }) ∨
        (¬ (a = true ∧ b = true ∧ r = true ∧ d = true) ∧ ∃ detail,
          decision = .abort (failedState pending.previous (some detail)) ∧
          next = { coordinator with stable := pending.previous, pending := none })) := by
  unfold finishReady at finished
  split at finished
  · cases finished
  · rename_i pending found
    split at finished
    · cases finished
    · rename_i epoch
      refine ⟨pending, found, not_not.mp epoch, ?_⟩
      split at finished
      · rename_i ready
        cases finished
        simp only [Bool.and_eq_true] at ready
        exact .inl ⟨ready.1.1.1, ready.1.1.2, ready.1.2, ready.2, rfl, rfl⟩
      · rename_i ready
        cases finished
        refine .inr ⟨by simpa [and_assoc] using ready, ?_⟩
        cases failureDetail with
        | none => exact ⟨_, rfl, rfl⟩
        | some detail => exact ⟨_, rfl, rfl⟩

end Steps

end RoleCoordinator

/-- `validate_prepare`. -/
def validatePrepare (current prepare : RoleState)
    (connectorFingerprint listenerFingerprint : String) : Except RoleStateError Unit :=
  match prepare.transition with
  | .preparing proposed => do
    ensure (proposed = connectorFingerprint ∨ proposed = listenerFingerprint) .unknownController
    ensure (prepare.controllerFingerprint = some proposed) .controllerMismatch
    let expected ← nextEpoch current.roleEpoch
    ensure (prepare.roleEpoch = expected) (.unexpectedEpoch expected prepare.roleEpoch)
  | _ => .error .invalidTransition

/-- `validate_commit`. -/
def validateCommit (prepared commit : RoleState) : Except RoleStateError Unit := do
  ensure (prepared.transition.isPreparing ∧ commit.transition = .stable) .invalidTransition
  ensure (prepared.roleEpoch = commit.roleEpoch)
    (.unexpectedEpoch prepared.roleEpoch commit.roleEpoch)
  ensure (prepared.controllerFingerprint = commit.controllerFingerprint) .controllerMismatch

end EdgeKvm.Session
