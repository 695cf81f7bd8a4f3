import EdgeKvm.Session.Role
import EdgeKvm.Lib.Handler

/-!
# Calls of the coordinator

`RoleCoordinator` as its callers use it: one call after another, where a call that fails may have
changed the coordinator before it did. Every call is recorded, so that a call can be compared
with the ones before it.
-/

namespace EdgeKvm.Session

open EdgeKvm.Lib Handler Machine

/-! ## Calls -/

/-- A call of one of the methods of `RoleCoordinator` that change it. -/
inductive RoleCall where
  | setPaused (paused : Bool)
  | prepare (controllerFingerprint : String)
  | finishReady (roleEpoch : Nat)
      (localCaptureReady localInjectReady remoteCaptureReady remoteInjectReady : Bool)
      (failureDetail : Option String)
  | abort (detail : String)
  deriving DecidableEq, Repr

/-- What a call returns. -/
inductive RoleReply where
  | state (state : RoleState)
  | prepare (prepare : RoleState)
  | decision (decision : RoleDecision)
  deriving DecidableEq, Repr

/-- The call gives the transition up: an abort, or a readiness that is not complete. -/
def RoleCall.givesUp : RoleCall → Bool
  | finishReady _ localCapture localInject remoteCapture remoteInject _ =>
    !(localCapture && localInject && remoteCapture && remoteInject)
  | abort _ => true
  | _ => false

namespace RoleCoordinator

abbrev CoordinatorM := Handler RoleCoordinator Empty RoleStateError

def callSetPaused (paused : Bool) : CoordinatorM RoleReply := do
  let c ← read
  if c.isTransitioning then leave .transitionInProgress
  else
    update fun c => { c with stable := { c.stable with paused } }
    pure (.state { c.stable with paused })

def callPrepare (controllerFingerprint : String) : CoordinatorM RoleReply := do
  let c ← read
  if c.isTransitioning then leave .transitionInProgress
  else if controllerFingerprint ≠ c.connectorFingerprint ∧
      controllerFingerprint ≠ c.listenerFingerprint then
    leave .unknownController
  else
    let proposedEpoch ← ofExcept id (nextEpoch c.stable.roleEpoch)
    update fun c =>
      { c with
        pending := some
          { previous := c.stable
            proposedControllerFingerprint := controllerFingerprint
            proposedEpoch } }
    pure (.prepare (c.proposal controllerFingerprint proposedEpoch))

/-- `pending` is taken first, and put back when the epoch is another. -/
def callFinishReady (roleEpoch : Nat)
    (localCaptureReady localInjectReady remoteCaptureReady remoteInjectReady : Bool)
    (failureDetail : Option String) : CoordinatorM RoleReply := do
  let c ← read
  update fun c => { c with pending := none }
  match c.pending with
  | none => leave .noTransition
  | some pending =>
    if roleEpoch ≠ pending.proposedEpoch then
      update fun c => { c with pending := some pending }
      leave (.unexpectedEpoch pending.proposedEpoch roleEpoch)
    else if localCaptureReady && localInjectReady && remoteCaptureReady && remoteInjectReady then
      update fun c => { c with stable := pending.committed }
      pure (.decision (.commit pending.committed))
    else
      update fun c => { c with stable := pending.previous }
      pure (.decision (.abort (failedState pending.previous
        (failureDetail.orElse fun _ => some "one or more input backends were not ready"))))

def callAbort (detail : String) : CoordinatorM RoleReply := do
  let c ← read
  update fun c => { c with pending := none }
  match c.pending with
  | none => leave .noTransition
  | some pending =>
    update fun c => { c with stable := pending.previous }
    pure (.decision (.abort (failedState pending.previous (some detail))))

def call : RoleCall → CoordinatorM RoleReply
  | .setPaused paused => callSetPaused paused
  | .prepare controllerFingerprint => callPrepare controllerFingerprint
  | .finishReady roleEpoch a b c d failureDetail => callFinishReady roleEpoch a b c d failureDetail
  | .abort detail => callAbort detail

/-! ## What a call does -/

/-- The outcome of a call: a failed call leaves the coordinator as it was. -/
inductive Called (c : RoleCoordinator) :
    RoleCall → Except RoleStateError RoleReply → RoleCoordinator → Prop
  | failed {request : RoleCall} (error : RoleStateError) : Called c request (.error error) c
  | paused {paused : Bool} (idle : c.pending = none) :
    Called c (.setPaused paused) (.ok (.state { c.stable with paused }))
      { c with stable := { c.stable with paused } }
  | prepared {proposed : String} (idle : c.pending = none)
      (known : proposed = c.connectorFingerprint ∨ proposed = c.listenerFingerprint)
      (bound : c.stable.roleEpoch + 1 < UInt64.size) :
    Called c (.prepare proposed) (.ok (.prepare (c.proposal proposed (c.stable.roleEpoch + 1))))
      { c with
        pending := some
          { previous := c.stable
            proposedControllerFingerprint := proposed
            proposedEpoch := c.stable.roleEpoch + 1 } }
  | committed {failureDetail : Option String} {pending : PendingRole}
      (found : c.pending = some pending) :
    Called c (.finishReady pending.proposedEpoch true true true true failureDetail)
      (.ok (.decision (.commit pending.committed)))
      { c with stable := pending.committed, pending := none }
  | aborted {request : RoleCall} {pending : PendingRole} (found : c.pending = some pending)
      (givesUp : request.givesUp = true) (detail : Option String) :
    Called c request (.ok (.decision (.abort (failedState pending.previous detail))))
      { c with stable := pending.previous, pending := none }

variable {c : RoleCoordinator} {request : RoleCall}

theorem callSetPaused_called {paused : Bool} :
    (callSetPaused paused).wp (fun result t _ => Called c (.setPaused paused) result t) c := by
  unfold callSetPaused
  simp only [wp_bind, wp_read, wp_ite, wp_leave, wp_update, wp_pure]
  refine ⟨fun _ => .failed _, fun idle => .paused ?_⟩
  simpa using idle

theorem callPrepare_called {proposed : String} :
    (callPrepare proposed).wp (fun result t _ => Called c (.prepare proposed) result t) c := by
  unfold callPrepare
  simp only [wp_bind, wp_read, wp_ite, wp_leave, wp_update, wp_pure, wp_ofExcept]
  refine ⟨fun _ => .failed _, fun idle => ⟨fun _ => .failed _, fun known => ⟨?_, ?_⟩⟩⟩
  · intro proposedEpoch next
    unfold nextEpoch at next
    split at next
    next bound =>
      cases next
      exact .prepared (by simpa using idle) (Decidable.or_iff_not_not_and_not.mpr known) bound
    next => cases next
  · exact fun _ _ => .failed _

theorem callFinishReady_called {roleEpoch : Nat} {a b r d : Bool} {failureDetail : Option String} :
    (callFinishReady roleEpoch a b r d failureDetail).wp
      (fun result t _ => Called c (.finishReady roleEpoch a b r d failureDetail) result t) c := by
  unfold callFinishReady
  simp only [wp_bind, wp_read, wp_update]
  cases found : c.pending with
  | none =>
    have same : { c with pending := none } = c := by rw [← found]
    simp only [wp_leave, same]
    exact .failed _
  | some pending =>
    have same : { c with pending := some pending } = c := by rw [← found]
    simp only [wp_bind, wp_ite, wp_leave, wp_update, wp_pure, same]
    refine ⟨fun _ => .failed _, fun epoch => ⟨fun ready => ?_, fun waiting => ?_⟩⟩
    · simp only [Bool.and_eq_true] at ready
      obtain ⟨⟨⟨rfl, rfl⟩, rfl⟩, rfl⟩ := ready
      obtain rfl := not_not.mp epoch
      exact .committed found
    · have givesUp : RoleCall.givesUp (.finishReady roleEpoch a b r d failureDetail) = true := by
        rw [Bool.not_eq_true] at waiting
        rw [RoleCall.givesUp, waiting]
        rfl
      exact .aborted found givesUp _

theorem callAbort_called {detail : String} :
    (callAbort detail).wp (fun result t _ => Called c (.abort detail) result t) c := by
  unfold callAbort
  simp only [wp_bind, wp_read, wp_update]
  cases found : c.pending with
  | none =>
    have same : { c with pending := none } = c := by rw [← found]
    simp only [wp_leave, same]
    exact .failed _
  | some pending =>
    simp only [wp_bind, wp_update, wp_pure]
    exact .aborted found rfl _

theorem call_called (c : RoleCoordinator) (request : RoleCall) :
    Called c request (call request c).result (call request c).state := by
  have called : (call request).wp (fun result t _ => Called c request result t) c := by
    cases request with
    | setPaused paused => exact callSetPaused_called
    | prepare proposed => exact callPrepare_called
    | finishReady roleEpoch a b r d failureDetail => exact callFinishReady_called
    | abort detail => exact callAbort_called
  exact called

end RoleCoordinator

/-! ## Runs of calls -/

/-- A call as it happened. -/
structure RoleRecord where
  before : RoleCoordinator
  request : RoleCall
  result : Except RoleStateError RoleReply
  after : RoleCoordinator

/-- A coordinator and the calls it has had, the oldest first. -/
structure CoordinatorRun where
  coordinator : RoleCoordinator
  log : List RoleRecord := []

namespace CoordinatorRun

/-- The next call. -/
def recordOf (run : CoordinatorRun) (request : RoleCall) : RoleRecord :=
  { before := run.coordinator
    request
    result := (RoleCoordinator.call request run.coordinator).result
    after := (RoleCoordinator.call request run.coordinator).state }

def next (run : CoordinatorRun) (request : RoleCall) : CoordinatorRun :=
  { coordinator := (run.recordOf request).after, log := run.log ++ [run.recordOf request] }

/-- A coordinator accepts any call at any time. -/
def machine : Machine CoordinatorRun RoleCall where
  exec run request := some (run.next request)

end CoordinatorRun

/-- The last call of `log` that did not fail is `prepared`, and it returned `prepare`. -/
structure LastPrepare (log : List RoleRecord) (prepared : RoleRecord) (prepare : RoleState) :
    Prop where
  returned : prepared.result = .ok (.prepare prepare)
  last : ∃ first failures, log = first ++ prepared :: failures ∧
    ∀ record ∈ failures, ∃ error, record.result = .error error

/-- What a coordinator keeps of the coordinator it was made as. -/
structure Sound (made c : RoleCoordinator) : Prop where
  connector : c.connectorFingerprint = made.connectorFingerprint
  listener : c.listenerFingerprint = made.listenerFingerprint
  transition : c.stable.transition = .stable
  controller : c.stable.controllerFingerprint = some made.connectorFingerprint ∨
    c.stable.controllerFingerprint = some made.listenerFingerprint ∨
    c.stable.controllerFingerprint = none ∧ made.stable.controllerFingerprint = none
  position : c.stable.listenerPosition = made.stable.listenerPosition

/-- What holds of a call after the calls `earlier`, to a coordinator made as `made`. -/
structure Lawful (made : RoleCoordinator) (earlier : List RoleRecord) (record : RoleRecord) :
    Prop where
  sound : Sound made record.after
  committed : ∀ state, record.result = .ok (.decision (.commit state)) →
    record.after.stable.roleEpoch = record.before.stable.roleEpoch + 1
  otherwise : (∀ state, record.result ≠ .ok (.decision (.commit state))) →
    record.after.stable.roleEpoch = record.before.stable.roleEpoch
  failed : ∀ error, record.result = .error error →
    record.after.stable = record.before.stable ∧ record.after.pending = record.before.pending
  restored : record.request.givesUp = true → ∀ reply, record.result = .ok reply →
    ∃ prepared prepare, LastPrepare earlier prepared prepare ∧ record.after = prepared.before
  prepare : ∀ state, record.result = .ok (.prepare state) →
    validatePrepare record.before.stable state made.connectorFingerprint
      made.listenerFingerprint = .ok ()
  commit : ∀ state, record.result = .ok (.decision (.commit state)) →
    ∃ prepared prepare, LastPrepare earlier prepared prepare ∧
      validateCommit prepare state = .ok () ∧ record.after.stable = state ∧
      ∀ other : RoleState, other.roleEpoch ≠ prepare.roleEpoch ∨
        other.controllerFingerprint ≠ prepare.controllerFingerprint →
        validateCommit other state ≠ .ok ()

/-! ## The two checks -/

theorem validatePrepare_proposal {c : RoleCoordinator} {proposed : String}
    (known : proposed = c.connectorFingerprint ∨ proposed = c.listenerFingerprint)
    (bound : c.stable.roleEpoch + 1 < UInt64.size) :
    validatePrepare c.stable (c.proposal proposed (c.stable.roleEpoch + 1))
      c.connectorFingerprint c.listenerFingerprint = .ok () := by
  have epoch : nextEpoch c.stable.roleEpoch = .ok (c.stable.roleEpoch + 1) := if_pos bound
  simp [validatePrepare, RoleCoordinator.proposal, epoch, known]

/-- A commit passes against the states being prepared that have its epoch and controller. -/
theorem validateCommit_eq_ok {prepared commit : RoleState} :
    validateCommit prepared commit = .ok () ↔
      prepared.transition.isPreparing = true ∧ commit.transition = .stable ∧
      prepared.roleEpoch = commit.roleEpoch ∧
      prepared.controllerFingerprint = commit.controllerFingerprint := by
  simp [validateCommit, and_assoc]

/-! ## What every run keeps -/

section Runs

variable {made : RoleCoordinator} {run : CoordinatorRun} {prepared record : RoleRecord}
  {prepare : RoleState} {pending : PendingRole}

/-- A preparation is the last call that did not fail once it is made. -/
theorem LastPrepare.new {log : List RoleRecord}
    (returned : prepared.result = .ok (.prepare prepare)) :
    LastPrepare (log ++ [prepared]) prepared prepare :=
  ⟨returned, log, [], rfl, fun _ listed => absurd listed List.not_mem_nil⟩

/-- It stays so while calls fail. -/
theorem LastPrepare.append {log : List RoleRecord} {error : RoleStateError}
    (last : LastPrepare log prepared prepare) (failed : record.result = .error error) :
    LastPrepare (log ++ [record]) prepared prepare := by
  obtain ⟨first, failures, split, allFailed⟩ := last.last
  refine ⟨last.returned, first, failures ++ [record], by simp [split], ?_⟩
  intro other listed
  rcases List.mem_append.mp listed with earlier | newest
  · exact allFailed other earlier
  · rw [List.mem_singleton.mp newest]
    exact ⟨error, failed⟩

/-- A pending transition was opened by the last call that did not fail. -/
structure Opened (run : CoordinatorRun) (pending : PendingRole) (prepared : RoleRecord)
    (prepare : RoleState) : Prop where
  last : LastPrepare run.log prepared prepare
  idle : prepared.before.pending = none
  unchanged : run.coordinator = { prepared.before with pending := some pending }
  previous : pending.previous = prepared.before.stable
  epoch : pending.proposedEpoch = prepared.before.stable.roleEpoch + 1
  known : pending.proposedControllerFingerprint = prepared.before.connectorFingerprint ∨
    pending.proposedControllerFingerprint = prepared.before.listenerFingerprint
  proposal : prepare =
    prepared.before.proposal pending.proposedControllerFingerprint pending.proposedEpoch

/-- Closing the transition as it was before leaves the coordinator that opened it. -/
theorem Opened.restored (opened : Opened run pending prepared prepare) :
    { run.coordinator with stable := pending.previous, pending := none } = prepared.before := by
  rw [opened.unchanged, opened.previous, ← opened.idle]

/-- The state a transition is committed as passes against the `Prepare` that opened it, and
    against no other epoch or controller. -/
theorem Opened.validateCommit (opened : Opened run pending prepared prepare) :
    Session.validateCommit prepare pending.committed = .ok () ∧
      ∀ other : RoleState, other.roleEpoch ≠ prepare.roleEpoch ∨
        other.controllerFingerprint ≠ prepare.controllerFingerprint →
        Session.validateCommit other pending.committed ≠ .ok () := by
  have accepted : Session.validateCommit prepare pending.committed = .ok () := by
    rw [validateCommit_eq_ok, opened.proposal]
    exact ⟨rfl, rfl, rfl, rfl⟩
  refine ⟨accepted, fun other differs passes => ?_⟩
  obtain ⟨-, -, epoch, controller⟩ := validateCommit_eq_ok.mp accepted
  obtain ⟨-, -, otherEpoch, otherController⟩ := validateCommit_eq_ok.mp passes
  rcases differs with otherwise | otherwise
  · exact otherwise (otherEpoch.trans epoch.symm)
  · exact otherwise (otherController.trans controller.symm)

/-- The invariant of a run. -/
structure Kept (made : RoleCoordinator) (run : CoordinatorRun) : Prop where
  sound : Sound made run.coordinator
  opened : ∀ pending, run.coordinator.pending = some pending →
    ∃ prepared prepare, Opened run pending prepared prepare
  lawful : ∀ i record, run.log[i]? = some record → Lawful made (run.log.take i) record

theorem Sound.made_of_new {connector listener : String} {controller : Option String}
    {epoch : Nat} {position : Edge} {paused : Bool}
    (made_eq : RoleCoordinator.new connector listener controller epoch position paused = .ok made) :
    Sound made made := by
  have member : ∀ name, controller = some name → name = connector ∨ name = listener := by
    rintro name rfl
    unfold RoleCoordinator.new at made_eq
    split at made_eq
    · cases made_eq
    · rename_i known
      simpa [Decidable.imp_iff_not_or, or_comm] using known
  rw [RoleCoordinator.new_eq_ok made_eq]
  refine ⟨rfl, rfl, rfl, ?_, rfl⟩
  cases controller with
  | none => exact .inr (.inr ⟨rfl, rfl⟩)
  | some name =>
    rcases member name rfl with rfl | rfl
    · exact .inl rfl
    · exact .inr (.inl rfl)

/-- A call after a lawful run is lawful. -/
theorem Kept.lawful_record (kept : Kept made run) (before : record.before = run.coordinator)
    (called : RoleCoordinator.Called run.coordinator record.request record.result record.after) :
    Lawful made run.log record := by
  obtain ⟨from', request, result, after⟩ := record
  obtain rfl : from' = run.coordinator := before
  have sound := kept.sound
  simp only at called
  cases called with
  | failed error =>
    exact
      { sound
        committed := fun _ ok => nomatch ok
        otherwise := fun _ => rfl
        failed := fun _ _ => ⟨rfl, rfl⟩
        restored := fun _ _ ok => nomatch ok
        prepare := fun _ ok => nomatch ok
        commit := fun _ ok => nomatch ok }
  | paused idle =>
    exact
      { sound := ⟨sound.connector, sound.listener, sound.transition, sound.controller,
          sound.position⟩
        committed := fun _ ok => nomatch ok
        otherwise := fun _ => rfl
        failed := fun _ error => nomatch error
        restored := fun givesUp => absurd givesUp Bool.false_ne_true
        prepare := fun _ ok => nomatch ok
        commit := fun _ ok => nomatch ok }
  | prepared idle known bound =>
    refine
      { sound := ⟨sound.connector, sound.listener, sound.transition, sound.controller,
          sound.position⟩
        committed := fun _ ok => nomatch ok
        otherwise := fun _ => rfl
        failed := fun _ error => nomatch error
        restored := fun givesUp => absurd givesUp Bool.false_ne_true
        prepare := ?_
        commit := fun _ ok => nomatch ok }
    rintro state ⟨⟩
    rw [← sound.connector, ← sound.listener]
    exact validatePrepare_proposal known bound
  | committed found =>
    obtain ⟨prepared, prepare, opened⟩ := kept.opened _ found
    have stable : run.coordinator.stable = prepared.before.stable := by rw [opened.unchanged]
    refine
      { sound := ?_
        committed := fun _ _ => ?_
        otherwise := fun other => absurd rfl (other _)
        failed := fun _ error => nomatch error
        restored := fun givesUp => absurd givesUp Bool.false_ne_true
        prepare := fun _ ok => nomatch ok
        commit := ?_ }
    · refine ⟨sound.connector, sound.listener, rfl, ?_, ?_⟩
      · have known := opened.known
        rw [← sound.connector, ← sound.listener, opened.unchanged]
        rcases known with named | named
        · exact .inl (congrArg some named)
        · exact .inr (.inl (congrArg some named))
      · rw [← sound.position, stable, ← opened.previous]
        rfl
    · rw [stable, ← opened.epoch]
      rfl
    · rintro state ⟨⟩
      exact ⟨prepared, prepare, opened.last, opened.validateCommit.1, rfl,
        opened.validateCommit.2⟩
  | @aborted _ pending found givesUp detail =>
    obtain ⟨prepared, prepare, opened⟩ := kept.opened _ found
    have same : pending.previous = run.coordinator.stable := by
      rw [opened.unchanged, opened.previous]
    have restored := opened.restored
    rw [same] at restored ⊢
    exact
      { sound := ⟨sound.connector, sound.listener, sound.transition, sound.controller,
          sound.position⟩
        committed := fun _ ok => nomatch ok
        otherwise := fun _ => rfl
        failed := fun _ error => nomatch error
        restored := fun _ _ _ => ⟨prepared, prepare, opened.last, restored⟩
        prepare := fun _ ok => nomatch ok
        commit := fun _ ok => nomatch ok }

/-- A transition that is pending after a call was opened by it or was pending before. -/
theorem Kept.opened_record (kept : Kept made run) (before : record.before = run.coordinator)
    (called : RoleCoordinator.Called run.coordinator record.request record.result record.after)
    (found : record.after.pending = some pending) :
    ∃ prepared prepare, Opened ⟨record.after, run.log ++ [record]⟩ pending prepared prepare := by
  obtain ⟨from', request, result, after⟩ := record
  obtain rfl : from' = run.coordinator := before
  simp only at called found
  cases called with
  | failed error =>
    obtain ⟨prepared, prepare, opened⟩ := kept.opened _ found
    exact ⟨prepared, prepare, { opened with last := opened.last.append rfl }⟩
  | paused idle => exact absurd found (by simp [idle])
  | prepared idle known bound =>
    cases found
    exact ⟨_, _,
      { last := .new rfl
        idle
        unchanged := rfl
        previous := rfl
        epoch := rfl
        known
        proposal := rfl }⟩
  | committed opened => cases found
  | aborted opened givesUp detail => cases found

theorem Kept.next (kept : Kept made run) (request : RoleCall) : Kept made (run.next request) := by
  have called := RoleCoordinator.call_called run.coordinator request
  have lawful : Lawful made run.log (run.recordOf request) := kept.lawful_record rfl called
  refine ⟨lawful.sound, fun pending found => kept.opened_record rfl called found, ?_⟩
  intro i record found
  change (run.log ++ [run.recordOf request])[i]? = some record at found
  change Lawful made ((run.log ++ [run.recordOf request]).take i) record
  rcases Nat.lt_trichotomy i run.log.length with early | rfl | late
  · rw [List.getElem?_append_left early] at found
    rw [List.take_append_of_le_length (Nat.le_of_lt early)]
    exact kept.lawful i record found
  · rw [List.getElem?_concat_length] at found
    cases found
    rw [List.take_left']
    · exact lawful
    · rfl
  · have none : (run.log ++ [run.recordOf request])[i]? = none := by
      apply List.getElem?_eq_none
      rw [List.length_append]
      exact late
    rw [none] at found
    cases found

theorem Kept.of_run {from' : CoordinatorRun} (kept : Kept made from')
    (calls : CoordinatorRun.machine.Run anyAction from' run) : Kept made run := by
  refine calls.invariant (I := Kept made) ?_ kept
  rintro s request t - executed held
  cases executed
  exact held.next request

end Runs

/-- Over every run of calls to a new coordinator: the stable state is sound, and every call is
    lawful after the calls before it. -/
theorem coordinator_lawful {connectorFingerprint listenerFingerprint : String}
    {controllerFingerprint : Option String} {roleEpoch : Nat} {listenerPosition : Edge}
    {paused : Bool} {made : RoleCoordinator} {run : CoordinatorRun}
    (isNew : RoleCoordinator.new connectorFingerprint listenerFingerprint controllerFingerprint
      roleEpoch listenerPosition paused = .ok made)
    (calls : CoordinatorRun.machine.Run anyAction { coordinator := made } run) :
    made.connectorFingerprint = connectorFingerprint ∧
    made.listenerFingerprint = listenerFingerprint ∧
    made.stable.controllerFingerprint = controllerFingerprint ∧
    made.stable.listenerPosition = listenerPosition ∧
    Sound made run.coordinator ∧
    ∀ i record, run.log[i]? = some record → Lawful made (run.log.take i) record := by
  have initial : Kept made { coordinator := made } := by
    refine ⟨.made_of_new isNew, fun pending found => ?_, fun i record found => ?_⟩
    · rw [RoleCoordinator.new_eq_ok isNew] at found
      cases found
    · cases found
  have kept := initial.of_run calls
  rw [RoleCoordinator.new_eq_ok isNew] at kept ⊢
  exact ⟨rfl, rfl, rfl, rfl, kept.sound, kept.lawful⟩

theorem coordinator_lawful_sample :
    let made : RoleCoordinator :=
      { connectorFingerprint := "desk", listenerFingerprint := "couch"
        stable := { controllerFingerprint := some "desk", roleEpoch := 1, transition := .stable,
                    listenerPosition := .right, paused := false, failureDetail := none } }
    let calls : List RoleCall :=
      [.prepare "couch", .finishReady 9 true true true true none, .abort "unplugged",
        .prepare "couch", .finishReady 2 true true true true none]
    let run := CoordinatorRun.machine.reach { coordinator := made } calls
    Sound made run.coordinator ∧ run.coordinator.stable.roleEpoch = 2 ∧
      ∀ i record, run.log[i]? = some record → Lawful made (run.log.take i) record := by
  intro made calls run
  have lawful := coordinator_lawful
    (rfl : RoleCoordinator.new "desk" "couch" (some "desk") 1 .right false = .ok made)
    (run_reach calls (by decide +kernel))
  exact ⟨lawful.2.2.2.2.1, by decide +kernel, lawful.2.2.2.2.2⟩

/-! ## The calls and the methods -/

/-- A method's result as the outcome of a call. -/
def methodOutcome (c : RoleCoordinator) :
    RoleCall → Except RoleStateError (RoleReply × RoleCoordinator)
  | .setPaused paused => (c.setPaused paused).map fun next => (.state next.stable, next)
  | .prepare controllerFingerprint =>
    (c.prepare controllerFingerprint).map fun result => (.prepare result.1, result.2)
  | .finishReady roleEpoch localCapture localInject remoteCapture remoteInject failureDetail =>
    (c.finishReady roleEpoch localCapture localInject remoteCapture remoteInject
      failureDetail).map fun result => (.decision result.1, result.2)
  | .abort detail => (c.abort detail).map fun result => (.decision (.abort result.1), result.2)

/-- The methods as the session loops use them are these calls, their failures included. -/
theorem call_eq_methodOutcome (c : RoleCoordinator) (request : RoleCall) :
    (RoleCoordinator.call request c).result = (methodOutcome c request).map Prod.fst ∧
      (RoleCoordinator.call request c).state =
        ((methodOutcome c request).map Prod.snd).toOption.getD c := by
  have same : (RoleCoordinator.call request).wp (fun result t _ =>
      result = (methodOutcome c request).map Prod.fst ∧
        t = ((methodOutcome c request).map Prod.snd).toOption.getD c) c := by
    cases request with
    | setPaused paused =>
      simp only [RoleCoordinator.call, RoleCoordinator.callSetPaused, methodOutcome,
        RoleCoordinator.setPaused, wp_bind, wp_read, wp_ite, wp_leave, wp_update, wp_pure]
      by_cases busy : c.isTransitioning <;>
        simp [busy, Except.map, Except.toOption]
    | prepare proposed =>
      simp only [RoleCoordinator.call, RoleCoordinator.callPrepare, methodOutcome,
        RoleCoordinator.prepare, nextEpoch, wp_bind, wp_read, wp_ite, wp_leave, wp_update,
        wp_pure, wp_ofExcept]
      by_cases busy : c.isTransitioning
      · simp [busy, Except.map, Except.toOption]
      · by_cases known : proposed ≠ c.connectorFingerprint ∧ proposed ≠ c.listenerFingerprint
        · simp [busy, known, Except.map, Except.toOption]
        · by_cases bound : c.stable.roleEpoch + 1 < UInt64.size <;>
            simp [busy, known, bound, Except.map, Except.toOption]
    | finishReady roleEpoch a b r d failureDetail =>
      simp only [RoleCoordinator.call, RoleCoordinator.callFinishReady, methodOutcome,
        RoleCoordinator.finishReady, wp_bind, wp_read, wp_update]
      cases found : c.pending with
      | none =>
        have unchanged : { c with pending := none } = c := by rw [← found]
        simp [unchanged, Except.map, Except.toOption]
      | some pending =>
        have unchanged : { c with pending := some pending } = c := by rw [← found]
        simp only [wp_bind, wp_ite, wp_leave, wp_update, wp_pure, unchanged]
        by_cases epoch : roleEpoch ≠ pending.proposedEpoch
        · simp [epoch, Except.map, Except.toOption]
        · by_cases ready : (a && b && r && d) = true <;>
            simp [epoch, ready, Except.map, Except.toOption]
    | abort detail =>
      simp only [RoleCoordinator.call, RoleCoordinator.callAbort, methodOutcome,
        RoleCoordinator.abort, wp_bind, wp_read, wp_update]
      cases found : c.pending with
      | none =>
        have unchanged : { c with pending := none } = c := by rw [← found]
        simp [unchanged, Except.map, Except.toOption]
      | some pending => simp [Except.map, Except.toOption]
  exact same

end EdgeKvm.Session
