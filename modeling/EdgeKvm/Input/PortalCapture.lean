import EdgeKvm.Input.EisEvents
import EdgeKvm.Lib.Handler

/-!
# The capture of Linux

`run_portal_capture` of `crates/edge-linux-input/src/portal_capture.rs`, from the moment its setup
is done: the branches of its loop, the cleanup behind the loop, and what the owner of the
`PortalCaptureBackend` does to the lease and to the commands. The answers of the portal are
inputs, and every call is recorded with how it ended. The fractions of `f32` are parameters.
-/

namespace EdgeKvm.Input

open EdgeKvm.Lib EdgeKvm.Session Handler

/-- `CAPTURE_OWNER_LEASE`, in milliseconds. -/
def captureOwnerLease : Nat := 3000

/-- `CaptureEvent`. -/
inductive CaptureEvent where
  | activated (activationId : UInt32) (edge : Edge) (normalizedPosition : UInt32)
  | input (event : InputEvent)
  | deactivated
  | emergencyReleased
  | layoutChanged (previousZoneSet currentZoneSet : UInt32)
  | backendFailed (detail : String)
  deriving DecidableEq, Repr

/-- `CaptureCommand`. -/
inductive CaptureCommand where
  | arm
  | release (cursorPosition : Option (UInt64 × UInt64))
  | disarm
  | shutdown
  deriving DecidableEq, Repr

/-! ## Barriers -/

/-- An edge in a message. -/
def edgeDebug : Edge → String
  | .left => "Left"
  | .right => "Right"
  | .top => "Top"
  | .bottom => "Bottom"

/-- A region of the portal's zones. -/
structure Region where
  x : Int
  y : Int
  width : UInt32
  height : UInt32
  deriving DecidableEq, Repr

/-- `BarrierMetadata`. -/
structure BarrierMetadata where
  edge : Edge
  x : Int
  y : Int
  width : UInt32
  height : UInt32
  deriving DecidableEq, Repr

/-- `as i32`. -/
def asI32 (n : UInt32) : Int :=
  if n.toNat < 0x80000000 then n.toNat else n.toNat - UInt32.size

/-- What `saturating_add` and `saturating_sub` of `i32` make of a sum. -/
def saturateI32 (n : Int) : Int := max (-0x80000000) (min 0x7fffffff n)

/-- The ends of the barrier that `configure_barriers` asks for along an edge of a region. -/
def barrierPosition (edge : Edge) (region : Region) : Int × Int × Int × Int :=
  let right := saturateI32 (region.x + asI32 region.width)
  let bottom := saturateI32 (region.y + asI32 region.height)
  match edge with
  | .left => (region.x, region.y, region.x, saturateI32 (bottom - 1))
  | .right => (right, region.y, right, saturateI32 (bottom - 1))
  | .top => (region.x, region.y, saturateI32 (right - 1), region.y)
  | .bottom => (region.x, bottom, saturateI32 (right - 1), bottom)

/-- The barriers that `configure_barriers` requests: number, position and metadata. -/
def requestedBarriers (edge : Edge) (regions : List Region) :
    List (UInt32 × (Int × Int × Int × Int) × BarrierMetadata) :=
  regions.zipIdx.map fun (region, index) =>
    (UInt32.ofNat (index + 1), barrierPosition edge region,
      { edge, x := region.x, y := region.y, width := region.width, height := region.height })

/-- `ActivatedBarrier`. -/
inductive ActivatedBarrier where
  | barrier (id : UInt32)
  | unknownBarrier
  deriving DecidableEq, Repr

/-- `barrier_metadata`. -/
def barrierMetadata (barriers : List (UInt32 × BarrierMetadata)) :
    ActivatedBarrier → Option BarrierMetadata
  | .barrier id => Ordered.get id barriers
  | .unknownBarrier => none

/-- The arithmetic on fractions; `normalized position origin extent` is the clamped quotient of
    `normalized_cursor_position`. -/
structure PortalArithmetic where
  ei : EiArithmetic
  normalized : UInt32 → Int → UInt32 → UInt32

/-- `normalized_cursor_position`, as the bits of the fraction. -/
def normalizedCursorPosition (a : PortalArithmetic) (barrier : BarrierMetadata) :
    Option (UInt32 × UInt32) → UInt32
  | none => 0x3f000000
  | some (cursorX, cursorY) =>
    let (position, origin, extent) := match barrier.edge with
      | .left | .right => (cursorY, barrier.y, barrier.height)
      | .top | .bottom => (cursorX, barrier.x, barrier.width)
    if extent ≤ 1 then 0 else a.normalized position origin extent

/-! ## The portal -/

/-- A call to the portal. -/
inductive PortalCall where
  | enable
  | disable
  | release (activationId : UInt32) (cursorPosition : Option (UInt64 × UInt64))
  | close
  | zones
  | setPointerBarriers (barriers : List (UInt32 × (Int × Int × Int × Int))) (zoneSet : UInt32)
  deriving DecidableEq, Repr

/-- How a call ended. -/
inductive CallEnd where
  | done
  | failed
  | timedOut
  deriving DecidableEq, Repr

/-- What came back from a call; a `Response` that holds an error counts as failed. -/
inductive CallReply (α : Type) where
  | done (value : α)
  | failed (error : String)
  | timedOut
  deriving DecidableEq, Repr

def CallReply.ending {α : Type} : CallReply α → CallEnd
  | .done _ => .done
  | .failed _ => .failed
  | .timedOut => .timedOut

/-- The result of `portal_command`. -/
def portalCommand {α : Type} (name : String) : CallReply α → Except String α
  | .done value => .ok value
  | .failed error => .error ("InputCapture portal: " ++ error)
  | .timedOut =>
    .error ("InputCapture portal " ++ name ++ " call timed out after two seconds")

/-- The answer to `GetZones`. -/
structure Zones where
  regions : List Region
  zoneSet : UInt32
  deriving DecidableEq, Repr

/-- The answers to the calls of a teardown. -/
structure TeardownReplies where
  release : CallEnd := .done
  disable : CallEnd := .done
  close : CallEnd := .done
  deriving DecidableEq, Repr

/-- The answers to the calls that one event can lead to: `call` is the one the branch makes itself,
    `zones` and `setPointerBarriers` are those of `configure_barriers`, `failsafe` those of
    `force_close_portal_capture`, and `shutdown` those behind the loop. -/
structure PortalReplies where
  call : CallReply Unit := .done ()
  zones : CallReply Zones := .failed ""
  setPointerBarriers : CallReply (List UInt32) := .done []
  failsafe : TeardownReplies := {}
  shutdown : TeardownReplies := {}
  deriving DecidableEq, Repr

/-- The signal `Activated`. -/
structure ActivatedSignal where
  activationId : Option UInt32
  barrierId : Option ActivatedBarrier
  cursorPosition : Option (UInt32 × UInt32) := none
  deriving DecidableEq, Repr

/-- What the monitor of the portal's owner delivers. -/
inductive OwnerChange where
  | changed (newOwner : Option String)
  | undecodable (error : String)
  | ended
  deriving DecidableEq, Repr

/-- The observed owner and the detail of the message. -/
def OwnerChange.observed (generation : String) : OwnerChange → Option String × String
  | .changed none => (none, generation ++ " -> no owner")
  | .changed (some owner) => (some owner, generation ++ " -> " ++ owner)
  | .undecodable error => (none, "could not decode portal owner change: " ++ error)
  | .ended => (none, "portal owner-change monitor ended")

/-- What the worker does; `reported` is an activation that the portal reports with an id. -/
inductive PortalEffect where
  | sent (event : CaptureEvent)
  | called (call : PortalCall) (ended : CallEnd)
  | answered (result : Except String Unit)
  | reported (activationId : UInt32)
  | ended
  deriving DecidableEq

/-! ## The worker -/

/-- The variables of `run_portal_capture`, and what it shares with its owner: the lease of
    `CaptureOwnerLease`, with the milliseconds that have passed since its epoch, and the commands
    under way. -/
structure PortalWorker where
  edge : Edge
  portalGeneration : String
  zoneSet : UInt32
  barriers : List (UInt32 × BarrierMetadata)
  activationId : Option UInt32 := none
  inputState : CaptureInputState := {}
  armed : Bool := false
  portalOwnerValid : Bool := true
  elapsedMillis : Nat := 0
  deadlineMillis : Nat := 0
  commands : List CaptureCommand := []
  deriving DecidableEq, Repr

namespace PortalWorker

/-- `CaptureOwnerLease::renew`. -/
def renew (w : PortalWorker) : PortalWorker :=
  { w with deadlineMillis := max 1 (min (w.elapsedMillis + captureOwnerLease) (UInt64.size - 1)) }

/-- `CaptureOwnerLease::clear`. -/
def clearLease (w : PortalWorker) : PortalWorker := { w with deadlineMillis := 0 }

/-- `CaptureOwnerLease::expired`. -/
def expired (w : PortalWorker) : Bool :=
  w.deadlineMillis ≠ 0 && w.deadlineMillis ≤ w.elapsedMillis

/-- `input_state.clear()`. -/
def clearInput (w : PortalWorker) : PortalWorker := { w with inputState := w.inputState.clear }

end PortalWorker

/-- A branch of the loop; it leaves the loop with the result of the worker. -/
abbrev PortalM := Handler PortalWorker PortalEffect (Except String Unit)

/-- A call through `portal_command`. -/
def callPortal {α : Type} (name : String) (call : PortalCall) (reply : CallReply α) :
    PortalM (Except String α) := do
  emit (.called call reply.ending)
  pure (portalCommand name reply)

/-- A call through `portal_command` whose failure ends the worker. -/
def callOrLeave {α : Type} (name : String) (call : PortalCall) (reply : CallReply α) :
    PortalM α := do
  let result ← callPortal name call reply
  ofExcept Except.error result

/-- `AllKeysUp` is sent and the pressed keys are forgotten. -/
def releaseKeys : PortalM Unit := do
  update PortalWorker.clearInput
  emit (.sent (.input .allKeysUp))

/-- The calls of `force_close_portal_capture`, also those behind the loop. -/
def tearDown (replies : TeardownReplies) : PortalM Unit := do
  let w ← read
  if let some id := w.activationId then
    update fun w => { w with activationId := none }
    emit (.called (.release id none) replies.release)
  emit (.called .disable replies.disable)
  emit (.called .close replies.close)

/-- `configure_barriers`. -/
def configureBarriers (edge : Edge) (replies : PortalReplies) :
    PortalM (UInt32 × List (UInt32 × BarrierMetadata)) := do
  let zones ← callOrLeave "GetZones" .zones replies.zones
  if zones.regions = [] then
    leave (.error "InputCapture portal returned no pointer-barrier zones")
  else
    let requested := requestedBarriers edge zones.regions
    let failed ← callOrLeave "SetPointerBarriers"
      (.setPointerBarriers (requested.map fun (id, position, _) => (id, position)) zones.zoneSet)
      replies.setPointerBarriers
    let accepted := (requested.filter fun (id, _) => id ∉ failed).map fun (id, _, metadata) =>
      (id, metadata)
    if accepted = [] then
      leave (.error ("InputCapture portal rejected every requested " ++ edgeDebug edge ++
        " pointer barrier"))
    else
      pure (zones.zoneSet, accepted)

/-- `error.to_string()`. -/
def libeiInitText (detail : String) : String := "failed to initialize libei backend: " ++ detail

namespace PortalM

/-- The branch of `portal_owner_changes`. -/
def ownerChanged (change : OwnerChange) : PortalM Unit := do
  let w ← read
  let (owner, detail) := change.observed w.portalGeneration
  if owner ≠ some w.portalGeneration then
    update fun w => { w.clearLease with portalOwnerValid := false }
    releaseKeys
    leave (.error ("xdg-desktop-portal owner changed while capture was active (" ++ detail ++
      "); discarded the stale session"))

/-- The command `Arm`. On an error the owner clears the lease once more, before any other call. -/
def arm (reply : CallReply Unit) : PortalM Unit := do
  let result ← callPortal "Enable" .enable reply
  update fun w => { w with armed := result.isOk }
  if ¬ result.isOk then
    update PortalWorker.clearLease
  emit (.answered result)

/-- The command `Release`. -/
def release (cursorPosition : Option (UInt64 × UInt64)) (reply : CallReply Unit) :
    PortalM Unit := do
  let w ← read
  match w.activationId with
  | none => emit (.answered (.ok ()))
  | some id =>
    let result ← callPortal "Release" (.release id cursorPosition) reply
    if result.isOk then
      update fun w => { w with activationId := none }
    emit (.answered result)

/-- The command `Disarm`. -/
def disarm (reply : CallReply Unit) (failsafe : TeardownReplies) : PortalM Unit := do
  update fun w => { w.clearLease with armed := false }
  let result ← callPortal "Disable" .disable reply
  emit (.answered result)
  match result with
  | .ok () => update fun w => { w with activationId := none }
  | .error detail =>
    releaseKeys
    tearDown failsafe
    emit (.sent .emergencyReleased)
    leave (.error ("failed to disable capture; portal session was closed to restore local input: "
      ++ libeiInitText detail))

/-- The command `Shutdown`, or the end of the commands. -/
def shutdown : PortalM Unit := do
  update fun w => { w.clearLease with armed := false }
  leave (.ok ())

/-- The branch of `command_rx`. -/
def command (replies : PortalReplies) : PortalM Unit := do
  let w ← read
  match w.commands with
  | [] => pure ()
  | command :: rest =>
    update fun w => { w with commands := rest }
    match command with
    | .arm => arm replies.call
    | .release cursorPosition => release cursorPosition replies.call
    | .disarm => disarm replies.call replies.failsafe
    | .shutdown => shutdown

/-- The error of the lease watchdog. -/
def ownerSilent : String :=
  "capture owner stopped responding; portal session was closed to restore local input"

/-- The branch of `lease_watchdog`. -/
def leaseTick (failsafe : TeardownReplies) : PortalM Unit := do
  let w ← read
  if w.armed && w.expired then
    update fun w => { w.clearLease with armed := false }
    releaseKeys
    tearDown failsafe
    emit (.sent .emergencyReleased)
    leave (.error ownerSilent)

/-- The branch of `activated_events`. -/
def activated (a : PortalArithmetic) (signal : ActivatedSignal) : PortalM Unit := do
  if let some id := signal.activationId then
    emit (.reported id)
    update fun w => { w with activationId := some id }
    let w ← read
    if let some metadata := signal.barrierId.bind (barrierMetadata w.barriers) then
      emit (.sent (.activated id metadata.edge
        (normalizedCursorPosition a metadata signal.cursorPosition)))

/-- The branches of `deactivated_events` and `disabled_events`. -/
def deactivated : PortalM Unit := do
  update fun w => { w with activationId := none }
  releaseKeys
  emit (.sent .deactivated)

/-- The branch of `zones_changed_events`. -/
def zonesChanged (changedZoneSet : Option UInt32) (replies : PortalReplies) : PortalM Unit := do
  let w ← read
  let invalidated := changedZoneSet.getD w.zoneSet
  update fun w => { w.clearLease with armed := false }
  callOrLeave "Disable for layout change" .disable replies.call
  update fun w => { w with activationId := none }
  releaseKeys
  let (zoneSet, barriers) ← configureBarriers w.edge replies
  update fun w => { w with zoneSet, barriers }
  emit (.sent (.layoutChanged invalidated zoneSet))

/-- The branch of `closed_events`. -/
def closed : PortalM Unit := do
  releaseKeys
  leave (.error "InputCapture portal session was revoked")

/-- What the branch of `eis_events` does with the result of `handle_eis_event`. -/
def perform (reply : CallReply Unit) : Except String EisAction → PortalM Unit
  | .error failure => leave (.error failure)
  | .ok .none => pure ()
  | .ok (.input event) => emit (.sent (.input event))
  | .ok .emergencyRelease => do
    emit (.sent (.input .allKeysUp))
    let w ← read
    if let some id := w.activationId then
      callOrLeave "emergency Release" (.release id none) reply
      update fun w => { w with activationId := none }
    emit (.sent .emergencyReleased)

/-- The branch of `eis_events`; `none` is the end of the stream. -/
def eis (a : PortalArithmetic) (event : Option (Except String EiEvent)) (reply : CallReply Unit) :
    PortalM Unit := do
  match event with
  | none =>
    releaseKeys
    leave (.error "EIS event stream closed")
  | some (.error failure) => leave (.error failure)
  | some (.ok event) =>
    let w ← read
    let handled := handleEisEvent a.ei event w.inputState
    update fun w => { w with inputState := handled.2 }
    perform reply handled.1

end PortalM

/-! ## The worker and its owner -/

/-- What the owner does: `keep_alive`, the beginning of `arm`, `release` and `disarm`, and the end
    of the backend. -/
inductive OwnerCall where
  | keepAlive
  | arm
  | release (cursorPosition : Option (UInt64 × UInt64))
  | disarm
  | drop
  deriving DecidableEq, Repr

/-- `PortalCaptureBackend`, up to the answer. -/
def OwnerCall.apply (w : PortalWorker) : OwnerCall → PortalWorker
  | .keepAlive => w.renew
  | .arm => { w.renew with commands := w.commands ++ [.arm] }
  | .release cursorPosition => { w with commands := w.commands ++ [.release cursorPosition] }
  | .disarm => { w.clearLease with commands := w.commands ++ [.disarm] }
  | .drop => { w.clearLease with commands := w.commands ++ [.shutdown] }

/-- The branches of the loop. -/
inductive PortalEvent where
  | ownerChanged (change : OwnerChange)
  | command
  | leaseTick
  | activated (signal : ActivatedSignal)
  | deactivated
  | disabled
  | zonesChanged (zoneSet : Option UInt32)
  | closed
  | eis (event : Option (Except String EiEvent))
  deriving DecidableEq

/-- The handler of each branch. -/
def PortalM.handle (a : PortalArithmetic) (replies : PortalReplies) : PortalEvent → PortalM Unit
  | .ownerChanged change => ownerChanged change
  | .command => command replies
  | .leaseTick => leaseTick replies.failsafe
  | .activated signal => activated a signal
  | .deactivated | .disabled => deactivated
  | .zonesChanged zoneSet => zonesChanged zoneSet replies
  | .closed => closed
  | .eis event => eis a event replies.call

/-- Time passes, the owner does something, or the worker handles an event. -/
inductive PortalStep where
  | elapse (millis : Nat)
  | owner (call : OwnerCall)
  | event (event : PortalEvent) (replies : PortalReplies)
  deriving DecidableEq

/-- The worker, what it has done so far, and its result once it has ended. -/
structure PortalCapture where
  worker : PortalWorker
  history : List PortalEffect := []
  finished : Option (Except String Unit) := none

namespace PortalCapture

/-- What the thread of the worker sends behind the worker. -/
def farewell : Except String Unit → List PortalEffect
  | .ok () => [.ended]
  | .error detail => [.sent (.backendFailed (libeiInitText detail)), .ended]

/-- The cleanup behind the loop. -/
def finish (s : PortalCapture) (turn : Turn PortalWorker PortalEffect (Except String Unit) Unit)
    (outcome : Except String Unit) (shutdown : TeardownReplies) : PortalCapture :=
  let last := (if turn.state.portalOwnerValid then tearDown shutdown else pure ()) turn.state
  { worker := last.state
    history := s.history ++ turn.output ++ last.output ++ farewell outcome
    finished := some outcome }

def exec (a : PortalArithmetic) (s : PortalCapture) (step : PortalStep) : Option PortalCapture :=
  if s.finished.isSome then none
  else match step with
    | .elapse millis =>
      some { s with worker.elapsedMillis := s.worker.elapsedMillis + millis }
    | .owner call => some { s with worker := call.apply s.worker }
    | .event event replies =>
      let turn := PortalM.handle a replies event s.worker
      match turn.result with
      | .ok () => some { s with worker := turn.state, history := s.history ++ turn.output }
      | .error outcome => some (s.finish turn outcome replies.shutdown)

def machine (a : PortalArithmetic) : Machine PortalCapture PortalStep := ⟨exec a⟩

/-- The worker once its setup is done. -/
def start (edge : Edge) (portalGeneration : String) (zoneSet : UInt32)
    (barriers : List (UInt32 × BarrierMetadata)) : PortalCapture :=
  { worker := { edge, portalGeneration, zoneSet, barriers } }

end PortalCapture

end EdgeKvm.Input
