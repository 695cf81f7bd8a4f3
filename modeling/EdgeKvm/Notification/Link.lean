import EdgeKvm.Notification.Hub

/-!
# One end of a notification link

`NotificationLink` of `notification_hub.rs`: `next`, one turn of its loop at a time, and
`receive`. An error of `receive` ends the worker, and with it the end of the link.
-/

namespace EdgeKvm.Notification

open EdgeKvm.Lib

/-- `NotificationLink`. `activity` says whether the peer confirmed the history owner; `changes`
    is the version of the hub's watch channel seen last, `none` after `mark_changed`. -/
structure NotificationLink where
  activity : Bool := false
  sentThrough : Nat := 0
  peer : String
  changes : Option Nat := none
  outgoing : List NotificationSync
  staged : Option (String × List NotificationRecord) := none
  dirty : Bool := false
  deriving DecidableEq, Repr

/-- `NotificationHub::link`. -/
def NotificationHub.link (hub : NotificationHub) (peer : String) (supported : Bool) :
    Option NotificationLink :=
  if !supported || !hub.enrolled peer ||
      (!hub.isCoordinator && peer ≠ hub.config.coordinatorFingerprint) then
    none
  else
    some { peer, outgoing := [.settings hub.config.coordinatorFingerprint] }

namespace NotificationLink

/-- The frames of one full snapshot. -/
def snapshot (store : Store) : List NotificationSync :=
  .snapshotStart store.epoch :: (store.records.map .record ++ [.snapshotEnd])

/-- The pending operations `next` has not sent on this link. -/
def unsent (link : NotificationLink) (store : Store) : List NotificationSync :=
  (store.pending.filter fun operation => link.sentThrough < operation.sequence).map .submit

/-- The end of the loop body in `NotificationLink::next`, with the store locked. -/
def fill (hub : NotificationHub) (link : NotificationLink) : NotificationLink :=
  if hub.isCoordinator then
    { link with dirty := false, outgoing := link.outgoing ++ snapshot hub.state }
  else
    { link with
      dirty := false
      outgoing := link.outgoing ++ link.unsent hub.state
      sentThrough := (hub.state.pending.map (·.sequence)).foldl max link.sentThrough }

/-- One turn of the loop in `NotificationLink::next`: the frame it returns, if it does, and the
    link afterwards; `none` while it waits. -/
def next (hub : NotificationHub) (link : NotificationLink) :
    Option (Option NotificationSync × NotificationLink) :=
  match link.outgoing with
  | event :: outgoing => some (some event, { link with outgoing })
  | [] =>
    -- No records and no local submissions before the peer confirmed the history owner.
    if !link.activity then
      none
    else if !link.dirty then
      if link.changes = some hub.changed then none
      else some (none, { link with changes := some hub.changed, dirty := true })
    else
      some (none, link.fill hub)

/-- The check for a full queue before an acknowledgement is pushed. -/
def pushAck (link : NotificationLink) (sequence : Nat) : Except String NotificationLink := do
  ensure (link.outgoing.length < maxRecords + maxPending + 4) "notification output queue full"
  return { link with outgoing := link.outgoing ++ [.ack sequence] }

/-- `NotificationLink::receive` of a `Submit`, on the coordinator. -/
def receiveSubmit (hub : NotificationHub) (link : NotificationLink)
    (operation : NotificationOperation) (persist : Persist) :
    NotificationHub × Except String NotificationLink :=
  match hub.state.apply link.peer operation with
  | .error error => (hub, .error error)
  | .ok (false, _) => (hub, link.pushAck operation.sequence)
  | .ok (true, next) =>
    let (hub, result) := hub.commit next persist
    (hub, result.bind fun _ => link.pushAck operation.sequence)

/-- `NotificationLink::receive` of an `Ack`, on a replica. The acknowledged operation is kept
    in the records until the next full snapshot. -/
def receiveAck (hub : NotificationHub) (link : NotificationLink) (sequence : Nat)
    (persist : Persist) : NotificationHub × Except String NotificationLink :=
  match Keyed.lookup NotificationOperation.sequence sequence hub.state.pending with
  | none => (hub, .ok link)
  | some operation =>
    let retained := { hub.state with
      pending := hub.state.pending.filter fun queued => queued.sequence ≠ sequence }
    match retained.apply hub.identity operation with
    | .error error => (hub, .error error)
    | .ok (_, next) =>
      let (hub, result) := hub.commit next persist
      (hub, result.map fun _ => link)

/-- `NotificationLink::receive` of a `SnapshotStart`, on a replica. -/
def receiveSnapshotStart (hub : NotificationHub) (link : NotificationLink) (epoch : String) :
    Except String NotificationLink := do
  ensure (epoch.utf8ByteSize = 32 ∧ epoch.toList.all isAsciiHexDigit)
    "invalid coordinator store epoch"
  ensure (hub.state.epoch = "" ∨ hub.state.epoch = epoch)
    "coordinator store reset; explicit recovery required"
  ensure (link.staged = none) "nested notification snapshot"
  return { link with staged := some (epoch, []) }

/-- The checks on a record of a snapshot. -/
def checkRecord (record : NotificationRecord) : Except String Unit := do
  validateKey record.key
  match record.content with
  | some content => validateContent content
  | none => pure ()

/-- `NotificationLink::receive` of a `Record`, on a replica. -/
def receiveRecord (link : NotificationLink) (record : NotificationRecord) :
    Except String NotificationLink := do
  checkRecord record
  match link.staged with
  | none => .error "notification record outside snapshot"
  | some (epoch, records) =>
    ensure (records.length < maxRecords ∧ ∀ known ∈ records, known.key ≠ record.key)
      "notification snapshot capacity/duplicate key"
    return { link with staged := some (epoch, records ++ [record]) }

/-- `NotificationLink::receive` of a `SnapshotEnd`, on a replica. -/
def receiveSnapshotEnd (hub : NotificationHub) (link : NotificationLink) (persist : Persist) :
    NotificationHub × Except String NotificationLink :=
  match link.staged with
  | none => (hub, .error "notification snapshot end without start")
  | some (epoch, records) =>
    let link := { link with staged := none }
    if hub.state.epoch = epoch ∧ hub.state.records = records then
      (hub, .ok link)
    else
      let (hub, result) := hub.commit { hub.state with epoch, records } persist
      (hub, result.map fun _ => link)

/-- `NotificationLink::receive` of `Settings`. -/
def receiveSettings (hub : NotificationHub) (link : NotificationLink) (coordinator : String) :
    Except String NotificationLink := do
  ensure (coordinator = hub.config.coordinatorFingerprint)
    "History owner differs between PCs. Choose the same computer in Notifications settings on both PCs"
  return { link with activity := true }

/-- `NotificationLink::receive`. -/
def receive (hub : NotificationHub) (link : NotificationLink) (event : NotificationSync)
    (persist : Persist) : NotificationHub × Except String NotificationLink :=
  match event with
  | .settings coordinator => (hub, link.receiveSettings hub coordinator)
  | event =>
    if !link.activity then
      (hub, .error "Notification peer did not confirm the history owner")
    else
      match hub.isCoordinator, event with
      | true, .submit operation => link.receiveSubmit hub operation persist
      | false, .ack sequence => link.receiveAck hub sequence persist
      | false, .snapshotStart epoch => (hub, link.receiveSnapshotStart hub epoch)
      | false, .record record => (hub, link.receiveRecord record)
      | false, .snapshotEnd => link.receiveSnapshotEnd hub persist
      | _, _ => (hub, .error "notification event from incorrect authority")

end NotificationLink

end EdgeKvm.Notification
