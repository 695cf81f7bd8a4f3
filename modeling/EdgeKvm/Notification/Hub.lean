import EdgeKvm.Notification.Store

/-!
# The notification hub

`NotificationHub` of `notification_hub.rs`: the store in memory and the one on disk, the commit
that moves a new store from the first to the second, and the two routines that commit local
operations. Publishing a commit to the links is a step of its own, as the store's lock is
released before it.
-/

namespace EdgeKvm.Notification

open EdgeKvm.Lib

/-- `NotificationConfig`. -/
structure NotificationConfig where
  coordinatorFingerprint : String
  peers : List String
  deriving DecidableEq, Repr

/-- How `NotificationHub::persist` ends. An error may come after the rename that already put
    the new store in place. -/
inductive Persist where
  | stored
  | failed (renamed : Bool) (error : String)
  deriving DecidableEq, Repr

/-- `Inner`: `disk` is the store at `path`, `changed` the version of the watch channel, and
    `unpublished` counts the commits whose `publish` is still to come. -/
structure NotificationHub where
  config : NotificationConfig
  identity : String
  state : Store
  disk : Store
  changed : Nat := 0
  unpublished : Nat := 0
  deriving DecidableEq, Repr

namespace NotificationHub

/-- `NotificationHub::is_coordinator`. -/
def isCoordinator (hub : NotificationHub) : Bool :=
  hub.identity = hub.config.coordinatorFingerprint

/-- `NotificationHub::enrolled`. -/
def enrolled (hub : NotificationHub) (peer : String) : Bool := peer ∈ hub.config.peers

/-- `self.persist(&next).await?; *state = next; drop(state);`, the commit of every routine that
    changes the store. -/
def commit (hub : NotificationHub) (next : Store) :
    Persist → NotificationHub × Except String Unit
  | .stored =>
    ({ hub with state := next, disk := next, unpublished := hub.unpublished + 1 }, .ok ⟨⟩)
  | .failed renamed error =>
    ({ hub with disk := if renamed then next else hub.disk }, .error error)

/-- `NotificationHub::publish`, when a commit is waiting for it. -/
def publish (hub : NotificationHub) : Option NotificationHub :=
  if hub.unpublished = 0 then none
  else some { hub with changed := hub.changed + 1, unpublished := hub.unpublished - 1 }

/-- `NotificationHub::local`. -/
def local' (hub : NotificationHub) (key : NotificationKey) (content : Option SharedNotification)
    (persist : Persist) : NotificationHub × Except String Unit :=
  match hub.state.queueLocal key content hub.isCoordinator with
  | .error error => (hub, .error error)
  | .ok (false, _) => (hub, .ok ⟨⟩)
  | .ok (true, next) => hub.commit next persist

/-- The operation a call of `local'` accepts: the one it numbered and stored. -/
def accepts (hub : NotificationHub) (key : NotificationKey)
    (content : Option SharedNotification) (persist : Persist) : Option NotificationOperation :=
  match hub.state.queueLocal key content hub.isCoordinator, persist with
  | .ok (true, _), .stored => some (hub.state.nextOperation key content)
  | _, _ => none

/-- The `queue_local` calls of `PhoneNotificationSource::apply_inner`, all on one store. -/
def queueAll (hub : NotificationHub) :
    List (String × Option SharedNotification) → Store → Except String (Bool × Store)
  | [], store => .ok (false, store)
  | (instance', content) :: operations, store => do
    let (changed, next) ←
      store.queueLocal { origin := hub.identity, instance' } content hub.isCoordinator
    let (changed', last) ← hub.queueAll operations next
    return (changed || changed', last)

/-- The commit of `PhoneNotificationSource::apply_inner`: the phone identities an event left
    behind and the operations it asks for, in one store. -/
def applyPhone (hub : NotificationHub) (phoneInstances : List (String × PhoneInstance))
    (importedPhones : List (String × String))
    (operations : List (String × Option SharedNotification)) (persist : Persist) :
    NotificationHub × Except String Unit :=
  let edited := { hub.state with phoneInstances, importedPhones }
  match hub.queueAll operations edited with
  | .error error => (hub, .error error)
  | .ok (changed, next) =>
    if changed ∨ edited ≠ hub.state then hub.commit next persist else (hub, .ok ⟨⟩)

/-- `NotificationHub::start` on the store an earlier process left on disk, for an unchanged
    configuration. -/
def restart (hub : NotificationHub) : Except String NotificationHub := do
  ensure (hub.disk.localIdentity = hub.identity)
    "notification identity changed; explicit migration required"
  ensure (hub.disk.coordinator = hub.config.coordinatorFingerprint)
    "notification history owner changed; explicit migration required"
  ensure (hub.disk.records.length ≤ maxRecords ∧ hub.disk.pending.length ≤ maxPending)
    "notification store limits exceeded"
  return { hub with state := hub.disk, changed := 0, unpublished := 0 }

end NotificationHub

end EdgeKvm.Notification
