import EdgeKvm.Notification.Link
import EdgeKvm.Lib.Machine
import Mathlib.Logic.Function.Basic

/-!
# One coordinator and its replicas

The hubs of all computers, the links between the coordinator and each replica, and every step
they can take: local operations, the turns of the link workers, deliveries in order, persist
failures, lost links, reconnects, and restarts from the store on disk.

A node has one session with a peer at a time, and a new end waits for the peer's `Settings`
before it sends anything else. `connect` is therefore the moment the later of the two ends is
opened; until then the earlier side counts as dropped, while the other side may still take in
frames of the old session.
-/

namespace EdgeKvm.Notification

open EdgeKvm.Lib

/-- The link between the coordinator and one replica: both ends, and the frames that left an end
    and are still to be received, oldest first. -/
structure Connection where
  coordinatorEnd : Option NotificationLink := none
  replicaEnd : Option NotificationLink := none
  toReplica : List NotificationSync := []
  toCoordinator : List NotificationSync := []

/-- The coordinator, one replica and their link. -/
structure Pair where
  coordinator : NotificationHub
  replica : NotificationHub
  connection : Connection

/-- The steps of one replica and its link. -/
inductive LinkAction where
  | replicaLocal (key : NotificationKey) (content : Option SharedNotification)
      (persist : Persist)
  | replicaPhone (phoneInstances : List (String × PhoneInstance))
      (importedPhones : List (String × String))
      (operations : List (String × Option SharedNotification)) (persist : Persist)
  | replicaPublish
  | replicaCrash
  | replicaNext
  | coordinatorNext
  | deliverToReplica (persist : Persist)
  | deliverToCoordinator (persist : Persist)
  | connect (coordinatorSupports replicaSupports : Bool)
  | dropCoordinatorEnd
  | dropReplicaEnd

namespace Pair

/-- A replica's hub after a routine of its own. -/
def withReplica (pair : Pair) (hub : NotificationHub) : Pair := { pair with replica := hub }

/-- The replica's process ends: its links are gone, and it starts from the store on disk. -/
def crashReplica (pair : Pair) : Option Pair :=
  match pair.replica.restart with
  | .error _ => none
  | .ok hub =>
    some { pair with replica := hub, connection := { pair.connection with replicaEnd := none } }

/-- A turn of the replica's link worker. -/
def replicaNext (pair : Pair) : Option Pair := do
  let link ← pair.connection.replicaEnd
  let (event, link) ← link.next pair.replica
  return { pair with
    connection := { pair.connection with
      replicaEnd := some link
      toCoordinator := pair.connection.toCoordinator ++ event.toList } }

/-- A turn of the coordinator's link worker. -/
def coordinatorNext (pair : Pair) : Option Pair := do
  let link ← pair.connection.coordinatorEnd
  let (event, link) ← link.next pair.coordinator
  return { pair with
    connection := { pair.connection with
      coordinatorEnd := some link
      toReplica := pair.connection.toReplica ++ event.toList } }

/-- The replica takes in the oldest frame; an end that is gone ignores it. -/
def deliverToReplica (pair : Pair) (persist : Persist) : Option Pair :=
  match pair.connection.toReplica with
  | [] => none
  | event :: toReplica =>
    match pair.connection.replicaEnd with
    | none => some { pair with connection := { pair.connection with toReplica } }
    | some link =>
      let received := link.receive pair.replica event persist
      some { pair with
        replica := received.1
        connection := { pair.connection with replicaEnd := received.2.toOption, toReplica } }

/-- The coordinator takes in the oldest frame; an end that is gone ignores it. -/
def deliverToCoordinator (pair : Pair) (persist : Persist) : Option Pair :=
  match pair.connection.toCoordinator with
  | [] => none
  | event :: toCoordinator =>
    match pair.connection.coordinatorEnd with
    | none => some { pair with connection := { pair.connection with toCoordinator } }
    | some link =>
      let received := link.receive pair.coordinator event persist
      some { pair with
        coordinator := received.1
        connection :=
          { pair.connection with coordinatorEnd := received.2.toOption, toCoordinator } }

/-- A new session between the two. -/
def connect (pair : Pair) (coordinatorSupports replicaSupports : Bool) : Pair :=
  { pair with
    connection :=
      { coordinatorEnd := pair.coordinator.link pair.replica.identity replicaSupports
        replicaEnd := pair.replica.link pair.coordinator.identity coordinatorSupports } }

def exec (pair : Pair) : LinkAction → Option Pair
  | .replicaLocal key content persist =>
    some (pair.withReplica (pair.replica.local' key content persist).1)
  | .replicaPhone phoneInstances importedPhones operations persist =>
    some (pair.withReplica
      (pair.replica.applyPhone phoneInstances importedPhones operations persist).1)
  | .replicaPublish => pair.replica.publish.map pair.withReplica
  | .replicaCrash => pair.crashReplica
  | .replicaNext => pair.replicaNext
  | .coordinatorNext => pair.coordinatorNext
  | .deliverToReplica persist => pair.deliverToReplica persist
  | .deliverToCoordinator persist => pair.deliverToCoordinator persist
  | .connect coordinatorSupports replicaSupports =>
    some (pair.connect coordinatorSupports replicaSupports)
  | .dropCoordinatorEnd =>
    some { pair with connection := { pair.connection with coordinatorEnd := none } }
  | .dropReplicaEnd =>
    some { pair with connection := { pair.connection with replicaEnd := none } }

end Pair

universe u

/-- The coordinator and the replicas `ι`. -/
structure World (ι : Type u) where
  coordinator : NotificationHub
  replica : ι → NotificationHub
  connection : ι → Connection

inductive Action (ι : Type u) where
  | coordinatorLocal (key : NotificationKey) (content : Option SharedNotification)
      (persist : Persist)
  | coordinatorPhone (phoneInstances : List (String × PhoneInstance))
      (importedPhones : List (String × String))
      (operations : List (String × Option SharedNotification)) (persist : Persist)
  | coordinatorPublish
  | coordinatorCrash
  | link (i : ι) (action : LinkAction)

namespace World

variable {ι : Type u}

/-- The part of the world a step of replica `i` and its link works on. -/
def pair (world : World ι) (i : ι) : Pair :=
  { coordinator := world.coordinator, replica := world.replica i,
    connection := world.connection i }

def withPair [DecidableEq ι] (world : World ι) (i : ι) (pair : Pair) : World ι :=
  { coordinator := pair.coordinator
    replica := Function.update world.replica i pair.replica
    connection := Function.update world.connection i pair.connection }

/-- The coordinator's process ends: its links are gone, and it starts from the store on disk. -/
def crashCoordinator (world : World ι) : Option (World ι) :=
  match world.coordinator.restart with
  | .error _ => none
  | .ok hub =>
    some { world with
      coordinator := hub
      connection := fun i => { world.connection i with coordinatorEnd := none } }

def exec [DecidableEq ι] (world : World ι) : Action ι → Option (World ι)
  | .coordinatorLocal key content persist =>
    some { world with coordinator := (world.coordinator.local' key content persist).1 }
  | .coordinatorPhone phoneInstances importedPhones operations persist =>
    some { world with
      coordinator :=
        (world.coordinator.applyPhone phoneInstances importedPhones operations persist).1 }
  | .coordinatorPublish =>
    world.coordinator.publish.map fun hub => { world with coordinator := hub }
  | .coordinatorCrash => world.crashCoordinator
  | .link i action => ((world.pair i).exec action).map (world.withPair i)

end World

/-- The notification system of the replicas `ι`. -/
def system (ι : Type u) [DecidableEq ι] : Machine (World ι) (Action ι) := ⟨World.exec⟩

/-- A hub as its first start leaves it, with the epoch a coordinator draws. -/
def NotificationHub.start (config : NotificationConfig) (identity epoch : String) :
    NotificationHub :=
  let store : Store :=
    { coordinator := config.coordinatorFingerprint
      epoch := if identity = config.coordinatorFingerprint then epoch else ""
      localIdentity := identity }
  { config, identity, state := store, disk := store }

/-- Every computer starts with an empty store, and all name the same coordinator. -/
structure World.Initial {ι : Type u} (world : World ι) : Prop where
  coordinator : ∃ config epoch, config.coordinatorFingerprint = world.coordinator.identity ∧
    world.coordinator = .start config world.coordinator.identity epoch
  replica : ∀ i, ∃ config, config.coordinatorFingerprint = world.coordinator.identity ∧
    (world.replica i).identity ≠ world.coordinator.identity ∧
    world.replica i = .start config (world.replica i).identity ""
  connection : ∀ i, world.connection i = {}

end EdgeKvm.Notification
