import EdgeKvm.Notification.Link
import EdgeKvm.Lib.Machine
import Mathlib.Logic.Function.Basic

/-!
# A notification session

`SessionLink` of `notification_hub.rs`: the frames of a session go through `enqueue`, which
gathers a snapshot in the session, and a bounded queue to the worker, which passes them to
`NotificationLink::receive`. `Node` is one computer with its hub and the sessions `ι`; what the
peers send is part of the action.
-/

namespace EdgeKvm.Notification

open EdgeKvm.Lib

/-- `MAX_STORE_BYTES`. -/
def maxStoreBytes : Nat := 32 * 1024 * 1024

/-- The capacity of the queues to and from the worker. -/
def queueCapacity : Nat := 32

/-- `IncomingSnapshot`; `bytes` is what its budget holds. -/
structure IncomingSnapshot where
  epoch : String
  records : List NotificationRecord := []
  bytes : Nat := 0
  deriving DecidableEq, Repr

/-- `IncomingNotification`. -/
inductive IncomingNotification where
  | event (frame : NotificationSync)
  | snapshot (incoming : IncomingSnapshot)
  deriving DecidableEq, Repr

namespace IncomingNotification

/-- The frames the worker passes to `NotificationLink::receive`. -/
def frames : IncomingNotification → List NotificationSync
  | .event frame => [frame]
  | .snapshot incoming =>
    .snapshotStart incoming.epoch :: (incoming.records.map .record ++ [.snapshotEnd])

def bytes : IncomingNotification → Nat
  | .event _ => 0
  | .snapshot incoming => incoming.bytes

end IncomingNotification

/-- The frames outside of snapshots. -/
def NotificationSync.isControl : NotificationSync → Bool
  | .snapshotStart _ | .record _ | .snapshotEnd => false
  | _ => true

/-- `SessionLink` and its worker. `current` is what is left of the request the worker is on and
    `currentBytes` its budget; a worker that stopped has dropped its link and its requests. -/
structure SessionLink where
  link : NotificationLink
  working : Bool := true
  current : List NotificationSync := []
  currentBytes : Nat := 0
  requests : List IncomingNotification := []
  staged : Option IncomingSnapshot := none
  bufferedBytes : Nat := 0
  outgoing : List NotificationSync := []
  deriving DecidableEq, Repr

/-- What a record takes of the budget. -/
def NotificationRecord.bytes (record : NotificationRecord) : Nat :=
  record.key.origin.utf8ByteSize + record.key.instance'.utf8ByteSize + 256 +
    match record.content with
    | none => 0
    | some content =>
      content.appName.utf8ByteSize + content.title.utf8ByteSize + content.body.utf8ByteSize +
        content.icon.utf8ByteSize + (content.iconPng.map List.length).getD 0

namespace SessionLink

/-- `SessionLink::spawn`. -/
def spawn (link : NotificationLink) : SessionLink := { link }

/-- `try_send` on the queue to the worker. -/
def request (session : SessionLink) (request : IncomingNotification) :
    Except String SessionLink := do
  ensure (session.working = true) "Notification worker stopped; reconnect to retry"
  ensure (session.requests.length < queueCapacity)
    "Notification worker queue is full; reconnect to retry"
  return { session with requests := session.requests ++ [request] }

/-- `SessionLink::enqueue`. -/
def enqueue (session : SessionLink) : NotificationSync → Except String SessionLink
  | .snapshotStart epoch => do
    ensure (session.staged = none) "nested notification snapshot"
    ensure (epoch.utf8ByteSize = 32) "invalid notification snapshot epoch"
    return { session with staged := some { epoch } }
  | .record record =>
    match session.staged with
    | none => .error "notification record outside snapshot"
    | some snapshot => do
      ensure (snapshot.records.length < maxRecords) "notification snapshot too large"
      ensure (session.bufferedBytes + record.bytes ≤ maxStoreBytes)
        "Notification snapshot buffer is full; reconnect to retry"
      return { session with
        staged := some { snapshot with
          records := snapshot.records ++ [record], bytes := snapshot.bytes + record.bytes }
        bufferedBytes := session.bufferedBytes + record.bytes }
  | .snapshotEnd =>
    match session.staged with
    | none => .error "notification snapshot end without start"
    | some snapshot => ({ session with staged := none } : SessionLink).request (.snapshot snapshot)
  | event => do
    ensure (session.staged = none) "notification control interrupted a snapshot"
    session.request (.event event)

/-- The worker breaks out of its loop; the budgets of its requests are given back. -/
def stop (session : SessionLink) : SessionLink :=
  { session with
    working := false, current := [], currentBytes := 0, requests := []
    bufferedBytes := (session.staged.map (·.bytes)).getD 0 }

/-- The worker is through with a frame; the budget is kept until the whole request is. -/
def advance (session : SessionLink) (link : NotificationLink) (current : List NotificationSync) :
    SessionLink :=
  if current = [] then
    { session with
      link, current, currentBytes := 0
      bufferedBytes := session.bufferedBytes - session.currentBytes }
  else { session with link, current }

/-- The worker takes the oldest request, or receives the next frame of the one it is on. -/
def work (session : SessionLink) (hub : NotificationHub) (persist : Persist) :
    Option (NotificationHub × SessionLink) :=
  if !session.working then none
  else match session.current, session.requests with
  | event :: current, _ =>
    let received := session.link.receive hub event persist
    match received.2 with
    | .ok link => some (received.1, session.advance link current)
    | .error _ => some (received.1, session.stop)
  | [], request :: requests =>
    some (hub, { session with
      current := request.frames, currentBytes := request.bytes, requests })
  | [], [] => none

/-- The worker, with no request to take, turns the loop of `NotificationLink::next`; what comes
    out goes to the session. -/
def emit (session : SessionLink) (hub : NotificationHub) : Option SessionLink :=
  if session.working && session.current.isEmpty && session.requests.isEmpty &&
      session.outgoing.length < queueCapacity then
    (session.link.next hub).map fun turn =>
      { session with link := turn.2, outgoing := session.outgoing ++ turn.1.toList }
  else none

/-- `notification_hub::next`: the oldest frame leaves for the peer. -/
def forward (session : SessionLink) : Option (NotificationSync × SessionLink) :=
  match session.outgoing with
  | [] => none
  | event :: outgoing => some (event, { session with outgoing })

/-! ## What a step did -/

variable {session session' : SessionLink} {hub : NotificationHub} {persist : Persist}
  {event : NotificationSync}

/-- What `try_send` did when it succeeded. -/
theorem request_eq_ok {request : IncomingNotification}
    (sent : session.request request = .ok session') :
    session.working = true ∧ session.requests.length < queueCapacity ∧
      session' = { session with requests := session.requests ++ [request] } := by
  simp only [SessionLink.request, bind_eq_ok, ensure_eq_ok, pure_eq_ok] at sent
  obtain ⟨-, working, -, room, rfl⟩ := sent
  exact ⟨working, room, rfl⟩

/-- What a session does with a frame it does not refuse. -/
inductive Enqueued (session : SessionLink) : NotificationSync → SessionLink → Prop
  | opened {epoch : String} (outside : session.staged = none) :
      Enqueued session (.snapshotStart epoch) { session with staged := some { epoch } }
  | gathered {incoming : IncomingSnapshot} {record : NotificationRecord} {bytes buffered : Nat}
      (staged : session.staged = some incoming) :
      Enqueued session (.record record) { session with
        staged := some { incoming with records := incoming.records ++ [record], bytes }
        bufferedBytes := buffered }
  | finished {incoming : IncomingSnapshot} (staged : session.staged = some incoming) :
      Enqueued session .snapshotEnd { session with
        staged := none, requests := session.requests ++ [.snapshot incoming] }
  | control {event : NotificationSync} (control : event.isControl = true)
      (outside : session.staged = none) :
      Enqueued session event { session with
        requests := session.requests ++ [.event event] }

theorem enqueue_cases (taken : session.enqueue event = .ok session') :
    session.Enqueued event session' := by
  have control : event.isControl = true → (do
      ensure (session.staged = none) "notification control interrupted a snapshot"
      session.request (.event event)) = .ok session' → session.Enqueued event session' := by
    intro control taken
    simp only [bind_eq_ok, ensure_eq_ok] at taken
    obtain ⟨-, outside, sent⟩ := taken
    obtain ⟨-, -, rfl⟩ := request_eq_ok sent
    exact .control control outside
  cases event with
  | submit operation | ack sequence | settings coordinator => exact control rfl taken
  | snapshotStart epoch =>
    simp only [enqueue, bind_eq_ok, ensure_eq_ok, pure_eq_ok] at taken
    obtain ⟨-, outside, -, valid, rfl⟩ := taken
    exact .opened outside
  | record record =>
    simp only [enqueue] at taken
    split at taken
    · cases taken
    · rename_i incoming staged
      simp only [bind_eq_ok, ensure_eq_ok, pure_eq_ok] at taken
      obtain ⟨-, small, -, room, rfl⟩ := taken
      exact .gathered staged
  | snapshotEnd =>
    simp only [enqueue] at taken
    split at taken
    · cases taken
    · rename_i incoming staged
      obtain ⟨-, -, rfl⟩ := request_eq_ok taken
      exact .finished staged

/-- What a step of the worker did. -/
inductive Worked (session : SessionLink) (hub : NotificationHub) (persist : Persist) :
    NotificationHub × SessionLink → Prop
  | took {request : IncomingNotification} {requests : List IncomingNotification}
      (working : session.working = true) (current : session.current = [])
      (queued : session.requests = request :: requests) :
      Worked session hub persist (hub, { session with
        current := request.frames, currentBytes := request.bytes, requests })
  | received {event : NotificationSync} {rest : List NotificationSync} {link : NotificationLink}
      (working : session.working = true) (current : session.current = event :: rest)
      (received : (session.link.receive hub event persist).2 = .ok link) :
      Worked session hub persist
        ((session.link.receive hub event persist).1, session.advance link rest)
  | stopped {event : NotificationSync} {rest : List NotificationSync}
      (working : session.working = true) (current : session.current = event :: rest) :
      Worked session hub persist
        ((session.link.receive hub event persist).1, session.stop)

theorem work_cases {worked : NotificationHub × SessionLink}
    (executed : session.work hub persist = some worked) :
    session.Worked hub persist worked := by
  unfold work at executed
  split at executed
  · cases executed
  · rename_i working
    split at executed
    · rename_i _ event rest current
      dsimp only at executed
      split at executed
      · rename_i link received
        cases executed
        exact .received (by simpa using working) current received
      · cases executed
        exact .stopped (by simpa using working) current
    · rename_i request requests current queued
      cases executed
      exact .took (by simpa using working) current queued
    · cases executed

theorem advance_eq (session : SessionLink) (link : NotificationLink)
    (current : List NotificationSync) :
    (session.advance link current).link = link ∧ (session.advance link current).current = current ∧
      (session.advance link current).staged = session.staged ∧
      (session.advance link current).requests = session.requests ∧
      (session.advance link current).working = session.working := by
  unfold advance
  split
  · exact ⟨rfl, rfl, rfl, rfl, rfl⟩
  · exact ⟨rfl, rfl, rfl, rfl, rfl⟩

end SessionLink

universe u

/-- A computer: its hub and its sessions. -/
structure Node (ι : Type u) where
  hub : NotificationHub
  session : ι → Option SessionLink

inductive NodeAction (ι : Type u) where
  | local' (key : NotificationKey) (content : Option SharedNotification) (persist : Persist)
  | phone (phoneInstances : List (String × PhoneInstance))
      (importedPhones : List (String × String))
      (operations : List (String × Option SharedNotification)) (persist : Persist)
  | publish
  | restart
  | connect (i : ι) (peer : String) (supported : Bool)
  | drop (i : ι)
  | deliver (i : ι) (event : NotificationSync)
  | work (i : ι) (persist : Persist)
  | emit (i : ι)
  | forward (i : ι)

namespace Node

variable {ι : Type u} [DecidableEq ι]

def withSession (node : Node ι) (i : ι) (session : Option SessionLink) : Node ι :=
  { node with session := Function.update node.session i session }

@[simp] theorem withSession_hub (node : Node ι) (i : ι) (session : Option SessionLink) :
    (node.withSession i session).hub = node.hub := rfl

@[simp] theorem withSession_self (node : Node ι) (i : ι) (session : Option SessionLink) :
    (node.withSession i session).session i = session := by
  simp [withSession]

theorem withSession_ne (node : Node ι) {i j : ι} (session : Option SessionLink) (other : j ≠ i) :
    (node.withSession i session).session j = node.session j := by
  simp [withSession, other]

/-- The process ends: its sessions are gone, and it starts from the store on disk. -/
def restart (node : Node ι) : Option (Node ι) :=
  match node.hub.restart with
  | .error _ => none
  | .ok hub => some { hub, session := fun _ => none }

/-- `notification_hub::receive`: an error ends the notifications of the session. -/
def deliver (node : Node ι) (i : ι) (event : NotificationSync) : Option (Node ι) :=
  (node.session i).map fun session => node.withSession i (session.enqueue event).toOption

/-- A step of the worker of a session. -/
def work (node : Node ι) (i : ι) (persist : Persist) : Option (Node ι) :=
  (node.session i).bind fun session =>
    (session.work node.hub persist).map fun worked =>
      ({ node with hub := worked.1 } : Node ι).withSession i (some worked.2)

/-- The worker of a session sends its next frame to the session. -/
def emit (node : Node ι) (i : ι) : Option (Node ι) :=
  (node.session i).bind fun session =>
    (session.emit node.hub).map fun session => node.withSession i (some session)

/-- A session sends its next frame to the peer. -/
def forward (node : Node ι) (i : ι) : Option (Node ι) :=
  (node.session i).bind fun session =>
    session.forward.map fun forwarded => node.withSession i (some forwarded.2)

def exec (node : Node ι) : NodeAction ι → Option (Node ι)
  | .local' key content persist =>
    some { node with hub := (node.hub.local' key content persist).1 }
  | .phone phoneInstances importedPhones operations persist =>
    some { node with
      hub := (node.hub.applyPhone phoneInstances importedPhones operations persist).1 }
  | .publish => node.hub.publish.map fun hub => { node with hub }
  | .restart => node.restart
  | .connect i peer supported =>
    some (node.withSession i ((node.hub.link peer supported).map SessionLink.spawn))
  | .drop i => some (node.withSession i none)
  | .deliver i event => node.deliver i event
  | .work i persist => node.work i persist
  | .emit i => node.emit i
  | .forward i => node.forward i

/-- One computer and whatever its peers send. -/
def machine (ι : Type u) [DecidableEq ι] : Machine (Node ι) (NodeAction ι) := ⟨exec⟩

end Node

end EdgeKvm.Notification
