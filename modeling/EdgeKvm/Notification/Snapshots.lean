import EdgeKvm.Notification.SessionLink
import EdgeKvm.Notification.Guarantees

/-!
# Snapshots are installed whole

The frames of a snapshot pass through the session and the worker of a replica before they are
committed. `Staging` ties both to the frames that were delivered: what a session has gathered is
the end of them, and what the worker has is a part of them from a `SnapshotStart` to its
`SnapshotEnd`. So only such a part is ever committed (`snapshot_installed_whole`).
-/

namespace EdgeKvm.Notification

open EdgeKvm.Lib Machine

/-- The frames of a whole snapshot. -/
def snapshotFrames (epoch : String) (records : List NotificationRecord) :
    List NotificationSync :=
  .snapshotStart epoch :: (records.map .record ++ [.snapshotEnd])

/-- A request to the worker was delivered in one piece. -/
inductive IncomingNotification.Delivered (frames : List NotificationSync) :
    IncomingNotification → Prop
  | event {frame : NotificationSync} (control : frame.isControl = true) (delivered : frame ∈ frames) :
      Delivered frames (.event frame)
  | snapshot {incoming : IncomingSnapshot}
      (delivered : snapshotFrames incoming.epoch incoming.records <:+: frames) :
      Delivered frames (.snapshot incoming)

/-- What the worker has of a request: the snapshot staged in its link, and the frames left. -/
inductive InWork (frames : List NotificationSync) :
    Option (String × List NotificationRecord) → List NotificationSync → Prop
  | idle : InWork frames none []
  | event {frame : NotificationSync} (control : frame.isControl = true) (delivered : frame ∈ frames) :
      InWork frames none [frame]
  | opening {epoch : String} {records : List NotificationRecord}
      (delivered : snapshotFrames epoch records <:+: frames) :
      InWork frames none (snapshotFrames epoch records)
  | gathering {epoch : String} {done rest : List NotificationRecord}
      (delivered : snapshotFrames epoch (done ++ rest) <:+: frames) :
      InWork frames (some (epoch, done)) (rest.map .record ++ [.snapshotEnd])

/-- What a session has of the delivered frames. -/
structure Staging (frames : List NotificationSync) (session : SessionLink) : Prop where
  staged : ∀ incoming, session.staged = some incoming →
    .snapshotStart incoming.epoch :: incoming.records.map .record <:+ frames
  requests : ∀ request ∈ session.requests, request.Delivered frames
  current : session.working = true → InWork frames session.link.staged session.current

variable {frames frames' : List NotificationSync} {session session' : SessionLink}
  {hub hub' : NotificationHub} {persist : Persist} {event : NotificationSync}

/-! ## Delivery -/

theorem IncomingNotification.Delivered.mono {request : IncomingNotification}
    (delivered : request.Delivered frames) (longer : frames <+: frames') :
    request.Delivered frames' := by
  cases delivered with
  | event control delivered => exact .event control (longer.subset delivered)
  | snapshot delivered => exact .snapshot (delivered.trans longer.isInfix)

theorem InWork.mono {staged : Option (String × List NotificationRecord)}
    {current : List NotificationSync} (inWork : InWork frames staged current)
    (longer : frames <+: frames') : InWork frames' staged current := by
  cases inWork with
  | idle => exact .idle
  | event control delivered => exact .event control (longer.subset delivered)
  | opening delivered => exact .opening (delivered.trans longer.isInfix)
  | gathering delivered => exact .gathering (delivered.trans longer.isInfix)

theorem Staging.mono (staging : Staging frames session) (longer : frames <+: frames')
    (outside : session.staged = none) : Staging frames' session :=
  ⟨by rw [outside]; nofun, fun request member => (staging.requests request member).mono longer,
    fun working => (staging.current working).mono longer⟩

/-- A request behind the others. -/
theorem Staging.push {request : IncomingNotification} (staging : Staging frames session)
    (delivered : request.Delivered frames) :
    Staging frames { session with requests := session.requests ++ [request] } := by
  refine ⟨staging.staged, fun other member => ?_, staging.current⟩
  rcases List.mem_append.mp member with member | member
  · exact staging.requests other member
  · rw [List.mem_singleton] at member
    exact member ▸ delivered

/-- Taking in a frame keeps the session in step with the frames delivered. -/
theorem Staging.enqueue (staging : Staging frames session)
    (taken : session.Enqueued event session') : Staging (frames ++ [event]) session' := by
  have longer : frames <+: frames ++ [event] := List.prefix_append ..
  have unstaged : Staging (frames ++ [event]) { session with staged := none } :=
    Staging.mono ⟨nofun, staging.requests, staging.current⟩ longer rfl
  cases taken with
  | opened outside =>
    refine ⟨?_, unstaged.requests, unstaged.current⟩
    rintro incoming ⟨⟩
    exact List.suffix_append ..
  | gathered staged =>
    refine ⟨?_, unstaged.requests, unstaged.current⟩
    rintro _ ⟨⟩
    obtain ⟨before, frames⟩ := staging.staged _ staged
    exact ⟨before, by simp [← frames]⟩
  | finished staged =>
    refine unstaged.push (.snapshot ?_)
    obtain ⟨before, frames⟩ := staging.staged _ staged
    exact ⟨before, [], by simp [← frames, snapshotFrames]⟩
  | control control outside =>
    exact (staging.mono longer outside).push (.event control (by simp))

/-! ## What a step makes of the store -/

/-- The ways the records of a replica change: an operation of its outbox is acknowledged, or a
    delivered snapshot of the same store is installed. -/
inductive Rewrites (frames : List NotificationSync) (s : Store) : Store → Prop
  | kept {next : Store} (records : next.records = s.records) (epoch : next.epoch = s.epoch) :
      Rewrites frames s next
  | acknowledged {operation : NotificationOperation} {before next : Store} {changed : Bool}
      (pending : operation ∈ s.pending) (delivered : .ack operation.sequence ∈ frames)
      (records : before.records = s.records) (epoch : next.epoch = s.epoch)
      (applied : Store.Applied before operation changed next) : Rewrites frames s next
  | installed {epoch : String} {records : List NotificationRecord}
      (delivered : snapshotFrames epoch records <:+: frames)
      (epochs : s.epoch = "" ∨ s.epoch = epoch) :
      Rewrites frames s { s with epoch, records }

/-- What an action makes of the hub while the process lives: a commit of such a change, or
    nothing of the stores. -/
inductive HubMoves (frames : List NotificationSync) (hub : NotificationHub) :
    NotificationHub → Prop
  | kept {hub' : NotificationHub} (state : hub'.state = hub.state) (disk : hub'.disk = hub.disk)
      (role : hub'.isCoordinator = hub.isCoordinator) : HubMoves frames hub hub'
  | committed {next : Store} (rewrites : Rewrites frames hub.state next) (persist : Persist) :
      HubMoves frames hub (hub.commit next persist).1

theorem HubMoves.refl : HubMoves frames hub hub := .kept rfl rfl rfl

/-- A local operation leaves the records of a replica as they are. -/
theorem Store.Queued.kept {s s' : Store} {key : NotificationKey}
    {content : Option SharedNotification} {changed : Bool}
    (queued : Store.Queued s key content false changed s') :
    s'.records = s.records ∧ s'.epoch = s.epoch := by
  cases queued with
  | repeated => exact ⟨rfl, rfl⟩
  | committed commits => cases commits
  | pended => exact ⟨rfl, rfl⟩

theorem local_moves {key : NotificationKey} {content : Option SharedNotification}
    (role : hub.isCoordinator = false) :
    HubMoves frames hub (hub.local' key content persist).1 := by
  unfold NotificationHub.local'
  rw [role]
  split
  · exact .refl
  · exact .refl
  · rename_i next queued
    have kept := (Store.queueLocal_cases queued).kept
    exact .committed (.kept kept.1 kept.2) persist

theorem queueAll_kept (role : hub.isCoordinator = false)
    {operations : List (String × Option SharedNotification)} {s t : Store} {changed : Bool}
    (queued : hub.queueAll operations s = .ok (changed, t)) :
    t.records = s.records ∧ t.epoch = s.epoch := by
  induction operations generalizing s changed with
  | nil =>
    cases queued
    exact ⟨rfl, rfl⟩
  | cons operation operations ih =>
    simp only [NotificationHub.queueAll, role, bind_eq_ok, pure_eq_ok, Prod.mk.injEq] at queued
    obtain ⟨⟨_, mid⟩, first, ⟨_, last⟩, rest, -, rfl⟩ := queued
    have one := (Store.queueLocal_cases first).kept
    have more := ih rest
    exact ⟨more.1.trans one.1, more.2.trans one.2⟩

theorem applyPhone_moves {phoneInstances : List (String × PhoneInstance)}
    {importedPhones : List (String × String)}
    {operations : List (String × Option SharedNotification)}
    (role : hub.isCoordinator = false) :
    HubMoves frames hub (hub.applyPhone phoneInstances importedPhones operations persist).1 := by
  unfold NotificationHub.applyPhone
  dsimp only
  split
  · exact .refl
  · rename_i changed next queued
    split
    · have kept := queueAll_kept role queued
      exact .committed (.kept kept.1 kept.2) persist
    · exact .refl

/-! ## The worker -/

/-- Where the frame the worker is at stands in the request it comes from. -/
inductive InWork.At (frames rest : List NotificationSync) :
    Option (String × List NotificationRecord) → NotificationSync → Prop
  | control {event : NotificationSync} (control : event.isControl = true)
      (delivered : event ∈ frames) (last : rest = []) : InWork.At frames rest none event
  | start {epoch : String} {records : List NotificationRecord}
      (delivered : snapshotFrames epoch records <:+: frames)
      (left : rest = records.map .record ++ [.snapshotEnd]) :
      InWork.At frames rest none (.snapshotStart epoch)
  | record {epoch : String} {done later : List NotificationRecord} {record : NotificationRecord}
      (delivered : snapshotFrames epoch (done ++ record :: later) <:+: frames)
      (left : rest = later.map .record ++ [.snapshotEnd]) :
      InWork.At frames rest (some (epoch, done)) (.record record)
  | finish {epoch : String} {records : List NotificationRecord}
      (delivered : snapshotFrames epoch records <:+: frames) (last : rest = []) :
      InWork.At frames rest (some (epoch, records)) .snapshotEnd

theorem InWork.head {staged : Option (String × List NotificationRecord)}
    {rest current : List NotificationSync} (inWork : InWork frames staged current)
    (head : current = event :: rest) : InWork.At frames rest staged event := by
  cases inWork with
  | idle => cases head
  | event control delivered =>
    cases head
    exact .control control delivered rfl
  | opening delivered =>
    cases head
    exact .start delivered rfl
  | @gathering epoch done later delivered =>
    cases later with
    | nil =>
      cases head
      rw [List.append_nil] at delivered
      exact .finish delivered rfl
    | cons record later =>
      cases head
      exact .record delivered rfl

/-- Between two requests the worker has nothing staged. -/
theorem InWork.outside {staged : Option (String × List NotificationRecord)}
    {current : List NotificationSync} (inWork : InWork frames staged current)
    (through : current = []) : staged = none := by
  cases inWork with
  | idle => rfl
  | event => rfl
  | opening => rfl
  | gathering => simp at through

/-- A frame the worker has comes from a request that was delivered whole, so what it makes of
    the store is a change of the kinds above. -/
theorem InWork.receive {link : NotificationLink} {rest : List NotificationSync}
    (inWork : InWork frames link.staged (event :: rest)) (role : hub.isCoordinator = false)
    (epochs : ∀ epoch records, link.staged = some (epoch, records) →
      hub.state.epoch = "" ∨ hub.state.epoch = epoch) (persist : Persist) :
    HubMoves frames hub (link.receive hub event persist).1 ∧
      ∀ link', (link.receive hub event persist).2 = .ok link' →
        InWork frames link'.staged rest ∧
          ∀ epoch records, link'.staged = some (epoch, records) →
            (link.receive hub event persist).1.state.epoch = "" ∨
              (link.receive hub event persist).1.state.epoch = epoch := by
  have received := NotificationLink.receive_replica link persist role event
  generalize link.receive hub event persist = result at received ⊢
  have here := inWork.head rfl
  generalize staged : link.staged = held at here
  cases received with
  | refused event error => exact ⟨.refl, nofun⟩
  | settings coordinator =>
    refine ⟨.refl, ?_⟩
    rintro link' ⟨⟩
    cases here with
    | control control delivered last => exact ⟨by rw [staged, last]; exact .idle, epochs⟩
  | unknown sequence absent =>
    refine ⟨.refl, ?_⟩
    rintro link' ⟨⟩
    cases here with
    | control control delivered last => exact ⟨by rw [staged, last]; exact .idle, epochs⟩
  | acknowledged operation changed next sequence found applied =>
    cases here with
    | control control delivered last =>
      have own : operation.sequence = sequence := Keyed.key_of_lookup found
      refine ⟨.committed (.acknowledged (Keyed.mem_of_lookup found) (own ▸ delivered)
        (by rfl) ?_ applied) persist, ?_⟩
      · rw [applied.eq_records]
      · intro link' done
        obtain ⟨_, -, rfl⟩ := map_eq_ok.mp done
        exact ⟨by rw [staged, last]; exact .idle, by rw [staged]; nofun⟩
  | opened epoch fresh known =>
    refine ⟨.refl, ?_⟩
    rintro link' ⟨⟩
    cases here with
    | control control => cases control
    | start delivered left =>
      refine ⟨left ▸ .gathering delivered, ?_⟩
      rintro _ _ ⟨⟩
      exact known
  | gathered epoch records record opened fresh =>
    refine ⟨.refl, ?_⟩
    rintro link' ⟨⟩
    rw [opened] at staged
    cases here with
    | control control => cases control
    | record delivered left =>
      cases staged
      refine ⟨left ▸ .gathering (by rwa [List.append_assoc]), ?_⟩
      rintro _ _ ⟨⟩
      exact epochs _ _ opened
  | confirmed opened =>
    refine ⟨.refl, ?_⟩
    rintro link' ⟨⟩
    cases here with
    | control control => cases control
    | finish delivered last => exact ⟨last ▸ .idle, nofun⟩
  | renewed epoch records opened =>
    rw [opened] at staged
    cases here with
    | control control => cases control
    | finish delivered last =>
      cases staged
      refine ⟨.committed (.installed delivered (epochs _ _ opened)) persist, ?_⟩
      intro link' done
      obtain ⟨_, -, rfl⟩ := map_eq_ok.mp done
      exact ⟨last ▸ .idle, nofun⟩

/-- The store of the hub and what the worker has staged agree on the epoch. -/
def SessionLink.Fresh (session : SessionLink) (hub : NotificationHub) : Prop :=
  session.working = true → ∀ epoch records, session.link.staged = some (epoch, records) →
    hub.state.epoch = "" ∨ hub.state.epoch = epoch

/-- A request the worker takes is one that was delivered in one piece. -/
theorem IncomingNotification.Delivered.inWork {request : IncomingNotification}
    (delivered : request.Delivered frames) : InWork frames none request.frames := by
  cases delivered with
  | event control delivered => exact .event control delivered
  | snapshot delivered => exact .opening delivered

/-- A step of the worker of a replica. -/
theorem Staging.work {worked : NotificationHub × SessionLink} (staging : Staging frames session)
    (fresh : session.Fresh hub) (role : hub.isCoordinator = false)
    (executed : session.work hub persist = some worked) :
    HubMoves frames hub worked.1 ∧ Staging frames worked.2 ∧ worked.2.Fresh worked.1 := by
  cases SessionLink.work_cases executed with
  | @took request requests working current queued =>
    have outside : session.link.staged = none := by
      have inWork := staging.current working
      rw [current] at inWork
      exact inWork.outside rfl
    have delivered := staging.requests request (queued ▸ List.mem_cons_self ..)
    refine ⟨.refl, ⟨staging.staged, fun other member => ?_, fun _ => ?_⟩, fresh⟩
    · exact staging.requests other (queued ▸ List.mem_cons_of_mem _ member)
    · rw [outside]
      exact delivered.inWork
  | @received event rest link working current received =>
    have inWork := staging.current working
    rw [current] at inWork
    obtain ⟨moves, done⟩ := inWork.receive role (fresh working) persist
    obtain ⟨inWork, epochs⟩ := done link received
    obtain ⟨links, currents, stageds, requests, workings⟩ := session.advance_eq link rest
    refine ⟨moves, ⟨?_, ?_, ?_⟩, ?_⟩
    · rw [stageds]
      exact staging.staged
    · rw [requests]
      exact staging.requests
    · rw [links, currents]
      exact fun _ => inWork
    · unfold SessionLink.Fresh
      rw [links]
      exact fun _ => epochs
  | @stopped event rest working current =>
    have inWork := staging.current working
    rw [current] at inWork
    exact ⟨(inWork.receive role (fresh working) persist).1, ⟨staging.staged, nofun, nofun⟩, nofun⟩

theorem NotificationLink.fill_staged (link : NotificationLink) (hub : NotificationHub) :
    (link.fill hub).staged = link.staged := by
  unfold NotificationLink.fill
  split
  · rfl
  · rfl

/-- What a link sends has no part in what it stages. -/
theorem NotificationLink.next_staged {link link' : NotificationLink}
    {event : Option NotificationSync} (turned : link.next hub = some (event, link')) :
    link'.staged = link.staged := by
  unfold NotificationLink.next at turned
  split at turned
  · cases turned
    rfl
  · split at turned
    · cases turned
    · split at turned
      · split at turned
        · cases turned
        · cases turned
          rfl
      · cases turned
        exact link.fill_staged hub

theorem Staging.emit (staging : Staging frames session)
    (emitted : session.emit hub = some session') :
    Staging frames session' ∧ (session.Fresh hub → session'.Fresh hub) := by
  unfold SessionLink.emit at emitted
  split at emitted
  · obtain ⟨⟨event, link⟩, turned, rfl⟩ := Option.map_eq_some_iff.mp emitted
    have kept := NotificationLink.next_staged turned
    refine ⟨⟨staging.staged, staging.requests, fun working => ?_⟩, fun fresh working => ?_⟩
    · rw [kept]
      exact staging.current working
    · rw [kept]
      exact fresh working
  · cases emitted

theorem SessionLink.forward_eq {forwarded : NotificationSync × SessionLink}
    (sent : session.forward = some forwarded) :
    forwarded.2 = { session with outgoing := forwarded.2.outgoing } := by
  unfold SessionLink.forward at sent
  split at sent
  · cases sent
  · cases sent
    rfl

theorem Staging.forward {forwarded : NotificationSync × SessionLink}
    (staging : Staging frames session) (sent : session.forward = some forwarded) :
    Staging frames forwarded.2 := by
  rw [SessionLink.forward_eq sent]
  exact ⟨staging.staged, staging.requests, staging.current⟩

theorem SessionLink.Fresh.forward {forwarded : NotificationSync × SessionLink}
    (fresh : session.Fresh hub) (sent : session.forward = some forwarded) :
    forwarded.2.Fresh hub := by
  rw [SessionLink.forward_eq sent]
  exact fresh

/-- The session has no part in what the worker stages. -/
theorem SessionLink.Fresh.enqueue (fresh : session.Fresh hub)
    (taken : session.Enqueued event session') : session'.Fresh hub := by
  cases taken with
  | opened => exact fresh
  | gathered => exact fresh
  | finished => exact fresh
  | control => exact fresh

/-! ## Runs -/

/-- The frames delivered in each session, the last session first. -/
def deliveredFrames (history : List (List NotificationSync)) :
    NodeAction Unit → List (List NotificationSync)
  | .connect .. => [] :: history
  | .deliver _ event => (history.headD [] ++ [event]) :: history.tail
  | _ => history

/-- A computer with one session, and what was delivered to it. -/
def receiver : Machine (Node Unit × List (List NotificationSync)) (NodeAction Unit) :=
  (Node.machine Unit).recording fun history _ action _ => deliveredFrames history action

variable {start s t : Node Unit × List (List NotificationSync)}

/-- A replica whose process just started. -/
structure ReplicaStart (s : Node Unit × List (List NotificationSync)) : Prop where
  role : s.1.hub.isCoordinator = false
  disk : s.1.hub.disk = s.1.hub.state
  session : s.1.session () = none
  history : s.2 = []

/-- An operation the replica had in its outbox, and its acknowledgement. -/
structure OwnAcknowledged (start s : Node Unit × List (List NotificationSync))
    (operation : NotificationOperation) : Prop where
  own : ∃ u, receiver.Run anyAction start u ∧ receiver.Run anyAction u s ∧
    operation ∈ u.1.hub.state.pending
  acknowledged : ∃ frames ∈ s.2, .ack operation.sequence ∈ frames

/-- Records that operations were applied to. -/
inductive Updated (operations : NotificationOperation → Prop) (base : List NotificationRecord) :
    List NotificationRecord → Prop
  | refl : Updated operations base base
  | applied {operation : NotificationOperation} {before after : Store} {changed : Bool}
      (earlier : Updated operations base before.records) (allowed : operations operation)
      (applied : Store.Applied before operation changed after) :
      Updated operations base after.records

/-- The records are those at the start or those of a delivered snapshot, and acknowledged
    operations of the replica applied to them. -/
def Held (start s : Node Unit × List (List NotificationSync))
    (records : List NotificationRecord) : Prop :=
  ∃ base, (base = start.1.hub.state.records ∨
    ∃ frames ∈ s.2, ∃ epoch, snapshotFrames epoch base <:+: frames) ∧
      Updated (OwnAcknowledged start s) base records

theorem Updated.mono {operations operations' : NotificationOperation → Prop}
    {base records : List NotificationRecord} (updated : Updated operations base records)
    (more : ∀ operation, operations operation → operations' operation) :
    Updated operations' base records := by
  induction updated with
  | refl => exact .refl
  | applied earlier allowed applied ih => exact .applied ih (more _ allowed) applied

/-- What was delivered stays delivered. -/
theorem deliveredFrames_mono {history : List (List NotificationSync)} (action : NodeAction Unit)
    {frames : List NotificationSync} (member : frames ∈ history) :
    ∃ frames' ∈ deliveredFrames history action, frames <+: frames' := by
  cases action with
  | connect => exact ⟨frames, List.mem_cons_of_mem _ member, List.prefix_rfl⟩
  | deliver i event =>
    cases member with
    | head => exact ⟨_, List.mem_cons_self .., List.prefix_append ..⟩
    | tail _ member => exact ⟨frames, List.mem_cons_of_mem _ member, List.prefix_rfl⟩
  | _ => exact ⟨frames, member, List.prefix_rfl⟩

theorem Held.mono {action : NodeAction Unit} {records : List NotificationRecord}
    (held : Held start s records) (executed : receiver.exec s action = some t) :
    Held start t records := by
  have noted := (exec_recording.mp executed).2
  have step : receiver.Run anyAction s t := .head trivial executed .refl
  obtain ⟨base, origin, updated⟩ := held
  refine ⟨base, ?_, updated.mono fun operation own => ⟨?_, ?_⟩⟩
  · refine origin.imp id ?_
    rintro ⟨frames, member, epoch, delivered⟩
    obtain ⟨frames', member', longer⟩ := deliveredFrames_mono action member
    exact ⟨frames', noted ▸ member', epoch, delivered.trans longer.isInfix⟩
  · obtain ⟨u, before, after, pending⟩ := own.own
    exact ⟨u, before, after.trans step, pending⟩
  · obtain ⟨frames, member, delivered⟩ := own.acknowledged
    obtain ⟨frames', member', longer⟩ := deliveredFrames_mono action member
    exact ⟨frames', noted ▸ member', longer.subset delivered⟩

/-! ## Every step -/

/-- What holds of a replica at any time. -/
structure Whole (start s : Node Unit × List (List NotificationSync)) : Prop where
  role : s.1.hub.isCoordinator = false
  records : Held start s s.1.hub.state.records
  durable : Held start s s.1.hub.disk.records
  epoch : s.1.hub.state.epoch ≠ "" → s.1.hub.disk.epoch = s.1.hub.state.epoch
  session : ∀ session, s.1.session () = some session →
    Staging (s.2.headD []) session ∧ session.Fresh s.1.hub

theorem Rewrites.epoch {before next : Store} (rewrites : Rewrites frames before next)
    (known : before.epoch ≠ "") : next.epoch = before.epoch := by
  cases rewrites with
  | kept records epoch => exact epoch
  | acknowledged pending delivered records epoch applied => exact epoch
  | installed delivered epochs => exact (epochs.resolve_left known).symm

/-- With no frames delivered, the epoch is kept. -/
theorem HubMoves.epoch_eq (moves : HubMoves [] hub hub') :
    hub'.state.epoch = hub.state.epoch := by
  cases moves with
  | kept state => rw [state]
  | committed rewrites persist =>
    cases persist with
    | failed => rfl
    | stored =>
      cases rewrites with
      | kept records epoch => exact epoch
      | acknowledged pending delivered records epoch applied => exact epoch
      | installed delivered epochs => exact absurd (List.eq_nil_of_infix_nil delivered) nofun

theorem HubMoves.role (moves : HubMoves frames hub hub') :
    hub'.isCoordinator = hub.isCoordinator := by
  cases moves with
  | kept state disk role => exact role
  | committed rewrites persist => cases persist <;> rfl

/-- Where the stores of a hub come from. -/
theorem HubMoves.stores (moves : HubMoves frames hub hub') :
    hub'.state = hub.state ∧ hub'.disk = hub.disk ∨
      ∃ next, Rewrites frames hub.state next ∧ hub'.disk = next ∧
        (hub'.state = next ∨ hub'.state = hub.state) := by
  cases moves with
  | kept state disk => exact .inl ⟨state, disk⟩
  | @committed next rewrites persist =>
    cases persist with
    | stored => exact .inr ⟨next, rewrites, rfl, .inl rfl⟩
    | failed renamed error =>
      cases renamed with
      | true => exact .inr ⟨next, rewrites, rfl, .inr rfl⟩
      | false => exact .inl ⟨rfl, rfl⟩

/-- A session that just started has nothing of the frames. -/
theorem Staging.spawn {link : NotificationLink} (outside : link.staged = none) :
    Staging frames (SessionLink.spawn link) ∧ (SessionLink.spawn link).Fresh hub := by
  refine ⟨⟨nofun, nofun, fun _ => ?_⟩, fun _ epoch records staged => ?_⟩
  · simp only [SessionLink.spawn, outside]
    exact .idle
  · simp only [SessionLink.spawn, outside] at staged
    cases staged

/-- The epoch a session is fresh for is still that of the store. -/
theorem SessionLink.Fresh.keep (fresh : session.Fresh hub)
    (epoch : hub'.state.epoch = hub.state.epoch) : session.Fresh hub' := by
  intro working epoch' records staged
  rw [epoch]
  exact fresh working epoch' records staged

/-- A step changes the stores in one of the ways above, or restarts the process. -/
theorem Whole.step {action : NodeAction Unit} (whole : Whole start s)
    (executed : receiver.exec s action = some t) :
    (HubMoves (s.2.headD []) s.1.hub t.1.hub ∨ s.1.hub.restart = .ok t.1.hub) ∧
      ∀ session, t.1.session () = some session →
        Staging (t.2.headD []) session ∧ session.Fresh t.1.hub := by
  obtain ⟨moved, noted⟩ := exec_recording.mp executed
  obtain ⟨node, history⟩ := t
  dsimp only at moved noted ⊢
  subst noted
  clear executed
  have others {hub : NotificationHub} (epoch : hub.state.epoch = s.1.hub.state.epoch) :
      ∀ session, s.1.session () = some session →
        Staging (s.2.headD []) session ∧ session.Fresh hub := by
    intro session there
    obtain ⟨staging, fresh⟩ := whole.session session there
    exact ⟨staging, fresh.keep epoch⟩
  cases action with
  | local' key content persist =>
    cases moved
    exact ⟨.inl (local_moves whole.role), others (HubMoves.epoch_eq (local_moves whole.role))⟩
  | phone phoneInstances importedPhones operations persist =>
    cases moved
    exact ⟨.inl (applyPhone_moves whole.role),
      others (HubMoves.epoch_eq (applyPhone_moves whole.role))⟩
  | publish =>
    obtain ⟨hub, published, rfl⟩ := Option.map_eq_some_iff.mp moved
    obtain ⟨state, disk, role⟩ := NotificationHub.publish_eq published
    exact ⟨.inl (.kept state disk role), others (by rw [state])⟩
  | restart =>
    simp only [Node.machine, Node.exec, Node.restart] at moved
    split at moved
    · cases moved
    · rename_i hub restarted
      cases moved
      exact ⟨.inr restarted, nofun⟩
  | connect i peer supported =>
    cases moved
    refine ⟨.inl .refl, fun session there => ?_⟩
    rw [Node.withSession_self] at there
    obtain ⟨link, linked, rfl⟩ := Option.map_eq_some_iff.mp there
    unfold NotificationHub.link at linked
    split at linked
    · cases linked
    · cases linked
      exact Staging.spawn rfl
  | drop i =>
    cases moved
    refine ⟨.inl .refl, fun session there => ?_⟩
    rw [Node.withSession_self] at there
    cases there
  | deliver i event =>
    obtain ⟨before, there, rfl⟩ := Option.map_eq_some_iff.mp moved
    obtain ⟨staging, fresh⟩ := whole.session before there
    refine ⟨.inl .refl, fun session taken => ?_⟩
    rw [Node.withSession_self, toOption_eq_some] at taken
    have enqueued := SessionLink.enqueue_cases taken
    exact ⟨staging.enqueue enqueued, fresh.enqueue enqueued⟩
  | work i persist =>
    obtain ⟨before, there, moved⟩ := Option.bind_eq_some_iff.mp moved
    obtain ⟨worked, executed, rfl⟩ := Option.map_eq_some_iff.mp moved
    obtain ⟨staging, fresh⟩ := whole.session before there
    obtain ⟨moves, staging, fresh⟩ := staging.work fresh whole.role executed
    refine ⟨.inl moves, fun session there => ?_⟩
    rw [Node.withSession_self] at there
    cases there
    exact ⟨staging, fresh⟩
  | emit i =>
    obtain ⟨before, there, moved⟩ := Option.bind_eq_some_iff.mp moved
    obtain ⟨after, emitted, rfl⟩ := Option.map_eq_some_iff.mp moved
    obtain ⟨staging, fresh⟩ := whole.session before there
    refine ⟨.inl .refl, fun session there => ?_⟩
    rw [Node.withSession_self] at there
    cases there
    have kept := staging.emit emitted
    exact ⟨kept.1, kept.2 fresh⟩
  | forward i =>
    obtain ⟨before, there, moved⟩ := Option.bind_eq_some_iff.mp moved
    obtain ⟨forwarded, sent, rfl⟩ := Option.map_eq_some_iff.mp moved
    obtain ⟨staging, fresh⟩ := whole.session before there
    refine ⟨.inl .refl, fun session there => ?_⟩
    rw [Node.withSession_self] at there
    cases there
    exact ⟨staging.forward sent, fresh.forward sent⟩

theorem mem_of_headD {history : List (List NotificationSync)} {frames : List NotificationSync}
    (nonempty : frames ≠ []) (part : frames <:+: history.headD []) :
    ∃ frames' ∈ history, frames <:+: frames' := by
  cases history with
  | nil => exact absurd (List.eq_nil_of_infix_nil part) nonempty
  | cons frames' history => exact ⟨frames', List.mem_cons_self .., part⟩

/-- The changed records are held like the ones before. -/
theorem Whole.rewrites {next : Store} (whole : Whole start s)
    (run : receiver.Run anyAction start s)
    (rewrites : Rewrites (s.2.headD []) s.1.hub.state next) : Held start s next.records := by
  cases rewrites with
  | kept records => exact records ▸ whole.records
  | @acknowledged operation before next changed pending delivered records epoch applied =>
    obtain ⟨base, origin, updated⟩ := whole.records
    refine ⟨base, origin, .applied (records ▸ updated) ⟨⟨s, run, .refl, pending⟩, ?_⟩ applied⟩
    cases history : s.2 with
    | nil =>
      rw [history] at delivered
      cases delivered
    | cons frames earlier =>
      rw [history] at delivered
      exact ⟨frames, List.mem_cons_self .., delivered⟩
  | installed delivered epochs =>
    obtain ⟨frames, member, part⟩ := mem_of_headD (by simp [snapshotFrames]) delivered
    exact ⟨_, .inr ⟨frames, member, _, part⟩, .refl⟩

theorem Whole.next {action : NodeAction Unit} (whole : Whole start s)
    (run : receiver.Run anyAction start s) (executed : receiver.exec s action = some t) :
    Whole start t ∧ (s.1.hub.state.epoch ≠ "" → t.1.hub.state.epoch = s.1.hub.state.epoch) := by
  obtain ⟨moved, session⟩ := whole.step executed
  rcases moved with moves | restarted
  · have role := moves.role.trans whole.role
    rcases moves.stores with ⟨state, disk⟩ | ⟨next, rewrites, disk, state⟩
    · refine ⟨⟨role, ?_, ?_, ?_, session⟩, fun _ => by rw [state]⟩
      · exact state ▸ whole.records.mono executed
      · exact disk ▸ whole.durable.mono executed
      · rw [state, disk]
        exact whole.epoch
    · have held := (whole.rewrites run rewrites).mono executed
      rcases state with state | state
      · refine ⟨⟨role, state ▸ held, disk ▸ held, ?_, session⟩, ?_⟩
        · rw [state, disk]
          exact fun _ => rfl
        · rw [state]
          exact rewrites.epoch
      · refine ⟨⟨role, ?_, disk ▸ held, ?_, session⟩, fun _ => by rw [state]⟩
        · exact state ▸ whole.records.mono executed
        · rw [state, disk]
          exact rewrites.epoch
  · obtain ⟨state, disk, role⟩ := NotificationHub.restart_eq restarted
    refine ⟨⟨role.trans whole.role, ?_, ?_, ?_, session⟩, ?_⟩
    · exact state ▸ whole.durable.mono executed
    · exact disk ▸ whole.durable.mono executed
    · rw [state, disk]
      exact fun _ => rfl
    · rw [state]
      exact whole.epoch

theorem ReplicaStart.whole (starts : ReplicaStart start) : Whole start start where
  role := starts.role
  records := ⟨_, .inl rfl, .refl⟩
  durable := ⟨_, .inl rfl, by rw [starts.disk]; exact .refl⟩
  epoch := fun _ => by rw [starts.disk]
  session := by simp [starts.session]

theorem ReplicaStart.whole_of_run (starts : ReplicaStart start)
    (run : receiver.Run anyAction start s) : Whole start s := by
  induction run with
  | refl => exact starts.whole
  | tail run step ih =>
    obtain ⟨action, -, executed⟩ := step
    exact (ih.next run executed).1

/-- Snapshots are installed whole or not at all. A step leaves the records of a replica, puts an
    acknowledged operation of its own into them, or makes them the list of a snapshot that was
    delivered in one piece, in memory and on disk; and an epoch, once known, stays. -/
theorem snapshots_install_whole (starts : ReplicaStart start)
    (run : receiver.Run anyAction start s) :
    Held start s s.1.hub.state.records ∧ Held start s s.1.hub.disk.records ∧
    (∀ action t, receiver.exec s action = some t →
      HubMoves (s.2.headD []) s.1.hub t.1.hub ∨ s.1.hub.restart = .ok t.1.hub) ∧
    ∀ t, receiver.Run anyAction s t → s.1.hub.state.epoch ≠ "" →
      t.1.hub.state.epoch = s.1.hub.state.epoch := by
  have whole := starts.whole_of_run run
  refine ⟨whole.records, whole.durable, fun action t executed => (whole.step executed).1, ?_⟩
  intro t later known
  induction later with
  | refl => rfl
  | @tail u v between step ih =>
    obtain ⟨action, -, executed⟩ := step
    have reached := run.trans between
    have next := (starts.whole_of_run reached).next reached executed
    rw [next.2 (ih.symm ▸ known), ih]

def sampleReceiver : Node Unit × List (List NotificationSync) :=
  ({ hub := .start sampleConfig replicaFingerprint "", session := fun _ => none }, [])

theorem sampleReceiver_starts : ReplicaStart sampleReceiver where
  role := by decide
  disk := rfl
  session := rfl
  history := rfl

def sampleEpoch : String := "0123456789abcdef0123456789abcdef"

/-- A whole snapshot goes through the session and the worker; the one behind it is cut. -/
def sampleInstalled : List (NodeAction Unit) :=
  [.connect () ownerFingerprint true, .deliver () (.settings ownerFingerprint),
    .deliver () (.snapshotStart sampleEpoch), .deliver () (.record ⟨sampleKey, 1, sampleContent⟩),
    .deliver () .snapshotEnd, .work () .stored, .work () .stored, .work () .stored,
    .work () .stored, .work () .stored, .work () .stored, .deliver () (.snapshotStart sampleEpoch),
    .deliver () (.record ⟨sampleKey, 1, none⟩), .drop ()]

theorem snapshots_install_whole_sample :
    (receiver.reach sampleReceiver sampleInstalled).1.hub.state.records =
      [⟨sampleKey, 1, sampleContent⟩] ∧
    ∀ t, receiver.Run anyAction (receiver.reach sampleReceiver sampleInstalled) t →
      t.1.hub.state.epoch =
        (receiver.reach sampleReceiver sampleInstalled).1.hub.state.epoch := by
  have run : receiver.Run anyAction sampleReceiver (receiver.reach sampleReceiver sampleInstalled) :=
    run_reach sampleInstalled (by decide +kernel)
  refine ⟨by decide +kernel, fun t later => ?_⟩
  exact (snapshots_install_whole sampleReceiver_starts run).2.2.2 t later (by decide +kernel)

end EdgeKvm.Notification
