import EdgeKvm.Notification.Replica
import EdgeKvm.Notification.Link

/-!
# What the routines of a hub do to its stores

One lemma for each routine: `Grown` is all a routine of the coordinator does, `Evolves` all a
routine of a replica does, whatever becomes of the persist in it.
-/

namespace EdgeKvm.Notification

open EdgeKvm.Lib

namespace NotificationHub

/-- The version says the link saw every commit. -/
def Seen (hub : NotificationHub) (version : Nat) : Prop :=
  version = hub.changed ∧ hub.unpublished = 0

/-- What the coordinator's hub goes through while its process lives. -/
structure Grown (hub hub' : NotificationHub) : Prop where
  role : hub'.isCoordinator = hub.isCoordinator
  records : progress hub.state.records ≤ progress hub'.state.records
  durable : progress hub.state.records ≤ progress hub.disk.records →
    progress hub'.state.records ≤ progress hub'.disk.records
  distinct : hub.state.Distinct → hub'.state.Distinct
  durablyDistinct : hub.state.Distinct → hub.disk.Distinct → hub'.disk.Distinct
  changed : hub.changed ≤ hub'.changed
  seen : ∀ version ≤ hub.changed, hub'.Seen version → hub.Seen version ∧
    hub'.state.epoch = hub.state.epoch ∧ hub'.state.records = hub.state.records

/-- What becomes of the stores of a replica. -/
inductive Stores (covered : Progress) (hub hub' : NotificationHub) : Prop where
  | kept (state : hub'.state = hub.state) (disk : hub'.disk = hub.disk)
  | committed (advanced : Store.Advanced covered hub.state hub'.state)
      (disk : hub'.disk = hub'.state)
  | failed (state : hub'.state = hub.state)
      (advanced : Store.Advanced covered hub.state hub'.disk)
  | restarted (state : hub'.state = hub.disk) (disk : hub'.disk = hub.disk)

/-- What a replica's hub goes through, restarts included. -/
structure Evolves (covered : Progress) (hub hub' : NotificationHub) : Prop where
  role : hub'.isCoordinator = hub.isCoordinator
  stores : Stores covered hub hub'

variable {hub hub' : NotificationHub} {next : Store} {persist : Persist} {covered : Progress}
  {key : NotificationKey} {content : Option SharedNotification}

theorem Grown.refl (hub : NotificationHub) : Grown hub hub :=
  ⟨rfl, le_refl _, id, id, fun _ => id, le_refl _, fun _ _ seen => ⟨seen, rfl, rfl⟩⟩

theorem Evolves.refl (hub : NotificationHub) : Evolves covered hub hub := ⟨rfl, .kept rfl rfl⟩

/-! ## Commits -/

theorem commit_grown (above : progress hub.state.records ≤ progress next.records)
    (distinct : hub.state.Distinct → next.Distinct) : Grown hub (hub.commit next persist).1 := by
  cases persist with
  | stored =>
    refine ⟨rfl, above, fun _ => le_refl _, distinct, fun before _ => distinct before,
      le_refl _, ?_⟩
    rintro version - ⟨-, published⟩
    exact absurd published (Nat.succ_ne_zero _)
  | failed renamed error =>
    cases renamed with
    | true =>
      exact ⟨rfl, le_refl _, fun _ => above, id, fun before _ => distinct before, le_refl _,
        fun _ _ seen => ⟨seen, rfl, rfl⟩⟩
    | false => exact .refl hub

theorem commit_evolves (persist : Persist)
    (advanced : Store.Advanced covered hub.state next) :
    Evolves covered hub (hub.commit next persist).1 := by
  refine ⟨by cases persist <;> rfl, ?_⟩
  cases persist with
  | stored => exact .committed advanced rfl
  | failed renamed error =>
    cases renamed with
    | true => exact .failed rfl advanced
    | false => exact .kept rfl rfl

theorem publish_grown (published : hub.publish = some hub') : Grown hub hub' := by
  unfold publish at published
  split at published
  · cases published
  · cases published
    refine ⟨rfl, le_refl _, id, id, fun _ => id, Nat.le_succ _, ?_⟩
    rintro version below ⟨same, -⟩
    simp only at same
    omega

theorem publish_eq (published : hub.publish = some hub') :
    hub'.state = hub.state ∧ hub'.disk = hub.disk ∧ hub'.isCoordinator = hub.isCoordinator := by
  unfold publish at published
  split at published
  · cases published
  · cases published
    exact ⟨rfl, rfl, rfl⟩

theorem restart_eq (restarted : hub.restart = .ok hub') :
    hub'.state = hub.disk ∧ hub'.disk = hub.disk ∧ hub'.isCoordinator = hub.isCoordinator := by
  simp only [restart, bind_eq_ok, pure_eq_ok] at restarted
  obtain ⟨-, -, -, -, -, -, rfl⟩ := restarted
  exact ⟨rfl, rfl, rfl⟩

/-! ## Local operations -/

/-- The coordinator's records after local operations. -/
theorem queueLocal_records {s t : Store} {changed : Bool}
    (queued : s.queueLocal key content true = .ok (changed, t)) :
    progress s.records ≤ progress t.records ∧ (s.Distinct → t.Distinct) := by
  cases Store.queueLocal_cases queued with
  | repeated => exact ⟨le_refl _, id⟩
  | committed commits applied =>
    rw [applied.progress_eq]
    exact ⟨le_sup_left, applied.distinct⟩
  | pended replica => cases replica

theorem queueAll_records (role : hub.isCoordinator = true)
    {operations : List (String × Option SharedNotification)} {s t : Store} {changed : Bool}
    (queued : hub.queueAll operations s = .ok (changed, t)) :
    progress s.records ≤ progress t.records ∧ (s.Distinct → t.Distinct) := by
  induction operations generalizing s changed with
  | nil =>
    cases queued
    exact ⟨le_refl _, id⟩
  | cons operation operations ih =>
    simp only [queueAll, role, bind_eq_ok, pure_eq_ok, Prod.mk.injEq] at queued
    obtain ⟨⟨_, mid⟩, first, ⟨_, last⟩, rest, -, rfl⟩ := queued
    have one := queueLocal_records first
    have more := ih rest
    exact ⟨one.1.trans more.1, fun distinct => more.2 (one.2 distinct)⟩

theorem queueAll_extended (role : hub.isCoordinator = false)
    {operations : List (String × Option SharedNotification)} {s t : Store} {changed : Bool}
    (queued : hub.queueAll operations s = .ok (changed, t)) (outbox : s.Outbox) :
    Store.Extended s t := by
  induction operations generalizing s changed with
  | nil =>
    cases queued
    exact .refl outbox
  | cons operation operations ih =>
    simp only [queueAll, role, bind_eq_ok, pure_eq_ok, Prod.mk.injEq] at queued
    obtain ⟨⟨_, mid⟩, first, ⟨_, last⟩, rest, -, rfl⟩ := queued
    have extended := (Store.queueLocal_cases first).extended outbox
    exact extended.trans (ih rest extended.outbox)

theorem local_grown (role : hub.isCoordinator = true) :
    Grown hub (hub.local' key content persist).1 := by
  unfold local'
  rw [role]
  split
  · exact .refl hub
  · exact .refl hub
  · rename_i next queued
    have records := queueLocal_records queued
    exact commit_grown records.1 records.2

theorem applyPhone_grown (role : hub.isCoordinator = true)
    {phoneInstances : List (String × PhoneInstance)} {importedPhones : List (String × String)}
    {operations : List (String × Option SharedNotification)} :
    Grown hub (hub.applyPhone phoneInstances importedPhones operations persist).1 := by
  unfold applyPhone
  dsimp only
  split
  · exact .refl hub
  · rename_i changed next queued
    split
    · have records := queueAll_records role queued
      exact commit_grown records.1 records.2
    · exact .refl hub

/-- A local operation of a replica commits an extension of its store, or changes nothing. -/
theorem local_cases (key : NotificationKey) (content : Option SharedNotification)
    (persist : Persist) (role : hub.isCoordinator = false) (outbox : hub.state.Outbox) :
    (hub.local' key content persist).1 = hub ∨ ∃ next, Store.Extended hub.state next ∧
      (hub.local' key content persist).1 = (hub.commit next persist).1 := by
  unfold local'
  rw [role]
  split
  · exact .inl rfl
  · exact .inl rfl
  · rename_i next queued
    exact .inr ⟨next, (Store.queueLocal_cases queued).extended outbox, rfl⟩

theorem applyPhone_cases (phoneInstances : List (String × PhoneInstance))
    (importedPhones : List (String × String))
    (operations : List (String × Option SharedNotification)) (persist : Persist)
    (role : hub.isCoordinator = false) (outbox : hub.state.Outbox) :
    (hub.applyPhone phoneInstances importedPhones operations persist).1 = hub ∨
      ∃ next, Store.Extended hub.state next ∧
        (hub.applyPhone phoneInstances importedPhones operations persist).1 =
          (hub.commit next persist).1 := by
  unfold applyPhone
  dsimp only
  split
  · exact .inl rfl
  · rename_i changed next queued
    split
    · have same : Store.Extended hub.state { hub.state with phoneInstances, importedPhones } :=
        ⟨rfl, rfl, rfl, le_refl _, fun _ => .inl, fun _ => .inl, fun _ => id,
          ⟨outbox.numbered, outbox.ascending, outbox.keys, outbox.checked⟩⟩
      exact .inr ⟨next, same.trans (queueAll_extended role queued same.outbox), rfl⟩
    · exact .inl rfl

end NotificationHub

/-! ## Frames -/

namespace NotificationLink

variable {hub : NotificationHub} {link link' : NotificationLink} {event : NotificationSync}
  {persist : Persist}

/-- The turns of `next`: a frame leaves, a change is noticed, or the queue is filled. -/
theorem next_cases {sent : Option NotificationSync} (turn : link.next hub = some (sent, link')) :
    (∃ frame outgoing, link.outgoing = frame :: outgoing ∧ sent = some frame ∧
      link' = { link with outgoing }) ∨
    (sent = none ∧ link' = { link with changes := some hub.changed, dirty := true }) ∨
    (sent = none ∧ link' = link.fill hub) := by
  unfold next at turn
  split at turn
  · rename_i frame outgoing queued
    cases turn
    exact .inl ⟨frame, outgoing, queued, rfl, rfl⟩
  · split at turn
    · cases turn
    · split at turn
      · split at turn
        · cases turn
        · cases turn
          exact .inr (.inl ⟨rfl, rfl⟩)
      · cases turn
        exact .inr (.inr ⟨rfl, rfl⟩)

theorem pushAck_eq_ok {sequence : Nat} (pushed : link.pushAck sequence = .ok link') :
    link' = { link with outgoing := link.outgoing ++ [.ack sequence] } := by
  simp only [pushAck, bind_eq_ok, pure_eq_ok] at pushed
  obtain ⟨-, -, rfl⟩ := pushed
  rfl

theorem receiveSettings_eq_ok {coordinator : String}
    (received : link.receiveSettings hub coordinator = .ok link') :
    link' = { link with activity := true } := by
  simp only [receiveSettings, bind_eq_ok, pure_eq_ok] at received
  obtain ⟨-, -, rfl⟩ := received
  rfl

/-- What the coordinator's end is after a frame: at most an acknowledgement longer, and then
    the store covers the acknowledged operation. -/
structure Answered (hub : NotificationHub) (link : NotificationLink) (event : NotificationSync)
    (link' : NotificationLink) : Prop where
  dirty : link'.dirty = link.dirty
  changes : link'.changes = link.changes
  outgoing : link'.outgoing = link.outgoing ∨ ∃ operation, event = .submit operation ∧
    link'.outgoing = link.outgoing ++ [.ack operation.sequence] ∧
    operation.progress ≤ progress hub.state.records

theorem receiveSubmit_spec (operation : NotificationOperation) :
    hub.Grown (link.receiveSubmit hub operation persist).1 ∧
      ∀ link', (link.receiveSubmit hub operation persist).2 = .ok link' →
        Answered (link.receiveSubmit hub operation persist).1 link (.submit operation) link' := by
  unfold receiveSubmit
  split
  · exact ⟨.refl hub, fun _ failed => by cases failed⟩
  · rename_i unchanged applied
    refine ⟨.refl hub, fun link' pushed => ?_⟩
    rw [pushAck_eq_ok pushed]
    refine ⟨rfl, rfl, .inr ⟨operation, rfl, rfl, ?_⟩⟩
    have applied := (Store.apply_cases applied).2
    have joined := applied.progress_eq
    rw [applied.eq_of_unchanged] at joined
    exact joined.symm ▸ le_sup_right
  · rename_i next applied
    have applied := (Store.apply_cases applied).2
    have joined := applied.progress_eq
    refine ⟨NotificationHub.commit_grown (joined.symm ▸ le_sup_left) applied.distinct,
      fun link' pushed => ?_⟩
    cases persist with
    | failed renamed error => cases pushed
    | stored =>
      rw [pushAck_eq_ok pushed]
      exact ⟨rfl, rfl, .inr ⟨operation, rfl, rfl, joined.symm ▸ le_sup_right⟩⟩

/-- All the coordinator does on a frame. -/
theorem receive_coordinator (link : NotificationLink) (persist : Persist)
    (role : hub.isCoordinator = true) (event : NotificationSync) :
    hub.Grown (link.receive hub event persist).1 ∧
      ∀ link', (link.receive hub event persist).2 = .ok link' →
        Answered (link.receive hub event persist).1 link event link' := by
  cases event with
  | settings coordinator =>
    refine ⟨.refl hub, fun link' received => ?_⟩
    rw [receiveSettings_eq_ok received]
    exact ⟨rfl, rfl, .inl rfl⟩
  | submit operation =>
    by_cases active : link.activity
    · simp only [receive, active, role, Bool.not_true, Bool.false_eq_true, if_false]
      exact receiveSubmit_spec operation
    · simp only [receive, active, Bool.not_false, if_true]
      exact ⟨.refl hub, fun _ failed => by cases failed⟩
  | _ =>
    simp only [receive, role]
    split <;> exact ⟨.refl hub, fun _ failed => by cases failed⟩

/-- The ways a replica takes in a frame. -/
inductive Received (hub : NotificationHub) (link : NotificationLink) (persist : Persist) :
    NotificationSync → NotificationHub × Except String NotificationLink → Prop where
  | refused (event : NotificationSync) (error : String) :
      Received hub link persist event (hub, .error error)
  | settings (coordinator : String) :
      Received hub link persist (.settings coordinator) (hub, .ok { link with activity := true })
  | unknown (sequence : Nat)
      (absent : Keyed.lookup NotificationOperation.sequence sequence hub.state.pending = none) :
      Received hub link persist (.ack sequence) (hub, .ok link)
  | acknowledged (operation : NotificationOperation) (changed : Bool) (next : Store)
      (sequence : Nat)
      (found : Keyed.lookup NotificationOperation.sequence sequence hub.state.pending =
        some operation)
      (applied : Store.Applied { hub.state with
        pending := hub.state.pending.filter fun queued => queued.sequence ≠ sequence }
        operation changed next) :
      Received hub link persist (.ack sequence)
        ((hub.commit next persist).1, (hub.commit next persist).2.map fun _ => link)
  | opened (epoch : String) (fresh : link.staged = none)
      (epochs : hub.state.epoch = "" ∨ hub.state.epoch = epoch) :
      Received hub link persist (.snapshotStart epoch)
        (hub, .ok { link with staged := some (epoch, []) })
  | gathered (epoch : String) (records : List NotificationRecord) (record : NotificationRecord)
      (staged : link.staged = some (epoch, records))
      (fresh : ∀ known ∈ records, known.key ≠ record.key) :
      Received hub link persist (.record record)
        (hub, .ok { link with staged := some (epoch, records ++ [record]) })
  | confirmed (staged : link.staged = some (hub.state.epoch, hub.state.records)) :
      Received hub link persist .snapshotEnd (hub, .ok { link with staged := none })
  | renewed (epoch : String) (records : List NotificationRecord)
      (staged : link.staged = some (epoch, records)) :
      Received hub link persist .snapshotEnd
        ((hub.commit { hub.state with epoch, records } persist).1,
          (hub.commit { hub.state with epoch, records } persist).2.map fun _ =>
            { link with staged := none })

theorem receiveAck_received (sequence : Nat) :
    Received hub link persist (.ack sequence) (link.receiveAck hub sequence persist) := by
  unfold receiveAck
  split
  · rename_i absent
    exact .unknown sequence absent
  · rename_i operation found
    dsimp only
    split
    · exact .refused _ _
    · rename_i changed next applied
      exact .acknowledged operation changed next sequence found (Store.apply_cases applied).2

theorem receiveSnapshotEnd_received :
    Received hub link persist .snapshotEnd (link.receiveSnapshotEnd hub persist) := by
  unfold receiveSnapshotEnd
  split
  · exact .refused _ _
  · rename_i epoch records staged
    dsimp only
    split
    · rename_i same
      obtain ⟨rfl, rfl⟩ := same
      exact .confirmed staged
    · exact .renewed epoch records staged

theorem receiveSnapshotStart_received (epoch : String) :
    Received hub link persist (.snapshotStart epoch)
      (hub, link.receiveSnapshotStart hub epoch) := by
  cases received : link.receiveSnapshotStart hub epoch with
  | error error => exact .refused _ error
  | ok link' =>
    simp only [receiveSnapshotStart, bind_eq_ok, ensure_eq_ok, pure_eq_ok] at received
    obtain ⟨-, -, -, epochs, -, fresh, rfl⟩ := received
    exact .opened epoch fresh epochs

theorem receiveRecord_received (record : NotificationRecord) :
    Received hub link persist (.record record) (hub, link.receiveRecord record) := by
  cases received : link.receiveRecord record with
  | error error => exact .refused _ error
  | ok link' =>
    simp only [receiveRecord, bind_eq_ok] at received
    obtain ⟨-, -, received⟩ := received
    cases staged : link.staged with
    | none => simp [staged] at received
    | some pair =>
      obtain ⟨epoch, records⟩ := pair
      simp only [staged, bind_eq_ok, ensure_eq_ok, pure_eq_ok] at received
      obtain ⟨-, ⟨-, fresh⟩, rfl⟩ := received
      exact .gathered epoch records record staged fresh

/-- All a replica does on a frame. -/
theorem receive_replica (link : NotificationLink) (persist : Persist)
    (role : hub.isCoordinator = false) (event : NotificationSync) :
    Received hub link persist event (link.receive hub event persist) := by
  cases event with
  | settings coordinator =>
    simp only [receive]
    cases received : link.receiveSettings hub coordinator with
    | error error => exact .refused _ error
    | ok link' =>
      rw [receiveSettings_eq_ok received]
      exact .settings coordinator
  | submit operation =>
    simp only [receive, role]
    split <;> exact .refused _ _
  | ack sequence =>
    simp only [receive, role]
    split
    · exact .refused _ _
    · exact receiveAck_received sequence
  | snapshotStart epoch =>
    simp only [receive, role]
    split
    · exact .refused _ _
    · exact receiveSnapshotStart_received epoch
  | record record =>
    simp only [receive, role]
    split
    · exact .refused _ _
    · exact receiveRecord_received record
  | snapshotEnd =>
    simp only [receive, role]
    split
    · exact .refused _ _
    · exact receiveSnapshotEnd_received

end NotificationLink

end EdgeKvm.Notification
