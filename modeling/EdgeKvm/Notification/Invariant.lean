import EdgeKvm.Notification.System
import EdgeKvm.Notification.Commits
import EdgeKvm.Notification.Deliveries

/-!
# The invariant of the notification system

For each replica: neither of its stores is ahead of the coordinator, an acknowledgement on the
way is for an operation the coordinator has stored, and whatever is on the way only brings the
records of the replica forward (`Feed`), finally to those of the coordinator once its end has
sent the last change.
-/

namespace EdgeKvm.Notification

open EdgeKvm.Lib

/-- The frames on the way to the replica, those its peer has queued included. -/
def Connection.down (connection : Connection) : List NotificationSync :=
  connection.toReplica ++ connection.coordinatorEnd.elim [] NotificationLink.outgoing

/-- What a store of a replica satisfies, in memory and on disk. -/
structure Store.Replicates (covered : Progress) (s : Store) : Prop where
  outbox : s.Outbox
  bounded : progress s.records ≤ covered
  distinct : s.Distinct

structure CoordinatorInv (hub : NotificationHub) : Prop where
  role : hub.isCoordinator = true
  durable : progress hub.state.records ≤ progress hub.disk.records
  state : hub.state.Distinct
  disk : hub.disk.Distinct

structure ReplicaInv (covered : Progress) (hub : NotificationHub) : Prop where
  role : hub.isCoordinator = false
  state : hub.state.Replicates covered
  disk : hub.disk.Replicates covered
  terminal : ∀ key, hub.state.Terminal key → hub.disk.Terminal key

/-- The frames between the coordinator and a replica with the store `s`, while the replica's end
    `link` is open. -/
structure LinkInv (coordinator : NotificationHub) (s : Store) (connection : Connection)
    (link : NotificationLink) : Prop where
  submits : ∀ operation, .submit operation ∈ connection.toCoordinator ++ link.outgoing →
    operation.sequence ≤ s.sequence ∧
      ∀ queued ∈ s.pending, queued.sequence = operation.sequence → queued = operation
  acks : ∀ sequence, .ack sequence ∈ connection.down → sequence ≤ s.sequence ∧
    ∀ queued ∈ s.pending, queued.sequence = sequence →
      queued.progress ≤ progress coordinator.state.records
  feed : Feed (progress s.records)
    ((deliveries link.staged connection.down).map (Delivery.message s.pending))
    (progress coordinator.state.records)
  staged : ∀ epoch records, link.staged = some (epoch, records) →
    records.Pairwise fun a b => a.key ≠ b.key
  current : ∀ sender, connection.coordinatorEnd = some sender → sender.dirty = false →
    ∀ version, sender.changes = some version → coordinator.Seen version →
    settled (s.epoch, s.records) (deliveries link.staged connection.down) =
      (coordinator.state.epoch, coordinator.state.records)

/-- The version the coordinator's end saw last is not ahead of the hub. -/
def Versions (coordinator : NotificationHub) (connection : Connection) : Prop :=
  ∀ sender, connection.coordinatorEnd = some sender →
    ∀ version, sender.changes = some version → version ≤ coordinator.changed

structure Pair.Inv (pair : Pair) : Prop where
  coordinator : CoordinatorInv pair.coordinator
  replica : ReplicaInv (progress pair.coordinator.state.records) pair.replica
  versions : Versions pair.coordinator pair.connection
  link : ∀ link, pair.connection.replicaEnd = some link →
    LinkInv pair.coordinator pair.replica.state pair.connection link

variable {hub hub' coordinator coordinator' : NotificationHub} {s t : Store}
  {connection connection' : Connection} {link link' : NotificationLink} {covered covered' : Progress}
  {pair pair' : Pair} {persist : Persist}

/-! ## The hubs -/

theorem Store.Replicates.mono (grown : covered ≤ covered') (replicates : s.Replicates covered) :
    s.Replicates covered' :=
  ⟨replicates.outbox, replicates.bounded.trans grown, replicates.distinct⟩

theorem Store.Advanced.replicates (advanced : Store.Advanced covered s t) :
    t.Replicates covered :=
  ⟨advanced.outbox, advanced.bounded, advanced.distinct⟩

theorem CoordinatorInv.grow (inv : CoordinatorInv hub) (grown : hub.Grown hub') :
    CoordinatorInv hub' :=
  ⟨grown.role.trans inv.role, grown.durable inv.durable, grown.distinct inv.state,
    grown.durablyDistinct inv.state inv.disk⟩

theorem ReplicaInv.mono (grown : covered ≤ covered') (inv : ReplicaInv covered hub) :
    ReplicaInv covered' hub :=
  ⟨inv.role, inv.state.mono grown, inv.disk.mono grown, inv.terminal⟩

theorem ReplicaInv.evolve (inv : ReplicaInv covered hub) (evolves : hub.Evolves covered hub') :
    ReplicaInv covered hub' := by
  have stores : hub'.state.Replicates covered ∧ hub'.disk.Replicates covered ∧
      ∀ key, hub'.state.Terminal key → hub'.disk.Terminal key := by
    cases evolves.stores with
    | kept state disk =>
      rw [state, disk]
      exact ⟨inv.state, inv.disk, inv.terminal⟩
    | committed advanced disk =>
      rw [disk]
      exact ⟨advanced.replicates, advanced.replicates, fun _ => id⟩
    | failed state advanced =>
      rw [state]
      exact ⟨inv.state, advanced.replicates, advanced.terminal⟩
    | restarted state disk =>
      rw [state, disk]
      exact ⟨inv.disk, inv.disk, fun _ => id⟩
  exact ⟨evolves.role.trans inv.role, stores.1, stores.2.1, stores.2.2⟩

/-! ## The link while one of the hubs moves -/

theorem Versions.grow (versions : Versions coordinator connection)
    (grown : coordinator.Grown coordinator') : Versions coordinator' connection :=
  fun sender found version seen => (versions sender found version seen).trans grown.changed

/-- The coordinator moves on without touching this link. -/
theorem LinkInv.grow (inv : LinkInv coordinator s connection link)
    (versions : Versions coordinator connection) (grown : coordinator.Grown coordinator') :
    LinkInv coordinator' s connection link where
  submits := inv.submits
  acks := by
    intro sequence sent
    obtain ⟨numbered, covers⟩ := inv.acks sequence sent
    exact ⟨numbered, fun queued member same => (covers queued member same).trans grown.records⟩
  feed := inv.feed.grow grown.records
  staged := inv.staged
  current := by
    intro sender found clean version changes seen
    obtain ⟨before, epoch, records⟩ :=
      grown.seen version (versions sender found version changes) seen
    rw [epoch, records]
    exact inv.current sender found clean version changes before

/-- The part an acknowledgement on the way brings does not grow when operations are added. -/
theorem Store.Extended.below (extended : Store.Extended s t) (outbox : s.Outbox)
    {delivery : Delivery} (numbered : ∀ sequence, delivery = .ack sequence → sequence ≤ s.sequence) :
    (delivery.message t.pending).Below (delivery.message s.pending) := by
  cases delivery with
  | snapshot epoch records => rfl
  | ack sequence =>
    simp only [Delivery.message, FeedMessage.Below]
    cases found : Keyed.lookup NotificationOperation.sequence sequence t.pending with
    | none => exact bot_le
    | some operation =>
      have same := Keyed.key_of_lookup found
      rcases extended.added operation (Keyed.mem_of_lookup found) with old | new
      · have before := Keyed.lookup_of_mem outbox.sequences old
        rw [same] at before
        rw [before]
      · exact absurd (numbered sequence rfl) (by omega)

/-- Local operations of the replica. -/
theorem LinkInv.extend (inv : LinkInv coordinator s connection link)
    (extended : Store.Extended s t) (outbox : s.Outbox) :
    LinkInv coordinator t connection link where
  submits := by
    intro operation sent
    obtain ⟨numbered, only⟩ := inv.submits operation sent
    refine ⟨numbered.trans extended.sequence, fun queued member same => ?_⟩
    rcases extended.added queued member with old | new
    · exact only queued old same
    · omega
  acks := by
    intro sequence sent
    obtain ⟨numbered, covers⟩ := inv.acks sequence sent
    refine ⟨numbered.trans extended.sequence, fun queued member same => ?_⟩
    rcases extended.added queued member with old | new
    · exact covers queued old same
    · omega
  feed := by
    rw [extended.records]
    refine inv.feed.shrink fun delivery delivered => extended.below outbox ?_
    rintro sequence rfl
    exact (inv.acks sequence (ack_of_deliveries delivered)).1
  staged := inv.staged
  current := by
    rw [extended.records, extended.epoch]
    exact inv.current

/-! ## The link while a frame moves -/

theorem Connection.down_push {sender : NotificationLink} {frames : List NotificationSync}
    (found : connection.coordinatorEnd = some sender) :
    Connection.down { connection with
      coordinatorEnd := some { sender with outgoing := sender.outgoing ++ frames } } =
      connection.down ++ frames := by
  simp [Connection.down, found]

/-- The coordinator's end changes without a new frame. -/
theorem LinkInv.resend (inv : LinkInv coordinator s connection link)
    (upstream : connection'.toCoordinator = connection.toCoordinator)
    (down : connection'.down = connection.down)
    (current : ∀ sender', connection'.coordinatorEnd = some sender' → sender'.dirty = false →
      ∀ version, sender'.changes = some version → coordinator.Seen version →
      ∃ sender, connection.coordinatorEnd = some sender ∧ sender.dirty = false ∧
        sender.changes = some version) :
    LinkInv coordinator s connection' link where
  submits := by
    rw [upstream]
    exact inv.submits
  acks := by
    rw [down]
    exact inv.acks
  feed := by
    rw [down]
    exact inv.feed
  staged := inv.staged
  current := by
    intro sender' found clean version changes seen
    rw [down]
    obtain ⟨sender, before, clean, changes⟩ := current sender' found clean version changes seen
    exact inv.current sender before clean version changes seen

/-- The coordinator sends a full snapshot. -/
theorem LinkInv.sendSnapshot (inv : LinkInv coordinator s connection link)
    (upstream : connection'.toCoordinator = connection.toCoordinator)
    (down : connection'.down = connection.down ++ NotificationLink.snapshot coordinator.state) :
    LinkInv coordinator s connection' link where
  submits := by
    rw [upstream]
    exact inv.submits
  acks := by
    intro sequence sent
    rw [down, List.mem_append] at sent
    refine inv.acks sequence (sent.resolve_right ?_)
    simp [NotificationLink.snapshot]
  feed := by
    rw [down, deliveries_push_snapshot, List.map_append]
    exact inv.feed.push_whole
  staged := inv.staged
  current := by
    intros
    rw [down, deliveries_push_snapshot, settled_append_snapshot]

/-- The coordinator acknowledges an operation it has stored. -/
theorem LinkInv.sendAck (inv : LinkInv coordinator s connection link)
    {operation : NotificationOperation} (numbered : operation.sequence ≤ s.sequence)
    (only : ∀ queued ∈ s.pending, queued.sequence = operation.sequence → queued = operation)
    (contained : operation.progress ≤ progress coordinator.state.records)
    (upstream : connection'.toCoordinator = connection.toCoordinator)
    (down : connection'.down = connection.down ++ [.ack operation.sequence])
    (current : ∀ sender', connection'.coordinatorEnd = some sender' → sender'.dirty = false →
      ∀ version, sender'.changes = some version → coordinator.Seen version →
      ∃ sender, connection.coordinatorEnd = some sender ∧ sender.dirty = false ∧
        sender.changes = some version) :
    LinkInv coordinator s connection' link where
  submits := by
    rw [upstream]
    exact inv.submits
  acks := by
    intro sequence sent
    rw [down, List.mem_append] at sent
    rcases sent with before | new
    · exact inv.acks sequence before
    · simp only [List.mem_singleton, NotificationSync.ack.injEq] at new
      subst new
      refine ⟨numbered, fun queued member same => ?_⟩
      rw [only queued member same]
      exact contained
  feed := by
    rw [down, deliveries_push_ack, List.map_append]
    refine inv.feed.push_part ?_
    cases found : Keyed.lookup NotificationOperation.sequence operation.sequence s.pending with
    | none => exact bot_le
    | some queued =>
      rw [only queued (Keyed.mem_of_lookup found) (Keyed.key_of_lookup found)]
      exact contained
  staged := inv.staged
  current := by
    intro sender' found clean version changes seen
    rw [down, deliveries_push_ack, settled_append_ack]
    obtain ⟨sender, before, clean, changes⟩ := current sender' found clean version changes seen
    exact inv.current sender before clean version changes seen

/-- The coordinator's end is gone, and with it what it had queued. -/
theorem LinkInv.lose (inv : LinkInv coordinator s connection link) :
    LinkInv coordinator s { connection with coordinatorEnd := none } link where
  submits := inv.submits
  acks := fun sequence sent => inv.acks sequence (by
    simp only [Connection.down, Option.elim_none, List.append_nil] at sent
    exact List.mem_append_left _ sent)
  feed := by
    have feed := inv.feed
    rw [Connection.down, deliveries_append, List.map_append] at feed
    simpa [Connection.down] using feed.lose
  staged := inv.staged
  current := by
    intro sender found
    cases found

end EdgeKvm.Notification
