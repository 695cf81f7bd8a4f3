import EdgeKvm.Notification.Invariant

/-!
# Every step keeps the invariant

One lemma for each step of a replica and its link, and `World.Inv.step` for the whole system.
-/

namespace EdgeKvm.Notification

open EdgeKvm.Lib

variable {coordinator : NotificationHub} {s t : Store} {next : Store}
  {connection connection' : Connection} {link link' : NotificationLink} {pair pair' : Pair}
  {persist : Persist}

/-! ## The link while the replica works on it -/

theorem LinkInv.resubmit (inv : LinkInv coordinator s connection link) (outbox : s.Outbox)
    (staged : link'.staged = link.staged) (down : connection'.down = connection.down)
    (ends : connection'.coordinatorEnd = connection.coordinatorEnd)
    (sent : ∀ operation, .submit operation ∈ connection'.toCoordinator ++ link'.outgoing →
      .submit operation ∈ connection.toCoordinator ++ link.outgoing ∨ operation ∈ s.pending) :
    LinkInv coordinator s connection' link' where
  submits := by
    intro operation submitted
    rcases sent operation submitted with before | pending
    · exact inv.submits operation before
    · exact ⟨outbox.numbered operation pending, fun queued member same =>
        Keyed.eq_of_key outbox.sequences member pending same⟩
  acks := by
    rw [down]
    exact inv.acks
  feed := by
    rw [down, staged]
    exact inv.feed
  staged := by
    rw [staged]
    exact inv.staged
  current := by
    rw [down, staged, ends]
    exact inv.current

/-- The replica takes in the oldest frame and moves from the store `s` to `t`. -/
theorem LinkInv.take {frame : NotificationSync} {toReplica : List NotificationSync}
    {replicaEnd : Option NotificationLink} (inv : LinkInv coordinator s connection link)
    (oldest : connection.toReplica = frame :: toReplica)
    (outgoing : link'.outgoing = link.outgoing)
    (staged : link'.staged = stage link.staged frame)
    (distinct : ∀ epoch records, link'.staged = some (epoch, records) →
      records.Pairwise fun a b => a.key ≠ b.key)
    (sequence : t.sequence = s.sequence) (pending : ∀ queued ∈ t.pending, queued ∈ s.pending)
    (feed : ∀ ds : List Delivery, Feed (progress s.records)
        ((arrives link.staged frame ++ ds).map (Delivery.message s.pending))
        (progress coordinator.state.records) →
      Feed (progress t.records) (ds.map (Delivery.message t.pending))
        (progress coordinator.state.records))
    (current : ∀ ds : List Delivery, settled (s.epoch, s.records)
        (arrives link.staged frame ++ ds) =
          (coordinator.state.epoch, coordinator.state.records) →
      settled (t.epoch, t.records) ds =
        (coordinator.state.epoch, coordinator.state.records)) :
    LinkInv coordinator t { connection with replicaEnd, toReplica } link' := by
  have down : connection.down =
      frame :: Connection.down { connection with replicaEnd, toReplica } := by
    simp [Connection.down, oldest]
  refine ⟨?_, ?_, ?_, distinct, ?_⟩
  · intro operation submitted
    rw [outgoing] at submitted
    obtain ⟨numbered, only⟩ := inv.submits operation submitted
    exact ⟨numbered.trans sequence.symm.le, fun queued member =>
      only queued (pending queued member)⟩
  · intro number sent
    have before : .ack number ∈ connection.down := by
      rw [down]
      exact List.mem_cons_of_mem _ sent
    obtain ⟨numbered, covers⟩ := inv.acks number before
    exact ⟨numbered.trans sequence.symm.le, fun queued member =>
      covers queued (pending queued member)⟩
  · have before := inv.feed
    rw [down, deliveries] at before
    rw [staged]
    exact feed _ before
  · intro sender found clean version changes seen
    have before := inv.current sender found clean version changes seen
    rw [down, deliveries] at before
    rw [staged]
    exact current _ before

/-- An acknowledgement leaves no larger part on the way. -/
theorem below_of_retained (outbox : s.Outbox) (p : NotificationOperation → Bool)
    (delivery : Delivery) :
    (delivery.message (s.pending.filter p)).Below (delivery.message s.pending) := by
  cases delivery with
  | snapshot epoch records => rfl
  | ack sequence =>
    simp only [Delivery.message, FeedMessage.Below]
    cases found : Keyed.lookup NotificationOperation.sequence sequence (s.pending.filter p) with
    | none => exact bot_le
    | some operation =>
      have before := Keyed.lookup_of_mem outbox.sequences
        (List.mem_of_mem_filter (Keyed.mem_of_lookup found))
      rw [Keyed.key_of_lookup found] at before
      rw [before]

theorem LinkInv.acknowledge {sequence : Nat} {operation : NotificationOperation} {changed : Bool}
    {toReplica : List NotificationSync} {replicaEnd : Option NotificationLink}
    (inv : LinkInv coordinator s connection link)
    (outbox : s.Outbox) (oldest : connection.toReplica = .ack sequence :: toReplica)
    (found : Keyed.lookup NotificationOperation.sequence sequence s.pending = some operation)
    (applied : Store.Applied { s with
      pending := s.pending.filter fun queued => queued.sequence ≠ sequence } operation changed
      next) :
    LinkInv coordinator next { connection with replicaEnd, toReplica } link := by
  have joined : progress next.records = progress s.records ⊔ operation.progress :=
    applied.progress_eq
  have pending : next.pending = s.pending.filter fun queued => queued.sequence ≠ sequence := by
    rw [applied.eq_records]
  have contained : operation.progress ≤ progress coordinator.state.records := by
    have sent : .ack sequence ∈ connection.down := by simp [Connection.down, oldest]
    exact (inv.acks sequence sent).2 operation (Keyed.mem_of_lookup found)
      (Keyed.key_of_lookup found)
  refine inv.take oldest rfl rfl inv.staged (by rw [applied.eq_records]) ?_ ?_ ?_
  · intro queued member
    rw [pending] at member
    exact List.mem_of_mem_filter member
  · intro ds feed
    simp only [arrives, List.singleton_append, List.map_cons, Delivery.message, found,
      Option.elim_some, Feed] at feed
    rw [joined, pending]
    exact feed.shrink fun delivery _ => below_of_retained outbox _ delivery
  · intro ds settles
    simp only [arrives, List.singleton_append, settled] at settles
    rcases settled_cases ds with stays | free
    · rw [stays] at settles ⊢
      -- The records are the coordinator's already, which contain the operation.
      have records : s.records = coordinator.state.records := congrArg Prod.snd settles
      have same := applied.eq_of_contained (by rw [records]; exact contained)
      rw [same]
      exact settles
    · rw [free (next.epoch, next.records) (s.epoch, s.records)]
      exact settles

theorem LinkInv.renew {epoch : String} {records : List NotificationRecord}
    {toReplica : List NotificationSync} {replicaEnd : Option NotificationLink}
    (inv : LinkInv coordinator s connection link)
    (oldest : connection.toReplica = .snapshotEnd :: toReplica)
    (staged : link.staged = some (epoch, records)) :
    LinkInv coordinator { s with epoch, records } { connection with replicaEnd, toReplica }
      { link with staged := none } := by
  refine inv.take oldest rfl rfl (fun _ _ opened => by cases opened) rfl (fun _ => id) ?_ ?_
  · intro ds feed
    simp only [arrives, staged, Option.toList_some, List.map_cons, List.map_nil,
      List.singleton_append, Delivery.message, Feed] at feed
    exact feed.2
  · intro ds settles
    simpa only [arrives, staged, Option.toList_some, List.map_cons, List.map_nil,
      List.singleton_append, settled] using settles

/-- The snapshot that is delivered is above the records and below the coordinator's. -/
theorem LinkInv.staged_between {epoch : String} {records : List NotificationRecord}
    {toReplica : List NotificationSync} (inv : LinkInv coordinator s connection link)
    (oldest : connection.toReplica = .snapshotEnd :: toReplica)
    (staged : link.staged = some (epoch, records)) :
    progress s.records ≤ progress records ∧
      progress records ≤ progress coordinator.state.records := by
  have feed := inv.feed
  simp only [Connection.down, oldest, List.cons_append, deliveries, arrives, staged,
    Option.toList_some, List.map_cons, List.map_nil, Delivery.message, Feed] at feed
  exact ⟨feed.1, feed.2.le⟩

theorem LinkInv.consume {frame : NotificationSync} {toCoordinator : List NotificationSync}
    (inv : LinkInv coordinator s connection link)
    (oldest : connection.toCoordinator = frame :: toCoordinator) :
    LinkInv coordinator s { connection with toCoordinator } link where
  submits := fun operation submitted => inv.submits operation (by
    rw [oldest]
    exact List.mem_cons_of_mem _ submitted)
  acks := inv.acks
  feed := inv.feed
  staged := inv.staged
  current := inv.current

/-- What a step of a replica and its link does to both hubs, and the invariant after it. -/
structure Pair.Preserved (pair pair' : Pair) : Prop where
  coordinator : pair.coordinator.Grown pair'.coordinator
  replica : pair.replica.Evolves (progress pair.coordinator.state.records) pair'.replica
  inv : pair'.Inv

namespace Pair

/-! ## Routines of the replica's hub -/

theorem Inv.commitLocal (inv : pair.Inv) (extended : Store.Extended pair.replica.state next) :
    pair.Preserved (pair.withReplica (pair.replica.commit next persist).1) := by
  have evolves := NotificationHub.commit_evolves persist
    (extended.advanced inv.replica.state.bounded inv.replica.state.distinct)
  refine ⟨.refl _, evolves, inv.coordinator, inv.replica.evolve evolves, inv.versions, ?_⟩
  intro link found
  cases persist with
  | stored => exact (inv.link link found).extend extended inv.replica.state.outbox
  | failed renamed error => exact inv.link link found

theorem Inv.unchanged (inv : pair.Inv) : pair.Preserved pair := ⟨.refl _, .refl _, inv⟩

theorem Inv.local' (inv : pair.Inv) (key : NotificationKey)
    (content : Option SharedNotification) :
    pair.Preserved (pair.withReplica (pair.replica.local' key content persist).1) := by
  rcases NotificationHub.local_cases key content persist
    inv.replica.role inv.replica.state.outbox with same | ⟨next, extended, committed⟩
  · rw [same]
    exact inv.unchanged
  · rw [committed]
    exact inv.commitLocal extended

theorem Inv.phone (inv : pair.Inv) (phoneInstances : List (String × PhoneInstance))
    (importedPhones : List (String × String))
    (operations : List (String × Option SharedNotification)) :
    pair.Preserved (pair.withReplica
      (pair.replica.applyPhone phoneInstances importedPhones operations persist).1) := by
  rcases NotificationHub.applyPhone_cases phoneInstances importedPhones operations persist
    inv.replica.role inv.replica.state.outbox with same | ⟨next, extended, committed⟩
  · rw [same]
    exact inv.unchanged
  · rw [committed]
    exact inv.commitLocal extended

theorem Inv.publish (inv : pair.Inv) {hub : NotificationHub}
    (published : pair.replica.publish = some hub) : pair.Preserved (pair.withReplica hub) := by
  obtain ⟨state, disk, role⟩ := NotificationHub.publish_eq published
  have evolves : pair.replica.Evolves (progress pair.coordinator.state.records) hub :=
    ⟨role, .kept state disk⟩
  refine ⟨.refl _, evolves, inv.coordinator, inv.replica.evolve evolves, inv.versions, ?_⟩
  intro link found
  simp only [withReplica, state]
  exact inv.link link found

theorem Inv.crash (inv : pair.Inv) (crashed : pair.crashReplica = some pair') :
    pair.Preserved pair' := by
  unfold crashReplica at crashed
  split at crashed
  · cases crashed
  · rename_i hub restarted
    cases crashed
    obtain ⟨state, disk, role⟩ := NotificationHub.restart_eq restarted
    have evolves : pair.replica.Evolves (progress pair.coordinator.state.records) hub :=
      ⟨role, .restarted state disk⟩
    refine ⟨.refl _, evolves, inv.coordinator, inv.replica.evolve evolves, inv.versions, ?_⟩
    intro link found
    cases found

/-! ## Turns of the workers -/

theorem Inv.replicaNext (inv : pair.Inv) (turned : pair.replicaNext = some pair') :
    pair.Preserved pair' := by
  obtain ⟨link, found, turned⟩ := Option.bind_eq_some_iff.mp turned
  obtain ⟨⟨sent, link'⟩, turn, turned⟩ := Option.bind_eq_some_iff.mp turned
  cases turned
  refine ⟨.refl _, .refl _, inv.coordinator, inv.replica, inv.versions, ?_⟩
  intro link'' found'
  cases found'
  refine LinkInv.resubmit (inv.link link found) inv.replica.state.outbox ?_ rfl rfl ?_
  · rcases NotificationLink.next_cases turn with ⟨_, _, -, -, rfl⟩ | ⟨-, rfl⟩ | ⟨-, rfl⟩
    · rfl
    · rfl
    · simp [NotificationLink.fill, inv.replica.role]
  · intro operation submitted
    rcases NotificationLink.next_cases turn with ⟨frame, outgoing, queued, rfl, rfl⟩ | ⟨rfl, rfl⟩ |
      ⟨rfl, rfl⟩
    · left
      rw [queued]
      simpa using submitted
    · left
      simpa using submitted
    · simp only [NotificationLink.fill, inv.replica.role, NotificationLink.unsent,
        Option.toList_none, List.append_nil, List.mem_append, Bool.false_eq_true, if_false,
        List.mem_map, NotificationSync.submit.injEq] at submitted
      rcases submitted with before | before | ⟨_, pending, rfl⟩
      · exact .inl (List.mem_append_left _ before)
      · exact .inl (List.mem_append_right _ before)
      · exact .inr (List.mem_of_mem_filter pending)

theorem Inv.coordinatorNext (inv : pair.Inv) (turned : pair.coordinatorNext = some pair') :
    pair.Preserved pair' := by
  obtain ⟨sender, found, turned⟩ := Option.bind_eq_some_iff.mp turned
  obtain ⟨⟨sent, sender'⟩, turn, turned⟩ := Option.bind_eq_some_iff.mp turned
  cases turned
  refine ⟨.refl _, .refl _, inv.coordinator, inv.replica, ?_, ?_⟩
  · intro sender'' found' version changes
    cases found'
    rcases NotificationLink.next_cases turn with ⟨_, _, -, -, rfl⟩ | ⟨-, rfl⟩ | ⟨-, rfl⟩
    · exact inv.versions sender found version changes
    · exact (Option.some.inj changes).symm.le
    · simp only [NotificationLink.fill, inv.coordinator.role, if_true] at changes
      exact inv.versions sender found version changes
  · intro link opened
    have before := inv.link link opened
    rcases NotificationLink.next_cases turn with ⟨frame, outgoing, queued, rfl, rfl⟩ | ⟨rfl, rfl⟩ |
      ⟨rfl, rfl⟩
    · refine before.resend rfl ?_ ?_
      · simp [Connection.down, found, queued]
      · intro sender' found' clean version changes seen
        cases found'
        exact ⟨sender, found, clean, changes⟩
    · refine before.resend rfl ?_ ?_
      · simp [Connection.down, found]
      · intro sender' found' clean
        cases found'
        cases clean
    · refine before.sendSnapshot rfl ?_
      simp [Connection.down, found, NotificationLink.fill, inv.coordinator.role]

/-! ## Deliveries -/

theorem Inv.deliverToReplica (inv : pair.Inv)
    (delivered : pair.deliverToReplica persist = some pair') : pair.Preserved pair' := by
  unfold Pair.deliverToReplica at delivered
  split at delivered
  · cases delivered
  · rename_i frame toReplica oldest
    split at delivered
    · cases delivered
      rename_i gone
      refine ⟨.refl _, .refl _, inv.coordinator, inv.replica, inv.versions, ?_⟩
      intro link found
      rw [gone] at found
      cases found
    · rename_i link opened
      cases delivered
      have before := inv.link link opened
      have received := NotificationLink.receive_replica link persist
        inv.replica.role frame
      generalize link.receive pair.replica frame persist = outcome at received
      -- Whatever the frame is, the hub evolves, and an end that stays keeps its invariant.
      suffices kept : pair.replica.Evolves (progress pair.coordinator.state.records) outcome.1 ∧
          ∀ link', outcome.2.toOption = some link' →
            LinkInv pair.coordinator outcome.1.state { pair.connection with
              replicaEnd := outcome.2.toOption, toReplica } link' from
        ⟨.refl _, kept.1, inv.coordinator, inv.replica.evolve kept.1, inv.versions, kept.2⟩
      cases received with
      | refused =>
        exact ⟨.refl _, fun _ found => by cases found⟩
      | settings coordinator =>
        refine ⟨.refl _, fun link' found => ?_⟩
        cases found
        exact before.take oldest rfl rfl before.staged rfl (fun _ => id) (fun _ => id)
          (fun _ => id)
      | unknown sequence absent =>
        refine ⟨.refl _, fun link' found => ?_⟩
        cases found
        refine before.take oldest rfl rfl before.staged rfl (fun _ => id) ?_ (fun _ => id)
        intro ds feed
        simpa only [arrives, List.singleton_append, List.map_cons, Delivery.message, absent,
          Option.elim_none, Feed, sup_bot_eq] using feed
      | acknowledged operation changed next sequence known applied =>
        have covered : operation.progress ≤ progress pair.coordinator.state.records :=
          (before.acks sequence (by simp [Connection.down, oldest])).2 operation
            (Keyed.mem_of_lookup known) (Keyed.key_of_lookup known)
        refine ⟨NotificationHub.commit_evolves _ (applied.acknowledged inv.replica.state.outbox known
          inv.replica.state.bounded inv.replica.state.distinct covered), fun link' found => ?_⟩
        cases persist with
        | failed renamed error => cases found
        | stored =>
          cases found
          exact before.acknowledge inv.replica.state.outbox oldest known applied
      | opened epoch fresh epochs =>
        refine ⟨.refl _, fun link' found => ?_⟩
        cases found
        refine before.take oldest rfl rfl ?_ rfl (fun _ => id) (fun _ => id) (fun _ => id)
        rintro _ _ ⟨⟩
        exact .nil
      | gathered epoch records record staged fresh =>
        refine ⟨.refl _, fun link' found => ?_⟩
        cases found
        refine before.take oldest rfl (by simp [stage, staged]) ?_ rfl (fun _ => id) (fun _ => id)
          (fun _ => id)
        rintro _ _ ⟨⟩
        refine List.pairwise_append.mpr
          ⟨before.staged epoch records staged, List.pairwise_singleton .., ?_⟩
        intro known member pushed new
        rw [List.mem_singleton.mp new]
        exact fresh known member
      | confirmed staged =>
        refine ⟨.refl _, fun link' found => ?_⟩
        cases found
        exact before.renew oldest staged
      | renewed epoch records staged =>
        obtain ⟨above, bounded⟩ := before.staged_between oldest staged
        refine ⟨NotificationHub.commit_evolves _
          (.snapshot inv.replica.state.outbox above bounded (before.staged epoch records staged)),
          fun link' found => ?_⟩
        cases persist with
        | failed renamed error => cases found
        | stored =>
          cases found
          exact before.renew oldest staged

theorem Inv.deliverToCoordinator (inv : pair.Inv)
    (delivered : pair.deliverToCoordinator persist = some pair') : pair.Preserved pair' := by
  unfold Pair.deliverToCoordinator at delivered
  split at delivered
  · cases delivered
  · rename_i frame toCoordinator oldest
    split at delivered
    · cases delivered
      exact ⟨.refl _, .refl _, inv.coordinator, inv.replica, inv.versions, fun link found =>
        (inv.link link found).consume oldest⟩
    · rename_i sender opened
      cases delivered
      obtain ⟨grown, answered⟩ :=
        NotificationLink.receive_coordinator sender persist inv.coordinator.role frame
      generalize sender.receive pair.coordinator frame persist = outcome at grown answered
      have versions := inv.versions.grow grown
      refine ⟨grown, .refl _, inv.coordinator.grow grown, inv.replica.mono grown.records, ?_, ?_⟩
      · intro sender' found version changes
        cases result : outcome.2 with
        | error error => simp [result, Except.toOption] at found
        | ok sender'' =>
          have answer := answered sender'' result
          simp only [result, Except.toOption, Option.some.injEq] at found
          subst found
          rw [answer.changes] at changes
          exact versions sender opened version changes
      · intro link found
        have before := (inv.link link found).grow inv.versions grown
        have submitted := (inv.link link found).submits
        cases result : outcome.2 with
        | error error =>
          exact (before.consume oldest).lose
        | ok sender'' =>
          have answer := answered sender'' result
          have same : ∀ sender', some sender'' = some sender' → sender'.dirty = false →
              ∀ version, sender'.changes = some version → outcome.1.Seen version →
              ∃ sender, pair.connection.coordinatorEnd = some sender ∧ sender.dirty = false ∧
                sender.changes = some version := by
            rintro sender' ⟨⟩ clean version changes -
            exact ⟨sender, opened, answer.dirty ▸ clean, answer.changes ▸ changes⟩
          rcases answer.outgoing with quiet | ⟨operation, rfl, outgoing, contained⟩
          · refine (before.consume oldest).resend rfl ?_ same
            simp [Connection.down, Except.toOption, opened, quiet]
          · obtain ⟨numbered, only⟩ := submitted operation (by simp [oldest])
            refine (before.consume oldest).sendAck numbered only contained rfl ?_ same
            simp [Connection.down, Except.toOption, opened, outgoing]

/-! ## Sessions -/

theorem link_eq {hub : NotificationHub} {peer : String} {supported : Bool}
    (opened : hub.link peer supported = some link) :
    link.changes = none ∧ link.staged = none ∧
      ∀ frame ∈ link.outgoing, ∃ coordinator, frame = .settings coordinator := by
  unfold NotificationHub.link at opened
  split at opened
  · cases opened
  · cases opened
    simp

theorem Inv.connect (inv : pair.Inv) (coordinatorSupports replicaSupports : Bool) :
    pair.Preserved (pair.connect coordinatorSupports replicaSupports) := by
  refine ⟨.refl _, .refl _, inv.coordinator, inv.replica, ?_, ?_⟩
  · intro sender opened version changes
    rw [(link_eq opened).1] at changes
    cases changes
  · intro link opened
    obtain ⟨-, staged, outgoing⟩ := link_eq opened
    have down : ∀ frame ∈ (pair.connect coordinatorSupports replicaSupports).connection.down,
        ∃ coordinator, frame = .settings coordinator := by
      intro frame sent
      simp only [Connection.down, Pair.connect, List.nil_append] at sent
      cases found : pair.coordinator.link pair.replica.identity replicaSupports with
      | none => simp [found] at sent
      | some sender =>
        simp only [found, Option.elim_some] at sent
        exact (link_eq found).2.2 frame sent
    have nothing : ∀ frames : List NotificationSync,
        (∀ frame ∈ frames, ∃ coordinator, frame = .settings coordinator) →
        deliveries none frames = [] := by
      intro frames only
      induction frames with
      | nil => rfl
      | cons frame frames ih =>
        obtain ⟨⟨coordinator, rfl⟩, rest⟩ := List.forall_mem_cons.mp only
        simpa [deliveries, arrives, stage] using ih rest
    refine ⟨?_, ?_, ?_, ?_, ?_⟩
    · intro operation submitted
      obtain ⟨_, impossible⟩ := outgoing _ submitted
      cases impossible
    · intro sequence sent
      obtain ⟨_, impossible⟩ := down _ sent
      cases impossible
    · rw [staged, nothing _ down]
      exact inv.replica.state.bounded
    · intro epoch records found
      rw [staged] at found
      cases found
    · intro sender found clean version changes
      rw [(link_eq found).1] at changes
      cases changes

theorem Inv.dropCoordinatorEnd (inv : pair.Inv) :
    pair.Preserved { pair with connection := { pair.connection with coordinatorEnd := none } } :=
  ⟨.refl _, .refl _, inv.coordinator, inv.replica, (fun _ found => by cases found),
    fun link found => (inv.link link found).lose⟩

theorem Inv.dropReplicaEnd (inv : pair.Inv) :
    pair.Preserved { pair with connection := { pair.connection with replicaEnd := none } } :=
  ⟨.refl _, .refl _, inv.coordinator, inv.replica, inv.versions, fun _ found => by cases found⟩

/-- Every step of a replica and its link keeps the invariant. -/
theorem Inv.step (inv : pair.Inv) {action : LinkAction} (executed : pair.exec action = some pair') :
    pair.Preserved pair' := by
  cases action with
  | replicaLocal key content persist =>
    cases executed
    exact inv.local' key content
  | replicaPhone phoneInstances importedPhones operations persist =>
    cases executed
    exact inv.phone phoneInstances importedPhones operations
  | replicaPublish =>
    obtain ⟨hub, published, rfl⟩ := Option.map_eq_some_iff.mp executed
    exact inv.publish published
  | replicaCrash => exact inv.crash executed
  | replicaNext => exact inv.replicaNext executed
  | coordinatorNext => exact inv.coordinatorNext executed
  | deliverToReplica persist => exact inv.deliverToReplica executed
  | deliverToCoordinator persist => exact inv.deliverToCoordinator executed
  | connect coordinatorSupports replicaSupports =>
    cases executed
    exact inv.connect coordinatorSupports replicaSupports
  | dropCoordinatorEnd =>
    cases executed
    exact inv.dropCoordinatorEnd
  | dropReplicaEnd =>
    cases executed
    exact inv.dropReplicaEnd

end Pair

/-! ## The whole system -/

universe u

variable {ι : Type u} {world world' : World ι}

structure World.Inv (world : World ι) : Prop where
  coordinator : CoordinatorInv world.coordinator
  pair : ∀ i, (world.pair i).Inv

/-- What a step of the system does to the hubs, and the invariant after it. -/
structure World.Preserved (world world' : World ι) : Prop where
  coordinator : progress world.coordinator.state.records ≤
    progress world'.coordinator.state.records
  replica : ∀ i, (world.replica i).Evolves (progress world.coordinator.state.records)
    (world'.replica i)
  inv : world'.Inv

namespace World

theorem Initial.inv (initial : world.Initial) : world.Inv := by
  obtain ⟨config, epoch, same, start⟩ := initial.coordinator
  have coordinator : CoordinatorInv world.coordinator := by
    rw [start]
    exact ⟨by simp [NotificationHub.isCoordinator, NotificationHub.start, same], le_refl _,
      .nil, .nil⟩
  refine ⟨coordinator, fun i => ⟨coordinator, ?_, ?_, ?_⟩⟩
  · obtain ⟨config', same', other, start'⟩ := initial.replica i
    have fresh : ∀ identity, Store.Replicates (progress world.coordinator.state.records)
        (NotificationHub.start config' identity "").state := by
      intro identity
      refine ⟨⟨?_, ?_, ?_, ?_⟩, ?_, .nil⟩
      · simp [NotificationHub.start]
      · exact List.Pairwise.nil
      · exact List.Pairwise.nil
      · simp [NotificationHub.start]
      · intro key
        exact bot_le
    simp only [pair]
    rw [start']
    refine ⟨?_, fresh _, fresh _, fun _ => id⟩
    simpa [NotificationHub.isCoordinator, NotificationHub.start, same'] using other
  · intro sender opened
    rw [pair, initial.connection i] at opened
    cases opened
  · intro link opened
    rw [pair, initial.connection i] at opened
    cases opened

/-- The coordinator moves on by itself. -/
theorem Inv.grow (inv : world.Inv) {hub : NotificationHub}
    (grown : world.coordinator.Grown hub) : world.Preserved { world with coordinator := hub } where
  coordinator := grown.records
  replica := fun _ => .refl _
  inv := by
    have coordinator := inv.coordinator.grow grown
    refine ⟨coordinator, fun i => ⟨coordinator, (inv.pair i).replica.mono grown.records,
      (inv.pair i).versions.grow grown, fun link opened => ?_⟩⟩
    exact ((inv.pair i).link link opened).grow (inv.pair i).versions grown

theorem Inv.crash (inv : world.Inv) (crashed : world.crashCoordinator = some world') :
    world.Preserved world' := by
  unfold crashCoordinator at crashed
  split at crashed
  · cases crashed
  · rename_i hub restarted
    cases crashed
    obtain ⟨state, disk, role⟩ := NotificationHub.restart_eq restarted
    have grown : progress world.coordinator.state.records ≤ progress hub.state.records := by
      rw [state]
      exact inv.coordinator.durable
    have coordinator : CoordinatorInv hub :=
      ⟨role.trans inv.coordinator.role, by rw [state, disk], state ▸ inv.coordinator.disk,
        disk ▸ inv.coordinator.disk⟩
    refine ⟨grown, fun _ => .refl _, coordinator, fun i => ⟨coordinator,
      (inv.pair i).replica.mono grown, (fun _ opened => by cases opened), ?_⟩⟩
    intro link opened
    have lost := ((inv.pair i).link link opened).lose
    -- The end is gone, so only what the coordinator has stored matters.
    refine ⟨lost.submits, ?_, lost.feed.grow grown, lost.staged, fun _ opened => by cases opened⟩
    intro sequence sent
    obtain ⟨numbered, covers⟩ := lost.acks sequence sent
    exact ⟨numbered, fun queued member same => (covers queued member same).trans grown⟩

variable [DecidableEq ι]

theorem Inv.stepLink (inv : world.Inv) {i : ι} {action : LinkAction} {pair : Pair}
    (executed : (world.pair i).exec action = some pair) :
    world.Preserved (world.withPair i pair) := by
  have preserved := (inv.pair i).step executed
  have coordinator := inv.coordinator.grow preserved.coordinator
  refine ⟨preserved.coordinator.records, fun j => ?_, coordinator, fun j => ?_⟩
  · by_cases same : j = i
    · subst same
      simpa [World.pair, withPair] using preserved.replica
    · simpa [withPair, same] using NotificationHub.Evolves.refl _
  · by_cases same : j = i
    · subst same
      simpa [World.pair, withPair] using preserved.inv
    · have others := (inv.grow preserved.coordinator).inv.pair j
      simpa [World.pair, withPair, same] using others

/-- Every step of the system keeps the invariant. -/
theorem Inv.step (inv : world.Inv) {action : Action ι}
    (executed : (system ι).exec world action = some world') : world.Preserved world' := by
  cases action with
  | coordinatorLocal key content persist =>
    cases executed
    exact inv.grow (NotificationHub.local_grown inv.coordinator.role)
  | coordinatorPhone phoneInstances importedPhones operations persist =>
    cases executed
    exact inv.grow (NotificationHub.applyPhone_grown inv.coordinator.role)
  | coordinatorPublish =>
    obtain ⟨hub, published, rfl⟩ := Option.map_eq_some_iff.mp executed
    exact inv.grow (NotificationHub.publish_grown published)
  | coordinatorCrash => exact inv.crash executed
  | link i action =>
    obtain ⟨pair, moved, rfl⟩ := Option.map_eq_some_iff.mp executed
    exact inv.stepLink moved

end World

end EdgeKvm.Notification
