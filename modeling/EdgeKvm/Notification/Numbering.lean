import EdgeKvm.Notification.Representation
import EdgeKvm.Notification.Start

/-!
# Every store of the system

The representation invariant in memory and on disk of every computer, among any number of
replicas and strangers that submit what they like: a live record that carries a computer's origin
is numbered at most as far as that computer has numbered.
-/

namespace EdgeKvm.Notification

open EdgeKvm.Lib EdgeKvm.Lib.Machine

/-! ## One hub -/

/-- Both stores of a hub are sound and its own. -/
structure NotificationHub.Sound (hub : NotificationHub) : Prop where
  state : hub.state.Sound
  disk : hub.disk.Sound
  stateIdentity : hub.state.localIdentity = hub.identity
  diskIdentity : hub.disk.localIdentity = hub.identity
  stateOwner : hub.state.coordinator = hub.config.coordinatorFingerprint
  diskOwner : hub.disk.coordinator = hub.config.coordinatorFingerprint
  ahead : hub.state.sequence ≤ hub.disk.sequence
  stateIdle : hub.isCoordinator = true → hub.state.pending = []
  diskIdle : hub.isCoordinator = true → hub.disk.pending = []

/-- Both stores of a hub number the live records of an origin up to `n`. -/
def NotificationHub.NumberedUpTo (hub : NotificationHub) (origin : String) (n : Nat) : Prop :=
  EdgeKvm.Notification.NumberedUpTo origin n hub.state.records ∧
    EdgeKvm.Notification.NumberedUpTo origin n hub.disk.records

/-- What a routine of a hub does; it keeps the numbers of the origins in `kept`. -/
structure NotificationHub.Moves (kept : String → Nat → Prop) (hub hub' : NotificationHub) :
    Prop where
  same : hub.Same hub'
  sound : hub'.Sound
  sequence : hub.state.sequence ≤ hub'.state.sequence
  others : ∀ origin n, kept origin n → hub.NumberedUpTo origin n → hub'.NumberedUpTo origin n

variable {hub hub' : NotificationHub} {link link' : NotificationLink} {persist : Persist}
  {key : NotificationKey} {content : Option SharedNotification} {next : Store} {origin : String}
  {n : Nat} {kept : String → Nat → Prop} {event : NotificationSync} {s t : Store}
  {operation : NotificationOperation} {changed : Bool}

/-- Operations of local origin leave the numbers of other origins alone. -/
theorem Store.queueLocal_others {coordinator : Bool}
    (queued : s.queueLocal key content coordinator = .ok (changed, t))
    (other : origin ≠ s.localIdentity) (numbered : NumberedUpTo origin n s.records) :
    NumberedUpTo origin n t.records := by
  cases queueLocal_cases queued with
  | repeated => exact numbered
  | pended => exact numbered
  | committed commits applied checked =>
    refine applied.numberedUpTo numbered fun carries own => ?_
    obtain ⟨shown, carries⟩ := Option.ne_none_iff_exists'.mp carries
    exact absurd (own.symm.trans (origin_of_checked checked carries)) other

namespace NotificationHub

theorem NumberedUpTo.mono {m : Nat} (numbered : hub.NumberedUpTo origin n) (le : n ≤ m) :
    hub.NumberedUpTo origin m := ⟨numbered.1.mono le, numbered.2.mono le⟩

theorem Moves.refl (sound : hub.Sound) : hub.Moves kept hub :=
  ⟨.refl, sound, le_refl _, fun _ _ _ => id⟩

/-- A commit of a sound store. -/
theorem commit_moves (persist : Persist) (sound : hub.Sound)
    (moved : Store.Moved hub.isCoordinator hub.state next)
    (others : ∀ origin n, kept origin n →
      EdgeKvm.Notification.NumberedUpTo origin n hub.state.records →
      EdgeKvm.Notification.NumberedUpTo origin n next.records) :
    hub.Moves kept (hub.commit next persist).1 := by
  have identity := moved.identity.trans sound.stateIdentity
  have owner := moved.owner.trans sound.stateOwner
  have idle : hub.isCoordinator = true → next.pending = [] :=
    fun role => moved.idle role (sound.stateIdle role)
  cases persist with
  | stored =>
    exact ⟨⟨rfl, rfl⟩, ⟨moved.sound, moved.sound, identity, identity, owner, owner, le_refl _,
      idle, idle⟩, moved.sequence, fun origin n kept numbered =>
        ⟨others origin n kept numbered.1, others origin n kept numbered.1⟩⟩
  | failed renamed error =>
    cases renamed with
    | true =>
      exact ⟨⟨rfl, rfl⟩, ⟨sound.state, moved.sound, sound.stateIdentity, identity,
        sound.stateOwner, owner, moved.sequence, sound.stateIdle, idle⟩, le_refl _,
        fun origin n kept numbered => ⟨numbered.1, others origin n kept numbered.1⟩⟩
    | false => exact .refl sound

theorem local_moves (key : NotificationKey) (content : Option SharedNotification)
    (persist : Persist) (sound : hub.Sound) :
    hub.Moves (fun origin _ => origin ≠ hub.identity) (hub.local' key content persist).1 := by
  unfold local'
  split
  · exact .refl sound
  · exact .refl sound
  · rename_i next queued
    refine commit_moves persist sound (Store.queueLocal_moved queued sound.state) ?_
    intro origin n other numbered
    exact Store.queueLocal_others queued (by rwa [sound.stateIdentity]) numbered

theorem queueAll_moves {operations : List (String × Option SharedNotification)}
    (queued : hub.queueAll operations s = .ok (changed, t)) (sound : s.Sound) :
    Store.Moved hub.isCoordinator s t ∧ ∀ origin n, origin ≠ s.localIdentity →
      EdgeKvm.Notification.NumberedUpTo origin n s.records →
      EdgeKvm.Notification.NumberedUpTo origin n t.records := by
  induction operations generalizing s changed with
  | nil =>
    cases queued
    exact ⟨.refl sound, fun _ _ _ => id⟩
  | cons operation operations ih =>
    simp only [queueAll, bind_eq_ok, pure_eq_ok, Prod.mk.injEq] at queued
    obtain ⟨⟨_, mid⟩, first, ⟨_, last⟩, rest, -, rfl⟩ := queued
    have moved := Store.queueLocal_moved first sound
    obtain ⟨rest, others⟩ := ih rest moved.sound
    refine ⟨moved.trans rest, fun origin n other numbered => ?_⟩
    exact others origin n (by rwa [moved.identity])
      (Store.queueLocal_others first other numbered)

theorem applyPhone_moves (phoneInstances : List (String × PhoneInstance))
    (importedPhones : List (String × String))
    (operations : List (String × Option SharedNotification)) (persist : Persist)
    (sound : hub.Sound) : hub.Moves (fun origin _ => origin ≠ hub.identity)
      (hub.applyPhone phoneInstances importedPhones operations persist).1 := by
  unfold applyPhone
  dsimp only
  split
  · exact .refl sound
  · rename_i changed next queued
    split
    · have edited : Store.Moved hub.isCoordinator hub.state _ :=
        sound.state.identities phoneInstances importedPhones
      obtain ⟨moved, others⟩ := queueAll_moves queued edited.sound
      refine commit_moves persist sound (edited.trans moved) ?_
      intro origin n other numbered
      exact others origin n (by simpa [sound.stateIdentity] using other) numbered
    · exact .refl sound

theorem publish_moves (published : hub.publish = some hub') (sound : hub.Sound) :
    hub.Moves kept hub' := by
  unfold publish at published
  split at published
  · cases published
  · cases published
    exact ⟨⟨rfl, rfl⟩, ⟨sound.state, sound.disk, sound.stateIdentity, sound.diskIdentity,
      sound.stateOwner, sound.diskOwner, sound.ahead, sound.stateIdle, sound.diskIdle⟩,
      le_refl _, fun _ _ _ => id⟩

theorem restart_moves (restarted : hub.restart = .ok hub') (sound : hub.Sound) :
    hub.Moves kept hub' := by
  simp only [restart, bind_eq_ok, ensure_eq_ok, pure_eq_ok] at restarted
  obtain ⟨-, -, -, -, -, -, rfl⟩ := restarted
  exact ⟨⟨rfl, rfl⟩, ⟨sound.disk, sound.disk, sound.diskIdentity, sound.diskIdentity,
    sound.diskOwner, sound.diskOwner, le_refl _, sound.diskIdle, sound.diskIdle⟩, sound.ahead,
    fun _ _ _ numbered => ⟨numbered.2, numbered.2⟩⟩

/-- `start` takes back every store the hub left; `persist` writes none above the size limit. -/
theorem Sound.loads (sound : hub.Sound) (size : Store → Nat) (io : StartIo)
    (fits : size hub.disk ≤ maxStoreBytes) :
    Store.load hub.config hub.identity size (some hub.disk) io = .ok hub.disk := by
  have settled : hub.disk.settleOwner hub.config.coordinatorFingerprint hub.identity io =
      .ok hub.disk := if_neg (not_not.mpr sound.diskOwner)
  simp only [Store.load, settled, bind_eq_ok, ensure_eq_ok, pure_eq_ok]
  exact ⟨(), fits, (), sound.diskIdentity, hub.disk, rfl, (),
    ⟨sound.disk.records, sound.disk.pending⟩, rfl⟩

end NotificationHub

/-! ## Frames at the coordinator -/

/-- The frame leaves the live records of an origin numbered up to `n`. -/
def NotificationSync.Keeps (event : NotificationSync) (peer origin : String) (n : Nat) : Prop :=
  ∀ operation, event = .submit operation → operation.content ≠ none → peer = origin →
    operation.sequence ≤ n

namespace NotificationLink

theorem receiveSubmit_moves (operation : NotificationOperation) (persist : Persist)
    (sound : hub.Sound) (other : link.peer ≠ hub.identity) :
    hub.Moves ((NotificationSync.submit operation).Keeps link.peer)
      (link.receiveSubmit hub operation persist).1 := by
  unfold receiveSubmit
  split
  · exact .refl sound
  · exact .refl sound
  · rename_i next applied
    obtain ⟨checked, applied⟩ := Store.apply_cases applied
    have origin : operation.content ≠ none → operation.key.origin = link.peer := by
      intro carries
      obtain ⟨shown, carries⟩ := Option.ne_none_iff_exists'.mp carries
      exact Store.origin_of_checked checked carries
    refine NotificationHub.commit_moves persist sound ?_ ?_
    · refine applied.moved sound.state fun carries own => ?_
      exact absurd ((origin carries).symm.trans (own.trans sound.stateIdentity)) other
    · intro origin' n keeps numbered
      refine applied.numberedUpTo numbered fun carries own => ?_
      exact keeps operation rfl carries ((origin carries).symm.trans own)

/-- Whatever a peer sends to the coordinator. -/
theorem receive_moves (link : NotificationLink) (event : NotificationSync) (persist : Persist)
    (role : hub.isCoordinator = true) (sound : hub.Sound) (other : link.peer ≠ hub.identity) :
    hub.Moves (event.Keeps link.peer) (link.receive hub event persist).1 := by
  cases history : event.isHistory with
  | false =>
    cases event with
    | settings coordinator => exact .refl sound
    | _ => cases history
  | true =>
    cases active : link.activity with
    | false =>
      rw [receive_inactive hub persist active history]
      exact .refl sound
    | true =>
      rcases receive_authority persist role active history with ⟨operation, rfl, result⟩ | result
      · rw [result]
        exact receiveSubmit_moves operation persist sound other
      · rw [result]
        exact .refl sound

end NotificationLink

/-! ## One link -/

/-- The frames on the way to the coordinator, those the replica's end has queued included. -/
def Connection.up (connection : Connection) : List NotificationSync :=
  connection.toCoordinator ++ connection.replicaEnd.elim [] NotificationLink.outgoing

/-- What a snapshot on the way to a replica satisfies. -/
structure Honest (replica : NotificationHub) (records : List NotificationRecord) : Prop where
  numbered : NumberedUpTo replica.identity replica.state.sequence records
  distinct : records.Pairwise fun a b => a.key ≠ b.key
  fits : records.length ≤ maxRecords

/-- Nothing that the coordinator has, or that is on a link, is numbered beyond its replica. -/
structure LinkNumbers (coordinator replica : NotificationHub) (connection : Connection) :
    Prop where
  stored : coordinator.NumberedUpTo replica.identity replica.state.sequence
  down : ∀ record, .record record ∈ connection.down →
    NumberedUpTo replica.identity replica.state.sequence [record]
  staged : ∀ link, connection.replicaEnd = some link → ∀ epoch records,
    link.staged = some (epoch, records) → Honest replica records
  submits : ∀ operation, .submit operation ∈ connection.up →
    operation.sequence ≤ replica.state.sequence
  peer : ∀ link, connection.coordinatorEnd = some link → link.peer = replica.identity

variable {coordinator coordinator' replica replica' : NotificationHub}
  {connection connection' : Connection}

theorem Honest.grow {records : List NotificationRecord} (honest : Honest replica records)
    (moves : replica.Moves kept replica') : Honest replica' records := by
  refine ⟨?_, honest.distinct, honest.fits⟩
  rw [moves.same.identity]
  exact honest.numbered.mono moves.sequence

/-- The replica moves on. -/
theorem LinkNumbers.grow (numbers : LinkNumbers coordinator replica connection)
    (moves : replica.Moves kept replica') : LinkNumbers coordinator replica' connection where
  stored := by
    rw [moves.same.identity]
    exact numbers.stored.mono moves.sequence
  down := by
    rw [moves.same.identity]
    exact fun record sent => (numbers.down record sent).mono moves.sequence
  staged := fun link opened epoch records staged =>
    (numbers.staged link opened epoch records staged).grow moves
  submits := fun operation sent => (numbers.submits operation sent).trans moves.sequence
  peer := by
    rw [moves.same.identity]
    exact numbers.peer

/-- The coordinator moves on. -/
theorem LinkNumbers.commit (numbers : LinkNumbers coordinator replica connection)
    (moves : coordinator.Moves kept coordinator')
    (keeps : kept replica.identity replica.state.sequence) :
    LinkNumbers coordinator' replica connection :=
  ⟨moves.others _ _ keeps numbers.stored, numbers.down, numbers.staged, numbers.submits,
    numbers.peer⟩

theorem NotificationHub.Moves.weaken {kept' : String → Nat → Prop}
    (moves : hub.Moves kept hub') (weaker : ∀ origin n, kept' origin n → kept origin n) :
    hub.Moves kept' hub' :=
  ⟨moves.same, moves.sound, moves.sequence,
    fun origin n keeps => moves.others origin n (weaker origin n keeps)⟩

/-- Only frames that were there already, or that carry nothing, and ends that stay. -/
theorem LinkNumbers.shrink (numbers : LinkNumbers coordinator replica connection)
    (down : ∀ record, .record record ∈ connection'.down → .record record ∈ connection.down)
    (up : ∀ operation, .submit operation ∈ connection'.up → .submit operation ∈ connection.up)
    (staged : ∀ link, connection'.replicaEnd = some link → ∀ epoch records,
      link.staged = some (epoch, records) → Honest replica records)
    (peer : ∀ link, connection'.coordinatorEnd = some link → link.peer = replica.identity) :
    LinkNumbers coordinator replica connection' :=
  ⟨numbers.stored, fun record sent => numbers.down record (down record sent), staged,
    fun operation sent => numbers.submits operation (up operation sent), peer⟩

/-! ### What a replica makes of a frame -/

namespace NotificationLink

/-- The hub of a replica after a frame, given that what it staged is honest. -/
theorem Received.moves {result : NotificationHub × Except String NotificationLink}
    (received : Received hub link persist event result) (sound : hub.Sound)
    (staged : ∀ epoch records, link.staged = some (epoch, records) → Honest hub records) :
    hub.Moves (fun _ _ => False) result.1 := by
  cases received with
  | refused | settings | unknown | opened | gathered | confirmed => exact .refl sound
  | acknowledged operation changed next sequence found applied =>
    exact NotificationHub.commit_moves persist sound
      (applied.acknowledged_moved found sound.state) fun _ _ none => none.elim
  | renewed epoch records opened =>
    have honest := staged epoch records opened
    have live : NumberedUpTo hub.state.localIdentity hub.state.sequence records := by
      rw [sound.stateIdentity]
      exact honest.numbered
    exact NotificationHub.commit_moves persist sound
      (sound.state.installed honest.distinct honest.fits live) fun _ _ none => none.elim

/-- The end of a replica after a frame whose record, if it is one, is numbered. -/
theorem receive_staged (role : hub.isCoordinator = false)
    (staged : ∀ epoch records, link.staged = some (epoch, records) → Honest hub records)
    (numbered : ∀ record, event = .record record →
      EdgeKvm.Notification.NumberedUpTo hub.identity hub.state.sequence [record])
    (ok : (link.receive hub event persist).2 = .ok link') :
    link'.outgoing = link.outgoing ∧
      ∀ epoch records, link'.staged = some (epoch, records) → Honest hub records := by
  by_cases single : ∃ record, event = .record record
  · obtain ⟨record, rfl⟩ := single
    have received := receive_replica link persist role (.record record)
    have fits : ∀ epoch records, link'.staged = some (epoch, records) →
        records.length ≤ maxRecords := by
      simp only [receive, role] at ok
      split at ok
      · cases ok
      · exact fun epoch records => receiveRecord_length ok
    generalize link.receive hub (.record record) persist = result at received ok
    cases received with
    | refused => cases ok
    | gathered epoch' records' record opened apart =>
      cases ok
      refine ⟨rfl, fun epoch records same => ⟨?_, ?_, fits epoch records same⟩⟩
      all_goals cases same
      · intro entry member
        rcases List.mem_append.mp member with old | new
        · exact (staged epoch' records' opened).numbered entry old
        · exact numbered record rfl entry new
      · refine List.pairwise_append.mpr ⟨(staged epoch' records' opened).distinct,
          List.pairwise_singleton .., ?_⟩
        intro known member last new
        rw [List.mem_singleton.mp new]
        exact apart known member
  · have received := receive_replica link persist role event
    generalize link.receive hub event persist = result at received ok
    cases received with
    | refused => cases ok
    | settings | unknown =>
      cases ok
      exact ⟨rfl, staged⟩
    | acknowledged =>
      obtain ⟨-, -, rfl⟩ := map_eq_ok.mp ok
      exact ⟨rfl, staged⟩
    | opened epoch' fresh epochs =>
      cases ok
      refine ⟨rfl, fun epoch records same => ?_⟩
      cases same
      exact ⟨fun _ member => (List.not_mem_nil member).elim, .nil, Nat.zero_le _⟩
    | gathered epoch' records' record => exact absurd ⟨record, rfl⟩ single
    | confirmed =>
      cases ok
      exact ⟨rfl, fun _ _ same => by cases same⟩
    | renewed =>
      obtain ⟨-, -, rfl⟩ := map_eq_ok.mp ok
      exact ⟨rfl, fun _ _ same => by cases same⟩

/-- The coordinator's end after a frame. -/
theorem receive_peer (role : hub.isCoordinator = true)
    (ok : (link.receive hub event persist).2 = .ok link') :
    link'.peer = link.peer ∧ ∀ frame ∈ link'.outgoing, frame ∈ link.outgoing ∨
      ∃ sequence, frame = .ack sequence := by
  cases history : event.isHistory with
  | false =>
    cases event with
    | settings coordinator =>
      rw [receiveSettings_eq_ok ok]
      exact ⟨rfl, fun _ => .inl⟩
    | _ => cases history
  | true =>
    cases active : link.activity with
    | false =>
      rw [receive_inactive hub persist active history] at ok
      cases ok
    | true =>
      rcases receive_authority persist role active history with ⟨operation, rfl, result⟩ | result
      · rw [result] at ok
        rw [receiveSubmit_link ok]
        refine ⟨rfl, fun frame member => ?_⟩
        rcases List.mem_append.mp member with old | new
        · exact .inl old
        · exact .inr ⟨_, List.mem_singleton.mp new⟩
      · rw [result] at ok
        cases ok

end NotificationLink

/-! ### The steps of a link -/

/-- The coordinator, one replica and their link, all numbered. -/
structure Pair.Numbers (pair : Pair) : Prop where
  coordinatorRole : pair.coordinator.isCoordinator = true
  replicaRole : pair.replica.isCoordinator = false
  coordinator : pair.coordinator.Sound
  replica : pair.replica.Sound
  other : pair.replica.identity ≠ pair.coordinator.identity
  link : LinkNumbers pair.coordinator pair.replica pair.connection

/-- What a step of a link does to the hubs: the coordinator takes in content of this replica's
    origin at most. -/
structure Pair.Stepped (pair pair' : Pair) : Prop where
  coordinator : pair.coordinator.Moves
    (fun origin _ => origin ≠ pair.coordinator.identity ∧ origin ≠ pair.replica.identity)
    pair'.coordinator
  replica : pair.replica.Moves (fun _ _ => False) pair'.replica
  link : LinkNumbers pair'.coordinator pair'.replica pair'.connection

namespace Pair

variable {pair pair' : Pair}

/-- A step that leaves both hubs alone. -/
theorem Numbers.relinked (numbers : pair.Numbers)
    (link : LinkNumbers pair.coordinator pair.replica connection') :
    pair.Stepped { pair with connection := connection' } :=
  ⟨.refl numbers.coordinator, .refl numbers.replica, link⟩

theorem Numbers.replicaMoves (numbers : pair.Numbers) (moves : pair.replica.Moves kept replica') :
    pair.Stepped (pair.withReplica replica') :=
  ⟨.refl numbers.coordinator, moves.weaken fun _ _ none => none.elim, numbers.link.grow moves⟩

theorem Numbers.crash (numbers : pair.Numbers) (crashed : pair.crashReplica = some pair') :
    pair.Stepped pair' := by
  unfold crashReplica at crashed
  split at crashed
  · cases crashed
  · rename_i hub restarted
    cases crashed
    have moves : pair.replica.Moves (fun _ _ => False) hub :=
      NotificationHub.restart_moves restarted numbers.replica
    refine ⟨.refl numbers.coordinator, moves, ?_⟩
    refine (numbers.link.grow moves).shrink (fun _ => id) ?_ (fun _ opened => by cases opened) ?_
    · intro operation sent
      exact List.mem_append_left _ (by simpa [Connection.up] using sent)
    · exact (numbers.link.grow moves).peer

theorem Numbers.replicaNext (numbers : pair.Numbers) (turned : pair.replicaNext = some pair') :
    pair.Stepped pair' := by
  obtain ⟨link, found, turned⟩ := Option.bind_eq_some_iff.mp turned
  obtain ⟨⟨sent, link'⟩, turn, turned⟩ := Option.bind_eq_some_iff.mp turned
  cases turned
  have before := numbers.link
  have up : ∀ operation, NotificationSync.submit operation ∈
      pair.connection.toCoordinator ++ link.outgoing →
      operation.sequence ≤ pair.replica.state.sequence := by
    intro operation queued
    exact before.submits operation (by simpa [Connection.up, found] using queued)
  have staged := before.staged link found
  refine numbers.relinked ⟨before.stored, before.down, ?_, ?_, before.peer⟩
  · intro opened same
    cases same
    rcases NotificationLink.next_cases turn with ⟨frame, outgoing, -, -, rfl⟩ | ⟨-, rfl⟩ | ⟨-, rfl⟩
    · exact staged
    · exact staged
    · simpa [NotificationLink.fill, numbers.replicaRole] using staged
  · intro operation queued
    simp only [Connection.up, Option.elim] at queued
    rcases NotificationLink.next_cases turn with
      ⟨frame, outgoing, leaves, rfl, rfl⟩ | ⟨rfl, rfl⟩ | ⟨rfl, rfl⟩
    · refine up operation ?_
      rw [leaves]
      simpa using queued
    · exact up operation (by simpa using queued)
    · simp only [NotificationLink.fill, numbers.replicaRole, Bool.false_eq_true, if_false,
        Option.toList_none, List.append_nil, ← List.append_assoc] at queued
      rcases List.mem_append.mp queued with old | new
      · exact up operation old
      · obtain ⟨pending, member, same⟩ := List.mem_map.mp new
        cases same
        exact numbers.replica.state.outbox.numbered _ (List.mem_of_mem_filter member)

theorem Numbers.coordinatorNext (numbers : pair.Numbers)
    (turned : pair.coordinatorNext = some pair') : pair.Stepped pair' := by
  obtain ⟨link, found, turned⟩ := Option.bind_eq_some_iff.mp turned
  obtain ⟨⟨sent, link'⟩, turn, turned⟩ := Option.bind_eq_some_iff.mp turned
  cases turned
  have before := numbers.link
  have down : ∀ record, NotificationSync.record record ∈
      pair.connection.toReplica ++ link.outgoing →
      NumberedUpTo pair.replica.identity pair.replica.state.sequence [record] := by
    intro record queued
    exact before.down record (by simpa [Connection.down, found] using queued)
  have peer := before.peer link found
  refine numbers.relinked ⟨before.stored, ?_, before.staged, before.submits, ?_⟩
  · intro record queued
    simp only [Connection.down, Option.elim] at queued
    rcases NotificationLink.next_cases turn with
      ⟨frame, outgoing, leaves, rfl, rfl⟩ | ⟨rfl, rfl⟩ | ⟨rfl, rfl⟩
    · refine down record ?_
      rw [leaves]
      simpa using queued
    · exact down record (by simpa using queued)
    · simp only [NotificationLink.fill, numbers.coordinatorRole, if_true, Option.toList_none,
        List.append_nil, ← List.append_assoc] at queued
      rcases List.mem_append.mp queued with old | new
      · exact down record old
      · have stored : record ∈ pair.coordinator.state.records := by
          simpa [NotificationLink.snapshot] using new
        intro entry member
        rw [List.mem_singleton.mp member]
        exact before.stored.1 record stored
  · intro opened same
    cases same
    rcases NotificationLink.next_cases turn with ⟨frame, outgoing, -, -, rfl⟩ | ⟨-, rfl⟩ | ⟨-, rfl⟩
    · exact peer
    · exact peer
    · simpa [NotificationLink.fill, numbers.coordinatorRole] using peer

theorem Numbers.deliverToReplica (numbers : pair.Numbers)
    (delivered : pair.deliverToReplica persist = some pair') : pair.Stepped pair' := by
  unfold Pair.deliverToReplica at delivered
  split at delivered
  · cases delivered
  · rename_i frame toReplica oldest
    have before := numbers.link
    have down : ∀ record, .record record ∈ ({ pair.connection with toReplica } : Connection).down →
        NotificationSync.record record ∈ pair.connection.down := by
      intro record queued
      simp only [Connection.down, oldest, List.cons_append]
      exact List.mem_cons_of_mem _ queued
    split at delivered
    · cases delivered
      exact numbers.relinked (before.shrink down (fun _ => id) before.staged before.peer)
    · rename_i link opened
      cases delivered
      have staged := before.staged link opened
      have moves := (NotificationLink.receive_replica link persist numbers.replicaRole
        frame).moves numbers.replica staged
      have single : ∀ record, frame = .record record →
          NumberedUpTo pair.replica.identity pair.replica.state.sequence [record] := by
        rintro record rfl
        refine before.down record ?_
        simp [Connection.down, oldest]
      refine ⟨.refl numbers.coordinator, moves, ?_⟩
      refine LinkNumbers.grow ?_ moves
      refine before.shrink (fun record queued => down record queued) ?_ ?_ before.peer
      · intro operation queued
        simp only [Connection.up] at queued ⊢
        cases kept : (link.receive pair.replica frame persist).2 with
        | error error =>
          rw [kept] at queued
          exact List.mem_append_left _ (by simpa [Except.toOption] using queued)
        | ok link' =>
          have outgoing := (NotificationLink.receive_staged numbers.replicaRole staged single kept).1
          rw [kept] at queued
          simpa [Except.toOption, outgoing, opened] using queued
      · intro link' kept
        exact (NotificationLink.receive_staged numbers.replicaRole staged single
          (toOption_eq_some.mp kept)).2

theorem Numbers.deliverToCoordinator (numbers : pair.Numbers)
    (delivered : pair.deliverToCoordinator persist = some pair') : pair.Stepped pair' := by
  unfold Pair.deliverToCoordinator at delivered
  split at delivered
  · cases delivered
  · rename_i frame toCoordinator oldest
    have before := numbers.link
    have up : ∀ operation,
        .submit operation ∈ ({ pair.connection with toCoordinator } : Connection).up →
        NotificationSync.submit operation ∈ pair.connection.up := by
      intro operation queued
      simp only [Connection.up, oldest, List.cons_append]
      exact List.mem_cons_of_mem _ queued
    split at delivered
    · cases delivered
      exact numbers.relinked (before.shrink (fun _ => id) up before.staged before.peer)
    · rename_i link opened
      cases delivered
      have peer := before.peer link opened
      have moves := NotificationLink.receive_moves link frame persist numbers.coordinatorRole
        numbers.coordinator (peer ▸ numbers.other)
      have keeps : frame.Keeps link.peer pair.replica.identity pair.replica.state.sequence := by
        rintro operation rfl - -
        refine before.submits operation ?_
        simp [Connection.up, oldest]
      refine ⟨moves.weaken ?_, .refl numbers.replica, ?_⟩
      · rintro origin n ⟨-, other⟩ operation - - same
        exact absurd (same.symm.trans peer) other
      refine LinkNumbers.commit ?_ moves keeps
      refine before.shrink ?_ up before.staged ?_
      · intro record queued
        simp only [Connection.down] at queued ⊢
        cases kept : (link.receive pair.coordinator frame persist).2 with
        | error error =>
          rw [kept] at queued
          exact List.mem_append_left _ (by simpa [Except.toOption] using queued)
        | ok link' =>
          rw [kept] at queued
          rcases List.mem_append.mp queued with old | new
          · exact List.mem_append_left _ old
          · rcases (NotificationLink.receive_peer numbers.coordinatorRole kept).2 _ new with
              old | ⟨sequence, same⟩
            · rw [opened]
              exact List.mem_append_right _ old
            · cases same
      · intro link' kept
        exact (NotificationLink.receive_peer numbers.coordinatorRole
          (toOption_eq_some.mp kept)).1.trans peer

theorem link_peer {peer : String} {supported : Bool}
    (opened : hub.link peer supported = some link) : link.peer = peer := by
  unfold NotificationHub.link at opened
  split at opened
  · cases opened
  · cases opened
    rfl

theorem Numbers.connect (numbers : pair.Numbers) (coordinatorSupports replicaSupports : Bool) :
    pair.Stepped (pair.connect coordinatorSupports replicaSupports) := by
  have settings : ∀ {hub : NotificationHub} {peer : String} {supported : Bool},
      ∀ frame ∈ (hub.link peer supported).elim [] NotificationLink.outgoing,
        ∃ owner, frame = .settings owner := by
    intro hub peer supported frame member
    cases opened : hub.link peer supported with
    | none =>
      rw [opened] at member
      cases member
    | some link =>
      rw [opened] at member
      exact (link_eq opened).2.2 frame member
  refine numbers.relinked (numbers.link.shrink ?_ ?_ ?_ ?_)
  · intro record queued
    obtain ⟨owner, same⟩ := settings _ (by simpa [Connection.down] using queued)
    cases same
  · intro operation queued
    obtain ⟨owner, same⟩ := settings _ (by simpa [Connection.up] using queued)
    cases same
  · intro link opened epoch records staged
    rw [(link_eq opened).2.1] at staged
    cases staged
  · intro link opened
    exact link_peer opened

theorem Numbers.step (numbers : pair.Numbers) {action : LinkAction}
    (executed : pair.exec action = some pair') : pair.Stepped pair' := by
  cases action with
  | replicaLocal key content persist =>
    cases executed
    exact numbers.replicaMoves (NotificationHub.local_moves key content persist numbers.replica)
  | replicaPhone phoneInstances importedPhones operations persist =>
    cases executed
    exact numbers.replicaMoves (NotificationHub.applyPhone_moves phoneInstances importedPhones
      operations persist numbers.replica)
  | replicaPublish =>
    obtain ⟨hub, published, rfl⟩ := Option.map_eq_some_iff.mp executed
    have moves : pair.replica.Moves (fun _ _ => False) hub :=
      NotificationHub.publish_moves published numbers.replica
    exact numbers.replicaMoves moves
  | replicaCrash => exact numbers.crash executed
  | replicaNext => exact numbers.replicaNext executed
  | coordinatorNext => exact numbers.coordinatorNext executed
  | deliverToReplica persist => exact numbers.deliverToReplica executed
  | deliverToCoordinator persist => exact numbers.deliverToCoordinator executed
  | connect coordinatorSupports replicaSupports =>
    cases executed
    exact numbers.connect coordinatorSupports replicaSupports
  | dropCoordinatorEnd =>
    cases executed
    refine numbers.relinked (numbers.link.shrink ?_ (fun _ => id) numbers.link.staged
      (fun _ opened => by cases opened))
    intro record queued
    exact List.mem_append_left _ (by simpa [Connection.down] using queued)
  | dropReplicaEnd =>
    cases executed
    refine numbers.relinked (numbers.link.shrink (fun _ => id) ?_
      (fun _ opened => by cases opened) numbers.link.peer)
    intro operation queued
    exact List.mem_append_left _ (by simpa [Connection.up] using queued)

end Pair

/-! ## The system and strangers -/

universe u

/-- The steps of the system, and frames of enrolled peers that are none of its computers; such a
    peer sends what it likes on a link of its own to the coordinator. -/
inductive OpenAction (ι : Type u) where
  | known (action : Action ι)
  | stranger (link : NotificationLink) (event : NotificationSync) (persist : Persist)

namespace World

variable {ι : Type u} [DecidableEq ι]

def execOpen (world : World ι) : OpenAction ι → Option (World ι)
  | .known action => world.exec action
  | .stranger link event persist =>
    some { world with coordinator := (link.receive world.coordinator event persist).1 }

/-- A stranger has no fingerprint of the system's computers. -/
def Authenticated (world : World ι) : OpenAction ι → Prop
  | .known _ => True
  | .stranger link _ _ =>
    link.peer ≠ world.coordinator.identity ∧ ∀ i, link.peer ≠ (world.replica i).identity

end World

/-- The notification system with strangers. -/
def openSystem (ι : Type u) [DecidableEq ι] : Machine (World ι) (OpenAction ι) :=
  ⟨World.execOpen⟩

namespace World

variable {ι : Type u} {world world' : World ι}

/-- All computers have fingerprints of their own, and all their stores are numbered. -/
structure Numbers (world : World ι) : Prop where
  distinct : ∀ i j, (world.replica i).identity = (world.replica j).identity → i = j
  pair : ∀ i, (world.pair i).Numbers
  role : world.coordinator.isCoordinator = true
  coordinator : world.coordinator.Sound

theorem Numbers.coordinatorMoves {hub : NotificationHub} (numbers : world.Numbers)
    (moves : world.coordinator.Moves kept hub)
    (keeps : ∀ i, kept (world.replica i).identity (world.replica i).state.sequence) :
    Numbers { world with coordinator := hub } where
  distinct := numbers.distinct
  pair := by
    intro i
    have pair := numbers.pair i
    exact ⟨moves.same.role.trans pair.coordinatorRole, pair.replicaRole, moves.sound, pair.replica,
      fun same => pair.other (same.trans moves.same.identity), pair.link.commit moves (keeps i)⟩
  role := moves.same.role.trans numbers.role
  coordinator := moves.sound

/-- The coordinator's process ends. -/
theorem Numbers.crash (numbers : world.Numbers)
    (crashed : world.crashCoordinator = some world') : world'.Numbers := by
  unfold crashCoordinator at crashed
  split at crashed
  · cases crashed
  · rename_i hub restarted
    cases crashed
    have moves : world.coordinator.Moves (fun _ _ => True) hub :=
      NotificationHub.restart_moves restarted numbers.coordinator
    have moved := numbers.coordinatorMoves moves fun _ => trivial
    refine ⟨numbers.distinct, fun i => ?_, moved.role, moved.coordinator⟩
    have pair := moved.pair i
    refine ⟨pair.coordinatorRole, pair.replicaRole, pair.coordinator, pair.replica, pair.other, ?_⟩
    refine pair.link.shrink ?_ (fun _ => id) pair.link.staged (fun _ opened => by cases opened)
    intro record queued
    exact List.mem_append_left _ (by simpa [Connection.down, World.pair] using queued)

variable [DecidableEq ι]

/-- A step of one link. -/
theorem Numbers.stepLink (numbers : world.Numbers) {i : ι} {action : LinkAction} {pair : Pair}
    (executed : (world.pair i).exec action = some pair) : (world.withPair i pair).Numbers := by
  have stepped := (numbers.pair i).step executed
  have other := (numbers.pair i).other
  have own : (world.withPair i pair).pair i = pair := by
    simp [World.pair, withPair]
  have rest : ∀ j, j ≠ i → (world.withPair i pair).pair j =
      { world.pair j with coordinator := pair.coordinator } := by
    intro j apart
    simp [World.pair, withPair, apart]
  have identity : ∀ j, ((world.withPair i pair).replica j).identity =
      (world.replica j).identity := by
    intro j
    by_cases same : j = i
    · subst same
      simpa [withPair, World.pair] using stepped.replica.same.identity
    · simp [withPair, same]
  refine ⟨fun j k same => ?_, fun j => ?_, ?_, ?_⟩
  · exact numbers.distinct j k (by rwa [identity, identity] at same)
  · by_cases same : j = i
    · subst same
      rw [own]
      exact ⟨stepped.coordinator.same.role.trans (numbers.pair j).coordinatorRole,
        stepped.replica.same.role.trans (numbers.pair j).replicaRole, stepped.coordinator.sound,
        stepped.replica.sound, by rwa [stepped.replica.same.identity,
          stepped.coordinator.same.identity], stepped.link⟩
    · rw [rest j same]
      have pair' := numbers.pair j
      have apart : (world.replica j).identity ≠ (world.replica i).identity :=
        fun equal => same (numbers.distinct j i equal)
      exact ⟨stepped.coordinator.same.role.trans numbers.role, pair'.replicaRole,
        stepped.coordinator.sound, pair'.replica,
        fun equal => pair'.other (equal.trans stepped.coordinator.same.identity),
        pair'.link.commit stepped.coordinator ⟨pair'.other, apart⟩⟩
  · exact stepped.coordinator.same.role.trans numbers.role
  · exact stepped.coordinator.sound

theorem Numbers.step (numbers : world.Numbers) {action : OpenAction ι}
    (authenticated : world.Authenticated action)
    (executed : (openSystem ι).exec world action = some world') : world'.Numbers := by
  have foreign : ∀ i, (world.replica i).identity ≠ world.coordinator.identity :=
    fun i => (numbers.pair i).other
  cases action with
  | stranger link event persist =>
    cases executed
    obtain ⟨apart, others⟩ := authenticated
    refine numbers.coordinatorMoves
      (NotificationLink.receive_moves link event persist numbers.role numbers.coordinator apart) ?_
    rintro i operation - - same
    exact absurd same (others i)
  | known action =>
    cases action with
    | coordinatorLocal key content persist =>
      cases executed
      exact numbers.coordinatorMoves
        (NotificationHub.local_moves key content persist numbers.coordinator) foreign
    | coordinatorPhone phoneInstances importedPhones operations persist =>
      cases executed
      exact numbers.coordinatorMoves (NotificationHub.applyPhone_moves phoneInstances
        importedPhones operations persist numbers.coordinator) foreign
    | coordinatorPublish =>
      obtain ⟨hub, published, rfl⟩ := Option.map_eq_some_iff.mp executed
      have moves : world.coordinator.Moves (fun _ _ => True) hub :=
        NotificationHub.publish_moves published numbers.coordinator
      exact numbers.coordinatorMoves moves fun _ => trivial
    | coordinatorCrash => exact numbers.crash executed
    | link i action =>
      obtain ⟨pair, moved, rfl⟩ := Option.map_eq_some_iff.mp executed
      exact numbers.stepLink moved

/-- The stores of the first start. -/
theorem sound_start (config : NotificationConfig) (identity epoch : String) :
    (NotificationHub.start config identity epoch).Sound := by
  have fresh : ∀ s : Store, s.records = [] → s.pending = [] → s.Sound := by
    intro s records pending
    refine ⟨⟨?_, ?_, ?_, ?_⟩, ?_, ?_, ?_, ?_⟩
    · simp [pending]
    · simp [pending]
    · simp [pending]
    · simp [pending]
    · simp [Store.Distinct, records]
    · simp [records]
    · simp [pending]
    · simp [NumberedUpTo, records]
  exact ⟨fresh _ rfl rfl, fresh _ rfl rfl, rfl, rfl, rfl, rfl, le_refl _, fun _ => rfl, fun _ => rfl⟩

omit [DecidableEq ι] in
theorem Initial.numbers (initial : world.Initial)
    (distinct : ∀ i j, (world.replica i).identity = (world.replica j).identity → i = j) :
    world.Numbers := by
  have inv := initial.inv
  have coordinator : world.coordinator.Sound ∧ world.coordinator.state.records = [] ∧
      world.coordinator.disk.records = [] := by
    obtain ⟨config, epoch, -, start⟩ := initial.coordinator
    rw [start]
    exact ⟨sound_start _ _ _, rfl, rfl⟩
  obtain ⟨sound, state, disk⟩ := coordinator
  refine ⟨distinct, fun i => ?_, inv.coordinator.role, sound⟩
  obtain ⟨config, -, other, start⟩ := initial.replica i
  have replica : (world.replica i).Sound := by
    rw [start]
    exact sound_start _ _ _
  refine ⟨inv.coordinator.role, (inv.pair i).replica.role, sound, replica, other, ?_⟩
  have empty : (world.pair i).connection = {} := initial.connection i
  rw [empty]
  refine ⟨⟨?_, ?_⟩, ?_, ?_, ?_, ?_⟩
  · simp [EdgeKvm.Notification.NumberedUpTo, World.pair, state]
  · simp [EdgeKvm.Notification.NumberedUpTo, World.pair, disk]
  · simp [Connection.down]
  · simp
  · simp [Connection.up]
  · simp

theorem Numbers.run {start : World ι} (numbers : start.Numbers)
    (run : (openSystem ι).Run World.Authenticated start world) : world.Numbers :=
  run.invariant (I := World.Numbers)
    (fun _ _ _ authenticated executed numbers => numbers.step authenticated executed) numbers

/-- The hubs of the system. -/
def Hub (world : World ι) (hub : NotificationHub) : Prop :=
  hub = world.coordinator ∨ ∃ i, hub = world.replica i

omit [DecidableEq ι] in
theorem Numbers.soundHub {hub : NotificationHub} (numbers : world.Numbers) (member : world.Hub hub) :
    hub.Sound := by
  rcases member with rfl | ⟨i, rfl⟩
  · exact numbers.coordinator
  · exact (numbers.pair i).replica

end World

variable {ι : Type u} [DecidableEq ι] {world : World ι}

/-- Every store in memory or on disk of every computer satisfies the representation invariant;
    what `queue_local` accepts on it is exactly what the view then shows of the key, the same call
    again changes nothing, and `start` takes the stored one back. -/
theorem store_representation {start : World ι} (initial : start.Initial)
    (distinct : ∀ i j, (start.replica i).identity = (start.replica j).identity → i = j)
    (run : (openSystem ι).Run World.Authenticated start world) {hub : NotificationHub}
    (member : world.Hub hub) :
    hub.state.Represents ∧ hub.disk.Represents ∧
      (∀ key content next, hub.state.queueLocal key content hub.isCoordinator = .ok (true, next) →
        (∃ record, lookupRecord key next.view = some record ∧ record.content = content ∧
          ∀ other ∈ next.view, other.key = key → other = record) ∧
        next.queueLocal key content hub.isCoordinator = .ok (false, next)) ∧
      ∀ size io, size hub.disk ≤ maxStoreBytes →
        Store.load hub.config hub.identity size (some hub.disk) io = .ok hub.disk := by
  have sound := ((initial.numbers distinct).run run).soundHub member
  refine ⟨sound.state.represents, sound.disk.represents, ?_, sound.loads⟩
  intro key content next queued
  refine ⟨?_, Store.queueLocal_again queued sound.state sound.stateIdle⟩
  obtain ⟨record, found, same⟩ := Store.queueLocal_shown queued sound.state sound.stateIdle
  refine ⟨record, found, same, fun other shown named => ?_⟩
  have unique := Store.view_distinct (Store.queueLocal_moved queued sound.state).sound.distinct
  exact Keyed.eq_of_key unique shown (Keyed.mem_of_lookup found)
    (named.trans (Keyed.key_of_lookup found).symm)

/-- The sample posts, and a stranger submits under its own name. -/
def sampleOpenRun : List (OpenAction Unit) :=
  (sampleSession ++ [samplePost] ++ sampleExchange).map .known ++
    [.stranger
      { activity := true, peer := "33333333:33333333:33333333:33333333", outgoing := [] }
      (.submit
        { sequence := 7, content := some sampleContent,
          key := { origin := "33333333:33333333:33333333:33333333", instance' := "chat/1" } })
      .stored]

def sampleAuthenticated (world : World Unit) : OpenAction Unit → Bool
  | .known _ => true
  | .stranger link _ _ =>
    link.peer ≠ world.coordinator.identity && link.peer ≠ (world.replica ()).identity

theorem sampleAuthenticated_sound (world : World Unit) (action : OpenAction Unit)
    (allowed : sampleAuthenticated world action = true) : world.Authenticated action := by
  cases action with
  | known action => trivial
  | stranger link event persist =>
    simp only [sampleAuthenticated, Bool.and_eq_true, decide_eq_true_eq] at allowed
    exact ⟨allowed.1, fun _ => allowed.2⟩

def sampleOpen : World Unit := (openSystem Unit).reach sampleStart sampleOpenRun

theorem store_representation_sample :
    sampleOpen.coordinator.state.records.length = 2 ∧ sampleOpen.coordinator.state.Represents :=
  ⟨by decide +kernel,
    (store_representation sampleStart_initial (fun _ _ _ => rfl)
      (run_reach_of_allowedList sampleAuthenticated sampleAuthenticated_sound sampleOpenRun
        (by decide +kernel) (by decide +kernel)) (.inl rfl)).1⟩

end EdgeKvm.Notification
