import EdgeKvm.Notification.Preservation

/-!
# What the notification system guarantees

No accepted operation is lost, a removal is never undone, and links at rest have delivered
everything. Each holds in every state a run reaches, whatever the order of local operations,
deliveries, persist failures, lost links and crashes.
-/

namespace EdgeKvm.Notification

open EdgeKvm.Lib Machine

universe u

variable {ι : Type u} [DecidableEq ι] {world world' : World ι}

theorem World.Inv.run (inv : world.Inv) (run : (system ι).Run anyAction world world') :
    world'.Inv :=
  run.invariant (I := World.Inv) (fun _ _ _ _ executed inv => (inv.step executed).inv) inv

/-! ## Accepted operations -/

section Accepted

variable {operation : NotificationOperation} {covered covered' : Progress} {s t : Store}
  {hub hub' : NotificationHub}

/-- The operation is pending, or one that supersedes it is, or it is covered. -/
def Store.Accounts (covered : Progress) (operation : NotificationOperation) (s : Store) : Prop :=
  operation ∈ s.pending ∨ (∃ later ∈ s.pending, Store.Supersedes later operation) ∨
    operation.progress ≤ covered

/-- Both stores of the replica account for the operation. -/
structure NotificationHub.Accounts (covered : Progress) (operation : NotificationOperation)
    (hub : NotificationHub) : Prop where
  state : hub.state.Accounts covered operation
  disk : hub.disk.Accounts covered operation

theorem Store.Accounts.mono (grown : covered ≤ covered') (accounts : s.Accounts covered operation) :
    s.Accounts covered' operation :=
  accounts.imp_right fun rest => rest.imp_right fun contained => contained.trans grown

theorem Store.Accounts.advance (advanced : Store.Advanced covered s t)
    (accounts : s.Accounts covered operation) : t.Accounts covered operation := by
  rcases accounts with pending | ⟨later, pending, supersedes⟩ | contained
  · exact advanced.kept operation pending
  · rcases advanced.kept later pending with stays | ⟨last, newer, supersedes'⟩ | contained
    · exact .inr (.inl ⟨later, stays, supersedes⟩)
    · exact .inr (.inl ⟨last, newer, supersedes'.trans supersedes⟩)
    · exact .inr (.inr (supersedes.progress.trans contained))
  · exact .inr (.inr contained)

theorem NotificationHub.Accounts.evolve (evolves : hub.Evolves covered hub')
    (accounts : hub.Accounts covered operation) : hub'.Accounts covered operation := by
  have stores : hub'.state.Accounts covered operation ∧ hub'.disk.Accounts covered operation := by
    cases evolves.stores with
    | kept state disk =>
      rw [state, disk]
      exact ⟨accounts.state, accounts.disk⟩
    | committed advanced disk =>
      rw [disk]
      exact ⟨accounts.state.advance advanced, accounts.state.advance advanced⟩
    | failed state advanced =>
      rw [state]
      exact ⟨accounts.state, accounts.state.advance advanced⟩
    | restarted state disk =>
      rw [state, disk]
      exact ⟨accounts.disk, accounts.disk⟩
  exact ⟨stores.1, stores.2⟩

omit [DecidableEq ι] in
theorem World.Preserved.accounts {i : ι} (preserved : world.Preserved world')
    (accounts : (world.replica i).Accounts (progress world.coordinator.state.records) operation) :
    (world'.replica i).Accounts (progress world'.coordinator.state.records) operation := by
  have evolved := accounts.evolve (preserved.replica i)
  exact ⟨evolved.state.mono preserved.coordinator, evolved.disk.mono preserved.coordinator⟩

/-- An accepted operation is pending in memory and on disk. -/
theorem NotificationHub.accepts_pending {key : NotificationKey}
    {content : Option SharedNotification} {persist : Persist} (role : hub.isCoordinator = false)
    (accepted : hub.accepts key content persist = some operation) :
    operation ∈ (hub.local' key content persist).1.state.pending ∧
      operation ∈ (hub.local' key content persist).1.disk.pending := by
  unfold accepts at accepted
  split at accepted
  · rename_i next queued
    cases accepted
    have pending : hub.state.nextOperation key content ∈ next.pending := by
      rw [role] at queued
      cases Store.queueLocal_cases queued with
      | committed commits => cases commits
      | pended => exact List.mem_append_right _ (List.mem_singleton_self _)
    simp only [local', queued]
    exact ⟨pending, pending⟩
  · cases accepted

/-- The operation, or a later one on its key, is in the durable outbox of replica `i`, or the
    durable store of the coordinator covers it. -/
def World.Accounted (world : World ι) (i : ι) (operation : NotificationOperation) : Prop :=
  operation ∈ (world.replica i).disk.pending ∨
    (∃ later ∈ (world.replica i).disk.pending,
      later.key = operation.key ∧ operation.sequence < later.sequence) ∨
    world.coordinator.disk.Covers operation

omit [DecidableEq ι] in
theorem World.Inv.accounted {i : ι} (inv : world.Inv)
    (accounts : (world.replica i).Accounts (progress world.coordinator.state.records) operation) :
    world.Accounted i operation := by
  rcases accounts.disk with pending | ⟨later, pending, supersedes⟩ | contained
  · exact .inl pending
  · exact .inr (.inl ⟨later, pending, supersedes.key, supersedes.newer⟩)
  · exact .inr (.inr (Store.covers_of_progress_le (contained.trans inv.coordinator.durable)))

end Accepted

/-! ## Acknowledgements -/

/-- How many acknowledgements of a sequence are on the way to the replica. -/
def Connection.acks (connection : Connection) (sequence : Nat) : Nat :=
  connection.down.count (.ack sequence)

theorem Connection.acks_drop (connection : Connection) (sequence : Nat) :
    Connection.acks { connection with coordinatorEnd := none } sequence ≤
      connection.acks sequence := by
  simp [Connection.acks, Connection.down]

/-- Only a submitted operation that the coordinator has stored is acknowledged. -/
theorem Pair.acks_step {pair pair' : Pair} {action : LinkAction} (sequence : Nat)
    (role : pair.coordinator.isCoordinator = true) (executed : pair.exec action = some pair') :
    pair'.connection.acks sequence ≤ pair.connection.acks sequence ∨
      ∃ operation, pair.connection.toCoordinator.head? = some (.submit operation) ∧
        operation.sequence = sequence ∧
        operation.progress ≤ progress pair'.coordinator.state.records := by
  cases action with
  | replicaLocal | replicaPhone | dropReplicaEnd =>
    cases executed
    exact .inl (le_refl _)
  | replicaPublish =>
    obtain ⟨hub, published, rfl⟩ := Option.map_eq_some_iff.mp executed
    exact .inl (le_refl _)
  | replicaCrash =>
    simp only [exec, crashReplica] at executed
    split at executed
    · cases executed
    · cases executed
      exact .inl (le_refl _)
  | replicaNext =>
    obtain ⟨link, found, turned⟩ := Option.bind_eq_some_iff.mp executed
    obtain ⟨⟨sent, link'⟩, turn, turned⟩ := Option.bind_eq_some_iff.mp turned
    cases turned
    exact .inl (le_refl _)
  | coordinatorNext =>
    obtain ⟨sender, found, turned⟩ := Option.bind_eq_some_iff.mp executed
    obtain ⟨⟨sent, sender'⟩, turn, turned⟩ := Option.bind_eq_some_iff.mp turned
    cases turned
    left
    rcases NotificationLink.next_cases turn with ⟨frame, outgoing, queued, rfl, rfl⟩ | ⟨rfl, rfl⟩ |
      ⟨rfl, rfl⟩
    · simp [Connection.acks, Connection.down, found, queued, List.count_append, List.count_cons]
    · simp [Connection.acks, Connection.down, found]
    · have none : (NotificationLink.snapshot pair.coordinator.state).count (.ack sequence) = 0 :=
        List.count_eq_zero.mpr (by simp [NotificationLink.snapshot])
      simp [Connection.acks, Connection.down, found, NotificationLink.fill, role, none]
  | deliverToReplica persist =>
    left
    simp only [exec, deliverToReplica] at executed
    split at executed
    · cases executed
    · rename_i frame toReplica oldest
      split at executed <;> cases executed <;>
        simp [Connection.acks, Connection.down, oldest, List.count_cons]
  | deliverToCoordinator persist =>
    simp only [exec, deliverToCoordinator] at executed
    split at executed
    · cases executed
    · rename_i frame toCoordinator oldest
      split at executed
      · cases executed
        exact .inl (le_refl _)
      · rename_i sender opened
        cases executed
        obtain ⟨grown, answered⟩ := NotificationLink.receive_coordinator sender persist role frame
        generalize sender.receive pair.coordinator frame persist = outcome at grown answered
        cases result : outcome.2 with
        | error error =>
          left
          simp [Connection.acks, Connection.down, Except.toOption]
        | ok sender' =>
          rcases (answered sender' result).outgoing with quiet | ⟨operation, rfl, outgoing, contained⟩
          · left
            simp [Connection.acks, Connection.down, Except.toOption, opened, quiet]
          · by_cases same : operation.sequence = sequence
            · exact .inr ⟨operation, by simp [oldest], same, contained⟩
            · left
              simp [Connection.acks, Connection.down, Except.toOption, opened, outgoing, same]
  | connect coordinatorSupports replicaSupports =>
    cases executed
    left
    have none : (pair.connect coordinatorSupports replicaSupports).connection.acks sequence = 0 := by
      refine List.count_eq_zero.mpr fun sent => ?_
      simp only [Connection.down, connect, List.nil_append] at sent
      cases found : pair.coordinator.link pair.replica.identity replicaSupports with
      | none => simp [found] at sent
      | some sender =>
        simp only [found, Option.elim_some] at sent
        obtain ⟨_, impossible⟩ := (link_eq found).2.2 _ sent
        cases impossible
    omega
  | dropCoordinatorEnd =>
    cases executed
    exact .inl (pair.connection.acks_drop sequence)

theorem World.acks_step {i : ι} {action : Action ι} {sequence : Nat} (inv : world.Inv)
    (executed : (system ι).exec world action = some world')
    (sent : (world.connection i).acks sequence < (world'.connection i).acks sequence) :
    ∃ operation, (world.connection i).toCoordinator.head? = some (.submit operation) ∧
      operation.sequence = sequence ∧
      operation.progress ≤ progress world'.coordinator.state.records := by
  cases action with
  | coordinatorLocal | coordinatorPhone =>
    cases executed
    exact absurd sent (lt_irrefl _)
  | coordinatorPublish =>
    obtain ⟨hub, published, rfl⟩ := Option.map_eq_some_iff.mp executed
    exact absurd sent (lt_irrefl _)
  | coordinatorCrash =>
    simp only [system, exec, crashCoordinator] at executed
    split at executed
    · cases executed
    · cases executed
      exact absurd sent (not_lt.mpr ((world.connection i).acks_drop sequence))
  | link j action =>
    obtain ⟨pair, moved, rfl⟩ := Option.map_eq_some_iff.mp executed
    by_cases same : i = j
    · subst same
      simp only [withPair, Function.update_self] at sent ⊢
      rcases Pair.acks_step sequence inv.coordinator.role moved with fewer | submitted
      · exact absurd sent (not_lt.mpr fewer)
      · exact submitted
    · simp only [withPair, Function.update_of_ne same] at sent
      exact absurd sent (lt_irrefl _)

/-! A sample system of one replica, for the runs below. -/

section Sample

def ownerFingerprint : String := "11111111:11111111:11111111:11111111"

def replicaFingerprint : String := "22222222:22222222:22222222:22222222"

def sampleConfig : NotificationConfig :=
  { coordinatorFingerprint := ownerFingerprint, peers := [ownerFingerprint, replicaFingerprint] }

def sampleStart : World Unit :=
  { coordinator := .start sampleConfig ownerFingerprint "0123456789abcdef0123456789abcdef"
    replica := fun _ => .start sampleConfig replicaFingerprint ""
    connection := fun _ => {} }

theorem sampleStart_initial : sampleStart.Initial where
  coordinator := ⟨sampleConfig, "0123456789abcdef0123456789abcdef", rfl, rfl⟩
  replica := fun _ => ⟨sampleConfig, rfl, (by decide : replicaFingerprint ≠ ownerFingerprint), rfl⟩
  connection := fun _ => rfl

def sampleKey : NotificationKey := { origin := replicaFingerprint, instance' := "mail/1" }

def sampleContent : SharedNotification :=
  { appName := "mail", title := "hello", body := "", icon := "mail", iconPng := none,
    postedMs := 1, urgency := 1 }

/-- Both ends agree on the owner. -/
def sampleSession : List (Action Unit) :=
  [.connect true true, .coordinatorNext, .replicaNext, .deliverToReplica .stored,
    .deliverToCoordinator .stored].map (.link ())

def samplePost : Action Unit := .link () (.replicaLocal sampleKey (some sampleContent) .stored)

/-- The posted operation reaches the coordinator, and its acknowledgement the replica. -/
def sampleExchange : List (Action Unit) :=
  [.replicaNext, .replicaNext, .replicaNext, .deliverToCoordinator .stored, .coordinatorNext,
    .deliverToReplica .stored].map (.link ())

/-- The coordinator sends its one record. -/
def sampleSnapshot : List (Action Unit) :=
  [.coordinatorNext, .coordinatorNext, .coordinatorNext, .coordinatorNext, .coordinatorNext,
    .deliverToReplica .stored, .deliverToReplica .stored, .deliverToReplica .stored].map (.link ())

end Sample

/-- No accepted operation is lost: in every state after the call that accepted it, the durable
    stores account for it. Nothing is acknowledged before the coordinator has it on disk. -/
theorem no_update_lost {start : World ι} (initial : start.Initial) :
    (∀ (i : ι) (key : NotificationKey) (content : Option SharedNotification) (persist : Persist)
        (operation : NotificationOperation) (before after later : World ι),
      (system ι).Run anyAction start before →
      (before.replica i).accepts key content persist = some operation →
      (system ι).exec before (.link i (.replicaLocal key content persist)) = some after →
      (system ι).Run anyAction after later → later.Accounted i operation) ∧
    ∀ (i : ι) (sequence : Nat) (action : Action ι) (before after : World ι),
      (system ι).Run anyAction start before → (system ι).exec before action = some after →
      (before.connection i).acks sequence < (after.connection i).acks sequence →
      ∃ operation, (before.connection i).toCoordinator.head? = some (.submit operation) ∧
        operation.sequence = sequence ∧ after.coordinator.disk.Covers operation := by
  constructor
  · intro i key content persist operation before after later run accepted called rest
    have inv := initial.inv.run run
    have reached := (inv.step called).inv
    have accounts : (after.replica i).Accounts (progress after.coordinator.state.records)
        operation := by
      obtain ⟨state, disk⟩ := NotificationHub.accepts_pending (inv.pair i).replica.role accepted
      cases called
      simp only [World.withPair, Pair.withReplica, World.pair, Function.update_self]
      exact ⟨.inl state, .inl disk⟩
    have stable := rest.stable (I := World.Inv)
      (P := fun w => (w.replica i).Accounts (progress w.coordinator.state.records) operation)
      (fun _ _ _ _ executed inv => (inv.step executed).inv)
      (fun _ _ _ _ executed inv accounts => (inv.step executed).accounts accounts) reached accounts
    exact (reached.run rest).accounted stable
  · intro i sequence action before after run executed sent
    have inv := initial.inv.run run
    obtain ⟨operation, submitted, numbered, contained⟩ := World.acks_step inv executed sent
    exact ⟨operation, submitted, numbered, Store.covers_of_progress_le
      (contained.trans (inv.step executed).inv.coordinator.durable)⟩

/-- The sample after the post, and after its acknowledgement. -/
def samplePosted : World Unit :=
  (system Unit).reach ((system Unit).reach sampleStart sampleSession) [samplePost]

def sampleExchanged : World Unit := (system Unit).reach samplePosted sampleExchange

theorem no_update_lost_sample : sampleExchanged.Accounted ()
    { sequence := 1, key := sampleKey, content := some sampleContent } :=
  (no_update_lost sampleStart_initial).1 () sampleKey (some sampleContent) .stored _ _ _ _
    (run_reach sampleSession (by decide +kernel)) (by decide +kernel)
    (exec_reach (by decide +kernel)) (run_reach _ (by decide +kernel))

/-! ## Removals -/

/-- The records show the key as removed. -/
def ShowsRemoved (records : List NotificationRecord) (key : NotificationKey) : Prop :=
  ∃ record ∈ records, record.key = key ∧ record.content = none

/-- The records show content for the key. -/
def ShowsContent (records : List NotificationRecord) (key : NotificationKey) : Prop :=
  ∃ record ∈ records, record.key = key ∧ record.content ≠ none

instance (records : List NotificationRecord) (key : NotificationKey) :
    Decidable (ShowsRemoved records key) :=
  inferInstanceAs (Decidable (∃ record ∈ records, record.key = key ∧ record.content = none))

section Removals

variable {records : List NotificationRecord} {key : NotificationKey}

theorem lookup_of_shown {record : NotificationRecord}
    (distinct : records.Pairwise fun a b => a.key ≠ b.key) (member : record ∈ records)
    (same : record.key = key) : lookupRecord key records = some record :=
  same ▸ Keyed.lookup_of_mem distinct member

theorem showsRemoved_iff (distinct : records.Pairwise fun a b => a.key ≠ b.key) :
    ShowsRemoved records key ↔ progress records key = ⊤ := by
  rw [progress_eq_top]
  constructor
  · rintro ⟨record, member, same, removed⟩
    exact ⟨record, lookup_of_shown distinct member same, removed⟩
  · rintro ⟨record, found, removed⟩
    exact ⟨record, Keyed.mem_of_lookup found, Keyed.key_of_lookup found, removed⟩

theorem not_showsContent (distinct : records.Pairwise fun a b => a.key ≠ b.key)
    (removed : progress records key = ⊤) : ¬ ShowsContent records key := by
  rintro ⟨record, member, same, live⟩
  obtain ⟨record', found, removed⟩ := progress_eq_top.mp removed
  rw [lookup_of_shown distinct member same] at found
  cases found
  exact live removed

theorem Store.view_distinct {s : Store} (distinct : s.Distinct) :
    s.view.Pairwise fun a b => a.key ≠ b.key :=
  Store.overlayAll_distinct s.pending distinct

/-- Both stores of the replica have the key terminal. -/
structure NotificationHub.Terminal (hub : NotificationHub) (key : NotificationKey) : Prop where
  state : hub.state.Terminal key
  disk : hub.disk.Terminal key

theorem NotificationHub.Terminal.evolve {hub hub' : NotificationHub} {covered : Progress}
    (evolves : hub.Evolves covered hub') (terminal : hub.Terminal key) : hub'.Terminal key := by
  have stores : hub'.state.Terminal key ∧ hub'.disk.Terminal key := by
    cases evolves.stores with
    | kept state disk =>
      rw [state, disk]
      exact ⟨terminal.state, terminal.disk⟩
    | committed advanced disk =>
      rw [disk]
      exact ⟨advanced.terminal key terminal.state, advanced.terminal key terminal.state⟩
    | failed state advanced =>
      rw [state]
      exact ⟨terminal.state, advanced.terminal key terminal.state⟩
    | restarted state disk =>
      rw [state, disk]
      exact ⟨terminal.disk, terminal.disk⟩
  exact ⟨stores.1, stores.2⟩

end Removals

/-- A removal is terminal: the coordinator never takes one back, and a replica that shows a key
    as removed never shows content for it again. -/
theorem removal_terminal {start : World ι} (initial : start.Initial)
    (run : (system ι).Run anyAction start world) (later : (system ι).Run anyAction world world')
    (key : NotificationKey) :
    (ShowsRemoved world.coordinator.state.records key →
      ShowsRemoved world'.coordinator.state.records key ∧
        ¬ ShowsContent world'.coordinator.state.records key) ∧
    ∀ i, ShowsRemoved (world.replica i).state.view key →
      ¬ ShowsContent (world'.replica i).state.view key := by
  have inv := initial.inv.run run
  have inv' := inv.run later
  constructor
  · intro shown
    have removed := later.stable (I := World.Inv)
      (P := fun w => progress w.coordinator.state.records key = ⊤)
      (fun _ _ _ _ executed inv => (inv.step executed).inv)
      (fun _ _ _ _ executed inv removed =>
        top_le_iff.mp (removed.symm.le.trans ((inv.step executed).coordinator key)))
      inv ((showsRemoved_iff inv.coordinator.state).mp shown)
    exact ⟨(showsRemoved_iff inv'.coordinator.state).mpr removed,
      not_showsContent inv'.coordinator.state removed⟩
  · rintro i ⟨record, member, same, removed⟩
    have replica := (inv.pair i).replica
    have state : (world.replica i).state.Terminal key := Store.terminal_of_view
      (lookup_of_shown (Store.view_distinct replica.state.distinct) member same) removed
    have terminal := later.stable (I := World.Inv) (P := fun w => (w.replica i).Terminal key)
      (fun _ _ _ _ executed inv => (inv.step executed).inv)
      (fun _ _ _ _ executed inv terminal => terminal.evolve ((inv.step executed).replica i))
      inv ⟨state, replica.terminal key state⟩
    have replica' := (inv'.pair i).replica
    rintro ⟨record', member', same', live⟩
    exact live (terminal.state.view replica'.state.outbox
      (lookup_of_shown (Store.view_distinct replica'.state.distinct) member' same'))

/-- The replica dismisses the notification, and a snapshot from before the removal arrives. -/
theorem removal_terminal_sample :
    ¬ ShowsContent (((system Unit).reach ((system Unit).reach sampleStart
      (sampleSession ++ samplePost :: sampleExchange ++
        [.link () (.replicaLocal sampleKey none .stored)])) sampleSnapshot).replica ()).state.view
      sampleKey :=
  (removal_terminal sampleStart_initial (run_reach _ (by decide +kernel)) (run_reach _ (by decide +kernel))
    sampleKey).2 () (by decide +kernel)

/-! ## Rest -/

/-- The link is at rest: both ends agreed on the history owner, nothing is queued, on the way,
    unseen or pending. -/
structure Pair.Quiescent (pair : Pair) (sender receiver : NotificationLink) : Prop where
  coordinatorEnd : pair.connection.coordinatorEnd = some sender
  replicaEnd : pair.connection.replicaEnd = some receiver
  agreed : sender.activity = true ∧ receiver.activity = true
  queued : sender.outgoing = [] ∧ receiver.outgoing = []
  flying : pair.connection.toReplica = [] ∧ pair.connection.toCoordinator = []
  clean : sender.dirty = false ∧ receiver.dirty = false
  coordinatorSeen : ∃ version, sender.changes = some version ∧ pair.coordinator.Seen version
  replicaSeen : ∃ version, receiver.changes = some version ∧ pair.replica.Seen version
  pending : pair.replica.state.pending = []

/-- A replica whose link is at rest has the records of the coordinator, in the same order, and
    its epoch. -/
theorem replicas_converge {start : World ι} (initial : start.Initial)
    (run : (system ι).Run anyAction start world) (i : ι) {sender receiver : NotificationLink}
    (quiescent : (world.pair i).Quiescent sender receiver) :
    (world.replica i).state.records = world.coordinator.state.records ∧
      (world.replica i).state.epoch = world.coordinator.state.epoch := by
  have link := ((initial.inv.run run).pair i).link receiver quiescent.replicaEnd
  obtain ⟨version, changes, seen⟩ := quiescent.coordinatorSeen
  have down : (world.pair i).connection.down = [] := by
    simp [Connection.down, quiescent.flying.1, quiescent.coordinatorEnd, quiescent.queued.1]
  have settles := link.current sender quiescent.coordinatorEnd quiescent.clean.1 version changes seen
  rw [down] at settles
  exact ⟨congrArg Prod.snd settles, congrArg Prod.fst settles⟩

/-- The links of the sample come to rest after one snapshot. -/
def sampleRest : List (Action Unit) :=
  sampleSession ++ samplePost :: sampleExchange ++ .coordinatorPublish :: sampleSnapshot ++
    [.replicaPublish, .replicaPublish, .replicaPublish, .replicaNext, .replicaNext].map (.link ())

theorem sampleQuiescent :
    (((system Unit).reach sampleStart sampleRest).pair ()).Quiescent
      { activity := true, peer := replicaFingerprint, changes := some 1, outgoing := [] }
      { activity := true, sentThrough := 1, peer := ownerFingerprint, changes := some 3,
        outgoing := [] } where
  coordinatorEnd := by decide +kernel
  replicaEnd := by decide +kernel
  agreed := by decide +kernel
  queued := by decide +kernel
  flying := by decide +kernel
  clean := by decide +kernel
  coordinatorSeen := ⟨1, rfl, by decide +kernel, by decide +kernel⟩
  replicaSeen := ⟨3, rfl, by decide +kernel, by decide +kernel⟩
  pending := by decide +kernel

theorem replicas_converge_sample :
    (((system Unit).reach sampleStart sampleRest).replica ()).state.records =
      ((system Unit).reach sampleStart sampleRest).coordinator.state.records ∧
    (((system Unit).reach sampleStart sampleRest).replica ()).state.epoch =
      ((system Unit).reach sampleStart sampleRest).coordinator.state.epoch :=
  replicas_converge sampleStart_initial (run_reach _ (by decide +kernel)) () sampleQuiescent

end EdgeKvm.Notification
