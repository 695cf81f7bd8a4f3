import EdgeKvm.Notification.PhoneHistory
import EdgeKvm.Notification.Guarantees

/-!
# Lifetimes of phone notifications

The invariant of the host's stores: an identity has one entry, and the key of a withdrawn one is
terminal.
-/

namespace EdgeKvm.Notification

open EdgeKvm.Lib

universe u

/-- The phone identities of a store: one entry each, the withdrawn ones terminal. -/
structure Store.Lifetimes (identity : String) (s : Store) : Prop where
  distinct : Ordered.Distinct s.phoneInstances
  withdrawn : ∀ id entry, (id, entry) ∈ s.phoneInstances → entry.present = false →
    s.Terminal { origin := identity, instance' := entry.instance' }

namespace PhoneNotificationSource

variable {source : PhoneNotificationSource} {store : Store} {seen : Option PhoneProjections}
  {epoch : Except String String} {event : NotificationEvent} {prepared : Prepared}

theorem prepareEnd_eq {resent : Finset String}
    (ended : source.prepareEnd store resent = .ok prepared) :
    prepared.phoneInstances = Ordered.mapValues
        (fun id entry =>
          if source.swept resent id entry then { entry with present := false } else entry)
        store.phoneInstances ∧
      prepared.operations = (store.phoneInstances.filter fun entry =>
        source.swept resent entry.1 entry.2).map fun entry => (entry.2.instance', none) := by
  simp only [prepareEnd, bind_eq_ok, pure_eq_ok] at ended
  obtain ⟨-, -, rfl⟩ := ended
  exact ⟨rfl, rfl⟩

theorem mem_swept_operations {resent : Finset String} {instance' : String}
    {content : Option SharedNotification} :
    (instance', content) ∈ ((store.phoneInstances.filter fun entry =>
        source.swept resent entry.1 entry.2).map fun entry => (entry.2.instance', none)) ↔
      ∃ id entry, (id, entry) ∈ store.phoneInstances ∧ source.swept resent id entry ∧
        instance' = entry.instance' ∧ content = none := by
  simp only [List.mem_map, List.mem_filter, decide_eq_true_eq, Prod.mk.injEq, Prod.exists]
  constructor
  · rintro ⟨id, entry, ⟨member, swept⟩, rfl, rfl⟩
    exact ⟨id, entry, member, swept, rfl, rfl⟩
  · rintro ⟨id, entry, member, swept, rfl, rfl⟩
    exact ⟨id, entry, ⟨member, swept⟩, rfl, rfl⟩

theorem Prepares.distinct (prepares : Prepares source store seen epoch event prepared)
    (distinct : Ordered.Distinct store.phoneInstances) :
    Ordered.Distinct prepared.phoneInstances := by
  cases prepares with
  | updated => exact distinct
  | allocated phone instance' phoneInstances absent allocated => exact allocated.distinct distinct
  | withdrawn => exact distinct.insert _ _
  | retired => exact distinct
  | ended prepared ended =>
    rw [(prepareEnd_eq ended).1]
    exact distinct.mapValues _

/-- An identity that is withdrawn afterwards was so before, or its removal is queued. -/
theorem Prepares.withdrawal (prepares : Prepares source store seen epoch event prepared)
    {id : String} {entry : PhoneInstance} (member : (id, entry) ∈ prepared.phoneInstances)
    (withdrawn : entry.present = false) :
    (id, entry) ∈ store.phoneInstances ∨ (entry.instance', none) ∈ prepared.operations := by
  cases prepares with
  | updated => exact .inl member
  | allocated phone instance' phoneInstances absent allocated =>
    by_cases own : id = source.entryId phone.id
    · have new := allocated.only _ member own
      rw [(Prod.mk.inj new).2] at withdrawn
      cases withdrawn
    · exact .inl (allocated.others _ member own)
  | withdrawn removed old found live =>
    rcases Ordered.mem_insert.mp member with new | ⟨old, -⟩
    · rw [(Prod.mk.inj new).2]
      exact .inr (List.mem_singleton_self _)
    · exact .inl old
  | retired => exact .inl member
  | ended prepared ended =>
    obtain ⟨phones, operations⟩ := prepareEnd_eq ended
    rw [phones] at member
    rw [operations]
    obtain ⟨old, before, rfl⟩ := Ordered.mem_mapValues.mp member
    split at withdrawn
    · rename_i swept
      refine .inr (mem_swept_operations.mpr ⟨id, old, before, swept, ?_, rfl⟩)
      rw [if_pos swept]
    · rename_i kept
      rw [if_neg kept]
      exact .inl before

theorem removal_mem_dismissal {operations : List (String × Option SharedNotification)}
    {instance' : String} (member : (instance', none) ∈ operations) :
    (instance', none) ∈ operations.map (dismissal seen) := by
  refine List.mem_map.mpr ⟨_, member, ?_⟩
  unfold dismissal
  split <;> rfl

end PhoneNotificationSource

variable {ι : Type u} [DecidableEq ι] {host : Option ι}

/-- What holds at the host whatever its phones sent. -/
structure PhoneHistory.Inv (host : Option ι) (s : PhoneHistory ι) : Prop where
  world : s.world.Inv
  outbox : (s.world.hub host).isCoordinator = true →
    (s.world.hub host).state.pending = [] ∧ (s.world.hub host).disk.pending = []
  state : (s.world.hub host).state.Lifetimes (s.world.hub host).identity
  disk : (s.world.hub host).disk.Lifetimes (s.world.hub host).identity
  sources : ∀ phone source, s.source phone = some source → source.idPrefix = phone.idPrefix

namespace PhoneHistory.Inv

variable {s s' : PhoneHistory ι} {world' : World ι} {action : Action ι} {key : NotificationKey}

omit [DecidableEq ι] in
theorem replica_outbox (inv : s.Inv host) (role : (s.world.hub host).isCoordinator = false) :
    (s.world.hub host).state.Outbox := by
  cases host with
  | none => exact absurd (inv.world.coordinator.role.symm.trans role) (by decide)
  | some i => exact (inv.world.pair i).replica.state.outbox

omit [DecidableEq ι] in
/-- Without an outbox the records alone make a key terminal. -/
theorem terminal_iff {t : Store} (empty : t.pending = []) :
    t.Terminal key ↔ progress t.records key = ⊤ := by
  simp [Store.Terminal, empty]

omit [DecidableEq ι] in
/-- The disk has every key terminal that the memory has. -/
theorem durable (inv : s.Inv host) (terminal : (s.world.hub host).state.Terminal key) :
    (s.world.hub host).Terminal key := by
  refine ⟨terminal, ?_⟩
  cases host with
  | none =>
    obtain ⟨state, disk⟩ := inv.outbox inv.world.coordinator.role
    rw [terminal_iff state] at terminal
    rw [terminal_iff disk]
    exact top_le_iff.mp (terminal.symm.le.trans (inv.world.coordinator.durable key))
  | some i => exact (inv.world.pair i).replica.terminal key terminal

/-- Terminal keys stay terminal at the host, in memory and on disk. -/
theorem terminal_step (inv : s.Inv host)
    (executed : (system ι).exec s.world action = some world')
    (terminal : (s.world.hub host).state.Terminal key) : (world'.hub host).Terminal key := by
  have preserved := inv.world.step executed
  cases host with
  | none =>
    obtain ⟨state, -⟩ := inv.outbox inv.world.coordinator.role
    rw [terminal_iff state] at terminal
    have stays : progress world'.coordinator.state.records key = ⊤ :=
      top_le_iff.mp (terminal.symm.le.trans (preserved.coordinator key))
    exact ⟨.inl stays,
      .inl (top_le_iff.mp (stays.symm.le.trans (preserved.inv.coordinator.durable key)))⟩
  | some i => exact (inv.durable terminal).evolve (preserved.replica i)

/-- Both stores keep the lifetimes when the committed one does. -/
theorem lifetimes_of_commits {hub hub' : NotificationHub} {next : Store}
    (commits : hub.Commits next hub') (state : hub.state.Lifetimes hub.identity)
    (disk : hub.disk.Lifetimes hub.identity)
    (committed : hub'.state = next ∨ hub'.disk = next → next.Lifetimes hub.identity) :
    hub'.state.Lifetimes hub'.identity ∧ hub'.disk.Lifetimes hub'.identity := by
  rw [commits.identity]
  constructor
  · rcases commits.state with same | new
    · rw [same]
      exact state
    · rw [new]
      exact committed (.inl new)
  · rcases commits.disk with same | new
    · rw [same]
      exact disk
    · rw [new]
      exact committed (.inr new)

theorem pending_of_commits {hub hub' : NotificationHub} {next : Store}
    (commits : hub.Commits next hub') (empty : hub.state.pending = [] ∧ hub.disk.pending = [])
    (committed : next.pending = hub.state.pending) :
    hub'.state.pending = [] ∧ hub'.disk.pending = [] := by
  constructor
  · rcases commits.state with same | new
    · rw [same]
      exact empty.1
    · rw [new, committed]
      exact empty.1
  · rcases commits.disk with same | new
    · rw [same]
      exact empty.2
    · rw [new, committed]
      exact empty.1

omit [DecidableEq ι] in
/-- The coordinator stays the coordinator. -/
theorem role_step (world : s.world.Inv) (inv' : world'.Inv) :
    (world'.hub host).isCoordinator = (s.world.hub host).isCoordinator := by
  cases host with
  | none => exact inv'.coordinator.role.trans world.coordinator.role.symm
  | some i => exact (inv'.pair i).replica.role.trans (world.pair i).replica.role.symm

theorem environment (inv : s.Inv host) (step : hostStep host action = .other)
    (executed : (system ι).exec s.world action = some world') :
    Inv host { s with world := world' } := by
  have world := (inv.world.step executed).inv
  obtain ⟨next, commits, phones, pending⟩ := World.hub_environment step executed
  have committed : (world'.hub host).state = next ∨ (world'.hub host).disk = next →
      next.Lifetimes (s.world.hub host).identity := by
    intro new
    refine ⟨by rw [phones]; exact inv.state.distinct, fun id entry member withdrawn => ?_⟩
    rw [phones] at member
    have terminal := inv.terminal_step executed (inv.state.withdrawn id entry member withdrawn)
    rcases new with same | same
    · exact same ▸ terminal.state
    · exact same ▸ terminal.disk
  obtain ⟨state, disk⟩ := lifetimes_of_commits commits inv.state inv.disk committed
  refine ⟨world, fun role => ?_, state, disk, inv.sources⟩
  rw [role_step inv.world world] at role
  exact pending_of_commits commits (inv.outbox role) (pending role)

theorem crash (inv : s.Inv host) (step : hostStep host action = .crash)
    (executed : (system ι).exec s.world action = some world') :
    Inv host ({ world := world' } : PhoneHistory ι) := by
  have world := (inv.world.step executed).inv
  obtain ⟨state, disk, identity⟩ := World.hub_crash step executed
  refine ⟨world, fun role => ?_, ?_, ?_, fun _ _ found => by cases found⟩
  · rw [role_step inv.world world] at role
    simp only [state, disk]
    exact ⟨(inv.outbox role).2, (inv.outbox role).2⟩
  · simp only [state, identity]
    exact inv.disk
  · simp only [disk, identity]
    exact inv.disk

section Event

variable {phone : Fingerprint} {source : PhoneNotificationSource} {event : NotificationEvent}
  {desktop : Option Desktop} {epoch : Except String String} {persist : Persist}
  {seen : Option PhoneProjections} {prepared : Prepared}

/-- A phone event's commit keeps the lifetimes. -/
theorem lifetimes_of_event {hub : NotificationHub} {changed : Bool} {next : Store}
    (state : hub.state.Lifetimes hub.identity)
    (prepares : PhoneNotificationSource.Prepares source hub.state seen epoch event prepared)
    (queued : hub.QueuedAll
      (prepared.operations.map (PhoneNotificationSource.dismissal seen))
      { hub.state with
        phoneInstances := prepared.phoneInstances
        importedPhones := prepared.importedPhones } changed next) :
    next.Lifetimes hub.identity := by
  refine ⟨?_, fun id entry member withdrawn => ?_⟩
  · rw [queued.phones]
    exact prepares.distinct state.distinct
  · rw [queued.phones] at member
    rcases prepares.withdrawal member withdrawn with before | removal
    · exact queued.kept _ (state.withdrawn id entry before withdrawn)
    · exact queued.removed _ (PhoneNotificationSource.removal_mem_dismissal removal)

theorem handle (inv : s.Inv host) (connected : s.source phone = some source) :
    Inv host (s.handle host phone
      (source.apply (s.world.hub host) s.cache event desktop epoch persist)) := by
  set turn := source.apply (s.world.hub host) s.cache event desktop epoch persist with taken
  have world : (s.withHub host turn.hub).Inv := by
    rcases s.withHub_step PhoneNotificationSource.apply_hub with same | ⟨action, executed⟩
    · rw [taken, same]
      exact inv.world
    · exact (inv.world.step executed).inv
  have hub : (s.withHub host turn.hub).hub host = turn.hub := s.hub_withHub turn.hub
  have turned : source.Turned (s.world.hub host) s.cache event desktop epoch turn :=
    PhoneNotificationSource.apply_turned inv.replica_outbox
  have stores : ((turn.hub.isCoordinator = true →
      turn.hub.state.pending = [] ∧ turn.hub.disk.pending = []) ∧
      turn.hub.state.Lifetimes turn.hub.identity ∧ turn.hub.disk.Lifetimes turn.hub.identity) := by
    cases turned with
    | kept same =>
      rw [same]
      exact ⟨inv.outbox, inv.state, inv.disk⟩
    | committed seen prepared changed next seeing complete opened prepares queued commits done =>
      refine ⟨fun role => ?_, lifetimes_of_commits commits inv.state inv.disk fun _ =>
        lifetimes_of_event inv.state prepares queued⟩
      rw [← hub, role_step inv.world world] at role
      exact pending_of_commits commits (inv.outbox role) (queued.pending role)
  refine ⟨world, ?_, ?_, ?_, ?_⟩
  · simpa only [PhoneHistory.handle, hub] using stores.1
  · simpa only [PhoneHistory.handle, hub] using stores.2.1
  · simpa only [PhoneHistory.handle, hub] using stores.2.2
  · intro other source' found
    by_cases same : other = phone
    · subst same
      simp only [PhoneHistory.handle, Function.update_self, Option.some.injEq] at found
      subst found
      exact PhoneNotificationSource.apply_left.idPrefix.trans (inv.sources _ _ connected)
    · simp only [PhoneHistory.handle, Function.update_of_ne same] at found
      exact inv.sources other source' found

end Event

/-- Every step keeps the invariant. -/
theorem step (inv : s.Inv host) {action : PhoneAction ι}
    (executed : (phones ι host).exec s action = some s') : s'.Inv host := by
  cases action with
  | system action =>
    simp only [phones, exec] at executed
    cases step : hostStep host action with
    | phone => simp [step] at executed
    | crash =>
      simp only [step] at executed
      obtain ⟨world, moved, rfl⟩ := Option.map_eq_some_iff.mp executed
      exact inv.crash step moved
    | other =>
      simp only [step] at executed
      obtain ⟨world, moved, rfl⟩ := Option.map_eq_some_iff.mp executed
      exact inv.environment step moved
  | projections cache =>
    cases executed
    exact ⟨inv.world, inv.outbox, inv.state, inv.disk, inv.sources⟩
  | connect phone name =>
    cases executed
    refine ⟨inv.world, inv.outbox, inv.state, inv.disk, fun other source found => ?_⟩
    by_cases same : other = phone
    · subst same
      simp only [Function.update_self, Option.some.injEq] at found
      subst found
      rfl
    · simp only [Function.update_of_ne same] at found
      exact inv.sources other source found
  | event phone event desktop epoch persist =>
    obtain ⟨source, connected, rfl⟩ := Option.map_eq_some_iff.mp executed
    exact inv.handle connected

end PhoneHistory.Inv

end EdgeKvm.Notification
