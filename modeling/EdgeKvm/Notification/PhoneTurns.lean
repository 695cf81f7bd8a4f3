import EdgeKvm.Notification.PhoneSource
import EdgeKvm.Notification.Commits

/-!
# What a phone event does

One lemma for each part of `PhoneNotificationSource::apply`: the cache it sees, the identities and
operations it prepares, the commit, and what it leaves of the snapshot the source keeps.
-/

namespace EdgeKvm.Notification

open EdgeKvm.Lib

/-! ## The cache an event sees -/

theorem PhoneProjections.renew_renew (cache : PhoneProjections) (owner : String) :
    (cache.renew owner).renew owner = cache.renew owner := by
  unfold renew
  by_cases same : cache.owner = owner <;> simp [same]

theorem PhoneProjections.renew_loaded (cache : PhoneProjections) (owner : String) :
    (cache.renew owner).loaded = cache.loaded := by
  unfold renew
  split <;> rfl

/-- Loading again changes nothing while the same daemon answers. -/
theorem PhoneProjections.load_load {desktop : Desktop} {cache loaded : PhoneProjections}
    (first : cache.load desktop = .ok loaded) : loaded.load desktop = .ok loaded := by
  simp only [load, bind_eq_ok] at first
  obtain ⟨owner, generation, first⟩ := first
  have renewed : ∃ base : PhoneProjections, base.loaded = true ∧ loaded = base.renew owner := by
    split at first
    · rename_i already
      exact ⟨cache, already, (pure_eq_ok.mp first).symm⟩
    · rw [bind_eq_ok] at first
      obtain ⟨saved, -, first⟩ := first
      cases saved <;> exact ⟨_, rfl, (pure_eq_ok.mp first).symm⟩
  obtain ⟨base, already, rfl⟩ := renewed
  simp only [load, generation, renew_loaded, already, if_true]
  exact congrArg Except.ok (base.renew_renew owner)

/-! ## Queued withdrawals -/

namespace Store

variable {s t : Store} {key key' : NotificationKey} {content : Option SharedNotification}
  {coordinator changed : Bool}

/-- A queued removal makes its key terminal. -/
theorem Queued.terminal (queued : Queued s key none coordinator changed t) : t.Terminal key := by
  cases queued with
  | repeated record found same =>
    exact terminal_of_view found (by simpa using same)
  | committed commits applied =>
    left
    have own : (s.nextOperation key none).progress key = ⊤ :=
      (s.nextOperation key none).progress_self
    rw [applied.progress_eq, Pi.sup_apply, own, sup_top_eq]
  | pended replica fresh checked room =>
    exact .inr ⟨_, List.mem_append_right _ (List.mem_singleton_self _), rfl, rfl⟩

/-- Only a queued removal makes a key terminal. -/
theorem Queued.terminal_only (queued : Queued s key content coordinator changed t)
    (terminal : t.Terminal key') : s.Terminal key' ∨ key' = key ∧ content = none := by
  cases queued with
  | repeated => exact .inl terminal
  | committed commits applied =>
    rcases terminal with removed | pending
    · rw [applied.progress_eq, Pi.sup_apply] at removed
      rcases max_eq_top.mp removed with before | now
      · exact .inl (.inl before)
      · by_cases same : key' = key
        · subst same
          have own : (s.nextOperation key' content).progress key' = rank (s.sequence + 1) content :=
            (s.nextOperation key' content).progress_self
          rw [own, rank_eq_top] at now
          exact .inr ⟨rfl, now⟩
        · rw [NotificationOperation.progress_other same] at now
          exact absurd now bot_ne_top
    · rw [applied.eq_records] at pending
      exact .inl (.inr pending)
  | pended replica fresh checked room =>
    rcases terminal with removed | ⟨operation, member, rfl, removal⟩
    · exact .inl (.inl removed)
    · rcases List.mem_append.mp member with old | new
      · exact .inl (.inr ⟨operation, List.mem_of_mem_filter old, rfl, removal⟩)
      · rw [List.mem_singleton.mp new] at removal ⊢
        exact .inr ⟨rfl, removal⟩

/-- Terminal keys stay terminal. -/
theorem Queued.terminal_mono (queued : Queued s key content coordinator changed t)
    (outbox : coordinator = false → s.Outbox) (terminal : s.Terminal key') : t.Terminal key' := by
  cases coordinator with
  | false => exact (queued.extended (outbox rfl)).terminal key' terminal
  | true =>
    cases queued with
    | repeated => exact terminal
    | committed commits applied =>
      rcases terminal with removed | pending
      · left
        rw [applied.progress_eq, Pi.sup_apply]
        exact top_le_iff.mp (le_sup_of_le_left removed.symm.le)
      · right
        rw [applied.eq_records]
        exact pending
    | pended replica => cases replica

theorem Queued.phoneInstances (queued : Queued s key content coordinator changed t) :
    t.phoneInstances = s.phoneInstances := by
  cases queued with
  | repeated => rfl
  | committed commits applied => rw [applied.eq_records]
  | pended => rfl

/-- The coordinator keeps no outbox. -/
theorem Queued.pending (queued : Queued s key content true changed t) : t.pending = s.pending := by
  cases queued with
  | repeated => rfl
  | committed commits applied => rw [applied.eq_records]
  | pended replica => cases replica

end Store

namespace NotificationHub

variable {hub hub' : NotificationHub} {operations : List (String × Option SharedNotification)}
  {s t : Store} {changed : Bool} {key : NotificationKey}

/-- The operations of a phone event, queued one after the other. -/
structure QueuedAll (hub : NotificationHub) (operations : List (String × Option SharedNotification))
    (s : Store) (changed : Bool) (t : Store) : Prop where
  unchanged : changed = false → t = s
  phones : t.phoneInstances = s.phoneInstances
  kept : ∀ key, s.Terminal key → t.Terminal key
  removed : ∀ instance', (instance', none) ∈ operations →
    t.Terminal { origin := hub.identity, instance' }
  only : ∀ key, t.Terminal key → s.Terminal key ∨
    ∃ instance', (instance', none) ∈ operations ∧ key = { origin := hub.identity, instance' }
  outbox : hub.isCoordinator = false → t.Outbox
  pending : hub.isCoordinator = true → t.pending = s.pending

theorem queueAll_spec (outbox : hub.isCoordinator = false → s.Outbox)
    (queued : hub.queueAll operations s = .ok (changed, t)) :
    hub.QueuedAll operations s changed t := by
  induction operations generalizing s changed with
  | nil =>
    cases queued
    exact ⟨fun _ => rfl, rfl, fun _ => id, by simp, fun _ => .inl, outbox, fun _ => rfl⟩
  | cons operation operations ih =>
    obtain ⟨instance', content⟩ := operation
    simp only [queueAll, bind_eq_ok, pure_eq_ok, Prod.mk.injEq] at queued
    obtain ⟨⟨first, mid⟩, one, ⟨more, last⟩, rest, rfl, rfl⟩ := queued
    have queued := Store.queueLocal_cases one
    have midbox : hub.isCoordinator = false → mid.Outbox := by
      intro replica
      rw [replica] at queued
      exact (queued.extended (outbox replica)).outbox
    have others := ih midbox rest
    refine ⟨?_, others.phones.trans queued.phoneInstances, ?_, ?_, ?_, others.outbox, ?_⟩
    · intro unchanged
      obtain ⟨rfl, rfl⟩ := Bool.or_eq_false_iff.mp unchanged
      rw [others.unchanged rfl]
      cases queued
      rfl
    · exact fun key terminal => others.kept key (queued.terminal_mono outbox terminal)
    · intro removed member
      rcases List.mem_cons.mp member with same | later
      · cases same
        exact others.kept _ queued.terminal
      · exact others.removed removed later
    · intro key terminal
      rcases others.only key terminal with before | ⟨removed, member, same⟩
      · rcases queued.terminal_only before with earlier | ⟨same, rfl⟩
        · exact .inl earlier
        · exact .inr ⟨instance', List.mem_cons_self .., same⟩
      · exact .inr ⟨removed, List.mem_cons_of_mem _ member, same⟩
    · intro role
      rw [role] at queued
      exact (others.pending role).trans queued.pending

/-- What a commit leaves in memory and on disk. -/
structure Commits (hub : NotificationHub) (next : Store) (hub' : NotificationHub) : Prop where
  identity : hub'.identity = hub.identity
  stores : (hub'.state = next ∧ hub'.disk = next) ∨
    hub'.state = hub.state ∧ (hub'.disk = next ∨ hub'.disk = hub.disk)

theorem Commits.none (next : Store) (identity : hub'.identity = hub.identity)
    (state : hub'.state = hub.state) (disk : hub'.disk = hub.disk) : hub.Commits next hub' :=
  ⟨identity, .inr ⟨state, .inr disk⟩⟩

theorem Commits.state {next : Store} (commits : hub.Commits next hub') :
    hub'.state = hub.state ∨ hub'.state = next := by
  rcases commits.stores with ⟨new, -⟩ | ⟨same, -⟩
  · exact .inr new
  · exact .inl same

theorem Commits.disk {next : Store} (commits : hub.Commits next hub') :
    hub'.disk = hub.disk ∨ hub'.disk = next := by
  rcases commits.stores with ⟨-, new⟩ | ⟨-, new | same⟩
  · exact .inr new
  · exact .inr new
  · exact .inl same

theorem commit_commits (hub : NotificationHub) (next : Store) (persist : Persist) :
    hub.Commits next (hub.commit next persist).1 := by
  cases persist with
  | stored => exact ⟨rfl, .inl ⟨rfl, rfl⟩⟩
  | failed renamed error =>
    cases renamed with
    | true => exact ⟨rfl, .inr ⟨rfl, .inl rfl⟩⟩
    | false => exact .none next rfl rfl rfl

/-- The commit of a phone event, when its operations can be queued. -/
theorem applyPhone_spec (phoneInstances : List (String × PhoneInstance))
    (importedPhones : List (String × String))
    (operations : List (String × Option SharedNotification)) (persist : Persist)
    (outbox : hub.isCoordinator = false → hub.state.Outbox) :
    ((hub.applyPhone phoneInstances importedPhones operations persist).1 = hub ∧
        (hub.applyPhone phoneInstances importedPhones operations persist).2 ≠ .ok ()) ∨
      ∃ changed next, hub.QueuedAll operations { hub.state with phoneInstances, importedPhones }
          changed next ∧
        hub.Commits next (hub.applyPhone phoneInstances importedPhones operations persist).1 ∧
        ((hub.applyPhone phoneInstances importedPhones operations persist).2 = .ok () →
          (hub.applyPhone phoneInstances importedPhones operations persist).1.state = next) := by
  have edited : hub.isCoordinator = false →
      ({ hub.state with phoneInstances, importedPhones } : Store).Outbox := fun replica =>
    ⟨(outbox replica).numbered, (outbox replica).ascending, (outbox replica).keys,
      (outbox replica).checked⟩
  unfold applyPhone
  dsimp only
  split
  · exact .inl ⟨rfl, by simp⟩
  · rename_i changed next queued
    have spec := queueAll_spec edited queued
    refine .inr ⟨changed, next, spec, ?_⟩
    split
    · refine ⟨commit_commits hub next persist, fun stored => ?_⟩
      cases persist with
      | stored => rfl
      | failed => cases stored
    · rename_i same
      obtain ⟨unchanged, same⟩ := not_or.mp same
      have settled : hub.state = next := by
        rw [spec.unchanged (by simpa using unchanged)]
        exact (not_not.mp same).symm
      exact ⟨.none next rfl rfl rfl, fun _ => settled⟩

end NotificationHub

/-! ## What an event sees -/

namespace PhoneNotificationSource

/-- The cache an event sees, if it is to be shown on a desktop. -/
def seenCache (desktop : Option Desktop) (cache : PhoneProjections) :
    Except String (Option PhoneProjections) :=
  match desktop with
  | none => .ok none
  | some desktop => (cache.load desktop).map some

/-- The state of the cache once it was seen. -/
def see (projected : Projected) : Option PhoneProjections → Projected
  | none => projected
  | some cache => { projected with cache }

theorem run_loadCache (desktop : Option Desktop) (projected : Projected) :
    (loadCache desktop).run projected =
      match seenCache desktop projected.cache with
      | .error error => (projected, .error error)
      | .ok seen => (see projected seen, .ok seen) := by
  cases desktop with
  | none => rfl
  | some desktop =>
    simp only [loadCache, seenCache, CacheM.load, CacheM.run_bind, CacheM.run_cache,
      CacheM.run_lift]
    cases projected.cache.load desktop <;> rfl

theorem seenCache_see {desktop : Option Desktop} {projected : Projected}
    {seen : Option PhoneProjections} (first : seenCache desktop projected.cache = .ok seen) :
    seenCache desktop (see projected seen).cache = .ok seen := by
  cases desktop with
  | none =>
    cases first
    rfl
  | some desktop =>
    simp only [seenCache, map_eq_ok] at first
    obtain ⟨cache, loaded, rfl⟩ := first
    simp only [seenCache, see, PhoneProjections.load_load loaded]
    rfl

/-! ## What an event prepares -/

variable {source : PhoneNotificationSource} {store : Store} {seen : Option PhoneProjections}
  {epoch : Except String String} {desktop : Option Desktop} {event : NotificationEvent}

/-- Where the instance of a new lifetime comes from: a drawn epoch, or the desktop's cache when
    the store knows nothing of the notification. -/
def Draws (source : PhoneNotificationSource) (store : Store) (id : Nat)
    (seen : Option PhoneProjections) (epoch : Except String String) (instance' : String) : Prop :=
  (∃ drawn, epoch = .ok drawn ∧ instance' = source.entryId id ++ "/" ++ drawn) ∨
    Ordered.get (source.entryId id) store.phoneInstances = none ∧
      seen.bind (·.instance' (source.entryId id ++ "/")) = some instance'

/-- The identity a post found no lifetime for: its new instance, and the entries kept. -/
structure Allocated (source : PhoneNotificationSource) (store : Store) (id : Nat)
    (seen : Option PhoneProjections) (epoch : Except String String) (instance' : String)
    (phoneInstances : List (String × PhoneInstance)) : Prop where
  own : (source.entryId id, { instance', present := true }) ∈ phoneInstances
  only : ∀ entry ∈ phoneInstances, entry.1 = source.entryId id →
    entry = (source.entryId id, { instance', present := true })
  others : ∀ entry ∈ phoneInstances, entry.1 ≠ source.entryId id →
    entry ∈ store.phoneInstances
  present : ∀ entry ∈ store.phoneInstances, entry.2.present → entry.1 ≠ source.entryId id →
    entry ∈ phoneInstances
  distinct : Ordered.Distinct store.phoneInstances → Ordered.Distinct phoneInstances
  origin : source.Draws store id seen epoch instance'

theorem retained_eq (source : PhoneNotificationSource) (store : Store) (id : Nat)
    (seen : Option PhoneProjections) : ∃ p : String × PhoneInstance → Bool,
    source.retained store id seen = store.phoneInstances.filter p ∧
      ∀ entry, entry.1 = source.entryId id ∨ entry.2.present → p entry = true := by
  have all : store.phoneInstances = store.phoneInstances.filter fun _ => true := by simp
  cases seen with
  | none => exact ⟨fun _ => true, all, fun _ _ => rfl⟩
  | some cache =>
    simp only [retained]
    split
    · refine ⟨_, rfl, fun entry kept => ?_⟩
      rcases kept with same | present
      · simp [same]
      · simp [present]
    · exact ⟨fun _ => true, all, fun _ _ => rfl⟩

theorem allocate_spec {id : Nat} {phoneInstances : List (String × PhoneInstance)}
    (allocated : source.allocate store id seen epoch = .ok phoneInstances) :
    ∃ instance', Allocated source store id seen epoch instance' phoneInstances := by
  obtain ⟨p, retained, keeps⟩ := retained_eq source store id seen
  simp only [allocate, retained, bind_eq_ok, pure_eq_ok] at allocated
  obtain ⟨-, -, drawn, fresh, rfl⟩ := allocated
  refine ⟨_, Ordered.mem_insert.mpr (.inl rfl), ?_, ?_, ?_, ?_, ?_⟩
  · intro entry member same
    rcases Ordered.mem_insert.mp member with new | ⟨-, apart⟩
    · exact new
    · exact absurd same apart
  · intro entry member apart
    rcases Ordered.mem_insert.mp member with rfl | ⟨old, -⟩
    · exact absurd rfl apart
    · exact List.mem_of_mem_filter old
  · intro entry member present apart
    exact Ordered.mem_insert.mpr
      (.inr ⟨List.mem_filter.mpr ⟨member, keeps entry (.inr present)⟩, apart⟩)
  · exact fun distinct => (distinct.filter p).insert _ _
  · cases unknown : Ordered.get (source.entryId id) (store.phoneInstances.filter p) with
    | some entry => exact .inl ⟨drawn, fresh, by simp⟩
    | none =>
      cases cached : seen.bind (·.instance' (source.entryId id ++ "/")) with
      | none => exact .inl ⟨drawn, fresh, by simp⟩
      | some instance' =>
        refine .inr ⟨?_, by simp [cached]⟩
        rw [Ordered.get_eq_none] at unknown ⊢
        intro entry member
        exact unknown entry (List.mem_filter.mpr ⟨member, keeps _ (.inl rfl)⟩)

/-- The ways an event is prepared. -/
inductive Prepares (source : PhoneNotificationSource) (store : Store)
    (seen : Option PhoneProjections) (epoch : Except String String) :
    NotificationEvent → Prepared → Prop where
  /-- A post of a live notification. -/
  | updated (phone : PhoneNotification) (entry : PhoneInstance)
      (found : Ordered.get (source.entryId phone.id) store.phoneInstances = some entry)
      (live : entry.present) :
      Prepares source store seen epoch (.posted phone) {
        phoneInstances := store.phoneInstances
        importedPhones := store.importedPhones
        operations := [(entry.instance', some (sharedNotification phone source.name))] }
  /-- A post of a notification without a lifetime. -/
  | allocated (phone : PhoneNotification) (instance' : String)
      (phoneInstances : List (String × PhoneInstance))
      (absent : ∀ entry, Ordered.get (source.entryId phone.id) store.phoneInstances = some entry →
        entry.present = false)
      (allocated : Allocated source store phone.id seen epoch instance' phoneInstances) :
      Prepares source store seen epoch (.posted phone) {
        phoneInstances
        importedPhones := store.importedPhones
        operations := [(instance', some (sharedNotification phone source.name))] }
  /-- The phone withdraws a live notification. -/
  | withdrawn (id : Nat) (entry : PhoneInstance)
      (found : Ordered.get (source.entryId id) store.phoneInstances = some entry)
      (live : entry.present) :
      Prepares source store seen epoch (.removed id) {
        phoneInstances :=
          Ordered.insert (source.entryId id) { entry with present := false } store.phoneInstances
        importedPhones := store.importedPhones
        operations := [(entry.instance', none)] }
  /-- The phone withdraws what only the desktop shows, or nothing. -/
  | retired (id : Nat)
      (absent : ∀ entry, Ordered.get (source.entryId id) store.phoneInstances = some entry →
        entry.present = false) :
      Prepares source store seen epoch (.removed id) {
        phoneInstances := store.phoneInstances
        importedPhones := store.importedPhones
        operations := ((seen.bind (·.instance' (source.entryId id ++ "/"))).map
          fun instance' => (instance', none)).toList }
  | ended (prepared : Prepared) (ended : source.prepareEnd store (source.resent.getD ∅) =
        .ok prepared) :
      Prepares source store seen epoch .snapshotEnd prepared

/-- What the user dismissed on the desktop stays dismissed. -/
def dismissal (seen : Option PhoneProjections) (operation : String × Option SharedNotification) :
    String × Option SharedNotification :=
  if seen.any (·.dismissed operation.1) then (operation.1, none) else operation

theorem run_dismissedAsRemovals (operations : List (String × Option SharedNotification))
    (projected : Projected) :
    (dismissedAsRemovals desktop operations).run projected =
      match seenCache desktop projected.cache with
      | .error error => (projected, .error error)
      | .ok seen => (see projected seen, .ok (operations.map (dismissal seen))) := by
  simp only [dismissedAsRemovals, CacheM.run_bind, run_loadCache]
  cases seenCache desktop projected.cache with
  | error error => rfl
  | ok seen =>
    cases seen with
    | none =>
      have same : operations.map (dismissal none) = operations :=
        List.map_id'' (fun _ => rfl) operations
      simp [same]
    | some cache => rfl

theorem Allocated.get {id : Nat} {instance' : String}
    {phoneInstances : List (String × PhoneInstance)}
    (allocated : Allocated source store id seen epoch instance' phoneInstances) :
    Ordered.get (source.entryId id) phoneInstances = some { instance', present := true } := by
  cases found : Ordered.get (source.entryId id) phoneInstances with
  | none => exact absurd allocated.own (Ordered.get_eq_none.mp found _)
  | some entry =>
    have same := allocated.only _ (Ordered.mem_of_get found) rfl
    rw [(Prod.mk.inj same).2]

section Preparing

variable {projected projected' : Projected} {prepared : Prepared}

theorem run_preparePosted {phone : PhoneNotification}
    (seeing : seenCache desktop projected.cache = .ok seen)
    (ran : (source.preparePosted store phone desktop epoch).run projected =
      (projected', .ok prepared)) :
    Prepares source store seen epoch (.posted phone) prepared ∧
      (projected' = projected ∨ projected' = see projected seen) := by
  simp only [preparePosted] at ran
  split at ran
  · rename_i live
    obtain ⟨entry, found, present⟩ := (Option.any_eq_true _ _).mp live
    simp only [CacheM.run_bind, CacheM.run_pure, found, Option.map_some, Option.toList_some,
      Prod.mk.injEq, Except.ok.injEq] at ran
    obtain ⟨rfl, rfl⟩ := ran
    exact ⟨.updated phone entry found present, .inl rfl⟩
  · rename_i dead
    have absent : ∀ entry, Ordered.get (source.entryId phone.id) store.phoneInstances =
        some entry → entry.present = false := by
      intro entry found
      simpa [found] using dead
    simp only [CacheM.run_bind, run_loadCache, seeing, CacheM.run_lift] at ran
    cases allocation : source.allocate store phone.id seen epoch with
    | error error => simp [allocation] at ran
    | ok phoneInstances =>
      obtain ⟨instance', allocated⟩ := allocate_spec allocation
      simp only [allocation, CacheM.run_pure, allocated.get, Option.map_some, Option.toList_some,
        Prod.mk.injEq, Except.ok.injEq] at ran
      obtain ⟨rfl, rfl⟩ := ran
      exact ⟨.allocated phone instance' phoneInstances absent allocated, .inr rfl⟩

theorem run_prepareRemoved {id : Nat} (seeing : seenCache desktop projected.cache = .ok seen)
    (ran : (source.prepareRemoved store id desktop).run projected = (projected', .ok prepared)) :
    Prepares source store seen epoch (.removed id) prepared ∧
      (projected' = projected ∨ projected' = see projected seen) := by
  simp only [prepareRemoved] at ran
  split at ran
  · rename_i entry live
    obtain ⟨found, present⟩ := Option.filter_eq_some_iff.mp live
    simp only [CacheM.run_pure, Prod.mk.injEq, Except.ok.injEq] at ran
    obtain ⟨rfl, rfl⟩ := ran
    exact ⟨.withdrawn id entry found present, .inl rfl⟩
  · rename_i dead
    simp only [CacheM.run_bind, run_loadCache, seeing, CacheM.run_pure, Prod.mk.injEq,
      Except.ok.injEq] at ran
    obtain ⟨rfl, rfl⟩ := ran
    refine ⟨.retired id ?_, .inr rfl⟩
    intro entry found
    simpa [found] using dead

theorem run_prepare (seeing : seenCache desktop projected.cache = .ok seen)
    (started : event ≠ .snapshotStart)
    (ran : (source.prepare store desktop epoch event).run projected = (projected', .ok prepared)) :
    Prepares source store seen epoch event prepared ∧
      (projected' = projected ∨ projected' = see projected seen) := by
  cases event with
  | posted phone => exact run_preparePosted seeing ran
  | removed id => exact run_prepareRemoved seeing ran
  | snapshotStart => exact absurd rfl started
  | snapshotEnd =>
    simp only [prepare, CacheM.run_lift, Prod.mk.injEq] at ran
    exact ⟨.ended prepared ran.2, .inl ran.1.symm⟩

/-- A cache that cannot be seen is left as it is. -/
theorem run_prepare_unseen {error : String} {result : Except String Prepared}
    (unseen : seenCache desktop projected.cache = .error error)
    (ran : (source.prepare store desktop epoch event).run projected = (projected', result)) :
    projected' = projected := by
  cases event with
  | posted phone =>
    simp only [prepare, preparePosted] at ran
    split at ran
    · simp only [CacheM.run_bind, CacheM.run_pure, Prod.mk.injEq] at ran
      exact ran.1.symm
    · simp only [CacheM.run_bind, run_loadCache, unseen, Prod.mk.injEq] at ran
      exact ran.1.symm
  | removed id =>
    simp only [prepare, prepareRemoved] at ran
    split at ran
    · simp only [CacheM.run_pure, Prod.mk.injEq] at ran
      exact ran.1.symm
    · simp only [CacheM.run_bind, run_loadCache, unseen, Prod.mk.injEq] at ran
      exact ran.1.symm
  | snapshotStart =>
    simp only [prepare, CacheM.run_pure, Prod.mk.injEq] at ran
    exact ran.1.symm
  | snapshotEnd =>
    simp only [prepare, CacheM.run_lift, Prod.mk.injEq] at ran
    exact ran.1.symm

/-- All an event that can be prepared plans. -/
theorem run_plan {operations : List (String × Option SharedNotification)}
    (started : event ≠ .snapshotStart)
    (ran : (source.plan store desktop epoch event).run projected =
      (projected', .ok (prepared, operations))) :
    ∃ seen, seenCache desktop projected.cache = .ok seen ∧
      Prepares source store seen epoch event prepared ∧
      operations = prepared.operations.map (dismissal seen) := by
  simp only [plan, CacheM.run_bind, run_dismissedAsRemovals] at ran
  cases first : (source.prepare store desktop epoch event).run projected with
  | mk mid result =>
    cases seeing : seenCache desktop projected.cache with
    | error error =>
      obtain rfl := run_prepare_unseen seeing first
      cases result <;> simp [first, seeing] at ran
    | ok seen =>
      cases result with
      | error error => simp [first] at ran
      | ok base =>
        obtain ⟨prepares, kept⟩ := run_prepare seeing started first
        have again : seenCache desktop mid.cache = .ok seen := by
          rcases kept with rfl | rfl
          · exact seeing
          · exact seenCache_see seeing
        simp only [first, again, CacheM.run_pure, Prod.mk.injEq, Except.ok.injEq] at ran
        obtain ⟨-, rfl, rfl⟩ := ran
        exact ⟨seen, rfl, prepares, rfl⟩

end Preparing

/-! ## A call of apply -/

variable {hub : NotificationHub} {cache : PhoneProjections} {persist : Persist}

/-- What a call of `apply` does to the hub: nothing, or one commit of what the event prepares. -/
inductive Turned (source : PhoneNotificationSource) (hub : NotificationHub)
    (cache : PhoneProjections) (event : NotificationEvent) (desktop : Option Desktop)
    (epoch : Except String String) (turn : Turn) : Prop where
  | kept (hub : turn.hub = hub) (refused : event = .snapshotStart ∨ turn.result ≠ .ok ())
  | committed (seen : Option PhoneProjections) (prepared : Prepared) (changed : Bool)
      (next : Store) (seeing : seenCache desktop cache = .ok seen)
      (complete : event = .snapshotEnd → source.snapshotFailed = false)
      (opened : event = .snapshotEnd → source.resent.isSome)
      (prepares : Prepares source hub.state seen epoch event prepared)
      (queued : hub.QueuedAll (prepared.operations.map (dismissal seen))
        { hub.state with
          phoneInstances := prepared.phoneInstances
          importedPhones := prepared.importedPhones } changed next)
      (commits : hub.Commits next turn.hub)
      (done : turn.result = .ok () → turn.hub.state = next)

theorem note_ok (noted : (source.note event).2 = .ok ()) (ended : event = .snapshotEnd) :
    source.resent.isSome := by
  subst ended
  cases open' : source.resent with
  | none => simp [note, open'] at noted
  | some resent => rfl

theorem applyInner_turned (outbox : hub.isCoordinator = false → hub.state.Outbox) :
    Turned source hub cache event desktop epoch
      (source.applyInner hub cache event desktop epoch persist) := by
  unfold applyInner
  dsimp only
  split
  · rename_i start
    split <;> exact .kept rfl (.inl start)
  · rename_i started
    cases noted : source.note event with
    | mk source' outcome =>
      cases outcome with
      | error error => exact .kept rfl (.inr (by simp))
      | ok =>
        cases planned : (source.plan hub.state desktop epoch event).run { cache } with
        | mk projected outcome =>
          cases outcome with
          | error error => exact .kept rfl (.inr (by simp))
          | ok plan =>
            obtain ⟨prepared, operations⟩ := plan
            obtain ⟨seen, seeing, prepares, rfl⟩ := run_plan started planned
            dsimp only
            by_cases failed : event = .snapshotEnd ∧ source.snapshotFailed
            · refine .kept ?_ (.inr ?_)
              · simp [commit, failed]
              · simp [commit, failed, Except.bind]
            · have complete : event = .snapshotEnd → source.snapshotFailed = false := by
                intro ended
                simpa [ended] using failed
              have applied : source.commit hub event prepared
                  (prepared.operations.map (dismissal seen)) persist =
                  hub.applyPhone prepared.phoneInstances prepared.importedPhones
                    (prepared.operations.map (dismissal seen)) persist := if_neg failed
              rw [applied]
              rcases NotificationHub.applyPhone_spec prepared.phoneInstances
                prepared.importedPhones (prepared.operations.map (dismissal seen)) persist
                outbox with ⟨same, refused⟩ | ⟨changed, next, queued, commits, done⟩
              · refine .kept same (.inr ?_)
                intro ok
                exact refused (bind_eq_ok.mp ok).choose_spec.1
              · refine .committed seen prepared changed next seeing complete
                  (note_ok (congrArg Prod.snd noted)) prepares queued commits ?_
                intro ok
                exact done (bind_eq_ok.mp ok).choose_spec.1

theorem apply_turned (outbox : hub.isCoordinator = false → hub.state.Outbox) :
    Turned source hub cache event desktop epoch
      (source.apply hub cache event desktop epoch persist) := by
  have inner : Turned source hub cache event desktop epoch
      (source.applyInner hub cache event desktop epoch persist) := applyInner_turned outbox
  unfold apply
  dsimp only
  split
  · cases inner with
    | kept same refused => exact .kept same refused
    | committed seen prepared changed next seeing complete opened prepares queued commits done =>
      exact .committed seen prepared changed next seeing complete opened prepares queued commits
        done
  · exact inner

/-- The hub changes by at most one commit of the store. -/
theorem apply_hub : (source.apply hub cache event desktop epoch persist).hub = hub ∨
    ∃ phoneInstances importedPhones operations,
      (source.apply hub cache event desktop epoch persist).hub =
        (hub.applyPhone phoneInstances importedPhones operations persist).1 := by
  have same : (source.apply hub cache event desktop epoch persist).hub =
      (source.applyInner hub cache event desktop epoch persist).hub := by
    unfold apply
    dsimp only
    split <;> rfl
  rw [same]
  unfold applyInner
  dsimp only
  split
  · split <;> exact .inl rfl
  · split
    · exact .inl rfl
    · split
      · exact .inl rfl
      · rename_i prepared operations planned
        dsimp only [commit]
        split
        · exact .inl rfl
        · exact .inr ⟨_, _, _, rfl⟩

/-- What a successful event does to the source. -/
def follow (source : PhoneNotificationSource) : NotificationEvent → PhoneNotificationSource
  | .posted phone =>
    { source with resent := source.resent.map (insert (source.entryId phone.id)) }
  | .removed _ => source
  | .snapshotStart => { source with resent := some ∅, snapshotFailed := false }
  | .snapshotEnd => { source with resent := none }

/-- Whether a snapshot is open after an event. -/
def opened (source : PhoneNotificationSource) : NotificationEvent → Bool
  | .snapshotStart => true
  | .snapshotEnd => false
  | _ => source.resent.isSome

/-- What an event leaves of the source, however it ends. -/
structure Left (source : PhoneNotificationSource) (event : NotificationEvent) (turn : Turn) :
    Prop where
  idPrefix : turn.source.idPrefix = source.idPrefix
  opened : turn.source.resent.isSome = source.opened event
  ok : turn.result = .ok () → turn.source = source.follow event
  started : turn.result = .ok () → event = .snapshotStart → source.resent = none
  failed : turn.result ≠ .ok () → turn.source.resent.isSome → turn.source.snapshotFailed
  stays : event ≠ .snapshotStart → source.snapshotFailed → turn.source.snapshotFailed

theorem note_eq (source : PhoneNotificationSource) (started : event ≠ .snapshotStart) :
    ∃ resent,
      (source.note event).1 = { source with resent } ∧ resent.isSome = source.opened event ∧
        ((source.note event).2 = .ok () → { source with resent } = source.follow event) := by
  obtain ⟨idPrefix, name, resent, failed⟩ := source
  cases event with
  | posted phone =>
    cases resent with
    | none => exact ⟨none, rfl, rfl, fun _ => rfl⟩
    | some resent =>
      simp only [note]
      split
      · exact ⟨_, rfl, rfl, fun _ => rfl⟩
      · exact ⟨_, rfl, rfl, fun refused => by cases refused⟩
  | removed id => exact ⟨resent, rfl, rfl, fun _ => rfl⟩
  | snapshotStart => exact absurd rfl started
  | snapshotEnd => cases resent <;> exact ⟨none, rfl, rfl, fun _ => rfl⟩

/-- A turn that took the source as `note` left it. -/
theorem left_noted {turn : Turn} (started : event ≠ .snapshotStart)
    (noted : turn.source = (source.note event).1)
    (refused : turn.result = .ok () → (source.note event).2 = .ok ()) :
    turn.source.idPrefix = source.idPrefix ∧ turn.source.resent.isSome = source.opened event ∧
      (turn.result = .ok () → turn.source = source.follow event) ∧
      turn.source.snapshotFailed = source.snapshotFailed := by
  obtain ⟨resent, same, opened, follows⟩ := note_eq source started
  rw [noted, same]
  exact ⟨rfl, opened, fun ok => follows (refused ok), rfl⟩

theorem applyInner_left (source : PhoneNotificationSource) (hub : NotificationHub)
    (cache : PhoneProjections) (desktop : Option Desktop) (epoch : Except String String)
    (persist : Persist) (started : event ≠ .snapshotStart) :
    (source.applyInner hub cache event desktop epoch persist).source = (source.note event).1 ∧
      ((source.applyInner hub cache event desktop epoch persist).result = .ok () →
        (source.note event).2 = .ok ()) := by
  unfold applyInner
  dsimp only
  rw [if_neg started]
  cases noted : source.note event with
  | mk source' outcome =>
    cases outcome with
    | error error => exact ⟨rfl, fun ok => by cases ok⟩
    | ok =>
      cases planned : (source.plan hub.state desktop epoch event).run { cache } with
      | mk projected outcome =>
        cases outcome <;> exact ⟨rfl, fun _ => rfl⟩

theorem apply_left : source.Left event (source.apply hub cache event desktop epoch persist) := by
  by_cases started : event = .snapshotStart
  · subst started
    by_cases open' : source.resent.isSome
    · have turn : source.apply hub cache .snapshotStart desktop epoch persist =
          { source := { source with snapshotFailed := true }, hub, projected := { cache },
            result := .error "nested phone notification snapshot" } := by
        simp [apply, applyInner, open']
      rw [turn]
      exact ⟨rfl, open', fun ok => (by cases ok), fun ok => (by cases ok), fun _ _ => rfl,
        fun other => absurd rfl other⟩
    · have turn : source.apply hub cache .snapshotStart desktop epoch persist =
          { source := { source with resent := some ∅, snapshotFailed := false }, hub,
            projected := { cache }, result := .ok () } := by
        simp [apply, applyInner, open']
      rw [turn]
      refine ⟨rfl, rfl, fun _ => rfl, fun _ _ => by simpa using open', fun refused => ?_,
        fun other => absurd rfl other⟩
      exact absurd rfl refused
  · obtain ⟨noted, refused⟩ :=
      applyInner_left source hub cache desktop epoch persist started
    obtain ⟨idPrefix, opened, follows, failed⟩ := left_noted started noted refused
    unfold apply
    dsimp only
    split
    · rename_i ended
      exact ⟨idPrefix, opened, fun ok => absurd ok ended.1, fun ok => absurd ok ended.1,
        fun _ _ => rfl, fun _ _ => rfl⟩
    · rename_i ended
      refine ⟨idPrefix, opened, follows, fun _ start => absurd start started, ?_, ?_⟩
      · intro refused open'
        exact absurd ⟨refused, open'⟩ ended
      · intro _ before
        rw [failed]
        exact before

end PhoneNotificationSource

end EdgeKvm.Notification
