import EdgeKvm.Notification.SessionLink
import EdgeKvm.Notification.Views

/-!
# Starting from the store on disk

`NotificationHub::start` of `notification_hub.rs` for an enabled configuration: the checks on the
stored history, the change of its owner, and the persist at the end. What the operating system
decides is in `StartIo`.
-/

namespace EdgeKvm.Notification

open EdgeKvm.Lib

/-- What `start` gets from outside: the backup of a store that changes its owner, the epoch
    `new_epoch` draws, the bridge's socket and the pins, and the persist. -/
structure StartIo where
  backup : Except String Unit
  epoch : Except String String
  bridge : Except String Unit
  persist : Persist

namespace Store

/-- `Store::coordinator_locked`. -/
def coordinatorLocked (s : Store) : Bool :=
  s.epoch ≠ "" || !s.records.isEmpty ||
    s.pending.any fun operation => operation.key.origin ≠ s.localIdentity

/-- `for operation in std::mem::take(&mut state.pending) { state.apply(identity, &operation)?; }`,
    on the store without its outbox. -/
def commitAll (identity : String) : List NotificationOperation → Store → Except String Store
  | [], s => .ok s
  | operation :: operations, s => do
    let (_, s) ← s.apply identity operation
    commitAll identity operations s

/-- The branch of `start` for a store under another owner. -/
def changeOwner (s : Store) (owner identity : String) (io : StartIo) : Except String Store := do
  ensure (s.coordinatorLocked = false)
    "notification history owner changed; explicit migration required"
  io.backup
  if owner = identity then
    -- Initial setup must never discard the local outbox.
    let s ← commitAll identity s.pending { s with coordinator := owner, pending := [] }
    let epoch ← io.epoch
    return { s with epoch }
  else
    return { s with coordinator := owner }

/-- The owner `start` settles on. -/
def settleOwner (s : Store) (owner identity : String) (io : StartIo) : Except String Store :=
  if s.coordinator ≠ owner then s.changeOwner owner identity io else .ok s

/-- The store `start` works on; `size` is the length of a store's encoding. -/
def load (config : NotificationConfig) (identity : String) (size : Store → Nat)
    (disk : Option Store) (io : StartIo) : Except String Store :=
  match disk with
  | some s => do
    ensure (size s ≤ maxStoreBytes) "notification store too large"
    ensure (s.localIdentity = identity)
      "notification identity changed; explicit migration required"
    let s ← s.settleOwner config.coordinatorFingerprint identity io
    ensure (s.records.length ≤ maxRecords ∧ s.pending.length ≤ maxPending)
      "notification store limits exceeded"
    return s
  | none => do
    let epoch ← if config.coordinatorFingerprint = identity then io.epoch else pure ""
    return { coordinator := config.coordinatorFingerprint, epoch, localIdentity := identity }

end Store

/-- The checks on the configuration at the head of `start`. -/
def NotificationConfig.check (config : NotificationConfig) (identity : String) :
    Except String Unit := do
  validateKey { origin := config.coordinatorFingerprint, instance' := "config" }
  config.peers.forM fun peer => validateKey { origin := peer, instance' := "config" }
  ensure (config.coordinatorFingerprint = identity ∨
      config.coordinatorFingerprint ∈ config.peers)
    "notification coordinator must be an enrolled peer"

/-- `NotificationHub::persist`: the store file afterwards, and the result. -/
def persistStore (size : Store → Nat) (disk : Option Store) (next : Store) (persist : Persist) :
    Option Store × Except String Unit :=
  if maxStoreBytes < size next then (disk, .error "notification store capacity exceeded")
  else match persist with
    | .stored => (some next, .ok ())
    | .failed renamed error => (if renamed then some next else disk, .error error)

/-- `NotificationHub::start`: the store file afterwards, and the hub. -/
def NotificationHub.boot (config : NotificationConfig) (identity : String) (size : Store → Nat)
    (disk : Option Store) (io : StartIo) : Option Store × Except String NotificationHub :=
  match (do config.check identity; let s ← Store.load config identity size disk io
            io.bridge; return s) with
  | .error error => (disk, .error error)
  | .ok s =>
    let persisted := persistStore size disk s io.persist
    (persisted.1, persisted.2.map fun _ => { config, identity, state := s, disk := s })

/-! ## What becomes of the store -/

variable {s t : Store} {config : NotificationConfig} {owner identity : String}
  {size : Store → Nat} {io : StartIo} {operations : List NotificationOperation}

/-- What `start` makes of a store it does not refuse. -/
inductive Store.Carried (owner identity : String) (epoch : Except String String) (s : Store) :
    Store → Prop
  /-- The owner is the same. -/
  | kept (same : s.coordinator = owner) : Carried owner identity epoch s s
  /-- Another computer becomes the owner of an empty history. -/
  | other (changed : s.coordinator ≠ owner) (unlocked : s.coordinatorLocked = false)
      (elsewhere : owner ≠ identity) :
      Carried owner identity epoch s { s with coordinator := owner }
  /-- This computer becomes the owner of an empty history. -/
  | own (fresh : String) (records : List NotificationRecord) (changed : s.coordinator ≠ owner)
      (unlocked : s.coordinatorLocked = false) (here : owner = identity)
      (drawn : epoch = .ok fresh)
      (committed : Store.commitAll identity s.pending { s with coordinator := owner, pending := [] } =
        .ok { s with coordinator := owner, pending := [], records })
      (queued : (s.pending.Pairwise fun a b => a.key ≠ b.key) →
        records = s.records ++ s.pending.map NotificationOperation.fresh) :
      Carried owner identity epoch s
        { s with coordinator := owner, pending := [], epoch := fresh, records }

namespace Store

/-- Committing changes the records only. -/
theorem commitAll_eq (committed : commitAll identity operations s = .ok t) :
    t = { s with records := t.records } := by
  induction operations generalizing s with
  | nil =>
    cases committed
    rfl
  | cons operation operations ih =>
    simp only [commitAll, bind_eq_ok] at committed
    obtain ⟨⟨changed, mid⟩, applied, rest⟩ := committed
    have first := (apply_cases applied).2.eq_records
    have last := ih rest
    rw [first] at last
    exact last

/-- Operations on new and different keys are appended in their order. -/
theorem commitAll_records (keys : operations.Pairwise fun a b => a.key ≠ b.key)
    (absent : ∀ operation ∈ operations, lookupRecord operation.key s.records = none)
    (committed : commitAll identity operations s = .ok t) :
    t.records = s.records ++ operations.map NotificationOperation.fresh := by
  induction operations generalizing s with
  | nil =>
    cases committed
    exact (List.append_nil _).symm
  | cons operation operations ih =>
    obtain ⟨apart, keys⟩ := List.pairwise_cons.mp keys
    obtain ⟨new, absent⟩ := List.forall_mem_cons.mp absent
    simp only [commitAll, bind_eq_ok] at committed
    obtain ⟨⟨changed, mid⟩, applied, rest⟩ := committed
    cases (apply_cases applied).2 with
    | stale record found => rw [new] at found; cases found
    | superseded record found => rw [new] at found; cases found
    | pushed none room =>
      have later : ∀ next ∈ operations, lookupRecord next.key
          (s.records ++ [operation.fresh]) = Option.none := by
        intro next member
        have before : Keyed.lookup NotificationRecord.key next.key s.records = Option.none :=
          absent next member
        simp only [lookupRecord]
        rw [Keyed.lookup_append, before, Option.none_or, Keyed.lookup_singleton]
        exact if_neg (apart next member)
      rw [ih keys later rest, List.map_cons, List.append_assoc, List.singleton_append]
      rfl

theorem records_of_unlocked (unlocked : s.coordinatorLocked = false) : s.records = [] := by
  simp only [coordinatorLocked, Bool.or_eq_false_iff] at unlocked
  simpa using unlocked.1.2

theorem changeOwner_carried (changed : s.coordinator ≠ owner)
    (loaded : s.changeOwner owner identity io = .ok t) :
    Carried owner identity io.epoch s t := by
  simp only [changeOwner, bind_eq_ok, ensure_eq_ok] at loaded
  obtain ⟨-, unlocked, -, -, loaded⟩ := loaded
  split at loaded
  · rename_i here
    simp only [bind_eq_ok, pure_eq_ok] at loaded
    obtain ⟨committed, applied, fresh, drawn, rfl⟩ := loaded
    have same := commitAll_eq applied
    have queued : (s.pending.Pairwise fun a b => a.key ≠ b.key) →
        committed.records = s.records ++ s.pending.map NotificationOperation.fresh := by
      intro keys
      refine commitAll_records (s := { s with coordinator := owner, pending := [] }) keys
        (fun operation _ => ?_) applied
      simp [lookupRecord, Keyed.lookup, records_of_unlocked unlocked]
    rw [same] at applied ⊢
    exact .own fresh committed.records changed unlocked here drawn applied queued
  · rename_i elsewhere
    simp only [pure_eq_ok] at loaded
    subst loaded
    exact .other changed unlocked elsewhere

theorem load_carried (loaded : load config identity size (some s) io = .ok t) :
    Carried config.coordinatorFingerprint identity io.epoch s t ∧ s.localIdentity = identity ∧
      t.records.length ≤ maxRecords ∧ t.pending.length ≤ maxPending := by
  simp only [load, bind_eq_ok, ensure_eq_ok, pure_eq_ok] at loaded
  obtain ⟨-, -, -, own, store, moved, -, ⟨records, pending⟩, rfl⟩ := loaded
  refine ⟨?_, own, records, pending⟩
  unfold settleOwner at moved
  split at moved
  · rename_i changed
    exact changeOwner_carried changed moved
  · rename_i same
    cases moved
    exact .kept (not_not.mp same)

end Store

end EdgeKvm.Notification
