import EdgeKvm.Notification.Guarantees

/-!
# One key and the whole view

`Store::record` lays the pending operation of a key over the record of that key alone, and
`Store::view` lays all pending operations over all records. The two agree on a key exactly while
the records leave room for its pending operation; a snapshot may fill them up after the operation
was queued.
-/

namespace EdgeKvm.Notification

open EdgeKvm.Lib EdgeKvm.Lib.Machine

/-- The record an operation makes for a key that has none. -/
def NotificationOperation.fresh (operation : NotificationOperation) : NotificationRecord :=
  { key := operation.key, sourceSequence := operation.sequence, content := operation.content }

/-- The record of a key after an operation on it. -/
def NotificationOperation.land (operation : NotificationOperation) (record : NotificationRecord) :
    NotificationRecord :=
  if record.content = none ∨
      operation.content ≠ none ∧ operation.sequence ≤ record.sourceSequence then record
  else Store.supersede operation record

namespace Store

variable {s : Store} {sender : String} {operation : NotificationOperation}
  {operations : List NotificationOperation} {key : NotificationKey}

/-! ## The overlay of one operation, key by key -/

theorem lookup_overlay_other (other : operation.key ≠ key) :
    lookupRecord key (s.overlay sender operation).records = lookupRecord key s.records := by
  unfold overlay
  cases applied : s.apply sender operation with
  | error error => rfl
  | ok result =>
    obtain ⟨changed, next⟩ := result
    cases (apply_cases applied).2 with
    | stale => rfl
    | superseded record found live newer =>
      simp only [lookupRecord]
      rw [Keyed.lookup_update (f := supersede operation) fun _ => rfl, if_neg (Ne.symm other)]
    | pushed absent room =>
      simp only [lookupRecord]
      rw [Keyed.lookup_append, Keyed.lookup_singleton, if_neg other, Option.or_none]

/-- The overlay of a checked operation, seen at its own key. -/
theorem lookup_overlay_self (checked : checkOperation sender operation = .ok ()) (s : Store) :
    lookupRecord operation.key (s.overlay sender operation).records =
      match lookupRecord operation.key s.records with
      | some record => some (operation.land record)
      | none => if s.records.length < maxRecords then some operation.fresh else none := by
  rcases overlay_cases checked s with ⟨changed, applied⟩ | ⟨same, absent, full⟩
  · generalize s.overlay sender operation = t at applied
    cases applied with
    | stale record found older =>
      rw [found]
      exact congrArg some (if_pos older).symm
    | superseded record found live newer =>
      have kept : ¬ (record.content = none ∨
          operation.content ≠ none ∧ operation.sequence ≤ record.sourceSequence) := by
        rintro (removed | ⟨carries, older⟩)
        · exact live removed
        · rcases newer with removal | newer
          · exact carries removal
          · omega
      simp only [lookupRecord] at found ⊢
      rw [Keyed.lookup_update (f := supersede operation) fun _ => rfl, if_pos rfl, found]
      exact congrArg some (if_neg kept).symm
    | pushed absent room =>
      simp only [lookupRecord] at absent ⊢
      rw [Keyed.lookup_append, absent, Option.none_or, Keyed.lookup_singleton, if_pos rfl]
      exact (if_pos room).symm
  · rw [same, absent]
    exact (if_neg (not_lt.mpr full)).symm

/-- How many records a checked operation adds. -/
theorem length_overlay (checked : checkOperation sender operation = .ok ()) (s : Store) :
    (s.overlay sender operation).records.length =
      s.records.length + if lookupRecord operation.key s.records = none ∧
        s.records.length < maxRecords then 1 else 0 := by
  rcases overlay_cases checked s with ⟨changed, applied⟩ | ⟨same, absent, full⟩
  · generalize s.overlay sender operation = t at applied
    cases applied with
    | stale record found older => simp [found]
    | superseded record found live newer => simp [found]
    | pushed absent room => simp [absent, room]
  · rw [same, if_neg (fun room => absurd room.2 (not_lt.mpr full)), Nat.add_zero]

/-! ## The overlay of all operations -/

theorem lookup_overlayAll_other (other : ∀ operation ∈ operations, operation.key ≠ key)
    (s : Store) :
    lookupRecord key (s.overlayAll sender operations).records = lookupRecord key s.records := by
  induction operations generalizing s with
  | nil => rfl
  | cons operation operations ih =>
    obtain ⟨apart, rest⟩ := List.forall_mem_cons.mp other
    exact (ih rest _).trans (lookup_overlay_other apart)

/-- How many of the operations are for keys without a record. -/
def newKeys (s : Store) (operations : List NotificationOperation) : Nat :=
  operations.countP fun operation => lookupRecord operation.key s.records = none

theorem newKeys_congr {t : Store}
    (same : ∀ operation ∈ operations,
      lookupRecord operation.key t.records = lookupRecord operation.key s.records) :
    t.newKeys operations = s.newKeys operations := by
  refine List.countP_congr fun operation member => ?_
  rw [same operation member]

/-- New keys take up room until there is none. -/
theorem length_overlayAll
    (keys : operations.Pairwise fun a b => a.key ≠ b.key)
    (checked : ∀ operation ∈ operations, checkOperation sender operation = .ok ()) (s : Store)
    (bounded : s.records.length ≤ maxRecords) :
    (s.overlayAll sender operations).records.length =
      min maxRecords (s.records.length + s.newKeys operations) := by
  induction operations generalizing s with
  | nil => exact (min_eq_right bounded).symm
  | cons operation operations ih =>
    obtain ⟨apart, keys⟩ := List.pairwise_cons.mp keys
    obtain ⟨valid, checked⟩ := List.forall_mem_cons.mp checked
    have others : (s.overlay sender operation).newKeys operations = s.newKeys operations :=
      newKeys_congr fun later member => lookup_overlay_other (apart later member)
    have grown := length_overlay valid s
    have total : s.newKeys (operation :: operations) = s.newKeys operations +
        if lookupRecord operation.key s.records = none then 1 else 0 := by
      simp [newKeys, List.countP_cons]
    have rest : (s.overlayAll sender (operation :: operations)).records.length =
        min maxRecords ((s.overlay sender operation).records.length + s.newKeys operations) := by
      rw [← others]
      refine ih keys checked _ ?_
      rw [grown]
      split <;> omega
    rw [rest, grown, total]
    by_cases new : lookupRecord operation.key s.records = none
    · simp only [new, true_and, if_true]
      split <;> omega
    · simp [new]

/-! ## Where the two agree -/

/-- The records have room for the pending operation of the key, if it is for a new one. -/
def Fits (s : Store) (key : NotificationKey) : Prop :=
  lookupRecord key s.records = none → (∃ operation ∈ s.pending, operation.key = key) →
    s.records.length + s.newKeys (s.pending.takeWhile fun queued => queued.key ≠ key) < maxRecords

theorem record_of_unqueued (unqueued : ∀ operation ∈ s.pending, operation.key ≠ key) :
    s.record key = lookupRecord key s.records := by
  unfold record
  rw [Keyed.lookup_eq_none.mpr unqueued]

/-- `record` of a key with a pending operation. -/
theorem record_of_queued
    (found : Keyed.lookup NotificationOperation.key key s.pending = some operation)
    (checked : checkOperation s.localIdentity operation = .ok ()) :
    s.record key =
      match lookupRecord key s.records with
      | some record => some (operation.land record)
      | none => some operation.fresh := by
  have own : operation.key = key := Keyed.key_of_lookup found
  unfold record
  rw [found]
  cases current : lookupRecord key s.records with
  | none =>
    have added := length_overlay checked ({ records := [] } : Store)
    have landed := lookup_overlay_self checked ({ records := [] } : Store)
    simp only [Option.toList_none]
    generalize (({ records := [] } : Store).overlay s.localIdentity operation).records = records
      at added landed
    simp only [lookupRecord, Keyed.lookup, List.find?_nil, List.length_nil, true_and, if_true,
      show (0 : Nat) < maxRecords from by decide, Nat.zero_add] at added landed
    obtain ⟨only, rfl⟩ := List.length_eq_one_iff.mp added
    have single : only = operation.fresh := by
      have member := List.mem_of_find?_eq_some landed
      exact (List.mem_singleton.mp member).symm
    rw [single]
    rfl
  | some record =>
    have same : lookupRecord operation.key [record] = some record := by
      have named : record.key = key := Keyed.key_of_lookup current
      simp only [lookupRecord]
      rw [Keyed.lookup_singleton, if_pos (named.trans own.symm)]
    have added := length_overlay checked ({ records := [record] } : Store)
    have landed := lookup_overlay_self checked ({ records := [record] } : Store)
    simp only [Option.toList_some]
    simp only [same, reduceCtorEq, false_and, if_false, List.length_singleton, Nat.add_zero]
      at added landed
    generalize (({ records := [record] } : Store).overlay s.localIdentity operation).records =
      records at added landed
    obtain ⟨only, rfl⟩ := List.length_eq_one_iff.mp added
    have single : only = operation.land record := by
      have member := Keyed.mem_of_lookup landed
      exact (List.mem_singleton.mp member).symm
    rw [single]
    rfl

/-- The per-key and the whole view of a replica's store agree on a key exactly when it fits. -/
theorem record_eq_view_iff (outbox : s.Outbox) (bounded : s.records.length ≤ maxRecords) :
    s.record key = lookupRecord key s.view ↔ s.Fits key := by
  rw [view_eq]
  cases found : Keyed.lookup NotificationOperation.key key s.pending with
  | none =>
    have unqueued := Keyed.lookup_eq_none.mp found
    rw [record_of_unqueued unqueued, lookup_overlayAll_other unqueued s]
    refine iff_of_true rfl fun _ queued => ?_
    obtain ⟨operation, member, same⟩ := queued
    exact absurd same (unqueued operation member)
  | some operation =>
    have member := Keyed.mem_of_lookup found
    have own : operation.key = key := Keyed.key_of_lookup found
    subst own
    have checked := outbox.checked operation member
    -- The operations before it, itself, and those after it.
    obtain ⟨before, after, split, earlier⟩ := List.find?_eq_some_iff_append.mp found |>.2
    have keys := outbox.keys
    rw [split, List.pairwise_append, List.pairwise_cons] at keys
    obtain ⟨keysBefore, ⟨apartAfter, -⟩, -⟩ := keys
    have earlier : ∀ queued ∈ before, queued.key ≠ operation.key := by
      intro queued member
      simpa using earlier queued member
    have later : ∀ queued ∈ after, queued.key ≠ operation.key :=
      fun queued member => (apartAfter queued member).symm
    have first : (s.pending.takeWhile fun queued => queued.key ≠ operation.key) = before := by
      rw [split, List.takeWhile_append_of_pos (by simpa using earlier),
        List.takeWhile_cons_of_neg (by simp), List.append_nil]
    have length := length_overlayAll keysBefore
      (fun queued member => outbox.checked queued (split ▸ List.mem_append_left _ member)) s bounded
    have viewed : lookupRecord operation.key
        (s.overlayAll s.localIdentity s.pending).records =
        match lookupRecord operation.key s.records with
        | some record => some (operation.land record)
        | none => if s.records.length + s.newKeys before < maxRecords then some operation.fresh
          else none := by
      have whole : s.overlayAll s.localIdentity s.pending =
          ((s.overlayAll s.localIdentity before).overlay s.localIdentity operation).overlayAll
            s.localIdentity after := by
        conv_lhs => rw [split]
        simp only [overlayAll, List.foldl_append, List.foldl_cons]
      rw [whole, lookup_overlayAll_other later, lookup_overlay_self checked,
        lookup_overlayAll_other earlier, length]
      congr 1
      simp only [lt_irrefl, min_lt_iff, false_or]
    rw [viewed, record_of_queued found checked, Fits, first]
    cases current : lookupRecord operation.key s.records with
    | some record => simp
    | none =>
      simp only [forall_const]
      constructor
      · intro same _
        by_contra full
        rw [if_neg full] at same
        cases same
      · intro fits
        exact (if_pos (fits ⟨operation, member, rfl⟩)).symm

end Store

/-! ## A replica and its link -/

/-- A replica's hub and its end of the link to the coordinator, while there is one. -/
structure LinkedReplica where
  hub : NotificationHub
  link : Option NotificationLink := none
  deriving DecidableEq

inductive LinkedAction where
  | queueLocal (key : NotificationKey) (content : Option SharedNotification) (persist : Persist)
  | connect
  | receive (event : NotificationSync) (persist : Persist)

namespace LinkedReplica

/-- The frames are whatever the coordinator sends; an error of `receive` ends the link. -/
def exec (replica : LinkedReplica) : LinkedAction → Option LinkedReplica
  | .queueLocal key content persist =>
    some { replica with hub := (replica.hub.local' key content persist).1 }
  | .connect =>
    some { replica with
      link := replica.hub.link replica.hub.config.coordinatorFingerprint true }
  | .receive event persist =>
    replica.link.map fun link =>
      let received := link.receive replica.hub event persist
      { hub := received.1, link := received.2.toOption }

/-- One replica and its coordinator's frames. -/
def machine : Machine LinkedReplica LinkedAction := ⟨exec⟩

/-- The start with an empty store, under another coordinator. -/
structure Initial (replica : LinkedReplica) : Prop where
  role : replica.hub.isCoordinator = false
  pending : replica.hub.state.pending = []
  records : replica.hub.state.records = []
  link : replica.link = none

/-- What the views need of a replica. -/
structure Inv (replica : LinkedReplica) : Prop where
  role : replica.hub.isCoordinator = false
  outbox : replica.hub.state.Outbox
  records : replica.hub.state.records.length ≤ maxRecords
  staged : ∀ link, replica.link = some link → ∀ epoch records,
    link.staged = some (epoch, records) → records.length ≤ maxRecords

variable {replica replica' : LinkedReplica}

theorem Initial.inv (initial : replica.Initial) : replica.Inv := by
  refine ⟨initial.role, ⟨?_, ?_, ?_, ?_⟩, ?_, ?_⟩
  · simp [initial.pending]
  · simp [initial.pending]
  · simp [initial.pending]
  · simp [initial.pending]
  · simp [initial.records]
  · simp [initial.link]

end LinkedReplica

/-- What a commit leaves in memory. -/
theorem NotificationHub.commit_state (hub : NotificationHub) (next : Store) (persist : Persist) :
    (hub.commit next persist).1.isCoordinator = hub.isCoordinator ∧
      ((hub.commit next persist).1.state = hub.state ∨
        (hub.commit next persist).1.state = next) := by
  cases persist with
  | stored => exact ⟨rfl, .inr rfl⟩
  | failed renamed error => exact ⟨rfl, .inl rfl⟩

theorem Store.Applied.length_le_max {s t : Store} {operation : NotificationOperation}
    {changed : Bool} (applied : Store.Applied s operation changed t)
    (bounded : s.records.length ≤ maxRecords) : t.records.length ≤ maxRecords := by
  cases applied with
  | stale => exact bounded
  | superseded => simpa using bounded
  | pushed absent room =>
    rw [List.length_append, List.length_singleton]
    exact room

theorem NotificationLink.receiveRecord_length {link link' : NotificationLink}
    {record : NotificationRecord} (received : link.receiveRecord record = .ok link')
    {epoch : String} {records : List NotificationRecord}
    (staged : link'.staged = some (epoch, records)) : records.length ≤ maxRecords := by
  simp only [receiveRecord, bind_eq_ok] at received
  obtain ⟨-, -, received⟩ := received
  cases before : link.staged with
  | none => simp [before] at received
  | some pair =>
    simp only [before, bind_eq_ok, ensure_eq_ok, pure_eq_ok] at received
    obtain ⟨-, ⟨room, -⟩, rfl⟩ := received
    simp only [Option.some.injEq, Prod.mk.injEq] at staged
    obtain ⟨-, rfl⟩ := staged
    rw [List.length_append, List.length_singleton]
    exact room

namespace LinkedReplica

variable {replica replica' : LinkedReplica}

/-- The stores a frame leaves in memory. -/
theorem Inv.receive_state (inv : replica.Inv) {link : NotificationLink}
    (opened : replica.link = some link) (event : NotificationSync) (persist : Persist) :
    (link.receive replica.hub event persist).1.isCoordinator = false ∧
      (link.receive replica.hub event persist).1.state.Outbox ∧
      (link.receive replica.hub event persist).1.state.records.length ≤ maxRecords := by
  have received := NotificationLink.receive_replica link persist inv.role event
  generalize link.receive replica.hub event persist = result at received
  cases received with
  | refused | settings | unknown | opened | gathered | confirmed =>
    exact ⟨inv.role, inv.outbox, inv.records⟩
  | acknowledged operation changed next sequence found applied =>
    obtain ⟨role, kept | moved⟩ := replica.hub.commit_state next persist
    · rw [kept]
      exact ⟨role.trans inv.role, inv.outbox, inv.records⟩
    · refine ⟨role.trans inv.role, ?_, ?_⟩
      · rw [moved]
        exact inv.outbox.retain _ (by rw [applied.eq_records]) (by rw [applied.eq_records])
          (by rw [applied.eq_records])
      · rw [moved]
        exact applied.length_le_max inv.records
  | renewed epoch records staged =>
    obtain ⟨role, kept | moved⟩ :=
      replica.hub.commit_state { replica.hub.state with epoch, records } persist
    · rw [kept]
      exact ⟨role.trans inv.role, inv.outbox, inv.records⟩
    · refine ⟨role.trans inv.role, ?_, ?_⟩
      · rw [moved]
        exact ⟨inv.outbox.numbered, inv.outbox.ascending, inv.outbox.keys, inv.outbox.checked⟩
      · rw [moved]
        exact inv.staged link opened epoch records staged

/-- The snapshot a frame leaves staged. -/
theorem Inv.receive_staged (inv : replica.Inv) {link link' : NotificationLink}
    (opened : replica.link = some link) {event : NotificationSync} {persist : Persist}
    (ok : (link.receive replica.hub event persist).2 = .ok link') {epoch : String}
    {records : List NotificationRecord} (staged : link'.staged = some (epoch, records)) :
    records.length ≤ maxRecords := by
  by_cases single : ∃ record, event = .record record
  · obtain ⟨record, rfl⟩ := single
    simp only [NotificationLink.receive, inv.role] at ok
    split at ok
    · cases ok
    · exact NotificationLink.receiveRecord_length ok staged
  · have received := NotificationLink.receive_replica link persist inv.role event
    generalize link.receive replica.hub event persist = result at received ok
    cases received with
    | refused => cases ok
    | settings coordinator | unknown sequence absent =>
      cases ok
      exact inv.staged link opened epoch records staged
    | acknowledged operation changed next sequence found applied =>
      obtain ⟨-, -, rfl⟩ := map_eq_ok.mp ok
      exact inv.staged _ opened epoch records staged
    | opened epoch' fresh epochs =>
      cases ok
      cases staged
      exact Nat.zero_le _
    | gathered epoch' records' record => exact absurd ⟨record, rfl⟩ single
    | confirmed =>
      cases ok
      cases staged
    | renewed epoch' records' staged' =>
      obtain ⟨-, -, rfl⟩ := map_eq_ok.mp ok
      cases staged

/-- A new end has nothing staged. -/
theorem link_staged {hub : NotificationHub} {peer : String} {supported : Bool}
    {link : NotificationLink} (opened : hub.link peer supported = some link) :
    link.staged = none := by
  unfold NotificationHub.link at opened
  split at opened
  · cases opened
  · cases opened
    rfl

theorem Inv.step (inv : replica.Inv) {action : LinkedAction}
    (executed : machine.exec replica action = some replica') : replica'.Inv := by
  cases action with
  | queueLocal key content persist =>
    cases executed
    have unchanged : ∀ hub, hub = replica.hub ∨ (∃ next, Store.Extended replica.hub.state next ∧
        hub = (replica.hub.commit next persist).1) →
        hub.isCoordinator = false ∧ hub.state.Outbox ∧ hub.state.records.length ≤ maxRecords := by
      rintro hub (rfl | ⟨next, extended, rfl⟩)
      · exact ⟨inv.role, inv.outbox, inv.records⟩
      · obtain ⟨role, kept | moved⟩ := replica.hub.commit_state next persist
        · rw [kept]
          exact ⟨role.trans inv.role, inv.outbox, inv.records⟩
        · rw [moved, extended.records]
          exact ⟨role.trans inv.role, extended.outbox, inv.records⟩
    obtain ⟨role, outbox, records⟩ := unchanged _
      (NotificationHub.local_cases key content persist inv.role inv.outbox)
    exact ⟨role, outbox, records, inv.staged⟩
  | connect =>
    cases executed
    refine ⟨inv.role, inv.outbox, inv.records, ?_⟩
    intro link opened epoch records staged
    rw [link_staged opened] at staged
    cases staged
  | receive event persist =>
    obtain ⟨link, opened, rfl⟩ := Option.map_eq_some_iff.mp executed
    obtain ⟨role, outbox, records⟩ := inv.receive_state opened event persist
    refine ⟨role, outbox, records, ?_⟩
    intro link' kept epoch records staged
    exact inv.receive_staged opened (toOption_eq_some.mp kept) staged

/-- A replica before its first session. -/
def fresh : LinkedReplica := { hub := .start sampleConfig replicaFingerprint "" }

theorem fresh_initial : fresh.Initial where
  role := by decide
  pending := rfl
  records := rfl
  link := rfl

theorem Inv.run {start : LinkedReplica} (inv : start.Inv)
    (run : machine.Run anyAction start replica) : replica.Inv :=
  run.invariant (I := LinkedReplica.Inv) (fun _ _ _ _ executed inv => inv.step executed) inv

/-! ### A snapshot that fills the records -/

section FullSnapshot

variable {hub : NotificationHub} {link : NotificationLink} {epoch : String}

/-- What an active end of a replica does with the frames of a snapshot. -/
theorem receive_snapshot (role : hub.isCoordinator = false) (active : link.activity = true)
    (persist : Persist) :
    (∀ record, link.receive hub (.record record) persist = (hub, link.receiveRecord record)) ∧
      link.receive hub .snapshotEnd persist = link.receiveSnapshotEnd hub persist := by
  simp [NotificationLink.receive, role, active]

/-- The records of a snapshot gather in the staged one. -/
theorem runList_records (role : hub.isCoordinator = false) (active : link.activity = true)
    {records : List NotificationRecord}
    (valid : ∀ record ∈ records, NotificationLink.checkRecord record = .ok ())
    {before : List NotificationRecord}
    (distinct : (before ++ records).Pairwise fun a b => a.key ≠ b.key)
    (fits : (before ++ records).length ≤ maxRecords) :
    machine.runList
      { hub, link := some { link with staged := some (epoch, before) } }
      (records.map fun record => .receive (.record record) .stored) =
      some { hub, link := some { link with staged := some (epoch, before ++ records) } } := by
  induction records generalizing before with
  | nil => simp [runList]
  | cons record records ih =>
    obtain ⟨ok, valid⟩ := List.forall_mem_cons.mp valid
    have apart : ∀ known ∈ before, known.key ≠ record.key := fun known member =>
      (List.pairwise_append.mp distinct).2.2 known member record List.mem_cons_self
    have room : before.length < maxRecords := by
      rw [List.length_append, List.length_cons] at fits
      omega
    have gathered : ({ link with staged := some (epoch, before) } : NotificationLink).receiveRecord
        record = .ok { link with staged := some (epoch, before ++ [record]) } := by
      simp only [NotificationLink.receiveRecord, bind_eq_ok, ensure_eq_ok, pure_eq_ok]
      exact ⟨(), ok, (), ⟨room, apart⟩, trivial⟩
    have first : machine.exec { hub, link := some { link with staged := some (epoch, before) } }
        (.receive (.record record) .stored) =
        some { hub, link := some { link with staged := some (epoch, before ++ [record]) } } := by
      have received := (@receive_snapshot hub { link with staged := some (epoch, before) } role active
        .stored).1 record
      simp only [machine, exec, Option.map_some, received, gathered, Except.toOption]
    rw [List.append_cons] at distinct fits
    rw [List.map_cons, runList, first, Option.bind_some, ih valid distinct fits,
      List.append_assoc, List.singleton_append]

/-- The end of a snapshot under another epoch installs it. -/
theorem exec_snapshotEnd (role : hub.isCoordinator = false) (active : link.activity = true)
    {records : List NotificationRecord} (other : hub.state.epoch ≠ epoch) :
    machine.exec { hub, link := some { link with staged := some (epoch, records) } }
      (.receive .snapshotEnd .stored) =
      some { hub := (hub.commit { hub.state with epoch, records } .stored).1,
             link := some { link with staged := none } } := by
  have received := (@receive_snapshot hub { link with staged := some (epoch, records) } role active
    .stored).2
  simp only [machine, exec, Option.map_some, received, NotificationLink.receiveSnapshotEnd, other,
    false_and, if_false]
  rfl

end FullSnapshot

/-- One of sixteen letters. -/
def letter (n : Nat) : Char := Char.ofNat (97 + n % 16)

/-- The owner's record number `n`, withdrawn since. -/
def filler (n : Nat) : NotificationRecord :=
  { key :=
      { origin := ownerFingerprint
        instance' := String.singleton (letter (n / 256)) ++ String.singleton (letter (n / 16)) ++
          String.singleton (letter n) }
    sourceSequence := n + 1, content := none }

/-- A history of as many records as there may be. -/
@[irreducible] def fillers : List NotificationRecord := (List.range maxRecords).map filler

theorem letter_valid (n : Nat) :
    (letter n).utf8Size = 1 ∧
      (isAsciiAlphanumeric (letter n) || letter n ∈ ['-', '_', '/']) = true := by
  have all : ∀ k < 16, (Char.ofNat (97 + k)).utf8Size = 1 ∧
      (isAsciiAlphanumeric (Char.ofNat (97 + k)) || Char.ofNat (97 + k) ∈ ['-', '_', '/']) = true := by
    decide
  exact all (n % 16) (Nat.mod_lt _ (by decide))

theorem letter_inj {m n : Nat} (same : letter m = letter n) : m % 16 = n % 16 := by
  have all : ∀ j < 16, ∀ k < 16, Char.ofNat (97 + j) = Char.ofNat (97 + k) → j = k := by decide
  exact all _ (Nat.mod_lt _ (by decide)) _ (Nat.mod_lt _ (by decide)) same

theorem filler_valid (n : Nat) : NotificationLink.checkRecord (filler n) = .ok () := by
  have origin : validateKey { origin := ownerFingerprint, instance' := "a" } = .ok () := by
    decide +kernel
  simp only [validateKey, bind_eq_ok, ensure_eq_ok] at origin
  obtain ⟨-, named, -⟩ := origin
  have key : validateKey (filler n).key = .ok () := by
    simp only [filler, validateKey, bind_eq_ok]
    refine ⟨(), ensure_eq_ok.mpr named, ensure_eq_ok.mpr ⟨?_, ?_, ?_⟩⟩
    · simp [(letter_valid _).1]
    · simp [(letter_valid _).1]
    · simp only [String.toList_append, String.toList_singleton, List.cons_append, List.nil_append,
        List.all_cons, List.all_nil, (letter_valid _).2, Bool.and_self]
  simp only [NotificationLink.checkRecord, bind_eq_ok]
  exact ⟨(), key, rfl⟩

theorem filler_inj {m n : Nat} (small : m < maxRecords) (small' : n < maxRecords)
    (same : (filler m).key = (filler n).key) : m = n := by
  have names := congrArg (fun key => key.instance'.toList) same
  simp only [filler, String.toList_append, String.toList_singleton, List.cons_append, List.nil_append, List.cons.injEq, and_true] at names
  obtain ⟨high, middle, low⟩ := names
  have high := letter_inj high
  have middle := letter_inj middle
  have low := letter_inj low
  unfold maxRecords at small small'
  omega

theorem fillers_length : fillers.length = maxRecords := by
  unfold fillers
  rw [List.length_map, List.length_range]

theorem mem_fillers {record : NotificationRecord} (member : record ∈ fillers) :
    ∃ n, record = filler n := by
  unfold fillers at member
  obtain ⟨n, -, same⟩ := List.mem_map.mp member
  exact ⟨n, same.symm⟩

theorem fillers_valid : ∀ record ∈ fillers, NotificationLink.checkRecord record = .ok () := by
  intro record member
  obtain ⟨n, rfl⟩ := mem_fillers member
  exact filler_valid n

theorem fillers_distinct : fillers.Pairwise fun a b => a.key ≠ b.key := by
  unfold fillers
  refine List.pairwise_map.mpr ?_
  refine List.Pairwise.imp_of_mem ?_ (List.nodup_range (n := maxRecords))
  intro m n first second apart same
  exact apart (filler_inj (List.mem_range.mp first) (List.mem_range.mp second) same)

/-- A notification is queued, then the owner begins its history. -/
def queuedRun : List LinkedAction :=
  [.connect, .receive (.settings ownerFingerprint) .stored,
    .queueLocal sampleKey (some sampleContent) .stored,
    .receive (.snapshotStart "0123456789abcdef0123456789abcdef") .stored]

/-- The replica's hub by then. -/
def queuedHub : NotificationHub := (machine.reach fresh queuedRun).hub

def queuedLink : NotificationLink :=
  { activity := true, peer := ownerFingerprint, outgoing := [.settings ownerFingerprint] }

/-- The replica once the full history is in. -/
def filled : LinkedReplica :=
  { hub := (queuedHub.commit { queuedHub.state with
      epoch := "0123456789abcdef0123456789abcdef", records := fillers } .stored).1
    link := some queuedLink }

theorem run_filled : machine.Run anyAction fresh filled := by
  have queued : machine.runList fresh queuedRun = some
      { hub := queuedHub
        link := some { queuedLink with
          staged := some ("0123456789abcdef0123456789abcdef", []) } } := by
    decide +kernel
  have gathered : machine.runList
      { hub := queuedHub
        link := some { queuedLink with
          staged := some ("0123456789abcdef0123456789abcdef", []) } }
      (fillers.map fun record => .receive (.record record) .stored) = some
      { hub := queuedHub
        link := some { queuedLink with
          staged := some ("0123456789abcdef0123456789abcdef", [] ++ fillers) } } :=
    runList_records (by decide +kernel) rfl fillers_valid fillers_distinct
      fillers_length.le
  have ended : machine.exec
      { hub := queuedHub
        link := some { queuedLink with
          staged := some ("0123456789abcdef0123456789abcdef", [] ++ fillers) } }
      (.receive .snapshotEnd .stored) = some filled :=
    exec_snapshotEnd (by decide +kernel) rfl (by decide +kernel)
  exact ((run_of_runList _ queued).trans (run_of_runList _ gathered)).trans
    (.head trivial ended .refl)

theorem filled_pending :
    filled.hub.state.pending = [{ sequence := 1, key := sampleKey, content := some sampleContent }] := by
  have queued : queuedHub.state.pending =
      [{ sequence := 1, key := sampleKey, content := some sampleContent }] := by decide +kernel
  exact queued

/-! ### The theorem -/

/-- In every state a replica reaches, `record` shows what `view` shows of a key exactly when the
    records leave room for the pending operation on it. -/
theorem record_agrees_with_view {start : LinkedReplica} (initial : start.Initial)
    (run : machine.Run anyAction start replica) (key : NotificationKey) :
    replica.hub.state.record key = lookupRecord key replica.hub.state.view ↔
      replica.hub.state.Fits key := by
  have inv := initial.inv.run run
  exact Store.record_eq_view_iff inv.outbox inv.records

theorem record_agrees_with_view_sample :
    (filled.hub.state.record sampleKey = lookupRecord sampleKey filled.hub.state.view ↔
      filled.hub.state.Fits sampleKey) :=
  record_agrees_with_view fresh_initial run_filled sampleKey

/-- The queued notification is missing from the whole view of a full store. -/
theorem record_differs_from_view :
    ∃ replica, machine.Run anyAction fresh replica ∧
      replica.hub.state.record sampleKey ≠ lookupRecord sampleKey replica.hub.state.view := by
  refine ⟨filled, run_filled, fun same => ?_⟩
  have inv := fresh_initial.inv.run run_filled
  have fits := (Store.record_eq_view_iff inv.outbox inv.records).mp same
  have absent : lookupRecord sampleKey filled.hub.state.records = none := by
    refine Keyed.lookup_eq_none.mpr fun record member own => ?_
    obtain ⟨n, rfl⟩ := mem_fillers member
    exact absurd (congrArg NotificationKey.origin own) (by decide : ownerFingerprint ≠ replicaFingerprint)
  have length : filled.hub.state.records.length = maxRecords := fillers_length
  have room := fits absent ⟨_, by rw [filled_pending]; exact List.mem_singleton_self _, rfl⟩
  omega

end LinkedReplica

end EdgeKvm.Notification
