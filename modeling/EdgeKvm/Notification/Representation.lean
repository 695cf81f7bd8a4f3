import EdgeKvm.Notification.Authority
import EdgeKvm.Notification.Views

/-!
# What every store satisfies

The representation invariant of `Store`: unique keys, the limits, the numbering of the pending
operations, and the bound on the live records of local origin that `queue_local` relies on. Each
operation on a store keeps it; a snapshot does when the live records of local origin in it carry
numbers this computer has given out.
-/

namespace EdgeKvm.Notification

open EdgeKvm.Lib EdgeKvm.Lib.Machine

/-- The live records of an origin are numbered at most `n`. -/
def NumberedUpTo (origin : String) (n : Nat) (records : List NotificationRecord) : Prop :=
  ∀ record ∈ records, record.key.origin = origin → record.content ≠ none →
    record.sourceSequence ≤ n

/-- The representation invariant. -/
structure Store.Represents (s : Store) : Prop where
  recordKeys : s.records.Pairwise fun a b => a.key ≠ b.key
  pendingKeys : s.pending.Pairwise fun a b => a.key ≠ b.key
  records : s.records.length ≤ maxRecords
  pending : s.pending.length ≤ maxPending
  sequences : s.pending.Pairwise fun a b => a.sequence ≠ b.sequence
  numbered : ∀ operation ∈ s.pending, operation.sequence ≤ s.sequence
  origin : ∀ operation ∈ s.pending, operation.content ≠ none →
    operation.key.origin = s.localIdentity
  live : NumberedUpTo s.localIdentity s.sequence s.records

/-- The representation invariant, with what its proof needs of the outbox. -/
structure Store.Sound (s : Store) : Prop where
  outbox : s.Outbox
  distinct : s.Distinct
  records : s.records.length ≤ maxRecords
  pending : s.pending.length ≤ maxPending
  live : NumberedUpTo s.localIdentity s.sequence s.records

variable {s t : Store} {operation : NotificationOperation} {key : NotificationKey}
  {content : Option SharedNotification} {changed : Bool} {n m : Nat} {origin : String}
  {records : List NotificationRecord}

theorem NumberedUpTo.mono (numbered : NumberedUpTo origin n records) (le : n ≤ m) :
    NumberedUpTo origin m records :=
  fun record member own live => (numbered record member own live).trans le

namespace Store

/-- An operation that names the origin leaves its records numbered up to its own number. -/
theorem Applied.numberedUpTo (applied : Applied s operation changed t)
    (numbered : NumberedUpTo origin n s.records)
    (own : operation.content ≠ none → operation.key.origin = origin → operation.sequence ≤ n) :
    NumberedUpTo origin n t.records := by
  cases applied with
  | stale => exact numbered
  | superseded record found live newer =>
    intro record' member named shown
    rcases Keyed.mem_update member with old | ⟨known, old, same, rfl⟩
    · exact numbered record' old named shown
    · have carries : operation.content ≠ none := shown
      simp only [supersede, Option.isSome_iff_ne_none.mpr carries, if_true]
      exact own carries (same ▸ named)
  | pushed absent room =>
    intro record' member named shown
    rcases List.mem_append.mp member with old | new
    · exact numbered record' old named shown
    · rw [List.mem_singleton] at new
      subst new
      exact own shown named

theorem Sound.represents (sound : s.Sound) : s.Represents where
  recordKeys := sound.distinct
  pendingKeys := sound.outbox.keys
  records := sound.records
  pending := sound.pending
  sequences := sound.outbox.sequences
  numbered := sound.outbox.numbered
  origin := by
    intro operation member carries
    obtain ⟨content, carries⟩ := Option.ne_none_iff_exists'.mp carries
    exact origin_of_checked (sound.outbox.checked operation member) carries
  live := sound.live

/-! ## The operations -/

/-- The outbox of a replica stays within its limit. -/
theorem queueLocal_pending_length
    (queued : s.queueLocal key content false = .ok (changed, t))
    (fits : s.pending.length ≤ maxPending) : t.pending.length ≤ maxPending := by
  unfold queueLocal at queued
  split at queued
  · cases queued
    exact fits
  · simp only [queueOperation, Bool.false_eq_true, if_false, bind_eq_ok, ensure_eq_ok, pure_eq_ok,
      Prod.mk.injEq] at queued
    obtain ⟨-, -, -, -, -, ⟨room, -⟩, -, rfl⟩ := queued
    rw [List.length_append, List.length_singleton]
    exact room

/-- What an operation on a sound store leaves; a coordinator's has nothing pending. -/
structure Moved (coordinator : Bool) (s t : Store) : Prop where
  sound : t.Sound
  sequence : s.sequence ≤ t.sequence
  identity : t.localIdentity = s.localIdentity
  owner : t.coordinator = s.coordinator
  idle : coordinator = true → s.pending = [] → t.pending = []

variable {coordinator : Bool} {u : Store}

theorem Moved.refl (sound : s.Sound) : Moved coordinator s s :=
  ⟨sound, le_refl _, rfl, rfl, fun _ => id⟩

theorem Moved.trans (first : Moved coordinator s t) (second : Moved coordinator t u) :
    Moved coordinator s u where
  sound := second.sound
  sequence := first.sequence.trans second.sequence
  identity := second.identity.trans first.identity
  owner := second.owner.trans first.owner
  idle := fun role idle => second.idle role (first.idle role idle)

/-- `Store::apply` of an operation that is not numbered beyond the store. -/
theorem Applied.moved (applied : Applied s operation changed t) (sound : s.Sound)
    (own : operation.content ≠ none → operation.key.origin = s.localIdentity →
      operation.sequence ≤ s.sequence) : Moved coordinator s t := by
  have numbered := applied.numberedUpTo sound.live own
  have distinct := applied.distinct sound.distinct
  have fits := applied.length_le_max sound.records
  rw [applied.eq_records] at distinct fits ⊢
  exact ⟨⟨⟨sound.outbox.numbered, sound.outbox.ascending, sound.outbox.keys, sound.outbox.checked⟩,
    distinct, fits, sound.pending, numbered⟩, le_refl _, rfl, rfl, fun _ => id⟩

theorem Sound.renumber (sound : s.Sound) (le : s.sequence ≤ n) :
    Sound { s with sequence := n } :=
  ⟨⟨fun operation member => (sound.outbox.numbered operation member).trans le,
    sound.outbox.ascending, sound.outbox.keys, sound.outbox.checked⟩, sound.distinct,
    sound.records, sound.pending, sound.live.mono le⟩

/-- `Store::queue_local`. -/
theorem queueLocal_moved (queued : s.queueLocal key content coordinator = .ok (changed, t))
    (sound : s.Sound) : Moved coordinator s t := by
  cases coordinator with
  | true =>
    cases queueLocal_cases queued with
    | repeated => exact .refl sound
    | committed commits applied checked =>
      have renumbered : Moved true s { s with sequence := s.sequence + 1 } :=
        ⟨sound.renumber (Nat.le_succ _), Nat.le_succ _, rfl, rfl, fun _ => id⟩
      exact renumbered.trans (applied.moved renumbered.sound fun _ _ => le_refl _)
    | pended replica => cases replica
  | false =>
    have extended := (queueLocal_cases queued).extended sound.outbox
    have owner : t.coordinator = s.coordinator := by
      cases queueLocal_cases queued with
      | repeated => rfl
      | committed commits => cases commits
      | pended => rfl
    refine ⟨⟨extended.outbox, ?_, ?_, queueLocal_pending_length queued sound.pending, ?_⟩,
      extended.sequence, extended.identity, owner, fun role => by cases role⟩
    · rw [Distinct, extended.records]
      exact sound.distinct
    · rw [extended.records]
      exact sound.records
    · rw [extended.records, extended.identity]
      exact sound.live.mono extended.sequence

/-- An acknowledged operation moves from the outbox to the records. -/
theorem Applied.acknowledged_moved {sequence : Nat}
    (found : Keyed.lookup NotificationOperation.sequence sequence s.pending = some operation)
    (applied : Applied { s with
      pending := s.pending.filter fun queued => queued.sequence ≠ sequence } operation changed t)
    (sound : s.Sound) : Moved coordinator s t := by
  have retained : Moved coordinator s { s with
      pending := s.pending.filter fun queued => queued.sequence ≠ sequence } :=
    ⟨⟨sound.outbox.retain _ rfl rfl rfl, sound.distinct, sound.records,
      (List.length_filter_le _ _).trans sound.pending, sound.live⟩, le_refl _, rfl, rfl,
      fun _ idle => by rw [idle]; rfl⟩
  refine retained.trans (applied.moved retained.sound fun _ _ => ?_)
  exact sound.outbox.numbered operation (Keyed.mem_of_lookup found)

/-- A snapshot is installed. -/
theorem Sound.installed (sound : s.Sound) {epoch : String}
    (distinct : records.Pairwise fun a b => a.key ≠ b.key) (fits : records.length ≤ maxRecords)
    (live : NumberedUpTo s.localIdentity s.sequence records) :
    Moved coordinator s { s with epoch, records } :=
  ⟨⟨⟨sound.outbox.numbered, sound.outbox.ascending, sound.outbox.keys, sound.outbox.checked⟩,
    distinct, fits, sound.pending, live⟩, le_refl _, rfl, rfl, fun _ => id⟩

/-- The phone identities are not part of the invariant. -/
theorem Sound.identities (sound : s.Sound) (phoneInstances : List (String × PhoneInstance))
    (importedPhones : List (String × String)) :
    Moved coordinator s { s with phoneInstances, importedPhones } :=
  ⟨⟨⟨sound.outbox.numbered, sound.outbox.ascending, sound.outbox.keys, sound.outbox.checked⟩,
    sound.distinct, sound.records, sound.pending, sound.live⟩, le_refl _, rfl, rfl, fun _ => id⟩

/-! ## What `queue_local` relies on -/

theorem fresh_of_queueLocal (queued : s.queueLocal key content coordinator = .ok (true, t)) :
    ∀ record, lookupRecord key s.view = some record →
      record.content ≠ none ∧ record.content ≠ content := by
  unfold queueLocal at queued
  split at queued
  · cases queued
  · rename_i fresh
    intro record found
    refine ⟨fun removed => fresh ?_, fun same => fresh ?_⟩
    · simp [found, removed]
    · simp [found, same]

/-- The view shows a record that is removed already. -/
theorem view_of_removed {record : NotificationRecord}
    (found : lookupRecord key s.records = some record) (removed : record.content = none) :
    ∃ shown, lookupRecord key s.view = some shown ∧ shown.content = none := by
  have top : progress s.records key = ⊤ := progress_eq_top.mpr ⟨record, found, removed⟩
  have above := progress_le_overlayAll s.localIdentity s.pending s key
  rw [top, top_le_iff] at above
  exact progress_eq_top.mp above

/-- The record an accepted operation leaves carries its content. -/
theorem land_content {record : NotificationRecord} (live : record.content ≠ none)
    (newer : operation.content ≠ none → record.sourceSequence < operation.sequence) :
    (operation.land record).content = operation.content := by
  unfold NotificationOperation.land
  split
  · rename_i older
    rcases older with removed | ⟨carries, older⟩
    · exact absurd removed live
    · exact absurd (newer carries) (not_lt.mpr older)
  · rfl

/-- The live record of a key that a local operation updates is older than it. -/
theorem Sound.newer (sound : s.Sound) {record : NotificationRecord}
    (found : lookupRecord key s.records = some record) (live : record.content ≠ none)
    (checked : checkOperation s.localIdentity (s.nextOperation key content) = .ok ()) :
    (s.nextOperation key content).content ≠ none →
      record.sourceSequence < (s.nextOperation key content).sequence := by
  intro carries
  obtain ⟨shown, carries⟩ := Option.ne_none_iff_exists'.mp carries
  have named : record.key = key := Keyed.key_of_lookup found
  have own : record.key.origin = s.localIdentity := by
    rw [named]
    exact origin_of_checked checked carries
  exact Nat.lt_succ_of_le (sound.live record (Keyed.mem_of_lookup found) own live)

/-- What `queue_local` accepted is what the view shows. -/
theorem queueLocal_shown (queued : s.queueLocal key content coordinator = .ok (true, t))
    (sound : s.Sound) (idle : coordinator = true → s.pending = []) :
    ∃ record, lookupRecord key t.view = some record ∧ record.content = content := by
  have fresh := fresh_of_queueLocal queued
  have live : ∀ record, lookupRecord key s.records = some record → record.content ≠ none := by
    intro record found removed
    obtain ⟨shown, viewed, gone⟩ := view_of_removed found removed
    exact (fresh shown viewed).1 gone
  cases queueLocal_cases queued with
  | committed commits applied checked =>
    have empty : t.pending = [] := by
      rw [applied.eq_records]
      exact idle commits
    rw [view_eq, empty]
    show ∃ record, lookupRecord key t.records = some record ∧ record.content = content
    cases applied with
    | stale record found older =>
      rcases older with removed | ⟨carries, older⟩
      · exact absurd removed (live record found)
      · exact absurd (sound.newer found (live record found) checked carries) (not_lt.mpr older)
    | superseded record found live newer =>
      refine ⟨supersede (s.nextOperation key content) record, ?_, rfl⟩
      simp only [lookupRecord] at found ⊢
      rw [Keyed.lookup_update (f := supersede (s.nextOperation key content)) fun _ => rfl]
      exact (if_pos rfl).trans (congrArg _ found)
    | pushed absent room =>
      refine ⟨(s.nextOperation key content).fresh, ?_, rfl⟩
      simp only [lookupRecord] at absent ⊢
      rw [Keyed.lookup_append]
      have none : Keyed.lookup NotificationRecord.key key s.records = none := absent
      rw [none, Option.none_or, Keyed.lookup_singleton]
      exact if_pos rfl
  | pended replica unseen checked room =>
    have others : ∀ queued ∈ s.pending.filter (fun queued => queued.key ≠ key),
        queued.key ≠ key := by
      intro queued member
      simpa using (List.mem_filter.mp member).2
    let next : Store := { s with
      sequence := s.sequence + 1
      pending := (s.pending.filter fun queued => queued.key ≠ key) ++
        [s.nextOperation key content] }
    let before := next.overlayAll s.localIdentity
      (s.pending.filter fun queued => queued.key ≠ key)
    have grown : before.records.length ≤
        s.records.length + (s.pending.filter fun queued => queued.key ≠ key).length :=
      length_overlayAll_le _ next
    have kept : lookupRecord key before.records = lookupRecord key s.records :=
      lookup_overlayAll_other others next
    have last := lookup_overlay_self checked before
    have own : (s.nextOperation key content).key = key := rfl
    have viewed : next.view = (before.overlay s.localIdentity (s.nextOperation key content)).records := by
      rw [view_eq]
      simp only [next, before, overlayAll, List.foldl_append, List.foldl_cons, List.foldl_nil]
    rw [own, kept, if_pos (grown.trans_lt room), ← viewed] at last
    show ∃ record, lookupRecord key next.view = some record ∧ record.content = content
    cases current : lookupRecord key s.records with
    | none =>
      rw [current] at last
      exact ⟨_, last, rfl⟩
    | some record =>
      rw [current] at last
      exact ⟨_, last, land_content (live record current)
        (sound.newer current (live record current) checked)⟩

/-- The same call again changes nothing. -/
theorem queueLocal_again (queued : s.queueLocal key content coordinator = .ok (true, t))
    (sound : s.Sound) (idle : coordinator = true → s.pending = []) :
    t.queueLocal key content coordinator = .ok (false, t) := by
  obtain ⟨record, found, same⟩ := queueLocal_shown queued sound idle
  unfold queueLocal
  rw [found]
  simp [same]

end Store

end EdgeKvm.Notification
