import EdgeKvm.Notification.Hub
import EdgeKvm.Notification.Progress

/-!
# What a replica's store shows and keeps

The view of a replica lays its pending operations over records that snapshots replace. A key is
terminal in a store when the records have it removed or a removal of it is pending; that is what
the view shows as removed, and no local operation can take it back. `Store.Advanced` collects
what every commit of a replica keeps.
-/

namespace EdgeKvm.Notification

open EdgeKvm.Lib

namespace Store

/-- The pending operations of a replica: numbered upwards, one for each key, and checked. -/
structure Outbox (s : Store) : Prop where
  numbered : ∀ operation ∈ s.pending, operation.sequence ≤ s.sequence
  ascending : s.pending.Pairwise fun a b => a.sequence < b.sequence
  keys : s.pending.Pairwise fun a b => a.key ≠ b.key
  checked : ∀ operation ∈ s.pending, checkOperation s.localIdentity operation = .ok ()

variable {s s' t u : Store} {operation : NotificationOperation} {key : NotificationKey}
  {content : Option SharedNotification} {changed : Bool} {sender : String}

theorem Outbox.sequences (outbox : s.Outbox) :
    s.pending.Pairwise fun a b => a.sequence ≠ b.sequence :=
  outbox.ascending.imp fun less => less.ne

/-- Dropping pending operations and renewing the records keeps the outbox. -/
theorem Outbox.retain (outbox : s.Outbox) (p : NotificationOperation → Bool)
    (pending : t.pending = s.pending.filter p) (sequence : t.sequence = s.sequence)
    (identity : t.localIdentity = s.localIdentity) : t.Outbox := by
  refine ⟨?_, ?_, ?_, ?_⟩
  · intro operation member
    rw [pending] at member
    rw [sequence]
    exact outbox.numbered operation (List.mem_of_mem_filter member)
  · rw [pending]
    exact outbox.ascending.filter p
  · rw [pending]
    exact outbox.keys.filter p
  · intro operation member
    rw [pending] at member
    rw [identity]
    exact outbox.checked operation (List.mem_of_mem_filter member)

/-! ## The overlay -/

/-- What the overlay of one checked operation does. -/
theorem overlay_cases (checked : checkOperation sender operation = .ok ()) (s : Store) :
    (∃ changed, Applied s operation changed (s.overlay sender operation)) ∨
      s.overlay sender operation = s ∧ lookupRecord operation.key s.records = none ∧
        maxRecords ≤ s.records.length := by
  unfold overlay
  cases applied : s.apply sender operation with
  | ok result => exact .inl ⟨result.1, (apply_cases applied).2⟩
  | error error =>
    refine .inr ⟨rfl, ?_⟩
    simp only [apply, checked] at applied
    cases found : lookupRecord operation.key s.records with
    | none =>
      refine ⟨rfl, ?_⟩
      by_contra room
      rw [not_le] at room
      simp [found, ensure, room, bind, Except.bind, pure, Except.pure] at applied
    | some record =>
      simp only [found, bind, Except.bind, pure, Except.pure] at applied
      split at applied
      · simp at applied
      · split at applied <;> simp at applied

theorem Applied.identity (applied : Applied s operation changed s') :
    s'.localIdentity = s.localIdentity := by
  rw [applied.eq_records]

/-- No two records of one key. -/
def Distinct (s : Store) : Prop := s.records.Pairwise fun a b => a.key ≠ b.key

theorem Applied.distinct (applied : Applied s operation changed s') (distinct : s.Distinct) :
    s'.Distinct := by
  cases applied with
  | stale => exact distinct
  | superseded => exact Keyed.pairwise_update (fun _ => rfl) distinct
  | pushed absent room =>
    refine List.pairwise_append.mpr ⟨distinct, List.pairwise_singleton .., ?_⟩
    intro record member pushed new
    rw [List.mem_singleton.mp new]
    exact Keyed.lookup_eq_none.mp absent record member

theorem overlay_distinct (distinct : s.Distinct) : (s.overlay sender operation).Distinct := by
  unfold overlay
  cases applied : s.apply sender operation with
  | error error => exact distinct
  | ok result => exact (apply_cases applied).2.distinct distinct

theorem Applied.length_le (applied : Applied s operation changed s') :
    s'.records.length ≤ s.records.length + 1 := by
  cases applied with
  | stale => omega
  | superseded => simp
  | pushed => simp

theorem progress_le_overlay (s : Store) :
    progress s.records ≤ progress (s.overlay sender operation).records := by
  unfold overlay
  cases applied : s.apply sender operation with
  | error error => exact le_refl _
  | ok result =>
    rw [(apply_cases applied).2.progress_eq]
    exact le_sup_left

theorem overlay_le_progress (sender : String) (operation : NotificationOperation) (s : Store) :
    progress (s.overlay sender operation).records ≤ progress s.records ⊔ operation.progress := by
  unfold overlay
  cases applied : s.apply sender operation with
  | error error => exact le_sup_left
  | ok result => exact (apply_cases applied).2.progress_eq.le

theorem length_overlay_le (s : Store) :
    (s.overlay sender operation).records.length ≤ s.records.length + 1 := by
  unfold overlay
  cases applied : s.apply sender operation with
  | error error => exact Nat.le_succ _
  | ok result => exact (apply_cases applied).2.length_le

/-- The operations laid over the records one after the other. -/
def overlayAll (sender : String) (s : Store) (operations : List NotificationOperation) : Store :=
  operations.foldl (fun overlaid operation => overlaid.overlay sender operation) s

theorem view_eq (s : Store) : s.view = (s.overlayAll s.localIdentity s.pending).records := rfl

theorem progress_le_overlayAll (sender : String) (operations : List NotificationOperation)
    (s : Store) :
    progress s.records ≤ progress (s.overlayAll sender operations).records := by
  induction operations generalizing s with
  | nil => exact le_refl _
  | cons operation operations ih => exact (progress_le_overlay s).trans (ih _)

theorem length_overlayAll_le (operations : List NotificationOperation) (s : Store) :
    (s.overlayAll sender operations).records.length ≤ s.records.length + operations.length := by
  induction operations generalizing s with
  | nil => exact le_refl _
  | cons operation operations ih =>
    have first : (s.overlay sender operation).records.length ≤ s.records.length + 1 :=
      length_overlay_le s
    have rest := ih (s.overlay sender operation)
    simp only [overlayAll, List.foldl_cons, List.length_cons] at rest ⊢
    omega

theorem overlayAll_distinct (operations : List NotificationOperation) (distinct : s.Distinct) :
    (s.overlayAll sender operations).Distinct := by
  induction operations generalizing s with
  | nil => exact distinct
  | cons operation operations ih => exact ih (overlay_distinct distinct)

/-- Other keys stay as they are. -/
theorem progress_overlayAll_other {operations : List NotificationOperation}
    (other : ∀ operation ∈ operations, operation.key ≠ key) (s : Store) :
    progress (s.overlayAll sender operations).records key = progress s.records key := by
  induction operations generalizing s with
  | nil => rfl
  | cons operation operations ih =>
    obtain ⟨apart, rest⟩ := List.forall_mem_cons.mp other
    have upper := overlay_le_progress sender operation s key
    rw [Pi.sup_apply, NotificationOperation.progress_other (Ne.symm apart), sup_bot_eq] at upper
    have same : progress (s.overlay sender operation).records key = progress s.records key :=
      le_antisymm upper (progress_le_overlay s key)
    exact (ih rest _).trans same

/-- A removal comes from the records or from one of the operations. -/
theorem removed_of_overlayAll {operations : List NotificationOperation} {s : Store}
    (removed : progress (s.overlayAll sender operations).records key = ⊤) :
    progress s.records key = ⊤ ∨
      ∃ operation ∈ operations, operation.key = key ∧ operation.content = none := by
  induction operations generalizing s with
  | nil => exact .inl removed
  | cons operation operations ih =>
    rcases ih removed with early | ⟨later, member, hits⟩
    · have upper := overlay_le_progress sender operation s key
      rw [early, top_le_iff, Pi.sup_apply] at upper
      rcases max_eq_top.mp upper with before | now
      · exact .inl before
      · refine .inr ⟨operation, List.mem_cons_self .., ?_⟩
        by_cases same : key = operation.key
        · subst same
          rw [NotificationOperation.progress_self, rank_eq_top] at now
          exact ⟨rfl, now⟩
        · rw [NotificationOperation.progress_other same] at now
          exact absurd now bot_ne_top
    · exact .inr ⟨later, List.mem_cons_of_mem _ member, hits⟩

/-! ## Terminal keys -/

/-- The key is removed in the records, or its removal is pending. -/
def Terminal (s : Store) (key : NotificationKey) : Prop :=
  progress s.records key = ⊤ ∨ ∃ operation ∈ s.pending,
    operation.key = key ∧ operation.content = none

/-- The view of a key with a pending removal: the removal, or nothing when the store is full. -/
theorem view_of_pending_removal (outbox : s.Outbox) (pending : operation ∈ s.pending)
    (removal : operation.content = none) :
    progress s.view operation.key = ⊤ ∨ progress s.view operation.key = ⊥ ∧
      maxRecords ≤ s.records.length +
        (s.pending.filter fun queued => queued.key ≠ operation.key).length := by
  obtain ⟨before, after, split⟩ := List.append_of_mem pending
  have keys := outbox.keys
  rw [split, List.pairwise_append, List.pairwise_cons] at keys
  obtain ⟨-, ⟨apartAfter, -⟩, apartBefore⟩ := keys
  have others : ∀ later ∈ after, later.key ≠ operation.key := fun later member =>
    (apartAfter later member).symm
  have earlier : ∀ first ∈ before, first.key ≠ operation.key := fun first member =>
    apartBefore first member operation (List.mem_cons_self ..)
  let mid := s.overlayAll s.localIdentity before
  have viewed : progress s.view operation.key =
      progress (mid.overlay s.localIdentity operation).records operation.key := by
    rw [view_eq, split]
    simp only [overlayAll, List.foldl_append, List.foldl_cons]
    exact progress_overlayAll_other others _
  rw [viewed]
  rcases overlay_cases (outbox.checked operation pending) mid with ⟨_, applied⟩ | ⟨same, absent, full⟩
  · left
    rw [applied.progress_eq, Pi.sup_apply, NotificationOperation.progress_self, removal,
      rank_none, sup_top_eq]
  · right
    refine ⟨by rw [same, progress_of_absent absent], full.trans ?_⟩
    have kept : (s.pending.filter fun queued => queued.key ≠ operation.key) = before ++ after := by
      rw [split, List.filter_append, List.filter_cons_of_neg (by simp),
        List.filter_eq_self.mpr (by simpa using earlier),
        List.filter_eq_self.mpr (by simpa using others)]
    have grown : mid.records.length ≤ s.records.length + before.length :=
      length_overlayAll_le before s
    rw [kept, List.length_append]
    omega

theorem terminal_of_view {record : NotificationRecord}
    (found : lookupRecord key s.view = some record) (removed : record.content = none) :
    s.Terminal key := by
  have top : progress s.view key = ⊤ := progress_eq_top.mpr ⟨record, found, removed⟩
  exact removed_of_overlayAll top

/-- The view never shows content for a terminal key. -/
theorem Terminal.view (outbox : s.Outbox) (terminal : s.Terminal key)
    {record : NotificationRecord} (found : lookupRecord key s.view = some record) :
    record.content = none := by
  have shown : progress s.view key = ⊤ := by
    rcases terminal with removed | ⟨operation, pending, rfl, removal⟩
    · exact top_le_iff.mp (removed.symm.le.trans (progress_le_overlayAll _ s.pending s key))
    · rcases view_of_pending_removal outbox pending removal with top | ⟨bottom, -⟩
      · exact top
      · rw [progress_of_lookup found] at bottom
        exact absurd bottom rank_ne_bot
  rw [progress_of_lookup found, rank_eq_top] at shown
  exact shown

/-- A replica queues no operation for a terminal key: the view shows the removal, or the outbox
    is full. -/
theorem Terminal.refused (outbox : s.Outbox) (terminal : s.Terminal key)
    (fresh : ∀ record, lookupRecord key s.view = some record → record.content ≠ none) :
    maxRecords ≤ s.records.length +
      (s.pending.filter fun queued => queued.key ≠ key).length := by
  have unseen : progress s.view key ≠ ⊤ := by
    intro top
    obtain ⟨record, found, removed⟩ := progress_eq_top.mp top
    exact fresh record found removed
  rcases terminal with removed | ⟨operation, pending, rfl, removal⟩
  · have seen := progress_le_overlayAll s.localIdentity s.pending s key
    rw [removed, top_le_iff] at seen
    exact absurd seen unseen
  · rcases view_of_pending_removal outbox pending removal with top | ⟨-, full⟩
    · exact absurd top unseen
    · exact full

/-! ## Local operations of a replica -/

/-- A later operation on the same key, which says at least as much. -/
structure Supersedes (later operation : NotificationOperation) : Prop where
  key : later.key = operation.key
  newer : operation.sequence < later.sequence
  progress : operation.progress ≤ later.progress

theorem Supersedes.trans {first second third : NotificationOperation}
    (last : Supersedes third second) (next : Supersedes second first) :
    Supersedes third first :=
  ⟨last.key.trans next.key, next.newer.trans last.newer, next.progress.trans last.progress⟩

/-- What local operations of a replica leave behind. -/
structure Extended (s t : Store) : Prop where
  records : t.records = s.records
  epoch : t.epoch = s.epoch
  identity : t.localIdentity = s.localIdentity
  sequence : s.sequence ≤ t.sequence
  added : ∀ operation ∈ t.pending, operation ∈ s.pending ∨ s.sequence < operation.sequence
  kept : ∀ operation ∈ s.pending, operation ∈ t.pending ∨
    ∃ later ∈ t.pending, Supersedes later operation
  terminal : ∀ key, s.Terminal key → t.Terminal key
  outbox : t.Outbox

theorem Extended.refl (outbox : s.Outbox) : Extended s s :=
  ⟨rfl, rfl, rfl, le_refl _, fun _ => .inl, fun _ => .inl, fun _ => id, outbox⟩

theorem Extended.trans (first : Extended s t) (second : Extended t u) : Extended s u where
  records := second.records.trans first.records
  epoch := second.epoch.trans first.epoch
  identity := second.identity.trans first.identity
  sequence := first.sequence.trans second.sequence
  added := by
    intro operation member
    rcases second.added operation member with old | new
    · exact first.added operation old
    · exact .inr (lt_of_le_of_lt first.sequence new)
  kept := by
    intro operation member
    rcases first.kept operation member with old | ⟨later, new, supersedes⟩
    · exact second.kept operation old
    · rcases second.kept later new with stays | ⟨last, newer, supersedes'⟩
      · exact .inr ⟨later, stays, supersedes⟩
      · exact .inr ⟨last, newer, supersedes'.trans supersedes⟩
  terminal := fun key terminal => second.terminal key (first.terminal key terminal)
  outbox := second.outbox

theorem Queued.extended (queued : Queued s key content false changed s') (outbox : s.Outbox) :
    Extended s s' := by
  cases queued with
  | repeated record found same => exact .refl outbox
  | committed commits => cases commits
  | pended replica fresh checked room =>
    have below : ∀ operation ∈ s.pending, operation.sequence < s.sequence + 1 :=
      fun operation member => Nat.lt_succ_of_le (outbox.numbered operation member)
    refine ⟨rfl, rfl, rfl, Nat.le_succ _, ?_, ?_, ?_, ?_⟩
    · intro operation member
      rcases List.mem_append.mp member with old | new
      · exact .inl (List.mem_of_mem_filter old)
      · rw [List.mem_singleton.mp new]
        exact .inr (Nat.lt_succ_self _)
    · intro operation member
      by_cases same : operation.key = key
      · subst same
        have live : operation.content ≠ none := by
          intro removal
          have terminal : s.Terminal operation.key := .inr ⟨operation, member, rfl, removal⟩
          exact absurd (terminal.refused outbox fresh) (not_le.mpr room)
        refine .inr ⟨s.nextOperation operation.key content,
          List.mem_append_right _ (List.mem_singleton_self _), rfl, below operation member, ?_⟩
        have own : (s.nextOperation operation.key content).progress operation.key =
            rank (s.sequence + 1) content :=
          (s.nextOperation operation.key content).progress_self
        rw [NotificationOperation.progress_le, own]
        exact rank_le_rank live (below operation member).le
      · exact .inl (List.mem_append_left _ (List.mem_filter.mpr ⟨member, by simpa using same⟩))
    · intro key' terminal
      have apart : key' ≠ key := by
        rintro rfl
        exact absurd (terminal.refused outbox fresh) (not_le.mpr room)
      rcases terminal with removed | ⟨operation, member, rfl, removal⟩
      · exact .inl removed
      · exact .inr ⟨operation, List.mem_append_left _
          (List.mem_filter.mpr ⟨member, by simpa using apart⟩), rfl, removal⟩
    · refine ⟨?_, ?_, ?_, ?_⟩
      · intro operation member
        rcases List.mem_append.mp member with old | new
        · exact (below operation (List.mem_of_mem_filter old)).le
        · exact (congrArg _ (List.mem_singleton.mp new)).le
      · refine List.pairwise_append.mpr ⟨outbox.ascending.filter _, List.pairwise_singleton .., ?_⟩
        intro first old last new
        rw [List.mem_singleton.mp new]
        exact below first (List.mem_of_mem_filter old)
      · refine List.pairwise_append.mpr ⟨outbox.keys.filter _, List.pairwise_singleton .., ?_⟩
        intro first old last new
        rw [List.mem_singleton.mp new]
        simpa [nextOperation] using (List.mem_filter.mp old).2
      · intro operation member
        rcases List.mem_append.mp member with old | new
        · exact outbox.checked operation (List.mem_of_mem_filter old)
        · rw [List.mem_singleton.mp new]
          exact checked

/-! ## Commits of a replica -/

/-- What every commit of a replica keeps, `covered` being what the coordinator has stored. -/
structure Advanced (covered : Progress) (s t : Store) : Prop where
  identity : t.localIdentity = s.localIdentity
  sequence : s.sequence ≤ t.sequence
  records : progress s.records ≤ progress t.records
  bounded : progress t.records ≤ covered
  kept : ∀ operation ∈ s.pending, operation ∈ t.pending ∨
    (∃ later ∈ t.pending, Supersedes later operation) ∨ operation.progress ≤ covered
  terminal : ∀ key, s.Terminal key → t.Terminal key
  outbox : t.Outbox
  distinct : t.Distinct

theorem Extended.advanced {covered : Progress} (extended : Extended s t)
    (bounded : progress s.records ≤ covered) (distinct : s.Distinct) :
    Advanced covered s t where
  identity := extended.identity
  sequence := extended.sequence
  records := (congrArg progress extended.records).symm.le
  bounded := (congrArg progress extended.records).le.trans bounded
  kept := fun operation member => (extended.kept operation member).imp_right .inl
  terminal := extended.terminal
  outbox := extended.outbox
  distinct := by
    rw [Distinct, extended.records]
    exact distinct

/-- An acknowledged operation leaves the outbox and enters the records. -/
theorem Applied.acknowledged {covered : Progress} {sequence : Nat} (outbox : s.Outbox)
    (found : Keyed.lookup NotificationOperation.sequence sequence s.pending = some operation)
    (applied : Applied { s with
      pending := s.pending.filter fun queued => queued.sequence ≠ sequence } operation changed t)
    (bounded : progress s.records ≤ covered) (distinct : s.Distinct)
    (contained : operation.progress ≤ covered) : Advanced covered s t := by
  have records : progress t.records = progress s.records ⊔ operation.progress := applied.progress_eq
  have pending : t.pending = s.pending.filter fun queued => queued.sequence ≠ sequence := by
    rw [applied.eq_records]
  have only : ∀ queued ∈ s.pending, queued.sequence = sequence → queued = operation :=
    fun queued member same => Keyed.eq_of_key outbox.sequences member
      (Keyed.mem_of_lookup found) (same.trans (Keyed.key_of_lookup found).symm)
  refine ⟨by rw [applied.eq_records], by rw [applied.eq_records], ?_, ?_, ?_, ?_, ?_,
    applied.distinct distinct⟩
  · rw [records]
    exact le_sup_left
  · rw [records]
    exact sup_le bounded contained
  · intro queued member
    by_cases same : queued.sequence = sequence
    · rw [only queued member same]
      exact .inr (.inr contained)
    · refine .inl ?_
      rw [pending]
      exact List.mem_filter.mpr ⟨member, by simpa using same⟩
  · rintro key (removed | ⟨queued, member, rfl, removal⟩)
    · left
      rw [records, Pi.sup_apply, removed, top_sup_eq]
    · by_cases same : queued.sequence = sequence
      · left
        rw [records, Pi.sup_apply, only queued member same,
          NotificationOperation.progress_self, ← only queued member same, removal, rank_none,
          sup_top_eq]
      · refine .inr ⟨queued, ?_, rfl, removal⟩
        rw [pending]
        exact List.mem_filter.mpr ⟨member, by simpa using same⟩
  · exact outbox.retain _ pending (by rw [applied.eq_records]) (by rw [applied.eq_records])

/-- A snapshot renews the records. -/
theorem Advanced.snapshot {covered : Progress} (outbox : s.Outbox) {epoch : String}
    {records : List NotificationRecord} (above : progress s.records ≤ progress records)
    (bounded : progress records ≤ covered)
    (distinct : records.Pairwise fun a b => a.key ≠ b.key) :
    Advanced covered s { s with epoch, records } where
  identity := rfl
  sequence := le_refl _
  records := above
  bounded := bounded
  kept := fun _ => .inl
  terminal := by
    rintro key (removed | pending)
    · exact .inl (top_le_iff.mp (removed.symm.le.trans (above key)))
    · exact .inr pending
  outbox := ⟨outbox.numbered, outbox.ascending, outbox.keys, outbox.checked⟩
  distinct := distinct

end Store

end EdgeKvm.Notification
