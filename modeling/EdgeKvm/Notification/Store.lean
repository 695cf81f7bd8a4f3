import EdgeKvm.Notification.Protocol
import EdgeKvm.Lib.Keyed

/-!
# The notification store

`Store` of `notification_hub.rs` with `apply`, `queue_local`, `record` and `view`, and for each
of them one lemma that says everything a successful call did.
-/

namespace EdgeKvm.Notification

open EdgeKvm.Lib

/-- `MAX_RECORDS`. -/
def maxRecords : Nat := 4096

/-- `MAX_PENDING`. -/
def maxPending : Nat := 1024

/-- `PhoneInstance`. -/
structure PhoneInstance where
  instance' : String
  present : Bool
  deriving DecidableEq, Repr

/-- `Store`: the committed records, the operations not yet acknowledged, and the identities of
    phone notifications. The two maps are lists of entries in key order. -/
structure Store where
  coordinator : String := ""
  epoch : String := ""
  localIdentity : String := ""
  sequence : Nat := 0
  records : List NotificationRecord := []
  pending : List NotificationOperation := []
  phoneInstances : List (String × PhoneInstance) := []
  importedPhones : List (String × String) := []
  deriving DecidableEq, Repr

/-- The record of a key in a list of records. -/
abbrev lookupRecord (key : NotificationKey) (records : List NotificationRecord) :
    Option NotificationRecord := Keyed.lookup NotificationRecord.key key records

namespace Store

/-- The checks at the head of `Store::apply`. -/
def checkOperation (sender : String) (operation : NotificationOperation) :
    Except String Unit := do
  validateKey operation.key
  ensure (0 < operation.sequence) "zero notification operation sequence"
  match operation.content with
  | some content =>
    ensure (operation.key.origin = sender) "notification source impersonation"
    validateContent content
  | none => pure ()

/-- The assignment `Store::apply` makes to the record an operation supersedes. -/
def supersede (operation : NotificationOperation) (record : NotificationRecord) :
    NotificationRecord :=
  { record with
    content := operation.content
    sourceSequence :=
      if operation.content.isSome then operation.sequence else record.sourceSequence }

/-- `Store::apply`. -/
def apply (s : Store) (sender : String) (operation : NotificationOperation) :
    Except String (Bool × Store) := do
  checkOperation sender operation
  match lookupRecord operation.key s.records with
  | some record =>
    -- Removal is terminal even if the source reconnects with stale state.
    if record.content.isNone then
      return (false, s)
    if operation.content.isNone ∨ record.sourceSequence < operation.sequence then
      return (true, { s with
        records := Keyed.update NotificationRecord.key operation.key (supersede operation)
          s.records })
    return (false, s)
  | none =>
    ensure (s.records.length < maxRecords) "notification state is full; explicit reset required"
    return (true, { s with
      records := s.records ++
        [{ key := operation.key, sourceSequence := operation.sequence,
           content := operation.content }] })

/-- One step of the overlay in `Store::view`: a refused operation changes nothing. -/
def overlay (s : Store) (sender : String) (operation : NotificationOperation) : Store :=
  match s.apply sender operation with
  | .ok (_, s') => s'
  | .error _ => s

/-- `Store::view`: the records with the pending operations laid over them. -/
def view (s : Store) : List NotificationRecord :=
  (s.pending.foldl (fun overlaid operation => overlaid.overlay s.localIdentity operation)
    s).records

/-- `Store::record`: the entry of one key, with its pending operation laid over it. -/
def record (s : Store) (key : NotificationKey) : Option NotificationRecord :=
  let current := lookupRecord key s.records
  match Keyed.lookup NotificationOperation.key key s.pending with
  | none => current
  | some operation =>
    ((({ records := current.toList } : Store).overlay s.localIdentity operation).records).getLast?

/-- The operation `Store::queue_local` numbers next. -/
def nextOperation (s : Store) (key : NotificationKey) (content : Option SharedNotification) :
    NotificationOperation :=
  { sequence := s.sequence + 1, key, content }

/-- The checks `Store::queue_local` makes on the operation it has numbered. -/
def checkLocal (s : Store) (operation : NotificationOperation) : Except String Unit := do
  validateKey operation.key
  match operation.content with
  | some content =>
    validateContent content
    ensure (operation.key.origin = s.localIdentity) "invalid local origin"
  | none => pure ()

/-- The part of `Store::queue_local` behind its check for repeated inventory. -/
def queueOperation (s : Store) (key : NotificationKey) (content : Option SharedNotification)
    (coordinator : Bool) : Except String (Bool × Store) := do
  ensure (s.sequence + 1 < UInt64.size) "notification sequence exhausted"
  let numbered := { s with sequence := s.sequence + 1 }
  let operation := s.nextOperation key content
  s.checkLocal operation
  if coordinator then
    let (_, applied) ← numbered.apply s.localIdentity operation
    return (true, applied)
  else
    -- Only the newest unsent operation of an instance is kept.
    let pending := s.pending.filter fun queued => queued.key ≠ operation.key
    ensure (pending.length < maxPending ∧ s.records.length + pending.length < maxRecords)
      "notification outbox is full"
    return (true, { numbered with pending := pending ++ [operation] })

/-- `Store::queue_local`. -/
def queueLocal (s : Store) (key : NotificationKey) (content : Option SharedNotification)
    (coordinator : Bool) : Except String (Bool × Store) :=
  -- Repeated inventory, updates, and retries must not allocate new operations.
  if (lookupRecord key s.view).any fun record =>
      record.content.isNone || record.content = content then
    .ok (false, s)
  else
    s.queueOperation key content coordinator

/-! ## What a successful call did -/

variable {s s' : Store} {sender : String} {operation : NotificationOperation} {changed : Bool}
  {key : NotificationKey} {content : Option SharedNotification} {coordinator : Bool}

/-- The outcomes of `Store::apply` that are not errors. -/
inductive Applied (s : Store) (operation : NotificationOperation) : Bool → Store → Prop where
  /-- The record is a removal already, or is at least as new. -/
  | stale (record : NotificationRecord)
      (found : lookupRecord operation.key s.records = some record)
      (older : record.content = none ∨
        operation.content ≠ none ∧ operation.sequence ≤ record.sourceSequence) :
      Applied s operation false s
  /-- The operation supersedes the live record of its key. -/
  | superseded (record : NotificationRecord)
      (found : lookupRecord operation.key s.records = some record)
      (live : record.content ≠ none)
      (newer : operation.content = none ∨ record.sourceSequence < operation.sequence) :
      Applied s operation true { s with
        records := Keyed.update NotificationRecord.key operation.key (supersede operation)
          s.records }
  /-- The key is new. -/
  | pushed (absent : lookupRecord operation.key s.records = none)
      (room : s.records.length < maxRecords) :
      Applied s operation true { s with
        records := s.records ++
          [{ key := operation.key, sourceSequence := operation.sequence,
             content := operation.content }] }

theorem apply_cases (applied : s.apply sender operation = .ok (changed, s')) :
    checkOperation sender operation = .ok ⟨⟩ ∧ Applied s operation changed s' := by
  simp only [apply, bind_eq_ok] at applied
  obtain ⟨⟨⟩, checked, applied⟩ := applied
  refine ⟨checked, ?_⟩
  cases found : lookupRecord operation.key s.records with
  | none =>
    simp only [found, bind_eq_ok, ensure_eq_ok, pure_eq_ok, Prod.mk.injEq] at applied
    obtain ⟨-, room, rfl, rfl⟩ := applied
    exact .pushed found room
  | some record =>
    simp only [found] at applied
    split at applied
    · rename_i removed
      simp only [pure_eq_ok, Prod.mk.injEq] at applied
      obtain ⟨rfl, rfl⟩ := applied
      exact .stale record found (.inl (Option.isNone_iff_eq_none.mp removed))
    · rename_i live
      rw [Option.isNone_iff_eq_none] at live
      split at applied
      · rename_i newer
        simp only [pure_eq_ok, Prod.mk.injEq] at applied
        obtain ⟨rfl, rfl⟩ := applied
        exact .superseded record found live (by simpa using newer)
      · rename_i older
        simp only [pure_eq_ok, Prod.mk.injEq] at applied
        obtain ⟨rfl, rfl⟩ := applied
        simp only [Option.isNone_iff_eq_none, not_or, Nat.not_lt] at older
        exact .stale record found (.inr older)

theorem Applied.eq_of_unchanged (applied : Applied s operation false s') : s' = s := by
  cases applied
  rfl

/-- Only the records change. -/
theorem Applied.eq_records (applied : Applied s operation changed s') :
    s' = { s with records := s'.records } := by
  cases applied <;> rfl

/-- The outcomes of `Store::queue_local` that are not errors. -/
inductive Queued (s : Store) (key : NotificationKey) (content : Option SharedNotification)
    (coordinator : Bool) : Bool → Store → Prop where
  /-- The view shows a removal, or the same content already. -/
  | repeated (record : NotificationRecord) (found : lookupRecord key s.view = some record)
      (same : record.content = none ∨ record.content = content) :
      Queued s key content coordinator false s
  /-- The coordinator commits the operation at once. -/
  | committed {changed : Bool} {s' : Store} (commits : coordinator = true)
      (applied : Applied { s with sequence := s.sequence + 1 } (s.nextOperation key content)
        changed s')
      (checked : checkOperation s.localIdentity (s.nextOperation key content) = .ok ⟨⟩) :
      Queued s key content coordinator true s'
  /-- A replica keeps the operation until it is acknowledged. -/
  | pended (replica : coordinator = false)
      (fresh : ∀ record, lookupRecord key s.view = some record → record.content ≠ none)
      (checked : checkOperation s.localIdentity (s.nextOperation key content) = .ok ⟨⟩)
      (room : s.records.length + (s.pending.filter fun queued => queued.key ≠ key).length <
        maxRecords) :
      Queued s key content coordinator true { s with
        sequence := s.sequence + 1
        pending := (s.pending.filter fun queued => queued.key ≠ key) ++
          [s.nextOperation key content] }

theorem checkOperation_of_checkLocal (positive : 0 < operation.sequence)
    (checked : s.checkLocal operation = .ok ⟨⟩) :
    checkOperation s.localIdentity operation = .ok ⟨⟩ := by
  simp only [checkLocal, checkOperation, bind_eq_ok, ensure_eq_ok] at checked ⊢
  obtain ⟨⟨⟩, validKey, checked⟩ := checked
  refine ⟨⟨⟩, validKey, ⟨⟩, positive, ?_⟩
  cases present : operation.content with
  | none => rfl
  | some content =>
    simp only [present, bind_eq_ok, ensure_eq_ok] at checked ⊢
    obtain ⟨⟨⟩, validContent, origin⟩ := checked
    exact ⟨⟨⟩, origin, validContent⟩

theorem queueLocal_cases (queued : s.queueLocal key content coordinator = .ok (changed, s')) :
    Queued s key content coordinator changed s' := by
  unfold queueLocal at queued
  split at queued
  · rename_i shown
    simp only [Except.ok.injEq, Prod.mk.injEq] at queued
    obtain ⟨rfl, rfl⟩ := queued
    obtain ⟨record, found, same⟩ := (Option.any_eq_true _ _).mp shown
    exact .repeated record found (by simpa using same)
  · rename_i fresh
    simp only [queueOperation, bind_eq_ok, ensure_eq_ok] at queued
    obtain ⟨-, -, ⟨⟩, checked, queued⟩ := queued
    split at queued
    · rename_i commits
      simp only [bind_eq_ok, pure_eq_ok, Prod.mk.injEq] at queued
      obtain ⟨⟨applied, next⟩, executed, rfl, rfl⟩ := queued
      exact .committed commits (apply_cases executed).2 (apply_cases executed).1
    · rename_i replica
      simp only [bind_eq_ok, ensure_eq_ok, pure_eq_ok, Prod.mk.injEq] at queued
      obtain ⟨-, ⟨-, room⟩, rfl, rfl⟩ := queued
      refine .pended (by simpa using replica) ?_ ?_ room
      · intro record found removed
        exact fresh (by simp [found, removed])
      · exact checkOperation_of_checkLocal (Nat.succ_pos _) checked

end Store

end EdgeKvm.Notification
