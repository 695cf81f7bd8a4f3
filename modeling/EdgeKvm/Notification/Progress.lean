import EdgeKvm.Notification.Store
import Mathlib.Order.WithBot
import Mathlib.Order.Lattice.Nat
import Mathlib.Order.Hom.Bounded
import Mathlib.Data.Nat.Basic
import Mathlib.Order.Basic

/-!
# The history of a key as a lattice

What a store knows about a key is a point of a chain: nothing, live at a source sequence, or
removed for good. A list of records is then a point of a lattice, an operation a step upwards,
and `Store::apply` is the join (`Applied.progress_eq`). This is what the store is for: whatever
order operations arrive in, none is lost and none undoes a removal.
-/

namespace EdgeKvm.Notification

open EdgeKvm.Lib

/-- How far each key has come: `⊥` unknown, a number the source sequence of live content, `⊤`
    removed. -/
abbrev Progress : Type := NotificationKey → WithBot (WithTop ℕ)

/-- The point of the chain a sequence and a content stand for. -/
def rank (sequence : ℕ) (content : Option SharedNotification) : WithBot (WithTop ℕ) :=
  if content = none then ⊤ else WithBot.some (WithTop.some sequence)

/-- What a list of records knows. -/
def progress (records : List NotificationRecord) : Progress := fun key =>
  (lookupRecord key records).elim ⊥ fun record => rank record.sourceSequence record.content

/-- What an operation contributes. -/
def NotificationOperation.progress (operation : NotificationOperation) : Progress :=
  Function.update ⊥ operation.key (rank operation.sequence operation.content)

theorem rank_none (sequence : ℕ) : rank sequence none = ⊤ := rfl

theorem rank_live {content : Option SharedNotification} (sequence : ℕ) (live : content ≠ none) :
    rank sequence content = WithBot.some (WithTop.some sequence) := if_neg live

theorem rank_le_live {sequence sequence' : ℕ} {content content' : Option SharedNotification}
    (live : content' ≠ none) :
    rank sequence content ≤ rank sequence' content' ↔ content ≠ none ∧ sequence ≤ sequence' := by
  rw [rank_live sequence' live]
  by_cases removal : content = none
  · subst removal
    have strict : ¬ (⊤ : WithBot (WithTop ℕ)) ≤ WithBot.some (WithTop.some sequence') := by
      rw [← WithBot.coe_top, WithBot.coe_le_coe, top_le_iff]
      exact WithTop.coe_ne_top
    simp [rank_none]
  · rw [rank_live sequence removal, WithBot.coe_le_coe, WithTop.coe_le_coe]
    simp [removal]

theorem rank_le_rank {sequence sequence' : ℕ} {content content' : Option SharedNotification}
    (live : content ≠ none) (below : sequence ≤ sequence') :
    rank sequence content ≤ rank sequence' content' := by
  by_cases removal : content' = none
  · rw [removal, rank_none]
    exact le_top
  · exact (rank_le_live removal).mpr ⟨live, below⟩

theorem rank_eq_top {sequence : ℕ} {content : Option SharedNotification} :
    rank sequence content = ⊤ ↔ content = none := by
  by_cases removal : content = none
  · simp [removal, rank_none]
  · rw [rank_live sequence removal, ← WithBot.coe_top, WithBot.coe_inj]
    simp [removal]

theorem rank_ne_bot {sequence : ℕ} {content : Option SharedNotification} :
    rank sequence content ≠ ⊥ := by
  by_cases removal : content = none
  · simp [removal, rank_none]
  · simp [rank_live sequence removal]

variable {s s' : Store} {operation : NotificationOperation} {changed : Bool}
  {records : List NotificationRecord} {key : NotificationKey} {record : NotificationRecord}
  {p : Progress}

theorem progress_of_lookup (found : lookupRecord key records = some record) :
    progress records key = rank record.sourceSequence record.content := by
  simp [progress, found]

theorem progress_of_absent (absent : lookupRecord key records = none) :
    progress records key = ⊥ := by
  simp [progress, absent]

theorem progress_eq_top :
    progress records key = ⊤ ↔ ∃ record, lookupRecord key records = some record ∧
      record.content = none := by
  cases found : lookupRecord key records with
  | none => simp [progress_of_absent found]
  | some record => simp [progress_of_lookup found, rank_eq_top]

theorem NotificationOperation.progress_le :
    operation.progress ≤ p ↔ rank operation.sequence operation.content ≤ p operation.key := by
  rw [NotificationOperation.progress, update_le_iff]
  simp

theorem NotificationOperation.progress_self (operation : NotificationOperation) :
    operation.progress operation.key = rank operation.sequence operation.content :=
  Function.update_self ..

theorem NotificationOperation.progress_other (other : key ≠ operation.key) :
    operation.progress key = ⊥ := Function.update_of_ne other ..

/-- `Store::apply` joins the operation to what the store knows. -/
theorem Store.Applied.progress_eq (applied : Store.Applied s operation changed s') :
    progress s'.records = progress s.records ⊔ operation.progress := by
  funext key
  rw [Pi.sup_apply]
  cases applied with
  | stale record found older =>
    symm
    apply sup_of_le_left
    revert key
    rw [← Pi.le_def, NotificationOperation.progress_le, progress_of_lookup found]
    rcases older with removed | ⟨live, older⟩
    · rw [removed, rank_none]
      exact le_top
    · by_cases removed : record.content = none
      · rw [removed, rank_none]
        exact le_top
      · exact (rank_le_live removed).mpr ⟨live, older⟩
  | superseded record found live newer =>
    have keeps : ∀ r, (Store.supersede operation r).key = r.key := fun _ => rfl
    by_cases same : key = operation.key
    · subst same
      have updated : lookupRecord operation.key (Keyed.update NotificationRecord.key operation.key
          (Store.supersede operation) s.records) = some (Store.supersede operation record) := by
        rw [lookupRecord, Keyed.lookup_update keeps, if_pos rfl]
        exact congrArg (Option.map (Store.supersede operation)) found
      rw [progress_of_lookup updated, progress_of_lookup found,
        NotificationOperation.progress_self]
      by_cases removal : operation.content = none
      · simp [Store.supersede, removal, rank_none]
      · have behind : record.sourceSequence < operation.sequence := newer.resolve_left removal
        have below : rank record.sourceSequence record.content ≤
            rank operation.sequence operation.content :=
          (rank_le_live removal).mpr ⟨live, behind.le⟩
        rw [sup_of_le_right below]
        simp [Store.supersede, Option.isSome_iff_ne_none, removal]
    · have kept : lookupRecord key (Keyed.update NotificationRecord.key operation.key
          (Store.supersede operation) s.records) = lookupRecord key s.records := by
        rw [lookupRecord, Keyed.lookup_update keeps, if_neg same]
      simp [progress, kept, NotificationOperation.progress_other same]
  | pushed absent room =>
    by_cases same : key = operation.key
    · subst same
      rw [progress_of_absent absent, NotificationOperation.progress_self, bot_sup_eq]
      simp only [progress, lookupRecord, Keyed.lookup_append, absent, Option.none_or,
        Keyed.lookup_singleton, if_true, Option.elim_some]
    · simp only [progress, lookupRecord, Keyed.lookup_append, Keyed.lookup_singleton,
        Ne.symm same, if_false, Option.or_none, NotificationOperation.progress_other same,
        sup_bot_eq]

/-- An operation the store already contains changes nothing. -/
theorem Store.Applied.eq_of_contained (applied : Store.Applied s operation changed s')
    (contained : operation.progress ≤ progress s.records) : s' = s := by
  rw [NotificationOperation.progress_le] at contained
  cases applied with
  | stale => rfl
  | superseded record found live newer =>
    rw [progress_of_lookup found, rank_le_live live] at contained
    rcases newer with removal | newer
    · exact absurd removal contained.1
    · omega
  | pushed absent room =>
    rw [progress_of_absent absent, le_bot_iff] at contained
    exact absurd contained rank_ne_bot

/-- The store has the operation's key removed, or, when the operation is not itself a removal,
    live at the operation's sequence or a later one. -/
def Store.Covers (s : Store) (operation : NotificationOperation) : Prop :=
  ∃ record, lookupRecord operation.key s.records = some record ∧
    (record.content = none ∨
      operation.content ≠ none ∧ operation.sequence ≤ record.sourceSequence)

theorem Store.covers_of_progress_le (contained : operation.progress ≤ progress s.records) :
    s.Covers operation := by
  rw [NotificationOperation.progress_le] at contained
  cases found : lookupRecord operation.key s.records with
  | none =>
    rw [progress_of_absent found, le_bot_iff] at contained
    exact absurd contained rank_ne_bot
  | some record =>
    refine ⟨record, found, ?_⟩
    by_cases removed : record.content = none
    · exact .inl removed
    · rw [progress_of_lookup found, rank_le_live removed] at contained
      exact .inr contained

end EdgeKvm.Notification
