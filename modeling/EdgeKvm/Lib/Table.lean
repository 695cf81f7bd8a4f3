import Mathlib.Data.List.AList

/-!
# Tables

Maps from keys to values, as association lists without double keys, with the operations that look
at every entry.
-/

namespace EdgeKvm.Lib

universe u v

/-- A map from keys to values. -/
abbrev Table (κ : Type u) (α : Type v) : Type (max u v) := AList fun _ : κ => α

namespace Table

variable {κ : Type u} {α : Type v}

/-- Keeps the entries `p` holds of. -/
def retain (p : κ → α → Bool) (t : Table κ α) : Table κ α where
  entries := t.entries.filter fun entry => p entry.1 entry.2
  nodupKeys := t.nodupKeys.sublist List.filter_sublist

/-- Some value satisfies `p`. -/
def anyValue (p : α → Bool) (t : Table κ α) : Bool := t.entries.any fun entry => p entry.2

/-- How many values satisfy `p`. -/
def countValues (p : α → Bool) (t : Table κ α) : Nat := t.entries.countP fun entry => p entry.2

variable [DecidableEq κ] {t : Table κ α} {k k' : κ} {a b : α} {p : κ → α → Bool}

theorem mem_entries : (⟨k, a⟩ : (_ : κ) × α) ∈ t.entries ↔ t.lookup k = some a := by
  rw [← AList.mem_lookup_iff]
  rfl

theorem lookup_retain_eq_some : (t.retain p).lookup k = some a ↔ t.lookup k = some a ∧ p k a := by
  rw [← mem_entries, ← mem_entries]
  simp [retain]

theorem anyValue_iff {p : α → Bool} :
    t.anyValue p = true ↔ ∃ k a, t.lookup k = some a ∧ p a = true := by
  simp only [anyValue, List.any_eq_true]
  constructor
  · rintro ⟨⟨k, a⟩, member, holds⟩
    exact ⟨k, a, mem_entries.mp member, holds⟩
  · rintro ⟨k, a, found, holds⟩
    exact ⟨⟨k, a⟩, mem_entries.mpr found, holds⟩

theorem lookup_insert_eq_some : (t.insert k a).lookup k' = some b ↔
    k' = k ∧ b = a ∨ k' ≠ k ∧ t.lookup k' = some b := by
  by_cases same : k' = k
  · subst same
    rw [AList.lookup_insert]
    simp [eq_comm]
  · rw [AList.lookup_insert_ne same]
    simp [same]

theorem lookup_erase_eq_some : (t.erase k).lookup k' = some b ↔
    k' ≠ k ∧ t.lookup k' = some b := by
  by_cases same : k' = k
  · subst same
    rw [AList.lookup_erase]
    simp
  · rw [AList.lookup_erase_ne same]
    simp [same]

end Table

end EdgeKvm.Lib
