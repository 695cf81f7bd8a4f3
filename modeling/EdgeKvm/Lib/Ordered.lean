import EdgeKvm.Lib.Keyed
import Mathlib.Data.List.Sort

/-!
# Maps in key order

Lists of entries in the order of their keys, with the operations of a sorted map. Membership says
what each operation does; lookups agree with it as long as no key occurs twice.
-/

namespace EdgeKvm.Lib.Ordered

universe u v

variable {κ : Type u} {α : Type v}

/-- No key occurs twice. -/
def Distinct (l : List (κ × α)) : Prop := l.Pairwise fun first second => first.1 ≠ second.1

/-- Replaces each value by what `f` makes of it. -/
def mapValues (f : κ → α → α) (l : List (κ × α)) : List (κ × α) :=
  l.map fun entry => (entry.1, f entry.1 entry.2)

variable {k : κ} {a b : α} {l : List (κ × α)} {entry : κ × α}

theorem mem_mapValues {f : κ → α → α} :
    (k, b) ∈ mapValues f l ↔ ∃ a, (k, a) ∈ l ∧ b = f k a := by
  simp only [mapValues, List.mem_map, Prod.mk.injEq, Prod.exists]
  constructor
  · rintro ⟨_, a, member, rfl, rfl⟩
    exact ⟨a, member, rfl⟩
  · rintro ⟨a, member, rfl⟩
    exact ⟨k, a, member, rfl, rfl⟩

theorem Distinct.filter (distinct : Distinct l) (p : κ × α → Bool) : Distinct (l.filter p) :=
  List.Pairwise.filter p distinct

theorem Distinct.mapValues (distinct : Distinct l) (f : κ → α → α) : Distinct (mapValues f l) := by
  refine List.pairwise_map.mpr ?_
  exact List.Pairwise.imp (fun apart => apart) distinct

section Lookup

variable [DecidableEq κ]

/-- The value of key `k`. -/
def get (k : κ) (l : List (κ × α)) : Option α := (Keyed.lookup Prod.fst k l).map Prod.snd

/-- Drops the entry of key `k`. -/
def remove (k : κ) (l : List (κ × α)) : List (κ × α) := l.filter fun entry => entry.1 ≠ k

theorem mem_remove : entry ∈ remove k l ↔ entry ∈ l ∧ entry.1 ≠ k := by
  simp [remove]

theorem mem_of_get (found : get k l = some a) : (k, a) ∈ l := by
  obtain ⟨⟨k', a'⟩, looked, rfl⟩ := Option.map_eq_some_iff.mp found
  obtain rfl : k' = k := Keyed.key_of_lookup looked
  exact Keyed.mem_of_lookup looked

theorem get_eq_none : get k l = none ↔ ∀ a, (k, a) ∉ l := by
  rw [get, Option.map_eq_none_iff, Keyed.lookup_eq_none]
  constructor
  · intro absent a member
    exact absent (k, a) member rfl
  · rintro absent ⟨k', a⟩ member rfl
    exact absent a member

/-- A key has one value. -/
theorem Distinct.unique (distinct : Distinct l) (first : (k, a) ∈ l) (second : (k, b) ∈ l) :
    a = b := by
  have same : (k, a) = (k, b) := Keyed.eq_of_key distinct first second rfl
  exact (Prod.mk.inj same).2

end Lookup

section Insert

variable [DecidableEq κ] [LT κ] [DecidableLT κ]

/-- Gives key `k` the value `a`. -/
def insert (k : κ) (a : α) (l : List (κ × α)) : List (κ × α) :=
  (remove k l).orderedInsert (fun first second => ¬ second.1 < first.1) (k, a)

theorem mem_insert : entry ∈ insert k a l ↔ entry = (k, a) ∨ entry ∈ l ∧ entry.1 ≠ k := by
  rw [insert, List.mem_orderedInsert, mem_remove]

theorem Distinct.insert (distinct : Distinct l) (k : κ) (a : α) : Distinct (insert k a l) := by
  have symmetric : ∀ first second : κ × α, first.1 ≠ second.1 → second.1 ≠ first.1 :=
    fun _ _ => Ne.symm
  have pushed : Distinct ((k, a) :: remove k l) := by
    refine List.pairwise_cons.mpr ⟨?_, distinct.filter _⟩
    intro entry member
    exact (mem_remove.mp member).2.symm
  exact ((List.perm_orderedInsert _ (k, a) (remove k l)).pairwise_iff
    (fun {first second} => symmetric first second)).mpr pushed

end Insert

/-! ## Sets -/

section Sets

variable [DecidableEq κ] {key : κ} {keys : List κ}

/-- Drops `k` from a sorted set. -/
def removeKey (k : κ) (keys : List κ) : List κ := keys.filter (· ≠ k)

@[simp] theorem mem_removeKey : key ∈ removeKey k keys ↔ key ∈ keys ∧ key ≠ k := by
  simp [removeKey]

theorem nodup_removeKey (distinct : keys.Nodup) : (removeKey k keys).Nodup :=
  List.Nodup.filter _ distinct

theorem removeKey_of_notMem (absent : k ∉ keys) : removeKey k keys = keys := by
  refine List.filter_eq_self.mpr fun key listed => ?_
  exact decide_eq_true fun same => absent (same ▸ listed)

/-- A key that is dropped counted once. -/
theorem countP_removeKey {p : κ → Bool} (distinct : keys.Nodup) (present : k ∈ keys) :
    keys.countP p = (removeKey k keys).countP p + if p k then 1 else 0 := by
  have erased : removeKey k keys = keys.erase k := by
    rw [distinct.erase_eq_filter]
    refine List.filter_congr fun key _ => ?_
    by_cases same : key = k <;> simp [same]
  rw [erased, (List.perm_cons_erase present).countP_eq, List.countP_cons]

variable [LT κ] [DecidableLT κ]

/-- Adds `k` to a sorted set. -/
def insertKey (k : κ) (keys : List κ) : List κ :=
  if k ∈ keys then keys else keys.orderedInsert (fun first second => ¬ second < first) k

@[simp] theorem mem_insertKey : key ∈ insertKey k keys ↔ key = k ∨ key ∈ keys := by
  unfold insertKey
  split
  next present =>
    constructor
    · exact .inr
    · rintro (rfl | listed)
      · exact present
      · exact listed
  next => exact List.mem_orderedInsert _

theorem insertKey_of_mem (present : k ∈ keys) : insertKey k keys = keys := if_pos present

/-- A key that is added counts once. -/
theorem countP_insertKey {p : κ → Bool} (absent : k ∉ keys) :
    (insertKey k keys).countP p = keys.countP p + if p k then 1 else 0 := by
  rw [insertKey, if_neg absent, (List.perm_orderedInsert _ k keys).countP_eq, List.countP_cons]

theorem nodup_insertKey (distinct : keys.Nodup) : (insertKey k keys).Nodup := by
  unfold insertKey
  split
  next => exact distinct
  next absent =>
    exact (List.perm_orderedInsert _ k keys).nodup_iff.mpr (List.nodup_cons.mpr ⟨absent, distinct⟩)

end Sets

end EdgeKvm.Lib.Ordered
