import Mathlib.Data.List.Basic

/-!
# Lists of keyed entries

A list used as a table: an entry is looked up and updated by the key a function reads off it,
the first entry with the key counting, and new entries are pushed at the end.
-/

namespace EdgeKvm.Lib.Keyed

universe u v

variable {α : Type u} {κ : Type v} [DecidableEq κ] (key : α → κ)

/-- The first entry with key `k`. -/
def lookup (k : κ) (l : List α) : Option α := l.find? fun a => key a = k

/-- Applies `f` to the first entry with key `k`. -/
def update (k : κ) (f : α → α) : List α → List α
  | [] => []
  | a :: l => if key a = k then f a :: l else a :: update k f l

variable {key} {k k' : κ} {f : α → α} {l : List α} {a : α}

theorem key_of_lookup (found : lookup key k l = some a) : key a = k := by
  simpa using List.find?_some found

theorem mem_of_lookup (found : lookup key k l = some a) : a ∈ l :=
  List.mem_of_find?_eq_some found

theorem lookup_eq_none : lookup key k l = none ↔ ∀ a ∈ l, key a ≠ k := by
  simp [lookup]

theorem lookup_append (l' : List α) :
    lookup key k (l ++ l') = (lookup key k l).or (lookup key k l') := List.find?_append

theorem lookup_singleton : lookup key k [a] = if key a = k then some a else none := by
  by_cases same : key a = k <;> simp [lookup, same]

/-- An update keeps the keys when `f` does. -/
theorem lookup_update (keeps : ∀ a, key (f a) = key a) :
    lookup key k' (update key k f l) =
      if k' = k then (lookup key k l).map f else lookup key k' l := by
  induction l with
  | nil => simp [lookup, update]
  | cons b l ih =>
    by_cases hb : key b = k
    · by_cases hk : k' = k
      · subst hk
        simp [update, lookup, hb, keeps]
      · have other : key b ≠ k' := by
          intro same
          exact hk (same.symm.trans hb)
        simp [update, lookup, hb, hk, keeps, Ne.symm hk]
    · by_cases hb' : key b = k'
      · have other : k' ≠ k := fun same => hb (hb'.trans same)
        simp [update, lookup, hb', other]
      · simp only [update, hb, if_false, lookup, List.find?_cons, hb', decide_false]
        exact ih

/-- An entry is found by its key when no two keys agree. -/
theorem lookup_of_mem (distinct : l.Pairwise fun a b => key a ≠ key b) (member : a ∈ l) :
    lookup key (key a) l = some a := by
  induction l with
  | nil => simp at member
  | cons b l ih =>
    obtain ⟨apart, rest⟩ := List.pairwise_cons.mp distinct
    rcases List.mem_cons.mp member with rfl | later
    · simp [lookup]
    · simp only [lookup, List.find?_cons, apart a later, decide_false]
      exact ih rest later

theorem eq_of_key (distinct : l.Pairwise fun a b => key a ≠ key b) {b : α} (first : a ∈ l)
    (second : b ∈ l) (same : key a = key b) : a = b := by
  have found := lookup_of_mem distinct first
  rw [same, lookup_of_mem distinct second] at found
  exact (Option.some.inj found).symm

theorem mem_update {b : α} (member : b ∈ update key k f l) :
    b ∈ l ∨ ∃ a ∈ l, key a = k ∧ b = f a := by
  induction l with
  | nil => simp [update] at member
  | cons c l ih =>
    by_cases hit : key c = k
    · simp only [update, hit, if_true, List.mem_cons] at member
      rcases member with rfl | later
      · exact .inr ⟨c, List.mem_cons_self .., hit, rfl⟩
      · exact .inl (List.mem_cons_of_mem _ later)
    · simp only [update, hit, if_false, List.mem_cons] at member
      rcases member with rfl | later
      · exact .inl (List.mem_cons_self ..)
      · rcases ih later with old | ⟨a, old, same, rfl⟩
        · exact .inl (List.mem_cons_of_mem _ old)
        · exact .inr ⟨a, List.mem_cons_of_mem _ old, same, rfl⟩

/-- An update that keeps the keys keeps them distinct. -/
theorem pairwise_update (keeps : ∀ a, key (f a) = key a)
    (distinct : l.Pairwise fun a b => key a ≠ key b) :
    (update key k f l).Pairwise fun a b => key a ≠ key b := by
  induction l with
  | nil => exact .nil
  | cons c l ih =>
    obtain ⟨apart, rest⟩ := List.pairwise_cons.mp distinct
    by_cases hit : key c = k
    · simp only [update, hit, if_true]
      refine List.pairwise_cons.mpr ⟨fun b member => ?_, rest⟩
      rw [keeps]
      exact apart b member
    · simp only [update, hit, if_false]
      refine List.pairwise_cons.mpr ⟨fun b member => ?_, ih rest⟩
      rcases mem_update member with old | ⟨a, old, -, rfl⟩
      · exact apart b old
      · rw [keeps]
        exact apart a old

@[simp] theorem length_update : (update key k f l).length = l.length := by
  induction l with
  | nil => rfl
  | cons b l ih =>
    by_cases hb : key b = k <;> simp [update, hb, ih]

end EdgeKvm.Lib.Keyed
