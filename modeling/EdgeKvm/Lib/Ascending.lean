import Mathlib.Data.List.Basic
import Mathlib.Order.Lattice

/-!
# Ascending lists

Lists that ascend by a key, as an ordered map lists its values. `put` stores a value at its place
and replaces the one with its key.
-/

namespace EdgeKvm.Lib

universe u v

namespace Ascending

variable {α : Type u} {κ : Type v} [LinearOrder κ] (key : α → κ) {a b : α} {l : List α} {k : κ}

/-- Each value has a greater key than those before it. -/
def Ascends (l : List α) : Prop := l.Pairwise fun first second => key first < key second

/-- Stores a value in the place of its key. -/
def put (a : α) : List α → List α
  | [] => [a]
  | b :: l => if key a < key b then a :: b :: l else if key a = key b then a :: l else b :: put a l

/-- The value with this key. -/
def get? (k : κ) (l : List α) : Option α := l.find? fun a => key a = k

/-- Takes the value with this key away. -/
def remove (k : κ) (l : List α) : List α := l.filter fun a => key a ≠ k

variable {key}

theorem Ascends.tail (ascends : Ascends key (a :: l)) : Ascends key l :=
  (List.pairwise_cons.mp ascends).2

/-- A value whose key is taken replaces the other. -/
theorem put_of_taken (ascends : Ascends key l) (taken : ∃ b ∈ l, key b = key a) :
    put key a l = l.map fun b => if key b = key a then a else b := by
  induction l with
  | nil => simp at taken
  | cons b l ih =>
    have above := (List.pairwise_cons.mp ascends).1
    rw [List.map_cons]
    by_cases same : key a = key b
    · have rest : (l.map fun b => if key b = key a then a else b) = l := by
        refine (List.map_congr_left fun c found => ?_).trans (List.map_id l)
        rw [if_neg (by rw [same]; exact (above c found).ne')]
        rfl
      rw [put, if_neg (by rw [same]; exact lt_irrefl _), if_pos same, if_pos same.symm, rest]
    · obtain ⟨c, found, at_c⟩ := taken
      have further : c ∈ l := by
        rcases List.mem_cons.mp found with rfl | further
        · exact absurd at_c.symm same
        · exact further
      have below : ¬ key a < key b := by
        rw [← at_c]
        exact (above c further).not_gt
      rw [put, if_neg below, if_neg same, if_neg (Ne.symm same),
        ih ascends.tail ⟨c, further, at_c⟩]

/-- A value whose key is free is added. -/
theorem put_perm (free : ∀ b ∈ l, key b ≠ key a) : (put key a l).Perm (a :: l) := by
  induction l with
  | nil => exact List.Perm.refl _
  | cons b l ih =>
    rw [put]
    split
    · exact List.Perm.refl _
    · rw [if_neg fun same => free b List.mem_cons_self same.symm]
      refine ((ih fun c found => free c (List.mem_cons_of_mem _ found)).cons b).trans ?_
      exact List.Perm.swap a b l

theorem mem_put (ascends : Ascends key l) : b ∈ put key a l ↔ b = a ∨ (b ∈ l ∧ key b ≠ key a) := by
  by_cases taken : ∃ c ∈ l, key c = key a
  · rw [put_of_taken ascends taken, List.mem_map]
    constructor
    · rintro ⟨c, found, rfl⟩
      split
      · exact .inl rfl
      · exact .inr ⟨found, ‹_›⟩
    · rintro (rfl | ⟨found, other⟩)
      · obtain ⟨c, found, same⟩ := taken
        exact ⟨c, found, if_pos same⟩
      · exact ⟨b, found, if_neg other⟩
  · have free : ∀ c ∈ l, key c ≠ key a := fun c found same => taken ⟨c, found, same⟩
    rw [(put_perm free).mem_iff, List.mem_cons]
    constructor
    · exact Or.imp_right fun found => ⟨found, free b found⟩
    · exact Or.imp_right And.left

theorem Ascends.put (ascends : Ascends key l) : Ascends key (put key a l) := by
  induction l with
  | nil => exact List.pairwise_singleton _ _
  | cons b l ih =>
    have above := (List.pairwise_cons.mp ascends).1
    unfold Ascending.put
    split
    · rename_i below
      refine List.pairwise_cons.mpr ⟨fun c found => ?_, ascends⟩
      rcases List.mem_cons.mp found with rfl | found
      · exact below
      · exact below.trans (above c found)
    · split
      · rename_i same
        exact List.pairwise_cons.mpr ⟨fun c found => same ▸ above c found, ascends.tail⟩
      · rename_i notBelow other
        refine List.pairwise_cons.mpr ⟨fun c found => ?_, ih ascends.tail⟩
        rcases (mem_put ascends.tail).mp found with rfl | ⟨found, -⟩
        · exact lt_of_le_of_ne (not_lt.mp notBelow) (Ne.symm other)
        · exact above c found

theorem Ascends.sublist {l' : List α} (ascends : Ascends key l) (sub : l'.Sublist l) :
    Ascends key l' := List.Pairwise.sublist sub ascends

theorem Ascends.remove (ascends : Ascends key l) : Ascends key (remove key k l) :=
  ascends.sublist List.filter_sublist

/-- The last value has the greatest key. -/
theorem Ascends.le_last (ascends : Ascends key l) (last : l.getLast? = some a) (found : b ∈ l) :
    key b ≤ key a := by
  obtain ⟨before, rfl⟩ := List.getLast?_eq_some_iff.mp last
  rcases List.mem_append.mp found with earlier | same
  · exact ((List.pairwise_append.mp ascends).2.2 b earlier a (by simp)).le
  · rw [List.mem_singleton.mp same]

/-- The first value has the least key. -/
theorem Ascends.head_le (ascends : Ascends key l) (head : l.head? = some a) (found : b ∈ l) :
    key a ≤ key b := by
  obtain ⟨rest, rfl⟩ := List.head?_eq_some_iff.mp head
  rcases List.mem_cons.mp found with rfl | later
  · exact le_refl _
  · exact ((List.pairwise_cons.mp ascends).1 b later).le

theorem key_of_get? (found : get? key k l = some a) : key a = k := by
  simpa using List.find?_some found

/-- A list is the value with a key and the rest. -/
theorem get?_remove (ascends : Ascends key l) :
    ((get? key k l).toList ++ remove key k l).Perm l := by
  induction l with
  | nil => exact List.Perm.refl _
  | cons b l ih =>
    by_cases same : key b = k
    · have rest : remove key k l = l := by
        refine List.filter_eq_self.mpr fun c found => ?_
        have above := (List.pairwise_cons.mp ascends).1 c found
        rw [same] at above
        simpa using above.ne'
      have first : remove key k (b :: l) = remove key k l := by simp [remove, same]
      have taken : get? key k (b :: l) = some b := by simp [get?, same]
      rw [taken, first, rest]
      exact List.Perm.refl _
    · have kept : remove key k (b :: l) = b :: remove key k l := by simp [remove, same]
      have passed : get? key k (b :: l) = get? key k l := by simp [get?, same]
      rw [kept, passed]
      exact List.perm_middle.trans ((ih ascends.tail).cons b)

end Ascending

end EdgeKvm.Lib
