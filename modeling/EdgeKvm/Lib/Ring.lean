import Mathlib.Data.List.Basic
import Mathlib.Data.Nat.ModEq

/-!
# Rings

Cells that hold a window of a sequence. Places of the sequence are counted without bound; a place
is stored in the cell its counter has, which wraps at `wrap`, modulo the number of cells. Where the
window wraps, two of its places may have one cell, unless the number of cells divides `wrap`.
-/

namespace EdgeKvm.Lib

universe u

namespace Ring

variable {α : Type u} {wrap size first last first' last' : Nat} {cells all : List α} {x : α}

/-- The cell of a place. -/
def slot (wrap size place : Nat) : Nat := place % wrap % size

/-- The places of a window have cells of their own. -/
def Apart (wrap size first last : Nat) : Prop :=
  ∀ i j, first ≤ i → i < j → j < last → slot wrap size i ≠ slot wrap size j

instance : Decidable (Apart wrap size first last) :=
  decidable_of_iff (∀ j < last, ∀ i < j, first ≤ i → slot wrap size i ≠ slot wrap size j)
    ⟨fun all i j low less high => all j high i less low,
      fun all j high i less low => all i j low less high⟩

/-- The cells hold the places of the window. -/
def Holds (wrap size : Nat) (cells all : List α) (first last : Nat) : Prop :=
  ∀ i, first ≤ i → i < last → cells[slot wrap size i]? = all[i]?

theorem slot_lt (positive : 0 < size) (place : Nat) : slot wrap size place < size :=
  Nat.mod_lt _ positive

/-- A window within one has its cells apart. -/
theorem Apart.mono (apart : Apart wrap size first last) (low : first ≤ first')
    (high : last' ≤ last) : Apart wrap size first' last' :=
  fun i j above less below => apart i j (low.trans above) less (lt_of_lt_of_le below high)

/-- Two places with one cell, on one side of the wrap, are as many apart as there are cells. -/
theorem slot_ne_of_same_lap {i j : Nat} (less : i < j) (near : j < i + size)
    (lap : i / wrap = j / wrap) : slot wrap size i ≠ slot wrap size j := by
  intro same
  have low := Nat.div_add_mod i wrap
  have high := Nat.div_add_mod j wrap
  rw [← lap] at high
  have ordered : i % wrap < j % wrap := by omega
  have multiple : size ∣ j % wrap - i % wrap := (Nat.modEq_iff_dvd' ordered.le).mp same
  have far := Nat.le_of_dvd (Nat.sub_pos_of_lt ordered) multiple
  omega

/-- A place before the wrap and one behind it have one cell when their distance and the wrap
    are the same, up to laps of the cells. -/
theorem slot_eq_iff_of_next_lap {i j : Nat} (lap : i / wrap + 1 = j / wrap) (less : i < j) :
    slot wrap size i = slot wrap size j ↔ j - i ≡ wrap [MOD size] := by
  have low := Nat.div_add_mod i wrap
  have high := Nat.div_add_mod j wrap
  rw [← lap, Nat.mul_add, Nat.mul_one] at high
  have distance : j - i + i % wrap = j % wrap + wrap := by omega
  show i % wrap ≡ j % wrap [MOD size] ↔ _
  constructor
  · intro same
    apply Nat.ModEq.add_right_cancel (same.trans rfl)
    rw [distance, Nat.add_comm]
  · intro same
    have moved := same.add_right (i % wrap)
    rw [distance, Nat.add_comm (j % wrap)] at moved
    exact (Nat.ModEq.add_left_cancel' wrap moved).symm

/-- The places of a window of at most as many places as there are cells have cells of their own
    when the number of cells divides the wrap, when the counter does not wrap within the window,
    and when the window is shorter than what the last lap before the wrap takes; never else. -/
theorem apart_iff (positive : 0 < size) (fits : size ≤ wrap) (ordered : first ≤ last)
    (window : last ≤ first + size) : Apart wrap size first last ↔
      wrap % size = 0 ∨ first % wrap + (last - first) ≤ wrap ∨ last - first ≤ wrap % size := by
  have whole := Nat.div_add_mod first wrap
  have room : 0 < wrap := by omega
  have partly := Nat.mod_lt first room
  have rest := Nat.mod_lt wrap positive
  constructor
  · intro apart
    by_contra other
    simp only [not_or, not_le] at other
    obtain ⟨uneven, wraps, long⟩ := other
    have lastLap := Nat.mod_le wrap size
    -- The first place whose cell is also that of a place behind the wrap.
    obtain ⟨i, chosen⟩ : ∃ i, i = max first (wrap * (first / wrap) + (wrap - wrap % size)) :=
      ⟨_, rfl⟩
    have lap : i / wrap = first / wrap := by
      apply Nat.div_eq_of_lt_le
      · rw [Nat.mul_comm]; omega
      · rw [Nat.add_mul, Nat.mul_comm (first / wrap)]; omega
    have nextLap : (i + wrap % size) / wrap = first / wrap + 1 := by
      apply Nat.div_eq_of_lt_le
      · rw [Nat.add_mul, Nat.mul_comm (first / wrap)]; omega
      · rw [Nat.add_mul, Nat.add_mul, Nat.mul_comm (first / wrap)]; omega
    refine apart i (i + wrap % size) (by omega) (by omega) (by omega) ?_
    rw [slot_eq_iff_of_next_lap (by rw [lap, nextLap]) (by omega), Nat.add_sub_cancel_left]
    exact Nat.mod_modEq wrap size
  · intro cases i j low less high
    by_cases lap : i / wrap = j / wrap
    · exact slot_ne_of_same_lap less (by omega) lap
    have before := Nat.div_le_div_right (c := wrap) less.le
    have early := Nat.div_le_div_right (c := wrap) low
    have late : j / wrap ≤ first / wrap + 1 := by
      rw [← Nat.lt_succ_iff, Nat.div_lt_iff_lt_mul room, Nat.succ_mul, Nat.add_mul,
        Nat.mul_comm (first / wrap)]
      omega
    have next : i / wrap + 1 = j / wrap := by omega
    rw [Ne, slot_eq_iff_of_next_lap next less]
    intro same
    have behind := Nat.div_mul_le_self j wrap
    rw [← next, show i / wrap = first / wrap by omega, Nat.add_mul,
      Nat.mul_comm (first / wrap)] at behind
    have distance : j - i = wrap % size := by
      rw [← Nat.mod_eq_of_lt (show j - i < size by omega)]
      exact same
    omega

theorem Holds.mono (holds : Holds wrap size cells all first last) (low : first ≤ first')
    (high : last' ≤ last) : Holds wrap size cells all first' last' :=
  fun i above below => holds i (low.trans above) (lt_of_lt_of_le below high)

/-- The cells hold what is before a place also of a longer sequence. -/
theorem Holds.append (holds : Holds wrap size cells all first last) (known : last ≤ all.length)
    (more : List α) : Holds wrap size cells (all ++ more) first last := by
  intro i above below
  rw [List.getElem?_append_left (lt_of_lt_of_le below known)]
  exact holds i above below

/-- The next place is written to its cell. -/
theorem Holds.set (holds : Holds wrap size cells all first last) (cellCount : cells.length = size)
    (positive : 0 < size) (apart : Apart wrap size first (last + 1)) (next : all[last]? = some x) :
    Holds wrap size (cells.set (slot wrap size last) x) all first (last + 1) := by
  intro i above below
  by_cases same : i = last
  · subst same
    rw [next, List.getElem?_set_self (by rw [cellCount]; exact slot_lt positive _)]
  · have earlier : i < last := by omega
    rw [List.getElem?_set_ne (apart i last above earlier (Nat.lt_succ_self _)).symm]
    exact holds i above earlier

end Ring

end EdgeKvm.Lib
