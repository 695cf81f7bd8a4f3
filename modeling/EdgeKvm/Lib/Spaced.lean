import Mathlib.Data.List.Basic
import Mathlib.Tactic.Ring

/-!
# Spaced instants

Instants of which only the first few may be close together. The list has the newest first.
-/

namespace EdgeKvm.Lib

/-- The instants ascend from the last to the first, and each that comes after `free` others comes
    at least `spacing` after the one before it. -/
def Spaced (free spacing : Nat) : List Nat → Prop
  | [] => True
  | time :: earlier =>
    (∀ last ∈ earlier.head?, last ≤ time ∧ (free ≤ earlier.length → last + spacing ≤ time)) ∧
      Spaced free spacing earlier

/-- The instants of a span of time, both ends included. -/
def within (start span : Nat) (times : List Nat) : List Nat :=
  times.filter fun time => start ≤ time ∧ time ≤ start + span

namespace Spaced

variable {free spacing start span time : Nat} {times earlier : List Nat}

theorem tail (spaced : Spaced free spacing (time :: earlier)) : Spaced free spacing earlier :=
  spaced.2

/-- The newest instant is the latest. -/
theorem le_newest (spaced : Spaced free spacing (time :: earlier)) :
    ∀ old ∈ earlier, old ≤ time := by
  induction earlier generalizing time with
  | nil => intro old found; cases found
  | cons last older ih =>
    have latest : last ≤ time := (spaced.1 last rfl).1
    intro old found
    rcases List.mem_cons.mp found with rfl | found
    · exact latest
    · exact le_trans (ih spaced.tail old found) latest

theorem within_cons_of_late (late : start + span < time) :
    within start span (time :: earlier) = within start span earlier := by
  have out : ¬ (start ≤ time ∧ time ≤ start + span) := by omega
  simp [within, out]

theorem length_within_cons_le :
    (within start span (time :: earlier)).length ≤ (within start span earlier).length + 1 := by
  unfold within
  rw [List.filter_cons]
  split
  · exact le_refl _
  · exact Nat.le_succ _

/-- Old instants are not in the span. -/
theorem within_of_before (old : ∀ time ∈ times, time < start) : within start span times = [] := by
  unfold within
  refine List.filter_eq_nil_iff.mpr fun time found => ?_
  have early := old time found
  simp only [decide_eq_true_eq]
  omega

/-- From the start of a span to the newest instant there are `free` instants and one more for each
    spacing. -/
theorem length_within_le_of_newest (positive : 0 < spacing)
    (spaced : Spaced free spacing (time :: earlier)) (inside : start ≤ time) :
    (within start span (time :: earlier)).length ≤ free + (time - start) / spacing + 1 := by
  induction earlier generalizing time with
  | nil =>
    have few := List.length_filter_le (fun t => decide (start ≤ t ∧ t ≤ start + span)) [time]
    have one : (within start span [time]).length ≤ 1 := few
    exact le_trans one (Nat.le_add_left 1 _)
  | cons last older ih =>
    by_cases few : (last :: older).length < free
    · have all := List.length_filter_le (fun t => decide (start ≤ t ∧ t ≤ start + span))
        (time :: last :: older)
      rw [List.length_cons] at all
      generalize (time - start) / spacing = spacings
      unfold within
      omega
    · have gap : last + spacing ≤ time := (spaced.1 last rfl).2 (not_lt.mp few)
      have step : (within start span (time :: last :: older)).length ≤
          (within start span (last :: older)).length + 1 := length_within_cons_le
      by_cases before : last < start
      · have old : ∀ t ∈ last :: older, t < start := by
          intro t found
          rcases List.mem_cons.mp found with rfl | found
          · exact before
          · exact lt_of_le_of_lt (spaced.tail.le_newest t found) before
        rw [within_of_before old, List.length_nil, Nat.zero_add] at step
        exact le_trans step (Nat.le_add_left 1 _)
      · have sum := ih spaced.tail (not_lt.mp before)
        have later : (last - start) / spacing + 1 ≤ (time - start) / spacing := by
          rw [← Nat.add_div_right _ positive]
          exact Nat.div_le_div_right (by omega)
        omega

/-- How many of the instants a span of time can have. -/
theorem length_within_le (positive : 0 < spacing) (spaced : Spaced free spacing times) :
    (within start span times).length ≤ free + span / spacing + 1 := by
  induction times with
  | nil => exact Nat.zero_le _
  | cons time earlier ih =>
    by_cases late : start + span < time
    · rw [within_cons_of_late late]
      exact ih spaced.tail
    · by_cases inside : start ≤ time
      · have most : (within start span (time :: earlier)).length ≤
            free + (time - start) / spacing + 1 :=
          spaced.length_within_le_of_newest positive inside
        have shorter : (time - start) / spacing ≤ span / spacing :=
          Nat.div_le_div_right (by omega)
        omega
      · have old : ∀ t ∈ time :: earlier, t < start := by
          intro t found
          rcases List.mem_cons.mp found with rfl | found
          · exact not_le.mp inside
          · exact lt_of_le_of_lt (spaced.le_newest t found) (not_le.mp inside)
        rw [within_of_before old]
        exact Nat.zero_le _

end Spaced

end EdgeKvm.Lib
