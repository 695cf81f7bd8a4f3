import Mathlib.Logic.Basic

/-!
# Two sides

The two ends of a link, for systems of two parties that run the same program.
-/

namespace EdgeKvm.Lib

inductive Side where
  | first
  | second
  deriving DecidableEq, Repr

namespace Side

def other : Side → Side
  | first => second
  | second => first

@[simp] theorem other_other (n : Side) : n.other.other = n := by cases n <;> rfl

@[simp] theorem other_ne (n : Side) : n.other ≠ n := by cases n <;> decide

@[simp] theorem ne_other (n : Side) : n ≠ n.other := by cases n <;> decide

theorem eq_or_other (n m : Side) : m = n ∨ m = n.other := by
  cases n <;> cases m <;> simp [other]

/-- What holds of one side and of the other holds of both. -/
theorem forall_of_other {P : Side → Prop} (n : Side) (mine : P n) (theirs : P n.other) (m : Side) :
    P m := by
  obtain rfl | rfl := eq_or_other n m
  · exact mine
  · exact theirs

end Side

end EdgeKvm.Lib
