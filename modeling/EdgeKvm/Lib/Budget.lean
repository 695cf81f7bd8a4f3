import EdgeKvm.Lib.Cut
import Mathlib.Data.UInt

/-!
# Shares of a counter

A counter that several owners reserve shares of and give them back to. Giving back subtracts, and
wraps around where the counter is less than the share.
-/

namespace EdgeKvm.Lib.Budget

/-- The counter after a share was given back. -/
def giveBack (used share : Nat) : Nat := (used + (UInt64.size - share)) % UInt64.size

def giveBackAll (used : Nat) (shares : List Nat) : Nat := shares.foldl giveBack used

variable {used share rest : Nat} {shares : List Nat}

/-- A share that the counter has does not wrap it around. -/
theorem giveBack_of_le (had : share ≤ used) (small : used < UInt64.size) :
    giveBack used share = used - share := by
  unfold giveBack
  have wraps : used + (UInt64.size - share) = used - share + UInt64.size := by omega
  rw [wraps, Nat.add_mod_right, Nat.mod_eq_of_lt (by omega)]

/-- What is left when all shares of a part of the counter are given back. -/
theorem giveBackAll_of_sum (sum : used = weight id shares + rest) (small : used < UInt64.size) :
    giveBackAll used shares = rest := by
  induction shares generalizing used with
  | nil => rw [sum, weight_nil, Nat.zero_add]; rfl
  | cons share shares ih =>
    rw [weight_cons, id] at sum
    have next := @giveBack_of_le used share (by omega) small
    rw [giveBackAll, List.foldl_cons, next]
    exact ih (by omega) (by omega)

end EdgeKvm.Lib.Budget
