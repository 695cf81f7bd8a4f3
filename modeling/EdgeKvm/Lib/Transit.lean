import Mathlib.Logic.Basic

/-!
# What is on its way over a link

A first-in first-out queue, seen from its receiver. `Replays` follows a receiver through the
frames in the queue, each of which must be one it expects where it comes; `heading` is the
value the receiver holds once it has taken in every frame that carries one.
-/

namespace EdgeKvm.Lib

variable {σ φ α : Type}

/-! ## Replaying a queue -/

/-- The frames of a queue lead from one state to another, each by a step that `advance` allows. -/
inductive Replays (advance : σ → φ → σ → Prop) : σ → List φ → σ → Prop
  | nil {s : σ} : Replays advance s [] s
  | cons {s m t : σ} {f : φ} {queue : List φ} (first : advance s f m)
      (rest : Replays advance m queue t) : Replays advance s (f :: queue) t

namespace Replays

variable {advance : σ → φ → σ → Prop} {s t u : σ} {queue out : List φ}

/-- The sender went on to `u` and put what leads there into the queue. -/
theorem push (replays : Replays advance s queue t) (sent : Replays advance t out u) :
    Replays advance s (queue ++ out) u := by
  induction replays with
  | nil => exact sent
  | cons first rest ih => exact .cons first (ih sent)

theorem single {f : φ} (step : advance s f t) : Replays advance s [f] t := .cons step .nil

/-- Frames that change nothing. -/
theorem idle (still : ∀ f ∈ out, advance t f t) : Replays advance t out t := by
  induction out with
  | nil => exact .nil
  | cons f out ih =>
    exact .cons (still f List.mem_cons_self) (ih fun g member => still g (.tail _ member))

/-- A measure that no frame lowers. -/
theorem measure_le (measure : σ → Nat)
    (grows : ∀ s f t, advance s f t → measure s ≤ measure t)
    (replays : Replays advance s queue t) : measure s ≤ measure t := by
  induction replays with
  | nil => exact Nat.le_refl _
  | cons first rest ih => exact Nat.le_trans (grows _ _ _ first) ih

end Replays

/-! ## The value at the end of a queue -/

section Heading

variable {carries : φ → Option α} {own : α} {queue out : List φ} {f : φ}

/-- The value of a receiver that holds `own` once `queue` is drained. -/
def heading (carries : φ → Option α) (own : α) (queue : List φ) : α :=
  (queue.filterMap carries).getLastD own

@[simp] theorem heading_nil : heading carries own [] = own := rfl

@[simp] theorem heading_cons :
    heading carries own (f :: queue) = heading carries ((carries f).getD own) queue := by
  unfold heading
  cases carried : carries f with
  | none => simp [carried]
  | some value => rw [List.filterMap_cons_some carried, List.getLastD_cons, Option.getD_some]

@[simp] theorem heading_append :
    heading carries own (queue ++ out) = heading carries (heading carries own queue) out := by
  induction queue generalizing own with
  | nil => rfl
  | cons f queue ih => simp [ih]

end Heading

end EdgeKvm.Lib
