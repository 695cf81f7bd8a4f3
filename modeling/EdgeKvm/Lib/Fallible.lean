import Mathlib.Logic.Basic
import Mathlib.Tactic.GCongr.Core

/-!
# Fallible computations

`Except` in the shape of a checked routine: a guard that fails with a message, and what a
successful sequence of fallible steps says about each of them.
-/

namespace EdgeKvm.Lib

variable {ε α β : Type}

/-- Fails with `message` unless `p` holds. -/
def ensure (p : Prop) [Decidable p] (message : ε) : Except ε Unit :=
  if p then .ok () else .error message

@[simp] theorem ensure_eq_ok {p : Prop} [Decidable p] {message : ε} {u : Unit} :
    ensure p message = .ok u ↔ p := by
  by_cases hp : p <;> simp [ensure, hp]

/-- A sequence succeeds when its first step does and the rest does on its result. -/
@[simp] theorem bind_eq_ok {x : Except ε α} {f : α → Except ε β} {b : β} :
    (x >>= f) = .ok b ↔ ∃ a, x = .ok a ∧ f a = .ok b := by
  cases x <;> simp [bind, Except.bind]

/-- A check comes before the rest. -/
theorem unit_bind_eq_ok {x : Except ε Unit} {f : Unit → Except ε β} {b : β} :
    (x >>= f) = .ok b ↔ x = .ok () ∧ f () = .ok b := by
  simp only [bind_eq_ok]
  exact ⟨fun ⟨_, checked, rest⟩ => ⟨checked, rest⟩, fun ⟨checked, rest⟩ => ⟨(), checked, rest⟩⟩

@[simp] theorem pure_eq_ok {a b : α} : (pure a : Except ε α) = .ok b ↔ a = b := by
  simp [pure, Except.pure]

@[simp] theorem map_eq_ok {f : α → β} {x : Except ε α} {b : β} :
    x.map f = .ok b ↔ ∃ a, x = .ok a ∧ f a = b := by
  cases x <;> simp [Except.map]

@[simp] theorem toOption_eq_some {x : Except ε α} {a : α} :
    x.toOption = some a ↔ x = .ok a := by
  cases x <;> simp [Except.toOption]

theorem mapError_eq_ok {ε' : Type} {f : ε → ε'} {x : Except ε α} {a : α} :
    x.mapError f = .ok a ↔ x = .ok a := by
  cases x with
  | error e => exact ⟨fun mapped => (by cases mapped), fun same => (by cases same)⟩
  | ok b => exact ⟨fun mapped => (by cases mapped; rfl), fun same => (by cases same; rfl)⟩

theorem isOk_eq_true {ε : Type} {x : Except ε Unit} (ok : x.isOk = true) : x = .ok () := by
  cases x with
  | error e => cases ok
  | ok a => rfl

theorem isOk_eq_false {ε : Type} {x : Except ε Unit} (failed : x ≠ .ok ()) : x.isOk = false := by
  cases x with
  | error e => rfl
  | ok a => exact absurd rfl failed

end EdgeKvm.Lib
