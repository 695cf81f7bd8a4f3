import EdgeKvm.Lib.Handler

/-!
# Two handlers in lockstep

Two implementations of one protocol take the same inputs. If every input that passes a test keeps
related states related, with the same output, and every other input shows a difference, then the
two cannot be told apart by any prefix of a sequence of inputs exactly when all of its inputs pass
the test (`forM_alike_iff`).
-/

namespace EdgeKvm.Lib.Handler

variable {σ τ ω ε α : Type} {h : α → Handler σ ω ε Unit} {k : α → Handler τ ω ε Unit}

/-- Every input passes the test in the state it comes to, until one ends the loop. -/
def allInputs (test : τ → α → Bool) (k : α → Handler τ ω ε Unit) : τ → List α → Bool
  | _, [] => true
  | t, a :: as => test t a && match (k a t).result with
    | .ok _ => allInputs test k (k a t).state as
    | .error _ => true

/-- What two handlers show after the same inputs: their outputs and `shown` of their states. -/
def ShowAlike (shown : σ → τ → Prop) (h : α → Handler σ ω ε Unit) (k : α → Handler τ ω ε Unit)
    (s : σ) (t : τ) (as : List α) : Prop :=
  (forM as h s).output = (forM as k t).output ∧ shown (forM as h s).state (forM as k t).state

section Sequence

variable {a : α} {as : List α} {s : σ}

theorem forM_cons_ok (ok : (h a s).result = .ok ()) :
    (forM (a :: as) h s).output = (h a s).output ++ (forM as h (h a s).state).output ∧
      (forM (a :: as) h s).state = (forM as h (h a s).state).state := by
  simp [bind, ok]

theorem forM_cons_error {e : ε} (failed : (h a s).result = .error e) :
    (forM (a :: as) h s).output = (h a s).output ∧
      (forM (a :: as) h s).state = (h a s).state := by
  simp [bind, failed]

theorem forM_singleton :
    (forM [a] h s).output = (h a s).output ∧ (forM [a] h s).state = (h a s).state := by
  cases result : (h a s).result with
  | error e => exact forM_cons_error result
  | ok u =>
    have both : (forM [a] h s).output = (h a s).output ++ [] ∧
        (forM [a] h s).state = (h a s).state := forM_cons_ok result
    exact ⟨both.1.trans (List.append_nil _), both.2⟩

end Sequence

/-- No prefix of a sequence of inputs tells the two handlers apart exactly when every input
    passes the test where it comes. -/
theorem forM_alike_iff {valid : α → Prop} {R shown : σ → τ → Prop} {test : τ → α → Bool}
    (shows : ∀ s t, R s t → shown s t)
    (step : ∀ a s t, valid a → R s t → test t a = true →
      (h a s).output = (k a t).output ∧ (h a s).result = (k a t).result ∧
        R (h a s).state (k a t).state)
    (apart : ∀ a s t, valid a → R s t → test t a = false →
      ¬ ((h a s).output = (k a t).output ∧ shown (h a s).state (k a t).state)) :
    ∀ (as : List α) {s : σ} {t : τ}, (∀ a ∈ as, valid a) → R s t →
      ((∀ n, ShowAlike shown h k s t (as.take n)) ↔ allInputs test k t as = true) := by
  intro as
  induction as with
  | nil =>
    intro s t _ related
    simp only [List.take_nil, allInputs, iff_true]
    exact fun _ => ⟨rfl, shows s t related⟩
  | cons a as ih =>
    intro s t all related
    have valid := all a List.mem_cons_self
    have rest := fun b member => all b (List.mem_cons_of_mem a member)
    cases passes : test t a with
    | false =>
      simp only [allInputs, passes, Bool.false_and, Bool.false_eq_true, iff_false]
      intro alike
      obtain ⟨output, states⟩ := alike 1
      simp only [List.take_succ_cons, List.take_zero, forM_singleton] at output states
      exact apart a s t valid related passes ⟨output, states⟩
    | true =>
      obtain ⟨output, result, related'⟩ := step a s t valid related passes
      cases ended : (k a t).result with
      | error e =>
        rw [ended] at result
        simp only [allInputs, passes, ended, Bool.and_true, iff_true]
        intro n
        cases n with
        | zero => exact ⟨rfl, shows s t related⟩
        | succ n =>
          simp only [ShowAlike, List.take_succ_cons, forM_cons_error result,
            forM_cons_error ended]
          exact ⟨output, shows _ _ related'⟩
      | ok u =>
        rw [ended] at result
        simp only [allInputs, passes, ended, Bool.true_and]
        rw [← ih rest related']
        have tails : ∀ n, ShowAlike shown h k s t ((a :: as).take (n + 1)) ↔
            ShowAlike shown h k (h a s).state (k a t).state (as.take n) := by
          intro n
          simp only [ShowAlike, List.take_succ_cons, forM_cons_ok result, forM_cons_ok ended,
            output, List.append_cancel_left_eq]
        refine ⟨fun alike n => (tails n).mp (alike (n + 1)), fun alike n => ?_⟩
        cases n with
        | zero => exact ⟨rfl, shows s t related⟩
        | succ n => exact (tails n).mpr (alike n)

end EdgeKvm.Lib.Handler
